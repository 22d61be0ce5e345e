import Usersim.Cxplat.Atomic

/-!
# Modules under test

With fault injection on, every successful `cxplat_initialize` should add its caller to the modules
under test and every `cxplat_cleanup` should take it out again. Four paths have to agree on it, and
the last cleanup does not: it removes no module, and the singleton outlives it, so that the next
first initialization does not add its caller either.

* `modules_match_initializations` — the modules under test are the callers that are initialized,
  after every call of a sequence, if and only if every call is `Counted`
-/

namespace Usersim.Cxplat

open Lib

/-! ## Sequences of calls -/

/-- The module that makes a call; `_cxplat_get_caller_module` may not find it, and the module of the
process is taken then. -/
structure Caller where
  module : Module
  found : Bool
deriving DecidableEq, Repr

variable (process : Module)

def Caller.resolved (c : Caller) : Module := if c.found then c.module else process

inductive Call where
  | cxplatInitialize (caller : Caller) (leakDetection : List Char) (f : Failures)
  | cxplatCleanup (caller : Caller) (removeFails : Bool)
deriving DecidableEq, Repr

/-- The state, with the successful initializations of each module less its cleanups, which are not
part of the code. -/
structure Run where
  state : State
  balance : Module → Int

/-- Nothing is initialized; fault injection may have been started already. -/
def Run.init (started : Bool) : Run where
  state := { State.init with faultInjection := if started then some .new else none }
  balance := fun _ => 0

def Run.add (r : Run) (m : Module) (n : Int) : Module → Int :=
  Function.update r.balance m (r.balance m + n)

variable (simulation : List Char)

/-- The state and the status after an initialization. -/
def Run.tryInitialize (r : Run) (c : Caller) (leakDetection : List Char) (f : Failures) :
    State × Status :=
  cxplatInitialize ⟨simulation, leakDetection⟩ (c.resolved process) f r.state

def step (r : Run) : Call → Option Run
  | .cxplatInitialize caller leakDetection f =>
    let res := r.tryInitialize process simulation caller leakDetection f
    some { state := res.1
           balance := if res.2 = .success then r.add caller.module 1 else r.balance }
  | .cxplatCleanup caller removeFails =>
    (cxplatCleanup (caller.resolved process) removeFails r.state).map fun s =>
      { state := s, balance := r.add caller.module (-1) }

/-! ## The specification -/

/-- The count of a module in `_modules_under_test`. -/
def State.underTest (s : State) (m : Module) : Nat :=
  match s.faultInjection with
  | none => 0
  | some x => x.modulesUnderTest m

def ModulesOk (r : Run) : Prop := ∀ m, (r.state.underTest m : Int) = r.balance m

/-- The call leaves the modules as they should be; an initialization that fails changes neither the
modules nor the count. -/
def ModulesCall (r : Run) (c : Call) : Prop :=
  ∀ r', step process simulation r c = some r' → ModulesOk r' ∧
    ∀ caller leakDetection f, c = .cxplatInitialize caller leakDetection f →
      (r.tryInitialize process simulation caller leakDetection f).2 ≠ .success →
      r'.state.underTest = r.state.underTest ∧
        r'.state.initializationCount = r.state.initializationCount

/-- The step that fails comes before the caller's module is added. -/
def FailurePoint.beforeModule : FailurePoint → Bool
  | .environment | .symbolDecoder | .faultInjection | .addModule => true
  | .leakDetector | .processorInfo | .processorTable | .tableRegister | .bufferFree | .rundown
  | .threadPool | .tableFree => false

/-- A first initialization succeeds, and starts fault injection. Or it fails before it has added the
module, or without having started fault injection. -/
def CountedFirst (r : Run) (caller : Caller) : Option FailurePoint → Prop
  | none => r.state.faultInjection = none ∧ caller.resolved process = caller.module
  | some x => x.beforeModule = true ∨ r.state.faultInjection ≠ none

/-- A later initialization finds its caller, or fails. -/
def CountedLater (caller : Caller) (f : Failures) : Prop :=
  f.addModule = true ∨ caller.resolved process = caller.module

/-- A cleanup is not the last one, and removes its caller, which is initialized. -/
def CountedCleanup (r : Run) (caller : Caller) (removeFails : Bool) : Prop :=
  r.state.initializationCount ≠ 1 ∧ removeFails = false ∧
    caller.resolved process = caller.module ∧ 0 < r.balance caller.module

def Counted (r : Run) : Call → Prop
  | .cxplatInitialize caller leakDetection f =>
    if r.state.initializationCount = 0 then
      CountedFirst process r caller (failurePoint ⟨simulation, leakDetection⟩ f r.state)
    else CountedLater process caller f
  | .cxplatCleanup caller removeFails =>
    r.state.initializationCount ≠ 0 → CountedCleanup process r caller removeFails

/-! ## Counts -/

variable {u : Module → Nat} {b : Module → Int} {m n : Module}

/-- One module is added, and one is counted. -/
theorem added_iff (h : ∀ m, (u m : Int) = b m) :
    (∀ k, (Function.update u m (u m + 1) k : Int) = Function.update b n (b n + 1) k) ↔ m = n := by
  constructor
  · intro hall
    by_contra hne
    have hn := hall n
    rw [Function.update_self, Function.update_of_ne (Ne.symm hne)] at hn
    have hbal := h n
    omega
  · rintro rfl k
    have hk := h k
    by_cases heq : k = m
    · subst heq
      rw [Function.update_self, Function.update_self]
      omega
    · rw [Function.update_of_ne heq, Function.update_of_ne heq]
      exact hk

/-- None is changed, but one is counted. -/
theorem not_counted (h : ∀ m, (u m : Int) = b m) {d : Int} (hd : d ≠ 0) :
    ¬ ∀ k, (u k : Int) = Function.update b n (b n + d) k := by
  intro hall
  have hn := hall n
  rw [Function.update_self] at hn
  have hbal := h n
  omega

/-- One module is removed, and one is counted out. -/
theorem removed_iff (h : ∀ m, (u m : Int) = b m) :
    (∀ k, (Function.update u m (u m - 1) k : Int) = Function.update b n (b n + -1) k) ↔
      m = n ∧ 0 < b n := by
  constructor
  · intro hall
    have hn := hall n
    have hbal := h n
    rw [Function.update_self] at hn
    by_cases heq : m = n
    · subst heq
      rw [Function.update_self] at hn
      exact ⟨rfl, by omega⟩
    · rw [Function.update_of_ne (Ne.symm heq)] at hn
      omega
  · rintro ⟨rfl, hpos⟩ k
    have hk := h k
    by_cases heq : k = m
    · subst heq
      rw [Function.update_self, Function.update_self]
      omega
    · rw [Function.update_of_ne heq, Function.update_of_ne heq]
      exact hk

/-! ## The modules after each path -/

variable {env : Environment} {f : Failures} {s : State}

theorem faultInjection_withSymbolDecoder :
    (withSymbolDecoder env s).faultInjection = s.faultInjection := by
  unfold withSymbolDecoder
  split <;> rfl

theorem underTest_congr {s s' : State} (h : s'.faultInjection = s.faultInjection) :
    s'.underTest = s.underTest := by
  funext m
  unfold State.underTest
  rw [h]

theorem underTest_of_some {x : FaultInjection} (h : s.faultInjection = some x) :
    s.underTest = x.modulesUnderTest := by
  funext m
  unfold State.underTest
  rw [h]

theorem underTest_of_none (h : s.faultInjection = none) : s.underTest = fun _ => 0 := by
  funext m
  unfold State.underTest
  rw [h]

theorem faultInjection_withLeakDetector :
    (withLeakDetector env s).faultInjection = s.faultInjection := by
  unfold withLeakDetector
  split <;> rfl

/-- A singleton that is there is not touched. -/
theorem underTest_withFaultInjection_of_some (h : s.faultInjection ≠ none) :
    (withFaultInjection env m s).underTest = s.underTest := by
  unfold withFaultInjection startsFaultInjection
  have hnone : s.faultInjection.isNone = false := by
    rw [Option.isNone_eq_false_iff, Option.isSome_iff_ne_none]
    exact h
  rw [hnone, Bool.and_false]
  rfl

/-- A new one gets the module. -/
theorem underTest_withFaultInjection_of_none (henv : env.faultInjection = true)
    (h : s.faultInjection = none) :
    (withFaultInjection env m s).underTest = Function.update s.underTest m (s.underTest m + 1) := by
  unfold withFaultInjection startsFaultInjection
  rw [henv, h, underTest_of_none h]
  rfl

/-- A failure before the module is added, or with a singleton that was there. -/
theorem underTest_endState_kept {x : FailurePoint} (hx : failurePoint env f s = some x)
    (h : x.beforeModule = true ∨ s.faultInjection ≠ none) :
    (endState env m s (some x)).underTest = s.underTest := by
  have hdecoder : (withSymbolDecoder env s).underTest = s.underTest :=
    underTest_congr faultInjection_withSymbolDecoder
  have hlate : x.beforeModule = false →
      (withFaultInjection env m (withSymbolDecoder env s)).underTest = s.underTest := by
    intro hnot
    have hsome : (withSymbolDecoder env s).faultInjection ≠ none := by
      rw [faultInjection_withSymbolDecoder]
      exact h.resolve_left (by simp [hnot])
    rw [underTest_withFaultInjection_of_some hsome, hdecoder]
  have hfeatures : x.beforeModule = false → (withFeatures env m s).underTest = s.underTest := by
    intro hnot
    rw [← hlate hnot]
    exact underTest_congr faultInjection_withLeakDetector
  cases x with
  | environment => rfl
  | symbolDecoder => rfl
  | faultInjection => exact hdecoder
  | addModule =>
    have hnone := faultInjection_eq_none (startsFaultInjection_of_addModule hx)
    rw [underTest_of_none hnone]
    rfl
  | leakDetector => exact hlate rfl
  | processorInfo | processorTable | tableRegister | bufferFree | rundown | threadPool
  | tableFree => exact hfeatures rfl

/-- With a new singleton the module is in, whether the initialization succeeds or fails later. -/
theorem underTest_endState_added (henv : env.faultInjection = true) (h : s.faultInjection = none)
    {x : Option FailurePoint} (hx : ∀ y ∈ x, y.beforeModule = false) :
    (endState env m s x).underTest = Function.update s.underTest m (s.underTest m + 1) := by
  have hnone : (withSymbolDecoder env s).faultInjection = none :=
    faultInjection_withSymbolDecoder.trans h
  have hdecoder : (withSymbolDecoder env s).underTest = s.underTest :=
    underTest_congr faultInjection_withSymbolDecoder
  have hadded := underTest_withFaultInjection_of_none (m := m) henv hnone
  rw [hdecoder] at hadded
  have hfeatures : (withFeatures env m s).underTest =
      Function.update s.underTest m (s.underTest m + 1) := by
    rw [← hadded]
    exact underTest_congr faultInjection_withLeakDetector
  cases x with
  | none => exact hfeatures
  | some y =>
    have hy := hx y rfl
    cases y with
    | environment | symbolDecoder | faultInjection | addModule => cases hy
    | leakDetector => exact hadded
    | processorInfo | processorTable | tableRegister | bufferFree | rundown | threadPool
    | tableFree => exact hfeatures

theorem underTest_endState_success (h : s.faultInjection ≠ none) :
    (endState env m s none).underTest = s.underTest := by
  have hsome : (withSymbolDecoder env s).faultInjection ≠ none := by
    rw [faultInjection_withSymbolDecoder]
    exact h
  have hdecoder : (withSymbolDecoder env s).underTest = s.underTest :=
    underTest_congr faultInjection_withSymbolDecoder
  rw [← hdecoder, ← underTest_withFaultInjection_of_some hsome]
  exact underTest_congr faultInjection_withLeakDetector

/-! ## One call -/

/-- The counts agree, and fault injection is on while something is initialized. -/
structure Inv (r : Run) : Prop where
  modules : ModulesOk r
  started : r.state.initializationCount ≠ 0 → r.state.faultInjection ≠ none

theorem inv_init (started : Bool) : Inv (Run.init started) where
  modules := by cases started <;> exact fun _ => rfl
  started := fun h => absurd rfl h

variable {process : Module} {simulation : List Char} {r r' : Run} {c : Caller}
  {leakDetection : List Char}

theorem modulesCall_success
    (h : (r.tryInitialize process simulation c leakDetection f).2 = .success) :
    ModulesCall process simulation r (.cxplatInitialize c leakDetection f) ↔
      ∀ k, ((r.tryInitialize process simulation c leakDetection f).1.underTest k : Int) =
        r.add c.module 1 k := by
  constructor
  · intro hcall
    have hok := (hcall _ rfl).1
    simp only [ModulesOk, h, if_true] at hok
    exact hok
  · intro hok r' hr'
    cases hr'
    refine ⟨?_, ?_⟩
    · simp only [ModulesOk, h, if_true]
      exact hok
    · rintro caller leak f' heq hfail
      cases heq
      exact absurd h hfail

theorem modulesCall_failure (hi : Inv r)
    (h : (r.tryInitialize process simulation c leakDetection f).2 ≠ .success) :
    ModulesCall process simulation r (.cxplatInitialize c leakDetection f) ↔
      (r.tryInitialize process simulation c leakDetection f).1.underTest = r.state.underTest ∧
        (r.tryInitialize process simulation c leakDetection f).1.initializationCount =
          r.state.initializationCount := by
  constructor
  · intro hcall
    exact (hcall _ rfl).2 c leakDetection f rfl h
  · intro hsame r' hr'
    cases hr'
    refine ⟨?_, ?_⟩
    · simp only [ModulesOk, h, if_false]
      intro k
      rw [← hi.modules k, hsame.1]
    · rintro caller leak f' heq -
      cases heq
      exact hsame

theorem modulesCall_first_iff (hi : Inv r) (hcount : r.state.initializationCount = 0)
    (hon : Environment.faultInjection ⟨simulation, leakDetection⟩ = true) :
    ModulesCall process simulation r (.cxplatInitialize c leakDetection f) ↔
      CountedFirst process r c (failurePoint ⟨simulation, leakDetection⟩ f r.state) := by
  cases hx : failurePoint ⟨simulation, leakDetection⟩ f r.state with
  | none =>
    have hres : r.tryInitialize process simulation c leakDetection f =
        (endState ⟨simulation, leakDetection⟩ (c.resolved process) r.state none).counted :=
      cxplatInitialize_success hcount hx
    have hcounted : (endState ⟨simulation, leakDetection⟩ (c.resolved process) r.state
        none).counted.1.underTest =
          (endState ⟨simulation, leakDetection⟩ (c.resolved process) r.state none).underTest :=
      underTest_congr rfl
    rw [modulesCall_success (by rw [hres]; rfl), hres, hcounted]
    by_cases hnone : r.state.faultInjection = none
    · rw [underTest_endState_added hon hnone (by simp)]
      exact (added_iff hi.modules).trans ⟨fun h => ⟨hnone, h⟩, fun h => h.2⟩
    · rw [underTest_endState_success hnone]
      exact iff_of_false (not_counted hi.modules (by decide)) fun h => hnone h.1
  | some x =>
    have hres : r.tryInitialize process simulation c leakDetection f =
        (endState ⟨simulation, leakDetection⟩ (c.resolved process) r.state (some x),
          endStatus f (some x)) :=
      cxplatInitialize_failure hcount hx
    rw [modulesCall_failure hi (by rw [hres]; exact endStatus_ne_success hx), hres]
    by_cases hkept : x.beforeModule = true ∨ r.state.faultInjection ≠ none
    · exact iff_of_true ⟨underTest_endState_kept hx hkept, endState_initializationCount _⟩ hkept
    · refine iff_of_false (fun h => ?_) hkept
      obtain ⟨hlate, hnone⟩ := not_or.mp hkept
      -- the failed initialization has left its caller's module behind
      have hadded := underTest_endState_added (m := c.resolved process) hon (not_not.mp hnone)
        (x := some x) (by simpa using hlate)
      have hone := congrFun (hadded.symm.trans h.1) (c.resolved process)
      rw [Function.update_self] at hone
      omega

theorem modulesCall_later_iff (hi : Inv r) (hcount : r.state.initializationCount ≠ 0) :
    ModulesCall process simulation r (.cxplatInitialize c leakDetection f) ↔
      CountedLater process c f := by
  obtain ⟨x, hx⟩ := Option.ne_none_iff_exists'.mp (hi.started hcount)
  by_cases hfail : f.addModule = true
  · have hres : r.tryInitialize process simulation c leakDetection f = (r.state, .noMemory) := by
      unfold Run.tryInitialize cxplatInitialize faultInjectionAddModule
      rw [if_pos (by omega), hx]
      simp [hfail, orNoMemory, andThen]
    rw [modulesCall_failure hi (by rw [hres]; exact Status.noConfusion), hres]
    exact iff_of_true ⟨rfl, rfl⟩ (.inl hfail)
  · have hres : r.tryInitialize process simulation c leakDetection f =
        ({ r.state with
          faultInjection :=
            some (addModuleUnderTest x (c.resolved process)) } : State).counted := by
      unfold Run.tryInitialize cxplatInitialize faultInjectionAddModule
      rw [if_pos (by omega), hx]
      simp [hfail, orNoMemory, andThen]
    have hadded : (r.tryInitialize process simulation c leakDetection f).1.underTest =
        Function.update r.state.underTest (c.resolved process)
          (r.state.underTest (c.resolved process) + 1) := by
      rw [hres, underTest_of_some hx]
      exact underTest_of_some (x := addModuleUnderTest x (c.resolved process)) rfl
    rw [modulesCall_success (by rw [hres]; rfl), hadded]
    exact (added_iff hi.modules).trans ⟨.inr, fun h => h.resolve_left hfail⟩

/-- The cleanup of a state, and what it leaves under test. -/
theorem modulesCall_cleanup {removeFails : Bool} {s : State}
    (h : cxplatCleanup (c.resolved process) removeFails r.state = some s) :
    ModulesCall process simulation r (.cxplatCleanup c removeFails) ↔
      ∀ k, (s.underTest k : Int) = r.add c.module (-1) k := by
  have hstep : step process simulation r (.cxplatCleanup c removeFails) =
      some { state := s, balance := r.add c.module (-1) } :=
    Option.map_eq_some_iff.mpr ⟨s, h, rfl⟩
  constructor
  · exact fun hcall => (hcall _ hstep).1
  · intro hok r' hr'
    obtain rfl := Option.some.inj (hstep.symm.trans hr')
    exact ⟨hok, fun _ _ _ heq => by cases heq⟩

theorem modulesCall_cleanup_iff (hi : Inv r) {removeFails : Bool}
    (hcount : r.state.initializationCount ≠ 0) :
    ModulesCall process simulation r (.cxplatCleanup c removeFails) ↔
      CountedCleanup process r c removeFails := by
  obtain ⟨x, hx⟩ := Option.ne_none_iff_exists'.mp (hi.started hcount)
  by_cases hlast : r.state.initializationCount = 1
  · -- the last cleanup leaves the singleton alone
    have hsome : ∃ s, cxplatCleanup (c.resolved process) removeFails r.state = some s ∧
        s.underTest = r.state.underTest := by
      unfold cxplatCleanup
      rw [if_neg hcount]
      simp only [hlast]
      exact ⟨_, rfl, underTest_congr rfl⟩
    obtain ⟨s, hs, hsame⟩ := hsome
    rw [modulesCall_cleanup hs, hsame]
    exact iff_of_false (not_counted hi.modules (by decide)) fun h => h.1 hlast
  · have hpos : 0 < r.state.initializationCount - 1 := by omega
    cases hfail : removeFails with
    | true =>
      have hsome : ∃ s, cxplatCleanup (c.resolved process) true r.state = some s ∧
          s.underTest = r.state.underTest := by
        unfold cxplatCleanup faultInjectionRemoveModule
        rw [if_neg hcount]
        simp only [hpos, if_true, hx]
        exact ⟨_, rfl, underTest_congr hx.symm⟩
      obtain ⟨s, hs, hsame⟩ := hsome
      rw [modulesCall_cleanup hs, hsame]
      exact iff_of_false (not_counted hi.modules (by decide)) fun h => by cases h.2.1
    | false =>
      have hsome : ∃ s, cxplatCleanup (c.resolved process) false r.state = some s ∧
          s.underTest = Function.update r.state.underTest (c.resolved process)
            (r.state.underTest (c.resolved process) - 1) := by
        unfold cxplatCleanup faultInjectionRemoveModule
        rw [if_neg hcount]
        simp only [hpos, if_true, hx]
        rw [underTest_of_some hx]
        exact ⟨_, rfl, underTest_of_some (x := removeModuleUnderTest x (c.resolved process)) rfl⟩
      obtain ⟨s, hs, hremoved⟩ := hsome
      rw [modulesCall_cleanup hs, hremoved]
      exact (removed_iff hi.modules).trans
        ⟨fun h => ⟨hlast, rfl, h.1, h.2⟩, fun h => h.2.2⟩

/-- A call leaves the modules as they should be just when it is counted. -/
theorem modulesCall_iff (hon : ∀ leakDetection,
      Environment.faultInjection ⟨simulation, leakDetection⟩ = true) (hi : Inv r) (x : Call) :
    ModulesCall process simulation r x ↔ Counted process simulation r x := by
  cases x with
  | cxplatInitialize c leakDetection f =>
    show _ ↔ if _ then _ else _
    split
    · next hcount => exact modulesCall_first_iff hi hcount (hon leakDetection)
    · next hcount => exact modulesCall_later_iff hi hcount
  | cxplatCleanup c removeFails =>
    by_cases hcount : r.state.initializationCount = 0
    · refine iff_of_true (fun r' hr' => ?_) fun hne => absurd hcount hne
      obtain ⟨s, hs, -⟩ := Option.map_eq_some_iff.mp hr'
      unfold cxplatCleanup at hs
      rw [if_pos hcount] at hs
      cases hs
    · exact (modulesCall_cleanup_iff hi hcount).trans ⟨fun h _ => h, fun h => h hcount⟩

/-- A first initialization that succeeds leaves fault injection on. -/
theorem faultInjection_endState_success (hon : env.faultInjection = true) :
    (endState env m s none).faultInjection ≠ none := by
  show (withFeatures env m s).faultInjection ≠ none
  unfold withFeatures
  rw [faultInjection_withLeakDetector]
  unfold withFaultInjection
  split
  · exact Option.some_ne_none _
  · next hnot =>
    rw [startsFaultInjection, hon, Bool.true_and, Option.isNone_iff_eq_none] at hnot
    exact hnot

/-- Fault injection is on while something is initialized. -/
theorem started_step (hon : ∀ leakDetection,
      Environment.faultInjection ⟨simulation, leakDetection⟩ = true) (hi : Inv r) {x : Call}
    (hstep : step process simulation r x = some r')
    (hcount : r'.state.initializationCount ≠ 0) : r'.state.faultInjection ≠ none := by
  cases x with
  | cxplatInitialize c leakDetection f =>
    cases hstep
    have hcount' : (r.tryInitialize process simulation c leakDetection f).1.initializationCount ≠
      0 := hcount
    show (r.tryInitialize process simulation c leakDetection f).1.faultInjection ≠ none
    unfold Run.tryInitialize at hcount' ⊢
    by_cases hzero : r.state.initializationCount = 0
    · cases hx : failurePoint ⟨simulation, leakDetection⟩ f r.state with
      | none =>
        rw [cxplatInitialize_success hzero hx]
        exact faultInjection_endState_success (hon leakDetection)
      | some x =>
        rw [cxplatInitialize_failure hzero hx] at hcount'
        exact absurd ((endState_initializationCount _).trans hzero) hcount'
    · obtain ⟨x, hx⟩ := Option.ne_none_iff_exists'.mp (hi.started hzero)
      unfold cxplatInitialize faultInjectionAddModule
      rw [if_pos (by omega), hx]
      cases hfail : f.addModule <;> simp [orNoMemory, andThen, State.counted, hx]
  | cxplatCleanup c removeFails =>
    obtain ⟨s, hs, rfl⟩ := Option.map_eq_some_iff.mp hstep
    unfold cxplatCleanup at hs
    split at hs
    · cases hs
    · next hne =>
      obtain ⟨x, hx⟩ := Option.ne_none_iff_exists'.mp (hi.started hne)
      simp only [faultInjectionRemoveModule, hx] at hs
      split at hs
      · cases hs
        cases removeFails <;> simp
      · cases hs
        simp

/--
With fault injection asked for throughout, for every sequence of initializations and cleanups: every
call leaves the modules as they should be if and only if every call is counted.
-/
theorem modules_match_initializations (process : Module) (simulation : List Char) (started : Bool)
    (hon : getEnvironmentVariableAsSizeT simulation ≠ 0) (calls : List Call) :
    Guarded (step process simulation) (ModulesCall process simulation) (Run.init started) calls ↔
      Guarded (step process simulation) (Counted process simulation) (Run.init started) calls := by
  have hon' : ∀ leakDetection, Environment.faultInjection ⟨simulation, leakDetection⟩ = true := by
    intro leakDetection
    simpa [Environment.faultInjection] using hon
  refine guarded_iff_of_invariant (P := Inv) ?_ ?_ (inv_init started)
  · exact fun r x hi => modulesCall_iff hon' hi x
  · intro r x r' hi hx hstep
    exact ⟨((modulesCall_iff hon' hi x).mpr hx r' hstep).1, started_step hon' hi hstep⟩

/-- A caller that is found. -/
def caller (m : Module) : Caller where
  module := m
  found := true

/-- Two modules initialize, and the one that came first cleans up. -/
def twoModules : List Call :=
  [.cxplatInitialize (caller 1) [] {}, .cxplatInitialize (caller 2) [] {},
   .cxplatCleanup (caller 1) false]

theorem modules_match_initializations_twoModules :
    Guarded (step 0 "4".toList) (ModulesCall 0 "4".toList) (Run.init false) twoModules := by
  refine (modules_match_initializations 0 "4".toList false (by decide) twoModules).mpr ?_
  refine ⟨⟨rfl, rfl⟩, fun r₁ h₁ => ?_⟩
  cases h₁
  refine ⟨Or.inr rfl, fun r₂ h₂ => ?_⟩
  cases h₂
  exact ⟨fun _ => ⟨by decide, rfl, rfl, by decide⟩, fun _ _ => trivial⟩

/-- One module initializes and cleans up. -/
def oneModule : List Call := [.cxplatInitialize (caller 1) [] {}, .cxplatCleanup (caller 1) false]

/-- Nothing is initialized any more, and the module is still under test. -/
theorem module_left_under_test :
    (∃ r, exec (step 0 "4".toList) (Run.init false) oneModule = some r ∧
      r.state.initializationCount = 0 ∧ r.state.underTest 1 = 1 ∧ r.balance 1 = 0) ∧
    ¬ Guarded (step 0 "4".toList) (ModulesCall 0 "4".toList) (Run.init false) oneModule := by
  refine ⟨⟨_, rfl, by decide, by decide, by decide⟩, fun h => ?_⟩
  have hok := ((h.2 _ rfl).1 _ rfl).1 1
  exact absurd hok (by decide)

end Usersim.Cxplat
