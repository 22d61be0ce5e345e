import Usersim.Wdf.DeviceInit

/-!
# Preprocess callbacks (`wdf.cpp`)

`_WdfDeviceInitAssignWdmIrpPreprocessCallback` knows a major function by its minor functions, which
may be null, looks at them before it compares the major function with the size of the table, and has
one place for the callbacks of all of them.

* `registrations_right_iff` — which sequences of calls are kept apart
-/

namespace Usersim.Wdf

open Lib

/-- A call, with whether its globals are right and whether it fails. -/
structure PreprocessCall where
  globals : Bool
  fault : Bool
  args : Preprocess
deriving DecidableEq, Repr

def PreprocessCall.major (c : PreprocessCall) : Nat := c.args.majorFunction.toNat

def PreprocessCall.run (c : PreprocessCall) (init : DeviceInit) : Option (DeviceInit × Status) :=
  deviceInitAssignWdmIrpPreprocessCallback init c.globals c.fault c.args

/-- An init, and what was done with it: not part of the code. -/
structure Registry where
  init : DeviceInit
  calls : List PreprocessCall
  /-- The calls that were successful. -/
  successes : List Preprocess

/-- An init, whatever else was done with it, before the first call. -/
def Registry.fresh (init : DeviceInit) : Registry where
  init := { init with
    evtDeviceWdmIrpPreprocess := 0
    minorFunctions := fun _ => 0
    numMinorFunctions := fun _ => 0 }
  calls := []
  successes := []

def Registry.step (s : Registry) (c : PreprocessCall) : Option Registry :=
  (c.run s.init).map fun (init, status) =>
    { init := init
      calls := s.calls ++ [c]
      successes := if status = statusSuccess then s.successes ++ [c.args] else s.successes }

/-! ## What should happen -/

/-- The first call for a major function. -/
def firstFor (ps : List Preprocess) (major : Nat) : Option Preprocess :=
  ps.find? fun p => p.majorFunction.toNat = major

def Recorded (init : DeviceInit) (p : Preprocess) (m : Fin irpMjMaximumFunction) : Prop :=
  init.evtDeviceWdmIrpPreprocess = p.evtDeviceWdmIrpPreprocess ∧
    init.minorFunctions m = p.minorFunctions ∧ init.numMinorFunctions m = p.numMinorFunctions

structure CallRight (s : Registry) (c : PreprocessCall) : Prop where
  /-- Whatever is found behind the table. -/
  outside : irpMjMaximumFunction ≤ c.major → ∀ behind,
    { c with args := { c.args with behind := behind } }.run s.init =
      some (s.init, statusInvalidParameter)
  recorded : ∀ init', c.run s.init = some (init', statusSuccess) →
    ∃ h : c.major < irpMjMaximumFunction, Recorded init' c.args ⟨c.major, h⟩
  again : c.globals = true → (firstFor s.successes c.major).isSome = true →
    c.run s.init = some (s.init, statusInvalidDeviceRequest)

/-- Every major function has what its own first successful call gave it, or nothing. -/
def Associated (s : Registry) : Prop :=
  ∀ m : Fin irpMjMaximumFunction,
    match firstFor s.successes m with
    | some p => Recorded s.init p m
    | none => s.init.minorFunctions m = 0 ∧ s.init.numMinorFunctions m = 0

structure RegistrationsRight (init : DeviceInit) (calls : List PreprocessCall) : Prop where
  each : Guarded Registry.step CallRight (.fresh init) calls
  associated : ∀ s, exec Registry.step (.fresh init) calls = some s → Associated s

/-- The first call for a major function that has the right globals and does not fail. -/
def firstEffective (calls : List PreprocessCall) (major : Nat) : Option Preprocess :=
  (calls.find? fun c => c.globals && !c.fault && decide (c.major = major)).map
    PreprocessCall.args

/-- It is inside of the table, and the minor functions of an earlier call for it can be seen. -/
def Seen (before : List PreprocessCall) (c : PreprocessCall) : Prop :=
  c.globals = true → c.major < irpMjMaximumFunction ∧
    ∀ p, firstEffective before c.major = some p → p.minorFunctions ≠ 0

def OneCallback (calls : List PreprocessCall) : Prop :=
  ∀ m m' p p', firstEffective calls m = some p → firstEffective calls m' = some p' →
    p.evtDeviceWdmIrpPreprocess = p'.evtDeviceWdmIrpPreprocess

variable {s s' : Registry} {c : PreprocessCall} {calls : List PreprocessCall}

/-! ## One call -/

/-- The init after a successful call. -/
def DeviceInit.register (init : DeviceInit) (p : Preprocess) (m : Fin irpMjMaximumFunction) :
    DeviceInit :=
  { init with
    evtDeviceWdmIrpPreprocess := p.evtDeviceWdmIrpPreprocess
    minorFunctions := Function.update init.minorFunctions m p.minorFunctions
    numMinorFunctions := Function.update init.numMinorFunctions m p.numMinorFunctions }

theorem run_otherGlobals (init : DeviceInit) (h : c.globals = false) :
    c.run init = some (init, statusInvalidParameter) := by
  rw [PreprocessCall.run, deviceInitAssignWdmIrpPreprocessCallback, h]
  rfl

theorem run_inside (init : DeviceInit) (hglobals : c.globals = true)
    (h : c.major < irpMjMaximumFunction) :
    c.run init =
      some (if init.minorFunctions ⟨c.major, h⟩ ≠ 0 then (init, statusInvalidDeviceRequest)
        else if c.fault then (init, statusInsufficientResources)
        else (init.register c.args ⟨c.major, h⟩, statusSuccess)) := by
  have hmajor : c.args.majorFunction.toNat < irpMjMaximumFunction := h
  simp only [PreprocessCall.run, deviceInitAssignWdmIrpPreprocessCallback, hglobals, Bool.not_true,
    Bool.false_eq_true, if_false, DeviceInit.minorFunctionsAt, dif_pos hmajor, Option.map_some]
  rfl

/-- What is behind the table decides. -/
theorem run_outside (init : DeviceInit) (hglobals : c.globals = true)
    (h : irpMjMaximumFunction ≤ c.major) :
    c.run init = c.args.behind.map fun minorFunctions =>
      (init,
        if minorFunctions ≠ 0 then statusInvalidDeviceRequest else statusInvalidParameter) := by
  have hmajor : ¬ c.args.majorFunction.toNat < irpMjMaximumFunction := Nat.not_lt.mpr h
  simp only [PreprocessCall.run, deviceInitAssignWdmIrpPreprocessCallback, hglobals, Bool.not_true,
    Bool.false_eq_true, if_false, DeviceInit.minorFunctionsAt, dif_neg hmajor]
  refine congrArg (Option.map · c.args.behind) (funext fun minorFunctions => ?_)
  by_cases hnull : minorFunctions ≠ 0
  · rw [if_pos hnull, if_pos hnull]
  · rw [if_neg hnull, if_neg hnull]

theorem recorded_register (init : DeviceInit) (p : Preprocess) (m : Fin irpMjMaximumFunction) :
    Recorded (init.register p m) p m :=
  ⟨rfl, Function.update_self .., Function.update_self ..⟩

/-! ## First calls -/

def PreprocessCall.effective (c : PreprocessCall) : Bool := c.globals && !c.fault

theorem firstEffective_append (calls : List PreprocessCall) (c : PreprocessCall) (m : Nat) :
    firstEffective (calls ++ [c]) m = (firstEffective calls m).or
      (if c.effective = true ∧ c.major = m then some c.args else none) := by
  rw [firstEffective, List.find?_append, firstEffective]
  cases calls.find? fun c => c.globals && !c.fault && decide (c.major = m) with
  | some c' => rfl
  | none =>
    rw [Option.none_or, Option.map_none, Option.none_or, List.find?_singleton]
    by_cases h : c.effective = true ∧ c.major = m
    · rw [if_pos h, if_pos (by simpa [PreprocessCall.effective] using h)]
      rfl
    · rw [if_neg h, if_neg (by simpa [PreprocessCall.effective] using h)]
      rfl

theorem firstFor_append (ps : List Preprocess) (p : Preprocess) (m : Nat) :
    firstFor (ps ++ [p]) m =
      (firstFor ps m).or (if p.majorFunction.toNat = m then some p else none) := by
  rw [firstFor, List.find?_append, List.find?_singleton, firstFor]
  simp only [decide_eq_true_eq]

/-- The table has what the first effective calls gave it, and each success is
the first of its own. -/
structure Kept (s : Registry) : Prop where
  inside : ∀ m p, firstEffective s.calls m = some p → m < irpMjMaximumFunction
  first : ∀ m, firstFor s.successes m = firstEffective s.calls m
  table : ∀ m : Fin irpMjMaximumFunction,
    s.init.minorFunctions m = ((firstEffective s.calls m).map Preprocess.minorFunctions).getD 0 ∧
      s.init.numMinorFunctions m =
        ((firstEffective s.calls m).map Preprocess.numMinorFunctions).getD 0
  last : ∀ p, s.successes.getLast? = some p →
    s.init.evtDeviceWdmIrpPreprocess = p.evtDeviceWdmIrpPreprocess ∧
      firstFor s.successes p.majorFunction.toNat = some p

theorem kept_fresh (init : DeviceInit) : Kept (.fresh init) :=
  ⟨nofun, fun _ => rfl, fun _ => ⟨rfl, rfl⟩, nofun⟩

/-- A call that is seen either changes nothing, or is the first one for its major function. -/
theorem step_cases (hk : Kept s) (hseen : Seen s.calls c) (hs : s.step c = some s') :
    (s'.init = s.init ∧ s'.successes = s.successes ∧
        ∀ m, firstEffective s'.calls m = firstEffective s.calls m) ∨
      c.effective = true ∧ firstEffective s.calls c.major = none ∧
        ∃ h : c.major < irpMjMaximumFunction, s'.init = s.init.register c.args ⟨c.major, h⟩ ∧
          s'.successes = s.successes ++ [c.args] := by
  obtain ⟨⟨init, status⟩, hrun, rfl⟩ := Option.map_eq_some_iff.mp hs
  simp only [firstEffective_append]
  by_cases heffective : c.effective = true
  · obtain ⟨hglobals, hfault⟩ : c.globals = true ∧ c.fault = false := by
      simpa [PreprocessCall.effective] using heffective
    obtain ⟨hinside, hminor⟩ := hseen hglobals
    rw [run_inside s.init hglobals hinside, (hk.table ⟨c.major, hinside⟩).1, hfault] at hrun
    cases hfirst : firstEffective s.calls c.major with
    | none =>
      rw [hfirst] at hrun
      cases hrun
      exact .inr ⟨heffective, rfl, hinside, rfl, rfl⟩
    | some p =>
      rw [hfirst] at hrun
      rw [Option.map_some, Option.getD_some, if_pos (hminor p hfirst)] at hrun
      cases hrun
      refine .inl ⟨rfl, if_neg (by decide), fun m => ?_⟩
      by_cases hm : c.major = m
      · rw [← hm, hfirst, Option.some_or]
      · rw [if_neg (fun h => hm h.2), Option.or_none]
  · have hsame : init = s.init ∧ status ≠ statusSuccess := by
      by_cases hglobals : c.globals = true
      · have hfault : c.fault = true := by
          simpa [PreprocessCall.effective, hglobals] using heffective
        rw [run_inside s.init hglobals (hseen hglobals).1, if_pos hfault] at hrun
        split at hrun
        · cases hrun
          exact ⟨rfl, by decide⟩
        · cases hrun
          exact ⟨rfl, by decide⟩
      · rw [run_otherGlobals s.init (Bool.eq_false_iff.mpr hglobals)] at hrun
        cases hrun
        exact ⟨rfl, by decide⟩
    refine .inl ⟨hsame.1, if_neg hsame.2, fun m => ?_⟩
    rw [if_neg (fun h => heffective h.1), Option.or_none]

theorem calls_step (hs : s.step c = some s') : s'.calls = s.calls ++ [c] := by
  obtain ⟨_, -, rfl⟩ := Option.map_eq_some_iff.mp hs
  rfl

theorem kept_step (hk : Kept s) (hseen : Seen s.calls c) (hs : s.step c = some s') : Kept s' := by
  rcases step_cases hk hseen hs with ⟨hinit, hsuccesses, hfirst⟩ |
    ⟨heffective, hnone, hinside, hinit, hsuccesses⟩
  · refine ⟨fun m => ?_, fun m => ?_, fun m => ?_, ?_⟩
    · rw [hfirst]
      exact hk.inside m
    · rw [hsuccesses, hfirst, hk.first]
    · rw [hinit, hfirst]
      exact hk.table m
    · rw [hsuccesses, hinit]
      exact hk.last
  · have hcalls : ∀ m, firstEffective s'.calls m =
        if c.major = m then some c.args else firstEffective s.calls m := by
      intro m
      rw [calls_step hs, firstEffective_append]
      by_cases hm : c.major = m
      · rw [if_pos ⟨heffective, hm⟩, if_pos hm, ← hm, hnone, Option.none_or]
      · rw [if_neg (fun h => hm h.2), if_neg hm, Option.or_none]
    have hfor : ∀ m, firstFor s'.successes m =
        if c.major = m then some c.args else firstEffective s.calls m := by
      intro m
      rw [hsuccesses, firstFor_append, hk.first]
      show (firstEffective s.calls m).or (if c.major = m then some c.args else none) = _
      by_cases hm : c.major = m
      · rw [if_pos hm, if_pos hm, ← hm, hnone, Option.none_or]
      · rw [if_neg hm, if_neg hm, Option.or_none]
    refine ⟨fun m p hp => ?_, fun m => (hfor m).trans (hcalls m).symm, fun m => ?_, fun p hp => ?_⟩
    · rw [hcalls] at hp
      split at hp
      · rename_i hm
        exact hm ▸ hinside
      · exact hk.inside m p hp
    · rw [hinit, hcalls]
      by_cases hm : c.major = m
      · obtain rfl : (⟨c.major, hinside⟩ : Fin irpMjMaximumFunction) = m := Fin.ext hm
        rw [if_pos rfl]
        exact (recorded_register ..).2
      · have hne : m ≠ ⟨c.major, hinside⟩ := fun h => hm (congrArg Fin.val h).symm
        rw [if_neg hm]
        exact ⟨(Function.update_of_ne hne ..).trans (hk.table m).1,
          (Function.update_of_ne hne ..).trans (hk.table m).2⟩
    · rw [hsuccesses, List.getLast?_concat] at hp
      cases hp
      refine ⟨by rw [hinit]; rfl, ?_⟩
      exact (hfor c.major).trans (if_pos rfl)

theorem callRight_iff (hk : Kept s) (c : PreprocessCall) : CallRight s c ↔ Seen s.calls c := by
  constructor
  · intro h hglobals
    have hinside : c.major < irpMjMaximumFunction := by
      by_contra hout
      have hbehind := h.outside (Nat.not_lt.mp hout) none
      have hnone := run_outside (c := { c with args := { c.args with behind := none } }) s.init
        hglobals (Nat.not_lt.mp hout)
      cases hnone.symm.trans hbehind
    refine ⟨hinside, fun p hp hnull => ?_⟩
    have hagain := h.again hglobals (by rw [hk.first, hp]; rfl)
    rw [run_inside s.init hglobals hinside, (hk.table ⟨c.major, hinside⟩).1, hp, Option.map_some,
      Option.getD_some, if_neg (not_not_intro hnull)] at hagain
    split at hagain
    · exact absurd (Prod.mk.inj (Option.some.inj hagain)).2 (by decide)
    · exact absurd (Prod.mk.inj (Option.some.inj hagain)).2 (by decide)
  · intro hseen
    by_cases hglobals : c.globals = true
    · obtain ⟨hinside, hminor⟩ := hseen hglobals
      refine ⟨fun hout => absurd hinside (Nat.not_lt.mpr hout), fun init' hinit' => ?_,
        fun _ hagain => ?_⟩
      · rw [run_inside s.init hglobals hinside, Option.some.injEq] at hinit'
        split at hinit'
        · exact absurd (Prod.mk.inj hinit').2 (by decide)
        · split at hinit'
          · exact absurd (Prod.mk.inj hinit').2 (by decide)
          · cases hinit'
            exact ⟨hinside, recorded_register ..⟩
      · obtain ⟨p, hp⟩ := Option.isSome_iff_exists.mp hagain
        rw [hk.first] at hp
        rw [run_inside s.init hglobals hinside, (hk.table ⟨c.major, hinside⟩).1, hp,
          Option.map_some, Option.getD_some, if_pos (hminor p hp)]
    · have hother := Bool.eq_false_iff.mpr hglobals
      refine ⟨fun _ behind => run_otherGlobals s.init hother, fun init' hinit' => ?_,
        fun h => absurd h hglobals⟩
      rw [run_otherGlobals s.init hother] at hinit'
      cases hinit'

/-! ## Every sequence -/

theorem exists_step (hseen : Seen s.calls c) : ∃ s', s.step c = some s' := by
  by_cases hglobals : c.globals = true
  · rw [Registry.step, run_inside s.init hglobals (hseen hglobals).1]
    exact ⟨_, rfl⟩
  · rw [Registry.step, run_otherGlobals s.init (Bool.eq_false_iff.mpr hglobals)]
    exact ⟨_, rfl⟩

theorem associated_iff (hk : Kept s) : Associated s ↔ OneCallback s.calls := by
  constructor
  · intro h m m' p p' hp hp'
    have hm := h ⟨m, hk.inside m p hp⟩
    have hm' := h ⟨m', hk.inside m' p' hp'⟩
    simp only [hk.first, hp] at hm
    simp only [hk.first, hp'] at hm'
    exact hm.1.symm.trans hm'.1
  · intro h m
    have htable := hk.table m
    cases hfirst : firstEffective s.calls m with
    | none =>
      rw [hfirst] at htable
      simp only [hk.first, hfirst]
      exact htable
    | some p =>
      rw [hfirst] at htable
      simp only [hk.first, hfirst]
      refine ⟨?_, htable⟩
      have hmem : p ∈ s.successes := List.mem_of_find?_eq_some ((hk.first m).trans hfirst)
      obtain ⟨q, hq⟩ :=
        Option.isSome_iff_exists.mp (List.getLast?_isSome.mpr (List.ne_nil_of_mem hmem))
      obtain ⟨hevt, hown⟩ := hk.last q hq
      exact hevt.trans (h _ _ q p ((hk.first _).symm.trans hown) hfirst)

/--
For every sequence of calls on an init without a preprocess callback: every call returns what it
should and every major function keeps what its first successful call gave it, if and only if no call
goes outside of the table, the minor functions of the first call for a major function are not null
if there is another one, and all first calls have the same callback.
-/
theorem registrations_right_iff (init : DeviceInit) (calls : List PreprocessCall) :
    RegistrationsRight init calls ↔
      (∀ before c after, calls = before ++ c :: after → Seen before c) ∧ OneCallback calls := by
  have heach : Guarded Registry.step CallRight (.fresh init) calls ↔
      Guarded Registry.step (fun s c => Seen s.calls c) (.fresh init) calls :=
    guarded_iff_of_invariant (fun s c hk => callRight_iff hk c)
      (fun s c s' hk hseen hs => kept_step hk hseen hs) (kept_fresh init)
  have hhistory : Guarded Registry.step (fun s c => Seen s.calls c) (.fresh init) calls ↔
      ∀ before c after, calls = before ++ c :: after → Seen before c :=
    guarded_history_iff Registry.calls Seen (fun _ _ _ hs => calls_step hs)
      (fun _ _ hseen => exists_step hseen)
  have hend : Guarded Registry.step (fun s c => Seen s.calls c) (.fresh init) calls →
      ((∀ s, exec Registry.step (.fresh init) calls = some s → Associated s) ↔
        OneCallback calls) := by
    intro hseen
    obtain ⟨s, hs⟩ := exists_exec_of_guarded (fun _ _ h => exists_step h) hseen
    have hk : Kept s := exec_invariant_of_guard
      (fun _ _ _ hk hseen hs => kept_step hk hseen hs) (kept_fresh init) hseen hs
    have hcalls : s.calls = calls := history_exec Registry.calls (fun _ _ _ hs => calls_step hs) hs
    have hassociated := associated_iff hk
    rw [hcalls] at hassociated
    rw [← hassociated]
    constructor
    · exact fun h => h s hs
    · intro h s' hs'
      obtain rfl : s = s' := Option.some.inj (hs.symm.trans hs')
      exact h
  constructor
  · intro h
    have hseen := heach.mp h.each
    exact ⟨hhistory.mp hseen, (hend hseen).mp h.associated⟩
  · rintro ⟨hseen, hcallback⟩
    have hguarded := hhistory.mpr hseen
    exact ⟨heach.mpr hguarded, (hend hguarded).mpr hcallback⟩

/-- A call without minor functions. -/
def withoutMinor (evtDeviceWdmIrpPreprocess : Pointer) (majorFunction : BitVec 8) :
    PreprocessCall where
  globals := true
  fault := false
  args := ⟨evtDeviceWdmIrpPreprocess, majorFunction, 0, 0, some 0⟩

/-- A call for major function 0 with one minor function. The number is right behind the table. -/
def withOneMinor : PreprocessCall where
  globals := true
  fault := false
  args := ⟨0x1000, 0, 0x5000, 1, some 1⟩

/-- A call for a major function that is too large, after the one before. -/
def tooLarge : PreprocessCall where
  globals := true
  fault := false
  args := ⟨0x1000, 0x1b, 0, 0, some 1⟩

/-- The same major function twice, another one with a callback of its own, and one that is too
large. -/
theorem registrations_confused :
    (((withoutMinor 0x1000 3).run .zero).bind fun r => (withoutMinor 0x1000 3).run r.1).map
          Prod.snd = some statusSuccess ∧
      ¬ RegistrationsRight .zero [withoutMinor 0x1000 3, withoutMinor 0x1000 3] ∧
      ((exec Registry.step (.fresh .zero) [withoutMinor 0x1000 3, withoutMinor 0x2000 4]).map
          fun s => s.init.evtDeviceWdmIrpPreprocess) = some 0x2000 ∧
      ¬ RegistrationsRight .zero [withoutMinor 0x1000 3, withoutMinor 0x2000 4] ∧
      ((withOneMinor.run .zero).bind fun r => tooLarge.run r.1).map Prod.snd =
          some statusInvalidDeviceRequest ∧
      ¬ RegistrationsRight .zero [withOneMinor, tooLarge] := by
  refine ⟨by decide, fun h => ?_, by decide, fun h => ?_, by decide, fun h => ?_⟩
  · have hagain := (h.each.2 _ rfl).1.again rfl (by decide)
    exact absurd (congrArg (Option.map Prod.snd) hagain) (by decide)
  · have hrecorded : Recorded _ (withoutMinor 0x1000 3).args ⟨3, by decide⟩ :=
      h.associated _ rfl ⟨3, by decide⟩
    exact absurd hrecorded.1 (by decide)
  · have houtside := (h.each.2 _ rfl).1.outside (by decide) none
    cases houtside

end Usersim.Wdf
