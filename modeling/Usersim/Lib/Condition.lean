import Mathlib.Logic.Function.Basic
import Usersim.Lib.Run

/-!
# Condition variables

The steps of a system are critical sections, and some of its threads wait in it until a predicate is
true. In the system itself a wait ends whenever its predicate is true. Here a waiter that has found
its predicate false sleeps on a condition variable; it tests again when the variable is notified, or
for no reason at all, and a waiter that sleeps does nothing. A variable is notified at the end of a
critical section or, by the thread that has left it, at some time after.

* `inv_exec` — a waiter sleeps only while its predicate is false, or a notification is on its way
* `exec_acts` — with condition variables, a system does nothing new
* `exists_exec_act` — and it does all that it can do without, after at most one notification
-/

namespace Lib.Condition

variable {σ α ω κ : Type*}

/-- What a system waits for, and whom it notifies. -/
structure Waits (σ α ω κ : Type*) where
  step : σ → α → Option σ
  /-- The waiter is in its wait. -/
  waiting : σ → ω → Bool
  /-- The predicate it tests. -/
  ready : σ → ω → Bool
  /-- The variable it sleeps on. -/
  condition : σ → ω → κ
  /-- The waiter whose step it is, if that is one. -/
  mover : α → Option ω
  /-- `notify_all` before the end of the critical section. -/
  notifies : σ → α → κ → Bool
  /-- `notify_all` after it. -/
  owes : σ → α → κ → Bool

structure Monitor (σ ω κ : Type*) where
  state : σ
  asleep : ω → Bool
  /-- A thread has left its critical section and has not notified the variable yet. -/
  owed : κ → Bool

def Monitor.init (s : σ) : Monitor σ ω κ where
  state := s
  asleep := fun _ => false
  owed := fun _ => false

inductive Act (α ω κ : Type*) where
  | act (a : α)
  /-- A waiter tests its predicate, which is false. -/
  | test (w : ω)
  /-- A waiter wakes up for no reason. -/
  | wakeUp (w : ω)
  | notify (k : κ)

/-- The critical sections among the steps. -/
def acts (bs : List (Act α ω κ)) : List α :=
  bs.filterMap fun
    | .act a => some a
    | .test _ | .wakeUp _ | .notify _ => none

/-- What a system has to see to, in the states of `P` and for the steps that meet `G`. -/
structure Notifies (W : Waits σ α ω κ) (P : σ → Prop) (G : σ → α → Prop) : Prop where
  keeps : ∀ s a s', P s → G s a → W.step s a = some s' → P s'
  /-- A waiter leaves its wait by itself, -/
  stays : ∀ s a s' w, P s → G s a → W.step s a = some s' → W.waiting s w = true →
    W.mover a ≠ some w → W.waiting s' w = true ∧ W.condition s' w = W.condition s w
  /-- and when its predicate is true. -/
  moves : ∀ s a s' w, W.step s a = some s' → W.mover a = some w → W.ready s w = true
  /-- Whoever makes a predicate true notifies. -/
  signals : ∀ s a s' w, P s → G s a → W.step s a = some s' → W.waiting s w = true →
    W.mover a ≠ some w → W.ready s w = false → W.ready s' w = true →
    W.notifies s a (W.condition s w) = true ∨ W.owes s a (W.condition s w) = true

/-- A guard of the system, for its critical sections. -/
def OnActs (G : σ → α → Prop) (m : Monitor σ ω κ) : Act α ω κ → Prop
  | .act a => G m.state a
  | .test _ | .wakeUp _ | .notify _ => True

instance (G : σ → α → Prop) [∀ s a, Decidable (G s a)] (m : Monitor σ ω κ) (b : Act α ω κ) :
    Decidable (OnActs G m b) :=
  match b with
  | .act a => inferInstanceAs (Decidable (G m.state a))
  | .test _ | .wakeUp _ | .notify _ => isTrue trivial

/-- A waiter sleeps only in its wait, while its predicate is false or a notification is owed. -/
structure Inv (W : Waits σ α ω κ) (P : σ → Prop) (m : Monitor σ ω κ) : Prop where
  holds : P m.state
  waiting : ∀ w, m.asleep w = true → W.waiting m.state w = true
  owed : ∀ w, m.asleep w = true → W.ready m.state w = true →
    m.owed (W.condition m.state w) = true

variable {W : Waits σ α ω κ} {P : σ → Prop} {G : σ → α → Prop} {m m' : Monitor σ ω κ}

theorem inv_init {s : σ} (h : P s) : Inv W P (.init s) where
  holds := h
  waiting := fun _ h => by cases h
  owed := fun _ h => by cases h

variable [DecidableEq ω] [DecidableEq κ]

def step (W : Waits σ α ω κ) (m : Monitor σ ω κ) : Act α ω κ → Option (Monitor σ ω κ)
  | .act a =>
    if (W.mover a).any m.asleep then none
    else
      (W.step m.state a).map fun s =>
        { state := s
          asleep := fun w => m.asleep w && !W.notifies m.state a (W.condition m.state w)
          owed := fun k => m.owed k || W.owes m.state a k }
  | .test w =>
    if W.waiting m.state w && !W.ready m.state w then
      some { m with asleep := Function.update m.asleep w true }
    else none
  | .wakeUp w => some { m with asleep := Function.update m.asleep w false }
  | .notify k =>
    if m.owed k then
      some { m with
        asleep := fun w => m.asleep w && W.condition m.state w != k
        owed := Function.update m.owed k false }
    else none

theorem step_act {a : α} (h : step W m (.act a) = some m') :
    (∀ w, W.mover a = some w → m.asleep w = false) ∧ ∃ s, W.step m.state a = some s ∧ m' =
      { state := s
        asleep := fun w => m.asleep w && !W.notifies m.state a (W.condition m.state w)
        owed := fun k => m.owed k || W.owes m.state a k } := by
  rw [step] at h
  split at h
  · cases h
  · rename_i hawake
    obtain ⟨s, hs, rfl⟩ := Option.map_eq_some_iff.mp h
    refine ⟨fun w hw => ?_, s, hs, rfl⟩
    simpa [hw] using hawake

theorem Inv.act (hn : Notifies W P G) (h : Inv W P m) {a : α} (hg : G m.state a)
    (hs : step W m (.act a) = some m') : Inv W P m' := by
  obtain ⟨hawake, s, hstep, rfl⟩ := step_act hs
  -- whoever still sleeps is not the mover, and its variable was not notified
  have hasleep : ∀ w, (m.asleep w && !W.notifies m.state a (W.condition m.state w)) = true →
      m.asleep w = true ∧ W.notifies m.state a (W.condition m.state w) = false ∧
        W.mover a ≠ some w := by
    intro w hw
    rw [Bool.and_eq_true, Bool.not_eq_true'] at hw
    refine ⟨hw.1, hw.2, fun hmover => ?_⟩
    rw [hawake w hmover] at hw
    exact Bool.false_ne_true hw.1
  refine ⟨hn.keeps _ _ _ h.holds hg hstep, fun w hw => ?_, fun w hw hready => ?_⟩
  · obtain ⟨hw, -, hmover⟩ := hasleep w hw
    exact (hn.stays _ _ _ _ h.holds hg hstep (h.waiting w hw) hmover).1
  · obtain ⟨hw, hquiet, hmover⟩ := hasleep w hw
    have hwaiting := h.waiting w hw
    show (m.owed _ || W.owes m.state a _) = true
    rw [(hn.stays _ _ _ _ h.holds hg hstep hwaiting hmover).2, Bool.or_eq_true]
    cases hbefore : W.ready m.state w with
    | true => exact .inl (h.owed w hw hbefore)
    | false =>
      have hsignals := hn.signals _ _ _ _ h.holds hg hstep hwaiting hmover hbefore hready
      rw [hquiet] at hsignals
      exact .inr (hsignals.resolve_left Bool.false_ne_true)

theorem inv_step (hn : Notifies W P G) (h : Inv W P m) {b : Act α ω κ} (hg : OnActs G m b)
    (hs : step W m b = some m') : Inv W P m' := by
  cases b with
  | act a => exact h.act hn hg hs
  | test w =>
    rw [step, Option.ite_none_right_eq_some] at hs
    obtain ⟨htest, hs⟩ := hs
    obtain rfl := Option.some.inj hs
    rw [Bool.and_eq_true, Bool.not_eq_true'] at htest
    refine ⟨h.holds, fun v hv => ?_, fun v hv hready => ?_⟩
    · by_cases hvw : v = w
      · rw [hvw]
        exact htest.1
      · exact h.waiting v (by simpa [hvw] using hv)
    · by_cases hvw : v = w
      · rw [hvw, htest.2] at hready
        cases hready
      · exact h.owed v (by simpa [hvw] using hv) hready
  | wakeUp w =>
    obtain rfl := Option.some.inj hs
    have hbefore : ∀ v, Function.update m.asleep w false v = true → m.asleep v = true := by
      intro v hv
      by_cases hvw : v = w
      · simp [hvw] at hv
      · simpa [hvw] using hv
    exact ⟨h.holds, fun v hv => h.waiting v (hbefore v hv), fun v hv => h.owed v (hbefore v hv)⟩
  | notify k =>
    rw [step, Option.ite_none_right_eq_some] at hs
    obtain ⟨-, hs⟩ := hs
    obtain rfl := Option.some.inj hs
    refine ⟨h.holds, fun v hv => ?_, fun v hv hready => ?_⟩
    · rw [Bool.and_eq_true] at hv
      exact h.waiting v hv.1
    · rw [Bool.and_eq_true, bne_iff_ne] at hv
      show Function.update m.owed k false _ = true
      rw [Function.update_of_ne hv.2]
      exact h.owed v hv.1 hready

/-- A waiter sleeps only while its predicate is false, or a notification is on its way. -/
theorem inv_exec (hn : Notifies W P G) {bs : List (Act α ω κ)} (h : Inv W P m)
    (hg : Guarded (step W) (OnActs G) m bs) (hs : exec (step W) m bs = some m') : Inv W P m' :=
  exec_invariant_of_guard (fun _ _ _ hinv hg hs => inv_step hn hinv hg hs) h hg hs

/-- A notification is owed only where the system has got to a point that it does not leave again. -/
theorem owed_exec {Q : σ → κ → Prop}
    (howes : ∀ s a s' k, W.step s a = some s' → W.owes s a k = true → Q s' k)
    (hkeeps : ∀ s a s' k, W.step s a = some s' → Q s k → Q s' k) {bs : List (Act α ω κ)}
    (hm : ∀ k, m.owed k = true → Q m.state k) (hs : exec (step W) m bs = some m') :
    ∀ k, m'.owed k = true → Q m'.state k := by
  refine exec_invariant (P := fun m => ∀ k, m.owed k = true → Q m.state k)
    (fun m₁ b m₂ h hs => ?_) hm hs
  cases b with
  | act a =>
    obtain ⟨-, s, hstep, rfl⟩ := step_act hs
    intro k hk
    rcases (Bool.or_eq_true _ _).mp hk with hk | hk
    · exact hkeeps _ _ _ _ hstep (h k hk)
    · exact howes _ _ _ _ hstep hk
  | test w =>
    rw [step, Option.ite_none_right_eq_some] at hs
    obtain rfl := Option.some.inj hs.2
    exact h
  | wakeUp w =>
    obtain rfl := Option.some.inj hs
    exact h
  | notify k =>
    rw [step, Option.ite_none_right_eq_some] at hs
    obtain rfl := Option.some.inj hs.2
    intro k' hk'
    refine h k' ?_
    by_cases hkk : k' = k
    · simp [hkk] at hk'
    · simpa [hkk] using hk'

/-- Where every notification is part of its critical section, none is ever owed. -/
theorem not_owed_exec (hnone : ∀ s a k, W.owes s a k = false) {bs : List (Act α ω κ)}
    (hm : ∀ k, m.owed k = false) (hs : exec (step W) m bs = some m') : ∀ k, m'.owed k = false := by
  have howed : ∀ k, m'.owed k = true → False := by
    refine owed_exec (W := W) (Q := fun _ _ => False) (fun s a _ k _ h => ?_)
      (fun _ _ _ _ _ h => h) (fun k h => ?_) hs
    · rw [hnone] at h
      cases h
    · rw [hm] at h
      cases h
  exact fun k => Bool.eq_false_iff.mpr (howed k)

/-- With condition variables, a system does nothing new. -/
theorem exec_acts {bs : List (Act α ω κ)} (hs : exec (step W) m bs = some m') :
    exec W.step m.state (acts bs) = some m'.state := by
  induction bs generalizing m with
  | nil =>
    cases hs
    rfl
  | cons b bs ih =>
    obtain ⟨m₁, h₁, h₂⟩ := exec_cons_eq_some.mp hs
    have hrest := ih h₂
    cases b with
    | act a =>
      obtain ⟨-, s, hstep, rfl⟩ := step_act h₁
      exact exec_cons_eq_some.mpr ⟨s, hstep, hrest⟩
    | test w =>
      rw [step, Option.ite_none_right_eq_some] at h₁
      obtain rfl := Option.some.inj h₁.2
      exact hrest
    | wakeUp w =>
      obtain rfl := Option.some.inj h₁
      exact hrest
    | notify k =>
      rw [step, Option.ite_none_right_eq_some] at h₁
      obtain rfl := Option.some.inj h₁.2
      exact hrest

theorem step_act_of_awake {a : α} {s : σ} (hstep : W.step m.state a = some s)
    (hawake : ∀ w, W.mover a = some w → m.asleep w = false) :
    ∃ m', step W m (.act a) = some m' ∧ m'.state = s := by
  have hany : (W.mover a).any m.asleep = false := by
    cases hmover : W.mover a with
    | none => rfl
    | some w => exact hawake w hmover
  rw [step, hany, if_neg Bool.false_ne_true, hstep]
  exact ⟨_, rfl, rfl⟩

/-- Whatever the system can do, it can do with condition variables as well, at most after a
notification that is owed. -/
theorem exists_exec_act (hn : Notifies W P G) (h : Inv W P m) {a : α} {s : σ}
    (hstep : W.step m.state a = some s) :
    ∃ before m', (before = [] ∨ ∃ k, m.owed k = true ∧ before = [.notify k]) ∧
      exec (step W) m (before ++ [.act a]) = some m' ∧ m'.state = s := by
  by_cases hawake : ∀ w, W.mover a = some w → m.asleep w = false
  · obtain ⟨m', hm', hstate⟩ := step_act_of_awake hstep hawake
    exact ⟨[], m', .inl rfl, (exec_singleton ..).trans hm', hstate⟩
  · -- the mover sleeps although its predicate is true, so it is about to be notified
    push Not at hawake
    obtain ⟨w, hmover, hasleep⟩ := hawake
    rw [ne_eq, Bool.not_eq_false] at hasleep
    have howed := h.owed w hasleep (hn.moves _ _ _ _ hstep hmover)
    obtain ⟨m', hm', hstate⟩ := step_act_of_awake (W := W) (a := a) (s := s)
      (m := { m with
        asleep := fun v => m.asleep v && W.condition m.state v != W.condition m.state w
        owed := Function.update m.owed (W.condition m.state w) false }) hstep (by
          intro v hv
          obtain rfl : w = v := Option.some.inj (hmover.symm.trans hv)
          simp)
    refine ⟨[.notify (W.condition m.state w)], m', .inr ⟨_, howed, rfl⟩, ?_, hstate⟩
    refine exec_cons_eq_some.mpr ⟨_, ?_, (exec_singleton ..).trans hm'⟩
    rw [step, if_pos howed]

end Lib.Condition
