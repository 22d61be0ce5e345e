import Usersim.Fault.Basic

/-!
# Resets

A stack goes into `_fault_hash` in one critical section and into the log file in a later one, after
its symbols have been decoded. A reset in between clears both, and the record is then written for a
stack that is not known any more. If decoding throws, the stack stays known and is never written.

* `log_agrees_with_hash` — with no call under way, the log file and `_fault_hash` hold the same
  stacks, in every run whose resets find no call between the two sections, and in which none throws
  there
-/

namespace Usersim.Fault

open Lib

variable {loaded : List Stack} {s s' : State} {t : Tid} {f : Frame} {rest : List Frame} {c : Stack}

/-- The call has inserted the stack and has yet to write it. -/
def Phase.logs (c : Stack) : Phase → Prop
  | .logging k => k.stack = c
  | .entered | .capturing | .checking _ | .done .. => False

@[simp] theorem logs_logging (k : Check) (c : Stack) : (Phase.logging k).logs c ↔ k.stack = c :=
  Iff.rfl

@[simp] theorem not_logs_done (k : Option Check) (result : Bool) (c : Stack) :
    ¬ (Phase.done k result).logs c :=
  id

/-- Some call has inserted the stack and has yet to write it. -/
def State.Unwritten (s : State) (c : Stack) : Prop := ∃ t, ∃ f ∈ s.frames t, f.phase.logs c

/-- A reset finds no call between insertion and record, and none throws there. -/
def Settled (s : State) : Action → Prop
  | .reset _ => ∀ c, ¬ s.Unwritten c
  | .throws t => ∀ f ∈ (s.frames t).head?, ∀ c, ¬ f.phase.logs c
  | .enter _ | .isRecursing _ | .capture .. | .check _ | .log _ | .returns _ => True

/-- What is known is in the log file, or about to be. -/
def Agree (s : State) : Prop := ∀ c, c ∈ s.faultHash ↔ c ∈ s.logFile ∨ s.Unwritten c

theorem agree_init (loaded : List Stack) : Agree (State.init loaded) := by
  intro c
  simp [State.init, State.Unwritten]

/-! ## Frames -/

/-- The frames of `t` change. -/
theorem unwritten_update {frames : List Frame}
    (h : s'.frames = Function.update s.frames t frames) :
    s'.Unwritten c ↔
      (∃ f ∈ frames, f.phase.logs c) ∨ ∃ u, u ≠ t ∧ ∃ f ∈ s.frames u, f.phase.logs c := by
  unfold State.Unwritten
  rw [h]
  constructor
  · rintro ⟨u, f, hf, hlogs⟩
    by_cases hut : u = t
    · subst hut
      rw [Function.update_self] at hf
      exact .inl ⟨f, hf, hlogs⟩
    · rw [Function.update_of_ne hut] at hf
      exact .inr ⟨u, hut, f, hf, hlogs⟩
  · rintro (⟨f, hf, hlogs⟩ | ⟨u, hut, f, hf, hlogs⟩)
    · refine ⟨t, f, ?_, hlogs⟩
      rw [Function.update_self]
      exact hf
    · refine ⟨u, f, ?_, hlogs⟩
      rw [Function.update_of_ne hut]
      exact hf

theorem unwritten_self (s : State) (t : Tid) :
    s.Unwritten c ↔
      (∃ f ∈ s.frames t, f.phase.logs c) ∨ ∃ u, u ≠ t ∧ ∃ f ∈ s.frames u, f.phase.logs c :=
  unwritten_update (Function.update_eq_self t s.frames).symm

/-- The frames of `t` change and have the same stacks to write. -/
theorem Agree.reframe (ha : Agree s) {frames : List Frame}
    (hframes : s'.frames = Function.update s.frames t frames)
    (hlogs : ∀ c, (∃ f ∈ frames, f.phase.logs c) ↔ ∃ f ∈ s.frames t, f.phase.logs c)
    (hhash : s'.faultHash = s.faultHash) (hlog : s'.logFile = s.logFile) : Agree s' := by
  intro c
  rw [hhash, hlog, ha c, unwritten_update hframes, hlogs, ← unwritten_self]

/-- The innermost call goes from one phase with nothing to write to another. -/
theorem Agree.rephase (ha : Agree s) (hf : s.frames t = f :: rest) {phase : Phase}
    (hold : ∀ c, ¬ f.phase.logs c) (hnew : ∀ c, ¬ phase.logs c)
    (hframes : s'.frames = Function.update s.frames t ({ f with phase := phase } :: rest))
    (hhash : s'.faultHash = s.faultHash) (hlog : s'.logFile = s.logFile) : Agree s' := by
  refine ha.reframe hframes (fun c => ?_) hhash hlog
  rw [hf]
  simp [hold c, hnew c]

theorem Agree.leave (ha : Agree s) (hf : s.frames t = f :: rest) (hold : ∀ c, ¬ f.phase.logs c)
    (check : Option Check) (result : Bool) : Agree (s.leave t f rest check result) := by
  have hframes : (s.leave t f rest check result).frames = Function.update s.frames t rest := rfl
  refine ha.reframe hframes (fun c => ?_) rfl rfl
  rw [hf]
  simp [hold c]

theorem Agree.enter (ha : Agree s) : Agree (s.enter t) := by
  refine ha.reframe rfl (fun c => ?_) rfl rfl
  simp [Phase.logs]

/-- A new stack is inserted, and is to be written. -/
theorem Agree.check (ha : Agree s) (hf : s.frames t = f :: rest) {stack : Stack}
    (hphase : f.phase = .checking stack) : Agree (s.check t f rest stack) := by
  have hold : ∀ c, ¬ f.phase.logs c := fun c => by simp [hphase, Phase.logs]
  unfold State.check
  split
  · exact ha.rephase hf hold (fun _ => id) rfl rfl rfl
  · intro c
    rw [unwritten_update (s := s) (t := t) rfl]
    show c ∈ stack :: s.faultHash ↔ _
    rw [List.mem_cons, ha c, unwritten_self s t, hf]
    simp only [List.exists_mem_cons_iff, hold c, false_or, logs_logging, eq_comm (a := stack)]
    show c = stack ∨ c ∈ s.logFile ∨ _ ↔ c ∈ s.logFile ∨ _
    rw [or_left_comm, or_assoc]

/-- The record is written. -/
theorem Agree.log (ha : Agree s) (hf : s.frames t = f :: rest) {k : Check}
    (hphase : f.phase = .logging k)
    (hframes : s'.frames =
      Function.update s.frames t ({ f with phase := .done (some k) true } :: rest))
    (hhash : s'.faultHash = s.faultHash) (hlog : s'.logFile = k.stack :: s.logFile) : Agree s' := by
  intro c
  have hlogs : f.phase.logs c ↔ c = k.stack := by
    rw [hphase]
    exact eq_comm
  rw [hhash, hlog, ha c, unwritten_update hframes, unwritten_self s t, hf, List.mem_cons]
  simp only [List.exists_mem_cons_iff, hlogs, not_logs_done, false_or]
  rw [or_assoc, or_left_comm, or_assoc]

/-! ## Steps -/

theorem agree_frameStep {a : Action} (ha : Agree s) (hf : s.frames a.thread = f :: rest)
    (hg : Settled s a) (h : frameStep s f rest a = some s') : Agree s' := by
  cases a with
  | enter t =>
    simp only [frameStep, Option.ite_none_right_eq_some, Option.some.injEq] at h
    obtain ⟨-, rfl⟩ := h
    exact ha.enter
  | isRecursing t =>
    simp only [frameStep, Option.ite_none_right_eq_some, Option.some.injEq] at h
    obtain ⟨hphase, rfl⟩ := h
    refine ha.rephase hf (fun c => ?_) (fun c => ?_) rfl rfl rfl
    · rw [hphase]
      exact id
    · split <;> exact id
  | capture t canonical =>
    simp only [frameStep, Option.ite_none_right_eq_some, Option.some.injEq] at h
    obtain ⟨hphase, rfl⟩ := h
    refine ha.rephase hf (fun c => ?_) (fun c => ?_) rfl rfl rfl
    · rw [hphase]
      exact id
    · split <;> exact id
  | check t =>
    simp only [frameStep] at h
    split at h
    · rename_i stack hphase
      cases h
      exact ha.check hf hphase
    · cases h
  | log t =>
    simp only [frameStep] at h
    split at h
    · rename_i k hphase
      cases h
      exact ha.log hf hphase rfl rfl rfl
    · cases h
  | throws t =>
    have hold : ∀ c, ¬ f.phase.logs c := by
      refine hg f ?_
      rw [show s.frames t = f :: rest from hf]
      rfl
    simp only [frameStep] at h
    split at h
    · cases h
      exact ha.leave hf hold _ _
    · cases h
      exact ha.leave hf hold _ _
    · rename_i k hphase
      exact absurd rfl (hphase ▸ hold k.stack)
    · cases h
  | returns t =>
    simp only [frameStep] at h
    split at h
    · rename_i k result hphase
      cases h
      refine ha.leave hf (fun c => ?_) _ _
      rw [hphase]
      exact not_logs_done k result c
    · cases h
  | reset t => cases h

theorem agree_step {a : Action} (ha : Agree s) (hg : Settled s a) (h : step s a = some s') :
    Agree s' := by
  unfold step at h
  split at h
  · rename_i f rest hf
    exact agree_frameStep ha hf hg h
  · split at h
    · cases h
      exact ha.enter
    · cases h
      intro c
      have hnone : ¬ s.Unwritten c := hg c
      exact iff_of_false List.not_mem_nil (not_or.mpr ⟨List.not_mem_nil, hnone⟩)
    · cases h

/--
For every interleaving of calls and resets in which no reset falls between the insertion of a stack
and its record, and in which no call throws there: with no call under way, the log file and
`_fault_hash` hold the same stacks.
-/
theorem log_agrees_with_hash (loaded : List Stack) (run : List Action) (s : State)
    (hg : Guarded step Settled (State.init loaded) run)
    (h : exec step (State.init loaded) run = some s) (hidle : ∀ t, s.frames t = []) :
    ∀ c, c ∈ s.logFile ↔ c ∈ s.faultHash := by
  have ha : Agree s :=
    exec_invariant_of_guard (fun _ _ _ ha hg hs => agree_step ha hg hs) (agree_init loaded) hg h
  intro c
  have hnone : ¬ s.Unwritten c := by
    rintro ⟨t, f, hf, -⟩
    rw [hidle t] at hf
    cases hf
  rw [ha c]
  exact (or_iff_left hnone).symm

/-! ## Runs of a few threads -/

/-- Only the first `n` threads are in a call. -/
def State.Within (n : Nat) (s : State) : Prop := ∀ u, n ≤ u → s.frames u = []

/-- A step changes the frames of its own thread only. -/
theorem frames_step_of_ne {a : Action} {u : Tid} (h : step s a = some s') (hu : u ≠ a.thread) :
    s'.frames u = s.frames u := by
  have hupdate : ∀ frames, Function.update s.frames a.thread frames u = s.frames u :=
    fun frames => Function.update_of_ne hu frames s.frames
  unfold step at h
  split at h
  · rename_i f rest hf
    cases a with
    | enter t | isRecursing t | capture t canonical =>
      simp only [frameStep, Option.ite_none_right_eq_some, Option.some.injEq] at h
      obtain ⟨-, rfl⟩ := h
      exact hupdate _
    | check t =>
      simp only [frameStep] at h
      split at h
      · cases h
        unfold State.check
        split <;> exact hupdate _
      · cases h
    | log t | throws t | returns t =>
      simp only [frameStep] at h
      split at h <;> cases h <;> exact hupdate _
    | reset t => cases h
  · split at h
    · cases h
      exact hupdate _
    · cases h
      rfl
    · cases h

theorem within_step {a : Action} {n : Nat} (hw : s.Within n) (ha : a.thread < n)
    (h : step s a = some s') : s'.Within n := by
  intro u hu
  have hne : u ≠ a.thread := Nat.ne_of_gt (Nat.lt_of_lt_of_le ha hu)
  rw [frames_step_of_ne h hne]
  exact hw u hu

/-- A reset finds the two threads idle, and nothing is thrown. -/
def Alternate (s : State) (a : Action) : Prop :=
  a.thread < 2 ∧
    match a with
    | .reset _ => s.frames 0 = [] ∧ s.frames 1 = []
    | .throws _ => False
    | .enter _ | .isRecursing _ | .capture .. | .check _ | .log _ | .returns _ => True

instance (s : State) : (a : Action) → Decidable (Alternate s a)
  | .reset t => inferInstanceAs (Decidable (t < 2 ∧ s.frames 0 = [] ∧ s.frames 1 = []))
  | .throws t => inferInstanceAs (Decidable (t < 2 ∧ False))
  | .enter t | .isRecursing t | .capture t _ | .check t | .log t | .returns t =>
    inferInstanceAs (Decidable (t < 2 ∧ True))

theorem State.Within.settled {a : Action} (hw : s.Within 2) (ha : Alternate s a) :
    Settled s a := by
  cases a with
  | reset t =>
    rintro c ⟨u, f, hf, -⟩
    have hnil : s.frames u = [] := by
      match u with
      | 0 => exact ha.2.1
      | 1 => exact ha.2.2
      | u + 2 => exact hw (u + 2) (by omega)
    rw [hnil] at hf
    cases hf
  | throws t => exact ha.2.elim
  | enter t | isRecursing t | capture t canonical | check t | log t | returns t => trivial

theorem State.Within.idle (hw : s.Within 2) (h₀ : s.frames 0 = []) (h₁ : s.frames 1 = []) :
    ∀ t, s.frames t = []
  | 0 => h₀
  | 1 => h₁
  | t + 2 => hw (t + 2) (by omega)

/-- A fault is injected and logged, and then there is a reset and another fault. -/
def resetBetween : List Action :=
  [.enter 0, .isRecursing 0, .capture 0 (some [1]), .check 0, .log 0, .returns 0, .reset 1,
   .enter 0, .isRecursing 0, .capture 0 (some [2]), .check 0, .log 0, .returns 0]

theorem log_agrees_with_hash_resetBetween :
    ∃ s, exec step (State.init []) resetBetween = some s ∧ s.faultHash = [[2]] ∧
      ∀ c, c ∈ s.logFile ↔ c ∈ s.faultHash := by
  obtain ⟨s, hs, hhash, h₀, h₁⟩ : ∃ s, exec step (State.init []) resetBetween = some s ∧
      s.faultHash = [[2]] ∧ s.frames 0 = [] ∧ s.frames 1 = [] :=
    exec_of_check (by decide +kernel)
  have hstep : ∀ s a s', s.Within 2 → Alternate s a → step s a = some s' → s'.Within 2 :=
    fun _ _ _ hw ha h => within_step hw ha.1 h
  have halt : Guarded step Alternate (State.init []) resetBetween :=
    guarded_of_check (by decide +kernel)
  have hinit : (State.init []).Within 2 := fun _ _ => rfl
  have hg : Guarded step Settled (State.init []) resetBetween :=
    halt.mono_of_invariant hstep (fun _ _ hw ha => hw.settled ha) hinit
  have hw : s.Within 2 := exec_invariant_of_guard hstep hinit halt hs
  exact ⟨s, hs, hhash, log_agrees_with_hash [] resetBetween s hg hs (hw.idle h₀ h₁)⟩

/-- The reset comes while the symbols of the first fault are decoded. -/
def resetWhileDecoding : List Action :=
  [.enter 0, .isRecursing 0, .capture 0 (some [1]), .check 0, .reset 1, .log 0, .returns 0]

/-- The log file holds a stack that is not known. -/
theorem reset_while_decoding_disagrees :
    ∃ s, exec step (State.init []) resetWhileDecoding = some s ∧ (∀ t, s.frames t = []) ∧
      [1] ∈ s.logFile ∧ [1] ∉ s.faultHash := by
  obtain ⟨s, hs, hlog, hhash, h₀, h₁⟩ :
      ∃ s, exec step (State.init []) resetWhileDecoding = some s ∧
        [1] ∈ s.logFile ∧ [1] ∉ s.faultHash ∧ s.frames 0 = [] ∧ s.frames 1 = [] :=
    exec_of_check (by decide +kernel)
  have hthreads : Guarded step (fun _ a => a.thread < 2) (State.init []) resetWhileDecoding :=
    guarded_of_check (by decide +kernel)
  have hw : s.Within 2 :=
    exec_invariant_of_guard (fun _ _ _ hw ha h => within_step hw ha h) (fun _ _ => rfl) hthreads hs
  exact ⟨s, hs, hw.idle h₀ h₁, hlog, hhash⟩

end Usersim.Fault
