import Mathlib.Data.List.Nodup
import Mathlib.Data.List.Perm.Basic
import Usersim.Fault.Basic

/-!
# Each fault is injected once

The look-ups of all threads are one sequence, the order in which they went through the critical
section. A look-up finds a new stack just when the stack was not loaded and no earlier look-up was
for it (`ChecksOk`). A call answers what its look-up found, and a call inside another one never
gets to a look-up.

* `faults_injected_once` — for every interleaving without a reset in which logging does not throw;
  the recursion counter is restored in every run
* `failed_insert_not_injected` — a stack that is presented and not looked up: the insertion throws
-/

namespace Usersim.Fault

open Lib

variable {loaded : List Stack} {s s' : State} {t : Tid} {f : Frame} {rest : List Frame}

/-! ## The sequence of look-ups -/

/-- Every look-up knows its place, and finds its stack new if it is the first one for it. -/
def ChecksOk (loaded : List Stack) : List Check → Prop
  | [] => True
  | k :: older =>
    k.position = older.length ∧
      (k.newStack = true ↔ k.stack ∉ loaded ∧ ∀ k' ∈ older, k'.stack ≠ k.stack) ∧
      ChecksOk loaded older

theorem ChecksOk.position_lt {checks : List Check} (h : ChecksOk loaded checks) {k : Check}
    (hk : k ∈ checks) : k.position < checks.length := by
  induction checks with
  | nil => cases hk
  | cons k' older ih =>
    rw [List.length_cons]
    rcases List.mem_cons.mp hk with rfl | hk
    · have hpos := h.1
      omega
    · have hlt := ih h.2.2 hk
      omega

theorem ChecksOk.nodup {checks : List Check} (h : ChecksOk loaded checks) : checks.Nodup := by
  induction checks with
  | nil => exact List.nodup_nil
  | cons k older ih =>
    refine List.nodup_cons.mpr ⟨?_, ih h.2.2⟩
    intro hmem
    have hlt := h.2.2.position_lt hmem
    have hpos := h.1
    omega

/-- A look-up finds its stack new just when it is the first one for a stack that was not loaded. -/
theorem ChecksOk.newStack_iff {checks : List Check} (h : ChecksOk loaded checks) {k : Check}
    (hk : k ∈ checks) :
    k.newStack = true ↔
      k.stack ∉ loaded ∧ ∀ k' ∈ checks, k'.stack = k.stack → k.position ≤ k'.position := by
  induction checks with
  | nil => cases hk
  | cons k₀ older ih =>
    rcases List.mem_cons.mp hk with rfl | hold
    · rw [h.2.1]
      refine and_congr_right fun _ => ?_
      constructor
      · intro hnew k' hk' heq
        rcases List.mem_cons.mp hk' with rfl | hk'
        · exact Nat.le_refl _
        · exact absurd heq (hnew k' hk')
      · intro hfirst k' hk' heq
        have hle := hfirst k' (List.mem_cons_of_mem _ hk') heq
        have hlt := h.2.2.position_lt hk'
        have hpos := h.1
        omega
    · rw [ih h.2.2 hold]
      refine and_congr_right fun _ => ?_
      constructor
      · intro hfirst k' hk' heq
        rcases List.mem_cons.mp hk' with rfl | hk'
        · have hlt := h.2.2.position_lt hold
          have hpos := h.1
          omega
        · exact hfirst k' hk' heq
      · exact fun hfirst k' hk' heq => hfirst k' (List.mem_cons_of_mem _ hk') heq

/-- Of the look-ups for a stack that was not loaded, one finds it new. -/
theorem ChecksOk.countP_newStack {checks : List Check} (h : ChecksOk loaded checks) {c : Stack}
    (hc : c ∉ loaded) :
    (checks.countP fun k => k.newStack && k.stack == c) =
      if ∃ k ∈ checks, k.stack = c then 1 else 0 := by
  induction checks with
  | nil => simp
  | cons k older ih =>
    rw [List.countP_cons, ih h.2.2]
    by_cases hk : k.stack = c
    · subst hk
      by_cases hold : ∃ k' ∈ older, k'.stack = k.stack
      · have hnot : k.newStack ≠ true := by
          intro hnew
          obtain ⟨k', hk', heq⟩ := hold
          exact ((h.2.1).mp hnew).2 k' hk' heq
        simp [hold, hnot]
      · have hnew : k.newStack = true := by
          refine (h.2.1).mpr ⟨hc, ?_⟩
          exact fun k' hk' heq => hold ⟨k', hk', heq⟩
        simp [hold, hnew]
    · simp [hk]

/-! ## The recursion counter -/

/-- Every call was entered at the depth of the calls around it. -/
def DepthsOk : List Frame → Prop
  | [] => True
  | f :: rest => f.depthBefore = rest.length ∧ DepthsOk rest

/-- The counter of a thread is the number of its calls. -/
structure Depth (s : State) : Prop where
  frames : ∀ t, DepthsOk (s.frames t)
  recursion : ∀ t, s.recursion t = (s.frames t).length
  returned : ∀ r ∈ s.returned, r.depthAfter = r.depthBefore

theorem depth_init (loaded : List Stack) : Depth (State.init loaded) where
  frames := fun _ => trivial
  recursion := fun _ => rfl
  returned := fun r hr => by cases hr

/-- The frames and the counter of `t` change together. -/
theorem Depth.update (hd : Depth s) {frames : List Frame} (hframes : DepthsOk frames)
    (hfr : s'.frames = Function.update s.frames t frames) (ht : s'.recursion t = frames.length)
    (hothers : ∀ u, u ≠ t → s'.recursion u = s.recursion u)
    (hreturned : ∀ r ∈ s'.returned, r.depthAfter = r.depthBefore) : Depth s' where
  frames := by
    intro u
    rw [hfr]
    by_cases hut : u = t
    · subst hut
      rw [Function.update_self]
      exact hframes
    · rw [Function.update_of_ne hut]
      exact hd.frames u
  recursion := by
    intro u
    rw [hfr]
    by_cases hut : u = t
    · subst hut
      rw [Function.update_self]
      exact ht
    · rw [Function.update_of_ne hut, hothers u hut]
      exact hd.recursion u
  returned := hreturned

theorem Depth.enter (hd : Depth s) : Depth (s.enter t) := by
  have hframes : DepthsOk ({ depthBefore := s.recursion t, phase := .entered } :: s.frames t) :=
    ⟨hd.recursion t, hd.frames t⟩
  refine hd.update hframes rfl ?_ ?_ hd.returned
  · simp [State.enter, hd.recursion t]
  · exact fun u hut => Function.update_of_ne hut ..

/-- The innermost call goes to another phase. -/
theorem Depth.rephase (hd : Depth s) (hf : s.frames t = f :: rest) {phase : Phase}
    (hfr : s'.frames = Function.update s.frames t ({ f with phase := phase } :: rest))
    (hrec : s'.recursion = s.recursion) (hret : s'.returned = s.returned) : Depth s' := by
  have hdepths := hd.frames t
  have hdepth := hd.recursion t
  rw [hf] at hdepths hdepth
  have hframes : DepthsOk ({ f with phase := phase } :: rest) := hdepths
  refine hd.update hframes hfr ?_ (fun u _ => by rw [hrec]) ?_
  · rw [hrec]
    exact hdepth
  · rw [hret]
    exact hd.returned

theorem Depth.leave (hd : Depth s) (hf : s.frames t = f :: rest) (check : Option Check)
    (result : Bool) : Depth (s.leave t f rest check result) := by
  have hframes := hd.frames t
  have hdepth := hd.recursion t
  rw [hf] at hframes hdepth
  have hrest : s.recursion t - 1 = rest.length := by
    rw [hdepth]
    simp
  refine hd.update hframes.2 rfl ?_ ?_ ?_
  · simpa [State.leave] using hrest
  · exact fun u hut => Function.update_of_ne hut ..
  · intro r hr
    rcases List.mem_cons.mp hr with rfl | hr
    · exact hrest.trans hframes.1.symm
    · exact hd.returned r hr

theorem depth_frameStep {a : Action} (hd : Depth s) (hf : s.frames a.thread = f :: rest)
    (h : frameStep s f rest a = some s') : Depth s' := by
  cases a with
  | enter t =>
    simp only [frameStep, Option.ite_none_right_eq_some, Option.some.injEq] at h
    obtain ⟨-, rfl⟩ := h
    exact hd.enter
  | isRecursing t =>
    simp only [frameStep, Option.ite_none_right_eq_some, Option.some.injEq] at h
    obtain ⟨-, rfl⟩ := h
    exact hd.rephase hf rfl rfl rfl
  | capture t canonical =>
    simp only [frameStep, Option.ite_none_right_eq_some, Option.some.injEq] at h
    obtain ⟨-, rfl⟩ := h
    exact hd.rephase hf rfl rfl rfl
  | check t =>
    simp only [frameStep] at h
    split at h
    · cases h
      unfold State.check
      split
      · exact hd.rephase hf rfl rfl rfl
      · exact hd.rephase hf rfl rfl rfl
    · cases h
  | log t =>
    simp only [frameStep] at h
    split at h
    · cases h
      exact hd.rephase hf rfl rfl rfl
    · cases h
  | throws t =>
    simp only [frameStep] at h
    split at h
    · cases h
      exact hd.leave hf _ _
    · cases h
      exact hd.leave hf _ _
    · cases h
      exact hd.leave hf _ _
    · cases h
  | returns t =>
    simp only [frameStep] at h
    split at h
    · cases h
      exact hd.leave hf _ _
    · cases h
  | reset t => cases h

theorem depth_step {a : Action} (hd : Depth s) (h : step s a = some s') : Depth s' := by
  unfold step at h
  split at h
  · rename_i f rest hf
    exact depth_frameStep hd hf h
  · split at h
    · cases h
      exact hd.enter
    · cases h
      exact ⟨hd.frames, hd.recursion, hd.returned⟩
    · cases h

/-- Every call leaves the counter as it found it, whatever is thrown and reset. -/
theorem depth_exec {run : List Action} (h : exec step (State.init loaded) run = some s) :
    Depth s :=
  exec_invariant (fun _ _ _ hd hs => depth_step hd hs) (depth_init loaded) h

/-! ## Frames -/

/-- The look-up of a call. -/
def Phase.check : Phase → Option Check
  | .logging c => some c
  | .done c _ => c
  | .entered | .capturing | .checking _ => none

/-- A call is about to answer what its look-up found, and false without one. -/
def Phase.Ok : Phase → Prop
  | .logging c => c.newStack = true
  | .done c result => result = c.any Check.newStack
  | .entered | .capturing | .checking _ => True

/-- Only the outermost call of a thread gets past the guard. -/
def FramesOk : List Frame → Prop
  | [] => True
  | f :: rest =>
    f.phase.Ok ∧ (rest ≠ [] → f.phase = .entered ∨ f.phase = .done none false) ∧ FramesOk rest

theorem FramesOk.outermost (h : FramesOk (f :: rest)) (hentered : f.phase ≠ .entered)
    (hdone : f.phase ≠ .done none false) : rest = [] := by
  by_contra hne
  rcases h.2.1 hne with he | hd
  · exact hentered he
  · exact hdone hd

/-- A call with a look-up is the outermost one. -/
theorem FramesOk.outermost_of_check (h : FramesOk (f :: rest)) {c : Check}
    (hc : f.phase.check = some c) : rest = [] := by
  refine h.outermost ?_ ?_
  · intro he
    rw [he] at hc
    cases hc
  · intro hd
    rw [hd] at hc
    cases hc

/-! ## The invariant -/

/-- What a call that has returned answered. -/
structure ReturnedOk (r : Returned) : Prop where
  result : r.result = r.check.any Check.newStack
  recursive : 0 < r.depthBefore → r.check = none

structure Inv (loaded : List Stack) (s : State) : Prop where
  frames : ∀ t, FramesOk (s.frames t)
  hash : ∀ c, c ∈ s.faultHash ↔ c ∈ loaded ∨ ∃ k ∈ s.checks, k.stack = c
  checks : ChecksOk loaded s.checks
  settled : s.checks.Perm (s.returned.filterMap Returned.check ++ s.pending.map Prod.snd)
  pending : ∀ t k, (t, k) ∈ s.pending ↔ ∃ f ∈ s.frames t, f.phase.check = some k
  returned : ∀ r ∈ s.returned, ReturnedOk r

theorem inv_init (loaded : List Stack) : Inv loaded (State.init loaded) where
  frames := fun _ => trivial
  hash := by simp [State.init]
  checks := trivial
  settled := List.Perm.refl _
  pending := by simp [State.init]
  returned := fun r hr => by cases hr

theorem Inv.pending_nodup (hi : Inv loaded s) : s.pending.Nodup := by
  have hnodup := hi.settled.nodup_iff.mp hi.checks.nodup
  exact (List.nodup_append.mp hnodup).2.1.of_map

/-- The frames of `t` change and keep their look-ups. -/
theorem Inv.reframe (hi : Inv loaded s) {frames : List Frame} (recursion : Tid → Int)
    (logFile : List Stack) (hframes : FramesOk frames)
    (hcheck : ∀ k, (∃ f ∈ frames, f.phase.check = some k) ↔
      ∃ f ∈ s.frames t, f.phase.check = some k) :
    Inv loaded { s.setFrames t frames with recursion := recursion, logFile := logFile } where
  frames := by
    intro u
    by_cases hut : u = t
    · subst hut
      simpa [State.setFrames] using hframes
    · simpa [State.setFrames, hut] using hi.frames u
  hash := hi.hash
  checks := hi.checks
  settled := hi.settled
  pending := by
    intro u k
    refine (hi.pending u k).trans ?_
    by_cases hut : u = t
    · subst hut
      simp only [State.setFrames, Function.update_self]
      exact (hcheck k).symm
    · simp only [State.setFrames, Function.update_of_ne hut]
  returned := hi.returned

/-! ## The steps -/

theorem inv_enter (hi : Inv loaded s) : Inv loaded (s.enter t) := by
  refine hi.reframe _ s.logFile ?_ ?_
  · exact ⟨trivial, fun _ => .inl rfl, hi.frames t⟩
  · simp [Phase.check]

/-- The innermost call goes to another phase without a look-up. -/
theorem Inv.rephase (hi : Inv loaded s) (hf : s.frames t = f :: rest) (phase : Phase)
    (hok : phase.Ok) (hrest : rest ≠ [] → phase = .entered ∨ phase = .done none false)
    (hcheck : phase.check = f.phase.check) (logFile : List Stack) :
    Inv loaded { s.setFrames t ({ f with phase := phase } :: rest) with logFile := logFile } := by
  have hframes := hi.frames t
  rw [hf] at hframes
  refine hi.reframe s.recursion logFile ⟨hok, hrest, hframes.2.2⟩ ?_
  · intro k
    rw [hf]
    simp [hcheck]

/-- The outermost call of `t` looks a stack up. -/
theorem Inv.record (hi : Inv loaded s) (hf : s.frames t = [f]) (hnone : f.phase.check = none)
    {stack : Stack} {newStack : Bool} {phase : Phase} (faultHash : List Stack)
    (hnew : newStack = true ↔ stack ∉ s.faultHash)
    (hcheck : phase.check = some ⟨s.checks.length, stack, newStack⟩) (hok : phase.Ok)
    (hhash : ∀ c, c ∈ faultHash ↔ c ∈ s.faultHash ∨ c = stack) :
    Inv loaded { s.setFrames t [{ f with phase := phase }] with
      faultHash := faultHash
      checks := ⟨s.checks.length, stack, newStack⟩ :: s.checks
      pending := (t, ⟨s.checks.length, stack, newStack⟩) :: s.pending } where
  frames := by
    intro u
    by_cases hut : u = t
    · subst hut
      simp only [State.setFrames, Function.update_self]
      exact ⟨hok, fun h => absurd rfl h, trivial⟩
    · simpa [State.setFrames, hut] using hi.frames u
  hash := by
    intro c
    refine (hhash c).trans ?_
    rw [hi.hash]
    simp only [List.mem_cons, exists_eq_or_imp]
    rw [or_assoc, eq_comm (a := stack), or_comm (a := c = stack)]
  checks := by
    refine ⟨rfl, ?_, hi.checks⟩
    rw [hnew, hi.hash]
    simp [not_or]
  settled := (hi.settled.cons _).trans List.perm_middle.symm
  pending := by
    intro u k
    by_cases hut : u = t
    · subst hut
      have hold : (u, k) ∉ s.pending := by
        rw [hi.pending, hf]
        simp [hnone]
      simp [State.setFrames, hcheck, hold, eq_comm]
    · simpa [State.setFrames, hut] using hi.pending u k
  returned := hi.returned

theorem inv_check (hi : Inv loaded s) (hf : s.frames t = f :: rest) {stack : Stack}
    (hphase : f.phase = .checking stack) : Inv loaded (s.check t f rest stack) := by
  have hframes := hi.frames t
  rw [hf] at hframes
  obtain rfl : rest = [] := hframes.outermost (by simp [hphase]) (by simp [hphase])
  have hnone : f.phase.check = none := by
    rw [hphase]
    rfl
  unfold State.check
  split
  · rename_i hmem
    refine hi.record hf hnone s.faultHash ?_ rfl rfl ?_
    · simp [hmem]
    · intro c
      constructor
      · exact .inl
      · rintro (h | rfl)
        · exact h
        · exact hmem
  · rename_i hmem
    refine hi.record hf hnone _ ?_ rfl rfl ?_
    · simp [hmem]
    · intro c
      rw [List.mem_cons, or_comm]

theorem inv_leave (hi : Inv loaded s) (hd : Depth s) (hf : s.frames t = f :: rest)
    {check : Option Check} {result : Bool} (hcheck : f.phase.check = check)
    (hresult : result = check.any Check.newStack) :
    Inv loaded (s.leave t f rest check result) := by
  have hframes := hi.frames t
  rw [hf] at hframes
  have hdepths := hd.frames t
  rw [hf] at hdepths
  have hpend : ∀ u k, (u, k) ∈ (s.leave t f rest check result).pending ↔
      (u, k) ∈ s.pending ∧ ¬ (u = t ∧ some k = check) := by
    intro u k
    simp only [State.leave, List.mem_filter, Bool.not_eq_true', Bool.and_eq_false_iff,
      beq_eq_false_iff_ne, not_and_or, ne_eq]
  constructor
  · intro u
    by_cases hut : u = t
    · subst hut
      simpa [State.leave, State.setFrames] using hframes.2.2
    · simpa [State.leave, State.setFrames, hut] using hi.frames u
  · exact hi.hash
  · exact hi.checks
  · refine hi.settled.trans ?_
    cases check with
    | none =>
      have hsame : (s.pending.filter fun x => !(x.1 == t && some x.2 == none)) = s.pending := by
        simp
      simp only [State.leave, hsame]
      exact List.Perm.refl _
    | some k =>
      -- the look-up of the call goes from the pending ones to the returned ones
      have hmem : (t, k) ∈ s.pending := by
        refine (hi.pending t k).mpr ⟨f, ?_, hcheck⟩
        rw [hf]
        exact List.mem_cons_self
      have herase : (s.pending.filter fun x => !(x.1 == t && some x.2 == some k)) =
          s.pending.erase (t, k) := by
        rw [hi.pending_nodup.erase_eq_filter]
        refine List.filter_congr ?_
        rintro ⟨u, k'⟩ -
        rw [bne, Bool.not_inj_iff, Bool.eq_iff_iff]
        simp
      simp only [State.leave, herase, List.filterMap_cons]
      rw [List.cons_append]
      refine List.Perm.trans ?_ List.perm_middle
      exact (List.Perm.refl _).append ((List.perm_cons_erase hmem).map Prod.snd)
  · intro u k
    rw [hpend, hi.pending u k]
    by_cases hut : u = t
    · subst hut
      simp only [State.leave, State.setFrames, Function.update_self, hf, List.mem_cons,
        exists_eq_or_imp, hcheck, true_and]
      constructor
      · rintro ⟨hk | hk, hne⟩
        · exact absurd hk.symm hne
        · exact hk
      · rintro ⟨g, hg, hk⟩
        refine ⟨.inr ⟨g, hg, hk⟩, ?_⟩
        rintro rfl
        rw [hframes.outermost_of_check hcheck] at hg
        cases hg
    · simp [State.leave, State.setFrames, hut]
  · intro r hr
    rcases List.mem_cons.mp hr with rfl | hr
    · refine ⟨hresult, ?_⟩
      intro hpos
      rw [hdepths.1] at hpos
      cases hc : check with
      | none => rfl
      | some k =>
        rw [hc] at hcheck
        rw [hframes.outermost_of_check hcheck] at hpos
        simp at hpos
    · exact hi.returned r hr

/-! ## Every run -/

/-- There is no reset, and `log_stack_trace` does not throw. -/
def Quiet (s : State) : Action → Prop
  | .throws t => ((s.frames t).head?.any fun f => f.phase.check.isSome) = false
  | .reset _ => False
  | .enter _ | .isRecursing _ | .capture .. | .check _ | .log _ | .returns _ => True

instance (s : State) (a : Action) : Decidable (Quiet s a) :=
  match a with
  | .throws _ => inferInstanceAs (Decidable (_ = false))
  | .reset _ => inferInstanceAs (Decidable False)
  | .enter _ | .isRecursing _ | .capture .. | .check _ | .log _ | .returns _ => isTrue trivial

theorem inv_frameStep {a : Action} (hi : Inv loaded s) (hd : Depth s)
    (hf : s.frames a.thread = f :: rest) (hg : Quiet s a) (h : frameStep s f rest a = some s') :
    Inv loaded s' := by
  have hframes := hi.frames a.thread
  rw [hf] at hframes
  cases a with
  | enter t =>
    simp only [frameStep, Option.ite_none_right_eq_some, Option.some.injEq] at h
    obtain ⟨-, rfl⟩ := h
    exact inv_enter hi
  | isRecursing t =>
    simp only [frameStep, Option.ite_none_right_eq_some, Option.some.injEq] at h
    obtain ⟨hphase, rfl⟩ := h
    by_cases hdepth : 1 < s.recursion t
    · rw [if_pos hdepth]
      exact hi.rephase hf (.done none false) rfl (fun _ => .inr rfl) (by rw [hphase]; rfl) s.logFile
    · rw [if_neg hdepth]
      refine hi.rephase hf .capturing trivial ?_ (by rw [hphase]; rfl) s.logFile
      intro hne
      have hpos := List.length_pos_iff.mpr hne
      have hlen := hd.recursion t
      rw [show s.frames t = f :: rest from hf, List.length_cons] at hlen
      omega
  | capture t canonical =>
    simp only [frameStep, Option.ite_none_right_eq_some, Option.some.injEq] at h
    obtain ⟨hphase, rfl⟩ := h
    obtain rfl : rest = [] := hframes.outermost (by simp [hphase]) (by simp [hphase])
    cases canonical with
    | none =>
      exact hi.rephase hf (.done none false) rfl (fun h => absurd rfl h) (by rw [hphase]; rfl)
        s.logFile
    | some stack =>
      exact hi.rephase hf (.checking stack) trivial (fun h => absurd rfl h) (by rw [hphase]; rfl)
        s.logFile
  | check t =>
    simp only [frameStep] at h
    split at h
    · rename_i stack hphase
      cases h
      exact inv_check hi hf hphase
    · cases h
  | log t =>
    simp only [frameStep] at h
    split at h
    · rename_i c hphase
      cases h
      obtain rfl : rest = [] := hframes.outermost (by simp [hphase]) (by simp [hphase])
      have hok := hframes.1
      rw [hphase] at hok
      exact hi.rephase hf (.done (some c) true) hok.symm (fun h => absurd rfl h)
        (by rw [hphase]; rfl) _
    · cases h
  | throws t =>
    simp only [Quiet, show s.frames t = f :: rest from hf, List.head?_cons, Option.any_some] at hg
    simp only [frameStep] at h
    split at h
    · rename_i hphase
      cases h
      exact inv_leave hi hd hf (by rw [hphase]; rfl) rfl
    · rename_i stack hphase
      cases h
      exact inv_leave hi hd hf (by rw [hphase]; rfl) rfl
    · rename_i c hphase
      rw [hphase] at hg
      cases hg
    · cases h
  | returns t =>
    simp only [frameStep] at h
    split at h
    · rename_i c result hphase
      cases h
      have hok := hframes.1
      rw [hphase] at hok
      exact inv_leave hi hd hf (by rw [hphase]; rfl) hok
    · cases h
  | reset t => cases h

theorem inv_step {a : Action} (hi : Inv loaded s) (hd : Depth s) (hg : Quiet s a)
    (h : step s a = some s') : Inv loaded s' := by
  unfold step at h
  split at h
  · rename_i f rest hf
    exact inv_frameStep hi hd hf hg h
  · split at h
    · cases h
      exact inv_enter hi
    · exact hg.elim
    · cases h

theorem inv_exec {run : List Action} (hg : Guarded step Quiet (State.init loaded) run)
    (h : exec step (State.init loaded) run = some s) : Inv loaded s := by
  have hboth : Inv loaded s ∧ Depth s := by
    refine exec_invariant_of_guard (P := fun s => Inv loaded s ∧ Depth s) ?_
      ⟨inv_init loaded, depth_init loaded⟩ hg h
    intro s a s' hi hg hs
    exact ⟨inv_step hi.1 hi.2 hg hs, depth_step hi.2 hs⟩
  exact hboth.1

/-- A step of a call inside another one records nothing. -/
theorem recursive_records_nothing {a : Action} (hi : Inv loaded s)
    (hrec : 1 < (s.frames a.thread).length) (h : step s a = some s') :
    s'.faultHash = s.faultHash ∧ s'.logFile = s.logFile ∧ s'.checks = s.checks := by
  have hframes := hi.frames a.thread
  unfold step at h
  split at h
  · rename_i f rest hf
    rw [hf] at hframes hrec
    have hne : rest ≠ [] := by
      rintro rfl
      simp at hrec
    have hphase := hframes.2.1 hne
    cases a with
    | enter t =>
      simp only [frameStep, Option.ite_none_right_eq_some, Option.some.injEq] at h
      obtain ⟨-, rfl⟩ := h
      exact ⟨rfl, rfl, rfl⟩
    | isRecursing t =>
      simp only [frameStep, Option.ite_none_right_eq_some, Option.some.injEq] at h
      obtain ⟨-, rfl⟩ := h
      exact ⟨rfl, rfl, rfl⟩
    | capture t canonical =>
      simp only [frameStep, Option.ite_none_right_eq_some, Option.some.injEq] at h
      obtain ⟨-, rfl⟩ := h
      exact ⟨rfl, rfl, rfl⟩
    | check t =>
      rcases hphase with hp | hp <;> simp [frameStep, hp] at h
    | log t =>
      rcases hphase with hp | hp <;> simp [frameStep, hp] at h
    | throws t =>
      rcases hphase with hp | hp <;> simp [frameStep, hp] at h
    | returns t =>
      simp only [frameStep] at h
      split at h
      · cases h
        exact ⟨rfl, rfl, rfl⟩
      · cases h
    | reset t => cases h
  · rename_i hnil
    rw [hnil] at hrec
    simp at hrec

/-- The calls that answered true for a stack are the look-ups that found it new. -/
theorem Inv.countP_returned (hi : Inv loaded s) (hidle : ∀ t, s.frames t = []) (c : Stack) :
    (s.returned.countP fun r => r.result && r.check.any fun k => k.stack == c) =
      s.checks.countP fun k => k.newStack && k.stack == c := by
  have hnil : s.pending = [] := by
    refine List.eq_nil_iff_forall_not_mem.mpr ?_
    rintro ⟨t, k⟩ hmem
    rw [hi.pending, hidle t] at hmem
    simp at hmem
  rw [hi.settled.countP_eq, hnil, List.map_nil, List.append_nil, List.countP_filterMap]
  refine List.countP_congr ?_
  intro r hr
  rw [(hi.returned r hr).result]
  cases r.check with
  | none => simp
  | some k => simp

/-- Every fault is injected once, by the first call that looks it up. -/
structure InjectedOnce (loaded : List Stack) (s : State) : Prop where
  /-- A call that has looked a stack up answers true if it was the first to do so. -/
  first : ∀ r ∈ s.returned, ∀ k, r.check = some k →
    (r.result = true ↔ k.stack ∉ loaded ∧
      ∀ k' ∈ s.checks, k'.stack = k.stack → k.position ≤ k'.position)
  /-- With no call under way, one call has answered true for every stack that was looked up. -/
  once : (∀ t, s.frames t = []) → ∀ c, c ∉ loaded → (∃ k ∈ s.checks, k.stack = c) →
    (s.returned.countP fun r => r.result && r.check.any fun k => k.stack == c) = 1
  loadedFails : ∀ r ∈ s.returned, ∀ k, r.check = some k → k.stack ∈ loaded → r.result = false
  recursiveFails : ∀ r ∈ s.returned, 0 < r.depthBefore → r.check = none ∧ r.result = false
  recursiveSilent : ∀ a s', 1 < (s.frames a.thread).length → step s a = some s' →
    s'.faultHash = s.faultHash ∧ s'.logFile = s.logFile ∧ s'.checks = s.checks

/-- A run without a reset in which logging does not throw injects every fault once, and no run
at all leaves a thread at another depth. -/
theorem faults_injected_once (loaded : List Stack) (run : List Action) (s : State)
    (h : exec step (State.init loaded) run = some s) :
    (Guarded step Quiet (State.init loaded) run → InjectedOnce loaded s) ∧
      ∀ r ∈ s.returned, r.depthAfter = r.depthBefore := by
  refine ⟨?_, (depth_exec h).returned⟩
  intro hg
  have hi := inv_exec hg h
  have hmem : ∀ r ∈ s.returned, ∀ k, r.check = some k → k ∈ s.checks := by
    intro r hr k hk
    refine hi.settled.mem_iff.mpr (List.mem_append_left _ ?_)
    exact List.mem_filterMap.mpr ⟨r, hr, hk⟩
  have hfirst : ∀ r ∈ s.returned, ∀ k, r.check = some k →
      (r.result = true ↔ k.stack ∉ loaded ∧
        ∀ k' ∈ s.checks, k'.stack = k.stack → k.position ≤ k'.position) := by
    intro r hr k hk
    rw [← hi.checks.newStack_iff (hmem r hr k hk), (hi.returned r hr).result, hk]
    rfl
  constructor
  · exact hfirst
  · intro hidle c hc hlooked
    rw [hi.countP_returned hidle, hi.checks.countP_newStack hc, if_pos hlooked]
  · intro r hr k hk hloaded
    rw [← Bool.not_eq_true, hfirst r hr k hk]
    exact fun hnew => hnew.1 hloaded
  · intro r hr hpos
    have hok := hi.returned r hr
    refine ⟨hok.recursive hpos, ?_⟩
    rw [hok.result, hok.recursive hpos]
    rfl
  · intro a s' hrec hs
    exact recursive_records_nothing hi hrec hs

/-- Two threads present the same new stack and one of them a loaded one, the first of them is
called again while it decodes symbols, and a call throws. -/
def twoThreads : List Action :=
  [.enter 0, .isRecursing 0, .enter 1, .isRecursing 1, .capture 0 (some [1, 2]),
   .capture 1 (some [1, 2]), .check 0, .check 1, .returns 1, .enter 0, .isRecursing 0, .returns 0,
   .log 0, .returns 0, .enter 1, .isRecursing 1, .throws 1, .enter 1, .isRecursing 1,
   .capture 1 (some [7]), .check 1, .returns 1]

theorem faults_injected_once_twoThreads :
    ∃ s, exec step (State.init [[7]]) twoThreads = some s ∧
      s.returned.map Returned.result = [false, false, true, false, false] ∧
      InjectedOnce [[7]] s ∧ ∀ r ∈ s.returned, r.depthAfter = r.depthBefore := by
  obtain ⟨s, hs, hreturned⟩ : ∃ s, exec step (State.init [[7]]) twoThreads = some s ∧
      s.returned.map Returned.result = [false, false, true, false, false] :=
    exec_of_check (by decide +kernel)
  have hg : Guarded step Quiet (State.init [[7]]) twoThreads :=
    guarded_of_check (by decide +kernel)
  have honce := faults_injected_once [[7]] twoThreads s hs
  exact ⟨s, hs, hreturned, honce.1 hg, honce.2⟩

/-! ## A call that throws in its critical section -/

/-- The stacks that calls have captured. -/
def capturedStacks (run : List Action) : List Stack :=
  run.filterMap fun
    | .capture _ canonical => canonical
    | _ => none

/-- With no call under way, one call has answered true for every new stack that was captured. -/
def CapturedOnce (loaded : List Stack) (run : List Action) (s : State) : Prop :=
  (∀ t, s.frames t = []) → ∀ c ∈ capturedStacks run, c ∉ loaded →
    (s.returned.countP fun r => r.result && r.check.any fun k => k.stack == c) = 1

/-- There is no memory for the new entry of `_fault_hash`. -/
def insertFails : List Action :=
  [.enter 0, .isRecursing 0, .capture 0 (some [1, 2]), .throws 0]

/-- The only call for a new stack answers false. -/
theorem failed_insert_not_injected :
    ∃ s, exec step (State.init []) insertFails = some s ∧
      Guarded step Quiet (State.init []) insertFails ∧ ¬ CapturedOnce [] insertFails s := by
  refine ⟨_, rfl, guarded_of_check (by decide +kernel), fun honce => ?_⟩
  have hidle : ∀ t : Tid, Function.update (Function.update (Function.update
      (Function.update (fun _ => []) 0 [⟨0, .entered⟩]) 0 [⟨0, .capturing⟩]) 0
        [⟨0, .checking [1, 2]⟩]) 0 [] t = ([] : List Frame) := by
    intro t
    simp only [Function.update_idem]
    exact congrFun (Function.update_eq_self (0 : Tid) fun _ => []) t
  have hnone := honce hidle [1, 2] List.mem_cons_self List.not_mem_nil
  cases hnone

end Usersim.Fault
