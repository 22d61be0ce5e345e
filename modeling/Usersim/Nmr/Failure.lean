import Usersim.Nmr.Pairs

/-!
# Registrations that run out of memory (`nmr_um.cpp`)

`NmrRegisterClient` and `NmrRegisterProvider` turn `std::bad_alloc` into `STATUS_NO_MEMORY`. An
allocation may fail in `add`, before anything has changed, or in the scan of `perform_bind`, when
the registration is in its collection already and bindings of earlier targets have been made; their
pending actions are dropped with the vector that holds them. Nothing is undone on the way out.

* `exec_register` — a registration is a run of the registrar's steps, whatever it runs out of
* `register_atomic` — a failed registration leaves everything as it was unless an allocation for a
  binding was what failed, whatever has failed before
-/

namespace Usersim.Nmr

open Lib

/-- Where `NmrRegister*` may run out of memory. -/
inductive AllocSite where
  /-- The fault that is injected at the entry. -/
  | entry
  /-- The insertion into `clients` or `providers`. -/
  | add
  /-- `make_shared` of the binding with a target. -/
  | makeShared (target : Handle)
  /-- Its insertion into `bindings`. -/
  | bindings (target : Handle)
  /-- The closure that is its pending action, or the growth of the vector of them. -/
  | pendingActions (target : Handle)
deriving DecidableEq

variable (fails : AllocSite → Bool)

/-- `add`, with the insertion done. -/
def add (s : State) (t : Tid) (side : Side) (npiId : Option Nat) (hasCleanup : Bool) : State :=
  let h := s.nextHandle
  { s.setRegistration h { Registration.empty with npiId, hasCleanup } with
      collection := Function.update s.collection side (s.collection side ++ [h])
      nextHandle := h + 1 }.setLife h (.adding t) |>.setOp t (.performBind side h)

/-- `bind` with memory that may run out: `none` when it throws. -/
def tryBind (s : State) (pair : Side → Handle) (target : Handle) :
    State × Option (Option BindingId) :=
  if ¬ s.Matches pair then (s, some none)
  else if (s.registration (pair .client)).deregistering ∨
      (s.registration (pair .provider)).deregistering then (s, some none)
  else
    let s := (s.addCount (pair .client) 1).addCount (pair .provider) 1
    if fails (.makeShared target) then (s, none)
    else if fails (.bindings target) then (s, none)
    else
      ({ s.setBinding s.nextBinding (.new pair) with
          bindings := s.bindings ++ [s.nextBinding]
          nextBinding := s.nextBinding + 1 }, some (some s.nextBinding))

/-- The loop of `perform_bind`, with the pending actions it has collected. -/
def tryBindAll (side : Side) (h : Handle) : State → List Handle → State × Option (List BindingId)
  | s, [] => (s, some [])
  | s, target :: targets =>
    match tryBind fails s (pairOf side h target) target with
    | (s, none) => (s, none)
    | (s, some none) => tryBindAll side h s targets
    | (s, some (some b)) =>
      if fails (.pendingActions target) then (s, none)
      else
        let rest := tryBindAll side h s targets
        (rest.1, rest.2.map (b :: ·))

/-- `NmrRegisterClient` or `NmrRegisterProvider` up to the first attach callback, with the bindings
that are to be attached; `none` when it returns `STATUS_NO_MEMORY`. -/
def nmrRegister (s : State) (t : Tid) (side : Side) (npiId : Option Nat) (hasCleanup : Bool) :
    State × Option (List BindingId) :=
  if fails .entry then (s, none)
  -- the handle is taken before the insertion fails
  else if fails .add then ({ s with nextHandle := s.nextHandle + 1 }, none)
  else
    let h := s.nextHandle
    let s := add s t side npiId hasCleanup
    match tryBindAll fails side h s (s.collection side.other) with
    | (s, none) => (s.setOp t .idle, none)
    | (s, some todo) =>
      ((s.setLife h (.registering t)).setOp t (.attaching side h todo), some todo)

/-- A step of the registrar, with the ones of a registration that runs out of memory. -/
inductive MemAction where
  | step (a : Action)
  /-- The insertion in `add` throws. -/
  | addFails (t : Tid)
  /-- The scan of `perform_bind` throws. -/
  | scanFails (t : Tid) (fails : AllocSite → Bool)

def memStep (s : State) : MemAction → Option State
  | .step a => step s a
  | .addFails t =>
    match s.ops t with
    | .idle => some { s with nextHandle := s.nextHandle + 1 }
    | _ => none
  | .scanFails t fails =>
    match s.ops t with
    | .performBind side h =>
      if h ∈ s.collection side then
        match tryBindAll fails side h s (s.collection side.other) with
        | (s, none) => some (s.setOp t .idle)
        | (_, some _) => none
      else none
    | _ => none

@[simp] theorem memStep_step (s : State) (a : Action) : memStep s (.step a) = step s a := rfl

/-! ## The scan -/

variable {fails} {s s' : State} {t : Tid} {side : Side} {npiId : Option Nat} {hasCleanup : Bool}

/-- The pair is bound when there is memory. -/
def State.Binds (s : State) (pair : Side → Handle) : Prop :=
  s.Matches pair ∧ ∀ x, (s.registration (pair x)).deregistering = false

/-- An allocation for the binding with the target fails. -/
def RunsOut (fails : AllocSite → Bool) (target : Handle) : Prop :=
  fails (.makeShared target) = true ∨ fails (.bindings target) = true ∨
    fails (.pendingActions target) = true

theorem bound_binds (pair pair' : Side → Handle) :
    (bound s pair').Binds pair ↔ s.Binds pair := by
  unfold State.Binds
  rw [bound_matches]
  simp only [bound_deregistering]

theorem tryBind_of_not_binds {pair : Side → Handle} (h : ¬ s.Binds pair) (target : Handle) :
    tryBind fails s pair target = (s, some none) := by
  unfold tryBind
  split
  · rfl
  · rename_i hm
    split
    · rfl
    · rename_i hd
      push Not at hd
      refine absurd ⟨not_not.mp hm, fun x => ?_⟩ h
      cases x
      · simpa using hd.1
      · simpa using hd.2

theorem tryBind_of_binds {pair : Side → Handle} (h : s.Binds pair) (target : Handle) :
    tryBind fails s pair target =
      if fails (.makeShared target) = true ∨ fails (.bindings target) = true then
        ((s.addCount (pair .client) 1).addCount (pair .provider) 1, none)
      else (bound s pair, some (some s.nextBinding)) := by
  obtain ⟨hm, hd⟩ := h
  unfold tryBind
  rw [if_neg (not_not.mpr hm), if_neg (by simp [hd])]
  dsimp only
  cases hmake : fails (.makeShared target) with
  | true => simp
  | false =>
    cases hinsert : fails (.bindings target) with
    | true => simp
    | false => simp [bound, State.addCount]

/-- One turn of the loop for a target that is bound. -/
theorem tryBindAll_cons_of_binds {h target : Handle} (hb : s.Binds (pairOf side h target))
    (hmem : ¬ RunsOut fails target) (targets : List Handle) :
    tryBindAll fails side h s (target :: targets) =
      ((tryBindAll fails side h (bound s (pairOf side h target)) targets).1,
        (tryBindAll fails side h (bound s (pairOf side h target)) targets).2.map
          (s.nextBinding :: ·)) := by
  unfold RunsOut at hmem
  push Not at hmem
  rw [tryBindAll, tryBind_of_binds hb, if_neg (by simp [hmem])]
  simp [hmem]

theorem tryBindAll_cons_of_not_binds {h target : Handle} (hb : ¬ s.Binds (pairOf side h target))
    (targets : List Handle) :
    tryBindAll fails side h s (target :: targets) = tryBindAll fails side h s targets := by
  rw [tryBindAll, tryBind_of_not_binds hb]

/-- Whatever is thrown, what the loop has touched are counts and bindings. -/
theorem tryBindAll_cons_of_runsOut {h target : Handle} (hb : s.Binds (pairOf side h target))
    (hmem : RunsOut fails target) (targets : List Handle) :
    (tryBindAll fails side h s (target :: targets)).2 = none ∧
      (tryBindAll fails side h s (target :: targets)).1.collection = s.collection ∧
      (tryBindAll fails side h s (target :: targets)).1.nextHandle = s.nextHandle := by
  rw [tryBindAll, tryBind_of_binds hb]
  by_cases hbind : fails (.makeShared target) = true ∨ fails (.bindings target) = true
  · rw [if_pos hbind]
    exact ⟨rfl, rfl, rfl⟩
  · have hpending : fails (.pendingActions target) = true := by
      unfold RunsOut at hmem
      rw [← or_assoc] at hmem
      exact hmem.resolve_left hbind
    rw [if_neg hbind]
    dsimp only
    rw [if_pos hpending]
    exact ⟨rfl, rfl, rfl⟩

theorem tryBindAll_frame (fails : AllocSite → Bool) (side : Side) (h : Handle)
    (targets : List Handle) (s : State) :
    (tryBindAll fails side h s targets).1.collection = s.collection ∧
      (tryBindAll fails side h s targets).1.nextHandle = s.nextHandle := by
  induction targets generalizing s with
  | nil => exact ⟨rfl, rfl⟩
  | cons target targets ih =>
    by_cases hb : s.Binds (pairOf side h target)
    · by_cases hmem : RunsOut fails target
      · exact (tryBindAll_cons_of_runsOut hb hmem targets).2
      · rw [tryBindAll_cons_of_binds hb hmem]
        exact ih _
    · rw [tryBindAll_cons_of_not_binds hb]
      exact ih _

/-- The loop throws at the first target that is bound and for which an allocation fails. -/
theorem tryBindAll_eq_none_iff (fails : AllocSite → Bool) (side : Side) (h : Handle)
    (targets : List Handle) (s : State) :
    (tryBindAll fails side h s targets).2 = none ↔
      ∃ target ∈ targets, s.Binds (pairOf side h target) ∧ RunsOut fails target := by
  induction targets generalizing s with
  | nil => simp [tryBindAll]
  | cons target targets ih =>
    rw [List.exists_mem_cons_iff]
    by_cases hb : s.Binds (pairOf side h target)
    · by_cases hmem : RunsOut fails target
      · exact iff_of_true (tryBindAll_cons_of_runsOut hb hmem targets).1 (.inl ⟨hb, hmem⟩)
      · rw [tryBindAll_cons_of_binds hb hmem]
        show Option.map _ _ = none ↔ _
        rw [Option.map_eq_none_iff, ih]
        simp only [bound_binds, hmem, and_false, false_or]
    · rw [tryBindAll_cons_of_not_binds hb, ih]
      simp only [hb, false_and, false_or]

/-- A loop that comes to its end is the loop of `bindAll`. -/
theorem bindAll_of_tryBindAll {h : Handle} {targets : List Handle} {todo : List BindingId}
    (htry : (tryBindAll fails side h s targets).2 = some todo) :
    bindAll side h s targets = ((tryBindAll fails side h s targets).1, todo) := by
  induction targets generalizing s todo with
  | nil =>
    cases htry
    rfl
  | cons target targets ih =>
    rcases bindAll_cons side h target targets s with ⟨heq, hno⟩ | ⟨heq, hyes⟩
    · have hnot : ¬ s.Binds (pairOf side h target) := by
        rintro ⟨hm, hd⟩
        obtain ⟨x, hx⟩ := hno hm
        rw [hd x] at hx
        cases hx
      rw [tryBindAll_cons_of_not_binds hnot] at htry ⊢
      rw [heq]
      exact ih htry
    · have hmem : ¬ RunsOut fails target := by
        intro hmem
        rw [(tryBindAll_cons_of_runsOut hyes hmem targets).1] at htry
        cases htry
      rw [tryBindAll_cons_of_binds hyes hmem] at htry ⊢
      obtain ⟨todo', htodo, rfl⟩ := Option.map_eq_some_iff.mp htry
      rw [heq, ih htodo]

/-- A registration is a run of the registrar's steps, whatever it runs out of. -/
theorem exec_register (hop : s.ops t = .idle) :
    ∃ run, exec memStep s run = some (nmrRegister fails s t side npiId hasCleanup).1 := by
  have hfirst : step s (.register t side npiId hasCleanup) =
      some (add s t side npiId hasCleanup) := by
    simp only [step, hop, add]
  have hop' : (add s t side npiId hasCleanup).ops t = .performBind side s.nextHandle := by
    simp [add]
  have hmem : s.nextHandle ∈ (add s t side npiId hasCleanup).collection side := by
    simp [add]
  unfold nmrRegister
  split
  · exact ⟨[], rfl⟩
  split
  · refine ⟨[.addFails t], ?_⟩
    rw [exec_cons]
    simp only [memStep, hop]
    rfl
  dsimp only
  split
  · rename_i s₁ heq
    refine ⟨[.step (.register t side npiId hasCleanup), .scanFails t fails], ?_⟩
    rw [exec_cons, memStep_step, hfirst, Option.bind_some, exec_cons]
    simp only [memStep, hop', if_pos hmem, heq]
    rfl
  · rename_i s₁ todo heq
    have hbind : bindAll side s.nextHandle (add s t side npiId hasCleanup)
        ((add s t side npiId hasCleanup).collection side.other) = (s₁, todo) := by
      have htry : (tryBindAll fails side s.nextHandle (add s t side npiId hasCleanup)
          ((add s t side npiId hasCleanup).collection side.other)).2 = some todo := by
        rw [heq]
      rw [bindAll_of_tryBindAll htry, heq]
    refine ⟨[.step (.register t side npiId hasCleanup), .step (.bindScan t)], ?_⟩
    rw [exec_cons, memStep_step, hfirst, Option.bind_some, exec_cons, memStep_step]
    simp only [step, hop', if_pos hmem, hbind]
    rfl

/-! ## Handles are new -/

/-- The handle of the next registration is not in use. -/
def State.Fresh (s : State) : Prop := ∀ side, ∀ h ∈ s.collection side, h < s.nextHandle

theorem fresh_init : State.init.Fresh := by
  intro side h hmem
  cases hmem

theorem State.Fresh.of_eq (hs : s.Fresh) (hcoll : s'.collection = s.collection)
    (hnext : s'.nextHandle = s.nextHandle) : s'.Fresh := by
  unfold State.Fresh
  rw [hcoll, hnext]
  exact hs

theorem State.Fresh.erase (hs : s.Fresh) (t : Tid) (side : Side) (h : Handle) (call : RemoveCall) :
    (eraseRegistration s t side h call).Fresh := by
  intro x g hg
  refine hs x g ?_
  replace hg : g ∈ Function.update s.collection side ((s.collection side).erase h) x := hg
  by_cases hx : x = side
  · subst hx
    rw [Function.update_self] at hg
    exact List.mem_of_mem_erase hg
  · rw [Function.update_of_ne hx] at hg
    exact hg

theorem State.Fresh.add (hs : s.Fresh) (t : Tid) (side : Side) (npiId : Option Nat)
    (hasCleanup : Bool) : (add s t side npiId hasCleanup).Fresh := by
  intro x g hg
  show g < s.nextHandle + 1
  replace hg : g ∈ Function.update s.collection side (s.collection side ++ [s.nextHandle]) x := hg
  by_cases hx : x = side
  · subst hx
    rw [Function.update_self, List.mem_append, List.mem_singleton] at hg
    rcases hg with hg | rfl
    · exact Nat.lt_succ_of_lt (hs x g hg)
    · exact Nat.lt_succ_self _
  · rw [Function.update_of_ne hx] at hg
    exact Nat.lt_succ_of_lt (hs x g hg)

theorem fresh_step {a : Action} (hs : s.Fresh) (h : step s a = some s') : s'.Fresh := by
  cases a with
  | register t side npiId hasCleanup =>
    simp only [step] at h
    split at h <;> cases h
    exact hs.add t side npiId hasCleanup
  | bindScan t =>
    simp only [step] at h
    split at h
    · rename_i side h' hop
      obtain ⟨hcoll, -, -, hnext, -⟩ := bindAll_frame side h' (s.collection side.other) s
      split at h <;> cases h
      · exact hs.of_eq hcoll hnext
      · exact hs.of_eq rfl rfl
    · cases h
  | remove t =>
    simp only [step] at h
    split at h
    · rename_i side h' call hop
      split at h
      · split at h <;> cases h
        · exact hs.of_eq rfl rfl
        · exact hs.erase t side h' call
      · cases h
        exact hs.of_eq rfl rfl
    · cases h
  | wake t =>
    simp only [step] at h
    split at h
    · rename_i side h' call hop
      split at h <;> cases h
      exact hs.erase t side h' call
    · cases h
  | attachReturn t success | finish t =>
    simp only [step] at h
    repeat' split at h
    all_goals cases h
    all_goals exact hs.of_eq (by simp [unbindComplete_eq]) (by simp [unbindComplete_eq])
  | beginUnbind t =>
    simp only [step] at h
    split at h
    · rename_i side h' pending b todo hop
      obtain ⟨d, log, stage, heq, -⟩ :=
        callClientDetach_eq s b ((s.binding b).setStatus .beginUnbind)
      split at h <;> cases h
      · exact hs.of_eq rfl rfl
      · rw [heq]
        exact hs.of_eq rfl rfl
    · cases h
  | clientDetachReturn t clientPending =>
    simp only [step] at h
    split at h
    · rename_i side h' pending todo b hop
      obtain ⟨d, log, stage, heq, -⟩ := callProviderDetach_eq s b
        ((s.binding b).setDetach .client (((s.binding b).detach .client).returned clientPending))
        clientPending
      cases h
      rw [heq]
      exact hs.of_eq rfl rfl
    · cases h
  | attach t | clientAttachProvider t context | providerAttachReturn t write | registerReturn t
  | deregister t side h | unbindScan t order | providerDetachReturn t pending | commit t
  | unbindReturn t | wait t side h | detachComplete t side b =>
    simp only [step] at h
    repeat' split at h
    all_goals cases h
    all_goals exact hs.of_eq rfl rfl

theorem fresh_memStep {a : MemAction} (hs : s.Fresh) (h : memStep s a = some s') : s'.Fresh := by
  cases a with
  | step a => exact fresh_step hs h
  | addFails t =>
    simp only [memStep] at h
    split at h <;> cases h
    exact fun side h hmem => Nat.lt_succ_of_lt (hs side h hmem)
  | scanFails t fails =>
    simp only [memStep] at h
    split at h
    · rename_i side h' hop
      obtain ⟨hcoll, hnext⟩ := tryBindAll_frame fails side h' (s.collection side.other) s
      split at h
      · split at h
        · rename_i s₁ heq
          rw [heq] at hcoll hnext
          cases h
          exact hs.of_eq hcoll hnext
        · cases h
      · cases h
    · cases h

/-! ## Atomicity -/

/-- The collections, the bindings, their statuses and all counts are as they were, and no callback
has been made. -/
structure Unchanged (s s' : State) : Prop where
  collection : s'.collection = s.collection
  bindings : s'.bindings = s.bindings
  count : ∀ side, ∀ h ∈ s.collection side,
    (s'.registration h).bindingCount = (s.registration h).bindingCount
  status : ∀ b ∈ s.bindings, (s'.binding b).status = (s.binding b).status
  log : s'.log = s.log

/-- The target has the NPI id and is not deregistering. -/
def State.Joins (s : State) (npiId : Option Nat) (target : Handle) : Prop :=
  npiId ≠ none ∧ (s.registration target).npiId = npiId ∧
    (s.registration target).deregistering = false

/-- The scan binds the targets that the new registration may join. -/
theorem add_binds {target : Handle} (hlt : target < s.nextHandle) :
    (add s t side npiId hasCleanup).Binds (pairOf side s.nextHandle target) ↔
      s.Joins npiId target := by
  have hself : (add s t side npiId hasCleanup).registration s.nextHandle =
      { Registration.empty with npiId, hasCleanup } :=
    Function.update_self ..
  have htarget : (add s t side npiId hasCleanup).registration target = s.registration target :=
    Function.update_of_ne (Nat.ne_of_lt hlt) ..
  have hderegistering :
      (∀ x, ((add s t side npiId hasCleanup).registration
          (pairOf side s.nextHandle target x)).deregistering = false) ↔
        (s.registration target).deregistering = false := by
    constructor
    · intro h
      have hother := h side.other
      rw [pairOf, if_neg side.ne_other.symm, htarget] at hother
      exact hother
    · intro h x
      unfold pairOf
      split
      · rw [hself]
        rfl
      · rw [htarget]
        exact h
  unfold State.Binds State.Joins State.Matches
  rw [hderegistering, ← and_assoc]
  refine and_congr_left' ?_
  cases side with
  | client =>
    show (_ ≠ none ∧ _ = (State.registration _ target).npiId) ↔ _
    simp only [show pairOf .client s.nextHandle target .client = s.nextHandle from rfl, hself,
      htarget]
    exact and_congr_right' eq_comm
  | provider =>
    simp only [show pairOf .provider s.nextHandle target .client = target from rfl,
      show pairOf .provider s.nextHandle target .provider = s.nextHandle from rfl, hself, htarget]
    exact and_congr_left fun heq => by rw [heq]

theorem nmrRegister_eq_none_iff (hs : s.Fresh) :
    (nmrRegister fails s t side npiId hasCleanup).2 = none ↔
      fails .entry = true ∨ fails .add = true ∨
        ∃ target ∈ s.collection side.other, s.Joins npiId target ∧ RunsOut fails target := by
  unfold nmrRegister
  split
  · rename_i hentry
    exact iff_of_true rfl (.inl hentry)
  · rename_i hentry
    split
    · rename_i hadd
      exact iff_of_true rfl (.inr (.inl hadd))
    · rename_i hadd
      have hscan := tryBindAll_eq_none_iff fails side s.nextHandle
        ((add s t side npiId hasCleanup).collection side.other) (add s t side npiId hasCleanup)
      have htargets : (add s t side npiId hasCleanup).collection side.other =
          s.collection side.other :=
        Function.update_of_ne side.ne_other.symm ..
      have hbinds : (∃ target ∈ s.collection side.other,
            (add s t side npiId hasCleanup).Binds (pairOf side s.nextHandle target) ∧
              RunsOut fails target) ↔
          ∃ target ∈ s.collection side.other, s.Joins npiId target ∧ RunsOut fails target := by
        refine exists_congr fun target => and_congr_right fun hmem => ?_
        rw [add_binds (hs side.other target hmem)]
      rw [htargets, hbinds] at hscan
      simp only [hentry, hadd, Bool.false_eq_true, false_or, htargets, ← hscan]
      split <;> simp_all

/-- A registration that got as far as its scan stays in its collection. -/
theorem nmrRegister_collection (hentry : fails .entry = false) (hadd : fails .add = false) :
    (nmrRegister fails s t side npiId hasCleanup).1.collection =
      Function.update s.collection side (s.collection side ++ [s.nextHandle]) := by
  obtain ⟨hscan, -⟩ := tryBindAll_frame fails side s.nextHandle
    ((add s t side npiId hasCleanup).collection side.other) (add s t side npiId hasCleanup)
  unfold nmrRegister
  simp only [hentry, hadd, Bool.false_eq_true, if_false]
  split
  · rename_i heq
    rw [heq] at hscan
    exact hscan
  · rename_i heq
    rw [heq] at hscan
    exact hscan

/-- From every reachable state, whatever has failed on the way there: a registration that returns
`STATUS_NO_MEMORY` leaves everything as it was if and only if it fails at the entry or in `add`, or
there is memory for the bindings with all targets that it joins. -/
theorem register_atomic (run : List MemAction) (s : State)
    (hrun : exec memStep State.init run = some s) (fails : AllocSite → Bool) (t : Tid) (side : Side)
    (npiId : Option Nat) (hasCleanup : Bool) :
    ((nmrRegister fails s t side npiId hasCleanup).2 = none →
        Unchanged s (nmrRegister fails s t side npiId hasCleanup).1) ↔
      (fails .entry = true ∨ fails .add = true ∨
        ∀ target ∈ s.collection side.other, s.Joins npiId target → ¬ RunsOut fails target) := by
  have hs : s.Fresh := exec_invariant (fun _ _ _ hs h => fresh_memStep hs h) fresh_init hrun
  by_cases hentry : fails .entry = true
  · refine iff_of_true (fun _ => ?_) (.inl hentry)
    simp only [nmrRegister, hentry, if_true]
    exact ⟨rfl, rfl, fun _ _ _ => rfl, fun _ _ => rfl, rfl⟩
  by_cases hadd : fails .add = true
  · refine iff_of_true (fun _ => ?_) (.inr (.inl hadd))
    simp only [nmrRegister, hentry, hadd, if_true]
    exact ⟨rfl, rfl, fun _ _ _ => rfl, fun _ _ => rfl, rfl⟩
  have hchanged : ¬ Unchanged s (nmrRegister fails s t side npiId hasCleanup).1 := by
    intro h
    have hcoll := h.collection
    rw [nmrRegister_collection (by simpa using hentry) (by simpa using hadd)] at hcoll
    have hlength := congrArg List.length (congrFun hcoll side)
    rw [Function.update_self, List.length_append] at hlength
    simp at hlength
  rw [imp_iff_not hchanged, nmrRegister_eq_none_iff hs]
  simp only [hentry, hadd, Bool.false_eq_true, false_or]
  push Not
  rfl

/-- A provider registers. -/
def oneProvider : List MemAction :=
  [.step (.register 0 .provider (some 7) false), .step (.bindScan 0), .step (.registerReturn 0)]

/-- The client is not inserted. -/
theorem register_atomic_add :
    ∃ s, exec memStep State.init oneProvider = some s ∧ s.collection .provider = [1] ∧
      (nmrRegister (· == .add) s 0 .client (some 7) false).2 = none ∧
      Unchanged s (nmrRegister (· == .add) s 0 .client (some 7) false).1 :=
  ⟨_, rfl, rfl, rfl,
    (register_atomic oneProvider _ rfl (· == .add) 0 .client (some 7) false).mpr
      (.inr (.inl rfl)) rfl⟩

/-- There is no memory for the binding: the client stays registered, without a handle to deregister
it, and the provider has a reference that no binding accounts for. -/
theorem failed_registration_stays :
    ∃ s, exec memStep State.init oneProvider = some s ∧
      (nmrRegister (· == .makeShared 1) s 0 .client (some 7) false).2 = none ∧
      (nmrRegister (· == .makeShared 1) s 0 .client (some 7) false).1.collection .client = [2] ∧
      ((nmrRegister (· == .makeShared 1) s 0 .client (some 7) false).1.registration 1).bindingCount
        = 1 ∧
      (nmrRegister (· == .makeShared 1) s 0 .client (some 7) false).1.bindings = [] ∧
      ¬ Unchanged s (nmrRegister (· == .makeShared 1) s 0 .client (some 7) false).1 := by
  refine ⟨_, rfl, rfl, rfl, rfl, rfl, fun h => ?_⟩
  have hcoll := congrFun h.collection .client
  cases hcoll

end Usersim.Nmr
