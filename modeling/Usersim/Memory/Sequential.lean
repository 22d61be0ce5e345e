import Usersim.Memory.Tracker

/-!
# Calls made one at a time

A call of `cxplat_allocate`, `cxplat_reallocate` or `cxplat_free` that no other thread interrupts
is a run of the steps of `Usersim.Memory.Basic` (`call`). Between such calls nothing is in progress
(`Settled`), and the effect of a call can be written down (`call_allocate`, `call_reallocate`,
`call_free`).

`cxplat_reallocate` unregisters the old pointer also when the system refuses to move the block. The
block is then in the hands of the caller but not tracked (`untracked_of_refused`), and its next
reallocate or free fails the assertion of `unregister_allocation`. Every other call leaves things
settled (`settled_call`).
-/

namespace Usersim.Memory

open Lib

variable {limit : Nat} {s s' : State} {t : Tid} {b : Block}

/-! ## Whole calls -/

def Action.thread : Action → Tid
  | .allocate t _ | .reallocate t _ | .free t _ | .register t | .unregister t | .freeBlock t => t

/-- The step a thread takes next. -/
def Pc.next (t : Tid) : Pc → Option Action
  | .idle => none
  | .registering _ => some (.register t)
  | .unregistering .. => some (.unregister t)
  | .freeing _ => some (.freeBlock t)

/-- At most `n` further steps of the call that thread `t` is in. A failed assertion ends them. -/
def finish (limit : Nat) (t : Tid) : Nat → State → Option State
  | 0, s => some s
  | n + 1, s =>
    if s.terminated || s.unregisterFailed then some s
    else
      match (s.pc t).next t with
      | none => some s
      | some a => (step limit s a).bind (finish limit t n)

/-- A call from its first step to its return. -/
def call (limit : Nat) (s : State) (a : Action) : Option State :=
  (step limit s a).bind (finish limit a.thread 2)

/-- The pointer that `cxplat_reallocate` returns; 0 stands for null. -/
def reallocateResult (limit : Nat) (args : ReallocateArgs) : Nat :=
  if limit < args.newSize || args.injectFault then 0
  else
    match args.reply with
    | none => 0
    | some start => start + pointerOffset args.block.header.poolFlags

/-- No call is in progress, and the detector knows the live pointers. -/
structure Settled (s : State) : Prop where
  idle : ∀ t, s.pc t = .idle
  inProgress : s.inProgress = []
  released : s.released = []
  pointers : (s.owned.map Block.pointer).Nodup
  tracked : Tracks s.allocations s.owned []
  unregisterOk : s.unregisterFailed = false

theorem settled_init : Settled State.init where
  idle := fun _ => rfl
  inProgress := rfl
  released := rfl
  pointers := List.nodup_nil
  tracked := by simp [Tracks, State.init]
  unregisterOk := rfl

theorem Settled.heap_eq (hs : Settled s) : s.heap = s.owned := by
  simp [State.heap, hs.inProgress]

theorem Settled.tracked_owned (hs : Settled s) (hb : b ∈ s.owned) :
    s.allocations b.pointer = some b.size :=
  (hs.tracked _ _).mpr (.inl ⟨b, hb, rfl, rfl⟩)

theorem Settled.nodup (hs : Settled s) : s.owned.Nodup := hs.pointers.of_map

/-- The other owned blocks have other pointers. -/
theorem Settled.mem_erase_iff (hs : Settled s) (hb : b ∈ s.owned) (c : Block) :
    c ∈ s.owned.erase b ↔ c ∈ s.owned ∧ c.pointer ≠ b.pointer := by
  rw [hs.nodup.mem_erase_iff]
  constructor
  · rintro ⟨hne, hc⟩
    exact ⟨hc, fun heq => hne (List.inj_on_of_nodup_map hs.pointers hc hb heq)⟩
  · rintro ⟨hc, hne⟩
    exact ⟨fun heq => hne (by rw [heq]), hc⟩

/-! ## The steps that are left of a call -/

theorem finish_idle (h : s.pc t = .idle) (n : Nat) : finish limit t n s = some s := by
  cases n with
  | zero => rfl
  | succ n => simp [finish, h, Pc.next]

theorem finish_succ {a : Action} (hterm : s.terminated = false) (hfail : s.unregisterFailed = false)
    (h : (s.pc t).next t = some a) (n : Nat) :
    finish limit t (n + 1) s = (step limit s a).bind (finish limit t n) := by
  simp [finish, hterm, hfail, h]

/-- After `register_allocation`, with which a call returns. -/
def State.registered (s : State) (t : Tid) (b : Block) : State :=
  { s with
    allocations := Function.update s.allocations b.pointer (some b.size)
    owned := b :: s.owned
    inProgress := s.inProgress.erase (t, b)
    pc := Function.update s.pc t .idle }

theorem finish_registering (hterm : s.terminated = false) (hfail : s.unregisterFailed = false)
    (h : s.pc t = .registering b) (n : Nat) :
    finish limit t (n + 1) s = some (s.registered t b) := by
  have hstep : step limit s (.register t) = some (s.registered t b) := by
    simp [step, hterm, hfail, h, State.registerAllocation, State.registered]
  rw [finish_succ hterm hfail (by rw [h]; rfl), hstep, Option.bind_some]
  exact finish_idle (Function.update_self t .idle s.pc) n

theorem Settled.update_pc (hs : Settled s) (p : Pc) :
    Function.update (Function.update s.pc t p) t .idle = s.pc := by
  rw [Function.update_idem, ← hs.idle t, Function.update_eq_self]

/-- The block a successful allocation makes. -/
def AllocateArgs.block (args : AllocateArgs) (start : Nat) : Block :=
  { start := start
    header := { poolFlags := args.poolFlags, tag := args.tag, size := args.size }
    size := args.size }

/-- The block after a reallocate: the header is copied as it is. -/
def ReallocateArgs.moved (args : ReallocateArgs) (start : Nat) : Block :=
  { args.block with start := start, size := args.newSize }

theorem call_allocate (hs : Settled s) (hterm : s.terminated = false) (t : Tid)
    (args : AllocateArgs) :
    call limit s (.allocate t args) =
      if args.size = 0 then some { s with terminated := true }
      else if limit < args.size || args.injectFault then some s
      else
        match args.reply with
        | none => some s
        | some start =>
          if (args.block start).fits s.owned then
            some { s with
              allocations :=
                Function.update s.allocations (args.block start).pointer (some args.size)
              owned := args.block start :: s.owned }
          else none := by
  have hstep : call limit s (.allocate t args) =
      (cxplatAllocate limit s t args).bind (finish limit t 2) := by
    simp [call, step, hterm, hs.unregisterOk, hs.idle t, Action.thread]
  rw [hstep, cxplatAllocate, hs.heap_eq]
  split
  · refine finish_idle ?_ 2
    exact hs.idle t
  · split
    · exact finish_idle (hs.idle t) 2
    · cases args.reply with
      | none => exact finish_idle (hs.idle t) 2
      | some start =>
        show (if (args.block start).fits s.owned then _ else none : Option State).bind _ = _
        by_cases hfits : (args.block start).fits s.owned = true
        · simp only [if_pos hfits, Option.bind_some]
          refine (finish_registering (s := { s with
            inProgress := (t, args.block start) :: s.inProgress
            pc := Function.update s.pc t (.registering (args.block start)) })
            hterm hs.unregisterOk (Function.update_self ..) 1).trans ?_
          simp only [State.registered, hs.update_pc, List.erase_cons_head]
          rfl
        · simp [hfits]

/-- After `unregister_allocation` of the old pointer of a reallocate that got a block. -/
def State.unregistered (s : State) (t : Tid) (old new : Block) : State :=
  { s with
    allocations := Function.update s.allocations old.pointer none
    released := s.released.erase (t, old)
    pc := Function.update s.pc t (.registering new) }

/-- After the same of one that got none. -/
def State.refused (s : State) (t : Tid) (old : Block) : State :=
  { s with
    allocations := Function.update s.allocations old.pointer none
    owned := old :: s.owned
    inProgress := s.inProgress.erase (t, old)
    released := s.released.erase (t, old)
    pc := Function.update s.pc t .idle }

theorem finish_unregistering {new : Block} {n : Nat} (hterm : s.terminated = false)
    (hfail : s.unregisterFailed = false) (h : s.pc t = .unregistering b (some new))
    (htracked : s.allocations b.pointer = some n) (k : Nat) :
    finish limit t (k + 2) s = some ((s.unregistered t b new).registered t new) := by
  have hstep : step limit s (.unregister t) = some (s.unregistered t b new) := by
    simp [step, hterm, hfail, h, unregisterAllocation_eq htracked, State.unregistered]
  rw [finish_succ hterm hfail (by rw [h]; rfl), hstep, Option.bind_some]
  have hpc : (s.unregistered t b new).pc t = .registering new := Function.update_self ..
  exact finish_registering (s := s.unregistered t b new) hterm hfail hpc k

theorem finish_refused {n : Nat} (hterm : s.terminated = false)
    (hfail : s.unregisterFailed = false) (h : s.pc t = .unregistering b none)
    (htracked : s.allocations b.pointer = some n) (k : Nat) :
    finish limit t (k + 1) s = some (s.refused t b) := by
  have hstep : step limit s (.unregister t) = some (s.refused t b) := by
    simp [step, hterm, hfail, h, unregisterAllocation_eq htracked, State.refused]
  rw [finish_succ hterm hfail (by rw [h]; rfl), hstep, Option.bind_some]
  exact finish_idle (Function.update_self t .idle s.pc) k

theorem finish_freeing (hterm : s.terminated = false) (hfail : s.unregisterFailed = false)
    (h : s.pc t = .freeing b) (k : Nat) :
    finish limit t (k + 1) s = some { s with
      inProgress := s.inProgress.erase (t, b)
      pc := Function.update s.pc t .idle } := by
  have hstep : step limit s (.freeBlock t) = some { s with
      inProgress := s.inProgress.erase (t, b)
      pc := Function.update s.pc t .idle } := by
    simp [step, hterm, hfail, h]
  rw [finish_succ hterm hfail (by rw [h]; rfl), hstep, Option.bind_some]
  exact finish_idle (Function.update_self t .idle s.pc) k

theorem call_reallocate (hs : Settled s) (hterm : s.terminated = false) (t : Tid)
    (args : ReallocateArgs) :
    call limit s (.reallocate t args) =
      if args.block ∈ s.owned then
        if limit < args.newSize || args.injectFault then some s
        else if args.block.header.size ≠ args.oldSize ||
            !args.block.header.agrees args.poolFlags args.tag then
          some { s with terminated := true }
        else
          match args.reply with
          | none =>
            some { s with
              allocations := Function.update s.allocations args.block.pointer none
              owned := args.block :: s.owned.erase args.block }
          | some start =>
            if (args.moved start).fits (s.owned.erase args.block) then
              some { s with
                allocations := Function.update
                  (Function.update s.allocations args.block.pointer none)
                  (args.moved start).pointer (some args.newSize)
                owned := args.moved start :: s.owned.erase args.block }
            else none
      else none := by
  have hstep : call limit s (.reallocate t args) =
      (if args.block ∈ s.owned then cxplatReallocate limit s t args else none).bind
        (finish limit t 2) := by
    simp [call, step, hterm, hs.unregisterOk, hs.idle t, Action.thread]
  rw [hstep]
  by_cases hb : args.block ∈ s.owned
  · have htracked := hs.tracked_owned hb
    rw [if_pos hb, if_pos hb, cxplatReallocate]
    dsimp only
    split
    · refine finish_idle ?_ 2
      exact hs.idle t
    · split
      · exact finish_idle (s := { s with terminated := true }) (hs.idle t) 2
      · cases args.reply with
        | none =>
          refine (finish_refused (s := { s with
            owned := s.owned.erase args.block
            inProgress := (t, args.block) :: s.inProgress
            released := (t, args.block) :: s.released
            pc := Function.update s.pc t (.unregistering args.block none) })
            hterm hs.unregisterOk (Function.update_self ..) htracked 1).trans ?_
          simp only [State.refused, hs.update_pc, List.erase_cons_head]
        | some start =>
          show (if (args.moved start).fits ((s.owned.erase args.block) ++ s.inProgress.map Prod.snd)
            then _ else none : Option State).bind _ = _
          rw [hs.inProgress, List.map_nil, List.append_nil]
          by_cases hfits : (args.moved start).fits (s.owned.erase args.block) = true
          · simp only [if_pos hfits, Option.bind_some]
            refine (finish_unregistering (s := { s with
              owned := s.owned.erase args.block
              inProgress := (t, args.moved start) :: []
              released := (t, args.block) :: s.released
              pc := Function.update s.pc t
                (.unregistering args.block (some (args.moved start))) })
              hterm hs.unregisterOk (Function.update_self ..) htracked 0).trans ?_
            simp only [State.unregistered, State.registered, Function.update_idem,
              List.erase_cons_head]
            rw [← hs.inProgress, ← hs.idle t, Function.update_eq_self]
            rfl
          · simp [hfits]
  · rw [if_neg hb, if_neg hb]
    rfl

theorem call_free (hs : Settled s) (hterm : s.terminated = false) (t : Tid) (args : FreeArgs) :
    call limit s (.free t args) =
      if args.block ∈ s.owned then
        if !args.block.header.agrees args.poolFlags args.tag then
          some { s with terminated := true }
        else
          some { s with
            allocations := Function.update s.allocations args.block.pointer none
            owned := s.owned.erase args.block }
      else none := by
  have hstep : call limit s (.free t args) =
      (if args.block ∈ s.owned then some (cxplatFree s t args) else none).bind
        (finish limit t 2) := by
    simp [call, step, hterm, hs.unregisterOk, hs.idle t, Action.thread]
  rw [hstep]
  by_cases hb : args.block ∈ s.owned
  · rw [if_pos hb, if_pos hb, cxplatFree, Option.bind_some]
    dsimp only
    split
    · exact finish_idle (s := { s with terminated := true }) (hs.idle t) 2
    · rw [unregisterAllocation_eq (hs.tracked_owned hb)]
      refine (finish_freeing (s := { s with
        allocations := Function.update s.allocations args.block.pointer none
        owned := s.owned.erase args.block
        inProgress := (t, args.block) :: s.inProgress
        pc := Function.update s.pc t (.freeing args.block) })
        hterm hs.unregisterOk (Function.update_self ..) 1).trans ?_
      simp only [hs.update_pc, List.erase_cons_head]
  · rw [if_neg hb, if_neg hb]
    rfl

/-! ## What the calls keep -/

theorem Settled.terminate (hs : Settled s) : Settled { s with terminated := true } :=
  ⟨hs.idle, hs.inProgress, hs.released, hs.pointers, hs.tracked, hs.unregisterOk⟩

/-- A new block is registered. -/
theorem Settled.register (hs : Settled s) (hfits : b.fits s.owned = true) :
    Settled { s with
      allocations := Function.update s.allocations b.pointer (some b.size)
      owned := b :: s.owned } where
  idle := hs.idle
  inProgress := hs.inProgress
  released := hs.released
  pointers := by
    rw [List.map_cons, List.nodup_cons]
    exact ⟨pointer_notMem_of_fits hfits, hs.pointers⟩
  tracked := by
    rw [hs.released]
    refine hs.tracked.register ?_ (fun x hx => by cases hx)
    exact fun c hc heq => pointer_notMem_of_fits hfits (List.mem_map.mpr ⟨c, hc, heq⟩)
  unregisterOk := hs.unregisterOk

/-- A block is unregistered and gone. -/
theorem Settled.unregister (hs : Settled s) (hb : b ∈ s.owned) :
    Settled { s with
      allocations := Function.update s.allocations b.pointer none
      owned := s.owned.erase b } where
  idle := hs.idle
  inProgress := hs.inProgress
  released := hs.released
  pointers := hs.pointers.sublist (List.erase_sublist.map _)
  tracked := hs.tracked.unregister (hs.mem_erase_iff hb) (by simp)
  unregisterOk := hs.unregisterOk

/-- A reallocate that reaches the system gets a block. -/
def SystemMoves (limit : Nat) : Action → Prop
  | .reallocate _ args =>
    (limit < args.newSize || args.injectFault) = false →
      args.block.header.size = args.oldSize →
        args.block.header.agrees args.poolFlags args.tag = true → args.reply ≠ none
  | .allocate .. | .free .. | .register _ | .unregister _ | .freeBlock _ => True

instance (limit : Nat) (a : Action) : Decidable (SystemMoves limit a) :=
  match a with
  | .reallocate .. => inferInstanceAs (Decidable (_ → _ → _ → _ ≠ none))
  | .allocate .. | .free .. | .register _ | .unregister _ | .freeBlock _ => isTrue trivial

theorem settled_allocate {args : AllocateArgs} (hs : Settled s) (hterm : s.terminated = false)
    (h : call limit s (.allocate t args) = some s') : Settled s' := by
  rw [call_allocate hs hterm] at h
  split at h
  · cases h
    exact hs.terminate
  · split at h
    · cases h
      exact hs
    · split at h
      · cases h
        exact hs
      · rename_i start hstart
        split at h
        · rename_i hfits
          cases h
          exact hs.register hfits
        · cases h

theorem settled_free {args : FreeArgs} (hs : Settled s) (hterm : s.terminated = false)
    (h : call limit s (.free t args) = some s') : Settled s' := by
  rw [call_free hs hterm] at h
  split at h
  · rename_i hb
    split at h
    · cases h
      exact hs.terminate
    · cases h
      exact hs.unregister hb
  · cases h

theorem settled_reallocate {args : ReallocateArgs} (hs : Settled s) (hterm : s.terminated = false)
    (hmoves : SystemMoves limit (.reallocate t args))
    (h : call limit s (.reallocate t args) = some s') : Settled s' := by
  rw [call_reallocate hs hterm] at h
  split at h
  · rename_i hb
    split at h
    · cases h
      exact hs
    · rename_i hrejected
      split at h
      · cases h
        exact hs.terminate
      · rename_i hheader
        simp only [ne_eq, Bool.or_eq_true, decide_eq_true_eq, Bool.not_eq_true', not_or, not_not,
          Bool.not_eq_false] at hheader
        have hreply := hmoves (eq_false_of_ne_true hrejected) hheader.1 hheader.2
        split at h
        · rename_i hnone
          exact absurd hnone hreply
        · rename_i start hstart
          split at h
          · rename_i hfits
            cases h
            exact (hs.unregister hb).register hfits
          · cases h
  · cases h

theorem terminated_of_call {a : Action} (h : call limit s a = some s') : s.terminated = false := by
  cases hterm : s.terminated with
  | false => rfl
  | true => simp [call, step, hterm] at h

/-- Only the three calls can be made. -/
theorem settled_call {a : Action} (hs : Settled s) (hmoves : SystemMoves limit a)
    (h : call limit s a = some s') : Settled s' := by
  have hterm := terminated_of_call h
  cases a with
  | allocate t args => exact settled_allocate hs hterm h
  | reallocate t args => exact settled_reallocate hs hterm hmoves h
  | free t args => exact settled_free hs hterm h
  | register t | unregister t | freeBlock t =>
    simp [call, step, hterm, hs.unregisterOk, hs.idle t] at h

/-! ## A reallocate that returns null -/

theorem Settled.tracked_iff (hs : Settled s) (p n : Nat) :
    s.allocations p = some n ↔ ∃ b ∈ s.owned, b.pointer = p ∧ b.size = n := by
  rw [hs.tracked]
  simp

/-- The pointer to a block that the system has moved is not null. -/
theorem reallocateResult_eq_zero {args : ReallocateArgs} (h : reallocateResult limit args = 0) :
    (limit < args.newSize || args.injectFault) = true ∨ args.reply = none := by
  unfold reallocateResult at h
  split at h
  · rename_i hrejected
    exact .inl hrejected
  · split at h
    · rename_i hnone
      exact .inr hnone
    · have hpos := pointerOffset_pos args.block.header.poolFlags
      omega

/-- A reallocate that the system refuses leaves the block untracked. -/
theorem untracked_of_refused {args : ReallocateArgs} (hs : Settled s)
    (hok : (limit < args.newSize || args.injectFault) = false)
    (hsize : args.block.header.size = args.oldSize)
    (hagrees : args.block.header.agrees args.poolFlags args.tag = true) (hreply : args.reply = none)
    (h : call limit s (.reallocate t args) = some s') :
    s'.terminated = false ∧ args.block ∈ s'.owned ∧ s'.allocations args.block.pointer = none := by
  have hterm := terminated_of_call h
  rw [call_reallocate hs hterm] at h
  split at h
  · rw [if_neg (by rw [hok]; decide), if_neg (by simp [hsize, hagrees]), hreply] at h
    cases h
    exact ⟨hterm, List.mem_cons_self, Function.update_self ..⟩
  · cases h

theorem unchanged_of_null {args : ReallocateArgs} (hs : Settled s)
    (hmoves : SystemMoves limit (.reallocate t args)) (hnull : reallocateResult limit args = 0)
    (h : call limit s (.reallocate t args) = some s') (hterm' : s'.terminated = false) :
    args.block ∈ s'.owned ∧ s'.allocations = s.allocations := by
  have hterm := terminated_of_call h
  rw [call_reallocate hs hterm] at h
  split at h
  · rename_i hb
    split at h
    · cases h
      exact ⟨hb, rfl⟩
    · rename_i hrejected
      have hnone := (reallocateResult_eq_zero hnull).resolve_left hrejected
      split at h
      · cases h
        cases hterm'
      · rename_i hheader
        simp only [ne_eq, Bool.or_eq_true, decide_eq_true_eq, Bool.not_eq_true', not_or, not_not,
          Bool.not_eq_false] at hheader
        exact absurd hnone (hmoves (eq_false_of_ne_true hrejected) hheader.1 hheader.2)
  · cases h

/-! ## Calls of the examples -/

/-- Thread `t` resizes a block of 8 bytes; the system answers with `reply`. -/
def resizeAt (t : Tid) (start newSize : Nat) (reply : Option Nat) : Action :=
  .reallocate t
    { block := blockAt start, poolFlags := 0, oldSize := 8, newSize := newSize, tag := 0,
      injectFault := false, reply := reply }

/-- An allocation, made as a whole call. -/
def allocateCallAt (t : Tid) (start : Nat) : Action :=
  .allocate t { poolFlags := 0, size := 8, tag := 0, injectFault := false, reply := some start }

end Usersim.Memory
