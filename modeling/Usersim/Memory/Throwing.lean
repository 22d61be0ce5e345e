import Usersim.Memory.Sequential

/-!
# Calls in which the leak detector throws

`register_allocation` and `unregister_allocation` allocate: the vector for the stack, the entries of
their maps. `std::bad_alloc` leaves the call in the middle (`throwing`): the pointer of a new block
is then never returned, and the block is lost (`Sequence.lost`); a free has not given its block
back. What becomes of the entry depends on how far the detector has come.

* `tracker_survives_iff` — a sequence of calls keeps the detector right just when the system refuses
  no reallocate, and what the detector throws it throws on the right side of the change of its entry
-/

namespace Usersim.Memory

open Lib

variable {limit : Nat} {s s' : State} {t : Tid} {b : Block}

/-! ## The calls -/

/-- Where the detector throws `std::bad_alloc`. -/
inductive Throw where
  /-- In `register_allocation`, before or after it has made the entry. -/
  | register (entered : Bool)
  /-- In `unregister_allocation`, before or after it has erased the entry. -/
  | unregister (erased : Bool)
deriving DecidableEq, Repr

/-- A call, and whether the detector throws in it. -/
structure Attempt where
  call : Action
  throws : Option Throw
deriving DecidableEq, Repr

/-- A sequence of calls. -/
structure Sequence where
  memory : State
  /-- The new blocks of calls that were left by an exception. -/
  lost : List Block

def Sequence.init : Sequence where
  memory := State.init
  lost := []

/-- `register_allocation` of a thread throws: the block is lost. -/
def registerThrows (s : State) (t : Tid) (entered : Bool) : Option (State × List Block) :=
  match s.pc t with
  | .registering b =>
    some ({ (if entered then s.registerAllocation b.pointer b.size else s) with
      inProgress := s.inProgress.erase (t, b)
      pc := Function.update s.pc t .idle }, [b])
  | _ => none

/-- `unregister_allocation` of a reallocate throws: the block that the system has moved is lost, and
one that it could not move stays the caller's. -/
def unregisterThrows (s : State) (t : Tid) (erased : Bool) : Option (State × List Block) :=
  match s.pc t with
  | .unregistering old (some new) =>
    some ({ (if erased then s.unregisterAllocation old.pointer else s) with
      inProgress := s.inProgress.erase (t, new)
      released := s.released.erase (t, old)
      pc := Function.update s.pc t .idle }, [new])
  | .unregistering old none =>
    some ({ (if erased then s.unregisterAllocation old.pointer else s) with
      owned := old :: s.owned
      inProgress := s.inProgress.erase (t, old)
      released := s.released.erase (t, old)
      pc := Function.update s.pc t .idle }, [])
  | _ => none

/-- `unregister_allocation` throws in `cxplat_free`, after the header assertions. The block is not
given back, and the caller still knows it. -/
def freeThrows (s : State) (args : FreeArgs) (erased : Bool) : Option (State × List Block) :=
  if !args.block.header.agrees args.poolFlags args.tag then none
  else some (if erased then s.unregisterAllocation args.block.pointer else s, [])

/-- A call up to the exception, and what is lost by it; `none` if it does
not come as far as that. -/
def throwing (limit : Nat) (s : State) : Action → Throw → Option (State × List Block)
  | .allocate t args, .register entered =>
    (step limit s (.allocate t args)).bind fun s => registerThrows s t entered
  | .reallocate t args, .unregister erased =>
    (step limit s (.reallocate t args)).bind fun s => unregisterThrows s t erased
  | .reallocate t args, .register entered =>
    ((step limit s (.reallocate t args)).bind fun s => step limit s (.unregister t)).bind fun s =>
      registerThrows s t entered
  | .free t args, .unregister erased =>
    if s.terminated || s.unregisterFailed then none
    else if s.pc t = .idle ∧ args.block ∈ s.owned then freeThrows s args erased
    else none
  | _, _ => none

/-- No block overlaps a lost one. -/
def Apart (blocks lost : List Block) : Bool :=
  blocks.all fun b => lost.all fun c => b.stop ≤ c.start || c.stop ≤ b.start

/-- A call that returns, or one that an exception leaves. -/
def attempt (limit : Nat) (x : Sequence) (a : Attempt) : Option Sequence :=
  let result :=
    match a.throws with
    | none => (call limit x.memory a.call).map fun s => (s, [])
    | some th => throwing limit x.memory a.call th
  result.bind fun y =>
    if Apart (y.1.owned ++ y.2) x.lost then some { memory := y.1, lost := y.2 ++ x.lost } else none

/-! ## The specification -/

/-- A call has not failed the assertion of `unregister_allocation`, the detector knows the blocks
the callers have after it, and a reallocate that returns null has changed nothing. -/
structure TrackerSurvives (limit : Nat) (s : State) (a : Attempt) (s' : State) : Prop where
  unregisterOk : s'.unregisterFailed = false
  tracked : ∀ p n, s'.allocations p = some n ↔ ∃ b ∈ s'.owned, b.pointer = p ∧ b.size = n
  unchanged : ∀ t args, a = ⟨.reallocate t args, none⟩ → reallocateResult limit args = 0 →
    args.block ∈ s'.owned ∧ s'.allocations = s.allocations

def KeepsTracker (limit : Nat) (x : Sequence) (a : Attempt) : Prop :=
  ∀ x', attempt limit x a = some x' → x'.memory.terminated = false →
    TrackerSurvives limit x.memory a x'.memory

/-- What is thrown comes before an entry for a lost block is made, before the entry of a block that
stays is erased, and after the one of a block that the system has moved away. -/
def Throw.inTime (c : Action) : Throw → Prop
  | .register entered => entered = false
  | .unregister erased =>
    match c with
    | .reallocate _ args => erased = args.reply.isSome
    | _ => erased = false

instance (c : Action) (th : Throw) : Decidable (th.inTime c) :=
  match th, c with
  | .register entered, _ => inferInstanceAs (Decidable (entered = false))
  | .unregister erased, .reallocate _ args =>
      inferInstanceAs (Decidable (erased = args.reply.isSome))
  | .unregister erased, .allocate .. | .unregister erased, .free ..
  | .unregister erased, .register _ | .unregister erased, .unregister _
  | .unregister erased, .freeBlock _ => inferInstanceAs (Decidable (erased = false))

/-- The system moves the block of a reallocate, and what the detector throws it throws in time. -/
def TracksRight (limit : Nat) (a : Attempt) : Prop :=
  match a.throws with
  | none => SystemMoves limit a.call
  | some th => th.inTime a.call

instance (limit : Nat) (a : Attempt) : Decidable (TracksRight limit a) :=
  match a with
  | ⟨c, none⟩ => inferInstanceAs (Decidable (SystemMoves limit c))
  | ⟨c, some th⟩ => inferInstanceAs (Decidable (th.inTime c))

/-! ## The detector throws -/

theorem Settled.step_allocate (hs : Settled s) (hterm : s.terminated = false) (t : Tid)
    (args : AllocateArgs) :
    step limit s (.allocate t args) = cxplatAllocate limit s t args := by
  simp [step, hterm, hs.unregisterOk, hs.idle t]

theorem Settled.step_reallocate (hs : Settled s) (hterm : s.terminated = false) (t : Tid)
    (args : ReallocateArgs) :
    step limit s (.reallocate t args) =
      if args.block ∈ s.owned then cxplatReallocate limit s t args else none := by
  simp [step, hterm, hs.unregisterOk, hs.idle t]

theorem registerThrows_eq (h : s.pc t = .registering b) (entered : Bool) :
    registerThrows s t entered =
      some ({ (if entered then s.registerAllocation b.pointer b.size else s) with
        inProgress := s.inProgress.erase (t, b)
        pc := Function.update s.pc t .idle }, [b]) := by
  simp [registerThrows, h]

theorem registerThrows_idle (h : s.pc t = .idle) (entered : Bool) :
    registerThrows s t entered = none := by
  simp [registerThrows, h]

theorem unregisterThrows_idle (h : s.pc t = .idle) (erased : Bool) :
    unregisterThrows s t erased = none := by
  simp [unregisterThrows, h]

/-- An allocate that the detector leaves has a new block, and the caller never knows of it. -/
theorem throwing_allocate {args : AllocateArgs} {entered : Bool} {y : State × List Block}
    (hs : Settled s) (hterm : s.terminated = false)
    (h : throwing limit s (.allocate t args) (.register entered) = some y) :
    ∃ b : Block, b.fits s.owned = true ∧
      y.1 = if entered then
          { s with allocations := Function.update s.allocations b.pointer (some b.size) }
        else s := by
  rw [throwing, hs.step_allocate hterm, cxplatAllocate, hs.heap_eq] at h
  split at h
  · rw [Option.bind_some, registerThrows_idle (s := { s with terminated := true }) (hs.idle t)] at h
    cases h
  · split at h
    · rw [Option.bind_some, registerThrows_idle (hs.idle t)] at h
      cases h
    · cases hreply : args.reply with
      | none =>
        rw [hreply, Option.bind_some, registerThrows_idle (hs.idle t)] at h
        cases h
      | some start =>
        rw [hreply] at h
        dsimp only at h
        split at h
        · rename_i hfits
          rw [Option.bind_some, registerThrows_eq (Function.update_self ..)] at h
          refine ⟨args.block start, hfits, ?_⟩
          rw [← Option.some.inj h]
          cases entered with
          | false => simp [hs.update_pc]
          | true => simp [State.registerAllocation, hs.update_pc]; rfl
        · cases h

/-- The old block has left the hands of its caller: the system is moving it, or has refused to. -/
def State.moving (s : State) (t : Tid) (old : Block) (new : Option Block) : State :=
  { s with
    owned := s.owned.erase old
    inProgress := [(t, new.getD old)]
    released := [(t, old)]
    pc := Function.update s.pc t (.unregistering old new) }

/-- A reallocate that comes to the detector. -/
theorem step_reallocate_eq {args : ReallocateArgs} {s₁ : State} (hs : Settled s)
    (hterm : s.terminated = false) (h : step limit s (.reallocate t args) = some s₁)
    (hpc : s₁.pc t ≠ .idle) :
    args.block ∈ s.owned ∧
      ((args.reply = none ∧ s₁ = s.moving t args.block none) ∨
        ∃ start, args.reply = some start ∧
          (args.moved start).fits (s.owned.erase args.block) = true ∧
          s₁ = s.moving t args.block (some (args.moved start))) := by
  rw [hs.step_reallocate hterm] at h
  split at h
  · rename_i hb
    rw [cxplatReallocate] at h
    dsimp only at h
    split at h
    · cases h
      exact absurd (hs.idle t) hpc
    · split at h
      · cases h
        exact absurd (hs.idle t) hpc
      · cases hreply : args.reply with
        | none =>
          rw [hreply] at h
          refine ⟨hb, .inl ⟨rfl, ?_⟩⟩
          rw [← Option.some.inj h, hs.inProgress, hs.released]
          rfl
        | some start =>
          rw [hreply] at h
          dsimp only at h
          split at h
          · rename_i hfits
            refine ⟨hb, .inr ⟨start, rfl, ?_, ?_⟩⟩
            · rw [State.heap] at hfits
              dsimp only at hfits
              rw [hs.inProgress] at hfits
              rw [List.map_nil, List.append_nil] at hfits
              exact hfits
            · rw [← Option.some.inj h, hs.inProgress, hs.released]
              rfl
          · cases h
  · cases h

/-- `unregister_allocation` throws: nothing is in progress any more, and the caller has the block
back if the system has not moved it. -/
theorem throwing_unregister {args : ReallocateArgs} {erased : Bool} {y : State × List Block}
    (hs : Settled s) (hterm : s.terminated = false)
    (h : throwing limit s (.reallocate t args) (.unregister erased) = some y) :
    args.block ∈ s.owned ∧
      y.1 = { s with
        allocations :=
          if erased then Function.update s.allocations args.block.pointer none else s.allocations
        owned := (if args.reply.isSome then [] else [args.block]) ++
          s.owned.erase args.block } := by
  obtain ⟨s₁, h₁, h₂⟩ := Option.bind_eq_some_iff.mp h
  have hpc : s₁.pc t ≠ .idle := by
    intro hidle
    rw [unregisterThrows_idle hidle] at h₂
    cases h₂
  obtain ⟨hb, hmoving⟩ := step_reallocate_eq hs hterm h₁ hpc
  refine ⟨hb, ?_⟩
  have htracked := hs.tracked_owned hb
  rcases hmoving with ⟨hreply, rfl⟩ | ⟨start, hreply, hfits, rfl⟩
  · rw [hreply]
    simp only [unregisterThrows, State.moving, Function.update_self] at h₂
    rw [← Option.some.inj h₂]
    cases erased with
    | false => simp [hs.update_pc, hs.inProgress, hs.released]
    | true =>
      simp [State.unregisterAllocation, htracked, hs.update_pc, hs.inProgress, hs.released]
  · rw [hreply]
    simp only [unregisterThrows, State.moving, Function.update_self] at h₂
    rw [← Option.some.inj h₂]
    cases erased with
    | false => simp [hs.update_pc, hs.inProgress, hs.released]
    | true =>
      simp [State.unregisterAllocation, htracked, hs.update_pc, hs.inProgress, hs.released]

/-- `register_allocation` throws in a reallocate: the moved block is lost. -/
theorem throwing_reallocate {args : ReallocateArgs} {entered : Bool} {y : State × List Block}
    (hs : Settled s) (hterm : s.terminated = false)
    (h : throwing limit s (.reallocate t args) (.register entered) = some y) :
    args.block ∈ s.owned ∧ ∃ b : Block, b.fits (s.owned.erase args.block) = true ∧
      y.1 = { s with
        allocations :=
          if entered then
            Function.update (Function.update s.allocations args.block.pointer none) b.pointer
              (some b.size)
          else Function.update s.allocations args.block.pointer none
        owned := s.owned.erase args.block } := by
  obtain ⟨s₂, h₂, h₃⟩ := Option.bind_eq_some_iff.mp h
  obtain ⟨s₁, h₁, h₂⟩ := Option.bind_eq_some_iff.mp h₂
  have hpc : s₁.pc t ≠ .idle := by
    intro hidle
    simp [step, hidle] at h₂
  obtain ⟨hb, hmoving⟩ := step_reallocate_eq hs hterm h₁ hpc
  refine ⟨hb, ?_⟩
  have htracked := hs.tracked_owned hb
  rcases hmoving with ⟨hreply, rfl⟩ | ⟨start, hreply, hfits, rfl⟩
  · -- the call has returned null
    have hidle : s₂.pc t = .idle := by
      simp [step, State.moving, hterm, hs.unregisterOk] at h₂
      rw [← h₂]
      exact Function.update_self ..
    rw [registerThrows_idle hidle] at h₃
    cases h₃
  · refine ⟨args.moved start, hfits, ?_⟩
    have hs₂ : s₂ = ((s.moving t args.block (some (args.moved start))).unregistered t args.block
        (args.moved start)) := by
      simp [step, State.moving, hterm, hs.unregisterOk, State.unregisterAllocation, htracked] at h₂
      rw [← h₂]
      simp [State.unregistered, State.moving, hterm, hs.unregisterOk]
    rw [hs₂, registerThrows_eq (Function.update_self ..)] at h₃
    rw [← Option.some.inj h₃]
    cases entered with
    | false =>
      simp [State.unregistered, State.moving, hs.update_pc, hs.inProgress, hs.released]
    | true =>
      simp [State.registerAllocation, State.unregistered, State.moving, hs.update_pc, hs.inProgress,
        hs.released]

theorem throwing_free {args : FreeArgs} {erased : Bool} {y : State × List Block}
    (hs : Settled s) (h : throwing limit s (.free t args) (.unregister erased) = some y) :
    args.block ∈ s.owned ∧
      y.1 = if erased then
          { s with allocations := Function.update s.allocations args.block.pointer none }
        else s := by
  rw [throwing] at h
  split at h
  · cases h
  · split at h
    · rename_i hcall
      refine ⟨hcall.2, ?_⟩
      rw [freeThrows] at h
      split at h
      · cases h
      · rw [← Option.some.inj h]
        cases erased with
        | false => rfl
        | true => simp [unregisterAllocation_eq (hs.tracked_owned hcall.2)]
    · cases h

/-! ## What is left after it -/

/-- The blocks the callers know, in another order. -/
theorem Settled.reorder (hs : Settled s) {blocks : List Block} (h : blocks.Perm s.owned) :
    Settled { s with owned := blocks } where
  idle := hs.idle
  inProgress := hs.inProgress
  released := hs.released
  pointers := (h.map Block.pointer).nodup_iff.mpr hs.pointers
  tracked := by
    intro p n
    rw [hs.tracked]
    simp only [h.mem_iff]
  unregisterOk := hs.unregisterOk

/-- What is thrown in time leaves things settled. -/
theorem settled_throwing {a : Action} {th : Throw} {y : State × List Block} (hs : Settled s)
    (hterm : s.terminated = false) (hin : th.inTime a) (h : throwing limit s a th = some y) :
    Settled y.1 := by
  cases a with
  | allocate t args =>
    cases th with
    | register entered =>
      obtain ⟨b, -, hy⟩ := throwing_allocate hs hterm h
      cases hin
      rw [hy]
      exact hs
    | unregister erased => cases h
  | reallocate t args =>
    cases th with
    | register entered =>
      obtain ⟨hb, c, -, hy⟩ := throwing_reallocate hs hterm h
      cases hin
      rw [hy]
      exact hs.unregister hb
    | unregister erased =>
      obtain ⟨hb, hy⟩ := throwing_unregister hs hterm h
      have herased : erased = args.reply.isSome := hin
      rw [hy, herased]
      cases args.reply with
      | none => exact hs.reorder (List.perm_cons_erase hb).symm
      | some start => exact hs.unregister hb
  | free t args =>
    cases th with
    | register entered => cases h
    | unregister erased =>
      obtain ⟨-, hy⟩ := throwing_free hs h
      cases hin
      rw [hy]
      exact hs
  | register t | unregister t | freeBlock t => cases h

/-- What is thrown too late, or too early, leaves an entry without a block or a block without an
entry. -/
theorem inTime_of_tracked {a : Action} {th : Throw} {y : State × List Block} (hs : Settled s)
    (hterm : s.terminated = false) (h : throwing limit s a th = some y)
    (htracked : ∀ p n, y.1.allocations p = some n ↔ ∃ b ∈ y.1.owned, b.pointer = p ∧ b.size = n) :
    th.inTime a := by
  cases a with
  | allocate t args =>
    cases th with
    | register entered =>
      obtain ⟨b, hfits, hy⟩ := throwing_allocate hs hterm h
      cases entered with
      | false => rfl
      | true =>
        rw [if_pos rfl] at hy
        rw [hy] at htracked
        obtain ⟨c, hc, heq, -⟩ := (htracked b.pointer b.size).mp (Function.update_self ..)
        exact absurd (List.mem_map.mpr ⟨c, hc, heq⟩) (pointer_notMem_of_fits hfits)
    | unregister erased => cases h
  | reallocate t args =>
    cases th with
    | register entered =>
      obtain ⟨hb, b, hfits, hy⟩ := throwing_reallocate hs hterm h
      cases entered with
      | false => rfl
      | true =>
        rw [if_pos rfl] at hy
        rw [hy] at htracked
        obtain ⟨c, hc, heq, -⟩ := (htracked b.pointer b.size).mp (Function.update_self ..)
        exact absurd (List.mem_map.mpr ⟨c, hc, heq⟩) (pointer_notMem_of_fits hfits)
    | unregister erased =>
      obtain ⟨hb, hy⟩ := throwing_unregister hs hterm h
      rw [hy] at htracked
      show erased = args.reply.isSome
      cases erased with
      | false =>
        cases hreply : args.reply with
        | none => rfl
        | some start =>
          -- the entry of the old pointer is left, and the block is not
          simp only [hreply, Option.isSome_some, if_pos, List.nil_append] at htracked
          obtain ⟨c, hc, heq, -⟩ :=
            (htracked args.block.pointer args.block.size).mp (hs.tracked_owned hb)
          exact absurd heq ((hs.mem_erase_iff hb c).mp hc).2
      | true =>
        cases hreply : args.reply with
        | some start => rfl
        | none =>
          have hsome := (htracked args.block.pointer args.block.size).mpr
            ⟨args.block, by simp [hreply], rfl, rfl⟩
          simp at hsome
  | free t args =>
    cases th with
    | register entered => cases h
    | unregister erased =>
      obtain ⟨hb, hy⟩ := throwing_free hs h
      cases erased with
      | false => rfl
      | true =>
        rw [if_pos rfl] at hy
        rw [hy] at htracked
        have hsome := (htracked args.block.pointer args.block.size).mpr ⟨args.block, hb, rfl, rfl⟩
        simp at hsome
  | register t | unregister t | freeBlock t => cases h

/-! ## Sequences of calls -/

theorem attempt_eq_some {x x' : Sequence} {a : Attempt} (h : attempt limit x a = some x') :
    (a.throws = none ∧ call limit x.memory a.call = some x'.memory) ∨
      ∃ th y, a.throws = some th ∧ throwing limit x.memory a.call th = some y ∧
        y.1 = x'.memory := by
  rw [attempt] at h
  obtain ⟨y, hy, h⟩ := Option.bind_eq_some_iff.mp h
  split at h
  · cases hthrows : a.throws with
    | none =>
      rw [hthrows] at hy
      obtain ⟨s₁, hcall, rfl⟩ := Option.map_eq_some_iff.mp hy
      refine .inl ⟨rfl, ?_⟩
      rw [← Option.some.inj h]
      exact hcall
    | some th =>
      rw [hthrows] at hy
      refine .inr ⟨th, y, rfl, hy, ?_⟩
      rw [← Option.some.inj h]
  · cases h

theorem running_of_throwing {a : Action} {th : Throw} {y : State × List Block}
    (h : throwing limit s a th = some y) : s.terminated = false := by
  cases hterm : s.terminated with
  | false => rfl
  | true => cases a <;> cases th <;> simp [throwing, step, hterm] at h

theorem settled_attempt {x x' : Sequence} {a : Attempt} (hs : Settled x.memory)
    (hright : TracksRight limit a) (h : attempt limit x a = some x') : Settled x'.memory := by
  rcases attempt_eq_some h with ⟨hthrows, hcall⟩ | ⟨th, y, hthrows, hcall, hy⟩
  · rw [TracksRight, hthrows] at hright
    exact settled_call hs hright hcall
  · rw [TracksRight, hthrows] at hright
    rw [← hy]
    exact settled_throwing hs (running_of_throwing hcall) hright hcall

theorem systemMoves_of_tracked {a : Action} (hs : Settled s) (h : call limit s a = some s')
    (htracked : s'.terminated = false →
      ∀ p n, s'.allocations p = some n ↔ ∃ b ∈ s'.owned, b.pointer = p ∧ b.size = n) :
    SystemMoves limit a := by
  cases a with
  | reallocate t args =>
    intro hok hsize hagrees hreply
    obtain ⟨hterm, hmem, hnone⟩ := untracked_of_refused hs hok hsize hagrees hreply h
    have hsome := (htracked hterm args.block.pointer args.block.size).mpr
      ⟨args.block, hmem, rfl, rfl⟩
    rw [hnone] at hsome
    cases hsome
  | allocate t args | free t args | register t | unregister t | freeBlock t => trivial

/-- A call that an exception leaves has not failed an assertion. -/
theorem Settled.running_throwing {a : Action} {th : Throw} {y : State × List Block} (hs : Settled s)
    (h : throwing limit s a th = some y) : y.1.terminated = false := by
  have hterm := running_of_throwing h
  cases a with
  | allocate t args =>
    cases th with
    | register entered =>
      obtain ⟨b, -, hy⟩ := throwing_allocate hs hterm h
      rw [hy]
      split
      · exact hterm
      · exact hterm
    | unregister erased => cases h
  | reallocate t args =>
    cases th with
    | register entered =>
      obtain ⟨-, c, -, hy⟩ := throwing_reallocate hs hterm h
      rw [hy]
      exact hterm
    | unregister erased =>
      obtain ⟨-, hy⟩ := throwing_unregister hs hterm h
      rw [hy]
      exact hterm
  | free t args =>
    cases th with
    | register entered => cases h
    | unregister erased =>
      obtain ⟨-, hy⟩ := throwing_free hs h
      rw [hy]
      split
      · exact hterm
      · exact hterm
  | register t | unregister t | freeBlock t => cases h

theorem keepsTracker_iff {x x' : Sequence} {a : Attempt} (hs : Settled x.memory)
    (h : attempt limit x a = some x') : KeepsTracker limit x a ↔ TracksRight limit a := by
  constructor
  · intro hkeeps
    have hsurvives := hkeeps x' h
    rcases attempt_eq_some h with ⟨hthrows, hcall⟩ | ⟨th, y, hthrows, hcall, hy⟩
    · rw [TracksRight, hthrows]
      exact systemMoves_of_tracked hs hcall fun hterm => (hsurvives hterm).tracked
    · rw [TracksRight, hthrows]
      rw [← hy] at hsurvives
      exact inTime_of_tracked hs (running_of_throwing hcall) hcall
        (hsurvives (hs.running_throwing hcall)).tracked
  · intro hright x₁ h₁ hterm
    have hs₁ := settled_attempt hs hright h₁
    refine ⟨hs₁.unregisterOk, hs₁.tracked_iff, ?_⟩
    rintro t args rfl hnull
    rcases attempt_eq_some h₁ with ⟨-, hcall⟩ | ⟨th, y, hthrows, -⟩
    · exact unchanged_of_null hs hright hnull hcall hterm
    · cases hthrows

/--
Every sequence of calls: the detector is right after every call, and a reallocate that returns null
leaves the block and the detector as they were, if and only if the system refuses no reallocate that
reaches it, and the detector throws in time or not at all.
-/
theorem tracker_survives_iff (limit : Nat) (calls : List Attempt) (x : Sequence)
    (hrun : exec (attempt limit) Sequence.init calls = some x) :
    Guarded (attempt limit) (KeepsTracker limit) Sequence.init calls ↔
      Guarded (attempt limit) (fun _ a => TracksRight limit a) Sequence.init calls :=
  guarded_iff_of_exec (P := fun x => Settled x.memory) (fun _ _ _ hs h => keepsTracker_iff hs h)
    (fun _ _ _ hs hright h => settled_attempt hs hright h) settled_init hrun

/-- A call that returns. -/
def returning (a : Action) : Attempt := { call := a, throws := none }

/-- The first reallocate is above the limit and returns null; the second gets a block. Then the
detector cannot allocate, and the free is made again. -/
def rejectedThenMoved (t : Tid) : List Attempt :=
  let freed : Action :=
    .free t { block := { blockAt 0x2000 with size := 32 }, poolFlags := 0, tag := 0 }
  [returning (allocateCallAt t 0x1000), returning (resizeAt t 0x1000 4096 none),
    returning (resizeAt t 0x1000 32 (some 0x2000)), ⟨freed, some (.unregister false)⟩,
    ⟨allocateCallAt t 0x3000, some (.register false)⟩, returning freed]

theorem tracker_survives_iff_rejectedThenMoved :
    ∃ x, exec (attempt 1024) Sequence.init (rejectedThenMoved 0) = some x ∧
      x.memory.owned = [] ∧ x.memory.allocations 0x2010 = none ∧ x.lost = [blockAt 0x3000] ∧
      Guarded (attempt 1024) (KeepsTracker 1024) Sequence.init (rejectedThenMoved 0) := by
  obtain ⟨x, hx, h₁, h₂, h₃⟩ :
      ∃ x, exec (attempt 1024) Sequence.init (rejectedThenMoved 0) = some x ∧
        x.memory.owned = [] ∧ x.memory.allocations 0x2010 = none ∧ x.lost = [blockAt 0x3000] :=
    exec_of_check (by decide +kernel)
  have hg : Guarded (attempt 1024) (fun _ a => TracksRight 1024 a) Sequence.init
      (rejectedThenMoved 0) :=
    guarded_of_check (by decide +kernel)
  exact ⟨x, hx, h₁, h₂, h₃, (tracker_survives_iff 1024 (rejectedThenMoved 0) x hx).mpr hg⟩

/-- The system refuses to move a block, and the caller frees it. -/
def refusedThenFreed (t : Tid) : List Attempt :=
  [returning (allocateCallAt t 0x1000), returning (resizeAt t 0x1000 32 none),
    returning (.free t { block := blockAt 0x1000, poolFlags := 0, tag := 0 })]

/-- The free fails the assertion of `unregister_allocation`. -/
theorem refused_reallocate_untracks :
    (∃ x, exec (attempt (2 ^ 64 - 1)) Sequence.init (refusedThenFreed 0) = some x ∧
      x.memory.unregisterFailed = true ∧ x.memory.terminated = false) ∧
    ¬ Guarded (attempt (2 ^ 64 - 1)) (KeepsTracker (2 ^ 64 - 1)) Sequence.init
        (refusedThenFreed 0) := by
  obtain ⟨x, hx, hfailed⟩ :
      ∃ x, exec (attempt (2 ^ 64 - 1)) Sequence.init (refusedThenFreed 0) = some x ∧
        x.memory.unregisterFailed = true ∧ x.memory.terminated = false :=
    exec_of_check (by decide +kernel)
  refine ⟨⟨x, hx, hfailed⟩, fun hg => ?_⟩
  have hsurvives := (hg.2 _ rfl).1 _ rfl rfl
  have hsome := (hsurvives.tracked 0x1010 8).mpr ⟨blockAt 0x1000, List.mem_cons_self, rfl, rfl⟩
  cases hsome

end Usersim.Memory
