import Mathlib.Data.Nat.Bitwise
import Mathlib.Logic.Function.Basic
import Usersim.Basic
import Usersim.Lib.Run

/-!
# Tracked allocations (`memory_winuser.cpp`, `leak_detector.cpp`)

A debug build with the leak detector on. `cxplat_allocate` gets a block from the system and then
registers the pointer it returns; `cxplat_free` unregisters it and then gives the block back;
`cxplat_reallocate` lets the system move the block first, then unregisters the old pointer and
registers the new one. The system's heap and the detector are updated in different steps, between
which other threads run.

The system's allocator is outside: it returns a block that overlaps no allocated one, or fails.
Blocks are known by their callers while they are in `owned` and belong to a call while they are in
`inProgress`. `released` holds the old blocks of the reallocates that have yet to unregister them.
-/

namespace Usersim.Memory

open Lib

/-- `cxplat_pool_flags_t`. -/
abbrev PoolFlags := BitVec 32

def cacheAligned : PoolFlags := 0x00000008
def uninitialized : PoolFlags := 0x00000002
def nonPaged : PoolFlags := 0x00000040
def paged : PoolFlags := 0x00000100

def cacheLineSize : Nat := 64

/-- `sizeof(cxplat_allocation_header_t)`. -/
def headerLength : Nat := 16

/-- `cxplat_allocation_header_t`. -/
structure Header where
  poolFlags : PoolFlags
  tag : BitVec 32
  size : Nat
deriving DecidableEq, Repr

/-- `ALIGNED_POINTER_OFFSET` or `UNALIGNED_POINTER_OFFSET`. -/
def pointerOffset (poolFlags : PoolFlags) : Nat :=
  if poolFlags &&& cacheAligned ≠ 0 then cacheLineSize else headerLength

/-- A block of the system's heap, with the size its caller knows. -/
structure Block where
  start : Nat
  header : Header
  size : Nat
deriving DecidableEq, Repr

/-- The pointer that is handed out. -/
def Block.pointer (b : Block) : Nat := b.start + pointerOffset b.header.poolFlags

/-- The first address behind the block. -/
def Block.stop (b : Block) : Nat := b.pointer + b.size

/-- The system returns blocks inside the address space that overlap no other one. A size that
makes `full_size` wrap has no such block; the code then writes beyond the address space. -/
def Block.fits (b : Block) (heap : List Block) : Bool :=
  0 < b.start && b.stop ≤ 2 ^ 64 && heap.all fun c => b.stop ≤ c.start || c.stop ≤ b.start

inductive Pc where
  | idle
  /-- About to call `register_allocation`. -/
  | registering (block : Block)
  /-- In `cxplat_reallocate`, about to call `unregister_allocation`; `none` if the system could
  not move the block. -/
  | unregistering (old : Block) (new : Option Block)
  /-- In `cxplat_free`, about to give the block back. -/
  | freeing (block : Block)
deriving DecidableEq, Repr

structure State where
  owned : List Block
  inProgress : List (Tid × Block)
  released : List (Tid × Block)
  /-- `_allocations`, with the sizes. -/
  allocations : Nat → Option Nat
  pc : Tid → Pc
  /-- The `CXPLAT_RUNTIME_ASSERT` of `unregister_allocation` has failed. -/
  unregisterFailed : Bool
  /-- Another assertion has failed. -/
  terminated : Bool

def State.init : State where
  owned := []
  inProgress := []
  released := []
  allocations := fun _ => none
  pc := fun _ => .idle
  unregisterFailed := false
  terminated := false

/-- The blocks that are allocated now. -/
def State.heap (s : State) : List Block := s.owned ++ s.inProgress.map Prod.snd

/-! ## The leak detector

What it does when every allocation inside of it succeeds; `Throwing.lean` is about the others. -/

def State.registerAllocation (s : State) (pointer size : Nat) : State :=
  { s with allocations := Function.update s.allocations pointer (some size) }

def State.unregisterAllocation (s : State) (pointer : Nat) : State :=
  if (s.allocations pointer).isSome then
    { s with allocations := Function.update s.allocations pointer none }
  else { s with unregisterFailed := true }

/-! ## Calls -/

/-- The arguments of `cxplat_allocate`, with what the system does: whether a fault is injected, and
where the block is, if there is one. -/
structure AllocateArgs where
  poolFlags : PoolFlags
  size : Nat
  tag : BitVec 32
  injectFault : Bool
  reply : Option Nat
deriving DecidableEq, Repr

/-- The arguments of `cxplat_reallocate`; the pointer is that of `block`. -/
structure ReallocateArgs where
  block : Block
  poolFlags : PoolFlags
  oldSize : Nat
  newSize : Nat
  tag : BitVec 32
  injectFault : Bool
  reply : Option Nat
deriving DecidableEq, Repr

structure FreeArgs where
  block : Block
  poolFlags : PoolFlags
  tag : BitVec 32
deriving DecidableEq, Repr

/-- The `CXPLAT_DEBUG_ASSERT`s on the header that both `cxplat_reallocate`
and `cxplat_free` make. -/
def Header.agrees (h : Header) (poolFlags : PoolFlags) (tag : BitVec 32) : Bool :=
  (tag == 0 || h.tag == tag) && h.poolFlags == poolFlags

/-- `cxplat_allocate` up to the call of `register_allocation`. -/
def cxplatAllocate (limit : Nat) (s : State) (t : Tid) (args : AllocateArgs) : Option State :=
  if args.size = 0 then some { s with terminated := true }
  else if limit < args.size || args.injectFault then some s
  else
    match args.reply with
    | none => some s
    | some start =>
      let header : Header := { poolFlags := args.poolFlags, tag := args.tag, size := args.size }
      let b : Block := { start := start, header := header, size := args.size }
      if b.fits s.heap then
        some { s with
          inProgress := (t, b) :: s.inProgress
          pc := Function.update s.pc t (.registering b) }
      else none

/-- `cxplat_reallocate` up to the call of `unregister_allocation`. The system copies the header,
which keeps the size of the allocation. -/
def cxplatReallocate (limit : Nat) (s : State) (t : Tid) (args : ReallocateArgs) : Option State :=
  let b := args.block
  if limit < args.newSize || args.injectFault then some s
  else if b.header.size ≠ args.oldSize || !b.header.agrees args.poolFlags args.tag then
    some { s with terminated := true }
  else
    let rest := { s with owned := s.owned.erase b }
    match args.reply with
    | none =>
      some { rest with
        inProgress := (t, b) :: s.inProgress
        released := (t, b) :: s.released
        pc := Function.update s.pc t (.unregistering b none) }
    | some start =>
      let new : Block := { b with start := start, size := args.newSize }
      if new.fits rest.heap then
        some { rest with
          inProgress := (t, new) :: s.inProgress
          released := (t, b) :: s.released
          pc := Function.update s.pc t (.unregistering b (some new)) }
      else none

/-- `cxplat_free` up to the call of `free`. -/
def cxplatFree (s : State) (t : Tid) (args : FreeArgs) : State :=
  let b := args.block
  if !b.header.agrees args.poolFlags args.tag then { s with terminated := true }
  else
    { s.unregisterAllocation b.pointer with
      owned := s.owned.erase b
      inProgress := (t, b) :: s.inProgress
      pc := Function.update s.pc t (.freeing b) }

/-! ## Runs -/

inductive Action where
  | allocate (t : Tid) (args : AllocateArgs)
  | reallocate (t : Tid) (args : ReallocateArgs)
  | free (t : Tid) (args : FreeArgs)
  /-- `register_allocation`, and the call returns. -/
  | register (t : Tid)
  /-- `unregister_allocation` of `cxplat_reallocate`. -/
  | unregister (t : Tid)
  /-- The block is given back, and `cxplat_free` returns. -/
  | freeBlock (t : Tid)
deriving DecidableEq, Repr

/-- Callers pass pointers that they own: allocated ones on which no call is in progress. -/
def step (limit : Nat) (s : State) (a : Action) : Option State :=
  if s.terminated || s.unregisterFailed then none
  else
    match a with
    | .allocate t args => if s.pc t = .idle then cxplatAllocate limit s t args else none
    | .reallocate t args =>
      if s.pc t = .idle ∧ args.block ∈ s.owned then cxplatReallocate limit s t args else none
    | .free t args =>
      if s.pc t = .idle ∧ args.block ∈ s.owned then some (cxplatFree s t args) else none
    | .register t =>
      match s.pc t with
      | .registering b =>
        some { s.registerAllocation b.pointer b.size with
          owned := b :: s.owned
          inProgress := s.inProgress.erase (t, b)
          pc := Function.update s.pc t .idle }
      | _ => none
    | .unregister t =>
      match s.pc t with
      | .unregistering old (some new) =>
        some { s.unregisterAllocation old.pointer with
          released := s.released.erase (t, old)
          pc := Function.update s.pc t (.registering new) }
      | .unregistering old none =>
        -- the old block is still there, and the caller gets a null pointer
        some { s.unregisterAllocation old.pointer with
          owned := old :: s.owned
          inProgress := s.inProgress.erase (t, old)
          released := s.released.erase (t, old)
          pc := Function.update s.pc t .idle }
      | _ => none
    | .freeBlock t =>
      match s.pc t with
      | .freeing b =>
        some { s with
          inProgress := s.inProgress.erase (t, b)
          pc := Function.update s.pc t .idle }
      | _ => none

end Usersim.Memory
