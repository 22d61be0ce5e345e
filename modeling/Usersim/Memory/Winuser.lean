import Usersim.Memory.Basic

/-!
# Allocations in user mode, to the byte (`memory_winuser.cpp`)

The sizes and addresses that `cxplat_allocate`, `cxplat_reallocate` and `cxplat_free` compute, in 64
bits, and the bytes they write, in debug and in release builds, for one call at a time. (The leak
detector is in `Usersim.Memory.Basic`.)

`malloc`, `realloc` and their aligned variants are outside: a call is given what the allocator
answers to its request (`Reply`). A `memset` that leaves the user part of the address space faults.
-/

namespace Usersim.Memory.Winuser

/-- What is behind a pointer. -/
abbrev Bytes := Nat → Byte

/-- Where the user part of the address space ends. -/
def addressSpaceEnd : Nat := 2 ^ 47

/-- `malloc`, `realloc` and `free`, or `_aligned_malloc`, `_aligned_realloc` and `_aligned_free`. -/
inductive Allocator where
  | plain
  | aligned
deriving DecidableEq, Repr

def allocatorFor (poolFlags : PoolFlags) : Allocator :=
  if poolFlags &&& cacheAligned ≠ 0 then .aligned else .plain

end Usersim.Memory.Winuser

/-- `ALIGNED_POINTER_OFFSET` or `UNALIGNED_POINTER_OFFSET`. -/
def Usersim.Build.pointerOffset (build : Build) : Memory.Winuser.Allocator → SizeT
  | .aligned => 64
  | .plain =>
    match build with
    | .debug => 16
    | .release => 0

namespace Usersim.Memory.Winuser

/-- A pointer to a block, as it is passed to `realloc` or `free` of the allocator. -/
structure BlockPointer where
  allocator : Allocator
  start : Pointer
deriving DecidableEq, Repr

/-- A block that an allocator has returned, with the length that was asked for. -/
structure OsBlock where
  pointer : BlockPointer
  length : SizeT
deriving DecidableEq, Repr

/-- The block an allocator returns, and what is in it (counted from the pointer that is handed
out) where nothing is copied. -/
structure Reply where
  start : Pointer
  bytes : Bytes

structure Environment where
  /-- `cxplat_fuzzing_memory_limit`. -/
  memoryLimit : SizeT
  injectFault : Bool
  /-- The answer to a request; `none` stands for null. -/
  reply : Option Reply

/-- Why a call does not return. -/
inductive Stop where
  | assertion
  /-- A `memset` left the address space. -/
  | accessViolation
  /-- `realloc` or `free` of a pointer that is none of its allocator's. -/
  | heapCorruption
  | bugCheck (code parameter1 parameter2 parameter3 : BitVec 64)
deriving DecidableEq, Repr

inductive Outcome (α : Type) where
  | null
  | returned (a : α)
  | stopped (reason : Stop)

def Outcome.map {α β : Type} (f : α → β) : Outcome α → Outcome β
  | .null => .null
  | .returned a => .returned (f a)
  | .stopped reason => .stopped reason

/-- What is behind a pointer that was handed out, and the header in front of it. -/
structure Allocation where
  block : OsBlock
  pointer : Pointer
  header : Option Header
  bytes : Bytes

/-! ## Filling memory -/

/-- The byte that new memory is filled with, if it is filled. -/
def fill (build : Build) (poolFlags : PoolFlags) : Option Byte :=
  if poolFlags &&& uninitialized = 0 then some 0
  else
    match build with
    | .debug => some 0xcc
    | .release => none

/-- Bytes `first` to `last`, the last one excluded. -/
def memset (bytes : Bytes) (first last : Nat) (value : Byte) : Bytes :=
  fun i => if first ≤ i ∧ i < last then value else bytes i

theorem memset_of_mem {bytes : Bytes} {first last i : Nat} {value : Byte} (h : first ≤ i)
    (h' : i < last) : memset bytes first last value i = value :=
  if_pos ⟨h, h'⟩

theorem memset_of_lt {bytes : Bytes} {first last i : Nat} {value : Byte} (h : i < first) :
    memset bytes first last value i = bytes i :=
  if_neg fun hmem => absurd hmem.1 (Nat.not_le_of_lt h)

/-- The memory from `first` to `last` behind the pointer of `a` is filled. -/
def Allocation.filled (a : Allocation) (build : Build) (poolFlags : PoolFlags)
    (first last : SizeT) : Outcome Allocation :=
  match fill build poolFlags with
  | none => .returned a
  | some value =>
    if addressSpaceEnd < a.pointer.toNat + last.toNat then .stopped .accessViolation
    else .returned { a with bytes := memset a.bytes first.toNat last.toNat value }

/-! ## The functions -/

/-- The checks of debug builds with which allocation and reallocation begin. -/
def rejected (build : Build) (env : Environment) (size : SizeT) : Bool :=
  build = .debug && (env.memoryLimit < size || env.injectFault)

/-- `_memory_block_from_aligned_pointer` or `_memory_block_from_unaligned_pointer`. -/
def memoryBlockFrom (build : Build) (poolFlags : PoolFlags) (pointer : Pointer) : BlockPointer :=
  let allocator := allocatorFor poolFlags
  { allocator := allocator, start := pointer - build.pointerOffset allocator }

/-- The block for a request, before anything is written. -/
def Reply.allocation (reply : Reply) (build : Build) (poolFlags : PoolFlags) (fullSize : SizeT)
    (header : Option Header) : Allocation :=
  let allocator := allocatorFor poolFlags
  { block := { pointer := { allocator := allocator, start := reply.start }, length := fullSize }
    pointer := reply.start + build.pointerOffset allocator
    header := header
    bytes := reply.bytes }

def cxplatAllocate (build : Build) (env : Environment) (poolFlags : PoolFlags) (size : SizeT)
    (tag : BitVec 32) : Outcome Allocation :=
  if build = .debug && size = 0 then .stopped .assertion
  else if rejected build env size then .null
  else
    let fullSize := build.pointerOffset (allocatorFor poolFlags) + size
    match env.reply with
    | none => .null
    | some reply =>
      let header : Option Header :=
        match build with
        | .debug => some { poolFlags := poolFlags, tag := tag, size := size.toNat }
        | .release => none
      (reply.allocation build poolFlags fullSize header).filled build poolFlags 0 size

/-- What `realloc` leaves of a block: the bytes that the old and the new one have in common. -/
def copied (offset oldLength newLength : SizeT) (old new : Bytes) : Bytes :=
  fun i => if offset.toNat + i < min oldLength.toNat newLength.toNat then old i else new i

/-- The assertions of `cxplat_reallocate` on the header hold, if there is one. -/
def Allocation.accepts (a : Allocation) (poolFlags : PoolFlags) (oldSize : SizeT)
    (tag : BitVec 32) : Bool :=
  a.header.all fun header => header.size = oldSize.toNat && header.agrees poolFlags tag

def cxplatReallocate (build : Build) (env : Environment) (old : Allocation) (poolFlags : PoolFlags)
    (oldSize newSize : SizeT) (tag : BitVec 32) : Outcome Allocation :=
  if rejected build env newSize then .null
  else if !old.accepts poolFlags oldSize tag then .stopped .assertion
  else if memoryBlockFrom build poolFlags old.pointer ≠ old.block.pointer then
    .stopped .heapCorruption
  else
    let offset := build.pointerOffset (allocatorFor poolFlags)
    let fullSize := offset + newSize
    -- with a length of 0 `realloc` frees the block and returns null
    if fullSize = 0 then .null
    else
      match env.reply with
      | none => .null
      | some reply =>
        let new := reply.allocation build poolFlags fullSize old.header
        let new :=
          { new with bytes := copied offset old.block.length fullSize old.bytes reply.bytes }
        if oldSize < newSize then new.filled build poolFlags oldSize newSize else .returned new

/-- `cxplat_reallocate` comes to `realloc` with a length of 0. -/
def reallocFrees (build : Build) (env : Environment) (old : Allocation) (poolFlags : PoolFlags)
    (oldSize newSize : SizeT) (tag : BitVec 32) : Bool :=
  !rejected build env newSize && old.accepts poolFlags oldSize tag &&
    build.pointerOffset (allocatorFor poolFlags) + newSize = 0

/-- The pointer that is passed to `free` or `_aligned_free`. -/
def cxplatFree (build : Build) (a : Allocation) (poolFlags : PoolFlags) (tag : BitVec 32) :
    Outcome BlockPointer :=
  if a.header.all fun header => header.agrees poolFlags tag then
    .returned (memoryBlockFrom build poolFlags a.pointer)
  else .stopped .assertion

theorem pointerOffset_le (build : Build) (allocator : Allocator) :
    (build.pointerOffset allocator).toNat ≤ 64 := by
  cases build <;> cases allocator <;> decide

/-! ## How a call ends -/

variable {build : Build} {env : Environment} {poolFlags : PoolFlags} {size : SizeT}
  {tag : BitVec 32}

/-- A `memset` faults or changes the bytes and nothing else. -/
theorem filled_cases (build : Build) (poolFlags : PoolFlags) (a : Allocation)
    (first last : SizeT) :
    (a.filled build poolFlags first last = .stopped .accessViolation ∧
      addressSpaceEnd < a.pointer.toNat + last.toNat) ∨
    ∃ bytes, a.filled build poolFlags first last = .returned { a with bytes := bytes } := by
  unfold Allocation.filled
  split
  · exact .inr ⟨a.bytes, rfl⟩
  · split
    · rename_i hend
      exact .inl ⟨rfl, hend⟩
    · exact .inr ⟨_, rfl⟩

/-- `cxplat_allocate` passes its checks and gets a block. -/
def asks (build : Build) (env : Environment) (size : SizeT) : Bool :=
  !(build = .debug && size = 0) && !rejected build env size && env.reply.isSome

/-- How a request for a block of a size ends, with whether the allocator was asked and answered. -/
inductive Requested (build : Build) (env : Environment) (poolFlags : PoolFlags) (size : SizeT) :
    Bool → Outcome Allocation → Prop where
  | null : Requested build env poolFlags size false .null
  | assertion : Requested build env poolFlags size false (.stopped .assertion)
  | fault {reply : Reply} (hreply : env.reply = some reply)
      (hend : addressSpaceEnd <
        (reply.start + build.pointerOffset (allocatorFor poolFlags)).toNat + size.toNat) :
      Requested build env poolFlags size true (.stopped .accessViolation)
  | block {reply : Reply} (hreply : env.reply = some reply) (header : Option Header)
      (bytes : Bytes) :
      Requested build env poolFlags size true (.returned
        { reply.allocation build poolFlags
            (build.pointerOffset (allocatorFor poolFlags) + size) header with bytes := bytes })

theorem requested_cxplatAllocate (build : Build) (env : Environment) (poolFlags : PoolFlags)
    (size : SizeT) (tag : BitVec 32) :
    Requested build env poolFlags size (asks build env size)
      (cxplatAllocate build env poolFlags size tag) := by
  unfold cxplatAllocate asks
  by_cases hzero : (build = .debug && size = 0) = true
  · rw [if_pos hzero, hzero]
    exact .assertion
  · rw [if_neg hzero, eq_false_of_ne_true hzero]
    by_cases hrejected : rejected build env size = true
    · rw [if_pos hrejected, hrejected]
      exact .null
    · rw [if_neg hrejected, eq_false_of_ne_true hrejected]
      cases hreply : env.reply with
      | none => exact .null
      | some reply =>
        dsimp only
        obtain ⟨hfault, hend⟩ | ⟨bytes, hfilled⟩ := filled_cases build poolFlags
          (reply.allocation build poolFlags _ _) 0 size
        · rw [hfault]
          exact .fault hreply hend
        · rw [hfilled]
          exact .block hreply _ bytes

/-- `cxplat_reallocate` passes its checks and gets a block. -/
def asksAgain (build : Build) (env : Environment) (old : Allocation) (poolFlags : PoolFlags)
    (oldSize newSize : SizeT) (tag : BitVec 32) : Bool :=
  !rejected build env newSize && old.accepts poolFlags oldSize tag &&
    build.pointerOffset (allocatorFor poolFlags) + newSize ≠ 0 && env.reply.isSome

theorem requested_cxplatReallocate (env : Environment) {old : Allocation}
    (oldSize newSize : SizeT) (tag : BitVec 32)
    (hblock : memoryBlockFrom build poolFlags old.pointer = old.block.pointer) :
    Requested build env poolFlags newSize (asksAgain build env old poolFlags oldSize newSize tag)
      (cxplatReallocate build env old poolFlags oldSize newSize tag) := by
  unfold cxplatReallocate asksAgain
  by_cases hrejected : rejected build env newSize = true
  · rw [if_pos hrejected, hrejected]
    exact .null
  · rw [if_neg hrejected, eq_false_of_ne_true hrejected]
    cases haccepts : old.accepts poolFlags oldSize tag with
    | false => exact .assertion
    | true =>
      rw [if_neg (by decide), if_neg (not_not.mpr hblock)]
      dsimp only
      by_cases hzero : build.pointerOffset (allocatorFor poolFlags) + newSize = 0
      · rw [if_pos hzero, decide_eq_false (not_not.mpr hzero)]
        exact .null
      · rw [if_neg hzero, decide_eq_true hzero]
        cases hreply : env.reply with
        | none => exact .null
        | some reply =>
          dsimp only
          split
          · obtain ⟨hfault, hend⟩ | ⟨bytes, hfilled⟩ := filled_cases build poolFlags
              { reply.allocation build poolFlags _ old.header with
                bytes := copied _ old.block.length _ old.bytes reply.bytes } oldSize newSize
            · rw [hfault]
              exact .fault hreply hend
            · rw [hfilled]
              exact .block hreply _ bytes
          · exact .block hreply _ _

end Usersim.Memory.Winuser
