import Usersim.Memory.Winuser

/-!
# Allocations in kernel mode (`memory_winkernel.c`)

The same three functions over the pool of the kernel, which is outside:
`ExAllocatePoolUninitialized` answers with arbitrary bytes, or with null. There is no header, and a
reallocate allocates, copies and frees.
-/

namespace Usersim.Memory.Winkernel

open Memory.Winuser (Bytes memset)

def poolFlagsToType (poolFlags : PoolFlags) : PoolType :=
  nonPagedPool |||
    (if poolFlags &&& paged ≠ 0 then pagedPool else 0) |||
    (if poolFlags &&& cacheAligned ≠ 0 then nonPagedPoolCacheAligned else 0) |||
    (if poolFlags &&& nonPaged ≠ 0 then nonPagedPoolNx else 0)

/-- A block of the pool, with what it was asked for. -/
structure PoolBlock where
  poolType : PoolType
  numberOfBytes : SizeT
  tag : BitVec 32
  bytes : Bytes

def cxplatAllocate (reply : Option Bytes) (poolFlags : PoolFlags) (size : SizeT)
    (tag : BitVec 32) : Option PoolBlock :=
  reply.map fun memory =>
    { poolType := poolFlagsToType poolFlags
      numberOfBytes := size
      tag := tag
      bytes := if poolFlags &&& uninitialized = 0 then memset memory 0 size.toNat 0 else memory }

/-- The first `length` bytes are copied. -/
def memcpy (destination source : Bytes) (length : Nat) : Bytes :=
  fun i => if i < length then source i else destination i

/-- The old block is passed to `cxplat_free` if there is a new one. -/
def cxplatReallocate (reply : Option Bytes) (pointer : PoolBlock) (poolFlags : PoolFlags)
    (oldSize newSize : SizeT) (tag : BitVec 32) : Option PoolBlock :=
  (cxplatAllocate reply poolFlags newSize tag).map fun newPointer =>
    { newPointer with
      bytes := memcpy newPointer.bytes pointer.bytes (min oldSize.toNat newSize.toNat) }

/-- What is passed to `ExFreePoolWithTag`; the flags are ignored. -/
def cxplatFree (pointer : Option PoolBlock) (tag : BitVec 32) : Option (PoolBlock × BitVec 32) :=
  pointer.map fun memory => (memory, tag)

end Usersim.Memory.Winkernel
