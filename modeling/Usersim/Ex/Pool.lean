import Usersim.Memory.Winuser

/-!
# Pool allocations (`ex.cpp`)

The executive's allocation functions put a header of their own (`usersim_allocation_header_t`, a
cache line) in front of what they hand out, and take the pool flags from there when they free it.
The other header, that of `cxplat_allocate`, is in front of this one.
-/

namespace Usersim.Ex

open Memory Memory.Winuser

/-- `POOL_FLAGS`. -/
abbrev ExPoolFlags := BitVec 64

/-- `BAD_POOL_CALLER`. -/
def badPoolCaller : BitVec 64 := 0xC2

/-- `sizeof(usersim_allocation_header_t)`. -/
def headerSize : SizeT := 64

/-- An allocation of `cxplat_allocate`, and the flags that are written at its start. -/
structure ExAllocation where
  memory : Allocation
  poolFlags : PoolFlags

/-- `header + 1`. -/
def ExAllocation.pointer (a : ExAllocation) : Pointer := a.memory.pointer + headerSize

/-- `_pool_type_to_flags`; `none` stands for its bug check. -/
def poolTypeToFlags (poolType : PoolType) (zeroed : Bool) : Option PoolFlags :=
  let poolFlags : PoolFlags := if zeroed then 0 else uninitialized
  if poolType = nonPagedPoolNx then some (poolFlags ||| nonPaged)
  else if poolType = nonPagedPoolNxCacheAligned then some (poolFlags ||| nonPaged ||| cacheAligned)
  else if poolType = pagedPool then some (poolFlags ||| paged)
  else if poolType = pagedPoolCacheAligned then some (poolFlags ||| paged ||| cacheAligned)
  else none

/-- What both allocation functions do after their checks. -/
def allocateWithHeader (build : Build) (env : Environment) (poolFlags : PoolFlags)
    (numberOfBytes : SizeT) (tag : BitVec 32) : Outcome ExAllocation :=
  (cxplatAllocate build env poolFlags (headerSize + numberOfBytes) tag).map fun memory =>
    { memory := memory, poolFlags := poolFlags }

def exAllocatePoolUninitialized (build : Build) (env : Environment) (poolType : PoolType)
    (numberOfBytes : SizeT) (tag : BitVec 32) : Outcome ExAllocation :=
  if tag = 0 then
    .stopped (.bugCheck badPoolCaller 0x9B (poolType.setWidth 64) numberOfBytes)
  else
    match poolTypeToFlags poolType false with
    | none => .stopped (.bugCheck badPoolCaller 0 0 0)
    | some poolFlags => allocateWithHeader build env poolFlags numberOfBytes tag

/-- The assertion of `ExAllocatePool2` on the level fails. -/
def irqlTooHigh (build : Build) (irql : Nat) (poolFlags : PoolFlags) : Bool :=
  build = .debug && poolFlags &&& nonPaged = 0 && dispatchLevel ≤ irql

def exAllocatePool2 (build : Build) (env : Environment) (irql : Nat) (poolFlags : ExPoolFlags)
    (numberOfBytes : SizeT) (tag : BitVec 32) : Outcome ExAllocation :=
  if tag = 0 || numberOfBytes = 0 then
    .stopped (.bugCheck badPoolCaller 0x9B poolFlags numberOfBytes)
  else if irqlTooHigh build irql (poolFlags.setWidth 32) then .stopped .assertion
  else allocateWithHeader build env (poolFlags.setWidth 32) numberOfBytes tag

def exAllocatePoolWithTag (build : Build) (env : Environment) (irql : Nat) (poolType : PoolType)
    (numberOfBytes : SizeT) (tag : BitVec 32) : Outcome ExAllocation :=
  match poolTypeToFlags poolType true with
  | none => .stopped (.bugCheck badPoolCaller 0 0 0)
  | some poolFlags =>
    exAllocatePool2 build env irql (poolFlags.setWidth 64) numberOfBytes tag

/-- `ExFreePoolWithTag`; `ExFreePool` passes the tag 0. `none` stands for a null pointer. -/
def exFreePoolWithTag (build : Build) (p : Option ExAllocation) (tag : BitVec 32) :
    Outcome BlockPointer :=
  match p with
  | none => .stopped (.bugCheck badPoolCaller 0x46 0 0)
  | some a => cxplatFree build a.memory a.poolFlags tag

def exFreePool (build : Build) (p : Option ExAllocation) : Outcome BlockPointer :=
  exFreePoolWithTag build p 0

end Usersim.Ex
