/-!
# What the source files share

Types and constants of the Windows headers that several source files use. A pointer that is only
compared or handed on is a number or an address.
-/

namespace Usersim

/-- A thread. -/
abbrev Tid := Nat

/-- An opaque pointer: a routine, a context or an argument. -/
abbrev Ptr := Nat

abbrev Address := BitVec 64

abbrev Pointer := Address

abbrev Byte := BitVec 8

abbrev WChar := BitVec 16

abbrev SizeT := BitVec 64

/-- Debug builds define `CXPLAT_DEBUGGING_FEATURES_ENABLED` and keep `assert`; release builds define
`NDEBUG`. -/
inductive Build where
  | debug
  | release
deriving DecidableEq, Repr

/-! The levels are numbers, as a `KIRQL` is. -/

def passiveLevel : Nat := 0
def dispatchLevel : Nat := 2

/-- `POOL_TYPE`, with the values of `wdm.h`. -/
abbrev PoolType := BitVec 32

def nonPagedPool : PoolType := 0
def pagedPool : PoolType := 1
def nonPagedPoolCacheAligned : PoolType := 4
def pagedPoolCacheAligned : PoolType := 5
def nonPagedPoolNx : PoolType := 512
def nonPagedPoolNxCacheAligned : PoolType := 516

end Usersim
