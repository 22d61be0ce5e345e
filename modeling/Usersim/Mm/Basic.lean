import Usersim.Basic
import Usersim.Lib.Word

/-!
# Memory descriptor lists (`mm.h`, `mm.cpp`, `io.cpp`)

An MDL describes the bytes from `start_va + byte_offset` on. Addresses and `size_t` are 64
bits wide, an `unsigned long` is 32. Faults are an argument of the functions that inject
them; `none` is a bug check.
-/

namespace Usersim.Mm

open Lib

structure Mdl where
  next : Address
  size : BitVec 64
  flags : BitVec 64
  startVa : Address
  byteOffset : BitVec 32
  byteCount : BitVec 32
deriving DecidableEq, Repr

def pageSize : Nat := 0x1000

/-- `PAGE_SIZE - 1`, in an expression with an address. -/
def pageMask : BitVec 64 := 0xFFF

/-- `PAGE_ALIGN`; the complement of the `int` is extended with its sign. -/
def pageAlign (va : Address) : Address := va &&& ~~~pageMask

/-- `BYTE_OFFSET`. -/
def byteOffset (va : Address) : BitVec 32 := (va &&& pageMask).setWidth 32

def addressAndSizeToSpanPages (va : Address) (size : BitVec 32) : BitVec 32 :=
  ((size - 1) >>> 12) +
    ((((size - 1) &&& 0xFFF) + (va.setWidth 32 &&& 0xFFF)) >>> 12) + 1

/-- `sizeof(MDL)` is 40, `sizeof(PFN_NUMBER)` is 4; the sum is cast to `uint16_t`. -/
def mmInitializeMdl (baseVa : Address) (length : BitVec 32) : Mdl where
  next := 0
  size := ((40 + 4 * (addressAndSizeToSpanPages baseVa length).setWidth 64).setWidth 16).setWidth 64
  flags := 0
  startVa := pageAlign baseVa
  byteOffset := byteOffset baseVa
  byteCount := length

def ioAllocateMdl (allocated : Bool) (virtualAddress : Address) (length : BitVec 32) : Option Mdl :=
  if allocated then some (mmInitializeMdl virtualAddress length) else none

/-- The target keeps its `next` and its `size`. -/
def ioBuildPartialMdl (source target : Mdl) (virtualAddress : Address) (length : BitVec 32) : Mdl :=
  let offset := (virtualAddress - source.startVa).setWidth 32 - source.byteOffset
  { target with
    startVa := pageAlign virtualAddress
    byteCount := if length = 0 then source.byteCount - offset else length
    byteOffset := byteOffset virtualAddress
    flags := source.flags }

/-- `MmGetMdlVirtualAddress`. -/
def mmGetMdlVirtualAddress (m : Mdl) : Address := m.startVa + m.byteOffset.setWidth 64

def mmGetMdlByteCount (m : Mdl) : BitVec 32 := m.byteCount

/-- `MDL_FLAG_MAPPED`. -/
def mdlFlagMapped : BitVec 64 := 1

def Mdl.mapped (m : Mdl) : Bool := m.flags &&& mdlFlagMapped != 0

/-- The address is null if the mapping fails. -/
def mmMapLockedPagesSpecifyCache (m : Mdl) (kernelMode bugCheckOnFailure fault : Bool) :
    Option (Mdl × Address) :=
  if m.mapped then none
  else if fault then
    if bugCheckOnFailure && kernelMode then none else some (m, 0)
  else some ({ m with flags := m.flags ||| mdlFlagMapped }, m.startVa)

def mmGetSystemAddressForMdlSafe (m : Mdl) (fault : Bool) : Option (Mdl × Address) :=
  if !m.mapped then
    (mmMapLockedPagesSpecifyCache m true false fault).map fun (m, base) =>
      if base = 0 then (m, 0) else (m, m.startVa + m.byteOffset.setWidth 64)
  else some (m, m.startVa + m.byteOffset.setWidth 64)

/-! ## Addresses and pages -/

theorem toNat_and_pageMask (va : Address) : (va &&& pageMask).toNat = va.toNat % pageSize := by
  rw [BitVec.toNat_and]
  exact Nat.and_two_pow_sub_one_eq_mod va.toNat 12

theorem toNat_byteOffset (va : Address) : (byteOffset va).toNat = va.toNat % pageSize := by
  rw [byteOffset, BitVec.toNat_setWidth, toNat_and_pageMask, pageSize]
  omega

/-- An address is that of its page and the offset in it. -/
theorem pageAlign_add_byteOffset (va : Address) :
    pageAlign va + (byteOffset va).setWidth 64 = va := by
  have hoffset : (byteOffset va).setWidth 64 = va &&& pageMask := by
    apply BitVec.eq_of_toNat_eq
    rw [BitVec.toNat_setWidth, toNat_byteOffset, toNat_and_pageMask, pageSize]
    omega
  rw [hoffset]
  exact and_not_add_and va pageMask

theorem pageAlign_eq_zero_iff (va : Address) : pageAlign va = 0 ↔ va.toNat < pageSize := by
  have hsum := congrArg BitVec.toNat (pageAlign_add_byteOffset va)
  rw [BitVec.toNat_add, BitVec.toNat_setWidth, toNat_byteOffset, pageSize] at hsum
  have hpage := (pageAlign va).isLt
  have hva := va.isLt
  constructor
  · intro h
    rw [h] at hsum
    show va.toNat < 0x1000
    simp at hsum
    omega
  · intro h
    have hmod : va.toNat % 0x1000 = va.toNat := Nat.mod_eq_of_lt h
    refine BitVec.eq_of_toNat_eq ?_
    show (pageAlign va).toNat = 0
    omega

/-! ## System addresses -/

/-- The address of an MDL that is not mapped yet and starts in the first page is null. -/
theorem mmGetSystemAddressForMdlSafe_eq (m : Mdl) (fault : Bool) :
    (mmGetSystemAddressForMdlSafe m fault).map Prod.snd =
      some (if m.mapped = false ∧ (fault = true ∨ m.startVa = 0) then 0
        else mmGetMdlVirtualAddress m) := by
  unfold mmGetSystemAddressForMdlSafe mmMapLockedPagesSpecifyCache mmGetMdlVirtualAddress
  cases hmapped : m.mapped
  · cases fault
    · by_cases hstart : m.startVa = 0#64
      · simp [hstart]
      · simp [hstart]
    · simp
  · simp

/-- A mapping only sets the flag. -/
theorem mmGetSystemAddressForMdlSafe_mdl {m : Mdl} {fault : Bool} {r : Mdl × Address}
    (h : mmGetSystemAddressForMdlSafe m fault = some r) : r.1 = { m with flags := r.1.flags } := by
  unfold mmGetSystemAddressForMdlSafe mmMapLockedPagesSpecifyCache at h
  cases hmapped : m.mapped
  · cases fault
    · simp only [hmapped, Bool.not_false, if_true, Bool.false_eq_true, if_false, Option.map_some,
        Option.some.injEq] at h
      by_cases hstart : m.startVa = 0
      · rw [if_pos hstart] at h
        rw [← h]
      · rw [if_neg hstart] at h
        rw [← h]
    · simp [hmapped] at h
      rw [← h]
  · simp [hmapped] at h
    rw [← h]

end Usersim.Mm
