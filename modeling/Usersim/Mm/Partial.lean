import Mathlib.Algebra.Group.Nat.Defs
import Usersim.Mm.Basic

/-!
# What MDLs describe (`io.cpp`)

`IoBuildPartialMdl` computes what is left of its source in 32 bits: the difference of two addresses
is truncated, and the offset of the source is subtracted from it. Truncation is a homomorphism, so
the result is right wherever the source starts and however large its offset is.

* `mdl_address_algebra` — what an MDL, a partial MDL and a partial MDL of a partial MDL describe
-/

namespace Usersim.Mm

variable {source : Mdl}

/-- An MDL describes the range of `length` bytes from `va` on, in the words of the functions that
read it. -/
structure Describes (m : Mdl) (va : Address) (length : Nat) : Prop where
  virtualAddress : mmGetMdlVirtualAddress m = va
  systemAddress : (mmGetSystemAddressForMdlSafe m false).map Prod.snd = some va
  byteCount : (mmGetMdlByteCount m).toNat = length
  byteOffset : m.byteOffset.toNat < pageSize

/-- An address in the first page is handed out only once the MDL is mapped: that its page starts at
null is taken for a failure of the mapping. -/
structure DescribesBehindNull (m : Mdl) (va : Address) (length : Nat) : Prop where
  virtualAddress : mmGetMdlVirtualAddress m = va
  systemAddress : (mmGetSystemAddressForMdlSafe m false).map Prod.snd =
    some (if m.mapped = false ∧ va.toNat < pageSize then 0 else va)
  byteCount : (mmGetMdlByteCount m).toNat = length
  byteOffset : m.byteOffset.toNat < pageSize

structure SameRange (m m' : Mdl) : Prop where
  startVa : m.startVa = m'.startVa
  byteOffset : m.byteOffset = m'.byteOffset
  byteCount : m.byteCount = m'.byteCount
  flags : m.flags = m'.flags

/-- The algebra of MDLs, for a meaning of "describes". The bytes of a source are those from its
virtual address on. -/
structure AddressAlgebra (describes : Mdl → Address → Nat → Prop) : Prop where
  allocated : ∀ (va : Address) (length : BitVec 32) (m : Mdl), va.toNat + length.toNat ≤ 2 ^ 64 →
    ioAllocateMdl true va length = some m → describes m va length.toNat
  narrowed : ∀ (source target : Mdl) (k : Nat) (n : BitVec 32),
    k + n.toNat ≤ source.byteCount.toNat →
    describes (ioBuildPartialMdl source target
      (mmGetMdlVirtualAddress source + BitVec.ofNat 64 k) n)
      (mmGetMdlVirtualAddress source + BitVec.ofNat 64 k)
      (if n = 0 then source.byteCount.toNat - k else n.toNat)
  composed : ∀ (source intermediate target : Mdl) (w v : Address) (m n : BitVec 32), n ≠ 0 →
    SameRange (ioBuildPartialMdl (ioBuildPartialMdl source intermediate w m) target v n)
      (ioBuildPartialMdl source target v n)

/-! ## Partial MDLs -/

/-- An MDL whose fields are those of an address. -/
theorem describesBehindNull_of_fields {m : Mdl} {va : Address} {length : Nat}
    (hstart : m.startVa = pageAlign va) (hoffset : m.byteOffset = byteOffset va)
    (hcount : m.byteCount.toNat = length) : DescribesBehindNull m va length := by
  have hva : mmGetMdlVirtualAddress m = va := by
    rw [mmGetMdlVirtualAddress, hstart, hoffset, pageAlign_add_byteOffset]
  refine ⟨hva, ?_, hcount, ?_⟩
  · rw [mmGetSystemAddressForMdlSafe_eq, hva, hstart]
    simp only [Bool.false_eq_true, false_or, pageAlign_eq_zero_iff]
  · rw [hoffset, toNat_byteOffset]
    exact Nat.mod_lt _ (by decide)

/-- The offset of an address in a source, where nothing is lost to the truncation. -/
theorem offset_eq (source : Mdl) (k : Nat) :
    (mmGetMdlVirtualAddress source + BitVec.ofNat 64 k - source.startVa).setWidth 32 -
      source.byteOffset = BitVec.ofNat 32 k := by
  have hdiff : mmGetMdlVirtualAddress source + BitVec.ofNat 64 k - source.startVa =
      source.byteOffset.setWidth 64 + BitVec.ofNat 64 k := by
    rw [mmGetMdlVirtualAddress, BitVec.add_assoc, BitVec.add_comm, BitVec.add_sub_cancel]
  rw [hdiff, BitVec.setWidth_add _ _ (by decide), BitVec.setWidth_setWidth_of_le _ (by decide),
    BitVec.setWidth_eq, BitVec.setWidth_ofNat_of_le (by decide), BitVec.add_comm,
    BitVec.add_sub_cancel]

theorem byteCount_ioBuildPartialMdl (target : Mdl) {k : Nat} {n : BitVec 32}
    (h : k + n.toNat ≤ source.byteCount.toNat) :
    (ioBuildPartialMdl source target (mmGetMdlVirtualAddress source + BitVec.ofNat 64 k)
      n).byteCount.toNat = if n = 0 then source.byteCount.toNat - k else n.toNat := by
  simp only [ioBuildPartialMdl, offset_eq]
  by_cases hn : n = 0
  · have hk : (BitVec.ofNat 32 k).toNat = k := by
      rw [BitVec.toNat_ofNat]
      exact Nat.mod_eq_of_lt (by omega)
    rw [if_pos hn, if_pos hn, BitVec.toNat_sub_of_le, hk]
    rw [BitVec.le_def, hk]
    omega
  · rw [if_neg hn, if_neg hn]

/--
For every address and length, every source and every range inside of it: the MDL and the partial MDL
describe their range, and an intermediate partial MDL makes no difference. The system address is
null for the first page as long as the MDL is not mapped.
-/
theorem mdl_address_algebra : AddressAlgebra DescribesBehindNull where
  allocated := by
    intro va length m _ hm
    obtain rfl : mmInitializeMdl va length = m := Option.some.inj hm
    exact describesBehindNull_of_fields rfl rfl rfl
  narrowed := by
    intro source target k n h
    exact describesBehindNull_of_fields rfl rfl (byteCount_ioBuildPartialMdl target h)
  composed := by
    intro source intermediate target w v m n hn
    refine ⟨rfl, rfl, ?_, rfl⟩
    simp only [ioBuildPartialMdl, if_neg hn]

/-- The first system address of an MDL for address 1 is null. -/
theorem first_page_not_described :
    ioAllocateMdl true 1 1 = some (mmInitializeMdl 1 1) ∧
      (mmGetSystemAddressForMdlSafe (mmInitializeMdl 1 1) false).map Prod.snd = some 0 ∧
      ¬ AddressAlgebra Describes := by
  refine ⟨rfl, by decide, fun h => ?_⟩
  have hone := (h.allocated 1 1 (mmInitializeMdl 1 1) (by decide) rfl).systemAddress
  exact absurd hone (by decide)

end Usersim.Mm
