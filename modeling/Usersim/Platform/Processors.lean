import Mathlib.Algebra.Order.Group.Nat
import Usersim.Lib.Offsets

/-!
# Processor numbers (`platform_user.cpp`, `processor_winuser.cpp`)

A processor is a group and a number in it, or an index over all groups. Both layers count the groups
up when they start: the map of `platform_user.cpp` and the `Offset` fields of cxplat.

* `groupToIndexMap_eq` — the map holds where every group starts
* `keGetProcessorNumberFromIndex_place` — the search finds the group, its neighbours may be empty
* `processor_numbering` — indices and processors correspond, and both layers agree
-/

namespace Usersim.Platform

open Lib

/-- The groups of a system, with their maximum processor counts. -/
structure Groups where
  sizes : List Nat
  /-- Group 0xffff stands for all of them. -/
  few : sizes.length ≤ 65535
  small : ∀ size ∈ sizes, size ≤ 64
  pos : 0 < sizes.sum

/-- `PROCESSOR_NUMBER`. -/
structure ProcessorNumber where
  group : BitVec 16
  number : BitVec 8
deriving DecidableEq, Repr

inductive NumberStatus where
  | invalidParameter
deriving DecidableEq, Repr

/-- `ALL_PROCESSOR_GROUPS`. -/
def allProcessorGroups : BitVec 16 := 0xffff

def Groups.getMaximumProcessorGroupCount (gs : Groups) : BitVec 16 :=
  BitVec.ofNat 16 gs.sizes.length

def Groups.getMaximumProcessorCount (gs : Groups) (group : BitVec 16) : BitVec 32 :=
  BitVec.ofNat 32 (if group = allProcessorGroups then gs.sizes.sum else sizeAt gs.sizes group.toNat)

/-- The loop of `usersim_platform_initiate` for `count` groups from group `i` on. -/
def groupIndices (gs : Groups) (i : Nat) (baseIndex : BitVec 32) : Nat → List (BitVec 32)
  | 0 => []
  | count + 1 =>
    baseIndex :: groupIndices gs (i + 1)
      (baseIndex + gs.getMaximumProcessorCount (BitVec.ofNat 16 i)) count

/-- `_usersim_platform_group_to_index_map`. -/
def groupToIndexMap (gs : Groups) : List (BitVec 32) :=
  groupIndices gs 0 0 gs.getMaximumProcessorGroupCount.toNat

/-- `none` is a read behind the end of the map. -/
def keGetProcessorIndexFromNumber (map : List (BitVec 32)) (procNumber : ProcessorNumber) :
    Option (BitVec 32) :=
  map[procNumber.group.toNat]?.map fun base => base + procNumber.number.setWidth 32

/-- `none` is a read outside of the map. -/
def keGetProcessorNumberFromIndex (map : List (BitVec 32)) (maximumProcessorCount : BitVec 32)
    (processorIndex : BitVec 32) : Option (Except NumberStatus ProcessorNumber) :=
  if maximumProcessorCount ≤ processorIndex then some (.error .invalidParameter)
  else
    match map.findIdx? (fun base => processorIndex < base) with
    | some 0 => none
    | some (i + 1) =>
      map[i]?.map fun base => .ok
        { group := BitVec.ofNat 16 i, number := (processorIndex - base).setWidth 8 }
    | none =>
      map.getLast?.map fun base => .ok
        { group := BitVec.ofNat 16 (map.length - 1), number := (processorIndex - base).setWidth 8 }

/-! ## cxplat -/

/-- An element of `GroupInfo`, of the groups that are active. -/
structure GroupInfo where
  activeProcessorMask : BitVec 64
  maximumProcessorCount : BitVec 8
deriving DecidableEq, Repr

structure CxplatProcessorGroupInfo where
  mask : BitVec 64
  offset : BitVec 32
deriving DecidableEq, Repr

/-- The loop of `cxplat_winuser_initialize_processor_info`. -/
def cxplatProcessorGroupInfo (currentProcessorCount : BitVec 32) :
    List GroupInfo → List CxplatProcessorGroupInfo
  | [] => []
  | info :: groupInfo =>
    { mask := info.activeProcessorMask, offset := currentProcessorCount } ::
      cxplatProcessorGroupInfo (currentProcessorCount + info.maximumProcessorCount.setWidth 32)
        groupInfo

/-- `procNumber` is the processor that the system says the thread runs on. -/
def cxplatGetCurrentProcessorNumber (groupInfo : List CxplatProcessorGroupInfo)
    (procNumber : ProcessorNumber) : Option (BitVec 32) :=
  groupInfo[procNumber.group.toNat]?.map fun info => info.offset + procNumber.number.setWidth 32

/-! ## The map -/

variable {gs : Groups} {i n : Nat}

def Groups.total (gs : Groups) : BitVec 32 := gs.getMaximumProcessorCount allProcessorGroups

theorem Groups.sum_lt (gs : Groups) : gs.sizes.sum < 2 ^ 32 := by
  have hsum : gs.sizes.sum ≤ gs.sizes.length * 64 := List.sum_le_card_nsmul gs.sizes 64 gs.small
  have hfew := gs.few
  omega

theorem Groups.toNat_total (gs : Groups) : gs.total.toNat = gs.sizes.sum := by
  rw [total, getMaximumProcessorCount, if_pos rfl, BitVec.toNat_ofNat, Nat.mod_eq_of_lt gs.sum_lt]

theorem Groups.toNat_groupCount (gs : Groups) :
    gs.getMaximumProcessorGroupCount.toNat = gs.sizes.length := by
  have hfew := gs.few
  rw [getMaximumProcessorGroupCount, BitVec.toNat_ofNat, Nat.mod_eq_of_lt (by omega)]

theorem Groups.getMaximumProcessorCount_ofNat (gs : Groups) (h : i < 65535) :
    gs.getMaximumProcessorCount (BitVec.ofNat 16 i) = BitVec.ofNat 32 (sizeAt gs.sizes i) := by
  have hi : (BitVec.ofNat 16 i).toNat = i := by
    rw [BitVec.toNat_ofNat, Nat.mod_eq_of_lt (by omega)]
  have hne : BitVec.ofNat 16 i ≠ allProcessorGroups := by
    intro h'
    have hall : (BitVec.ofNat 16 i).toNat = 65535 := congrArg BitVec.toNat h'
    omega
  rw [getMaximumProcessorCount, if_neg hne, hi]

theorem groupIndices_eq (gs : Groups) (count : Nat) (h : i + count ≤ 65535) :
    groupIndices gs i (BitVec.ofNat 32 (offset gs.sizes i)) count =
      (List.range' i count).map fun j => BitVec.ofNat 32 (offset gs.sizes j) := by
  induction count generalizing i with
  | zero => rfl
  | succ count ih =>
    rw [groupIndices, gs.getMaximumProcessorCount_ofNat (by omega), ← BitVec.ofNat_add,
      ← offset_succ, ih (by omega), List.range'_succ, List.map_cons]

/-- The map holds where every group starts. -/
theorem groupToIndexMap_eq (gs : Groups) :
    groupToIndexMap gs =
      (List.range gs.sizes.length).map fun i => BitVec.ofNat 32 (offset gs.sizes i) := by
  have hfew := gs.few
  have hall := groupIndices_eq gs (i := 0) gs.sizes.length (by omega)
  rw [groupToIndexMap, gs.toNat_groupCount, List.range_eq_range']
  exact hall

theorem groupToIndexMap_length (gs : Groups) : (groupToIndexMap gs).length = gs.sizes.length := by
  simp [groupToIndexMap_eq]

theorem getElem?_groupToIndexMap (h : i < gs.sizes.length) :
    (groupToIndexMap gs)[i]? = some (BitVec.ofNat 32 (offset gs.sizes i)) := by
  simp [groupToIndexMap_eq, h]

theorem lt_ofNat_offset (gs : Groups) (index : BitVec 32) (i : Nat) :
    index < BitVec.ofNat 32 (offset gs.sizes i) ↔ index.toNat < offset gs.sizes i := by
  have hle := offset_le_sum gs.sizes i
  rw [BitVec.lt_def, BitVec.toNat_ofNat, Nat.mod_eq_of_lt (Nat.lt_of_le_of_lt hle gs.sum_lt)]

/-! ## Places -/

/-- The processors of the system. -/
def Groups.IsProcessor (gs : Groups) (p : ProcessorNumber) : Prop :=
  p.number.toNat < sizeAt gs.sizes p.group.toNat

instance (gs : Groups) (p : ProcessorNumber) : Decidable (gs.IsProcessor p) :=
  inferInstanceAs (Decidable (_ < _))

/-- The index of a processor. -/
def Groups.indexOf (gs : Groups) (p : ProcessorNumber) : BitVec 32 :=
  BitVec.ofNat 32 (offset gs.sizes p.group.toNat + p.number.toNat)

theorem sizeAt_le (gs : Groups) (i : Nat) : sizeAt gs.sizes i ≤ 64 := by
  rw [sizeAt]
  cases h : gs.sizes[i]? with
  | none => exact Nat.zero_le _
  | some size => exact gs.small size (List.mem_of_getElem? h)

variable {p : ProcessorNumber} {index : BitVec 32}

theorem toNat_indexOf (h : gs.IsProcessor p) :
    (gs.indexOf p).toNat = offset gs.sizes p.group.toNat + p.number.toNat := by
  have hlt := place_lt_sum h
  rw [Groups.indexOf, BitVec.toNat_ofNat, Nat.mod_eq_of_lt (Nat.lt_trans hlt gs.sum_lt)]

theorem indexOf_lt (h : gs.IsProcessor p) : gs.indexOf p < gs.total := by
  rw [BitVec.lt_def, toNat_indexOf h, gs.toNat_total]
  exact place_lt_sum h

/-- Every index is that of a processor. -/
theorem exists_indexOf (h : index < gs.total) : ∃ p, gs.IsProcessor p ∧ gs.indexOf p = index := by
  rw [BitVec.lt_def, gs.toNat_total] at h
  obtain ⟨i, n, hn, hindex⟩ := exists_place h
  have hi := lt_length_of_place hn
  have hfew := gs.few
  have hsmall := sizeAt_le gs i
  have hgroup : (BitVec.ofNat 16 i).toNat = i := by
    rw [BitVec.toNat_ofNat, Nat.mod_eq_of_lt (by omega)]
  have hnumber : (BitVec.ofNat 8 n).toNat = n := by
    rw [BitVec.toNat_ofNat, Nat.mod_eq_of_lt (by omega)]
  refine ⟨⟨BitVec.ofNat 16 i, BitVec.ofNat 8 n⟩, ?_, ?_⟩
  · rw [Groups.IsProcessor, hgroup, hnumber]
    exact hn
  · rw [Groups.indexOf, hgroup, hnumber, hindex, BitVec.ofNat_toNat, BitVec.setWidth_eq]

/-- A number is what is left of the index in its group. -/
theorem number_eq (gs : Groups) (p : ProcessorNumber) :
    (gs.indexOf p - BitVec.ofNat 32 (offset gs.sizes p.group.toNat)).setWidth 8 = p.number := by
  rw [Groups.indexOf, BitVec.ofNat_add, BitVec.add_comm, BitVec.add_sub_cancel,
    BitVec.setWidth_ofNat_of_le (by decide), BitVec.ofNat_toNat, BitVec.setWidth_eq]

theorem keGetProcessorIndexFromNumber_place (h : gs.IsProcessor p) :
    keGetProcessorIndexFromNumber (groupToIndexMap gs) p = some (gs.indexOf p) := by
  rw [keGetProcessorIndexFromNumber, getElem?_groupToIndexMap (lt_length_of_place h),
    Option.map_some, Groups.indexOf, BitVec.ofNat_add, BitVec.ofNat_toNat]

/-- The search stops at the group behind the one of the index, or behind the last group. -/
theorem findIdx?_groupToIndexMap (h : gs.IsProcessor p) :
    (groupToIndexMap gs).findIdx? (fun base => gs.indexOf p < base) =
      if p.group.toNat + 1 < gs.sizes.length then some (p.group.toNat + 1) else none := by
  rw [groupToIndexMap_eq, List.findIdx?_map, ← findIdx?_offset h]
  refine congrArg (fun f => List.findIdx? f _) (funext fun j => ?_)
  rw [Function.comp_apply, decide_eq_decide, lt_ofNat_offset, toNat_indexOf h]

theorem keGetProcessorNumberFromIndex_place (h : gs.IsProcessor p) :
    keGetProcessorNumberFromIndex (groupToIndexMap gs) gs.total (gs.indexOf p) = some (.ok p) := by
  have hlength := lt_length_of_place h
  have hgroup : BitVec.ofNat 16 p.group.toNat = p.group := by
    rw [BitVec.ofNat_toNat, BitVec.setWidth_eq]
  rw [keGetProcessorNumberFromIndex, if_neg (BitVec.not_le.mpr (indexOf_lt h)),
    findIdx?_groupToIndexMap h]
  by_cases hnext : p.group.toNat + 1 < gs.sizes.length
  · rw [if_pos hnext]
    simp only [getElem?_groupToIndexMap hlength, Option.map_some, number_eq, hgroup]
  · have hlast : gs.sizes.length - 1 = p.group.toNat := by omega
    rw [if_neg hnext]
    simp only [List.getLast?_eq_getElem?, groupToIndexMap_length, hlast,
      getElem?_groupToIndexMap hlength, Option.map_some, number_eq, hgroup]

/-- An offset of cxplat counts the groups before. -/
theorem getElem?_cxplatProcessorGroupInfo (groupInfo : List GroupInfo) (start : Nat)
    (h : i < groupInfo.length) :
    ((cxplatProcessorGroupInfo (BitVec.ofNat 32 start) groupInfo)[i]?.map
        CxplatProcessorGroupInfo.offset) =
      some (BitVec.ofNat 32
        (start + offset (groupInfo.map fun info => info.maximumProcessorCount.toNat) i)) := by
  induction groupInfo generalizing start i with
  | nil => exact absurd h (Nat.not_lt_zero _)
  | cons info groupInfo ih =>
    cases i with
    | zero => rfl
    | succ i =>
      have hnext : BitVec.ofNat 32 start + info.maximumProcessorCount.setWidth 32 =
          BitVec.ofNat 32 (start + info.maximumProcessorCount.toNat) := by
        rw [BitVec.ofNat_add, BitVec.ofNat_toNat]
      rw [cxplatProcessorGroupInfo, List.getElem?_cons_succ, hnext,
        ih _ (Nat.lt_of_succ_lt_succ h)]
      simp [offset, Nat.add_assoc]

/-- The active groups come first and have the counts that `platform_user.cpp` reads. -/
def Groups.Reports (gs : Groups) (groupInfo : List GroupInfo) : Prop :=
  (groupInfo.map fun info => info.maximumProcessorCount.toNat) <+: gs.sizes

theorem cxplat_eq_indexOf {groupInfo : List GroupInfo} (hreport : gs.Reports groupInfo)
    (hactive : p.group.toNat < groupInfo.length) :
    cxplatGetCurrentProcessorNumber (cxplatProcessorGroupInfo 0 groupInfo) p =
      some (gs.indexOf p) := by
  obtain ⟨info, hinfo, heq⟩ := Option.map_eq_some_iff.mp
    (getElem?_cxplatProcessorGroupInfo groupInfo 0 hactive)
  have hprefix : offset (groupInfo.map fun info => info.maximumProcessorCount.toNat)
      p.group.toNat = offset gs.sizes p.group.toNat := by
    obtain ⟨rest, hrest⟩ := hreport
    rw [offset, offset, ← hrest, List.take_append_of_le_length (by simpa using hactive.le)]
  rw [Nat.zero_add, hprefix] at heq
  have hinfo : (cxplatProcessorGroupInfo 0 groupInfo)[p.group.toNat]? = some info := hinfo
  rw [cxplatGetCurrentProcessorNumber, hinfo, Option.map_some, heq, Groups.indexOf,
    BitVec.ofNat_add, BitVec.ofNat_toNat]

/-! ## The correspondence -/

/-- The indices below the total and the processors, through the two functions. -/
structure Numbering (gs : Groups) : Prop where
  processor : ∀ index < gs.total, ∃ p, gs.IsProcessor p ∧
    keGetProcessorNumberFromIndex (groupToIndexMap gs) gs.total index = some (.ok p) ∧
    keGetProcessorIndexFromNumber (groupToIndexMap gs) p = some index
  index : ∀ p, gs.IsProcessor p → ∃ index < gs.total,
    keGetProcessorIndexFromNumber (groupToIndexMap gs) p = some index ∧
    keGetProcessorNumberFromIndex (groupToIndexMap gs) gs.total index = some (.ok p)
  rejected : ∀ index, gs.total ≤ index →
    keGetProcessorNumberFromIndex (groupToIndexMap gs) gs.total index =
      some (.error .invalidParameter)
  cxplat : ∀ groupInfo, gs.Reports groupInfo → ∀ p, gs.IsProcessor p →
    p.group.toNat < groupInfo.length →
    cxplatGetCurrentProcessorNumber (cxplatProcessorGroupInfo 0 groupInfo) p =
      keGetProcessorIndexFromNumber (groupToIndexMap gs) p

/-- For every list of groups, empty ones among them, the two functions are inverse to each other. -/
theorem processor_numbering (gs : Groups) : Numbering gs := by
  refine ⟨fun index hindex => ?_, fun p hp => ?_, fun index hindex => ?_,
    fun groupInfo hreport p hp hactive => ?_⟩
  · obtain ⟨p, hp, rfl⟩ := exists_indexOf hindex
    exact ⟨p, hp, keGetProcessorNumberFromIndex_place hp, keGetProcessorIndexFromNumber_place hp⟩
  · exact ⟨gs.indexOf p, indexOf_lt hp, keGetProcessorIndexFromNumber_place hp,
      keGetProcessorNumberFromIndex_place hp⟩
  · rw [keGetProcessorNumberFromIndex, if_pos hindex]
  · rw [cxplat_eq_indexOf hreport hactive, keGetProcessorIndexFromNumber_place hp]

example : keGetProcessorNumberFromIndex
    (groupToIndexMap ⟨[0, 2, 0, 3], by decide, by decide, by decide⟩) 5 2 =
      some (.ok { group := 3, number := 0 }) := by decide

end Usersim.Platform
