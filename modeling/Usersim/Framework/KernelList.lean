import Usersim.Framework.List

/-!
# Intrusive lists of the kernel (`kernel_um.h`)

The list functions of the kernel headers. They check the links of the cells they write to and call
`FatalListEntryError` where these do not agree; that function returns, since what it asserts is a
string literal. So every function below performs its writes in any case, and says whether it has
called it.
-/

namespace Usersim.Framework

open Lib

variable {α : Type*} [DecidableEq α]

/-- What a function leaves. -/
structure Checked (α ρ : Type*) where
  links : Links α
  result : ρ
  /-- A check of the links has failed. -/
  fatal : Bool

def isListEmpty (L : Links α) (listHead : α) : Bool := L.flink listHead == listHead

def insertTailList (L : Links α) (listHead entry : α) : Checked α Unit :=
  let prevEntry := L.blink listHead
  let fatal := L.flink prevEntry != listHead
  let L := L.setFlink entry listHead
  let L := L.setBlink entry prevEntry
  let L := L.setFlink prevEntry entry
  let L := L.setBlink listHead entry
  { links := L, result := (), fatal := fatal }

def insertHeadList (L : Links α) (listHead entry : α) : Checked α Unit :=
  let nextEntry := L.flink listHead
  let fatal := L.blink nextEntry != listHead
  let L := L.setFlink entry nextEntry
  let L := L.setBlink entry listHead
  let L := L.setBlink nextEntry entry
  let L := L.setFlink listHead entry
  { links := L, result := (), fatal := fatal }

/-- The entry keeps its links. -/
def removeEntryList (L : Links α) (entry : α) : Checked α Bool :=
  let nextEntry := L.flink entry
  let prevEntry := L.blink entry
  let fatal := L.blink nextEntry != entry || L.flink prevEntry != entry
  let L := L.setFlink prevEntry nextEntry
  let L := L.setBlink nextEntry prevEntry
  { links := L, result := prevEntry == nextEntry, fatal := fatal }

def initializeListHead (L : Links α) (listHead : α) : Links α :=
  (L.setBlink listHead listHead).setFlink listHead listHead

/-- An empty list has its head for an entry. -/
def removeHeadList (L : Links α) (listHead : α) : Checked α α :=
  let entry := L.flink listHead
  let nextEntry := L.flink entry
  let fatal := L.blink entry != listHead || L.blink nextEntry != entry
  let L := L.setFlink listHead nextEntry
  let L := L.setBlink nextEntry listHead
  { links := L, result := entry, fatal := fatal }

def appendTailList (L : Links α) (listHead listToAppend : α) : Links α :=
  let listEnd := L.blink listHead
  let L := L.setFlink (L.blink listHead) listToAppend
  let L := L.setBlink listHead (L.blink listToAppend)
  let L := L.setFlink (L.blink listToAppend) listHead
  L.setBlink listToAppend listEnd

variable {L : Links α} {listHead entry x : α} {l : List α}

/-! ## Insertion -/

theorem insertTailList_links :
    (insertTailList L listHead entry).links = usersimListInsertTail L listHead entry := rfl

theorem insertTailList_fatal (h : Represents L listHead l) (entry : α) :
    (insertTailList L listHead entry).fatal = false := by
  have hlink := (h.linked_mem (List.mem_cons_self ..)).1.1
  simp [insertTailList, hlink]

theorem insertHeadList_represents (h : Represents L listHead l) (he : entry ∉ listHead :: l) :
    Represents (insertHeadList L listHead entry).links listHead (entry :: l) := by
  have hn : L.flink listHead ≠ entry := fun hne => he (hne ▸ h.flink_head_mem)
  have hh : listHead ≠ entry := fun hhe => he (hhe ▸ List.mem_cons_self ..)
  refine h.prepend_cell he ?_ ?_ ?_ ?_ (fun z hz hzh => ?_) (fun z hz hzn => ?_)
  · simp [insertHeadList]
  · simp [insertHeadList, hn.symm]
  · simp [insertHeadList, hh.symm]
  · simp [insertHeadList]
  · simp [insertHeadList, hz, hzh]
  · simp [insertHeadList, hz, hzn]

theorem insertHeadList_fatal (h : Represents L listHead l) (entry : α) :
    (insertHeadList L listHead entry).fatal = false := by
  have hlink := (h.linked_mem (List.mem_cons_self ..)).2.2
  simp [insertHeadList, hlink]

theorem insertHeadList_frame (h : Represents L listHead l) (hx : x ∉ listHead :: l)
    (hxe : x ≠ entry) : SameLinks L (insertHeadList L listHead entry).links x := by
  have hn : x ≠ L.flink listHead := fun hxn => hx (hxn ▸ h.flink_head_mem)
  have hh : x ≠ listHead := fun hxh => hx (hxh ▸ List.mem_cons_self ..)
  simp [SameLinks, insertHeadList, hn, hh, hxe]

/-! ## Removal -/

theorem removeEntryList_represents {l₁ l₂ : List α}
    (h : Represents L listHead (l₁ ++ entry :: l₂)) :
    Represents (removeEntryList L entry).links listHead (l₁ ++ l₂) := by
  refine h.delete_cell ?_ ?_ (fun z hz hzp => ?_) (fun z hz hzn => ?_)
  · simp [removeEntryList]
  · simp [removeEntryList]
  · simp [removeEntryList, hzp]
  · simp [removeEntryList, hzn]

theorem removeEntryList_fatal (h : Represents L listHead l) (he : entry ∈ l) :
    (removeEntryList L entry).fatal = false := by
  obtain ⟨hp, hn⟩ := h.linked_mem (List.mem_cons_of_mem _ he)
  simp [removeEntryList, hp.1, hn.2]

theorem removeEntryList_frame (h : Represents L listHead l) (he : entry ∈ l)
    (hx : x ∉ listHead :: l) : SameLinks L (removeEntryList L entry).links x := by
  obtain ⟨hf, hb⟩ := h.link_mem he
  have hxf : x ≠ L.flink entry := fun hxf => hx (hxf ▸ hf)
  have hxb : x ≠ L.blink entry := fun hxb => hx (hxb ▸ hb)
  simp [SameLinks, removeEntryList, hxf, hxb]

theorem removeHeadList_eq (h : Represents L listHead (entry :: l)) :
    removeHeadList L listHead =
      { links := (usersimListRemoveHeadEntry L listHead).1, result := entry, fatal := false } := by
  obtain ⟨hf, hb⟩ := h.flink_head
  have hmem : entry ∈ listHead :: entry :: l := by simp
  have hlink := (h.linked_mem hmem).2.2
  rw [removeHeadEntry_eq h]
  simp [removeHeadList, hf, hb, hlink]

/-- The head of an empty list is linked to itself once more. -/
theorem removeHeadList_nil (h : Represents L listHead []) :
    removeHeadList L listHead = { links := L, result := listHead, fatal := false } := by
  obtain ⟨hf, hb⟩ := Represents.nil_iff.mp h
  have hlinks : (L.setFlink listHead listHead).setBlink listHead listHead = L := by
    refine Links.ext (funext fun z => ?_) (funext fun z => ?_)
    · by_cases hz : z = listHead
      · simp [hz, hf]
      · simp [hz]
    · by_cases hz : z = listHead
      · simp [hz, hb]
      · simp [hz]
  simp [removeHeadList, hf, hb, hlinks]

end Usersim.Framework
