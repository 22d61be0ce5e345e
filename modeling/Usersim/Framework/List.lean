import Usersim.Lib.Ring

/-!
# Intrusive lists (`framework.h`)

`usersim_list_*` as the sequences of link writes they are, over any type of list entries. The
lemmas say what each does to a ring that is represented as a list, and that it leaves the links of
all other entries alone.
-/

namespace Usersim.Framework

open Lib

variable {α : Type*} [DecidableEq α]

def usersimListInitialize (L : Links α) (listHead : α) : Links α :=
  (L.setBlink listHead listHead).setFlink listHead listHead

def usersimListIsEmpty (L : Links α) (listHead : α) : Bool := L.flink listHead == listHead

def usersimListInsertTail (L : Links α) (listHead entry : α) : Links α :=
  let previousEntry := L.blink listHead
  let L := L.setFlink entry listHead
  let L := L.setBlink entry previousEntry
  let L := L.setFlink previousEntry entry
  L.setBlink listHead entry

/-- What `usersim_list_insert_tail` asserts of the links it leaves. -/
def usersimListInsertTailAsserts (L : Links α) (listHead : α) : Bool :=
  L.flink (L.blink listHead) == listHead && L.blink (L.flink listHead) == listHead

/-- The result is `true` when the list has become empty. -/
def usersimListRemoveEntry (L : Links α) (entry : α) : Links α × Bool :=
  let nextEntry := L.flink entry
  let previousEntry := L.blink entry
  let L := L.setFlink previousEntry nextEntry
  let L := L.setBlink nextEntry previousEntry
  -- marks the entry as not in a list
  let L := L.setBlink entry entry
  let L := L.setFlink entry entry
  (L, previousEntry == nextEntry)

def usersimListRemoveHeadEntry (L : Links α) (listHead : α) : Links α × α :=
  if L.flink listHead = listHead then (L, listHead)
  else
    let removed := L.flink listHead
    let L := L.setFlink listHead (L.flink removed)
    let L := L.setBlink (L.flink removed) listHead
    (L, removed)

def usersimListAppendTailList (L : Links α) (listHead listToAppend : α) : Links α :=
  let listEnd := L.blink listHead
  let L := L.setFlink (L.blink listHead) listToAppend
  let L := L.setBlink listHead (L.blink listToAppend)
  let L := L.setFlink (L.blink listToAppend) listHead
  L.setBlink listToAppend listEnd

variable {L : Links α} {listHead entry x : α} {l : List α}

/-! ## Initialization -/

theorem initialize_represents : Represents (usersimListInitialize L x) x [] := by
  rw [Represents.nil_iff]
  simp [usersimListInitialize]

theorem initialize_flink (h : x ≠ entry) :
    (usersimListInitialize L entry).flink x = L.flink x := by
  simp [usersimListInitialize, h]

theorem initialize_blink (h : x ≠ entry) :
    (usersimListInitialize L entry).blink x = L.blink x := by
  simp [usersimListInitialize, h]

theorem isEmpty_eq_true_iff (h : Represents L listHead l) :
    usersimListIsEmpty L listHead = true ↔ l = [] := by
  rw [← h.isEmpty_iff]
  simp [usersimListIsEmpty]

/-! ## Insertion -/

theorem insertTail_represents (h : Represents L listHead l) (he : entry ∉ listHead :: l) :
    Represents (usersimListInsertTail L listHead entry) listHead (l ++ [entry]) := by
  have hp : L.blink listHead ≠ entry := fun hpe => he (hpe ▸ h.blink_head_mem)
  have hh : listHead ≠ entry := fun hhe => he (hhe ▸ List.mem_cons_self ..)
  refine h.append_cell he ?_ ?_ ?_ ?_ (fun z hz hzp => ?_) (fun z hz hzh => ?_)
  · simp [usersimListInsertTail]
  · simp [usersimListInsertTail, hh.symm]
  · simp [usersimListInsertTail, hp.symm]
  · simp [usersimListInsertTail]
  · simp [usersimListInsertTail, hz, hzp]
  · simp [usersimListInsertTail, hz, hzh]

theorem insertTail_asserts (h : Represents L listHead l) (he : entry ∉ listHead :: l) :
    usersimListInsertTailAsserts (usersimListInsertTail L listHead entry) listHead = true := by
  obtain ⟨hb, hf⟩ := (insertTail_represents h he).linked_mem (List.mem_cons_self ..)
  simp only [usersimListInsertTailAsserts, Bool.and_eq_true, beq_iff_eq]
  exact ⟨hb.1, hf.2⟩

theorem insertTail_frame (h : Represents L listHead l) (hx : x ∉ listHead :: l) (hxe : x ≠ entry) :
    (usersimListInsertTail L listHead entry).flink x = L.flink x ∧
      (usersimListInsertTail L listHead entry).blink x = L.blink x := by
  have hp : x ≠ L.blink listHead := fun hxp => hx (hxp ▸ h.blink_head_mem)
  have hh : x ≠ listHead := fun hxh => hx (hxh ▸ List.mem_cons_self ..)
  simp [usersimListInsertTail, hp, hh, hxe]

/-! ## Removal -/

theorem removeEntry_represents {l₁ l₂ : List α} (h : Represents L listHead (l₁ ++ entry :: l₂)) :
    Represents (usersimListRemoveEntry L entry).1 listHead (l₁ ++ l₂) := by
  have hmem : entry ∈ l₁ ++ entry :: l₂ := by simp
  have hfe : L.flink entry ≠ entry := h.flink_ne_self hmem
  have hbe : L.blink entry ≠ entry := by
    intro hbe
    obtain ⟨hb, -⟩ := h.neighbours
    have hlast := List.getLast_mem (show listHead :: l₁ ≠ [] by simp)
    rw [hb, hbe] at hlast
    have hnd := h.nodup
    rw [← List.cons_append, List.nodup_append] at hnd
    exact hnd.2.2 entry hlast entry (List.mem_cons_self ..) rfl
  refine h.delete_cell ?_ ?_ (fun z hz hzp => ?_) (fun z hz hzn => ?_)
  · simp [usersimListRemoveEntry, hbe]
  · simp [usersimListRemoveEntry, hfe]
  · simp [usersimListRemoveEntry, hz, hzp]
  · simp [usersimListRemoveEntry, hz, hzn]

theorem removeEntry_self : Represents (usersimListRemoveEntry L entry).1 entry [] := by
  rw [Represents.nil_iff]
  simp [usersimListRemoveEntry]

/-- The entry is marked as not in a list. -/
theorem removeEntry_self_links :
    (usersimListRemoveEntry L entry).1.flink entry = entry ∧
      (usersimListRemoveEntry L entry).1.blink entry = entry := by
  simp [usersimListRemoveEntry]

theorem removeEntry_isEmpty {l₁ l₂ : List α} (h : Represents L listHead (l₁ ++ entry :: l₂)) :
    (usersimListRemoveEntry L entry).2 = true ↔ l₁ ++ l₂ = [] := by
  rw [← h.neighbours_eq_iff]
  simp [usersimListRemoveEntry]

theorem removeEntry_frame (h : Represents L listHead l) (he : entry ∈ l) (hx : x ∉ listHead :: l) :
    (usersimListRemoveEntry L entry).1.flink x = L.flink x ∧
      (usersimListRemoveEntry L entry).1.blink x = L.blink x := by
  obtain ⟨hf, hb⟩ := h.link_mem he
  have hxf : x ≠ L.flink entry := fun hxf => hx (hxf ▸ hf)
  have hxb : x ≠ L.blink entry := fun hxb => hx (hxb ▸ hb)
  have hxe : x ≠ entry := fun hxe => hx (hxe ▸ List.mem_cons_of_mem _ he)
  simp [usersimListRemoveEntry, hxf, hxb, hxe]

theorem removeHeadEntry_eq (h : Represents L listHead (entry :: l)) :
    usersimListRemoveHeadEntry L listHead =
      ((L.setFlink listHead (L.flink entry)).setBlink (L.flink entry) listHead, entry) := by
  have hf : L.flink listHead = entry := h.flink_head.1
  have hne : entry ≠ listHead := by
    rintro rfl
    exact (List.nodup_cons.mp h.nodup).1 (List.mem_cons_self ..)
  simp [usersimListRemoveHeadEntry, hf, hne]

theorem removeHeadEntry_represents (h : Represents L listHead (entry :: l)) :
    Represents (usersimListRemoveHeadEntry L listHead).1 listHead l := by
  have hb : L.blink entry = listHead := h.flink_head.2
  rw [removeHeadEntry_eq h]
  have hsplit : Represents L listHead ([] ++ entry :: l) := h
  refine hsplit.delete_cell ?_ ?_ (fun z hz hzp => ?_) (fun z hz hzn => ?_)
  · simp [hb]
  · simp [hb]
  · rw [hb] at hzp
    simp [hzp]
  · simp [hzn]

theorem removeHeadEntry_frame (h : Represents L listHead (entry :: l)) (hx : x ∉ listHead :: l) :
    (usersimListRemoveHeadEntry L listHead).1.flink x = L.flink x ∧
      (usersimListRemoveHeadEntry L listHead).1.blink x = L.blink x := by
  have hmem := (h.link_mem (List.mem_cons_self ..)).1
  have hxf : x ≠ L.flink entry := by
    rintro rfl
    rcases List.mem_cons.mp hmem with hm | hm
    · exact hx (hm ▸ List.mem_cons_self ..)
    · rcases List.mem_cons.mp hm with hm | hm
      · exact h.flink_ne_self (List.mem_cons_self ..) hm
      · exact hx (List.mem_cons_of_mem _ hm)
  have hxh : x ≠ listHead := fun hxh => hx (hxh ▸ List.mem_cons_self ..)
  rw [removeHeadEntry_eq h]
  simp [hxf, hxh]

theorem removeHeadEntry_nil (h : Represents L listHead []) :
    usersimListRemoveHeadEntry L listHead = (L, listHead) :=
  if_pos (Represents.nil_iff.mp h).1

/-! ## Concatenation -/

theorem appendTailList_represents {listToAppend : α} {m : List α} (h : Represents L listHead l)
    (h' : Represents L listToAppend m) (hdisj : ∀ z ∈ listToAppend :: m, z ∉ listHead :: l) :
    Represents (usersimListAppendTailList L listHead listToAppend) listHead
      (l ++ listToAppend :: m) := by
  have hne : listToAppend ≠ listHead := fun heq => hdisj listToAppend (by simp) (by simp [heq])
  have hbne : L.blink listHead ≠ L.blink listToAppend :=
    fun heq => hdisj _ h'.blink_head_mem (heq ▸ h.blink_head_mem)
  refine h.append_ring h' hdisj ⟨?_, ?_⟩ ⟨?_, ?_⟩ (fun z hzp hzq => ?_) (fun z hzx hzh => ?_)
  · simp [usersimListAppendTailList, hne, hbne]
  · simp [usersimListAppendTailList]
  · simp [usersimListAppendTailList, hne]
  · simp [usersimListAppendTailList, hne.symm]
  · simp [usersimListAppendTailList, hne, hzp, hzq]
  · simp [usersimListAppendTailList, hzx, hzh]

theorem appendTailList_frame {listToAppend : α} {m : List α} (h : Represents L listHead l)
    (h' : Represents L listToAppend m) (hne : listToAppend ≠ listHead) (hx : x ∉ listHead :: l)
    (hx' : x ∉ listToAppend :: m) :
    SameLinks L (usersimListAppendTailList L listHead listToAppend) x := by
  have hxp : x ≠ L.blink listHead := fun hxp => hx (hxp ▸ h.blink_head_mem)
  have hxq : x ≠ L.blink listToAppend := fun hxq => hx' (hxq ▸ h'.blink_head_mem)
  have hxh : x ≠ listHead := fun hxh => hx (hxh ▸ List.mem_cons_self ..)
  have hxa : x ≠ listToAppend := fun hxa => hx' (hxa ▸ List.mem_cons_self ..)
  simp [SameLinks, usersimListAppendTailList, hne, hxp, hxq, hxh, hxa]

end Usersim.Framework
