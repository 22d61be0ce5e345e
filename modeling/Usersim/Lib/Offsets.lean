import Mathlib.Algebra.BigOperators.Group.List.Basic
import Mathlib.Algebra.GroupWithZero.Nat
import Mathlib.Algebra.Order.BigOperators.Group.List

/-!
# Places in consecutive groups

Groups of the given sizes are laid out one behind the other. A place is a group and a number below
its size, an index counts over all groups; groups may be empty.

* `exists_place` — every index has a place
* `place_unique` — and only one
* `findIdx?_offset` — the search for the first group that starts behind the index
-/

namespace Lib

/-- The index at which a group starts. -/
def offset (sizes : List Nat) (i : Nat) : Nat := (sizes.take i).sum

/-- The groups are taken to be empty behind the last one. -/
def sizeAt (sizes : List Nat) (i : Nat) : Nat := sizes[i]?.getD 0

variable {sizes : List Nat} {i j n m index : Nat}

theorem offset_succ (sizes : List Nat) (i : Nat) :
    offset sizes (i + 1) = offset sizes i + sizeAt sizes i := by
  unfold offset sizeAt
  rw [List.take_add_one, List.sum_append]
  cases sizes[i]? <;> simp

theorem offset_mono (h : i ≤ j) : offset sizes i ≤ offset sizes j := by
  induction h with
  | refl => exact Nat.le_refl _
  | step _ ih => exact Nat.le_trans ih (offset_succ sizes _ ▸ Nat.le_add_right _ _)

theorem offset_le_sum (sizes : List Nat) (i : Nat) : offset sizes i ≤ sizes.sum := by
  have hlast : offset sizes (max i sizes.length) = sizes.sum := by
    rw [offset, List.take_of_length_le (Nat.le_max_right _ _)]
  exact hlast ▸ offset_mono (Nat.le_max_left _ _)

/-- A place is below the start of every group behind its own. -/
theorem place_lt_offset (hn : n < sizeAt sizes i) (hij : i < j) :
    offset sizes i + n < offset sizes j := by
  have hnext := offset_succ sizes i
  have hmono : offset sizes (i + 1) ≤ offset sizes j := offset_mono hij
  omega

theorem place_lt_sum (hn : n < sizeAt sizes i) : offset sizes i + n < sizes.sum :=
  Nat.lt_of_lt_of_le (place_lt_offset hn (Nat.lt_succ_self i)) (offset_le_sum sizes _)

theorem lt_length_of_place (hn : n < sizeAt sizes i) : i < sizes.length := by
  by_contra hi
  rw [sizeAt, List.getElem?_eq_none (Nat.le_of_not_lt hi)] at hn
  exact Nat.not_lt_zero _ hn

theorem exists_place (h : index < sizes.sum) :
    ∃ i n, n < sizeAt sizes i ∧ offset sizes i + n = index := by
  induction sizes generalizing index with
  | nil => exact absurd h (Nat.not_lt_zero _)
  | cons size sizes ih =>
    by_cases hfirst : index < size
    · exact ⟨0, index, hfirst, Nat.zero_add _⟩
    · rw [List.sum_cons] at h
      obtain ⟨i, n, hn, hindex⟩ := ih (by omega : index - size < sizes.sum)
      refine ⟨i + 1, n, hn, ?_⟩
      have hskip : offset (size :: sizes) (i + 1) = size + offset sizes i := by
        simp [offset]
      omega

theorem place_unique (hn : n < sizeAt sizes i) (hm : m < sizeAt sizes j)
    (h : offset sizes i + n = offset sizes j + m) : i = j ∧ n = m := by
  have hij : i = j := by
    rcases Nat.lt_trichotomy i j with hlt | heq | hlt
    · have := place_lt_offset hn hlt
      omega
    · exact heq
    · have := place_lt_offset hm hlt
      omega
  subst hij
  exact ⟨rfl, by omega⟩

/-- The first group that starts behind a place is the next one, if there is one. -/
theorem findIdx?_offset (hn : n < sizeAt sizes i) :
    (List.range sizes.length).findIdx? (fun j => offset sizes i + n < offset sizes j) =
      if i + 1 < sizes.length then some (i + 1) else none := by
  have hbefore : ∀ j ≤ i, ¬ offset sizes i + n < offset sizes j := by
    intro j hj
    have : offset sizes j ≤ offset sizes i := offset_mono hj
    omega
  by_cases hnext : i + 1 < sizes.length
  · rw [if_pos hnext, List.findIdx?_eq_some_iff_getElem]
    refine ⟨by simpa using hnext, ?_, ?_⟩
    · simpa using place_lt_offset hn (Nat.lt_succ_self i)
    · intro j hj
      simpa using hbefore j (Nat.lt_succ_iff.mp hj)
  · rw [if_neg hnext, List.findIdx?_eq_none_iff]
    intro j hj
    have hlt := List.mem_range.mp hj
    simpa using hbefore j (by omega)

end Lib
