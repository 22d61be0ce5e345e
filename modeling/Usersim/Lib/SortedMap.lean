import Mathlib.Data.List.Nodup
import Mathlib.Order.Lattice

/-!
# Maps in the order of their keys

A finite map over a linear order, as the list of its entries with ascending keys, and what an
ordered container offers: look-up, assignment, removal, and the entry in front of the first key that
is not less than a given one (`before`).
-/

namespace Lib

variable {K V : Type*} [LinearOrder K]

structure SortedMap (K V : Type*) [LinearOrder K] where
  entries : List (K × V)
  sorted : entries.Pairwise fun x y => x.1 < y.1

namespace SortedMap

variable {m : SortedMap K V} {k k' : K} {v : V}

def empty : SortedMap K V := ⟨[], .nil⟩

def get? (m : SortedMap K V) (k : K) : Option V :=
  (m.entries.find? fun e => e.1 = k).map Prod.snd

def erase (m : SortedMap K V) (k : K) : SortedMap K V where
  entries := m.entries.filter fun e => e.1 ≠ k
  sorted := m.sorted.filter _

/-- The entry of `k` is made or replaced. -/
def insert (m : SortedMap K V) (k : K) (v : V) : SortedMap K V where
  entries := m.entries.filter (fun e => e.1 < k) ++ (k, v) :: m.entries.filter fun e => k < e.1
  sorted := by
    rw [List.pairwise_append, List.pairwise_cons]
    refine ⟨m.sorted.filter _, ⟨?_, m.sorted.filter _⟩, ?_⟩
    · intro e he
      simpa using (List.mem_filter.mp he).2
    · intro e he e' he'
      have hlt : e.1 < k := by simpa using (List.mem_filter.mp he).2
      rcases List.mem_cons.mp he' with rfl | he'
      · exact hlt
      · have hgt : k < e'.1 := by simpa using (List.mem_filter.mp he').2
        exact hlt.trans hgt

/-- The entry in front of the lower bound of `k`; `none` if that is the first one. -/
def before (m : SortedMap K V) (k : K) : Option (K × V) :=
  (m.entries.filter fun e => e.1 < k).getLast?

theorem eq_of_mem {e e' : K × V} (he : e ∈ m.entries) (he' : e' ∈ m.entries) (h : e.1 = e'.1) :
    e = e' := by
  have hkeys : (m.entries.map Prod.fst).Nodup := by
    rw [List.Nodup, List.pairwise_map]
    exact m.sorted.imp fun h => ne_of_lt h
  exact List.inj_on_of_nodup_map hkeys he he' h

theorem get?_eq_some_iff : m.get? k = some v ↔ (k, v) ∈ m.entries := by
  unfold get?
  constructor
  · intro h
    obtain ⟨e, he, rfl⟩ := Option.map_eq_some_iff.mp h
    have hk : e.1 = k := by simpa using List.find?_some he
    rw [← hk]
    exact List.mem_of_find?_eq_some he
  · intro h
    cases he : m.entries.find? fun e => e.1 = k with
    | none =>
      have hnone := List.find?_eq_none.mp he (k, v) h
      simp at hnone
    | some e =>
      have hk : e.1 = k := by simpa using List.find?_some he
      rw [eq_of_mem (List.mem_of_find?_eq_some he) h hk]
      rfl

theorem mem_insert {e : K × V} :
    e ∈ (m.insert k v).entries ↔ e = (k, v) ∨ e ∈ m.entries ∧ e.1 ≠ k := by
  simp only [insert, List.mem_append, List.mem_cons, List.mem_filter, decide_eq_true_eq]
  constructor
  · rintro (⟨he, hlt⟩ | rfl | ⟨he, hlt⟩)
    · exact .inr ⟨he, ne_of_lt hlt⟩
    · exact .inl rfl
    · exact .inr ⟨he, ne_of_gt hlt⟩
  · rintro (rfl | ⟨he, hne⟩)
    · exact .inr (.inl rfl)
    · rcases lt_or_gt_of_ne hne with hlt | hlt
      · exact .inl ⟨he, hlt⟩
      · exact .inr (.inr ⟨he, hlt⟩)

theorem mem_erase {e : K × V} : e ∈ (m.erase k).entries ↔ e ∈ m.entries ∧ e.1 ≠ k := by
  simp [erase]

theorem get?_insert : (m.insert k v).get? k' = if k' = k then some v else m.get? k' := by
  ext u
  rw [get?_eq_some_iff, mem_insert]
  by_cases h : k' = k
  · subst h
    simp [eq_comm]
  · rw [if_neg h, get?_eq_some_iff]
    simp [h]

theorem get?_erase : (m.erase k).get? k' = if k' = k then none else m.get? k' := by
  ext u
  rw [get?_eq_some_iff, mem_erase]
  by_cases h : k' = k
  · simp [h]
  · rw [if_neg h, get?_eq_some_iff]
    simp [h]

theorem before_eq_none_iff : m.before k = none ↔ ∀ e ∈ m.entries, k ≤ e.1 := by
  simp [before]

/-- It is the entry with the greatest key below `k`. -/
theorem before_eq_some {e : K × V} (h : m.before k = some e) :
    e ∈ m.entries ∧ e.1 < k ∧ ∀ e' ∈ m.entries, e'.1 < k → e'.1 ≤ e.1 := by
  obtain ⟨front, hfront⟩ := List.getLast?_eq_some_iff.mp h
  have hmem : e ∈ m.entries.filter fun e => e.1 < k := by
    rw [hfront]
    simp
  have he := List.mem_filter.mp hmem
  refine ⟨he.1, by simpa using he.2, fun e' he' hlt => ?_⟩
  have hmem' : e' ∈ front ++ [e] := by
    rw [← hfront]
    exact List.mem_filter.mpr ⟨he', by simpa using hlt⟩
  have hsorted : (front ++ [e]).Pairwise fun x y => x.1 < y.1 := hfront ▸ m.sorted.filter _
  rcases List.mem_append.mp hmem' with hmem' | hmem'
  · exact le_of_lt ((List.pairwise_append.mp hsorted).2.2 e' hmem' e (List.mem_singleton_self e))
  · rw [List.mem_singleton.mp hmem']

end SortedMap

end Lib
