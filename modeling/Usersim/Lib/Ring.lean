import Mathlib.Data.List.Chain
import Mathlib.Data.List.Nodup
import Mathlib.Logic.Function.Basic

/-!
# Doubly linked rings

Cells with a forward and a backward link, and what it means that a head cell represents a list of
cells: following the forward links from the head visits the list in order and returns to the head,
and the backward links undo the forward ones.

The lemmas say what a change of links has to do to represent the list with a cell appended
(`Represents.append_cell`), prepended (`Represents.prepend_cell`) or deleted
(`Represents.delete_cell`), or with another ring appended (`Represents.append_ring`); they do not
mention how the change is made, so they serve every implementation that performs these writes in
some order.
-/

namespace Lib

@[ext]
structure Links (α : Type*) where
  flink : α → α
  blink : α → α

namespace Links

variable {α : Type*} [DecidableEq α]

def setFlink (L : Links α) (x y : α) : Links α := { L with flink := Function.update L.flink x y }

def setBlink (L : Links α) (x y : α) : Links α := { L with blink := Function.update L.blink x y }

@[simp] theorem setFlink_flink (L : Links α) (x y z : α) :
    (L.setFlink x y).flink z = if z = x then y else L.flink z := by
  simp [setFlink, Function.update_apply]

@[simp] theorem setFlink_blink (L : Links α) (x y z : α) :
    (L.setFlink x y).blink z = L.blink z := rfl

@[simp] theorem setBlink_blink (L : Links α) (x y z : α) :
    (L.setBlink x y).blink z = if z = x then y else L.blink z := by
  simp [setBlink, Function.update_apply]

@[simp] theorem setBlink_flink (L : Links α) (x y z : α) :
    (L.setBlink x y).flink z = L.flink z := rfl

end Links

variable {α : Type*} {L L' : Links α} {head x y : α} {l : List α}

/-- `y` follows `x`, seen from both cells. -/
def Linked (L : Links α) (x y : α) : Prop := L.flink x = y ∧ L.blink y = x

/-- The head represents the list: walking the ring visits it in order and comes back. -/
structure Represents (L : Links α) (head : α) (l : List α) : Prop where
  nodup : (head :: l).Nodup
  chain : (head :: (l ++ [head])).IsChain (Linked L)

/-! ## Chains -/

/-- A chain only depends on the forward links of all but its last cell and on the backward links
of all but its first. -/
theorem isChain_linked_congr (h : l.IsChain (Linked L))
    (hf : ∀ x ∈ l.dropLast, L'.flink x = L.flink x)
    (hb : ∀ y ∈ l.tail, L'.blink y = L.blink y) : l.IsChain (Linked L') := by
  induction l with
  | nil => exact List.isChain_nil
  | cons a l ih =>
    cases l with
    | nil => exact List.isChain_singleton a
    | cons b l =>
      rw [List.isChain_cons_cons] at h ⊢
      refine ⟨⟨?_, ?_⟩, ih h.2 (fun x hx => hf x ?_) (fun y hy => hb y ?_)⟩
      · rw [hf a (by simp)]
        exact h.1.1
      · rw [hb b (by simp)]
        exact h.1.2
      · simp only [List.dropLast_cons_cons, List.mem_cons]
        exact Or.inr hx
      · exact List.mem_cons_of_mem _ hy

theorem Represents.congr (h : Represents L head l)
    (hf : ∀ x ∈ head :: l, L'.flink x = L.flink x)
    (hb : ∀ x ∈ head :: l, L'.blink x = L.blink x) : Represents L' head l := by
  refine ⟨h.nodup, isChain_linked_congr h.chain (fun x hx => hf x ?_) (fun y hy => hb y ?_)⟩
  · rw [← List.cons_append, List.dropLast_concat] at hx
    exact hx
  · simp only [List.tail_cons, List.mem_append, List.mem_singleton] at hy
    rcases hy with hy | rfl
    · exact List.mem_cons_of_mem _ hy
    · exact List.mem_cons_self ..

/-! ## Reading a ring -/

theorem Represents.nil_iff : Represents L head [] ↔ L.flink head = head ∧ L.blink head = head := by
  constructor
  · intro h
    have hc := h.chain
    simp only [List.nil_append, List.isChain_cons_cons] at hc
    exact hc.1
  · intro h
    refine ⟨List.nodup_singleton head, ?_⟩
    simp only [List.nil_append, List.isChain_cons_cons]
    exact ⟨h, List.isChain_singleton head⟩

theorem Represents.flink_head (h : Represents L head (x :: l)) :
    L.flink head = x ∧ L.blink x = head := by
  have hc := h.chain
  rw [List.cons_append, List.isChain_cons_cons] at hc
  exact hc.1

theorem Represents.blink_head (h : Represents L head (l ++ [x])) :
    L.blink head = x ∧ L.flink x = head := by
  have hc := h.chain
  rw [List.append_assoc, List.singleton_append, ← List.cons_append,
    List.isChain_append_cons_cons] at hc
  exact ⟨hc.2.1.2, hc.2.1.1⟩

/-- The neighbours of a cell in the ring. -/
theorem Represents.neighbours {l₁ l₂ : List α} (h : Represents L head (l₁ ++ x :: l₂)) :
    (head :: l₁).getLast (by simp) = L.blink x ∧ (l₂ ++ [head]).head (by simp) = L.flink x := by
  have hc := h.chain
  rw [List.append_assoc, List.cons_append, ← List.cons_append] at hc
  constructor
  · obtain ⟨k, p, hk⟩ : ∃ k p, head :: l₁ = k ++ [p] :=
      ⟨_, _, (List.dropLast_append_getLast (by simp)).symm⟩
    rw [hk, List.append_assoc, List.singleton_append, List.isChain_append_cons_cons] at hc
    simp only [hk, List.getLast_append_singleton]
    exact hc.2.1.2.symm
  · obtain ⟨n, k, hk⟩ : ∃ n k, l₂ ++ [head] = n :: k := by
      cases l₂ with
      | nil => exact ⟨head, [], rfl⟩
      | cons n k => exact ⟨n, k ++ [head], rfl⟩
    rw [hk, List.isChain_append_cons_cons] at hc
    simp only [hk, List.head_cons]
    exact hc.2.1.1.symm

/-- The neighbours of a cell are the same one if it is the only cell. -/
theorem Represents.neighbours_eq_iff {l₁ l₂ : List α} (h : Represents L head (l₁ ++ x :: l₂)) :
    L.blink x = L.flink x ↔ l₁ ++ l₂ = [] := by
  obtain ⟨hb, hf⟩ := h.neighbours
  have hnd := h.nodup
  rw [← List.cons_append, List.nodup_append] at hnd
  obtain ⟨hnd₁, -, hdisj⟩ := hnd
  rw [← hb, ← hf]
  cases l₂ with
  | cons b l₂ =>
    simp only [List.cons_append, List.head_cons, List.append_eq_nil_iff, reduceCtorEq, and_false,
      iff_false]
    exact hdisj _ (List.getLast_mem _) b (by simp)
  | nil =>
    cases l₁ with
    | nil => simp
    | cons a l₁ =>
      simp only [List.nil_append, List.head_cons, List.append_nil, reduceCtorEq, iff_false]
      rw [List.getLast_cons (by simp)]
      intro hlast
      exact (List.nodup_cons.mp hnd₁).1 (hlast ▸ List.getLast_mem _)

/-- Following a link from a cell of the ring stays in the ring. -/
theorem Represents.link_mem (h : Represents L head l) (hx : x ∈ l) :
    L.flink x ∈ head :: l ∧ L.blink x ∈ head :: l := by
  obtain ⟨l₁, l₂, rfl⟩ := List.append_of_mem hx
  obtain ⟨hb, hf⟩ := h.neighbours
  constructor
  · rw [← hf]
    have hmem := List.head_mem (show l₂ ++ [head] ≠ [] by simp)
    simp only [List.mem_cons, List.mem_append] at hmem ⊢
    rcases hmem with hm | hm
    · exact Or.inr (Or.inr (Or.inr hm))
    · exact Or.inl (by simpa using hm)
  · rw [← hb]
    have hmem := List.getLast_mem (show head :: l₁ ≠ [] by simp)
    simp only [List.mem_cons, List.mem_append] at hmem ⊢
    rcases hmem with hm | hm
    · exact Or.inl hm
    · exact Or.inr (Or.inl hm)

theorem Represents.blink_head_mem (h : Represents L head l) : L.blink head ∈ head :: l := by
  rcases List.eq_nil_or_concat l with rfl | ⟨l, a, rfl⟩
  · rw [(Represents.nil_iff.mp h).2]
    exact List.mem_cons_self ..
  · rw [List.concat_eq_append] at h ⊢
    rw [h.blink_head.1]
    simp

theorem Represents.flink_head_mem (h : Represents L head l) : L.flink head ∈ head :: l := by
  cases l with
  | nil => simp [(Represents.nil_iff.mp h).1]
  | cons a l => simp [h.flink_head.1]

theorem Represents.isEmpty_iff (h : Represents L head l) : L.flink head = head ↔ l = [] := by
  cases l with
  | nil => simp [(Represents.nil_iff.mp h).1]
  | cons a l =>
    have hne : a ≠ head := by
      rintro rfl
      exact (List.nodup_cons.mp h.nodup).1 (List.mem_cons_self ..)
    simp [h.flink_head.1, hne]

/-- The two links of a cell of the ring undo each other. -/
theorem Represents.linked_mem (h : Represents L head l) (hx : x ∈ head :: l) :
    Linked L (L.blink x) x ∧ Linked L x (L.flink x) := by
  rcases List.mem_cons.mp hx with rfl | hx
  · rcases List.eq_nil_or_concat l with rfl | ⟨l, a, rfl⟩
    · obtain ⟨hf, hb⟩ := Represents.nil_iff.mp h
      exact ⟨⟨by rw [hb, hf], rfl⟩, rfl, by rw [hf, hb]⟩
    · rw [List.concat_eq_append] at h
      obtain ⟨hb, hf⟩ := h.blink_head
      obtain ⟨b, m, hm⟩ : ∃ b m, l ++ [a] = b :: m := List.exists_cons_of_ne_nil (by simp)
      rw [hm] at h
      exact ⟨⟨by rw [hb, hf], rfl⟩, rfl, by rw [h.flink_head.1, h.flink_head.2]⟩
  · obtain ⟨l₁, l₂, rfl⟩ := List.append_of_mem hx
    have hc := h.chain
    obtain ⟨k, p, hk⟩ : ∃ k p, head :: l₁ = k ++ [p] :=
      ⟨_, _, (List.dropLast_append_getLast (by simp)).symm⟩
    obtain ⟨n, m, hm⟩ : ∃ n m, l₂ ++ [head] = n :: m := List.exists_cons_of_ne_nil (by simp)
    rw [List.append_assoc, List.cons_append, ← List.cons_append, hk, hm, List.append_assoc,
      List.singleton_append, List.isChain_append_cons_cons, List.isChain_cons_cons] at hc
    obtain ⟨-, hpx, hxn, -⟩ := hc
    exact ⟨by rwa [hpx.2], by rwa [hxn.1]⟩

/-- A cell that is in a ring is not linked to itself. -/
theorem Represents.flink_ne_self (h : Represents L head l) (hx : x ∈ l) : L.flink x ≠ x := by
  obtain ⟨l₁, l₂, rfl⟩ := List.append_of_mem hx
  have hn := h.neighbours.2
  have hnd := h.nodup
  rw [← hn]
  cases l₂ with
  | nil =>
    simp only [List.nil_append, List.head_cons]
    rintro rfl
    simp at hnd
  | cons b l₂ =>
    simp only [List.cons_append, List.head_cons]
    rintro rfl
    simp [List.nodup_append] at hnd

/-! ## Changing a ring -/

/-- The backward link of the head leads to the last cell. -/
theorem Represents.getLast_eq (h : Represents L head l) :
    (head :: l).getLast (by simp) = L.blink head := by
  rcases List.eq_nil_or_concat l with rfl | ⟨l, a, rfl⟩
  · exact (Represents.nil_iff.mp h).2.symm
  · simp only [List.concat_eq_append] at h ⊢
    rw [h.blink_head.1, List.getLast_cons (by simp), List.getLast_append_singleton]

/-- The forward link of the head leads to the first cell. -/
theorem Represents.head_eq (h : Represents L head l) :
    (l ++ [head]).head (by simp) = L.flink head := by
  cases l with
  | nil => exact (Represents.nil_iff.mp h).1.symm
  | cons a l => exact h.flink_head.1.symm

/-- Two pieces of a ring whose links are kept, except between `p` and `n`, where new links lead
through `s`: the ring then represents the pieces with `s` between them. -/
theorem represents_of_relinked {l₁ l₂ s : List α} {p n : α}
    (hnd : (head :: (l₁ ++ s ++ l₂)).Nodup) (hl₁ : (head :: l₁).IsChain (Linked L))
    (hl₂ : (l₂ ++ [head]).IsChain (Linked L)) (hp : (head :: l₁).getLast (by simp) = p)
    (hn : (l₂ ++ [head]).head (by simp) = n) (hs : (p :: (s ++ [n])).IsChain (Linked L'))
    (hf : ∀ z ∈ head :: (l₁ ++ l₂), z ≠ p → L'.flink z = L.flink z)
    (hb : ∀ z ∈ head :: (l₁ ++ l₂), z ≠ n → L'.blink z = L.blink z) :
    Represents L' head (l₁ ++ s ++ l₂) := by
  have hpieces : (head :: (l₁ ++ l₂)).Nodup := by
    refine hnd.sublist (.cons_cons _ ?_)
    rw [List.append_assoc]
    exact .append_left (List.sublist_append_right s l₂) l₁
  rw [← List.cons_append] at hpieces
  obtain ⟨hnd₁, hnd₂, hdisj⟩ := List.nodup_append.mp hpieces
  have hmem₁ : ∀ z ∈ head :: l₁, z ∈ head :: (l₁ ++ l₂) := by
    intro z hz
    rw [← List.cons_append]
    exact List.mem_append_left _ hz
  have hmem₂ : ∀ z ∈ l₂ ++ [head], z ∈ head :: (l₁ ++ l₂) := by
    intro z hz
    rcases List.mem_append.mp hz with hz | hz
    · exact List.mem_cons_of_mem _ (List.mem_append_right _ hz)
    · rw [List.mem_singleton.mp hz]
      exact List.mem_cons_self
  obtain ⟨k, hk⟩ : ∃ k, head :: l₁ = k ++ [p] := ⟨_, by rw [← hp, List.dropLast_append_getLast]⟩
  obtain ⟨m, hm⟩ : ∃ m, l₂ ++ [head] = n :: m := ⟨_, by rw [← hn, List.cons_head_tail]⟩
  have hfirst : (k ++ [p]).IsChain (Linked L') := by
    refine isChain_linked_congr (hk ▸ hl₁) (fun z hz => hf z ?_ ?_) (fun z hz => hb z ?_ ?_)
    · rw [← hk] at hz
      exact hmem₁ z (List.dropLast_subset _ hz)
    · -- `p` is the last cell of the piece
      rintro rfl
      rw [hk, List.nodup_append] at hnd₁
      rw [List.dropLast_concat] at hz
      exact hnd₁.2.2 z hz z (List.mem_singleton_self z) rfl
    · rw [← hk] at hz
      exact hmem₁ z (List.mem_of_mem_tail hz)
    · -- `n` is in the other piece, or the head
      rintro rfl
      rw [← hk, List.tail_cons] at hz
      have hz₂ : z ∈ l₂ ++ [head] := by simp [hm]
      rcases List.mem_append.mp hz₂ with hz₂ | hz₂
      · exact hdisj z (List.mem_cons_of_mem _ hz) z hz₂ rfl
      · obtain rfl := List.mem_singleton.mp hz₂
        exact (List.nodup_cons.mp hnd₁).1 hz
  have hsecond : (n :: m).IsChain (Linked L') := by
    refine isChain_linked_congr (hm ▸ hl₂) (fun z hz => hf z ?_ ?_) (fun z hz => hb z ?_ ?_)
    · rw [← hm] at hz
      exact hmem₂ z (List.dropLast_subset _ hz)
    · rintro rfl
      rw [← hm, List.dropLast_concat] at hz
      exact hdisj z (by simp [hk]) z hz rfl
    · rw [← hm] at hz
      exact hmem₂ z (List.mem_of_mem_tail hz)
    · -- the piece ends with the head, which is not in it before
      rintro rfl
      have hlast : (l₂ ++ [head]).Nodup := by
        refine List.nodup_append.mpr ⟨hnd₂, List.nodup_singleton head, fun a ha b hb hab => ?_⟩
        exact hdisj b (by simp [List.mem_singleton.mp hb]) a ha hab.symm
      rw [hm] at hlast
      exact (List.nodup_cons.mp hlast).1 hz
  refine ⟨hnd, ?_⟩
  rw [List.append_assoc, List.append_assoc, ← List.cons_append, hm, hk, List.append_assoc,
    List.singleton_append]
  exact List.isChain_split.mpr ⟨hfirst, List.isChain_cons_split.mpr ⟨hs, hsecond⟩⟩

/-- Linking a chain of new cells between two neighbours of a ring inserts it there. `p` and `n` are
the neighbours, `q` is the last cell of the chain. -/
theorem Represents.insert_chain {l₁ l₂ s : List α} {p n q : α}
    (h : Represents L head (l₁ ++ l₂)) (hs : (x :: s).IsChain (Linked L)) (hsnd : (x :: s).Nodup)
    (hnew : ∀ z ∈ x :: s, z ∉ head :: (l₁ ++ l₂))
    (hp : (head :: l₁).getLast (by simp) = p) (hn : (l₂ ++ [head]).head (by simp) = n)
    (hq : (x :: s).getLast (by simp) = q)
    (hpx : Linked L' p x) (hqn : Linked L' q n)
    (hf : ∀ z, z ≠ p → z ≠ q → L'.flink z = L.flink z)
    (hb : ∀ z, z ≠ x → z ≠ n → L'.blink z = L.blink z) :
    Represents L' head (l₁ ++ x :: s ++ l₂) := by
  obtain ⟨j, hj⟩ : ∃ j, x :: s = j ++ [q] := ⟨_, by rw [← hq, List.dropLast_append_getLast]⟩
  have hqmem : q ∈ x :: s := by simp [hj]
  have hpmem : p ∈ head :: (l₁ ++ l₂) := by
    rw [← hp, ← List.cons_append]
    exact List.mem_append_left _ (List.getLast_mem _)
  have hnmem : n ∈ head :: (l₁ ++ l₂) := by
    have hmem : n ∈ l₂ ++ [head] := hn ▸ List.head_mem _
    rcases List.mem_append.mp hmem with hmem | hmem
    · exact List.mem_cons_of_mem _ (List.mem_append_right _ hmem)
    · rw [List.mem_singleton.mp hmem]
      exact List.mem_cons_self
  have hchain := h.chain
  rw [List.append_assoc, ← List.cons_append] at hchain
  refine represents_of_relinked ?_ hchain.left_of_append hchain.right_of_append hp hn ?_
    (fun z hz hzp => hf z hzp ?_) (fun z hz hzn => hb z ?_ hzn)
  · have hperm : (head :: (l₁ ++ x :: s ++ l₂)).Perm ((x :: s) ++ (head :: (l₁ ++ l₂))) := by
      rw [List.append_assoc, ← List.cons_append, ← List.cons_append]
      exact List.perm_append_comm_assoc ..
    rw [hperm.nodup_iff, List.nodup_append]
    exact ⟨hsnd, h.nodup, fun a ha b hb hab => hnew a ha (hab ▸ hb)⟩
  · rw [List.cons_append, List.isChain_cons_cons, ← List.cons_append, hj, List.append_assoc,
      List.singleton_append, List.isChain_append_cons_cons]
    refine ⟨hpx, isChain_linked_congr (hj ▸ hs) (fun z hz => hf z ?_ ?_) (fun z hz => hb z ?_ ?_),
      hqn, List.isChain_singleton n⟩
    · rintro rfl
      exact hnew z (by rw [hj]; exact List.dropLast_subset _ hz) hpmem
    · rintro rfl
      rw [hj, List.nodup_append] at hsnd
      rw [List.dropLast_concat] at hz
      exact hsnd.2.2 z hz z (List.mem_singleton_self z) rfl
    · rintro rfl
      rw [← hj, List.tail_cons] at hz
      exact (List.nodup_cons.mp hsnd).1 hz
    · rintro rfl
      exact hnew z (by rw [hj]; exact List.mem_of_mem_tail hz) hnmem
  · rintro rfl
    exact hnew z hqmem hz
  · rintro rfl
    exact hnew z (List.mem_cons_self ..) hz

/-- Linking a new cell between the last cell of a ring and its head appends it. -/
theorem Represents.append_cell (h : Represents L head l) (hx : x ∉ head :: l)
    (hlast : L'.flink (L.blink head) = x) (hxb : L'.blink x = L.blink head)
    (hxf : L'.flink x = head) (hhead : L'.blink head = x)
    (hf : ∀ z, z ≠ x → z ≠ L.blink head → L'.flink z = L.flink z)
    (hb : ∀ z, z ≠ x → z ≠ head → L'.blink z = L.blink z) :
    Represents L' head (l ++ [x]) := by
  have hl : Represents L head (l ++ []) := by rwa [List.append_nil]
  have hnew := hl.insert_chain (List.isChain_singleton x) (List.nodup_singleton x)
    (by simpa using hx) h.getLast_eq rfl rfl ⟨hlast, hxb⟩ ⟨hxf, hhead⟩
      (fun z hp hq => hf z hq hp) hb
  rwa [List.append_nil] at hnew

/-- Linking a new cell between the head and the first cell of a ring prepends it. -/
theorem Represents.prepend_cell (h : Represents L head l) (hx : x ∉ head :: l)
    (hhead : L'.flink head = x) (hxb : L'.blink x = head) (hxf : L'.flink x = L.flink head)
    (hfirst : L'.blink (L.flink head) = x)
    (hf : ∀ z, z ≠ x → z ≠ head → L'.flink z = L.flink z)
    (hb : ∀ z, z ≠ x → z ≠ L.flink head → L'.blink z = L.blink z) :
    Represents L' head (x :: l) := by
  have hl : Represents L head ([] ++ l) := h
  exact hl.insert_chain (List.isChain_singleton x) (List.nodup_singleton x) (by simpa using hx)
    rfl h.head_eq rfl ⟨hhead, hxb⟩ ⟨hxf, hfirst⟩ (fun z hp hq => hf z hq hp) hb

/-- Opening a ring and linking it between the last cell of another ring and its head appends all of
its cells. -/
theorem Represents.append_ring {m : List α} (h : Represents L head l) (h' : Represents L x m)
    (hdisj : ∀ z ∈ x :: m, z ∉ head :: l)
    (hpx : Linked L' (L.blink head) x) (hqn : Linked L' (L.blink x) head)
    (hf : ∀ z, z ≠ L.blink head → z ≠ L.blink x → L'.flink z = L.flink z)
    (hb : ∀ z, z ≠ x → z ≠ head → L'.blink z = L.blink z) :
    Represents L' head (l ++ x :: m) := by
  have hl : Represents L head (l ++ []) := by rwa [List.append_nil]
  have hchain : (x :: m).IsChain (Linked L) := by
    have hc := h'.chain
    rw [← List.cons_append] at hc
    exact hc.left_of_append
  have hnew := hl.insert_chain hchain h'.nodup (by simpa using hdisj) h.getLast_eq rfl
    h'.getLast_eq hpx hqn hf hb
  rwa [List.append_nil] at hnew

/-- Linking the two neighbours of a cell to each other deletes it. -/
theorem Represents.delete_cell {l₁ l₂ : List α} (h : Represents L head (l₁ ++ x :: l₂))
    (hp : L'.flink (L.blink x) = L.flink x) (hn : L'.blink (L.flink x) = L.blink x)
    (hf : ∀ z, z ≠ x → z ≠ L.blink x → L'.flink z = L.flink z)
    (hb : ∀ z, z ≠ x → z ≠ L.flink x → L'.blink z = L.blink z) :
    Represents L' head (l₁ ++ l₂) := by
  have hnd := h.nodup
  have hx : x ∉ head :: (l₁ ++ l₂) := by
    have hperm : (head :: (l₁ ++ x :: l₂)).Perm (x :: (head :: (l₁ ++ l₂))) := by
      rw [← List.cons_append]
      exact List.perm_middle
    exact (List.nodup_cons.mp (hperm.nodup_iff.mp hnd)).1
  have hchain := h.chain
  rw [List.append_assoc, List.cons_append, ← List.cons_append] at hchain
  rw [← List.append_nil l₁]
  refine represents_of_relinked ?_ hchain.left_of_append hchain.right_of_append.of_cons
    h.neighbours.1 h.neighbours.2 ?_ (fun z hz hzp => hf z ?_ hzp) (fun z hz hzn => hb z ?_ hzn)
  · rw [List.append_nil]
    exact hnd.sublist (.cons_cons _ (.append_left (List.sublist_cons_self x l₂) l₁))
  · exact List.isChain_cons_cons.mpr ⟨⟨hp, hn⟩, List.isChain_singleton _⟩
  · rintro rfl
    exact hx hz
  · rintro rfl
    exact hx hz

/-! ## Several rings -/

/-- The lists that some heads represent. -/
abbrev Rings (α : Type*) := α → Option (List α)

/-- Every head of `R` represents its list, and no cell is in two rings. -/
structure RepresentsRings (L : Links α) (R : Rings α) : Prop where
  ring : ∀ {head l}, R head = some l → Represents L head l
  disjoint : ∀ {head head' l l' x}, R head = some l → R head' = some l' →
    x ∈ head :: l → x ∈ head' :: l' → head = head'

/-- The cell is in no ring. -/
def Rings.Free (R : Rings α) (x : α) : Prop := ∀ head l, R head = some l → x ∉ head :: l

/-- The links of the cell are as before. -/
def SameLinks (L L' : Links α) (x : α) : Prop := L'.flink x = L.flink x ∧ L'.blink x = L.blink x

/-- Every ring the cell was in or is in now is as before. -/
def Rings.Untouched (R R' : Rings α) (x : α) : Prop :=
  ∀ head l, R head = some l ∨ R' head = some l → x ∈ head :: l → R' head = R head

/-- The heap `L'` represents `R'`, and no cell has changed unless its ring has. -/
structure RingsBecome (L L' : Links α) (R R' : Rings α) : Prop where
  rings : RepresentsRings L' R'
  frame : ∀ x, R.Untouched R' x → SameLinks L L' x

variable {R : Rings α}

theorem RepresentsRings.refl (h : RepresentsRings L R) : RingsBecome L L R R :=
  ⟨h, fun _ _ => ⟨rfl, rfl⟩⟩

variable [DecidableEq α]

/-- One ring changes, to cells that no other ring has. -/
theorem RepresentsRings.update (h : RepresentsRings L R) (hring : Represents L' head l)
    (hcells : ∀ x ∈ head :: l, ∀ head' l', R head' = some l' → x ∈ head' :: l' → head' = head)
    (hframe : ∀ head' l', R head' = some l' → head' ≠ head → ∀ x ∈ head' :: l', SameLinks L L' x) :
    RepresentsRings L' (Function.update R head (some l)) := by
  constructor
  · intro head' l' hR
    by_cases hh : head' = head
    · subst hh
      rw [Function.update_self, Option.some.injEq] at hR
      rwa [← hR]
    · rw [Function.update_of_ne hh] at hR
      exact (h.ring hR).congr (fun x hx => (hframe head' l' hR hh x hx).1)
        fun x hx => (hframe head' l' hR hh x hx).2
  · intro head₁ head₂ l₁ l₂ x hR₁ hR₂ hx₁ hx₂
    by_cases hh₁ : head₁ = head
    · by_cases hh₂ : head₂ = head
      · rw [hh₁, hh₂]
      · subst hh₁
        rw [Function.update_self, Option.some.injEq] at hR₁
        rw [Function.update_of_ne hh₂] at hR₂
        exact (hcells x (hR₁ ▸ hx₁) head₂ l₂ hR₂ hx₂).symm
    · rw [Function.update_of_ne hh₁] at hR₁
      by_cases hh₂ : head₂ = head
      · subst hh₂
        rw [Function.update_self, Option.some.injEq] at hR₂
        exact hcells x (hR₂ ▸ hx₂) head₁ l₁ hR₁ hx₁
      · rw [Function.update_of_ne hh₂] at hR₂
        exact h.disjoint hR₁ hR₂ hx₁ hx₂

/-- One ring changes: cells leave it, or come in from outside of all rings. -/
theorem RepresentsRings.change {l' : List α} (h : RepresentsRings L R) (hR : R head = some l)
    (hring : Represents L' head l') (hne : l ≠ l') (hnew : ∀ x ∈ l', x ∈ l ∨ R.Free x)
    (hframe : ∀ x, x ∉ head :: l → x ∉ l' → SameLinks L L' x) :
    RingsBecome L L' R (Function.update R head (some l')) := by
  constructor
  · refine h.update hring (fun x hx head' l₁ hR' hx' => ?_) fun head' l₁ hR' hh x hx => ?_
    · have hmem : x ∈ head :: l ∨ R.Free x := by
        rcases List.mem_cons.mp hx with rfl | hx
        · exact .inl (by simp)
        · exact (hnew x hx).imp_left (List.mem_cons_of_mem _)
      rcases hmem with hmem | hfree
      · exact h.disjoint hR' hR hx' hmem
      · exact absurd hx' (hfree head' l₁ hR')
    · refine hframe x (fun hx' => hh (h.disjoint hR' hR hx hx')) fun hx' => ?_
      rcases hnew x hx' with hmem | hfree
      · exact hh (h.disjoint hR' hR hx (List.mem_cons_of_mem _ hmem))
      · exact hfree head' l₁ hR' hx
  · intro x hx
    have hchanged : Function.update R head (some l') head ≠ R head := by
      rw [Function.update_self, hR]
      exact fun heq => hne (Option.some.inj heq).symm
    refine hframe x (fun hmem => ?_) fun hmem => ?_
    · exact hchanged (hx head l (.inl hR) hmem)
    · exact hchanged (hx head l' (.inr (Function.update_self ..)) (List.mem_cons_of_mem _ hmem))

/-- A ring that is forgotten has cells that are in no ring. -/
theorem RepresentsRings.forget (h : RepresentsRings L R) (head : α) :
    RepresentsRings L (Function.update R head none) := by
  have hsome : ∀ {head' l'}, Function.update R head none head' = some l' → R head' = some l' := by
    intro head' l' hR
    by_cases hh : head' = head
    · simp [hh] at hR
    · rwa [Function.update_of_ne hh] at hR
  exact ⟨fun hR => h.ring (hsome hR), fun hR hR' => h.disjoint (hsome hR) (hsome hR')⟩

end Lib
