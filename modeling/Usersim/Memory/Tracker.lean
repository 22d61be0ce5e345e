import Mathlib.Data.List.Nodup
import Mathlib.Data.List.Perm.Basic
import Usersim.Memory.Basic

/-!
# The leak detector and the heap

The detector tracks the blocks the callers own and, for a moment, the old pointers of the
reallocates that have not unregistered them yet (`Inv.tracked`). The two are apart as long as
nobody registers a pointer that such a reallocate is about to unregister (`NotRecycled`). The
system may hand such a pointer out, since the old block is already released.

* `tracker_agrees_with_heap` — the detector knows exactly the live pointers whenever no call is in
  progress, and no unregister fails
* `recycled_pointer_fails` — a pointer that is recycled in between
-/

namespace Usersim.Memory

open Lib

variable {limit : Nat} {s s' : State} {t : Tid} {b : Block}

/-! ## Pointers of blocks -/

theorem pointerOffset_pos (poolFlags : PoolFlags) : 0 < pointerOffset poolFlags := by
  unfold pointerOffset
  split
  · decide
  · decide

theorem Block.start_lt_pointer (b : Block) : b.start < b.pointer := by
  have hpos := pointerOffset_pos b.header.poolFlags
  unfold Block.pointer
  omega

theorem Block.pointer_le_stop (b : Block) : b.pointer ≤ b.stop := Nat.le_add_right ..

/-- Blocks that do not overlap have different pointers. -/
theorem pointer_notMem_of_fits {heap : List Block} (h : b.fits heap = true) :
    b.pointer ∉ heap.map Block.pointer := by
  simp only [Block.fits, Bool.and_eq_true, List.all_eq_true, Bool.or_eq_true,
    decide_eq_true_eq] at h
  intro hmem
  obtain ⟨c, hc, heq⟩ := List.mem_map.mp hmem
  have hb := b.start_lt_pointer
  have hb' := b.pointer_le_stop
  have hc' := c.start_lt_pointer
  have hc'' := c.pointer_le_stop
  rcases h.2 c hc with hle | hle
  · omega
  · omega

/-- A block that fits in has a pointer of its own. -/
theorem pointers_insert {owned rest : List Block} (h : b.fits (owned ++ rest) = true)
    (hnodup : ((owned ++ rest).map Block.pointer).Nodup) :
    ((owned ++ b :: rest).map Block.pointer).Nodup := by
  have hperm : (owned ++ b :: rest).Perm (b :: (owned ++ rest)) := List.perm_middle
  rw [(hperm.map Block.pointer).nodup_iff, List.map_cons, List.nodup_cons]
  exact ⟨pointer_notMem_of_fits h, hnodup⟩

/-! ## The invariant -/

/-- The block the call of a thread works on. -/
def Pc.block : Pc → Option Block
  | .idle => none
  | .registering block => some block
  | .unregistering old new => some (new.getD old)
  | .freeing block => some block

/-- The block the reallocate of a thread has yet to unregister. -/
def Pc.old : Pc → Option Block
  | .unregistering old _ => some old
  | .idle | .registering _ | .freeing _ => none

/-- The detector knows the owned blocks and those that are yet to be unregistered. -/
def Tracks (allocations : Nat → Option Nat) (owned : List Block) (released : List (Tid × Block)) :
    Prop :=
  ∀ p n, allocations p = some n ↔
    (∃ b ∈ owned, b.pointer = p ∧ b.size = n) ∨ ∃ x ∈ released, x.2.pointer = p ∧ x.2.size = n

structure Inv (s : State) : Prop where
  pointers : (s.heap.map Block.pointer).Nodup
  releasedPointers : (s.released.map fun x => x.2.pointer).Nodup
  progress : ∀ t b, (t, b) ∈ s.inProgress ↔ (s.pc t).block = some b
  releases : ∀ t b, (t, b) ∈ s.released ↔ (s.pc t).old = some b
  moved : ∀ t old, s.pc t ≠ .unregistering old none
  apart : ∀ b ∈ s.owned, ∀ x ∈ s.released, x.2.pointer ≠ b.pointer
  tracked : Tracks s.allocations s.owned s.released
  unregisterOk : s.unregisterFailed = false

theorem inv_init : Inv State.init where
  pointers := List.nodup_nil
  releasedPointers := List.nodup_nil
  progress := by simp [State.init, Pc.block]
  releases := by simp [State.init, Pc.old]
  moved := fun t old h => by cases h
  apart := fun b hb => by cases hb
  tracked := by simp [Tracks, State.init]
  unregisterOk := rfl

theorem Inv.owned_pointers (hi : Inv s) : (s.owned.map Block.pointer).Nodup := by
  have hnodup := hi.pointers
  rw [State.heap, List.map_append, List.nodup_append] at hnodup
  exact hnodup.1

/-- Owned blocks are told apart by their pointers. -/
theorem Inv.owned_eq (hi : Inv s) {c : Block} (hb : b ∈ s.owned) (hc : c ∈ s.owned)
    (h : c.pointer = b.pointer) : c = b :=
  List.inj_on_of_nodup_map hi.owned_pointers hc hb h

theorem Inv.owned_nodup (hi : Inv s) : s.owned.Nodup := hi.owned_pointers.of_map

theorem Inv.inProgress_nodup (hi : Inv s) : s.inProgress.Nodup := by
  have hnodup := hi.pointers
  rw [State.heap, List.map_append, List.nodup_append] at hnodup
  exact hnodup.2.1.of_map.of_map

theorem Inv.released_nodup (hi : Inv s) : s.released.Nodup := hi.releasedPointers.of_map

/-- An owned pointer is tracked with its size. -/
theorem Inv.tracked_owned (hi : Inv s) (hb : b ∈ s.owned) :
    s.allocations b.pointer = some b.size :=
  (hi.tracked _ _).mpr (.inl ⟨b, hb, rfl, rfl⟩)

/-! ## What is tracked -/

section Tracks

variable {allocations : Nat → Option Nat} {owned : List Block} {released : List (Tid × Block)}

/-- The old block of a reallocate stays tracked. -/
theorem Tracks.release (h : Tracks allocations owned released) (hb : b ∈ owned)
    (hnodup : owned.Nodup) : Tracks allocations (owned.erase b) ((t, b) :: released) := by
  intro p n
  rw [h p n]
  constructor
  · rintro (⟨c, hc, hp, hn⟩ | ⟨x, hx, hp, hn⟩)
    · by_cases hcb : c = b
      · subst hcb
        exact .inr ⟨(t, c), List.mem_cons_self, hp, hn⟩
      · exact .inl ⟨c, hnodup.mem_erase_iff.mpr ⟨hcb, hc⟩, hp, hn⟩
    · exact .inr ⟨x, List.mem_cons_of_mem _ hx, hp, hn⟩
  · rintro (⟨c, hc, hp, hn⟩ | ⟨x, hx, hp, hn⟩)
    · exact .inl ⟨c, List.mem_of_mem_erase hc, hp, hn⟩
    · rcases List.mem_cons.mp hx with rfl | hx
      · exact .inl ⟨b, hb, hp, hn⟩
      · exact .inr ⟨x, hx, hp, hn⟩

/-- A pointer is unregistered that only `b` and `(t, b)` have. -/
theorem Tracks.unregister {owned' : List Block} {released' : List (Tid × Block)}
    (h : Tracks allocations owned released)
    (howned : ∀ c, c ∈ owned' ↔ c ∈ owned ∧ c.pointer ≠ b.pointer)
    (hreleased : ∀ x, x ∈ released' ↔ x ∈ released ∧ x.2.pointer ≠ b.pointer) :
    Tracks (Function.update allocations b.pointer none) owned' released' := by
  intro p n
  by_cases hp : p = b.pointer
  · subst hp
    simp only [Function.update_self, reduceCtorEq, false_iff, not_or, not_exists, not_and]
    refine ⟨?_, ?_⟩
    · intro c hc heq
      exact absurd heq ((howned c).mp hc).2
    · intro x hx heq
      exact absurd heq ((hreleased x).mp hx).2
  · rw [Function.update_of_ne hp, h p n]
    refine or_congr (exists_congr fun c => and_congr_left ?_)
      (exists_congr fun x => and_congr_left ?_)
    · rintro ⟨rfl, -⟩
      simp [howned, hp]
    · rintro ⟨rfl, -⟩
      simp [hreleased, hp]

/-- A pointer is registered that nothing else has. -/
theorem Tracks.register (h : Tracks allocations owned released)
    (howned : ∀ c ∈ owned, c.pointer ≠ b.pointer)
    (hreleased : ∀ x ∈ released, x.2.pointer ≠ b.pointer) :
    Tracks (Function.update allocations b.pointer (some b.size)) (b :: owned) released := by
  intro p n
  by_cases hp : p = b.pointer
  · subst hp
    simp only [Function.update_self, Option.some.injEq]
    constructor
    · intro hn
      exact .inl ⟨b, List.mem_cons_self, rfl, hn⟩
    · rintro (⟨c, hc, heq, hn⟩ | ⟨x, hx, heq, -⟩)
      · rcases List.mem_cons.mp hc with rfl | hc
        · exact hn
        · exact absurd heq (howned c hc)
      · exact absurd heq (hreleased x hx)
  · rw [Function.update_of_ne hp, h p n]
    refine or_congr ?_ Iff.rfl
    constructor
    · rintro ⟨c, hc, hcp⟩
      exact ⟨c, List.mem_cons_of_mem _ hc, hcp⟩
    · rintro ⟨c, hc, rfl, hn⟩
      rcases List.mem_cons.mp hc with rfl | hc
      · exact absurd rfl hp
      · exact ⟨c, hc, rfl, hn⟩

end Tracks

/-! ## One entry of a list for every thread at a point -/

section Entries

variable {l : List (Tid × Block)} {f : Pc → Option Block} {pc : Tid → Pc} {p : Pc}

theorem entries_cons (h : ∀ u c, (u, c) ∈ l ↔ f (pc u) = some c) (hold : f (pc t) = none)
    (hnew : f p = some b) (u : Tid) (c : Block) :
    (u, c) ∈ (t, b) :: l ↔ f (Function.update pc t p u) = some c := by
  by_cases hut : u = t
  · subst hut
    have hnot : (u, c) ∉ l := by
      rw [h, hold]
      simp
    rw [Function.update_self, hnew]
    simp [hnot, eq_comm]
  · rw [Function.update_of_ne hut, ← h u c]
    simp [hut]

theorem entries_erase (h : ∀ u c, (u, c) ∈ l ↔ f (pc u) = some c) (hl : l.Nodup)
    (hold : f (pc t) = some b) (hnew : f p = none) (u : Tid) (c : Block) :
    (u, c) ∈ l.erase (t, b) ↔ f (Function.update pc t p u) = some c := by
  rw [hl.mem_erase_iff]
  by_cases hut : u = t
  · subst hut
    rw [Function.update_self, hnew, h u c, hold]
    simp [eq_comm]
  · rw [Function.update_of_ne hut, ← h u c]
    simp [hut]

theorem entries_keep (h : ∀ u c, (u, c) ∈ l ↔ f (pc u) = some c) (hsame : f p = f (pc t))
    (u : Tid) (c : Block) : (u, c) ∈ l ↔ f (Function.update pc t p u) = some c := by
  by_cases hut : u = t
  · subst hut
    rw [Function.update_self, hsame]
    exact h u c
  · rw [Function.update_of_ne hut]
    exact h u c

end Entries

theorem Inv.moved_update (hi : Inv s) {p : Pc} (hp : ∀ old, p ≠ .unregistering old none) (u : Tid)
    (old : Block) : Function.update s.pc t p u ≠ .unregistering old none := by
  by_cases hut : u = t
  · subst hut
    rw [Function.update_self]
    exact hp old
  · rw [Function.update_of_ne hut]
    exact hi.moved u old

/-! ## The steps -/

theorem inv_allocated (hi : Inv s) (hpc : s.pc t = .idle) (hfits : b.fits s.heap = true) :
    Inv { s with
      inProgress := (t, b) :: s.inProgress
      pc := Function.update s.pc t (.registering b) } where
  pointers := by
    show ((s.owned ++ b :: s.inProgress.map Prod.snd).map Block.pointer).Nodup
    exact pointers_insert hfits hi.pointers
  releasedPointers := hi.releasedPointers
  progress := entries_cons hi.progress (by rw [hpc]; rfl) rfl
  releases := entries_keep hi.releases (by rw [hpc]; rfl)
  moved := hi.moved_update (by simp)
  apart := hi.apart
  tracked := hi.tracked
  unregisterOk := hi.unregisterOk

/-- The system has moved a block of the callers; its old pointer is still tracked. -/
theorem inv_reallocated {new : Block} (hi : Inv s) (hpc : s.pc t = .idle) (hb : b ∈ s.owned)
    (hfits : new.fits (s.owned.erase b ++ s.inProgress.map Prod.snd) = true) :
    Inv { s with
      owned := s.owned.erase b
      inProgress := (t, new) :: s.inProgress
      released := (t, b) :: s.released
      pc := Function.update s.pc t (.unregistering b (some new)) } where
  pointers := by
    have hsub : (s.owned.erase b ++ s.inProgress.map Prod.snd).Sublist s.heap :=
      List.erase_sublist.append_right _
    show ((s.owned.erase b ++ new :: s.inProgress.map Prod.snd).map Block.pointer).Nodup
    exact pointers_insert hfits (hi.pointers.sublist (hsub.map _))
  releasedPointers := by
    rw [List.map_cons, List.nodup_cons]
    refine ⟨?_, hi.releasedPointers⟩
    intro hmem
    obtain ⟨x, hx, heq⟩ := List.mem_map.mp hmem
    exact hi.apart b hb x hx heq
  progress := entries_cons hi.progress (by rw [hpc]; rfl) rfl
  releases := entries_cons hi.releases (by rw [hpc]; rfl) rfl
  moved := hi.moved_update (by simp)
  apart := by
    intro c hc x hx
    have hc' := hi.owned_nodup.mem_erase_iff.mp hc
    rcases List.mem_cons.mp hx with rfl | hx
    · exact fun heq => hc'.1 (hi.owned_eq hb hc'.2 heq.symm)
    · exact hi.apart c hc'.2 x hx
  tracked := hi.tracked.release hb hi.owned_nodup
  unregisterOk := hi.unregisterOk

theorem unregisterAllocation_eq {p n : Nat} (h : s.allocations p = some n) :
    s.unregisterAllocation p = { s with allocations := Function.update s.allocations p none } := by
  simp [State.unregisterAllocation, h]

/-- The owner of a block unregisters it. -/
theorem inv_freed (hi : Inv s) (hpc : s.pc t = .idle) (hb : b ∈ s.owned) :
    Inv { s with
      allocations := Function.update s.allocations b.pointer none
      owned := s.owned.erase b
      inProgress := (t, b) :: s.inProgress
      pc := Function.update s.pc t (.freeing b) } where
  pointers := by
    have hperm : (s.owned.erase b ++ b :: s.inProgress.map Prod.snd).Perm s.heap := by
      refine List.perm_middle.trans ?_
      exact ((List.perm_cons_erase hb).symm).append_right _
    show ((s.owned.erase b ++ b :: s.inProgress.map Prod.snd).map Block.pointer).Nodup
    rw [(hperm.map Block.pointer).nodup_iff]
    exact hi.pointers
  releasedPointers := hi.releasedPointers
  progress := entries_cons hi.progress (by rw [hpc]; rfl) rfl
  releases := entries_keep hi.releases (by rw [hpc]; rfl)
  moved := hi.moved_update (by simp)
  apart := fun c hc => hi.apart c (List.mem_of_mem_erase hc)
  tracked := by
    refine hi.tracked.unregister ?_ ?_
    · intro c
      rw [hi.owned_nodup.mem_erase_iff]
      constructor
      · rintro ⟨hne, hc⟩
        exact ⟨hc, fun heq => hne (hi.owned_eq hb hc heq)⟩
      · rintro ⟨hc, hne⟩
        exact ⟨fun heq => hne (by rw [heq]), hc⟩
    · intro x
      exact ⟨fun hx => ⟨hx, hi.apart b hb x hx⟩, fun hx => hx.1⟩
  unregisterOk := hi.unregisterOk

/-- A pointer is registered that no reallocate is about to unregister. -/
theorem inv_registered (hi : Inv s) (hpc : s.pc t = .registering b)
    (hfresh : ∀ x ∈ s.released, x.2.pointer ≠ b.pointer) :
    Inv { s with
      allocations := Function.update s.allocations b.pointer (some b.size)
      owned := b :: s.owned
      inProgress := s.inProgress.erase (t, b)
      pc := Function.update s.pc t .idle } := by
  have hmem : (t, b) ∈ s.inProgress := (hi.progress t b).mpr (by rw [hpc]; rfl)
  have hpointers : ((b :: s.owned ++ (s.inProgress.erase (t, b)).map Prod.snd).map
      Block.pointer).Nodup := by
    have hperm : (b :: s.owned ++ (s.inProgress.erase (t, b)).map Prod.snd).Perm s.heap := by
      rw [List.cons_append]
      refine List.perm_middle.symm.trans ?_
      exact ((List.perm_cons_erase hmem).symm.map Prod.snd).append_left _
    rw [(hperm.map Block.pointer).nodup_iff]
    exact hi.pointers
  constructor
  · exact hpointers
  · exact hi.releasedPointers
  · exact entries_erase hi.progress hi.inProgress_nodup (by rw [hpc]; rfl) rfl
  · exact entries_keep hi.releases (by rw [hpc]; rfl)
  · exact hi.moved_update (by simp)
  · intro c hc x hx
    rcases List.mem_cons.mp hc with rfl | hc
    · exact hfresh x hx
    · exact hi.apart c hc x hx
  · refine hi.tracked.register ?_ hfresh
    intro c hc heq
    rw [List.cons_append, List.map_cons, List.nodup_cons] at hpointers
    refine absurd ?_ hpointers.1
    rw [← heq]
    exact List.mem_map.mpr ⟨c, List.mem_append_left _ hc, rfl⟩
  · exact hi.unregisterOk

/-- A reallocate unregisters the old pointer. -/
theorem inv_unregistered {new : Block} (hi : Inv s)
    (hpc : s.pc t = .unregistering b (some new)) :
    Inv { s with
      allocations := Function.update s.allocations b.pointer none
      released := s.released.erase (t, b)
      pc := Function.update s.pc t (.registering new) } := by
  have hmem : (t, b) ∈ s.released := (hi.releases t b).mpr (by rw [hpc]; rfl)
  have hothers : ∀ x ∈ s.released.erase (t, b), x.2.pointer ≠ b.pointer := by
    intro x hx heq
    have hx' := hi.released_nodup.mem_erase_iff.mp hx
    exact hx'.1 (List.inj_on_of_nodup_map hi.releasedPointers hx'.2 hmem heq)
  constructor
  · exact hi.pointers
  · exact hi.releasedPointers.sublist (List.erase_sublist.map _)
  · exact entries_keep hi.progress (by rw [hpc]; rfl)
  · exact entries_erase hi.releases hi.released_nodup (by rw [hpc]; rfl) rfl
  · exact hi.moved_update (by simp)
  · exact fun c hc x hx => hi.apart c hc x (List.mem_of_mem_erase hx)
  · refine hi.tracked.unregister ?_ ?_
    · intro c
      exact ⟨fun hc => ⟨hc, fun heq => hi.apart c hc (t, b) hmem heq.symm⟩, fun hc => hc.1⟩
    · intro x
      constructor
      · exact fun hx => ⟨List.mem_of_mem_erase hx, hothers x hx⟩
      · rintro ⟨hx, hne⟩
        exact hi.released_nodup.mem_erase_iff.mpr ⟨fun heq => hne (by rw [heq]), hx⟩
  · exact hi.unregisterOk

theorem inv_blockFreed (hi : Inv s) (hpc : s.pc t = .freeing b) :
    Inv { s with
      inProgress := s.inProgress.erase (t, b)
      pc := Function.update s.pc t .idle } where
  pointers := by
    have hsub : (s.owned ++ (s.inProgress.erase (t, b)).map Prod.snd).Sublist s.heap :=
      (List.erase_sublist.map _).append_left _
    exact hi.pointers.sublist (hsub.map _)
  releasedPointers := hi.releasedPointers
  progress := entries_erase hi.progress hi.inProgress_nodup (by rw [hpc]; rfl) rfl
  releases := entries_keep hi.releases (by rw [hpc]; rfl)
  moved := hi.moved_update (by simp)
  apart := hi.apart
  tracked := hi.tracked
  unregisterOk := hi.unregisterOk

/-! ## Every run -/

/-- A pointer is not registered while a reallocate that has released it is yet to unregister it,
and the system can move every block. -/
def NotRecycled (s : State) : Action → Prop
  | .register t =>
    ((s.pc t).block.all fun b => s.released.all fun x => x.2.pointer != b.pointer) = true
  | .reallocate _ args => args.reply ≠ none
  | .allocate .. | .free .. | .unregister _ | .freeBlock _ => True

instance (s : State) (a : Action) : Decidable (NotRecycled s a) :=
  match a with
  | .register _ => inferInstanceAs (Decidable (_ = true))
  | .reallocate .. => inferInstanceAs (Decidable (_ ≠ none))
  | .allocate .. | .free .. | .unregister _ | .freeBlock _ => isTrue trivial

/-- The process ends with an assertion other than the one of the detector. -/
theorem Inv.terminate (hi : Inv s) : Inv { s with terminated := true } :=
  ⟨hi.pointers, hi.releasedPointers, hi.progress, hi.releases, hi.moved, hi.apart, hi.tracked,
    hi.unregisterOk⟩

theorem inv_cxplatAllocate {args : AllocateArgs} (hi : Inv s) (hpc : s.pc t = .idle)
    (h : cxplatAllocate limit s t args = some s') : Inv s' := by
  unfold cxplatAllocate at h
  split at h
  · cases h
    exact hi.terminate
  · split at h
    · cases h
      exact hi
    · split at h
      · cases h
        exact hi
      · simp only [Option.ite_none_right_eq_some, Option.some.injEq] at h
        obtain ⟨hfits, rfl⟩ := h
        exact inv_allocated hi hpc hfits

theorem inv_cxplatReallocate {args : ReallocateArgs} (hi : Inv s) (hpc : s.pc t = .idle)
    (hb : args.block ∈ s.owned) (hreply : args.reply ≠ none)
    (h : cxplatReallocate limit s t args = some s') : Inv s' := by
  unfold cxplatReallocate at h
  simp only at h
  split at h
  · cases h
    exact hi
  · split at h
    · cases h
      exact hi.terminate
    · split at h
      · rename_i hnone
        exact absurd hnone hreply
      · simp only [Option.ite_none_right_eq_some, Option.some.injEq] at h
        obtain ⟨hfits, rfl⟩ := h
        exact inv_reallocated hi hpc hb hfits

theorem inv_cxplatFree {args : FreeArgs} (hi : Inv s) (hpc : s.pc t = .idle)
    (hb : args.block ∈ s.owned) : Inv (cxplatFree s t args) := by
  unfold cxplatFree
  simp only
  split
  · exact hi.terminate
  · rw [unregisterAllocation_eq (hi.tracked_owned hb)]
    exact inv_freed hi hpc hb

theorem inv_step {a : Action} (hi : Inv s) (hg : NotRecycled s a)
    (h : step limit s a = some s') : Inv s' := by
  unfold step at h
  split at h
  · cases h
  cases a with
  | allocate t args =>
    simp only [Option.ite_none_right_eq_some] at h
    obtain ⟨hpc, h⟩ := h
    exact inv_cxplatAllocate hi hpc h
  | reallocate t args =>
    simp only [Option.ite_none_right_eq_some] at h
    obtain ⟨⟨hpc, hb⟩, h⟩ := h
    exact inv_cxplatReallocate hi hpc hb hg h
  | free t args =>
    simp only [Option.ite_none_right_eq_some, Option.some.injEq] at h
    obtain ⟨⟨hpc, hb⟩, rfl⟩ := h
    exact inv_cxplatFree hi hpc hb
  | register t =>
    simp only at h
    split at h
    · rename_i b hpc
      cases h
      refine inv_registered hi hpc ?_
      intro x hx
      simp only [NotRecycled, hpc, Pc.block, Option.all_some, List.all_eq_true, bne_iff_ne] at hg
      exact hg x hx
    · cases h
  | unregister t =>
    simp only at h
    split at h
    · rename_i old new hpc
      cases h
      have hmem : (t, old) ∈ s.released := (hi.releases t old).mpr (by rw [hpc]; rfl)
      have htracked : s.allocations old.pointer = some old.size :=
        (hi.tracked _ _).mpr (.inr ⟨(t, old), hmem, rfl, rfl⟩)
      rw [unregisterAllocation_eq htracked]
      exact inv_unregistered hi hpc
    · rename_i old hpc
      exact absurd hpc (hi.moved t old)
    · cases h
  | freeBlock t =>
    simp only at h
    split at h
    · rename_i b hpc
      cases h
      exact inv_blockFreed hi hpc
    · cases h

theorem inv_exec {run : List Action} (hg : Guarded (step limit) NotRecycled State.init run)
    (h : exec (step limit) State.init run = some s) : Inv s :=
  exec_invariant_of_guard (fun _ _ _ hi hg hs => inv_step hi hg hs) inv_init hg h

theorem Inv.heap_of_idle (hi : Inv s) (hidle : ∀ t, s.pc t = .idle) : s.heap = s.owned := by
  have hnil : s.inProgress = [] := by
    refine List.eq_nil_iff_forall_not_mem.mpr ?_
    rintro ⟨t, b⟩ hmem
    rw [hi.progress, hidle t] at hmem
    cases hmem
  simp [State.heap, hnil]

theorem Inv.released_of_idle (hi : Inv s) (hidle : ∀ t, s.pc t = .idle) : s.released = [] := by
  refine List.eq_nil_iff_forall_not_mem.mpr ?_
  rintro ⟨t, b⟩ hmem
  rw [hi.releases, hidle t] at hmem
  cases hmem

/-- No unregister fails, and with no call in progress the detector knows the live pointers. -/
structure Agrees (s : State) : Prop where
  unregisterOk : s.unregisterFailed = false
  tracked : (∀ t, s.pc t = .idle) →
    ∀ p n, s.allocations p = some n ↔ ∃ b ∈ s.heap, b.pointer = p ∧ b.size = n

theorem tracker_agrees_with_heap (limit : Nat) (run : List Action) (s : State)
    (hg : Guarded (step limit) NotRecycled State.init run)
    (h : exec (step limit) State.init run = some s) : Agrees s := by
  have hi := inv_exec hg h
  refine ⟨hi.unregisterOk, ?_⟩
  intro hidle p n
  rw [hi.tracked, hi.heap_of_idle hidle, hi.released_of_idle hidle]
  simp

/-! ## Concrete runs -/

/-- Thread `t` allocates 8 bytes at `start`. -/
def allocateAt (t : Tid) (start : Nat) : List Action :=
  [.allocate t { poolFlags := 0, size := 8, tag := 0, injectFault := false, reply := some start },
   .register t]

def blockAt (start : Nat) : Block :=
  { start := start, header := { poolFlags := 0, tag := 0, size := 8 }, size := 8 }

/-- Thread 0 allocates a block, and the system moves it in a reallocate. -/
def movedAway : List Action :=
  allocateAt 0 0x1000 ++
    [.reallocate 0 { block := blockAt 0x1000, poolFlags := 0, oldSize := 8, newSize := 32, tag := 0,
                     injectFault := false, reply := some 0x2000 }]

/-- The old address is recycled, but registered only after the reallocate has unregistered it. -/
def recycledInTime : List Action :=
  movedAway ++ [.allocate 1 { poolFlags := 0, size := 8, tag := 0, injectFault := false,
                              reply := some 0x1000 },
    .unregister 0, .register 1, .register 0]

theorem tracker_agrees_with_heap_recycledInTime :
    ∃ s, exec (step (2 ^ 64 - 1)) State.init recycledInTime = some s ∧
      s.allocations 0x1010 = some 8 ∧ s.allocations 0x2010 = some 32 ∧ Agrees s := by
  obtain ⟨s, hs, h₁, h₂⟩ : ∃ s, exec (step (2 ^ 64 - 1)) State.init recycledInTime = some s ∧
      s.allocations 0x1010 = some 8 ∧ s.allocations 0x2010 = some 32 :=
    exec_of_check (by decide +kernel)
  have hg : Guarded (step (2 ^ 64 - 1)) NotRecycled State.init recycledInTime :=
    guarded_of_check (by decide +kernel)
  exact ⟨s, hs, h₁, h₂, tracker_agrees_with_heap (2 ^ 64 - 1) recycledInTime s hg hs⟩

/-- Another thread allocates, registers and frees the old address before the reallocate has
unregistered it. -/
def recycledTooEarly : List Action :=
  movedAway ++ allocateAt 1 0x1000 ++
    [.free 1 { block := blockAt 0x1000, poolFlags := 0, tag := 0 }, .freeBlock 1, .unregister 0]

theorem recycled_pointer_fails :
    ∃ s, exec (step (2 ^ 64 - 1)) State.init recycledTooEarly = some s ∧
      s.unregisterFailed = true :=
  exec_of_check (by decide +kernel)

end Usersim.Memory
