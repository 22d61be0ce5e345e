import Mathlib.Data.List.Nodup
import Usersim.Lib.Run
import Usersim.Mm.Basic

/-!
# Net buffer lists (`ndis_um.cpp`, `fwp_um.cpp`)

A list of its own comes from `malloc` and has no net buffer until its owner sets one. A clone is a
list and a net buffer from `malloc` that share the MDLs of the original;
`FwpsAllocateNetBufferAndNetBufferList0` takes both from the pool. A clone is given back by
`NdisFreeNetBufferList`, which knows nothing of its net buffer.

The C runtime is outside: `malloc` answers with a free block, whatever it held before, or with null.

* `accounted_step`, `accounted_run` — every block belongs to one of the objects that are in use, or
  is the net buffer of a clone that was given back
-/

namespace Usersim.Ndis.BufferList

open Lib Mm

/-- `NTSTATUS`, as far as it is used here. -/
inductive Status where
  | success
  | noMemory
  | insufficientResources
  | invalidParameter
deriving DecidableEq, Repr

/-- `USERSIM_TAG_NET_BUFFER` and `USERSIM_TAG_NET_BUFFER_LIST`. -/
inductive Tag where
  | netBuffer
  | netBufferList
deriving DecidableEq, Repr

inductive Allocator where
  | malloc
  | pool (tag : Tag)
deriving DecidableEq, Repr

/-- The fields of a `NET_BUFFER_LIST` and of a `NET_BUFFER` that the functions use. -/
inductive Contents where
  | list (firstNetBuffer : Address)
  | buffer (mdlChain : Address) (dataLength : BitVec 32)
deriving DecidableEq, Repr

structure Cell where
  allocator : Allocator
  contents : Contents
deriving DecidableEq, Repr

/-- The blocks that are allocated. -/
abbrev Memory := Address → Option Cell

def Memory.put (m : Memory) (a : Address) (c : Cell) : Memory := Function.update m a (some c)

/-- A block is given back to where it comes from; `free` takes a null pointer. -/
def Memory.free (m : Memory) (allocator : Allocator) (a : Address) : Option Memory :=
  if a = 0 ∧ allocator = .malloc then some m
  else if (m a).any fun c => c.allocator == allocator then some (Function.update m a none)
  else none

def Memory.firstNetBuffer (m : Memory) (a : Address) : Option Address :=
  match m a with
  | some ⟨_, .list first⟩ => some first
  | _ => none

def Memory.netBuffer (m : Memory) (a : Address) : Option (Address × BitVec 32) :=
  match m a with
  | some ⟨_, .buffer mdlChain dataLength⟩ => some (mdlChain, dataLength)
  | _ => none

/-- `NET_BUFFER_LIST_FIRST_NB` is written. -/
def Memory.setFirstNetBuffer (m : Memory) (a first : Address) : Memory :=
  Function.update m a ((m a).map fun c => { c with contents := .list first })

/-! ## The functions

`none` is a null pointer that is read, or a block that is given back and is not there.
-/

/-- What happens in a call: a fault is injected or not, and `malloc` answers. -/
structure Answer where
  fault : Bool
  block : Address
  /-- What the block held before, where the first net buffer is to be. -/
  garbage : Address
deriving DecidableEq, Repr

def ndisAllocateNetBufferList (m : Memory) (ans : Answer) : Address × Memory :=
  if ans.fault || ans.block == 0 then (0, m)
  else (ans.block, m.put ans.block ⟨.malloc, .list ans.garbage⟩)

def ndisFreeNetBufferList (m : Memory) (netBufferList : Address) : Option Memory :=
  m.free .malloc netBufferList

/-- The length is cast to an `unsigned long`. What is asked of `malloc` is the length and the size
of the net buffer, a sum that wraps for lengths near `2 ^ 64`: such lengths are left out. -/
def ndisAllocateNetBuffer (m : Memory) (mdlChain : Address) (dataLength : BitVec 64)
    (ans : Answer) : Address × Memory :=
  if ans.fault || ans.block == 0 then (0, m)
  else (ans.block, m.put ans.block ⟨.malloc, .buffer mdlChain (dataLength.setWidth 32)⟩)

def ndisFreeNetBuffer (m : Memory) (netBuffer : Address) : Option Memory :=
  m.free .malloc netBuffer

def ndisAllocateCloneNetBufferList (m : Memory) (original : Address) (fault : Bool)
    (list buffer : Answer) : Option (Address × Memory) :=
  if fault then some (0, m)
  else
    let (nbl, m) := ndisAllocateNetBufferList m list
    if nbl = 0 then some (0, m)
    else
      (m.firstNetBuffer original).bind fun originalNb =>
        (m.netBuffer originalNb).bind fun (mdlChain, dataLength) =>
          let (nb, m) := ndisAllocateNetBuffer m mdlChain (dataLength.setWidth 64) buffer
          if nb = 0 then (ndisFreeNetBufferList m nbl).map fun m => (0, m)
          else some (nbl, m.setFirstNetBuffer nbl nb)

def ndisFreeCloneNetBufferList (m : Memory) (clone : Address) : Option Memory :=
  ndisFreeNetBufferList m clone

def fwpsFreeNetBufferList0 (m : Memory) (netBufferList : Address) : Option Memory :=
  if netBufferList = 0 then some m
  else
    (m.firstNetBuffer netBufferList).bind fun first =>
      (if first ≠ 0 then m.free (.pool .netBuffer) first else some m).bind fun m =>
        m.free (.pool .netBufferList) netBufferList

/-- `list` and `buffer` are what `ExAllocatePoolUninitialized` returns, a fault of its own included.
The list is zeroed before it gets a net buffer. -/
def fwpsAllocateNetBufferAndNetBufferList0 (m : Memory) (mdlChain : Address)
    (dataLength : BitVec 64)
    (fault : Bool) (list buffer : Address) : Option (Status × Option Address × Memory) :=
  if fault then some (.noMemory, none, m)
  else if list = 0 then some (.insufficientResources, none, m)
  else
    let m := m.put list ⟨.pool .netBufferList, .list 0⟩
    if buffer = 0 then
      (fwpsFreeNetBufferList0 m list).map fun m => (.insufficientResources, none, m)
    else
      let m := m.put buffer ⟨.pool .netBuffer, .buffer mdlChain (dataLength.setWidth 32)⟩
      some (.success, some list, m.setFirstNetBuffer list buffer)

def fwpsAllocateCloneNetBufferList0 (m : Memory) (original listPool bufferPool : Address)
    (fault : Bool) (list buffer : Answer) : Option (Status × Option Address × Memory) :=
  if listPool = 0 ∨ bufferPool = 0 then some (.invalidParameter, none, m)
  else
    (ndisAllocateCloneNetBufferList m original fault list buffer).map fun (nbl, m) =>
      (if nbl = 0 then .noMemory else .success, some nbl, m)

def fwpsFreeCloneNetBufferList0 (m : Memory) (clone : Address) : Option Memory :=
  ndisFreeCloneNetBufferList m clone

/-! ## Runs -/

/-- What the blocks are for. -/
inductive Object where
  | list (a : Address)
  | buffer (a : Address)
  /-- A list of `FwpsAllocateNetBufferAndNetBufferList0`, with its net buffer. -/
  | fwpsList (a first : Address)
  | clone (a first : Address)
  /-- The net buffer of a clone that was given back. Nobody has a pointer to it. -/
  | stranded (a : Address)
deriving DecidableEq, Repr

structure State where
  memory : Memory
  /-- Not part of the code. -/
  objects : List Object

def State.init : State where
  memory := fun _ => none
  objects := []

inductive Action where
  | allocateList (ans : Answer)
  | allocateBuffer (mdlChain : Address) (dataLength : BitVec 64) (ans : Answer)
  /-- The owner of a list sets its net buffer. -/
  | setFirstNetBuffer (list buffer : Address)
  | fwpsAllocate (mdlChain : Address) (dataLength : BitVec 64) (fault : Bool)
    (list buffer : Address)
  | clone (original : Address) (fault : Bool) (list buffer : Answer)
  | fwpsClone (original listPool bufferPool : Address) (fault : Bool) (list buffer : Answer)
  | freeList (a : Address)
  | freeBuffer (a : Address)
  | fwpsFree (a first : Address)
  | freeClone (a first : Address)
  | fwpsFreeClone (a first : Address)
deriving DecidableEq, Repr

def State.add (s : State) (m : Memory) (pointer : Address) (o : Object) : State :=
  ⟨m, if pointer = 0 then s.objects else o :: s.objects⟩

def step (s : State) : Action → Option State
  | .allocateList ans =>
    let (a, m) := ndisAllocateNetBufferList s.memory ans
    some (s.add m a (.list a))
  | .allocateBuffer mdlChain dataLength ans =>
    let (a, m) := ndisAllocateNetBuffer s.memory mdlChain dataLength ans
    some (s.add m a (.buffer a))
  | .setFirstNetBuffer list buffer =>
    some { s with memory := s.memory.setFirstNetBuffer list buffer }
  | .fwpsAllocate mdlChain dataLength fault list buffer =>
    (fwpsAllocateNetBufferAndNetBufferList0 s.memory mdlChain dataLength fault list buffer).map
      fun (_, a, m) => s.add m (a.getD 0) (.fwpsList (a.getD 0) buffer)
  | .clone original fault list buffer =>
    (ndisAllocateCloneNetBufferList s.memory original fault list buffer).map
      fun (a, m) => s.add m a (.clone a buffer.block)
  | .fwpsClone original listPool bufferPool fault list buffer =>
    (fwpsAllocateCloneNetBufferList0 s.memory original listPool bufferPool fault list buffer).map
      fun (_, a, m) => s.add m (a.getD 0) (.clone (a.getD 0) buffer.block)
  | .freeList a => (ndisFreeNetBufferList s.memory a).map fun m => ⟨m, s.objects.erase (.list a)⟩
  | .freeBuffer a => (ndisFreeNetBuffer s.memory a).map fun m => ⟨m, s.objects.erase (.buffer a)⟩
  | .fwpsFree a first =>
    (fwpsFreeNetBufferList0 s.memory a).map fun m => ⟨m, s.objects.erase (.fwpsList a first)⟩
  | .freeClone a first =>
    (ndisFreeCloneNetBufferList s.memory a).map fun m =>
      ⟨m, .stranded first :: s.objects.erase (.clone a first)⟩
  | .fwpsFreeClone a first =>
    (fwpsFreeCloneNetBufferList0 s.memory a).map fun m =>
      ⟨m, .stranded first :: s.objects.erase (.clone a first)⟩

/-- `malloc` answers with a block that is not allocated. -/
def Free (m : Memory) (block : Address) : Prop := block = 0 ∨ m block = none

instance (m : Memory) (block : Address) : Decidable (Free m block) :=
  inferInstanceAs (Decidable (_ ∨ _))

/-- Two blocks for one call. -/
def FreePair (m : Memory) (list buffer : Address) : Prop :=
  Free m list ∧ Free m buffer ∧ (list = buffer → list = 0)

instance (m : Memory) (list buffer : Address) : Decidable (FreePair m list buffer) :=
  inferInstanceAs (Decidable (_ ∧ _ ∧ _))

/-- A list that has a net buffer. -/
def Cloneable (m : Memory) (original : Address) : Prop :=
  ((m.firstNetBuffer original).bind m.netBuffer).isSome

instance (m : Memory) (original : Address) : Decidable (Cloneable m original) :=
  inferInstanceAs (Decidable (_ = _))

/-- What the system promises, and the callers: they use what they have, and give it back by the
function that belongs to it. -/
def Permitted (s : State) : Action → Prop
  | .allocateList ans | .allocateBuffer _ _ ans => Free s.memory ans.block
  | .setFirstNetBuffer list buffer => .list list ∈ s.objects ∧ .buffer buffer ∈ s.objects
  | .fwpsAllocate _ _ _ list buffer => FreePair s.memory list buffer
  | .clone original _ list buffer | .fwpsClone original _ _ _ list buffer =>
    Cloneable s.memory original ∧ FreePair s.memory list.block buffer.block
  | .freeList a => .list a ∈ s.objects
  | .freeBuffer a => .buffer a ∈ s.objects
  | .fwpsFree a first => .fwpsList a first ∈ s.objects
  | .freeClone a first | .fwpsFreeClone a first => .clone a first ∈ s.objects

instance (s : State) (a : Action) : Decidable (Permitted s a) :=
  match a with
  | .allocateList _ | .allocateBuffer .. => inferInstanceAs (Decidable (Free ..))
  | .fwpsAllocate .. => inferInstanceAs (Decidable (FreePair ..))
  | .setFirstNetBuffer .. | .clone .. | .fwpsClone .. => inferInstanceAs (Decidable (_ ∧ _))
  | .freeList _ | .freeBuffer _ | .fwpsFree .. | .freeClone .. | .fwpsFreeClone .. =>
    inferInstanceAs (Decidable (_ ∈ _))

/-! ## Blocks and objects -/

def Object.blocks : Object → List Address
  | .list a | .buffer a | .stranded a => [a]
  | .fwpsList a first | .clone a first => [a, first]

def Object.Valid (m : Memory) : Object → Prop
  | .list a => ∃ first, m a = some ⟨.malloc, .list first⟩
  | .buffer a | .stranded a => ∃ d n, m a = some ⟨.malloc, .buffer d n⟩
  | .fwpsList a first => m a = some ⟨.pool .netBufferList, .list first⟩ ∧
      ∃ d n, m first = some ⟨.pool .netBuffer, .buffer d n⟩
  | .clone a first => m a = some ⟨.malloc, .list first⟩ ∧
      ∃ d n, m first = some ⟨.malloc, .buffer d n⟩

def blocks (objects : List Object) : List Address := objects.flatMap Object.blocks

/-- The objects have the allocated blocks, each block one object. -/
structure Accounted (m : Memory) (objects : List Object) : Prop where
  valid : ∀ o ∈ objects, o.Valid m
  nodup : (blocks objects).Nodup
  nonzero : 0 ∉ blocks objects
  complete : ∀ a, m a ≠ none → a ∈ blocks objects

variable {m m' : Memory} {objects rest : List Object} {o : Object} {a first : Address}

theorem Object.Valid.ne_none (h : o.Valid m) (ha : a ∈ o.blocks) : m a ≠ none := by
  cases o with
  | list b | buffer b | stranded b =>
    obtain rfl : a = b := by simpa [Object.blocks] using ha
    simp only [Object.Valid] at h
    grind
  | fwpsList b first | clone b first =>
    have hor : a = b ∨ a = first := by simpa [Object.blocks] using ha
    obtain ⟨hlist, d, n, hbuffer⟩ := h
    rcases hor with rfl | rfl <;> simp [*]

/-- An object is not touched by what happens to other blocks. -/
theorem Object.Valid.frame (h : o.Valid m) (hsame : ∀ a ∈ o.blocks, m' a = m a) : o.Valid m' := by
  cases o with
  | list b | buffer b | stranded b =>
    have hb := hsame b (by simp [Object.blocks])
    simp only [Object.Valid] at h ⊢
    rwa [hb]
  | fwpsList b first | clone b first =>
    have hb := hsame b (by simp [Object.blocks])
    have hfirst := hsame first (by simp [Object.blocks])
    simp only [Object.Valid] at h ⊢
    rwa [hb, hfirst]

theorem blocks_cons : blocks (o :: rest) = o.blocks ++ blocks rest := List.flatMap_cons

theorem Accounted.of_perm (h : Accounted m objects) (hp : objects.Perm rest) :
    Accounted m rest where
  valid := fun o ho => h.valid o (hp.mem_iff.mpr ho)
  nodup := ((hp.flatMap_right _).nodup_iff).mp h.nodup
  nonzero := fun h0 => h.nonzero ((hp.flatMap_right _).mem_iff.mpr h0)
  complete := fun a ha => (hp.flatMap_right _).mem_iff.mp (h.complete a ha)

theorem Accounted.free_iff (h : Accounted m objects) : m a = none ↔ a ∉ blocks objects := by
  constructor
  · intro hnone hmem
    obtain ⟨o, ho, ha⟩ := List.mem_flatMap.mp hmem
    exact (h.valid o ho).ne_none ha hnone
  · intro hmem
    by_contra hne
    exact hmem (h.complete a hne)

/-- An object that takes blocks that are free. -/
theorem Accounted.add (h : Accounted m rest) (hvalid : o.Valid m') (hnodup : o.blocks.Nodup)
    (hfree : ∀ a ∈ o.blocks, a ≠ 0 ∧ m a = none) (hsame : ∀ a, a ∉ o.blocks → m' a = m a) :
    Accounted m' (o :: rest) := by
  have hdisjoint : ∀ a ∈ o.blocks, a ∉ blocks rest := fun a ha => h.free_iff.mp (hfree a ha).2
  refine ⟨?_, ?_, ?_, ?_⟩
  · intro o' ho'
    rcases List.mem_cons.mp ho' with rfl | ho'
    · exact hvalid
    · refine (h.valid o' ho').frame fun a ha => hsame a fun hmem => hdisjoint a hmem ?_
      exact List.mem_flatMap.mpr ⟨o', ho', ha⟩
  · rw [blocks_cons]
    exact hnodup.append h.nodup fun a ha ha' => hdisjoint a ha ha'
  · rw [blocks_cons, List.mem_append]
    rintro (h0 | h0)
    · exact (hfree 0 h0).1 rfl
    · exact h.nonzero h0
  · intro a ha
    rw [blocks_cons, List.mem_append]
    by_cases hmem : a ∈ o.blocks
    · exact .inl hmem
    · rw [hsame a hmem] at ha
      exact .inr (h.complete a ha)

/-- An object that gives its blocks back. -/
theorem Accounted.drop (h : Accounted m (o :: rest)) (hgone : ∀ a ∈ o.blocks, m' a = none)
    (hsame : ∀ a, a ∉ o.blocks → m' a = m a) : Accounted m' rest := by
  have hnodup := h.nodup
  have hnonzero := h.nonzero
  rw [blocks_cons] at hnodup hnonzero
  have hdisjoint := List.disjoint_of_nodup_append hnodup
  refine ⟨?_, hnodup.of_append_right, fun h0 => hnonzero (List.mem_append_right _ h0), ?_⟩
  · intro o' ho'
    refine (h.valid o' (List.mem_cons_of_mem _ ho')).frame fun a ha => hsame a fun hmem => ?_
    exact hdisjoint hmem (List.mem_flatMap.mpr ⟨o', ho', ha⟩)
  · intro a ha
    by_cases hmem : a ∈ o.blocks
    · exact absurd (hgone a hmem) ha
    · rw [hsame a hmem] at ha
      have hall := h.complete a ha
      rw [blocks_cons, List.mem_append] at hall
      exact hall.resolve_left hmem

/-- To give a clone's list back leaves its net buffer. -/
theorem Accounted.split (h : Accounted m (.clone a first :: rest)) :
    Accounted m (.list a :: .stranded first :: rest) := by
  have hblocks : blocks (.list a :: .stranded first :: rest) =
    blocks (.clone a first :: rest) := rfl
  refine ⟨?_, hblocks ▸ h.nodup, hblocks ▸ h.nonzero, hblocks ▸ h.complete⟩
  obtain ⟨hlist, hbuffer⟩ := h.valid _ (List.mem_cons_self ..)
  intro o ho
  rcases List.mem_cons.mp ho with rfl | ho
  · exact ⟨first, hlist⟩
  · rcases List.mem_cons.mp ho with rfl | ho
    · exact hbuffer
    · exact h.valid o (List.mem_cons_of_mem _ ho)

theorem Accounted.ne_zero (h : Accounted m objects) (ho : o ∈ objects) (ha : a ∈ o.blocks) :
    a ≠ 0 := by
  rintro rfl
  exact h.nonzero (List.mem_flatMap.mpr ⟨o, ho, ha⟩)

/-! ## What the functions do -/

theorem free_eq {allocator : Allocator} {contents : Contents} (h : m a = some ⟨allocator, contents⟩)
    (ha : a ≠ 0) : m.free allocator a = some (Function.update m a none) := by
  rw [Memory.free, if_neg fun h0 => ha h0.1, if_pos (by simp [h])]

@[simp] theorem Memory.put_self {c : Cell} : m.put a c a = some c := Function.update_self ..

/-- A block that is taken and given back at once. -/
theorem update_put_none {c : Cell} (h : m a = none) : Function.update (m.put a c) a none = m := by
  rw [Memory.put, Function.update_idem, ← h, Function.update_eq_self]

theorem ndisAllocateNetBufferList_cases (m : Memory) (ans : Answer) :
    ndisAllocateNetBufferList m ans = (0, m) ∨ ans.block ≠ 0 ∧
      ndisAllocateNetBufferList m ans =
        (ans.block, m.put ans.block ⟨.malloc, .list ans.garbage⟩) := by
  unfold ndisAllocateNetBufferList
  by_cases h : (ans.fault || ans.block == 0) = true
  · exact .inl (if_pos h)
  · refine .inr ⟨fun h0 => h ?_, if_neg h⟩
    simp [h0]

theorem ndisAllocateNetBuffer_cases (m : Memory) (mdlChain : Address) (n : BitVec 64)
    (ans : Answer) :
    ndisAllocateNetBuffer m mdlChain n ans = (0, m) ∨ ans.block ≠ 0 ∧
      ndisAllocateNetBuffer m mdlChain n ans =
        (ans.block, m.put ans.block ⟨.malloc, .buffer mdlChain (n.setWidth 32)⟩) := by
  unfold ndisAllocateNetBuffer
  by_cases h : (ans.fault || ans.block == 0) = true
  · exact .inl (if_pos h)
  · refine .inr ⟨fun h0 => h ?_, if_neg h⟩
    simp [h0]

/-- A list with its net buffer, in two new blocks. -/
def Memory.putPair (m : Memory) (list buffer : Address) (listFrom bufferFrom : Allocator)
    (mdlChain : Address) (dataLength : BitVec 32) : Memory :=
  (m.put list ⟨listFrom, .list buffer⟩).put buffer ⟨bufferFrom, .buffer mdlChain dataLength⟩

/-- The net buffer of a list is set when both are there. -/
theorem setFirstNetBuffer_put_put {list buffer d first : Address} {n : BitVec 32}
    {listFrom bufferFrom : Allocator} (hne : list ≠ buffer) :
    Memory.setFirstNetBuffer ((m.put list ⟨listFrom, .list first⟩).put buffer
        ⟨bufferFrom, .buffer d n⟩) list buffer =
      m.putPair list buffer listFrom bufferFrom d n := by
  have hlist : ((m.put list ⟨listFrom, .list first⟩).put buffer ⟨bufferFrom, .buffer d n⟩) list =
      some ⟨listFrom, .list first⟩ := by
    rw [Memory.put, Function.update_of_ne hne, Memory.put, Function.update_self]
  rw [Memory.setFirstNetBuffer, hlist, Memory.putPair]
  simp only [Memory.put, Option.map_some]
  rw [Function.update_comm hne.symm, Function.update_idem]

theorem cloneable_iff : Cloneable m a ↔
    ∃ first d n, m.firstNetBuffer a = some first ∧ m.netBuffer first = some (d, n) := by
  simp only [Cloneable, Option.isSome_iff_exists, Option.bind_eq_some_iff, Prod.exists]
  grind

/-- A block that is read is another one than a new block. -/
theorem firstNetBuffer_put {c : Cell} {b : Address} (hfree : m b = none)
    (h : m.firstNetBuffer a = some first) : (m.put b c).firstNetBuffer a = some first := by
  have hne : a ≠ b := by
    rintro rfl
    simp [Memory.firstNetBuffer, hfree] at h
  rwa [Memory.firstNetBuffer, Memory.put, Function.update_of_ne hne]

theorem netBuffer_put {c : Cell} {b : Address} {r : Address × BitVec 32} (hfree : m b = none)
    (h : m.netBuffer a = some r) : (m.put b c).netBuffer a = some r := by
  have hne : a ≠ b := by
    rintro rfl
    simp [Memory.netBuffer, hfree] at h
  rwa [Memory.netBuffer, Memory.put, Function.update_of_ne hne]

theorem clone_cases (fault : Bool) (list buffer : Answer) (h : Cloneable m a)
    (hfree : FreePair m list.block buffer.block) :
    ndisAllocateCloneNetBufferList m a fault list buffer = some (0, m) ∨
      ∃ first d n, m.firstNetBuffer a = some first ∧ m.netBuffer first = some (d, n) ∧
        list.block ≠ 0 ∧ buffer.block ≠ 0 ∧
        ndisAllocateCloneNetBufferList m a fault list buffer =
          some (list.block, m.putPair list.block buffer.block .malloc .malloc d n) := by
  obtain ⟨first, d, n, hfirst, hbuffer⟩ := cloneable_iff.mp h
  obtain ⟨hlist, -, hne⟩ := hfree
  unfold ndisAllocateCloneNetBufferList
  cases fault with
  | true => exact .inl rfl
  | false =>
    rw [if_neg Bool.false_ne_true]
    rcases ndisAllocateNetBufferList_cases m list with hnull | ⟨hblock, hput⟩
    · rw [hnull]
      exact .inl rfl
    · have hnone : m list.block = none := hlist.resolve_left hblock
      rw [hput]
      simp only [if_neg hblock, firstNetBuffer_put hnone hfirst, netBuffer_put hnone hbuffer,
        Option.bind_some]
      rcases ndisAllocateNetBuffer_cases (m.put list.block ⟨.malloc, .list list.garbage⟩) d
        (n.setWidth 64) buffer with hnull | ⟨hbuf, hput'⟩
      · rw [hnull]
        refine .inl ?_
        simp only [if_true, ndisFreeNetBufferList]
        rw [free_eq Memory.put_self hblock, update_put_none hnone]
        rfl
      · rw [hput']
        refine .inr ⟨first, d, n, hfirst, hbuffer, hblock, hbuf, ?_⟩
        simp only [if_neg hbuf]
        rw [setFirstNetBuffer_put_put (fun heq => hblock (hne heq)), BitVec.setWidth_setWidth_of_le,
          BitVec.setWidth_eq]
        decide

theorem fwpsAllocate_cases (d : Address) (n : BitVec 64) (fault : Bool) {list buffer : Address}
    (hfree : FreePair m list buffer) :
    (∃ status, fwpsAllocateNetBufferAndNetBufferList0 m d n fault list buffer =
        some (status, none, m)) ∨
      list ≠ 0 ∧ buffer ≠ 0 ∧
        fwpsAllocateNetBufferAndNetBufferList0 m d n fault list buffer =
          some (.success, some list,
            m.putPair list buffer (.pool .netBufferList) (.pool .netBuffer) d (n.setWidth 32)) := by
  obtain ⟨hlist, -, hne⟩ := hfree
  unfold fwpsAllocateNetBufferAndNetBufferList0
  cases fault with
  | true => exact .inl ⟨_, rfl⟩
  | false =>
    rw [if_neg Bool.false_ne_true]
    by_cases hl : list = 0
    · exact .inl ⟨_, if_pos hl⟩
    · have hnone : m list = none := hlist.resolve_left hl
      rw [if_neg hl]
      by_cases hb : buffer = 0
      · refine .inl ⟨.insufficientResources, ?_⟩
        simp only [if_pos hb, fwpsFreeNetBufferList0, if_neg hl, Memory.firstNetBuffer,
          Memory.put_self, Option.bind_some, ne_eq, not_true_eq_false, if_false]
        rw [free_eq Memory.put_self hl, update_put_none hnone]
        rfl
      · refine .inr ⟨hl, hb, ?_⟩
        simp only [if_neg hb]
        rw [setFirstNetBuffer_put_put (fun heq => hl (hne heq))]

theorem fwpsFree_eq (h : Accounted m (.fwpsList a first :: rest)) :
    fwpsFreeNetBufferList0 m a =
      some (Function.update (Function.update m first none) a none) := by
  obtain ⟨hlist, d, n, hbuffer⟩ := h.valid _ (List.mem_cons_self ..)
  have ha : a ≠ 0 := h.ne_zero (List.mem_cons_self ..) (by simp [Object.blocks])
  have hf : first ≠ 0 := h.ne_zero (List.mem_cons_self ..) (by simp [Object.blocks])
  have hne : a ≠ first := by
    have hnodup := h.nodup
    simp only [blocks_cons, Object.blocks, List.cons_append, List.nil_append,
      List.nodup_cons, List.mem_cons, not_or] at hnodup
    exact hnodup.1.1
  simp only [fwpsFreeNetBufferList0, if_neg ha, Memory.firstNetBuffer, hlist, Option.bind_some,
    if_pos hf]
  rw [free_eq hbuffer hf, Option.bind_some]
  exact free_eq ((Function.update_of_ne hne ..).trans hlist) ha

/-! ## A step -/

variable {s s' : State}

def Object.isStranded : Object → Bool
  | .stranded _ => true
  | _ => false

def Action.freesClone : Action → Bool
  | .freeClone .. | .fwpsFreeClone .. => true
  | _ => false

/-- What a step does to the objects: it makes one, changes none, or takes one. -/
inductive Effect (s s' : State) : Action → Prop where
  | same {x : Action} (hstate : s' = s) (hx : x.freesClone = false) : Effect s s' x
  | changed {x : Action} (hobjects : s'.objects = s.objects) (hx : x.freesClone = false)
      (haccounted : Accounted s'.memory s'.objects) : Effect s s' x
  | made {x : Action} (o : Object) (ho : o.isStranded = false)
      (hobjects : s'.objects = o :: s.objects)
      (hx : x.freesClone = false) (haccounted : Accounted s'.memory s'.objects) : Effect s s' x
  | taken {x : Action} (o : Object) (ho : o.isStranded = false)
      (hobjects : s.objects.Perm (o :: s'.objects)) (hx : x.freesClone = false)
      (haccounted : Accounted s'.memory s'.objects) : Effect s s' x
  | stranded {x : Action} (a first : Address) (ho : .clone a first ∈ s.objects)
      (hobjects : s'.objects = .stranded first :: s.objects.erase (.clone a first))
      (hx : x.freesClone = true) (haccounted : Accounted s'.memory s'.objects) : Effect s s' x

theorem add_putPair {list buffer d : Address} {n : BitVec 32} {listFrom bufferFrom : Allocator}
    (h : Accounted m objects) (hfree : FreePair m list buffer) (hl : list ≠ 0) (hb : buffer ≠ 0)
    (hblocks : o.blocks = [list, buffer])
    (hvalid : (m.putPair list buffer listFrom bufferFrom d n) list = some ⟨listFrom, .list buffer⟩ →
      (m.putPair list buffer listFrom bufferFrom d n) buffer = some ⟨bufferFrom, .buffer d n⟩ →
      o.Valid (m.putPair list buffer listFrom bufferFrom d n)) :
    Accounted (m.putPair list buffer listFrom bufferFrom d n) (o :: objects) := by
  have hne : list ≠ buffer := fun heq => hl (hfree.2.2 heq)
  refine h.add (hvalid ?_ Memory.put_self) ?_ ?_ ?_
  · rw [Memory.putPair, Memory.put, Function.update_of_ne hne, Memory.put_self]
  · rw [hblocks]
    simp [hne]
  · rw [hblocks]
    intro b hmem
    rcases List.mem_pair.mp hmem with rfl | rfl
    · exact ⟨hl, hfree.1.resolve_left hl⟩
    · exact ⟨hb, hfree.2.1.resolve_left hb⟩
  · rw [hblocks]
    intro b hmem
    simp only [List.mem_cons, List.not_mem_nil, or_false, not_or] at hmem
    rw [Memory.putPair, Memory.put, Function.update_of_ne hmem.2, Memory.put,
      Function.update_of_ne hmem.1]

/-- An object with one block is given back. -/
theorem drop_one (h : Accounted m objects) (ho : o ∈ objects) (hblocks : o.blocks = [a]) :
    Accounted (Function.update m a none) (objects.erase o) := by
  refine (h.of_perm (List.perm_cons_erase ho)).drop ?_ ?_
  · rw [hblocks]
    intro b hb
    obtain rfl := List.mem_singleton.mp hb
    exact Function.update_self ..
  · rw [hblocks]
    intro b hb
    exact Function.update_of_ne (fun heq => hb (List.mem_singleton.mpr heq)) ..

/-- An object with two blocks is given back. -/
theorem drop_pair (h : Accounted m objects) (ho : o ∈ objects) (hblocks : o.blocks = [a, first]) :
    Accounted (Function.update (Function.update m first none) a none) (objects.erase o) := by
  refine (h.of_perm (List.perm_cons_erase ho)).drop ?_ ?_
  · rw [hblocks]
    intro b hb
    by_cases hba : b = a
    · rw [hba, Function.update_self]
    · obtain rfl : b = first := (List.mem_pair.mp hb).resolve_left hba
      rw [Function.update_of_ne hba, Function.update_self]
  · rw [hblocks]
    intro b hb
    simp only [List.mem_cons, List.not_mem_nil, or_false, not_or] at hb
    rw [Function.update_of_ne hb.1, Function.update_of_ne hb.2]

/-- A block for an object of one block. -/
theorem add_one {c : Cell} (h : Accounted m objects) (hfree : Free m a) (ha : a ≠ 0)
    (hblocks : o.blocks = [a]) (hvalid : m.put a c a = some c → o.Valid (m.put a c)) :
    Accounted (m.put a c) (o :: objects) := by
  refine h.add (hvalid Memory.put_self) ?_ ?_ ?_
  · rw [hblocks]
    exact List.nodup_singleton a
  · rw [hblocks]
    intro b hb
    obtain rfl := List.mem_singleton.mp hb
    exact ⟨ha, hfree.resolve_left ha⟩
  · rw [hblocks]
    intro b hb
    exact Function.update_of_ne (fun heq => hb (List.mem_singleton.mpr heq)) ..

variable {x : Action}

theorem effect_setFirstNetBuffer {list buffer : Address} (h : Accounted s.memory s.objects)
    (hlist : .list list ∈ s.objects) :
    ∃ s', step s (.setFirstNetBuffer list buffer) = some s' ∧
      Effect s s' (.setFirstNetBuffer list buffer) := by
  refine ⟨_, rfl, .changed rfl rfl ?_⟩
  obtain ⟨first, hfirst⟩ := h.valid _ hlist
  have hset : s.memory.setFirstNetBuffer list buffer =
      Memory.put (Function.update s.memory list none) list ⟨.malloc, .list buffer⟩ := by
    rw [Memory.setFirstNetBuffer, hfirst, Memory.put, Function.update_idem]
    rfl
  have hne : list ≠ 0 := h.ne_zero hlist (List.mem_singleton_self _)
  have hadd : Accounted _ (.list list :: s.objects.erase (.list list)) :=
    add_one (c := ⟨.malloc, .list buffer⟩) (drop_one h hlist rfl) (.inr (Function.update_self ..))
      hne rfl fun hself => ⟨buffer, hself⟩
  show Accounted (s.memory.setFirstNetBuffer list buffer) s.objects
  rw [hset]
  exact hadd.of_perm (List.perm_cons_erase hlist).symm

theorem effect_clone (x : Action) {original : Address} (fault : Bool) {list buffer : Answer}
    (h : Accounted s.memory s.objects) (hc : Cloneable s.memory original)
    (hfree : FreePair s.memory list.block buffer.block) (hx : x.freesClone = false) :
    ∃ r, ndisAllocateCloneNetBufferList s.memory original fault list buffer = some r ∧
      Effect s (s.add r.2 r.1 (.clone r.1 buffer.block)) x := by
  rcases clone_cases fault list buffer hc hfree with hnull | ⟨first, d, n, -, -, hl, hb, hput⟩
  · exact ⟨_, hnull, .same (by simp [State.add]) hx⟩
  · refine ⟨_, hput, .made (.clone list.block buffer.block) rfl (if_neg hl) hx ?_⟩
    simp only [State.add, if_neg hl]
    exact add_putPair h hfree hl hb rfl fun hlist hbuffer => ⟨hlist, d, n, hbuffer⟩

theorem effect_freeClone (h : Accounted s.memory s.objects) (ho : .clone a first ∈ s.objects)
    (hx : x.freesClone = true) :
    ∃ m, ndisFreeCloneNetBufferList s.memory a = some m ∧
      Effect s ⟨m, .stranded first :: s.objects.erase (.clone a first)⟩ x := by
  obtain ⟨hlist, -⟩ := h.valid _ ho
  have ha : a ≠ 0 := h.ne_zero ho (by simp [Object.blocks])
  refine ⟨_, free_eq hlist ha, .stranded a first ho rfl hx ?_⟩
  have hsplit := (h.of_perm (List.perm_cons_erase ho)).split
  have hdrop := drop_one hsplit (List.mem_cons_self ..) rfl
  rwa [List.erase_cons_head] at hdrop

/-- A permitted step goes through, and has one of the effects. -/
theorem accounted_step (h : Accounted s.memory s.objects) (hp : Permitted s x) :
    ∃ s', step s x = some s' ∧ Effect s s' x := by
  cases x with
  | allocateList ans =>
    let r := ndisAllocateNetBufferList s.memory ans
    refine ⟨s.add r.2 r.1 (.list r.1), rfl, ?_⟩
    rcases ndisAllocateNetBufferList_cases s.memory ans with hnull | ⟨hb, hput⟩
    · show Effect s (s.add r.2 r.1 _) _
      rw [show r = _ from hnull]
      exact .same (by simp [State.add]) rfl
    · show Effect s (s.add r.2 r.1 _) _
      rw [show r = _ from hput]
      refine .made (.list ans.block) rfl (if_neg hb) rfl ?_
      simp only [State.add, if_neg hb]
      exact add_one h hp hb rfl fun hself => ⟨_, hself⟩
  | allocateBuffer d n ans =>
    let r := ndisAllocateNetBuffer s.memory d n ans
    refine ⟨s.add r.2 r.1 (.buffer r.1), rfl, ?_⟩
    rcases ndisAllocateNetBuffer_cases s.memory d n ans with hnull | ⟨hb, hput⟩
    · show Effect s (s.add r.2 r.1 _) _
      rw [show r = _ from hnull]
      exact .same (by simp [State.add]) rfl
    · show Effect s (s.add r.2 r.1 _) _
      rw [show r = _ from hput]
      refine .made (.buffer ans.block) rfl (if_neg hb) rfl ?_
      simp only [State.add, if_neg hb]
      exact add_one h hp hb rfl fun hself => ⟨_, _, hself⟩
  | setFirstNetBuffer list buffer => exact effect_setFirstNetBuffer h hp.1
  | fwpsAllocate d n fault list buffer =>
    rcases fwpsAllocate_cases d n fault hp with ⟨status, hnull⟩ | ⟨hl, hb, hput⟩
    · exact ⟨s, by rw [step, hnull]; simp [State.add], .same rfl rfl⟩
    · refine ⟨s.add _ list (.fwpsList list buffer), by rw [step, hput]; rfl,
        .made (.fwpsList list buffer) rfl (if_neg hl) rfl ?_⟩
      simp only [State.add, if_neg hl]
      exact add_putPair h hp hl hb rfl fun hlist hbuffer => ⟨hlist, _, _, hbuffer⟩
  | clone original fault list buffer =>
    obtain ⟨r, hr, heffect⟩ := effect_clone (.clone original fault list buffer) fault
      h hp.1 hp.2 rfl
    exact ⟨_, by rw [step, hr]; rfl, heffect⟩
  | fwpsClone original listPool bufferPool fault list buffer =>
    by_cases hpools : listPool = 0 ∨ bufferPool = 0
    · have hinvalid : fwpsAllocateCloneNetBufferList0 s.memory original listPool bufferPool fault
          list buffer = some (.invalidParameter, none, s.memory) := if_pos hpools
      exact ⟨s, by rw [step, hinvalid]; simp [State.add], .same rfl rfl⟩
    · obtain ⟨r, hr, heffect⟩ := effect_clone
        (.fwpsClone original listPool bufferPool fault list buffer) fault h hp.1 hp.2 rfl
      refine ⟨_, ?_, heffect⟩
      rw [step, fwpsAllocateCloneNetBufferList0, if_neg hpools, hr]
      rfl
  | freeList a =>
    obtain ⟨first, hlist⟩ := h.valid _ hp
    have ha : a ≠ 0 := h.ne_zero hp (List.mem_singleton_self _)
    refine ⟨⟨Function.update s.memory a none, s.objects.erase (.list a)⟩, ?_,
      .taken (.list a) rfl (List.perm_cons_erase hp) rfl (drop_one h hp rfl)⟩
    rw [step, ndisFreeNetBufferList, free_eq hlist ha]
    rfl
  | freeBuffer a =>
    obtain ⟨d, n, hbuffer⟩ := h.valid _ hp
    have ha : a ≠ 0 := h.ne_zero hp (List.mem_singleton_self _)
    refine ⟨⟨Function.update s.memory a none, s.objects.erase (.buffer a)⟩, ?_,
      .taken (.buffer a) rfl (List.perm_cons_erase hp) rfl (drop_one h hp rfl)⟩
    rw [step, ndisFreeNetBuffer, free_eq hbuffer ha]
    rfl
  | fwpsFree a first =>
    have hperm := List.perm_cons_erase hp
    refine ⟨⟨Function.update (Function.update s.memory first none) a none,
      s.objects.erase (.fwpsList a first)⟩, ?_, .taken (.fwpsList a first) rfl hperm rfl ?_⟩
    · rw [step, fwpsFree_eq (h.of_perm hperm)]
      rfl
    · exact drop_pair h hp rfl
  | freeClone a first =>
    obtain ⟨m, hm, heffect⟩ := effect_freeClone (x := .freeClone a first) h hp rfl
    exact ⟨_, by rw [step, hm]; rfl, heffect⟩
  | fwpsFreeClone a first =>
    obtain ⟨m, hm, heffect⟩ := effect_freeClone (x := .fwpsFreeClone a first) h hp rfl
    refine ⟨_, ?_, heffect⟩
    rw [step, fwpsFreeCloneNetBufferList0, hm]
    rfl

/-! ## Runs -/

theorem Effect.accounted (he : Effect s s' x) (h : Accounted s.memory s.objects) :
    Accounted s'.memory s'.objects := by
  cases he with
  | same hstate =>
    rw [hstate]
    exact h
  | changed _ _ h' | made _ _ _ _ h' | taken _ _ _ _ h' | stranded _ _ _ _ _ h' => exact h'

theorem Effect.countP (he : Effect s s' x) :
    s'.objects.countP Object.isStranded =
      s.objects.countP Object.isStranded + [x].countP Action.freesClone := by
  cases he with
  | same hstate hx => simp [hstate, hx]
  | changed hobjects hx => simp [hobjects, hx]
  | made o ho hobjects hx => simp [hobjects, ho, hx]
  | taken o ho hobjects hx =>
    rw [hobjects.countP_eq]
    simp [ho, hx]
  | stranded a first ho hobjects hx =>
    have hclone : Object.isStranded (.clone a first) = false := rfl
    have herase := (List.perm_cons_erase ho).countP_eq Object.isStranded
    rw [List.countP_cons_of_neg (by simp [hclone])] at herase
    rw [hobjects, List.countP_cons_of_pos (by rfl), herase]
    simp [hx]

theorem accounted_exec {as : List Action} (h : Accounted s.memory s.objects)
    (hp : Guarded step Permitted s as) :
    ∃ s', exec step s as = some s' ∧ Accounted s'.memory s'.objects ∧
      s'.objects.countP Object.isStranded =
        s.objects.countP Object.isStranded + as.countP Action.freesClone := by
  induction as generalizing s with
  | nil => exact ⟨s, rfl, h, rfl⟩
  | cons x as ih =>
    obtain ⟨s₁, h₁, heffect⟩ := accounted_step h hp.1
    obtain ⟨s', h', haccounted, hcount⟩ := ih (heffect.accounted h) (hp.2 s₁ h₁)
    refine ⟨s', exec_cons_eq_some.mpr ⟨s₁, h₁, h'⟩, haccounted, ?_⟩
    rw [hcount, heffect.countP, Nat.add_assoc, ← List.countP_append, List.singleton_append]

/--
Whatever faults there are and wherever `malloc` fails, as long as everything is given back by the
function that belongs to it: no block is given back twice or to another allocator, the allocated
blocks are those of the objects in use, and one more net buffer is stranded for every clone that is
freed.
-/
theorem accounted_run (as : List Action) (hp : Guarded step Permitted State.init as) :
    ∃ s, exec step State.init as = some s ∧ Accounted s.memory s.objects ∧
      s.objects.countP Object.isStranded = as.countP Action.freesClone := by
  have hinit : Accounted State.init.memory State.init.objects := by
    refine ⟨?_, List.nodup_nil, List.not_mem_nil, ?_⟩ <;> simp [State.init]
  obtain ⟨s, hs, haccounted, hcount⟩ := accounted_exec hinit hp
  refine ⟨s, hs, haccounted, ?_⟩
  rw [hcount]
  exact Nat.zero_add _

/-- A packet is cloned, and both are given back. -/
def cloneAndFree : List Action :=
  [.fwpsAllocate 0x5000 64 false 0x1000 0x2000,
    .clone 0x1000 false ⟨false, 0x3000, 7⟩ ⟨false, 0x4000, 7⟩,
    .clone 0x1000 false ⟨false, 0x6000, 7⟩ ⟨true, 0, 7⟩,
    .freeClone 0x3000 0x4000, .fwpsFree 0x1000 0x2000]

theorem accounted_run_cloneAndFree : ∃ s, exec step State.init cloneAndFree = some s ∧
    Accounted s.memory s.objects ∧
    s.objects.countP Object.isStranded = cloneAndFree.countP Action.freesClone :=
  accounted_run cloneAndFree (guarded_of_check (by decide))

end Usersim.Ndis.BufferList
