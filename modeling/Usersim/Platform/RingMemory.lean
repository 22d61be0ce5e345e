import Usersim.Lib.Circular
import Usersim.Lib.Run
import Usersim.Platform.RingBuffer

/-!
# The memory of a ring buffer (`platform_user.cpp`)

The views that `usersim_allocate_ring_buffer_memory` maps, as memory: an address in a view is an
offset into the section, so that an offset has two addresses. A client stores records at positions
that it counts on, each from the base address and the position modulo the length on, and past the
end of the first view.

* `ring_serves` — what the client stores and loads is a circular store of the length
-/

namespace Usersim.Platform.RingBuffer

open Lib

/-- `usersim_ring_descriptor_get_base_address` -/
def usersimRingDescriptorGetBaseAddress (ring : Descriptor) : Address := ring.primaryView

/-- `usersim_ring_map_readonly_user`, which maps nothing more. -/
def usersimRingMapReadonlyUser (ring : Descriptor) : Address :=
  usersimRingDescriptorGetBaseAddress ring

def viewOffset (a : Address) : Resource → Option Nat
  | .view start length _ =>
    if (a - start).toNat < length.toNat then some (a - start).toNat else none
  | _ => none

/-- The offset into the section that an address stands for. -/
def Process.offsetAt (p : Process) (a : Address) : Option Nat := p.held.findSome? (viewOffset a)

structure Memory where
  process : Process
  /-- The section, by offset. -/
  contents : Nat → Byte

def Memory.load (m : Memory) (a : Address) : Option Byte :=
  (m.process.offsetAt a).map m.contents

/-- Byte for byte, with no regard to the end of a view; `none` is an access violation. -/
def Memory.loadAll (m : Memory) (a : Address) : Nat → Option (List Byte)
  | 0 => some []
  | k + 1 => do
    let b ← m.load a
    let bs ← m.loadAll (a + 1) k
    some (b :: bs)

def Memory.store (m : Memory) (a : Address) (b : Byte) : Option Memory :=
  (m.process.offsetAt a).map fun offset =>
    { m with contents := Function.update m.contents offset b }

def Memory.storeAll (m : Memory) (a : Address) : List Byte → Option Memory
  | [] => some m
  | b :: bs => do
    let m ← m.store a b
    m.storeAll (a + 1) bs

/-- A record of the client, at its position. -/
structure Record where
  position : Nat
  bytes : List Byte
deriving DecidableEq, Repr

def Record.endPosition (r : Record) : Nat := r.position + r.bytes.length

/-- Where the record at a position begins. -/
def addressOf (ring : Descriptor) (position : Nat) : Address :=
  usersimRingDescriptorGetBaseAddress ring + BitVec.ofNat 64 (position % ring.length.toNat)

def step (ring : Descriptor) (m : Memory) (r : Record) : Option Memory :=
  m.storeAll (addressOf ring r.position) r.bytes

/-! ## What the memory is for -/

/-- The circular store after the records. -/
def stored (n : Nat) (c : Nat → Byte) (records : List Record) : Nat → Byte :=
  records.foldl (fun c r => Circular.writeAll n c r.position r.bytes) c

structure Serves (ring : Descriptor) (m : Memory) (c : Nat → Byte) (records : List Record) :
    Prop where
  /-- Whatever is not longer than the ring is there in one piece, at its position. -/
  loads : ∀ position k, k ≤ ring.length.toNat →
    m.loadAll (usersimRingMapReadonlyUser ring +
        BitVec.ofNat 64 (position % ring.length.toNat)) k =
      some (Circular.readAll ring.length.toNat (stored ring.length.toNat c records) position k)
  /-- A record is there until one that comes round reaches it. -/
  keeps : ∀ before r after, records = before ++ r :: after →
    (∀ r' ∈ after, r.endPosition ≤ r'.position ∧
      r'.endPosition ≤ r.position + ring.length.toNat) →
    m.loadAll (addressOf ring r.position) r.bytes.length = some r.bytes
  /-- Once the ring is freed nothing of it can be accessed. -/
  freed : ∀ a,
    ({ m with process := usersimFreeRingBufferMemory m.process (some ring) } : Memory).load a = none

/-! ## The two views -/

/-- The views of a ring at a base address. -/
def mappedAt (base : Address) (length : SizeT) : Process where
  held := [.view (base + length) length (length.setWidth 32),
    .view base length (length.setWidth 32), .descriptor]
  invalidRelease := false

variable {base : Address} {length : SizeT} {i : Nat}

theorem offsetAt_eq (base a : Address) (length : SizeT) : (mappedAt base length).offsetAt a =
    if (a - (base + length)).toNat < length.toNat then some (a - (base + length)).toNat
    else if (a - base).toNat < length.toNat then some (a - base).toNat
    else none := by
  simp only [Process.offsetAt, mappedAt, List.findSome?_cons, viewOffset]
  split_ifs <;> rfl

theorem offsetAt_mappedAt (hlt : length.toNat < 2 ^ 32) (hi : i < 2 * length.toNat) :
    (mappedAt base length).offsetAt (base + BitVec.ofNat 64 i) = some (i % length.toNat) := by
  have hfirst : (base + BitVec.ofNat 64 i - base).toNat = i := by
    rw [show base + BitVec.ofNat 64 i - base = BitVec.ofNat 64 i by bv_omega, BitVec.toNat_ofNat]
    omega
  by_cases hview : i < length.toNat
  · -- before the start of the second view the difference wraps
    have hsecond : ¬ (base + BitVec.ofNat 64 i - (base + length)).toNat < length.toNat := by
      bv_omega
    rw [offsetAt_eq, if_neg hsecond, hfirst, if_pos hview, Nat.mod_eq_of_lt hview]
  · have hsecond : (base + BitVec.ofNat 64 i - (base + length)).toNat = i - length.toNat := by
      bv_omega
    have hoffset : i % length.toNat = i - length.toNat := by
      rw [Nat.mod_eq_sub_mod (by omega), Nat.mod_eq_of_lt (by omega)]
    have hview' : i - length.toNat < length.toNat := by omega
    rw [offsetAt_eq, hsecond, if_pos hview', hoffset]

theorem toNat_pos (hne : length ≠ 0#64) : 0 < length.toNat := by
  bv_omega

theorem add_ofNat_succ (base : Address) (i : Nat) :
    base + BitVec.ofNat 64 i + 1 = base + BitVec.ofNat 64 (i + 1) := by
  rw [BitVec.add_assoc]
  congr 1
  exact (BitVec.ofNat_add i 1).symm

theorem loadAll_mappedAt (base : Address) (hlt : length.toNat < 2 ^ 32) (c : Nat → Byte) {k : Nat}
    (hk : i + k ≤ 2 * length.toNat) :
    (⟨mappedAt base length, c⟩ : Memory).loadAll (base + BitVec.ofNat 64 i) k =
      some (Circular.readAll length.toNat c i k) := by
  induction k generalizing i with
  | zero => rfl
  | succ k ih =>
    rw [Memory.loadAll, Memory.load, offsetAt_mappedAt hlt (by omega), add_ofNat_succ,
      ih (by omega), Circular.readAll_succ]
    rfl

theorem storeAll_mappedAt (base : Address) (hlt : length.toNat < 2 ^ 32) (c : Nat → Byte)
    {bytes : List Byte} (hbytes : i + bytes.length ≤ 2 * length.toNat) :
    (⟨mappedAt base length, c⟩ : Memory).storeAll (base + BitVec.ofNat 64 i) bytes =
      some ⟨mappedAt base length, Circular.writeAll length.toNat c i bytes⟩ := by
  induction bytes generalizing i c with
  | nil => rfl
  | cons b bytes ih =>
    rw [List.length_cons] at hbytes
    rw [Memory.storeAll, Memory.store, offsetAt_mappedAt hlt (by omega), add_ofNat_succ]
    exact ih _ (by omega)

/-! ## Records -/

/-- The ring at a base address. -/
def ringAt (base : Address) (length : SizeT) : Descriptor := ⟨base, base + length, length⟩

theorem step_ringAt (hlt : length.toNat < 2 ^ 32) (c : Nat → Byte) {r : Record}
    (hpos : 0 < length.toNat) (hr : r.bytes.length ≤ length.toNat) :
    step (ringAt base length) ⟨mappedAt base length, c⟩ r =
      some ⟨mappedAt base length, Circular.writeAll length.toNat c r.position r.bytes⟩ := by
  have hmod := Nat.mod_lt r.position hpos
  have hfits : r.position % length.toNat + r.bytes.length ≤ 2 * length.toNat := by omega
  have hstore := storeAll_mappedAt base hlt c hfits
  rwa [Circular.writeAll_congr (Nat.mod_mod r.position length.toNat)] at hstore

theorem exec_ringAt (hlt : length.toNat < 2 ^ 32) (hpos : 0 < length.toNat) (c : Nat → Byte)
    {records : List Record} (hrecords : ∀ r ∈ records, r.bytes.length ≤ length.toNat) :
    exec (step (ringAt base length)) ⟨mappedAt base length, c⟩ records =
      some ⟨mappedAt base length, stored length.toNat c records⟩ := by
  induction records generalizing c with
  | nil => rfl
  | cons r records ih =>
    rw [List.forall_mem_cons] at hrecords
    rw [exec_cons, step_ringAt hlt c hpos hrecords.1]
    exact ih _ hrecords.2

/-- What comes after a record leaves it alone, as long as it does not come round to it. -/
theorem readAll_stored (n : Nat) (c : Nat → Byte) {i k : Nat} {after : List Record}
    (hafter : ∀ r ∈ after, i + k ≤ r.position ∧ r.endPosition ≤ i + n) :
    Circular.readAll n (stored n c after) i k = Circular.readAll n c i k := by
  induction after generalizing c with
  | nil => rfl
  | cons r after ih =>
    rw [List.forall_mem_cons] at hafter
    obtain ⟨⟨hbehind, hround⟩, hafter⟩ := hafter
    rw [show stored n c (r :: after) = stored n (Circular.writeAll n c r.position r.bytes) after
      from rfl, ih _ hafter]
    exact Circular.readAll_writeAll_of_disjoint hbehind hround c

theorem readAll_stored_record (n : Nat) (c : Nat → Byte) (before : List Record) {r : Record}
    {after : List Record} (hr : r.bytes.length ≤ n)
    (hafter : ∀ r' ∈ after, r.endPosition ≤ r'.position ∧ r'.endPosition ≤ r.position + n) :
    Circular.readAll n (stored n c (before ++ r :: after)) r.position r.bytes.length =
      r.bytes := by
  rw [stored, List.foldl_append, List.foldl_cons]
  exact (readAll_stored n _ hafter).trans (Circular.readAll_writeAll hr _ _)

theorem loadAll_position (hlt : length.toNat < 2 ^ 32) (hpos : 0 < length.toNat) (c : Nat → Byte)
    (position : Nat) {k : Nat} (hk : k ≤ length.toNat) :
    (⟨mappedAt base length, c⟩ : Memory).loadAll (addressOf (ringAt base length) position) k =
      some (Circular.readAll length.toNat c position k) := by
  have hmod := Nat.mod_lt position hpos
  have hfits : position % length.toNat + k ≤ 2 * length.toNat := by omega
  have hload := loadAll_mappedAt base hlt c hfits
  rwa [Circular.readAll_mod] at hload

theorem serves_ringAt (hlt : length.toNat < 2 ^ 32) (hne : length ≠ 0#64) (c : Nat → Byte)
    {records : List Record} (hrecords : ∀ r ∈ records, r.bytes.length ≤ length.toNat) :
    Serves (ringAt base length) ⟨mappedAt base length, stored length.toNat c records⟩ c
      records where
  loads := fun position _ hk => loadAll_position hlt (toNat_pos hne) _ position hk
  keeps := by
    rintro before r after rfl hafter
    have hr := hrecords r (by simp)
    rw [loadAll_position hlt (toNat_pos hne) _ _ hr]
    exact congrArg some (readAll_stored_record _ c before hr hafter)
  freed := by
    intro a
    rw [ringAt, mappedAt, free_all base _ hne]
    rfl

/-- The section is mapped twice, one view after the other: a client that counts positions and stores
records of at most the length has a circular store, in which nothing is ever split at the end. -/
theorem ring_serves {os : Os} (h : EveryStepSucceeds os length) (hlt : length.toNat < 2 ^ 32)
    (c : Nat → Byte) {records : List Record}
    (hrecords : ∀ r ∈ records, r.bytes.length ≤ length.toNat) :
    ∃ ring m, (usersimAllocateRingBufferMemory os length).1 = some ring ∧
      exec (step ring) ⟨(usersimAllocateRingBufferMemory os length).2, c⟩ records = some m ∧
      Serves ring m c records := by
  have hne := everyStepSucceeds_length_ne h
  rw [allocate_all h]
  exact ⟨ringAt os.virtualAlloc2 length, _, rfl, exec_ringAt hlt (toNat_pos hne) c hrecords,
    serves_ringAt hlt hne c hrecords⟩

/-- A ring of 64 KiB that the system does not refuse. -/
def everyStep : Os where
  allocationGranularity := 0x10000
  allocate := true
  virtualAlloc2 := 0x20000
  virtualFree := true
  createFileMapping := true
  mapFirst := true
  mapSecond := true
  releaseFirst := true
  releaseSecond := true

/-- The second record begins before the end of the ring and goes on past it. -/
def overTheEnd : List Record :=
  [⟨0, [1, 2, 3]⟩, ⟨0xFFFE, [4, 5, 6]⟩, ⟨0x10001, [7]⟩]

theorem ring_serves_overTheEnd :
    ∃ ring m, (usersimAllocateRingBufferMemory everyStep 0x10000).1 = some ring ∧
      exec (step ring) ⟨(usersimAllocateRingBufferMemory everyStep 0x10000).2, fun _ => 0⟩
        overTheEnd = some m ∧
      Serves ring m (fun _ => 0) overTheEnd :=
  ring_serves ⟨by decide, rfl, by decide, rfl, rfl, rfl, rfl⟩ (by decide) _ (by decide)

end Usersim.Platform.RingBuffer
