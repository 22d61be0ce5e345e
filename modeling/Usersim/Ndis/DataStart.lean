import Mathlib.Algebra.GroupWithZero.Nat
import Mathlib.Algebra.Order.Group.Nat
import Usersim.Lib.Run
import Usersim.Mm.Basic

/-!
# The data of a packet (`ndis_um.cpp`)

`NdisAdvanceNetBufferDataStart` adds to the offset of the MDL and leaves its byte count alone.
`NdisGetDataBuffer` compares with that count, so after an advance it hands out bytes behind the end.

* `data_inside_iff` — which sequences of calls stay inside the buffer
-/

namespace Usersim.Ndis

open Lib Mm

/-- NET_BUFFER, with the one MDL of its chain. -/
structure NetBuffer where
  dataLength : BitVec 32
  mdlChain : Mdl
deriving DecidableEq, Repr

/-- `fault` is one of this function, `mapFault` one of the mapping. -/
def ndisGetDataBuffer (nb : NetBuffer) (bytesNeeded : BitVec 32) (fault mapFault : Bool) :
    Option (NetBuffer × Address) :=
  if fault then some (nb, 0)
  else if bytesNeeded ≤ mmGetMdlByteCount nb.mdlChain then
    (mmGetSystemAddressForMdlSafe nb.mdlChain mapFault).map fun (m, p) =>
      ({ nb with mdlChain := m }, p)
  else some (nb, 0)

def ndisAdvanceNetBufferDataStart (nb : NetBuffer) (dataOffsetDelta : BitVec 32) : NetBuffer :=
  { nb with
    mdlChain := { nb.mdlChain with byteOffset := nb.mdlChain.byteOffset + dataOffsetDelta } }

/-! ## Sequences of calls -/

inductive Action where
  | advance (dataOffsetDelta : BitVec 32)
  | getDataBuffer (bytesNeeded : BitVec 32) (fault mapFault : Bool)
deriving DecidableEq, Repr

structure State where
  netBuffer : NetBuffer
  /-- Not part of the code: the sum of the advances so far. -/
  advanced : Nat
deriving DecidableEq, Repr

def step (s : State) : Action → Option State
  | .advance delta =>
    some ⟨ndisAdvanceNetBufferDataStart s.netBuffer delta, s.advanced + delta.toNat⟩
  | .getDataBuffer bytesNeeded fault mapFault =>
    (ndisGetDataBuffer s.netBuffer bytesNeeded fault mapFault).map fun r => ⟨r.1, s.advanced⟩

def Action.delta : Action → Nat
  | .advance delta => delta.toNat
  | .getDataBuffer .. => 0

def totalAdvance (as : List Action) : Nat := (as.map Action.delta).sum

/-- What a call should return: the data start, for bytes inside of the `length` ones at `va`, or
null; and null for more than there are left. -/
def Inside (va : Address) (length : Nat) (s : State) : Action → Prop
  | .advance _ => True
  | .getDataBuffer bytesNeeded fault mapFault =>
    ∀ r, ndisGetDataBuffer s.netBuffer bytesNeeded fault mapFault = some r →
      (r.2 ≠ 0 → r.2.toNat = va.toNat + s.advanced ∧
        va.toNat ≤ r.2.toNat ∧ r.2.toNat + bytesNeeded.toNat ≤ va.toNat + length) ∧
      (length < s.advanced + bytesNeeded.toNat → r.2 = 0)

/-- A call that gets no address whatever it asks for: it fails, the mapping does, or
the data start is null. -/
def NoAddress (m : Mdl) (fault mapFault : Bool) : Prop :=
  fault = true ∨ m.mapped = false ∧ (mapFault = true ∨ m.startVa = 0) ∨ mmGetMdlVirtualAddress m = 0

instance (m : Mdl) (fault mapFault : Bool) : Decidable (NoAddress m fault mapFault) :=
  inferInstanceAs (Decidable (_ ∨ _ ∨ _))

/-- It asks for what is left, or for more than there ever was, and the
offset has not come around. -/
def Fits (offset length : Nat) (s : State) : Action → Prop
  | .advance _ => True
  | .getDataBuffer bytesNeeded fault mapFault =>
    NoAddress s.netBuffer.mdlChain fault mapFault ∨ length < bytesNeeded.toNat ∨
      s.advanced + bytesNeeded.toNat ≤ length ∧ offset + s.advanced < 2 ^ 32

instance (offset length : Nat) (s : State) (a : Action) : Decidable (Fits offset length s a) :=
  match a with
  | .advance _ => isTrue trivial
  | .getDataBuffer .. => inferInstanceAs (Decidable (_ ∨ _ ∨ _))

/-- The advances stay within the data. -/
def Within (length : Nat) (s : State) : Action → Prop
  | .advance delta => s.advanced + delta.toNat ≤ length
  | .getDataBuffer .. => True

/-- What is known of the MDL: only its offset and its flags change. -/
structure Inv (m : Mdl) (s : State) : Prop where
  startVa : s.netBuffer.mdlChain.startVa = m.startVa
  byteCount : s.netBuffer.mdlChain.byteCount = m.byteCount
  byteOffset : s.netBuffer.mdlChain.byteOffset = m.byteOffset + BitVec.ofNat 32 s.advanced

variable {s s' : State} {as : List Action} {length : Nat}

theorem within_of_totalAdvance (h : s.advanced + totalAdvance as ≤ length) :
    Guarded step (Within length) s as := by
  induction as generalizing s with
  | nil => trivial
  | cons a as ih =>
    rw [totalAdvance, List.map_cons, List.sum_cons, ← totalAdvance] at h
    cases a with
    | advance delta =>
      rw [Action.delta] at h
      refine ⟨by rw [Within]; omega, fun s' hs' => ih ?_⟩
      cases hs'
      show s.advanced + delta.toNat + _ ≤ length
      omega
    | getDataBuffer bytesNeeded fault mapFault =>
      refine ⟨trivial, fun s' hs' => ih ?_⟩
      obtain ⟨r, -, rfl⟩ := Option.map_eq_some_iff.mp hs'
      rw [Action.delta, Nat.zero_add] at h
      exact h

/-- What a call returns. -/
theorem ndisGetDataBuffer_eq (nb : NetBuffer) (n : BitVec 32) (fault mapFault : Bool) :
    (ndisGetDataBuffer nb n fault mapFault).map Prod.snd =
      some (if NoAddress nb.mdlChain fault mapFault ∨ nb.mdlChain.byteCount < n then 0
        else mmGetMdlVirtualAddress nb.mdlChain) := by
  unfold ndisGetDataBuffer mmGetMdlByteCount
  cases fault with
  | true => simp [NoAddress]
  | false =>
    by_cases hn : n ≤ nb.mdlChain.byteCount
    · have hmap := mmGetSystemAddressForMdlSafe_eq nb.mdlChain mapFault
      rw [if_neg (by decide), if_pos hn, Option.map_map]
      refine hmap.trans ?_
      by_cases hva : mmGetMdlVirtualAddress nb.mdlChain = 0#64
      · simp [hva]
      · simp [NoAddress, hva, BitVec.not_lt.mpr hn]
    · simp [hn, BitVec.not_le.mp hn]

theorem ndisGetDataBuffer_mdl {nb : NetBuffer} {n : BitVec 32} {fault mapFault : Bool}
    {r : NetBuffer × Address} (h : ndisGetDataBuffer nb n fault mapFault = some r) :
    r.1.mdlChain = { nb.mdlChain with flags := r.1.mdlChain.flags } := by
  unfold ndisGetDataBuffer at h
  by_cases hfault : fault = true
  · rw [if_pos hfault] at h
    rw [← Option.some.inj h]
  · rw [if_neg hfault] at h
    by_cases hn : n ≤ mmGetMdlByteCount nb.mdlChain
    · rw [if_pos hn] at h
      obtain ⟨r', hr', rfl⟩ := Option.map_eq_some_iff.mp h
      exact mmGetSystemAddressForMdlSafe_mdl hr'
    · rw [if_neg hn] at h
      rw [← Option.some.inj h]

theorem inv_step {m : Mdl} {a : Action} (h : Inv m s) (hs : step s a = some s') : Inv m s' := by
  cases a with
  | advance delta =>
    cases hs
    refine ⟨h.startVa, h.byteCount, ?_⟩
    show s.netBuffer.mdlChain.byteOffset + delta = _
    rw [h.byteOffset, BitVec.add_assoc, BitVec.ofNat_add, BitVec.ofNat_toNat, BitVec.setWidth_eq]
  | getDataBuffer n fault mapFault =>
    obtain ⟨r, hr, rfl⟩ := Option.map_eq_some_iff.mp hs
    have hmdl := ndisGetDataBuffer_mdl hr
    refine ⟨?_, ?_, ?_⟩
    · show r.1.mdlChain.startVa = _
      rw [hmdl]
      exact h.startVa
    · show r.1.mdlChain.byteCount = _
      rw [hmdl]
      exact h.byteCount
    · show r.1.mdlChain.byteOffset = _
      rw [hmdl]
      exact h.byteOffset

theorem advanced_le {a : Action} (h : s.advanced ≤ length) (hc : Within length s a)
    (hs : step s a = some s') : s'.advanced ≤ length := by
  cases a with
  | advance delta =>
    cases hs
    exact hc
  | getDataBuffer n fault mapFault =>
    obtain ⟨r, -, rfl⟩ := Option.map_eq_some_iff.mp hs
    exact h

/-! ## The data start -/

/-- The data start as a number, unless the offset has come around. -/
theorem toNat_virtualAddress {m m' : Mdl} {n : Nat} (hstart : m'.startVa = m.startVa)
    (hoffset : m'.byteOffset = m.byteOffset + BitVec.ofNat 32 n) (hn : n < 2 ^ 32)
    (hfit : (mmGetMdlVirtualAddress m).toNat + n ≤ 2 ^ 64)
    (hnull : mmGetMdlVirtualAddress m' ≠ 0) :
    (mmGetMdlVirtualAddress m').toNat = (mmGetMdlVirtualAddress m).toNat + n ↔
      m.byteOffset.toNat + n < 2 ^ 32 := by
  have hoff : m'.byteOffset.toNat = (m.byteOffset.toNat + n) % 2 ^ 32 := by
    rw [hoffset, BitVec.toNat_add, BitVec.toNat_ofNat, Nat.add_mod_mod]
  have hva : ∀ x : Mdl, (mmGetMdlVirtualAddress x).toNat =
      (x.startVa.toNat + x.byteOffset.toNat) % 2 ^ 64 := by
    intro x
    rw [mmGetMdlVirtualAddress, BitVec.toNat_add, BitVec.toNat_setWidth, Nat.add_mod_mod]
  have hpos : (mmGetMdlVirtualAddress m').toNat ≠ 0 := fun h => hnull (BitVec.eq_of_toNat_eq h)
  have hlt := m.byteOffset.isLt
  have hlt' := m.startVa.isLt
  rw [hva, hstart, hoff] at hpos
  rw [hva] at hfit
  rw [hva, hva, hstart, hoff]
  omega

/-- One call. -/
theorem inside_iff_fits {m : Mdl} {a : Action} (h : Inv m s) (hlength : m.byteCount.toNat = length)
    (hadvanced : s.advanced ≤ length)
    (hfit : (mmGetMdlVirtualAddress m).toNat + length ≤ 2 ^ 64) :
    Inside (mmGetMdlVirtualAddress m) length s a ↔ Fits m.byteOffset.toNat length s a := by
  cases a with
  | advance delta => exact Iff.rfl
  | getDataBuffer n fault mapFault =>
    have hresult := ndisGetDataBuffer_eq s.netBuffer n fault mapFault
    obtain ⟨r, hr, hp⟩ := Option.map_eq_some_iff.mp hresult
    have hinside : Inside (mmGetMdlVirtualAddress m) length s (.getDataBuffer n fault mapFault) ↔
        (r.2 ≠ 0 → r.2.toNat = (mmGetMdlVirtualAddress m).toNat + s.advanced ∧
          (mmGetMdlVirtualAddress m).toNat ≤ r.2.toNat ∧
          r.2.toNat + n.toNat ≤ (mmGetMdlVirtualAddress m).toNat + length) ∧
        (length < s.advanced + n.toNat → r.2 = 0) := by
      rw [Inside, hr]
      simp
    rw [hinside, Fits]
    by_cases hno : NoAddress s.netBuffer.mdlChain fault mapFault
    · rw [if_pos (.inl hno)] at hp
      simp [hp, hno]
    · by_cases hn : length < n.toNat
      · have hlt : s.netBuffer.mdlChain.byteCount < n := by
          rw [h.byteCount, BitVec.lt_def, hlength]
          exact hn
        rw [if_pos (.inr hlt)] at hp
        simp [hp, hn]
      · have hge : ¬ s.netBuffer.mdlChain.byteCount < n := by
          rw [h.byteCount, BitVec.lt_def, hlength]
          exact hn
        rw [if_neg (not_or.mpr ⟨hno, hge⟩)] at hp
        have hnull : mmGetMdlVirtualAddress s.netBuffer.mdlChain ≠ 0 := fun h => hno (.inr (.inr h))
        have hcount := m.byteCount.isLt
        have hva := toNat_virtualAddress h.startVa h.byteOffset (by omega) (by omega) hnull
        rw [hp, ← hva]
        simp only [hnull, ne_eq, not_false_eq_true, true_implies, imp_false, not_lt, hno, hn,
          false_or]
        omega

/--
For every packet over an MDL that describes the `length` bytes from its virtual address on, and
every sequence of calls whose advances sum up to no more: every call stays inside if and only if
every NdisGetDataBuffer gets no address, asks for more than the MDL ever had, or for what is left,
while the offset fits in its 32 bits.
-/
theorem data_inside_iff (nb : NetBuffer) (as : List Action)
    (hfit : (mmGetMdlVirtualAddress nb.mdlChain).toNat + nb.mdlChain.byteCount.toNat ≤ 2 ^ 64)
    (hsum : totalAdvance as ≤ nb.mdlChain.byteCount.toNat) :
    Guarded step (Inside (mmGetMdlVirtualAddress nb.mdlChain) nb.mdlChain.byteCount.toNat)
      ⟨nb, 0⟩ as ↔
      Guarded step (Fits nb.mdlChain.byteOffset.toNat nb.mdlChain.byteCount.toNat) ⟨nb, 0⟩ as := by
  have hwithin : Guarded step (Within nb.mdlChain.byteCount.toNat) ⟨nb, 0⟩ as :=
    within_of_totalAdvance (by simpa using hsum)
  refine guarded_iff_of_contract (P := fun s => Inv nb.mdlChain s ∧
    s.advanced ≤ nb.mdlChain.byteCount.toNat) ?_ ?_ ⟨⟨rfl, rfl, ?_⟩, Nat.zero_le _⟩ hwithin
  · intro s a h _
    exact inside_iff_fits h.1 rfl h.2 hfit
  · intro s a s' h hc _ hs
    exact ⟨inv_step h.1 hs, advanced_le h.2 hc hs⟩
  · simp

/-- A packet of 64 bytes. -/
def packet : NetBuffer where
  dataLength := 64
  mdlChain := mmInitializeMdl 0x10000 64

/-- All of the packet, and what is left behind its first 16 bytes. -/
theorem data_inside_iff_headerRead :
    Guarded step (Inside (mmGetMdlVirtualAddress packet.mdlChain) packet.mdlChain.byteCount.toNat)
      ⟨packet, 0⟩
      [.getDataBuffer 64 false false, .advance 16, .getDataBuffer 48 false false] :=
  (data_inside_iff packet _ (by decide) (by decide)).mpr (guarded_of_check (by decide))

/-- Behind the first 16 bytes, 64 bytes are handed out: 16 of them are not in the buffer. -/
theorem data_behind_end :
    totalAdvance [.advance 16, .getDataBuffer 64 false false] ≤ packet.mdlChain.byteCount.toNat ∧
      (ndisGetDataBuffer (ndisAdvanceNetBufferDataStart packet 16) 64 false false).map Prod.snd =
        some 0x10010 ∧
      ¬ Guarded step (Inside (mmGetMdlVirtualAddress packet.mdlChain)
        packet.mdlChain.byteCount.toNat) ⟨packet, 0⟩
        [.advance 16, .getDataBuffer 64 false false] := by
  refine ⟨by decide, by decide, fun h => ?_⟩
  have hnull := ((h.2 _ rfl).1 _ rfl).2 (by decide)
  exact absurd hnull (by decide)

end Usersim.Ndis
