import Usersim.Memory.Sequential

/-!
# Headers in front of the blocks

`cxplat_allocate` writes the header of a block, and `cxplat_reallocate` lets the system copy it. The
flags and the tag stay right that way; the size is that of the allocation, whatever the block is
resized to, and `cxplat_reallocate` asserts it to be the old size.

What a header should say is known to the callers (`Ledger`), who pass it back: the size the block
has, the flags it was allocated with, its tag or 0.

* `headers_truthful_iff` — the headers say what the callers know just when no reallocate changes
  the size of a block
-/

namespace Usersim.Memory

open Lib

/-- What the callers know of the block behind a pointer: its flags, its tag and its size now. -/
abbrev Ledger := Nat → Option Header

def Ledger.next (limit : Nat) (l : Ledger) : Action → Ledger
  | .allocate _ args =>
    match args.reply with
    | none => l
    | some start =>
      if args.size = 0 || limit < args.size || args.injectFault then l
      else
        Function.update l (args.block start).pointer
          (some { poolFlags := args.poolFlags, tag := args.tag, size := args.size })
  | .reallocate _ args =>
    match args.reply with
    | none => l
    | some start =>
      Function.update (Function.update l args.block.pointer none) (args.moved start).pointer
        ((l args.block.pointer).map fun known => { known with size := args.newSize })
  | .free _ args => Function.update l args.block.pointer none
  | .register _ | .unregister _ | .freeBlock _ => l

/-- The callers pass what they know, and a reallocate succeeds. -/
def Ledger.allows (limit : Nat) (l : Ledger) : Action → Bool
  | .allocate .. => true
  | .reallocate _ args =>
    ((l args.block.pointer).any fun known =>
      known.size == args.oldSize && known.agrees args.poolFlags args.tag) &&
    !(limit < args.newSize || args.injectFault) && args.reply.isSome
  | .free _ args =>
    (l args.block.pointer).any fun known => known.agrees args.poolFlags args.tag
  | .register _ | .unregister _ | .freeBlock _ => false

/-- A call of callers that keep to their ledger. -/
def ledgerCall (limit : Nat) (x : State × Ledger) (a : Action) : Option (State × Ledger) :=
  if x.2.allows limit a then (call limit x.1 a).map fun s => (s, x.2.next limit a) else none

def State.start : State × Ledger := (State.init, fun _ => none)

/-- The header in front of every block says what is known of the block. -/
def Truthful (l : Ledger) (blocks : List Block) : Prop :=
  ∀ b ∈ blocks, l b.pointer = some b.header

/-- The call leaves truthful headers, and a reallocate or a free fails no assertion on a header. -/
def KeepsHeaders (limit : Nat) (x : State × Ledger) (a : Action) : Prop :=
  ∀ y, ledgerCall limit x a = some y →
    Truthful y.2 y.1.heap ∧ ((∀ t args, a ≠ .allocate t args) → y.1.terminated = false)

/-- A reallocate does not change the size of the block. -/
def KeepsSize : Action → Prop
  | .reallocate _ args => args.newSize = args.oldSize
  | .allocate .. | .free .. | .register _ | .unregister _ | .freeBlock _ => True

instance (a : Action) : Decidable (KeepsSize a) :=
  match a with
  | .reallocate .. => inferInstanceAs (Decidable (_ = _))
  | .allocate .. | .free .. | .register _ | .unregister _ | .freeBlock _ => isTrue trivial

variable {limit : Nat} {s s' : State} {l : Ledger} {t : Tid} {b : Block} {x y : State × Ledger}

theorem ledgerCall_eq_some {a : Action} (h : ledgerCall limit x a = some y) :
    x.2.allows limit a = true ∧ call limit x.1 a = some y.1 ∧ y.2 = x.2.next limit a := by
  simp only [ledgerCall, Option.ite_none_right_eq_some] at h
  obtain ⟨hallows, hmap⟩ := h
  obtain ⟨s, hs, rfl⟩ := Option.map_eq_some_iff.mp hmap
  exact ⟨hallows, hs, rfl⟩

/-! ## The entries of the other blocks -/

/-- A new block gets an entry, and those of the others stay. -/
theorem Truthful.insert_iff {owned : List Block} {known : Header} (hl : Truthful l owned)
    (hfits : b.fits owned = true) :
    Truthful (Function.update l b.pointer (some known)) (b :: owned) ↔ known = b.header := by
  rw [Truthful, List.forall_mem_cons, Function.update_self, Option.some.injEq]
  refine and_iff_left fun c hc => ?_
  have hne : c.pointer ≠ b.pointer := fun heq =>
    pointer_notMem_of_fits hfits (List.mem_map.mpr ⟨c, hc, heq⟩)
  rw [Function.update_of_ne hne]
  exact hl c hc

theorem Truthful.erase (hl : Truthful l s.owned) (hs : Settled s) (hb : b ∈ s.owned) :
    Truthful (Function.update l b.pointer none) (s.owned.erase b) := by
  intro c hc
  obtain ⟨hmem, hne⟩ := (hs.mem_erase_iff hb c).mp hc
  rw [Function.update_of_ne hne]
  exact hl c hmem

/-! ## The calls -/

theorem truthful_allocate {args : AllocateArgs} (hs : Settled s) (hterm : s.terminated = false)
    (hl : Truthful l s.owned) (h : call limit s (.allocate t args) = some s') :
    Truthful (l.next limit (.allocate t args)) s'.owned := by
  rw [call_allocate hs hterm] at h
  rw [Ledger.next]
  cases hreply : args.reply with
  | none =>
    have hsame : s'.owned = s.owned := by
      rw [hreply] at h
      split at h
      · cases h
        rfl
      · split at h
        · cases h
          rfl
        · cases h
          rfl
    rw [hsame]
    exact hl
  | some start =>
    rw [hreply] at h
    split at h
    · rename_i hzero
      cases h
      simpa [hzero] using hl
    · rename_i hpos
      split at h
      · rename_i hrejected
        cases h
        simp only [Bool.or_assoc, hrejected, Bool.or_true, if_true]
        exact hl
      · rename_i hok
        simp only [Option.ite_none_right_eq_some, Option.some.injEq] at h
        obtain ⟨hfits, rfl⟩ := h
        simp only [hok, hpos, decide_false, Bool.false_or]
        exact (hl.insert_iff hfits).mpr rfl

/-- A free fails no assertion on a header. -/
theorem truthful_free {args : FreeArgs} (hs : Settled s) (hterm : s.terminated = false)
    (hl : Truthful l s.owned) (hallows : l.allows limit (.free t args) = true)
    (h : call limit s (.free t args) = some s') :
    Truthful (l.next limit (.free t args)) s'.owned ∧ s'.terminated = false := by
  rw [call_free hs hterm] at h
  simp only [Option.ite_none_right_eq_some] at h
  obtain ⟨hb, h⟩ := h
  have hagrees : args.block.header.agrees args.poolFlags args.tag = true := by
    rwa [Ledger.allows, hl _ hb, Option.any_some] at hallows
  rw [if_neg (by simp [hagrees])] at h
  cases h
  exact ⟨hl.erase hs hb, hterm⟩

/-- A reallocate fails none either, and copies a header that is truthful if the size is the same. -/
theorem truthful_reallocate {args : ReallocateArgs} (hs : Settled s) (hterm : s.terminated = false)
    (hl : Truthful l s.owned) (hallows : l.allows limit (.reallocate t args) = true)
    (h : call limit s (.reallocate t args) = some s') :
    s'.terminated = false ∧
      (Truthful (l.next limit (.reallocate t args)) s'.owned ↔ args.newSize = args.oldSize) := by
  rw [call_reallocate hs hterm] at h
  simp only [Option.ite_none_right_eq_some] at h
  obtain ⟨hb, h⟩ := h
  rw [Ledger.allows, hl _ hb, Option.any_some] at hallows
  simp only [Bool.and_eq_true, beq_iff_eq, Bool.not_eq_true'] at hallows
  obtain ⟨⟨⟨hsize, hagrees⟩, hok⟩, hreply⟩ := hallows
  obtain ⟨start, hstart⟩ := Option.isSome_iff_exists.mp hreply
  rw [if_neg (by rw [hok]; decide), if_neg (by simp [hsize, hagrees]), hstart] at h
  simp only [Option.ite_none_right_eq_some, Option.some.injEq] at h
  obtain ⟨hfits, rfl⟩ := h
  refine ⟨hterm, ?_⟩
  rw [Ledger.next, hstart]
  dsimp only
  rw [hl _ hb, Option.map_some, (hl.erase hs hb).insert_iff hfits, ← hsize]
  show ({ args.block.header with size := args.newSize } : Header) = args.block.header ↔ _
  exact ⟨fun h => congrArg Header.size h, fun h => by rw [h]⟩

/-- A reallocate that succeeds has got a block. -/
theorem systemMoves_of_allows {a : Action} (h : l.allows limit a = true) : SystemMoves limit a := by
  cases a with
  | reallocate t args =>
    rintro - - - hnone
    simp [Ledger.allows, hnone] at h
  | allocate t args | free t args | register t | unregister t | freeBlock t => trivial

/-! ## Sequences of calls -/

/-- Nothing is in progress, and the headers are truthful. -/
structure Known (x : State × Ledger) : Prop where
  settled : Settled x.1
  truthful : Truthful x.2 x.1.owned

theorem keepsHeaders_iff {a : Action} (hx : Known x) (h : ledgerCall limit x a = some y) :
    (KeepsHeaders limit x a ↔ KeepsSize a) ∧ (KeepsSize a → Known y) := by
  obtain ⟨hallows, hcall, hy⟩ := ledgerCall_eq_some h
  have hterm := terminated_of_call hcall
  have hs := settled_call hx.settled (systemMoves_of_allows hallows) hcall
  have hkeeps : KeepsHeaders limit x a ↔ Truthful (x.2.next limit a) y.1.owned ∧
      ((∀ t args, a ≠ .allocate t args) → y.1.terminated = false) := by
    rw [← hs.heap_eq, ← hy]
    refine ⟨fun hk => hk y h, fun hk y' hy' => ?_⟩
    obtain rfl : y = y' := Option.some.inj (h.symm.trans hy')
    exact hk
  rw [hkeeps]
  cases a with
  | allocate t args =>
    have hl := truthful_allocate hx.settled hterm hx.truthful hcall
    exact ⟨iff_of_true ⟨hl, fun hne => absurd rfl (hne t args)⟩ trivial, fun _ => ⟨hs, hy ▸ hl⟩⟩
  | reallocate t args =>
    obtain ⟨hrun, hl⟩ := truthful_reallocate hx.settled hterm hx.truthful hallows hcall
    refine ⟨?_, fun hsize => ⟨hs, hy ▸ hl.mpr hsize⟩⟩
    exact (and_iff_left fun _ => hrun).trans hl
  | free t args =>
    obtain ⟨hl, hrun⟩ := truthful_free hx.settled hterm hx.truthful hallows hcall
    exact ⟨iff_of_true ⟨hl, fun _ => hrun⟩ trivial, fun _ => ⟨hs, hy ▸ hl⟩⟩
  | register t | unregister t | freeBlock t => cases hallows

/--
Every sequence of calls by callers that pass what they know: the header in front of every block is
truthful after every call and no assertion on a header fails, if and only if no reallocate changes
the size of its block.
-/
theorem headers_truthful_iff (limit : Nat) (calls : List Action) (y : State × Ledger)
    (hrun : exec (ledgerCall limit) State.start calls = some y) :
    Guarded (ledgerCall limit) (KeepsHeaders limit) State.start calls ↔
      Guarded (ledgerCall limit) (fun _ a => KeepsSize a) State.start calls :=
  guarded_iff_of_exec (P := Known) (fun _ _ _ hx h => (keepsHeaders_iff hx h).1)
    (fun _ _ _ hx hsize h => (keepsHeaders_iff hx h).2 hsize)
    ⟨settled_init, fun _ hb => by cases hb⟩ hrun

/-- A block is moved without changing its size, and freed. -/
def movedThenFreed (t : Tid) : List Action :=
  [allocateCallAt t 0x1000, resizeAt t 0x1000 8 (some 0x2000),
    .free t { block := blockAt 0x2000, poolFlags := 0, tag := 0 }]

theorem headers_truthful_iff_movedThenFreed :
    ∃ y, exec (ledgerCall 1024) State.start (movedThenFreed 0) = some y ∧
      y.1.owned = [] ∧ y.1.terminated = false ∧
      Guarded (ledgerCall 1024) (KeepsHeaders 1024) State.start (movedThenFreed 0) := by
  obtain ⟨y, hy, h₁, h₂⟩ : ∃ y, exec (ledgerCall 1024) State.start (movedThenFreed 0) = some y ∧
      y.1.owned = [] ∧ y.1.terminated = false :=
    exec_of_check (by decide +kernel)
  have hg : Guarded (ledgerCall 1024) (fun _ a => KeepsSize a) State.start (movedThenFreed 0) :=
    guarded_of_check (by decide +kernel)
  exact ⟨y, hy, h₁, h₂, (headers_truthful_iff 1024 (movedThenFreed 0) y hy).mpr hg⟩

/-- A block grows from 8 to 32 bytes, and then to 64. -/
def grownTwice (t : Tid) : List Action :=
  [allocateCallAt t 0x1000, resizeAt t 0x1000 32 (some 0x2000),
    .reallocate t { block := { blockAt 0x2000 with size := 32 }, poolFlags := 0, oldSize := 32,
                    newSize := 64, tag := 0, injectFault := false, reply := some 0x3000 }]

/-- The second reallocate passes the right old size and fails the assertion on the header, which
still says 8. -/
theorem second_reallocate_asserts :
    (∃ y, exec (ledgerCall 1024) State.start (grownTwice 0) = some y ∧ y.1.terminated = true) ∧
    ¬ Guarded (ledgerCall 1024) (KeepsHeaders 1024) State.start (grownTwice 0) := by
  obtain ⟨y, hy, hterm⟩ : ∃ y, exec (ledgerCall 1024) State.start (grownTwice 0) = some y ∧
      y.1.terminated = true :=
    exec_of_check (by decide +kernel)
  refine ⟨⟨y, hy, hterm⟩, fun hg => ?_⟩
  have hkeeps := (hg.2 _ rfl).1 _ rfl
  have hheader := hkeeps.1 { blockAt 0x2000 with size := 32 } List.mem_cons_self
  cases hheader

end Usersim.Memory
