import Mathlib.Algebra.Group.Nat.Defs
import Usersim.Mm.Basic

/-!
# Probes (`mm.cpp`)

`ProbeForRead` and `ProbeForWrite` ask `VirtualQuery` for the protection of one byte, the last one
of the range, and test it with one mask. The addresses of a range are counted modulo 2^64.

* `probe_right_iff` — a probe is right unless the last byte speaks for the wrong pages
-/

namespace Usersim.Mm

/-- What a page may be used for, before any modifier. -/
inductive PageAccess where
  | noAccess
  | readOnly
  | readWrite
  | writeCopy
  | execute
  | executeRead
  | executeReadWrite
  | executeWriteCopy
deriving DecidableEq, Repr

/-- `PAGE_NOACCESS` to `PAGE_EXECUTE_WRITECOPY`. -/
def PageAccess.toWord : PageAccess → BitVec 32
  | .noAccess => 0x01
  | .readOnly => 0x02
  | .readWrite => 0x04
  | .writeCopy => 0x08
  | .execute => 0x10
  | .executeRead => 0x20
  | .executeReadWrite => 0x40
  | .executeWriteCopy => 0x80

def PageAccess.readable : PageAccess → Bool
  | .noAccess | .execute => false
  | _ => true

/-- A page that is copied on write is written to like any other. -/
def PageAccess.writable : PageAccess → Bool
  | .readWrite | .writeCopy | .executeReadWrite | .executeWriteCopy => true
  | _ => false

structure Protection where
  access : PageAccess
  guardPage : Bool
  noCache : Bool
  writeCombine : Bool
deriving DecidableEq, Repr

/-- `PAGE_GUARD`. -/
def pageGuard : BitVec 32 := 0x100

def Protection.toWord (p : Protection) : BitVec 32 :=
  p.access.toWord ||| (if p.guardPage then pageGuard else 0) |||
    (if p.noCache then 0x200 else 0) ||| (if p.writeCombine then 0x400 else 0)

/-- The pages by number; `none` is a page that nothing is committed to. -/
abbrev Pages := Nat → Option Protection

def pageOf (address : Address) : Nat := address.toNat / pageSize

/-- The `Protect` that `VirtualQuery` reports of an address. It is zero before the call, and stays
so if there is nothing. -/
def virtualQuery (pages : Pages) (address : Address) : BitVec 32 :=
  match pages (pageOf address) with
  | some p => p.toWord
  | none => 0

/-- How a probe ends. -/
inductive Probed where
  | returned
  /-- `ExRaiseDatatypeMisalignment`. -/
  | datatypeMisalignment
  /-- `ExRaiseAccessViolation`. -/
  | accessViolation
  /-- The alignment is zero. -/
  | divideByZero
deriving DecidableEq, Repr

def probeOk (protect : BitVec 32) : Bool := protect &&& 0xE6 != 0 && protect &&& pageGuard == 0

def probeForRead (pages : Pages) (address : Address) (length : BitVec 64)
    (alignment : BitVec 32) : Probed :=
  if alignment = 0 then .divideByZero
  else if address % alignment.setWidth 64 ≠ 0 then .datatypeMisalignment
  else if probeOk (virtualQuery pages (address + length - 1)) then .returned
  else .accessViolation

def probeForWrite (pages : Pages) (address : Address) (length : BitVec 64)
    (alignment : BitVec 32) : Probed :=
  probeForRead pages address length alignment

/-! ## What probes are for -/

inductive ProbeKind where
  | read
  | write
deriving DecidableEq, Repr

def ProbeKind.probe : ProbeKind → Pages → Address → BitVec 64 → BitVec 32 → Probed
  | .read => probeForRead
  | .write => probeForWrite

def ProbeKind.allowed : ProbeKind → PageAccess → Bool
  | .read => PageAccess.readable
  | .write => PageAccess.writable

/-- An access of the kind to the page goes through. -/
def Accessible (kind : ProbeKind) (pages : Pages) (page : Nat) : Prop :=
  ∃ p, pages page = some p ∧ kind.allowed p.access = true ∧ p.guardPage = false

/-- A byte of the range is on the page. -/
def Touches (address : Address) (length : BitVec 64) (page : Nat) : Prop :=
  ∃ i < length.toNat, pageOf (address + BitVec.ofNat 64 i) = page

def Aligned (address : Address) (alignment : BitVec 32) : Prop :=
  alignment.toNat ∣ address.toNat

/-- The outcome that a range deserves. -/
structure ProbeLaw (result : Probed) (aligned accessible : Prop) : Prop where
  returned_iff : result = .returned ↔ aligned ∧ accessible
  misaligned : ¬ aligned → result = .datatypeMisalignment
  inaccessible : aligned → ¬ accessible → result = .accessViolation

def ProbesRight (kind : ProbeKind) (pages : Pages) (address : Address) (length : BitVec 64)
    (alignment : BitVec 32) : Prop :=
  ProbeLaw (kind.probe pages address length alignment) (Aligned address alignment)
    (∀ page, Touches address length page → Accessible kind pages page)

/-- The mask accepts the page of the byte that is looked at. -/
def LastByteOk (pages : Pages) (address : Address) (length : BitVec 64) : Prop :=
  probeOk (virtualQuery pages (address + length - 1)) = true

/-- The ranges on which the last byte misleads. -/
inductive Misjudged (kind : ProbeKind) (pages : Pages) (address : Address) (length : BitVec 64) :
    Prop where
  /-- The byte in front of an empty range counts. -/
  | empty (hlength : length = 0) (hlast : ¬ LastByteOk pages address length)
  /-- The mask accepts the last page, but not every page may be accessed like this: an earlier one,
  or for writing also the last one. -/
  | lenient (hlength : length ≠ 0) (hlast : LastByteOk pages address length) (page : Nat)
      (htouches : Touches address length page) (hpage : ¬ Accessible kind pages page)
  /-- `PAGE_WRITECOPY` is not in the mask. -/
  | writeCopy (hlength : length ≠ 0) (p : Protection)
      (hlast : pages (pageOf (address + length - 1)) = some p) (hp : p.access = .writeCopy)
      (hall : ∀ page, Touches address length page → Accessible kind pages page)

variable {kind : ProbeKind} {pages : Pages} {address : Address} {length : BitVec 64}
  {alignment : BitVec 32}

theorem probeOk_toWord (p : Protection) :
    probeOk p.toWord = (p.access.readable && p.access != .writeCopy && !p.guardPage) := by
  obtain ⟨access, guardPage, noCache, writeCombine⟩ := p
  cases access <;> cases guardPage <;> cases noCache <;> cases writeCombine <;> rfl

theorem ProbeKind.readable_of_allowed {a : PageAccess} (h : kind.allowed a = true) :
    a.readable = true := by
  cases kind with
  | read => exact h
  | write => cases a <;> first | rfl | simp [allowed, PageAccess.writable] at h

/-- A range that is not empty has its last byte. -/
theorem touches_last (h : length ≠ 0) : Touches address length (pageOf (address + length - 1)) := by
  have hpos : 0 < length.toNat := Nat.pos_of_ne_zero fun h0 => h (BitVec.eq_of_toNat_eq h0)
  refine ⟨length.toNat - 1, by omega, congrArg pageOf (BitVec.eq_of_toNat_eq ?_)⟩
  have hone : (1 : BitVec 64).toNat = 1 := rfl
  simp only [BitVec.toNat_add, BitVec.toNat_sub, BitVec.toNat_ofNat, hone]
  have hlength := length.isLt
  omega

/-- The pages of a range that does not run over the end of the address space are those from its
first byte to its last one. -/
theorem touches_iff {page : Nat} (h : address.toNat + length.toNat ≤ 2 ^ 64) :
    Touches address length page ↔ length ≠ 0 ∧ address.toNat / pageSize ≤ page ∧
      page ≤ (address.toNat + length.toNat - 1) / pageSize := by
  have hbyte : ∀ i < length.toNat,
      pageOf (address + BitVec.ofNat 64 i) = (address.toNat + i) / pageSize := by
    intro i hi
    rw [pageOf, BitVec.toNat_add, BitVec.toNat_ofNat]
    congr 1
    omega
  have hsize : pageSize = 4096 := rfl
  constructor
  · rintro ⟨i, hi, rfl⟩
    have hne : length ≠ 0 := by
      rintro rfl
      exact absurd hi (Nat.not_lt_zero i)
    rw [hbyte i hi]
    exact ⟨hne, Nat.div_le_div_right (by omega), Nat.div_le_div_right (by omega)⟩
  · rintro ⟨hne, hfirst, hlast⟩
    have hpos : 0 < length.toNat := Nat.pos_of_ne_zero fun h0 => hne (BitVec.eq_of_toNat_eq h0)
    -- the first byte of the page, or that of the range
    have hi : page * pageSize - address.toNat < length.toNat := by
      rw [Nat.le_div_iff_mul_le (by decide)] at hlast
      omega
    refine ⟨page * pageSize - address.toNat, hi, ?_⟩
    rw [hbyte _ hi]
    rw [hsize] at *
    omega

/-- The last page of an accessible range is refused only if it is copied on write. -/
theorem lastByteOk_of_accessible
    (h : Accessible kind pages (pageOf (address + length - 1)))
    (hcopy : ∀ p, pages (pageOf (address + length - 1)) = some p → p.access ≠ .writeCopy) :
    LastByteOk pages address length := by
  obtain ⟨p, hp, hallowed, hguard⟩ := h
  rw [LastByteOk, virtualQuery, hp]
  simp [probeOk_toWord, kind.readable_of_allowed hallowed, hguard, hcopy p hp]

theorem not_lastByteOk_of_writeCopy {p : Protection}
    (hlast : pages (pageOf (address + length - 1)) = some p) (hp : p.access = .writeCopy) :
    ¬ LastByteOk pages address length := by
  rw [LastByteOk, virtualQuery, hlast]
  simp [probeOk_toWord, hp]

/-- What an aligned probe has to return, and what it returns. -/
theorem probeLaw_iff {result : Probed} {accessible : Prop} {ok : Bool}
    (hresult : result = if ok then .returned else .accessViolation) :
    ProbeLaw result True accessible ↔ (ok = true ↔ accessible) := by
  subst hresult
  have hreturned : (if ok then Probed.returned else .accessViolation) = .returned ↔ ok = true := by
    cases ok <;> decide
  constructor
  · intro h
    rw [← hreturned, h.returned_iff, true_and]
  · intro h
    refine ⟨by rw [hreturned, h, true_and], by simp, fun _ hnot => ?_⟩
    rw [if_neg (mt h.mp hnot)]

theorem aligned_iff :
    Aligned address alignment ↔ address % alignment.setWidth 64 = 0 := by
  rw [Aligned, Nat.dvd_iff_mod_eq_zero, ← BitVec.toNat_inj, BitVec.toNat_umod,
    BitVec.toNat_setWidth]
  have hlt := alignment.isLt
  rw [Nat.mod_eq_of_lt (show alignment.toNat < 2 ^ 64 by omega)]
  rfl

/-- The protection of the last page decides correctly unless it misleads. -/
theorem lastByteOk_iff_of_not_misjudged :
    (LastByteOk pages address length ↔
      ∀ page, Touches address length page → Accessible kind pages page) ↔
        ¬ Misjudged kind pages address length := by
  constructor
  · intro h hmisjudged
    cases hmisjudged with
    | empty hlength hlast =>
      subst hlength
      exact hlast (h.mpr fun page ⟨i, hi, _⟩ => absurd hi (Nat.not_lt_zero i))
    | lenient _ hlast page htouches hpage => exact hpage (h.mp hlast page htouches)
    | writeCopy _ p hlast hp hall => exact not_lastByteOk_of_writeCopy hlast hp (h.mpr hall)
  · intro h
    by_cases hlength : length = 0
    · have hlast : LastByteOk pages address length := by
        by_contra hnot
        exact h (.empty hlength hnot)
      subst hlength
      exact ⟨fun _ page ⟨i, hi, _⟩ => absurd hi (Nat.not_lt_zero i), fun _ => hlast⟩
    · constructor
      · intro hlast page htouches
        by_contra hpage
        exact h (.lenient hlength hlast page htouches hpage)
      · intro hall
        refine lastByteOk_of_accessible (hall _ (touches_last hlength)) fun p hp hcopy => ?_
        exact h (.writeCopy hlength p hp hcopy hall)

/--
For every assignment of protections, every range and every alignment: a probe is right if and only
if the range is not aligned, or its last byte does not mislead.
-/
theorem probe_right_iff (kind : ProbeKind) (pages : Pages) (address : Address)
    (length : BitVec 64) (alignment : BitVec 32) (h : alignment ≠ 0) :
    ProbesRight kind pages address length alignment ↔
      (Aligned address alignment → ¬ Misjudged kind pages address length) := by
  have hprobe : kind.probe pages address length alignment =
      probeForRead pages address length alignment := by
    cases kind <;> rfl
  rw [ProbesRight, hprobe]
  by_cases haligned : Aligned address alignment
  · have hresult : probeForRead pages address length alignment =
        if probeOk (virtualQuery pages (address + length - 1)) then .returned
        else .accessViolation := by
      rw [probeForRead, if_neg h, if_neg (not_not.mpr (aligned_iff.mp haligned))]
    rw [eq_true haligned, probeLaw_iff hresult, ← lastByteOk_iff_of_not_misjudged]
    exact ⟨fun hlaw _ => hlaw, fun hlaw => hlaw trivial⟩
  · have hresult : probeForRead pages address length alignment = .datatypeMisalignment := by
      rw [probeForRead, if_neg h, if_pos (mt aligned_iff.mpr haligned)]
    rw [hresult]
    refine iff_of_true ⟨?_, fun _ => rfl, fun ha => absurd ha haligned⟩ fun ha => absurd ha haligned
    simp [haligned]

/-- A page for reading and, behind it, one for writing too. -/
def readThenWrite : Pages := fun page =>
  if page = 1 then some ⟨.readOnly, false, false, false⟩
  else if page = 2 then some ⟨.readWrite, false, true, false⟩
  else none

/-- Eight bytes on each of them can be read. -/
theorem probe_right_twoPages :
    probeForRead readThenWrite 0x1ff8 16 8 = .returned ∧
      ProbesRight .read readThenWrite 0x1ff8 16 8 := by
  refine ⟨by decide, (probe_right_iff .read readThenWrite 0x1ff8 16 8 (by decide)).mpr ?_⟩
  intro _ hmisjudged
  have hpages : ∀ i < 16, pageOf (0x1ff8 + BitVec.ofNat 64 i) = 1 ∨
      pageOf (0x1ff8 + BitVec.ofNat 64 i) = 2 := by decide
  cases hmisjudged with
  | empty hlength _ => exact absurd hlength (by decide)
  | lenient _ _ page htouches hnot =>
    obtain ⟨i, hi, rfl⟩ := htouches
    refine hnot ?_
    rcases hpages i hi with hpage | hpage
    · rw [hpage]
      exact ⟨_, rfl, rfl, rfl⟩
    · rw [hpage]
      exact ⟨_, rfl, rfl, rfl⟩
  | writeCopy _ p hlast hp _ =>
    obtain rfl : ⟨.readWrite, false, true, false⟩ = p := Option.some.inj hlast
    exact absurd hp (by decide)

/-- Eight bytes on a page that is only for reading pass as writable, and so do two pages for reading
of which the first is not there. -/
theorem probe_wrong_readOnly :
    let readOnly : Protection := ⟨.readOnly, false, false, false⟩
    let pages : Pages := fun page => if page = 0 then none else some readOnly
    (probeForWrite pages 0x1000 8 8 = .returned ∧ ¬ ProbesRight .write pages 0x1000 8 8) ∧
      probeForRead pages 0xff8 16 8 = .returned ∧ ¬ ProbesRight .read pages 0xff8 16 8 := by
  intro readOnly pages
  refine ⟨⟨by decide, fun h => ?_⟩, by decide, fun h => ?_⟩
  · obtain ⟨p, hp, hwritable, -⟩ := (h.returned_iff.mp (by decide)).2 1 ⟨0, by decide, by decide⟩
    obtain rfl : readOnly = p := Option.some.inj hp
    exact absurd hwritable (by decide)
  · obtain ⟨p, hp, -⟩ := (h.returned_iff.mp (by decide)).2 0 ⟨0, by decide, by decide⟩
    simp [pages] at hp

end Usersim.Mm
