import Mathlib.Algebra.Group.Nat.Defs
import Mathlib.Data.List.Infix
import Usersim.Lib.Text

/-!
# What is thrown (`ke.cpp`, `ex.cpp`, `rtl.cpp`)

A bug check, like an exception that is raised, is a C++ exception, and a test that catches it has
only its text. `readBugCheck` is what the text of a bug check says; the tests read the status of
another exception as a number (`readStatus`).

The status constants are signed or unsigned, after the header that defines them; the text has their
sign.

* `readBugCheck_eq_some` — the text of a bug check is read as it, and no other text is
* `exceptions_told_apart` — from its text, a caller that catches an exception knows what was called
-/

namespace Usersim.Ex

open Lib

/-! ## Bug checks -/

structure BugCheck where
  code : BitVec 32
  parameter1 : BitVec 64
  parameter2 : BitVec 64
  parameter3 : BitVec 64
  parameter4 : BitVec 64
deriving DecidableEq, Repr

/-- What a call throws is its text. -/
abbrev Thrown := Except (List Char) Unit

def usersimThrowException (message : List Char) : Thrown := .error message

/-- `{:#010x}` and `{:#018x}`; the prefix counts. -/
def alternateHex (width n : Nat) : List Char := "0x".toList ++ zeroPadded (width - 2) n

def keBugCheckExCPP (b : BugCheck) : Thrown :=
  usersimThrowException <|
    "*** STOP ".toList ++ alternateHex 10 b.code.toNat ++
    " (".toList ++ alternateHex 18 b.parameter1.toNat ++
    ",".toList ++ alternateHex 18 b.parameter2.toNat ++
    ",".toList ++ alternateHex 18 b.parameter3.toNat ++
    ",".toList ++ alternateHex 18 b.parameter4.toNat ++ ")".toList

def keBugCheckEx (b : BugCheck) : Thrown := keBugCheckExCPP b

def keBugCheckCPP (code : BitVec 32) : Thrown := keBugCheckExCPP ⟨code, 0, 0, 0, 0⟩

def keBugCheck (code : BitVec 32) : Thrown := keBugCheckEx ⟨code, 0, 0, 0, 0⟩

def rtlAssertCPP (lineNumber : BitVec 32) : Thrown :=
  keBugCheckEx ⟨0, lineNumber.setWidth 64, 0, 0, 0⟩

/-! ## Exceptions that are raised -/

def statusAccessViolation : BitVec 32 := 0xC0000005

def statusDatatypeMisalignment : BitVec 32 := 0x80000002

def statusText (signed : Bool) (status : BitVec 32) : List Char :=
  "Exception: ".toList ++ decimalInt (if signed then status.toInt else status.toNat) ++ ['\n']

def exRaiseAccessViolationCPP (signed : Bool) : Thrown :=
  usersimThrowException (statusText signed statusAccessViolation)

def exRaiseDatatypeMisalignmentCPP (signed : Bool) : Thrown :=
  usersimThrowException (statusText signed statusDatatypeMisalignment)

/-- The functions that do nothing but throw. -/
inductive FatalCall where
  | keBugCheck (code : BitVec 32)
  | keBugCheckCPP (code : BitVec 32)
  | keBugCheckEx (b : BugCheck)
  | keBugCheckExCPP (b : BugCheck)
  | rtlAssert (lineNumber : BitVec 32)
  | exRaiseAccessViolation
  | exRaiseDatatypeMisalignment
deriving DecidableEq, Repr

def FatalCall.thrown (signed : Bool) : FatalCall → Thrown
  | .keBugCheck code => Ex.keBugCheck code
  | .keBugCheckCPP code => Ex.keBugCheckCPP code
  | .keBugCheckEx b => Ex.keBugCheckEx b
  | .keBugCheckExCPP b => Ex.keBugCheckExCPP b
  | .rtlAssert lineNumber => rtlAssertCPP lineNumber
  | .exRaiseAccessViolation => exRaiseAccessViolationCPP signed
  | .exRaiseDatatypeMisalignment => exRaiseDatatypeMisalignmentCPP signed

/-- The bug check it is, or the status it raises. -/
def FatalCall.reason : FatalCall → BugCheck ⊕ BitVec 32
  | .keBugCheck code | .keBugCheckCPP code => .inl ⟨code, 0, 0, 0, 0⟩
  | .keBugCheckEx b | .keBugCheckExCPP b => .inl b
  | .rtlAssert lineNumber => .inl ⟨0, lineNumber.setWidth 64, 0, 0, 0⟩
  | .exRaiseAccessViolation => .inr statusAccessViolation
  | .exRaiseDatatypeMisalignment => .inr statusDatatypeMisalignment

/-! ## Reading -/

/-- A number of `width` digits with its prefix. -/
def readAlternateHex (width : Nat) (before : List Char) (text : List Char) :
    Option (Nat × List Char) :=
  ((before ++ "0x".toList).isPrefixOf? text).bind (readHexDigits width)

def readBugCheck (text : List Char) : Option BugCheck := do
  let (code, text) ← readAlternateHex 8 "*** STOP ".toList text
  let (parameter1, text) ← readAlternateHex 16 " (".toList text
  let (parameter2, text) ← readAlternateHex 16 ",".toList text
  let (parameter3, text) ← readAlternateHex 16 ",".toList text
  let (parameter4, text) ← readAlternateHex 16 ",".toList text
  if text = ")".toList then
    some ⟨.ofNat 32 code, .ofNat 64 parameter1, .ofNat 64 parameter2, .ofNat 64 parameter3,
      .ofNat 64 parameter4⟩
  else none

/-- `(ULONG)_atoi64(message + strlen("Exception: "))`. -/
def readStatus (message : List Char) : BitVec 32 :=
  .ofInt 32 (atoi64 (message.drop "Exception: ".length))

def readReason (text : List Char) : BugCheck ⊕ BitVec 32 :=
  match readBugCheck text with
  | some b => .inl b
  | none => .inr (readStatus text)

/-! ## What is read is what was thrown -/

theorem alternateHex_eq {width n : Nat} (hwidth : 2 < width) (hn : n < 16 ^ (width - 2)) :
    alternateHex width n = "0x".toList ++ hexDigits (width - 2) n := by
  rw [alternateHex, zeroPadded_eq_hexDigits (by omega) hn]

theorem readAlternateHex_eq_some {width n : Nat} {before text rest : List Char}
    (hwidth : 0 < width) :
    readAlternateHex width before text = some (n, rest) ↔
      n < 16 ^ width ∧ text = before ++ alternateHex (width + 2) n ++ rest := by
  unfold readAlternateHex
  rw [Option.bind_eq_some_iff]
  constructor
  · rintro ⟨digits, hprefix, hdigits⟩
    obtain ⟨hn, rfl⟩ := readHexDigits_eq_some.mp hdigits
    rw [List.isPrefixOf?_eq_some_iff_append_eq] at hprefix
    refine ⟨hn, ?_⟩
    rw [alternateHex_eq (by omega) hn, ← hprefix]
    simp
  · rintro ⟨hn, rfl⟩
    refine ⟨hexDigits width n ++ rest, ?_, readHexDigits_eq_some.mpr ⟨hn, rfl⟩⟩
    rw [List.isPrefixOf?_eq_some_iff_append_eq, alternateHex_eq (by omega) hn]
    simp

/-- The text of a bug check is read as it, and no other text is. -/
theorem readBugCheck_eq_some {text : List Char} {b : BugCheck} :
    readBugCheck text = some b ↔ keBugCheckExCPP b = .error text := by
  have hcode := b.code.isLt
  have hone := b.parameter1.isLt
  have htwo := b.parameter2.isLt
  have hthree := b.parameter3.isLt
  have hfour := b.parameter4.isLt
  constructor
  · intro h
    obtain ⟨⟨code, text₁⟩, h₁, h⟩ := Option.bind_eq_some_iff.mp h
    obtain ⟨⟨one, text₂⟩, h₂, h⟩ := Option.bind_eq_some_iff.mp h
    obtain ⟨⟨two, text₃⟩, h₃, h⟩ := Option.bind_eq_some_iff.mp h
    obtain ⟨⟨three, text₄⟩, h₄, h⟩ := Option.bind_eq_some_iff.mp h
    obtain ⟨⟨four, text₅⟩, h₅, h⟩ := Option.bind_eq_some_iff.mp h
    dsimp only at h
    split at h
    · rename_i hend
      obtain rfl := Option.some.inj h
      obtain ⟨hlt₁, rfl⟩ := (readAlternateHex_eq_some (by decide)).mp h₁
      obtain ⟨hlt₂, rfl⟩ := (readAlternateHex_eq_some (by decide)).mp h₂
      obtain ⟨hlt₃, rfl⟩ := (readAlternateHex_eq_some (by decide)).mp h₃
      obtain ⟨hlt₄, rfl⟩ := (readAlternateHex_eq_some (by decide)).mp h₄
      obtain ⟨hlt₅, rfl⟩ := (readAlternateHex_eq_some (by decide)).mp h₅
      simp only [keBugCheckExCPP, usersimThrowException, hend, BitVec.toNat_ofNat,
        Nat.mod_eq_of_lt (show code < 2 ^ 32 from hlt₁),
        Nat.mod_eq_of_lt (show one < 2 ^ 64 from hlt₂),
        Nat.mod_eq_of_lt (show two < 2 ^ 64 from hlt₃),
        Nat.mod_eq_of_lt (show three < 2 ^ 64 from hlt₄),
        Nat.mod_eq_of_lt (show four < 2 ^ 64 from hlt₅), List.append_assoc]
    · cases h
  · intro h
    obtain rfl := Except.error.inj h
    have hread : ∀ (width : Nat) {n : Nat} {before rest : List Char}, 0 < width → n < 16 ^ width →
        readAlternateHex width before (before ++ (alternateHex (width + 2) n ++ rest)) =
          some (n, rest) := by
      intro width n before rest hwidth hn
      exact (readAlternateHex_eq_some hwidth).mpr ⟨hn, (List.append_assoc ..).symm⟩
    simp only [readBugCheck, List.append_assoc, hread 8 (by decide) hcode,
      hread 16 (by decide) hone, hread 16 (by decide) htwo, hread 16 (by decide) hthree,
      hread 16 (by decide) hfour, Option.bind_eq_bind, Option.bind_some, if_true,
      BitVec.ofNat_toNat, BitVec.setWidth_eq]

theorem readBugCheck_statusText (signed : Bool) (status : BitVec 32) :
    readBugCheck (statusText signed status) = none := by
  obtain ⟨rest, htext⟩ : ∃ rest, statusText signed status = 'E' :: rest := ⟨_, rfl⟩
  rw [htext]
  rfl

/-- A status is read back, whichever sign its text has. -/
theorem readStatus_statusText (signed : Bool) (status : BitVec 32) :
    readStatus (statusText signed status) = status := by
  have hlt := status.isLt
  have hdrop : (statusText signed status).drop "Exception: ".length =
      decimalInt (if signed then status.toInt else status.toNat) ++ '\n' :: [] := by
    unfold statusText
    generalize decimalInt _ = digits
    rw [List.append_assoc]
    exact List.drop_left' String.length_toList
  rw [readStatus, hdrop]
  cases signed with
  | true =>
    have hlow := BitVec.le_toInt status
    have hhigh := BitVec.toInt_lt (x := status)
    rw [if_pos rfl, atoi64_decimalInt (by omega) (by omega) (by decide)]
    exact BitVec.ofInt_toInt
  | false =>
    rw [if_neg Bool.false_ne_true, atoi64_decimalInt (by omega) (by omega) (by decide)]
    exact BitVec.eq_of_toNat_eq (by simp)

theorem readReason_statusText (signed : Bool) (status : BitVec 32) :
    readReason (statusText signed status) = .inr status := by
  rw [readReason, readBugCheck_statusText, readStatus_statusText]

theorem readReason_bugCheck {b : BugCheck} {text : List Char}
    (h : keBugCheckExCPP b = .error text) : readReason text = .inl b := by
  rw [readReason, readBugCheck_eq_some.mpr h]

def throwReason (signed : Bool) : BugCheck ⊕ BitVec 32 → Thrown
  | .inl b => keBugCheckExCPP b
  | .inr status => usersimThrowException (statusText signed status)

theorem thrown_eq (signed : Bool) (call : FatalCall) :
    call.thrown signed = throwReason signed call.reason := by
  cases call <;> rfl

theorem readReason_thrown (signed : Bool) (call : FatalCall) :
    ∃ text, call.thrown signed = .error text ∧ readReason text = call.reason := by
  cases call with
  | keBugCheck code | keBugCheckCPP code | keBugCheckEx b | keBugCheckExCPP b
  | rtlAssert lineNumber =>
    exact ⟨_, rfl, readReason_bugCheck rfl⟩
  | exRaiseAccessViolation | exRaiseDatatypeMisalignment =>
    exact ⟨_, rfl, readReason_statusText signed _⟩

/--
Two calls throw the same text just when they are the same bug check, with all parameters, or raise
the same status. A text is that of a bug check just when `readBugCheck` reads it as this bug check.
-/
theorem exceptions_told_apart (signed : Bool) :
    (∀ call call' : FatalCall,
        call.thrown signed = call'.thrown signed ↔ call.reason = call'.reason) ∧
      ∀ text b, readBugCheck text = some b ↔ keBugCheckExCPP b = .error text := by
  refine ⟨fun call call' => ?_, fun text b => readBugCheck_eq_some⟩
  obtain ⟨text, hthrown, hreason⟩ := readReason_thrown signed call
  obtain ⟨text', hthrown', hreason'⟩ := readReason_thrown signed call'
  constructor
  · intro h
    rw [hthrown, hthrown'] at h
    rw [← hreason, ← hreason', Except.error.inj h]
  · intro h
    rw [thrown_eq, thrown_eq, h]

/-- The text that the test of `RtlAssert` expects. -/
example : FatalCall.thrown true (.rtlAssert 17) =
    .error ("*** STOP 0x00000000 (0x0000000000000011," ++
      "0x0000000000000000,0x0000000000000000,0x0000000000000000)").toList := by
  decide

end Usersim.Ex
