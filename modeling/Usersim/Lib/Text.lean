import Mathlib.Algebra.Group.Int.Defs
import Mathlib.Algebra.Group.Nat.Defs
import Mathlib.Data.List.Induction
import Mathlib.Data.List.TakeWhile

/-!
# Lines and numbers as text

Text is a list of characters. `lines` is what a loop over `std::getline` reads, `stoull` is
`std::stoull` in base 16, and `hex` and `decimal` are what `<<` writes for an unsigned number.

* `lines_terminate` — lines that are written with their delimiter are read back
* `stoull_hex` — a number that is written in hexadecimal is read back
* `readHexDigits_eq_some` — the same with a fixed number of digits, and nothing else is read
* `atoi64_decimalInt` — a number that is written in decimal with its sign is read back
-/

namespace Lib

/-! ## Lines -/

/-- The strings a `getline` loop reads. The last one need not have a delimiter; without characters
there is nothing to read. -/
def lines (delim : Char) : List Char → List (List Char)
  | [] => []
  | c :: text =>
    if c = delim then [] :: lines delim text
    else match lines delim text with
      | [] => [[c]]
      | line :: rest => (c :: line) :: rest

/-- Every line followed by its delimiter. -/
def terminate (delim : Char) (ls : List (List Char)) : List Char :=
  ls.flatMap (· ++ [delim])

variable {delim : Char}

theorem lines_append {line : List Char} (h : delim ∉ line) (text : List Char) :
    lines delim (line ++ delim :: text) = line :: lines delim text := by
  induction line with
  | nil => simp [lines]
  | cons c line ih =>
    rw [List.mem_cons, not_or] at h
    rw [List.cons_append, lines, if_neg (Ne.symm h.1), ih h.2]

/-- Lines without the delimiter are read back. -/
theorem lines_terminate {ls : List (List Char)} (h : ∀ l ∈ ls, delim ∉ l) :
    lines delim (terminate delim ls) = ls := by
  induction ls with
  | nil => rfl
  | cons l ls ih =>
    have hl := h l List.mem_cons_self
    have hls : ∀ l ∈ ls, delim ∉ l := fun l' hl' => h l' (List.mem_cons_of_mem _ hl')
    rw [terminate, List.flatMap_cons, List.append_assoc, List.singleton_append, lines_append hl]
    exact congrArg (l :: ·) (ih hls)

theorem terminate_append (ls ls' : List (List Char)) :
    terminate delim (ls ++ ls') = terminate delim ls ++ terminate delim ls' :=
  List.flatMap_append

/-! ## Numbers -/

def hex (n : Nat) : List Char :=
  Nat.toDigits 16 n

def decimal (n : Nat) : List Char :=
  Nat.toDigits 10 n

def hexValue (c : Char) : Option Nat :=
  if '0' ≤ c ∧ c ≤ '9' then some (c.toNat - '0'.toNat)
  else if 'a' ≤ c ∧ c ≤ 'f' then some (c.toNat - 'a'.toNat + 10)
  else if 'A' ≤ c ∧ c ≤ 'F' then some (c.toNat - 'A'.toNat + 10)
  else none

def isHex (c : Char) : Bool :=
  (hexValue c).isSome

def isSpace (c : Char) : Bool :=
  c = ' ' || (9 ≤ c.toNat && c.toNat ≤ 13)

/-- The prefix `0x` counts only if a digit follows. -/
def dropHexPrefix : List Char → List Char
  | '0' :: x :: c :: rest =>
    if (x = 'x' ∨ x = 'X') ∧ isHex c then c :: rest else '0' :: x :: c :: rest
  | text => text

inductive StoullError where
  | invalidArgument
  | outOfRange
deriving DecidableEq, Repr

/-- Characters after the last digit are ignored. -/
def stoull (text : List Char) : Except StoullError (BitVec 64) :=
  let text := text.dropWhile isSpace
  let negative := text.head? = some '-'
  let text := if text.head? = some '-' ∨ text.head? = some '+' then text.tail else text
  let digits := ((dropHexPrefix text).takeWhile isHex).filterMap hexValue
  let n := digits.foldl (fun n d => 16 * n + d) 0
  if digits = [] then .error .invalidArgument
  else if 2 ^ 64 ≤ n then .error .outOfRange
  else .ok (if negative then -(BitVec.ofNat 64 n) else BitVec.ofNat 64 n)

theorem hexValue_digitChar : ∀ d, d < 16 → hexValue d.digitChar = some d := by
  decide

theorem isHex_of_mem_hex {n : Nat} : ∀ c ∈ hex n, isHex c = true := by
  induction n using Nat.strongRecOn with
  | ind n ih =>
    intro c hc
    rw [hex, Nat.toDigits_eq_if (by decide)] at hc
    split at hc
    · rename_i hn
      rw [List.mem_singleton] at hc
      rw [hc, isHex, hexValue_digitChar n hn]
      rfl
    · rename_i hn
      rcases List.mem_append.mp hc with hc | hc
      · exact ih (n / 16) (by omega) c hc
      · rw [List.mem_singleton] at hc
        rw [hc, isHex, hexValue_digitChar (n % 16) (by omega)]
        rfl

theorem hex_ne_nil (n : Nat) : hex n ≠ [] :=
  Nat.toDigits_ne_nil

/-- The digits of a number in hexadecimal have its value. -/
theorem foldl_hexValue_hex (n : Nat) :
    ((hex n).filterMap hexValue).foldl (fun n d => 16 * n + d) 0 = n := by
  induction n using Nat.strongRecOn with
  | ind n ih =>
    rw [hex, Nat.toDigits_eq_if (by decide)]
    split
    · rename_i hn
      simp [hexValue_digitChar n hn]
    · rename_i hn
      have hdigit := hexValue_digitChar (n % 16) (by omega)
      have hprev := ih (n / 16) (by omega)
      rw [hex] at hprev
      rw [List.filterMap_append, List.foldl_append, hprev]
      simp only [List.filterMap_cons, hdigit, List.filterMap_nil, List.foldl_cons, List.foldl_nil]
      omega

theorem dropHexPrefix_of_isHex {text : List Char} (h : ∀ c ∈ text, isHex c = true) :
    dropHexPrefix text = text := by
  unfold dropHexPrefix
  split
  · rename_i x c rest
    have hx : ¬ ((x = 'x' ∨ x = 'X') ∧ isHex c = true) := by
      rintro ⟨rfl | rfl, -⟩
      · exact absurd (h 'x' (by simp)) (by decide)
      · exact absurd (h 'X' (by simp)) (by decide)
    rw [if_neg hx]
  · rfl

theorem toNat_of_isHex {c : Char} (h : isHex c = true) : 48 ≤ c.toNat := by
  simp only [isHex, hexValue, Char.le_def, UInt32.le_iff_toNat_le] at h
  split at h
  · rename_i hdigit
    exact hdigit.1
  · split at h
    · rename_i hlower
      exact le_trans (by decide) hlower.1
    · split at h
      · rename_i hupper
        exact le_trans (by decide) hupper.1
      · cases h

/-- A character before the digits is not one of a number. -/
theorem not_mem_hex {c : Char} (hc : c.toNat < 48) (n : Nat) : c ∉ hex n := by
  intro hmem
  have hge := toNat_of_isHex (isHex_of_mem_hex c hmem)
  omega

theorem isSpace_eq_false {c : Char} (h : 48 ≤ c.toNat) : isSpace c = false := by
  have hne : c ≠ ' ' := by
    rintro rfl
    exact absurd h (by decide)
  simp only [isSpace, hne, decide_false, Bool.false_or, Bool.and_eq_false_iff,
    decide_eq_false_iff_not]
  omega

theorem dropWhile_isSpace_hex (n : Nat) : (hex n).dropWhile isSpace = hex n := by
  cases hn : hex n with
  | nil => rfl
  | cons c rest =>
    have hge : 48 ≤ c.toNat := by
      refine toNat_of_isHex (isHex_of_mem_hex (n := n) c ?_)
      rw [hn]
      exact List.mem_cons_self
    rw [List.dropWhile_cons, isSpace_eq_false hge]
    rfl

theorem head?_hex_ne {c : Char} (hc : c.toNat < 48) (n : Nat) : (hex n).head? ≠ some c :=
  fun h => not_mem_hex hc n (List.mem_of_head? h)

/-- An address that is written in hexadecimal is read back. -/
theorem stoull_hex (a : BitVec 64) : stoull (hex a.toNat) = .ok a := by
  have hminus := head?_hex_ne (c := '-') (by decide) a.toNat
  have hplus := head?_hex_ne (c := '+') (by decide) a.toNat
  have hdigits : (hex a.toNat).takeWhile isHex = hex a.toNat :=
    List.takeWhile_eq_self_iff.mpr isHex_of_mem_hex
  have hsome : (hex a.toNat).filterMap hexValue ≠ [] := by
    intro hnil
    obtain ⟨c, hc⟩ := List.exists_mem_of_ne_nil _ (hex_ne_nil a.toNat)
    have hhex := isHex_of_mem_hex c hc
    rw [isHex, List.filterMap_eq_nil_iff.mp hnil c hc] at hhex
    cases hhex
  have hlt : ¬ 2 ^ 64 ≤ a.toNat := Nat.not_le.mpr a.isLt
  simp only [stoull, dropWhile_isSpace_hex, hminus, hplus, or_self, if_false,
    dropHexPrefix_of_isHex isHex_of_mem_hex, hdigits, hsome, foldl_hexValue_hex, hlt,
    BitVec.ofNat_toNat, BitVec.setWidth_eq]

/-! ## A fixed number of digits -/

/-- `std::format` with a width that begins with `0`: zeros in front of the digits. -/
def zeroPadded (width n : Nat) : List Char :=
  List.replicate (width - (hex n).length) '0' ++ hex n

/-- The last `width` digits. -/
def hexDigits : Nat → Nat → List Char
  | 0, _ => []
  | width + 1, n => hexDigits width (n / 16) ++ [(n % 16).digitChar]

/-- A digit as it is written, with small letters. -/
def isLowerHex (c : Char) : Bool :=
  (hexValue c).any fun d => d.digitChar = c

def hexNumber (digits : List Char) : Nat :=
  (digits.filterMap hexValue).foldl (fun n d => 16 * n + d) 0

/-- The number in the first `width` characters, and the rest. -/
def readHexDigits (width : Nat) (text : List Char) : Option (Nat × List Char) :=
  if (text.take width).length = width ∧ (text.take width).all isLowerHex then
    some (hexNumber (text.take width), text.drop width)
  else none

theorem length_hexDigits (width n : Nat) : (hexDigits width n).length = width := by
  induction width generalizing n with
  | zero => rfl
  | succ width ih => rw [hexDigits, List.length_append, ih, List.length_singleton]

theorem hexDigits_zero (width : Nat) : hexDigits width 0 = List.replicate width '0' := by
  induction width with
  | zero => rfl
  | succ width ih =>
    rw [hexDigits, List.replicate_succ', ← ih]
    rfl

theorem zeroPadded_eq_hexDigits {width n : Nat} (hwidth : 0 < width) (hn : n < 16 ^ width) :
    zeroPadded width n = hexDigits width n := by
  induction width generalizing n with
  | zero => cases hwidth
  | succ width ih =>
    unfold zeroPadded hexDigits hex
    rw [Nat.toDigits_eq_if (by decide)]
    by_cases hsmall : n < 16
    · rw [if_pos hsmall, Nat.div_eq_of_lt hsmall, Nat.mod_eq_of_lt hsmall, hexDigits_zero]
      rfl
    · have hdiv : n / 16 < 16 ^ width := by
        rw [Nat.div_lt_iff_lt_mul (by decide), ← Nat.pow_succ]
        exact hn
      have hpos : 0 < width := by
        refine Nat.pos_of_ne_zero ?_
        rintro rfl
        exact hsmall hn
      rw [if_neg hsmall, ← ih hpos hdiv, zeroPadded, hex, List.length_append,
        List.length_singleton, Nat.add_sub_add_right, List.append_assoc]

theorem isLowerHex_digitChar : ∀ d, d < 16 → isLowerHex d.digitChar = true := by decide

theorem hexDigits_all (width n : Nat) : (hexDigits width n).all isLowerHex = true := by
  induction width generalizing n with
  | zero => rfl
  | succ width ih =>
    rw [hexDigits, List.all_append, ih, Bool.true_and]
    simp [isLowerHex_digitChar (n % 16) (Nat.mod_lt _ (by decide))]

theorem hexNumber_append {c : Char} {d : Nat} (hc : hexValue c = some d) (digits : List Char) :
    hexNumber (digits ++ [c]) = 16 * hexNumber digits + d := by
  simp [hexNumber, List.filterMap_append, hc]

theorem hexNumber_hexDigits {width n : Nat} (hn : n < 16 ^ width) :
    hexNumber (hexDigits width n) = n := by
  induction width generalizing n with
  | zero =>
    obtain rfl : n = 0 := by simpa using hn
    rfl
  | succ width ih =>
    have hdiv : n / 16 < 16 ^ width := by
      rw [Nat.div_lt_iff_lt_mul (by decide), ← Nat.pow_succ]
      exact hn
    rw [hexDigits, hexNumber_append (hexValue_digitChar _ (Nat.mod_lt _ (by decide))), ih hdiv]
    exact Nat.div_add_mod n 16

theorem hexValue_lt {c : Char} {d : Nat} (h : hexValue c = some d) : d < 16 := by
  simp only [hexValue, Char.le_def, UInt32.le_iff_toNat_le] at h
  have hval : c.toNat = c.val.toNat := rfl
  split at h
  · rename_i hc
    have hnine : '9'.val.toNat = 57 := rfl
    have hzero : '0'.toNat = 48 := rfl
    cases h
    omega
  · split at h
    · rename_i hc
      have hf : 'f'.val.toNat = 102 := rfl
      have ha : 'a'.toNat = 97 := rfl
      cases h
      omega
    · split at h
      · rename_i hc
        have hf : 'F'.val.toNat = 70 := rfl
        have ha : 'A'.toNat = 65 := rfl
        cases h
        omega
      · cases h

/-- Digits are those of the number that they are read as. -/
theorem hexDigits_hexNumber {digits : List Char} (h : digits.all isLowerHex = true) :
    hexNumber digits < 16 ^ digits.length ∧
      hexDigits digits.length (hexNumber digits) = digits := by
  induction digits using List.reverseRecOn with
  | nil => exact ⟨by decide, rfl⟩
  | append_singleton digits c ih =>
    rw [List.all_append, Bool.and_eq_true] at h
    obtain ⟨hlt, heq⟩ := ih h.1
    have hc : isLowerHex c = true := by simpa using h.2
    obtain ⟨d, hd, hdigit⟩ := (Option.any_eq_true _ _).mp hc
    have hsmall := hexValue_lt hd
    rw [hexNumber_append hd, List.length_append, List.length_singleton, Nat.pow_succ]
    refine ⟨by omega, ?_⟩
    have hdiv : (16 * hexNumber digits + d) / 16 = hexNumber digits := by omega
    have hmod : (16 * hexNumber digits + d) % 16 = d := by omega
    rw [hexDigits, hdiv, hmod, heq, of_decide_eq_true hdigit]

/-- What is read is what was written. -/
theorem readHexDigits_eq_some {width n : Nat} {text rest : List Char} :
    readHexDigits width text = some (n, rest) ↔
      n < 16 ^ width ∧ text = hexDigits width n ++ rest := by
  unfold readHexDigits
  constructor
  · intro h
    split at h
    · rename_i hdigits
      cases h
      obtain ⟨hlt, heq⟩ := hexDigits_hexNumber hdigits.2
      rw [hdigits.1] at hlt heq
      exact ⟨hlt, by rw [heq, List.take_append_drop]⟩
    · cases h
  · rintro ⟨hn, rfl⟩
    have hlength := length_hexDigits width n
    rw [List.take_left' hlength, List.drop_left' hlength, hexNumber_hexDigits hn,
      if_pos ⟨hlength, hexDigits_all width n⟩]

/-! ## Signed numbers -/

def decimalInt (n : Int) : List Char :=
  if n < 0 then '-' :: decimal n.natAbs else decimal n.natAbs

/-- `_atoi64`: what does not fit is cut off at the bounds. -/
def atoi64 (text : List Char) : Int :=
  let text := text.dropWhile isSpace
  let negative := text.head? = some '-'
  let text := if text.head? = some '-' ∨ text.head? = some '+' then text.tail else text
  let n : Int := Nat.ofDigitChars 10 (text.takeWhile Char.isDigit) 0
  max (-2 ^ 63) (min (2 ^ 63 - 1) (if negative then -n else n))

theorem takeWhile_isDigit_decimal (n : Nat) {c : Char} (hc : c.isDigit = false)
    (rest : List Char) : (decimal n ++ c :: rest).takeWhile Char.isDigit = decimal n := by
  have hdigits : ∀ d ∈ decimal n, d.isDigit = true := fun d hd =>
    Nat.isDigit_of_mem_toDigits (by decide) (by decide) hd
  rw [List.takeWhile_append_of_pos hdigits, List.takeWhile_cons, hc, if_neg Bool.false_ne_true,
    List.append_nil]

theorem ofDigitChars_decimal (n : Nat) : Nat.ofDigitChars 10 (decimal n) 0 = n :=
  Nat.ofDigitChars_toDigits (by decide) (by decide)

theorem toNat_of_isDigit {c : Char} (h : c.isDigit = true) : 48 ≤ c.toNat := by
  simp only [Char.isDigit, ge_iff_le, Bool.and_eq_true, decide_eq_true_eq,
    UInt32.le_iff_toNat_le] at h
  exact h.1

/-- A character in front of the digits is no space and no sign. -/
theorem decimal_head (n : Nat) (rest : List Char) :
    ∃ c cs, decimal n ++ rest = c :: cs ∧ isSpace c = false ∧ c ≠ '-' ∧ c ≠ '+' := by
  obtain ⟨c, cs, hc⟩ := List.exists_cons_of_ne_nil (Nat.toDigits_ne_nil (n := n) (b := 10))
  have hdigit : 48 ≤ c.toNat := by
    refine toNat_of_isDigit (Nat.isDigit_of_mem_toDigits (b := 10) (n := n) ?_ ?_ ?_)
    · decide
    · decide
    · rw [hc]
      exact List.mem_cons_self
  refine ⟨c, cs ++ rest, by rw [decimal, hc]; rfl, isSpace_eq_false hdigit, ?_, ?_⟩
  · rintro rfl
    exact absurd hdigit (by decide)
  · rintro rfl
    exact absurd hdigit (by decide)

/-- What follows the digits does not matter. -/
theorem atoi64_decimalInt {n : Int} (hlow : -2 ^ 63 ≤ n) (hhigh : n < 2 ^ 63) {c : Char}
    (hc : c.isDigit = false) (rest : List Char) : atoi64 (decimalInt n ++ c :: rest) = n := by
  unfold decimalInt
  by_cases hneg : n < 0
  · have hspace : ('-' :: (decimal n.natAbs ++ c :: rest)).dropWhile isSpace =
        '-' :: (decimal n.natAbs ++ c :: rest) := rfl
    rw [if_pos hneg, List.cons_append]
    simp only [atoi64, hspace, List.head?_cons, true_or, if_true, List.tail_cons,
      takeWhile_isDigit_decimal _ hc, ofDigitChars_decimal]
    omega
  · obtain ⟨d, ds, hd, hspace, hminus, hplus⟩ := decimal_head n.natAbs (c :: rest)
    have hdrop : (d :: ds).dropWhile isSpace = d :: ds := by
      rw [List.dropWhile_cons, hspace, if_neg Bool.false_ne_true]
    have htake := takeWhile_isDigit_decimal n.natAbs hc rest
    rw [hd] at htake
    rw [if_neg hneg, hd]
    simp only [atoi64, hdrop, List.head?_cons, Option.some.injEq, hminus, hplus, or_self, if_false,
      htake, ofDigitChars_decimal]
    omega

end Lib
