import Mathlib.Logic.Function.Basic

/-!
# Machine words

* `and_not_add_and` — a word is the sum of what a mask keeps and what it clears
* `byteSwap16_byteSwap16`, `byteSwap32_byteSwap32` — swapping bytes twice
-/

namespace Lib

theorem and_not_add_and {w : Nat} (x m : BitVec w) : (x &&& ~~~m) + (x &&& m) = x := by
  have hdisjoint : (x &&& ~~~m) &&& (x &&& m) = 0#w := by
    ext i hi
    simp only [BitVec.getElem_and, BitVec.getElem_not, BitVec.getElem_zero]
    cases m[i] <;> simp
  rw [BitVec.add_eq_or_of_and_eq_zero _ _ hdisjoint, ← BitVec.and_or_distrib_left, BitVec.or_comm,
    BitVec.or_not_self, BitVec.and_allOnes]

/-! ## The order of the bytes -/

def byteSwap16 (x : BitVec 16) : BitVec 16 := x.extractLsb' 0 8 ++ x.extractLsb' 8 8

def byteSwap32 (x : BitVec 32) : BitVec 32 :=
  byteSwap16 (x.extractLsb' 0 16) ++ byteSwap16 (x.extractLsb' 16 16)

@[simp] theorem byteSwap16_byteSwap16 (x : BitVec 16) : byteSwap16 (byteSwap16 x) = x := by
  unfold byteSwap16
  rw [BitVec.extractLsb'_append_eq_right, BitVec.extractLsb'_append_eq_left,
    BitVec.extractLsb'_append_extractLsb']

@[simp] theorem byteSwap32_byteSwap32 (x : BitVec 32) : byteSwap32 (byteSwap32 x) = x := by
  unfold byteSwap32
  rw [BitVec.extractLsb'_append_eq_right, BitVec.extractLsb'_append_eq_left,
    byteSwap16_byteSwap16, byteSwap16_byteSwap16, BitVec.extractLsb'_append_extractLsb']

end Lib
