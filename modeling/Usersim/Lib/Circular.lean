import Mathlib.Data.List.Basic
import Mathlib.Data.Nat.ModEq
import Mathlib.Logic.Function.Basic

/-!
# Circular stores

`n` cells whose positions are counted on and on: position `i` is the cell `i % n`. A record is a
list of values at consecutive positions.

* `readAll_writeAll` — a record that fits is read back
* `readAll_writeAll_of_disjoint` — and stays until one that comes round reaches it
-/

namespace Lib.Circular

variable {α : Type*} {n : Nat}

def read (n : Nat) (c : Nat → α) (i : Nat) : α := c (i % n)

def write (n : Nat) (c : Nat → α) (i : Nat) (a : α) : Nat → α := Function.update c (i % n) a

def readAll (n : Nat) (c : Nat → α) (i k : Nat) : List α :=
  (List.range k).map fun j => read n c (i + j)

def writeAll (n : Nat) (c : Nat → α) (i : Nat) : List α → Nat → α
  | [] => c
  | a :: as => writeAll n (write n c i a) (i + 1) as

theorem read_mod (n : Nat) (c : Nat → α) (i : Nat) : read n c (i % n) = read n c i := by
  rw [read, Nat.mod_mod, read]

theorem readAll_mod (n : Nat) (c : Nat → α) (i k : Nat) :
    readAll n c (i % n) k = readAll n c i k := by
  refine List.map_congr_left fun j _ => ?_
  rw [← read_mod n c (i % n + j), Nat.mod_add_mod, read_mod]

theorem readAll_succ (n : Nat) (c : Nat → α) (i k : Nat) :
    readAll n c i (k + 1) = read n c i :: readAll n c (i + 1) k := by
  rw [readAll, List.range_succ_eq_map, List.map_cons, List.map_map]
  refine congrArg _ (List.map_congr_left fun j _ => ?_)
  exact congrArg (read n c) (by omega)

/-- Only the cell of a position counts. -/
theorem writeAll_congr {i i' : Nat} (h : i % n = i' % n) (c : Nat → α) (as : List α) :
    writeAll n c i as = writeAll n c i' as := by
  induction as generalizing c i i' with
  | nil => rfl
  | cons a as ih =>
    have hnext : (i + 1) % n = (i' + 1) % n := by
      rw [← Nat.mod_add_mod i, h, Nat.mod_add_mod]
    rw [writeAll, writeAll, write, write, h]
    exact ih hnext _

theorem read_writeAll_of_ne {i i' : Nat} {as : List α}
    (h : ∀ j < as.length, (i + j) % n ≠ i' % n) (c : Nat → α) :
    read n (writeAll n c i as) i' = read n c i' := by
  induction as generalizing c i with
  | nil => rfl
  | cons a as ih =>
    have hrest : ∀ j < as.length, (i + 1 + j) % n ≠ i' % n := by
      intro j hj
      have hnext := h (j + 1) (by simpa using hj)
      rwa [show i + (j + 1) = i + 1 + j by omega] at hnext
    have hfirst : i' % n ≠ i % n := Ne.symm (h 0 (Nat.succ_pos _))
    rw [writeAll, ih hrest]
    exact Function.update_of_ne hfirst _ _

/-- Two positions less than a round apart are different cells. -/
theorem mod_ne_of_lt {i j k : Nat} (hjk : j < k) (hk : k < j + n) : (i + j) % n ≠ (i + k) % n := by
  intro h
  have hmod : i + j + 0 ≡ i + j + (k - j) [MOD n] := by
    show _ = _
    rw [Nat.add_zero, h]
    congr 1
    omega
  have hzero := (Nat.ModEq.add_left_cancel' _ hmod).eq_of_lt_of_lt (by omega) (by omega)
  omega

theorem getElem_writeAll {i j : Nat} {as : List α} (hn : as.length ≤ n) (hj : j < as.length)
    (c : Nat → α) : read n (writeAll n c i as) (i + j) = as[j] := by
  induction as generalizing c i j with
  | nil => cases hj
  | cons a as ih =>
    have hlength : as.length < n := hn
    cases j with
    | zero =>
      have hne : ∀ j < as.length, (i + 1 + j) % n ≠ (i + 0) % n := by
        intro j hj h
        refine mod_ne_of_lt (i := i) (j := 0) (k := j + 1) (by omega) (by omega) (h.symm.trans ?_)
        congr 1
        omega
      rw [writeAll, read_writeAll_of_ne hne]
      exact Function.update_self ..
    | succ j =>
      have hnext := ih (i := i + 1) (Nat.le_of_lt hlength) (Nat.lt_of_succ_lt_succ hj)
        (write n c i a)
      rw [show i + 1 + j = i + (j + 1) by omega] at hnext
      exact hnext

/-- A record that fits is read back. -/
theorem readAll_writeAll {as : List α} (hn : as.length ≤ n) (c : Nat → α) (i : Nat) :
    readAll n (writeAll n c i as) i as.length = as := by
  refine List.ext_getElem (by simp [readAll]) fun j hj hj' => ?_
  simp only [readAll, List.getElem_map, List.getElem_range]
  exact getElem_writeAll hn hj' c

/-- A record stays until one that comes round reaches it. -/
theorem readAll_writeAll_of_disjoint {i i' k : Nat} {as : List α} (hafter : i + k ≤ i')
    (hround : i' + as.length ≤ i + n) (c : Nat → α) :
    readAll n (writeAll n c i' as) i k = readAll n c i k := by
  refine List.map_congr_left fun j hj => read_writeAll_of_ne (fun l hl h => ?_) c
  have hj' := List.mem_range.mp hj
  refine mod_ne_of_lt (i := 0) (j := i + j) (k := i' + l) (n := n) (by omega) (by omega) ?_
  rw [Nat.zero_add, Nat.zero_add]
  exact h.symm

end Lib.Circular
