import Mathlib.Data.List.Basic
import Mathlib.Data.List.Count

/-!
# Counting the numbers below a bound

A system that numbers its objects counts those in some condition by
`(List.range n).countP p`. A step changes the condition of one object.

* `countP_range_flip` — one number stops counting
* `countP_range_succ` — a new number is added
-/

namespace Lib

variable {p p' : Nat → Bool} {n q : Nat}

theorem countP_range_congr (h : ∀ i, i < n → p' i = p i) :
    (List.range n).countP p' = (List.range n).countP p := by
  refine List.countP_congr ?_
  intro i hi
  rw [h i (List.mem_range.mp hi)]

theorem countP_range_flip (hq : q < n) (hp : p q = true) (hp' : p' q = false)
    (h : ∀ i, i ≠ q → p' i = p i) :
    (List.range n).countP p = (List.range n).countP p' + 1 := by
  induction n with
  | zero => omega
  | succ n ih =>
    rw [List.range_succ, List.countP_append, List.countP_append]
    by_cases hqn : q = n
    · subst hqn
      have hbelow : ∀ i, i < q → p' i = p i := fun i hi => h i (by omega)
      rw [countP_range_congr hbelow]
      simp [hp, hp']
    · rw [ih (by omega)]
      have hn : p' n = p n := h n (fun e => hqn e.symm)
      simp only [List.countP_singleton, hn]
      omega

/-- The numbers below `n` keep their condition, and `n` comes with its own. -/
theorem countP_range_succ (p : Nat → Bool) (h : ∀ i, i < n → p' i = p i) :
    (List.range (n + 1)).countP p' =
      (List.range n).countP p + if p' n = true then 1 else 0 := by
  rw [List.range_succ, List.countP_append, countP_range_congr h, List.countP_singleton]

theorem not_of_countP_range_eq_zero (h : (List.range n).countP p = 0) (hq : q < n) :
    p q = false := by
  have hnone := List.countP_eq_zero.mp h q (List.mem_range.mpr hq)
  simpa using hnone

end Lib
