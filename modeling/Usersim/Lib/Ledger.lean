import Mathlib.Data.Multiset.AddSub
import Usersim.Lib.Run

/-!
# Ledgers

What a program acquires from its system and gives back, as a list of entries. A ledger settles from
the resources that are held before to those that are held after; it does not settle at all if
something is given back that is not held.

* `Settles.append`, `Settles.frame` — ledgers one after another, and with more held than they need
* `Settles.count` — what was acquired was given back or is held
-/

namespace Lib

/-- An entry of a ledger. -/
inductive Entry (ρ : Type*) where
  | acquire (r : ρ)
  | release (r : ρ)
deriving DecidableEq, Repr

variable {ρ : Type*} [DecidableEq ρ]

def charge (held : Multiset ρ) : Entry ρ → Option (Multiset ρ)
  | .acquire r => some (r ::ₘ held)
  | .release r => if r ∈ held then some (held.erase r) else none

/-- From what is held before to what is held after. -/
def Settles (held : Multiset ρ) (es : List (Entry ρ)) (held' : Multiset ρ) : Prop :=
  exec charge held es = some held'

instance (held : Multiset ρ) (es : List (Entry ρ)) (held' : Multiset ρ) :
    Decidable (Settles held es held') :=
  inferInstanceAs (Decidable (_ = _))

variable {held held₁ held' : Multiset ρ} {es es' : List (Entry ρ)} {r : ρ}

theorem Settles.nil : Settles held [] held := rfl

theorem settles_cons {e : Entry ρ} :
    Settles held (e :: es) held' ↔ ∃ held₁, charge held e = some held₁ ∧ Settles held₁ es held' :=
  exec_cons_eq_some

theorem Settles.append (h : Settles held es held₁) (h' : Settles held₁ es' held') :
    Settles held (es ++ es') held' := by
  unfold Settles at h h' ⊢
  rw [exec_append, h]
  exact h'

theorem Settles.acquire (r : ρ) : Settles held [.acquire r] (r ::ₘ held) := rfl

theorem Settles.release (r : ρ) : Settles (r ::ₘ held) [.release r] held := by
  simp [Settles, exec_cons, charge]

theorem charge_frame (frame : Multiset ρ) {e : Entry ρ} (h : charge held e = some held') :
    charge (held + frame) e = some (held' + frame) := by
  cases e with
  | acquire r =>
    obtain rfl := Option.some.inj h
    exact congrArg some (Multiset.cons_add r held frame).symm
  | release r =>
    by_cases hr : r ∈ held
    · rw [charge, if_pos hr] at h
      obtain rfl := Option.some.inj h
      rw [charge, if_pos (Multiset.mem_add.mpr (.inl hr)), Multiset.erase_add_left_pos frame hr]
    · rw [charge, if_neg hr] at h
      cases h

/-- A ledger settles whatever else is held, and leaves it alone. -/
theorem Settles.frame (frame : Multiset ρ) (h : Settles held es held') :
    Settles (held + frame) es (held' + frame) := by
  induction es generalizing held with
  | nil =>
    cases h
    exact Settles.nil
  | cons e es ih =>
    obtain ⟨held₁, hcharge, hrest⟩ := settles_cons.mp h
    exact settles_cons.mpr ⟨held₁ + frame, charge_frame frame hcharge, ih hrest⟩

theorem charge_count (r : ρ) {e : Entry ρ} (h : charge held e = some held') :
    held.count r + [e].count (.acquire r) = held'.count r + [e].count (.release r) := by
  cases e with
  | acquire r' =>
    obtain rfl := Option.some.inj h
    by_cases hr : r = r'
    · subst hr
      simp
    · simp [hr, Ne.symm hr]
  | release r' =>
    by_cases hmem : r' ∈ held
    · rw [charge, if_pos hmem] at h
      obtain rfl := Option.some.inj h
      by_cases hr : r = r'
      · subst hr
        have hpos := Multiset.count_pos.mpr hmem
        simp only [Multiset.count_erase_self, List.count_singleton]
        simp
        omega
      · simp [hr, Ne.symm hr, Multiset.count_erase_of_ne]
    · rw [charge, if_neg hmem] at h
      cases h

theorem Settles.acquireAll (held : Multiset ρ) (l : List ρ) :
    Settles held (l.map .acquire) ((l : Multiset ρ) + held) := by
  induction l generalizing held with
  | nil =>
    rw [Multiset.coe_nil, Multiset.zero_add]
    exact Settles.nil
  | cons r l ih =>
    have h := (Settles.acquire r).append (ih (r ::ₘ held))
    rw [Multiset.add_cons, ← Multiset.cons_add] at h
    exact h

theorem Settles.releaseAll (held : Multiset ρ) (l : List ρ) :
    Settles ((l : Multiset ρ) + held) (l.map .release) held := by
  induction l with
  | nil =>
    rw [Multiset.coe_nil, Multiset.zero_add]
    exact Settles.nil
  | cons r l ih =>
    rw [← Multiset.cons_coe, Multiset.cons_add]
    exact (Settles.release r).append ih

/-- What was held or acquired is held or was given back, as often. -/
theorem Settles.count (h : Settles held es held') (r : ρ) :
    held.count r + es.count (.acquire r) = held'.count r + es.count (.release r) := by
  induction es generalizing held with
  | nil =>
    cases h
    rfl
  | cons e es ih =>
    obtain ⟨held₁, hcharge, hrest⟩ := settles_cons.mp h
    have hone := charge_count r hcharge
    have hall := ih hrest
    rw [← List.singleton_append, List.count_append, List.count_append]
    omega

end Lib
