import Mathlib.Data.List.Count
import Usersim.Ob.Basic

/-!
# Who closes a handle

A handle is a reference from its creation until `ObCloseHandle`. `Holders` counts the references
of an object that way: the last one that is dropped should close the handle. The table has one
less, so the code closes the handle when one reference is left (`count_eq`), and a sequence that
drops the last reference never meets the rule.

* `closes_on_last_drop_iff` — when a sequence of calls meets it
-/

namespace Usersim.Ob

open Lib

/-! ## References, with the one that the handle is -/

/-- Who holds an object: the handle, and the references that were taken and not dropped. -/
structure Holders where
  handle : Bool
  references : Nat
deriving DecidableEq, Repr

def Holders.fresh : Holders := ⟨true, 0⟩

def Holders.outstanding (h : Holders) : Nat := h.references + h.handle.toNat

/-- The call takes a reference to the object. -/
def Call.takes (object : Pvoid) : Call → Bool
  | .referenceObjectByHandle handle handleInformation => handle == object && !handleInformation
  | .referenceObject o => o == object
  | .dereferenceObject _ | .closeHandle _ => false

/-- The call drops a reference to the object. -/
def Call.drops (object : Pvoid) : Call → Bool
  | .dereferenceObject o => o == object
  | .closeHandle handle => handle == object
  | .referenceObjectByHandle .. | .referenceObject _ => false

/-- What a call does to the holders of an object; `none` if it drops a reference that nobody
took, or closes the handle again. -/
def Holders.step (object : Pvoid) (h : Holders) (c : Call) : Option Holders :=
  if c.takes object then some { h with references := h.references + 1 }
  else if c.drops object then
    match c with
    | .closeHandle _ => if h.handle then some { h with handle := false } else none
    | _ => if 0 < h.references then some { h with references := h.references - 1 } else none
  else some h

/-- The table, and who holds one of the objects. -/
def step (object : Pvoid) (x : State × Holders) (c : Call) : Option (State × Holders) :=
  (x.2.step object c).map fun h => (x.1.step c, h)

/-- The handle is closed by the call that drops the last reference and by no other, the count does
not wrap below zero, and nothing is left of an object without references. -/
structure ClosesOnLastDrop (object : Pvoid) (s : State) (h : Holders) (c : Call) (s' : State)
    (h' : Holders) : Prop where
  closed : s'.closed.count object =
    s.closed.count object + if 0 < h.outstanding ∧ h'.outstanding = 0 then 1 else 0
  noWrap : c.drops object = true → s.count object ≠ 0
  erased : h'.outstanding = 0 → s'.objectReferences object = none

/-- The same for a call that can be made. -/
def Meets (object : Pvoid) (x : State × Holders) (c : Call) : Prop :=
  ∀ y, step object x c = some y → ClosesOnLastDrop object x.1 x.2 c y.1 y.2

/-- A reference is dropped while at least three are held (counted modulo `2 ^ 32`). -/
def DropsEarly (object : Pvoid) (x : State × Holders) (c : Call) : Prop :=
  c.drops object = true → 2 ≤ (x.2.outstanding - 1) % 2 ^ 32

instance (object : Pvoid) (x : State × Holders) (c : Call) : Decidable (DropsEarly object x c) :=
  inferInstanceAs (Decidable (_ → _))

/-! ## What a call does to the count and to the holders -/

variable {object : Pvoid} {s s' : State} {h h' : Holders} {c : Call} {x y : State × Holders}

theorem count_of_takes (hc : c.takes object = true) :
    (s.step c).count object = s.count object + 1 ∧ (s.step c).closed = s.closed := by
  cases c with
  | referenceObjectByHandle handle handleInformation =>
    simp only [Call.takes, Bool.and_eq_true, beq_iff_eq, Bool.not_eq_true'] at hc
    obtain ⟨rfl, rfl⟩ := hc
    exact ⟨count_reference, rfl⟩
  | referenceObject o =>
    simp only [Call.takes, beq_iff_eq] at hc
    subst hc
    exact ⟨count_reference, rfl⟩
  | dereferenceObject o | closeHandle o => cases hc

theorem step_of_drops (hc : c.drops object = true) :
    s.step c = (obfDereferenceObject s object).1 := by
  cases c with
  | dereferenceObject o | closeHandle o =>
    simp only [Call.drops, beq_iff_eq] at hc
    subst hc
    rfl
  | referenceObjectByHandle handle handleInformation | referenceObject o => cases hc

/-- A call for another object changes neither the count nor how often the handle was closed. -/
theorem count_of_other (htakes : c.takes object = false) (hdrops : c.drops object = false) :
    (s.step c).count object = s.count object ∧
      (s.step c).closed.count object = s.closed.count object := by
  cases c with
  | referenceObjectByHandle handle handleInformation =>
    simp only [State.step, obReferenceObjectByHandle]
    cases handleInformation with
    | true => exact ⟨rfl, rfl⟩
    | false =>
      have hne : handle ≠ object := by simpa [Call.takes] using htakes
      exact ⟨count_reference_of_ne hne.symm, rfl⟩
  | referenceObject o =>
    have hne : o ≠ object := by simpa [Call.takes] using htakes
    exact ⟨count_reference_of_ne hne.symm, rfl⟩
  | dereferenceObject o | closeHandle o =>
    have hne : o ≠ object := by simpa [Call.drops] using hdrops
    refine ⟨count_dereference_of_ne hne.symm, ?_⟩
    show (obfDereferenceObject s o).1.closed.count object = _
    rw [closed_dereference]
    split
    · rw [List.count_cons_of_ne hne]
    · rfl

/-- One more reference is held, one less, or as many as before. -/
theorem outstanding_step (hstep : h.step object c = some h') :
    h'.outstanding =
      if c.takes object then h.outstanding + 1
      else if c.drops object then h.outstanding - 1 else h.outstanding := by
  unfold Holders.step at hstep
  split at hstep
  · cases hstep
    simp only [Holders.outstanding, *, if_true]
    omega
  · rename_i htakes
    rw [if_neg htakes]
    split at hstep
    · rename_i hdrops
      rw [if_pos hdrops]
      split at hstep
      · split at hstep
        · rename_i hhandle
          cases hstep
          simp [Holders.outstanding, hhandle]
        · cases hstep
      · split at hstep
        · cases hstep
          simp only [Holders.outstanding]
          omega
        · cases hstep
    · rename_i hdrops
      cases hstep
      rw [if_neg hdrops]

/-- The table counts one reference less than there are. -/
structure CountOk (object : Pvoid) (x : State × Holders) : Prop where
  held : 0 < x.2.outstanding
  count_eq : x.1.count object = BitVec.ofNat 32 (x.2.outstanding - 1)

theorem takes_of_drops (hc : c.drops object = true) : c.takes object = false := by
  cases c with
  | dereferenceObject o | closeHandle o => rfl
  | referenceObjectByHandle handle handleInformation | referenceObject o => cases hc

theorem step_eq_some (hstep : step object x c = some y) :
    x.2.step object c = some y.2 ∧ y.1 = x.1.step c := by
  obtain ⟨h, hh, rfl⟩ := Option.map_eq_some_iff.mp hstep
  exact ⟨hh, rfl⟩

theorem CountOk.count_toNat (hok : CountOk object x) :
    (x.1.count object).toNat = (x.2.outstanding - 1) % 2 ^ 32 := by
  rw [hok.count_eq, BitVec.toNat_ofNat]

theorem sub_one_eq_zero_iff (n : Ulong) : n - 1 = 0 ↔ n.toNat = 1 := by
  constructor
  · intro h
    have hn : n = 1 := by
      calc n = n - 1 + 1 := (BitVec.sub_add_cancel n 1).symm
        _ = 1 := by rw [h]; rfl
    rw [hn]
    rfl
  · intro h
    have hn : n = 1 := BitVec.eq_of_toNat_eq h
    rw [hn]
    rfl

/-- A call that drops no reference meets the rule. -/
theorem closes_of_not_drops (hok : CountOk object x) (hn : c.drops object = false)
    (hstep : step object x c = some y) :
    ClosesOnLastDrop object x.1 x.2 c y.1 y.2 ∧ CountOk object y := by
  obtain ⟨hh, hy⟩ := step_eq_some hstep
  have hheld := hok.held
  have hout := outstanding_step hh
  have hcount : y.1.closed.count object = x.1.closed.count object ∧
      y.1.count object = BitVec.ofNat 32 (y.2.outstanding - 1) ∧ 0 < y.2.outstanding := by
    rw [hy]
    by_cases hc : c.takes object = true
    · obtain ⟨hadd, hclosed⟩ := count_of_takes (s := x.1) hc
      rw [if_pos hc] at hout
      refine ⟨by rw [hclosed], ?_, by omega⟩
      have hsucc : y.2.outstanding - 1 = x.2.outstanding - 1 + 1 := by omega
      rw [hadd, hok.count_eq, hsucc, BitVec.ofNat_add]
      rfl
    · have hother := count_of_other (s := x.1) (eq_false_of_ne_true hc) hn
      rw [if_neg hc, if_neg (by rw [hn]; decide)] at hout
      exact ⟨hother.2, by rw [hother.1, hok.count_eq, hout], by omega⟩
  obtain ⟨hclosed, hcount_eq, hpos⟩ := hcount
  refine ⟨⟨?_, fun hd => ?_, fun hzero => by omega⟩, hpos, hcount_eq⟩
  · rw [hclosed, if_neg (by omega)]
    rfl
  · rw [hn] at hd
    cases hd

/-- A call that drops a reference meets the rule if the count stays above 0 after it. Else the
handle is closed too early or the count wraps. -/
theorem closes_of_drops_iff (hok : CountOk object x) (hd : c.drops object = true)
    (hstep : step object x c = some y) :
    ClosesOnLastDrop object x.1 x.2 c y.1 y.2 ↔ 2 ≤ (x.2.outstanding - 1) % 2 ^ 32 := by
  obtain ⟨hh, hy⟩ := step_eq_some hstep
  have hheld := hok.held
  have hout := outstanding_step hh
  rw [if_neg (by rw [takes_of_drops hd]; decide), if_pos hd] at hout
  have hclosed : y.1.closed.count object =
      x.1.closed.count object + if (x.2.outstanding - 1) % 2 ^ 32 = 1 then 1 else 0 := by
    rw [hy, step_of_drops hd, closed_dereference, ← hok.count_toNat]
    by_cases hone : x.1.count object - 1 = 0
    · rw [if_pos hone, if_pos ((sub_one_eq_zero_iff _).mp hone), List.count_cons_self]
    · rw [if_neg hone, if_neg (fun h => hone ((sub_one_eq_zero_iff _).mpr h))]
      rfl
  constructor
  · intro hcloses
    have hne : (x.2.outstanding - 1) % 2 ^ 32 ≠ 0 := by
      intro hzero
      refine hcloses.noWrap hd (BitVec.eq_of_toNat_eq ?_)
      rw [hok.count_toNat, hzero]
      rfl
    by_contra hlow
    have hone : (x.2.outstanding - 1) % 2 ^ 32 = 1 := by omega
    have hlast := hcloses.closed
    rw [hclosed, if_pos hone, if_neg (by omega)] at hlast
    omega
  · intro hhigh
    have hpos : y.2.outstanding ≠ 0 := by omega
    refine ⟨?_, fun _ hzero => ?_, fun h => absurd h hpos⟩
    · rw [hclosed, if_neg (by omega), if_neg (fun h => hpos h.2)]
    · have hcount := hok.count_toNat
      have hzero' : (x.1.count object).toNat = 0 := by rw [hzero]; rfl
      omega

theorem countOk_of_drops (hok : CountOk object x) (hd : c.drops object = true)
    (hhigh : 2 ≤ (x.2.outstanding - 1) % 2 ^ 32) (hstep : step object x c = some y) :
    CountOk object y := by
  obtain ⟨hh, hy⟩ := step_eq_some hstep
  have hout := outstanding_step hh
  rw [if_neg (by rw [takes_of_drops hd]; decide), if_pos hd] at hout
  refine ⟨by omega, ?_⟩
  have hsucc : x.2.outstanding - 1 = (y.2.outstanding - 1) + 1 := by omega
  rw [hy, step_of_drops hd, count_dereference, hok.count_eq, hsucc, BitVec.ofNat_add]
  exact BitVec.add_sub_cancel _ _

/-! ## Sequences of calls -/

theorem meets_iff_dropsEarly (hok : CountOk object x) (hstep : step object x c = some y) :
    Meets object x c ↔ DropsEarly object x c := by
  have hmeets : Meets object x c ↔ ClosesOnLastDrop object x.1 x.2 c y.1 y.2 := by
    refine ⟨fun h => h y hstep, fun h y' hy' => ?_⟩
    obtain rfl : y = y' := Option.some.inj (hstep.symm.trans hy')
    exact h
  rw [hmeets]
  by_cases hd : c.drops object = true
  · rw [closes_of_drops_iff hok hd hstep]
    exact ⟨fun h _ => h, fun h => h hd⟩
  · exact iff_of_true (closes_of_not_drops hok (eq_false_of_ne_true hd) hstep).1
      (fun h => absurd h hd)

theorem countOk_step (hok : CountOk object x) (hearly : DropsEarly object x c)
    (hstep : step object x c = some y) : CountOk object y := by
  by_cases hd : c.drops object = true
  · exact countOk_of_drops hok hd (hearly hd) hstep
  · exact (closes_of_not_drops hok (eq_false_of_ne_true hd) hstep).2

theorem countOk_fresh (hs : s.objectReferences object = none) :
    CountOk object (s, Holders.fresh) := by
  refine ⟨Nat.one_pos, ?_⟩
  simp [State.count, hs, Holders.fresh, Holders.outstanding]

/--
Whatever calls are made, for this object and for others, once its handle exists: they meet the rule
if and only if every reference is dropped early. None of those drops is that of the last reference,
so a sequence that drops the last one does not meet it.
-/
theorem closes_on_last_drop_iff (object : Pvoid) (s : State) (calls : List Call)
    (y : State × Holders) (hs : s.objectReferences object = none)
    (hrun : exec (step object) (s, Holders.fresh) calls = some y) :
    (Guarded (step object) (Meets object) (s, Holders.fresh) calls ↔
      Guarded (step object) (DropsEarly object) (s, Holders.fresh) calls) ∧
    (y.2.outstanding = 0 →
      ¬ Guarded (step object) (Meets object) (s, Holders.fresh) calls) := by
  have hiff : Guarded (step object) (Meets object) (s, Holders.fresh) calls ↔
      Guarded (step object) (DropsEarly object) (s, Holders.fresh) calls :=
    guarded_iff_of_exec (P := CountOk object)
      (fun x c y hok hstep => meets_iff_dropsEarly hok hstep)
      (fun x c y hok hearly hstep => countOk_step hok hearly hstep) (countOk_fresh hs) hrun
  refine ⟨hiff, fun hzero hmeets => ?_⟩
  have hok : CountOk object y :=
    exec_invariant_of_guard (fun x c y hok hearly hstep => countOk_step hok hearly hstep)
      (countOk_fresh hs) (hiff.mp hmeets) hrun
  exact absurd hzero (Nat.ne_of_gt hok.held)

/-- No object has an entry. -/
def State.init : State := ⟨fun _ => none, []⟩

/-- Two references are taken, and then the handle is closed. -/
def closedSecondLast (object : Pvoid) : List Call :=
  [.referenceObject object, .referenceObjectByHandle object false, .closeHandle object]

theorem closes_on_last_drop_iff_closedSecondLast :
    Guarded (step 8) (Meets 8) (State.init, Holders.fresh) (closedSecondLast 8) ∧
      (State.init.step (.referenceObject 8)).count 8 = 1 :=
  ⟨(closes_on_last_drop_iff 8 State.init (closedSecondLast 8) _ rfl rfl).1.mpr
    (guarded_of_check (by decide)), rfl⟩

/-- The handle is closed without a reference ever being taken: `CloseHandle` is not called, and the
count wraps and stays. With a reference that is dropped later,
`ObCloseHandle` calls it too early. -/
theorem close_wraps_count :
    (∃ y, exec (step 8) (State.init, Holders.fresh) [.closeHandle 8] = some y ∧
      y.2.outstanding = 0 ∧ y.1.closed = [] ∧ y.1.objectReferences 8 = some 0xFFFFFFFF) ∧
    (∃ y, exec (step 8) (State.init, Holders.fresh) [.referenceObject 8, .closeHandle 8] = some y ∧
      y.2.outstanding = 1 ∧ y.1.closed = [8]) ∧
    ¬ Guarded (step 8) (Meets 8) (State.init, Holders.fresh) [.closeHandle 8] := by
  refine ⟨⟨_, rfl, rfl, rfl, rfl⟩, ⟨_, rfl, rfl, rfl⟩, fun h => ?_⟩
  have hcloses := h.1 _ rfl
  exact hcloses.noWrap rfl rfl

end Usersim.Ob
