import Mathlib.Data.List.Nodup
import Usersim.Nmr.Bindings

/-!
# One binding per pair

`add` and the scan of `perform_bind` are two critical sections. A scan that finds a matching
registration whose own scan is still to come makes a binding, and the later scan makes another one
for the same pair. Without such a scan (`ScanApart`) no pair ever gets two bindings (`Distinct`);
and if nobody deregisters, every matching pair gets one.
-/

namespace Usersim.Nmr

open Lib

variable {s s' : State} {a : Action} {t : Tid} {b : BindingId} {side : Side} {h : Handle}

/-! ## The scan -/

theorem matches_congr {pair : Side → Handle}
    (hnpi : ∀ y, (s'.registration (pair y)).npiId = (s.registration (pair y)).npiId) :
    s'.Matches pair ↔ s.Matches pair := by
  unfold State.Matches
  rw [hnpi, hnpi]

theorem bound_matches (pair pair' : Side → Handle) :
    (bound s pair').Matches pair ↔ s.Matches pair := by
  refine matches_congr ?_
  intro y
  obtain ⟨c, hc⟩ := bound_registration s pair' (pair y)
  rw [hc]

theorem bound_deregistering (pair : Side → Handle) (x : Handle) :
    ((bound s pair).registration x).deregistering = (s.registration x).deregistering := by
  obtain ⟨c, hc⟩ := bound_registration s pair x
  rw [hc]

theorem pairOf_inj {x y : Handle} (heq : pairOf side h x = pairOf side h y) : x = y := by
  have hother := congrFun heq side.other
  simpa [pairOf, side.ne_other.symm] using hother

/-- What the scan of `perform_bind` makes. -/
structure ScanSpec (side : Side) (h : Handle) (s : State) (targets : List Handle) (s' : State)
    (todo : List BindingId) : Prop where
  bindings : s'.bindings = s.bindings ++ todo
  nodup : todo.Nodup
  mem : ∀ b, b ∈ todo ↔ s.nextBinding ≤ b ∧ b < s'.nextBinding
  le : s.nextBinding ≤ s'.nextBinding
  old : ∀ b, b < s.nextBinding → s'.binding b = s.binding b
  made : ∀ b ∈ todo, ∃ target ∈ targets, s.Matches (pairOf side h target) ∧
    s'.binding b = .new (pairOf side h target)
  unique : ∀ b ∈ todo, ∀ b' ∈ todo,
    (s'.binding b).registration = (s'.binding b').registration → b = b'
  complete : ∀ target ∈ targets, s.Matches (pairOf side h target) →
    (∃ y, (s.registration (pairOf side h target y)).deregistering = true) ∨
      ∃ b ∈ todo, s'.binding b = .new (pairOf side h target)

/-- One more target is bound. -/
theorem ScanSpec.cons {target : Handle} {targets : List Handle} {todo : List BindingId}
    (hsp : ScanSpec side h (bound s (pairOf side h target)) targets s' todo)
    (hm : s.Matches (pairOf side h target)) (hnew : target ∉ targets) :
    ScanSpec side h s (target :: targets) s' (s.nextBinding :: todo) := by
  have hfirst : s'.binding s.nextBinding = .new (pairOf side h target) := by
    rw [hsp.old s.nextBinding (Nat.lt_succ_self _)]
    exact Function.update_self ..
  have hlt : s.nextBinding < s'.nextBinding := hsp.le
  have hrest : ∀ b ∈ todo, s.nextBinding < b := fun b hb => ((hsp.mem b).mp hb).1
  -- the pairs of the later targets are other pairs
  have hne : ∀ b ∈ todo, (s'.binding b).registration ≠ (s'.binding s.nextBinding).registration := by
    intro b hb heq
    obtain ⟨tg, htg, -, hnew'⟩ := hsp.made b hb
    rw [hnew', hfirst] at heq
    exact hnew (pairOf_inj heq ▸ htg)
  refine ⟨?_, ?_, ?_, Nat.le_of_lt hlt, ?_, ?_, ?_, ?_⟩
  · rw [hsp.bindings]
    show s.bindings ++ [s.nextBinding] ++ todo = _
    rw [List.append_assoc]
    rfl
  · refine List.nodup_cons.mpr ⟨fun hm' => Nat.lt_irrefl _ (hrest _ hm'), hsp.nodup⟩
  · intro b
    rw [List.mem_cons, hsp.mem]
    show b = s.nextBinding ∨ s.nextBinding + 1 ≤ b ∧ b < s'.nextBinding ↔ _
    constructor
    · rintro (rfl | ⟨hge, hb⟩)
      · exact ⟨Nat.le_refl _, hlt⟩
      · exact ⟨Nat.le_of_succ_le hge, hb⟩
    · rintro ⟨hge, hb⟩
      rcases Nat.eq_or_lt_of_le hge with heq | hgt
      · exact Or.inl heq.symm
      · exact Or.inr ⟨hgt, hb⟩
  · intro b hb
    rw [hsp.old b (Nat.lt_succ_of_lt hb)]
    exact Function.update_of_ne (Nat.ne_of_lt hb) ..
  · intro b hb
    rcases List.mem_cons.mp hb with rfl | hb
    · exact ⟨target, List.mem_cons_self .., hm, hfirst⟩
    · obtain ⟨tg, htg, hmt, hnew'⟩ := hsp.made b hb
      exact ⟨tg, List.mem_cons_of_mem _ htg, (bound_matches _ _).mp hmt, hnew'⟩
  · intro b hb b' hb' heq
    rcases List.mem_cons.mp hb with rfl | hb <;> rcases List.mem_cons.mp hb' with rfl | hb'
    · rfl
    · exact absurd heq.symm (hne b' hb')
    · exact absurd heq (hne b hb)
    · exact hsp.unique b hb b' hb' heq
  · intro tg htg hmt
    rcases List.mem_cons.mp htg with rfl | htg
    · exact Or.inr ⟨s.nextBinding, List.mem_cons_self .., hfirst⟩
    · rcases hsp.complete tg htg ((bound_matches _ _).mpr hmt) with ⟨y, hy⟩ | ⟨b, hb, hnew'⟩
      · rw [bound_deregistering] at hy
        exact Or.inl ⟨y, hy⟩
      · exact Or.inr ⟨b, List.mem_cons_of_mem _ hb, hnew'⟩

theorem bindAll_spec (side : Side) (h : Handle) (targets : List Handle) (s : State)
    (hnd : targets.Nodup) :
    ScanSpec side h s targets (bindAll side h s targets).1 (bindAll side h s targets).2 := by
  induction targets generalizing s with
  | nil =>
    refine ⟨(List.append_nil _).symm, List.nodup_nil, ?_, Nat.le_refl _, fun _ _ => rfl,
      fun _ h => absurd h List.not_mem_nil, fun _ h => absurd h List.not_mem_nil,
      fun _ h => absurd h List.not_mem_nil⟩
    intro b
    refine iff_of_false List.not_mem_nil ?_
    rintro ⟨hge, hlt⟩
    exact absurd hlt (Nat.not_lt.mpr hge)
  | cons target targets ih =>
    obtain ⟨hnew, hnd⟩ := List.nodup_cons.mp hnd
    rcases bindAll_cons side h target targets s with ⟨heq, hno⟩ | ⟨heq, hm, -⟩
    · rw [heq]
      have hsp := ih s hnd
      refine ⟨hsp.bindings, hsp.nodup, hsp.mem, hsp.le, hsp.old, ?_, hsp.unique, ?_⟩
      · intro b hb
        obtain ⟨tg, htg, hrest⟩ := hsp.made b hb
        exact ⟨tg, List.mem_cons_of_mem _ htg, hrest⟩
      · intro tg htg hmt
        rcases List.mem_cons.mp htg with rfl | htg
        · exact Or.inl (hno hmt)
        · exact hsp.complete tg htg hmt
    · rw [heq]
      exact (ih _ hnd).cons hm hnew

/-! ## No pair has two bindings -/

structure Distinct (s : State) : Prop where
  scanned : ∀ b, b < s.nextBinding → ∀ y,
    (s.binding b).registration y < s.nextHandle ∧ s.Scanned ((s.binding b).registration y)
  matching : ∀ b, b < s.nextBinding → s.Matches (s.binding b).registration
  unique : ∀ b b', b < s.nextBinding → b' < s.nextBinding →
    (s.binding b).registration = (s.binding b').registration → b = b'

theorem distinct_init : Distinct State.init where
  scanned := fun _ h => absurd h (Nat.not_lt_zero _)
  matching := fun _ h => absurd h (Nat.not_lt_zero _)
  unique := fun _ _ h => absurd h (Nat.not_lt_zero _)

def Op.scanning : Op → Option (Side × Handle)
  | .performBind side h => some (side, h)
  | _ => none

/-- Every matching registration that a scan of `perform_bind` finds is through its own scan. -/
def ScanApart (s : State) : Action → Prop
  | .bindScan t => ∀ p ∈ (s.ops t).scanning, ∀ target ∈ s.collection p.1.other,
    s.Matches (pairOf p.1 p.2 target) → s.Scanned target
  | _ => True

/-- The state right after a scan. -/
theorem bindScan_spec (hs : Handles s) (hop : s.ops t = .performBind side h)
    (he : Effect s (.bindScan t) s') :
    ScanSpec side h s (s.collection side.other) s' (s'.ops t).attachList ∧
      s'.life = Function.update s.life h (.registering t) := by
  cases he with
  | @bindScan _ side' h' hop' =>
    obtain ⟨rfl, rfl⟩ : side = side' ∧ h = h' := by
      rw [hop] at hop'
      cases hop'
      exact ⟨rfl, rfl⟩
    have hsp := bindAll_spec side h _ s (hs.nodup side.other)
    obtain ⟨-, hlife, -, -, -⟩ := bindAll_frame side h (s.collection side.other) s
    refine ⟨?_, ?_⟩
    · simp only [State.setOp, State.setLife, Function.update_self, Op.attachList]
      exact ⟨hsp.bindings, hsp.nodup, hsp.mem, hsp.le, hsp.old, hsp.made, hsp.unique, hsp.complete⟩
    · simp only [State.setOp, State.setLife, hlife]

theorem pairOf_cases {p : Handle → Prop} {target : Handle} (hh : p h) (ht : p target) (y : Side) :
    p (pairOf side h target y) := by
  unfold pairOf
  split
  · exact hh
  · exact ht

theorem distinct_step (hd : Distinct s) (hs : Handles s) (hg : ScanApart s a)
    (he : Effect s a s') : Distinct s' := by
  have hchar : ∀ b, b < s.nextBinding →
      (s'.Matches (s.binding b).registration ↔ s.Matches (s.binding b).registration) := by
    intro b hb
    exact matches_congr fun y => (he.characteristics (hd.scanned b hb y).1).1
  have hkeep : ∀ b, b < s.nextBinding → ∀ y, (s.binding b).registration y < s'.nextHandle ∧
      s'.Scanned ((s.binding b).registration y) := by
    intro b hb y
    obtain ⟨hlt, hsc⟩ := hd.scanned b hb y
    exact ⟨Nat.lt_of_lt_of_le hlt he.nextHandle_le, he.scanned hlt hsc⟩
  by_cases ha : ∃ t, a = .bindScan t
  · obtain ⟨t, rfl⟩ := ha
    obtain ⟨side, h, hop⟩ : ∃ side h, s.ops t = .performBind side h := by
      cases he with
      | bindScan hop => exact ⟨_, _, hop⟩
    obtain ⟨hsp, hlife⟩ := bindScan_spec hs hop he
    obtain ⟨hmem, hadd⟩ := hs.owned t side h _ (by rw [hop]; rfl)
    have hnew : ∀ b, b < s'.nextBinding → b < s.nextBinding ∨ b ∈ (s'.ops t).attachList := by
      intro b hb
      by_cases hold : b < s.nextBinding
      · exact Or.inl hold
      · exact Or.inr ((hsp.mem b).mpr ⟨Nat.not_lt.mp hold, hb⟩)
    have hself : s'.Scanned h := by
      show (s'.life h).isAdding = false
      rw [hlife, Function.update_self]
      rfl
    -- a binding is made only for registrations that are through their scan, and `h` is not
    have hold : ∀ b, b < s.nextBinding → (s.binding b).registration side ≠ h := by
      rintro b hb rfl
      have hsc := (hd.scanned b hb side).2
      rw [State.Scanned, hadd] at hsc
      cases hsc
    have hmade : ∀ b ∈ (s'.ops t).attachList, (s'.binding b).registration side = h := by
      intro b hb
      obtain ⟨tg, -, -, heq⟩ := hsp.made b hb
      rw [heq]
      exact if_pos rfl
    refine ⟨?_, ?_, ?_⟩
    · intro b hb
      rcases hnew b hb with hb | hb
      · rw [hsp.old b hb]
        exact hkeep b hb
      · obtain ⟨tg, htg, hm, heq⟩ := hsp.made b hb
        rw [heq]
        have hsc : s.Scanned tg := hg (side, h) (by rw [hop]; rfl) tg htg hm
        have hlt := hs.lt side.other tg htg
        exact pairOf_cases (p := fun x => x < s'.nextHandle ∧ s'.Scanned x)
          ⟨Nat.lt_of_lt_of_le (hs.lt side h hmem) he.nextHandle_le, hself⟩
          ⟨Nat.lt_of_lt_of_le hlt he.nextHandle_le, he.scanned hlt hsc⟩
    · intro b hb
      rcases hnew b hb with hb | hb
      · rw [hsp.old b hb]
        exact (hchar b hb).mpr (hd.matching b hb)
      · obtain ⟨tg, htg, hm, heq⟩ := hsp.made b hb
        rw [heq]
        refine (matches_congr fun y => ?_).mpr hm
        exact (he.characteristics (pairOf_cases (p := (· < s.nextHandle)) (hs.lt side h hmem)
          (hs.lt _ tg htg) y)).1
    · intro b b' hb hb' heq
      rcases hnew b hb with hb | hb <;> rcases hnew b' hb' with hb' | hb'
      · rw [hsp.old b hb, hsp.old b' hb'] at heq
        exact hd.unique b b' hb hb' heq
      · have hx := congrFun heq side
        rw [hsp.old b hb, hmade b' hb'] at hx
        exact absurd hx (hold b hb)
      · have hx := congrFun heq side
        rw [hsp.old b' hb', hmade b hb] at hx
        exact absurd hx.symm (hold b' hb')
      · exact hsp.unique b hb b' hb' heq
  · obtain ⟨hnext, hreg⟩ := he.pairs fun t hat => ha ⟨t, hat⟩
    refine ⟨?_, ?_, ?_⟩
    · intro b hb
      rw [hnext] at hb
      rw [hreg]
      exact hkeep b hb
    · intro b hb
      rw [hnext] at hb
      rw [hreg]
      exact (hchar b hb).mpr (hd.matching b hb)
    · intro b b' hb hb' heq
      rw [hnext] at hb hb'
      rw [hreg, hreg] at heq
      exact hd.unique b b' hb hb' heq

/-! ## Registrations that are not through their scan -/

/-- A registration that is not through its scan is at the hands of a thread
that is about to scan. -/
def Adding (s : State) : Prop := ∀ x t, s.life x = .adding t → ∃ side, s.ops t = .performBind side x

theorem adding_init : Adding State.init := by
  intro x t h
  cases h

theorem adding_step (hd : Adding s) (he : Effect s a s') : Adding s' := by
  intro x u hx
  rcases he.adding_cases hx with hold | ⟨-, -, hnew⟩
  · obtain ⟨side, hop⟩ := hd x u hold
    by_cases hu : u = a.tid
    · -- the only thing the thread can do is to scan, and then the registration is through its scan
      subst hu
      cases he with
      | @bindScan t sd y hop' =>
        obtain ⟨-, hlife, -, -, -⟩ := bindAll_frame sd y (s.collection sd.other) s
        cases hop'.symm.trans hop
        simp only [State.setOp, State.setLife, hlife, Function.update_self] at hx
        cases hx
      | register hop' | deregister hop' _ _ | wait hop' _ _ | detachComplete hop' _ _
      | detachInvalid hop' _ _ | attach hop' | clientAttachProvider hop' _ | attachInvalid hop' _
      | providerAttachReturn hop' | attachSucceeds hop' | attachFails hop' | registerReturn hop'
      | unbindScan hop' _ | passOver hop' _ | beginUnbind hop' _ _ _ | clientDetachReturn hop' _ _ _
      | providerDetachReturn hop' _ | commit hop' | finishUnbind hop' | finishDetach hop'
      | unbindPending hop' | unbindDone hop' | removeBlocks hop' _ | remove hop' _ | wake hop' _ =>
        exact absurd (hop'.symm.trans hop) (by simp)
    · exact ⟨side, by rw [he.ops_of_ne hu, hop]⟩
  · exact hnew

/-! ## Every matching pair has a binding -/

/-- A run of registrations, all of whose attaches succeed. -/
def RegisterOnly : Action → Prop
  | .register .. | .bindScan _ | .attach _ | .clientAttachProvider .. | .providerAttachReturn ..
  | .registerReturn _ => True
  | .attachReturn _ success => success = true
  | _ => False

theorem RegisterOnly.contract (hr : RegisterOnly a) : Contract s a := by
  cases a <;> first | exact hr.elim | trivial

structure Complete (s : State) : Prop where
  active : ∀ x, (s.registration x).deregistering = false
  entry : ∀ b, b < s.nextBinding → b ∈ s.bindings ∧
    ∀ y, (s.binding b).registration y ∈ s.collection y
  bound : ∀ pair : Side → Handle, (∀ y, pair y ∈ s.collection y ∧ s.Scanned (pair y)) →
    s.Matches pair → ∃ b, b < s.nextBinding ∧ (s.binding b).registration = pair

theorem complete_init : Complete State.init where
  active := fun _ => rfl
  entry := fun _ h => absurd h (Nat.not_lt_zero _)
  bound := fun _ h => absurd (h .client).1 List.not_mem_nil

/-- An action after the scan of its registration. -/
theorem Complete.quiet (hc : Complete s) (he : Effect s a s')
    (ha : ∀ t, a ≠ .bindScan t) (hcol : s'.collection = s.collection)
    (hb : s'.bindings = s.bindings) (hreg : s'.registration = s.registration)
    (hscan : ∀ x, s'.Scanned x → s.Scanned x) : Complete s' := by
  obtain ⟨hnext, hpairs⟩ := he.pairs ha
  refine ⟨?_, ?_, ?_⟩
  · rw [hreg]
    exact hc.active
  · rw [hnext, hcol, hb]
    intro b hlt
    rw [hpairs]
    exact hc.entry b hlt
  · rw [hcol, hnext]
    intro pair hp hm
    have hm' : s.Matches pair := (matches_congr fun y => by rw [hreg]).mp hm
    obtain ⟨b, hlt, heq⟩ := hc.bound pair (fun y => ⟨(hp y).1, hscan _ (hp y).2⟩) hm'
    exact ⟨b, hlt, by rw [hpairs, heq]⟩

theorem Complete.add (hc : Complete s) (hs : Handles s) {npiId : Option Nat} {hasCleanup : Bool}
    (he : Effect s (.register t side npiId hasCleanup) s') : Complete s' := by
  obtain ⟨hnext, hpairs⟩ := he.pairs (by simp)
  have hchar := fun x hx => (he.characteristics (x := x) hx).1
  cases he with
  | register hop =>
    have hold : ∀ sd x,
        x ∈ Function.update s.collection side (s.collection side ++ [s.nextHandle]) sd →
          x ∈ s.collection sd ∨ x = s.nextHandle := by
      intro sd x hm
      by_cases hsd : sd = side
      · subst hsd
        simpa using hm
      · exact Or.inl (by simpa [hsd] using hm)
    refine ⟨?_, ?_, ?_⟩
    · intro x
      by_cases hx : x = s.nextHandle
      · simp [hx, Registration.empty]
      · simpa [hx] using hc.active x
    · intro b hlt
      obtain ⟨hm, hp⟩ := hc.entry b hlt
      refine ⟨hm, ?_⟩
      intro y
      show _ ∈ Function.update s.collection side _ y
      by_cases hy : y = side
      · subst hy
        rw [Function.update_self]
        exact List.mem_append_left _ (hp y)
      · rw [Function.update_of_ne hy]
        exact hp y
    · intro pair hp hm
      -- the new registration is not through its scan, so it is not one of the pair
      have hmem : ∀ y, pair y ∈ s.collection y ∧ s.Scanned (pair y) := by
        intro y
        obtain ⟨hy, hsc⟩ := hp y
        have hne : pair y ≠ s.nextHandle := by
          intro heq
          simp only [State.Scanned, State.setOp, State.setLife, heq, Function.update_self] at hsc
          cases hsc
        refine ⟨(hold y _ hy).resolve_right hne, ?_⟩
        simpa [State.Scanned, hne] using hsc
      have hm' : s.Matches pair :=
        (matches_congr fun y => hchar _ (hs.lt y _ (hmem y).1)).mp hm
      exact hc.bound pair hmem hm'

/-- The scan makes the bindings of the new registration. -/
theorem Complete.scan (hc : Complete s) (hs : Handles s) (hop : s.ops t = .performBind side h)
    (he : Effect s (.bindScan t) s') : Complete s' := by
  obtain ⟨hsp, hlife⟩ := bindScan_spec hs hop he
  obtain ⟨hmem, -⟩ := hs.owned t side h _ (by rw [hop]; rfl)
  have hcol : s'.collection = s.collection := by
    cases he with
    | @bindScan _ sd x _ => exact (bindAll_frame sd x (s.collection sd.other) s).1
  have hder : ∀ x, (s'.registration x).deregistering = (s.registration x).deregistering := by
    intro x
    cases he with
    | @bindScan _ sd y _ =>
      obtain ⟨c, hreg⟩ := bindAll_registration sd y (s.collection sd.other) s x
      show ((Nmr.bindAll sd y s (s.collection sd.other)).1.registration x).deregistering = _
      rw [hreg]
  have hscan : ∀ x, x ≠ h → s'.Scanned x → s.Scanned x := by
    intro x hx hsc
    rw [State.Scanned, hlife, Function.update_of_ne hx] at hsc
    exact hsc
  refine ⟨?_, ?_, ?_⟩
  · intro x
    rw [hder]
    exact hc.active x
  · intro b hlt
    rw [hsp.bindings, hcol]
    by_cases hold : b < s.nextBinding
    · obtain ⟨hm, hp⟩ := hc.entry b hold
      rw [hsp.old b hold]
      exact ⟨List.mem_append_left _ hm, hp⟩
    · have hb : b ∈ (s'.ops t).attachList := (hsp.mem b).mpr ⟨Nat.not_lt.mp hold, hlt⟩
      obtain ⟨tg, htg, -, heq⟩ := hsp.made b hb
      refine ⟨List.mem_append_right _ hb, ?_⟩
      intro y
      rw [heq]
      rcases side.eq_or_eq_other y with rfl | rfl
      · simpa [Binding.new, pairOf] using hmem
      · simpa [Binding.new, pairOf, side.ne_other.symm] using htg
  · rw [hcol]
    intro pair hp hm
    have hm' : s.Matches pair :=
      (matches_congr fun y => (he.characteristics (hs.lt y _ (hp y).1)).1).mp hm
    by_cases hself : pair side = h
    · -- a pair of the new registration: the scan has found the other one
      have hpair : pairOf side h (pair side.other) = pair := by
        funext y
        rcases side.eq_or_eq_other y with rfl | rfl
        · simp [pairOf, hself]
        · simp [pairOf, side.ne_other.symm]
      rcases hsp.complete _ (hp side.other).1 (hpair.symm ▸ hm') with ⟨y, hy⟩ | ⟨b, hb, heq⟩
      · rw [hc.active] at hy
        cases hy
      · exact ⟨b, ((hsp.mem b).mp hb).2, by rw [heq]; exact hpair⟩
    · have hne : ∀ y, pair y ≠ h := by
        intro y heq
        rcases side.eq_or_eq_other y with rfl | rfl
        · exact hself heq
        · cases side
          · exact hs.oneSide h hmem (heq ▸ (hp _).1)
          · exact hs.oneSide h (heq ▸ (hp _).1) hmem
      obtain ⟨b, hlt, heq⟩ :=
        hc.bound pair (fun y => ⟨(hp y).1, hscan _ (hne y) (hp y).2⟩) hm'
      exact ⟨b, Nat.lt_of_lt_of_le hlt hsp.le, by rw [hsp.old b hlt, heq]⟩

theorem complete_step (hc : Complete s) (hs : Handles s) (hr : RegisterOnly a)
    (he : Effect s a s') : Complete s' := by
  have he' := he
  cases he with
  | register hop => exact hc.add hs he'
  | bindScan hop => exact hc.scan hs hop he'
  | attach hop | clientAttachProvider hop _ | attachInvalid hop _ | providerAttachReturn hop
  | attachSucceeds hop =>
    exact hc.quiet he' (by simp) rfl rfl rfl fun _ => id
  | attachFails hop => cases hr
  | @registerReturn t side h hop =>
    obtain ⟨-, hl⟩ := hs.owned t side h _ (by rw [hop]; rfl)
    refine hc.quiet he' (by simp) rfl rfl rfl ?_
    intro x hx
    by_cases hxh : x = h
    · rw [hxh, State.Scanned, hl]
      rfl
    · simpa [State.Scanned, hxh] using hx
  | _ => exact hr.elim

/-! ## Every binding is attached once -/

/-- The bindings for which a thread has yet to call `ClientAttachProvider`. -/
def Op.waiting : Op → List BindingId
  | .attaching _ _ todo | .inClientAttach _ _ _ todo | .inProviderAttach _ _ _ todo => todo
  | _ => []

theorem Op.waiting_sublist (op : Op) : op.waiting.Sublist op.attachList := by
  cases op <;> first | exact List.Sublist.refl _ | exact List.sublist_cons_self ..

def Event.attachCall : Event → Option BindingId
  | .attachCalled b _ _ => some b
  | _ => none

/-- The bindings for which `ClientAttachProvider` was called, newest first. -/
def State.calls (s : State) : List BindingId := s.log.filterMap Event.attachCall

structure Called (s : State) : Prop where
  nodup : s.calls.Nodup
  mem : ∀ b, b ∈ s.calls ↔ b < s.nextBinding ∧ ∀ t, b ∉ (s.ops t).waiting
  pair : ∀ b client provider, .attachCalled b client provider ∈ s.log →
    client = (s.binding b).registration .client ∧ provider = (s.binding b).registration .provider

theorem called_init : Called State.init where
  nodup := List.nodup_nil
  mem := fun b => iff_of_false List.not_mem_nil fun h => Nat.not_lt_zero b h.1
  pair := fun _ _ _ h => absurd h List.not_mem_nil

theorem mem_calls_of_mem {client provider : Handle}
    (hm : .attachCalled b client provider ∈ s.log) : b ∈ s.calls :=
  List.mem_filterMap.mpr ⟨_, hm, rfl⟩

/-- An action that calls no `ClientAttachProvider`. -/
theorem Called.quiet (hk : Called s) (he : Effect s a s') (ha : ∀ t, a ≠ .bindScan t)
    (new : List Event) (hlog : s'.log = new ++ s.log) (hnew : ∀ e ∈ new, e.attachCall = none)
    (hw : (s'.ops a.tid).waiting = (s.ops a.tid).waiting) : Called s' := by
  obtain ⟨hnext, hreg⟩ := he.pairs ha
  have hcalls : s'.calls = s.calls := by
    rw [State.calls, hlog, List.filterMap_append, List.filterMap_eq_nil_iff.mpr hnew]
    rfl
  have hwait : ∀ u, (s'.ops u).waiting = (s.ops u).waiting := by
    intro u
    by_cases hu : u = a.tid
    · rw [hu, hw]
    · rw [he.ops_of_ne hu]
  refine ⟨?_, ?_, ?_⟩
  · rw [hcalls]
    exact hk.nodup
  · intro b
    rw [hcalls, hk.mem, hnext]
    simp only [hwait]
  · intro b client provider hm
    rw [hlog] at hm
    rw [hreg]
    rcases List.mem_append.mp hm with hm | hm
    · cases hnew _ hm
    · exact hk.pair b client provider hm

theorem Called.scan (hk : Called s) (hs : Handles s) (hop : s.ops t = .performBind side h)
    (he : Effect s (.bindScan t) s') : Called s' := by
  obtain ⟨hsp, -⟩ := bindScan_spec hs hop he
  have hlog : s'.log = s.log := by
    cases he with
    | @bindScan _ sd x _ => exact (bindAll_frame sd x (s.collection sd.other) s).2.2.2.2
  have hcalls : s'.calls = s.calls := by rw [State.calls, hlog]; rfl
  have hwait : (s'.ops t).waiting = (s'.ops t).attachList := by
    cases he with
    | bindScan _ =>
      simp only [State.setOp, Function.update_self]
      rfl
  refine ⟨?_, ?_, ?_⟩
  · rw [hcalls]
    exact hk.nodup
  · intro b
    rw [hcalls, hk.mem]
    constructor
    · rintro ⟨hlt, hno⟩
      refine ⟨Nat.lt_of_lt_of_le hlt hsp.le, ?_⟩
      intro u hu
      by_cases hut : u = t
      · rw [hut, hwait] at hu
        exact absurd hlt (Nat.not_lt.mpr ((hsp.mem b).mp hu).1)
      · rw [he.ops_of_ne hut] at hu
        exact hno u hu
    -- what the scan has made is in the thread's list, not called yet
    · rintro ⟨hlt, hno⟩
      have hold : b < s.nextBinding := by
        by_contra hge
        refine hno t ?_
        rw [hwait]
        exact (hsp.mem b).mpr ⟨Nat.not_lt.mp hge, hlt⟩
      refine ⟨hold, ?_⟩
      intro u hu
      by_cases hut : u = t
      · rw [hut, hop] at hu
        exact absurd hu List.not_mem_nil
      · rw [← he.ops_of_ne hut] at hu
        exact hno u hu
  · intro b client provider hm
    rw [hlog] at hm
    rw [hsp.old b ((hk.mem b).mp (mem_calls_of_mem hm)).1]
    exact hk.pair b client provider hm

/-- The next pending action of a thread. -/
theorem Called.attach (hk : Called s) (hb : Bindings s) {todo : List BindingId}
    (hop : s.ops t = .attaching side h (b :: todo)) (he : Effect s (.attach t) s') : Called s' := by
  have hlist : (s.ops t).attachList = b :: todo := by rw [hop]; rfl
  have hmem : b ∈ (s.ops t).attachList := by rw [hlist]; exact List.mem_cons_self ..
  have hlt : b < s.nextBinding := hb.lt b (hb.attachStart t b hmem).1
  -- it is in a list of bindings to call, so it has not been called
  have hnew : b ∉ s.calls := by
    rw [hk.mem]
    rintro ⟨-, hno⟩
    refine hno t ?_
    rw [hop]
    exact List.mem_cons_self ..
  obtain ⟨hnext, hreg⟩ := he.pairs (by simp)
  have hlog : s'.log = .attachCalled b ((s.binding b).registration .client)
      ((s.binding b).registration .provider) :: s.log ∧ (s'.ops t).waiting = todo := by
    cases he with
    | attach hop' =>
      rw [hop] at hop'
      cases hop'
      refine ⟨rfl, ?_⟩
      simp only [State.setOp, Function.update_self]
      rfl
  obtain ⟨hlog, hwait⟩ := hlog
  have hcalls : s'.calls = b :: s.calls := by
    rw [State.calls, hlog]
    rfl
  refine ⟨?_, ?_, ?_⟩
  · rw [hcalls]
    exact List.nodup_cons.mpr ⟨hnew, hk.nodup⟩
  · intro x
    rw [hcalls, List.mem_cons, hk.mem, hnext]
    constructor
    · rintro (rfl | ⟨hxlt, hno⟩)
      · refine ⟨hlt, ?_⟩
        intro u hu
        by_cases hut : u = t
        · rw [hut, hwait] at hu
          exact (List.nodup_cons.mp (hlist ▸ hb.attachNodup t)).1 hu
        · rw [he.ops_of_ne hut] at hu
          exact hut (hb.attachOwn u t x ((Op.waiting_sublist _).subset hu) hmem)
      · refine ⟨hxlt, ?_⟩
        intro u hu
        by_cases hut : u = t
        · rw [hut, hwait] at hu
          refine hno t ?_
          rw [hop]
          exact List.mem_cons_of_mem _ hu
        · rw [he.ops_of_ne hut] at hu
          exact hno u hu
    · rintro ⟨hxlt, hno⟩
      by_cases hx : x = b
      · exact Or.inl hx
      · refine Or.inr ⟨hxlt, ?_⟩
        intro u hu
        by_cases hut : u = t
        · rw [hut, hop] at hu
          refine hno t ?_
          rw [hwait]
          exact (List.mem_cons.mp hu).resolve_left hx
        · rw [← he.ops_of_ne hut] at hu
          exact hno u hu
  · intro x client provider hm
    rw [hlog] at hm
    rw [hreg]
    rcases List.mem_cons.mp hm with heq | hm
    · cases heq
      exact ⟨rfl, rfl⟩
    · exact hk.pair x client provider hm

theorem called_step (hk : Called s) (hs : Handles s) (hb : Bindings s) (hr : RegisterOnly a)
    (he : Effect s a s') : Called s' := by
  have he' := he
  have hone : ∀ {x : Event}, x.attachCall = none → ∀ e ∈ [x], e.attachCall = none := by
    intro x hx e hm
    rw [List.mem_singleton.mp hm]
    exact hx
  have hnil : ∀ e ∈ ([] : List Event), e.attachCall = none := fun _ h => absurd h List.not_mem_nil
  cases he with
  | register hop | providerAttachReturn hop =>
    exact hk.quiet he' (by simp) [] rfl hnil (by simp [Action.tid, hop]; rfl)
  | bindScan hop => exact hk.scan hs hop he'
  | attach hop => exact hk.attach hb hop he'
  | clientAttachProvider hop _ | attachSucceeds hop | registerReturn hop =>
    exact hk.quiet he' (by simp) [_] rfl (hone rfl) (by simp [Action.tid, hop]; rfl)
  | attachInvalid hop _ => exact hk.quiet he' (by simp) [_] rfl (hone rfl) rfl
  | attachFails hop => cases hr
  | _ => exact hr.elim

/-! ## Runs -/

/-- `ClientAttachProvider` is called for the pair. -/
def Event.attaches (client provider : Handle) : Event → Bool
  | .attachCalled _ x y => x == client && y == provider
  | _ => false

def Binding.binds (x : Binding) (client provider : Handle) : Bool :=
  x.pairHas .client client && x.pairHas .provider provider

/-- When all calls have returned, every matching pair has one binding and has been attached once,
and there are no other bindings. -/
def BoundOnce (s : State) : Prop :=
  AllReturned s →
    (∀ client ∈ s.collection .client, ∀ provider ∈ s.collection .provider,
      s.bindings.countP (fun b => (s.binding b).binds client provider) =
          (if s.Matches (pairOf .client client provider) then 1 else 0) ∧
        s.log.countP (Event.attaches client provider) =
          if s.Matches (pairOf .client client provider) then 1 else 0) ∧
    ∀ b ∈ s.bindings, ∀ y, (s.binding b).registration y ∈ s.collection y

theorem binds_iff {x : Binding} {client provider : Handle} :
    x.binds client provider = true ↔ x.registration = pairOf .client client provider := by
  simp only [Binding.binds, Binding.pairHas, Bool.and_eq_true, beq_iff_eq]
  constructor
  · rintro ⟨hc, hp⟩
    funext y
    cases y
    · exact hc
    · exact hp
  · intro heq
    rw [heq]
    exact ⟨rfl, rfl⟩

/-- At most one entry binds a pair. -/
theorem Distinct.count_eq_one (hd : Distinct s) (hb : Bindings s) {client provider : Handle}
    (hm : b ∈ s.bindings) (hp : (s.binding b).registration = pairOf .client client provider) :
    s.bindings.countP (fun b => (s.binding b).binds client provider) = 1 := by
  have hcongr : s.bindings.countP (fun b => (s.binding b).binds client provider) =
      s.bindings.countP (· == b) := by
    refine List.countP_congr ?_
    intro x hx
    rw [binds_iff, beq_iff_eq]
    constructor
    · intro heq
      exact hd.unique x b (hb.lt x hx) (hb.lt b hm) (heq.trans hp.symm)
    · rintro rfl
      exact hp
  rw [hcongr]
  exact List.count_eq_one_of_mem hb.nodup hm

/-- The calls for a pair are the calls for its bindings. -/
theorem Called.count_attaches (hk : Called s) (client provider : Handle) :
    s.log.countP (Event.attaches client provider) =
      s.calls.countP fun b => (s.binding b).binds client provider := by
  have hgen : ∀ l : List Event, (∀ e ∈ l, e ∈ s.log) → l.countP (Event.attaches client provider) =
      (l.filterMap Event.attachCall).countP fun b => (s.binding b).binds client provider := by
    intro l hl
    induction l with
    | nil => rfl
    | cons e l ih =>
      have ih := ih fun x hx => hl x (List.mem_cons_of_mem _ hx)
      cases e with
      | attachCalled b x y =>
        obtain ⟨rfl, rfl⟩ := hk.pair b x y (hl _ (List.mem_cons_self ..))
        rw [List.countP_cons, ih]
        show _ = (b :: l.filterMap Event.attachCall).countP _
        rw [List.countP_cons]
        rfl
      | _ =>
        rw [List.countP_cons, ih]
        rfl
  exact hgen s.log fun _ => id

structure PairsOk (s : State) : Prop where
  handles : Handles s
  bindings : Bindings s
  distinct : Distinct s
  adding : Adding s
  complete : Complete s
  called : Called s

theorem PairsOk.boundOnce (h : PairsOk s) : BoundOnce s := by
  intro hidle
  have hscanned : ∀ x, s.Scanned x := by
    intro x
    show (s.life x).isAdding = false
    cases hl : s.life x with
    | adding t =>
      obtain ⟨sd, hop⟩ := h.adding x t hl
      rw [hidle t] at hop
      cases hop
    | _ => rfl
  have hperm : s.calls.Perm s.bindings := by
    refine (List.perm_ext_iff_of_nodup h.called.nodup h.bindings.nodup).mpr ?_
    intro b
    rw [h.called.mem]
    refine ⟨fun hb => (h.complete.entry b hb.1).1, fun hb => ⟨h.bindings.lt b hb, ?_⟩⟩
    intro t
    rw [hidle t]
    exact List.not_mem_nil
  refine ⟨?_, ?_⟩
  · intro client hc provider hp
    have hcount : s.bindings.countP (fun b => (s.binding b).binds client provider) =
        if s.Matches (pairOf .client client provider) then 1 else 0 := by
      split
      · next hm =>
        obtain ⟨b, hlt, heq⟩ := h.complete.bound (pairOf .client client provider)
          (by
            intro y
            refine ⟨?_, hscanned _⟩
            cases y
            · exact hc
            · exact hp) hm
        exact h.distinct.count_eq_one h.bindings (h.complete.entry b hlt).1 heq
      · next hm =>
        refine List.countP_eq_zero.mpr ?_
        intro b hb hbinds
        have hmatch := h.distinct.matching b (h.bindings.lt b hb)
        rw [binds_iff.mp hbinds] at hmatch
        exact hm hmatch
    refine ⟨hcount, ?_⟩
    rw [h.called.count_attaches, hperm.countP_eq, hcount]
  · intro b hb
    exact (h.complete.entry b (h.bindings.lt b hb)).2

def RegisterApart (s : State) (a : Action) : Prop := RegisterOnly a ∧ ScanApart s a

instance (a : Action) : Decidable (RegisterOnly a) :=
  match a with
  | .attachReturn _ success => inferInstanceAs (Decidable (success = true))
  | .register .. | .bindScan _ | .attach _ | .clientAttachProvider .. | .providerAttachReturn ..
  | .registerReturn _ => isTrue trivial
  | .deregister .. | .unbindScan .. | .beginUnbind _ | .clientDetachReturn ..
  | .providerDetachReturn .. | .commit _ | .finish _ | .unbindReturn _ | .remove _ | .wake _
  | .wait .. | .detachComplete .. => isFalse id

instance (s : State) (a : Action) : Decidable (ScanApart s a) :=
  match a with
  | .bindScan t => inferInstanceAs (Decidable (∀ p ∈ (s.ops t).scanning,
      ∀ target ∈ s.collection p.1.other, s.Matches (pairOf p.1 p.2 target) → s.Scanned target))
  | .attachReturn .. | .register .. | .attach _ | .clientAttachProvider ..
  | .providerAttachReturn .. | .registerReturn _ | .deregister .. | .unbindScan ..
  | .beginUnbind _ | .clientDetachReturn .. | .providerDetachReturn .. | .commit _ | .finish _
  | .unbindReturn _ | .remove _ | .wake _ | .wait .. | .detachComplete .. => isTrue trivial

instance (s : State) (a : Action) : Decidable (RegisterApart s a) :=
  inferInstanceAs (Decidable (_ ∧ _))

/--
Registrations by any number of threads, all of whose attaches succeed: if every scan finds only
matching registrations that are through their own scan, then every matching pair is bound once.
-/
theorem pair_bound_once (as : List Action) (s : State)
    (hg : Guarded step RegisterApart State.init as) (hs : exec step State.init as = some s) :
    BoundOnce s := by
  refine PairsOk.boundOnce (exec_invariant_of_guard ?_
    ⟨handles_init, bindings_init, distinct_init, adding_init, complete_init, called_init⟩ hg hs)
  rintro s a s' h ⟨hr, hg⟩ hstep
  have he := step_effect h.handles hr.contract hstep
  exact ⟨handles_step h.handles he, bindings_step h.bindings he,
    distinct_step h.distinct h.handles hg he, adding_step h.adding he,
    complete_step h.complete h.handles hr he,
    called_step h.called h.handles h.bindings hr he⟩

/-- Two clients attach to a provider at the same time. -/
def twoClientsRun : List Action :=
  [.register 0 .provider (some 5) true, .bindScan 0, .registerReturn 0,
   .register 0 .client (some 5) true, .register 1 .client (some 5) true, .bindScan 1, .bindScan 0,
   .attach 0, .attach 1, .clientAttachProvider 1 (some 7), .attachReturn 0 true,
   .providerAttachReturn 1 none, .registerReturn 0, .attachReturn 1 true, .registerReturn 1]

theorem twoClientsRun_bound_once :
    ∃ s, exec step State.init twoClientsRun = some s ∧ s.collection .client = [2, 3] ∧
      BoundOnce s := by
  obtain ⟨s, hs, hx⟩ : ∃ s, exec step State.init twoClientsRun = some s ∧
      s.collection .client = [2, 3] := exec_of_check (by decide +kernel)
  exact ⟨s, hs, hx, pair_bound_once twoClientsRun s (guarded_of_check (by decide +kernel)) hs⟩

/-- A client and a provider are added before either of them scans. -/
def bothScanRun : List Action :=
  [.register 0 .client (some 5) true, .register 1 .provider (some 5) true, .bindScan 0, .bindScan 1,
   .attach 0, .attachReturn 0 true, .registerReturn 0,
   .attach 1, .attachReturn 1 true, .registerReturn 1]

theorem both_scans_bind :
    ∃ s, exec step State.init bothScanRun = some s ∧
      Guarded step (fun _ a => RegisterOnly a) State.init bothScanRun ∧ AllReturned s ∧
      s.bindings.countP (fun b => (s.binding b).binds 1 2) = 2 ∧ ¬ BoundOnce s := by
  have hg : Guarded step (fun _ a => RegisterOnly a) State.init bothScanRun :=
    guarded_of_check (by decide +kernel)
  obtain ⟨s, hs, h0, h1, hc, hp, hcount⟩ : ∃ s, exec step State.init bothScanRun = some s ∧
      (s.ops 0).isIdle = true ∧ (s.ops 1).isIdle = true ∧ 1 ∈ s.collection .client ∧
      2 ∈ s.collection .provider ∧ s.bindings.countP (fun b => (s.binding b).binds 1 2) = 2 :=
    exec_of_check (by decide +kernel)
  have hidle : AllReturned s :=
    allReturned_of_two (hg.mono fun _ _ hr => hr.contract) hs (by decide) h0 h1
  refine ⟨s, hs, hg, hidle, hcount, ?_⟩
  intro hb
  have hone := ((hb hidle).1 1 hc 2 hp).1
  rw [hcount] at hone
  split at hone <;> cases hone

end Usersim.Nmr
