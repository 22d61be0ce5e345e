import Usersim.Fwp.Unregister

/-!
# Which callout classifies (`fwp_um.cpp`)

`test_callout` finds a filter and takes the callout that the filter names. `classify_test_packet`
takes the first callout of the layer and the first filter of the layer, whatever the filter names.

* `classify_oneFilter_iff` — when the callout that is called is the one of the filter
-/

namespace Usersim.Fwp

open Lib

inductive EntryPoint where
  | testCallout (layer subLayer : Guid)
  | classifyTestPacket (layer : Guid)
deriving DecidableEq, Repr

/-- What the look-ups of a call find; the order of the maps is behind it. -/
structure Found where
  managementCallout : Option (Id × ManagementCallout)
  callout : Option (Id × Callout)
  filter : Option (Id × Filter)
deriving DecidableEq, Repr

def EntryPoint.call (t : Tid) (found : Found) : EntryPoint → Action
  | .testCallout layer subLayer => .testCallout t layer subLayer found.filter found.callout
  | .classifyTestPacket layer =>
    .classifyTestPacket t layer found.managementCallout found.callout found.filter

/-- The filter is one of the layer that is asked for, and of the sub-layer. -/
def EntryPoint.IsFor (filter : Filter) : EntryPoint → Prop
  | .testCallout layer subLayer => filter.layerKey = layer ∧ filter.subLayerKey = subLayer
  | .classifyTestPacket layer => filter.layerKey = layer

/-- Every classify that is started gets the context of the filter that was found, which names the
callout it is a function of. -/
def OneFilter (s : State) (e : EntryPoint) : Prop :=
  ∀ t found s', exec step s [e.call t found, .load t, .start t] = some s' →
    ∃ f ∈ s.fwpmFilters, ∃ c ∈ s.fwpsCallouts, found.filter = some f ∧ found.callout = some c ∧
      c.2.calloutKey = f.2.calloutKey ∧ e.IsFor f.2 ∧
      ∃ flowHandle locked, s'.top t =
        some (.running (.classify f.2.rawContext flowHandle) c.2.registration locked)

/-- The filters of the layer name every registered callout of the layer. -/
def Agrees (s : State) : EntryPoint → Prop
  | .testCallout .. => True
  | .classifyTestPacket layer =>
    ∀ m ∈ s.fwpmCallouts, m.2.applicableLayer = layer →
      ∀ c ∈ s.fwpsCallouts, c.2.calloutKey = m.2.calloutKey →
        ∀ f ∈ s.fwpmFilters, f.2.layerKey = layer → f.2.rawContext ≠ 0 →
          f.2.calloutKey = m.2.calloutKey

variable {s s' : State} {t : Tid} {found : Found}

/-! ## The look-ups -/

theorem finds_some {α : Type} [DecidableEq α] {m : List (Id × α)} {p : Id × α → Bool}
    {x : Id × α} : finds m p (some x) = true ↔ x ∈ m ∧ p x = true := by
  simp [finds]

theorem testCallout_eq_some {layer subLayer : Guid} :
    testCallout s t layer subLayer found.filter found.callout = some s' ↔
      ∃ f ∈ s.fwpmFilters, ∃ c ∈ s.fwpsCallouts, found.filter = some f ∧ found.callout = some c ∧
        f.2.layerKey = layer ∧ f.2.subLayerKey = subLayer ∧ f.2.rawContext ≠ 0 ∧
        c.2.calloutKey = f.2.calloutKey ∧
        s' = { s with nextFlowId := s.nextFlowId + 1 }.push t
          (.found (.classify f.2.rawContext (s.nextFlowId + 1)) c.2.registration false) := by
  unfold testCallout
  cases found.filter with
  | none => simp
  | some f =>
    cases found.callout with
    | none => simp
    | some c =>
      simp only [Bool.and_eq_true, finds_some, decide_eq_true_eq, bne_iff_ne, ne_eq]
      constructor
      · intro h
        split at h
        · next hc =>
          obtain ⟨⟨hf, ⟨hlayer, hsub⟩, hctx⟩, hc, hkey⟩ := hc
          cases h
          exact ⟨f, hf, c, hc, rfl, rfl, hlayer, hsub, hctx, hkey, rfl⟩
        · cases h
      · rintro ⟨f', hf, c', hc, hf', hc', hlayer, hsub, hctx, hkey, rfl⟩
        cases hf'
        cases hc'
        rw [if_pos ⟨⟨hf, ⟨hlayer, hsub⟩, hctx⟩, hc, hkey⟩]

theorem classifyTestPacket_eq_some (found : Found) {layer : Guid} :
    classifyTestPacket s t layer found.managementCallout found.callout found.filter = some s' ↔
      ∃ m ∈ s.fwpmCallouts, ∃ f ∈ s.fwpmFilters, ∃ c ∈ s.fwpsCallouts,
        found.managementCallout = some m ∧ found.filter = some f ∧ found.callout = some c ∧
        m.2.applicableLayer = layer ∧ f.2.layerKey = layer ∧ f.2.rawContext ≠ 0 ∧
        c.2.calloutKey = m.2.calloutKey ∧
        s' = s.push t (.found (.classify f.2.rawContext 0) c.2.registration true) := by
  unfold classifyTestPacket
  cases found.managementCallout with
  | none => simp
  | some m =>
    cases found.callout with
    | none => simp
    | some c =>
      cases found.filter with
      | none => simp
      | some f =>
        simp only [Bool.and_eq_true, finds_some, decide_eq_true_eq, bne_iff_ne, ne_eq]
        constructor
        · intro h
          split at h
          · next hc =>
            obtain ⟨⟨⟨hm, hml⟩, hc, hkey⟩, hf, hlayer, hctx⟩ := hc
            cases h
            exact ⟨m, hm, f, hf, c, hc, rfl, rfl, rfl, hml, hlayer, hctx, hkey, rfl⟩
          · cases h
        · rintro ⟨m', hm, f', hf, c', hc, hm', hf', hc', hml, hlayer, hctx, hkey, rfl⟩
          cases hm'
          cases hf'
          cases hc'
          rw [if_pos ⟨⟨⟨hm, hml⟩, hc, hkey⟩, hf, hlayer, hctx⟩]

/-! ## The call -/

theorem top_push (s : State) (t : Tid) (f : Frame) : (s.push t f).top t = some f := by
  simp [State.top, State.push]

/-- What is found is called. -/
theorem exec_load_start {callback : Callback} {r : Registration} {locked : Bool}
    (h : s.top t = some (.found callback r locked)) :
    ∃ s', exec step s [.load t, .start t] = some s' ∧
      s'.top t = some (.running callback r locked) := by
  have hload : ∃ s₁, step s (.load t) = some s₁ ∧ s₁.top t = some (.loaded callback r locked) := by
    simp only [step, h, frameStep]
    exact ⟨_, rfl, top_push ..⟩
  obtain ⟨s₁, hs₁, h₁⟩ := hload
  have hstart : ∃ s₂, step s₁ (.start t) = some s₂ ∧
      s₂.top t = some (.running callback r locked) := by
    simp only [step, h₁, frameStep]
    exact ⟨_, rfl, top_push ..⟩
  obtain ⟨s₂, hs₂, h₂⟩ := hstart
  refine ⟨s₂, ?_, h₂⟩
  rw [exec_cons, hs₁, Option.bind_some, exec_cons, hs₂, Option.bind_some, exec_nil]

/-- A run of a call, up to the callback it starts. -/
theorem exec_call {a : Action} {s₁ : State} {callback : Callback} {r : Registration}
    {locked : Bool} (hs₁ : step s a = some (s₁.push t (.found callback r locked))) :
    ∃ s', exec step s [a, .load t, .start t] = some s' ∧
      s'.top t = some (.running callback r locked) := by
  obtain ⟨s', hs', htop⟩ := exec_load_start (top_push s₁ t (.found callback r locked))
  exact ⟨s', by rw [exec_cons, hs₁, Option.bind_some, hs'], htop⟩

/-- Some thread is outside of the engine. -/
theorem exists_mayCall (s : State) : ∃ t, s.mayCall t = true := by
  have hfresh : ∀ frames : List (Tid × Frame), ∃ t, ∀ x ∈ frames, x.1 < t := by
    intro frames
    induction frames with
    | nil => exact ⟨0, nofun⟩
    | cons x frames ih =>
      obtain ⟨t, ht⟩ := ih
      refine ⟨max (x.1 + 1) t, List.forall_mem_cons.mpr ⟨?_, fun y hy => ?_⟩⟩
      · exact Nat.lt_of_lt_of_le (Nat.lt_succ_self _) (Nat.le_max_left _ _)
      · exact Nat.lt_of_lt_of_le (ht y hy) (Nat.le_max_right _ _)
  obtain ⟨t, ht⟩ := hfresh s.frames
  have hnone : s.top t = none := by
    rw [State.top, Option.map_eq_none_iff, List.find?_eq_none]
    intro x hx
    simpa using Nat.ne_of_lt (ht x hx)
  exact ⟨t, by rw [State.mayCall, hnone]⟩

theorem step_call (s : State) (t : Tid) (found : Found) (e : EntryPoint) :
    step s (e.call t found) = if s.mayCall t then callStep s (e.call t found) else none := by
  cases e <;> rfl

theorem callStep_of_step {e : EntryPoint} {s₁ : State} (h : step s (e.call t found) = some s₁) :
    callStep s (e.call t found) = some s₁ := by
  rw [step_call] at h
  split at h
  · exact h
  · cases h

/-- What `test_callout` calls is what the filter names. -/
theorem testCallout_oneFilter (s : State) (layer subLayer : Guid) :
    OneFilter s (.testCallout layer subLayer) := by
  intro t found s' hs'
  obtain ⟨s₁, hs₁, hrun⟩ := exec_cons_eq_some.mp hs'
  obtain ⟨f, hf, c, hc, hff, hfc, hlayer, hsub, -, hkey, rfl⟩ :=
    testCallout_eq_some.mp (callStep_of_step hs₁)
  obtain ⟨s₂, hs₂, htop⟩ := exec_call hs₁
  obtain rfl : s₂ = s' := Option.some.inj (hs₂.symm.trans hs')
  exact ⟨f, hf, c, hc, hff, hfc, hkey, ⟨hlayer, hsub⟩, _, _, htop⟩

theorem classifyTestPacket_oneFilter_iff (s : State) (layer : Guid) :
    OneFilter s (.classifyTestPacket layer) ↔ Agrees s (.classifyTestPacket layer) := by
  constructor
  · intro h m hm hml c hc hkey f hf hlayer hctx
    obtain ⟨t, ht⟩ := exists_mayCall s
    have hs₁ : step s (EntryPoint.call t ⟨some m, some c, some f⟩ (.classifyTestPacket layer)) =
        some (s.push t (.found (.classify f.2.rawContext 0) c.2.registration true)) := by
      rw [step_call, if_pos ht]
      exact (classifyTestPacket_eq_some ⟨some m, some c, some f⟩).mpr
        ⟨m, hm, f, hf, c, hc, rfl, rfl, rfl, hml, hlayer, hctx, hkey, rfl⟩
    obtain ⟨s', hs', -⟩ := exec_call hs₁
    obtain ⟨f', -, c', -, hf', hc', hkey', -⟩ := h t _ s' hs'
    cases hf'
    cases hc'
    rw [← hkey', hkey]
  · intro h t found s' hs'
    obtain ⟨s₁, hs₁, hrun⟩ := exec_cons_eq_some.mp hs'
    obtain ⟨m, hm, f, hf, c, hc, -, hff, hfc, hml, hlayer, hctx, hkey, rfl⟩ :=
      (classifyTestPacket_eq_some _).mp (callStep_of_step hs₁)
    obtain ⟨s₂, hs₂, htop⟩ := exec_call hs₁
    obtain rfl : s₂ = s' := Option.some.inj (hs₂.symm.trans hs')
    have hnames := h m hm hml c hc hkey f hf hlayer hctx
    exact ⟨f, hf, c, hc, hff, hfc, hkey.trans hnames.symm, hlayer, _, _, htop⟩

/--
For every engine state and every entry point: all classifies that may be started use one filter if
and only if, for `classify_test_packet`, the filters of the layer that have a context all name each
callout of the layer that is registered.
-/
theorem classify_oneFilter_iff (s : State) (e : EntryPoint) : OneFilter s e ↔ Agrees s e := by
  cases e with
  | testCallout layer subLayer => exact iff_of_true (testCallout_oneFilter s layer subLayer) trivial
  | classifyTestPacket layer => exact classifyTestPacket_oneFilter_iff s layer

/-- Two callouts of layer 5, and a filter of the second one. -/
def twoCallouts : List Action :=
  [.calloutRegister 0 1, .calloutRegister 0 2, .calloutAdd 0 ⟨1, 5⟩, .calloutAdd 0 ⟨2, 5⟩,
   .filterAdd 0 ⟨5, 0, 2, 77⟩ (some (2, ⟨2, 1⟩)), .load 0, .start 0, .finish 0]

/-- The first callout is called with the context of the filter of the second one. -/
theorem classify_otherFilter :
    ∃ s, exec step State.init twoCallouts = some s ∧
      (exec step s [.classifyTestPacket 0 5 (some (3, ⟨1, 5⟩)) (some (1, ⟨1, 0⟩))
          (some (5, ⟨5, 0, 2, 77⟩)), .load 0, .start 0]).bind (State.top · 0) =
        some (.running (.classify 77 0) 0 true) ∧
      ¬ OneFilter s (.classifyTestPacket 5) := by
  obtain ⟨s, hs, htop⟩ : ∃ s, exec step State.init twoCallouts = some s ∧
      (exec step s [.classifyTestPacket 0 5 (some (3, ⟨1, 5⟩)) (some (1, ⟨1, 0⟩))
          (some (5, ⟨5, 0, 2, 77⟩)), .load 0, .start 0]).bind (State.top · 0) =
        some (.running (.classify 77 0) 0 true) := exec_of_check (by decide +kernel)
  refine ⟨s, hs, htop, fun h => ?_⟩
  obtain ⟨s', hs', -⟩ := Option.bind_eq_some_iff.mp htop
  obtain ⟨f, -, c, -, hf, hc, hkey, -⟩ :=
    h 0 ⟨some (3, ⟨1, 5⟩), some (1, ⟨1, 0⟩), some (5, ⟨5, 0, 2, 77⟩)⟩ s' hs'
  cases hf
  cases hc
  exact absurd hkey (by decide)

end Usersim.Fwp
