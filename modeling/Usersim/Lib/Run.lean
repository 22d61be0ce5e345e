import Mathlib.Data.List.Basic

/-!
# Runs of a partial step function

A system is a step function `step : σ → α → Option σ`: `none` means that the action is not
enabled in the state. Everything that is said about "every interleaving" is said about
`exec step s as`, the state after a finite list of actions.

* `exec_invariant` — what every step keeps holds after every run
* `exec_invariant_of_guard` — the same for runs whose steps all meet a guard
* `exec_invariant_of_actions` — an invariant that speaks of the actions so far
* `guarded_iff_of_invariant`, `guarded_iff_of_contract`, `guarded_iff_of_exec` — two guards that
  agree on the states one of them leads to
* `guarded_history_iff` — a guard on the actions so far
* `exec_rel`, `exec_follows` — two systems in lock step, a system and a function of the actions
-/

namespace Lib

variable {σ α : Type*}

/-- The state after a list of actions; `none` as soon as one of them is not enabled. -/
def exec (step : σ → α → Option σ) : σ → List α → Option σ
  | s, [] => some s
  | s, a :: as => (step s a).bind fun s' => exec step s' as

/-- Every step of the run from `s` along `as` is taken in a state that allows it. -/
def Guarded (step : σ → α → Option σ) (G : σ → α → Prop) : σ → List α → Prop
  | _, [] => True
  | s, a :: as => G s a ∧ ∀ s', step s a = some s' → Guarded step G s' as

variable {step : σ → α → Option σ} {G H : σ → α → Prop} {P : σ → Prop}

@[simp] theorem exec_nil (s : σ) : exec step s [] = some s := rfl

theorem exec_cons (s : σ) (a : α) (as : List α) :
    exec step s (a :: as) = (step s a).bind fun s' => exec step s' as := rfl

theorem exec_singleton (s : σ) (a : α) : exec step s [a] = step s a :=
  Option.bind_fun_some _

theorem exec_cons_eq_some {s s' : σ} {a : α} {as : List α} :
    exec step s (a :: as) = some s' ↔ ∃ s₁, step s a = some s₁ ∧ exec step s₁ as = some s' := by
  rw [exec_cons, Option.bind_eq_some_iff]

theorem exec_append (s : σ) (as bs : List α) :
    exec step s (as ++ bs) = (exec step s as).bind fun s' => exec step s' bs := by
  induction as generalizing s with
  | nil => rfl
  | cons a as ih =>
    rw [List.cons_append, exec_cons, exec_cons]
    cases step s a with
    | none => rfl
    | some s₁ => exact ih s₁

/-- What every step keeps holds after every run. -/
theorem exec_invariant (hstep : ∀ s a s', P s → step s a = some s' → P s') :
    ∀ {as : List α} {s s' : σ}, P s → exec step s as = some s' → P s' := by
  intro as
  induction as with
  | nil =>
    intro s s' hs h
    cases h
    exact hs
  | cons a as ih =>
    intro s s' hs h
    obtain ⟨s₁, h₁, h₂⟩ := exec_cons_eq_some.mp h
    exact ih (hstep s a s₁ hs h₁) h₂

/-- What every guarded step keeps holds after every run whose steps all meet the guard. -/
theorem exec_invariant_of_guard (hstep : ∀ s a s', P s → G s a → step s a = some s' → P s') :
    ∀ {as : List α} {s s' : σ}, P s → Guarded step G s as → exec step s as = some s' → P s' := by
  intro as
  induction as with
  | nil =>
    intro s s' hs _ h
    cases h
    exact hs
  | cons a as ih =>
    intro s s' hs hg h
    obtain ⟨s₁, h₁, h₂⟩ := exec_cons_eq_some.mp h
    exact ih (hstep s a s₁ hs hg.1 h₁) (hg.2 s₁ h₁) h₂

/-- What is said of a state and of the actions that led there. -/
theorem exec_invariant_of_actions {Q : List α → σ → Prop}
    (hstep : ∀ as s a s', Q as s → G s a → step s a = some s' → Q (as ++ [a]) s') :
    ∀ {as before : List α} {s s' : σ}, Q before s → Guarded step G s as →
      exec step s as = some s' → Q (before ++ as) s' := by
  intro as
  induction as with
  | nil =>
    intro before s s' hs _ h
    cases h
    rwa [List.append_nil]
  | cons a as ih =>
    intro before s s' hs hg h
    obtain ⟨s₁, h₁, h₂⟩ := exec_cons_eq_some.mp h
    have hall := ih (hstep before s a s₁ hs hg.1 h₁) (hg.2 s₁ h₁) h₂
    rwa [List.append_assoc, List.singleton_append] at hall

theorem Guarded.mono (himp : ∀ s a, G s a → H s a) :
    ∀ {as : List α} {s : σ}, Guarded step G s as → Guarded step H s as := by
  intro as
  induction as with
  | nil => exact fun _ => trivial
  | cons a as ih => exact fun h => ⟨himp _ a h.1, fun s' hs' => ih (h.2 s' hs')⟩

theorem guarded_append {as bs : List α} {s : σ} (h : Guarded step G s (as ++ bs)) :
    Guarded step G s as ∧ ∀ s', exec step s as = some s' → Guarded step G s' bs := by
  induction as generalizing s with
  | nil =>
    refine ⟨trivial, fun s' hs' => ?_⟩
    cases hs'
    exact h
  | cons a as ih =>
    refine ⟨⟨h.1, fun s₁ h₁ => (ih (h.2 s₁ h₁)).1⟩, fun s' hs' => ?_⟩
    obtain ⟨s₁, h₁, h₂⟩ := exec_cons_eq_some.mp hs'
    exact (ih (h.2 s₁ h₁)).2 s' h₂

/-- The parts of a guarded run before and after one of its actions. -/
theorem guarded_split {as bs : List α} {a : α} {s s' : σ}
    (hg : Guarded step G s (as ++ a :: bs)) (hs : exec step s (as ++ a :: bs) = some s') :
    ∃ s₁ s₂, (exec step s as = some s₁ ∧ Guarded step G s as) ∧ (step s₁ a = some s₂ ∧ G s₁ a) ∧
      exec step s₂ bs = some s' ∧ Guarded step G s₂ bs := by
  obtain ⟨hbefore, hrest⟩ := guarded_append hg
  rw [exec_append] at hs
  obtain ⟨s₁, h₁, hs⟩ := Option.bind_eq_some_iff.mp hs
  obtain ⟨s₂, h₂, hs⟩ := exec_cons_eq_some.mp hs
  have hafter := hrest s₁ h₁
  exact ⟨s₁, s₂, ⟨h₁, hbefore⟩, ⟨h₂, hafter.1⟩, hs, hafter.2 s₂ h₂⟩

theorem guarded_and :
    ∀ {as : List α} {s : σ}, Guarded step (fun s a => G s a ∧ H s a) s as ↔
      Guarded step G s as ∧ Guarded step H s as := by
  intro as
  induction as with
  | nil => exact fun {_} => ⟨fun _ => ⟨trivial, trivial⟩, fun _ => trivial⟩
  | cons a as ih =>
    intro s
    constructor
    · rintro ⟨⟨hG, hH⟩, hrest⟩
      exact ⟨⟨hG, fun s' hs' => (ih.mp (hrest s' hs')).1⟩,
        ⟨hH, fun s' hs' => (ih.mp (hrest s' hs')).2⟩⟩
    · rintro ⟨⟨hG, hrestG⟩, ⟨hH, hrestH⟩⟩
      exact ⟨⟨hG, hH⟩, fun s' hs' => ih.mpr ⟨hrestG s' hs', hrestH s' hs'⟩⟩

/-- A guard on the actions alone. -/
theorem guarded_of_mem {Q : α → Prop} :
    ∀ {as : List α} {s : σ}, (∀ a ∈ as, Q a) → Guarded step (fun _ a => Q a) s as := by
  intro as
  induction as with
  | nil => exact fun _ => trivial
  | cons a as ih =>
    intro s h
    rw [List.forall_mem_cons] at h
    exact ⟨h.1, fun s' _ => ih h.2⟩

/-- It is met by all actions of a run that comes to its end. -/
theorem guarded_mem_iff {Q : α → Prop} {as : List α} {s s' : σ} (hrun : exec step s as = some s') :
    Guarded step (fun _ a => Q a) s as ↔ ∀ a ∈ as, Q a := by
  refine ⟨fun h => ?_, guarded_of_mem⟩
  induction as generalizing s with
  | nil => exact fun a ha => by cases ha
  | cons a as ih =>
    obtain ⟨s₁, h₁, h₂⟩ := exec_cons_eq_some.mp hrun
    rw [List.forall_mem_cons]
    exact ⟨h.1, ih h₂ (h.2 s₁ h₁)⟩

/-- A guard that follows from another one in the states the run goes through. -/
theorem Guarded.mono_of_invariant (hstep : ∀ s a s', P s → G s a → step s a = some s' → P s')
    (himp : ∀ s a, P s → G s a → H s a) :
    ∀ {as : List α} {s : σ}, P s → Guarded step G s as → Guarded step H s as := by
  intro as
  induction as with
  | nil => exact fun _ _ => trivial
  | cons a as ih =>
    intro s hs h
    exact ⟨himp s a hs h.1, fun s' hs' => ih (hstep s a s' hs h.1 hs') (h.2 s' hs')⟩

/-- Two guards that agree in every state of `P`, where `P` is kept by the steps that meet one of
them: a run meets the one if and only if it meets the other. -/
theorem guarded_iff_of_invariant (hiff : ∀ s a, P s → (G s a ↔ H s a))
    (hstep : ∀ s a s', P s → H s a → step s a = some s' → P s') :
    ∀ {as : List α} {s : σ}, P s → (Guarded step G s as ↔ Guarded step H s as) := by
  intro as
  induction as with
  | nil => exact fun _ => Iff.rfl
  | cons a as ih =>
    intro s hs
    constructor
    · rintro ⟨hG, hrest⟩
      have hH := (hiff s a hs).mp hG
      exact ⟨hH, fun s' hs' => (ih (hstep s a s' hs hH hs')).mp (hrest s' hs')⟩
    · rintro ⟨hH, hrest⟩
      exact ⟨(hiff s a hs).mpr hH, fun s' hs' => (ih (hstep s a s' hs hH hs')).mpr (hrest s' hs')⟩

/-- The same for runs that meet a third guard `C`. -/
theorem guarded_iff_of_contract {C : σ → α → Prop} (hiff : ∀ s a, P s → C s a → (G s a ↔ H s a))
    (hstep : ∀ s a s', P s → C s a → H s a → step s a = some s' → P s') {as : List α} {s : σ}
    (hs : P s) (hc : Guarded step C s as) : Guarded step G s as ↔ Guarded step H s as := by
  have hboth : Guarded step (fun s a => C s a ∧ G s a) s as ↔
      Guarded step (fun s a => C s a ∧ H s a) s as :=
    guarded_iff_of_invariant (fun s a hs => and_congr_right fun hc => hiff s a hs hc)
      (fun s a s' hs h hs' => hstep s a s' hs h.1 h.2 hs') hs
  rw [guarded_and, guarded_and] at hboth
  simpa [hc] using hboth

/-- The same for runs that come to their end, where only the steps that are taken count. -/
theorem guarded_iff_of_exec
    (hiff : ∀ s a s', P s → step s a = some s' → (G s a ↔ H s a))
    (hstep : ∀ s a s', P s → H s a → step s a = some s' → P s') :
    ∀ {as : List α} {s s' : σ}, P s → exec step s as = some s' →
      (Guarded step G s as ↔ Guarded step H s as) := by
  intro as
  induction as with
  | nil => exact fun _ _ => Iff.rfl
  | cons a as ih =>
    intro s s' hs hrun
    obtain ⟨s₁, h₁, h₂⟩ := exec_cons_eq_some.mp hrun
    have hall : ∀ K : σ → α → Prop, Guarded step K s (a :: as) ↔ K s a ∧ Guarded step K s₁ as := by
      intro K
      refine and_congr_right fun _ => ⟨fun h => h s₁ h₁, fun h s₂ hs₂ => ?_⟩
      obtain rfl : s₁ = s₂ := Option.some.inj (h₁.symm.trans hs₂)
      exact h
    rw [hall, hall, hiff s a s₁ hs h₁]
    exact and_congr_right fun hH => ih (hstep s a s₁ hs hH h₁) h₂

/-- A run whose steps all meet a guard comes to its end, if the guard does not stop a step. -/
theorem exists_exec_of_guarded (hsome : ∀ s a, G s a → ∃ s', step s a = some s') :
    ∀ {as : List α} {s : σ}, Guarded step G s as → ∃ s', exec step s as = some s' := by
  intro as
  induction as with
  | nil => exact fun {s} _ => ⟨s, rfl⟩
  | cons a as ih =>
    intro s h
    obtain ⟨s₁, h₁⟩ := hsome s a h.1
    obtain ⟨s', h'⟩ := ih (h.2 s₁ h₁)
    exact ⟨s', exec_cons_eq_some.mpr ⟨s₁, h₁, h'⟩⟩

theorem history_exec (history : σ → List α)
    (hstep : ∀ s a s', step s a = some s' → history s' = history s ++ [a]) :
    ∀ {as : List α} {s s' : σ}, exec step s as = some s' → history s' = history s ++ as := by
  intro as
  induction as with
  | nil =>
    intro s s' h
    cases h
    exact (List.append_nil _).symm
  | cons a as ih =>
    intro s s' h
    obtain ⟨s₁, h₁, h₂⟩ := exec_cons_eq_some.mp h
    rw [ih h₂, hstep s a s₁ h₁, List.append_assoc, List.singleton_append]

/-- A guard on what was done so far, which every step that meets it adds to. -/
theorem guarded_history_iff (history : σ → List α) (G : List α → α → Prop)
    (hstep : ∀ s a s', step s a = some s' → history s' = history s ++ [a])
    (hsome : ∀ s a, G (history s) a → ∃ s', step s a = some s') {as : List α} {s : σ} :
    Guarded step (fun s a => G (history s) a) s as ↔
      ∀ before a after, as = before ++ a :: after → G (history s ++ before) a := by
  induction as generalizing s with
  | nil =>
    refine iff_of_true trivial fun before a after h => ?_
    cases before <;> cases h
  | cons a as ih =>
    constructor
    · rintro ⟨hG, hrest⟩ before b after h
      cases before with
      | nil =>
        obtain ⟨rfl, -⟩ := List.cons.inj h
        rw [List.append_nil]
        exact hG
      | cons a' before =>
        obtain ⟨rfl, htail⟩ := List.cons.inj h
        obtain ⟨s', hs'⟩ := hsome s a hG
        have hb := ih.mp (hrest s' hs') before b after htail
        rw [hstep s a s' hs', List.append_assoc] at hb
        exact hb
    · intro h
      refine ⟨?_, fun s' hs' => ih.mpr fun before b after heq => ?_⟩
      · have ha := h [] a as rfl
        rwa [List.append_nil] at ha
      · rw [hstep s a s' hs', List.append_assoc]
        exact h (a :: before) b after (congrArg (a :: ·) heq)

/-! ## Lock step -/

/-- Two systems whose steps keep a relation and stop together. -/
theorem exec_rel {τ : Type*} {step' : τ → α → Option τ} {R : σ → τ → Prop}
    (hstep : ∀ s t a, R s t → Option.Rel R (step s a) (step' t a)) :
    ∀ {as : List α} {s : σ} {t : τ}, R s t →
      Option.Rel R (exec step s as) (exec step' t as) := by
  intro as
  induction as with
  | nil => exact fun h => .some h
  | cons a as ih =>
    intro s t h
    have hrel := hstep s t a h
    rw [exec_cons, exec_cons]
    generalize step s a = x at hrel ⊢
    generalize step' t a = y at hrel ⊢
    cases hrel with
    | some h' => exact ih h'
    | none => exact .none

/-- A system that follows what can be computed from the actions alone. -/
theorem exec_follows {τ : Type*} {f : τ → α → τ} {R : σ → τ → Prop}
    (hstep : ∀ s t a s', R s t → step s a = some s' → R s' (f t a)) :
    ∀ {as : List α} {s s' : σ} {t : τ}, R s t → exec step s as = some s' →
      R s' (as.foldl f t) := by
  intro as
  induction as with
  | nil =>
    intro s s' t hs h
    cases h
    exact hs
  | cons a as ih =>
    intro s s' t hs h
    obtain ⟨s₁, h₁, h₂⟩ := exec_cons_eq_some.mp h
    exact ih (hstep s t a s₁ hs h₁) h₂

theorem rel_imp {τ : Type*} {R R' : σ → τ → Prop} {x : Option σ} {y : Option τ}
    (h : Option.Rel R x y) (himp : ∀ s t, x = some s → y = some t → R s t → R' s t) :
    Option.Rel R' x y := by
  cases h with
  | some h => exact .some (himp _ _ rfl rfl h)
  | none => exact .none

/-! ## Deciding a concrete run -/

/-- What holds after a run that comes to its end. -/
theorem exec_of_check [DecidablePred P] {as : List α} {s : σ}
    (h : (exec step s as).any (fun s' => decide (P s')) = true) :
    ∃ s', exec step s as = some s' ∧ P s' := by
  obtain ⟨s', hs', hp⟩ := (Option.any_eq_true _ _).mp h
  exact ⟨s', hs', of_decide_eq_true hp⟩

def checkGuarded (step : σ → α → Option σ) (G : σ → α → Prop) [∀ s a, Decidable (G s a)] :
    σ → List α → Bool
  | _, [] => true
  | s, a :: as =>
    decide (G s a) &&
      match step s a with
      | none => true
      | some s' => checkGuarded step G s' as

theorem guarded_of_check [∀ s a, Decidable (G s a)] {as : List α} {s : σ}
    (h : checkGuarded step G s as = true) : Guarded step G s as := by
  induction as generalizing s with
  | nil => trivial
  | cons a as ih =>
    simp only [checkGuarded, Bool.and_eq_true, decide_eq_true_eq] at h
    refine ⟨h.1, fun s' hs' => ih ?_⟩
    have hrest := h.2
    rw [hs'] at hrest
    exact hrest

end Lib
