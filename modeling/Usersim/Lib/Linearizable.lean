import Mathlib.Data.List.Nodup

/-!
# Linearizability

Calls overlap, and a history lists when they begin and when they return with what. A linearization
is an order of calls, one after the other, in which they return the same, and a call that returns
before another one begins comes before it. A call that has not returned may be left out, or have a
result that is still to come.

The order is built up along with the history: a call is appended when it takes effect, at some
moment between its beginning and its return.

* `Linearizes.invoke`, `Linearizes.commit`, `Linearizes.respond` — the three moments
-/

namespace Lib

/-- A call begins, or it returns. Calls are told apart by an `ι`. -/
inductive CallEvent (ι α ρ : Type*) where
  | invoke (i : ι) (a : α)
  | respond (i : ι) (r : ρ)
deriving DecidableEq

/-- A call in a sequential order. -/
structure Linearized (ι α ρ : Type*) where
  id : ι
  op : α
  result : ρ
deriving DecidableEq

variable {β σ ι α ρ : Type*}

/-- `x` comes before `y` in the list. -/
def Precedes (l : List β) (x y : β) : Prop := [x, y].Sublist l

theorem Precedes.concat {l : List β} {x y : β} (h : Precedes l x y) (z : β) :
    Precedes (l ++ [z]) x y := List.Sublist.trans h (List.sublist_append_left l [z])

theorem precedes_last {l : List β} {x : β} (h : x ∈ l) (z : β) : Precedes (l ++ [z]) x z :=
  List.Sublist.append (List.singleton_sublist.mpr h) (List.Sublist.refl [z])

theorem precedes_of_concat {l : List β} {x y z : β} (h : Precedes (l ++ [z]) x y) (hy : y ≠ z) :
    Precedes l x y := by
  obtain ⟨front, back, heq, hfront, hback⟩ := List.sublist_append_iff.mp h
  rcases List.sublist_singleton.mp hback with rfl | rfl
  · rw [Precedes, heq, List.append_nil]
    exact hfront
  · have hlast := congrArg List.getLast? heq
    simp at hlast
    exact absurd hlast hy

theorem Precedes.mem_left {l : List β} {x y : β} (h : Precedes l x y) : x ∈ l :=
  List.Sublist.subset h List.mem_cons_self

/-- Made one after the other from `s` on, the calls return what the list says and lead to `s'`. -/
def Replays (spec : σ → α → Option (σ × ρ)) : σ → List (Linearized ι α ρ) → σ → Prop
  | s, [], s' => s = s'
  | s, e :: es, s' => ∃ s₁, spec s e.op = some (s₁, e.result) ∧ Replays spec s₁ es s'

variable {spec : σ → α → Option (σ × ρ)} {s₀ s s' : σ} {history : List (CallEvent ι α ρ)}
  {order : List (Linearized ι α ρ)} {i : ι} {a : α} {r : ρ}

theorem Replays.concat {e : Linearized ι α ρ} (h : Replays spec s₀ order s)
    (he : spec s e.op = some (s', e.result)) : Replays spec s₀ (order ++ [e]) s' := by
  induction order generalizing s₀ with
  | nil =>
    cases h
    exact ⟨s', he, rfl⟩
  | cons e' es ih =>
    obtain ⟨s₁, he', hrest⟩ := h
    exact ⟨s₁, he', ih hrest⟩

/-- If the state does not change as long as the calls return what the list says, they are
all made in that state. -/
theorem Replays.of_const (h : Replays spec s order s')
    (hconst : ∀ e ∈ order, ∀ s₁, spec s e.op = some (s₁, e.result) → s₁ = s) :
    ∀ e ∈ order, spec s e.op = some (s, e.result) := by
  induction order with
  | nil => exact fun e he => absurd he List.not_mem_nil
  | cons e' es ih =>
    obtain ⟨s₁, he', hrest⟩ := h
    obtain rfl : s₁ = s := hconst e' List.mem_cons_self s₁ he'
    intro e he
    rcases List.mem_cons.mp he with rfl | he
    · exact he'
    · exact ih hrest (fun e he => hconst e (List.mem_cons_of_mem _ he)) e he

/-- An order of calls that explains the history, and leads to `s`. -/
structure Linearizes (spec : σ → α → Option (σ × ρ)) (s₀ : σ) (history : List (CallEvent ι α ρ))
    (order : List (Linearized ι α ρ)) (s : σ) : Prop where
  nodup : (order.map Linearized.id).Nodup
  invoked : ∀ e ∈ order, .invoke e.id e.op ∈ history
  completed : ∀ i r, .respond i r ∈ history → ∃ e ∈ order, e.id = i ∧ e.result = r
  legal : Replays spec s₀ order s
  realTime : ∀ e ∈ order, ∀ e' ∈ order, ∀ r,
    Precedes history (.respond e.id r) (.invoke e'.id e'.op) → Precedes order e e'

/-- There is a sequential order of the calls. -/
def Linearizable (spec : σ → α → Option (σ × ρ)) (s₀ : σ) (history : List (CallEvent ι α ρ)) :
    Prop :=
  ∃ order s, Linearizes spec s₀ history order s

theorem Linearizes.nil : Linearizes spec s₀ ([] : List (CallEvent ι α ρ)) [] s₀ where
  nodup := .nil
  invoked := fun _ he => absurd he List.not_mem_nil
  completed := fun _ _ h => absurd h List.not_mem_nil
  legal := rfl
  realTime := fun _ he => absurd he List.not_mem_nil

/-- A call begins that has not begun before. -/
theorem Linearizes.invoke (h : Linearizes spec s₀ history order s)
    (hnew : ∀ a, .invoke i a ∉ history) (a : α) :
    Linearizes spec s₀ (history ++ [.invoke i a]) order s where
  nodup := h.nodup
  invoked := fun e he => List.mem_append_left _ (h.invoked e he)
  completed := by
    intro j r hj
    rcases List.mem_append.mp hj with hj | hj
    · exact h.completed j r hj
    · exact nomatch List.mem_singleton.mp hj
  legal := h.legal
  realTime := by
    intro e he e' he' r hbefore
    refine h.realTime e he e' he' r (precedes_of_concat hbefore ?_)
    intro heq
    obtain ⟨hid, -⟩ := CallEvent.invoke.inj heq
    exact hnew e'.op (hid ▸ h.invoked e' he')

/-- A call that has begun takes effect. -/
theorem Linearizes.commit (h : Linearizes spec s₀ history order s)
    (hinvoked : .invoke i a ∈ history) (hnew : ∀ e ∈ order, e.id ≠ i)
    (hspec : spec s a = some (s', r)) :
    Linearizes spec s₀ history (order ++ [⟨i, a, r⟩]) s' where
  nodup := by
    rw [List.map_append, List.nodup_append]
    refine ⟨h.nodup, List.nodup_singleton _, ?_⟩
    intro j hj k hk
    obtain ⟨e, he, rfl⟩ := List.mem_map.mp hj
    rw [List.mem_singleton.mp hk]
    exact hnew e he
  invoked := by
    intro e he
    rcases List.mem_append.mp he with he | he
    · exact h.invoked e he
    · rw [List.mem_singleton.mp he]
      exact hinvoked
  completed := by
    intro j r' hj
    obtain ⟨e, he, heq⟩ := h.completed j r' hj
    exact ⟨e, List.mem_append_left _ he, heq⟩
  legal := h.legal.concat hspec
  realTime := by
    intro e he e' he' r' hbefore
    rcases List.mem_append.mp he with he | he
    · rcases List.mem_append.mp he' with he' | he'
      · exact (h.realTime e he e' he' r' hbefore).concat _
      · rw [List.mem_singleton.mp he']
        exact precedes_last he _
    · -- the new call has not returned, so it comes before nothing
      rw [List.mem_singleton.mp he] at hbefore
      obtain ⟨e'', he'', hid, -⟩ := h.completed i r' hbefore.mem_left
      exact absurd hid (hnew e'' he'')

/-- A call that has taken effect returns. -/
theorem Linearizes.respond (h : Linearizes spec s₀ history order s)
    {e : Linearized ι α ρ} (he : e ∈ order) :
    Linearizes spec s₀ (history ++ [.respond e.id e.result]) order s where
  nodup := h.nodup
  invoked := fun e' he' => List.mem_append_left _ (h.invoked e' he')
  completed := by
    intro j r' hj
    rcases List.mem_append.mp hj with hj | hj
    · exact h.completed j r' hj
    · obtain ⟨rfl, rfl⟩ := CallEvent.respond.inj (List.mem_singleton.mp hj)
      exact ⟨e, he, rfl, rfl⟩
  legal := h.legal
  realTime := by
    intro e₁ he₁ e₂ he₂ r' hbefore
    exact h.realTime e₁ he₁ e₂ he₂ r' (precedes_of_concat hbefore fun heq => nomatch heq)

end Lib
