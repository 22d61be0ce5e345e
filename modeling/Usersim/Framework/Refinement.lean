import Usersim.Framework.KernelList

/-!
# List entries as sequences (`framework.h`, `kernel_um.h`)

A heap of list entries holds any number of rings, and each of them stands for the list its head
represents. The functions of both headers work on the same entries, in any mixture.

* `list_refinement` — every function does to the lists what its name says, and to the links of other
  entries nothing; so does every sequence of calls
-/

namespace Usersim.Framework

open Lib

variable {α : Type*} [DecidableEq α]

/-- The header that a function is from. -/
inductive Api where
  | framework
  | kernel
deriving DecidableEq, Repr

inductive Command (α : Type*) where
  | initializeHead (api : Api) (listHead : α)
  | isEmpty (api : Api) (listHead : α)
  | insertTail (api : Api) (listHead entry : α)
  | insertHead (listHead entry : α)
  | removeEntry (api : Api) (entry : α)
  | removeHead (api : Api) (listHead : α)
  | appendTailList (api : Api) (listHead listToAppend : α)

inductive Reply (α : Type*) where
  | unit
  | bool (b : Bool)
  | entry (x : α)

/-- A call of a function that checks nothing. -/
def unchecked (L : Links α) (reply : Reply α) : Checked α (Reply α) :=
  { links := L, result := reply, fatal := false }

def Checked.map {ρ σ : Type*} (f : ρ → σ) (r : Checked α ρ) : Checked α σ :=
  { links := r.links, result := f r.result, fatal := r.fatal }

/-- One call. Assertions that fail are reported like `FatalListEntryError`. -/
def exec (L : Links α) : Command α → Checked α (Reply α)
  | .initializeHead .framework listHead => unchecked (usersimListInitialize L listHead) .unit
  | .initializeHead .kernel listHead => unchecked (initializeListHead L listHead) .unit
  | .isEmpty .framework listHead => unchecked L (.bool (usersimListIsEmpty L listHead))
  | .isEmpty .kernel listHead => unchecked L (.bool (isListEmpty L listHead))
  | .insertTail .framework listHead entry =>
    let L := usersimListInsertTail L listHead entry
    { links := L, result := .unit, fatal := !usersimListInsertTailAsserts L listHead }
  | .insertTail .kernel listHead entry => (insertTailList L listHead entry).map fun _ => .unit
  | .insertHead listHead entry => (insertHeadList L listHead entry).map fun _ => .unit
  | .removeEntry .framework entry =>
    unchecked (usersimListRemoveEntry L entry).1 (.bool (usersimListRemoveEntry L entry).2)
  | .removeEntry .kernel entry => (removeEntryList L entry).map .bool
  | .removeHead .framework listHead =>
    unchecked (usersimListRemoveHeadEntry L listHead).1
      (.entry (usersimListRemoveHeadEntry L listHead).2)
  | .removeHead .kernel listHead => (removeHeadList L listHead).map .entry
  | .appendTailList .framework listHead listToAppend =>
    unchecked (usersimListAppendTailList L listHead listToAppend) .unit
  | .appendTailList .kernel listHead listToAppend =>
    unchecked (appendTailList L listHead listToAppend) .unit

/-! ## What the functions are for -/

/-- What a call does to the lists, and what it returns. -/
inductive Effect (R : Rings α) : Command α → Reply α → Rings α → Prop where
  | initializeHead {api : Api} {listHead : α} (hfree : R.Free listHead) :
      Effect R (.initializeHead api listHead) .unit (Function.update R listHead (some []))
  | isEmpty {api : Api} {listHead : α} {l : List α} (hR : R listHead = some l) :
      Effect R (.isEmpty api listHead) (.bool (l = [])) R
  | insertTail {api : Api} {listHead entry : α} {l : List α} (hR : R listHead = some l)
      (hfree : R.Free entry) :
      Effect R (.insertTail api listHead entry) .unit
        (Function.update R listHead (some (l ++ [entry])))
  | insertHead {listHead entry : α} {l : List α} (hR : R listHead = some l)
      (hfree : R.Free entry) :
      Effect R (.insertHead listHead entry) .unit
        (Function.update R listHead (some (entry :: l)))
  | removeEntry {api : Api} {listHead entry : α} {l₁ l₂ : List α}
      (hR : R listHead = some (l₁ ++ entry :: l₂)) :
      Effect R (.removeEntry api entry) (.bool (l₁ ++ l₂ = []))
        (Function.update R listHead (some (l₁ ++ l₂)))
  | removeHead {api : Api} {listHead entry : α} {l : List α}
      (hR : R listHead = some (entry :: l)) :
      Effect R (.removeHead api listHead) (.entry entry) (Function.update R listHead (some l))
  | removeHead_nil {api : Api} {listHead : α} (hR : R listHead = some []) :
      Effect R (.removeHead api listHead) (.entry listHead) R
  /-- The head of the other list becomes a cell of this one. -/
  | appendTailList {api : Api} {listHead listToAppend : α} {l m : List α}
      (hR : R listHead = some l) (hR' : R listToAppend = some m) (hne : listToAppend ≠ listHead) :
      Effect R (.appendTailList api listHead listToAppend) .unit
        (Function.update (Function.update R listToAppend none) listHead
          (some (l ++ listToAppend :: m)))

/-- A call from the heap `L` does this. -/
structure Refines (L : Links α) (R : Rings α) (c : Command α) (reply : Reply α) (R' : Rings α) :
    Prop where
  result : (exec L c).result = reply
  checks : (exec L c).fatal = false
  rings : RingsBecome L (exec L c).links R R'
  selfLinked : ∀ entry, c = .removeEntry .framework entry →
    (exec L c).links.flink entry = entry ∧ (exec L c).links.blink entry = entry

variable {L : Links α} {R R' : Rings α} {listHead entry listToAppend : α} {l m : List α}
  {c : Command α} {reply : Reply α}

/-! ## The rings after a call -/

theorem initialize_rings (h : RepresentsRings L R) (hfree : R.Free listHead) :
    RingsBecome L (usersimListInitialize L listHead) R (Function.update R listHead (some [])) := by
  have hnone : R listHead = none := by
    by_contra hsome
    obtain ⟨l, hl⟩ := Option.ne_none_iff_exists'.mp hsome
    exact hfree listHead l hl (by simp)
  have hframe : ∀ x, x ≠ listHead → SameLinks L (usersimListInitialize L listHead) x :=
    fun x hx => ⟨initialize_flink hx, initialize_blink hx⟩
  constructor
  · refine h.update initialize_represents (fun x hx head' l' hR hx' => ?_)
      fun head' l' hR _ x hx => hframe x ?_
    · rw [List.mem_singleton.mp hx] at hx'
      exact absurd hx' (hfree head' l' hR)
    · rintro rfl
      exact hfree head' l' hR hx
  · refine fun x hx => hframe x ?_
    rintro rfl
    have hsame := hx x [] (.inr (Function.update_self ..)) (by simp)
    simp [hnone] at hsame

theorem insertTail_rings (h : RepresentsRings L R) (hR : R listHead = some l)
    (hfree : R.Free entry) :
    RingsBecome L (usersimListInsertTail L listHead entry) R
      (Function.update R listHead (some (l ++ [entry]))) := by
  refine h.change hR (insertTail_represents (h.ring hR) (hfree _ _ hR)) (by simp)
    (fun x hx => ?_) fun x hx hx' => insertTail_frame (h.ring hR) hx ?_
  · rcases List.mem_append.mp hx with hx | hx
    · exact .inl hx
    · exact .inr (List.mem_singleton.mp hx ▸ hfree)
  · rintro rfl
    exact hx' (by simp)

theorem insertHead_rings (h : RepresentsRings L R) (hR : R listHead = some l)
    (hfree : R.Free entry) :
    RingsBecome L (insertHeadList L listHead entry).links R
      (Function.update R listHead (some (entry :: l))) := by
  refine h.change hR (insertHeadList_represents (h.ring hR) (hfree _ _ hR)) (by simp)
    (fun x hx => ?_) fun x hx hx' => insertHeadList_frame (h.ring hR) hx ?_
  · rcases List.mem_cons.mp hx with rfl | hx
    · exact .inr hfree
    · exact .inl hx
  · rintro rfl
    exact hx' (by simp)

/-- What the removal of an entry needs of a function. -/
theorem remove_rings {L' : Links α} {l₁ l₂ : List α} (h : RepresentsRings L R)
    (hR : R listHead = some (l₁ ++ entry :: l₂)) (hring : Represents L' listHead (l₁ ++ l₂))
    (hframe : ∀ x, x ∉ listHead :: (l₁ ++ entry :: l₂) → SameLinks L L' x) :
    RingsBecome L L' R (Function.update R listHead (some (l₁ ++ l₂))) := by
  refine h.change hR hring (by simp) (fun x hx => .inl ?_) fun x hx _ => hframe x hx
  simp only [List.mem_append, List.mem_cons] at hx ⊢
  tauto

theorem appendTailList_rings (h : RepresentsRings L R) (hR : R listHead = some l)
    (hR' : R listToAppend = some m) (hne : listToAppend ≠ listHead) :
    RingsBecome L (usersimListAppendTailList L listHead listToAppend) R
      (Function.update (Function.update R listToAppend none) listHead
        (some (l ++ listToAppend :: m))) := by
  have hdisj : ∀ z ∈ listToAppend :: m, z ∉ listHead :: l :=
    fun z hz hz' => hne (h.disjoint hR' hR hz hz')
  -- the other ring is forgotten first, and its cells are free then
  have hforget := h.forget listToAppend
  have hRf : Function.update R listToAppend none listHead = some l := by
    rw [Function.update_of_ne hne.symm, hR]
  have hfree : ∀ x ∈ listToAppend :: m, Rings.Free (Function.update R listToAppend none) x := by
    intro x hx head' l' hRh hx'
    by_cases hh : head' = listToAppend
    · simp [hh] at hRh
    · rw [Function.update_of_ne hh] at hRh
      exact hh (h.disjoint hRh hR' hx' hx)
  have hbecome := hforget.change hRf
    (appendTailList_represents (h.ring hR) (h.ring hR') hdisj) (by simp)
    (fun x hx => (List.mem_append.mp hx).imp_right (hfree x))
    fun x hx hx' => appendTailList_frame (h.ring hR) (h.ring hR') hne hx
      fun hm => hx' (List.mem_append_right _ hm)
  refine ⟨hbecome.rings, fun x hx => hbecome.frame x fun head' l' hor hx' => ?_⟩
  by_cases hh : head' = listToAppend
  · rw [hh, Function.update_of_ne hne]
  · rw [Function.update_of_ne hh] at hor ⊢
    exact hx head' l' hor hx'

/-- A call that is known to leave a heap, for all functions but the one that marks its entry. -/
theorem refines_of_exec {L' : Links α} (hexec : exec L c = unchecked L' reply)
    (hrings : RingsBecome L L' R R') (hc : ∀ entry, c ≠ .removeEntry .framework entry) :
    Refines L R c reply R' where
  result := by rw [hexec]; rfl
  checks := by rw [hexec]; rfl
  rings := by rw [hexec]; exact hrings
  selfLinked := fun entry h => absurd h (hc entry)

/-- One call, a case for every function. -/
theorem exec_refines (h : RepresentsRings L R) (he : Effect R c reply R') :
    Refines L R c reply R' := by
  cases he with
  | @initializeHead api listHead hfree =>
    cases api with
    | framework => exact ⟨rfl, rfl, initialize_rings h hfree, by simp⟩
    | kernel => exact ⟨rfl, rfl, initialize_rings h hfree, by simp⟩
  | @isEmpty api listHead l hR =>
    have hempty : usersimListIsEmpty L listHead = decide (l = []) := by
      rw [Bool.eq_iff_iff, isEmpty_eq_true_iff (h.ring hR), decide_eq_true_iff]
    cases api with
    | framework => exact ⟨congrArg Reply.bool hempty, rfl, h.refl, by simp⟩
    | kernel => exact ⟨congrArg Reply.bool hempty, rfl, h.refl, by simp⟩
  | @insertTail api listHead entry l hR hfree =>
    have hring := h.ring hR
    cases api with
    | framework =>
      refine ⟨rfl, ?_, insertTail_rings h hR hfree, by simp⟩
      simp [exec, insertTail_asserts hring (hfree _ _ hR)]
    | kernel =>
      refine ⟨rfl, insertTailList_fatal hring entry, ?_, by simp⟩
      show RingsBecome L (insertTailList L listHead entry).links _ _
      rw [insertTailList_links]
      exact insertTail_rings h hR hfree
  | @insertHead listHead entry l hR hfree =>
    exact ⟨rfl, insertHeadList_fatal (h.ring hR) entry, insertHead_rings h hR hfree, by simp⟩
  | @removeEntry api listHead entry l₁ l₂ hR =>
    have hring := h.ring hR
    have hmem : entry ∈ l₁ ++ entry :: l₂ := by simp
    have hreply : (usersimListRemoveEntry L entry).2 = decide (l₁ ++ l₂ = []) := by
      rw [Bool.eq_iff_iff, removeEntry_isEmpty hring, decide_eq_true_iff]
    cases api with
    | framework =>
      refine ⟨congrArg Reply.bool hreply, rfl, ?_, ?_⟩
      · exact remove_rings h hR (removeEntry_represents hring)
          fun x hx => removeEntry_frame hring hmem hx
      · rintro _ ⟨⟩
        exact removeEntry_self_links
    | kernel =>
      refine ⟨congrArg Reply.bool hreply, removeEntryList_fatal hring hmem, ?_, by simp⟩
      exact remove_rings h hR (removeEntryList_represents hring)
        fun x hx => removeEntryList_frame hring hmem hx
  | @removeHead api listHead entry l hR =>
    have hring := h.ring hR
    have hfirst : R listHead = some ([] ++ entry :: l) := hR
    have hrings : RingsBecome L (usersimListRemoveHeadEntry L listHead).1 R
        (Function.update R listHead (some l)) :=
      remove_rings h hfirst (removeHeadEntry_represents hring) fun x hx =>
        removeHeadEntry_frame hring fun hx' => hx (by simp at hx' ⊢; tauto)
    refine refines_of_exec ?_ hrings (by simp)
    cases api with
    | framework => simp only [exec, removeHeadEntry_eq hring]
    | kernel =>
      rw [exec, removeHeadList_eq hring]
      rfl
  | @removeHead_nil api listHead hR =>
    have hring := h.ring hR
    refine refines_of_exec ?_ h.refl (by simp)
    cases api with
    | framework => rw [exec, removeHeadEntry_nil hring]
    | kernel =>
      rw [exec, removeHeadList_nil hring]
      rfl
  | @appendTailList api listHead listToAppend l m hR hR' hne =>
    refine refines_of_exec ?_ (appendTailList_rings h hR hR' hne) (by simp)
    cases api with
    | framework => rfl
    | kernel => rfl

/-! ## Runs -/

/-- Calls one after the other, with the reply of each and whether one of its checks has failed. -/
def execs (L : Links α) : List (Command α) → Links α × List (Reply α × Bool)
  | [] => (L, [])
  | c :: cs =>
    let r := exec L c
    let rest := execs r.links cs
    (rest.1, (r.result, r.fatal) :: rest.2)

inductive Effects : Rings α → List (Command α) → List (Reply α) → Rings α → Prop where
  | nil {R : Rings α} : Effects R [] [] R
  | cons {R R' R'' : Rings α} {c : Command α} {reply : Reply α} {cs : List (Command α)}
      {replies : List (Reply α)} (head : Effect R c reply R') (tail : Effects R' cs replies R'') :
      Effects R (c :: cs) (reply :: replies) R''

theorem execs_refine {cs : List (Command α)} {replies : List (Reply α)}
    (h : RepresentsRings L R) (he : Effects R cs replies R') :
    (execs L cs).2 = replies.map (·, false) ∧ RepresentsRings (execs L cs).1 R' := by
  induction he generalizing L with
  | nil => exact ⟨rfl, h⟩
  | cons hc _ ih =>
    obtain ⟨hresult, hchecks, hrings, -⟩ := exec_refines h hc
    obtain ⟨hreplies, hrest⟩ := ih hrings.rings
    refine ⟨?_, hrest⟩
    simp only [execs, List.map_cons, hresult, hchecks, hreplies]

/--
For every heap of rings and every call that its caller may make: the lists change as they
should, the reply is right, all checks of the links pass, and entries of rings that are not
concerned keep their links; `usersim_list_remove_entry` leaves its entry linked to itself. So
any number of calls leaves a heap of rings.
-/
theorem list_refinement (h : RepresentsRings L R) :
    (∀ c reply R', Effect R c reply R' → Refines L R c reply R') ∧
      ∀ cs replies R', Effects R cs replies R' →
        (execs L cs).2 = replies.map (·, false) ∧ RepresentsRings (execs L cs).1 R' :=
  ⟨fun _ _ _ he => exec_refines h he, fun _ _ _ he => execs_refine h he⟩

/-- Two rings, one of the cells 0, 1 and 2 and one of 3 and 4. Cell 5 is in neither. -/
def twoRings : Links (Fin 6) where
  flink
    | 0 => 1 | 1 => 2 | 2 => 0
    | 3 => 4 | 4 => 3
    | 5 => 5
  blink
    | 0 => 2 | 1 => 0 | 2 => 1
    | 3 => 4 | 4 => 3
    | 5 => 5

/-- Their lists. -/
def twoLists : Rings (Fin 6)
  | 0 => some [1, 2]
  | 3 => some [4]
  | _ => none

theorem twoLists_cases {head : Fin 6} {l : List (Fin 6)} (h : twoLists head = some l) :
    (head = 0 ∧ l = [1, 2]) ∨ (head = 3 ∧ l = [4]) := by
  unfold twoLists at h
  split at h
  · exact .inl ⟨rfl, (Option.some.inj h).symm⟩
  · exact .inr ⟨rfl, (Option.some.inj h).symm⟩
  · cases h

theorem represents_twoLists : RepresentsRings twoRings twoLists where
  ring := by
    intro head l h
    rcases twoLists_cases h with ⟨rfl, rfl⟩ | ⟨rfl, rfl⟩
    · exact ⟨by decide, by simp [Linked, twoRings]⟩
    · exact ⟨by decide, by simp [Linked, twoRings]⟩
  disjoint := by
    intro head head' l l' x h h' hx hx'
    rcases twoLists_cases h with ⟨rfl, rfl⟩ | ⟨rfl, rfl⟩ <;>
      rcases twoLists_cases h' with ⟨rfl, rfl⟩ | ⟨rfl, rfl⟩
    · rfl
    · revert x
      decide
    · revert x
      decide
    · rfl

theorem five_free : twoLists.Free 5 := by
  intro head l h
  rcases twoLists_cases h with ⟨rfl, rfl⟩ | ⟨rfl, rfl⟩
  · decide
  · decide

/-- Cell 5 goes into the second ring and cell 1 leaves the first, to which the second is then
appended. -/
theorem list_refinement_two_rings :
    Refines twoRings twoLists (.insertHead 3 5) .unit (Function.update twoLists 3 (some [5, 4])) ∧
      (execs twoRings [.insertHead 3 5, .removeEntry .framework 1, .isEmpty .kernel 0,
        .appendTailList .kernel 0 3]).2 =
          [(.unit, false), (.bool false, false), (.bool false, false), (.unit, false)] := by
  let R₁ := Function.update twoLists 3 (some [5, 4])
  let R₂ := Function.update R₁ 0 (some [2])
  have hinsert : Effect twoLists (.insertHead 3 5) .unit R₁ := .insertHead rfl five_free
  have hremove : Effect R₁ (.removeEntry .framework 1) (.bool false) R₂ :=
    @Effect.removeEntry _ _ R₁ .framework 0 1 [] [2] rfl
  have hisEmpty : Effect R₂ (.isEmpty .kernel 0) (.bool false) R₂ :=
    @Effect.isEmpty _ _ R₂ .kernel 0 [2] rfl
  have happend := @Effect.appendTailList _ _ R₂ .kernel 0 3 [2] [5, 4] rfl rfl (by decide)
  have hrun := list_refinement represents_twoLists
  refine ⟨hrun.1 _ _ _ hinsert, ?_⟩
  exact (hrun.2 _ _ _ (.cons hinsert (.cons hremove (.cons hisEmpty (.cons happend .nil))))).1

end Usersim.Framework
