import Usersim.Dpc.Basic

/-!
# The queues as lists

`Rep` relates the heap of links to one list of entries per CPU. On that level an insert appends, a
removal erases, a worker pops and a flush appends its marker: `Effect` lists everything an action
can do there. `step_effect` says that every action of the code does one of these things, as long
as no flush finds the marker of an earlier flush still queued (`MarkerFree`).

Everything that is proved about the queues later is proved from `Effect`, not from the links.
-/

namespace Usersim.Dpc

open Lib Framework

/-- The contents of the queues. -/
abbrev Queues := Cpu → List Cell

/-- The links represent the queues; every entry that is in no queue is linked to itself. -/
structure Rep (L : Links Cell) (cpuOf : DpcId → Cpu) (q : Queues) : Prop where
  ring : ∀ i, Represents L (.head i) (q i)
  kind : ∀ i, ∀ c ∈ q i, c = .flushEntry i ∨ ∃ d, c = .entry d ∧ cpuOf d = i
  freeEntry : ∀ d, .entry d ∉ q (cpuOf d) → Represents L (.entry d) []
  freeMarker : ∀ i, .flushEntry i ∉ q i → Represents L (.flushEntry i) []

def State.cpuOf (s : State) (d : DpcId) : Cpu := (s.dpcs d).cpuId

def State.Rep (s : State) (q : Queues) : Prop := Dpc.Rep s.links s.cpuOf q

/-- The DPC is in the queue of its CPU. -/
def Queued (s : State) (q : Queues) (d : DpcId) : Prop := .entry d ∈ q (s.cpuOf d)

variable {L L' : Links Cell} {cpuOf : DpcId → Cpu} {q : Queues} {s s' : State}

/-! ## Reading the queues off the links -/

theorem Rep.not_mem_head (h : Rep L cpuOf q) (i j : Cpu) : .head j ∉ q i := by
  intro hm
  rcases h.kind i _ hm with hc | ⟨d, hc, -⟩ <;> cases hc

theorem Rep.mem_entry (h : Rep L cpuOf q) {i : Cpu} {d : DpcId} (hm : .entry d ∈ q i) :
    cpuOf d = i := by
  rcases h.kind i _ hm with hc | ⟨e, hc, he⟩
  · cases hc
  · cases hc
    exact he

theorem Rep.mem_marker (h : Rep L cpuOf q) {i j : Cpu} (hm : .flushEntry j ∈ q i) : j = i := by
  rcases h.kind i _ hm with hc | ⟨e, hc, -⟩
  · cases hc
    rfl
  · cases hc

/-- Queues of different CPUs share no entry. -/
theorem Rep.disjoint (h : Rep L cpuOf q) {i j : Cpu} {c : Cell} (hi : c ∈ q i) (hj : c ∈ q j) :
    i = j := by
  rcases h.kind i c hi with rfl | ⟨d, rfl, hd⟩
  · exact h.mem_marker hj
  · rw [← hd]
    exact h.mem_entry hj

theorem Rep.isEmpty_entry (h : Rep L cpuOf q) (d : DpcId) :
    usersimListIsEmpty L (.entry d) = true ↔ .entry d ∉ q (cpuOf d) := by
  constructor
  · intro he hm
    exact (h.ring _).flink_ne_self hm (by simpa [usersimListIsEmpty] using he)
  · intro hm
    exact (isEmpty_eq_true_iff (h.freeEntry d hm)).mpr rfl

theorem Rep.isEmpty_marker (h : Rep L cpuOf q) (i : Cpu) :
    usersimListIsEmpty L (.flushEntry i) = true ↔ .flushEntry i ∉ q i := by
  constructor
  · intro he hm
    exact (h.ring i).flink_ne_self hm (by simpa [usersimListIsEmpty] using he)
  · intro hm
    exact (isEmpty_eq_true_iff (h.freeMarker i hm)).mpr rfl

/-! ## Changing one queue -/

/--
New links that represent a new list for one queue, unlink the cells that left it and touch nothing
else represent the queues with that one replaced.
-/
theorem Rep.replace (h : Rep L cpuOf q) {i : Cpu} {l : List Cell}
    (hring : Represents L' (.head i) l)
    (hkind : ∀ c ∈ l, c = .flushEntry i ∨ ∃ d, c = .entry d ∧ cpuOf d = i)
    (hframe : ∀ c, c ≠ .head i → c ∉ q i → c ∉ l →
      L'.flink c = L.flink c ∧ L'.blink c = L.blink c)
    (hleft : ∀ c ∈ q i, c ∉ l → Represents L' c []) :
    Rep L' cpuOf (Function.update q i l) := by
  have hkeep : ∀ c, c ≠ .head i → c ∉ q i → c ∉ l → Represents L c [] → Represents L' c [] := by
    intro c hc hq hl hr
    obtain ⟨hf, hb⟩ := hframe c hc hq hl
    rw [Represents.nil_iff] at hr ⊢
    rwa [hf, hb]
  refine ⟨fun j => ?_, fun j c hc => ?_, fun d hd => ?_, fun j hj => ?_⟩
  · by_cases hj : j = i
    · subst hj
      simpa using hring
    · rw [Function.update_of_ne hj]
      have hsame : ∀ c ∈ Cell.head j :: q j, L'.flink c = L.flink c ∧ L'.blink c = L.blink c := by
        intro c hc
        rcases List.mem_cons.mp hc with rfl | hc
        · refine hframe _ (by simpa using hj) (h.not_mem_head i j) fun hl => ?_
          rcases hkind _ hl with hk | ⟨d, hk, -⟩ <;> cases hk
        · refine hframe c (fun hch => h.not_mem_head j i (hch ▸ hc))
            (fun hci => hj (h.disjoint hc hci)) fun hl => ?_
          rcases hkind _ hl with rfl | ⟨d, rfl, hd⟩
          · exact hj (h.mem_marker hc).symm
          · exact hj ((h.mem_entry hc).symm.trans hd)
      exact (h.ring j).congr (fun c hc => (hsame c hc).1) (fun c hc => (hsame c hc).2)
  · by_cases hj : j = i
    · subst hj
      rw [Function.update_self] at hc
      exact hkind c hc
    · rw [Function.update_of_ne hj] at hc
      exact h.kind j c hc
  · by_cases hdi : cpuOf d = i
    · subst hdi
      rw [Function.update_self] at hd
      by_cases hq : .entry d ∈ q (cpuOf d)
      · exact hleft _ hq hd
      · exact hkeep _ (by simp) hq hd (h.freeEntry d hq)
    · rw [Function.update_of_ne hdi] at hd
      refine hkeep _ (by simp) (fun hq => hdi (h.mem_entry hq)) (fun hl => ?_) (h.freeEntry d hd)
      rcases hkind _ hl with hk | ⟨e, hk, he⟩
      · cases hk
      · cases hk
        exact hdi he
  · by_cases hji : j = i
    · subst hji
      rw [Function.update_self] at hj
      by_cases hq : .flushEntry j ∈ q j
      · exact hleft _ hq hj
      · exact hkeep _ (by simp) hq hj (h.freeMarker j hq)
    · rw [Function.update_of_ne hji] at hj
      refine hkeep _ (by simp) (fun hq => hji (h.mem_marker hq)) (fun hl => ?_)
        (h.freeMarker j hj)
      rcases hkind _ hl with hk | ⟨e, hk, -⟩
      · cases hk
        exact hji rfl
      · cases hk

theorem Rep.append (h : Rep L cpuOf q) {i : Cpu} {c : Cell} (hc : c ∉ q i)
    (hkind : c = .flushEntry i ∨ ∃ d, c = .entry d ∧ cpuOf d = i) :
    Rep (usersimListInsertTail L (.head i) c) cpuOf (Function.update q i (q i ++ [c])) := by
  have hhead : c ∉ Cell.head i :: q i := by
    intro hm
    rcases List.mem_cons.mp hm with rfl | hm
    · rcases hkind with hk | ⟨d, hk, -⟩ <;> cases hk
    · exact hc hm
  refine h.replace (insertTail_represents (h.ring i) hhead) (fun x hx => ?_)
    (fun x hx hxq hxl => insertTail_frame (h.ring i) ?_ ?_) (fun x hx hxl => ?_)
  · rcases List.mem_append.mp hx with hx | hx
    · exact h.kind i x hx
    · rw [List.mem_singleton.mp hx]
      exact hkind
  · exact fun hm => (List.mem_cons.mp hm).elim hx hxq
  · rintro rfl
    exact hxl (by simp)
  · exact absurd (List.mem_append_left _ hx) hxl

theorem Rep.erase (h : Rep L cpuOf q) {i : Cpu} {c : Cell} (hc : c ∈ q i) :
    Rep (usersimListRemoveEntry L c).1 cpuOf (Function.update q i ((q i).erase c)) := by
  obtain ⟨l₁, l₂, hl⟩ := List.append_of_mem hc
  have hring := h.ring i
  have hnd : (q i).Nodup := (List.nodup_cons.mp hring.nodup).2
  have herase : (q i).erase c = l₁ ++ l₂ := by
    rw [hl] at hnd ⊢
    have hnot : c ∉ l₁ := fun hm =>
      (List.nodup_append.mp hnd).2.2 c hm c (List.mem_cons_self ..) rfl
    rw [List.erase_append_right _ hnot, List.erase_cons_head]
  refine h.replace ?_ (fun x hx => h.kind i x (List.mem_of_mem_erase hx))
    (fun x hx hxq _ => removeEntry_frame hring hc ?_) (fun x hx hxl => ?_)
  · rw [herase]
    rw [hl] at hring
    exact removeEntry_represents hring
  · exact fun hm => (List.mem_cons.mp hm).elim hx hxq
  · by_cases hxc : x = c
    · rw [hxc]
      exact removeEntry_self
    · exact absurd ((List.mem_erase_of_ne hxc).mpr hx) hxl

/-- Popping the head and linking it to itself, as the worker does. -/
theorem Rep.pop (h : Rep L cpuOf q) {i : Cpu} {c : Cell} {l : List Cell} (hq : q i = c :: l) :
    Rep (usersimListInitialize (usersimListRemoveHeadEntry L (.head i)).1 c) cpuOf
      (Function.update q i l) := by
  have hring := h.ring i
  rw [hq] at hring
  have hnd := hring.nodup
  have hcl : c ∉ l := (List.nodup_cons.mp (List.nodup_cons.mp hnd).2).1
  have hch : Cell.head i ≠ c := fun hch => (List.nodup_cons.mp hnd).1 (hch ▸ List.mem_cons_self ..)
  refine h.replace ?_ (fun x hx => h.kind i x (hq ▸ List.mem_cons_of_mem _ hx))
    (fun x hx hxq hxl => ?_) (fun x hx hxl => ?_)
  · have hne : ∀ x ∈ Cell.head i :: l, x ≠ c := by
      rintro x hx rfl
      rcases List.mem_cons.mp hx with hx | hx
      · exact hch hx.symm
      · exact hcl hx
    exact (removeHeadEntry_represents hring).congr (fun x hx => initialize_flink (hne x hx))
      (fun x hx => initialize_blink (hne x hx))
  · rw [hq] at hxq
    have hxc : x ≠ c := fun hxc => hxq (hxc ▸ List.mem_cons_self ..)
    obtain ⟨hf, hb⟩ := removeHeadEntry_frame hring (x := x)
      (fun hm => (List.mem_cons.mp hm).elim hx hxl)
    exact ⟨(initialize_flink hxc).trans hf, (initialize_blink hxc).trans hb⟩
  · rw [hq] at hx
    rcases List.mem_cons.mp hx with rfl | hx
    · exact initialize_represents
    · exact absurd hx hxl

/-- Linking an entry that is in no queue to itself changes nothing. -/
theorem Rep.initialize_free (h : Rep L cpuOf q) {c : Cell} (hc : Represents L c []) :
    Rep (usersimListInitialize L c) cpuOf q := by
  have hsame : ∀ x, (usersimListInitialize L c).flink x = L.flink x ∧
      (usersimListInitialize L c).blink x = L.blink x := by
    intro x
    by_cases hx : x = c
    · subst hx
      rw [Represents.nil_iff] at hc
      have hi := Represents.nil_iff.mp (initialize_represents (L := L) (x := x))
      exact ⟨hi.1.trans hc.1.symm, hi.2.trans hc.2.symm⟩
    · exact ⟨initialize_flink hx, initialize_blink hx⟩
  have hcongr : ∀ {head : Cell} {l : List Cell}, Represents L head l →
      Represents (usersimListInitialize L c) head l :=
    fun hr => hr.congr (fun x _ => (hsame x).1) (fun x _ => (hsame x).2)
  exact ⟨fun i => hcongr (h.ring i), h.kind, fun d hd => hcongr (h.freeEntry d hd),
    fun i hi => hcongr (h.freeMarker i hi)⟩

/-- A DPC that is in no queue may be given any CPU. -/
theorem Rep.retarget (h : Rep L cpuOf q) {d : DpcId} (hd : .entry d ∉ q (cpuOf d)) (i : Cpu) :
    Rep L (Function.update cpuOf d i) q := by
  have hnone : ∀ j, .entry d ∉ q j := fun j hm => by
    rw [← h.mem_entry hm] at hm
    exact hd hm
  refine ⟨h.ring, fun j c hc => ?_, fun e he => ?_, h.freeMarker⟩
  · rcases h.kind j c hc with hk | ⟨e, rfl, he⟩
    · exact Or.inl hk
    · have hed : e ≠ d := by
        rintro rfl
        exact hnone j hc
      exact Or.inr ⟨e, rfl, by rw [Function.update_of_ne hed]; exact he⟩
  · by_cases hed : e = d
    · subst hed
      exact h.freeEntry e hd
    · rw [Function.update_of_ne hed] at he
      exact h.freeEntry e he

/-! ## What an action does to the queues -/

/-- The item a worker takes from a DPC it popped. -/
def State.itemOf (s : State) (d : DpcId) : WorkItem where
  dpc := d
  context := (s.dpcs d).context
  parameter1 := (s.dpcs d).parameter1
  parameter2 := (s.dpcs d).parameter2
  ticket := s.ticket d

/-- Everything an action can do, on states and queues. The links are not described here; that
they represent the queues again is `Rep`. -/
inductive Effect (n : Nat) (s : State) (q : Queues) : Action → State → Queues → Prop
  | keInitializeDpc {d routine context L} (hn : 0 < n) (hd : ¬ Queued s q d) :
      Effect n s q (.keInitializeDpc d routine context)
        { s with
          links := L
          dpcs := Function.update s.dpcs d
            { s.dpcs d with cpuId := 0, workItemRoutine := routine, context := context } } q
  | keSetTargetProcessorDpc {d cpu} (hn : cpu < n) (hd : ¬ Queued s q d) :
      Effect n s q (.keSetTargetProcessorDpc d cpu)
        { s with dpcs := Function.update s.dpcs d { s.dpcs d with cpuId := cpu } } q
  | insertRefused {d a1 a2} (hd : Queued s q d) :
      Effect n s q (.keInsertQueueDpc d a1 a2) { s with log := .insertRefused d :: s.log } q
  | inserted {d a1 a2 L} (hn : s.cpuOf d < n) (hd : ¬ Queued s q d) :
      Effect n s q (.keInsertQueueDpc d a1 a2)
        { s with
          links := L
          dpcs := Function.update s.dpcs d { s.dpcs d with parameter1 := a1, parameter2 := a2 }
          ticket := Function.update s.ticket d s.nextTicket
          nextTicket := s.nextTicket + 1
          log := .inserted s.nextTicket d (s.cpuOf d) (s.dpcs d).context a1 a2 :: s.log }
        (Function.update q (s.cpuOf d) (q (s.cpuOf d) ++ [.entry d]))
  | removeRefused {d} (hd : ¬ Queued s q d) :
      Effect n s q (.keRemoveQueueDpc d) { s with log := .removeRefused d :: s.log } q
  | removed {d L} (hd : Queued s q d) :
      Effect n s q (.keRemoveQueueDpc d)
        { s with links := L, log := .removed (s.ticket d) :: s.log }
        (Function.update q (s.cpuOf d) ((q (s.cpuOf d)).erase (.entry d)))
  | popMarker {i l L} (hw : s.workers i = .ready) (hq : q i = .flushEntry i :: l) :
      Effect n s q (.workerPop i) { s with links := L } (Function.update q i l)
  | popEntry {i d l L} (hw : s.workers i = .ready) (hq : q i = .entry d :: l) :
      Effect n s q (.workerPop i)
        { s with
          links := L
          workers := Function.update s.workers i (.dequeued (s.itemOf d))
          log := .dequeued (s.ticket d) :: s.log }
        (Function.update q i l)
  | workerCall {i item} (hw : s.workers i = .dequeued item) :
      Effect n s q (.workerCall i)
        { s with
          workers := Function.update s.workers i (.executing item)
          log := .executed i item (s.dpcs item.dpc).workItemRoutine :: s.log } q
  | workerReturn {i item} (hw : s.workers i = .executing item) :
      Effect n s q (.workerReturn i)
        { s with
          workers := Function.update s.workers i .ready
          log := .finished item.ticket :: s.log } q
  | workerExit {i} (hw : s.workers i = .ready) (ht : s.terminate i = true) :
      Effect n s q (.workerExit i) { s with workers := Function.update s.workers i .exited } q
  | flushStart {t} (ht : t ∉ s.flushers) :
      Effect n s q (.flushStart t)
        { s with
          flushers := t :: s.flushers
          flush := Function.update s.flush t { cpu := 0, since := none } } q
  | flushEnter {t L} (ht : t ∈ s.flushers) (hs : (s.flush t).since = none)
      (hm : .flushEntry (s.flush t).cpu ∉ q (s.flush t).cpu) :
      Effect n s q (.flushEnter t)
        { s with
          links := L
          flush := Function.update s.flush t
            { cpu := (s.flush t).cpu, since := some s.nextTicket } }
        (Function.update q (s.flush t).cpu
          (q (s.flush t).cpu ++ [.flushEntry (s.flush t).cpu]))
  | flushLeave {t since} (ht : t ∈ s.flushers) (hs : (s.flush t).since = some since)
      (hm : .flushEntry (s.flush t).cpu ∉ q (s.flush t).cpu)
      (hterm : s.terminate (s.flush t).cpu = false) :
      Effect n s q (.flushLeave t)
        { s with
          flush := Function.update s.flush t { cpu := (s.flush t).cpu + 1, since := none }
          log := .flushed (s.flush t).cpu since :: s.log } q
  | flushAbandon {t} (ht : t ∈ s.flushers) (hterm : s.terminate (s.flush t).cpu = true) :
      Effect n s q (.flushLeave t)
        { s with
          flush := Function.update s.flush t { cpu := (s.flush t).cpu + 1, since := none } } q
  | flushEnd {t} (ht : t ∈ s.flushers) (hs : (s.flush t).since = none) :
      Effect n s q (.flushEnd t) { s with flushers := s.flushers.erase t } q
  | terminate {i} :
      Effect n s q (.terminate i) { s with terminate := Function.update s.terminate i true } q

/-- Which CPU a DPC is for changes with its `KDPC` only. -/
theorem cpuOf_update (d : DpcId) (k : Kdpc) :
    (fun e => (Function.update s.dpcs d k e).cpuId) = Function.update s.cpuOf d k.cpuId := by
  funext e
  by_cases he : e = d
  · subst he
    simp
  · simp [Function.update_of_ne he, State.cpuOf]

theorem State.rep_of_dpcs {d : DpcId} {k : Kdpc} (hd : s'.dpcs = Function.update s.dpcs d k)
    (h : Dpc.Rep s'.links (Function.update s.cpuOf d k.cpuId) q) : s'.Rep q := by
  unfold State.Rep
  rwa [show s'.cpuOf = _ from (funext fun e => by rw [State.cpuOf, hd]), cpuOf_update]

section Effect

-- the equations of the long match in `step` are made once, for all of these lemmas
attribute [local simp] step

theorem effect_keInsertQueueDpc {n : Nat} {d : DpcId} {a1 a2 : Ptr} (h : s.Rep q)
    (hs : step n s (.keInsertQueueDpc d a1 a2) = some s') :
    ∃ q', Effect n s q (.keInsertQueueDpc d a1 a2) s' q' ∧ s'.Rep q' := by
  simp only [step] at hs
  split at hs
  · next hn =>
    cases hs
    by_cases hd : Queued s q d
    · have he : usersimListIsEmpty s.links (.entry d) = false := by
        simpa using mt (h.isEmpty_entry d).mp (not_not.mpr hd)
      simp only [insert, he, Bool.not_false, if_true]
      exact ⟨q, .insertRefused hd, h⟩
    · have he : usersimListIsEmpty s.links (.entry d) = true := (h.isEmpty_entry d).mpr hd
      simp only [insert, he, Bool.not_true, Bool.false_eq_true, if_false]
      refine ⟨_, .inserted hn hd, State.rep_of_dpcs rfl ?_⟩
      show Dpc.Rep _ (Function.update s.cpuOf d (s.cpuOf d)) _
      rw [Function.update_eq_self]
      exact Rep.append h hd (Or.inr ⟨d, rfl, rfl⟩)
  · cases hs

theorem effect_keRemoveQueueDpc {n : Nat} {d : DpcId} (h : s.Rep q)
    (hs : step n s (.keRemoveQueueDpc d) = some s') :
    ∃ q', Effect n s q (.keRemoveQueueDpc d) s' q' ∧ s'.Rep q' := by
  simp only [step] at hs
  split at hs
  · cases hs
    by_cases hd : Queued s q d
    · have he : usersimListIsEmpty s.links (.entry d) = false := by
        simpa using mt (h.isEmpty_entry d).mp (not_not.mpr hd)
      simp only [remove, he]
      exact ⟨_, .removed hd, Rep.erase h hd⟩
    · have he : usersimListIsEmpty s.links (.entry d) = true := (h.isEmpty_entry d).mpr hd
      simp only [remove, he, if_true]
      exact ⟨q, .removeRefused hd, h⟩
  · cases hs

theorem effect_workerPop {n : Nat} {i : Cpu} (h : s.Rep q)
    (hs : step n s (.workerPop i) = some s') :
    ∃ q', Effect n s q (.workerPop i) s' q' ∧ s'.Rep q' := by
  simp only [step] at hs
  split at hs
  · next hc =>
    obtain ⟨-, hw, -, he⟩ := hc
    -- the queue is not empty, so there is a cell to pop, and it is the marker or a DPC
    cases hq : q i with
    | nil =>
      have ht := (isEmpty_eq_true_iff (h.ring i)).mpr hq
      rw [he] at ht
      cases ht
    | cons c l =>
      have hring := h.ring i
      rw [hq] at hring
      have hpop : (usersimListRemoveHeadEntry s.links (.head i)).2 = c := by
        rw [removeHeadEntry_eq hring]
      have hrep := Rep.pop h hq
      rcases h.kind i c (hq ▸ List.mem_cons_self ..) with rfl | ⟨d, rfl, -⟩
      · simp only [workerPop, hpop, if_true] at hs
        cases hs
        exact ⟨_, .popMarker hw hq, hrep⟩
      · simp only [workerPop, hpop] at hs
        cases hs
        exact ⟨_, .popEntry hw hq, hrep⟩
  · cases hs

theorem effect_flushEnter {n : Nat} {t : Tid} (h : s.Rep q) (hm : MarkerFree s (.flushEnter t))
    (hs : step n s (.flushEnter t) = some s') :
    ∃ q', Effect n s q (.flushEnter t) s' q' ∧ s'.Rep q' := by
  simp only [step] at hs
  split at hs
  · next hc =>
    cases hs
    have hfree : .flushEntry (s.flush t).cpu ∉ q (s.flush t).cpu := (h.isEmpty_marker _).mp hm
    refine ⟨_, .flushEnter hc.1 hc.2.1 hfree, ?_⟩
    exact (h.initialize_free (h.freeMarker _ hfree)).append hfree (Or.inl rfl)
  · cases hs

theorem effect_flushLeave {n : Nat} {t : Tid} (h : s.Rep q)
    (hs : step n s (.flushLeave t) = some s') :
    ∃ q', Effect n s q (.flushLeave t) s' q' ∧ s'.Rep q' := by
  simp only [step] at hs
  split at hs
  · next since hsince =>
    split at hs
    · next hc =>
      cases hs
      cases hterm : s.terminate (s.flush t).cpu with
      | true => exact ⟨q, .flushAbandon hc.1 hterm, h⟩
      | false =>
        rw [hterm] at hc
        have hfree : .flushEntry (s.flush t).cpu ∉ q (s.flush t).cpu :=
          (h.isEmpty_marker _).mp (hc.2.resolve_left (by simp))
        exact ⟨q, .flushLeave hc.1 hsince hfree hterm, h⟩
    · cases hs
  · cases hs

/-- Every action does one of the listed things, and the new links represent the new queues. -/
theorem step_effect {n : Nat} {a : Action} (h : s.Rep q) (ha : Admissible n s a)
    (hm : MarkerFree s a) (hs : step n s a = some s') : ∃ q', Effect n s q a s' q' ∧ s'.Rep q' := by
  cases a with
  | keInitializeDpc d routine context =>
    cases hs
    have hd : ¬ Queued s q d := (h.isEmpty_entry d).mp ha.1
    refine ⟨q, .keInitializeDpc ha.2 hd, State.rep_of_dpcs rfl ?_⟩
    exact (h.initialize_free (h.freeEntry d hd)).retarget hd 0
  | keSetTargetProcessorDpc d cpu =>
    cases hs
    have hd : ¬ Queued s q d := (h.isEmpty_entry d).mp ha.1
    exact ⟨q, .keSetTargetProcessorDpc ha.2 hd, State.rep_of_dpcs rfl (h.retarget hd cpu)⟩
  | keInsertQueueDpc d a1 a2 => exact effect_keInsertQueueDpc h hs
  | keRemoveQueueDpc d => exact effect_keRemoveQueueDpc h hs
  | workerPop i => exact effect_workerPop h hs
  | workerCall i =>
    simp only [step] at hs
    split at hs
    · next item hw =>
      cases hs
      exact ⟨q, .workerCall hw, h⟩
    · cases hs
  | workerReturn i =>
    simp only [step] at hs
    split at hs
    · next item hw =>
      cases hs
      exact ⟨q, .workerReturn hw, h⟩
    · cases hs
  | workerExit i =>
    simp only [step] at hs
    split at hs
    · next hc =>
      cases hs
      exact ⟨q, .workerExit hc.1 hc.2, h⟩
    · cases hs
  | flushStart t =>
    simp only [step] at hs
    split at hs
    · cases hs
    · next ht =>
      cases hs
      exact ⟨q, .flushStart ht, h⟩
  | flushEnter t => exact effect_flushEnter h hm hs
  | flushLeave t => exact effect_flushLeave h hs
  | flushEnd t =>
    simp only [step] at hs
    split at hs
    · next hc =>
      cases hs
      exact ⟨q, .flushEnd hc.1 hc.2.1, h⟩
    · cases hs
  | terminate i =>
    cases hs
    exact ⟨q, .terminate, h⟩

end Effect

theorem rep_init (dpcs : DpcId → Kdpc) : (State.init dpcs).Rep fun _ => [] := by
  have hself : ∀ c : Cell, Represents (State.init dpcs).links c [] :=
    fun c => Represents.nil_iff.mpr ⟨rfl, rfl⟩
  exact ⟨fun i => hself _, fun i c hc => absurd hc (List.not_mem_nil), fun d _ => hself _,
    fun i _ => hself _⟩

end Usersim.Dpc
