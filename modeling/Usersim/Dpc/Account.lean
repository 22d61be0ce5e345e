import Mathlib.Data.List.Count
import Usersim.Dpc.Queue

/-!
# Where every insert is

`Account` follows the number of every successful insert through the queues, the workers and the
log. Its heart is the `timeline` of a CPU: the queue from its tail to its head, then the item the
worker is about to execute, then what it has executed, newest first. Popping an item and calling
its routine do not change that list at all, and an insert adds the largest number so far at its
front; so it is always strictly decreasing, which is both "at most once" and "in order".
-/

namespace Usersim.Dpc

open Lib Framework

/-! ## The timeline of a CPU -/

def ticketOf (ticket : DpcId → Nat) : Cell → Option Nat
  | .entry d => some (ticket d)
  | .head _ | .flushEntry _ => none

/-- The numbers of the inserts in a queue, from its head. -/
def tickets (ticket : DpcId → Nat) (l : List Cell) : List Nat := l.filterMap (ticketOf ticket)

/-- The number of the item the worker has popped and not yet started. -/
def pendingOf : Worker → List Nat
  | .dequeued item => [item.ticket]
  | .ready | .executing _ | .exited => []

def executedTicket (i : Cpu) : Event → Option Nat
  | .executed j item _ => if j = i then some item.ticket else none
  | _ => none

/-- The numbers of the inserts that CPU `i` has executed, newest first. -/
def executedOn (i : Cpu) (log : List Event) : List Nat := log.filterMap (executedTicket i)

def timeline (s : State) (q : Queues) (i : Cpu) : List Nat :=
  (tickets s.ticket (q i)).reverse ++ (pendingOf (s.workers i) ++ executedOn i s.log)

/-- The worker has popped the item and not yet returned from its routine. -/
def Holds (w : Worker) (item : WorkItem) : Prop := w = .dequeued item ∨ w = .executing item

/-- The insert a work item stems from. -/
def WorkItem.insertion (item : WorkItem) (i : Cpu) : Event :=
  .inserted item.ticket item.dpc i item.context item.parameter1 item.parameter2

/-! ## The account -/

/-- The place of an insert on CPU `i`. -/
inductive Place (s : State) (q : Queues) (t : Nat) (i : Cpu) : Prop
  | queued (hq : t ∈ tickets s.ticket (q i)) (hr : s.log.count (.removed t) = 0)
      (hd : s.log.count (.dequeued t) = 0)
  | removed (hq : t ∉ tickets s.ticket (q i)) (hr : s.log.count (.removed t) = 1)
      (hd : s.log.count (.dequeued t) = 0)
      (hx : t ∉ pendingOf (s.workers i) ++ executedOn i s.log)
  | dequeued (hq : t ∉ tickets s.ticket (q i)) (hr : s.log.count (.removed t) = 0)
      (hd : s.log.count (.dequeued t) = 1)
      (hx : t ∈ pendingOf (s.workers i) ++ executedOn i s.log)
      (hf : (∃ item, Holds (s.workers i) item ∧ item.ticket = t) ∨ .finished t ∈ s.log)

structure Account (s : State) (q : Queues) : Prop where
  sorted : ∀ i, (timeline s q i).Pairwise (· > ·)
  bound : ∀ i, ∀ t ∈ timeline s q i, t < s.nextTicket
  inserted_lt : ∀ t d i c a b, .inserted t d i c a b ∈ s.log → t < s.nextTicket
  inserted_unique : ∀ t d i c a b d' i' c' a' b', .inserted t d i c a b ∈ s.log →
    .inserted t d' i' c' a' b' ∈ s.log → d = d' ∧ i = i' ∧ c = c' ∧ a = a' ∧ b = b'
  queued_inserted : ∀ i d, .entry d ∈ q i → (s.itemOf d).insertion i ∈ s.log
  held_inserted : ∀ i item, Holds (s.workers i) item → item.insertion i ∈ s.log
  executed_inserted : ∀ i item r, .executed i item r ∈ s.log → item.insertion i ∈ s.log
  known : ∀ t, .removed t ∈ s.log ∨ .dequeued t ∈ s.log →
    ∃ d i c a b, .inserted t d i c a b ∈ s.log
  place : ∀ t d i c a b, .inserted t d i c a b ∈ s.log → Place s q t i

theorem account_init (dpcs : DpcId → Kdpc) : Account (State.init dpcs) fun _ => [] where
  sorted := fun _ => List.Pairwise.nil
  bound := fun _ _ ht => absurd ht List.not_mem_nil
  inserted_lt := fun _ _ _ _ _ _ h => absurd h List.not_mem_nil
  inserted_unique := fun _ _ _ _ _ _ _ _ _ _ _ h => absurd h List.not_mem_nil
  queued_inserted := fun _ _ h => absurd h List.not_mem_nil
  held_inserted := fun _ _ h => h.elim nofun nofun
  executed_inserted := fun _ _ _ h => absurd h List.not_mem_nil
  known := fun _ h => h.elim (absurd · List.not_mem_nil) (absurd · List.not_mem_nil)
  place := fun _ _ _ _ _ _ h => absurd h List.not_mem_nil

/-! ## Lists of tickets -/

@[simp] theorem tickets_append (f : DpcId → Nat) (l₁ l₂ : List Cell) :
    tickets f (l₁ ++ l₂) = tickets f l₁ ++ tickets f l₂ := List.filterMap_append

@[simp] theorem tickets_entry (f : DpcId → Nat) (d : DpcId) (l : List Cell) :
    tickets f (.entry d :: l) = f d :: tickets f l := rfl

@[simp] theorem tickets_marker (f : DpcId → Nat) (i : Cpu) (l : List Cell) :
    tickets f (.flushEntry i :: l) = tickets f l := rfl

@[simp] theorem tickets_nil (f : DpcId → Nat) : tickets f [] = [] := rfl

theorem mem_tickets {f : DpcId → Nat} {l : List Cell} {t : Nat} :
    t ∈ tickets f l ↔ ∃ d, .entry d ∈ l ∧ f d = t := by
  unfold tickets
  rw [List.mem_filterMap]
  constructor
  · rintro ⟨c, hc, ht⟩
    cases c with
    | entry d => exact ⟨d, hc, Option.some.inj ht⟩
    | head _ => cases ht
    | flushEntry _ => cases ht
  · rintro ⟨d, hd, rfl⟩
    exact ⟨_, hd, rfl⟩

/-- The tickets of a queue do not depend on DPCs that are not in it. -/
theorem tickets_update {f : DpcId → Nat} {l : List Cell} {d : DpcId} {t : Nat}
    (hd : .entry d ∉ l) : tickets (Function.update f d t) l = tickets f l := by
  unfold tickets
  refine List.filterMap_congr fun c hc => ?_
  cases c with
  | entry e =>
    have hed : e ≠ d := fun hed => hd (hed ▸ hc)
    simp [ticketOf, Function.update_of_ne hed]
  | head _ => rfl
  | flushEntry _ => rfl

theorem tickets_sublist {f : DpcId → Nat} {l l' : List Cell} (h : l.Sublist l') :
    (tickets f l).Sublist (tickets f l') := h.filterMap _

theorem executedOn_cons (i : Cpu) (e : Event) (log : List Event) :
    executedOn i (e :: log) = (executedTicket i e).toList ++ executedOn i log := by
  unfold executedOn
  cases h : executedTicket i e <;> simp [h]

theorem mem_of_cons {e x : Event} {log : List Event} (h : x ∈ e :: log) (hne : x ≠ e) : x ∈ log :=
  (List.mem_cons.mp h).resolve_left hne

/-! ## Actions that do not move an insert -/

/-- An event that is neither an insert, a removal, a dequeue nor an execution. -/
def Event.Quiet : Event → Prop
  | .insertRefused _ | .removeRefused _ | .finished _ | .flushed _ _ => True
  | .inserted .. | .removed _ | .dequeued _ | .executed .. => False

/-- The log grew by quiet events only. -/
def QuietExtension (log log' : List Event) : Prop :=
  log' = log ∨ ∃ e, e.Quiet ∧ log' = e :: log

theorem QuietExtension.quiet_cons {e : Event} {log : List Event} (he : e.Quiet) :
    QuietExtension log (e :: log) := Or.inr ⟨e, he, rfl⟩

theorem QuietExtension.mem {log log' : List Event} (h : QuietExtension log log') {e : Event}
    (he : ¬ e.Quiet) : e ∈ log' ↔ e ∈ log := by
  rcases h with rfl | ⟨x, hx, rfl⟩
  · exact Iff.rfl
  · rw [List.mem_cons, or_iff_right]
    rintro rfl
    exact he hx

theorem QuietExtension.subset {log log' : List Event} (h : QuietExtension log log') {e : Event}
    (he : e ∈ log) : e ∈ log' := by
  rcases h with rfl | ⟨x, -, rfl⟩
  · exact he
  · exact List.mem_cons_of_mem _ he

theorem QuietExtension.count {log log' : List Event} (h : QuietExtension log log') {e : Event}
    (he : ¬ e.Quiet) : log'.count e = log.count e := by
  rcases h with rfl | ⟨x, hx, rfl⟩
  · rfl
  · refine List.count_cons_of_ne ?_
    rintro rfl
    exact he hx

theorem QuietExtension.executedOn {log log' : List Event} (h : QuietExtension log log')
    (i : Cpu) : executedOn i log' = executedOn i log := by
  rcases h with rfl | ⟨x, hx, rfl⟩
  · rfl
  · rw [executedOn_cons]
    cases x with
    | inserted => exact hx.elim
    | removed => exact hx.elim
    | dequeued => exact hx.elim
    | executed => exact hx.elim
    | insertRefused => rfl
    | removeRefused => rfl
    | finished => rfl
    | flushed => rfl

variable {s s' : State} {q q' : Queues}

/-- An insert that an action does not move. -/
theorem Place.congr {t : Nat} {i : Cpu} (h : Place s q t i)
    (hq : t ∈ tickets s'.ticket (q' i) ↔ t ∈ tickets s.ticket (q i))
    (hr : s'.log.count (.removed t) = s.log.count (.removed t))
    (hd : s'.log.count (.dequeued t) = s.log.count (.dequeued t))
    (hx : t ∈ pendingOf (s'.workers i) ++ executedOn i s'.log ↔
      t ∈ pendingOf (s.workers i) ++ executedOn i s.log)
    (hholds : ∀ item, Holds (s.workers i) item → item.ticket = t →
      Holds (s'.workers i) item ∨ .finished t ∈ s'.log)
    (hfinished : .finished t ∈ s.log → .finished t ∈ s'.log) : Place s' q' t i := by
  cases h with
  | queued hq' hr' hd' => exact .queued (hq.mpr hq') (hr.trans hr') (hd.trans hd')
  | removed hq' hr' hd' hx' =>
    exact .removed (mt hq.mp hq') (hr.trans hr') (hd.trans hd') (mt hx.mp hx')
  | dequeued hq' hr' hd' hx' hf =>
    refine .dequeued (mt hq.mp hq') (hr.trans hr') (hd.trans hd') (hx.mpr hx') ?_
    rcases hf with ⟨item, hi, ht⟩ | hf
    · exact (hholds item hi ht).imp_left fun hi' => ⟨item, hi', ht⟩
    · exact Or.inr (hfinished hf)

/-- An action that moves no insert keeps the account. -/
theorem Account.quiet (h : Account s q) (hlog : QuietExtension s.log s'.log)
    (hnext : s'.nextTicket = s.nextTicket)
    (htickets : ∀ i, tickets s'.ticket (q' i) = tickets s.ticket (q i))
    (hpending : ∀ i, pendingOf (s'.workers i) = pendingOf (s.workers i))
    (hholds : ∀ i item, Holds (s'.workers i) item → Holds (s.workers i) item)
    (hdone : ∀ i item, Holds (s.workers i) item →
      Holds (s'.workers i) item ∨ .finished item.ticket ∈ s'.log)
    (hqueued : ∀ i d, .entry d ∈ q' i → .entry d ∈ q i ∧ s'.itemOf d = s.itemOf d) :
    Account s' q' := by
  have htl : ∀ i, timeline s' q' i = timeline s q i := fun i => by
    unfold timeline
    rw [htickets, hpending, hlog.executedOn]
  have hins : ∀ t d i c a b, Event.inserted t d i c a b ∈ s'.log ↔
      Event.inserted t d i c a b ∈ s.log := fun _ _ _ _ _ _ => hlog.mem (by simp [Event.Quiet])
  refine ⟨fun i => htl i ▸ h.sorted i, fun i => ?_, fun t d i c a b he => ?_,
    fun t d i c a b d' i' c' a' b' he he' => ?_, fun i d hd => ?_, fun i item hi => ?_,
    fun i item r he => ?_, fun t he => ?_, fun t d i c a b he => ?_⟩
  · rw [htl, hnext]
    exact h.bound i
  · rw [hnext]
    exact h.inserted_lt t d i c a b ((hins ..).mp he)
  · exact h.inserted_unique t d i c a b d' i' c' a' b' ((hins ..).mp he) ((hins ..).mp he')
  · obtain ⟨hq, hitem⟩ := hqueued i d hd
    rw [hitem]
    exact (hins ..).mpr (h.queued_inserted i d hq)
  · exact (hins ..).mpr (h.held_inserted i item (hholds i item hi))
  · exact (hins ..).mpr (h.executed_inserted i item r ((hlog.mem (by simp [Event.Quiet])).mp he))
  · rw [hlog.mem (by simp [Event.Quiet]), hlog.mem (by simp [Event.Quiet])] at he
    obtain ⟨d, i, c, a, b, hd⟩ := h.known t he
    exact ⟨d, i, c, a, b, (hins ..).mpr hd⟩
  · have hr := hlog.count (e := .removed t) (by simp [Event.Quiet])
    have hd := hlog.count (e := .dequeued t) (by simp [Event.Quiet])
    refine (h.place t d i c a b ((hins ..).mp he)).congr ?_ hr hd ?_ ?_ hlog.subset
    · rw [htickets]
    · rw [hpending, hlog.executedOn]
    · rintro item hi rfl
      exact hdone i item hi

/-! ## The four actions that move an insert -/

/-- Two DPCs with the same number are the same DPC. -/
theorem Account.ticket_inj (h : Account s q) {i j : Cpu} {d e : DpcId} (hd : .entry d ∈ q i)
    (he : .entry e ∈ q j) (ht : s.ticket d = s.ticket e) : d = e ∧ i = j := by
  have hi := h.queued_inserted i d hd
  have hj := h.queued_inserted j e he
  unfold WorkItem.insertion State.itemOf at hi hj
  rw [ht] at hi
  obtain ⟨hde, hij, -⟩ := h.inserted_unique _ _ _ _ _ _ _ _ _ _ _ hi hj
  exact ⟨hde, hij⟩

/-- The insert of a queued DPC has neither been removed nor dequeued. -/
theorem Account.queued_counts (h : Account s q) {i : Cpu} {d : DpcId} (hd : .entry d ∈ q i) :
    s.log.count (.removed (s.ticket d)) = 0 ∧ s.log.count (.dequeued (s.ticket d)) = 0 := by
  have hmem : s.ticket d ∈ tickets s.ticket (q i) := mem_tickets.mpr ⟨d, hd, rfl⟩
  cases h.place _ _ _ _ _ _ (h.queued_inserted i d hd) with
  | queued _ hr hd => exact ⟨hr, hd⟩
  | removed hq _ _ _ => exact absurd hmem hq
  | dequeued hq _ _ _ _ => exact absurd hmem hq

/-- What is in the queue was not executed: the timeline has every number once. -/
theorem Account.queued_not_executed (h : Account s q) {t : Nat} {i : Cpu}
    (hq : t ∈ tickets s.ticket (q i)) : t ∉ pendingOf (s.workers i) ++ executedOn i s.log := by
  intro hx
  have hlt := (List.pairwise_append.mp (h.sorted i)).2.2 t (List.mem_reverse.mpr hq) t hx
  exact lt_irrefl _ hlt

/-- The number that is given next has not been removed or dequeued. -/
theorem Account.nextTicket_unknown (h : Account s q) :
    .removed s.nextTicket ∉ s.log ∧ .dequeued s.nextTicket ∉ s.log := by
  refine not_or.mp fun hknown => ?_
  obtain ⟨e, i, c, a, b, hi⟩ := h.known s.nextTicket hknown
  exact absurd (h.inserted_lt _ _ _ _ _ _ hi) (lt_irrefl _)

/-- The numbers in the queues after a DPC was put into one of them. -/
theorem tickets_insert {ticket : DpcId → Nat} {d : DpcId} {cpu n : Nat}
    (hd : ∀ j, .entry d ∉ q j) (j : Nat) :
    tickets (Function.update ticket d n) (Function.update q cpu (q cpu ++ [.entry d]) j) =
      tickets ticket (q j) ++ if j = cpu then [n] else [] := by
  have hold : ∀ j, tickets (Function.update ticket d n) (q j) = tickets ticket (q j) :=
    fun j => tickets_update (hd j)
  by_cases hj : j = cpu
  · subst hj
    simp [hold]
  · simp [hj, hold]

/-- The new number is in the queue of its CPU, and the others are where they were. -/
theorem mem_tickets_insert {ticket : DpcId → Nat} {d : DpcId} {cpu n t : Nat}
    (hd : ∀ j, .entry d ∉ q j) (j : Nat) :
    t ∈ tickets (Function.update ticket d n) (Function.update q cpu (q cpu ++ [.entry d]) j) ↔
      t ∈ tickets ticket (q j) ∨ j = cpu ∧ t = n := by
  rw [tickets_insert hd, List.mem_append]
  refine or_congr_right ?_
  by_cases hj : j = cpu
  · simp [hj]
  · simp [hj]

/-- The insert that has just been made: no removal or dequeue can have its number yet. -/
theorem Account.place_new (h : Account s q) {i : Cpu} {event : Event}
    (hq : s.nextTicket ∈ tickets s'.ticket (q' i)) (hlog : s'.log = event :: s.log)
    (hremoved : event ≠ .removed s.nextTicket) (hdequeued : event ≠ .dequeued s.nextTicket) :
    Place s' q' s.nextTicket i := by
  obtain ⟨hr, hd⟩ := h.nextTicket_unknown
  refine .queued hq ?_ ?_
  · rw [hlog, List.count_cons_of_ne hremoved]
    exact List.count_eq_zero.mpr hr
  · rw [hlog, List.count_cons_of_ne hdequeued]
    exact List.count_eq_zero.mpr hd

theorem Account.inserted (h : Account s q) {d : DpcId} {a1 a2 : Ptr} {L : Links Cell}
    (hd : ∀ j, .entry d ∉ q j) :
    Account
      { s with
        links := L
        dpcs := Function.update s.dpcs d { s.dpcs d with parameter1 := a1, parameter2 := a2 }
        ticket := Function.update s.ticket d s.nextTicket
        nextTicket := s.nextTicket + 1
        log := .inserted s.nextTicket d (s.cpuOf d) (s.dpcs d).context a1 a2 :: s.log }
      (Function.update q (s.cpuOf d) (q (s.cpuOf d) ++ [.entry d])) := by
  refine ⟨fun i => ?_, fun i t ht => ?_, fun t e i c a b he => ?_,
    fun t e i c a b e' i' c' a' b' he he' => ?_, fun i e he => ?_, fun i item hi => ?_,
    fun i item r he => ?_, fun t he => ?_, fun t e i c a b he => ?_⟩
  · show ((tickets _ _).reverse ++ _).Pairwise _
    rw [tickets_insert hd, List.reverse_append, List.append_assoc]
    by_cases hi : i = s.cpuOf d
    · rw [if_pos hi]
      exact List.Pairwise.cons (fun t ht => h.bound i t ht) (h.sorted i)
    · rw [if_neg hi]
      exact h.sorted i
  · rcases List.mem_append.mp ht with hl | hl
    · rcases (mem_tickets_insert hd i).mp (List.mem_reverse.mp hl) with hold | ⟨-, rfl⟩
      · exact Nat.lt_succ_of_lt
          (h.bound i t (List.mem_append_left _ (List.mem_reverse.mpr hold)))
      · exact Nat.lt_succ_self _
    · exact Nat.lt_succ_of_lt (h.bound i t (List.mem_append_right _ hl))
  · rcases List.mem_cons.mp he with he | he
    · cases he
      exact Nat.lt_succ_self _
    · exact Nat.lt_succ_of_lt (h.inserted_lt t e i c a b he)
  · rcases List.mem_cons.mp he with he | he <;> rcases List.mem_cons.mp he' with he' | he'
    · cases he
      cases he'
      exact ⟨rfl, rfl, rfl, rfl, rfl⟩
    · cases he
      exact absurd (h.inserted_lt _ _ _ _ _ _ he') (lt_irrefl _)
    · cases he'
      exact absurd (h.inserted_lt _ _ _ _ _ _ he) (lt_irrefl _)
    · exact h.inserted_unique t e i c a b e' i' c' a' b' he he'
  · by_cases hed : e = d
    · subst hed
      have hi : i = s.cpuOf e := by
        by_contra hi
        rw [Function.update_of_ne hi] at he
        exact hd i he
      subst hi
      simp [WorkItem.insertion, State.itemOf]
    · have heq : .entry e ∈ q i := by
        by_cases hi : i = s.cpuOf d
        · subst hi
          simpa [hed] using he
        · rwa [Function.update_of_ne hi] at he
      refine List.mem_cons_of_mem _ ?_
      simpa [WorkItem.insertion, State.itemOf, Function.update_of_ne hed] using
        h.queued_inserted i e heq
  · exact List.mem_cons_of_mem _ (h.held_inserted i item hi)
  · rcases List.mem_cons.mp he with he | he
    · cases he
    · exact List.mem_cons_of_mem _ (h.executed_inserted i item r he)
  · have he' : .removed t ∈ s.log ∨ .dequeued t ∈ s.log := by simpa using he
    obtain ⟨e, i, c, a, b, hi⟩ := h.known t he'
    exact ⟨e, i, c, a, b, List.mem_cons_of_mem _ hi⟩
  · rcases List.mem_cons.mp he with he | he
    · cases he
      exact h.place_new ((mem_tickets_insert hd _).mpr (.inr ⟨rfl, rfl⟩)) rfl nofun nofun
    · have hlt : t < s.nextTicket := h.inserted_lt t e i c a b he
      have hmem : t ∈ tickets (Function.update s.ticket d s.nextTicket)
          (Function.update q (s.cpuOf d) (q (s.cpuOf d) ++ [.entry d]) i) ↔
          t ∈ tickets s.ticket (q i) :=
        (mem_tickets_insert hd i).trans (or_iff_left fun hnew => Nat.ne_of_lt hlt hnew.2)
      refine (h.place t e i c a b he).congr hmem (List.count_cons_of_ne (by simp))
        (List.count_cons_of_ne (by simp)) ?_ (fun item hi _ => Or.inl hi)
        (List.mem_cons_of_mem _)
      rw [executedOn_cons]
      rfl

/-- The numbers left in a queue after a DPC was taken out of it. -/
theorem Account.mem_tickets_without (h : Account s q) {i : Cpu} {d : DpcId} {l : List Cell}
    (hd : .entry d ∈ q i)
    (hl : ∀ c, c ∈ l ↔ c ∈ q i ∧ c ≠ .entry d) (t : Nat) :
    t ∈ tickets s.ticket l ↔ t ∈ tickets s.ticket (q i) ∧ t ≠ s.ticket d := by
  rw [mem_tickets, mem_tickets]
  constructor
  · rintro ⟨e, he, rfl⟩
    obtain ⟨he, hne⟩ := (hl _).mp he
    refine ⟨⟨e, he, rfl⟩, fun ht => hne ?_⟩
    rw [(h.ticket_inj he hd ht).1]
  · rintro ⟨⟨e, he, rfl⟩, hne⟩
    refine ⟨e, (hl _).mpr ⟨he, fun hed => hne ?_⟩, rfl⟩
    cases hed
    rfl

/-- The other numbers stay where they are. -/
theorem Account.mem_tickets_update (h : Account s q) {i : Cpu} {d : DpcId} {l : List Cell} {t : Nat}
    (hd : .entry d ∈ q i) (hl : ∀ c, c ∈ l ↔ c ∈ q i ∧ c ≠ .entry d) (ht : t ≠ s.ticket d)
    (j : Cpu) :
    t ∈ tickets s.ticket (Function.update q i l j) ↔ t ∈ tickets s.ticket (q j) := by
  by_cases hj : j = i
  · subst hj
    rw [Function.update_self, h.mem_tickets_without hd hl]
    exact and_iff_left ht
  · rw [Function.update_of_ne hj]

/-- A number in the log, or that of a DPC in a queue, was given to an insert. -/
theorem Account.known_cons (h : Account s q) {i : Cpu} {d : DpcId} {t : Nat} (event : Event)
    (hd : .entry d ∈ q i)
    (ht : t = s.ticket d ∨ .removed t ∈ s.log ∨ .dequeued t ∈ s.log) :
    ∃ e j c a b, .inserted t e j c a b ∈ event :: s.log := by
  rcases ht with rfl | ht
  · exact ⟨_, _, _, _, _, List.mem_cons_of_mem _ (h.queued_inserted _ d hd)⟩
  · obtain ⟨e, j, c, a, b, hi⟩ := h.known t ht
    exact ⟨e, j, c, a, b, List.mem_cons_of_mem _ hi⟩

theorem Account.removed (h : Account s q) {d : DpcId} {L : Links Cell}
    (hnd : (q (s.cpuOf d)).Nodup) (hd : .entry d ∈ q (s.cpuOf d)) :
    Account { s with links := L, log := .removed (s.ticket d) :: s.log }
      (Function.update q (s.cpuOf d) ((q (s.cpuOf d)).erase (.entry d))) := by
  have hmeml : ∀ c, c ∈ (q (s.cpuOf d)).erase (.entry d) ↔ c ∈ q (s.cpuOf d) ∧ c ≠ .entry d :=
    fun c => hnd.mem_erase_iff.trans and_comm
  have hsub : ∀ i, (Function.update q (s.cpuOf d) ((q (s.cpuOf d)).erase (.entry d)) i).Sublist
      (q i) := by
    intro i
    by_cases hi : i = s.cpuOf d
    · subst hi
      simpa using List.erase_sublist
    · rw [Function.update_of_ne hi]
  have htl : ∀ i, (timeline { s with links := L, log := .removed (s.ticket d) :: s.log }
      (Function.update q (s.cpuOf d) ((q (s.cpuOf d)).erase (.entry d))) i).Sublist
      (timeline s q i) := by
    intro i
    unfold timeline
    rw [executedOn_cons]
    exact ((tickets_sublist (hsub i)).reverse).append (List.Sublist.refl _)
  obtain ⟨hr0, hd0⟩ := h.queued_counts hd
  refine ⟨fun i => (h.sorted i).sublist (htl i), fun i t ht => h.bound i t ((htl i).subset ht),
    fun t e i c a b he => h.inserted_lt t e i c a b (mem_of_cons he nofun),
    fun t e i c a b e' i' c' a' b' he he' => h.inserted_unique t e i c a b e' i' c' a' b'
      (mem_of_cons he nofun) (mem_of_cons he' nofun),
    fun i e he => List.mem_cons_of_mem _ (h.queued_inserted i e ((hsub i).subset he)),
    fun i item hi => List.mem_cons_of_mem _ (h.held_inserted i item hi),
    fun i item r he => List.mem_cons_of_mem _
      (h.executed_inserted i item r (mem_of_cons he nofun)),
    fun t ht => ?_, fun t e i c a b he => ?_⟩
  · refine h.known_cons _ hd ?_
    simpa [or_assoc] using ht
  · have he : .inserted t e i c a b ∈ s.log := mem_of_cons he nofun
    have hcd : (Event.removed (s.ticket d) :: s.log).count (.dequeued t) =
        s.log.count (.dequeued t) := List.count_cons_of_ne (by simp)
    by_cases ht : t = s.ticket d
    · subst ht
      obtain ⟨-, hi, -⟩ := h.inserted_unique _ _ _ _ _ _ _ _ _ _ _ he (h.queued_inserted _ d hd)
      subst hi
      refine .removed ?_ ?_ (hcd.trans hd0) ?_
      · show _ ∉ tickets s.ticket _
        rw [Function.update_self, h.mem_tickets_without hd hmeml]
        exact fun hm => hm.2 rfl
      · simp [hr0]
      · rw [executedOn_cons]
        exact h.queued_not_executed (mem_tickets.mpr ⟨d, hd, rfl⟩)
    · have hcr : (Event.removed (s.ticket d) :: s.log).count (.removed t) =
          s.log.count (.removed t) := List.count_cons_of_ne (by simpa using Ne.symm ht)
      have hmem := h.mem_tickets_update hd hmeml ht i
      refine (h.place t e i c a b he).congr hmem hcr hcd ?_ (fun item hi _ => Or.inl hi)
        (List.mem_cons_of_mem _)
      rw [executedOn_cons]
      rfl

theorem Account.popEntry (h : Account s q) {i : Cpu} {d : DpcId} {l : List Cell}
    {L : Links Cell} (hnd : (q i).Nodup) (hw : s.workers i = .ready)
    (hq : q i = .entry d :: l) :
    Account
      { s with
        links := L
        workers := Function.update s.workers i (.dequeued (s.itemOf d))
        log := .dequeued (s.ticket d) :: s.log }
      (Function.update q i l) := by
  have hd : .entry d ∈ q i := hq ▸ List.mem_cons_self ..
  have hmeml : ∀ c, c ∈ l ↔ c ∈ q i ∧ c ≠ .entry d := by
    intro c
    rw [hq] at hnd ⊢
    have hdl := (List.nodup_cons.mp hnd).1
    rw [List.mem_cons]
    constructor
    · exact fun hc => ⟨Or.inr hc, fun hcd => hdl (hcd ▸ hc)⟩
    · exact fun hc => hc.1.resolve_left hc.2
  -- the popped insert moves from the end of the queue to the pending place: the list is the same
  have htl : ∀ j, timeline
      { s with
        links := L
        workers := Function.update s.workers i (.dequeued (s.itemOf d))
        log := .dequeued (s.ticket d) :: s.log } (Function.update q i l) j = timeline s q j := by
    intro j
    unfold timeline
    rw [executedOn_cons]
    by_cases hj : j = i
    · subst hj
      simp [hq, hw, pendingOf, State.itemOf, executedTicket]
    · simp [hj, executedTicket]
  have hlmem : ∀ j e, .entry e ∈ Function.update q i l j → .entry e ∈ q j := by
    intro j e he
    by_cases hj : j = i
    · subst hj
      rw [Function.update_self] at he
      exact ((hmeml _).mp he).1
    · rwa [Function.update_of_ne hj] at he
  obtain ⟨hr0, hd0⟩ := h.queued_counts hd
  refine ⟨fun j => htl j ▸ h.sorted j, fun j t ht => h.bound j t (htl j ▸ ht),
    fun t e j c a b he => h.inserted_lt t e j c a b (mem_of_cons he nofun),
    fun t e j c a b e' j' c' a' b' he he' => h.inserted_unique t e j c a b e' j' c' a' b'
      (mem_of_cons he nofun) (mem_of_cons he' nofun),
    fun j e he => List.mem_cons_of_mem _ (h.queued_inserted j e (hlmem j e he)),
    fun j item hi => List.mem_cons_of_mem _ ?_,
    fun j item r he => List.mem_cons_of_mem _
      (h.executed_inserted j item r (mem_of_cons he nofun)),
    fun t ht => ?_, fun t e j c a b he => ?_⟩
  · by_cases hj : j = i
    · subst hj
      simp only [Function.update_self, Holds] at hi
      rcases hi with hi | hi
      · cases hi
        exact h.queued_inserted j d hd
      · cases hi
    · simp only [Function.update_of_ne hj] at hi
      exact h.held_inserted j item hi
  · refine h.known_cons _ hd ?_
    simp only [List.mem_cons, reduceCtorEq, false_or, Event.dequeued.injEq] at ht
    tauto
  · have he : .inserted t e j c a b ∈ s.log := mem_of_cons he nofun
    have hcr : (Event.dequeued (s.ticket d) :: s.log).count (.removed t) =
        s.log.count (.removed t) := List.count_cons_of_ne (by simp)
    by_cases ht : t = s.ticket d
    · subst ht
      obtain ⟨-, hi, -⟩ := h.inserted_unique _ _ _ _ _ _ _ _ _ _ _ he (h.queued_inserted _ d hd)
      subst hi
      refine .dequeued ?_ (hcr.trans hr0) ?_ ?_ (Or.inl ⟨s.itemOf d, ?_, rfl⟩)
      · show _ ∉ tickets s.ticket _
        rw [Function.update_self, h.mem_tickets_without hd hmeml]
        exact fun hm => hm.2 rfl
      · simp [hd0]
      · simp [pendingOf, State.itemOf]
      · exact Or.inl (Function.update_self ..)
    · have hcd : (Event.dequeued (s.ticket d) :: s.log).count (.dequeued t) =
          s.log.count (.dequeued t) := List.count_cons_of_ne (by simpa using Ne.symm ht)
      have hmem := h.mem_tickets_update hd hmeml ht j
      refine (h.place t e j c a b he).congr hmem hcr hcd ?_ ?_ (List.mem_cons_of_mem _)
      · rw [executedOn_cons]
        by_cases hj : j = i
        · subst hj
          simp [hw, pendingOf, State.itemOf, executedTicket, ht]
        · simp [Function.update_of_ne hj, executedTicket]
      · intro item hi _
        refine Or.inl ?_
        by_cases hj : j = i
        · subst hj
          rw [hw] at hi
          exact hi.elim nofun nofun
        · simpa only [Function.update_of_ne hj] using hi

theorem Account.workerCall (h : Account s q) {i : Cpu} {item : WorkItem} {r : Ptr}
    (hw : s.workers i = .dequeued item) :
    Account
      { s with
        workers := Function.update s.workers i (.executing item)
        log := .executed i item r :: s.log } q := by
  -- the pending item moves to the front of what was executed: again the list is the same
  have hpe : ∀ j, pendingOf (Function.update s.workers i (.executing item) j) ++
      executedOn j (.executed i item r :: s.log) =
      pendingOf (s.workers j) ++ executedOn j s.log := by
    intro j
    rw [executedOn_cons]
    by_cases hj : j = i
    · subst hj
      simp [hw, pendingOf, executedTicket]
    · simp [Function.update_of_ne hj, executedTicket, Ne.symm hj]
  have htl : ∀ j, timeline
      { s with
        workers := Function.update s.workers i (.executing item)
        log := .executed i item r :: s.log } q j = timeline s q j := by
    intro j
    unfold timeline
    rw [hpe]
  have hholds : ∀ j x, Holds (s.workers j) x ↔
      Holds (Function.update s.workers i (.executing item) j) x := by
    intro j x
    by_cases hj : j = i
    · subst hj
      simp only [Function.update_self, hw, Holds, Worker.dequeued.injEq, Worker.executing.injEq,
        reduceCtorEq, or_false, false_or]
    · rw [Function.update_of_ne hj]
  refine ⟨fun j => htl j ▸ h.sorted j, fun j t ht => h.bound j t (htl j ▸ ht),
    fun t e j c a b he => h.inserted_lt t e j c a b (mem_of_cons he nofun),
    fun t e j c a b e' j' c' a' b' he he' => h.inserted_unique t e j c a b e' j' c' a' b'
      (mem_of_cons he nofun) (mem_of_cons he' nofun),
    fun j e he => List.mem_cons_of_mem _ (h.queued_inserted j e he),
    fun j x hi => List.mem_cons_of_mem _ (h.held_inserted j x ((hholds j x).mpr hi)),
    fun j x r' he => List.mem_cons_of_mem _ ?_,
    fun t ht => ?_, fun t e j c a b he => ?_⟩
  · rcases List.mem_cons.mp he with he | he
    · cases he
      exact h.held_inserted i item (Or.inl hw)
    · exact h.executed_inserted j x r' he
  · obtain ⟨e, i, c, a, b, hi⟩ := h.known t (by simpa using ht)
    exact ⟨e, i, c, a, b, List.mem_cons_of_mem _ hi⟩
  · have hcr : (Event.executed i item r :: s.log).count (.removed t) =
        s.log.count (.removed t) := List.count_cons_of_ne (by simp)
    have hcd : (Event.executed i item r :: s.log).count (.dequeued t) =
        s.log.count (.dequeued t) := List.count_cons_of_ne (by simp)
    refine (h.place t e j c a b (mem_of_cons he nofun)).congr Iff.rfl hcr hcd ?_
      (fun x hi _ => Or.inl ((hholds j x).mp hi)) (List.mem_cons_of_mem _)
    rw [hpe]

/-! ## Every action -/

/-- Workers that hold the same items, and a log that grew by quiet events only. -/
theorem Account.same_workers (h : Account s q) (hlog : QuietExtension s.log s'.log)
    (hnext : s'.nextTicket = s.nextTicket) (hticket : s'.ticket = s.ticket)
    (hworkers : s'.workers = s.workers)
    (hentries : ∀ i, tickets s.ticket (q' i) = tickets s.ticket (q i))
    (hqueued : ∀ i d, .entry d ∈ q' i → .entry d ∈ q i ∧ s'.itemOf d = s.itemOf d) :
    Account s' q' := by
  refine h.quiet hlog hnext (fun i => ?_) (fun i => ?_) (fun i item hi => ?_)
    (fun i item hi => Or.inl ?_) hqueued
  · rw [hticket]
    exact hentries i
  · rw [hworkers]
  · rwa [hworkers] at hi
  · rwa [hworkers]

/-- A `KDPC` that is in no queue may change. -/
theorem itemOf_update {n : DpcId} {k : Kdpc} {L : Links Cell} {i : Cpu}
    (hr : s.Rep q) (hn : ¬ Queued s q n) {d : DpcId} (hd : .entry d ∈ q i) :
    State.itemOf { s with links := L, dpcs := Function.update s.dpcs n k } d = s.itemOf d := by
  have hdn : d ≠ n := by
    rintro rfl
    rw [← Rep.mem_entry hr hd] at hd
    exact hn hd
  simp [State.itemOf, Function.update_of_ne hdn]

theorem account_step {n : Nat} {a : Action} (h : Account s q) (hr : s.Rep q)
    (he : Effect n s q a s' q') : Account s' q' := by
  have hnd : ∀ i, (q i).Nodup := fun i => (List.nodup_cons.mp (hr.ring i).nodup).2
  cases he with
  | keInitializeDpc _ hd =>
    exact h.same_workers (Or.inl rfl) rfl rfl rfl (fun _ => rfl)
      fun i e he => ⟨he, itemOf_update hr hd he⟩
  | keSetTargetProcessorDpc _ hd =>
    exact h.same_workers (Or.inl rfl) rfl rfl rfl (fun _ => rfl)
      fun i e he => ⟨he, itemOf_update hr hd he⟩
  | insertRefused _ =>
    exact h.same_workers (.quiet_cons trivial) rfl rfl rfl (fun _ => rfl)
      fun _ _ he => ⟨he, rfl⟩
  | @inserted d a1 a2 L _ hd =>
    refine h.inserted fun j hm => hd ?_
    rw [← Rep.mem_entry hr hm] at hm
    exact hm
  | removeRefused _ =>
    exact h.same_workers (.quiet_cons trivial) rfl rfl rfl (fun _ => rfl)
      fun _ _ he => ⟨he, rfl⟩
  | removed hd => exact h.removed (hnd _) hd
  | @popMarker i l L _ hq =>
    refine h.same_workers (Or.inl rfl) rfl rfl rfl (fun j => ?_) fun j e he => ⟨?_, rfl⟩
    · by_cases hj : j = i
      · subst hj
        rw [Function.update_self, hq, tickets_marker]
      · rw [Function.update_of_ne hj]
    · by_cases hj : j = i
      · subst hj
        rw [Function.update_self] at he
        rw [hq]
        exact List.mem_cons_of_mem _ he
      · rwa [Function.update_of_ne hj] at he
  | popEntry hw hq => exact h.popEntry (hnd _) hw hq
  | workerCall hw => exact h.workerCall hw
  | @workerReturn i item hw =>
    refine h.quiet (.quiet_cons trivial) rfl (fun _ => rfl) (fun j => ?_) (fun j x hx => ?_)
      (fun j x hx => ?_) fun _ _ he => ⟨he, rfl⟩
    all_goals by_cases hj : j = i
    · subst hj
      simp [hw, pendingOf]
    · simp [Function.update_of_ne hj]
    · subst hj
      simp only [Function.update_self, Holds] at hx
      exact hx.elim nofun nofun
    · simpa only [Function.update_of_ne hj] using hx
    · subst hj
      rw [hw] at hx
      rcases hx with hx | hx
      · cases hx
      · cases hx
        exact Or.inr (List.mem_cons_self ..)
    · exact Or.inl (by simpa only [Function.update_of_ne hj] using hx)
  | @workerExit i hw _ =>
    refine h.quiet (Or.inl rfl) rfl (fun _ => rfl) (fun j => ?_) (fun j x hx => ?_)
      (fun j x hx => Or.inl ?_) fun _ _ he => ⟨he, rfl⟩
    all_goals by_cases hj : j = i
    · subst hj
      simp [hw, pendingOf]
    · simp [Function.update_of_ne hj]
    · subst hj
      simp only [Function.update_self, Holds] at hx
      exact hx.elim nofun nofun
    · simpa only [Function.update_of_ne hj] using hx
    · subst hj
      rw [hw] at hx
      exact hx.elim nofun nofun
    · simpa only [Function.update_of_ne hj] using hx
  | flushStart _ =>
    exact h.same_workers (Or.inl rfl) rfl rfl rfl (fun _ => rfl) fun _ _ he => ⟨he, rfl⟩
  | @flushEnter t L _ _ _ =>
    refine h.same_workers (Or.inl rfl) rfl rfl rfl (fun j => ?_) fun j e he => ⟨?_, rfl⟩
    · by_cases hj : j = (s.flush t).cpu
      · subst hj
        simp
      · rw [Function.update_of_ne hj]
    · by_cases hj : j = (s.flush t).cpu
      · subst hj
        simpa using he
      · rwa [Function.update_of_ne hj] at he
  | flushLeave _ _ _ _ =>
    exact h.same_workers (.quiet_cons trivial) rfl rfl rfl (fun _ => rfl)
      fun _ _ he => ⟨he, rfl⟩
  | flushAbandon _ _ =>
    exact h.same_workers (Or.inl rfl) rfl rfl rfl (fun _ => rfl) fun _ _ he => ⟨he, rfl⟩
  | flushEnd _ _ =>
    exact h.same_workers (Or.inl rfl) rfl rfl rfl (fun _ => rfl) fun _ _ he => ⟨he, rfl⟩
  | terminate =>
    exact h.same_workers (Or.inl rfl) rfl rfl rfl (fun _ => rfl) fun _ _ he => ⟨he, rfl⟩

end Usersim.Dpc
