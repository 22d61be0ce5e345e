import Usersim.Nmr.Pairs
import Usersim.Nmr.Teardown

/-!
# Calls one at a time

When every call begins only after the one before has returned, no completion is early and no scan
meets a registration that has yet to scan, so everything proved about interleavings holds. Between
two calls `bindings` is what the record of attaches and completions says it is, and the answer of a
deregistration says whether one of its entries remains.
-/

namespace Usersim.Nmr

open Lib

variable {s s' : State} {a : Action} {t : Tid} {b : BindingId} {side : Side} {h : Handle}

/-- The action begins a call. -/
def Action.begins : Action → Bool
  | .register .. | .deregister .. | .wait .. | .detachComplete .. => true
  | _ => false

/-- A wait does not block. -/
def WaitsNot (s : State) : Action → Prop
  | .wait _ _ h => (s.registration h).bindingCount ≤ 0
  | _ => True

/-- The callers keep their promises, calls are made one at a time, and a call that waits is made
only when it does not block. -/
def Sequential (s : State) (a : Action) : Prop :=
  Contract s a ∧ (a.begins = true → AllReturned s) ∧ WaitsNot s a

/-! ## One thread at a time -/

def Alone (s : State) : Prop := ∀ t u, s.ops t ≠ .idle → s.ops u ≠ .idle → t = u

theorem Effect.begins_of_idle (he : Effect s a s') (hidle : s.ops a.tid = .idle) :
    a.begins = true := by
  cases he with
  | register _ | deregister _ _ _ | wait _ _ _ | detachComplete _ _ _ | detachInvalid _ _ _ => rfl
  | bindScan hop | attach hop | clientAttachProvider hop _ | attachInvalid hop _
  | providerAttachReturn hop | attachSucceeds hop | attachFails hop | registerReturn hop
  | unbindScan hop _ | passOver hop _ | beginUnbind hop _ _ _ | clientDetachReturn hop _ _ _
  | providerDetachReturn hop _ | commit hop | finishUnbind hop | finishDetach hop
  | unbindPending hop | unbindDone hop | removeBlocks hop _ | remove hop _ | wake hop _ =>
    exact absurd (hop.symm.trans hidle) (by simp)

/-- Only the thread of the action is inside a call. -/
theorem Alone.only (hl : Alone s) (hq : Sequential s a) (he : Effect s a s') {u : Tid}
    (hu : u ≠ a.tid) : s.ops u = .idle := by
  by_cases hidle : s.ops a.tid = .idle
  · exact hq.2.1 (he.begins_of_idle hidle) u
  · by_contra hn
    exact hu (hl u a.tid hn hidle)

theorem alone_step (hl : Alone s) (hq : Sequential s a) (he : Effect s a s') : Alone s' := by
  have honly : ∀ u, s'.ops u ≠ .idle → u = a.tid := by
    intro u hu
    by_contra hut
    rw [he.ops_of_ne hut] at hu
    exact hu (hl.only hq he hut)
  intro t u ht hu
  rw [honly t ht, honly u hu]

/-- Between calls an entry is attached, or has a detach pending. -/
theorem Bindings.between (hb : Bindings s) (hidle : AllReturned s) (hm : b ∈ s.bindings) :
    (∀ y, (s.binding b).status y = .ready) ∨ (s.binding b).Settled := by
  refine hb.at_rest ?_ ?_ hm
  · intro u
    rw [hidle u]
    rfl
  · intro u
    rw [hidle u]
    exact not_unbinds_of_none rfl rfl b

/-- Nothing is between the critical sections of a `begin_unbind` when all calls have returned. -/
theorem Sequential.noEarlyCompletion (hq : Sequential s a) (hx : Exclusive s) (hb : Bindings s) :
    NoEarlyCompletion s a := by
  cases a with
  | detachComplete t side b =>
    have hidle : AllReturned s := hq.2.1 rfl
    have hd : (s.binding b).detach side = .running ∨ (s.binding b).detach side = .pending := hq.1
    have hm : b ∈ s.bindings := by
      by_contra hm
      rcases (hx b).status.erased hm side with he | he <;> rcases hd with hd | hd <;>
        rw [he] at hd <;> cases hd
    intro y hy
    rcases hb.between hidle hm with hr | ⟨sd, hp, ho⟩
    · rw [hr] at hy
      cases hy
    · rcases sd.eq_or_eq_other y with rfl | rfl
      · rw [hp] at hy
        cases hy
      · rcases ho with ho | ho <;> rw [ho] at hy <;> cases hy
  | _ => trivial

/-- No other registration is between `add` and its scan. -/
theorem Alone.scanApart (hl : Alone s) (hd : Adding s) (hs : Handles s) : ScanApart s a := by
  cases a with
  | bindScan t =>
    rintro ⟨sd, x⟩ hscan target htg -
    have hop : s.ops t = .performBind sd x := by
      cases hop : s.ops t with
      | performBind sd' x' =>
        rw [hop] at hscan
        cases hscan
        rfl
      | _ =>
        rw [hop] at hscan
        cases hscan
    have hx := (hs.owned t sd x _ (by rw [hop]; rfl)).1
    show (s.life target).isAdding = false
    cases hlife : s.life target with
    | adding u =>
      obtain ⟨sd', hop'⟩ := hd target u hlife
      have hut : u = t := hl u t (by rw [hop']; simp) (by rw [hop]; simp)
      rw [hut, hop] at hop'
      cases hop'
      cases sd
      · exact absurd htg (hs.oneSide x hx)
      · exact absurd hx (hs.oneSide x htg)
    | _ => rfl
  | _ => trivial

/-! ## The thread inside `perform_unbind` -/

/-- `rest` are the bindings of `h` that the thread has yet to unbind. -/
structure Unbinding (s : State) (side : Side) (h : Handle) (pending : Bool)
    (rest : List BindingId) : Prop where
  entry : ∀ b ∈ rest, b ∈ s.bindings ∧ (s.binding b).registration side = h
  nodup : rest.Nodup
  all : pending = false → ∀ b ∈ s.bindings, (s.binding b).registration side = h → b ∈ rest
  left : pending = true → ∃ b ∈ s.bindings, (s.binding b).registration side = h ∧ b ∉ rest

def Op.Progress (s : State) : Op → Prop
  | .unbinding side h pending todo => Unbinding s side h pending todo
  | .beginUnbind side h pending todo b _ => Unbinding s side h pending (b :: todo)
  | .remove _ h _ => (s.registration h).bindingCount ≤ 0
  | .blocked .. => False
  | _ => True

variable {pending : Bool} {todo : List BindingId}

theorem Unbinding.congr (hu : Unbinding s side h pending todo) (hb : s'.bindings = s.bindings)
    (hreg : ∀ b, (s'.binding b).registration = (s.binding b).registration) :
    Unbinding s' side h pending todo := by
  obtain ⟨hentry, hnd, hall, hleft⟩ := hu
  refine ⟨?_, hnd, ?_, ?_⟩
  · simpa only [hb, hreg] using hentry
  · simpa only [hb, hreg] using hall
  · simpa only [hb, hreg] using hleft

/-- The next binding stays behind with a detach pending. -/
theorem Unbinding.leave (hu : Unbinding s side h pending (b :: todo)) :
    Unbinding s side h true todo := by
  have hb := hu.entry b (List.mem_cons_self ..)
  refine ⟨fun x hx => hu.entry x (List.mem_cons_of_mem _ hx), (List.nodup_cons.mp hu.nodup).2,
    (by simp), fun _ => ⟨b, hb.1, hb.2, (List.nodup_cons.mp hu.nodup).1⟩⟩

/-- The next binding is erased. -/
theorem Unbinding.erase (hu : Unbinding s side h pending (b :: todo)) (hnd : s.bindings.Nodup)
    (hb : s'.bindings = s.bindings.erase b)
    (hreg : ∀ b, (s'.binding b).registration = (s.binding b).registration) :
    Unbinding s' side h pending todo := by
  obtain ⟨hno, hrest⟩ := List.nodup_cons.mp hu.nodup
  have hmem : ∀ x, x ∈ s'.bindings ↔ x ≠ b ∧ x ∈ s.bindings := by
    intro x
    rw [hb]
    exact hnd.mem_erase_iff
  refine ⟨?_, hrest, ?_, ?_⟩
  · intro x hx
    obtain ⟨hm, hxr⟩ := hu.entry x (List.mem_cons_of_mem _ hx)
    refine ⟨(hmem x).mpr ⟨?_, hm⟩, by rw [hreg, hxr]⟩
    rintro rfl
    exact hno hx
  · intro hp x hx hxr
    rw [hreg] at hxr
    obtain ⟨hne, hm⟩ := (hmem x).mp hx
    exact (List.mem_cons.mp (hu.all hp x hm hxr)).resolve_left hne
  · intro hp
    obtain ⟨x, hm, hxr, hxno⟩ := hu.left hp
    refine ⟨x, (hmem x).mpr ⟨?_, hm⟩, by rw [hreg, hxr], fun hx => hxno (List.mem_cons_of_mem _ hx)⟩
    rintro rfl
    exact hxno (List.mem_cons_self ..)

theorem progress_step (hp : ∀ t, (s.ops t).Progress s) (hl : Alone s) (hq : Sequential s a)
    (hs : Handles s) (hb : Bindings s) (hc : Counted s) (he : Effect s a s') :
    ∀ t, (s'.ops t).Progress s' := by
  intro u
  by_cases hu : u ≠ a.tid
  · rw [he.ops_of_ne hu, hl.only hq he hu]
    trivial
  · rw [not_not.mp hu]
    have he' := he
    have hpt := hp a.tid
    cases he with
    | @unbindScan t order side h hop horder =>
      simp only [Action.tid, State.setOp, Function.update_self]
      have hmem : ∀ b, b ∈ order ↔ b ∈ s.bindings ∧ (s.binding b).registration side = h := by
        intro b
        rw [horder.mem_iff, List.mem_filter]
        simp [Binding.pairHas]
      refine ⟨fun b hm => (hmem b).mp hm, ?_, fun _ b hm hreg => (hmem b).mpr ⟨hm, hreg⟩, by simp⟩
      exact horder.nodup_iff.mpr (hb.nodup.filter _)
    | @passOver t side h pending b todo hop _ =>
      obtain ⟨-, hreg⟩ := he'.pairs (by simp)
      rw [Action.tid, hop] at hpt
      simp only [Action.tid, State.setOp, Function.update_self]
      exact (Unbinding.leave hpt).congr rfl hreg
    | beginUnbind hop _ _ _ | clientDetachReturn hop _ _ _ | providerDetachReturn hop _ =>
      obtain ⟨-, hreg⟩ := he'.pairs (by simp)
      rw [Action.tid, hop] at hpt
      simp only [Action.tid, State.setOp, Function.update_self]
      exact Unbinding.congr hpt rfl hreg
    | @commit t side h pending todo b clientPending providerPending hop =>
      obtain ⟨-, hreg⟩ := he'.pairs (by simp)
      rw [Action.tid, hop] at hpt
      simp only [Action.tid, State.setOp, Function.update_self]
      split
      · exact Unbinding.congr hpt rfl hreg
      · exact (Unbinding.leave hpt).congr rfl hreg
    | @finishUnbind t side h pending todo b hop =>
      obtain ⟨-, hreg⟩ := he'.pairs (by simp)
      rw [Action.tid, hop] at hpt
      simp only [Action.tid, State.setOp, Function.update_self]
      exact Unbinding.erase hpt hb.nodup rfl hreg
    | @unbindDone t side h hop =>
      -- all bindings of the handle are gone
      rw [Action.tid, hop] at hpt
      have hh := (hs.owned t side h _ (by rw [hop]; rfl)).1
      have hzero : s.entries side h = 0 := by
        refine entries_eq_zero.mpr ?_
        intro b hm hreg
        exact List.not_mem_nil (hpt.all rfl b hm hreg)
      simp only [Action.tid, State.setOp, Function.update_self]
      show (s.registration h).bindingCount ≤ 0
      rw [hc.count side h hh, hzero]
      exact Int.le_refl _
    | removeBlocks hop hcount =>
      rw [Action.tid, hop] at hpt
      -- a wait is made only when the count is zero
      exact absurd hcount (Int.not_lt.mpr hpt)
    | wait hop _ _ =>
      simp only [Action.tid, State.setOp, Function.update_self]
      exact hq.2.2
    | attachInvalid hop _ =>
      simp only [Action.tid, State.emit, hop]
      trivial
    | @detachComplete t side b hop _ _ =>
      simp only [Action.tid, State.setOp, Function.update_self]
      by_cases hdone : (s.binding b).status side = .unbindComplete
      · rw [if_pos hdone]
        trivial
      · rw [if_neg hdone]
        trivial
    | _ =>
      simp only [Action.tid, State.setOp, Function.update_self, eraseRegistration, throwInvalid]
      trivial

/-! ## What a deregistration answers -/

/-- The last call was a deregistration, and it has said whether an entry of its handle remains. -/
def Answered (s : State) : Prop :=
  ∀ side h pending log, s.log = .deregistered side h pending :: log → AllReturned s →
    (pending = true ↔ ∃ b ∈ s.bindings, (s.binding b).registration side = h)

theorem answered_init : Answered State.init := by
  intro side h pending log hlog
  cases hlog

/-- `remove` erases a registration that no entry names. -/
theorem Counted.none_left (hc : Counted s) (hh : h ∈ s.collection side)
    (hcount : (s.registration h).bindingCount ≤ 0) :
    ¬ ∃ b ∈ s.bindings, (s.binding b).registration side = h := by
  rintro ⟨b, hm, hreg⟩
  have hzero : s.entries side h = 0 := by
    have := hc.count side h hh
    omega
  exact entries_eq_zero.mp hzero b hm hreg

theorem answered_step (hp : ∀ t, (s.ops t).Progress s) (hs : Handles s) (hc : Counted s)
    (he : Effect s a s') : Answered s' := by
  intro side h pending log hlog hidle
  have hself := hidle a.tid
  have hpt := hp a.tid
  cases he with
  | unbindPending hop =>
    rw [Action.tid, hop] at hpt
    -- the binding for which `begin_unbind` answered pending is still there
    obtain ⟨b, hm, hreg, -⟩ := hpt.left rfl
    cases hlog
    exact iff_of_true rfl ⟨b, hm, hreg⟩
  | @remove t sd x call hop hcount =>
    cases call with
    | deregister =>
      obtain ⟨hh, -⟩ := hs.owned t sd x _ (by rw [hop]; rfl)
      cases hlog
      exact iff_of_false (by simp) (hc.none_left hh hcount)
    | wait => cases hlog
  | wake hop _ =>
    rw [Action.tid, hop] at hpt
    exact hpt.elim
  | registerReturn hop | finishDetach hop | detachComplete hop _ _ | detachInvalid hop _ _ =>
    cases hlog
  | attachInvalid hop _ => exact absurd (hop.symm.trans hself) (by simp)
  | commit hop =>
    simp only [Action.tid, State.setOp, Function.update_self] at hself
    split at hself <;> cases hself
  | _ =>
    simp only [Action.tid, State.setOp, Function.update_self] at hself
    cases hself

/-! ## Between calls -/

structure Ordered (s : State) : Prop where
  teardown : Teardown s
  distinct : Distinct s
  adding : Adding s
  alone : Alone s
  progress : ∀ t, (s.ops t).Progress s
  answered : Answered s

theorem ordered_init : Ordered State.init :=
  ⟨teardown_init, distinct_init, adding_init, fun _ _ h => absurd rfl h, fun _ => trivial,
    answered_init⟩

theorem ordered_step (h : Ordered s) (hq : Sequential s a) (he : Effect s a s') : Ordered s' := by
  obtain ⟨hs, hb, hx, hc, -⟩ := h.teardown.sound
  exact ⟨teardown_step h.teardown (hq.noEarlyCompletion hx hb) he,
    distinct_step h.distinct hs (h.alone.scanApart h.adding hs) he, adding_step h.adding he,
    alone_step h.alone hq he, progress_step h.progress h.alone hq hs hb hc he,
    answered_step h.progress hs hc he⟩

/-- What the registrar is between two calls. -/
structure SequentialSpec (s : State) : Prop where
  /-- The entries are the attached bindings whose unbinding has not completed, -/
  entry : ∀ b, b ∈ s.bindings ↔ (∃ client provider, .attached b client provider ∈ s.log) ∧
    ∀ client provider, .unbindComplete b client provider ∉ s.log
  /-- one for each such pair, whose registrations are there and match, -/
  one : ∀ b client provider, .attached b client provider ∈ s.log →
    .unbindComplete b client provider ∉ s.log →
      client ∈ s.collection .client ∧ provider ∈ s.collection .provider ∧
      s.Matches (pairOf .client client provider) ∧
      s.bindings.countP (fun b => (s.binding b).binds client provider) = 1
  /-- and none for any other pair. -/
  none : ∀ client provider, (∀ b, .attached b client provider ∈ s.log →
      .unbindComplete b client provider ∈ s.log) →
    s.bindings.countP (fun b => (s.binding b).binds client provider) = 0
  status : ∀ b ∈ s.bindings, (∀ y, (s.binding b).status y = .ready) ∨ (s.binding b).Settled
  count : ∀ side, ∀ h ∈ s.collection side, (s.registration h).bindingCount = s.entries side h
  answered : ∀ side h pending log, s.log = .deregistered side h pending :: log →
    (pending = true ↔ ∃ b ∈ s.bindings, (s.binding b).registration side = h)
  /-- The contexts of an entry are cleaned up once, when it is erased. -/
  cleaned : ∀ b, s.log.filter (Event.completes b) = if s.Erased b then completionOf s b else []

theorem Binding.Settled.not_start {x : Binding} (hs : x.Settled) (y : Side) :
    x.status y ≠ .start := by
  intro hy
  obtain ⟨z, hz, ho⟩ := hs
  rcases z.eq_or_eq_other y with rfl | rfl
  · rw [hz] at hy
    cases hy
  · rcases ho with ho | ho <;> rw [ho] at hy <;> cases hy

theorem RecordedAt.complete_iff (hr : RecordedAt s b) (hlt : b < s.nextBinding) :
    b ∈ s.bindings ↔ ∀ client provider, .unbindComplete b client provider ∉ s.log := by
  constructor
  · intro hm client provider hmem
    have hin : .unbindComplete b client provider ∈ s.log.filter (Event.completes b) :=
      List.mem_filter.mpr ⟨hmem, beq_self_eq_true b⟩
    rw [hr.once, if_neg fun her => her.2 hm] at hin
    exact List.not_mem_nil hin
  · intro hno
    by_contra hm
    have hin : .unbindComplete b ((s.binding b).registration .client)
        ((s.binding b).registration .provider) ∈ s.log.filter (Event.completes b) := by
      rw [hr.once, if_pos ⟨hlt, hm⟩]
      exact List.mem_cons_self ..
    exact hno _ _ (List.mem_filter.mp hin).1

/-- `unbind_complete` records the pair of its binding. -/
theorem RecordedAt.complete_pair (hr : RecordedAt s b) {client provider : Handle}
    (hmem : .unbindComplete b client provider ∈ s.log) :
    client = (s.binding b).registration .client ∧
      provider = (s.binding b).registration .provider := by
  have hin : .unbindComplete b client provider ∈ s.log.filter (Event.completes b) :=
    List.mem_filter.mpr ⟨hmem, beq_self_eq_true b⟩
  rw [hr.once] at hin
  split at hin
  · rcases List.mem_cons.mp hin with heq | hin
    · cases heq
      exact ⟨rfl, rfl⟩
    · rcases List.mem_append.mp hin with hin | hin <;>
        obtain ⟨context, -, heq⟩ := mem_cleanupsOf hin <;> cases heq
  · cases hin

theorem Ordered.sequentialSpec (h : Ordered s) (hidle : AllReturned s) : SequentialSpec s := by
  obtain ⟨hs, hb, hx, hc, -⟩ := h.teardown.sound
  have hrec := h.teardown.recorded
  have hattached : ∀ b ∈ s.bindings, .attached b ((s.binding b).registration .client)
      ((s.binding b).registration .provider) ∈ s.log := by
    intro b hm
    refine ((hrec b).attached _ _).mpr ⟨?_, rfl, rfl⟩
    rcases hb.between hidle hm with hr | hset
    · rw [hr]
      simp
    · exact hset.not_start .client
  have hlt : ∀ {b client provider}, .attached b client provider ∈ s.log → b < s.nextBinding := by
    intro b client provider hat
    by_contra hge
    exact (((hrec b).attached client provider).mp hat).1 (hb.unborn b (Nat.not_lt.mp hge) .client)
  refine ⟨?_, ?_, ?_, ?_, hc.count, ?_, fun b => (hrec b).once⟩
  · intro b
    constructor
    · intro hm
      exact ⟨⟨_, _, hattached b hm⟩, ((hrec b).complete_iff (hb.lt b hm)).mp hm⟩
    · rintro ⟨⟨client, provider, hat⟩, hno⟩
      exact ((hrec b).complete_iff (hlt hat)).mpr hno
  · intro b client provider hat hno
    obtain ⟨-, rfl, rfl⟩ := ((hrec b).attached client provider).mp hat
    have hm : b ∈ s.bindings := by
      refine ((hrec b).complete_iff (hlt hat)).mpr ?_
      intro client provider hmem
      obtain ⟨rfl, rfl⟩ := (hrec b).complete_pair hmem
      exact hno hmem
    have hpair : (s.binding b).registration = pairOf .client
        ((s.binding b).registration .client) ((s.binding b).registration .provider) := by
      funext y
      cases y <;> rfl
    refine ⟨hc.refs b hm .client, hc.refs b hm .provider, ?_, h.distinct.count_eq_one hb hm hpair⟩
    rw [← hpair]
    exact h.distinct.matching b (hlt hat)
  · intro client provider hall
    refine List.countP_eq_zero.mpr ?_
    intro b hm hbinds
    have hat := hattached b hm
    rw [binds_iff.mp hbinds] at hat
    exact ((hrec b).complete_iff (hb.lt b hm)).mp hm client provider (hall b hat)
  · intro b hm
    exact hb.between hidle hm
  · intro side x pending log hlog
    exact h.answered side x pending log hlog hidle

/-! ## A registration whose attaches fail -/

/-- Actions of registrations by one thread, all of whose attaches fail. -/
def FailedRegister (t : Tid) : Action → Prop
  | .register u _ _ _ | .bindScan u | .attach u | .clientAttachProvider u _
  | .providerAttachReturn u _ | .registerReturn u => u = t
  | .attachReturn u success => u = t ∧ success = false
  | _ => False

/-- The entries are those of an earlier state and the ones that are being attached. -/
structure Attempts (t : Tid) (s₀ s : State) : Prop where
  bindings : s.bindings = s₀.bindings ++ (s.ops t).attachList
  registration : ∀ b ∈ s₀.bindings, (s.binding b).registration = (s₀.binding b).registration
  collection : ∀ side, s₀.collection side ⊆ s.collection side

theorem Attempts.quiet {s₀ : State} (hp : Attempts t s₀ s) (he : Effect s a s')
    (ha : ∀ t, a ≠ .bindScan t) (hb : s'.bindings = s.bindings)
    (hlist : (s'.ops t).attachList = (s.ops t).attachList)
    (hcol : ∀ side, s.collection side ⊆ s'.collection side) : Attempts t s₀ s' := by
  obtain ⟨-, hreg⟩ := he.pairs ha
  refine ⟨?_, ?_, fun sd => List.Subset.trans (hp.collection sd) (hcol sd)⟩
  · rw [hb, hlist]
    exact hp.bindings
  · intro b hm
    rw [hreg]
    exact hp.registration b hm

theorem attempts_step {s₀ : State} (hp : Attempts t s₀ s) (hs : Handles s) (hb : Bindings s)
    (hf : FailedRegister t a) (he : Effect s a s') : Attempts t s₀ s' := by
  have he' := he
  cases he with
  | @register u side _ _ hop =>
    obtain rfl : u = t := hf
    refine hp.quiet he' (by simp) rfl ?_ ?_
    · simp only [State.setOp, Function.update_self, hop]
      rfl
    · intro sd x hx
      show x ∈ Function.update s.collection side _ sd
      by_cases hsd : sd = side
      · subst hsd
        rw [Function.update_self]
        exact List.mem_append_left _ hx
      · rwa [Function.update_of_ne hsd]
  | @bindScan u side h hop =>
    obtain rfl : u = t := hf
    obtain ⟨hsp, -⟩ := bindScan_spec hs hop he'
    obtain ⟨hcol, -, -, -, -⟩ := bindAll_frame side h (s.collection side.other) s
    have hbase : s.bindings = s₀.bindings := by
      rw [hp.bindings, hop]
      exact List.append_nil _
    refine ⟨?_, ?_, ?_⟩
    · rw [hsp.bindings, hbase]
    · intro b hm
      rw [hsp.old b (hb.lt b (hbase ▸ hm))]
      exact hp.registration b hm
    · intro sd
      show s₀.collection sd ⊆ (Nmr.bindAll side h s (s.collection side.other)).1.collection sd
      rw [hcol]
      exact hp.collection sd
  | @attachFails u side h b todo hop =>
    obtain rfl : u = t := hf.1
    obtain ⟨-, hreg⟩ := he'.pairs (by simp)
    have hbase : s.bindings = s₀.bindings ++ b :: todo := by
      rw [hp.bindings, hop]
      rfl
    have hno : b ∉ s₀.bindings := by
      intro hm
      have hnd := hbase ▸ hb.nodup
      exact (List.nodup_append.mp hnd).2.2 b hm b (List.mem_cons_self ..) rfl
    refine ⟨?_, ?_, hp.collection⟩
    · simp only [State.setOp, Function.update_self, hbase]
      rw [List.erase_append_right _ hno, List.erase_cons_head]
      rfl
    · intro x hm
      rw [hreg]
      exact hp.registration x hm
  | attachSucceeds hop => cases hf.2
  | attachInvalid hop _ => exact hp.quiet he' (by simp) rfl rfl fun _ => List.Subset.refl _
  | attach hop =>
    obtain rfl := hf
    refine hp.quiet he' (by simp) rfl ?_ fun _ => List.Subset.refl _
    simp only [State.setOp, Function.update_self, hop]
    rfl
  | clientAttachProvider hop _ =>
    obtain rfl := hf
    refine hp.quiet he' (by simp) rfl ?_ fun _ => List.Subset.refl _
    simp only [State.setOp, Function.update_self, hop]
    rfl
  | providerAttachReturn hop =>
    obtain rfl := hf
    refine hp.quiet he' (by simp) rfl ?_ fun _ => List.Subset.refl _
    simp only [State.setOp, Function.update_self, hop]
    rfl
  | registerReturn hop =>
    obtain rfl := hf
    refine hp.quiet he' (by simp) rfl ?_ fun _ => List.Subset.refl _
    simp only [State.setOp, Function.update_self, hop]
    rfl
  | _ => exact hf.elim

/-- A registration all of whose attaches fail changes neither the entries nor the counts. -/
theorem Ordered.failedRegister (h : Ordered s) (hidle : AllReturned s) {bs : List Action}
    (hg : Guarded step Sequential s bs) (hf : ∀ a ∈ bs, FailedRegister t a)
    (hr : exec step s bs = some s') (hidle' : AllReturned s') :
    s'.bindings = s.bindings ∧ ∀ side, ∀ x ∈ s.collection side,
      (s'.registration x).bindingCount = (s.registration x).bindingCount := by
  have hrun : ∀ {bs : List Action} {s₁ : State}, Guarded step Sequential s₁ bs →
      (∀ a ∈ bs, FailedRegister t a) → exec step s₁ bs = some s' → Ordered s₁ → Attempts t s s₁ →
        Ordered s' ∧ Attempts t s s' := by
    intro bs
    induction bs with
    | nil =>
      intro s₁ _ _ hr ho hp
      cases hr
      exact ⟨ho, hp⟩
    | cons a bs ih =>
      intro s₁ hg hf hr ho hp
      obtain ⟨s₂, h₁, h₂⟩ := exec_cons_eq_some.mp hr
      have he := step_effect ho.teardown.sound.handles hg.1.1 h₁
      exact ih (hg.2 s₂ h₁) (fun x hx => hf x (List.mem_cons_of_mem _ hx)) h₂
        (ordered_step ho hg.1 he)
        (attempts_step hp ho.teardown.sound.handles ho.teardown.sound.bindings
          (hf a (List.mem_cons_self ..)) he)
  have hstart : Attempts t s s := by
    refine ⟨?_, fun _ _ => rfl, fun _ => List.Subset.refl _⟩
    rw [hidle t]
    exact (List.append_nil _).symm
  obtain ⟨ho', hp'⟩ := hrun hg hf hr h hstart
  have hb : s'.bindings = s.bindings := by
    rw [hp'.bindings, hidle' t]
    exact List.append_nil _
  refine ⟨hb, ?_⟩
  intro side x hx
  rw [ho'.teardown.sound.counted.count side x (hp'.collection side hx),
    h.teardown.sound.counted.count side x hx, entries_congr hb hp'.registration]

/-! ## Runs -/

/--
Runs of calls made one at a time. Between two calls the registrar is as specified, and a
registration all of whose attaches fail leaves the entries and the counts as they were.
-/
theorem sequential_specification (as : List Action) (s : State)
    (hg : Guarded step Sequential State.init as) (hs : exec step State.init as = some s)
    (hidle : AllReturned s) :
    SequentialSpec s ∧ ∀ t bs s', Guarded step Sequential s bs → (∀ a ∈ bs, FailedRegister t a) →
      exec step s bs = some s' → AllReturned s' →
        s'.bindings = s.bindings ∧ ∀ side, ∀ h ∈ s.collection side,
          (s'.registration h).bindingCount = (s.registration h).bindingCount := by
  have hord : Ordered s := by
    refine exec_invariant_of_guard ?_ ordered_init hg hs
    intro s a s' h hq hstep
    exact ordered_step h hq (step_effect h.teardown.sound.handles hq.1 hstep)
  refine ⟨hord.sequentialSpec hidle, ?_⟩
  intro t bs s' hg' hf hr hidle'
  exact hord.failedRegister hidle hg' hf hr hidle'

/-- The guard of runs of thread 0. -/
def Solo (s : State) (a : Action) : Prop :=
  a.tid = 0 ∧ Contract s a ∧ (a.begins = true → (s.ops 0).isIdle = true) ∧ WaitsNot s a

instance (s : State) (a : Action) : Decidable (WaitsNot s a) :=
  match a with
  | .wait _ _ h => inferInstanceAs (Decidable ((s.registration h).bindingCount ≤ 0))
  | .attachReturn .. | .register .. | .bindScan _ | .attach _ | .clientAttachProvider ..
  | .providerAttachReturn .. | .registerReturn _ | .deregister .. | .unbindScan ..
  | .beginUnbind _ | .clientDetachReturn .. | .providerDetachReturn .. | .commit _ | .finish _
  | .unbindReturn _ | .remove _ | .wake _ | .detachComplete .. => isTrue trivial

instance (s : State) (a : Action) : Decidable (Solo s a) :=
  inferInstanceAs (Decidable (_ ∧ _ ∧ _ ∧ _))

/-- One thread makes its calls one at a time. -/
theorem sequential_of_solo {as : List Action} (hg : Guarded step Solo State.init as) :
    Guarded step Sequential State.init as := by
  refine hg.mono_of_invariant (P := fun s => Handles s ∧ ∀ u, u ≠ 0 → s.ops u = .idle) ?_ ?_
    ⟨handles_init, fun _ _ => rfl⟩
  · rintro s a s' ⟨hs, hothers⟩ ⟨ht, hc, -⟩ hstep
    have he := step_effect hs hc hstep
    refine ⟨handles_step hs he, ?_⟩
    intro u hu
    rw [he.ops_of_ne (by rwa [ht])]
    exact hothers u hu
  · rintro s a ⟨-, hothers⟩ ⟨-, hc, hbegin, hw⟩
    refine ⟨hc, ?_, hw⟩
    intro hb u
    by_cases hu : u = 0
    · rw [hu]
      exact Op.eq_idle (hbegin hb)
    · exact hothers u hu

/-- A client whose attach fails, one that is attached, and the deregistration of their provider,
which answers that a detach is pending. -/
def pendingRun : List Action :=
  [.register 0 .provider (some 5) true, .bindScan 0, .registerReturn 0,
   .register 0 .client (some 5) true, .bindScan 0, .attach 0, .attachReturn 0 false,
   .registerReturn 0,
   .register 0 .client (some 5) true, .bindScan 0, .attach 0, .clientAttachProvider 0 (some 7),
   .providerAttachReturn 0 (some (some 8)), .attachReturn 0 true, .registerReturn 0,
   .deregister 0 .provider 1, .unbindScan 0 [1], .beginUnbind 0, .clientDetachReturn 0 true,
   .providerDetachReturn 0 false, .commit 0, .unbindReturn 0]

/-- The completion of the detach, and the end of the wait. -/
def completedRun : List Action :=
  pendingRun ++ [.detachComplete 0 .client 1, .finish 0, .wait 0 .provider 1, .remove 0]

theorem pendingRun_specification :
    ∃ s s', exec step State.init pendingRun = some s ∧ s.bindings = [1] ∧ SequentialSpec s ∧
      exec step State.init completedRun = some s' ∧ s'.collection .provider = [] ∧
      SequentialSpec s' := by
  have hspec : ∀ {as : List Action} {s : State}, checkGuarded step Solo State.init as = true →
      exec step State.init as = some s → (∀ a ∈ as, a.tid = 0 ∨ a.tid = 1) →
      (s.ops 0).isIdle = true ∧ (s.ops 1).isIdle = true → SequentialSpec s := by
    intro as s hcheck hs htid hidle
    have hg := sequential_of_solo (guarded_of_check hcheck)
    exact (sequential_specification as s hg hs (allReturned_of_two
      (hg.mono fun _ _ hq => hq.1) hs htid hidle.1 hidle.2)).1
  obtain ⟨s, hs, hb, hidle⟩ : ∃ s, exec step State.init pendingRun = some s ∧
      s.bindings = [1] ∧ (s.ops 0).isIdle = true ∧ (s.ops 1).isIdle = true :=
    exec_of_check (by decide +kernel)
  obtain ⟨s', hs', hc, hidle'⟩ : ∃ s, exec step State.init completedRun = some s ∧
      s.collection .provider = [] ∧ (s.ops 0).isIdle = true ∧ (s.ops 1).isIdle = true :=
    exec_of_check (by decide +kernel)
  exact ⟨s, s', hs, hb, hspec (by decide +kernel) hs (by decide) hidle, hs', hc,
    hspec (by decide +kernel) hs' (by decide) hidle'⟩

end Usersim.Nmr
