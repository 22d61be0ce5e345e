import Usersim.Nmr.Lifetime

/-!
# The teardown of a binding

`begin_unbind` and the completions of the two detach callbacks race for the last step, and the last
one of them calls `unbind_complete`. What has been recorded about a binding is a function of its
state (`RecordedAt`): nothing while the entry is there, and exactly the callbacks of one
`unbind_complete` once it is erased.
-/

namespace Usersim.Nmr

open Lib

/-- The binding was made, and its entry is gone. -/
def State.Erased (s : State) (b : BindingId) : Prop := b < s.nextBinding ∧ b ∉ s.bindings

instance (s : State) (b : BindingId) : Decidable (s.Erased b) :=
  inferInstanceAs (Decidable (_ ∧ _))

/-- What `unbind_complete` records. -/
def Event.completes (b : BindingId) : Event → Bool
  | .unbindComplete x _ _ | .cleanup _ x _ _ => x == b
  | _ => false

structure RecordedAt (s : State) (b : BindingId) : Prop where
  once : s.log.filter (Event.completes b) = if s.Erased b then completionOf s b else []
  attached : ∀ client provider, .attached b client provider ∈ s.log ↔
    (s.binding b).status .client ≠ .start ∧ client = (s.binding b).registration .client ∧
      provider = (s.binding b).registration .provider
  erased : s.Erased b →
    (∀ y, (s.binding b).status y = .start) ∨ StageOk (s.binding b) .finish
  known : b < s.nextBinding → ∀ y, (s.binding b).registration y < s.nextHandle

def Recorded (s : State) : Prop := ∀ b, RecordedAt s b

theorem recorded_init : Recorded State.init := by
  intro b
  refine ⟨?_, ?_, ?_, ?_⟩
  · rw [if_neg fun h => absurd h.1 (Nat.not_lt_zero b)]
    rfl
  · intro client provider
    refine ⟨fun h => absurd h List.not_mem_nil, ?_⟩
    rintro ⟨h, -, -⟩
    exact absurd rfl h
  · intro h
    exact absurd h.1 (Nat.not_lt_zero b)
  · intro h
    exact absurd h (Nat.not_lt_zero b)

variable {s s' : State} {a : Action} {t : Tid} {op : Op} {b : BindingId}

/-- The binding whose state the event marks. -/
def Event.marks : Event → Option BindingId
  | .attached b _ _ | .unbindComplete b _ _ | .cleanup _ b _ _ => some b
  | _ => none

theorem Event.completes_marks {e : Event} (h : e.completes b = true) : e.marks = some b := by
  cases e with
  | unbindComplete x _ _ => exact congrArg some (beq_iff_eq.mp h)
  | cleanup _ x _ _ => exact congrArg some (beq_iff_eq.mp h)
  | _ => cases h

theorem filter_completes_eq_nil {l : List Event} (h : ∀ e ∈ l, e.marks ≠ some b) :
    l.filter (Event.completes b) = [] := by
  refine List.filter_eq_nil_iff.mpr ?_
  intro e he hc
  exact h e he (Event.completes_marks hc)

theorem filter_cleanupsOf (s : State) (b : BindingId) (side : Side) :
    (cleanupsOf s b side).filter (Event.completes b) = cleanupsOf s b side := by
  refine List.filter_eq_self.mpr ?_
  intro e he
  obtain ⟨context, -, rfl⟩ := mem_cleanupsOf he
  exact beq_self_eq_true b

theorem filter_completionOf (s : State) (b : BindingId) :
    (completionOf s b).filter (Event.completes b) = completionOf s b := by
  have hself : Event.completes b (.unbindComplete b ((s.binding b).registration .client)
      ((s.binding b).registration .provider)) = true := beq_self_eq_true b
  rw [completionOf, List.filter_cons_of_pos hself, List.filter_append, filter_cleanupsOf,
    filter_cleanupsOf]

theorem marks_completionOf {e : Event} (he : e ∈ completionOf s b) : e.marks = some b := by
  refine Event.completes_marks ?_
  rw [← filter_completionOf] at he
  exact (List.mem_filter.mp he).2

theorem cleanupsOf_congr {side : Side}
    (hreg : (s'.binding b).registration = (s.binding b).registration)
    (hctx : (s'.binding b).context = (s.binding b).context)
    (hclean : (s'.registration ((s.binding b).registration side)).hasCleanup =
      (s.registration ((s.binding b).registration side)).hasCleanup) :
    cleanupsOf s' b side = cleanupsOf s b side := by
  unfold cleanupsOf
  rw [hreg, hctx, hclean]

/-! ## Changing one binding -/

/-- A binding the action has nothing to do with. -/
theorem RecordedAt.congr (h : RecordedAt s b) (hle : s.nextHandle ≤ s'.nextHandle)
    (hchar : ∀ x, x < s.nextHandle → (s'.registration x).hasCleanup = (s.registration x).hasCleanup)
    (new : List Event) (hlog : s'.log = new ++ s.log) (hnew : ∀ e ∈ new, e.marks ≠ some b)
    (hnext : b < s'.nextBinding ↔ b < s.nextBinding) (hmem : b ∈ s'.bindings ↔ b ∈ s.bindings)
    (hst : (s'.binding b).status = (s.binding b).status)
    (hd : (s'.binding b).detach = (s.binding b).detach)
    (hreg : (s'.binding b).registration = (s.binding b).registration)
    (hctx : s.Erased b → (s'.binding b).context = (s.binding b).context) : RecordedAt s' b := by
  have her : s'.Erased b ↔ s.Erased b := by
    unfold State.Erased
    rw [hnext, hmem]
  refine ⟨?_, ?_, ?_, ?_⟩
  · rw [hlog, List.filter_append, filter_completes_eq_nil hnew, List.nil_append, h.once]
    by_cases hb : s.Erased b
    · have hclean : ∀ side, cleanupsOf s' b side = cleanupsOf s b side := fun side =>
        cleanupsOf_congr hreg (hctx hb) (hchar _ (h.known hb.1 side))
      rw [if_pos hb, if_pos (her.mpr hb), completionOf, completionOf, hreg, hclean, hclean]
    · rw [if_neg hb, if_neg fun hb' => hb (her.mp hb')]
  · intro client provider
    rw [hst, hreg, ← h.attached, hlog]
    refine ⟨fun hm => ?_, List.mem_append_right _⟩
    rcases List.mem_append.mp hm with hm | hm
    · exact absurd rfl (hnew _ hm)
    · exact hm
  · intro hb
    simp only [StageOk, hst, hd]
    exact h.erased (her.mp hb)
  · intro hlt y
    rw [hnext] at hlt
    rw [hreg]
    exact Nat.lt_of_lt_of_le (h.known hlt y) hle

/-- A binding whose entry stays. -/
theorem RecordedAt.live (h : RecordedAt s b) (he : Effect s a s') (new : List Event)
    (hlog : s'.log = new ++ s.log) (hnew : ∀ e ∈ new, e.marks ≠ some b)
    (hnext : s'.nextBinding = s.nextBinding) (hm : b ∈ s.bindings) (hm' : b ∈ s'.bindings)
    (hst : (s'.binding b).status .client = .start ↔ (s.binding b).status .client = .start)
    (hreg : (s'.binding b).registration = (s.binding b).registration) : RecordedAt s' b := by
  have hno : ¬ s.Erased b := fun hb => hb.2 hm
  have hno' : ¬ s'.Erased b := fun hb => hb.2 hm'
  refine ⟨?_, ?_, fun hb => absurd hb hno', ?_⟩
  · rw [hlog, List.filter_append, filter_completes_eq_nil hnew, List.nil_append, h.once, if_neg hno,
      if_neg hno']
  · intro client provider
    rw [Ne, hst, hreg, ← Ne, ← h.attached, hlog]
    refine ⟨fun hm => ?_, List.mem_append_right _⟩
    rcases List.mem_append.mp hm with hm | hm
    · exact absurd rfl (hnew _ hm)
    · exact hm
  · intro hlt y
    rw [hnext] at hlt
    rw [hreg]
    exact Nat.lt_of_lt_of_le (h.known hlt y) he.nextHandle_le

/-- The binding `unbind_complete` erases. -/
theorem RecordedAt.complete (h : RecordedAt s b) (he : Effect s a s') (new : List Event)
    (hnew : ∀ e ∈ new, e.marks ≠ some b)
    (hlog : s'.log = completionOf s b ++ (new ++ s.log))
    (hnext : s'.nextBinding = s.nextBinding) (hlt : b < s.nextBinding) (hm : b ∈ s.bindings)
    (hm' : b ∉ s'.bindings) (hbinding : s'.binding b = s.binding b)
    (hend : (∀ y, (s.binding b).status y = .start) ∨ StageOk (s.binding b) .finish) :
    RecordedAt s' b := by
  have hclean : ∀ side, cleanupsOf s' b side = cleanupsOf s b side := fun side =>
    cleanupsOf_congr (by rw [hbinding]) (by rw [hbinding])
      (he.characteristics (h.known hlt side)).2
  refine ⟨?_, ?_, ?_, ?_⟩
  · rw [hlog, List.filter_append, List.filter_append, filter_completionOf,
      filter_completes_eq_nil hnew, h.once, if_neg fun hb => hb.2 hm,
      if_pos ⟨hnext.symm ▸ hlt, hm'⟩]
    simp only [List.append_nil, completionOf, hbinding, hclean]
  · intro client provider
    rw [hbinding, ← h.attached, hlog]
    refine ⟨fun hmem => ?_, fun hmem => List.mem_append_right _ (List.mem_append_right _ hmem)⟩
    rcases List.mem_append.mp hmem with hmem | hmem
    · simp only [completionOf, List.mem_cons, List.mem_append, reduceCtorEq, false_or] at hmem
      rcases hmem with hmem | hmem
      · obtain ⟨context, -, heq⟩ := mem_cleanupsOf hmem
        cases heq
      · obtain ⟨context, -, heq⟩ := mem_cleanupsOf hmem
        cases heq
    · rcases List.mem_append.mp hmem with hmem | hmem
      · exact absurd rfl (hnew _ hmem)
      · exact hmem
  · intro _
    rw [hbinding]
    exact hend
  · intro _ y
    rw [hbinding]
    exact Nat.lt_of_lt_of_le (h.known hlt y) he.nextHandle_le

/-! ## Every action -/

/-- An action on one binding. -/
theorem Recorded.touch (h : Recorded s) (he : Effect s a s') (new : List Event)
    (hlog : s'.log = new ++ s.log) (hnew : ∀ e ∈ new, e.marks = none ∨ e.marks = some b)
    (hnext : s'.nextBinding = s.nextBinding)
    (hframe : ∀ b', b' ≠ b → s'.binding b' = s.binding b' ∧ (b' ∈ s'.bindings ↔ b' ∈ s.bindings))
    (hat : RecordedAt s' b) : Recorded s' := by
  intro b'
  by_cases hbb : b' = b
  · rw [hbb]
    exact hat
  · obtain ⟨hsame, hmem⟩ := hframe b' hbb
    refine (h b').congr he.nextHandle_le (fun _ hx => (he.characteristics hx).2) new hlog ?_
      (by rw [hnext]) hmem (by rw [hsame]) (by rw [hsame]) (by rw [hsame])
      fun _ => by rw [hsame]
    intro e hm hmark
    rcases hnew e hm with hn | hn
    · rw [hn] at hmark
      cases hmark
    · rw [hn] at hmark
      exact hbb (Option.some.inj hmark).symm

/-- An action on handles and calls only. -/
theorem Recorded.quiet (h : Recorded s) (he : Effect s a s') (new : List Event)
    (hlog : s'.log = new ++ s.log) (hnew : ∀ e ∈ new, e.marks = none)
    (hnext : s'.nextBinding = s.nextBinding) (hb : s'.bindings = s.bindings)
    (hbinding : s'.binding = s.binding) : Recorded s' := by
  intro b
  refine (h b).congr he.nextHandle_le (fun _ hx => (he.characteristics hx).2) new hlog ?_
    (by rw [hnext]) (by rw [hb]) (by rw [hbinding]) (by rw [hbinding])
    (by rw [hbinding]) fun _ => by rw [hbinding]
  intro e hm hmark
  rw [hnew e hm] at hmark
  cases hmark

/-- An action on one binding whose entry stays. -/
theorem Recorded.work (h : Recorded s) (he : Effect s a s') {x : Binding} (new : List Event)
    (hlog : s'.log = new ++ s.log) (hnew : ∀ e ∈ new, e.marks = none)
    (hnext : s'.nextBinding = s.nextBinding) (hb : s'.bindings = s.bindings)
    (hm : b ∈ s.bindings) (hbinding : s'.binding = Function.update s.binding b x)
    (hst : x.status .client = .start ↔ (s.binding b).status .client = .start)
    (hreg : x.registration = (s.binding b).registration) : Recorded s' := by
  have hx : s'.binding b = x := by rw [hbinding, Function.update_self]
  refine h.touch (b := b) he new hlog (fun e he => Or.inl (hnew e he)) hnext ?_ ?_
  · intro b' hbb
    exact ⟨by rw [hbinding, Function.update_of_ne hbb], by rw [hb]⟩
  · refine (h b).live he new hlog ?_ hnext hm (hb ▸ hm) (by rw [hx]; exact hst) (by rw [hx, hreg])
    intro e he' hmark
    rw [hnew e he'] at hmark
    cases hmark

/-- A binding that has begun to unbind is not in `Start`, whatever a thread does to it then. -/
theorem not_start_iff {x y : BindingStatus} (hx : x ≠ .start) (hy : y ≠ .start) :
    x = .start ↔ y = .start := iff_of_false hx hy

/-- The scan of `perform_bind`. -/
theorem Recorded.bindAll {side : Side} {hd : Handle} (targets : List Handle) (h : Recorded s)
    (hunborn : ∀ b, s.nextBinding ≤ b → (s.binding b).status .client = .start)
    (htyped : ∀ target ∈ targets, ∀ y, pairOf side hd target y < s.nextHandle) :
    Recorded (bindAll side hd s targets).1 := by
  induction targets generalizing s with
  | nil => exact h
  | cons target targets ih =>
    rcases bindAll_cons side hd target targets s with ⟨heq, -⟩ | ⟨heq, -⟩
    · rw [heq]
      exact ih h hunborn fun x hx => htyped x (List.mem_cons_of_mem _ hx)
    · rw [heq]
      refine ih ?_ ?_ fun x hx => htyped x (List.mem_cons_of_mem _ hx)
      · intro b
        by_cases hb : b = s.nextBinding
        · -- nothing is recorded about an address that was never used
          subst hb
          have hno : ¬ s.Erased s.nextBinding := fun hb => Nat.lt_irrefl _ hb.1
          have hnew : ¬ (bound s (pairOf side hd target)).Erased s.nextBinding := fun hb =>
            hb.2 (List.mem_append_right _ (List.mem_singleton_self _))
          have hbind : (bound s (pairOf side hd target)).binding s.nextBinding =
              .new (pairOf side hd target) := Function.update_self ..
          refine ⟨?_, ?_, fun hb => absurd hb hnew, ?_⟩
          · rw [if_neg hnew]
            have hnil := (h s.nextBinding).once
            rw [if_neg hno] at hnil
            exact hnil
          · intro client provider
            rw [hbind]
            refine iff_of_false ?_ fun hst => hst.1 rfl
            intro hm
            exact ((h s.nextBinding).attached client provider |>.mp hm).1
              (hunborn s.nextBinding (Nat.le_refl _))
          · intro _ y
            rw [hbind]
            exact htyped target (List.mem_cons_self ..) y
        · have hsame : (bound s (pairOf side hd target)).binding b = s.binding b :=
            Function.update_of_ne hb ..
          refine (h b).congr (Nat.le_refl _) ?_ [] rfl
            (fun _ he => absurd he List.not_mem_nil) ?_ ?_
            (by rw [hsame]) (by rw [hsame]) (by rw [hsame]) fun _ => by rw [hsame]
          · intro x _
            obtain ⟨c, hc⟩ := bound_registration s (pairOf side hd target) x
            rw [hc]
          · exact ⟨fun hlt => Nat.lt_of_le_of_ne (Nat.le_of_lt_succ hlt) hb, Nat.lt_succ_of_lt⟩
          · simp [bound, hb]
      · intro b hge
        have hsame : (bound s (pairOf side hd target)).binding b = s.binding b :=
          Function.update_of_ne (Nat.ne_of_gt hge) ..
        rw [hsame]
        exact hunborn b (Nat.le_of_succ_le hge)

theorem recorded_attachReturn {success : Bool} (h : Recorded s) (hb : Bindings s)
    (he : Effect s (.attachReturn t success) s') : Recorded s' := by
  have he' := he
  cases he with
  | @attachSucceeds t side hd b todo hop =>
    obtain ⟨hm, hst⟩ := hb.attaching (t := t) (b := b) (by rw [hop]; rfl)
    refine h.touch (b := b) he' [_] rfl ?_ rfl ?_ ?_
    · intro e he
      rw [List.mem_singleton.mp he]
      exact Or.inr rfl
    · intro b' hbb
      exact ⟨Function.update_of_ne hbb .., Iff.rfl⟩
    · have hno : ¬ s.Erased b := fun hb => hb.2 hm
      have hfilter := (h b).once
      rw [if_neg hno] at hfilter
      refine ⟨?_, ?_, fun hb' => absurd hm hb'.2, ?_⟩
      · rw [if_neg fun hb' => hb'.2 hm]
        exact hfilter
      · intro client provider
        simp only [State.setOp, State.emit, State.setBinding, Function.update_self,
          Binding.setStatus, List.mem_cons, Event.attached.injEq, (h b).attached client provider,
          hst, ne_eq, not_true_eq_false, false_and, or_false, true_and, reduceCtorEq,
          not_false_eq_true]
      · intro hlt y
        simpa [Binding.setStatus] using (h b).known hlt y
  | @attachFails t side hd b todo hop =>
    obtain ⟨hm, hst⟩ := hb.attaching (t := t) (b := b) (by rw [hop]; rfl)
    refine h.touch (b := b) he' (completionOf s b ++ [.attachFailed b
      ((s.binding b).registration .client) ((s.binding b).registration .provider)]) ?_ ?_ rfl ?_ ?_
    · exact (List.append_assoc (completionOf s b) [_] s.log).symm
    · intro e he
      rcases List.mem_append.mp he with he | he
      · exact Or.inr (marks_completionOf he)
      · rw [List.mem_singleton.mp he]
        exact Or.inl rfl
    · intro b' hbb
      exact ⟨rfl, List.mem_erase_of_ne hbb⟩
    · refine (h b).complete he' [_] ?_ rfl rfl (hb.lt b hm) hm ?_ rfl (Or.inl hst)
      · intro e he hmark
        rw [List.mem_singleton.mp he] at hmark
        cases hmark
      · exact fun hm' => (hb.nodup.mem_erase_iff.mp hm').1 rfl

theorem recorded_step (h : Recorded s) (hs : Handles s) (hb : Bindings s) (hx : Exclusive s)
    (he : Effect s a s') : Recorded s' := by
  have he' := he
  have hstaged : ∀ {t b stage}, (s.ops t).stageOf b = some stage →
      b ∈ s.bindings ∧ StageOk (s.binding b) stage := fun hst => (hx _).staged _ _ hst
  have hnone : ∀ e ∈ ([] : List Event), e.marks = none := fun _ he => absurd he List.not_mem_nil
  have hone : ∀ {x : Event}, x.marks = none → ∀ e ∈ [x], e.marks = none := by
    intro x hmark e hm
    rw [List.mem_singleton.mp hm]
    exact hmark
  cases he with
  | register hop | deregister hop _ _ | unbindScan hop _ | unbindDone hop | removeBlocks hop _
  | wait hop _ _ =>
    exact h.quiet he' [] rfl hnone rfl rfl rfl
  | @bindScan t side hd hop =>
    have hmem := (hs.owned t side hd _ (by rw [hop]; rfl)).1
    have hall : Recorded (Nmr.bindAll side hd s (s.collection side.other)).1 := by
      refine h.bindAll _ (fun b hge => hb.unborn b hge .client) ?_
      intro target htg y
      unfold pairOf
      split
      · exact hs.lt _ _ hmem
      · exact hs.lt _ _ htg
    intro b
    exact ⟨(hall b).once, (hall b).attached, (hall b).erased, (hall b).known⟩
  | attach hop | attachInvalid hop _ | registerReturn hop | unbindPending hop
  | detachInvalid hop _ _ =>
    exact h.quiet he' [_] rfl (hone rfl) rfl rfl rfl
  | clientAttachProvider hop hm => exact h.work he' [_] rfl (hone rfl) rfl rfl hm rfl Iff.rfl rfl
  | @providerAttachReturn t write side hd b todo hop =>
    have hm := (hb.attaching (t := t) (b := b) (by rw [hop]; rfl)).1
    exact h.work he' [] rfl hnone rfl rfl hm rfl Iff.rfl rfl
  | attachSucceeds _ | attachFails _ => exact recorded_attachReturn h hb he'
  | @passOver t side hd pending b todo hop _ =>
    refine h.touch (b := b) he' [] rfl (fun _ he => absurd he List.not_mem_nil) rfl ?_ ?_
    · intro b' hbb
      exact ⟨Function.update_of_ne hbb .., Iff.rfl⟩
    · refine (h b).congr he'.nextHandle_le (fun _ hx => (he'.characteristics hx).2) [] rfl
        (fun _ he => absurd he List.not_mem_nil) Iff.rfl Iff.rfl ?_ ?_ ?_ fun _ => ?_
      all_goals simp
  | @beginUnbind t side hd pending b todo d log stage hop hready _ hlog =>
    -- an erased binding is never ready, so this one is there
    have hm : b ∈ s.bindings := (hx b).status.ready .client (hready .client)
    have hst : BindingStatus.beginUnbind = .start ↔ (s.binding b).status .client = .start := by
      rw [hready]
      exact not_start_iff (by simp) (by simp)
    rcases hlog with hlog | ⟨sd, hlog⟩
    · exact h.work he' [] hlog hnone rfl rfl hm rfl hst rfl
    · exact h.work he' [_] hlog (hone rfl) rfl rfl hm rfl hst rfl
  | @clientDetachReturn t clientPending side hd pending todo b d log stage hop _ _ hlog =>
    have hm := (hstaged (t := t) (b := b) (by rw [hop]; exact if_pos rfl)).1
    rcases hlog with hlog | ⟨sd, hlog⟩
    · exact h.work he' [] hlog hnone rfl rfl hm rfl Iff.rfl rfl
    · exact h.work he' [_] hlog (hone rfl) rfl rfl hm rfl Iff.rfl rfl
  | @providerDetachReturn t providerPending side hd pending todo b clientPending hop _ =>
    have hm := (hstaged (t := t) (b := b) (by rw [hop]; exact if_pos rfl)).1
    exact h.work he' [] rfl hnone rfl rfl hm rfl Iff.rfl rfl
  | @commit t side hd pending todo b clientPending providerPending hop =>
    obtain ⟨hm, hok⟩ := hstaged (t := t) (b := b) (by rw [hop]; exact if_pos rfl)
    refine h.work he' [] rfl hnone rfl rfl hm rfl ?_ rfl
    rw [hok.1]
    have hbeg := (s.binding b).commit_begun clientPending providerPending
    exact not_start_iff (hbeg .client).1 (by simp)
  | @finishUnbind t side hd pending todo b hop | @finishDetach t b hop =>
    obtain ⟨hm, hok⟩ := hstaged (t := t) (b := b) (by rw [hop]; exact if_pos rfl)
    refine h.touch (b := b) he' (completionOf s b) rfl (fun e he => Or.inr (marks_completionOf he))
      rfl (fun b' hbb => ⟨rfl, List.mem_erase_of_ne hbb⟩) ?_
    -- the entry was there, so nothing of its completion is in the log yet
    refine (h b).complete he' [] (fun _ he => absurd he List.not_mem_nil) rfl rfl (hb.lt b hm) hm ?_
      rfl (Or.inr hok)
    exact fun hm' => (hb.nodup.mem_erase_iff.mp hm').1 rfl
  | @remove t side hd call hop _ | @wake t side hd call hop _ =>
    exact h.quiet he' [_] rfl (hone (by cases call <;> rfl)) rfl rfl rfl
  | @detachComplete t side b hop hm hd =>
    have hbeg : (s.binding b).Begun := hb.begun_of_owed hd
    refine h.work he' [_] rfl (hone rfl) rfl rfl hm rfl (not_start_iff ?_ (hbeg .client).1) rfl
    show Function.update (s.binding b).status side.other .unbindComplete .client ≠ .start
    by_cases hsd : Side.client = side.other
    · rw [hsd, Function.update_self]
      simp
    · rw [Function.update_of_ne hsd]
      exact (hbeg .client).1

/-! ## The assertions of the completions -/

theorem asserted_not_mem_completionOf {side : Side} {x : BindingId} {holds : Bool} :
    .asserted side x holds ∉ completionOf s b := by
  intro h
  cases marks_completionOf h

/-- Only completions check anything. -/
theorem Effect.asserted_cases (he : Effect s a s') {side : Side} {x : BindingId} {holds : Bool}
    (hm : .asserted side x holds ∈ s'.log) :
    .asserted side x holds ∈ s.log ∨ ∃ t, a = .detachComplete t side x ∧
      holds = ((s.binding x).detachStatus side == .unbindPending) ∧
      ((s.binding x).detach side = .running ∨ (s.binding x).detach side = .pending) := by
  cases he with
  | @bindScan t sd hd hop =>
    have hlog := (bindAll_frame sd hd (s.collection sd.other) s).2.2.2.2
    left
    rw [← hlog]
    exact hm
  | attachFails hop =>
    have hm' := (List.mem_append.mp hm).resolve_left asserted_not_mem_completionOf
    exact Or.inl ((List.mem_cons.mp hm').resolve_left (by simp))
  | finishUnbind hop | finishDetach hop =>
    exact Or.inl ((List.mem_append.mp hm).resolve_left asserted_not_mem_completionOf)
  | beginUnbind hop _ _ hlog | clientDetachReturn hop _ _ hlog =>
    rcases hlog with hlog | ⟨y, hlog⟩
    · exact Or.inl (hlog ▸ hm)
    · have hm' : .asserted side x holds ∈ _ :: s.log := hlog ▸ hm
      exact Or.inl ((List.mem_cons.mp hm').resolve_left (by simp))
  | @detachComplete t sd b hop hmem hd =>
    rcases List.mem_cons.mp hm with heq | hm
    · cases heq
      exact Or.inr ⟨t, rfl, rfl, hd⟩
    · exact Or.inl hm
  | @remove t sd hd call hop _ =>
    refine Or.inl ((List.mem_cons.mp hm).resolve_left ?_)
    cases call <;> simp
  | @wake t sd hd call hop _ =>
    refine Or.inl ((List.mem_cons.mp hm).resolve_left ?_)
    cases call <;> simp
  | register _ | providerAttachReturn _ | deregister _ _ _ | unbindScan _ _ | passOver _ _
  | providerDetachReturn _ _ | commit _ | unbindDone _ | removeBlocks _ _ | wait _ _ _ =>
    exact Or.inl hm
  | _ => exact Or.inl ((List.mem_cons.mp hm).resolve_left (by simp))

def AssertsHold (s : State) : Prop :=
  ∀ side b holds, .asserted side b holds ∈ s.log → holds = true

theorem assertsHold_step (h : AssertsHold s) (hb : Bindings s) (hx : Exclusive s)
    (hn : NoEarlyCompletion s a) (he : Effect s a s') : AssertsHold s' := by
  intro side b holds hm
  rcases he.asserted_cases hm with hm | ⟨t, rfl, rfl, hd⟩
  · exact h side b holds hm
  · rw [(hx.completion hb hn hd).2.2.1]
    rfl

/-! ## Runs -/

/-- The teardown of bindings that were attached. -/
structure TornDownOnce (s : State) : Prop where
  asserted : AssertsHold s
  /-- `unbind_complete` is recorded, with its clean-up callbacks, once for an erased entry and never
  for one that is still there. -/
  once : ∀ b, s.log.filter (Event.completes b) = if s.Erased b then completionOf s b else []
  count : ∀ side, ∀ h ∈ s.collection side, (s.registration h).bindingCount = s.entries side h
  /-- An entry is erased only when both sides have detached. -/
  detached : ∀ b client provider, .attached b client provider ∈ s.log → s.Erased b →
    ∀ side, (s.binding b).detach side = .done
  /-- When both sides have detached, the entry is erased or one thread is about to do it. -/
  finished : ∀ b, (∀ side, (s.binding b).detach side = .done) →
    s.Erased b ∨ ∃ t, (s.ops t).Unbinds b ∧ ∀ u, (s.ops u).Unbinds b → u = t
  /-- Nobody is at work on an erased entry, -/
  working : ∀ t b, (s.ops t).Unbinds b → ¬ s.Erased b
  /-- nobody owes it a completion, -/
  owed : ∀ b side, (s.binding b).detach side = .running ∨ (s.binding b).detach side = .pending →
    ¬ s.Erased b
  /-- and a `begin_unbind` that comes too late for it returns at once. -/
  late : ∀ b, s.Erased b → ∃ y, (s.binding b).status y ≠ .ready

structure Teardown (s : State) : Prop where
  sound : Sound s
  recorded : Recorded s
  asserts : AssertsHold s

theorem teardown_init : Teardown State.init :=
  ⟨sound_init, recorded_init, fun _ _ _ h => absurd h List.not_mem_nil⟩

theorem teardown_step (h : Teardown s) (hn : NoEarlyCompletion s a) (he : Effect s a s') :
    Teardown s' :=
  ⟨sound_step h.sound hn he,
    recorded_step h.recorded h.sound.handles h.sound.bindings h.sound.exclusive he,
    assertsHold_step h.asserts h.sound.bindings h.sound.exclusive hn he⟩

/-- Both sides have detached, but the entry is still there: some thread is about to erase it. -/
theorem Teardown.finishing (h : Teardown s) (hm : b ∈ s.bindings)
    (hd : ∀ side, (s.binding b).detach side = .done) : ∃ t, (s.ops t).Unbinds b := by
  have hbeg : (s.binding b).Begun := h.sound.bindings.detached b .client (by rw [hd]; simp)
  rcases h.sound.bindings.cover b hm with hr | ⟨side, hp, -⟩ | ⟨u, hu⟩ | hu
  · exact absurd (hr .client) (hbeg .client).2
  -- a pending status would mean a detach that is not done
  · have hside : (s.binding b).detachStatus side.other = .unbindPending := by
      cases side <;> exact hp
    have hpend := (h.sound.exclusive b).status.pending side.other hside
    rw [hd] at hpend
    cases hpend
  · exact absurd hu (h.sound.bindings.not_attaching hbeg u)
  · exact hu

theorem Teardown.tornDownOnce (h : Teardown s) : TornDownOnce s := by
  refine ⟨h.asserts, fun b => (h.recorded b).once, h.sound.counted.count, ?_, ?_, ?_, ?_, ?_⟩
  · intro b client provider hat her
    rcases (h.recorded b).erased her with hst | hok
    · exact absurd (hst .client) (((h.recorded b).attached client provider).mp hat).1
    · intro side
      exact (hok side).2
  · intro b hd
    by_cases her : s.Erased b
    · exact Or.inl her
    · right
      have hlt : b < s.nextBinding :=
        h.sound.bindings.lt_of_begun (h.sound.bindings.detached b .client (by rw [hd]; simp))
      have hm : b ∈ s.bindings := by
        by_contra hm
        exact her ⟨hlt, hm⟩
      obtain ⟨t, ht⟩ := h.finishing hm hd
      refine ⟨t, ht, ?_⟩
      intro u hu
      exact (h.sound.exclusive b).unique u t (stageOf_unbinds.mpr hu) (stageOf_unbinds.mpr ht)
  · intro t b hu her
    exact her.2 (h.sound.exclusive.working hu)
  · intro b side hd her
    rcases (h.sound.exclusive b).status.erased her.2 side with he | he <;>
      rcases hd with hd | hd <;> rw [he] at hd <;> cases hd
  · intro b her
    refine ⟨.client, ?_⟩
    intro hr
    exact her.2 ((h.sound.exclusive b).status.ready .client hr)

/-- The callers keep their promises, and no completion takes the lock before `begin_unbind` has
taken it again. -/
def TimelyCompletion (s : State) (a : Action) : Prop := Contract s a ∧ NoEarlyCompletion s a

instance {p : Side → Prop} [DecidablePred p] : Decidable (∀ y, p y) :=
  decidable_of_iff (p .client ∧ p .provider)
    ⟨fun h y => match y with | .client => h.1 | .provider => h.2, fun h => ⟨h .client, h .provider⟩⟩

instance (s : State) (a : Action) : Decidable (TimelyCompletion s a) :=
  match a with
  | .detachComplete _ _ b =>
    inferInstanceAs (Decidable (_ ∧ ∀ y, (s.binding b).status y ≠ .beginUnbind))
  | .clientDetachReturn .. | .providerDetachReturn .. | .register .. | .bindScan _ | .attach _
  | .clientAttachProvider .. | .providerAttachReturn .. | .attachReturn .. | .registerReturn _
  | .deregister .. | .unbindScan .. | .beginUnbind _ | .commit _ | .finish _ | .unbindReturn _
  | .remove _ | .wake _ | .wait .. => inferInstanceAs (Decidable (_ ∧ True))

/--
Whatever the threads do, and in whatever order the completions of pending detaches arrive after
`begin_unbind` has taken the lock again: every binding is torn down once, after both sides have
detached, and nobody touches it afterwards.
-/
theorem binding_torn_down_once (as : List Action) (s : State)
    (hg : Guarded step TimelyCompletion State.init as) (hs : exec step State.init as = some s) :
    TornDownOnce s := by
  refine Teardown.tornDownOnce (exec_invariant_of_guard ?_ teardown_init hg hs)
  rintro s a s' h ⟨hc, hn⟩ hstep
  exact teardown_step h hn (step_effect h.sound.handles hc hstep)

/-- Both sides of a binding detach asynchronously, and their completions are called by two threads
while the deregistration waits. -/
def asynchronousRun : List Action :=
  [.register 0 .provider (some 5) true, .bindScan 0, .registerReturn 0,
   .register 1 .client (some 5) true, .bindScan 1, .attach 1, .clientAttachProvider 1 (some 7),
   .providerAttachReturn 1 (some (some 8)), .attachReturn 1 true, .registerReturn 1,
   .deregister 0 .provider 1, .unbindScan 0 [0], .beginUnbind 0, .clientDetachReturn 0 true,
   .providerDetachReturn 0 true, .commit 0, .detachComplete 1 .provider 0, .unbindReturn 0,
   .wait 0 .provider 1, .remove 0, .detachComplete 2 .client 0, .finish 2, .wake 0]

theorem asynchronousRun_torn_down :
    ∃ s, exec step State.init asynchronousRun = some s ∧
      s.log.filter (Event.completes 0) =
        [.unbindComplete 0 2 1, .cleanup .provider 0 1 8, .cleanup .client 0 2 7] ∧
      TornDownOnce s := by
  obtain ⟨s, hs, hx⟩ : ∃ s, exec step State.init asynchronousRun = some s ∧
      s.log.filter (Event.completes 0) =
        [.unbindComplete 0 2 1, .cleanup .provider 0 1 8, .cleanup .client 0 2 7] :=
    exec_of_check (by decide +kernel)
  exact ⟨s, hs, hx, binding_torn_down_once asynchronousRun s
    (guarded_of_check (by decide +kernel)) hs⟩

/-- The same, with both completions called before the detaching thread takes the lock again. -/
def earlyCompletionRun : List Action :=
  [.register 0 .provider (some 5) true, .bindScan 0, .registerReturn 0,
   .register 1 .client (some 5) true, .bindScan 1, .attach 1, .clientAttachProvider 1 (some 7),
   .providerAttachReturn 1 (some (some 8)), .attachReturn 1 true, .registerReturn 1,
   .deregister 0 .provider 1, .unbindScan 0 [0], .beginUnbind 0, .clientDetachReturn 0 true,
   .providerDetachReturn 0 true, .detachComplete 1 .provider 0, .detachComplete 2 .client 0,
   .finish 2, .commit 0, .finish 0]

/-- Both assertions fail, and `unbind_complete` runs twice. -/
theorem early_completion_twice :
    ∃ s, exec step State.init earlyCompletionRun = some s ∧
      Guarded step Contract State.init earlyCompletionRun ∧
      .asserted .client 0 false ∈ s.log ∧
      s.log.filter (Event.completes 0) =
        [.unbindComplete 0 2 1, .cleanup .provider 0 1 8, .cleanup .client 0 2 7,
          .unbindComplete 0 2 1, .cleanup .provider 0 1 8, .cleanup .client 0 2 7] ∧
      (s.registration 1).bindingCount = -1 ∧ ¬ TornDownOnce s := by
  have hg : Guarded step Contract State.init earlyCompletionRun :=
    guarded_of_check (by decide +kernel)
  obtain ⟨s, hs, ha, hf, hc⟩ : ∃ s, exec step State.init earlyCompletionRun = some s ∧
      .asserted .client 0 false ∈ s.log ∧ s.log.filter (Event.completes 0) =
        [.unbindComplete 0 2 1, .cleanup .provider 0 1 8, .cleanup .client 0 2 7,
          .unbindComplete 0 2 1, .cleanup .provider 0 1 8, .cleanup .client 0 2 7] ∧
      (s.registration 1).bindingCount = -1 :=
    exec_of_check (by decide +kernel)
  refine ⟨s, hs, hg, ha, hf, hc, ?_⟩
  intro h
  cases h.asserted .client 0 false ha

end Usersim.Nmr
