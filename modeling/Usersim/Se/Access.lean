import Mathlib.Algebra.Group.Nat.Defs
import Mathlib.Data.List.Perm.Basic
import Usersim.Lib.Run
import Usersim.Se.Lookup

/-!
# Access checks (`se.cpp`)

`SeAccessCheck` locks the subject context unless its caller has done so, asks the system for the
size of the token information, allocates a buffer for it and lets `SeAccessCheckFromState` decide.
Other threads lock, unlock and check in between; the lock count is the only thing they share with
it. `GetTokenInformation` is outside: without a buffer it fails, and reports an error and a length.

* `access_checks_balanced` — no interleaving loses a lock or a buffer, or unlocks too much
-/

namespace Usersim.Se.Access

open Lib

/-- A `SECURITY_SUBJECT_CONTEXT`. -/
abbrev Context := Nat

/-- The address of a `TOKEN_ACCESS_INFORMATION`. -/
abbrev Buffer := Nat

abbrev AccessMask := BitVec 32

structure Args where
  context : Context
  subjectContextLocked : Bool
  desiredAccess : AccessMask
  /-- The pointer is not null. -/
  privileges : Bool
deriving DecidableEq, Repr

/-- What a call has written so far; an output that is not written is `none`. -/
structure Outputs where
  result : Bool
  grantedAccess : AccessMask
  accessStatus : Option Status
  privileges : Option (BitVec 64)
deriving DecidableEq, Repr

inductive Phase where
  /-- About to call `GetTokenInformation`. -/
  | asking
  /-- About to call `SeAccessCheckFromState`. -/
  | checking (tokenAccessInformation : Buffer)
  /-- At the label `Done`. -/
  | done (tokenAccessInformation : Option Buffer)
  | unlocking
deriving DecidableEq, Repr

/-- A call of `SeAccessCheck` that has not returned. -/
structure Call where
  args : Args
  phase : Phase
  outputs : Outputs
deriving DecidableEq, Repr

structure State where
  /-- `lock_count`. -/
  lockCount : Context → BitVec 64
  /-- The buffers that are allocated. -/
  heap : List Buffer
  calls : List Call
  /-- The process has ended with a bug check. -/
  bugCheck : Bool
  /-- The locks the callers have not undone. Not part of the code. -/
  locks : Context → Nat
  /-- The calls that have returned. Not part of the code. -/
  returned : List (Args × Outputs)

def State.init : State where
  lockCount := fun _ => 0
  heap := []
  calls := []
  bugCheck := false
  locks := fun _ => 0
  returned := []

/-! ## The functions -/

def seCaptureSubjectContext (s : State) (c : Context) : State :=
  { s with lockCount := Function.update s.lockCount c 0 }

def seLockSubjectContext (s : State) (c : Context) : State :=
  { s with lockCount := Function.update s.lockCount c (s.lockCount c + 1) }

/-- `UINT64_MAX` is an underflow. -/
def seUnlockSubjectContext (s : State) (c : Context) : State :=
  let newValue := s.lockCount c - 1
  { s with
    lockCount := Function.update s.lockCount c newValue
    bugCheck := s.bugCheck || newValue == BitVec.allOnes 64 }

/-- The access is granted before the fault is injected. -/
def seAccessCheckFromState (args : Args) (injectFault : Bool) (o : Outputs) : Outputs :=
  let o := { o with
    privileges := if args.privileges then some 0 else o.privileges
    grantedAccess := args.desiredAccess }
  if injectFault then { o with accessStatus := some .accessDenied, result := false }
  else { o with accessStatus := some .success, result := true }

/-- The answer of `GetTokenInformation`, and that of `cxplat_allocate` if it is called. -/
structure Reply where
  error : Win32Error
  length : BitVec 32
  allocation : Option Buffer
deriving DecidableEq, Repr

/-- `SeAccessCheck` up to the first call of the system. -/
def seAccessCheck (s : State) (args : Args) : State :=
  let s := if args.subjectContextLocked then s else seLockSubjectContext s args.context
  { s with
    calls :=
      { args := args
        phase := .asking
        outputs :=
          { result := false, grantedAccess := 0, accessStatus := none
            privileges := if args.privileges then some 0 else none } } :: s.calls }

/-- From the first call of the system to the call of `SeAccessCheckFromState`, or to `Done`. -/
def askSize (call : Call) (reply : Reply) : Call :=
  let failed (status : Status) : Call :=
    { call with phase := .done none, outputs := { call.outputs with accessStatus := some status } }
  if reply.error ≠ .insufficientBuffer || reply.length = 0 then
    failed (win32ErrorToUsersimError reply.error)
  else
    match reply.allocation with
    | none => failed .noMemory
    | some buffer => { call with phase := .checking buffer }

/-! ## Runs -/

inductive Action where
  | seCaptureSubjectContext (c : Context)
  | seLockSubjectContext (c : Context)
  | seUnlockSubjectContext (c : Context)
  | seAccessCheck (args : Args)
  /-- The call at this place goes on. -/
  | ask (place : Nat) (reply : Reply)
  | check (place : Nat) (injectFault : Bool)
  | free (place : Nat)
  | return (place : Nat)
deriving DecidableEq, Repr

/-- The buffer that a call owns. -/
def Call.buffer (call : Call) : Option Buffer :=
  match call.phase with
  | .asking | .unlocking => none
  | .checking b => some b
  | .done b => b

/-- The system does not hand out a buffer that is allocated. -/
def ask (s : State) (place : Nat) (call : Call) (reply : Reply) : Option State :=
  let next := askSize call reply
  match next.buffer with
  | none => some { s with calls := s.calls.set place next }
  | some b =>
    if b ∈ s.heap then none
    else some { s with calls := s.calls.set place next, heap := b :: s.heap }

def step (s : State) (a : Action) : Option State :=
  if s.bugCheck then none
  else
    match a with
    | .seCaptureSubjectContext c => some (seCaptureSubjectContext s c)
    | .seLockSubjectContext c =>
      some { seLockSubjectContext s c with locks := Function.update s.locks c (s.locks c + 1) }
    | .seUnlockSubjectContext c =>
      some { seUnlockSubjectContext s c with locks := Function.update s.locks c (s.locks c - 1) }
    | .seAccessCheck args => some (seAccessCheck s args)
    | .ask place reply =>
      match s.calls[place]? with
      | some call => if call.phase = .asking then ask s place call reply else none
      | none => none
    | .check place injectFault =>
      match s.calls[place]? with
      | some ⟨args, .checking b, o⟩ =>
        some { s with
          calls :=
            s.calls.set place ⟨args, .done (some b), seAccessCheckFromState args injectFault o⟩ }
      | _ => none
    | .free place =>
      match s.calls[place]? with
      | some ⟨args, .done b, o⟩ =>
        -- a null pointer is not freed
        some { s with
          heap := b.elim s.heap s.heap.erase
          calls := s.calls.set place ⟨args, .unlocking, o⟩ }
      | _ => none
    | .return place =>
      match s.calls[place]? with
      | some ⟨args, .unlocking, o⟩ =>
        let s' := if args.subjectContextLocked then s else seUnlockSubjectContext s args.context
        some { s' with
          calls := s.calls.eraseIdx place
          returned := (args, o) :: s.returned }
      | _ => none

/-! ## What is meant -/

/-- The call has locked this context itself. -/
def Call.locks (c : Context) (call : Call) : Bool :=
  call.args.context == c && !call.args.subjectContextLocked

/-- A context is captured when it is not in use, unlocked as often as it was locked, and never
locked `2 ^ 64` times. -/
def Allowed (s : State) : Action → Prop
  | .seCaptureSubjectContext c => s.locks c = 0 ∧ s.calls.countP (Call.locks c) = 0
  | .seLockSubjectContext c => s.locks c + s.calls.countP (Call.locks c) + 1 < 2 ^ 64
  | .seUnlockSubjectContext c => 0 < s.locks c
  | .seAccessCheck args =>
    args.subjectContextLocked = false →
      s.locks args.context + s.calls.countP (Call.locks args.context) + 1 < 2 ^ 64
  | .ask .. | .check .. | .free _ | .return _ => True

instance (s : State) (a : Action) : Decidable (Allowed s a) :=
  match a with
  | .seCaptureSubjectContext _ => inferInstanceAs (Decidable (_ ∧ _))
  | .seLockSubjectContext _ | .seUnlockSubjectContext _ => inferInstanceAs (Decidable (_ < _))
  | .seAccessCheck _ => inferInstanceAs (Decidable (_ → _))
  | .ask .. | .check .. | .free _ | .return _ => isTrue trivial

/-- What a call of `SeAccessCheck` tells its caller. -/
structure Verdict (args : Args) (o : Outputs) : Prop where
  result_iff : o.result = true ↔ o.accessStatus = some .success
  granted : o.result = true → o.grantedAccess = args.desiredAccess
  /-- A check that is denied leaves the mask as if it were granted. -/
  denied : o.result = false → o.grantedAccess = 0 ∨
    o.grantedAccess = args.desiredAccess ∧ o.accessStatus = some .accessDenied
  privileges : o.privileges = if args.privileges then some 0 else none

structure Balanced (s : State) : Prop where
  lockCount : ∀ c, (s.lockCount c).toNat = s.locks c + s.calls.countP (Call.locks c)
  heap : s.heap.Perm (s.calls.filterMap Call.buffer)
  returned : ∀ x ∈ s.returned, Verdict x.1 x.2
  running : s.bugCheck = false

/-! ## The invariant -/

/-- Nothing is decided before `SeAccessCheckFromState`, or an error. -/
structure Undecided (args : Args) (o : Outputs) : Prop where
  result : o.result = false
  grantedAccess : o.grantedAccess = 0
  privileges : o.privileges = if args.privileges then some 0 else none

def CallOk (call : Call) : Prop :=
  match call.phase with
  | .asking | .checking _ => Undecided call.args call.outputs
  | .done _ | .unlocking => Verdict call.args call.outputs

structure Inv (s : State) : Prop extends Balanced s where
  calls : ∀ call ∈ s.calls, CallOk call

variable {s s' : State} {c : Context} {call call' : Call} {place : Nat} {reply : Reply}

theorem inv_init : Inv State.init where
  lockCount := fun _ => rfl
  heap := .nil
  returned := fun _ h => absurd h List.not_mem_nil
  running := rfl
  calls := fun _ h => absurd h List.not_mem_nil

theorem Undecided.failed {args : Args} {o : Outputs} (h : Undecided args o) {status : Status}
    (hstatus : status ≠ .success) : Verdict args { o with accessStatus := some status } where
  result_iff := by simp [h.result, hstatus]
  granted := by simp [h.result]
  denied := fun _ => .inl h.grantedAccess
  privileges := h.privileges

theorem Undecided.checked {args : Args} {o : Outputs} (h : Undecided args o) (injectFault : Bool) :
    Verdict args (seAccessCheckFromState args injectFault o) := by
  have hprivileges : (if args.privileges then some (0 : BitVec 64) else o.privileges) =
      if args.privileges then some 0 else none := by
    rw [h.privileges]
    split <;> rfl
  cases injectFault with
  | true =>
    exact ⟨by simp [seAccessCheckFromState], nofun, fun _ => .inr ⟨rfl, rfl⟩, hprivileges⟩
  | false => exact ⟨by simp [seAccessCheckFromState], fun _ => rfl, nofun, hprivileges⟩

theorem askSize_args : (askSize call reply).args = call.args := by
  simp only [askSize]
  repeat' split
  all_goals rfl

theorem callOk_askSize (hphase : call.phase = .asking) (h : CallOk call) :
    CallOk (askSize call reply) := by
  simp only [CallOk, hphase] at h
  simp only [askSize]
  split
  · exact h.failed (win32ErrorToUsersimError_ne_success reply.error)
  · split
    · exact h.failed (by decide)
    · exact h

theorem getElem?_split (h : s.calls[place]? = some call) :
    ∃ before after, s.calls = before ++ call :: after ∧
      (∀ x, s.calls.set place x = before ++ x :: after) ∧
      s.calls.eraseIdx place = before ++ after := by
  obtain ⟨hlt, hget⟩ := List.getElem?_eq_some_iff.mp h
  refine ⟨s.calls.take place, s.calls.drop (place + 1), ?_, fun x => ?_, ?_⟩
  · rw [← hget, List.getElem_cons_drop, List.take_append_drop]
  · exact List.set_eq_take_append_cons_drop .. |>.trans (if_pos hlt)
  · exact List.eraseIdx_eq_take_drop_succ ..

theorem countP_middle (p : Call → Bool) (before after : List Call) :
    (before ++ call :: after).countP p = (before ++ after).countP p + if p call then 1 else 0 := by
  rw [List.perm_middle.countP_eq, List.countP_cons]

theorem buffers_middle (before after : List Call) :
    ((before ++ call :: after).filterMap Call.buffer).Perm
      (call.buffer.toList ++ (before ++ after).filterMap Call.buffer) := by
  refine (List.perm_middle.filterMap _).trans (.of_eq ?_)
  cases hb : call.buffer with
  | none => simp [hb]
  | some b => simp [hb]

theorem callOk_middle {before after : List Call} (h : ∀ x ∈ before ++ call :: after, CallOk x) :
    CallOk call ∧ ∀ x ∈ before ++ after, CallOk x := by
  simp only [List.mem_append, List.mem_cons] at h ⊢
  exact ⟨h call (.inr (.inl rfl)), fun x hx => h x (hx.imp_right .inr)⟩

/-- A call goes on: its buffer is one that is allocated for it, or is freed. -/
theorem Inv.goesOn {heap : List Buffer} (hi : Inv s) (hcall : s.calls[place]? = some call)
    (hargs : call'.args = call.args) (hok : CallOk call → CallOk call')
    (hheap : (call.buffer.toList ++ heap).Perm (call'.buffer.toList ++ s.heap)) :
    Inv { s with heap := heap, calls := s.calls.set place call' } := by
  obtain ⟨before, after, hcalls, hset, -⟩ := getElem?_split hcall
  have hlocks : ∀ c, call'.locks c = call.locks c := fun c => by rw [Call.locks, hargs, Call.locks]
  refine ⟨⟨fun c => ?_, ?_, hi.returned, hi.running⟩, ?_⟩
  · rw [hset, countP_middle, hlocks, ← countP_middle, ← hcalls]
    exact hi.lockCount c
  · have hbuffers := hi.heap
    rw [hcalls] at hbuffers
    show heap.Perm _
    rw [hset]
    have hall := hheap.trans ((hbuffers.trans (buffers_middle before after)).append_left _)
    rw [← List.append_assoc] at hall
    have hswap := hall.trans (List.perm_append_comm.append_right _)
    rw [List.append_assoc] at hswap
    exact ((List.perm_append_left_iff _).mp hswap).trans (buffers_middle before after).symm
  · have hcallsOk := hi.calls
    rw [hcalls] at hcallsOk
    obtain ⟨hthis, hrest⟩ := callOk_middle hcallsOk
    show ∀ x ∈ s.calls.set place call', CallOk x
    rw [hset]
    simp only [List.mem_append, List.mem_cons] at hrest ⊢
    rintro x (hx | rfl | hx)
    · exact hrest x (.inl hx)
    · exact hok hthis
    · exact hrest x (.inr hx)

/-! ## Locks -/

theorem toNat_add_one {x : BitVec 64} (h : x.toNat + 1 < 2 ^ 64) : (x + 1).toNat = x.toNat + 1 := by
  rw [BitVec.toNat_add]
  exact Nat.mod_eq_of_lt h

theorem toNat_sub_one {x : BitVec 64} (h : 0 < x.toNat) : (x - 1).toNat = x.toNat - 1 := by
  have hlt := x.isLt
  rw [BitVec.toNat_sub]
  show (2 ^ 64 - 1 + x.toNat) % 2 ^ 64 = x.toNat - 1
  omega

/-- An unlock of a locked context does not underflow. -/
theorem sub_one_ne_allOnes {x : BitVec 64} (h : 0 < x.toNat) :
    (x - 1 == BitVec.allOnes 64) = false := by
  have hlt := x.isLt
  rw [beq_eq_false_iff_ne]
  intro heq
  have hnat := congrArg BitVec.toNat heq
  rw [toNat_sub_one h, BitVec.toNat_allOnes] at hnat
  omega

/-- The lock count of `c` goes from `x` to `y`, with the locks that are counted. -/
theorem lockCount_update {lockCount : Context → BitVec 64} {counted counted' : Context → Nat}
    {c : Context} {y : BitVec 64} (h : ∀ c, (lockCount c).toNat = counted c)
    (hc : y.toNat = counted' c) (hother : ∀ c', c' ≠ c → counted' c' = counted c') (c' : Context) :
    (Function.update lockCount c y c').toNat = counted' c' := by
  by_cases hcc : c' = c
  · subst hcc
    rw [Function.update_self, hc]
  · rw [Function.update_of_ne hcc, h c', hother c' hcc]

theorem inv_seLock (hi : Inv s) (h : s.locks c + s.calls.countP (Call.locks c) + 1 < 2 ^ 64) :
    Inv { seLockSubjectContext s c with locks := Function.update s.locks c (s.locks c + 1) } := by
  have hcount := hi.lockCount c
  refine ⟨⟨lockCount_update hi.lockCount ?_ fun c' hc' => ?_, hi.heap, hi.returned, hi.running⟩,
    hi.calls⟩
  · rw [toNat_add_one (by omega), hcount]
    simp only [seLockSubjectContext, Function.update_self]
    omega
  · simp [seLockSubjectContext, hc']

theorem inv_seUnlock (hi : Inv s) (h : 0 < s.locks c) :
    Inv { seUnlockSubjectContext s c with locks := Function.update s.locks c (s.locks c - 1) } := by
  have hcount := hi.lockCount c
  have hpos : 0 < (s.lockCount c).toNat := by omega
  refine ⟨⟨lockCount_update hi.lockCount ?_ fun c' hc' => ?_, hi.heap, hi.returned, ?_⟩, hi.calls⟩
  · rw [toNat_sub_one hpos, hcount]
    simp only [seUnlockSubjectContext, Function.update_self]
    omega
  · simp [seUnlockSubjectContext, hc']
  · simp only [seUnlockSubjectContext, sub_one_ne_allOnes hpos, hi.running, Bool.or_false]

theorem inv_seCapture (hi : Inv s) (h : s.locks c = 0 ∧ s.calls.countP (Call.locks c) = 0) :
    Inv (seCaptureSubjectContext s c) := by
  refine ⟨⟨lockCount_update hi.lockCount ?_ fun c' hc' => rfl, hi.heap, hi.returned, hi.running⟩,
    hi.calls⟩
  simp [seCaptureSubjectContext, h.1, h.2]

theorem locks_eq_false {args : Args} {phase : Phase} {o : Outputs}
    (h : args.subjectContextLocked = true) (c : Context) :
    (⟨args, phase, o⟩ : Call).locks c = false := by
  simp [Call.locks, h]

theorem locks_iff {args : Args} {phase : Phase} {o : Outputs}
    (h : args.subjectContextLocked = false) (c : Context) :
    (⟨args, phase, o⟩ : Call).locks c = true ↔ args.context = c := by
  simp [Call.locks, h]

theorem inv_seAccessCheck {args : Args} (hi : Inv s) (h : Allowed s (.seAccessCheck args)) :
    Inv (seAccessCheck s args) := by
  have hcalls : ∀ x ∈ (seAccessCheck s args).calls, CallOk x := by
    intro x hx
    rcases List.mem_cons.mp hx with rfl | hx
    · exact ⟨rfl, rfl, rfl⟩
    · refine hi.calls x ?_
      split at hx <;> exact hx
  cases hlocked : args.subjectContextLocked with
  | true =>
    simp only [seAccessCheck, hlocked, if_true] at hcalls ⊢
    refine ⟨⟨fun c => ?_, hi.heap, hi.returned, hi.running⟩, hcalls⟩
    rw [List.countP_cons, locks_eq_false hlocked]
    exact hi.lockCount c
  | false =>
    have hcount := hi.lockCount args.context
    have hlt := h hlocked
    simp only [seAccessCheck, hlocked, Bool.false_eq_true, if_false] at hcalls ⊢
    refine ⟨⟨lockCount_update hi.lockCount ?_ fun c' hc' => ?_, hi.heap, hi.returned, hi.running⟩,
      hcalls⟩
    · rw [toNat_add_one (by omega), hcount, List.countP_cons,
        if_pos ((locks_iff hlocked _).mpr rfl)]
      rfl
    · rw [List.countP_cons, if_neg fun hl => hc' ((locks_iff hlocked _).mp hl).symm]
      rfl

/-- A call returns, and undoes its lock. -/
theorem inv_return {args : Args} {o : Outputs} (hi : Inv s)
    (hcall : s.calls[place]? = some ⟨args, .unlocking, o⟩) :
    Inv { (if args.subjectContextLocked then s else seUnlockSubjectContext s args.context) with
      calls := s.calls.eraseIdx place
      returned := (args, o) :: s.returned } := by
  obtain ⟨before, after, hcalls, -, herase⟩ := getElem?_split hcall
  have hcount : ∀ c, s.calls.countP (Call.locks c) =
      (s.calls.eraseIdx place).countP (Call.locks c) +
        if (⟨args, .unlocking, o⟩ : Call).locks c then 1 else 0 := by
    intro c
    rw [herase, hcalls, countP_middle]
  have hcallsOk := hi.calls
  rw [hcalls] at hcallsOk
  obtain ⟨hthis, hrest⟩ := callOk_middle hcallsOk
  have hreturned : ∀ x ∈ (args, o) :: s.returned, Verdict x.1 x.2 := by
    rw [List.forall_mem_cons]
    exact ⟨hthis, hi.returned⟩
  have hheap : s.heap.Perm ((s.calls.eraseIdx place).filterMap Call.buffer) := by
    have hbuffers := hi.heap
    rw [hcalls] at hbuffers
    rw [herase]
    exact hbuffers.trans (buffers_middle before after)
  rw [← herase] at hrest
  cases hlocked : args.subjectContextLocked with
  | true =>
    refine ⟨⟨fun c => ?_, hheap, hreturned, hi.running⟩, hrest⟩
    have hc := hcount c
    rw [locks_eq_false hlocked] at hc
    simp only [if_true]
    rw [hi.lockCount c, hc]
    rfl
  | false =>
    simp only [Bool.false_eq_true, if_false]
    have hown := hcount args.context
    rw [if_pos ((locks_iff hlocked _).mpr rfl)] at hown
    have hlocks := hi.lockCount args.context
    have hpos : 0 < (s.lockCount args.context).toNat := by omega
    refine ⟨⟨lockCount_update hi.lockCount ?_ fun c' hc' => ?_, hheap, hreturned, ?_⟩, hrest⟩
    · rw [toNat_sub_one hpos, hlocks, hown]
      rfl
    · have hc := hcount c'
      rw [if_neg fun hl => hc' ((locks_iff hlocked _).mp hl).symm] at hc
      rw [hc]
      rfl
    · simp only [seUnlockSubjectContext, sub_one_ne_allOnes hpos, hi.running, Bool.or_false]

/-! ## Every run -/

theorem inv_ask (hi : Inv s) (hcall : s.calls[place]? = some call) (hphase : call.phase = .asking)
    (hs : ask s place call reply = some s') : Inv s' := by
  have hnone : call.buffer = none := by
    rw [Call.buffer, hphase]
  have hgoesOn : ∀ heap : List Buffer, heap.Perm ((askSize call reply).buffer.toList ++ s.heap) →
      Inv { s with heap := heap, calls := s.calls.set place (askSize call reply) } := by
    intro heap hheap
    exact hi.goesOn hcall askSize_args (callOk_askSize hphase) (by rw [hnone]; exact hheap)
  simp only [ask] at hs
  cases hbuffer : (askSize call reply).buffer with
  | none =>
    simp only [hbuffer, Option.some.injEq] at hs
    rw [← hs]
    exact hgoesOn s.heap (by rw [hbuffer]; exact .refl _)
  | some b =>
    simp only [hbuffer, Option.ite_none_left_eq_some, Option.some.injEq] at hs
    rw [← hs.2]
    exact hgoesOn (b :: s.heap) (by rw [hbuffer]; exact .refl _)

theorem inv_step {a : Action} (hi : Inv s) (ha : Allowed s a) (hs : step s a = some s') :
    Inv s' := by
  unfold step at hs
  split at hs
  · cases hs
  cases a with
  | seCaptureSubjectContext c =>
    cases hs
    exact inv_seCapture hi ha
  | seLockSubjectContext c =>
    cases hs
    exact inv_seLock hi ha
  | seUnlockSubjectContext c =>
    cases hs
    exact inv_seUnlock hi ha
  | seAccessCheck args =>
    cases hs
    exact inv_seAccessCheck hi ha
  | ask place reply =>
    simp only at hs
    split at hs
    · next call hcall =>
      rw [Option.ite_none_right_eq_some] at hs
      exact inv_ask hi hcall hs.1 hs.2
    · cases hs
  | check place injectFault =>
    simp only at hs
    split at hs
    · next args b o hcall =>
      cases hs
      refine hi.goesOn hcall rfl (fun hok => ?_) (.refl _)
      exact Undecided.checked (show Undecided args o from hok) injectFault
    · cases hs
  | free place =>
    simp only at hs
    split at hs
    · next args b o hcall =>
      cases hs
      refine hi.goesOn hcall rfl id ?_
      cases b with
      | none => exact .refl _
      | some b =>
        refine (List.perm_cons_erase (hi.heap.mem_iff.mpr ?_)).symm
        exact List.mem_filterMap.mpr ⟨_, List.mem_of_getElem? hcall, rfl⟩
    · cases hs
  | «return» place =>
    simp only at hs
    split at hs
    · next args o hcall =>
      cases hs
      exact inv_return hi hcall
    · cases hs

/--
In every interleaving of access checks with the calls that lock and unlock: the count of a context
is the locks of its callers and those of the checks that have not returned, the buffers that are
allocated are those of these checks, no unlock is one too many, and each check tells its caller that
the access is granted exactly if it says so in its status.
-/
theorem access_checks_balanced (run : List Action) (s : State)
    (hg : Guarded step Allowed State.init run) (h : exec step State.init run = some s) :
    Balanced s :=
  (exec_invariant_of_guard (fun _ _ _ hi ha hs => inv_step hi ha hs) inv_init hg h).toBalanced

/-- A check locks its context, and is denied; meanwhile its caller locks and checks again. -/
def deniedOnce : List Action :=
  [.seCaptureSubjectContext 0, .seAccessCheck ⟨0, false, 0x3, true⟩, .seLockSubjectContext 0,
   .ask 0 ⟨.insufficientBuffer, 64, some 0x1000⟩, .seAccessCheck ⟨0, true, 0x1, false⟩,
   .check 1 true, .ask 0 ⟨.invalidHandle, 0, none⟩, .free 1, .free 0, .return 1, .return 0,
   .seUnlockSubjectContext 0]

theorem access_checks_balanced_deniedOnce :
    ∃ s, exec step State.init deniedOnce = some s ∧
      s.lockCount 0 = 0 ∧ s.heap = [] ∧
      s.returned = [(⟨0, true, 0x1, false⟩, ⟨false, 0, some .invalidHandle, none⟩),
        (⟨0, false, 0x3, true⟩, ⟨false, 0x3, some .accessDenied, some 0⟩)] ∧ Balanced s := by
  obtain ⟨s, hs, hfinal⟩ : ∃ s, exec step State.init deniedOnce = some s ∧
      s.lockCount 0 = 0 ∧ s.heap = [] ∧
      s.returned = [(⟨0, true, 0x1, false⟩, ⟨false, 0, some .invalidHandle, none⟩),
        (⟨0, false, 0x3, true⟩, ⟨false, 0x3, some .accessDenied, some 0⟩)] :=
    exec_of_check (by decide +kernel)
  have hg : Guarded step Allowed State.init deniedOnce := guarded_of_check (by decide +kernel)
  exact ⟨s, hs, hfinal.1, hfinal.2.1, hfinal.2.2, access_checks_balanced deniedOnce s hg hs⟩

end Usersim.Se.Access
