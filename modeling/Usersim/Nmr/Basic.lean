import Mathlib.Data.List.Perm.Basic
import Mathlib.Logic.Function.Basic
import Usersim.Basic
import Usersim.Lib.Run

/-!
# The network module registrar (`nmr_impl.cpp`)

Clients and providers register with `nmr_t`, which binds every client to every provider with the
same NPI id, and unbinds them again when one of the two deregisters. Every operation is a sequence
of critical sections with callbacks between them, made outside the lock. An action below is one
critical section of one thread together with what the thread does on its own up to the next
callback or critical section; a run is any list of actions, so threads interleave freely. A call
made inside a callback is a call of another thread that runs while the callback's thread stays
where it is.

The operations are symmetric in clients and providers, as the templates of the source are: `Side`
is the template parameter. The iteration order of `bindings` is that of addresses, so it is the
action that says in which order the bindings of a deregistration are visited.

`life`, `detach`, `metInStart` and the log are not part of the code's state: they record what the
callers may do next and what has happened.
-/

namespace Usersim.Nmr

open Lib

abbrev Handle := Nat

/-- The address of a binding. -/
abbrev BindingId := Nat

inductive Side where
  | client
  | provider
deriving DecidableEq

def Side.other : Side → Side
  | .client => .provider
  | .provider => .client

theorem Side.ne_other (side : Side) : side ≠ side.other := by
  cases side <;> decide

theorem Side.eq_or_eq_other (side x : Side) : x = side ∨ x = side.other := by
  cases side <;> cases x <;> decide

inductive BindingStatus where
  | start
  | ready
  | beginUnbind
  | unbindPending
  | unbindComplete
deriving DecidableEq

/-- `client_registration` and `provider_registration`: of the characteristics, the NPI id (null or
a value) and whether there is a callback that cleans up binding contexts. -/
structure Registration where
  npiId : Option Nat
  hasCleanup : Bool
  bindingCount : Int
  deregistering : Bool

/-- How far the detach callback of one side of a binding is. -/
inductive Detach where
  | notCalled
  | running
  /-- Still running, but its completion has been called already. -/
  | completedEarly
  /-- Returned `STATUS_PENDING`, its completion has not been called yet. -/
  | pending
  /-- Nothing to wait for any more. -/
  | done
deriving DecidableEq

/-- `binding`, each field with the side it belongs to. -/
structure Binding where
  registration : Side → Handle
  context : Side → Option Ptr
  status : Side → BindingStatus
  detach : Side → Detach
  /-- A `begin_unbind` has found the binding in `Start` and left it alone. -/
  metInStart : Bool

/-- Where a thread is in `begin_unbind` after its first critical section. -/
inductive DetachStage where
  /-- Inside `ClientDetachProvider`. -/
  | inClient
  /-- Inside `ProviderDetachClient`; whether the client returned `STATUS_PENDING`. -/
  | inProvider (clientPending : Bool)
  /-- About to take the lock again. -/
  | commit (clientPending providerPending : Bool)
  /-- About to call `unbind_complete`. -/
  | finish
deriving DecidableEq

/-- Who calls `remove`. -/
inductive RemoveCall where
  | deregister
  | wait
deriving DecidableEq

/-- Where a thread is. -/
inductive Op where
  | idle
  /-- In `register_*`, between `add` and the scan of `perform_bind`. -/
  | performBind (side : Side) (h : Handle)
  /-- In `perform_bind`, between two pending actions. -/
  | attaching (side : Side) (h : Handle) (todo : List BindingId)
  /-- Inside `ClientAttachProvider`. -/
  | inClientAttach (side : Side) (h : Handle) (b : BindingId) (todo : List BindingId)
  /-- Inside `ProviderAttachClient`, called by `client_attach_provider`. -/
  | inProviderAttach (side : Side) (h : Handle) (b : BindingId) (todo : List BindingId)
  /-- In `deregister_*`, between `deactivate` and the scan of `perform_unbind`. -/
  | performUnbind (side : Side) (h : Handle)
  /-- In `perform_unbind`, between two bindings. -/
  | unbinding (side : Side) (h : Handle) (pending : Bool) (todo : List BindingId)
  | beginUnbind (side : Side) (h : Handle) (pending : Bool) (todo : List BindingId)
      (b : BindingId) (stage : DetachStage)
  | remove (side : Side) (h : Handle) (call : RemoveCall)
  /-- In the wait of `remove`. -/
  | blocked (side : Side) (h : Handle) (call : RemoveCall)
  /-- In `binding_detach_*_complete`, about to call `unbind_complete`. -/
  | detachComplete (b : BindingId)

def Op.isIdle : Op → Bool
  | .idle => true
  | _ => false

/-- What has been done with a handle. -/
inductive Life where
  | unborn
  /-- Added, not yet through the scan of `perform_bind`. -/
  | adding (t : Tid)
  | registering (t : Tid)
  | registered
  | deregistering (t : Tid)
  /-- `deregister_*` has returned true. -/
  | pending
  | waiting (t : Tid)
  | gone
deriving DecidableEq

inductive Event where
  | registered (side : Side) (h : Handle)
  /-- `ClientAttachProvider` is called. -/
  | attachCalled (b : BindingId) (client provider : Handle)
  | providerAttachCalled (b : BindingId) (client provider : Handle)
  | attached (b : BindingId) (client provider : Handle)
  | attachFailed (b : BindingId) (client provider : Handle)
  /-- The detach callback of one side is called. -/
  | detachCalled (side : Side) (b : BindingId) (h : Handle)
  | cleanup (side : Side) (b : BindingId) (h : Handle) (context : Ptr)
  /-- `unbind_complete` has dropped both references and erased the binding. -/
  | unbindComplete (b : BindingId) (client provider : Handle)
  /-- The `ASSERT` in the completion of one side's detach. -/
  | asserted (side : Side) (b : BindingId) (holds : Bool)
  | deregistered (side : Side) (h : Handle) (pending : Bool)
  /-- `wait_for_deregister_*` has returned. -/
  | waited (side : Side) (h : Handle)
  /-- The call threw "invalid handle". -/
  | invalidHandle (t : Tid)
deriving DecidableEq

structure State where
  /-- `clients` and `providers`, in the order of their handles. -/
  collection : Side → List Handle
  registration : Handle → Registration
  bindings : List BindingId
  binding : BindingId → Binding
  nextHandle : Handle
  /-- The address of the next binding. -/
  nextBinding : BindingId
  ops : Tid → Op
  life : Handle → Life
  /-- What happened so far, newest first. -/
  log : List Event

def Registration.empty : Registration where
  npiId := none
  hasCleanup := false
  bindingCount := 0
  deregistering := false

def Binding.new (registration : Side → Handle) : Binding where
  registration := registration
  context := fun _ => none
  status := fun _ => .start
  detach := fun _ => .notCalled
  metInStart := false

def State.init : State where
  collection := fun _ => []
  registration := fun _ => .empty
  bindings := []
  binding := fun _ => .new fun _ => 0
  nextHandle := 1
  nextBinding := 0
  ops := fun _ => .idle
  life := fun _ => .unborn
  log := []

/-! ## Parts of critical sections -/

@[simp] def State.setOp (s : State) (t : Tid) (op : Op) : State :=
  { s with ops := Function.update s.ops t op }

@[simp] def State.emit (s : State) (e : Event) : State := { s with log := e :: s.log }

@[simp] def State.setLife (s : State) (h : Handle) (l : Life) : State :=
  { s with life := Function.update s.life h l }

@[simp] def State.setRegistration (s : State) (h : Handle) (r : Registration) : State :=
  { s with registration := Function.update s.registration h r }

@[simp] def State.setBinding (s : State) (b : BindingId) (x : Binding) : State :=
  { s with binding := Function.update s.binding b x }

def State.addCount (s : State) (h : Handle) (d : Int) : State :=
  s.setRegistration h { s.registration h with bindingCount := (s.registration h).bindingCount + d }

/-- The pair of registrations of a scan by `h`. -/
def pairOf (side : Side) (h target : Handle) : Side → Handle :=
  fun x => if x = side then h else target

/-- Both NPI ids are there and equal. -/
def State.Matches (s : State) (pair : Side → Handle) : Prop :=
  (s.registration (pair .client)).npiId ≠ none ∧
    (s.registration (pair .client)).npiId = (s.registration (pair .provider)).npiId

instance (s : State) (pair : Side → Handle) : Decidable (s.Matches pair) :=
  inferInstanceAs (Decidable (_ ∧ _))

/-- `bind`, with the binding it makes, if any. -/
def bind (s : State) (pair : Side → Handle) : State × Option BindingId :=
  if ¬ s.Matches pair then (s, none)
  else if (s.registration (pair .client)).deregistering ∨
      (s.registration (pair .provider)).deregistering then (s, none)
  else
    let s := (s.addCount (pair .client) 1).addCount (pair .provider) 1
    ({ s.setBinding s.nextBinding (.new pair) with
        bindings := s.bindings ++ [s.nextBinding]
        nextBinding := s.nextBinding + 1 }, some s.nextBinding)

/-- The loop of `perform_bind` over the targets, with the pending actions it collects. -/
def bindAll (side : Side) (h : Handle) : State → List Handle → State × List BindingId
  | s, [] => (s, [])
  | s, target :: targets =>
    match bind s (pairOf side h target) with
    | (s, none) => bindAll side h s targets
    | (s, some b) =>
      let rest := bindAll side h s targets
      (rest.1, b :: rest.2)

/-- The clean-up callback of one side in `unbind_complete`. -/
def cleanUpContext (s : State) (b : BindingId) (side : Side) : State :=
  let h := (s.binding b).registration side
  match (s.binding b).context side with
  | some context =>
    if (s.registration h).hasCleanup then s.emit (.cleanup side b h context) else s
  | none => s

def unbindComplete (s : State) (b : BindingId) : State :=
  let s := cleanUpContext (cleanUpContext s b .client) b .provider
  let client := (s.binding b).registration .client
  let provider := (s.binding b).registration .provider
  let s := (s.addCount provider (-1)).addCount client (-1)
  { s.emit (.unbindComplete b client provider) with bindings := s.bindings.erase b }

/-- The detach of a side is reported in the status of the other side. -/
def Binding.detachStatus (x : Binding) (side : Side) : BindingStatus := x.status side.other

def Binding.setDetach (x : Binding) (side : Side) (d : Detach) : Binding :=
  { x with detach := Function.update x.detach side d }

def Binding.setStatus (x : Binding) (status : BindingStatus) : Binding :=
  { x with status := fun _ => status }

/-- `begin_unbind` calls the provider's detach callback if there is a provider context. -/
def callProviderDetach (s : State) (b : BindingId) (clientPending : Bool) : State × DetachStage :=
  match (s.binding b).context .provider with
  | some _ =>
    ((s.setBinding b ((s.binding b).setDetach .provider .running)).emit
      (.detachCalled .provider b ((s.binding b).registration .provider)), .inProvider clientPending)
  | none => (s.setBinding b ((s.binding b).setDetach .provider .done), .commit clientPending false)

/-- `begin_unbind` calls the client's detach callback if there is a client context. -/
def callClientDetach (s : State) (b : BindingId) : State × DetachStage :=
  match (s.binding b).context .client with
  | some _ =>
    ((s.setBinding b ((s.binding b).setDetach .client .running)).emit
      (.detachCalled .client b ((s.binding b).registration .client)), .inClient)
  | none => callProviderDetach (s.setBinding b ((s.binding b).setDetach .client .done)) b false

/-- What a detach callback leaves behind when it returns. -/
def Detach.returned (d : Detach) (pending : Bool) : Detach :=
  match d with
  | .running => if pending then .pending else .done
  | _ => .done

def commitStatus (pending : Bool) (status : BindingStatus) : BindingStatus :=
  if pending ∧ status ≠ .unbindComplete then .unbindPending else .unbindComplete

/-- The second critical section of `begin_unbind`. -/
def Binding.commit (x : Binding) (clientPending providerPending : Bool) : Binding :=
  { x with
    status := fun
      | .provider => commitStatus clientPending (x.status .provider)
      | .client => commitStatus providerPending (x.status .client) }

def Binding.isComplete (x : Binding) : Bool :=
  x.status .client = .unbindComplete && x.status .provider = .unbindComplete

/-- The end of `remove`, and of the call that made it. -/
def eraseRegistration (s : State) (t : Tid) (side : Side) (h : Handle) (call : RemoveCall) :
    State :=
  ({ s with
      collection := Function.update s.collection side ((s.collection side).erase h) }.emit
    (match call with
      | .deregister => .deregistered side h false
      | .wait => .waited side h)).setLife h .gone |>.setOp t .idle

/-! ## Actions -/

inductive Action where
  /-- `register_client` or `register_provider`: `add`. -/
  | register (t : Tid) (side : Side) (npiId : Option Nat) (hasCleanup : Bool)
  /-- The scan of `perform_bind`. -/
  | bindScan (t : Tid)
  /-- The next pending action calls `ClientAttachProvider`. -/
  | attach (t : Tid)
  /-- `client_attach_provider`, called by the client inside `ClientAttachProvider`. -/
  | clientAttachProvider (t : Tid) (context : Option Ptr)
  /-- `ProviderAttachClient` returns, having written the provider's binding context or not. -/
  | providerAttachReturn (t : Tid) (write : Option (Option Ptr))
  /-- `ClientAttachProvider` returns and the pending action ends. -/
  | attachReturn (t : Tid) (success : Bool)
  | registerReturn (t : Tid)
  /-- `deregister_client` or `deregister_provider`: `deactivate`. -/
  | deregister (t : Tid) (side : Side) (h : Handle)
  /-- The scan of `perform_unbind`, and the order in which it finds the bindings. -/
  | unbindScan (t : Tid) (order : List BindingId)
  /-- `begin_unbind` of the next binding, up to the first detach callback. -/
  | beginUnbind (t : Tid)
  | clientDetachReturn (t : Tid) (pending : Bool)
  | providerDetachReturn (t : Tid) (pending : Bool)
  /-- The second critical section of `begin_unbind`. -/
  | commit (t : Tid)
  /-- `unbind_complete`, in `begin_unbind` or in a completion. -/
  | finish (t : Tid)
  /-- `perform_unbind` returns. -/
  | unbindReturn (t : Tid)
  | remove (t : Tid)
  /-- The wait in `remove` ends. -/
  | wake (t : Tid)
  /-- `wait_for_deregister_*`. -/
  | wait (t : Tid) (side : Side) (h : Handle)
  /-- The completion of the detach of one side: `binding_detach_provider_complete` for the client
  and `binding_detach_client_complete` for the provider. -/
  | detachComplete (t : Tid) (side : Side) (b : BindingId)

def Action.tid : Action → Tid
  | .register t _ _ _ | .bindScan t | .attach t | .clientAttachProvider t _
  | .providerAttachReturn t _ | .attachReturn t _ | .registerReturn t | .deregister t _ _
  | .unbindScan t _ | .beginUnbind t | .clientDetachReturn t _ | .providerDetachReturn t _
  | .commit t | .finish t | .unbindReturn t | .remove t | .wake t | .wait t _ _
  | .detachComplete t _ _ => t

def Binding.pairHas (x : Binding) (side : Side) (h : Handle) : Bool := x.registration side == h

/-- A call with a handle that is not there throws. -/
def throwInvalid (s : State) (t : Tid) : State := (s.emit (.invalidHandle t)).setOp t .idle

def step (s : State) : Action → Option State
  | .register t side npiId hasCleanup =>
    match s.ops t with
    | .idle =>
      let h := s.nextHandle
      some ({ s.setRegistration h { Registration.empty with npiId, hasCleanup } with
          collection := Function.update s.collection side (s.collection side ++ [h])
          nextHandle := h + 1 }.setLife h (.adding t) |>.setOp t (.performBind side h))
    | _ => none
  | .bindScan t =>
    match s.ops t with
    | .performBind side h =>
      if h ∈ s.collection side then
        let res := bindAll side h s (s.collection side.other)
        some ((res.1.setLife h (.registering t)).setOp t (.attaching side h res.2))
      else some (throwInvalid s t)
    | _ => none
  | .attach t =>
    match s.ops t with
    | .attaching side h (b :: todo) =>
      let x := s.binding b
      some ((s.emit (.attachCalled b (x.registration .client) (x.registration .provider))).setOp t
        (.inClientAttach side h b todo))
    | _ => none
  | .clientAttachProvider t context =>
    match s.ops t with
    | .inClientAttach side h b todo =>
      if b ∈ s.bindings then
        let x := { s.binding b with
          context := Function.update (s.binding b).context .client context }
        some (((s.setBinding b x).emit (.providerAttachCalled b (x.registration .client)
          (x.registration .provider))).setOp t (.inProviderAttach side h b todo))
      -- the exception goes to the callback, which is still running
      else some (s.emit (.invalidHandle t))
    | _ => none
  | .providerAttachReturn t write =>
    match s.ops t with
    | .inProviderAttach side h b todo =>
      let x := s.binding b
      let context := Function.update x.context .provider (write.getD (x.context .provider))
      some ((s.setBinding b { x with context }).setOp t (.inClientAttach side h b todo))
    | _ => none
  | .attachReturn t success =>
    match s.ops t with
    | .inClientAttach side h b todo =>
      let x := s.binding b
      let client := x.registration .client
      let provider := x.registration .provider
      if success then
        some (((s.setBinding b (x.setStatus .ready)).emit (.attached b client provider)).setOp t
          (.attaching side h todo))
      else
        some ((unbindComplete (s.emit (.attachFailed b client provider)) b).setOp t
          (.attaching side h todo))
    | _ => none
  | .registerReturn t =>
    match s.ops t with
    | .attaching side h [] =>
      some (((s.emit (.registered side h)).setLife h .registered).setOp t .idle)
    | _ => none
  | .deregister t side h =>
    match s.ops t with
    | .idle =>
      if h ∈ s.collection side then
        some ((s.setRegistration h { s.registration h with deregistering := true }).setLife h
          (.deregistering t) |>.setOp t (.performUnbind side h))
      else some (throwInvalid s t)
    | _ => none
  | .unbindScan t order =>
    match s.ops t with
    | .performUnbind side h =>
      if h ∈ s.collection side then
        if order.Perm (s.bindings.filter fun b => (s.binding b).pairHas side h) then
          some (s.setOp t (.unbinding side h false order))
        else none
      else some (throwInvalid s t)
    | _ => none
  | .beginUnbind t =>
    match s.ops t with
    | .unbinding side h pending (b :: todo) =>
      let x := s.binding b
      -- "Unbind already started", which is said of `Start` as well
      if x.status .client ≠ .ready ∨ x.status .provider ≠ .ready then
        some ((s.setBinding b { x with
            metInStart := x.metInStart || x.status .client == .start }).setOp t
          (.unbinding side h true todo))
      else
        let res := callClientDetach (s.setBinding b (x.setStatus .beginUnbind)) b
        some (res.1.setOp t (.beginUnbind side h pending todo b res.2))
    | _ => none
  | .clientDetachReturn t clientPending =>
    match s.ops t with
    | .beginUnbind side h pending todo b .inClient =>
      let x := s.binding b
      let res := callProviderDetach
        (s.setBinding b (x.setDetach .client ((x.detach .client).returned clientPending)))
        b clientPending
      some (res.1.setOp t (.beginUnbind side h pending todo b res.2))
    | _ => none
  | .providerDetachReturn t providerPending =>
    match s.ops t with
    | .beginUnbind side h pending todo b (.inProvider clientPending) =>
      let x := s.binding b
      some ((s.setBinding b
          (x.setDetach .provider ((x.detach .provider).returned providerPending))).setOp t
        (.beginUnbind side h pending todo b (.commit clientPending providerPending)))
    | _ => none
  | .commit t =>
    match s.ops t with
    | .beginUnbind side h pending todo b (.commit clientPending providerPending) =>
      -- `complete` is computed under the lock, `unbind_complete` takes it again
      let x := (s.binding b).commit clientPending providerPending
      some ((s.setBinding b x).setOp t
        (if x.isComplete then .beginUnbind side h pending todo b .finish
          else .unbinding side h true todo))
    | _ => none
  | .finish t =>
    match s.ops t with
    | .beginUnbind side h pending todo b .finish =>
      some ((unbindComplete s b).setOp t (.unbinding side h pending todo))
    | .detachComplete b => some ((unbindComplete s b).setOp t .idle)
    | _ => none
  | .unbindReturn t =>
    match s.ops t with
    | .unbinding side h true [] =>
      some (((s.emit (.deregistered side h true)).setLife h .pending).setOp t .idle)
    | .unbinding side h false [] => some (s.setOp t (.remove side h .deregister))
    | _ => none
  | .remove t =>
    match s.ops t with
    | .remove side h call =>
      if h ∈ s.collection side then
        -- a wait that times out only waits again
        if (s.registration h).bindingCount > 0 then some (s.setOp t (.blocked side h call))
        else some (eraseRegistration s t side h call)
      else some (throwInvalid s t)
    | _ => none
  | .wake t =>
    match s.ops t with
    | .blocked side h call =>
      if (s.registration h).bindingCount = 0 then some (eraseRegistration s t side h call) else none
    | _ => none
  | .wait t side h =>
    match s.ops t with
    | .idle => some ((s.setLife h (.waiting t)).setOp t (.remove side h .wait))
    | _ => none
  | .detachComplete t side b =>
    match s.ops t with
    | .idle =>
      if b ∈ s.bindings then
        let x := s.binding b
        -- the client's detach is reported by `binding_detach_provider_complete`, and vice versa
        let y := { x with
          status := Function.update x.status side.other .unbindComplete
          detach := Function.update x.detach side
            (if x.detach side = .running then .completedEarly else .done) }
        some (((s.emit (.asserted side b (x.detachStatus side == .unbindPending))).setBinding b
            y).setOp t
          (if x.status side = .unbindComplete then .detachComplete b else .idle))
      else some (throwInvalid s t)
    | _ => none

/-- The binding whose attach callback the thread is inside of, if it may return now. -/
def Op.inAttach : Op → Option BindingId
  | .inClientAttach _ _ b _ => some b
  | _ => none

/-- The binding whose detach callback, of one side, the thread is inside of. -/
def Op.inDetach : Side → Op → Option BindingId
  | .client, .beginUnbind _ _ _ _ b .inClient => some b
  | .provider, .beginUnbind _ _ _ _ b (.inProvider _) => some b
  | _, _ => none

/-- What the callers promise. A handle is deregistered once, after its registration has returned;
its deregistration is waited for once, after it has returned true. The completion of a detach is
called once, after the callback was entered, and the callback then returns `STATUS_PENDING`. -/
def Contract (s : State) : Action → Prop
  | .deregister _ side h => h ∈ s.collection side ∧ s.life h = .registered
  | .wait _ side h => h ∈ s.collection side ∧ s.life h = .pending
  | .detachComplete _ side b =>
    (s.binding b).detach side = .running ∨ (s.binding b).detach side = .pending
  | .clientDetachReturn t pending => ∀ b ∈ (s.ops t).inDetach .client,
    (s.binding b).detach .client = .completedEarly → pending = true
  | .providerDetachReturn t pending => ∀ b ∈ (s.ops t).inDetach .provider,
    (s.binding b).detach .provider = .completedEarly → pending = true
  | _ => True

instance (s : State) (a : Action) : Decidable (Contract s a) :=
  match a with
  | .deregister .. => inferInstanceAs (Decidable (_ ∧ _))
  | .wait .. => inferInstanceAs (Decidable (_ ∧ _))
  | .detachComplete .. => inferInstanceAs (Decidable (_ ∨ _))
  | .clientDetachReturn t pending => inferInstanceAs (Decidable
      (∀ b ∈ (s.ops t).inDetach .client,
        (s.binding b).detach .client = .completedEarly → pending = true))
  | .providerDetachReturn t pending => inferInstanceAs (Decidable
      (∀ b ∈ (s.ops t).inDetach .provider,
        (s.binding b).detach .provider = .completedEarly → pending = true))
  | .register .. | .bindScan _ | .attach _ | .clientAttachProvider .. | .providerAttachReturn ..
  | .attachReturn .. | .registerReturn _ | .unbindScan .. | .beginUnbind _ | .commit _ | .finish _
  | .unbindReturn _ | .remove _ | .wake _ => isTrue trivial

end Usersim.Nmr
