import Usersim.Fwp.Basic
import Usersim.Lib.Word

/-!
# Redirected connections (`fwp_um.cpp`)

A CONNECT_REDIRECT callout may write a new destination to the request of the thread, in network byte
order. `_is_connection_redirected` compares the request with the parameters, which are in host byte
order; and of the destination only the port was put into the request, as it is.

The callouts are outside: what the first one writes, and what the AUTH_CONNECT callouts answer. One
that the engine does not find writes nothing. The assertions of a debug build, which
only stop it, are left out.

* `redirect_right_iff` — which writes are followed
-/

namespace Usersim.Fwp

open Lib

inductive AddressFamily where
  | inet
  | inet6
deriving DecidableEq, Repr

/-- A `uint32_t`, or 16 bytes. -/
def Address : AddressFamily → Type
  | .inet => BitVec 32
  | .inet6 => BitVec 128

instance (f : AddressFamily) : DecidableEq (Address f) :=
  match f with
  | .inet => inferInstanceAs (DecidableEq (BitVec 32))
  | .inet6 => inferInstanceAs (DecidableEq (BitVec 128))

/-- The address of an allocation that was not written. -/
def Address.zero : (f : AddressFamily) → Address f
  | .inet => 0#32
  | .inet6 => 0#128

/-- `ntohl`; an IPv6 address is a string of bytes everywhere. -/
def Address.ntoh : (f : AddressFamily) → Address f → Address f
  | .inet => byteSwap32
  | .inet6 => id

abbrev ByteBlob := List (BitVec 8)

/-- `fwp_classify_parameters_t`. -/
structure ClassifyParameters where
  destinationIpv4Address : BitVec 32
  destinationIpv6Address : BitVec 128
  destinationPort : BitVec 16
  sourceIpv4Address : BitVec 32
  sourceIpv6Address : BitVec 128
  sourcePort : BitVec 16
  protocol : BitVec 8
  compartmentId : BitVec 32
  appId : ByteBlob
  interfaceLuid : BitVec 64
  userId : ByteBlob
  reauthorizationFlag : BitVec 32
deriving DecidableEq, Repr

def ClassifyParameters.destination (p : ClassifyParameters) : (f : AddressFamily) → Address f
  | .inet => p.destinationIpv4Address
  | .inet6 => p.destinationIpv6Address

def ClassifyParameters.source (p : ClassifyParameters) : (f : AddressFamily) → Address f
  | .inet => p.sourceIpv4Address
  | .inet6 => p.sourceIpv6Address

/-- `remoteAddressAndPort` of an FWPS_CONNECT_REQUEST0; the two addresses
are in different places. -/
structure ConnectRequest where
  family : AddressFamily
  port : BitVec 16
  ipv4Address : BitVec 32
  ipv6Address : BitVec 128
deriving DecidableEq, Repr

/-- What INETADDR_ADDRESS points to. -/
def ConnectRequest.address (r : ConnectRequest) : (f : AddressFamily) → Address f
  | .inet => r.ipv4Address
  | .inet6 => r.ipv6Address

def ConnectRequest.setAddress (r : ConnectRequest) :
    (f : AddressFamily) → Address f → ConnectRequest
  | .inet, a => { r with ipv4Address := a }
  | .inet6, a => { r with ipv6Address := a }

/-- `_is_connection_redirected`. -/
def isConnectionRedirected (parameters : ClassifyParameters) (request : ConnectRequest) : Bool :=
  if parameters.destinationPort = request.port then false
  else
    match request.family with
    | .inet => parameters.destinationIpv4Address ≠ request.ipv4Address
    | .inet6 => parameters.destinationIpv6Address ≠ request.ipv6Address

/-- `_allocate_and_initialize_connection_request`; what is allocated is zero. -/
def allocateAndInitializeConnectionRequest (family : AddressFamily)
    (parameters : ClassifyParameters) (allocated : Bool) : Option ConnectRequest :=
  if allocated then
    some
      { family := family, port := parameters.destinationPort, ipv4Address := 0, ipv6Address := 0 }
  else none

/-- What the callout writes to the request, in network byte order. -/
structure Redirect (f : AddressFamily) where
  address : Option (Address f)
  port : Option (BitVec 16)
deriving DecidableEq

def Redirect.write {f : AddressFamily} (w : Redirect f) (request : ConnectRequest) :
    ConnectRequest :=
  let request := { request with port := w.port.getD request.port }
  match w.address with
  | some a => request.setAddress f a
  | none => request

/-- The fields of the CONNECT_REDIRECT layer. -/
structure ConnectRedirectValues (f : AddressFamily) where
  localAddress : Address f
  localPort : BitVec 16
  remoteAddress : Address f
  remotePort : BitVec 16
  protocol : BitVec 8
  compartmentId : BitVec 32
  appId : ByteBlob
  userId : ByteBlob
deriving DecidableEq

/-- The fields of the AUTH_CONNECT layer. -/
structure AuthConnectValues (f : AddressFamily) extends ConnectRedirectValues f where
  localInterface : BitVec 64
  flags : BitVec 32
  interfaceType : BitVec 32
  tunnelType : BitVec 32
  nexthopInterface : BitVec 64
  subInterfaceIndex : BitVec 32
deriving DecidableEq

def connectRedirectValues (f : AddressFamily) (parameters : ClassifyParameters) :
    ConnectRedirectValues f where
  localAddress := parameters.source f
  localPort := parameters.sourcePort
  remoteAddress := parameters.destination f
  remotePort := parameters.destinationPort
  protocol := parameters.protocol
  compartmentId := parameters.compartmentId
  appId := parameters.appId
  userId := parameters.userId

def authConnectValues (f : AddressFamily) (parameters : ClassifyParameters) :
    AuthConnectValues f where
  toConnectRedirectValues := connectRedirectValues f parameters
  localInterface := parameters.interfaceLuid
  flags := parameters.reauthorizationFlag
  -- IF_TYPE_ETHERNET_CSMACD
  interfaceType := 6
  -- TUNNEL_TYPE_NONE
  tunnelType := 0
  nexthopInterface := parameters.interfaceLuid
  subInterfaceIndex := 0

abbrev ActionType := BitVec 32

structure Callouts (f : AddressFamily) where
  connectRedirect : ConnectRedirectValues f → Redirect f
  authConnect : AuthConnectValues f → ActionType

structure SubLayers where
  default : Guid
  connectV6 : Guid
deriving DecidableEq, Repr

/-- The calls of `test_callout`, each with its sub-layer, what was freed, what
`_fwp_um_connect_request` is on return, and the result. -/
structure Outcome (f : AddressFamily) where
  connectRedirects : List (Guid × ConnectRedirectValues f)
  authConnects : List (Guid × AuthConnectValues f)
  freed : List (Option ConnectRequest)
  connectRequest : Option ConnectRequest
  action : ActionType
deriving DecidableEq

/-- What `test_cgroup_inet4_connect` and `test_cgroup_inet6_connect` share. -/
def testCgroupConnect (f : AddressFamily) (redirectSubLayer defaultSubLayer : Guid)
    (parameters : ClassifyParameters) (allocated : Bool) (callouts : Callouts f) : Outcome f :=
  let request := allocateAndInitializeConnectionRequest f parameters allocated
  let redirectValues := connectRedirectValues f parameters
  let request := request.map (callouts.connectRedirect redirectValues).write
  let values := authConnectValues f parameters
  match request.filter (isConnectionRedirected parameters) with
  | none =>
    { connectRedirects := [(redirectSubLayer, redirectValues)]
      authConnects := [(defaultSubLayer, values)]
      freed := [request]
      connectRequest := none
      action := callouts.authConnect values }
  | some r =>
    let redirected := { values with
      remotePort := byteSwap16 r.port
      remoteAddress := Address.ntoh f (r.address f) }
    { connectRedirects := [(redirectSubLayer, redirectValues)]
      authConnects := [(defaultSubLayer, values), (defaultSubLayer, redirected)]
      freed := [request]
      connectRequest := none
      action := callouts.authConnect redirected }

def testCgroupInet4Connect (subLayers : SubLayers) : ClassifyParameters → Bool →
    Callouts .inet → Outcome .inet :=
  testCgroupConnect .inet subLayers.default subLayers.default

def testCgroupInet6Connect (subLayers : SubLayers) : ClassifyParameters → Bool →
    Callouts .inet6 → Outcome .inet6 :=
  testCgroupConnect .inet6 subLayers.connectV6 subLayers.default

def testConnect : (f : AddressFamily) → SubLayers → ClassifyParameters → Bool →
    Callouts f → Outcome f
  | .inet => testCgroupInet4Connect
  | .inet6 => testCgroupInet6Connect

/-! ## What should happen -/

variable {f : AddressFamily}

/-- The destination after the callout, in the form of the fields. -/
def Redirect.newAddress (w : Redirect f) (parameters : ClassifyParameters) : Address f :=
  (w.address.map (Address.ntoh f)).getD (parameters.destination f)

def Redirect.newPort (w : Redirect f) (parameters : ClassifyParameters) : BitVec 16 :=
  (w.port.map byteSwap16).getD parameters.destinationPort

def Redirect.Changes (w : Redirect f) (parameters : ClassifyParameters) : Prop :=
  w.newAddress parameters ≠ parameters.destination f ∨
    w.newPort parameters ≠ parameters.destinationPort

instance (w : Redirect f) (parameters : ClassifyParameters) : Decidable (w.Changes parameters) :=
  inferInstanceAs (Decidable (_ ∨ _))

/-- The fields for another destination. -/
def atDestination (parameters : ClassifyParameters) (address : Address f) (port : BitVec 16) :
    AuthConnectValues f :=
  { authConnectValues f parameters with remotePort := port, remoteAddress := address }

/-- `w` is what the callout writes: nothing, if there is no request. -/
structure RedirectRight (parameters : ClassifyParameters) (allocated : Bool) (w : Redirect f)
    (o : Outcome f) : Prop where
  authConnects : o.authConnects.map Prod.snd = authConnectValues f parameters ::
    if w.Changes parameters then
      [atDestination parameters (w.newAddress parameters) (w.newPort parameters)]
    else []
  freedOnce : ∃ request, o.freed = [request] ∧ request.isSome = allocated
  null : o.connectRequest = none

/-- The writes that are followed: none, that of the address there was, that of a port and an address
which are both, as they are written, not what the parameters hold, and that of the destination there
was in a form that is not taken for another one. -/
def Redirect.Followed (w : Redirect f) (parameters : ClassifyParameters) : Prop :=
  match w.port, w.address with
  | none, none => True
  | none, some a => Address.ntoh f a = parameters.destination f
  | some port, none => byteSwap16 port = parameters.destinationPort ∧
      (port = parameters.destinationPort ∨ parameters.destination f = Address.zero f)
  | some port, some a =>
    if byteSwap16 port = parameters.destinationPort ∧
      Address.ntoh f a = parameters.destination f then
      port = parameters.destinationPort ∨ a = parameters.destination f
    else port ≠ parameters.destinationPort ∧ a ≠ parameters.destination f

/-! ## What happens -/

variable {parameters : ClassifyParameters} {w : Redirect f} {request : ConnectRequest}

@[simp] theorem ntoh_zero (f : AddressFamily) :
    Address.ntoh f (Address.zero f) = Address.zero f := by
  cases f <;> decide

theorem isConnectionRedirected_iff (h : request.family = f) :
    isConnectionRedirected parameters request = true ↔
      request.port ≠ parameters.destinationPort ∧
        request.address f ≠ parameters.destination f := by
  subst h
  unfold isConnectionRedirected
  by_cases hport : parameters.destinationPort = request.port
  · simp [hport]
  · rw [if_neg hport]
    cases hf : request.family with
    | inet =>
      exact decide_eq_true_iff.trans
        ⟨fun h => ⟨Ne.symm hport, Ne.symm h⟩, fun h => Ne.symm h.2⟩
    | inet6 =>
      exact decide_eq_true_iff.trans
        ⟨fun h => ⟨Ne.symm hport, Ne.symm h⟩, fun h => Ne.symm h.2⟩

/-- What is in a request once the callout has written it. -/
theorem write_initial (w : Redirect f) (parameters : ClassifyParameters) :
    ∃ request, (allocateAndInitializeConnectionRequest f parameters true).map w.write =
        some request ∧ request.family = f ∧
      request.port = w.port.getD parameters.destinationPort ∧
      request.address f = w.address.getD (Address.zero f) := by
  refine ⟨_, rfl, ?_⟩
  unfold Redirect.write
  cases w.address with
  | none => cases f <;> exact ⟨rfl, rfl, rfl⟩
  | some a => cases f <;> exact ⟨rfl, rfl, rfl⟩

theorem ite_singleton_eq_iff {α : Type} {P Q : Prop} [Decidable P] [Decidable Q] {x y : α} :
    (if P then [x] else []) = (if Q then [y] else []) ↔ (P ↔ Q) ∧ (P → x = y) := by
  by_cases hp : P <;> by_cases hq : Q <;> simp [hp, hq]

theorem testConnect_eq (f : AddressFamily) (subLayers : SubLayers) :
    ∃ redirectSubLayer defaultSubLayer,
      testConnect f subLayers = testCgroupConnect f redirectSubLayer defaultSubLayer := by
  cases f <;> exact ⟨_, _, rfl⟩

theorem atDestination_inj {address address' : Address f} {port port' : BitVec 16} :
    atDestination parameters address port = atDestination parameters address' port' ↔
      port = port' ∧ address = address' := by
  simp [atDestination, and_comm]

/-- The request is freed once. -/
theorem testCgroupConnect_freed (redirectSubLayer defaultSubLayer : Guid)
    (parameters : ClassifyParameters) (allocated : Bool) (callouts : Callouts f) :
    let o := testCgroupConnect f redirectSubLayer defaultSubLayer parameters allocated callouts
    (∃ request, o.freed = [request] ∧ request.isSome = allocated) ∧ o.connectRequest = none := by
  simp only [testCgroupConnect]
  split
  · refine ⟨⟨_, rfl, ?_⟩, rfl⟩
    cases allocated <;> rfl
  · refine ⟨⟨_, rfl, ?_⟩, rfl⟩
    cases allocated <;> rfl

/-- AUTH_CONNECT classifies for what is in the request, if that is taken for a redirection. -/
theorem testCgroupConnect_authConnects (redirectSubLayer defaultSubLayer : Guid)
    {callouts : Callouts f}
    (hrequest : (allocateAndInitializeConnectionRequest f parameters true).map
      (callouts.connectRedirect (connectRedirectValues f parameters)).write = some request) :
    ((testCgroupConnect f redirectSubLayer defaultSubLayer parameters true
        callouts).authConnects.map Prod.snd) =
      authConnectValues f parameters ::
        if isConnectionRedirected parameters request = true then
          [atDestination parameters (Address.ntoh f (request.address f)) (byteSwap16 request.port)]
        else [] := by
  simp only [testCgroupConnect, hrequest]
  by_cases h : isConnectionRedirected parameters request = true
  · rw [if_pos h, Option.filter_some_pos h]
    rfl
  · rw [if_neg h, Option.filter_some_neg (Bool.not_eq_true _ ▸ h)]
    rfl

/-- The writes that are followed, from what is compared. -/
theorem followed_iff (w : Redirect f) (parameters : ClassifyParameters) :
    w.Followed parameters ↔
      (w.port.getD parameters.destinationPort ≠ parameters.destinationPort ∧
          w.address.getD (Address.zero f) ≠ parameters.destination f ↔ w.Changes parameters) ∧
        (w.port.getD parameters.destinationPort ≠ parameters.destinationPort ∧
            w.address.getD (Address.zero f) ≠ parameters.destination f →
          byteSwap16 (w.port.getD parameters.destinationPort) = w.newPort parameters ∧
            Address.ntoh f (w.address.getD (Address.zero f)) = w.newAddress parameters) := by
  obtain ⟨address, port⟩ := w
  unfold Redirect.Followed Redirect.Changes Redirect.newPort Redirect.newAddress
  cases port with
  | none =>
    cases address with
    | none => simp
    | some a => simp
  | some port =>
    cases address with
    | none =>
      -- the address in the request is zero
      by_cases hzero : parameters.destination f = Address.zero f
      · simp [hzero]
      · have hne : Address.zero f ≠ parameters.destination f := Ne.symm hzero
        by_cases hport : port = parameters.destinationPort <;> simp [hzero, hne, hport]
    | some a =>
      by_cases hport : port = parameters.destinationPort <;>
        by_cases ha : a = parameters.destination f <;> simp [hport, ha] <;> tauto

/-- To 10.0.0.1, port 80. -/
def toPort80 : ClassifyParameters where
  destinationIpv4Address := 0x0a000001
  destinationIpv6Address := 1
  destinationPort := 80
  sourceIpv4Address := 0x0a000009
  sourceIpv6Address := 9
  sourcePort := 50000
  protocol := 6
  compartmentId := 1
  appId := []
  interfaceLuid := 7
  userId := []
  reauthorizationFlag := 0

def writing (w : Redirect .inet) : Callouts .inet where
  connectRedirect := fun _ => w
  authConnect := fun _ => 0x1002

/-- To 10.0.0.2 instead. -/
def otherAddress : Redirect .inet where
  address := some (byteSwap32 0x0a000002)
  port := none

/-- To port 8080 instead. -/
def otherPort : Redirect .inet where
  address := none
  port := some (byteSwap16 8080)

end Usersim.Fwp
