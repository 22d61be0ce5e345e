import Mathlib.Logic.Function.Basic
import Usersim.Lib.Run

/-!
# Drivers and their devices (`wdf.cpp`, `dll_skeleton.cpp`)

`_WdfDriverCreate` stores the driver object of the calling module in the global slot, and calls
EvtDriverDeviceAdd at once with a WDFDEVICE_INIT of its own. `_WdfDeviceCreate` frees the init it is
given and nulls the caller's pointer to it; the device goes to the back of the driver's vector.

Objects are numbered in the order of their allocation, and `freed` has an entry for each time one
was freed. A driver is what it does with its variables: the parameter of EvtDriverDeviceAdd, the
inits it allocated and the devices it created. A variable that was never set is null. `none` is an
access to a null pointer or to an init that was freed.
-/

namespace Usersim.Wdf

open Lib

abbrev Object := Nat

abbrev DriverId := Nat

abbrev Status := BitVec 32

/-- `NT_SUCCESS`. -/
def ntSuccess (status : Status) : Bool := 0 ≤ status.toInt

def statusSuccess : Status := 0
def statusInvalidParameter : Status := 0xC000000D
def statusNoMemory : Status := 0xC0000017
def statusInsufficientResources : Status := 0xC000009A
def statusDriverInternalError : Status := 0xC0000183

/-! ## Objects -/

inductive Kind where
  | deviceInit
  | device
deriving DecidableEq, Repr

structure Heap where
  kinds : List Kind
  /-- The latest first. -/
  freed : List Object
deriving DecidableEq, Repr

/-- The number of the next object. -/
def Heap.next (h : Heap) : Object := h.kinds.length

def Heap.isDevice (h : Heap) (o : Object) : Prop := h.kinds[o]? = some .device

instance (h : Heap) (o : Object) : Decidable (h.isDevice o) :=
  inferInstanceAs (Decidable (_ = _))

def Heap.allocate (h : Heap) (kind : Kind) : Heap :=
  { h with kinds := h.kinds ++ [kind] }

/-- `cxplat_free`; a null pointer is ignored. -/
def Heap.free (h : Heap) : Option Object → Heap
  | none => h
  | some o => { h with freed := o :: h.freed }

/-! ## Drivers -/

/-- A variable of the driver that holds an init. -/
inductive InitVar where
  /-- The parameter of EvtDriverDeviceAdd. -/
  | given
  /-- What the k-th WdfControlDeviceInitAllocate returned. -/
  | own (k : Nat)
deriving DecidableEq, Repr

/-- A call of the framework. -/
inductive Op where
  /-- WdfDeviceCreate, and whether the globals are right and the device can be allocated. -/
  | deviceCreate (globals allocated : Bool) (init : InitVar)
  | initAllocate (allocated : Bool)
  | initFree (k : Nat)
  /-- WdfObjectDelete of the k-th device that was created. -/
  | objectDelete (k : Nat)
deriving DecidableEq, Repr

structure DeviceAdd where
  ops : List Op
  status : Status
deriving DecidableEq, Repr

/-- WDF_DRIVER_CONFIG. -/
structure DriverConfig where
  evtDriverDeviceAdd : Option DeviceAdd
  evtDriverUnload : Option (List Op)
deriving DecidableEq, Repr

/-- DRIVER_OBJECT. -/
structure DriverObject where
  config : DriverConfig
  devices : List Object
deriving DecidableEq, Repr

/-- The variables of the module. -/
structure Locals where
  given : Option Object
  own : List (Option Object)
  created : List Object
deriving DecidableEq, Repr

def Locals.empty : Locals where
  given := none
  own := []
  created := []

def Locals.init (l : Locals) : InitVar → Option Object
  | .given => l.given
  | .own k => (l.own[k]?).join

/-- `*device_init = nullptr`. -/
def Locals.setNull (l : Locals) : InitVar → Locals
  | .given => { l with given := none }
  | .own k => { l with own := l.own.set k none }

structure State where
  heap : Heap
  /-- `g_UsersimWdfDriverGlobals.Driver`. -/
  driver : Option DriverId
  drivers : DriverId → DriverObject
  locals : Locals
  /-- The calls of EvtDriverUnload. -/
  unloads : List DriverId

/-- DRIVER_OBJECT of a module that has just been loaded. -/
def DriverObject.zero : DriverObject where
  config := { evtDriverDeviceAdd := none, evtDriverUnload := none }
  devices := []

def State.init : State where
  heap := { kinds := [], freed := [] }
  driver := none
  drivers := fun _ => .zero
  locals := .empty
  unloads := []

def State.devices (s : State) (id : DriverId) : List Object :=
  (s.drivers id).devices

def State.setDevices (s : State) (id : DriverId) (devices : List Object) : State :=
  { s with drivers := Function.update s.drivers id { s.drivers id with devices := devices } }

/-! ## The framework -/

/-- The device is in the vector before the init is read. -/
def deviceCreate (s : State) (globals allocated : Bool) (var : InitVar) : Option (State × Status) :=
  if !globals then some (s, statusInvalidParameter)
  else if !allocated then some (s, statusInsufficientResources)
  else match s.driver, s.locals.init var with
    | some id, some init =>
      if init ∈ s.heap.freed then none
      else
        let device := s.heap.next
        let s := s.setDevices id (s.devices id ++ [device])
        some ({ s with
          heap := (s.heap.allocate .device).free (some init)
          locals := { s.locals.setNull var with created := s.locals.created ++ [device] } },
          statusSuccess)
    | _, _ => none

def controlDeviceInitAllocate (s : State) (allocated : Bool) : State × Option Object :=
  if allocated then ({ s with heap := s.heap.allocate .deviceInit }, some s.heap.next)
  else (s, none)

def deviceInitFree (s : State) (init : Option Object) : State :=
  { s with heap := s.heap.free init }

/-- Without a driver the object is just freed. -/
def objectDelete (s : State) (object : Option Object) : State :=
  let s := match s.driver, object with
    | some id, some o => s.setDevices id ((s.devices id).erase o)
    | _, _ => s
  { s with heap := s.heap.free object }

def runOp (s : State) : Op → Option State
  | .deviceCreate globals allocated init => (deviceCreate s globals allocated init).map Prod.fst
  | .initAllocate allocated =>
    let (s, init) := controlDeviceInitAllocate s allocated
    some { s with locals := { s.locals with own := s.locals.own ++ [init] } }
  | .initFree k => some (deviceInitFree s (s.locals.init (.own k)))
  | .objectDelete k => some (objectDelete s s.locals.created[k]?)

/-- `while (devices.size() > n)`; the first argument bounds the number of rounds. -/
def deleteDownTo (id : DriverId) (n : Nat) : Nat → State → State
  | 0, s => s
  | rounds + 1, s =>
    if n < (s.devices id).length then
      deleteDownTo id n rounds (objectDelete s (s.devices id).getLast?)
    else s

def driverCreate (s : State) (id : DriverId) (globals allocated : Bool) (config : DriverConfig) :
    Option (State × Status) :=
  if !globals then some (s, statusInvalidParameter)
  else if s.driver.isSome then some (s, statusDriverInternalError)
  else
    let s := { s with
      driver := some id
      drivers := Function.update s.drivers id { s.drivers id with config := config } }
    match config.evtDriverDeviceAdd with
    | none => some (s, statusSuccess)
    | some deviceAdd =>
      match controlDeviceInitAllocate s allocated with
      | (s, none) => some (s, statusNoMemory)
      | (s, some init) => do
        let originalDeviceCount := (s.devices id).length
        let s := { s with locals := { s.locals with given := some init } }
        let s ← exec runOp s deviceAdd.ops
        let s := { s with locals := { s.locals with given := none } }
        if ntSuccess deviceAdd.status then return (s, deviceAdd.status)
        else if originalDeviceCount < (s.devices id).length then
          return (deleteDownTo id originalDeviceCount (s.devices id).length s, deviceAdd.status)
        else return (deviceInitFree s (some init), deviceAdd.status)

/-! ## The DLL skeleton -/

/-- A call of DriverEntry. -/
inductive EntryOp where
  | device (op : Op)
  | driverCreate (globals allocated : Bool) (config : DriverConfig)
deriving DecidableEq, Repr

/-- The calls DriverEntry makes, and what it returns. -/
structure Driver where
  entry : List EntryOp
  status : Status
deriving DecidableEq, Repr

/-- A driver module that is loaded; `id` is its static DRIVER_OBJECT. -/
structure Load where
  id : DriverId
  driver : Driver
deriving DecidableEq, Repr

def runEntryOp (id : DriverId) (s : State) : EntryOp → Option State
  | .device op => runOp s op
  | .driverCreate globals allocated config =>
    (driverCreate s id globals allocated config).map Prod.fst

def startDriver (s : State) (id : DriverId) (driver : Driver) : Option (State × Status) := do
  let s ← exec (runEntryOp id) s driver.entry
  return (s, driver.status)

/-- `driver` is not compared with null. -/
def stopDriver (s : State) : Option State :=
  match s.driver with
  | none => none
  | some id => do
    let s ← match (s.drivers id).config.evtDriverUnload with
      | some ops => exec runOp { s with unloads := id :: s.unloads } ops
      | none => some s
    let s := deleteDownTo id 0 (s.devices id).length s
    return { s with driver := none }

/-- The loader maps the data of the module. -/
def State.mapModule (s : State) (id : DriverId) : State :=
  { s with drivers := Function.update s.drivers id .zero, locals := .empty }

/-- `DllMain` for DLL_PROCESS_ATTACH. -/
def attach (s : State) (l : Load) : Option (State × Bool) := do
  let (s, status) ← startDriver (s.mapModule l.id) l.id l.driver
  return (s, ntSuccess status)

/-- The module is loaded and unloaded; DLL_PROCESS_DETACH comes whatever the attach returned. -/
def session (s : State) (l : Load) : Option State := do
  let (s, _) ← attach s l
  stopDriver s

end Usersim.Wdf
