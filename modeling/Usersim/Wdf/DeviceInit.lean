import Usersim.Basic
import Usersim.Wdf.DeviceAdd

/-!
# The contents of devices (`wdf.cpp`)

What the calls of a driver write to an init, and to the device that is created from it: a device
begins with a copy of the init, so `_WdfIoQueueCreate` takes it for one.

The framework here is the state of the drivers with the contents of the objects. A driver is what it
does, as there; a call that returns nothing is one that succeeds. `none` is an access to a null
pointer, to an object that was freed or, if it faults, to what is behind the minor functions.

* `driverCreate_state`, `call_state` — without the contents the calls are those of the drivers
-/

namespace Usersim.Wdf

open Lib

structure UnicodeString where
  length : BitVec 16
  maximumLength : BitVec 16
  buffer : Pointer
deriving DecidableEq, Repr

/-- WDF_IO_QUEUE_CONFIG. -/
structure IoQueueConfig where
  size : BitVec 32
  dispatchType : BitVec 32
  powerManaged : BitVec 32
  allowZeroLengthRequests : BitVec 8
  defaultQueue : BitVec 8
  evtIoDefault : Pointer
  evtIoRead : Pointer
  evtIoWrite : Pointer
  evtIoDeviceControl : Pointer
  evtIoInternalDeviceControl : Pointer
  evtIoStop : Pointer
  evtIoResume : Pointer
  evtIoCanceledOnQueue : Pointer
  numberOfPresentedRequests : BitVec 32
  driver : Pointer
deriving DecidableEq, Repr

/-- IRP_MJ_MAXIMUM_FUNCTION. -/
def irpMjMaximumFunction : Nat := 0x1b

/-- WDFDEVICE_INIT. -/
structure DeviceInit where
  deviceType : BitVec 32
  deviceCharacteristics : BitVec 32
  deviceName : UnicodeString
  fileObjectConfig : Pointer
  fileObjectAttributes : Pointer
  evtDeviceWdmIrpPreprocess : Pointer
  minorFunctions : Fin irpMjMaximumFunction → Pointer
  numMinorFunctions : Fin irpMjMaximumFunction → BitVec 32
  ioQueueConfig : IoQueueConfig

def IoQueueConfig.zero : IoQueueConfig :=
  ⟨0, 0, 0, 0, 0, 0, 0, 0, 0, 0, 0, 0, 0, 0, 0⟩

/-- What is allocated is zero. -/
def DeviceInit.zero : DeviceInit where
  deviceType := 0
  deviceCharacteristics := 0
  deviceName := ⟨0, 0, 0⟩
  fileObjectConfig := 0
  fileObjectAttributes := 0
  evtDeviceWdmIrpPreprocess := 0
  minorFunctions := fun _ => 0
  numMinorFunctions := fun _ => 0
  ioQueueConfig := .zero

def statusInvalidDeviceRequest : Status := 0xC0000010

/-! ## The preprocess callback -/

/-- The arguments for an IRP of a major function. `behind` is what is found in the place of the
major function if that is behind the table. -/
structure Preprocess where
  evtDeviceWdmIrpPreprocess : Pointer
  majorFunction : BitVec 8
  minorFunctions : Pointer
  numMinorFunctions : BitVec 32
  behind : Option Pointer
deriving DecidableEq, Repr

/-- `device_init->minor_functions[major_function]`. -/
def DeviceInit.minorFunctionsAt (c : DeviceInit) (p : Preprocess) : Option Pointer :=
  if h : p.majorFunction.toNat < irpMjMaximumFunction then
    some (c.minorFunctions ⟨p.majorFunction.toNat, h⟩)
  else p.behind

/-- The table is read before the major function is compared with its size. -/
def deviceInitAssignWdmIrpPreprocessCallback (c : DeviceInit) (globals fault : Bool)
    (p : Preprocess) : Option (DeviceInit × Status) :=
  if !globals then some (c, statusInvalidParameter)
  else (c.minorFunctionsAt p).map fun minorFunctions =>
    if minorFunctions ≠ 0 then (c, statusInvalidDeviceRequest)
    else if h : p.majorFunction.toNat < irpMjMaximumFunction then
      if fault then (c, statusInsufficientResources)
      else
        let major := ⟨p.majorFunction.toNat, h⟩
        ({ c with
          evtDeviceWdmIrpPreprocess := p.evtDeviceWdmIrpPreprocess
          minorFunctions := Function.update c.minorFunctions major p.minorFunctions
          numMinorFunctions := Function.update c.numMinorFunctions major p.numMinorFunctions },
          statusSuccess)
    else (c, statusInvalidParameter)

/-! ## The framework -/

structure Framework where
  state : State
  contents : Object → DeviceInit

def Framework.init : Framework where
  state := .init
  contents := fun _ => .zero

/-- A pointer that can be followed. -/
def Framework.deref (f : Framework) (o : Option Object) : Option Object :=
  o.filter fun o => o < f.state.heap.next ∧ o ∉ f.state.heap.freed

def Framework.setContents (f : Framework) (o : Object) (c : DeviceInit) : Framework :=
  { f with contents := Function.update f.contents o c }

@[simp] theorem contents_setContents (f : Framework) (o : Object) (c : DeviceInit) :
    (f.setContents o c).contents o = c :=
  Function.update_self ..

def Framework.write (f : Framework) (o : Option Object) (g : DeviceInit → DeviceInit) :
    Option Framework :=
  (f.deref o).map fun o => f.setContents o (g (f.contents o))

/-- A call of the driver. -/
inductive Call where
  | op (op : Op)
  | setDeviceType (init : InitVar) (deviceType : BitVec 32)
  | setCharacteristics (init : InitVar) (characteristics : BitVec 32) (orInValues : Bool)
  | setFileObjectConfig (init : InitVar) (config attributes : Pointer)
  | assignName (globals fault : Bool) (init : InitVar) (name : Option UnicodeString)
  | assignPreprocess (globals fault : Bool) (init : InitVar) (p : Preprocess)
  | createSymbolicLink (globals fault : Bool)
  /-- WdfIoQueueCreate for the k-th device that was created. -/
  | ioQueueCreate (globals fault : Bool) (k : Nat) (config : IoQueueConfig)
deriving DecidableEq, Repr

variable (f : Framework)

/-- `device_object->init = **device_init`. -/
def Framework.deviceCreate (globals allocated : Bool) (var : InitVar) :
    Option (Framework × Status) :=
  (Wdf.deviceCreate f.state globals allocated var).map fun (s, status) =>
    ({ state := s
       contents := match f.state.locals.init var with
         | some init =>
           if ntSuccess status then
             Function.update f.contents f.state.heap.next (f.contents init)
           else f.contents
         | none => f.contents },
      status)

def Framework.controlDeviceInitAllocate (allocated : Bool) : Framework × Option Object :=
  ({ state := (Wdf.controlDeviceInitAllocate f.state allocated).1
     contents :=
      if allocated then Function.update f.contents f.state.heap.next .zero else f.contents },
    (Wdf.controlDeviceInitAllocate f.state allocated).2)

def Framework.runOp : Op → Option (Framework × Status)
  | .deviceCreate globals allocated var => f.deviceCreate globals allocated var
  | .initAllocate allocated =>
    (Wdf.runOp f.state (.initAllocate allocated)).map fun s =>
      ({ (f.controlDeviceInitAllocate allocated).1 with state := s }, statusSuccess)
  | .initFree k =>
    (Wdf.runOp f.state (.initFree k)).map fun s => ({ f with state := s }, statusSuccess)
  | .objectDelete k =>
    (Wdf.runOp f.state (.objectDelete k)).map fun s => ({ f with state := s }, statusSuccess)

def deviceInitSetDeviceType (init : Option Object) (deviceType : BitVec 32) : Option Framework :=
  f.write init fun c => { c with deviceType := deviceType }

def deviceInitSetCharacteristics (init : Option Object) (characteristics : BitVec 32)
    (orInValues : Bool) : Option Framework :=
  f.write init fun c =>
    { c with
      deviceCharacteristics :=
        (if orInValues then c.deviceCharacteristics else 0) ||| characteristics }

def deviceInitSetFileObjectConfig (init : Option Object) (config attributes : Pointer) :
    Option Framework :=
  f.write init fun c => { c with fileObjectConfig := config, fileObjectAttributes := attributes }

def deviceInitAssignName (globals fault : Bool) (init : Option Object)
    (name : Option UnicodeString) :
    Option (Framework × Status) :=
  if !globals then some (f, statusInvalidParameter)
  else if fault then some (f, statusInsufficientResources)
  else match name with
    | none => some (f, statusSuccess)
    | some name =>
      (f.write init fun c => { c with deviceName := name }).map fun f => (f, statusSuccess)

/-- With other globals the init is not looked at. -/
def Framework.assignPreprocess (globals fault : Bool) (init : Option Object) (p : Preprocess) :
    Option (Framework × Status) :=
  match f.deref init with
  | some o =>
    (deviceInitAssignWdmIrpPreprocessCallback (f.contents o) globals fault p).map
      fun (c, status) => (f.setContents o c, status)
  | none => if globals then none else some (f, statusInvalidParameter)

def deviceCreateSymbolicLink (globals fault : Bool) : Framework × Status :=
  if !globals then (f, statusInvalidParameter)
  else if fault then (f, statusInsufficientResources)
  else (f, statusSuccess)

/-- The queue is configured first. -/
def ioQueueCreate (globals fault : Bool) (device : Option Object) (config : IoQueueConfig) :
    Option (Framework × Status) :=
  (f.write device fun c => { c with ioQueueConfig := config }).map fun f =>
    if !globals then (f, statusInvalidParameter)
    else if fault then (f, statusInsufficientResources)
    else (f, statusSuccess)

def Framework.call : Call → Option (Framework × Status)
  | .op op => f.runOp op
  | .setDeviceType init deviceType =>
    (deviceInitSetDeviceType f (f.state.locals.init init) deviceType).map (·, statusSuccess)
  | .setCharacteristics init characteristics orInValues =>
    (deviceInitSetCharacteristics f (f.state.locals.init init) characteristics orInValues).map
      (·, statusSuccess)
  | .setFileObjectConfig init config attributes =>
    (deviceInitSetFileObjectConfig f (f.state.locals.init init) config attributes).map
      (·, statusSuccess)
  | .assignName globals fault init name =>
    deviceInitAssignName f globals fault (f.state.locals.init init) name
  | .assignPreprocess globals fault init p =>
    f.assignPreprocess globals fault (f.state.locals.init init) p
  | .createSymbolicLink globals fault => some (deviceCreateSymbolicLink f globals fault)
  | .ioQueueCreate globals fault k config =>
    ioQueueCreate f globals fault f.state.locals.created[k]? config

def runCall (c : Call) : Option Framework := (f.call c).map Prod.fst

/-! ## `_WdfDriverCreate` -/

/-- What EvtDriverDeviceAdd does, and what it returns. -/
structure AddCalls where
  calls : List Call
  status : Status
deriving DecidableEq, Repr

def Call.toOp : Call → Option Op
  | .op o => some o
  | .setDeviceType .. | .setCharacteristics .. | .setFileObjectConfig .. | .assignName .. => none
  | .assignPreprocess .. | .createSymbolicLink .. | .ioQueueCreate .. => none

/-- Without what it does to the contents. -/
def AddCalls.deviceAdd (add : AddCalls) : DeviceAdd where
  ops := add.calls.filterMap Call.toOp
  status := add.status

/-- WDF_DRIVER_CONFIG. -/
structure AddConfig where
  evtDriverDeviceAdd : Option AddCalls
  evtDriverUnload : Option (List Op)
deriving DecidableEq, Repr

def AddConfig.config (config : AddConfig) : DriverConfig where
  evtDriverDeviceAdd := config.evtDriverDeviceAdd.map AddCalls.deviceAdd
  evtDriverUnload := config.evtDriverUnload

/-- The global slot and the configuration are stored. -/
def Framework.setDriver (id : DriverId) (config : AddConfig) : Framework :=
  { f with
    state := { f.state with
      driver := some id
      drivers := Function.update f.state.drivers id
        { f.state.drivers id with config := config.config } } }

def Framework.give (init : Option Object) : Framework :=
  { f with state := { f.state with locals := { f.state.locals with given := init } } }

def Framework.driverCreate (id : DriverId) (globals allocated : Bool) (config : AddConfig) :
    Option (Framework × Status) :=
  if !globals then some (f, statusInvalidParameter)
  else if f.state.driver.isSome then some (f, statusDriverInternalError)
  else
    let originalDeviceCount := (f.state.devices id).length
    let f := f.setDriver id config
    match config.evtDriverDeviceAdd with
    | none => some (f, statusSuccess)
    | some add =>
      match f.controlDeviceInitAllocate allocated with
      | (f, none) => some (f, statusNoMemory)
      | (f, some init) =>
        (exec runCall (f.give (some init)) add.calls).map fun f =>
          ({ f with state := afterDeviceAdd id originalDeviceCount init add.status f.state },
            add.status)

/-! ## Without the contents -/

variable {f : Framework} {f' : Framework} {status : Status}

theorem write_state {o : Option Object} {g : DeviceInit → DeviceInit} (h : f.write o g = some f') :
    f'.state = f.state := by
  obtain ⟨_, -, rfl⟩ := Option.map_eq_some_iff.mp h
  rfl

theorem deviceCreate_state {globals allocated : Bool} {var : InitVar}
    (h : f.deviceCreate globals allocated var = some (f', status)) :
    Wdf.deviceCreate f.state globals allocated var = some (f'.state, status) := by
  obtain ⟨⟨s, status'⟩, hs, hresult⟩ := Option.map_eq_some_iff.mp h
  cases hresult
  exact hs

theorem runOp_state {op : Op} (h : f.runOp op = some (f', status)) :
    Wdf.runOp f.state op = some f'.state := by
  cases op with
  | deviceCreate globals allocated var =>
    rw [Framework.runOp] at h
    rw [Wdf.runOp, deviceCreate_state h]
    rfl
  | initAllocate allocated | initFree k | objectDelete k =>
    rw [Framework.runOp] at h
    obtain ⟨s, hs, hresult⟩ := Option.map_eq_some_iff.mp h
    cases hresult
    exact hs

theorem deviceInitAssignName_cases {globals fault : Bool} {o : Option Object}
    {name : Option UnicodeString}
    (h : deviceInitAssignName f globals fault o name = some (f', status)) :
    f' = f ∨ status = statusSuccess ∧ ∃ g, f.write o g = some f' := by
  unfold deviceInitAssignName at h
  split at h
  · cases h
    exact .inl rfl
  · split at h
    · cases h
      exact .inl rfl
    · cases name with
      | none =>
        cases h
        exact .inl rfl
      | some name =>
        obtain ⟨f₁, hf₁, hresult⟩ := Option.map_eq_some_iff.mp h
        cases hresult
        exact .inr ⟨rfl, _, hf₁⟩

theorem assignPreprocess_state {globals fault : Bool} {o : Option Object} {p : Preprocess}
    (h : f.assignPreprocess globals fault o p = some (f', status)) : f'.state = f.state := by
  unfold Framework.assignPreprocess at h
  split at h
  · obtain ⟨⟨c, status'⟩, -, hresult⟩ := Option.map_eq_some_iff.mp h
    cases hresult
    rfl
  · split at h
    · cases h
    · cases h
      rfl

theorem ioQueueCreate_state {globals fault : Bool} {o : Option Object} {config : IoQueueConfig}
    (h : ioQueueCreate f globals fault o config = some (f', status)) : f'.state = f.state := by
  obtain ⟨f₁, hf₁, hresult⟩ := Option.map_eq_some_iff.mp h
  rw [← write_state hf₁]
  cases globals <;> cases fault <;> cases hresult <;> rfl

/-- A call that is none of the drivers' leaves their state alone. -/
theorem call_state {c : Call} (h : f.call c = some (f', status)) :
    match c.toOp with
    | some op => Wdf.runOp f.state op = some f'.state
    | none => f'.state = f.state := by
  cases c with
  | op op => exact runOp_state h
  | setDeviceType | setCharacteristics | setFileObjectConfig =>
    rw [Framework.call] at h
    obtain ⟨f₁, hf₁, hresult⟩ := Option.map_eq_some_iff.mp h
    cases hresult
    exact write_state hf₁
  | assignName =>
    rcases deviceInitAssignName_cases h with rfl | ⟨-, g, hg⟩
    · rfl
    · exact write_state hg
  | assignPreprocess => exact assignPreprocess_state h
  | createSymbolicLink globals fault =>
    cases globals <;> cases fault <;> cases h <;> rfl
  | ioQueueCreate => exact ioQueueCreate_state h

/-- What a driver does to its state is what it does without the contents. -/
theorem runCalls_state {calls : List Call} (h : exec runCall f calls = some f') :
    exec Wdf.runOp f.state (calls.filterMap Call.toOp) = some f'.state := by
  induction calls generalizing f with
  | nil =>
    cases h
    rfl
  | cons c calls ih =>
    obtain ⟨f₁, hf₁, hrest⟩ := exec_cons_eq_some.mp h
    obtain ⟨⟨f₂, status⟩, hcall, rfl⟩ := Option.map_eq_some_iff.mp hf₁
    have hstate := call_state hcall
    cases hop : c.toOp with
    | none =>
      rw [hop] at hstate
      rw [List.filterMap_cons_none hop, ← hstate]
      exact ih hrest
    | some op =>
      rw [hop] at hstate
      rw [List.filterMap_cons_some hop]
      exact exec_cons_eq_some.mpr ⟨f₂.state, hstate, ih hrest⟩

theorem driverCreate_state {id : DriverId} {globals allocated : Bool} {config : AddConfig}
    (h : f.driverCreate id globals allocated config = some (f', status)) :
    Wdf.driverCreate f.state id globals allocated config.config = some (f'.state, status) := by
  unfold Framework.driverCreate at h
  cases globals with
  | false =>
    cases h
    rfl
  | true =>
    rw [if_neg (by decide)] at h
    by_cases hdriver : f.state.driver.isSome = true
    · rw [if_pos hdriver] at h
      cases h
      exact if_pos hdriver
    · rw [if_neg hdriver] at h
      obtain ⟨evtDriverDeviceAdd, evtDriverUnload⟩ := config
      cases evtDriverDeviceAdd with
      | none =>
        cases h
        exact if_neg hdriver
      | some add =>
        cases allocated with
        | false =>
          cases h
          exact if_neg hdriver
        | true =>
          obtain ⟨f₁, hf₁, hresult⟩ := Option.map_eq_some_iff.mp h
          cases hresult
          rw [Option.not_isSome_iff_eq_none] at hdriver
          have hadd : (AddConfig.mk (some add) evtDriverUnload).config.evtDriverDeviceAdd =
              some add.deviceAdd := rfl
          rw [driverCreate_eq hdriver hadd]
          exact Option.map_eq_some_iff.mpr ⟨f₁.state, runCalls_state hf₁, rfl⟩

end Usersim.Wdf
