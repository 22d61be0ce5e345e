import Usersim.Wdf.DeviceInit
import Usersim.Wdf.Session

/-!
# Calls that fail (`wdf.cpp`)

Most functions of the framework check before they write. `_WdfDriverCreate` has stored the driver
when it allocates the init and calls EvtDriverDeviceAdd, and `_WdfIoQueueCreate` has configured the
queue when it looks at the globals.

* `call_failed` — a call that fails leaves everything as it was, unless it creates a queue
* `atomic_iff` — which calls leave everything as it was if they fail
-/

namespace Usersim.Wdf

open Lib

inductive Operation where
  | driverCreate (id : DriverId) (globals allocated : Bool) (config : AddConfig)
  | call (c : Call)
deriving DecidableEq, Repr

def Framework.operation (f : Framework) : Operation → Option (Framework × Status)
  | .driverCreate id globals allocated config => f.driverCreate id globals allocated config
  | .call c => f.call c

/-- The global slot, the drivers with their devices, and the contents of what was allocated. -/
structure Unchanged (f f' : Framework) : Prop where
  globals : f'.state.driver = f.state.driver
  config : ∀ id, (f'.state.drivers id).config = (f.state.drivers id).config
  devices : ∀ id, f'.state.devices id = f.state.devices id
  contents : ∀ o, o < f.state.heap.next → f'.contents o = f.contents o

def Atomic (f : Framework) (op : Operation) : Prop :=
  ∀ f' status, f.operation op = some (f', status) → ntSuccess status = false → Unchanged f f'

/-- The state in which EvtDriverDeviceAdd is called. -/
def Framework.atDeviceAdd (f : Framework) (id : DriverId) (config : AddConfig) : Framework :=
  (((f.setDriver id config).controlDeviceInitAllocate true).1).give (some f.state.heap.next)

/-- A driver is refused, or nothing fails any more, or the callback does not return; a queue is
created, or was configured like this before. -/
def NothingToUndo (f : Framework) : Operation → Prop
  | .driverCreate id globals allocated config =>
    globals = false ∨ f.state.driver.isSome = true ∨
      ∀ add, config.evtDriverDeviceAdd = some add → allocated = true ∧
        (ntSuccess add.status = true ∨ exec runCall (f.atDeviceAdd id config) add.calls = none)
  | .call (.ioQueueCreate globals fault k config) =>
    (globals = true ∧ fault = false) ∨
      ∀ device, f.deref f.state.locals.created[k]? = some device →
        (f.contents device).ioQueueConfig = config
  | .call _ => True

variable {f f' : Framework} {status : Status}

theorem Unchanged.refl (f : Framework) : Unchanged f f :=
  ⟨rfl, fun _ => rfl, fun _ => rfl, fun _ _ => rfl⟩

theorem setContents_self (f : Framework) (o : Object) : f.setContents o (f.contents o) = f := by
  rw [Framework.setContents, Function.update_eq_self]

theorem lt_next_of_deref {o : Option Object} {device : Object} (h : f.deref o = some device) :
    device < f.state.heap.next := by
  obtain ⟨-, hlive⟩ := Option.filter_eq_some_iff.mp h
  exact (of_decide_eq_true hlive).1

/-! ## Calls of the driver -/

theorem deviceCreate_failed {s s' : State} {globals allocated : Bool} {var : InitVar}
    (h : Wdf.deviceCreate s globals allocated var = some (s', status))
    (hfail : ntSuccess status = false) : s' = s := by
  unfold Wdf.deviceCreate at h
  split at h
  · cases h
    rfl
  · split at h
    · cases h
      rfl
    · split at h
      · split at h
        · cases h
        · cases h
          exact absurd hfail (by decide)
      · cases h

theorem runOp_failed {op : Op} (h : f.runOp op = some (f', status))
    (hfail : ntSuccess status = false) : f' = f := by
  cases op with
  | deviceCreate globals allocated var =>
    obtain ⟨⟨s, status'⟩, hs, hresult⟩ := Option.map_eq_some_iff.mp h
    cases hresult
    rw [deviceCreate_failed hs hfail, hfail]
    cases f.state.locals.init var <;> rfl
  | initAllocate allocated | initFree k | objectDelete k =>
    rw [Framework.runOp] at h
    obtain ⟨s, -, hresult⟩ := Option.map_eq_some_iff.mp h
    cases hresult
    exact absurd hfail (by decide)

theorem deviceInitAssignWdmIrpPreprocessCallback_failed {c c' : DeviceInit} {globals fault : Bool}
    {p : Preprocess}
    (h : deviceInitAssignWdmIrpPreprocessCallback c globals fault p = some (c', status))
    (hfail : ntSuccess status = false) : c' = c := by
  unfold deviceInitAssignWdmIrpPreprocessCallback at h
  split at h
  · cases h
    rfl
  · obtain ⟨minorFunctions, -, hresult⟩ := Option.map_eq_some_iff.mp h
    split at hresult
    · cases hresult
      rfl
    · split at hresult
      · split at hresult
        · cases hresult
          rfl
        · cases hresult
          exact absurd hfail (by decide)
      · cases hresult
        rfl

theorem assignPreprocess_failed {globals fault : Bool} {o : Option Object} {p : Preprocess}
    (h : f.assignPreprocess globals fault o p = some (f', status))
    (hfail : ntSuccess status = false) : f' = f := by
  unfold Framework.assignPreprocess at h
  split at h
  · obtain ⟨⟨c, status'⟩, hc, hresult⟩ := Option.map_eq_some_iff.mp h
    cases hresult
    rw [deviceInitAssignWdmIrpPreprocessCallback_failed hc hfail, setContents_self]
  · split at h
    · cases h
    · cases h
      rfl

/-- A call that fails leaves everything as it was, unless it creates a queue. -/
theorem call_failed {c : Call} (h : f.call c = some (f', status)) (hfail : ntSuccess status = false)
    (hqueue : ∀ globals fault k config, c ≠ .ioQueueCreate globals fault k config) : f' = f := by
  cases c with
  | op op => exact runOp_failed h hfail
  | setDeviceType | setCharacteristics | setFileObjectConfig =>
    rw [Framework.call] at h
    obtain ⟨f₁, -, hresult⟩ := Option.map_eq_some_iff.mp h
    cases hresult
    exact absurd hfail (by decide)
  | assignName =>
    rcases deviceInitAssignName_cases h with rfl | ⟨rfl, -⟩
    · rfl
    · exact absurd hfail (by decide)
  | assignPreprocess => exact assignPreprocess_failed h hfail
  | createSymbolicLink globals fault =>
    cases globals <;> cases fault <;> cases h <;> rfl
  | ioQueueCreate globals fault k config => exact absurd rfl (hqueue globals fault k config)

/-- The status is that of the checks, and the configuration is stored whatever it is. -/
theorem ioQueueCreate_eq {o : Option Object} {device : Object} (h : f.deref o = some device)
    (globals fault : Bool) (config : IoQueueConfig) :
    ioQueueCreate f globals fault o config =
      some (f.setContents device { f.contents device with ioQueueConfig := config },
        if !globals then statusInvalidParameter
        else if fault then statusInsufficientResources else statusSuccess) := by
  rw [ioQueueCreate, Framework.write, h]
  cases globals <;> cases fault <;> rfl

theorem ioQueueCreate_atomic_iff (globals fault : Bool) (k : Nat) (config : IoQueueConfig) :
    Atomic f (.call (.ioQueueCreate globals fault k config)) ↔
      NothingToUndo f (.call (.ioQueueCreate globals fault k config)) := by
  have hcall : f.operation (.call (.ioQueueCreate globals fault k config)) =
      ioQueueCreate f globals fault f.state.locals.created[k]? config := rfl
  rw [Atomic, NothingToUndo, hcall]
  cases hdevice : f.deref f.state.locals.created[k]? with
  | none =>
    refine iff_of_true (fun f' status h => ?_) (.inr fun device h => by cases h)
    rw [ioQueueCreate, Framework.write, hdevice] at h
    cases h
  | some device =>
    rw [ioQueueCreate_eq hdevice]
    constructor
    · intro h
      by_cases hok : globals = true ∧ fault = false
      · exact .inl hok
      · refine .inr fun device' hdevice' => ?_
        cases hdevice'
        have hfail : ntSuccess (if !globals then statusInvalidParameter
            else if fault then statusInsufficientResources else statusSuccess) = false := by
          revert hok
          cases globals <;> cases fault <;> decide
        have hcontents := (h _ _ rfl hfail).contents device (lt_next_of_deref hdevice)
        rw [contents_setContents] at hcontents
        exact (congrArg DeviceInit.ioQueueConfig hcontents).symm
    · rintro (⟨rfl, rfl⟩ | hsame) f' status h hfail
      · cases h
        exact absurd hfail (by decide)
      · cases h
        rw [← hsame device rfl, setContents_self]
        exact Unchanged.refl f

/-! ## `_WdfDriverCreate` -/

/-- The slot stays set. -/
theorem driver_driverCreate {s s' : State} {id : DriverId} {allocated : Bool}
    {config : DriverConfig}
    (hdriver : s.driver = none)
    (h : Wdf.driverCreate s id true allocated config = some (s', status)) :
    s'.driver = some id := by
  have hslot : Slot id s none := hdriver
  have hentry : runEntryOp id s (.driverCreate true allocated config) = some s' := by
    rw [runEntryOp, h]
    rfl
  exact (slot_driverCreate hslot hentry).1.1

theorem driverCreate_refused {id : DriverId} {globals allocated : Bool} {config : AddConfig}
    (hrefused : globals = false ∨ f.state.driver.isSome = true)
    (h : f.driverCreate id globals allocated config = some (f', status)) : f' = f := by
  unfold Framework.driverCreate at h
  cases globals with
  | false =>
    cases h
    rfl
  | true =>
    rcases hrefused with hglobals | hdriver
    · cases hglobals
    · rw [if_neg (by decide), if_pos hdriver] at h
      cases h
      rfl

/-- The callback runs, and `_WdfDriverCreate` cleans up. -/
theorem driverCreate_added (id : DriverId) {config : AddConfig} {add : AddCalls}
    (hdriver : f.state.driver = none) (hadd : config.evtDriverDeviceAdd = some add) :
    f.driverCreate id true true config =
      (exec runCall (f.atDeviceAdd id config) add.calls).map fun f₁ =>
        ({ f₁ with
          state :=
            afterDeviceAdd id (f.state.devices id).length f.state.heap.next add.status f₁.state },
          add.status) := by
  simp only [Framework.driverCreate, hdriver, hadd]
  rfl

theorem driverCreate_atomic_iff (id : DriverId) (globals allocated : Bool) (config : AddConfig) :
    Atomic f (.driverCreate id globals allocated config) ↔
      NothingToUndo f (.driverCreate id globals allocated config) := by
  constructor
  · intro h
    by_cases hglobals : globals = false
    · exact .inl hglobals
    by_cases hdriver : f.state.driver.isSome = true
    · exact .inr (.inl hdriver)
    refine .inr (.inr fun add hadd => ?_)
    rw [Bool.not_eq_false] at hglobals
    rw [Option.not_isSome_iff_eq_none] at hdriver
    subst hglobals
    -- the slot would be set after a failure
    have hnever : ∀ f' status, f.driverCreate id true allocated config = some (f', status) →
        ntSuccess status = true := by
      intro f' status hf'
      by_contra hfail
      have hslot := driver_driverCreate hdriver (driverCreate_state hf')
      rw [(h f' status hf' (Bool.eq_false_iff.mpr hfail)).globals, hdriver] at hslot
      cases hslot
    cases allocated with
    | false =>
      refine absurd (hnever (f.setDriver id config) statusNoMemory ?_) (by decide)
      simp [Framework.driverCreate, hdriver, hadd, Framework.controlDeviceInitAllocate,
        Wdf.controlDeviceInitAllocate]
    | true =>
      refine ⟨rfl, ?_⟩
      cases hrun : exec runCall (f.atDeviceAdd id config) add.calls with
      | none => exact .inr rfl
      | some f₁ =>
        have hadded := driverCreate_added id hdriver hadd
        rw [hrun] at hadded
        exact .inl (hnever _ add.status hadded)
  · intro hnothing f' status h hfail
    replace h : f.driverCreate id globals allocated config = some (f', status) := h
    by_cases hrefused : globals = false ∨ f.state.driver.isSome = true
    · rw [driverCreate_refused hrefused h]
      exact Unchanged.refl f
    · obtain ⟨hglobals, hdriver⟩ := not_or.mp hrefused
      have hrest := (hnothing.resolve_left hglobals).resolve_left hdriver
      rw [Bool.not_eq_false] at hglobals
      rw [Option.not_isSome_iff_eq_none] at hdriver
      subst hglobals
      cases hadd : config.evtDriverDeviceAdd with
      | none =>
        rw [Framework.driverCreate, hdriver, hadd] at h
        cases h
        exact absurd hfail (by decide)
      | some add =>
        obtain ⟨rfl, hsuccess | hstops⟩ := hrest add hadd
        · rw [driverCreate_added id hdriver hadd] at h
          obtain ⟨f₁, -, hresult⟩ := Option.map_eq_some_iff.mp h
          cases hresult
          rw [hsuccess] at hfail
          cases hfail
        · rw [driverCreate_added id hdriver hadd, hstops] at h
          cases h

/--
For every state of the framework, every operation and every fault: if it fails, everything is as
before, if and only if there was nothing to undo.
-/
theorem atomic_iff (f : Framework) (op : Operation) : Atomic f op ↔ NothingToUndo f op := by
  cases op with
  | driverCreate id globals allocated config =>
    exact driverCreate_atomic_iff id globals allocated config
  | call c =>
    by_cases hqueue : ∃ globals fault k config, c = .ioQueueCreate globals fault k config
    · obtain ⟨globals, fault, k, config, rfl⟩ := hqueue
      exact ioQueueCreate_atomic_iff globals fault k config
    · refine iff_of_true (fun f' status h hfail => ?_) ?_
      · obtain rfl := call_failed h hfail fun globals fault k config hc =>
          hqueue ⟨globals, fault, k, config, hc⟩
        exact Unchanged.refl f'
      · cases c <;> first | trivial | exact absurd ⟨_, _, _, _, rfl⟩ hqueue

/-- EvtDriverDeviceAdd creates nothing and returns STATUS_UNSUCCESSFUL. -/
def addsNothing : AddConfig where
  evtDriverDeviceAdd := some ⟨[], 0xC0000001⟩
  evtDriverUnload := none

def oneDevice : List Call :=
  [.op (.initAllocate true), .op (.deviceCreate true true (.own 0))]

/-- A queue with an EvtIoDeviceControl. -/
def ioctlQueue : IoQueueConfig := { IoQueueConfig.zero with evtIoDeviceControl := 0x1000 }

def driverWithDevice : Option Framework :=
  (Framework.init.driverCreate 0 true true ⟨none, none⟩).bind fun r => exec runCall r.1 oneDevice

/-- The driver that failed has the slot, and the queue that could not be created is configured. -/
theorem failure_not_undone :
    ((Framework.init.driverCreate 0 true true addsNothing).map fun r => (r.1.state.driver, r.2)) =
        some (some 0, 0xC0000001) ∧
      ¬ Atomic .init (.driverCreate 0 true true addsNothing) ∧
      ∃ f, driverWithDevice = some f ∧
        ((f.call (.ioQueueCreate true true 0 ioctlQueue)).map fun r =>
          ((r.1.contents 1).ioQueueConfig, r.2)) = some (ioctlQueue, statusInsufficientResources) ∧
        ¬ Atomic f (.call (.ioQueueCreate true true 0 ioctlQueue)) := by
  refine ⟨by decide, fun h => ?_, _, rfl, by decide, fun h => ?_⟩
  · exact absurd (h _ _ rfl (by decide)).globals (by decide)
  · have hcontents := (h _ _ rfl (by decide)).contents 1 (by decide)
    exact absurd (congrArg DeviceInit.ioQueueConfig hcontents) (by decide)

end Usersim.Wdf
