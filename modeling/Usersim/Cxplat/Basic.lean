import Mathlib.Algebra.Group.Nat.Defs
import Mathlib.Logic.Function.Basic
import Usersim.Lib.Run
import Usersim.Lib.Text

/-!
# Initializing cxplat (`cxplat_winuser.cpp`)

`cxplat_initialize` counts its callers. The first one reads two environment variables, and brings up
the symbol decoder, fault injection, the leak detector, the processor table and the thread pool;
every step may fail, and the argument `Failures` says which ones do. Where there is a leak detector,
`cxplat_allocate` and `cxplat_free` may throw `std::bad_alloc` too. `cxplat_cleanup` takes things
down when the count is back at zero, except for the fault injection singleton.

A module under test stands for the range of addresses it is loaded at. An entry of
`_modules_under_test` that comes down to zero is erased, so an entry that is not there is a count
of zero. A leak detector is a number, a new one another number than the one it takes the place of.
-/

namespace Usersim.Cxplat

open Lib

/-- A loaded module. -/
abbrev Module := BitVec 64

/-! ## Environment variables -/

/-- The values of the two variables; one that is not set is empty. -/
structure Environment where
  /-- CXPLAT_FAULT_INJECTION_SIMULATION. -/
  faultInjectionSimulation : List Char
  /-- CXPLAT_MEMORY_LEAK_DETECTION. -/
  memoryLeakDetection : List Char
deriving DecidableEq, Repr

def getEnvironmentVariableAsBool (value : List Char) : Bool :=
  let lower := value.map Char.toLower
  !value.isEmpty && lower != "false".toList && lower != "0".toList

/-- `std::stoull` in base 10, and zero if it throws. -/
def getEnvironmentVariableAsSizeT (value : List Char) : BitVec 64 :=
  let text := value.dropWhile isSpace
  let negative := text.head? = some '-'
  let text := if text.head? = some '-' ∨ text.head? = some '+' then text.tail else text
  let digits := text.takeWhile Char.isDigit
  let n := digits.foldl (fun n c => 10 * n + (c.toNat - '0'.toNat)) 0
  if digits = [] ∨ 2 ^ 64 ≤ n then 0
  else if negative then -(BitVec.ofNat 64 n) else BitVec.ofNat 64 n

/-- Fault injection is asked for. -/
def Environment.faultInjection (env : Environment) : Bool :=
  getEnvironmentVariableAsSizeT env.faultInjectionSimulation != 0

/-- Leak detection is asked for. -/
def Environment.leakDetector (env : Environment) : Bool :=
  getEnvironmentVariableAsBool env.memoryLeakDetection

/-! ## The state -/

/-- `cxplat_fault_injection_t`. -/
structure FaultInjection where
  /-- `_modules_under_test`. -/
  modulesUnderTest : Module → Nat

def FaultInjection.new : FaultInjection where
  modulesUnderTest := fun _ => 0

/-- `_symbol_decoder_initialized`, and what DbgHelp knows of the process. -/
structure SymbolDecoder where
  initialized : Bool
  /-- SymInitialize has been called for the process. -/
  session : Bool
  /-- SymSetOptions. -/
  options : BitVec 32
deriving DecidableEq, Repr

/-- SYMOPT_UNDNAME, SYMOPT_DEFERRED_LOADS and SYMOPT_LOAD_LINES. -/
def symbolDecoderOptions : BitVec 32 := 0x16

structure State where
  /-- `_cxplat_initialization_count`. -/
  initializationCount : Nat
  /-- `_cxplat_fault_injection_singleton`. -/
  faultInjection : Option FaultInjection
  /-- `cxplat_fuzzing_enabled`. -/
  fuzzingEnabled : Bool
  /-- `_cxplat_leak_detector_ptr`. -/
  leakDetector : Option Nat
  symbolDecoder : SymbolDecoder
  /-- `_cxplat_processor_group_info != nullptr`. -/
  processorGroupInfo : Bool
  /-- `_pool != nullptr`. -/
  pool : Bool

/-- Nothing is initialized. -/
def State.init : State where
  initializationCount := 0
  faultInjection := none
  fuzzingEnabled := false
  leakDetector := none
  symbolDecoder := { initialized := false, session := false, options := 0 }
  processorGroupInfo := false
  pool := false

inductive Status where
  | success
  | noMemory
  | invalidState
  /-- CXPLAT_STATUS_FROM_WIN32. -/
  | fromWin32
deriving DecidableEq, Repr

/-- Where `_get_processor_group_info` fails. -/
inductive ProcessorFailure where
  /-- GetLogicalProcessorInformationEx does not tell the length. -/
  | length
  /-- The buffer cannot be allocated, or not be registered with the leak detector. -/
  | buffer
  /-- It does not fill the buffer, which is freed. -/
  | query
  /-- It does not fill the buffer, and freeing it throws. -/
  | queryThenFree
deriving DecidableEq, Repr

def ProcessorFailure.status : ProcessorFailure → Status
  | .length | .query => .fromWin32
  | .buffer | .queryThenFree => .noMemory

/-- Which steps of an initialization fail, if they are reached. -/
structure Failures where
  /-- `std::bad_alloc` while the variables are read. -/
  environment : Bool := false
  symInitialize : Bool := false
  /-- An exception in the constructor of the singleton. -/
  faultInjection : Bool := false
  /-- GetModuleInformation, or the insertion into the map. -/
  addModule : Bool := false
  leakDetector : Bool := false
  processorInfo : Option ProcessorFailure := none
  /-- The allocation of `_cxplat_processor_group_info`. -/
  processorTable : Bool := false
  /-- The leak detector throws when that table is registered. -/
  tableRegister : Bool := false
  /-- The leak detector throws when the buffer behind the table is freed. -/
  bufferFree : Bool := false
  /-- `std::bad_alloc` from the table of rundown references. -/
  rundown : Bool := false
  /-- CreateThreadpool, SetThreadpoolThreadMinimum or CreateThreadpoolCleanupGroup. -/
  threadPool : Bool := false
  /-- The leak detector throws when the table is freed after that. -/
  tableFree : Bool := false
deriving DecidableEq, Repr

/-! ## Fault injection -/

def addModuleUnderTest (x : FaultInjection) (m : Module) : FaultInjection where
  modulesUnderTest := Function.update x.modulesUnderTest m (x.modulesUnderTest m + 1)

/-- Nothing to do if there is no entry. -/
def removeModuleUnderTest (x : FaultInjection) (m : Module) : FaultInjection where
  modulesUnderTest := Function.update x.modulesUnderTest m (x.modulesUnderTest m - 1)

def faultInjectionInitialize (fails : Bool) (s : State) : State × Status :=
  match s.faultInjection with
  | some _ => (s, .invalidState)
  | none => if fails then (s, .noMemory) else ({ s with faultInjection := some .new }, .success)

def faultInjectionAddModule (m : Module) (fails : Bool) (s : State) : State × Status :=
  match s.faultInjection with
  | none => (s, .success)
  | some x =>
    if fails then (s, .noMemory)
    else ({ s with faultInjection := some (addModuleUnderTest x m) }, .success)

/-- The status is not looked at. -/
def faultInjectionRemoveModule (m : Module) (fails : Bool) (s : State) : State :=
  match s.faultInjection with
  | none => s
  | some x =>
    if fails then s else { s with faultInjection := some (removeModuleUnderTest x m) }

/-! ## The steps of a first initialization -/

/-- A second SymInitialize fails with ERROR_INVALID_PARAMETER, which is fine. -/
def symbolDecoderInitialize (f : Failures) (s : State) : State × Status :=
  let decoder := { s.symbolDecoder with options := symbolDecoderOptions }
  if decoder.session then ({ s with symbolDecoder := decoder }, .success)
  else if f.symInitialize then ({ s with symbolDecoder := decoder }, .fromWin32)
  else
    ({ s with symbolDecoder := { decoder with initialized := true, session := true } }, .success)

/-- An exception comes out of `cxplat_initialize` as NO_MEMORY. The table is assigned when
it has been registered. -/
def winuserInitializeProcessorInfo (f : Failures) (s : State) : State × Status :=
  match f.processorInfo with
  | some failure => (s, failure.status)
  | none =>
    if f.processorTable then ({ s with processorGroupInfo := false }, .noMemory)
    else if s.leakDetector.isSome && f.tableRegister then (s, .noMemory)
    else
      ({ s with processorGroupInfo := true },
        if s.leakDetector.isSome && f.bufferFree then .noMemory else .success)

def winuserCleanUpProcessorInfo (s : State) : State := { s with processorGroupInfo := false }

/-- The pool is closed again if a later step fails. No status is `std::bad_alloc`, thrown
before there is a pool. -/
def winuserInitializeThreadPool (f : Failures) (s : State) : State × Option Status :=
  if f.rundown then (s, none)
  else if f.threadPool then ({ s with pool := false }, some .fromWin32)
  else ({ s with pool := true }, some .success)

/-- The next step is taken if this one succeeds. -/
def andThen (x : State × Status) (next : State → State × Status) : State × Status :=
  match x.2 with
  | .success => next x.1
  | .noMemory | .invalidState | .fromWin32 => x

/-- Any error is reported as NO_MEMORY. -/
def orNoMemory (x : State × Status) : State × Status :=
  match x.2 with
  | .success => x
  | .noMemory | .invalidState | .fromWin32 => (x.1, .noMemory)

def startSymbolDecoder (env : Environment) (f : Failures) (s : State) : State × Status :=
  if env.faultInjection || env.leakDetector then symbolDecoderInitialize f s else (s, .success)

def startFaultInjection (env : Environment) (m : Module) (f : Failures) (s : State) :
    State × Status :=
  if env.faultInjection && s.faultInjection.isNone then
    andThen (orNoMemory (faultInjectionInitialize f.faultInjection s)) fun s =>
      andThen (orNoMemory (faultInjectionAddModule m f.addModule s)) fun s =>
        ({ s with fuzzingEnabled := true }, .success)
  else (s, .success)

def startLeakDetector (env : Environment) (f : Failures) (s : State) : State × Status :=
  if env.leakDetector then
    if f.leakDetector then (s, .noMemory)
    else ({ s with leakDetector := some (s.leakDetector.elim 0 (· + 1)) }, .success)
  else (s, .success)

/-- A status that is not success takes the table down; an exception, of the thread pool or of
freeing the table, does not. -/
def startThreadPool (f : Failures) (s : State) : State × Status :=
  match winuserInitializeThreadPool f s with
  | (s, none) => (s, .noMemory)
  | (s, some .success) => (s, .success)
  | (s, some status) =>
    if s.leakDetector.isSome && f.tableFree then (s, .noMemory)
    else (winuserCleanUpProcessorInfo s, status)

/-- The `try` block. -/
def firstInitialize (env : Environment) (m : Module) (f : Failures) (s : State) : State × Status :=
  if f.environment then (s, .noMemory)
  else
    andThen (startSymbolDecoder env f s) fun s =>
      andThen (startFaultInjection env m f s) fun s =>
        andThen (startLeakDetector env f s) fun s =>
          andThen (winuserInitializeProcessorInfo f s) fun s => startThreadPool f s

/-! ## The calls -/

/-- `_cxplat_initialization_count++`, of a ULONG. -/
def State.counted (s : State) : State × Status :=
  ({ s with initializationCount := (s.initializationCount + 1) % 2 ^ 32 }, .success)

/-- `cxplat_initialize`; the module is the one that is found for the caller. -/
def cxplatInitialize (env : Environment) (m : Module) (f : Failures) (s : State) :
    State × Status :=
  if 0 < s.initializationCount then
    if s.faultInjection.isSome then
      andThen (orNoMemory (faultInjectionAddModule m f.addModule s)) State.counted
    else s.counted
  else andThen (firstInitialize env m f s) State.counted

/-- `cxplat_cleanup`; `none` if the assertion fails. -/
def cxplatCleanup (m : Module) (removeFails : Bool) (s : State) : Option State :=
  if s.initializationCount = 0 then none
  else
    let s := { s with initializationCount := s.initializationCount - 1 }
    if 0 < s.initializationCount then some (faultInjectionRemoveModule m removeFails s)
    else
      some { s with
        pool := false
        processorGroupInfo := false
        leakDetector := none
        symbolDecoder := { s.symbolDecoder with
          session := s.symbolDecoder.session && !s.symbolDecoder.initialized } }

end Usersim.Cxplat
