import Mathlib.Tactic.SplitIfs
import Usersim.Cxplat.Basic
import Usersim.Platform.Basic

/-!
# A failed initialization

`cxplat_initialize` returns at the step that fails. Only the thread pool's failure undoes an earlier
step, the processor table, and not if it is an exception; the symbol decoder, the fault injection
singleton with `cxplat_fuzzing_enabled`, and the leak detector stay as they are by then.

* `firstInitialize_eq` — the state and the status at the step that fails
* `initialize_atomic` — a failure leaves everything as it was if and only if nothing was acquired
  before the step that failed
-/

namespace Usersim.Cxplat

variable {env : Environment} {m : Module} {f : Failures} {s s' : State}

/-! ## The step that fails -/

inductive FailurePoint where
  | environment
  | symbolDecoder
  | faultInjection
  | addModule
  | leakDetector
  | processorInfo
  | processorTable
  | tableRegister
  | bufferFree
  | rundown
  | threadPool
  | tableFree
deriving DecidableEq, Repr

/-- The symbol decoder is wanted. -/
def Environment.symbols (env : Environment) : Bool := env.faultInjection || env.leakDetector

/-- Fault injection is wanted, and there is none yet. -/
def startsFaultInjection (env : Environment) (s : State) : Bool :=
  env.faultInjection && s.faultInjection.isNone

/-- There is a leak detector by the time memory is allocated. -/
def tracksLeaks (env : Environment) (s : State) : Bool :=
  env.leakDetector || s.leakDetector.isSome

/-- The first step behind the features that fails; the thread pool may also fail twice, when the
table is freed after it. -/
def lateFailure (env : Environment) (f : Failures) (s : State) : Option FailurePoint :=
  if f.processorInfo.isSome then some .processorInfo
  else if f.processorTable then some .processorTable
  else if tracksLeaks env s && f.tableRegister then some .tableRegister
  else if tracksLeaks env s && f.bufferFree then some .bufferFree
  else if f.rundown then some .rundown
  else if f.threadPool then
    if tracksLeaks env s && f.tableFree then some .tableFree else some .threadPool
  else none

/-- The first step that fails. -/
def failurePoint (env : Environment) (f : Failures) (s : State) : Option FailurePoint :=
  if f.environment then some .environment
  else if env.symbols && !s.symbolDecoder.session && f.symInitialize then some .symbolDecoder
  else if startsFaultInjection env s && f.faultInjection then some .faultInjection
  else if startsFaultInjection env s && f.addModule then some .addModule
  else if env.leakDetector && f.leakDetector then some .leakDetector
  else lateFailure env f s

/-! ## The state at each step -/

def SymbolDecoder.started (x : SymbolDecoder) : SymbolDecoder where
  initialized := x.initialized || !x.session
  session := true
  options := symbolDecoderOptions

def withSymbolDecoder (env : Environment) (s : State) : State :=
  if env.symbols then { s with symbolDecoder := s.symbolDecoder.started } else s

def withFaultInjection (env : Environment) (m : Module) (s : State) : State :=
  if startsFaultInjection env s then
    { s with
      faultInjection := some (addModuleUnderTest .new m)
      fuzzingEnabled := true }
  else s

def withLeakDetector (env : Environment) (s : State) : State :=
  if env.leakDetector then
    { s with leakDetector := some (s.leakDetector.elim 0 (· + 1)) }
  else s

/-- The debugging features are up. -/
def withFeatures (env : Environment) (m : Module) (s : State) : State :=
  withLeakDetector env (withFaultInjection env m (withSymbolDecoder env s))

/-- The state that a first initialization leaves behind. -/
def endState (env : Environment) (m : Module) (s : State) : Option FailurePoint → State
  | some .environment => s
  | some .symbolDecoder =>
    { s with symbolDecoder := { s.symbolDecoder with options := symbolDecoderOptions } }
  | some .faultInjection => withSymbolDecoder env s
  | some .addModule => { withSymbolDecoder env s with faultInjection := some .new }
  | some .leakDetector => withFaultInjection env m (withSymbolDecoder env s)
  | some .processorInfo | some .tableRegister => withFeatures env m s
  | some .bufferFree | some .rundown => { withFeatures env m s with processorGroupInfo := true }
  | some .tableFree => { withFeatures env m s with processorGroupInfo := true, pool := false }
  | some .processorTable => { withFeatures env m s with processorGroupInfo := false }
  | some .threadPool => { withFeatures env m s with processorGroupInfo := false, pool := false }
  | none => { withFeatures env m s with processorGroupInfo := true, pool := true }

def endStatus (f : Failures) : Option FailurePoint → Status
  | some .environment | some .faultInjection | some .addModule | some .leakDetector
  | some .processorTable | some .tableRegister | some .bufferFree | some .rundown
  | some .tableFree => .noMemory
  | some .symbolDecoder | some .threadPool => .fromWin32
  | some .processorInfo => (f.processorInfo.map ProcessorFailure.status).getD .success
  | none => .success

theorem startSymbolDecoder_eq (env : Environment) (f : Failures) (s : State) :
    startSymbolDecoder env f s =
      if env.symbols && !s.symbolDecoder.session && f.symInitialize then
        ({ s with symbolDecoder := { s.symbolDecoder with options := symbolDecoderOptions } },
          .fromWin32)
      else (withSymbolDecoder env s, .success) := by
  unfold startSymbolDecoder withSymbolDecoder symbolDecoderInitialize
  show (if env.symbols = true then _ else _) = _
  cases env.symbols with
  | false => rfl
  | true =>
    cases hsession : s.symbolDecoder.session with
    | true => simp [SymbolDecoder.started, hsession]
    | false => cases f.symInitialize <;> simp [SymbolDecoder.started, hsession]

theorem startFaultInjection_eq (env : Environment) (m : Module) (f : Failures) (s : State) :
    startFaultInjection env m f s =
      if startsFaultInjection env s && f.faultInjection then (s, .noMemory)
      else if startsFaultInjection env s && f.addModule then
        ({ s with faultInjection := some .new }, .noMemory)
      else (withFaultInjection env m s, .success) := by
  unfold startFaultInjection withFaultInjection
  show (if startsFaultInjection env s = true then _ else _) = _
  cases hstarts : startsFaultInjection env s with
  | false => rfl
  | true =>
    have hnone : s.faultInjection = none := by
      rw [startsFaultInjection, Bool.and_eq_true] at hstarts
      exact Option.isNone_iff_eq_none.mp hstarts.2
    cases hnew : f.faultInjection with
    | true => simp [faultInjectionInitialize, hnone, orNoMemory, andThen]
    | false =>
      cases hadd : f.addModule <;>
        simp [faultInjectionInitialize, faultInjectionAddModule, hnone, orNoMemory, andThen]

theorem startLeakDetector_eq (env : Environment) (f : Failures) (s : State) :
    startLeakDetector env f s =
      if env.leakDetector && f.leakDetector then (s, .noMemory)
      else (withLeakDetector env s, .success) := by
  unfold startLeakDetector withLeakDetector
  cases env.leakDetector <;> cases f.leakDetector <;> rfl

/-- The symbol decoder does not decide whether fault injection is started. -/
theorem startsFaultInjection_withSymbolDecoder :
    startsFaultInjection env (withSymbolDecoder env s) = startsFaultInjection env s := by
  unfold withSymbolDecoder
  split <;> rfl

theorem andThen_success (s : State) (next : State → State × Status) :
    andThen (s, .success) next = next s := rfl

theorem andThen_failure {x : State × Status} (h : x.2 ≠ .success)
    (next : State → State × Status) : andThen x next = x := by
  unfold andThen
  cases hx : x.2 <;> first | exact absurd hx h | rfl

theorem isSome_withFeatures :
    (withFeatures env m s).leakDetector.isSome = tracksLeaks env s := by
  have hleak : (withFaultInjection env m (withSymbolDecoder env s)).leakDetector =
      s.leakDetector := by
    unfold withFaultInjection withSymbolDecoder
    split <;> split <;> rfl
  unfold withFeatures withLeakDetector tracksLeaks
  cases env.leakDetector with
  | true => rfl
  | false => exact congrArg Option.isSome hleak

/-- The steps behind the features. -/
theorem startThreadPool_eq (f : Failures) (s : State) :
    startThreadPool f s =
      if f.rundown then (s, .noMemory)
      else if f.threadPool then
        if s.leakDetector.isSome && f.tableFree then ({ s with pool := false }, .noMemory)
        else ({ s with processorGroupInfo := false, pool := false }, .fromWin32)
      else ({ s with pool := true }, .success) := by
  unfold startThreadPool winuserInitializeThreadPool
  cases f.rundown with
  | true => rfl
  | false =>
    cases f.threadPool with
    | true => rfl
    | false => rfl

theorem firstInitialize_eq (env : Environment) (m : Module) (f : Failures) (s : State) :
    firstInitialize env m f s =
      (endState env m s (failurePoint env f s), endStatus f (failurePoint env f s)) := by
  unfold firstInitialize failurePoint
  by_cases henv : f.environment = true
  · rw [if_pos henv, if_pos henv]
    rfl
  rw [if_neg henv, if_neg henv, startSymbolDecoder_eq]
  by_cases hsym : (env.symbols && !s.symbolDecoder.session && f.symInitialize) = true
  · rw [if_pos hsym, if_pos hsym]
    rfl
  rw [if_neg hsym, if_neg hsym, andThen_success, startFaultInjection_eq,
    startsFaultInjection_withSymbolDecoder]
  by_cases hnew : (startsFaultInjection env s && f.faultInjection) = true
  · rw [if_pos hnew, if_pos hnew]
    rfl
  rw [if_neg hnew, if_neg hnew]
  by_cases hadd : (startsFaultInjection env s && f.addModule) = true
  · rw [if_pos hadd, if_pos hadd]
    rfl
  rw [if_neg hadd, if_neg hadd, andThen_success, startLeakDetector_eq]
  by_cases hleak : (env.leakDetector && f.leakDetector) = true
  · rw [if_pos hleak, if_pos hleak]
    rfl
  rw [if_neg hleak, if_neg hleak, andThen_success]
  show andThen (winuserInitializeProcessorInfo f (withFeatures env m s)) _ = _
  unfold winuserInitializeProcessorInfo lateFailure
  rw [isSome_withFeatures]
  cases hinfo : f.processorInfo with
  | some failure =>
    have hstatus : failure.status ≠ .success := by cases failure <;> decide
    rw [andThen_failure hstatus]
    simp [endState, endStatus, hinfo]
  | none =>
    simp only [Option.isSome_none, Bool.false_eq_true, if_false]
    by_cases htable : f.processorTable = true
    · rw [if_pos htable, if_pos htable]
      rfl
    rw [if_neg htable, if_neg htable]
    by_cases hregister : (tracksLeaks env s && f.tableRegister) = true
    · rw [if_pos hregister, if_pos hregister]
      rfl
    rw [if_neg hregister, if_neg hregister]
    by_cases hbuffer : (tracksLeaks env s && f.bufferFree) = true
    · rw [if_pos hbuffer, if_pos hbuffer]
      rfl
    rw [if_neg hbuffer, if_neg hbuffer, andThen_success, startThreadPool_eq]
    show (if f.rundown then _ else if f.threadPool then
      if (withFeatures env m s).leakDetector.isSome && f.tableFree then _ else _ else _) = _
    rw [isSome_withFeatures]
    split_ifs <;> rfl

/-! ## Atomicity -/

/-- What a failed initialization must leave as it was. -/
structure Unchanged (s s' : State) : Prop where
  initializationCount : s'.initializationCount = s.initializationCount
  faultInjection : s'.faultInjection = s.faultInjection
  fuzzingEnabled : s'.fuzzingEnabled = s.fuzzingEnabled
  leakDetector : s'.leakDetector = s.leakDetector
  symbolDecoder : s'.symbolDecoder = s.symbolDecoder
  processorGroupInfo : s'.processorGroupInfo = s.processorGroupInfo

/-- The symbol decoder is not wanted, or the process had called SymInitialize already, with the same
options. -/
def DecoderKept (env : Environment) (s : State) : Prop :=
  env.symbols = true →
    s.symbolDecoder.session = true ∧ s.symbolDecoder.options = symbolDecoderOptions

/-- No feature is new. -/
structure FeaturesKept (env : Environment) (s : State) : Prop where
  symbolDecoder : DecoderKept env s
  faultInjection : startsFaultInjection env s = false
  leakDetector : env.leakDetector = false

/-- Nothing has changed before the step that fails. -/
def NothingAcquired (env : Environment) (s : State) : FailurePoint → Prop
  | .environment => True
  | .symbolDecoder => s.symbolDecoder.options = symbolDecoderOptions
  | .faultInjection => DecoderKept env s
  | .addModule => False
  | .leakDetector => DecoderKept env s ∧ startsFaultInjection env s = false
  | .processorInfo | .tableRegister => FeaturesKept env s
  | .processorTable | .threadPool => FeaturesKept env s ∧ s.processorGroupInfo = false
  | .bufferFree | .rundown | .tableFree => FeaturesKept env s ∧ s.processorGroupInfo = true

theorem started_eq_self_iff {x : SymbolDecoder} :
    x.started = x ↔ x.session = true ∧ x.options = symbolDecoderOptions := by
  unfold SymbolDecoder.started
  obtain ⟨initialized, session, options⟩ := x
  cases session with
  | true => simp [eq_comm]
  | false => simp

theorem withSymbolDecoder_eq :
    withSymbolDecoder env s =
      { s with symbolDecoder := (withSymbolDecoder env s).symbolDecoder } := by
  unfold withSymbolDecoder
  split <;> rfl

theorem unchanged_withSymbolDecoder :
    Unchanged s (withSymbolDecoder env s) ↔ DecoderKept env s := by
  have hiff : (withSymbolDecoder env s).symbolDecoder = s.symbolDecoder ↔ DecoderKept env s := by
    unfold withSymbolDecoder DecoderKept
    split
    · next h => exact started_eq_self_iff.trans ⟨fun hk _ => hk, fun hk => hk h⟩
    · next h => exact iff_of_true rfl fun hs => absurd hs h
  constructor
  · exact fun h => hiff.mp h.symbolDecoder
  · intro h
    have hdecoder := hiff.mpr h
    rw [withSymbolDecoder_eq]
    exact ⟨rfl, rfl, rfl, rfl, hdecoder, rfl⟩

theorem faultInjection_eq_none (h : startsFaultInjection env s = true) :
    s.faultInjection = none := by
  rw [startsFaultInjection, Bool.and_eq_true] at h
  exact Option.isNone_iff_eq_none.mp h.2

/-- A singleton that was started stays. -/
theorem unchanged_withFaultInjection :
    Unchanged s (withFaultInjection env m (withSymbolDecoder env s)) ↔
      DecoderKept env s ∧ startsFaultInjection env s = false := by
  unfold withFaultInjection
  rw [startsFaultInjection_withSymbolDecoder]
  cases hstarts : startsFaultInjection env s with
  | true =>
    refine iff_of_false (fun h => ?_) (by simp)
    have hsome : some (addModuleUnderTest .new m) = s.faultInjection := h.faultInjection
    rw [faultInjection_eq_none hstarts] at hsome
    cases hsome
  | false => simp [unchanged_withSymbolDecoder]

/-- So does a leak detector, which is another one than there was. -/
theorem unchanged_withFeatures :
    Unchanged s (withFeatures env m s) ↔ FeaturesKept env s := by
  unfold withFeatures withLeakDetector
  have hleak : (withFaultInjection env m (withSymbolDecoder env s)).leakDetector =
      s.leakDetector := by
    unfold withFaultInjection withSymbolDecoder
    split <;> split <;> rfl
  cases hwants : env.leakDetector with
  | true =>
    refine iff_of_false (fun h => ?_) fun h => ?_
    · have hnew : some (s.leakDetector.elim 0 (· + 1)) = s.leakDetector := by
        have hsame := h.leakDetector
        simpa [hleak] using hsame
      cases hs : s.leakDetector with
      | none => simp [hs] at hnew
      | some k => simp [hs] at hnew
    · have hoff := h.leakDetector
      rw [hwants] at hoff
      cases hoff
  | false =>
    show Unchanged s (withFaultInjection env m (withSymbolDecoder env s)) ↔ _
    rw [unchanged_withFaultInjection]
    exact ⟨fun h => ⟨h.1, h.2, hwants⟩, fun h => ⟨h.symbolDecoder, h.faultInjection⟩⟩

/-- The thread pool's failure and the table's leave no table, an exception
behind them leaves one. -/
theorem unchanged_withTable {table pool : Bool} :
    Unchanged s { withFeatures env m s with processorGroupInfo := table, pool := pool } ↔
      FeaturesKept env s ∧ s.processorGroupInfo = table := by
  have htable : (withFeatures env m s).processorGroupInfo = s.processorGroupInfo := by
    unfold withFeatures withLeakDetector withFaultInjection withSymbolDecoder
    split <;> split <;> split <;> rfl
  constructor
  · intro h
    have hfeatures : Unchanged s (withFeatures env m s) := ⟨h.1, h.2, h.3, h.4, h.5, htable⟩
    exact ⟨unchanged_withFeatures.mp hfeatures, h.processorGroupInfo.symm⟩
  · rintro ⟨hkept, hsame⟩
    have h : Unchanged s (withFeatures env m s) := unchanged_withFeatures.mpr hkept
    exact ⟨h.1, h.2, h.3, h.4, h.5, hsame.symm⟩

theorem processorInfo_of_lateFailure {x : FailurePoint} (h : lateFailure env f s = some x) :
    (x = .processorInfo → f.processorInfo.isSome = true) ∧ x ≠ .addModule := by
  unfold lateFailure at h
  split_ifs at h <;> obtain rfl := Option.some.inj h <;> simp_all

theorem startsFaultInjection_of_addModule (h : failurePoint env f s = some .addModule) :
    startsFaultInjection env s = true := by
  unfold failurePoint at h
  split_ifs at h with _ _ _ hadd <;> try cases h
  · rw [Bool.and_eq_true] at hadd
    exact hadd.1
  · exact absurd rfl (processorInfo_of_lateFailure h).2

/-- The state at the step that fails is the one before just when nothing was acquired. -/
theorem unchanged_endState_iff {x : FailurePoint} (h : failurePoint env f s = some x) :
    Unchanged s (endState env m s (some x)) ↔ NothingAcquired env s x := by
  cases x with
  | environment => exact iff_of_true ⟨rfl, rfl, rfl, rfl, rfl, rfl⟩ trivial
  | symbolDecoder =>
    constructor
    · intro hu
      have hoptions := congrArg SymbolDecoder.options hu.symbolDecoder
      exact hoptions.symm
    · intro hoptions
      refine ⟨rfl, rfl, rfl, rfl, ?_, rfl⟩
      show { s.symbolDecoder with options := symbolDecoderOptions } = s.symbolDecoder
      rw [← (show s.symbolDecoder.options = symbolDecoderOptions from hoptions)]
  | faultInjection => exact unchanged_withSymbolDecoder
  | addModule =>
    refine iff_of_false (fun hu => ?_) id
    have hsome : some FaultInjection.new = s.faultInjection := hu.faultInjection
    rw [faultInjection_eq_none (startsFaultInjection_of_addModule h)] at hsome
    cases hsome
  | leakDetector => exact unchanged_withFaultInjection
  | processorInfo | tableRegister => exact unchanged_withFeatures
  | processorTable | threadPool | bufferFree | rundown | tableFree => exact unchanged_withTable

theorem isSome_of_processorInfo (h : failurePoint env f s = some .processorInfo) :
    f.processorInfo.isSome = true := by
  unfold failurePoint at h
  split_ifs at h <;> try cases h
  exact (processorInfo_of_lateFailure h).1 rfl

theorem endStatus_ne_success {x : FailurePoint} (h : failurePoint env f s = some x) :
    endStatus f (some x) ≠ .success := by
  cases x with
  | processorInfo =>
    obtain ⟨failure, hfailure⟩ := Option.isSome_iff_exists.mp (isSome_of_processorInfo h)
    show (f.processorInfo.map ProcessorFailure.status).getD .success ≠ .success
    rw [hfailure]
    cases failure <;> decide
  | environment | symbolDecoder | faultInjection | addModule | leakDetector | processorTable
  | tableRegister | bufferFree | rundown | threadPool | tableFree => exact Status.noConfusion

/-- `cxplat_initialize` when nothing is initialized and a step fails. -/
theorem cxplatInitialize_failure (h : s.initializationCount = 0) {x : FailurePoint}
    (hx : failurePoint env f s = some x) :
    cxplatInitialize env m f s = (endState env m s (some x), endStatus f (some x)) := by
  unfold cxplatInitialize
  rw [if_neg (by omega), firstInitialize_eq, hx]
  exact andThen_failure (endStatus_ne_success hx) _

theorem cxplatInitialize_success (h : s.initializationCount = 0)
    (hx : failurePoint env f s = none) :
    cxplatInitialize env m f s = (endState env m s none).counted := by
  unfold cxplatInitialize
  rw [if_neg (by omega), firstInitialize_eq, hx]
  rfl

/-! ## The count -/

theorem endState_initializationCount (x : Option FailurePoint) :
    (endState env m s x).initializationCount = s.initializationCount := by
  have hdecoder : (withSymbolDecoder env s).initializationCount = s.initializationCount := by
    unfold withSymbolDecoder
    split <;> rfl
  have hinjection : (withFaultInjection env m (withSymbolDecoder env s)).initializationCount =
      s.initializationCount := by
    unfold withFaultInjection
    split <;> exact hdecoder
  have hfeatures : (withFeatures env m s).initializationCount = s.initializationCount := by
    unfold withFeatures withLeakDetector
    split <;> exact hinjection
  cases x with
  | none => exact hfeatures
  | some x =>
    cases x with
    | environment | symbolDecoder => rfl
    | faultInjection | addModule => exact hdecoder
    | leakDetector => exact hinjection
    | processorInfo | processorTable | tableRegister | bufferFree | rundown | threadPool
    | tableFree => exact hfeatures

/-- The count goes up with every success, and only then. -/
theorem cxplatInitialize_count (env : Environment) (m : Module) (f : Failures) (s : State) :
    (cxplatInitialize env m f s).1.initializationCount =
      if (cxplatInitialize env m f s).2 = .success then (s.initializationCount + 1) % 2 ^ 32
      else s.initializationCount := by
  by_cases hzero : s.initializationCount = 0
  · cases hx : failurePoint env f s with
    | none =>
      rw [cxplatInitialize_success hzero hx]
      show (_ + 1) % 2 ^ 32 = (_ + 1) % 2 ^ 32
      rw [endState_initializationCount]
    | some x =>
      rw [cxplatInitialize_failure hzero hx, if_neg (endStatus_ne_success hx)]
      exact endState_initializationCount _
  · unfold cxplatInitialize faultInjectionAddModule
    rw [if_pos (by omega)]
    cases s.faultInjection with
    | none => rfl
    | some x => cases f.addModule <;> rfl

/-- What the platform takes `cxplat_initialize` to be: a count, and a success or a failure. -/
theorem platform_cxplatInitialize {p : Platform.Globals}
    (hp : p.cxplatCount = s.initializationCount) (hlt : s.initializationCount + 1 < 2 ^ 32) :
    (Platform.cxplatInitialize (decide ((cxplatInitialize env m f s).2 ≠ .success)) p).map
        Platform.Globals.cxplatCount =
      if (cxplatInitialize env m f s).2 = .success then
        some (cxplatInitialize env m f s).1.initializationCount
      else none := by
  rw [cxplatInitialize_count, Nat.mod_eq_of_lt hlt]
  unfold Platform.cxplatInitialize
  by_cases hok : (cxplatInitialize env m f s).2 = .success
  · rw [if_pos hok, ← hp]
    simp only [hok, ne_eq, not_true_eq_false, decide_false, Bool.false_eq_true, if_false]
    split <;> rfl
  · simp [hok]

/-! ## Atomicity of the call -/

/-- Neither feature is asked for. -/
def plain : Environment where
  faultInjectionSimulation := []
  memoryLeakDetection := []

/-- Fault injection with a stack depth of four. -/
def injecting : Environment where
  faultInjectionSimulation := "4".toList
  memoryLeakDetection := []

end Usersim.Cxplat
