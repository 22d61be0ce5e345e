import Mathlib.Data.Finset.Card
import Usersim.Fault.RoundTrip

/-!
# A fault injection pass (`Test-FaultInjection.ps1`)

The script runs the tests that have not passed yet, in one process after another, until all have.
What a process leaves behind are its files: `.fault.log` with the stacks at which it failed a call,
and `.passed.log`, to which the listener of `cxplat_passed_test_log.h` appends the tests that
passed. A process may end anywhere, by a crash or because the script kills it.

A call that is made while the same thread records another one is not a step: it changes nothing. A
call may run out of memory and answer false: before its stack is in `_fault_hash`, which then does
not know it, or while the stack is being decoded, after which the process does not try it again. The
script compares names without regard to case; `foldCase` is what it compares.

* `faults_covered` — no fault is injected twice, and none that was reached is left out
* `pass_ends` — the number of iterations, and what has passed when the script leaves its loop
-/

namespace Usersim.Fault

open Lib

/-! ## One call, in its two critical sections -/

/-- The critical section of `is_new_stack`, for a stack that is new. -/
def Session.insert (s : Session) (canonical : Stack) : Session :=
  { s with process := { s.process with faultHash := canonical :: s.process.faultHash } }

/-- The critical section of `log_stack_trace`. -/
def Session.record (s : Session) (canonical : Stack) (stack : List CapturedFrame) : Session :=
  { s with log := { s.log with
      file := s.log.file ++ logRecord canonical stack
      logged := canonical :: s.log.logged } }

theorem isNewStack_eq (s : Session) (canonical : Stack) (stack : List CapturedFrame) :
    (s.isNewStack canonical stack).1 =
      if s.process.faultHash.contains canonical then s
      else (s.insert canonical).record canonical stack := by
  unfold Session.isNewStack
  split <;> rfl

namespace Pass

/-! ## A process of the test program -/

structure TestName where
  chars : List Char
  noNewline : '\n' ∉ chars
deriving DecidableEq

inductive Action where
  /-- The critical section of `is_new_stack`. -/
  | check (canonical : Stack) (stack : List CapturedFrame)
  /-- The same, in which the insertion throws. -/
  | insertThrows (canonical : Stack)
  /-- The critical section of `log_stack_trace`, after which the call returns true. -/
  | log (place : Nat)
  /-- `log_stack_trace` throws before it has written. -/
  | logThrows (place : Nat)
  /-- `cxplat_fault_injection_uninitialize` and `cxplat_fault_injection_initialize`. -/
  | startAgain
  | testCaseEnded (name : TestName) (failed : Nat)

structure TestProcess where
  session : Session
  /-- The calls whose stacks are being decoded. -/
  decoding : List (Stack × List CapturedFrame)
  passedLog : List Char
  /-- Where calls have returned true, the latest first. -/
  injected : List Stack
  /-- Where calls have thrown. -/
  thrown : List Stack

def TestProcess.init (session : Session) (passedLog : List Char) : TestProcess where
  session := session
  decoding := []
  passedLog := passedLog
  injected := []
  thrown := []

def step (p : TestProcess) : Action → Option TestProcess
  | .check canonical stack =>
    if p.session.process.faultHash.contains canonical then some p
    else
      some { p with
        session := p.session.insert canonical
        decoding := (canonical, stack) :: p.decoding }
  | .insertThrows canonical =>
    if p.session.process.faultHash.contains canonical then none
    else some { p with thrown := canonical :: p.thrown }
  | .log place =>
    p.decoding[place]?.map fun (canonical, stack) =>
      { p with
        session := p.session.record canonical stack
        decoding := p.decoding.eraseIdx place
        injected := canonical :: p.injected }
  | .logThrows place =>
    p.decoding[place]?.map fun (canonical, _) =>
      { p with
        decoding := p.decoding.eraseIdx place
        thrown := canonical :: p.thrown }
  | .startAgain =>
    if p.decoding.isEmpty then
      (openLog p.session.log).toOption.map fun session => { p with session := session }
    else none
  | .testCaseEnded name failed =>
    some { p with
      passedLog := if failed = 0 then p.passedLog ++ name.chars ++ ['\n'] else p.passedLog }

/-! ## What a process has done -/

/-- The stacks at which faults could have been injected. -/
def presentedStacks (actions : List Action) : List Stack :=
  actions.filterMap fun
    | .check canonical _ | .insertThrows canonical => some canonical
    | _ => none

def passedTests (actions : List Action) : List TestName :=
  actions.filterMap fun
    | .testCaseEnded name 0 => some name
    | _ => none

/-- A call has returned true. -/
def anyFault (actions : List Action) : Bool :=
  actions.any fun
    | .log _ => true
    | _ => false

/-! ## The script -/

/-- The files, and `$iteration`. -/
structure Files where
  faultLog : Log
  passedLog : List Char
  iteration : Nat
  /-- Where calls have returned true, in all processes. -/
  injected : List Stack
  /-- Where calls have thrown, in all processes. -/
  thrown : List Stack
  /-- The stacks that were being decoded when their process ended. -/
  unfinished : List Stack

/-- `Set-Content` writes an empty line, which is read as the empty stack. -/
def Files.init : Files where
  faultLog := { file := ['\n'], logged := [[]], headers := 0 }
  passedLog := ['\n']
  iteration := 0
  injected := []
  thrown := []
  unfinished := []

variable (foldCase : List Char → List Char) (tests : List TestName)

/-- `$remaining_tests`. -/
def remainingTests (passedLog : List Char) : List TestName :=
  tests.filter fun t => !(lines '\n' passedLog).any fun passed => foldCase passed = foldCase t.chars

/-- The body of the loop, with what the process does until it ends. -/
def iterate (s : Files) (actions : List Action) : Option Files :=
  if (remainingTests foldCase tests s.passedLog).isEmpty then none
  else do
    let session ← (openLog s.faultLog).toOption
    let p ← exec step (.init session s.passedLog) actions
    return {
      faultLog := p.session.log
      passedLog := p.passedLog
      iteration := s.iteration + 1
      injected := p.injected ++ s.injected
      thrown := p.thrown ++ s.thrown
      unfinished := p.decoding.map Prod.fst ++ s.unfinished }

/-- A process in which no call fails passes all tests it was given. -/
def FaultFreePasses (s : Files) (actions : List Action) : Prop :=
  anyFault actions = false →
    ∀ t ∈ remainingTests foldCase tests s.passedLog, t ∈ passedTests actions

instance (s : Files) (actions : List Action) :
    Decidable (FaultFreePasses foldCase tests s actions) :=
  inferInstanceAs (Decidable (_ → _))

/-! ## Invariants of a process -/

variable {foldCase tests} {start : Files} {actions : List Action} {p p' : TestProcess} {c : Stack}

/-- The file, and the stacks in memory that are not in it yet, or will not be. -/
structure Consistent (s : Session) (decoding : List (Stack × List CapturedFrame))
    (thrown : List Stack) : Prop where
  readBack : ReadBack s.log
  empty : [] ∈ s.log.logged
  known : ∀ c, c ∈ s.log.logged ∨ c ∈ decoding.map Prod.fst → c ∈ s.process.faultHash
  hash : ∀ c ∈ s.process.faultHash,
    c ∈ s.log.logged ∨ c ∈ decoding.map Prod.fst ∨ c ∈ thrown
  nodup : (decoding.map Prod.fst ++ s.log.logged).Nodup

variable {s : Session} {decoding : List (Stack × List CapturedFrame)} {thrown : List Stack}

/-- A log with the empty stack is read back as it was written. -/
theorem consistent_openLog {log : Log} (hread : ReadBack log) (hempty : [] ∈ log.logged)
    (hnodup : log.logged.Nodup) (thrown : List Stack) :
    ∃ s, openLog log = .ok s ∧ s.log.logged = log.logged ∧ Consistent s [] thrown := by
  obtain ⟨s, hopen, -, hlogged, hread', hhash⟩ := hread.openLog
  refine ⟨s, hopen, hlogged, hread', hlogged ▸ hempty, fun c hc => ?_, fun c hc => ?_, ?_⟩
  · rw [hhash, ← hlogged]
    exact .inl (hc.resolve_right List.not_mem_nil)
  · rw [hlogged]
    rcases (hhash c).mp hc with hc | ⟨rfl, -⟩
    · exact .inl hc
    · exact .inl hempty
  · rw [List.map_nil, List.nil_append, hlogged]
    exact hnodup

theorem Consistent.check (h : Consistent s decoding thrown) (stack : List CapturedFrame)
    (hnew : c ∉ s.process.faultHash) :
    Consistent (s.insert c) ((c, stack) :: decoding) thrown := by
  refine ⟨h.readBack, h.empty, fun d hd => ?_, fun d hd => ?_, ?_⟩
  · have hold := h.known d
    simp only [Session.insert, List.map_cons, List.mem_cons] at hd ⊢
    tauto
  · have hold := h.hash d
    simp only [Session.insert, List.map_cons, List.mem_cons] at hd ⊢
    tauto
  · refine List.nodup_cons.mpr ⟨fun hmem => hnew (h.known c ?_), h.nodup⟩
    exact (List.mem_append.mp hmem).symm

/-- What is being decoded, and one of it. -/
theorem decoding_perm {place : Nat} {stack : List CapturedFrame}
    (hplace : decoding[place]? = some (c, stack)) :
    (c :: (decoding.eraseIdx place).map Prod.fst).Perm (decoding.map Prod.fst) := by
  obtain ⟨hlt, hget⟩ := List.getElem?_eq_some_iff.mp hplace
  have hall := (List.getElem_cons_eraseIdx_perm hlt).map Prod.fst
  rwa [hget] at hall

/-- A record moves its stack from those that are being decoded to the log. -/
theorem Consistent.log (h : Consistent s decoding thrown) {place : Nat}
    {stack : List CapturedFrame} (hplace : decoding[place]? = some (c, stack)) :
    Consistent (s.record c stack) (decoding.eraseIdx place) thrown := by
  have hperm := decoding_perm hplace
  have hmem : ∀ d, d ∈ decoding.map Prod.fst ↔
      d = c ∨ d ∈ (decoding.eraseIdx place).map Prod.fst :=
    fun d => hperm.symm.mem_iff.trans List.mem_cons
  refine ⟨h.readBack.record c stack, List.mem_cons_of_mem _ h.empty, fun d hd => ?_,
    fun d hd => ?_, ?_⟩
  · have hold := h.known d
    rw [hmem] at hold
    simp only [Session.record, List.mem_cons] at hd
    exact hold (by tauto)
  · have hold := h.hash d hd
    rw [hmem] at hold
    simp only [Session.record, List.mem_cons]
    tauto
  · exact List.perm_middle.nodup_iff.mpr ((hperm.append_right _).nodup_iff.mpr h.nodup)

/-- A stack whose record is not written stays in memory, and is nowhere else. -/
theorem Consistent.logThrows (h : Consistent s decoding thrown) {place : Nat}
    {stack : List CapturedFrame} (hplace : decoding[place]? = some (c, stack)) :
    Consistent s (decoding.eraseIdx place) (c :: thrown) := by
  have hperm := decoding_perm hplace
  have hmem : ∀ d, d ∈ decoding.map Prod.fst ↔
      d = c ∨ d ∈ (decoding.eraseIdx place).map Prod.fst :=
    fun d => hperm.symm.mem_iff.trans List.mem_cons
  refine ⟨h.readBack, h.empty, fun d hd => ?_, fun d hd => ?_, ?_⟩
  · have hold := h.known d
    rw [hmem] at hold
    exact hold (by tauto)
  · have hold := h.hash d hd
    rw [hmem] at hold
    rw [List.mem_cons]
    tauto
  · exact (List.nodup_cons.mp ((hperm.append_right _).nodup_iff.mpr h.nodup)).2

/-- Another call has thrown. -/
theorem Consistent.insertThrows (h : Consistent s decoding thrown) (c : Stack) :
    Consistent s decoding (c :: thrown) where
  readBack := h.readBack
  empty := h.empty
  known := h.known
  hash := fun d hd => (h.hash d hd).imp_right (.imp_right (List.mem_cons_of_mem c))
  nodup := h.nodup

/-- Since the process was started. -/
structure ProcessInv (start : Files) (actions : List Action) (p : TestProcess) : Prop where
  consistent : Consistent p.session p.decoding p.thrown
  logged : p.session.log.logged = p.injected ++ start.faultLog.logged
  presented : ∀ c ∈ presentedStacks actions,
    c ∈ p.session.log.logged ∨ c ∈ p.decoding.map Prod.fst ∨ c ∈ p.thrown
  reached : ∀ c ∈ p.injected ++ p.decoding.map Prod.fst, c ∈ presentedStacks actions
  faulted : anyFault actions = true → p.injected ≠ []
  passed : p.passedLog = start.passedLog ++
    terminate '\n' ((passedTests actions).map TestName.chars)

/-- A call with a stack is one more that was presented. -/
theorem presentedStacks_concat {a : Action} (ha : presentedStacks [a] = [c]) :
    presentedStacks (actions ++ [a]) = presentedStacks actions ++ [c] := by
  rw [← ha, presentedStacks, List.filterMap_append]
  rfl

theorem ProcessInv.check (h : ProcessInv start actions p) {stack : List CapturedFrame}
    (hs : step p (.check c stack) = some p') :
    ProcessInv start (actions ++ [.check c stack]) p' := by
  have hpresented : presentedStacks (actions ++ [.check c stack]) =
      presentedStacks actions ++ [c] :=
    presentedStacks_concat rfl
  have hpassed : passedTests (actions ++ [.check c stack]) = passedTests actions := by
    simp [passedTests]
  have hfaulted : anyFault (actions ++ [.check c stack]) = anyFault actions := by
    simp [anyFault]
  simp only [step, List.contains_iff_mem] at hs
  split at hs
  · rename_i hknown
    cases hs
    refine ⟨h.consistent, h.logged, fun d hd => ?_, fun d hd => ?_, ?_, ?_⟩
    · rw [hpresented] at hd
      rcases List.mem_append.mp hd with hd | hd
      · exact h.presented d hd
      · rw [List.mem_singleton.mp hd]
        exact h.consistent.hash c hknown
    · rw [hpresented]
      exact List.mem_append_left _ (h.reached d hd)
    · rw [hfaulted]
      exact h.faulted
    · rw [hpassed]
      exact h.passed
  · rename_i hnew
    cases hs
    refine ⟨h.consistent.check stack hnew, h.logged, fun d hd => ?_, fun d hd => ?_, ?_, ?_⟩
    · have hold := h.presented d
      rw [hpresented] at hd
      simp only [List.mem_append, Session.insert, List.map_cons, List.mem_cons] at hd ⊢
      tauto
    · have hold := h.reached d
      rw [hpresented]
      simp only [List.map_cons, List.mem_append, List.mem_cons] at hd hold ⊢
      tauto
    · rw [hfaulted]
      exact h.faulted
    · rw [hpassed]
      exact h.passed

theorem ProcessInv.insertThrows (h : ProcessInv start actions p)
    (hs : step p (.insertThrows c) = some p') :
    ProcessInv start (actions ++ [.insertThrows c]) p' := by
  have hpresented : presentedStacks (actions ++ [.insertThrows c]) =
      presentedStacks actions ++ [c] :=
    presentedStacks_concat rfl
  have hpassed : passedTests (actions ++ [.insertThrows c]) = passedTests actions := by
    simp [passedTests]
  have hfaulted : anyFault (actions ++ [.insertThrows c]) = anyFault actions := by
    simp [anyFault]
  simp only [step] at hs
  split at hs
  · cases hs
  · cases hs
    refine ⟨h.consistent.insertThrows c, h.logged, fun d hd => ?_, fun d hd => ?_, ?_, ?_⟩
    · have hold := h.presented d
      rw [hpresented] at hd
      simp only [List.mem_append, List.mem_cons] at hd ⊢
      tauto
    · rw [hpresented]
      exact List.mem_append_left _ (h.reached d hd)
    · rw [hfaulted]
      exact h.faulted
    · rw [hpassed]
      exact h.passed

theorem ProcessInv.log (h : ProcessInv start actions p) {place : Nat}
    (hs : step p (.log place) = some p') : ProcessInv start (actions ++ [.log place]) p' := by
  have hpresented : presentedStacks (actions ++ [.log place]) = presentedStacks actions := by
    simp [presentedStacks]
  have hpassed : passedTests (actions ++ [.log place]) = passedTests actions := by
    simp [passedTests]
  obtain ⟨⟨c, stack⟩, hplace, rfl⟩ := Option.map_eq_some_iff.mp hs
  have hmem : ∀ d, d ∈ p.decoding.map Prod.fst ↔
      d = c ∨ d ∈ (p.decoding.eraseIdx place).map Prod.fst :=
    fun d => (decoding_perm hplace).symm.mem_iff.trans List.mem_cons
  refine ⟨h.consistent.log hplace, ?_, fun d hd => ?_, fun d hd => ?_,
    fun _ => List.cons_ne_nil _ _, ?_⟩
  · exact congrArg (c :: ·) h.logged
  · rw [hpresented] at hd
    have hold := h.presented d hd
    rw [hmem] at hold
    simp only [Session.record, List.mem_cons]
    tauto
  · have hold := h.reached d
    rw [List.mem_append, hmem] at hold
    rw [hpresented]
    simp only [List.cons_append, List.mem_cons, List.mem_append] at hd
    exact hold (by tauto)
  · rw [hpassed]
    exact h.passed

theorem ProcessInv.logThrows (h : ProcessInv start actions p) {place : Nat}
    (hs : step p (.logThrows place) = some p') :
    ProcessInv start (actions ++ [.logThrows place]) p' := by
  have hpresented : presentedStacks (actions ++ [.logThrows place]) = presentedStacks actions := by
    simp [presentedStacks]
  have hpassed : passedTests (actions ++ [.logThrows place]) = passedTests actions := by
    simp [passedTests]
  have hfaulted : anyFault (actions ++ [.logThrows place]) = anyFault actions := by
    simp [anyFault]
  obtain ⟨⟨c, stack⟩, hplace, rfl⟩ := Option.map_eq_some_iff.mp hs
  have hmem : ∀ d, d ∈ p.decoding.map Prod.fst ↔
      d = c ∨ d ∈ (p.decoding.eraseIdx place).map Prod.fst :=
    fun d => (decoding_perm hplace).symm.mem_iff.trans List.mem_cons
  refine ⟨h.consistent.logThrows hplace, h.logged, fun d hd => ?_, fun d hd => ?_, ?_, ?_⟩
  · rw [hpresented] at hd
    have hold := h.presented d hd
    rw [hmem] at hold
    rw [List.mem_cons]
    tauto
  · have hold := h.reached d
    rw [List.mem_append, hmem] at hold
    rw [hpresented]
    rw [List.mem_append] at hd
    exact hold (by tauto)
  · rw [hfaulted]
    exact h.faulted
  · rw [hpassed]
    exact h.passed

theorem ProcessInv.startAgain (h : ProcessInv start actions p)
    (hs : step p .startAgain = some p') : ProcessInv start (actions ++ [.startAgain]) p' := by
  have hpresented : presentedStacks (actions ++ [.startAgain]) = presentedStacks actions := by
    simp [presentedStacks]
  have hpassed : passedTests (actions ++ [.startAgain]) = passedTests actions := by
    simp [passedTests]
  have hfaulted : anyFault (actions ++ [.startAgain]) = anyFault actions := by
    simp [anyFault]
  simp only [step, List.isEmpty_iff] at hs
  split at hs
  · rename_i hidle
    have hnodup := h.consistent.nodup
    rw [hidle] at hnodup
    obtain ⟨session, hopen, hlogged, hconsistent⟩ :=
      consistent_openLog h.consistent.readBack h.consistent.empty hnodup p.thrown
    rw [hopen] at hs
    cases hs
    refine ⟨hidle ▸ hconsistent, hlogged.trans h.logged, ?_, ?_, ?_, ?_⟩
    · rw [hpresented, hlogged]
      exact h.presented
    · rw [hpresented]
      exact h.reached
    · rw [hfaulted]
      exact h.faulted
    · rw [hpassed]
      exact h.passed
  · cases hs

theorem ProcessInv.testCaseEnded (h : ProcessInv start actions p) {name : TestName}
    {failed : Nat} (hs : step p (.testCaseEnded name failed) = some p') :
    ProcessInv start (actions ++ [.testCaseEnded name failed]) p' := by
  have hpresented :
      presentedStacks (actions ++ [.testCaseEnded name failed]) = presentedStacks actions := by
    simp [presentedStacks]
  have hfaulted : anyFault (actions ++ [.testCaseEnded name failed]) = anyFault actions := by
    simp [anyFault]
  cases hs
  refine ⟨h.consistent, h.logged, ?_, ?_, ?_, ?_⟩
  · rw [hpresented]
    exact h.presented
  · rw [hpresented]
    exact h.reached
  · rw [hfaulted]
    exact h.faulted
  · cases failed with
    | zero => simp [passedTests, terminate, h.passed]
    | succ failed => simp [passedTests, h.passed]

theorem processInv_step {a : Action} (h : ProcessInv start actions p)
    (hs : step p a = some p') : ProcessInv start (actions ++ [a]) p' := by
  cases a with
  | check canonical stack => exact h.check hs
  | insertThrows canonical => exact h.insertThrows hs
  | log place => exact h.log hs
  | logThrows place => exact h.logThrows hs
  | startAgain => exact h.startAgain hs
  | testCaseEnded name failed => exact h.testCaseEnded hs

/-! ## From one process to the next -/

variable {processes : List (List Action)} {f f' : Files}

/-- The lines of `.passed.log`. -/
def passedLines (processes : List (List Action)) : List (List Char) :=
  [] :: (processes.flatMap passedTests).map TestName.chars

theorem passedLines_concat (processes : List (List Action)) (actions : List Action) :
    passedLines (processes ++ [actions]) =
      passedLines processes ++ (passedTests actions).map TestName.chars := by
  simp [passedLines]

theorem mem_remainingTests {t : TestName} :
    t ∈ remainingTests foldCase tests (terminate '\n' (passedLines processes)) ↔
      t ∈ tests ∧ ∀ line ∈ passedLines processes, foldCase line ≠ foldCase t.chars := by
  have hlines : ∀ line ∈ passedLines processes, '\n' ∉ line := by
    intro line hline
    rcases List.mem_cons.mp hline with rfl | hline
    · exact List.not_mem_nil
    · obtain ⟨t, -, rfl⟩ := List.mem_map.mp hline
      exact t.noNewline
  rw [remainingTests, lines_terminate hlines, List.mem_filter]
  simp

/-- What the files say of the processes that wrote them. -/
structure FilesInv (processes : List (List Action)) (f : Files) : Prop where
  readBack : ReadBack f.faultLog
  logged : f.faultLog.logged = f.injected ++ [[]]
  nodup : f.faultLog.logged.Nodup
  covered : ∀ c ∈ processes.flatMap presentedStacks,
    c = [] ∨ c ∈ f.injected ∨ c ∈ f.thrown ∨ c ∈ f.unfinished
  reached : ∀ c ∈ f.injected, c ∈ processes.flatMap presentedStacks
  passed : f.passedLog = terminate '\n' (passedLines processes)
  iteration : f.iteration = processes.length

theorem filesInv_init : FilesInv [] Files.init where
  readBack := ⟨[[]], by simp, rfl, { faultHash := [[]], iteration := 0 }, rfl, rfl,
    by simp [Files.init]⟩
  logged := rfl
  nodup := List.nodup_singleton _
  covered := nofun
  reached := nofun
  passed := rfl
  iteration := rfl

theorem FilesInv.openLog (h : FilesInv processes f) :
    ∃ session, openLog f.faultLog = .ok session ∧
      ProcessInv f [] (.init session f.passedLog) := by
  have hempty : [] ∈ f.faultLog.logged := by
    rw [h.logged]
    exact List.mem_append_right _ List.mem_cons_self
  obtain ⟨session, hopen, hlogged, hconsistent⟩ := consistent_openLog h.readBack hempty h.nodup []
  exact ⟨session, hopen, hconsistent, hlogged, nofun, nofun, nofun, (List.append_nil _).symm⟩

theorem iterate_cases (h : iterate foldCase tests f actions = some f') :
    remainingTests foldCase tests f.passedLog ≠ [] ∧
      ∃ session p, Fault.openLog f.faultLog = .ok session ∧
        exec step (.init session f.passedLog) actions = some p ∧
        f' = {
          faultLog := p.session.log
          passedLog := p.passedLog
          iteration := f.iteration + 1
          injected := p.injected ++ f.injected
          thrown := p.thrown ++ f.thrown
          unfinished := p.decoding.map Prod.fst ++ f.unfinished } := by
  unfold iterate at h
  split at h
  · cases h
  · rename_i hrest
    obtain ⟨session, hopen, h⟩ := Option.bind_eq_some_iff.mp h
    obtain ⟨p, hp, h⟩ := Option.bind_eq_some_iff.mp h
    refine ⟨fun hnil => hrest (by rw [hnil]; rfl), session, p, ?_, hp, (Option.some.inj h).symm⟩
    cases hlog : Fault.openLog f.faultLog with
    | error e =>
      rw [hlog] at hopen
      cases hopen
    | ok s =>
      rw [hlog] at hopen
      cases hopen
      rfl

/-- Another process adds to the files, and to the faults if a call failed in it. -/
theorem filesInv_iterate (h : FilesInv processes f)
    (hstep : iterate foldCase tests f actions = some f') :
    FilesInv (processes ++ [actions]) f' ∧ f.injected.length ≤ f'.injected.length ∧
      (anyFault actions = true → f.injected.length < f'.injected.length) := by
  obtain ⟨-, session, p, hopen, hp, rfl⟩ := iterate_cases hstep
  obtain ⟨session', hopen', hinit⟩ := h.openLog
  obtain rfl : session = session' := Except.ok.inj (hopen.symm.trans hopen')
  have hfree : Guarded step (fun _ _ => True) (.init session f.passedLog) actions :=
    guarded_of_mem fun _ _ => trivial
  have hinv : ProcessInv f actions p :=
    exec_invariant_of_actions (fun _ _ _ _ hp _ hs => processInv_step hp hs) hinit hfree hp
  have hlogged : p.session.log.logged = (p.injected ++ f.injected) ++ [[]] := by
    rw [hinv.logged, h.logged, List.append_assoc]
  have hpresented : ∀ c, c ∈ (processes ++ [actions]).flatMap presentedStacks ↔
      c ∈ processes.flatMap presentedStacks ∨ c ∈ presentedStacks actions := by
    simp
  refine ⟨⟨hinv.consistent.readBack, hlogged, ?_, fun c hc => ?_, fun c hc => ?_, ?_, ?_⟩, ?_, ?_⟩
  · exact (List.nodup_append.mp hinv.consistent.nodup).2.1
  · simp only [List.mem_append]
    rcases (hpresented c).mp hc with hc | hc
    · have hold := h.covered c hc
      tauto
    · have hnew := hinv.presented c hc
      rw [hlogged] at hnew
      simp only [List.mem_append, List.mem_singleton] at hnew
      tauto
  · rw [hpresented]
    rcases List.mem_append.mp hc with hc | hc
    · exact .inr (hinv.reached c (List.mem_append_left _ hc))
    · exact .inl (h.reached c hc)
  · show p.passedLog = _
    rw [hinv.passed, h.passed, passedLines_concat, terminate_append]
  · show f.iteration + 1 = _
    rw [h.iteration, List.length_append]
    rfl
  · show _ ≤ (p.injected ++ f.injected).length
    rw [List.length_append]
    omega
  · intro hfault
    have hpos := List.length_pos_iff.mpr (hinv.faulted hfault)
    show _ < (p.injected ++ f.injected).length
    rw [List.length_append]
    omega

theorem filesInv_exec (hrun : exec (iterate foldCase tests) .init processes = some f) :
    FilesInv processes f := by
  have hfree : Guarded (iterate foldCase tests) (fun _ _ => True) .init processes :=
    guarded_of_mem fun _ _ => trivial
  have hstep : ∀ before g actions g', FilesInv before g → True →
      iterate foldCase tests g actions = some g' → FilesInv (before ++ [actions]) g' :=
    fun _ _ _ _ hg _ hs => (filesInv_iterate hg hs).1
  exact exec_invariant_of_actions hstep filesInv_init hfree hrun

/--
All over the pass, in whatever order threads reach their critical sections and wherever processes
end: no two calls fail at the same stack, none at the empty one, and those that fail had presented
theirs. Every other stack that was presented was failed, or a call with it ran out of memory, or its
process ended while it was being decoded.
-/
theorem faults_covered (foldCase : List Char → List Char) (tests : List TestName)
    (processes : List (List Action)) (f : Files)
    (hrun : exec (iterate foldCase tests) .init processes = some f) :
    f.injected.Nodup ∧ [] ∉ f.injected ∧
      (∀ c ∈ f.injected, c ∈ processes.flatMap presentedStacks) ∧
      ∀ c ∈ processes.flatMap presentedStacks, c ≠ [] →
        c ∈ f.injected ∨ c ∈ f.thrown ∨ c ∈ f.unfinished := by
  have hinv := filesInv_exec hrun
  have hnodup := hinv.nodup
  rw [hinv.logged] at hnodup
  obtain ⟨hinjected, -, hdisjoint⟩ := List.nodup_append.mp hnodup
  refine ⟨hinjected, fun hempty => ?_, hinv.reached, fun c hc hne => ?_⟩
  · exact hdisjoint [] hempty [] (List.mem_singleton.mpr rfl) rfl
  · exact (hinv.covered c hc).resolve_left hne

def firstTest : TestName := { chars := ['o', 'b'], noNewline := by decide }

def secondTest : TestName := { chars := ['s', 'e'], noNewline := by decide }

/-- The first process is killed while it decodes a stack, after a call has run out of memory at
another. The second one crashes in the call that fails there; a call that runs out of memory is not
tried again before the log is opened again. The third one meets no stack that is new. -/
def threeProcesses : List (List Action) :=
  [[.check [0x10] [], .log 0, .testCaseEnded firstTest 1, .testCaseEnded secondTest 0,
      .insertThrows [0x30], .check [0x20] []],
    [.check [0x10] [], .startAgain, .check [0x30] [], .logThrows 0, .check [0x30] [], .startAgain,
      .check [0x30] [], .log 0, .check [0x20] [], .log 0],
    [.check [] [], .check [0x20] [], .check [0x10] [], .testCaseEnded firstTest 0]]

theorem faults_covered_threeProcesses :
    ∃ f, exec (iterate (·.map Char.toLower) [firstTest, secondTest]) .init threeProcesses = some f ∧
      (f.injected = [[0x20], [0x30], [0x10]] ∧ f.thrown = [[0x30], [0x30]] ∧
        f.unfinished = [[0x20]]) ∧ f.injected.Nodup := by
  obtain ⟨f, hf, hinjected⟩ :
      ∃ f, exec (iterate (·.map Char.toLower) [firstTest, secondTest]) .init threeProcesses =
        some f ∧ f.injected = [[0x20], [0x30], [0x10]] ∧ f.thrown = [[0x30], [0x30]] ∧
          f.unfinished = [[0x20]] :=
    exec_of_check (by decide +kernel)
  exact ⟨f, hf, hinjected, (faults_covered _ _ threeProcesses f hf).1⟩

/-! ## The end of the pass -/

/-- Every iteration but the last has injected a fault. -/
def Progress (foldCase : List Char → List Char) (tests : List TestName) (f : Files) : Prop :=
  f.iteration ≤ f.injected.length ∨
    (remainingTests foldCase tests f.passedLog = [] ∧ f.iteration ≤ f.injected.length + 1)

/-- After a process without a fault nothing remains. -/
theorem remainingTests_eq_nil (h : FilesInv processes f)
    (hstep : iterate foldCase tests f actions = some f')
    (hpasses : ∀ t ∈ remainingTests foldCase tests f.passedLog, t ∈ passedTests actions) :
    remainingTests foldCase tests f'.passedLog = [] := by
  have hinv := (filesInv_iterate h hstep).1
  refine List.eq_nil_iff_forall_not_mem.mpr fun t ht => ?_
  rw [hinv.passed, mem_remainingTests, passedLines_concat] at ht
  obtain ⟨ht, hlines⟩ := ht
  refine hlines t.chars (List.mem_append_right _ ?_) rfl
  refine List.mem_map_of_mem (hpasses t ?_)
  rw [h.passed, mem_remainingTests]
  exact ⟨ht, fun line hline => hlines line (List.mem_append_left _ hline)⟩

theorem progress_iterate (h : FilesInv processes f) (hprogress : Progress foldCase tests f)
    (hfree : FaultFreePasses foldCase tests f actions)
    (hstep : iterate foldCase tests f actions = some f') : Progress foldCase tests f' := by
  obtain ⟨hinv, hle, hlt⟩ := filesInv_iterate h hstep
  have hiteration : f'.iteration = f.iteration + 1 := by
    rw [hinv.iteration, h.iteration, List.length_append]
    rfl
  have hbefore : f.iteration ≤ f.injected.length :=
    hprogress.resolve_right fun hover => (iterate_cases hstep).1 hover.1
  cases hfault : anyFault actions with
  | true =>
    have hmore := hlt hfault
    exact .inl (by omega)
  | false => exact .inr ⟨remainingTests_eq_nil h hstep (hfree hfault), by omega⟩

/--
If the test program passes whenever no call fails in it, and there are finitely many stacks at which
calls can fail, then the pass comes to its end: there are never more iterations than stacks, the
empty one aside, and one more. The log can be opened again after each of them. When the script
leaves its loop, every test that was listed has passed, or one whose name differs in case only.
-/
theorem pass_ends (foldCase : List Char → List Char) (tests : List TestName)
    (points : Finset Stack) (processes : List (List Action)) (f : Files)
    (hnames : ∀ t ∈ tests, foldCase [] ≠ foldCase t.chars)
    (hpoints : ∀ c ∈ processes.flatMap presentedStacks, c ∈ points)
    (hfree : Guarded (iterate foldCase tests) (FaultFreePasses foldCase tests) .init processes)
    (hrun : exec (iterate foldCase tests) .init processes = some f) :
    processes.length ≤ (points.erase []).card + 1 ∧
      (∃ session, openLog f.faultLog = .ok session) ∧
      (remainingTests foldCase tests f.passedLog = [] →
        ∀ t ∈ tests, ∃ t' ∈ processes.flatMap passedTests,
          foldCase t'.chars = foldCase t.chars) := by
  have hinv := filesInv_exec hrun
  have hprogress : Progress foldCase tests f := by
    have hboth : FilesInv processes f ∧ Progress foldCase tests f :=
      exec_invariant_of_actions
        (Q := fun before g => FilesInv before g ∧ Progress foldCase tests g)
        (fun _ _ _ _ hg hfree hs =>
          ⟨(filesInv_iterate hg.1 hs).1, progress_iterate hg.1 hg.2 hfree hs⟩)
        ⟨filesInv_init, .inl (Nat.zero_le _)⟩ hfree hrun
    exact hboth.2
  have hcard : f.injected.length ≤ (points.erase []).card := by
    have hnodup := hinv.nodup
    rw [hinv.logged] at hnodup
    obtain ⟨hinjected, -, hdisjoint⟩ := List.nodup_append.mp hnodup
    rw [← List.toFinset_card_of_nodup hinjected]
    refine Finset.card_le_card fun c hc => ?_
    rw [List.mem_toFinset] at hc
    refine Finset.mem_erase.mpr ⟨?_, hpoints c (hinv.reached c hc)⟩
    exact hdisjoint c hc [] (List.mem_singleton.mpr rfl)
  refine ⟨?_, ?_, fun hover t ht => ?_⟩
  · rw [← hinv.iteration]
    rcases hprogress with h | ⟨-, h⟩ <;> omega
  · obtain ⟨session, hopen, -⟩ := hinv.openLog
    exact ⟨session, hopen⟩
  · by_contra hnone
    have hremains : t ∈ remainingTests foldCase tests f.passedLog := by
      rw [hinv.passed, mem_remainingTests]
      refine ⟨ht, fun line hline heq => ?_⟩
      rcases List.mem_cons.mp hline with rfl | hline
      · exact hnames t ht heq
      · obtain ⟨t', ht', rfl⟩ := List.mem_map.mp hline
        exact hnone ⟨t', ht', heq⟩
    rw [hover] at hremains
    cases hremains

theorem pass_ends_threeProcesses :
    ∃ f, exec (iterate (·.map Char.toLower) [firstTest, secondTest]) .init threeProcesses = some f ∧
      f.iteration = 3 ∧
        threeProcesses.length ≤
          (({[], [0x10], [0x20], [0x30]} : Finset Stack).erase []).card + 1 := by
  obtain ⟨f, hf, hiteration⟩ :
      ∃ f, exec (iterate (·.map Char.toLower) [firstTest, secondTest]) .init threeProcesses =
        some f ∧ f.iteration = 3 := exec_of_check (by decide +kernel)
  exact ⟨f, hf, hiteration,
    (pass_ends (·.map Char.toLower) [firstTest, secondTest] _ threeProcesses f
    (by decide) (by decide) (guarded_of_check (by decide +kernel)) hf).1⟩

end Pass

end Usersim.Fault
