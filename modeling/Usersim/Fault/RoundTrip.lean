import Usersim.Fault.Log

/-!
# Reading the fault log back

A line of a record is either the canonical stack, a comment, or empty. The reader takes the empty
line for a record of the empty stack, so a file with any record is read back with the empty stack
(`ReadBack`), whether it was logged or not. From the second iteration on the empty stack then is in
`_fault_hash` and is not logged any more: it is in the log only if the first iteration that injects
a fault injects it.

* `fault_log_round_trip` — for every sequence of iterations: the file is read without an exception,
  the headers are counted, and when the stacks that were logged are read back
-/

namespace Usersim.Fault

open Lib

/-! ## Lines of a record -/

theorem newline_not_mem_hex (n : Nat) : '\n' ∉ hex n :=
  not_mem_hex (by decide) n

theorem newline_not_mem_decimal (n : Nat) : '\n' ∉ decimal n := by
  intro h
  exact absurd (Nat.isDigit_of_mem_toDigits (by decide) (by decide) h) (by decide)

theorem newline_not_mem_sourceText (symbol : Symbol) : '\n' ∉ sourceText symbol := by
  unfold sourceText
  split
  · rename_i line file _ _
    simp [file.noNewline, newline_not_mem_hex]
  · simp

theorem newline_not_mem_frameLine (frame : CapturedFrame) : '\n' ∉ frameLine frame := by
  unfold frameLine
  split
  · rename_i symbol _
    simp [symbol.name.noNewline, newline_not_mem_hex, newline_not_mem_sourceText]
  · decide

theorem newline_not_mem_canonicalLine (canonical : Stack) : '\n' ∉ canonicalLine canonical := by
  simp [canonicalLine, terminate, newline_not_mem_hex]

def recordLines (canonical : Stack) (stack : List CapturedFrame) : List (List Char) :=
  canonicalLine canonical ::
    ((stack.takeWhile fun frame => frame.address ≠ 0).map frameLine ++ [[]])

theorem logRecord_eq (canonical : Stack) (stack : List CapturedFrame) :
    logRecord canonical stack = terminate '\n' (recordLines canonical stack) := by
  simp [logRecord, recordLines, terminate]

theorem newline_not_mem_recordLines (canonical : Stack) (stack : List CapturedFrame) :
    ∀ l ∈ recordLines canonical stack, '\n' ∉ l := by
  intro l hl
  simp only [recordLines, List.mem_cons, List.mem_append, List.mem_map, List.not_mem_nil,
    or_false] at hl
  rcases hl with rfl | ⟨frame, -, rfl⟩ | rfl
  · exact newline_not_mem_canonicalLine canonical
  · exact newline_not_mem_frameLine frame
  · exact List.not_mem_nil

/-! ## Reading a line -/

theorem readLine_header (p : Process) (text : List Char) :
    readLine p (iterationHeader ++ text) = .ok { p with iteration := p.iteration + 1 } := by
  rw [readLine, if_pos]
  exact List.isPrefixOf_iff_prefix.mpr (List.prefix_append _ _)

/-- Text that begins with a number begins with a digit. -/
theorem head?_hex_append_ne {c : Char} (hc : isHex c = false) (n : Nat) (text : List Char) :
    (hex n ++ text).head? ≠ some c := by
  intro hhead
  rw [List.head?_append_of_ne_nil _ (hex_ne_nil n)] at hhead
  rw [isHex_of_mem_hex c (List.mem_of_head? hhead)] at hc
  cases hc

theorem isPrefixOf_of_head?_ne {c : Char} {pre line : List Char} (h : line.head? ≠ some c) :
    (c :: pre).isPrefixOf line = false := by
  cases line with
  | nil => rfl
  | cons d rest =>
    have hne : c ≠ d := by
      rintro rfl
      exact h rfl
    simp [List.isPrefixOf, hne]

/-- A comment is not taken for a header: its address begins with a digit. -/
theorem readLine_frameLine (p : Process) (frame : CapturedFrame) :
    readLine p (frameLine frame) = .ok p := by
  have hheader : iterationHeader.isPrefixOf (frameLine frame) = false := by
    unfold frameLine
    split
    · simp only [List.append_assoc]
      change ('I' :: "teration: ".toList).isPrefixOf (hex _ ++ _) = false
      exact isPrefixOf_of_head?_ne (head?_hex_append_ne (by decide) _ _)
    · decide
  have hcomment : "#".toList.isPrefixOf (frameLine frame) = true := rfl
  rw [readLine, hheader, hcomment]
  rfl

theorem mapM_stoull_hex (stack : Stack) :
    (stack.map fun address => hex address.toNat).mapM stoull = .ok stack := by
  induction stack with
  | nil => rfl
  | cons address stack ih =>
    rw [List.map_cons, List.mapM_cons, stoull_hex, ih]
    rfl

theorem head?_canonicalLine (canonical : Stack) : (canonicalLine canonical).head? ≠ some '#' := by
  cases canonical with
  | nil => simp [canonicalLine, terminate]
  | cons address canonical =>
    simp only [canonicalLine, terminate, List.map_cons, List.flatMap_cons, List.append_assoc]
    exact head?_hex_append_ne (by decide) _ _

theorem readLine_canonicalLine (p : Process) (canonical : Stack) :
    readLine p (canonicalLine canonical) =
      .ok { p with faultHash := p.faultHash.insert canonical } := by
  have hhead := head?_canonicalLine canonical
  have hspace : ∀ l ∈ canonical.map fun address => hex address.toNat, ' ' ∉ l := by
    intro l hl
    obtain ⟨address, -, rfl⟩ := List.mem_map.mp hl
    exact not_mem_hex (by decide) _
  have hheader : iterationHeader.isPrefixOf (canonicalLine canonical) = false :=
    isPrefixOf_of_head?_ne hhead
  have hcomment : "#".toList.isPrefixOf (canonicalLine canonical) = false :=
    isPrefixOf_of_head?_ne hhead
  have hstack : (lines ' ' (canonicalLine canonical)).mapM stoull = .ok canonical := by
    rw [canonicalLine, lines_terminate hspace, mapM_stoull_hex]
  simp only [readLine, hheader, hcomment, hstack, Bool.false_eq_true, if_false]
  rfl

theorem foldlM_readLine_frames (p : Process) (frames : List CapturedFrame) :
    (frames.map frameLine).foldlM readLine p = .ok p := by
  induction frames with
  | nil => rfl
  | cons frame frames ih =>
    rw [List.map_cons, List.foldlM_cons, readLine_frameLine]
    exact ih

/-- A record is read as two stacks: the one that was logged and the empty one. -/
theorem foldlM_readLine_record (p : Process) (canonical : Stack) (stack : List CapturedFrame) :
    (recordLines canonical stack).foldlM readLine p =
      .ok { p with faultHash := (p.faultHash.insert canonical).insert [] } := by
  have hblank : ∀ p, readLine p [] = .ok { p with faultHash := p.faultHash.insert [] } :=
    fun p => readLine_canonicalLine p []
  rw [recordLines, List.foldlM_cons, readLine_canonicalLine]
  simp only [bind, Except.bind, List.foldlM_append, foldlM_readLine_frames, List.foldlM_cons,
    hblank, List.foldlM_nil]
  rfl

/-! ## The file -/

/-- The file is lines that are read back as what was logged, and as the empty stack if anything
was. -/
def ReadBack (log : Log) : Prop :=
  ∃ ls, (∀ l ∈ ls, '\n' ∉ l) ∧ log.file = terminate '\n' ls ∧
    ∃ p, ls.foldlM readLine { faultHash := [], iteration := 0 } = .ok p ∧
      p.iteration = log.headers ∧
      ∀ c, c ∈ p.faultHash ↔ c ∈ log.logged ∨ (c = [] ∧ log.logged ≠ [])

theorem readBack_empty : ReadBack .empty :=
  ⟨[], by simp, rfl, { faultHash := [], iteration := 0 }, rfl, rfl, by simp [Log.empty]⟩

theorem ReadBack.openLog {log : Log} (h : ReadBack log) :
    ∃ s, openLog log = .ok s ∧ s.process.iteration = log.headers + 1 ∧
      s.log.logged = log.logged ∧ ReadBack s.log ∧
      ∀ c, c ∈ s.process.faultHash ↔ c ∈ log.logged ∨ (c = [] ∧ log.logged ≠ []) := by
  obtain ⟨ls, hls, hfile, p, hp, hiter, hhash⟩ := h
  have hload : loadFaultLog log.file = .ok ({ p with iteration := p.iteration + 1 },
      log.file ++ iterationHeader ++ decimal (p.iteration + 1) ++ ['\n']) := by
    rw [loadFaultLog, hfile, lines_terminate hls, hp]
    rfl
  refine ⟨_, by rw [Fault.openLog, hload]; rfl, by rw [hiter], rfl, ?_, hhash⟩
  have hheader : '\n' ∉ iterationHeader := by decide
  refine ⟨ls ++ [iterationHeader ++ decimal (p.iteration + 1)], ?_, ?_, ?_⟩
  · intro l hl
    rcases List.mem_append.mp hl with hl | hl
    · exact hls l hl
    · rw [List.mem_singleton.mp hl, List.mem_append, not_or]
      exact ⟨hheader, newline_not_mem_decimal _⟩
  · rw [terminate_append, hfile]
    simp [terminate]
  · refine ⟨{ p with iteration := p.iteration + 1 }, ?_, by rw [hiter], hhash⟩
    simp only [List.foldlM_append, hp, bind, Except.bind, List.foldlM_cons, readLine_header]
    rfl

theorem ReadBack.record {log : Log} (h : ReadBack log) (canonical : Stack)
    (stack : List CapturedFrame) :
    ReadBack { log with
      file := log.file ++ logRecord canonical stack, logged := canonical :: log.logged } := by
  obtain ⟨ls, hls, hfile, p, hp, hiter, hhash⟩ := h
  refine ⟨ls ++ recordLines canonical stack, ?_, ?_,
    { p with faultHash := (p.faultHash.insert canonical).insert [] }, ?_, hiter, ?_⟩
  · intro l hl
    rcases List.mem_append.mp hl with hl | hl
    · exact hls l hl
    · exact newline_not_mem_recordLines canonical stack l hl
  · rw [terminate_append, hfile, logRecord_eq]
  · simp only [List.foldlM_append, hp, bind, Except.bind, foldlM_readLine_record]
  · intro c
    simp only [List.mem_insert_iff, hhash, List.mem_cons, ne_eq, reduceCtorEq, not_false_eq_true,
      and_true]
    tauto

/-! ## The stacks that are injected -/

/-- The canonical stacks injected since the last reset: by the process that runs, and by the ones
before it, the latest first. -/
structure Injected where
  current : List Stack
  earlier : List (List Stack)

def Injected.call (i : Injected) : Call → Injected
  | .inject canonical _ => { i with current := canonical :: i.current }
  | .reset => { current := [], earlier := [] }

def Injected.all (i : Injected) : List (List Stack) :=
  i.current :: i.earlier

def injectedSinceReset (processes : List (List Call)) : List (List Stack) :=
  processes.foldl (fun earlier calls =>
    (calls.foldl Injected.call { current := [], earlier := earlier }).all) []

/-- What the first process that injected a fault injected; nothing if there is none. -/
def firstInjected : List (List Stack) → List Stack
  | [] => []
  | current :: earlier => if firstInjected earlier = [] then current else firstInjected earlier

/-- The log and the stacks that were injected. -/
structure LogOk (log : Log) (injected : List (List Stack)) : Prop where
  readBack : ReadBack log
  logged : log.logged = [] ↔ firstInjected injected = []
  empty : [] ∈ log.logged ↔ [] ∈ firstInjected injected

structure SessionOk (s : Session) (i : Injected) : Prop where
  log : LogOk s.log i.all
  hash : ∀ c, c ∈ s.process.faultHash ↔
    c ∈ s.log.logged ∨ (c = [] ∧ firstInjected i.earlier ≠ [])

theorem LogOk.openLog {log : Log} {injected : List (List Stack)} (h : LogOk log injected) :
    ∃ s, openLog log = .ok s ∧ SessionOk s { current := [], earlier := injected } := by
  obtain ⟨s, hopen, -, hlogged, hread, hhash⟩ := h.readBack.openLog
  have hfirst : firstInjected ([] :: injected) = firstInjected injected := by
    by_cases hnil : firstInjected injected = [] <;> simp [firstInjected, hnil]
  refine ⟨s, hopen, ⟨hread, ?_, ?_⟩, ?_⟩
  · rw [hlogged, Injected.all, hfirst]
    exact h.logged
  · rw [hlogged, Injected.all, hfirst]
    exact h.empty
  · intro c
    rw [hhash, hlogged, ne_eq, h.logged]

/-- A further stack of the process that runs. -/
theorem firstInjected_cons (canonical : Stack) (i : Injected) :
    firstInjected ({ i with current := canonical :: i.current } : Injected).all =
      if firstInjected i.earlier = [] then canonical :: i.current else firstInjected i.earlier :=
  rfl

/-- A stack in the hash was logged, unless it is the empty one that an earlier process left. -/
theorem SessionOk.known {s : Session} {i : Injected} (h : SessionOk s i) {canonical : Stack}
    (hmem : canonical ∈ s.process.faultHash) :
    SessionOk s { i with current := canonical :: i.current } := by
  have hlogged := (h.hash canonical).mp hmem
  have hok := h.log
  simp only [Injected.all] at hok
  refine ⟨⟨hok.readBack, ?_, ?_⟩, h.hash⟩
  · have hold := hok.logged
    rw [firstInjected_cons]
    by_cases he : firstInjected i.earlier = []
    · have hne : s.log.logged ≠ [] := by
        rcases hlogged with hlogged | hlogged
        · exact List.ne_nil_of_mem hlogged
        · exact absurd he hlogged.2
      simp [he, hne]
    · simpa [firstInjected, he] using hold
  · have hold := hok.empty
    rw [firstInjected_cons]
    by_cases he : firstInjected i.earlier = []
    · rw [firstInjected, if_pos he] at hold
      rw [if_pos he, List.mem_cons, ← hold]
      constructor
      · exact .inr
      · rintro (rfl | hempty)
        · simpa [he] using hlogged
        · exact hempty
    · simpa [firstInjected, he] using hold

theorem SessionOk.inject {s : Session} {i : Injected} (h : SessionOk s i) (canonical : Stack)
    (stack : List CapturedFrame) :
    SessionOk (s.isNewStack canonical stack).1 { i with current := canonical :: i.current } := by
  unfold Session.isNewStack
  split
  · rename_i hmem
    exact h.known (List.contains_iff_mem.mp hmem)
  · rename_i hmem
    rw [List.contains_iff_mem, h.hash, not_or] at hmem
    have hok := h.log
    simp only [Injected.all] at hok
    refine ⟨⟨hok.readBack.record canonical stack, ?_, ?_⟩, ?_⟩
    · rw [firstInjected_cons]
      by_cases he : firstInjected i.earlier = []
      · simp [he]
      · simp [he]
    · have hold := hok.empty
      rw [firstInjected_cons]
      by_cases he : firstInjected i.earlier = []
      · rw [firstInjected, if_pos he] at hold
        rw [if_pos he, List.mem_cons, List.mem_cons, hold]
      · -- an earlier process has logged something, so this is not the empty stack
        have hne : [] ≠ canonical := fun heq => hmem.2 ⟨heq.symm, he⟩
        rw [firstInjected, if_neg he] at hold
        rw [if_neg he, List.mem_cons, hold]
        simp [hne]
    · intro c
      simp only [List.mem_cons, h.hash]
      tauto

theorem sessionOk_reset (s : Session) : SessionOk s.reset { current := [], earlier := [] } where
  log := ⟨readBack_empty, by simp [Session.reset, Log.empty, Injected.all, firstInjected],
    by simp [Session.reset, Log.empty, Injected.all, firstInjected]⟩
  hash := by simp [Session.reset, Log.empty, firstInjected]

theorem SessionOk.call {s : Session} {i : Injected} (h : SessionOk s i) (call : Call) :
    SessionOk (s.call call) (i.call call) := by
  cases call with
  | inject canonical stack => exact h.inject canonical stack
  | reset => exact sessionOk_reset s

theorem SessionOk.calls {s : Session} {i : Injected} (h : SessionOk s i) (calls : List Call) :
    SessionOk (calls.foldl Session.call s) (calls.foldl Injected.call i) := by
  induction calls generalizing s i with
  | nil => exact h
  | cons call calls ih => exact ih (h.call call)

/-! ## Every sequence of iterations -/

theorem LogOk.iterate {log : Log} {injected : List (List Stack)} (h : LogOk log injected)
    (calls : List Call) :
    ∃ log', iterate log calls = .ok log' ∧
      LogOk log' (calls.foldl Injected.call { current := [], earlier := injected }).all := by
  obtain ⟨s, hopen, hs⟩ := h.openLog
  refine ⟨_, ?_, (hs.calls calls).log⟩
  rw [Fault.iterate, hopen]
  rfl

theorem LogOk.foldlM {processes : List (List Call)} :
    ∀ {log : Log} {injected : List (List Stack)}, LogOk log injected →
      ∃ log', processes.foldlM Fault.iterate log = .ok log' ∧
        LogOk log' (processes.foldl (fun earlier calls =>
          (calls.foldl Injected.call { current := [], earlier := earlier }).all) injected) := by
  induction processes with
  | nil => exact fun h => ⟨_, rfl, h⟩
  | cons calls processes ih =>
    intro log injected h
    obtain ⟨log₁, h₁, hok₁⟩ := h.iterate calls
    obtain ⟨log₂, h₂, hok₂⟩ := ih hok₁
    refine ⟨log₂, ?_, hok₂⟩
    rw [List.foldlM_cons, h₁]
    exact h₂

theorem logOk_iterations (processes : List (List Call)) :
    ∃ log, iterations processes = .ok log ∧ LogOk log (injectedSinceReset processes) :=
  LogOk.foldlM ⟨readBack_empty, by simp [Log.empty, firstInjected],
    by simp [Log.empty, firstInjected]⟩

/-- Since the last reset no fault was injected, or the first process that injected one also
injected the empty stack. -/
def EmptyStackFirst (processes : List (List Call)) : Prop :=
  firstInjected (injectedSinceReset processes) = [] ∨
    [] ∈ firstInjected (injectedSinceReset processes)

/-- The log of every sequence of processes is read back without an exception and with its headers
counted; the stacks that are read back are those that were logged just when the empty stack was
injected first. -/
theorem fault_log_round_trip (processes : List (List Call)) :
    ∃ log s, iterations processes = .ok log ∧ openLog log = .ok s ∧
      s.process.iteration = log.headers + 1 ∧
      ((∀ c, c ∈ s.process.faultHash ↔ c ∈ log.logged) ↔ EmptyStackFirst processes) := by
  obtain ⟨log, hlog, hok⟩ := logOk_iterations processes
  obtain ⟨s, hopen, hiter, -, -, hhash⟩ := hok.readBack.openLog
  refine ⟨log, s, hlog, hopen, hiter, ?_⟩
  rw [EmptyStackFirst, ← hok.logged, ← hok.empty]
  constructor
  · intro hsame
    by_cases hnil : log.logged = []
    · exact .inl hnil
    · exact .inr ((hsame []).mp ((hhash []).mpr (.inr ⟨rfl, hnil⟩)))
  · intro hempty c
    rw [hhash]
    constructor
    · rintro (hc | ⟨rfl, hne⟩)
      · exact hc
      · exact hempty.resolve_left hne
    · exact .inl

/-- One fault with a non-empty stack: the empty line after its record is read as a stack that was
not logged, and a fault with that stack is not injected by the next process. -/
theorem separator_read_as_stack :
    ∃ log s, iterations [[.inject [0x1010] [⟨0x401010, none⟩]]] = .ok log ∧
      openLog log = .ok s ∧ (s.isNewStack [] []).2 = false ∧
      ¬ ∀ c, c ∈ s.process.faultHash ↔ c ∈ log.logged := by
  refine ⟨_, _, rfl, rfl, rfl, ?_⟩
  intro hsame
  have hlogged := (hsame []).mp (by decide)
  exact absurd hlogged (by decide)

end Usersim.Fault
