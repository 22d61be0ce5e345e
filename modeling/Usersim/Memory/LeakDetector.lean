import Usersim.Fault.Log
import Usersim.Memory.Tracker

/-!
# What the leak detector reports (`leak_detector.cpp`)

The detector keeps the size of an allocation and a hash of the stack it was made on; the stacks are
in a table under their hashes, and a freed allocation is kept for the report of a second free.
`Book` is what is meant: the stacks themselves, with the allocations they belong to. The detector
follows it as long as two captured stacks with one hash are the same.

* `double_free_reported` — a second free is reported with the allocation it was a free of
* `leaks_reported` — with no call in progress the detector reports the blocks the callers own, each
  with its size and the stack that registered it
-/

namespace Usersim.Memory.LeakDetector

open Lib
open Fault (Symbol)

abbrev Text := List Char

/-- A number of `CaptureStackBackTrace`. -/
abbrev StackHash := BitVec 32

/-- `1 + _stack_depth`. -/
def stackSize : Nat := 33

/-- What `CaptureStackBackTrace` finds; no frames if it fails. -/
structure Capture where
  frames : List Nat
  hash : StackHash
deriving DecidableEq, Repr

/-- The vector that the frames are written to. -/
def Capture.stack (c : Capture) : List Nat :=
  (c.frames ++ List.replicate stackSize 0).take stackSize

def Capture.stackHash (c : Capture) : StackHash := if c.frames = [] then 0 else c.hash

/-- `allocation_t`. -/
structure Allocation where
  address : Nat
  size : Nat
  allocStackHash : StackHash
  freeStackHash : StackHash
deriving DecidableEq, Repr

/-- `cxplat_leak_detector_t`. -/
structure Detector where
  stackHashes : StackHash → Option (List Nat)
  allocations : Nat → Option Allocation
  freedAllocations : Nat → Option Allocation
  inMemoryLog : List Text
  /-- An assertion has failed. -/
  terminated : Bool

def Detector.init : Detector where
  stackHashes := fun _ => none
  allocations := fun _ => none
  freedAllocations := fun _ => none
  inMemoryLog := []
  terminated := false

/-! ## The text of a report -/

def sourceText (symbol : Symbol) : Text :=
  match symbol.lineNumber, symbol.fileName with
  | some line, some file => " (".toList ++ file.chars ++ ':' :: decimal line.toNat ++ [')']
  | _, _ => []

/-- A frame that cannot be decoded is left out. -/
def frameText (decode : Nat → Option Symbol) (address : Nat) : Text :=
  match decode address with
  | none => []
  | some symbol =>
    "    ".toList ++ symbol.name.chars ++ " + ".toList ++ decimal symbol.displacement.toNat ++
      sourceText symbol ++ ['\n']

def stackHeader (label : Text) : Text := "  ".toList ++ label ++ " stack:\n".toList

def allocationLabel : Text := "Allocation".toList

def freeLabel : Text := "Free".toList

def leakLine (size address : Nat) : Text :=
  "Leak of ".toList ++ decimal size ++ " bytes at ".toList ++ decimal address ++ ['\n']

def doubleFreeLine (size address : Nat) : Text :=
  "Double-free of ".toList ++ decimal size ++ " bytes at ".toList ++ decimal address ++ ['\n']

/-! ## The detector -/

/-- A stack is kept for the first allocation with its hash. -/
def Detector.recordStack (d : Detector) (c : Capture) : Detector :=
  if (d.stackHashes c.stackHash).isSome then d
  else { d with stackHashes := Function.update d.stackHashes c.stackHash (some c.stack) }

def registerAllocation (d : Detector) (address size : Nat) (c : Capture) : Detector :=
  { d.recordStack c with
    allocations := Function.update d.allocations address
      (some { address := address, size := size, allocStackHash := c.stackHash
              freeStackHash := 0 }) }

/-- The object and a stream. -/
def flushOutput (x : Detector × Text) : Detector × Text :=
  ({ x.1 with inMemoryLog := x.1.inMemoryLog ++ [x.2] }, [])

/-- The table gets an empty stack for a hash that is not in it. -/
def outputStackTrace (decode : Nat → Option Symbol) (x : Detector × Text) (label : Text)
    (stackHash : StackHash) : Detector × Text :=
  let stack := (x.1.stackHashes stackHash).getD []
  stack.foldl (fun x address => flushOutput (x.1, x.2 ++ frameText decode address))
    ({ x.1 with stackHashes := Function.update x.1.stackHashes stackHash (some stack) },
      x.2 ++ stackHeader label)

/-- The report is written before the assertion. -/
def unregisterAllocation (decode : Nat → Option Symbol) (d : Detector) (address : Nat)
    (c : Capture) : Detector :=
  match d.allocations address with
  | none =>
    let allocation := (d.freedAllocations address).getD
      { address := 0, size := 0, allocStackHash := 0, freeStackHash := 0 }
    let d := { d with
      freedAllocations := Function.update d.freedAllocations address (some allocation) }
    let x := flushOutput (d, doubleFreeLine allocation.size allocation.address)
    let x := outputStackTrace decode x allocationLabel allocation.allocStackHash
    let x := outputStackTrace decode x freeLabel allocation.freeStackHash
    { x.1 with terminated := true }
  | some allocation =>
    { d.recordStack c with
      allocations := Function.update d.allocations address none
      freedAllocations := Function.update d.freedAllocations address
        (some { allocation with freeStackHash := c.stackHash }) }

def dumpLeak (decode : Nat → Option Symbol) (d : Detector) (address : Nat) : Detector :=
  match d.allocations address with
  | none => d
  | some allocation =>
    let x := flushOutput (d, leakLine allocation.size allocation.address)
    (outputStackTrace decode x allocationLabel allocation.allocStackHash).1

/-- `order` is the order in which the allocations are in the map. -/
def dumpLeaks (decode : Nat → Option Symbol) (d : Detector) (order : List Nat) : Detector :=
  let d := order.foldl (dumpLeak decode) d
  if order = [] then
    { d with
      allocations := fun _ => none
      freedAllocations := fun _ => none
      stackHashes := fun _ => none }
  else { d with terminated := true }

/-! ## What is meant -/

/-- An allocation that is live, and one that was freed. -/
structure Live where
  size : Nat
  allocStack : List Nat
deriving DecidableEq, Repr

structure Freed where
  size : Nat
  allocStack : List Nat
  freeStack : List Nat
deriving DecidableEq, Repr

structure Book where
  live : Nat → Option Live
  /-- The last allocation at an address that was freed. -/
  freed : Nat → Option Freed

def Book.init : Book where
  live := fun _ => none
  freed := fun _ => none

inductive Op where
  | registerAllocation (address size : Nat)
  | unregisterAllocation (address : Nat)
deriving DecidableEq, Repr

def Book.apply (b : Book) (c : Capture) : Op → Book
  | .registerAllocation address size =>
    { b with live := Function.update b.live address (some ⟨size, c.stack⟩) }
  | .unregisterAllocation address =>
    match b.live address with
    | none => b
    | some x =>
      { live := Function.update b.live address none
        freed := Function.update b.freed address (some ⟨x.size, x.allocStack, c.stack⟩) }

def Detector.apply (decode : Nat → Option Symbol) (d : Detector) (c : Capture) : Op → Detector
  | .registerAllocation address size => registerAllocation d address size c
  | .unregisterAllocation address => unregisterAllocation decode d address c

def stackText (decode : Nat → Option Symbol) (label : Text) (stack : List Nat) : Text :=
  stackHeader label ++ stack.flatMap (frameText decode)

def leakReport (decode : Nat → Option Symbol) (address : Nat) (x : Live) : Text :=
  leakLine x.size address ++ stackText decode allocationLabel x.allocStack

def doubleFreeReport (decode : Nat → Option Symbol) (address : Nat) (x : Freed) : Text :=
  doubleFreeLine x.size address ++ stackText decode allocationLabel x.allocStack ++
    stackText decode freeLabel x.freeStack

/-! ## The text that is written -/

variable {decode : Nat → Option Symbol} {d d' : Detector} {b : Book} {c : Capture}
  {stackOf : StackHash → List Nat} {a : Nat}

theorem foldl_flushOutput (decode : Nat → Option Symbol) (stack : List Nat) (x : Detector × Text)
    (hstack : stack ≠ [] ∨ x.2 = []) :
    ∃ log, stack.foldl (fun x address => flushOutput (x.1, x.2 ++ frameText decode address)) x =
        ({ x.1 with inMemoryLog := log }, []) ∧
      log.flatten = x.1.inMemoryLog.flatten ++ x.2 ++ stack.flatMap (frameText decode) := by
  induction stack generalizing x with
  | nil =>
    have hx : x.2 = [] := hstack.resolve_left (absurd rfl)
    obtain ⟨d, text⟩ := x
    obtain rfl : text = [] := hx
    exact ⟨d.inMemoryLog, rfl, by simp⟩
  | cons address stack ih =>
    obtain ⟨log, heq, hlog⟩ := ih (flushOutput (x.1, x.2 ++ frameText decode address)) (.inr rfl)
    refine ⟨log, heq, ?_⟩
    rw [hlog]
    simp [flushOutput]

/-- A stack that is in the table is written, and the table stays as it is. -/
theorem outputStackTrace_eq (decode : Nat → Option Symbol) {stack : List Nat} {hash : StackHash}
    (text label : Text) (h : d.stackHashes hash = some stack) (hstack : stack ≠ []) :
    ∃ log, outputStackTrace decode (d, text) label hash = ({ d with inMemoryLog := log }, []) ∧
      log.flatten = d.inMemoryLog.flatten ++ text ++ stackText decode label stack := by
  obtain ⟨log, heq, hlog⟩ := foldl_flushOutput decode stack
    (d, text ++ stackHeader label) (.inl hstack)
  refine ⟨log, ?_, ?_⟩
  · rw [outputStackTrace, h, Option.getD_some, ← h, Function.update_eq_self]
    exact heq
  · rw [hlog, stackText]
    simp

/-! ## The detector follows the book -/

structure LiveOk (stackHashes : StackHash → Option (List Nat)) (a : Nat) (allocation : Allocation)
    (x : Live) : Prop where
  address : allocation.address = a
  size : allocation.size = x.size
  allocStack : stackHashes allocation.allocStackHash = some x.allocStack

structure FreedOk (stackHashes : StackHash → Option (List Nat)) (a : Nat) (allocation : Allocation)
    (x : Freed) : Prop where
  address : allocation.address = a
  size : allocation.size = x.size
  allocStack : stackHashes allocation.allocStackHash = some x.allocStack
  freeStack : stackHashes allocation.freeStackHash = some x.freeStack

/-- `stackOf` says which stack a hash is of. -/
structure Follows (stackOf : StackHash → List Nat) (d : Detector) (b : Book) : Prop where
  hashes : ∀ h stack, d.stackHashes h = some stack → stack = stackOf h ∧ stack ≠ []
  live : ∀ a, Option.Rel (LiveOk d.stackHashes a) (d.allocations a) (b.live a)
  freed : ∀ a, Option.Rel (FreedOk d.stackHashes a) (d.freedAllocations a) (b.freed a)
  log : d.inMemoryLog = []
  running : d.terminated = false

theorem follows_init : Follows stackOf Detector.init Book.init :=
  ⟨nofun, fun _ => .none, fun _ => .none, rfl, rfl⟩

theorem stack_ne_nil (c : Capture) : c.stack ≠ [] := by
  rw [← List.length_pos_iff, Capture.stack, List.length_take, List.length_append,
    List.length_replicate, stackSize]
  omega

theorem recordStack_frame (d : Detector) (c : Capture) :
    d.recordStack c = { d with stackHashes := (d.recordStack c).stackHashes } := by
  unfold Detector.recordStack
  split <;> rfl

/-- The stack is found again under its hash, if the hash is of no other one. -/
theorem recordStack_self (h : Follows stackOf d b) (hc : stackOf c.stackHash = c.stack) :
    (d.recordStack c).stackHashes c.stackHash = some c.stack := by
  unfold Detector.recordStack
  split
  · next hsome =>
    obtain ⟨stack, hstack⟩ := Option.isSome_iff_exists.mp hsome
    rw [hstack, (h.hashes _ _ hstack).1, hc]
  · simp

theorem recordStack_kept {hash : StackHash} {stack : List Nat}
    (h : d.stackHashes hash = some stack) : (d.recordStack c).stackHashes hash = some stack := by
  unfold Detector.recordStack
  split
  · exact h
  · next hnone =>
    have hne : hash ≠ c.stackHash := by
      rintro rfl
      exact hnone (by simp [h])
    simp [hne, h]

theorem recordStack_hashes (h : Follows stackOf d b) (hc : stackOf c.stackHash = c.stack)
    {hash : StackHash} {stack : List Nat} (hs : (d.recordStack c).stackHashes hash = some stack) :
    stack = stackOf hash ∧ stack ≠ [] := by
  unfold Detector.recordStack at hs
  split at hs
  · exact h.hashes hash stack hs
  · by_cases heq : hash = c.stackHash
    · subst heq
      simp only [Function.update_self, Option.some.injEq] at hs
      rw [← hs]
      exact ⟨hc.symm, stack_ne_nil c⟩
    · simp only [Function.update_of_ne heq] at hs
      exact h.hashes hash stack hs

/-- What is kept of the allocations when stacks are added to the table. -/
theorem Follows.mono_live (h : Follows stackOf d b)
    (hkept : ∀ h st, d.stackHashes h = some st → d'.stackHashes h = some st) (a : Nat) :
    Option.Rel (LiveOk d'.stackHashes a) (d.allocations a) (b.live a) := by
  have hlive := h.live a
  generalize d.allocations a = x at hlive ⊢
  generalize b.live a = y at hlive ⊢
  cases hlive with
  | none => exact .none
  | some hok => exact .some ⟨hok.address, hok.size, hkept _ _ hok.allocStack⟩

theorem Follows.mono_freed (h : Follows stackOf d b)
    (hkept : ∀ h st, d.stackHashes h = some st → d'.stackHashes h = some st) (a : Nat) :
    Option.Rel (FreedOk d'.stackHashes a) (d.freedAllocations a) (b.freed a) := by
  have hfreed := h.freed a
  generalize d.freedAllocations a = x at hfreed ⊢
  generalize b.freed a = y at hfreed ⊢
  cases hfreed with
  | none => exact .none
  | some hok =>
    exact .some ⟨hok.address, hok.size, hkept _ _ hok.allocStack, hkept _ _ hok.freeStack⟩

theorem follows_register (h : Follows stackOf d b) (hc : stackOf c.stackHash = c.stack)
    (size : Nat) :
    Follows stackOf (registerAllocation d a size c) (b.apply c (.registerAllocation a size)) := by
  have hframe := recordStack_frame d c
  have hkept : ∀ hash stack, d.stackHashes hash = some stack →
      (d.recordStack c).stackHashes hash = some stack := fun _ _ => recordStack_kept
  refine ⟨fun _ _ => recordStack_hashes h hc, fun a' => ?_, fun a' => ?_, ?_, ?_⟩
  · by_cases ha : a' = a
    · subst ha
      simp only [registerAllocation, Book.apply, Function.update_self]
      exact .some ⟨rfl, rfl, recordStack_self h hc⟩
    · simp only [registerAllocation, Book.apply, Function.update_of_ne ha]
      exact h.mono_live hkept a'
  · rw [registerAllocation, hframe]
    exact h.mono_freed hkept a'
  · rw [registerAllocation, hframe]
    exact h.log
  · rw [registerAllocation, hframe]
    exact h.running

theorem follows_unregister (h : Follows stackOf d b) (hc : stackOf c.stackHash = c.stack)
    (ha : b.live a ≠ none) :
    Follows stackOf (unregisterAllocation decode d a c) (b.apply c (.unregisterAllocation a)) := by
  have hframe := recordStack_frame d c
  have hlive := h.live a
  cases hx : b.live a with
  | none => exact absurd hx ha
  | some x =>
    rw [hx] at hlive
    cases hd : d.allocations a with
    | none =>
      rw [hd] at hlive
      cases hlive
    | some allocation =>
      rw [hd] at hlive
      cases hlive with
      | some hok =>
        have hkept : ∀ hash stack, d.stackHashes hash = some stack →
            (d.recordStack c).stackHashes hash = some stack := fun _ _ => recordStack_kept
        simp only [unregisterAllocation, hd, Book.apply, hx]
        refine ⟨fun _ _ => recordStack_hashes h hc, fun a' => ?_, fun a' => ?_, ?_, ?_⟩
        · by_cases ha' : a' = a
          · subst ha'
            simp only [Function.update_self]
            exact .none
          · simp only [Function.update_of_ne ha']
            exact h.mono_live hkept a'
        · by_cases ha' : a' = a
          · subst ha'
            simp only [Function.update_self]
            exact .some ⟨hok.address, hok.size, hkept _ _ hok.allocStack, recordStack_self h hc⟩
          · simp only [Function.update_of_ne ha']
            exact h.mono_freed hkept a'
        · rw [hframe]
          exact h.log
        · rw [hframe]
          exact h.running

/-! ## A second free -/

/-- Calls of a detector that is still there. -/
def step (decode : Nat → Option Symbol) (d : Detector) (x : Op × Capture) : Option Detector :=
  if d.terminated then none else some (d.apply decode x.2 x.1)

def book (run : List (Op × Capture)) : Book := run.foldl (fun b x => b.apply x.2 x.1) Book.init

/-- An unregister of an address that is not registered ends the process. -/
theorem unregister_terminated (ha : d.allocations a = none) :
    (unregisterAllocation decode d a c).terminated = true := by
  simp [unregisterAllocation, ha]

theorem Follows.live_iff (h : Follows stackOf d b) (a : Nat) :
    d.allocations a = none ↔ b.live a = none := by
  have hlive := h.live a
  generalize d.allocations a = x at hlive ⊢
  generalize b.live a = y at hlive ⊢
  cases hlive <;> simp

theorem Follows.freed_eq (h : Follows stackOf d b) {x : Freed} (hx : b.freed a = some x) :
    ∃ allocation, d.freedAllocations a = some allocation ∧
      FreedOk d.stackHashes a allocation x := by
  have hfreed := h.freed a
  rw [hx] at hfreed
  generalize d.freedAllocations a = y at hfreed ⊢
  cases hfreed with
  | some hok => exact ⟨_, rfl, hok⟩

/-- The first line of the report of a double free. -/
def reported (d : Detector) (a : Nat) (allocation : Allocation) : Detector :=
  { d with
    freedAllocations := Function.update d.freedAllocations a (some allocation)
    inMemoryLog := d.inMemoryLog ++ [doubleFreeLine allocation.size allocation.address] }

/-- The detector has ended, or follows. -/
theorem follows_step {x : Op × Capture} (h : d.terminated = true ∨ Follows stackOf d b)
    (hc : stackOf x.2.stackHash = x.2.stack) (hs : step decode d x = some d') :
    d'.terminated = true ∨ Follows stackOf d' (b.apply x.2 x.1) := by
  simp only [step] at hs
  split at hs
  · cases hs
  · next hrunning =>
    have hfollows := h.resolve_left hrunning
    cases hs
    obtain ⟨op, c⟩ := x
    cases op with
    | registerAllocation a size => exact .inr (follows_register hfollows hc size)
    | unregisterAllocation a =>
      by_cases ha : b.live a = none
      · exact .inl (unregister_terminated ((hfollows.live_iff a).mpr ha))
      · exact .inr (follows_unregister hfollows hc ha)

theorem follows_run {run : List (Op × Capture)} (h : d.terminated = true ∨ Follows stackOf d b)
    (hc : ∀ x ∈ run, stackOf x.2.stackHash = x.2.stack) (hs : exec (step decode) d run = some d') :
    d'.terminated = true ∨ Follows stackOf d' (run.foldl (fun b x => b.apply x.2 x.1) b) := by
  induction run generalizing d b with
  | nil =>
    cases hs
    exact h
  | cons x run ih =>
    rw [List.forall_mem_cons] at hc
    obtain ⟨d₁, h₁, hs⟩ := exec_cons_eq_some.mp hs
    exact ih (follows_step h hc.1 h₁) hc.2 hs

/--
For every run of registers and unregisters in which stacks with one hash are the same: an unregister
of an address whose allocation was unregistered before reports that allocation, the stack it was
made on and the stack it was freed on, and ends the process.
-/
theorem double_free_reported (decode : Nat → Option Symbol) (stackOf : StackHash → List Nat)
    (run : List (Op × Capture)) (d : Detector) (a : Nat) (x : Freed) (c : Capture)
    (hc : ∀ x ∈ run, stackOf x.2.stackHash = x.2.stack)
    (h : exec (step decode) Detector.init run = some d) (hd : d.terminated = false)
    (hlive : (book run).live a = none) (hfreed : (book run).freed a = some x) :
    (unregisterAllocation decode d a c).inMemoryLog.flatten = doubleFreeReport decode a x ∧
      (unregisterAllocation decode d a c).terminated = true := by
  have hfollows : Follows stackOf d (book run) :=
    (follows_run (.inr follows_init) hc h).resolve_left (by simp [hd])
  have hnone := (hfollows.live_iff a).mpr hlive
  refine ⟨?_, unregister_terminated hnone⟩
  obtain ⟨allocation, hf, hok⟩ := hfollows.freed_eq hfreed
  obtain ⟨log₁, heq₁, hlog₁⟩ := outputStackTrace_eq decode (d := reported d a allocation)
    [] allocationLabel hok.allocStack (hfollows.hashes _ _ hok.allocStack).2
  obtain ⟨log₂, heq₂, hlog₂⟩ := outputStackTrace_eq decode
    (d := { reported d a allocation with inMemoryLog := log₁ })
    [] freeLabel hok.freeStack (hfollows.hashes _ _ hok.freeStack).2
  have hwritten : unregisterAllocation decode d a c =
      { reported d a allocation with inMemoryLog := log₂, terminated := true } := by
    simp only [unregisterAllocation, hnone, hf, Option.getD_some]
    rw [show flushOutput _ = (reported d a allocation, []) from rfl, heq₁, heq₂]
  rw [hwritten]
  show log₂.flatten = _
  rw [hlog₂]
  show log₁.flatten ++ [] ++ _ = _
  rw [hlog₁]
  simp [reported, hfollows.log, doubleFreeReport, hok.address, hok.size]

def stackA : Capture where
  frames := [0x7ff60010, 0x7ff60020]
  hash := 0x31

def stackB : Capture where
  frames := [0x7ff60030]
  hash := 0x32

/-- Which stacks the two hashes are of. -/
def stackAOrB (hash : StackHash) : List Nat := if hash = 0x31 then stackA.stack else stackB.stack

def noSymbols (_ : Nat) : Option Symbol := none

/-- Eight bytes that are allocated in `stackA`, and freed in `stackB`. -/
def freedOnce : List (Op × Capture) :=
  [(.registerAllocation 0x1010 8, stackA), (.unregisterAllocation 0x1010, stackB)]

theorem double_free_reported_freedOnce :
    ∃ d, exec (step noSymbols) Detector.init freedOnce = some d ∧
      (unregisterAllocation noSymbols d 0x1010 stackB).inMemoryLog.flatten =
        "Double-free of 8 bytes at 4112\n  Allocation stack:\n  Free stack:\n".toList ∧
      (unregisterAllocation noSymbols d 0x1010 stackB).terminated = true := by
  obtain ⟨d, hd, hrunning⟩ : ∃ d, exec (step noSymbols) Detector.init freedOnce = some d ∧
      d.terminated = false :=
    exec_of_check (by decide +kernel)
  have hreported := double_free_reported noSymbols stackAOrB freedOnce d 0x1010
    ⟨8, stackA.stack, stackB.stack⟩ stackB (by decide +kernel) hd hrunning (by decide +kernel)
    (by decide +kernel)
  refine ⟨d, hd, hreported.1.trans ?_, hreported.2⟩
  decide +kernel

/-! ## Leaks -/

theorem Follows.live_eq (h : Follows stackOf d b) {x : Live} (hx : b.live a = some x) :
    ∃ allocation, d.allocations a = some allocation ∧ LiveOk d.stackHashes a allocation x := by
  have hlive := h.live a
  rw [hx] at hlive
  generalize d.allocations a = y at hlive ⊢
  cases hlive with
  | some hok => exact ⟨_, rfl, hok⟩

/-- Reporting a leak changes nothing but the log. -/
theorem Follows.dumpLeak (decode : Nat → Option Symbol) (h : Follows stackOf d b) {x : Live}
    (hx : b.live a = some x) (log : List Text) :
    ∃ log', LeakDetector.dumpLeak decode { d with inMemoryLog := log } a =
        { d with inMemoryLog := log' } ∧
      log'.flatten = log.flatten ++ leakReport decode a x := by
  obtain ⟨allocation, hd, hok⟩ := h.live_eq hx
  obtain ⟨log', heq, hlog'⟩ := outputStackTrace_eq decode
    (d := { d with inMemoryLog := log ++ [leakLine allocation.size allocation.address] })
    [] allocationLabel hok.allocStack (h.hashes _ _ hok.allocStack).2
  refine ⟨log', ?_, ?_⟩
  · simp only [LeakDetector.dumpLeak, hd]
    rw [show flushOutput _ =
      ({ d with inMemoryLog := log ++ [leakLine allocation.size allocation.address] }, []) from rfl,
      heq]
  · rw [hlog']
    simp [leakReport, hok.address, hok.size]

theorem Follows.dumpLeaks (decode : Nat → Option Symbol) (h : Follows stackOf d b)
    (order : List Nat)
    (horder : ∀ a ∈ order, b.live a ≠ none) (log : List Text) :
    ∃ log', order.foldl (LeakDetector.dumpLeak decode) { d with inMemoryLog := log } =
        { d with inMemoryLog := log' } ∧
      log'.flatten = log.flatten ++
        order.flatMap fun a => ((b.live a).map (leakReport decode a)).getD [] := by
  induction order generalizing log with
  | nil => exact ⟨log, rfl, by simp⟩
  | cons a order ih =>
    rw [List.forall_mem_cons] at horder
    obtain ⟨x, hx⟩ := Option.ne_none_iff_exists'.mp horder.1
    obtain ⟨log₁, heq₁, hlog₁⟩ := h.dumpLeak decode hx log
    obtain ⟨log', heq, hlog'⟩ := ih horder.2 log₁
    refine ⟨log', ?_, ?_⟩
    · rw [List.foldl_cons, heq₁]
      exact heq
    · rw [hlog', hlog₁, List.flatMap_cons, hx]
      simp

/-! ## The detector under the allocator -/

/-- The allocator with its detector, and the book. -/
structure State where
  memory : Memory.State
  detector : Detector
  book : Book

def State.init : State where
  memory := Memory.State.init
  detector := Detector.init
  book := Book.init

/-- A step of the allocator, with the stack that is captured if it calls the detector. -/
structure Action where
  call : Memory.Action
  capture : Capture
deriving DecidableEq, Repr

/-- The call of the detector in a step of the allocator. -/
def op (s : Memory.State) : Memory.Action → Option Op
  | .register t =>
    match s.pc t with
    | .registering block => some (.registerAllocation block.pointer block.size)
    | _ => none
  | .unregister t =>
    match s.pc t with
    | .unregistering old _ => some (.unregisterAllocation old.pointer)
    | _ => none
  | .free _ args =>
    if args.block.header.agrees args.poolFlags args.tag then
      some (.unregisterAllocation args.block.pointer)
    else none
  | .allocate .. | .reallocate .. | .freeBlock _ => none

def systemStep (limit : Nat) (decode : Nat → Option Symbol) (s : State) (a : Action) :
    Option State :=
  (Memory.step limit s.memory a.call).map fun memory =>
    match op s.memory a.call with
    | none => { s with memory := memory }
    | some o =>
      { memory := memory
        detector := s.detector.apply decode a.capture o
        book := s.book.apply a.capture o }

/-- What the allocator asks for, and stacks with one hash are the same. -/
def Permitted (stackOf : StackHash → List Nat) (s : State) (a : Action) : Prop :=
  NotRecycled s.memory a.call ∧ stackOf a.capture.stackHash = a.capture.stack

instance (stackOf : StackHash → List Nat) (s : State) (a : Action) :
    Decidable (Permitted stackOf s a) :=
  inferInstanceAs (Decidable (_ ∧ _))

variable {limit : Nat} {s s' : State}

/-- What a call of the detector does to the pointers the model of the allocator tracks. -/
def tracked (allocations : Nat → Option Nat) : Option Op → Nat → Option Nat
  | none => allocations
  | some (.registerAllocation p n) => Function.update allocations p (some n)
  | some (.unregisterAllocation p) => Function.update allocations p none

theorem tracked_step {m m' : Memory.State} {a : Memory.Action} (hi : Memory.Inv m)
    (hs : Memory.step limit m a = some m') :
    m'.allocations = tracked m.allocations (op m a) ∧
      ∀ p, op m a = some (.unregisterAllocation p) → m.allocations p ≠ none := by
  simp only [Memory.step] at hs
  split at hs
  · cases hs
  · cases a with
    | allocate t args =>
      refine ⟨?_, nofun⟩
      simp only [cxplatAllocate] at hs
      repeat' split at hs
      all_goals cases hs
      all_goals rfl
    | reallocate t args =>
      refine ⟨?_, nofun⟩
      simp only [cxplatReallocate] at hs
      repeat' split at hs
      all_goals cases hs
      all_goals rfl
    | free t args =>
      simp only at hs
      split at hs
      · next hcond =>
        cases hs
        have hb := hi.tracked_owned hcond.2
        simp only [cxplatFree, op]
        cases hagrees : args.block.header.agrees args.poolFlags args.tag with
        | false => exact ⟨rfl, nofun⟩
        | true =>
          simp only [Bool.not_true, Bool.false_eq_true, if_false, if_true]
          rw [unregisterAllocation_eq hb]
          refine ⟨rfl, fun p hp => ?_⟩
          cases hp
          simp [hb]
      · cases hs
    | register t =>
      simp only at hs
      split at hs
      · next block hpc =>
        cases hs
        simp only [op, hpc]
        exact ⟨rfl, nofun⟩
      · cases hs
    | unregister t =>
      simp only at hs
      split at hs
      · next old new hpc =>
        cases hs
        have hmem : (t, old) ∈ m.released := (hi.releases t old).mpr (by rw [hpc]; rfl)
        have hb : m.allocations old.pointer = some old.size :=
          (hi.tracked _ _).mpr (.inr ⟨_, hmem, rfl, rfl⟩)
        rw [unregisterAllocation_eq hb]
        simp only [op, hpc]
        refine ⟨rfl, fun p hp => ?_⟩
        cases hp
        simp [hb]
      · next old hpc => exact absurd hpc (hi.moved t old)
      · cases hs
    | freeBlock t =>
      simp only at hs
      split at hs
      · cases hs
        exact ⟨rfl, nofun⟩
      · cases hs

/-- The detector follows the book, which knows what the model of the allocator tracks. -/
structure Linked (stackOf : StackHash → List Nat) (s : State) : Prop where
  memory : Memory.Inv s.memory
  follows : Follows stackOf s.detector s.book
  sizes : ∀ p, s.memory.allocations p = (s.book.live p).map Live.size

theorem linked_init : Linked stackOf State.init :=
  ⟨Memory.inv_init, follows_init, fun _ => rfl⟩

theorem apply_sizes {allocations : Nat → Option Nat}
    (h : ∀ p, allocations p = (b.live p).map Live.size)
    (o : Op) (ho : ∀ p, o = .unregisterAllocation p → b.live p ≠ none) (p : Nat) :
    tracked allocations (some o) p = ((b.apply c o).live p).map Live.size := by
  cases o with
  | registerAllocation a size =>
    by_cases hp : p = a
    · subst hp
      simp [tracked, Book.apply]
    · simp [tracked, Book.apply, hp, h p]
  | unregisterAllocation a =>
    obtain ⟨x, hx⟩ := Option.ne_none_iff_exists'.mp (ho a rfl)
    by_cases hp : p = a
    · subst hp
      simp [tracked, Book.apply, hx]
    · simp [tracked, Book.apply, hx, hp, h p]

theorem linked_step {a : Action} (hl : Linked stackOf s) (hp : Permitted stackOf s a)
    (hs : systemStep limit decode s a = some s') : Linked stackOf s' := by
  obtain ⟨m, hm, rfl⟩ := Option.map_eq_some_iff.mp hs
  have hinv := Memory.inv_step hl.memory hp.1 hm
  obtain ⟨htracked, hknown⟩ := tracked_step hl.memory hm
  cases ho : op s.memory a.call with
  | none =>
    rw [ho] at htracked
    exact ⟨hinv, hl.follows, fun p => by rw [htracked]; exact hl.sizes p⟩
  | some o =>
    rw [ho] at htracked hknown
    have hlive : ∀ p, o = .unregisterAllocation p → s.book.live p ≠ none := by
      rintro p rfl hnone
      exact hknown p rfl (by rw [hl.sizes p, hnone]; rfl)
    refine ⟨hinv, ?_, fun p => by rw [htracked]; exact apply_sizes hl.sizes o hlive p⟩
    cases o with
    | registerAllocation address size => exact follows_register hl.follows hp.2 size
    | unregisterAllocation address =>
      exact follows_unregister hl.follows hp.2 (hlive address rfl)

theorem linked_exec {run : List Action}
    (hg : Guarded (systemStep limit decode) (Permitted stackOf) State.init run)
    (h : exec (systemStep limit decode) State.init run = some s) : Linked stackOf s :=
  exec_invariant_of_guard (fun _ _ _ hl hp hs => linked_step hl hp hs) linked_init hg h

/-- With no call in progress the detector knows the blocks the callers own. -/
theorem Linked.known_iff (hl : Linked stackOf s) (hidle : ∀ t, s.memory.pc t = .idle) (p : Nat) :
    s.book.live p ≠ none ↔ p ∈ s.memory.owned.map Block.pointer := by
  have hsome : s.book.live p ≠ none ↔ ∃ n, s.memory.allocations p = some n := by
    rw [hl.sizes p, Option.ne_none_iff_exists']
    simp
  rw [hsome, List.mem_map]
  simp only [hl.memory.tracked p, hl.memory.released_of_idle hidle, List.not_mem_nil, false_and,
    exists_false, or_false]
  constructor
  · rintro ⟨n, block, hblock, hp, -⟩
    exact ⟨block, hblock, hp⟩
  · rintro ⟨block, hblock, hp⟩
    exact ⟨_, block, hblock, hp, rfl⟩

/-- The report of the blocks the callers still own, one for each. -/
structure Reported (decode : Nat → Option Symbol) (s : State) (order : List Nat) : Prop where
  pointers : order.Perm (s.memory.owned.map Block.pointer)
  sizes : ∀ block ∈ s.memory.owned,
    ∃ x, s.book.live block.pointer = some x ∧ x.size = block.size
  text : (dumpLeaks decode s.detector order).inMemoryLog.flatten =
    order.flatMap fun p => ((s.book.live p).map (leakReport decode p)).getD []
  terminated : (dumpLeaks decode s.detector order).terminated = true ↔ s.memory.owned ≠ []

/--
For every interleaving of allocates, reallocates and frees: with no call in progress `dump_leaks`
reports the blocks that the callers still own, each one once with its size and the stack it was
registered on, and ends the process if there is one.
-/
theorem leaks_reported (limit : Nat) (decode : Nat → Option Symbol) (stackOf : StackHash → List Nat)
    (run : List Action) (s : State) (order : List Nat)
    (hg : Guarded (systemStep limit decode) (Permitted stackOf) State.init run)
    (h : exec (systemStep limit decode) State.init run = some s)
    (hidle : ∀ t, s.memory.pc t = .idle) (hnodup : order.Nodup)
    (horder : ∀ p, p ∈ order ↔ s.detector.allocations p ≠ none) : Reported decode s order := by
  have hl := linked_exec hg h
  have hmem : ∀ p, p ∈ order ↔ p ∈ s.memory.owned.map Block.pointer := by
    intro p
    rw [horder p, Ne, hl.follows.live_iff p]
    exact hl.known_iff hidle p
  have hperm := (List.perm_ext_iff_of_nodup hnodup hl.memory.owned_pointers).mpr hmem
  have hlive : ∀ p ∈ order, s.book.live p ≠ none := fun p hp =>
    (hl.known_iff hidle p).mpr ((hmem p).mp hp)
  obtain ⟨log, heq, hlog⟩ := hl.follows.dumpLeaks decode order hlive s.detector.inMemoryLog
  have hnil : order = [] ↔ s.memory.owned = [] := by
    rw [← List.length_eq_zero_iff, hperm.length_eq, List.length_map, List.length_eq_zero_iff]
  have hdump : (dumpLeaks decode s.detector order).inMemoryLog = log ∧
      ((dumpLeaks decode s.detector order).terminated = true ↔ order ≠ []) := by
    simp only [dumpLeaks, heq]
    split
    · next hempty => exact ⟨rfl, by simp [hempty, hl.follows.running]⟩
    · next hne => exact ⟨rfl, by simp [hne]⟩
  refine ⟨hperm, ?_, ?_, hdump.2.trans hnil.not⟩
  · intro block hblock
    have htracked := hl.memory.tracked_owned hblock
    rw [hl.sizes block.pointer, Option.map_eq_some_iff] at htracked
    exact htracked
  · rw [hdump.1, hlog, hl.follows.log]
    simp

/-- Two threads allocate, and one of them frees its block. -/
def freesOneOfTwo : List Action :=
  (allocateAt 0 0x1000).map (⟨·, stackA⟩) ++ (allocateAt 1 0x2000).map (⟨·, stackB⟩) ++
    [⟨.free 0 { block := blockAt 0x1000, poolFlags := 0, tag := 0 }, stackA⟩,
      ⟨.freeBlock 0, stackA⟩]

theorem leaks_reported_freesOneOfTwo :
    ∃ s, exec (systemStep (2 ^ 64 - 1) noSymbols) State.init freesOneOfTwo = some s ∧
      Reported noSymbols s [0x2010] := by
  have hg : Guarded (systemStep (2 ^ 64 - 1) noSymbols) (Permitted stackAOrB) State.init
      freesOneOfTwo :=
    guarded_of_check (by decide +kernel)
  refine ⟨_, rfl, leaks_reported (2 ^ 64 - 1) noSymbols stackAOrB freesOneOfTwo _ [0x2010] hg rfl
    (fun t => ?_) (by decide) fun p => ?_⟩
  · show Function.update (Function.update (Function.update (Function.update (Function.update
      (Function.update (fun _ => Pc.idle) 0 _) 0 _) 1 _) 1 _) 0 _) 0 _ t = _
    by_cases h₀ : t = 0
    · simp [h₀]
    · by_cases h₁ : t = 1
      · simp [h₁]
      · simp [h₀]
  · show _ ↔ Function.update (Function.update (Function.update (fun _ => none) 0x1010 _) 0x2010 _)
      0x1010 _ p ≠ none
    by_cases h₀ : p = 0x1010
    · simp [h₀]
    · by_cases h₁ : p = 0x2010
      · simp [h₁]
      · simp [h₀, h₁]

end Usersim.Memory.LeakDetector
