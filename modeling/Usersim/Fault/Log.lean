import Usersim.Fault.Basic
import Usersim.Lib.Text

/-!
# The fault log (`fault_injection.cpp`)

`log_stack_trace` writes a record for every fault: the canonical stack in hexadecimal, a comment
line for each captured frame, and an empty line. `load_fault_log` reads the file line by line when
the process starts, and appends a header with the number of the iteration.

The file is its characters. `logged` and `headers` are not part of the code: they are the canonical
stacks and the number of headers that were written since the file was last truncated.
-/

namespace Usersim.Fault

open Lib

/-! ## Records -/

/-- Decoded symbol text. -/
structure SymbolText where
  chars : List Char
  noNewline : '\n' ∉ chars

/-- What `_cxplat_decode_symbol` returns. -/
structure Symbol where
  name : SymbolText
  displacement : BitVec 64
  lineNumber : Option (BitVec 32)
  fileName : Option SymbolText

/-- A captured frame, with its symbol if it can be decoded. -/
structure CapturedFrame where
  address : BitVec 64
  symbol : Option Symbol

/-- The stream is still in hexadecimal when the line number is written. -/
def sourceText (symbol : Symbol) : List Char :=
  match symbol.lineNumber, symbol.fileName with
  | some line, some file => ' ' :: file.chars ++ ' ' :: hex line.toNat
  | _, _ => []

def frameLine (frame : CapturedFrame) : List Char :=
  "# ".toList ++
    match frame.symbol with
    | some symbol =>
      hex frame.address.toNat ++ ' ' :: symbol.name.chars ++ " + ".toList ++
        hex symbol.displacement.toNat ++ sourceText symbol
    | none => []

def canonicalLine (canonical : Stack) : List Char :=
  terminate ' ' (canonical.map fun address => hex address.toNat)

/-- The loop over the captured frames ends at the first zero. -/
def logRecord (canonical : Stack) (stack : List CapturedFrame) : List Char :=
  canonicalLine canonical ++ ['\n'] ++
    terminate '\n' ((stack.takeWhile fun frame => frame.address ≠ 0).map frameLine) ++ ['\n']

/-! ## Reading -/

/-- The object. -/
structure Process where
  /-- `_fault_hash`. -/
  faultHash : List Stack
  /-- `_iteration`. -/
  iteration : Nat
deriving DecidableEq, Repr

def iterationHeader : List Char := "# Iteration: ".toList

/-- The body of the loop in `load_fault_log`. -/
def readLine (p : Process) (line : List Char) : Except StoullError Process :=
  if iterationHeader.isPrefixOf line then
    .ok { p with iteration := p.iteration + 1 }
  else if "#".toList.isPrefixOf line then
    .ok p
  else do
    let stack ← (lines ' ' line).mapM stoull
    return { p with faultHash := p.faultHash.insert stack }

/-- The object and the file after its header has been appended. -/
def loadFaultLog (file : List Char) : Except StoullError (Process × List Char) := do
  let p ← (lines '\n' file).foldlM readLine { faultHash := [], iteration := 0 }
  let iteration := p.iteration + 1
  return ({ p with iteration := iteration }, file ++ iterationHeader ++ decimal iteration ++ ['\n'])

/-! ## Iterations of the process -/

structure Log where
  file : List Char
  logged : List Stack
  headers : Nat

def Log.empty : Log where
  file := []
  logged := []
  headers := 0

structure Session where
  process : Process
  log : Log

def openLog (log : Log) : Except StoullError Session := do
  let (process, file) ← loadFaultLog log.file
  return { process := process, log := { log with file := file, headers := log.headers + 1 } }

/-- `is_new_stack` for a captured stack, with `log_stack_trace`. -/
def Session.isNewStack (s : Session) (canonical : Stack) (stack : List CapturedFrame) :
    Session × Bool :=
  if s.process.faultHash.contains canonical then (s, false)
  else
    ({ process := { s.process with faultHash := canonical :: s.process.faultHash }
       log := { s.log with
         file := s.log.file ++ logRecord canonical stack
         logged := canonical :: s.log.logged } }, true)

def Session.reset (_ : Session) : Session where
  process := { faultHash := [], iteration := 0 }
  log := .empty

inductive Call where
  | inject (canonical : Stack) (stack : List CapturedFrame)
  | reset

def Session.call (s : Session) : Call → Session
  | .inject canonical stack => (s.isNewStack canonical stack).1
  | .reset => s.reset

/-- A process opens the log and makes its calls. -/
def iterate (log : Log) (calls : List Call) : Except StoullError Log := do
  let s ← openLog log
  return (calls.foldl Session.call s).log

def iterations (processes : List (List Call)) : Except StoullError Log :=
  processes.foldlM iterate .empty

end Usersim.Fault
