import Mathlib.Data.List.Forall2
import Usersim.Basic
import Usersim.Lib.Run

/-!
# The IRQL of a thread (`processor_winuser.cpp`, `processor_winkernel.c`)

The functions of `cxplat_processor.h` that save, raise and restore the IRQL, in both
implementations. The kernel's routines are outside: `Ke` has them, and `Ke.Documented` is
what the WDK says of their effect on the IRQL. Waiting for a lock does not change the IRQL
of the thread that waits.

A thread opens brackets, by a raise or by acquiring a lock, and closes the last one first, with what
it was given when it opened it.

* `irql_refinement_iff` — both implementations have the same IRQL after every call, as long as an
  in-stack queued lock is acquired at `DISPATCH_LEVEL`
-/

namespace Usersim.Cxplat.Processor

open Lib

/-- `cxplat_irql_t`. -/
abbrev Irql := BitVec 8

def passiveLevel : Irql := BitVec.ofNat 8 Usersim.passiveLevel
def dispatchLevel : Irql := BitVec.ofNat 8 Usersim.dispatchLevel
def highLevel : Irql := 15

/-- The address of a lock. -/
abbrev Lock := BitVec 64

/-- The functions of the header, over the state of a thread and the handles of queued locks. -/
structure Implementation (σ η : Type) where
  cxplatRaiseIrql : Irql → σ → Irql × σ
  cxplatLowerIrql : Irql → σ → σ
  cxplatAcquireSpinLock : Lock → σ → Irql × σ
  cxplatReleaseSpinLock : Lock → Irql → σ → σ
  cxplatAcquireSpinLockAtDpcLevel : Lock → σ → σ
  cxplatReleaseSpinLockFromDpcLevel : Lock → σ → σ
  cxplatAcquireInStackQueuedSpinLock : Lock → σ → η × σ
  cxplatReleaseInStackQueuedSpinLock : η → σ → σ
  cxplatAcquireInStackQueuedSpinLockAtDpc : Lock → σ → η × σ
  cxplatReleaseInStackQueuedSpinLockFromDpc : η → σ → σ
  cxplatGetCurrentIrql : σ → Irql

/-! ## User mode -/

namespace Winuser

structure Thread where
  /-- `_cxplat_current_irql`. -/
  currentIrql : Irql
  /-- The `SRWLOCK`s it holds. -/
  locks : List Lock
deriving DecidableEq, Repr

def Thread.init : Thread where
  currentIrql := passiveLevel
  locks := []

/-- `cxplat_lock_queue_handle_t`, as far as it is written. -/
structure LockQueueHandle where
  lock : Lock
deriving DecidableEq, Repr

def acquireSrwLockExclusive (lock : Lock) (t : Thread) : Thread :=
  { t with locks := lock :: t.locks }

def releaseSrwLockExclusive (lock : Lock) (t : Thread) : Thread :=
  { t with locks := t.locks.erase lock }

def cxplatRaiseIrql (irql : Irql) (t : Thread) : Irql × Thread :=
  (t.currentIrql, { t with currentIrql := irql })

def cxplatLowerIrql (irql : Irql) (t : Thread) : Thread := { t with currentIrql := irql }

def cxplatAcquireSpinLock (spinLock : Lock) (t : Thread) : Irql × Thread :=
  let (oldIrql, t) := cxplatRaiseIrql dispatchLevel t
  (oldIrql, acquireSrwLockExclusive spinLock t)

def cxplatReleaseSpinLock (spinLock : Lock) (oldIrql : Irql) (t : Thread) : Thread :=
  cxplatLowerIrql oldIrql (releaseSrwLockExclusive spinLock t)

def cxplatAcquireSpinLockAtDpcLevel (spinLock : Lock) (t : Thread) : Thread :=
  acquireSrwLockExclusive spinLock t

def cxplatReleaseSpinLockFromDpcLevel (spinLock : Lock) (t : Thread) : Thread :=
  releaseSrwLockExclusive spinLock t

/-- There is no raise. -/
def cxplatAcquireInStackQueuedSpinLock (spinLock : Lock) (t : Thread) : LockQueueHandle × Thread :=
  (⟨spinLock⟩, acquireSrwLockExclusive spinLock t)

def cxplatReleaseInStackQueuedSpinLock (lockHandle : LockQueueHandle) (t : Thread) : Thread :=
  releaseSrwLockExclusive lockHandle.lock t

def cxplatAcquireInStackQueuedSpinLockAtDpc (spinLock : Lock) (t : Thread) :
    LockQueueHandle × Thread :=
  (⟨spinLock⟩, acquireSrwLockExclusive spinLock t)

def cxplatReleaseInStackQueuedSpinLockFromDpc (lockHandle : LockQueueHandle) (t : Thread) :
    Thread :=
  releaseSrwLockExclusive lockHandle.lock t

def cxplatGetCurrentIrql (t : Thread) : Irql := t.currentIrql

def implementation : Implementation Thread LockQueueHandle where
  cxplatRaiseIrql := cxplatRaiseIrql
  cxplatLowerIrql := cxplatLowerIrql
  cxplatAcquireSpinLock := cxplatAcquireSpinLock
  cxplatReleaseSpinLock := cxplatReleaseSpinLock
  cxplatAcquireSpinLockAtDpcLevel := cxplatAcquireSpinLockAtDpcLevel
  cxplatReleaseSpinLockFromDpcLevel := cxplatReleaseSpinLockFromDpcLevel
  cxplatAcquireInStackQueuedSpinLock := cxplatAcquireInStackQueuedSpinLock
  cxplatReleaseInStackQueuedSpinLock := cxplatReleaseInStackQueuedSpinLock
  cxplatAcquireInStackQueuedSpinLockAtDpc := cxplatAcquireInStackQueuedSpinLockAtDpc
  cxplatReleaseInStackQueuedSpinLockFromDpc := cxplatReleaseInStackQueuedSpinLockFromDpc
  cxplatGetCurrentIrql := cxplatGetCurrentIrql

end Winuser

/-! ## Kernel mode -/

/-- The routines of the kernel, over what it keeps of a thread and its `KLOCK_QUEUE_HANDLE`s. -/
structure Ke (κ η : Type) where
  keRaiseIrql : Irql → κ → Irql × κ
  keLowerIrql : Irql → κ → κ
  keAcquireSpinLockRaiseToDpc : Lock → κ → Irql × κ
  keReleaseSpinLock : Lock → Irql → κ → κ
  keAcquireSpinLockAtDpcLevel : Lock → κ → κ
  keReleaseSpinLockFromDpcLevel : Lock → κ → κ
  keAcquireInStackQueuedSpinLock : Lock → κ → η × κ
  keReleaseInStackQueuedSpinLock : η → κ → κ
  keAcquireInStackQueuedSpinLockAtDpcLevel : Lock → κ → η × κ
  keReleaseInStackQueuedSpinLockFromDpcLevel : η → κ → κ
  keGetCurrentIrql : κ → Irql
  /-- The IRQL that a handle saves. -/
  oldIrql : η → Irql

variable {κ η σ : Type}

/-- What the WDK says about the IRQL. -/
structure Ke.Documented (ke : Ke κ η) : Prop where
  raiseIrql : ∀ irql k, ke.keGetCurrentIrql k ≤ irql →
    (ke.keRaiseIrql irql k).1 = ke.keGetCurrentIrql k ∧
      ke.keGetCurrentIrql (ke.keRaiseIrql irql k).2 = irql
  lowerIrql : ∀ irql k, irql ≤ ke.keGetCurrentIrql k →
    ke.keGetCurrentIrql (ke.keLowerIrql irql k) = irql
  acquireSpinLock : ∀ lock k, ke.keGetCurrentIrql k ≤ dispatchLevel →
    (ke.keAcquireSpinLockRaiseToDpc lock k).1 = ke.keGetCurrentIrql k ∧
      ke.keGetCurrentIrql (ke.keAcquireSpinLockRaiseToDpc lock k).2 = dispatchLevel
  releaseSpinLock : ∀ lock irql k, irql ≤ ke.keGetCurrentIrql k →
    ke.keGetCurrentIrql (ke.keReleaseSpinLock lock irql k) = irql
  acquireAtDpcLevel : ∀ lock k,
    ke.keGetCurrentIrql (ke.keAcquireSpinLockAtDpcLevel lock k) = ke.keGetCurrentIrql k
  releaseFromDpcLevel : ∀ lock k,
    ke.keGetCurrentIrql (ke.keReleaseSpinLockFromDpcLevel lock k) = ke.keGetCurrentIrql k
  acquireInStack : ∀ lock k, ke.keGetCurrentIrql k ≤ dispatchLevel →
    ke.oldIrql (ke.keAcquireInStackQueuedSpinLock lock k).1 = ke.keGetCurrentIrql k ∧
      ke.keGetCurrentIrql (ke.keAcquireInStackQueuedSpinLock lock k).2 = dispatchLevel
  releaseInStack : ∀ handle k, ke.oldIrql handle ≤ ke.keGetCurrentIrql k →
    ke.keGetCurrentIrql (ke.keReleaseInStackQueuedSpinLock handle k) = ke.oldIrql handle
  acquireInStackAtDpcLevel : ∀ lock k,
    ke.keGetCurrentIrql (ke.keAcquireInStackQueuedSpinLockAtDpcLevel lock k).2 =
      ke.keGetCurrentIrql k
  releaseInStackFromDpcLevel : ∀ handle k,
    ke.keGetCurrentIrql (ke.keReleaseInStackQueuedSpinLockFromDpcLevel handle k) =
      ke.keGetCurrentIrql k

namespace Winkernel

/-- The functions pass their arguments on. Those for spin locks at `DISPATCH_LEVEL` pass the address
of their parameter, which is `parameter`, and not the lock. -/
def implementation (ke : Ke κ η) (parameter : Lock) : Implementation κ η where
  cxplatRaiseIrql := ke.keRaiseIrql
  cxplatLowerIrql := ke.keLowerIrql
  cxplatAcquireSpinLock := ke.keAcquireSpinLockRaiseToDpc
  cxplatReleaseSpinLock := ke.keReleaseSpinLock
  cxplatAcquireSpinLockAtDpcLevel := fun _ => ke.keAcquireSpinLockAtDpcLevel parameter
  cxplatReleaseSpinLockFromDpcLevel := fun _ => ke.keReleaseSpinLockFromDpcLevel parameter
  cxplatAcquireInStackQueuedSpinLock := ke.keAcquireInStackQueuedSpinLock
  cxplatReleaseInStackQueuedSpinLock := ke.keReleaseInStackQueuedSpinLock
  cxplatAcquireInStackQueuedSpinLockAtDpc := ke.keAcquireInStackQueuedSpinLockAtDpcLevel
  cxplatReleaseInStackQueuedSpinLockFromDpc := ke.keReleaseInStackQueuedSpinLockFromDpcLevel
  cxplatGetCurrentIrql := ke.keGetCurrentIrql

end Winkernel

/-! ## The calls of a thread -/

inductive Call where
  | raiseIrql (irql : Irql)
  | lowerIrql
  | acquireSpinLock (spinLock : Lock)
  | releaseSpinLock
  | acquireSpinLockAtDpcLevel (spinLock : Lock)
  | releaseSpinLockFromDpcLevel
  | acquireInStackQueuedSpinLock (spinLock : Lock)
  | releaseInStackQueuedSpinLock
  | acquireInStackQueuedSpinLockAtDpc (spinLock : Lock)
  | releaseInStackQueuedSpinLockFromDpc
deriving DecidableEq, Repr

/-- An open bracket, with what is needed to close it. -/
inductive Bracket (η : Type) where
  | raised (oldIrql : Irql)
  | spinLock (spinLock : Lock) (oldIrql : Irql)
  | spinLockAtDpcLevel (spinLock : Lock)
  | inStack (lockHandle : η)
  | inStackAtDpc (lockHandle : η)
deriving DecidableEq, Repr

structure Nested (σ η : Type) where
  thread : σ
  brackets : List (Bracket η)
deriving DecidableEq, Repr

/-- A call that closes a bracket has to match the last one that is open. -/
def step (f : Implementation σ η) (s : Nested σ η) : Call → Option (Nested σ η)
  | .raiseIrql irql =>
    let (oldIrql, thread) := f.cxplatRaiseIrql irql s.thread
    some ⟨thread, .raised oldIrql :: s.brackets⟩
  | .lowerIrql =>
    match s.brackets with
    | .raised oldIrql :: rest => some ⟨f.cxplatLowerIrql oldIrql s.thread, rest⟩
    | _ => none
  | .acquireSpinLock spinLock =>
    let (oldIrql, thread) := f.cxplatAcquireSpinLock spinLock s.thread
    some ⟨thread, .spinLock spinLock oldIrql :: s.brackets⟩
  | .releaseSpinLock =>
    match s.brackets with
    | .spinLock spinLock oldIrql :: rest =>
      some ⟨f.cxplatReleaseSpinLock spinLock oldIrql s.thread, rest⟩
    | _ => none
  | .acquireSpinLockAtDpcLevel spinLock =>
    some ⟨f.cxplatAcquireSpinLockAtDpcLevel spinLock s.thread,
      .spinLockAtDpcLevel spinLock :: s.brackets⟩
  | .releaseSpinLockFromDpcLevel =>
    match s.brackets with
    | .spinLockAtDpcLevel spinLock :: rest =>
      some ⟨f.cxplatReleaseSpinLockFromDpcLevel spinLock s.thread, rest⟩
    | _ => none
  | .acquireInStackQueuedSpinLock spinLock =>
    let (lockHandle, thread) := f.cxplatAcquireInStackQueuedSpinLock spinLock s.thread
    some ⟨thread, .inStack lockHandle :: s.brackets⟩
  | .releaseInStackQueuedSpinLock =>
    match s.brackets with
    | .inStack lockHandle :: rest =>
      some ⟨f.cxplatReleaseInStackQueuedSpinLock lockHandle s.thread, rest⟩
    | _ => none
  | .acquireInStackQueuedSpinLockAtDpc spinLock =>
    let (lockHandle, thread) := f.cxplatAcquireInStackQueuedSpinLockAtDpc spinLock s.thread
    some ⟨thread, .inStackAtDpc lockHandle :: s.brackets⟩
  | .releaseInStackQueuedSpinLockFromDpc =>
    match s.brackets with
    | .inStackAtDpc lockHandle :: rest =>
      some ⟨f.cxplatReleaseInStackQueuedSpinLockFromDpc lockHandle s.thread, rest⟩
    | _ => none

/-- The annotations of the header: `_IRQL_requires_max_`, `_IRQL_requires_min_`, `_IRQL_requires_`,
and `_IRQL_raises_` of `cxplat_raise_irql`. -/
def AllowedAt (irql : Irql) : Call → Prop
  | .raiseIrql new => irql ≤ new ∧ new ≤ highLevel
  | .lowerIrql => irql ≤ highLevel
  | .acquireSpinLock _ => irql ≤ dispatchLevel
  | .releaseSpinLock => irql = dispatchLevel
  | .acquireSpinLockAtDpcLevel _ => dispatchLevel ≤ irql
  | .releaseSpinLockFromDpcLevel => dispatchLevel ≤ irql
  | .acquireInStackQueuedSpinLock _ => irql ≤ dispatchLevel
  | .releaseInStackQueuedSpinLock => irql = dispatchLevel
  | .acquireInStackQueuedSpinLockAtDpc _ => irql ≤ dispatchLevel
  | .releaseInStackQueuedSpinLockFromDpc => irql = dispatchLevel

instance decidableAllowedAt (irql : Irql) : (c : Call) → Decidable (AllowedAt irql c)
  | .raiseIrql new => inferInstanceAs (Decidable (irql ≤ new ∧ new ≤ highLevel))
  | .lowerIrql => inferInstanceAs (Decidable (irql ≤ highLevel))
  | .acquireSpinLock _ | .acquireInStackQueuedSpinLock _ | .acquireInStackQueuedSpinLockAtDpc _ =>
    inferInstanceAs (Decidable (irql ≤ dispatchLevel))
  | .releaseSpinLock | .releaseInStackQueuedSpinLock | .releaseInStackQueuedSpinLockFromDpc =>
    inferInstanceAs (Decidable (irql = dispatchLevel))
  | .acquireSpinLockAtDpcLevel _ | .releaseSpinLockFromDpcLevel =>
    inferInstanceAs (Decidable (dispatchLevel ≤ irql))

/-- The in-stack queued lock is acquired at `DISPATCH_LEVEL`. -/
def AcquiredAtDispatch (irql : Irql) : Call → Prop
  | .acquireInStackQueuedSpinLock _ => irql = dispatchLevel
  | _ => True

instance decidableAcquiredAtDispatch (irql : Irql) :
    (c : Call) → Decidable (AcquiredAtDispatch irql c)
  | .acquireInStackQueuedSpinLock _ => inferInstanceAs (Decidable (irql = dispatchLevel))
  | .raiseIrql _ | .lowerIrql | .acquireSpinLock _ | .releaseSpinLock
  | .acquireSpinLockAtDpcLevel _ | .releaseSpinLockFromDpcLevel | .releaseInStackQueuedSpinLock
  | .acquireInStackQueuedSpinLockAtDpc _ | .releaseInStackQueuedSpinLockFromDpc =>
    inferInstanceAs (Decidable True)

/-- `cxplat_get_current_irql` after calls. -/
def irqlAfter (f : Implementation σ η) (thread : σ) (calls : List Call) : Option Irql :=
  (exec (step f) ⟨thread, []⟩ calls).map fun s => f.cxplatGetCurrentIrql s.thread

/-! ## Lock step -/

/-- Closing the brackets only ever lowers the IRQL. -/
def Levels (oldIrqlOf : η → Irql) : Irql → List (Bracket η) → Prop
  | _, [] => True
  | irql, .raised oldIrql :: rest => oldIrql ≤ irql ∧ Levels oldIrqlOf oldIrql rest
  | irql, .spinLock _ oldIrql :: rest => oldIrql ≤ irql ∧ Levels oldIrqlOf oldIrql rest
  | irql, .spinLockAtDpcLevel _ :: rest => Levels oldIrqlOf irql rest
  | irql, .inStack handle :: rest =>
    oldIrqlOf handle ≤ irql ∧ Levels oldIrqlOf (oldIrqlOf handle) rest
  | irql, .inStackAtDpc _ :: rest => Levels oldIrqlOf irql rest

/-- The brackets of both implementations. The user's handle of a queued lock saves no IRQL, so the
kernel's has to save `DISPATCH_LEVEL`. -/
inductive SameBracket (oldIrqlOf : η → Irql) : Bracket η → Bracket Winuser.LockQueueHandle → Prop
  | raised (oldIrql : Irql) : SameBracket oldIrqlOf (.raised oldIrql) (.raised oldIrql)
  | spinLock (lock : Lock) (oldIrql : Irql) :
      SameBracket oldIrqlOf (.spinLock lock oldIrql) (.spinLock lock oldIrql)
  | spinLockAtDpcLevel (lock : Lock) :
      SameBracket oldIrqlOf (.spinLockAtDpcLevel lock) (.spinLockAtDpcLevel lock)
  | inStack {handle : η} {handle' : Winuser.LockQueueHandle}
      (hold : oldIrqlOf handle = dispatchLevel) :
      SameBracket oldIrqlOf (.inStack handle) (.inStack handle')
  | inStackAtDpc {handle : η} {handle' : Winuser.LockQueueHandle} :
      SameBracket oldIrqlOf (.inStackAtDpc handle) (.inStackAtDpc handle')

structure Agree (ke : Ke κ η) (k : Nested κ η) (u : Nested Winuser.Thread Winuser.LockQueueHandle) :
    Prop where
  irql : u.thread.currentIrql = ke.keGetCurrentIrql k.thread
  brackets : List.Forall₂ (SameBracket ke.oldIrql) k.brackets u.brackets
  levels : Levels ke.oldIrql (ke.keGetCurrentIrql k.thread) k.brackets

variable {ke : Ke κ η} {parameter : Lock} {k : Nested κ η}
  {u : Nested Winuser.Thread Winuser.LockQueueHandle} {c : Call}

/-- A bracket is opened by both. -/
theorem Agree.opened {thread : κ} {thread' : Winuser.Thread} {b : Bracket η}
    {b' : Bracket Winuser.LockQueueHandle} (h : Agree ke k u)
    (hirql : thread'.currentIrql = ke.keGetCurrentIrql thread) (hb : SameBracket ke.oldIrql b b')
    (hlevels : Levels ke.oldIrql (ke.keGetCurrentIrql k.thread) k.brackets →
      Levels ke.oldIrql (ke.keGetCurrentIrql thread) (b :: k.brackets)) :
    Option.Rel (Agree ke) (some ⟨thread, b :: k.brackets⟩) (some ⟨thread', b' :: u.brackets⟩) :=
  .some ⟨hirql, .cons hb h.brackets, hlevels h.levels⟩

/-- The innermost bracket is closed by both, to the same IRQL. -/
theorem agree_closed {thread : κ} {thread' : Winuser.Thread} {rest : List (Bracket η)}
    {rest' : List (Bracket Winuser.LockQueueHandle)} {irql : Irql}
    (hrest : List.Forall₂ (SameBracket ke.oldIrql) rest rest') (hirql : thread'.currentIrql = irql)
    (hnew : ke.keGetCurrentIrql thread = irql) (hlevels : Levels ke.oldIrql irql rest) :
    Option.Rel (Agree ke) (some ⟨thread, rest⟩) (some ⟨thread', rest'⟩) :=
  .some ⟨hirql.trans hnew.symm, hrest, hnew.symm ▸ hlevels⟩

theorem agree_step (parameter : Lock) (hke : ke.Documented) (h : Agree ke k u)
    (hallowed : AllowedAt (ke.keGetCurrentIrql k.thread) c)
    (hdispatch : AcquiredAtDispatch (ke.keGetCurrentIrql k.thread) c) :
    Option.Rel (Agree ke) (step (Winkernel.implementation ke parameter) k c)
      (step Winuser.implementation u c) := by
  obtain ⟨thread, brackets⟩ := k
  obtain ⟨thread', brackets'⟩ := u
  cases c with
  | raiseIrql irql =>
    obtain ⟨hold, hnew⟩ := hke.raiseIrql irql thread hallowed.1
    refine h.opened hnew.symm ?_ fun hl => ?_
    · have hsame : (ke.keRaiseIrql irql thread).1 = thread'.currentIrql := hold.trans h.irql.symm
      show SameBracket _ (.raised (ke.keRaiseIrql irql thread).1) (.raised thread'.currentIrql)
      rw [hsame]
      exact .raised _
    · show Levels _ (ke.keGetCurrentIrql (ke.keRaiseIrql irql thread).2)
        (.raised (ke.keRaiseIrql irql thread).1 :: _)
      rw [hold, hnew]
      exact ⟨hallowed.1, hl⟩
  | acquireSpinLock lock =>
    obtain ⟨hold, hnew⟩ := hke.acquireSpinLock lock thread hallowed
    refine h.opened hnew.symm ?_ fun hl => ?_
    · have hsame := hold.trans h.irql.symm
      show SameBracket _ (.spinLock lock (ke.keAcquireSpinLockRaiseToDpc lock thread).1)
        (.spinLock lock thread'.currentIrql)
      rw [hsame]
      exact .spinLock lock _
    · show Levels _ (ke.keGetCurrentIrql (ke.keAcquireSpinLockRaiseToDpc lock thread).2)
        (.spinLock lock (ke.keAcquireSpinLockRaiseToDpc lock thread).1 :: _)
      rw [hold, hnew]
      exact ⟨hallowed, hl⟩
  | acquireSpinLockAtDpcLevel lock =>
    have hsame := hke.acquireAtDpcLevel parameter thread
    exact h.opened (h.irql.trans hsame.symm) (.spinLockAtDpcLevel lock) fun hl => hsame.symm ▸ hl
  | acquireInStackQueuedSpinLock lock =>
    obtain ⟨hold, hnew⟩ := hke.acquireInStack lock thread hallowed
    -- the user's IRQL stays, and is the right one because it is the right one before
    have hbefore : ke.keGetCurrentIrql thread = dispatchLevel := hdispatch
    refine h.opened ?_ (.inStack (hold.trans hbefore)) fun hl => ?_
    · exact (h.irql.trans hbefore).trans hnew.symm
    · show Levels _ (ke.keGetCurrentIrql (ke.keAcquireInStackQueuedSpinLock lock thread).2)
        (.inStack (ke.keAcquireInStackQueuedSpinLock lock thread).1 :: _)
      rw [Levels, hold, hnew]
      exact ⟨hallowed, hl⟩
  | acquireInStackQueuedSpinLockAtDpc lock =>
    have hsame := hke.acquireInStackAtDpcLevel lock thread
    exact h.opened (h.irql.trans hsame.symm) .inStackAtDpc fun hl => hsame.symm ▸ hl
  | lowerIrql =>
    obtain ⟨hirql, hbrackets, hlevels⟩ := h
    cases hbrackets with
    | nil => exact .none
    | cons hb hrest =>
      cases hb with
      | raised oldIrql =>
        exact agree_closed hrest rfl (hke.lowerIrql oldIrql thread hlevels.1) hlevels.2
      | _ => exact .none
  | releaseSpinLock =>
    obtain ⟨-, hbrackets, hlevels⟩ := h
    cases hbrackets with
    | nil => exact .none
    | cons hb hrest =>
      cases hb with
      | spinLock lock oldIrql =>
        exact agree_closed hrest rfl (hke.releaseSpinLock lock oldIrql thread hlevels.1) hlevels.2
      | _ => exact .none
  | releaseSpinLockFromDpcLevel =>
    obtain ⟨hirql, hbrackets, hlevels⟩ := h
    cases hbrackets with
    | nil => exact .none
    | cons hb hrest =>
      cases hb with
      | spinLockAtDpcLevel lock =>
        exact agree_closed hrest hirql (hke.releaseFromDpcLevel parameter thread) hlevels
      | _ => exact .none
  | releaseInStackQueuedSpinLock =>
    obtain ⟨hirql, hbrackets, hlevels⟩ := h
    cases hbrackets with
    | nil => exact .none
    | cons hb hrest =>
      cases hb with
      | @inStack handle handle' hold =>
        -- the user's IRQL stays, and is the one that the kernel's handle has saved
        have hbefore : ke.keGetCurrentIrql thread = dispatchLevel := hallowed
        exact agree_closed hrest ((hirql.trans hbefore).trans hold.symm)
          (hke.releaseInStack handle thread hlevels.1) hlevels.2
      | _ => exact .none
  | releaseInStackQueuedSpinLockFromDpc =>
    obtain ⟨hirql, hbrackets, hlevels⟩ := h
    cases hbrackets with
    | nil => exact .none
    | cons hb hrest =>
      cases hb with
      | @inStackAtDpc handle handle' =>
        exact agree_closed hrest hirql (hke.releaseInStackFromDpcLevel handle thread) hlevels
      | _ => exact .none

/-- An in-stack queued lock that is acquired below `DISPATCH_LEVEL` raises in the kernel only. -/
theorem acquiredAtDispatch_of_irql_eq (hke : ke.Documented) (h : Agree ke k u)
    (hallowed : AllowedAt (ke.keGetCurrentIrql k.thread) c)
    (hsame : (step Winuser.implementation u c).map (fun s => s.thread.currentIrql) =
      (step (Winkernel.implementation ke parameter) k c).map
        fun s => ke.keGetCurrentIrql s.thread) :
    AcquiredAtDispatch (ke.keGetCurrentIrql k.thread) c := by
  cases c with
  | acquireInStackQueuedSpinLock lock =>
    have hkernel := (hke.acquireInStack lock k.thread hallowed).2
    have huser : u.thread.currentIrql =
        ke.keGetCurrentIrql (ke.keAcquireInStackQueuedSpinLock lock k.thread).2 :=
      Option.some.inj hsame
    exact h.irql.symm.trans (huser.trans hkernel)
  | _ => trivial

/-! ## Runs -/

/-- The IRQL after every call, from two states on. -/
def InStep (ke : Ke κ η) (parameter : Lock) (k : Nested κ η)
    (u : Nested Winuser.Thread Winuser.LockQueueHandle) (calls : List Call) : Prop :=
  ∀ before, before <+: calls →
    (exec (step Winuser.implementation) u before).map (fun s => s.thread.currentIrql) =
      (exec (step (Winkernel.implementation ke parameter)) k before).map
        fun s => ke.keGetCurrentIrql s.thread

theorem InStep.tail {calls : List Call} {k' : Nested κ η}
    {u' : Nested Winuser.Thread Winuser.LockQueueHandle}
    (h : InStep ke parameter k u (c :: calls))
    (hk : step (Winkernel.implementation ke parameter) k c = some k')
    (hu : step Winuser.implementation u c = some u') : InStep ke parameter k' u' calls := by
  intro before hbefore
  have hcons := h (c :: before) (List.cons_prefix_cons.mpr ⟨rfl, hbefore⟩)
  rwa [exec_cons, exec_cons, hk, hu] at hcons

theorem inStep_iff (hke : ke.Documented) {calls : List Call} (h : Agree ke k u)
    (hallowed : Guarded (step (Winkernel.implementation ke parameter))
      (fun s c => AllowedAt (ke.keGetCurrentIrql s.thread) c) k calls) :
    InStep ke parameter k u calls ↔
      Guarded (step (Winkernel.implementation ke parameter))
        (fun s c => AcquiredAtDispatch (ke.keGetCurrentIrql s.thread) c) k calls := by
  induction calls generalizing k u with
  | nil =>
    refine iff_of_true (fun before hbefore => ?_) trivial
    rw [List.prefix_nil.mp hbefore]
    exact congrArg some h.irql
  | cons c calls ih =>
    constructor
    · intro hin
      have hfirst := hin [c] (List.cons_prefix_cons.mpr ⟨rfl, List.nil_prefix⟩)
      rw [exec_singleton, exec_singleton] at hfirst
      have hdispatch := acquiredAtDispatch_of_irql_eq hke h hallowed.1 hfirst
      refine ⟨hdispatch, fun k' hk' => ?_⟩
      have hrel := agree_step parameter hke h hallowed.1 hdispatch
      rw [hk'] at hrel
      generalize hu : step Winuser.implementation u c = u' at hrel
      cases hrel with
      | some hagree => exact (ih hagree (hallowed.2 k' hk')).mp (hin.tail hk' hu)
    · rintro ⟨hdispatch, hrest⟩ before hbefore
      cases before with
      | nil => exact congrArg some h.irql
      | cons c' before =>
        obtain ⟨rfl, htail⟩ := List.cons_prefix_cons.mp hbefore
        have hrel := agree_step parameter hke h hallowed.1 hdispatch
        rw [exec_cons, exec_cons]
        generalize hk : step (Winkernel.implementation ke parameter) k c' = k' at hrel
        generalize step Winuser.implementation u c' = u' at hrel
        cases hrel with
        | none => rfl
        | some hagree =>
          exact (ih hagree (hallowed.2 _ hk)).mpr (hrest _ hk) before htail

/--
For every kernel that does what its documentation says and every nesting of calls that the
annotations allow, from `PASSIVE_LEVEL` on: both implementations have the same IRQL after every call
if and only if every in-stack queued lock that is not acquired by the function for `DISPATCH_LEVEL`
is acquired at `DISPATCH_LEVEL`.
-/
theorem irql_refinement_iff (ke : Ke κ η) (hke : ke.Documented) (parameter : Lock) (thread : κ)
    (hstart : ke.keGetCurrentIrql thread = passiveLevel) (calls : List Call)
    (hallowed : Guarded (step (Winkernel.implementation ke parameter))
      (fun s c => AllowedAt (ke.keGetCurrentIrql s.thread) c) ⟨thread, []⟩ calls) :
    (∀ before, before <+: calls →
      irqlAfter Winuser.implementation .init before =
        irqlAfter (Winkernel.implementation ke parameter) thread before) ↔
      Guarded (step (Winkernel.implementation ke parameter))
        (fun s c => AcquiredAtDispatch (ke.keGetCurrentIrql s.thread) c) ⟨thread, []⟩ calls :=
  inStep_iff hke ⟨hstart.symm, .nil, trivial⟩ hallowed

/-! ## A kernel that keeps nothing but the IRQL -/

def irqlOnly : Ke Irql Irql where
  keRaiseIrql := fun irql current => (current, irql)
  keLowerIrql := fun irql _ => irql
  keAcquireSpinLockRaiseToDpc := fun _ current => (current, dispatchLevel)
  keReleaseSpinLock := fun _ irql _ => irql
  keAcquireSpinLockAtDpcLevel := fun _ current => current
  keReleaseSpinLockFromDpcLevel := fun _ current => current
  keAcquireInStackQueuedSpinLock := fun _ current => (current, dispatchLevel)
  keReleaseInStackQueuedSpinLock := fun oldIrql _ => oldIrql
  keAcquireInStackQueuedSpinLockAtDpcLevel := fun _ current => (current, current)
  keReleaseInStackQueuedSpinLockFromDpcLevel := fun _ current => current
  keGetCurrentIrql := id
  oldIrql := id

theorem documented_irqlOnly : irqlOnly.Documented where
  raiseIrql := fun _ _ _ => ⟨rfl, rfl⟩
  lowerIrql := fun _ _ _ => rfl
  acquireSpinLock := fun _ _ _ => ⟨rfl, rfl⟩
  releaseSpinLock := fun _ _ _ _ => rfl
  acquireAtDpcLevel := fun _ _ => rfl
  releaseFromDpcLevel := fun _ _ => rfl
  acquireInStack := fun _ _ _ => ⟨rfl, rfl⟩
  releaseInStack := fun _ _ _ => rfl
  acquireInStackAtDpcLevel := fun _ _ => rfl
  releaseInStackFromDpcLevel := fun _ _ => rfl

/-- A queued lock inside of a spin lock. -/
def queuedInside : List Call :=
  [.acquireSpinLock 1, .acquireInStackQueuedSpinLock 2, .releaseInStackQueuedSpinLock,
    .releaseSpinLock]

theorem queuedInside_agrees :
    irqlAfter Winuser.implementation .init queuedInside =
      irqlAfter (Winkernel.implementation irqlOnly 0) passiveLevel queuedInside := by
  refine (irql_refinement_iff irqlOnly documented_irqlOnly 0 passiveLevel rfl
    queuedInside ?_).mpr ?_
    queuedInside List.prefix_rfl
  · exact guarded_of_check (by decide)
  · exact guarded_of_check (by decide)

/-- A queued lock alone. -/
theorem queued_disagrees :
    irqlOnly.Documented ∧
      Guarded (step (Winkernel.implementation irqlOnly 0))
        (fun s c => AllowedAt (irqlOnly.keGetCurrentIrql s.thread) c) ⟨passiveLevel, []⟩
        [.acquireInStackQueuedSpinLock 1] ∧
      irqlAfter Winuser.implementation .init [.acquireInStackQueuedSpinLock 1] =
        some passiveLevel ∧
      irqlAfter (Winkernel.implementation irqlOnly 0) passiveLevel
        [.acquireInStackQueuedSpinLock 1] =
        some dispatchLevel :=
  ⟨documented_irqlOnly, guarded_of_check (by decide), rfl, rfl⟩

end Usersim.Cxplat.Processor
