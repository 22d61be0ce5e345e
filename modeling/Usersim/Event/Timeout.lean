import Mathlib.Algebra.Group.Int.Defs
import Mathlib.Algebra.Group.Nat.Defs
import Usersim.Event.Basic

/-!
# Timeouts of `KeWaitForSingleObject` (`ke.cpp`)

A timeout is a signed number of 100-ns units: null for none, positive for an interrupt time, else
the time from now on. `_wait_for_kevent` makes an end time of it, and hands the rest of the time to
`WaitOnAddress` in each turn of its loop; for a semaphore the timeout itself is divided. Both
convert to milliseconds in a DWORD.

* `waitsRight_iff` — when every turn that waits does so for the time that is left
* `exec_turn` — the loop in terms of the steps that are taken among other threads
* `sameDuration_iff` — when a semaphore and an event wait for the same time
-/

namespace Usersim.Event

open Lib

/-! ## An event -/

def infinite : BitVec 32 := 0xffffffff

/-- `end_time`. -/
def endTime (timeout : Option (BitVec 64)) (startTime : BitVec 64) : BitVec 64 :=
  match timeout with
  | none => 0xffffffffffffffff
  | some quadPart => if 0 < quadPart.toInt then quadPart else startTime - quadPart

def timeoutMs (endTime startTime : BitVec 64) : BitVec 32 :=
  ((endTime - startTime) / 10000).setWidth 32

/-- What a turn of the loop meets. -/
structure Turn where
  signaled : Bool
  /-- The time `WaitOnAddress` is given, if it is given one, runs out. -/
  runsOut : Bool
  /-- The interrupt time afterwards. -/
  clock : BitVec 64
deriving DecidableEq, Repr

/-- A call of `WaitOnAddress`, and when its turn began. -/
structure AddressWait where
  startTime : BitVec 64
  timeoutMs : BitVec 32
deriving DecidableEq, Repr

inductive WaitStatus where
  | success
  | timeout
deriving DecidableEq, Repr

/-- The loop, with the calls of `WaitOnAddress` and the status if it returns. -/
def waitLoop (endTime : BitVec 64) : BitVec 64 → List Turn → List AddressWait × Option WaitStatus
  | _, [] => ([], none)
  | startTime, turn :: turns =>
    let ms := timeoutMs endTime startTime
    if turn.signaled then ([], some .success)
    else if ms ≠ infinite ∧ turn.runsOut then ([⟨startTime, ms⟩], some .timeout)
    else if endTime ≤ turn.clock then ([⟨startTime, ms⟩], some .timeout)
    else
      let rest := waitLoop endTime turn.clock turns
      (⟨startTime, ms⟩ :: rest.1, rest.2)

/-- `_wait_for_kevent`. -/
def waitForKevent (timeout : Option (BitVec 64)) (startTime : BitVec 64) (turns : List Turn) :
    List AddressWait × Option WaitStatus :=
  waitLoop (endTime timeout startTime) startTime turns

/-! ## Any object -/

/-- The first call that waits. -/
inductive Waiting where
  | waitForSingleObject (timeoutMs : BitVec 32)
  | waitOnAddress (timeoutMs : BitVec 32)
deriving DecidableEq, Repr

/-- `KeWaitForSingleObject`, on an event that is not signaled or a semaphore; `none`
if the assertion fails. -/
def keWaitForSingleObject (type : ObjectType) (timeout : Option (BitVec 64))
    (clock : BitVec 64) : Option Waiting :=
  let semaphoreMs := match timeout with
    | none => infinite
    | some quadPart => (quadPart.sdiv 10000).setWidth 32
  match type with
  | .semaphore => some (.waitForSingleObject semaphoreMs)
  | .event => some (.waitOnAddress (timeoutMs (endTime timeout clock) clock))
  | .unknown | .timer => none

def Waiting.duration : Waiting → BitVec 32
  | .waitForSingleObject ms | .waitOnAddress ms => ms

/-! ## What a timeout means -/

/-- The interrupt time at which a wait is over. -/
def deadline (quadPart startTime : BitVec 64) : Int :=
  if 0 < quadPart.toInt then quadPart.toInt else startTime.toNat - quadPart.toInt

/-- The time that is left, in full milliseconds, as far as it fits a DWORD. -/
def durationLeft (timeout : Option (BitVec 64)) (startTime now : BitVec 64) : Nat :=
  match timeout with
  | none => 2 ^ 32 - 1
  | some quadPart => min ((deadline quadPart startTime - now.toNat).toNat / 10000) (2 ^ 32 - 1)

/-- `WaitOnAddress` is given the time that is left, and without a timeout the wait does not time
out. -/
structure WaitsRight (timeout : Option (BitVec 64)) (startTime : BitVec 64)
    (turns : List Turn) : Prop where
  durations : ∀ w ∈ (waitForKevent timeout startTime turns).1,
    w.timeoutMs.toNat = durationLeft timeout startTime w.startTime
  unlimited : timeout = none → (waitForKevent timeout startTime turns).2 ≠ some .timeout

/-- The deadline is less than `2 ^ 32` ms away and not over. The rest are the times that come out
right modulo `2 ^ 32`: without a timeout, the end of the clock is waited for. -/
def Fits (timeout : Option (BitVec 64)) (startTime now : BitVec 64) : Prop :=
  match timeout with
  | none => (2 ^ 64 - 1 - now.toNat) / 10000 % 2 ^ 32 = 2 ^ 32 - 1
  | some quadPart =>
    let left := deadline quadPart startTime - now.toNat
    if 0 ≤ left then left / 10000 < 2 ^ 32 ∨ left / 10000 % 2 ^ 32 = 2 ^ 32 - 1
    else (2 ^ 64 + left) / 10000 % 2 ^ 32 = 0

/-- The clock has come to the deadline. -/
def Over (timeout : Option (BitVec 64)) (startTime now : BitVec 64) : Prop :=
  match timeout with
  | none => False
  | some quadPart => deadline quadPart startTime ≤ now.toNat

/-- A turn that begins at `now` and finds the event not signaled is the last one: what is left, if
that is not INFINITE, runs out, or the deadline is over afterwards. -/
def Ends (timeout : Option (BitVec 64)) (startTime now : BitVec 64) (turn : Turn) : Prop :=
  (turn.runsOut = true ∧ durationLeft timeout startTime now ≠ 2 ^ 32 - 1) ∨
    Over timeout startTime turn.clock

/-- Until the event is signaled or a turn ends the wait, the time left fits. -/
def FitsEach (timeout : Option (BitVec 64)) (startTime : BitVec 64) : BitVec 64 → List Turn → Prop
  | _, [] => True
  | now, turn :: turns =>
    turn.signaled = true ∨
      (Fits timeout startTime now ∧
        (Ends timeout startTime now turn ∨ FitsEach timeout startTime turn.clock turns))

/-- `KeWaitForSingleObject` waits for a semaphore as long as for an event. -/
def SameDuration (timeout : Option (BitVec 64)) (clock : BitVec 64) : Prop :=
  (keWaitForSingleObject .semaphore timeout clock).map Waiting.duration =
    (keWaitForSingleObject .event timeout clock).map Waiting.duration

variable {timeout : Option (BitVec 64)} {startTime now : BitVec 64} {turns : List Turn}

theorem toNat_timeoutMs (endTime startTime : BitVec 64) :
    (timeoutMs endTime startTime).toNat =
      (2 ^ 64 - startTime.toNat + endTime.toNat) % 2 ^ 64 / 10000 % 2 ^ 32 := by
  rw [timeoutMs, BitVec.toNat_setWidth, BitVec.toNat_udiv, BitVec.toNat_sub]
  rfl

/-! ## The turns of the loop -/

theorem toInt_cases (x : BitVec 64) :
    (x.toNat < 2 ^ 63 ∧ x.toInt = x.toNat) ∨ (2 ^ 63 ≤ x.toNat ∧ x.toInt = x.toNat - 2 ^ 64) := by
  have h := BitVec.toInt_eq_toNat_cond x
  split at h
  · exact .inl ⟨by omega, h⟩
  · exact .inr ⟨by omega, by omega⟩

theorem endTime_eq_deadline (quadPart : BitVec 64) (hstart : startTime.toNat < 2 ^ 63) :
    ((endTime (some quadPart) startTime).toNat : Int) = deadline quadPart startTime := by
  have hlt := quadPart.isLt
  unfold endTime deadline
  dsimp only
  rcases toInt_cases quadPart with ⟨hsmall, hint⟩ | ⟨hlarge, hint⟩
  · rw [hint]
    split
    · rfl
    · rw [BitVec.toNat_sub]
      omega
  · rw [if_neg (by omega), if_neg (by omega), BitVec.toNat_sub]
    omega

/-- The time a turn that begins at `now` hands to `WaitOnAddress`. -/
theorem timeoutMs_eq_iff (hstart : startTime.toNat < 2 ^ 63) (hnow : now.toNat < 2 ^ 63) :
    (timeoutMs (endTime timeout startTime) now).toNat = durationLeft timeout startTime now ↔
      Fits timeout startTime now := by
  rw [toNat_timeoutMs]
  cases timeout with
  | none =>
    have hend : (endTime none startTime).toNat = 2 ^ 64 - 1 := rfl
    have hleft : (2 ^ 64 - now.toNat + (2 ^ 64 - 1)) % 2 ^ 64 = 2 ^ 64 - 1 - now.toNat := by omega
    rw [hend, hleft]
    rfl
  | some quadPart =>
    have hend := endTime_eq_deadline quadPart hstart
    have hlt := (endTime (some quadPart) startTime).isLt
    unfold durationLeft Fits
    dsimp only
    rw [← hend]
    generalize (endTime (some quadPart) startTime).toNat = stop at hlt
    by_cases hleft : now.toNat ≤ stop
    · have hsub : (2 ^ 64 - now.toNat + stop) % 2 ^ 64 = stop - now.toNat := by omega
      rw [hsub, if_pos (by omega)]
      omega
    · have hsub : (2 ^ 64 - now.toNat + stop) % 2 ^ 64 = 2 ^ 64 + stop - now.toNat := by omega
      rw [hsub, if_neg (by omega)]
      omega

theorem waitLoop_signaled (endTime : BitVec 64) {turn : Turn} (h : turn.signaled = true) :
    waitLoop endTime now (turn :: turns) = ([], some .success) := by
  rw [waitLoop, if_pos h]

/-- A turn that waits, and what comes after it. -/
theorem waitLoop_waits (endTime : BitVec 64) {turn : Turn} (h : turn.signaled = false) :
    waitLoop endTime now (turn :: turns) =
      if (timeoutMs endTime now ≠ infinite ∧ turn.runsOut = true) ∨ endTime ≤ turn.clock then
        ([⟨now, timeoutMs endTime now⟩], some .timeout)
      else
        (⟨now, timeoutMs endTime now⟩ :: (waitLoop endTime turn.clock turns).1,
          (waitLoop endTime turn.clock turns).2) := by
  rw [waitLoop, if_neg (ne_true_of_eq_false h)]
  dsimp only
  by_cases hout : timeoutMs endTime now ≠ infinite ∧ turn.runsOut = true
  · rw [if_pos hout, if_pos (.inl hout)]
  · rw [if_neg hout]
    by_cases hend : endTime ≤ turn.clock
    · rw [if_pos hend, if_pos (.inr hend)]
    · rw [if_neg hend, if_neg (not_or.mpr ⟨hout, hend⟩)]

/-- Where the time left fits, the loop ends when the wait ends. -/
theorem ends_iff {turn : Turn} (hstart : startTime.toNat < 2 ^ 63) (hnow : now.toNat < 2 ^ 63)
    (hclock : turn.clock.toNat < 2 ^ 63) (hfits : Fits timeout startTime now) :
    ((timeoutMs (endTime timeout startTime) now ≠ infinite ∧ turn.runsOut = true) ∨
        endTime timeout startTime ≤ turn.clock) ↔ Ends timeout startTime now turn := by
  have hms := (timeoutMs_eq_iff hstart hnow).mpr hfits
  have hinfinite : timeoutMs (endTime timeout startTime) now = infinite ↔
      durationLeft timeout startTime now = 2 ^ 32 - 1 := by
    rw [← hms, ← BitVec.toNat_inj]
    rfl
  have hover : endTime timeout startTime ≤ turn.clock ↔ Over timeout startTime turn.clock := by
    rw [BitVec.le_def]
    cases timeout with
    | none =>
      refine iff_of_false (fun hle => ?_) id
      have hend : (endTime none startTime).toNat = 2 ^ 64 - 1 := rfl
      omega
    | some quadPart =>
      show _ ↔ deadline quadPart startTime ≤ turn.clock.toNat
      rw [← endTime_eq_deadline quadPart hstart]
      exact Int.ofNat_le.symm
  rw [Ends, hover, ne_eq, ne_eq, hinfinite, and_comm]

/-- The calls of `WaitOnAddress`, from the turn on that begins at `now`. -/
theorem durations_iff (timeout : Option (BitVec 64)) (hstart : startTime.toNat < 2 ^ 63)
    (hnow : now.toNat < 2 ^ 63)
    (hclock : ∀ turn ∈ turns, turn.clock.toNat < 2 ^ 63) :
    (∀ w ∈ (waitLoop (endTime timeout startTime) now turns).1,
        w.timeoutMs.toNat = durationLeft timeout startTime w.startTime) ↔
      FitsEach timeout startTime now turns := by
  induction turns generalizing now with
  | nil => simp [waitLoop, FitsEach]
  | cons turn turns ih =>
    have hturn := hclock turn List.mem_cons_self
    have hrest := ih hturn fun turn' hmem => hclock turn' (List.mem_cons_of_mem _ hmem)
    rw [FitsEach]
    cases hsignaled : turn.signaled with
    | true =>
      rw [waitLoop_signaled _ hsignaled]
      exact iff_of_true (fun w hw => by cases hw) (.inl rfl)
    | false =>
      rw [waitLoop_waits _ hsignaled]
      by_cases hfits : Fits timeout startTime now
      · have hms := (timeoutMs_eq_iff hstart hnow).mpr hfits
        have hends := ends_iff hstart hnow hturn hfits
        split
        · rename_i hend
          exact iff_of_true (List.forall_mem_singleton.mpr hms) (.inr ⟨hfits, .inl (hends.mp hend)⟩)
        · rename_i hend
          have hgoes := mt hends.mpr hend
          rw [List.forall_mem_cons, hrest]
          simp [hms, hfits, hgoes]
      · -- the first call is given another time
        refine iff_of_false (fun hall => hfits ?_) (by simp [hfits])
        rw [← timeoutMs_eq_iff hstart hnow]
        refine hall ⟨now, timeoutMs (endTime timeout startTime) now⟩ ?_
        split
        · exact List.mem_singleton_self _
        · exact List.mem_cons_self

/-- Infinite waits end when the event is signaled. -/
theorem waitLoop_ne_timeout (hnow : now.toNat < 2 ^ 63)
    (hclock : ∀ turn ∈ turns, turn.clock.toNat < 2 ^ 63)
    (hfits : FitsEach none startTime now turns) (hstart : startTime.toNat < 2 ^ 63) :
    (waitLoop (endTime none startTime) now turns).2 ≠ some .timeout := by
  induction turns generalizing now with
  | nil => simp [waitLoop]
  | cons turn turns ih =>
    have hturn := hclock turn List.mem_cons_self
    cases hsignaled : turn.signaled with
    | true => simp [waitLoop_signaled _ hsignaled]
    | false =>
      rw [FitsEach, hsignaled] at hfits
      obtain ⟨hfirst, hlater⟩ := hfits.resolve_left Bool.false_ne_true
      have hgoes : ¬ Ends none startTime now turn := by simp [Ends, Over, durationLeft]
      rw [waitLoop_waits _ hsignaled, if_neg (mt (ends_iff hstart hnow hturn hfirst).mp hgoes)]
      exact ih hturn (fun turn' hmem => hclock turn' (List.mem_cons_of_mem _ hmem))
        (hlater.resolve_left hgoes)

/--
For every timeout and every sequence of clock readings below `2 ^ 63`: `WaitOnAddress` is always
given the time that is left, and a wait without a timeout does not time out, if and only if the time
left fits whenever a turn of the wait finds the event not signaled.
-/
theorem waitsRight_iff (timeout : Option (BitVec 64)) (startTime : BitVec 64) (turns : List Turn)
    (hstart : startTime.toNat < 2 ^ 63) (hclock : ∀ turn ∈ turns, turn.clock.toNat < 2 ^ 63) :
    WaitsRight timeout startTime turns ↔ FitsEach timeout startTime startTime turns := by
  have hdurations := durations_iff timeout hstart hstart hclock
  constructor
  · exact fun h => hdurations.mp h.durations
  · intro hfits
    refine ⟨hdurations.mpr hfits, ?_⟩
    rintro rfl
    exact waitLoop_ne_timeout hstart hclock hfits hstart

/-- A timeout of 3 ms, and three turns: two that are woken up early, and one that finds the event
signaled. -/
def threeMs : List Turn := [⟨false, false, 10007⟩, ⟨false, false, 10008⟩, ⟨true, false, 10008⟩]

theorem waitsRight_iff_threeMs :
    waitForKevent (some (-30000)) 5 threeMs = ([⟨5, 3⟩, ⟨10007, 1⟩], some .success) ∧
      WaitsRight (some (-30000)) 5 threeMs := by
  refine ⟨by decide, (waitsRight_iff _ _ _ (by decide) (by decide)).mpr ?_⟩
  have hfirst : Fits (some (-30000)) 5 5 := by
    unfold Fits
    decide
  have hsecond : Fits (some (-30000)) 5 10007 := by
    unfold Fits
    decide
  exact .inr ⟨hfirst, .inr (.inr ⟨hsecond, .inr (.inl rfl)⟩)⟩

/-- Without a timeout the wait is over after a while, and a deadline that is over for 1 ms is waited
for. -/
theorem wait_without_timeout_times_out :
    waitForKevent none 0 [⟨false, true, 1⟩] = ([⟨0, 3133608139⟩], some .timeout) ∧
      ¬ WaitsRight none 0 [⟨false, true, 1⟩] ∧
      waitForKevent (some 10000) 20000 [⟨false, false, 20000⟩] =
        ([⟨20000, 3133608138⟩], some .timeout) ∧
      ¬ WaitsRight (some 10000) 20000 [⟨false, false, 20000⟩] := by
  refine ⟨by decide, fun h => ?_, by decide, fun h => ?_⟩
  · exact absurd (by decide) (h.unlimited rfl)
  · exact absurd (h.durations ⟨20000, 3133608138⟩ (by decide)) (by decide)

/-! ## The loop among other threads -/

def WaitStatus.outcome : WaitStatus → Outcome
  | .success => .statusSuccess
  | .timeout => .statusTimeout

/-- What a waiting thread does in a turn. -/
def turnActions (endTime startTime : BitVec 64) (t : Tid) (turn : Turn) : List Action :=
  [.lock t, .read t, .write t, .unlock t, .lower t] ++
    if turn.signaled then []
    else .waitOnAddress t ::
      if timeoutMs endTime startTime ≠ infinite ∧ turn.runsOut then [.timeOut t]
      else [.wakeUp t, .queryTime t (decide (endTime ≤ turn.clock))]

/-- The turns of the loop are steps of the event system: in a turn that ends the wait the call
returns with its status, and after any other the thread is where it was before. -/
theorem exec_turn {s : State} {t : Tid} {turn : Turn} {oldIrql : Nat}
    (endTime startTime : BitVec 64) (hpc : s.pc t = .raised .keWaitForSingleObject oldIrql)
    (howner : s.owner = none) (hsignaled : s.event.signaled = turn.signaled) :
    ∃ s', exec step s (turnActions endTime startTime t turn) = some s' ∧ s'.owner = none ∧
      match (waitLoop endTime startTime [turn]).2 with
      | some status =>
        s'.pc t = .idle ∧ s'.returned.head?.map Returned.outcome = some status.outcome
      | none => s'.pc t = .raised .keWaitForSingleObject oldIrql := by
  by_cases hsig : turn.signaled = true
  · simp [turnActions, waitLoop, hsig, hsignaled, exec_cons, step, State.setPc, hpc, howner,
      criticalSection, State.resume, State.returnWith, WaitStatus.outcome]
  · rw [Bool.not_eq_true] at hsig
    by_cases hout : timeoutMs endTime startTime ≠ infinite ∧ turn.runsOut = true
    · simp [turnActions, waitLoop, hsig, hsignaled, hout, exec_cons, step, State.setPc, hpc, howner,
        criticalSection, State.resume, State.returnWith, WaitStatus.outcome]
    · by_cases hend : endTime ≤ turn.clock
      · simp [turnActions, waitLoop, hsig, hsignaled, if_neg hout, hend, exec_cons, step,
          State.setPc, hpc, howner, criticalSection, State.resume, State.returnWith,
          WaitStatus.outcome]
      · simp [turnActions, waitLoop, hsig, hsignaled, if_neg hout, hend, exec_cons, step,
          State.setPc, hpc, howner, criticalSection, State.resume, State.raise]

/-! ## A semaphore and an event -/

/-- Where the two conversions agree: without a timeout, if the end of the clock happens to come out
as INFINITE; for a relative one, if it is a multiple of `2 ^ 31` ms, counted in full ones; for an
absolute one, if the clock, or what is left of it when the deadline is over, is a multiple of
`2 ^ 32` ms, with one more for a carry between the parts of a millisecond. -/
def Agree (timeout : Option (BitVec 64)) (clock : BitVec 64) : Prop :=
  match timeout with
  | none => (2 ^ 64 - 1 - clock.toNat) / 10000 % 2 ^ 32 = 2 ^ 32 - 1
  | some quadPart =>
    if quadPart.toInt ≤ 0 then -quadPart.toInt / 10000 % 2 ^ 31 = 0
    else if clock.toNat ≤ quadPart.toNat then
      let borrow := if quadPart.toNat % 10000 < clock.toNat % 10000 then 1 else 0
      (clock.toNat / 10000 + borrow) % 2 ^ 32 = 0
    else
      let left := 2 ^ 64 - clock.toNat
      let carry := if 10000 ≤ quadPart.toNat % 10000 + left % 10000 then 1 else 0
      (left / 10000 + carry) % 2 ^ 32 = 0

theorem sameDuration_iff_eq (timeout : Option (BitVec 64)) (clock : BitVec 64) :
    SameDuration timeout clock ↔
      (match timeout with
        | none => infinite
        | some quadPart => (quadPart.sdiv 10000).setWidth 32) =
      timeoutMs (endTime timeout clock) clock := by
  unfold SameDuration keWaitForSingleObject
  simp only [Option.map_some, Waiting.duration, Option.some.injEq]

theorem sameDuration_none (clock : BitVec 64) : SameDuration none clock ↔ Agree none clock := by
  have hlt := clock.isLt
  have hleft : (2 ^ 64 - clock.toNat + (2 ^ 64 - 1)) % 2 ^ 64 = 2 ^ 64 - 1 - clock.toNat := by
    omega
  rw [sameDuration_iff_eq, ← BitVec.toNat_inj, toNat_timeoutMs]
  show 2 ^ 32 - 1 = (2 ^ 64 - clock.toNat + (2 ^ 64 - 1)) % 2 ^ 64 / 10000 % 2 ^ 32 ↔ _
  rw [hleft]
  exact eq_comm

/-- The semaphore's milliseconds of a timeout that is not negative. -/
theorem toNat_sdiv_of_nonneg {quadPart : BitVec 64} (h : 0 ≤ quadPart.toInt) :
    ((quadPart.sdiv 10000).setWidth 32).toNat = quadPart.toNat / 10000 % 2 ^ 32 := by
  have hmsb : quadPart.msb = false := by
    rw [BitVec.msb_eq_toInt, decide_eq_false_iff_not]
    omega
  rw [BitVec.sdiv_eq, hmsb, BitVec.toNat_setWidth]
  exact congrArg (· % 2 ^ 32) BitVec.toNat_udiv

/-- The semaphore's milliseconds of a negative timeout are those of its absolute value, negated. -/
theorem toNat_sdiv_of_neg {quadPart : BitVec 64} (h : quadPart.toInt < 0) :
    ((quadPart.sdiv 10000).setWidth 32).toNat =
      (2 ^ 64 - (2 ^ 64 - quadPart.toNat) / 10000) % 2 ^ 32 := by
  have hmsb : quadPart.msb = true := by
    rw [BitVec.msb_eq_toInt, decide_eq_true_eq]
    exact h
  have hlt := quadPart.isLt
  have hneg : (-quadPart).toNat = 2 ^ 64 - quadPart.toNat := by
    have hint := toInt_cases quadPart
    rw [BitVec.toNat_neg]
    omega
  have hdiv : (BitVec.udiv (-quadPart) 10000).toNat = (2 ^ 64 - quadPart.toNat) / 10000 := by
    rw [← hneg]
    exact BitVec.toNat_udiv
  rw [BitVec.sdiv_eq, hmsb, BitVec.toNat_setWidth]
  show (-(BitVec.udiv (-quadPart) 10000)).toNat % 2 ^ 32 = _
  rw [BitVec.toNat_neg, hdiv]
  omega

/-- A relative timeout is its absolute value to the event, whatever the clock says. -/
theorem sameDuration_of_neg {quadPart clock : BitVec 64} (hneg : quadPart.toInt < 0) :
    SameDuration (some quadPart) clock ↔ -quadPart.toInt / 10000 % 2 ^ 31 = 0 := by
  have hlt := quadPart.isLt
  have hclock := clock.isLt
  have hint := toInt_cases quadPart
  have habs : -quadPart.toInt = ((2 ^ 64 - quadPart.toNat : Nat) : Int) := by omega
  have hsub : (2 ^ 64 - clock.toNat + (2 ^ 64 - quadPart.toNat + clock.toNat) % 2 ^ 64) % 2 ^ 64 =
      2 ^ 64 - quadPart.toNat := by omega
  rw [sameDuration_iff_eq, ← BitVec.toNat_inj, toNat_timeoutMs, toNat_sdiv_of_neg hneg]
  unfold endTime
  dsimp only
  rw [if_neg (by omega), BitVec.toNat_sub, hsub, habs]
  omega

/-- An absolute timeout is divided as it is for the semaphore, and less the clock for the event. -/
theorem sameDuration_of_pos {quadPart clock : BitVec 64} (hpos : 0 < quadPart.toInt) :
    SameDuration (some quadPart) clock ↔
      quadPart.toNat / 10000 % 2 ^ 32 =
        (2 ^ 64 - clock.toNat + quadPart.toNat) % 2 ^ 64 / 10000 % 2 ^ 32 := by
  rw [sameDuration_iff_eq, ← BitVec.toNat_inj, toNat_timeoutMs, toNat_sdiv_of_nonneg (by omega)]
  unfold endTime
  dsimp only
  rw [if_pos hpos]

theorem sameDuration_zero (clock : BitVec 64) : SameDuration (some 0) clock := by
  rw [sameDuration_iff_eq, ← BitVec.toNat_inj, toNat_timeoutMs]
  have hclock := clock.isLt
  have hend : endTime (some 0) clock = clock := BitVec.sub_zero clock
  show 0 = _
  rw [hend]
  omega

theorem sameDuration_some (quadPart clock : BitVec 64) :
    SameDuration (some quadPart) clock ↔ Agree (some quadPart) clock := by
  have hlt := quadPart.isLt
  have hclock := clock.isLt
  have hint := toInt_cases quadPart
  unfold Agree
  dsimp only
  by_cases hneg : quadPart.toInt < 0
  · rw [sameDuration_of_neg hneg, if_pos (by omega)]
  · by_cases hzero : quadPart.toInt = 0
    · have hquad : quadPart = 0 := BitVec.eq_of_toInt_eq hzero
      rw [if_pos (by omega), hzero]
      exact iff_of_true (hquad ▸ sameDuration_zero clock) rfl
    · rw [sameDuration_of_pos (by omega), if_neg (by omega)]
      by_cases hle : clock.toNat ≤ quadPart.toNat
      · have hsub : (2 ^ 64 - clock.toNat + quadPart.toNat) % 2 ^ 64 =
            quadPart.toNat - clock.toNat := by omega
        rw [hsub, if_pos hle]
        split <;> omega
      · have hsub : (2 ^ 64 - clock.toNat + quadPart.toNat) % 2 ^ 64 =
            2 ^ 64 - clock.toNat + quadPart.toNat := by omega
        rw [hsub, if_neg hle]
        split <;> omega

/--
For every timeout and every clock reading, `KeWaitForSingleObject` waits for a semaphore and for an
event for the same time if and only if the two conversions of the timeout agree.
-/
theorem sameDuration_iff (timeout : Option (BitVec 64)) (clock : BitVec 64) :
    SameDuration timeout clock ↔ Agree timeout clock := by
  cases timeout with
  | none => exact sameDuration_none clock
  | some quadPart => exact sameDuration_some quadPart clock

/-- A relative timeout of 1 ms is that to an event, and 4294967295 ms, which is INFINITE, to a
semaphore; an absolute one of 10 ms is over at the event when the clock says so. -/
theorem durations_differ :
    keWaitForSingleObject .semaphore (some (-10000)) 0 = some (.waitForSingleObject infinite) ∧
      keWaitForSingleObject .event (some (-10000)) 0 = some (.waitOnAddress 1) ∧
      keWaitForSingleObject .semaphore (some 100000) 60000 = some (.waitForSingleObject 10) ∧
      keWaitForSingleObject .event (some 100000) 60000 = some (.waitOnAddress 4) ∧
      ¬ SameDuration (some (-10000)) 0 ∧ ¬ SameDuration (some 100000) 60000 := by
  unfold SameDuration
  decide

end Usersim.Event
