import Usersim.Cxplat.Basic
import Usersim.Fault.Basic
import Usersim.Fault.Modules

/-!
# Capturing a stack (`fault_injection.cpp`)

`is_new_stack` captures up to 16 frames into a buffer of zeros, and forms the canonical stack of as
many elements of the buffer as `cxplat_initialize` read from the environment. Reading behind the
buffer is `none` here.

* `capturesWell_iff` — it reads captured frames only, unless the depth is greater than 16
-/

namespace Usersim.Fault

open Cxplat (getEnvironmentVariableAsSizeT)

/-- CXPLAT_FAULT_STACK_CAPTURE_FRAME_COUNT. -/
def captureFrameCount : Nat := 16

/-- CXPLAT_FAULT_STACK_CAPTURE_FRAME_COUNT_FOR_HASH. -/
def captureFrameCountForHash : BitVec 64 := 4

/-- `_stack_depth`, as the constructor sets it. -/
def stackDepth (configured : BitVec 64) : BitVec 64 :=
  if configured = 0 then captureFrameCountForHash else configured

/-- The frames CaptureStackBackTrace returns. -/
structure Captured where
  frames : List (BitVec 64)
  length_le : frames.length ≤ captureFrameCount
deriving DecidableEq

/-- `stack`. -/
def Captured.buffer (c : Captured) : List (BitVec 64) :=
  c.frames ++ List.replicate (captureFrameCount - c.frames.length) 0

/-- The loop from an index on, for a number of turns. -/
def formCanonical (m : Modules) (stack : List (BitVec 64)) : Nat → Nat → Stack → Option Stack
  | _, 0, canonical => some canonical
  | i, n + 1, canonical =>
    match stack[i]? with
    | none => none
    | some frame =>
      let baseAddress := findBaseAddress m frame.toNat
      formCanonical m stack (i + 1) n
        (if baseAddress ≠ 0 then canonical ++ [frame - BitVec.ofNat 64 baseAddress] else canonical)

/-- The canonical stack, if a frame was captured. -/
def captureCanonical (m : Modules) (depth : BitVec 64) (c : Captured) : Option (Option Stack) :=
  if 0 < c.frames.length then (formCanonical m c.buffer 0 depth.toNat []).map some else some none

/-! ## What is captured -/

/-- The offset of a frame in a module under test. -/
def frameOffset (m : Modules) (frame : BitVec 64) : Option (BitVec 64) :=
  let baseAddress := findBaseAddress m frame.toNat
  if baseAddress ≠ 0 then some (frame - BitVec.ofNat 64 baseAddress) else none

/-- No element behind the buffer is read, and the canonical stack is that of the captured frames up
to the depth. -/
structure CapturesWell (m : Modules) (depth : BitVec 64) (c : Captured) : Prop where
  inBounds : captureCanonical m depth c ≠ none
  capturedOnly : ∀ canonical, captureCanonical m depth c = some (some canonical) →
    canonical = (c.frames.take depth.toNat).filterMap (frameOffset m)

variable {m : Modules} {stack : List (BitVec 64)} {depth : BitVec 64} {c : Captured}

theorem formCanonical_some (i n : Nat) (canonical : Stack) (h : i + n ≤ stack.length) :
    formCanonical m stack i n canonical =
      some (canonical ++ ((stack.drop i).take n).filterMap (frameOffset m)) := by
  induction n generalizing i canonical with
  | zero => simp [formCanonical]
  | succ n ih =>
    have hi : i < stack.length := by omega
    rw [formCanonical, List.getElem?_eq_getElem hi, List.drop_eq_getElem_cons hi,
      List.take_succ_cons]
    dsimp only
    rw [ih (i + 1) _ (by omega)]
    by_cases hbase : findBaseAddress m stack[i].toNat = 0
    · simp [frameOffset, hbase]
    · simp [frameOffset, hbase]

theorem formCanonical_none (i n : Nat) (canonical : Stack) (hi : i ≤ stack.length)
    (h : stack.length < i + n) : formCanonical m stack i n canonical = none := by
  induction n generalizing i canonical with
  | zero => omega
  | succ n ih =>
    rw [formCanonical]
    rcases Nat.eq_or_lt_of_le hi with rfl | hlt
    · rw [List.getElem?_eq_none le_rfl]
    · rw [List.getElem?_eq_getElem hlt]
      exact ih (i + 1) _ hlt (by omega)

/-- No range starts below address zero, so nothing contains it. -/
theorem frameOffset_zero : frameOffset m 0 = none := by
  have hbefore : m.before (toLex (0, 0)) = none := by
    refine Lib.SortedMap.before_eq_none_iff.mpr fun e _ => ?_
    rw [Prod.Lex.le_iff]
    rcases Nat.eq_zero_or_pos (ofLex e.1).1 with hzero | hpos
    · exact .inr ⟨hzero.symm, Nat.zero_le _⟩
    · exact .inl hpos
  have hbase : findBaseAddress m 0 = 0 := by rw [findBaseAddress, hbefore]
  show (if findBaseAddress m 0 ≠ 0 then _ else none) = none
  rw [hbase]
  rfl

theorem Captured.length_buffer (c : Captured) : c.buffer.length = captureFrameCount := by
  have h := c.length_le
  rw [buffer, List.length_append, List.length_replicate]
  omega

/-- The zeros behind the captured frames add nothing. -/
theorem Captured.offsets_buffer (c : Captured) (n : Nat) :
    (c.buffer.take n).filterMap (frameOffset m) =
      (c.frames.take n).filterMap (frameOffset m) := by
  have hzeros : ∀ k, (List.replicate k (0 : BitVec 64)).filterMap (frameOffset m) = [] := by
    intro k
    rw [List.filterMap_replicate_of_none frameOffset_zero]
  rw [buffer, List.take_append, List.filterMap_append, List.take_replicate, hzeros, List.append_nil]

theorem captureCanonical_of_le (m : Modules) (hframes : c.frames ≠ [])
    (h : depth.toNat ≤ captureFrameCount) :
    captureCanonical m depth c =
      some (some ((c.frames.take depth.toNat).filterMap (frameOffset m))) := by
  rw [captureCanonical, if_pos (List.length_pos_iff.mpr hframes),
    formCanonical_some 0 _ _ (by rw [c.length_buffer]; omega), List.drop_zero, c.offsets_buffer]
  rfl

theorem captureCanonical_of_gt (hframes : c.frames ≠ []) (h : captureFrameCount < depth.toNat) :
    captureCanonical m depth c = none := by
  rw [captureCanonical, if_pos (List.length_pos_iff.mpr hframes),
    formCanonical_none 0 _ _ (Nat.zero_le _) (by rw [c.length_buffer]; omega)]
  rfl

theorem captureCanonical_nil (m : Modules) (depth : BitVec 64) (h : c.frames = []) :
    captureCanonical m depth c = some none := by
  rw [captureCanonical, h]
  rfl

theorem capturesWell_depth_iff :
    CapturesWell m depth c ↔ c.frames = [] ∨ depth.toNat ≤ captureFrameCount := by
  constructor
  · intro h
    by_contra hnot
    obtain ⟨hframes, hdepth⟩ := not_or.mp hnot
    exact h.inBounds (captureCanonical_of_gt hframes (Nat.lt_of_not_le hdepth))
  · intro h
    by_cases hframes : c.frames = []
    · have hnone := captureCanonical_nil m depth hframes
      exact ⟨by simp [hnone], fun canonical hcanonical => by simp [hnone] at hcanonical⟩
    · have hsome := captureCanonical_of_le m hframes (h.resolve_left hframes)
      refine ⟨by simp [hsome], fun canonical hcanonical => ?_⟩
      rw [hsome] at hcanonical
      exact (Option.some.inj (Option.some.inj hcanonical)).symm

/-- The depth that stands for zero is one of those that fit. -/
theorem stackDepth_le_iff (configured : BitVec 64) :
    (stackDepth configured).toNat ≤ captureFrameCount ↔ configured.toNat ≤ captureFrameCount := by
  unfold stackDepth
  by_cases h : configured = 0
  · subst h
    decide
  · rw [if_neg h]

/--
For every depth from the environment and every captured stack: the canonical stack is formed of
captured frames, and of nothing else, if and only if no frame was captured or the depth is at most
that of the buffer.
-/
theorem capturesWell_iff (m : Modules) (configured : BitVec 64) (c : Captured) :
    CapturesWell m (stackDepth configured) c ↔
      c.frames = [] ∨ configured.toNat ≤ captureFrameCount := by
  rw [capturesWell_depth_iff, stackDepth_le_iff]

/-- CXPLAT_FAULT_INJECTION_SIMULATION=17, with one captured frame. -/
theorem depth17_reads_behind_buffer :
    let configured := getEnvironmentVariableAsSizeT "17".toList
    let c : Captured := ⟨[0x1000], by decide⟩
    configured = 17 ∧ captureCanonical .empty (stackDepth configured) c = none ∧
      ¬ CapturesWell .empty (stackDepth configured) c := by
  have hnone : captureCanonical .empty (stackDepth (getEnvironmentVariableAsSizeT "17".toList))
      ⟨[0x1000], by decide⟩ = none := by decide
  exact ⟨by decide, hnone, fun h => h.inBounds hnone⟩

end Usersim.Fault
