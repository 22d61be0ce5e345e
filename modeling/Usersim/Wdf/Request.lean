import Mathlib.Algebra.Group.Nat.Defs
import Usersim.Memory.Winuser
import Usersim.Wdf.Basic

/-!
# Device control requests (`wdf.cpp`)

A request has one buffer for what comes in and what goes out, as long as the longer of the two, and
one length, that of what comes in. The driver asks for the buffer, writes to it and completes the
request; how many bytes go out is what the driver says. The length of the whole request goes through
a LONG before it is allocated.

`none` is an access to a null pointer or outside of a buffer, or an assertion that fails.

* `wdfRequestRetrieveInputBuffer_right` — the input buffer is retrieved as it should be
* `newRequest_eq` — which sizes can be allocated
* `ioctl_right_iff` — which calls retrieve the output buffer and copy it as they should
-/

namespace Usersim.Wdf

open Lib
open Memory.Winuser (Environment addressSpaceEnd cxplatAllocate rejected)

/-- A buffer of the caller, of a DWORD of bytes. -/
structure Buffer where
  bytes : List Byte
  small : bytes.length < 2 ^ 32

def Buffer.size (b : Buffer) : BitVec 32 := BitVec.ofNat 32 b.bytes.length

def statusBufferTooSmall : Status := 0xC0000023

/-- `wdfrequest_t`. -/
structure Request where
  status : Status
  information : BitVec 64
  bufferSize : BitVec 64
  buffer : List Byte
deriving DecidableEq, Repr

def wdfRequestCompleteWithInformation (r : Request) (status : Status) (information : BitVec 64) :
    Request :=
  { r with status := status, information := information }

/-- With the length that is reported; `length` is whether it is asked for. -/
def wdfRequestRetrieveInputBuffer (r : Request) (minimumRequiredLength : BitVec 64)
    (length : Bool) :
    Status × Option (BitVec 64) :=
  if r.bufferSize < minimumRequiredLength then (statusBufferTooSmall, none)
  else (statusSuccess, if length then some r.bufferSize else none)

/-- `*length` is read whether it is asked for or not. -/
def wdfRequestRetrieveOutputBuffer (r : Request) (minimumRequiredSize : BitVec 64) (length : Bool) :
    Option (Status × Option (BitVec 64)) :=
  if length then
    some (if r.bufferSize < minimumRequiredSize then statusBufferTooSmall else statusSuccess,
      some r.bufferSize)
  else none

/-! ## EvtIoDeviceControl -/

/-- What the driver does with the request. -/
inductive RequestOp where
  | retrieveInput (minimum : BitVec 64) (length : Bool)
  | retrieveOutput (minimum : BitVec 64) (length : Bool)
  | write (offset : Nat) (value : Byte)
  | complete (status : Status) (information : BitVec 64)
deriving DecidableEq, Repr

def runRequestOp (r : Request) : RequestOp → Option Request
  | .retrieveInput _ _ => some r
  | .retrieveOutput minimum length =>
      (wdfRequestRetrieveOutputBuffer r minimum length).map fun _ => r
  | .write offset value =>
    if offset < r.buffer.length then some { r with buffer := r.buffer.set offset value } else none
  | .complete status information => some (wdfRequestCompleteWithInformation r status information)

/-! ## `usersim_device_io_control` -/

/-- `buffer_size`. -/
def bufferSize (inBuffer outBuffer : Buffer) : Nat :=
  max (max inBuffer.bytes.length outBuffer.bytes.length) 1

/-- Where `buffer` is in `wdfrequest_t`. -/
def bufferOffset : Nat := 24

/-- `FIELD_OFFSET` is a LONG, of which `cxplat_allocate` makes a `size_t`. -/
def requestSize (inBuffer outBuffer : Buffer) : SizeT :=
  (BitVec.ofNat 32 (bufferOffset + bufferSize inBuffer outBuffer)).signExtend 64

/-- `USERSIM_TAG_WDF_REQUEST`. -/
def tagWdfRequest : BitVec 32 := 0x72777375

/-- The request in an allocation of so many bytes; these are zero. -/
def Request.initial (inBuffer : Buffer) (size : Nat) : Request where
  status := statusSuccess
  information := 0
  bufferSize := inBuffer.size.setWidth 64
  buffer := inBuffer.bytes ++ List.replicate (size - bufferOffset - inBuffer.bytes.length) 0

/-- The request with what comes in, or null. It may end behind its allocation. -/
def newRequest (build : Build) (env : Environment) (inBuffer outBuffer : Buffer) :
    Option (Option Request) :=
  let size := requestSize inBuffer outBuffer
  match cxplatAllocate build env Memory.nonPaged size tagWdfRequest with
  | .null => some none
  | .stopped _ => none
  | .returned _ =>
    if bufferOffset + inBuffer.bytes.length ≤ size.toNat then
      some (some (.initial inBuffer size.toNat))
    else none

/-- The first `n` bytes of `src`. -/
def memcpy (dest src : List Byte) (n : Nat) : Option (List Byte) :=
  if n ≤ dest.length ∧ n ≤ src.length then some (src.take n ++ dest.drop n) else none

structure IoOutcome where
  result : Bool
  bytesReturned : Option (BitVec 32)
  outBuffer : List Byte
deriving DecidableEq, Repr

/-- After the callback. -/
def Request.finish (r : Request) (outBuffer : Buffer) (bytesReturned : Bool) : Option IoOutcome :=
  if bytesReturned then
    (memcpy outBuffer.bytes r.buffer (r.information.setWidth 32).toNat).map fun bytes =>
      { result := ntSuccess r.status
        bytesReturned := some (r.information.setWidth 32)
        outBuffer := bytes }
  else none

/-- Nothing is called, or nothing could be allocated. -/
def IoOutcome.untouched (outBuffer : Buffer) : IoOutcome :=
  { result := false, bytesReturned := none, outBuffer := outBuffer.bytes }

/-- `evtIoDeviceControl` is what the callback does, if there is one; `bytesReturned` is whether the
pointer is not null. -/
def usersimDeviceIoControl (evtIoDeviceControl : Option (List RequestOp)) (build : Build)
    (env : Environment) (inBuffer outBuffer : Buffer) (bytesReturned : Bool) : Option IoOutcome :=
  match evtIoDeviceControl with
  | none => some (.untouched outBuffer)
  | some ops =>
    (newRequest build env inBuffer outBuffer).bind fun
      | none => some (.untouched outBuffer)
      | some request =>
        (exec runRequestOp request ops).bind fun r => r.finish outBuffer bytesReturned

/-! ## What should happen -/

/-- It succeeds if there are as many bytes as are required, and then reports how many there are. -/
def RetrieveRight (size : BitVec 32) (minimum : BitVec 64) (length : Bool)
    (result : Option (Status × Option (BitVec 64))) : Prop :=
  ∃ status reported, result = some (status, reported) ∧
    (status = statusSuccess ↔ minimum ≤ size.setWidth 64) ∧
    (status = statusSuccess → length = true → reported = some (size.setWidth 64))

def OpRight (inBuffer outBuffer : Buffer) (r : Request) : RequestOp → Prop
  | .retrieveInput minimum length =>
    RetrieveRight inBuffer.size minimum length
      (some (wdfRequestRetrieveInputBuffer r minimum length))
  | .retrieveOutput minimum length =>
    RetrieveRight outBuffer.size minimum length (wdfRequestRetrieveOutputBuffer r minimum length)
  | .write .. | .complete .. => True

/-- `n` bytes of the request are in the front of the output buffer, and the rest is as it was. -/
def Copied (r : Request) (outBuffer : Buffer) (o : IoOutcome) (n : BitVec 32) : Prop :=
  n ≤ outBuffer.size ∧ n.toNat ≤ r.buffer.length ∧
    o.outBuffer = r.buffer.take n.toNat ++ outBuffer.bytes.drop n.toNat

/-- Without a callback or a request nothing is copied. The callback runs with the request functions
working as they should, and what is copied is what is reported. -/
structure IoctlRight (evtIoDeviceControl : Option (List RequestOp)) (build : Build)
    (env : Environment) (inBuffer outBuffer : Buffer) (bytesReturned : Bool) : Prop where
  uncalled : evtIoDeviceControl = none →
    usersimDeviceIoControl evtIoDeviceControl build env inBuffer outBuffer bytesReturned =
      some (.untouched outBuffer)
  called : ∀ ops, evtIoDeviceControl = some ops →
    ∃ request, newRequest build env inBuffer outBuffer = some request ∧
      match request with
      | none =>
        usersimDeviceIoControl evtIoDeviceControl build env inBuffer outBuffer bytesReturned =
          some (.untouched outBuffer)
      | some request =>
        Guarded runRequestOp (OpRight inBuffer outBuffer) request ops ∧
          ∃ r o n, exec runRequestOp request ops = some r ∧
            usersimDeviceIoControl evtIoDeviceControl build env inBuffer outBuffer bytesReturned =
              some o ∧ o.bytesReturned = some n ∧ Copied r outBuffer o n

/-- The allocator returns blocks that are inside the address space. -/
def InAddressSpace (build : Build) (env : Environment) (inBuffer outBuffer : Buffer) : Prop :=
  ∀ reply, env.reply = some reply →
    reply.start.toNat + (build.pointerOffset .plain + requestSize inBuffer outBuffer).toNat ≤
      addressSpaceEnd

/-- There is no memory, or a debug build does not even ask for it. A length that comes out as 0
fails an assertion there before that. -/
def Refused (build : Build) (env : Environment) (inBuffer outBuffer : Buffer) : Prop :=
  ¬ (build = .debug ∧ bufferOffset + bufferSize inBuffer outBuffer = 2 ^ 32) ∧
    (rejected build env (requestSize inBuffer outBuffer) = true ∨ env.reply = none)

/-- The length of the request is a positive LONG. -/
def Allocatable (inBuffer outBuffer : Buffer) : Prop :=
  bufferOffset + bufferSize inBuffer outBuffer < 2 ^ 31

/-- The writes of the callback are within the buffer of the request. -/
def RequestOp.Within (length : Nat) : RequestOp → Prop
  | .write offset _ => offset < length
  | .retrieveInput .. | .retrieveOutput .. | .complete .. => True

/-- The length of the input decides like that of the output, and the length is asked for. -/
def RequestOp.Fits (inBuffer outBuffer : Buffer) : RequestOp → Prop
  | .retrieveOutput minimum length => length = true ∧
      if minimum ≤ outBuffer.size.setWidth 64 then inBuffer.size = outBuffer.size
      else inBuffer.size.setWidth 64 < minimum
  | .retrieveInput .. | .write .. | .complete .. => True

/-- The information after a step. -/
def RequestOp.says (information : BitVec 64) : RequestOp → BitVec 64
  | .complete _ information => information
  | .retrieveInput .. | .retrieveOutput .. | .write .. => information

/-- What the driver says last; nothing is 0. -/
def lastInformation (ops : List RequestOp) : BitVec 64 := ops.foldl RequestOp.says 0

variable {inBuffer outBuffer : Buffer} {r r' : Request} {ops : List RequestOp}

theorem toNat_size (b : Buffer) : b.size.toNat = b.bytes.length := by
  rw [Buffer.size, BitVec.toNat_ofNat, Nat.mod_eq_of_lt b.small]

theorem toNat_size64 (b : Buffer) : (b.size.setWidth 64).toNat = b.bytes.length := by
  rw [BitVec.toNat_setWidth, toNat_size, Nat.mod_eq_of_lt (Nat.lt_trans b.small (by decide))]

theorem size64_inj {b c : Buffer} : b.size.setWidth 64 = c.size.setWidth 64 ↔ b.size = c.size := by
  refine ⟨fun h => BitVec.eq_of_toNat_eq ?_, fun h => by rw [h]⟩
  rw [toNat_size, toNat_size, ← toNat_size64, ← toNat_size64, h]

/-! ## The request functions -/

theorem wdfRequestRetrieveInputBuffer_right (h : r.bufferSize = inBuffer.size.setWidth 64)
    (minimum : BitVec 64) (length : Bool) :
    RetrieveRight inBuffer.size minimum length
      (some (wdfRequestRetrieveInputBuffer r minimum length)) := by
  unfold wdfRequestRetrieveInputBuffer
  rw [h]
  by_cases hless : inBuffer.size.setWidth 64 < minimum
  · rw [if_pos hless]
    exact ⟨_, _, rfl, iff_of_false (by decide) (BitVec.not_le.mpr hless),
      fun h => absurd h (by decide)⟩
  · rw [if_neg hless]
    exact ⟨_, _, rfl, iff_of_true rfl (BitVec.not_lt.mp hless), fun _ h => by rw [if_pos h]⟩

/-- The output buffer is retrieved with the length of the input. -/
theorem wdfRequestRetrieveOutputBuffer_right_iff (h : r.bufferSize = inBuffer.size.setWidth 64)
    (minimum : BitVec 64) (length : Bool) :
    RetrieveRight outBuffer.size minimum length (wdfRequestRetrieveOutputBuffer r minimum length) ↔
      (RequestOp.retrieveOutput minimum length).Fits inBuffer outBuffer := by
  unfold wdfRequestRetrieveOutputBuffer RequestOp.Fits
  rw [h]
  cases length with
  | false =>
    refine iff_of_false ?_ (fun h => absurd h.1 (by decide))
    rintro ⟨_, _, hresult, -⟩
    cases hresult
  | true =>
    simp only [if_true, true_and]
    constructor
    · rintro ⟨status, reported, hresult, hstatus, hreported⟩
      cases hresult
      by_cases hmin : minimum ≤ outBuffer.size.setWidth 64
      · rw [if_pos hmin]
        exact size64_inj.mp (Option.some.inj (hreported (hstatus.mpr hmin) rfl))
      · rw [if_neg hmin]
        by_contra hless
        exact hmin (hstatus.mp (if_neg hless))
    · intro hfits
      by_cases hmin : minimum ≤ outBuffer.size.setWidth 64
      · rw [if_pos hmin] at hfits
        rw [hfits, if_neg (BitVec.not_lt.mpr hmin)]
        exact ⟨_, _, rfl, iff_of_true rfl hmin, fun _ _ => rfl⟩
      · rw [if_neg hmin] at hfits
        rw [if_pos hfits]
        exact ⟨_, _, rfl, iff_of_false (by decide) hmin, fun h => absurd h (by decide)⟩

theorem opRight_iff (h : r.bufferSize = inBuffer.size.setWidth 64) (op : RequestOp) :
    OpRight inBuffer outBuffer r op ↔ op.Fits inBuffer outBuffer := by
  cases op with
  | retrieveInput minimum length =>
    exact iff_of_true (wdfRequestRetrieveInputBuffer_right h minimum length) trivial
  | retrieveOutput minimum length => exact wdfRequestRetrieveOutputBuffer_right_iff h minimum length
  | write offset value => exact Iff.rfl
  | complete status information => exact Iff.rfl

/-! ## The callback -/

/-- Every step keeps the sizes. -/
theorem runRequestOp_frame {op : RequestOp} (hs : runRequestOp r op = some r') :
    r'.bufferSize = r.bufferSize ∧ r'.buffer.length = r.buffer.length ∧
      r'.information = op.says r.information := by
  cases op with
  | retrieveInput minimum length =>
    cases hs
    exact ⟨rfl, rfl, rfl⟩
  | retrieveOutput minimum length =>
    obtain ⟨_, -, rfl⟩ := Option.map_eq_some_iff.mp hs
    exact ⟨rfl, rfl, rfl⟩
  | write offset value =>
    rw [runRequestOp] at hs
    split at hs
    · cases hs
      exact ⟨rfl, List.length_set, rfl⟩
    · cases hs
  | complete status information =>
    cases hs
    exact ⟨rfl, rfl, rfl⟩

theorem exec_frame (hs : exec runRequestOp r ops = some r') :
    r'.bufferSize = r.bufferSize ∧ r'.buffer.length = r.buffer.length ∧
      r'.information = ops.foldl RequestOp.says r.information := by
  refine exec_follows (R := fun r₁ information => r₁.bufferSize = r.bufferSize ∧
    r₁.buffer.length = r.buffer.length ∧ r₁.information = information) ?_ ⟨rfl, rfl, rfl⟩ hs
  intro r₁ information op r₂ h hstep
  obtain ⟨hsize, hlength, hinformation⟩ := runRequestOp_frame hstep
  exact ⟨hsize.trans h.1, hlength.trans h.2.1, by rw [hinformation, h.2.2]⟩

/-- A step that fits does not stop. -/
theorem runRequestOp_some {op : RequestOp} (hfits : op.Fits inBuffer outBuffer)
    (hwithin : op.Within r.buffer.length) : ∃ r', runRequestOp r op = some r' := by
  cases op with
  | retrieveInput minimum length => exact ⟨_, rfl⟩
  | retrieveOutput minimum length =>
    rw [runRequestOp, wdfRequestRetrieveOutputBuffer, if_pos hfits.1]
    exact ⟨_, rfl⟩
  | write offset value => exact ⟨_, if_pos hwithin⟩
  | complete status information => exact ⟨_, rfl⟩

/-- A callback whose calls fit and whose writes are within the buffer comes to its end. -/
theorem exec_of_fits (hfits : Guarded runRequestOp (fun _ op => op.Fits inBuffer outBuffer) r ops)
    (hwithin : ∀ op ∈ ops, op.Within r.buffer.length) :
    ∃ r', exec runRequestOp r ops = some r' := by
  have hboth : Guarded runRequestOp
      (fun r' op => op.Fits inBuffer outBuffer ∧ op.Within r'.buffer.length) r ops := by
    refine Guarded.mono_of_invariant (P := fun r' => r'.buffer.length = r.buffer.length) ?_ ?_ rfl
      (guarded_and.mpr ⟨hfits, guarded_of_mem hwithin⟩)
    · exact fun _ _ _ hlength _ hs => (runRequestOp_frame hs).2.1.trans hlength
    · exact fun _ _ hlength h => ⟨h.1, hlength ▸ h.2⟩
  exact exists_exec_of_guarded (fun _ _ h => runRequestOp_some h.1 h.2) hboth

theorem guarded_opRight_iff (h : r.bufferSize = inBuffer.size.setWidth 64)
    (hwithin : ∀ op ∈ ops, op.Within r.buffer.length) :
    Guarded runRequestOp (OpRight inBuffer outBuffer) r ops ↔
      ∀ op ∈ ops, op.Fits inBuffer outBuffer := by
  have hright : Guarded runRequestOp (OpRight inBuffer outBuffer) r ops ↔
      Guarded runRequestOp (fun _ op => op.Fits inBuffer outBuffer) r ops :=
    guarded_iff_of_invariant (fun _ op hsize => opRight_iff hsize op)
      (fun _ _ _ hsize _ hs => (runRequestOp_frame hs).1.trans hsize) h
  rw [hright]
  constructor
  · intro hfits
    obtain ⟨r', hr'⟩ := exec_of_fits hfits hwithin
    exact (guarded_mem_iff hr').mp hfits
  · exact guarded_of_mem

/-! ## The allocation -/

variable {build : Build} {env : Environment}

theorem bufferSize_lt (inBuffer outBuffer : Buffer) : bufferSize inBuffer outBuffer < 2 ^ 32 := by
  have hin := inBuffer.small
  have hout := outBuffer.small
  unfold bufferSize
  omega

/-- The length that is asked for. From `2 ^ 31` on the LONG is negative, from
`2 ^ 32` on it is small. -/
theorem toNat_requestSize (inBuffer outBuffer : Buffer) :
    (requestSize inBuffer outBuffer).toNat =
      if bufferOffset + bufferSize inBuffer outBuffer < 2 ^ 31 then
        bufferOffset + bufferSize inBuffer outBuffer
      else if bufferOffset + bufferSize inBuffer outBuffer < 2 ^ 32 then
        2 ^ 64 - 2 ^ 32 + (bufferOffset + bufferSize inBuffer outBuffer)
      else bufferOffset + bufferSize inBuffer outBuffer - 2 ^ 32 := by
  have hlt := bufferSize_lt inBuffer outBuffer
  rw [requestSize, BitVec.toNat_signExtend, BitVec.msb_eq_decide, BitVec.toNat_setWidth,
    BitVec.toNat_ofNat]
  unfold bufferOffset
  generalize bufferSize inBuffer outBuffer = size at hlt
  by_cases hsmall : 24 + size < 2 ^ 31
  · rw [if_pos hsmall, if_neg (by rw [decide_eq_true_eq]; omega)]
    omega
  · rw [if_neg hsmall]
    by_cases hnegative : 24 + size < 2 ^ 32
    · rw [if_pos hnegative, if_pos (by rw [decide_eq_true_eq]; omega)]
      omega
    · rw [if_neg hnegative, if_neg (by rw [decide_eq_true_eq]; omega)]
      omega

theorem requestSize_eq_zero :
    requestSize inBuffer outBuffer = 0 ↔ bufferOffset + bufferSize inBuffer outBuffer = 2 ^ 32 := by
  rw [← BitVec.toNat_inj, toNat_requestSize]
  show _ = 0 ↔ _
  unfold bufferOffset
  split
  · omega
  · split <;> omega

theorem newRequest_refused (h : Refused build env inBuffer outBuffer) :
    newRequest build env inBuffer outBuffer = some none := by
  obtain ⟨hassert, hnull⟩ := h
  rw [← requestSize_eq_zero] at hassert
  have hnone : cxplatAllocate build env Memory.nonPaged (requestSize inBuffer outBuffer)
      tagWdfRequest = .null := by
    unfold cxplatAllocate
    rw [if_neg (by simpa using hassert)]
    split
    · rfl
    · rename_i hrejected
      rw [hnull.resolve_left hrejected]
  rw [newRequest, hnone]

/-- The allocator is asked, and `memset` fills as much as was asked for. -/
theorem cxplatAllocate_asked {size : SizeT} (hzero : ¬ (build = .debug ∧ size = 0))
    (hrejected : rejected build env size = false) (hreply : env.reply ≠ none) :
    ∃ reply a, env.reply = some reply ∧
      cxplatAllocate build env Memory.nonPaged size tagWdfRequest =
        if addressSpaceEnd < (reply.start + build.pointerOffset .plain).toNat + size.toNat then
          .stopped .accessViolation
        else .returned a := by
  obtain ⟨reply, hreply⟩ := Option.ne_none_iff_exists'.mp hreply
  have hfill : Memory.Winuser.fill build Memory.nonPaged = some 0 := by cases build <;> rfl
  have hplain : Memory.Winuser.allocatorFor Memory.nonPaged = .plain := by decide
  unfold cxplatAllocate
  rw [if_neg (by simpa using hzero), if_neg (by rw [hrejected]; decide), hreply]
  simp only [Memory.Winuser.Allocation.filled, hfill, Memory.Winuser.Reply.allocation, hplain]
  exact ⟨reply, _, rfl, rfl⟩

/-- A length that is right is allocated, with room for the header and what comes in. -/
theorem newRequest_allocatable (hasked : ¬ Refused build env inBuffer outBuffer)
    (hspace : InAddressSpace build env inBuffer outBuffer)
    (hsize : Allocatable inBuffer outBuffer) :
    newRequest build env inBuffer outBuffer =
      some (some (.initial inBuffer (bufferOffset + bufferSize inBuffer outBuffer))) := by
  have hlt : bufferOffset + bufferSize inBuffer outBuffer < 2 ^ 31 := hsize
  have hlength := toNat_requestSize inBuffer outBuffer
  rw [if_pos hlt] at hlength
  have hzero : ¬ (build = .debug ∧ requestSize inBuffer outBuffer = 0) := by
    rw [requestSize_eq_zero]
    omega
  rw [Refused, ← requestSize_eq_zero, not_and, not_or] at hasked
  obtain ⟨hrejected, hreply⟩ := hasked hzero
  obtain ⟨reply, a, hreply, hallocate⟩ :=
    cxplatAllocate_asked hzero (eq_false_of_ne_true hrejected) hreply
  have hend := hspace reply hreply
  have hoffset := Memory.Winuser.pointerOffset_le build .plain
  have hin : inBuffer.bytes.length ≤ bufferSize inBuffer outBuffer := by
    unfold bufferSize
    omega
  rw [if_neg] at hallocate
  · rw [newRequest, hallocate]
    dsimp only
    rw [hlength, if_pos (Nat.add_le_add_left hin _)]
  · unfold addressSpaceEnd at hend ⊢
    rw [BitVec.toNat_add] at hend ⊢
    omega

/-- A LONG that is 0 fails the assertion of debug builds, a negative one has `memset` leave the
address space, and one that has wrapped has no room for the header. -/
theorem newRequest_overrun (hasked : ¬ Refused build env inBuffer outBuffer)
    (hsize : ¬ Allocatable inBuffer outBuffer) :
    newRequest build env inBuffer outBuffer = none := by
  have hlt := bufferSize_lt inBuffer outBuffer
  have hlength := toNat_requestSize inBuffer outBuffer
  unfold Allocatable at hsize
  rw [if_neg hsize] at hlength
  by_cases hzero : build = .debug ∧ requestSize inBuffer outBuffer = 0
  · have hstopped : cxplatAllocate build env Memory.nonPaged (requestSize inBuffer outBuffer)
        tagWdfRequest = .stopped .assertion := by
      unfold cxplatAllocate
      rw [if_pos (by simpa using hzero)]
    rw [newRequest, hstopped]
  · rw [Refused, ← requestSize_eq_zero, not_and, not_or] at hasked
    obtain ⟨hrejected, hreply⟩ := hasked hzero
    obtain ⟨reply, a, -, hallocate⟩ :=
      cxplatAllocate_asked hzero (eq_false_of_ne_true hrejected) hreply
    split at hallocate
    · rw [newRequest, hallocate]
    · rename_i hend
      unfold addressSpaceEnd at hend
      rw [newRequest, hallocate]
      refine if_neg ?_
      unfold bufferOffset at hlength hsize ⊢
      split at hlength <;> omega

/-! ## The copy -/

theorem length_initial (inBuffer outBuffer : Buffer) :
    (Request.initial inBuffer (bufferOffset + bufferSize inBuffer outBuffer)).buffer.length =
      bufferSize inBuffer outBuffer := by
  simp only [Request.initial, List.length_append, List.length_replicate, bufferSize]
  omega

/-- What is copied from a request that has room for what goes out. -/
theorem copied_iff {bytesReturned : Bool} (hroom : outBuffer.bytes.length ≤ r.buffer.length) :
    (∃ o n, r.finish outBuffer bytesReturned = some o ∧ o.bytesReturned = some n ∧
        Copied r outBuffer o n) ↔
      bytesReturned = true ∧ r.information.setWidth 32 ≤ outBuffer.size := by
  rw [Request.finish]
  cases bytesReturned with
  | false =>
    refine iff_of_false ?_ (fun h => absurd h.1 (by decide))
    rintro ⟨o, n, ho, -⟩
    cases ho
  | true =>
    rw [if_pos rfl, memcpy, BitVec.le_def, toNat_size]
    constructor
    · rintro ⟨o, n, ho, hn, hcopied⟩
      obtain ⟨bytes, -, rfl⟩ := Option.map_eq_some_iff.mp ho
      cases hn
      have hle := hcopied.1
      rw [BitVec.le_def, toNat_size] at hle
      exact ⟨rfl, hle⟩
    · rintro ⟨-, hle⟩
      rw [if_pos ⟨hle, Nat.le_trans hle hroom⟩]
      refine ⟨_, _, rfl, rfl, ?_, Nat.le_trans hle hroom, rfl⟩
      rw [BitVec.le_def, toNat_size]
      exact hle

/-- The callback runs and its answer is copied, from a request that was allocated. -/
theorem answers_iff (inBuffer outBuffer : Buffer) (bytesReturned : Bool) {request : Request}
    (hsize : request.bufferSize = inBuffer.size.setWidth 64) (hnone : request.information = 0)
    (hroom : outBuffer.bytes.length ≤ request.buffer.length)
    (hwithin : ∀ op ∈ ops, op.Within request.buffer.length) :
    (Guarded runRequestOp (OpRight inBuffer outBuffer) request ops ∧
        ∃ r o n, exec runRequestOp request ops = some r ∧
          ((exec runRequestOp request ops).bind fun r => r.finish outBuffer bytesReturned) =
            some o ∧
            o.bytesReturned = some n ∧ Copied r outBuffer o n) ↔
      (∀ op ∈ ops, op.Fits inBuffer outBuffer) ∧ bytesReturned = true ∧
        (lastInformation ops).setWidth 32 ≤ outBuffer.size := by
  rw [guarded_opRight_iff hsize hwithin]
  refine and_congr_right fun hfits => ?_
  obtain ⟨r, hr⟩ := exec_of_fits (guarded_of_mem hfits) hwithin
  obtain ⟨-, hlength, hinformation⟩ := exec_frame hr
  have hlast : r.information = lastInformation ops := by
    rw [hinformation, hnone]
    rfl
  rw [hr, Option.bind_some, ← hlast, ← copied_iff (hlength ▸ hroom)]
  constructor
  · rintro ⟨r', o, n, hr', ho⟩
    cases hr'
    exact ⟨o, n, ho⟩
  · rintro ⟨o, n, ho⟩
    exact ⟨r, o, n, rfl, ho⟩

/--
For all buffers of the caller and every behaviour of the callback that writes within the buffer it
is given: the request functions work as they should and what is copied is right if and only if there
is no memory for the request, or the length of the request is a positive LONG, every retrieval of
the output asks for the length, which decides like that of the input, the caller wants to know how
many bytes were returned, and what the driver says last is at most what there is room for.
-/
theorem ioctl_right_iff (evtIoDeviceControl : Option (List RequestOp)) (build : Build)
    (env : Environment) (inBuffer outBuffer : Buffer) (bytesReturned : Bool)
    (hspace : InAddressSpace build env inBuffer outBuffer)
    (h : ∀ ops, evtIoDeviceControl = some ops →
      ∀ op ∈ ops, op.Within (bufferSize inBuffer outBuffer)) :
    IoctlRight evtIoDeviceControl build env inBuffer outBuffer bytesReturned ↔
      ∀ ops, evtIoDeviceControl = some ops → Refused build env inBuffer outBuffer ∨
        (Allocatable inBuffer outBuffer ∧ (∀ op ∈ ops, op.Fits inBuffer outBuffer) ∧
          bytesReturned = true ∧ (lastInformation ops).setWidth 32 ≤ outBuffer.size) := by
  cases evtIoDeviceControl with
  | none => exact iff_of_true ⟨fun _ => rfl, fun _ h => by cases h⟩ fun _ h => by cases h
  | some ops =>
    by_cases hrefused : Refused build env inBuffer outBuffer
    · have hnull := newRequest_refused hrefused
      refine iff_of_true ⟨(fun h => by cases h), fun _ _ => ⟨none, hnull, ?_⟩⟩
        fun _ _ => .inl hrefused
      rw [usersimDeviceIoControl, hnull]
      rfl
    · by_cases hsize : Allocatable inBuffer outBuffer
      · have hnew := newRequest_allocatable hrefused hspace hsize
        have hlength := length_initial inBuffer outBuffer
        have hroom : outBuffer.bytes.length ≤ bufferSize inBuffer outBuffer := by
          unfold bufferSize
          omega
        have hanswers := answers_iff inBuffer outBuffer bytesReturned rfl rfl (hlength ▸ hroom)
          (hlength ▸ h ops rfl)
        constructor
        · rintro hright _ ⟨⟩
          obtain ⟨request, hrequest, hcalled⟩ := hright.called ops rfl
          cases hnew.symm.trans hrequest
          rw [usersimDeviceIoControl, hnew] at hcalled
          exact .inr ⟨hsize, hanswers.mp hcalled⟩
        · intro hcond
          refine ⟨(fun h => by cases h), ?_⟩
          rintro _ ⟨⟩
          refine ⟨_, hnew, ?_⟩
          rw [usersimDeviceIoControl, hnew]
          exact hanswers.mpr ((hcond ops rfl).resolve_left hrefused).2
      · have hnone := newRequest_overrun hrefused hsize
        refine iff_of_false (fun hright => ?_) fun hcond => ?_
        · obtain ⟨request, hrequest, -⟩ := hright.called ops rfl
          cases hnone.symm.trans hrequest
        · exact (hcond ops rfl).elim hrefused fun h => hsize h.1

def Buffer.empty : Buffer := ⟨[], by decide⟩

/-- 42 as an unsigned number of 8 bytes. -/
def fortyTwo : Buffer := ⟨[42, 0, 0, 0, 0, 0, 0, 0], by decide⟩

def fourBytes : Buffer := ⟨[1, 2, 3, 4], by decide⟩

/-- As many bytes as a DWORD can say. -/
def longest : Buffer where
  bytes := List.replicate 0xffffffff 0
  small := by
    rw [List.length_replicate]
    omega

theorem length_longest : longest.bytes.length = 0xffffffff := List.length_replicate

/-- The allocator has a block. -/
def enoughMemory : Environment where
  memoryLimit := 0xffffffffffffffff
  injectFault := false
  reply := some { start := 0x10000, bytes := fun _ => 0xee }

/-- What comes in goes out. -/
def echo : List RequestOp :=
  [.retrieveInput 8 true, .retrieveOutput 8 true, .complete statusSuccess 8]

theorem ioctl_right_iff_echo :
    IoctlRight (some echo) .debug enoughMemory fortyTwo fortyTwo true := by
  refine (ioctl_right_iff (some echo) .debug enoughMemory fortyTwo fortyTwo true ?_ ?_).mpr ?_
  · intro reply hreply
    cases hreply
    decide
  · rintro _ ⟨⟩
    simp [echo, RequestOp.Within]
  · rintro _ ⟨⟩
    refine .inr ⟨by unfold Allocatable; decide, ?_, rfl, by decide⟩
    simp [echo, RequestOp.Fits]

theorem not_allocatable (h : 2 ^ 31 ≤ inBuffer.bytes.length) :
    ¬ Allocatable inBuffer outBuffer := by
  unfold Allocatable bufferSize
  omega

theorem not_refused (h : env.reply ≠ none) : ¬ Refused .release env inBuffer outBuffer := by
  rintro ⟨-, hrejected | hreply⟩
  · cases hrejected
  · exact h hreply

/-- The length of the request is 23, and its header is longer. -/
theorem newRequest_longest : newRequest .release enoughMemory longest .empty = none := by
  have hlong : 2 ^ 31 ≤ longest.bytes.length := by
    rw [length_longest]
    omega
  exact newRequest_overrun (not_refused (Option.some_ne_none _)) (not_allocatable hlong)

/-- Room for 8 bytes is too small if nothing comes in, and with 4 bytes that came in it is not known
without asking for it. What goes out is written behind an output of 4 bytes, and what comes in
behind a request that is too long. -/
theorem ioctl_wrong :
    (wdfRequestRetrieveOutputBuffer (.initial .empty 32) 8 true =
        some (statusBufferTooSmall, some 0) ∧
      ¬ IoctlRight (some [.retrieveOutput 8 true]) .debug enoughMemory .empty fortyTwo true) ∧
    (wdfRequestRetrieveOutputBuffer (.initial fourBytes 28) 4 false = none ∧
      ¬ IoctlRight (some [.retrieveOutput 4 false]) .debug enoughMemory fourBytes fourBytes true) ∧
    (usersimDeviceIoControl (some [.complete statusSuccess 8]) .debug enoughMemory
      fortyTwo fourBytes true = none ∧
      ¬ IoctlRight (some [.complete statusSuccess 8]) .debug enoughMemory fortyTwo fourBytes true) ∧
    newRequest .release enoughMemory longest .empty = none ∧
      ¬ IoctlRight (some []) .release enoughMemory longest .empty true := by
  have hoverrun : usersimDeviceIoControl (some [.complete statusSuccess 8]) .debug enoughMemory
      fortyTwo fourBytes true = none := by decide
  refine ⟨⟨by decide, fun h => ?_⟩, ⟨by decide, fun h => ?_⟩, ⟨hoverrun, fun h => ?_⟩,
    newRequest_longest, fun h => ?_⟩
  · obtain ⟨request, hrequest, hcalled⟩ := h.called _ rfl
    cases hrequest
    obtain ⟨_, _, hresult, hstatus, -⟩ := hcalled.1.1
    cases hresult
    exact absurd (hstatus.mpr (by decide)) (by decide)
  · obtain ⟨request, hrequest, hcalled⟩ := h.called _ rfl
    cases hrequest
    obtain ⟨_, _, hresult, -⟩ := hcalled.1.1
    cases hresult
  · obtain ⟨request, hrequest, hcalled⟩ := h.called _ rfl
    cases hrequest
    obtain ⟨-, _, _, _, -, ho, -⟩ := hcalled
    cases hoverrun.symm.trans ho
  · obtain ⟨request, hrequest, -⟩ := h.called _ rfl
    cases newRequest_longest.symm.trans hrequest

end Usersim.Wdf
