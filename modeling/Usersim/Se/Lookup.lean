import Usersim.Ex.Pool

/-!
# Names of accounts (`se.cpp`)

`SecLookupAccountSid` calls `LookupAccountSidW` twice, for the sizes and for the strings, which it
copies from two temporary buffers to the buffers of its caller. `LookupAccountSidW` is outside: `Os`
has what it answers to both calls.

* `lookup_right_iff` — when the strings and sizes that a lookup returns are as they should be
-/

namespace Usersim.Se

open Ex (badPoolCaller)

open Memory.Winuser (Stop)

abbrev Ushort := BitVec 16

abbrev Ulong := BitVec 32

abbrev SidNameUse := BitVec 32

/-- The errors that `win32_error_to_usersim_error` tells apart, and two that it does not. -/
inductive Win32Error where
  | outOfMemory
  | notEnoughMemory
  | pathNotFound
  | notFound
  | invalidParameter
  | noMoreItems
  | noMoreMatches
  | invalidHandle
  | notSupported
  | moreData
  | fileNotFound
  | alreadyInitialized
  | objectAlreadyExists
  | verifierStop
  | noneMapped
  | badDriver
  | invalidFunction
  | tooManyCmds
  | rpcCallFailed
  | badExeFormat
  | accessDenied
  | notOwner
  | contentBlocked
  | arithmeticOverflow
  | genericCommandFailed
  | alreadyRegistered
  | internalError
  | tooManyNames
  | noSystemResources
  | operationAborted
  | noAccess
  | insufficientBuffer
  | other
deriving DecidableEq, Repr

inductive Status where
  | success
  | bufferTooSmall
  | unsuccessful
  | invalidParameter
  | noMemory
  | objectPathNotFound
  | notFound
  | noMoreMatches
  | invalidHandle
  | notSupported
  | bufferOverflow
  | noSuchFile
  | alreadyInitialized
  | objectIdExists
  | verifierStop
  | noneMapped
  | driverUnableToLoad
  | invalidDeviceRequest
  | tooManyCommands
  | rpcCallFailed
  | invalidImageFormat
  | accessDenied
  | resourceNotOwned
  | contentBlocked
  | integerOverflow
  | genericCommandFailed
  | alreadyRegistered
  | tooManyNodes
  | insufficientResources
  | cancelled
  | accessViolation
deriving DecidableEq, Repr

def win32ErrorToUsersimError : Win32Error → Status
  | .outOfMemory | .notEnoughMemory => .noMemory
  | .pathNotFound => .objectPathNotFound
  | .notFound => .notFound
  | .invalidParameter => .invalidParameter
  | .noMoreItems | .noMoreMatches => .noMoreMatches
  | .invalidHandle => .invalidHandle
  | .notSupported => .notSupported
  | .moreData => .bufferOverflow
  | .fileNotFound => .noSuchFile
  | .alreadyInitialized => .alreadyInitialized
  | .objectAlreadyExists => .objectIdExists
  | .verifierStop => .verifierStop
  | .noneMapped => .noneMapped
  | .badDriver => .driverUnableToLoad
  | .invalidFunction => .invalidDeviceRequest
  | .tooManyCmds => .tooManyCommands
  | .rpcCallFailed => .rpcCallFailed
  | .badExeFormat => .invalidImageFormat
  | .accessDenied => .accessDenied
  | .notOwner => .resourceNotOwned
  | .contentBlocked => .contentBlocked
  | .arithmeticOverflow => .integerOverflow
  | .genericCommandFailed => .genericCommandFailed
  | .alreadyRegistered | .internalError => .alreadyRegistered
  | .tooManyNames => .tooManyNodes
  | .noSystemResources => .insufficientResources
  | .operationAborted => .cancelled
  | .noAccess => .accessViolation
  | .insufficientBuffer | .other => .unsuccessful

/-- `UNICODE_STRING` with what is in its buffer; `none` stands for a null pointer. -/
structure UnicodeString where
  length : Ushort
  maximumLength : Ushort
  buffer : Option (List Byte)
  buffer_length : ∀ bytes, buffer = some bytes → bytes.length = maximumLength.toNat

/-- `memcpy` of the first `n` bytes. -/
def memcpy (destination : List Byte) (source : Nat → Byte) (n : Nat) : List Byte :=
  destination.mapIdx fun i byte => if i < n then source i else byte

def UnicodeString.write (s : UnicodeString) (source : Nat → Byte) (byteLen : Ushort) :
    UnicodeString where
  length := byteLen
  maximumLength := s.maximumLength
  buffer := s.buffer.map fun bytes => memcpy bytes source byteLen.toNat
  buffer_length := by
    intro bytes h
    obtain ⟨old, hold, rfl⟩ := Option.map_eq_some_iff.mp h
    rw [memcpy, List.length_mapIdx, s.buffer_length old hold]

/-- `name_buf` or `domain_buf`. -/
inductive Temporary where
  | name
  | domain
deriving DecidableEq, Repr

inductive Event where
  | allocated (t : Temporary)
  | freed (t : Temporary)
deriving DecidableEq, Repr

/-- What `LookupAccountSidW` reports, with what it has written to the two buffers. -/
structure Reply where
  nameChars : Ulong
  domainChars : Ulong
  nameUse : SidNameUse
  name : Nat → Byte
  domain : Nat → Byte

/-- The answers of the system. -/
structure Os where
  injectFault : Bool
  /-- The answer to null buffers, and the last error after it. -/
  sizing : Reply
  sizingError : Win32Error
  /-- The allocations of the two buffers succeed. -/
  allocates : Temporary → Bool
  /-- The answer to the two buffers, or nothing if the call fails. -/
  data : Option Reply
  dataError : Win32Error

/-- The arguments; the first four are whether the pointer is not null. -/
structure Args where
  sid : Bool
  nameSize : Bool
  domainSize : Bool
  nameUse : Bool
  nameBuffer : Option UnicodeString
  domainBuffer : Option UnicodeString

/-- What a call leaves; an output that is not written is `none`. -/
structure Result where
  status : Status
  nameSize : Option Ulong
  domainSize : Option Ulong
  nameUse : Option SidNameUse
  nameBuffer : Option UnicodeString
  domainBuffer : Option UnicodeString
  events : List Event

/-- A call that has written nothing. -/
def Args.failed (args : Args) (status : Status) (events : List Event) : Result where
  status := status
  nameSize := none
  domainSize := none
  nameUse := none
  nameBuffer := args.nameBuffer
  domainBuffer := args.domainBuffer
  events := events

/-- `(ULONG)((chars - 1) * sizeof(WCHAR))`. -/
def sizeWithoutTerminator (chars : Ulong) : Ulong :=
  if 0 < chars then ((chars - 1).setWidth 64 * 2).setWidth 32 else 0

/-- `(ULONG)(chars * sizeof(WCHAR))`. -/
def requiredBytes (chars : Ulong) : Ulong :=
  if 0 < chars then (chars.setWidth 64 * 2).setWidth 32 else 0

/-- A buffer for a number of characters, null for none; nothing if the allocation fails. -/
def allocateTemporary (os : Os) (t : Temporary) (chars : Ulong) : Option (Option Temporary) :=
  if 0 < chars then
    if os.allocates t then some (some t) else none
  else some none

/-- `ExFreePool`. -/
def exFreePool (events : List Event) : Option Temporary → Except Stop (List Event)
  | none => .error (.bugCheck badPoolCaller 0x46 0 0)
  | some t => .ok (events ++ [.freed t])

/-- `ExFreePool` behind a check for null. -/
def freeTemporary (events : List Event) (t : Option Temporary) : Except Stop (List Event) :=
  if t.isSome then exFreePool events t else .ok events

/-- What becomes of one string of the caller. -/
structure Copied where
  string : Option UnicodeString
  size : Ulong
  truncated : Bool

/-- The copy to `NameBuffer` or to `DomainBuffer`. -/
def copyString (string : Option UnicodeString) (source : Nat → Byte) (chars : Ulong) : Copied :=
  let skipped : Copied := { string := string, size := 0, truncated := false }
  match string with
  | none => skipped
  | some s =>
    if s.buffer.isSome && 0 < chars then
      let byteLen := (requiredBytes chars).setWidth 16
      if s.maximumLength < byteLen then
        { string := some (s.write source s.maximumLength), size := requiredBytes chars
          truncated := true }
      else
        { string := some (s.write source byteLen), size := requiredBytes chars, truncated := false }
    else skipped

/-- The buffers that were allocated, as events. -/
def allocatedEvents (nameBuf domainBuf : Option Temporary) : List Event :=
  (nameBuf.toList ++ domainBuf.toList).map .allocated

def Args.isNull (args : Args) : Bool :=
  !args.sid || !args.nameSize || !args.domainSize || !args.nameUse

/-- From the second call of `LookupAccountSidW` on. -/
def lookupData (os : Os) (args : Args) (nameBuf domainBuf : Option Temporary) :
    Except Stop Result := do
  let events := allocatedEvents nameBuf domainBuf
  match os.data with
  | none =>
    let events ← freeTemporary events nameBuf
    let events ← freeTemporary events domainBuf
    return args.failed (win32ErrorToUsersimError os.dataError) events
  | some reply =>
    let name := copyString args.nameBuffer reply.name reply.nameChars
    let domain := copyString args.domainBuffer reply.domain reply.domainChars
    let events ← freeTemporary events nameBuf
    let events ← freeTemporary events domainBuf
    return {
      status := if name.truncated || domain.truncated then .bufferTooSmall else .success
      nameSize := some name.size
      domainSize := some domain.size
      nameUse := some reply.nameUse
      nameBuffer := name.string
      domainBuffer := domain.string
      events := events }

def secLookupAccountSid (os : Os) (args : Args) : Except Stop Result :=
  if os.injectFault then .ok (args.failed .unsuccessful [])
  else if args.isNull then .ok (args.failed .invalidParameter [])
  else if os.sizingError ≠ .insufficientBuffer then
    .ok (args.failed (win32ErrorToUsersimError os.sizingError) [])
  else if args.nameBuffer.isNone && args.domainBuffer.isNone then
    .ok { args.failed .bufferTooSmall [] with
      nameSize := some (sizeWithoutTerminator os.sizing.nameChars)
      domainSize := some (sizeWithoutTerminator os.sizing.domainChars)
      nameUse := some os.sizing.nameUse }
  else
    match allocateTemporary os .name os.sizing.nameChars with
    | none => .ok (args.failed .noMemory [])
    | some nameBuf =>
      match allocateTemporary os .domain os.sizing.domainChars with
      | none => (exFreePool (allocatedEvents nameBuf none) nameBuf).map (args.failed .noMemory)
      | some domainBuf => lookupData os args nameBuf domainBuf

/-! ## What a lookup is for -/

/-- The bytes of a string in memory. -/
def bytes (text : List WChar) : List Byte :=
  text.flatMap fun c : WChar => [c.setWidth 8, (c >>> (8 : Nat)).setWidth 8]

def byteLength (text : List WChar) : Nat := 2 * text.length

structure Account where
  name : List WChar
  domain : List WChar

/-- A string and its length without a terminator. -/
structure Reports (chars : Ulong) (source : Nat → Byte) (text : List WChar) : Prop where
  chars : chars.toNat = text.length
  source : ∀ i : Nat, ∀ h : i < (bytes text).length, source i = (bytes text)[i]

/-- What the documentation says of `LookupAccountSidW`: the first call reports the lengths with the
terminators, the second one, if it succeeds, the strings without them. -/
structure Os.Documented (os : Os) (account : Account) : Prop where
  sizingError : os.sizingError = .insufficientBuffer
  nameChars : os.sizing.nameChars.toNat = account.name.length + 1
  domainChars : os.sizing.domainChars.toNat = account.domain.length + 1
  data : ∀ reply, os.data = some reply → Reports reply.nameChars reply.name account.name ∧
    Reports reply.domainChars reply.domain account.domain

def bufferOf (string : Option UnicodeString) : Option (List Byte) := string.bind (·.buffer)

/-- There is room for the string, if there is a buffer. -/
def Fits (text : List WChar) (string : Option UnicodeString) : Prop :=
  ∀ s, string = some s → s.buffer.isSome = true → byteLength text ≤ s.maximumLength.toNat

/-- A buffer has the first bytes of the string, as many as there is room for. -/
def Received (text : List WChar) (before after : Option UnicodeString) : Prop :=
  ∀ s b, before = some s → s.buffer = some b → ∃ s', after = some s' ∧
    s'.maximumLength = s.maximumLength ∧
    s'.length.toNat = min (byteLength text) s.maximumLength.toNat ∧
    s'.buffer = some ((bytes text).take (min (byteLength text) s.maximumLength.toNat) ++
      b.drop (min (byteLength text) s.maximumLength.toNat))

/-- The call with the same arguments and no buffers. -/
def Args.sizing (args : Args) : Args := { args with nameBuffer := none, domainBuffer := none }

def Args.asksForData (args : Args) : Prop :=
  args.nameBuffer.isSome = true ∨ args.domainBuffer.isSome = true

structure NothingFails (os : Os) (args : Args) : Prop where
  injectFault : os.injectFault = false
  isNull : args.isNull = false
  allocates : ∀ t, os.allocates t = true
  data : os.data.isSome = true

structure DataLaw (account : Account) (args : Args) (sizing r : Result) : Prop where
  nameSize : r.nameSize = sizing.nameSize
  domainSize : r.domainSize = sizing.domainSize
  success_iff : r.status = .success ↔
    Fits account.name args.nameBuffer ∧ Fits account.domain args.domainBuffer
  name : Received account.name args.nameBuffer r.nameBuffer
  domain : Received account.domain args.domainBuffer r.domainBuffer

/-- What was allocated was freed, and once. -/
def FreedOnce (events : List Event) : Prop :=
  ∀ t, events.count (.freed t) = events.count (.allocated t) ∧ events.count (.allocated t) ≤ 1

structure LookupLaw (os : Os) (account : Account) (args : Args) : Prop where
  /-- The call returns, so that nothing null was freed. -/
  freed : ∃ r, secLookupAccountSid os args = .ok r ∧ FreedOnce r.events
  data : NothingFails os args → args.asksForData → ∃ r sizing, secLookupAccountSid os args = .ok r ∧
    secLookupAccountSid os args.sizing = .ok sizing ∧ DataLaw account args sizing r
  failed : ¬ NothingFails os args → args.asksForData → ∃ status events, status ≠ .success ∧
    secLookupAccountSid os args = .ok (args.failed status events)

/-! ## When it does so -/

/-- What one string has to be like. -/
structure StringRight (text : List WChar) (string : Option UnicodeString) : Prop where
  absent : bufferOf string = none → byteLength text % 2 ^ 32 = 0
  empty : ∀ s, string = some s → s.buffer.isSome = true → text = [] → s.length = 0
  long : ∀ s, string = some s → s.buffer.isSome = true → 2 ^ 16 ≤ byteLength text →
    s.maximumLength.toNat ≤ byteLength text % 2 ^ 16

/-- The byte length does not fit in a `USHORT`. -/
def Long (text : List WChar) (string : Option UnicodeString) : Prop :=
  (bufferOf string).isSome = true ∧ 2 ^ 16 ≤ byteLength text

/-- There is less room than for the lower half of the byte length. -/
def Flagged (text : List WChar) (string : Option UnicodeString) : Prop :=
  ∃ s, string = some s ∧ s.buffer.isSome = true ∧
    s.maximumLength.toNat < byteLength text % 2 ^ 16

structure HoldsWhen (account : Account) (args : Args) : Prop where
  name : StringRight account.name args.nameBuffer
  domain : StringRight account.domain args.domainBuffer
  /-- A string that cannot fit is noticed. -/
  flagged : Long account.name args.nameBuffer ∨ Long account.domain args.domainBuffer →
    Flagged account.name args.nameBuffer ∨ Flagged account.domain args.domainBuffer

variable {os : Os} {account : Account} {args : Args} {text : List WChar} {chars : Ulong}
  {source : Nat → Byte} {string : Option UnicodeString} {s : UnicodeString}

/-! ## Lengths -/

theorem bytes_length (text : List WChar) : (bytes text).length = byteLength text := by
  induction text with
  | nil => rfl
  | cons c text ih =>
    simp only [bytes, byteLength, List.flatMap_cons, List.length_append, List.length_cons,
      List.length_nil] at ih ⊢
    omega

theorem requiredBytes_toNat {n : Nat} (h : chars.toNat = n) :
    (requiredBytes chars).toNat = 2 * n % 2 ^ 32 := by
  unfold requiredBytes
  split
  · rw [BitVec.toNat_setWidth, BitVec.toNat_mul, BitVec.toNat_setWidth, h]
    have hlt := chars.isLt
    simp
    omega
  · have hzero : chars = 0#32 := by simpa using ‹¬ 0 < chars›
    subst hzero
    simp at h
    simp [← h]

theorem sizeWithoutTerminator_eq {sized : Ulong} (h : sized.toNat = chars.toNat + 1) :
    sizeWithoutTerminator sized = requiredBytes chars := by
  have hone : sized - 1 = chars := by
    apply BitVec.eq_of_toNat_eq
    have hlt := sized.isLt
    rw [BitVec.toNat_sub]
    simp
    omega
  have hpos : 0 < sized := by
    rw [BitVec.lt_def, h]
    exact Nat.succ_pos _
  rw [sizeWithoutTerminator, if_pos hpos, hone, requiredBytes]
  split
  · rfl
  · have hzero : chars = 0#32 := by simpa using ‹¬ 0 < chars›
    subst hzero
    rfl

theorem byteLen_toNat (h : chars.toNat = text.length) :
    ((requiredBytes chars).setWidth 16).toNat = byteLength text % 2 ^ 16 := by
  rw [BitVec.toNat_setWidth, requiredBytes_toNat h, byteLength]
  omega

/-! ## One string -/

theorem memcpy_eq {destination : List Byte} {src : List Byte} {n : Nat} (hn : n ≤ src.length)
    (hroom : n ≤ destination.length) (h : ∀ i : Nat, ∀ hi : i < src.length, source i = src[i]) :
    memcpy destination source n = src.take n ++ destination.drop n := by
  apply List.ext_getElem
  · rw [memcpy, List.length_mapIdx, List.length_append, List.length_take, List.length_drop]
    omega
  · intro i hi hi'
    simp only [memcpy, List.getElem_mapIdx]
    split
    · rw [List.getElem_append_left (by rw [List.length_take]; omega), List.getElem_take]
      exact h i (by omega)
    · have htake : (src.take n).length = n := by
        rw [List.length_take]
        omega
      rw [List.getElem_append_right (by omega), List.getElem_drop]
      congr 1
      omega

theorem copyString_supplied (source : Nat → Byte) (hs : s.buffer.isSome = true)
    (hchars : chars.toNat = text.length) (hne : text ≠ []) :
    ∃ byteLen : Ushort,
      byteLen.toNat = min s.maximumLength.toNat (byteLength text % 2 ^ 16) ∧
      copyString (some s) source chars =
        { string := some (s.write source byteLen), size := requiredBytes chars
          truncated := s.maximumLength.toNat < byteLength text % 2 ^ 16 } := by
  have hpos : 0 < chars := by
    rw [BitVec.lt_def, hchars]
    exact List.length_pos_iff.mpr hne
  have hlen := byteLen_toNat hchars
  simp only [copyString, hs, hpos, decide_true, Bool.and_self, if_true, BitVec.lt_def, hlen]
  split
  · rename_i hlt
    exact ⟨s.maximumLength, by omega, by rw [decide_eq_true hlt]⟩
  · rename_i hge
    exact ⟨(requiredBytes chars).setWidth 16, by rw [hlen]; omega,
      by rw [decide_eq_false hge]⟩

/-- A string that is empty, or has no buffer, is skipped. -/
theorem copyString_skipped (source : Nat → Byte) (hchars : chars.toNat = text.length)
    (h : bufferOf string = none ∨ text = []) :
    copyString string source chars = { string := string, size := 0, truncated := false } := by
  cases string with
  | none => rfl
  | some s =>
    have hskip : (s.buffer.isSome && decide (0 < chars)) = false := by
      rcases h with h | rfl
      · rw [show s.buffer = none from h]
        rfl
      · have hzero : ¬ 0 < chars := by
          rw [BitVec.lt_def, hchars]
          exact Nat.lt_irrefl 0
        rw [decide_eq_false hzero, Bool.and_false]
    rw [copyString, hskip]
    rfl

theorem flagged_iff (source : Nat → Byte) (hchars : chars.toNat = text.length) :
    (copyString string source chars).truncated = true ↔ Flagged text string := by
  by_cases hskip : bufferOf string = none ∨ text = []
  · rw [copyString_skipped source hchars hskip]
    refine iff_of_false (by simp) ?_
    rintro ⟨s, rfl, hs, hlt⟩
    rcases hskip with hnone | rfl
    · rw [show s.buffer = none from hnone] at hs
      cases hs
    · exact absurd hlt (Nat.not_lt_zero _)
  · rw [not_or] at hskip
    obtain ⟨hsome, hne⟩ := hskip
    cases string with
    | none => exact absurd rfl hsome
    | some s =>
      have hs : s.buffer.isSome = true := Option.isSome_iff_ne_none.mpr hsome
      obtain ⟨byteLen, -, hcopy⟩ := copyString_supplied source hs hchars hne
      rw [hcopy]
      dsimp only
      rw [decide_eq_true_iff]
      constructor
      · intro hlt
        exact ⟨s, rfl, hs, hlt⟩
      · rintro ⟨s', hs', -, hlt⟩
        obtain rfl := Option.some.inj hs'
        exact hlt

theorem fits_iff (text : List WChar) (string : Option UnicodeString) :
    Fits text string ↔ ¬ Flagged text string ∧ ¬ Long text string := by
  constructor
  · intro h
    constructor
    · rintro ⟨s, hstring, hs, hlt⟩
      have hfits := h s hstring hs
      omega
    · rintro ⟨hsome, hlong⟩
      cases string with
      | none => cases hsome
      | some s =>
        have hfits := h s rfl hsome
        have hlt := s.maximumLength.isLt
        omega
  · rintro ⟨hflagged, hlong⟩ s rfl hs
    by_contra hlt
    have hshort : byteLength text < 2 ^ 16 := by
      by_contra hge
      exact hlong ⟨hs, Nat.le_of_not_lt hge⟩
    exact hflagged ⟨s, rfl, hs, by omega⟩

/-- What was written is right if and only if its length is. -/
theorem received_write_iff (h : Reports chars source text) (hs : s.buffer.isSome = true)
    (byteLen : Ushort) :
    Received text (some s) (some (s.write source byteLen)) ↔
      byteLen.toNat = min (byteLength text) s.maximumLength.toNat := by
  constructor
  · intro hreceived
    obtain ⟨b, hb⟩ := Option.isSome_iff_exists.mp hs
    obtain ⟨s', hs', -, hlength, -⟩ := hreceived s b rfl hb
    obtain rfl := Option.some.inj hs'
    exact hlength
  · rintro hlength s' b hs' hb
    obtain rfl := Option.some.inj hs'
    refine ⟨_, rfl, rfl, hlength, ?_⟩
    have hroom := s.buffer_length b hb
    show s.buffer.map (memcpy · source byteLen.toNat) = _
    rw [hb, Option.map_some, hlength,
      memcpy_eq (by rw [bytes_length]; omega) (by omega) h.source]

theorem stringRight_of_absent (h : Reports chars source text) (hstring : bufferOf string = none) :
    (copyString string source chars).size = requiredBytes chars ∧
        Received text string (copyString string source chars).string ↔
      StringRight text string := by
  have hnone : ∀ s, string = some s → ¬ s.buffer.isSome = true := by
    rintro s rfl hs
    rw [show s.buffer = none from hstring] at hs
    cases hs
  rw [copyString_skipped source h.chars (.inl hstring)]
  constructor
  · rintro ⟨hsize, -⟩
    refine ⟨fun _ => ?_, fun s hs hsome => absurd hsome (hnone s hs),
      fun s hs hsome => absurd hsome (hnone s hs)⟩
    rw [byteLength, ← requiredBytes_toNat h.chars, ← hsize]
    rfl
  · intro hright
    refine ⟨BitVec.eq_of_toNat_eq ?_, fun s b hs hb => absurd (by rw [hb]; rfl) (hnone s hs)⟩
    rw [requiredBytes_toNat h.chars]
    exact (hright.absent hstring).symm

theorem stringRight_of_empty (h : Reports chars source []) (hs : s.buffer.isSome = true) :
    (copyString (some s) source chars).size = requiredBytes chars ∧
        Received [] (some s) (copyString (some s) source chars).string ↔
      StringRight [] (some s) := by
  obtain ⟨b, hb⟩ := Option.isSome_iff_exists.mp hs
  have hzero : requiredBytes chars = 0 := BitVec.eq_of_toNat_eq (requiredBytes_toNat h.chars)
  rw [copyString_skipped source h.chars (.inr rfl), hzero]
  constructor
  · rintro ⟨-, hreceived⟩
    obtain ⟨s', hs', -, hlength, -⟩ := hreceived s b rfl hb
    obtain rfl := Option.some.inj hs'
    refine ⟨fun hnone => ?_, fun s' hs' _ _ => ?_, fun _ _ _ hlong => ?_⟩
    · rw [show s.buffer = none from hnone] at hb
      cases hb
    · obtain rfl := Option.some.inj hs'
      exact BitVec.eq_of_toNat_eq (by simpa [byteLength] using hlength)
    · simp [byteLength] at hlong
  · intro hright
    refine ⟨rfl, fun s' b' hs' hb' => ?_⟩
    obtain rfl := Option.some.inj hs'
    refine ⟨s, rfl, rfl, ?_, ?_⟩
    · simp [hright.empty s rfl hs rfl, byteLength]
    · simp [hb', byteLength]

theorem stringRight_of_supplied (h : Reports chars source text) (hs : s.buffer.isSome = true)
    (hne : text ≠ []) :
    (copyString (some s) source chars).size = requiredBytes chars ∧
        Received text (some s) (copyString (some s) source chars).string ↔
      StringRight text (some s) := by
  obtain ⟨byteLen, hlen, hcopy⟩ := copyString_supplied source hs h.chars hne
  have hroom := s.maximumLength.isLt
  rw [hcopy, received_write_iff h hs, hlen]
  constructor
  · rintro ⟨-, hmin⟩
    refine ⟨fun hnone => ?_, fun _ _ _ hempty => absurd hempty hne, fun s' hs' _ hlong => ?_⟩
    · rw [show s.buffer = none from hnone] at hs
      cases hs
    · obtain rfl := Option.some.inj hs'
      omega
  · intro hright
    refine ⟨rfl, ?_⟩
    by_cases hlong : 2 ^ 16 ≤ byteLength text
    · have hless := hright.long s rfl hs hlong
      omega
    · omega

/-- The copy of one string does what it should. -/
theorem stringRight_iff (h : Reports chars source text) {sized : Ulong}
    (hsized : sized.toNat = text.length + 1) (string : Option UnicodeString) :
    (copyString string source chars).size = sizeWithoutTerminator sized ∧
        Received text string (copyString string source chars).string ↔
      StringRight text string := by
  have hone : sized.toNat = chars.toNat + 1 := by rw [hsized, h.chars]
  rw [sizeWithoutTerminator_eq hone]
  by_cases hstring : bufferOf string = none
  · exact stringRight_of_absent h hstring
  · cases string with
    | none => exact absurd rfl hstring
    | some s =>
      have hs : s.buffer.isSome = true := Option.isSome_iff_ne_none.mpr hstring
      by_cases hne : text = []
      · subst hne
        exact stringRight_of_empty h hs
      · exact stringRight_of_supplied h hs hne

/-! ## The ways through -/

theorem allocateTemporary_of_pos {n : Nat} (t : Temporary) (h : chars.toNat = n + 1) :
    allocateTemporary os t chars = if os.allocates t then some (some t) else none := by
  refine if_pos ?_
  rw [BitVec.lt_def, h]
  exact Nat.succ_pos n

/-- Both buffers, allocated and freed. -/
def bothFreed : List Event :=
  [.allocated .name, .allocated .domain, .freed .name, .freed .domain]

/-- A call that gets the strings. -/
def Args.copied (args : Args) (reply : Reply) : Result where
  status :=
    if (copyString args.nameBuffer reply.name reply.nameChars).truncated ||
        (copyString args.domainBuffer reply.domain reply.domainChars).truncated then
      .bufferTooSmall
    else .success
  nameSize := some (copyString args.nameBuffer reply.name reply.nameChars).size
  domainSize := some (copyString args.domainBuffer reply.domain reply.domainChars).size
  nameUse := some reply.nameUse
  nameBuffer := (copyString args.nameBuffer reply.name reply.nameChars).string
  domainBuffer := (copyString args.domainBuffer reply.domain reply.domainChars).string
  events := bothFreed

theorem lookupData_eq (os : Os) (args : Args) :
    lookupData os args (some .name) (some .domain) =
      .ok (match os.data with
        | none => args.failed (win32ErrorToUsersimError os.dataError) bothFreed
        | some reply => args.copied reply) := by
  unfold lookupData
  cases os.data with
  | none => rfl
  | some reply => rfl

theorem lookup_asksForData (hdoc : os.Documented account) (hinject : os.injectFault = false)
    (hnull : args.isNull = false) (hasks : args.asksForData) :
    secLookupAccountSid os args =
      .ok (if !os.allocates .name then args.failed .noMemory []
        else if !os.allocates .domain then
          args.failed .noMemory [.allocated .name, .freed .name]
        else
          match os.data with
          | none => args.failed (win32ErrorToUsersimError os.dataError) bothFreed
          | some reply => args.copied reply) := by
  have hsome : (args.nameBuffer.isNone && args.domainBuffer.isNone) = false := by
    rcases hasks with h | h <;> obtain ⟨s, hs⟩ := Option.isSome_iff_exists.mp h <;> simp [hs]
  rw [secLookupAccountSid, hinject, hnull, hsome, if_neg (by decide), if_neg (by decide),
    if_neg (not_not.mpr hdoc.sizingError), if_neg (by decide),
    allocateTemporary_of_pos .name hdoc.nameChars,
    allocateTemporary_of_pos .domain hdoc.domainChars]
  cases os.allocates .name with
  | false => rfl
  | true =>
    cases os.allocates .domain with
    | false => rfl
    | true => exact lookupData_eq os args

theorem lookup_sizing (hdoc : os.Documented account) (hinject : os.injectFault = false)
    (hnull : args.isNull = false) (hnone : args.nameBuffer = none)
    (hnone' : args.domainBuffer = none) :
    secLookupAccountSid os args =
      .ok { args.failed .bufferTooSmall [] with
        nameSize := some (sizeWithoutTerminator os.sizing.nameChars)
        domainSize := some (sizeWithoutTerminator os.sizing.domainChars)
        nameUse := some os.sizing.nameUse } := by
  simp [secLookupAccountSid, hinject, hnull, hdoc.sizingError, hnone, hnone']

theorem lookup_early (h : os.injectFault = true ∨ args.isNull = true) :
    ∃ status, status ≠ .success ∧
      secLookupAccountSid os args = .ok (args.failed status []) := by
  by_cases hinject : os.injectFault = true
  · exact ⟨.unsuccessful, by decide, if_pos hinject⟩
  · refine ⟨.invalidParameter, by decide, ?_⟩
    rw [secLookupAccountSid, if_neg hinject, if_pos (h.resolve_left hinject)]

theorem win32ErrorToUsersimError_ne_success (error : Win32Error) :
    win32ErrorToUsersimError error ≠ .success := by
  cases error <;> decide

/-! ## Temporary buffers -/

theorem freedOnce_nil : FreedOnce [] := fun _ => ⟨rfl, Nat.zero_le 1⟩

theorem freedOnce_name : FreedOnce [.allocated .name, .freed .name] := by
  intro t
  cases t <;> decide

theorem freedOnce_both : FreedOnce bothFreed := by
  intro t
  cases t <;> decide

/-- A call that asks for the strings fails, and has written nothing, or gets them. -/
theorem lookup_cases (hdoc : os.Documented account) (hasks : args.asksForData) :
    (¬ NothingFails os args ∧ ∃ status events, status ≠ .success ∧ FreedOnce events ∧
      secLookupAccountSid os args = .ok (args.failed status events)) ∨
    NothingFails os args ∧ ∃ reply, os.data = some reply ∧
      secLookupAccountSid os args = .ok (args.copied reply) := by
  by_cases hearly : os.injectFault = true ∨ args.isNull = true
  · obtain ⟨status, hstatus, hlookup⟩ := lookup_early hearly
    refine .inl ⟨fun h => ?_, status, [], hstatus, freedOnce_nil, hlookup⟩
    simp [h.injectFault, h.isNull] at hearly
  · simp only [not_or, Bool.not_eq_true] at hearly
    obtain ⟨hinject, hnull⟩ := hearly
    rw [lookup_asksForData hdoc hinject hnull hasks]
    cases hname : os.allocates .name with
    | false =>
      refine .inl ⟨fun h => ?_, _, _, by decide, freedOnce_nil, rfl⟩
      simp [h.allocates] at hname
    | true =>
      cases hdomain : os.allocates .domain with
      | false =>
        refine .inl ⟨fun h => ?_, _, _, by decide, freedOnce_name, rfl⟩
        simp [h.allocates] at hdomain
      | true =>
        cases hdata : os.data with
        | none =>
          refine .inl ⟨fun h => ?_, _, _, win32ErrorToUsersimError_ne_success os.dataError,
            freedOnce_both, rfl⟩
          simpa [hdata] using h.data
        | some reply =>
          refine .inr ⟨⟨hinject, hnull, fun t => ?_, by rw [hdata]; rfl⟩, reply, rfl, rfl⟩
          cases t
          · exact hname
          · exact hdomain

theorem lookup_freed (hdoc : os.Documented account) (args : Args) :
    ∃ r, secLookupAccountSid os args = .ok r ∧ FreedOnce r.events := by
  by_cases hasks : args.asksForData
  · obtain ⟨-, _, _, -, hfreed, hlookup⟩ | ⟨-, _, -, hlookup⟩ := lookup_cases hdoc hasks
    · exact ⟨_, hlookup, hfreed⟩
    · exact ⟨_, hlookup, freedOnce_both⟩
  · simp only [Args.asksForData, not_or, Bool.not_eq_true, Option.isSome_eq_false_iff,
      Option.isNone_iff_eq_none] at hasks
    by_cases hearly : os.injectFault = true ∨ args.isNull = true
    · obtain ⟨status, -, hlookup⟩ := lookup_early hearly
      exact ⟨_, hlookup, freedOnce_nil⟩
    · simp only [not_or, Bool.not_eq_true] at hearly
      exact ⟨_, lookup_sizing hdoc hearly.1 hearly.2 hasks.1 hasks.2, freedOnce_nil⟩

/-! ## Both strings -/

theorem success_iff {reply : Reply} (hname : reply.nameChars.toNat = account.name.length)
    (hdomain : reply.domainChars.toNat = account.domain.length) :
    (args.copied reply).status = .success ↔
      ¬ Flagged account.name args.nameBuffer ∧ ¬ Flagged account.domain args.domainBuffer := by
  rw [← flagged_iff reply.name hname, ← flagged_iff reply.domain hdomain]
  simp only [Args.copied]
  cases (copyString args.nameBuffer reply.name reply.nameChars).truncated <;>
    cases (copyString args.domainBuffer reply.domain reply.domainChars).truncated <;> decide

/-- The status is right if and only if a string too long for a `USHORT` does not go unnoticed. -/
theorem success_right_iff (args : Args) {reply : Reply}
    (hname : reply.nameChars.toNat = account.name.length)
    (hdomain : reply.domainChars.toNat = account.domain.length) :
    ((args.copied reply).status = .success ↔
        Fits account.name args.nameBuffer ∧ Fits account.domain args.domainBuffer) ↔
      (Long account.name args.nameBuffer ∨ Long account.domain args.domainBuffer →
        Flagged account.name args.nameBuffer ∨ Flagged account.domain args.domainBuffer) := by
  rw [success_iff hname hdomain, fits_iff, fits_iff]
  constructor
  · intro h hlong
    by_contra hflagged
    rw [not_or] at hflagged
    obtain ⟨⟨-, hname⟩, -, hdomain⟩ := h.mp hflagged
    exact hlong.elim hname hdomain
  · intro h
    constructor
    · rintro ⟨hname, hdomain⟩
      have hlong : ¬ (Long account.name args.nameBuffer ∨ Long account.domain args.domainBuffer) :=
        fun hlong => (h hlong).elim hname hdomain
      exact ⟨⟨hname, fun hl => hlong (.inl hl)⟩, hdomain, fun hl => hlong (.inr hl)⟩
    · rintro ⟨⟨hname, -⟩, hdomain, -⟩
      exact ⟨hname, hdomain⟩

theorem dataLaw_iff (hdoc : os.Documented account) {reply : Reply} (hreply : os.data = some reply)
    {sizing : Result}
    (hnameSize : sizing.nameSize = some (sizeWithoutTerminator os.sizing.nameChars))
    (hdomainSize : sizing.domainSize = some (sizeWithoutTerminator os.sizing.domainChars)) :
    DataLaw account args sizing (args.copied reply) ↔ HoldsWhen account args := by
  obtain ⟨hname, hdomain⟩ := hdoc.data reply hreply
  have hnameRight := stringRight_iff hname hdoc.nameChars args.nameBuffer
  have hdomainRight := stringRight_iff hdomain hdoc.domainChars args.domainBuffer
  have hsuccess := success_right_iff args hname.chars hdomain.chars
  constructor
  · intro h
    have hnameEq := h.nameSize
    have hdomainEq := h.domainSize
    rw [hnameSize] at hnameEq
    rw [hdomainSize] at hdomainEq
    exact ⟨hnameRight.mp ⟨Option.some.inj hnameEq, h.name⟩,
      hdomainRight.mp ⟨Option.some.inj hdomainEq, h.domain⟩, hsuccess.mp h.success_iff⟩
  · intro h
    obtain ⟨hnameEq, hnameReceived⟩ := hnameRight.mpr h.name
    obtain ⟨hdomainEq, hdomainReceived⟩ := hdomainRight.mpr h.domain
    exact ⟨by rw [hnameSize, ← hnameEq]; rfl, by rw [hdomainSize, ← hdomainEq]; rfl,
      hsuccess.mpr h.flagged, hnameReceived, hdomainReceived⟩

theorem lookup_noBuffers (hdoc : os.Documented account) (h : NothingFails os args) :
    ∃ sizing, secLookupAccountSid os args.sizing = .ok sizing ∧
      sizing.nameSize = some (sizeWithoutTerminator os.sizing.nameChars) ∧
      sizing.domainSize = some (sizeWithoutTerminator os.sizing.domainChars) := by
  have hnull : args.sizing.isNull = false := h.isNull
  exact ⟨_, lookup_sizing hdoc h.injectFault hnull rfl rfl, rfl, rfl⟩

theorem lookup_right_iff (os : Os) (account : Account) (args : Args)
    (hdoc : os.Documented account) :
    LookupLaw os account args ↔
      (NothingFails os args → args.asksForData → HoldsWhen account args) := by
  constructor
  · intro h hfails hasks
    obtain ⟨hnot, -⟩ | ⟨-, reply, hreply, hcopied⟩ := lookup_cases hdoc hasks
    · exact absurd hfails hnot
    · obtain ⟨r, sizing, hr, hsizing, hlaw⟩ := h.data hfails hasks
      obtain ⟨sizing', hsizing', hnameSize, hdomainSize⟩ := lookup_noBuffers hdoc hfails
      obtain rfl : args.copied reply = r := Except.ok.inj (hcopied.symm.trans hr)
      obtain rfl : sizing' = sizing := Except.ok.inj (hsizing'.symm.trans hsizing)
      exact (dataLaw_iff hdoc hreply hnameSize hdomainSize).mp hlaw
  · intro h
    refine ⟨lookup_freed hdoc args, fun hfails hasks => ?_, fun hfails hasks => ?_⟩
    · obtain ⟨hnot, -⟩ | ⟨-, reply, hreply, hcopied⟩ := lookup_cases hdoc hasks
      · exact absurd hfails hnot
      · obtain ⟨sizing, hsizing, hnameSize, hdomainSize⟩ := lookup_noBuffers hdoc hfails
        exact ⟨_, sizing, hcopied, hsizing,
          (dataLaw_iff hdoc hreply hnameSize hdomainSize).mpr (h hfails hasks)⟩
    · obtain ⟨-, status, events, hstatus, -, hlookup⟩ | ⟨hall, -⟩ := lookup_cases hdoc hasks
      · exact ⟨status, events, hstatus, hlookup⟩
      · exact absurd hall hfails

/-! ## A system as documented -/

def contents (text : List WChar) : Nat → Byte := fun i => (bytes text).getD i 0

/-- No call fails. -/
def Account.answers (account : Account) : Os where
  injectFault := false
  sizing :=
    { nameChars := BitVec.ofNat 32 (account.name.length + 1)
      domainChars := BitVec.ofNat 32 (account.domain.length + 1)
      nameUse := 1
      name := fun _ => 0
      domain := fun _ => 0 }
  sizingError := .insufficientBuffer
  allocates := fun _ => true
  data := some
    { nameChars := BitVec.ofNat 32 account.name.length
      domainChars := BitVec.ofNat 32 account.domain.length
      nameUse := 1
      name := contents account.name
      domain := contents account.domain }
  dataError := .other

theorem reports_contents (h : text.length < 2 ^ 32) :
    Reports (BitVec.ofNat 32 text.length) (contents text) text where
  chars := by rw [BitVec.toNat_ofNat, Nat.mod_eq_of_lt h]
  source := fun i hi => List.getD_eq_getElem _ _ hi

theorem Account.answers_documented (hname : account.name.length + 1 < 2 ^ 32)
    (hdomain : account.domain.length + 1 < 2 ^ 32) : account.answers.Documented account where
  sizingError := rfl
  nameChars := by
    show (BitVec.ofNat 32 _).toNat = _
    rw [BitVec.toNat_ofNat, Nat.mod_eq_of_lt hname]
  domainChars := by
    show (BitVec.ofNat 32 _).toNat = _
    rw [BitVec.toNat_ofNat, Nat.mod_eq_of_lt hdomain]
  data := by
    rintro reply hreply
    obtain rfl := Option.some.inj hreply
    exact ⟨reports_contents (by omega), reports_contents (by omega)⟩

/-- The account `a` of the domain `b`. -/
def inDomain : Account where
  name := [0x61]
  domain := [0x62]

/-- The account `a`, as the domain of some accounts is empty. -/
def inNoDomain : Account := { inDomain with domain := [] }

/-- Room for one character and for three, with lengths from before. -/
def oneAndThree : Args where
  sid := true
  nameSize := true
  domainSize := true
  nameUse := true
  nameBuffer := some ⟨0, 2, some [0, 0], fun _ h => by cases h; rfl⟩
  domainBuffer := some ⟨6, 6, some [1, 0, 2, 0, 3, 0], fun _ h => by cases h; rfl⟩

theorem stringRight_of_short (hsome : (bufferOf string).isSome = true) (hne : text ≠ [])
    (hshort : byteLength text < 2 ^ 16) : StringRight text string where
  absent := fun hnone => by rw [hnone] at hsome; cases hsome
  empty := fun _ _ _ hempty => absurd hempty hne
  long := fun _ _ _ hlong => absurd hlong (Nat.not_le_of_lt hshort)

theorem lookup_right_inDomain : LookupLaw inDomain.answers inDomain oneAndThree := by
  refine (lookup_right_iff inDomain.answers inDomain oneAndThree
    (Account.answers_documented (by decide) (by decide))).mpr fun _ _ => ⟨?_, ?_, ?_⟩
  · exact stringRight_of_short rfl (by decide) (by decide)
  · exact stringRight_of_short rfl (by decide) (by decide)
  · rintro (⟨-, hlong⟩ | ⟨-, hlong⟩)
    · exact absurd hlong (by decide)
    · exact absurd hlong (by decide)

/-- The length of the domain that was there before is still there. -/
theorem lookup_wrong_inNoDomain :
    (∃ r, secLookupAccountSid inNoDomain.answers oneAndThree = .ok r ∧ r.status = .success ∧
      r.domainSize = some 0 ∧ r.domainBuffer.map (·.length) = some 6) ∧
    ¬ LookupLaw inNoDomain.answers inNoDomain oneAndThree := by
  have hlookup : ∃ r, secLookupAccountSid inNoDomain.answers oneAndThree = .ok r ∧
      r.status = .success ∧ r.domainSize = some 0 ∧ r.domainBuffer.map (·.length) = some 6 :=
    ⟨_, rfl, rfl, rfl, rfl⟩
  refine ⟨hlookup, fun h => ?_⟩
  have hfails : NothingFails inNoDomain.answers oneAndThree := ⟨rfl, rfl, fun _ => rfl, rfl⟩
  obtain ⟨r, hr, -, -, hsix⟩ := hlookup
  obtain ⟨r', sizing, hr', -, hlaw⟩ := h.data hfails (.inl rfl)
  obtain rfl : r = r' := Except.ok.inj (hr.symm.trans hr')
  obtain ⟨s, hs, -, hlength, -⟩ := hlaw.domain _ _ rfl rfl
  rw [hs] at hsix
  have hsame : s.length = 6 := Option.some.inj hsix
  rw [hsame] at hlength
  exact absurd hlength (by decide)

end Usersim.Se
