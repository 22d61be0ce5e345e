import Usersim.Memory.Winuser

/-!
# The path of a module (`module_winuser.cpp`)

`cxplat_get_module_path_from_address` gets the path of the module at an address into a buffer of its
own and returns it as a UTF-8 string of `cxplat_allocate`. The system is outside: `Os` has what it
answers to the calls. Zero stands for a null pointer.

* `modulePath_right_iff` — what each way out does with the buffer, the
  caller's string and its memory
-/

namespace Usersim.Cxplat.ModulePath

open Memory (nonPaged uninitialized cacheAligned)

open Memory.Winuser

/-- `MAX_PATH`, the number of characters of `path`. -/
def maxPath : Nat := 260

/-- `sizeof(path)`. -/
def pathLength : Nat := 2 * maxPath

/-- `CXPLAT_TAG_STRING`, which is `'tsxc'`. -/
def tagString : BitVec 32 := 0x74737863

/-- `CXPLAT_TAG_UTF8_STRING`, which is `'suxc'`. -/
def tagUtf8String : BitVec 32 := 0x73757863

/-- `cxplat_utf8_string_t`. -/
structure Utf8String where
  value : Pointer
  length : SizeT
deriving DecidableEq, Repr

/-- The answers of the system. -/
structure Os where
  /-- `GetModuleHandleExW` finds a module. -/
  getModuleHandleEx : Bool
  /-- The path of the module, or nothing if `GetModuleFileNameW` fails. -/
  moduleFileName : List WChar
  /-- The conversion from UTF-16 to UTF-8. -/
  utf8 : List WChar → List Byte
  /-- `WideCharToMultiByte` returns the size. -/
  sizes : Bool
  /-- `WideCharToMultiByte` converts. -/
  converts : Bool
  /-- What `cxplat_allocate` finds. -/
  memory : Memory.Winuser.Environment

/-- What `GetModuleFileNameW` writes of a path where it may write `n` characters. -/
def getModuleFileName (path : List WChar) (n : Nat) : List WChar := path.take (n - 1) ++ [0]

def wcslen (buffer : List WChar) : Nat := (buffer.takeWhile (· ≠ 0)).length

/-- What `WideCharToMultiByte` writes; nothing if it fails. -/
def wideCharToMultiByte (utf8 : List WChar → List Byte) (succeeds : Bool) (path : List WChar) :
    List Byte :=
  if succeeds then utf8 path else []

inductive Status where
  | success
  | notFound
  | noMemory
deriving DecidableEq, Repr

/-- How a call ends. -/
inductive Ended where
  | returned (status : Status)
  /-- `GetModuleFileNameW` has written behind `path`. -/
  | overrun
  | stopped (reason : Stop)
deriving DecidableEq, Repr

/-- A call of `cxplat_free`. -/
structure Freed where
  pointer : Pointer
  tag : BitVec 32
deriving DecidableEq, Repr

/-- What a call has done. -/
structure State where
  utf8Path : Utf8String
  /-- The number of characters that `GetModuleFileNameW` was asked for. -/
  asked : Option Nat
  /-- What was allocated, with the tag. -/
  allocated : Option (Allocation × BitVec 32)
  freed : List Freed

def State.init (utf8Path : Utf8String) : State where
  utf8Path := utf8Path
  asked := none
  allocated := none
  freed := []

/-- The block at a pointer, of the call or of the rest of the process. -/
def State.find (s : State) (blocks : Pointer → Option Allocation) (pointer : Pointer) :
    Option Allocation :=
  match s.allocated with
  | some (a, _) => if a.pointer = pointer then some a else blocks pointer
  | none => blocks pointer

/-- From the label `Done` on. -/
def done (build : Build) (blocks : Pointer → Option Allocation) (status : Status) (s : State) :
    Ended × State :=
  if status = .success ∨ s.utf8Path.value = 0 then (.returned status, s)
  else
    let freed : Freed := { pointer := s.utf8Path.value, tag := tagString }
    let s := { s with freed := freed :: s.freed }
    match s.find blocks s.utf8Path.value with
    | none => (.stopped .heapCorruption, s)
    | some a =>
      match cxplatFree build a nonPaged tagString with
      | .stopped reason => (.stopped reason, s)
      | .null | .returned _ =>
          (.returned status, { s with utf8Path := { s.utf8Path with value := 0 } })

/-- The second `WideCharToMultiByte` and the terminator, with the block in `value`. -/
def convert (build : Build) (os : Os) (blocks : Pointer → Option Allocation) (path : List WChar)
    (a : Allocation) (s : State) : Ended × State :=
  let bytes := wideCharToMultiByte os.utf8 os.converts path
  let written := { a with bytes := fun i => bytes[i]?.getD (a.bytes i) }
  if bytes = [] then
    done build blocks .noMemory { s with allocated := some (written, tagUtf8String) }
  else
    let last := s.utf8Path.length.toNat - 1
    let written := { written with bytes := fun i => if i = last then 0 else written.bytes i }
    done build blocks .success { s with allocated := some (written, tagUtf8String) }

/-- The size and the allocation of the UTF-8 string. -/
def allocateUtf8 (build : Build) (os : Os) (blocks : Pointer → Option Allocation)
    (path : List WChar) (s : State) : Ended × State :=
  let utf8Length := (wideCharToMultiByte os.utf8 os.sizes path).length
  if utf8Length = 0 then done build blocks .noMemory s
  else
    let length := BitVec.ofNat 64 (utf8Length + 1)
    match cxplatAllocate build os.memory nonPaged length tagUtf8String with
    | .null => done build blocks .noMemory { s with utf8Path := ⟨0, length⟩ }
    | .stopped reason =>
        (.stopped reason, { s with utf8Path := { s.utf8Path with length := length } })
    | .returned a => convert build os blocks path a { s with utf8Path := ⟨a.pointer, length⟩ }

def cxplatGetModulePathFromAddress (build : Build) (os : Os) (blocks : Pointer → Option Allocation)
    (utf8Path : Utf8String) : Ended × State :=
  let s := State.init utf8Path
  if !os.getModuleHandleEx then done build blocks .notFound s
  else
    let s := { s with asked := some pathLength }
    -- this way out does not go by `Done`
    if os.moduleFileName = [] then (.returned .notFound, s)
    else
      let written := getModuleFileName os.moduleFileName pathLength
      if maxPath < written.length then (.overrun, s)
      else
        let path := written ++ List.replicate (maxPath - written.length) 0
        allocateUtf8 build os blocks (path.take (wcslen path)) s

/-- `cxplat_free_utf8_string` of a string with a block: what is passed to `free`, and the string. -/
def cxplatFreeUtf8String (build : Build) (a : Allocation) (_string : Utf8String) :
    Outcome (BlockPointer × Utf8String) :=
  (cxplatFree build a nonPaged tagUtf8String).map fun block => (block, { value := 0, length := 0 })

/-! ## What a call is for -/

/-- What the documentation says: file names have no null character, a character of UTF-16 needs
three bytes of UTF-8 at most, and a block is inside the address space. -/
structure Os.Documented (build : Build) (os : Os) : Prop where
  fileName : ∀ c ∈ os.moduleFileName, c ≠ 0
  utf8_length : ∀ path, (os.utf8 path).length ≤ 3 * path.length
  block : ∀ reply, os.memory.reply = some reply → 0 < reply.start.toNat ∧
    reply.start.toNat + (build.pointerOffset .plain).toNat +
      (os.utf8 os.moduleFileName).length + 1 ≤
      addressSpaceEnd

def AsksWithinBuffer (r : Ended × State) : Prop := ∀ n, r.2.asked = some n → n ≤ maxPath

/-- A failure gives back what the call has allocated and leaves no value. -/
structure Clean (r : Ended × State) : Prop where
  returns : ∃ status, r.1 = .returned status
  own : ∀ f ∈ r.2.freed, ∃ a, r.2.allocated = some (a, f.tag) ∧ a.pointer = f.pointer
  value : r.2.utf8Path.value = 0

/-- The value is a block with the path and a terminator that can be freed. -/
structure Holds (build : Build) (os : Os) (r : Ended × State) (a : Allocation) : Prop where
  value : r.2.utf8Path.value = a.pointer
  length : r.2.utf8Path.length.toNat = (os.utf8 os.moduleFileName).length + 1
  block : a.block.length = build.pointerOffset .plain + r.2.utf8Path.length
  path : ∀ i : Nat, ∀ h : i < (os.utf8 os.moduleFileName).length,
    a.bytes i = (os.utf8 os.moduleFileName)[i]
  terminator : a.bytes (os.utf8 os.moduleFileName).length = 0
  freed : r.2.freed = []
  free : cxplatFreeUtf8String build a r.2.utf8Path =
    .returned (a.block.pointer, { value := 0, length := 0 })

def CleanFailure (r : Ended × State) : Prop := r.1 ≠ .returned .success → Clean r

def HoldsPath (build : Build) (os : Os) (r : Ended × State) : Prop :=
  r.1 = .returned .success → ∃ a tag, r.2.allocated = some (a, tag) ∧ Holds build os r a

/-- All three. -/
structure Right (build : Build) (os : Os) (r : Ended × State) : Prop where
  asks : AsksWithinBuffer r
  clean : CleanFailure r
  holds : HoldsPath build os r

/-- The size of the UTF-8 string that is asked for. -/
def Os.size (os : Os) : SizeT := BitVec.ofNat 64 ((os.utf8 os.moduleFileName).length + 1)

/-- The calls of the system in front of the allocation. -/
structure Reaches (os : Os) : Prop where
  handle : os.getModuleHandleEx = true
  name : os.moduleFileName ≠ []
  fits : os.moduleFileName.length < maxPath
  sized : wideCharToMultiByte os.utf8 os.sizes os.moduleFileName ≠ []

/-- One of these calls fails. -/
def FailsEarly (os : Os) : Prop :=
  os.getModuleHandleEx = false ∨ os.moduleFileName = [] ∨
    os.moduleFileName.length < maxPath ∧ wideCharToMultiByte os.utf8 os.sizes os.moduleFileName = []

/-- The failures that are not clean. -/
inductive Unclean (build : Build) (os : Os) (prior : Utf8String) : Prop where
  /-- The prior value stays or is freed. -/
  | prior (hfails : FailsEarly os) (hvalue : prior.value ≠ 0)
  | overrun (hhandle : os.getModuleHandleEx = true) (hlong : maxPath ≤ os.moduleFileName.length)
  /-- The block is freed with the tag of other strings. -/
  | tag (hreaches : Reaches os) (hasks : asks build os.memory os.size = true)
    (hconverts : os.converts = false)

variable {build : Build} {os : Os} {blocks : Pointer → Option Allocation} {prior : Utf8String}

/-! ## The way out -/

theorem done_success (build : Build) (blocks : Pointer → Option Allocation) (s : State) :
    done build blocks .success s = (.returned .success, s) :=
  if_pos (.inl rfl)

theorem done_null (status : Status) {s : State} (h : s.utf8Path.value = 0) :
    done build blocks status s = (.returned status, s) :=
  if_pos (.inr h)

/-- A value that is not null is given to `cxplat_free` with the tag of other strings. -/
theorem freed_mem_done (build : Build) (blocks : Pointer → Option Allocation)
    {status : Status} (hstatus : status ≠ .success) {s : State}
    (hvalue : s.utf8Path.value ≠ 0) :
    ⟨s.utf8Path.value, tagString⟩ ∈ (done build blocks status s).2.freed ∧
      (done build blocks status s).2.allocated = s.allocated := by
  rw [done, if_neg fun h => h.elim hstatus hvalue]
  dsimp only
  split
  · exact ⟨List.mem_cons_self, rfl⟩
  · split <;> exact ⟨List.mem_cons_self, rfl⟩

theorem done_ne_success {status : Status} (hstatus : status ≠ .success) (s : State) :
    (done build blocks status s).1 ≠ .returned .success := by
  unfold done
  split
  · simpa using hstatus
  · dsimp only
    split
    · simp
    · split
      · simp
      · simpa using hstatus
      · simpa using hstatus

theorem not_cleanFailure_done {status : Status} (hstatus : status ≠ .success) {s : State}
    (hvalue : s.utf8Path.value ≠ 0) (hallocated : ∀ a, s.allocated ≠ some (a, tagString)) :
    ¬ CleanFailure (done build blocks status s) := by
  intro h
  obtain ⟨hmem, hkept⟩ := freed_mem_done build blocks hstatus hvalue
  obtain ⟨a, ha, -⟩ := (h (done_ne_success hstatus s)).own _ hmem
  exact hallocated a (hkept ▸ ha)

theorem cleanFailure_done_iff {status : Status} (hstatus : status ≠ .success) {s : State}
    (hallocated : s.allocated = none) (hfreed : s.freed = []) :
    CleanFailure (done build blocks status s) ↔ s.utf8Path.value = 0 := by
  constructor
  · intro h
    by_contra hvalue
    refine not_cleanFailure_done hstatus hvalue (fun a ha => ?_) h
    rw [hallocated] at ha
    cases ha
  · intro hvalue _
    rw [done_null status hvalue]
    refine ⟨⟨status, rfl⟩, fun f hf => ?_, hvalue⟩
    rw [hfreed] at hf
    cases hf

/-! ## The path buffer -/

theorem wcslen_append_zero {path : List WChar} (h : ∀ c ∈ path, c ≠ 0) (rest : List WChar) :
    wcslen (path ++ 0 :: rest) = path.length := by
  rw [wcslen, List.takeWhile_append_of_pos (by simpa using h)]
  simp

theorem getModuleFileName_of_lt {path : List WChar} (h : path.length < maxPath) :
    getModuleFileName path pathLength = path ++ [0] := by
  unfold maxPath at h
  rw [getModuleFileName, List.take_of_length_le (by simp only [pathLength, maxPath]; omega)]

/-- What does not fit is longer than the buffer, which is half of what was asked for. -/
theorem getModuleFileName_of_le {path : List WChar} (h : maxPath ≤ path.length) :
    maxPath < (getModuleFileName path pathLength).length := by
  simp only [getModuleFileName, pathLength, maxPath, List.length_append, List.length_take,
    List.length_singleton] at *
  omega

/-! ## The ways out in front of the allocation -/

theorem path_noModule (h : os.getModuleHandleEx = false) :
    cxplatGetModulePathFromAddress build os blocks prior =
      done build blocks .notFound (.init prior) := by
  simp [cxplatGetModulePathFromAddress, h]

theorem path_noName (hhandle : os.getModuleHandleEx = true) (h : os.moduleFileName = []) :
    cxplatGetModulePathFromAddress build os blocks prior =
      (.returned .notFound, { State.init prior with asked := some pathLength }) := by
  simp [cxplatGetModulePathFromAddress, hhandle, h]

theorem path_overrun (hhandle : os.getModuleHandleEx = true)
    (h : maxPath ≤ os.moduleFileName.length) :
    cxplatGetModulePathFromAddress build os blocks prior =
      (.overrun, { State.init prior with asked := some pathLength }) := by
  have hne : os.moduleFileName ≠ [] := by
    intro he
    rw [he] at h
    exact absurd h (by decide)
  simp [cxplatGetModulePathFromAddress, hhandle, hne, getModuleFileName_of_le h]

theorem path_fits (hdoc : os.Documented build) (hhandle : os.getModuleHandleEx = true)
    (hname : os.moduleFileName ≠ []) (h : os.moduleFileName.length < maxPath) :
    cxplatGetModulePathFromAddress build os blocks prior =
      allocateUtf8 build os blocks os.moduleFileName
        { State.init prior with asked := some pathLength } := by
  have hlength : ¬ maxPath < (os.moduleFileName ++ [0]).length := by
    rw [List.length_append, List.length_singleton]
    omega
  simp only [cxplatGetModulePathFromAddress, hhandle, Bool.not_true, Bool.false_eq_true, if_false,
    if_neg hname, getModuleFileName_of_lt h, if_neg hlength]
  rw [List.append_assoc, List.singleton_append, wcslen_append_zero hdoc.fileName, List.take_left]

theorem asked_done (status : Status) (s : State) :
    (done build blocks status s).2.asked = s.asked := by
  unfold done
  split
  · rfl
  · dsimp only
    split
    · rfl
    · split <;> rfl

/-! ## The block -/

theorem size_toNat (hdoc : os.Documented build) (hfits : os.moduleFileName.length < maxPath) :
    os.size.toNat = (os.utf8 os.moduleFileName).length + 1 := by
  have hlength := hdoc.utf8_length os.moduleFileName
  unfold maxPath at hfits
  rw [Os.size, BitVec.toNat_ofNat, Nat.mod_eq_of_lt (by omega)]

theorem size_ne (hdoc : os.Documented build) (hfits : os.moduleFileName.length < maxPath) :
    os.size ≠ 0#64 := by
  intro h
  have htoNat := size_toNat hdoc hfits
  rw [h] at htoNat
  simp at htoNat

theorem allocate_null (hdoc : os.Documented build) (hfits : os.moduleFileName.length < maxPath)
    (h : asks build os.memory os.size = false) :
    cxplatAllocate build os.memory nonPaged os.size tagUtf8String = .null := by
  have hne := size_ne hdoc hfits
  unfold asks at h
  unfold cxplatAllocate
  rw [if_neg (by simp [hne])]
  split
  · rfl
  · rename_i hrejected
    have hreply : os.memory.reply = none := by simpa [hne, hrejected] using h
    rw [hreply]

/-- A block that the call gets: it is freed with the tag it was allocated with. -/
structure Block (build : Build) (os : Os) (a : Allocation) : Prop where
  pointer : a.pointer ≠ 0
  length : a.block.length = build.pointerOffset .plain + os.size
  header : a.header.all fun header => header.agrees nonPaged tagUtf8String
  start : memoryBlockFrom build nonPaged a.pointer = a.block.pointer

theorem block_filled (hdoc : os.Documented build) (hfits : os.moduleFileName.length < maxPath)
    {reply : Reply} (hreply : os.memory.reply = some reply) (header : Option Memory.Header)
    (hheader : header.all fun header => header.agrees nonPaged tagUtf8String) :
    ∃ a, (reply.allocation build nonPaged
        (build.pointerOffset (allocatorFor nonPaged) + os.size) header).filled build nonPaged 0
          os.size = .returned a ∧ Block build os a := by
  have hsize := size_toNat hdoc hfits
  have hplain : allocatorFor nonPaged = .plain := by decide
  obtain ⟨hpos, hend⟩ := hdoc.block reply hreply
  have hpointer : (reply.start + build.pointerOffset .plain).toNat =
      reply.start.toNat + (build.pointerOffset .plain).toNat := by
    unfold addressSpaceEnd at hend
    rw [BitVec.toNat_add]
    omega
  obtain ⟨-, hfault⟩ | ⟨bytes, hfilled⟩ := filled_cases build nonPaged
    (reply.allocation build nonPaged (build.pointerOffset (allocatorFor nonPaged) + os.size) header)
    0 os.size
  · simp only [Reply.allocation, hplain] at hfault
    omega
  · refine ⟨_, hfilled, ?_, by rw [← hplain]; rfl, hheader, ?_⟩
    · intro hzero
      simp only [Reply.allocation, hplain] at hzero
      rw [hzero] at hpointer
      simp at hpointer
      omega
    · simp only [memoryBlockFrom, Reply.allocation]
      rw [BitVec.add_sub_cancel]

theorem allocate_block (hdoc : os.Documented build) (hfits : os.moduleFileName.length < maxPath)
    (h : asks build os.memory os.size = true) :
    ∃ a, cxplatAllocate build os.memory nonPaged os.size tagUtf8String = .returned a ∧
      Block build os a := by
  have hne := size_ne hdoc hfits
  simp only [asks, Bool.and_eq_true, Bool.not_eq_true'] at h
  obtain ⟨⟨-, hrejected⟩, hsome⟩ := h
  obtain ⟨reply, hreply⟩ := Option.isSome_iff_exists.mp hsome
  unfold cxplatAllocate
  rw [if_neg (by simp [hne]), if_neg (by simp [hrejected]), hreply]
  cases build
  · exact block_filled hdoc hfits hreply _ rfl
  · exact block_filled hdoc hfits hreply _ rfl

/-! ## What is asked for -/

theorem asked_allocateUtf8 (path : List WChar) (s : State) :
    (allocateUtf8 build os blocks path s).2.asked = s.asked := by
  unfold allocateUtf8
  dsimp only
  split
  · exact asked_done _ _
  · split
    · exact asked_done _ _
    · rfl
    · unfold convert
      dsimp only
      split
      · exact asked_done _ _
      · exact asked_done _ _

/-- Twice the number of characters is asked for wherever there is a module. -/
theorem asksWithinBuffer_iff (hdoc : os.Documented build) :
    AsksWithinBuffer (cxplatGetModulePathFromAddress build os blocks prior) ↔
      os.getModuleHandleEx = false := by
  have hmore : ¬ pathLength ≤ maxPath := by decide
  cases hhandle : os.getModuleHandleEx with
  | false =>
    refine iff_of_true (fun n hn => ?_) rfl
    rw [path_noModule hhandle, asked_done] at hn
    cases hn
  | true =>
    refine iff_of_false (fun h => hmore (h pathLength ?_)) (by decide)
    by_cases hname : os.moduleFileName = []
    · rw [path_noName hhandle hname]
    · by_cases hfits : os.moduleFileName.length < maxPath
      · rw [path_fits hdoc hhandle hname hfits, asked_allocateUtf8]
      · rw [path_overrun hhandle (Nat.le_of_not_lt hfits)]

/-! ## The ways out behind the size -/

theorem allocateUtf8_noSize {path : List WChar}
    (h : wideCharToMultiByte os.utf8 os.sizes path = []) (s : State) :
    allocateUtf8 build os blocks path s = done build blocks .noMemory s := by
  unfold allocateUtf8
  exact if_pos (by rw [h, List.length_nil])

theorem bytes_of_reaches (h : Reaches os) :
    wideCharToMultiByte os.utf8 os.sizes os.moduleFileName = os.utf8 os.moduleFileName ∧
      os.utf8 os.moduleFileName ≠ [] := by
  have hsized := h.sized
  cases hsizes : os.sizes with
  | false => simp [wideCharToMultiByte, hsizes] at hsized
  | true => simpa [wideCharToMultiByte, hsizes] using hsized

/-- The string with a pointer and the size that is asked for. -/
def State.sized (prior : Utf8String) (os : Os) (pointer : Pointer) : State :=
  { State.init prior with asked := some pathLength, utf8Path := ⟨pointer, os.size⟩ }

theorem path_null (hdoc : os.Documented build) (h : Reaches os)
    (hasks : asks build os.memory os.size = false) :
    cxplatGetModulePathFromAddress build os blocks prior =
      done build blocks .noMemory (.sized prior os 0) := by
  obtain ⟨hbytes, hne⟩ := bytes_of_reaches h
  have hnull := allocate_null hdoc h.fits hasks
  rw [Os.size] at hnull
  rw [path_fits hdoc h.handle h.name h.fits, allocateUtf8, hbytes,
    if_neg (by simpa using hne)]
  simp only [hnull]
  rfl

theorem path_block (hdoc : os.Documented build) (h : Reaches os) {a : Allocation}
    (ha : cxplatAllocate build os.memory nonPaged os.size tagUtf8String = .returned a) :
    cxplatGetModulePathFromAddress build os blocks prior =
      convert build os blocks os.moduleFileName a (.sized prior os a.pointer) := by
  obtain ⟨hbytes, hne⟩ := bytes_of_reaches h
  rw [Os.size] at ha
  rw [path_fits hdoc h.handle h.name h.fits, allocateUtf8, hbytes,
    if_neg (by simpa using hne)]
  simp only [ha]
  rfl

/-- The block with a string and its terminator. -/
def withString (a : Allocation) (bytes : List Byte) : Allocation :=
  { a with bytes := fun i => if i = bytes.length then 0 else bytes[i]?.getD (a.bytes i) }

/-- What a call that succeeds leaves. -/
def State.holding (prior : Utf8String) (os : Os) (a : Allocation) : State :=
  { State.sized prior os a.pointer with
    allocated := some (withString a (os.utf8 os.moduleFileName), tagUtf8String) }

theorem convert_success (hdoc : os.Documented build) (h : Reaches os)
    (hconverts : os.converts = true)
    (a : Allocation) :
    convert build os blocks os.moduleFileName a (.sized prior os a.pointer) =
      (.returned .success, .holding prior os a) := by
  have hbytes : wideCharToMultiByte os.utf8 os.converts os.moduleFileName =
      os.utf8 os.moduleFileName := if_pos hconverts
  have hlast : (State.sized prior os a.pointer).utf8Path.length.toNat - 1 =
      (os.utf8 os.moduleFileName).length := by
    show os.size.toNat - 1 = _
    rw [size_toNat hdoc h.fits, Nat.add_sub_cancel]
  rw [convert, hbytes, if_neg (bytes_of_reaches h).2, hlast]
  exact done_success _ _ _

theorem holds_holding (hdoc : os.Documented build) (h : Reaches os) {a : Allocation}
    (ha : Block build os a) :
    Holds build os (.returned .success, .holding prior os a)
      (withString a (os.utf8 os.moduleFileName)) where
  value := rfl
  length := size_toNat hdoc h.fits
  block := ha.length
  path := by
    intro i hi
    simp only [withString]
    rw [if_neg (Nat.ne_of_lt hi), List.getElem?_eq_getElem hi, Option.getD_some]
  terminator := if_pos rfl
  freed := rfl
  free := by
    rw [cxplatFreeUtf8String, cxplatFree, if_pos (by exact ha.header)]
    exact congrArg (fun p => Outcome.returned (p, _)) ha.start

theorem convert_failure (build : Build) (blocks : Pointer → Option Allocation)
    (hconverts : os.converts = false) (path : List WChar) (a : Allocation)
    (s : State) : ∃ b, convert build os blocks path a s =
      done build blocks .noMemory { s with allocated := some (b, tagUtf8String) } := by
  have hbytes : wideCharToMultiByte os.utf8 os.converts path = [] := if_neg (by simp [hconverts])
  rw [convert, hbytes, if_pos rfl]
  exact ⟨_, rfl⟩

/-- A block whose conversion fails is freed with the wrong tag. -/
theorem not_cleanFailure_convert {a : Allocation} (ha : Block build os a)
    (hconverts : os.converts = false) :
    ¬ CleanFailure (convert build os blocks os.moduleFileName a (.sized prior os a.pointer)) := by
  obtain ⟨b, hb⟩ := convert_failure build blocks hconverts os.moduleFileName a
    (.sized prior os a.pointer)
  rw [hb]
  refine not_cleanFailure_done (by decide) ha.pointer fun c hc => ?_
  simp [tagUtf8String, tagString] at hc

/-! ## The three parts -/

/-- A call fails in front of the allocation, or leaves the buffer, or gets to the allocation. -/
theorem early_or_overrun_or_reaches (os : Os) : FailsEarly os ∨
    (os.getModuleHandleEx = true ∧ maxPath ≤ os.moduleFileName.length) ∨ Reaches os := by
  cases hhandle : os.getModuleHandleEx with
  | false => exact .inl (.inl hhandle)
  | true =>
    by_cases hname : os.moduleFileName = []
    · exact .inl (.inr (.inl hname))
    · by_cases hfits : os.moduleFileName.length < maxPath
      · by_cases hsized : wideCharToMultiByte os.utf8 os.sizes os.moduleFileName = []
        · exact .inl (.inr (.inr ⟨hfits, hsized⟩))
        · exact .inr (.inr ⟨hhandle, hname, hfits, hsized⟩)
      · exact .inr (.inl ⟨rfl, Nat.le_of_not_lt hfits⟩)

theorem FailsEarly.not_long (h : FailsEarly os) (hhandle : os.getModuleHandleEx = true) :
    ¬ maxPath ≤ os.moduleFileName.length := by
  intro hlong
  rcases h with h | h | ⟨h, -⟩
  · simp [hhandle] at h
  · rw [h] at hlong
    exact absurd hlong (by decide)
  · omega

theorem FailsEarly.not_reaches (h : FailsEarly os) : ¬ Reaches os := by
  rintro ⟨hhandle, hname, -, hsized⟩
  rcases h with h | h | ⟨-, h⟩
  · simp [hhandle] at h
  · exact hname h
  · exact hsized h

theorem FailsEarly.ended (hdoc : os.Documented build) (h : FailsEarly os) :
    (cxplatGetModulePathFromAddress build os blocks prior).1 ≠ .returned .success ∧
      (CleanFailure (cxplatGetModulePathFromAddress build os blocks prior) ↔ prior.value = 0) := by
  cases hhandle : os.getModuleHandleEx with
  | false =>
    rw [path_noModule hhandle]
    exact ⟨done_ne_success (by decide) _, cleanFailure_done_iff (by decide) rfl rfl⟩
  | true =>
    by_cases hname : os.moduleFileName = []
    · rw [path_noName hhandle hname]
      refine ⟨by simp, fun hclean => (hclean (by simp)).value, fun hvalue _ => ?_⟩
      exact ⟨⟨_, rfl⟩, fun f hf => absurd hf List.not_mem_nil, hvalue⟩
    · obtain ⟨hfits, hsized⟩ : os.moduleFileName.length < maxPath ∧
          wideCharToMultiByte os.utf8 os.sizes os.moduleFileName = [] := by
        simpa [FailsEarly, hhandle, hname] using h
      rw [path_fits hdoc hhandle hname hfits, allocateUtf8_noSize hsized]
      exact ⟨done_ne_success (by decide) _, cleanFailure_done_iff (by decide) rfl rfl⟩

theorem FailsEarly.unclean_iff (h : FailsEarly os) : Unclean build os prior ↔ prior.value ≠ 0 := by
  constructor
  · rintro (⟨-, hvalue⟩ | ⟨hhandle, hlong⟩ | ⟨hreaches, -, -⟩)
    · exact hvalue
    · exact absurd hlong (h.not_long hhandle)
    · exact absurd hreaches h.not_reaches
  · exact fun hvalue => .prior h hvalue

theorem Reaches.unclean_iff (h : Reaches os) : Unclean build os prior ↔
    asks build os.memory os.size = true ∧ os.converts = false := by
  constructor
  · rintro (⟨hearly, -⟩ | ⟨-, hlong⟩ | ⟨-, hasks, hconverts⟩)
    · exact absurd h hearly.not_reaches
    · exact absurd hlong (Nat.not_le_of_lt h.fits)
    · exact ⟨hasks, hconverts⟩
  · exact fun ⟨hasks, hconverts⟩ => .tag h hasks hconverts

theorem cleanFailure_iff (hdoc : os.Documented build) :
    CleanFailure (cxplatGetModulePathFromAddress build os blocks prior) ↔
      ¬ Unclean build os prior := by
  obtain hearly | ⟨hhandle, hlong⟩ | hreaches := early_or_overrun_or_reaches os
  · rw [(hearly.ended hdoc).2, hearly.unclean_iff, not_not]
  · rw [path_overrun hhandle hlong]
    refine iff_of_false (fun hclean => ?_) (fun hunclean => hunclean (.overrun hhandle hlong))
    obtain ⟨status, hstatus⟩ := (hclean (by simp)).returns
    cases hstatus
  · rw [hreaches.unclean_iff]
    cases hasks : asks build os.memory os.size with
    | false =>
      rw [path_null hdoc hreaches hasks]
      exact iff_of_true ((cleanFailure_done_iff (by decide) rfl rfl).mpr rfl) (by simp)
    | true =>
      obtain ⟨a, hallocate, ha⟩ := allocate_block hdoc hreaches.fits hasks
      rw [path_block hdoc hreaches hallocate]
      cases hconverts : os.converts with
      | false => exact iff_of_false (not_cleanFailure_convert ha hconverts) (by simp)
      | true =>
        rw [convert_success hdoc hreaches hconverts]
        exact iff_of_true (fun hne => absurd rfl hne) (by simp)

theorem holdsPath (hdoc : os.Documented build) :
    HoldsPath build os (cxplatGetModulePathFromAddress build os blocks prior) := by
  intro hsuccess
  obtain hearly | ⟨hhandle, hlong⟩ | hreaches := early_or_overrun_or_reaches os
  · exact absurd hsuccess (hearly.ended hdoc).1
  · rw [path_overrun hhandle hlong] at hsuccess
    cases hsuccess
  · cases hasks : asks build os.memory os.size with
    | false =>
      rw [path_null hdoc hreaches hasks] at hsuccess
      exact absurd hsuccess (done_ne_success (by decide) _)
    | true =>
      obtain ⟨a, hallocate, ha⟩ := allocate_block hdoc hreaches.fits hasks
      rw [path_block hdoc hreaches hallocate] at hsuccess ⊢
      cases hconverts : os.converts with
      | false =>
        obtain ⟨b, hb⟩ := convert_failure build blocks hconverts os.moduleFileName a _
        rw [hb] at hsuccess
        exact absurd hsuccess (done_ne_success (by decide) _)
      | true =>
        rw [convert_success hdoc hreaches hconverts]
        exact ⟨_, _, rfl, holds_holding hdoc hreaches ha⟩

/-- The call is right as a whole where there is no module and no prior value. A call that succeeds
gives a block as it should be, but has asked for more characters than there is room for; the
failures that are not clean are of three kinds. -/
theorem modulePath_right_iff (build : Build) (os : Os) (blocks : Pointer → Option Allocation)
    (prior : Utf8String) (hdoc : os.Documented build) :
    (Right build os (cxplatGetModulePathFromAddress build os blocks prior) ↔
      os.getModuleHandleEx = false ∧ prior.value = 0) ∧
    (AsksWithinBuffer (cxplatGetModulePathFromAddress build os blocks prior) ↔
      os.getModuleHandleEx = false) ∧
    (CleanFailure (cxplatGetModulePathFromAddress build os blocks prior) ↔
      ¬ Unclean build os prior) ∧
    HoldsPath build os (cxplatGetModulePathFromAddress build os blocks prior) := by
  refine ⟨⟨fun h => ?_, fun ⟨hhandle, hvalue⟩ => ?_⟩, asksWithinBuffer_iff hdoc,
    cleanFailure_iff hdoc, holdsPath hdoc⟩
  · have hhandle := (asksWithinBuffer_iff hdoc).mp h.asks
    exact ⟨hhandle, ((FailsEarly.ended hdoc (.inl hhandle)).2).mp h.clean⟩
  · exact ⟨(asksWithinBuffer_iff hdoc).mpr hhandle,
      ((FailsEarly.ended hdoc (.inl hhandle)).2).mpr hvalue, holdsPath hdoc⟩

/-! ## Two addresses -/

/-- An address in a module with the path `a.d`. -/
def inModule : Os where
  getModuleHandleEx := true
  moduleFileName := [0x61, 0x2e, 0x64]
  utf8 := fun path => path.map (BitVec.setWidth 8)
  sizes := true
  converts := true
  memory :=
    { memoryLimit := 0x1000
      injectFault := false
      reply := some { start := 0x10000, bytes := fun _ => 0 } }

/-- An address in no module. -/
def inNoModule : Os := { inModule with getModuleHandleEx := false }

theorem inModule_documented : inModule.Documented .debug where
  fileName := by simp [inModule]
  utf8_length := by
    intro path
    show (path.map _).length ≤ _
    rw [List.length_map]
    omega
  block := by
    intro reply hreply
    obtain rfl := Option.some.inj hreply
    decide +kernel

theorem modulePath_right_inModule :
    (cxplatGetModulePathFromAddress .debug inModule (fun _ => none) ⟨0xcccc, 0⟩).1 =
        .returned .success ∧
      HoldsPath .debug inModule
        (cxplatGetModulePathFromAddress .debug inModule (fun _ => none) ⟨0xcccc, 0⟩) :=
  ⟨by decide +kernel,
    (modulePath_right_iff .debug inModule (fun _ => none) ⟨0xcccc, 0⟩ inModule_documented).2.2.2⟩

/-- More characters are asked for than there is room for, and the value of the caller is freed. -/
theorem modulePath_wrong :
    (cxplatGetModulePathFromAddress .debug inModule (fun _ => none) ⟨0, 0⟩).2.asked = some 520 ∧
      ¬ Right .debug inModule
        (cxplatGetModulePathFromAddress .debug inModule (fun _ => none) ⟨0, 0⟩) ∧
      (cxplatGetModulePathFromAddress .debug inNoModule (fun _ => none) ⟨0xcccc, 0⟩).2.freed =
        [⟨0xcccc, tagString⟩] ∧
      ¬ Right .debug inNoModule
        (cxplatGetModulePathFromAddress .debug inNoModule (fun _ => none) ⟨0xcccc, 0⟩) := by
  refine ⟨by decide +kernel, fun h => ?_, by decide +kernel, fun h => ?_⟩
  · have hnone := (asksWithinBuffer_iff inModule_documented).mp h.asks
    exact absurd hnone (by decide)
  · have hclean := h.clean
    rw [path_noModule rfl] at hclean
    exact not_cleanFailure_done (by decide) (by decide) (fun a ha => by cases ha) hclean

end Usersim.Cxplat.ModulePath
