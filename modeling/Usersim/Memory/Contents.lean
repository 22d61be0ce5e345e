import Usersim.Memory.Winkernel

/-!
# What is read back from a block

A caller that allocates a block, writes to it, resizes it and frees it reads back the bytes that
were written and not cut off since, and zero where there are none (`Written`). Both
implementations keep this up for flags without `CXPLAT_POOL_FLAG_UNINITIALIZED`, the one by
clearing the tail of a block that the allocator has moved with its header, the other by copying to
a block that was cleared.

* `contents_preserved` — what is read back after any sequence of calls, in both
-/

namespace Usersim.Memory.Contents

open Lib Winuser

/-- What the caller does. -/
inductive Op where
  | allocate (size : SizeT) (tag : BitVec 32)
  | write (i : Nat) (value : Byte)
  | reallocate (newSize : SizeT) (tag : BitVec 32)
  | free (tag : BitVec 32)

/-- What the caller does, and what the allocators of both platforms answer. -/
structure Action where
  op : Op
  user : Environment
  kernel : Option Bytes

/-! ## What was written -/

/-- A block by what its caller has written to it and not cut off. -/
structure Written where
  size : Nat
  value : Nat → Option Byte

/-- Byte `i` as it should be read; `none` is outside. -/
def Written.read (w : Written) (i : Nat) : Option Byte :=
  if i < w.size then some ((w.value i).getD 0) else none

def Written.step : Option Written → Op → Option Written
  | none, .allocate size _ => some { size := size.toNat, value := fun _ => none }
  | some w, .write i value => some { w with value := Function.update w.value i (some value) }
  | some w, .reallocate newSize _ =>
    some { size := newSize.toNat, value := fun i => if i < newSize.toNat then w.value i else none }
  | some _, .free _ => none
  | w, _ => w

/-- After the calls and writes of a sequence. -/
def Written.after (actions : List Action) : Option Written :=
  actions.foldl (fun w a => Written.step w a.op) none

/-! ## The two implementations -/

/-- A block in user mode, with the size its caller knows. -/
structure UserBlock where
  memory : Allocation
  size : SizeT

/-- A call that succeeds, or a write inside the block. The caller passes the size of the block. -/
def userStep (build : Build) (poolFlags : PoolFlags) (s : Option UserBlock) (a : Action) :
    Option (Option UserBlock) :=
  match s, a.op with
  | none, .allocate size tag =>
    match Winuser.cxplatAllocate build a.user poolFlags size tag with
    | .returned memory => some (some { memory := memory, size := size })
    | .null | .stopped _ => none
  | some b, .write i value =>
    if i < b.size.toNat then
      some (some { b with
        memory := { b.memory with bytes := Function.update b.memory.bytes i value } })
    else none
  | some b, .reallocate newSize tag =>
    match Winuser.cxplatReallocate build a.user b.memory poolFlags b.size newSize tag with
    | .returned memory => some (some { memory := memory, size := newSize })
    | .null | .stopped _ => none
  | some b, .free tag =>
    match Winuser.cxplatFree build b.memory poolFlags tag with
    | .returned _ => some none
    | .null | .stopped _ => none
  | _, _ => none

def UserBlock.read (b : UserBlock) (i : Nat) : Option Byte :=
  if i < b.size.toNat then some (b.memory.bytes i) else none

structure KernelBlock where
  memory : Winkernel.PoolBlock
  size : SizeT

def kernelStep (poolFlags : PoolFlags) (s : Option KernelBlock) (a : Action) :
    Option (Option KernelBlock) :=
  match s, a.op with
  | none, .allocate size tag =>
    (Winkernel.cxplatAllocate a.kernel poolFlags size tag).map fun memory =>
      some { memory := memory, size := size }
  | some b, .write i value =>
    if i < b.size.toNat then
      some (some { b with
        memory := { b.memory with bytes := Function.update b.memory.bytes i value } })
    else none
  | some b, .reallocate newSize tag =>
    (Winkernel.cxplatReallocate a.kernel b.memory poolFlags b.size newSize tag).map fun memory =>
      some { memory := memory, size := newSize }
  | some b, .free tag => (Winkernel.cxplatFree (some b.memory) tag).map fun _ => none
  | _, _ => none

def KernelBlock.read (b : KernelBlock) (i : Nat) : Option Byte :=
  if i < b.size.toNat then some (b.memory.bytes i) else none

/-! ## Blocks that read as they should -/

variable {bytes bytes' : Bytes} {n m : Nat} {w : Written}

/-- The first `n` bytes are those that were written, and zero elsewhere. -/
structure Shows (bytes : Bytes) (n : Nat) (w : Written) : Prop where
  size : w.size = n
  same : ∀ i < n, bytes i = (w.value i).getD 0
  cut : ∀ i, n ≤ i → w.value i = none

theorem shows_cleared (h : ∀ i < n, bytes i = 0) :
    Shows bytes n { size := n, value := fun _ => none } :=
  ⟨rfl, h, fun _ _ => rfl⟩

theorem Shows.write (h : Shows bytes n w) {i : Nat} (hi : i < n) (value : Byte) :
    Shows (Function.update bytes i value) n
      { w with value := Function.update w.value i (some value) } := by
  refine ⟨h.size, fun j hj => ?_, fun j hj => ?_⟩
  · by_cases hji : j = i
    · subst hji
      simp
    · simpa [hji] using h.same j hj
  · have hji : j ≠ i := by omega
    simpa [hji] using h.cut j hj

/-- The bytes that stay are kept, and the new ones are clear. -/
theorem Shows.resize (h : Shows bytes n w) (hkept : ∀ i < n, i < m → bytes' i = bytes i)
    (hnew : ∀ i, n ≤ i → i < m → bytes' i = 0) :
    Shows bytes' m { size := m, value := fun i => if i < m then w.value i else none } := by
  refine ⟨rfl, fun i hi => ?_, fun i hi => if_neg (by omega)⟩
  dsimp only
  rw [if_pos hi]
  by_cases hold : i < n
  · rw [hkept i hold hi, h.same i hold]
  · rw [hnew i (by omega) hi, h.cut i (by omega)]
    rfl

theorem Shows.read_eq (h : Shows bytes n w) (i : Nat) :
    (if i < n then some (bytes i) else none) = w.read i := by
  unfold Written.read
  rw [h.size]
  by_cases hi : i < n
  · rw [if_pos hi, if_pos hi, h.same i hi]
  · rw [if_neg hi, if_neg hi]

/-! ## User mode -/

variable {build : Build} {poolFlags : PoolFlags} {env : Environment} {b : UserBlock}
  {size newSize : SizeT} {tag : BitVec 32} {memory : Allocation}

/-- The block reads as it should, and its size has not wrapped. -/
structure UserOk (build : Build) (poolFlags : PoolFlags) (b : UserBlock) (w : Written) : Prop where
  shown : Shows b.memory.bytes b.size.toNat w
  small : b.size.toNat ≤ addressSpaceEnd
  length : b.memory.block.length = build.pointerOffset (allocatorFor poolFlags) + b.size

/-- New memory is cleared, unless there is none at such an address. -/
theorem filled_returned (hflags : poolFlags &&& uninitialized = 0) {a : Allocation}
    {first last : SizeT} (h : a.filled build poolFlags first last = .returned memory) :
    last.toNat ≤ addressSpaceEnd ∧
      memory = { a with bytes := memset a.bytes first.toNat last.toNat 0 } := by
  have hfill : fill build poolFlags = some 0 := if_pos hflags
  rw [Allocation.filled, hfill] at h
  dsimp only at h
  split at h
  · cases h
  · cases h
    exact ⟨by omega, rfl⟩

theorem userOk_allocate (hflags : poolFlags &&& uninitialized = 0)
    (h : Winuser.cxplatAllocate build env poolFlags size tag = .returned memory) :
    UserOk build poolFlags { memory := memory, size := size }
      { size := size.toNat, value := fun _ => none } := by
  unfold Winuser.cxplatAllocate at h
  split at h
  · cases h
  split at h
  · cases h
  dsimp only at h
  split at h
  · cases h
  obtain ⟨hsmall, rfl⟩ := filled_returned hflags h
  exact ⟨shows_cleared fun i hi => memset_of_mem (Nat.zero_le i) hi, hsmall, rfl⟩

/-- What the old and the new block have in common is copied. -/
theorem copied_of_lt {old new : Bytes} (hold : size.toNat ≤ addressSpaceEnd)
    (hnew : newSize.toNat ≤ addressSpaceEnd) {i : Nat} (hi : i < size.toNat)
    (hi' : i < newSize.toNat) (allocator : Allocator) :
    copied (build.pointerOffset allocator) (build.pointerOffset allocator + size)
      (build.pointerOffset allocator + newSize) old new i = old i := by
  have hoff := pointerOffset_le build allocator
  unfold addressSpaceEnd at hold hnew
  refine if_pos ?_
  rw [BitVec.toNat_add, BitVec.toNat_add]
  omega

theorem UserOk.reallocate (hflags : poolFlags &&& uninitialized = 0)
    (hb : UserOk build poolFlags b w)
    (h : Winuser.cxplatReallocate build env b.memory poolFlags b.size newSize tag =
      .returned memory) :
    UserOk build poolFlags { memory := memory, size := newSize }
      { size := newSize.toNat
        value := fun i => if i < newSize.toNat then w.value i else none } := by
  unfold Winuser.cxplatReallocate at h
  split at h
  · cases h
  split at h
  · cases h
  split at h
  · cases h
  dsimp only at h
  split at h
  · cases h
  split at h
  · cases h
  rw [hb.length] at h
  split at h
  · rename_i hgrow
    obtain ⟨hsmall, rfl⟩ := filled_returned hflags h
    refine ⟨hb.shown.resize (fun i hi hi' => ?_) (fun i hi hi' => memset_of_mem hi hi'), hsmall,
      rfl⟩
    exact (memset_of_lt hi).trans (copied_of_lt hb.small hsmall hi hi' _)
  · rename_i hshrink
    cases h
    have hle : newSize.toNat ≤ b.size.toNat := by
      rw [BitVec.lt_def] at hshrink
      omega
    have hsmall := Nat.le_trans hle hb.small
    refine ⟨hb.shown.resize (fun i hi hi' => ?_) (fun i hi hi' => ?_), hsmall, rfl⟩
    · exact copied_of_lt hb.small hsmall hi hi' _
    · have hi'' : i < newSize.toNat := hi'
      omega

/-! ## Kernel mode -/

theorem shows_kernelAllocate (hflags : poolFlags &&& uninitialized = 0) {reply : Option Bytes}
    {block : Winkernel.PoolBlock}
    (h : Winkernel.cxplatAllocate reply poolFlags size tag = some block) :
    ∀ i < size.toNat, block.bytes i = 0 := by
  obtain ⟨bytes, -, rfl⟩ := Option.map_eq_some_iff.mp h
  intro i hi
  show (if poolFlags &&& uninitialized = 0 then _ else _ : Bytes) i = 0
  rw [if_pos hflags]
  exact memset_of_mem (Nat.zero_le i) hi

theorem Shows.kernelReallocate (hflags : poolFlags &&& uninitialized = 0) {reply : Option Bytes}
    {old new : Winkernel.PoolBlock} (hold : Shows old.bytes size.toNat w)
    (h : Winkernel.cxplatReallocate reply old poolFlags size newSize tag = some new) :
    Shows new.bytes newSize.toNat
      { size := newSize.toNat
        value := fun i => if i < newSize.toNat then w.value i else none } := by
  obtain ⟨block, hblock, rfl⟩ := Option.map_eq_some_iff.mp h
  have hclear := shows_kernelAllocate hflags hblock
  refine hold.resize (fun i hi hi' => if_pos (by omega)) (fun i hi hi' => ?_)
  exact (if_neg (by omega)).trans (hclear i hi')

/-! ## Sequences of calls -/

/-- The block in user mode and the one in kernel mode read as they should. -/
def UserShows (build : Build) (poolFlags : PoolFlags) : Option UserBlock → Option Written → Prop :=
  Option.Rel (UserOk build poolFlags)

def KernelShows : Option KernelBlock → Option Written → Prop :=
  Option.Rel fun b w => Shows b.memory.bytes b.size.toNat w

theorem userShows_step (hflags : poolFlags &&& uninitialized = 0) {s s' : Option UserBlock}
    {w : Option Written} {a : Action} (hs : UserShows build poolFlags s w)
    (h : userStep build poolFlags s a = some s') :
    UserShows build poolFlags s' (Written.step w a.op) := by
  obtain ⟨op, env, kernel⟩ := a
  cases hs with
  | none =>
    cases op with
    | allocate size tag =>
      simp only [userStep] at h
      split at h
      · rename_i memory hmemory
        cases h
        exact .some (userOk_allocate hflags hmemory)
      · cases h
      · cases h
    | write i value | reallocate newSize tag | free tag => cases h
  | some hb =>
    cases op with
    | allocate size tag => cases h
    | write i value =>
      simp only [userStep, Option.ite_none_right_eq_some, Option.some.injEq] at h
      obtain ⟨hi, rfl⟩ := h
      exact .some ⟨hb.shown.write hi value, hb.small, hb.length⟩
    | reallocate newSize tag =>
      simp only [userStep] at h
      split at h
      · rename_i memory hmemory
        cases h
        exact .some (hb.reallocate hflags hmemory)
      · cases h
      · cases h
    | free tag =>
      simp only [userStep] at h
      split at h
      · cases h
        exact .none
      · cases h
      · cases h

theorem kernelShows_step (hflags : poolFlags &&& uninitialized = 0) {s s' : Option KernelBlock}
    {w : Option Written} {a : Action} (hs : KernelShows s w)
    (h : kernelStep poolFlags s a = some s') : KernelShows s' (Written.step w a.op) := by
  obtain ⟨op, env, kernel⟩ := a
  cases hs with
  | none =>
    cases op with
    | allocate size tag =>
      obtain ⟨block, hblock, rfl⟩ := Option.map_eq_some_iff.mp h
      exact .some (shows_cleared (shows_kernelAllocate hflags hblock))
    | write i value | reallocate newSize tag | free tag => cases h
  | some hb =>
    cases op with
    | allocate size tag => cases h
    | write i value =>
      simp only [kernelStep, Option.ite_none_right_eq_some, Option.some.injEq] at h
      obtain ⟨hi, rfl⟩ := h
      exact .some (hb.write hi value)
    | reallocate newSize tag =>
      obtain ⟨block, hblock, rfl⟩ := Option.map_eq_some_iff.mp h
      exact .some (hb.kernelReallocate hflags hblock)
    | free tag =>
      simp only [kernelStep, Winkernel.cxplatFree, Option.map_some, Option.some.injEq] at h
      subst h
      exact .none

theorem read_of_userShows {s : Option UserBlock} {w : Option Written}
    (h : UserShows build poolFlags s w) (i : Nat) :
    s.bind (·.read i) = w.bind (·.read i) := by
  cases h with
  | none => rfl
  | some hb => exact hb.shown.read_eq i

theorem read_of_kernelShows {s : Option KernelBlock} {w : Option Written}
    (h : KernelShows s w) (i : Nat) : s.bind (·.read i) = w.bind (·.read i) := by
  cases h with
  | none => rfl
  | some hb => exact hb.read_eq i

/--
After every sequence of calls that succeed and of writes, on one block without
`CXPLAT_POOL_FLAG_UNINITIALIZED`: both implementations read back what was written and not cut off,
and zero elsewhere. So they read the same.
-/
theorem contents_preserved (build : Build) (poolFlags : PoolFlags)
    (hflags : poolFlags &&& uninitialized = 0) (actions : List Action) (u : Option UserBlock)
    (k : Option KernelBlock) (hu : exec (userStep build poolFlags) none actions = some u)
    (hk : exec (kernelStep poolFlags) none actions = some k) (i : Nat) :
    u.bind (·.read i) = (Written.after actions).bind (·.read i) ∧
      k.bind (·.read i) = (Written.after actions).bind (·.read i) ∧
      u.bind (·.read i) = k.bind (·.read i) := by
  have huser : UserShows build poolFlags u (Written.after actions) :=
    exec_follows (f := fun w (a : Action) => Written.step w a.op) (R := UserShows build poolFlags)
      (fun _ _ _ _ hs h => userShows_step hflags hs h) .none hu
  have hkernel : KernelShows k (Written.after actions) :=
    exec_follows (f := fun w (a : Action) => Written.step w a.op) (R := KernelShows)
      (fun _ _ _ _ hs h => kernelShows_step hflags hs h) .none hk
  have hread := read_of_userShows huser i
  have hread' := read_of_kernelShows hkernel i
  exact ⟨hread, hread', hread.trans hread'.symm⟩

/-- An action with allocators that answer with a block full of `0xee`. -/
def answered (op : Op) : Action :=
  { op := op
    user := { memoryLimit := BitVec.allOnes 64, injectFault := false,
              reply := some { start := 0x10000, bytes := fun _ => 0xee } }
    kernel := some fun _ => 0xee }

/-- Byte 1 survives a shrink and a growth, and byte 3 is cut off in between. -/
def shrunkAndGrown : List Action :=
  [.allocate 4 0, .write 1 0x11, .write 3 0x33, .reallocate 2 0, .reallocate 8 0].map answered

theorem contents_preserved_shrunkAndGrown :
    ∃ u k, exec (userStep .release 0) none shrunkAndGrown = some u ∧
      exec (kernelStep 0) none shrunkAndGrown = some k ∧
      u.bind (·.read 1) = some 0x11 ∧ u.bind (·.read 3) = some 0 ∧
      u.bind (·.read 3) = k.bind (·.read 3) :=
  ⟨_, _, rfl, rfl, rfl, rfl,
    (contents_preserved .release 0 (by decide) shrunkAndGrown _ _ rfl rfl 3).2.2⟩

end Usersim.Memory.Contents
