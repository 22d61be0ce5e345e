import Mathlib.Algebra.BigOperators.Group.List.Basic
import Mathlib.Algebra.Group.Nat.Defs
import Usersim.Se.Lookup

/-!
# SIDs and their ids (`se.cpp`, `rtl.cpp`)

`usersim_convert_sid_to_luid` adds up the `DWORD`s of a SID. That is what the authentication id of a
token is made of, so two tokens have one id whenever their owners have one sum.

* `luid_eq_iff` — two SIDs of one authority and one length have one id if and only if their
  sub-authorities have one sum, wherever the SIDs were copied to
-/

namespace Usersim.Se

abbrev Dword := BitVec 32

/-- The memory of a `SID`, a `DWORD` at each index. -/
abbrev SidMemory := Nat → Dword

/-- The second byte. -/
def subAuthorityCount (sid : SidMemory) : Nat := ((sid 0 >>> (8 : Nat)).setWidth 8).toNat

/-- `FIELD_OFFSET(SID, SubAuthority[n])`. -/
def subAuthorityOffset (n : Nat) : Nat := 8 + 4 * n

def rtlLengthSid (sid : SidMemory) : Nat := subAuthorityOffset (subAuthorityCount sid)

/-- The length of a SID is a number of `DWORD`s. -/
def rtlCopySid (destinationSidLength : Nat) (destination source : SidMemory) : Status × SidMemory :=
  let sourceSidLength := rtlLengthSid source
  if destinationSidLength < sourceSidLength then (.bufferTooSmall, destination)
  else (.success, fun i => if 4 * i < sourceSidLength then source i else destination i)

/-- The loop, from the offset `i` on. -/
def hashFrom (sid : SidMemory) (size i : Nat) (hash : BitVec 64) : BitVec 64 :=
  if i < size then hashFrom sid size (i + 4) (hash + (sid (i / 4)).setWidth 64) else hash
termination_by size - i

def usersimConvertSidToLuid (sid : SidMemory) : BitVec 64 :=
  hashFrom sid (subAuthorityOffset (subAuthorityCount sid)) 0 0

/-- The answer of `GetTokenInformation` with the owner of the token, or the error. -/
def seQueryAuthenticationIdToken (injectFault : Bool) (owner : Except Win32Error SidMemory) :
    Except Status (BitVec 64) :=
  if injectFault then .error .unsuccessful
  else
    match owner with
    | .error e => .error (win32ErrorToUsersimError e)
    | .ok sid => .ok (usersimConvertSidToLuid sid)

/-! ## What a SID is -/

structure Sid where
  revision : BitVec 8
  /-- The six bytes, as they are in memory. -/
  identifierAuthority : BitVec 48
  subAuthority : List Dword
  /-- The count is a byte. -/
  count_lt : subAuthority.length < 256

def Sid.count (s : Sid) : BitVec 8 := BitVec.ofNat 8 s.subAuthority.length

/-- The first four bytes. -/
def Sid.header (s : Sid) : Dword :=
  s.identifierAuthority.setWidth 32 <<< (16 : Nat) ||| s.count.setWidth 32 <<< (8 : Nat) |||
    s.revision.setWidth 32

def Sid.dwords (s : Sid) : List Dword :=
  s.header :: (s.identifierAuthority >>> (16 : Nat)).setWidth 32 :: s.subAuthority

/-- The memory begins with the SID. -/
def Holds (memory : SidMemory) (s : Sid) : Prop :=
  ∀ i : Nat, ∀ h : i < s.dwords.length, memory i = s.dwords[i]

/-- The sum of the first `n` `DWORD`s. -/
def total (memory : SidMemory) (n : Nat) : Nat :=
  ((List.range n).map fun i => (memory i).toNat).sum

variable {memory memory' : SidMemory} {s s' : Sid}

theorem Sid.length_dwords (s : Sid) : s.dwords.length = s.subAuthority.length + 2 := rfl

theorem Sid.count_header (s : Sid) : (s.header >>> (8 : Nat)).setWidth 8 = s.count := by
  apply BitVec.eq_of_getLsbD_eq
  intro i hi
  have hlt : 8 + i < 16 := by omega
  have hlt' : 8 + i < 32 := by omega
  simp [Sid.header, hi, hlt, hlt']

theorem Holds.count (h : Holds memory s) : subAuthorityCount memory = s.subAuthority.length := by
  have hheader : memory 0 = s.header := h 0 (Nat.succ_pos _)
  rw [subAuthorityCount, hheader, s.count_header, Sid.count, BitVec.toNat_ofNat]
  exact Nat.mod_eq_of_lt s.count_lt

/-! ## The loop -/

theorem total_succ (memory : SidMemory) (n : Nat) :
    total memory (n + 1) = total memory n + (memory n).toNat := by
  simp [total, List.range_succ]

theorem total_le (memory : SidMemory) (n : Nat) : total memory n ≤ n * 2 ^ 32 := by
  induction n with
  | zero => exact Nat.le_refl 0
  | succ n ih =>
    have hlt := (memory n).isLt
    rw [total_succ]
    omega

/-- After `k` rounds the hash is the sum of the first `k` `DWORD`s; the sum does not wrap. -/
theorem hashFrom_eq (memory : SidMemory) {n k : Nat} (hn : n < 2 ^ 16) (hk : k ≤ n)
    (hash : BitVec 64) (hhash : hash.toNat = total memory k) :
    (hashFrom memory (4 * n) (4 * k) hash).toNat = total memory n := by
  induction hd : n - k generalizing k hash with
  | zero =>
    obtain rfl : k = n := by omega
    rw [hashFrom, if_neg (by omega), hhash]
  | succ d ih =>
    rw [hashFrom, if_pos (by omega)]
    refine ih (k := k + 1) (by omega) _ ?_ (by omega)
    have hle := total_le memory (k + 1)
    rw [total_succ] at hle ⊢
    rw [Nat.mul_div_cancel_left k (by decide), BitVec.toNat_add, BitVec.toNat_setWidth, hhash]
    have hlt := (memory k).isLt
    omega

theorem convert_eq_total (memory : SidMemory) :
    (usersimConvertSidToLuid memory).toNat = total memory (subAuthorityCount memory + 2) := by
  have hcount : subAuthorityCount memory < 256 := BitVec.isLt _
  have hsize : subAuthorityOffset (subAuthorityCount memory) =
      4 * (subAuthorityCount memory + 2) := by
    rw [subAuthorityOffset]
    omega
  rw [usersimConvertSidToLuid, hsize]
  exact hashFrom_eq memory (by omega) (Nat.zero_le _) 0 rfl

/-! ## Ids -/

def Sid.sum (s : Sid) : Nat := (s.dwords.map BitVec.toNat).sum

theorem Holds.total (h : Holds memory s) : total memory s.dwords.length = s.sum := by
  have hlist : (List.range s.dwords.length).map (fun i => (memory i).toNat) =
      s.dwords.map BitVec.toNat := by
    refine List.ext_getElem (by simp) fun i hi _ => ?_
    rw [List.length_map, List.length_range] at hi
    simp [h i hi]
  rw [Se.total, hlist, Sid.sum]

theorem Holds.luid (h : Holds memory s) : (usersimConvertSidToLuid memory).toNat = s.sum := by
  rw [convert_eq_total, h.count, ← s.length_dwords, h.total]

/-- A copy holds the SID, whatever was there before. -/
theorem Holds.copy (h : Holds memory s) {length : Nat} {destination copied : SidMemory}
    (hcopy : rtlCopySid length destination memory = (.success, copied)) : Holds copied s := by
  intro i hi
  simp only [rtlCopySid] at hcopy
  split at hcopy
  · cases hcopy
  · obtain ⟨-, rfl⟩ := Prod.mk.inj hcopy
    have hlt : 4 * i < rtlLengthSid memory := by
      rw [s.length_dwords] at hi
      rw [rtlLengthSid, subAuthorityOffset, h.count]
      omega
    exact (if_pos hlt).trans (h i hi)

/-- A copy fails if and only if there is no room for it, and then writes nothing. -/
theorem Holds.copy_fails_iff (h : Holds memory s) (length : Nat) (destination : SidMemory) :
    rtlCopySid length destination memory = (.bufferTooSmall, destination) ↔
      length < subAuthorityOffset s.subAuthority.length := by
  simp only [rtlCopySid, rtlLengthSid, h.count]
  split
  · next hlt => exact iff_of_true rfl hlt
  · next hge => exact iff_of_false (by simp) hge

/-- The same revision, authority and number of sub-authorities. -/
structure Alike (s s' : Sid) : Prop where
  revision : s'.revision = s.revision
  identifierAuthority : s'.identifierAuthority = s.identifierAuthority
  length : s'.subAuthority.length = s.subAuthority.length

theorem Alike.sum_eq_iff (h : Alike s s') :
    s'.sum = s.sum ↔
      (s'.subAuthority.map BitVec.toNat).sum = (s.subAuthority.map BitVec.toNat).sum := by
  have hcount : s'.count = s.count := by rw [Sid.count, h.length, Sid.count]
  have hheader : s'.header = s.header := by
    rw [Sid.header, Sid.header, hcount, h.revision, h.identifierAuthority]
  simp only [Sid.sum, Sid.dwords, List.map_cons, List.sum_cons, hheader, h.identifierAuthority]
  omega

/-- Two tokens whose owners were copied from two SIDs. -/
theorem luid_eq_iff (s s' : Sid)
    (memory memory' destination destination' copied copied' : SidMemory)
    (length length' : Nat) (halike : Alike s s') (h : Holds memory s) (h' : Holds memory' s')
    (hcopy : rtlCopySid length destination memory = (.success, copied))
    (hcopy' : rtlCopySid length' destination' memory' = (.success, copied')) :
    seQueryAuthenticationIdToken false (.ok copied') =
        seQueryAuthenticationIdToken false (.ok copied) ↔
      (s'.subAuthority.map BitVec.toNat).sum = (s.subAuthority.map BitVec.toNat).sum := by
  have hluid := (h.copy hcopy).luid
  have hluid' := (h'.copy hcopy').luid
  rw [← halike.sum_eq_iff, ← hluid, ← hluid', ← BitVec.toNat_eq]
  simp [seQueryAuthenticationIdToken]

def Sid.inMemory (s : Sid) : SidMemory := fun i => s.dwords.getD i 0

theorem Sid.holds_inMemory (s : Sid) : Holds s.inMemory s := fun i hi =>
  (List.getD_eq_getElem?_getD ..).trans (by rw [List.getElem?_eq_getElem hi, Option.getD_some])

/-- An account of a domain. -/
def account (domain : List Dword) (rid : Dword) (h : (21 :: domain ++ [rid]).length < 256) :
    Sid where
  revision := 1
  identifierAuthority := 0x050000000000
  subAuthority := 21 :: domain ++ [rid]
  count_lt := h

def copyOf (s : Sid) : SidMemory := (rtlCopySid 28 (fun _ => 0) s.inMemory).2

/-- Two accounts of different domains with one id. -/
theorem luid_eq_iff_twoDomains :
    seQueryAuthenticationIdToken false (.ok (copyOf (account [7, 8, 9] 500 (by decide)))) =
      seQueryAuthenticationIdToken false (.ok (copyOf (account [9, 8, 7] 500 (by decide)))) :=
  (luid_eq_iff (account [9, 8, 7] 500 (by decide)) (account [7, 8, 9] 500 (by decide)) _ _
    (fun _ => 0) (fun _ => 0) _ _ 28 28 ⟨rfl, rfl, rfl⟩ (Sid.holds_inMemory _)
      (Sid.holds_inMemory _)
    (Prod.ext (by decide) rfl) (Prod.ext (by decide) rfl)).mpr (by decide)

end Usersim.Se
