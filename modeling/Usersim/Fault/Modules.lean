import Mathlib.Algebra.Group.Nat.Defs
import Mathlib.Data.List.Induction
import Mathlib.Data.Prod.Lex
import Usersim.Cxplat.Basic
import Usersim.Lib.SortedMap

/-!
# Modules under test (`fault_injection.cpp`)

`_modules_under_test` counts how often each module was added, under the pair of its first address
and the address behind its last one. `find_base_address` steps back from the lower bound of an
address and a zero, which never finds a module that starts at the address, and adds the two
addresses of the pair for the end of the module.

* `findBaseAddress_iff` — for which addresses it answers right
* `modulesUnderTest_uses` — the counts are those of the platform's reference counts
-/

namespace Usersim.Fault

open Lib

/-- `_modules_under_test`. Addresses are numbers below `2 ^ 64`. -/
abbrev Modules := SortedMap (Nat ×ₗ Nat) (BitVec 64)

/-- `module_base_address` and `module_base_address + module_size`. -/
def moduleKey (base size : Nat) : Nat ×ₗ Nat := toLex (base, (base + size) % 2 ^ 64)

def addModuleUnderTest (m : Modules) (base size : Nat) : Modules :=
  let newModule := moduleKey base size
  m.insert newModule ((m.get? newModule).getD 0 + 1)

def removeModuleUnderTest (m : Modules) (base size : Nat) : Modules :=
  let key := moduleKey base size
  match m.get? key with
  | none => m
  | some count =>
    if count - 1 = 0 then m.erase key else m.insert key (count - 1)

def findBaseAddress (m : Modules) (address : Nat) : Nat :=
  match m.before (toLex (address, 0)) with
  | none => 0
  | some (key, _) =>
    let first := (ofLex key).1
    let second := (ofLex key).2
    if first ≤ address ∧ address < (first + second) % 2 ^ 64 then first else 0

/-! ## Address ranges -/

/-- The addresses of a module. -/
structure Range where
  base : Nat
  size : Nat
  base_pos : 0 < base
  size_pos : 0 < size
  inside : base + size ≤ 2 ^ 64
deriving DecidableEq

namespace Range

def key (r : Range) : Nat ×ₗ Nat := moduleKey r.base r.size

def Contains (r : Range) (a : Nat) : Prop := r.base ≤ a ∧ a < r.base + r.size

instance (r : Range) (a : Nat) : Decidable (r.Contains a) :=
  inferInstanceAs (Decidable (_ ∧ _))

def Apart (r r' : Range) : Prop := r.base + r.size ≤ r'.base ∨ r'.base + r'.size ≤ r.base

theorem ext_of_eq {r r' : Range} (hb : r.base = r'.base) (hs : r.size = r'.size) : r = r' := by
  cases r
  cases r'
  cases hb
  cases hs
  rfl

/-- A range is known by its two addresses, the second one modulo `2 ^ 64`. -/
theorem key_inj {r r' : Range} (h : r.key = r'.key) : r = r' := by
  have hpair : (r.base, (r.base + r.size) % 2 ^ 64) = (r'.base, (r'.base + r'.size) % 2 ^ 64) :=
    toLex.injective h
  obtain ⟨hb, hstop⟩ := Prod.mk.inj hpair
  have h₁ := r.size_pos
  have h₂ := r.inside
  have h₃ := r'.size_pos
  have h₄ := r'.inside
  have h₅ := r.base_pos
  exact ext_of_eq hb (by omega)

end Range

inductive Modules.Call where
  | add (r : Range)
  | remove (r : Range)

def Modules.step (m : Modules) : Modules.Call → Modules
  | .add r => addModuleUnderTest m r.base r.size
  | .remove r => removeModuleUnderTest m r.base r.size

/-- The modules after a sequence of calls. -/
def Modules.after (calls : List Modules.Call) : Modules := calls.foldl Modules.step .empty

/-- There is an entry for the range. -/
def Modules.Registered (m : Modules) (r : Range) : Prop := (m.get? r.key).isSome = true

instance (m : Modules) (r : Range) : Decidable (m.Registered r) :=
  inferInstanceAs (Decidable (_ = true))

/-- The registered ranges do not overlap. -/
def Modules.Disjoint (m : Modules) : Prop :=
  ∀ r r', m.Registered r → m.Registered r' → r ≠ r' → r.Apart r'

/-- How often the range was added and not removed again. -/
def Modules.uses (r : Range) (calls : List Modules.Call) : Nat :=
  calls.foldl (fun
    | n, .add r' => if r = r' then n + 1 else n
    | n, .remove r' => if r = r' then n - 1 else n) 0

/-- The answer is the base of the range the address is in, or 0 if it is in none. -/
structure FindsBase (m : Modules) (a : Nat) : Prop where
  found : ∀ r, m.Registered r → r.Contains a → findBaseAddress m a = r.base
  notFound : (∀ r, m.Registered r → ¬ r.Contains a) → findBaseAddress m a = 0

/-- The range is registered, starts below the address, and is the last one to do so. -/
structure Modules.Preceding (m : Modules) (a : Nat) (r : Range) : Prop where
  registered : m.Registered r
  below : r.base < a
  last : ∀ r', m.Registered r' → r'.base < a → r'.base ≤ r.base

/-- No range starts at the address, and it is in the one that precedes it just if it is less than
twice its base and its size, modulo `2 ^ 64`. -/
structure Locatable (m : Modules) (a : Nat) : Prop where
  noBase : ∀ r, m.Registered r → r.base ≠ a
  inside : ∀ r, m.Preceding a r → (r.Contains a ↔ a < (2 * r.base + r.size) % 2 ^ 64)

/-! ## The entries -/

variable {m : Modules} {a : Nat} {r r' : Range}

/-- Every entry is that of a range. -/
def RangesOnly (m : Modules) : Prop := ∀ e ∈ m.entries, ∃ r : Range, e.1 = r.key

theorem rangesOnly_insert (hm : RangesOnly m) (r : Range) (n : BitVec 64) :
    RangesOnly (m.insert r.key n) := by
  intro e he
  rcases SortedMap.mem_insert.mp he with rfl | ⟨he, -⟩
  · exact ⟨r, rfl⟩
  · exact hm e he

theorem rangesOnly_step (hm : RangesOnly m) (c : Modules.Call) : RangesOnly (m.step c) := by
  cases c with
  | add r => exact rangesOnly_insert hm r _
  | remove r =>
    show RangesOnly (removeModuleUnderTest m r.base r.size)
    unfold removeModuleUnderTest
    dsimp only
    split
    · exact hm
    · split
      · exact fun e he => hm e (SortedMap.mem_erase.mp he).1
      · exact rangesOnly_insert hm r _

theorem rangesOnly_after (calls : List Modules.Call) : RangesOnly (Modules.after calls) := by
  have hfold : ∀ m, RangesOnly m → RangesOnly (calls.foldl Modules.step m) := by
    induction calls with
    | nil => exact fun m hm => hm
    | cons c calls ih => exact fun m hm => ih _ (rangesOnly_step hm c)
  exact hfold _ fun e he => by cases he

theorem registered_iff : m.Registered r ↔ ∃ n, (r.key, n) ∈ m.entries := by
  unfold Modules.Registered
  rw [Option.isSome_iff_exists]
  exact exists_congr fun n => SortedMap.get?_eq_some_iff

theorem key_eq_iff : r.key = r'.key ↔ r = r' := ⟨Range.key_inj, congrArg Range.key⟩

theorem get?_addModuleUnderTest :
    (addModuleUnderTest m r'.base r'.size).get? r.key =
      if r = r' then some ((m.get? r.key).getD 0 + 1) else m.get? r.key := by
  show (m.insert r'.key ((m.get? r'.key).getD 0 + 1)).get? r.key = _
  rw [SortedMap.get?_insert]
  by_cases h : r = r'
  · subst h
    simp
  · rw [if_neg (mt key_eq_iff.mp h), if_neg h]

theorem get?_removeModuleUnderTest :
    (removeModuleUnderTest m r'.base r'.size).get? r.key =
      if r = r' then
        (m.get? r.key).bind fun n => if n - 1 = 0 then none else some (n - 1)
      else m.get? r.key := by
  unfold removeModuleUnderTest
  dsimp only
  rw [show moduleKey r'.base r'.size = r'.key from rfl]
  by_cases h : r = r'
  · subst h
    rw [if_pos rfl]
    cases hn : m.get? r.key with
    | none => simpa using hn
    | some n =>
      dsimp only [Option.bind_some]
      split
      · rw [SortedMap.get?_erase, if_pos rfl]
      · rw [SortedMap.get?_insert, if_pos rfl]
  · have hkey : r.key ≠ r'.key := mt key_eq_iff.mp h
    rw [if_neg h]
    cases m.get? r'.key with
    | none => rfl
    | some n =>
      dsimp only
      split
      · rw [SortedMap.get?_erase, if_neg hkey]
      · rw [SortedMap.get?_insert, if_neg hkey]

theorem ofNat_succ (n : Nat) : BitVec.ofNat 64 (n + 1) = BitVec.ofNat 64 n + 1 :=
  BitVec.ofNat_add n 1

theorem ofNat_eq_zero_iff {n : Nat} (h : n < 2 ^ 64) : BitVec.ofNat 64 n = 0 ↔ n = 0 := by
  constructor
  · intro hzero
    have hnat := congrArg BitVec.toNat hzero
    rwa [BitVec.toNat_ofNat, Nat.mod_eq_of_lt h] at hnat
  · rintro rfl
    rfl

theorem uses_add (r r' : Range) (calls : List Modules.Call) :
    Modules.uses r (calls ++ [.add r']) =
      if r = r' then Modules.uses r calls + 1 else Modules.uses r calls :=
  List.foldl_concat ..

theorem uses_remove (r r' : Range) (calls : List Modules.Call) :
    Modules.uses r (calls ++ [.remove r']) =
      if r = r' then Modules.uses r calls - 1 else Modules.uses r calls :=
  List.foldl_concat ..

/-- Where modules are told apart by the ranges they are loaded at, the uses of a range are what
`cxplat_initialize` and `cxplat_cleanup` count for its module. -/
theorem modulesUnderTest_uses {place : Cxplat.Module → Range} (hplace : Function.Injective place)
    {x : Cxplat.FaultInjection} {calls : List Modules.Call}
    (h : ∀ k, x.modulesUnderTest k = Modules.uses (place k) calls) (n : Cxplat.Module) :
    (∀ k, (Cxplat.addModuleUnderTest x n).modulesUnderTest k =
        Modules.uses (place k) (calls ++ [.add (place n)])) ∧
      ∀ k, (Cxplat.removeModuleUnderTest x n).modulesUnderTest k =
        Modules.uses (place k) (calls ++ [.remove (place n)]) := by
  constructor
  · intro k
    rw [uses_add, ← h]
    show Function.update x.modulesUnderTest n (x.modulesUnderTest n + 1) k = _
    rw [Function.update_apply]
    by_cases hk : k = n
    · rw [if_pos hk, if_pos (congrArg place hk), hk]
    · rw [if_neg hk, if_neg (mt (@hplace k n) hk)]
  · intro k
    rw [uses_remove, ← h]
    show Function.update x.modulesUnderTest n (x.modulesUnderTest n - 1) k = _
    rw [Function.update_apply]
    by_cases hk : k = n
    · rw [if_pos hk, if_pos (congrArg place hk), hk]
    · rw [if_neg hk, if_neg (mt (@hplace k n) hk)]

theorem uses_le_length (r : Range) (calls : List Modules.Call) :
    Modules.uses r calls ≤ calls.length := by
  induction calls using List.reverseRecOn with
  | nil => exact le_rfl
  | append_singleton calls c ih =>
    rw [List.length_append, List.length_singleton]
    cases c with
    | add r' =>
      rw [uses_add]
      split <;> omega
    | remove r' =>
      rw [uses_remove]
      split <;> omega

/-- Unless the count wraps, the entry of a range counts its uses, and unused ranges have none. -/
theorem get?_after (calls : List Modules.Call) (hlen : calls.length < 2 ^ 64) (r : Range) :
    (Modules.after calls).get? r.key =
      if Modules.uses r calls = 0 then none
      else some (BitVec.ofNat 64 (Modules.uses r calls)) := by
  induction calls using List.reverseRecOn with
  | nil => rfl
  | append_singleton calls c ih =>
    rw [List.length_append, List.length_singleton] at hlen
    have hbound := uses_le_length r calls
    specialize ih (by omega)
    have hafter : Modules.after (calls ++ [c]) = (Modules.after calls).step c :=
      List.foldl_concat ..
    rw [hafter]
    cases c with
    | add r' =>
      rw [Modules.step, get?_addModuleUnderTest, ih, uses_add]
      by_cases h : r = r'
      · simp only [if_pos h, if_neg (Nat.succ_ne_zero _), ofNat_succ]
        by_cases hzero : Modules.uses r calls = 0
        · simp [hzero]
        · simp [hzero]
      · simp only [if_neg h]
    | remove r' =>
      rw [Modules.step, get?_removeModuleUnderTest, ih, uses_remove]
      by_cases h : r = r'
      · simp only [if_pos h]
        by_cases hzero : Modules.uses r calls = 0
        · simp [hzero]
        · obtain ⟨n, hn⟩ := Nat.exists_eq_succ_of_ne_zero hzero
          have hzero' : BitVec.ofNat 64 n = 0 ↔ n = 0 := ofNat_eq_zero_iff (by omega)
          rw [if_neg hzero, Option.bind_some, hn, ofNat_succ, BitVec.add_sub_cancel,
            Nat.succ_sub_one]
          simp only [hzero']
      · simp only [if_neg h]

/-- The registered ranges are the ones that were added more often than removed. -/
theorem registered_after_iff (calls : List Modules.Call) (hlen : calls.length < 2 ^ 64)
    (r : Range) : (Modules.after calls).Registered r ↔ 0 < Modules.uses r calls := by
  rw [Modules.Registered, get?_after calls hlen]
  split <;> simp <;> omega

/-- A key is less than an address and a zero if and only if the range starts below the address. -/
theorem key_lt_iff : r.key < toLex (a, 0) ↔ r.base < a := by
  rw [Range.key, moduleKey, Prod.Lex.toLex_lt_toLex]
  simp

/-! ## What is found -/

theorem findBaseAddress_of_none (h : m.before (toLex (a, 0)) = none) :
    findBaseAddress m a = 0 ∧ ∀ r, m.Registered r → a ≤ r.base := by
  refine ⟨by rw [findBaseAddress, h], fun r hr => ?_⟩
  obtain ⟨n, hn⟩ := registered_iff.mp hr
  have hle := SortedMap.before_eq_none_iff.mp h _ hn
  by_contra hlt
  exact absurd (key_lt_iff.mpr (Nat.lt_of_not_le hlt)) (not_lt.mpr hle)

/-- The range in front of the lower bound is the one that precedes the address. -/
theorem findBaseAddress_of_some (hm : RangesOnly m) {e : (Nat ×ₗ Nat) × BitVec 64}
    (h : m.before (toLex (a, 0)) = some e) :
    ∃ r, m.Preceding a r ∧
      findBaseAddress m a = if a < (2 * r.base + r.size) % 2 ^ 64 then r.base else 0 := by
  obtain ⟨hmem, hlt, hlast⟩ := SortedMap.before_eq_some h
  obtain ⟨r, hr⟩ := hm e hmem
  have hreg : m.Registered r := registered_iff.mpr ⟨e.2, by rw [← hr]; exact hmem⟩
  have hbelow : r.base < a := key_lt_iff.mp (hr ▸ hlt)
  refine ⟨r, ⟨hreg, hbelow, fun r' hr' hlt' => ?_⟩, ?_⟩
  · obtain ⟨n, hn⟩ := registered_iff.mp hr'
    have hle := hlast _ hn (key_lt_iff.mpr hlt')
    rw [hr] at hle
    by_contra hgt
    have hkey : r.key < r'.key := by
      rw [Range.key, Range.key, moduleKey, moduleKey, Prod.Lex.toLex_lt_toLex]
      exact .inl (Nat.lt_of_not_le hgt)
    exact absurd hkey (not_lt.mpr hle)
  · have hend : (r.base + (r.base + r.size) % 2 ^ 64) % 2 ^ 64 =
        (2 * r.base + r.size) % 2 ^ 64 := by omega
    rw [findBaseAddress, h]
    dsimp only
    rw [hr]
    show (if r.base ≤ a ∧ a < (r.base + (r.base + r.size) % 2 ^ 64) % 2 ^ 64 then r.base else 0) = _
    rw [hend]
    simp [hbelow.le]

/-- Ranges that do not overlap are told apart by their bases. -/
theorem eq_of_base_le (hapart : m.Disjoint) (hr : m.Registered r) (hr' : m.Registered r')
    {b : Nat} (hle : r.base ≤ r'.base) (hb : r'.base ≤ b) (hcontains : r.Contains b) : r = r' := by
  by_contra hne
  have h₁ := r.size_pos
  have h₂ := r'.size_pos
  have h₃ := hcontains.2
  rcases hapart r r' hr hr' hne with h | h
  · omega
  · omega

theorem preceding_unique (hapart : m.Disjoint) (hr : m.Preceding a r) (hr' : m.Preceding a r') :
    r' = r := by
  have h₁ := hr.last r' hr'.registered hr'.below
  have h₂ := hr'.last r hr.registered hr.below
  have hsize := r.size_pos
  exact (eq_of_base_le hapart hr.registered hr'.registered h₂ h₁ ⟨le_rfl, by omega⟩).symm

/-- An address in a range is its base, or the range precedes it. -/
theorem eq_preceding_of_contains (hapart : m.Disjoint) (hr : m.Preceding a r)
    (hr' : m.Registered r') (hcontains : r'.Contains a) (hbase : r'.base ≠ a) : r' = r := by
  have hbelow : r'.base < a := lt_of_le_of_ne hcontains.1 hbase
  exact eq_of_base_le hapart hr' hr.registered (hr.last r' hr' hbelow) hr.below.le hcontains

theorem not_findsBase_of_base (hr : m.Registered r) (hbase : r.base = a)
    (hne : findBaseAddress m a ≠ a) : ¬ FindsBase m a := by
  intro h
  have hsize := r.size_pos
  have hfound := h.found r hr ⟨hbase.le, by omega⟩
  exact hne (hfound.trans hbase)

theorem findsBase_of_none (h : m.before (toLex (a, 0)) = none) :
    FindsBase m a ↔ Locatable m a := by
  obtain ⟨hzero, hbases⟩ := findBaseAddress_of_none h
  constructor
  · intro hfinds
    refine ⟨fun r hr hbase => ?_, fun r hr => ?_⟩
    · have hpos := r.base_pos
      exact not_findsBase_of_base hr hbase (by omega) hfinds
    · exact absurd hr.below (not_lt.mpr (hbases r hr.registered))
  · intro hloc
    refine ⟨fun r hr hcontains => ?_, fun _ => hzero⟩
    exact absurd (le_antisymm hcontains.1 (hbases r hr)) (hloc.noBase r hr)

theorem findsBase_of_some (hm : RangesOnly m) (hapart : m.Disjoint)
    {e : (Nat ×ₗ Nat) × BitVec 64} (h : m.before (toLex (a, 0)) = some e) :
    FindsBase m a ↔ Locatable m a := by
  obtain ⟨r, hr, hfind⟩ := findBaseAddress_of_some hm h
  have hpos := r.base_pos
  have hbelow := hr.below
  constructor
  · intro hfinds
    have hnoBase : ∀ r', m.Registered r' → r'.base ≠ a := by
      intro r' hr' hbase
      refine not_findsBase_of_base hr' hbase ?_ hfinds
      rw [hfind]
      split <;> omega
    refine ⟨hnoBase, fun r' hr' => ?_⟩
    obtain rfl := preceding_unique hapart hr hr'
    constructor
    · intro hcontains
      have hfound := hfinds.found r' hr'.registered hcontains
      by_contra hlt
      rw [hfind, if_neg hlt] at hfound
      omega
    · intro hlt
      by_contra hout
      have hzero := hfinds.notFound fun r'' hr'' hcontains =>
        hout (eq_preceding_of_contains hapart hr hr'' hcontains (hnoBase r'' hr'') ▸ hcontains)
      rw [hfind, if_pos hlt] at hzero
      omega
  · intro hloc
    constructor
    · intro r' hr' hcontains
      obtain rfl := eq_preceding_of_contains hapart hr hr' hcontains (hloc.noBase r' hr')
      rw [hfind, if_pos ((hloc.inside r' hr).mp hcontains)]
    · intro hout
      have hnot := hout r hr.registered
      rw [hloc.inside r hr] at hnot
      rw [hfind, if_neg hnot]

/--
After every sequence of calls that leaves registered ranges which do not overlap, and for every
address: `find_base_address` answers right if and only if no registered range starts at the address
and the range that precedes it is not misjudged.
-/
theorem findBaseAddress_iff (calls : List Modules.Call) (a : Nat)
    (hapart : (Modules.after calls).Disjoint) :
    FindsBase (Modules.after calls) a ↔ Locatable (Modules.after calls) a := by
  have hm := rangesOnly_after calls
  cases h : (Modules.after calls).before (toLex (a, 0)) with
  | none => exact findsBase_of_none h
  | some e => exact findsBase_of_some hm hapart h

def nearModule : Range := ⟨0x1000, 0x1000, by decide, by decide, by decide⟩

def farModule : Range := ⟨0x8000, 0x10, by decide, by decide, by decide⟩

/-- Two modules, of which the second is added twice and removed once. -/
def twoModules : List Modules.Call :=
  [.add nearModule, .add farModule, .add farModule, .remove farModule]

theorem twoModules_disjoint : (Modules.after twoModules).Disjoint := by
  have hrange : ∀ r, (Modules.after twoModules).Registered r → r = nearModule ∨ r = farModule := by
    intro r hr
    by_contra hnot
    obtain ⟨hnear, hfar⟩ := not_or.mp hnot
    rw [registered_after_iff _ (by decide)] at hr
    simp [Modules.uses, twoModules, hnear, hfar] at hr
  intro r r' hr hr' hne
  rcases hrange r hr with rfl | rfl <;> rcases hrange r' hr' with rfl | rfl
  · exact absurd rfl hne
  · exact .inl (by decide)
  · exact .inr (by decide)
  · exact absurd rfl hne

theorem findBaseAddress_iff_twoModules :
    (FindsBase (Modules.after twoModules) 0x1800 ↔ Locatable (Modules.after twoModules) 0x1800) ∧
      findBaseAddress (Modules.after twoModules) 0x1800 = 0x1000 :=
  ⟨findBaseAddress_iff twoModules 0x1800 twoModules_disjoint, by decide⟩

/-- Of a module at `0x1000` with `0x1000` bytes, the first byte is not found, and an address `0x500`
bytes behind the last one is. -/
theorem findBaseAddress_misses_first_byte :
    let m := Modules.after [.add nearModule]
    m.Registered nearModule ∧
      (nearModule.Contains 0x1000 ∧ findBaseAddress m 0x1000 = 0 ∧ ¬ FindsBase m 0x1000) ∧
      ¬ nearModule.Contains 0x2500 ∧ findBaseAddress m 0x2500 = 0x1000 := by
  refine ⟨by decide, ⟨by decide, by decide, fun h => ?_⟩, by decide, by decide⟩
  exact absurd (h.found nearModule (by decide) (by decide)) (by decide)

end Usersim.Fault
