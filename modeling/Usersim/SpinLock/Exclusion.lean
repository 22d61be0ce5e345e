import Usersim.SpinLock.Basic

/-!
# Mutual exclusion of the spin locks

A thread that holds a spin lock should own the lock's word. That is what the invariant
`ObjectLocked` says of one `cxplat_spin_lock_t`; exclusion follows, since a word has one owner. It
is kept by every call that passes the word itself. In kernel mode
`cxplat_acquire_spin_lock_at_dpc_level` passes the address of its parameter instead, so two
threads get the lock at once.

* `spin_lock_exclusive` — at most one thread holds the lock, in user mode and in kernel mode
  without an acquire at DPC level
* `spin_lock_not_exclusive_at_dpc_level` — two threads that hold one lock in kernel mode
-/

namespace Usersim.SpinLock

open Lib

variable {platform : Platform} {l spinLock : Address} {s s' : State} {t : Tid}

/-! ## What a start does -/

theorem startAcquire_eq {a : Acquire} (h : s.startAcquire t spinLock a = some s') :
    s.pc t = .idle ∧ (t, spinLock) ∉ s.held ∧ s'.owner = s.owner ∧ s'.held = s.held ∧
      s'.pc = Function.update s.pc t (.acquiring spinLock a.word) := by
  unfold State.startAcquire at h
  split at h
  · rename_i hc
    cases h
    exact ⟨hc.1, hc.2, rfl, rfl, rfl⟩
  · cases h

theorem startRelease_eq {r : Release} (h : s.startRelease t spinLock r = some s') :
    s.pc t = .idle ∧ (t, spinLock) ∈ s.held ∧ s'.owner = s.owner ∧
      s'.held = (s.held.filter fun h => h ≠ (t, spinLock)) ∧
      s'.pc = Function.update s.pc t (.releasing spinLock r) := by
  unfold State.startRelease at h
  split at h
  · rename_i hc
    cases h
    exact ⟨hc.1, hc.2, rfl, rfl, rfl⟩
  · cases h

/-! ## The invariant of one lock -/

/-- Who holds the lock owns its word, and the calls on it pass that word. -/
structure ObjectLocked (l : Address) (s : State) : Prop where
  owner : ∀ t, (t, l) ∈ s.held → s.owner (.object l) = some t
  acquiring : ∀ t word, s.pc t = .acquiring l word → word = .object l
  releasing : ∀ t l' r, s.pc t = .releasing l' r → r.word = .object l →
    (t, l) ∉ s.held ∧ s.owner (.object l) = some t

theorem objectLocked_init (l : Address) : ObjectLocked l State.init where
  owner := fun t h => by cases h
  acquiring := fun t word h => by cases h
  releasing := fun t l' r h => by cases h

/-- An acquire starts, with the word of the lock if the lock is `l`. -/
theorem ObjectLocked.startAcquire {a : Acquire} (hi : ObjectLocked l s)
    (hword : spinLock = l → a.word = .object l) (h : s.startAcquire t spinLock a = some s') :
    ObjectLocked l s' := by
  obtain ⟨-, -, howner, hheld, hpc⟩ := startAcquire_eq h
  constructor
  · intro u hu
    rw [howner]
    rw [hheld] at hu
    exact hi.owner u hu
  · intro u word hu
    rw [hpc] at hu
    by_cases hut : u = t
    · subst hut
      rw [Function.update_self] at hu
      cases hu
      exact hword rfl
    · rw [Function.update_of_ne hut] at hu
      exact hi.acquiring u word hu
  · intro u l' r hu hr
    rw [hpc] at hu
    by_cases hut : u = t
    · subst hut
      rw [Function.update_self] at hu
      cases hu
    · rw [Function.update_of_ne hut] at hu
      rw [howner, hheld]
      exact hi.releasing u l' r hu hr

/-- A release starts; if it is to free the word of `l`, it is a release of `l`. -/
theorem ObjectLocked.startRelease {r : Release} (hi : ObjectLocked l s)
    (hword : r.word = .object l → spinLock = l) (h : s.startRelease t spinLock r = some s') :
    ObjectLocked l s' := by
  obtain ⟨-, hholds, howner, hheld, hpc⟩ := startRelease_eq h
  have hsub : ∀ h, h ∈ s'.held → h ∈ s.held := by
    intro h hh
    rw [hheld] at hh
    exact (List.mem_filter.mp hh).1
  constructor
  · intro u hu
    rw [howner]
    exact hi.owner u (hsub _ hu)
  · intro u word hu
    rw [hpc] at hu
    by_cases hut : u = t
    · subst hut
      rw [Function.update_self] at hu
      cases hu
    · rw [Function.update_of_ne hut] at hu
      exact hi.acquiring u word hu
  · intro u l' r' hu hr
    rw [hpc] at hu
    by_cases hut : u = t
    · subst hut
      rw [Function.update_self] at hu
      cases hu
      have hl := hword hr
      subst hl
      refine ⟨?_, ?_⟩
      · rw [hheld]
        simp
      · rw [howner]
        exact hi.owner u hholds
    · rw [Function.update_of_ne hut] at hu
      obtain ⟨hnot, ho⟩ := hi.releasing u l' r' hu hr
      exact ⟨fun hh => hnot (hsub _ hh), by rw [howner]; exact ho⟩

/-- A word that nobody has locked is locked. -/
theorem ObjectLocked.acquired (hi : ObjectLocked l s) {word : Word}
    (hpc : s.pc t = .acquiring spinLock word) (hfree : s.owner word = none) :
    ObjectLocked l { s with
      owner := Function.update s.owner word (some t)
      pc := Function.update s.pc t .idle
      held := (t, spinLock) :: s.held } := by
  -- an owned word is another one than the word that is locked here
  have hkeep : ∀ u, s.owner (.object l) = some u →
      Function.update s.owner word (some t) (.object l) = some u := by
    intro u hu
    have hne : Word.object l ≠ word := by
      intro he
      rw [he, hfree] at hu
      cases hu
    rw [Function.update_of_ne hne]
    exact hu
  constructor
  · intro u hu
    simp only [List.mem_cons, Prod.mk.injEq] at hu
    rcases hu with ⟨rfl, rfl⟩ | hu
    · rw [hi.acquiring u word hpc]
      exact Function.update_self ..
    · exact hkeep u (hi.owner u hu)
  · intro u w hu
    by_cases hut : u = t
    · subst hut
      simp at hu
    · simp only [Function.update_of_ne hut] at hu
      exact hi.acquiring u w hu
  · intro u l' r hu hr
    by_cases hut : u = t
    · subst hut
      simp at hu
    · simp only [Function.update_of_ne hut] at hu
      obtain ⟨hnot, ho⟩ := hi.releasing u l' r hu hr
      refine ⟨?_, hkeep u ho⟩
      simp only [List.mem_cons, Prod.mk.injEq, not_or]
      exact ⟨fun he => hut he.1, hnot⟩

/-- The word of a release is freed; if it is the word of `l`, nobody holds `l`. -/
theorem ObjectLocked.released (hi : ObjectLocked l s) {r : Release} {irql : Tid → Nat}
    (hpc : s.pc t = .releasing spinLock r) :
    ObjectLocked l { s with
      owner := Function.update s.owner r.word none
      irql := irql
      pc := Function.update s.pc t .idle } := by
  have hkeep : ∀ u, s.owner (.object l) = some u → (u = t → (t, l) ∈ s.held) →
      Function.update s.owner r.word none (.object l) = some u := by
    intro u hu hself
    have hne : Word.object l ≠ r.word := by
      intro he
      obtain ⟨hnot, ho⟩ := hi.releasing t spinLock r hpc he.symm
      rw [ho] at hu
      cases hu
      exact hnot (hself rfl)
    rw [Function.update_of_ne hne]
    exact hu
  constructor
  · intro u hu
    exact hkeep u (hi.owner u hu) (fun he => he ▸ hu)
  · intro u w hu
    by_cases hut : u = t
    · subst hut
      simp at hu
    · simp only [Function.update_of_ne hut] at hu
      exact hi.acquiring u w hu
  · intro u l' r' hu hr
    by_cases hut : u = t
    · subst hut
      simp at hu
    · simp only [Function.update_of_ne hut] at hu
      obtain ⟨hnot, ho⟩ := hi.releasing u l' r' hu hr
      exact ⟨hnot, hkeep u ho (fun he => absurd he hut)⟩

/-! ## Runs -/

/-- In kernel mode the lock is not acquired at DPC level. -/
def PassesTheLock (platform : Platform) (l : Address) (_ : State) (a : Action) : Prop :=
  platform = .winkernel → ∀ t, a ≠ .cxplatAcquireSpinLockAtDpcLevel t l

/-- The words that the functions of cxplat pass. -/
theorem acquireAtDpcLevel_word {call : Nat} (h : platform ≠ .winkernel) :
    (cxplatAcquireSpinLockAtDpcLevel spinLock call platform).word = .object spinLock := by
  cases platform with
  | winuser => rfl
  | winkernel => exact absurd rfl h

theorem releaseFromDpcLevel_word {call : Nat}
    (h : (cxplatReleaseSpinLockFromDpcLevel spinLock call platform).word = .object l) :
    spinLock = l := by
  cases platform with
  | winuser => exact Word.object.inj h
  | winkernel => cases h

theorem objectLocked_step {a : Action} (hi : ObjectLocked l s)
    (hg : PassesTheLock platform l s a) (h : step platform s a = some s') :
    ObjectLocked l s' := by
  cases a with
  | cxplatRaiseIrql t irql | cxplatLowerIrql t irql =>
    simp only [step] at h
    split at h
    · cases h
      exact ⟨hi.owner, hi.acquiring, hi.releasing⟩
    · cases h
  | cxplatAcquireSpinLock t spinLock =>
    refine hi.startAcquire ?_ h
    rintro rfl
    cases platform <;> rfl
  | cxplatAcquireSpinLockAtDpcLevel t spinLock =>
    refine hi.startAcquire ?_ h
    rintro rfl
    exact acquireAtDpcLevel_word fun hp => hg hp t rfl
  | acquired t =>
    simp only [step] at h
    split at h
    · rename_i spinLock word hpc
      split at h
      · rename_i hfree
        cases h
        exact hi.acquired hpc hfree
      · cases h
    · cases h
  | cxplatReleaseSpinLock t spinLock oldIrql =>
    refine hi.startRelease ?_ h
    intro hw
    cases platform <;> exact Word.object.inj hw
  | cxplatReleaseSpinLockFromDpcLevel t spinLock =>
    exact hi.startRelease releaseFromDpcLevel_word h
  | released t =>
    simp only [step] at h
    split at h
    · rename_i spinLock r hpc
      cases h
      exact hi.released hpc
    · cases h

theorem objectLocked_exec {run : List Action}
    (hg : Guarded (step platform) (PassesTheLock platform l) State.init run)
    (h : exec (step platform) State.init run = some s) : ObjectLocked l s :=
  exec_invariant_of_guard (fun _ _ _ hi hg hs => objectLocked_step hi hg hs)
    (objectLocked_init l) hg h

/--
At most one thread is between the return of its acquire of `l` and the start of its release, in
every state of every run in which `l` is not acquired at DPC level in kernel mode.
-/
theorem spin_lock_exclusive (platform : Platform) (l : Address) (run : List Action) (s : State)
    (hg : Guarded (step platform) (PassesTheLock platform l) State.init run)
    (h : exec (step platform) State.init run = some s) :
    ∀ t u, (t, l) ∈ s.held → (u, l) ∈ s.held → t = u := by
  intro t u ht hu
  have hi := objectLocked_exec hg h
  have hto := hi.owner t ht
  rw [hi.owner u hu] at hto
  exact (Option.some.inj hto).symm

/-! ## Concrete runs -/

/-- Two threads raise their IRQL and acquire the lock at DPC level. -/
def twoAcquiresAtDpcLevel (l : Address) : List Action :=
  [.cxplatRaiseIrql 0 dispatchLevel, .cxplatRaiseIrql 1 dispatchLevel,
   .cxplatAcquireSpinLockAtDpcLevel 0 l, .acquired 0,
   .cxplatAcquireSpinLockAtDpcLevel 1 l, .acquired 1]

theorem spin_lock_not_exclusive_at_dpc_level :
    ∃ s, exec (step .winkernel) State.init (twoAcquiresAtDpcLevel 0x1000) = some s ∧
      ∃ t u, (t, (0x1000 : Address)) ∈ s.held ∧ (u, (0x1000 : Address)) ∈ s.held ∧ t ≠ u := by
  obtain ⟨s, hs, h₀, h₁⟩ :
      ∃ s, exec (step .winkernel) State.init (twoAcquiresAtDpcLevel 0x1000) = some s ∧
        (0, 0x1000) ∈ s.held ∧ (1, 0x1000) ∈ s.held := exec_of_check (by decide +kernel)
  exact ⟨s, hs, 0, 1, h₀, h₁, by decide⟩

/-- In kernel mode a lock is handed from one thread to another, and held at the end. -/
def handOver : List Action :=
  [.cxplatAcquireSpinLock 0 0x1000, .acquired 0, .cxplatAcquireSpinLock 1 0x1000,
   .cxplatAcquireSpinLockAtDpcLevel 0 0x1008, .acquired 0,
   .cxplatReleaseSpinLockFromDpcLevel 0 0x1008, .released 0,
   .cxplatReleaseSpinLock 0 0x1000 0, .released 0, .acquired 1]

theorem spin_lock_exclusive_handOver :
    ∃ s, exec (step .winkernel) State.init handOver = some s ∧ (1, 0x1000) ∈ s.held ∧
      ∀ t u, (t, (0x1000 : Address)) ∈ s.held → (u, (0x1000 : Address)) ∈ s.held → t = u := by
  obtain ⟨s, hs, hheld⟩ : ∃ s, exec (step .winkernel) State.init handOver = some s ∧
      (1, 0x1000) ∈ s.held := exec_of_check (by decide +kernel)
  refine ⟨s, hs, hheld, spin_lock_exclusive .winkernel 0x1000 handOver s ?_ hs⟩
  simp [handOver, Guarded, PassesTheLock]

end Usersim.SpinLock
