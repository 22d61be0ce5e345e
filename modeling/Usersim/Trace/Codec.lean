import Mathlib.Algebra.Group.Nat.Defs
import Usersim.Trace.Basic

/-!
# Reading back what the macros pass

Macros and reader agree on an item as long as the reader has a case for it and the count it reads
is right. The counting macro is right up to 22 arguments; beyond that it yields the 23rd argument.
There is no case for `_tlgBinary`, and a counted string is read as an `int` of characters.

* `trace_codec` — an event is read back item by item exactly when its items are readable and its
  arguments are counted
* `binary_is_misread` — an event with a binary item
-/

namespace Usersim.Trace

variable {items : List Item} {item : Item} {args tail : List Slot}

/-! ## What the counting macro yields -/

theorem usersimVaArgc_eq (args : List Slot) :
    usersimVaArgc args = ((args ++ countDown)[22]?).getD 0 := by
  unfold usersimVaArgc usersimCountVaArgs usersimGetNthArg
  rw [List.getD_eq_getElem?_getD, List.cons_append, List.getElem?_cons_succ]

theorem usersimVaArgc_of_le (h : args.length ≤ 22) :
    usersimVaArgc args = BitVec.ofNat 64 args.length := by
  have hnumbers : ∀ n ≤ 22, (countDown[22 - n]?).getD 0 = BitVec.ofNat 64 n := by decide
  rw [usersimVaArgc_eq, List.getElem?_append_right h]
  exact hnumbers args.length h

theorem usersimVaArgc_of_lt (h : 22 < args.length) : args[22]? = some (usersimVaArgc args) := by
  rw [usersimVaArgc_eq, List.getElem?_append_left h, List.getElem?_eq_getElem h]
  rfl

/-- There are at most 22 arguments, or the 23rd one happens to be their number. -/
def Counted (value : Slot → Int) (args : List Slot) : Prop :=
  args.length ≤ 22 ∨ ∃ slot, args[22]? = some slot ∧ value slot = args.length

theorem counted_iff {value : Slot → Int} (hvalue : ∀ n ≤ 22, value (BitVec.ofNat 64 n) = n) :
    Counted value args ↔ value (usersimVaArgc args) = args.length := by
  unfold Counted
  by_cases h : args.length ≤ 22
  · simp only [h, true_or, true_iff]
    rw [usersimVaArgc_of_le h]
    exact hvalue args.length h
  · have hlt : 22 < args.length := by omega
    simp [h, usersimVaArgc_of_lt hlt]

theorem toInt_ofNat : ∀ n ≤ 22, toInt (BitVec.ofNat 64 n) = n := by decide

/-- The value of an argument as a `size_t`. -/
def toSize (slot : Slot) : Int := slot.toNat

theorem toSize_ofNat : ∀ n ≤ 22, toSize (BitVec.ofNat 64 n) = n := by decide

/-! ## One item -/

def Item.type : Item → TlgType
  | .level _ => .level
  | .keyword _ => .keyword
  | .opcode _ => .opcode
  | .countedUtf8String .. => .countedUtf8String
  | .binary .. => .binary
  | .typed kind .. => kind.type

/-- The reader has a case for the item, the count in it is right, and so is the length. -/
def Item.Readable : Item → Prop
  | .level _ | .keyword _ | .opcode _ => True
  | .countedUtf8String _ length names => 0 ≤ toInt length ∧ Counted toInt names
  | .binary .. => False
  | .typed _ value names => Counted toInt (value :: names)

theorem ofSlot_toSlot (type : TlgType) : TlgType.ofSlot type.toSlot = some type := by
  cases type <;> decide

theorem ValueKind.expand_eq (kind : ValueKind) :
    kind.expand args = variableItem kind.type args := by
  cases kind <;> rfl

theorem head?_expand (item : Item) : item.expand.head? = some item.type.toSlot := by
  cases item with
  | typed kind value names =>
    simp only [Item.expand, ValueKind.expand_eq]
    rfl
  | _ => rfl

theorem expand_length_pos (item : Item) : 0 < item.expand.length := by
  have hhead := head?_expand item
  rw [List.length_pos_iff]
  intro hnil
  rw [hnil] at hhead
  cases hhead

theorem readItem_typed (kind : ValueKind) :
    readItem (kind.expand args ++ tail) =
      readCounted [kind.type.toSlot] 0 (usersimVaArgc args) (args ++ tail) := by
  rw [ValueKind.expand_eq, variableItem, List.cons_append, List.cons_append, readItem,
    ofSlot_toSlot]
  cases kind <;> rfl

theorem readItem_countedUtf8String (value length : Slot) :
    readItem ((Item.countedUtf8String value length args).expand ++ tail) =
      if toInt length < 0 then none
      else
        readCounted [TlgType.countedUtf8String.toSlot, value, length] 2 (usersimVaArgc args)
          (args ++ tail) := by
  simp only [Item.expand, traceLoggingCountedUtf8String, countedItem, List.cons_append]
  rw [readItem, ofSlot_toSlot]
  rfl

theorem readCounted_of_eq {head : List Slot} {increment : Int} {count : Slot}
    (h : toInt count = args.length) :
    readCounted head increment count (args ++ tail) =
      some { consumed := head ++ count :: args, increment := increment + 1 + args.length
             rest := tail } := by
  unfold readCounted
  simp [h]

/-- Whoever reads just the counted arguments has read their number. -/
theorem eq_of_readCounted {head : List Slot} {increment : Int} {count : Slot} {turn : Turn}
    (h : readCounted head increment count (args ++ tail) = some turn)
    (hconsumed : turn.consumed = head ++ count :: args) : (toInt count).toNat = args.length := by
  unfold readCounted at h
  simp only [Option.ite_none_left_eq_some, Option.some.injEq] at h
  obtain ⟨hlen, rfl⟩ := h
  simp only [List.append_cancel_left_eq, List.cons.injEq, true_and] at hconsumed
  have htake := congrArg List.length hconsumed
  rw [List.length_take] at htake
  omega

theorem counted_of_toNat (h : (toInt (usersimVaArgc args)).toNat = args.length) :
    Counted toInt args := by
  by_cases hle : args.length ≤ 22
  · exact .inl hle
  · refine (counted_iff toInt_ofNat).mpr ?_
    omega

/-- A readable item is read as a whole. -/
theorem readItem_expand (h : item.Readable) :
    readItem (item.expand ++ tail) =
      some { consumed := item.expand, increment := item.expand.length - 1, rest := tail } := by
  cases item with
  | level value | keyword value | opcode value => rfl
  | countedUtf8String value length names =>
    rw [readItem_countedUtf8String, if_neg (Int.not_lt.mpr h.1),
      readCounted_of_eq ((counted_iff toInt_ofNat).mp h.2)]
    simp only [Item.expand, traceLoggingCountedUtf8String, countedItem, List.length_cons,
      List.cons_append, List.nil_append]
    congr 2
    omega
  | binary value length names => exact h.elim
  | typed kind value names =>
    simp only [Item.expand]
    rw [readItem_typed, readCounted_of_eq ((counted_iff toInt_ofNat).mp h)]
    simp only [ValueKind.expand_eq, variableItem, List.length_cons, List.cons_append,
      List.nil_append]
    congr 2
    omega

/-- An item that is read as a whole is readable. -/
theorem readable_of_readItem {turn : Turn} (h : readItem (item.expand ++ tail) = some turn)
    (hconsumed : turn.consumed = item.expand) : item.Readable := by
  cases item with
  | level value | keyword value | opcode value => trivial
  | countedUtf8String value length names =>
    rw [readItem_countedUtf8String, Option.ite_none_left_eq_some] at h
    exact ⟨Int.not_lt.mp h.1, counted_of_toNat (eq_of_readCounted h.2 hconsumed)⟩
  | binary value length names =>
    cases h
    have hlen := congrArg List.length hconsumed
    simp [Item.expand, traceLoggingBinary, countedItem] at hlen
  | typed kind value names =>
    simp only [Item.expand] at h hconsumed
    rw [readItem_typed] at h
    rw [ValueKind.expand_eq] at hconsumed
    exact counted_of_toNat (eq_of_readCounted h hconsumed)

/-! ## The loop -/

theorem expandAll_cons (item : Item) (items : List Item) :
    expandAll (item :: items) = item.expand ++ expandAll items := List.flatMap_cons

/-- The index after an item of `n` arguments. -/
theorem next_index {i n argc : Nat} (hn : 0 < n) (hle : i + n ≤ argc) (hlt : argc < 2 ^ 64) :
    ((i + ((n : Int) - 1) + 1) % 2 ^ 64).toNat = i + n := by
  have hsum : (i + ((n : Int) - 1) + 1) = ((i + n : Nat) : Int) := by omega
  rw [hsum, Int.emod_eq_of_lt (by omega) (by omega)]
  rfl

theorem writeLoop_expandAll {argc : Nat} (hlt : argc < 2 ^ 64)
    (hread : ∀ item ∈ items, item.Readable) :
    ∀ fuel i, (expandAll items).length < fuel → i + (expandAll items).length = argc →
      writeLoop argc fuel i (expandAll items) =
        some { turns := items.map Item.expand, index := argc, rest := [] } := by
  induction items with
  | nil =>
    intro fuel i hfuel hi
    obtain ⟨fuel, rfl⟩ := Nat.exists_eq_succ_of_ne_zero (by omega : fuel ≠ 0)
    have hi : i = argc := hi
    subst hi
    simp [writeLoop, expandAll]
  | cons item items ih =>
    intro fuel i hfuel hi
    rw [expandAll_cons, List.length_append] at hfuel hi
    have hpos := expand_length_pos item
    obtain ⟨fuel, rfl⟩ := Nat.exists_eq_succ_of_ne_zero (by omega : fuel ≠ 0)
    rw [expandAll_cons, writeLoop, if_pos (by omega)]
    rw [readItem_expand (hread item List.mem_cons_self), Option.bind_some]
    simp only
    rw [next_index hpos (by omega) hlt]
    rw [ih (fun it hit => hread it (List.mem_cons_of_mem _ hit)) fuel _ (by omega) (by omega)]
    rfl

theorem readable_of_writeLoop {argc : Nat} (hlt : argc < 2 ^ 64) :
    ∀ fuel i w, i + (expandAll items).length = argc →
      writeLoop argc fuel i (expandAll items) = some w → w.turns = items.map Item.expand →
      ∀ item ∈ items, item.Readable := by
  induction items with
  | nil =>
    intro fuel i w _ _ _ item hitem
    cases hitem
  | cons item items ih =>
    intro fuel i w hi h hturns
    rw [expandAll_cons, List.length_append] at hi
    have hpos := expand_length_pos item
    cases fuel with
    | zero => cases h
    | succ fuel =>
      rw [expandAll_cons, writeLoop, if_pos (by omega)] at h
      obtain ⟨turn, hturn, h⟩ := Option.bind_eq_some_iff.mp h
      obtain ⟨w', hw', rfl⟩ := Option.map_eq_some_iff.mp h
      simp only [List.map_cons, List.cons.injEq] at hturns
      have hread := readable_of_readItem hturn hturns.1
      -- the turn is the item, so the next one starts where the item ends
      rw [readItem_expand hread] at hturn
      cases hturn
      simp only at hw'
      rw [next_index hpos (by omega) hlt] at hw'
      intro it hit
      rcases List.mem_cons.mp hit with rfl | hit
      · exact hread
      · exact ih fuel _ w' (by omega) hw' hturns.2 it hit

/-! ## Events -/

/-- The number of arguments is right, and the reader takes them item by item. -/
structure Faithful (items : List Item) : Prop where
  argc : (usersimVaArgc (expandAll items)).toNat = (expandAll items).length
  read : ∃ w, traceLoggingWrite true items = some w ∧ w.turns = items.map Item.expand ∧
    w.turns.map List.head? = items.map (fun item => some item.type.toSlot) ∧
    w.index = (usersimVaArgc (expandAll items)).toNat ∧ w.rest = []

theorem argc_iff : (usersimVaArgc args).toNat = args.length ↔ Counted toSize args := by
  rw [counted_iff toSize_ofNat]
  unfold toSize
  omega

theorem trace_codec (items : List Item) :
    Faithful items ↔
      (∀ item ∈ items, item.Readable) ∧ Counted toSize (expandAll items) := by
  rw [← argc_iff]
  constructor
  · rintro ⟨hargc, w, hw, hturns, -⟩
    refine ⟨?_, hargc⟩
    simp only [traceLoggingWrite, usersimTraceLoggingWrite, if_true, hargc] at hw
    have hlt : (expandAll items).length < 2 ^ 64 := by
      rw [← hargc]
      exact BitVec.isLt _
    exact readable_of_writeLoop hlt _ 0 w (Nat.zero_add _) hw hturns
  · rintro ⟨hread, hargc⟩
    refine ⟨hargc, ?_⟩
    have hlt : (expandAll items).length < 2 ^ 64 := by
      rw [← hargc]
      exact BitVec.isLt _
    refine ⟨{ turns := items.map Item.expand, index := (expandAll items).length, rest := [] },
      ?_, rfl, ?_, hargc.symm, rfl⟩
    · simp only [traceLoggingWrite, usersimTraceLoggingWrite, if_true, hargc]
      exact writeLoop_expandAll hlt hread _ 0 (Nat.lt_succ_self _) (Nat.zero_add _)
    · simp only [List.map_map]
      exact List.map_congr_left fun item _ => head?_expand item

/-- An event with one binary item, its value at some address and with one name. -/
def binaryEvent : List Item := [.binary 0x1000 4 [0x2000]]

theorem binary_is_misread : ¬ Faithful binaryEvent := by
  intro h
  obtain ⟨w, hw, hturns, -⟩ := h.read
  have hrun : ((traceLoggingWrite true binaryEvent).map fun w =>
      decide (w.turns = binaryEvent.map Item.expand)) = some false := by decide +kernel
  rw [hw] at hrun
  simp [hturns] at hrun

end Usersim.Trace
