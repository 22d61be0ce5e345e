import Mathlib.Algebra.Group.Int.Defs
import Mathlib.Data.List.Basic

/-!
# Trace arguments (`TraceLoggingProvider.h`, `platform_user.cpp`)

`TraceLoggingWrite` passes its items as one variadic argument list: every item macro expands to a
type tag, counts and values. `usersim_trace_logging_write` reads the list back with `va_arg` and
keeps an index of its own. Every argument takes one 8-byte slot, whatever its type; a `GUID` is
passed by reference. So an argument list is a list of slots. What is printed is left out.
-/

namespace Usersim.Trace

/-- One argument of a variadic call. -/
abbrev Slot := BitVec 64

/-- `va_arg(valist, int)`. -/
def toInt (slot : Slot) : Int := (slot.setWidth 32).toInt

/-- `usersim_tlg_type_t`. -/
inductive TlgType where
  | level
  | keyword
  | opcode
  | countedUtf8String
  | psz
  | pwsz
  | pointer
  | uint64
  | uint32
  | uint16
  | ipv4Address
  | ntStatus
  | winError
  | int32
  | long
  | bool
  | guid
  | ipv6Address
  | binary
deriving DecidableEq, Repr

/-- The values of the enumeration, in order. -/
def TlgType.all : List TlgType :=
  [.level, .keyword, .opcode, .countedUtf8String, .psz, .pwsz, .pointer, .uint64, .uint32, .uint16,
   .ipv4Address, .ntStatus, .winError, .int32, .long, .bool, .guid, .ipv6Address, .binary]

def TlgType.toSlot (type : TlgType) : Slot := BitVec.ofNat 64 (TlgType.all.idxOf type)

/-- `va_arg(valist, usersim_tlg_type_t)`; other values take the `default` of the switch. -/
def TlgType.ofSlot (slot : Slot) : Option TlgType := TlgType.all[(slot.setWidth 32).toNat]?

/-! ## Counting arguments -/

/-- `USERSIM_GET_NTH_ARG`: the parameter behind `_0` to `_22`. -/
def usersimGetNthArg (args : List Slot) : Slot := args.getD 23 0

/-- The numbers that `USERSIM_COUNT_VA_ARGS` puts behind the arguments. -/
def countDown : List Slot :=
  [22, 21, 20, 19, 18, 17, 16, 15, 14, 13, 12, 11, 10, 9, 8, 7, 6, 5, 4, 3, 2, 1, 0]

def usersimCountVaArgs (args : List Slot) : Slot := usersimGetNthArg (args ++ countDown)

/-- The arguments are put behind an empty one, which also goes in when there are none. -/
def usersimVaArgc (args : List Slot) : Slot := usersimCountVaArgs (0 :: args)

/-! ## The item macros -/

/-- The macros that expand to a tag, the number of their arguments, and the arguments. -/
def variableItem (type : TlgType) (args : List Slot) : List Slot :=
  type.toSlot :: usersimVaArgc args :: args

def traceLoggingNTStatus := variableItem .ntStatus
def traceLoggingString := variableItem .psz
def traceLoggingWideString := variableItem .pwsz
def traceLoggingGuid := variableItem .guid
def traceLoggingUInt64 := variableItem .uint64
def traceLoggingUInt32 := variableItem .uint32
def traceLoggingInt32 := variableItem .int32
def traceLoggingUInt16 := variableItem .uint16
def traceLoggingIPv4Address := variableItem .ipv4Address
def traceLoggingIPv6Address := variableItem .ipv6Address
def traceLoggingLong := variableItem .long
def traceLoggingWinError := variableItem .winError
def traceLoggingPointer := variableItem .pointer
def traceLoggingBool := variableItem .bool

def traceLoggingLevel (level : Slot) : List Slot := [TlgType.level.toSlot, level]
def traceLoggingKeyword (keyword : Slot) : List Slot := [TlgType.keyword.toSlot, keyword]
def traceLoggingOpcode (opcode : Slot) : List Slot := [TlgType.opcode.toSlot, opcode]

/-- A value with its length comes before the number of the arguments that follow it. -/
def countedItem (type : TlgType) (value length : Slot) (args : List Slot) : List Slot :=
  type.toSlot :: value :: length :: usersimVaArgc args :: args

def traceLoggingCountedUtf8String := countedItem .countedUtf8String
def traceLoggingBinary := countedItem .binary

/-- The macros of `variableItem`. -/
inductive ValueKind where
  | ntStatus | string | wideString | guid | uint64 | uint32 | int32 | uint16 | ipv4Address
  | ipv6Address | long | winError | pointer | bool
deriving DecidableEq, Repr

def ValueKind.type : ValueKind → TlgType
  | .ntStatus => .ntStatus
  | .string => .psz
  | .wideString => .pwsz
  | .guid => .guid
  | .uint64 => .uint64
  | .uint32 => .uint32
  | .int32 => .int32
  | .uint16 => .uint16
  | .ipv4Address => .ipv4Address
  | .ipv6Address => .ipv6Address
  | .long => .long
  | .winError => .winError
  | .pointer => .pointer
  | .bool => .bool

/-- An item of an event, with its trailing name and description strings. -/
inductive Item where
  | level (value : Slot)
  | keyword (value : Slot)
  | opcode (value : Slot)
  | countedUtf8String (value length : Slot) (names : List Slot)
  | binary (value length : Slot) (names : List Slot)
  | typed (kind : ValueKind) (value : Slot) (names : List Slot)
deriving DecidableEq, Repr

def ValueKind.expand : ValueKind → List Slot → List Slot
  | .ntStatus => traceLoggingNTStatus
  | .string => traceLoggingString
  | .wideString => traceLoggingWideString
  | .guid => traceLoggingGuid
  | .uint64 => traceLoggingUInt64
  | .uint32 => traceLoggingUInt32
  | .int32 => traceLoggingInt32
  | .uint16 => traceLoggingUInt16
  | .ipv4Address => traceLoggingIPv4Address
  | .ipv6Address => traceLoggingIPv6Address
  | .long => traceLoggingLong
  | .winError => traceLoggingWinError
  | .pointer => traceLoggingPointer
  | .bool => traceLoggingBool

def Item.expand : Item → List Slot
  | .level value => traceLoggingLevel value
  | .keyword value => traceLoggingKeyword value
  | .opcode value => traceLoggingOpcode value
  | .countedUtf8String value length names => traceLoggingCountedUtf8String value length names
  | .binary value length names => traceLoggingBinary value length names
  | .typed kind value names => kind.expand (value :: names)

/-- The arguments behind `argc` of `TraceLoggingWrite`. -/
def expandAll (items : List Item) : List Slot := items.flatMap Item.expand

/-! ## The reader -/

/-- What one turn of the loop has read, and what it has added to the index. -/
structure Turn where
  consumed : List Slot
  increment : Int
  rest : List Slot
deriving DecidableEq, Repr

/-- Read `count` arguments of which the index is told by `i += count`; `none` beyond the end. -/
def readCounted (head : List Slot) (increment : Int) (count : Slot) (rest : List Slot) :
    Option Turn :=
  let n := (toInt count).toNat
  if rest.length < n then none
  else
    some { consumed := head ++ count :: rest.take n
           increment := increment + 1 + toInt count
           rest := rest.drop n }

/-- The case of the switch for a tag; `none` also stands for the exception that a `std::string` of a
negative length throws. -/
def readCase (tag : Slot) (rest : List Slot) : Option TlgType → Option Turn
  | some .level | some .keyword | some .opcode =>
    match rest with
    | [] => none
    | value :: rest => some { consumed := [tag, value], increment := 1, rest := rest }
  | some .countedUtf8String =>
    match rest with
    | value :: size :: count :: rest =>
      if toInt size < 0 then none else readCounted [tag, value, size] 2 count rest
    | _ => none
  | some .psz | some .pwsz | some .pointer | some .uint64 | some .uint32 | some .uint16
  | some .ntStatus | some .winError | some .int32 | some .long | some .bool | some .guid
  | some .ipv4Address | some .ipv6Address =>
    -- `HANDLE_VARIABLE_TYPE`: the value is the first of the arguments that are counted
    match rest with
    | count :: rest => readCounted [tag] 0 count rest
    | [] => none
  | some .binary | none => some { consumed := [tag], increment := 0, rest := rest }

/-- One turn of the loop. -/
def readItem : List Slot → Option Turn
  | [] => none
  | tag :: rest => readCase tag rest (TlgType.ofSlot tag)

/-- What the loop has read, turn by turn, and what it has left. -/
structure Written where
  turns : List (List Slot)
  index : Nat
  rest : List Slot
deriving DecidableEq, Repr

/-- The loop. The index is a `size_t`, and adding a negative `count` to it wraps. -/
def writeLoop (argc : Nat) : Nat → Nat → List Slot → Option Written
  | 0, _, _ => none
  | fuel + 1, i, args =>
    if i < argc then
      (readItem args).bind fun turn =>
        let next := ((i + turn.increment + 1) % 2 ^ 64).toNat
        (writeLoop argc fuel next turn.rest).map fun w =>
          { w with turns := turn.consumed :: w.turns }
    else some { turns := [], index := i, rest := args }

/-- `usersim_trace_logging_write`; every turn reads at least its tag. -/
def usersimTraceLoggingWrite (enabled : Bool) (argc : Slot) (args : List Slot) : Option Written :=
  if enabled then writeLoop argc.toNat (args.length + 1) 0 args
  else some { turns := [], index := 0, rest := args }

/-- `TraceLoggingWrite` of a list of items. -/
def traceLoggingWrite (enabled : Bool) (items : List Item) : Option Written :=
  usersimTraceLoggingWrite enabled (usersimVaArgc (expandAll items)) (expandAll items)

end Usersim.Trace
