import Usersim.Lib.Run
import Usersim.Lib.Text
import Usersim.Trace.Codec

/-!
# The trace statements (`tracelog.h`, `tracelog.c`)

A trace macro asks whether the provider is enabled, and calls a function with the constants of two
enumerations that stand for its level and its keyword. The function finds the level and the keyword
again in a switch for each, and writes an event; `usersim_trace_logging_write` prints what it reads
of the arguments. Some macros write their event without asking.

What an address stands for and what the system formats is outside. A statement is one step: the
settings are those of one thread, and its text is not interrupted.

* `printEvent_eq` — what is printed of an event is what its items say
* `trace_statements_printed` — which statements of a run are printed, and as what
-/

namespace Usersim.Trace

open Lib

/-! ## What is printed -/

/-- What addresses stand for, and what the system makes of them. -/
structure Outside where
  /-- `%s` -/
  string : Slot → List Char
  /-- `%ls` -/
  wideString : Slot → List Char
  /-- `%p` -/
  pointer : Slot → List Char
  /-- The characters at an address, as far as a length. -/
  characters : Slot → Nat → List Char
  /-- `UuidToStringA`, if it succeeds. -/
  uuidToString : Slot → Option (List Char)
  ipv4AddressToString : BitVec 32 → List Char
  ipv6AddressToString : Slot → List Char
  /-- Where a string literal is. -/
  literal : String → Slot

variable (out : Outside)

def quoted (text : List Char) : List Char := ",\"".toList ++ text ++ ['"']

/-- `printf(",\"%s\"", str)` for the strings behind a value. -/
def namesText (names : List Slot) : List Char := names.flatMap fun name => quoted (out.string name)

/-- The value of an item whose tag is `type`. -/
def valueText (type : TlgType) (value : Slot) : List Char :=
  match type with
  | .psz => quoted (out.string value)
  | .pwsz => quoted (out.wideString value)
  | .pointer => ',' :: out.pointer value
  | .uint64 => ',' :: decimal value.toNat
  | .uint32 => ',' :: decimal (value.setWidth 32).toNat
  | .uint16 => ',' :: decimal (value.setWidth 16).toNat
  | .ntStatus => ',' :: hex (value.setWidth 32).toNat
  | .winError | .int32 | .long | .bool => ',' :: decimalInt (toInt value)
  | .guid => ((out.uuidToString value).map fun text => ',' :: text).getD []
  | .ipv4Address => quoted (out.ipv4AddressToString (value.setWidth 32))
  | .ipv6Address => quoted (out.ipv6AddressToString value)
  | .level | .keyword | .opcode | .countedUtf8String | .binary => []

/-- A `std::string` of a length, as `%s` prints it. -/
def countedText (value : Slot) (length : Nat) : List Char :=
  ',' :: (out.characters value length).takeWhile (· ≠ '\x00')

/-- A case of the switch, from what it has read behind the tag. -/
def caseText (tag : Slot) (args : List Slot) : Option TlgType → List Char
  | some .level | some .keyword | some .opcode => []
  | some .countedUtf8String =>
    match args with
    | value :: size :: _ :: names =>
      countedText out value (toInt size).toNat ++ namesText out names
    | _ => []
  | some .binary | none => "<type ".toList ++ hex (tag.setWidth 32).toNat ++ ['>']
  | some type =>
    match args with
    | _ :: value :: names => valueText out type value ++ namesText out names
    | _ => []

def turnText : List Slot → List Char
  | [] => []
  | tag :: args => caseText out tag args (TlgType.ofSlot tag)

structure Event where
  name : String
  items : List Item

/-- `TraceLoggingWrite`, with what `usersim_trace_logging_write` prints. -/
def printEvent (enabled : Bool) (event : Event) : Option (List Char) :=
  if enabled then do
    let w ← traceLoggingWrite enabled event.items
    some ('{' :: event.name.toList ++ w.turns.flatMap (turnText out) ++ "\x7d\n".toList)
  else some []

/-! ## Levels and keywords -/

/-- `usersim_tracelog_level_t` -/
inductive Level where
  | logAlways
  | critical
  | error
  | warning
  | info
  | verbose
deriving DecidableEq, Repr

/-- The constants of the enumeration. -/
def Level.constant : Level → BitVec 32
  | .logAlways => 0
  | .critical => 1
  | .error => 2
  | .warning => 3
  | .info => 4
  | .verbose => 5

/-- `WINEVENT_LEVEL_LOG_ALWAYS` and the others. -/
def Level.winevent : Level → BitVec 8
  | .logAlways => 0
  | .critical => 1
  | .error => 2
  | .warning => 3
  | .info => 4
  | .verbose => 5

def Level.item (level : Level) : Item := .level (level.winevent.setWidth 64)

/-- `usersim_tracelog_keyword_t` -/
inductive Keyword where
  | functionEntryExit
  | base
  | error
  | epoch
  | core
  | link
  | map
  | program
  | api
  | printk
  | native
deriving DecidableEq, Repr

/-- The constants of the enumeration. -/
def Keyword.constant : Keyword → BitVec 32
  | .functionEntryExit => 0
  | .base => 1
  | .error => 2
  | .epoch => 3
  | .core => 4
  | .link => 5
  | .map => 6
  | .program => 7
  | .api => 8
  | .printk => 9
  | .native => 10

/-- `USERSIM_TRACELOG_KEYWORD_FUNCTION_ENTRY_EXIT` and the others. -/
def Keyword.mask : Keyword → BitVec 64
  | .functionEntryExit => 0x1
  | .base => 0x2
  | .error => 0x4
  | .epoch => 0x8
  | .core => 0x10
  | .link => 0x20
  | .map => 0x40
  | .program => 0x80
  | .api => 0x100
  | .printk => 0x200
  | .native => 0x400

def Keyword.item (keyword : Keyword) : Item := .keyword keyword.mask

/-- `switch (trace_level)`: the labels are the `WINEVENT_LEVEL_` constants. -/
def levelSwitch (traceLevel : BitVec 32) (write : Level → Option Event) : Option Event :=
  if traceLevel = Level.logAlways.winevent.setWidth 32 then write .logAlways
  else if traceLevel = Level.critical.winevent.setWidth 32 then write .critical
  else if traceLevel = Level.error.winevent.setWidth 32 then write .error
  else if traceLevel = Level.warning.winevent.setWidth 32 then write .warning
  else if traceLevel = Level.info.winevent.setWidth 32 then write .info
  else if traceLevel = Level.verbose.winevent.setWidth 32 then write .verbose
  else none

/-- `switch (keyword)`, the same in every function. -/
def keywordSwitch (keyword : BitVec 32) (write : Keyword → Event) : Option Event :=
  if keyword = Keyword.functionEntryExit.constant then some (write .functionEntryExit)
  else if keyword = Keyword.base.constant then some (write .base)
  else if keyword = Keyword.error.constant then some (write .error)
  else if keyword = Keyword.epoch.constant then some (write .epoch)
  else if keyword = Keyword.core.constant then some (write .core)
  else if keyword = Keyword.link.constant then some (write .link)
  else if keyword = Keyword.map.constant then some (write .map)
  else if keyword = Keyword.program.constant then some (write .program)
  else if keyword = Keyword.api.constant then some (write .api)
  else if keyword = Keyword.printk.constant then some (write .printk)
  else if keyword = Keyword.native.constant then some (write .native)
  else none

/-! ## The functions of `tracelog.c` -/

def messageEvent (level : Level) (keyword : Keyword) (message : Slot) (items : List Item) :
    Event where
  name := "UsersimGenericMessage"
  items := level.item :: keyword.item :: .typed .string message [out.literal "Message"] :: items

def apiErrorEvent (level : Level) (keyword : Keyword) (items : List Item) : Event where
  name := "UsersimApiError"
  items := level.item :: keyword.item :: items

/-- The functions for messages differ in what they put behind the message. -/
def logMessage (traceLevel keyword : BitVec 32) (message : Slot) (items : List Item) :
    Option Event :=
  levelSwitch traceLevel fun level =>
    keywordSwitch keyword fun keyword => messageEvent out level keyword message items

def usersimLogMessage (traceLevel keyword : BitVec 32) (message : Slot) : Option Event :=
  logMessage out traceLevel keyword message []

def usersimLogMessageString (traceLevel keyword : BitVec 32) (message stringValue : Slot) :
    Option Event :=
  logMessage out traceLevel keyword message
    [.typed .string stringValue [out.literal "string_value"]]

/-- The length is cast to an `unsigned long`. -/
def usersimLogMessageUtf8String (traceLevel keyword : BitVec 32) (message value : Slot)
    (length : BitVec 64) : Option Event :=
  logMessage out traceLevel keyword message
    [.countedUtf8String value ((length.setWidth 32).setWidth 64) [out.literal "string"]]

def usersimLogMessageWstring (traceLevel keyword : BitVec 32) (message wstring : Slot) :
    Option Event :=
  logMessage out traceLevel keyword message [.typed .wideString wstring [out.literal "wstring"]]

def usersimLogMessageGuidGuidString (traceLevel keyword : BitVec 32)
    (message string guid1 guid2 : Slot) : Option Event :=
  logMessage out traceLevel keyword message
    [.typed .string string [out.literal "string"], .typed .guid guid1 [out.literal "*guid1"],
      .typed .guid guid2 [out.literal "*guid2"]]

def usersimLogMessageGuidGuid (traceLevel keyword : BitVec 32) (message guid1 guid2 : Slot) :
    Option Event :=
  logMessage out traceLevel keyword message
    [.typed .guid guid1 [out.literal "*guid1"], .typed .guid guid2 [out.literal "*guid2"]]

def usersimLogMessageGuid (traceLevel keyword : BitVec 32) (message guid : Slot) : Option Event :=
  logMessage out traceLevel keyword message [.typed .guid guid [out.literal "*guid"]]

def usersimLogMessageNtstatus (traceLevel keyword : BitVec 32) (message : Slot)
    (status : BitVec 32) : Option Event :=
  logMessage out traceLevel keyword message [.typed .ntStatus (status.setWidth 64) []]

def usersimLogMessageUint64 (traceLevel keyword : BitVec 32) (message : Slot) (value : BitVec 64) :
    Option Event :=
  logMessage out traceLevel keyword message [.typed .uint64 value [out.literal "value"]]

def usersimLogMessageUint64Uint64 (traceLevel keyword : BitVec 32) (message : Slot)
    (value1 value2 : BitVec 64) : Option Event :=
  logMessage out traceLevel keyword message
    [.typed .uint64 value1 [out.literal "value1"], .typed .uint64 value2 [out.literal "value2"]]

def usersimLogMessageError (traceLevel keyword : BitVec 32) (message : Slot) (error : BitVec 32) :
    Option Event :=
  logMessage out traceLevel keyword message [.typed .winError (error.setWidth 64) []]

def usersimLogNtstatusApiFailure (keyword : BitVec 32) (apiName : Slot) (status : BitVec 32) :
    Option Event :=
  keywordSwitch keyword fun keyword => apiErrorEvent .error keyword
    [.typed .string apiName [out.literal "Api"], .typed .ntStatus (status.setWidth 64) []]

def usersimLogNtstatusApiFailureMessage (keyword : BitVec 32) (apiName : Slot) (status : BitVec 32)
    (message : Slot) : Option Event :=
  keywordSwitch keyword fun keyword => apiErrorEvent .error keyword
    [.typed .string apiName [out.literal "api"], .typed .ntStatus (status.setWidth 64) [],
      .typed .string message [out.literal "Message"]]

def usersimLogNtstatusWstringApi (keyword : BitVec 32) (wstring api : Slot) (status : BitVec 32) :
    Option Event :=
  keywordSwitch keyword fun keyword => apiErrorEvent .info keyword
    [.typed .wideString wstring [out.literal "Message"], .typed .string api [out.literal "Api"],
      .typed .ntStatus (status.setWidth 64) []]

/-! ## The macros of `tracelog.h` -/

/-- What `usersim_trace_logging_set_enabled` sets. -/
structure Settings where
  enabled : Bool
  eventLevel : BitVec 8
  eventKeyword : BitVec 64
deriving DecidableEq, Repr

def Settings.init : Settings := ⟨false, 0, 0⟩

def usersimTraceLoggingProviderEnabled (settings : Settings) (eventLevel : BitVec 8)
    (eventKeyword : BitVec 64) : Bool :=
  eventLevel ≤ settings.eventLevel && settings.eventKeyword &&& eventKeyword != 0

/-- What a macro for a message puts behind it; the length of a string is a `size_t`. -/
inductive Payload where
  | nothing
  | string (value : Slot)
  | utf8String (value : Slot) (length : BitVec 64)
  | ntstatus (status : BitVec 32)
  | uint64 (value : BitVec 64)
  | uint64Uint64 (value1 value2 : BitVec 64)
  | error (code : BitVec 32)
  | wstring (value : Slot)
  | guidGuidString (value guid1 guid2 : Slot)
  | guidGuid (guid1 guid2 : Slot)
  | guid (value : Slot)
deriving DecidableEq, Repr

/-- The function that the macro calls. -/
def Payload.log (traceLevel keyword : BitVec 32) (message : Slot) : Payload → Option Event
  | .nothing => usersimLogMessage out traceLevel keyword message
  | .string value => usersimLogMessageString out traceLevel keyword message value
  | .utf8String value length =>
    usersimLogMessageUtf8String out traceLevel keyword message value length
  | .ntstatus status => usersimLogMessageNtstatus out traceLevel keyword message status
  | .uint64 value => usersimLogMessageUint64 out traceLevel keyword message value
  | .uint64Uint64 value1 value2 =>
    usersimLogMessageUint64Uint64 out traceLevel keyword message value1 value2
  | .error code => usersimLogMessageError out traceLevel keyword message code
  | .wstring value => usersimLogMessageWstring out traceLevel keyword message value
  | .guidGuidString value guid1 guid2 =>
    usersimLogMessageGuidGuidString out traceLevel keyword message value guid1 guid2
  | .guidGuid guid1 guid2 => usersimLogMessageGuidGuid out traceLevel keyword message guid1 guid2
  | .guid value => usersimLogMessageGuid out traceLevel keyword message value

/-- What a macro writes that reports what a function returns, or an error of the system. -/
inductive Report where
  | pointer (function value name : Slot)
  | bool (function : Slot) (flag : Bool) (name : Slot)
  | fd (function : Slot) (value : BitVec 32) (name : Slot)
  | win32Api (keyword : Keyword) (api : Slot) (lastError : BitVec 32)
  | win32StringApi (keyword : Keyword) (message api : Slot) (lastError : BitVec 32)
  | win32WstringApi (keyword : Keyword) (wstring api : Slot) (lastError : BitVec 32)
  | win32GuidApi (keyword : Keyword) (guid name api : Slot) (lastError : BitVec 32)
  | pointerEnum (level : Level) (keyword : Keyword) (message value name : Slot)
      (number : BitVec 32) (numberName : Slot)
deriving DecidableEq, Repr

def returnEvent (function : Slot) (item : Item) : Event where
  name := "UsersimReturn"
  items := [Level.verbose.item, Keyword.base.item, .typed .string function [], item]

def win32Event (keyword : Keyword) (items : List Item) (api : Slot) (lastError : BitVec 32) :
    Event :=
  apiErrorEvent .error keyword <| items ++
    [.typed .string api [out.literal "Api"], .typed .winError (lastError.setWidth 64) []]

/-- `USERSIM_RETURN_POINTER`, `_BOOL` and `_FD`, the macros for an error of the Win32 API, and
`USERSIM_LOG_MESSAGE_POINTER_ENUM`: none of them asks whether the provider is enabled. -/
def Report.event : Report → Event
  | .pointer function value name => returnEvent function (.typed .pointer value [name])
  | .bool function flag name =>
    returnEvent function (.typed .bool (BitVec.ofNat 64 flag.toNat) [name])
  | .fd function value name => returnEvent function (.typed .int32 (value.setWidth 64) [name])
  | .win32Api keyword api lastError => win32Event out keyword [] api lastError
  | .win32StringApi keyword message api lastError =>
    win32Event out keyword [.typed .string message [out.literal "Message"]] api lastError
  | .win32WstringApi keyword wstring api lastError =>
    win32Event out keyword [.typed .wideString wstring [out.literal "Message"]] api lastError
  | .win32GuidApi keyword guid name api lastError =>
    win32Event out keyword [.typed .guid guid [name]] api lastError
  | .pointerEnum level keyword message value name number numberName =>
    messageEvent out level keyword message
      [.typed .pointer value [name], .typed .uint32 (number.setWidth 64) [numberName]]

def successEvent (message : Slot) : Event where
  name := "UsersimSuccess"
  items := [Level.verbose.item, Keyword.base.item, .typed .string message [out.literal "Message"]]

def errorEvent (message : Slot) (result : BitVec 32) : Event where
  name := "UsersimGenericError"
  items := [Level.error.item, Keyword.base.item,
    .typed .string message [out.literal "ErrorMessage"],
    .typed .long (result.setWidth 64) [out.literal "Error"]]

/-- `WINEVENT_OPCODE_START` is 1 and `WINEVENT_OPCODE_STOP` is 2. -/
def entryExitEvent (opcode : Slot) (function : Slot) (name : String) : Event where
  name := "UsersimGenericMessage"
  items := [Level.verbose.item, Keyword.functionEntryExit.item, .opcode opcode,
    .typed .string function [out.literal name]]

/-- A macro with its arguments; a function gives the address of a text with its name. -/
inductive Statement where
  | entry (function : Slot)
  | exit (function : Slot)
  /-- `USERSIM_RETURN_RESULT` and `USERSIM_RETURN_ERROR`. -/
  | returnResult (success error : Slot) (result : BitVec 32)
  | returnNtstatus (success error : Slot) (status : BitVec 32)
  | ntstatusApiFailure (keyword : Keyword) (api : Slot) (status : BitVec 32)
  | ntstatusApiFailureMessage (keyword : Keyword) (api : Slot) (status : BitVec 32) (text : Slot)
  | ntstatusWstringApi (keyword : Keyword) (wstring api : Slot) (status : BitVec 32)
  | message (level : Level) (keyword : Keyword) (text : Slot) (payload : Payload)
  | report (what : Report)
deriving DecidableEq, Repr

/-- `if (TraceLoggingProviderEnabled(usersim_tracelog_provider, level, keyword))`. -/
def ifEnabled (settings : Settings) (level : BitVec 8) (keyword : Keyword) (event : Option Event) :
    Option Event :=
  if usersimTraceLoggingProviderEnabled settings level keyword.mask then event else none

/-- `USERSIM_LOG_FUNCTION_SUCCESS` or `USERSIM_LOG_FUNCTION_ERROR`. -/
def logFunction (settings : Settings) (succeeded : Bool) (success error : Slot)
    (result : BitVec 32) : Option Event :=
  if succeeded then
    ifEnabled settings Level.verbose.winevent .base (some (successEvent out success))
  else ifEnabled settings Level.verbose.winevent .base (some (errorEvent out error result))

/-- The event that a statement writes. -/
def Statement.write (settings : Settings) : Statement → Option Event
  | .entry function =>
    ifEnabled settings Level.verbose.winevent .functionEntryExit
      (some (entryExitEvent out 1 function "Entry"))
  | .exit function =>
    ifEnabled settings Level.verbose.winevent .functionEntryExit
      (some (entryExitEvent out 2 function "Exit"))
  | .returnResult success error result =>
    logFunction out settings (result == 0) success error result
  | .returnNtstatus success error status =>
    logFunction out settings (0 ≤ status.toInt) success error status
  | .ntstatusApiFailure keyword api status =>
    ifEnabled settings 0 keyword (usersimLogNtstatusApiFailure out keyword.constant api status)
  | .ntstatusApiFailureMessage keyword api status text =>
    ifEnabled settings 0 keyword
      (usersimLogNtstatusApiFailureMessage out keyword.constant api status text)
  | .ntstatusWstringApi keyword wstring api status =>
    ifEnabled settings 0 keyword
      (usersimLogNtstatusWstringApi out keyword.constant wstring api status)
  | .message level keyword text payload =>
    ifEnabled settings level.winevent keyword
      (payload.log out level.constant keyword.constant text)
  | .report what => some (what.event out)

inductive Action where
  /-- `usersim_trace_logging_set_enabled` -/
  | setEnabled (settings : Settings)
  | trace (statement : Statement)
deriving DecidableEq, Repr

structure State where
  settings : Settings
  printed : List Char
deriving DecidableEq, Repr

def State.init : State := ⟨.init, []⟩

/-- `none` is an access behind the arguments of an event, or an exception. -/
def step (s : State) : Action → Option State
  | .setEnabled settings => some { s with settings := settings }
  | .trace statement =>
    match statement.write out s.settings with
    | none => some s
    | some event =>
      (printEvent out s.settings.enabled event).map fun text =>
        { s with printed := s.printed ++ text }

/-! ## What should be printed -/

def itemText : Item → List Char
  | .level _ | .keyword _ | .opcode _ | .binary .. => []
  | .countedUtf8String value length names =>
    countedText out value (toInt length).toNat ++ namesText out names
  | .typed kind value names => valueText out kind.type value ++ namesText out names

def eventText (event : Event) : List Char :=
  '{' :: event.name.toList ++ event.items.flatMap (itemText out) ++ "\x7d\n".toList

/-- The level and the keyword that a statement asks for, if it asks. -/
def Statement.gate : Statement → Option (BitVec 8 × Keyword)
  | .entry _ | .exit _ => some (Level.verbose.winevent, .functionEntryExit)
  | .returnResult .. | .returnNtstatus .. => some (Level.verbose.winevent, .base)
  | .ntstatusApiFailure keyword .. | .ntstatusApiFailureMessage keyword ..
  | .ntstatusWstringApi keyword .. => some (0, keyword)
  | .message level keyword .. => some (level.winevent, keyword)
  | .report _ => none

def Payload.items : Payload → List Item
  | .nothing => []
  | .string value => [.typed .string value [out.literal "string_value"]]
  | .utf8String value length =>
    [.countedUtf8String value ((length.setWidth 32).setWidth 64) [out.literal "string"]]
  | .ntstatus status => [.typed .ntStatus (status.setWidth 64) []]
  | .uint64 value => [.typed .uint64 value [out.literal "value"]]
  | .uint64Uint64 value1 value2 =>
    [.typed .uint64 value1 [out.literal "value1"], .typed .uint64 value2 [out.literal "value2"]]
  | .error code => [.typed .winError (code.setWidth 64) []]
  | .wstring value => [.typed .wideString value [out.literal "wstring"]]
  | .guidGuidString value guid1 guid2 =>
    [.typed .string value [out.literal "string"], .typed .guid guid1 [out.literal "*guid1"],
      .typed .guid guid2 [out.literal "*guid2"]]
  | .guidGuid guid1 guid2 =>
    [.typed .guid guid1 [out.literal "*guid1"], .typed .guid guid2 [out.literal "*guid2"]]
  | .guid value => [.typed .guid value [out.literal "*guid"]]

def Statement.event : Statement → Event
  | .entry function => entryExitEvent out 1 function "Entry"
  | .exit function => entryExitEvent out 2 function "Exit"
  | .returnResult success error result =>
    if result = 0 then successEvent out success else errorEvent out error result
  | .returnNtstatus success error status =>
    if 0 ≤ status.toInt then successEvent out success else errorEvent out error status
  | .ntstatusApiFailure keyword api status => apiErrorEvent .error keyword
    [.typed .string api [out.literal "Api"], .typed .ntStatus (status.setWidth 64) []]
  | .ntstatusApiFailureMessage keyword api status text => apiErrorEvent .error keyword
    [.typed .string api [out.literal "api"], .typed .ntStatus (status.setWidth 64) [],
      .typed .string text [out.literal "Message"]]
  | .ntstatusWstringApi keyword wstring api status => apiErrorEvent .info keyword
    [.typed .wideString wstring [out.literal "Message"], .typed .string api [out.literal "Api"],
      .typed .ntStatus (status.setWidth 64) []]
  | .message level keyword text payload => messageEvent out level keyword text (payload.items out)
  | .report what => what.event out

/-- The level and the keyword that a statement asks for are set. -/
def Statement.Allowed (settings : Settings) (statement : Statement) : Prop :=
  ∀ gate ∈ statement.gate,
    gate.1 ≤ settings.eventLevel ∧ settings.eventKeyword &&& gate.2.mask ≠ 0

def Statement.Enabled (settings : Settings) (statement : Statement) : Prop :=
  settings.enabled = true ∧ statement.Allowed settings

instance (settings : Settings) (statement : Statement) : Decidable (statement.Allowed settings) :=
  inferInstanceAs (Decidable (∀ _ ∈ statement.gate, _ ∧ _))

instance (settings : Settings) (statement : Statement) : Decidable (statement.Enabled settings) :=
  inferInstanceAs (Decidable (_ ∧ _))

/-- The statements that are enabled when they are reached. -/
def enabledStatements : Settings → List Action → List Statement
  | _, [] => []
  | _, .setEnabled settings :: actions => enabledStatements settings actions
  | settings, .trace statement :: actions =>
    if statement.Enabled settings then statement :: enabledStatements settings actions
    else enabledStatements settings actions

/-- A string that is logged with its length is shorter than 2 GiB. -/
def Action.Sized : Action → Prop
  | .trace (.message _ _ _ (.utf8String _ length)) => length.toNat < 2 ^ 31
  | _ => True

variable {out}

/-! ## One event -/

/-- The reader has a case for every item, and the macros count right. -/
structure Event.Printable (event : Event) : Prop where
  readable : ∀ item ∈ event.items, item.Readable
  length_le : (expandAll event.items).length ≤ 22

theorem turnText_expand {item : Item} (hread : item.Readable) :
    turnText out item.expand = itemText out item := by
  cases item with
  | level value | keyword value | opcode value => rfl
  | countedUtf8String value length names =>
    simp only [Item.expand, traceLoggingCountedUtf8String, countedItem, turnText, ofSlot_toSlot]
    rfl
  | binary value length names => exact hread.elim
  | typed kind value names =>
    simp only [Item.expand, ValueKind.expand_eq, variableItem, turnText, ofSlot_toSlot]
    cases kind <;> rfl

theorem turnsText_map {items : List Item} (hread : ∀ item ∈ items, item.Readable) :
    (items.map Item.expand).flatMap (turnText out) = items.flatMap (itemText out) := by
  rw [List.flatMap_map]
  exact List.flatMap_congr fun item hitem => turnText_expand (hread item hitem)

/-- What is printed of an event is what its items say. -/
theorem printEvent_eq {event : Event} (h : event.Printable) (enabled : Bool) :
    printEvent out enabled event = some (if enabled then eventText out event else []) := by
  cases enabled with
  | false => rfl
  | true =>
    have hargc := argc_iff.mpr (.inl h.length_le)
    have hlt : (expandAll event.items).length < 2 ^ 64 := by
      rw [← hargc]
      exact BitVec.isLt _
    have hread : traceLoggingWrite true event.items = some
        { turns := event.items.map Item.expand, index := (expandAll event.items).length
          rest := [] } := by
      simp only [traceLoggingWrite, usersimTraceLoggingWrite, if_true, hargc]
      exact writeLoop_expandAll hlt h.readable _ 0 (Nat.lt_succ_self _) (Nat.zero_add _)
    rw [printEvent, if_pos rfl, hread, if_pos rfl]
    simp only [Option.bind_eq_bind, Option.bind_some, turnsText_map h.readable]
    rfl

/-! ## The statements -/

theorem levelSwitch_constant (level : Level) (write : Level → Option Event) :
    levelSwitch level.constant write = write level := by
  cases level <;> rfl

theorem keywordSwitch_constant (keyword : Keyword) (write : Keyword → Event) :
    keywordSwitch keyword.constant write = some (write keyword) := by
  cases keyword <;> rfl

theorem logMessage_constant (level : Level) (keyword : Keyword) (message : Slot)
    (items : List Item) : logMessage out level.constant keyword.constant message items =
      some (messageEvent out level keyword message items) := by
  rw [logMessage, levelSwitch_constant, keywordSwitch_constant]

theorem payload_log (level : Level) (keyword : Keyword) (message : Slot) (payload : Payload) :
    payload.log out level.constant keyword.constant message =
      some (messageEvent out level keyword message (payload.items out)) := by
  cases payload <;> exact logMessage_constant level keyword message _

theorem ifEnabled_eq {settings : Settings} {statement : Statement} {level : BitVec 8}
    {keyword : Keyword} (hgate : statement.gate = some (level, keyword)) (event : Event) :
    ifEnabled settings level keyword (some event) =
      if statement.Allowed settings then some event else none := by
  simp [ifEnabled, usersimTraceLoggingProviderEnabled, Statement.Allowed, hgate]

/-- A statement is written if its level and its keyword are set; a report does not ask. -/
theorem write_eq (settings : Settings) (statement : Statement) :
    statement.write out settings =
      if statement.Allowed settings then some (statement.event out) else none := by
  cases statement with
  | entry function | exit function => exact ifEnabled_eq rfl _
  | returnResult success error result | returnNtstatus success error status =>
    simp only [Statement.write, logFunction, Statement.event, beq_iff_eq, decide_eq_true_eq]
    split
    · exact ifEnabled_eq rfl _
    · exact ifEnabled_eq rfl _
  | ntstatusApiFailure keyword api status | ntstatusApiFailureMessage keyword api status text
  | ntstatusWstringApi keyword wstring api status =>
    exact (congrArg _ (keywordSwitch_constant keyword _)).trans (ifEnabled_eq rfl _)
  | message level keyword text payload =>
    exact (congrArg _ (payload_log level keyword text payload)).trans (ifEnabled_eq rfl _)
  | report what =>
    refine (if_pos fun gate hgate => ?_).symm
    cases hgate

/-- The length of a counted string is no negative `int`. -/
def Item.Sized : Item → Prop
  | .countedUtf8String _ length _ => 0 ≤ toInt length
  | _ => True

/-- An item that the reader has a case for, whatever its arguments are. -/
def Item.Plain (item : Item) : Prop := item.type ≠ .binary ∧ item.Sized

@[simp] theorem plain_level (level : Level) : level.item.Plain := ⟨by rintro ⟨⟩, trivial⟩

@[simp] theorem plain_keyword (keyword : Keyword) : keyword.item.Plain := ⟨by rintro ⟨⟩, trivial⟩

@[simp] theorem plain_opcode (opcode : Slot) : (Item.opcode opcode).Plain := ⟨by rintro ⟨⟩, trivial⟩

@[simp] theorem plain_typed (kind : ValueKind) (value : Slot) (names : List Slot) :
    (Item.typed kind value names).Plain := by
  cases kind <;> exact ⟨by rintro ⟨⟩, trivial⟩

theorem Item.Plain.readable {item : Item} (h : item.Plain) (hlength : item.expand.length ≤ 22) :
    item.Readable := by
  cases item with
  | level value | keyword value | opcode value => trivial
  | countedUtf8String value length names =>
    have hnames : names.length + 4 ≤ 22 := hlength
    exact ⟨h.2, .inl (by omega)⟩
  | binary value length names => exact absurd rfl h.1
  | typed kind value names =>
    rw [Item.expand, ValueKind.expand_eq] at hlength
    have hnames : names.length + 3 ≤ 22 := hlength
    exact .inl (by rw [List.length_cons]; omega)

/-- An event of few arguments is printable, whatever they are. -/
theorem printable_of_plain {event : Event} (hplain : ∀ item ∈ event.items, item.Plain)
    (h : (expandAll event.items).length ≤ 22) : event.Printable where
  readable := by
    intro item hitem
    have hlength : item.expand.length ≤ (expandAll event.items).length := by
      rw [expandAll, List.flatMap_def]
      exact (List.sublist_flatten_of_mem (List.mem_map_of_mem hitem)).length_le
    exact (hplain item hitem).readable (hlength.trans h)
  length_le := h

theorem printable_message (level : Level) (keyword : Keyword) (text : Slot) {payload : Payload}
    (h : (Action.trace (.message level keyword text payload)).Sized) :
    (messageEvent out level keyword text (payload.items out)).Printable := by
  cases payload with
  | utf8String value length =>
    have hsized : 0 ≤ toInt ((length.setWidth 32).setWidth 64) := by
      have hlt : length.toNat < 2 ^ 31 := h
      rw [toInt, BitVec.toInt_eq_toNat_of_lt (by bv_omega)]
      exact Int.natCast_nonneg _
    have hplain : (Item.countedUtf8String value ((length.setWidth 32).setWidth 64)
        [out.literal "string"]).Plain := ⟨by rintro ⟨⟩, hsized⟩
    exact printable_of_plain (by simp [messageEvent, Payload.items, hplain])
      (Nat.le_of_ble_eq_true rfl)
  | _ =>
    exact printable_of_plain (by simp [messageEvent, Payload.items]) (Nat.le_of_ble_eq_true rfl)

theorem printable_report (what : Report) : (what.event out).Printable := by
  cases what <;>
    exact printable_of_plain
      (by simp [Report.event, returnEvent, win32Event, apiErrorEvent, messageEvent])
      (Nat.le_of_ble_eq_true rfl)

theorem printable_success (message : Slot) : (successEvent out message).Printable :=
  printable_of_plain (by simp [successEvent]) (Nat.le_of_ble_eq_true rfl)

theorem printable_error (message : Slot) (result : BitVec 32) :
    (errorEvent out message result).Printable :=
  printable_of_plain (by simp [errorEvent]) (Nat.le_of_ble_eq_true rfl)

/-- No statement has more arguments than the macros count. -/
theorem printable_event {statement : Statement} (h : (Action.trace statement).Sized) :
    (statement.event out).Printable := by
  cases statement with
  | entry function | exit function =>
    exact printable_of_plain (by simp [Statement.event, entryExitEvent])
      (Nat.le_of_ble_eq_true rfl)
  | returnResult success error result | returnNtstatus success error status =>
    simp only [Statement.event]
    split
    · exact printable_success success
    · exact printable_error error _
  | ntstatusApiFailure keyword api status | ntstatusApiFailureMessage keyword api status text
  | ntstatusWstringApi keyword wstring api status =>
    exact printable_of_plain (by simp [Statement.event, apiErrorEvent])
      (Nat.le_of_ble_eq_true rfl)
  | message level keyword text payload => exact printable_message level keyword text h
  | report what => exact printable_report what

/-! ## Runs -/

/-- A statement prints its event if it is enabled, and nothing if it is not. -/
theorem step_trace (s : State) {statement : Statement} (h : (Action.trace statement).Sized) :
    step out s (.trace statement) = some { s with
      printed := s.printed ++
        if statement.Enabled s.settings then eventText out (statement.event out) else [] } := by
  simp only [step, write_eq]
  by_cases hallowed : statement.Allowed s.settings
  · have henabled : statement.Enabled s.settings ↔ s.settings.enabled = true :=
      and_iff_left hallowed
    simp only [if_pos hallowed, printEvent_eq (printable_event h), Option.map_some, henabled]
  · have hdisabled : ¬ statement.Enabled s.settings := fun henabled => hallowed henabled.2
    simp only [if_neg hallowed, if_neg hdisabled, List.append_nil]

theorem exec_printed {actions : List Action} (h : ∀ a ∈ actions, a.Sized) (s : State) :
    ∃ s', exec (step out) s actions = some s' ∧ s'.printed = s.printed ++
      (enabledStatements s.settings actions).flatMap fun statement =>
        eventText out (statement.event out) := by
  induction actions generalizing s with
  | nil => exact ⟨s, rfl, (List.append_nil _).symm⟩
  | cons a actions ih =>
    rw [List.forall_mem_cons] at h
    cases a with
    | setEnabled settings => exact ih h.2 _
    | trace statement =>
      rw [exec_cons, step_trace s h.1, Option.bind_some]
      obtain ⟨s', hs', hprinted⟩ := ih h.2 { s with
        printed := s.printed ++
          if statement.Enabled s.settings then eventText out (statement.event out) else [] }
      refine ⟨s', hs', ?_⟩
      rw [hprinted, enabledStatements]
      split <;> simp

/-- In every run, the statements that are enabled when they are reached are printed, in their order,
each with its level's and keyword's own event and every value as it was passed; no other statement
prints anything, and no event is misread. -/
theorem trace_statements_printed (out : Outside) (actions : List Action)
    (h : ∀ a ∈ actions, a.Sized) :
    ∃ s, exec (step out) .init actions = some s ∧
      s.printed = (enabledStatements .init actions).flatMap fun statement =>
        eventText out (statement.event out) := by
  obtain ⟨s, hs, hprinted⟩ := exec_printed h .init
  exact ⟨s, hs, hprinted⟩

def fixedOutside : Outside where
  string := fun _ => "text".toList
  wideString := fun _ => "text".toList
  pointer := fun value => zeroPadded 16 value.toNat
  characters := fun _ length => List.replicate length 'a'
  uuidToString := fun _ => none
  ipv4AddressToString := fun _ => "0.0.0.0".toList
  ipv6AddressToString := fun _ => "::".toList
  literal := fun _ => 0x1000

/-- Before the provider is enabled, at the level of errors, and of another keyword. -/
def someStatements : List Action :=
  [.trace (.entry 0x2000), .setEnabled ⟨true, Level.error.winevent, Keyword.base.mask⟩,
    .trace (.message .error .base 0x2000 (.utf8String 0x3000 3)),
    .trace (.returnResult 0x2000 0x2010 0xC0000001),
    .trace (.message .error .api 0x2000 .nothing), .trace (.report (.win32Api .api 0x2000 5))]

theorem trace_statements_printed_some :
    ∃ s, exec (step fixedOutside) .init someStatements = some s ∧
      s.printed = (enabledStatements .init someStatements).flatMap fun statement =>
        eventText fixedOutside (statement.event fixedOutside) :=
  trace_statements_printed fixedOutside someStatements (by simp [someStatements, Action.Sized])

/-- The error that the function returns is not printed at the level of errors. -/
example : enabledStatements .init someStatements =
    [.message .error .base 0x2000 (.utf8String 0x3000 3), .report (.win32Api .api 0x2000 5)] := by
  decide

end Usersim.Trace
