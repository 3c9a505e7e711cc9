import ParseFailure.Text.Literal

/-!
What can go wrong while raw grammar data is explained or a session step is carried out. A fault is
its cause; the type by which a handler selects it is `Fault.type`, the wording is `Fault.message`.
-/

namespace ParseFailure

/-- What stands where a list, a text or a table was expected. -/
inductive Shape where
  | number
  | absent
  /-- A mapping that only shows another one. -/
  | view
  deriving DecidableEq, Repr

def Shape.name : Shape → String
  | .number => "int"
  | .absent => "NoneType"
  | .view => "mappingproxy"

inductive Fault where
  /-- A number or nothing was read item by item. -/
  | notIterable (found : Shape)
  /-- A number or nothing was measured. -/
  | noLength (found : Shape)
  /-- A list was used as a key. -/
  | listAsKey
  /-- A kind that is no number was compared with one. -/
  | notOrdered (found : String)
  /-- A mapping was asked for a key that it does not have. -/
  | keyMissing
  /-- A sequence was asked for a position that it does not have. -/
  | positionMissing
  /-- A number or nothing was asked for an item. -/
  | notSubscriptable (found : Shape)
  /-- A token without literal text was quoted. -/
  | imageNotText (found : Shape)
  /-- A number has more digits than the process writes. -/
  | tooManyDigits (bound : Nat)
  | unknownName (name : String)
  /-- A code, as it is written, that no category has. -/
  | unknownKind (code : String)
  | unknownCode (value : String)
  | unknownAttribute (name : String)
  /-- The caret would stand further right than a machine word can say. -/
  | paddingBeyondWord
  /-- The caret line would not fit into memory. -/
  | paddingBeyondMemory
  | indexOutOfRange
  /-- A sequence of names was indexed by more than a machine word can say. -/
  | indexBeyondWord
  /-- A sequence of names was indexed by something that is no number. -/
  | indexNotNumber (found : String)
  /-- The display names are no table that could be changed. -/
  | tableFixed (found : Shape)
  | nulInVariable
  /-- An error was made from more values than it takes. -/
  | tooManyArguments (given : Nat)
  /-- Saving would go down further than the process lets it. -/
  | tooDeep
  /-- Something was to be saved that cannot be. -/
  | notSavable (found : Shape)
  /-- Whatever an error of somebody else raises when it is put into words. -/
  | raised (typeName message : String)
  | noSlot
  | noToken
  /-- A cause without location was to be altered where there is none. -/
  | noPlainCause
  /-- An error without location was asked for what only located errors have. -/
  | notLocated
  deriving DecidableEq, Repr

/-- The types of faults, as far as somebody selects by them. -/
inductive FaultType where
  | type
  | value
  | key
  | index
  | attribute
  | overflow
  | memory
  | recursion
  | slot
  | token
  | cause
  | other (name : String)
  deriving DecidableEq, Repr

def FaultType.name : FaultType → String
  | .type => "TypeError"
  | .value => "ValueError"
  | .key => "KeyError"
  | .index => "IndexError"
  | .attribute => "AttributeError"
  | .overflow => "OverflowError"
  | .memory => "MemoryError"
  | .recursion => "RecursionError"
  | .slot => "NoSlot"
  | .token => "NoToken"
  | .cause => "NoCause"
  | .other name => name

namespace Fault

def type : Fault → FaultType
  | .notIterable _ | .noLength _ | .listAsKey | .notOrdered _ | .notSubscriptable _
  | .imageNotText _ | .indexNotNumber _ | .tableFixed _ | .tooManyArguments _
  | .notSavable _ => .type
  | .tooManyDigits _ | .unknownKind _ | .unknownCode _ | .nulInVariable => .value
  | .keyMissing | .unknownName _ => .key
  | .positionMissing | .indexOutOfRange | .indexBeyondWord => .index
  | .unknownAttribute _ | .notLocated => .attribute
  | .paddingBeyondWord => .overflow
  | .paddingBeyondMemory => .memory
  | .tooDeep => .recursion
  | .raised typeName _ => .other typeName
  | .noSlot => .slot
  | .noToken => .token
  | .noPlainCause => .cause

/-- Whether a lookup has failed: what was asked for is missing, or cannot be asked for. -/
def isLookupFailure (fault : Fault) : Bool :=
  match fault.type with
  | .key | .index | .type => true
  | _ => false

def message : Fault → String
  | .notIterable found => "'" ++ found.name ++ "' object is not iterable"
  | .noLength found => "object of type '" ++ found.name ++ "' has no len()"
  | .listAsKey => "unhashable type: 'list'"
  | .notOrdered found => "'>=' not supported between instances of '" ++ found ++ "' and 'int'"
  | .keyMissing => ""
  | .positionMissing => "list index out of range"
  | .notSubscriptable found => "'" ++ found.name ++ "' object is not subscriptable"
  | .imageNotText found => "__str__ returned non-string (type " ++ found.name ++ ")"
  | .tooManyDigits bound =>
    "Exceeds the limit (" ++ bound.repr ++ " digits) for integer string conversion; " ++
      "use sys.set_int_max_str_digits() to increase the limit"
  | .unknownName name => Text.literal name
  | .unknownKind code => code ++ " is not a valid TokenKind"
  | .unknownCode value => Text.literal value ++ " is not a valid ErrorCode"
  | .unknownAttribute name => "module 'parsediag' has no attribute " ++ Text.literal name
  | .paddingBeyondWord => "cannot fit 'int' into an index-sized integer"
  | .paddingBeyondMemory => ""
  | .indexOutOfRange => "list assignment index out of range"
  | .indexBeyondWord => "cannot fit 'int' into an index-sized integer"
  | .indexNotNumber found => "list indices must be integers or slices, not " ++ found
  | .tableFixed found => "'" ++ found.name ++ "' object does not support item assignment"
  | .nulInVariable => "embedded null byte"
  | .tooManyArguments given =>
    "ParseError.__init__() takes from 1 to 2 positional arguments but " ++ (given + 1).repr ++
      " were given"
  | .tooDeep => "maximum recursion depth exceeded while pickling an object"
  | .notSavable found => "cannot pickle '" ++ found.name ++ "' object"
  | .raised _ message => message
  | .noSlot => ""
  | .noToken => ""
  | .noPlainCause => ""
  | .notLocated => "the error has no location"

end Fault

/-- Reads items one after the other, up to the first that cannot be read. -/
def readAll {α β : Type} (read : α → Except Fault β) : List α → Except Fault (List β)
  | [] => .ok []
  | item :: rest => do
    let value ← read item
    let others ← readAll read rest
    .ok (value :: others)

end ParseFailure
