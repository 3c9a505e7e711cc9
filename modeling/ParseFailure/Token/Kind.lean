import ParseFailure.Text.Decimal
import ParseFailure.Text.Join
import ParseFailure.Token.Category

/-!
Token kinds as the grammar hands them over. A well-formed kind is a number, of a known category or
not; the other shapes are kept so that a report about malformed data stays possible.
-/

namespace ParseFailure

inductive Kind where
  | number (code : Int)
  | absent
  | text (t : String)
  | numbers (codes : List Int)
  deriving DecidableEq, Repr

namespace Kind

def ofCategory (category : Category) : Kind := .number category.code

/-- The kind of the end-of-input marker. -/
def endOfInput : Kind := ofCategory .endOfFile

/-- The type of what was handed over as a kind. -/
def typeName : Kind → String
  | .number _ => "int"
  | .absent => "NoneType"
  | .text _ => "str"
  | .numbers _ => "list"

def bracketed (items : List String) : String := "[" ++ Text.joinWith ", " items ++ "]"

def written (limits : Limits) : Kind → Except Fault String
  | .number code => Text.decimal limits code
  | .absent => .ok "None"
  | .text t => .ok t
  | .numbers codes => do
    let items ← readAll (Text.decimal limits) codes
    .ok (bracketed items)

/-- Whether a kind is a number from zero up; nothing else can be compared with zero. -/
def isNatural : Kind → Except Fault Bool
  | .number code => .ok (0 ≤ code)
  | kind => .error (.notOrdered kind.typeName)

/-- The kind as a key. -/
def asKey : Kind → Except Fault Kind
  | .numbers _ => .error .listAsKey
  | kind => .ok kind

def isEnd (kind : Kind) : Bool := kind == endOfInput

/-- The category of a kind, as far as it has one. A list cannot be looked up. -/
def category? : Kind → Except Fault (Option Category)
  | .number code => .ok (Category.ofCode? code)
  | .absent => .ok none
  | .text _ => .ok none
  | .numbers _ => .error .listAsKey

def closes (kind : Kind) : Except Fault (List String) := do
  match ← kind.category? with
  | some category => .ok category.closes
  | none => .ok []

/-- Whether a kind continues or ends a conditional. -/
def isBranch (kind : Kind) : Except Fault Bool := do
  match ← kind.category? with
  | some category => .ok category.isBranch
  | none => .ok false

end Kind

end ParseFailure
