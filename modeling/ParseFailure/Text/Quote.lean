import ParseFailure.Text.Decimal
import ParseFailure.Text.Hex
import ParseFailure.Text.ShortForm

/-!
Double-quoted literals of the template language. Only what would end the literal or break its line
is escaped: the double quote, the backslash and the control characters below the space.
-/

namespace ParseFailure.Text

def quoteChar (c : Char) : List Char :=
  match shortForm? c with
  | some letter => ['\\', letter]
  | none => if c.toNat < 0x20 then '\\' :: 'u' :: Hex.quad Hex.upperDigit c.toNat else [c]

def quote (text : String) : String :=
  String.ofList ('\x22' :: (text.toList.flatMap quoteChar ++ ['\x22']))

/-- A text as a literal, or the bare word `null` where there is none. -/
def quoteOrNull : Option String → String
  | none => "null"
  | some text => quote text

/-- A plain value that a message may quote. -/
inductive Value where
  | absent
  | text (text : String)
  | number (n : Int)
  | truth (b : Bool)
  deriving DecidableEq, Repr

def truthName : Bool → String
  | true => "True"
  | false => "False"

/-- Quotes a value by its text: a number by its decimal digits, a truth value by its word. -/
def Value.quoted (limits : Limits) : Value → Except Fault String
  | .absent => .ok (quoteOrNull none)
  | .text t => .ok (quote t)
  | .number n => do
    let digits ← decimal limits n
    .ok (quote digits)
  | .truth b => .ok (quote (truthName b))

end ParseFailure.Text
