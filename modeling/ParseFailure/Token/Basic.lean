import ParseFailure.Text.Escape
import ParseFailure.Token.Kind

/-! Tokens: a kind, a literal text and a place in the template. -/

namespace ParseFailure

/-- A section of a template by its first and last character, counted from one; zero is unknown. -/
structure Span where
  beginLine : Int
  beginColumn : Int
  endLine : Int
  endColumn : Int
  deriving DecidableEq, Repr

def Span.unknown : Span := ⟨0, 0, 0, 0⟩

/-- The literal text of a token; a lexer at fault may give a number or nothing instead. -/
inductive Image where
  | text (t : String)
  | number (n : Int)
  | absent
  deriving DecidableEq, Repr

namespace Image

def quotable : Image → Except Fault String
  | .text t => .ok t
  | .number _ => .error (.imageNotText .number)
  | .absent => .error (.imageNotText .absent)

/-- The text as it stands in a run of tokens; zero and nothing count as the empty text. -/
def escaped : Image → Except Fault String
  | .text t => .ok (Text.escape t)
  | .absent => .ok ""
  | .number n => if n = 0 then .ok "" else .error (.notIterable .number)

end Image

structure Token where
  kind : Kind
  image : Image
  span : Span
  deriving DecidableEq, Repr

/-- A token with a literal text that is a text. -/
structure Lexeme where
  kind : Kind
  text : String
  span : Span
  deriving DecidableEq, Repr

def Token.lexeme (token : Token) : Except Fault Lexeme := do
  let text ← token.image.quotable
  .ok ⟨token.kind, text, token.span⟩

end ParseFailure
