import ParseFailure.ErrorCode
import ParseFailure.Token.Basic

/-! What a session answers to its steps. -/

namespace ParseFailure

/-- What can be said about an error without making its texts. -/
structure Overview where
  name : Option String
  source : Option String
  span : Span
  code : ErrorCode
  arguments : List String
  sequences : List (List Kind)
  current : Option Lexeme
  chained : Bool
  deriving DecidableEq, Repr

inductive Reply where
  | nothing
  | truth (b : Bool)
  | number (n : Int)
  | text (t : String)
  | texts (ts : List String)
  | code (code : ErrorCode)
  | sequences (sequences : List (List Kind))
  | lexeme (lexeme : Lexeme)
  | cause (typeName text : String)
  | overview (overview : Overview)
  deriving DecidableEq, Repr

def Reply.ofText? : Option String → Reply
  | none => .nothing
  | some t => .text t

def Reply.ofLexeme? : Option Lexeme → Reply
  | none => .nothing
  | some shown => .lexeme shown

def Reply.ofCause? : Option (String × String) → Reply
  | none => .nothing
  | some (typeName, shown) => .cause typeName shown

structure Answer where
  result : Except Fault Reply
  /-- Whether texts are kept, if the step was about a located error. -/
  kept : Option Bool

end ParseFailure
