import ParseFailure.Fault

/-!
Errors without location. They serve as causes. Whoever defines their type decides what they say of
themselves and whether they can be saved, and may fail to; some types are known.
-/

namespace ParseFailure

structure PlainError where
  typeName : String
  arguments : List String
  /-- What putting it into words gives. -/
  text : Except Fault String
  /-- What it raises when it is saved, if it does. Otherwise it can be saved, and what is loaded is
  like it. -/
  unsaved : Option Fault
  deriving Repr

/-- The types that say of themselves what their arguments say. -/
inductive ErrorType where
  | general
  | value
  | type
  | runtime
  | key
  | lookup
  | template
  deriving DecidableEq, Repr

namespace ErrorType

def name : ErrorType → String
  | .general => "Exception"
  | .value => "ValueError"
  | .type => "TypeError"
  | .runtime => "RuntimeError"
  | .key => "KeyError"
  | .lookup => "LookupError"
  | .template => "TemplateError"

/-- The text of an error of a known type: its only argument, or the group of them. A missing key is
shown as a literal, so that an empty key can be seen. -/
def text (known : ErrorType) : List String → String
  | [] => ""
  | [argument] => if known = .key then Text.literal argument else argument
  | arguments => Text.application "" arguments

def error (known : ErrorType) (arguments : List String) : PlainError where
  typeName := known.name
  arguments := arguments
  text := .ok (known.text arguments)
  unsaved := none

end ErrorType

def PlainError.written (error : PlainError) : String :=
  Text.application error.typeName error.arguments

end ParseFailure
