import ParseFailure.Expected
import ParseFailure.Names
import ParseFailure.PlainError
import ParseFailure.Token.Chain

/-!
The steps of a session: what is done to the process, and what is made of or asked from errors.
-/

namespace ParseFailure

inductive Field where
  | message
  | description
  | editorMessage
  | text
  | name
  | source
  | line
  | column
  | endLine
  | endColumn
  | code
  | arguments
  | written
  | sequences
  | currentToken
  | cause
  | chained
  deriving DecidableEq, Repr

/-- A template as far as errors know it. -/
structure Document where
  name : Option String
  source : Option String
  deriving DecidableEq, Repr

/-- A cause: an error of its own, or one that is held already. -/
inductive CauseRef where
  | plain (error : PlainError)
  | slot (name : String)
  deriving Repr

inductive Construction where
  | described (text : Option String) (name : Option String) (span : Span)
      (cause : Option CauseRef) (source : Option String)
  | failure (chain : Chain) (expected : Expected) (names : NameTable)
  | plain (error : PlainError)
  deriving Repr

/-- An error that spans a section of a document. -/
def Construction.spanning (text : Option String) (document : Option Document) (span : Span)
    (cause : Option CauseRef) : Construction :=
  .described text (document.bind Document.name) span cause (document.bind Document.source)

inductive TokenEdit where
  | kind (kind : Kind)
  | image (image : Image)
  | beginLine (n : Int)
  | beginColumn (n : Int)
  deriving DecidableEq, Repr

def TokenEdit.apply (edit : TokenEdit) (token : Token) : Token :=
  match edit with
  | .kind k => { token with kind := k }
  | .image i => { token with image := i }
  | .beginLine n => { token with span := { token.span with beginLine := n } }
  | .beginColumn n => { token with span := { token.span with beginColumn := n } }

/-- What is done with an error that a name holds. -/
inductive Action where
  | get (field : Field)
  | overview
  | report
  /-- Reads the message while the template is given another name. -/
  | messageDuringRename (name : Option String)
  | rename (name : Option String)
  | setSource (source : Option String)
  | editToken (index : Nat) (edit : TokenEdit)
  | link (index : Nat) (target : Option Nat)
  | setName (key : Kind) (value : Option String)
  /-- Makes the cause, if it is one without location, what another error is. -/
  | alterCause (error : PlainError)
  /-- Extends the list from which the caller reported the failure. The error has read it already. -/
  | extendReported (sequence : List Kind)
  deriving Repr

/-- How much of an error a clone takes along: the error alone, or its evidence and cause too. -/
inductive Depth where
  | shallow
  | deep
  deriving DecidableEq, Repr

inductive Step where
  | setFlag (value : Option String)
  | load (name : String)
  | unload (name : String)
  | askTooling
  | forgetTooling
  | setColors (colors : Bool)
  | construct (slot : String) (construction : Construction)
  | clone (depth : Depth) (of slot : String)
  | act (of : String) (action : Action)
  deriving Repr

/-- The name that a step is about: the one it holds something under, or the one it acts on. -/
def Step.slot? : Step → Option String
  | .construct slot _ => some slot
  | .clone _ _ slot => some slot
  | .act of _ => some of
  | _ => none

end ParseFailure
