import ParseFailure.Cell
import ParseFailure.ErrorCode
import ParseFailure.Excerpt
import ParseFailure.Location
import ParseFailure.PlainError
import ParseFailure.Report
import ParseFailure.Token.Chain

/-!
Located errors. One is either described by whoever reports it, or derived from the evidence that
the grammar leaves when it cannot continue. Evidence and causes are shared, so an error refers to
them by position.
-/

namespace ParseFailure

/-- An error that something else refers to, by position: a located one, or a plain one among the
evidence. -/
inductive Held where
  | diagnostic (id : Nat)
  | plain (id : Nat)
  deriving DecidableEq, Repr

inductive Origin where
  /-- Reported with a description, or with none, and perhaps with a cause. -/
  | described (text : Option String) (cause : Option Held)
  /-- Reported by the grammar, with the sequences it would have accepted. -/
  | grammar (sequences : List (List Kind)) (evidence : Nat)
  deriving DecidableEq, Repr

namespace Origin

/-- The position of the evidence, or of the plain cause. -/
def evidence? : Origin → Option Nat
  | .described _ (some (.plain id)) => some id
  | .described _ _ => none
  | .grammar _ id => some id

def cause? : Origin → Option Held
  | .described _ cause => cause
  | .grammar _ _ => none

def sequences : Origin → List (List Kind)
  | .described _ _ => []
  | .grammar sequences _ => sequences

/-- The arguments of an error that is made so: its description, if one is given. -/
def arguments : Origin → List String
  | .described (some text) _ => [text]
  | .described none _ => []
  | .grammar _ _ => []

/-- The origin with evidence, or a plain cause, at another position. -/
def withEvidence (id : Nat) : Origin → Origin
  | .described text (some (.plain _)) => .described text (some (.plain id))
  | .described text cause => .described text cause
  | .grammar sequences _ => .grammar sequences id

/-- The origin with a located cause at another position. -/
def withCause (id : Nat) : Origin → Origin
  | .described text (some (.diagnostic _)) => .described text (some (.diagnostic id))
  | origin => origin

end Origin

/-- What is saved of an error, apart from the arguments it was made with. -/
structure State where
  origin : Origin
  span : Span
  cell : Cell
  source : Option String
  deriving DecidableEq, Repr

structure Diagnostic extends State where
  arguments : List String
  /-- The error that it is raised from. This is not saved. -/
  chained : Option Held
  deriving DecidableEq, Repr

namespace Diagnostic

/-- The constructor. An error with a cause is raised from it. -/
def make (text : Option String) (name : Option String) (span : Span) (cause : Option Held)
    (source : Option String) : Diagnostic where
  origin := .described text cause
  span := span
  cell := Cell.named name
  source := source
  arguments := text.toList
  chained := cause

/-- The constructor, called with arguments alone. -/
def ofArguments : List String → Except Fault Diagnostic
  | [] => .ok (make none none Span.unknown none none)
  | [text] => .ok (make (some text) none Span.unknown none none)
  | arguments => .error (.tooManyArguments arguments.length)

/-- The located error of a grammar failure. It spans the first token that was not accepted. -/
def ofFailure (chain : Chain) (sequences : List (List Kind)) (evidence : Nat) : Diagnostic :=
  { make none none Span.unknown none none with
    origin := .grammar sequences evidence
    span :=
      match chain.successor with
      | some token => token.span
      | none => Span.unknown }

def evidence? (error : Diagnostic) : Option Nat := error.origin.evidence?

def cause? (error : Diagnostic) : Option Held := error.origin.cause?

def sequences (error : Diagnostic) : List (List Kind) := error.origin.sequences

/-- Whether an error with a cause is raised from it. -/
def isChained (error : Diagnostic) : Bool := error.cause?.isSome && error.chained == error.cause?

/-- Puts a saved state in place of that of an error, which is then raised from its cause, if there
is one. -/
def restore (error : Diagnostic) (state : State) : Diagnostic where
  toState := state
  arguments := error.arguments
  chained :=
    match state.origin.cause? with
    | some cause => some cause
    | none => error.chained

/-- An error from what is saved of one: it is made from the arguments alone, and then the state is
put in place. -/
def rebuild (arguments : List String) (state : State) : Except Fault Diagnostic := do
  let made ← ofArguments arguments
  .ok (made.restore state)

def typeName : String := "ParseError"

def written (error : Diagnostic) : String := Text.application typeName error.arguments

/-- The message around a description, for a name of the template and a mode. -/
def render (error : Diagnostic) (limits : Limits) (tooling : Bool) (name : Option String)
    (description : String) : Except Fault Rendered := do
  let heading ← Location.heading limits tooling name error.span.beginLine error.span.beginColumn
  .ok ⟨heading ++ description, description⟩

/-- The template and the place in it, as a report shows them. -/
def place (error : Diagnostic) (limits : Limits) : Except Fault String :=
  Report.placeOf limits error.cell.name error.span.beginLine error.span.beginColumn

/-- The excerpt of the template around an error, where the template and the line are known. -/
def excerpt (error : Diagnostic) (limits : Limits) (colors : Bool) :
    Except Fault (Option String) :=
  match error.source with
  | none => .ok none
  | some source =>
    if source.isEmpty || error.span.beginLine == 0 then .ok none
    else
      match Excerpt.ofSource source error.span.beginLine 2 (some error.span.beginColumn) with
      | none => .ok none
      | some excerpt => do
        let text ← excerpt.format limits colors
        .ok (some text)

/-- The report of an error whose texts have been made, but for its cause. -/
def reported (error : Diagnostic) (limits : Limits) (colors : Bool) (code : ErrorCode)
    (rendered : Rendered) : Except Fault Report := do
  let place ← error.place limits
  let excerpt ← error.excerpt limits colors
  .ok
    { code := code.value
      description := rendered.description
      place := place
      excerpt := excerpt
      cause := none }

end Diagnostic

end ParseFailure
