import ParseFailure.Diagnostic
import ParseFailure.Evidence
import ParseFailure.Host

/-!
A session: the process, the errors made in it, the evidence they refer to, and the names under which
errors are held. Errors and evidence are only ever added, so positions stay valid.
-/

namespace ParseFailure

structure Session where
  host : Host
  evidence : List Evidence
  diagnostics : List Diagnostic
  /-- Names and what they hold; the first entry of a name counts. -/
  slots : List (String × Held)
  deriving Repr

namespace Session

def start (limits : Limits) (colors : Bool) : Session := ⟨Host.fresh limits colors, [], [], []⟩

def setHost (session : Session) (host : Host) : Session := { session with host := host }

def slot? (session : Session) (name : String) : Option Held := session.slots.lookup name

def hold (session : Session) (name : String) (held : Held) : Session :=
  { session with slots := (name, held) :: session.slots }

/-- Adds an error; its position comes first. -/
def addDiagnostic (session : Session) (error : Diagnostic) : Nat × Session :=
  (session.diagnostics.length, { session with diagnostics := session.diagnostics ++ [error] })

/-- Adds evidence; its position comes first. -/
def addEvidence (session : Session) (evidence : Evidence) : Nat × Session :=
  (session.evidence.length, { session with evidence := session.evidence ++ [evidence] })

def setDiagnostic (session : Session) (id : Nat) (error : Diagnostic) : Session :=
  { session with diagnostics := session.diagnostics.set id error }

def setEvidence (session : Session) (id : Nat) (evidence : Evidence) : Session :=
  { session with evidence := session.evidence.set id evidence }

def evidenceOf? (session : Session) (error : Diagnostic) : Option Evidence :=
  error.evidence?.bind fun id => session.evidence[id]?

/-- The error without location at a position of the evidence. -/
def plain? (session : Session) (id : Nat) : Option PlainError :=
  match session.evidence[id]? with
  | some (.plain error) => some error
  | _ => none

/-- The last token that the grammar accepted before an error. -/
def currentToken? (session : Session) (error : Diagnostic) : Option Token :=
  (session.evidenceOf? error).bind Evidence.current?

/-- The last token that the grammar accepted before an error, as it can be shown. -/
def currentLexeme (session : Session) (error : Diagnostic) : Except Fault (Option Lexeme) :=
  match session.currentToken? error with
  | none => .ok none
  | some token => do
    let lexeme ← token.lexeme
    .ok (some lexeme)

def describe (session : Session) (error : Diagnostic) : String :=
  match error.origin with
  | .described (some text) _ => text
  | .described none _ => Description.unavailable
  | .grammar sequences id =>
    match session.evidence[id]? with
    | some evidence => evidence.describe session.host.limits sequences
    | none => Description.unavailable

/-- The code of an error. Malformed evidence may leave it without one. -/
def code (session : Session) (error : Diagnostic) : Except Fault ErrorCode :=
  match session.evidenceOf? error with
  | some evidence => evidence.code
  | none => .ok .syntaxError

/-- The texts of an error, made anew for its present name and the mode in force. -/
def render (session : Session) (error : Diagnostic) : Except Fault Rendered :=
  error.render session.host.limits session.host.tooling error.cell.name (session.describe error)

end Session

end ParseFailure
