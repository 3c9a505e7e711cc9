import ParseFailure.Description.Special
import ParseFailure.ErrorCode
import ParseFailure.PlainError

/-!
What located errors refer to: the evidence that the grammar leaves when it cannot continue, or a
cause without location. From the evidence of a failure a description can be told, whatever the
evidence looks like, and a code, unless it is malformed.
-/

namespace ParseFailure

/-- What the grammar leaves behind when it cannot continue. -/
structure Failure where
  chain : Chain
  names : NameTable
  deriving DecidableEq, Repr

/-- The text that stands where no description can be given. -/
def Description.unavailable : String := "No error description available."

namespace Failure

/-- The description of a failure; malformed evidence gives none. -/
def describe (failure : Failure) (limits : Limits) (sequences : List (List Kind)) : String :=
  match Description.describe limits failure.chain (Expected.ofSequences sequences)
      failure.names with
  | .ok description => description
  | .error _ => Description.unavailable

/-- The code of a failure, told from its first token that was not accepted. -/
def code (failure : Failure) : Except Fault ErrorCode :=
  match failure.chain.successor with
  | none => .ok .unexpectedToken
  | some token =>
    if token.kind.isEnd then .ok .unexpectedEnd
    else do
      if ← token.kind.isBranch then .ok .misplacedDirective else .ok .unexpectedToken

def changeToken (failure : Failure) (index : Nat) (change : Token → Token) :
    Except Fault Failure :=
  match failure.chain.reach index with
  | none => .error .noToken
  | some i => .ok { failure with chain := failure.chain.update i change }

/-- Makes one token the successor of another, both given by the number of successors to them as the
chain is now; or lets the chain end. -/
def link (failure : Failure) (index : Nat) (target : Option Nat) : Except Fault Failure :=
  match failure.chain.reach index, target with
  | none, _ => .error .noToken
  | some i, none => .ok { failure with chain := failure.chain.link i none }
  | some i, some steps =>
    match failure.chain.reach steps with
    | none => .error .noToken
    | some next => .ok { failure with chain := failure.chain.link i (some next) }

def setName (failure : Failure) (key : Kind) (value : Option String) : Except Fault Failure := do
  let names ← failure.names.set key value
  .ok { failure with names := names }

end Failure

inductive Evidence where
  | failed (failure : Failure)
  | plain (error : PlainError)
  deriving Repr

namespace Evidence

def describe (evidence : Evidence) (limits : Limits) (sequences : List (List Kind)) : String :=
  match evidence with
  | .failed failure => failure.describe limits sequences
  | .plain _ => Description.unavailable

/-- The code of an error that refers to evidence. One that has a cause has been described. -/
def code : Evidence → Except Fault ErrorCode
  | .failed failure => failure.code
  | .plain _ => .ok .syntaxError

/-- The last token that the grammar accepted. -/
def current? : Evidence → Option Token
  | .failed failure => some failure.chain.current
  | .plain _ => none

/-- Changes the evidence of a failure; other evidence gives a fault. -/
def changeFailure (evidence : Evidence) (missing : Fault)
    (change : Failure → Except Fault Failure) : Except Fault Evidence :=
  match evidence with
  | .failed failure => do
    let changed ← change failure
    .ok (.failed changed)
  | .plain _ => .error missing

/-- Makes a cause what another error is. -/
def alter (error : PlainError) : Evidence → Except Fault Evidence
  | .failed _ => .error .noPlainCause
  | .plain _ => .ok (.plain error)

end Evidence

end ParseFailure
