import ParseFailure.Names
import ParseFailure.Token.Chain

/-!
The run of tokens after the last accepted one. It is cut at the end of the chain, at the window's
length, and at the end-of-input marker, which closes the run by its display name.
-/

namespace ParseFailure.Description

/-- The texts of a run from a position on, one for each token. -/
def runFrom (limits : Limits) (chain : Chain) (names : NameTable) :
    Nat → Option Nat → Except Fault (List String)
  | 0, _ => .ok []
  | _ + 1, none => .ok []
  | window + 1, some i =>
    match chain.nodes[i]? with
    | none => .ok []
    | some node =>
      if node.token.kind.isEnd then do
        let text ← names.name limits Kind.endOfInput
        .ok [text]
      else do
        let text ← node.token.image.escaped
        let others ← runFrom limits chain names window node.next
        .ok (text :: others)

/-- The texts of the run behind the last accepted token. A negative window shows nothing. -/
def runParts (limits : Limits) (chain : Chain) (names : NameTable) (window : Int) :
    Except Fault (List String) :=
  runFrom limits chain names window.toNat (chain.next? 0)

def encountered (limits : Limits) (chain : Chain) (names : NameTable) (window : Int) :
    Except Fault String := do
  let parts ← runParts limits chain names window
  .ok (Text.joinWith " " parts)

end ParseFailure.Description
