import ParseFailure.Description.EndOfInput
import ParseFailure.Description.Generic
import ParseFailure.Description.Misplaced
import ParseFailure.Token.Chain

/-!
The description of a failure. The end of the input and a misplaced branch have descriptions of their
own; every other failure takes the generic one.
-/

namespace ParseFailure.Description

/-- The description, if any, that replaces the generic one. The end of the input is asked for before
the kind is looked up. -/
def override? (chain : Chain) (expected : Expected) : Except Fault (Option String) :=
  match chain.successor with
  | none => .ok none
  | some token =>
    if token.kind.isEnd then do
      let description ← endOfInput expected
      .ok (some description)
    else do
      if ← token.kind.isBranch then
        let description ← misplaced token
        .ok (some description)
      else .ok none

def describe (limits : Limits) (chain : Chain) (expected : Expected) (names : NameTable) :
    Except Fault String := do
  match ← override? chain expected with
  | some description => .ok description
  | none => generic limits chain expected names "\n"

end ParseFailure.Description
