import ParseFailure.Description.Encountered
import ParseFailure.Expected

/-!
The description that fits every failure: the run of tokens that was found and, on a line each, the
sequences that would have been accepted. The run is as long as the longest sequence.
-/

namespace ParseFailure.Description

def alternativeLine (limits : Limits) (names : NameTable) (kinds : List Kind) :
    Except Fault String := do
  let shown ← readAll (names.name limits) kinds
  .ok ("    " ++ Text.joinWith " " shown)

def alternativeLines (limits : Limits) (names : NameTable) (terminator : String)
    (sequences : List (List Kind)) : Except Fault String := do
  let lines ← readAll (alternativeLine limits names) sequences
  .ok (Text.joinWith terminator lines)

/-- The lines of alternatives, each of which is read when its line is made. -/
def alternatives (limits : Limits) (expected : Expected) (names : NameTable)
    (terminator : String) : Except Fault String := do
  let listed ← expected.required
  let lines ← readAll (fun alternative => do
    let kinds ← alternative.kinds
    alternativeLine limits names kinds) listed
  .ok (Text.joinWith terminator lines)

/-- The length of the longest sequence; without any sequence, zero. -/
def longest : List (List Kind) → Nat
  | [] => 0
  | kinds :: rest => max kinds.length (longest rest)

def expecting : List (List Kind) → String
  | [_] => "was expecting:"
  | _ => "was expecting one of:"

/-- What was found, and a header for the lines of what would have been accepted. -/
def genericText (run terminator : String) (sequences : List (List Kind)) (lines : String) :
    String :=
  "Encountered \"" ++ run ++ "\", but " ++ expecting sequences ++ terminator ++ lines

/-- Describes a failure by what was found and what would have been accepted. -/
def generic (limits : Limits) (chain : Chain) (expected : Expected) (names : NameTable)
    (terminator : String) : Except Fault String := do
  let listed ← expected.alternatives
  let sequences ← readAll Alternative.measured listed
  let run ← encountered limits chain names (longest sequences)
  let lines ← alternativeLines limits names terminator sequences
  .ok (genericText run terminator sequences lines)

end ParseFailure.Description
