import ParseFailure.Expected

/-!
The description of an unexpected end of the input. Every construct whose closer would have been
accepted is named as unclosed, once, in the order of first mention.
-/

namespace ParseFailure.Description

/-- Keeps the first of equal names. -/
def firstSeen : List String → List String
  | [] => []
  | name :: rest => name :: (firstSeen rest).filter fun other => other != name

/-- The names of the constructs that the kinds of one sequence close, in reading order. -/
def closedBy : List Kind → Except Fault (List String)
  | [] => .ok []
  | kind :: rest => do
    let here ← kind.closes
    let later ← closedBy rest
    .ok (here ++ later)

/-- The names of the constructs that alternatives close, in reading order. -/
def closedByAny : List Alternative → Except Fault (List String)
  | [] => .ok []
  | alternative :: rest => do
    let kinds ← alternative.kinds
    let here ← closedBy kinds
    let later ← closedByAny rest
    .ok (here ++ later)

/-- The constructs that may still be open, each once. -/
def unclosed (expected : Expected) : Except Fault (List String) := do
  let alternatives ← expected.alternatives
  let names ← closedByAny alternatives
  .ok (firstSeen names)

def joinOr (names : List String) : String := Text.joinWith " or " names

def endReached : String := "Unexpected end of file reached."

/-- Describes an unexpected end by the constructs that may still be open. -/
def endingWith : List String → String
  | [] => endReached
  | names => endReached ++ " You have an unclosed " ++ joinOr names ++ "."

def endOfInput (expected : Expected) : Except Fault String := do
  let names ← unclosed expected
  .ok (endingWith names)

end ParseFailure.Description
