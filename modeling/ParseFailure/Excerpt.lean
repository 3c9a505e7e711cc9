import ParseFailure.Fault
import ParseFailure.Limits
import ParseFailure.Terminal.Style
import ParseFailure.Text.Join
import ParseFailure.Text.Lines
import ParseFailure.Word

/-!
Excerpts of a template: the line of an error with its neighbours, numbered, and a caret under the
column. Line numbers and columns count from one.
-/

namespace ParseFailure

structure Excerpt where
  lines : List (Int × String)
  errorLine : Int
  column : Option Int
  deriving DecidableEq, Repr

namespace Excerpt

def numbered (source : String) : List (Int × String) :=
  (Text.lines source).zipIdx.map fun (line, i) => ((i : Int) + 1, line)

/-- The excerpt around a line of a text, up to `context` lines to each side; nothing where the text
has no such line. -/
def ofSource (source : String) (errorLine context : Int) (column : Option Int) : Option Excerpt :=
  let all := numbered source
  if 0 < errorLine ∧ errorLine ≤ all.length then
    some ⟨all.filter fun (n, _) => errorLine - context ≤ n && n ≤ errorLine + context,
      errorLine, column⟩
  else none

/-- A caret moved right to its column. Its padding is counted in a machine word and has to fit into
memory. -/
def caret (limits : Limits) (column : Int) : Except Fault String :=
  if !fitsWord (column - 1) then .error .paddingBeyondWord
  else if limits.padding < column - 1 then .error .paddingBeyondMemory
  else .ok (String.ofList (List.replicate (column - 1).toNat ' ') ++ "^")

def border (colors : Bool) : String := Terminal.paintPart colors .dimText "   |"

def caretLine (limits : Limits) (colors : Bool) (column : Int) : Except Fault String := do
  let mark ← caret limits column
  .ok (Terminal.paintPart colors .dimText "     |" ++ " " ++
    Terminal.paintPart colors .errorLine mark)

/-- The line of the caret, if there is a column to point at. -/
def caretLines (limits : Limits) (colors : Bool) : Option Int → Except Fault (List String)
  | none => .ok []
  | some column =>
    if column = 0 then .ok []
    else do
      let line ← caretLine limits colors column
      .ok [line]

/-- Source lines, each line of the error followed by the caret. -/
def bodyLines (limits : Limits) (colors : Bool) (errorLine : Int) (column : Option Int) :
    List (Int × String) → Except Fault (List String)
  | [] => .ok []
  | (n, content) :: rest => do
    let line := Terminal.sourceLine colors n content (n == errorLine)
    let marks ← if n = errorLine then caretLines limits colors column else .ok []
    let others ← bodyLines limits colors errorLine column rest
    .ok (line :: (marks ++ others))

def format (excerpt : Excerpt) (limits : Limits) (colors : Bool) : Except Fault String := do
  let body ← bodyLines limits colors excerpt.errorLine excerpt.column excerpt.lines
  .ok (Text.joinWith "\n" (border colors :: (body ++ [border colors])))

end Excerpt

end ParseFailure
