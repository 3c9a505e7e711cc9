import ParseFailure.Terminal.Style
import ParseFailure.Text.Decimal
import ParseFailure.Text.Join

/-!
The report of an error on a terminal: its code and description, its place, an excerpt, its cause.
-/

namespace ParseFailure

structure Report where
  code : String
  description : String
  /-- The template, with the line and the column as far as they are known. -/
  place : String
  excerpt : Option String
  /-- The type name and the text of the cause. -/
  cause : Option (String × String)
  deriving DecidableEq, Repr

namespace Report

/-- The name that is displayed for a template. -/
def displayName : Option String → String
  | none => "<template>"
  | some name => if name.isEmpty then "<template>" else name

/-- A number with a colon in front of it, where it is known. -/
def numberPart (limits : Limits) (n : Int) : Except Fault String :=
  if n = 0 then .ok ""
  else do
    let digits ← Text.decimal limits n
    .ok (":" ++ digits)

/-- The line and the column; a column without a line says nothing. -/
def positionPart (limits : Limits) (line column : Int) : Except Fault String :=
  if line = 0 then .ok ""
  else do
    let line ← numberPart limits line
    let column ← numberPart limits column
    .ok (line ++ column)

/-- The template with the line and the column behind it, as far as they are known. -/
def placeOf (limits : Limits) (name : Option String) (line column : Int) :
    Except Fault String := do
  let position ← positionPart limits line column
  .ok (displayName name ++ position)

def placeLine (colors : Bool) (report : Report) : String :=
  "  --> " ++ Terminal.paintPart colors .place report.place

def causeLine (colors : Bool) (cause : String × String) : String :=
  "  " ++ Terminal.paintPart colors .dimText "Caused by:" ++ " " ++ cause.1 ++ ": " ++ cause.2

def parts (colors : Bool) (report : Report) : List String :=
  [Terminal.header colors (some report.code) report.description, placeLine colors report] ++
    report.excerpt.toList ++ (report.cause.map (causeLine colors)).toList

def text (colors : Bool) (report : Report) : String := Text.joinWith "\n" (parts colors report)

end Report

end ParseFailure
