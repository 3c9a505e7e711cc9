import ParseFailure.Text.Quote

/-! Where a parse failed, as a phrase and as the heading of a message. -/

namespace ParseFailure.Location

def template : Option String → String
  | none => "nameless template"
  | some name => "template " ++ Text.quote name

def phrase (limits : Limits) (name : Option String) (line column : Int) :
    Except Fault String := do
  let line ← Text.decimal limits line
  let column ← Text.decimal limits column
  .ok ("in " ++ template name ++ " in line " ++ line ++ ", column " ++ column)

/-- The heading of a message that stands alone; it takes a line of its own. -/
def verboseHeading (limits : Limits) (name : Option String) (line column : Int) :
    Except Fault String := do
  let place ← phrase limits name line column
  .ok ("Parsing error " ++ place ++ ":\n")

/-- The heading of a message that an editor shows at its place. -/
def compactHeading (limits : Limits) (column : Int) : Except Fault String := do
  let column ← Text.decimal limits column
  .ok ("[col. " ++ column ++ "] ")

/-- The heading of a message, compact inside tools. -/
def heading (limits : Limits) (tooling : Bool) (name : Option String) (line column : Int) :
    Except Fault String :=
  if tooling then compactHeading limits column else verboseHeading limits name line column

end ParseFailure.Location
