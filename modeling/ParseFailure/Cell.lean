import ParseFailure.Fault

/-!
The part of an error that readers and renamers share: the name of the template beside the texts
rendered for it. A rename drops the texts; texts are kept only for the name they were made for.
-/

namespace ParseFailure

/-- A message and its description, always made together. -/
structure Rendered where
  message : String
  description : String
  deriving DecidableEq, Repr

structure Cell where
  name : Option String
  rendered : Option Rendered
  deriving DecidableEq, Repr

namespace Cell

def named (name : Option String) : Cell := ⟨name, none⟩

/-- Gives the template another name, or the same one anew. -/
def rename (_ : Cell) (name : Option String) : Cell := named name

/-- Keeps texts that were made for a name, if that is still the name. -/
def commit (cell : Cell) (madeFor : Option String) (rendered : Rendered) : Cell :=
  if cell.name = madeFor then { cell with rendered := some rendered } else cell

/-- Keeps texts, if they could be made. -/
def keep (cell : Cell) (madeFor : Option String) : Except Fault Rendered → Cell
  | .ok rendered => cell.commit madeFor rendered
  | .error _ => cell

end Cell

end ParseFailure
