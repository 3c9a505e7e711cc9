import ParseFailure.Fault

/-! What the package publishes about itself. -/

namespace ParseFailure.About

inductive Attribute where
  | text (t : String)
  | number (n : Int)
  deriving DecidableEq, Repr

def version : String := "0.1.0"

/-- A published attribute: the version, or zero for the lock that free threads would have to
share. -/
def published (name : String) : Except Fault Attribute :=
  if name = "__version__" then .ok (.text version)
  else if name = "_Py_mod_gil" then .ok (.number 0)
  else .error (.unknownAttribute name)

end ParseFailure.About
