import ParseFailure.ErrorCode
import ParseFailure.Text.Decimal
import ParseFailure.Token.Category

/-! Looking up kinds and error codes by their published names and values. -/

namespace ParseFailure

/-- The value that a search has found, or the fault to report. -/
def foundOr {α : Type} (fault : Fault) : Option α → Except Fault α
  | none => .error fault
  | some found => .ok found

def Category.named (name : String) : Except Fault Category :=
  foundOr (.unknownName name) (Category.ofName? name)

/-- The category with a code. The fault shows the code, so it has to be written. -/
def Category.coded (limits : Limits) (code : Int) : Except Fault Category :=
  match Category.ofCode? code with
  | some category => .ok category
  | none => do
    let written ← Text.decimal limits code
    .error (.unknownKind written)

def ErrorCode.named (name : String) : Except Fault ErrorCode :=
  foundOr (.unknownName name) (ErrorCode.ofName? name)

def ErrorCode.valued (value : String) : Except Fault ErrorCode :=
  foundOr (.unknownCode value) (ErrorCode.ofValue? value)

end ParseFailure
