import ParseFailure.Fault
import ParseFailure.Limits

/-! Numbers in decimal digits. A process refuses to write numbers with too many of them. -/

namespace ParseFailure

/-- The number of decimal digits of a number; its sign is none. -/
def Text.digitCount (n : Int) : Nat := (Nat.toDigits 10 n.natAbs).length

namespace Limits

def writes (limits : Limits) (n : Int) : Bool :=
  match limits.digits with
  | none => true
  | some bound => Text.digitCount n ≤ bound

/-- What a number with too many digits meets. -/
def digitFault (limits : Limits) : Fault := .tooManyDigits (limits.digits.getD 0)

end Limits

def Text.decimal (limits : Limits) (n : Int) : Except Fault String :=
  if limits.writes n then .ok n.repr else .error limits.digitFault

end ParseFailure
