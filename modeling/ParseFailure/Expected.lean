import ParseFailure.Token.Kind

/-!
The continuations that the grammar would have accepted, as it hands them over: sequences of kinds,
nothing, or malformed data. What reads them meets the first fault in reading order.
-/

namespace ParseFailure

inductive Alternative where
  | sequence (kinds : List Kind)
  | malformed (found : Shape)
  deriving DecidableEq, Repr

/-- The kinds of an alternative, when it is read. -/
def Alternative.kinds : Alternative → Except Fault (List Kind)
  | .sequence kinds => .ok kinds
  | .malformed found => .error (.notIterable found)

/-- The kinds of an alternative, when it is measured first. -/
def Alternative.measured : Alternative → Except Fault (List Kind)
  | .sequence kinds => .ok kinds
  | .malformed found => .error (.noLength found)

inductive Expected where
  | listed (alternatives : List Alternative)
  | absent
  | number (n : Int)
  deriving DecidableEq, Repr

namespace Expected

/-- Well-formed expectations. -/
def ofSequences (sequences : List (List Kind)) : Expected :=
  .listed (sequences.map Alternative.sequence)

/-- The alternatives, where nothing and zero count as none at all. -/
def alternatives : Expected → Except Fault (List Alternative)
  | .listed found => .ok found
  | .absent => .ok []
  | .number n => if n = 0 then .ok [] else .error (.notIterable .number)

/-- The alternatives, where something to read has to be there. -/
def required : Expected → Except Fault (List Alternative)
  | .listed found => .ok found
  | .absent => .error (.notIterable .absent)
  | .number _ => .error (.notIterable .number)

end Expected

def Expected.sequences (expected : Expected) : Except Fault (List (List Kind)) := do
  readAll Alternative.kinds (← expected.alternatives)

end ParseFailure
