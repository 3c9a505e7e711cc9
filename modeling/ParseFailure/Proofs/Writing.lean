import ParseFailure.Location
import ParseFailure.Proofs.Fault
import ParseFailure.Report
import ParseFailure.Token.Kind

/-!
Numbers that a process can write. Whatever shows numbers is known in full, as it stands where there
is no bound on digits; a process with a bound makes it exactly when it can write each number.
-/

namespace ParseFailure

variable {limits : Limits}

namespace Limits

theorem writes_of_unbounded (unbounded : limits.digits = none) (n : Int) :
    limits.writes n = true := by
  rw [writes, unbounded]

/-- A number of at most 640 digits can be written by every process. -/
theorem writes_of_short {n : Int} (short : Text.digitCount n ≤ 640) : limits.writes n = true := by
  rw [writes]
  cases bounded : limits.digits with
  | none => rfl
  | some bound =>
    have floor := limits.floor bound bounded
    simp only [decide_eq_true_eq]
    omega

end Limits

theorem Text.readAll_decimal (limits : Limits) (codes : List Int) :
    readAll (decimal limits) codes =
      if ∀ code ∈ codes, limits.writes code = true then .ok (codes.map Int.repr)
      else .error limits.digitFault :=
  guarded_readAll fun _ => rfl

namespace Kind

/-- A kind as it is written where there is no bound. -/
def inFull : Kind → String
  | .number code => code.repr
  | .absent => "None"
  | .text t => t
  | .numbers codes => bracketed (codes.map Int.repr)

/-- Whether a process can write a kind. -/
def Writable (limits : Limits) : Kind → Prop
  | .number code => limits.writes code
  | .absent => True
  | .text _ => True
  | .numbers codes => ∀ code ∈ codes, limits.writes code

instance (limits : Limits) : DecidablePred (Writable limits)
  | .number code => inferInstanceAs (Decidable (limits.writes code = true))
  | .absent => .isTrue trivial
  | .text _ => .isTrue trivial
  | .numbers codes => inferInstanceAs (Decidable (∀ code ∈ codes, limits.writes code = true))

theorem written_eq (limits : Limits) (kind : Kind) :
    kind.written limits =
      if kind.Writable limits then .ok kind.inFull else .error limits.digitFault := by
  cases kind with
  | number code => rfl
  | absent => rfl
  | text t => rfl
  | numbers codes =>
    rw [written, Text.readAll_decimal, guarded_map]
    rfl

end Kind

namespace Location

/-- The place of a message, as it is told where there is no bound. -/
def phraseInFull (name : Option String) (line column : Int) : String :=
  "in " ++ template name ++ " in line " ++ line.repr ++ ", column " ++ column.repr

def verboseInFull (name : Option String) (line column : Int) : String :=
  "Parsing error " ++ phraseInFull name line column ++ ":\n"

def compactInFull (column : Int) : String := "[col. " ++ column.repr ++ "] "

def headingInFull (tooling : Bool) (name : Option String) (line column : Int) : String :=
  if tooling then compactInFull column else verboseInFull name line column

/-- Whether a process can write the numbers of a heading. Inside tools the line is not shown. -/
def HeadingWritable (limits : Limits) (tooling : Bool) (line column : Int) : Prop :=
  (tooling = false → limits.writes line = true) ∧ limits.writes column = true

instance (limits : Limits) (tooling : Bool) (line column : Int) :
    Decidable (HeadingWritable limits tooling line column) :=
  inferInstanceAs (Decidable (_ ∧ _))

theorem phrase_eq (limits : Limits) (name : Option String) (line column : Int) :
    phrase limits name line column =
      if limits.writes line = true ∧ limits.writes column = true then
        .ok (phraseInFull name line column)
      else .error limits.digitFault := by
  rw [phrase, Text.decimal, Text.decimal]
  exact guarded_bind (guarded_map _)

theorem verboseHeading_eq (limits : Limits) (name : Option String) (line column : Int) :
    verboseHeading limits name line column =
      if limits.writes line = true ∧ limits.writes column = true then
        .ok (verboseInFull name line column)
      else .error limits.digitFault := by
  rw [verboseHeading, phrase_eq, guarded_map]
  rfl

theorem compactHeading_eq (limits : Limits) (column : Int) :
    compactHeading limits column =
      if limits.writes column = true then .ok (compactInFull column)
      else .error limits.digitFault :=
  guarded_map _

theorem heading_eq (limits : Limits) (tooling : Bool) (name : Option String) (line column : Int) :
    heading limits tooling name line column =
      if HeadingWritable limits tooling line column then
        .ok (headingInFull tooling name line column)
      else .error limits.digitFault := by
  cases tooling with
  | true =>
    rw [heading, if_pos rfl, compactHeading_eq]
    simp [HeadingWritable, headingInFull]
  | false =>
    rw [heading, if_neg Bool.false_ne_true, verboseHeading_eq]
    simp [HeadingWritable, headingInFull]

end Location

namespace Report

/-- Whether a process can write the place of a report. What is unknown is not shown, and a column
only behind a line. -/
def PlaceWritable (limits : Limits) (line column : Int) : Prop :=
  line = 0 ∨ limits.writes line = true ∧ (column = 0 ∨ limits.writes column = true)

instance (limits : Limits) (line column : Int) : Decidable (PlaceWritable limits line column) :=
  inferInstanceAs (Decidable (_ ∨ _))

/-- The place of a report, as it is told where there is no bound. -/
def placeInFull (name : Option String) (line column : Int) : String :=
  displayName name ++
    if line = 0 then ""
    else ":" ++ line.repr ++ if column = 0 then "" else ":" ++ column.repr

theorem placeOf_eq (limits : Limits) (name : Option String) (line column : Int) :
    placeOf limits name line column =
      if PlaceWritable limits line column then .ok (placeInFull name line column)
      else .error limits.digitFault := by
  unfold placeOf positionPart numberPart PlaceWritable placeInFull Text.decimal
  by_cases unknown : line = 0
  · simp [unknown, bind, Except.bind]
  · by_cases start : column = 0
    · by_cases first : limits.writes line = true <;>
        simp [unknown, start, first, bind, Except.bind]
    · by_cases first : limits.writes line = true <;>
        by_cases second : limits.writes column = true <;>
          simp [unknown, start, first, second, bind, Except.bind]

end Report

end ParseFailure
