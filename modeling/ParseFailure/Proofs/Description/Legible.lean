import ParseFailure.Description.Generic
import ParseFailure.Proofs.Display

/-!
The lines of what was expected. They are known in full, as they stand where there is no bound on
digits, and a process makes them exactly when it can display every kind in them.
-/

namespace ParseFailure

variable {limits : Limits} {names : NameTable} {sequences : List (List Kind)}

theorem readAll_sequences {read : Alternative → Except Fault (List Kind)}
    (reads : ∀ kinds, read (.sequence kinds) = .ok kinds) (sequences : List (List Kind)) :
    readAll read (sequences.map Alternative.sequence) = .ok sequences := by
  rw [readAll_map, readAll_congr fun kinds _ => reads kinds, readAll_ok, List.map_id']

/-- A process can display every kind that was expected. -/
def Legible (limits : Limits) (names : NameTable) (sequences : List (List Kind)) : Prop :=
  ∀ kinds ∈ sequences, ∀ kind ∈ kinds, names.Shows limits kind

instance : Decidable (Legible limits names sequences) :=
  inferInstanceAs (Decidable (∀ kinds ∈ sequences, ∀ kind ∈ kinds, names.Shows limits kind))

namespace Description

def lineInFull (names : NameTable) (kinds : List Kind) : String :=
  "    " ++ Text.joinWith " " (kinds.map names.nameInFull)

def linesInFull (names : NameTable) (terminator : String) (sequences : List (List Kind)) : String :=
  Text.joinWith terminator (sequences.map (lineInFull names))

/-- The generic text behind a run, as it stands where there is no bound on digits. -/
def genericInFull (run : String) (names : NameTable) (terminator : String)
    (sequences : List (List Kind)) : String :=
  genericText run terminator sequences (linesInFull names terminator sequences)

theorem alternativeLine_eq (limits : Limits) (names : NameTable) (kinds : List Kind) :
    alternativeLine limits names kinds =
      if ∀ kind ∈ kinds, names.Shows limits kind then .ok (lineInFull names kinds)
      else .error limits.digitFault := by
  rw [alternativeLine, guarded_readAll (NameTable.name_shows limits names), guarded_map]
  rfl

theorem alternativeLines_eq (limits : Limits) (names : NameTable) (terminator : String)
    (sequences : List (List Kind)) :
    alternativeLines limits names terminator sequences =
      if Legible limits names sequences then .ok (linesInFull names terminator sequences)
      else .error limits.digitFault := by
  rw [alternativeLines, guarded_readAll (alternativeLine_eq limits names), guarded_map]
  rfl

/-- The generic description of well-formed expectations: first the run, then the lines. -/
theorem generic_eq (limits : Limits) (chain : Chain) (sequences : List (List Kind))
    (names : NameTable) (terminator : String) :
    generic limits chain (.ofSequences sequences) names terminator = (do
      let run ← encountered limits chain names (longest sequences)
      if Legible limits names sequences then .ok (genericInFull run names terminator sequences)
      else .error limits.digitFault) := by
  have read : readAll Alternative.measured (sequences.map Alternative.sequence) = .ok sequences :=
    readAll_sequences (fun _ => rfl) sequences
  have listed : (Expected.ofSequences sequences).alternatives =
      .ok (sequences.map Alternative.sequence) := rfl
  rw [generic, listed]
  change (readAll Alternative.measured _ >>= _) = _
  rw [read]
  refine congrArg (encountered limits chain names (longest sequences) >>= ·) (funext fun run => ?_)
  rw [alternativeLines_eq, guarded_map]
  rfl

end Description

end ParseFailure
