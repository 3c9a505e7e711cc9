import ParseFailure.Names
import ParseFailure.Proofs.Writing

/-!
Display names. Whatever a lookup runs into, it counts as no name found, and the kind is displayed by
a placeholder; so only a placeholder whose number cannot be written is a fault.
-/

namespace ParseFailure.NameTable

variable {limits : Limits} {table : NameTable} {kind : Kind}

theorem isNatural_error {fault : Fault} (failed : kind.isNatural = .error fault) :
    fault.isLookupFailure = true := by
  cases kind with
  | number => contradiction
  | absent | text | numbers => cases Except.error.inj failed; rfl

theorem position_error {length : Nat} {fault : Fault}
    (failed : position length .positionMissing kind = .error fault) :
    fault.isLookupFailure = true := by
  cases kind with
  | number code =>
    rw [position] at failed
    split at failed
    · contradiction
    · cases Except.error.inj failed
      split <;> rfl
  | absent | text | numbers => cases Except.error.inj failed; rfl

theorem entryOf_error {entries : List (Kind × Option String)} {fault : Fault}
    (failed : entryOf entries kind = .error fault) : fault.isLookupFailure = true := by
  obtain failed | ⟨key, -, failed⟩ := bind_error.mp failed
  · cases kind with
    | numbers => cases Except.error.inj failed; rfl
    | number | absent | text => contradiction
  · split at failed
    · contradiction
    · cases Except.error.inj failed
      rfl

theorem entry_error {fault : Fault} (failed : table.entry kind = .error fault) :
    fault.isLookupFailure = true := by
  cases table with
  | sequence names => exact position_error (bind_ok_error.mp failed)
  | mapping entries | view entries => exact entryOf_error failed
  | absent | malformed => cases Except.error.inj failed; rfl

/-- Every way in which a lookup can fail counts as no name found. -/
theorem search_error {fault : Fault} (failed : table.search kind = .error fault) :
    fault.isLookupFailure = true := by
  have compared : table ≠ .absent →
      (do if ← kind.isNatural then table.entry kind else .ok none) = .error fault →
        fault.isLookupFailure = true := by
    intro _ failed
    obtain failed | ⟨natural, -, failed⟩ := bind_error.mp failed
    · exact isNatural_error failed
    · cases natural with
      | true => exact entry_error failed
      | false => contradiction
  cases table with
  | absent => contradiction
  | sequence | mapping | view | malformed => exact compared nofun failed

/-- The name that a table has for a kind, if any. -/
def lookup? (table : NameTable) (kind : Kind) : Option String :=
  match table.search kind with
  | .ok found => found
  | .error _ => none

theorem name_eq (limits : Limits) (table : NameTable) (kind : Kind) :
    table.name limits kind =
      match table.lookup? kind with
      | some name => .ok name
      | none => placeholder limits kind := by
  unfold name lookup?
  cases found : table.search kind with
  | ok entry => cases entry <;> rfl
  | error fault => exact if_pos (search_error found)

@[simp] theorem lookup?_negative (table : NameTable) (n : Nat) :
    table.lookup? (.number (.negSucc n)) = none := by
  cases table <;> rfl

@[simp] theorem lookup?_absent (table : NameTable) : table.lookup? .absent = none := by
  cases table <;> rfl

@[simp] theorem lookup?_text (table : NameTable) (t : String) :
    table.lookup? (.text t) = none := by
  cases table <;> rfl

@[simp] theorem lookup?_numbers (table : NameTable) (codes : List Int) :
    table.lookup? (.numbers codes) = none := by
  cases table <;> rfl

theorem lookup?_sequence (names : List (Option String)) (i : Nat) :
    (sequence names).lookup? (.number i) = names[i]?.join := by
  have natural : (Kind.number i).isNatural = .ok true := by simp [Kind.isNatural]
  have placed : position names.length .positionMissing (.number i) =
      if i < names.length then .ok i
      else .error (if fitsWord i then .positionMissing else .indexBeyondWord) := by
    have counted : ¬ (i : Int) < 0 := by omega
    by_cases inside : i < names.length
    · simp [position, position?, inside]
    · simp [position, position?, inside, counted]
  simp only [lookup?, search, natural, bind, Except.bind, if_true, entry, placed]
  by_cases inside : i < names.length
  · simp [inside]
  · simp [inside]

theorem lookup?_mapping (entries : List (Kind × Option String)) (i : Nat) :
    (mapping entries).lookup? (.number i) = (entries.lookup (.number i)).join := by
  have natural : (Kind.number i).isNatural = .ok true := by simp [Kind.isNatural]
  simp only [lookup?, search, natural, bind, Except.bind, if_true, entry, entryOf, Kind.asKey]
  cases entries.lookup (.number i) <;> rfl

/-- The placeholder of a kind, as it is displayed where there is no bound on digits. -/
def placeholderInFull (kind : Kind) : String := "<token kind " ++ kind.inFull ++ ">"

def nameInFull (table : NameTable) (kind : Kind) : String :=
  match table.lookup? kind with
  | some name => name
  | none => placeholderInFull kind

/-- Whether a process can display a kind: the table has a name for it, or it can be written. -/
def Shows (limits : Limits) (table : NameTable) (kind : Kind) : Prop :=
  (table.lookup? kind).isSome = true ∨ kind.Writable limits

instance (limits : Limits) (table : NameTable) : DecidablePred (table.Shows limits) :=
  fun _ => inferInstanceAs (Decidable (_ ∨ _))

theorem name_shows (limits : Limits) (table : NameTable) (kind : Kind) :
    table.name limits kind =
      if table.Shows limits kind then .ok (table.nameInFull kind)
      else .error limits.digitFault := by
  rw [name_eq, placeholder, Kind.written_eq, guarded_map, nameInFull]
  by_cases named : (table.lookup? kind).isSome = true
  · obtain ⟨name, found⟩ := Option.isSome_iff_exists.mp named
    have shown : table.Shows limits kind := .inl named
    rw [found, if_pos shown]
  · have found : table.lookup? kind = none := by simpa using named
    have shown : table.Shows limits kind ↔ kind.Writable limits := by simp [Shows, found]
    simp only [found, shown]
    rfl

theorem shows_endOfInput (limits : Limits) (table : NameTable) :
    table.Shows limits Kind.endOfInput :=
  .inr (Limits.writes_of_short (by decide))

/-- The end of the input can always be displayed. -/
theorem name_endOfInput (limits : Limits) (table : NameTable) :
    table.name limits Kind.endOfInput = .ok (table.nameInFull Kind.endOfInput) := by
  rw [name_shows, if_pos (shows_endOfInput limits table)]

end ParseFailure.NameTable
