import ParseFailure.Token.Kind
import ParseFailure.Word

/-!
Tables of display names. A table may be missing, a sequence indexed by code, a mapping, a view of a
mapping, or malformed; whatever finds no name is displayed by a placeholder.
-/

namespace ParseFailure

/-- Display names by kind. An entry that is no text counts as having no name. In a mapping the
first entry of a key counts. -/
inductive NameTable where
  | absent
  | sequence (names : List (Option String))
  | mapping (entries : List (Kind × Option String))
  /-- Shows a mapping, and lets nobody change or save it. -/
  | view (entries : List (Kind × Option String))
  | malformed
  deriving DecidableEq, Repr

namespace NameTable

/-- A mapping from pairs of which the last one for a key counts. -/
def ofPairs (pairs : List (Kind × Option String)) : NameTable := .mapping pairs.reverse

def standard : NameTable :=
  .mapping (Category.all.map fun category => (Kind.ofCategory category, some category.image))

/-- The position in a sequence of a code that may count back from the end. -/
def position? (length : Nat) (code : Int) : Option Nat :=
  if 0 ≤ code ∧ code < length then some code.toNat
  else if code < 0 ∧ 0 ≤ code + length then some (code + length).toNat
  else none

/-- The position in a sequence that a kind stands for, or the given fault outside of it. -/
def position (length : Nat) (outside : Fault) : Kind → Except Fault Nat
  | .number code =>
    match position? length code with
    | some i => .ok i
    | none => .error (if fitsWord code then outside else .indexBeyondWord)
  | kind => .error (.indexNotNumber kind.typeName)

def entryOf (entries : List (Kind × Option String)) (kind : Kind) :
    Except Fault (Option String) := do
  let key ← kind.asKey
  match entries.lookup key with
  | some found => .ok found
  | none => .error .keyMissing

/-- What a table has for a kind: a name, or something that is none. -/
def entry (table : NameTable) (kind : Kind) : Except Fault (Option String) :=
  match table with
  | .absent => .error (.notSubscriptable .absent)
  | .sequence names => do
    let i ← position names.length .positionMissing kind
    .ok names[i]?.join
  | .mapping entries => entryOf entries kind
  | .view entries => entryOf entries kind
  | .malformed => .error (.notSubscriptable .number)

/-- Looks up a kind, where there is a table and the kind is not negative. -/
def search : NameTable → Kind → Except Fault (Option String)
  | .absent, _ => .ok none
  | table, kind => do
    if ← kind.isNatural then table.entry kind else .ok none

def placeholder (limits : Limits) (kind : Kind) : Except Fault String := do
  let written ← kind.written limits
  .ok ("<token kind " ++ written ++ ">")

/-- The display name of a kind. A lookup that fails, for whatever reason, has found no name. -/
def name (limits : Limits) (table : NameTable) (kind : Kind) : Except Fault String :=
  match table.search kind with
  | .ok (some name) => .ok name
  | .ok none => placeholder limits kind
  | .error fault => if fault.isLookupFailure then placeholder limits kind else .error fault

def set (table : NameTable) (key : Kind) (value : Option String) : Except Fault NameTable :=
  match table with
  | .absent => .error (.tableFixed .absent)
  | .malformed => .error (.tableFixed .number)
  | .view _ => .error (.tableFixed .view)
  | .mapping entries => do
    let key ← key.asKey
    .ok (.mapping ((key, value) :: entries))
  | .sequence names => do
    let i ← position names.length .indexOutOfRange key
    .ok (.sequence (names.set i value))

end NameTable

end ParseFailure
