import ParseFailure.Proofs.Display
import ParseFailure.Saving

/-!
Tables that give every kind the same name. A description looks names up kind by kind, in the lines
of what was expected and where its run meets the end of the input, and needs a table for nothing
else; so a failure is described alike under two such tables. A sequence of names and a mapping that
has the same entries under their positions are two of them: a kind that is no position of the
sequence, for whatever reason, is no key of the mapping.
-/

namespace ParseFailure

namespace NameTable

variable {names : List (Option String)} {entries : List (Kind × Option String)}

/-- Two tables that display every kind by the same name. -/
def Synonymous (first second : NameTable) : Prop :=
  ∀ limits kind, first.name limits kind = second.name limits kind

/-- A mapping that has the entries of a sequence under their positions, and nothing else. -/
def Mirrors (entries : List (Kind × Option String)) (names : List (Option String)) : Prop :=
  ∀ key, entries.lookup key =
    match key with
    | .number (.ofNat i) => names[i]?
    | _ => none

/-- The entries of a sequence with their positions, counted from a number on. -/
def positioned (start : Nat) : List (Option String) → List (Kind × Option String)
  | [] => []
  | name :: rest => (.number start, name) :: positioned (start + 1) rest

theorem lookup_positioned (start : Nat) (names : List (Option String)) (key : Kind) :
    (positioned start names).lookup key =
      match key with
      | .number (.ofNat i) => if start ≤ i then names[i - start]? else none
      | _ => none := by
  induction names generalizing start with
  | nil =>
    rcases key with (i | i) | _ | _ | _
    all_goals simp [positioned]
  | cons name rest ih =>
    rw [positioned, List.lookup_cons, ih]
    by_cases here : key = .number start
    · subst here
      simp
    · rw [beq_false_of_ne here]
      rcases key with (i | i) | _ | _ | _
      · have apart : i ≠ start := fun same => here (by rw [same]; rfl)
        dsimp only
        by_cases behind : start + 1 ≤ i
        · have next : i - start = i - (start + 1) + 1 := by omega
          rw [if_pos behind, if_pos (by omega), next, List.getElem?_cons_succ]
        · rw [if_neg behind, if_neg (by omega)]
      all_goals rfl

/-- Every sequence has a mapping with its entries. -/
theorem positioned_mirrors (names : List (Option String)) : Mirrors (positioned 0 names) names := by
  intro key
  rw [lookup_positioned]
  rcases key with (i | i) | _ | _ | _
  all_goals simp

/-- A kind is looked up in the mapping with the result that it has in the sequence. -/
theorem Mirrors.synonymous (mirrors : Mirrors entries names) :
    (sequence names).Synonymous (mapping entries) := by
  have found : ∀ kind, (sequence names).lookup? kind = (mapping entries).lookup? kind := by
    rintro ((i | i) | _ | _ | _)
    · exact (lookup?_sequence names i).trans
        ((congrArg Option.join (mirrors (.number (.ofNat i)))).symm.trans
          (lookup?_mapping entries i).symm)
    all_goals simp
  intro limits kind
  rw [name_eq, name_eq, found]

end NameTable

namespace Description

variable {first second : NameTable}

theorem runFrom_synonymous (same : first.Synonymous second) (limits : Limits) (chain : Chain)
    (window : Nat) (position : Option Nat) :
    runFrom limits chain first window position = runFrom limits chain second window position := by
  induction window generalizing position with
  | zero => rfl
  | succ window ih =>
    cases position with
    | none => rfl
    | some i =>
      simp only [runFrom]
      cases chain.nodes[i]? with
      | none => rfl
      | some node => simp only [same limits Kind.endOfInput, ih]

theorem alternativeLines_synonymous (same : first.Synonymous second) (limits : Limits)
    (terminator : String) (sequences : List (List Kind)) :
    alternativeLines limits first terminator sequences =
      alternativeLines limits second terminator sequences := by
  have line : ∀ kinds, alternativeLine limits first kinds = alternativeLine limits second kinds :=
    fun kinds => by
      rw [alternativeLine, alternativeLine, readAll_congr fun kind _ => same limits kind]
  rw [alternativeLines, alternativeLines, readAll_congr fun kinds _ => line kinds]

theorem generic_synonymous (same : first.Synonymous second) (limits : Limits) (chain : Chain)
    (expected : Expected) (terminator : String) :
    generic limits chain expected first terminator =
      generic limits chain expected second terminator := by
  have runs : ∀ window,
      encountered limits chain first window = encountered limits chain second window := by
    intro window
    rw [encountered, encountered, runParts, runParts, runFrom_synonymous same]
  unfold generic
  simp only [runs, alternativeLines_synonymous same]

theorem describe_synonymous (same : first.Synonymous second) (limits : Limits) (chain : Chain)
    (expected : Expected) :
    describe limits chain expected first = describe limits chain expected second := by
  simp only [describe, generic_synonymous same]

end Description

namespace Failure

/-- The same tokens, with tables that display every kind by the same name, and that can both be
saved, or neither. -/
structure Synonymous (first second : Failure) : Prop where
  chain : first.chain = second.chain
  names : first.names.Synonymous second.names
  saved : first.names.save = second.names.save

namespace Synonymous

variable {first second : Failure}

theorem refl (failure : Failure) : failure.Synonymous failure := ⟨rfl, fun _ _ => rfl, rfl⟩

theorem describe (same : first.Synonymous second) (limits : Limits)
    (sequences : List (List Kind)) :
    first.describe limits sequences = second.describe limits sequences := by
  simp only [Failure.describe, same.chain, Description.describe_synonymous same.names]

theorem code (same : first.Synonymous second) : first.code = second.code := by
  simp only [Failure.code, same.chain]

/-- A change of the chain that is made on both sides. -/
theorem withChain (same : first.Synonymous second) {chain other : Chain} (equal : chain = other) :
    Synonymous { first with chain := chain } { second with chain := other } :=
  ⟨equal, same.names, same.saved⟩

theorem changeToken (same : first.Synonymous second) (index : Nat) (change : Token → Token) :
    Parallel Synonymous (first.changeToken index change) (second.changeToken index change) := by
  simp only [Failure.changeToken, same.chain]
  cases second.chain.reach index with
  | none => exact .fault _
  | some i => exact .done (same.withChain rfl)

theorem link (same : first.Synonymous second) (index : Nat) (target : Option Nat) :
    Parallel Synonymous (first.link index target) (second.link index target) := by
  simp only [Failure.link, same.chain]
  cases second.chain.reach index with
  | none => exact .fault _
  | some i =>
    cases target with
    | none => exact .done (same.withChain rfl)
    | some steps =>
      dsimp only
      cases second.chain.reach steps with
      | none => exact .fault _
      | some next => exact .done (same.withChain rfl)

end Synonymous

end Failure

namespace Evidence

/-- The same cause, or failures with tables that can stand for each other. -/
inductive Synonymous : Evidence → Evidence → Prop where
  | failed {first second : Failure} (same : first.Synonymous second) :
    Synonymous (.failed first) (.failed second)
  | plain (error : PlainError) : Synonymous (.plain error) (.plain error)

namespace Synonymous

variable {first second : Evidence}

theorem refl (evidence : Evidence) : evidence.Synonymous evidence := by
  cases evidence with
  | failed failure => exact .failed (.refl failure)
  | plain error => exact .plain error

theorem describe (same : first.Synonymous second) (limits : Limits)
    (sequences : List (List Kind)) :
    first.describe limits sequences = second.describe limits sequences := by
  cases same with
  | failed same => exact same.describe limits sequences
  | plain error => rfl

theorem code (same : first.Synonymous second) : first.code = second.code := by
  cases same with
  | failed same => exact same.code
  | plain error => rfl

theorem current (same : first.Synonymous second) : first.current? = second.current? := by
  cases same with
  | failed same => exact congrArg (fun chain => some (Chain.current chain)) same.chain
  | plain error => rfl

theorem save (same : first.Synonymous second) (limits : Limits) (level : Nat) :
    first.save limits level = second.save limits level := by
  cases same with
  | failed same => simp only [Evidence.save, same.chain, same.saved]
  | plain error => rfl

/-- A change of the failure that is made on both sides. -/
theorem changeFailure (same : first.Synonymous second) (missing : Fault)
    {change : Failure → Except Fault Failure}
    (both : ∀ first second : Failure, first.Synonymous second →
      Parallel Failure.Synonymous (change first) (change second)) :
    Parallel Synonymous (first.changeFailure missing change)
      (second.changeFailure missing change) := by
  cases same with
  | plain error => exact .fault missing
  | @failed left right same =>
    have changed := both left right same
    simp only [Evidence.changeFailure]
    generalize change left = before at changed ⊢
    generalize change right = after at changed ⊢
    cases changed with
    | fault fault => exact .fault fault
    | done changed => exact .done (.failed changed)

theorem alter (same : first.Synonymous second) (error : PlainError) :
    Parallel Synonymous (first.alter error) (second.alter error) := by
  cases same with
  | failed same => exact .fault _
  | plain other => exact .done (.plain error)

end Synonymous

end Evidence

end ParseFailure
