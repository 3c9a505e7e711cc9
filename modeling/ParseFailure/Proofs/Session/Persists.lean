import ParseFailure.Proofs.Session.Kept

/-!
What stays of an error while a session goes on. Its origin and its place never change, nor, as long
as the evidence is left alone, does its description; its name is the one that it was given last.
-/

namespace ParseFailure

/-- A step that gives the template another name in the middle of a read. -/
def Step.readsDuringRename : Step → Bool
  | .act _ (.messageDuringRename _) => true
  | _ => false

namespace Session

variable {step : Step} {before after session : Session} {id : Nat} {error later : Diagnostic}
  {settled untouched : Prop}

/-- One error at two moments of a session. -/
structure Persists (before after : Session) (error later : Diagnostic) : Prop where
  origin : later.origin = error.origin
  span : later.span = error.span
  described : after.describe later = before.describe error

theorem describe_congr (origin : later.origin = error.origin) :
    session.describe later = session.describe error := by
  simp only [describe, origin]

theorem Persists.refl (session : Session) (error : Diagnostic) :
    session.Persists session error error := ⟨rfl, rfl, rfl⟩

theorem Persists.trans {between : Session} {middle : Diagnostic}
    (first : before.Persists between error middle) (second : between.Persists after middle later) :
    before.Persists after error later :=
  ⟨second.origin.trans first.origin, second.span.trans first.span,
    second.described.trans first.described⟩

/-- Only edits change the description of an error whose evidence exists. -/
theorem Move.describe_eq (move : Move step before after) (intact : step.editsEvidence = false)
    (grounded : ∀ e, error.origin.failure? = some e → before.HasFailure e) :
    after.describe error = before.describe error := by
  cases move with
  | addEvidence evidence => exact describe_addEvidence evidence grounded
  | edit id evidence changed asked stored sort => simp [intact] at asked
  | surround host decided limits => exact describe_setHost limits
  | settle | forget | hold | add | copy | keep | rename | setSource => rfl

theorem setDiagnostic_found {changed : Diagnostic} (target : Nat)
    (found : session.diagnostics[id]? = some error) :
    (session.setDiagnostic target changed).diagnostics[id]? =
      some (if target = id then changed else error) := by
  obtain ⟨inside, -⟩ := List.getElem?_eq_some_iff.mp found
  simp only [setDiagnostic, List.getElem?_set]
  split
  · next same =>
    subst same
    simp [inside]
  · simp [found]

/-- All that a move may do to an error: keep texts for it if it had none, set its source, or give it
a name. -/
theorem Move.changes (move : Move step before after)
    (found : before.diagnostics[id]? = some error) :
    ∃ later, after.diagnostics[id]? = some later ∧
      (later = error ∨
        (error.cell.rendered = none ∧ later = before.filled error) ∨
        (∃ source, later = { error with source := source }) ∨
        (step.renames = true ∧ ∃ name, later = { error with cell := Cell.named name })) := by
  have inside := (List.getElem?_eq_some_iff.mp found).1
  -- An error that is put at a position belongs to the error that stood there.
  have replaced : ∀ {target : Nat} {old : Diagnostic} (changed : Diagnostic),
      before.diagnostics[target]? = some old →
      ∃ later, (before.setDiagnostic target changed).diagnostics[id]? = some later ∧
        (later = error ∨ (old = error ∧ later = changed)) := by
    intro target old changed present
    refine ⟨_, setDiagnostic_found target found, ?_⟩
    split
    · next same =>
      subst same
      exact .inr ⟨Option.some.inj (present.symm.trans found), rfl⟩
    · exact .inl rfl
  cases move with
  | surround | settle | forget | hold | addEvidence | edit => exact ⟨error, found, .inl rfl⟩
  | add | copy => exact ⟨error, (List.getElem?_append_left inside).trans found, .inl rfl⟩
  | keep target old present empty =>
    obtain ⟨later, foundLater, same | ⟨rfl, rfl⟩⟩ := replaced _ present
    · exact ⟨later, foundLater, .inl same⟩
    · exact ⟨_, foundLater, .inr (.inl ⟨empty, rfl⟩)⟩
  | setSource target old source present =>
    obtain ⟨later, foundLater, same | ⟨rfl, rfl⟩⟩ := replaced _ present
    · exact ⟨later, foundLater, .inl same⟩
    · exact ⟨_, foundLater, .inr (.inr (.inl ⟨source, rfl⟩))⟩
  | rename target old name present asked =>
    obtain ⟨later, foundLater, same | ⟨rfl, rfl⟩⟩ := replaced _ present
    · exact ⟨later, foundLater, .inl same⟩
    · exact ⟨_, foundLater, .inr (.inr (.inr ⟨asked, name, rfl⟩))⟩

theorem Move.found (move : Move step before after) (found : before.diagnostics[id]? = some error) :
    ∃ later, after.diagnostics[id]? = some later ∧ later.origin = error.origin ∧
      later.span = error.span ∧ (step.renames = false → later.cell.name = error.cell.name) := by
  obtain ⟨later, foundLater, rfl | ⟨-, rfl⟩ | ⟨source, rfl⟩ | ⟨asked, name, rfl⟩⟩ :=
    move.changes found
  · exact ⟨_, foundLater, rfl, rfl, fun _ => rfl⟩
  · exact ⟨_, foundLater, rfl, rfl, fun _ => rfl⟩
  · exact ⟨_, foundLater, rfl, rfl, fun _ => rfl⟩
  · exact ⟨_, foundLater, rfl, rfl, fun calm => by simp [calm] at asked⟩

theorem Moves.found (moves : Moves step before after)
    (found : before.diagnostics[id]? = some error) :
    ∃ later, after.diagnostics[id]? = some later ∧ later.origin = error.origin ∧
      later.span = error.span := by
  induction moves with
  | refl => exact ⟨error, found, rfl, rfl⟩
  | tail _ move ih =>
    obtain ⟨middle, present, origin, span⟩ := ih
    obtain ⟨later, foundLater, sameOrigin, sameSpan, -⟩ := move.found present
    exact ⟨later, foundLater, sameOrigin.trans origin, sameSpan.trans span⟩

theorem Moves.persists (moves : Moves step before after) (intact : step.editsEvidence = false)
    (found : before.diagnostics[id]? = some error)
    (grounded : ∀ e, error.origin.failure? = some e → before.HasFailure e) :
    ∃ later, after.diagnostics[id]? = some later ∧ before.Persists after error later ∧
      (step.renames = false → later.cell.name = error.cell.name) := by
  suffices strong : (∀ e, error.origin.failure? = some e → after.HasFailure e) ∧
      ∃ later, after.diagnostics[id]? = some later ∧ before.Persists after error later ∧
        (step.renames = false → later.cell.name = error.cell.name) from strong.2
  induction moves with
  | refl => exact ⟨grounded, error, found, .refl before error, fun _ => rfl⟩
  | tail _ move ih =>
    obtain ⟨still, middle, present, same, name⟩ := ih
    obtain ⟨later, foundLater, origin, span, nameLater⟩ := move.found present
    have described := (describe_congr origin).trans
      (move.describe_eq intact (same.origin ▸ still))
    exact ⟨fun e refers => move.hasFailure (still e refers), later, foundLater,
      same.trans ⟨origin, span, described⟩, fun calm => (nameLater calm).trans (name calm)⟩

/-- The name that a step gives to the error at a position. -/
def assigned? (session : Session) (id : Nat) : Step → Option (Option String)
  | .act of (.rename name) =>
    if session.slot? of = some (.diagnostic id) then some name else none
  | _ => none

def nameAfter (session : Session) (id : Nat) (name : Option String) : List Step → Option String
  | [] => name
  | first :: rest =>
    (session.step first).2.nameAfter id ((session.assigned? id first).getD name) rest

theorem rename_found (of : String) (name : Option String)
    (found : session.diagnostics[id]? = some error) :
    ∃ later, (session.perform (.act of (.rename name))).2.diagnostics[id]? = some later ∧
      later.cell.name = (session.assigned? id (.act of (.rename name))).getD error.cell.name := by
  simp only [perform, act, assigned?]
  cases slot : session.slot? of with
  | none => exact ⟨error, found, rfl⟩
  | some held =>
    cases held with
    | plain other => exact ⟨error, found, rfl⟩
    | diagnostic target =>
      by_cases same : target = id
      · subst same
        simp only [found, actOn]
        refine ⟨_, setDiagnostic_found target found, ?_⟩
        simp [Cell.rename, Cell.named]
      · cases present : session.diagnostics[target]? with
        | none =>
          simp only [present]
          exact ⟨error, found, by simp [same]⟩
        | some other =>
          simp only [present, actOn]
          refine ⟨_, setDiagnostic_found target found, ?_⟩
          simp [same]

theorem perform_persists (sound : session.Sound settled untouched) (step : Step)
    (intact : step.editsEvidence = false) (calm : step.readsDuringRename = false)
    (found : session.diagnostics[id]? = some error) :
    ∃ later, (session.perform step).2.diagnostics[id]? = some later ∧
      session.Persists (session.perform step).2 error later ∧
      later.cell.name = (session.assigned? id step).getD error.cell.name := by
  have grounded := sound.grounded error (List.mem_of_getElem? found)
  obtain ⟨later, foundLater, same, name⟩ :=
    Moves.persists (perform_moves session step) intact found grounded
  refine ⟨later, foundLater, same, ?_⟩
  cases step with
  | act of action =>
    cases action with
    | rename given =>
      obtain ⟨renamed, foundRenamed, nameRenamed⟩ := rename_found of given found
      cases Option.some.inj (foundLater.symm.trans foundRenamed)
      exact nameRenamed
    | messageDuringRename given => contradiction
    | get | overview | report | setSource | editToken | link | setName | alterCause |
        extendReported => exact name rfl
  | setFlag | load | unload | askTooling | forgetTooling | setColors | construct | clone =>
    exact name rfl

end Session

end ParseFailure
