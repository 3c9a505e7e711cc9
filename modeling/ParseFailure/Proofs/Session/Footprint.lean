import ParseFailure.Proofs.Session.LifeCycle

/-!
What an action leaves alone. It makes nothing and gives nothing another name; every error stays as
it was made; evidence stays as it is, but for what an edit is addressed to; and no error is touched
but the one acted on and its cause, which at most is read.
-/

namespace ParseFailure

/-- What never changes about an error: its origin, its arguments, and what it is raised from. -/
def Diagnostic.fixed (error : Diagnostic) : Origin × List String × Option Held :=
  (error.origin, error.arguments, error.chained)

theorem Diagnostic.fixed_eq_iff {error other : Diagnostic} : error.fixed = other.fixed ↔
    error.origin = other.origin ∧ error.arguments = other.arguments ∧
      error.chained = other.chained := by
  simp [fixed]

namespace Session

variable {session middle after : Session} {id reader : Nat} {error other changed : Diagnostic}
  {edited wider : Nat → Prop}

/-- Nothing has been made or held, every error is as it was made, and only evidence at the given
positions may have changed. -/
structure Keeps (edited : Nat → Prop) (session after : Session) : Prop where
  slots : after.slots = session.slots
  errors : after.diagnostics.map Diagnostic.fixed = session.diagnostics.map Diagnostic.fixed
  size : after.evidence.length = session.evidence.length
  evidence : ∀ e, ¬ edited e → after.evidence[e]? = session.evidence[e]?

namespace Keeps

theorem refl (edited : Nat → Prop) (session : Session) : Keeps edited session session :=
  ⟨rfl, rfl, rfl, fun _ _ => rfl⟩

theorem trans (first : Keeps edited session middle) (second : Keeps edited middle after) :
    Keeps edited session after where
  slots := second.slots.trans first.slots
  errors := second.errors.trans first.errors
  size := second.size.trans first.size
  evidence e outside := (second.evidence e outside).trans (first.evidence e outside)

theorem mono (keeps : Keeps edited session after) (included : ∀ e, edited e → wider e) :
    Keeps wider session after where
  slots := keeps.slots
  errors := keeps.errors
  size := keeps.size
  evidence e outside := keeps.evidence e fun inside => outside (included e inside)

theorem fixed_eq (keeps : Keeps edited session after) (id : Nat) :
    after.diagnostics[id]?.map Diagnostic.fixed =
      session.diagnostics[id]?.map Diagnostic.fixed := by
  rw [← List.getElem?_map, ← List.getElem?_map, keeps.errors]

theorem length_eq (keeps : Keeps edited session after) :
    after.diagnostics.length = session.diagnostics.length := by
  simpa using congrArg List.length keeps.errors

/-- What is found afterwards was there before. -/
theorem before (keeps : Keeps edited session after) {later : Diagnostic}
    (found : after.diagnostics[id]? = some later) :
    ∃ error, session.diagnostics[id]? = some error ∧ error.fixed = later.fixed := by
  have same := (keeps.fixed_eq id).symm
  rwa [found, Option.map_some, Option.map_eq_some_iff] at same

end Keeps

theorem setHost_keeps (session : Session) (host : Host) :
    Keeps edited session (session.setHost host) := ⟨rfl, rfl, rfl, fun _ _ => rfl⟩

theorem setDiagnostic_keeps (found : session.diagnostics[id]? = some error)
    (same : changed.fixed = error.fixed) :
    Keeps edited session (session.setDiagnostic id changed) := by
  refine ⟨rfl, ?_, rfl, fun _ _ => rfl⟩
  obtain ⟨inside, here⟩ := List.getElem?_eq_some_iff.mp found
  apply List.ext_getElem?
  intro position
  simp only [setDiagnostic, List.getElem?_map, List.getElem?_set]
  split
  · next target =>
    subst target
    simp [inside, same, here]
  · rfl

theorem setEvidence_keeps (session : Session) (id : Nat) (evidence : Evidence) :
    Keeps (· = id) session (session.setEvidence id evidence) where
  slots := rfl
  errors := rfl
  size := List.length_set
  evidence _ outside := List.getElem?_set_ne (Ne.symm outside)

theorem readDuring_keeps (found : session.diagnostics[id]? = some error) (meanwhile : Cell → Cell) :
    Keeps edited session (session.readDuring id error meanwhile).2 := by
  unfold readDuring
  split
  · exact .refl edited session
  · next empty =>
    have kept : Keeps edited session (session.setDiagnostic id { error with
        cell := (meanwhile error.cell).keep error.cell.name (session.render error) }) :=
      setDiagnostic_keeps found rfl
    exact kept.trans (setHost_keeps _ session.host.settle)

theorem causeOf_keeps (error : Diagnostic) : Keeps edited session (session.causeOf error).2 := by
  unfold causeOf
  cases error.cause? with
  | none => exact .refl edited session
  | some held =>
    cases held with
    | plain plain => exact .refl edited session
    | diagnostic cause =>
      simp only [textOf]
      split
      · next found => exact readDuring_keeps found _
      · exact .refl edited session

theorem report_keeps (found : session.diagnostics[id]? = some error) :
    Keeps edited session (session.report id error).2 := by
  have read : Keeps edited session (session.read id error).2 := readDuring_keeps found _
  unfold report
  split
  · exact .refl edited session
  · dsimp only
    split
    · exact read
    · exact read.trans (causeOf_keeps error)

theorem get_keeps (found : session.diagnostics[id]? = some error) (field : Field) :
    Keeps edited session (session.get id error field).2 := by
  cases field with
  | message | text | description | editorMessage => exact readDuring_keeps found _
  | cause => exact causeOf_keeps error
  | name | source | line | column | endLine | endColumn | code | arguments | written | sequences |
      currentToken | chained => exact .refl edited session

theorem changeEvidence_keeps (session : Session) (error : Diagnostic) (missing : Fault)
    (change : Evidence → Except Fault Evidence) :
    Keeps (fun e => error.evidence? = some e) session
      (session.changeEvidence error missing change).2 := by
  unfold changeEvidence
  split
  · exact .refl _ session
  · next e own =>
    split
    · exact .refl _ session
    · split
      · exact .refl _ session
      · refine (setEvidence_keeps session e _).mono ?_
        rintro _ rfl
        exact own

theorem actOn_keeps (found : session.diagnostics[id]? = some error) (action : Action) :
    Keeps (fun e => action.editsEvidence = true ∧ error.evidence? = some e) session
      (session.actOn id error action).2 := by
  cases action with
  | get field => exact get_keeps found field
  | overview | extendReported => exact .refl _ session
  | report => exact report_keeps found
  | messageDuringRename name => exact readDuring_keeps found _
  | rename | setSource => exact setDiagnostic_keeps found rfl
  | editToken | link | setName | alterCause =>
    exact (changeEvidence_keeps session error _ _).mono fun _ own => ⟨rfl, own⟩

theorem act_keeps (session : Session) (of : String) (action : Action) :
    Keeps (fun _ => action.editsEvidence = true) session (session.act of action).2 := by
  unfold act
  split
  · exact .refl _ session
  · exact .refl _ session
  · split
    · exact .refl _ session
    · next found => exact (actOn_keeps found action).mono fun _ both => both.1

/-- Of the errors beside the one that is acted on, only its cause may be read. -/
theorem actOn_elsewhere (found : session.diagnostics[id]? = some error)
    (present : session.diagnostics[reader]? = some other) (elsewhere : reader ≠ id)
    (action : Action) :
    session.ReadIf (session.actOn reader other action).2 id error
      (session.FillsFrom id reader other action) := by
  have untouched : (session.actOn reader other action).2.diagnostics[id]? = some error →
      ¬ session.FillsFrom id reader other action →
      session.ReadIf (session.actOn reader other action).2 id error
        (session.FillsFrom id reader other action) := fun same never => .inr ⟨never, same⟩
  cases action with
  | get field => exact get_readIf found present field
  | report => exact report_readIf found present
  | overview | extendReported => exact untouched found fun fills => fills
  | rename | setSource => exact untouched (setDiagnostic_other elsewhere found) fun fills => fills
  | editToken | link | setName | alterCause =>
    exact untouched ((changeEvidence_diagnostics other _ _).symm ▸ found) fun fills => fills
  | messageDuringRename name =>
    refine untouched ?_ fun fills => elsewhere fills.1
    simp only [actOn, readDuring]
    split
    · exact found
    · exact setDiagnostic_other elsewhere found

end Session

end ParseFailure
