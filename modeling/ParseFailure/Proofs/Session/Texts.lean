import ParseFailure.Proofs.Writing
import ParseFailure.Session.Read

/-!
What reading an error gives and leaves. Texts that are kept are found again; others are made, if the
process can write the numbers in their heading, and are kept then.
-/

namespace ParseFailure

namespace Cell

variable {cell : Cell}

theorem keep_own (empty : cell.rendered = none) (outcome : Except Fault Rendered) :
    cell.keep cell.name outcome = ⟨cell.name, outcome.toOption⟩ := by
  cases outcome with
  | error fault =>
    rw [keep, Except.toOption, ← empty]
  | ok texts => rw [keep, commit, if_pos rfl, Except.toOption]

/-- What is made before a rename is kept only if the name came back. -/
theorem keep_rename (cell : Cell) (name : Option String) (outcome : Except Fault Rendered) :
    (cell.rename name).keep cell.name outcome =
      if name = cell.name then ⟨cell.name, outcome.toOption⟩ else named name := by
  by_cases same : name = cell.name
  · rw [if_pos same, ← same]
    exact keep_own rfl outcome
  · rw [if_neg same]
    cases outcome with
    | error fault => rfl
    | ok texts => exact if_neg same

end Cell

theorem toOption_eq_some {outcome : Except Fault Rendered} {texts : Rendered} :
    outcome.toOption = some texts ↔ outcome = .ok texts := by
  cases outcome <;> simp [Except.toOption]

/-- The message around a description, as it stands where there is no bound on digits. -/
def Diagnostic.renderInFull (error : Diagnostic) (tooling : Bool) (name : Option String)
    (description : String) : Rendered :=
  ⟨Location.headingInFull tooling name error.span.beginLine error.span.beginColumn ++ description,
    description⟩

theorem Diagnostic.render_eq (error : Diagnostic) (limits : Limits) (tooling : Bool)
    (name : Option String) (description : String) :
    error.render limits tooling name description =
      if Location.HeadingWritable limits tooling error.span.beginLine error.span.beginColumn then
        .ok (error.renderInFull tooling name description)
      else .error limits.digitFault := by
  rw [render, Location.heading_eq, guarded_map]
  rfl

theorem Diagnostic.render_ok {error : Diagnostic} {limits : Limits} {tooling : Bool}
    {name : Option String} {description : String} {texts : Rendered}
    (made : error.render limits tooling name description = .ok texts) :
    texts = error.renderInFull tooling name description := by
  rw [render_eq] at made
  split at made
  · exact (Except.ok.inj made).symm
  · contradiction

namespace Session

variable {session : Session} {error : Diagnostic}

/-- What reading an error gives: the texts that it keeps, else new ones, if they can be made. -/
def texts (session : Session) (error : Diagnostic) : Except Fault Rendered :=
  match error.cell.rendered with
  | some texts => .ok texts
  | none => session.render error

def filled (session : Session) (error : Diagnostic) : Diagnostic :=
  { error with cell := ⟨error.cell.name, (session.texts error).toOption⟩ }

/-- The texts of an error are kept, or the process can write the numbers in their heading. -/
def Readable (session : Session) (error : Diagnostic) : Prop :=
  error.cell.rendered = none → Location.HeadingWritable session.host.limits session.host.tooling
    error.span.beginLine error.span.beginColumn

/-- The texts of an error, as they are read where there is no bound on digits. -/
def textsInFull (session : Session) (error : Diagnostic) : Rendered :=
  error.cell.rendered.getD
    (error.renderInFull session.host.tooling error.cell.name (session.describe error))

instance : Decidable (session.Readable error) := inferInstanceAs (Decidable (_ → _))

theorem texts_of_kept {texts : Rendered} (kept : error.cell.rendered = some texts) :
    session.texts error = .ok texts := by
  rw [Session.texts, kept]

theorem texts_of_empty (empty : error.cell.rendered = none) :
    session.texts error = session.render error := by
  rw [texts, empty]

theorem filled_of_kept {texts : Rendered} (kept : error.cell.rendered = some texts) :
    session.filled error = error := by
  rw [filled, texts_of_kept kept, Except.toOption, ← kept]

theorem filled_of_empty (empty : error.cell.rendered = none) :
    session.filled error =
      { error with cell := ⟨error.cell.name, (session.render error).toOption⟩ } := by
  rw [filled, texts_of_empty empty]

theorem texts_eq (session : Session) (error : Diagnostic) :
    session.texts error =
      if session.Readable error then .ok (session.textsInFull error)
      else .error session.host.limits.digitFault := by
  cases kept : error.cell.rendered with
  | none => simp [texts, kept, render, Diagnostic.render_eq, Readable, textsInFull]
  | some texts => simp [texts_of_kept kept, Readable, kept, textsInFull]

theorem readable_of_unbounded (unbounded : session.host.limits.digits = none) :
    session.Readable error := fun _ =>
  ⟨fun _ => Limits.writes_of_unbounded unbounded _, Limits.writes_of_unbounded unbounded _⟩

/-- What is read from an error does not depend on a name that it is given meanwhile. -/
theorem readDuring_fst (session : Session) (id : Nat) (error : Diagnostic)
    (meanwhile : Cell → Cell) :
    (session.readDuring id error meanwhile).1 = session.texts error := by
  unfold readDuring texts
  cases error.cell.rendered <;> rfl

theorem read_fst (session : Session) (id : Nat) (error : Diagnostic) :
    (session.read id error).1 = session.texts error :=
  readDuring_fst session id error _

theorem read_of_kept {texts : Rendered} (kept : error.cell.rendered = some texts) (id : Nat) :
    session.read id error = (.ok texts, session) := by
  simp only [read, readDuring, kept]

theorem read_of_empty (empty : error.cell.rendered = none) (id : Nat) :
    session.read id error = (session.render error,
      (session.setDiagnostic id (session.filled error)).setHost session.host.settle) := by
  simp only [read, readDuring, empty, Cell.keep_own empty, filled_of_empty empty]

/-- A name that is given during a first read stands afterwards, unless it is the one it was. -/
theorem readDuring_rename (empty : error.cell.rendered = none) (id : Nat) (name : Option String) :
    (session.readDuring id error fun cell => cell.rename name).2 =
      (session.setDiagnostic id
        (if name = error.cell.name then session.filled error
          else { error with cell := Cell.named name })).setHost session.host.settle := by
  simp only [readDuring, empty, Cell.keep_rename]
  split
  · rw [filled_of_empty empty]
  · rfl

/-- What a report puts together, in the order in which a fault is met. -/
theorem report_fst (session : Session) (id : Nat) (error : Diagnostic) :
    (session.report id error).1 = (do
      let code ← session.code error
      let rendered ← session.texts error
      let place ← error.place session.host.limits
      let excerpt ← error.excerpt session.host.limits session.host.colors
      let cause ← ((session.read id error).2.causeOf error).1
      .ok (Report.text session.host.colors
        ⟨code.value, rendered.description, place, excerpt, cause⟩)) := by
  unfold report
  cases session.code error with
  | error fault => rfl
  | ok code =>
    simp only [read_fst]
    cases session.texts error with
    | error fault => rfl
    | ok rendered =>
      simp only [bind, Except.bind, Diagnostic.reported]
      cases error.place session.host.limits with
      | error fault => rfl
      | ok place =>
        cases error.excerpt session.host.limits session.host.colors with
        | error fault => rfl
        | ok excerpt => cases ((session.read id error).2.causeOf error).1 <;> rfl

end Session

end ParseFailure
