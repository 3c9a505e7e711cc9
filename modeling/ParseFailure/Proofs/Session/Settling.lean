import ParseFailure.Proofs.Host
import ParseFailure.Proofs.Session.Grown
import ParseFailure.Proofs.Session.LifeCycle

/-!
The steps that need the mode of the process. A step that asks for it, or makes texts, decides it;
every other step leaves it as it is, and one that finds its texts kept does not depend on it.
-/

namespace ParseFailure

namespace Session

variable {session middle after : Session} {id reader : Nat} {error other : Diagnostic}
  {texts : Rendered} {first second asks : Prop}

/-- Whether an action on the error at `reader` reads the error at `id`. A name that is given during
a read comes too late to prevent it. -/
def ReadsFrom (session : Session) (id reader : Nat) (other : Diagnostic) : Action → Prop
  | .messageDuringRename _ => reader = id
  | action => session.FillsFrom id reader other action

def Reads (session : Session) (id : Nat) : Step → Prop
  | .act of action =>
    ∃ reader other, session.slot? of = some (.diagnostic reader) ∧
      session.diagnostics[reader]? = some other ∧ session.ReadsFrom id reader other action
  | _ => False

/-- Whether a step needs the mode: it asks for it, or reads an error that keeps no texts. -/
def Resolves (session : Session) (step : Step) : Prop :=
  step = .askTooling ∨ ∃ id error, session.diagnostics[id]? = some error ∧
    error.cell.rendered = none ∧ session.Reads id step

/-- The mode has been asked for if `asks` holds, and the host is as it was otherwise. -/
def SettlesIf (session after : Session) (asks : Prop) : Prop :=
  (asks ∧ after.host = session.host.settle) ∨ (¬ asks ∧ after.host = session.host)

theorem SettlesIf.congr (same : first ↔ second) (settles : session.SettlesIf after first) :
    session.SettlesIf after second := by
  rwa [SettlesIf, ← same]

theorem settlesIf_never (never : ¬ asks) (same : after.host = session.host) :
    session.SettlesIf after asks := .inr ⟨never, same⟩

theorem SettlesIf.trans (settles : session.SettlesIf middle first)
    (later : middle.SettlesIf after second) : session.SettlesIf after (first ∨ second) := by
  rcases settles with ⟨yes, same⟩ | ⟨no, same⟩
  · refine .inl ⟨.inl yes, ?_⟩
    rcases later with ⟨-, again⟩ | ⟨-, kept⟩
    · rw [again, same, Host.settle_settle]
    · exact kept.trans same
  · rcases later with ⟨yes, again⟩ | ⟨still, kept⟩
    · exact .inl ⟨.inr yes, by rw [again, same]⟩
    · exact .inr ⟨fun either => either.elim no still, kept.trans same⟩

theorem readDuring_settles (error : Diagnostic) (meanwhile : Cell → Cell) :
    session.SettlesIf (session.readDuring id error meanwhile).2 (error.cell.rendered = none) := by
  unfold readDuring
  cases error.cell.rendered with
  | some texts => exact settlesIf_never (by simp) rfl
  | none => exact .inl ⟨rfl, rfl⟩

/-- Somewhere in a session, an error without texts for which something holds. -/
def SomeEmpty (session : Session) (about : Nat → Prop) : Prop :=
  ∃ id error, session.diagnostics[id]? = some error ∧ error.cell.rendered = none ∧ about id

/-- For the error at one position, that is a matter of its own cell. -/
theorem someEmpty_at (found : session.diagnostics[id]? = some error) {about : Nat → Prop}
    (only : ∀ other, about other ↔ id = other) :
    session.SomeEmpty about ↔ error.cell.rendered = none := by
  constructor
  · rintro ⟨other, present, stored, empty, same⟩
    cases (only other).mp same
    cases Option.some.inj (found.symm.trans stored)
    exact empty
  · intro empty
    exact ⟨id, error, found, empty, (only id).mpr rfl⟩

theorem someEmpty_never {about : Nat → Prop} (never : ∀ other, ¬ about other) :
    ¬ session.SomeEmpty about := by
  rintro ⟨other, -, -, -, holds⟩
  exact never other holds

theorem causeOf_settles (other : Diagnostic) :
    session.SettlesIf (session.causeOf other).2
      (session.SomeEmpty fun id => other.cause? = some (.diagnostic id)) := by
  unfold causeOf
  cases other.cause? with
  | none => exact settlesIf_never (someEmpty_never (by simp)) rfl
  | some held =>
    cases held with
    | plain e => exact settlesIf_never (someEmpty_never (by simp)) rfl
    | diagnostic cause =>
      simp only [textOf, Option.some.injEq, Held.diagnostic.injEq]
      cases found : session.diagnostics[cause]? with
      | none =>
        refine settlesIf_never ?_ rfl
        rintro ⟨_, error, stored, -, rfl⟩
        simp [found] at stored
      | some error =>
        exact (readDuring_settles error _).congr (someEmpty_at found fun _ => Iff.rfl).symm

theorem report_settles (present : session.diagnostics[reader]? = some other) :
    session.SettlesIf (session.report reader other).2
      (session.SomeEmpty fun id => session.FillsFrom id reader other .report) := by
  unfold report
  cases coded : session.code other with
  | error fault => exact settlesIf_never (someEmpty_never (by simp [FillsFrom, coded])) rfl
  | ok code =>
    have own : session.SettlesIf (session.read reader other).2 (other.cell.rendered = none) :=
      readDuring_settles other _
    simp only [read_fst]
    cases put : session.texts other >>=
        other.reported session.host.limits session.host.colors code with
    | error fault =>
      exact own.congr (someEmpty_at present (by simp [FillsFrom, coded, put])).symm
    | ok report =>
      cases kept : other.cell.rendered with
      | some texts =>
        -- The cause is looked for in the same session, since the error itself is not read.
        simp only [read_of_kept kept]
        refine (causeOf_settles other).congr ⟨?_, ?_⟩
        · rintro ⟨id, error, stored, empty, caused⟩
          exact ⟨id, error, stored, empty, code, coded, .inr ⟨⟨report, put⟩, caused⟩⟩
        · rintro ⟨id, error, stored, empty, -, -, same | ⟨-, caused⟩⟩
          · subst same
            cases Option.some.inj (present.symm.trans stored)
            simp [kept] at empty
          · exact ⟨id, error, stored, empty, caused⟩
      | none =>
        refine (own.trans (causeOf_settles other)).congr ⟨fun _ => ?_, fun _ => .inl kept⟩
        exact ⟨reader, other, present, kept, code, coded, .inl rfl⟩

theorem get_settles (present : session.diagnostics[reader]? = some other) (field : Field) :
    session.SettlesIf (session.get reader other field).2
      (session.SomeEmpty fun id => session.FillsFrom id reader other (.get field)) := by
  cases field with
  | message | text | description | editorMessage =>
    refine (readDuring_settles other _).congr (someEmpty_at present ?_).symm
    simp [FillsFrom, Field.isText]
  | cause =>
    have settles : session.SettlesIf (session.causeOf other).2
        (session.SomeEmpty fun id => session.FillsFrom id reader other (.get .cause)) :=
      (causeOf_settles other).congr (by simp [SomeEmpty, FillsFrom, Field.isText])
    exact settles
  | name | source | line | column | endLine | endColumn | code | arguments | written | sequences |
      currentToken | chained =>
    exact settlesIf_never (someEmpty_never (by simp [FillsFrom, Field.isText])) rfl

theorem changeEvidence_host (other : Diagnostic) (missing : Fault)
    (change : Evidence → Except Fault Evidence) :
    (session.changeEvidence other missing change).2.host = session.host := by
  unfold changeEvidence
  split
  · rfl
  · split
    · rfl
    · split <;> rfl

theorem actOn_settles (present : session.diagnostics[reader]? = some other) (action : Action) :
    session.SettlesIf (session.actOn reader other action).2
      (session.SomeEmpty fun id => session.ReadsFrom id reader other action) := by
  cases action with
  | get field => exact get_settles present field
  | report => exact report_settles present
  | messageDuringRename name =>
    exact (readDuring_settles other _).congr (someEmpty_at present fun _ => Iff.rfl).symm
  | overview | rename | setSource | extendReported =>
    exact settlesIf_never (someEmpty_never fun _ reads => reads) rfl
  | editToken | link | setName | alterCause =>
    exact settlesIf_never (someEmpty_never fun _ reads => reads) (changeEvidence_host other _ _)

variable {step : Step}

theorem SettlesIf.decided (settles : session.SettlesIf after asks) :
    (asks ∧ after.host.decided = some session.host.tooling) ∨
      (¬ asks ∧ after.host.decided = session.host.decided) := by
  rcases settles with ⟨yes, same⟩ | ⟨no, same⟩
  · exact .inl ⟨yes, by rw [same, Host.settle]⟩
  · exact .inr ⟨no, by rw [same]⟩

theorem reads_act {of : String} {action : Action}
    (slot : session.slot? of = some (.diagnostic reader))
    (present : session.diagnostics[reader]? = some other) :
    session.Reads id (.act of action) ↔ session.ReadsFrom id reader other action := by
  constructor
  · rintro ⟨reader', other', slot', present', reads⟩
    cases Option.some.inj (slot.symm.trans slot')
    cases Option.some.inj (present.symm.trans present')
    exact reads
  · exact fun reads => ⟨reader, other, slot, present, reads⟩

theorem resolves_act {of : String} {action : Action} : session.Resolves (.act of action) ↔
    session.SomeEmpty fun id => session.Reads id (.act of action) := by
  simp [Resolves, SomeEmpty]

/-- Steps that do something to the process, or add to a session, read nothing. -/
theorem not_resolves (idle : step ≠ .askTooling) (never : ∀ id, ¬ session.Reads id step) :
    ¬ session.Resolves step := by
  rintro (asks | ⟨id, -, -, -, reads⟩)
  · exact idle asks
  · exact never id reads

theorem act_settles (of : String) (action : Action) :
    session.SettlesIf (session.act of action).2 (session.Resolves (.act of action)) := by
  have unread : (∀ reader other, session.slot? of = some (.diagnostic reader) →
      session.diagnostics[reader]? ≠ some other) → ¬ session.Resolves (.act of action) := by
    intro nothing
    refine not_resolves nofun ?_
    rintro id ⟨reader, other, slot, present, -⟩
    exact nothing reader other slot present
  unfold act
  split
  · next slot => exact settlesIf_never (unread (by simp [slot])) rfl
  · next e slot => exact settlesIf_never (unread (by simp [slot])) rfl
  · next reader slot =>
    split
    · next absent =>
      refine settlesIf_never (unread ?_) rfl
      intro reader' other slot' present
      cases Option.some.inj (slot.symm.trans slot')
      simp [present] at absent
    · next other present =>
      refine (actOn_settles present action).congr ?_
      simp only [resolves_act, reads_act slot present]

/-- A step decides the mode if it needs it, and otherwise leaves it alone, unless it forgets it. -/
theorem step_decides (session : Session) (remembers : step ≠ .forgetTooling) :
    (session.Resolves step ∧ (session.step step).2.host.decided = some session.host.tooling) ∨
      (¬ session.Resolves step ∧ (session.step step).2.host.decided = session.host.decided) := by
  cases step with
  | askTooling => exact .inl ⟨.inl rfl, rfl⟩
  | forgetTooling => contradiction
  | setFlag value =>
    refine .inr ⟨not_resolves (by simp) fun _ reads => reads, ?_⟩
    simp only [Session.step, perform]
    split <;> rfl
  | load | unload | setColors => exact .inr ⟨not_resolves (by simp) fun _ reads => reads, rfl⟩
  | construct slot construction =>
    have same : (session.step (.construct slot construction)).2.host = session.host :=
      holdNew_host session slot fun held after => construct_grows
    exact .inr ⟨not_resolves (by simp) fun _ reads => reads, congrArg Host.decided same⟩
  | clone depth of slot =>
    have same : (session.step (.clone depth of slot)).2.host = session.host :=
      holdNew_host session slot fun held after => cloneSlot_grows
    exact .inr ⟨not_resolves (by simp) fun _ reads => reads, congrArg Host.decided same⟩
  | act of action => exact (act_settles of action).decided

/-- The mode stays as it is decided until it is forgotten. -/
theorem step_decided {mode : Bool} (decided : session.host.decided = some mode)
    (remembers : step ≠ .forgetTooling) : (session.step step).2.host.decided = some mode := by
  rcases step_decides session remembers with ⟨-, made⟩ | ⟨-, same⟩
  · rw [made, Host.tooling_of_decided decided]
  · exact same.trans decided

end Session

end ParseFailure
