import ParseFailure.Proofs.Session.Persists

/-!
What a step makes of the texts of one error. A read fills the cell that it finds empty, and only a
name given to the error empties it; nothing else touches it.
-/

namespace ParseFailure

/-- Fields that hold a text which has to be made. -/
def Field.isText : Field → Bool
  | .message | .text | .description | .editorMessage => true
  | _ => false

namespace Session

variable {session middle after : Session} {id reader : Nat} {error other : Diagnostic}
  {first second reads : Prop}

/-- Whether an action on the error at `reader` makes texts for the error at `id`, should it have
none and should they be possible: that error itself is read or reported, or it is put into words as
a cause, or it is renamed during a read and given the name that it has. A report without a code
reads nothing, and one that meets a fault before does not come to the cause. -/
def FillsFrom (session : Session) (id reader : Nat) (other : Diagnostic) : Action → Prop
  | .get field =>
    (field.isText ∧ reader = id) ∨ (field = .cause ∧ other.cause? = some (.diagnostic id))
  | .report =>
    ∃ code, session.code other = .ok code ∧
      (reader = id ∨ (∃ report, session.texts other >>=
          other.reported session.host.limits session.host.colors code = .ok report) ∧
        other.cause? = some (.diagnostic id))
  | .messageDuringRename name => reader = id ∧ name = other.cell.name
  | _ => False

/-- Whether a step makes texts for the error at a position, should it have none. -/
def Fills (session : Session) (id : Nat) : Step → Prop
  | .act of action =>
    ∃ reader other, session.slot? of = some (.diagnostic reader) ∧
      session.diagnostics[reader]? = some other ∧ session.FillsFrom id reader other action
  | _ => False

theorem setDiagnostic_same {changed : Diagnostic} (found : session.diagnostics[id]? = some error) :
    (session.setDiagnostic id changed).diagnostics[id]? = some changed :=
  (setDiagnostic_found id found).trans (congrArg some (if_pos rfl))

theorem setDiagnostic_other {changed : Diagnostic} (elsewhere : reader ≠ id)
    (found : session.diagnostics[id]? = some error) :
    (session.setDiagnostic reader changed).diagnostics[id]? = some error :=
  (setDiagnostic_found reader found).trans (congrArg some (if_neg elsewhere))

/-- The error at a position has been read if `reads` holds, and is as it was otherwise. -/
def ReadIf (session after : Session) (id : Nat) (error : Diagnostic) (reads : Prop) : Prop :=
  (reads ∧ after.diagnostics[id]? = some (session.filled error)) ∨
    (¬ reads ∧ after.diagnostics[id]? = some error)

theorem ReadIf.congr (same : first ↔ second) (read : session.ReadIf after id error first) :
    session.ReadIf after id error second := by
  rwa [ReadIf, ← same]

theorem readIf_never (found : after.diagnostics[id]? = some error) (never : ¬ reads) :
    session.ReadIf after id error reads := .inr ⟨never, found⟩

theorem texts_congr (same : middle.render error = session.render error) :
    middle.texts error = session.texts error := by
  rw [texts, texts, same]

/-- A further read gives what the first one gave. -/
theorem texts_filled (same : middle.render error = session.render error) :
    middle.texts (session.filled error) = session.texts error := by
  cases kept : error.cell.rendered with
  | some texts =>
    rw [filled_of_kept kept, texts_of_kept kept, texts_of_kept kept]
  | none =>
    rw [filled_of_empty kept, texts_of_empty kept]
    cases made : session.render error with
    | ok texts => rfl
    | error fault => exact same.trans made

/-- An error that has been read is not changed by a further read. -/
theorem filled_filled (same : middle.render error = session.render error) :
    middle.filled (session.filled error) = session.filled error := by
  rw [filled, texts_filled same]
  rfl

/-- One read after another, where the first has left alone what texts are made from. -/
theorem ReadIf.trans (same : middle.render error = session.render error)
    (read : session.ReadIf middle id error first)
    (later : ∀ found, middle.diagnostics[id]? = some found → middle.ReadIf after id found second) :
    session.ReadIf after id error (first ∨ second) := by
  rcases read with ⟨yes, found⟩ | ⟨no, found⟩
  · refine .inl ⟨.inl yes, ?_⟩
    rcases later _ found with ⟨-, again⟩ | ⟨-, kept⟩
    · rwa [filled_filled same] at again
    · exact kept
  · rcases later _ found with ⟨yes, read⟩ | ⟨still, kept⟩
    · refine .inl ⟨.inr yes, ?_⟩
      rwa [filled, texts_congr same] at read
    · exact .inr ⟨fun either => either.elim no still, kept⟩

theorem read_readIf (found : session.diagnostics[id]? = some error)
    (present : session.diagnostics[reader]? = some other) :
    session.ReadIf (session.read reader other).2 id error (reader = id) := by
  by_cases same : reader = id
  · subst same
    cases Option.some.inj (present.symm.trans found)
    refine .inl ⟨rfl, ?_⟩
    cases kept : error.cell.rendered with
    | some texts => rw [read_of_kept kept, filled_of_kept kept, found]
    | none =>
      rw [read_of_empty kept]
      exact setDiagnostic_same found
  · refine .inr ⟨same, ?_⟩
    cases kept : other.cell.rendered with
    | some texts => rwa [read_of_kept kept]
    | none =>
      rw [read_of_empty kept]
      exact setDiagnostic_other same found

/-- What texts are made from is left alone by a read. -/
theorem read_render (other error : Diagnostic) :
    (session.read reader other).2.render error = session.render error := by
  cases kept : other.cell.rendered with
  | some texts => rw [read_of_kept kept]
  | none =>
    rw [read_of_empty kept]
    rfl

theorem textOf_readIf (found : session.diagnostics[id]? = some error) (held : Held) :
    session.ReadIf (session.textOf held).2 id error (held = .diagnostic id) := by
  cases held with
  | plain plain => exact readIf_never found nofun
  | diagnostic reader =>
    simp only [textOf, Held.diagnostic.injEq]
    cases present : session.diagnostics[reader]? with
    | none =>
      refine readIf_never found fun same => ?_
      subst same
      simp [found] at present
    | some other => exact read_readIf found present

theorem causeOf_readIf (found : session.diagnostics[id]? = some error) (other : Diagnostic) :
    session.ReadIf (session.causeOf other).2 id error (other.cause? = some (.diagnostic id)) := by
  unfold causeOf
  cases other.cause? with
  | none => exact readIf_never found nofun
  | some held => exact (textOf_readIf found held).congr (by simp)

theorem report_readIf (found : session.diagnostics[id]? = some error)
    (present : session.diagnostics[reader]? = some other) :
    session.ReadIf (session.report reader other).2 id error
      (∃ code, session.code other = .ok code ∧
        (reader = id ∨ (∃ report, session.texts other >>=
            other.reported session.host.limits session.host.colors code = .ok report) ∧
          other.cause? = some (.diagnostic id))) := by
  unfold report
  cases session.code other with
  | error fault => exact readIf_never found (by simp)
  | ok code =>
    have read := read_readIf found present
    dsimp only
    rw [read_fst]
    cases put : session.texts other >>=
        other.reported session.host.limits session.host.colors code with
    | error fault => exact read.congr (by simp [put])
    | ok report =>
      have both := read.trans (read_render other error) fun _ later => causeOf_readIf later other
      exact both.congr (by simp [put])

theorem get_readIf (found : session.diagnostics[id]? = some error)
    (present : session.diagnostics[reader]? = some other) (field : Field) :
    session.ReadIf (session.get reader other field).2 id error
      ((field.isText ∧ reader = id) ∨ (field = .cause ∧ other.cause? = some (.diagnostic id))) := by
  cases field with
  | message | text | description | editorMessage =>
    exact (read_readIf found present).congr (by simp [Field.isText])
  | cause =>
    exact (causeOf_readIf found other).congr (by simp [Field.isText])
  | name | source | line | column | endLine | endColumn | code | arguments | written | sequences |
      currentToken | chained => exact readIf_never found (by simp [Field.isText])

/-- What a step may do to the texts of an error that it finds at a position: a name given to the
error empties its cell, a read fills it if it was empty, and otherwise it stays as it is. -/
def TextsFollow (session after : Session) (id : Nat) (error : Diagnostic) (step : Step) : Prop :=
  ∃ later, after.diagnostics[id]? = some later ∧
    ((session.assigned? id step ≠ none ∧ later.cell.rendered = none) ∨
      (session.assigned? id step = none ∧ session.Fills id step ∧
        later.cell.rendered = (session.texts error).toOption) ∨
      (session.assigned? id step = none ∧ ¬ session.Fills id step ∧
        later.cell.rendered = error.cell.rendered))

variable {step : Step} {action : Action} {of : String}

theorem fills_act (slot : session.slot? of = some (.diagnostic reader))
    (present : session.diagnostics[reader]? = some other) :
    session.Fills id (.act of action) ↔ session.FillsFrom id reader other action := by
  constructor
  · rintro ⟨reader', other', slot', present', fills⟩
    cases Option.some.inj (slot.symm.trans slot')
    cases Option.some.inj (present.symm.trans present')
    exact fills
  · exact fun fills => ⟨reader, other, slot, present, fills⟩

theorem TextsFollow.of_readIf (unnamed : session.assigned? id step = none)
    (read : session.ReadIf after id error (session.Fills id step)) :
    session.TextsFollow after id error step := by
  rcases read with ⟨fills, found⟩ | ⟨leaves, found⟩
  · exact ⟨_, found, .inr (.inl ⟨unnamed, fills, rfl⟩)⟩
  · exact ⟨_, found, .inr (.inr ⟨unnamed, leaves, rfl⟩)⟩

theorem TextsFollow.of_same {later : Diagnostic} (unnamed : session.assigned? id step = none)
    (leaves : ¬ session.Fills id step) (found : after.diagnostics[id]? = some later)
    (same : later.cell.rendered = error.cell.rendered) :
    session.TextsFollow after id error step :=
  ⟨later, found, .inr (.inr ⟨unnamed, leaves, same⟩)⟩

theorem changeEvidence_diagnostics (other : Diagnostic) (missing : Fault)
    (change : Evidence → Except Fault Evidence) :
    (session.changeEvidence other missing change).2.diagnostics = session.diagnostics := by
  unfold changeEvidence
  split
  · rfl
  · split
    · rfl
    · split <;> rfl

theorem readDuring_texts (slot : session.slot? of = some (.diagnostic reader))
    (present : session.diagnostics[reader]? = some other)
    (found : session.diagnostics[id]? = some error) (name : Option String) :
    session.TextsFollow (session.readDuring reader other fun cell => cell.rename name).2 id error
      (.act of (.messageDuringRename name)) := by
  have fills : session.Fills id (.act of (.messageDuringRename name)) ↔
      reader = id ∧ name = other.cell.name := fills_act slot present
  by_cases same : reader = id
  · subst same
    cases Option.some.inj (present.symm.trans found)
    cases kept : error.cell.rendered with
    | some texts =>
      simp only [readDuring, kept]
      refine .of_readIf rfl ?_
      by_cases own : name = error.cell.name
      · exact .inl ⟨fills.mpr ⟨rfl, own⟩, by rw [filled_of_kept kept, found]⟩
      · exact .inr ⟨fun filled => own (fills.mp filled).2, found⟩
    | none =>
      rw [readDuring_rename kept]
      split
      · next own =>
        refine .of_readIf rfl (.inl ⟨fills.mpr ⟨rfl, own⟩, ?_⟩)
        exact setDiagnostic_same found
      · next own =>
        exact .of_same rfl (fun filled => own (fills.mp filled).2) (setDiagnostic_same found)
          kept.symm
  · have leaves : ¬ session.Fills id (.act of (.messageDuringRename name)) :=
      fun filled => same (fills.mp filled).1
    refine .of_readIf rfl (.inr ⟨leaves, ?_⟩)
    cases kept : other.cell.rendered with
    | some texts => simpa only [readDuring, kept] using found
    | none =>
      rw [readDuring_rename kept]
      exact setDiagnostic_other same found

theorem actOn_texts (slot : session.slot? of = some (.diagnostic reader))
    (present : session.diagnostics[reader]? = some other)
    (found : session.diagnostics[id]? = some error) (action : Action) :
    session.TextsFollow (session.actOn reader other action).2 id error (.act of action) := by
  have fills : session.Fills id (.act of action) ↔ session.FillsFrom id reader other action :=
    fills_act slot present
  cases action with
  | get field => exact .of_readIf rfl ((get_readIf found present field).congr fills.symm)
  | report => exact .of_readIf rfl ((report_readIf found present).congr fills.symm)
  | messageDuringRename name => exact readDuring_texts slot present found name
  | rename name =>
    by_cases same : reader = id
    · subst same
      exact ⟨_, setDiagnostic_same found, .inl ⟨by simp [assigned?, slot], rfl⟩⟩
    · exact .of_same (by simp [assigned?, slot, same]) fills.mp (setDiagnostic_other same found) rfl
  | setSource source =>
    by_cases same : reader = id
    · subst same
      cases Option.some.inj (present.symm.trans found)
      exact .of_same rfl fills.mp (setDiagnostic_same found) rfl
    · exact .of_same rfl fills.mp (setDiagnostic_other same found) rfl
  | overview | extendReported => exact .of_same rfl fills.mp found rfl
  | editToken | link | setName | alterCause =>
    exact .of_same rfl fills.mp ((changeEvidence_diagnostics other _ _).symm ▸ found) rfl

/-- A name that stands for no located error does nothing to any. -/
theorem unlocated_texts (unlocated : ∀ reader, session.slot? of ≠ some (.diagnostic reader))
    (found : session.diagnostics[id]? = some error) (action : Action) :
    session.TextsFollow session id error (.act of action) := by
  refine .of_same ?_ ?_ found rfl
  · cases action with
    | rename name => exact if_neg (unlocated id)
    | get | overview | report | messageDuringRename | setSource | editToken | link | setName |
        alterCause | extendReported => rfl
  · rintro ⟨reader, other, slot, -, -⟩
    exact unlocated reader slot

theorem act_texts (found : session.diagnostics[id]? = some error) (of : String) (action : Action) :
    session.TextsFollow (session.act of action).2 id error (.act of action) := by
  unfold act
  split
  · next slot => exact unlocated_texts (by simp [slot]) found action
  · next plain slot => exact unlocated_texts (by simp [slot]) found action
  · next reader slot =>
    split
    · next absent =>
      refine .of_same ?_ ?_ found rfl
      · cases action with
        | rename name =>
          refine if_neg fun same => ?_
          cases Option.some.inj (slot.symm.trans same)
          simp [found] at absent
        | get | overview | report | messageDuringRename | setSource | editToken | link | setName |
            alterCause | extendReported => rfl
      · rintro ⟨reader', other, slot', present, -⟩
        cases Option.some.inj (slot.symm.trans slot')
        simp [present] at absent
    · next other present => exact actOn_texts slot present found action

/-- No name is given in a step that makes texts. -/
theorem not_fills_of_assigned (named : session.assigned? id step ≠ none) :
    ¬ session.Fills id step := by
  cases step with
  | act of action =>
    cases action with
    | rename name =>
      rintro ⟨reader, other, -, -, never⟩
      exact never
    | get | overview | report | messageDuringRename | setSource | editToken | link | setName |
        alterCause | extendReported => exact absurd rfl named
  | setFlag | load | unload | askTooling | forgetTooling | setColors | construct | clone =>
    exact absurd rfl named

end Session

end ParseFailure
