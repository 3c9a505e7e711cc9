import ParseFailure.Proofs.Session.Resembling
import ParseFailure.Proofs.Session.Saving
import ParseFailure.Proofs.Session.Settling

/-!
Sessions that agree about one error. With the mode decided, what can be told of an error depends on
its record, on its evidence, on what its cause would be told by, and on whether it can be saved;
texts that are kept for the cause in one session and not in the other make no difference. So a step
that spares these can be left out, and what is asked of the error later is answered all the same.
-/

namespace ParseFailure

/-- An answer as far as it is about the error that a step is for. Where a clone cannot be made, its
name holds nothing, or some other error, and what is kept of that is left out. -/
def Answer.about (answer : Answer) : Step → Answer
  | .clone _ _ _ =>
    match answer.result with
    | .ok _ => answer
    | .error fault => ⟨.error fault, none⟩
  | _ => answer

/-- Whether a step is about the process or about what a name holds. -/
def Step.isFor (name : String) : Step → Bool
  | .construct _ _ => false
  | .clone _ of _ => of == name
  | .act of _ => of == name
  | _ => true

namespace Session

variable {session before after full own : Session} {id c reader : Nat}
  {error other x changed : Diagnostic} {mode : Bool} {name of slot : String} {reads : Prop}

/-- The answers to some of the steps, all of which are carried out. -/
def heard (session : Session) (mine : Step → Bool) : List Step → List Answer
  | [] => []
  | first :: rest =>
    let answered := session.step first
    let others := answered.2.heard mine rest
    if mine first then answered.1.about first :: others else others

/-- The message of the error at a position. -/
def told (session : Session) (c : Nat) : Except Fault String :=
  match session.diagnostics[c]? with
  | some error => (session.texts error).map Rendered.message
  | none => .ok ""

theorem told_found (found : session.diagnostics[c]? = some x) :
    session.told c = (session.texts x).map Rendered.message := by
  rw [told, found]

theorem textOf_located (session : Session) (c : Nat) :
    (session.textOf (.diagnostic c)).1 =
      (session.told c).map fun text => (Diagnostic.typeName, text) := by
  simp only [textOf, told]
  cases session.diagnostics[c]? with
  | none => rfl
  | some error =>
    simp only [read_fst]
    cases session.texts error <;> rfl

/-- A plain cause is the evidence of the error that it belongs to. -/
theorem plainText_of_evidence {e : Nat} (same : after.evidenceOf? error = before.evidenceOf? error)
    (caused : error.cause? = some (.plain e)) : after.plainText e = before.plainText e := by
  have refers : error.evidence? = some e := Origin.evidence_of_plain caused
  simp only [evidenceOf?, refers, Option.bind_some] at same
  simp only [plainText, plain?, same]

theorem causeOf_congr (same : changed.cause? = error.cause?)
    (shown : after.evidenceOf? error = before.evidenceOf? error)
    (told : ∀ c, error.cause? = some (.diagnostic c) → after.told c = before.told c) :
    (after.causeOf changed).1 = (before.causeOf error).1 := by
  simp only [causeOf, same]
  cases cause : error.cause? with
  | none => rfl
  | some held =>
    cases held with
    | plain e => simp only [textOf, plainText_of_evidence shown cause]
    | diagnostic c => simp only [textOf_located, told c cause]

theorem causeOf_same (errors : after.diagnostics = before.diagnostics)
    (evidence : after.evidence = before.evidence)
    (render : ∀ error, after.render error = before.render error) :
    (after.causeOf error).1 = (before.causeOf error).1 := by
  refine causeOf_congr rfl (by rw [evidenceOf?, evidenceOf?, evidence]) ?_
  intro c _
  simp only [told, errors, texts, render]

/-- An error that is described by the same evidence is described alike. -/
theorem describe_of_evidence (limits : after.host.limits = before.host.limits)
    (same : after.evidenceOf? error = before.evidenceOf? error) :
    after.describe error = before.describe error := by
  cases origin : error.origin with
  | described text cause => cases text <;> simp only [describe, origin]
  | grammar sequences e =>
    simp only [evidenceOf?, Diagnostic.evidence?, origin, Origin.evidence?,
      Option.bind_some] at same
    simp only [describe, origin, same, limits]

theorem render_of_evidence (mode : after.host.tooling = before.host.tooling)
    (limits : after.host.limits = before.host.limits)
    (same : after.evidenceOf? error = before.evidenceOf? error) :
    after.render error = before.render error := by
  simp only [render, mode, limits, describe_of_evidence limits same]

/-- A read does not change what is told at a position. -/
theorem told_of_readIf (found : before.diagnostics[c]? = some x)
    (read : before.ReadIf after c x reads) (same : after.render x = before.render x) :
    after.told c = before.told c := by
  rw [told_found found]
  rcases read with ⟨-, later⟩ | ⟨-, later⟩
  · rw [told_found later, texts_filled same]
  · rw [told_found later, texts_congr same]

/-- What is told of the error at a position is the same after as before. -/
structure Spares (id : Nat) (error : Diagnostic) (before after : Session) : Prop where
  host : after.host = before.host
  found : after.diagnostics[id]? = some error
  evidence : after.evidenceOf? error = before.evidenceOf? error
  caused : (after.causeOf error).1 = (before.causeOf error).1
  saved : ∀ level, after.save level id = before.save level id

theorem Spares.hold (spares : Spares id error before after) (slot : String) (held : Held) :
    Spares id error before (after.hold slot held) := by
  have same : ((after.hold slot held).causeOf error).1 = (after.causeOf error).1 :=
    causeOf_same rfl rfl fun _ => rfl
  exact ⟨spares.host, spares.found, spares.evidence, same.trans spares.caused,
    fun level => (@save_of_same after (after.hold slot held) rfl rfl rfl level id).trans
      (spares.saved level)⟩

/-- Errors that are added spare those that are there. -/
theorem Grows.spares (grows : session.Grows after) (grounded : session.Grounded)
    (found : session.diagnostics[id]? = some error) : Spares id error session after where
  host := grows.host
  found := grows.found found
  evidence := grounded.evidenceOf_grows found grows
  caused := by
    refine causeOf_congr rfl (grounded.evidenceOf_grows found grows) ?_
    intro c caused
    obtain ⟨x, present⟩ := grounded.cause_found found caused
    have same := grounded.evidenceOf_grows present grows
    rw [told_found present, told_found (grows.found present), texts_congr
      (render_of_evidence (congrArg Host.tooling grows.host)
        (congrArg Host.limits grows.host) same)]
  saved := grounded.save_grows grows found

/-- What an action must keep off to spare the error at one position when it is done at another: the
error itself, as the reader or as its cause; its cause, as the reader; and, if it edits evidence,
that of the error and of all its located causes. -/
structure Apart (edits : Prop) (session : Session) (id reader : Nat) (error other : Diagnostic) :
    Prop where
  here : session.diagnostics[id]? = some error
  there : session.diagnostics[reader]? = some other
  different : reader ≠ id
  unread : other.cause? ≠ some (.diagnostic id)
  uncaused : error.cause? ≠ some (.diagnostic reader)
  unshared : edits → ∀ e, other.evidence? = some e → ∀ below inner, session.Beneath id below →
    session.diagnostics[below]? = some inner → inner.evidence? ≠ some e

/-- An action leaves the evidence of an error as it is, unless it edits evidence that the error
shares. -/
theorem actOn_evidenceOf (there : session.diagnostics[reader]? = some other) {action : Action}
    {known : Diagnostic} (unshared : ∀ e, other.evidence? = some e →
      action.editsEvidence = true → known.evidence? ≠ some e) :
    (session.actOn reader other action).2.evidenceOf? known = session.evidenceOf? known := by
  apply evidenceOf_congr
  intro e refers
  apply (actOn_keeps there action).evidence e
  rintro ⟨edits, shared⟩
  exact unshared e shared edits refers

theorem Apart.spares {action : Action} (grounded : session.Grounded)
    (apart : Apart (action.editsEvidence = true) session id reader error other)
    (decided : session.host.decided = some mode) :
    Spares id error session (session.actOn reader other action).2 := by
  have same : (session.actOn reader other action).2.host = session.host := by
    rcases actOn_settles apart.there action with ⟨-, settled⟩ | ⟨-, kept⟩
    · rw [settled, settle_of_decided decided]
    · exact kept
  have own : (session.actOn reader other action).2.evidenceOf? error = session.evidenceOf? error :=
    actOn_evidenceOf apart.there fun e shared edits =>
      apart.unshared edits e shared id error .own apart.here
  refine ⟨same, ?_, own, ?_, ?_⟩
  · have leaves : ¬ session.FillsFrom id reader other action := by
      have elsewhere := apart.different
      have unread := apart.unread
      cases action <;> simp [FillsFrom, elsewhere, unread]
    rcases actOn_elsewhere apart.here apart.there apart.different action with
      ⟨fills, -⟩ | ⟨-, still⟩
    · exact absurd fills leaves
    · exact still
  · refine causeOf_congr rfl own ?_
    intro c caused
    obtain ⟨x, present⟩ := grounded.cause_found apart.here caused
    have elsewhere : reader ≠ c := fun reads => apart.uncaused (reads ▸ caused)
    refine told_of_readIf present (actOn_elsewhere present apart.there elsewhere action) ?_
    refine render_of_evidence (congrArg Host.tooling same) (congrArg Host.limits same)
      (actOn_evidenceOf apart.there ?_)
    intro e shared edits
    exact apart.unshared edits e shared c x (.caused apart.here caused .own) present
  · refine grounded.save_keeps (actOn_keeps apart.there action) (congrArg Host.limits same)
      apart.here ?_
    rintro below inner e beneath found refers ⟨edits, shared⟩
    exact apart.unshared edits e shared below inner beneath found refers

/-- Two sessions that agree about the error that a name holds, with the mode decided in both. -/
structure Agree (mode : Bool) (name : String) (id : Nat) (error : Diagnostic)
    (full own : Session) : Prop where
  grounded : full.Grounded
  grounded' : own.Grounded
  slot : full.slot? name = some (.diagnostic id)
  slot' : own.slot? name = some (.diagnostic id)
  host : full.host = own.host
  decided : full.host.decided = some mode
  here : full.diagnostics[id]? = some error
  there : own.diagnostics[id]? = some error
  evidence : full.evidenceOf? error = own.evidenceOf? error
  caused : (full.causeOf error).1 = (own.causeOf error).1
  saved : ∀ level, full.save level id = own.save level id

theorem causeOf_of_cause (same : changed.cause? = error.cause?) :
    session.causeOf changed = session.causeOf error := by
  simp only [causeOf, same]

/-- Putting a cause into words spares the error that it belongs to. -/
theorem causeOf_spares (grounded : session.Grounded) (decided : session.host.decided = some mode)
    (found : session.diagnostics[id]? = some error) :
    Spares id error session (session.causeOf error).2 := by
  have keeps : Keeps (fun _ => False) session (session.causeOf error).2 := causeOf_keeps error
  have host : (session.causeOf error).2.host = session.host := by
    rcases causeOf_settles error with ⟨-, settled⟩ | ⟨-, kept⟩
    · rw [settled, settle_of_decided decided]
    · exact kept
  refine ⟨host, ?_, ?_, ?_, ?_⟩
  · rcases causeOf_readIf found error with ⟨caused, -⟩ | ⟨-, still⟩
    · exact absurd (grounded.causes id error id found caused) (Nat.lt_irrefl id)
    · exact still
  · exact evidenceOf_congr fun e _ => keeps.evidence e fun never => never
  · cases cause : error.cause? with
    | none => simp only [causeOf, cause]
    | some held =>
      cases held with
      | plain plain => simp only [causeOf, cause, textOf]
      | diagnostic c =>
        obtain ⟨x, present⟩ := grounded.cause_found found cause
        rw [causeOf_found present cause]
        exact (read_causeOf present error).trans
          (congrArg Prod.fst (causeOf_found present cause))
  · exact grounded.save_keeps keeps (congrArg Host.limits host) found
      fun _ _ _ _ _ _ never => never

namespace Agree

variable (agree : Agree mode name id error full own)
include agree

theorem resembles : Resembles full own id id error error where
  here := agree.here
  there := agree.there
  host := agree.host
  arguments := rfl
  chained := rfl
  sequences := rfl
  span := rfl
  cell := rfl
  source := rfl
  evidence := agree.evidence
  described := describe_of_evidence (congrArg Host.limits agree.host) agree.evidence
  caused := agree.caused

theorem kept : full.kept? name = own.kept? name := by
  simp only [kept?, agree.slot, agree.slot', agree.here, agree.there]

theorem spared {full' own' : Session} (spares : Spares id error full full')
    (spares' : Spares id error own own') (grounded : full'.Grounded) (grounded' : own'.Grounded)
    (slot : full'.slot? name = full.slot? name) (slot' : own'.slot? name = own.slot? name) :
    Agree mode name id error full' own' where
  grounded := grounded
  grounded' := grounded'
  slot := slot.trans agree.slot
  slot' := slot'.trans agree.slot'
  host := by rw [spares.host, spares'.host, agree.host]
  decided := by rw [spares.host, agree.decided]
  here := spares.found
  there := spares'.found
  evidence := by rw [spares.evidence, spares'.evidence, agree.evidence]
  caused := by rw [spares.caused, spares'.caused, agree.caused]
  saved level := by rw [spares.saved, spares'.saved, agree.saved]

/-- What surrounds the process may change while the mode stays decided. -/
theorem setHost {host : Host} (decided : host.decided = some mode)
    (limits : host.limits = full.host.limits) :
    Agree mode name id error (full.setHost host) (own.setHost host) := by
  have same : ∀ session : Session, session.host.decided = some mode →
      host.limits = session.host.limits →
        ((session.setHost host).causeOf error).1 = (session.causeOf error).1 := by
    intro session known limits
    have tooling : host.tooling = session.host.tooling := by
      rw [Host.tooling_of_decided decided, Host.tooling_of_decided known]
    exact causeOf_same rfl rfl fun error => render_of_evidence tooling limits rfl
  have known := agree.decided
  refine ⟨agree.grounded.setHost host, agree.grounded'.setHost host, agree.slot, agree.slot', rfl,
    decided, agree.here, agree.there, agree.evidence, ?_, ?_⟩
  · rw [same full known limits, same own (agree.host ▸ known) (agree.host ▸ limits), agree.caused]
  · intro level
    have saves : ∀ session : Session, host.limits = session.host.limits →
        (session.setHost host).save level id = session.save level id :=
      fun session limits => @save_of_same session (session.setHost host) limits rfl rfl level id
    rw [saves full limits, saves own (agree.host ▸ limits), agree.saved]

/-- The error may be replaced in both sessions by one that was made like it. -/
theorem setDiagnostic (fixed : changed.fixed = error.fixed) :
    Agree mode name id changed (full.setDiagnostic id changed) (own.setDiagnostic id changed) := by
  have origin := (Diagnostic.fixed_eq_iff.mp fixed).1
  have sameEvidence := Diagnostic.evidence?_congr origin
  have sameCause := Diagnostic.cause?_congr origin
  have same : ∀ session : Session, session.Grounded → session.diagnostics[id]? = some error →
      ((session.setDiagnostic id changed).causeOf changed).1 = (session.causeOf error).1 := by
    intro session grounded found
    refine causeOf_congr sameCause rfl ?_
    intro c caused
    have elsewhere : id ≠ c := Nat.ne_of_gt (grounded.causes id error c found caused)
    obtain ⟨x, present⟩ := grounded.cause_found found caused
    rw [told_found present, told_found (setDiagnostic_other elsewhere present)]
    rfl
  have keeps : Keeps (fun _ => False) full (full.setDiagnostic id changed) :=
    setDiagnostic_keeps agree.here fixed
  have keeps' : Keeps (fun _ => False) own (own.setDiagnostic id changed) :=
    setDiagnostic_keeps agree.there fixed
  refine ⟨agree.grounded.keeps keeps, agree.grounded'.keeps keeps', agree.slot, agree.slot',
    agree.host, agree.decided, setDiagnostic_same agree.here, setDiagnostic_same agree.there, ?_,
    ?_, ?_⟩
  · have evidence := agree.evidence
    simp only [evidenceOf?] at evidence ⊢
    rwa [sameEvidence]
  · rw [same full agree.grounded agree.here, same own agree.grounded' agree.there, agree.caused]
  · intro level
    rw [agree.grounded.save_keeps keeps rfl agree.here fun _ _ _ _ _ _ never => never,
      agree.grounded'.save_keeps keeps' rfl agree.there fun _ _ _ _ _ _ never => never, agree.saved]

theorem readDuring (meanwhile : Cell → Cell) :
    ∃ later : Diagnostic, later.cause? = error.cause? ∧
      Agree mode name id later (full.readDuring id error meanwhile).2
        (own.readDuring id error meanwhile).2 := by
  unfold Session.readDuring
  cases error.cell.rendered with
  | some texts => exact ⟨error, rfl, agree⟩
  | none =>
    have decided := agree.decided
    have same : full.render error = own.render error := agree.resembles.render
    rw [settle_of_decided decided, settle_of_decided (agree.host ▸ decided), same]
    let later : Diagnostic :=
      { error with cell := (meanwhile error.cell).keep error.cell.name (own.render error) }
    have kept : Agree mode name id later (full.setDiagnostic id later)
        (own.setDiagnostic id later) := agree.setDiagnostic rfl
    exact ⟨later, rfl, kept⟩

theorem causeOf : Agree mode name id error (full.causeOf error).2 (own.causeOf error).2 := by
  have keeps : Keeps (fun _ => False) full (full.causeOf error).2 := causeOf_keeps error
  have keeps' : Keeps (fun _ => False) own (own.causeOf error).2 := causeOf_keeps error
  refine agree.spared (causeOf_spares agree.grounded agree.decided agree.here)
    (causeOf_spares agree.grounded' (agree.host ▸ agree.decided) agree.there)
    (agree.grounded.keeps keeps) (agree.grounded'.keeps keeps') ?_ ?_
  · simp only [slot?, keeps.slots]
  · simp only [slot?, keeps'.slots]

theorem changeEvidence (missing : Fault) (change : Evidence → Except Fault Evidence) :
    Agree mode name id error (full.changeEvidence error missing change).2
      (own.changeEvidence error missing change).2 := by
  have evidence := agree.evidence
  unfold Session.changeEvidence
  cases refers : error.evidence? with
  | none => exact agree
  | some e =>
    simp only [evidenceOf?, refers, Option.bind_some] at evidence
    dsimp only
    rw [evidence]
    cases stored : own.evidence[e]? with
    | none => exact agree
    | some known =>
      dsimp only
      cases change known with
      | error fault => exact agree
      | ok changed =>
        have shown : (full.setEvidence e changed).evidenceOf? error =
            (own.setEvidence e changed).evidenceOf? error := by
          have inside := (List.getElem?_eq_some_iff.mp (evidence.trans stored)).1
          have inside' := (List.getElem?_eq_some_iff.mp stored).1
          simp only [evidenceOf?, refers, Option.bind_some, Session.setEvidence,
            List.getElem?_set_self inside, List.getElem?_set_self inside']
        have unlocated : ∀ c, error.cause? ≠ some (.diagnostic c) := by
          intro c caused
          cases (Origin.evidence_of_located caused).symm.trans refers
        refine ⟨agree.grounded.keeps (setEvidence_keeps full e changed),
          agree.grounded'.keeps (setEvidence_keeps own e changed), agree.slot, agree.slot',
          agree.host, agree.decided, agree.here, agree.there, shown,
          causeOf_congr rfl shown fun c caused => absurd caused (unlocated c), ?_⟩
        -- The error has no located cause, so it is saved with that evidence and nothing else.
        exact save_of_evidence agree.there agree.here unlocated (agree.host ▸ rfl) shown

theorem report : ∃ later, Agree mode name id later (full.report id error).2
    (own.report id error).2 := by
  obtain ⟨later, sameCause, read⟩ := agree.readDuring fun cell => cell
  have sameCode := agree.resembles.code
  unfold Session.report
  rw [sameCode, agree.host]
  cases own.code error with
  | error fault => exact ⟨error, agree⟩
  | ok code =>
    simp only [read_fst, agree.resembles.texts]
    cases own.texts error >>= error.reported own.host.limits own.host.colors code with
    | error fault => exact ⟨later, read⟩
    | ok report =>
      have both := read.causeOf
      rw [causeOf_of_cause sameCause, causeOf_of_cause sameCause] at both
      exact ⟨later, both⟩

theorem get (field : Field) : ∃ later, Agree mode name id later (full.get id error field).2
    (own.get id error field).2 := by
  cases field with
  | message | text | description | editorMessage =>
    obtain ⟨later, -, read⟩ := agree.readDuring fun cell => cell
    exact ⟨later, read⟩
  | cause =>
    have both := agree.causeOf
    exact ⟨error, both⟩
  | name | source | line | column | endLine | endColumn | code | arguments | written | sequences |
      currentToken | chained => exact ⟨error, agree⟩

theorem actOn (action : Action) : ∃ later, Agree mode name id later
    (full.actOn id error action).2 (own.actOn id error action).2 := by
  cases action with
  | get field => exact agree.get field
  | overview | extendReported => exact ⟨error, agree⟩
  | report => exact agree.report
  | messageDuringRename name =>
    obtain ⟨later, -, read⟩ := agree.readDuring fun cell => cell.rename name
    exact ⟨later, read⟩
  | rename | setSource => exact ⟨_, agree.setDiagnostic rfl⟩
  | editToken | link | setName | alterCause => exact ⟨error, agree.changeEvidence _ _⟩

end Agree

end Session

end ParseFailure
