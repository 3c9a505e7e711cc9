import ParseFailure.Proofs.Session.Added
import ParseFailure.Proofs.Session.Filling

/-!
The life of kept texts. An error keeps none when it is made and a clone starts with what its
original keeps; from then on each step either reads the error, or gives it a name, or leaves its
texts alone, so that between two names all reads give the same texts.
-/

namespace ParseFailure

/-- Steps that make or clone an error, or look at one without putting anything into words. -/
def Step.isStructural : Step → Bool
  | .construct _ _ | .clone _ _ _ | .act _ .overview => true
  | .act _ (.get field) => !field.isText && field != .cause
  | _ => false

namespace Session

variable {session : Session} {step : Step} {id reader : Nat} {error other : Diagnostic}
  {texts : Rendered}

theorem step_texts (found : session.diagnostics[id]? = some error) (step : Step) :
    session.TextsFollow (session.step step).2 id error step := by
  cases step with
  | setFlag value =>
    refine .of_same rfl (by rintro ⟨⟩) ?_ rfl
    simp only [Session.step, perform]
    split <;> exact found
  | load | unload | askTooling | forgetTooling | setColors =>
    exact .of_same rfl (by rintro ⟨⟩) found rfl
  | construct slot construction =>
    exact .of_same rfl (by rintro ⟨⟩)
      ((construct_step_adds session slot construction).found found) rfl
  | clone depth of slot =>
    exact .of_same rfl (by rintro ⟨⟩) ((clone_step_adds session depth of slot).found found) rfl
  | act of action => exact act_texts found of action

theorem structural_found (found : session.diagnostics[id]? = some error) {step : Step}
    (structural : step.isStructural = true) :
    (session.step step).2.diagnostics[id]? = some error := by
  cases step with
  | construct slot construction => exact (construct_step_adds session slot construction).found found
  | clone depth of slot => exact (clone_step_adds session depth of slot).found found
  | setFlag | load | unload | askTooling | forgetTooling | setColors => contradiction
  | act of action =>
    cases action with
    | get field =>
      simp only [Session.step, perform, act]
      split
      · exact found
      · exact found
      · split
        · exact found
        · cases field with
          | message | text | description | editorMessage | cause => contradiction
          | name | source | line | column | endLine | endColumn | code | arguments | written |
              sequences | currentToken | chained => exact found
    | overview =>
      simp only [Session.step, perform, act]
      split
      · exact found
      · exact found
      · split <;> exact found
    | report | messageDuringRename | rename | setSource | editToken | link | setName |
        alterCause | extendReported => contradiction

/-- No step gives the error at a position a name. -/
def Unnamed (session : Session) (id : Nat) : List Step → Prop
  | [] => True
  | first :: rest => session.assigned? id first = none ∧ (session.step first).2.Unnamed id rest

theorem step_kept (found : session.diagnostics[id]? = some error)
    (kept : error.cell.rendered = some texts) (unnamed : session.assigned? id step = none) :
    ∃ later, (session.step step).2.diagnostics[id]? = some later ∧
      later.cell.rendered = some texts := by
  obtain ⟨later, present, ⟨named, -⟩ | ⟨-, -, same⟩ | ⟨-, -, same⟩⟩ := step_texts found step
  · exact absurd unnamed named
  · exact ⟨later, present, by rw [same, texts_of_kept kept, Except.toOption]⟩
  · exact ⟨later, present, same.trans kept⟩

theorem after_kept (found : session.diagnostics[id]? = some error)
    (kept : error.cell.rendered = some texts) {steps : List Step}
    (unnamed : session.Unnamed id steps) :
    ∃ later, (session.after steps).diagnostics[id]? = some later ∧
      later.cell.rendered = some texts := by
  induction steps generalizing session error with
  | nil => exact ⟨error, found, kept⟩
  | cons first rest ih =>
    obtain ⟨middle, present, same⟩ := step_kept found kept unnamed.1
    exact ih present same unnamed.2

/-- Whatever is read from the error at a position, in whichever way, is read from these texts, or
meets this fault. -/
structure ReadsAs (session : Session) (id : Nat) (outcome : Except Fault Rendered) : Prop where
  message : ∀ of, session.slot? of = some (.diagnostic id) → ∀ field ∈ [Field.message, .text],
    (session.step (.act of (.get field))).1.result =
      outcome.map fun texts => .text texts.message
  description : ∀ of, session.slot? of = some (.diagnostic id) →
    ∀ field ∈ [Field.description, .editorMessage],
      (session.step (.act of (.get field))).1.result =
        outcome.map fun texts => .text texts.description
  duringRename : ∀ of, session.slot? of = some (.diagnostic id) → ∀ name,
    (session.step (.act of (.messageDuringRename name))).1.result =
      outcome.map fun texts => .text texts.message
  report : ∀ of, session.slot? of = some (.diagnostic id) → ∀ text,
    (session.step (.act of .report)).1.result = .ok (.text text) →
      ∃ (texts : Rendered) (report : Report), outcome = .ok texts ∧
        report.description = texts.description ∧ text = report.text session.host.colors
  cause : ∀ of reader other, session.slot? of = some (.diagnostic reader) →
    session.diagnostics[reader]? = some other → other.cause? = some (.diagnostic id) →
      (session.step (.act of (.get .cause))).1.result =
        outcome.map fun texts => .cause Diagnostic.typeName texts.message
  reportedCause : ∀ of reader other, session.slot? of = some (.diagnostic reader) →
    session.diagnostics[reader]? = some other → other.cause? = some (.diagnostic id) →
      ∀ text, (session.step (.act of .report)).1.result = .ok (.text text) →
        ∃ (texts : Rendered) (report : Report), outcome = .ok texts ∧
          report.cause = some (Diagnostic.typeName, texts.message) ∧
            text = report.text session.host.colors

theorem causeOf_found (found : session.diagnostics[id]? = some error)
    (caused : other.cause? = some (.diagnostic id)) :
    session.causeOf other =
      ((session.texts error).map fun texts => some (Diagnostic.typeName, texts.message),
        (session.read id error).2) := by
  simp only [causeOf, caused, textOf, found, read_fst]
  cases session.texts error <;> rfl

theorem read_read (found : session.diagnostics[id]? = some error)
    (present : session.diagnostics[reader]? = some other) :
    ∃ later, (session.read reader other).2.diagnostics[id]? = some later ∧
      (session.read reader other).2.texts later = session.texts error := by
  rcases read_readIf found present with ⟨-, read⟩ | ⟨-, still⟩
  · exact ⟨_, read, texts_filled (read_render other error)⟩
  · exact ⟨_, still, texts_congr (read_render other error)⟩

theorem act_located (slot : session.slot? of = some (.diagnostic reader))
    (present : session.diagnostics[reader]? = some other) (action : Action) :
    session.perform (.act of action) = session.actOn reader other action := by
  simp only [perform, act, slot, present]

/-- What a report that has come about is made of. -/
theorem report_ok {text : String} (told : (session.report reader other).1 = .ok text) :
    ∃ (texts : Rendered) (report : Report), session.texts other = .ok texts ∧
      report.description = texts.description ∧
        ((session.read reader other).2.causeOf other).1 = .ok report.cause ∧
          text = report.text session.host.colors := by
  unfold Session.report at told
  cases coded : session.code other with
  | error fault => simp [coded] at told
  | ok code =>
    simp only [coded, read_fst] at told
    cases put : session.texts other >>=
        other.reported session.host.limits session.host.colors code with
    | error fault => simp [put] at told
    | ok report =>
      obtain ⟨texts, read, reported⟩ := bind_ok put
      obtain ⟨place, -, reported⟩ := bind_ok reported
      obtain ⟨excerpt, -, reported⟩ := bind_ok reported
      cases Except.ok.inj reported
      simp only [put] at told
      cases caused : ((session.read reader other).2.causeOf other).1 with
      | error fault => simp [caused, Except.map] at told
      | ok cause =>
        simp only [caused, Except.map, Except.ok.injEq] at told
        exact ⟨texts, _, read, rfl, rfl, told.symm⟩

theorem map_text {made : Except Fault String} {text : String}
    (told : made.map Reply.text = .ok (.text text)) : made = .ok text := by
  cases made with
  | error fault => contradiction
  | ok own => exact congrArg _ (Reply.text.inj (Except.ok.inj told))

theorem readsAs_read (found : session.diagnostics[id]? = some error) :
    session.ReadsAs id (session.texts error) where
  message of slot field about := by
    simp only [List.mem_cons, List.not_mem_nil, or_false] at about
    rcases about with rfl | rfl <;> simp only [step, act_located slot found, actOn, get, read_fst]
  description of slot field about := by
    simp only [List.mem_cons, List.not_mem_nil, or_false] at about
    rcases about with rfl | rfl <;> simp only [step, act_located slot found, actOn, get, read_fst]
  duringRename of slot name := by
    simp only [step, act_located slot found, actOn, readDuring_fst]
  report of slot text told := by
    simp only [step, act_located slot found, actOn] at told
    obtain ⟨texts, report, read, described, -, same⟩ := report_ok (map_text told)
    exact ⟨texts, report, read, described, same⟩
  cause of reader other slot present caused := by
    simp only [step, act_located slot present, actOn, get, causeOf_found found caused]
    cases session.texts error <;> rfl
  reportedCause of reader other slot present caused text told := by
    simp only [step, act_located slot present, actOn] at told
    obtain ⟨-, report, -, -, cause, same⟩ := report_ok (map_text told)
    -- The error that is reported is read first; that leaves the texts of its cause as they are.
    obtain ⟨later, foundLater, read⟩ := read_read found present
    rw [causeOf_found foundLater caused, read] at cause
    cases made : session.texts error with
    | error fault => simp [made, Except.map] at cause
    | ok texts =>
      simp only [made, Except.map, Except.ok.injEq] at cause
      exact ⟨texts, report, rfl, cause.symm, same⟩

theorem readsAs_of_kept (found : session.diagnostics[id]? = some error)
    (kept : error.cell.rendered = some texts) : session.ReadsAs id (.ok texts) := by
  have reads := readsAs_read found
  rwa [texts_of_kept kept] at reads

end Session

end ParseFailure
