import ParseFailure.Proofs.Session.Persists

/-!
Sessions that remember no texts. Every read makes the texts of an error from its present name, in
the mode in force; nothing is kept and nothing is looked up. A session that keeps texts gives the
same answers, as long as the evidence is left alone and the mode is forgotten only while no error
keeps texts.
-/

namespace ParseFailure

namespace Session

/-- Makes the texts of an error. The mode is asked for, so it is settled. -/
def readAnew (session : Session) (error : Diagnostic) : Except Fault Rendered × Session :=
  (session.render error, session.setHost session.host.settle)

def textOfAnew (session : Session) : Held → Except Fault (String × String) × Session
  | .plain id => (session.plainText id, session)
  | .diagnostic id =>
    match session.diagnostics[id]? with
    | some error =>
      let result := session.readAnew error
      (result.1.map fun rendered => (Diagnostic.typeName, rendered.message), result.2)
    | none => (.ok (Diagnostic.typeName, ""), session)

def causeOfAnew (session : Session) (error : Diagnostic) :
    Except Fault (Option (String × String)) × Session :=
  match error.cause? with
  | none => (.ok none, session)
  | some held =>
    let result := session.textOfAnew held
    (result.1.map some, result.2)

def reportAnew (session : Session) (error : Diagnostic) : Except Fault String × Session :=
  match session.code error with
  | .error fault => (.error fault, session)
  | .ok code =>
    let result := session.readAnew error
    match result.1 >>= error.reported session.host.limits session.host.colors code with
    | .error fault => (.error fault, result.2)
    | .ok report =>
      let cause := result.2.causeOfAnew error
      (cause.1.map fun shown => { report with cause := shown }.text session.host.colors, cause.2)

/-- Reads a field. Fields that hold no texts are read as ever. -/
def getAnew (session : Session) (id : Nat) (error : Diagnostic) :
    Field → Except Fault Reply × Session
  | .message | .text =>
    let result := session.readAnew error
    (result.1.map fun rendered => .text rendered.message, result.2)
  | .description | .editorMessage =>
    let result := session.readAnew error
    (result.1.map fun rendered => .text rendered.description, result.2)
  | .cause =>
    let result := session.causeOfAnew error
    (result.1.map Reply.ofCause?, result.2)
  | field => session.get id error field

/-- Carries out an action. A name given in the middle of a read comes too late for the message. -/
def actOnAnew (session : Session) (id : Nat) (error : Diagnostic) :
    Action → Except Fault Reply × Session
  | .get field => session.getAnew id error field
  | .report =>
    let result := session.reportAnew error
    (result.1.map Reply.text, result.2)
  | .messageDuringRename name =>
    let result := session.readAnew error
    (result.1.map fun rendered => .text rendered.message,
      result.2.setDiagnostic id { error with cell := Cell.named name })
  | action => session.actOn id error action

def actAnew (session : Session) (of : String) (action : Action) : Except Fault Reply × Session :=
  match session.slot? of with
  | none => (.error .noSlot, session)
  | some (.plain id) => (session.actOnPlain id action, session)
  | some (.diagnostic id) =>
    match session.diagnostics[id]? with
    | none => (.error .noSlot, session)
    | some error => session.actOnAnew id error action

/-- Carries out a step. Only what is done with a held error can read. -/
def performAnew (session : Session) : Step → Except Fault Reply × Session
  | .act of action => session.actAnew of action
  | step => session.perform step

/-- The results of steps in order. -/
def runAnew (session : Session) : List Step → List (Except Fault Reply)
  | [] => []
  | first :: rest =>
    let performed := session.performAnew first
    performed.1 :: performed.2.runAnew rest

end Session

/-- An error without its texts. -/
def Diagnostic.bare (error : Diagnostic) : Diagnostic :=
  { error with cell := Cell.named error.cell.name }

namespace Session

variable {session : Session} {error : Diagnostic} {id : Nat}

/-- A session without the texts of its errors. -/
def bare (session : Session) : Session :=
  { session with diagnostics := session.diagnostics.map Diagnostic.bare }

theorem bare_getElem? (session : Session) (id : Nat) :
    session.bare.diagnostics[id]? = session.diagnostics[id]?.map Diagnostic.bare :=
  List.getElem?_map

theorem bare_addDiagnostic (session : Session) (error : Diagnostic) :
    session.bare.addDiagnostic error.bare =
      ((session.addDiagnostic error).1, (session.addDiagnostic error).2.bare) := by
  simp [addDiagnostic, bare]

theorem bare_setDiagnostic (session : Session) (id : Nat) (error : Diagnostic) :
    (session.setDiagnostic id error).bare = session.bare.setDiagnostic id error.bare := by
  simp [setDiagnostic, bare, List.map_set]

/-- That an error is filled does not show in the bare session. -/
theorem bare_filled (found : session.diagnostics[id]? = some error) :
    (session.setDiagnostic id (session.filled error)).bare = session.bare := by
  rw [bare_setDiagnostic]
  have present : session.bare.diagnostics[id]? = some error.bare := by
    rw [bare_getElem?, found]
    rfl
  obtain ⟨inside, same⟩ := List.getElem?_eq_some_iff.mp present
  have unchanged : session.bare.diagnostics.set id error.bare = session.bare.diagnostics := by
    rw [← same]
    exact List.set_getElem_self inside
  exact congrArg (fun all => { session.bare with diagnostics := all }) unchanged

theorem read_bare (sound : session.Sound True True)
    (found : session.diagnostics[id]? = some error) :
    session.bare.readAnew error.bare =
      ((session.read id error).1, (session.read id error).2.bare) := by
  have held := List.mem_of_getElem? found
  refine Prod.ext (sound.read_texts held id).symm ?_
  cases kept : error.cell.rendered with
  | some texts =>
    obtain ⟨mode, agreed, -⟩ := sound.faithful error held (.inl trivial) texts kept
    rw [read_of_kept kept]
    exact congrArg session.bare.setHost (settle_of_decided (agreed trivial))
  | none =>
    rw [read_of_empty kept]
    exact congrArg (Session.setHost · session.host.settle) (bare_filled found).symm

theorem textOf_bare (sound : session.Sound True True) (held : Held) :
    session.bare.textOfAnew held = ((session.textOf held).1, (session.textOf held).2.bare) := by
  cases held with
  | plain error => rfl
  | diagnostic id =>
    simp only [textOfAnew, textOf, bare_getElem?]
    cases found : session.diagnostics[id]? with
    | none => rfl
    | some error =>
      have seen := read_bare sound found
      simp only [Option.map_some, seen]

theorem causeOf_bare (sound : session.Sound True True) (error : Diagnostic) :
    session.bare.causeOfAnew error.bare =
      ((session.causeOf error).1, (session.causeOf error).2.bare) := by
  have same : error.bare.cause? = error.cause? := rfl
  simp only [causeOfAnew, causeOf, same]
  cases error.cause? with
  | none => rfl
  | some held => simp only [textOf_bare sound held]

/-- Reading leaves a session sound, whichever step it is part of. -/
theorem Sound.read (sound : session.Sound True True)
    (found : session.diagnostics[id]? = some error) :
    (session.read id error).2.Sound True True := by
  have moves : Moves .askTooling session (session.read id error).2 := read_moves found
  exact moves.sound (fun _ => rfl) nofun sound

theorem report_bare (sound : session.Sound True True)
    (found : session.diagnostics[id]? = some error) :
    session.bare.reportAnew error.bare =
      ((session.report id error).1, (session.report id error).2.bare) := by
  have sameCode : session.bare.code error.bare = session.code error := rfl
  have sameReport : ∀ code, error.bare.reported session.host.limits session.host.colors code =
      error.reported session.host.limits session.host.colors code := fun _ => rfl
  have seen := read_bare sound found
  have cause := causeOf_bare (sound.read found) error
  simp only [reportAnew, report, sameCode]
  cases session.code error with
  | error fault => rfl
  | ok code =>
    have sameHost : session.bare.host = session.host := rfl
    simp only [seen, sameHost, sameReport]
    cases (session.read id error).1 >>=
        error.reported session.host.limits session.host.colors code with
    | error fault => rfl
    | ok report => simp only [cause]

theorem get_bare (sound : session.Sound True True) (found : session.diagnostics[id]? = some error)
    (field : Field) :
    session.bare.getAnew id error.bare field =
      ((session.get id error field).1, (session.get id error field).2.bare) := by
  have seen := read_bare sound found
  cases field with
  | message | text | description | editorMessage => simp only [getAnew, get, seen]
  | cause => simp only [getAnew, get, causeOf_bare sound error]
  | name | source | line | column | endLine | endColumn | code | arguments | written | sequences |
      currentToken | chained => rfl

theorem actOn_bare (sound : session.Sound True True) (found : session.diagnostics[id]? = some error)
    (of : String) (action : Action) (intact : (Step.act of action).editsEvidence = false)
    (calm : (Step.act of action).readsDuringRename = false) :
    session.bare.actOnAnew id error.bare action =
      ((session.actOn id error action).1, (session.actOn id error action).2.bare) := by
  cases action with
  | get field => exact get_bare sound found field
  | overview | extendReported => rfl
  | report => simp only [actOnAnew, actOn, report_bare sound found]
  | rename name =>
    exact Prod.ext rfl
      (bare_setDiagnostic session id { error with cell := error.cell.rename name }).symm
  | setSource source =>
    exact Prod.ext rfl (bare_setDiagnostic session id { error with source := source }).symm
  | messageDuringRename name => contradiction
  | editToken index edit => contradiction
  | link index target => contradiction
  | setName key value => contradiction
  | alterCause plain => contradiction

theorem act_bare (sound : session.Sound True True) (of : String) (action : Action)
    (intact : (Step.act of action).editsEvidence = false)
    (calm : (Step.act of action).readsDuringRename = false) :
    session.bare.actAnew of action =
      ((session.act of action).1, (session.act of action).2.bare) := by
  have sameSlot : session.bare.slot? of = session.slot? of := rfl
  simp only [actAnew, act, sameSlot]
  cases session.slot? of with
  | none => rfl
  | some held =>
    cases held with
    | plain id => rfl
    | diagnostic id =>
      simp only [bare_getElem?]
      cases found : session.diagnostics[id]? with
      | none => rfl
      | some error => exact actOn_bare sound found of action intact calm

/-- A result with a session, and the result with the bare session. -/
def bareMap {α : Type} (made : Except Fault (α × Session)) : Except Fault (α × Session) :=
  made.map fun result => (result.1, result.2.bare)

theorem addRebuilt_bare (session : Session) (error : Diagnostic) (origin : Origin) :
    session.bare.addRebuilt error.bare origin = bareMap (session.addRebuilt error origin) := by
  have sameArguments : error.bare.arguments = error.arguments := rfl
  rw [addRebuilt_eq, addRebuilt_eq, sameArguments]
  split
  · exact congrArg Except.ok (bare_addDiagnostic session (error.withOrigin origin))
  · rfl

theorem save_bare (session : Session) (level id : Nat) :
    session.bare.save level id = session.save level id := by
  induction id using Nat.strongRecOn generalizing level with
  | ind id ih =>
    have sameHost : session.bare.host = session.host := rfl
    rw [save, save, bare_getElem?, sameHost]
    cases session.diagnostics[id]? with
    | none => rfl
    | some error =>
      have sameCause : error.bare.cause? = error.cause? := rfl
      have sameEvidence : session.bare.evidenceOf? error.bare = session.evidenceOf? error := rfl
      simp only [Option.map_some, sameCause, sameEvidence]
      cases session.host.limits.descend level session.host.limits.errorLevels with
      | error fault => rfl
      | ok below =>
        simp only [bind, Except.bind]
        split
        · split
          · next before => exact ih _ before below
          · rfl
        · rfl

theorem load_bare (session : Session) (id : Nat) :
    session.bare.load id = bareMap (session.load id) := by
  induction id using Nat.strongRecOn with
  | ind id ih =>
    rw [load, load, bare_getElem?]
    cases session.diagnostics[id]? with
    | none => rfl
    | some error =>
      have sameCause : error.bare.cause? = error.cause? := rfl
      have sameOrigin : error.bare.origin = error.origin := rfl
      have sameEvidence : session.bare.evidenceOf? error.bare = session.evidenceOf? error := rfl
      simp only [Option.map_some, sameCause, sameOrigin, sameEvidence]
      split
      · next cause caused =>
        split
        · next before =>
          rw [ih cause before]
          cases session.load cause with
          | error fault => rfl
          | ok loaded => exact addRebuilt_bare loaded.2 error _
        · exact addRebuilt_bare session error error.origin
      · cases session.evidenceOf? error with
        | none => exact addRebuilt_bare session error error.origin
        | some evidence => exact addRebuilt_bare (session.addEvidence evidence).2 error _

theorem cloneDiagnostic_bare (session : Session) (depth : Depth) (id : Nat) (error : Diagnostic) :
    session.bare.cloneDiagnostic depth id error.bare =
      bareMap (session.cloneDiagnostic depth id error) := by
  cases depth with
  | shallow => exact addRebuilt_bare session error error.origin
  | deep =>
    simp only [cloneDiagnostic, cloneDeep, save_bare, load_bare]
    cases session.save 0 id <;> rfl

theorem resolveCause_bare (session : Session) (cause : Option CauseRef) :
    session.bare.resolveCause cause = bareMap (session.resolveCause cause) := by
  cases cause with
  | none => rfl
  | some cause =>
    cases cause with
    | plain error => rfl
    | slot name =>
      have sameSlot : session.bare.slot? name = session.slot? name := rfl
      simp only [resolveCause, sameSlot]
      cases session.slot? name <;> rfl

theorem construct_bare (session : Session) (construction : Construction) :
    session.bare.construct construction =
      bareMap (session.construct construction) := by
  cases construction with
  | plain error => rfl
  | described text name span cause source =>
    have sameCause := resolveCause_bare session cause
    simp only [construct, sameCause]
    cases session.resolveCause cause with
    | error fault => rfl
    | ok resolved =>
      have added := bare_addDiagnostic resolved.2
        (Diagnostic.make text name span resolved.1 source)
      exact congrArg (fun added => Except.ok (Held.diagnostic added.1, added.2)) added
  | failure chain expected names =>
    simp only [construct]
    cases expected.sequences with
    | error fault => rfl
    | ok sequences =>
      have added := bare_addDiagnostic (session.addEvidence (.failed ⟨chain, names⟩)).2
        (Diagnostic.ofFailure chain sequences (session.addEvidence (.failed ⟨chain, names⟩)).1)
      exact congrArg (fun added => Except.ok (Held.diagnostic added.1, added.2)) added

theorem cloneSlot_bare (session : Session) (depth : Depth) (of : String) :
    session.bare.cloneSlot depth of =
      bareMap (session.cloneSlot depth of) := by
  have sameSlot : session.bare.slot? of = session.slot? of := rfl
  simp only [cloneSlot, sameSlot]
  cases session.slot? of with
  | none => rfl
  | some held =>
    cases held with
    | plain id =>
      have samePlain : session.bare.plain? id = session.plain? id := rfl
      simp only [samePlain]
      cases session.plain? id with
      | none => rfl
      | some error =>
        have sameHost : session.bare.host = session.host := rfl
        cases depth with
        | shallow => rfl
        | deep =>
          simp only [clonePlain, sameHost]
          cases (Evidence.plain error).save session.host.limits 0 <;> rfl
    | diagnostic id =>
      simp only [bare_getElem?]
      cases session.diagnostics[id]? with
      | none => rfl
      | some error =>
        simp only [Option.map_some, cloneDiagnostic_bare]
        cases session.cloneDiagnostic depth id error <;> rfl

theorem holdNew_bare (session : Session) (slot : String) (made : Except Fault (Held × Session)) :
    session.bare.holdNew slot (bareMap made) =
      ((session.holdNew slot made).1, (session.holdNew slot made).2.bare) := by
  cases made with
  | error fault => rfl
  | ok made => rfl

/-- A step answers the same in a session that remembers nothing, and leaves the same behind, apart
from kept texts. -/
theorem perform_bare (sound : session.Sound True True) (step : Step)
    (intact : step.editsEvidence = false) (calm : step.readsDuringRename = false) :
    session.bare.performAnew step =
      ((session.perform step).1, (session.perform step).2.bare) := by
  cases step with
  | setFlag value =>
    simp only [performAnew, perform]
    cases checkVariable value with
    | error fault => rfl
    | ok flag => rfl
  | load | unload | askTooling | forgetTooling | setColors => rfl
  | construct slot construction =>
    simp only [performAnew, perform, construct_bare, holdNew_bare]
  | clone depth of slot => simp only [performAnew, perform, cloneSlot_bare, holdNew_bare]
  | act of action => exact act_bare sound of action intact calm

theorem run_results (sound : session.Sound True True) (steps : List Step)
    (intact : ∀ step ∈ steps, step.editsEvidence = false)
    (calm : ∀ step ∈ steps, step.readsDuringRename = false)
    (forgets : session.ForgetsUnkept steps) :
    (session.run steps).map Answer.result = session.bare.runAnew steps := by
  induction steps generalizing session with
  | nil => rfl
  | cons first rest ih =>
    obtain ⟨unkept, forgets⟩ := forgets
    have performed := perform_bare sound first (intact first List.mem_cons_self)
      (calm first List.mem_cons_self)
    have next := perform_sound sound (fun _ => intact first List.mem_cons_self)
      fun forgetful _ => unkept forgetful
    simp only [run, List.map_cons, runAnew, performed]
    exact congrArg _ (ih next (fun step member => intact step (List.mem_cons_of_mem _ member))
      (fun step member => calm step (List.mem_cons_of_mem _ member)) forgets)

theorem after_persists (sound : session.Sound True True) (steps : List Step)
    (intact : ∀ step ∈ steps, step.editsEvidence = false)
    (calm : ∀ step ∈ steps, step.readsDuringRename = false)
    (forgets : session.ForgetsUnkept steps) (found : session.diagnostics[id]? = some error) :
    ∃ later, (session.after steps).diagnostics[id]? = some later ∧
      session.Persists (session.after steps) error later ∧
      later.cell.name = session.nameAfter id error.cell.name steps := by
  induction steps generalizing session error with
  | nil => exact ⟨error, found, .refl session error, rfl⟩
  | cons first rest ih =>
    have next := perform_sound sound (fun _ => intact first List.mem_cons_self)
      fun forgetful _ => forgets.1 forgetful
    obtain ⟨middle, present, same, name⟩ := perform_persists sound first
      (intact first List.mem_cons_self) (calm first List.mem_cons_self) found
    obtain ⟨later, foundLater, sameLater, nameLater⟩ :=
      ih next (fun step member => intact step (List.mem_cons_of_mem _ member))
        (fun step member => calm step (List.mem_cons_of_mem _ member)) forgets.2 present
    refine ⟨later, foundLater, same.trans sameLater, nameLater.trans ?_⟩
    rw [name]
    rfl

/-- The message of an error in a sound session. -/
theorem message_answer (sound : session.Sound True True) {of : String}
    (slot : session.slot? of = some (.diagnostic id))
    (found : session.diagnostics[id]? = some error) :
    (session.step (.act of (.get .message))).1.result =
      (session.render error).map fun rendered => .text rendered.message := by
  simp only [step, perform, act, slot, found, actOn, get,
    sound.read_texts (List.mem_of_getElem? found) id]

/-- What a session answers does not show that texts are kept. Every message is the heading for the
mode in force, for the name that the error was given last and for the place that it was made with,
in front of the description that it was made with. -/
theorem results_eq_anew (limits : Limits) (colors : Bool) (steps : List Step)
    (intact : ∀ step ∈ steps, step.editsEvidence = false)
    (calm : ∀ step ∈ steps, step.readsDuringRename = false)
    (forgets : (start limits colors).ForgetsUnkept steps) :
    ((start limits colors).run steps).map Answer.result = (start limits colors).runAnew steps ∧
      ∀ early between rest of id error,
        steps = early ++ (between ++ .act of (.get .message) :: rest) →
        ((start limits colors).after early).diagnostics[id]? = some error →
        ((start limits colors).after (early ++ between)).slot? of = some (.diagnostic id) →
        (((start limits colors).after (early ++ between)).step (.act of (.get .message))).1.result =
          (Location.heading limits ((start limits colors).after (early ++ between)).host.tooling
              (((start limits colors).after early).nameAfter id error.cell.name between)
              error.span.beginLine error.span.beginColumn).map fun heading =>
            .text (heading ++ ((start limits colors).after early).describe error) := by
  have beginning := start_sound True True limits colors
  refine ⟨run_results beginning steps intact calm forgets, ?_⟩
  intro early between rest of id error split found slot
  subst split
  obtain ⟨forgetsEarly, forgetsLate⟩ := (forgetsUnkept_append _ _ _).mp forgets
  have intactEarly := fun step member => intact step (List.mem_append_left _ member)
  have soundEarly := after_sound beginning early (fun _ => intactEarly) fun _ => forgetsEarly
  have inside : ∀ step ∈ between, step ∈ early ++ (between ++ .act of (.get .message) :: rest) :=
    fun step member => List.mem_append_right _ (List.mem_append_left _ member)
  have forgetsBetween := ((forgetsUnkept_append _ _ _).mp forgetsLate).1
  have intactBetween := fun step member => intact step (inside step member)
  have soundBetween := after_sound soundEarly between (fun _ => intactBetween)
    fun _ => forgetsBetween
  obtain ⟨later, foundLater, same, name⟩ := after_persists soundEarly between intactBetween
    (fun step member => calm step (inside step member)) forgetsBetween found
  have granted :
      (((start limits colors).after early).after between).host.limits = limits := by
    rw [after_limits, after_limits]
    rfl
  rw [after_append] at slot ⊢
  rw [message_answer soundBetween slot foundLater]
  simp only [render, Diagnostic.render, same.span, same.described, name, granted]
  cases Location.heading limits _ _ error.span.beginLine error.span.beginColumn <;> rfl

/-- A session that forgets the mode in time, reads an error, names and clones it, and reads the
clone and an error that it caused. -/
def namedAndCloned : List Step :=
  [.askTooling, .forgetTooling,
    .construct "e" (.described (some "Bad") none ⟨3, 7, 0, 0⟩ none none),
    .act "e" (.get .message), .setFlag (some "on"), .act "e" (.rename (some "page.ftl")),
    .clone .deep "e" "f", .act "f" (.get .text),
    .construct "g" (.described none none ⟨0, 0, 0, 0⟩ (some (.slot "f")) none),
    .act "g" .report, .act "f" (.get .message)]

theorem results_eq_anew_namedAndCloned :
    (∀ step ∈ namedAndCloned, step.editsEvidence = false) ∧
      (∀ step ∈ namedAndCloned, step.readsDuringRename = false) ∧
      (start (.usual 80 1000) false).ForgetsUnkept namedAndCloned ∧
      ((start (.usual 80 1000) false).run namedAndCloned).map Answer.result =
        (start (.usual 80 1000) false).runAnew namedAndCloned := by
  have intact : ∀ step ∈ namedAndCloned, step.editsEvidence = false := by decide
  have calm : ∀ step ∈ namedAndCloned, step.readsDuringRename = false := by decide
  have forgets : (start (.usual 80 1000) false).ForgetsUnkept namedAndCloned := by
    refine ⟨nofun, fun _ => ?_, nofun, nofun, nofun, nofun, nofun, nofun, nofun, nofun, nofun,
      trivial⟩
    intro error held
    contradiction
  exact ⟨intact, calm, forgets,
    (results_eq_anew (.usual 80 1000) false namedAndCloned intact calm forgets).1⟩

end Session

end ParseFailure
