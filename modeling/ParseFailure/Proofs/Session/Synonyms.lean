import Mathlib.Data.List.Forall2
import ParseFailure.Proofs.Description.Synonyms
import ParseFailure.Proofs.Session.Cloning

/-!
Sessions that differ in their tables only, where each table has a counterpart that displays every
kind by the same name. Whatever is done in both of them, as long as no display name is replaced,
gets the same answers and leaves them so. Hence it makes no difference to an error whether it was
made with a sequence of names or with the mapping of the same entries.
-/

namespace ParseFailure

/-- Whether a step replaces a display name. -/
def Step.replacesName : Step → Bool
  | .act _ (.setName _ _) => true
  | _ => false

namespace Session

/-- Two sessions with the same process, errors and slots, in which the evidence at each position is
of the same tokens and displayed by the same names. -/
structure Synonymous (left right : Session) : Prop where
  host : left.host = right.host
  diagnostics : left.diagnostics = right.diagnostics
  slots : left.slots = right.slots
  evidence : List.Forall₂ Evidence.Synonymous left.evidence right.evidence

/-- Two results that are the same, in sessions that differ in their tables only. -/
def Together {α : Type} (first second : α × Session) : Prop :=
  first.1 = second.1 ∧ first.2.Synonymous second.2

namespace Synonymous

variable {left right : Session}

theorem refl (session : Session) : session.Synonymous session := by
  refine ⟨rfl, rfl, rfl, ?_⟩
  exact List.forall₂_same.mpr fun evidence _ => Evidence.Synonymous.refl evidence

theorem stored (same : left.Synonymous right) (e : Nat) :
    (left.evidence[e]? = none ∧ right.evidence[e]? = none) ∨
      ∃ first second, left.evidence[e]? = some first ∧ right.evidence[e]? = some second ∧
        first.Synonymous second := by
  have sizes := same.evidence.length_eq
  by_cases inside : e < left.evidence.length
  · have inside' : e < right.evidence.length := sizes ▸ inside
    exact .inr ⟨_, _, List.getElem?_eq_getElem inside, List.getElem?_eq_getElem inside',
      same.evidence.get inside inside'⟩
  · exact .inl ⟨List.getElem?_eq_none (by omega), List.getElem?_eq_none (by omega)⟩

theorem evidenceOf (same : left.Synonymous right) (error : Diagnostic) :
    (left.evidenceOf? error = none ∧ right.evidenceOf? error = none) ∨
      ∃ first second, left.evidenceOf? error = some first ∧
        right.evidenceOf? error = some second ∧ first.Synonymous second := by
  unfold evidenceOf?
  cases error.evidence? with
  | none => exact .inl ⟨rfl, rfl⟩
  | some e => exact same.stored e

theorem describe (same : left.Synonymous right) (error : Diagnostic) :
    left.describe error = right.describe error := by
  unfold Session.describe
  cases error.origin with
  | described text cause => cases text <;> rfl
  | grammar sequences e =>
    obtain ⟨here, there⟩ | ⟨first, second, here, there, alike⟩ := same.stored e
    · simp only [here, there]
    · simp only [here, there, alike.describe, same.host]

theorem code (same : left.Synonymous right) (error : Diagnostic) :
    left.code error = right.code error := by
  unfold Session.code
  obtain ⟨here, there⟩ | ⟨first, second, here, there, alike⟩ := same.evidenceOf error
  · rw [here, there]
  · rw [here, there]
    exact alike.code

theorem currentLexeme (same : left.Synonymous right) (error : Diagnostic) :
    left.currentLexeme error = right.currentLexeme error := by
  have current : left.currentToken? error = right.currentToken? error := by
    unfold currentToken?
    obtain ⟨here, there⟩ | ⟨first, second, here, there, alike⟩ := same.evidenceOf error
    · rw [here, there]
    · rw [here, there]
      exact alike.current
  simp only [Session.currentLexeme, current]

theorem render (same : left.Synonymous right) (error : Diagnostic) :
    left.render error = right.render error := by
  rw [Session.render, Session.render, same.host, same.describe]

theorem slot (same : left.Synonymous right) (name : String) :
    left.slot? name = right.slot? name := by
  rw [slot?, slot?, same.slots]

theorem kept (same : left.Synonymous right) (name : String) :
    left.kept? name = right.kept? name := by
  simp only [kept?, same.slot, same.diagnostics]

theorem setHost (same : left.Synonymous right) {host other : Host} (equal : host = other) :
    (left.setHost host).Synonymous (right.setHost other) :=
  ⟨equal, same.diagnostics, same.slots, same.evidence⟩

theorem hold (same : left.Synonymous right) (name : String) (held : Held) :
    (left.hold name held).Synonymous (right.hold name held) :=
  ⟨same.host, same.diagnostics, congrArg ((name, held) :: ·) same.slots, same.evidence⟩

theorem setDiagnostic (same : left.Synonymous right) (id : Nat) (error : Diagnostic) :
    (left.setDiagnostic id error).Synonymous (right.setDiagnostic id error) :=
  ⟨same.host, congrArg (·.set id error) same.diagnostics, same.slots, same.evidence⟩

theorem addDiagnostic (same : left.Synonymous right) (error : Diagnostic) :
    Together (left.addDiagnostic error) (right.addDiagnostic error) := by
  refine ⟨congrArg List.length same.diagnostics, ?_⟩
  exact ⟨same.host, congrArg (· ++ [error]) same.diagnostics, same.slots, same.evidence⟩

theorem addEvidence (same : left.Synonymous right) {first second : Evidence}
    (alike : first.Synonymous second) :
    Together (left.addEvidence first) (right.addEvidence second) := by
  refine ⟨same.evidence.length_eq, same.host, same.diagnostics, same.slots, ?_⟩
  exact List.rel_append same.evidence (.cons alike .nil)

theorem setEvidence (same : left.Synonymous right) {first second : Evidence}
    (alike : first.Synonymous second) (e : Nat) :
    (left.setEvidence e first).Synonymous (right.setEvidence e second) := by
  refine ⟨same.host, same.diagnostics, same.slots, ?_⟩
  have changed : ∀ {before after : List Evidence}, List.Forall₂ Evidence.Synonymous before after →
      List.Forall₂ Evidence.Synonymous (before.set e first) (after.set e second) := by
    intro before after each
    induction each generalizing e with
    | nil => exact .nil
    | cons here others ih =>
      cases e with
      | zero => exact .cons alike others
      | succ e => exact .cons here (ih e)
  exact changed same.evidence

theorem readDuring (same : left.Synonymous right) (id : Nat) (error : Diagnostic)
    (meanwhile : Cell → Cell) :
    Together (left.readDuring id error meanwhile) (right.readDuring id error meanwhile) := by
  unfold Session.readDuring
  cases error.cell.rendered with
  | some texts => exact ⟨rfl, same⟩
  | none =>
    dsimp only
    rw [same.render error, same.host]
    exact ⟨rfl, (same.setDiagnostic id _).setHost rfl⟩

theorem read (same : left.Synonymous right) (id : Nat) (error : Diagnostic) :
    Together (left.read id error) (right.read id error) := same.readDuring id error _

theorem plain (same : left.Synonymous right) (e : Nat) : left.plain? e = right.plain? e := by
  unfold plain?
  obtain ⟨here, there⟩ | ⟨first, second, here, there, alike⟩ := same.stored e
  · rw [here, there]
  · rw [here, there]
    cases alike <;> rfl

theorem textOf (same : left.Synonymous right) (held : Held) :
    Together (left.textOf held) (right.textOf held) := by
  cases held with
  | plain e =>
    refine ⟨?_, same⟩
    simp only [Session.textOf, plainText, same.plain]
  | diagnostic id =>
    simp only [Session.textOf]
    rw [same.diagnostics]
    cases right.diagnostics[id]? with
    | none => exact ⟨rfl, same⟩
    | some error =>
      obtain ⟨texts, after⟩ := same.read id error
      dsimp only
      rw [texts]
      exact ⟨rfl, after⟩

theorem causeOf (same : left.Synonymous right) (error : Diagnostic) :
    Together (left.causeOf error) (right.causeOf error) := by
  unfold Session.causeOf
  cases error.cause? with
  | none => exact ⟨rfl, same⟩
  | some held =>
    obtain ⟨words, after⟩ := same.textOf held
    dsimp only
    rw [words]
    exact ⟨rfl, after⟩

theorem report (same : left.Synonymous right) (id : Nat) (error : Diagnostic) :
    Together (left.report id error) (right.report id error) := by
  unfold Session.report
  rw [same.code error, same.host]
  cases right.code error with
  | error fault => exact ⟨rfl, same⟩
  | ok code =>
    obtain ⟨texts, after⟩ := same.read id error
    dsimp only
    rw [texts]
    cases (right.read id error).1 >>=
        error.reported right.host.limits right.host.colors code with
    | error fault => exact ⟨rfl, after⟩
    | ok report =>
      obtain ⟨cause, final⟩ := after.causeOf error
      dsimp only
      rw [cause]
      exact ⟨rfl, final⟩

theorem get (same : left.Synonymous right) (id : Nat) (error : Diagnostic) (field : Field) :
    Together (left.get id error field) (right.get id error field) := by
  cases field with
  | message | text =>
    obtain ⟨texts, after⟩ := same.read id error
    exact ⟨congrArg (Except.map fun texts : Rendered => Reply.text texts.message) texts, after⟩
  | description | editorMessage =>
    obtain ⟨texts, after⟩ := same.read id error
    exact ⟨congrArg (Except.map fun texts : Rendered => Reply.text texts.description) texts, after⟩
  | cause =>
    obtain ⟨cause, after⟩ := same.causeOf error
    exact ⟨congrArg (Except.map Reply.ofCause?) cause, after⟩
  | code => exact ⟨congrArg (Except.map Reply.code) (same.code error), same⟩
  | currentToken =>
    exact ⟨congrArg (Except.map Reply.ofLexeme?) (same.currentLexeme error), same⟩
  | name | source | line | column | endLine | endColumn | arguments | written | sequences |
      chained => exact ⟨rfl, same⟩

theorem changeEvidence (same : left.Synonymous right) (error : Diagnostic) (missing : Fault)
    {change : Evidence → Except Fault Evidence}
    (both : ∀ first second, first.Synonymous second →
      Parallel Evidence.Synonymous (change first) (change second)) :
    Together (left.changeEvidence error missing change)
      (right.changeEvidence error missing change) := by
  unfold Session.changeEvidence
  cases error.evidence? with
  | none => exact ⟨rfl, same⟩
  | some e =>
    obtain ⟨here, there⟩ | ⟨first, second, here, there, alike⟩ := same.stored e
    · simp only [here, there]
      exact ⟨rfl, same⟩
    · simp only [here, there]
      have changed := both first second alike
      generalize change first = before at changed ⊢
      generalize change second = after at changed ⊢
      cases changed with
      | fault fault => exact ⟨rfl, same⟩
      | done changed => exact ⟨rfl, same.setEvidence changed e⟩

theorem actOn (same : left.Synonymous right) (id : Nat) (error : Diagnostic) (action : Action)
    (keeps : ∀ key value, action ≠ .setName key value) :
    Together (left.actOn id error action) (right.actOn id error action) := by
  cases action with
  | get field => exact same.get id error field
  | overview =>
    refine ⟨?_, same⟩
    simp only [Session.actOn, Session.overview, same.code, same.currentLexeme]
  | report =>
    obtain ⟨text, after⟩ := same.report id error
    exact ⟨congrArg (Except.map Reply.text) text, after⟩
  | messageDuringRename name =>
    obtain ⟨texts, after⟩ := same.readDuring id error fun cell => cell.rename name
    exact ⟨congrArg (Except.map fun texts : Rendered => Reply.text texts.message) texts, after⟩
  | rename name => exact ⟨rfl, same.setDiagnostic id _⟩
  | setSource source => exact ⟨rfl, same.setDiagnostic id _⟩
  | editToken index edit =>
    exact same.changeEvidence error _ fun _ _ alike =>
      alike.changeFailure _ fun _ _ alike => alike.changeToken index edit.apply
  | link index target =>
    exact same.changeEvidence error _ fun _ _ alike =>
      alike.changeFailure _ fun _ _ alike => alike.link index target
  | alterCause plain => exact same.changeEvidence error _ fun _ _ alike => alike.alter plain
  | setName key value => exact absurd rfl (keeps key value)
  | extendReported sequence => exact ⟨rfl, same⟩

theorem act (same : left.Synonymous right) (of : String) (action : Action)
    (keeps : ∀ key value, action ≠ .setName key value) :
    Together (left.act of action) (right.act of action) := by
  unfold Session.act
  rw [same.slot of]
  cases right.slot? of with
  | none => exact ⟨rfl, same⟩
  | some held =>
    cases held with
    | plain e =>
      refine ⟨?_, same⟩
      cases action <;> simp only [actOnPlain, same.plain]
    | diagnostic id =>
      dsimp only
      rw [same.diagnostics]
      cases right.diagnostics[id]? with
      | none => exact ⟨rfl, same⟩
      | some error => exact same.actOn id error action keeps

theorem addRebuilt (same : left.Synonymous right) (error : Diagnostic) (origin : Origin) :
    Parallel Together (left.addRebuilt error origin) (right.addRebuilt error origin) := by
  rw [addRebuilt_eq, addRebuilt_eq]
  split
  · exact .done (same.addDiagnostic _)
  · exact .fault _

theorem save (same : left.Synonymous right) (level id : Nat) :
    left.save level id = right.save level id := by
  -- A cause stands before the error that it belongs to, so the induction is on the position.
  induction id using Nat.strongRecOn generalizing level with
  | ind id ih =>
    rw [Session.save, Session.save, same.diagnostics, same.host]
    cases right.diagnostics[id]? with
    | none => rfl
    | some error =>
      dsimp only
      refine congrArg _ (funext fun below => ?_)
      split
      · split
        · next before => exact ih _ before below
        · rfl
      · obtain ⟨here, there⟩ | ⟨first, second, here, there, alike⟩ := same.evidenceOf error
        · rw [here, there]
        · rw [here, there]
          exact alike.save _ below

theorem load (same : left.Synonymous right) (id : Nat) :
    Parallel Together (left.load id) (right.load id) := by
  induction id using Nat.strongRecOn with
  | ind id ih =>
    rw [Session.load, Session.load, same.diagnostics]
    cases right.diagnostics[id]? with
    | none => exact .done ⟨rfl, same⟩
    | some error =>
      dsimp only
      split
      · next cause caused =>
        split
        · next before =>
          refine (ih cause before).bind fun first second both => ?_
          rw [both.1]
          exact both.2.addRebuilt error _
        · exact same.addRebuilt error _
      · obtain ⟨here, there⟩ | ⟨first, second, here, there, alike⟩ := same.evidenceOf error
        · simp only [here, there]
          exact same.addRebuilt error _
        · simp only [here, there]
          obtain ⟨place, after⟩ := same.addEvidence alike
          rw [place]
          exact after.addRebuilt error _

theorem cloneDiagnostic (same : left.Synonymous right) (depth : Depth) (id : Nat)
    (error : Diagnostic) :
    Parallel Together (left.cloneDiagnostic depth id error)
      (right.cloneDiagnostic depth id error) := by
  cases depth with
  | shallow => exact same.addRebuilt error _
  | deep =>
    simp only [Session.cloneDiagnostic, cloneDeep, same.save]
    cases right.save 0 id with
    | error fault => exact .fault fault
    | ok saved => exact same.load id

theorem addPlain (same : left.Synonymous right) (error : PlainError) :
    Together (left.addEvidence (.plain error)) (right.addEvidence (.plain error)) :=
  same.addEvidence (.plain error)

theorem clonePlain (same : left.Synonymous right) (depth : Depth) (error : PlainError) :
    Parallel Together (left.clonePlain depth error) (right.clonePlain depth error) := by
  cases depth with
  | shallow => exact .done (same.addPlain error)
  | deep =>
    simp only [Session.clonePlain, same.host]
    cases (Evidence.plain error).save right.host.limits 0 with
    | error fault => exact .fault fault
    | ok saved => exact .done (same.addPlain error)

theorem cloneSlot (same : left.Synonymous right) (depth : Depth) (of : String) :
    Parallel Together (left.cloneSlot depth of) (right.cloneSlot depth of) := by
  unfold Session.cloneSlot
  rw [same.slot of]
  cases right.slot? of with
  | none => exact .fault _
  | some held =>
    cases held with
    | plain e =>
      dsimp only
      rw [same.plain]
      cases right.plain? e with
      | none => exact .fault _
      | some error =>
        refine (same.clonePlain depth error).bind fun first second both => ?_
        exact .done ⟨congrArg Held.plain both.1, both.2⟩
    | diagnostic id =>
      dsimp only
      rw [same.diagnostics]
      cases right.diagnostics[id]? with
      | none => exact .fault _
      | some error =>
        refine (same.cloneDiagnostic depth id error).bind fun first second both => ?_
        exact .done ⟨congrArg Held.diagnostic both.1, both.2⟩

/-- An error of the grammar is made in both sessions, or in neither. -/
theorem constructFailure (same : left.Synonymous right) (chain : Chain) (expected : Expected)
    {first second : NameTable}
    (alike : Failure.Synonymous ⟨chain, first⟩ ⟨chain, second⟩) :
    Parallel Together (left.construct (.failure chain expected first))
      (right.construct (.failure chain expected second)) := by
  simp only [Session.construct]
  cases expected.sequences with
  | error fault => exact .fault fault
  | ok sequences =>
    obtain ⟨place, added⟩ := same.addEvidence (.failed alike)
    simp only [bind, Except.bind]
    rw [place]
    obtain ⟨id, after⟩ := added.addDiagnostic
      (Diagnostic.ofFailure chain sequences (right.addEvidence (.failed ⟨chain, second⟩)).1)
    exact .done ⟨congrArg Held.diagnostic id, after⟩

theorem resolveCause (same : left.Synonymous right) (cause : Option CauseRef) :
    Parallel Together (left.resolveCause cause) (right.resolveCause cause) := by
  unfold Session.resolveCause
  cases cause with
  | none => exact .done ⟨rfl, same⟩
  | some reference =>
    cases reference with
    | plain error =>
      obtain ⟨place, after⟩ := same.addPlain error
      exact .done ⟨congrArg (fun e => some (Held.plain e)) place, after⟩
    | slot name =>
      dsimp only
      rw [same.slot]
      cases right.slot? name with
      | none => exact .fault _
      | some held => exact .done ⟨rfl, same⟩

theorem construct (same : left.Synonymous right) (construction : Construction) :
    Parallel Together (left.construct construction) (right.construct construction) := by
  cases construction with
  | plain error =>
    obtain ⟨place, after⟩ := same.addPlain error
    exact .done ⟨congrArg Held.plain place, after⟩
  | described text name span cause source =>
    refine (same.resolveCause cause).bind fun first second both => ?_
    rw [both.1]
    obtain ⟨id, after⟩ := both.2.addDiagnostic (Diagnostic.make text name span second.1 source)
    exact .done ⟨congrArg Held.diagnostic id, after⟩
  | failure chain expected names =>
    exact same.constructFailure chain expected (.refl ⟨chain, names⟩)

theorem holdNew (same : left.Synonymous right) (slot : String)
    {first second : Except Fault (Held × Session)} (made : Parallel Together first second) :
    Together (left.holdNew slot first) (right.holdNew slot second) := by
  cases made with
  | fault fault => exact ⟨rfl, same⟩
  | @done first second both =>
    obtain ⟨held, session⟩ := first
    obtain ⟨held', session'⟩ := second
    obtain ⟨equal, after⟩ := both
    dsimp only at equal after
    subst equal
    exact ⟨rfl, after.hold slot held⟩

/-- The answer to a step that holds something new under a name. -/
theorem held (same : left.Synonymous right) (slot : String)
    {first second : Except Fault (Held × Session)} (made : Parallel Together first second) :
    Together ((left.holdNew slot first).1.map fun _ => Reply.nothing, (left.holdNew slot first).2)
      ((right.holdNew slot second).1.map fun _ => Reply.nothing,
        (right.holdNew slot second).2) := by
  obtain ⟨result, after⟩ := same.holdNew slot made
  exact ⟨congrArg (Except.map fun _ => Reply.nothing) result, after⟩

theorem perform (same : left.Synonymous right) (step : Step) (keeps : step.replacesName = false) :
    Together (left.perform step) (right.perform step) := by
  cases step with
  | setFlag value =>
    simp only [Session.perform, same.host]
    cases checkVariable value with
    | error fault => exact ⟨rfl, same⟩
    | ok flag => exact ⟨rfl, same.setHost rfl⟩
  | load name => exact ⟨rfl, same.setHost (congrArg (·.load name) same.host)⟩
  | unload name => exact ⟨rfl, same.setHost (congrArg (·.unload name) same.host)⟩
  | askTooling =>
    exact ⟨congrArg (fun host : Host => Except.ok (Reply.truth host.tooling)) same.host,
      same.setHost (congrArg Host.settle same.host)⟩
  | forgetTooling => exact ⟨rfl, same.setHost (congrArg Host.forget same.host)⟩
  | setColors colors => exact ⟨rfl, same.setHost (congrArg (·.setColors colors) same.host)⟩
  | construct slot construction => exact same.held slot (same.construct construction)
  | clone depth of slot => exact same.held slot (same.cloneSlot depth of)
  | act of action =>
    refine same.act of action fun key value replaces => ?_
    subst replaces
    contradiction

/-- The answer to a step also tells what is kept, and that is the same. -/
theorem answered (step : Step) {first second : Except Fault Reply × Session}
    (both : Together first second) :
    Together (Answer.mk first.1 (step.slot?.bind first.2.kept?), first.2)
      (Answer.mk second.1 (step.slot?.bind second.2.kept?), second.2) := by
  obtain ⟨result, after⟩ := both
  have kept : step.slot?.bind first.2.kept? = step.slot?.bind second.2.kept? := by
    cases step.slot? with
    | none => rfl
    | some name => exact after.kept name
  exact ⟨by rw [result, kept], after⟩

theorem step (same : left.Synonymous right) (step : Step) (keeps : step.replacesName = false) :
    Together (left.step step) (right.step step) := answered step (same.perform step keeps)

/-- The step that makes an error of the grammar, with a table in one session and its counterpart in
the other. -/
theorem stepFailure (same : left.Synonymous right) (slot : String) (chain : Chain)
    (expected : Expected) {first second : NameTable}
    (alike : Failure.Synonymous ⟨chain, first⟩ ⟨chain, second⟩) :
    Together (left.step (.construct slot (.failure chain expected first)))
      (right.step (.construct slot (.failure chain expected second))) :=
  answered (.construct slot (.failure chain expected second))
    (same.held slot (same.constructFailure chain expected alike))

theorem run (same : left.Synonymous right) (steps : List Step)
    (keeps : ∀ step ∈ steps, step.replacesName = false) :
    left.run steps = right.run steps ∧ (left.after steps).Synonymous (right.after steps) := by
  induction steps generalizing left right with
  | nil => exact ⟨rfl, same⟩
  | cons first rest ih =>
    obtain ⟨here, later⟩ := List.forall_mem_cons.mp keeps
    obtain ⟨answer, after⟩ := same.step first here
    obtain ⟨answers, final⟩ := ih after later
    rw [Session.run, Session.run, answer, answers]
    exact ⟨rfl, final⟩

end Synonymous

/-- Every sequence of names has a mapping with the same entries under their positions, and one can
stand for the other. Every kind, be it a code of any size and sign or no code at all, is displayed
by the same name. An error that the grammar reports is made with one of them as with the other, or
is not made for the same fault; and whatever is done then in which no display name is replaced, such
as giving names to the template and reading the error in any order, gets the same answers, and
leaves every error with the same message, the same description and the same other fields. -/
theorem tables_interchangeable (names : List (Option String)) :
    (∃ entries, NameTable.Mirrors entries names) ∧
      ∀ entries, NameTable.Mirrors entries names →
        (∀ limits kind,
          (NameTable.sequence names).name limits kind =
            (NameTable.mapping entries).name limits kind) ∧
        ∀ (session : Session) (slot : String) (chain : Chain) (expected : Expected)
          (steps : List Step), (∀ step ∈ steps, step.replacesName = false) →
            let first :=
              session.step (.construct slot (.failure chain expected (.sequence names)))
            let second :=
              session.step (.construct slot (.failure chain expected (.mapping entries)))
            first.1 = second.1 ∧ first.2.run steps = second.2.run steps ∧
              ∀ of field, ((first.2.after steps).act of (.get field)).1 =
                ((second.2.after steps).act of (.get field)).1 := by
  refine ⟨⟨_, NameTable.positioned_mirrors names⟩, fun entries mirrors => ?_⟩
  have alike := mirrors.synonymous
  refine ⟨alike, fun session slot chain expected steps keeps => ?_⟩
  have failures : Failure.Synonymous ⟨chain, .sequence names⟩ ⟨chain, .mapping entries⟩ :=
    ⟨rfl, alike, rfl⟩
  obtain ⟨made, after⟩ := (Synonymous.refl session).stepFailure slot chain expected failures
  obtain ⟨answers, final⟩ := after.run steps keeps
  refine ⟨made, answers, fun of field => ?_⟩
  obtain ⟨answer, -⟩ := final.act of (.get field) nofun
  exact answer

/-- A table that names the end of the input and gives one kind no name and one an empty name. -/
def threeNames : List (Option String) := [some "<EOF>", none, some ""]

/-- The same entries by their positions, in no order, and one that does not count. -/
def threeEntries : List (Kind × Option String) :=
  [(.number 2, some ""), (.number 0, some "<EOF>"), (.number 1, none), (.number 0, some "late")]

/-- A token and the end of the input behind it. -/
def endAhead : Chain :=
  Chain.ofTokens ⟨.ofCategory .staticText, .text "x", ⟨1, 1, 1, 1⟩⟩
    [⟨.number 7, .text "y", ⟨1, 2, 1, 2⟩⟩, ⟨.endOfInput, .text "", ⟨1, 3, 1, 3⟩⟩] none

/-- A process that shows colors. -/
def colored : Session := start (.usual 80 1000) true

/-- Codes that the table names, codes that it does not, and kinds that are no codes. -/
def mixedKinds : Expected :=
  .ofSequences [[.number 0, .number (-1), .number 1], [.absent, .numbers [2], .number 2]]

theorem tables_interchangeable_threeNames :
    NameTable.Mirrors threeEntries threeNames ∧
      (∀ step ∈ [Step.act "e" (.get .message), .act "e" (.rename (some "page"))],
        step.replacesName = false) ∧
      ∀ table ∈ [NameTable.sequence threeNames, .mapping threeEntries],
        (((colored.step (.construct "e" (.failure endAhead mixedKinds table))).2.after
          [.act "e" (.get .message), .act "e" (.rename (some "page"))]).act "e"
            (.get .description)).1 =
          .ok (.text ("Encountered \"y <EOF>\", but was expecting one of:\n" ++
            "    <EOF> <token kind -1> <token kind 1>\n" ++
            "    <token kind None> <token kind [2]> ")) := by
  have mirrors : NameTable.Mirrors threeEntries threeNames := by
    rintro ((i | i) | _ | _ | _)
    · match i with
      | 0 | 1 | 2 => rfl
      | i + 3 => rfl
    all_goals rfl
  have keeps : ∀ step ∈ [Step.act "e" (.get .message), .act "e" (.rename (some "page"))],
      step.replacesName = false := by decide
  obtain ⟨-, -, answers⟩ := ((tables_interchangeable threeNames).2 threeEntries mirrors).2
    colored "e" endAhead mixedKinds _ keeps
  have same := answers "e" .description
  refine ⟨mirrors, keeps, ?_⟩
  refine List.forall_mem_cons.mpr ⟨same.trans ?_, List.forall_mem_singleton.mpr ?_⟩
  all_goals rfl

end Session

end ParseFailure
