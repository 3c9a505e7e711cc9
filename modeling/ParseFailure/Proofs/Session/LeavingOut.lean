import ParseFailure.Proofs.Session.Agreement

/-!
Leaving steps out. A step that is about the process or about an error is answered alike in sessions
that agree about the error, and leaves them agreeing; so steps that spare the error can be left out,
and the others are answered as before.
-/

namespace ParseFailure.Session

variable {session full own : Session} {id : Nat} {error : Diagnostic} {mode : Bool}
  {name of slot : String} {steps : List Step}

theorem about_clone (found : session.diagnostics[id]? = some error)
    (held : session.slot? of = some (.diagnostic id)) (depth : Depth) (slot : String) :
    (session.step (.clone depth of slot)).1.about (.clone depth of slot) =
      match session.cloneDiagnostic depth id error with
      | .ok _ => ⟨.ok .nothing, some error.cell.rendered.isSome⟩
      | .error fault => ⟨.error fault, none⟩ := by
  rw [step, perform_clone held found]
  cases made : session.cloneDiagnostic depth id error with
  | error fault => rfl
  | ok cloned =>
    obtain ⟨-, origin, added⟩ := cloneDiagnostic_found found made
    have kept : (cloned.2.hold slot (.diagnostic cloned.1)).kept? slot =
        some error.cell.rendered.isSome := by
      rw [kept?, slot?_hold, if_pos rfl]
      simp only [hold, added, Option.map_some]
      rfl
    simp only [Answer.about, Step.slot?, Option.bind_some, kept]

namespace Agree

variable (agree : Agree mode name id error full own)
include agree

theorem cloneDiagnostic (depth : Depth) :
    Parallel (fun _ _ => True) (full.cloneDiagnostic depth id error)
      (own.cloneDiagnostic depth id error) := by
  cases depth with
  | shallow =>
    have made := agree.grounded.made id error agree.here
    simp only [Session.cloneDiagnostic, cloneShallow, addRebuilt_of_wellMade _ made]
    exact .done trivial
  | deep =>
    obtain ⟨loaded, loads⟩ := agree.grounded.load_ok id
    obtain ⟨loaded', loads'⟩ := agree.grounded'.load_ok id
    simp only [Session.cloneDiagnostic, cloneDeep, loads, loads', agree.saved]
    cases own.save 0 id with
    | error fault => exact .fault fault
    | ok saved => exact .done trivial

theorem act (action : Action) :
    (full.step (.act name action)).1 = (own.step (.act name action)).1 ∧
      ∃ later, Agree mode name id later (full.step (.act name action)).2
        (own.step (.act name action)).2 := by
  obtain ⟨later, after⟩ := agree.actOn action
  have answers := agree.resembles.actOn action
  simp only [Session.step, act_located agree.slot agree.here, act_located agree.slot' agree.there,
    Step.slot?, Option.bind_some, answers, after.kept]
  exact ⟨trivial, later, after⟩

theorem clone (depth : Depth) (proper : slot ≠ name) :
    (full.step (.clone depth name slot)).1.about (.clone depth name slot) =
        (own.step (.clone depth name slot)).1.about (.clone depth name slot) ∧
      Agree mode name id error (full.step (.clone depth name slot)).2
        (own.step (.clone depth name slot)).2 := by
  have spares : ∀ session : Session, session.Grounded →
      session.slot? name = some (.diagnostic id) → session.diagnostics[id]? = some error →
      Spares id error session (session.step (.clone depth name slot)).2 ∧
        (session.step (.clone depth name slot)).2.slot? name = session.slot? name := by
    intro session grounded held found
    refine ⟨?_, step_clone_slot proper.symm⟩
    rw [Session.step, perform_clone held found]
    cases made : session.cloneDiagnostic depth id error with
    | error fault => exact ⟨rfl, found, rfl, rfl, fun _ => rfl⟩
    | ok cloned => exact ((cloneDiagnostic_grows made).spares grounded found).hold _ _
  obtain ⟨first, slotFull⟩ := spares full agree.grounded agree.slot agree.here
  obtain ⟨second, slotOwn⟩ := spares own agree.grounded' agree.slot' agree.there
  refine ⟨?_, agree.spared first second (agree.grounded.step _) (agree.grounded'.step _) slotFull
    slotOwn⟩
  rw [about_clone agree.here agree.slot, about_clone agree.there agree.slot']
  obtain ⟨fault, missed, missed'⟩ | ⟨one, other, made, made', -⟩ :=
    (agree.cloneDiagnostic depth).outcomes
  · rw [missed, missed']
  · rw [made, made']

theorem step {step : Step} (mine : step.isFor name = true) (remembers : step ≠ .forgetTooling)
    (free : step.taken? ≠ some name) :
    (full.step step).1.about step = (own.step step).1.about step ∧
      ∃ later, Agree mode name id later (full.step step).2 (own.step step).2 := by
  have host := agree.host
  have surround : ∀ host : Host, host.decided = full.host.decided →
      host.limits = full.host.limits →
        Agree mode name id error (full.setHost host) (own.setHost host) :=
    fun host same limits => agree.setHost (same.trans agree.decided) limits
  cases step with
  | setFlag value =>
    simp only [Session.step, perform, ← host]
    cases checkVariable value with
    | error fault => exact ⟨rfl, error, agree⟩
    | ok flag => exact ⟨rfl, error, surround (full.host.setFlag flag) rfl rfl⟩
  | load known =>
    simp only [Session.step, perform, ← host]
    exact ⟨rfl, error, surround (full.host.load known) rfl rfl⟩
  | unload known =>
    simp only [Session.step, perform, ← host]
    exact ⟨rfl, error, surround (full.host.unload known) rfl rfl⟩
  | askTooling =>
    simp only [Session.step, perform, ← host]
    exact ⟨rfl, error, agree.setHost (decided_settle agree.decided) rfl⟩
  | forgetTooling => contradiction
  | setColors colors =>
    simp only [Session.step, perform, ← host]
    exact ⟨rfl, error, surround (full.host.setColors colors) rfl rfl⟩
  | construct => contradiction
  | clone depth of slot =>
    have same : of = name := beq_iff_eq.mp mine
    subst same
    have elsewhere : slot ≠ of := fun same => free (congrArg some same)
    obtain ⟨answers, after⟩ := agree.clone depth elsewhere
    exact ⟨answers, error, after⟩
  | act of action =>
    have same : of = name := beq_iff_eq.mp mine
    subst same
    obtain ⟨answers, after⟩ := agree.act action
    exact ⟨answers, after⟩

end Agree

/-- A step leaves what is told of the error that a name holds as it is. -/
def SparesHeld (session : Session) (name : String) (step : Step) : Prop :=
  ∀ id error, session.slot? name = some (.diagnostic id) →
    session.diagnostics[id]? = some error → Spares id error session (session.step step).2

/-- The mode is not forgotten, the name is not taken, and every step that is neither about the
process nor about the error that the name holds spares that error. -/
def Harmless (session : Session) (name : String) : List Step → Prop
  | [] => True
  | first :: rest => first ≠ .forgetTooling ∧ first.taken? ≠ some name ∧
      (first.isFor name = false → session.SparesHeld name first) ∧
      (session.step first).2.Harmless name rest

/-- Steps that spare an error can be left out. -/
theorem Agree.heard_eq (agree : Agree mode name id error full own)
    (harmless : full.Harmless name steps) :
    full.heard (Step.isFor name) steps =
      own.heard (Step.isFor name) (steps.filter (Step.isFor name)) := by
  induction steps generalizing full own error with
  | nil => rfl
  | cons first rest ih =>
    obtain ⟨remembers, free, spares, harmless⟩ := harmless
    cases mine : first.isFor name with
    | true =>
      obtain ⟨answers, later, after⟩ := agree.step mine remembers free
      simp only [heard, mine, if_true, List.filter_cons, answers]
      exact congrArg _ (ih after harmless)
    | false =>
      have still : Spares id error own own := ⟨rfl, agree.there, rfl, rfl, fun _ => rfl⟩
      have after := agree.spared (spares mine id error agree.slot agree.here) still
        (agree.grounded.step first) agree.grounded' (step_slot free) rfl
      simp only [heard, mine, List.filter_cons]
      exact ih after harmless

theorem Grounded.agree (grounded : session.Grounded)
    (held : session.slot? name = some (.diagnostic id))
    (found : session.diagnostics[id]? = some error) (decided : session.host.decided = some mode) :
    Agree mode name id error session session :=
  ⟨grounded, grounded, held, held, rfl, decided, found, found, rfl, rfl, fun _ => rfl⟩

end ParseFailure.Session
