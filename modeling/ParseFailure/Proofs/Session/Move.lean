import Mathlib.Logic.Relation
import ParseFailure.Proofs.Session.Grown
import ParseFailure.Proofs.Session.Texts

/-!
What a step can do to a session, told as moves of which each changes one thing. Every step is a
series of moves, so what each move preserves, every step preserves.
-/

namespace ParseFailure

/-- Actions that change tokens, display names, or a cause without location. -/
def Action.editsEvidence : Action → Bool
  | .editToken _ _ | .link _ _ | .setName _ _ | .alterCause _ => true
  | _ => false

def Step.editsEvidence : Step → Bool
  | .act _ action => action.editsEvidence
  | _ => false

/-- Actions that may give the template another name. -/
def Action.renames : Action → Bool
  | .rename _ | .messageDuringRename _ => true
  | _ => false

def Step.renames : Step → Bool
  | .act _ action => action.renames
  | _ => false

/-- Whether evidence is that of a failure. No change makes a cause of it, or the other way round. -/
def Evidence.isFailed : Evidence → Bool
  | .failed _ => true
  | .plain _ => false

/-- A change that leaves evidence of its sort. -/
def KeepsSort (change : Evidence → Except Fault Evidence) : Prop :=
  ∀ evidence changed, change evidence = .ok changed → changed.isFailed = evidence.isFailed

theorem keepsSort_changeFailure (missing : Fault) (change : Failure → Except Fault Failure) :
    KeepsSort fun evidence => evidence.changeFailure missing change := by
  intro evidence changed made
  cases evidence with
  | failed failure =>
    obtain ⟨later, -, made⟩ := bind_ok made
    cases made
    rfl
  | plain error => contradiction

theorem keepsSort_alter (error : PlainError) : KeepsSort fun evidence => evidence.alter error := by
  intro evidence changed made
  cases evidence with
  | failed failure => contradiction
  | plain other =>
    cases made
    rfl

namespace Session

/-- At a position there is the evidence of a failure. -/
def HasFailure (session : Session) (e : Nat) : Prop :=
  ∃ failure, session.evidence[e]? = some (.failed failure)

/-- One change that a step may make to a session. -/
inductive Move (step : Step) : Session → Session → Prop where
  | surround (session : Session) (host : Host) (same : host.decided = session.host.decided)
      (limits : host.limits = session.host.limits) : Move step session (session.setHost host)
  | settle (session : Session) : Move step session (session.setHost session.host.settle)
  | forget (session : Session) (asked : step = .forgetTooling) :
      Move step session (session.setHost session.host.forget)
  | hold (session : Session) (name : String) (held : Held) :
      Move step session (session.hold name held)
  | addEvidence (session : Session) (evidence : Evidence) :
      Move step session (session.addEvidence evidence).2
  /-- A new error keeps no texts. -/
  | add (session : Session) (error : Diagnostic) (fresh : error.cell.rendered = none)
      (grounded : ∀ e, error.origin.failure? = some e → session.HasFailure e) :
      Move step session (session.addDiagnostic error).2
  /-- A clone takes over everything but the origin, and that is described alike. -/
  | copy (session : Session) (error : Diagnostic) (origin : Origin)
      (held : error ∈ session.diagnostics)
      (alike : session.describe (error.withOrigin origin) = session.describe error)
      (same : ∀ e, origin.failure? = some e → ∃ own, error.origin.failure? = some own ∧
        session.evidence[e]? = session.evidence[own]?)
      (free : origin.failure? = none → error.origin.failure? = none) :
      Move step session (session.addDiagnostic (error.withOrigin origin)).2
  /-- Texts are made for the present name, if they can be, and the mode is settled with them. -/
  | keep (session : Session) (id : Nat) (error : Diagnostic)
      (found : session.diagnostics[id]? = some error) (empty : error.cell.rendered = none) :
      Move step session
        ((session.setDiagnostic id (session.filled error)).setHost session.host.settle)
  | rename (session : Session) (id : Nat) (error : Diagnostic) (name : Option String)
      (found : session.diagnostics[id]? = some error) (asked : step.renames = true) :
      Move step session (session.setDiagnostic id { error with cell := Cell.named name })
  | setSource (session : Session) (id : Nat) (error : Diagnostic) (source : Option String)
      (found : session.diagnostics[id]? = some error) :
      Move step session (session.setDiagnostic id { error with source := source })
  | edit (session : Session) (id : Nat) (evidence changed : Evidence)
      (asked : step.editsEvidence = true) (stored : session.evidence[id]? = some evidence)
      (sort : changed.isFailed = evidence.isFailed) :
      Move step session (session.setEvidence id changed)

/-- A series of moves that belong to one step. -/
abbrev Moves (step : Step) : Session → Session → Prop := Relation.ReflTransGen (Move step)

variable {step : Step} {session : Session} {id : Nat} {error : Diagnostic}

/-- Reading is no move where texts are kept, and the keeping of new ones where none are. -/
theorem read_moves (found : session.diagnostics[id]? = some error) :
    Moves step session (session.read id error).2 := by
  cases kept : error.cell.rendered with
  | some texts =>
    rw [read_of_kept kept]
  | none =>
    rw [read_of_empty kept]
    exact .single (.keep session id error found kept)

/-- A rename in the middle of a read either keeps the texts, when it gives the same name again, or
leaves the error renamed and without texts. -/
theorem readDuring_rename_moves (name : Option String)
    (found : session.diagnostics[id]? = some error) (asked : step.renames = true) :
    Moves step session (session.readDuring id error fun cell => cell.rename name).2 := by
  cases kept : error.cell.rendered with
  | some texts =>
    simp only [readDuring, kept]
    exact .refl
  | none =>
    rw [readDuring_rename kept]
    split
    · exact .single (.keep session id error found kept)
    · exact (Relation.ReflTransGen.single (.rename session id error name found asked)).tail
        (.settle _)

theorem textOf_moves (held : Held) : Moves step session (session.textOf held).2 := by
  cases held with
  | plain error => exact .refl
  | diagnostic id =>
    simp only [textOf]
    split
    · next found => exact read_moves found
    · exact .refl

theorem causeOf_moves (error : Diagnostic) : Moves step session (session.causeOf error).2 := by
  unfold causeOf
  split
  · exact .refl
  · exact textOf_moves _

theorem report_moves (found : session.diagnostics[id]? = some error) :
    Moves step session (session.report id error).2 := by
  unfold report
  split
  · exact .refl
  · dsimp only
    split
    · exact read_moves found
    · exact (read_moves found).trans (causeOf_moves error)

theorem get_moves (found : session.diagnostics[id]? = some error) (field : Field) :
    Moves step session (session.get id error field).2 := by
  cases field with
  | message | text | description | editorMessage => exact read_moves found
  | cause => exact causeOf_moves error
  | name | source | line | column | endLine | endColumn | code | arguments | written | sequences |
      currentToken | chained => exact .refl

theorem changeEvidence_moves (error : Diagnostic) (missing : Fault)
    {change : Evidence → Except Fault Evidence} (asked : step.editsEvidence = true)
    (sort : KeepsSort change) :
    Moves step session (session.changeEvidence error missing change).2 := by
  unfold changeEvidence
  split
  · exact .refl
  · split
    · exact .refl
    · next evidence stored =>
      split
      · exact .refl
      · next changed made =>
        exact .single (.edit session _ evidence changed asked stored (sort _ _ made))

theorem actOn_moves (of : String) (action : Action)
    (found : session.diagnostics[id]? = some error) :
    Moves (.act of action) session (session.actOn id error action).2 := by
  cases action with
  | get field => exact get_moves found field
  | overview => exact .refl
  | report => exact report_moves found
  | messageDuringRename name => exact readDuring_rename_moves name found rfl
  | rename name => exact .single (.rename session id error name found rfl)
  | setSource source => exact .single (.setSource session id error source found)
  | editToken | link | setName =>
    exact changeEvidence_moves error _ rfl (keepsSort_changeFailure _ _)
  | alterCause plain => exact changeEvidence_moves error _ rfl (keepsSort_alter plain)
  | extendReported sequence => exact .refl

theorem act_moves (of : String) (action : Action) :
    Moves (.act of action) session (session.act of action).2 := by
  unfold act
  split
  · exact .refl
  · exact .refl
  · split
    · exact .refl
    · next found => exact actOn_moves of action found

/-- An error cloned without its cause and its evidence. -/
theorem copy_moves (held : error ∈ session.diagnostics) :
    Moves step session (session.addDiagnostic (error.withOrigin error.origin)).2 :=
  .single (.copy session error error.origin held rfl (fun e refers => ⟨e, refers, rfl⟩)
    fun free => free)

theorem Loads.moves {loaded : Nat × Session} (loads : session.Loads id loaded) :
    Moves step session loaded.2 := by
  induction loads with
  | missing absent => exact .refl
  | @caused id cause error loaded found caused before below ih =>
    have held := below.grows.diagnostics.subset (List.mem_of_getElem? found)
    have free := Origin.failure_of_located caused
    refine ih.tail (.copy loaded.2 error _ held (describe_withCause _ _ _) ?_ fun _ => free)
    intro e refers
    rw [Origin.failure_withCause, free] at refers
    contradiction
  | @shown id error evidence found stored =>
    have held := List.mem_of_getElem? found
    refine (Relation.ReflTransGen.single (.addEvidence session evidence)).tail
      (.copy _ error _ held (describe_withEvidence stored) ?_ ?_)
    · intro e refers
      rw [Origin.failure_withEvidence] at refers
      obtain ⟨own, failed, rfl⟩ := Option.map_eq_some_iff.mp refers
      refine ⟨own, failed, ?_⟩
      rw [evidenceOf?, Diagnostic.evidence?, Origin.evidence_of_failure failed,
        Option.bind_some] at stored
      rw [(addEvidence_grows session evidence).stored stored]
      exact addEvidence_stored session evidence
    · intro free
      rwa [Origin.failure_withEvidence, Option.map_eq_none_iff] at free
  | alone found unknown absent => exact copy_moves (List.mem_of_getElem? found)

/-- What holding a new error under a name adds to the making of it. -/
theorem holdNew_moves (slot : String) (made : Except Fault (Held × Session))
    (moves : ∀ held after, made = .ok (held, after) → Moves step session after) :
    Moves step session (session.holdNew slot made).2 := by
  cases made with
  | error fault => exact .refl
  | ok result => exact (moves result.1 result.2 rfl).tail (.hold _ slot result.1)

theorem resolveCause_moves {cause : Option CauseRef} {resolved : Option Held × Session}
    (made : session.resolveCause cause = .ok resolved) : Moves step session resolved.2 := by
  obtain same | ⟨error, same⟩ := resolveCause_cases made
  · rw [same]
  · rw [same]
    exact .single (.addEvidence session _)

theorem construct_moves {construction : Construction} {held : Held} {after : Session}
    (made : session.construct construction = .ok (held, after)) : Moves step session after := by
  cases construction with
  | plain error =>
    cases made
    exact .single (.addEvidence session _)
  | described text name span cause source =>
    obtain ⟨resolved, looked, made⟩ := bind_ok made
    cases made
    exact (resolveCause_moves looked).tail (.add _ _ rfl nofun)
  | failure chain expected names =>
    obtain ⟨sequences, -, made⟩ := bind_ok made
    cases made
    refine (Relation.ReflTransGen.single (.addEvidence session _)).tail (.add _ _ rfl ?_)
    rintro e ⟨⟩
    exact ⟨_, addEvidence_stored session _⟩

theorem cloneSlot_moves {depth : Depth} {of : String} {held : Held} {after : Session}
    (made : session.cloneSlot depth of = .ok (held, after)) : Moves step session after := by
  cases cloneSlot_clones made with
  | plain slot found => exact .single (.addEvidence session _)
  | located slot found copied =>
    obtain ⟨-, rfl⟩ | ⟨-, loads⟩ := cloneDiagnostic_ok copied
    · exact copy_moves (List.mem_of_getElem? found)
    · exact loads.moves

/-- Every step is a series of moves. -/
theorem perform_moves (session : Session) (step : Step) :
    Moves step session (session.perform step).2 := by
  cases step with
  | setFlag value =>
    simp only [perform]
    split
    · exact .refl
    · exact .single (.surround session _ rfl rfl)
  | load name => exact .single (.surround session _ rfl rfl)
  | unload name => exact .single (.surround session _ rfl rfl)
  | askTooling => exact .single (.settle session)
  | forgetTooling => exact .single (.forget session rfl)
  | setColors colors => exact .single (.surround session _ rfl rfl)
  | construct slot construction => exact holdNew_moves slot _ fun _ _ => construct_moves
  | clone depth of slot => exact holdNew_moves slot _ fun _ _ => cloneSlot_moves
  | act of action => exact act_moves of action

theorem HasFailure.lt {e : Nat} (has : session.HasFailure e) : e < session.evidence.length := by
  obtain ⟨failure, stored⟩ := has
  exact (List.getElem?_eq_some_iff.mp stored).1

theorem HasFailure.grows {after : Session} {e : Nat} (has : session.HasFailure e)
    (grows : session.Grows after) : after.HasFailure e := by
  obtain ⟨failure, stored⟩ := has
  exact ⟨failure, grows.stored stored⟩

theorem HasFailure.setEvidence {e target : Nat} {evidence changed : Evidence}
    (has : session.HasFailure e) (stored : session.evidence[target]? = some evidence)
    (sort : changed.isFailed = evidence.isFailed) :
    (session.setEvidence target changed).HasFailure e := by
  have inside := has.lt
  obtain ⟨failure, own⟩ := has
  by_cases same : target = e
  · subst same
    cases Option.some.inj (stored.symm.trans own)
    cases changed with
    | failed later => exact ⟨later, List.getElem?_set_self inside⟩
    | plain error => contradiction
  · exact ⟨failure, (List.getElem?_set_ne same).trans own⟩

/-- The evidence of a failure stays the evidence of a failure. -/
theorem Move.hasFailure {before after : Session} {e : Nat} (move : Move step before after)
    (has : before.HasFailure e) : after.HasFailure e := by
  cases move with
  | addEvidence evidence => exact has.grows (addEvidence_grows before evidence)
  | edit id evidence changed asked stored sort => exact has.setEvidence stored sort
  | surround | settle | forget | hold | add | copy | keep | rename | setSource => exact has

/-- What a process grants never changes. -/
theorem Move.limits {before after : Session} (move : Move step before after) :
    after.host.limits = before.host.limits := by
  cases move with
  | surround host decided limits => exact limits
  | settle | forget | hold | addEvidence | add | copy | keep | rename | setSource | edit => rfl

theorem Moves.limits {before after : Session} (moves : Moves step before after) :
    after.host.limits = before.host.limits := by
  induction moves with
  | refl => rfl
  | tail _ move ih => exact move.limits.trans ih

theorem step_limits (session : Session) (step : Step) :
    (session.step step).2.host.limits = session.host.limits :=
  Moves.limits (perform_moves session step)

theorem after_limits (session : Session) (steps : List Step) :
    (session.after steps).host.limits = session.host.limits := by
  induction steps generalizing session with
  | nil => rfl
  | cons first rest ih => exact (ih (session.step first).2).trans (step_limits session first)

end Session

end ParseFailure
