import ParseFailure.Proofs.Session.Account
import ParseFailure.Proofs.Session.LeavingOut
import ParseFailure.Proofs.Session.Unshared

/-!
Clones are independent. While the mode stays decided, nothing that is done with an error tells on
its deep clone, nor the other way round, and nothing that is done with other errors tells on the
clone either, unless it is their cause or its evidence is edited through a shallow clone of it. A
shallow clone shares cause and evidence with its original; as long as the evidence is not edited,
neither tells on the other one.
-/

namespace ParseFailure

namespace Session

variable {session : Session} {id reader : Nat} {error other : Diagnostic} {mode : Bool}
  {of : String} {edits : Prop}

theorem Grounded.making_spares (grounded : session.Grounded) {made : Except Fault (Held × Session)}
    (slot : String) (grows : ∀ held after, made = .ok (held, after) → session.Grows after)
    (found : session.diagnostics[id]? = some error) :
    Spares id error session (session.holdNew slot made).2 := by
  obtain ⟨fault, -, same⟩ | ⟨held, after, ok, same⟩ := holdNew_cases session slot made
  · rw [same]
    exact ⟨rfl, found, rfl, rfl, fun _ => rfl⟩
  · rw [same]
    exact ((grows held after ok).spares grounded found).hold slot held

theorem Grounded.structure_spares (grounded : session.Grounded) {step : Step}
    (makes : step.taken? ≠ none) (found : session.diagnostics[id]? = some error) :
    Spares id error session (session.step step).2 := by
  cases step with
  | construct slot construction =>
    exact grounded.making_spares slot (fun _ _ => construct_grows) found
  | clone depth of slot => exact grounded.making_spares slot (fun _ _ => cloneSlot_grows) found
  | setFlag | load | unload | askTooling | forgetTooling | setColors | act => contradiction

theorem Grounded.act_spares (grounded : session.Grounded) {action : Action}
    (decided : session.host.decided = some mode) (found : session.diagnostics[id]? = some error)
    (apart : ∀ reader other, session.slot? of = some (.diagnostic reader) →
      session.diagnostics[reader]? = some other →
        Apart (action.editsEvidence = true) session id reader error other) :
    Spares id error session (session.step (.act of action)).2 := by
  have nothing : Spares id error session session := ⟨rfl, found, rfl, rfl, fun _ => rfl⟩
  simp only [Session.step, perform, Session.act]
  split
  · exact nothing
  · exact nothing
  · next reader slot =>
    split
    · exact nothing
    · next other present => exact (apart reader other slot present).spares grounded decided

theorem step_found (step : Step) (found : session.diagnostics[id]? = some error) :
    ∃ later, (session.step step).2.diagnostics[id]? = some later ∧ later.origin = error.origin := by
  obtain ⟨later, present, origin, -⟩ := Moves.found (perform_moves session step) found
  exact ⟨later, present, origin⟩

theorem Apart.mono {fewer : Prop} (apart : Apart edits session id reader error other)
    (less : fewer → edits) : Apart fewer session id reader error other :=
  ⟨apart.here, apart.there, apart.different, apart.unread, apart.uncaused,
    fun some => apart.unshared (less some)⟩

/-- Errors are apart if they stand and refer to different sides. -/
theorem apart_of_sides (side part : Nat → Prop) (here : session.diagnostics[id]? = some error)
    (there : session.diagnostics[reader]? = some other) (own : side id) (foreign : ¬ side reader)
    (causes : ∀ cause, error.cause? = some (.diagnostic cause) → side cause)
    (causes' : ∀ cause, other.cause? = some (.diagnostic cause) → ¬ side cause)
    (evidence : ∀ below inner e, session.Beneath id below →
      session.diagnostics[below]? = some inner → inner.evidence? = some e → part e)
    (evidence' : ∀ e, other.evidence? = some e → ¬ part e) :
    Apart True session id reader error other where
  here := here
  there := there
  different := by
    rintro rfl
    exact foreign own
  unread caused := causes' id caused own
  uncaused caused := foreign (causes reader caused)
  unshared _ e refers below inner beneath found shared :=
    evidence' e refers (evidence below inner e beneath found shared)

/-- Below an error there is after a step what has been there before. -/
theorem Beneath.before (grounded : session.Grounded) {step : Step} {below : Nat}
    (beneath : (session.step step).2.Beneath id below)
    (found : session.diagnostics[id]? = some error) : session.Beneath id below := by
  induction beneath generalizing error with
  | own => exact .own
  | caused there caused beneath ih =>
    obtain ⟨later, present, origin⟩ := step_found step found
    cases Option.some.inj (there.symm.trans present)
    rw [Diagnostic.cause?_congr origin] at caused
    obtain ⟨cause, before⟩ := grounded.cause_found found caused
    exact .caused found caused (ih before)

theorem Apart.step (grounded : session.Grounded)
    (apart : Apart edits session id reader error other) (step : Step) :
    ∃ error' other', Apart edits (session.step step).2 id reader error' other' := by
  obtain ⟨error', here, origin⟩ := step_found step apart.here
  obtain ⟨other', there, origin'⟩ := step_found step apart.there
  have sameCause := Diagnostic.cause?_congr origin
  have sameCause' := Diagnostic.cause?_congr origin'
  have sameEvidence' := Diagnostic.evidence?_congr origin'
  refine ⟨error', other', here, there, apart.different, sameCause' ▸ apart.unread,
    sameCause ▸ apart.uncaused, ?_⟩
  intro yes e refers below later beneath present
  have beneath := beneath.before grounded apart.here
  obtain ⟨-, inner, before⟩ := grounded.beneath_found beneath apart.here
  obtain ⟨later', after, originBelow⟩ := step_found step before
  cases Option.some.inj (present.symm.trans after)
  rw [Diagnostic.evidence?_congr originBelow]
  exact apart.unshared yes e (sameEvidence' ▸ refers) below inner beneath before

theorem Apart.run (grounded : session.Grounded)
    (apart : Apart edits session id reader error other) (steps : List Step) :
    ∃ error' other', Apart edits (session.after steps) id reader error' other' := by
  induction steps generalizing session error other with
  | nil => exact ⟨error, other, apart⟩
  | cons first rest ih =>
    obtain ⟨error', other', still⟩ := apart.step grounded first
    exact ih (grounded.step first) still

end Session

/-- Whether a step is about the process, in which it does not forget the mode, or about what one of
two names holds, and takes neither of them. -/
def Step.Concerns (mine theirs : String) : Step → Prop
  | .forgetTooling | .construct _ _ => False
  | .clone _ of slot => (of = mine ∨ of = theirs) ∧ slot ≠ mine ∧ slot ≠ theirs
  | .act of _ => of = mine ∨ of = theirs
  | _ => True

theorem Step.Concerns.symm {step : Step} {mine theirs : String}
    (concerns : step.Concerns mine theirs) : step.Concerns theirs mine := by
  cases step with
  | clone depth of slot => exact ⟨concerns.1.symm, concerns.2.2, concerns.2.1⟩
  | act of action => exact Or.symm concerns
  | setFlag | load | unload | askTooling | setColors => trivial
  | forgetTooling | construct => exact concerns.elim

namespace Session

variable {session : Session} {id reader : Nat} {error other : Diagnostic} {mode : Bool}
  {mine theirs c e : String} {steps : List Step} {edits : Prop} {fence : Fence}

theorem harmless_between (grounded : session.Grounded) (decided : session.host.decided = some mode)
    (slot : session.slot? mine = some (.diagnostic id))
    (slot' : session.slot? theirs = some (.diagnostic reader))
    (apart : Apart edits session id reader error other)
    (concern : ∀ step ∈ steps, step.Concerns mine theirs)
    (less : ∀ step ∈ steps, step.editsEvidence = true → edits) : session.Harmless mine steps := by
  induction steps generalizing session error other with
  | nil => trivial
  | cons first rest ih =>
    have concerns := concern first List.mem_cons_self
    have remembers : first ≠ .forgetTooling := by
      rintro rfl
      exact concerns
    have free : first.taken? ≠ some mine ∧ first.taken? ≠ some theirs := by
      cases first with
      | construct => exact concerns.elim
      | clone depth of slot =>
        exact ⟨fun same => concerns.2.1 (Option.some.inj same),
          fun same => concerns.2.2 (Option.some.inj same)⟩
      | setFlag | load | unload | askTooling | forgetTooling | setColors | act =>
        exact ⟨nofun, nofun⟩
    obtain ⟨error', other', still⟩ := apart.step grounded first
    refine ⟨remembers, free.1, ?_, ih (grounded.step first) (step_decided decided remembers)
      ((step_slot free.1).trans slot) ((step_slot free.2).trans slot') still
      (fun step member => concern step (List.mem_cons_of_mem _ member))
      fun step member => less step (List.mem_cons_of_mem _ member)⟩
    intro foreign id' known held found
    cases Option.some.inj (slot.symm.trans held)
    cases Option.some.inj (apart.here.symm.trans found)
    cases first with
    | setFlag | load | unload | askTooling | forgetTooling | setColors => contradiction
    | construct => exact concerns.elim
    | clone depth of slot => exact grounded.structure_spares nofun found
    | act of action =>
      have elsewhere : of = theirs := by
        rcases concerns with same | same
        · simp [Step.isFor, same] at foreign
        · exact same
      subst elsewhere
      refine grounded.act_spares decided found ?_
      intro reader' known' held' present
      cases Option.some.inj (slot'.symm.trans held')
      cases Option.some.inj (apart.there.symm.trans present)
      exact apart.mono (less _ List.mem_cons_self)

/-- Whether a step leaves alone what a name holds: it does not take the name, and an action on
another error finds one that does not have this one as its cause, and that does not share its
evidence if it is to be edited. The mode is not forgotten. -/
def LeavesAlone (session : Session) (c : String) : Step → Prop
  | .forgetTooling => False
  | .construct slot _ | .clone _ _ slot => slot ≠ c
  | .act of action => of = c ∨ ∀ id reader error other,
      session.slot? c = some (.diagnostic id) → session.diagnostics[id]? = some error →
      session.slot? of = some (.diagnostic reader) → session.diagnostics[reader]? = some other →
        other.cause? ≠ some (.diagnostic id) ∧
          (action.editsEvidence = true → ∀ e, other.evidence? = some e → error.evidence? ≠ some e)
  | _ => True

/-- The error that one name holds is not the cause of what another one holds. -/
def Uncaused (session : Session) (c of : String) : Prop :=
  ∀ id reader other, session.slot? c = some (.diagnostic id) →
    session.slot? of = some (.diagnostic reader) → session.diagnostics[reader]? = some other →
      other.cause? ≠ some (.diagnostic id)

def AllLeaveAlone (session : Session) (c : String) : List Step → Prop
  | [] => True
  | first :: rest => session.LeavesAlone c first ∧ (session.step first).2.AllLeaveAlone c rest

theorem Fenced.beneath (fenced : Fenced fence c session) {below : Nat}
    (beneath : session.Beneath id below) (first : fence.first ≤ id) (last : id ≤ fence.last) :
    fence.first ≤ below ∧ below ≤ fence.last := by
  induction beneath with
  | own => exact ⟨first, last⟩
  | @caused id cause below error found caused beneath ih =>
    have before := fenced.grounded.causes id error cause found caused
    exact ih ((fenced.inside id error found first last).1 cause caused) (by omega)

theorem Fenced.apart (fenced : Fenced fence c session) (proper : theirs ≠ c)
    (found : session.diagnostics[fence.last]? = some error)
    (slot : session.slot? theirs = some (.diagnostic reader))
    (present : session.diagnostics[reader]? = some other)
    (unread : other.cause? ≠ some (.diagnostic fence.last))
    (unshared : edits → ∀ e, other.evidence? = some e → error.evidence? ≠ some e)
    (ordered : fence.first ≤ fence.last) :
    Apart edits session fence.last reader error other := by
  have outer := fenced.names theirs reader proper slot
  have causes := fun cause => (fenced.inside fence.last error found ordered (Nat.le_refl _)).1 cause
  refine ⟨found, present, by omega, unread, ?_, ?_⟩
  · intro caused
    have inner := causes reader caused
    have before := fenced.grounded.causes fence.last error reader found caused
    omega
  · intro yes e refers below inner beneath stored shared
    obtain ⟨first, last⟩ := fenced.beneath beneath ordered (Nat.le_refl _)
    have within := (fenced.inside below inner stored first last).2 e shared
    rcases (fenced.outside reader other present outer).evidence e refers with low | high | own
    · omega
    · omega
    · exact unshared yes e refers ((fenced.own error found).2.trans own)

theorem harmless_fenced (fenced : Fenced fence c session) (ordered : fence.first ≤ fence.last)
    (decided : session.host.decided = some mode) (alone : session.AllLeaveAlone c steps) :
    session.Harmless c steps := by
  induction steps generalizing session with
  | nil => trivial
  | cons first rest ih =>
    obtain ⟨leaves, alone⟩ := alone
    have remembers : first ≠ .forgetTooling := by
      rintro rfl
      exact leaves
    have free : first.taken? ≠ some c := by
      cases first with
      | construct | clone => exact fun same => leaves (Option.some.inj same)
      | setFlag | load | unload | askTooling | forgetTooling | setColors | act => exact nofun
    refine ⟨remembers, free, ?_, ih (fenced.step free) (step_decided decided remembers) alone⟩
    intro foreign id error held found
    cases Option.some.inj (fenced.held.symm.trans held)
    cases first with
    | setFlag | load | unload | askTooling | forgetTooling | setColors => contradiction
    | construct slot construction => exact fenced.grounded.structure_spares nofun found
    | clone depth of slot => exact fenced.grounded.structure_spares nofun found
    | act of action =>
      have proper : of ≠ c := by
        rintro rfl
        simp [Step.isFor] at foreign
      have others := leaves.resolve_left proper
      refine fenced.grounded.act_spares decided found ?_
      intro reader other slot present
      obtain ⟨unread, unshared⟩ := others fence.last reader error other held found slot present
      exact fenced.apart proper found slot present unread unshared ordered

/-- An error and its shallow clone refer to the same, but not to each other. -/
theorem Grounded.apart_shallow (grounded : session.Grounded)
    (held : session.slot? e = some (.diagnostic id))
    (found : session.diagnostics[id]? = some error) (c : String) :
    ∃ new, (session.step (.clone .shallow e c)).2.slot? c = some (.diagnostic new) ∧
      Apart False (session.step (.clone .shallow e c)).2 id new error error ∧
      Apart False (session.step (.clone .shallow e c)).2 new id error error := by
  have inside := (List.getElem?_eq_some_iff.mp found).1
  obtain ⟨-, performed⟩ := clone_shallow_step held found (grounded.made id error found) c
  have here : (session.step (.clone .shallow e c)).2.diagnostics[id]? = some error := by
    rw [performed]
    exact (addDiagnostic_grows session error).found found
  have there : (session.step (.clone .shallow e c)).2.diagnostics[session.diagnostics.length]? =
      some error := by
    rw [performed]
    exact addDiagnostic_found session error
  have before : ∀ cause, error.cause? = some (.diagnostic cause) → cause < id :=
    fun cause => grounded.causes id error cause found
  refine ⟨session.diagnostics.length, ?_, ⟨here, there, ?_, ?_, ?_, False.elim⟩,
    ⟨there, here, ?_, ?_, ?_, False.elim⟩⟩
  · rw [performed, slot?_hold, if_pos rfl]
  · omega
  · exact fun caused => Nat.lt_irrefl id (before id caused)
  · intro caused
    have earlier := before _ caused
    omega
  · omega
  · intro caused
    have earlier := before _ caused
    omega
  · exact fun caused => Nat.lt_irrefl id (before id caused)

/-- An error and its deep clone refer to nothing in common. -/
theorem Grounded.apart_deep (grounded : session.Grounded)
    (held : session.slot? e = some (.diagnostic id))
    (found : session.diagnostics[id]? = some error) (c : String)
    (made : (session.step (.clone .deep e c)).1.result = .ok .nothing) :
    ∃ new clone, (session.step (.clone .deep e c)).2.slot? c = some (.diagnostic new) ∧
      Apart True (session.step (.clone .deep e c)).2 id new error clone ∧
      Apart True (session.step (.clone .deep e c)).2 new id clone error := by
  have inside := (List.getElem?_eq_some_iff.mp found).1
  have here : (session.step (.clone .deep e c)).2.diagnostics[id]? = some error :=
    structural_found found rfl
  obtain ⟨fence, clone, first, ordered, low, there, fenced⟩ := grounded.fenced held found c made
  have within := fenced.inside fence.last clone there ordered (Nat.le_refl _)
  have before : ∀ cause, error.cause? = some (.diagnostic cause) → cause < fence.first := by
    intro cause caused
    have earlier := grounded.causes id error cause found caused
    omega
  have early : ∀ below inner x, (session.step (.clone .deep e c)).2.Beneath id below →
      (session.step (.clone .deep e c)).2.diagnostics[below]? = some inner →
        inner.evidence? = some x → x < fence.low := by
    intro below inner x beneath stored refers
    obtain ⟨-, inner', present⟩ :=
      grounded.beneath_found (beneath.before grounded found) found
    cases Option.some.inj (stored.symm.trans (structural_found present rfl))
    rw [low]
    exact grounded.evidence below inner x present refers
  have behind := within.1
  have late : ∀ below inner x, (session.step (.clone .deep e c)).2.Beneath fence.last below →
      (session.step (.clone .deep e c)).2.diagnostics[below]? = some inner →
        inner.evidence? = some x → fence.low ≤ x := by
    intro below inner x beneath stored refers
    obtain ⟨first, last⟩ := fenced.beneath beneath ordered (Nat.le_refl _)
    exact ((fenced.inside below inner stored first last).2 x refers).1
  refine ⟨fence.last, clone, fenced.held,
    apart_of_sides (· < fence.first) (· < fence.low) here there (by omega) (by omega) before
      (fun cause caused => Nat.not_lt.mpr (behind cause caused)) early
      (fun _ refers => Nat.not_lt.mpr (late _ clone _ .own there refers)),
    apart_of_sides (fence.first ≤ ·) (fence.low ≤ ·) there here (by omega) (by omega) behind
      (fun cause caused => Nat.not_le.mpr (before cause caused)) late
      (fun _ refers => Nat.not_le.mpr (early _ error _ .own here refers))⟩

theorem Grounded.apart_clone (grounded : session.Grounded)
    (held : session.slot? e = some (.diagnostic id))
    (found : session.diagnostics[id]? = some error) (depth : Depth) (c : String)
    (made : (session.step (.clone depth e c)).1.result = .ok .nothing) :
    ∃ new clone, (session.step (.clone depth e c)).2.slot? c = some (.diagnostic new) ∧
      Apart (depth = .deep) (session.step (.clone depth e c)).2 id new error clone ∧
      Apart (depth = .deep) (session.step (.clone depth e c)).2 new id clone error := by
  cases depth with
  | shallow =>
    obtain ⟨new, slot, first, second⟩ := grounded.apart_shallow held found c
    exact ⟨new, error, slot, first.mono nofun, second.mono nofun⟩
  | deep =>
    obtain ⟨new, clone, slot, first, second⟩ := grounded.apart_deep held found c made
    exact ⟨new, clone, slot, first.mono fun _ => trivial, second.mono fun _ => trivial⟩

/-- Until a shallow clone is made of a deep clone, every error leaves it alone that does not have it
as its cause. -/
theorem Grounded.leavesAlone_deep (grounded : session.Grounded)
    (held : session.slot? e = some (.diagnostic id))
    (found : session.diagnostics[id]? = some error)
    (made : (session.step (.clone .deep e c)).1.result = .ok .nothing) {of : String}
    (free : ∀ step ∈ steps, step.taken? ≠ some c ∧ ∀ slot, step ≠ .clone .shallow c slot)
    (uncaused : ((session.step (.clone .deep e c)).2.after steps).Uncaused c of) (action : Action) :
    ((session.step (.clone .deep e c)).2.after steps).LeavesAlone c (.act of action) := by
  obtain ⟨fence, clone, -, ordered, -, -, fenced⟩ := grounded.fenced held found c made
  obtain ⟨new, slot, unshared⟩ := grounded.unshared_deep held found c made
  cases Option.some.inj (fenced.held.symm.trans slot)
  obtain ⟨fenced, unshared⟩ := fenced.unshared_after ordered unshared free
  by_cases same : of = c
  · exact .inl same
  · refine .inr ?_
    intro id' reader known other held' found' leads present
    refine ⟨uncaused id' reader other held' leads present, ?_⟩
    intro _ part refers shared
    cases Option.some.inj (fenced.held.symm.trans held')
    have outer := fenced.names of reader same leads
    have reads := unshared.errors known found' part shared reader other present refers
    omega

/-- The steps of one of two errors that are apart can be left out. -/
theorem Apart.heard_eq (apart : Apart edits session id reader error other)
    (grounded : session.Grounded) (decided : session.host.decided = some mode)
    (slot : session.slot? mine = some (.diagnostic id))
    (slot' : session.slot? theirs = some (.diagnostic reader))
    (concern : ∀ step ∈ steps, step.Concerns mine theirs)
    (less : ∀ step ∈ steps, step.editsEvidence = true → edits) :
    session.heard (Step.isFor mine) steps =
      session.heard (Step.isFor mine) (steps.filter (Step.isFor mine)) := by
  have harmless := harmless_between grounded decided slot slot' apart concern less
  exact (grounded.agree slot apart.here decided).heard_eq harmless

theorem Grounded.leavesAlone_original (grounded : session.Grounded)
    (held : session.slot? e = some (.diagnostic id))
    (found : session.diagnostics[id]? = some error) (different : e ≠ c)
    (made : (session.step (.clone .deep e c)).1.result = .ok .nothing)
    (free : ∀ step ∈ steps, step.taken? ≠ some e ∧ step.taken? ≠ some c) (action : Action) :
    ((session.step (.clone .deep e c)).2.after steps).LeavesAlone c (.act e action) := by
  have ready := grounded.step (.clone .deep e c)
  obtain ⟨new, clone, slot', -, apart⟩ := grounded.apart_deep held found c made
  obtain ⟨clone', error', later⟩ := apart.run ready steps
  have slot : (session.step (.clone .deep e c)).2.slot? e = some (.diagnostic id) :=
    (step_clone_slot different).trans held
  have here := (after_slot fun step among => (free step among).1).trans slot
  have there := (after_slot fun step among => (free step among).2).trans slot'
  refine .inr ?_
  intro id' reader known other held' found' slot present
  cases Option.some.inj (there.symm.trans held')
  cases Option.some.inj (here.symm.trans slot)
  cases Option.some.inj (later.here.symm.trans found')
  cases Option.some.inj (later.there.symm.trans present)
  exact ⟨later.unread, fun _ e refers => later.unshared trivial e refers _ _ .own later.here⟩

/-- While the mode is decided, an error and its clone do not tell on each other: of steps that are
about the process and about these two, those about one of them can be left out, and those about the
other one are answered as before, if the clone is deep or no evidence is edited. Of a deep clone,
the same holds with whatever steps are about other errors, if these errors do not have it as their
cause and, when their evidence is edited, do not share its own. Its original never does either; and
no error shares its evidence until a shallow clone is made of it. A deep clone is made of what can
be saved. -/
theorem clones_independent (reachable : session.Reachable) (different : e ≠ c)
    (held : session.slot? e = some (.diagnostic id)) (decided : session.host.decided = some mode) :
    (∀ depth, (depth = .deep → session.Savable id) → ∀ steps, (∀ step ∈ steps, step.Concerns e c) →
      (depth = .shallow → ∀ step ∈ steps, step.editsEvidence = false) → ∀ mine ∈ [e, c],
        (session.step (.clone depth e c)).2.heard (Step.isFor mine) steps =
          (session.step (.clone depth e c)).2.heard (Step.isFor mine)
            (steps.filter (Step.isFor mine))) ∧
    (session.Savable id →
      (∀ steps, (session.step (.clone .deep e c)).2.AllLeaveAlone c steps →
        (session.step (.clone .deep e c)).2.heard (Step.isFor c) steps =
          (session.step (.clone .deep e c)).2.heard (Step.isFor c)
            (steps.filter (Step.isFor c))) ∧
      (∀ steps, (∀ step ∈ steps, step.taken? ≠ some e ∧ step.taken? ≠ some c) → ∀ action,
        ((session.step (.clone .deep e c)).2.after steps).LeavesAlone c (.act e action)) ∧
      ∀ steps, (∀ step ∈ steps, step.taken? ≠ some c ∧ ∀ slot, step ≠ .clone .shallow c slot) →
        ∀ of, ((session.step (.clone .deep e c)).2.after steps).Uncaused c of → ∀ action,
          ((session.step (.clone .deep e c)).2.after steps).LeavesAlone c (.act of action)) := by
  have grounded := reachable.grounded
  obtain ⟨error, found⟩ := grounded.found held
  have ready : ∀ depth, (session.step (.clone depth e c)).2.Grounded :=
    fun depth => grounded.step _
  have still : ∀ depth, (session.step (.clone depth e c)).2.host.decided = some mode :=
    fun depth => step_decided decided nofun
  have slot : ∀ depth, (session.step (.clone depth e c)).2.slot? e = some (.diagnostic id) :=
    fun depth => (step_clone_slot different).trans held
  refine ⟨?_, fun savable => ?_⟩
  · intro depth possible steps concern intact mine member
    have made := (grounded.clone_step_ok_iff found held depth c).mpr possible
    have less : ∀ step ∈ steps, step.editsEvidence = true → depth = .deep := by
      intro step among edits
      cases depth with
      | deep => rfl
      | shallow =>
        have never := intact rfl step among
        rw [edits] at never
        contradiction
    obtain ⟨new, clone, slot', first, second⟩ := grounded.apart_clone held found depth c made
    have either : mine = e ∨ mine = c := by simpa using member
    rcases either with rfl | rfl
    · exact first.heard_eq (ready depth) (still depth) (slot depth) slot' concern less
    · exact second.heard_eq (ready depth) (still depth) slot' (slot depth)
        (fun step among => (concern step among).symm) less
  have made := (grounded.clone_step_ok_iff found held .deep c).mpr fun _ => savable
  refine ⟨?_, ?_, ?_⟩
  · intro steps alone
    obtain ⟨fence, clone, -, ordered, -, there, fenced⟩ := grounded.fenced held found c made
    have harmless := harmless_fenced fenced ordered (still .deep) alone
    exact ((ready .deep).agree fenced.held there (still .deep)).heard_eq harmless
  · intro steps free action
    exact grounded.leavesAlone_original held found different made free action
  · intro steps free of uncaused action
    exact grounded.leavesAlone_deep held found made free uncaused action

def failedDecided : List Step :=
  [.askTooling,
    .construct "e" (.failure circlingElse (.ofSequences (ofCodes [[30], []])) .standard)]

def independent : Session := (start (.usual 80 1000) true).after failedDecided

/-- Tokens of the original are edited, and it is read and renamed, between two reads of its clone;
then the same is done through a shallow clone of it. -/
theorem clones_independent_failedDecided :
    (independent.step (.clone .deep "e" "c")).2.heard (Step.isFor "c")
        [.act "c" (.get .message), .act "e" (.editToken 1 (.image (.text "y"))), .act "e" .report,
          .act "e" (.rename (some "page")), .setColors false, .act "c" .report] =
      (independent.step (.clone .deep "e" "c")).2.heard (Step.isFor "c")
        [.act "c" (.get .message), .setColors false, .act "c" .report] ∧
    (independent.step (.clone .deep "e" "c")).2.heard (Step.isFor "c")
        [.clone .shallow "e" "s", .act "s" (.editToken 1 (.image (.text "y"))), .act "c" .report] =
      (independent.step (.clone .deep "e" "c")).2.heard (Step.isFor "c") [.act "c" .report] := by
  have savable : independent.Savable 0 := by
    refine ⟨1, _, .own rfl nofun, by decide, ?_⟩
    intro evidence stored
    cases Option.some.inj stored
    exact ⟨by decide, nofun⟩
  obtain ⟨two, deep⟩ :=
    clones_independent ⟨.usual 80 1000, true, failedDecided, rfl⟩ (by decide : "e" ≠ "c") rfl rfl
  obtain ⟨others, -, unshared⟩ := deep savable
  let cloned := (independent.step (.clone .deep "e" "c")).2
  have alone : (cloned.after [.clone .shallow "e" "s"]).Uncaused "c" "s" := by
    have grounded : independent.Grounded :=
      Reachable.grounded ⟨.usual 80 1000, true, failedDecided, rfl⟩
    have held : cloned.slot? "e" = some (.diagnostic 0) := (step_clone_slot (by decide)).trans rfl
    have found :=
      @structural_found independent 0 _ rfl (.clone .deep "e" "c") rfl
    obtain ⟨new, slot, -, apart⟩ :=
      (grounded.step (.clone .deep "e" "c")).apart_shallow held found "s"
    intro id reader other _ leads present
    cases Option.some.inj (slot.symm.trans leads)
    cases Option.some.inj (apart.here.symm.trans present)
    nofun
  have edit := unshared [.clone .shallow "e" "s"] (by simp [Step.taken?]) "s" alone
    (.editToken 1 (.image (.text "y")))
  refine ⟨two .deep (fun _ => savable) _ (by simp [Step.Concerns]) nofun "c" (by simp), ?_⟩
  have different : "s" ≠ "c" := by decide
  exact others _ ⟨different, edit, .inl rfl, trivial⟩

end Session

end ParseFailure
