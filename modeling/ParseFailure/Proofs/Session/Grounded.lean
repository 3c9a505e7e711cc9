import ParseFailure.Proofs.Session.Footprint
import ParseFailure.Proofs.Session.Grown

/-!
What a step adds, and what every reachable session is like. Causes stand before the errors that they
belong to, and what an error or a name refers to is there.
-/

namespace ParseFailure

/-- The name that a step holds something new under. -/
def Step.taken? : Step → Option String
  | .construct slot _ | .clone _ _ slot => some slot
  | _ => none

namespace Session

variable {session middle after : Session} {id : Nat} {error : Diagnostic} {held : Held}
  {edited : Nat → Prop} {slot : String}

/-- What a step makes, to be held under a name. -/
inductive Made (session : Session) : Step → String → Held → Session → Prop
  | constructed {slot : String} {construction : Construction} {held : Held} {after : Session}
      (made : session.construct construction = .ok (held, after)) :
      Made session (.construct slot construction) slot held after
  | cloned {depth : Depth} {of slot : String} {held : Held} {after : Session}
      (made : session.cloneSlot depth of = .ok (held, after)) :
      Made session (.clone depth of slot) slot held after

theorem Made.grows {step : Step} (made : session.Made step slot held after) :
    session.Grows after := by
  cases made with
  | constructed made => exact construct_grows made
  | cloned made => exact cloneSlot_grows made

theorem Made.taken {step : Step} (made : session.Made step slot held after) :
    step.taken? = some slot := by
  cases made <;> rfl

/-- A step adds nothing, or what it makes. -/
theorem step_cases (session : Session) (step : Step) :
    Keeps (fun _ => True) session (session.step step).2 ∨
      ∃ slot held after, session.Made step slot held after ∧
        (session.step step).2 = after.hold slot held := by
  have still : Keeps (fun _ => True) session session := .refl _ session
  cases step with
  | setFlag value =>
    simp only [Session.step, perform]
    split
    · exact .inl still
    · exact .inl (setHost_keeps session _)
  | load | unload | askTooling | forgetTooling | setColors => exact .inl (setHost_keeps session _)
  | construct slot construction =>
    obtain ⟨fault, -, same⟩ | ⟨held, after, made, same⟩ :=
      holdNew_cases session slot (session.construct construction)
    · simp only [Session.step, perform, same]
      exact .inl still
    · simp only [Session.step, perform, same]
      exact .inr ⟨slot, held, after, .constructed made, rfl⟩
  | clone depth of slot =>
    obtain ⟨fault, -, same⟩ | ⟨held, after, made, same⟩ :=
      holdNew_cases session slot (session.cloneSlot depth of)
    · simp only [Session.step, perform, same]
      exact .inl still
    · simp only [Session.step, perform, same]
      exact .inr ⟨slot, held, after, .cloned made, rfl⟩
  | act of action => exact .inl ((act_keeps session of action).mono fun _ _ => trivial)

/-- A name leads where it did unless it is taken. -/
theorem step_slot {name : String} {step : Step} (free : step.taken? ≠ some name) :
    (session.step step).2.slot? name = session.slot? name := by
  obtain keeps | ⟨slot, held, after, made, same⟩ := step_cases session step
  · simp only [slot?, keeps.slots]
  · have proper : name ≠ slot := by
      rintro rfl
      exact free made.taken
    rw [same, slot?_hold, if_neg proper, slot?, made.grows.slots, slot?]

theorem step_clone_slot {name other : String} (different : name ≠ other) {depth : Depth}
    {of : String} : (session.step (.clone depth of other)).2.slot? name = session.slot? name :=
  step_slot fun same => different (Option.some.inj same).symm

theorem after_slot {name : String} {steps : List Step}
    (free : ∀ step ∈ steps, step.taken? ≠ some name) :
    (session.after steps).slot? name = session.slot? name := by
  induction steps generalizing session with
  | nil => rfl
  | cons first rest ih =>
    have later : ((session.step first).2.after rest).slot? name =
        (session.step first).2.slot? name :=
      ih fun step member => free step (List.mem_cons_of_mem _ member)
    exact later.trans (step_slot (free first List.mem_cons_self))

/-- What is referred to is new. -/
def Fresh (session : Session) : Held → Prop
  | .diagnostic id => session.diagnostics.length ≤ id
  | .plain e => session.evidence.length ≤ e

theorem Made.fresh {step : Step} (made : session.Made step slot held after) :
    session.Fresh held := by
  cases made with
  | @constructed slot construction held after made =>
    cases construction with
    | plain error =>
      cases made
      exact Nat.le_refl _
    | described text name span cause source =>
      obtain ⟨resolved, looked, made⟩ := bind_ok made
      cases made
      exact Nat.le_of_eq (congrArg List.length (resolveCause_diagnostics looked).symm)
    | failure chain expected names =>
      obtain ⟨sequences, -, made⟩ := bind_ok made
      cases made
      exact Nat.le_refl _
  | cloned made =>
    cases cloneSlot_clones made with
    | plain slot found => exact Nat.le_refl _
    | located slot found copied =>
      exact List.getElem?_eq_none_iff.mp (cloneDiagnostic_found found copied).1

/-- What is referred to is there. -/
def Contains (session : Session) : Held → Prop
  | .diagnostic id => id < session.diagnostics.length
  | .plain e => e < session.evidence.length

structure Grounded (session : Session) : Prop where
  made : ∀ (id : Nat) (error : Diagnostic), session.diagnostics[id]? = some error → error.WellMade
  causes : ∀ (id : Nat) (error : Diagnostic) (cause : Nat), session.diagnostics[id]? = some error →
    error.cause? = some (.diagnostic cause) → cause < id
  evidence : ∀ (id : Nat) (error : Diagnostic) (e : Nat), session.diagnostics[id]? = some error →
    error.evidence? = some e → e < session.evidence.length
  held : ∀ name held, session.slot? name = some held → session.Contains held

theorem Grows.contains (grows : session.Grows after) (contained : session.Contains held) :
    after.Contains held := by
  cases held with
  | diagnostic id => exact Nat.lt_of_lt_of_le contained grows.diagnostics.length_le
  | plain e => exact Nat.lt_of_lt_of_le contained grows.evidence.length_le

theorem contains_addDiagnostic (session : Session) (error : Diagnostic) :
    (session.addDiagnostic error).2.Contains (.diagnostic (session.addDiagnostic error).1) :=
  (List.getElem?_eq_some_iff.mp (addDiagnostic_found session error)).1

theorem contains_addEvidence (session : Session) (evidence : Evidence) :
    (session.addEvidence evidence).2.Contains (.plain (session.addEvidence evidence).1) :=
  (List.getElem?_eq_some_iff.mp (addEvidence_stored session evidence)).1

/-- What is found as a cause is new, or held under a name. -/
theorem resolveCause_found {cause : Option CauseRef} {resolved : Option Held × Session}
    (made : session.resolveCause cause = .ok resolved) (found : resolved.1 = some held) :
    (∃ error, resolved.2 = (session.addEvidence (.plain error)).2 ∧
      held = .plain session.evidence.length) ∨
    (resolved.2 = session ∧ ∃ name, session.slot? name = some held) := by
  unfold resolveCause at made
  split at made
  · cases made
    contradiction
  · cases made
    cases found
    exact .inl ⟨_, rfl, rfl⟩
  · next name =>
    cases own : session.slot? name with
    | none => simp [own] at made
    | some known =>
      simp only [own] at made
      cases made
      cases found
      exact .inr ⟨rfl, name, own⟩

theorem start_grounded (limits : Limits) (colors : Bool) : (start limits colors).Grounded := by
  constructor <;> simp [start, slot?]

namespace Grounded

theorem setHost (grounded : session.Grounded) (host : Host) : (session.setHost host).Grounded :=
  ⟨grounded.made, grounded.causes, grounded.evidence, grounded.held⟩

theorem found (grounded : session.Grounded) {name : String}
    (held : session.slot? name = some (.diagnostic id)) :
    ∃ error, session.diagnostics[id]? = some error :=
  ⟨_, List.getElem?_eq_getElem (grounded.held name _ held)⟩

theorem cause_found (grounded : session.Grounded) (found : session.diagnostics[id]? = some error)
    {cause : Nat} (caused : error.cause? = some (.diagnostic cause)) :
    ∃ other, session.diagnostics[cause]? = some other := by
  have earlier := grounded.causes id error cause found caused
  have inside := (List.getElem?_eq_some_iff.mp found).1
  exact ⟨_, List.getElem?_eq_getElem (Nat.lt_trans earlier inside)⟩

theorem stored (grounded : session.Grounded) (found : session.diagnostics[id]? = some error)
    {e : Nat} (refers : error.evidence? = some e) :
    ∃ evidence, session.evidence[e]? = some evidence :=
  ⟨_, List.getElem?_eq_getElem (grounded.evidence id error e found refers)⟩

/-- An error without evidence in the session refers to none. -/
theorem unshown (grounded : session.Grounded) (found : session.diagnostics[id]? = some error)
    (absent : session.evidenceOf? error = none) : error.evidence? = none := by
  cases refers : error.evidence? with
  | none => rfl
  | some e =>
    obtain ⟨evidence, stored⟩ := grounded.stored found refers
    simp [evidenceOf?, refers, stored] at absent

/-- An error whose cause does not stand before it has no located cause. -/
theorem unlocated (grounded : session.Grounded) (found : session.diagnostics[id]? = some error)
    (unknown : ∀ cause, error.cause? = some (.diagnostic cause) → id ≤ cause) (cause : Nat) :
    error.cause? ≠ some (.diagnostic cause) := by
  intro caused
  exact Nat.not_le_of_lt (grounded.causes id error cause found caused) (unknown cause caused)

theorem keeps (grounded : session.Grounded) (keeps : Keeps edited session after) :
    after.Grounded where
  made id later found := by
    obtain ⟨error, before, same⟩ := keeps.before found
    obtain ⟨origin, arguments, chained⟩ := Diagnostic.fixed_eq_iff.mp same
    exact (grounded.made id error before).congr origin.symm arguments.symm chained.symm
  causes id later cause found caused := by
    obtain ⟨error, before, same⟩ := keeps.before found
    apply grounded.causes id error cause before
    rwa [Diagnostic.cause?_congr (Diagnostic.fixed_eq_iff.mp same).1]
  evidence id later e found refers := by
    obtain ⟨error, before, same⟩ := keeps.before found
    rw [keeps.size]
    apply grounded.evidence id error e before
    rwa [Diagnostic.evidence?_congr (Diagnostic.fixed_eq_iff.mp same).1]
  held name held found := by
    rw [slot?, keeps.slots] at found
    have contained := grounded.held name held found
    cases held with
    | diagnostic id => rwa [Contains, keeps.length_eq]
    | plain e => rwa [Contains, keeps.size]

theorem addEvidence (grounded : session.Grounded) (evidence : Evidence) :
    (session.addEvidence evidence).2.Grounded where
  made := grounded.made
  causes := grounded.causes
  evidence id error e found refers :=
    Nat.lt_of_lt_of_le (grounded.evidence id error e found refers)
      (addEvidence_grows session evidence).evidence.length_le
  held name _ found := (addEvidence_grows session evidence).contains (grounded.held name _ found)

/-- A new error may refer to whatever is there. -/
theorem addDiagnostic (grounded : session.Grounded) (made : error.WellMade)
    (caused : ∀ cause, error.cause? = some (.diagnostic cause) →
      cause < session.diagnostics.length)
    (refers : ∀ e, error.evidence? = some e → e < session.evidence.length) :
    (session.addDiagnostic error).2.Grounded := by
  constructor
  · intro id other found
    obtain old | ⟨-, rfl⟩ := addDiagnostic_cases found
    · exact grounded.made id other old
    · exact made
  · intro id other cause found own
    obtain old | ⟨rfl, rfl⟩ := addDiagnostic_cases found
    · exact grounded.causes id other cause old own
    · exact caused cause own
  · intro id other e found own
    obtain old | ⟨-, rfl⟩ := addDiagnostic_cases found
    · exact grounded.evidence id other e old own
    · exact refers e own
  · intro name held found
    exact (addDiagnostic_grows session error).contains (grounded.held name held found)

/-- An error may be added once more. -/
theorem addAgain (grounded : session.Grounded) (found : session.diagnostics[id]? = some error) :
    (session.addDiagnostic (error.withOrigin error.origin)).2.Grounded := by
  have made := grounded.made id error found
  rw [made.withOrigin_self]
  have inside := (List.getElem?_eq_some_iff.mp found).1
  refine grounded.addDiagnostic made ?_ fun e refers => grounded.evidence id error e found refers
  intro cause caused
  exact Nat.lt_trans (grounded.causes id error cause found caused) inside

theorem hold (grounded : session.Grounded) (name : String) (contained : session.Contains held) :
    (session.hold name held).Grounded where
  made := grounded.made
  causes := grounded.causes
  evidence := grounded.evidence
  held other known found := by
    rw [slot?_hold] at found
    split at found
    · cases found
      exact contained
    · exact grounded.held other known found

/-- Whatever is there can be loaded: every error is made with at most one argument. -/
theorem load_ok (grounded : session.Grounded) (id : Nat) :
    ∃ loaded, session.load id = .ok loaded := by
  induction id using Nat.strongRecOn with
  | ind id ih =>
    rw [load]
    cases found : session.diagnostics[id]? with
    | none => exact ⟨_, rfl⟩
    | some error =>
      have made := grounded.made id error found
      dsimp only
      split
      · next cause caused =>
        split
        · next before =>
          obtain ⟨loaded, below⟩ := ih cause before
          rw [below]
          exact ⟨_, addRebuilt_of_wellMade loaded.2 made _⟩
        · exact ⟨_, addRebuilt_of_wellMade session made _⟩
      · split
        · exact ⟨_, addRebuilt_of_wellMade _ made _⟩
        · exact ⟨_, addRebuilt_of_wellMade session made _⟩

theorem loads (grounded : session.Grounded) {loaded : Nat × Session}
    (loads : session.Loads id loaded) (inside : id < session.diagnostics.length) :
    loaded.2.Grounded ∧ loaded.2.Contains (.diagnostic loaded.1) := by
  induction loads with
  | missing absent =>
    have outside := List.getElem?_eq_none_iff.mp absent
    omega
  | @caused id cause error loaded found caused before below ih =>
    obtain ⟨ready, new⟩ := ih (Nat.lt_trans before inside)
    have made := (grounded.made id error found).withOrigin
      (Origin.arguments_withCause error.origin loaded.1)
    obtain ⟨cause', free⟩ := Origin.cause_withCause caused loaded.1
    refine ⟨ready.addDiagnostic made ?_ ?_, contains_addDiagnostic _ _⟩
    · intro own same
      cases Option.some.inj (cause'.symm.trans same)
      exact new
    · intro e refers
      cases free.symm.trans refers
  | @shown id error evidence found stored =>
    obtain ⟨e, refers, -⟩ := Option.bind_eq_some_iff.mp stored
    have made := (grounded.made id error found).withOrigin
      (Origin.arguments_withEvidence error.origin session.evidence.length)
    obtain ⟨refers', unlocated⟩ := Origin.evidence_withEvidence refers session.evidence.length
    refine ⟨(grounded.addEvidence evidence).addDiagnostic made ?_ ?_, contains_addDiagnostic _ _⟩
    · intro cause caused
      exact absurd caused (unlocated cause)
    · intro own same
      cases Option.some.inj (refers'.symm.trans same)
      exact contains_addEvidence session evidence
  | @alone id error found unknown absent =>
    exact ⟨grounded.addAgain found, contains_addDiagnostic _ _⟩

theorem resolveCause (grounded : session.Grounded) {cause : Option CauseRef}
    {resolved : Option Held × Session} (made : session.resolveCause cause = .ok resolved) :
    resolved.2.Grounded ∧ ∀ held, resolved.1 = some held → resolved.2.Contains held := by
  constructor
  · obtain same | ⟨error, same⟩ := resolveCause_cases made
    · rw [same]
      exact grounded
    · rw [same]
      exact grounded.addEvidence _
  · intro held found
    obtain ⟨error, same, rfl⟩ | ⟨same, name, known⟩ := resolveCause_found made found
    · rw [same]
      exact contains_addEvidence session _
    · rw [same]
      exact grounded.held name held known

theorem construct (grounded : session.Grounded) {construction : Construction}
    (made : session.construct construction = .ok (held, after)) :
    after.Grounded ∧ after.Contains held := by
  cases construction with
  | plain error =>
    cases made
    exact ⟨grounded.addEvidence _, contains_addEvidence session _⟩
  | described text name span cause source =>
    obtain ⟨resolved, looked, made⟩ := bind_ok made
    obtain ⟨ready, contained⟩ := grounded.resolveCause looked
    cases made
    refine ⟨ready.addDiagnostic (Diagnostic.wellMade_make text name span resolved.1 source) ?_ ?_,
      contains_addDiagnostic _ _⟩
    · intro cause caused
      exact contained _ caused
    · intro e refers
      exact contained _ (Origin.evidence_described refers)
  | failure chain expected names =>
    obtain ⟨sequences, -, made⟩ := bind_ok made
    cases made
    refine ⟨(grounded.addEvidence _).addDiagnostic (Diagnostic.wellMade_ofFailure chain sequences _)
      nofun ?_, contains_addDiagnostic _ _⟩
    rintro e ⟨⟩
    exact contains_addEvidence session _

theorem cloneDiagnostic (grounded : session.Grounded) {depth : Depth} {cloned : Nat × Session}
    (found : session.diagnostics[id]? = some error)
    (made : session.cloneDiagnostic depth id error = .ok cloned) :
    cloned.2.Grounded ∧ cloned.2.Contains (.diagnostic cloned.1) := by
  obtain ⟨-, rfl⟩ | ⟨-, loads⟩ := cloneDiagnostic_ok made
  · exact ⟨grounded.addAgain found, contains_addDiagnostic _ _⟩
  · exact grounded.loads loads (List.getElem?_eq_some_iff.mp found).1

theorem cloneSlot (grounded : session.Grounded) {depth : Depth} {of : String}
    (made : session.cloneSlot depth of = .ok (held, after)) :
    after.Grounded ∧ after.Contains held := by
  cases cloneSlot_clones made with
  | plain slot found => exact ⟨grounded.addEvidence _, contains_addEvidence session _⟩
  | located slot found copied => exact grounded.cloneDiagnostic found copied

/-- What is made refers to what is there. -/
theorem ofMade (grounded : session.Grounded) {step : Step}
    (made : session.Made step slot held after) :
    after.Grounded ∧ after.Contains held := by
  cases made with
  | constructed made => exact grounded.construct made
  | cloned made => exact grounded.cloneSlot made

theorem step (grounded : session.Grounded) (step : Step) : (session.step step).2.Grounded := by
  obtain keeps | ⟨slot, held, after, made, same⟩ := step_cases session step
  · exact grounded.keeps keeps
  · obtain ⟨ready, contained⟩ := grounded.ofMade made
    rw [same]
    exact ready.hold slot contained

theorem run (grounded : session.Grounded) (steps : List Step) :
    (session.after steps).Grounded := by
  induction steps generalizing session with
  | nil => exact grounded
  | cons first rest ih => exact ih (grounded.step first)

end Grounded

/-- Whether steps from the beginning lead to a session. -/
def Reachable (session : Session) : Prop :=
  ∃ (limits : Limits) (colors : Bool) (steps : List Step),
    session = (start limits colors).after steps

theorem Reachable.grounded (reachable : session.Reachable) : session.Grounded := by
  obtain ⟨limits, colors, steps, rfl⟩ := reachable
  exact (start_grounded limits colors).run steps

end Session

end ParseFailure
