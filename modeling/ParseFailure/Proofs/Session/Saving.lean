import ParseFailure.Proofs.Session.Grounded

/-!
What can be saved. An error is saved with its located causes, one below the other, and at the bottom
with what the innermost of them refers to; each of these takes some levels, tokens one after
another.
-/

namespace ParseFailure

variable {limits : Limits} {level levels below : Nat}

theorem Limits.descend_ok :
    limits.descend level levels = .ok below ↔
      level + levels ≤ limits.nesting ∧ below = level + levels := by
  unfold descend
  split
  · next fits => simp [fits, eq_comm]
  · next deep => simp [deep]

theorem NameTable.save_ok {names : NameTable} :
    names.save = .ok () ↔ ∀ entries, names ≠ .view entries := by
  cases names <;> simp [save]

/-- From a level on, all tokens of a failure can be saved one below the other, and its table can be
saved; and a cause can be saved itself. -/
def Evidence.Savable (evidence : Evidence) (limits : Limits) (level : Nat) : Prop :=
  match evidence with
  | .failed failure =>
    level + failure.chain.linked * limits.tokenLevels ≤ limits.nesting ∧
      ∀ entries, failure.names ≠ .view entries
  | .plain error => level + limits.errorLevels ≤ limits.nesting ∧ error.unsaved = none

theorem Evidence.save_ok {evidence : Evidence} :
    evidence.save limits level = .ok () ↔ evidence.Savable limits level := by
  cases evidence with
  | failed failure =>
    rw [save, bind_ok_iff]
    simp only [Limits.descend_ok, NameTable.save_ok]
    constructor
    · rintro ⟨below, ⟨fits, -⟩, saved⟩
      exact ⟨fits, saved⟩
    · rintro ⟨fits, saved⟩
      exact ⟨_, ⟨fits, rfl⟩, saved⟩
  | plain error =>
    rw [save, bind_ok_iff]
    simp only [Limits.descend_ok, PlainError.save]
    constructor
    · rintro ⟨below, ⟨fits, -⟩, saved⟩
      refine ⟨fits, ?_⟩
      split at saved
      · contradiction
      · assumption
    · rintro ⟨fits, saved⟩
      refine ⟨_, ⟨fits, rfl⟩, ?_⟩
      rw [saved]

theorem Diagnostic.located_or_unlocated (error : Diagnostic) :
    (∃ cause, error.cause? = some (.diagnostic cause)) ∨
      ∀ cause, error.cause? ≠ some (.diagnostic cause) := by
  by_cases located : ∃ cause, error.cause? = some (.diagnostic cause)
  · exact .inl located
  · exact .inr fun cause caused => located ⟨cause, caused⟩

namespace Session

variable {session : Session} {id cause count : Nat} {error inner : Diagnostic}

/-- From an error through located causes to the innermost of them, and how many errors that are. -/
inductive Innermost (session : Session) : Nat → Nat → Diagnostic → Prop where
  | own {id : Nat} {error : Diagnostic} (found : session.diagnostics[id]? = some error)
      (unlocated : ∀ cause, error.cause? ≠ some (.diagnostic cause)) :
      Innermost session id 1 error
  | caused {id cause count : Nat} {error inner : Diagnostic}
      (found : session.diagnostics[id]? = some error)
      (caused : error.cause? = some (.diagnostic cause))
      (innermost : Innermost session cause count inner) :
      Innermost session id (count + 1) inner

/-- From a level on, an error and its located causes can be saved one below the other, and so can
what the innermost of them refers to. -/
def SavableFrom (session : Session) (level id : Nat) : Prop :=
  ∃ count inner, session.Innermost id count inner ∧
    level + count * session.host.limits.errorLevels ≤ session.host.limits.nesting ∧
    ∀ evidence, session.evidenceOf? inner = some evidence →
      evidence.Savable session.host.limits (level + count * session.host.limits.errorLevels)

theorem savableFrom_unlocated (found : session.diagnostics[id]? = some error)
    (unlocated : ∀ cause, error.cause? ≠ some (.diagnostic cause)) (level : Nat) :
    session.SavableFrom level id ↔
      level + session.host.limits.errorLevels ≤ session.host.limits.nesting ∧
        ∀ evidence, session.evidenceOf? error = some evidence →
          evidence.Savable session.host.limits (level + session.host.limits.errorLevels) := by
  constructor
  · rintro ⟨count, inner, innermost, fits, saved⟩
    cases innermost with
    | own here =>
      cases Option.some.inj (found.symm.trans here)
      rw [Nat.one_mul] at fits saved
      exact ⟨fits, saved⟩
    | caused here caused =>
      cases Option.some.inj (found.symm.trans here)
      exact absurd caused (unlocated _)
  · rintro ⟨fits, saved⟩
    refine ⟨1, error, .own found unlocated, ?_⟩
    rw [Nat.one_mul]
    exact ⟨fits, saved⟩

theorem savableFrom_located (found : session.diagnostics[id]? = some error)
    (caused : error.cause? = some (.diagnostic cause)) (level : Nat) :
    session.SavableFrom level id ↔
      session.SavableFrom (level + session.host.limits.errorLevels) cause := by
  have deeper : ∀ count, level + (count + 1) * session.host.limits.errorLevels =
      level + session.host.limits.errorLevels + count * session.host.limits.errorLevels := by
    intro count
    rw [Nat.succ_mul]
    omega
  constructor
  · rintro ⟨count, inner, innermost, rest⟩
    cases innermost with
    | own here unlocated =>
      cases Option.some.inj (found.symm.trans here)
      exact absurd caused (unlocated cause)
    | caused here own innermost =>
      cases Option.some.inj (found.symm.trans here)
      cases caused.symm.trans own
      rw [deeper] at rest
      exact ⟨_, inner, innermost, rest⟩
  · rintro ⟨count, inner, innermost, rest⟩
    rw [← deeper] at rest
    exact ⟨_, inner, .caused found caused innermost, rest⟩

theorem SavableFrom.fits (savable : session.SavableFrom level id) :
    level ≤ session.host.limits.nesting := by
  obtain ⟨count, inner, -, fits, -⟩ := savable
  omega

theorem Grounded.save_ok (grounded : session.Grounded)
    (found : session.diagnostics[id]? = some error) :
    session.save level id = .ok () ↔ session.SavableFrom level id := by
  induction id using Nat.strongRecOn generalizing level error with
  | ind id ih =>
    rcases error.located_or_unlocated with ⟨cause, caused⟩ | unlocated
    · have before := grounded.causes id error cause found caused
      obtain ⟨other, present⟩ := grounded.cause_found found caused
      rw [save_located found caused before, savableFrom_located found caused, bind_ok_iff]
      constructor
      · rintro ⟨below, descends, saved⟩
        obtain ⟨-, rfl⟩ := Limits.descend_ok.mp descends
        exact (ih cause before present).mp saved
      · intro savable
        exact ⟨_, Limits.descend_ok.mpr ⟨savable.fits, rfl⟩, (ih cause before present).mpr savable⟩
    · rw [save_unlocated found unlocated, savableFrom_unlocated found unlocated, bind_ok_iff]
      constructor
      · rintro ⟨below, descends, saved⟩
        obtain ⟨fits, rfl⟩ := Limits.descend_ok.mp descends
        refine ⟨fits, ?_⟩
        intro evidence stored
        rw [stored] at saved
        exact Evidence.save_ok.mp saved
      · rintro ⟨fits, saved⟩
        refine ⟨_, Limits.descend_ok.mpr ⟨fits, rfl⟩, ?_⟩
        cases stored : session.evidenceOf? error with
        | none => rfl
        | some evidence => exact Evidence.save_ok.mpr (saved evidence stored)

def Savable (session : Session) (id : Nat) : Prop := session.SavableFrom 0 id

/-- A shallow clone can always be made, and a deep one of what can be saved. -/
theorem Grounded.cloneDiagnostic_ok_iff (grounded : session.Grounded)
    (found : session.diagnostics[id]? = some error) (depth : Depth) :
    (∃ cloned, session.cloneDiagnostic depth id error = .ok cloned) ↔
      (depth = .deep → session.Savable id) := by
  cases depth with
  | shallow =>
    have made := addRebuilt_of_wellMade session (grounded.made id error found) error.origin
    simp [Session.cloneDiagnostic, cloneShallow, made]
  | deep =>
    obtain ⟨loaded, loads⟩ := grounded.load_ok id
    rw [Session.cloneDiagnostic, cloneDeep, loads]
    constructor
    · rintro ⟨cloned, made⟩ -
      obtain ⟨⟨⟩, saved, -⟩ := bind_ok made
      exact (grounded.save_ok found).mp saved
    · intro savable
      rw [(grounded.save_ok found).mpr (savable rfl)]
      exact ⟨loaded, rfl⟩

theorem Grounded.clone_step_ok_iff (grounded : session.Grounded)
    (found : session.diagnostics[id]? = some error) {of : String}
    (held : session.slot? of = some (.diagnostic id)) (depth : Depth) (slot : String) :
    (session.step (.clone depth of slot)).1.result = .ok .nothing ↔
      (depth = .deep → session.Savable id) := by
  rw [← grounded.cloneDiagnostic_ok_iff found depth, Session.step, perform_clone held found]
  cases session.cloneDiagnostic depth id error with
  | error fault => simp
  | ok cloned => simp

theorem save_of_evidence {after : Session} (found : session.diagnostics[id]? = some error)
    (found' : after.diagnostics[id]? = some error)
    (unlocated : ∀ cause, error.cause? ≠ some (.diagnostic cause))
    (limits : after.host.limits = session.host.limits)
    (shown : after.evidenceOf? error = session.evidenceOf? error) (level : Nat) :
    after.save level id = session.save level id := by
  rw [save_unlocated found' unlocated, save_unlocated found unlocated, limits, shown]

theorem save_of_same {after : Session} (limits : after.host.limits = session.host.limits)
    (errors : after.diagnostics = session.diagnostics)
    (evidence : after.evidence = session.evidence) (level id : Nat) :
    after.save level id = session.save level id := by
  induction id using Nat.strongRecOn generalizing level with
  | ind id ih =>
    have shown : ∀ error, after.evidenceOf? error = session.evidenceOf? error := fun _ => by
      rw [evidenceOf?, evidenceOf?, evidence]
    rw [save, save, errors, limits]
    cases session.diagnostics[id]? with
    | none => rfl
    | some error =>
      dsimp only
      rw [shown]
      refine congrArg _ (funext fun below => ?_)
      split
      · split
        · next before => exact ih _ before below
        · rfl
      · rfl

/-- An error and its located causes, one below the other. -/
inductive Beneath (session : Session) : Nat → Nat → Prop where
  | own {id : Nat} : Beneath session id id
  | caused {id cause below : Nat} {error : Diagnostic}
      (found : session.diagnostics[id]? = some error)
      (caused : error.cause? = some (.diagnostic cause)) (beneath : Beneath session cause below) :
      Beneath session id below

theorem Grounded.beneath_found (grounded : session.Grounded) {below : Nat}
    (beneath : session.Beneath id below) (found : session.diagnostics[id]? = some error) :
    below ≤ id ∧ ∃ inner, session.diagnostics[below]? = some inner := by
  induction beneath generalizing error with
  | own => exact ⟨Nat.le_refl _, error, found⟩
  | caused here caused beneath ih =>
    obtain ⟨cause, present⟩ := grounded.cause_found here caused
    obtain ⟨less, inner, there⟩ := ih present
    exact ⟨Nat.le_trans less (Nat.le_of_lt (grounded.causes _ _ _ here caused)), inner, there⟩

/-- Saving an error depends on it and on its located causes, and on what these refer to. -/
theorem Grounded.save_congr (grounded : session.Grounded) {after : Session}
    (limits : after.host.limits = session.host.limits)
    (found : session.diagnostics[id]? = some error)
    (alike : ∀ below inner, session.Beneath id below → session.diagnostics[below]? = some inner →
      ∃ later, after.diagnostics[below]? = some later ∧ later.origin = inner.origin ∧
        after.evidenceOf? inner = session.evidenceOf? inner) (level : Nat) :
    after.save level id = session.save level id := by
  induction id using Nat.strongRecOn generalizing level error with
  | ind id ih =>
    obtain ⟨later, present, origin, shown⟩ := alike id error .own found
    have sameCause := Diagnostic.cause?_congr origin
    rcases error.located_or_unlocated with ⟨cause, caused⟩ | unlocated
    · have before := grounded.causes id error cause found caused
      obtain ⟨other, there⟩ := grounded.cause_found found caused
      rw [save_located found caused before, save_located present (sameCause.trans caused) before,
        limits]
      refine congrArg _ (funext fun below => ih cause before there ?_ below)
      intro deeper inner beneath
      exact alike deeper inner (.caused found caused beneath)
    · have shown : after.evidenceOf? later = session.evidenceOf? error := by
        rw [← shown, evidenceOf?, evidenceOf?, Diagnostic.evidence?_congr origin]
      rw [save_unlocated found unlocated, save_unlocated present (sameCause ▸ unlocated), limits,
        shown]

theorem Grounded.evidenceOf_grows (grounded : session.Grounded) {after : Session}
    (found : session.diagnostics[id]? = some error) (grows : session.Grows after) :
    after.evidenceOf? error = session.evidenceOf? error := by
  apply evidenceOf_congr
  intro e refers
  obtain ⟨evidence, stored⟩ := grounded.stored found refers
  rw [stored, grows.stored stored]

theorem Grounded.save_grows (grounded : session.Grounded) {after : Session}
    (grows : session.Grows after) (found : session.diagnostics[id]? = some error) (level : Nat) :
    after.save level id = session.save level id := by
  refine grounded.save_congr (congrArg Host.limits grows.host) found ?_ level
  intro below inner _ there
  exact ⟨inner, grows.found there, rfl, grounded.evidenceOf_grows there grows⟩

/-- Edits change nothing about saving if they are of other evidence. -/
theorem Grounded.save_keeps (grounded : session.Grounded) {after : Session} {edited : Nat → Prop}
    (keeps : Keeps edited session after) (limits : after.host.limits = session.host.limits)
    (found : session.diagnostics[id]? = some error)
    (spared : ∀ below inner e, session.Beneath id below →
      session.diagnostics[below]? = some inner → inner.evidence? = some e → ¬ edited e)
    (level : Nat) : after.save level id = session.save level id := by
  refine grounded.save_congr limits found ?_ level
  intro below inner beneath there
  obtain ⟨later, present, fixed⟩ : ∃ later, after.diagnostics[below]? = some later ∧
      later.fixed = inner.fixed := by
    have same := keeps.fixed_eq below
    rwa [there, Option.map_some, Option.map_eq_some_iff] at same
  refine ⟨later, present, (Diagnostic.fixed_eq_iff.mp fixed).1, ?_⟩
  exact evidenceOf_congr fun e refers =>
    keeps.evidence e (spared below inner e beneath there refers)

end Session

end ParseFailure
