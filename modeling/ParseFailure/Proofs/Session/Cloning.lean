import ParseFailure.Proofs.Fault
import ParseFailure.Session.Step

/-!
What a clone is when it has been made. Whatever is put back in place is what was saved, and the
clone is raised from its cause. A deep clone is loaded from the innermost cause outwards.
-/

namespace ParseFailure

namespace Diagnostic

variable {error clone : Diagnostic} {origin : Origin}

/-- The error with another origin, raised from the cause that it has then. -/
def withOrigin (error : Diagnostic) (origin : Origin) : Diagnostic :=
  { error with
    origin := origin
    chained := origin.cause? }

/-- The arguments of an error are those it is made with, and it is raised from its cause. -/
structure WellMade (error : Diagnostic) : Prop where
  arguments : error.arguments = error.origin.arguments
  chained : error.chained = error.cause?

theorem wellMade_make (text name : Option String) (span : Span) (cause : Option Held)
    (source : Option String) : (make text name span cause source).WellMade := by
  constructor
  · cases text <;> rfl
  · rfl

theorem wellMade_ofFailure (chain : Chain) (sequences : List (List Kind)) (evidence : Nat) :
    (ofFailure chain sequences evidence).WellMade := ⟨rfl, rfl⟩

theorem WellMade.congr {changed : Diagnostic} (made : error.WellMade)
    (origin : changed.origin = error.origin) (arguments : changed.arguments = error.arguments)
    (chained : changed.chained = error.chained) : changed.WellMade where
  arguments := by rw [arguments, origin, made.arguments]
  chained := by rw [chained, made.chained, cause?, cause?, origin]

theorem WellMade.withOrigin (made : error.WellMade)
    (same : origin.arguments = error.origin.arguments) :
    (error.withOrigin origin).WellMade where
  arguments := made.arguments.trans same.symm
  chained := rfl

theorem WellMade.withOrigin_self (made : error.WellMade) :
    error.withOrigin error.origin = error := by
  rw [Diagnostic.withOrigin, ← cause?, ← made.chained]

theorem WellMade.length_arguments (made : error.WellMade) : error.arguments.length ≤ 1 := by
  rw [made.arguments]
  cases error.origin with
  | described text cause => cases text <;> simp [Origin.arguments]
  | grammar sequences e => simp [Origin.arguments]

theorem isChained_of_wellMade (made : error.WellMade) :
    error.isChained = error.cause?.isSome := by
  rw [isChained, made.chained, beq_self_eq_true, Bool.and_true]

/-- The constructor refuses more than one argument; otherwise the saved state replaces all that it
has set. -/
theorem rebuild_eq (error : Diagnostic) (origin : Origin) :
    rebuild error.arguments { error.toState with origin := origin } =
      if error.arguments.length ≤ 1 then .ok (error.withOrigin origin)
      else .error (.tooManyArguments error.arguments.length) := by
  obtain ⟨state, arguments, chained⟩ := error
  have restored : ∀ made : Diagnostic, made.chained = none → made.arguments = arguments →
      made.restore { state with origin := origin } =
        withOrigin ⟨state, arguments, chained⟩ origin := by
    intro made unchained same
    simp only [restore, withOrigin, unchained, same]
    cases origin.cause? <;> rfl
  match arguments with
  | [] => exact congrArg Except.ok (restored _ rfl rfl)
  | [text] => exact congrArg Except.ok (restored _ rfl rfl)
  | first :: second :: rest => rfl

end Diagnostic

namespace Origin

variable {origin : Origin}

/-- The position of the evidence of a failure. -/
def failure? : Origin → Option Nat
  | .described _ _ => none
  | .grammar _ e => some e

theorem arguments_withEvidence (origin : Origin) (e : Nat) :
    (origin.withEvidence e).arguments = origin.arguments := by
  cases origin with
  | grammar sequences e => rfl
  | described text cause =>
    cases cause with
    | none => rfl
    | some held => cases held <;> cases text <;> rfl

theorem arguments_withCause (origin : Origin) (id : Nat) :
    (origin.withCause id).arguments = origin.arguments := by
  cases origin with
  | grammar sequences e => rfl
  | described text cause =>
    cases cause with
    | none => rfl
    | some held => cases held <;> cases text <;> rfl

/-- What refers to evidence refers to the other evidence then, and to no located cause. -/
theorem evidence_withEvidence {e : Nat} (refers : origin.evidence? = some e) (new : Nat) :
    (origin.withEvidence new).evidence? = some new ∧
      ∀ cause, (origin.withEvidence new).cause? ≠ some (.diagnostic cause) := by
  cases origin with
  | grammar sequences e => exact ⟨rfl, nofun⟩
  | described text cause =>
    cases cause with
    | none => contradiction
    | some held =>
      cases held with
      | diagnostic id => contradiction
      | plain id => exact ⟨rfl, nofun⟩

/-- What refers to evidence without being a failure has a plain cause there. -/
theorem evidence_described {text : Option String} {cause : Option Held} {e : Nat}
    (refers : (described text cause).evidence? = some e) : cause = some (.plain e) := by
  cases cause with
  | none => contradiction
  | some held =>
    cases held with
    | diagnostic id => contradiction
    | plain id =>
      cases refers
      rfl

theorem evidence_of_plain {e : Nat} (caused : origin.cause? = some (.plain e)) :
    origin.evidence? = some e := by
  cases origin with
  | grammar sequences own => contradiction
  | described text cause =>
    cases caused
    rfl

theorem evidence_of_failure {e : Nat} (failed : origin.failure? = some e) :
    origin.evidence? = some e := by
  cases origin with
  | grammar sequences own => exact failed
  | described text cause => contradiction

theorem failure_of_located {cause : Nat} (caused : origin.cause? = some (.diagnostic cause)) :
    origin.failure? = none := by
  cases origin with
  | grammar sequences e => contradiction
  | described text cause => rfl

theorem failure_withCause (origin : Origin) (id : Nat) :
    (origin.withCause id).failure? = origin.failure? := by
  cases origin with
  | grammar sequences e => rfl
  | described text cause =>
    cases cause with
    | none => rfl
    | some held => cases held <;> rfl

theorem failure_withEvidence (origin : Origin) (e : Nat) :
    (origin.withEvidence e).failure? = origin.failure?.map fun _ => e := by
  cases origin with
  | grammar sequences e => rfl
  | described text cause =>
    cases cause with
    | none => rfl
    | some held => cases held <;> rfl

/-- What has a located cause has the other one then, and refers to no evidence. -/
theorem cause_withCause {cause : Nat} (caused : origin.cause? = some (.diagnostic cause))
    (new : Nat) :
    (origin.withCause new).cause? = some (.diagnostic new) ∧
      (origin.withCause new).evidence? = none := by
  cases origin with
  | grammar sequences e => contradiction
  | described text cause =>
    cases caused
    exact ⟨rfl, rfl⟩

theorem withCause_self {cause : Nat} (caused : origin.cause? = some (.diagnostic cause)) :
    origin.withCause cause = origin := by
  cases origin with
  | grammar sequences e => contradiction
  | described text cause =>
    cases caused
    rfl

theorem withEvidence_self {e : Nat} (refers : origin.evidence? = some e) :
    origin.withEvidence e = origin := by
  cases origin with
  | grammar sequences own =>
    cases refers
    rfl
  | described text cause =>
    cases evidence_described refers
    rfl

theorem evidence_of_located {cause : Nat} (caused : origin.cause? = some (.diagnostic cause)) :
    origin.evidence? = none := by
  cases origin with
  | grammar sequences e => contradiction
  | described text cause =>
    cases caused
    rfl

end Origin

namespace Session

variable {session after : Session} {id : Nat} {error : Diagnostic} {origin : Origin} {held : Held}
  {loaded : Nat × Session}

theorem describe_withCause (session : Session) (error : Diagnostic) (cause : Nat) :
    session.describe (error.withOrigin (error.origin.withCause cause)) =
      session.describe error := by
  cases same : error.origin with
  | grammar sequences e => simp only [describe, Diagnostic.withOrigin, same, Origin.withCause]
  | described text cause =>
    cases cause with
    | none => simp only [describe, Diagnostic.withOrigin, same, Origin.withCause]
    | some held =>
      cases held <;> cases text <;>
        simp only [describe, Diagnostic.withOrigin, same, Origin.withCause]

/-- The clone of an error is described by the clone of its evidence. -/
theorem describe_withEvidence {evidence : Evidence}
    (stored : session.evidenceOf? error = some evidence) :
    (session.addEvidence evidence).2.describe
        (error.withOrigin (error.origin.withEvidence session.evidence.length)) =
      (session.addEvidence evidence).2.describe error := by
  obtain ⟨e, refers, present⟩ := Option.bind_eq_some_iff.mp stored
  have inside := (List.getElem?_eq_some_iff.mp present).1
  cases same : error.origin with
  | grammar sequences own =>
    rw [Diagnostic.evidence?, same] at refers
    cases refers
    simp [describe, Diagnostic.withOrigin, same, Origin.withEvidence, addEvidence, present,
      List.getElem?_append_left inside]
  | described text cause =>
    cases cause with
    | none => simp only [describe, Diagnostic.withOrigin, same, Origin.withEvidence]
    | some held =>
      cases held <;> cases text <;>
        simp only [describe, Diagnostic.withOrigin, same, Origin.withEvidence]

theorem addRebuilt_eq (session : Session) (error : Diagnostic) (origin : Origin) :
    session.addRebuilt error origin =
      if error.arguments.length ≤ 1 then .ok (session.addDiagnostic (error.withOrigin origin))
      else .error (.tooManyArguments error.arguments.length) := by
  rw [addRebuilt, Diagnostic.rebuild_eq]
  split <;> rfl

theorem addRebuilt_ok (made : session.addRebuilt error origin = .ok loaded) :
    loaded = session.addDiagnostic (error.withOrigin origin) := by
  rw [addRebuilt_eq] at made
  split at made
  · exact (Except.ok.inj made).symm
  · contradiction

theorem addRebuilt_of_wellMade (session : Session) (made : error.WellMade) (origin : Origin) :
    session.addRebuilt error origin =
      .ok (session.addDiagnostic (error.withOrigin origin)) := by
  rw [addRebuilt_eq, if_pos made.length_arguments]

/-- What loading an error gives: a clone behind a clone of its located cause, or of its evidence, or
of neither where it has none in the session. -/
inductive Loads (session : Session) : Nat → Nat × Session → Prop where
  | missing {id : Nat} (absent : session.diagnostics[id]? = none) : Loads session id (id, session)
  | caused {id cause : Nat} {error : Diagnostic} {loaded : Nat × Session}
      (found : session.diagnostics[id]? = some error)
      (caused : error.cause? = some (.diagnostic cause)) (before : cause < id)
      (below : Loads session cause loaded) :
      Loads session id
        (loaded.2.addDiagnostic (error.withOrigin (error.origin.withCause loaded.1)))
  | shown {id : Nat} {error : Diagnostic} {evidence : Evidence}
      (found : session.diagnostics[id]? = some error)
      (stored : session.evidenceOf? error = some evidence) :
      Loads session id ((session.addEvidence evidence).2.addDiagnostic
        (error.withOrigin (error.origin.withEvidence session.evidence.length)))
  | alone {id : Nat} {error : Diagnostic} (found : session.diagnostics[id]? = some error)
      (unknown : ∀ cause, error.cause? = some (.diagnostic cause) → id ≤ cause)
      (absent : session.evidenceOf? error = none) :
      Loads session id (session.addDiagnostic (error.withOrigin error.origin))

theorem evidenceOf_of_located {cause : Nat} (caused : error.cause? = some (.diagnostic cause)) :
    session.evidenceOf? error = none := by
  have free : error.evidence? = none := Origin.evidence_of_located caused
  rw [evidenceOf?, free, Option.bind_none]

theorem evidenceOf_congr
    (same : ∀ e, error.evidence? = some e → after.evidence[e]? = session.evidence[e]?) :
    after.evidenceOf? error = session.evidenceOf? error := by
  unfold evidenceOf?
  cases refers : error.evidence? with
  | none => rfl
  | some e => exact same e refers

section Steps

variable (found : session.diagnostics[id]? = some error)
include found

/-- Of an error with a located cause, the cause is saved, and loaded. -/
theorem save_located {cause : Nat} (caused : error.cause? = some (.diagnostic cause))
    (before : cause < id) (level : Nat) :
    session.save level id =
      session.host.limits.descend level session.host.limits.errorLevels >>= fun below =>
        session.save below cause := by
  rw [save, found]
  simp only [caused, before, if_true]

theorem save_unlocated (unlocated : ∀ cause, error.cause? ≠ some (.diagnostic cause))
    (level : Nat) :
    session.save level id =
      session.host.limits.descend level session.host.limits.errorLevels >>= fun below =>
        match session.evidenceOf? error with
        | some evidence => evidence.save session.host.limits below
        | none => .ok () := by
  rw [save, found]
  dsimp only
  split
  · next cause caused => exact absurd caused (unlocated cause)
  · rfl

theorem load_located {cause : Nat} (caused : error.cause? = some (.diagnostic cause))
    (before : cause < id) :
    session.load id = session.load cause >>= fun loaded =>
      loaded.2.addRebuilt error (error.origin.withCause loaded.1) := by
  rw [load, found]
  simp only [caused, before, if_true]

theorem load_unlocated (unlocated : ∀ cause, error.cause? ≠ some (.diagnostic cause)) :
    session.load id =
      match session.evidenceOf? error with
      | some evidence => (session.addEvidence evidence).2.addRebuilt error
          (error.origin.withEvidence session.evidence.length)
      | none => session.addRebuilt error error.origin := by
  rw [load, found]
  dsimp only
  split
  · next cause caused => exact absurd caused (unlocated cause)
  · rfl

end Steps

theorem load_loads (made : session.load id = .ok loaded) : session.Loads id loaded := by
  -- A cause stands before the error that it belongs to, so the induction is on the position.
  induction id using Nat.strongRecOn generalizing loaded with
  | ind id ih =>
    rw [load] at made
    cases found : session.diagnostics[id]? with
    | none =>
      simp only [found] at made
      cases made
      exact .missing found
    | some error =>
      simp only [found] at made
      split at made
      · next cause caused =>
        split at made
        · next before =>
          obtain ⟨below, loads, made⟩ := bind_ok made
          rw [addRebuilt_ok made]
          exact .caused found caused before (ih cause before loads)
        · next late =>
          rw [addRebuilt_ok made]
          refine .alone found ?_ (evidenceOf_of_located caused)
          intro other caused'
          cases caused.symm.trans caused'
          exact Nat.le_of_not_lt late
      · next unlocated =>
        cases stored : session.evidenceOf? error with
        | none =>
          simp only [stored] at made
          rw [addRebuilt_ok made]
          refine .alone found ?_ stored
          intro cause caused
          exact absurd caused (unlocated cause)
        | some evidence =>
          simp only [stored] at made
          rw [addRebuilt_ok made]
          exact .shown found stored

/-- A clone is an error like its original that refers to the same, or one that has been loaded. -/
theorem cloneDiagnostic_ok {depth : Depth}
    (made : session.cloneDiagnostic depth id error = .ok loaded) :
    (depth = .shallow ∧ loaded = session.addDiagnostic (error.withOrigin error.origin)) ∨
      (depth = .deep ∧ session.Loads id loaded) := by
  cases depth with
  | shallow => exact .inl ⟨rfl, addRebuilt_ok made⟩
  | deep =>
    obtain ⟨saved, -, made⟩ := bind_ok made
    exact .inr ⟨rfl, load_loads made⟩

/-- What cloning gives: another plain error, or a clone of a located one. -/
inductive Clones (session : Session) (depth : Depth) (of : String) : Held × Session → Prop where
  | plain {id : Nat} {error : PlainError} (slot : session.slot? of = some (.plain id))
      (found : session.plain? id = some error) :
      Clones session depth of
        (.plain session.evidence.length, (session.addEvidence (.plain error)).2)
  | located {id : Nat} {error : Diagnostic} {cloned : Nat × Session}
      (slot : session.slot? of = some (.diagnostic id))
      (found : session.diagnostics[id]? = some error)
      (made : session.cloneDiagnostic depth id error = .ok cloned) :
      Clones session depth of (.diagnostic cloned.1, cloned.2)

theorem cloneSlot_clones {depth : Depth} {of : String} {result : Held × Session}
    (made : session.cloneSlot depth of = .ok result) : session.Clones depth of result := by
  unfold cloneSlot at made
  split at made
  · contradiction
  · next id slot =>
    split at made
    · contradiction
    · next error found =>
      obtain ⟨cloned, copied, made⟩ := bind_ok made
      cases made
      cases depth with
      | shallow =>
        cases copied
        exact .plain slot found
      | deep =>
        obtain ⟨saved, -, copied⟩ := bind_ok copied
        cases copied
        exact .plain slot found
  · next id slot =>
    split at made
    · contradiction
    · next error found =>
      obtain ⟨cloned, copied, made⟩ := bind_ok made
      cases made
      exact .located slot found copied

/-- A cause is looked up, or added to the evidence. -/
theorem resolveCause_cases {cause : Option CauseRef} {resolved : Option Held × Session}
    (made : session.resolveCause cause = .ok resolved) :
    resolved.2 = session ∨ ∃ error, resolved.2 = (session.addEvidence (.plain error)).2 := by
  unfold resolveCause at made
  split at made
  · cases made
    exact .inl rfl
  · cases made
    exact .inr ⟨_, rfl⟩
  · split at made
    · contradiction
    · cases made
      exact .inl rfl

theorem resolveCause_diagnostics {cause : Option CauseRef} {resolved : Option Held × Session}
    (made : session.resolveCause cause = .ok resolved) :
    resolved.2.diagnostics = session.diagnostics := by
  obtain same | ⟨error, same⟩ := resolveCause_cases made
  · rw [same]
  · rw [same]
    rfl

end Session

end ParseFailure
