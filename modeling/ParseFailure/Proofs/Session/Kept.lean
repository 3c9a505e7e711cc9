import ParseFailure.Proofs.Session.Move

/-!
What the texts that an error keeps are worth. For an error without evidence, and for every error as
long as the evidence is left alone, they are the texts that would be made anew for the present name;
and if the mode is never forgotten while some error keeps texts, they are made in the mode that the
process has decided.
-/

namespace ParseFailure.Session

variable {step : Step} {before after session : Session} {error : Diagnostic}
  {settled untouched : Prop}

/-- The texts that an error keeps are those of its present name in some mode. With `settled`, that
mode is the decided one. -/
def Faithful (settled : Prop) (session : Session) (error : Diagnostic) : Prop :=
  ∀ texts, error.cell.rendered = some texts →
    ∃ mode, (settled → session.host.decided = some mode) ∧
      error.render session.host.limits mode error.cell.name (session.describe error) = .ok texts

/-- The evidence of every error exists, and errors without evidence, or with `untouched` all errors,
keep texts as they would be made anew. -/
structure Sound (settled untouched : Prop) (session : Session) : Prop where
  grounded : ∀ error ∈ session.diagnostics, ∀ e, error.origin.failure? = some e →
    session.HasFailure e
  faithful : ∀ error ∈ session.diagnostics, untouched ∨ error.origin.failure? = none →
    session.Faithful settled error

def NothingKept (session : Session) : Prop :=
  ∀ error ∈ session.diagnostics, error.cell.rendered = none

theorem start_sound (settled untouched : Prop) (limits : Limits) (colors : Bool) :
    (start limits colors).Sound settled untouched where
  grounded := by simp [start]
  faithful := by simp [start]

theorem decided_settle {host : Host} {mode : Bool} (decided : host.decided = some mode) :
    host.settle.decided = some mode := by
  simp [Host.settle, Host.tooling, decided]

theorem settle_of_decided {host : Host} {mode : Bool} (decided : host.decided = some mode) :
    host.settle = host := by
  cases host
  simp_all [Host.settle, Host.tooling]

theorem describe_addEvidence (evidence : Evidence)
    (grounded : ∀ e, error.origin.failure? = some e → session.HasFailure e) :
    (session.addEvidence evidence).2.describe error = session.describe error := by
  unfold describe
  cases origin : error.origin with
  | described text cause => cases text <;> rfl
  | grammar sequences e =>
    have inside := (grounded e (by simp [Origin.failure?, origin])).lt
    simp only [addEvidence, List.getElem?_append_left inside]

theorem describe_free (free : error.origin.failure? = none) (session other : Session) :
    session.describe error = other.describe error := by
  unfold describe
  cases origin : error.origin with
  | described text cause => cases text <;> rfl
  | grammar sequences e => simp [Origin.failure?, origin] at free

theorem describe_setHost {host : Host} (same : host.limits = session.host.limits) :
    (session.setHost host).describe error = session.describe error := by
  simp only [describe, setHost, same]

theorem Sound.setHost (sound : session.Sound settled untouched) (host : Host)
    (same : host.limits = session.host.limits)
    (decided : settled → ∀ mode, session.host.decided = some mode → host.decided = some mode) :
    (session.setHost host).Sound settled untouched where
  grounded := sound.grounded
  faithful error held safe texts kept := by
    obtain ⟨mode, agreed, made⟩ := sound.faithful error held safe texts kept
    refine ⟨mode, fun asked => decided asked mode (agreed asked), ?_⟩
    rw [describe_setHost same, ← made]
    exact congrArg (error.render · mode error.cell.name (session.describe error)) same

/-- Where nothing is kept, the mode may also be forgotten. -/
theorem Sound.forget (sound : session.Sound settled untouched) (nothing : session.NothingKept) :
    (session.setHost session.host.forget).Sound settled untouched where
  grounded := sound.grounded
  faithful error held _ texts kept := by
    have none := nothing error held
    rw [kept] at none
    contradiction

theorem Sound.addEvidence (sound : session.Sound settled untouched) (evidence : Evidence) :
    (session.addEvidence evidence).2.Sound settled untouched where
  grounded error held e same :=
    (sound.grounded error held e same).grows (addEvidence_grows session evidence)
  faithful error held safe texts kept := by
    rw [describe_addEvidence evidence (sound.grounded error held)]
    exact sound.faithful error held safe texts kept

/-- Changed evidence leaves alone what errors without evidence keep. -/
theorem Sound.setEvidence (sound : session.Sound settled untouched) {id : Nat}
    {evidence changed : Evidence} (stored : session.evidence[id]? = some evidence)
    (sort : changed.isFailed = evidence.isFailed) (touched : ¬ untouched) :
    (session.setEvidence id changed).Sound settled untouched where
  grounded error held e same := (sound.grounded error held e same).setEvidence stored sort
  faithful error held safe texts kept := by
    have free := safe.resolve_left touched
    rw [describe_free free _ session]
    exact sound.faithful error held safe texts kept

theorem Sound.addDiagnostic (sound : session.Sound settled untouched)
    (grounded : ∀ e, error.origin.failure? = some e → session.HasFailure e)
    (faithful : untouched ∨ error.origin.failure? = none → session.Faithful settled error) :
    (session.addDiagnostic error).2.Sound settled untouched where
  grounded other held := by
    rcases List.mem_append.mp held with old | new
    · exact sound.grounded other old
    · cases List.mem_singleton.mp new
      exact grounded
  faithful other held := by
    rcases List.mem_append.mp held with old | new
    · exact sound.faithful other old
    · cases List.mem_singleton.mp new
      exact faithful

theorem Sound.setDiagnostic (sound : session.Sound settled untouched) (id : Nat)
    (changed : Diagnostic) (held : error ∈ session.diagnostics)
    (origin : changed.origin = error.origin)
    (faithful : untouched ∨ error.origin.failure? = none → session.Faithful settled changed) :
    (session.setDiagnostic id changed).Sound settled untouched := by
  have same := congrArg Origin.failure? origin
  constructor
  · intro other present
    rcases List.mem_or_eq_of_mem_set present with old | rfl
    · exact sound.grounded other old
    · exact fun e found => sound.grounded error held e (same.symm.trans found)
  · intro other present safe
    rcases List.mem_or_eq_of_mem_set present with old | rfl
    · exact sound.faithful other old safe
    · exact faithful (same ▸ safe)

/-- With `settled`, a move that forgets the mode may not find texts made in it; with `untouched`, no
move may edit evidence. -/
theorem Move.sound (move : Move step before after) (intact : untouched → step.editsEvidence = false)
    (forgets : step = .forgetTooling → settled → before.NothingKept)
    (sound : before.Sound settled untouched) : after.Sound settled untouched := by
  cases move with
  | surround host same limits =>
    exact sound.setHost host limits fun _ _ decided => same.trans decided
  | settle => exact sound.setHost _ rfl fun _ _ => decided_settle
  | forget asked =>
    by_cases agreed : settled
    · exact sound.forget (forgets asked agreed)
    · exact sound.setHost _ rfl fun yes => absurd yes agreed
  | hold name held => exact ⟨sound.grounded, sound.faithful⟩
  | addEvidence evidence => exact sound.addEvidence evidence
  | add error fresh grounded =>
    refine sound.addDiagnostic grounded fun _ texts kept => ?_
    rw [fresh] at kept
    contradiction
  | copy error origin held alike same free =>
    refine sound.addDiagnostic (fun e refers => ?_) fun safe texts kept => ?_
    · obtain ⟨own, failed, stored⟩ := same e refers
      obtain ⟨failure, present⟩ := sound.grounded error held own failed
      exact ⟨failure, stored.trans present⟩
    · obtain ⟨mode, agreed, made⟩ := sound.faithful error held (safe.imp_right free) texts kept
      refine ⟨mode, agreed, ?_⟩
      rw [← made, ← alike]
      rfl
  | keep id error found empty =>
    -- The mode is settled first: the texts are sound only in the process that has decided it.
    have ready := sound.setHost before.host.settle rfl fun _ _ => decided_settle
    refine ready.setDiagnostic id _ (List.mem_of_getElem? found) rfl fun _ texts kept => ?_
    have made := toOption_eq_some.mp kept
    rw [texts_of_empty empty] at made
    exact ⟨before.host.tooling, fun _ => rfl, made⟩
  | rename id error name found asked =>
    exact sound.setDiagnostic id _ (List.mem_of_getElem? found) rfl fun _ _ kept => nomatch kept
  | setSource id error source found =>
    have held := List.mem_of_getElem? found
    exact sound.setDiagnostic id _ held rfl (sound.faithful error held)
  | edit id evidence changed asked stored sort =>
    exact sound.setEvidence stored sort fun yes => by simp [intact yes] at asked

theorem Moves.sound (moves : Moves step before after)
    (intact : untouched → step.editsEvidence = false) (remembers : step ≠ .forgetTooling)
    (sound : before.Sound settled untouched) : after.Sound settled untouched := by
  induction moves with
  | refl => exact sound
  | tail _ move ih => exact move.sound intact (fun forgets => absurd forgets remembers) ih

/-- Sessions stay sound over every step that, with `untouched`, leaves the evidence alone and, with
`settled`, forgets the mode only while no error keeps texts. -/
theorem perform_sound (sound : session.Sound settled untouched)
    (intact : untouched → step.editsEvidence = false)
    (forgets : step = .forgetTooling → settled → session.NothingKept) :
    (session.perform step).2.Sound settled untouched := by
  by_cases remembers : step = .forgetTooling
  · subst remembers
    exact (Move.forget session rfl).sound intact forgets sound
  · exact Moves.sound (perform_moves session step) intact remembers sound

theorem Sound.textsInFull_description (sound : session.Sound settled untouched)
    (held : error ∈ session.diagnostics) (safe : untouched ∨ error.origin.failure? = none) :
    (session.textsInFull error).description = session.describe error := by
  unfold textsInFull
  cases kept : error.cell.rendered with
  | none => rfl
  | some texts =>
    obtain ⟨mode, -, made⟩ := sound.faithful error held safe texts kept
    rw [Option.getD_some, Diagnostic.render_ok made]
    rfl

/-- Where the mode of kept texts is the decided one, reading is making anew. -/
theorem Sound.read_texts (sound : session.Sound True True) (held : error ∈ session.diagnostics)
    (id : Nat) : (session.read id error).1 = session.render error := by
  rw [read_fst]
  cases kept : error.cell.rendered with
  | none => exact texts_of_empty kept
  | some texts =>
    obtain ⟨mode, agreed, made⟩ := sound.faithful error held (.inl trivial) texts kept
    have tooling : session.host.tooling = mode := by simp [Host.tooling, agreed trivial]
    rw [texts_of_kept kept, render, tooling, made]

/-- The mode is forgotten only while no error keeps texts, as it is before the first read. -/
def ForgetsUnkept (session : Session) : List Step → Prop
  | [] => True
  | first :: rest =>
    (first = .forgetTooling → session.NothingKept) ∧ (session.step first).2.ForgetsUnkept rest

theorem after_append (session : Session) (early late : List Step) :
    session.after (early ++ late) = (session.after early).after late := by
  induction early generalizing session with
  | nil => rfl
  | cons first rest ih => exact ih (session.step first).2

theorem forgetsUnkept_append (session : Session) (early late : List Step) :
    session.ForgetsUnkept (early ++ late) ↔
      session.ForgetsUnkept early ∧ (session.after early).ForgetsUnkept late := by
  induction early generalizing session with
  | nil => simp only [List.nil_append, ForgetsUnkept, after, true_and]
  | cons first rest ih =>
    simp only [List.cons_append, ForgetsUnkept, after, ih, and_assoc]

theorem after_sound (sound : session.Sound settled untouched) (steps : List Step)
    (intact : untouched → ∀ step ∈ steps, step.editsEvidence = false)
    (forgets : settled → session.ForgetsUnkept steps) :
    (session.after steps).Sound settled untouched := by
  induction steps generalizing session with
  | nil => exact sound
  | cons first rest ih =>
    have next := perform_sound sound (fun yes => intact yes first List.mem_cons_self)
      fun forgetful yes => (forgets yes).1 forgetful
    exact ih next (fun yes step member => intact yes step (List.mem_cons_of_mem _ member))
      fun yes => (forgets yes).2

end ParseFailure.Session
