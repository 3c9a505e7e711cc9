import ParseFailure.Proofs.Session.Cloning

/-!
Sessions that only grow. Making and cloning errors adds errors and evidence behind those that are
there, and leaves the process and the names alone.
-/

namespace ParseFailure

namespace Diagnostic

variable {error other : Diagnostic}

theorem cause?_congr (same : error.origin = other.origin) : error.cause? = other.cause? := by
  simp only [cause?, same]

theorem evidence?_congr (same : error.origin = other.origin) :
    error.evidence? = other.evidence? := by
  simp only [evidence?, same]

end Diagnostic

namespace Session

variable {session middle after : Session} {id : Nat} {error : Diagnostic} {held : Held}

/-- Errors and evidence have been added, and nothing else has changed. -/
structure Grows (session after : Session) : Prop where
  host : after.host = session.host
  slots : after.slots = session.slots
  evidence : session.evidence <+: after.evidence
  diagnostics : session.diagnostics <+: after.diagnostics

theorem Grows.refl (session : Session) : session.Grows session :=
  ⟨rfl, rfl, List.prefix_rfl, List.prefix_rfl⟩

theorem Grows.trans (first : session.Grows middle) (second : middle.Grows after) :
    session.Grows after where
  host := second.host.trans first.host
  slots := second.slots.trans first.slots
  evidence := first.evidence.trans second.evidence
  diagnostics := first.diagnostics.trans second.diagnostics

theorem addDiagnostic_grows (session : Session) (error : Diagnostic) :
    session.Grows (session.addDiagnostic error).2 :=
  ⟨rfl, rfl, List.prefix_rfl, List.prefix_append _ _⟩

theorem addDiagnostic_cases {other : Diagnostic}
    (found : (session.addDiagnostic error).2.diagnostics[id]? = some other) :
    session.diagnostics[id]? = some other ∨ (id = session.diagnostics.length ∧ other = error) := by
  simp only [addDiagnostic, List.getElem?_append] at found
  split at found
  · exact .inl found
  · obtain ⟨inside, same⟩ := List.getElem?_eq_some_iff.mp found
    simp only [List.length_singleton] at inside
    simp only [List.getElem_singleton] at same
    exact .inr ⟨by omega, same.symm⟩

theorem addEvidence_grows (session : Session) (evidence : Evidence) :
    session.Grows (session.addEvidence evidence).2 :=
  ⟨rfl, rfl, List.prefix_append _ _, List.prefix_rfl⟩

theorem addDiagnostic_found (session : Session) (error : Diagnostic) :
    (session.addDiagnostic error).2.diagnostics[(session.addDiagnostic error).1]? = some error := by
  simp [addDiagnostic]

theorem addEvidence_stored (session : Session) (evidence : Evidence) :
    (session.addEvidence evidence).2.evidence[(session.addEvidence evidence).1]? =
      some evidence := by
  simp [addEvidence]

theorem Grows.found (grows : session.Grows after) (found : session.diagnostics[id]? = some error) :
    after.diagnostics[id]? = some error := by
  obtain ⟨added, same⟩ := grows.diagnostics
  rw [← same, List.getElem?_append_left (List.getElem?_eq_some_iff.mp found).1, found]

theorem Grows.stored (grows : session.Grows after) {e : Nat} {evidence : Evidence}
    (stored : session.evidence[e]? = some evidence) : after.evidence[e]? = some evidence := by
  obtain ⟨added, same⟩ := grows.evidence
  rw [← same, List.getElem?_append_left (List.getElem?_eq_some_iff.mp stored).1, stored]

theorem slot?_hold (session : Session) (name : String) (held : Held) (other : String) :
    (session.hold name held).slot? other =
      if other = name then some held else session.slot? other := by
  simp only [slot?, hold, List.lookup_cons]
  by_cases same : other = name
  · simp [same]
  · rw [if_neg same, beq_eq_false_iff_ne.mpr same]

theorem Loads.grows {loaded : Nat × Session} (loads : session.Loads id loaded) :
    session.Grows loaded.2 := by
  induction loads with
  | missing absent => exact .refl session
  | caused found caused before below ih => exact ih.trans (addDiagnostic_grows _ _)
  | shown found stored => exact (addEvidence_grows _ _).trans (addDiagnostic_grows _ _)
  | alone found unknown absent => exact addDiagnostic_grows _ _

theorem resolveCause_grows {cause : Option CauseRef} {resolved : Option Held × Session}
    (made : session.resolveCause cause = .ok resolved) : session.Grows resolved.2 := by
  obtain same | ⟨error, same⟩ := resolveCause_cases made
  · rw [same]
    exact .refl session
  · rw [same]
    exact addEvidence_grows _ _

theorem construct_grows {construction : Construction}
    (made : session.construct construction = .ok (held, after)) : session.Grows after := by
  cases construction with
  | plain error =>
    cases made
    exact addEvidence_grows _ _
  | described text name span cause source =>
    obtain ⟨resolved, found, made⟩ := bind_ok made
    cases made
    exact (resolveCause_grows found).trans (addDiagnostic_grows _ _)
  | failure chain expected names =>
    obtain ⟨sequences, -, made⟩ := bind_ok made
    cases made
    exact (addEvidence_grows _ _).trans (addDiagnostic_grows _ _)

theorem cloneDiagnostic_grows {depth : Depth} {cloned : Nat × Session}
    (made : session.cloneDiagnostic depth id error = .ok cloned) : session.Grows cloned.2 := by
  obtain ⟨-, rfl⟩ | ⟨-, loads⟩ := cloneDiagnostic_ok made
  · exact addDiagnostic_grows _ _
  · exact loads.grows

theorem cloneSlot_grows {depth : Depth} {of : String}
    (made : session.cloneSlot depth of = .ok (held, after)) : session.Grows after := by
  cases cloneSlot_clones made with
  | plain slot found => exact addEvidence_grows _ _
  | located slot found copied => exact cloneDiagnostic_grows copied

/-- What a step that holds something new makes of a session: nothing, or a grown session with one
more name. -/
theorem holdNew_cases (session : Session) (slot : String) (made : Except Fault (Held × Session)) :
    (∃ fault, made = .error fault ∧ session.holdNew slot made = (.error fault, session)) ∨
      ∃ held after, made = .ok (held, after) ∧
        session.holdNew slot made = (.ok (), after.hold slot held) := by
  cases made with
  | error fault => exact .inl ⟨fault, rfl, rfl⟩
  | ok result => exact .inr ⟨result.1, result.2, rfl, rfl⟩

theorem holdNew_host (session : Session) (slot : String) {made : Except Fault (Held × Session)}
    (grows : ∀ held after, made = .ok (held, after) → session.Grows after) :
    (session.holdNew slot made).2.host = session.host := by
  obtain ⟨fault, -, same⟩ | ⟨held, after, ok, same⟩ := holdNew_cases session slot made
  · rw [same]
  · rw [same]
    exact (grows held after ok).host

end Session

end ParseFailure
