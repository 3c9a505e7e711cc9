import ParseFailure.Proofs.Session.Move

/-!
Errors that a step adds to a session. A new error keeps no texts; a clone keeps what its original
keeps, under the same name; and the errors that were there stay where they are.
-/

namespace ParseFailure.Session

variable {session middle after : Session} {id : Nat} {error : Diagnostic}

/-- Errors of some sort have been added, and the others are where they were. -/
def Adds (session after : Session) (sort : Diagnostic → Prop) : Prop :=
  ∃ added, after.diagnostics = session.diagnostics ++ added ∧ ∀ error ∈ added, sort error

variable {sort : Diagnostic → Prop} {held : Held}

theorem adds_nothing (sort : Diagnostic → Prop) (same : after.diagnostics = session.diagnostics) :
    session.Adds after sort :=
  ⟨[], by rw [same, List.append_nil], fun _ member => absurd member List.not_mem_nil⟩

theorem adds_one (sorted : sort error) : session.Adds (session.addDiagnostic error).2 sort :=
  ⟨[error], rfl, by simpa using sorted⟩

theorem Adds.one (adds : session.Adds middle sort) (sorted : sort error) :
    session.Adds (middle.addDiagnostic error).2 sort := by
  obtain ⟨added, grown, all⟩ := adds
  refine ⟨added ++ [error], by simp [addDiagnostic, grown], fun new member => ?_⟩
  rcases List.mem_append.mp member with old | last
  · exact all new old
  · exact List.mem_singleton.mp last ▸ sorted

theorem Adds.found (adds : session.Adds after sort)
    (found : session.diagnostics[id]? = some error) :
    after.diagnostics[id]? = some error := by
  obtain ⟨added, grown, -⟩ := adds
  rw [grown, List.getElem?_append_left (List.getElem?_eq_some_iff.mp found).1, found]

theorem Adds.new (adds : session.Adds after sort) (fresh : session.diagnostics[id]? = none)
    (found : after.diagnostics[id]? = some error) : sort error := by
  obtain ⟨added, grown, all⟩ := adds
  rw [grown, List.getElem?_append_right (List.getElem?_eq_none_iff.mp fresh)] at found
  exact all error (List.mem_of_getElem? found)

theorem construct_adds {construction : Construction}
    (made : session.construct construction = .ok (held, after)) :
    session.Adds after fun error => error.cell.rendered = none := by
  cases construction with
  | plain error =>
    cases made
    exact adds_nothing _ rfl
  | described text name span cause source =>
    obtain ⟨resolved, looked, made⟩ := bind_ok made
    cases made
    exact (adds_nothing _ (resolveCause_diagnostics looked)).one rfl
  | failure chain expected names =>
    obtain ⟨sequences, -, made⟩ := bind_ok made
    cases made
    exact adds_one rfl

/-- An error that keeps what an error of the session keeps, under the same name. -/
def ClonedFrom (session : Session) (clone : Diagnostic) : Prop :=
  ∃ original ∈ session.diagnostics, clone.cell = original.cell

theorem Loads.adds {loaded : Nat × Session} (loads : session.Loads id loaded) :
    session.Adds loaded.2 session.ClonedFrom := by
  induction loads with
  | missing absent => exact adds_nothing _ rfl
  | @caused id cause error loaded found caused before below ih =>
    exact ih.one ⟨error, List.mem_of_getElem? found, rfl⟩
  | @shown id error evidence found stored =>
    exact adds_one ⟨error, List.mem_of_getElem? found, rfl⟩
  | @alone id error found unknown absent =>
    exact adds_one ⟨error, List.mem_of_getElem? found, rfl⟩

theorem fresh_addDiagnostic {middle : Session} (grows : session.Grows middle) (clone : Diagnostic) :
    session.diagnostics[(middle.addDiagnostic clone).1]? = none :=
  List.getElem?_eq_none grows.diagnostics.length_le

/-- A clone is a new error, like its original but for what it refers to. -/
theorem Loads.found {loaded : Nat × Session} (loads : session.Loads id loaded)
    (found : session.diagnostics[id]? = some error) :
    session.diagnostics[loaded.1]? = none ∧
      ∃ origin, loaded.2.diagnostics[loaded.1]? = some (error.withOrigin origin) := by
  cases loads with
  | missing absent =>
    rw [found] at absent
    contradiction
  | caused here caused before below =>
    cases Option.some.inj (found.symm.trans here)
    exact ⟨fresh_addDiagnostic below.grows _, _, addDiagnostic_found _ _⟩
  | shown here stored =>
    cases Option.some.inj (found.symm.trans here)
    exact ⟨fresh_addDiagnostic (addEvidence_grows _ _) _, _, addDiagnostic_found _ _⟩
  | alone here unknown absent =>
    cases Option.some.inj (found.symm.trans here)
    exact ⟨fresh_addDiagnostic (.refl session) _, _, addDiagnostic_found _ _⟩

theorem cloneDiagnostic_found {depth : Depth} {cloned : Nat × Session}
    (found : session.diagnostics[id]? = some error)
    (made : session.cloneDiagnostic depth id error = .ok cloned) :
    session.diagnostics[cloned.1]? = none ∧
      ∃ origin, cloned.2.diagnostics[cloned.1]? = some (error.withOrigin origin) := by
  obtain ⟨-, rfl⟩ | ⟨-, loads⟩ := cloneDiagnostic_ok made
  · exact ⟨fresh_addDiagnostic (.refl session) _, _, addDiagnostic_found _ _⟩
  · exact loads.found found

theorem cloneSlot_adds {depth : Depth} {of : String}
    (made : session.cloneSlot depth of = .ok (held, after)) :
    session.Adds after session.ClonedFrom := by
  cases cloneSlot_clones made with
  | plain slot found => exact adds_nothing _ rfl
  | located slot found copied =>
    obtain ⟨-, rfl⟩ | ⟨-, loads⟩ := cloneDiagnostic_ok copied
    · exact adds_one ⟨_, List.mem_of_getElem? found, rfl⟩
    · exact loads.adds

theorem holdNew_adds {made : Except Fault (Held × Session)} (slot : String)
    (adds : ∀ held after, made = .ok (held, after) → session.Adds after sort) :
    session.Adds (session.holdNew slot made).2 sort := by
  cases made with
  | error fault => exact adds_nothing _ rfl
  | ok result => exact adds result.1 result.2 rfl

theorem construct_step_adds (session : Session) (slot : String) (construction : Construction) :
    session.Adds (session.step (.construct slot construction)).2
      fun error => error.cell.rendered = none :=
  holdNew_adds slot fun _ _ => construct_adds

theorem clone_step_adds (session : Session) (depth : Depth) (of slot : String) :
    session.Adds (session.step (.clone depth of slot)).2 session.ClonedFrom :=
  holdNew_adds slot fun _ _ => cloneSlot_adds

/-- A clone is held under its name, if it can be made; otherwise nothing has happened. -/
theorem perform_clone (held : session.slot? of = some (.diagnostic id))
    (found : session.diagnostics[id]? = some error) (depth : Depth) (slot : String) :
    session.perform (.clone depth of slot) =
      match session.cloneDiagnostic depth id error with
      | .error fault => (.error fault, session)
      | .ok cloned => (.ok .nothing, cloned.2.hold slot (.diagnostic cloned.1)) := by
  simp only [perform, cloneSlot, held, found]
  cases session.cloneDiagnostic depth id error <;> rfl

/-- A shallow clone of an error that has been made can be made, and is the last of the errors. -/
theorem clone_shallow_step (held : session.slot? of = some (.diagnostic id))
    (found : session.diagnostics[id]? = some error) (made : error.WellMade) (slot : String) :
    (session.step (.clone .shallow of slot)).1.result = .ok .nothing ∧
      (session.step (.clone .shallow of slot)).2 =
        (session.addDiagnostic error).2.hold slot (.diagnostic session.diagnostics.length) := by
  have copied : session.cloneDiagnostic .shallow id error = .ok (session.addDiagnostic error) := by
    rw [cloneDiagnostic, cloneShallow, addRebuilt_of_wellMade session made, made.withOrigin_self]
  rw [step, perform_clone held found, copied]
  exact ⟨rfl, rfl⟩

/-- A deep clone that is made has been loaded. -/
theorem clone_deep_step (held : session.slot? of = some (.diagnostic id))
    (found : session.diagnostics[id]? = some error)
    (made : (session.step (.clone .deep of slot)).1.result = .ok .nothing) :
    ∃ loaded, session.Loads id loaded ∧
      (session.step (.clone .deep of slot)).2 =
        loaded.2.hold slot (.diagnostic loaded.1) := by
  rw [step, perform_clone held found] at made ⊢
  cases copied : session.cloneDiagnostic .deep id error with
  | error fault => simp [copied] at made
  | ok loaded =>
    obtain ⟨saved, -, loads⟩ := bind_ok copied
    exact ⟨loaded, load_loads loads, rfl⟩

theorem clone_step_found (found : session.diagnostics[id]? = some error)
    (held : session.slot? of = some (.diagnostic id)) (depth : Depth) (slot : String) :
    ((session.step (.clone depth of slot)).1.result = .ok .nothing ∧
      ∃ new clone, session.diagnostics[new]? = none ∧
        (session.step (.clone depth of slot)).2.slot? slot = some (.diagnostic new) ∧
        (session.step (.clone depth of slot)).2.diagnostics[new]? = some clone ∧
        clone.cell = error.cell) ∨
    ((∃ fault, (session.step (.clone depth of slot)).1.result = .error fault) ∧
      (session.step (.clone depth of slot)).2 = session) := by
  simp only [step, perform_clone held found]
  cases made : session.cloneDiagnostic depth id error with
  | error fault => exact .inr ⟨⟨fault, rfl⟩, rfl⟩
  | ok cloned =>
    obtain ⟨fresh, origin, added⟩ := cloneDiagnostic_found found made
    exact .inl ⟨rfl, cloned.1, _, fresh, by simp [hold, slot?], added, rfl⟩

end ParseFailure.Session
