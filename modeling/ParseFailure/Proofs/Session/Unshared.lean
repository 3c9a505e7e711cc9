import ParseFailure.Proofs.Session.Fence

/-!
Evidence that one error alone refers to. That of a deep clone is its own, and stays its own unless a
shallow clone is made of it.
-/

namespace ParseFailure.Session

variable {session after : Session} {id : Nat} {error : Diagnostic} {held : Held} {name : String}
  {edited : Nat → Prop} {fence : Fence}

/-- No other error refers to the evidence of the error at a position, and no name leads to it. -/
structure Unshared (session : Session) (id : Nat) : Prop where
  errors : ∀ error, session.diagnostics[id]? = some error → ∀ e, error.evidence? = some e →
    ∀ reader other, session.diagnostics[reader]? = some other → other.evidence? = some e →
      reader = id
  names : ∀ error, session.diagnostics[id]? = some error → ∀ e, error.evidence? = some e →
    ∀ name, session.slot? name ≠ some (.plain e)

/-- Evidence that is new, or that a name leads to, or that an error at another position refers to.
-/
def Foreign (session : Session) (id e : Nat) : Prop :=
  session.evidence.length ≤ e ∨ (∃ name, session.slot? name = some (.plain e)) ∨
    ∃ original other, session.diagnostics[original]? = some other ∧ other.evidence? = some e ∧
      original ≠ id

def AddsForeign (session : Session) (id : Nat) (after : Session) : Prop :=
  ∀ new clone, after.diagnostics[new]? = some clone → session.diagnostics.length ≤ new →
    ∀ e, clone.evidence? = some e → session.Foreign id e

theorem addsForeign_nothing (id : Nat) (same : after.diagnostics = session.diagnostics) :
    session.AddsForeign id after := by
  intro new clone added later
  rw [same] at added
  exact absurd later (Nat.not_le_of_lt (List.getElem?_eq_some_iff.mp added).1)

theorem addsForeign_one {middle : Session} (same : middle.diagnostics = session.diagnostics)
    (foreign : ∀ e, error.evidence? = some e → session.Foreign id e) :
    session.AddsForeign id (middle.addDiagnostic error).2 := by
  intro new clone added later
  obtain old | ⟨-, rfl⟩ := addDiagnostic_cases added
  · exact addsForeign_nothing id same new clone old later
  · exact foreign

theorem construct_addsForeign {construction : Construction} (id : Nat)
    (made : session.construct construction = .ok (held, after)) : session.AddsForeign id after := by
  cases construction with
  | plain error =>
    cases made
    exact addsForeign_nothing id rfl
  | described text name span cause source =>
    obtain ⟨resolved, looked, made⟩ := bind_ok made
    cases made
    refine addsForeign_one (resolveCause_diagnostics looked) ?_
    intro e refers
    obtain ⟨error, -, same⟩ | ⟨-, name, held⟩ :=
      resolveCause_found looked (Origin.evidence_described refers)
    · cases same
      exact .inl (Nat.le_refl _)
    · exact .inr (.inl ⟨name, held⟩)
  | failure chain expected names =>
    obtain ⟨sequences, -, made⟩ := bind_ok made
    cases made
    refine addsForeign_one rfl ?_
    rintro e ⟨⟩
    exact .inl (Nat.le_refl _)

theorem Grounded.cloneSlot_addsForeign (grounded : session.Grounded) {depth : Depth} {of : String}
    (made : session.cloneSlot depth of = .ok (held, after))
    (proper : depth = .shallow → session.slot? of ≠ some (.diagnostic id)) :
    session.AddsForeign id after := by
  cases cloneSlot_clones made with
  | plain slot found => exact addsForeign_nothing id rfl
  | @located original error cloned slot found copied =>
    obtain ⟨shallow, rfl⟩ | ⟨-, loads⟩ := cloneDiagnostic_ok copied
    · refine addsForeign_one rfl ?_
      intro e refers
      refine .inr (.inr ⟨original, error, found, refers, ?_⟩)
      rintro rfl
      exact proper shallow slot
    · intro new clone added later e refers
      exact .inl ((grounded.loads_new loads new clone added later).2 e refers)

namespace Unshared

theorem keeps (unshared : session.Unshared id) (keeps : Keeps edited session after) :
    after.Unshared id := by
  have evidence : ∀ {position : Nat} {later : Diagnostic},
      after.diagnostics[position]? = some later →
      ∃ error, session.diagnostics[position]? = some error ∧
        error.evidence? = later.evidence? := by
    intro position later found
    obtain ⟨error, before, same⟩ := keeps.before found
    exact ⟨error, before, Diagnostic.evidence?_congr (Diagnostic.fixed_eq_iff.mp same).1⟩
  constructor
  · intro later found e refers reader later' present refers'
    obtain ⟨error, before, same⟩ := evidence found
    obtain ⟨other, before', same'⟩ := evidence present
    exact unshared.errors error before e (same.trans refers) reader other before'
      (same'.trans refers')
  · intro later found e refers name
    obtain ⟨error, before, same⟩ := evidence found
    rw [slot?, keeps.slots]
    exact unshared.names error before e (same.trans refers) name

theorem hold (unshared : session.Unshared id) (grounded : session.Grounded)
    (grows : session.Grows after) (inside : id < session.diagnostics.length)
    (foreign : session.AddsForeign id after) (fresh : session.Fresh held) (slot : String) :
    (after.hold slot held).Unshared id := by
  have old : ∀ {position found}, after.diagnostics[position]? = some found →
      position < session.diagnostics.length → session.diagnostics[position]? = some found := by
    intro position found later before
    have present := List.getElem?_eq_getElem before
    rw [grows.found present] at later
    rw [present, later]
  constructor
  · intro error found e refers reader other present refers'
    have here := old found inside
    by_cases before : reader < session.diagnostics.length
    · exact unshared.errors error here e refers reader other (old present before) refers'
    · obtain behind | ⟨name, leads⟩ | ⟨original, known, there, shared, different⟩ :=
        foreign reader other present (Nat.le_of_not_lt before) e refers'
      · have known := grounded.evidence id error e here refers
        omega
      · exact absurd leads (unshared.names error here e refers name)
      · exact absurd (unshared.errors error here e refers original known there shared) different
  · intro error found e refers name leads
    have here := old found inside
    rw [slot?_hold] at leads
    split at leads
    · cases leads
      exact Nat.not_le_of_lt (grounded.evidence id error e here refers) fresh
    · rw [slot?, grows.slots] at leads
      exact unshared.names error here e refers name leads

/-- The evidence stays unshared unless a shallow clone is made of the error. -/
theorem step (unshared : session.Unshared id) (grounded : session.Grounded)
    (inside : id < session.diagnostics.length) {step : Step}
    (proper : ∀ of slot, step = .clone .shallow of slot →
      session.slot? of ≠ some (.diagnostic id)) : (session.step step).2.Unshared id := by
  obtain keeps | ⟨slot, held, after, made, same⟩ := step_cases session step
  · exact unshared.keeps keeps
  · have foreign : session.AddsForeign id after := by
      cases made with
      | constructed made => exact construct_addsForeign id made
      | @cloned depth of slot _ _ made =>
        apply grounded.cloneSlot_addsForeign made
        rintro rfl
        exact proper of slot rfl
    rw [same]
    exact unshared.hold grounded made.grows inside foreign made.fresh slot

end Unshared

/-- No name but its own leads to a fenced error, so only a shallow clone of that name shares what it
refers to. -/
theorem Fenced.unshared_after (fenced : Fenced fence name session)
    (ordered : fence.first ≤ fence.last) (unshared : session.Unshared fence.last)
    {steps : List Step}
    (free : ∀ step ∈ steps, step.taken? ≠ some name ∧ ∀ slot, step ≠ .clone .shallow name slot) :
    Fenced fence name (session.after steps) ∧ (session.after steps).Unshared fence.last := by
  induction steps generalizing session with
  | nil => exact ⟨fenced, unshared⟩
  | cons first rest ih =>
    obtain ⟨leaves, deep⟩ := free first List.mem_cons_self
    refine ih (fenced.step leaves) (unshared.step fenced.grounded fenced.last_lt ?_)
      fun step member => free step (List.mem_cons_of_mem _ member)
    rintro of slot rfl leads
    have other : of ≠ name := by
      rintro rfl
      exact deep slot rfl
    have outer := fenced.names of fence.last other leads
    omega

/-- Only an error without a located cause refers to evidence, and it is cloned alone. -/
theorem Loads.alone_of_evidence {loaded : Nat × Session} (loads : session.Loads id loaded)
    (found : session.diagnostics[id]? = some error) {clone : Diagnostic} {e : Nat}
    (added : loaded.2.diagnostics[loaded.1]? = some clone) (refers : clone.evidence? = some e) :
    loaded.1 = session.diagnostics.length := by
  cases loads with
  | missing absent => simp [found] at absent
  | @caused _ cause _ cloned here caused before below =>
    cases Option.some.inj (added.symm.trans (addDiagnostic_found cloned.2 _))
    cases (Origin.cause_withCause caused cloned.1).2.symm.trans refers
  | shown here stored => rfl
  | alone here unknown absent => rfl

theorem Grounded.unshared_deep (grounded : session.Grounded) {e : String}
    (held : session.slot? e = some (.diagnostic id))
    (found : session.diagnostics[id]? = some error) (c : String)
    (made : (session.step (.clone .deep e c)).1.result = .ok .nothing) :
    ∃ new, (session.step (.clone .deep e c)).2.slot? c = some (.diagnostic new) ∧
      (session.step (.clone .deep e c)).2.Unshared new := by
  obtain ⟨loaded, loads, performed⟩ := clone_deep_step held found made
  have grows := loads.grows
  have last := loads.last found
  rw [performed]
  have late : ∀ clone own, loaded.2.diagnostics[loaded.1]? = some clone →
      clone.evidence? = some own →
        loaded.1 = session.diagnostics.length ∧ session.evidence.length ≤ own := by
    intro clone own added refers
    have alone := loads.alone_of_evidence found added refers
    exact ⟨alone,
      (grounded.loads_new loads _ clone added (Nat.le_of_eq alone.symm)).2 own refers⟩
  refine ⟨loaded.1, by rw [slot?_hold, if_pos rfl], ?_, ?_⟩
  · intro clone added own refers reader other present refers'
    obtain ⟨alone, late⟩ := late clone own added refers
    have inside : reader < loaded.2.diagnostics.length :=
      (List.getElem?_eq_some_iff.mp present).1
    by_cases before : reader < session.diagnostics.length
    · have old := List.getElem?_eq_getElem before
      cases Option.some.inj (present.symm.trans (grows.found old))
      have early := grounded.evidence reader _ own old refers'
      omega
    · omega
  · intro clone added own refers name leads
    obtain ⟨-, late⟩ := late clone own added refers
    rw [slot?_hold] at leads
    split at leads
    · cases leads
    · rw [slot?, grows.slots] at leads
      exact Nat.not_le_of_lt (grounded.held name _ leads) late

end ParseFailure.Session
