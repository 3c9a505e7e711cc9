import ParseFailure.Proofs.Session.Grounded

/-!
What a deep clone has for itself. The errors and the evidence that are made with it are referred to
by nothing else; later on, other errors may come to have the clone as their cause, or to share with
it, as shallow clones of it, the cause and the evidence that it refers to itself.
-/

namespace ParseFailure

namespace Session

variable {session after : Session} {id : Nat} {error : Diagnostic} {held : Held} {name : String}
  {edited : Nat → Prop}

theorem Loads.last {loaded : Nat × Session} (loads : session.Loads id loaded)
    (found : session.diagnostics[id]? = some error) :
    loaded.2.diagnostics.length = loaded.1 + 1 := by
  cases loads with
  | missing absent => simp [found] at absent
  | caused | shown | alone => simp [addDiagnostic]

/-- What is made with a deep clone refers only to what is made with it. -/
theorem Grounded.loads_new (grounded : session.Grounded) {loaded : Nat × Session}
    (loads : session.Loads id loaded) :
    ∀ new clone, loaded.2.diagnostics[new]? = some clone → session.diagnostics.length ≤ new →
      (∀ cause, clone.cause? = some (.diagnostic cause) → session.diagnostics.length ≤ cause) ∧
        ∀ e, clone.evidence? = some e → session.evidence.length ≤ e := by
  have fresh : ∀ new clone, session.diagnostics[new]? = some clone →
      ¬ session.diagnostics.length ≤ new := by
    intro new clone present
    have inside := (List.getElem?_eq_some_iff.mp present).1
    omega
  induction loads with
  | missing absent =>
    intro new clone present later
    exact absurd later (fresh new clone present)
  | @caused id cause error loaded found caused before below ih =>
    intro new clone added later
    obtain old | ⟨-, rfl⟩ := addDiagnostic_cases added
    · exact ih new clone old later
    · obtain ⟨cause', free⟩ := Origin.cause_withCause caused loaded.1
      obtain ⟨other, present⟩ := grounded.cause_found found caused
      constructor
      · intro own same
        cases Option.some.inj (cause'.symm.trans same)
        exact List.getElem?_eq_none_iff.mp (below.found present).1
      · intro e refers
        cases free.symm.trans refers
  | @shown id error evidence found stored =>
    intro new clone added later
    obtain old | ⟨-, rfl⟩ := addDiagnostic_cases added
    · exact absurd later (fresh new clone old)
    · obtain ⟨e, refers, -⟩ := Option.bind_eq_some_iff.mp stored
      obtain ⟨refers', unlocated⟩ := Origin.evidence_withEvidence refers session.evidence.length
      constructor
      · intro cause caused
        exact absurd caused (unlocated cause)
      · intro own same
        cases Option.some.inj (refers'.symm.trans same)
        exact Nat.le_refl _
  | @alone id error found unknown absent =>
    intro new clone added later
    obtain old | ⟨-, rfl⟩ := addDiagnostic_cases added
    · exact absurd later (fresh new clone old)
    · constructor
      · intro cause caused
        exact absurd caused (grounded.unlocated found unknown cause)
      · intro e refers
        cases (grounded.unshown found absent).symm.trans refers

/-- The errors from `first` to `last` and the evidence from `low` on and before `high`, and what the
last of the errors refers to. -/
structure Fence where
  first : Nat
  last : Nat
  low : Nat
  high : Nat
  cause? : Option Held
  evidence? : Option Nat

/-- An error refers into the fence at most to its last error and to what that refers to. -/
structure Fence.Aloof (fence : Fence) (error : Diagnostic) : Prop where
  cause : ∀ cause, error.cause? = some (.diagnostic cause) →
    cause < fence.first ∨ fence.last ≤ cause ∨ fence.cause? = some (.diagnostic cause)
  evidence : ∀ e, error.evidence? = some e →
    e < fence.low ∨ fence.high ≤ e ∨ fence.evidence? = some e

/-- No name but one leads into the fence, to its last error, and none to its evidence; the errors
inside refer to what is inside; and those outside are aloof. -/
structure Fenced (fence : Fence) (name : String) (session : Session) : Prop where
  grounded : session.Grounded
  size : fence.high ≤ session.evidence.length
  held : session.slot? name = some (.diagnostic fence.last)
  names : ∀ (other : String) (id : Nat), other ≠ name →
    session.slot? other = some (.diagnostic id) →
    id < fence.first ∨ fence.last < id
  plain : ∀ (other : String) (e : Nat), session.slot? other = some (.plain e) →
    e < fence.low ∨ fence.high ≤ e
  own : ∀ error, session.diagnostics[fence.last]? = some error →
    error.cause? = fence.cause? ∧ error.evidence? = fence.evidence?
  inside : ∀ (id : Nat) (error : Diagnostic), session.diagnostics[id]? = some error →
    fence.first ≤ id → id ≤ fence.last →
      (∀ cause, error.cause? = some (.diagnostic cause) → fence.first ≤ cause) ∧
        ∀ e, error.evidence? = some e → fence.low ≤ e ∧ e < fence.high
  outside : ∀ (id : Nat) (error : Diagnostic), session.diagnostics[id]? = some error →
    id < fence.first ∨ fence.last < id → fence.Aloof error

namespace Fenced

variable {fence : Fence}

theorem last_lt (fenced : Fenced fence name session) :
    fence.last < session.diagnostics.length :=
  fenced.grounded.held name _ fenced.held

theorem keeps (fenced : Fenced fence name session) (keeps : Keeps edited session after) :
    Fenced fence name after where
  grounded := fenced.grounded.keeps keeps
  size := by
    rw [keeps.size]
    exact fenced.size
  held := by
    rw [slot?, keeps.slots]
    exact fenced.held
  names other id proper held := by
    rw [slot?, keeps.slots] at held
    exact fenced.names other id proper held
  plain other e held := by
    rw [slot?, keeps.slots] at held
    exact fenced.plain other e held
  own later found := by
    obtain ⟨error, before, same⟩ := keeps.before found
    have origin := (Diagnostic.fixed_eq_iff.mp same).1
    rw [← Diagnostic.cause?_congr origin, ← Diagnostic.evidence?_congr origin]
    exact fenced.own error before
  inside id later found := by
    obtain ⟨error, before, same⟩ := keeps.before found
    have origin := (Diagnostic.fixed_eq_iff.mp same).1
    rw [← Diagnostic.cause?_congr origin, ← Diagnostic.evidence?_congr origin]
    exact fenced.inside id error before
  outside id later found outer := by
    obtain ⟨error, before, same⟩ := keeps.before found
    have origin := (Diagnostic.fixed_eq_iff.mp same).1
    obtain ⟨cause, evidence⟩ := fenced.outside id error before outer
    rw [Diagnostic.cause?_congr origin] at cause
    rw [Diagnostic.evidence?_congr origin] at evidence
    exact ⟨cause, evidence⟩

theorem hold (fenced : Fenced fence name session) (grows : session.Grows after)
    (grounded : after.Grounded) {slot : String} (proper : slot ≠ name)
    (contained : after.Contains held) (fresh : session.Fresh held)
    (aloof : ∀ id error, after.diagnostics[id]? = some error → session.diagnostics.length ≤ id →
      fence.Aloof error) : Fenced fence name (after.hold slot held) := by
  have last := fenced.last_lt
  have old : ∀ {id error}, after.diagnostics[id]? = some error → id < session.diagnostics.length →
      session.diagnostics[id]? = some error := by
    intro id error found before
    have present := List.getElem?_eq_getElem before
    rw [grows.found present] at found
    rw [present, found]
  constructor
  · exact grounded.hold slot contained
  · exact Nat.le_trans fenced.size grows.evidence.length_le
  · rw [slot?_hold, if_neg proper.symm, slot?, grows.slots]
    exact fenced.held
  · intro other id different found
    rw [slot?_hold] at found
    split at found
    · cases found
      exact .inr (Nat.lt_of_lt_of_le last fresh)
    · rw [slot?, grows.slots] at found
      exact fenced.names other id different found
  · intro other e found
    rw [slot?_hold] at found
    split at found
    · cases found
      exact .inr (Nat.le_trans fenced.size fresh)
    · rw [slot?, grows.slots] at found
      exact fenced.plain other e found
  · intro error found
    exact fenced.own error (old found last)
  · intro id error found low high
    exact fenced.inside id error (old found (by omega)) low high
  · intro id error found outer
    by_cases before : id < session.diagnostics.length
    · exact fenced.outside id error (old found before) outer
    · exact aloof id error found (by omega)

theorem aloof_caused (fenced : Fenced fence name session) {other : String}
    (held : session.slot? other = some (.diagnostic id)) :
    id < fence.first ∨ fence.last ≤ id ∨ fence.cause? = some (.diagnostic id) := by
  by_cases same : other = name
  · subst same
    cases Option.some.inj (fenced.held.symm.trans held)
    exact .inr (.inl (Nat.le_refl _))
  · rcases fenced.names other id same held with before | behind
    · exact .inl before
    · exact .inr (.inl (Nat.le_of_lt behind))

theorem aloof_copied (fenced : Fenced fence name session) {other : String}
    (held : session.slot? other = some (.diagnostic id))
    (found : session.diagnostics[id]? = some error) : fence.Aloof error := by
  by_cases same : other = name
  · subst same
    cases Option.some.inj (fenced.held.symm.trans held)
    obtain ⟨cause, evidence⟩ := fenced.own error found
    exact ⟨fun _ caused => .inr (.inr (cause ▸ caused)),
      fun _ refers => .inr (.inr (evidence ▸ refers))⟩
  · exact fenced.outside id error found (fenced.names other id same held)

def AddsAloof (fence : Fence) (session after : Session) : Prop :=
  ∀ id error, after.diagnostics[id]? = some error → session.diagnostics.length ≤ id →
    fence.Aloof error

theorem addsAloof_nothing (fence : Fence) (same : after.diagnostics = session.diagnostics) :
    AddsAloof fence session after := by
  intro id error found later
  rw [same] at found
  exact absurd later (Nat.not_le_of_lt (List.getElem?_eq_some_iff.mp found).1)

theorem addsAloof_one {middle : Session} (same : middle.diagnostics = session.diagnostics)
    (aloof : fence.Aloof error) : AddsAloof fence session (middle.addDiagnostic error).2 := by
  intro id other found later
  obtain old | ⟨-, rfl⟩ := addDiagnostic_cases found
  · exact addsAloof_nothing fence same id other old later
  · exact aloof

/-- A new error may have anything for its cause that is found as one. -/
theorem aloof_made (fenced : Fenced fence name session) {cause : Option CauseRef}
    {resolved : Option Held × Session} (looked : session.resolveCause cause = .ok resolved)
    (text known : Option String) (span : Span) (source : Option String) :
    fence.Aloof (Diagnostic.make text known span resolved.1 source) := by
  constructor
  · intro own caused
    obtain ⟨error, -, same⟩ | ⟨-, other, held⟩ := resolveCause_found looked caused
    · contradiction
    · exact fenced.aloof_caused held
  · intro e refers
    obtain ⟨error, -, same⟩ | ⟨-, other, held⟩ :=
      resolveCause_found looked (Origin.evidence_described refers)
    · cases same
      exact .inr (.inl fenced.size)
    · exact (fenced.plain other e held).imp id .inl

theorem construct (fenced : Fenced fence name session) {construction : Construction}
    (made : session.construct construction = .ok (held, after)) :
    AddsAloof fence session after := by
  cases construction with
  | plain error =>
    cases made
    exact addsAloof_nothing fence rfl
  | described text name span cause source =>
    obtain ⟨resolved, looked, made⟩ := bind_ok made
    cases made
    exact addsAloof_one (resolveCause_diagnostics looked)
      (fenced.aloof_made looked text name span source)
  | failure chain expected names =>
    obtain ⟨sequences, -, made⟩ := bind_ok made
    cases made
    refine addsAloof_one rfl ⟨nofun, ?_⟩
    rintro e ⟨⟩
    exact .inr (.inl fenced.size)

theorem cloneSlot (fenced : Fenced fence name session) {depth : Depth} {of : String}
    (made : session.cloneSlot depth of = .ok (held, after)) : AddsAloof fence session after := by
  cases cloneSlot_clones made with
  | plain slot found => exact addsAloof_nothing fence rfl
  | @located id error cloned slot found copied =>
    obtain ⟨-, rfl⟩ | ⟨-, loads⟩ := cloneDiagnostic_ok copied
    · rw [(fenced.grounded.made id error found).withOrigin_self]
      exact addsAloof_one rfl (fenced.aloof_copied slot found)
    · have last := fenced.last_lt
      have size := fenced.size
      intro new clone added later
      obtain ⟨cause, evidence⟩ := fenced.grounded.loads_new loads new clone added later
      constructor
      · intro c caused
        have behind := cause c caused
        omega
      · intro e refers
        have behind := evidence e refers
        omega

theorem ofMade (fenced : Fenced fence name session) {step : Step} {slot : String}
    (made : session.Made step slot held after) : AddsAloof fence session after := by
  cases made with
  | constructed made => exact fenced.construct made
  | cloned made => exact fenced.cloneSlot made

/-- A fence stands as long as its name is not taken. -/
theorem step (fenced : Fenced fence name session) {step : Step}
    (free : step.taken? ≠ some name) : Fenced fence name (session.step step).2 := by
  obtain keeps | ⟨slot, held, after, made, same⟩ := step_cases session step
  · exact fenced.keeps keeps
  · have proper : slot ≠ name := by
      rintro rfl
      exact free made.taken
    obtain ⟨ready, contained⟩ := fenced.grounded.ofMade made
    rw [same]
    exact fenced.hold made.grows ready proper contained made.fresh (fenced.ofMade made)

end Fenced

/-- A deep clone stands in a fence from the beginning. -/
theorem Grounded.fenced (grounded : session.Grounded) {e : String}
    (held : session.slot? e = some (.diagnostic id))
    (found : session.diagnostics[id]? = some error) (c : String)
    (made : (session.step (.clone .deep e c)).1.result = .ok .nothing) :
    ∃ (fence : Fence) (clone : Diagnostic), fence.first = session.diagnostics.length ∧
      fence.first ≤ fence.last ∧ fence.low = session.evidence.length ∧
      (session.step (.clone .deep e c)).2.diagnostics[fence.last]? = some clone ∧
      Fenced fence c (session.step (.clone .deep e c)).2 := by
  have ready := grounded.step (.clone .deep e c)
  obtain ⟨loaded, loads, performed⟩ := clone_deep_step held found made
  rw [performed] at ready ⊢
  have grows := loads.grows
  have last := loads.last found
  obtain ⟨unknown, origin, added⟩ := loads.found found
  refine ⟨⟨session.diagnostics.length, loaded.1, session.evidence.length,
    loaded.2.evidence.length, (error.withOrigin origin).cause?,
    (error.withOrigin origin).evidence?⟩, error.withOrigin origin, rfl,
    List.getElem?_eq_none_iff.mp unknown, rfl, added, ready, Nat.le_refl _, ?_, ?_, ?_, ?_, ?_, ?_⟩
  · rw [slot?_hold, if_pos rfl]
  · intro other position proper found
    rw [slot?_hold, if_neg proper, slot?, grows.slots] at found
    exact .inl (grounded.held other _ found)
  · intro other position found
    rw [slot?_hold] at found
    split at found
    · cases found
    · rw [slot?, grows.slots] at found
      exact .inl (grounded.held other _ found)
  · intro own present
    cases Option.some.inj (added.symm.trans present)
    exact ⟨rfl, rfl⟩
  · intro position own present low high
    obtain ⟨cause, evidence⟩ := grounded.loads_new loads position own present low
    exact ⟨cause, fun e refers => ⟨evidence e refers, ready.evidence position own e present refers⟩⟩
  · intro position own present outer
    have inside := (List.getElem?_eq_some_iff.mp present).1
    have before : position < session.diagnostics.length := by
      rcases outer with before | behind
      · exact before
      · have limit : position < loaded.2.diagnostics.length := inside
        dsimp only at behind
        omega
    have old := List.getElem?_eq_getElem before
    cases Option.some.inj (present.symm.trans (grows.found old))
    constructor
    · intro c caused
      exact .inl (Nat.lt_trans (grounded.causes position _ c old caused) before)
    · intro e refers
      exact .inl (grounded.evidence position _ e old refers)

end Session

end ParseFailure
