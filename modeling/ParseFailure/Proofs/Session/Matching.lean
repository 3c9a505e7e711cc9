import ParseFailure.Proofs.Session.Grounded
import ParseFailure.Proofs.Session.Resembling

/-!
Sessions in which some errors answer to each other. The errors of a pair are alike, so are their
causes and their evidence, and the pairs are one to one. What is done to one error of a pair in one
session and to the other one in the other session gives the same answers, and keeps the pairs alike.
-/

namespace ParseFailure

/-- Which positions of two sessions answer to each other. -/
structure Pairing where
  errors : Nat → Nat → Prop
  evidence : Nat → Nat → Prop
  errors_iff : ∀ {l r l' r'}, errors l r → errors l' r' → (l = l' ↔ r = r')
  evidence_iff : ∀ {x y x' y'}, evidence x y → evidence x' y' → (x = x' ↔ y = y')

namespace Pairing

variable {pairing wider : Pairing} {l r c d x y : Nat} {a b : Diagnostic}

structure Extends (pairing wider : Pairing) : Prop where
  errors : ∀ l r, pairing.errors l r → wider.errors l r
  evidence : ∀ x y, pairing.evidence x y → wider.evidence x y

theorem Extends.refl (pairing : Pairing) : pairing.Extends pairing :=
  ⟨fun _ _ paired => paired, fun _ _ paired => paired⟩

theorem Extends.trans {widest : Pairing} (first : pairing.Extends wider)
    (second : wider.Extends widest) : pairing.Extends widest :=
  ⟨fun l r paired => second.errors l r (first.errors l r paired),
    fun x y paired => second.evidence x y (first.evidence x y paired)⟩

/-- Origins of errors at two positions, with paired causes, of which the located ones stand before
them, or paired evidence. -/
inductive Origins (pairing : Pairing) (l r : Nat) : Origin → Origin → Prop where
  | uncaused (text : Option String) :
      Origins pairing l r (.described text none) (.described text none)
  | plain (text : Option String) (x y : Nat) (paired : pairing.evidence x y) :
      Origins pairing l r (.described text (some (.plain x))) (.described text (some (.plain y)))
  | caused (text : Option String) (c d : Nat) (paired : pairing.errors c d) (before : c < l)
      (earlier : d < r) :
      Origins pairing l r (.described text (some (.diagnostic c)))
        (.described text (some (.diagnostic d)))
  | grammar (sequences : List (List Kind)) (x y : Nat) (paired : pairing.evidence x y) :
      Origins pairing l r (.grammar sequences x) (.grammar sequences y)

namespace Origins

variable {first second : Origin}

theorem mono (origins : pairing.Origins l r first second) (extended : pairing.Extends wider)
    {l' r' : Nat} (left : l ≤ l') (right : r ≤ r') : wider.Origins l' r' first second := by
  cases origins with
  | uncaused text => exact .uncaused text
  | plain text x y paired => exact .plain text x y (extended.evidence x y paired)
  | caused text c d paired before earlier =>
    exact .caused text c d (extended.errors c d paired) (by omega) (by omega)
  | grammar sequences x y paired => exact .grammar sequences x y (extended.evidence x y paired)

theorem arguments (origins : pairing.Origins l r first second) :
    first.arguments = second.arguments := by
  cases origins with
  | uncaused | grammar => rfl
  | plain text | caused text => cases text <;> rfl

theorem sequences (origins : pairing.Origins l r first second) :
    first.sequences = second.sequences := by
  cases origins <;> rfl

/-- What the cause of one of them is, and what that of the other one is. -/
theorem causes (origins : pairing.Origins l r first second) :
    (first.cause? = none ∧ second.cause? = none) ∨
      (∃ x y, pairing.evidence x y ∧ first.cause? = some (.plain x) ∧
        second.cause? = some (.plain y)) ∨
      ∃ c d, pairing.errors c d ∧ c < l ∧ d < r ∧ first.cause? = some (.diagnostic c) ∧
        second.cause? = some (.diagnostic d) := by
  cases origins with
  | uncaused | grammar => exact .inl ⟨rfl, rfl⟩
  | plain text x y paired => exact .inr (.inl ⟨x, y, paired, rfl, rfl⟩)
  | caused text c d paired before earlier =>
    exact .inr (.inr ⟨c, d, paired, before, earlier, rfl, rfl⟩)

theorem evidence (origins : pairing.Origins l r first second) :
    (first.evidence? = none ∧ second.evidence? = none) ∨
      ∃ x y, pairing.evidence x y ∧ first.evidence? = some x ∧ second.evidence? = some y := by
  cases origins with
  | uncaused | caused => exact .inl ⟨rfl, rfl⟩
  | plain _ x y paired | grammar _ x y paired => exact .inr ⟨x, y, paired, rfl, rfl⟩

/-- Both may be given other causes that are paired. -/
theorem withCause (origins : pairing.Origins l r first second) {c' d' l' r' : Nat}
    (caused : first.cause? = some (.diagnostic c)) (paired : wider.errors c' d')
    (before : c' < l') (earlier : d' < r') :
    wider.Origins l' r' (first.withCause c') (second.withCause d') := by
  cases origins with
  | uncaused | plain | grammar => cases caused
  | caused text => exact .caused text c' d' paired before earlier

theorem withEvidence (origins : pairing.Origins l r first second) {x' y' : Nat}
    (refers : first.evidence? = some x) (paired : wider.evidence x' y') (l' r' : Nat) :
    wider.Origins l' r' (first.withEvidence x') (second.withEvidence y') := by
  cases origins with
  | uncaused | caused => cases refers
  | plain text => exact .plain text x' y' paired
  | grammar sequences => exact .grammar sequences x' y' paired

end Origins

/-- Errors at two positions that differ in what they refer to at most. -/
structure Twins (pairing : Pairing) (l r : Nat) (a b : Diagnostic) : Prop where
  origins : pairing.Origins l r a.origin b.origin
  span : a.span = b.span
  cell : a.cell = b.cell
  source : a.source = b.source
  first : a.WellMade
  second : b.WellMade

namespace Twins

theorem mono (twins : pairing.Twins l r a b) (extended : pairing.Extends wider) {l' r' : Nat}
    (left : l ≤ l') (right : r ≤ r') : wider.Twins l' r' a b :=
  ⟨twins.origins.mono extended left right, twins.span, twins.cell, twins.source, twins.first,
    twins.second⟩

/-- The same is done with the records of both. -/
theorem congr {a' b' : Diagnostic} (twins : pairing.Twins l r a b) (fixed : a'.fixed = a.fixed)
    (fixed' : b'.fixed = b.fixed) (span : a'.span = b'.span) (cell : a'.cell = b'.cell)
    (source : a'.source = b'.source) : pairing.Twins l r a' b' := by
  obtain ⟨origin, arguments, chained⟩ := Diagnostic.fixed_eq_iff.mp fixed
  obtain ⟨origin', arguments', chained'⟩ := Diagnostic.fixed_eq_iff.mp fixed'
  refine ⟨?_, span, cell, source, twins.first.congr origin arguments chained,
    twins.second.congr origin' arguments' chained'⟩
  rw [origin, origin']
  exact twins.origins

theorem withCause (twins : pairing.Twins l r a b) {c' d' l' r' : Nat}
    (caused : a.cause? = some (.diagnostic c)) (paired : wider.errors c' d') (before : c' < l')
    (earlier : d' < r') :
    wider.Twins l' r' (a.withOrigin (a.origin.withCause c'))
      (b.withOrigin (b.origin.withCause d')) :=
  ⟨twins.origins.withCause caused paired before earlier, twins.span, twins.cell, twins.source,
    twins.first.withOrigin (Origin.arguments_withCause _ _),
    twins.second.withOrigin (Origin.arguments_withCause _ _)⟩

theorem withEvidence (twins : pairing.Twins l r a b) {x' y' : Nat}
    (refers : a.evidence? = some x) (paired : wider.evidence x' y') (l' r' : Nat) :
    wider.Twins l' r' (a.withOrigin (a.origin.withEvidence x'))
      (b.withOrigin (b.origin.withEvidence y')) :=
  ⟨twins.origins.withEvidence refers paired l' r', twins.span, twins.cell, twins.source,
    twins.first.withOrigin (Origin.arguments_withEvidence _ _),
    twins.second.withOrigin (Origin.arguments_withEvidence _ _)⟩

theorem causes (twins : pairing.Twins l r a b) :
    (a.cause? = none ∧ b.cause? = none) ∨
      (∃ x y, pairing.evidence x y ∧ a.cause? = some (.plain x) ∧ b.cause? = some (.plain y)) ∨
      ∃ c d, pairing.errors c d ∧ c < l ∧ d < r ∧ a.cause? = some (.diagnostic c) ∧
        b.cause? = some (.diagnostic d) := twins.origins.causes

/-- Both have located causes, or neither has one. -/
theorem located (twins : pairing.Twins l r a b) :
    ((∀ cause, a.cause? ≠ some (.diagnostic cause)) ∧
      ∀ cause, b.cause? ≠ some (.diagnostic cause)) ∨
      ∃ c d, pairing.errors c d ∧ c < l ∧ d < r ∧ a.cause? = some (.diagnostic c) ∧
        b.cause? = some (.diagnostic d) := by
  obtain ⟨here, there⟩ | ⟨x, y, -, here, there⟩ | located := twins.causes
  · exact .inl ⟨by simp [here], by simp [there]⟩
  · exact .inl ⟨by simp [here], by simp [there]⟩
  · exact .inr located

end Twins

/-- One more pair of errors. -/
def add (pairing : Pairing) (l r : Nat)
    (fresh : ∀ l' r', pairing.errors l' r' → l' ≠ l ∧ r' ≠ r) : Pairing where
  errors l' r' := pairing.errors l' r' ∨ (l' = l ∧ r' = r)
  evidence := pairing.evidence
  errors_iff := by
    rintro l₁ r₁ l₂ r₂ (old | ⟨rfl, rfl⟩) (other | ⟨rfl, rfl⟩)
    · exact pairing.errors_iff old other
    · simp [fresh _ _ old]
    · simp [(fresh _ _ other).1.symm, (fresh _ _ other).2.symm]
    · simp
  evidence_iff := pairing.evidence_iff

theorem extends_add (pairing : Pairing) (l r : Nat)
    (fresh : ∀ l' r', pairing.errors l' r' → l' ≠ l ∧ r' ≠ r) :
    pairing.Extends (pairing.add l r fresh) :=
  ⟨fun _ _ paired => .inl paired, fun _ _ paired => paired⟩

/-- One more pair of evidence. -/
def addEvidence (pairing : Pairing) (x y : Nat)
    (fresh : ∀ x' y', pairing.evidence x' y' → x' ≠ x ∧ y' ≠ y) : Pairing where
  errors := pairing.errors
  evidence x' y' := pairing.evidence x' y' ∨ (x' = x ∧ y' = y)
  errors_iff := pairing.errors_iff
  evidence_iff := by
    rintro x₁ y₁ x₂ y₂ (old | ⟨rfl, rfl⟩) (other | ⟨rfl, rfl⟩)
    · exact pairing.evidence_iff old other
    · simp [fresh _ _ old]
    · simp [(fresh _ _ other).1.symm, (fresh _ _ other).2.symm]
    · simp

theorem extends_addEvidence (pairing : Pairing) (x y : Nat)
    (fresh : ∀ x' y', pairing.evidence x' y' → x' ≠ x ∧ y' ≠ y) :
    pairing.Extends (pairing.addEvidence x y fresh) :=
  ⟨fun _ _ paired => paired, fun _ _ paired => .inl paired⟩

/-- Every error before a position, and every piece of evidence, answers to itself. -/
def itself (errors evidence : Nat) : Pairing where
  errors l r := l = r ∧ l < errors
  evidence x y := x = y ∧ x < evidence
  errors_iff first second := by rw [first.1, second.1]
  evidence_iff first second := by rw [first.1, second.1]

end Pairing

namespace Session

variable {pairing : Pairing} {session left right after : Session} {l r x y id : Nat}
  {a b a' b' : Diagnostic}

/-- Two sessions with the same process in which what is paired is alike. -/
structure Matched (pairing : Pairing) (left right : Session) : Prop where
  host : left.host = right.host
  errors : ∀ l r, pairing.errors l r → ∃ a b, left.diagnostics[l]? = some a ∧
    right.diagnostics[r]? = some b ∧ pairing.Twins l r a b
  evidence : ∀ x y, pairing.evidence x y → ∃ evidence, left.evidence[x]? = some evidence ∧
    right.evidence[y]? = some evidence

section Twins

variable (matched : Matched pairing left right) (twins : pairing.Twins l r a b)
include matched twins

theorem Matched.describe : left.describe a = right.describe b := by
  have origins := twins.origins
  unfold Session.describe
  generalize a.origin = first at origins ⊢
  generalize b.origin = second at origins ⊢
  cases origins with
  | uncaused text | plain text | caused text => cases text <;> rfl
  | grammar sequences x y paired =>
    obtain ⟨evidence, here, there⟩ := matched.evidence x y paired
    simp only [here, there, matched.host]

theorem Matched.render : left.render a = right.render b := by
  simp only [Session.render, Diagnostic.render, matched.host, twins.span, twins.cell,
    matched.describe twins]

theorem Matched.texts : left.texts a = right.texts b := by
  simp only [Session.texts, twins.cell, matched.render twins]

theorem Matched.evidenceOf : left.evidenceOf? a = right.evidenceOf? b := by
  unfold evidenceOf? Diagnostic.evidence?
  obtain ⟨here, there⟩ | ⟨x, y, paired, here, there⟩ := twins.origins.evidence
  · rw [here, there]
    rfl
  · obtain ⟨evidence, stored, stored'⟩ := matched.evidence x y paired
    rw [here, there]
    exact stored.trans stored'.symm

theorem Matched.causeOf : (left.causeOf a).1 = (right.causeOf b).1 := by
  obtain ⟨here, there⟩ | ⟨x, y, paired, here, there⟩ | ⟨c, d, paired, -, -, here, there⟩ :=
    twins.causes
  · simp only [Session.causeOf, here, there]
  · obtain ⟨evidence, stored, stored'⟩ := matched.evidence x y paired
    simp only [Session.causeOf, here, there, textOf, plainText, plain?, stored, stored']
  · obtain ⟨cause, other, found, present, causes⟩ := matched.errors c d paired
    rw [causeOf_found found here, causeOf_found present there, matched.texts causes]

/-- Twins that are found in their sessions resemble each other. -/
theorem Matched.resembles (here : left.diagnostics[l]? = some a)
    (there : right.diagnostics[r]? = some b) : Resembles left right l r a b where
  here := here
  there := there
  host := matched.host
  arguments := by rw [twins.first.arguments, twins.second.arguments, twins.origins.arguments]
  chained := by
    rw [Diagnostic.isChained_of_wellMade twins.first, Diagnostic.isChained_of_wellMade twins.second]
    obtain ⟨here, there⟩ | ⟨x, y, -, here, there⟩ | ⟨c, d, -, -, -, here, there⟩ := twins.causes
    all_goals rw [here, there]
    all_goals rfl
  sequences := twins.origins.sequences
  span := twins.span
  cell := twins.cell
  source := twins.source
  evidence := matched.evidenceOf twins
  described := matched.describe twins
  caused := matched.causeOf twins

end Twins

theorem Matched.setHost (matched : Matched pairing left right) {first second : Host}
    (same : first = second) : Matched pairing (left.setHost first) (right.setHost second) :=
  ⟨same, matched.errors, matched.evidence⟩

theorem Matched.hold (matched : Matched pairing left right) (name other : String)
    (first second : Held) : Matched pairing (left.hold name first) (right.hold other second) :=
  ⟨matched.host, matched.errors, matched.evidence⟩

theorem Matched.grow (matched : Matched pairing left right) {left' right' : Session}
    (first : left.Grows left') (second : right.Grows right') : Matched pairing left' right' where
  host := by rw [first.host, second.host, matched.host]
  errors l r paired := by
    obtain ⟨a, b, here, there, twins⟩ := matched.errors l r paired
    exact ⟨a, b, first.found here, second.found there, twins⟩
  evidence x y paired := by
    obtain ⟨evidence, here, there⟩ := matched.evidence x y paired
    exact ⟨evidence, first.stored here, second.stored there⟩

theorem Matched.setDiagnostic (matched : Matched pairing left right)
    (paired : pairing.errors l r) (twins : pairing.Twins l r a b) :
    Matched pairing (left.setDiagnostic l a) (right.setDiagnostic r b) where
  host := matched.host
  errors l' r' other := by
    obtain ⟨a', b', here, there, same⟩ := matched.errors l' r' other
    have both := pairing.errors_iff paired other
    by_cases target : l = l'
    · have target' := both.mp target
      subst target target'
      exact ⟨a, b, setDiagnostic_same here, setDiagnostic_same there, twins⟩
    · have target' : ¬ r = r' := fun same => target (both.mpr same)
      exact ⟨a', b', setDiagnostic_other target here, setDiagnostic_other target' there, same⟩
  evidence := matched.evidence

theorem Matched.setEvidence (matched : Matched pairing left right)
    (paired : pairing.evidence x y) (evidence : Evidence) :
    Matched pairing (left.setEvidence x evidence) (right.setEvidence y evidence) where
  host := matched.host
  errors := matched.errors
  evidence x' y' other := by
    obtain ⟨stored, here, there⟩ := matched.evidence x' y' other
    have inside := (List.getElem?_eq_some_iff.mp here).1
    have inside' := (List.getElem?_eq_some_iff.mp there).1
    have both := pairing.evidence_iff paired other
    by_cases target : x = x'
    · have target' := both.mp target
      subst target target'
      exact ⟨evidence, List.getElem?_set_self inside, List.getElem?_set_self inside'⟩
    · have target' : ¬ y = y' := fun same => target (both.mpr same)
      exact ⟨stored, (List.getElem?_set_ne target).trans here,
        (List.getElem?_set_ne target').trans there⟩

theorem Matched.readDuring (matched : Matched pairing left right) (paired : pairing.errors l r)
    (twins : pairing.Twins l r a b) (meanwhile : Cell → Cell) :
    Matched pairing (left.readDuring l a meanwhile).2 (right.readDuring r b meanwhile).2 := by
  unfold Session.readDuring
  rw [← twins.cell]
  cases a.cell.rendered with
  | some texts => exact matched
  | none =>
    have twins' : pairing.Twins l r
        { a with cell := (meanwhile a.cell).keep a.cell.name (left.render a) }
        { b with cell := (meanwhile a.cell).keep a.cell.name (right.render b) } :=
      twins.congr rfl rfl twins.span (by rw [matched.render twins]) twins.source
    exact (matched.setDiagnostic paired twins').setHost (by rw [matched.host])

theorem Matched.causeOf_after (matched : Matched pairing left right)
    (twins : pairing.Twins l r a b) :
    Matched pairing (left.causeOf a).2 (right.causeOf b).2 := by
  obtain ⟨here, there⟩ | ⟨x, y, -, here, there⟩ | ⟨c, d, paired, -, -, here, there⟩ := twins.causes
  · simp only [Session.causeOf, here, there]
    exact matched
  · simp only [Session.causeOf, here, there, textOf]
    exact matched
  · obtain ⟨cause, other, found, present, causes⟩ := matched.errors c d paired
    rw [causeOf_found found here, causeOf_found present there]
    exact matched.readDuring paired causes fun cell => cell

theorem Matched.report (matched : Matched pairing left right) (paired : pairing.errors l r)
    (twins : pairing.Twins l r a b) :
    Matched pairing (left.report l a).2 (right.report r b).2 := by
  have sameCode : left.code a = right.code b := by
    simp only [Session.code, matched.evidenceOf twins]
  have sameReport : ∀ limits colors code, a.reported limits colors code =
      b.reported limits colors code := by
    intro limits colors code
    funext rendered
    simp only [Diagnostic.reported, Diagnostic.place, Diagnostic.excerpt, twins.source, twins.span,
      twins.cell]
  have read : Matched pairing (left.read l a).2 (right.read r b).2 :=
    matched.readDuring paired twins fun cell => cell
  unfold Session.report
  rw [sameCode, matched.host]
  cases right.code b with
  | error fault => exact matched
  | ok code =>
    simp only [read_fst, matched.texts twins, sameReport]
    cases right.texts b >>= b.reported right.host.limits right.host.colors code with
    | error fault => exact read
    | ok report => exact read.causeOf_after twins

theorem Matched.get (matched : Matched pairing left right) (paired : pairing.errors l r)
    (twins : pairing.Twins l r a b) (field : Field) :
    Matched pairing (left.get l a field).2 (right.get r b field).2 := by
  cases field with
  | message | text | description | editorMessage =>
    exact matched.readDuring paired twins fun cell => cell
  | cause => exact matched.causeOf_after twins
  | name | source | line | column | endLine | endColumn | code | arguments | written | sequences |
      currentToken | chained => exact matched

theorem Matched.changeEvidence (matched : Matched pairing left right)
    (twins : pairing.Twins l r a b) (missing : Fault) (change : Evidence → Except Fault Evidence) :
    Matched pairing (left.changeEvidence a missing change).2
      (right.changeEvidence b missing change).2 := by
  unfold Session.changeEvidence Diagnostic.evidence?
  obtain ⟨here, there⟩ | ⟨x, y, paired, here, there⟩ := twins.origins.evidence
  · simp only [here, there]
    exact matched
  · obtain ⟨evidence, stored, stored'⟩ := matched.evidence x y paired
    simp only [here, there, stored, stored']
    cases change evidence with
    | error fault => exact matched
    | ok changed => exact matched.setEvidence paired changed

/-- The same action on both errors of a pair keeps the sessions matched. -/
theorem Matched.actOn (matched : Matched pairing left right) (paired : pairing.errors l r)
    (twins : pairing.Twins l r a b) (action : Action) :
    Matched pairing (left.actOn l a action).2 (right.actOn r b action).2 := by
  cases action with
  | get field => exact matched.get paired twins field
  | overview | extendReported => exact matched
  | report => exact matched.report paired twins
  | messageDuringRename name => exact matched.readDuring paired twins _
  | rename name =>
    refine matched.setDiagnostic paired (twins.congr rfl rfl twins.span ?_ twins.source)
    rw [twins.cell]
  | setSource source =>
    exact matched.setDiagnostic paired (twins.congr rfl rfl twins.span twins.cell rfl)
  | editToken | link | setName | alterCause => exact matched.changeEvidence twins _ _

/-- Errors that are in place are paired if neither of them has been. -/
theorem Matched.add (matched : Matched pairing left right)
    (fresh : ∀ l' r', pairing.errors l' r' → l' ≠ l ∧ r' ≠ r)
    (here : left.diagnostics[l]? = some a) (there : right.diagnostics[r]? = some b)
    (twins : pairing.Twins l r a b) : Matched (pairing.add l r fresh) left right where
  host := matched.host
  errors l' r' paired := by
    have extended := pairing.extends_add l r fresh
    rcases paired with old | ⟨rfl, rfl⟩
    · obtain ⟨a', b', here', there', twins'⟩ := matched.errors l' r' old
      exact ⟨a', b', here', there', twins'.mono extended (Nat.le_refl _) (Nat.le_refl _)⟩
    · exact ⟨a, b, here, there, twins.mono extended (Nat.le_refl _) (Nat.le_refl _)⟩
  evidence := matched.evidence

theorem Matched.addEvidence (matched : Matched pairing left right)
    (fresh : ∀ x' y', pairing.evidence x' y' → x' ≠ x ∧ y' ≠ y) {evidence : Evidence}
    (here : left.evidence[x]? = some evidence) (there : right.evidence[y]? = some evidence) :
    Matched (pairing.addEvidence x y fresh) left right where
  host := matched.host
  errors l r paired := by
    have extended := pairing.extends_addEvidence x y fresh
    obtain ⟨a, b, here', there', twins⟩ := matched.errors l r paired
    exact ⟨a, b, here', there', twins.mono extended (Nat.le_refl _) (Nat.le_refl _)⟩
  evidence x' y' paired := by
    rcases paired with old | ⟨rfl, rfl⟩
    · exact matched.evidence x' y' old
    · exact ⟨evidence, here, there⟩

theorem Matched.lt (matched : Matched pairing left right) (paired : pairing.errors l r) :
    l < left.diagnostics.length ∧ r < right.diagnostics.length := by
  obtain ⟨a, b, here, there, -⟩ := matched.errors l r paired
  exact ⟨(List.getElem?_eq_some_iff.mp here).1, (List.getElem?_eq_some_iff.mp there).1⟩

theorem Matched.evidence_lt (matched : Matched pairing left right) (paired : pairing.evidence x y) :
    x < left.evidence.length ∧ y < right.evidence.length := by
  obtain ⟨evidence, here, there⟩ := matched.evidence x y paired
  exact ⟨(List.getElem?_eq_some_iff.mp here).1, (List.getElem?_eq_some_iff.mp there).1⟩

/-- Two sessions in which perhaps more is paired, and in any case two results. -/
def MatchedWith (pairing : Pairing) (first second : Nat × Session) : Prop :=
  ∃ wider : Pairing, pairing.Extends wider ∧ Matched wider first.2 second.2 ∧
    wider.errors first.1 second.1

/-- Twins that are added to matched sessions are paired. -/
theorem Matched.addBoth (matched : Matched pairing left right)
    (twins : pairing.Twins left.diagnostics.length right.diagnostics.length a b) :
    MatchedWith pairing (left.addDiagnostic a) (right.addDiagnostic b) := by
  have fresh : ∀ l' r', pairing.errors l' r' →
      l' ≠ left.diagnostics.length ∧ r' ≠ right.diagnostics.length := by
    intro l' r' paired
    have inside := matched.lt paired
    omega
  have grown := matched.grow (addDiagnostic_grows left a) (addDiagnostic_grows right b)
  exact ⟨_, pairing.extends_add _ _ fresh,
    grown.add fresh (addDiagnostic_found left a) (addDiagnostic_found right b) twins,
    .inr ⟨rfl, rfl⟩⟩

/-- Paired errors can both be saved, or are refused for the same reason. -/
theorem Matched.save (matched : Matched pairing left right) (paired : pairing.errors l r)
    (level : Nat) : left.save level l = right.save level r := by
  induction l using Nat.strongRecOn generalizing r level with
  | ind l ih =>
    obtain ⟨a, b, here, there, twins⟩ := matched.errors l r paired
    obtain ⟨free, free'⟩ | ⟨c, d, pairedCauses, before, earlier, caused, caused'⟩ := twins.located
    · rw [save_unlocated here free, save_unlocated there free', matched.host,
        matched.evidenceOf twins]
    · rw [save_located here caused before, save_located there caused' earlier, matched.host]
      exact congrArg _ (funext fun below => ih c before pairedCauses below)

/-- Twins that show evidence are added anew on both sides, behind that evidence. -/
theorem Matched.addShown (matched : Matched pairing left right) (twins : pairing.Twins l r a b)
    {evidence : Evidence} (stored : right.evidenceOf? b = some evidence) :
    MatchedWith pairing
      ((left.addEvidence evidence).2.addDiagnostic
        (a.withOrigin (a.origin.withEvidence left.evidence.length)))
      ((right.addEvidence evidence).2.addDiagnostic
        (b.withOrigin (b.origin.withEvidence right.evidence.length))) := by
  have shown := (matched.evidenceOf twins).trans stored
  obtain ⟨x, refers, -⟩ := Option.bind_eq_some_iff.mp shown
  have fresh : ∀ x' y', pairing.evidence x' y' →
      x' ≠ left.evidence.length ∧ y' ≠ right.evidence.length := by
    intro x' y' paired
    have inside := matched.evidence_lt paired
    omega
  have grown := matched.grow (addEvidence_grows left evidence) (addEvidence_grows right evidence)
  have added := grown.addEvidence fresh (addEvidence_stored left evidence)
    (addEvidence_stored right evidence)
  have new : (pairing.addEvidence _ _ fresh).evidence left.evidence.length
      right.evidence.length := .inr ⟨rfl, rfl⟩
  have clones := twins.withEvidence refers new left.diagnostics.length right.diagnostics.length
  obtain ⟨wider, extended, both, paired⟩ := added.addBoth clones
  exact ⟨wider, (pairing.extends_addEvidence _ _ fresh).trans extended, both, paired⟩

/-- Paired errors are loaded as paired errors. -/
theorem Matched.load (matched : Matched pairing left right) (paired : pairing.errors l r) :
    Parallel (MatchedWith pairing) (left.load l) (right.load r) := by
  induction l using Nat.strongRecOn generalizing r with
  | ind l ih =>
    obtain ⟨a, b, here, there, twins⟩ := matched.errors l r paired
    obtain ⟨free, free'⟩ | ⟨c, d, pairedCauses, before, earlier, caused, caused'⟩ := twins.located
    · rw [load_unlocated here free, load_unlocated there free', matched.evidenceOf twins]
      cases stored : right.evidenceOf? b with
      | none =>
        have inside := matched.lt paired
        simp only [addRebuilt_of_wellMade _ twins.first, addRebuilt_of_wellMade _ twins.second,
          twins.first.withOrigin_self, twins.second.withOrigin_self]
        exact .done (matched.addBoth (twins.mono (.refl pairing) (by omega) (by omega)))
      | some evidence =>
        simp only [addRebuilt_of_wellMade _ twins.first, addRebuilt_of_wellMade _ twins.second]
        exact .done (matched.addShown twins stored)
    · rw [load_located here caused before, load_located there caused' earlier]
      have loaded := ih c before pairedCauses
      generalize left.load c = first at loaded ⊢
      generalize right.load d = second at loaded ⊢
      cases loaded with
      | fault fault => exact .fault fault
      | @done first second cloned =>
        obtain ⟨wider, extended, cloned, pairedClones⟩ := cloned
        have inside := cloned.lt pairedClones
        have clones := twins.withCause caused pairedClones inside.1 inside.2
        obtain ⟨widest, extended', both, pairedBoth⟩ := cloned.addBoth clones
        simp only [bind, Except.bind, addRebuilt_of_wellMade _ twins.first,
          addRebuilt_of_wellMade _ twins.second]
        exact .done ⟨widest, extended.trans extended', both, pairedBoth⟩

/-- Clones of both errors of a pair are paired, or neither of them can be made. -/
theorem Matched.cloneDiagnostic (matched : Matched pairing left right)
    (paired : pairing.errors l r) (twins : pairing.Twins l r a b) (depth : Depth) :
    Parallel (MatchedWith pairing) (left.cloneDiagnostic depth l a)
      (right.cloneDiagnostic depth r b) := by
  cases depth with
  | shallow =>
    have inside := matched.lt paired
    simp only [Session.cloneDiagnostic, cloneShallow, addRebuilt_of_wellMade _ twins.first,
      addRebuilt_of_wellMade _ twins.second, twins.first.withOrigin_self,
      twins.second.withOrigin_self]
    exact .done (matched.addBoth (twins.mono (.refl pairing) (by omega) (by omega)))
  | deep =>
    simp only [Session.cloneDiagnostic, cloneDeep, matched.save paired]
    cases right.save 0 r with
    | error fault => exact .fault fault
    | ok saved => exact matched.load paired

end Session

end ParseFailure
