import ParseFailure.Proofs.Session.Account
import ParseFailure.Proofs.Session.Matching
import ParseFailure.Proofs.Session.Saving

/-!
Clones follow their originals. Whatever is asked of a clone from the moment that it is made, and of
clones of it, and whatever is done with them and with the process in between, the answers are those
that the original would have given.
-/

namespace ParseFailure

def redirected (old new name : String) : String := if name = old then new else name

namespace Step

def redirect (old new : String) : Step → Step
  | .clone depth of slot => .clone depth (redirected old new of) (redirected old new slot)
  | .act of action => .act (redirected old new of) action
  | step => step

/-- The names with the one that a step holds a clone under, if it has made one. -/
def joining (names : List String) (answer : Answer) : Step → List String
  | .clone _ _ slot =>
    match answer.result with
    | .ok _ => slot :: names
    | .error _ => names
  | _ => names

/-- Whether a step is about the process, or about an error that one of the names holds. A clone may
be held under any name but one; and if it cannot be made, that name holds none of the other errors.
-/
def Addresses (session : Session) (besides : String) (names : List String) : Step → Prop
  | .construct _ _ => False
  | .clone depth of slot => of ∈ names ∧ slot ≠ besides ∧
      (slot ∈ names ∨ session.slot? slot = none ∨
        (session.step (.clone depth of slot)).1.result = .ok .nothing)
  | .act of _ => of ∈ names
  | _ => True

end Step

namespace Session

/-- Whether each step is about the process, or about an error that one of the names holds, or about
a clone that a step before it has made. -/
def AllAddress (session : Session) (besides : String) (names : List String) : List Step → Prop
  | [] => True
  | first :: rest => first.Addresses session besides names ∧
      (session.step first).2.AllAddress besides (first.joining names (session.step first).1) rest

variable {pairing : Pairing} {session left right : Session} {l r id : Nat} {a b error : Diagnostic}
  {e c name other : String} {names : List String}

theorem redirected_inj (proper : name ≠ e) (proper' : other ≠ e)
    (same : redirected c e name = redirected c e other) : name = other := by
  unfold redirected at same
  split at same
  · next first =>
    split at same
    · next second => rw [first, second]
    · exact absurd same.symm proper'
  · split at same
    · exact absurd same proper
    · exact same

/-- Two sessions that differ in where the names lead, `c` in the one standing for `e` in the other.
-/
structure Alongside (e c : String) (names : List String) (pairing : Pairing)
    (left right : Session) : Prop where
  matched : Matched pairing left right
  within : c ∈ names
  besides : e ∉ names
  others : ∀ name, name ∉ names → name ≠ e → left.slot? name = right.slot? name
  held : ∀ name ∈ names, ∃ l r, left.slot? name = some (.diagnostic l) ∧
    right.slot? (redirected c e name) = some (.diagnostic r) ∧ pairing.errors l r

namespace Alongside

variable (along : Alongside e c names pairing left right)
include along

theorem kept (member : name ∈ names) : left.kept? name = right.kept? (redirected c e name) := by
  obtain ⟨l, r, slot, slot', paired⟩ := along.held name member
  obtain ⟨a, b, here, there, twins⟩ := along.matched.errors l r paired
  simp only [kept?, slot, slot', here, there, Option.map_some, twins.cell]

theorem of_slots {left' right' : Session} (matched : Matched pairing left' right')
    (same : left'.slots = left.slots) (same' : right'.slots = right.slots) :
    Alongside e c names pairing left' right' where
  matched := matched
  within := along.within
  besides := along.besides
  others name apart different := by
    simp only [slot?, same, same']
    exact along.others name apart different
  held name member := by
    simp only [slot?, same, same']
    exact along.held name member

theorem act (member : name ∈ names) (action : Action) :
    (left.step (.act name action)).1 = (right.step (.act (redirected c e name) action)).1 ∧
      Alongside e c names pairing (left.step (.act name action)).2
        (right.step (.act (redirected c e name) action)).2 := by
  obtain ⟨l, r, slot, slot', paired⟩ := along.held name member
  obtain ⟨a, b, here, there, twins⟩ := along.matched.errors l r paired
  have answers := (along.matched.resembles twins here there).actOn action
  have after : Alongside e c names pairing (left.actOn l a action).2 (right.actOn r b action).2 :=
    along.of_slots (along.matched.actOn paired twins action) (actOn_keeps here action).slots
      (actOn_keeps there action).slots
  simp only [Session.step, act_located slot here, act_located slot' there, Step.slot?,
    Option.bind_some, answers, after.kept member]
  exact ⟨trivial, after⟩

theorem hold {wider : Pairing} {cloned clonedToo : Nat × Session} (proper : other ≠ e)
    (extended : pairing.Extends wider) (matched : Matched wider cloned.2 clonedToo.2)
    (paired : wider.errors cloned.1 clonedToo.1) (slots : cloned.2.slots = left.slots)
    (slots' : clonedToo.2.slots = right.slots) :
    Alongside e c (other :: names) wider (cloned.2.hold other (.diagnostic cloned.1))
      (clonedToo.2.hold (redirected c e other) (.diagnostic clonedToo.1)) := by
  have slot : ∀ name, cloned.2.slot? name = left.slot? name := fun _ => congrArg _ slots
  have slot' : ∀ name, clonedToo.2.slot? name = right.slot? name := fun _ => congrArg _ slots'
  refine ⟨matched.hold _ _ _ _, List.mem_cons_of_mem _ along.within, ?_, ?_, ?_⟩
  · intro member
    rcases List.mem_cons.mp member with same | old
    · exact proper same.symm
    · exact along.besides old
  · intro known apart different
    have old : known ∉ names := fun member => apart (List.mem_cons_of_mem _ member)
    have distinct : known ≠ other := fun same => apart (same ▸ List.mem_cons_self)
    have distinct' : known ≠ redirected c e other := by
      unfold redirected
      split
      · exact different
      · exact distinct
    rw [slot?_hold, slot?_hold, if_neg distinct, if_neg distinct', slot, slot']
    exact along.others known old different
  · intro known member
    simp only [slot?_hold]
    by_cases new : known = other
    · subst new
      exact ⟨_, _, if_pos rfl, if_pos rfl, paired⟩
    · have old := (List.mem_cons.mp member).resolve_left new
      obtain ⟨l, r, held, held', pairedOld⟩ := along.held known old
      have proper' : known ≠ e := fun same => along.besides (same ▸ old)
      have new' : redirected c e known ≠ redirected c e other :=
        fun same => new (redirected_inj proper' proper same)
      refine ⟨l, r, ?_, ?_, extended.errors l r pairedOld⟩
      · rwa [if_neg new, slot]
      · rwa [if_neg new', slot']

/-- What a name holds that no clone has been made under is kept alike, if it is one of the names or
holds nothing. -/
theorem kept_missed (known : other ∈ names ∨ left.slot? other = none) (proper : other ≠ e) :
    left.kept? other = right.kept? (redirected c e other) := by
  by_cases member : other ∈ names
  · exact along.kept member
  · have free := known.resolve_left member
    have different : other ≠ c := fun same => member (same ▸ along.within)
    have free' := (along.others other member proper).symm.trans free
    simp only [redirected, if_neg different, kept?, free, free']

theorem clone (depth : Depth) (addressed : (Step.clone depth name other).Addresses left e names) :
    (left.step (.clone depth name other)).1 =
        (right.step (.clone depth (redirected c e name) (redirected c e other))).1 ∧
      ∃ wider, Alongside e c
        ((Step.clone depth name other).joining names (left.step (.clone depth name other)).1) wider
        (left.step (.clone depth name other)).2
        (right.step (.clone depth (redirected c e name) (redirected c e other))).2 := by
  obtain ⟨member, proper, known⟩ := addressed
  obtain ⟨l, r, slot, slot', paired⟩ := along.held name member
  obtain ⟨a, b, here, there, twins⟩ := along.matched.errors l r paired
  have performed := perform_clone slot here depth other
  have performed' := perform_clone slot' there depth (redirected c e other)
  obtain ⟨fault, missed, missed'⟩ | ⟨cloned, clonedToo, made, made', wider, extended, matched,
    new⟩ := (along.matched.cloneDiagnostic paired twins depth).outcomes
  · rw [missed] at performed
    rw [missed'] at performed'
    rw [Session.step, performed] at known
    rw [Session.step, Session.step, performed, performed']
    have same := along.kept_missed (known.imp_right fun free => free.resolve_right (by simp)) proper
    simp only [Step.slot?, Option.bind_some, Step.joining, same]
    exact ⟨trivial, pairing, along⟩
  · rw [made] at performed
    rw [made'] at performed'
    have after := along.hold proper extended matched new (cloneDiagnostic_grows made).slots
      (cloneDiagnostic_grows made').slots
    rw [Session.step, Session.step, performed, performed']
    simp only [Step.slot?, Option.bind_some, Step.joining, after.kept List.mem_cons_self]
    exact ⟨trivial, wider, after⟩

theorem setHost (change : Host → Host) : Alongside e c names pairing
    (left.setHost (change left.host)) (right.setHost (change right.host)) :=
  along.of_slots (along.matched.setHost (congrArg change along.matched.host)) rfl rfl

theorem step (step : Step) (addressed : step.Addresses left e names) :
    (left.step step).1 = (right.step (step.redirect c e)).1 ∧
      ∃ wider, Alongside e c (step.joining names (left.step step).1) wider (left.step step).2
        (right.step (step.redirect c e)).2 := by
  cases step with
  | setFlag value =>
    simp only [Step.redirect, Session.step, perform]
    cases checkVariable value with
    | error fault => exact ⟨rfl, pairing, along⟩
    | ok flag => exact ⟨rfl, pairing, along.setHost fun host => host.setFlag flag⟩
  | load name => exact ⟨rfl, pairing, along.setHost fun host => host.load name⟩
  | unload name => exact ⟨rfl, pairing, along.setHost fun host => host.unload name⟩
  | askTooling =>
    refine ⟨?_, pairing, along.setHost Host.settle⟩
    simp only [Step.redirect, Session.step, perform, along.matched.host]
    rfl
  | forgetTooling => exact ⟨rfl, pairing, along.setHost Host.forget⟩
  | setColors colors => exact ⟨rfl, pairing, along.setHost fun host => host.setColors colors⟩
  | construct => exact addressed.elim
  | clone depth of slot => exact along.clone depth addressed
  | act of action =>
    obtain ⟨answers, after⟩ := along.act addressed action
    exact ⟨answers, pairing, after⟩

omit along in
theorem run (along : Alongside e c names pairing left right) (steps : List Step)
    (addressed : left.AllAddress e names steps) :
    left.run steps = right.run (steps.map (Step.redirect c e)) := by
  induction steps generalizing names pairing left right with
  | nil => rfl
  | cons first rest ih =>
    obtain ⟨answers, wider, after⟩ := along.step first addressed.1
    simp only [Session.run, List.map_cons, answers]
    exact congrArg _ (ih after addressed.2)

end Alongside

theorem origins_itself {origin : Origin} {size : Nat}
    (causes : ∀ cause, origin.cause? = some (.diagnostic cause) → cause < l ∧ cause < r)
    (refers : ∀ e, origin.evidence? = some e → e < size) :
    (Pairing.itself r size).Origins l r origin origin := by
  cases origin with
  | grammar sequences x => exact .grammar sequences x x ⟨rfl, refers x rfl⟩
  | described text cause =>
    cases cause with
    | none => exact .uncaused text
    | some held =>
      cases held with
      | plain x => exact .plain text x x ⟨rfl, refers x rfl⟩
      | diagnostic cause =>
        obtain ⟨before, earlier⟩ := causes cause rfl
        exact .caused text cause cause ⟨rfl, earlier⟩ before earlier

theorem Grounded.twins_itself (grounded : session.Grounded)
    (found : session.diagnostics[id]? = some error) (later : id ≤ l) :
    (Pairing.itself id session.evidence.length).Twins l id error error := by
  have made := grounded.made id error found
  refine ⟨origins_itself ?_ ?_, rfl, rfl, rfl, made, made⟩
  · intro cause caused
    have before := grounded.causes id error cause found caused
    exact ⟨Nat.lt_of_lt_of_le before later, before⟩
  · intro e refers
    exact grounded.evidence id error e found refers

theorem itself_extends {small large size : Nat} (within : small ≤ large) :
    (Pairing.itself small size).Extends (.itself large size) :=
  ⟨fun _ _ paired => ⟨paired.1, Nat.lt_of_lt_of_le paired.2 within⟩, fun _ _ paired => paired⟩

/-- In a grounded session all that stands before a position answers to itself. -/
theorem Grounded.matched_itself (grounded : session.Grounded)
    (within : id ≤ session.diagnostics.length) :
    Matched (.itself id session.evidence.length) session session where
  host := rfl
  errors l r paired := by
    obtain ⟨rfl, before⟩ := paired
    have found := List.getElem?_eq_getElem (Nat.lt_of_lt_of_le before within)
    have twins := grounded.twins_itself found (Nat.le_refl _)
    exact ⟨_, _, found, found,
      twins.mono (itself_extends (Nat.le_of_lt before)) (Nat.le_refl _) (Nat.le_refl _)⟩
  evidence x y paired := by
    obtain ⟨rfl, inside⟩ := paired
    exact ⟨_, List.getElem?_eq_getElem inside, List.getElem?_eq_getElem inside⟩

/-- Another error of the session answers to the one at a position, and no later one is paired. -/
def MatchedBy (session : Session) (id : Nat) (cloned : Nat × Session) : Prop :=
  ∃ pairing : Pairing, Matched pairing cloned.2 session ∧ pairing.errors cloned.1 id ∧
    ∀ l r, pairing.errors l r → r ≤ id

theorem Matched.matchedBy (matched : Matched pairing left session)
    (bounded : ∀ l r, pairing.errors l r → r < id) (found : session.diagnostics[id]? = some error)
    (twins : pairing.Twins left.diagnostics.length id a error) :
    session.MatchedBy id (left.addDiagnostic a) := by
  have fresh : ∀ l r, pairing.errors l r → l ≠ left.diagnostics.length ∧ r ≠ id := by
    intro l r paired
    have inside := matched.lt paired
    have before := bounded l r paired
    omega
  have grown := matched.grow (addDiagnostic_grows left a) (.refl session)
  refine ⟨_, grown.add fresh (addDiagnostic_found left a) found twins, .inr ⟨rfl, rfl⟩, ?_⟩
  rintro l r (old | ⟨-, rfl⟩)
  · exact Nat.le_of_lt (bounded l r old)
  · exact Nat.le_refl r

theorem Grounded.again_matchedBy (grounded : session.Grounded)
    (found : session.diagnostics[id]? = some error) :
    session.MatchedBy id (session.addDiagnostic (error.withOrigin error.origin)) := by
  have inside := (List.getElem?_eq_some_iff.mp found).1
  rw [(grounded.made id error found).withOrigin_self]
  exact (grounded.matched_itself (Nat.le_of_lt inside)).matchedBy
    (fun l r paired => paired.1 ▸ paired.2) found
    (grounded.twins_itself found (Nat.le_of_lt inside))

theorem Grounded.loads_matchedBy (grounded : session.Grounded) {loaded : Nat × Session}
    (loads : session.Loads id loaded) (inside : id < session.diagnostics.length) :
    session.MatchedBy id loaded := by
  induction loads with
  | missing absent => exact absurd inside (Nat.not_lt.mpr (List.getElem?_eq_none_iff.mp absent))
  | @caused id cause error loaded found caused before below ih =>
    obtain ⟨pairing, matched, paired, bounded⟩ := ih (Nat.lt_trans before inside)
    have twins := (grounded.twins_itself found (Nat.le_refl id)).withCause caused paired
      (matched.lt paired).1 before
    rw [Origin.withCause_self caused, (grounded.made id error found).withOrigin_self] at twins
    exact matched.matchedBy (fun l r pair => Nat.lt_of_le_of_lt (bounded l r pair) before) found
      twins
  | @shown id error evidence found stored =>
    obtain ⟨e, refers, present⟩ := Option.bind_eq_some_iff.mp stored
    -- Nothing is paired at first: the evidence of the clone is not that of the original.
    have nothing : Matched (.itself 0 0) session session := by
      refine ⟨rfl, ?_, ?_⟩
      · intro l r paired
        exact absurd paired.2 (Nat.not_lt_zero l)
      · intro x y paired
        exact absurd paired.2 (Nat.not_lt_zero x)
    have fresh : ∀ x y, (Pairing.itself 0 0).evidence x y →
        x ≠ session.evidence.length ∧ y ≠ e := by
      intro x y paired
      exact absurd paired.2 (Nat.not_lt_zero x)
    have grown := nothing.grow (addEvidence_grows session evidence) (.refl session)
    have added := grown.addEvidence fresh (addEvidence_stored session _) present
    have new : ((Pairing.itself 0 0).addEvidence _ _ fresh).evidence session.evidence.length e :=
      .inr ⟨rfl, rfl⟩
    have twins := (grounded.twins_itself found (Nat.le_refl id)).withEvidence refers new
      session.diagnostics.length id
    rw [Origin.withEvidence_self refers, (grounded.made id error found).withOrigin_self] at twins
    exact added.matchedBy (fun l r paired => absurd paired.2 (Nat.not_lt_zero l)) found twins
  | @alone id error found unknown absent => exact grounded.again_matchedBy found

theorem Grounded.cloneDiagnostic_matched (grounded : session.Grounded)
    (found : session.diagnostics[id]? = some error) {depth : Depth} {cloned : Nat × Session}
    (made : session.cloneDiagnostic depth id error = .ok cloned) : ∃ pairing : Pairing,
    Matched pairing cloned.2 cloned.2 ∧ pairing.errors cloned.1 id := by
  have matchedBy : session.MatchedBy id cloned := by
    obtain ⟨-, rfl⟩ | ⟨-, loads⟩ := cloneDiagnostic_ok made
    · exact grounded.again_matchedBy found
    · exact grounded.loads_matchedBy loads (List.getElem?_eq_some_iff.mp found).1
  obtain ⟨pairing, matched, paired, -⟩ := matchedBy
  exact ⟨pairing, matched.grow (.refl _) (cloneDiagnostic_grows made), paired⟩

/-- A clone that is held under a name stands for its original from then on. -/
theorem Matched.alongside (matched : Matched pairing session session) {clone : Nat}
    (paired : pairing.errors clone id) (different : e ≠ c)
    (held : session.slot? e = some (.diagnostic id)) :
    Alongside e c [c] pairing (session.hold c (.diagnostic clone))
      (session.hold c (.diagnostic clone)) := by
  refine ⟨matched.hold c c _ _, List.mem_cons_self, by simpa using different,
    fun _ _ _ => rfl, ?_⟩
  intro name member
  cases List.mem_singleton.mp member
  refine ⟨clone, id, ?_, ?_, paired⟩
  · rw [slot?_hold, if_pos rfl]
  · rw [redirected, if_pos rfl, slot?_hold, if_neg different]
    exact held

/-- In every reachable session, an error has a shallow clone, and a deep one exactly if it can be
saved with all that it refers to; where there is none, nothing happens but a fault. A clone is
raised from a cause exactly if the error has one. Steps that are addressed to the clone, to clones
that these steps make, and to the process are answered as they would be if they were addressed to
the error. -/
theorem clone_follows (reachable : session.Reachable) (different : e ≠ c)
    (held : session.slot? e = some (.diagnostic id)) (depth : Depth) :
    ∃ error, session.diagnostics[id]? = some error ∧
      if (session.step (.clone depth e c)).1.result = .ok .nothing then
        (depth = .deep → session.Savable id) ∧
        ((session.step (.clone depth e c)).2.step (.act c (.get .chained))).1.result =
          .ok (.truth error.cause?.isSome) ∧
        ∀ steps, (session.step (.clone depth e c)).2.AllAddress e [c] steps →
          (session.step (.clone depth e c)).2.run steps =
            (session.step (.clone depth e c)).2.run (steps.map (Step.redirect c e))
      else
        depth = .deep ∧ ¬ session.Savable id ∧
        (∃ fault, (session.step (.clone depth e c)).1.result = .error fault) ∧
        (session.step (.clone depth e c)).2 = session := by
  have grounded := reachable.grounded
  obtain ⟨error, found⟩ := grounded.found held
  have possible := grounded.cloneDiagnostic_ok_iff found depth
  have performed := perform_clone held found depth c
  refine ⟨error, found, ?_⟩
  cases made : session.cloneDiagnostic depth id error with
  | error fault =>
    rw [made] at performed
    have never : ¬ (depth = .deep → session.Savable id) := by
      rw [← possible, made]
      simp
    rw [step, performed, if_neg (by simp)]
    simp only [Classical.not_imp] at never
    exact ⟨never.1, never.2, ⟨fault, rfl⟩, rfl⟩
  | ok cloned =>
    rw [made] at performed
    have grows := cloneDiagnostic_grows made
    obtain ⟨pairing, matched, paired⟩ := grounded.cloneDiagnostic_matched found made
    obtain ⟨clone, original, here, there, twins⟩ := matched.errors _ _ paired
    have same : original = error := Option.some.inj (there.symm.trans (grows.found found))
    subst same
    have after : (session.step (.clone depth e c)).2 = cloned.2.hold c (.diagnostic cloned.1) := by
      rw [step, performed]
    have slot : (cloned.2.hold c (.diagnostic cloned.1)).slot? c = some (.diagnostic cloned.1) := by
      rw [slot?_hold, if_pos rfl]
    have along := matched.alongside paired different (by rw [slot?, grows.slots]; exact held)
    rw [after, step, performed, if_pos rfl]
    refine ⟨possible.mp ⟨cloned, made⟩, ?_, fun steps => along.run steps⟩
    have answered := act_located slot here (.get .chained)
    rw [step, answered, actOn, get, (matched.resembles twins here there).chained,
      Diagnostic.isChained_of_wellMade twins.second]

/-- An error with a cause that keeps its texts, in a circle of tokens. -/
def causedInTurn : List Step :=
  [.construct "x" (.failure circlingElse (.ofSequences (ofCodes [[30], []])) .standard),
    .act "x" (.get .message),
    .construct "e" (.described none (some "page") ⟨2, 1, 0, 0⟩ (some (.slot "x")) (some "a\nb"))]

theorem clone_follows_causedInTurn :
    ((start (.usual 80 1000) true).after causedInTurn).Savable 1 ∧
    (((start (.usual 80 1000) true).after causedInTurn).step (.clone .deep "e" "c")).2.run
        [.act "c" .report, .forgetTooling, .setFlag (some "on"), .act "c" (.rename none),
          .act "c" (.get .message), .act "c" (.get .cause), .clone .deep "c" "d"] =
      (((start (.usual 80 1000) true).after causedInTurn).step (.clone .deep "e" "c")).2.run
        [.act "e" .report, .forgetTooling, .setFlag (some "on"), .act "e" (.rename none),
          .act "e" (.get .message), .act "e" (.get .cause), .clone .deep "e" "d"] := by
  have savable : ((start (.usual 80 1000) true).after causedInTurn).Savable 1 := by
    refine ⟨2, _, .caused rfl rfl (.own rfl nofun), by decide, ?_⟩
    intro evidence stored
    cases Option.some.inj stored
    exact ⟨by decide, nofun⟩
  obtain ⟨error, found, follows⟩ :=
    clone_follows ⟨.usual 80 1000, true, causedInTurn, rfl⟩ (by decide : "e" ≠ "c") rfl .deep
  split at follows
  · refine ⟨savable, follows.2.2 _ ?_⟩
    have free := @after_slot (start (.usual 80 1000) true) "d" (causedInTurn ++
      [.clone .deep "e" "c", .act "c" .report, .forgetTooling, .setFlag (some "on"),
        .act "c" (.rename none), .act "c" (.get .message), .act "c" (.get .cause)])
      (by simp [causedInTurn, Step.taken?])
    have member : "c" ∈ ["c"] := List.mem_singleton_self "c"
    exact ⟨member, trivial, trivial, member, member, member,
      ⟨member, by decide, .inr (.inl free)⟩, trivial⟩
  · exact absurd savable follows.2.1

end Session

end ParseFailure
