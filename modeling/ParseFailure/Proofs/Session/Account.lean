import ParseFailure.Proofs.Description.Lexed
import ParseFailure.Proofs.Session.Described
import ParseFailure.Proofs.Session.LifeCycle

/-!
The account that an error of the grammar gives of itself. Its place is fixed when it is made, its
code is told from its tokens whenever it is asked for, and its description is made on some read; as
long as the tokens are left alone the three are about the same token and the same situation.
-/

namespace ParseFailure

def Chain.place (chain : Chain) : Span := (chain.successor.map Token.span).getD Span.unknown

theorem Diagnostic.span_ofFailure (chain : Chain) (sequences : List (List Kind)) (e : Nat) :
    (Diagnostic.ofFailure chain sequences e).span = chain.place := by
  unfold Diagnostic.ofFailure Chain.place
  cases chain.successor <;> rfl

namespace Session

def evidenceAt? (session : Session) (id : Nat) : Option Evidence :=
  session.diagnostics[id]?.bind session.evidenceOf?

/-- An error that was made from a chain of tokens, or cloned from such an error, and whose tokens
are still as they were then, whatever else has happened. Listed with it are the tables of display
names that it has had, the present one first. -/
inductive Untouched (chain : Chain) (sequences : List (List Kind)) :
    Session → Nat → List NameTable → Prop where
  | made (session : Session) (slot : String) (expected : Expected) (names : NameTable)
      (read : expected.sequences = .ok sequences) :
      Untouched chain sequences
        (session.step (.construct slot (.failure chain expected names))).2
        session.diagnostics.length [names]
  | kept (session : Session) (id : Nat) (tables : List NameTable) (step : Step) (names : NameTable)
      (untouched : Untouched chain sequences session id tables)
      (same : (session.step step).2.evidenceAt? id = some (.failed ⟨chain, names⟩)) :
      Untouched chain sequences (session.step step).2 id (names :: tables)
  | cloned (session : Session) (id : Nat) (tables : List NameTable) (depth : Depth)
      (of slot : String) (new : Nat) (untouched : Untouched chain sequences session id tables)
      (held : session.slot? of = some (.diagnostic id))
      (made : (session.step (.clone depth of slot)).1.result = .ok .nothing)
      (holds : (session.step (.clone depth of slot)).2.slot? slot = some (.diagnostic new)) :
      Untouched chain sequences (session.step (.clone depth of slot)).2 new tables

variable {step : Step} {before after session : Session} {id e : Nat} {error : Diagnostic}
  {chain : Chain} {sequences : List (List Kind)} {names past : NameTable} {tables : List NameTable}
  {evidence : Evidence}

/-- What is known of an error whose tokens are untouched: it has its chain and the first of the
tables, and texts that it keeps are described by one of the tables. -/
structure Accountable (chain : Chain) (sequences : List (List Kind)) (session : Session)
    (tables : List NameTable) (error : Diagnostic) (e : Nat) (names : NameTable) : Prop where
  origin : error.origin = .grammar sequences e
  span : error.span = chain.place
  stored : session.evidence[e]? = some (.failed ⟨chain, names⟩)
  present : tables.head? = some names
  texts : ∀ texts, error.cell.rendered = some texts →
    ∃ old ∈ tables,
      texts.description = (Failure.mk chain old).describe session.host.limits sequences

theorem evidenceAt?_grammar (found : session.diagnostics[id]? = some error)
    (origin : error.origin = .grammar sequences e) :
    session.evidenceAt? id = session.evidence[e]? := by
  simp only [evidenceAt?, found, Option.bind_some, evidenceOf?, Diagnostic.evidence?, origin,
    Origin.evidence?]

theorem cloneDiagnostic_grammar (found : session.diagnostics[id]? = some error)
    (origin : error.origin = .grammar sequences e) (stored : session.evidence[e]? = some evidence)
    {depth : Depth} {cloned : Nat × Session}
    (made : session.cloneDiagnostic depth id error = .ok cloned) :
    ∃ clone own, cloned.2.diagnostics[cloned.1]? = some clone ∧
      cloned.2.evidence[own]? = some evidence ∧ clone.origin = .grammar sequences own ∧
      clone.span = error.span ∧ clone.cell = error.cell := by
  have refers : session.evidenceOf? error = some evidence := by
    simpa only [evidenceOf?, Diagnostic.evidence?, origin, Origin.evidence?, Option.bind_some]
      using stored
  obtain ⟨-, rfl⟩ | ⟨-, loads⟩ := cloneDiagnostic_ok made
  · exact ⟨_, e, addDiagnostic_found session _, stored, origin, rfl, rfl⟩
  · cases loads with
    | missing absent => simp [found] at absent
    | caused here caused before below =>
      cases Option.some.inj (found.symm.trans here)
      simp [Diagnostic.cause?, origin, Origin.cause?] at caused
    | shown here shown =>
      cases Option.some.inj (found.symm.trans here)
      cases Option.some.inj (refers.symm.trans shown)
      refine ⟨_, session.evidence.length, addDiagnostic_found _ _, addEvidence_stored session _,
        ?_, rfl, rfl⟩
      rw [Diagnostic.withOrigin, origin, Origin.withEvidence]
    | alone here unknown absent =>
      cases Option.some.inj (found.symm.trans here)
      simp [refers] at absent

theorem construct_failure (session : Session) {expected : Expected} (names : NameTable)
    (read : expected.sequences = .ok sequences) :
    session.construct (.failure chain expected names) =
      .ok (.diagnostic session.diagnostics.length,
        ((session.addEvidence (.failed ⟨chain, names⟩)).2.addDiagnostic
          (Diagnostic.ofFailure chain sequences session.evidence.length)).2) := by
  simp only [construct, read, bind, Except.bind]
  rfl

theorem made_held (session : Session) (slot : String) {expected : Expected} (names : NameTable)
    (read : expected.sequences = .ok sequences) :
    (session.step (.construct slot (.failure chain expected names))).2.slot? slot =
      some (.diagnostic session.diagnostics.length) := by
  simp only [Session.step, perform, construct_failure session names read, holdNew, slot?_hold,
    if_true]

theorem made_accountable (session : Session) (slot : String) {expected : Expected}
    (names : NameTable) (read : expected.sequences = .ok sequences) :
    ∃ error e,
      (session.step (.construct slot (.failure chain expected names))).2.diagnostics[
        session.diagnostics.length]? = some error ∧
      Accountable chain sequences (session.step (.construct slot (.failure chain expected names))).2
        [names] error e names := by
  have made := @construct_failure chain sequences session expected names read
  refine ⟨Diagnostic.ofFailure chain sequences session.evidence.length, session.evidence.length,
    ?_, rfl, Diagnostic.span_ofFailure chain sequences _, ?_, rfl, ?_⟩
  · simp [Session.step, perform, made, holdNew, hold, addDiagnostic, addEvidence]
  · simp [Session.step, perform, made, holdNew, hold, addDiagnostic, addEvidence]
  · intro texts kept
    contradiction

theorem Accountable.code (account : Accountable chain sequences session tables error e names) :
    session.code error = (Failure.mk chain names).code := by
  simp only [Session.code, evidenceOf?, Diagnostic.evidence?, account.origin, Origin.evidence?,
    Option.bind_some, account.stored, Evidence.code]

/-- Any step that leaves the tokens alone leaves the error accountable, if with another table. -/
theorem Accountable.after_step (account : Accountable chain sequences session tables error e past)
    (found : session.diagnostics[id]? = some error)
    (same : (session.step step).2.evidenceAt? id = some (.failed ⟨chain, names⟩)) :
    ∃ later, (session.step step).2.diagnostics[id]? = some later ∧
      Accountable chain sequences (session.step step).2 (names :: tables) later e names := by
  obtain ⟨later, present, origin, span⟩ := Moves.found (perform_moves session step) found
  obtain ⟨later', present', follow⟩ := step_texts found step
  cases Option.some.inj (present.symm.trans present')
  have origin := origin.trans account.origin
  have stored := (evidenceAt?_grammar present origin).symm.trans same
  have old : ∀ texts, error.cell.rendered = some texts → ∃ old ∈ names :: tables,
      texts.description =
        (Failure.mk chain old).describe (session.step step).2.host.limits sequences := by
    intro texts kept
    rw [step_limits]
    obtain ⟨old, member, same⟩ := account.texts texts kept
    exact ⟨old, List.mem_cons_of_mem _ member, same⟩
  refine ⟨later, present, origin, span.trans account.span, stored, rfl, fun texts kept => ?_⟩
  rcases follow with ⟨-, none⟩ | ⟨-, -, made⟩ | ⟨-, -, same⟩
  · rw [none] at kept
    contradiction
  · rw [made, toOption_eq_some] at kept
    cases own : error.cell.rendered with
    | some earlier =>
      have same : earlier = texts := Except.ok.inj ((texts_of_kept own).symm.trans kept)
      exact old texts (own.trans (congrArg some same))
    | none =>
      -- Texts made in this step are those of the table that the error had before it.
      refine ⟨past, List.mem_cons_of_mem _ (List.mem_of_head? account.present), ?_⟩
      rw [texts_of_empty own] at kept
      rw [Diagnostic.render_ok kept, step_limits]
      exact describe_grammar account.origin account.stored
  · exact old texts (same.symm.trans kept)

theorem Accountable.of_clone (account : Accountable chain sequences session tables error e names)
    (found : session.diagnostics[id]? = some error) {of slot : String} {depth : Depth} {new : Nat}
    (held : session.slot? of = some (.diagnostic id))
    (made : (session.step (.clone depth of slot)).1.result = .ok .nothing)
    (holds : (session.step (.clone depth of slot)).2.slot? slot = some (.diagnostic new)) :
    ∃ clone own, (session.step (.clone depth of slot)).2.diagnostics[new]? = some clone ∧
      Accountable chain sequences (session.step (.clone depth of slot)).2 tables clone own
        names := by
  simp only [Session.step, perform_clone held found] at made holds ⊢
  cases copied : session.cloneDiagnostic depth id error with
  | error fault => simp [copied] at made
  | ok cloned =>
    obtain ⟨clone, own, foundClone, stored, origin, span, cell⟩ :=
      cloneDiagnostic_grammar found account.origin account.stored copied
    simp only [copied] at holds ⊢
    have same : cloned.1 = new := by simpa [slot?, hold] using holds
    subst same
    have granted := (cloneDiagnostic_grows copied).host
    refine ⟨clone, own, foundClone, origin, span.trans account.span, stored, account.present, ?_⟩
    intro texts kept
    rw [hold, granted]
    exact account.texts texts (cell ▸ kept)

/-- The description of an error is told by its tokens and a table that it has had, which is the
present one if no texts are kept. -/
theorem Accountable.described
    (account : Accountable chain sequences session tables error e names) :
    ∃ old ∈ tables, (error.cell.rendered = none → names = old) ∧
      (session.textsInFull error).description =
        (Failure.mk chain old).describe session.host.limits sequences := by
  cases kept : error.cell.rendered with
  | none =>
    refine ⟨names, List.mem_of_head? account.present, fun _ => rfl, ?_⟩
    rw [textsInFull_first kept, describe_grammar account.origin account.stored]
    rfl
  | some texts =>
    obtain ⟨old, member, same⟩ := account.texts texts kept
    exact ⟨old, member, nofun, by rw [textsInFull, kept, Option.getD_some, same]⟩

theorem Untouched.accountable (untouched : Untouched chain sequences session id tables) :
    ∃ error e names, session.diagnostics[id]? = some error ∧
      Accountable chain sequences session tables error e names := by
  induction untouched with
  | made session slot expected names read =>
    obtain ⟨error, e, found, account⟩ := made_accountable session slot names read
    exact ⟨error, e, names, found, account⟩
  | kept session id tables step names _ same ih =>
    obtain ⟨error, e, past, found, account⟩ := ih
    obtain ⟨later, present, account⟩ := account.after_step found same
    exact ⟨later, e, names, present, account⟩
  | cloned session id tables depth of slot new _ held made holds ih =>
    obtain ⟨error, e, names, found, account⟩ := ih
    obtain ⟨clone, own, present, account⟩ := account.of_clone found held made holds
    exact ⟨clone, own, names, present, account⟩

/-- While the tokens of an error of the grammar are untouched, its place is that of the first token
that was not accepted; its code and its description are of one situation, in which the table of
names is one that the error has had, and the present one if nothing is kept; and the opening words
of a description tell the code. Only numbers with too many digits are in the way of a description:
where there is no bound on them, there always is one. -/
theorem account_agrees {codes : List (List Int)}
    (untouched : Untouched chain (ofCodes codes) session id tables) (lexed : chain.Lexed) :
    ∃ error code description names, session.diagnostics[id]? = some error ∧
      (match chain.successor with
        | some token => error.span = token.span
        | none => error.span = Span.unknown) ∧
      session.code error = .ok code ∧
      (session.get id error .description).1 =
        (if session.Readable error then .ok (.text description)
          else .error session.host.limits.digitFault) ∧
      names ∈ tables ∧
      (error.cell.rendered = none → session.evidenceAt? id = some (.failed ⟨chain, names⟩)) ∧
      chain.Tells session.host.limits (ofCodes codes) names code description ∧
      (∀ other words, other.opening? = some words →
        (words.toList <+: description.toList ↔
          other = code ∧ description ≠ Description.unavailable)) ∧
      (session.host.limits.digits = none →
        session.Readable error ∧ description ≠ Description.unavailable) := by
  obtain ⟨error, e, present, found, account⟩ := untouched.accountable
  have place : match chain.successor with
      | some token => error.span = token.span
      | none => error.span = Span.unknown := by
    rw [account.span, Chain.place]
    cases chain.successor <;> rfl
  have evidence : session.evidenceOf? error = some (.failed ⟨chain, present⟩) := by
    simpa only [evidenceOf?, Diagnostic.evidence?, account.origin, Origin.evidence?,
      Option.bind_some] using account.stored
  -- The description is that of a table which the error has had; the code is the same for all.
  obtain ⟨names, member, current, described⟩ := account.described
  obtain ⟨code, coded, tells⟩ := Failure.tells session.host.limits lexed names codes
  rw [← described] at tells
  refine ⟨error, code, _, names, found, place, ?_, get_description (by simp), member,
    fun empty => ?_, tells, fun other words => tells.opening_iff, fun unbounded => ⟨?_, ?_⟩⟩
  · rw [Session.code, evidence]
    exact coded
  · rw [evidenceAt?_grammar found account.origin, account.stored, current empty]
  · exact readable_of_unbounded unbounded
  · exact tells.available (legible_of_unbounded unbounded names (ofCodes codes))

/-- An `else` outside a conditional, on a chain that runs in a circle. -/
def circlingElse : Chain :=
  Chain.ofTokens ⟨.ofCategory .staticText, .text "x", ⟨1, 1, 1, 1⟩⟩
    [⟨.ofCategory .elseBranch, .text "<#else>", ⟨1, 2, 1, 8⟩⟩] (some 0)

def readAndCloned : Session :=
  (start (.usual 80 1000) false).after
    [.construct "e" (.failure circlingElse (.ofSequences (ofCodes [[30], []])) .standard),
      .act "e" (.get .message), .act "e" (.setName (.number 30) none), .forgetTooling,
      .clone .shallow "e" "f"]

theorem account_agrees_circlingElse :
    circlingElse.Lexed ∧
      ∃ error description, readAndCloned.diagnostics[1]? = some error ∧
        error.span = ⟨1, 2, 1, 8⟩ ∧
        readAndCloned.code error = .ok .misplacedDirective ∧
        (readAndCloned.get 1 error .description).1 = .ok (.text description) ∧
        Description.readMisplaced description.toList = some "<#else>" := by
  have lexed : circlingElse.Lexed := by
    refine Chain.ofTokens_lexed (List.forall_mem_cons.mpr ⟨?_, List.forall_mem_singleton.mpr ?_⟩) _
    all_goals exact ⟨_, _, rfl, rfl⟩
  have untouched : ∃ session tables, session.slot? "e" = some (.diagnostic 0) ∧
      (∃ error, session.diagnostics[0]? = some error ∧ error.WellMade) ∧
      session.diagnostics.length = 1 ∧ session.host.limits = .usual 80 1000 ∧
      (session.step (.clone .shallow "e" "f")).2 = readAndCloned ∧
      Untouched circlingElse (ofCodes [[30], []]) session 0 tables :=
    ⟨_, _, rfl, ⟨_, rfl, rfl, rfl⟩, rfl, rfl, rfl, .kept _ 0 _ .forgetTooling _
      (.kept _ 0 _ (.act "e" (.setName (.number 30) none)) _
        (.kept _ 0 _ (.act "e" (.get .message)) _
          (.made (start (.usual 80 1000) false) "e" _ .standard rfl) rfl) rfl) rfl⟩
  obtain ⟨session, tables, held, ⟨original, present, wellMade⟩, length, limits, reached,
    untouched⟩ := untouched
  obtain ⟨made, grown⟩ := clone_shallow_step held present wellMade "f"
  have holds : readAndCloned.slot? "f" = some (.diagnostic 1) := by
    rw [← reached, grown, length, slot?_hold, if_pos rfl]
  have untouched := Untouched.cloned session 0 tables .shallow "e" "f" 1 untouched held made
    (reached ▸ holds)
  rw [reached] at untouched
  obtain ⟨error, code, description, names, found, place, coded, answered, -, -, tells, -⟩ :=
    account_agrees untouched lexed
  have place : error.span = ⟨1, 2, 1, 8⟩ := place
  have readable : readAndCloned.Readable error := by
    intro empty
    rw [← reached, step_limits, limits, place]
    exact ⟨fun _ => by decide, by decide⟩
  rw [if_pos readable] at answered
  obtain ⟨image, text, ⟨-, ends, -⟩ | ⟨misplaced, -, -, read⟩ | ⟨-, -, other, -⟩⟩ := tells
  · exact absurd ends (by decide)
  · cases text
    exact ⟨lexed, error, description, found, place, misplaced ▸ coded, answered, read⟩
  · exact absurd (Or.inr (Or.inl rfl)) other

end Session

end ParseFailure
