import ParseFailure.Proofs.Description.Controls
import ParseFailure.Proofs.Session.Account

/-!
The control characters in what is read from an error of the grammar, in either mode and after any
renames and reads: line breaks of the layout, and those from U+007F to U+009F in the name of the
template and in a misplaced directive.
-/

namespace ParseFailure

open Text

/-- Texts that are kept have the heading of the present name. -/
def Diagnostic.Headed (error : Diagnostic) : Prop :=
  ∀ texts, error.cell.rendered = some texts →
    ∃ mode, texts = error.renderInFull mode error.cell.name texts.description

theorem Diagnostic.Headed.congr {error other : Diagnostic} (headed : error.Headed)
    (cell : other.cell = error.cell) (span : other.span = error.span) : other.Headed := by
  intro texts kept
  obtain ⟨mode, same⟩ := headed texts (cell ▸ kept)
  refine ⟨mode, ?_⟩
  rw [same, renderInFull, renderInFull, cell, span]

namespace Session

variable {step : Step} {before after session : Session} {id e : Nat} {error : Diagnostic}
  {chain : Chain} {sequences : List (List Kind)} {names : NameTable} {tables : List NameTable}

theorem headed_empty (empty : error.cell.rendered = none) : error.Headed := by
  intro texts kept
  rw [empty] at kept
  contradiction

theorem Move.headed (move : Move step before after) (found : before.diagnostics[id]? = some error)
    (headed : error.Headed) : ∃ later, after.diagnostics[id]? = some later ∧ later.Headed := by
  obtain ⟨later, foundLater, rfl | ⟨-, rfl⟩ | ⟨source, rfl⟩ | ⟨-, name, rfl⟩⟩ := move.changes found
  · exact ⟨_, foundLater, headed⟩
  · refine ⟨_, foundLater, fun texts kept => ?_⟩
    have read := toOption_eq_some.mp kept
    cases own : error.cell.rendered with
    | some earlier =>
      have same : earlier = texts := Except.ok.inj ((texts_of_kept own).symm.trans read)
      exact headed texts (own.trans (congrArg some same))
    | none =>
      rw [texts_of_empty own] at read
      have made := Diagnostic.render_ok read
      exact ⟨before.host.tooling, by rw [made]; rfl⟩
  · exact ⟨_, foundLater, headed.congr rfl rfl⟩
  · exact ⟨_, foundLater, headed_empty rfl⟩

theorem Moves.headed (moves : Moves step before after)
    (found : before.diagnostics[id]? = some error) (headed : error.Headed) :
    ∃ later, after.diagnostics[id]? = some later ∧ later.Headed := by
  induction moves with
  | refl => exact ⟨error, found, headed⟩
  | tail _ move ih =>
    obtain ⟨middle, present, headed⟩ := ih
    exact move.headed present headed

theorem Untouched.headed (untouched : Untouched chain sequences session id tables) :
    ∃ error, session.diagnostics[id]? = some error ∧ error.Headed := by
  induction untouched with
  | made session slot expected names read =>
    obtain ⟨error, e, found, -⟩ := made_accountable session slot names read
    have fresh : session.diagnostics[session.diagnostics.length]? = none :=
      List.getElem?_eq_none (Nat.le_refl _)
    exact ⟨error, found, headed_empty ((construct_step_adds session slot _).new fresh found)⟩
  | kept session id tables step names _ same ih =>
    obtain ⟨error, found, headed⟩ := ih
    exact Moves.headed (perform_moves session step) found headed
  | cloned session id tables depth of slot new untouched held made holds ih =>
    obtain ⟨error, found, headed⟩ := ih
    obtain ⟨original, e, names, present, account⟩ := untouched.accountable
    cases Option.some.inj (found.symm.trans present)
    obtain ⟨clone, own, cloned, accountClone⟩ := account.of_clone found held made holds
    obtain ⟨-, new', clone', -, holds', cloned', cell⟩ | ⟨⟨fault, missed⟩, -⟩ :=
      clone_step_found found held depth slot
    · cases Option.some.inj (holds.symm.trans holds')
      cases Option.some.inj (cloned.symm.trans cloned')
      exact ⟨clone, cloned, headed.congr cell (accountClone.span.trans account.span.symm)⟩
    · rw [missed] at made
      contradiction

/-- What is read from an error is headed for its name, in the present mode if it is made now. -/
theorem read_headed (headed : error.Headed) (session : Session) : ∃ mode,
    (error.cell.rendered = none → mode = session.host.tooling) ∧
      session.textsInFull error =
        error.renderInFull mode error.cell.name (session.textsInFull error).description := by
  unfold textsInFull
  cases kept : error.cell.rendered with
  | none => exact ⟨session.host.tooling, fun _ => rfl, rfl⟩
  | some texts =>
    obtain ⟨mode, same⟩ := headed texts kept
    exact ⟨mode, nofun, same⟩

/-- What is read from an error of the grammar whose tokens are untouched and whose table of names is
the standard one, in whichever way and mode: the control characters are line breaks of the layout,
and what quotes let through of the present name and of a misplaced directive. The text that stands
for no description, as where a number has too many digits, has none. -/
theorem controls_read {codes : List (List Int)}
    (untouched : Untouched chain (ofCodes codes) session id tables) (lexed : chain.Lexed)
    (standard : ∀ names ∈ tables, names = .standard) :
    ∃ error mode code texts, session.diagnostics[id]? = some error ∧
      session.code error = .ok code ∧
      session.ReadsAs id (if session.Readable error then .ok texts
        else .error session.host.limits.digitFault) ∧
      (error.cell.rendered = none → mode = session.host.tooling) ∧
      texts.message = Location.headingInFull mode error.cell.name error.span.beginLine
        error.span.beginColumn ++ texts.description ∧
      controls texts.message =
        Location.headingControls mode error.cell.name ++ controls texts.description ∧
      controls texts.description = (if texts.description = Description.unavailable then []
        else chain.descriptionControls codes.length code) ∧
      (Legible session.host.limits .standard (ofCodes codes) →
        texts.description ≠ Description.unavailable) := by
  obtain ⟨error, e, names, found, account⟩ := untouched.accountable
  obtain ⟨error', found', headed⟩ := untouched.headed
  cases Option.some.inj (found.symm.trans found')
  obtain ⟨mode, present, same⟩ := read_headed headed session
  obtain ⟨old, member, -, described⟩ := account.described
  obtain ⟨code, coded, tells⟩ := Failure.tells session.host.limits lexed .standard codes
  rw [standard old member] at described
  rw [← described] at tells
  have message : (session.textsInFull error).message = Location.headingInFull mode error.cell.name
      error.span.beginLine error.span.beginColumn ++ (session.textsInFull error).description :=
    congrArg Rendered.message same
  refine ⟨error, mode, code, session.textsInFull error, found, ?_, ?_, present, message, ?_,
    tells.controls, tells.available⟩
  · have table := standard names (List.mem_of_head? account.present)
    rw [account.code, table]
    exact coded
  · rw [← texts_eq]
    exact readsAs_read found
  · rw [message, controls_append, Location.controls_heading]

/-- An `else` with a control character in its text, outside a conditional. -/
def rawElse : Chain :=
  Chain.ofTokens ⟨.ofCategory .staticText, .text "t", ⟨1, 1, 1, 1⟩⟩
    [⟨.ofCategory .elseBranch, .text "\x7f", ⟨1, 2, 1, 2⟩⟩] none

def rawNamed : Session :=
  (start (.usual 80 1000) false).after
    [.construct "e" (.failure rawElse (.ofSequences (ofCodes [[30]])) .standard),
      .act "e" (.get .message), .act "e" (.rename (some "a\u009b"))]

theorem controls_read_rawElse :
    rawElse.Lexed ∧ ∃ texts, rawNamed.ReadsAs 0 (.ok texts) ∧
      controls texts.message = ['\u009b', '\n', '\x7f'] ∧
      controls texts.description = ['\x7f'] := by
  have lexed : rawElse.Lexed := by
    refine Chain.ofTokens_lexed (List.forall_mem_cons.mpr ⟨?_, List.forall_mem_singleton.mpr ?_⟩) _
    all_goals exact ⟨_, _, rfl, rfl⟩
  have untouched :
      Untouched rawElse (ofCodes [[30]]) rawNamed 0 [.standard, .standard, .standard] :=
    .kept _ 0 _ (.act "e" (.rename (some "a\u009b"))) _
      (.kept _ 0 _ (.act "e" (.get .message)) _
        (.made (start (.usual 80 1000) false) "e" _ .standard rfl) rfl) rfl
  have standard : ∀ names ∈ [NameTable.standard, .standard, .standard], names = .standard := by
    simp
  obtain ⟨error, mode, code, texts, found, coded, reads, present, -, inMessage, inDescription,
    described⟩ := controls_read untouched lexed standard
  cases Option.some.inj (found.symm.trans rfl)
  cases Except.ok.inj (coded.symm.trans rfl)
  cases present rfl
  rw [if_pos (by decide)] at reads
  rw [if_neg (described (by decide))] at inDescription
  rw [inDescription] at inMessage
  exact ⟨lexed, texts, reads, inMessage, inDescription⟩

end Session

end ParseFailure
