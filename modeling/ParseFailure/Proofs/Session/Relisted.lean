import ParseFailure.Proofs.Description.Relisted
import ParseFailure.Proofs.Session.Account

/-!
Failures that are reported with their expectations listed in one way or another. Code and place of
an error are told from its tokens alone. Its description has the list to read, and what another
listing changes there depends on the situation.
-/

namespace ParseFailure

open Description

variable {chain : Chain} {codes others : List (List Int)}

namespace Description

/-- How two descriptions of one chain compare whose expectations are listed in two ways. Generic
ones are compared only where the order of the sequences is all that differs; where a kind cannot be
displayed, there is none of either. -/
def Compared (limits : Limits) (chain : Chain) (names : NameTable) (codes others : List (List Int))
    (description other : String) : Prop :=
  match chain.situation with
  | .ok .ended => NamesAlike codes others description other
  | .ok (.misplaced _) => other = description
  | .ok .unexpected =>
    others.Perm codes →
      if Legible limits names (ofCodes codes) then
        LinesMoved limits chain names "\n" codes others description other
      else description = unavailable ∧ other = unavailable
  | .error _ => other = description

theorem describe_of_error {limits : Limits} {names : NameTable} {sequences : List (List Kind)}
    (failed : Fails (describe limits chain (.ofSequences sequences) names)) :
    (Failure.mk chain names).describe limits sequences = unavailable := by
  obtain ⟨fault, failed⟩ := failed
  simp only [Failure.describe, failed]

theorem describe_relisted (limits : Limits) (relisted : Relisted codes others)
    (worded : chain.Worded) (names : NameTable) :
    Compared limits chain names codes others
      ((Failure.mk chain names).describe limits (ofCodes codes))
      ((Failure.mk chain names).describe limits (ofCodes others)) := by
  unfold Compared
  cases situation : chain.situation with
  | error fault =>
    have missing : ∀ sequences,
        (Failure.mk chain names).describe limits sequences = unavailable := fun sequences =>
      describe_of_error (describe_unclear (situation ▸ fails_error fault))
    exact (missing _).trans (missing _).symm
  | ok found =>
    cases found with
    | ended =>
      obtain ⟨description, other, own, relistedToo, alike⟩ := endOfInput_relisted relisted
      have described : (Failure.mk chain names).describe limits (ofCodes codes) = description :=
        Failure.describe_of_ok ((describe_ended situation).trans own)
      have describedToo : (Failure.mk chain names).describe limits (ofCodes others) = other :=
        Failure.describe_of_ok ((describe_ended situation).trans relistedToo)
      rwa [described, describedToo]
    | misplaced directive =>
      have same : ∀ expected, describe limits chain expected names = misplaced directive :=
        fun _ => describe_misplaced situation
      simp only [Failure.describe, same]
    | unexpected =>
      intro perm
      have reordered := generic_reordered limits worded perm names "\n"
      simp only [← describe_unexpected situation] at reordered
      split at reordered
      · next legible =>
        obtain ⟨description, other, own, relistedToo, moved⟩ := reordered
        have described := @Failure.describe_of_ok limits _ ⟨chain, names⟩ _ own
        have describedToo := @Failure.describe_of_ok limits _ ⟨chain, names⟩ _ relistedToo
        rw [if_pos legible, described, describedToo]
        exact moved
      · next illegible =>
        rw [if_neg illegible]
        exact ⟨describe_of_error ⟨_, reordered.1⟩, describe_of_error ⟨_, reordered.2⟩⟩

end Description

namespace Session

def asked (session : Session) (slot : String) (chain : Chain) (sequences : List (List Kind))
    (names : NameTable) (field : Field) : Except Fault Reply :=
  let made := (session.step (.construct slot (.failure chain (.ofSequences sequences) names))).2
  (made.step (.act slot (.get field))).1.result

theorem asked_get (session : Session) (slot : String) (chain : Chain)
    (sequences : List (List Kind)) (names : NameTable) :
    ∃ after error e, Accountable chain sequences after [names] error e names ∧
      error.cell.rendered = none ∧ after.host = session.host ∧
      ∀ field, session.asked slot chain sequences names field =
        (after.get session.diagnostics.length error field).1 := by
  have read : (Expected.ofSequences sequences).sequences = .ok sequences :=
    readAll_sequences (fun _ => rfl) sequences
  have held := @made_held chain sequences session slot _ names read
  obtain ⟨error, e, found, account⟩ := @made_accountable chain sequences session slot _ names read
  have fresh := (construct_step_adds session slot
    (.failure chain (.ofSequences sequences) names)).new
      (List.getElem?_eq_none (Nat.le_refl _)) found
  let construction := Construction.failure chain (.ofSequences sequences) names
  have grows : ∀ held after, session.construct construction = .ok (held, after) →
      session.Grows after := fun _ _ => construct_grows
  have host := holdNew_host session slot grows
  exact ⟨_, error, e, account, fresh, host,
    fun field => congrArg Prod.fst (act_located held found (.get field))⟩

/-- The code and the place of a failure do not depend on what was expected. -/
theorem asked_elsewhere (session : Session) (slot : String) (chain : Chain)
    (sequences others : List (List Kind)) (names : NameTable) {field : Field}
    (elsewhere : field ∈ [Field.code, .line, .column, .endLine, .endColumn]) :
    session.asked slot chain others names field =
      session.asked slot chain sequences names field := by
  obtain ⟨after, error, e, account, -, -, answers⟩ := asked_get session slot chain sequences names
  obtain ⟨after', error', e', account', -, -, answers'⟩ := asked_get session slot chain others names
  have span : error'.span = error.span := account'.span.trans account.span.symm
  have code : after'.code error' = after.code error := account'.code.trans account.code.symm
  rw [answers, answers']
  simp only [List.mem_cons, List.not_mem_nil, or_false] at elsewhere
  rcases elsewhere with rfl | rfl | rfl | rfl | rfl
  all_goals simp only [get, span, code]

/-- A new error of the grammar can be read if a message about it can name its place. -/
def PlaceReadable (session : Session) (chain : Chain) : Prop :=
  Location.HeadingWritable session.host.limits session.host.tooling chain.place.beginLine
    chain.place.beginColumn

instance (session : Session) (chain : Chain) : Decidable (session.PlaceReadable chain) :=
  inferInstanceAs (Decidable (Location.HeadingWritable _ _ _ _))

theorem asked_description (session : Session) (slot : String) (chain : Chain)
    (sequences : List (List Kind)) (names : NameTable) :
    session.asked slot chain sequences names .description =
      if session.PlaceReadable chain then
        .ok (.text ((Failure.mk chain names).describe session.host.limits sequences))
      else .error session.host.limits.digitFault := by
  obtain ⟨after, error, e, account, fresh, host, answers⟩ :=
    asked_get session slot chain sequences names
  obtain ⟨old, own, -, described⟩ := account.described
  cases List.mem_singleton.mp own
  have readable : after.Readable error ↔ session.PlaceReadable chain := by
    simp [Readable, fresh, host, account.span, PlaceReadable]
  rw [answers, get_description (by simp), described, host]
  simp only [readable]

/-- However the expectations of a failure are listed, its error has the same code and the same
place, and it can or cannot be read. The description of an unexpected end names the same constructs,
each of them once; that of a misplaced directive is the same; and in a generic one, with any
terminator, another order of the sequences moves the lines in the same way and changes nothing else,
or neither order has one, as a number in them has too many digits. -/
theorem report_relisted (relisted : Relisted codes others) (worded : chain.Worded)
    (names : NameTable) (session : Session) (slot : String) :
    (∀ field ∈ [Field.code, .line, .column, .endLine, .endColumn],
      session.asked slot chain (ofCodes others) names field =
        session.asked slot chain (ofCodes codes) names field) ∧
    (if session.PlaceReadable chain then
      ∃ description other,
        session.asked slot chain (ofCodes codes) names .description = .ok (.text description) ∧
        session.asked slot chain (ofCodes others) names .description = .ok (.text other) ∧
        Compared session.host.limits chain names codes others description other
    else
      session.asked slot chain (ofCodes codes) names .description =
        .error session.host.limits.digitFault ∧
      session.asked slot chain (ofCodes others) names .description =
        .error session.host.limits.digitFault) ∧
    (others.Perm codes → ∀ limits terminator,
      if Legible limits names (ofCodes codes) then
        ∃ description other,
          generic limits chain (.ofSequences (ofCodes codes)) names terminator = .ok description ∧
          generic limits chain (.ofSequences (ofCodes others)) names terminator = .ok other ∧
          LinesMoved limits chain names terminator codes others description other
      else
        generic limits chain (.ofSequences (ofCodes codes)) names terminator =
          .error limits.digitFault ∧
        generic limits chain (.ofSequences (ofCodes others)) names terminator =
          .error limits.digitFault) := by
  have own := asked_description session slot chain (ofCodes codes) names
  have relistedToo := asked_description session slot chain (ofCodes others) names
  refine ⟨fun field elsewhere => ?_, ?_, fun perm limits => ?_⟩
  · exact asked_elsewhere session slot chain (ofCodes codes) (ofCodes others) names elsewhere
  · split
    · next readable =>
      rw [if_pos readable] at own relistedToo
      exact ⟨_, _, own, relistedToo,
        describe_relisted session.host.limits relisted worded names⟩
    · next unreadable =>
      rw [if_neg unreadable] at own relistedToo
      exact ⟨own, relistedToo⟩
  · exact generic_reordered limits worded perm names

def endedText : Chain :=
  Chain.ofTokens ⟨.ofCategory .staticText, .text "x", ⟨1, 1, 1, 1⟩⟩
    [⟨.endOfInput, .text "", ⟨1, 2, 1, 2⟩⟩] none

/-- Tokens in a circle, of which no kind is known. -/
def circlingUnknown : Chain :=
  Chain.ofTokens ⟨.absent, .text "x", ⟨1, 1, 1, 1⟩⟩ [⟨.number 999, .text "\t", ⟨1, 2, 1, 2⟩⟩]
    (some 0)

theorem report_relisted_twoChains :
    (Relisted [[30, 36], [31]] [[31], [36, 30], [31]] ∧ endedText.Worded ∧
      ∃ description other,
        (start (.usual 80 1000) false).asked "e" endedText (ofCodes [[30, 36], [31]]) .standard
          .description = .ok (.text description) ∧
        (start (.usual 80 1000) false).asked "e" endedText (ofCodes [[31], [36, 30], [31]])
          .standard .description = .ok (.text other) ∧
        NamesAlike [[30, 36], [31]] [[31], [36, 30], [31]] description other) ∧
    (Relisted [[30, -1], [], [5]] [[5], [30, -1], []] ∧ circlingUnknown.Worded ∧
      ∃ description other,
        (start (.usual 80 1000) false).asked "e" circlingUnknown (ofCodes [[30, -1], [], [5]])
          .malformed .description = .ok (.text description) ∧
        (start (.usual 80 1000) false).asked "e" circlingUnknown (ofCodes [[5], [30, -1], []])
          .malformed .description = .ok (.text other) ∧
        LinesMoved (.usual 80 1000) circlingUnknown .malformed "\n" [[30, -1], [], [5]]
          [[5], [30, -1], []] description other) := by
  constructor
  · have within : Relisted [[30, 36], [31]] [[36, 30], [31]] :=
      .within (.cons (by decide) (.cons (by decide) .nil))
    have relisted : Relisted [[30, 36], [31]] [[31], [36, 30], [31]] :=
      within.trans (.repeated (by decide))
    have worded : endedText.Worded :=
      List.forall_mem_cons.mpr ⟨⟨_, rfl⟩, List.forall_mem_singleton.mpr ⟨_, rfl⟩⟩
    obtain ⟨-, described, -⟩ :=
      report_relisted relisted worded .standard (start (.usual 80 1000) false) "e"
    rw [if_pos (by decide)] at described
    exact ⟨relisted, worded, described⟩
  · have perm : List.Perm [[5], [30, -1], []] ([[30, -1], [], [5]] : List (List Int)) := by decide
    have worded : circlingUnknown.Worded :=
      List.forall_mem_cons.mpr ⟨⟨_, rfl⟩, List.forall_mem_singleton.mpr ⟨_, rfl⟩⟩
    obtain ⟨-, described, -⟩ := report_relisted (.reordered perm) worded .malformed
      (start (.usual 80 1000) false) "e"
    rw [if_pos (by decide)] at described
    obtain ⟨description, other, own, moved, lines⟩ := described
    have lines := lines perm
    rw [if_pos (by decide)] at lines
    exact ⟨.reordered perm, worded, description, other, own, moved, lines⟩

end Session

end ParseFailure
