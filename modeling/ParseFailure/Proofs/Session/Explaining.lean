import ParseFailure.Proofs.Excerpt
import ParseFailure.Proofs.Session.Resembling
import ParseFailure.Proofs.Situation

/-!
What may go wrong while a failure is explained. A description is guarded, but these are not: the
reading of what was expected, the search for the code, the numbers of the place, the drawing of the
caret, and the words of the cause.
-/

namespace ParseFailure

variable {fault : Fault}

namespace Expected

/-- Expectations that cannot be read: a number where the sequences should stand, or something else
than a sequence among them, of which the first is met. -/
def Unreadable (expected : Expected) (fault : Fault) : Prop :=
  (∃ n, expected = .number n ∧ n ≠ 0 ∧ fault = .notIterable .number) ∨
    ∃ (sequences : List (List Kind)) (found : Shape) (rest : List Alternative),
      expected = .listed (sequences.map Alternative.sequence ++ .malformed found :: rest) ∧
        fault = .notIterable found

theorem readAll_error {alternatives : List Alternative} :
    readAll Alternative.kinds alternatives = .error fault ↔
      ∃ (sequences : List (List Kind)) (found : Shape) (rest : List Alternative),
        alternatives = sequences.map Alternative.sequence ++ .malformed found :: rest ∧
          fault = .notIterable found := by
  induction alternatives with
  | nil => simp [readAll]
  | cons alternative others ih =>
    rw [readAll, bind_error]
    simp only [bind_ok_error, ih]
    cases alternative with
    | malformed found =>
      constructor
      · rintro (failed | ⟨kinds, read, -⟩)
        · exact ⟨[], found, others, rfl, (Except.error.inj failed).symm⟩
        · contradiction
      · rintro ⟨sequences, other, rest, same, rfl⟩
        cases sequences with
        | nil =>
          cases same
          exact .inl rfl
        | cons kinds more => simp at same
    | sequence kinds =>
      constructor
      · rintro (failed | ⟨read, -, sequences, found, rest, rfl, meets⟩)
        · contradiction
        · exact ⟨kinds :: sequences, found, rest, rfl, meets⟩
      · rintro ⟨sequences, found, rest, same, meets⟩
        cases sequences with
        | nil => simp at same
        | cons first more =>
          obtain ⟨-, tail⟩ := List.cons.inj same
          exact .inr ⟨kinds, rfl, more, found, rest, tail, meets⟩

theorem sequences_error {expected : Expected} :
    expected.sequences = .error fault ↔ expected.Unreadable fault := by
  unfold sequences Unreadable
  cases expected with
  | listed found =>
    simp only [alternatives, reduceCtorEq, false_and, exists_false, false_or, listed.injEq]
    exact readAll_error
  | absent => simp [alternatives, readAll, bind, Except.bind]
  | number n =>
    by_cases zero : n = 0
    · simp [alternatives, zero, readAll, bind, Except.bind]
    · simp [alternatives, zero, bind, Except.bind, eq_comm]

end Expected

namespace Session

variable {session : Session} {error : Diagnostic}

/-- The first token that was not accepted before an error has a list for its kind. -/
def ListAhead (session : Session) (error : Diagnostic) : Prop :=
  ∃ failure token, session.evidenceOf? error = some (.failed failure) ∧
    failure.chain.successor = some token ∧ token.kind.isList

theorem code_error : session.code error = .error fault ↔
    fault = .listAsKey ∧ session.ListAhead error := by
  unfold code ListAhead
  cases known : session.evidenceOf? error with
  | none => simp
  | some evidence =>
    cases evidence with
    | plain plain => simp [Evidence.code]
    | failed failure =>
      have mapped : (Evidence.failed failure).code = .error fault ↔
          failure.chain.situation = .error fault := by
        rw [Evidence.code, Failure.code_eq]
        cases failure.chain.situation <;> simp [Except.map]
      simp only [mapped, Chain.situation_error, Option.some.injEq, Evidence.failed.injEq]
      simp

/-- What stops the cause of an error from being put into words: a plain error may raise whatever it
likes, and a located one may have a number with too many digits in its first message. -/
def CauseUntold (session : Session) (error : Diagnostic) (fault : Fault) : Prop :=
  ∃ held, error.cause? = some held ∧
    match held with
    | .plain e => ∃ plain, session.plain? e = some plain ∧ plain.text = .error fault
    | .diagnostic cause => ∃ other, session.diagnostics[cause]? = some other ∧
        ¬ session.Readable other ∧ fault = session.host.limits.digitFault

theorem texts_error : session.texts error = .error fault ↔
    ¬ session.Readable error ∧ fault = session.host.limits.digitFault := by
  rw [texts_eq]
  split
  · next readable => simp [readable]
  · next unreadable => simp [unreadable, eq_comm]

theorem map_error {α β : Type} {made : Except Fault α} {shape : α → β} :
    made.map shape = .error fault ↔ made = .error fault := by
  cases made <;> simp [Except.map]

theorem causeOf_error : (session.causeOf error).1 = .error fault ↔
    session.CauseUntold error fault := by
  unfold CauseUntold
  cases caused : error.cause? with
  | none => simp [causeOf, caused]
  | some held =>
    simp only [Option.some.injEq, exists_eq_left']
    cases held with
    | plain e =>
      simp only [causeOf, caused, textOf, map_error, plainText]
      cases session.plain? e with
      | none => simp
      | some plain => simp [map_error]
    | diagnostic cause =>
      cases stored : session.diagnostics[cause]? with
      | some other =>
        rw [causeOf_found stored caused, map_error, texts_error]
        simp [stored]
      | none => simp [causeOf, caused, textOf, stored, Except.map]

theorem report_error {id : Nat} (found : session.diagnostics[id]? = some error) :
    (session.report id error).1 = .error fault ↔
      session.code error = .error fault ∨
        (∃ code, session.code error = .ok code) ∧
          (session.texts error = .error fault ∨
            (∃ texts, session.texts error = .ok texts) ∧
              (error.place session.host.limits = .error fault ∨
                (∃ place, error.place session.host.limits = .ok place) ∧
                  (error.Uncaretable session.host.limits fault ∨
                    (∀ other, ¬ error.Uncaretable session.host.limits other) ∧
                      session.CauseUntold error fault))) := by
  have uncaretable : ∀ other, error.excerpt session.host.limits session.host.colors = .error other ↔
      error.Uncaretable session.host.limits other := fun _ => Diagnostic.excerpt_error
  rw [report_fst, read_causeOf found, ← causeOf_error]
  simp only [← uncaretable, bind_error]
  cases session.code error <;> cases session.texts error <;>
    cases error.place session.host.limits <;>
    cases error.excerpt session.host.limits session.host.colors <;> simp

theorem construct_error {chain : Chain} {expected : Expected} {names : NameTable} :
    session.construct (.failure chain expected names) = .error fault ↔
      expected.Unreadable fault := by
  rw [construct, ← Expected.sequences_error, bind_error]
  simp

/-- A failure is made into an error unless what was expected cannot be read; an error has a code
unless a list stands ahead. It has a report unless it has no code; or the first message or the place
shows a number with too many digits; or the caret cannot be drawn; or the cause cannot be put into
words. In every session, nothing else goes wrong. -/
theorem explaining_faults (session : Session) (fault : Fault) :
    (∀ chain expected names, session.construct (.failure chain expected names) = .error fault ↔
        expected.Unreadable fault) ∧
      (∀ error, session.code error = .error fault ↔
        fault = .listAsKey ∧ session.ListAhead error) ∧
      ∀ id error, session.diagnostics[id]? = some error →
        ((session.report id error).1 = .error fault ↔
          (fault = .listAsKey ∧ session.ListAhead error) ∨
            ¬ session.ListAhead error ∧
              ((fault = session.host.limits.digitFault ∧
                  (session.Readable error → ¬ Report.PlaceWritable session.host.limits
                    error.span.beginLine error.span.beginColumn)) ∨
                session.Readable error ∧
                  Report.PlaceWritable session.host.limits error.span.beginLine
                    error.span.beginColumn ∧
                  (error.Uncaretable session.host.limits fault ∨
                    (∀ other, ¬ error.Uncaretable session.host.limits other) ∧
                      session.CauseUntold error fault))) := by
  refine ⟨fun chain expected names => construct_error, fun error => code_error,
    fun id error found => ?_⟩
  have coded : (∃ code, session.code error = .ok code) ↔ ¬ session.ListAhead error := by
    rw [← not_fails_iff]
    simp [Fails, code_error]
  rw [report_error found, code_error, coded, texts_eq, Diagnostic.place, Report.placeOf_eq]
  by_cases readable : session.Readable error
  · by_cases placed : Report.PlaceWritable session.host.limits error.span.beginLine
        error.span.beginColumn
    · simp [readable, placed]
    · simp [readable, placed, eq_comm]
  · simp [readable, eq_comm]

/-- A located error whose cause raises an error of its own when it is put into words. -/
def hiddenCause : Session :=
  (start (.usual 80 1000) false).after
    [.construct "e" (.described (some "Bad") none ⟨3, 7, 0, 0⟩
      (some (.plain ⟨"Odd", [], .error (.raised "ValueError" "no words"), none⟩)) none)]

/-- Its texts can be read and it has a code, but its report meets what the cause raises. -/
theorem explaining_faults_hiddenCause :
    ∃ error, hiddenCause.diagnostics[0]? = some error ∧
      (hiddenCause.report 0 error).1 = .error (.raised "ValueError" "no words") := by
  refine ⟨_, rfl, ((explaining_faults hiddenCause _).2.2 0 _ rfl).mpr
    (.inr ⟨?_, .inr ⟨?_, ?_, ?_⟩⟩)⟩
  · rintro ⟨failure, token, known, -⟩
    cases Option.some.inj known
  · decide
  · decide
  · refine .inr ⟨?_, _, rfl, _, rfl, rfl⟩
    rintro other ⟨source, known, -⟩
    contradiction

end Session

end ParseFailure
