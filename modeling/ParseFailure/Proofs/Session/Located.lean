import Mathlib.Data.Nat.Digits.Defs
import ParseFailure.Proofs.Excerpt.Window
import ParseFailure.Proofs.Session.Colors
import ParseFailure.Proofs.Text.Positions

/-!
Errors at a place of their template. The line that a lexer counts at an offset is the line that an
excerpt around that number marks, with one exception: at the end of a text whose last line is ended
the lexer is on a line that the text does not have, so an error that is found there is reported
without an excerpt.
-/

namespace ParseFailure

namespace Excerpt

open Text (AtEnd)

variable {source content : String} {i : Nat} {n errorLine context : Int} {column : Option Int}
  {limits : Limits} {colors : Bool}

/-- The number of the line at an offset, as a lexer counts. -/
def lineNumber (source : String) (i : Nat) : Int := Text.lineEnds source.toList i + 1

def lineText (source : String) (i : Nat) : String := String.ofList (Text.lineAround source.toList i)

theorem lines_lineNumber (inside : i ≤ source.length) :
    (AtEnd source.toList i ∧ (Text.lines source)[Text.lineEnds source.toList i]? = none) ∨
      (¬ AtEnd source.toList i ∧ LineAt source (lineNumber source i) (lineText source i)) := by
  have place : (lineNumber source i).toNat - 1 = Text.lineEnds source.toList i := by
    unfold lineNumber
    omega
  have positive : 0 < lineNumber source i := by
    unfold lineNumber
    omega
  rw [LineAt, place, Text.lines, List.getElem?_map]
  rw [← String.length_toList] at inside
  rcases Text.splitLines_lineEnds inside with ⟨atEnd, missing⟩ | ⟨within, found⟩
  · exact .inl ⟨atEnd, by rw [missing, Option.map_none]⟩
  · exact .inr ⟨within, positive, by rw [found, Option.map_some, lineText]⟩

theorem lineAt_lineNumber (inside : i ≤ source.length) (within : ¬ AtEnd source.toList i) :
    LineAt source (lineNumber source i) (lineText source i) :=
  ((lines_lineNumber inside).resolve_left fun ended => within ended.1).2

theorem ofSource_lineNumber (inside : i ≤ source.length) (context : Int) (column : Option Int) :
    ofSource source (lineNumber source i) context column = none ↔ AtEnd source.toList i := by
  rw [ofSource_eq_none]
  rcases lines_lineNumber inside with ⟨atEnd, missing⟩ | ⟨within, line⟩
  · refine iff_of_true (.inr ?_) atEnd
    have beyond := List.getElem?_eq_none_iff.mp missing
    unfold lineNumber
    omega
  · refine iff_of_false ?_ within
    have first := line.1
    have last := line.le_length
    omega

theorem Paddable.writes {c : Int} (paddable : Paddable limits c) : limits.writes c = true := by
  have word := paddable.1
  simp only [fitsWord, Bool.and_eq_true, decide_eq_true_eq] at word
  have short : c.natAbs < 10 ^ 20 := by omega
  have digits : Text.digitCount c ≤ 20 := Nat.toDigits_length 10 c.natAbs 20 (by decide) short
  exact Limits.writes_of_short (digits.trans (by decide))

theorem exists_caretLines (colors : Bool) (paddable : ∀ c, column = some c → Paddable limits c) :
    ∃ marks, caretLines limits colors column = .ok marks := by
  cases column with
  | none => exact ⟨[], rfl⟩
  | some c =>
    refine not_fails_iff.mp fun ⟨fault, failed⟩ => ?_
    have drawn := caret_ok (paddable c rfl)
    exact absurd (drawn.symm.trans (caret_error.mpr (caretLines_error.mp failed).2)) nofun

theorem exists_bodyLines {lines : List (Int × String)} {marks : List String}
    (drawn : caretLines limits colors column = .ok marks) :
    ∃ rows, bodyLines limits colors errorLine column lines = .ok rows ∧
      ∀ n content, (n, content) ∈ lines →
        Terminal.sourceLine colors n content (n == errorLine) ∈ rows := by
  induction lines with
  | nil => exact ⟨[], rfl, fun _ _ => nofun⟩
  | cons line rest ih =>
    obtain ⟨n, content⟩ := line
    obtain ⟨rows, made, others⟩ := ih
    have drawing : ∃ under, bodyLines limits colors errorLine column ((n, content) :: rest) =
        .ok (Terminal.sourceLine colors n content (n == errorLine) :: (under ++ rows)) := by
      by_cases here : n = errorLine
      · refine ⟨marks, ?_⟩
        rw [bodyLines, if_pos here, drawn, made]
        rfl
      · refine ⟨[], ?_⟩
        rw [bodyLines, if_neg here, made]
        rfl
    obtain ⟨under, drawing⟩ := drawing
    refine ⟨_, drawing, fun other text member => ?_⟩
    rcases List.mem_cons.mp member with same | later
    · cases same
      exact List.mem_cons_self
    · exact List.mem_cons_of_mem _ (List.mem_append_right _ (others other text later))

theorem format_line {excerpt : Excerpt} (number : excerpt.errorLine = errorLine)
    (shown : (errorLine, content) ∈ excerpt.lines)
    (paddable : ∀ c, excerpt.column = some c → Paddable limits c) (colors : Bool) :
    ∃ rows, excerpt.format limits colors = .ok (Text.joinWith "\n" rows) ∧
      Terminal.sourceLine colors errorLine content true ∈ rows := by
  obtain ⟨marks, drawn⟩ := exists_caretLines colors paddable
  obtain ⟨rows, made, each⟩ := exists_bodyLines drawn
  have marked := each _ _ shown
  rw [beq_self_eq_true] at marked
  refine ⟨border colors :: (rows ++ [border colors]), ?_, ?_⟩
  · rw [format, number, made]
    rfl
  · exact List.mem_cons_of_mem _ (List.mem_append_left _ marked)

end Excerpt

namespace Diagnostic

open Excerpt
open Text (AtEnd)

variable {error : Diagnostic} {source : String} {i : Nat} {limits : Limits}

/-- The excerpt of an error at an offset of its template is left out at the end of an ended text,
and marks the line at the offset otherwise. -/
theorem excerpt_located (inside : i ≤ source.length) (known : error.source = some source)
    (line : error.span.beginLine = lineNumber source i)
    (paddable : Paddable limits error.span.beginColumn) (colors : Bool) :
    ∃ drawn, error.excerpt limits colors = .ok drawn ∧
      (drawn = none ↔ AtEnd source.toList i) ∧
      ∀ text, drawn = some text → ∃ rows, text = Text.joinWith "\n" rows ∧
        Terminal.sourceLine colors (lineNumber source i) (lineText source i) true ∈ rows := by
  by_cases atEnd : AtEnd source.toList i
  · have outside := (ofSource_lineNumber inside 2 (some error.span.beginColumn)).mpr atEnd
    rw [← line] at outside
    exact ⟨none, excerpt_none known outside, iff_of_true rfl atEnd, fun _ => nofun⟩
  · have present := lineAt_lineNumber inside atEnd
    rw [← line] at present ⊢
    obtain ⟨around, number, column, shown, drawn⟩ := excerpt_lineAt known present
    obtain ⟨rows, made, marked⟩ := format_line number shown
      (fun c same => Option.some.inj (column.symm.trans same) ▸ paddable) colors
    refine ⟨some (Text.joinWith "\n" rows), ?_, iff_of_false nofun atEnd, ?_⟩
    · rw [drawn, made]
      rfl
    · intro text same
      exact ⟨rows, (Option.some.inj same).symm, marked⟩

end Diagnostic

namespace Session

open Excerpt
open Text (AtEnd)

/-- The report of an error that can be read, with its excerpt and its cause. -/
def reportedWith (session : Session) (error : Diagnostic) (code : ErrorCode)
    (excerpt : Option String) (cause : Option (String × String)) : String :=
  Report.text session.host.colors
    { code := code.value
      description := (session.textsInFull error).description
      place := Report.placeInFull error.cell.name error.span.beginLine error.span.beginColumn
      excerpt := excerpt
      cause := cause }

theorem report_drawn {session : Session} {error : Diagnostic} {code : ErrorCode}
    {drawn : Option String} (id : Nat) (coded : session.code error = .ok code)
    (made : error.excerpt session.host.limits session.host.colors = .ok drawn)
    (line : session.host.limits.writes error.span.beginLine = true)
    (column : session.host.limits.writes error.span.beginColumn = true) :
    (session.report id error).1 = (do
      let cause ← ((session.read id error).2.causeOf error).1
      .ok (session.reportedWith error code drawn cause)) := by
  have readable : session.Readable error := fun _ => ⟨fun _ => line, column⟩
  have placed : Report.PlaceWritable session.host.limits error.span.beginLine
      error.span.beginColumn := .inr ⟨line, .inr column⟩
  have report := session.report_fst id error
  rw [coded, made, texts_eq, if_pos readable, Diagnostic.place, Report.placeOf_eq,
    if_pos placed] at report
  exact report

/-- A line with too many digits is met in the heading or in the place, before there is an excerpt.
-/
theorem report_unwritable {session : Session} {error : Diagnostic} {code : ErrorCode} (id : Nat)
    (coded : session.code error = .ok code) (known : error.span.beginLine ≠ 0)
    (line : session.host.limits.writes error.span.beginLine = false) :
    (session.report id error).1 = .error session.host.limits.digitFault := by
  have misplaced : ¬ Report.PlaceWritable session.host.limits error.span.beginLine
      error.span.beginColumn := by
    simp [Report.PlaceWritable, known, line]
  have report := session.report_fst id error
  rw [coded, texts_eq, Diagnostic.place, Report.placeOf_eq, if_neg misplaced] at report
  rw [report]
  split <;> rfl

/-- At the line that a lexer counts at an offset of a text there is an excerpt, and it shows the
text of the line, unless the offset is the end of a text that is empty or has its last line ended:
there is none then. A report of an error that is located there marks the line, or has no excerpt,
unless the number of the line has too many digits or the cause cannot be put into words. -/
theorem position_reported {source : String} {i : Nat} (inside : i ≤ source.length) :
    (∀ context column, ofSource source (lineNumber source i) context column = none ↔
        AtEnd source.toList i) ∧
      (¬ AtEnd source.toList i → ∀ context column, 0 ≤ context →
        ∃ excerpt, ofSource source (lineNumber source i) context column = some excerpt ∧
          excerpt.errorLine = lineNumber source i ∧
          (lineNumber source i, lineText source i) ∈ excerpt.lines) ∧
      ∀ (session : Session) (id : Nat) (error : Diagnostic) (code : ErrorCode),
        session.code error = .ok code → error.source = some source →
        error.span.beginLine = lineNumber source i →
        Paddable session.host.limits error.span.beginColumn →
        if session.host.limits.writes (lineNumber source i) then
          ∃ drawn, (session.report id error).1 = (do
              let cause ← ((session.read id error).2.causeOf error).1
              .ok (session.reportedWith error code drawn cause)) ∧
            (drawn = none ↔ AtEnd source.toList i) ∧
            ∀ text, drawn = some text → ∃ rows, text = Text.joinWith "\n" rows ∧
              Terminal.sourceLine session.host.colors (lineNumber source i) (lineText source i)
                true ∈ rows
        else (session.report id error).1 = .error session.host.limits.digitFault := by
  refine ⟨ofSource_lineNumber inside, fun within context column around => ?_, ?_⟩
  · obtain ⟨excerpt, made, number, -, shown⟩ :=
      ofSource_line (lineAt_lineNumber inside within) around column
    exact ⟨excerpt, made, number, shown⟩
  · intro session id error code coded known line paddable
    rw [← line]
    split
    · next writes =>
      obtain ⟨drawn, made, missing, marked⟩ :=
        error.excerpt_located inside known line paddable session.host.colors
      rw [← line] at marked
      exact ⟨drawn, report_drawn id coded made writes paddable.writes, missing, marked⟩
    · next unwritable =>
      have positive : error.span.beginLine ≠ 0 := by
        unfold lineNumber at line
        omega
      exact report_unwritable id coded positive (by simpa using unwritable)

def openText : String := "<#if x>\na\n"

/-- The error of a grammar at the end of that text. -/
def openAtEnd : Session :=
  (start (.usual 80 1000) false).after
    [.construct "e" (.failure
        (Chain.ofTokens ⟨.ofCategory .staticText, .text "a\n", ⟨2, 1, 2, 2⟩⟩
          [⟨.endOfInput, .text "", ⟨3, 1, 3, 1⟩⟩] none)
        (.ofSequences [[.ofCategory .closeIf]]) .standard),
      .act "e" (.setSource (some openText))]

theorem position_reported_openAtEnd :
    ∃ error, openAtEnd.diagnostics[0]? = some error ∧ 10 ≤ openText.length ∧
      openAtEnd.code error = .ok .unexpectedEnd ∧ error.source = some openText ∧
      error.span.beginLine = lineNumber openText 10 ∧
      Paddable openAtEnd.host.limits error.span.beginColumn ∧
      (openAtEnd.report 0 error).1 =
        .ok (openAtEnd.reportedWith error .unexpectedEnd none none) := by
  have inside : 10 ≤ openText.length := by decide
  have atEnd : AtEnd openText.toList 10 := by
    refine ⟨by decide, fun c last => ?_⟩
    cases Option.some.inj (last.symm.trans rfl)
    decide
  obtain ⟨error, found, coded, known, line, column, uncaused⟩ : ∃ error,
      openAtEnd.diagnostics[0]? = some error ∧ openAtEnd.code error = .ok .unexpectedEnd ∧
        error.source = some openText ∧ error.span.beginLine = lineNumber openText 10 ∧
        error.span.beginColumn = 1 ∧ error.cause? = none := by
    exact ⟨_, rfl, rfl, rfl, by decide, rfl, rfl⟩
  have paddable : Paddable openAtEnd.host.limits error.span.beginColumn := by
    rw [column]
    exact ⟨by decide, by decide⟩
  have writes : openAtEnd.host.limits.writes (lineNumber openText 10) = true := by decide
  have located :=
    (position_reported inside).2.2 openAtEnd 0 error .unexpectedEnd coded known line paddable
  rw [if_pos writes] at located
  obtain ⟨drawn, reported, missing, -⟩ := located
  cases missing.mpr atEnd
  simp only [causeOf, uncaused] at reported
  exact ⟨error, found, inside, coded, known, line, paddable, reported⟩

end Session

end ParseFailure
