import ParseFailure.Diagnostic
import ParseFailure.Proofs.Names
import ParseFailure.Proofs.Fault
import ParseFailure.Proofs.Terminal.Stripping
import ParseFailure.Report

/-!
Colours are decoration. Each line of an excerpt and of a report, once stripped, reads the same in
colours and without them; and what the library writes itself holds no escape character, so a text
without colours is left alone by stripping unless something that it shows holds one.
-/

namespace ParseFailure

open Terminal

namespace Terminal

theorem plain_repr (n : Int) : Plain n.repr := by
  intro member
  rcases NameTable.mem_repr member with digit | sign
  · exact absurd digit (by decide)
  · exact absurd sign (by decide)

theorem plain_blanks (n : Nat) : Plain (String.ofList (List.replicate n ' ')) := by
  rw [Plain, String.toList_ofList]
  intro member
  exact absurd (List.eq_of_mem_replicate member) (by decide)

theorem plain_gutter (n : Int) (isError : Bool) : Plain (gutter n isError) := by
  have mark : Plain (if isError then ">" else " ") := by cases isError <;> decide
  exact mark.append ((plain_blanks _).append (plain_repr n))

theorem strip_sourceLine (colors : Bool) (n : Int) (content : String) (isError : Bool) :
    strip (sourceLine colors n content isError) =
      gutter n isError ++ " | " ++ strip content := by
  have between : Plain " | " := by decide
  rw [sourceLine, paintPart, paintPart, String.append_assoc,
    strip_paint_append (plain_gutter n isError), strip_append_plain between, strip_paint,
    String.append_assoc]

theorem strip_header {code : String} (plain : Plain code) (colors : Bool) (message : String) :
    strip (header colors (some code) message) = header false (some code) (strip message) := by
  have between : Plain ": " := by decide
  cases empty : code.isEmpty with
  | true => simp only [header, empty, if_true]
  | false =>
    simp only [header, empty, Bool.false_eq_true, if_false, paintPart, String.append_assoc]
    rw [strip_paint_append plain, strip_append_plain between]
    rfl

theorem plain_header {code message : String} (plain : Plain code) (other : Plain message) :
    Plain (header false (some code) message) := by
  have between : Plain ": " := by decide
  cases empty : code.isEmpty with
  | true => simpa only [header, empty, if_true] using other
  | false =>
    simp only [header, empty, Bool.false_eq_true, if_false]
    exact (plain.append between).append other

end Terminal

namespace Excerpt

variable {limits : Limits} {errorLine : Int}

theorem caret_plain {column : Int} {mark : String} (drawn : caret limits column = .ok mark) :
    Plain mark := by
  unfold caret at drawn
  split at drawn
  · contradiction
  · split at drawn
    · contradiction
    · have tip : Plain "^" := by decide
      cases Except.ok.inj drawn
      exact (plain_blanks _).append tip

theorem strip_border (colors : Bool) : strip (border colors) = "   |" := by
  have plain : Plain "   |" := by decide
  rw [border, paintPart, strip_paint, strip_plain plain]

/-- The caret line that is left when the codes are stripped. -/
theorem strip_caretLine (colors : Bool) (column : Int) :
    (caretLine limits colors column).map strip = (caret limits column).map ("     | " ++ ·) := by
  have margin : Plain "     |" := by decide
  have blank : Plain " " := by decide
  unfold caretLine
  cases drawn : caret limits column with
  | error fault => rfl
  | ok mark =>
    have stripped : strip (paintPart colors .dimText "     |" ++ " " ++
        paintPart colors .errorLine mark) = "     | " ++ mark := by
      rw [paintPart, paintPart, String.append_assoc, strip_paint_append margin,
        strip_append_plain blank, strip_paint, strip_plain (caret_plain drawn),
        ← String.append_assoc]
      rfl
    exact congrArg Except.ok stripped

theorem strip_caretLines (colors : Bool) (column : Option Int) :
    (caretLines limits colors column).map (List.map strip) =
      (caretLines limits false column).map (List.map strip) := by
  cases column with
  | none => rfl
  | some column =>
    have one : ∀ colors, (caretLines limits colors (some column)).map (List.map strip) =
        if column = 0 then .ok []
        else ((caretLine limits colors column).map strip).map fun line => [line] := by
      intro colors
      simp only [caretLines]
      split
      · rfl
      · cases caretLine limits colors column <;> rfl
    rw [one, one, strip_caretLine, strip_caretLine]

/-- Lines that agree once stripped, put together in the same order. -/
theorem stripped_together {line other : String} (same : strip line = strip other)
    {marks marks' lines lines' : Except Fault (List String)}
    (sameMarks : marks.map (List.map strip) = marks'.map (List.map strip))
    (sameLines : lines.map (List.map strip) = lines'.map (List.map strip)) :
    (do
      let marks ← marks
      let lines ← lines
      .ok (line :: (marks ++ lines)) : Except Fault (List String)).map (List.map strip) =
    (do
      let marks ← marks'
      let lines ← lines'
      .ok (other :: (marks ++ lines)) : Except Fault (List String)).map (List.map strip) := by
  cases marks <;> cases marks' <;> cases lines <;> cases lines' <;>
    simp_all [Except.map, bind, Except.bind]

theorem strip_bodyLines (colors : Bool) (errorLine : Int) (column : Option Int)
    (lines : List (Int × String)) :
    (bodyLines limits colors errorLine column lines).map (List.map strip) =
      (bodyLines limits false errorLine column lines).map (List.map strip) := by
  induction lines with
  | nil => rfl
  | cons line rest ih =>
    obtain ⟨n, content⟩ := line
    have same : strip (sourceLine colors n content (n == errorLine)) =
        strip (sourceLine false n content (n == errorLine)) := by
      rw [strip_sourceLine, strip_sourceLine]
    unfold bodyLines
    by_cases here : n = errorLine
    · simp only [if_pos here]
      exact stripped_together same (strip_caretLines colors column) ih
    · have unmarked : (.ok [] : Except Fault (List String)).map (List.map strip) =
          (.ok [] : Except Fault (List String)).map (List.map strip) := rfl
      simp only [if_neg here]
      exact stripped_together same unmarked ih

/-- An excerpt in colours and one without them are the same text once stripped, or meet the same
fault. -/
theorem strip_format (excerpt : Excerpt) (limits : Limits) (colors : Bool) :
    (excerpt.format limits colors).map strip = (excerpt.format limits false).map strip := by
  have body := @strip_bodyLines limits colors excerpt.errorLine excerpt.column excerpt.lines
  have framed : ∀ colors, (excerpt.format limits colors).map strip =
      ((bodyLines limits colors excerpt.errorLine excerpt.column excerpt.lines).map
        (List.map strip)).map fun lines => Text.joinWith "\n" ("   |" :: (lines ++ ["   |"])) := by
    intro colors
    unfold format
    cases bodyLines limits colors excerpt.errorLine excerpt.column excerpt.lines with
    | error fault => rfl
    | ok lines =>
      have text := strip_joinWith (border colors :: (lines ++ [border colors]))
      simp only [List.map_cons, List.map_append, List.map_nil, strip_border] at text
      exact congrArg Except.ok text
  rw [framed, framed, body]

theorem plain_sourceLine {content : String} (plain : Plain content) (n : Int) (isError : Bool) :
    Plain (sourceLine false n content isError) := by
  have between : Plain " | " := by decide
  exact ((plain_gutter n isError).append between).append plain

theorem plain_caretLines {column : Option Int} {marks : List String}
    (drawn : caretLines limits false column = .ok marks) : ∀ mark ∈ marks, Plain mark := by
  cases column with
  | none =>
    cases drawn
    simp
  | some column =>
    simp only [caretLines] at drawn
    split at drawn
    · cases drawn
      simp
    · obtain ⟨line, made, same⟩ := bind_ok drawn
      obtain ⟨mark, moved, whole⟩ := bind_ok made
      cases same
      cases whole
      have margin : Plain ("     |" ++ " ") := by decide
      intro line member
      cases List.mem_singleton.mp member
      exact margin.append (caret_plain moved)

theorem plain_bodyLines {column : Option Int} {lines : List (Int × String)} {body : List String}
    (plain : ∀ line ∈ lines, Plain line.2)
    (drawn : bodyLines limits false errorLine column lines = .ok body) :
    ∀ line ∈ body, Plain line := by
  induction lines generalizing body with
  | nil =>
    cases drawn
    simp
  | cons line rest ih =>
    obtain ⟨marks, marksPlain, drawn⟩ : ∃ marks, (∀ mark ∈ marks, Plain mark) ∧
        (do
          let others ← bodyLines limits false errorLine column rest
          .ok (sourceLine false line.1 line.2 (line.1 == errorLine) :: (marks ++ others)) :
            Except Fault (List String)) = .ok body := by
      by_cases here : line.1 = errorLine
      · simp only [bodyLines, if_pos here] at drawn
        obtain ⟨marks, made, drawn⟩ := bind_ok drawn
        exact ⟨marks, plain_caretLines made, drawn⟩
      · simp only [bodyLines, if_neg here] at drawn
        exact ⟨[], by simp, drawn⟩
    obtain ⟨others, below, same⟩ := bind_ok drawn
    cases same
    have othersPlain := ih (fun line member => plain line (List.mem_cons_of_mem _ member)) below
    intro written member
    rcases List.mem_cons.mp member with rfl | member
    · exact plain_sourceLine (plain line List.mem_cons_self) _ _
    · exact (List.mem_append.mp member).elim (marksPlain written) (othersPlain written)

theorem plain_format {excerpt : Excerpt} {text : String}
    (plain : ∀ line ∈ excerpt.lines, Plain line.2)
    (drawn : excerpt.format limits false = .ok text) :
    Plain text := by
  obtain ⟨body, made, same⟩ := bind_ok drawn
  cases same
  have frame : Plain (border false) := by decide
  have bodyPlain := plain_bodyLines plain made
  apply plain_joinWith
  intro line member
  rcases List.mem_cons.mp member with rfl | member
  · exact frame
  · rcases List.mem_append.mp member with inside | last
    · exact bodyPlain line inside
    · cases List.mem_singleton.mp last
      exact frame

end Excerpt

namespace Report

/-- What is left of the lines of a report when the codes are stripped. -/
theorem strip_placeLine (colors : Bool) (report : Report) :
    strip (placeLine colors report) =
      "  --> " ++ strip report.place := by
  have arrow : Plain "  --> " := by decide
  rw [placeLine, paintPart, strip_append_plain arrow, strip_paint]

theorem strip_causeLine (colors : Bool) (cause : String × String) :
    strip (causeLine colors cause) =
      "  Caused by: " ++ strip (cause.1 ++ ": " ++ cause.2) := by
  have blanks : Plain "  " := by decide
  have words : Plain "Caused by:" := by decide
  have blank : Plain " " := by decide
  simp only [causeLine, paintPart, String.append_assoc]
  rw [strip_append_plain blanks, strip_paint_append words, strip_append_plain blank]
  simp only [← String.append_assoc]
  rfl

/-- Reports that differ in the colours of their excerpts only. -/
theorem strip_text (report : Report) (plain : Plain report.code) {drawn : Option String}
    (same : drawn.map strip = report.excerpt.map strip) (colors : Bool) :
    strip (text colors { report with excerpt := drawn }) = strip (text false report) := by
  have each : ∀ colors (report : Report), Plain report.code →
      (parts colors report).map strip =
        [header false (some report.code) (strip report.description),
          "  --> " ++ strip report.place] ++
        (report.excerpt.map strip).toList ++
        (report.cause.map fun cause =>
          "  Caused by: " ++ strip (cause.1 ++ ": " ++ cause.2)).toList := by
    intro colors report plain
    simp only [parts, List.map_append, List.map_cons, List.map_nil, strip_header plain,
      strip_placeLine]
    congr 1
    · congr 1
      cases report.excerpt <;> rfl
    · cases report.cause with
      | none => rfl
      | some cause => exact congrArg (fun line => [line]) (strip_causeLine colors cause)
  rw [text, text, strip_joinWith, strip_joinWith,
    each colors { report with excerpt := drawn } plain, each false report plain, same]

/-- The texts of others that a report shows beside an excerpt: the description, the place with the
name of the template, and the type and the text of the cause. -/
def quoted (report : Report) : List String :=
  report.description :: report.place ::
    (report.cause.map fun cause => [cause.1, cause.2]).getD []

theorem plain_placeInFull {name : Option String} (plain : ∀ text ∈ name, Plain text)
    (line column : Int) : Plain (placeInFull name line column) := by
  have colon : Plain ":" := by decide
  have displayed : Plain (displayName name) := by
    cases name with
    | none => decide
    | some text =>
      simp only [displayName]
      split
      · decide
      · exact plain text rfl
  apply displayed.append
  split
  · decide
  · apply (colon.append (plain_repr line)).append
    split
    · decide
    · exact colon.append (plain_repr column)

theorem plain_text {report : Report} (code : Plain report.code)
    (quoted : ∀ text ∈ report.quoted, Plain text) (drawn : ∀ text ∈ report.excerpt, Plain text) :
    Plain (text false report) := by
  have arrow : Plain "  --> " := by decide
  have lead : Plain ("  " ++ "Caused by:" ++ " ") := by decide
  have colon : Plain ": " := by decide
  have description : Plain report.description := quoted _ List.mem_cons_self
  have place : Plain report.place := quoted _ (List.mem_cons_of_mem _ List.mem_cons_self)
  apply plain_joinWith
  intro part member
  simp only [parts, List.cons_append, List.nil_append, List.mem_cons, List.mem_append,
    Option.mem_toList, Option.map_eq_some_iff] at member
  rcases member with rfl | rfl | excerpt | ⟨cause, caused, rfl⟩
  · exact plain_header code description
  · exact arrow.append place
  · exact drawn part excerpt
  · have shown : ∀ text ∈ [cause.1, cause.2], Plain text := by
      intro text member
      refine quoted text (List.mem_cons_of_mem _ (List.mem_cons_of_mem _ ?_))
      simpa [caused] using member
    have typeName := shown cause.1 (by simp)
    have words := shown cause.2 (by simp)
    exact ((lead.append typeName).append colon).append words

end Report

end ParseFailure
