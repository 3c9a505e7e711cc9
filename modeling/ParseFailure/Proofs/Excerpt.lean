import ParseFailure.Diagnostic
import ParseFailure.Proofs.Fault

/-!
The lines that an excerpt shows, and when it cannot be drawn: only the caret is in the way.
-/

namespace ParseFailure

namespace Excerpt

variable {limits : Limits} {colors : Bool} {column errorLine : Int} {fault : Fault}

/-- A caret that cannot be moved to its column. -/
def Unpaddable (limits : Limits) (column : Int) (fault : Fault) : Prop :=
  (fault = .paddingBeyondWord ∧ fitsWord (column - 1) = false) ∨
    (fault = .paddingBeyondMemory ∧ fitsWord (column - 1) = true ∧ limits.padding < column - 1)

theorem caret_error : caret limits column = .error fault ↔ Unpaddable limits column fault := by
  unfold caret Unpaddable
  by_cases fits : fitsWord (column - 1) = true
  · by_cases far : limits.padding < column - 1
    · simp [fits, far, eq_comm]
    · simp [fits, far]
  · simp [fits, eq_comm]

theorem caretLines_error :
    caretLines limits colors (some column) = .error fault ↔
      column ≠ 0 ∧ Unpaddable limits column fault := by
  by_cases unknown : column = 0
  · simp [caretLines, unknown]
  · rw [caretLines, if_neg unknown, bind_ok_error, caretLine, bind_ok_error, caret_error]
    simp [unknown]

/-- The caret is drawn under every line that has the number of the line at fault. -/
theorem bodyLines_error {lines : List (Int × String)} {column : Option Int} :
    bodyLines limits colors errorLine column lines = .error fault ↔
      (∃ content, (errorLine, content) ∈ lines) ∧
        caretLines limits colors column = .error fault := by
  induction lines with
  | nil => simp [bodyLines]
  | cons line rest ih =>
    obtain ⟨n, content⟩ := line
    by_cases here : n = errorLine
    · subst here
      rw [bodyLines, if_pos rfl, bind_error]
      simp only [bind_ok_error, ih]
      constructor
      · rintro (failed | ⟨marks, -, -, failed⟩)
        · exact ⟨⟨content, List.mem_cons_self⟩, failed⟩
        · exact ⟨⟨content, List.mem_cons_self⟩, failed⟩
      · rintro ⟨-, failed⟩
        exact .inl failed
    · have elsewhere : ∀ other,
          (errorLine, other) ∈ (n, content) :: rest ↔ (errorLine, other) ∈ rest := by
        simp [Ne.symm here]
      simp only [elsewhere, ← ih]
      rw [bodyLines, if_neg here]
      exact bind_ok_error

theorem format_error {excerpt : Excerpt} : excerpt.format limits colors = .error fault ↔
    (∃ content, (excerpt.errorLine, content) ∈ excerpt.lines) ∧
      caretLines limits colors excerpt.column = .error fault := by
  rw [format, bind_ok_error, bodyLines_error]

variable {source content : String} {context : Int}

theorem length_numbered (source : String) :
    (numbered source).length = (Text.lines source).length := by simp [numbered]

theorem mem_numbered (i : Nat) (inside : i < (Text.lines source).length) :
    ((i : Int) + 1, (Text.lines source)[i]) ∈ numbered source := by
  refine List.mem_map.mpr ⟨((Text.lines source)[i], i), ?_, rfl⟩
  exact List.mk_mem_zipIdx_iff_getElem?.mpr (List.getElem?_eq_getElem inside)

/-- A line of a text by its number. -/
def LineAt (source : String) (n : Int) (content : String) : Prop :=
  0 < n ∧ (Text.lines source)[n.toNat - 1]? = some content

theorem LineAt.numbered (line : LineAt source errorLine content) :
    (errorLine, content) ∈ numbered source := by
  obtain ⟨positive, found⟩ := line
  obtain ⟨inside, rfl⟩ := List.getElem?_eq_some_iff.mp found
  have same : ((errorLine.toNat - 1 : Nat) : Int) + 1 = errorLine := by omega
  have member := mem_numbered (errorLine.toNat - 1) inside
  rwa [same] at member

theorem numbered_increasing (source : String) :
    (numbered source).Pairwise fun first second => first.1 < second.1 := by
  have places : ((Text.lines source).zipIdx.map Prod.snd).Pairwise (· < ·) := by
    rw [List.zipIdx_map_snd]
    exact List.pairwise_lt_range'
  rw [numbered, List.pairwise_map]
  refine (List.pairwise_map.mp places).imp fun before => ?_
  exact Int.add_lt_add_right (Int.ofNat_lt.mpr before) 1

theorem mem_lines {row : Int × String} (member : row ∈ numbered source) :
    row.2 ∈ Text.lines source := by
  obtain ⟨numbered, among, rfl⟩ := List.mem_map.mp member
  exact List.fst_mem_of_mem_zipIdx among

/-- Whether a numbered line lies in the window around a line. -/
def near (errorLine context : Int) (row : Int × String) : Bool :=
  errorLine - context ≤ row.1 && row.1 ≤ errorLine + context

theorem LineAt.ofSource (line : LineAt source errorLine content) (context : Int)
    (column : Option Int) : ofSource source errorLine context column =
      some ⟨(Excerpt.numbered source).filter (near errorLine context), errorLine, column⟩ := by
  obtain ⟨positive, found⟩ := line
  obtain ⟨inside, -⟩ := List.getElem?_eq_some_iff.mp found
  have length := length_numbered source
  exact if_pos ⟨positive, by omega⟩

/-- An excerpt around a line that exists shows it once, among other lines of the text. -/
theorem ofSource_window (line : LineAt source errorLine content) (around : 0 ≤ context)
    (column : Option Int) :
    ∃ before after, ofSource source errorLine context column =
        some ⟨before ++ (errorLine, content) :: after, errorLine, column⟩ ∧
      ∀ row ∈ before ++ after, row.1 ≠ errorLine ∧ row.2 ∈ Text.lines source := by
  have shown : (errorLine, content) ∈ (numbered source).filter (near errorLine context) := by
    refine List.mem_filter.mpr ⟨line.numbered, ?_⟩
    simp only [near, Bool.and_eq_true, decide_eq_true_eq]
    omega
  have increasing := (numbered_increasing source).filter (near errorLine context)
  have faithful : ∀ row ∈ (numbered source).filter (near errorLine context),
      row.2 ∈ Text.lines source := fun row kept => mem_lines (List.mem_filter.mp kept).1
  obtain ⟨before, after, cut⟩ := List.append_of_mem shown
  refine ⟨before, after, by rw [line.ofSource, cut], ?_⟩
  rw [cut, List.pairwise_append, List.pairwise_cons] at increasing
  simp only [cut, List.forall_mem_append, List.forall_mem_cons] at faithful
  obtain ⟨earlier, -, later⟩ := faithful
  refine List.forall_mem_append.mpr ⟨fun row member => ⟨?_, earlier row member⟩,
    fun row member => ⟨?_, later row member⟩⟩
  · exact Int.ne_of_lt (increasing.2.2 row member _ List.mem_cons_self)
  · exact (Int.ne_of_lt (increasing.2.1.1 row member)).symm

theorem exists_lineAt (inside : 0 < errorLine ∧ errorLine ≤ (numbered source).length) :
    ∃ content, LineAt source errorLine content := by
  have length := length_numbered source
  have place : errorLine.toNat - 1 < (Text.lines source).length := by omega
  exact ⟨_, inside.1, List.getElem?_eq_getElem place⟩

/-- An excerpt shows the line that it is about. -/
theorem ofSource_line (line : LineAt source errorLine content) (around : 0 ≤ context)
    (column : Option Int) :
    ∃ excerpt, ofSource source errorLine context column = some excerpt ∧
      excerpt.errorLine = errorLine ∧ excerpt.column = column ∧
      (errorLine, content) ∈ excerpt.lines := by
  obtain ⟨before, after, made, -⟩ := ofSource_window line around column
  exact ⟨_, made, rfl, rfl, List.mem_append_right _ List.mem_cons_self⟩

theorem ofSource_none {column : Option Int}
    (outside : ¬ (0 < errorLine ∧ errorLine ≤ (numbered source).length)) :
    ofSource source errorLine context column = none := if_neg outside

end Excerpt

namespace Diagnostic

open Excerpt

variable {error : Diagnostic} {source content : String} {limits : Limits} {colors : Bool}
  {fault : Fault}

/-- An error in a line of its template has an excerpt around the line. -/
theorem excerpt_lineAt (known : error.source = some source)
    (present : LineAt source error.span.beginLine content) :
    ∃ around : Excerpt, around.errorLine = error.span.beginLine ∧
      around.column = some error.span.beginColumn ∧
      (error.span.beginLine, content) ∈ around.lines ∧
      ∀ limits colors, error.excerpt limits colors = (do
        let text ← around.format limits colors
        .ok (some text)) := by
  have two : (0 : Int) ≤ 2 := by decide
  obtain ⟨around, made, line, column, about⟩ :=
    ofSource_line present two (some error.span.beginColumn)
  have filled : (source.isEmpty || error.span.beginLine == 0) = false := by
    have numbered : error.span.beginLine ≠ 0 := by
      have positive := present.1
      omega
    have text : source ≠ "" := by
      rintro rfl
      exact absurd present.2 nofun
    simp [numbered, text]
  refine ⟨around, line, column, about, fun limits colors => ?_⟩
  simp only [excerpt, known, filled, Bool.false_eq_true, if_false, made]

/-- Where the template has no such line, the excerpt is left out. -/
theorem excerpt_none (known : error.source = some source)
    (outside : ofSource source error.span.beginLine 2 (some error.span.beginColumn) = none) :
    error.excerpt limits colors = .ok none := by
  simp only [excerpt, known, outside, ite_self]

/-- An error in a line of a known template whose caret cannot be drawn. -/
def Uncaretable (error : Diagnostic) (limits : Limits) (fault : Fault) : Prop :=
  ∃ source, error.source = some source ∧ 0 < error.span.beginLine ∧
    error.span.beginLine ≤ (Text.lines source).length ∧ error.span.beginColumn ≠ 0 ∧
    Excerpt.Unpaddable limits error.span.beginColumn fault

theorem excerpt_error :
    error.excerpt limits colors = .error fault ↔ error.Uncaretable limits fault := by
  cases known : error.source with
  | none => simp [excerpt, Uncaretable, known]
  | some source =>
    simp only [Uncaretable, known, Option.some.injEq, exists_eq_left', ← length_numbered]
    by_cases inside : 0 < error.span.beginLine ∧ error.span.beginLine ≤ (numbered source).length
    · obtain ⟨content, present⟩ := exists_lineAt inside
      obtain ⟨around, line, column, about, drawn⟩ := excerpt_lineAt known present
      rw [drawn, bind_ok_error, format_error, line, column, caretLines_error]
      exact ⟨fun failed => ⟨inside.1, inside.2, failed.2⟩,
        fun failed => ⟨⟨content, about⟩, failed.2.2⟩⟩
    · rw [excerpt_none known (ofSource_none inside)]
      exact iff_of_false nofun fun failed => inside ⟨failed.1, failed.2.1⟩

end Diagnostic

end ParseFailure
