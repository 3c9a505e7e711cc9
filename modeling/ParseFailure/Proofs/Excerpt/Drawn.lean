import ParseFailure.Proofs.Excerpt
import ParseFailure.Proofs.Names
import ParseFailure.Proofs.Text.Lines
import ParseFailure.Proofs.Text.Reading

/-!
An excerpt without colours, line by line. No line of a template and nothing that is written beside
it holds a line break, so a drawn excerpt falls back into its lines: a border, a row for each source
line with the caret behind the row at fault, and a border.
-/

namespace ParseFailure

namespace Terminal

variable {n : Int} {isError : Bool}

/-- What stands in front of a source line. -/
def lead (n : Int) (isError : Bool) : String := gutter n isError ++ " | "

theorem sourceLine_lead (n : Int) (content : String) (isError : Bool) :
    sourceLine false n content isError = lead n isError ++ content := rfl

theorem head?_lead (n : Int) (isError : Bool) (content : String) :
    (lead n isError ++ content).toList.head? = some (if isError then '>' else ' ') := by
  simp only [lead, gutter, String.toList_append, List.append_assoc]
  cases isError <;> rfl

theorem lead_characters {c : Char} (member : c ∈ (lead n isError).toList) :
    c ∈ ['>', ' ', '|', '-'] ∨ c.isDigit = true := by
  simp only [lead, gutter, alignRight, String.toList_append, String.toList_ofList,
    List.mem_append] at member
  obtain ((mark | blank | digit) | between) := member
  · cases isError
    · cases List.mem_singleton.mp mark
      exact .inl (by decide)
    · cases List.mem_singleton.mp mark
      exact .inl (by decide)
  · cases List.eq_of_mem_replicate blank
    exact .inl (by decide)
  · rcases NameTable.mem_repr digit with digit | rfl
    · exact .inr digit
    · exact .inl (by decide)
  · have three : " | ".toList = [' ', '|', ' '] := rfl
    simp only [three, List.mem_cons, List.not_mem_nil, or_false] at between
    rcases between with rfl | rfl | rfl
    · exact .inl (by decide)
    · exact .inl (by decide)
    · exact .inl (by decide)

theorem newline_lead : '\n' ∉ (lead n isError).toList := by
  intro member
  rcases lead_characters member with listed | digit
  · exact absurd listed (by decide)
  · exact absurd digit (by decide)

/-- Numbers take a width of three, and more where they need it. -/
theorem length_lead (n : Int) (isError : Bool) :
    (lead n isError).length = 4 + max 3 n.repr.length := by
  have mark : (if isError then ">" else " ").length = 1 := by cases isError <;> rfl
  have between : " | ".length = 3 := rfl
  simp only [lead, gutter, alignRight, String.length_append, String.length_ofList,
    List.length_replicate, mark, between]
  omega

end Terminal

namespace Excerpt

open Terminal

variable {limits : Limits} {source content : String} {errorLine : Int} {column : Option Int}

/-- The rows of an excerpt without colours: source lines, the lines of the caret behind the one at
fault. -/
def rows (errorLine : Int) (marks : List String) (lines : List (Int × String)) : List String :=
  lines.flatMap fun (n, content) =>
    (lead n (n == errorLine) ++ content) :: if n = errorLine then marks else []

theorem bodyLines_rows {marks : List String} (drawn : caretLines limits false column = .ok marks)
    (lines : List (Int × String)) :
    bodyLines limits false errorLine column lines = .ok (rows errorLine marks lines) := by
  induction lines with
  | nil => rfl
  | cons line rest ih =>
    obtain ⟨n, content⟩ := line
    by_cases here : n = errorLine
    · simp only [bodyLines, if_pos here, drawn, ih, sourceLine_lead, rows, List.flatMap_cons]
      rfl
    · simp only [bodyLines, if_neg here, ih, sourceLine_lead, rows, List.flatMap_cons]
      rfl

theorem format_rows {excerpt : Excerpt} {marks : List String}
    (drawn : caretLines limits false excerpt.column = .ok marks) :
    excerpt.format limits false = .ok (Text.joinWith "\n"
      ("   |" :: (rows excerpt.errorLine marks excerpt.lines ++ ["   |"]))) := by
  rw [format, bodyLines_rows drawn]
  rfl

/-- The row of a line that is not at fault. -/
def plainRow (line : Int × String) : String := lead line.1 false ++ line.2

theorem rows_unmarked (marks : List String) {lines : List (Int × String)}
    (others : ∀ row ∈ lines, row.1 ≠ errorLine) :
    rows errorLine marks lines = lines.map plainRow := by
  induction lines with
  | nil => rfl
  | cons line rest ih =>
    obtain ⟨other, others⟩ := List.forall_mem_cons.mp others
    have unlike : (line.1 == errorLine) = false := beq_false_of_ne other
    simp only [rows, List.flatMap_cons, unlike, if_neg other] at ih ⊢
    rw [ih others]
    rfl

theorem rows_window (marks : List String) {before after : List (Int × String)}
    (others : ∀ row ∈ before ++ after, row.1 ≠ errorLine) :
    rows errorLine marks (before ++ (errorLine, content) :: after) =
      before.map plainRow ++ (lead errorLine true ++ content) :: (marks ++ after.map plainRow) := by
  obtain ⟨earlier, later⟩ := List.forall_mem_append.mp others
  rw [← rows_unmarked marks earlier, ← rows_unmarked marks later]
  simp [rows]

theorem newline_row (n : Int) (isError : Bool) (shown : content ∈ Text.lines source) :
    '\n' ∉ (lead n isError ++ content).toList := by
  rw [String.toList_append, List.mem_append, not_or]
  exact ⟨newline_lead, (Text.lines_unbroken shown).newline⟩

/-- Texts without line breaks that were put on lines of their own are the lines. -/
theorem splitOn_lines {text : String} {rest : List String}
    (each : ∀ line ∈ text :: rest, '\n' ∉ line.toList) :
    (Text.joinWith "\n" (text :: rest)).toList.splitOn '\n' =
      (text :: rest).map String.toList := by
  rw [Text.splitOn_joinWith rfl, ← List.flatMap_singleton' ((text :: rest).map String.toList),
    List.flatMap_map]
  exact List.flatMap_congr fun line member => List.splitOn_eq_singleton (each line member)

/-- The lines of an excerpt around a line that exists, with the lines of its caret. -/
theorem format_window {marks : List String} {before after : List (Int × String)}
    (drawn : caretLines limits false column = .ok marks)
    (unbroken : ∀ mark ∈ marks, '\n' ∉ mark.toList)
    (line : LineAt source errorLine content)
    (others : ∀ row ∈ before ++ after, row.1 ≠ errorLine ∧ row.2 ∈ Text.lines source) :
    ∃ text, format ⟨before ++ (errorLine, content) :: after, errorLine, column⟩ limits false =
        .ok text ∧
      text.toList.splitOn '\n' = ("   |" :: before.map plainRow).map String.toList ++
        (lead errorLine true ++ content).toList ::
          (marks ++ (after.map plainRow ++ ["   |"])).map String.toList := by
  have shown : content ∈ Text.lines source := List.mem_of_getElem? line.2
  have plain : ∀ row ∈ before ++ after, '\n' ∉ (plainRow row).toList :=
    fun row member => newline_row row.1 false (others row member).2
  have border : '\n' ∉ "   |".toList := by decide
  obtain ⟨earlier, later⟩ := List.forall_mem_append.mp plain
  refine ⟨_, format_rows drawn, ?_⟩
  rw [rows_window marks fun row member => (others row member).1, splitOn_lines]
  · simp only [List.map_cons, List.map_append, List.cons_append, List.append_assoc]
  · intro row member
    simp only [List.mem_cons, List.mem_append, List.mem_map, List.not_mem_nil, or_false] at member
    obtain rfl | (⟨line, among, rfl⟩ | rfl | among | ⟨line, among, rfl⟩) | rfl := member
    · exact border
    · exact earlier line among
    · exact newline_row errorLine true shown
    · exact unbroken row among
    · exact later line among
    · exact border

end Excerpt

end ParseFailure
