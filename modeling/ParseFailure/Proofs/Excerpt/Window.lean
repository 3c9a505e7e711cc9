import ParseFailure.Proofs.Excerpt.Caret

/-!
The window of lines that an excerpt shows, and how it can be read back from the drawing: the border,
a row for each line of the window, with the caret behind the marked one, and the border again. A row
gives back its number and its line; the border and the caret give nothing.
-/

namespace ParseFailure.Excerpt

open Terminal

variable {limits : Limits} {source content : String} {errorLine context n : Int}
  {column : Option Int} {excerpt : Excerpt}

theorem mem_numbered_iff : (n, content) ∈ numbered source ↔ LineAt source n content := by
  refine ⟨fun member => ?_, LineAt.numbered⟩
  obtain ⟨⟨line, i⟩, among, same⟩ := List.mem_map.mp member
  obtain ⟨rfl, rfl⟩ := Prod.mk.inj same
  have place : ((i : Int) + 1).toNat - 1 = i := by omega
  refine ⟨by omega, ?_⟩
  rw [place]
  exact List.mk_mem_zipIdx_iff_getElem?.mp among

theorem LineAt.le_length (line : LineAt source n content) : n ≤ (Text.lines source).length := by
  obtain ⟨positive, found⟩ := line
  obtain ⟨inside, -⟩ := List.getElem?_eq_some_iff.mp found
  omega

theorem ofSource_inside (found : ofSource source errorLine context column = some excerpt) :
    0 < errorLine ∧ errorLine ≤ (numbered source).length := by
  by_contra outside
  exact Option.some_ne_none _ (found.symm.trans (ofSource_none outside))

theorem ofSource_eq_none : ofSource source errorLine context column = none ↔
    errorLine < 1 ∨ (Text.lines source).length < errorLine := by
  have same := length_numbered source
  by_cases inside : 0 < errorLine ∧ errorLine ≤ (numbered source).length
  · have found : ofSource source errorLine context column ≠ none := by
      simp only [ofSource, if_pos inside, ne_eq, reduceCtorEq, not_false_eq_true]
    refine iff_of_false found ?_
    omega
  · refine iff_of_true (ofSource_none inside) ?_
    omega

/-- The lines of an excerpt are those of the text with the numbers of its window, in order. -/
def Shows (lines : List (Int × String)) (source : String) (first last : Int) : Prop :=
  (lines.Pairwise fun line other => line.1 < other.1) ∧
    ∀ n content, (n, content) ∈ lines ↔ first ≤ n ∧ n ≤ last ∧ LineAt source n content

theorem ofSource_shows (found : ofSource source errorLine context column = some excerpt) :
    excerpt.errorLine = errorLine ∧ excerpt.column = column ∧
      Shows excerpt.lines source (max 1 (errorLine - context))
        (min (Text.lines source).length (errorLine + context)) := by
  obtain ⟨content, line⟩ := exists_lineAt (ofSource_inside found)
  cases Option.some.inj ((line.ofSource context column).symm.trans found)
  refine ⟨rfl, rfl, (numbered_increasing source).filter _, fun n content => ?_⟩
  rw [List.mem_filter, mem_numbered_iff]
  simp only [near, Bool.and_eq_true, decide_eq_true_eq]
  constructor
  · rintro ⟨line, above, below⟩
    have last := line.le_length
    have first := line.1
    exact ⟨by omega, by omega, line⟩
  · rintro ⟨above, below, line⟩
    exact ⟨line, by omega, by omega⟩

/-- Reads a row: whether it is marked, its number and its line. -/
def readRow : List Char → Option (Bool × Int × String)
  | [] => none
  | mark :: rest =>
    if mark = '>' ∨ mark = ' ' then do
      let (n, behind) ← Text.readInt (rest.dropWhile (· == ' '))
      let content ← behind.dropPrefix? [' ', '|', ' ']
      some (mark == '>', n, String.ofList content)
    else none

/-- A written number begins with no space. -/
theorem head_repr (n : Int) : ∃ c rest, n.repr.toList = c :: rest ∧ (c == ' ') = false := by
  cases written : n.repr.toList with
  | nil =>
    have nothing : Text.StopsDigits [] := nofun
    have read := Text.readInt_repr n nothing
    rw [written] at read
    contradiction
  | cons c rest =>
    refine ⟨c, rest, rfl, beq_false_of_ne ?_⟩
    rintro rfl
    have member : ' ' ∈ n.repr.toList := written ▸ List.mem_cons_self
    exact absurd (NameTable.mem_repr member) (by decide)

theorem readRow_lead (n : Int) (isError : Bool) (content : String) :
    readRow (lead n isError ++ content).toList = some (isError, n, content) := by
  have row : (lead n isError ++ content).toList = (if isError then '>' else ' ') ::
      (List.replicate (3 - n.repr.length) ' ' ++
        (n.repr.toList ++ ([' ', '|', ' '] ++ content.toList))) := by
    simp only [lead, gutter, alignRight, String.toList_append, String.toList_ofList,
      List.append_assoc]
    cases isError <;> rfl
  have blanks : ∀ c ∈ List.replicate (3 - n.repr.length) ' ', (c == ' ') = true := by
    intro c member
    rw [List.eq_of_mem_replicate member]
    rfl
  have number : ∀ rest, (n.repr.toList ++ rest).dropWhile (· == ' ') = n.repr.toList ++ rest := by
    obtain ⟨c, digits, written, filled⟩ := head_repr n
    intro rest
    rw [written, List.cons_append]
    exact List.dropWhile_cons_of_neg (Bool.eq_false_iff.mp filled)
  have stops : Text.StopsDigits ([' ', '|', ' '] ++ content.toList) := by
    rintro c begins
    cases Option.some.inj begins
    rfl
  rw [row, readRow, List.dropWhile_append_of_pos blanks, number, Text.readInt_repr n stops]
  simp only [Option.bind_eq_bind, Option.bind_some, Text.dropPrefix?_append, String.ofList_toList]
  cases isError <;> rfl

/-- The line of the caret, which stands only where a column is known. -/
def caretRows : Option Int → List String
  | none => []
  | some column => if column = 0 then [] else [mark column]

theorem caretLines_rows (paddable : ∀ c, column = some c → Paddable limits c) :
    caretLines limits false column = .ok (caretRows column) := by
  cases column with
  | none => rfl
  | some c =>
    by_cases unknown : c = 0
    · rw [caretLines, caretRows, if_pos unknown, if_pos unknown]
    · rw [caretLines_ok unknown (paddable c rfl), caretRows, if_neg unknown]

/-- What is written between the rows: it has no line break, bears no mark and reads as no row. -/
def Between (line : List Char) : Prop :=
  '\n' ∉ line ∧ line.head? ≠ some '>' ∧ readRow line = none

theorem border_between : Between "   |".toList := ⟨by decide, by decide, rfl⟩

theorem caretRows_between (column : Option Int) : ∀ row ∈ caretRows column, Between row.toList := by
  cases column with
  | none => exact List.forall_mem_nil _
  | some c =>
    by_cases unknown : c = 0
    · simp [caretRows, unknown]
    · rw [caretRows, if_neg unknown, List.forall_mem_singleton]
      refine ⟨newline_mark c, by rw [head?_mark]; decide, ?_⟩
      rw [toList_mark, margin]
      rfl

/-- The drawing of lines of which one is marked: its text line by line, which line bears the mark,
and what the lines read as. -/
def Drawn (text : String) (before : List (Int × String)) (marked : Int × String)
    (carets : List String) (after : List (Int × String)) : Prop :=
  let row := (lead marked.1 true ++ marked.2).toList
  text.toList.splitOn '\n' = ("   |" :: before.map plainRow).map String.toList ++
      row :: (carets ++ (after.map plainRow ++ ["   |"])).map String.toList ∧
    (text.toList.splitOn '\n').filter (fun line => line.head? = some '>') = [row] ∧
    (text.toList.splitOn '\n').filterMap readRow = before.map (fun line => (false, line)) ++
      (true, marked) :: after.map fun line => (false, line)

theorem plainRows_drawn (lines : List (Int × String)) :
    ((lines.map plainRow).map String.toList).filter (fun line => line.head? = some '>') = [] ∧
      ((lines.map plainRow).map String.toList).filterMap readRow =
        lines.map fun line => (false, line) := by
  induction lines with
  | nil => exact ⟨rfl, rfl⟩
  | cons line rest ih =>
    have read : readRow (plainRow line).toList = some (false, line) :=
      readRow_lead line.1 false line.2
    have unmarked : (plainRow line).toList.head? = some ' ' := head?_lead line.1 false line.2
    constructor
    · rw [List.map_cons, List.map_cons, List.filter_cons_of_neg (by simp [unmarked])]
      exact ih.1
    · rw [List.map_cons, List.map_cons, List.filterMap_cons_some read, ih.2, List.map_cons]

theorem between_drawn {lines : List String} (each : ∀ line ∈ lines, Between line.toList) :
    (lines.map String.toList).filter (fun line => line.head? = some '>') = [] ∧
      (lines.map String.toList).filterMap readRow = [] := by
  constructor
  · refine List.filter_eq_nil_iff.mpr (List.forall_mem_map.mpr fun line member => ?_)
    simpa using (each line member).2.1
  · exact List.filterMap_eq_nil_iff.mpr
      (List.forall_mem_map.mpr fun line member => (each line member).2.2)

/-- What the text of an excerpt is, line by line, decides what it reads as. -/
theorem drawn_of_cut {text : String} {before after : List (Int × String)} {marked : Int × String}
    {carets : List String} (each : ∀ line ∈ carets, Between line.toList)
    (cut : text.toList.splitOn '\n' = ("   |" :: before.map plainRow).map String.toList ++
      (lead marked.1 true ++ marked.2).toList ::
        (carets ++ (after.map plainRow ++ ["   |"])).map String.toList) :
    Drawn text before marked carets after := by
  obtain ⟨-, bare, blank⟩ := border_between
  obtain ⟨earlier, above⟩ := plainRows_drawn before
  obtain ⟨later, below⟩ := plainRows_drawn after
  obtain ⟨unmarked, unread⟩ := between_drawn each
  have read := readRow_lead marked.1 true marked.2
  have mark : (lead marked.1 true ++ marked.2).toList.head? = some '>' :=
    head?_lead marked.1 true marked.2
  refine ⟨cut, ?_, ?_⟩
  · rw [cut]
    simp only [List.map_cons, List.map_append, List.map_nil, List.filter_append, List.cons_append,
      List.filter_cons, List.filter_nil, bare, mark, earlier, later, unmarked, decide_true,
      decide_false, if_true, Bool.false_eq_true, if_false, List.append_nil, List.nil_append]
  · rw [cut]
    simp only [List.map_cons, List.map_append, List.map_nil, List.filterMap_append, List.cons_append,
      List.filterMap_cons_none blank, List.filterMap_cons_some read, above, below, unread,
      List.filterMap_nil, List.append_nil, List.nil_append]

/-- There is no excerpt around a line that the text does not have. Otherwise the excerpt shows
exactly the lines of its window, clipped at both ends of the text; and with room around the line and
a caret that can be moved to its column, the drawing holds a row for each of them, which reads as
its number and its line, marks the line of the error alone, and puts the caret behind it if there is
one. -/
theorem window_drawn (limits : Limits) (source : String) (errorLine context : Int)
    (column : Option Int) :
    (ofSource source errorLine context column = none ↔
        errorLine < 1 ∨ (Text.lines source).length < errorLine) ∧
      ∀ excerpt, ofSource source errorLine context column = some excerpt →
        excerpt.errorLine = errorLine ∧ excerpt.column = column ∧
        Shows excerpt.lines source (max 1 (errorLine - context))
          (min (Text.lines source).length (errorLine + context)) ∧
        (context < 0 → excerpt.lines = []) ∧
        (0 ≤ context → (∀ c, column = some c → Paddable limits c) →
          ∃ text before content after, excerpt.format limits false = .ok text ∧
            excerpt.lines = before ++ (errorLine, content) :: after ∧
            Drawn text before (errorLine, content) (caretRows column) after) := by
  refine ⟨ofSource_eq_none, fun excerpt found => ?_⟩
  obtain ⟨number, place, shows⟩ := ofSource_shows found
  refine ⟨number, place, shows, fun negative => ?_, fun around paddable => ?_⟩
  · refine List.eq_nil_iff_forall_not_mem.mpr fun row member => ?_
    have window := (shows.2 row.1 row.2).mp member
    omega
  · obtain ⟨content, line⟩ := exists_lineAt (ofSource_inside found)
    obtain ⟨before, after, made, others⟩ := ofSource_window line around column
    cases Option.some.inj (made.symm.trans found)
    have between := caretRows_between column
    obtain ⟨text, drawn, cut⟩ := format_window (caretLines_rows paddable)
      (fun row member => (between row member).1) line others
    exact ⟨text, before, content, after, drawn, rfl, drawn_of_cut between cut⟩

/-- Three lines with terminators of three kinds, the last of which holds a mark of its own. -/
def threeLines : String := "a\x0d\nb\u2028 | >c\x0b"

theorem window_drawn_threeLines :
    ∃ excerpt, ofSource threeLines 3 1 (some (-2)) = some excerpt ∧
      (∀ c, some (-2) = some c → Paddable (.usual 80 1000) c) ∧
      excerpt.lines = [(2, "b"), (3, " | >c")] ∧
      ∃ text before content after, excerpt.format (.usual 80 1000) false = .ok text ∧
        excerpt.lines = before ++ (3, content) :: after ∧
        Drawn text before (3, content) [mark (-2)] after := by
  have found : ofSource threeLines 3 1 (some (-2)) =
      some ⟨[(2, "b"), (3, " | >c")], 3, some (-2)⟩ := by decide +kernel
  have paddable : ∀ c, some (-2) = some c → Paddable (.usual 80 1000) c := by
    rintro c same
    cases Option.some.inj same
    exact ⟨by decide, by decide⟩
  obtain ⟨-, -, -, -, drawn⟩ := (window_drawn (.usual 80 1000) threeLines 3 1 (some (-2))).2 _ found
  exact ⟨_, found, paddable, rfl, drawn (by decide) paddable⟩

end ParseFailure.Excerpt
