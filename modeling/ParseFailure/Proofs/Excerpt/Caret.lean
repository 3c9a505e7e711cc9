import ParseFailure.Proofs.Excerpt.Drawn

/-!
Where the caret stands. The margin of its line is as wide as the front of a source line whose number
has up to three digits, while that front grows with longer numbers: from line 1000 on the caret
stands left of its column.
-/

namespace ParseFailure.Excerpt

open Terminal

variable {limits : Limits} {column errorLine : Int}

/-- A column to which a caret can be moved: its padding is counted in a machine word and fits into
memory. -/
def Paddable (limits : Limits) (column : Int) : Prop :=
  fitsWord (column - 1) = true ∧ column - 1 ≤ limits.padding

theorem caret_ok (paddable : Paddable limits column) :
    caret limits column = .ok (String.ofList (List.replicate (column.toNat - 1) ' ') ++ "^") := by
  have blanks : (column - 1).toNat = column.toNat - 1 := by omega
  simp only [caret, paddable.1, Bool.not_true, Bool.false_eq_true, if_false, blanks,
    if_neg (Int.not_lt.mpr paddable.2)]

theorem caret_fails (far : ¬ Paddable limits column) : Fails (caret limits column) := by
  by_cases fits : fitsWord (column - 1) = true
  · have beyond : limits.padding < column - 1 := Int.not_le.mp fun within => far ⟨fits, within⟩
    exact ⟨_, caret_error.mpr (.inr ⟨rfl, fits, beyond⟩)⟩
  · exact ⟨_, caret_error.mpr (.inl ⟨rfl, by simpa using fits⟩)⟩

/-- What stands in front of the caret in the line under a column. -/
def margin (column : Int) : List Char :=
  [' ', ' ', ' ', ' ', ' ', '|', ' '] ++ List.replicate (column.toNat - 1) ' '

/-- The line of the caret under a column. -/
def mark (column : Int) : String := String.ofList (margin column ++ ['^'])

theorem toList_mark (column : Int) : (mark column).toList = margin column ++ ['^'] :=
  String.toList_ofList

theorem margin_characters {c : Char} (member : c ∈ margin column) : c = ' ' ∨ c = '|' := by
  rcases List.mem_append.mp member with fixed | blank
  · simp only [List.mem_cons, List.not_mem_nil, or_false] at fixed
    tauto
  · exact .inl (List.eq_of_mem_replicate blank)

theorem length_margin (positive : 1 ≤ column) : (margin column).length = 6 + column.toNat := by
  simp only [margin, List.length_append, List.length_replicate, List.length_cons, List.length_nil]
  omega

theorem caretLines_ok (known : column ≠ 0) (paddable : Paddable limits column) :
    caretLines limits false (some column) = .ok [mark column] := by
  have line : "     |" ++ " " ++ (String.ofList (List.replicate (column.toNat - 1) ' ') ++ "^") =
      mark column := by
    rw [← String.toList_inj, toList_mark, margin]
    simp only [String.toList_append, String.toList_ofList, List.append_assoc]
    rfl
  rw [caretLines, if_neg known, caretLine, caret_ok paddable, ← line]
  rfl

theorem caretLines_fails (known : column ≠ 0) (far : ¬ Paddable limits column) :
    Fails (caretLines limits false (some column)) := by
  rw [caretLines, if_neg known, fails_bind_ok, caretLine, fails_bind_ok]
  exact caret_fails far

theorem not_mem_margin {c : Char} (blank : c ≠ ' ') (bar : c ≠ '|') : c ∉ margin column := by
  intro member
  rcases margin_characters member with rfl | rfl
  · exact blank rfl
  · exact bar rfl

theorem newline_mark (column : Int) : '\n' ∉ (mark column).toList := by
  rw [toList_mark, List.mem_append, not_or]
  exact ⟨not_mem_margin (by decide) (by decide), by decide⟩

theorem count_mark (column : Int) : (mark column).toList.count '^' = 1 := by
  have before : '^' ∉ margin column := not_mem_margin (by decide) (by decide)
  rw [toList_mark, List.count_append, List.count_eq_zero_of_not_mem before, Nat.zero_add,
    List.count_singleton_self]

theorem idxOf_mark (positive : 1 ≤ column) :
    (mark column).toList.idxOf '^' = 6 + column.toNat := by
  have before : '^' ∉ margin column := not_mem_margin (by decide) (by decide)
  rw [toList_mark, List.idxOf_append_of_notMem before, List.idxOf_cons_self, length_margin positive,
    Nat.add_zero]

/-- Where the character of a column stands in the row of its line. -/
def columnPlace (n column : Int) : Nat := (lead n true).length + (column.toNat - 1)

theorem length_repr_le_three {n : Int} (positive : 0 < n) : n.repr.length ≤ 3 ↔ n < 1000 := by
  rw [Int.repr_eq_if, if_pos (Int.le_of_lt positive), Nat.length_repr_le_iff (by decide)]
  omega

/-- The caret is left behind by as many characters as the number has beyond three digits. -/
theorem idxOf_mark_place (positive : 1 ≤ column) (n : Int) :
    (mark column).toList.idxOf '^' + (n.repr.length - 3) = columnPlace n column := by
  rw [idxOf_mark positive, columnPlace, length_lead]
  omega

/-- The one marked line of a text and the line below it. -/
def MarkedOver (text : String) (marked under : List Char) : Prop :=
  ∃ above below, text.toList.splitOn '\n' = above ++ marked :: under :: below ∧
    marked.head? = some '>' ∧ ∀ other ∈ above ++ under :: below, other.head? ≠ some '>'

theorem head?_mark (column : Int) : (mark column).toList.head? = some ' ' := by
  rw [toList_mark, margin]
  rfl

theorem format_marked {source content : String} {before after : List (Int × String)}
    (line : LineAt source errorLine content)
    (others : ∀ row ∈ before ++ after, row.1 ≠ errorLine ∧ row.2 ∈ Text.lines source)
    (positive : 1 ≤ column) (paddable : Paddable limits column) :
    ∃ text, format ⟨before ++ (errorLine, content) :: after, errorLine, some column⟩ limits false =
        .ok text ∧
      MarkedOver text (lead errorLine true ++ content).toList (mark column).toList := by
  have unbroken : ∀ line ∈ [mark column], '\n' ∉ line.toList :=
    List.forall_mem_singleton.mpr (newline_mark column)
  have known : column ≠ 0 := by omega
  have marks := caretLines_ok known paddable
  obtain ⟨text, drawn, cut⟩ := format_window marks unbroken line others
  have lines : text.toList.splitOn '\n' = ("   |" :: before.map plainRow).map String.toList ++
      (lead errorLine true ++ content).toList :: (mark column).toList ::
        (after.map plainRow ++ ["   |"]).map String.toList := cut
  have border : "   |".toList.head? ≠ some '>' := by decide
  have plain : ∀ rows : List (Int × String), ∀ row ∈ rows.map plainRow,
      row.toList.head? ≠ some '>' := by
    intro rows
    refine List.forall_mem_map.mpr fun row _ => ?_
    rw [plainRow, head?_lead]
    decide
  refine ⟨text, drawn, _, _, lines, head?_lead errorLine true content,
    List.forall_mem_append.mpr ⟨?_, List.forall_mem_cons.mpr ⟨?_, ?_⟩⟩⟩
  · exact List.forall_mem_map.mpr (List.forall_mem_cons.mpr ⟨border, plain before⟩)
  · rw [head?_mark]
    decide
  · exact List.forall_mem_map.mpr
      (List.forall_mem_append.mpr ⟨plain after, List.forall_mem_singleton.mpr border⟩)

/-- A caret that can be moved to its column stands in the line under the marked one, and under the
character of its column exactly in the first 999 lines. -/
theorem caret_offset {source content : String} {errorLine context column : Int} (limits : Limits)
    (line : LineAt source errorLine content) (around : 0 ≤ context)
    (inside : 1 ≤ column ∧ column ≤ content.length) :
    ∃ excerpt, ofSource source errorLine context (some column) = some excerpt ∧
      (¬ Paddable limits column → Fails (excerpt.format limits false)) ∧
      (Paddable limits column → ∃ text marked under, excerpt.format limits false = .ok text ∧
        MarkedOver text marked under ∧ marked = (lead errorLine true ++ content).toList ∧
        (∃ c, content.toList[column.toNat - 1]? = some c ∧
          marked[columnPlace errorLine column]? = some c) ∧
        under.count '^' = 1 ∧
        under.idxOf '^' + (errorLine.repr.length - 3) = columnPlace errorLine column ∧
        (under.idxOf '^' = columnPlace errorLine column ↔ errorLine < 1000)) := by
  obtain ⟨before, after, made, others⟩ := ofSource_window line around (some column)
  have known : column ≠ 0 := by omega
  refine ⟨_, made, fun far => ?_, fun paddable => ?_⟩
  · obtain ⟨fault, failed⟩ := caretLines_fails known far
    refine ⟨fault, format_error.mpr ⟨⟨content, ?_⟩, failed⟩⟩
    exact List.mem_append_right _ List.mem_cons_self
  · obtain ⟨text, drawn, marks⟩ := format_marked line others inside.1 paddable
    have place : column.toNat - 1 < content.toList.length := by
      rw [String.length_toList]
      omega
    have behind := idxOf_mark_place inside.1 errorLine
    have short := length_repr_le_three line.1
    refine ⟨text, _, _, drawn, marks, rfl, ⟨content.toList[column.toNat - 1], ?_, ?_⟩,
      count_mark column, behind, ?_⟩
    · exact List.getElem?_eq_getElem place
    · rw [columnPlace, ← String.length_toList, String.toList_append,
        List.getElem?_append_right (Nat.le_add_right _ _), Nat.add_sub_cancel_left,
        List.getElem?_eq_getElem place]
    · omega

/-- A text below a number of empty lines. -/
theorem lineAt_below (count : Nat) {text line : List Char} {rest : List (List Char)}
    (first : Text.splitLines text = line :: rest) :
    LineAt (String.ofList (List.replicate count '\n' ++ text)) (count + 1)
      (String.ofList line) := by
  have place : ((count : Int) + 1).toNat - 1 = count := by omega
  refine ⟨by omega, ?_⟩
  rw [place, Text.lines, String.toList_ofList, Text.splitLines_newlines, first, List.getElem?_map,
    List.getElem?_append_right (Nat.le_of_eq List.length_replicate), List.length_replicate,
    Nat.sub_self]
  rfl

/-- Text on the line with number 1000. -/
def thousandth : String := String.ofList (List.replicate 999 '\n' ++ ['a', 'b'])

theorem thousandth_line : LineAt thousandth 1000 "ab" := by
  have one : Text.splitLines ['a', 'b'] = [['a', 'b']] := rfl
  exact lineAt_below 999 one

theorem caret_offset_thousandth : LineAt thousandth 1000 "ab" ∧
    ∃ excerpt, ofSource thousandth 1000 0 (some 1) = some excerpt ∧
      ∃ text marked under, excerpt.format (.usual 80 1000) false = .ok text ∧
        MarkedOver text marked under ∧ under.idxOf '^' + 1 = columnPlace 1000 1 := by
  have around : (0 : Int) ≤ 0 := by decide
  have inside : (1 : Int) ≤ 1 ∧ (1 : Int) ≤ "ab".length := by decide
  obtain ⟨excerpt, made, -, drawn⟩ := caret_offset (.usual 80 1000) thousandth_line around inside
  have paddable : Paddable (.usual 80 1000) 1 := ⟨by decide, by decide⟩
  obtain ⟨text, marked, under, done, marks, -, -, -, behind, -⟩ := drawn paddable
  exact ⟨thousandth_line, excerpt, made, text, marked, under, done, marks, behind⟩

end ParseFailure.Excerpt
