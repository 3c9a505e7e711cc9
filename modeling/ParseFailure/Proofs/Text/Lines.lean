import ParseFailure.Text.Lines

/-! No line of a text holds a character that would end it. -/

namespace ParseFailure.Text

/-- A text that goes on in the same line from its start to its end. -/
def Unbroken (line : List Char) : Prop := ∀ c ∈ line, isLineEnd c = false

theorem Unbroken.newline {line : List Char} (unbroken : Unbroken line) : '\n' ∉ line :=
  fun member => absurd (unbroken _ member) (by decide)

theorem extendFirst_unbroken {c : Char} {lines : List (List Char)} (inner : isLineEnd c = false)
    (each : ∀ line ∈ lines, Unbroken line) : ∀ line ∈ extendFirst c lines, Unbroken line := by
  cases lines with
  | nil => simpa [extendFirst, Unbroken] using inner
  | cons first rest =>
    intro line member
    rcases List.mem_cons.mp member with rfl | member
    · exact List.forall_mem_cons.mpr ⟨inner, each first List.mem_cons_self⟩
    · exact each line (List.mem_cons_of_mem _ member)

theorem splitLines_unbroken (text : List Char) : ∀ line ∈ splitLines text, Unbroken line := by
  have opened : ∀ {lines : List (List Char)}, (∀ line ∈ lines, Unbroken line) →
      ∀ line ∈ [] :: lines, Unbroken line :=
    fun each => List.forall_mem_cons.mpr ⟨List.forall_mem_nil _, each⟩
  induction text using splitLines.induct with
  | case1 => exact List.forall_mem_nil _
  | case2 rest ih => exact opened ih
  | case3 c rest other terminator ih =>
    rw [splitLines.eq_3 c rest other, if_pos terminator]
    exact opened ih
  | case4 c rest other inner ih =>
    rw [splitLines.eq_3 c rest other, if_neg inner]
    exact extendFirst_unbroken (Bool.eq_false_iff.mpr inner) ih

theorem lines_unbroken {text line : String} (member : line ∈ lines text) :
    Unbroken line.toList := by
  obtain ⟨chars, among, rfl⟩ := List.mem_map.mp member
  rw [String.toList_ofList]
  exact splitLines_unbroken text.toList chars among

theorem splitLines_newlines (count : Nat) (rest : List Char) :
    splitLines (List.replicate count '\n' ++ rest) =
      List.replicate count [] ++ splitLines rest := by
  induction count with
  | zero => rfl
  | succ count ih =>
    rw [List.replicate_succ, List.cons_append, splitLines, if_pos (by decide), ih]
    · rfl
    · nofun

end ParseFailure.Text
