import Mathlib.Data.List.Basic
import ParseFailure.Text.Lines

/-!
The line at an offset of a text. A lexer counts the terminators up to an offset, the splitter cuts
the text at them; the line with the number that was counted is the one that stands around the
offset. Only the end of a text whose last line is ended has no line: a lexer counts one there, and
the splitter opens none.
-/

namespace ParseFailure.Text

/-- Whether a line terminator ends with the character at a place; a carriage return in front of its
line feed does not end one yet. -/
def endsLine (text : List Char) (k : Nat) : Bool :=
  text[k]?.any isLineEnd && !(text[k]? == some '\x0d' && text[k + 1]? == some '\x0a')

/-- The number of line terminators that end at or before an offset. -/
def lineEnds (text : List Char) (i : Nat) : Nat := (List.range i).countP (endsLine text)

/-- Where the line at an offset starts: behind the last terminator that ends at or before it. -/
def lineStart (text : List Char) : Nat → Nat
  | 0 => 0
  | i + 1 => if endsLine text i then i + 1 else lineStart text i

def restOfLine (text : List Char) : List Char := text.takeWhile fun c => !isLineEnd c

def lineAround (text : List Char) (i : Nat) : List Char := restOfLine (text.drop (lineStart text i))

/-- The end of a text that is empty or has its last line ended. -/
def AtEnd (text : List Char) (i : Nat) : Prop :=
  i = text.length ∧ ∀ c, text.getLast? = some c → isLineEnd c = true

variable {c : Char} {text rest : List Char} {i : Nat}

theorem endsLine_cons (c : Char) (rest : List Char) (k : Nat) :
    endsLine (c :: rest) (k + 1) = endsLine rest k := rfl

theorem lineEnds_cons (c : Char) (rest : List Char) (i : Nat) :
    lineEnds (c :: rest) (i + 1) = lineEnds rest i + if endsLine (c :: rest) 0 then 1 else 0 := by
  rw [lineEnds, List.range_succ_eq_map, List.countP_cons, List.countP_map]
  rfl

theorem lineEnds_nil (i : Nat) : lineEnds [] i = 0 := List.countP_eq_zero.mpr fun _ _ => nofun

theorem lineEnds_succ (text : List Char) (i : Nat) :
    lineEnds text (i + 1) = lineEnds text i + if endsLine text i then 1 else 0 := by
  rw [lineEnds, List.range_succ, List.countP_append, List.countP_singleton]
  rfl

theorem lineStart_eq_zero : lineStart text i = 0 ↔ lineEnds text i = 0 := by
  induction i with
  | zero => simp [lineStart, lineEnds]
  | succ i ih =>
    rw [lineStart, lineEnds_succ]
    by_cases ends : endsLine text i = true
    · simp [ends]
    · simp [ends, ih]

theorem lineStart_cons (c : Char) (rest : List Char) (i : Nat) :
    lineStart (c :: rest) (i + 1) =
      if lineEnds rest i = 0 ∧ endsLine (c :: rest) 0 = false then 0 else lineStart rest i + 1 := by
  induction i with
  | zero => cases ends : endsLine (c :: rest) 0 <;> simp [lineStart, lineEnds, ends]
  | succ i ih =>
    rw [lineStart, endsLine_cons, ih, lineStart, lineEnds_succ]
    by_cases ends : endsLine rest i = true
    · simp [ends]
    · simp [ends]

/-- Before the first terminator has ended, the line is the first one. -/
theorem lineAround_first (within : lineEnds text i = 0) : lineAround text i = restOfLine text := by
  rw [lineAround, lineStart_eq_zero.mpr within, List.drop_zero]

/-- Behind the first terminator, a character in front of the text changes nothing. -/
theorem lineAround_cons (behind : lineEnds (c :: rest) (i + 1) ≠ 0) :
    lineAround (c :: rest) (i + 1) = lineAround rest i := by
  have later : ¬ (lineEnds rest i = 0 ∧ endsLine (c :: rest) 0 = false) := by
    rintro ⟨none, inner⟩
    exact behind (by simp [lineEnds_cons, none, inner])
  rw [lineAround, lineStart_cons, if_neg later, List.drop_succ_cons, lineAround]

/-- Outside of a pair, a line end ends a terminator. -/
theorem endsLine_zero (other : ∀ more, c = '\x0d' → rest = '\x0a' :: more → False) :
    endsLine (c :: rest) 0 = isLineEnd c := by
  have unpaired : ¬ (c = '\x0d' ∧ rest[0]? = some '\x0a') := by
    rintro ⟨first, second⟩
    rw [← List.head?_eq_getElem?, List.head?_eq_some_iff] at second
    obtain ⟨more, second⟩ := second
    exact other more first second
  simpa [endsLine] using fun _ => not_and_or.mp unpaired

theorem extendFirst_eq (c : Char) (lines : List (List Char)) :
    extendFirst c lines = (c :: lines.head?.getD []) :: lines.tail := by
  cases lines <;> rfl

theorem splitLines_head (text : List Char) : (splitLines text).head?.getD [] = restOfLine text := by
  induction text using splitLines.induct with
  | case1 => rfl
  | case2 rest ih => rfl
  | case3 c rest other terminator ih =>
    rw [splitLines.eq_3 c rest other, if_pos terminator, restOfLine,
      List.takeWhile_cons_of_neg (by simp [terminator])]
    rfl
  | case4 c rest other inner ih =>
    rw [splitLines.eq_3 c rest other, if_neg inner, extendFirst_eq, ih, restOfLine, restOfLine,
      List.takeWhile_cons_of_pos (by simp [inner])]
    rfl

theorem splitLines_eq_nil : splitLines text = [] ↔ text = [] := by
  induction text using splitLines.induct with
  | case1 => simp [splitLines]
  | case2 rest ih => simp [splitLines]
  | case3 c rest other terminator ih => simp [splitLines.eq_3 c rest other, terminator]
  | case4 c rest other inner ih => simp [splitLines.eq_3 c rest other, inner, extendFirst_eq]

theorem splitLines_first (filled : text ≠ []) : (splitLines text)[0]? = some (restOfLine text) := by
  rw [← splitLines_head]
  cases lines : splitLines text with
  | nil => exact absurd (splitLines_eq_nil.mp lines) filled
  | cons line others => rfl

/-- Where a terminator has ended, a character in front of the text changes neither the splitting nor
the counting behind it. -/
theorem splitLines_cons (behind : lineEnds (c :: rest) (i + 1) ≠ 0) :
    (splitLines (c :: rest))[lineEnds (c :: rest) (i + 1)]? =
      (splitLines rest)[lineEnds rest i]? := by
  rw [lineEnds_cons] at behind ⊢
  by_cases pair : c = '\x0d' ∧ ∃ more, rest = '\x0a' :: more
  · obtain ⟨rfl, more, rfl⟩ := pair
    rfl
  · have other : ∀ more, c = '\x0d' → rest = '\x0a' :: more → False :=
      fun more first second => pair ⟨first, more, second⟩
    have ends := endsLine_zero other
    rw [splitLines.eq_3 c rest other]
    by_cases terminator : isLineEnd c = true
    · rw [if_pos terminator, if_pos (ends.trans terminator), List.getElem?_cons_succ]
    · rw [if_neg (ends ▸ terminator), Nat.add_zero] at behind
      obtain ⟨m, behind⟩ := Nat.exists_eq_succ_of_ne_zero behind
      rw [if_neg terminator, if_neg (ends ▸ terminator), Nat.add_zero, extendFirst_eq, behind,
        List.getElem?_cons_succ, List.getElem?_tail]

theorem AtEnd.lineEnds (atEnd : AtEnd text i) (filled : text ≠ []) : lineEnds text i ≠ 0 := by
  obtain ⟨before, c, rfl⟩ := text.eq_nil_or_concat.resolve_left filled
  obtain ⟨rfl, ended⟩ := atEnd
  have last : endsLine (before ++ [c]) before.length = true := by
    simp [endsLine, ended c (by simp)]
  rw [List.length_concat, List.concat_eq_append, lineEnds_succ, if_pos last]
  exact Nat.succ_ne_zero _

theorem atEnd_cons (behind : lineEnds (c :: rest) (i + 1) ≠ 0) :
    AtEnd (c :: rest) (i + 1) ↔ AtEnd rest i := by
  unfold AtEnd
  rw [List.length_cons, Nat.succ_inj]
  refine and_congr_right fun _ => ?_
  cases rest with
  | nil =>
    rw [lineEnds_cons, lineEnds_nil, Nat.zero_add] at behind
    have ends : endsLine [c] 0 = true := by_contra fun inner => behind (if_neg inner)
    have alone : ∀ more, c = '\x0d' → [] = '\x0a' :: more → False := fun _ _ => nofun
    rw [endsLine_zero alone] at ends
    simpa using ends
  | cons d rest => rw [List.getLast?_cons_cons]

/-- The line around an offset has the number that was counted, and only the end of a text whose last
line is ended has none. -/
theorem splitLines_lineEnds (inside : i ≤ text.length) :
    (AtEnd text i ∧ (splitLines text)[lineEnds text i]? = none) ∨
      (¬ AtEnd text i ∧ (splitLines text)[lineEnds text i]? = some (lineAround text i)) := by
  -- Up to the first terminator the line is the first one; behind it the rest of the text decides.
  induction text generalizing i with
  | nil =>
    cases Nat.le_zero.mp inside
    exact .inl ⟨⟨rfl, nofun⟩, rfl⟩
  | cons c rest ih =>
    by_cases within : lineEnds (c :: rest) i = 0
    · have filled : c :: rest ≠ [] := List.cons_ne_nil _ _
      rw [within, splitLines_first filled, lineAround_first within]
      exact .inr ⟨fun atEnd => atEnd.lineEnds filled within, rfl⟩
    · cases i with
      | zero => exact absurd rfl within
      | succ i =>
        rw [atEnd_cons within, splitLines_cons within, lineAround_cons within]
        exact ih (Nat.le_of_succ_le_succ inside)

end ParseFailure.Text
