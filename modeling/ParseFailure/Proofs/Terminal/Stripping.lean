import ParseFailure.Proofs.Text.Reading
import ParseFailure.Terminal.Strip
import ParseFailure.Terminal.Style

/-!
Stripping of a text in parts. No escape sequence holds a control character behind its escape
character, so a text may be cut in front of any control character, a further escape character
included, and stripped part by part. Hence the codes of a style leave no trace.
-/

namespace ParseFailure.Terminal

/-- The control characters, of which none can go on with a sequence. -/
def isBarrier (c : Char) : Bool := c.toNat < 0x20 || c.toNat == 0x7f

/-- A text without an escape character. -/
def Plain (text : String) : Prop := escapeMark ∉ text.toList

instance (text : String) : Decidable (Plain text) :=
  inferInstanceAs (Decidable (escapeMark ∉ text.toList))

variable {c : Char} {text rest after : List Char}

theorem barrier_outside (barrier : isBarrier c = true) :
    c ≠ '[' ∧ isSecond c = false ∧ isParameter c = false ∧ isIntermediate c = false ∧
      isFinal c = false := by
  simp only [isBarrier, Bool.or_eq_true, decide_eq_true_eq, beq_iff_eq] at barrier
  refine ⟨?_, ?_, ?_, ?_, ?_⟩
  · rintro rfl
    revert barrier
    decide
  all_goals
    simp only [isSecond, isParameter, isIntermediate, isFinal, Bool.or_eq_false_iff,
      Bool.and_eq_false_iff, decide_eq_false_iff_not]
    omega

theorem dropWhile_barrier {p : Char → Bool} (stops : p c = false) (text rest : List Char) :
    (text ++ c :: rest).dropWhile p = text.dropWhile p ++ c :: rest := by
  induction text with
  | nil => simp [stops]
  | cons d text ih =>
    by_cases holds : p d = true
    · simp [holds, ih]
    · simp [holds]

theorem afterControl?_barrier (barrier : isBarrier c = true) (text rest : List Char) :
    afterControl? (text ++ c :: rest) = (afterControl? text).map (· ++ c :: rest) := by
  obtain ⟨-, -, parameter, intermediate, final⟩ := barrier_outside barrier
  unfold afterControl?
  rw [dropWhile_barrier parameter, dropWhile_barrier intermediate]
  cases (text.dropWhile isParameter).dropWhile isIntermediate with
  | nil => simp [final]
  | cons d left =>
    by_cases ends : isFinal d = true
    · simp [ends]
    · simp [ends]

/-- What stands behind a control character does not make a sequence complete. -/
theorem afterEscape?_barrier (barrier : isBarrier c = true) (text rest : List Char) :
    afterEscape? (text ++ c :: rest) = (afterEscape? text).map (· ++ c :: rest) := by
  obtain ⟨bracket, second, -⟩ := barrier_outside barrier
  cases text with
  | nil => simp [afterEscape?, bracket, second]
  | cons d text =>
    simp only [List.cons_append, afterEscape?]
    split
    · exact afterControl?_barrier barrier text rest
    · split <;> rfl

theorem stripChars_sequence (found : afterEscape? rest = some after) :
    stripChars (escapeMark :: rest) = stripChars after := by
  rw [stripChars, if_pos rfl]
  split
  · next other same => rw [Option.some.inj (same.symm.trans found)]
  · next none => simp [found] at none

theorem stripChars_unopened (none : afterEscape? rest = none) :
    stripChars (escapeMark :: rest) = escapeMark :: stripChars rest := by
  rw [stripChars, if_pos rfl]
  split
  · next other same => simp [none] at same
  · rfl

theorem stripChars_cons (ordinary : c ≠ escapeMark) (rest : List Char) :
    stripChars (c :: rest) = c :: stripChars rest := by
  rw [stripChars, if_neg ordinary]

/-- A text may be cut in front of a control character. -/
theorem stripChars_append_barrier (barrier : isBarrier c = true) (text rest : List Char) :
    stripChars (text ++ c :: rest) = stripChars text ++ stripChars (c :: rest) := by
  -- A sequence may take many characters at once, so the induction is on the length.
  induction size : text.length using Nat.strongRecOn generalizing text with
  | ind n ih =>
    subst size
    cases text with
    | nil => simp [stripChars]
    | cons d text =>
      have shorter := ih text.length (Nat.lt_succ_self _) text rfl
      by_cases opens : d = escapeMark
      · subst opens
        have same := afterEscape?_barrier barrier text rest
        cases found : afterEscape? text with
        | some after =>
          rw [found, Option.map_some] at same
          have less := afterEscape?_length found
          rw [List.cons_append, stripChars_sequence same, stripChars_sequence found]
          exact ih after.length (Nat.lt_succ_of_lt less) after rfl
        | none =>
          rw [found, Option.map_none] at same
          rw [List.cons_append, stripChars_unopened same, stripChars_unopened found, shorter,
            List.cons_append]
      · rw [List.cons_append, stripChars_cons opens, stripChars_cons opens, shorter,
          List.cons_append]

/-- What has no escape character stays, and what follows it is stripped on its own. -/
theorem stripChars_append_plain (plain : escapeMark ∉ text) (rest : List Char) :
    stripChars (text ++ rest) = text ++ stripChars rest := by
  induction text with
  | nil => rfl
  | cons d text ih =>
    have ordinary : d ≠ escapeMark := (List.ne_of_not_mem_cons plain).symm
    rw [List.cons_append, stripChars_cons ordinary, ih (List.not_mem_of_not_mem_cons plain),
      List.cons_append]

theorem stripChars_code (style : Style) (rest : List Char) :
    stripChars (style.code.toList ++ rest) = stripChars rest := by
  cases style <;> exact stripChars_sequence rfl

theorem stripChars_opening (styles : List Style) (rest : List Char) :
    stripChars ((opening styles).toList ++ rest) = stripChars rest := by
  induction styles with
  | nil => rfl
  | cons style styles ih =>
    rw [opening, String.toList_append, List.append_assoc, stripChars_code, ih]

/-- A code begins with its escape character, so any text may be cut in front of it. -/
theorem stripChars_append_code (text : List Char) (style : Style) (rest : List Char) :
    stripChars (text ++ (style.code.toList ++ rest)) = stripChars text ++ stripChars rest := by
  have begins : ∃ more, style.code.toList = escapeMark :: more := by
    cases style <;> exact ⟨_, rfl⟩
  obtain ⟨more, same⟩ := begins
  have cut := stripChars_append_barrier (c := escapeMark) rfl text (more ++ rest)
  rw [← List.cons_append, ← same, stripChars_code] at cut
  exact cut

theorem toList_strip (text : String) : (strip text).toList = stripChars text.toList :=
  String.toList_ofList

theorem Plain.append {first second : String} (plain : Plain first) (other : Plain second) :
    Plain (first ++ second) := by
  rw [Plain, String.toList_append, List.mem_append]
  exact fun member => member.elim plain other

theorem strip_empty : strip "" = "" := by simp [strip, stripChars]

theorem strip_append_plain {first : String} (plain : Plain first) (second : String) :
    strip (first ++ second) = first ++ strip second := by
  rw [← String.toList_inj]
  simp only [toList_strip, String.toList_append, stripChars_append_plain plain]

theorem strip_plain {text : String} (plain : Plain text) : strip text = text := by
  have kept := strip_append_plain plain ""
  rwa [strip_empty, String.append_empty] at kept

/-- Stripping undoes styles, whatever the text holds. -/
theorem strip_paint (colors : Bool) (styles : List Style) (text : String) :
    strip (paint colors styles text) = strip text := by
  unfold paint
  split
  · rw [← String.toList_inj]
    have cut := stripChars_append_code text.toList .reset []
    rw [List.append_nil] at cut
    simp only [toList_strip, String.toList_append, List.append_assoc, stripChars_opening, cut,
      stripChars, List.append_nil]
  · rfl

/-- A styled text without an escape character, in front of anything. -/
theorem strip_paint_append {text : String} (plain : Plain text) (colors : Bool)
    (styles : List Style) (rest : String) :
    strip (paint colors styles text ++ rest) = text ++ strip rest := by
  unfold paint
  split
  · rw [← String.toList_inj]
    simp only [toList_strip, String.toList_append, List.append_assoc, stripChars_opening,
      stripChars_append_code]
    rw [← List.append_nil text.toList, stripChars_append_plain plain]
    simp [stripChars]
  · exact strip_append_plain plain rest

/-- Lines are stripped one by one: a line break is a control character. -/
theorem strip_joinWith (texts : List String) :
    strip (Text.joinWith "\n" texts) = Text.joinWith "\n" (texts.map strip) := by
  induction texts with
  | nil => exact strip_empty
  | cons text rest ih =>
    cases rest with
    | nil => rfl
    | cons next rest =>
      have cut := stripChars_append_barrier (c := '\n') rfl text.toList
        (Text.joinWith "\n" (next :: rest)).toList
      rw [stripChars_cons (by decide), ← toList_strip, ← toList_strip, ih] at cut
      have one : "\n".toList = ['\n'] := rfl
      rw [← String.toList_inj, toList_strip]
      simpa only [Text.joinWith_cons_cons, List.map_cons, String.toList_append, List.append_assoc,
        one, List.singleton_append] using cut

theorem plain_joinWith {texts : List String} (each : ∀ text ∈ texts, Plain text) :
    Plain (Text.joinWith "\n" texts) := by
  have neither : ∀ {first second : List Char}, escapeMark ∉ first → escapeMark ∉ second →
      escapeMark ∉ first ++ second := by
    intro first second before behind
    rw [List.mem_append]
    exact fun member => member.elim before behind
  exact Text.joinWith_holds (p := fun text => escapeMark ∉ text) List.not_mem_nil neither
    (by decide) each

end ParseFailure.Terminal
