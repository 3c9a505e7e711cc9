import ParseFailure.Proofs.Text.Reading
import ParseFailure.Text.Escape

/-!
What escaped text looks like: printable ASCII in which a backslash takes the next character along
and no other character is a quote. So every quote in it stands behind an odd number of backslashes.
-/

namespace ParseFailure.Text

def isQuote (c : Char) : Bool := c == '\x22' || c == '\x27'

/-- Printable characters, those behind a backslash taken along with it, the others no quotes. -/
inductive Escaped : List Char → Prop where
  | nil : Escaped []
  | pair {c : Char} {text : List Char} : isPrintable c = true → Escaped text →
      Escaped ('\\' :: c :: text)
  | plain {c : Char} {text : List Char} : isPrintable c = true → isQuote c = false → c ≠ '\\' →
      Escaped text → Escaped (c :: text)

variable {text other : List Char}

theorem Escaped.append (first : Escaped text) (second : Escaped other) :
    Escaped (text ++ other) := by
  induction first with
  | nil => exact second
  | pair printable _ ih => exact .pair printable ih
  | plain printable unquoted plain _ ih => exact .plain printable unquoted plain ih

theorem Escaped.printable (escaped : Escaped text) : ∀ c ∈ text, isPrintable c = true := by
  induction escaped with
  | nil =>
    intro c member
    contradiction
  | pair printable _ ih =>
    exact List.forall_mem_cons.mpr ⟨by decide, List.forall_mem_cons.mpr ⟨printable, ih⟩⟩
  | plain printable _ _ _ ih => exact List.forall_mem_cons.mpr ⟨printable, ih⟩

theorem lowerDigit_plain : ∀ d < 16, isPrintable (Hex.lowerDigit d) = true ∧
    isQuote (Hex.lowerDigit d) = false ∧ Hex.lowerDigit d ≠ '\\' := by
  decide

theorem Escaped.digit (n : Nat) (escaped : Escaped text) :
    Escaped (Hex.lowerDigit (n % 16) :: text) := by
  obtain ⟨printable, unquoted, plain⟩ := lowerDigit_plain (n % 16) (Nat.mod_lt n (by decide))
  exact .plain printable unquoted plain escaped

theorem unitEscape_escaped (unit : Nat) : Escaped (unitEscape unit) := by
  rw [unitEscape, Hex.quad_eq]
  apply Escaped.pair (by decide)
  exact .digit _ (.digit _ (.digit _ (.digit _ .nil)))

theorem unitsEscape_escaped (c : Char) : Escaped (unitsEscape c) := by
  unfold unitsEscape
  split
  · exact unitEscape_escaped _
  · exact (unitEscape_escaped _).append (unitEscape_escaped _)

theorem shortForm?_printable {c letter : Char} (short : shortForm? c = some letter) :
    isPrintable letter = true := by
  unfold shortForm? at short
  split at short
  all_goals cases short
  all_goals rfl

theorem escapeChar_escaped (c : Char) : Escaped (escapeChar c) := by
  unfold escapeChar
  split
  · exact .nil
  · split
    · exact .pair (by decide) .nil
    · next single =>
      split
      · next letter short => exact .pair (shortForm?_printable short) .nil
      · next long =>
        obtain ⟨double, plain⟩ := shortForm?_none long
        split
        · next printable =>
          apply Escaped.plain printable _ plain .nil
          simp [isQuote, double, single]
        · exact unitsEscape_escaped c

theorem escape_escaped (text : String) : Escaped (escape text).toList := by
  rw [escape, String.toList_ofList]
  induction text.toList with
  | nil => exact .nil
  | cons c text ih => exact (escapeChar_escaped c).append ih

/-- The number of backslashes that a text ends with. -/
def backslashes (text : List Char) : Nat := (text.reverse.takeWhile (· == '\\')).length

theorem backslashes_backslash (text : List Char) :
    backslashes (text ++ ['\\']) = backslashes text + 1 := by
  simp [backslashes]

theorem backslashes_other {c : Char} (plain : c ≠ '\\') (text : List Char) :
    backslashes (text ++ [c]) = 0 := by
  simp [backslashes, plain]

/-- A pair leaves it even or odd how many backslashes there are at the end. -/
theorem backslashes_pair (even : backslashes text % 2 = 0) (c : Char) :
    backslashes (text ++ ['\\', c]) % 2 = 0 := by
  have split : text ++ ['\\', c] = (text ++ ['\\']) ++ [c] := by simp
  rw [split]
  by_cases plain : c = '\\'
  · rw [plain, backslashes_backslash, backslashes_backslash]
    omega
  · rw [backslashes_other plain]

/-- Behind an even number of backslashes, a quote in escaped text has an odd number of them. -/
theorem Escaped.guarded (escaped : Escaped text) {first rest : List Char} {mark : Char}
    (quote : isQuote mark = true) (split : text = first ++ mark :: rest) (before : List Char)
    (even : backslashes before % 2 = 0) : backslashes (before ++ first) % 2 = 1 := by
  induction escaped generalizing before first with
  | nil => simp at split
  | @pair c text _ _ ih =>
    match first, split with
    | [], split =>
      obtain ⟨rfl, -⟩ := List.cons.inj split
      contradiction
    | [_], split =>
      obtain ⟨rfl, -⟩ := List.cons.inj split
      rw [backslashes_backslash]
      omega
    | _ :: _ :: first, split =>
      simp only [List.cons_append, List.cons.injEq] at split
      obtain ⟨rfl, rfl, split⟩ := split
      have later := ih split _ (backslashes_pair even c)
      rwa [List.append_assoc] at later
  | @plain c text _ unquoted plain _ ih =>
    match first, split with
    | [], split =>
      obtain ⟨rfl, -⟩ := List.cons.inj split
      rw [quote] at unquoted
      contradiction
    | _ :: first, split =>
      simp only [List.cons_append, List.cons.injEq] at split
      obtain ⟨rfl, split⟩ := split
      have none : backslashes (before ++ [c]) % 2 = 0 := by rw [backslashes_other plain]
      have later := ih split _ none
      rwa [List.append_assoc] at later

end ParseFailure.Text
