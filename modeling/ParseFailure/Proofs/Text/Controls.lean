import ParseFailure.Proofs.Names
import ParseFailure.Proofs.Text.Escaped
import ParseFailure.Text.Literal

/-!
The control characters of a text. Escaping leaves none of them; quoting escapes those below the
space and leaves the ones from U+007F to U+009F as they are.
-/

namespace ParseFailure.Text

/-- The control characters of the first 256 code points. -/
def isControl (c : Char) : Bool := c.toNat < 0x20 || 0x7f ≤ c.toNat && c.toNat < 0xa0

/-- The control characters of a text, in order. -/
def controls (text : String) : List Char := text.toList.filter isControl

/-- The control characters above printable ASCII. -/
def isUpperControl (c : Char) : Bool := 0x7f ≤ c.toNat && c.toNat < 0xa0

def upperControls (text : String) : List Char := text.toList.filter isUpperControl

variable {c letter : Char} {text separator : String} {texts : List String}

theorem isControl_printable (printable : isPrintable c = true) : isControl c = false := by
  simp only [isPrintable, Bool.and_eq_true, decide_eq_true_eq] at printable
  simp only [isControl, Bool.or_eq_false_iff, Bool.and_eq_false_iff, decide_eq_false_iff_not]
  omega

theorem controls_append (first second : String) :
    controls (first ++ second) = controls first ++ controls second := by
  rw [controls, String.toList_append, List.filter_append]
  rfl

theorem controls_eq_nil (none : ∀ c ∈ text.toList, isControl c = false) : controls text = [] :=
  List.filter_eq_nil_iff.mpr fun c member => by simp [none c member]

theorem controls_printable (printable : ∀ c ∈ text.toList, isPrintable c = true) :
    controls text = [] :=
  controls_eq_nil fun c member => isControl_printable (printable c member)

theorem controls_escape (text : String) : controls (escape text) = [] :=
  controls_printable (escape_escaped text).printable

theorem isPrintable_digit (digit : c.isDigit = true) : isPrintable c = true := by
  simp only [Char.isDigit, Bool.and_eq_true, decide_eq_true_eq, ge_iff_le,
    UInt32.le_iff_toNat_le] at digit
  obtain ⟨low, high⟩ := digit
  simp only [isPrintable, Bool.and_eq_true, decide_eq_true_eq]
  change 48 ≤ c.toNat at low
  change c.toNat ≤ 57 at high
  omega

theorem controls_repr (n : Int) : controls n.repr = [] := by
  apply controls_printable
  intro c member
  rcases NameTable.mem_repr member with digit | rfl
  · exact isPrintable_digit digit
  · rfl

/-- Texts without control characters that are joined have those of the separators between them. -/
theorem controls_joinWith (each : ∀ text ∈ texts, controls text = []) :
    controls (joinWith separator texts) =
      (List.replicate (texts.length - 1) (controls separator)).flatten := by
  induction texts with
  | nil => rfl
  | cons text rest ih =>
    obtain ⟨first, others⟩ := List.forall_mem_cons.mp each
    cases rest with
    | nil => exact first
    | cons next rest =>
      rw [joinWith_cons_cons, controls_append, controls_append, first, ih others, List.nil_append]
      rfl

theorem controls_joinWith_plain (plain : controls separator = [])
    (each : ∀ text ∈ texts, controls text = []) : controls (joinWith separator texts) = [] := by
  rw [controls_joinWith each, plain]
  simp

theorem upperDigit_printable : ∀ d < 16, isPrintable (Hex.upperDigit d) = true := by decide

theorem quad_printable (n : Nat) : ∀ c ∈ Hex.quad Hex.upperDigit n, isPrintable c = true := by
  have digit : ∀ m, isPrintable (Hex.upperDigit (m % 16)) = true := fun m =>
    upperDigit_printable _ (Nat.mod_lt m (by decide))
  rw [Hex.quad_eq]
  simp [digit]

theorem isUpperControl_short (short : shortForm? c = some letter) : isUpperControl c = false := by
  unfold shortForm? at short
  split at short
  all_goals first | rfl | contradiction

/-- What is written for a character between quotes holds a control character only if that is the
character itself. -/
theorem filter_quoteChar (c : Char) :
    (quoteChar c).filter isControl = if isUpperControl c then [c] else [] := by
  have mark : isControl '\\' = false := by decide
  unfold quoteChar
  split
  · next letter short =>
    have plain := isControl_printable (shortForm?_printable short)
    simp [isUpperControl_short short, plain, mark]
  · split
    · next low =>
      have below : isUpperControl c = false := by
        simp only [isUpperControl, Bool.and_eq_false_iff, decide_eq_false_iff_not]
        omega
      have unit : isControl 'u' = false := by decide
      have digits : (Hex.quad Hex.upperDigit c.toNat).filter isControl = [] :=
        List.filter_eq_nil_iff.mpr fun d member => by
          simp [isControl_printable (quad_printable c.toNat d member)]
      simp [below, unit, mark, digits]
    · next high =>
      have same : isControl c = isUpperControl c := by simp [isControl, isUpperControl, high]
      simp [same, List.filter_cons]

theorem controls_quote (text : String) : controls (quote text) = upperControls text := by
  have mark : isControl '\x22' = false := by decide
  have body : (text.toList.flatMap quoteChar).filter isControl = upperControls text := by
    rw [upperControls]
    induction text.toList with
    | nil => rfl
    | cons c rest ih =>
      rw [List.flatMap_cons, List.filter_append, ih, filter_quoteChar, List.filter_cons]
      split <;> rfl
  simp [controls, quote, body, mark]

end ParseFailure.Text
