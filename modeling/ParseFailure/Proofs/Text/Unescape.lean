import ParseFailure.Proofs.Text.Escaped

/-!
Escaped text read back. A reader that undoes the two-character escapes and joins surrogate pairs
finds the text that was escaped, but for its NUL characters; those leave no trace.
-/

namespace ParseFailure.Text

/-- The units of a character: its number up to U+FFFF, a surrogate pair above. -/
def utf16 (c : Char) : List Nat :=
  if c.toNat < 0x10000 then [c.toNat]
  else [0xD800 + (c.toNat - 0x10000) / 0x400, 0xDC00 + (c.toNat - 0x10000) % 0x400]

def isHighUnit (unit : Nat) : Bool := 0xD800 ≤ unit && unit < 0xDC00

def isLowUnit (unit : Nat) : Bool := 0xDC00 ≤ unit && unit < 0xE000

def joined (high low : Nat) : Char :=
  Char.ofNat (0x10000 + (high - 0xD800) * 0x400 + (low - 0xDC00))

/-- The characters that units write. Half of a pair on its own writes none. -/
def ofUnits : List Nat → Option (List Char)
  | [] => some []
  | unit :: rest =>
    if isHighUnit unit then
      match rest with
      | [] => none
      | low :: rest => if isLowUnit low then (ofUnits rest).map (joined unit low :: ·) else none
    else if isLowUnit unit then none
    else (ofUnits rest).map (Char.ofNat unit :: ·)

theorem ofUnits_single {unit : Nat} (whole : isHighUnit unit = false) (own : isLowUnit unit = false)
    (rest : List Nat) : ofUnits (unit :: rest) = (ofUnits rest).map (Char.ofNat unit :: ·) := by
  rw [ofUnits.eq_def]
  simp only [whole, own, Bool.false_eq_true, if_false]

theorem ofUnits_pair {high low : Nat} (first : isHighUnit high = true)
    (second : isLowUnit low = true) (rest : List Nat) :
    ofUnits (high :: low :: rest) = (ofUnits rest).map (joined high low :: ·) := by
  rw [ofUnits.eq_def]
  simp only [first, second, if_true]

/-- A character is no half of a surrogate pair, and there is none beyond U+10FFFF. -/
theorem toNat_scalar (c : Char) : c.toNat < 0xD800 ∨ 0xDFFF < c.toNat ∧ c.toNat < 0x110000 :=
  c.valid

theorem ofUnits_utf16 (c : Char) (rest : List Nat) :
    ofUnits (utf16 c ++ rest) = (ofUnits rest).map (c :: ·) := by
  have scalar := toNat_scalar c
  unfold utf16
  split
  · rw [List.singleton_append, ofUnits_single, Char.ofNat_toNat]
    · simp only [isHighUnit, Bool.and_eq_false_iff, decide_eq_false_iff_not]
      omega
    · simp only [isLowUnit, Bool.and_eq_false_iff, decide_eq_false_iff_not]
      omega
  · next large =>
    rw [List.cons_append, List.singleton_append, ofUnits_pair]
    · have same : 0x10000 + (0xD800 + (c.toNat - 0x10000) / 0x400 - 0xD800) * 0x400 +
          (0xDC00 + (c.toNat - 0x10000) % 0x400 - 0xDC00) = c.toNat := by omega
      rw [joined, same, Char.ofNat_toNat]
    · simp only [isHighUnit, Bool.and_eq_true, decide_eq_true_eq]
      omega
    · simp only [isLowUnit, Bool.and_eq_true, decide_eq_true_eq]
      omega

theorem ofUnits_text (text : List Char) : ofUnits (text.flatMap utf16) = some text := by
  induction text with
  | nil => rfl
  | cons c text ih =>
    rw [List.flatMap_cons, ofUnits_utf16, ih]
    rfl

/-- The character that a letter behind a backslash stands for; both quotes stand for themselves. -/
def unescapeLetter? (letter : Char) : Option Char :=
  if letter = '\x27' then some '\x27' else longForm? letter

def readUnits : List Char → Option (List Nat)
  | [] => some []
  | '\\' :: 'u' :: a :: b :: c :: d :: rest => do
    let unit ← Hex.ofQuad? a b c d
    let units ← readUnits rest
    some (unit :: units)
  | '\\' :: letter :: rest => do
    let c ← unescapeLetter? letter
    let units ← readUnits rest
    some (utf16 c ++ units)
  | c :: rest => do
    let units ← readUnits rest
    some (utf16 c ++ units)

/-- Reads escaped text as the text that it stands for. -/
def unescape (written : String) : Option String := do
  let units ← readUnits written.toList
  let text ← ofUnits units
  some (String.ofList text)

theorem Hex.value?_lowerDigit : ∀ d < 16, value? (lowerDigit d) = some d := by decide

variable {c letter : Char}

theorem readUnits_unit {unit : Nat} (small : unit < 0x10000) (rest : List Char) :
    readUnits (unitEscape unit ++ rest) = (readUnits rest).map ([unit] ++ ·) := by
  rw [unitEscape, Hex.quad_eq]
  simp only [List.cons_append, List.nil_append]
  rw [readUnits, Hex.ofQuad?_digits Hex.value?_lowerDigit small, Option.bind_eq_bind,
    Option.bind_some]
  cases readUnits rest <;> rfl

theorem readUnits_units (c : Char) (rest : List Char) :
    readUnits (unitsEscape c ++ rest) = (readUnits rest).map (utf16 c ++ ·) := by
  have scalar := toNat_scalar c
  unfold unitsEscape utf16
  split
  · next small => exact readUnits_unit small rest
  · rw [List.append_assoc, readUnits_unit (by omega), readUnits_unit (by omega), Option.map_map]
    rfl

theorem readUnits_letter (known : unescapeLetter? letter = some c) (other : letter ≠ 'u')
    (rest : List Char) :
    readUnits ('\\' :: letter :: rest) = (readUnits rest).map (utf16 c ++ ·) := by
  rw [readUnits.eq_3 letter rest fun _ _ _ _ _ same => absurd same other, known]
  cases readUnits rest <;> rfl

theorem readUnits_plain (plain : c ≠ '\\') (rest : List Char) :
    readUnits (c :: rest) = (readUnits rest).map (utf16 c ++ ·) := by
  rw [readUnits.eq_4 c rest (fun _ _ _ _ _ same => absurd same plain)
    fun _ _ same => absurd same plain]
  cases readUnits rest <;> rfl

/-- What stands for a character is read as its units; nothing stands for NUL. -/
theorem readUnits_escapeChar (kept : c ≠ '\x00') (rest : List Char) :
    readUnits (escapeChar c ++ rest) = (readUnits rest).map (utf16 c ++ ·) := by
  rw [escapeChar, if_neg kept]
  split
  · next single =>
    subst single
    exact readUnits_letter rfl (by decide) rest
  · split
    · next letter short =>
      obtain ⟨known, other⟩ := longForm?_shortForm short
      apply readUnits_letter _ other
      rw [unescapeLetter?, if_neg _, known]
      rintro rfl
      contradiction
    · next long =>
      obtain ⟨-, plain⟩ := shortForm?_none long
      split
      · exact readUnits_plain plain rest
      · exact readUnits_units c rest

theorem readUnits_escaped (text : List Char) :
    readUnits (text.flatMap escapeChar) = some ((text.filter (· ≠ '\x00')).flatMap utf16) := by
  induction text with
  | nil => rfl
  | cons c text ih =>
    rw [List.flatMap_cons]
    by_cases nul : c = '\x00'
    · subst nul
      exact ih
    · rw [readUnits_escapeChar nul, ih, List.filter_cons_of_pos (by simpa using nul),
        List.flatMap_cons]
      rfl

def withoutNul (text : String) : String := String.ofList (text.toList.filter (· ≠ '\x00'))

theorem unescape_escape (text : String) : unescape (escape text) = some (withoutNul text) := by
  rw [unescape, escape, String.toList_ofList, readUnits_escaped, Option.bind_eq_bind,
    Option.bind_some, ofUnits_text]
  rfl

theorem escape_withoutNul (text : String) : escape (withoutNul text) = escape text := by
  rw [escape, escape, withoutNul, String.toList_ofList]
  congr 1
  induction text.toList with
  | nil => rfl
  | cons c text ih =>
    rw [List.flatMap_cons]
    by_cases nul : c = '\x00'
    · subst nul
      exact ih
    · rw [List.filter_cons_of_pos (by simpa using nul), List.flatMap_cons, ih]

/-- Escaped text is printable ASCII in which every quote stands behind an odd number of backslashes;
it is read back as the text without NUL; and so two texts are escaped alike exactly where they
differ in NUL characters only. -/
theorem escape_lossless :
    (∀ text : String, ∀ c ∈ (escape text).toList, 0x20 ≤ c.toNat ∧ c.toNat ≤ 0x7e) ∧
    (∀ (text : String) (before after : List Char) (mark : Char),
      (escape text).toList = before ++ mark :: after → mark = '\x22' ∨ mark = '\x27' →
        (before.reverse.takeWhile (· == '\\')).length % 2 = 1) ∧
    (∀ text : String, unescape (escape text) = some (withoutNul text)) ∧
    ∀ text other : String, escape text = escape other ↔ withoutNul text = withoutNul other := by
  refine ⟨?_, ?_, unescape_escape, ?_⟩
  · intro text c member
    have printable := (escape_escaped text).printable c member
    simpa only [isPrintable, Bool.and_eq_true, decide_eq_true_eq] using printable
  · intro text before after mark split quote
    have quote : isQuote mark = true := by simpa [isQuote] using quote
    exact (escape_escaped text).guarded quote split [] rfl
  · intro text other
    constructor
    · intro same
      have read := unescape_escape text
      rw [same, unescape_escape] at read
      exact (Option.some.inj read).symm
    · intro same
      rw [← escape_withoutNul, same, escape_withoutNul]

/-- A text with a NUL, a quote behind a backslash, what reads like an escape, and a surrogate pair.
-/
def mixedText : String := "\x00\\\"\\u0041😀"

theorem escape_lossless_mixedText :
    (escape mixedText).toList = "\\\\\\".toList ++ '\x22' :: "\\\\u0041\\ud83d\\ude00".toList ∧
      ("\\\\\\".toList.reverse.takeWhile (· == '\\')).length % 2 = 1 ∧
      (0x20 ≤ '\x22'.toNat ∧ '\x22'.toNat ≤ 0x7e) ∧
      unescape (escape mixedText) = some "\\\"\\u0041😀" ∧
      escape mixedText = escape "\\\"\x00\\u0041😀" := by
  obtain ⟨printable, guarded, read, alike⟩ := escape_lossless
  have written : (escape mixedText).toList =
      "\\\\\\".toList ++ '\x22' :: "\\\\u0041\\ud83d\\ude00".toList := by decide +kernel
  refine ⟨written, guarded _ _ _ _ written (.inl rfl), printable mixedText _ ?_, ?_, ?_⟩
  · rw [written]
    exact List.mem_append_right _ List.mem_cons_self
  · rw [read]
    decide +kernel
  · apply (alike _ _).mpr
    decide +kernel

end ParseFailure.Text
