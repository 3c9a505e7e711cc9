import ParseFailure.Proofs.Text.Escaped

/-!
Texts that can stand between quotes as they are. Escaped text is one, so the quote that closes a row
of escaped texts is the first one without a backslash.
-/

namespace ParseFailure.Text

/-- A text in which a backslash takes the next character along and no other character is a quote. -/
inductive Enclosable : List Char → Prop where
  | nil : Enclosable []
  | escaped (c : Char) {text : List Char} : Enclosable text → Enclosable ('\\' :: c :: text)
  | plain {c : Char} {text : List Char} : c ≠ '\x22' → c ≠ '\\' → Enclosable text →
      Enclosable (c :: text)

def readEnclosed : List Char → Option (List Char × List Char)
  | [] => none
  | '\x22' :: rest => some ([], rest)
  | '\\' :: c :: rest => (readEnclosed rest).map fun read => ('\\' :: c :: read.1, read.2)
  | c :: rest => (readEnclosed rest).map fun read => (c :: read.1, read.2)

variable {text other : List Char}

/-- What can stand between quotes is read back, whatever follows the closing quote. -/
theorem Enclosable.read (enclosable : Enclosable text) (rest : List Char) :
    readEnclosed (text ++ '\x22' :: rest) = some (text, rest) := by
  induction enclosable with
  | nil => rfl
  | escaped c _ ih => rw [List.cons_append, List.cons_append, readEnclosed, ih, Option.map_some]
  | @plain c text open_ plain _ ih =>
    rw [List.cons_append, readEnclosed.eq_4 c _ open_ fun _ _ same => absurd same plain, ih,
      Option.map_some]

theorem Enclosable.append (first : Enclosable text) (second : Enclosable other) :
    Enclosable (text ++ other) := by
  induction first with
  | nil => exact second
  | escaped c _ ih => exact .escaped c ih
  | plain open_ plain _ ih => exact .plain open_ plain ih

theorem Enclosable.of_not_mem (open_ : '\x22' ∉ text) (plain : '\\' ∉ text) :
    Enclosable text := by
  induction text with
  | nil => exact .nil
  | cons c text ih =>
    have rest := ih (List.not_mem_of_not_mem_cons open_) (List.not_mem_of_not_mem_cons plain)
    exact .plain (List.ne_of_not_mem_cons open_).symm (List.ne_of_not_mem_cons plain).symm rest

/-- A double quote in escaped text is behind a backslash. -/
theorem Escaped.enclosable (escaped : Escaped text) : Enclosable text := by
  induction escaped with
  | nil => exact .nil
  | @pair c _ _ _ ih => exact .escaped c ih
  | plain _ unquoted plain _ ih =>
    apply Enclosable.plain _ plain ih
    rintro rfl
    contradiction

theorem escape_enclosable (text : String) : Enclosable (escape text).toList :=
  (escape_escaped text).enclosable

theorem joinWith_enclosable {separator : String} {texts : List String}
    (between : Enclosable separator.toList) (each : ∀ text ∈ texts, Enclosable text.toList) :
    Enclosable (joinWith separator texts).toList :=
  joinWith_holds .nil .append between each

end ParseFailure.Text
