import ParseFailure.Description.Misplaced
import ParseFailure.Proofs.Text.Reading
import ParseFailure.Proofs.Writing

/-!
Messages that can be taken apart again. A heading that stands alone is read back with the name, the
line and the column that it was made for, whatever description follows it, and the description of a
misplaced branch is read back with the text that it quotes.
-/

namespace ParseFailure

namespace Location

open Text

def readTemplate (text : List Char) : Option (Option String × List Char) :=
  match text.dropPrefix? "template ".toList with
  | some quoted => (unquote quoted).map fun read => (some read.1, read.2)
  | none => (text.dropPrefix? "nameless template".toList).map fun rest => (none, rest)

/-- Reads the heading of a message that stands alone. What follows it is the description. -/
def readHeading (text : List Char) : Option (Option String × Int × Int × List Char) := do
  let text ← text.dropPrefix? "Parsing error in ".toList
  let (name, text) ← readTemplate text
  let text ← text.dropPrefix? " in line ".toList
  let (line, text) ← readInt text
  let text ← text.dropPrefix? ", column ".toList
  let (column, text) ← readInt text
  let rest ← text.dropPrefix? ":\n".toList
  some (name, line, column, rest)

theorem readTemplate_template (name : Option String) (rest : List Char) :
    readTemplate ((template name).toList ++ rest) = some (name, rest) := by
  cases name with
  | none =>
    have other : ((template none).toList ++ rest).dropPrefix? "template ".toList = none := rfl
    rw [readTemplate, other]
    exact congrArg (Option.map _) (dropPrefix?_append "nameless template".toList rest)
  | some name =>
    have named : (template (some name)).toList ++ rest =
        "template ".toList ++ ((quote name).toList ++ rest) := by
      rw [template, String.toList_append, List.append_assoc]
    rw [readTemplate, named, dropPrefix?_append]
    simp only [unquote_quote, Option.map_some]

theorem toList_verboseInFull (name : Option String) (line column : Int) (rest : List Char) :
    (verboseInFull name line column).toList ++ rest =
      "Parsing error in ".toList ++ ((template name).toList ++ (" in line ".toList ++
        (line.repr.toList ++ (", column ".toList ++ (column.repr.toList ++
          (":\n".toList ++ rest)))))) := by
  have start : "Parsing error in ".toList = "Parsing error ".toList ++ "in ".toList := rfl
  unfold verboseInFull phraseInFull
  simp only [String.toList_append, List.append_assoc, start]

theorem readHeading_verboseInFull (name : Option String) (line column : Int) (rest : List Char) :
    readHeading ((verboseInFull name line column).toList ++ rest) =
      some (name, line, column, rest) := by
  have afterLine : ∀ more, StopsDigits (", column ".toList ++ more) := by
    rintro more c first
    cases Option.some.inj first
    rfl
  have afterColumn : ∀ more, StopsDigits (":\n".toList ++ more) := by
    rintro more c first
    cases Option.some.inj first
    rfl
  simp only [toList_verboseInFull, readHeading, dropPrefix?_append, readTemplate_template,
    readInt_repr _ (afterLine _), readInt_repr _ (afterColumn _), Option.bind_eq_bind,
    Option.bind_some]

/-- A message that stands alone is told apart from every other one by each of its parts. -/
theorem verboseInFull_append_inj {name otherName : Option String}
    {line otherLine column otherColumn : Int} {description other : String} :
    verboseInFull name line column ++ description =
        verboseInFull otherName otherLine otherColumn ++ other ↔
      name = otherName ∧ line = otherLine ∧ column = otherColumn ∧ description = other := by
  constructor
  · intro same
    have read := congrArg (fun message => readHeading message.toList) same
    simp only [String.toList_append, readHeading_verboseInFull, Option.some.injEq,
      Prod.mk.injEq, String.toList_inj] at read
    exact read
  · rintro ⟨rfl, rfl, rfl, rfl⟩
    rfl

end Location

namespace Description

open Text

theorem toList_misplacedQuoted (quoted : String) :
    (misplacedQuoted quoted).toList =
      "Unexpected directive, ".toList ++ (quoted.toList ++
        ". Check whether you have a valid #if-#elseif-#else structure.".toList) := by
  unfold misplacedQuoted
  rw [String.toList_append, String.toList_append, List.append_assoc]

/-- Reads the description of a misplaced branch as the text that it quotes. -/
def readMisplaced (text : List Char) : Option String := do
  let text ← text.dropPrefix? "Unexpected directive, ".toList
  let (quoted, text) ← unquote text
  let _ ← text.dropPrefix? ". Check whether you have a valid #if-#elseif-#else structure.".toList
  some quoted

theorem readMisplaced_misplacedQuoted (text : String) :
    readMisplaced (misplacedQuoted (quote text)).toList = some text := by
  have whole := dropPrefix?_append
    ". Check whether you have a valid #if-#elseif-#else structure.".toList []
  rw [List.append_nil] at whole
  rw [toList_misplacedQuoted]
  apply Option.bind_eq_some_iff.mpr
  refine ⟨_, dropPrefix?_append _ _, ?_⟩
  apply Option.bind_eq_some_iff.mpr
  refine ⟨_, unquote_quote text _, ?_⟩
  exact Option.bind_eq_some_iff.mpr ⟨_, whole, rfl⟩

theorem readMisplaced_opening {description : List Char} {image : String}
    (read : readMisplaced description = some image) :
    "Unexpected directive, ".toList <+: description := by
  obtain ⟨behind, dropped, -⟩ := Option.bind_eq_some_iff.mp read
  obtain ⟨start, rfl, same⟩ := List.dropPrefix?_eq_some_iff.mp dropped
  rw [beq_iff_eq] at same
  exact ⟨behind, by rw [same]⟩

theorem misplacedQuoted_inj {first second : String} :
    misplacedQuoted (quote first) = misplacedQuoted (quote second) ↔ first = second := by
  constructor
  · intro same
    have read := readMisplaced_misplacedQuoted first
    rw [same, readMisplaced_misplacedQuoted] at read
    exact (Option.some.inj read).symm
  · rintro rfl
    rfl

end Description

namespace Location

open Text

/-- A literal is read back from any text that begins with it, and none reads like the word for no
text; so a message that stands alone determines the name, the line, the column and the description
that it was made of, and the description of a misplaced branch determines the text of its token. The
heading of such a message is made exactly when its numbers can be written. -/
theorem messages_decodable :
    (∀ (text : String) (rest : List Char),
      unquote ((quote text).toList ++ rest) = some (text, rest)) ∧
    (∀ text, quoteOrNull (some text) ≠ quoteOrNull none) ∧
    (∀ (limits : Limits) (name : Option String) (line column : Int),
      verboseHeading limits name line column =
        if limits.writes line = true ∧ limits.writes column = true then
          .ok (verboseInFull name line column)
        else .error limits.digitFault) ∧
    (∀ (name otherName : Option String) (line otherLine column otherColumn : Int)
        (description other : String),
      verboseInFull name line column ++ description =
          verboseInFull otherName otherLine otherColumn ++ other ↔
        name = otherName ∧ line = otherLine ∧ column = otherColumn ∧ description = other) ∧
    ∀ (kind otherKind : Kind) (span otherSpan : Span) (text other : String),
      Description.misplaced ⟨kind, .text text, span⟩ =
          Description.misplaced ⟨otherKind, .text other, otherSpan⟩ ↔
        text = other := by
  refine ⟨unquote_quote, quote_ne_null, verboseHeading_eq,
    fun _ _ _ _ _ _ _ _ => verboseInFull_append_inj, ?_⟩
  intro kind otherKind span otherSpan text other
  rw [← Description.misplacedQuoted_inj]
  exact ⟨Except.ok.inj, congrArg Except.ok⟩

end Location

end ParseFailure
