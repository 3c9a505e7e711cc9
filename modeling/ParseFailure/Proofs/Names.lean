import ParseFailure.Proofs.Display
import ParseFailure.Proofs.Kind
import ParseFailure.Proofs.Text.Reading

/-!
The standard table of display names. Every code has a name of its own, in the table or made up for
it; a name in the table is one word, a made-up one is three; and a row of names that are separated
by spaces can be read back word by word.
-/

namespace ParseFailure

open Text

namespace Category

theorem mem_all (category : Category) : category ∈ all := by cases category <;> decide

/-- The category with a display name. -/
def ofImage? (image : List Char) : Option Category :=
  all.find? fun category => category.image.toList == image

def unnamed : List Char := "<token".toList

/-- No two categories have the same display name, and each is a word that no made-up name begins
with. -/
theorem images : ∀ category ∈ all, ofImage? category.image.toList = some category ∧
    ' ' ∉ category.image.toList ∧ '\n' ∉ category.image.toList ∧ category.image.toList ≠ [] ∧
    category.image.toList ≠ unnamed := by
  decide +kernel

theorem ofImage?_image (category : Category) : ofImage? category.image.toList = some category :=
  (images category (mem_all category)).1

theorem ofImage?_unnamed : ofImage? unnamed = none := by
  refine List.find?_eq_none.mpr fun category member => ?_
  simpa using (images category member).2.2.2.2

end Category

namespace NameTable

theorem lookup_images (n : Nat) (categories : List Category) :
    (categories.map fun category => (Kind.ofCategory category, some category.image)).lookup
        (.number n) =
      (categories.find? fun category => (category.code : Int) == n).map
        fun category => some category.image := by
  induction categories with
  | nil => rfl
  | cons category rest ih =>
    rw [List.map_cons, List.lookup_cons, List.find?_cons, ih]
    by_cases same : category.code = n
    · subst same
      simp [Kind.ofCategory]
    · have apart : ((category.code : Int) == n) = false :=
        beq_false_of_ne fun equal => same (Int.ofNat.inj equal)
      have other : (Kind.number n == Kind.ofCategory category) = false :=
        beq_false_of_ne fun equal => same (Int.ofNat.inj (Kind.number.inj equal)).symm
      rw [apart, other]

theorem standard_name (code : Int) :
    standard.nameInFull (.number code) =
      match Category.ofCode? code with
      | some category => category.image
      | none => placeholderInFull (.number code) := by
  cases code with
  | ofNat n =>
    have entry : standard.lookup? (.number (.ofNat n)) =
        (Category.ofCode? n).map Category.image := by
      rw [standard, Int.ofNat_eq_natCast, lookup?_mapping, lookup_images, Category.ofCode?]
      cases Category.all.find? fun category => (category.code : Int) == n <;> rfl
    rw [nameInFull, entry]
    change _ = match Category.ofCode? n with | some category => _ | none => _
    cases Category.ofCode? n <;> rfl
  | negSucc n =>
    have none : Category.ofCode? (.negSucc n) = none := by
      refine List.find?_eq_none.mpr fun category _ => ?_
      simp
    rw [nameInFull, lookup?_negative, none]

def words (name : String) : List (List Char) := name.toList.splitOn ' '

theorem words_image (category : Category) : words category.image = [category.image.toList] :=
  List.splitOn_eq_singleton (Category.images category (Category.mem_all category)).2.1

/-- A written number has digits and perhaps a sign, so it has neither a space nor a line break. -/
theorem mem_repr {code : Int} {c : Char} (member : c ∈ code.repr.toList) :
    c.isDigit = true ∨ c = '-' := by
  rw [Int.repr_eq_if] at member
  split at member
  · exact .inl (isDigit_repr _ c member)
  · rw [String.toList_append, List.mem_append] at member
    obtain sign | digit := member
    · exact .inr (List.mem_singleton.mp sign)
    · exact .inl (isDigit_repr _ c digit)

theorem toList_placeholder (code : Int) :
    (placeholderInFull (.number code)).toList =
      Category.unnamed ++ ' ' :: ("kind".toList ++ ' ' :: (code.repr.toList ++ ['>'])) := by
  have start : "<token kind ".toList = Category.unnamed ++ ' ' :: ("kind".toList ++ [' ']) := rfl
  have finish : ">".toList = ['>'] := rfl
  simp only [placeholderInFull, Kind.inFull, String.toList_append, start, finish, List.append_assoc,
    List.cons_append, List.nil_append]

theorem words_placeholder (code : Int) :
    words (placeholderInFull (.number code)) =
      [Category.unnamed, "kind".toList, code.repr.toList ++ ['>']] := by
  have written : ' ' ∉ code.repr.toList ++ ['>'] := by
    rw [List.mem_append]
    rintro (inside | inside)
    · exact absurd (mem_repr inside) (by decide)
    · exact absurd inside (by decide)
  rw [words, toList_placeholder, List.splitOn_append_cons_self, List.splitOn_append_cons_self,
    List.splitOn_eq_singleton written, List.splitOn_eq_singleton (by decide),
    List.splitOn_eq_singleton (by decide)]
  rfl

/-- Reads a row of words as the standard names of codes. -/
def readWords : List (List Char) → Option (List Int)
  | [] => some []
  | word :: rest =>
    match Category.ofImage? word, rest with
    | some category, rest => (readWords rest).map ((category.code : Int) :: ·)
    | none, kind :: number :: rest =>
      if word = Category.unnamed ∧ kind = "kind".toList then
        match readInt number with
        | some (code, ['>']) => (readWords rest).map (code :: ·)
        | _ => none
      else none
    | none, _ => none

theorem readWords_image (category : Category) (rest : List (List Char)) :
    readWords (category.image.toList :: rest) =
      (readWords rest).map ((category.code : Int) :: ·) :=
  readWords.eq_2 _ _ category (Category.ofImage?_image category)

theorem readWords_placeholder (code : Int) (rest : List (List Char)) :
    readWords (Category.unnamed :: "kind".toList :: (code.repr.toList ++ ['>']) :: rest) =
      (readWords rest).map (code :: ·) := by
  have stops : StopsDigits ['>'] := by
    intro c first
    cases Option.some.inj first
    rfl
  rw [readWords.eq_3 _ _ _ _ Category.ofImage?_unnamed, if_pos ⟨rfl, rfl⟩,
    readInt_repr code stops]
  rfl

/-- The words of a standard name are read as its code. -/
theorem readWords_name (code : Int) (rest : List (List Char)) :
    readWords (words (standard.nameInFull (.number code)) ++ rest) =
      (readWords rest).map (code :: ·) := by
  rw [standard_name]
  cases found : Category.ofCode? code with
  | some category =>
    rw [Category.ofCode?_eq_some.mp found]
    simp only [words_image, List.singleton_append, readWords_image]
  | none =>
    simp only [words_placeholder, List.cons_append, List.nil_append, readWords_placeholder]

theorem readWords_names (codes : List Int) :
    readWords (codes.flatMap fun code => words (standard.nameInFull (.number code))) =
      some codes := by
  induction codes with
  | nil => rfl
  | cons code rest ih =>
    rw [List.flatMap_cons, readWords_name, ih]
    rfl

/-- A standard name is not empty and stays on one line. -/
theorem standard_name_line (code : Int) :
    (standard.nameInFull (.number code)).toList ≠ [] ∧
      '\n' ∉ (standard.nameInFull (.number code)).toList := by
  rw [standard_name]
  cases Category.ofCode? code with
  | some category =>
    obtain ⟨-, -, line, filled, -⟩ := Category.images category (Category.mem_all category)
    exact ⟨filled, line⟩
  | none =>
    simp only [toList_placeholder]
    refine ⟨List.append_ne_nil_of_left_ne_nil (by decide) _, ?_⟩
    simp only [List.mem_append, List.mem_cons]
    rintro (inside | inside | inside | inside | inside | inside)
    case inr.inr.inr.inr.inl => exact absurd (mem_repr inside) (by decide)
    all_goals exact absurd inside (by decide)

end NameTable

end ParseFailure
