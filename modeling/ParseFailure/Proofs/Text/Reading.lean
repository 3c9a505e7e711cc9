import Mathlib.Data.List.Basic
import ParseFailure.Text.Join
import ParseFailure.Text.Quote

/-!
Reading written pieces back off the start of a longer text: fixed words, decimal numbers and quoted
literals. Each reader finds what was written, whatever follows it; for a number, nothing that could
belong to it may follow. Joined texts are read back by splitting at the separator.
-/

namespace ParseFailure.Text

/-- What holds of texts and of their separator, and of two texts put together, holds of the texts
when they are joined. -/
theorem joinWith_holds {p : List Char → Prop} (nil : p [])
    (append : ∀ {first second}, p first → p second → p (first ++ second))
    {separator : String} {texts : List String} (between : p separator.toList)
    (each : ∀ text ∈ texts, p text.toList) : p (joinWith separator texts).toList := by
  induction texts with
  | nil => exact nil
  | cons text rest ih =>
    have first := each text List.mem_cons_self
    have others := ih fun other member => each other (List.mem_cons_of_mem _ member)
    cases rest with
    | nil => exact first
    | cons next rest =>
      rw [joinWith_cons_cons, String.toList_append, String.toList_append]
      exact append (append first between) others

/-- What is split at the separator that texts were joined with falls into the pieces of each. -/
theorem splitOn_joinWith {separator : String} {c : Char} (single : separator.toList = [c])
    (text : String) (rest : List String) :
    (joinWith separator (text :: rest)).toList.splitOn c =
      (text :: rest).flatMap fun text => text.toList.splitOn c := by
  induction rest generalizing text with
  | nil => simp
  | cons next rest ih =>
    have joined : (joinWith separator (text :: next :: rest)).toList =
        text.toList ++ c :: (joinWith separator (next :: rest)).toList := by
      rw [joinWith_cons_cons, String.toList_append, String.toList_append, single,
        List.append_assoc, List.singleton_append]
    rw [joined, List.splitOn_append_cons_self, ih]
    simp only [List.flatMap_cons]

theorem dropPrefix?_append (start rest : List Char) :
    (start ++ rest).dropPrefix? start = some rest :=
  List.dropPrefix?_append_of_beq rest (beq_self_eq_true start)

def readNat (text : List Char) : Option (Nat × List Char) :=
  match text.takeWhile Char.isDigit with
  | [] => none
  | digits => some (Nat.ofDigitChars 10 digits 0, text.dropWhile Char.isDigit)

def readInt (text : List Char) : Option (Int × List Char) :=
  if text.head? = some '-' then (readNat text.tail).map fun read => (-(read.1 : Int), read.2)
  else (readNat text).map fun read => ((read.1 : Int), read.2)

/-- A text that does not go on with a digit. -/
def StopsDigits (rest : List Char) : Prop := ∀ c, rest.head? = some c → c.isDigit = false

variable {rest : List Char}

theorem repr_ne_nil (n : Nat) : n.repr.toList ≠ [] := by
  rw [Nat.repr_eq_ofList_toDigits, String.toList_ofList]
  exact Nat.toDigits_ne_nil

theorem isDigit_repr (n : Nat) : ∀ c ∈ n.repr.toList, c.isDigit = true := by
  intro c member
  rw [Nat.repr_eq_ofList_toDigits, String.toList_ofList] at member
  exact Nat.isDigit_of_mem_toDigits (by decide) (by decide) member

theorem readNat_repr (n : Nat) (stops : StopsDigits rest) :
    readNat (n.repr.toList ++ rest) = some (n, rest) := by
  have inside := isDigit_repr n
  have took : (n.repr.toList ++ rest).takeWhile Char.isDigit = n.repr.toList := by
    rw [List.takeWhile_append_of_pos inside]
    cases rest with
    | nil => simp
    | cons c rest => simp [stops c rfl]
  have left : (n.repr.toList ++ rest).dropWhile Char.isDigit = rest := by
    rw [List.dropWhile_append_of_pos inside]
    cases rest with
    | nil => rfl
    | cons c rest => simp [stops c rfl]
  have value : Nat.ofDigitChars 10 n.repr.toList 0 = n := by
    rw [Nat.repr_eq_ofList_toDigits, String.toList_ofList, Nat.ofDigitChars_ten_toDigits]
  unfold readNat
  rw [took, left]
  split
  · next empty => exact absurd empty (repr_ne_nil n)
  · rw [value]

/-- Digits do not begin with a sign. -/
theorem head?_repr (n : Nat) (rest : List Char) : (n.repr.toList ++ rest).head? ≠ some '-' := by
  cases digits : n.repr.toList with
  | nil => exact absurd digits (repr_ne_nil n)
  | cons c more =>
    have digit : c.isDigit = true := isDigit_repr n c (digits ▸ List.mem_cons_self)
    intro sign
    cases Option.some.inj sign
    contradiction

theorem readInt_repr (n : Int) (stops : StopsDigits rest) :
    readInt (n.repr.toList ++ rest) = some (n, rest) := by
  rw [Int.repr_eq_if]
  split
  · next positive =>
    rw [readInt, if_neg (head?_repr _ _), readNat_repr _ stops, Option.map_some]
    simp only [Int.toNat_of_nonneg positive]
  · next negative =>
    have size : ((-n).toNat : Int) = -n := Int.toNat_of_nonneg (by omega)
    have signed : ("-" ++ (-n).toNat.repr).toList ++ rest =
        '-' :: ((-n).toNat.repr.toList ++ rest) := by
      rw [String.toList_append]
      rfl
    rw [signed, readInt, List.head?_cons, if_pos rfl, List.tail_cons, readNat_repr _ stops,
      Option.map_some]
    simp only [size, Int.neg_neg]

/-- The value of a hexadecimal digit in either case. -/
def Hex.value? (c : Char) : Option Nat :=
  if '0' ≤ c ∧ c ≤ '9' then some (c.toNat - 48)
  else if 'A' ≤ c ∧ c ≤ 'F' then some (c.toNat - 55)
  else if 'a' ≤ c ∧ c ≤ 'f' then some (c.toNat - 87)
  else none

/-- The number that four digits write. -/
def Hex.ofQuad? (a b c d : Char) : Option Nat := do
  let a ← value? a
  let b ← value? b
  let c ← value? c
  let d ← value? d
  some (((a * 16 + b) * 16 + c) * 16 + d)

theorem Hex.value?_upperDigit : ∀ d < 16, value? (upperDigit d) = some d := by decide

theorem Hex.quad_eq (digit : Nat → Char) (n : Nat) :
    quad digit n =
      [digit (n / 4096 % 16), digit (n / 256 % 16), digit (n / 16 % 16), digit (n % 16)] := by
  simp only [quad, pair, List.cons_append, List.nil_append, Nat.div_div_eq_div_mul]

theorem Hex.ofQuad?_digits {digit : Nat → Char} (known : ∀ d < 16, value? (digit d) = some d)
    {n : Nat} (small : n < 0x10000) :
    ofQuad? (digit (n / 4096 % 16)) (digit (n / 256 % 16)) (digit (n / 16 % 16)) (digit (n % 16)) =
      some n := by
  have below : ∀ m, m % 16 < 16 := fun m => Nat.mod_lt m (by decide)
  simp only [ofQuad?, known _ (below _), Option.bind_eq_bind, Option.bind_some, Option.some.injEq]
  omega

def longForm? : Char → Option Char
  | 'b' => some '\x08'
  | 't' => some '\x09'
  | 'n' => some '\x0a'
  | 'f' => some '\x0c'
  | 'r' => some '\x0d'
  | '\x22' => some '\x22'
  | '\\' => some '\\'
  | _ => none

/-- Reads a literal from behind its opening quote up to the first quote without a backslash. -/
def unquoteBody : List Char → Option (List Char × List Char)
  | [] => none
  | '\x22' :: rest => some ([], rest)
  | '\\' :: 'u' :: a :: b :: c :: d :: rest => do
    let n ← Hex.ofQuad? a b c d
    let (text, rest) ← unquoteBody rest
    some (Char.ofNat n :: text, rest)
  | '\\' :: letter :: rest => do
    let c ← longForm? letter
    let (text, rest) ← unquoteBody rest
    some (c :: text, rest)
  | c :: rest => do
    let (text, rest) ← unquoteBody rest
    some (c :: text, rest)

def unquote : List Char → Option (String × List Char)
  | '\x22' :: rest => (unquoteBody rest).map fun (text, rest) => (String.ofList text, rest)
  | _ => none

theorem longForm?_shortForm {c letter : Char} (short : shortForm? c = some letter) :
    longForm? letter = some c ∧ letter ≠ 'u' := by
  unfold shortForm? at short
  split at short
  all_goals cases short
  all_goals exact ⟨rfl, by decide⟩

theorem shortForm?_none {c : Char} (long : shortForm? c = none) : c ≠ '\x22' ∧ c ≠ '\\' := by
  constructor
  · rintro rfl
    contradiction
  · rintro rfl
    contradiction

theorem unquoteBody_letter {letter c : Char} (known : longForm? letter = some c)
    (other : letter ≠ 'u') (rest : List Char) :
    unquoteBody ('\\' :: letter :: rest) =
      (unquoteBody rest).map fun read => (c :: read.1, read.2) := by
  rw [unquoteBody.eq_4 letter rest fun _ _ _ _ _ same => absurd same other, known]
  cases unquoteBody rest <;> rfl

theorem unquoteBody_plain {c : Char} (open_ : c ≠ '\x22') (plain : c ≠ '\\') (rest : List Char) :
    unquoteBody (c :: rest) = (unquoteBody rest).map fun read => (c :: read.1, read.2) := by
  rw [unquoteBody.eq_5 c rest open_ (fun _ _ _ _ _ same => absurd same plain)
    fun _ _ same => absurd same plain]
  cases unquoteBody rest <;> rfl

theorem unquoteBody_quad {c : Char} (small : c.toNat < 0x10000) (rest : List Char) :
    unquoteBody ('\\' :: 'u' :: (Hex.quad Hex.upperDigit c.toNat ++ rest)) =
      (unquoteBody rest).map fun read => (c :: read.1, read.2) := by
  rw [Hex.quad_eq]
  simp only [List.cons_append, List.nil_append]
  rw [unquoteBody, Hex.ofQuad?_digits Hex.value?_upperDigit small, Option.bind_eq_bind,
    Option.bind_some, Char.ofNat_toNat]
  cases unquoteBody rest <;> rfl

theorem unquoteBody_quoteChar (c : Char) (rest : List Char) :
    unquoteBody (quoteChar c ++ rest) =
      (unquoteBody rest).map fun read => (c :: read.1, read.2) := by
  unfold quoteChar
  split
  · next letter short =>
    obtain ⟨known, other⟩ := longForm?_shortForm short
    exact unquoteBody_letter known other rest
  · next long =>
    obtain ⟨open_, plain⟩ := shortForm?_none long
    split
    · next low => exact unquoteBody_quad (by omega) rest
    · exact unquoteBody_plain open_ plain rest

theorem unquoteBody_quoted (text rest : List Char) :
    unquoteBody (text.flatMap quoteChar ++ '\x22' :: rest) = some (text, rest) := by
  induction text with
  | nil => rfl
  | cons c text ih =>
    rw [List.flatMap_cons, List.append_assoc, unquoteBody_quoteChar, ih]
    rfl

/-- A literal is read back from any text that begins with it. -/
theorem unquote_quote (text : String) (rest : List Char) :
    unquote ((quote text).toList ++ rest) = some (text, rest) := by
  rw [quote, String.toList_ofList, List.cons_append, List.append_assoc]
  simp only [List.singleton_append, unquote, unquoteBody_quoted, Option.map_some,
    String.ofList_toList]

/-- Literals form a prefix code. -/
theorem quote_append_inj {first second : String} {rest others : List Char}
    (same : (quote first).toList ++ rest = (quote second).toList ++ others) :
    first = second ∧ rest = others := by
  have read := congrArg unquote same
  rw [unquote_quote, unquote_quote] at read
  exact Prod.mk.inj (Option.some.inj read)

/-- No literal reads like the word for no text. -/
theorem quote_ne_null (text : String) : quote text ≠ quoteOrNull none := by
  intro same
  have first := congrArg (fun written => written.toList.head?) same
  simp [quote, quoteOrNull] at first

end ParseFailure.Text
