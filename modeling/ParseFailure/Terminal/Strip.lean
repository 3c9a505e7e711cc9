/-!
Removal of terminal escape sequences. A sequence is an escape character with one of `@` to `Z`,
a backslash, `]`, `^` or `_`; or an escape character with `[`, parameters from `0` to `?`,
intermediates from space to `/`, and a final from `@` to `~`.
-/

namespace ParseFailure.Terminal

def escapeMark : Char := '\x1b'

/-- Second characters that complete a sequence of two; the opening bracket is not among them. -/
def isSecond (c : Char) : Bool :=
  (0x40 ≤ c.toNat && c.toNat ≤ 0x5a) || (0x5c ≤ c.toNat && c.toNat ≤ 0x5f)

def isParameter (c : Char) : Bool := 0x30 ≤ c.toNat && c.toNat ≤ 0x3f

def isIntermediate (c : Char) : Bool := 0x20 ≤ c.toNat && c.toNat ≤ 0x2f

def isFinal (c : Char) : Bool := 0x40 ≤ c.toNat && c.toNat ≤ 0x7e

/-- What follows a complete control sequence whose opening bracket has been read. The three classes
share no character, so taking as many of each as there are is the only way to read one. -/
def afterControl? (text : List Char) : Option (List Char) :=
  match (text.dropWhile isParameter).dropWhile isIntermediate with
  | [] => none
  | c :: rest => if isFinal c then some rest else none

/-- What follows a complete sequence whose escape character has been read. -/
def afterEscape? : List Char → Option (List Char)
  | [] => none
  | c :: rest =>
    if c = '[' then afterControl? rest
    else if isSecond c then some rest
    else none

/-- A control sequence takes at least its final character. -/
theorem afterControl?_length {text rest : List Char} (found : afterControl? text = some rest) :
    rest.length < text.length := by
  have inner := (List.dropWhile_sublist (l := text.dropWhile isParameter) isIntermediate).length_le
  have outer := (List.dropWhile_sublist (l := text) isParameter).length_le
  unfold afterControl? at found
  split at found
  · contradiction
  · next c tail same =>
    rw [same] at inner
    simp only [List.length_cons] at inner
    split at found
    · cases Option.some.inj found
      omega
    · contradiction

/-- A sequence takes at least one character after its escape character. -/
theorem afterEscape?_length {text rest : List Char} (found : afterEscape? text = some rest) :
    rest.length < text.length := by
  cases text with
  | nil => contradiction
  | cons c tail =>
    simp only [List.length_cons]
    simp only [afterEscape?] at found
    split at found
    · have shorter := afterControl?_length found
      omega
    · split at found
      · cases Option.some.inj found
        omega
      · contradiction

/-- Drops every complete sequence, from left to right; an escape character that opens none stays. -/
def stripChars : List Char → List Char
  | [] => []
  | c :: rest =>
    if c = escapeMark then
      match _ : afterEscape? rest with
      | some after => stripChars after
      | none => c :: stripChars rest
    else c :: stripChars rest
termination_by text => text.length
decreasing_by
  · have shorter := afterEscape?_length ‹_›
    simp only [List.length_cons]
    omega
  · simp only [List.length_cons]
    omega
  · simp only [List.length_cons]
    omega

def strip (text : String) : String := String.ofList (stripChars text.toList)

end ParseFailure.Terminal
