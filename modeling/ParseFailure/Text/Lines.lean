/-!
Lines of a text. Ten characters end a line, a carriage return with its line feed ends one line, and
a terminator at the very end opens no further line.
-/

namespace ParseFailure.Text

def isLineEnd (c : Char) : Bool :=
  (0x0a ≤ c.toNat && c.toNat ≤ 0x0d) || (0x1c ≤ c.toNat && c.toNat ≤ 0x1e) ||
    c.toNat == 0x85 || c.toNat == 0x2028 || c.toNat == 0x2029

def extendFirst (c : Char) : List (List Char) → List (List Char)
  | [] => [[c]]
  | line :: lines => (c :: line) :: lines

/-- The lines of a text, without their terminators. -/
def splitLines : List Char → List (List Char)
  | [] => []
  | '\x0d' :: '\x0a' :: rest => [] :: splitLines rest
  | c :: rest => if isLineEnd c then [] :: splitLines rest else extendFirst c (splitLines rest)

def lines (text : String) : List String := (splitLines text.toList).map String.ofList

end ParseFailure.Text
