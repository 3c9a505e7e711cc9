import ParseFailure.Text.Hex
import ParseFailure.Text.ShortForm

/-!
Token text made safe for the inside of an ASCII string literal. NUL is dropped, both quotes, the
backslash and five control characters take their two-character form, and everything else outside
printable ASCII is written by its UTF-16 units.
-/

namespace ParseFailure.Text

/-- One UTF-16 unit by its four lower-case digits. -/
def unitEscape (unit : Nat) : List Char := '\\' :: 'u' :: Hex.quad Hex.lowerDigit unit

/-- A character by its UTF-16 units: one unit up to U+FFFF, a surrogate pair above. -/
def unitsEscape (c : Char) : List Char :=
  if c.toNat < 0x10000 then unitEscape c.toNat
  else
    unitEscape (0xD800 + (c.toNat - 0x10000) / 0x400) ++
      unitEscape (0xDC00 + (c.toNat - 0x10000) % 0x400)

/-- Space to tilde. -/
def isPrintable (c : Char) : Bool := 0x20 ≤ c.toNat && c.toNat ≤ 0x7e

def escapeChar (c : Char) : List Char :=
  if c = '\x00' then []
  else if c = '\x27' then ['\\', '\x27']
  else
    match shortForm? c with
    | some letter => ['\\', letter]
    | none => if isPrintable c then [c] else unitsEscape c

def escape (text : String) : String := String.ofList (text.toList.flatMap escapeChar)

end ParseFailure.Text
