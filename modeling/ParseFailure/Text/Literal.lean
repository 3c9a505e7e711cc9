import ParseFailure.Text.Join
import ParseFailure.Text.Visible

/-!
Literals with the rarer quote: single quotes, or double quotes where the text holds a single quote
and no double one. Argument lists are written with them.
-/

namespace ParseFailure.Text

/-- The quote that encloses a text: single, unless that alone would need an escape. -/
def enclosing (text : List Char) : Char :=
  if '\x27' ∈ text ∧ '\x22' ∉ text then '\x22' else '\x27'

/-- A character by its code point, in as many digits as the code point needs. -/
def codeEscape (c : Char) : List Char :=
  if c.toNat < 0x100 then '\\' :: 'x' :: Hex.pair Hex.lowerDigit c.toNat
  else if c.toNat < 0x10000 then '\\' :: 'u' :: Hex.quad Hex.lowerDigit c.toNat
  else
    '\\' :: 'U' ::
      (Hex.quad Hex.lowerDigit (c.toNat / 0x10000) ++ Hex.quad Hex.lowerDigit c.toNat)

/-- What stands for one character inside the given quotes. -/
def literalChar (enclosed : Char) (c : Char) : List Char :=
  if c = enclosed ∨ c = '\\' then ['\\', c]
  else if c = '\x0a' then ['\\', 'n']
  else if c = '\x0d' then ['\\', 'r']
  else if c = '\x09' then ['\\', 't']
  else if isVisible c then [c]
  else codeEscape c

def literal (text : String) : String :=
  let mark := enclosing text.toList
  String.ofList (mark :: (text.toList.flatMap (literalChar mark) ++ [mark]))

/-- A name applied to literals, `Name('a', 'b')`; with the empty name, a group of literals. -/
def application (name : String) (arguments : List String) : String :=
  name ++ "(" ++ joinWith ", " (arguments.map literal) ++ ")"

end ParseFailure.Text
