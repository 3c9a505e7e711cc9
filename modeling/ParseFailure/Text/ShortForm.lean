/-! Two-character escapes: a backslash and one letter. -/

namespace ParseFailure.Text

/-- The letter that stands after the backslash when a character has a two-character escape: the
five usual control characters, the double quote and the backslash itself. -/
def shortForm? : Char → Option Char
  | '\x08' => some 'b'
  | '\x09' => some 't'
  | '\x0a' => some 'n'
  | '\x0c' => some 'f'
  | '\x0d' => some 'r'
  | '\x22' => some '\x22'
  | '\\' => some '\\'
  | _ => none

end ParseFailure.Text
