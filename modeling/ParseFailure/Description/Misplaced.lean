import ParseFailure.Text.Quote
import ParseFailure.Token.Basic

/-! The description of a conditional branch that stands outside a conditional. -/

namespace ParseFailure

def Token.quoted (token : Token) : Except Fault String := do
  let text ← token.image.quotable
  .ok (Text.quote text)

namespace Description

def misplacedQuoted (quoted : String) : String :=
  "Unexpected directive, " ++ quoted ++
    ". Check whether you have a valid #if-#elseif-#else structure."

def misplaced (directive : Token) : Except Fault String := do
  let quoted ← directive.quoted
  .ok (misplacedQuoted quoted)

end Description

end ParseFailure
