/-! Codes by which errors can be searched for. -/

namespace ParseFailure

inductive ErrorCode where
  | unexpectedToken
  | unexpectedEnd
  | misplacedDirective
  | syntaxError
  deriving DecidableEq, Repr

namespace ErrorCode

def all : List ErrorCode := [.unexpectedToken, .unexpectedEnd, .misplacedDirective, .syntaxError]

def name : ErrorCode → String
  | .unexpectedToken => "UNEXPECTED_TOKEN"
  | .unexpectedEnd => "UNEXPECTED_EOF"
  | .misplacedDirective => "MISPLACED_DIRECTIVE"
  | .syntaxError => "SYNTAX_ERROR"

def value : ErrorCode → String
  | .unexpectedToken => "PD-PAR-001"
  | .unexpectedEnd => "PD-PAR-002"
  | .misplacedDirective => "PD-PAR-003"
  | .syntaxError => "PD-TPL-001"

/-- Who reported the error: the parser, or whoever described it explicitly. -/
def area : ErrorCode → String
  | .unexpectedToken | .unexpectedEnd | .misplacedDirective => "parser"
  | .syntaxError => "template"

def ofName? (name : String) : Option ErrorCode := all.find? fun code => code.name == name

def ofValue? (value : String) : Option ErrorCode := all.find? fun code => code.value == value

end ErrorCode

end ParseFailure
