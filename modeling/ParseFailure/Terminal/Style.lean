/-!
Terminal styles. A styled text is wrapped in the start codes of its styles and one reset; with
colours off, or with no known style, it is left as it is.
-/

namespace ParseFailure.Terminal

inductive Style where
  | reset
  | bold
  | dim
  | yellow
  | cyan
  | brightRed
  deriving DecidableEq, Repr

namespace Style

def selector : Style → String
  | .reset => "0"
  | .bold => "1"
  | .dim => "2"
  | .yellow => "33"
  | .cyan => "36"
  | .brightRed => "91"

def code (style : Style) : String := "\x1b[" ++ style.selector ++ "m"

def ofName? : String → Option Style
  | "reset" => some .reset
  | "bold" => some .bold
  | "dim" => some .dim
  | "yellow" => some .yellow
  | "cyan" => some .cyan
  | "bright_red" => some .brightRed
  | _ => none

end Style

def opening : List Style → String
  | [] => ""
  | style :: styles => style.code ++ opening styles

/-- A text in the given styles, when colours are on. -/
def paint (colors : Bool) (styles : List Style) (text : String) : String :=
  if colors && !styles.isEmpty then opening styles ++ text ++ Style.reset.code else text

/-- A text in the styles of the given names; a name that no style has counts for nothing. -/
def paintNamed (colors : Bool) (names : List String) (text : String) : String :=
  paint colors (names.filterMap Style.ofName?) text

/-- Whether a setting is present and not empty. -/
def isGiven : Option String → Bool
  | none => false
  | some value => !value.isEmpty

/-- Colours are forced, else forbidden, else left to whether a terminal listens. -/
def detectColors (force forbid : Option String) (isTerminal : Bool) : Bool :=
  isGiven force || (!isGiven forbid && isTerminal)

inductive Part where
  | errorCode
  | place
  | lineNumber
  | errorLine
  | dimText
  deriving DecidableEq, Repr

def Part.styles : Part → List Style
  | .errorCode => [.brightRed, .bold]
  | .place => [.cyan]
  | .lineNumber => [.yellow]
  | .errorLine => [.brightRed]
  | .dimText => [.dim]

def paintPart (colors : Bool) (part : Part) (text : String) : String :=
  paint colors part.styles text

/-- A message after its code; a missing or empty code leaves the message alone. -/
def header (colors : Bool) (code : Option String) (message : String) : String :=
  match code with
  | none => message
  | some code =>
    if code.isEmpty then message else paintPart colors .errorCode code ++ ": " ++ message

/-- A text moved right to a width of three. -/
def alignRight (text : String) : String :=
  String.ofList (List.replicate (3 - text.length) ' ') ++ text

/-- The mark and the number in front of a source line. The number is that of a line of a text, and
no text has so many lines that a process would refuse to write it. -/
def gutter (lineno : Int) (isError : Bool) : String :=
  (if isError then ">" else " ") ++ alignRight lineno.repr

/-- A numbered source line; the line of the error is marked and set off. -/
def sourceLine (colors : Bool) (lineno : Int) (content : String) (isError : Bool) : String :=
  paintPart colors .lineNumber (gutter lineno isError) ++ " | " ++
    paintPart colors (if isError then .errorLine else .dimText) content

end ParseFailure.Terminal
