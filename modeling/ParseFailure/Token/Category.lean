/-!
The categories of tokens that the template lexer knows: their published names and codes, the names
under which they are displayed, the constructs that they close, and the three that only make sense
inside an open conditional.
-/

namespace ParseFailure

inductive Category where
  | endOfFile
  | openIf
  | elseIf
  | elseBranch
  | openList
  | openForeach
  | openSwitch
  | openCase
  | openAssign
  | openLocal
  | openGlobal
  | openMacro
  | openFunction
  | openCompress
  | openTransform
  | openEscape
  | openNoEscape
  | openAttempt
  | recover
  | closeIf
  | closeList
  | closeForeach
  | closeSwitch
  | closeAssign
  | closeLocal
  | closeGlobal
  | closeMacro
  | closeFunction
  | closeCompress
  | closeTransform
  | closeEscape
  | closeNoEscape
  | closeAttempt
  | call
  | closeCall
  | staticText
  | openInterpolation
  | closeTag
  | closeEmptyTag
  | stringLiteral
  | integer
  | decimal
  | trueLiteral
  | falseLiteral
  | identifier
  | dot
  | comma
  | colon
  | equals
  | plus
  | minus
  | exclamation
  | builtIn
  | openParen
  | closeParen
  | openBracket
  | closeBracket
  | openBrace
  | closeBrace
  deriving DecidableEq, Repr

namespace Category

/-- What is published about a category. -/
structure Entry where
  name : String
  code : Nat
  image : String
  deriving DecidableEq, Repr

/-- The published facts about each category. -/
def entry : Category → Entry
  | .endOfFile => ⟨"EOF", 0, "<EOF>"⟩
  | .openIf => ⟨"IF", 1, "<IF>"⟩
  | .elseIf => ⟨"ELSE_IF", 2, "<ELSE_IF>"⟩
  | .elseBranch => ⟨"ELSE", 3, "<ELSE>"⟩
  | .openList => ⟨"LIST", 4, "<LIST>"⟩
  | .openForeach => ⟨"FOREACH", 5, "<FOREACH>"⟩
  | .openSwitch => ⟨"SWITCH", 6, "<SWITCH>"⟩
  | .openCase => ⟨"CASE", 7, "<CASE>"⟩
  | .openAssign => ⟨"ASSIGN", 8, "<ASSIGN>"⟩
  | .openLocal => ⟨"LOCAL", 9, "<LOCAL>"⟩
  | .openGlobal => ⟨"GLOBAL", 10, "<GLOBAL>"⟩
  | .openMacro => ⟨"MACRO", 11, "<MACRO>"⟩
  | .openFunction => ⟨"FUNCTION", 12, "<FUNCTION>"⟩
  | .openCompress => ⟨"COMPRESS", 13, "<COMPRESS>"⟩
  | .openTransform => ⟨"TRANSFORM", 14, "<TRANSFORM>"⟩
  | .openEscape => ⟨"ESCAPE", 15, "<ESCAPE>"⟩
  | .openNoEscape => ⟨"NOESCAPE", 16, "<NOESCAPE>"⟩
  | .openAttempt => ⟨"ATTEMPT", 17, "<ATTEMPT>"⟩
  | .recover => ⟨"RECOVER", 18, "<RECOVER>"⟩
  | .closeIf => ⟨"END_IF", 30, "<END_IF>"⟩
  | .closeList => ⟨"END_LIST", 31, "<END_LIST>"⟩
  | .closeForeach => ⟨"END_FOREACH", 32, "<END_FOREACH>"⟩
  | .closeSwitch => ⟨"END_SWITCH", 33, "<END_SWITCH>"⟩
  | .closeAssign => ⟨"END_ASSIGN", 34, "<END_ASSIGN>"⟩
  | .closeLocal => ⟨"END_LOCAL", 35, "<END_LOCAL>"⟩
  | .closeGlobal => ⟨"END_GLOBAL", 36, "<END_GLOBAL>"⟩
  | .closeMacro => ⟨"END_MACRO", 37, "<END_MACRO>"⟩
  | .closeFunction => ⟨"END_FUNCTION", 38, "<END_FUNCTION>"⟩
  | .closeCompress => ⟨"END_COMPRESS", 39, "<END_COMPRESS>"⟩
  | .closeTransform => ⟨"END_TRANSFORM", 40, "<END_TRANSFORM>"⟩
  | .closeEscape => ⟨"END_ESCAPE", 41, "<END_ESCAPE>"⟩
  | .closeNoEscape => ⟨"END_NOESCAPE", 42, "<END_NOESCAPE>"⟩
  | .closeAttempt => ⟨"END_ATTEMPT", 43, "<END_ATTEMPT>"⟩
  | .call => ⟨"UNIFIED_CALL", 50, "<UNIFIED_CALL>"⟩
  | .closeCall => ⟨"UNIFIED_CALL_END", 51, "<UNIFIED_CALL_END>"⟩
  | .staticText => ⟨"STATIC_TEXT", 60, "<STATIC_TEXT>"⟩
  | .openInterpolation => ⟨"DOLLAR_INTERPOLATION_OPENING", 61, "\"$\x7b\""⟩
  | .closeTag => ⟨"CLOSE_TAG", 62, "\">\""⟩
  | .closeEmptyTag => ⟨"EMPTY_DIRECTIVE_END", 63, "\"/>\""⟩
  | .stringLiteral => ⟨"STRING_LITERAL", 70, "<STRING_LITERAL>"⟩
  | .integer => ⟨"INTEGER", 71, "<INTEGER>"⟩
  | .decimal => ⟨"DECIMAL", 72, "<DECIMAL>"⟩
  | .trueLiteral => ⟨"TRUE", 73, "\"true\""⟩
  | .falseLiteral => ⟨"FALSE", 74, "\"false\""⟩
  | .identifier => ⟨"ID", 75, "<ID>"⟩
  | .dot => ⟨"DOT", 76, "\".\""⟩
  | .comma => ⟨"COMMA", 77, "\",\""⟩
  | .colon => ⟨"COLON", 78, "\":\""⟩
  | .equals => ⟨"EQUALS", 79, "\"=\""⟩
  | .plus => ⟨"PLUS", 80, "\"+\""⟩
  | .minus => ⟨"MINUS", 81, "\"-\""⟩
  | .exclamation => ⟨"EXCLAM", 82, "\"!\""⟩
  | .builtIn => ⟨"BUILT_IN", 83, "\"?\""⟩
  | .openParen => ⟨"OPEN_PAREN", 84, "\"(\""⟩
  | .closeParen => ⟨"CLOSE_PAREN", 85, "\")\""⟩
  | .openBracket => ⟨"OPEN_BRACKET", 86, "\"[\""⟩
  | .closeBracket => ⟨"CLOSE_BRACKET", 87, "\"]\""⟩
  | .openBrace => ⟨"OPEN_BRACE", 88, "\"\x7b\""⟩
  | .closeBrace => ⟨"CLOSE_BRACE", 89, "\"\x7d\""⟩

def name (category : Category) : String := category.entry.name

/-- The number by which the grammar refers to a category. -/
def code (category : Category) : Nat := category.entry.code

def image (category : Category) : String := category.entry.image

/-- All categories, by increasing code. -/
def all : List Category := [
  .endOfFile, .openIf, .elseIf, .elseBranch, .openList, .openForeach, .openSwitch, .openCase,
  .openAssign, .openLocal, .openGlobal, .openMacro, .openFunction, .openCompress, .openTransform,
  .openEscape, .openNoEscape, .openAttempt, .recover, .closeIf, .closeList, .closeForeach,
  .closeSwitch, .closeAssign, .closeLocal, .closeGlobal, .closeMacro, .closeFunction,
  .closeCompress, .closeTransform, .closeEscape, .closeNoEscape, .closeAttempt, .call,
  .closeCall, .staticText, .openInterpolation, .closeTag, .closeEmptyTag, .stringLiteral,
  .integer, .decimal, .trueLiteral, .falseLiteral, .identifier, .dot, .comma, .colon, .equals,
  .plus, .minus, .exclamation, .builtIn, .openParen, .closeParen, .openBracket, .closeBracket,
  .openBrace, .closeBrace]

def ofName? (name : String) : Option Category := all.find? fun category => category.name == name

def ofCode? (code : Int) : Option Category :=
  all.find? fun category => (category.code : Int) == code

/-- The names of the constructs that a category closes. The closer of a macro also ends a function
definition. -/
def closes : Category → List String
  | .closeForeach => ["#foreach"]
  | .closeList => ["#list"]
  | .closeSwitch => ["#switch"]
  | .closeIf => ["#if"]
  | .closeCompress => ["#compress"]
  | .closeMacro => ["#macro", "#function"]
  | .closeFunction => ["#function"]
  | .closeTransform => ["#transform"]
  | .closeEscape => ["#escape"]
  | .closeNoEscape => ["#noescape"]
  | .closeAssign => ["#assign"]
  | .closeLocal => ["#local"]
  | .closeGlobal => ["#global"]
  | .closeAttempt => ["#attempt"]
  | .closeBrace => ["\"\x7b\""]
  | .closeBracket => ["\"[\""]
  | .closeParen => ["\"(\""]
  | .closeCall => ["@..."]
  | _ => []

/-- The categories that continue or end a conditional. -/
def isBranch : Category → Bool
  | .closeIf | .elseIf | .elseBranch => true
  | _ => false

end Category

end ParseFailure
