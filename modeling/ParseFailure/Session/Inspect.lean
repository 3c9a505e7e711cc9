import ParseFailure.Session.Answer
import ParseFailure.Session.Read
import ParseFailure.Session.Request

/-!
Fields of errors. Only the texts, and a cause that has to be put into words, change a session.
-/

namespace ParseFailure.Session

/-- What a field of a plain error holds. -/
def plainField (error : PlainError) : Field → Except Fault Reply
  | .text => error.text.map Reply.text
  | .arguments => .ok (.texts error.arguments)
  | .written => .ok (.text error.written)
  | .code => .ok .nothing
  | _ => .error .notLocated

def get (session : Session) (id : Nat) (error : Diagnostic) :
    Field → Except Fault Reply × Session
  | .message | .text =>
    let result := session.read id error
    (result.1.map fun rendered => .text rendered.message, result.2)
  | .description | .editorMessage =>
    let result := session.read id error
    (result.1.map fun rendered => .text rendered.description, result.2)
  | .cause =>
    let result := session.causeOf error
    (result.1.map Reply.ofCause?, result.2)
  | .name => (.ok (Reply.ofText? error.cell.name), session)
  | .source => (.ok (Reply.ofText? error.source), session)
  | .line => (.ok (.number error.span.beginLine), session)
  | .column => (.ok (.number error.span.beginColumn), session)
  | .endLine => (.ok (.number error.span.endLine), session)
  | .endColumn => (.ok (.number error.span.endColumn), session)
  | .code => ((session.code error).map Reply.code, session)
  | .arguments => (.ok (.texts error.arguments), session)
  | .written => (.ok (.text error.written), session)
  | .sequences => (.ok (.sequences error.sequences), session)
  | .currentToken => ((session.currentLexeme error).map Reply.ofLexeme?, session)
  | .chained => (.ok (.truth error.isChained), session)

/-- What can be said about an error without making its texts. -/
def overview (session : Session) (error : Diagnostic) : Except Fault Overview := do
  let code ← session.code error
  let current ← session.currentLexeme error
  .ok
    { name := error.cell.name
      source := error.source
      span := error.span
      code := code
      arguments := error.arguments
      sequences := error.sequences
      current := current
      chained := error.isChained }

end ParseFailure.Session
