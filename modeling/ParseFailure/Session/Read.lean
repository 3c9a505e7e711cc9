import ParseFailure.Session.Basic

/-!
Reading an error. Its texts are made on the first read and kept beside the name they were made for;
a later read finds them there. Reading settles the mode of the process only when it makes texts.
-/

namespace ParseFailure.Session

/-- Reads the texts of the error at a position. When they have to be made, `meanwhile` happens to
the cell between the look at the name and the keeping of the texts. -/
def readDuring (session : Session) (id : Nat) (error : Diagnostic) (meanwhile : Cell → Cell) :
    Except Fault Rendered × Session :=
  match error.cell.rendered with
  | some rendered => (.ok rendered, session)
  | none =>
    let rendered := session.render error
    let cell := (meanwhile error.cell).keep error.cell.name rendered
    (rendered, (session.setDiagnostic id { error with cell := cell }).setHost session.host.settle)

/-- Reads the texts of the error at a position. -/
def read (session : Session) (id : Nat) (error : Diagnostic) : Except Fault Rendered × Session :=
  session.readDuring id error fun cell => cell

/-- The type name and the text of the error without location at a position. -/
def plainText (session : Session) (id : Nat) : Except Fault (String × String) :=
  match session.plain? id with
  | some error => error.text.map fun text => (error.typeName, text)
  | none => .ok ("", "")

/-- The type name and the text of an error that something refers to. The text of a located error is
its message, so it is read. -/
def textOf (session : Session) : Held → Except Fault (String × String) × Session
  | .plain id => (session.plainText id, session)
  | .diagnostic id =>
    match session.diagnostics[id]? with
    | some error =>
      let result := session.read id error
      (result.1.map fun rendered => (Diagnostic.typeName, rendered.message), result.2)
    | none => (.ok (Diagnostic.typeName, ""), session)

/-- The type name and the text of the cause of an error. -/
def causeOf (session : Session) (error : Diagnostic) :
    Except Fault (Option (String × String)) × Session :=
  match error.cause? with
  | none => (.ok none, session)
  | some held =>
    let result := session.textOf held
    (result.1.map some, result.2)

/-- The report of an error. The code comes first, so an error without one is not read at all; the
cause comes last, so it is not read when the rest cannot be reported. -/
def report (session : Session) (id : Nat) (error : Diagnostic) : Except Fault String × Session :=
  match session.code error with
  | .error fault => (.error fault, session)
  | .ok code =>
    let result := session.read id error
    match result.1 >>= error.reported session.host.limits session.host.colors code with
    | .error fault => (.error fault, result.2)
    | .ok report =>
      let cause := result.2.causeOf error
      (cause.1.map fun shown => { report with cause := shown }.text session.host.colors, cause.2)

end ParseFailure.Session
