import ParseFailure.Session.Construct
import ParseFailure.Session.Inspect

/-!
Sessions step by step. A step that fails leaves everything as it was, but for texts that were made
before the fault was met. An answer also tells whether the error that the step was about now has its
texts kept.
-/

namespace ParseFailure.Session

/-- Changes the evidence of an error; without any, there is the given fault. -/
def changeEvidence (session : Session) (error : Diagnostic) (missing : Fault)
    (change : Evidence → Except Fault Evidence) : Except Fault Reply × Session :=
  match error.evidence? with
  | none => (.error missing, session)
  | some id =>
    match session.evidence[id]? with
    | none => (.error missing, session)
    | some evidence =>
      match change evidence with
      | .error fault => (.error fault, session)
      | .ok changed => (.ok .nothing, session.setEvidence id changed)

def actOn (session : Session) (id : Nat) (error : Diagnostic) :
    Action → Except Fault Reply × Session
  | .get field => session.get id error field
  | .overview => ((session.overview error).map Reply.overview, session)
  | .report =>
    let result := session.report id error
    (result.1.map Reply.text, result.2)
  | .messageDuringRename name =>
    let result := session.readDuring id error fun cell => cell.rename name
    (result.1.map fun rendered => .text rendered.message, result.2)
  | .rename name =>
    (.ok .nothing, session.setDiagnostic id { error with cell := error.cell.rename name })
  | .setSource source =>
    (.ok .nothing, session.setDiagnostic id { error with source := source })
  | .editToken index edit =>
    session.changeEvidence error .noToken fun evidence =>
      evidence.changeFailure .noToken fun failure => failure.changeToken index edit.apply
  | .link index target =>
    session.changeEvidence error .noToken fun evidence =>
      evidence.changeFailure .noToken fun failure => failure.link index target
  | .setName key value =>
    session.changeEvidence error (.tableFixed .absent) fun evidence =>
      evidence.changeFailure (.tableFixed .absent) fun failure => failure.setName key value
  | .alterCause plain =>
    session.changeEvidence error .noPlainCause fun evidence => evidence.alter plain
  | .extendReported _ => (.ok .nothing, session)

/-- What is done with an error without location; its fields are all that it has. -/
def actOnPlain (session : Session) (id : Nat) : Action → Except Fault Reply
  | .get field =>
    match session.plain? id with
    | none => .error .noSlot
    | some error => plainField error field
  | _ => .error .notLocated

def act (session : Session) (of : String) (action : Action) : Except Fault Reply × Session :=
  match session.slot? of with
  | none => (.error .noSlot, session)
  | some (.plain id) => (session.actOnPlain id action, session)
  | some (.diagnostic id) =>
    match session.diagnostics[id]? with
    | none => (.error .noSlot, session)
    | some error => session.actOn id error action

def perform (session : Session) : Step → Except Fault Reply × Session
  | .setFlag value =>
    match checkVariable value with
    | .error fault => (.error fault, session)
    | .ok flag => (.ok .nothing, session.setHost (session.host.setFlag flag))
  | .load name => (.ok .nothing, session.setHost (session.host.load name))
  | .unload name => (.ok .nothing, session.setHost (session.host.unload name))
  | .askTooling => (.ok (.truth session.host.tooling), session.setHost session.host.settle)
  | .forgetTooling => (.ok .nothing, session.setHost session.host.forget)
  | .setColors colors => (.ok .nothing, session.setHost (session.host.setColors colors))
  | .construct slot construction =>
    let result := session.holdNew slot (session.construct construction)
    (result.1.map fun _ => .nothing, result.2)
  | .clone depth of slot =>
    let result := session.holdNew slot (session.cloneSlot depth of)
    (result.1.map fun _ => .nothing, result.2)
  | .act of action => session.act of action

/-- Whether the texts of a located error under a name are kept. -/
def kept? (session : Session) (slot : String) : Option Bool :=
  match session.slot? slot with
  | some (.diagnostic id) =>
    session.diagnostics[id]?.map fun error => error.cell.rendered.isSome
  | _ => none

def step (session : Session) (step : Step) : Answer × Session :=
  let result := session.perform step
  (⟨result.1, step.slot?.bind result.2.kept?⟩, result.2)

/-- Carries out steps in order; a fault does not end the session. -/
def run (session : Session) : List Step → List Answer
  | [] => []
  | first :: rest =>
    let answered := session.step first
    answered.1 :: answered.2.run rest

def after (session : Session) : List Step → Session
  | [] => session
  | first :: rest => (session.step first).2.after rest

end ParseFailure.Session
