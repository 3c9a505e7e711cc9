import ParseFailure.Saving
import ParseFailure.Session.Basic

/-!
Clones of errors. A shallow clone refers to the evidence or the cause of its original. For a deep
clone the original is saved, with all that it refers to, and loaded again; saving goes down level by
level, and meets a fault where it would go too deep or finds something that cannot be saved.
-/

namespace ParseFailure

namespace Session

/-- Saves the error at a position, at a level, together with its evidence or its cause. A cause
stands at an earlier position than the error it belongs to. -/
def save (session : Session) (level id : Nat) : Except Fault Unit :=
  match session.diagnostics[id]? with
  | none => .ok ()
  | some error => do
    let below ← session.host.limits.descend level session.host.limits.errorLevels
    match error.cause? with
    | some (.diagnostic cause) => if cause < id then session.save below cause else .ok ()
    | _ =>
      match session.evidenceOf? error with
      | some evidence => evidence.save session.host.limits below
      | none => .ok ()
termination_by id

/-- Adds an error from what is saved of another one, with another origin; its position comes first.
-/
def addRebuilt (session : Session) (error : Diagnostic) (origin : Origin) :
    Except Fault (Nat × Session) := do
  let clone ← Diagnostic.rebuild error.arguments { error.toState with origin := origin }
  .ok (session.addDiagnostic clone)

/-- Loads what was saved of the error at a position. What it refers to is loaded first. -/
def load (session : Session) (id : Nat) : Except Fault (Nat × Session) :=
  match session.diagnostics[id]? with
  | none => .ok (id, session)
  | some error =>
    match error.cause? with
    | some (.diagnostic cause) =>
      if cause < id then do
        let loaded ← session.load cause
        loaded.2.addRebuilt error (error.origin.withCause loaded.1)
      else session.addRebuilt error error.origin
    | _ =>
      match session.evidenceOf? error with
      | some evidence =>
        let loaded := session.addEvidence evidence
        loaded.2.addRebuilt error (error.origin.withEvidence loaded.1)
      | none => session.addRebuilt error error.origin
termination_by id

def cloneShallow (session : Session) (error : Diagnostic) : Except Fault (Nat × Session) :=
  session.addRebuilt error error.origin

def cloneDeep (session : Session) (id : Nat) : Except Fault (Nat × Session) := do
  session.save 0 id
  session.load id

end Session

end ParseFailure
