import ParseFailure.Session.Clone
import ParseFailure.Session.Request

/-! Making errors, anew or as clones, and holding them under names. -/

namespace ParseFailure.Session

/-- Finds a cause, which is added to the evidence if it is a new error. -/
def resolveCause (session : Session) : Option CauseRef → Except Fault (Option Held × Session)
  | none => .ok (none, session)
  | some (.plain error) =>
    let added := session.addEvidence (.plain error)
    .ok (some (.plain added.1), added.2)
  | some (.slot name) =>
    match session.slot? name with
    | none => .error .noSlot
    | some held => .ok (some held, session)

/-- Makes an error. The sequences of a failure are read at once, and a failure that cannot be read
makes none. -/
def construct (session : Session) : Construction → Except Fault (Held × Session)
  | .plain error =>
    let added := session.addEvidence (.plain error)
    .ok (.plain added.1, added.2)
  | .described text name span cause source => do
    let resolved ← session.resolveCause cause
    let added := resolved.2.addDiagnostic (Diagnostic.make text name span resolved.1 source)
    .ok (.diagnostic added.1, added.2)
  | .failure chain expected names => do
    let sequences ← expected.sequences
    let evidence := session.addEvidence (.failed ⟨chain, names⟩)
    let added := evidence.2.addDiagnostic (Diagnostic.ofFailure chain sequences evidence.1)
    .ok (.diagnostic added.1, added.2)

/-- Clones the error at a position. -/
def cloneDiagnostic (session : Session) (depth : Depth) (id : Nat) (error : Diagnostic) :
    Except Fault (Nat × Session) :=
  match depth with
  | .shallow => session.cloneShallow error
  | .deep => session.cloneDeep id

/-- Clones an error without location. -/
def clonePlain (session : Session) (depth : Depth) (error : PlainError) :
    Except Fault (Nat × Session) :=
  match depth with
  | .shallow => .ok (session.addEvidence (.plain error))
  | .deep => do
    (Evidence.plain error).save session.host.limits 0
    .ok (session.addEvidence (.plain error))

def cloneSlot (session : Session) (depth : Depth) (of : String) : Except Fault (Held × Session) :=
  match session.slot? of with
  | none => .error .noSlot
  | some (.plain id) =>
    match session.plain? id with
    | none => .error .noSlot
    | some error => do
      let cloned ← session.clonePlain depth error
      .ok (.plain cloned.1, cloned.2)
  | some (.diagnostic id) =>
    match session.diagnostics[id]? with
    | none => .error .noSlot
    | some error => do
      let cloned ← session.cloneDiagnostic depth id error
      .ok (.diagnostic cloned.1, cloned.2)

/-- Holds a new error under a name, if there is one. -/
def holdNew (session : Session) (slot : String) :
    Except Fault (Held × Session) → Except Fault Unit × Session
  | .error fault => (.error fault, session)
  | .ok (held, after) => (.ok (), after.hold slot held)

end ParseFailure.Session
