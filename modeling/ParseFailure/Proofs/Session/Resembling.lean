import ParseFailure.Proofs.Session.LifeCycle

/-!
Errors that no action can tell apart. What an action answers depends on the process, on the record
of the error, on what its evidence tells, and on how its cause is put into words; not on the
positions at which these are found.
-/

namespace ParseFailure.Session

variable {session left right : Session} {id l r reader : Nat} {error other a b : Diagnostic}

/-- Two errors, each at a position of its session, that agree in all that actions depend on. -/
structure Resembles (left right : Session) (l r : Nat) (a b : Diagnostic) : Prop where
  here : left.diagnostics[l]? = some a
  there : right.diagnostics[r]? = some b
  host : left.host = right.host
  arguments : a.arguments = b.arguments
  chained : a.isChained = b.isChained
  sequences : a.sequences = b.sequences
  span : a.span = b.span
  cell : a.cell = b.cell
  source : a.source = b.source
  evidence : left.evidenceOf? a = right.evidenceOf? b
  described : left.describe a = right.describe b
  caused : (left.causeOf a).1 = (right.causeOf b).1

theorem read_plainText (session : Session) (id : Nat) (error : Diagnostic) (e : Nat) :
    (session.read id error).2.plainText e = session.plainText e := by
  unfold read readDuring
  split <;> rfl

/-- A cause is put into the same words after a read. -/
theorem read_causeOf (present : session.diagnostics[reader]? = some other) (error : Diagnostic) :
    ((session.read reader other).2.causeOf error).1 = (session.causeOf error).1 := by
  cases caused : error.cause? with
  | none => simp only [causeOf, caused]
  | some held =>
    cases held with
    | plain e => simp only [causeOf, caused, textOf, read_plainText]
    | diagnostic cause =>
      cases found : session.diagnostics[cause]? with
      | some stored =>
        obtain ⟨later, foundLater, same⟩ := read_read found present
        rw [causeOf_found found caused, causeOf_found foundLater caused, same]
      | none =>
        have absent : (session.read reader other).2.diagnostics[cause]? = none := by
          cases kept : other.cell.rendered with
          | some texts => rwa [read_of_kept kept]
          | none => simpa [read_of_empty kept, setHost, setDiagnostic] using found
        simp only [causeOf, caused, textOf, found, absent]

theorem changeEvidence_fst (error : Diagnostic) (missing : Fault)
    (change : Evidence → Except Fault Evidence) :
    (session.changeEvidence error missing change).1 =
      match session.evidenceOf? error with
      | none => .error missing
      | some evidence => (change evidence).map fun _ => .nothing := by
  unfold changeEvidence evidenceOf?
  cases error.evidence? with
  | none => rfl
  | some e =>
    dsimp only [Option.bind_some]
    cases session.evidence[e]? with
    | none => rfl
    | some evidence =>
      dsimp only
      cases change evidence <;> rfl

namespace Resembles

theorem render (same : Resembles left right l r a b) : left.render a = right.render b := by
  simp only [Session.render, Diagnostic.render, same.host, same.span, same.cell, same.described]

theorem texts (same : Resembles left right l r a b) : left.texts a = right.texts b := by
  simp only [Session.texts, same.cell, same.render]

theorem readDuring (same : Resembles left right l r a b) (first second : Cell → Cell) :
    (left.readDuring l a first).1 = (right.readDuring r b second).1 := by
  rw [readDuring_fst, readDuring_fst, same.texts]

theorem code (same : Resembles left right l r a b) : left.code a = right.code b := by
  simp only [Session.code, same.evidence]

theorem currentLexeme (same : Resembles left right l r a b) :
    left.currentLexeme a = right.currentLexeme b := by
  simp only [Session.currentLexeme, currentToken?, same.evidence]

theorem place (same : Resembles left right l r a b) (limits : Limits) :
    a.place limits = b.place limits := by
  simp only [Diagnostic.place, same.cell, same.span]

theorem excerpt (same : Resembles left right l r a b) (limits : Limits) (colors : Bool) :
    a.excerpt limits colors = b.excerpt limits colors := by
  simp only [Diagnostic.excerpt, same.source, same.span]

theorem report (same : Resembles left right l r a b) :
    (left.report l a).1 = (right.report r b).1 := by
  rw [report_fst, report_fst, read_causeOf same.here, read_causeOf same.there]
  simp only [same.code, same.host, same.texts, same.place, same.excerpt, same.caused]

theorem get (same : Resembles left right l r a b) (field : Field) :
    (left.get l a field).1 = (right.get r b field).1 := by
  cases field with
  | message | text | description | editorMessage =>
    simp only [Session.get, read, same.readDuring _ fun cell => cell]
  | cause => simp only [Session.get, same.caused]
  | name | source | line | column | endLine | endColumn | arguments | written | sequences =>
    simp only [Session.get, Diagnostic.written, same.cell, same.source, same.span, same.arguments,
      same.sequences]
  | code => simp only [Session.get, same.code]
  | currentToken => simp only [Session.get, same.currentLexeme]
  | chained => simp only [Session.get, same.chained]

theorem changeEvidence (same : Resembles left right l r a b) (missing : Fault)
    (change : Evidence → Except Fault Evidence) :
    (left.changeEvidence a missing change).1 = (right.changeEvidence b missing change).1 := by
  rw [changeEvidence_fst, changeEvidence_fst, same.evidence]

/-- Whatever is done with them, the answers are the same. -/
theorem actOn (same : Resembles left right l r a b) (action : Action) :
    (left.actOn l a action).1 = (right.actOn r b action).1 := by
  cases action with
  | get field => exact same.get field
  | overview =>
    simp only [Session.actOn, overview, same.code, same.currentLexeme, same.cell, same.source,
      same.span, same.arguments, same.sequences, same.chained]
  | report => simp only [Session.actOn, same.report]
  | messageDuringRename name =>
    simp only [Session.actOn]
    rw [same.readDuring]
  | rename | setSource | extendReported => rfl
  | editToken | link | setName | alterCause => exact same.changeEvidence _ _

end Resembles

end ParseFailure.Session
