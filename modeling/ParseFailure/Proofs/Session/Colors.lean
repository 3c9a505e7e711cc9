import ParseFailure.Proofs.Session.Texts
import ParseFailure.Proofs.Terminal.Decoration
import ParseFailure.Session.Step

/-!
Reports in colours. Colours change nothing that a report says, and they do not decide whether there
is a report: stripped of its codes, it is the report without colours stripped of what escape
sequences the shown texts hold themselves.
-/

namespace ParseFailure

open Terminal

namespace Diagnostic

/-- The lines of the template that stand in a report of an error. -/
def shownLines (error : Diagnostic) : List String :=
  match error.source with
  | none => []
  | some source =>
    match Excerpt.ofSource source error.span.beginLine 2 (some error.span.beginColumn) with
    | none => []
    | some excerpt => excerpt.lines.map Prod.snd

/-- An excerpt is drawn, or left out, or not possible, in colours as without them. -/
theorem strip_excerpt (error : Diagnostic) (limits : Limits) (colors : Bool) :
    (error.excerpt limits colors).map (Option.map strip) =
      (error.excerpt limits false).map (Option.map strip) := by
  unfold excerpt
  cases error.source with
  | none => rfl
  | some source =>
    dsimp only
    split
    · rfl
    · cases Excerpt.ofSource source error.span.beginLine 2 (some error.span.beginColumn) with
      | none => rfl
      | some excerpt =>
        have wrapped : ∀ colors, (do
            let text ← excerpt.format limits colors
            .ok (some text) : Except Fault (Option String)).map (Option.map strip) =
              ((excerpt.format limits colors).map strip).map some := by
          intro colors
          cases excerpt.format limits colors <;> rfl
        exact (wrapped colors).trans ((congrArg _ (excerpt.strip_format limits colors)).trans
          (wrapped false).symm)

theorem plain_excerpt {error : Diagnostic} {limits : Limits} {drawn : Option String}
    (plain : ∀ line ∈ error.shownLines, Plain line)
    (made : error.excerpt limits false = .ok drawn) :
    ∀ text ∈ drawn, Plain text := by
  unfold excerpt at made
  unfold shownLines at plain
  cases known : error.source with
  | none =>
    simp only [known, Except.ok.injEq] at made
    simp [← made]
  | some source =>
    simp only [known] at made plain
    split at made
    · cases made
      simp
    · cases around : Excerpt.ofSource source error.span.beginLine 2 (some error.span.beginColumn) with
      | none =>
        simp only [around, Except.ok.injEq] at made
        simp [← made]
      | some excerpt =>
        simp only [around] at made plain
        obtain ⟨text, formatted, same⟩ := bind_ok made
        cases same
        have lines : ∀ line ∈ excerpt.lines, Plain line.2 := by
          intro line member
          exact plain line.2 (List.mem_map_of_mem member)
        intro other member
        cases Option.some.inj member
        exact Excerpt.plain_format lines formatted

end Diagnostic

theorem ErrorCode.plain_value (code : ErrorCode) : Plain code.value := by
  cases code <;> decide

namespace Session

variable {session : Session} {id : Nat} {error : Diagnostic}

def setColors (session : Session) (colors : Bool) : Session :=
  session.setHost (session.host.setColors colors)

theorem read_setColors (colors : Bool) :
    (session.setColors colors).read id error =
      ((session.read id error).1, (session.read id error).2.setColors colors) := by
  unfold read readDuring
  cases error.cell.rendered <;> rfl

theorem causeOf_setColors (colors : Bool) :
    (session.setColors colors).causeOf error =
      ((session.causeOf error).1, (session.causeOf error).2.setColors colors) := by
  unfold causeOf
  cases error.cause? with
  | none => rfl
  | some held =>
    cases held with
    | plain plain => rfl
    | diagnostic cause =>
      have same : (session.setColors colors).diagnostics = session.diagnostics := rfl
      simp only [textOf, same]
      cases session.diagnostics[cause]? with
      | none => rfl
      | some other => simp only [read_setColors]

theorem report_setColors (colors : Bool) :
    ((session.setColors colors).report id error).1 = (do
      let code ← session.code error
      let rendered ← session.texts error
      let place ← error.place session.host.limits
      let excerpt ← error.excerpt session.host.limits colors
      let cause ← ((session.read id error).2.causeOf error).1
      .ok (Report.text colors ⟨code.value, rendered.description, place, excerpt, cause⟩)) := by
  rw [report_fst]
  simp only [read_setColors, causeOf_setColors]
  rfl

/-- The texts of others that a report shows: the description, the name of the template, type and
text of the cause, and lines of the template. What cannot be made is not shown. -/
def shown (session : Session) (id : Nat) (error : Diagnostic) : List String :=
  ((session.texts error).toOption.map Rendered.description).toList ++ error.cell.name.toList ++
    (match ((session.read id error).2.causeOf error).1 with
      | .ok (some cause) => [cause.1, cause.2]
      | _ => []) ++
    error.shownLines

/-- Work that goes on alike, once stripped, from whatever its first part has found. -/
theorem strip_bind {α : Type} {first : Except Fault α} {one other : α → Except Fault String}
    (same : ∀ found, (one found).map strip = (other found).map strip) :
    (first >>= one).map strip = (first >>= other).map strip := by
  cases first with
  | error fault => rfl
  | ok found => exact same found

/-- Work whose first parts agree once stripped. -/
theorem strip_bind_excerpt {first second : Except Fault (Option String)}
    {one other : Option String → Except Fault String}
    (same : first.map (Option.map strip) = second.map (Option.map strip))
    (later : ∀ drawn bare, drawn.map strip = bare.map strip →
      (one drawn).map strip = (other bare).map strip) :
    (first >>= one).map strip = (second >>= other).map strip := by
  cases first with
  | error fault =>
    cases second with
    | error other => exact congrArg Except.error (Except.error.inj same)
    | ok bare => exact absurd same nofun
  | ok drawn =>
    cases second with
    | error other => exact absurd same nofun
    | ok bare => exact later drawn bare (Except.ok.inj same)

theorem report_strip :
    ((session.setColors true).report id error).1.map strip =
      ((session.setColors false).report id error).1.map strip := by
  rw [report_setColors, report_setColors]
  refine strip_bind fun code => strip_bind fun rendered => strip_bind fun place => ?_
  refine strip_bind_excerpt (error.strip_excerpt session.host.limits true) fun drawn bare same => ?_
  refine strip_bind fun cause => ?_
  have agree := Report.strip_text ⟨code.value, rendered.description, place, bare, cause⟩
    code.plain_value same true
  exact congrArg Except.ok agree

theorem report_plain (plain : ∀ text ∈ session.shown id error, Plain text) :
    ((session.setColors false).report id error).1.map strip =
      ((session.setColors false).report id error).1 := by
  rw [report_setColors]
  simp only [shown, List.forall_mem_append] at plain
  obtain ⟨⟨⟨description, name⟩, cause⟩, lines⟩ := plain
  cases session.code error with
  | error fault => rfl
  | ok code =>
    cases read : session.texts error with
    | error fault => rfl
    | ok rendered =>
      cases located : error.place session.host.limits with
      | error fault => rfl
      | ok place =>
        cases drawn : error.excerpt session.host.limits false with
        | error fault => rfl
        | ok excerpt =>
          cases caused : ((session.read id error).2.causeOf error).1 with
          | error fault => rfl
          | ok held =>
            have quoted : ∀ text ∈
                (Report.mk code.value rendered.description place excerpt held).quoted,
                Plain text := by
              refine List.forall_mem_cons.mpr ⟨?_, List.forall_mem_cons.mpr ⟨?_, ?_⟩⟩
              · exact description _ (by simp [read, Except.toOption])
              · rw [Diagnostic.place, Report.placeOf_eq] at located
                split at located
                · cases located
                  exact Report.plain_placeInFull (fun text member => name text (by simpa using member))
                    error.span.beginLine error.span.beginColumn
                · contradiction
              · cases held with
                | none => exact List.forall_mem_nil _
                | some told => simpa [caused] using cause
            have whole : Plain (Report.text false
                ⟨code.value, rendered.description, place, excerpt, held⟩) :=
              Report.plain_text code.plain_value quoted (Diagnostic.plain_excerpt lines drawn)
            exact congrArg Except.ok (strip_plain whole)

/-- Whatever the texts hold that are shown, a report in colours and one without them are the same
once stripped, and if one of them meets a fault the other meets the same fault; and if no shown text
has an escape character, stripping a report in colours gives the report without them. The same holds
of an excerpt with any lines. -/
theorem colors_decorate :
    (∀ (session : Session) (id : Nat) (error : Diagnostic),
      ((session.step (.setColors true)).2.report id error).1.map strip =
          ((session.step (.setColors false)).2.report id error).1.map strip ∧
        ((∀ text ∈ session.shown id error, Plain text) →
          ((session.step (.setColors true)).2.report id error).1.map strip =
            ((session.step (.setColors false)).2.report id error).1)) ∧
      ∀ (limits : Limits) (excerpt : Excerpt),
        (excerpt.format limits true).map strip = (excerpt.format limits false).map strip ∧
          ((∀ line ∈ excerpt.lines, Plain line.2) →
            (excerpt.format limits true).map strip = excerpt.format limits false) := by
  refine ⟨fun session id error => ⟨report_strip, fun plain => ?_⟩, fun limits excerpt => ?_⟩
  · exact report_strip.trans (report_plain plain)
  · refine ⟨excerpt.strip_format limits true, fun plain => ?_⟩
    rw [excerpt.strip_format limits true]
    cases drawn : excerpt.format limits false with
    | error fault => rfl
    | ok text => exact congrArg Except.ok (strip_plain (Excerpt.plain_format plain drawn))

/-- An error in a known template, with an error as its cause. -/
def inTemplate : Session :=
  (start (.usual 80 1000) false).after
    [.construct "e" (.described (some "Bad") none Span.unknown none none),
      .construct "f" (.described none (some "page") ⟨2, 1, 0, 0⟩ (some (.slot "e")) (some "a\nb"))]

theorem colors_decorate_inTemplate :
    ∃ error, inTemplate.diagnostics[1]? = some error ∧
      (∀ text ∈ inTemplate.shown 1 error, Plain text) ∧
      ((inTemplate.step (.setColors true)).2.report 1 error).1.map strip =
        ((inTemplate.step (.setColors false)).2.report 1 error).1 := by
  have plain : ∀ text ∈ inTemplate.shown 1
      (.make none (some "page") ⟨2, 1, 0, 0⟩ (some (.diagnostic 0)) (some "a\nb")),
      Plain text := by
    decide
  exact ⟨_, rfl, plain, (colors_decorate.1 inTemplate 1 _).2 plain⟩

end Session

end ParseFailure
