import ParseFailure.Proofs.Session.Saving

/-!
The whole life of the texts of an error: what fills its cell, what empties it, what a clone of it
starts with, and what is read from it in between.
-/

namespace ParseFailure.Session

variable {session : Session} {id : Nat} {error : Diagnostic}

/-- The whole life of the texts of an error, from any state of a session. One step gives an error
without texts the ones for its present name, if these can be made, exactly if it reads the error, or
puts it into words as a cause, or renames it during a read to the name that it has; it takes texts
away exactly if it gives the error a name; and it never changes them. Making, cloning and looking at
the structure of errors leave every error as it is. A shallow clone can be made of every error that
a session has come to, a deep one of those that can be saved; it starts with what its original
keeps, and where there is none nothing has happened. A new error starts with nothing. So until the
error is given a name, all that is read from it are the same texts. -/
theorem texts_life (session : Session) (found : session.diagnostics[id]? = some error) :
    (∀ step, ∃ later, (session.step step).2.diagnostics[id]? = some later ∧
      (error.cell.rendered = none →
        (session.Fills id step → later.cell.rendered = (session.render error).toOption) ∧
          (¬ session.Fills id step → later.cell.rendered = none)) ∧
      (∀ texts, error.cell.rendered = some texts →
        (session.assigned? id step ≠ none → later.cell.rendered = none) ∧
          (session.assigned? id step = none → later.cell.rendered = some texts))) ∧
    (∀ step : Step, step.isStructural = true →
      (session.step step).2.diagnostics[id]? = some error) ∧
    (∀ depth of slot, session.slot? of = some (.diagnostic id) →
      (session.Reachable → ((session.step (.clone depth of slot)).1.result = .ok .nothing ↔
        (depth = .deep → session.Savable id))) ∧
      (((session.step (.clone depth of slot)).1.result = .ok .nothing ∧
        ∃ new clone, session.diagnostics[new]? = none ∧
          (session.step (.clone depth of slot)).2.slot? slot = some (.diagnostic new) ∧
          (session.step (.clone depth of slot)).2.diagnostics[new]? = some clone ∧
          clone.cell = error.cell) ∨
      ((∃ fault, (session.step (.clone depth of slot)).1.result = .error fault) ∧
        (session.step (.clone depth of slot)).2 = session))) ∧
    (∀ depth of slot (new : Nat) (clone : Diagnostic), session.diagnostics[new]? = none →
      (session.step (.clone depth of slot)).2.diagnostics[new]? = some clone →
        ∃ original ∈ session.diagnostics, clone.cell = original.cell) ∧
    (∀ slot construction (new : Nat) (made : Diagnostic), session.diagnostics[new]? = none →
      (session.step (.construct slot construction)).2.diagnostics[new]? = some made →
        made.cell.rendered = none) ∧
    ∀ steps texts, error.cell.rendered = some texts → session.Unnamed id steps →
      ∃ later, (session.after steps).diagnostics[id]? = some later ∧
        later.cell.rendered = some texts ∧ (session.after steps).ReadsAs id (.ok texts) := by
  refine ⟨fun step => ?_, fun step => structural_found found,
    fun depth of slot held => ⟨fun reachable =>
      reachable.grounded.clone_step_ok_iff found held depth slot,
      clone_step_found found held depth slot⟩,
    fun depth of slot new clone fresh => (clone_step_adds session depth of slot).new fresh,
    fun slot construction new made fresh =>
      (construct_step_adds session slot construction).new fresh,
    fun steps texts kept unnamed => ?_⟩
  · obtain ⟨later, present, law⟩ := step_texts found step
    refine ⟨later, present, fun empty => ?_, fun texts kept => ?_⟩
    · rw [empty, texts_of_empty empty] at law
      rcases law with ⟨named, none⟩ | ⟨-, fills, made⟩ | ⟨-, leaves, none⟩
      · exact ⟨fun fills => absurd fills (not_fills_of_assigned named), fun _ => none⟩
      · exact ⟨fun _ => made, absurd fills⟩
      · exact ⟨fun fills => absurd fills leaves, fun _ => none⟩
    · rw [kept, texts_of_kept kept, Except.toOption] at law
      rcases law with ⟨named, none⟩ | ⟨unnamed, -, same⟩ | ⟨unnamed, -, same⟩
      · exact ⟨fun _ => none, fun unnamed => absurd unnamed named⟩
      · exact ⟨fun named => absurd unnamed named, fun _ => same⟩
      · exact ⟨fun named => absurd unnamed named, fun _ => same⟩
  · obtain ⟨later, present, same⟩ := after_kept found kept unnamed
    exact ⟨later, present, same, readsAs_of_kept present same⟩

def unread : Session :=
  (start (.usual 80 1000) false).after
    [.construct "e" (.described (some "Bad") none ⟨3, 7, 0, 0⟩ none none),
      .construct "f" (.described none none Span.unknown (some (.slot "e")) none)]

/-- The report of an error reads its cause, which then keeps its texts while the mode is forgotten
and both are cloned. -/
theorem texts_life_reportedCause :
    ∃ error later, unread.diagnostics[0]? = some error ∧ unread.Fills 0 (.act "f" .report) ∧
      (unread.step (.act "f" .report)).2.diagnostics[0]? = some later ∧
      later.cell.rendered = some (unread.textsInFull error) ∧
      ((unread.step (.act "f" .report)).2.after
        [.forgetTooling, .setFlag (some "on"), .clone .shallow "f" "g"]).ReadsAs 0
          (.ok (unread.textsInFull error)) := by
  have found : unread.diagnostics[0]? =
      some (.make (some "Bad") none ⟨3, 7, 0, 0⟩ none none) := rfl
  have fills : unread.Fills 0 (.act "f" .report) :=
    ⟨1, _, rfl, rfl, .syntaxError, rfl, .inr ⟨⟨_, rfl⟩, rfl⟩⟩
  obtain ⟨later, present, filled, -⟩ := (texts_life unread found).1 (.act "f" .report)
  have kept := (filled rfl).1 fills
  obtain ⟨-, -, -, -, -, between⟩ := texts_life (unread.step (.act "f" .report)).2 present
  obtain ⟨-, -, -, reads⟩ := between
    [.forgetTooling, .setFlag (some "on"), .clone .shallow "f" "g"] _ kept ⟨rfl, rfl, rfl, trivial⟩
  exact ⟨_, later, found, fills, present, kept, reads⟩

end ParseFailure.Session
