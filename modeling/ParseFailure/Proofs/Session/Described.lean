import ParseFailure.Proofs.Description.Undescribable
import ParseFailure.Proofs.Session.Kept

/-!
When the texts of an error can be read, whatever it was made of, and what its description is then.
-/

namespace ParseFailure

/-- Where there is no bound on digits, every list of kinds can be displayed. -/
theorem legible_of_unbounded {limits : Limits} (unbounded : limits.digits = none)
    (names : NameTable) (sequences : List (List Kind)) : Legible limits names sequences := by
  intro kinds _ kind _
  refine .inr ?_
  cases kind with
  | number code => exact Limits.writes_of_unbounded unbounded code
  | absent => trivial
  | text t => trivial
  | numbers codes => exact fun code _ => Limits.writes_of_unbounded unbounded code

namespace Session

variable {session : Session} {error : Diagnostic} {id : Nat}

theorem get_text {field : Field}
    (text : field ∈ [Field.message, .text, .description, .editorMessage]) :
    if session.Readable error then ∃ t, (session.get id error field).1 = .ok (.text t)
    else (session.get id error field).1 = .error session.host.limits.digitFault := by
  simp only [List.mem_cons, List.not_mem_nil, or_false] at text
  split
  · next readable =>
    rcases text with rfl | rfl | rfl | rfl
    all_goals
      simp only [get, read_fst, texts_eq, if_pos readable]
      exact ⟨_, rfl⟩
  · next unreadable =>
    rcases text with rfl | rfl | rfl | rfl
    all_goals
      simp only [get, read_fst, texts_eq, if_neg unreadable]
      rfl

theorem get_description {field : Field} (about : field ∈ [Field.description, .editorMessage]) :
    (session.get id error field).1 =
      if session.Readable error then .ok (.text (session.textsInFull error).description)
      else .error session.host.limits.digitFault := by
  simp only [List.mem_cons, List.not_mem_nil, or_false] at about
  rcases about with rfl | rfl
  all_goals
    simp only [get, read_fst, texts_eq]
    split <;> rfl

theorem textsInFull_first (empty : error.cell.rendered = none) :
    (session.textsInFull error).description = session.describe error := by
  rw [textsInFull, empty]
  rfl

theorem describe_grammar {sequences : List (List Kind)} {e : Nat} {evidence : Evidence}
    (origin : error.origin = .grammar sequences e) (stored : session.evidence[e]? = some evidence) :
    session.describe error = evidence.describe session.host.limits sequences := by
  simp only [describe, origin, stored]

/-- The texts of every error can be read, but for a first message that shows a number with too many
digits. A description that was given is read as it was given. Otherwise there is none exactly where
the grammar has left nothing or what it has left cannot be described; of an error that keeps texts
this is told by the evidence as it was when they were made, so by the present evidence if that was
never changed. Where there is no bound on digits, no number is in the way. -/
theorem texts_read (limits : Limits) (colors : Bool) (steps : List Step)
    (found : ((start limits colors).after steps).diagnostics[id]? = some error) :
    (∀ field ∈ [Field.message, .text, .description, .editorMessage],
      if ((start limits colors).after steps).Readable error then
        ∃ t, (((start limits colors).after steps).get id error field).1 = .ok (.text t)
      else (((start limits colors).after steps).get id error field).1 =
        .error limits.digitFault) ∧
    (((start limits colors).after steps).Readable error →
      ∀ field ∈ [Field.description, .editorMessage],
        ∃ description,
          (((start limits colors).after steps).get id error field).1 = .ok (.text description) ∧
          match error.origin with
          | .described (some text) _ => description = text
          | .described none _ => description = Description.unavailable
          | .grammar sequences e =>
            ∃ failure, ((start limits colors).after steps).evidence[e]? = some (.failed failure) ∧
              ((error.cell.rendered = none ∨ ∀ step ∈ steps, step.editsEvidence = false) →
                (description = Description.unavailable ↔
                  Undescribable failure.chain sequences ∨
                    Unwritable limits failure.chain failure.names sequences))) ∧
    (limits.digits = none →
      ((start limits colors).after steps).Readable error ∧
        ∀ chain names sequences, ¬ Unwritable limits chain names sequences) := by
  have same : ((start limits colors).after steps).host.limits = limits :=
    after_limits (start limits colors) steps
  have held := List.mem_of_getElem? found
  have sound : ((start limits colors).after steps).Sound False
      (∀ step ∈ steps, step.editsEvidence = false) :=
    after_sound (start_sound _ _ limits colors) steps (fun intact => intact) False.elim
  refine ⟨fun field text => ?_, fun readable field about => ?_, fun unbounded => ⟨?_, ?_⟩⟩
  · have read := @get_text ((start limits colors).after steps) error id field text
    rwa [same] at read
  · refine ⟨_, (get_description about).trans (if_pos readable), ?_⟩
    cases origin : error.origin with
    | described text cause =>
      have free : error.origin.failure? = none := by simp [Origin.failure?, origin]
      rw [sound.textsInFull_description held (.inr free)]
      cases text <;> simp [describe, origin]
    | grammar sequences e =>
      obtain ⟨failure, stored⟩ := sound.grounded error held e (by simp [Origin.failure?, origin])
      refine ⟨failure, stored, fun current => ?_⟩
      have anew : (((start limits colors).after steps).textsInFull error).description =
          ((start limits colors).after steps).describe error := by
        rcases current with empty | intact
        · exact textsInFull_first empty
        · exact sound.textsInFull_description held (.inl intact)
      rw [anew, describe_grammar origin stored, same]
      exact failure.describe_eq_unavailable limits sequences
  · exact readable_of_unbounded (same.symm ▸ unbounded)
  · exact fun chain names sequences unwritable =>
      unwritable.2 (legible_of_unbounded unbounded names sequences)

/-- A branch without a text, on a chain that runs in a circle. -/
def strayElse : Chain :=
  Chain.ofTokens ⟨.number 1, .text "x", Span.unknown⟩
    [⟨.ofCategory .elseBranch, .absent, Span.unknown⟩] (some 0)

theorem texts_read_strayElse :
    ((start (.usual 80 1000) false).after
        [.construct "e" (.failure strayElse .absent .absent)]).diagnostics[0]? =
      some (Diagnostic.ofFailure strayElse [] 0) ∧
    (((start (.usual 80 1000) false).after
      [.construct "e" (.failure strayElse .absent .absent)]).get 0
        (Diagnostic.ofFailure strayElse [] 0) .description).1 =
          .ok (.text Description.unavailable) := by
  have found : ((start (.usual 80 1000) false).after
      [.construct "e" (.failure strayElse .absent .absent)]).diagnostics[0]? =
        some (Diagnostic.ofFailure strayElse [] 0) := rfl
  obtain ⟨-, read, -⟩ := texts_read (.usual 80 1000) false _ found
  obtain ⟨description, answered, evidence, stored, unclear⟩ :=
    read (fun _ => by decide) .description (by simp)
  have branch : Undescribable strayElse [] :=
    ⟨_, rfl, .inr (.inr (.inl ⟨.inr (.inl rfl), nofun⟩))⟩
  cases Option.some.inj stored
  rw [answered, (unclear (.inl rfl)).mpr (.inl branch)]
  exact ⟨found, rfl⟩

end Session

end ParseFailure
