import ParseFailure.Proofs.Fault
import ParseFailure.Token.Kind

/-! Kinds told apart: the category of a code, conditional branches, and lists, which are no keys. -/

namespace ParseFailure

theorem Category.ofCode?_eq_some {code : Int} {category : Category} :
    ofCode? code = some category ↔ code = category.code := by
  constructor
  · intro found
    rw [ofCode?] at found
    have same : (category.code : Int) = code := by simpa using List.find?_some found
    exact same.symm
  · rintro rfl
    cases category <;> rfl

theorem Category.isBranch_iff {category : Category} :
    category.isBranch = true ↔
      category = .elseIf ∨ category = .elseBranch ∨ category = .closeIf := by
  cases category <;> decide

namespace Kind

/-- A kind that is a list of numbers. -/
def isList : Kind → Bool
  | .numbers _ => true
  | _ => false

/-- The kinds that continue or end a conditional. -/
def IsConditional (kind : Kind) : Prop :=
  kind = .ofCategory .elseIf ∨ kind = .ofCategory .elseBranch ∨ kind = .ofCategory .closeIf

theorem category?_fails {kind : Kind} : Fails kind.category? ↔ kind.isList := by
  cases kind <;> simp [category?, isList]

theorem closes_fails {kind : Kind} : Fails kind.closes ↔ kind.isList := by
  rw [← category?_fails, closes, fails_bind]
  constructor
  · rintro (failed | ⟨found, -, failed⟩)
    · exact failed
    · cases found <;> exact absurd failed (not_fails_ok _)
  · exact .inl

theorem isBranch_fails {kind : Kind} : Fails kind.isBranch ↔ kind.isList := by
  rw [← category?_fails, isBranch, fails_bind]
  constructor
  · rintro (failed | ⟨found, -, failed⟩)
    · exact failed
    · cases found <;> exact absurd failed (not_fails_ok _)
  · exact .inl

theorem isBranch_iff {kind : Kind} : kind.isBranch = .ok true ↔ kind.IsConditional := by
  constructor
  · intro branch
    cases kind with
    | number code =>
      simp only [isBranch, category?, bind, Except.bind] at branch
      split at branch
      · next category found =>
        have one := Category.isBranch_iff.mp (Except.ok.inj branch)
        rw [Category.ofCode?_eq_some.mp found]
        rcases one with rfl | rfl | rfl
        · exact .inl rfl
        · exact .inr (.inl rfl)
        · exact .inr (.inr rfl)
      · simp at branch
    | absent | text | numbers => simp [isBranch, category?, bind, Except.bind] at branch
  · rintro (rfl | rfl | rfl) <;> rfl

theorem isEnd_iff {kind : Kind} : kind.isEnd = true ↔ kind = .endOfInput := by simp [isEnd]

/-- A kind that can be looked up belongs to a conditional or does not. -/
theorem isBranch_of_not {kind : Kind} (key : kind.isList = false) (other : ¬ kind.IsConditional) :
    kind.isBranch = .ok false := by
  have keyed : ¬ Fails kind.isBranch := by simp [isBranch_fails, key]
  obtain ⟨branch, known⟩ := not_fails_iff.mp keyed
  cases branch with
  | false => exact known
  | true => exact absurd (isBranch_iff.mp known) other

theorem isConditional_isEnd {kind : Kind} (conditional : kind.IsConditional) :
    kind.isEnd = false := by
  rcases conditional with rfl | rfl | rfl <;> rfl

end Kind

end ParseFailure
