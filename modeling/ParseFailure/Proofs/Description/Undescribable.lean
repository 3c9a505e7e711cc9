import ParseFailure.Proofs.Description.Faults

/-!
When a failure cannot be described. The first token that was not accepted decides which part of the
description is made, and so which data does any harm. The generic text also shows kinds by their
numbers, so a process that cannot write one of them does not describe the failure either.
-/

namespace ParseFailure

variable {limits : Limits} {chain : Chain} {names : NameTable} {sequences : List (List Kind)}

/-- A failure that cannot be described, told by the first token that was not accepted: it ends the
input where a list was expected; or its kind is a list; or it belongs to a conditional and has no
text to quote; or it is any other token and a run as long as the longest of the sequences meets a
number before it meets the end of the input. -/
def Undescribable (chain : Chain) (sequences : List (List Kind)) : Prop :=
  ∃ token, chain.successor = some token ∧
    ((token.kind = .endOfInput ∧ ∃ kinds ∈ sequences, ∃ kind ∈ kinds, kind.isList) ∨
      token.kind.isList ∨
      (token.kind.IsConditional ∧ ∀ t, token.image ≠ .text t) ∨
      (token.kind ≠ .endOfInput ∧ token.kind.isList = false ∧ ¬ token.kind.IsConditional ∧
        ∃ kinds ∈ sequences, ∃ k < kinds.length, ∃ ahead, chain.following (k + 1) = some ahead ∧
          (∃ n, ahead.image = .number n ∧ n ≠ 0) ∧
          ∀ j ≤ k, ∀ earlier, chain.following (j + 1) = some earlier →
            earlier.kind ≠ .endOfInput))

/-- A failure that takes the generic description: there is no further token, or it is neither the
end of the input, nor a list, nor part of a conditional. -/
def Chain.Unexpected (chain : Chain) : Prop :=
  ∀ token, chain.successor = some token →
    token.kind ≠ .endOfInput ∧ token.kind.isList = false ∧ ¬ token.kind.IsConditional

/-- A failure whose generic description shows a number that the process cannot write. -/
def Unwritable (limits : Limits) (chain : Chain) (names : NameTable)
    (sequences : List (List Kind)) : Prop :=
  chain.Unexpected ∧ ¬ Legible limits names sequences

theorem numberAhead_iff : NumberAhead chain (chain.next? 0) (Description.longest sequences) ↔
    ∃ kinds ∈ sequences, ∃ k < kinds.length, ∃ ahead, chain.following (k + 1) = some ahead ∧
      (∃ n, ahead.image = .number n ∧ n ≠ 0) ∧
      ∀ j ≤ k, ∀ earlier, chain.following (j + 1) = some earlier → earlier.kind ≠ .endOfInput := by
  simp only [NumberAhead, Description.lt_longest, Chain.following_succ, ne_eq, ← Kind.isEnd_iff,
    Bool.not_eq_true]
  constructor
  · rintro ⟨k, ⟨kinds, expected, inside⟩, ahead⟩
    exact ⟨kinds, expected, k, inside, ahead⟩
  · rintro ⟨kinds, expected, k, inside, ahead⟩
    exact ⟨k, ⟨kinds, expected, inside⟩, ahead⟩

/-- Nothing is ahead of a chain without a further token. -/
theorem numberAhead_successor {window : Nat} (ends : chain.successor = none) :
    ¬ NumberAhead chain (chain.next? 0) window := by
  unfold Chain.successor at ends
  cases next : chain.next? 0 with
  | none => simp [NumberAhead, Chain.tokenFrom_none]
  | some i =>
    rw [next] at ends
    exact numberAhead_stops ends

namespace Description

variable {expected : Expected}

theorem describe_ended (ended : chain.situation = .ok .ended) :
    describe limits chain expected names = endOfInput expected := by
  simp only [describe, override?_eq, ended, special, bind, Except.bind]
  cases endOfInput expected <;> rfl

theorem describe_misplaced {directive : Token}
    (branch : chain.situation = .ok (.misplaced directive)) :
    describe limits chain expected names = misplaced directive := by
  simp only [describe, override?_eq, branch, special, bind, Except.bind]
  cases misplaced directive <;> rfl

theorem describe_unexpected (other : chain.situation = .ok .unexpected) :
    describe limits chain expected names = generic limits chain expected names "\n" := by
  simp only [describe, override?_eq, other, special, bind, Except.bind]

theorem describe_unclear (unclear : Fails chain.situation) :
    Fails (describe limits chain expected names) := by
  obtain ⟨fault, unclear⟩ := unclear
  exact ⟨fault, by simp only [describe, override?_eq, unclear, bind, Except.bind]⟩

/-- The first token that was not accepted decides which part of the description may fail. -/
theorem describe_fails : Fails (describe limits chain (.ofSequences sequences) names) ↔
    Undescribable chain sequences ∨ Unwritable limits chain names sequences := by
  unfold Undescribable Unwritable Chain.Unexpected
  cases next : chain.successor with
  | none =>
    have other : chain.situation = .ok .unexpected := by simp only [Chain.situation, next]
    rw [describe_unexpected other, generic_fails]
    simp [numberAhead_successor next]
  | some token =>
    have situation := Chain.situation_of_successor next
    simp only [Option.some.injEq, exists_eq_left', forall_eq']
    by_cases list : token.kind.isList = true
    · have unclear : Fails chain.situation := ⟨_, situation.trans (Token.situation_list list)⟩
      simp [describe_unclear unclear, list]
    · by_cases ends : token.kind = .endOfInput
      · rw [describe_ended (situation.trans (Token.situation_end ends)), endOfInput_fails]
        have other : ¬ token.kind.IsConditional := fun conditional =>
          Bool.false_ne_true ((Kind.isConditional_isEnd conditional).symm.trans
            (Kind.isEnd_iff.mpr ends))
        simp only [ListExpected, list, other, Bool.false_eq_true, false_and]
        simp [ends]
      · by_cases conditional : token.kind.IsConditional
        · rw [describe_misplaced (situation.trans (Token.situation_conditional conditional)),
            misplaced_fails]
          simp [list, ends, conditional]
        · have key : token.kind.isList = false := by simpa using list
          rw [describe_unexpected (situation.trans (Token.situation_other ends key conditional)),
            generic_fails, numberAhead_iff]
          simp only [key, ends, conditional, Bool.false_eq_true, not_false_eq_true, false_and,
            false_or, true_and, ne_eq]

/-- A text that starts otherwise is not the one that stands for no description. -/
theorem ne_unavailable (c : Char) {start : String} (begins : start.toList.head? = some c)
    (other : c ≠ 'N') (rest : String) : start ++ rest ≠ unavailable := by
  intro same
  have first := congrArg (fun text : String => text.toList.head?) same
  simp only [String.toList_append, List.head?_append, begins, Option.some_or] at first
  exact other (Option.some.inj first)

theorem endOfInput_available {text : String} (described : endOfInput expected = .ok text) :
    text ≠ unavailable := by
  obtain ⟨names, -, ending⟩ := bind_ok described
  obtain rfl := Except.ok.inj ending
  cases names with
  | nil => decide
  | cons name rest =>
    simp only [endingWith, String.append_assoc]
    exact ne_unavailable 'U' (by rfl) (by decide) _

theorem misplacedQuoted_available (quoted : String) : misplacedQuoted quoted ≠ unavailable := by
  unfold misplacedQuoted
  rw [String.append_assoc]
  exact ne_unavailable 'U' (by rfl) (by decide) _

theorem misplaced_available {directive : Token} {text : String}
    (described : misplaced directive = .ok text) : text ≠ unavailable := by
  obtain ⟨quoted, -, misplaced⟩ := bind_ok described
  obtain rfl := Except.ok.inj misplaced
  exact misplacedQuoted_available quoted

theorem genericText_available (run terminator : String) (sequences : List (List Kind))
    (lines : String) : genericText run terminator sequences lines ≠ unavailable := by
  unfold genericText
  simp only [String.append_assoc]
  exact ne_unavailable 'E' (by rfl) (by decide) _

theorem generic_available {terminator text : String}
    (described : generic limits chain expected names terminator = .ok text) :
    text ≠ unavailable := by
  obtain ⟨listed, -, described⟩ := bind_ok described
  obtain ⟨sequences, -, described⟩ := bind_ok described
  obtain ⟨run, -, described⟩ := bind_ok described
  obtain ⟨lines, -, generic⟩ := bind_ok described
  obtain rfl := Except.ok.inj generic
  exact genericText_available run terminator sequences lines

/-- No description reads like a missing one. -/
theorem describe_available {text : String}
    (described : describe limits chain expected names = .ok text) : text ≠ unavailable := by
  cases situation : chain.situation with
  | error fault =>
    obtain ⟨other, failed⟩ : Fails (describe limits chain expected names) :=
      describe_unclear (situation ▸ fails_error fault)
    exact absurd (described.symm.trans failed) (by simp)
  | ok found =>
    cases found with
    | ended => exact endOfInput_available ((describe_ended situation).symm.trans described)
    | misplaced directive =>
      exact misplaced_available ((describe_misplaced situation).symm.trans described)
    | unexpected => exact generic_available ((describe_unexpected situation).symm.trans described)

end Description

theorem Failure.describe_eq_unavailable (failure : Failure) (limits : Limits)
    (sequences : List (List Kind)) :
    failure.describe limits sequences = Description.unavailable ↔
      Undescribable failure.chain sequences ∨
        Unwritable limits failure.chain failure.names sequences := by
  rw [← Description.describe_fails, Failure.describe]
  cases described :
      Description.describe limits failure.chain (.ofSequences sequences) failure.names with
  | error fault => simp
  | ok text => simp [Description.describe_available described]

end ParseFailure
