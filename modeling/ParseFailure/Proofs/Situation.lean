import ParseFailure.Evidence
import ParseFailure.Proofs.Kind

/-!
What kind of failure it is, by the first token that was not accepted. The code and the description
of a failure ask for it each in its own way, and they agree on it.
-/

namespace ParseFailure

inductive Situation where
  | ended
  /-- A conditional branch stands outside a conditional. -/
  | misplaced (directive : Token)
  /-- Anything else, a chain without a further token included. -/
  | unexpected
  deriving DecidableEq, Repr

/-- Tells a token apart. -/
def Token.situation (token : Token) : Except Fault Situation :=
  if token.kind.isEnd then .ok .ended
  else do
    if ← token.kind.isBranch then .ok (.misplaced token) else .ok .unexpected

def Chain.situation (chain : Chain) : Except Fault Situation :=
  match chain.successor with
  | none => .ok .unexpected
  | some token => token.situation

def ErrorCode.ofSituation : Situation → ErrorCode
  | .ended => .unexpectedEnd
  | .misplaced _ => .misplacedDirective
  | .unexpected => .unexpectedToken

/-- The code of a failure is that of its situation. -/
theorem Failure.code_eq (failure : Failure) :
    failure.code = failure.chain.situation.map ErrorCode.ofSituation := by
  unfold code Chain.situation
  cases failure.chain.successor with
  | none => rfl
  | some token =>
    dsimp only [Token.situation]
    split
    · rfl
    · cases token.kind.isBranch with
      | error fault => rfl
      | ok branch => cases branch <;> rfl

namespace Description

/-- The description that a situation has of its own. -/
def special (situation : Situation) (expected : Expected) : Except Fault (Option String) := do
  match situation with
  | .ended => .ok (some (← endOfInput expected))
  | .misplaced directive => .ok (some (← misplaced directive))
  | .unexpected => .ok none

/-- A description replaces the generic one where the situation has one of its own. -/
theorem override?_eq (chain : Chain) (expected : Expected) :
    override? chain expected = chain.situation >>= fun situation => special situation expected := by
  unfold override? Chain.situation
  cases chain.successor with
  | none => rfl
  | some token =>
    dsimp only [Token.situation]
    split
    · rfl
    · cases token.kind.isBranch with
      | error fault => rfl
      | ok branch => cases branch <;> rfl

end Description

namespace Token

variable {token : Token}

theorem situation_end (ends : token.kind = .endOfInput) : token.situation = .ok .ended := by
  simp [situation, Kind.isEnd_iff.mpr ends]

theorem situation_list (list : token.kind.isList = true) :
    token.situation = .error .listAsKey := by
  cases kind : token.kind with
  | numbers codes => simp [situation, kind, Kind.isEnd, Kind.endOfInput, Kind.ofCategory,
      Kind.isBranch, Kind.category?, bind, Except.bind]
  | number | absent | text => simp [kind, Kind.isList] at list

theorem situation_conditional (conditional : token.kind.IsConditional) :
    token.situation = .ok (.misplaced token) := by
  rw [situation, Kind.isConditional_isEnd conditional, if_neg Bool.false_ne_true,
    Kind.isBranch_iff.mpr conditional]
  rfl

theorem situation_other (ongoing : token.kind ≠ .endOfInput) (key : token.kind.isList = false)
    (other : ¬ token.kind.IsConditional) : token.situation = .ok .unexpected := by
  rw [situation, if_neg (mt Kind.isEnd_iff.mp ongoing), Kind.isBranch_of_not key other]
  rfl

/-- Only a list leaves it open what kind of failure it is. -/
theorem situation_error {fault : Fault} :
    token.situation = .error fault ↔ fault = .listAsKey ∧ token.kind.isList := by
  by_cases list : token.kind.isList = true
  · simp [situation_list list, list, eq_comm]
  · have key : token.kind.isList = false := by simpa using list
    by_cases ends : token.kind = .endOfInput
    · simp [situation_end ends, key]
    · by_cases conditional : token.kind.IsConditional
      · simp [situation_conditional conditional, key]
      · simp [situation_other ends key conditional, key]

end Token

namespace Chain

variable {chain : Chain}

theorem situation_of_successor {token : Token} (next : chain.successor = some token) :
    chain.situation = token.situation := by
  simp only [situation, next]

theorem situation_error {fault : Fault} : chain.situation = .error fault ↔
    fault = .listAsKey ∧ ∃ token, chain.successor = some token ∧ token.kind.isList := by
  cases next : chain.successor with
  | none => simp [situation, next]
  | some token => simp [situation_of_successor next, Token.situation_error]

end Chain

end ParseFailure
