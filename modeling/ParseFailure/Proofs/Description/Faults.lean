import ParseFailure.Proofs.Description.Legible
import ParseFailure.Proofs.Situation

/-!
What makes each part of a description fail. Each part has its own way to meet malformed data, and a
part that is not reached does no harm.
-/

namespace ParseFailure

variable {limits : Limits} {chain : Chain} {names : NameTable} {sequences : List (List Kind)}
  {position : Option Nat}

/-- Some kind that was expected is a list. -/
def ListExpected (sequences : List (List Kind)) : Prop :=
  ∃ kinds ∈ sequences, ∃ kind ∈ kinds, kind.isList

namespace Description

theorem closedBy_fails {kinds : List Kind} :
    Fails (closedBy kinds) ↔ ∃ kind ∈ kinds, kind.isList := by
  induction kinds with
  | nil => simp [closedBy]
  | cons kind rest ih =>
    have later : ∀ here : List String,
        Fails (closedBy rest >>= fun later => .ok (here ++ later)) ↔ Fails (closedBy rest) :=
      fun _ => fails_bind_ok
    rw [closedBy, fails_bind_either later, Kind.closes_fails, ih]
    simp

theorem closedByAny_fails :
    Fails (closedByAny (sequences.map Alternative.sequence)) ↔ ListExpected sequences := by
  induction sequences with
  | nil => simp [closedByAny, ListExpected]
  | cons kinds rest ih =>
    have later : ∀ here : List String,
        Fails (closedByAny (rest.map Alternative.sequence) >>= fun later => .ok (here ++ later)) ↔
          Fails (closedByAny (rest.map Alternative.sequence)) :=
      fun _ => fails_bind_ok
    have split : Fails (closedByAny ((kinds :: rest).map Alternative.sequence)) ↔
        Fails (closedBy kinds) ∨ Fails (closedByAny (rest.map Alternative.sequence)) :=
      fails_bind_either later
    rw [split, closedBy_fails, ih]
    simp [ListExpected]

theorem endOfInput_fails :
    Fails (endOfInput (.ofSequences sequences)) ↔ ListExpected sequences := by
  rw [← closedByAny_fails, endOfInput, fails_bind_ok]
  exact fails_bind_ok

end Description

theorem Image.quotable_fails {image : Image} : Fails image.quotable ↔ ∀ t, image ≠ .text t := by
  cases image <;> simp [quotable]

theorem Image.escaped_fails {image : Image} :
    Fails image.escaped ↔ ∃ n, image = .number n ∧ n ≠ 0 := by
  cases image with
  | text t => simp [escaped]
  | absent => simp [escaped]
  | number n =>
    by_cases zero : n = 0
    · simp [escaped, zero]
    · simp [escaped, zero]

theorem Description.misplaced_fails {directive : Token} :
    Fails (Description.misplaced directive) ↔ ∀ t, directive.image ≠ .text t := by
  rw [← Image.quotable_fails, misplaced, fails_bind_ok, Token.quoted, fails_bind_ok]

namespace Chain

/-- The token reached from a position over a number of successors. -/
def tokenFrom (chain : Chain) (position : Option Nat) (steps : Nat) : Option Token :=
  (position.bind (chain.walk steps)).bind chain.token?

/-- The token reached from the last accepted one over a number of successors. -/
def following (chain : Chain) (steps : Nat) : Option Token := (chain.reach steps).bind chain.token?

theorem tokenFrom_none (chain : Chain) (steps : Nat) : chain.tokenFrom none steps = none := rfl

theorem tokenFrom_zero (chain : Chain) (i : Nat) : chain.tokenFrom (some i) 0 = chain.token? i := by
  by_cases inside : i < chain.nodes.length
  · simp [tokenFrom, walk, inside]
  · simp [tokenFrom, walk, token?, inside]

theorem tokenFrom_succ (chain : Chain) (i steps : Nat) :
    chain.tokenFrom (some i) (steps + 1) = chain.tokenFrom (chain.next? i) steps := rfl

theorem tokenFrom_next (chain : Chain) (position : Option Nat) (steps : Nat) :
    chain.tokenFrom position (steps + 1) = chain.tokenFrom (position.bind chain.next?) steps := by
  cases position <;> rfl

/-- Behind the end of a chain there is nothing. -/
theorem tokenFrom_end (ends : chain.tokenFrom position 0 = none) (steps : Nat) :
    chain.tokenFrom position steps = none := by
  cases position with
  | none => rfl
  | some i =>
    rw [tokenFrom_zero] at ends
    cases steps with
    | zero => rw [tokenFrom_zero, ends]
    | succ steps =>
      have next : chain.next? i = none := by
        simp only [token?, Option.map_eq_none_iff] at ends
        simp [next?, ends]
      rw [tokenFrom_succ, next, tokenFrom_none]

theorem following_succ (chain : Chain) (steps : Nat) :
    chain.following (steps + 1) = chain.tokenFrom (chain.next? 0) steps := rfl

end Chain

/-- Among the first tokens of a run, before the end of the input, the literal text of one is a
number other than zero. -/
def NumberAhead (chain : Chain) (position : Option Nat) (window : Nat) : Prop :=
  ∃ k < window, ∃ token, chain.tokenFrom position k = some token ∧
    (∃ n, token.image = .number n ∧ n ≠ 0) ∧
    ∀ j ≤ k, ∀ earlier, chain.tokenFrom position j = some earlier → earlier.kind.isEnd = false

theorem numberAhead_cons {i window : Nat} {token : Token} (here : chain.token? i = some token) :
    NumberAhead chain (some i) (window + 1) ↔
      token.kind.isEnd = false ∧
        ((∃ n, token.image = .number n ∧ n ≠ 0) ∨ NumberAhead chain (chain.next? i) window) := by
  have first : chain.tokenFrom (some i) 0 = some token := (chain.tokenFrom_zero i).trans here
  constructor
  · rintro ⟨k, inside, found, present, number, open_⟩
    refine ⟨open_ 0 (Nat.zero_le k) token first, ?_⟩
    cases k with
    | zero =>
      cases Option.some.inj (present.symm.trans first)
      exact .inl number
    | succ k =>
      refine .inr ⟨k, Nat.lt_of_succ_lt_succ inside, found, present, number, fun j before => ?_⟩
      exact open_ (j + 1) (Nat.succ_le_succ before)
  · rintro ⟨open_, number | ⟨k, inside, found, present, number, later⟩⟩
    · refine ⟨0, Nat.succ_pos window, token, first, number, fun j before earlier reached => ?_⟩
      cases Nat.le_zero.mp before
      cases Option.some.inj (reached.symm.trans first)
      exact open_
    · refine ⟨k + 1, Nat.succ_lt_succ inside, found, present, number, ?_⟩
      intro j before earlier reached
      cases j with
      | zero =>
        cases Option.some.inj (reached.symm.trans first)
        exact open_
      | succ j => exact later j (Nat.le_of_succ_le_succ before) earlier reached

theorem numberAhead_stops {i window : Nat} (here : chain.token? i = none) :
    ¬ NumberAhead chain (some i) window := by
  rintro ⟨k, -, token, present, -, -⟩
  rw [Chain.tokenFrom_end ((chain.tokenFrom_zero i).trans here)] at present
  contradiction

namespace Description

theorem runFrom_fails {window : Nat} :
    Fails (runFrom limits chain names window position) ↔ NumberAhead chain position window := by
  induction window generalizing position with
  | zero =>
    unfold runFrom NumberAhead
    simp
  | succ window ih =>
    cases position with
    | none => simp [runFrom, NumberAhead, Chain.tokenFrom_none]
    | some i =>
      simp only [runFrom]
      cases stored : chain.nodes[i]? with
      | none =>
        have here : chain.token? i = none := by simp [Chain.token?, stored]
        simp [numberAhead_stops here]
      | some node =>
        have here : chain.token? i = some node.token := by simp [Chain.token?, stored]
        have next : chain.next? i = node.next := by simp [Chain.next?, stored]
        rw [numberAhead_cons here, next, ← ih, ← Image.escaped_fails]
        by_cases ended : node.token.kind.isEnd = true
        · simp [ended, NameTable.name_endOfInput, bind, Except.bind]
        · simp only [Bool.not_eq_true] at ended
          simp only [ended, Bool.false_eq_true, if_false, true_and]
          exact fails_bind_either fun _ => fails_bind_ok

theorem encountered_fails {window : Nat} :
    Fails (encountered limits chain names window) ↔ NumberAhead chain (chain.next? 0) window := by
  rw [encountered, fails_bind_ok, runParts, runFrom_fails, Int.toNat_natCast]

/-- The longest of several sequences has a place wherever one of them has. -/
theorem lt_longest {k : Nat} : k < longest sequences ↔ ∃ kinds ∈ sequences, k < kinds.length := by
  induction sequences with
  | nil => simp [longest]
  | cons kinds rest ih =>
    simp only [longest, List.mem_cons, exists_eq_or_imp, ← ih]
    omega

/-- The run comes first; behind it only a kind that cannot be displayed is in the way. -/
theorem generic_fails :
    Fails (generic limits chain (.ofSequences sequences) names "\n") ↔
      NumberAhead chain (chain.next? 0) (longest sequences) ∨ ¬ Legible limits names sequences := by
  rw [← encountered_fails, generic_eq]
  refine fails_bind_either fun run => ?_
  split
  · next legible => simp [legible]
  · next illegible => simp [illegible]

end Description

end ParseFailure
