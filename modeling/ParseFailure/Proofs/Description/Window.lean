import ParseFailure.Proofs.Description.Faults

/-!
The run of a description as a window on the chain, seen as the possibly endless row of its
successors. A run shows the first of them, as many as the window takes in, up to the first
end-of-input marker; so chains that look alike there have the same run and the same generic
description.
-/

namespace ParseFailure

def Image.shown : Image → String
  | .text t => Text.escape t
  | .number _ => ""
  | .absent => ""

/-- A literal text that no run can show. -/
def Image.IsNumber (image : Image) : Prop := ∃ n, image = .number n ∧ n ≠ 0

/-- What a run sees of a token. -/
def Token.sight (token : Token) : Bool × Image := (token.kind.isEnd, token.image)

variable {limits : Limits} {chain first second : Chain} {names : NameTable}
  {position other : Option Nat} {token : Token} {image : Image} {fault : Fault}

theorem Image.escaped_error :
    image.escaped = .error fault ↔ fault = .notIterable .number ∧ image.IsNumber := by
  cases image with
  | text t => simp [escaped, IsNumber]
  | absent => simp [escaped, IsNumber]
  | number n =>
    by_cases zero : n = 0
    · simp [escaped, IsNumber, zero]
    · simp [escaped, IsNumber, zero, eq_comm]

theorem Image.escaped_shown (showable : ¬ image.IsNumber) : image.escaped = .ok image.shown := by
  cases image with
  | text t => rfl
  | absent => rfl
  | number n =>
    have zero : n = 0 := Classical.not_not.mp fun other => showable ⟨n, rfl, other⟩
    rw [escaped, if_pos zero, shown]

namespace Chain

def tokensFrom (chain : Chain) (position : Option Nat) (count : Nat) : List Token :=
  (List.range count).filterMap (chain.tokenFrom position)

/-- The tokens behind the last accepted one, up to a number of them, as far as the chain goes. -/
def window (chain : Chain) (count : Nat) : List Token :=
  (List.range count).filterMap fun k => chain.following (k + 1)

theorem window_eq (chain : Chain) (count : Nat) :
    chain.window count = chain.tokensFrom (chain.next? 0) count := rfl

theorem tokensFrom_end (ends : chain.tokenFrom position 0 = none) (count : Nat) :
    chain.tokensFrom position count = [] := by
  apply List.filterMap_eq_nil_iff.mpr
  intro steps _
  exact tokenFrom_end ends steps

theorem tokensFrom_cons (here : chain.tokenFrom position 0 = some token) (count : Nat) :
    chain.tokensFrom position (count + 1) =
      token :: chain.tokensFrom (position.bind chain.next?) count := by
  have later : chain.tokenFrom position ∘ Nat.succ =
      chain.tokenFrom (position.bind chain.next?) := by
    funext steps
    exact tokenFrom_next chain position steps
  rw [tokensFrom, List.range_succ_eq_map, List.filterMap_cons_some here, List.filterMap_map, later,
    tokensFrom]

/-- A wider window goes on where a narrower one ends. -/
theorem window_prefix {narrow wide : Nat} (wider : narrow ≤ wide) :
    chain.window narrow <+: chain.window wide := by
  obtain ⟨more, rfl⟩ := Nat.exists_eq_add_of_le wider
  rw [window, window, List.range_add, List.filterMap_append]
  exact List.prefix_append _ _

/-- Chains that look alike behind the last accepted token, over a number of successors or up to the
first end-of-input marker. -/
def Alike (first second : Chain) (count : Nat) : Prop :=
  ∀ k < count, (∀ j < k, ∀ token, first.following (j + 1) = some token →
      token.kind.isEnd = false) →
    (first.following (k + 1)).map Token.sight = (second.following (k + 1)).map Token.sight

/-- Chains that look alike from a position in each on. -/
def AlikeFrom (first second : Chain) (position other : Option Nat) (count : Nat) : Prop :=
  ∀ k < count, (∀ j < k, ∀ token, first.tokenFrom position j = some token →
      token.kind.isEnd = false) →
    (first.tokenFrom position k).map Token.sight = (second.tokenFrom other k).map Token.sight

theorem AlikeFrom.next {count : Nat} (alike : AlikeFrom first second position other (count + 1))
    (here : first.tokenFrom position 0 = some token) (ongoing : token.kind.isEnd = false) :
    AlikeFrom first second (position.bind first.next?) (other.bind second.next?) count := by
  intro k inside before
  rw [← tokenFrom_next, ← tokenFrom_next]
  apply alike (k + 1) (Nat.succ_lt_succ inside)
  intro j earlier token reached
  cases j with
  | zero =>
    cases Option.some.inj (reached.symm.trans here)
    exact ongoing
  | succ j =>
    rw [tokenFrom_next] at reached
    exact before j (Nat.lt_of_succ_lt_succ earlier) token reached

end Chain

namespace Description

/-- The tokens before the first end-of-input marker. -/
def beforeEnd (tokens : List Token) : List Token :=
  tokens.takeWhile fun token => !token.kind.isEnd

/-- What a run shows of a row of tokens: the literal texts up to the first end-of-input marker, and
the display name of that. -/
def shownParts (names : NameTable) (tokens : List Token) : List String :=
  (beforeEnd tokens).map (fun token => token.image.shown) ++
    if tokens.any (fun token => token.kind.isEnd) then [names.nameInFull .endOfInput] else []

theorem runFrom_end (ends : chain.tokenFrom position 0 = none) (count : Nat) :
    runFrom limits chain names count position = .ok [] := by
  cases count with
  | zero => rfl
  | succ count =>
    cases position with
    | none => rfl
    | some i =>
      rw [Chain.tokenFrom_zero, Chain.token?, Option.map_eq_none_iff] at ends
      simp only [runFrom, ends]

theorem runFrom_cons (here : chain.tokenFrom position 0 = some token) (count : Nat) :
    runFrom limits chain names (count + 1) position =
      if token.kind.isEnd then .ok [names.nameInFull .endOfInput]
      else token.image.escaped >>= fun text =>
        runFrom limits chain names count (position.bind chain.next?) >>= fun others =>
          .ok (text :: others) := by
  cases position with
  | none => contradiction
  | some i =>
    rw [Chain.tokenFrom_zero] at here
    obtain ⟨node, stored, rfl⟩ := Option.map_eq_some_iff.mp here
    have next : chain.next? i = node.next := by simp [Chain.next?, stored]
    simp only [runFrom, stored, Option.bind_some, next, NameTable.name_endOfInput]
    rfl

theorem beforeEnd_end {rest : List Token} (ended : token.kind.isEnd = true) :
    beforeEnd (token :: rest) = [] := by
  simp [beforeEnd, ended]

theorem beforeEnd_cons {rest : List Token} (ongoing : token.kind.isEnd = false) :
    beforeEnd (token :: rest) = token :: beforeEnd rest := by
  simp [beforeEnd, ongoing]

theorem shownParts_end {rest : List Token} (ended : token.kind.isEnd = true) :
    shownParts names (token :: rest) = [names.nameInFull .endOfInput] := by
  simp [shownParts, beforeEnd_end ended, ended]

theorem shownParts_cons {rest : List Token} (ongoing : token.kind.isEnd = false) :
    shownParts names (token :: rest) = token.image.shown :: shownParts names rest := by
  simp [shownParts, beforeEnd_cons ongoing, ongoing]

/-- Only a number before the end of the input stops a run. -/
theorem runFrom_error {count : Nat} : runFrom limits chain names count position = .error fault ↔
    fault = .notIterable .number ∧
      ∃ token ∈ beforeEnd (chain.tokensFrom position count), token.image.IsNumber := by
  induction count generalizing position with
  | zero => simp [runFrom, Chain.tokensFrom, beforeEnd]
  | succ count ih =>
    cases here : chain.tokenFrom position 0 with
    | none => simp [runFrom_end here, Chain.tokensFrom_end here, beforeEnd]
    | some token =>
      rw [runFrom_cons here, Chain.tokensFrom_cons here]
      by_cases ended : token.kind.isEnd = true
      · simp [ended, beforeEnd_end ended]
      · have ongoing : token.kind.isEnd = false := by simpa using ended
        rw [if_neg ended, beforeEnd_cons ongoing, bind_error, Image.escaped_error]
        simp only [bind_ok_error, ih, List.mem_cons, exists_eq_or_imp]
        constructor
        · rintro (⟨same, number⟩ | ⟨text, -, same, later⟩)
          · exact ⟨same, .inl number⟩
          · exact ⟨same, .inr later⟩
        · rintro ⟨same, later⟩
          by_cases number : token.image.IsNumber
          · exact .inl ⟨same, number⟩
          · exact .inr ⟨_, Image.escaped_shown number, same, later.resolve_left number⟩

/-- A run that is not stopped shows the tokens from its position on. -/
theorem runFrom_ok {count : Nat}
    (showable : ∀ token ∈ beforeEnd (chain.tokensFrom position count), ¬ token.image.IsNumber) :
    runFrom limits chain names count position =
      .ok (shownParts names (chain.tokensFrom position count)) := by
  induction count generalizing position with
  | zero => rfl
  | succ count ih =>
    cases here : chain.tokenFrom position 0 with
    | none =>
      rw [runFrom_end here, Chain.tokensFrom_end here]
      rfl
    | some token =>
      rw [Chain.tokensFrom_cons here] at showable ⊢
      rw [runFrom_cons here]
      by_cases ended : token.kind.isEnd = true
      · rw [if_pos ended, shownParts_end ended]
      · have ongoing : token.kind.isEnd = false := by simpa using ended
        rw [beforeEnd_cons ongoing] at showable
        obtain ⟨own, later⟩ := List.forall_mem_cons.mp showable
        rw [if_neg ended, Image.escaped_shown own, ih later, shownParts_cons ongoing]
        rfl

theorem runFrom_showable {count : Nat} {parts : List String}
    (shown : runFrom limits chain names count position = .ok parts) :
    ∀ token ∈ beforeEnd (chain.tokensFrom position count), ¬ token.image.IsNumber := by
  intro token member number
  have stopped : runFrom limits chain names count position = .error (.notIterable .number) :=
    runFrom_error.mpr ⟨rfl, token, member, number⟩
  rw [shown] at stopped
  contradiction

theorem runFrom_shown {count : Nat} {parts : List String}
    (shown : runFrom limits chain names count position = .ok parts) :
    parts = shownParts names (chain.tokensFrom position count) :=
  Except.ok.inj (shown.symm.trans (runFrom_ok (runFrom_showable shown)))

theorem beforeEnd_mono {tokens more : List Token} (longer : tokens <+: more) :
    beforeEnd tokens <+: beforeEnd more := by
  obtain ⟨rest, rfl⟩ := longer
  induction tokens with
  | nil => exact List.nil_prefix
  | cons token tokens ih =>
    by_cases ended : token.kind.isEnd = true
    · rw [beforeEnd_end ended]
      exact List.nil_prefix
    · have ongoing : token.kind.isEnd = false := by simpa using ended
      rw [List.cons_append, beforeEnd_cons ongoing, beforeEnd_cons ongoing]
      exact List.cons_prefix_cons.mpr ⟨rfl, ih⟩

theorem shownParts_prefix {tokens more : List Token} (longer : tokens <+: more) :
    shownParts names tokens <+: shownParts names more := by
  obtain ⟨rest, rfl⟩ := longer
  induction tokens with
  | nil => exact List.nil_prefix
  | cons token tokens ih =>
    rw [List.cons_append]
    by_cases ended : token.kind.isEnd = true
    · have same : shownParts names (token :: tokens) = shownParts names (token :: (tokens ++ rest)) :=
        (shownParts_end ended).trans (shownParts_end ended).symm
      exact same ▸ List.prefix_rfl
    · have ongoing : token.kind.isEnd = false := by simpa using ended
      rw [shownParts_cons ongoing, shownParts_cons ongoing]
      exact List.cons_prefix_cons.mpr ⟨rfl, ih⟩

theorem runFrom_alike {count : Nat} (alike : Chain.AlikeFrom first second position other count) :
    runFrom limits first names count position = runFrom limits second names count other := by
  induction count generalizing position other with
  | zero => rfl
  | succ count ih =>
    have here := alike 0 (Nat.succ_pos count) fun _ before => absurd before (Nat.not_lt_zero _)
    cases present : first.tokenFrom position 0 with
    | none =>
      rw [present, Option.map_none, eq_comm, Option.map_eq_none_iff] at here
      rw [runFrom_end present, runFrom_end here]
    | some token =>
      rw [present, Option.map_some, eq_comm, Option.map_eq_some_iff] at here
      obtain ⟨same, found, looks⟩ := here
      obtain ⟨ends, image⟩ := Prod.mk.inj looks
      rw [runFrom_cons present, runFrom_cons found, ends, image]
      split
      · rfl
      · next ongoing =>
        rw [ih (alike.next present (by simpa using ongoing))]

theorem generic_alike {expected : Expected} {terminator : String}
    (alike : ∀ listed sequences, expected.alternatives = .ok listed →
      readAll Alternative.measured listed = .ok sequences →
        first.Alike second (longest sequences)) :
    generic limits first expected names terminator =
      generic limits second expected names terminator := by
  unfold generic
  cases read : expected.alternatives with
  | error fault => rfl
  | ok listed =>
    cases measured : readAll Alternative.measured listed with
    | error fault => simp only [bind, Except.bind, measured]
    | ok sequences =>
      have same : encountered limits first names (longest sequences) =
          encountered limits second names (longest sequences) := by
        rw [encountered, encountered, runParts, runParts, Int.toNat_natCast,
          runFrom_alike (alike listed sequences read measured)]
      simp only [bind, Except.bind, measured, same]

/-- The run in a window of any length shows the successors of the last accepted token that are in
the window, up to the first end-of-input marker, which closes it by its display name. It fails
exactly where one before that has a number other than zero for its text. In a narrower window there
is a first part of it. So a generic description depends on nothing but the process, the names, what
was expected, and how the tokens look that are in the window of the longest sequence. -/
theorem encountered_window (limits : Limits) (chain : Chain) (names : NameTable) :
    (∀ length : Int,
      (∀ fault, encountered limits chain names length = .error fault ↔
        fault = .notIterable .number ∧
          ∃ token ∈ beforeEnd (chain.window length.toNat), ∃ n, token.image = .number n ∧ n ≠ 0) ∧
      ((¬ ∃ token ∈ beforeEnd (chain.window length.toNat), ∃ n,
          token.image = .number n ∧ n ≠ 0) →
        encountered limits chain names length =
          .ok (Text.joinWith " " (shownParts names (chain.window length.toNat))))) ∧
    (∀ (narrow wide : Int) (parts : List String), narrow ≤ wide →
      runParts limits chain names wide = .ok parts →
        ∃ fewer, runParts limits chain names narrow = .ok fewer ∧ fewer <+: parts) ∧
    ∀ (other : Chain) (expected : Expected) (terminator : String),
      (∀ listed sequences, expected.alternatives = .ok listed →
        readAll Alternative.measured listed = .ok sequences →
          chain.Alike other (longest sequences)) →
        generic limits chain expected names terminator =
          generic limits other expected names terminator := by
  refine ⟨?_, ?_, fun other expected terminator => generic_alike⟩
  · intro length
    constructor
    · intro fault
      rw [encountered, bind_ok_error, runParts, runFrom_error, ← Chain.window_eq]
      rfl
    · intro showable
      have shown : runParts limits chain names length =
          .ok (shownParts names (chain.window length.toNat)) := by
        apply runFrom_ok
        intro token member number
        exact showable ⟨token, member, number⟩
      rw [encountered, shown]
      rfl
  · intro narrow wide parts wider found
    have within : chain.window narrow.toNat <+: chain.window wide.toNat :=
      Chain.window_prefix (Int.toNat_le_toNat wider)
    obtain rfl := runFrom_shown found
    refine ⟨_, runFrom_ok fun token member => ?_, shownParts_prefix within⟩
    exact runFrom_showable found token ((beforeEnd_mono within).subset member)

/-- Tokens in a circle: a text, the end of the input, and a number behind it. -/
def circlingEnd : Chain :=
  Chain.ofTokens ⟨.ofCategory .staticText, .text "x", ⟨1, 1, 1, 1⟩⟩
    [⟨.ofCategory .identifier, .text "a\t", ⟨1, 2, 1, 3⟩⟩, ⟨.endOfInput, .number 7, Span.unknown⟩,
    ⟨.absent, .number 3, Span.unknown⟩] (some 1)

def truncatedEnd : Chain :=
  Chain.ofTokens ⟨.absent, .number 5, Span.unknown⟩
    [⟨.ofCategory .elseBranch, .text "a\t", Span.unknown⟩,
    ⟨.endOfInput, .number 7, ⟨2, 1, 2, 1⟩⟩] none

theorem encountered_window_circlingEnd :
    encountered (.usual 80 1000) circlingEnd .standard 9 = .ok "a\\t <EOF>" ∧
      (∃ fewer, runParts (.usual 80 1000) circlingEnd .standard 1 = .ok fewer ∧
        fewer <+: ["a\\t", "<EOF>"]) ∧
      (∀ listed sequences, (Expected.ofSequences [[.number 1, .absent, .number 2], []]).alternatives =
          .ok listed → readAll Alternative.measured listed = .ok sequences →
            circlingEnd.Alike truncatedEnd (longest sequences)) ∧
      generic (.usual 80 1000) circlingEnd (.ofSequences [[.number 1, .absent, .number 2], []])
          .standard "\n" =
        generic (.usual 80 1000) truncatedEnd (.ofSequences [[.number 1, .absent, .number 2], []])
          .standard "\n" := by
  obtain ⟨run, narrower, same⟩ := encountered_window (.usual 80 1000) circlingEnd .standard
  have alike : ∀ count, circlingEnd.Alike truncatedEnd count := by
    intro count k _ ongoing
    match k with
    | 0 => rfl
    | 1 => rfl
    | _ + 2 => exact absurd (ongoing 1 (by omega) _ rfl) (by decide)
  refine ⟨?_, ?_, fun _ sequences _ _ => alike (longest sequences),
    same _ _ _ fun _ sequences _ _ => alike (longest sequences)⟩
  · apply (run 9).2
    rintro ⟨token, member, n, number, -⟩
    cases List.mem_singleton.mp member
    contradiction
  · exact narrower 1 9 _ (by decide) rfl

end Description

end ParseFailure
