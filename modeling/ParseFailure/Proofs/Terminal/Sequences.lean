import Mathlib.Data.List.TakeWhile
import ParseFailure.Proofs.Terminal.Stripping

/-!
Escape sequences by their grammar, beside the scanner that drops them. Stripping takes out exactly
the characters that belong to a sequence of the text. It goes by the text as it stands, so an escape
character that opens no sequence there may open one when what stood behind it is gone: that is the
only way in which a stripped text comes to hold a sequence, and in which stripping it again changes
it.
-/

namespace ParseFailure.Terminal

/-- A complete escape sequence: a pair, or a control sequence with its parameters, its intermediates
and its last character. -/
inductive Sequence : List Char → Prop where
  | pair {second : Char} (completes : isSecond second = true) : Sequence [escapeMark, second]
  | control {parameters intermediates : List Char} {last : Char}
      (numbers : ∀ c ∈ parameters, isParameter c = true)
      (between : ∀ c ∈ intermediates, isIntermediate c = true) (ends : isFinal last = true) :
      Sequence (escapeMark :: '[' :: (parameters ++ (intermediates ++ [last])))

def Opens (text : List Char) : Prop := ∃ sequence, Sequence sequence ∧ sequence <+: text

def Holds (text : List Char) : Prop := ∃ sequence, Sequence sequence ∧ sequence <:+: text

/-- A place in a text that belongs to a sequence. -/
def InSequence (text : List Char) (i : Nat) : Prop :=
  ∃ before sequence after, text = before ++ (sequence ++ after) ∧ Sequence sequence ∧
    before.length ≤ i ∧ i < before.length + sequence.length

variable {c : Char} {text rest after sequence other body : List Char} {i : Nat}

theorem Sequence.start (found : Sequence sequence) :
    ∃ body, sequence = escapeMark :: body ∧ escapeMark ∉ body := by
  obtain ⟨bracket, second, parameter, intermediate, final⟩ :=
    barrier_outside (c := escapeMark) rfl
  cases found with
  | pair completes =>
    refine ⟨_, rfl, fun member => ?_⟩
    cases List.mem_singleton.mp member
    rw [second] at completes
    contradiction
  | control numbers between ends =>
    refine ⟨_, rfl, fun member => ?_⟩
    simp only [List.mem_cons, List.mem_append, List.not_mem_nil, or_false] at member
    rcases member with same | number | inner | same
    · exact bracket same
    · exact Bool.false_ne_true (parameter.symm.trans (numbers _ number))
    · exact Bool.false_ne_true (intermediate.symm.trans (between _ inner))
    · subst same
      exact Bool.false_ne_true (final.symm.trans ends)

/-- The classes of a control sequence share no character. -/
theorem isFinal_alone (final : isFinal c = true) :
    isParameter c = false ∧ isIntermediate c = false := by
  simp only [isFinal, isParameter, isIntermediate, Bool.and_eq_true, Bool.and_eq_false_iff,
    decide_eq_true_eq, decide_eq_false_iff_not] at final ⊢
  omega

theorem isIntermediate_alone (intermediate : isIntermediate c = true) : isParameter c = false := by
  simp only [isParameter, isIntermediate, Bool.and_eq_true, Bool.and_eq_false_iff,
    decide_eq_true_eq, decide_eq_false_iff_not] at intermediate ⊢
  omega

theorem dropWhile_class {p : Char → Bool} {front : List Char} (inside : ∀ c ∈ front, p c = true)
    (stops : ∀ c, rest.head? = some c → p c = false) : (front ++ rest).dropWhile p = rest := by
  rw [List.dropWhile_append_of_pos inside]
  cases rest with
  | nil => rfl
  | cons c rest => simp [stops c rfl]

theorem afterControl?_iff : afterControl? text = some rest ↔
    ∃ parameters intermediates last, text = parameters ++ (intermediates ++ last :: rest) ∧
      (∀ c ∈ parameters, isParameter c = true) ∧ (∀ c ∈ intermediates, isIntermediate c = true) ∧
      isFinal last = true := by
  constructor
  · intro found
    unfold afterControl? at found
    split at found
    · contradiction
    · next last tail left =>
      split at found
      · next ends =>
        cases Option.some.inj found
        refine ⟨text.takeWhile isParameter, (text.dropWhile isParameter).takeWhile isIntermediate,
          last, ?_, fun c => List.mem_takeWhile_imp, fun c => List.mem_takeWhile_imp, ends⟩
        rw [← left, List.takeWhile_append_dropWhile, List.takeWhile_append_dropWhile]
      · contradiction
  · rintro ⟨parameters, intermediates, last, rfl, numbers, between, ends⟩
    obtain ⟨noNumber, noInner⟩ := isFinal_alone ends
    have first : ∀ c, (intermediates ++ last :: rest).head? = some c → isParameter c = false := by
      intro c begins
      cases intermediates with
      | nil =>
        cases Option.some.inj begins
        exact noNumber
      | cons inner more =>
        cases Option.some.inj begins
        exact isIntermediate_alone (between _ List.mem_cons_self)
    have second : ∀ c, (last :: rest).head? = some c → isIntermediate c = false := by
      intro c begins
      cases Option.some.inj begins
      exact noInner
    unfold afterControl?
    rw [dropWhile_class numbers first, dropWhile_class between second]
    exact if_pos ends

/-- The scanner reads a sequence off the start of a text exactly if the text begins with one. -/
theorem afterEscape?_iff : afterEscape? text = some rest ↔
    ∃ body, Sequence (escapeMark :: body) ∧ text = body ++ rest := by
  constructor
  · intro found
    cases text with
    | nil => contradiction
    | cons c tail =>
      simp only [afterEscape?] at found
      split at found
      · next bracket =>
        obtain ⟨parameters, intermediates, last, rfl, numbers, between, ends⟩ :=
          afterControl?_iff.mp found
        refine ⟨_, .control numbers between ends, ?_⟩
        simp [bracket]
      · split at found
        · next completes =>
          cases Option.some.inj found
          exact ⟨_, .pair completes, rfl⟩
        · contradiction
  · rintro ⟨body, found, rfl⟩
    cases found with
    | pair completes =>
      have other : ∀ second, isSecond second = true → second ≠ '[' := by
        rintro second completes rfl
        revert completes
        decide
      rw [List.singleton_append, afterEscape?, if_neg (other _ completes), if_pos completes]
    | @control parameters intermediates last numbers between ends =>
      rw [List.cons_append, afterEscape?, if_pos rfl]
      exact afterControl?_iff.mpr ⟨parameters, intermediates, last, by simp, numbers, between, ends⟩

theorem Sequence.unique (found : Sequence sequence) (second : Sequence other)
    (same : sequence ++ rest = other ++ after) : sequence = other := by
  obtain ⟨body, rfl, -⟩ := found.start
  obtain ⟨more, rfl, -⟩ := second.start
  have tail : body ++ rest = more ++ after := (List.cons.inj same).2
  have first : afterEscape? (body ++ rest) = some rest := afterEscape?_iff.mpr ⟨body, found, rfl⟩
  have again : afterEscape? (body ++ rest) = some after :=
    afterEscape?_iff.mpr ⟨more, second, tail⟩
  cases Option.some.inj (first.symm.trans again)
  rw [List.append_cancel_right tail]

/-- A sequence that begins inside a sequence or right behind it begins with it or right behind it.
-/
theorem Sequence.cut {before inner : List Char} (found : Sequence sequence)
    (second : Sequence other)
    (whole : sequence = before ++ inner) (behind : other ++ after = inner ++ rest) :
    inner = [] ∨ before = [] := by
  obtain ⟨body, rfl, alone⟩ := found.start
  obtain ⟨more, rfl, -⟩ := second.start
  cases inner with
  | nil => exact .inl rfl
  | cons c inner =>
    cases before with
    | nil => exact .inr rfl
    | cons d before =>
      have mark : escapeMark = c := (List.cons.inj behind).1
      subst mark
      refine absurd ?_ alone
      rw [(List.cons.inj whole).2]
      exact List.mem_append_right _ List.mem_cons_self

theorem Opens.start (opens : Opens (c :: rest)) : c = escapeMark := by
  obtain ⟨sequence, found, begins⟩ := opens
  obtain ⟨body, rfl, -⟩ := found.start
  exact (List.cons_prefix_cons.mp begins).1.symm

theorem not_opens_iff : ¬ Opens (escapeMark :: rest) ↔ afterEscape? rest = none := by
  rw [Option.eq_none_iff_forall_ne_some]
  constructor
  · intro unopened left found
    obtain ⟨body, sequence, rfl⟩ := afterEscape?_iff.mp found
    exact unopened ⟨_, sequence, left, rfl⟩
  · rintro none ⟨sequence, found, left, same⟩
    obtain ⟨body, rfl, -⟩ := found.start
    exact none left (afterEscape?_iff.mpr ⟨body, found, (List.cons.inj same).2.symm⟩)

theorem stripChars_kept (unopened : ¬ Opens (c :: rest)) :
    stripChars (c :: rest) = c :: stripChars rest := by
  by_cases mark : c = escapeMark
  · subst mark
    exact stripChars_unopened (not_opens_iff.mp unopened)
  · exact stripChars_cons mark rest

theorem stripChars_removed (found : Sequence sequence) (rest : List Char) :
    stripChars (sequence ++ rest) = stripChars rest := by
  obtain ⟨body, rfl, -⟩ := found.start
  exact stripChars_sequence (afterEscape?_iff.mpr ⟨body, found, rfl⟩)

theorem text_induction {p : List Char → Prop} (nil : p [])
    (kept : ∀ c rest, ¬ Opens (c :: rest) → p rest → p (c :: rest))
    (removed : ∀ sequence rest, Sequence sequence → p rest → p (sequence ++ rest))
    (text : List Char) : p text := by
  -- A sequence takes several characters at once, so the induction is on the length.
  induction size : text.length using Nat.strongRecOn generalizing text with
  | ind n ih =>
    subst size
    cases text with
    | nil => exact nil
    | cons c rest =>
      by_cases opens : Opens (c :: rest)
      · obtain ⟨sequence, found, left, same⟩ := opens
        rw [← same]
        refine removed sequence left found (ih left.length ?_ left rfl)
        obtain ⟨body, rfl, -⟩ := found.start
        rw [← same]
        simp only [List.cons_append, List.length_cons, List.length_append]
        omega
      · exact kept c rest opens (ih rest.length (Nat.lt_succ_self _) rest rfl)

theorem inSequence_kept (unopened : ¬ Opens (c :: rest)) :
    InSequence (c :: rest) i ↔ ∃ j, i = j + 1 ∧ InSequence rest j := by
  constructor
  · rintro ⟨before, sequence, after, same, found, first, last⟩
    cases before with
    | nil => exact absurd ⟨sequence, found, after, same.symm⟩ unopened
    | cons d before =>
      simp only [List.length_cons] at first last
      exact ⟨i - 1, by omega, before, sequence, after, (List.cons.inj same).2, found, by omega,
        by omega⟩
  · rintro ⟨j, rfl, before, sequence, after, rfl, found, first, last⟩
    refine ⟨c :: before, sequence, after, rfl, found, ?_, ?_⟩
    all_goals
      rw [List.length_cons]
      omega

theorem inSequence_removed (found : Sequence sequence) :
    InSequence (sequence ++ rest) i ↔
      i < sequence.length ∨ ∃ j, i = sequence.length + j ∧ InSequence rest j := by
  constructor
  · rintro ⟨before, other, after, same, second, first, last⟩
    rcases List.append_eq_append_iff.mp same with ⟨more, rfl, behind⟩ | ⟨inner, whole, behind⟩
    · rw [List.length_append] at first last
      exact .inr ⟨i - sequence.length, by omega, more, other, after, behind, second, by omega,
        by omega⟩
    · obtain rfl | rfl := found.cut second whole behind
      · rw [List.append_nil] at whole
        subst whole
        exact .inr ⟨i - sequence.length, by omega, [], other, after, behind.symm, second,
          Nat.zero_le _, by simp only [List.length_nil]; omega⟩
      · cases found.unique second same
        exact .inl (by simpa using last)
  · rintro (inside | ⟨j, rfl, before, other, after, rfl, second, first, last⟩)
    · exact ⟨[], sequence, rest, rfl, found, Nat.zero_le _, by simpa using inside⟩
    · refine ⟨sequence ++ before, other, after, by simp, second, ?_, ?_⟩
      all_goals
        rw [List.length_append]
        omega

/-- The places of a text, in order, that belong to no sequence. -/
def Outside (text : List Char) (places : List Nat) : Prop :=
  places.Pairwise (· < ·) ∧ ∀ i, i ∈ places ↔ i < text.length ∧ ¬ InSequence text i

theorem Outside.kept {places : List Nat} (outside : Outside rest places)
    (unopened : ¬ Opens (c :: rest)) : Outside (c :: rest) (0 :: places.map (· + 1)) := by
  refine ⟨?_, fun i => ?_⟩
  · rw [List.pairwise_cons, List.pairwise_map]
    exact ⟨List.forall_mem_map.mpr fun i _ => Nat.succ_pos i,
      outside.1.imp fun less => Nat.succ_lt_succ less⟩
  · rw [inSequence_kept unopened]
    cases i with
    | zero => simp
    | succ i => simp [outside.2]

theorem Outside.removed {places : List Nat} (outside : Outside rest places)
    (found : Sequence sequence) :
    Outside (sequence ++ rest) (places.map (sequence.length + ·)) := by
  refine ⟨?_, fun i => ?_⟩
  · rw [List.pairwise_map]
    exact outside.1.imp fun less => Nat.add_lt_add_left less _
  · rw [inSequence_removed found, List.length_append]
    constructor
    · intro member
      obtain ⟨j, place, rfl⟩ := List.mem_map.mp member
      obtain ⟨inside, free⟩ := (outside.2 j).mp place
      refine ⟨by omega, ?_⟩
      rintro (early | ⟨k, moved, within⟩)
      · omega
      · cases Nat.add_left_cancel moved
        exact free within
    · rintro ⟨inside, free⟩
      rw [not_or, not_lt] at free
      obtain ⟨j, rfl⟩ := Nat.exists_eq_add_of_le free.1
      refine List.mem_map.mpr ⟨j, (outside.2 j).mpr ⟨by omega, fun within => ?_⟩, rfl⟩
      exact free.2 ⟨j, rfl, within⟩

/-- A text is stripped down to the characters that belong to none of its sequences. -/
theorem stripChars_outside (text : List Char) :
    ∃ places, Outside text places ∧ stripChars text = places.filterMap (text[·]?) := by
  induction text using text_induction with
  | nil => exact ⟨[], ⟨.nil, by simp⟩, by simp [stripChars]⟩
  | kept c rest unopened ih =>
    obtain ⟨places, outside, same⟩ := ih
    have first : (c :: rest)[0]? = some c := rfl
    refine ⟨_, outside.kept unopened, ?_⟩
    rw [stripChars_kept unopened, same, List.filterMap_cons_some first, List.filterMap_map]
    rfl
  | removed sequence rest found ih =>
    obtain ⟨places, outside, same⟩ := ih
    refine ⟨_, outside.removed found, ?_⟩
    rw [stripChars_removed found, same, List.filterMap_map]
    refine List.filterMap_congr fun i _ => ?_
    rw [Function.comp_apply, List.getElem?_append_right (Nat.le_add_right _ _),
      Nat.add_sub_cancel_left]

/-- A text with an escape character that opens no sequence in it, but would open one if what follows
were stripped. -/
def Joins (text : List Char) : Prop :=
  ∃ before rest, text = before ++ escapeMark :: rest ∧ ¬ Opens (escapeMark :: rest) ∧
    Opens (escapeMark :: stripChars rest)

theorem not_holds_nil : ¬ Holds [] := by
  rintro ⟨sequence, found, inside⟩
  obtain ⟨body, rfl, -⟩ := found.start
  exact absurd (List.infix_nil.mp inside) (List.cons_ne_nil _ _)

theorem holds_cons : Holds (c :: text) ↔ Opens (c :: text) ∨ Holds text := by
  simp only [Holds, Opens, List.infix_cons_iff, and_or_left, exists_or]

theorem Joins.behind (front : List Char) (joins : Joins text) : Joins (front ++ text) := by
  obtain ⟨before, rest, rfl, unopened, opens⟩ := joins
  exact ⟨front ++ before, rest, (List.append_assoc _ _ _).symm, unopened, opens⟩

/-- A stripped text holds a sequence only where an escape character and what is left behind it have
come together. -/
theorem holds_stripChars : Holds (stripChars text) ↔ Joins text := by
  constructor
  · intro holds
    induction text using text_induction with
    | nil =>
      rw [stripChars] at holds
      exact absurd holds not_holds_nil
    | kept c rest unopened ih =>
      rw [stripChars_kept unopened, holds_cons] at holds
      rcases holds with opens | holds
      · cases opens.start
        exact ⟨[], rest, rfl, unopened, opens⟩
      · exact (ih holds).behind [c]
    | removed sequence rest found ih =>
      rw [stripChars_removed found] at holds
      exact (ih holds).behind sequence
  · rintro ⟨before, rest, rfl, unopened, sequence, found, begins⟩
    refine ⟨sequence, found, ?_⟩
    rw [stripChars_append_barrier rfl, stripChars_kept unopened]
    exact begins.isInfix.trans (List.suffix_append _ _).isInfix

theorem stripChars_length (text : List Char) : (stripChars text).length ≤ text.length := by
  induction text using text_induction with
  | nil => simp [stripChars]
  | kept c rest unopened ih =>
    rw [stripChars_kept unopened]
    exact Nat.succ_le_succ ih
  | removed sequence rest found ih =>
    rw [stripChars_removed found, List.length_append]
    exact Nat.le_add_left_of_le ih

/-- Stripping leaves a text alone exactly if it holds no sequence. -/
theorem stripChars_eq_self : stripChars text = text ↔ ¬ Holds text := by
  constructor
  · rintro same ⟨sequence, found, before, after, rfl⟩
    obtain ⟨body, rfl, -⟩ := found.start
    have front := stripChars_length before
    have back := stripChars_length after
    have cut := stripChars_append_barrier (c := escapeMark) rfl before (body ++ after)
    rw [← List.cons_append, stripChars_removed found, ← List.append_assoc, same] at cut
    have size := congrArg List.length cut
    simp only [List.length_append, List.length_cons] at size
    omega
  · intro free
    induction text using text_induction with
    | nil => simp [stripChars]
    | kept c rest unopened ih =>
      rw [stripChars_kept unopened, ih fun holds => free (holds_cons.mpr (.inr holds))]
    | removed sequence rest found ih =>
      exact absurd ⟨sequence, found, (List.prefix_append _ _).isInfix⟩ free

/-- Stripping keeps the characters that belong to no sequence of the text, all of them and in order,
and nothing else. What it gives holds a sequence exactly if in the text an escape character opens
none but opens one when what follows is stripped; and exactly then stripping again changes it. -/
theorem strip_removes (text : String) :
    (∃ places, Outside text.toList places ∧
        (strip text).toList = places.filterMap (text.toList[·]?)) ∧
      (Holds (strip text).toList ↔ Joins text.toList) ∧
      (strip (strip text) = strip text ↔ ¬ Joins text.toList) := by
  refine ⟨?_, ?_, ?_⟩
  · rw [toList_strip]
    exact stripChars_outside text.toList
  · rw [toList_strip]
    exact holds_stripChars
  · rw [← String.toList_inj, toList_strip, stripChars_eq_self, toList_strip, holds_stripChars]

def nested : String := "\x1b\x1b[0m[31mx"

theorem strip_nested : Holds (strip nested).toList ∧ strip (strip nested) ≠ strip nested := by
  have once : strip nested = "\x1b[31mx" := by decide +kernel
  have twice : strip "\x1b[31mx" = "x" := by decide +kernel
  have numbers : ∀ c ∈ ['3', '1'], isParameter c = true :=
    List.forall_mem_cons.mpr ⟨rfl, List.forall_mem_singleton.mpr rfl⟩
  have outer : Sequence "\x1b[31m".toList :=
    @Sequence.control ['3', '1'] [] 'm' numbers (List.forall_mem_nil _) rfl
  rw [once, twice]
  exact ⟨⟨_, outer, [], ['x'], rfl⟩, by decide⟩

end ParseFailure.Terminal
