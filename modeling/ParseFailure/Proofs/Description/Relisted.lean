import Mathlib.Data.List.OfFn
import Mathlib.Data.List.Perm.Basic
import Mathlib.Logic.Equiv.Defs
import ParseFailure.Proofs.Description.Lexed
import ParseFailure.Proofs.Description.Unclosed

/-!
The same expectations listed in another way. A generic description takes from the list the length of
its longest sequence, whether there is a single one, and a line for each; another order moves the
lines and changes nothing else. The description of an unexpected end collects the constructs that
the codes close, so for it neither the order of the sequences counts nor that of the codes in them,
nor how often a sequence is listed.
-/

namespace ParseFailure

variable {codes others : List (List Int)}

/-- Two lists of sequences for the same expectations: in another order, with codes in other places
of their sequences, or with sequences listed again. -/
inductive Relisted : List (List Int) → List (List Int) → Prop where
  | reordered {codes others : List (List Int)} (perm : others.Perm codes) : Relisted codes others
  | within {codes others : List (List Int)} (perms : List.Forall₂ List.Perm codes others) :
      Relisted codes others
  | repeated {codes : List (List Int)} {sequence : List Int} (listed : sequence ∈ codes) :
      Relisted codes (sequence :: codes)
  | symm {codes others : List (List Int)} (back : Relisted others codes) : Relisted codes others
  | trans {first second third : List (List Int)} (one : Relisted first second)
      (two : Relisted second third) : Relisted first third

theorem Relisted.mem_flatten (relisted : Relisted codes others) (code : Int) :
    code ∈ others.flatten ↔ code ∈ codes.flatten := by
  induction relisted with
  | reordered perm => exact perm.flatten.mem_iff
  | within perms =>
    induction perms with
    | nil => exact Iff.rfl
    | cons perm _ ih =>
      rw [List.flatten_cons, List.flatten_cons, List.mem_append, List.mem_append, perm.mem_iff, ih]
  | repeated listed =>
    rw [List.flatten_cons, List.mem_append, or_iff_right_iff_imp]
    exact List.mem_flatten_of_mem listed
  | symm _ ih => exact ih.symm
  | trans _ _ one two => exact two.trans one

namespace Description

variable {chain : Chain} {names : NameTable} {first second : List String}
  {sequences : List (List Kind)}

theorem mem_mentioned_codes {name : String} : name ∈ mentioned (ofCodes codes) ↔
    ∃ code ∈ codes.flatten, name ∈ Kind.closedNames (.number code) := by
  rw [mentioned, ofCodes, ← List.map_flatten, List.flatMap_map, List.mem_flatMap]

theorem firstSeen_perm (same : ∀ name, name ∈ second ↔ name ∈ first) :
    (firstSeen second).Perm (firstSeen first) := by
  apply (List.perm_ext_iff_of_nodup (nodup_firstSeen second) (nodup_firstSeen first)).mpr
  intro name
  rw [mem_firstSeen, mem_firstSeen, same]

def namedIn (description : String) : List (List Char) :=
  (readUnclosed description.toList).getD []

theorem namedIn_endingWith {names : List String} (words : ∀ name ∈ names, ' ' ∉ name.toList) :
    namedIn (endingWith names) = names.map String.toList := by
  cases names with
  | nil =>
    have nothing : readUnclosed endReached.toList = none := by decide +kernel
    rw [endingWith, namedIn, nothing]
    rfl
  | cons name rest => rw [namedIn, readUnclosed_endingWith words, Option.getD_some]

theorem firstSeen_words : ∀ name ∈ firstSeen (mentioned sequences), ' ' ∉ name.toList := by
  intro name member
  obtain ⟨-, -, category, -, named⟩ := mem_mentioned.mp (mem_firstSeen.mp member)
  exact closes_words category (Category.mem_all category) name named

/-- Two descriptions of an unexpected end that name the same constructs, each of them once. -/
def NamesAlike (codes others : List (List Int)) (description other : String) : Prop :=
  ∃ opened otherOpened,
    unclosed (.ofSequences (ofCodes codes)) = .ok opened ∧
    unclosed (.ofSequences (ofCodes others)) = .ok otherOpened ∧
    description = endingWith opened ∧ other = endingWith otherOpened ∧
    opened.Nodup ∧ otherOpened.Nodup ∧ otherOpened.Perm opened ∧
    namedIn description = opened.map String.toList ∧
    namedIn other = otherOpened.map String.toList

theorem endOfInput_relisted (relisted : Relisted codes others) :
    ∃ description other, endOfInput (.ofSequences (ofCodes codes)) = .ok description ∧
      endOfInput (.ofSequences (ofCodes others)) = .ok other ∧
      NamesAlike codes others description other := by
  have described : ∀ codes, endOfInput (.ofSequences (ofCodes codes)) =
      .ok (endingWith (firstSeen (mentioned (ofCodes codes)))) := by
    intro codes
    rw [endOfInput, unclosed_keyed (not_listExpected codes)]
    rfl
  have same : ∀ name, name ∈ mentioned (ofCodes others) ↔ name ∈ mentioned (ofCodes codes) := by
    intro name
    simp only [mem_mentioned_codes, relisted.mem_flatten]
  refine ⟨_, _, described codes, described others, _, _, unclosed_keyed (not_listExpected codes),
    unclosed_keyed (not_listExpected others), rfl, rfl, nodup_firstSeen _, nodup_firstSeen _,
    firstSeen_perm same, namedIn_endingWith firstSeen_words, namedIn_endingWith firstSeen_words⟩

theorem longest_perm {moved : List (List Kind)} (perm : moved.Perm sequences) :
    longest moved = longest sequences := by
  induction perm with
  | nil => rfl
  | cons kinds _ ih => rw [longest, longest, ih]
  | swap one two rest =>
    simp only [longest]
    omega
  | trans _ _ one two => exact one.trans two

theorem expecting_length {moved : List (List Kind)} (size : moved.length = sequences.length) :
    expecting moved = expecting sequences := by
  match sequences, moved with
  | [], [] | [_], [_] | _ :: _ :: _, _ :: _ :: _ => rfl

/-- Where each sequence of a list has been taken from, when two lists differ in their order. -/
def Placed (codes others : List (List Int)) (order : Fin others.length ≃ Fin codes.length) : Prop :=
  ∀ i, others[i] = codes[order i]

theorem exists_placed (perm : others.Perm codes) : ∃ order, Placed codes others order := by
  refine ⟨⟨perm.idxBij, perm.symm.idxBij, ?_, ?_⟩, fun i => ?_⟩
  · exact perm.idxBij_symm_leftInverse_idxBij
  · exact perm.idxBij_symm_rightInverse_idxBij
  · exact (perm.getElem_idxBij_eq_getElem i).symm

def sequenceLine (names : NameTable) (codes : List (List Int)) (i : Fin codes.length) : String :=
  lineInFull names (codes[i].map Kind.number)

theorem linesInFull_ofFn (terminator : String) :
    linesInFull names terminator (ofCodes codes) =
      Text.joinWith terminator (List.ofFn (sequenceLine names codes)) := by
  have lines : List.ofFn (sequenceLine names codes) = codes.map _ :=
    List.ofFn_getElem_eq_map codes fun sequence => lineInFull names (sequence.map .number)
  rw [linesInFull, ofCodes, List.map_map, lines]
  rfl

/-- The lines of sequences in another order are the same lines, moved as the sequences are. -/
theorem Placed.line {order : Fin others.length ≃ Fin codes.length}
    (placed : Placed codes others order) (i : Fin others.length) :
    sequenceLine names others i = sequenceLine names codes (order i) := by
  rw [sequenceLine, sequenceLine, placed i]

/-- Two generic descriptions of one chain that differ in the order of their lines: the run and the
words in front of the lines are the same, and the lines of one are those of the other, each at the
place to which its sequence has moved. -/
def LinesMoved (limits : Limits) (chain : Chain) (names : NameTable) (terminator : String)
    (codes others : List (List Int)) (description other : String) : Prop :=
  ∃ run,
    encountered limits chain names (longest (ofCodes codes)) = .ok run ∧
    encountered limits chain names (longest (ofCodes others)) = .ok run ∧
    expecting (ofCodes others) = expecting (ofCodes codes) ∧
    description =
      "Encountered \"" ++ run ++ "\", but " ++ expecting (ofCodes codes) ++ terminator ++
        Text.joinWith terminator (List.ofFn (sequenceLine names codes)) ∧
    (∃ order, Placed codes others order) ∧
    ∀ order, Placed codes others order →
      other =
        "Encountered \"" ++ run ++ "\", but " ++ expecting (ofCodes codes) ++ terminator ++
          Text.joinWith terminator (List.ofFn fun i => sequenceLine names codes (order i))

/-- In whatever order sequences come, a process can display the same kinds of them. -/
theorem legible_perm {limits : Limits} {moved : List (List Kind)} (perm : moved.Perm sequences) :
    Legible limits names moved ↔ Legible limits names sequences :=
  forall_congr' fun _ => imp_congr perm.mem_iff Iff.rfl

/-- Where the kinds cannot all be displayed, neither order has a generic description. -/
theorem generic_reordered (limits : Limits) (worded : chain.Worded) (perm : others.Perm codes)
    (names : NameTable) (terminator : String) :
    if Legible limits names (ofCodes codes) then
      ∃ description other,
        generic limits chain (.ofSequences (ofCodes codes)) names terminator = .ok description ∧
        generic limits chain (.ofSequences (ofCodes others)) names terminator = .ok other ∧
        LinesMoved limits chain names terminator codes others description other
    else
      generic limits chain (.ofSequences (ofCodes codes)) names terminator =
        .error limits.digitFault ∧
      generic limits chain (.ofSequences (ofCodes others)) names terminator =
        .error limits.digitFault := by
  have moved : (ofCodes others).Perm (ofCodes codes) := perm.map _
  obtain ⟨run, found⟩ : ∃ run, encountered limits chain names (longest (ofCodes codes)) = .ok run :=
    encountered_worded worded _
  have foundToo : encountered limits chain names (longest (ofCodes others)) = .ok run := by
    rw [longest_perm moved, found]
  have own := generic_of_run found terminator
  have movedToo := generic_of_run foundToo terminator
  split
  · rename_i legible
    have expected : expecting (ofCodes others) = expecting (ofCodes codes) :=
      expecting_length moved.length_eq
    rw [if_pos legible] at own
    rw [if_pos ((legible_perm moved).mpr legible)] at movedToo
    refine ⟨_, _, own, movedToo, run, found, foundToo, expected, ?_, exists_placed perm,
      fun order placed => ?_⟩
    · unfold genericInFull genericText
      rw [linesInFull_ofFn]
    · have lines : List.ofFn (sequenceLine names others) =
          List.ofFn fun i => sequenceLine names codes (order i) :=
        congrArg List.ofFn (funext placed.line)
      unfold genericInFull genericText
      rw [linesInFull_ofFn, lines, expected]
  · rename_i illegible
    rw [if_neg illegible] at own
    rw [if_neg (mt (legible_perm moved).mp illegible)] at movedToo
    exact ⟨own, movedToo⟩

end Description

end ParseFailure
