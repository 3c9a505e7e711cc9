import ParseFailure.Proofs.Description.Lexed
import ParseFailure.Proofs.Names
import ParseFailure.Proofs.Text.Enclosed

/-!
Generic descriptions taken apart again. Under the standard names, with a line for each sequence, the
run of a description ends at the first quote without a backslash, the words behind it tell a single
sequence from none and from several, and each line is read as the codes that it displays.
-/

namespace ParseFailure.Description

open Text NameTable

variable {limits : Limits} {chain first second : Chain} {run : String}

theorem escaped_enclosable {image : Image} {text : String} (escaped : image.escaped = .ok text) :
    Enclosable text.toList := by
  cases image with
  | text written =>
    obtain rfl := Except.ok.inj escaped
    exact escape_enclosable written
  | absent =>
    obtain rfl := Except.ok.inj escaped
    exact .nil
  | number n =>
    rw [Image.escaped] at escaped
    split at escaped
    · obtain rfl := Except.ok.inj escaped
      exact .nil
    · contradiction

theorem endOfInput_enclosable : Enclosable (standard.nameInFull Kind.endOfInput).toList :=
  .of_not_mem (by decide) (by decide)

theorem runFrom_enclosable {window : Nat} {position : Option Nat} {parts : List String}
    (listed : runFrom limits chain standard window position = .ok parts) :
    ∀ part ∈ parts, Enclosable part.toList := by
  induction window generalizing position parts with
  | zero =>
    obtain rfl := Except.ok.inj listed
    simp
  | succ window ih =>
    cases position with
    | none =>
      obtain rfl := Except.ok.inj listed
      simp
    | some i =>
      rw [runFrom] at listed
      split at listed
      · obtain rfl := Except.ok.inj listed
        simp
      · split at listed
        · rw [name_endOfInput] at listed
          obtain rfl := Except.ok.inj listed
          simpa using endOfInput_enclosable
        · obtain ⟨text, escaped, listed⟩ := bind_ok listed
          obtain ⟨others, further, listed⟩ := bind_ok listed
          obtain rfl := Except.ok.inj listed
          exact List.forall_mem_cons.mpr ⟨escaped_enclosable escaped, ih further⟩

/-- A run has no quote of its own. -/
theorem encountered_enclosable {window : Int}
    (found : encountered limits chain standard window = .ok run) : Enclosable run.toList := by
  obtain ⟨parts, listed, joined⟩ := bind_ok found
  obtain rfl := Except.ok.inj joined
  exact joinWith_enclosable (.of_not_mem (by decide) (by decide)) (runFrom_enclosable listed)

def codesLine (codes : List Int) : String := lineInFull standard (codes.map Kind.number)

def readLine (line : List Char) : Option (List Int) := do
  let row ← line.dropPrefix? "    ".toList
  if row = [] then some [] else readWords (row.splitOn ' ')

theorem toList_codesLine (codes : List Int) :
    (codesLine codes).toList =
      "    ".toList ++
        (joinWith " " (codes.map fun code => standard.nameInFull (.number code))).toList := by
  rw [codesLine, lineInFull, String.toList_append, List.map_map]
  rfl

theorem readLine_codesLine (codes : List Int) :
    readLine (codesLine codes).toList = some codes := by
  rw [toList_codesLine, readLine, dropPrefix?_append, Option.bind_eq_bind, Option.bind_some]
  cases codes with
  | nil => rfl
  | cons code rest =>
    simp only [List.map_cons]
    rw [if_neg, splitOn_joinWith rfl]
    · simp only [List.flatMap_cons, List.flatMap_map]
      exact readWords_names (code :: rest)
    · intro empty
      have starts := joinWith_head " " (standard.nameInFull (.number code))
        (rest.map fun code => standard.nameInFull (.number code))
      rw [empty] at starts
      exact (standard_name_line code).1 (List.prefix_nil.mp starts)

theorem codesLine_line (codes : List Int) : '\n' ∉ (codesLine codes).toList := by
  rw [toList_codesLine, List.mem_append]
  rintro (inside | inside)
  · exact absurd inside (by decide)
  · revert inside
    refine @joinWith_holds (fun text => '\n' ∉ text) List.not_mem_nil ?_ _ _ (by decide) ?_
    · intro _ _ first second inside
      exact (List.mem_append.mp inside).elim first second
    · intro name member
      obtain ⟨code, -, rfl⟩ := List.mem_map.mp member
      exact (standard_name_line code).2

/-- Reads the lines of sequences. Without any text there is no sequence. -/
def readLines (text : List Char) : Option (List (List Int)) :=
  if text = [] then some [] else (text.splitOn '\n').mapM readLine

theorem mapM_readLine (codes : List (List Int)) :
    ((codes.map codesLine).flatMap fun line => line.toList.splitOn '\n').mapM readLine =
      some codes := by
  induction codes with
  | nil => rfl
  | cons line rest ih =>
    rw [List.map_cons, List.flatMap_cons, List.splitOn_eq_singleton (codesLine_line line),
      List.singleton_append, List.mapM_cons, readLine_codesLine, ih]
    rfl

theorem linesInFull_ofCodes (codes : List (List Int)) :
    linesInFull standard "\n" (ofCodes codes) = joinWith "\n" (codes.map codesLine) := by
  rw [linesInFull, ofCodes, List.map_map]
  rfl

/-- The lines of sequences are read back, one by one and in order. -/
theorem readLines_linesInFull (codes : List (List Int)) :
    readLines (linesInFull standard "\n" (ofCodes codes)).toList = some codes := by
  rw [linesInFull_ofCodes]
  cases codes with
  | nil => rfl
  | cons line rest =>
    rw [readLines, List.map_cons, if_neg, splitOn_joinWith rfl, ← List.map_cons, mapM_readLine]
    intro empty
    have starts := joinWith_head "\n" (codesLine line) (rest.map codesLine)
    rw [empty, List.prefix_nil, toList_codesLine] at starts
    exact absurd starts (List.append_ne_nil_of_left_ne_nil (by decide) _)

def readExpecting (text : List Char) : Option (Bool × List Char) :=
  match text.dropPrefix? "was expecting:\n".toList with
  | some rest => some (true, rest)
  | none => (text.dropPrefix? "was expecting one of:\n".toList).map fun rest => (false, rest)

/-- Reads a generic description: its run, whether it announces a single sequence, and the codes of
the sequences. -/
def readGeneric (text : List Char) : Option (List Char × Bool × List (List Int)) := do
  let text ← text.dropPrefix? "Encountered \"".toList
  let (run, text) ← readEnclosed text
  let text ← text.dropPrefix? ", but ".toList
  let (single, text) ← readExpecting text
  let codes ← readLines text
  some (run, single, codes)

theorem readExpecting_expecting (codes : List (List Int)) (rest : List Char) :
    readExpecting ((expecting (ofCodes codes)).toList ++ ("\n".toList ++ rest)) =
      some (codes.length == 1, rest) := by
  have one : "was expecting:\n".toList = "was expecting:".toList ++ "\n".toList := rfl
  have several : "was expecting one of:\n".toList =
      "was expecting one of:".toList ++ "\n".toList := rfl
  have other : ("was expecting one of:\n".toList ++ rest).dropPrefix? "was expecting:\n".toList =
      none := rfl
  match codes with
  | [_] =>
    change readExpecting ("was expecting:".toList ++ ("\n".toList ++ rest)) = _
    rw [← List.append_assoc, ← one, readExpecting, dropPrefix?_append]
    rfl
  | [] | _ :: _ :: _ =>
    change readExpecting ("was expecting one of:".toList ++ ("\n".toList ++ rest)) = _
    rw [← List.append_assoc, ← several, readExpecting, other, dropPrefix?_append]
    rfl

theorem toList_genericInFull (run : String) (sequences : List (List Kind)) :
    (genericInFull run standard "\n" sequences).toList =
      "Encountered \"".toList ++ (run.toList ++ '\x22' :: (", but ".toList ++
        ((expecting sequences).toList ++ ("\n".toList ++
          (linesInFull standard "\n" sequences).toList)))) := by
  have closing : "\", but ".toList = '\x22' :: ", but ".toList := rfl
  unfold genericInFull genericText
  simp only [String.toList_append, List.append_assoc, closing, List.cons_append]

theorem readGeneric_genericInFull (enclosable : Enclosable run.toList) (codes : List (List Int)) :
    readGeneric (genericInFull run standard "\n" (ofCodes codes)).toList =
      some (run.toList, codes.length == 1, codes) := by
  simp only [toList_genericInFull, readGeneric, dropPrefix?_append, enclosable.read,
    readExpecting_expecting, readLines_linesInFull, Option.bind_eq_bind, Option.bind_some]

/-- A generic description is made exactly where a process can write what was expected. It is read
back with its run, with whether it announces a single sequence, and with all sequences; so two of
them are the same text only for the same run and the same sequences. -/
theorem generic_decodable (limits : Limits) (lexed : first.Lexed) (others : second.Lexed)
    (codes otherCodes : List (List Int)) :
    (∃ run, encountered limits first standard (longest (ofCodes codes)) = .ok run ∧
      generic limits first (.ofSequences (ofCodes codes)) standard "\n" =
        (if Legible limits standard (ofCodes codes) then
          .ok (genericInFull run standard "\n" (ofCodes codes))
        else .error limits.digitFault) ∧
      readGeneric (genericInFull run standard "\n" (ofCodes codes)).toList =
        some (run.toList, codes.length == 1, codes)) ∧
    ∀ text, generic limits first (.ofSequences (ofCodes codes)) standard "\n" = .ok text →
      (generic limits second (.ofSequences (ofCodes otherCodes)) standard "\n" = .ok text ↔
        encountered limits first standard (longest (ofCodes codes)) =
            encountered limits second standard (longest (ofCodes otherCodes)) ∧
          codes = otherCodes) := by
  obtain ⟨run, found⟩ :
      ∃ run, encountered limits first standard (longest (ofCodes codes)) = .ok run :=
    encountered_lexed lexed _
  obtain ⟨other, foundToo⟩ :
      ∃ run, encountered limits second standard (longest (ofCodes otherCodes)) = .ok run :=
    encountered_lexed others _
  have read := readGeneric_genericInFull (encountered_enclosable found) codes
  have readToo := readGeneric_genericInFull (encountered_enclosable foundToo) otherCodes
  refine ⟨⟨run, found, generic_of_run found "\n", read⟩, fun text made => ?_⟩
  rw [generic_of_run found] at made
  rw [generic_of_run foundToo, found, foundToo]
  split at made
  · next legible =>
    obtain rfl := Except.ok.inj made
    constructor
    · intro same
      split at same
      · rw [← Except.ok.inj same, readToo] at read
        simp only [Option.some.injEq, Prod.mk.injEq, String.toList_inj] at read
        obtain ⟨rfl, -, rfl⟩ := read
        exact ⟨rfl, rfl⟩
      · contradiction
    · rintro ⟨same, rfl⟩
      rw [if_pos legible, Except.ok.inj same]
  · contradiction

/-- Tokens in a circle, one of them with a text that reads like the words behind a run. -/
def circlingWords : Chain :=
  Chain.ofTokens ⟨.ofCategory .staticText, .text "x", ⟨1, 1, 1, 1⟩⟩
    [⟨.number 19, .text "\", but was expecting:\n", ⟨1, 2, 1, 24⟩⟩] (some 0)

theorem generic_decodable_circlingWords :
    circlingWords.Lexed ∧
      ∃ run text, generic (.usual 80 1000) circlingWords (.ofSequences (ofCodes [[19, -1], []]))
          standard "\n" = .ok text ∧
        readGeneric text.toList = some (run, false, [[19, -1], []]) ∧
        generic (.usual 80 1000) circlingWords (.ofSequences (ofCodes [[19], [-1]])) standard
          "\n" ≠ .ok text := by
  have lexed : circlingWords.Lexed := by
    refine Chain.ofTokens_lexed (List.forall_mem_cons.mpr ⟨?_, List.forall_mem_singleton.mpr ?_⟩) _
    all_goals exact ⟨_, _, rfl, rfl⟩
  obtain ⟨⟨run, -, described, read⟩, apart⟩ :=
    generic_decodable (.usual 80 1000) lexed lexed [[19, -1], []] [[19], [-1]]
  have legible : Legible (.usual 80 1000) standard (ofCodes [[19, -1], []]) := by decide +kernel
  rw [if_pos legible] at described
  refine ⟨lexed, run.toList, _, described, read, fun same => ?_⟩
  exact absurd ((apart _ described).mp same).2 (by decide)

end ParseFailure.Description
