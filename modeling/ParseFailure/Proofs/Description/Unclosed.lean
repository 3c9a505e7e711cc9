import ParseFailure.Proofs.Description.Faults
import ParseFailure.Proofs.Names
import ParseFailure.Text.Lines

/-!
The constructs that an unexpected end leaves open: those whose closer would have been accepted, each
once, in the order in which the closers are listed. No name of a construct holds a space, so the
description names them in a way that can be read back.
-/

namespace ParseFailure

namespace Kind

variable {kind : Kind} {name : String}

/-- The names of the constructs that a kind closes, of which a kind that is no code has none. -/
def closedNames : Kind → List String
  | .number code => ((Category.ofCode? code).map Category.closes).getD []
  | _ => []

theorem closes_keyed (keyed : kind.isList = false) : kind.closes = .ok kind.closedNames := by
  cases kind with
  | number code =>
    simp only [closes, category?, closedNames, bind, Except.bind]
    cases Category.ofCode? code <;> rfl
  | absent | text => rfl
  | numbers codes => contradiction

theorem mem_closedNames :
    name ∈ kind.closedNames ↔ ∃ category, kind = .ofCategory category ∧ name ∈ category.closes := by
  constructor
  · intro member
    cases kind with
    | number code =>
      simp only [closedNames] at member
      cases found : Category.ofCode? code with
      | none => simp [found] at member
      | some category =>
        rw [Category.ofCode?_eq_some.mp found]
        exact ⟨category, rfl, by simpa [found] using member⟩
    | absent | text | numbers => contradiction
  · rintro ⟨category, rfl, member⟩
    have found : Category.ofCode? category.code = some category := Category.ofCode?_eq_some.mpr rfl
    simpa only [closedNames, ofCategory, found, Option.map_some, Option.getD_some] using member

end Kind

namespace Description

variable {name : String} {first second : List String} {sequences : List (List Kind)}

theorem mem_firstSeen {names : List String} : name ∈ firstSeen names ↔ name ∈ names := by
  induction names with
  | nil => exact Iff.rfl
  | cons other rest ih =>
    by_cases same : name = other
    · simp [firstSeen, same]
    · simp [firstSeen, same, ih]

theorem nodup_firstSeen (names : List String) : (firstSeen names).Nodup := by
  induction names with
  | nil => exact .nil
  | cons name rest ih =>
    rw [firstSeen, List.nodup_cons]
    exact ⟨by simp, ih.filter _⟩

/-- Of two names the one that is mentioned first comes first. -/
theorem firstSeen_order (names : List String) :
    (firstSeen names).Pairwise fun name other => names.idxOf name < names.idxOf other := by
  induction names with
  | nil => exact .nil
  | cons name rest ih =>
    have behind : ∀ other ∈ (firstSeen rest).filter (fun other => other != name), name ≠ other := by
      intro other member
      have apart : (other != name) = true := (List.mem_filter.mp member).2
      exact (bne_iff_ne.mp apart).symm
    rw [firstSeen, List.pairwise_cons]
    refine ⟨fun other member => ?_, ?_⟩
    · rw [List.idxOf_cons_self, List.idxOf_cons_ne _ (behind other member)]
      exact Nat.succ_pos _
    · refine (ih.filter _).imp_of_mem fun one two less => ?_
      rw [List.idxOf_cons_ne _ (behind _ one), List.idxOf_cons_ne _ (behind _ two)]
      exact Nat.succ_lt_succ less

theorem firstSeen_append (first second : List String) :
    firstSeen (first ++ second) =
      firstSeen first ++ (firstSeen second).filter fun name => name ∉ firstSeen first := by
  induction first with
  | nil => simp [firstSeen]
  | cons name rest ih =>
    rw [List.cons_append, firstSeen, ih, List.filter_append, List.filter_filter, firstSeen,
      List.cons_append]
    refine congrArg _ (congrArg _ (List.filter_congr fun other _ => ?_))
    by_cases same : other = name
    · simp [same]
    · simp [same]

/-- The names of all constructs that sequences of kinds close, in reading order. -/
def mentioned (sequences : List (List Kind)) : List String :=
  sequences.flatten.flatMap Kind.closedNames

theorem mem_mentioned : name ∈ mentioned sequences ↔
    ∃ kinds ∈ sequences, ∃ category, .ofCategory category ∈ kinds ∧ name ∈ category.closes := by
  simp only [mentioned, List.mem_flatMap, List.mem_flatten, Kind.mem_closedNames]
  constructor
  · rintro ⟨kind, ⟨kinds, listed, member⟩, category, rfl, named⟩
    exact ⟨kinds, listed, category, member, named⟩
  · rintro ⟨kinds, listed, category, member, named⟩
    exact ⟨_, ⟨kinds, listed, member⟩, category, rfl, named⟩

theorem closedBy_keyed {kinds : List Kind} (keyed : ∀ kind ∈ kinds, kind.isList = false) :
    closedBy kinds = .ok (kinds.flatMap Kind.closedNames) := by
  induction kinds with
  | nil => rfl
  | cons kind rest ih =>
    obtain ⟨here, later⟩ := List.forall_mem_cons.mp keyed
    rw [closedBy, Kind.closes_keyed here, ih later]
    rfl

theorem unclosed_keyed (keyed : ¬ ListExpected sequences) :
    unclosed (.ofSequences sequences) = .ok (firstSeen (mentioned sequences)) := by
  have closed : closedByAny (sequences.map Alternative.sequence) = .ok (mentioned sequences) := by
    induction sequences with
    | nil => rfl
    | cons kinds rest ih =>
      have here : ∀ kind ∈ kinds, kind.isList = false := by
        intro kind member
        by_contra list
        exact keyed ⟨kinds, List.mem_cons_self, kind, member, by simpa using list⟩
      have later : ¬ ListExpected rest := by
        rintro ⟨others, listed, found⟩
        exact keyed ⟨others, List.mem_cons_of_mem _ listed, found⟩
      have both : mentioned (kinds :: rest) = kinds.flatMap Kind.closedNames ++ mentioned rest :=
        List.flatMap_append
      rw [List.map_cons, closedByAny, ih later, both, Alternative.kinds]
      simp only [bind, Except.bind, closedBy_keyed here]
  simp only [unclosed, Expected.ofSequences, Expected.alternatives, closed, bind, Except.bind]

def splitOr : List Char → List (List Char)
  | [] => [[]]
  | ' ' :: 'o' :: 'r' :: ' ' :: rest => [] :: splitOr rest
  | c :: rest => Text.extendFirst c (splitOr rest)

/-- A word goes to the first part of what is split behind it. -/
theorem splitOr_word {word : List Char} (whole : ' ' ∉ word) {text first : List Char}
    {others : List (List Char)} (split : splitOr text = first :: others) :
    splitOr (word ++ text) = (word ++ first) :: others := by
  induction word with
  | nil => exact split
  | cons c word ih =>
    have other : ∀ rest, c = ' ' → word ++ text = 'o' :: 'r' :: ' ' :: rest → False :=
      fun _ blank _ => whole (blank ▸ List.mem_cons_self)
    rw [List.cons_append, splitOr.eq_3 c _ other, ih (List.not_mem_of_not_mem_cons whole)]
    rfl

/-- Words that are joined by ` or ` are the parts of what is joined. -/
theorem splitOr_joinOr {name : String} {rest : List String}
    (words : ∀ word ∈ name :: rest, ' ' ∉ word.toList) :
    splitOr (joinOr (name :: rest)).toList = (name :: rest).map String.toList := by
  induction rest generalizing name with
  | nil =>
    have nothing : splitOr [] = [[]] := rfl
    have one := splitOr_word (words name List.mem_cons_self) nothing
    rwa [List.append_nil] at one
  | cons next rest ih =>
    obtain ⟨here, later⟩ := List.forall_mem_cons.mp words
    have joined : (joinOr (name :: next :: rest)).toList =
        name.toList ++ ' ' :: 'o' :: 'r' :: ' ' :: (joinOr (next :: rest)).toList := by
      simp only [joinOr, Text.joinWith_cons_cons, String.toList_append, List.append_assoc]
      rfl
    have split : splitOr (' ' :: 'o' :: 'r' :: ' ' :: (joinOr (next :: rest)).toList) =
        [] :: splitOr (joinOr (next :: rest)).toList := rfl
    rw [joined, splitOr_word here split, ih later, List.append_nil]
    rfl

/-- No name of a construct holds a space. -/
theorem closes_words : ∀ category ∈ Category.all, ∀ name ∈ category.closes, ' ' ∉ name.toList := by
  decide +kernel

def unclosedOpening : String := "Unexpected end of file reached. You have an unclosed "

/-- Reads the names off a description: what stands between its opening and its period, split at each
` or `. -/
def readUnclosed (text : List Char) : Option (List (List Char)) := do
  let behind ← text.dropPrefix? unclosedOpening.toList
  let inside ← behind.dropSuffix? ['.']
  some (splitOr inside)

theorem endingWith_cons (name : String) (rest : List String) :
    (endingWith (name :: rest)).toList =
      unclosedOpening.toList ++ ((joinOr (name :: rest)).toList ++ ['.']) := by
  have opening : (endReached ++ " You have an unclosed ").toList = unclosedOpening.toList := by
    decide +kernel
  rw [endingWith, String.toList_append, String.toList_append, opening, List.append_assoc]
  · rfl
  · nofun

theorem readUnclosed_endingWith {name : String} {rest : List String}
    (words : ∀ word ∈ name :: rest, ' ' ∉ word.toList) :
    readUnclosed (endingWith (name :: rest)).toList = some ((name :: rest).map String.toList) := by
  have period : ((joinOr (name :: rest)).toList ++ ['.']).dropSuffix? ['.'] =
      some (joinOr (name :: rest)).toList :=
    List.dropSuffix?_eq_some_iff.mpr ⟨['.'], rfl, beq_self_eq_true _⟩
  rw [endingWith_cons, readUnclosed, Text.dropPrefix?_append, Option.bind_eq_bind, Option.bind_some,
    period, Option.bind_some, splitOr_joinOr words]

theorem endingWith_eq_endReached {names : List String} :
    endingWith names = endReached ↔ names = [] := by
  cases names with
  | nil => simp [endingWith]
  | cons name rest =>
    have longer : endReached.toList.length < unclosedOpening.toList.length := by decide +kernel
    simp only [← String.toList_inj, endingWith_cons, reduceCtorEq, iff_false]
    intro same
    have size := congrArg List.length same
    rw [List.length_append] at size
    omega

/-- The constructs that are named as unclosed, for sequences of which no kind is a list: each once,
those with an accepted closer and no other, in the order of their first mention; more sequences add
their names behind. The description is the bare one if there is none, and otherwise gives them back.
-/
theorem unclosed_names (keyed : ¬ ListExpected sequences) :
    ∃ names, unclosed (.ofSequences sequences) = .ok names ∧ names.Nodup ∧
      (∀ name, name ∈ names ↔
        ∃ kinds ∈ sequences, ∃ category, .ofCategory category ∈ kinds ∧ name ∈ category.closes) ∧
      ((∃ kinds ∈ sequences, .ofCategory .closeMacro ∈ kinds) →
        "#macro" ∈ names ∧ "#function" ∈ names) ∧
      (names.Pairwise fun name other =>
        (mentioned sequences).idxOf name < (mentioned sequences).idxOf other) ∧
      (∀ more, ¬ ListExpected more → ∃ others, unclosed (.ofSequences more) = .ok others ∧
        unclosed (.ofSequences (sequences ++ more)) =
          .ok (names ++ others.filter fun name => name ∉ names)) ∧
      ∃ text, endOfInput (.ofSequences sequences) = .ok text ∧
        (text = "Unexpected end of file reached." ↔ names = []) ∧
        (names ≠ [] → readUnclosed text.toList = some (names.map String.toList)) := by
  have found := unclosed_keyed keyed
  have members : ∀ name, name ∈ firstSeen (mentioned sequences) ↔
      ∃ kinds ∈ sequences, ∃ category, .ofCategory category ∈ kinds ∧ name ∈ category.closes :=
    fun name => mem_firstSeen.trans mem_mentioned
  refine ⟨_, found, nodup_firstSeen _, members, ?_, firstSeen_order _, fun more keyedMore => ?_, ?_⟩
  · rintro ⟨kinds, listed, closer⟩
    have named : ∀ name ∈ Category.closeMacro.closes, name ∈ firstSeen (mentioned sequences) :=
      fun name member => (members name).mpr ⟨kinds, listed, _, closer, member⟩
    exact ⟨named _ (by decide), named _ (by decide)⟩
  · have both : ¬ ListExpected (sequences ++ more) := by
      rintro ⟨kinds, listed, list⟩
      rcases List.mem_append.mp listed with first | second
      · exact keyed ⟨kinds, first, list⟩
      · exact keyedMore ⟨kinds, second, list⟩
    have joined : mentioned (sequences ++ more) = mentioned sequences ++ mentioned more := by
      simp only [mentioned, List.flatten_append, List.flatMap_append]
    refine ⟨_, unclosed_keyed keyedMore, ?_⟩
    rw [unclosed_keyed both, joined, firstSeen_append]
  · have described : endOfInput (.ofSequences sequences) =
        .ok (endingWith (firstSeen (mentioned sequences))) := by
      rw [endOfInput, found]
      rfl
    have words : ∀ name ∈ firstSeen (mentioned sequences), ' ' ∉ name.toList := by
      intro name member
      obtain ⟨-, -, category, -, named⟩ := (members name).mp member
      exact closes_words category (Category.mem_all category) name named
    refine ⟨_, described, endingWith_eq_endReached, fun some => ?_⟩
    obtain ⟨name, rest, listed⟩ := List.exists_cons_of_ne_nil some
    rw [listed] at words ⊢
    exact readUnclosed_endingWith words

def repeatedClosers : List (List Kind) :=
  [[.text "30", .ofCategory .closeMacro], [],
    [.absent, .ofCategory .closeFunction, .ofCategory .closeList, .number 30],
    [.ofCategory .closeMacro]]

theorem unclosed_names_repeatedClosers : ¬ ListExpected repeatedClosers ∧
    ∃ names text, unclosed (.ofSequences repeatedClosers) = .ok names ∧ names.Nodup ∧
      ("#macro" ∈ names ∧ "#function" ∈ names) ∧
      endOfInput (.ofSequences repeatedClosers) = .ok text ∧
      readUnclosed text.toList = some (names.map String.toList) := by
  have keyed : ¬ ListExpected repeatedClosers := by
    unfold ListExpected
    decide
  obtain ⟨names, found, each, -, closers, -, -, text, described, -, read⟩ := unclosed_names keyed
  have both := closers ⟨_, List.mem_cons_self, by decide⟩
  exact ⟨keyed, names, text, found, each, both, described, read (List.ne_nil_of_mem both.1)⟩

end Description

end ParseFailure
