import ParseFailure.Proofs.Description.Undescribable
import ParseFailure.Proofs.Location
import ParseFailure.Proofs.Text.Unescape

/-!
Failures as a working lexer and grammar report them: tokens with a code for their kind and a text
for their image, and sequences of codes. Such a failure can be described wherever its codes can be
written, and the code and the description of it are about the same token and the same situation.
-/

namespace ParseFailure

/-- A token with a code and a text. -/
def Token.Lexed (token : Token) : Prop :=
  ∃ code text, token.kind = .number code ∧ token.image = .text text

def Chain.Lexed (chain : Chain) : Prop := ∀ node ∈ chain.nodes, node.token.Lexed

/-- Every token has a text for its image, whatever its kind. -/
def Chain.Worded (chain : Chain) : Prop :=
  ∀ node ∈ chain.nodes, ∃ text, node.token.image = .text text

/-- Sequences of kinds by their codes. -/
def ofCodes (codes : List (List Int)) : List (List Kind) := codes.map (List.map Kind.number)

variable {limits : Limits} {chain : Chain} {names : NameTable} {codes : List (List Int)}
  {token : Token} {sequences : List (List Kind)}

theorem Chain.ofTokens_lexed {first : Token} {rest : List Token}
    (each : ∀ token ∈ first :: rest, token.Lexed) (loop : Option Nat) :
    (Chain.ofTokens first rest loop).Lexed := by
  intro node member
  obtain ⟨⟨token, i⟩, place, rfl⟩ := List.mem_map.mp member
  exact each token (List.fst_mem_of_mem_zipIdx place)

theorem Chain.Lexed.at_position (lexed : chain.Lexed) {i : Nat}
    (here : chain.token? i = some token) :
    token.Lexed := by
  obtain ⟨node, stored, rfl⟩ := Option.map_eq_some_iff.mp here
  exact lexed node (List.mem_of_getElem? stored)

theorem Chain.Lexed.successor (lexed : chain.Lexed) (next : chain.successor = some token) :
    token.Lexed := by
  obtain ⟨i, -, here⟩ := Option.bind_eq_some_iff.mp next
  exact lexed.at_position here

theorem Chain.Lexed.worded (lexed : chain.Lexed) : chain.Worded := by
  intro node member
  obtain ⟨code, text, -, image⟩ := lexed node member
  exact ⟨text, image⟩

theorem Chain.Worded.at_position (worded : chain.Worded) {i : Nat}
    (here : chain.token? i = some token) : ∃ text, token.image = .text text := by
  obtain ⟨node, stored, rfl⟩ := Option.map_eq_some_iff.mp here
  exact worded node (List.mem_of_getElem? stored)

theorem Chain.Worded.not_numberAhead (worded : chain.Worded) (position : Option Nat)
    (window : Nat) : ¬ NumberAhead chain position window := by
  rintro ⟨k, -, token, reached, ⟨n, number, -⟩, -⟩
  obtain ⟨i, -, here⟩ := Option.bind_eq_some_iff.mp reached
  obtain ⟨text, image⟩ := worded.at_position here
  rw [number] at image
  contradiction

theorem not_listExpected (codes : List (List Int)) : ¬ ListExpected (ofCodes codes) := by
  rintro ⟨kinds, expected, kind, inside, list⟩
  obtain ⟨sequence, -, rfl⟩ := List.mem_map.mp expected
  obtain ⟨code, -, rfl⟩ := List.mem_map.mp inside
  contradiction

namespace Description

theorem encountered_worded (worded : chain.Worded) (window : Nat) :
    ∃ run, encountered limits chain names window = .ok run := by
  rw [← not_fails_iff, encountered_fails]
  exact worded.not_numberAhead _ window

theorem encountered_lexed (lexed : chain.Lexed) (window : Nat) :
    ∃ run, encountered limits chain names window = .ok run :=
  encountered_worded lexed.worded window

theorem endOfInput_codes (codes : List (List Int)) :
    ∃ text, endOfInput (.ofSequences (ofCodes codes)) = .ok text := by
  rw [← not_fails_iff, endOfInput_fails]
  exact not_listExpected codes

theorem misplaced_text {text : String} (image : token.image = .text text) :
    misplaced token = .ok (misplacedQuoted (Text.quote text)) := by
  simp [misplaced, Token.quoted, image, Image.quotable, bind, Except.bind]

theorem generic_of_run {run : String}
    (found : encountered limits chain names (longest sequences) = .ok run) (terminator : String) :
    generic limits chain (.ofSequences sequences) names terminator =
      if Legible limits names sequences then .ok (genericInFull run names terminator sequences)
      else .error limits.digitFault := by
  rw [generic_eq, found]
  rfl

/-- Behind the last token of a chain the run is empty. -/
theorem encountered_end (ends : chain.successor = none) (window : Nat) :
    encountered limits chain names window = .ok "" := by
  have parts : runParts limits chain names window = .ok [] := by
    unfold Chain.successor at ends
    cases next : chain.next? 0 with
    | none => cases window <;> simp [runParts, next, runFrom]
    | some i =>
      have nowhere : chain.nodes[i]? = none := by
        simpa [next, Chain.token?] using ends
      cases window <;> simp [runParts, next, runFrom, nowhere]
  simp [encountered, parts, bind, Except.bind]

theorem joinWith_head (separator first : String) (rest : List String) :
    first.toList <+: (Text.joinWith separator (first :: rest)).toList := by
  cases rest with
  | nil => exact List.prefix_rfl
  | cons next rest =>
    rw [Text.joinWith_cons_cons, String.append_assoc, String.toList_append]
    exact List.prefix_append _ _

/-- A run that is not empty begins with the first token that was not accepted. -/
theorem encountered_head {window : Nat} {text run : String}
    (next : chain.successor = some token) (ongoing : token.kind.isEnd = false)
    (image : token.image = .text text) (shown : 0 < window)
    (found : encountered limits chain names window = .ok run) :
    (Text.escape text).toList <+: run.toList := by
  obtain ⟨window, rfl⟩ := Nat.exists_eq_add_one.mpr shown
  obtain ⟨i, first, here⟩ := Option.bind_eq_some_iff.mp next
  obtain ⟨node, stored, rfl⟩ := Option.map_eq_some_iff.mp here
  obtain ⟨parts, listed, joined⟩ := bind_ok found
  obtain rfl := Except.ok.inj joined
  simp only [runParts, Int.toNat_natCast, first, runFrom, stored, ongoing, image, Image.escaped,
    Bool.false_eq_true, if_false] at listed
  obtain ⟨escaped, same, listed⟩ := bind_ok listed
  obtain ⟨others, -, listed⟩ := bind_ok listed
  obtain rfl := Except.ok.inj same
  obtain rfl := Except.ok.inj listed
  exact joinWith_head " " _ others

end Description

open Description

/-- The description that shows a run and what was expected, with the run in quotes behind its first
word; or no description, where a process cannot write what was expected. -/
def ShowsRun (limits : Limits) (sequences : List (List Kind)) (names : NameTable)
    (run description : String) : Prop :=
  if Legible limits names sequences then
    description = genericInFull run names "\n" sequences ∧
      ("Encountered \"" ++ run ++ "\", but was expecting").toList <+: description.toList
  else description = unavailable

/-- What the code and the description of a failure tell, by the first token that was not accepted. A
quoted text and the first text of a run are told by reading them back; in a run, NUL is lost. -/
def Chain.Tells (chain : Chain) (limits : Limits) (sequences : List (List Kind))
    (names : NameTable) (code : ErrorCode) (description : String) : Prop :=
  match chain.successor with
  | none => code = .unexpectedToken ∧ ShowsRun limits sequences names "" description
  | some token =>
    ∃ image, token.image = .text image ∧
      ((code = .unexpectedEnd ∧ token.kind = .endOfInput ∧
          endOfInput (.ofSequences sequences) = .ok description) ∨
        (code = .misplacedDirective ∧ token.kind.IsConditional ∧
          description = misplacedQuoted (Text.quote image) ∧
          readMisplaced description.toList = some image) ∨
        (code = .unexpectedToken ∧ token.kind ≠ .endOfInput ∧ ¬ token.kind.IsConditional ∧
          ∃ run, encountered limits chain names (longest sequences) = .ok run ∧
            ShowsRun limits sequences names run description ∧
            ((∃ kinds ∈ sequences, kinds ≠ []) →
              (Text.escape image).toList <+: run.toList ∧
                Text.unescape (Text.escape image) = some (Text.withoutNul image))))

theorem ShowsRun.shown {run description : String}
    (shows_ : ShowsRun limits sequences names run description)
    (described : description ≠ unavailable) :
    description = genericInFull run names "\n" sequences ∧
      ("Encountered \"" ++ run ++ "\", but was expecting").toList <+: description.toList := by
  unfold ShowsRun at shows_
  split at shows_
  · exact shows_
  · exact absurd shows_ described

/-- The three situations, without what they say of the token. -/
theorem Chain.Tells.cases {code : ErrorCode} {description : String}
    (tells : chain.Tells limits sequences names code description) :
    (code = .unexpectedEnd ∧ endOfInput (.ofSequences sequences) = .ok description) ∨
      (code = .misplacedDirective ∧ ∃ image, description = misplacedQuoted (Text.quote image) ∧
        readMisplaced description.toList = some image) ∨
      (code = .unexpectedToken ∧ ∃ run, ShowsRun limits sequences names run description) := by
  unfold Tells at tells
  split at tells
  · exact .inr (.inr ⟨tells.1, "", tells.2⟩)
  · obtain ⟨image, -, ⟨rfl, -, ended⟩ | ⟨rfl, -, same, read⟩ |
      ⟨rfl, -, -, run, -, shows_, -⟩⟩ := tells
    · exact .inl ⟨rfl, ended⟩
    · exact .inr (.inl ⟨rfl, image, same, read⟩)
    · exact .inr (.inr ⟨rfl, run, shows_⟩)

theorem Failure.describe_of_ok {failure : Failure} {text : String}
    (described : Description.describe limits failure.chain (.ofSequences sequences)
      failure.names = .ok text) : failure.describe limits sequences = text := by
  simp only [Failure.describe, described]

theorem Failure.code_of_situation {situation : Situation}
    (known : chain.situation = .ok situation) (names : NameTable) :
    (Failure.mk chain names).code = .ok (ErrorCode.ofSituation situation) := by
  rw [Failure.code_eq, known]
  rfl

theorem opens_append {words start : String} (opens : words.toList <+: start.toList)
    (rest : String) : words.toList <+: (start ++ rest).toList := by
  rw [String.toList_append]
  exact opens.trans (List.prefix_append _ _)

theorem opens_behind {words text : String} (opens : words.toList <+: text.toList)
    (start : String) : (start ++ words).toList <+: (start ++ text).toList := by
  rw [String.toList_append, String.toList_append]
  exact (List.prefix_append_right_inj _).mpr opens

theorem expecting_opening (sequences : List (List Kind)) :
    "was expecting".toList <+: (expecting sequences).toList := by
  unfold expecting
  split <;> exact ⟨_, rfl⟩

theorem genericInFull_run (run : String) (names : NameTable) (sequences : List (List Kind)) :
    ("Encountered \"" ++ run ++ "\", but was expecting").toList <+:
      (genericInFull run names "\n" sequences).toList := by
  have announced : "\", but was expecting" = "\", but " ++ "was expecting" := by decide
  unfold genericInFull genericText
  rw [announced, ← String.append_assoc]
  exact opens_append (opens_append (opens_behind (expecting_opening sequences) _) _) _

/-- The description of a failure of no special kind shows its run. -/
theorem Failure.describe_unexpected {run : String} (other : chain.situation = .ok .unexpected)
    (found : encountered limits chain names (longest sequences) = .ok run) :
    ShowsRun limits sequences names run ((Failure.mk chain names).describe limits sequences) := by
  have described := (Description.describe_unexpected other).trans (generic_of_run found "\n")
  unfold ShowsRun
  split
  · next legible =>
    rw [if_pos legible] at described
    rw [describe_of_ok described]
    exact ⟨rfl, genericInFull_run run names sequences⟩
  · next illegible =>
    rw [if_neg illegible] at described
    simp only [Failure.describe, described]

/-- The code of evidence and its description follow from the same situation. -/
theorem Failure.tells (limits : Limits) (lexed : chain.Lexed) (names : NameTable)
    (codes : List (List Int)) :
    ∃ code, (Failure.mk chain names).code = .ok code ∧
      chain.Tells limits (ofCodes codes) names code
        ((Failure.mk chain names).describe limits (ofCodes codes)) := by
  obtain ⟨run, found⟩ : ∃ run, encountered limits chain names (longest (ofCodes codes)) = .ok run :=
    encountered_lexed lexed _
  unfold Chain.Tells
  cases next : chain.successor with
  | none =>
    have situation : chain.situation = .ok .unexpected := by simp only [Chain.situation, next]
    cases Except.ok.inj ((encountered_end next _).symm.trans found)
    exact ⟨_, Failure.code_of_situation situation names, rfl, describe_unexpected situation found⟩
  | some token =>
    obtain ⟨kind, image, number, text⟩ := lexed.successor next
    have same := Chain.situation_of_successor next
    have key : token.kind.isList = false := by rw [number]; rfl
    by_cases ends : token.kind = .endOfInput
    · have situation := same.trans (Token.situation_end ends)
      obtain ⟨description, ended⟩ := endOfInput_codes codes
      have described : Description.describe limits chain (.ofSequences (ofCodes codes)) names =
          .ok description :=
        (describe_ended situation).trans ended
      refine ⟨_, Failure.code_of_situation situation names, image, text, .inl ⟨rfl, ends, ?_⟩⟩
      rw [describe_of_ok described, ended]
    · by_cases conditional : token.kind.IsConditional
      · have situation := same.trans (Token.situation_conditional conditional)
        have described : Description.describe limits chain (.ofSequences (ofCodes codes)) names =
            .ok (misplacedQuoted (Text.quote image)) :=
          (describe_misplaced situation).trans (misplaced_text text)
        refine ⟨_, Failure.code_of_situation situation names, image, text,
          .inr (.inl ⟨rfl, conditional, describe_of_ok described, ?_⟩)⟩
        rw [describe_of_ok described, readMisplaced_misplacedQuoted]
      · have situation := same.trans (Token.situation_other ends key conditional)
        refine ⟨_, Failure.code_of_situation situation names, image, text,
          .inr (.inr ⟨rfl, ends, conditional, run, found, describe_unexpected situation found, ?_⟩)⟩
        rintro ⟨kinds, expected, filled⟩
        have shown : 0 < longest (ofCodes codes) :=
          lt_longest.mpr ⟨kinds, expected, List.length_pos_iff.mpr filled⟩
        exact ⟨encountered_head next (by simpa [Kind.isEnd] using ends) text shown found,
          Text.unescape_escape image⟩

/-- The words that the description of a failure with this code opens with. -/
def ErrorCode.opening? : ErrorCode → Option String
  | .unexpectedEnd => some "Unexpected end of file"
  | .misplacedDirective => some "Unexpected directive"
  | .unexpectedToken => some "Encountered"
  | .syntaxError => none

theorem endOfInput_opening {expected : Expected} {text : String}
    (described : endOfInput expected = .ok text) :
    "Unexpected end of file".toList <+: text.toList := by
  obtain ⟨names, -, ending⟩ := bind_ok described
  obtain rfl := Except.ok.inj ending
  cases names with
  | nil => decide
  | cons name rest =>
    have opens : "Unexpected end of file".toList <+: endReached.toList := by decide
    exact opens_append (opens_append (opens_append opens _) _) _

/-- A description that is there opens with the words for its code. -/
theorem Chain.Tells.opening {code : ErrorCode} {description : String}
    (tells : chain.Tells limits sequences names code description)
    (described : description ≠ unavailable) :
    ∃ words, code.opening? = some words ∧ words.toList <+: description.toList := by
  obtain ⟨rfl, ended⟩ | ⟨rfl, image, -, read⟩ | ⟨rfl, run, shows_⟩ := tells.cases
  · exact ⟨_, rfl, endOfInput_opening ended⟩
  · have opens : "Unexpected directive".toList <+: "Unexpected directive, ".toList := by decide
    exact ⟨_, rfl, opens.trans (readMisplaced_opening read)⟩
  · have opens : "Encountered".toList <+: "Encountered \"".toList := by decide
    exact ⟨_, rfl, (opens_append (opens_append opens _) _).trans (shows_.shown described).2⟩

/-- A failure is described where every kind that was expected can be displayed. -/
theorem Chain.Tells.available {code : ErrorCode} {description : String}
    (tells : chain.Tells limits sequences names code description)
    (legible : Legible limits names sequences) : description ≠ unavailable := by
  obtain ⟨-, ended⟩ | ⟨-, image, rfl, -⟩ | ⟨-, run, shows_⟩ := tells.cases
  · exact endOfInput_available ended
  · exact misplacedQuoted_available _
  · rw [ShowsRun, if_pos legible] at shows_
    rw [shows_.1]
    exact genericText_available _ _ _ _

/-- No text opens with the words for two codes. -/
theorem ErrorCode.opening?_unique {code other : ErrorCode} {words otherWords text : String}
    (own : code.opening? = some words) (others : other.opening? = some otherWords)
    (opens : words.toList <+: text.toList) (opensToo : otherWords.toList <+: text.toList) :
    other = code := by
  have either := List.prefix_or_prefix_of_prefix opens opensToo
  cases code <;> cases other <;> cases own <;> cases others <;>
    first | rfl | exact absurd either (by decide)

theorem ErrorCode.opening?_unavailable {code : ErrorCode} {words : String}
    (known : code.opening? = some words) : ¬ words.toList <+: unavailable.toList := by
  cases code <;> cases known <;> decide

/-- The opening words of a description tell the code. -/
theorem Chain.Tells.opening_iff {code other : ErrorCode} {description words : String}
    (tells : chain.Tells limits sequences names code description)
    (known : other.opening? = some words) :
    words.toList <+: description.toList ↔ other = code ∧ description ≠ unavailable := by
  constructor
  · intro opens
    have described : description ≠ unavailable := by
      rintro rfl
      exact ErrorCode.opening?_unavailable known opens
    obtain ⟨own, named, opensToo⟩ := tells.opening described
    exact ⟨ErrorCode.opening?_unique named known opensToo opens, described⟩
  · rintro ⟨rfl, described⟩
    obtain ⟨own, named, opens⟩ := tells.opening described
    cases Option.some.inj (named.symm.trans known)
    exact opens

end ParseFailure
