import ParseFailure.Location
import ParseFailure.Proofs.Description.Lexed
import ParseFailure.Proofs.Description.Unclosed
import ParseFailure.Proofs.Description.Window
import ParseFailure.Proofs.Text.Controls

/-!
The control characters of headings and descriptions. With the standard names of kinds they are the
line breaks that belong to the layout, and what the quotes of the template's name and of a misplaced
directive let through.
-/

namespace ParseFailure

open Text

/-- What quotes let through of a literal text. -/
def Image.upperControls : Image → List Char
  | .text t => Text.upperControls t
  | .number _ | .absent => []

/-- The control characters in the heading of a message. -/
def Location.headingControls (tooling : Bool) (name : Option String) : List Char :=
  if tooling then [] else (name.elim [] upperControls) ++ ['\n']

/-- The control characters in the description of a failure with a code and a number of alternatives.
-/
def Chain.descriptionControls (chain : Chain) (alternatives : Nat) : ErrorCode → List Char
  | .unexpectedEnd => []
  | .misplacedDirective => chain.successor.elim [] fun directive => directive.image.upperControls
  | .unexpectedToken => List.replicate (max 1 alternatives) '\n'
  | .syntaxError => []

theorem Location.controls_template (name : Option String) :
    controls (template name) = name.elim [] upperControls := by
  cases name with
  | none => decide
  | some name =>
    have word : controls "template " = [] := by decide
    rw [template, controls_append, word, controls_quote]
    rfl

theorem Location.controls_heading (tooling : Bool) (name : Option String) (line column : Int) :
    controls (headingInFull tooling name line column) = headingControls tooling name := by
  have words : controls "[col. " = [] ∧ controls "] " = [] ∧ controls "Parsing error " = [] ∧
      controls "in " = [] ∧ controls " in line " = [] ∧ controls ", column " = [] ∧
      controls ":\n" = ['\n'] := by decide
  obtain ⟨opening, closing, parsing, inside, inLine, inColumn, ends⟩ := words
  cases tooling with
  | true =>
    rw [headingInFull, if_pos rfl, headingControls, if_pos rfl]
    unfold compactInFull
    simp only [controls_append, controls_repr, opening, closing, List.append_nil]
  | false =>
    rw [headingInFull, if_neg Bool.false_ne_true, headingControls, if_neg Bool.false_ne_true]
    unfold verboseInFull phraseInFull
    simp only [controls_append, controls_repr, controls_template, parsing, inside, inLine, inColumn,
      ends, List.append_nil, List.nil_append]

namespace Description

variable {limits : Limits} {chain : Chain} {run : String} {codes : List (List Int)}

theorem images_plain : ∀ category ∈ Category.all, controls category.image = [] := by
  decide +kernel

theorem controls_standard (code : Int) :
    controls (NameTable.standard.nameInFull (.number code)) = [] := by
  rw [NameTable.standard_name]
  cases Category.ofCode? code with
  | some category => exact images_plain category (Category.mem_all category)
  | none =>
    have words : controls "<token kind " = [] ∧ controls ">" = [] := by decide
    unfold NameTable.placeholderInFull Kind.inFull
    simp only [controls_append, words, controls_repr, List.append_nil]

theorem controls_shownParts (tokens : List Token) :
    ∀ part ∈ shownParts .standard tokens, controls part = [] := by
  intro part member
  rcases List.mem_append.mp member with shown | ended
  · obtain ⟨token, -, rfl⟩ := List.mem_map.mp shown
    cases token.image with
    | text t => exact controls_escape t
    | number n => rfl
    | absent => rfl
  · split at ended
    · cases List.mem_singleton.mp ended
      exact controls_standard 0
    · contradiction

theorem controls_encountered {window : Int}
    (found : encountered limits chain .standard window = .ok run) : controls run = [] := by
  obtain ⟨parts, listed, joined⟩ := bind_ok found
  cases Except.ok.inj joined
  cases runFrom_shown listed
  exact controls_joinWith_plain (by decide) (controls_shownParts _)

theorem controls_lineInFull (kinds : List Int) :
    controls (lineInFull .standard (kinds.map Kind.number)) = [] := by
  have indent : controls "    " = [] := by decide
  rw [lineInFull, controls_append, indent, List.nil_append]
  apply controls_joinWith_plain (by decide)
  simp only [List.map_map, List.forall_mem_map]
  exact fun kind _ => controls_standard kind

/-- There is a line break in front of the first alternative, or of nothing, and one in front of each
other alternative. -/
theorem controls_genericInFull (plain : controls run = []) (codes : List (List Int)) :
    controls (genericInFull run .standard "\n" (ofCodes codes)) =
      List.replicate (max 1 codes.length) '\n' := by
  have words : controls "Encountered \"" = [] ∧ controls "\", but " = [] ∧
      controls "was expecting:" = [] ∧ controls "was expecting one of:" = [] ∧
      controls "\n" = ['\n'] := by decide
  obtain ⟨opening, closing, one, several, ends⟩ := words
  have announced : controls (expecting (ofCodes codes)) = [] := by
    unfold expecting
    split
    · exact one
    · exact several
  have lines : controls (linesInFull .standard "\n" (ofCodes codes)) =
      List.replicate (codes.length - 1) '\n' := by
    rw [linesInFull, ofCodes, List.map_map, controls_joinWith, List.length_map, ends,
      List.flatten_replicate_singleton]
    exact List.forall_mem_map.mpr fun kinds _ => controls_lineInFull kinds
  have count : max 1 codes.length = (codes.length - 1) + 1 := by omega
  unfold genericInFull genericText
  simp only [controls_append, opening, plain, closing, announced, ends, lines,
    List.nil_append, List.append_nil, List.singleton_append, count, List.replicate_succ]

theorem closes_plain : ∀ category ∈ Category.all, ∀ name ∈ category.closes, controls name = [] := by
  decide +kernel

theorem controls_closes {kind : Kind} {names : List String} (closed : kind.closes = .ok names) :
    ∀ name ∈ names, controls name = [] := by
  obtain ⟨category, -, listed⟩ := bind_ok closed
  cases category with
  | none =>
    cases Except.ok.inj listed
    exact List.forall_mem_nil _
  | some category =>
    cases Except.ok.inj listed
    exact closes_plain category (Category.mem_all category)

theorem controls_closedBy {kinds : List Kind} {names : List String}
    (closed : closedBy kinds = .ok names) : ∀ name ∈ names, controls name = [] := by
  induction kinds generalizing names with
  | nil =>
    cases Except.ok.inj closed
    exact List.forall_mem_nil _
  | cons kind rest ih =>
    obtain ⟨here, first, closed⟩ := bind_ok closed
    obtain ⟨later, others, closed⟩ := bind_ok closed
    cases Except.ok.inj closed
    exact List.forall_mem_append.mpr ⟨controls_closes first, ih others⟩

theorem controls_closedByAny {alternatives : List Alternative} {names : List String}
    (closed : closedByAny alternatives = .ok names) : ∀ name ∈ names, controls name = [] := by
  induction alternatives generalizing names with
  | nil =>
    cases Except.ok.inj closed
    exact List.forall_mem_nil _
  | cons alternative rest ih =>
    obtain ⟨kinds, -, closed⟩ := bind_ok closed
    obtain ⟨here, first, closed⟩ := bind_ok closed
    obtain ⟨later, others, closed⟩ := bind_ok closed
    cases Except.ok.inj closed
    exact List.forall_mem_append.mpr ⟨controls_closedBy first, ih others⟩

theorem controls_endOfInput {expected : Expected} {text : String}
    (described : endOfInput expected = .ok text) : controls text = [] := by
  obtain ⟨names, open', ending⟩ := bind_ok described
  obtain ⟨alternatives, -, listed⟩ := bind_ok open'
  obtain ⟨closed, found, listed⟩ := bind_ok listed
  cases Except.ok.inj listed
  cases Except.ok.inj ending
  have plain : ∀ name ∈ firstSeen closed, controls name = [] := fun name member =>
    controls_closedByAny found name (mem_firstSeen.mp member)
  have words : controls endReached = [] ∧ controls " You have an unclosed " = [] ∧
      controls "." = [] := by decide +kernel
  obtain ⟨reached, still, ends⟩ := words
  cases seen : firstSeen closed with
  | nil => exact reached
  | cons name rest =>
    have joined : controls (joinOr (name :: rest)) = [] :=
      controls_joinWith_plain (by decide) (seen ▸ plain)
    unfold endingWith
    simp only [controls_append, reached, still, joined, ends, List.append_nil]

theorem controls_misplaced (image : String) :
    controls (misplacedQuoted (quote image)) = upperControls image := by
  have words : controls "Unexpected directive, " = [] ∧
      controls ". Check whether you have a valid #if-#elseif-#else structure." = [] := by
    decide +kernel
  unfold misplacedQuoted
  rw [controls_append, controls_append, words.1, words.2, controls_quote, List.append_nil,
    List.nil_append]

end Description

open Description

variable {limits : Limits} {chain : Chain} {codes : List (List Int)} {code : ErrorCode}
  {description : String}

theorem controls_unavailable : Text.controls unavailable = [] := by decide +kernel

theorem ShowsRun.controls {run : String}
    (shows_ : ShowsRun limits (ofCodes codes) .standard run description)
    (plain : Text.controls run = []) (described : description ≠ unavailable) :
    Text.controls description = List.replicate (max 1 codes.length) '\n' := by
  rw [(shows_.shown described).1, controls_genericInFull plain]

/-- What the controls of a description are, by the code that it tells. -/
theorem Chain.Tells.controls
    (tells : chain.Tells limits (ofCodes codes) .standard code description) :
    Text.controls description =
      if description = unavailable then [] else chain.descriptionControls codes.length code := by
  by_cases missing : description = unavailable
  · rw [if_pos missing, missing, controls_unavailable]
  · rw [if_neg missing]
    unfold Tells at tells
    cases next : chain.successor with
    | none =>
      rw [next] at tells
      obtain ⟨rfl, shows_⟩ := tells
      exact shows_.controls rfl missing
    | some token =>
      rw [next] at tells
      obtain ⟨image, text, ⟨rfl, -, ended⟩ | ⟨rfl, -, rfl, -⟩ |
        ⟨rfl, -, -, run, found, shows_, -⟩⟩ := tells
      · exact controls_endOfInput ended
      · rw [controls_misplaced, descriptionControls, next]
        simp only [Option.elim_some, text, Image.upperControls]
      · exact shows_.controls (controls_encountered found) missing

end ParseFailure
