import ParseFailure.Proofs.Terminal.Sequences

/-!
Styles inside styles. A call styles a text by the names of styles, and what it gives may be styled
again, or stand beside other texts in what is styled next. The codes of a call are complete
sequences and begin with an escape character, so they go on with no sequence that the text has
begun, and stripping undoes every call. Where texts stand side by side, one that ends inside a
sequence may go on in its neighbour, unless a code has come between them; of all others nothing is
left but the texts.
-/

namespace ParseFailure.Terminal

variable {c : Char} {text : List Char}

/-- A text that ends inside a sequence: its last characters begin one that they do not complete. -/
def EndsInside (text : List Char) : Prop :=
  ∃ before start missing, text = before ++ start ∧ start ≠ [] ∧ missing ≠ [] ∧
    Sequence (start ++ missing)

theorem EndsInside.behind (before : List Char) (ends : EndsInside text) :
    EndsInside (before ++ text) := by
  obtain ⟨earlier, start, missing, rfl, begun, more, found⟩ := ends
  exact ⟨before ++ earlier, start, missing, by rw [List.append_assoc], begun, more, found⟩

theorem EndsInside.mark (ends : EndsInside text) : escapeMark ∈ text := by
  obtain ⟨before, start, missing, rfl, begun, -, found⟩ := ends
  obtain ⟨body, same, -⟩ := found.start
  obtain ⟨c, start, rfl⟩ := List.exists_cons_of_ne_nil begun
  obtain ⟨rfl, -⟩ := List.cons.inj same
  exact List.mem_append_right _ List.mem_cons_self

/-- Where a text opens no sequence, it opens none with more behind it, unless it ends inside one. -/
theorem not_opens_append (unopened : ¬ Opens (c :: text)) (outside : ¬ EndsInside (c :: text))
    (rest : List Char) : ¬ Opens (c :: (text ++ rest)) := by
  rintro ⟨sequence, found, after, same⟩
  rw [← List.cons_append] at same
  rcases List.append_eq_append_iff.mp same with ⟨more, whole, -⟩ | ⟨missing, whole, -⟩
  · exact unopened ⟨sequence, found, more, whole.symm⟩
  · cases missing with
    | nil =>
      rw [List.append_nil] at whole
      exact unopened ⟨sequence, found, [], by rw [whole, List.append_nil]⟩
    | cons d missing =>
      refine outside ⟨[], c :: text, d :: missing, rfl, ?_, ?_, ?_⟩
      · exact List.cons_ne_nil c text
      · exact List.cons_ne_nil d missing
      · rwa [← whole]

theorem stripChars_append (outside : ¬ EndsInside text) (rest : List Char) :
    stripChars (text ++ rest) = stripChars text ++ stripChars rest := by
  induction text using text_induction with
  | nil => simp [stripChars]
  | kept c text unopened ih =>
    have later : ¬ EndsInside text := fun ends => outside (ends.behind [c])
    rw [List.cons_append, stripChars_kept (not_opens_append unopened outside rest),
      stripChars_kept unopened, ih later, List.cons_append]
  | removed sequence text found ih =>
    have later : ¬ EndsInside text := fun ends => outside (ends.behind sequence)
    rw [List.append_assoc, stripChars_removed found, stripChars_removed found, ih later]

/-- A text that is stripped apart from anything behind it. -/
def Separate (text : String) : Prop := ∀ rest, strip (text ++ rest) = strip text ++ strip rest

theorem separate_of_outside {text : String} (outside : ¬ EndsInside text.toList) :
    Separate text := by
  intro rest
  rw [← String.toList_inj]
  simp only [toList_strip, String.toList_append]
  exact stripChars_append outside rest.toList

theorem Separate.append {first second : String} (separate : Separate first)
    (other : Separate second) : Separate (first ++ second) := by
  intro rest
  rw [String.append_assoc, separate, other, separate, String.append_assoc]

/-- A call for styles by their names, with colours on or off. -/
structure Call where
  colors : Bool
  names : List String

def Call.paint (call : Call) (text : String) : String := paintNamed call.colors call.names text

/-- A text inside of several calls, of which the first is the outermost. -/
def paintAll (calls : List Call) (text : String) : String := calls.foldr Call.paint text

theorem Call.strip_paint (call : Call) (text : String) : strip (call.paint text) = strip text :=
  Terminal.strip_paint call.colors (call.names.filterMap Style.ofName?) text

theorem strip_paintAll (calls : List Call) (text : String) :
    strip (paintAll calls text) = strip text := by
  induction calls with
  | nil => rfl
  | cons call calls ih =>
    calc strip (paintAll (call :: calls) text)
        = strip (call.paint (paintAll calls text)) := rfl
      _ = strip (paintAll calls text) := call.strip_paint _
      _ = strip text := ih

theorem Call.separate_paint {text : String} (separate : Separate text) (call : Call) :
    Separate (call.paint text) := by
  intro rest
  unfold Call.paint paintNamed Terminal.paint
  split
  · rw [← String.toList_inj]
    simp only [toList_strip, String.toList_append, List.append_assoc, stripChars_opening,
      stripChars_append_code]
    have bare := stripChars_append_code text.toList .reset []
    rw [List.append_nil] at bare
    rw [bare, stripChars, List.append_nil]
  · exact separate rest

/-- Texts, and calls around what is made of texts and calls, side by side. -/
inductive Layout where
  | text (t : String)
  | styled (call : Call) (inner : Layout)
  | beside (first second : Layout)

namespace Layout

variable {layout : Layout}

def drawn : Layout → String
  | .text t => t
  | .styled call inner => call.paint inner.drawn
  | .beside first second => first.drawn ++ second.drawn

def bare : Layout → String
  | .text t => t
  | .styled _ inner => inner.bare
  | .beside first second => first.bare ++ second.bare

/-- None of the texts ends inside a sequence. -/
def Closed : Layout → Prop
  | .text t => ¬ EndsInside t.toList
  | .styled _ inner => inner.Closed
  | .beside first second => first.Closed ∧ second.Closed

/-- No text ends inside a sequence when something stands beside it. A single text, with any calls
around it, may end as it likes. -/
def Parted : Layout → Prop
  | .text _ => True
  | .styled _ inner => inner.Parted
  | .beside first second => first.Closed ∧ second.Parted

theorem Closed.parted (closed : layout.Closed) : layout.Parted := by
  induction layout with
  | text t => trivial
  | styled call inner ih => exact ih closed
  | beside first second _ ih => exact ⟨closed.1, ih closed.2⟩

theorem Closed.separate_drawn (closed : layout.Closed) : Separate layout.drawn := by
  induction layout with
  | text t => exact separate_of_outside closed
  | styled call inner ih => exact call.separate_paint (ih closed)
  | beside first second ih ih' => exact (ih closed.1).append (ih' closed.2)

theorem Closed.separate_bare (closed : layout.Closed) : Separate layout.bare := by
  induction layout with
  | text t => exact separate_of_outside closed
  | styled call inner ih => exact ih closed
  | beside first second ih ih' => exact (ih closed.1).append (ih' closed.2)

theorem Parted.strip_drawn (parted : layout.Parted) : strip layout.drawn = strip layout.bare := by
  induction layout with
  | text t => rfl
  | styled call inner ih =>
    calc strip (call.paint inner.drawn)
        = strip inner.drawn := call.strip_paint _
      _ = strip inner.bare := ih parted
  | beside first second ih ih' =>
    obtain ⟨closed, later⟩ := parted
    calc strip (first.drawn ++ second.drawn)
        = strip first.drawn ++ strip second.drawn := closed.separate_drawn _
      _ = strip first.bare ++ strip second.bare := by rw [ih closed.parted, ih' later]
      _ = strip (first.bare ++ second.bare) := (closed.separate_bare _).symm

theorem closed_of_plain (plain : Plain layout.bare) : layout.Closed := by
  induction layout with
  | text t => exact fun ends => plain ends.mark
  | styled call inner ih => exact ih plain
  | beside first second ih ih' =>
    simp only [Plain, bare, String.toList_append, List.mem_append, not_or] at plain
    exact ⟨ih plain.1, ih' plain.2⟩

end Layout

/-- Stripping undoes a call for any styles, by known names or others, in colours or without them,
whatever the text holds; it leaves a text without an escape character as it was. The same holds of
calls inside of calls, and where calls have texts and calls side by side in them, unless one of two
neighbours ends inside a sequence. -/
theorem strip_undoes_styles :
    (∀ (colors : Bool) (names : List String) (text : String),
      strip (paintNamed colors names text) = strip text ∧
        (Plain text → strip (paintNamed colors names text) = text)) ∧
    (∀ (calls : List Call) (text : String),
      strip (paintAll calls text) = strip text ∧
        (Plain text → strip (paintAll calls text) = text)) ∧
    ∀ layout : Layout,
      (layout.Parted → strip layout.drawn = strip layout.bare) ∧
        (Plain layout.bare → strip layout.drawn = layout.bare) := by
  refine ⟨fun colors names text => ?_, fun calls text => ?_, fun layout => ⟨?_, fun plain => ?_⟩⟩
  · have undone := Call.strip_paint ⟨colors, names⟩ text
    exact ⟨undone, fun plain => undone.trans (strip_plain plain)⟩
  · have undone := strip_paintAll calls text
    exact ⟨undone, fun plain => undone.trans (strip_plain plain)⟩
  · exact Layout.Parted.strip_drawn
  · have parted := (Layout.closed_of_plain plain).parted
    exact parted.strip_drawn.trans (strip_plain plain)

/-- A word in two calls, one of them for an unknown style, and beside it a text that ends inside a
sequence. -/
def cutShort : Layout :=
  .styled ⟨true, ["dim"]⟩
    (.beside (.styled ⟨true, ["bold", "blink"]⟩ (.styled ⟨false, ["cyan"]⟩ (.text "a")))
      (.text "b\x1b[3"))

theorem strip_undoes_styles_cutShort :
    cutShort.Parted ∧ strip cutShort.drawn = "ab\x1b[3" ∧
      Plain "a" ∧ strip (paintNamed true ["bold", "blink"] "a") = "a" ∧
      strip (paintAll [⟨true, ["dim"]⟩, ⟨true, ["bold", "blink"]⟩] "a") = "a" := by
  obtain ⟨one, several, arranged⟩ := strip_undoes_styles
  have plain : Plain "a" := by decide
  have parted : cutShort.Parted := ⟨fun ends => plain ends.mark, trivial⟩
  have kept : strip cutShort.bare = "ab\x1b[3" := by decide +kernel
  exact ⟨parted, ((arranged cutShort).1 parted).trans kept, plain, (one _ _ _).2 plain,
    (several _ _).2 plain⟩

end ParseFailure.Terminal
