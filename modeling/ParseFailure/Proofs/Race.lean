import ParseFailure.Proofs.Fault
import ParseFailure.Session.Read

/-!
Reads and renames of one error at the same time. A read looks at the cell, makes texts for the name
that it saw, or meets a fault there, and keeps what it has made; each of the three is one event, and
events of any number of reads and renames follow each other in any order.
-/

namespace ParseFailure

/-- How far one read has come. -/
inductive Reading where
  /-- It has seen a name, and no texts kept. -/
  | looked (name : Option String)
  | made (name : Option String) (outcome : Except Fault Rendered)
  | returned (outcome : Except Fault Rendered)
  deriving Repr

namespace Reading

/-- How many of the two events after the look are behind a read. -/
def progress : Reading → Nat
  | .looked .. => 0
  | .made .. => 1
  | .returned .. => 2

/-- A read that saw a name has come to nothing but texts of this name. -/
def Follows (texts : Option String → Except Fault Rendered) (name : Option String) : Reading → Prop
  | .looked seen => seen = name
  | .made seen own => seen = name ∧ own = texts name
  | .returned own => own = texts name

end Reading

/-- The cell of an error and the reads of it, in the order in which they looked. -/
structure Race where
  cell : Cell
  readings : List Reading
  deriving Repr

namespace Race

/-- What happens next: a new read looks, one of the reads goes on, or the template is renamed. -/
inductive Event where
  | look
  | make (reader : Nat)
  | keep (reader : Nat)
  | rename (name : Option String)
  deriving DecidableEq, Repr

def Event.isRename : Event → Bool
  | .rename _ => true
  | _ => false

def look (cell : Cell) : Reading :=
  match cell.rendered with
  | some texts => .returned (.ok texts)
  | none => .looked cell.name

def step (texts : Option String → Except Fault Rendered) (race : Race) : Event → Race
  | .look => { race with readings := race.readings ++ [look race.cell] }
  | .make reader =>
    match race.readings[reader]? with
    | some (.looked name) =>
      { race with readings := race.readings.set reader (.made name (texts name)) }
    | _ => race
  | .keep reader =>
    match race.readings[reader]? with
    | some (.made name made) =>
      ⟨race.cell.keep name made, race.readings.set reader (.returned made)⟩
    | _ => race
  | .rename name => { race with cell := race.cell.rename name }

def run (texts : Option String → Except Fault Rendered) (race : Race)
    (events : List Event) : Race :=
  events.foldl (step texts) race

variable {texts : Option String → Except Fault Rendered} {race : Race} {name : Option String}
  {reader : Nat}
  {reading : Reading}

theorem run_append (race : Race) (early late : List Event) :
    race.run texts (early ++ late) = (race.run texts early).run texts late :=
  List.foldl_append

theorem run_cons (race : Race) (event : Event) (late : List Event) :
    race.run texts (event :: late) = (race.step texts event).run texts late := rfl

/-- Texts that a read has made for a name are those of the name, and so are kept texts. -/
structure Sound (texts : Option String → Except Fault Rendered) (race : Race) : Prop where
  kept : ∀ kept, race.cell.rendered = some kept → texts race.cell.name = .ok kept
  made : ∀ name made, .made name made ∈ race.readings → made = texts name

theorem keep_sound {cell : Cell} {made : Except Fault Rendered}
    (kept : ∀ kept, cell.rendered = some kept → texts cell.name = .ok kept)
    (own : made = texts name) :
    ∀ kept, (cell.keep name made).rendered = some kept →
      texts (cell.keep name made).name = .ok kept := by
  cases made with
  | error fault => exact kept
  | ok rendered =>
    -- The texts are kept only where the name is still the one they were made for.
    by_cases same : cell.name = name
    · rw [Cell.keep, Cell.commit, if_pos same, same]
      rintro kept ⟨⟩
      exact own.symm
    · rw [Cell.keep, Cell.commit, if_neg same]
      exact kept

theorem step_sound (sound : race.Sound texts) (event : Event) :
    (race.step texts event).Sound texts := by
  cases event with
  | look =>
    refine ⟨sound.kept, fun name made member => ?_⟩
    rcases List.mem_append.mp member with old | new
    · exact sound.made name made old
    · have looked := List.mem_singleton.mp new
      unfold look at looked
      split at looked <;> contradiction
  | make reader =>
    simp only [step]
    split
    · next seen found =>
      refine ⟨sound.kept, fun name made member => ?_⟩
      rcases List.mem_or_eq_of_mem_set member with old | new
      · exact sound.made name made old
      · cases new
        rfl
    · exact sound
  | keep reader =>
    simp only [step]
    split
    · next seen made found =>
      have own := sound.made seen made (List.mem_of_getElem? found)
      refine ⟨keep_sound sound.kept own, fun name other member => ?_⟩
      rcases List.mem_or_eq_of_mem_set member with old | new
      · exact sound.made name other old
      · contradiction
    · exact sound
  | rename name => exact ⟨nofun, sound.made⟩

theorem run_sound (sound : race.Sound texts) (events : List Event) :
    (race.run texts events).Sound texts := by
  induction events generalizing race with
  | nil => exact sound
  | cons event rest ih => exact ih (step_sound sound event)

theorem step_follows (found : race.readings[reader]? = some reading)
    (follows : reading.Follows texts name) (event : Event) :
    ∃ later, (race.step texts event).readings[reader]? = some later ∧ later.Follows texts name ∧
      reading.progress ≤ later.progress := by
  obtain ⟨inside, -⟩ := List.getElem?_eq_some_iff.mp found
  have unchanged : ∃ later, race.readings[reader]? = some later ∧ later.Follows texts name ∧
      reading.progress ≤ later.progress := ⟨reading, found, follows, Nat.le_refl _⟩
  -- What another read makes of itself leaves this one alone.
  have replaced : ∀ {other : Nat} {old next : Reading}, race.readings[other]? = some old →
      (old.Follows texts name → next.Follows texts name) → old.progress ≤ next.progress →
      ∃ later, (race.readings.set other next)[reader]? = some later ∧ later.Follows texts name ∧
        reading.progress ≤ later.progress := by
    intro other old next present goes further
    by_cases same : other = reader
    · subst same
      cases Option.some.inj (present.symm.trans found)
      exact ⟨next, by simp [inside], goes follows, further⟩
    · exact ⟨reading, (List.getElem?_set_ne same).trans found, follows, Nat.le_refl _⟩
  cases event with
  | look => exact ⟨reading, (List.getElem?_append_left inside).trans found, follows, Nat.le_refl _⟩
  | make other =>
    simp only [step]
    split
    · next seen present =>
      exact replaced present (fun same => ⟨same, congrArg texts same⟩) (by simp [Reading.progress])
    · exact unchanged
  | keep other =>
    simp only [step]
    split
    · next seen made present =>
      exact replaced present (fun same => same.2) (by simp [Reading.progress])
    · exact unchanged
  | rename given => exact unchanged

theorem run_follows (found : race.readings[reader]? = some reading)
    (follows : reading.Follows texts name) (events : List Event) :
    ∃ later, (race.run texts events).readings[reader]? = some later ∧ later.Follows texts name ∧
      reading.progress ≤ later.progress := by
  induction events generalizing race reading with
  | nil => exact ⟨reading, found, follows, Nat.le_refl _⟩
  | cons event rest ih =>
    obtain ⟨middle, present, same, further⟩ := step_follows found follows event
    obtain ⟨later, foundLater, sameLater, furtherLater⟩ := ih present same
    exact ⟨later, foundLater, sameLater, Nat.le_trans further furtherLater⟩

/-- A read that looks starts in the last place, and follows the name that is current there. -/
theorem look_follows (sound : race.Sound texts) :
    ∃ reading, (race.step texts .look).readings[race.readings.length]? = some reading ∧
      reading.Follows texts race.cell.name := by
  refine ⟨look race.cell, by simp [step], ?_⟩
  cases present : race.cell.rendered with
  | none => simp [look, present, Reading.Follows]
  | some kept => simpa [look, present, Reading.Follows] using (sound.kept kept present).symm

theorem make_follows (found : race.readings[reader]? = some reading)
    (follows : reading.Follows texts name) :
    ∃ later, (race.step texts (.make reader)).readings[reader]? = some later ∧
      later.Follows texts name ∧ 1 ≤ later.progress := by
  obtain ⟨later, foundLater, followsLater, further⟩ := step_follows found follows (.make reader)
  refine ⟨later, foundLater, followsLater, ?_⟩
  cases reading with
  | looked seen =>
    obtain ⟨inside, -⟩ := List.getElem?_eq_some_iff.mp found
    have made : (race.step texts (.make reader)).readings[reader]? =
        some (.made seen (texts seen)) := by
      simp only [step, found]
      simp [inside]
    cases Option.some.inj (foundLater.symm.trans made)
    exact Nat.le_refl _
  | made | returned => exact Nat.le_trans (by simp [Reading.progress]) further

theorem keep_follows (found : race.readings[reader]? = some reading)
    (follows : reading.Follows texts name) (begun : 1 ≤ reading.progress) :
    (race.step texts (.keep reader)).readings[reader]? = some (.returned (texts name)) := by
  obtain ⟨inside, -⟩ := List.getElem?_eq_some_iff.mp found
  cases reading with
  | looked seen => simp [Reading.progress] at begun
  | made seen made =>
    obtain ⟨-, rfl⟩ := follows
    simp only [step, found]
    simp [inside]
  | returned made =>
    cases follows
    simp only [step, found]

theorem run_name (events : List Event) (calm : ∀ event ∈ events, event.isRename = false) :
    (race.run texts events).cell.name = race.cell.name := by
  induction events generalizing race with
  | nil => rfl
  | cons event rest ih =>
    refine (ih fun other member => calm other (List.mem_cons_of_mem _ member)).trans ?_
    cases event with
    | look => rfl
    | make reader =>
      simp only [step]
      split <;> rfl
    | keep reader =>
      simp only [step]
      split
      · simp only [Cell.keep, Cell.commit]
        split
        · split <;> rfl
        · rfl
      · rfl
    | rename given => exact absurd (calm _ List.mem_cons_self) (by simp [Event.isRename])

/-- A read has come to nothing but the texts of the name that was current when it looked. -/
theorem run_look (sound : race.Sound texts) (late : List Event) :
    ∃ reading, (race.run texts (.look :: late)).readings[race.readings.length]? = some reading ∧
      reading.Follows texts race.cell.name := by
  obtain ⟨first, found, follows⟩ := look_follows sound
  obtain ⟨later, foundLater, followsLater, -⟩ := run_follows found follows late
  exact ⟨later, foundLater, followsLater⟩

/-- A read that has gone its whole way has returned, whatever happened in between. -/
theorem run_whole_read (sound : race.Sound texts) (first second third : List Event) :
    (race.run texts (.look :: (first ++ .make race.readings.length ::
        (second ++ .keep race.readings.length :: third)))).readings[race.readings.length]? =
      some (.returned (texts race.cell.name)) := by
  obtain ⟨_, found, follows⟩ := look_follows sound
  obtain ⟨_, found, follows, -⟩ := run_follows found follows first
  obtain ⟨_, found, follows, begun⟩ := make_follows found follows
  obtain ⟨_, found, follows, further⟩ := run_follows found follows second
  have returned := keep_follows found follows (Nat.le_trans begun further)
  obtain ⟨last, found, follows, further⟩ := run_follows returned rfl third
  cases last with
  | looked | made => simp [Reading.progress] at further
  | returned made =>
    cases follows
    simpa only [run_cons, run_append] using found

end Race

namespace Session

def textsFor (session : Session) (error : Diagnostic) (name : Option String) :
    Except Fault Rendered :=
  error.render session.host.limits session.host.tooling name (session.describe error)

def race (session : Session) (error : Diagnostic) (events : List Race.Event) : Race :=
  Race.run (session.textsFor error) ⟨Cell.named error.cell.name, []⟩ events

theorem race_append (session : Session) (error : Diagnostic) (early late : List Race.Event) :
    session.race error (early ++ late) =
      (session.race error early).run (session.textsFor error) late :=
  Race.run_append _ early late

theorem race_sound (session : Session) (error : Diagnostic) (events : List Race.Event) :
    (session.race error events).Sound (session.textsFor error) :=
  Race.run_sound ⟨by simp [Cell.named], by simp⟩ events

/-- What a read has come to, known by the number of reads that had looked before it. -/
def reading? (session : Session) (error : Diagnostic) (events : List Race.Event) (reader : Nat) :
    Option Reading :=
  (session.race error events).readings[reader]?

def arrivals (session : Session) (error : Diagnostic) (events : List Race.Event) : Nat :=
  (session.race error events).readings.length

variable {session : Session} {error : Diagnostic}

theorem reading_returned {early late : List Race.Event} {texts : Except Fault Rendered}
    (returned : session.reading? error (early ++ .look :: late) (session.arrivals error early) =
      some (.returned texts)) :
    texts = session.textsFor error (session.race error early).cell.name := by
  obtain ⟨reading, found, follows⟩ := Race.run_look (session.race_sound error early) late
  rw [← race_append] at found
  cases Option.some.inj (found.symm.trans returned)
  exact follows

theorem race_name (early between : List Race.Event)
    (calm : ∀ event ∈ between, event.isRename = false) :
    (session.race error (early ++ between)).cell.name = (session.race error early).cell.name := by
  rw [race_append]
  exact Race.run_name between calm

theorem kept_texts {events : List Race.Event} {kept : Rendered}
    (present : (session.race error events).cell.rendered = some kept) :
    ∃ heading,
      Location.heading session.host.limits session.host.tooling
          (session.race error events).cell.name error.span.beginLine error.span.beginColumn =
        .ok heading ∧
      kept.message = heading ++ session.describe error ∧
      kept.description = session.describe error := by
  have made := (session.race_sound error events).kept kept present
  obtain ⟨heading, shown, same⟩ := bind_ok made
  cases Except.ok.inj same
  exact ⟨heading, shown, rfl, rfl⟩

theorem reading_whole (early first second third : List Race.Event) :
    session.reading? error
        (early ++ .look :: (first ++ .make (session.arrivals error early) ::
          (second ++ .keep (session.arrivals error early) :: third)))
        (session.arrivals error early) =
      some (.returned (session.textsFor error (session.race error early).cell.name)) := by
  rw [reading?, race_append]
  exact Race.run_whole_read (session.race_sound error early) first second third

theorem reading_renamed {early between late : List Race.Event} {given : Option String}
    {texts : Except Fault Rendered} (calm : ∀ event ∈ between, event.isRename = false)
    (returned : session.reading? error (early ++ .rename given :: between ++ .look :: late)
      (session.arrivals error (early ++ .rename given :: between)) = some (.returned texts)) :
    texts = session.textsFor error given := by
  have renamed : (session.race error (early ++ .rename given :: between)).cell.name = given := by
    rw [race_append, Race.run_cons, Race.run_name between calm]
    rfl
  rw [reading_returned returned, renamed]

theorem readings_agree {early between late : List Race.Event} {first second : Except Fault Rendered}
    (calm : ∀ event ∈ between, event.isRename = false)
    (returnedFirst : session.reading? error (early ++ .look :: between ++ .look :: late)
      (session.arrivals error early) = some (.returned first))
    (returnedSecond : session.reading? error (early ++ .look :: between ++ .look :: late)
      (session.arrivals error (early ++ .look :: between)) = some (.returned second)) :
    first = second := by
  have sameName : (session.race error (early ++ .look :: between)).cell.name =
      (session.race error early).cell.name := by
    refine race_name early (.look :: between) fun event member => ?_
    rcases List.mem_cons.mp member with rfl | inside
    · rfl
    · exact calm event inside
  rw [List.append_assoc, List.cons_append] at returnedFirst
  rw [reading_returned returnedFirst, reading_returned returnedSecond, sameName]

/-- A name given during a read is the race of one read and one rename, with the rename between the
look and the making of the texts. -/
theorem readDuring_race (id : Nat) (given : Option String) (empty : error.cell.rendered = none) :
    (session.race error [.look, .rename given, .make 0, .keep 0]).readings =
        [.returned (session.readDuring id error fun cell => cell.rename given).1] ∧
      (session.readDuring id error fun cell => cell.rename given).2.diagnostics =
        session.diagnostics.set id { error with
          cell := (session.race error [.look, .rename given, .make 0, .keep 0]).cell } := by
  simp only [readDuring, empty]
  exact ⟨rfl, rfl⟩

/-- In every order of events: kept texts are those of the present name; a read returns the texts of
the name that was current when it looked, or the fault that these meet, and once its own events have
happened it has returned; so a read that looks after a rename never returns an older name, and reads
that look between the same renames return the same. -/
theorem race_outcomes (session : Session) (error : Diagnostic) :
    (∀ events kept, (session.race error events).cell.rendered = some kept →
      ∃ heading,
        Location.heading session.host.limits session.host.tooling
            (session.race error events).cell.name error.span.beginLine error.span.beginColumn =
          .ok heading ∧
        kept.message = heading ++ session.describe error ∧
        kept.description = session.describe error) ∧
    (∀ early late texts,
      session.reading? error (early ++ .look :: late) (session.arrivals error early) =
        some (.returned texts) →
      texts = session.textsFor error (session.race error early).cell.name) ∧
    (∀ early first second third,
      session.reading? error
          (early ++ .look :: (first ++ .make (session.arrivals error early) ::
            (second ++ .keep (session.arrivals error early) :: third)))
          (session.arrivals error early) =
        some (.returned (session.textsFor error (session.race error early).cell.name))) ∧
    (∀ early given between late texts, (∀ event ∈ between, event.isRename = false) →
      session.reading? error (early ++ .rename given :: between ++ .look :: late)
          (session.arrivals error (early ++ .rename given :: between)) =
        some (.returned texts) →
      texts = session.textsFor error given) ∧
    (∀ early between late first second, (∀ event ∈ between, event.isRename = false) →
      session.reading? error (early ++ .look :: between ++ .look :: late)
          (session.arrivals error early) = some (.returned first) →
      session.reading? error (early ++ .look :: between ++ .look :: late)
          (session.arrivals error (early ++ .look :: between)) = some (.returned second) →
      first = second) ∧
    ∀ id given, error.cell.rendered = none →
      (session.race error [.look, .rename given, .make 0, .keep 0]).readings =
          [.returned (session.readDuring id error fun cell => cell.rename given).1] ∧
        (session.readDuring id error fun cell => cell.rename given).2.diagnostics =
          session.diagnostics.set id { error with
            cell := (session.race error [.look, .rename given, .make 0, .keep 0]).cell } := by
  refine ⟨fun events kept => kept_texts, fun early late texts => reading_returned, reading_whole,
    ?_, ?_, readDuring_race⟩
  · intro early given between late texts
    exact reading_renamed
  · intro early between late first second
    exact readings_agree

end Session

end ParseFailure
