import ParseFailure.Fault

/-! Faults met on the way through work in several parts. -/

namespace ParseFailure

/-- An outcome that is a fault. -/
def Fails {α : Type} (outcome : Except Fault α) : Prop := ∃ fault, outcome = .error fault

variable {α β : Type}

@[simp] theorem fails_error (fault : Fault) : Fails (.error fault : Except Fault α) := ⟨fault, rfl⟩

@[simp] theorem not_fails_ok (value : α) : ¬ Fails (.ok value) := nofun

/-- Work in two parts meets a fault in the first part, or with what the first part has found. -/
theorem bind_error {first : Except Fault α} {second : α → Except Fault β} {fault : Fault} :
    first >>= second = .error fault ↔
      first = .error fault ∨ ∃ found, first = .ok found ∧ second found = .error fault := by
  cases first with
  | error other => simp [bind, Except.bind]
  | ok found => simp [bind, Except.bind]

theorem fails_bind {first : Except Fault α} {second : α → Except Fault β} :
    Fails (first >>= second) ↔ Fails first ∨ ∃ found, first = .ok found ∧ Fails (second found) := by
  simp only [Fails, bind_error, exists_or]
  rw [exists_comm]
  simp only [exists_and_left]

/-- Where the second part fails regardless of what the first part has found. -/
theorem fails_bind_either {first : Except Fault α} {second : α → Except Fault β} {bad : Prop}
    (same : ∀ found, Fails (second found) ↔ bad) :
    Fails (first >>= second) ↔ Fails first ∨ bad := by
  rw [fails_bind]
  cases first with
  | error fault => simp
  | ok value => simp [same]

theorem fails_bind_ok {first : Except Fault α} {second : α → β} :
    Fails (first >>= fun found => .ok (second found)) ↔ Fails first := by
  simp [fails_bind]

/-- Where the second part meets no fault. -/
theorem bind_ok_error {first : Except Fault α} {second : α → β} {fault : Fault} :
    (first >>= fun found => .ok (second found)) = .error fault ↔ first = .error fault := by
  simp [bind_error]

theorem bind_ok_iff {first : Except Fault α} {second : α → Except Fault β} {result : β} :
    first >>= second = .ok result ↔ ∃ found, first = .ok found ∧ second found = .ok result := by
  cases first with
  | error fault => simp [bind, Except.bind]
  | ok found => simp [bind, Except.bind]

theorem bind_ok {first : Except Fault α} {second : α → Except Fault β} {result : β}
    (done : first >>= second = .ok result) :
    ∃ found, first = .ok found ∧ second found = .ok result := bind_ok_iff.mp done

theorem not_fails_iff {outcome : Except Fault α} :
    ¬ Fails outcome ↔ ∃ value, outcome = .ok value := by
  cases outcome with
  | error fault => simp
  | ok value => simp

section readAll

variable {read : α → Except Fault β} {items : List α}

theorem readAll_map {γ : Type} (shape : γ → α) (items : List γ) :
    readAll read (items.map shape) = readAll (fun item => read (shape item)) items := by
  induction items with
  | nil => rfl
  | cons item rest ih => rw [List.map_cons, readAll, readAll, ih]

theorem readAll_congr {other : α → Except Fault β} (same : ∀ item ∈ items, read item = other item) :
    readAll read items = readAll other items := by
  induction items with
  | nil => rfl
  | cons item rest ih =>
    rw [readAll, readAll, same item (List.mem_cons_self ..),
      ih fun later member => same later (List.mem_cons_of_mem _ member)]

theorem readAll_ok (value : α → β) (items : List α) :
    readAll (fun item => .ok (value item)) items = .ok (items.map value) := by
  induction items with
  | nil => rfl
  | cons item rest ih => rw [readAll, ih]; rfl

end readAll

section guarded

variable {fault : Fault}

/-- Work in two parts that both meet the same fault, where it is known when they do. -/
theorem guarded_bind {good later : Prop} [Decidable good] [Decidable later] {value : α}
    {next : α → Except Fault β} {result : β}
    (second : next value = if later then .ok result else .error fault) :
    (if good then Except.ok value else .error fault) >>= next =
      if good ∧ later then .ok result else .error fault := by
  by_cases met : good
  · simp only [met, true_and]
    exact second
  · simp only [met, false_and, if_false]
    rfl

theorem guarded_map {good : Prop} [Decidable good] {value : α} (shape : α → β) :
    ((if good then Except.ok value else .error fault) >>= fun found => .ok (shape found)) =
      if good then .ok (shape value) else .error fault := by
  split <;> rfl

theorem guarded_readAll {good : α → Prop} [DecidablePred good] {read : α → Except Fault β}
    {value : α → β} {items : List α}
    (each : ∀ item, read item = if good item then .ok (value item) else .error fault) :
    readAll read items =
      if ∀ item ∈ items, good item then .ok (items.map value) else .error fault := by
  induction items with
  | nil => simp [readAll]
  | cons item rest ih =>
    rw [readAll, each, ih, List.map_cons]
    simp only [List.forall_mem_cons]
    by_cases here : good item
    · by_cases later : ∀ item ∈ rest, good item
      · rw [if_pos here, if_pos later, if_pos ⟨here, later⟩]
        rfl
      · rw [if_pos here, if_neg later, if_neg (mt And.right later)]
        rfl
    · rw [if_neg here, if_neg (mt And.left here)]
      rfl

end guarded

/-- Two outcomes: the same fault, or results that are related. -/
inductive Parallel {α β : Type} (related : α → β → Prop) :
    Except Fault α → Except Fault β → Prop where
  | fault (fault : Fault) : Parallel related (.error fault) (.error fault)
  | done {first : α} {second : β} (same : related first second) :
      Parallel related (.ok first) (.ok second)

theorem Parallel.bind {related : α → β → Prop} {γ δ : Type} {further : γ → δ → Prop}
    {first : Except Fault α} {second : Except Fault β} {next : α → Except Fault γ}
    {nextToo : β → Except Fault δ} (both : Parallel related first second)
    (each : ∀ one other, related one other → Parallel further (next one) (nextToo other)) :
    Parallel further (first >>= next) (second >>= nextToo) := by
  cases both with
  | fault fault => exact .fault fault
  | done same => exact each _ _ same

theorem Parallel.outcomes {related : α → β → Prop} {first : Except Fault α}
    {second : Except Fault β} (both : Parallel related first second) :
    (∃ fault, first = .error fault ∧ second = .error fault) ∨
      ∃ one other, first = .ok one ∧ second = .ok other ∧ related one other := by
  cases both with
  | fault fault => exact .inl ⟨fault, rfl, rfl⟩
  | done same => exact .inr ⟨_, _, rfl, rfl, same⟩

end ParseFailure
