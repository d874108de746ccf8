import Mathlib.Data.List.Infix

/-!
# Traces of events

A trace lists events, oldest first.  Safety of a trace is stated event by event: each event is
allowed by what stands before it.  Steps only ever append, so such a property is kept by looking
at the appended events alone.
-/

namespace Trace

variable {α : Type*}

/-- Every event is allowed after the events before it. -/
def Justified (allowed : List α → α → Prop) (trace : List α) : Prop :=
  ∀ before event after, trace = before ++ event :: after → allowed before event

/-- `later` appends events of one kind to `earlier`. -/
def Extends (kind : α → Prop) (earlier later : List α) : Prop :=
  ∃ added, later = earlier ++ added ∧ ∀ event ∈ added, kind event

/-! ## Justified traces -/

@[simp]
theorem justified_nil (allowed : List α → α → Prop) : Justified allowed [] := by
  intro before event after split
  simp at split

theorem justified_cons_iff {allowed : List α → α → Prop} {first : α} {rest : List α} :
    Justified allowed (first :: rest) ↔
      allowed [] first ∧ Justified (fun before => allowed (first :: before)) rest := by
  constructor
  · intro justified
    refine ⟨justified [] first rest rfl, ?_⟩
    intro before event after split
    exact justified (first :: before) event after (by rw [split]; rfl)
  · rintro ⟨head, tail⟩ before event after split
    cases before with
    | nil =>
        obtain ⟨rfl, _⟩ := List.cons.inj split
        exact head
    | cons other before =>
        obtain ⟨rfl, restSplit⟩ := List.cons.inj split
        exact tail before event after restSplit

theorem justified_append_iff {allowed : List α → α → Prop} {trace added : List α} :
    Justified allowed (trace ++ added) ↔
      Justified allowed trace ∧ Justified (fun before => allowed (trace ++ before)) added := by
  induction trace generalizing allowed with
  | nil => simp
  | cons first trace ih =>
      rw [List.cons_append, justified_cons_iff, justified_cons_iff, ih, and_assoc]
      rfl

/-- What justifies a trace justifies its prefixes. -/
theorem Justified.of_append {allowed : List α → α → Prop} {trace added : List α}
    (justified : Justified allowed (trace ++ added)) : Justified allowed trace :=
  (justified_append_iff.mp justified).1

theorem Justified.mono {allowed weaker : List α → α → Prop} {trace : List α}
    (justified : Justified allowed trace)
    (implies : ∀ before event, allowed before event → weaker before event) :
    Justified weaker trace := by
  intro before event after split
  exact implies before event (justified before event after split)

/-- Appended events of a kind that is allowed everywhere behind the trace. -/
theorem Justified.extend {allowed : List α → α → Prop} {kind : α → Prop} {trace later : List α}
    (justified : Justified allowed trace) (extended : Extends kind trace later)
    (fine : ∀ between event, (∀ earlier ∈ between, kind earlier) → kind event →
      allowed (trace ++ between) event) :
    Justified allowed later := by
  obtain ⟨added, rfl, kinds⟩ := extended
  refine justified_append_iff.mpr ⟨justified, ?_⟩
  rintro between event after rfl
  refine fine between event ?_ (kinds event (by simp))
  intro earlier member
  exact kinds earlier (List.mem_append_left _ member)

/-! ## Extensions -/

@[refl]
theorem Extends.refl {kind : α → Prop} (trace : List α) : Extends kind trace trace :=
  ⟨[], by simp, by simp⟩

theorem Extends.trans {kind : α → Prop} {first second third : List α}
    (left : Extends kind first second) (right : Extends kind second third) :
    Extends kind first third := by
  obtain ⟨added, rfl, kinds⟩ := left
  obtain ⟨more, rfl, moreKinds⟩ := right
  refine ⟨added ++ more, by simp, ?_⟩
  intro event member
  rcases List.mem_append.mp member with old | new
  · exact kinds event old
  · exact moreKinds event new

theorem extends_append {kind : α → Prop} {trace added : List α}
    (kinds : ∀ event ∈ added, kind event) : Extends kind trace (trace ++ added) :=
  ⟨added, rfl, kinds⟩

theorem Extends.mono {kind wider : α → Prop} {earlier later : List α}
    (extended : Extends kind earlier later) (implies : ∀ event, kind event → wider event) :
    Extends wider earlier later := by
  obtain ⟨added, rfl, kinds⟩ := extended
  exact ⟨added, rfl, fun event member => implies event (kinds event member)⟩

/-- Events outside the kind are neither gained nor lost. -/
theorem Extends.mem_iff {kind : α → Prop} {earlier later : List α}
    (extended : Extends kind earlier later) {event : α} (other : ¬ kind event) :
    event ∈ later ↔ event ∈ earlier := by
  obtain ⟨added, rfl, kinds⟩ := extended
  rw [List.mem_append]
  constructor
  · rintro (old | new)
    · exact old
    · exact absurd (kinds event new) other
  · exact Or.inl

/-- A summary of a trace stays as it is while it ignores what is appended. -/
theorem Extends.foldl_eq {σ : Type*} {note : σ → α → σ} {initial : σ} {kind : α → Prop}
    {trace later : List α} (extended : Extends kind trace later)
    (ignored : ∀ event, kind event →
      note (trace.foldl note initial) event = trace.foldl note initial) :
    later.foldl note initial = trace.foldl note initial := by
  obtain ⟨added, rfl, kinds⟩ := extended
  rw [List.foldl_append]
  induction added using List.reverseRecOn with
  | nil => rfl
  | append_singleton added event ih =>
      have before := ih fun other member => kinds other (List.mem_append_left _ member)
      rw [List.foldl_append, before, List.foldl_cons, List.foldl_nil]
      exact ignored event (kinds event (by simp))

/-! ## The last event of a kind -/

/-- An event that is not among the appended ones stands in the trace before them. -/
theorem split_append {trace added before after : List α} {event : α}
    (split : trace ++ added = before ++ event :: after) (absent : event ∉ added) :
    ∃ between, trace = before ++ event :: between ∧ after = between ++ added := by
  rcases List.append_eq_append_iff.mp split with ⟨between, _, late⟩ | ⟨between, early, rest⟩
  · exact absurd (by rw [late]; simp) absent
  · cases between with
    | nil => exact absurd (by rw [← show event :: after = added by simpa using rest]; simp) absent
    | cons first between =>
        obtain ⟨rfl, rfl⟩ := List.cons.inj rest
        exact ⟨between, early, rfl⟩

/-- A trace has one last event of a kind. -/
theorem last_unique (kind : α → Prop) {before other after later : List α} {event last : α}
    (split : before ++ event :: after = other ++ last :: later) (isKind : kind event)
    (lastKind : kind last) (none : ∀ found ∈ after, ¬ kind found)
    (noneLater : ∀ found ∈ later, ¬ kind found) :
    before = other ∧ event = last ∧ after = later := by
  rcases List.append_eq_append_iff.mp split with ⟨between, same, rest⟩ | ⟨between, same, rest⟩
  · cases between with
    | nil =>
        obtain ⟨rfl, rfl⟩ := List.cons.inj rest
        exact ⟨by simpa using same.symm, rfl, rfl⟩
    | cons first between =>
        obtain ⟨_, rfl⟩ := List.cons.inj rest
        exact absurd lastKind (none last (by simp))
  · cases between with
    | nil =>
        obtain ⟨rfl, rfl⟩ := List.cons.inj rest
        exact ⟨by simpa using same, rfl, rfl⟩
    | cons first between =>
        obtain ⟨_, rfl⟩ := List.cons.inj rest
        exact absurd isKind (noneLater event (by simp))

end Trace
