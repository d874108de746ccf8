import Mathlib.Logic.Basic

/-!
# State steps that may throw

A step on a state returns or throws; either way it leaves a state behind, since effects made
before an exception are not undone.  Computations without a state are plain `Except` values.
-/

/-- The end of a step on a state. -/
inductive Outcome (ε σ : Type*)
  | returned (state : σ)
  | threw (exception : ε) (state : σ)

namespace Outcome

variable {ε σ τ : Type*}

/-- The state left behind. -/
def state : Outcome ε σ → σ
  | returned state => state
  | threw _ state => state

/-- The step returned normally. -/
def Returns (outcome : Outcome ε σ) : Prop :=
  ∃ state, outcome = returned state

instance (outcome : Outcome ε σ) : Decidable outcome.Returns :=
  match outcome with
  | returned state => isTrue ⟨state, rfl⟩
  | threw _ _ => isFalse fun ⟨_, impossible⟩ => by cases impossible

/-- Continue a step that returned. -/
def andThen (outcome : Outcome ε σ) (next : σ → Outcome ε σ) : Outcome ε σ :=
  match outcome with
  | returned state => next state
  | threw exception state => threw exception state

/-- Embed the state a step works on into a larger one. -/
def map (embed : σ → τ) : Outcome ε σ → Outcome ε τ
  | returned state => returned (embed state)
  | threw exception state => threw exception (embed state)

@[simp]
theorem state_returned (state : σ) : (returned state : Outcome ε σ).state = state := rfl

@[simp]
theorem state_threw (exception : ε) (state : σ) : (threw exception state).state = state := rfl

@[simp]
theorem returned_andThen (state : σ) (next : σ → Outcome ε σ) :
    (returned state).andThen next = next state := rfl

@[simp]
theorem threw_andThen (exception : ε) (state : σ) (next : σ → Outcome ε σ) :
    (threw exception state).andThen next = threw exception state := rfl

@[simp]
theorem returns_returned (state : σ) : (returned state : Outcome ε σ).Returns := ⟨state, rfl⟩

@[simp]
theorem not_returns_threw (exception : ε) (state : σ) : ¬ (threw exception state).Returns := by
  rintro ⟨_, impossible⟩
  cases impossible

theorem Returns.eq_returned {outcome : Outcome ε σ} (returns : outcome.Returns) :
    outcome = returned outcome.state := by
  obtain ⟨state, rfl⟩ := returns
  rfl

@[simp]
theorem state_map (embed : σ → τ) (outcome : Outcome ε σ) :
    (outcome.map embed).state = embed outcome.state := by
  cases outcome <;> rfl

@[simp]
theorem returns_map (embed : σ → τ) (outcome : Outcome ε σ) :
    (outcome.map embed).Returns ↔ outcome.Returns := by
  cases outcome <;> simp [map]

/-- A sequence returns when both its steps do. -/
theorem andThen_eq_returned {outcome : Outcome ε σ} {next : σ → Outcome ε σ} {last : σ} :
    outcome.andThen next = returned last ↔
      ∃ middle, outcome = returned middle ∧ next middle = returned last := by
  cases outcome with
  | returned state => simp
  | threw exception state => simp

/-- What both steps keep, their sequence keeps. -/
theorem andThen_keeps {property : σ → Prop} {outcome : Outcome ε σ} {next : σ → Outcome ε σ}
    (first : property outcome.state)
    (second : ∀ state, property state → property (next state).state) :
    property (outcome.andThen next).state := by
  cases outcome with
  | returned state => exact second state first
  | threw exception state => exact first

/-- A sequence returns when both its steps do. -/
theorem returns_andThen_iff {outcome : Outcome ε σ} {next : σ → Outcome ε σ} {condition : Prop}
    (first : outcome.Returns ↔ condition) {later : Prop}
    (second : ∀ state, (next state).Returns ↔ later) :
    (outcome.andThen next).Returns ↔ condition ∧ later := by
  cases outcome with
  | returned state => simpa [second state] using fun _ => first.mp (returns_returned state)
  | threw exception state =>
      have failed : ¬ condition := fun holds => not_returns_threw exception state (first.mpr holds)
      simp [failed]

/-! ## Two steps side by side -/

/-- Both steps end in the same way, in related states. -/
inductive Both (relation : σ → τ → Prop) : Outcome ε σ → Outcome ε τ → Prop
  | returned {left : σ} {right : τ} (related : relation left right) :
      Both relation (returned left) (returned right)
  | threw (exception : ε) {left : σ} {right : τ} (related : relation left right) :
      Both relation (threw exception left) (threw exception right)

theorem Both.andThen {relation : σ → τ → Prop} {one : Outcome ε σ} {two : Outcome ε τ}
    (both : Both relation one two) {left : σ → Outcome ε σ} {right : τ → Outcome ε τ}
    (next : ∀ {state other}, relation state other → Both relation (left state) (right other)) :
    Both relation (one.andThen left) (two.andThen right) := by
  cases both with
  | returned related => exact next related
  | threw exception related => exact .threw exception related

theorem Both.state {relation : σ → τ → Prop} {one : Outcome ε σ} {two : Outcome ε τ}
    (both : Both relation one two) : relation one.state two.state := by
  cases both with
  | returned related => exact related
  | threw exception related => exact related

theorem Both.returns_iff {relation : σ → τ → Prop} {one : Outcome ε σ} {two : Outcome ε τ}
    (both : Both relation one two) : one.Returns ↔ two.Returns := by
  cases both with
  | returned related => exact iff_of_true (returns_returned _) (returns_returned _)
  | threw exception related => exact iff_of_false (not_returns_threw _ _) (not_returns_threw _ _)

theorem Both.mono {relation other : σ → τ → Prop}
    (weaken : ∀ {left right}, relation left right → other left right)
    {one : Outcome ε σ} {two : Outcome ε τ} (both : Both relation one two) :
    Both other one two := by
  cases both with
  | returned related => exact .returned (weaken related)
  | threw exception related => exact .threw exception (weaken related)

/-- One step, seen in two ways. -/
theorem both_map {υ : Type*} {relation : τ → υ → Prop} {left : σ → τ} {right : σ → υ}
    (outcome : Outcome ε σ) (related : relation (left outcome.state) (right outcome.state)) :
    Both relation (outcome.map left) (outcome.map right) := by
  cases outcome with
  | returned state => exact .returned related
  | threw exception state => exact .threw exception related

/-! ## Computations without a state -/

section Computations

universe level

variable {α β : Type level}

/-- The computation ends with a value. -/
def Yields (result : Except ε α) : Prop :=
  ∃ value, result = .ok value

@[simp]
theorem yields_ok (value : α) : Yields (.ok value : Except ε α) := ⟨value, rfl⟩

@[simp]
theorem yields_pure (value : α) : Yields (pure value : Except ε α) := ⟨value, rfl⟩

@[simp]
theorem not_yields_error (exception : ε) : ¬ Yields (.error exception : Except ε α) := by
  rintro ⟨_, impossible⟩
  cases impossible

@[simp]
theorem yields_map_iff (embed : α → β) (result : Except ε α) :
    Yields (result.map embed) ↔ Yields result := by
  cases result with
  | error exception => simp [Except.map]
  | ok value => simp [Except.map]

theorem yields_bind_iff (result : Except ε α) (next : α → Except ε β) :
    Yields (result >>= next) ↔ ∃ value, result = .ok value ∧ Yields (next value) := by
  cases result with
  | error exception => simp [bind, Except.bind]
  | ok value => simp [bind, Except.bind]

theorem bind_eq_ok_iff {result : Except ε α} {next : α → Except ε β} {last : β} :
    result >>= next = .ok last ↔ ∃ value, result = .ok value ∧ next value = .ok last := by
  cases result with
  | error exception => simp [bind, Except.bind]
  | ok value => simp [bind, Except.bind]

theorem exists_ok_iff (result : Except ε α) : (∃ value, result = .ok value) ↔ Yields result :=
  Iff.rfl

/-- A map over a list yields when it yields for every element. -/
theorem yields_mapM_iff (embed : α → Except ε β) (list : List α) :
    Yields (list.mapM embed) ↔ ∀ element ∈ list, Yields (embed element) := by
  induction list with
  | nil => simp
  | cons head tail ih =>
      rw [List.mapM_cons, yields_bind_iff, List.forall_mem_cons, ← ih]
      constructor
      · rintro ⟨first, isFirst, rest⟩
        obtain ⟨later, isLater, _⟩ := (yields_bind_iff _ _).mp rest
        exact ⟨⟨first, isFirst⟩, later, isLater⟩
      · rintro ⟨⟨first, isFirst⟩, later, isLater⟩
        exact ⟨first, isFirst, (yields_bind_iff _ _).mpr ⟨later, isLater, yields_pure _⟩⟩

end Computations

end Outcome
