import Mathlib.Logic.Relation

/-!
# Loops whose body goes round again or leaves

A loop body maps a state to one pass: go round again from a new state, or leave with a result.
`run` bounds the number of passes by a fuel argument.  When a measure decreases at every repeated
pass, enough fuel never runs out, and every fact about the loop follows from the passes it makes.
-/

namespace PassLoop

/-- What one pass of a loop body does. -/
inductive Pass (σ ρ : Type*)
  | again (state : σ)
  | leave (result : ρ)

variable {σ ρ : Type*}

/-- Run a loop body for at most `fuel` passes; `stop` is the result when the fuel is spent. -/
def run (body : σ → Pass σ ρ) (stop : σ → ρ) : Nat → σ → ρ
  | 0, state => stop state
  | fuel + 1, state =>
      match body state with
      | .again next => run body stop fuel next
      | .leave result => result

/-- One repeated pass leads from `before` to `after`. -/
def Goes (body : σ → Pass σ ρ) (before after : σ) : Prop :=
  body before = .again after

/-- Some number of repeated passes leads from `before` to `after`. -/
def Visits (body : σ → Pass σ ρ) : σ → σ → Prop :=
  Relation.ReflTransGen (Goes body)

/-- The loop started in `initial` leaves with `result`. -/
def Exits (body : σ → Pass σ ρ) (initial : σ) (result : ρ) : Prop :=
  ∃ last, Visits body initial last ∧ body last = .leave result

/-- With a decreasing measure, enough fuel makes the loop leave of its own accord. -/
theorem run_exits {body : σ → Pass σ ρ} (stop : σ → ρ) (measure : σ → Nat)
    (decreasing : ∀ {before after}, Goes body before after → measure after < measure before)
    {fuel : Nat} {initial : σ} (enough : measure initial < fuel) :
    Exits body initial (run body stop fuel initial) := by
  induction fuel generalizing initial with
  | zero => omega
  | succ fuel ih =>
      cases pass : body initial with
      | leave result =>
          refine ⟨initial, .refl, ?_⟩
          simp only [run, pass]
      | again next =>
          have smaller : measure next < measure initial := decreasing pass
          have enoughLeft : measure next < fuel := by omega
          obtain ⟨last, visits, leaves⟩ := ih enoughLeft
          refine ⟨last, .head pass visits, ?_⟩
          simpa only [run, pass] using leaves

/-- A predicate kept by every repeated pass holds wherever the loop stands. -/
theorem Visits.keeps {body : σ → Pass σ ρ} {invariant : σ → Prop}
    (step : ∀ {before after}, invariant before → Goes body before after → invariant after)
    {initial current : σ} (visits : Visits body initial current) (start : invariant initial) :
    invariant current := by
  induction visits with
  | refl => exact start
  | tail _ pass ih => exact step ih pass

/-- A relation to the initial state kept by every repeated pass holds of every visited state. -/
theorem Exits.keeps {body : σ → Pass σ ρ} {invariant : σ → Prop} {outcome : ρ → Prop}
    (step : ∀ {before after}, invariant before → Goes body before after → invariant after)
    (finish : ∀ {last result}, invariant last → body last = .leave result → outcome result)
    {initial : σ} {result : ρ} (exits : Exits body initial result) (start : invariant initial) :
    outcome result := by
  obtain ⟨last, visits, leaves⟩ := exits
  exact finish (visits.keeps step start) leaves

/-- A loop has one result. -/
theorem Exits.eq_of_leave {body : σ → Pass σ ρ} {initial reached : σ} {result other : ρ}
    (exits : Exits body initial result) (visits : Visits body initial reached)
    (leaves : body reached = .leave other) : result = other := by
  induction visits using Relation.ReflTransGen.head_induction_on with
  | refl =>
      obtain ⟨last, rest, ends⟩ := exits
      rcases rest.cases_head with rfl | ⟨next, pass, _⟩
      · rw [leaves] at ends
        cases ends
        rfl
      · rw [Goes, leaves] at pass
        cases pass
  | head pass _ ih =>
      apply ih
      obtain ⟨last, rest, ends⟩ := exits
      rcases rest.cases_head with rfl | ⟨next, samePass, visits⟩
      · rw [Goes, ends] at pass
        cases pass
      · rw [Goes, pass] at samePass
        obtain rfl := Pass.again.inj samePass
        exact ⟨last, visits, ends⟩

/-! ## Two loops side by side -/

/-- Two loops whose passes go round or leave together, between related states, have related
results. -/
theorem run_both {τ π : Type*} {one : σ → Pass σ ρ} {two : τ → Pass τ π} {states : σ → τ → Prop}
    {results : ρ → π → Prop} {stop : σ → ρ} {halt : τ → π}
    (step : ∀ {left right}, states left right →
      (∃ next other, one left = .again next ∧ two right = .again other ∧ states next other) ∨
        ∃ result other, one left = .leave result ∧ two right = .leave other ∧ results result other)
    (spent : ∀ {left right}, states left right → results (stop left) (halt right))
    (fuel : Nat) {left : σ} {right : τ} (related : states left right) :
    results (run one stop fuel left) (run two halt fuel right) := by
  induction fuel generalizing left right with
  | zero => exact spent related
  | succ fuel ih =>
      rcases step related with ⟨next, other, goes, follows, later⟩ | ⟨result, other, leaves,
          ends, same⟩
      · simp only [run, goes, follows]
        exact ih later
      · simp only [run, leaves, ends]
        exact same

/-! ## Where the loop leaves -/

/-- The same loop, leaving with the state in which it leaves. -/
def halting (body : σ → Pass σ ρ) (state : σ) : Pass σ σ :=
  match body state with
  | .again next => .again next
  | .leave _ => .leave state

/-- The state in which the loop leaves. -/
def last (body : σ → Pass σ ρ) (fuel : Nat) (initial : σ) : σ :=
  run (halting body) id fuel initial

theorem goes_halting_iff {body : σ → Pass σ ρ} {before after : σ} :
    Goes (halting body) before after ↔ Goes body before after := by
  unfold Goes halting
  cases body before with
  | again next => simp
  | leave result => simp

theorem visits_halting {body : σ → Pass σ ρ} {initial reached : σ}
    (visits : Visits body initial reached) : Visits (halting body) initial reached := by
  induction visits with
  | refl => exact .refl
  | tail _ goes ih => exact ih.tail (goes_halting_iff.mpr goes)

theorem last_eq {body : σ → Pass σ ρ} (measure : σ → Nat)
    (decreasing : ∀ {before after}, Goes body before after → measure after < measure before)
    {fuel : Nat} {initial reached : σ} {result : ρ} (enough : measure initial < fuel)
    (visits : Visits body initial reached) (leaves : body reached = .leave result) :
    last body fuel initial = reached := by
  have exits : Exits (halting body) initial (last body fuel initial) :=
    run_exits id measure (fun goes => decreasing (goes_halting_iff.mp goes)) enough
  exact exits.eq_of_leave (visits_halting visits) (by simp [halting, leaves])

end PassLoop
