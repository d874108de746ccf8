import Mathlib.Data.List.Induction

/-!
# Scheduled runs

A system of threads takes one action after the other; an action that is not possible in a state ends
the run without a result.  What every possible action keeps holds in every state a run reaches.
-/

namespace Scheduled

variable {σ α : Type*} {step : σ → α → Option σ}

/-- The state after a list of actions, each possible where it is taken. -/
def run (step : σ → α → Option σ) : σ → List α → Option σ
  | state, [] => some state
  | state, act :: acts => (step state act).bind fun next => run step next acts

/-- Every action of the run meets a condition where it is taken. -/
def Meets (step : σ → α → Option σ) (condition : σ → α → Prop) : σ → List α → Prop
  | _, [] => True
  | state, act :: acts =>
      condition state act ∧ ∀ next, step state act = some next → Meets step condition next acts

instance Meets.decidable (step : σ → α → Option σ) (condition : σ → α → Prop)
    [∀ state act, Decidable (condition state act)] :
    (state : σ) → (acts : List α) → Decidable (Meets step condition state acts)
  | _, [] => isTrue trivial
  | state, act :: acts =>
      match found : step state act with
      | none => decidable_of_iff (condition state act) (by simp [Meets, found])
      | some next =>
          have := Meets.decidable step condition next acts
          decidable_of_iff (condition state act ∧ Meets step condition next acts)
            (by simp [Meets, found])

@[simp]
theorem run_nil (state : σ) : run step state [] = some state := rfl

theorem run_cons_eq_some {state final : σ} {act : α} {acts : List α} :
    run step state (act :: acts) = some final ↔
      ∃ next, step state act = some next ∧ run step next acts = some final :=
  Option.bind_eq_some_iff

/-- What the actions that meet a condition keep holds after a run of such actions. -/
theorem Meets.keeps {condition : σ → α → Prop} {invariant : σ → Prop}
    (kept : ∀ {state act next}, invariant state → condition state act →
      step state act = some next → invariant next)
    {acts : List α} {state final : σ} (meets : Meets step condition state acts)
    (holds : invariant state) (ran : run step state acts = some final) : invariant final := by
  induction acts generalizing state with
  | nil =>
      obtain rfl := Option.some.inj ran
      exact holds
  | cons act acts ih =>
      obtain ⟨next, first, rest⟩ := run_cons_eq_some.mp ran
      exact ih (meets.2 next first) (kept holds meets.1 first) rest

theorem meets_of_forall {condition : σ → α → Prop} {acts : List α}
    (all : ∀ act ∈ acts, ∀ state, condition state act) (state : σ) :
    Meets step condition state acts := by
  induction acts generalizing state with
  | nil => trivial
  | cons act acts ih =>
      refine ⟨all act (by simp) state, fun next _ => ?_⟩
      exact ih (fun other member => all other (List.mem_cons_of_mem _ member)) next

/-- What an action sets in the states of an invariant, and no action takes back, is set at the end
of a run exactly if such an action was taken. -/
theorem raised_iff {invariant flag : σ → Prop} {condition : σ → α → Prop}
    (kept : ∀ {state act next}, invariant state → step state act = some next → invariant next)
    (raises : ∀ {state act next}, invariant state → step state act = some next →
      (flag next ↔ flag state ∨ condition state act))
    {acts : List α} {state final : σ} (holds : invariant state)
    (ran : run step state acts = some final) :
    flag final ↔ flag state ∨
      ∃ before act after middle, acts = before ++ act :: after ∧
        run step state before = some middle ∧ condition middle act := by
  induction acts generalizing state with
  | nil =>
      obtain rfl := Option.some.inj ran
      refine ⟨.inl, fun raised => raised.resolve_right ?_⟩
      rintro ⟨before, act, after, middle, split, -⟩
      simp at split
  | cons act acts ih =>
      obtain ⟨next, first, rest⟩ := run_cons_eq_some.mp ran
      rw [ih (kept holds first) rest, raises holds first]
      constructor
      · rintro ((set | met) | ⟨before, other, after, middle, rfl, reached, met⟩)
        · exact .inl set
        · exact .inr ⟨[], act, acts, state, rfl, rfl, met⟩
        · exact .inr ⟨act :: before, other, after, middle, rfl,
            run_cons_eq_some.mpr ⟨next, first, reached⟩, met⟩
      · rintro (set | ⟨before, other, after, middle, split, reached, met⟩)
        · exact .inl (.inl set)
        · cases before with
          | nil =>
              obtain ⟨rfl, rfl⟩ := List.cons.inj split
              obtain rfl := Option.some.inj reached
              exact .inl (.inr met)
          | cons earlier before =>
              obtain ⟨rfl, rfl⟩ := List.cons.inj split
              obtain ⟨second, same, reached⟩ := run_cons_eq_some.mp reached
              obtain rfl := Option.some.inj (first.symm.trans same)
              exact .inr ⟨before, other, after, middle, rfl, reached, met⟩

/-- A run with an action that meets a condition can be cut before the first of them. -/
theorem exists_of_not_meets {condition : σ → α → Prop} {acts : List α} {state : σ}
    (fails : ¬ Meets step (fun state act => ¬ condition state act) state acts) :
    ∃ before act after middle, acts = before ++ act :: after ∧
      run step state before = some middle ∧ condition middle act := by
  induction acts generalizing state with
  | nil => exact absurd trivial fails
  | cons act acts ih =>
      by_cases here : condition state act
      · exact ⟨[], act, acts, state, rfl, rfl, here⟩
      · have later : ∃ next, step state act = some next ∧
            ¬ Meets step (fun state act => ¬ condition state act) next acts := by
          by_contra none
          push Not at none
          exact fails ⟨here, none⟩
        obtain ⟨next, first, rest⟩ := later
        obtain ⟨before, other, after, middle, rfl, ran, met⟩ := ih rest
        exact ⟨act :: before, other, after, middle, rfl,
          run_cons_eq_some.mpr ⟨next, first, ran⟩, met⟩

theorem run_keeps {invariant : σ → Prop}
    (kept : ∀ {state act next}, invariant state → step state act = some next → invariant next)
    {acts : List α} {state final : σ} (holds : invariant state)
    (ran : run step state acts = some final) : invariant final := by
  have meets : Meets step (fun _ _ => True) state acts :=
    meets_of_forall (fun _ _ _ => trivial) state
  exact meets.keeps (fun holds _ first => kept holds first) holds ran

/-- Actions that each take something off a measure are few. -/
theorem run_spends (invariant : σ → Prop) (measure : σ → Nat) (counts : α → Bool)
    (kept : ∀ {state act next}, invariant state → step state act = some next →
      invariant next ∧ measure next + [act].countP counts ≤ measure state)
    {acts : List α} {state final : σ} (holds : invariant state)
    (ran : run step state acts = some final) :
    measure final + acts.countP counts ≤ measure state := by
  induction acts generalizing state with
  | nil =>
      obtain rfl := Option.some.inj ran
      exact Nat.le_refl _
  | cons act acts ih =>
      obtain ⟨next, first, rest⟩ := run_cons_eq_some.mp ran
      obtain ⟨still, one⟩ := kept holds first
      have others := ih still rest
      have parts : (act :: acts).countP counts = [act].countP counts + acts.countP counts := by
        rw [← List.countP_append, List.singleton_append]
      omega

/-- If there always is an action that takes something off a measure, the work can be done. -/
theorem exists_run_of_spends {invariant done : σ → Prop} (measure : σ → Nat)
    (goes : ∀ state, invariant state → ¬ done state →
      ∃ act next, step state act = some next ∧ invariant next ∧ measure next < measure state)
    {state : σ} (holds : invariant state) :
    ∃ acts final, run step state acts = some final ∧ done final := by
  induction rest : measure state using Nat.strongRecOn generalizing state with
  | _ rest ih =>
      by_cases ready : done state
      · exact ⟨[], state, rfl, ready⟩
      · obtain ⟨act, next, stepped, still, less⟩ := goes state holds ready
        obtain ⟨acts, final, ran, ends⟩ := ih (measure next) (by omega) still rfl
        exact ⟨act :: acts, final, run_cons_eq_some.mpr ⟨next, stepped, ran⟩, ends⟩

/-- A map of the states and the actions that every step respects is respected by runs. -/
theorem run_map {τ β : Type*} {other : τ → β → Option τ} (states : σ → τ) (actions : α → β)
    (respects : ∀ state act, (step state act).map states = other (states state) (actions act))
    (state : σ) (acts : List α) :
    (run step state acts).map states = run other (states state) (acts.map actions) := by
  induction acts generalizing state with
  | nil => rfl
  | cons act acts ih =>
      rw [run, List.map_cons, run, ← respects]
      cases step state act with
      | none => rfl
      | some next => exact ih next

/-! ## The actions so far -/

theorem run_append (state : σ) (earlier later : List α) :
    run step state (earlier ++ later) =
      (run step state earlier).bind fun middle => run step middle later := by
  induction earlier generalizing state with
  | nil => rfl
  | cons act earlier ih =>
      rw [List.cons_append, run, run, Option.bind_assoc]
      exact Option.bind_congr fun next _ => ih next

theorem run_concat_eq_some {state final : σ} {acts : List α} {act : α} :
    run step state (acts ++ [act]) = some final ↔
      ∃ middle, run step state acts = some middle ∧ step middle act = some final := by
  simp [run_append, Option.bind_eq_some_iff, run]

/-- What the actions so far and the state they lead to keep up together. -/
theorem run_history (invariant : List α → σ → Prop) {state : σ} (start : invariant [] state)
    (kept : ∀ {acts act middle next}, invariant acts middle → run step state acts = some middle →
      step middle act = some next → invariant (acts ++ [act]) next)
    {acts : List α} {final : σ} (ran : run step state acts = some final) :
    invariant acts final := by
  induction acts using List.reverseRecOn generalizing final with
  | nil =>
      obtain rfl := Option.some.inj ran
      exact start
  | append_singleton acts act ih =>
      obtain ⟨middle, before, last⟩ := run_concat_eq_some.mp ran
      exact kept (ih before) before last

/-- One of the actions was taken where a condition held. -/
def Happened (step : σ → α → Option σ) (condition : σ → α → Prop) (state : σ)
    (acts : List α) : Prop :=
  ∃ before act after middle, acts = before ++ act :: after ∧ run step state before = some middle ∧
    condition middle act

variable {state : σ} {acts : List α}

theorem not_happened_nil (condition : σ → α → Prop) : ¬ Happened step condition state [] := by
  rintro ⟨before, act, after, middle, split, -⟩
  simp at split

theorem happened_concat (condition : σ → α → Prop) {middle : σ}
    (ran : run step state acts = some middle) (act : α) :
    Happened step condition state (acts ++ [act]) ↔
      Happened step condition state acts ∨ condition middle act := by
  constructor
  · rintro ⟨before, other, after, reached, split, met, holds⟩
    rcases List.eq_nil_or_concat after with rfl | ⟨front, last, rfl⟩
    · obtain ⟨rfl, same⟩ := List.append_inj' split rfl
      obtain rfl := List.singleton_inj.mp same
      obtain rfl := Option.some.inj (ran.symm.trans met)
      exact .inr holds
    · rw [List.concat_eq_append, ← List.cons_append, ← List.append_assoc] at split
      obtain ⟨rfl, -⟩ := List.append_inj' split rfl
      exact .inl ⟨before, other, front, reached, rfl, met, holds⟩
  · rintro (⟨before, other, after, reached, rfl, met, holds⟩ | holds)
    · exact ⟨before, other, after ++ [act], reached, by simp, met, holds⟩
    · exact ⟨acts, act, [], middle, rfl, ran, holds⟩

end Scheduled
