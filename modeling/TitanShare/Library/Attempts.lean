import Mathlib.Data.Nat.Basic
import Mathlib.Order.Basic
import Mathlib.Tactic.ByContra
import TitanShare.Library.PassLoop

/-!
# Loops that try again

Some states of a loop stand in front of a call, and the pass from such a state makes it.  The other
passes make none, and there are only finitely many of them in a row.  Such a loop makes its calls
one by one until it leaves.  If from some call on every call is either repeated or ends the loop,
then it leaves exactly with the first of these that ends it.
-/

namespace PassLoop

variable {σ ρ : Type*}

/-- Calls are made from the waiting states only, one by one, and other passes lower a rank. -/
structure Attempting (body : σ → Pass σ ρ) (calls : σ → Nat) (waits : σ → Prop) (rank : σ → Nat) :
    Prop where
  tries : ∀ {before after}, waits before → Goes body before after → calls after = calls before + 1
  rests : ∀ {before after}, ¬ waits before → Goes body before after →
    calls after = calls before ∧ rank after < rank before

/-- The loop leaves, and at most so many calls did not end it. -/
def LeavesBy (body : σ → Pass σ ρ) (calls : σ → Nat) (bound : Nat) (initial : σ) : Prop :=
  ∃ last result, Visits body initial last ∧ body last = .leave result ∧ calls last ≤ bound

/-- Whatever the loop visits is on the way to where it leaves. -/
theorem Visits.toward_last {body : σ → Pass σ ρ} {initial state last : σ} {result : ρ}
    (visits : Visits body initial state) (ends : Visits body initial last)
    (leaves : body last = .leave result) : Visits body state last := by
  induction visits with
  | refl => exact ends
  | tail _ goes ih =>
      rcases ih.cases_head with same | ⟨next, pass, rest⟩
      · subst same
        rw [Goes, leaves] at goes
        cases goes
      · rw [Goes, goes] at pass
        obtain rfl := Pass.again.inj pass
        exact rest

variable {body : σ → Pass σ ρ} {calls : σ → Nat} {waits : σ → Prop} {rank : σ → Nat}

theorem LeavesBy.of_visits {bound : Nat} {initial state : σ} (visits : Visits body initial state)
    (leaves : LeavesBy body calls bound state) : LeavesBy body calls bound initial := by
  obtain ⟨last, result, later, ends, few⟩ := leaves
  exact ⟨last, result, visits.trans later, ends, few⟩

namespace Attempting

/-- The loop comes to its next call or leaves in front of it. -/
theorem comes_to_wait (attempting : Attempting body calls waits rank) (initial : σ) :
    LeavesBy body calls (calls initial) initial ∨
      ∃ state, Visits body initial state ∧ waits state ∧ calls state = calls initial := by
  induction left : rank initial using Nat.strong_induction_on generalizing initial with
  | _ _ shorter =>
      by_cases waiting : waits initial
      · exact Or.inr ⟨initial, .refl, waiting, rfl⟩
      · cases pass : body initial with
        | leave result => exact Or.inl ⟨initial, result, .refl, pass, le_refl _⟩
        | again next =>
            have rested := attempting.rests waiting pass
            rcases shorter _ (left ▸ rested.2) next rfl with
                leaves | ⟨state, visits, waiting, count⟩
            · rw [rested.1] at leaves
              exact Or.inl (leaves.of_visits (.single pass))
            · exact Or.inr ⟨state, .head pass visits, waiting, count.trans rested.1⟩

/-- The loop comes to every later call, unless it leaves before. -/
theorem comes_to_call (attempting : Attempting body calls waits rank) {initial : σ} {count : Nat}
    (later : calls initial ≤ count) :
    LeavesBy body calls count initial ∨
      ∃ state, Visits body initial state ∧ waits state ∧ calls state = count := by
  induction left : count - calls initial generalizing initial with
  | zero =>
      obtain rfl : calls initial = count := by omega
      exact attempting.comes_to_wait initial
  | succ left ih =>
      rcases attempting.comes_to_wait initial with ⟨last, result, visits, leaves, few⟩ |
          ⟨state, visits, waiting, same⟩
      · exact Or.inl ⟨last, result, visits, leaves, few.trans later⟩
      · cases pass : body state with
        | leave result => exact Or.inl ⟨state, result, visits, pass, by omega⟩
        | again next =>
            have tried := attempting.tries waiting pass
            rcases @ih next (by omega) (by omega) with leaves | ⟨reached, onward, there⟩
            · exact Or.inl (leaves.of_visits (visits.tail pass))
            · exact Or.inr ⟨reached, (visits.tail pass).trans onward, there⟩

end Attempting

/-! ## Calls that are only repeated -/

/-- From some call on, a call either ends the loop or is made again. -/
structure Repeating (body : σ → Pass σ ρ) (calls : σ → Nat) (waits : σ → Prop) (first : Nat)
    (ends : Nat → Prop) : Prop where
  leaves : ∀ {state}, waits state → first ≤ calls state → ends (calls state) →
    ∃ result, body state = .leave result
  repeats : ∀ {state}, waits state → first ≤ calls state → ¬ ends (calls state) →
    ∃ next, body state = .again next ∧ waits next

variable {first : Nat} {ends : Nat → Prop}

namespace Repeating

/-- The loop that waits leaves with the first call that ends it. -/
theorem leavesBy_of_ends (repeating : Repeating body calls waits first ends)
    (attempting : Attempting body calls waits rank) {state : σ} {call bound : Nat}
    (waiting : waits state) (stalled : first ≤ calls state) (later : calls state ≤ call)
    (within : call ≤ bound) (last : ends call) : LeavesBy body calls bound state := by
  induction left : call - calls state generalizing state with
  | zero =>
      obtain rfl : calls state = call := by omega
      obtain ⟨result, leaves⟩ := repeating.leaves waiting stalled last
      exact ⟨state, result, .refl, leaves, within⟩
  | succ left ih =>
      by_cases now : ends (calls state)
      · obtain ⟨result, leaves⟩ := repeating.leaves waiting stalled now
        exact ⟨state, result, .refl, leaves, later.trans within⟩
      · obtain ⟨next, pass, again⟩ := repeating.repeats waiting stalled now
        have tried := attempting.tries waiting pass
        exact (ih again (by omega) (by omega) (by omega)).of_visits (.single pass)

theorem ends_of_leavesBy (repeating : Repeating body calls waits first ends)
    (attempting : Attempting body calls waits rank) {state : σ} {bound : Nat}
    (waiting : waits state) (stalled : first ≤ calls state)
    (leaves : LeavesBy body calls bound state) :
    ∃ call, calls state ≤ call ∧ call ≤ bound ∧ ends call := by
  obtain ⟨last, result, visits, ended, few⟩ := leaves
  induction visits using Relation.ReflTransGen.head_induction_on with
  | refl =>
      by_contra none
      have goesOn : ¬ ends (calls last) := fun now => none ⟨calls last, le_refl _, few, now⟩
      obtain ⟨next, pass, _⟩ := repeating.repeats waiting stalled goesOn
      rw [ended] at pass
      cases pass
  | @head state next pass _ ih =>
      by_cases now : ends (calls state)
      · obtain ⟨_, leaves⟩ := repeating.leaves waiting stalled now
        rw [Goes, leaves] at pass
        cases pass
      · obtain ⟨other, again, waiting'⟩ := repeating.repeats waiting stalled now
        obtain rfl := Pass.again.inj (again.symm.trans pass)
        have tried := attempting.tries waiting pass
        obtain ⟨call, later, within, last⟩ := ih waiting' (by omega)
        exact ⟨call, by omega, within, last⟩

/-- The loop leaves exactly if it does not wait for the first of the repeated calls, or if one of
the next calls ends it. -/
theorem leavesBy_iff (repeating : Repeating body calls waits first ends)
    (attempting : Attempting body calls waits rank) {initial : σ} (early : calls initial ≤ first)
    (more : Nat) :
    LeavesBy body calls (first + more) initial ↔
      ∀ state, Visits body initial state → waits state → calls state = first →
        ∃ call, first ≤ call ∧ call ≤ first + more ∧ ends call := by
  constructor
  · rintro ⟨last, result, visits, ended, few⟩ state reached waiting same
    have leaves : LeavesBy body calls (first + more) state :=
      ⟨last, result, reached.toward_last visits ended, ended, few⟩
    obtain ⟨call, later, within, fails⟩ :=
      repeating.ends_of_leavesBy attempting waiting same.ge leaves
    exact ⟨call, same ▸ later, within, fails⟩
  · intro fails
    rcases attempting.comes_to_call early with ⟨last, result, visits, ended, few⟩ |
        ⟨state, reached, waiting, same⟩
    · exact ⟨last, result, visits, ended, few.trans (Nat.le_add_right _ _)⟩
    · obtain ⟨call, later, within, last⟩ := fails state reached waiting same
      exact (repeating.leavesBy_of_ends attempting waiting same.ge (same ▸ later) within
        last).of_visits reached

end Repeating

end PassLoop
