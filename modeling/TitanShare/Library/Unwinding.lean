import Mathlib.Logic.Basic

/-!
# Runs seen by one observer

A system takes inputs of several parties.  An observer relates two states that he cannot tell apart.
If that relation survives the inputs he may know of, taken on both sides, and the inputs he must not
know of, taken on one side and blanked on the other, then no run tells him anything about the
latter.
-/

namespace Unwinding

variable {σ ι : Type*}

/-- The inputs of a run, with those an observer must not know of replaced by blanks. -/
def purge (visible : ι → Bool) (blank : ι → ι) (inputs : List ι) : List ι :=
  inputs.map fun input => if visible input then input else blank input

/-- The relation of the observer survives one input. -/
structure Unwinds (step : σ → ι → σ) (visible : ι → Bool) (blank : ι → ι)
    (view : σ → σ → Prop) : Prop where
  consistent : ∀ {left right input}, visible input = true → view left right →
    view (step left input) (step right input)
  respects : ∀ {left right input}, visible input = false → view left right →
    view (step left input) (step right (blank input))

variable {step : σ → ι → σ} {visible : ι → Bool} {blank : ι → ι} {view : σ → σ → Prop}

/-- A run and the purged run look the same. -/
theorem Unwinds.run (unwinds : Unwinds step visible blank view) (inputs : List ι)
    {left right : σ} (same : view left right) :
    view (inputs.foldl step left) ((purge visible blank inputs).foldl step right) := by
  induction inputs generalizing left right with
  | nil => exact same
  | cons input inputs ih =>
      simp only [purge, List.map_cons, List.foldl_cons]
      apply ih
      cases isVisible : visible input with
      | true => simpa using unwinds.consistent isVisible same
      | false => simpa using unwinds.respects isVisible same

end Unwinding
