import Mathlib.Algebra.Order.Group.Nat
import Mathlib.Data.List.Pairwise

/-!
# Paced moments

A list of moments comes in batches of a fixed size, and a pause separates each batch from the next.
Then few of the moments fall into one window of time.
-/

namespace Pacing

/-- Between the last moment of a full batch and the next moment lies a pause. -/
def Batched (size pause : Nat) (times : List Nat) : Prop :=
  ∀ index (inside : index + 1 < times.length), (index + 1) % size = 0 →
    times[index] + pause ≤ times[index + 1]

/-- Among any `size + 1` moments in a row there is a pause. -/
def Spaced (size pause : Nat) (times : List Nat) : Prop :=
  ∀ index (inside : index + size < times.length), times[index] + pause ≤ times[index + size]

/-- The moments in a closed window of time. -/
def within (first last : Nat) (times : List Nat) : List Nat :=
  times.filter fun time => first ≤ time ∧ time ≤ last

variable {size pause : Nat} {times : List Nat}

theorem batched_nil (size pause : Nat) : Batched size pause [] := by
  intro index inside
  simp at inside

/-- The next moment waits for the pause if a batch is full. -/
theorem Batched.append (batched : Batched size pause times) {time : Nat}
    (rested : times.length % size = 0 → ∀ last, times.getLast? = some last →
      last + pause ≤ time) : Batched size pause (times ++ [time]) := by
  intro index inside full
  rw [List.length_append, List.length_singleton] at inside
  rcases Nat.lt_or_ge (index + 1) times.length with earlier | latest
  · rw [List.getElem_append_left earlier,
      List.getElem_append_left (Nat.lt_of_succ_lt earlier)]
    exact batched index earlier full
  · have here : index < times.length := by omega
    have length : times.length - 1 = index := by omega
    have last : times.getLast? = some times[index] := by
      rw [List.getLast?_eq_getElem?, length, List.getElem?_eq_getElem here]
    have waits := rested (by rw [show times.length = index + 1 by omega]; exact full) _ last
    rw [List.getElem_append_left here, List.getElem_append_right latest]
    simpa using waits

theorem sorted_getElem (sorted : times.Pairwise (· ≤ ·)) {earlier later : Nat}
    (order : earlier ≤ later) (inside : later < times.length) :
    times[earlier] ≤ times[later] := by
  rcases Nat.eq_or_lt_of_le order with rfl | before
  · exact le_refl _
  · exact List.pairwise_iff_getElem.mp sorted earlier later _ inside before

theorem Batched.spaced (batched : Batched size pause times)
    (sorted : times.Pairwise (· ≤ ·)) (positive : 0 < size) : Spaced size pause times := by
  intro index inside
  have rest : index % size < size := Nat.mod_lt index positive
  obtain ⟨full, fromIndex, toNext, isFull⟩ :
      ∃ full, index ≤ full ∧ full + 1 ≤ index + size ∧ (full + 1) % size = 0 := by
    refine ⟨index + (size - 1 - index % size), by omega, by omega, ?_⟩
    have division := Nat.div_add_mod index size
    have whole : index + (size - 1 - index % size) + 1 = size * (index / size + 1) := by
      rw [Nat.mul_add, Nat.mul_one]
      omega
    rw [whole, Nat.mul_mod_right]
  calc
    times[index] + pause ≤ times[full] + pause :=
      Nat.add_le_add_right (sorted_getElem sorted fromIndex (by omega)) pause
    _ ≤ times[full + 1] := batched full (by omega) isFull
    _ ≤ times[index + size] := sorted_getElem sorted toNext inside

theorem Spaced.take (spaced : Spaced size pause times) (count : Nat) :
    Spaced size pause (times.take count) := by
  intro index inside
  have whole : index + size < times.length := by
    rw [List.length_take] at inside
    omega
  rw [List.getElem_take, List.getElem_take]
  exact spaced index whole

theorem within_append (first last : Nat) (front back : List Nat) :
    within first last (front ++ back) = within first last front ++ within first last back :=
  List.filter_append ..

theorem length_within_le (first last : Nat) (times : List Nat) :
    (within first last times).length ≤ times.length :=
  List.length_filter_le _ _

/-- Moments that a pause separates from the end of the window. -/
theorem within_of_paused {first last : Nat} (fits : pause ≤ last)
    (paused : ∀ time ∈ times, time + pause ≤ last) :
    within first last times = within first (last - pause) times := by
  apply List.filter_congr
  intro time member
  have early := paused time member
  simp only [decide_eq_decide]
  omega

/-- Cutting a pause off a window costs one batch. -/
theorem length_within_of_paused {first last : Nat} (positive : 0 < pause) (fits : pause ≤ last)
    (paused : ∀ time ∈ times, time + pause ≤ last)
    (few : (within first (last - pause) times).length ≤
      size * ((last - pause - first) / pause + 1)) :
    (within first last times).length ≤ size * ((last - first) / pause) := by
  rw [within_of_paused fits paused]
  rcases Nat.lt_or_ge (last - first) pause with short | long
  · have nothing : within first (last - pause) times = [] := by
      simp only [within, List.filter_eq_nil_iff, decide_eq_true_eq]
      omega
    simp [nothing]
  · have shift : last - first = last - pause - first + pause := by omega
    rw [shift, Nat.add_div_right _ positive]
    exact few

/-- Spaced moments are few in every window. -/
theorem length_within_of_spaced (positive : 0 < size) (pauses : 0 < pause) (first last : Nat)
    (times : List Nat) (sorted : times.Pairwise (· ≤ ·)) (spaced : Spaced size pause times) :
    (within first last times).length ≤ size * ((last - first) / pause + 1) := by
  -- cut off the last moment if it lies behind the window, else the last `size` moments
  induction length : times.length using Nat.strong_induction_on generalizing times last with
  | _ count ih =>
      rcases Nat.lt_or_ge size count with large | small
      · have inside : count - 1 < times.length := by omega
        rcases Nat.lt_or_ge last times[count - 1] with behind | upTo
        · have cut : times = times.take (count - 1) ++ [times[count - 1]] := by
            rw [List.take_append_getElem, List.take_of_length_le (by omega)]
          have outside : within first last [times[count - 1]] = [] := by
            simp [within, behind]
          rw [cut, within_append, outside, List.append_nil]
          exact ih (count - 1) (by omega) last _ (sorted.sublist (List.take_sublist _ _))
            (spaced.take _) (by rw [List.length_take]; omega)
        · have paused : ∀ time ∈ times.take (count - size), time + pause ≤ last := by
            intro time member
            obtain ⟨index, below, rfl⟩ := List.mem_take_iff_getElem.mp member
            have gap := spaced index (by omega)
            have order : times[index + size] ≤ times[count - 1] :=
              sorted_getElem sorted (by omega) inside
            omega
          have fits : pause ≤ last := by
            have gap := spaced 0 (by omega)
            have order : times[0 + size] ≤ times[count - 1] :=
              sorted_getElem sorted (by omega) inside
            omega
          have few := ih (count - size) (by omega) (last - pause) (times.take (count - size))
            (sorted.sublist (List.take_sublist _ _)) (spaced.take _)
            (by rw [List.length_take]; omega)
          have front := length_within_of_paused pauses fits paused few
          have back := length_within_le first last (times.drop (count - size))
          rw [List.length_drop] at back
          rw [← List.take_append_drop (count - size) times, within_append, List.length_append,
            Nat.mul_add, Nat.mul_one]
          omega
      · have few := length_within_le first last times
        have one : size ≤ size * ((last - first) / pause + 1) :=
          Nat.le_mul_of_pos_right size (Nat.succ_pos _)
        omega

/-! ## Single steps -/

/-- With a pause behind every moment, the pauses add up. -/
theorem Batched.add_mul_le (batched : Batched 1 pause times) {earlier later : Nat}
    (order : earlier ≤ later) (inside : later < times.length) :
    times[earlier] + (later - earlier) * pause ≤ times[later] := by
  induction later, order using Nat.le_induction with
  | base => simp
  | succ later order ih =>
      have before := ih (Nat.lt_of_succ_lt inside)
      have pauses := batched later inside (Nat.mod_one _)
      rw [Nat.succ_sub order, Nat.succ_mul]
      omega

/-- Every moment comes before the last one is old. -/
def Dense (limit : Nat) (times : List Nat) : Prop :=
  ∀ index (inside : index + 1 < times.length), times[index + 1] ≤ times[index] + limit

variable {limit : Nat}

theorem dense_nil (limit : Nat) : Dense limit [] := by
  intro index inside
  simp at inside

theorem Dense.append (dense : Dense limit times) {time : Nat}
    (soon : ∀ last, times.getLast? = some last → time ≤ last + limit) :
    Dense limit (times ++ [time]) := by
  intro index inside
  rw [List.length_append, List.length_singleton] at inside
  have here : index < times.length := by omega
  rw [List.getElem_append_left here]
  rcases Nat.lt_or_ge (index + 1) times.length with earlier | latest
  · rw [List.getElem_append_left earlier]
    exact dense index earlier
  · have length : times.length - 1 = index := by omega
    rw [List.getElem_append_right latest]
    simpa using soon times[index]
      (by rw [List.getLast?_eq_getElem?, length, List.getElem?_eq_getElem here])

theorem Dense.le_add_mul (dense : Dense limit times) {earlier later : Nat}
    (order : earlier ≤ later) (inside : later < times.length) :
    times[later] ≤ times[earlier] + (later - earlier) * limit := by
  induction later, order using Nat.le_induction with
  | base => simp
  | succ later order ih =>
      have before := ih (Nat.lt_of_succ_lt inside)
      have soon := dense later inside
      rw [Nat.succ_sub order, Nat.succ_mul]
      omega

end Pacing
