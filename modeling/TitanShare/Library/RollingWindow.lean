import Mathlib.Data.List.DropRight

/-!
# Rolling windows

A window keeps the last `limit` entries of a sequence: a new entry is pushed behind it, and the
oldest one is dropped when it is full.
-/

namespace RollingWindow

variable {α : Type*}

/-- Push an entry, and drop the oldest one when there are more than `limit`. -/
def push (limit : Nat) (window : List α) (entry : α) : List α :=
  let pushed := window ++ [entry]
  if limit < pushed.length then pushed.tail else pushed

theorem mem_of_mem_push {limit : Nat} {window : List α} {entry other : α}
    (member : other ∈ push limit window entry) : other ∈ window ∨ other = entry := by
  have pushed : other ∈ window ++ [entry] := by
    simp only [push] at member
    split at member
    · exact List.mem_of_mem_tail member
    · exact member
  simpa using pushed

/-- Pushing behind the last entries of a sequence gives the last entries of the longer one. -/
theorem push_rtake (entries : List α) (entry : α) {limit : Nat} (positive : 0 < limit) :
    push limit (entries.rtake limit) entry = (entries ++ [entry]).rtake limit := by
  obtain ⟨below, rfl⟩ := Nat.exists_eq_add_of_lt positive
  simp only [push, Nat.zero_add, List.rtake_concat_succ, List.length_append, List.length_singleton]
  simp only [List.rtake, List.length_drop]
  split
  · rename_i full
    have something : entries.drop (entries.length - (below + 1)) ≠ [] := by
      apply List.ne_nil_of_length_pos
      rw [List.length_drop]
      omega
    rw [List.tail_append_of_ne_nil something, List.tail_drop]
    congr 2
    omega
  · have all : entries.length - (below + 1) = entries.length - below := by omega
    rw [all]

/-- A window that started empty holds the last entries that were pushed. -/
theorem foldl_push (entries : List α) {limit : Nat} (positive : 0 < limit) :
    entries.foldl (push limit) [] = entries.rtake limit := by
  induction entries using List.reverseRecOn with
  | nil => simp
  | append_singleton entries entry ih =>
      rw [List.foldl_append, List.foldl_cons, List.foldl_nil, ih, push_rtake entries entry positive]

/-- What a window holds, by the places of the sequence counted from one. -/
theorem mem_rtake_iff (entries : List α) (limit : Nat) (entry : α) :
    entry ∈ entries.rtake limit ↔
      ∃ place, entries.length < place + limit ∧ 1 ≤ place ∧ place ≤ entries.length ∧
        entries[place - 1]? = some entry := by
  rw [List.rtake, List.mem_iff_getElem?]
  constructor
  · rintro ⟨index, found⟩
    rw [List.getElem?_drop] at found
    have within : entries.length - limit + index < entries.length :=
      (List.getElem?_eq_some_iff.mp found).1
    refine ⟨entries.length - limit + index + 1, by omega, by omega, by omega, ?_⟩
    rw [Nat.add_sub_cancel]
    exact found
  · rintro ⟨place, late, positive, within, found⟩
    refine ⟨place - 1 - (entries.length - limit), ?_⟩
    rw [List.getElem?_drop]
    have same : entries.length - limit + (place - 1 - (entries.length - limit)) = place - 1 := by
      omega
    rw [same]
    exact found

end RollingWindow
