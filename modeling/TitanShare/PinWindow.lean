import TitanShare.ClientSession
import TitanShare.Library.RollingWindow

/-!
# The window of pairing PINs

Every call of `generateSession` pushes the new current PIN behind the window and drops the oldest
one when there are more than `maxRecentPins`.  After any run of calls the window is therefore the
end of the list of all PINs that were ever current, and a PIN authenticates as long as it is among
the last ones.
-/

namespace TitanShare
namespace SessionManager

/-- `currentKey` -/
def currentKey (manager : SessionManager) : Bytes :=
  manager.currentPin

/-- One call of `generateSession`. -/
def rotate (manager : SessionManager) (rotation : Rotation) : SessionManager :=
  manager.generateSession rotation.preservePin rotation.persisted rotation.generated

/-- The PINs that a run of calls makes current, one after the other. -/
def currentPins : SessionManager → List Rotation → List Bytes
  | _, [] => []
  | manager, rotation :: rest =>
      (manager.rotate rotation).currentKey :: currentPins (manager.rotate rotation) rest

@[simp]
theorem length_currentPins (manager : SessionManager) (rotations : List Rotation) :
    (manager.currentPins rotations).length = rotations.length := by
  induction rotations generalizing manager with
  | nil => rfl
  | cons rotation rest ih => simp [currentPins, ih]

theorem currentPins_concat (manager : SessionManager) (rotations : List Rotation)
    (last : Rotation) :
    manager.currentPins (rotations ++ [last]) =
      manager.currentPins rotations ++
        [((rotations ++ [last]).foldl rotate manager).currentKey] := by
  induction rotations generalizing manager with
  | nil => rfl
  | cons rotation rest ih => simp [currentPins, ih]

theorem rotate_recentPins (manager : SessionManager) (rotation : Rotation) :
    (manager.rotate rotation).recentPins =
      RollingWindow.push Config.maxRecentPins manager.recentPins
        (manager.rotate rotation).currentKey := rfl

/-- A run of calls pushes the PINs that it makes current. -/
theorem recentPins_foldl (manager : SessionManager) (rotations : List Rotation) :
    (rotations.foldl rotate manager).recentPins =
      (manager.currentPins rotations).foldl (RollingWindow.push Config.maxRecentPins)
        manager.recentPins := by
  induction rotations generalizing manager with
  | nil => rfl
  | cons rotation rest ih =>
      rw [List.foldl_cons, ih, currentPins, List.foldl_cons, rotate_recentPins]

/-- After the first and any further calls of `generateSession` the window holds the last
`maxRecentPins` of all PINs that were current, the last of them is the current one, and exactly
these PINs are valid. -/
theorem pin_window (first : Rotation) (later : List Rotation) :
    let manager := (first :: later).foldl rotate initial
    let pins := initial.currentPins (first :: later)
    let count := later.length + 1
    pins.length = count ∧
      manager.recentPins = pins.drop (count - min count Config.maxRecentPins) ∧
      manager.recentPins.length = min count Config.maxRecentPins ∧
      manager.recentPins.getLast? = some manager.currentKey ∧
      pins[count - 1]? = some manager.currentKey ∧
      manager.validateKey manager.currentKey = true ∧
      ∀ pin, manager.validateKey pin = true ↔
        ∃ place, count < place + Config.maxRecentPins ∧ 1 ≤ place ∧ place ≤ count ∧
          pins[place - 1]? = some pin := by
  intro manager pins count
  have length : pins.length = count := length_currentPins initial (first :: later)
  have window : manager.recentPins = pins.rtake Config.maxRecentPins := by
    rw [← RollingWindow.foldl_push pins (by decide)]
    exact recentPins_foldl initial (first :: later)
  obtain ⟨front, last, split⟩ : ∃ front last, first :: later = front ++ [last] := by
    rcases List.eq_nil_or_concat (first :: later) with none | ⟨front, last, same⟩
    · cases none
    · exact ⟨front, last, by rw [same, List.concat_eq_append]⟩
  have ends : pins = initial.currentPins front ++ [manager.currentKey] := by
    simp only [pins, manager, split]
    exact currentPins_concat initial front last
  have final : pins[count - 1]? = some manager.currentKey := by
    have before : (initial.currentPins front).length = count - 1 := by
      rw [← length, ends, List.length_append, List.length_singleton, Nat.add_sub_cancel]
    rw [ends, ← before]
    exact List.getElem?_concat_length
  have valid : ∀ pin, manager.validateKey pin = true ↔
      ∃ place, count < place + Config.maxRecentPins ∧ 1 ≤ place ∧ place ≤ count ∧
        pins[place - 1]? = some pin := by
    intro pin
    rw [validateKey, decide_eq_true_iff, window, RollingWindow.mem_rtake_iff, length]
  have dropped : count - min count Config.maxRecentPins = pins.length - Config.maxRecentPins := by
    rw [length]
    omega
  refine ⟨length, ?_, ?_, ?_, final, ?_, valid⟩
  · rw [dropped]
    exact window
  · rw [window, List.rtake, List.length_drop, length]
    omega
  · have fits : Config.maxRecentPins = Config.maxRecentPins - 1 + 1 := by decide
    rw [window, ends, fits, List.rtake_concat_succ, List.getLast?_concat]
  · refine (valid _).mpr ⟨count, ?_, Nat.succ_pos _, le_refl _, final⟩
    exact Nat.lt_add_of_pos_right (by decide)

end SessionManager
end TitanShare
