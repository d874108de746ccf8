import Mathlib.Data.List.DropRight
import TitanShare.Library.ByteText

/-!
# Paths as byte strings

A path is the text before its first NUL, and its components stand between slashes.  A path whose
last component is empty, a dot or two dots leads to a folder or to nothing.  A path lies directly
inside a folder if its last component is an ordinary name behind the folder.
-/

namespace PathText

open ByteText

/-- What stands behind the last slash. -/
def lastComponent (path : Bytes) : Bytes :=
  path.rtakeWhile fun current => current != byte '/'

/-- The component of a path that stands for a folder instead of a name in one. -/
def IsDots (component : Bytes) : Prop :=
  component = [] ∨ component = ascii "." ∨ component = ascii ".."

instance (component : Bytes) : Decidable (IsDots component) := by
  unfold IsDots
  infer_instance

/-- The path leads to a folder, if it leads anywhere. -/
def LeadsToFolder (path : Bytes) : Prop :=
  IsDots (lastComponent path)

instance (path : Bytes) : Decidable (LeadsToFolder path) := by
  unfold LeadsToFolder
  infer_instance

/-- The path is a folder, a slash and one ordinary component. -/
def Inside (folder path : Bytes) : Prop :=
  ∃ component, path = folder ++ ascii "/" ++ component ∧ byte '/' ∉ component ∧ ¬ IsDots component

/-- Behind a folder and a slash, a component without slash is the last one. -/
theorem lastComponent_append {component : Bytes} (plain : byte '/' ∉ component) (folder : Bytes) :
    lastComponent (folder ++ ascii "/" ++ component) = component := by
  have ordinary : ∀ current ∈ component.reverse, (current != byte '/') = true := by
    intro current member
    simp only [bne_iff_ne, ne_eq]
    rintro rfl
    exact plain (List.mem_reverse.mp member)
  have slash : ascii "/" = [byte '/'] := by decide
  rw [lastComponent, List.rtakeWhile, List.reverse_append, List.takeWhile_append_of_pos ordinary,
    slash]
  simp

/-- A C string behind text without NUL. -/
theorem cString_append {text : Bytes} (plain : 0 ∉ text) (rest : Bytes) :
    cString (text ++ rest) = text ++ cString rest := by
  apply List.takeWhile_append_of_pos
  intro current member
  have different : current ≠ 0 := fun same => plain (same ▸ member)
  simpa using different

/-- A name without slash in a folder gives a path inside the folder, unless it leads to a folder. -/
theorem inside_of_name {folder name : Bytes} (plain : 0 ∉ folder) (noSlash : byte '/' ∉ name)
    (isName : ¬ LeadsToFolder (cString (folder ++ ascii "/" ++ name))) :
    Inside folder (cString (folder ++ ascii "/" ++ name)) := by
  have front : 0 ∉ folder ++ ascii "/" := by
    rw [List.mem_append]
    rintro (inFolder | inSlash)
    · exact plain inFolder
    · exact absurd inSlash (by decide)
  have component : byte '/' ∉ cString name := fun member =>
    noSlash ((List.takeWhile_prefix _).subset member)
  rw [cString_append front] at isName ⊢
  refine ⟨cString name, rfl, component, ?_⟩
  rwa [LeadsToFolder, lastComponent_append component] at isName

/-- Replacing a byte leaves none of it. -/
theorem not_mem_replace {old new : UInt8} (different : new ≠ old) (text : Bytes) :
    old ∉ replace old new text := by
  intro member
  obtain ⟨current, _, same⟩ := List.mem_map.mp member
  split at same
  · exact different same
  · rename_i other
    exact other same

/-- Replacing one byte brings back no other byte. -/
theorem not_mem_replace_of_not_mem {old new other : UInt8} (different : new ≠ other) {text : Bytes}
    (absent : other ∉ text) : other ∉ replace old new text := by
  intro member
  obtain ⟨current, isMember, same⟩ := List.mem_map.mp member
  split at same
  · exact different same
  · exact absent (same ▸ isMember)

end PathText
