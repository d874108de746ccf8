import Mathlib.Logic.Function.Basic
import TitanShare.Library.ByteText

/-!
# Files, names and descriptors

A flat directory of names, the contents of the files behind them, and the table of descriptors
opened for writing.  A file is opened with creation and truncation, and every descriptor writes
sequentially from the start, so its offset is the length of what was written through it.  Two
descriptors may stand on one file.
-/

/-- The part of a file system that descriptors opened for writing act on. -/
structure FileTable where
  /-- The file a name is bound to. -/
  directory : Bytes → Option Nat
  content : Nat → Bytes
  /-- The file an open descriptor stands on. -/
  opened : Nat → Option Nat
  /-- All bytes written through a descriptor so far, also after it was closed. -/
  written : Nat → Bytes
  nextFile : Nat
  nextDescriptor : Nat
  directory_lt : ∀ {name file}, directory name = some file → file < nextFile
  opened_lt : ∀ {descriptor file}, opened descriptor = some file →
    descriptor < nextDescriptor ∧ file < nextFile

namespace FileTable

/-- A directory without names. -/
def empty : FileTable where
  directory := fun _ => none
  content := fun _ => []
  opened := fun _ => none
  written := fun _ => []
  nextFile := 0
  nextDescriptor := 0
  directory_lt := by simp
  opened_lt := by simp

/-- Replace the bytes from `offset` on; a gap behind the end is filled with zeros. -/
def overwriteAt (content : Bytes) (offset : Nat) (bytes : Bytes) : Bytes :=
  content.take offset ++ List.replicate (offset - content.length) 0 ++ bytes ++
    content.drop (offset + bytes.length)

/-- The content behind a name. -/
def contentAt (table : FileTable) (name : Bytes) : Option Bytes :=
  (table.directory name).map table.content

/-- Some open descriptor stands on the file behind a name. -/
def busy (table : FileTable) (name : Bytes) : Bool :=
  (table.directory name).isSome &&
    (List.range table.nextDescriptor).any fun descriptor =>
      table.opened descriptor == table.directory name

/-- The file a creating open ends up on: the one bound to the name, else a new one. -/
def target (table : FileTable) (name : Bytes) : Nat :=
  (table.directory name).getD table.nextFile

theorem target_lt (table : FileTable) (name : Bytes) :
    table.target name < table.nextFile + 1 := by
  unfold target
  cases bound : table.directory name with
  | none => simp
  | some file =>
      have below := table.directory_lt bound
      simp only [Option.getD_some]
      omega

/-- Open a name for writing, creating or truncating its file; the new descriptor is
`table.nextDescriptor`. -/
def create (table : FileTable) (name : Bytes) : FileTable where
  directory := Function.update table.directory name (some (table.target name))
  content := Function.update table.content (table.target name) []
  opened := Function.update table.opened table.nextDescriptor (some (table.target name))
  written := Function.update table.written table.nextDescriptor []
  nextFile := table.nextFile + 1
  nextDescriptor := table.nextDescriptor + 1
  directory_lt := by
    intro other file bound
    by_cases same : other = name
    · subst same
      rw [Function.update_self, Option.some.injEq] at bound
      rw [← bound]
      exact table.target_lt other
    · rw [Function.update_of_ne same] at bound
      exact Nat.lt_succ_of_lt (table.directory_lt bound)
  opened_lt := by
    intro descriptor file bound
    by_cases same : descriptor = table.nextDescriptor
    · subst same
      rw [Function.update_self, Option.some.injEq] at bound
      rw [← bound]
      exact ⟨Nat.lt_succ_self _, table.target_lt name⟩
    · rw [Function.update_of_ne same] at bound
      have below := table.opened_lt bound
      exact ⟨Nat.lt_succ_of_lt below.1, Nat.lt_succ_of_lt below.2⟩

/-- Write bytes through an open descriptor at its offset. -/
def write (table : FileTable) (descriptor : Nat) (bytes : Bytes) : FileTable :=
  match table.opened descriptor with
  | none => table
  | some file =>
      if bytes = [] then table
      else
        { table with
          content := Function.update table.content file
            (overwriteAt (table.content file) (table.written descriptor).length bytes)
          written := Function.update table.written descriptor
            (table.written descriptor ++ bytes) }

/-- Close a descriptor. -/
def close (table : FileTable) (descriptor : Nat) : FileTable where
  directory := table.directory
  content := table.content
  opened := Function.update table.opened descriptor none
  written := table.written
  nextFile := table.nextFile
  nextDescriptor := table.nextDescriptor
  directory_lt := table.directory_lt
  opened_lt := by
    intro other file bound
    by_cases same : other = descriptor
    · subst same
      rw [Function.update_self] at bound
      cases bound
    · rw [Function.update_of_ne same] at bound
      exact table.opened_lt bound

/-! ## Reading the table after an operation -/

/-- A bound name stays bound to its file. -/
theorem create_directory_of_bound {table : FileTable} {name : Bytes} {file : Nat}
    (bound : table.directory name = some file) (other : Bytes) :
    (table.create other).directory name = some file := by
  by_cases same : name = other
  · subst same
    simp [create, target, bound]
  · simp [create, Function.update_of_ne same, bound]

@[simp]
theorem close_opened (table : FileTable) (descriptor : Nat) :
    (table.close descriptor).opened = Function.update table.opened descriptor none := rfl

@[simp]
theorem close_written (table : FileTable) (descriptor : Nat) :
    (table.close descriptor).written = table.written := rfl

@[simp]
theorem close_contentAt (table : FileTable) (descriptor : Nat) (name : Bytes) :
    (table.close descriptor).contentAt name = table.contentAt name := rfl

@[simp]
theorem write_opened (table : FileTable) (descriptor : Nat) (bytes : Bytes) :
    (table.write descriptor bytes).opened = table.opened := by
  unfold write
  split
  · rfl
  · split <;> rfl

@[simp]
theorem write_directory (table : FileTable) (descriptor : Nat) (bytes : Bytes) :
    (table.write descriptor bytes).directory = table.directory := by
  unfold write
  split
  · rfl
  · split <;> rfl

@[simp]
theorem write_nextDescriptor (table : FileTable) (descriptor : Nat) (bytes : Bytes) :
    (table.write descriptor bytes).nextDescriptor = table.nextDescriptor := by
  unfold write
  split
  · rfl
  · split <;> rfl

@[simp]
theorem write_nil (table : FileTable) (descriptor : Nat) : table.write descriptor [] = table := by
  unfold write
  split
  · rfl
  · simp

theorem write_written {table : FileTable} {descriptor file : Nat}
    (isOpen : table.opened descriptor = some file) (bytes : Bytes) :
    (table.write descriptor bytes).written =
      Function.update table.written descriptor (table.written descriptor ++ bytes) := by
  unfold write
  rw [isOpen]
  by_cases empty : bytes = []
  · simp [empty]
  · simp [empty]

theorem write_content {table : FileTable} {descriptor file : Nat}
    (isOpen : table.opened descriptor = some file) {bytes : Bytes} (some_bytes : bytes ≠ []) :
    (table.write descriptor bytes).content =
      Function.update table.content file
        (overwriteAt (table.content file) (table.written descriptor).length bytes) := by
  simp [write, isOpen, some_bytes]

/-- A write changes no other file. -/
theorem write_content_of_ne {table : FileTable} {descriptor file other : Nat}
    (isOpen : table.opened descriptor = some file) (different : other ≠ file) (bytes : Bytes) :
    (table.write descriptor bytes).content other = table.content other := by
  by_cases empty : bytes = []
  · simp [write, isOpen, empty]
  · rw [write_content isOpen empty, Function.update_of_ne different]

/-- A write at the end of a content appends. -/
theorem overwriteAt_length (content bytes : Bytes) :
    overwriteAt content content.length bytes = content ++ bytes := by
  simp [overwriteAt]

/-- A file that holds what its descriptor wrote still does after the next write. -/
theorem write_content_eq_written {table : FileTable} {descriptor file : Nat}
    (isOpen : table.opened descriptor = some file)
    (holds : table.content file = table.written descriptor) (bytes : Bytes) :
    (table.write descriptor bytes).content file =
      (table.write descriptor bytes).written descriptor := by
  rw [write_written isOpen, Function.update_self]
  by_cases empty : bytes = []
  · simp [write, isOpen, empty, holds]
  · rw [write_content isOpen empty, Function.update_self, holds, overwriteAt_length]

theorem overwriteAt_append (content : Bytes) (offset : Nat) (first second : Bytes) :
    overwriteAt (overwriteAt content offset first) (offset + first.length) second =
      overwriteAt content offset (first ++ second) := by
  let head := content.take offset ++ List.replicate (offset - content.length) 0 ++ first
  have shape : overwriteAt content offset first =
      head ++ content.drop (offset + first.length) := rfl
  have headLength : head.length = offset + first.length := by
    simp only [head, List.length_append, List.length_take, List.length_replicate]
    omega
  have whole : offset + first.length ≤ (overwriteAt content offset first).length := by
    rw [shape, List.length_append, headLength]
    omega
  have taken : (overwriteAt content offset first).take (offset + first.length) = head := by
    rw [shape, List.take_left' headLength]
  have dropped : (overwriteAt content offset first).drop (offset + first.length + second.length) =
      content.drop (offset + (first ++ second).length) := by
    rw [shape, ← List.drop_drop, List.drop_left' headLength, List.drop_drop, List.length_append,
      Nat.add_assoc]
  rw [overwriteAt, taken, dropped, Nat.sub_eq_zero_of_le whole]
  simp [overwriteAt, head, List.append_assoc]

/-- Writing in two pieces is writing at once. -/
theorem write_append (table : FileTable) (descriptor : Nat) (first second : Bytes) :
    (table.write descriptor first).write descriptor second =
      table.write descriptor (first ++ second) := by
  cases isOpen : table.opened descriptor with
  | none => simp [write, isOpen]
  | some file =>
      by_cases no_first : first = []
      · simp [write, isOpen, no_first]
      · by_cases no_second : second = []
        · have still : (table.write descriptor first).opened descriptor = some file := by
            rw [write_opened, isOpen]
          rw [no_second, List.append_nil]
          conv_lhs => rw [write, still]
          simp
        · have either : first ++ second ≠ [] := by simp [no_first]
          simp only [write, isOpen, no_first, no_second, either, if_false]
          congr 1
          · simp only [Function.update_self, Function.update_idem, List.length_append]
            rw [overwriteAt_append]
          · simp only [Function.update_self, Function.update_idem, List.append_assoc]

/-! ## A table and a later one -/

/-- An older descriptor keeps its file. -/
theorem create_opened_of_ne {table : FileTable} {descriptor : Nat} (name : Bytes)
    (different : descriptor ≠ table.nextDescriptor) :
    (table.create name).opened descriptor = table.opened descriptor := by
  simp [create, Function.update_of_ne different]

theorem create_opened_self (table : FileTable) (name : Bytes) :
    (table.create name).opened table.nextDescriptor = some (table.target name) := by
  simp [create]

/-- What opening, writing and closing leave of an earlier table: names stay bound, an older
descriptor is opened on no other file, and what was written through it stays written. -/
structure Evolves (before after : FileTable) : Prop where
  next : before.nextDescriptor ≤ after.nextDescriptor
  bound : ∀ {name file}, before.directory name = some file → after.directory name = some file
  opened : ∀ {descriptor file}, descriptor < before.nextDescriptor →
    after.opened descriptor = some file → before.opened descriptor = some file
  written : ∀ {descriptor}, descriptor < before.nextDescriptor →
    before.written descriptor <+: after.written descriptor

@[refl]
theorem Evolves.refl (table : FileTable) : table.Evolves table :=
  ⟨le_rfl, id, fun _ isOpen => isOpen, fun _ => List.prefix_refl _⟩

theorem Evolves.trans {first second third : FileTable} (left : first.Evolves second)
    (right : second.Evolves third) : first.Evolves third := by
  refine ⟨left.next.trans right.next, fun bound => right.bound (left.bound bound), ?_, ?_⟩
  · intro descriptor file old isOpen
    exact left.opened old (right.opened (lt_of_lt_of_le old left.next) isOpen)
  · intro descriptor old
    exact (left.written old).trans (right.written (lt_of_lt_of_le old left.next))

theorem evolves_create (table : FileTable) (name : Bytes) : table.Evolves (table.create name) := by
  refine ⟨Nat.le_succ _, fun bound => create_directory_of_bound bound name, ?_, ?_⟩
  · intro descriptor file old isOpen
    rwa [create_opened_of_ne name old.ne] at isOpen
  · intro descriptor old
    simp [create, Function.update_of_ne old.ne]

theorem evolves_write (table : FileTable) (descriptor : Nat) (bytes : Bytes) :
    table.Evolves (table.write descriptor bytes) := by
  refine ⟨by simp, by simp, by simp, ?_⟩
  intro other _
  cases isOpen : table.opened descriptor with
  | none => simp [write, isOpen]
  | some file =>
      rw [write_written isOpen]
      by_cases same : other = descriptor
      · subst same
        simp
      · simp [Function.update_of_ne same]

theorem evolves_close (table : FileTable) (descriptor : Nat) :
    table.Evolves (table.close descriptor) := by
  refine ⟨le_rfl, id, ?_, fun _ => List.prefix_refl _⟩
  intro other file _ isOpen
  by_cases same : other = descriptor
  · subst same
    simp at isOpen
  · simpa [Function.update_of_ne same] using isOpen

/-- What was written through a descriptor changes for good. -/
theorem Evolves.written_ne {first second third : FileTable} (left : first.Evolves second)
    (right : second.Evolves third) {descriptor : Nat} (old : descriptor < first.nextDescriptor)
    (changed : second.written descriptor ≠ first.written descriptor) :
    third.written descriptor ≠ first.written descriptor := by
  intro same
  have shorter := (left.written old).length_le
  have back := right.written (lt_of_lt_of_le old left.next)
  rw [same] at back
  exact changed (back.eq_of_length_le shorter)

/-- Opening a name empties its file and no other. -/
theorem create_content_of_ne {table : FileTable} {name : Bytes} {file : Nat}
    (different : file ≠ table.target name) :
    (table.create name).content file = table.content file := by
  simp [create, Function.update_of_ne different]

end FileTable
