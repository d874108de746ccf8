import TitanShare.Library.FolderTree
import TitanShare.Library.PathText
import TitanShare.Library.Words

/-!
# Files dropped on the window

`handleDroppedFiles` replaces a file of the sending folder by each dropped one: the file in its
place is removed first and then the dropped one is copied.  A copy never harms a file.  The removal
does, if the name it removes is one that the path of a dropped file leads through, as that of a file
dropped out of the sending folder itself.
-/

namespace TitanShare

open ByteText FolderTree

/-! ## The file system -/

/-- The files of the machine, and the folder that relative paths start in. -/
structure FileSystem where
  tree : Tree Nat Bytes Bytes
  working : Nat

/-- A name in a folder can be unlinked if it stands for something other than a folder. -/
def removable : Option (Node Nat Bytes Bytes) → Bool
  | none => false
  | some (.folder _) => false
  | some _ => true

/-- What becomes of a copy that is started. -/
inductive CopyOutcome where
  | whole
  | part (length : Nat)
  | nothing

/-- The path up to its last slash. -/
def parentPath (path : Bytes) : Bytes :=
  path.rdropWhile fun current => current != byte '/'

namespace FileSystem

/-- The walk down a path. -/
def resolve (fs : FileSystem) (path : Bytes) : Walk Nat Bytes Bytes :=
  let start := if path.head? = some (byte '/') then fs.tree.root else fs.working
  fs.tree.lookup start (Words.words (· == byte '/') path)

/-- What the regular file at a path holds. -/
def read (fs : FileSystem) (path : Bytes) : Option Bytes :=
  if PathText.lastComponent path = [] then none
  else match (fs.resolve path).result with
    | some (.file content) => some content
    | _ => none

/-- `QFileInfo::isFile` -/
def isFile (fs : FileSystem) (path : Bytes) : Bool :=
  (fs.read path).isSome

/-- The folder at a path. -/
def folder? (fs : FileSystem) (path : Bytes) : Option Nat :=
  match (fs.resolve path).result with
  | some (.folder inner) => some inner
  | _ => none

/-- `QDir::exists` -/
def isFolder (fs : FileSystem) (path : Bytes) : Bool :=
  (fs.folder? path).isSome

/-- The name in a folder that a path ends in. -/
def slot? (fs : FileSystem) (path : Bytes) : Option (Nat × Bytes) :=
  (fs.folder? (parentPath path)).map fun inner => (inner, PathText.lastComponent path)

/-- One name changed. -/
def put (fs : FileSystem) (slot : Nat × Bytes) (node : Option (Node Nat Bytes Bytes)) :
    FileSystem :=
  { fs with tree := fs.tree.put slot node }

/-- `QFile::remove`, which may also fail. -/
def remove (fs : FileSystem) (path : Bytes) (removes : Bool) : FileSystem :=
  match fs.slot? path with
  | none => fs
  | some slot =>
      if removes && removable (fs.tree.entry slot.1 slot.2) then fs.put slot none else fs

/-- `QFile::copy`, which needs a source that can be read and a destination that does not exist. -/
def copy (fs : FileSystem) (src dst : Bytes) (outcome : CopyOutcome) : FileSystem :=
  match fs.read src, fs.slot? dst with
  | some content, some slot =>
      if (fs.tree.entry slot.1 slot.2).isSome then fs
      else match outcome with
        | .whole => fs.put slot (some (.file content))
        | .part length => fs.put slot (some (.file (content.take length)))
        | .nothing => fs
  | _, _ => fs

/-- Everything that existed is still there. -/
def Extends (fs other : FileSystem) : Prop :=
  fs.tree.Grows other.tree ∧ other.working = fs.working

/-! ## What the calls do to a file -/

variable {fs other : FileSystem} {path content : Bytes}

/-- A regular file is what its walk leads to. -/
theorem result_of_read (reads : fs.read path = some content) :
    (fs.resolve path).result = some (.file content) := by
  unfold read at reads
  split at reads
  · simp at reads
  · split at reads
    · rename_i found
      rw [found, Option.some.inj reads]
    · simp at reads

theorem leads_of_read (reads : fs.read path = some content) : (fs.resolve path).result ≠ none := by
  rw [result_of_read reads]
  exact Option.some_ne_none _

theorem present_of_read (reads : fs.read path = some content) :
    ∀ slot ∈ (fs.resolve path).passed, fs.tree.entry slot.1 slot.2 ≠ none :=
  Tree.lookup_present (leads_of_read reads)

/-- A file stays as long as no name changes that its path leads through. -/
theorem resolve_put {slot : Nat × Bytes} (apart : slot ∉ (fs.resolve path).passed)
    (node : Option (Node Nat Bytes Bytes)) : (fs.put slot node).resolve path = fs.resolve path :=
  Tree.lookup_put apart node

theorem read_put {slot : Nat × Bytes} (apart : slot ∉ (fs.resolve path).passed)
    (node : Option (Node Nat Bytes Bytes)) : (fs.put slot node).read path = fs.read path := by
  unfold read
  rw [resolve_put apart]

/-- Files stay where only new names are added. -/
theorem read_of_extends (extends' : fs.Extends other) (reads : fs.read path = some content) :
    other.read path = some content := by
  have same : other.resolve path = fs.resolve path := by
    unfold resolve
    rw [extends'.1.1.1, extends'.2]
    exact Tree.lookup_grows extends'.1 (leads_of_read reads)
  rw [← reads]
  unfold read
  rw [same]

/-- A copy harms no file. -/
theorem read_copy (src dst : Bytes) (outcome : CopyOutcome) (reads : fs.read path = some content) :
    (fs.copy src dst outcome).read path = some content := by
  have added : ∀ slot, ¬ (fs.tree.entry slot.1 slot.2).isSome = true → ∀ node,
      (fs.put slot node).read path = some content := by
    intro slot absent node
    have apart : slot ∉ (fs.resolve path).passed := fun member =>
      present_of_read reads slot member (by simpa using absent)
    rw [read_put apart, reads]
  unfold copy
  split
  · split
    · exact reads
    · rename_i absent
      split
      · exact added _ absent _
      · exact added _ absent _
      · exact reads
  · exact reads

/-- A removal harms no file whose path does not lead through the removed name. -/
theorem read_remove {dst : Bytes} (removes : Bool)
    (spared : ∀ slot, fs.slot? dst = some slot → removable (fs.tree.entry slot.1 slot.2) = true →
      slot ∉ (fs.resolve path).passed)
    (reads : fs.read path = some content) : (fs.remove dst removes).read path = some content := by
  unfold remove
  split
  · exact reads
  · rename_i slot named
    split
    · rename_i happens
      have apart := spared slot named (Bool.and_eq_true_iff.mp happens).2
      rw [read_put apart, reads]
    · exact reads

/-- A file is lost with a name that its path leads through. -/
theorem read_put_none {slot : Nat × Bytes} (through : slot ∈ (fs.resolve path).passed) :
    (fs.put slot none).read path = none := by
  have nowhere : ((fs.put slot none).resolve path).result = none :=
    Tree.lookup_cut (Tree.shrinks_put slot) (Tree.entry_put_self slot none) through
  unfold read
  rw [nowhere]
  simp

end FileSystem

/-! ## The dropped items -/

/-- A dropped URL, as Qt reads it. -/
structure DroppedUrl where
  isLocalFile : Bool
  toLocalFile : Bytes

/-- How the two calls for an item go. -/
structure DropOutcome where
  removes : Bool
  copies : CopyOutcome

/-- The sending folder of a home. -/
def sendFolder (home : Bytes) : Bytes :=
  if home ≠ [] then home ++ ascii "/.local/share/titanshare/send_to_android/"
  else ascii "/var/lib/titanshare/send_to_android/"

/-- One pass of the loop. -/
def dropItem (destDir : Bytes) (fs : FileSystem) (url : DroppedUrl) (outcome : DropOutcome) :
    FileSystem :=
  if url.isLocalFile then
    let src := url.toLocalFile
    if fs.isFile src then
      let dst := destDir ++ PathText.lastComponent src
      (fs.remove dst outcome.removes).copy src dst outcome.copies
    else fs
  else fs

/-- The loop. -/
def dropItems (destDir : Bytes) (fs : FileSystem) :
    List DroppedUrl → (Nat → DropOutcome) → FileSystem
  | [], _ => fs
  | url :: rest, outcomes =>
      dropItems destDir (dropItem destDir fs url (outcomes 0)) rest fun turn => outcomes (turn + 1)

/-- The sending folder is made if it is missing. -/
def makeSendFolder (mkpath : FileSystem → Bytes → FileSystem) (fs : FileSystem) (destDir : Bytes) :
    FileSystem :=
  if fs.isFolder destDir then fs else mkpath fs destDir

/-- `AppModel::handleDroppedFiles` -/
def handleDroppedFiles (mkpath : FileSystem → Bytes → FileSystem) (home : Bytes) (fs : FileSystem)
    (urls : List DroppedUrl) (outcomes : Nat → DropOutcome) : FileSystem :=
  let destDir := sendFolder home
  dropItems destDir (makeSendFolder mkpath fs destDir) urls outcomes

/-- Files by their paths and contents are all there. -/
def Holds (files : Bytes → Bytes → Prop) (fs : FileSystem) : Prop :=
  ∀ path content, files path content → fs.read path = some content

/-- The local regular files among the dropped items, with what they hold at first. -/
def Dropped (fs : FileSystem) (urls : List DroppedUrl) (path content : Bytes) : Prop :=
  ∃ url ∈ urls, url.isLocalFile = true ∧ url.toLocalFile = path ∧ fs.read path = some content

/-- What an item removes is not a name that the path of one of the files leads through. -/
def Spares (files : Bytes → Bytes → Prop) (destDir : Bytes) (fs : FileSystem) (url : DroppedUrl) :
    Prop :=
  url.isLocalFile = true → fs.isFile url.toLocalFile = true →
  ∀ slot, fs.slot? (destDir ++ PathText.lastComponent url.toLocalFile) = some slot →
    removable (fs.tree.entry slot.1 slot.2) = true →
    ∀ path content, files path content → slot ∉ (fs.resolve path).passed

variable {files : Bytes → Bytes → Prop} {destDir : Bytes} {fs : FileSystem} {url : DroppedUrl}

theorem dropItem_of_isFile (isLocal : url.isLocalFile = true)
    (isFile : fs.isFile url.toLocalFile = true) (outcome : DropOutcome) :
    dropItem destDir fs url outcome =
      (fs.remove (destDir ++ PathText.lastComponent url.toLocalFile) outcome.removes).copy
        url.toLocalFile (destDir ++ PathText.lastComponent url.toLocalFile) outcome.copies := by
  simp only [dropItem, isLocal, isFile, if_true]

theorem dropItem_of_other (other : ¬ (url.isLocalFile = true ∧ fs.isFile url.toLocalFile = true))
    (outcome : DropOutcome) : dropItem destDir fs url outcome = fs := by
  by_cases isLocal : url.isLocalFile = true
  · have noFile : ¬ fs.isFile url.toLocalFile = true := fun isFile => other ⟨isLocal, isFile⟩
    simp only [dropItem, isLocal, if_true, if_neg noFile]
  · simp only [dropItem, if_neg isLocal]

/-- An item that spares the files keeps them. -/
theorem dropItem_holds (spares : Spares files destDir fs url) (outcome : DropOutcome)
    (holds : Holds files fs) : Holds files (dropItem destDir fs url outcome) := by
  by_cases turn : url.isLocalFile = true ∧ fs.isFile url.toLocalFile = true
  · intro path content isOne
    rw [dropItem_of_isFile turn.1 turn.2]
    apply FileSystem.read_copy
    apply FileSystem.read_remove outcome.removes _ (holds path content isOne)
    intro slot named isRemovable
    exact spares turn.1 turn.2 slot named isRemovable path content isOne
  · rw [dropItem_of_other turn]
    exact holds

/-- The loop keeps the files if each item spares them when its turn comes. -/
theorem dropItems_holds {urls : List DroppedUrl} {outcomes : Nat → DropOutcome}
    (spares : ∀ before url after, urls = before ++ url :: after →
      Spares files destDir (dropItems destDir fs before outcomes) url)
    (holds : Holds files fs) : Holds files (dropItems destDir fs urls outcomes) := by
  induction urls generalizing fs outcomes with
  | nil => exact holds
  | cons url rest ih =>
      have first : Spares files destDir fs url := spares [] url rest rfl
      apply ih
      · intro before next after split
        exact spares (url :: before) next after (congrArg (url :: ·) split)
      · exact dropItem_holds first (outcomes 0) holds

/-! ## Nothing else keeps them -/

/-- The removal and the copy both fail. -/
def DropOutcome.idle : DropOutcome where
  removes := false
  copies := .nothing

/-- The copy fails behind the removal. -/
def DropOutcome.lost : DropOutcome where
  removes := true
  copies := .nothing

theorem FileSystem.copy_nothing (fs : FileSystem) (src dst : Bytes) :
    fs.copy src dst .nothing = fs := by
  unfold copy
  split
  · split
    · rfl
    · rfl
  · rfl

theorem dropItem_idle : dropItem destDir fs url .idle = fs := by
  by_cases turn : url.isLocalFile = true ∧ fs.isFile url.toLocalFile = true
  · rw [dropItem_of_isFile turn.1 turn.2, DropOutcome.idle, FileSystem.copy_nothing]
    unfold FileSystem.remove
    split
    · rfl
    · simp
  · rw [dropItem_of_other turn]

theorem dropItems_idle (urls : List DroppedUrl) :
    dropItems destDir fs urls (fun _ => .idle) = fs := by
  induction urls with
  | nil => rfl
  | cons url rest ih =>
      rw [dropItems, dropItem_idle]
      exact ih

/-- Where an item does not spare the files, one of them can be lost for good. -/
theorem spares_of_always_holds {rest : List DroppedUrl}
    (always : ∀ outcomes, Holds files (dropItems destDir fs (url :: rest) outcomes)) :
    Spares files destDir fs url := by
  intro isLocal isFile slot named isRemovable path content isOne through
  -- only the removal for this item happens
  have kept := always (fun turn => if turn = 0 then .lost else .idle) path content isOne
  have behind : dropItems destDir fs (url :: rest) (fun turn => if turn = 0 then .lost else .idle) =
      dropItem destDir fs url .lost :=
    dropItems_idle rest
  have removed : dropItem destDir fs url .lost = fs.put slot none := by
    rw [dropItem_of_isFile isLocal isFile, DropOutcome.lost, FileSystem.copy_nothing,
      FileSystem.remove, named]
    simp [isRemovable]
  rw [behind, removed, FileSystem.read_put_none through] at kept
  simp at kept

theorem spares_of_always_holds_append (before : List DroppedUrl) {after : List DroppedUrl}
    (always : ∀ outcomes, Holds files (dropItems destDir fs (before ++ url :: after) outcomes))
    (outcomes : Nat → DropOutcome) :
    Spares files destDir (dropItems destDir fs before outcomes) url := by
  induction before generalizing fs outcomes with
  | nil => exact spares_of_always_holds always
  | cons first before ih =>
      apply ih
      intro others
      have both := always fun turn => if turn = 0 then outcomes 0 else others (turn - 1)
      simpa [dropItems] using both

theorem dropped_holds_makeSendFolder {mkpath : FileSystem → Bytes → FileSystem}
    (adds : ∀ (fs : FileSystem) path, fs.Extends (mkpath fs path)) (urls : List DroppedUrl) :
    Holds (Dropped fs urls) (makeSendFolder mkpath fs destDir) := by
  rintro path content ⟨url, _, _, _, reads⟩
  unfold makeSendFolder
  split
  · exact reads
  · exact FileSystem.read_of_extends (adds fs destDir) reads

/-- The dropped files are kept however the calls go exactly if every item spares them at its
turn. -/
theorem dropped_files_kept_iff (mkpath : FileSystem → Bytes → FileSystem)
    (adds : ∀ (fs : FileSystem) path, fs.Extends (mkpath fs path)) (home : Bytes) (fs : FileSystem)
    (urls : List DroppedUrl) :
    (∀ outcomes, Holds (Dropped fs urls) (handleDroppedFiles mkpath home fs urls outcomes)) ↔
      ∀ outcomes before url after, urls = before ++ url :: after →
        Spares (Dropped fs urls) (sendFolder home)
          (handleDroppedFiles mkpath home fs before outcomes) url := by
  constructor
  · intro always outcomes before url after split
    rw [split] at always
    have spares := spares_of_always_holds_append before always outcomes
    rwa [← split] at spares
  · intro spares outcomes
    exact dropItems_holds (spares outcomes) (dropped_holds_makeSendFolder adds urls)

/-- A machine with a file in the sending folder and one outside. -/
def twoFiles : FileSystem where
  working := 0
  tree :=
    { root := 0
      maxLinks := 40
      entry := fun folder name => List.lookup (folder, name)
        [((0, ascii "var"), .folder 1), ((1, ascii "lib"), .folder 2),
          ((2, ascii "titanshare"), .folder 3), ((3, ascii "send_to_android"), .folder 4),
          ((4, ascii "a"), .file (ascii "old")), ((0, ascii "b"), .file (ascii "new"))] }

theorem dropped_files_kept_iff_outside :
    Holds (Dropped twoFiles [⟨true, ascii "/b"⟩])
      (handleDroppedFiles (fun fs _ => fs) [] twoFiles [⟨true, ascii "/b"⟩]
        fun _ => ⟨true, .whole⟩) := by
  have adds : ∀ (fs : FileSystem) (path : Bytes), fs.Extends fs :=
    fun _ _ => ⟨⟨⟨rfl, rfl⟩, fun _ _ _ => rfl⟩, rfl⟩
  refine (dropped_files_kept_iff (fun fs _ => fs) adds [] twoFiles [⟨true, ascii "/b"⟩]).mpr ?_ _
  intro outcomes before url after split
  cases before with
  | nil =>
      obtain ⟨rfl, _⟩ := List.cons.inj split
      intro _ _ slot named isRemovable
      have ready : handleDroppedFiles (fun fs _ => fs) [] twoFiles [] outcomes = twoFiles := by
        simp [handleDroppedFiles, makeSendFolder, dropItems]
      have free : twoFiles.slot? (sendFolder [] ++ PathText.lastComponent (ascii "/b")) =
          some (4, ascii "b") := by decide
      rw [ready] at named isRemovable
      rw [Option.some.inj (named.symm.trans free)] at isRemovable
      exact absurd isRemovable (by decide)
  | cons first before => simp at split

/-- A file that is dropped out of the sending folder is removed, and then there is nothing to
copy. -/
theorem dropped_file_lost :
    ¬ Holds (Dropped twoFiles [⟨true, ascii "/var/lib/titanshare/send_to_android/a"⟩])
      (handleDroppedFiles (fun fs _ => fs) [] twoFiles
        [⟨true, ascii "/var/lib/titanshare/send_to_android/a"⟩] fun _ => ⟨true, .whole⟩) := by
  intro holds
  have kept := holds (ascii "/var/lib/titanshare/send_to_android/a") (ascii "old")
    ⟨_, List.mem_singleton_self _, rfl, rfl, by decide⟩
  exact absurd kept (by decide)

end TitanShare
