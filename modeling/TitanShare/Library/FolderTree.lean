import Mathlib.Data.List.Basic
import Mathlib.Logic.Function.Basic

/-!
# Names in folders

A tree of folders says what each name stands for in each folder: a file, another folder, a link to
names that are walked in its place, or something else.  Walking down a list of names passes the
names it depends on.  A walk is the same in every tree that agrees on these, and leads nowhere once
one of them is gone.
-/

namespace FolderTree

variable {Folder Name Content : Type*}

/-- What a name stands for. -/
inductive Node (Folder Name Content : Type*) where
  | file (content : Content)
  | folder (inner : Folder)
  | link (fromRoot : Bool) (target : List Name)
  | special

/-- The names of all folders, and the number of links that one walk may follow. -/
structure Tree (Folder Name Content : Type*) where
  root : Folder
  maxLinks : Nat
  entry : Folder → Name → Option (Node Folder Name Content)

/-- The names a walk passes, each in its folder, and what it leads to. -/
structure Walk (Folder Name Content : Type*) where
  passed : List (Folder × Name)
  result : Option (Node Folder Name Content)

namespace Tree

variable (tree : Tree Folder Name Content)

/-- A walk down the names up to the first link, which is followed as told. -/
def walkBy (follow : Folder → List Name → Walk Folder Name Content) :
    Folder → List Name → Walk Folder Name Content
  | folder, [] => ⟨[], some (.folder folder)⟩
  | folder, name :: rest =>
      let behind := match tree.entry folder name with
        | some (.folder inner) => walkBy follow inner rest
        | some (.link fromRoot target) =>
            follow (if fromRoot then tree.root else folder) (target ++ rest)
        | other => ⟨[], if rest.isEmpty then other else none⟩
      ⟨(folder, name) :: behind.passed, behind.result⟩

/-- A walk that follows so many links and no more. -/
def walk : Nat → Folder → List Name → Walk Folder Name Content
  | 0 => tree.walkBy fun _ _ => ⟨[], none⟩
  | links + 1 => tree.walkBy (walk links)

/-- A walk down the names. -/
def lookup (folder : Folder) (names : List Name) : Walk Folder Name Content :=
  tree.walk tree.maxLinks folder names

/-- The tree differs in its names at most. -/
def SameShape (other : Tree Folder Name Content) : Prop :=
  other.root = tree.root ∧ other.maxLinks = tree.maxLinks

/-- Every name stands for what it stood for, or for nothing. -/
def Shrinks (other : Tree Folder Name Content) : Prop :=
  tree.SameShape other ∧ ∀ folder name,
    other.entry folder name = tree.entry folder name ∨ other.entry folder name = none

/-- Every name that stood for something still stands for it. -/
def Grows (other : Tree Folder Name Content) : Prop :=
  tree.SameShape other ∧ ∀ folder name,
    tree.entry folder name ≠ none → other.entry folder name = tree.entry folder name

variable {tree} {other : Tree Folder Name Content}

/-! ## Changing one name -/

section Put

variable [DecidableEq Folder] [DecidableEq Name]

/-- The tree with one name standing for something else, or for nothing. -/
def put (tree : Tree Folder Name Content) (slot : Folder × Name)
    (node : Option (Node Folder Name Content)) : Tree Folder Name Content :=
  { tree with entry := fun folder name =>
      if (folder, name) = slot then node else tree.entry folder name }

theorem put_sameShape (slot : Folder × Name) (node : Option (Node Folder Name Content)) :
    tree.SameShape (tree.put slot node) := ⟨rfl, rfl⟩

@[simp]
theorem entry_put_self (slot : Folder × Name) (node : Option (Node Folder Name Content)) :
    (tree.put slot node).entry slot.1 slot.2 = node := if_pos rfl

theorem entry_put_of_ne {slot other : Folder × Name} (different : other ≠ slot)
    (node : Option (Node Folder Name Content)) :
    (tree.put slot node).entry other.1 other.2 = tree.entry other.1 other.2 := if_neg different

theorem shrinks_put (slot : Folder × Name) : tree.Shrinks (tree.put slot none) := by
  refine ⟨put_sameShape slot none, fun folder name => ?_⟩
  by_cases same : (folder, name) = slot
  · exact Or.inr (if_pos same)
  · exact Or.inl (if_neg same)

end Put

/-! ## A walk that leads somewhere passes present names only -/

theorem walkBy_present {follow : Folder → List Name → Walk Folder Name Content}
    (present : ∀ folder names, (follow folder names).result ≠ none →
      ∀ slot ∈ (follow folder names).passed, tree.entry slot.1 slot.2 ≠ none)
    (folder : Folder) (names : List Name)
    (leads : (tree.walkBy follow folder names).result ≠ none) :
    ∀ slot ∈ (tree.walkBy follow folder names).passed, tree.entry slot.1 slot.2 ≠ none := by
  induction names generalizing folder with
  | nil => simp [walkBy]
  | cons name rest ih =>
      simp only [walkBy] at leads ⊢
      intro slot member
      rcases List.mem_cons.mp member with rfl | behind
      · intro missing
        simp [missing] at leads
      · rcases here : tree.entry folder name with _ | ⟨_ | inner | ⟨fromRoot, target⟩ | _⟩
        all_goals simp only [here] at leads behind
        case some.folder => exact ih inner leads slot behind
        case some.link => exact present _ _ leads slot behind
        all_goals simp at behind

theorem walk_present (links : Nat) (folder : Folder) (names : List Name)
    (leads : (tree.walk links folder names).result ≠ none) :
    ∀ slot ∈ (tree.walk links folder names).passed, tree.entry slot.1 slot.2 ≠ none := by
  induction links generalizing folder names with
  | zero => exact walkBy_present (by simp) folder names leads
  | succ links ih => exact walkBy_present (fun _ _ => ih _ _) folder names leads

/-- A walk that leads somewhere passes no name that stands for nothing. -/
theorem lookup_present {folder : Folder} {names : List Name}
    (leads : (tree.lookup folder names).result ≠ none) :
    ∀ slot ∈ (tree.lookup folder names).passed, tree.entry slot.1 slot.2 ≠ none :=
  walk_present _ _ _ leads

/-! ## A walk depends on the names it passes -/

theorem walkBy_congr (shape : tree.SameShape other)
    {follow otherFollow : Folder → List Name → Walk Folder Name Content}
    (agrees : ∀ folder names,
      (∀ slot ∈ (follow folder names).passed, other.entry slot.1 slot.2 =
        tree.entry slot.1 slot.2) →
      otherFollow folder names = follow folder names)
    (folder : Folder) (names : List Name)
    (same : ∀ slot ∈ (tree.walkBy follow folder names).passed,
      other.entry slot.1 slot.2 = tree.entry slot.1 slot.2) :
    other.walkBy otherFollow folder names = tree.walkBy follow folder names := by
  induction names generalizing folder with
  | nil => rfl
  | cons name rest ih =>
      simp only [walkBy] at same ⊢
      have here := same (folder, name) (List.mem_cons_self ..)
      have behind := fun slot member => same slot (List.mem_cons_of_mem _ member)
      simp only at here
      rw [here]
      split at behind
      · rw [ih _ behind]
      · rw [shape.1, agrees _ _ behind]
      · rfl

theorem walk_congr (shape : tree.SameShape other) (links : Nat) (folder : Folder)
    (names : List Name)
    (same : ∀ slot ∈ (tree.walk links folder names).passed,
      other.entry slot.1 slot.2 = tree.entry slot.1 slot.2) :
    other.walk links folder names = tree.walk links folder names := by
  induction links generalizing folder names with
  | zero => exact walkBy_congr shape (fun _ _ _ => rfl) folder names same
  | succ links ih => exact walkBy_congr shape (fun _ _ => ih _ _) folder names same

/-- Where the names it passes are the same, a walk is the same. -/
theorem lookup_congr (shape : tree.SameShape other) {folder : Folder} {names : List Name}
    (same : ∀ slot ∈ (tree.lookup folder names).passed,
      other.entry slot.1 slot.2 = tree.entry slot.1 slot.2) :
    other.lookup folder names = tree.lookup folder names := by
  unfold lookup at same ⊢
  rw [shape.2]
  exact walk_congr shape _ _ _ same

/-- A walk that leads somewhere is the same in a tree that has grown. -/
theorem lookup_grows (grows : tree.Grows other) {folder : Folder} {names : List Name}
    (leads : (tree.lookup folder names).result ≠ none) :
    other.lookup folder names = tree.lookup folder names :=
  lookup_congr grows.1 fun slot member => grows.2 slot.1 slot.2 (lookup_present leads slot member)

/-- Where it passes no name that changes, a walk is the same. -/
theorem lookup_put [DecidableEq Folder] [DecidableEq Name] {slot : Folder × Name}
    {folder : Folder} {names : List Name} (apart : slot ∉ (tree.lookup folder names).passed)
    (node : Option (Node Folder Name Content)) :
    (tree.put slot node).lookup folder names = tree.lookup folder names := by
  apply lookup_congr (put_sameShape slot node)
  intro other member
  have different : other ≠ slot := fun same => apart (same ▸ member)
  exact entry_put_of_ne different node

/-! ## A walk leads nowhere once a name is gone -/

theorem walkBy_cut (shrinks : tree.Shrinks other)
    {follow otherFollow : Folder → List Name → Walk Folder Name Content} {slot : Folder × Name}
    (cut : ∀ folder names, slot ∈ (follow folder names).passed →
      (otherFollow folder names).result = none)
    (gone : other.entry slot.1 slot.2 = none) (folder : Folder) (names : List Name)
    (passes : slot ∈ (tree.walkBy follow folder names).passed) :
    (other.walkBy otherFollow folder names).result = none := by
  induction names generalizing folder with
  | nil => simp [walkBy] at passes
  | cons name rest ih =>
      simp only [walkBy] at passes ⊢
      rcases List.mem_cons.mp passes with rfl | behind
      · simp only at gone
        simp [gone]
      · rcases shrinks.2 folder name with same | missing
        · rw [same]
          split at behind
          · exact ih _ behind
          · rw [shrinks.1.1]
            exact cut _ _ behind
          · simp at behind
        · simp [missing]

theorem walk_cut (shrinks : tree.Shrinks other) {slot : Folder × Name}
    (gone : other.entry slot.1 slot.2 = none) (links : Nat) (folder : Folder) (names : List Name)
    (passes : slot ∈ (tree.walk links folder names).passed) :
    (other.walk links folder names).result = none := by
  induction links generalizing folder names with
  | zero => exact walkBy_cut shrinks (by simp) gone folder names passes
  | succ links ih => exact walkBy_cut shrinks (fun _ _ => ih _ _) gone folder names passes

/-- Where names are only gone, and one that the walk passed is, it leads nowhere. -/
theorem lookup_cut (shrinks : tree.Shrinks other) {slot : Folder × Name}
    (gone : other.entry slot.1 slot.2 = none) {folder : Folder} {names : List Name}
    (passes : slot ∈ (tree.lookup folder names).passed) :
    (other.lookup folder names).result = none := by
  unfold lookup at passes ⊢
  rw [shrinks.1.2]
  exact walk_cut shrinks gone _ _ _ passes

end Tree

end FolderTree
