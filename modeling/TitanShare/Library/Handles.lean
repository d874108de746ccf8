import TitanShare.Library.Trace

/-!
# Ownership of numbered handles

A program acquires handles from its surroundings, uses them and releases them; a released number may
be handed out again.  The history of these operations shows whether a handle was ever used or
released by someone who did not hold it.
-/

namespace Handles

/-- An operation on a handle. -/
inductive Op
  | acquire (handle : Nat)
  | use (handle : Nat)
  | release (handle : Nat)
  deriving DecidableEq

/-- Whether a handle is held after one more operation. -/
def Op.holds (handle : Nat) (held : Bool) : Op → Bool
  | acquire other => held || other == handle
  | use _ => held
  | release other => held && other != handle

/-- Whether a handle is held after a history. -/
def held (handle : Nat) (history : List Op) : Bool :=
  history.foldl (Op.holds handle) false

/-- An operation that is allowed after a history: only numbers that are not held are acquired, and
only held handles are used and released. -/
def Allowed (history : List Op) : Op → Prop
  | .acquire handle => held handle history = false
  | .use handle => held handle history = true
  | .release handle => held handle history = true

/-- Every operation of the history was allowed: nothing is used after its release, and nothing is
released twice. -/
def Owned (history : List Op) : Prop :=
  Trace.Justified Allowed history

theorem held_append (handle : Nat) (history : List Op) (op : Op) :
    held handle (history ++ [op]) = op.holds handle (held handle history) := by
  simp [held]

@[simp]
theorem held_acquire (handle other : Nat) (history : List Op) :
    held handle (history ++ [.acquire other]) = (held handle history || other == handle) :=
  held_append handle history _

@[simp]
theorem held_use (handle other : Nat) (history : List Op) :
    held handle (history ++ [.use other]) = held handle history :=
  held_append handle history _

@[simp]
theorem held_release (handle other : Nat) (history : List Op) :
    held handle (history ++ [.release other]) = (held handle history && other != handle) :=
  held_append handle history _

theorem Owned.append {history : List Op} (owned : Owned history) {op : Op}
    (allowed : Allowed history op) : Owned (history ++ [op]) := by
  refine Trace.justified_append_iff.mpr ⟨owned, ?_⟩
  rw [Trace.justified_cons_iff, List.append_nil]
  exact ⟨allowed, Trace.justified_nil _⟩

theorem Owned.of_append {history later : List Op} (owned : Owned (history ++ later)) :
    Owned history :=
  Trace.Justified.of_append owned

/-- Using a held handle some times. -/
theorem Owned.uses {history : List Op} {handle : Nat} (owned : Owned history)
    (holds : held handle history = true) (uses : List Op) (all : ∀ op ∈ uses, op = .use handle) :
    Owned (history ++ uses) ∧ ∀ other, held other (history ++ uses) = held other history := by
  induction uses using List.reverseRecOn with
  | nil => simpa using owned
  | append_singleton uses op ih =>
      have last := all op (by simp)
      obtain ⟨ownedBefore, same⟩ := ih fun other member => all other (List.mem_append_left _ member)
      subst last
      rw [← List.append_assoc]
      constructor
      · exact ownedBefore.append ((same handle).trans holds)
      · intro other
        rw [held_use, same]

/-- Every acquisition but that of a held handle is met by one release. -/
theorem Owned.count_acquire {history : List Op} (owned : Owned history) (handle : Nat) :
    history.count (.acquire handle) =
      history.count (.release handle) + (held handle history).toNat := by
  induction history using List.reverseRecOn with
  | nil => rfl
  | append_singleton history op ih =>
      have before := ih owned.of_append
      have allowed := owned history op [] rfl
      rw [List.count_append, List.count_append, before]
      cases op with
      | acquire other =>
          by_cases same : other = handle
          · subst same
            have free : held other history = false := allowed
            simp [free]
          · have unequal : (other == handle) = false := by simpa using same
            simp [same, unequal]
      | use other => simp
      | release other =>
          by_cases same : other = handle
          · subst same
            have owns : held other history = true := allowed
            simp [owns]
          · have unequal : (other != handle) = true := by simpa using same
            simp [same, unequal]

/-- A handle that is used right after its release was not owned. -/
theorem not_owned_of_release_use {history later : List Op} {handle : Nat}
    (isPrefix : history ++ [.release handle, .use handle] <+: later) : ¬ Owned later := by
  obtain ⟨rest, rfl⟩ := isPrefix
  intro owned
  have allowed := owned (history ++ [.release handle]) (.use handle) rest (by simp)
  simp [Allowed] at allowed

/-! ## Owned handles as a list -/

/-- Everything in the history was allowed, and these handles are held after it. -/
structure Holds (history : List Op) (live : List Nat) : Prop where
  owned : Owned history
  nodup : live.Nodup
  held_iff : ∀ handle, held handle history = true ↔ handle ∈ live

theorem holds_nil : Holds [] [] where
  owned := Trace.justified_nil _
  nodup := List.nodup_nil
  held_iff := by simp [held]

namespace Holds

variable {history : List Op} {live : List Nat} {handle : Nat}

theorem perm (holds : Holds history live) {other : List Nat} (same : live.Perm other) :
    Holds history other where
  owned := holds.owned
  nodup := same.nodup_iff.mp holds.nodup
  held_iff := fun handle => (holds.held_iff handle).trans same.mem_iff

theorem acquire (holds : Holds history live) (free : held handle history = false) :
    Holds (history ++ [.acquire handle]) (handle :: live) where
  owned := holds.owned.append free
  nodup := by
    refine List.nodup_cons.mpr ⟨fun member => ?_, holds.nodup⟩
    rw [(holds.held_iff handle).mpr member] at free
    cases free
  held_iff := by
    intro other
    rw [held_acquire, Bool.or_eq_true, holds.held_iff, beq_iff_eq, List.mem_cons, or_comm, eq_comm]

theorem use (holds : Holds history live) (member : handle ∈ live) :
    Holds (history ++ [.use handle]) live where
  owned := holds.owned.append ((holds.held_iff handle).mpr member)
  nodup := holds.nodup
  held_iff := by simpa using holds.held_iff

theorem release (holds : Holds history live) {rest : List Nat}
    (split : live.Perm (handle :: rest)) :
    Holds (history ++ [.release handle]) rest where
  owned := holds.owned.append ((holds.held_iff handle).mpr (split.mem_iff.mpr List.mem_cons_self))
  nodup := (List.nodup_cons.mp (split.nodup_iff.mp holds.nodup)).2
  held_iff := by
    intro other
    have apart := (List.nodup_cons.mp (split.nodup_iff.mp holds.nodup)).1
    rw [held_release, Bool.and_eq_true, holds.held_iff, split.mem_iff, List.mem_cons, bne_iff_ne]
    constructor
    · rintro ⟨rfl | member, different⟩
      · exact absurd rfl different
      · exact member
    · intro member
      refine ⟨.inr member, ?_⟩
      rintro rfl
      exact apart member

end Holds
end Handles
