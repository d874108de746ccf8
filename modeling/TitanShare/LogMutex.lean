import TitanShare.DaemonMoves

/-!
# The mutex of the log

The signal handler writes to the log before it does anything else.  If the signal has interrupted a
thread that is writing to the log, the handler waits for the mutex and the thread for the handler,
for ever; otherwise every handler can come to its end.
-/

namespace TitanShare
namespace DaemonMain

open Process

variable {process next : Process}

/-! ## Who is interrupted -/

theorem interruptedFrom_iff {place : Nat} {thread : Thread} :
    process.interruptedFrom place thread = true ↔
      ∃ index handler, place ≤ index ∧ process.handlers[index]? = some (thread, handler) ∧
        handler ≠ .returned := by
  simp only [interruptedFrom, List.any_eq_true, Bool.and_eq_true, decide_eq_true_eq, bne_iff_ne]
  constructor
  · rintro ⟨⟨owner, handler⟩, member, rfl, unfinished⟩
    obtain ⟨index, found⟩ := List.mem_iff_getElem?.mp member
    rw [List.getElem?_drop] at found
    exact ⟨place + index, handler, Nat.le_add_right _ _, found, unfinished⟩
  · rintro ⟨index, handler, behind, found, unfinished⟩
    refine ⟨(thread, handler), List.mem_iff_getElem?.mpr ⟨index - place, ?_⟩, rfl, unfinished⟩
    rw [List.getElem?_drop, Nat.add_sub_cancel' behind]
    exact found

theorem not_interruptedFrom {place index : Nat} {thread : Thread} {handler : Handler}
    (free : process.interruptedFrom place thread = false) (behind : place ≤ index)
    (found : process.handlers[index]? = some (thread, handler)) : handler = .returned := by
  by_contra unfinished
  rw [Bool.eq_false_iff] at free
  exact free (interruptedFrom_iff.mpr ⟨index, handler, behind, found, unfinished⟩)

/-- A handler that moves was not finished, so nobody is interrupted by its step. -/
theorem not_interruptedFrom_set {place index : Nat} {thread owner : Thread}
    {handler moved : Handler} (free : process.interruptedFrom place thread = false)
    (found : process.handlers[index]? = some (owner, handler)) (unfinished : handler ≠ .returned)
    (handlers : next.handlers = process.handlers.set index (owner, moved)) :
    next.interruptedFrom place thread = false := by
  rw [Bool.eq_false_iff] at free ⊢
  rintro interrupts
  obtain ⟨other, waits, behind, there, live⟩ := interruptedFrom_iff.mp interrupts
  apply free
  rw [handlers, List.getElem?_set] at there
  split at there
  case isTrue same =>
      subst same
      split at there
      case isTrue =>
          obtain ⟨rfl, -⟩ := Prod.mk.inj (Option.some.inj there)
          exact interruptedFrom_iff.mpr ⟨index, handler, behind, found, unfinished⟩
      case isFalse => cases there
  case isFalse => exact interruptedFrom_iff.mpr ⟨other, waits, behind, there, live⟩

/-! ## Who holds the mutex -/

/-- A handler holds the mutex exactly while it writes. -/
def Process.Held (process : Process) : Prop :=
  ∀ index, process.log = some (.handler index) ↔
    ∃ thread, process.handlers[index]? = some (thread, .announced)

theorem HandlerMove.unfinished {index : Nat} {handler moved : Handler}
    (moves : HandlerMove process index handler next moved) : handler ≠ .returned := by
  cases moves <;> simp

theorem Move.held {act : Act} (moves : Move process act next) (held : process.Held) :
    next.Held := by
  cases moves with
  | ticks => exact held
  | refresher answer free moves =>
      intro index
      rw [moves.frame.log, moves.frame.handlers]
      exact held index
  | main free moves =>
      intro index
      rw [moves.log, moves.handlers]
      exact held index
  | locks unlocked =>
      intro index
      have idle := held index
      rw [unlocked] at idle
      simpa using idle
  | unlocks locked =>
      intro index
      have idle := held index
      rw [locked] at idle
      simpa using idle
  | signals there =>
      intro index
      rw [held index]
      refine exists_congr fun thread => ?_
      rw [List.getElem?_append]
      split
      case isTrue => rfl
      case isFalse outside =>
          rw [List.getElem?_eq_none (Nat.le_of_not_lt outside), List.getElem?_singleton]
          split <;> simp
  | @handler place thread handler moved later found free moves =>
      have inside := (List.getElem?_eq_some_iff.mp found).1
      have handlers := moves.frame.handlers
      intro index
      change later.log = some (.handler index) ↔
        ∃ owner, (later.handlers.set place (thread, moved))[index]? = some (owner, .announced)
      rw [handlers]
      by_cases same : place = index
      · subst same
        rw [List.getElem?_set_self inside]
        have before := held place
        rw [found] at before
        cases moves with
        | locks | unlocks => simp
        | dangles => simpa [dangle] using before
        | _ => simpa using before
      · rw [List.getElem?_set_ne same]
        have before := held index
        cases moves with
        | locks unlocked =>
            rw [unlocked] at before
            simp only [Option.some.injEq, Writer.handler.injEq, same, false_iff]
            simpa using before
        | unlocks =>
            have owned := (held place).mpr ⟨thread, found⟩
            rw [owned] at before
            simp only [Option.some.injEq, Writer.handler.injEq, same, false_iff] at before
            simpa using before
        | _ => exact before

theorem held_initial : Process.initial.Held := by
  intro index
  simp [Process.initial]

/-! ## A handler that never returns -/

/-- The handler waits for the mutex, and who holds it waits for the handler. -/
structure Process.Stuck (process : Process) (index : Nat) (thread : Thread) (writer : Writer) :
    Prop where
  waits : process.handlers[index]? = some (thread, .announcing)
  locked : process.log = some writer
  below : writer = .thread thread ∨ ∃ holder, writer = .handler holder ∧ holder < index ∧
    process.handlers[holder]? = some (thread, .announced)

variable {index : Nat} {thread : Thread} {writer : Writer}

theorem Process.Stuck.interrupts (stuck : process.Stuck index thread writer) {place : Nat}
    (behind : place ≤ index) : process.interruptedFrom place thread ≠ false := by
  intro free
  have finished := not_interruptedFrom free behind stuck.waits
  cases finished

theorem Process.Stuck.log_ne (stuck : process.Stuck index thread writer) : process.log ≠ none := by
  rw [stuck.locked]
  exact Option.some_ne_none _

theorem Process.Stuck.same (stuck : process.Stuck index thread writer)
    (handlers : ∀ place, place ≤ index → next.handlers[place]? = process.handlers[place]?)
    (log : next.log = process.log) : next.Stuck index thread writer where
  waits := (handlers index (Nat.le_refl _)).trans stuck.waits
  locked := log.trans stuck.locked
  below := by
    refine stuck.below.imp_right ?_
    rintro ⟨holder, same, before, writes⟩
    exact ⟨holder, same, before, (handlers holder (Nat.le_of_lt before)).trans writes⟩

theorem Move.stuck {act : Act} (moves : Move process act next) (held : process.Held)
    (stuck : process.Stuck index thread writer) : next.Stuck index thread writer := by
  cases moves with
  | ticks => exact stuck.same (fun _ _ => rfl) rfl
  | main free moves => exact stuck.same (fun _ _ => by rw [moves.handlers]) moves.log
  | refresher answer free moves =>
      exact stuck.same (fun _ _ => by rw [moves.frame.handlers]) moves.frame.log
  | locks unlocked => exact absurd unlocked stuck.log_ne
  | unlocks locked free =>
      obtain rfl := Option.some.inj (stuck.locked.symm.trans locked)
      rcases stuck.below with same | ⟨holder, same, -⟩
      · obtain rfl := Writer.thread.inj same
        exact absurd free (stuck.interrupts (Nat.zero_le _))
      · cases same
  | signals =>
      refine stuck.same (fun place before => ?_) rfl
      have inside := (List.getElem?_eq_some_iff.mp stuck.waits).1
      exact List.getElem?_append_left (Nat.lt_of_le_of_lt before inside)
  | @handler moving owner handler moved later found free moves =>
      -- the moving handler is neither the one that waits nor the one that holds the mutex
      have apart (waits : handler ≠ .announcing) (log : later.log = process.log) :
          Process.Stuck { later with handlers := later.handlers.set moving (owner, moved) }
            index thread
            writer := by
        have other : moving ≠ index := by
          rintro rfl
          rw [stuck.waits] at found
          obtain ⟨-, rfl⟩ := by simpa using found
          exact waits rfl
        refine ⟨?_, log.trans stuck.locked, ?_⟩
        · change (later.handlers.set moving (owner, moved))[index]? = _
          rw [moves.frame.handlers, List.getElem?_set_ne other]
          exact stuck.waits
        · refine stuck.below.imp_right ?_
          rintro ⟨holder, locked, before, writes⟩
          refine ⟨holder, locked, before, ?_⟩
          change (later.handlers.set moving (owner, moved))[holder]? = _
          rw [moves.frame.handlers]
          by_cases same : moving = holder
          · subst same
            rw [found] at writes
            obtain ⟨rfl, rfl⟩ := by simpa using writes
            exact absurd free (stuck.interrupts before)
          · rw [List.getElem?_set_ne same]
            exact writes
      cases moves with
      | locks unlocked => exact absurd unlocked stuck.log_ne
      | unlocks =>
          have owned := (held moving).mpr ⟨owner, found⟩
          obtain rfl := Option.some.inj (stuck.locked.symm.trans owned)
          rcases stuck.below with same | ⟨holder, same, before, there⟩
          · cases same
          · obtain rfl := Writer.handler.inj same
            rw [found] at there
            obtain rfl : owner = thread := by simpa using there
            exact absurd free (stuck.interrupts before)
      | _ => exact apart (by simp) rfl

/-- Whom the signal has interrupted stands still. -/
theorem Move.main_eq {act : Act} (moves : Move process act next)
    (stuck : process.Stuck index .main writer) : next.main = process.main := by
  cases moves with
  | main free moves =>
      simp only [Process.free, Bool.and_eq_true, Bool.not_eq_true'] at free
      exact absurd free.1 (stuck.interrupts (Nat.zero_le _))
  | refresher answer free moves => exact moves.frame.main
  | handler found free moves => exact moves.frame.main
  | _ => rfl

/-- A signal interrupts a thread that is writing to the log. -/
def Process.Interrupts (process : Process) (act : Act) : Prop :=
  ∃ thread, act = .signal thread ∧ process.writes thread = true

theorem Move.interrupts {act : Act} (moves : Move process act next) (held : process.Held)
    (signal : act = .signal thread) (writes : process.writes thread = true) :
    ∃ writer, process.log = some writer ∧ next.Stuck process.handlers.length thread writer := by
  subst signal
  cases moves with
  | signals =>
      unfold Process.writes at writes
      split at writes
      · cases writes
      · rename_i writer locked
        obtain rfl : writer = thread := by simpa using writes
        exact ⟨_, locked, by simp, locked, .inl rfl⟩
      · rename_i holder locked
        obtain ⟨owner, announced⟩ := (held holder).mp locked
        have inside := (List.getElem?_eq_some_iff.mp announced).1
        obtain rfl : owner = thread := by simpa [announced] using writes
        refine ⟨_, locked, by simp, locked, .inr ⟨holder, rfl, inside, ?_⟩⟩
        exact (List.getElem?_append_left inside).trans announced

/-- Nobody is interrupted while writing to the log. -/
structure Process.Clear (process : Process) : Prop where
  thread : ∀ thread, process.log = some (.thread thread) → process.interruptedFrom 0 thread = false
  handler : ∀ index thread handler, process.log = some (.handler index) →
    process.handlers[index]? = some (thread, handler) →
      process.interruptedFrom (index + 1) thread = false

theorem clear_initial : Process.initial.Clear where
  thread _ locked := by cases locked
  handler _ _ _ locked := by cases locked

theorem Process.Clear.same (clear : process.Clear) (handlers : next.handlers = process.handlers)
    (log : next.log = process.log) : next.Clear where
  thread thread locked := by
    have free := clear.thread thread (log.symm.trans locked)
    rw [interruptedFrom] at free ⊢
    rw [handlers]
    exact free
  handler index thread handler locked found := by
    rw [handlers] at found
    have free := clear.handler index thread handler (log.symm.trans locked) found
    rw [interruptedFrom] at free ⊢
    rw [handlers]
    exact free

theorem Move.clear {act : Act} (moves : Move process act next) (held : process.Held)
    (clear : process.Clear) (spared : ¬ process.Interrupts act) : next.Clear := by
  cases moves with
  | ticks => exact clear.same rfl rfl
  | main free moves => exact clear.same moves.handlers moves.log
  | refresher answer free moves => exact clear.same moves.frame.handlers moves.frame.log
  | @locks owner unlocked there free =>
      refine ⟨fun thread locked => ?_, fun index thread handler locked => ?_⟩
      · obtain rfl : owner = thread := by simpa using locked
        exact free
      · simp at locked
  | unlocks locked free => exact ⟨by simp, by simp⟩
  | @signals signalled there =>
      have other {thread : Thread} {place : Nat} (apart : signalled ≠ thread)
          (free : process.interruptedFrom place thread = false) :
          Process.interruptedFrom
            { process with handlers := process.handlers ++ [(signalled, .announcing)] }
            place thread = false := by
        rw [Bool.eq_false_iff] at free ⊢
        intro interrupts
        obtain ⟨index, handler, behind, found, unfinished⟩ := interruptedFrom_iff.mp interrupts
        apply free
        refine interruptedFrom_iff.mpr ⟨index, handler, behind, ?_, unfinished⟩
        change (process.handlers ++ [(signalled, .announcing)])[index]? = _ at found
        rw [List.getElem?_append] at found
        split at found
        case isTrue => exact found
        case isFalse =>
            rw [List.getElem?_singleton] at found
            split at found
            · obtain ⟨rfl, -⟩ := by simpa using found
              exact absurd rfl apart
            · cases found
      have silent (writes : process.writes signalled = true) : False :=
        spared ⟨signalled, rfl, writes⟩
      refine ⟨fun thread locked => ?_, fun index thread handler locked found => ?_⟩
      · refine other ?_ (clear.thread thread locked)
        rintro rfl
        exact silent (by simp [Process.writes, show process.log = _ from locked])
      · obtain ⟨owner, announced⟩ := (held index).mp locked
        have inside := (List.getElem?_eq_some_iff.mp announced).1
        obtain ⟨rfl, -⟩ : owner = thread ∧ _ := by
          simpa [List.getElem?_append_left inside, announced] using found
        refine other ?_ (clear.handler index owner _ locked announced)
        rintro rfl
        exact silent (by simp [Process.writes, show process.log = _ from locked, announced])
  | @handler place owner handler moved later found free moves =>
      have kept {start : Nat} {thread : Thread}
          (free : process.interruptedFrom start thread = false) :
          Process.interruptedFrom { later with handlers := later.handlers.set place (owner, moved) }
            start thread = false :=
        not_interruptedFrom_set free found moves.unfinished (by rw [moves.frame.handlers])
      have same (log : later.log = process.log) :
          Process.Clear { later with handlers := later.handlers.set place (owner, moved) } := by
        refine ⟨fun thread locked => ?_, fun index thread other locked there => ?_⟩
        · exact kept (clear.thread thread (log.symm.trans locked))
        · change (later.handlers.set place (owner, moved))[index]? = _ at there
          rw [moves.frame.handlers, List.getElem?_set] at there
          split at there
          case isTrue same =>
              subst same
              split at there
              case isFalse => cases there
              case isTrue =>
                  obtain ⟨rfl, -⟩ := by simpa using there
                  exact kept free
          case isFalse =>
            exact kept (clear.handler index thread other (log.symm.trans locked) there)
      cases moves with
      | locks unlocked =>
          refine ⟨by simp, fun index thread other locked there => ?_⟩
          obtain rfl : place = index := by simpa using locked
          have inside := (List.getElem?_eq_some_iff.mp found).1
          obtain ⟨rfl, -⟩ : owner = thread ∧ _ := by simpa [inside] using there
          exact kept free
      | unlocks => exact ⟨by simp, by simp⟩
      | _ => exact same rfl

/-! ## Handlers that return -/

namespace Handler

/-- Its steps to the end. -/
def remaining : Handler → Nat
  | announcing => 6
  | announced => 5
  | halting => 4
  | testing => 3
  | loading => 2
  | storing _ => 1
  | returned => 0

end Handler

/-- A thread has to give the mutex back. -/
def Writer.remaining : Option Writer → Nat
  | some (.thread _) => 1
  | _ => 0

/-- What is left to do until every handler has returned. -/
def Process.work (process : Process) : Nat :=
  (process.handlers.map fun handler => handler.2.remaining).sum + Writer.remaining process.log

theorem Process.handlerStep_goes {handler : Handler} (unfinished : handler ≠ .returned)
    (able : handler = .announcing → process.log = none) :
    ∃ later moved, process.handlerStep index handler = some (later, moved) ∧
      later.handlers = process.handlers ∧ moved.remaining < handler.remaining ∧
      ∀ thread, later.log = some (.thread thread) → process.log = some (.thread thread) := by
  cases handler with
  | announcing =>
      have unlocked := able rfl
      refine ⟨{ process with log := some (.handler index) }, .announced, ?_,
        rfl, by decide, by simp⟩
      simp [handlerStep, unlocked]
  | announced => exact ⟨_, _, rfl, rfl, by decide, by simp⟩
  | halting => exact ⟨_, _, rfl, rfl, by decide, fun _ => id⟩
  | testing =>
      refine ⟨_, _, rfl, rfl, ?_, fun _ => id⟩
      split <;> decide
  | loading => exact ⟨_, _, rfl, rfl, Nat.lt_succ_self 1, fun _ => id⟩
  | storing pointer =>
      simp only [handlerStep]
      split
      · exact ⟨_, _, rfl, rfl, Nat.zero_lt_one, fun _ => id⟩
      · exact ⟨_, _, rfl, rfl, Nat.zero_lt_one, fun _ => id⟩
  | returned => exact absurd rfl unfinished

theorem sum_set_lt {weights : List Nat} {place old new : Nat} (found : weights[place]? = some old)
    (less : new < old) : (weights.set place new).sum < weights.sum := by
  induction weights generalizing place with
  | nil => cases found
  | cons weight weights ih =>
      cases place with
      | zero =>
          obtain rfl := Option.some.inj found
          rw [List.set_cons_zero, List.sum_cons, List.sum_cons]
          omega
      | succ place =>
          have rest := ih found
          rw [List.set_cons_succ, List.sum_cons, List.sum_cons]
          omega

theorem Process.work_handler {later : Process} {owner : Thread} {handler moved : Handler}
    (found : process.handlers[index]? = some (owner, handler))
    (handlers : later.handlers = process.handlers) (less : moved.remaining < handler.remaining)
    (log : ∀ thread, later.log = some (.thread thread) → process.log = some (.thread thread)) :
    Process.work { later with handlers := later.handlers.set index (owner, moved) } <
      process.work := by
  have sums :
      ((process.handlers.set index (owner, moved)).map fun handler => handler.2.remaining).sum <
      (process.handlers.map fun handler => handler.2.remaining).sum := by
    rw [List.map_set]
    exact sum_set_lt (by rw [List.getElem?_map, found, Option.map_some]) less
  have writing : Writer.remaining later.log ≤ Writer.remaining process.log := by
    cases locked : later.log with
    | none => exact Nat.zero_le _
    | some writer =>
        cases writer with
        | thread thread => rw [log thread locked]
        | handler => exact Nat.zero_le _
  simp only [Process.work, handlers]
  omega

/-- The last handler that has not returned. -/
theorem exists_last_unfinished {handlers : List (Thread × Handler)}
    (some : ∃ handler ∈ handlers, handler.2 ≠ .returned) :
    ∃ earlier owner handler later, handlers = earlier ++ (owner, handler) :: later ∧
      handler ≠ .returned ∧ ∀ other ∈ later, other.2 = .returned := by
  induction handlers with
  | nil => simp at some
  | cons first handlers ih =>
      by_cases more : ∃ handler ∈ handlers, handler.2 ≠ .returned
      · obtain ⟨earlier, owner, handler, later, rfl, live, ended⟩ := ih more
        exact ⟨first :: earlier, owner, handler, later, rfl, live, ended⟩
      · push Not at more
        obtain ⟨handler, member, live⟩ := some
        rcases List.mem_cons.mp member with rfl | member
        · exact ⟨[], handler.1, handler.2, handlers, rfl, live, more⟩
        · exact absurd (more handler member) live

theorem Process.exists_free_handler
    (unfinished : ∃ handler ∈ process.handlers, handler.2 ≠ .returned) :
    ∃ index owner handler, process.handlers[index]? = some (owner, handler) ∧ handler ≠ .returned ∧
      process.interruptedFrom (index + 1) owner = false := by
  obtain ⟨earlier, owner, handler, later, split, live, ended⟩ := exists_last_unfinished unfinished
  refine ⟨earlier.length, owner, handler, by simp [split], live, ?_⟩
  rw [Bool.eq_false_iff]
  intro interrupts
  obtain ⟨index, other, behind, found, unfinished⟩ := interruptedFrom_iff.mp interrupts
  rw [split, List.getElem?_append_right (by omega)] at found
  obtain ⟨gap, rfl⟩ := Nat.exists_eq_add_of_le behind
  rw [show earlier.length + 1 + gap - earlier.length =
    gap + 1 by omega, List.getElem?_cons_succ] at found
  exact unfinished (ended _ (List.mem_of_getElem? found))

theorem Process.step_handler {owner : Thread} {handler moved : Handler} {later : Process}
    (found : process.handlers[index]? = some (owner, handler))
    (free : process.interruptedFrom (index + 1) owner = false)
    (stepped : process.handlerStep index handler = some (later, moved)) :
    process.step (.handler index) =
      some { later with handlers := later.handlers.set index (owner, moved) } := by
  simp [Process.step, found, free, stepped]

/-- A step of a handler, or the end of a line in the log. -/
def Act.settles : Act → Bool
  | handler _ | unlock _ => true
  | _ => false

theorem not_interrupts_of_settles {act : Act} (settles : act.settles = true) :
    ¬ process.Interrupts act := by
  rintro ⟨thread, rfl, -⟩
  cases settles

/-- While nobody was interrupted at the log, something brings the handlers nearer to their end. -/
theorem Process.exists_step (held : process.Held) (clear : process.Clear)
    (unsettled : process.log = none → ∃ handler ∈ process.handlers, handler.2 ≠ .returned) :
    ∃ act next, process.step act = some next ∧ act.settles = true ∧ next.work < process.work := by
  have handles {index : Nat} {owner : Thread} {handler : Handler}
      (found : process.handlers[index]? = some (owner, handler)) (live : handler ≠ .returned)
      (free : process.interruptedFrom (index + 1) owner = false)
      (able : handler = .announcing → process.log = none) :
      ∃ act next, process.step act = some next ∧ act.settles = true ∧ next.work < process.work := by
    obtain ⟨later, moved, stepped, handlers, less, log⟩ :=
      @handlerStep_goes process index handler live able
    have lighter := work_handler found handlers less log
    exact ⟨.handler index, _, step_handler found free stepped, rfl, lighter⟩
  cases locked : process.log with
  | none =>
      obtain ⟨index, owner, handler, found, live, free⟩ := exists_free_handler (unsettled locked)
      exact handles found live free fun _ => locked
  | some writer =>
      cases writer with
      | thread thread =>
          refine ⟨.unlock thread, { process with log := none }, ?_, rfl, ?_⟩
          · simp [Process.step, locked, clear.thread thread locked]
          · simp [work, locked, Writer.remaining]
      | handler index =>
          obtain ⟨owner, found⟩ := (held index).mp locked
          exact handles found (by simp) (clear.handler index owner _ locked found) (by simp)

/-! ## Whole runs -/

theorem run_held {acts : List Act} (held : process.Held)
    (ran : Scheduled.run Process.step process acts = some next) : next.Held :=
  Scheduled.run_keeps (fun held stepped => (Process.step_moves stepped).held held) held ran

/-- `thread` was interrupted while it or a handler on it was writing, with `main` at this place. -/
structure Process.Caught (process : Process) (index : Nat) (thread : Thread) (writer : Writer)
    (main : Main) : Prop where
  held : process.Held
  stuck : process.Stuck index thread writer
  stands : thread = .main → process.main = main

theorem Move.caught {act : Act} {main : Main} (moves : Move process act next)
    (caught : process.Caught index thread writer main) : next.Caught index thread writer main where
  held := moves.held caught.held
  stuck := moves.stuck caught.held caught.stuck
  stands same := by
    subst same
    exact (moves.main_eq caught.stuck).trans (caught.stands rfl)

/-- After the signal that interrupts a writer, the mutex is held for ever. -/
theorem run_caught {before after : List Act} {middle : Process}
    (reached : run before = some middle) (writes : middle.writes thread = true)
    (ran : Scheduled.run Process.step middle (.signal thread :: after) = some process) :
    ∃ writer, middle.log = some writer ∧
      process.Caught middle.handlers.length thread writer middle.main := by
  obtain ⟨first, signalled, rest⟩ := Scheduled.run_cons_eq_some.mp ran
  have held := run_held held_initial reached
  have moved := Process.step_moves signalled
  obtain ⟨writer, locked, stuck⟩ := moved.interrupts held rfl writes
  have here : first.main = middle.main := by
    cases moved
    rfl
  have caught : first.Caught middle.handlers.length thread writer middle.main :=
    ⟨moved.held held, stuck, fun _ => here⟩
  exact ⟨writer, locked,
    Scheduled.run_keeps (fun caught stepped => (Process.step_moves stepped).caught caught)
      caught rest⟩

/-- The handlers can go on. -/
structure Process.Able (process : Process) : Prop where
  held : process.Held
  clear : process.Clear

theorem Move.able {act : Act} (moves : Move process act next) (able : process.Able)
    (spared : ¬ process.Interrupts act) : next.Able :=
  ⟨moves.held able.held, moves.clear able.held able.clear spared⟩

theorem run_able {acts : List Act} (ran : run acts = some process)
    (spared : ¬ Scheduled.Happened Process.step Process.Interrupts .initial acts) :
    process.Able := by
  refine Scheduled.run_history
    (fun acts process =>
      ¬ Scheduled.Happened Process.step Process.Interrupts .initial acts → process.Able)
    (fun _ => ⟨held_initial, clear_initial⟩) ?_ ran spared
  intro acts act middle next able reached stepped spared
  rw [Scheduled.happened_concat _ reached, not_or] at spared
  exact (Process.step_moves stepped).able (able spared.1) spared.2

/-- The calls of the signal handler can all return exactly if no signal has interrupted a thread
that was writing to the log.  After one that has, the mutex stays as it was, and so does `main` if
it was the one. -/
theorem handlers_return_iff {acts : List Act} (ran : run acts = some process) :
    ((∃ later final, Scheduled.run Process.step process later = some final ∧
        ∀ handler ∈ final.handlers, handler.2 = .returned) ↔
      ¬ Scheduled.Happened Process.step Process.Interrupts .initial acts) ∧
    ∀ {before after : List Act} {middle : Process} {thread : Thread},
      acts = before ++ .signal thread :: after → run before = some middle →
      middle.writes thread = true →
        process.log = middle.log ∧ (thread = .main → process.main = middle.main) := by
  have splits {before after : List Act} {middle : Process} {thread : Thread}
      (split : acts = before ++ .signal thread :: after) (reached : run before = some middle) :
      Scheduled.run Process.step middle (.signal thread :: after) = some process := by
    rw [run, split, Scheduled.run_append] at ran
    rw [run] at reached
    rwa [reached] at ran
  refine ⟨⟨?_, fun spared => ?_⟩, fun split reached writes => ?_⟩
  · rintro ⟨later, final, rest, ended⟩ happened
    obtain ⟨before, act, after, middle, split, reached, thread, rfl, writes⟩ := happened
    have whole : Scheduled.run Process.step middle (.signal thread :: (after ++ later)) =
        some final := by
      rw [← List.cons_append, Scheduled.run_append, splits split reached]
      exact rest
    obtain ⟨writer, -, caught⟩ := run_caught reached writes whole
    have returned := ended _ (List.mem_of_getElem? caught.stuck.waits)
    cases returned
  · have able := run_able ran spared
    refine Scheduled.exists_run_of_spends Process.work (fun process able unfinished => ?_) able
    obtain ⟨act, next, stepped, settles, less⟩ :=
      Process.exists_step able.held able.clear fun _ => by simpa using unfinished
    have still := (Process.step_moves stepped).able able (not_interrupts_of_settles settles)
    exact ⟨act, next, stepped, still, less⟩
  · obtain ⟨writer, locked, caught⟩ := run_caught reached writes (splits split reached)
    exact ⟨caught.stuck.locked.trans locked.symm, caught.stands⟩

/-- `main` is interrupted within its first line in the log: it never makes a PIN. -/
theorem handlers_return_iff_first :
    ∃ process, run [.lock .main, .signal .main] = some process ∧
      ¬ ∃ later final, Scheduled.run Process.step process later = some final ∧
        ∀ handler ∈ final.handlers, handler.2 = .returned := by
  have shape : (run [.lock .main, .signal .main]).isSome = true := by decide +kernel
  obtain ⟨process, ran⟩ := Option.isSome_iff_exists.mp shape
  obtain ⟨middle, reached, -⟩ := Scheduled.run_concat_eq_some.mp
    (show Scheduled.run Process.step .initial ([.lock .main] ++ [.signal .main]) =
      some process from ran)
  have caught : middle.writes .main = true := by
    obtain rfl := by
      simpa [Scheduled.run, Process.step, Process.initial, has, interruptedFrom] using reached
    rfl
  refine ⟨process, ran, fun returns => ?_⟩
  exact (handlers_return_iff ran).1.mp returns
    ⟨[.lock .main], .signal .main, [], middle, rfl, reached, .main, rfl, caught⟩

end DaemonMain
end TitanShare
