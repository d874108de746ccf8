import TitanShare.MirrorThreads

/-!
# The life of the mirror's worker and listener

There is never a second worker nor a second listening socket, whatever the order in which the
threads take their steps.  The numbers in the shared fields may be stale, but as long as a socket
listens its number is where the next `start` or `stop` looks for it.
-/

namespace TitanShare
namespace MirrorThreads

/-- The number is a listening socket of the receiver. -/
def Shared.Listening (shared : Shared) (fd : Nat) : Prop :=
  shared.fds fd = some .listening

/-- What a thread that closes the listener has made sure of. -/
def Closing.Covers (shared : Shared) : Closing → Prop
  | close fd => ∀ number, shared.Listening number → fd = some number
  | clear => ∀ number, ¬ shared.Listening number
  | test | loadShutdown | shutdown _ | loadClose => True

namespace Caller

/-- Where the number of the listening socket stands. -/
def home (shared : Shared) : Caller → Option Nat
  | startStore sfd => some sfd
  | _ => shared.slot .listener

/-- Places where no socket listens. -/
def Silent : Caller → Prop
  | startSocket | startBind _ | startListen _ | startAbandon _ | stopClosing .client _ | stopJoin
  | idle (some .stop) => True
  | _ => False

/-- Places where the last worker has been joined. -/
def Alone : Caller → Prop
  | startClosing _ | startSocket | startBind _ | startListen _ | startAbandon _ | startStore _
  | startRunning | startThread | idle (some .stop) => True
  | _ => False

/-- Places where `m_running` is cleared for good. -/
def Stopped : Caller → Prop
  | stopClosing _ _ | stopJoin | idle (some .stop) => True
  | _ => False

def Covered (shared : Shared) : Caller → Prop
  | startClosing place | stopClosing .listener place => place.Covers shared
  | _ => True

end Caller

def Worker.Covered (shared : Shared) : Worker → Prop
  | closingListener place => place.Covers shared
  | _ => True

/-- A change that neither starts anything nor loses the number of a listening socket. -/
structure Fades (shared later : Shared) : Prop where
  running : shared.running = false → later.running = false
  listening : ∀ fd, later.Listening fd → shared.Listening fd
  slot : ∀ fd, later.Listening fd → later.slot .listener = shared.slot .listener
  ops : shared.ops <+: later.ops

/-- The state of the receiver between any two steps. -/
structure Orderly (process : Process) : Prop where
  alive : ∀ (index : Nat) (worker : Worker), process.workers[index]? = some worker →
    worker ≠ .finished →
    process.handle = some index
  alone : process.caller.Alone → process.handle = none
  ended : ∀ index, process.handle = some index → process.workers[index]? = some .finished →
    process.shared.running = false
  stopped : process.caller.Stopped → process.shared.running = false
  home : ∀ fd, process.shared.Listening fd → process.caller.home process.shared = some fd
  silent : process.caller.Silent → ∀ fd, ¬ process.shared.Listening fd
  caller : process.caller.Covered process.shared
  workers : ∀ (index : Nat) (worker : Worker), process.workers[index]? = some worker →
    worker.Covered process.shared
  going : process.terminated = false

/-! ## Changes of the shared data -/

namespace Shared

variable (shared : Shared)

theorem fades_refl : Fades shared shared :=
  ⟨id, fun _ => id, fun _ _ => rfl, List.prefix_refl _⟩

@[simp]
theorem use_running (fd : Option Nat) : (shared.use fd).running = shared.running := by
  cases fd <;> rfl

@[simp]
theorem use_slot (fd : Option Nat) : (shared.use fd).slot = shared.slot := by
  cases fd <;> rfl

@[simp]
theorem use_fds (fd : Option Nat) : (shared.use fd).fds = shared.fds := by
  cases fd <;> rfl

theorem Listening.update {shared : Shared} {fd : Nat} (listens : shared.Listening fd) {other : Nat}
    (deaf : ¬ shared.Listening other) (holder : Option Holder) :
    ({ shared with fds := Function.update shared.fds other holder } : Shared).Listening fd := by
  have differs : fd ≠ other := by
    rintro rfl
    exact deaf listens
  exact (Function.update_of_ne differs _ _).trans listens

theorem use_fades (fd : Option Nat) : Fades shared (shared.use fd) := by
  cases fd with
  | none => exact shared.fades_refl
  | some fd => exact ⟨id, fun _ => id, fun _ _ => rfl, List.prefix_append _ _⟩

theorem close_listening {fd : Option Nat} {number : Nat}
    (listens : (shared.close fd).Listening number) :
    shared.Listening number ∧ fd ≠ some number := by
  cases fd with
  | none => exact ⟨listens, Option.some_ne_none _ |>.symm⟩
  | some fd =>
      change Function.update shared.fds fd none number = some .listening at listens
      by_cases same : number = fd
      · subst same
        simp at listens
      · rw [Function.update_of_ne same] at listens
        exact ⟨listens, fun equal => same (Option.some.inj equal).symm⟩

theorem close_fades (fd : Option Nat) : Fades shared (shared.close fd) := by
  refine ⟨?_, fun _ listens => (shared.close_listening listens).1, ?_, ?_⟩
  · cases fd <;> exact id
  · cases fd <;> exact fun _ _ => rfl
  · cases fd with
    | none => exact List.prefix_refl _
    | some fd => exact List.prefix_append _ _

theorem acquire_fades {fd : Nat} {holder : Holder} (deaf : holder ≠ .listening) :
    Fades shared (shared.acquire fd holder) := by
  refine ⟨id, ?_, fun _ _ => rfl, List.prefix_append _ _⟩
  intro number listens
  change Function.update shared.fds fd (some holder) number = some .listening at listens
  by_cases same : number = fd
  · subst same
    simp [deaf] at listens
  · rwa [Function.update_of_ne same] at listens

theorem listen_listening_of_ne {fd number : Nat} (listens : (shared.listen fd).Listening number)
    (other : ¬ some fd = some number) : shared.Listening number := by
  change Function.update shared.fds fd (some .listening) number = some .listening at listens
  rwa [Function.update_of_ne fun same => other (congrArg some same.symm)] at listens

theorem storeClient_fades (fd : Option Nat) : Fades shared (shared.store .client fd) :=
  ⟨id, fun _ => id, fun _ _ => rfl, List.prefix_refl _⟩

theorem halt_fades : Fades shared (shared.setRunning false) :=
  ⟨fun _ => rfl, fun _ => id, fun _ _ => rfl, List.prefix_refl _⟩

end Shared

theorem Fades.trans {first second third : Shared} (earlier : Fades first second)
    (later : Fades second third) : Fades first third where
  running := fun halted => later.running (earlier.running halted)
  listening := fun fd listens => earlier.listening fd (later.listening fd listens)
  slot := fun fd listens =>
    (later.slot fd listens).trans (earlier.slot fd (later.listening fd listens))
  ops := earlier.ops.trans later.ops

/-- The field keeps the number of the listening socket. -/
theorem Fades.home {shared later : Shared} (fades : Fades shared later)
    (home : ∀ fd, shared.Listening fd → shared.slot .listener = some fd) (fd : Nat)
    (listens : later.Listening fd) : later.slot .listener = some fd :=
  (fades.slot fd listens).trans (home fd (fades.listening fd listens))

theorem Closing.Covers.fade {shared later : Shared} {place : Closing}
    (covers : place.Covers shared) (fades : Fades shared later) : place.Covers later := by
  cases place with
  | close fd => exact fun number listens => covers number (fades.listening number listens)
  | clear => exact fun number listens => covers number (fades.listening number listens)
  | test | loadShutdown | shutdown | loadClose => trivial

theorem Caller.Covered.fade {shared later : Shared} {caller : Caller}
    (covered : caller.Covered shared) (fades : Fades shared later) : caller.Covered later := by
  cases caller with
  | startClosing place => exact Closing.Covers.fade covered fades
  | stopClosing slot place =>
      cases slot with
      | listener => exact Closing.Covers.fade covered fades
      | client => trivial
  | _ => trivial

theorem Worker.Covered.fade {shared later : Shared} {worker : Worker}
    (covered : worker.Covered shared) (fades : Fades shared later) : worker.Covered later := by
  cases worker with
  | closingListener place => exact Closing.Covers.fade covered fades
  | _ => trivial

theorem Caller.home_fade {shared later : Shared} {caller : Caller} (fades : Fades shared later)
    {fd : Nat} (listens : later.Listening fd) (home : caller.home shared = some fd) :
    caller.home later = some fd := by
  cases caller with
  | startStore => exact home
  | _ => exact (fades.slot fd listens).trans home

/-- A thread resets a field when nobody listens any more. -/
theorem Closing.step_fades {shared later : Shared} {place : Closing} {next : Option Closing}
    {slot : Slot} {shuts : Bool} (step : place.step slot shuts shared = (later, next))
    (covers : slot = .listener → place.Covers shared) : Fades shared later := by
  obtain rfl : (place.step slot shuts shared).1 = later := congrArg Prod.fst step
  cases place with
  | test =>
      simp only [Closing.step]
      split <;> exact shared.fades_refl
  | loadShutdown | loadClose => exact shared.fades_refl
  | shutdown fd => exact shared.use_fades fd
  | close fd => exact shared.close_fades fd
  | clear =>
      cases slot with
      | client => exact shared.storeClient_fades none
      | listener =>
          have quiet : ∀ fd, ¬ shared.Listening fd := covers rfl
          exact ⟨id, fun _ => id, fun fd listens => absurd listens (quiet fd), List.prefix_refl _⟩

theorem Closing.step_covers {shared later : Shared} {place next : Closing} {shuts : Bool}
    (step : place.step .listener shuts shared = (later, some next))
    (home : ∀ fd, shared.Listening fd → shared.slot .listener = some fd)
    (covers : place.Covers shared) : next.Covers later := by
  cases place with
  | test =>
      simp only [Closing.step] at step
      split at step
      · obtain ⟨rfl, rfl⟩ := by simpa using step
        cases shuts <;> trivial
      · simp at step
  | loadShutdown | shutdown fd =>
      obtain ⟨rfl, rfl⟩ := by simpa [Closing.step] using step
      trivial
  | loadClose =>
      obtain ⟨rfl, rfl⟩ := by simpa [Closing.step] using step
      exact home
  | close fd =>
      obtain ⟨rfl, rfl⟩ := by simpa [Closing.step] using step
      intro number listens
      obtain ⟨before, other⟩ := shared.close_listening listens
      exact other (covers number before)
  | clear => simp [Closing.step] at step

/-- Nobody listens once the sequence is through. -/
theorem Closing.step_done {shared later : Shared} {place : Closing} {shuts : Bool}
    (step : place.step .listener shuts shared = (later, none))
    (home : ∀ fd, shared.Listening fd → shared.slot .listener = some fd)
    (covers : place.Covers shared) (fd : Nat) : ¬ later.Listening fd := by
  cases place with
  | test =>
      simp only [Closing.step] at step
      split at step
      case isTrue => simp at step
      case isFalse empty =>
          obtain rfl := by simpa using step
          intro listens
          rw [home fd listens] at empty
          exact empty rfl
  | clear =>
      obtain rfl := by simpa [Closing.step] using step
      exact covers fd
  | loadShutdown | shutdown | loadClose | close => simp [Closing.step] at step

/-- What a step of a worker does to the shared data, seen from where it leads. -/
structure Worker.Tame (shared later : Shared) (next : Worker) : Prop where
  fades : Fades shared later
  covered : next.Covered later
  ended : next = .finished → later.running = false

theorem Worker.step_tame {shared later : Shared} {answer : Answer} {worker next : Worker}
    (step : worker.step shared answer = some (later, next))
    (home : ∀ fd, shared.Listening fd → shared.slot .listener = some fd)
    (covered : worker.Covered shared) : Worker.Tame shared later next := by
  cases worker with
  | waiting | looping =>
      obtain ⟨rfl, rfl⟩ := by simpa [Worker.step] using step
      refine ⟨shared.fades_refl, ?_, ?_⟩
      · split <;> trivial
      · split <;> simp
  | loading =>
      obtain ⟨rfl, rfl⟩ := by simpa [Worker.step] using step
      exact ⟨shared.fades_refl, trivial, by simp⟩
  | polling | building =>
      cases answer <;> simp [Worker.step] at step <;>
        (obtain ⟨rfl, rfl⟩ := step; exact ⟨shared.fades_refl, trivial, by simp⟩)
  | accepting listener =>
      cases answer with
      | ok => simp [Worker.step] at step
      | again | failed =>
          obtain ⟨rfl, rfl⟩ := by simpa [Worker.step] using step
          exact ⟨shared.use_fades listener, trivial, by simp⟩
      | fd cfd =>
          simp only [Worker.step] at step
          split at step
          case isFalse => cases step
          case isTrue =>
              obtain ⟨rfl, rfl⟩ := by simpa using step
              have accepted : Fades (shared.use listener)
                  ((shared.use listener).acquire cfd .connected) :=
                Shared.acquire_fades _ (by decide)
              exact ⟨(shared.use_fades listener).trans accepted, trivial, by simp⟩
  | connected cfd =>
      obtain ⟨rfl, rfl⟩ := by simpa [Worker.step] using step
      exact ⟨shared.storeClient_fades _, trivial, by simp⟩
  | handshake cfd | reading cfd =>
      cases answer <;> simp [Worker.step] at step <;> obtain ⟨rfl, rfl⟩ := step
      · exact ⟨shared.fades_refl, trivial, by simp⟩
      · exact ⟨shared.use_fades _, trivial, by simp⟩
      · exact ⟨shared.fades_refl, trivial, by simp⟩
  | goodbye built cfd ssl =>
      obtain ⟨rfl, rfl⟩ := by simpa only [Worker.step, Option.some.injEq, Prod.mk.injEq] using step
      refine ⟨?_, trivial, by simp⟩
      split
      · exact shared.use_fades _
      · exact shared.fades_refl
  | closing built cfd =>
      obtain ⟨rfl, rfl⟩ := by simpa [Worker.step] using step
      exact ⟨shared.close_fades _, trivial, by simp⟩
  | clearing built =>
      obtain ⟨rfl, rfl⟩ := by simpa [Worker.step] using step
      refine ⟨shared.storeClient_fades _, ?_, ?_⟩
      · split <;> trivial
      · split <;> simp
  | closingListener place =>
      simp only [Worker.step] at step
      split at step
      case h_1 closes =>
          obtain ⟨rfl, rfl⟩ := by simpa using step
          exact ⟨Closing.step_fades closes fun _ => covered,
            Closing.step_covers closes home covered, by simp⟩
      case h_2 closes =>
          obtain ⟨rfl, rfl⟩ := by simpa using step
          exact ⟨Closing.step_fades closes fun _ => covered, trivial, by simp⟩
  | stopping =>
      obtain ⟨rfl, rfl⟩ := by simpa [Worker.step] using step
      exact ⟨shared.halt_fades, trivial, fun _ => rfl⟩
  | finished => cases step

/-! ## The steps of the threads -/

variable {process next : Process}

/-- Other threads, and what a worker does to the shared data. -/
theorem Orderly.fade (orderly : Orderly process) {later : Shared}
    (fades : Fades process.shared later) : Orderly { process with shared := later } where
  alive := orderly.alive
  alone := orderly.alone
  ended := by
    intro index handle finished
    exact fades.running (orderly.ended index handle finished)
  stopped := fun stopped => fades.running (orderly.stopped stopped)
  home := fun fd listens =>
    Caller.home_fade fades listens (orderly.home fd (fades.listening fd listens))
  silent := fun silent fd listens => orderly.silent silent fd (fades.listening fd listens)
  caller := orderly.caller.fade fades
  workers := fun index worker found => (orderly.workers index worker found).fade fades
  going := orderly.going

/-- As long as a thread is not joined, its listener stands in the field. -/
theorem Orderly.home_slot (orderly : Orderly process) {index : Nat}
    (handle : process.handle = some index) {fd : Nat} (listens : process.shared.Listening fd) :
    process.shared.slot .listener = some fd := by
  have home := orderly.home fd listens
  have alone := orderly.alone
  cases position : process.caller with
  | startStore sfd =>
      rw [position, handle] at alone
      exact absurd (alone trivial) (Option.some_ne_none _)
  | _ => rwa [position] at home

/-- A worker that has taken a step. -/
theorem Orderly.moved (orderly : Orderly process) {index : Nat} {worker next : Worker}
    (found : process.workers[index]? = some worker) (unfinished : worker ≠ .finished)
    (covered : next.Covered process.shared)
    (ended : next = .finished → process.shared.running = false) :
    Orderly { process with workers := process.workers.set index next } where
  alive := by
    intro other present there live
    rw [List.getElem?_set] at there
    split at there
    case isTrue same =>
        subst same
        exact orderly.alive index worker found unfinished
    case isFalse => exact orderly.alive other present there live
  alone := orderly.alone
  ended := by
    intro other handle there
    rw [List.getElem?_set] at there
    split at there
    case isTrue same =>
        split at there
        case isTrue => exact ended (Option.some.inj there)
        case isFalse => cases there
    case isFalse => exact orderly.ended other handle there
  stopped := orderly.stopped
  home := orderly.home
  silent := orderly.silent
  caller := orderly.caller
  workers := by
    intro other present there
    rw [List.getElem?_set] at there
    split at there
    case isTrue same =>
        split at there
        case isTrue =>
            obtain rfl := Option.some.inj there
            exact covered
        case isFalse => cases there
    case isFalse => exact orderly.workers other present there
  going := orderly.going

/-- Only a worker that has not finished moves. -/
theorem Process.workerStep_found {index : Nat} {answer : Answer}
    (step : process.workerStep index answer = some next) :
    ∃ worker : Worker, process.workers[index]? = some worker ∧ worker ≠ .finished := by
  simp only [Process.workerStep] at step
  split at step
  case h_1 => cases step
  case h_2 worker found =>
      refine ⟨worker, found, ?_⟩
      rintro rfl
      cases step

theorem Orderly.workerStep (orderly : Orderly process) {index : Nat} {answer : Answer}
    (step : process.workerStep index answer = some next) :
    Orderly next ∧ process.shared.ops <+: next.shared.ops := by
  simp only [Process.workerStep] at step
  split at step
  case h_1 => cases step
  case h_2 worker found =>
      split at step
      case h_1 => cases step
      case h_2 shared moved steps =>
          obtain rfl := Option.some.inj step
          have unfinished : worker ≠ .finished := by
            rintro rfl
            cases steps
          have handle := orderly.alive index worker found unfinished
          have tame := Worker.step_tame steps (fun _ => orderly.home_slot handle)
            (orderly.workers index worker found)
          exact ⟨(orderly.fade tame.fades).moved found unfinished tame.covered tame.ended,
            tame.fades.ops⟩

theorem Orderly.opens (orderly : Orderly process) {fd : Nat} (step : process.opens fd = some next) :
    Orderly next ∧ process.shared.ops <+: next.shared.ops := by
  simp only [Process.opens] at step
  split at step
  case isFalse => cases step
  case isTrue free =>
      obtain rfl := Option.some.inj step
      refine ⟨orderly.fade ⟨id, fun number listens => ?_, fun _ _ => rfl, List.prefix_refl _⟩,
        List.prefix_refl _⟩
      by_cases same : number = fd
      · subst same
        simp [Shared.Listening] at listens
      · simpa [Shared.Listening, same] using listens

theorem Orderly.closes (orderly : Orderly process) {fd : Nat}
    (step : process.closes fd = some next) :
    Orderly next ∧ process.shared.ops <+: next.shared.ops := by
  simp only [Process.closes] at step
  split at step
  case isFalse => cases step
  case isTrue =>
      obtain rfl := Option.some.inj step
      refine ⟨orderly.fade ⟨id, fun number listens => ?_, fun _ _ => rfl, List.prefix_refl _⟩,
        List.prefix_refl _⟩
      by_cases same : number = fd
      · subst same
        simp [Shared.Listening] at listens
      · simpa [Shared.Listening, same] using listens

/-- The event-loop thread goes on. -/
theorem Orderly.goTo (orderly : Orderly process) {later : Shared} {caller : Caller}
    (fades : Fades process.shared later)
    (home : ∀ fd, later.Listening fd → caller.home later = some fd)
    (alone : caller.Alone → process.handle = none)
    (stopped : caller.Stopped → later.running = false)
    (silent : caller.Silent → ∀ fd, ¬ later.Listening fd)
    (covered : caller.Covered later) : Orderly (process.goTo later caller) where
  alive := orderly.alive
  alone := alone
  ended := fun index handle finished => fades.running (orderly.ended index handle finished)
  stopped := stopped
  home := home
  silent := silent
  caller := covered
  workers := fun index worker found => (orderly.workers index worker found).fade fades
  going := orderly.going

/-- Without a thread to join every worker has finished. -/
theorem Orderly.finished_of_alone (orderly : Orderly process) (alone : process.handle = none)
    {index : Nat} {worker : Worker} (found : process.workers[index]? = some worker) :
    worker = .finished := by
  by_contra unfinished
  have handle := orderly.alive index worker found unfinished
  exact Option.some_ne_none _ (handle.symm.trans alone)

/-- The event-loop thread goes on when there is no worker. -/
theorem Orderly.goAlone (orderly : Orderly process) (alone : process.handle = none)
    {later : Shared} {caller : Caller}
    (home : ∀ fd, later.Listening fd → caller.home later = some fd)
    (stopped : caller.Stopped → later.running = false)
    (silent : caller.Silent → ∀ fd, ¬ later.Listening fd)
    (covered : caller.Covered later) : Orderly (process.goTo later caller) where
  alive := orderly.alive
  alone := fun _ => alone
  ended := fun index handle _ => absurd (handle.symm.trans alone) (Option.some_ne_none _)
  stopped := stopped
  home := home
  silent := silent
  caller := covered
  workers := by
    intro index worker found
    obtain rfl := orderly.finished_of_alone alone found
    trivial
  going := orderly.going

/-- Behind a join every worker has finished. -/
theorem Orderly.join_eq (orderly : Orderly process) {caller : Caller}
    (step : process.join caller = some next) :
    next = { process with handle := none, caller } ∧
      ∀ (index : Nat) (worker : Worker), process.workers[index]? = some worker →
        worker = .finished := by
  simp only [Process.join] at step
  split at step
  case h_1 alone =>
      obtain rfl := Option.some.inj step
      refine ⟨?_, fun index worker found => orderly.finished_of_alone alone found⟩
      rw [← alone]
  case h_2 joined handle =>
      split at step
      case isFalse => cases step
      case isTrue finished =>
          obtain rfl := Option.some.inj step
          refine ⟨rfl, fun index worker found => ?_⟩
          by_contra unfinished
          have alive := orderly.alive index worker found unfinished
          obtain rfl := Option.some.inj (handle.symm.trans alive)
          exact unfinished (Option.some.inj (found.symm.trans finished))

/-- The event-loop thread goes on when there is neither a worker nor a listener. -/
theorem Orderly.goQuiet (orderly : Orderly process) (alone : process.handle = none)
    (quiet : ∀ fd, ¬ process.shared.Listening fd) {later : Shared} {caller : Caller}
    (fades : Fades process.shared later) (stopped : caller.Stopped → later.running = false)
    (covered : caller.Covered later) : Orderly (process.goTo later caller) := by
  have quietLater : ∀ fd, ¬ later.Listening fd :=
    fun fd listens => quiet fd (fades.listening fd listens)
  exact orderly.goAlone alone (fun fd listens => absurd listens (quietLater fd)) stopped
    (fun _ => quietLater) covered

theorem Orderly.join (orderly : Orderly process) {caller : Caller}
    (step : process.join caller = some next)
    (home : caller.home process.shared = process.caller.home process.shared)
    (stopped : caller.Stopped → process.caller.Stopped)
    (silent : caller.Silent → process.caller.Silent) (covered : caller.Covered process.shared) :
    Orderly next := by
  obtain ⟨rfl, finished⟩ := orderly.join_eq step
  exact
    { alive := fun index worker found unfinished =>
        absurd (finished index worker found) unfinished
      alone := fun _ => rfl
      ended := fun index handle _ => absurd handle.symm (Option.some_ne_none _)
      stopped := fun place => orderly.stopped (stopped place)
      home := fun fd listens => home.trans (orderly.home fd listens)
      silent := fun place => orderly.silent (silent place)
      caller := covered
      workers := orderly.workers
      going := orderly.going }

/-- Of the threads only the new one is not finished. -/
theorem Orderly.of_spawn (orderly : Orderly process) (alone : process.handle = none)
    {index : Nat} {worker : Worker} (found : process.spawn.workers[index]? = some worker) :
    worker = .finished ∨ index = process.workers.length ∧ worker = .waiting := by
  rcases Nat.lt_trichotomy index process.workers.length with inside | rfl | outside
  · rw [Process.spawn, List.getElem?_append_left inside] at found
    exact Or.inl (orderly.finished_of_alone alone found)
  · exact Or.inr ⟨rfl, by simpa [Process.spawn] using found.symm⟩
  · have missing : process.spawn.workers[index]? = none := by
      simpa [Process.spawn, Nat.succ_le_iff] using outside
    rw [missing] at found
    cases found

theorem Orderly.spawn (orderly : Orderly process) (place : process.caller = .startThread) :
    Orderly process.spawn := by
  have alone : process.handle = none := orderly.alone (by rw [place]; trivial)
  exact
    { alive := by
        intro index worker found unfinished
        rcases orderly.of_spawn alone found with finished | ⟨rfl, rfl⟩
        · exact absurd finished unfinished
        · rfl
      alone := fun alone => alone.elim
      ended := by
        intro index handle finished
        obtain rfl := Option.some.inj handle
        simp [Process.spawn] at finished
      stopped := fun stopped => stopped.elim
      home := by
        intro fd listens
        have home := orderly.home fd listens
        rwa [place] at home
      silent := fun silent => silent.elim
      caller := trivial
      workers := by
        intro index worker found
        rcases orderly.of_spawn alone found with rfl | ⟨rfl, rfl⟩ <;> trivial
      going := by simp [Process.spawn, alone] }

theorem Orderly.callerStep (orderly : Orderly process) {answer : Answer}
    (step : process.callerStep answer = some next) : Orderly next := by
  have home := orderly.home
  have alone := orderly.alone
  have stopped := orderly.stopped
  have silent := orderly.silent
  have covered := orderly.caller
  simp only [Process.callerStep] at step
  cases place : process.caller with
  | idle last => simp [place] at step
  | startTest =>
      simp only [place] at step home
      obtain rfl := Option.some.inj step
      refine orderly.goTo process.shared.fades_refl ?_ ?_ ?_ ?_ ?_
      all_goals split
      any_goals exact home
      any_goals exact False.elim
      all_goals trivial
  | startJoin =>
      simp only [place] at step
      exact orderly.join step (by rw [place]; rfl) False.elim False.elim trivial
  | startClosing closing =>
      simp only [place] at step home alone covered
      split at step
      case h_1 later further closes =>
          obtain rfl := Option.some.inj step
          have fades := Closing.step_fades closes fun _ => covered
          exact orderly.goAlone (alone trivial) (fades.home home) False.elim False.elim
            (Closing.step_covers closes home covered)
      case h_2 later closes =>
          obtain rfl := Option.some.inj step
          have done := Closing.step_done closes home covered
          exact orderly.goAlone (alone trivial) (fun fd listens => absurd listens (done fd))
            False.elim (fun _ => done) trivial
  | startSocket =>
      simp only [place] at step alone silent
      cases answer with
      | ok | again => simp at step
      | failed =>
          obtain rfl := Option.some.inj step
          exact orderly.goQuiet (alone trivial) (silent trivial) process.shared.fades_refl
            False.elim trivial
      | fd sfd =>
          simp only at step
          split at step
          case isFalse => cases step
          case isTrue =>
              obtain rfl := Option.some.inj step
              exact orderly.goQuiet (alone trivial) (silent trivial)
                (process.shared.acquire_fades (by decide)) False.elim trivial
  | startBind sfd =>
      simp only [place] at step alone silent
      cases answer with
      | again | fd => simp at step
      | ok | failed =>
          obtain rfl := Option.some.inj step
          exact orderly.goQuiet (alone trivial) (silent trivial) (process.shared.use_fades _)
            False.elim trivial
  | startListen sfd =>
      simp only [place] at step alone silent
      cases answer with
      | again | fd => simp at step
      | failed =>
          obtain rfl := Option.some.inj step
          exact orderly.goQuiet (alone trivial) (silent trivial) (process.shared.use_fades _)
            False.elim trivial
      | ok =>
          obtain rfl := Option.some.inj step
          refine orderly.goAlone (alone trivial) ?_ False.elim False.elim trivial
          intro fd listens
          by_contra other
          exact silent trivial fd (Shared.listen_listening_of_ne _ listens other)
  | startAbandon sfd =>
      simp only [place] at step alone silent
      obtain rfl := Option.some.inj step
      exact orderly.goQuiet (alone trivial) (silent trivial) (process.shared.close_fades _)
        False.elim trivial
  | startStore sfd =>
      simp only [place] at step alone home
      obtain rfl := Option.some.inj step
      exact orderly.goAlone (alone trivial) home False.elim False.elim trivial
  | startRunning =>
      simp only [place] at step alone home
      obtain rfl := Option.some.inj step
      exact orderly.goAlone (alone trivial) home False.elim False.elim trivial
  | startThread =>
      simp only [place] at step alone home
      cases answer with
      | again | fd => simp at step
      | failed =>
          obtain rfl := Option.some.inj step
          exact orderly.goAlone (alone trivial) home False.elim False.elim trivial
      | ok =>
          obtain rfl := Option.some.inj step
          exact orderly.spawn place
  | stopRunning =>
      simp only [place] at step home
      obtain rfl := Option.some.inj step
      exact orderly.goTo process.shared.halt_fades home False.elim (fun _ => rfl) False.elim trivial
  | stopClosing slot closing =>
      cases slot with
      | listener =>
          simp only [place] at step home stopped covered
          split at step
          case h_1 later further closes =>
              obtain rfl := Option.some.inj step
              have fades := Closing.step_fades closes fun _ => covered
              exact orderly.goTo fades (fades.home home) False.elim
                (fun _ => fades.running (stopped trivial)) False.elim
                (Closing.step_covers closes home covered)
          case h_2 later closes =>
              obtain rfl := Option.some.inj step
              have fades := Closing.step_fades closes fun _ => covered
              have done := Closing.step_done closes home covered
              exact orderly.goTo fades (fun fd listens => absurd listens (done fd)) False.elim
                (fun _ => fades.running (stopped trivial)) (fun _ => done) trivial
      | client =>
          simp only [place] at step stopped silent
          have closed {later : Shared} {following : Option Closing} {caller : Caller}
              (closes : closing.step .client true process.shared = (later, following))
              (alone : ¬ caller.Alone) (covered : caller.Covered later) :
              Orderly (process.goTo later caller) := by
            have fades := Closing.step_fades closes fun other => by cases other
            have quiet : ∀ fd, ¬ later.Listening fd :=
              fun fd listens => silent trivial fd (fades.listening fd listens)
            exact orderly.goTo fades (fun fd listens => absurd listens (quiet fd))
              (fun place => absurd place alone) (fun _ => fades.running (stopped trivial))
              (fun _ => quiet) covered
          split at step
          case h_1 later further closes =>
              obtain rfl := Option.some.inj step
              exact closed closes False.elim trivial
          case h_2 later closes =>
              obtain rfl := Option.some.inj step
              exact closed closes False.elim trivial
  | stopJoin =>
      simp only [place] at step
      exact orderly.join step (by rw [place]; rfl) (fun _ => by rw [place]; trivial)
        (fun _ => by rw [place]; trivial) trivial

theorem Closing.step_ops {shared later : Shared} {place : Closing} {next : Option Closing}
    {slot : Slot} {shuts : Bool} (step : place.step slot shuts shared = (later, next)) :
    shared.ops <+: later.ops := by
  obtain rfl : (place.step slot shuts shared).1 = later := congrArg Prod.fst step
  cases place with
  | test =>
      simp only [Closing.step]
      split <;> exact List.prefix_refl _
  | loadShutdown | loadClose | clear => exact List.prefix_refl _
  | shutdown fd => exact (shared.use_fades fd).ops
  | close fd => exact (shared.close_fades fd).ops

theorem Process.join_ops {caller : Caller} (step : process.join caller = some next) :
    next.shared = process.shared := by
  simp only [Process.join] at step
  split at step
  case h_1 => exact (Option.some.inj step) ▸ rfl
  case h_2 =>
      split at step
      case isTrue => exact (Option.some.inj step) ▸ rfl
      case isFalse => cases step

/-- The calls of the past stay on record. -/
theorem Process.callerStep_ops {answer : Answer} (step : process.callerStep answer = some next) :
    process.shared.ops <+: next.shared.ops := by
  simp only [Process.callerStep] at step
  cases place : process.caller with
  | idle last => simp [place] at step
  | startJoin | stopJoin =>
      simp only [place] at step
      rw [Process.join_ops step]
  | startClosing closing =>
      simp only [place] at step
      split at step <;> rename_i closes <;> obtain rfl := Option.some.inj step <;>
        exact Closing.step_ops closes
  | stopClosing slot closing =>
      simp only [place] at step
      split at step
      case h_1 closes =>
          obtain rfl := Option.some.inj step
          exact Closing.step_ops closes
      case h_2 closes =>
          cases slot <;> obtain rfl := Option.some.inj step <;> exact Closing.step_ops closes
  | startTest | startAbandon | startStore | startRunning | stopRunning =>
      simp only [place] at step
      obtain rfl := Option.some.inj step
      first
        | exact List.prefix_refl _
        | exact List.prefix_append _ _
  | startSocket =>
      simp only [place] at step
      cases answer with
      | ok | again => simp at step
      | failed =>
          obtain rfl := Option.some.inj step
          exact List.prefix_refl _
      | fd sfd =>
          simp only at step
          split at step
          case isFalse => cases step
          case isTrue =>
              obtain rfl := Option.some.inj step
              exact List.prefix_append _ _
  | startBind sfd | startListen sfd =>
      simp only [place] at step
      cases answer with
      | again | fd => simp at step
      | ok | failed =>
          obtain rfl := Option.some.inj step
          exact List.prefix_append _ _
  | startThread =>
      simp only [place] at step
      cases answer with
      | again | fd => simp at step
      | ok | failed =>
          obtain rfl := Option.some.inj step
          exact List.prefix_refl _

theorem Orderly.call (orderly : Orderly process) {last : Option Call}
    (idle : process.caller = .idle last) (call : Call) :
    Orderly { process with caller := call.entry } := by
  have home := orderly.home
  rw [idle] at home
  cases call with
  | start =>
      exact orderly.goTo process.shared.fades_refl home False.elim False.elim False.elim trivial
  | stop =>
      exact orderly.goTo process.shared.fades_refl home False.elim False.elim False.elim trivial

/-- The steps from one state to the next, whoever takes them. -/
theorem Orderly.step {act : Act} (orderly : Orderly process) (step : process.step act = some next) :
    Orderly next ∧ process.shared.ops <+: next.shared.ops := by
  simp only [Process.step] at step
  rw [if_neg (Bool.eq_false_iff.mp orderly.going)] at step
  cases act with
  | call call =>
      simp only at step
      split at step
      case h_1 idle =>
          obtain rfl := Option.some.inj step
          exact ⟨orderly.call idle call, List.prefix_refl _⟩
      case h_2 => cases step
  | caller answer => exact ⟨orderly.callerStep step, Process.callerStep_ops step⟩
  | worker index answer => exact orderly.workerStep step
  | opens fd => exact orderly.opens step
  | closes fd => exact orderly.closes step

theorem Orderly.initial (inUse : Nat → Bool) : Orderly (Process.initial inUse) where
  alive := by simp [Process.initial]
  alone := fun alone => alone.elim
  ended := fun _ _ _ => rfl
  stopped := fun stopped => stopped.elim
  home := by
    intro fd listens
    simp only [Process.initial, Shared.Listening] at listens
    split at listens <;> simp at listens
  silent := fun silent => silent.elim
  caller := trivial
  workers := by simp [Process.initial]
  going := rfl

theorem Orderly.run {acts : List Act} (orderly : Orderly process)
    (ran : process.run acts = some next) : Orderly next :=
  Scheduled.run_keeps (fun orderly step => (orderly.step step).1) orderly ran

/-! ## A listener left behind -/

/-- A worker has failed, and its listening socket is still open when the event loop makes its next
call. -/
structure Process.LeftBehind (process : Process) (fd : Nat) : Prop where
  idle : ∃ last, process.caller = .idle last
  failed : ∃ index, process.handle = some index ∧ process.workers[index]? = some .finished
  listens : process.shared.Listening fd

/-- The sequence has not come to the `close` of the listener. -/
def Closing.Pending (fd : Nat) : Closing → Prop
  | test | loadShutdown | shutdown _ | loadClose => True
  | close loaded => loaded = some fd
  | clear => False

/-- The call has not come to the `close` of the listener. -/
def Caller.Pending (fd : Nat) : Caller → Prop
  | startTest | startJoin | stopRunning => True
  | startClosing place | stopClosing .listener place => place.Pending fd
  | _ => False

/-- The field has the number of a listening socket, which no worker is there to close. -/
structure Shared.Keeps (shared : Shared) (fd : Nat) : Prop where
  listens : shared.Listening fd
  slot : shared.slot .listener = some fd
  halted : shared.running = false

/-- The call is still to close the listener. -/
structure Pending (fd : Nat) (process : Process) : Prop where
  place : process.caller.Pending fd
  keeps : process.shared.Keeps fd
  finished : ∀ (index : Nat) (worker : Worker), process.workers[index]? = some worker →
    worker = .finished

theorem Shared.Keeps.use {shared : Shared} {fd : Nat} (keeps : shared.Keeps fd)
    (other : Option Nat) : (shared.use other).Keeps fd where
  listens := by simpa [Shared.Listening] using keeps.listens
  slot := by simpa using keeps.slot
  halted := by simpa using keeps.halted

theorem Closing.step_pending {shared later : Shared} {fd : Nat} {place : Closing}
    {next : Option Closing} {shuts : Bool}
    (step : place.step .listener shuts shared = (later, next)) (keeps : shared.Keeps fd)
    (pending : place.Pending fd) :
    (∃ further, next = some further ∧ further.Pending fd ∧ later.Keeps fd) ∨
      later.ops = shared.ops ++ [.release fd] := by
  cases place with
  | test =>
      obtain ⟨rfl, rfl⟩ := by simpa [Closing.step, keeps.slot] using step
      refine Or.inl ⟨_, rfl, ?_, keeps⟩
      split <;> trivial
  | loadShutdown =>
      obtain ⟨rfl, rfl⟩ := by simpa [Closing.step] using step
      exact Or.inl ⟨_, rfl, trivial, keeps⟩
  | shutdown other =>
      obtain ⟨rfl, rfl⟩ := by simpa [Closing.step] using step
      exact Or.inl ⟨_, rfl, trivial, keeps.use other⟩
  | loadClose =>
      obtain ⟨rfl, rfl⟩ := by simpa [Closing.step] using step
      exact Or.inl ⟨_, rfl, keeps.slot, keeps⟩
  | close loaded =>
      obtain rfl : loaded = some fd := pending
      obtain ⟨rfl, -⟩ := by simpa [Closing.step] using step
      exact Or.inr rfl
  | clear => exact pending.elim

theorem Pending.callerStep {fd : Nat} {answer : Answer} (pending : Pending fd process)
    (step : process.callerStep answer = some next) :
    Pending fd next ∨ next.shared.ops = process.shared.ops ++ [.release fd] := by
  obtain ⟨place, keeps, finished⟩ := pending
  simp only [Process.callerStep] at step
  cases position : process.caller with
  | startTest =>
      simp only [position, keeps.halted] at step
      obtain rfl := Option.some.inj step
      exact Or.inl ⟨trivial, keeps, finished⟩
  | startJoin =>
      simp only [position, Process.join] at step
      split at step
      case h_1 =>
          obtain rfl := Option.some.inj step
          exact Or.inl ⟨trivial, keeps, finished⟩
      case h_2 =>
          split at step
          case isFalse => cases step
          case isTrue =>
              obtain rfl := Option.some.inj step
              exact Or.inl ⟨trivial, keeps, finished⟩
  | startClosing closing =>
      rw [position] at place
      simp only [position] at step
      split at step
      case h_1 later further closes =>
          obtain rfl := Option.some.inj step
          rcases Closing.step_pending closes keeps place with ⟨_, same, pending, keeps⟩ | released
          · obtain rfl := Option.some.inj same
            exact Or.inl ⟨pending, keeps, finished⟩
          · exact Or.inr released
      case h_2 later closes =>
          obtain rfl := Option.some.inj step
          rcases Closing.step_pending closes keeps place with ⟨_, same, _⟩ | released
          · cases same
          · exact Or.inr released
  | stopRunning =>
      simp only [position] at step
      obtain rfl := Option.some.inj step
      exact Or.inl ⟨trivial, ⟨keeps.listens, keeps.slot, rfl⟩, finished⟩
  | stopClosing slot closing =>
      rw [position] at place
      cases slot with
      | client => exact place.elim
      | listener =>
          simp only [position] at step
          split at step
          case h_1 later further closes =>
              obtain rfl := Option.some.inj step
              rcases Closing.step_pending closes keeps place with
                  ⟨_, same, pending, keeps⟩ | released
              · obtain rfl := Option.some.inj same
                exact Or.inl ⟨pending, keeps, finished⟩
              · exact Or.inr released
          case h_2 later closes =>
              obtain rfl := Option.some.inj step
              rcases Closing.step_pending closes keeps place with ⟨_, same, _⟩ | released
              · cases same
              · exact Or.inr released
  | _ =>
      rw [position] at place
      exact place.elim

/-- The listener is still to be closed, or its `close` is among the later calls. -/
def Awaits (fd : Nat) (before : List Handles.Op) (process : Process) : Prop :=
  Orderly process ∧ before <+: process.shared.ops ∧
    (Pending fd process ∨ .release fd ∈ process.shared.ops.drop before.length)

theorem Awaits.step {fd : Nat} {before : List Handles.Op} {act : Act}
    (awaits : Awaits fd before process) (nocall : ∀ call, act ≠ .call call)
    (step : process.step act = some next) : Awaits fd before next := by
  obtain ⟨orderly, grown, phase⟩ := awaits
  obtain ⟨orderlyNext, grows⟩ := orderly.step step
  refine ⟨orderlyNext, grown.trans grows, ?_⟩
  rcases phase with pending | released
  case inr =>
    exact Or.inr ((grows.drop before.length).subset released)
  case inl =>
    simp only [Process.step] at step
    rw [if_neg (Bool.eq_false_iff.mp orderly.going)] at step
    cases act with
    | call call => exact absurd rfl (nocall call)
    | caller answer =>
        rcases pending.callerStep step with pending | released
        · exact Or.inl pending
        · refine Or.inr ?_
          rw [released, List.drop_append_of_le_length grown.length_le]
          exact List.mem_append_right _ (List.mem_singleton_self _)
    | worker index answer =>
        obtain ⟨worker, found, moves⟩ := Process.workerStep_found step
        obtain rfl := pending.finished index worker found
        exact absurd rfl moves
    | opens other =>
        simp only [Process.opens] at step
        split at step
        case isFalse => cases step
        case isTrue free =>
            obtain rfl := Option.some.inj step
            have deaf : ¬ process.shared.Listening other := by simp [Shared.Listening, free]
            have listens := pending.keeps.listens.update deaf (some .foreign)
            exact Or.inl ⟨pending.place, ⟨listens, pending.keeps.slot, pending.keeps.halted⟩,
              pending.finished⟩
    | closes other =>
        simp only [Process.closes] at step
        split at step
        case isFalse => cases step
        case isTrue foreign =>
            obtain rfl := Option.some.inj step
            have deaf : ¬ process.shared.Listening other := by simp [Shared.Listening, foreign]
            have listens := pending.keeps.listens.update deaf none
            exact Or.inl ⟨pending.place, ⟨listens, pending.keeps.slot, pending.keeps.halted⟩,
              pending.finished⟩

/-- The next call closes the listener a failed worker has left behind. -/
theorem Process.LeftBehind.closed {fd : Nat} (left : process.LeftBehind fd)
    (orderly : Orderly process) {call : Call} {rest : List Act} {last : Option Call}
    (nocall : ∀ act ∈ rest, ∀ other, act ≠ .call other)
    (ran : process.run (.call call :: rest) = some next) (returned : next.caller = .idle last) :
    .release fd ∈ next.shared.ops.drop process.shared.ops.length := by
  obtain ⟨⟨_, idle⟩, ⟨index, handle, failed⟩, listens⟩ := left
  obtain ⟨called, step, later⟩ := Scheduled.run_cons_eq_some.mp ran
  have orderlyCalled := (orderly.step step).1
  simp only [Process.step, idle] at step
  rw [if_neg (Bool.eq_false_iff.mp orderly.going)] at step
  obtain rfl := Option.some.inj step
  have pending : Pending fd { process with caller := call.entry } :=
    { place := by cases call <;> trivial
      keeps := ⟨listens, orderly.home_slot handle listens, orderly.ended index handle failed⟩
      finished := by
        intro other worker found
        by_contra unfinished
        obtain rfl := Option.some.inj
          ((orderly.alive other worker found unfinished).symm.trans handle)
        exact unfinished (Option.some.inj (found.symm.trans failed)) }
  have awaits : Awaits fd process.shared.ops { process with caller := call.entry } :=
    ⟨orderlyCalled, List.prefix_refl _, Or.inl pending⟩
  have meets : Scheduled.Meets Process.step (fun _ act => ∀ other, act ≠ .call other)
      { process with caller := call.entry } rest :=
    Scheduled.meets_of_forall (fun act member _ => nocall act member) _
  obtain ⟨-, -, pending | released⟩ :=
    meets.keeps (fun awaits nocall step => awaits.step nocall step) awaits later
  · have place := pending.place
    rw [returned] at place
    exact place.elim
  · exact released

/-! ## Whole runs -/

/-- The receiver as its callers know it. -/
structure Lifecycle (process : Process) : Prop where
  oneWorker : ∀ (first second : Nat) (worker other : Worker),
    process.workers[first]? = some worker → process.workers[second]? = some other →
    worker ≠ .finished → other ≠ .finished → first = second
  oneListener : ∀ fd other, process.shared.Listening fd → process.shared.Listening other →
    fd = other
  assignable : process.terminated = false
  stopped : process.caller = .idle (some .stop) →
    process.shared.running = false ∧ process.handle = none ∧
      (∀ worker ∈ process.workers, worker = .finished) ∧ ∀ fd, ¬ process.shared.Listening fd

theorem Orderly.lifecycle (orderly : Orderly process) : Lifecycle process where
  oneWorker := by
    intro first second worker other found there live alive
    have handle := orderly.alive first worker found live
    exact Option.some.inj (handle.symm.trans (orderly.alive second other there alive))
  oneListener := by
    intro fd other listens also
    exact Option.some.inj ((orderly.home fd listens).symm.trans (orderly.home other also))
  assignable := orderly.going
  stopped := by
    intro returned
    have alone : process.handle = none := orderly.alone (by rw [returned]; trivial)
    refine ⟨orderly.stopped (by rw [returned]; trivial), alone, ?_,
      orderly.silent (by rw [returned]; trivial)⟩
    intro worker member
    obtain ⟨index, found⟩ := List.mem_iff_getElem?.mp member
    exact orderly.finished_of_alone alone found

/-- Whatever the order of the steps, the receiver has one worker and one listening socket at most;
the next call closes a listener that a failed worker has left, and nothing is left by `stop`. -/
theorem mirror_lifecycle (inUse : Nat → Bool) (acts : List Act) (process : Process)
    (ran : (Process.initial inUse).run acts = some process) :
    Lifecycle process ∧
      ∀ fd, process.LeftBehind fd →
        ∀ (call : Call) (rest : List Act) (next : Process) (last : Option Call),
          (∀ act ∈ rest, ∀ other, act ≠ .call other) →
          process.run (.call call :: rest) = some next → next.caller = .idle last →
          .release fd ∈ next.shared.ops.drop process.shared.ops.length := by
  have orderly := (Orderly.initial inUse).run ran
  exact ⟨orderly.lifecycle, fun _ left _ _ _ _ nocall ran returned =>
    left.closed orderly nocall ran returned⟩

/-- A start whose worker fails in `accept` and leaves the listening socket 3. -/
def failedStart : List Act :=
  [.call .start, .caller .ok, .caller .ok, .caller .ok, .caller (.fd 3), .caller .ok, .caller .ok,
    .caller .ok, .caller .ok, .caller .ok, .worker 0 .ok, .worker 0 .ok, .worker 0 .ok,
    .worker 0 .failed, .worker 0 .ok]

theorem mirror_lifecycle_failed :
    ∃ process, (Process.initial fun _ => false).run failedStart = some process ∧
      process.LeftBehind 3 ∧ Lifecycle process ∧
      ∀ fd, process.LeftBehind fd →
        ∀ (call : Call) (rest : List Act) (next : Process) (last : Option Call),
          (∀ act ∈ rest, ∀ other, act ≠ .call other) →
          process.run (.call call :: rest) = some next → next.caller = .idle last →
          .release fd ∈ next.shared.ops.drop process.shared.ops.length :=
  ⟨_, rfl, ⟨⟨_, rfl⟩, ⟨0, rfl, rfl⟩, rfl⟩, mirror_lifecycle (fun _ => false) failedStart _ rfl⟩

end MirrorThreads
end TitanShare
