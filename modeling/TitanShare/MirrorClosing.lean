import TitanShare.MirrorLifecycle

/-!
# Who closes the mirror's descriptors

`stop` and the worker both close the listener through the shared field, and both close the client.
A run in which no thread acts on a number that the other has closed, and `stop` finds no client to
close, closes every descriptor once.
-/

namespace TitanShare
namespace MirrorThreads

/-- The number is a descriptor the receiver obtained. -/
def Shared.Mine (shared : Shared) (fd : Nat) : Prop :=
  shared.fds fd ≠ none ∧ shared.fds fd ≠ some .foreign

/-- The calls so far were made on descriptors the receiver had, and it has those it has not
closed. -/
structure Shared.Sound (shared : Shared) : Prop where
  owned : Handles.Owned shared.ops
  held_iff : ∀ fd, Handles.held fd shared.ops = true ↔ shared.Mine fd

/-- The connection the worker will close. -/
def Worker.cfd : Worker → Option Nat
  | connected cfd | handshake cfd | building cfd _ | looping cfd _ | reading cfd _
  | goodbye _ cfd _ | closing _ cfd => some cfd
  | _ => none

/-- The socket `start` is setting up. -/
def Caller.sfd : Caller → Option Nat
  | startBind sfd | startListen sfd | startAbandon sfd => some sfd
  | _ => none

/-- The number of the next call of the sequence. -/
def Closing.called : Closing → Option Nat
  | shutdown fd | close fd => fd
  | _ => none

namespace Process

/-- A thread is between its `close` and the assignment of -1 to the field. -/
def Clears (process : Process) : Slot → Prop
  | .listener =>
      process.caller = .startClosing .clear ∨ process.caller = .stopClosing .listener .clear ∨
        .closingListener .clear ∈ process.workers
  | .client =>
      process.caller = .stopClosing .client .clear ∨ .clearing true ∈ process.workers ∨
        .clearing false ∈ process.workers

/-- The field has the number, and no thread has closed it already. -/
def Current (process : Process) (slot : Slot) (fd : Nat) : Prop :=
  process.shared.slot slot = some fd ∧ ¬ process.Clears slot

/-- The event-loop thread makes no call on a number that the worker has closed since it was loaded,
and does not close a connection of the worker. -/
def CallerUndisturbed (process : Process) : Caller → Prop
  | .startClosing place | .stopClosing .listener place =>
      ∀ fd ∈ place.called, process.Current .listener fd
  | .stopClosing .client (.close fd) => fd = none
  | .stopClosing .client place => ∀ fd ∈ place.called, process.Current .client fd
  | _ => True

/-- The worker makes no call on a listener that `stop` has closed since its number was loaded. -/
def WorkerUndisturbed (process : Process) : Worker → Prop
  | .accepting listener => ∀ fd ∈ listener, process.Current .listener fd
  | .closingListener place => ∀ fd ∈ place.called, process.Current .listener fd
  | _ => True

/-- Neither thread acts on what the other has closed. -/
def Undisturbed (process : Process) : Act → Prop
  | .caller _ => process.CallerUndisturbed process.caller
  | .worker index _ => ∀ worker ∈ process.workers[index]?, process.WorkerUndisturbed worker
  | .call _ | .opens _ | .closes _ => True

instance (process : Process) : (slot : Slot) → Decidable (process.Clears slot)
  | .listener => inferInstanceAs (Decidable (_ ∨ _ ∨ _))
  | .client => inferInstanceAs (Decidable (_ ∨ _ ∨ _))

instance (process : Process) (slot : Slot) (fd : Nat) : Decidable (process.Current slot fd) :=
  inferInstanceAs (Decidable (_ ∧ _))

instance (process : Process) : DecidablePred process.CallerUndisturbed
  | .startClosing place | .stopClosing .listener place =>
      inferInstanceAs (Decidable (∀ fd ∈ place.called, process.Current .listener fd))
  | .stopClosing .client (.close fd) => inferInstanceAs (Decidable (fd = none))
  | .stopClosing .client .test | .stopClosing .client .loadShutdown
  | .stopClosing .client .loadClose | .stopClosing .client .clear =>
      isTrue fun _ called => by cases called
  | .stopClosing .client (.shutdown fd) =>
      inferInstanceAs (Decidable (∀ number ∈ fd, process.Current .client number))
  | .idle _ | .startTest | .startJoin | .startSocket | .startBind _ | .startListen _
  | .startAbandon _ | .startStore _ | .startRunning | .startThread | .stopRunning | .stopJoin =>
      isTrue trivial

instance (process : Process) : DecidablePred process.WorkerUndisturbed
  | .accepting listener =>
      inferInstanceAs (Decidable (∀ fd ∈ listener, process.Current .listener fd))
  | .closingListener place =>
      inferInstanceAs (Decidable (∀ fd ∈ place.called, process.Current .listener fd))
  | .waiting | .polling | .loading | .connected _ | .handshake _ | .building _ _ | .looping _ _
  | .reading _ _ | .goodbye _ _ _ | .closing _ _ | .clearing _ | .stopping | .finished =>
      isTrue trivial

instance (process : Process) : DecidablePred process.Undisturbed
  | .caller _ => inferInstanceAs (Decidable (process.CallerUndisturbed process.caller))
  | .worker index _ =>
      inferInstanceAs
        (Decidable (∀ worker ∈ process.workers[index]?, process.WorkerUndisturbed worker))
  | .call _ | .opens _ | .closes _ => isTrue trivial

end Process

/-- Between the steps of an undisturbed run the receiver knows its descriptors. -/
structure Tidy (process : Process) : Prop where
  sound : process.shared.Sound
  listener : ∀ fd, process.shared.slot .listener = some fd →
    process.Clears .listener ∨ process.shared.fds fd = some .listening
  client : ∀ fd, process.shared.slot .client = some fd →
    process.Clears .client ∨ process.shared.fds fd = some .connected
  socket : ∀ fd, process.caller.sfd = some fd ↔ process.shared.fds fd = some .created
  stored : ∀ fd, process.caller = .startStore fd → process.shared.fds fd = some .listening
  connection : ∀ fd, some fd ∈ process.workers.map Worker.cfd ↔
    process.shared.fds fd = some .connected

/-! ## Calls on descriptors -/

namespace Shared

variable {shared later : Shared} {fd : Nat} {holder : Holder}

theorem mine_of_fds (found : shared.fds fd = some holder) (own : holder ≠ .foreign) :
    shared.Mine fd := by
  rw [Mine, found]
  exact ⟨Option.some_ne_none _, fun same => own (Option.some.inj same)⟩

theorem Sound.same (sound : shared.Sound) (ops : later.ops = shared.ops)
    (fds : later.fds = shared.fds) : later.Sound where
  owned := ops ▸ sound.owned
  held_iff := by
    intro fd
    rw [ops, sound.held_iff, Mine, Mine, fds]

theorem Sound.use (sound : shared.Sound) {called : Option Nat}
    (mine : ∀ fd, called = some fd → shared.Mine fd) : (shared.use called).Sound := by
  cases called with
  | none => exact sound
  | some fd =>
      refine ⟨sound.owned.append ((sound.held_iff fd).mpr (mine fd rfl)), ?_⟩
      intro other
      exact (iff_of_eq (congrArg (· = true) (Handles.held_use other fd _))).trans
        (sound.held_iff other)

theorem Sound.close (sound : shared.Sound) {called : Option Nat}
    (mine : ∀ fd, called = some fd → shared.Mine fd) : (shared.close called).Sound := by
  cases called with
  | none => exact sound
  | some fd =>
      refine ⟨sound.owned.append ((sound.held_iff fd).mpr (mine fd rfl)), ?_⟩
      intro other
      have held := sound.held_iff other
      by_cases same : other = fd
      · subst same
        simp [Shared.close, Mine]
      · simp only [Shared.close, Handles.held_release, Mine, Function.update_of_ne same]
        simpa [same, Ne.symm same, Mine] using held

theorem Sound.useOwn (sound : shared.Sound) (found : shared.fds fd = some holder)
    (own : holder ≠ .foreign) : (shared.use (some fd)).Sound :=
  sound.use fun _ same => Option.some.inj same ▸ mine_of_fds found own

theorem Sound.closeOwn (sound : shared.Sound) (found : shared.fds fd = some holder)
    (own : holder ≠ .foreign) : (shared.close (some fd)).Sound :=
  sound.close fun _ same => Option.some.inj same ▸ mine_of_fds found own

theorem close_fds_self (shared : Shared) (fd : Nat) : (shared.close (some fd)).fds fd = none :=
  Function.update_self ..

theorem close_fds_of_ne (shared : Shared) {number : Nat} (differs : number ≠ fd) :
    (shared.close (some fd)).fds number = shared.fds number :=
  Function.update_of_ne differs _ _

/-- Descriptors of another kind stay. -/
theorem close_fds_iff (found : shared.fds fd = some holder) {other : Holder}
    (differs : other ≠ holder) (number : Nat) :
    (shared.close (some fd)).fds number = some other ↔ shared.fds number = some other := by
  by_cases same : number = fd
  · subst same
    rw [close_fds_self, found]
    simpa using differs.symm
  · rw [close_fds_of_ne shared same]

theorem Sound.acquire (sound : shared.Sound) (free : shared.fds fd = none)
    (own : holder ≠ .foreign) : (shared.acquire fd holder).Sound := by
  have notHeld : Handles.held fd shared.ops = false := by
    rw [Bool.eq_false_iff]
    intro held
    exact ((sound.held_iff fd).mp held).1 free
  refine ⟨sound.owned.append notHeld, ?_⟩
  intro other
  have held := sound.held_iff other
  by_cases same : other = fd
  · subst same
    simp [Shared.acquire, Mine, own]
  · simp only [Shared.acquire, Handles.held_acquire, Mine, Function.update_of_ne same]
    simpa [same, Ne.symm same, Mine] using held

theorem Sound.listen (sound : shared.Sound) (mine : shared.Mine fd) :
    (shared.listen fd).Sound := by
  have used : (shared.use (some fd)).Sound :=
    sound.use fun other same => Option.some.inj same ▸ mine
  refine ⟨used.owned, ?_⟩
  intro other
  have held := used.held_iff other
  by_cases same : other = fd
  · subst same
    refine iff_of_true (held.mpr mine) ?_
    simp [Shared.listen, Mine]
  · rw [Mine, Shared.listen]
    simp only [Function.update_of_ne same]
    exact held

theorem Sound.interfere (sound : shared.Sound) {result : Option Holder}
    (before : ¬ shared.Mine fd) (after : result = none ∨ result = some .foreign) :
    ({ shared with fds := Function.update shared.fds fd result } : Shared).Sound := by
  refine ⟨sound.owned, ?_⟩
  intro other
  have held := sound.held_iff other
  by_cases same : other = fd
  · subst same
    refine iff_of_false (fun holds => before (held.mp holds)) ?_
    rcases after with rfl | rfl <;> simp [Mine]
  · simp only [Mine, Function.update_of_ne same]
    exact held

end Shared

/-! ## The steps of the worker -/

section Lists

variable {α : Type*} {list : List α} {index : Nat} {old new item : α}

theorem mem_iff_of_getElem? (found : list[index]? = some old) :
    item ∈ list ↔ item = old ∨ ∃ other, other ≠ index ∧ list[other]? = some item := by
  rw [List.mem_iff_getElem?]
  constructor
  · rintro ⟨other, there⟩
    by_cases same : other = index
    · subst same
      exact Or.inl (Option.some.inj (there.symm.trans found))
    · exact Or.inr ⟨other, same, there⟩
  · rintro (rfl | ⟨other, -, there⟩)
    · exact ⟨index, found⟩
    · exact ⟨other, there⟩

theorem mem_set_iff_of_getElem? (found : list[index]? = some old) :
    item ∈ list.set index new ↔ item = new ∨ ∃ other, other ≠ index ∧ list[other]? = some item := by
  have inside : index < list.length := (List.getElem?_eq_some_iff.mp found).1
  have replaced : (list.set index new)[index]? = some new := List.getElem?_set_self inside
  rw [mem_iff_of_getElem? replaced]
  refine or_congr_right (exists_congr fun other => and_congr_right fun differs => ?_)
  rw [List.getElem?_set_ne differs.symm]

end Lists

variable {process next : Process}

theorem Process.workerStep_eq {index : Nat} {answer : Answer}
    (step : process.workerStep index answer = some next) :
    ∃ (worker moved : Worker) (later : Shared), process.workers[index]? = some worker ∧
      worker.step process.shared answer = some (later, moved) ∧
      next = { process with shared := later, workers := process.workers.set index moved } := by
  simp only [Process.workerStep] at step
  split at step
  case h_1 => cases step
  case h_2 worker found =>
      split at step
      case h_1 => cases step
      case h_2 later moved steps =>
          exact ⟨worker, moved, later, found, steps, (Option.some.inj step).symm⟩

/-- While a worker is not finished the event loop sets up no socket. -/
theorem Orderly.busy (orderly : Orderly process) {index : Nat} {worker : Worker}
    (found : process.workers[index]? = some worker) (unfinished : worker ≠ .finished) :
    process.caller.sfd = none ∧ ∀ fd, process.caller ≠ .startStore fd := by
  have handle := orderly.alive index worker found unfinished
  have crowded : ¬ process.caller.Alone := fun alone =>
    Option.some_ne_none _ (handle.symm.trans (orderly.alone alone))
  cases place : process.caller with
  | startBind | startListen | startAbandon | startStore =>
      rw [place] at crowded
      exact absurd trivial crowded
  | _ => exact ⟨rfl, fun fd same => by cases same⟩

namespace Tidy

/-- The number a thread may call on is the listening socket. -/
theorem listens (tidy : Tidy process) {fd : Nat} (current : process.Current .listener fd) :
    process.shared.fds fd = some .listening :=
  (tidy.listener fd current.1).resolve_left current.2

section Worker

variable {index : Nat} {worker moved : Worker} {later : Shared}

/-- A step of a worker, with what it owes to the fields and to the descriptors. -/
theorem advance (tidy : Tidy process) (found : process.workers[index]? = some worker)
    (stored : ∀ fd, process.caller ≠ .startStore fd) (sound : later.Sound)
    (listener : ∀ fd, later.slot .listener = some fd → moved = .closingListener .clear ∨
      process.shared.slot .listener = some fd ∧ worker ≠ .closingListener .clear ∧
        (process.shared.fds fd = some .listening → later.fds fd = some .listening))
    (client : ∀ fd, later.slot .client = some fd → (∃ built, moved = .clearing built) ∨
      later.fds fd = some .connected ∨
        process.shared.slot .client = some fd ∧ (∀ built, worker ≠ .clearing built) ∧
          (process.shared.fds fd = some .connected → later.fds fd = some .connected))
    (created : ∀ fd, later.fds fd = some .created ↔ process.shared.fds fd = some .created)
    (connection : ∀ fd, some fd ∈ (process.workers.map Worker.cfd).set index moved.cfd ↔
      later.fds fd = some .connected) :
    Tidy { process with shared := later, workers := process.workers.set index moved } := by
  have arrives : moved ∈ process.workers.set index moved :=
    (mem_set_iff_of_getElem? found).mpr (Or.inl rfl)
  have remains {other : Worker} (differs : other ≠ worker) (member : other ∈ process.workers) :
      other ∈ process.workers.set index moved := by
    rw [mem_set_iff_of_getElem? found]
    exact Or.inr (((mem_iff_of_getElem? found).mp member).resolve_left differs)
  refine ⟨sound, ?_, ?_, ?_, ?_, ?_⟩
  · intro fd stands
    rcases listener fd stands with rfl | ⟨stood, place, kept⟩
    · exact Or.inl (Or.inr (Or.inr arrives))
    · refine (tidy.listener fd stood).imp ?_ kept
      rintro (caller | caller | member)
      · exact Or.inl caller
      · exact Or.inr (Or.inl caller)
      · exact Or.inr (Or.inr (remains place.symm member))
  · intro fd stands
    rcases client fd stands with ⟨built, rfl⟩ | connected | ⟨stood, place, kept⟩
    · cases built with
      | true => exact Or.inl (Or.inr (Or.inl arrives))
      | false => exact Or.inl (Or.inr (Or.inr arrives))
    · exact Or.inr connected
    · refine (tidy.client fd stood).imp ?_ kept
      rintro (caller | member | member)
      · exact Or.inl caller
      · exact Or.inr (Or.inl (remains (place true).symm member))
      · exact Or.inr (Or.inr (remains (place false).symm member))
  · exact fun fd => (tidy.socket fd).trans (created fd).symm
  · exact fun fd caller => absurd caller (stored fd)
  · intro fd
    rw [List.map_set]
    exact connection fd

/-- A step of a worker that keeps the descriptors and the fields, and its connection. -/
theorem stays (tidy : Tidy process) (found : process.workers[index]? = some worker)
    (stored : ∀ fd, process.caller ≠ .startStore fd) (sound : later.Sound)
    (fds : later.fds = process.shared.fds) (slot : later.slot = process.shared.slot)
    (cfd : moved.cfd = worker.cfd)
    (place : worker ≠ .closingListener .clear ∧ ∀ built, worker ≠ .clearing built) :
    Tidy { process with shared := later, workers := process.workers.set index moved } := by
  have foundCfd : (process.workers.map Worker.cfd)[index]? = some worker.cfd := by
    rw [List.getElem?_map, found, Option.map_some]
  refine tidy.advance found stored sound ?_ ?_ ?_ ?_
  · rw [fds, slot]
    exact fun fd stands => Or.inr ⟨stands, place.1, id⟩
  · rw [fds, slot]
    exact fun fd stands => Or.inr (Or.inr ⟨stands, place.2, id⟩)
  · rw [fds]
    exact fun fd => Iff.rfl
  · intro fd
    rw [fds, cfd, mem_set_iff_of_getElem? foundCfd, ← mem_iff_of_getElem? foundCfd]
    exact tidy.connection fd

/-- The worker accepts a connection. -/
theorem accepts (tidy : Tidy process) (found : process.workers[index]? = some worker)
    (stored : ∀ fd, process.caller ≠ .startStore fd) {shared : Shared} (sound : shared.Sound)
    (fds : shared.fds = process.shared.fds) (slot : shared.slot = process.shared.slot)
    {cfd : Nat} (free : shared.fds cfd = none) (alone : worker.cfd = none)
    (place : worker ≠ .closingListener .clear ∧ ∀ built, worker ≠ .clearing built) :
    Tidy
      { process with
        shared := shared.acquire cfd .connected
        workers := process.workers.set index (.connected cfd) } := by
  have foundCfd : (process.workers.map Worker.cfd)[index]? = some none := by
    rw [List.getElem?_map, found, Option.map_some, alone]
  have other (fd : Nat) (differs : fd ≠ cfd) :
      (shared.acquire cfd .connected).fds fd = process.shared.fds fd := by
    rw [← fds]
    exact Function.update_of_ne differs _ _
  have self : (shared.acquire cfd .connected).fds cfd = some .connected :=
    Function.update_self ..
  rw [fds] at free
  refine tidy.advance found stored (sound.acquire (fds ▸ free) (by decide)) ?_ ?_ ?_ ?_
  · intro fd stands
    refine Or.inr ⟨slot ▸ stands, place.1, fun listens => ?_⟩
    rw [other fd fun same => by simp [same, free] at listens]
    exact listens
  · intro fd stands
    refine Or.inr (Or.inr ⟨slot ▸ stands, place.2, fun connected => ?_⟩)
    rw [other fd fun same => by simp [same, free] at connected]
    exact connected
  · intro fd
    by_cases same : fd = cfd
    · subst same
      simp [self, free]
    · rw [other fd same]
  · intro fd
    rw [mem_set_iff_of_getElem? foundCfd]
    by_cases same : fd = cfd
    · subst same
      exact iff_of_true (Or.inl rfl) self
    · rw [other fd same, ← tidy.connection fd, mem_iff_of_getElem? foundCfd]
      simp [Worker.cfd, same]

/-- What a worker has as its connection is one. -/
theorem connected (tidy : Tidy process) (found : process.workers[index]? = some worker) {cfd : Nat}
    (own : worker.cfd = some cfd) : process.shared.fds cfd = some .connected :=
  (tidy.connection cfd).mp (List.mem_map.mpr ⟨worker, List.mem_of_getElem? found, own⟩)

/-- Changes of the fields alone. -/
theorem stores (tidy : Tidy process) (found : process.workers[index]? = some worker)
    (stored : ∀ fd, process.caller ≠ .startStore fd) {slot : Slot} {value : Option Nat}
    (listener : ∀ fd, slot = .client → process.shared.slot .listener = some fd →
      worker ≠ .closingListener .clear)
    (client : ∀ fd, slot = .listener → process.shared.slot .client = some fd →
      ∀ built, worker ≠ .clearing built)
    (current : ∀ fd, value = some fd → slot = .client ∧ worker.cfd = some fd)
    (cfd : moved.cfd = worker.cfd) :
    Tidy
      { process with
        shared := process.shared.store slot value
        workers := process.workers.set index moved } := by
  have foundCfd : (process.workers.map Worker.cfd)[index]? = some worker.cfd := by
    rw [List.getElem?_map, found, Option.map_some]
  refine tidy.advance found stored (tidy.sound.same rfl rfl) ?_ ?_ (fun fd => Iff.rfl) ?_
  · intro fd stands
    cases slot with
    | listener => exact absurd (current fd (by simpa [Shared.store] using stands)).1 (by decide)
    | client =>
        have stood : process.shared.slot .listener = some fd := by
          simpa [Shared.store] using stands
        exact Or.inr ⟨stood, listener fd rfl stood, id⟩
  · intro fd stands
    cases slot with
    | listener =>
        have stood : process.shared.slot .client = some fd := by
          simpa [Shared.store] using stands
        exact Or.inr (Or.inr ⟨stood, client fd rfl stood, id⟩)
    | client =>
        have own := (current fd (by simpa [Shared.store] using stands)).2
        exact Or.inr (Or.inl (tidy.connected found own))
  · intro fd
    rw [cfd, mem_set_iff_of_getElem? foundCfd, ← mem_iff_of_getElem? foundCfd]
    exact tidy.connection fd

/-- The worker closes its connection. -/
theorem closesClient (tidy : Tidy process) (orderly : Orderly process)
    {built : Bool} {cfd : Nat} (found : process.workers[index]? = some (.closing built cfd)) :
    Tidy
      { process with
        shared := process.shared.close (some cfd)
        workers := process.workers.set index (.clearing built) } := by
  have busy := orderly.busy found (by simp)
  have own := tidy.connected found rfl
  have foundCfd : (process.workers.map Worker.cfd)[index]? = some (some cfd) := by
    rw [List.getElem?_map, found, Option.map_some]
    rfl
  refine tidy.advance found busy.2 (tidy.sound.closeOwn own (by decide)) ?_ ?_
    (Shared.close_fds_iff own (by decide)) ?_
  · intro fd stands
    exact Or.inr ⟨stands, by simp, (Shared.close_fds_iff own (by decide) fd).mpr⟩
  · exact fun fd stands => Or.inl ⟨built, rfl⟩
  · intro fd
    rw [mem_set_iff_of_getElem? foundCfd]
    by_cases same : fd = cfd
    · subst same
      refine iff_of_false ?_ (by simp [Shared.close_fds_self])
      rintro (nothing | ⟨position, differs, there⟩)
      · cases nothing
      · -- the connection of no other worker, since there is no other
        rw [List.getElem?_map, Option.map_eq_some_iff] at there
        obtain ⟨worker, thereWorker, its⟩ := there
        have live : worker ≠ .finished := by
          rintro rfl
          cases its
        exact differs (orderly.lifecycle.oneWorker position index worker _ thereWorker found live
          (by simp))
    · rw [Shared.close_fds_of_ne _ same, ← tidy.connection fd, mem_iff_of_getElem? foundCfd]
      simp [Worker.cfd, same]

/-- The worker closes the listener. -/
theorem closesListener (tidy : Tidy process) (orderly : Orderly process) {fd : Nat}
    (found : process.workers[index]? = some (.closingListener (.close (some fd))))
    (current : process.Current .listener fd) :
    Tidy
      { process with
        shared := process.shared.close (some fd)
        workers := process.workers.set index (.closingListener .clear) } := by
  have busy := orderly.busy found (by simp)
  have own := tidy.listens current
  have foundCfd : (process.workers.map Worker.cfd)[index]? = some none := by
    rw [List.getElem?_map, found, Option.map_some]
    rfl
  refine tidy.advance found busy.2 (tidy.sound.closeOwn own (by decide)) (fun _ _ => Or.inl rfl) ?_
    (Shared.close_fds_iff own (by decide)) ?_
  · intro number stands
    exact Or.inr (Or.inr ⟨stands, by simp, (Shared.close_fds_iff own (by decide) number).mpr⟩)
  · intro number
    rw [Shared.close_fds_iff own (by decide), ← tidy.connection number]
    exact (mem_set_iff_of_getElem? foundCfd).trans (mem_iff_of_getElem? foundCfd).symm

/-- Every step of a worker, one case for each place. -/
theorem workerStep (tidy : Tidy process) (orderly : Orderly process) {answer : Answer}
    (undisturbed : process.Undisturbed (.worker index answer))
    (step : process.workerStep index answer = some next) : Tidy next := by
  obtain ⟨worker, moved, later, found, steps, rfl⟩ := Process.workerStep_eq step
  have live : worker ≠ .finished := by
    rintro rfl
    cases steps
  have stored := (orderly.busy found live).2
  have undisturbed : process.WorkerUndisturbed worker := undisturbed worker found
  cases worker with
  | waiting | looping =>
      obtain ⟨rfl, rfl⟩ := by simpa [Worker.step] using steps
      refine tidy.stays found stored tidy.sound rfl rfl ?_ (by simp)
      split <;> rfl
  | loading =>
      obtain ⟨rfl, rfl⟩ := by simpa [Worker.step] using steps
      exact tidy.stays found stored tidy.sound rfl rfl rfl (by simp)
  | polling | building =>
      cases answer <;> simp [Worker.step] at steps <;>
        (obtain ⟨rfl, rfl⟩ := steps; exact tidy.stays found stored tidy.sound rfl rfl rfl (by simp))
  | accepting listener =>
      have mine : ∀ fd, listener = some fd → process.shared.Mine fd := by
        rintro fd rfl
        have current := undisturbed fd rfl
        exact Shared.mine_of_fds (tidy.listens current) (by decide)
      have used := tidy.sound.use mine
      cases answer with
      | ok => simp [Worker.step] at steps
      | again | failed =>
          obtain ⟨rfl, rfl⟩ := by simpa [Worker.step] using steps
          exact tidy.stays found stored used (process.shared.use_fds _) (process.shared.use_slot _)
            rfl (by simp)
      | fd cfd =>
          simp only [Worker.step] at steps
          split at steps
          case isFalse => cases steps
          case isTrue free =>
              obtain ⟨rfl, rfl⟩ := by simpa using steps
              exact tidy.accepts found stored used (process.shared.use_fds _)
                (process.shared.use_slot _) (by rw [process.shared.use_fds]; exact free.1) rfl
                (by simp)
  | connected cfd =>
      obtain ⟨rfl, rfl⟩ := by simpa [Worker.step] using steps
      refine tidy.stores found stored ?_ ?_ ?_ rfl
      · simp
      · simp
      · exact fun fd same => ⟨rfl, same⟩
  | handshake cfd | reading cfd =>
      have used := tidy.sound.useOwn (tidy.connected found rfl) (by decide)
      cases answer <;> simp [Worker.step] at steps <;> obtain ⟨rfl, rfl⟩ := steps
      · exact tidy.stays found stored tidy.sound rfl rfl rfl (by simp)
      · exact tidy.stays found stored used rfl rfl rfl (by simp)
      · exact tidy.stays found stored tidy.sound rfl rfl rfl (by simp)
  | goodbye built cfd ssl =>
      have used := tidy.sound.useOwn (tidy.connected found rfl) (by decide)
      obtain ⟨rfl, rfl⟩ := by simpa only [Worker.step, Option.some.injEq, Prod.mk.injEq] using steps
      cases ssl with
      | false => exact tidy.stays found stored tidy.sound rfl rfl rfl (by simp)
      | true => exact tidy.stays found stored used rfl rfl rfl (by simp)
  | closing built cfd =>
      obtain ⟨rfl, rfl⟩ := by simpa [Worker.step] using steps
      exact tidy.closesClient orderly found
  | clearing built =>
      obtain ⟨rfl, rfl⟩ := by simpa [Worker.step] using steps
      refine tidy.stores found stored (by simp) (by simp) (by simp) ?_
      split <;> rfl
  | closingListener place =>
      have mine : ∀ fd ∈ place.called, process.shared.Mine fd := by
        intro fd called
        have current := undisturbed fd called
        exact Shared.mine_of_fds (tidy.listens current) (by decide)
      simp only [Worker.step] at steps
      cases place with
      | test =>
          cases stands : (process.shared.slot .listener).isSome <;>
            obtain ⟨rfl, rfl⟩ := by simpa [Closing.step, stands] using steps
          · exact tidy.stays found stored tidy.sound rfl rfl rfl (by simp)
          · exact tidy.stays found stored tidy.sound rfl rfl rfl (by simp)
      | loadShutdown | loadClose =>
          obtain ⟨rfl, rfl⟩ := by simpa [Closing.step] using steps
          exact tidy.stays found stored tidy.sound rfl rfl rfl (by simp)
      | shutdown fd =>
          obtain ⟨rfl, rfl⟩ := by simpa [Closing.step] using steps
          exact tidy.stays found stored (tidy.sound.use mine) (process.shared.use_fds _)
            (process.shared.use_slot _) rfl (by simp)
      | close fd =>
          obtain ⟨rfl, rfl⟩ := by simpa [Closing.step] using steps
          cases fd with
          | none => exact tidy.stays found stored tidy.sound rfl rfl rfl (by simp)
          | some fd => exact tidy.closesListener orderly found (undisturbed fd rfl)
      | clear =>
          obtain ⟨rfl, rfl⟩ := by simpa [Closing.step] using steps
          exact tidy.stores found stored (by simp) (by simp) (by simp) rfl
  | stopping =>
      obtain ⟨rfl, rfl⟩ := by simpa [Worker.step] using steps
      exact tidy.stays found stored (tidy.sound.same rfl rfl) rfl rfl rfl (by simp)
  | finished => exact absurd rfl live

end Worker
end Tidy

/-! ## The steps of the event loop -/

namespace Tidy

variable {later : Shared} {caller : Caller}

/-- A step of the event-loop thread, with what it owes to the fields and to the descriptors. -/
theorem proceed (tidy : Tidy process) (sound : later.Sound)
    (listener : ∀ fd, later.slot .listener = some fd →
      caller = .startClosing .clear ∨ caller = .stopClosing .listener .clear ∨
        later.fds fd = some .listening ∨
        process.shared.slot .listener = some fd ∧ process.caller ≠ .startClosing .clear ∧
          process.caller ≠ .stopClosing .listener .clear ∧
          (process.shared.fds fd = some .listening → later.fds fd = some .listening))
    (client : ∀ fd, later.slot .client = some fd →
      process.shared.slot .client = some fd ∧ process.caller ≠ .stopClosing .client .clear)
    (socket : ∀ fd, caller.sfd = some fd ↔ later.fds fd = some .created)
    (stored : ∀ fd, caller = .startStore fd → later.fds fd = some .listening)
    (connected : ∀ fd, later.fds fd = some .connected ↔ process.shared.fds fd = some .connected) :
    Tidy (process.goTo later caller) := by
  refine ⟨sound, ?_, ?_, socket, stored, fun fd => (tidy.connection fd).trans (connected fd).symm⟩
  · intro fd stands
    rcases listener fd stands with place | place | listens | ⟨stood, notStart, notStop, kept⟩
    · exact Or.inl (Or.inl place)
    · exact Or.inl (Or.inr (Or.inl place))
    · exact Or.inr listens
    · refine (tidy.listener fd stood).imp ?_ kept
      rintro (place | place | member)
      · exact absurd place notStart
      · exact absurd place notStop
      · exact Or.inr (Or.inr member)
  · intro fd stands
    obtain ⟨stood, place⟩ := client fd stands
    refine (tidy.client fd stood).imp ?_ (connected fd).mpr
    rintro (clears | member)
    · exact absurd clears place
    · exact Or.inr member

/-- A step of the event-loop thread that keeps the descriptors and the fields. -/
theorem continues (tidy : Tidy process) (sound : later.Sound)
    (fds : later.fds = process.shared.fds) (slot : later.slot = process.shared.slot)
    (clears : ∀ slot, process.caller ≠ .stopClosing slot .clear)
    (clearsStale : process.caller ≠ .startClosing .clear) (sfd : caller.sfd = process.caller.sfd)
    (stored : ∀ fd, caller ≠ .startStore fd) : Tidy (process.goTo later caller) := by
  refine tidy.proceed sound ?_ ?_ ?_ ?_ ?_
  · rw [fds, slot]
    exact fun fd stands => Or.inr (Or.inr (Or.inr ⟨stands, clearsStale, clears .listener, id⟩))
  · rw [slot]
    exact fun fd stands => ⟨stands, clears .client⟩
  · rw [fds, sfd]
    exact tidy.socket
  · exact fun fd place => absurd place (stored fd)
  · rw [fds]
    exact fun fd => Iff.rfl

/-- The event-loop thread closes the listener. -/
theorem shutsListener (tidy : Tidy process) {fd : Nat} (current : process.Current .listener fd)
    (idle : process.caller.sfd = none)
    (place : caller = .startClosing .clear ∨ caller = .stopClosing .listener .clear)
    (before : process.caller ≠ .stopClosing .client .clear) :
    Tidy (process.goTo (process.shared.close (some fd)) caller) := by
  have own := tidy.listens current
  have sfd : caller.sfd = process.caller.sfd := by
    rw [idle]
    rcases place with rfl | rfl <;> rfl
  refine tidy.proceed (tidy.sound.closeOwn own (by decide)) ?_
    (fun number stands => ⟨stands, before⟩) ?_ ?_ (Shared.close_fds_iff own (by decide))
  · exact fun _ _ => place.imp_right Or.inl
  · intro number
    rw [sfd, tidy.socket, Shared.close_fds_iff own (by decide)]
  · rintro number rfl
    simp at place

/-- The event-loop thread resets a field. -/
theorem resets (tidy : Tidy process) {slot : Slot} (idle : process.caller.sfd = none)
    (sfd : caller.sfd = none) (stored : ∀ fd, caller ≠ .startStore fd)
    (listener : slot = .client →
      process.caller ≠ .startClosing .clear ∧ process.caller ≠ .stopClosing .listener .clear)
    (client : slot = .listener → process.caller ≠ .stopClosing .client .clear) :
    Tidy (process.goTo (process.shared.store slot none) caller) := by
  refine tidy.proceed (tidy.sound.same rfl rfl) ?_ ?_ ?_ ?_ (fun fd => Iff.rfl)
  · intro fd stands
    cases slot with
    | listener => simp [Shared.store] at stands
    | client =>
        have stood : process.shared.slot .listener = some fd := by
          simpa [Shared.store] using stands
        obtain ⟨notStart, notStop⟩ := listener rfl
        exact Or.inr (Or.inr (Or.inr ⟨stood, notStart, notStop, id⟩))
  · intro fd stands
    cases slot with
    | client => simp [Shared.store] at stands
    | listener =>
        have stood : process.shared.slot .client = some fd := by
          simpa [Shared.store] using stands
        exact ⟨stood, client rfl⟩
  · intro fd
    rw [sfd, ← idle]
    exact tidy.socket fd
  · exact fun fd place => absurd place (stored fd)

/-- The event-loop thread in the sequence that closes the listener. -/
theorem closingListener (tidy : Tidy process) {inside : Closing → Caller} (done : Caller)
    (shape : inside = .startClosing ∨ inside = .stopClosing .listener)
    (doneSfd : done.sfd = none) (doneStored : ∀ fd, done ≠ .startStore fd) {place : Closing}
    (position : process.caller = inside place) {shuts : Bool} {following : Option Closing}
    (undisturbed : ∀ fd ∈ place.called, process.Current .listener fd)
    (step : place.step .listener shuts process.shared = (later, following)) :
    Tidy (process.goTo later (following.elim done inside)) := by
  have idle : process.caller.sfd = none := by
    rw [position]
    rcases shape with rfl | rfl <;> rfl
  have insideSfd (further : Closing) : (inside further).sfd = none := by
    rcases shape with rfl | rfl <;> rfl
  have insideStored (further : Closing) (fd : Nat) : inside further ≠ .startStore fd := by
    rcases shape with rfl | rfl <;> simp
  have notClient : process.caller ≠ .stopClosing .client .clear := by
    rw [position]
    rcases shape with rfl | rfl <;> simp
  have mine : ∀ fd ∈ place.called, process.shared.Mine fd := by
    intro fd called
    have current := undisturbed fd called
    exact Shared.mine_of_fds (tidy.listens current) (by decide)
  by_cases clears : place = .clear
  case pos =>
    subst clears
    obtain ⟨rfl, rfl⟩ := by simpa [Closing.step] using step
    exact tidy.resets idle doneSfd doneStored (by simp) fun _ => notClient
  case neg =>
    have slots (slot : Slot) : process.caller ≠ .stopClosing slot .clear := by
      rw [position]
      rcases shape with rfl | rfl <;> simp [clears]
    have stale : process.caller ≠ .startClosing .clear := by
      rw [position]
      rcases shape with rfl | rfl <;> simp [clears]
    have keeps {shared : Shared} (sound : shared.Sound) (fds : shared.fds = process.shared.fds)
        (slot : shared.slot = process.shared.slot) {following : Option Closing} :
        Tidy (process.goTo shared (following.elim done inside)) := by
      refine tidy.continues sound fds slot slots stale ?_ ?_
      · cases following with
        | none => exact doneSfd.trans idle.symm
        | some further => exact (insideSfd further).trans idle.symm
      · cases following with
        | none => exact doneStored
        | some further => exact insideStored further
    cases place with
    | test =>
        cases stands : (process.shared.slot .listener).isSome <;>
          obtain ⟨rfl, rfl⟩ := by simpa [Closing.step, stands] using step
        · exact keeps tidy.sound rfl rfl
        · exact keeps tidy.sound rfl rfl
    | loadShutdown | loadClose =>
        obtain ⟨rfl, rfl⟩ := by simpa [Closing.step] using step
        exact keeps tidy.sound rfl rfl
    | shutdown fd =>
        obtain ⟨rfl, rfl⟩ := by simpa [Closing.step] using step
        exact keeps (tidy.sound.use mine) (process.shared.use_fds _) (process.shared.use_slot _)
    | close fd =>
        obtain ⟨rfl, rfl⟩ := by simpa [Closing.step] using step
        cases fd with
        | none => exact keeps tidy.sound rfl rfl
        | some fd =>
            refine tidy.shutsListener (undisturbed fd rfl) idle ?_ notClient
            rcases shape with rfl | rfl <;> simp
    | clear => exact absurd rfl clears

/-- The event-loop thread finds the client closed. -/
theorem closingClient (tidy : Tidy process) {place : Closing}
    (position : process.caller = .stopClosing .client place) {following : Option Closing}
    (undisturbed : process.CallerUndisturbed process.caller)
    (step : place.step .client true process.shared = (later, following)) :
    Tidy (process.goTo later (following.elim .stopJoin (.stopClosing .client))) := by
  rw [position] at undisturbed
  have idle : process.caller.sfd = none := by
    rw [position]
    rfl
  by_cases clears : place = .clear
  case pos =>
    subst clears
    obtain ⟨rfl, rfl⟩ := by simpa [Closing.step] using step
    exact tidy.resets idle rfl (by simp) (by simp [position]) (by simp)
  case neg =>
    have keeps {shared : Shared} (sound : shared.Sound) (fds : shared.fds = process.shared.fds)
        (slot : shared.slot = process.shared.slot) {following : Option Closing} :
        Tidy (process.goTo shared (following.elim .stopJoin (.stopClosing .client))) := by
      refine tidy.continues sound fds slot (by simp [position, clears]) (by simp [position]) ?_ ?_
      · cases following <;> exact idle.symm
      · cases following <;> simp
    cases place with
    | test =>
        cases stands : (process.shared.slot .client).isSome <;>
          obtain ⟨rfl, rfl⟩ := by simpa [Closing.step, stands] using step
        · exact keeps tidy.sound rfl rfl
        · exact keeps tidy.sound rfl rfl
    | loadShutdown | loadClose =>
        obtain ⟨rfl, rfl⟩ := by simpa [Closing.step] using step
        exact keeps tidy.sound rfl rfl
    | shutdown fd =>
        obtain ⟨rfl, rfl⟩ := by simpa [Closing.step] using step
        refine keeps (tidy.sound.use ?_) (process.shared.use_fds _) (process.shared.use_slot _)
        intro number called
        have current := undisturbed number called
        exact Shared.mine_of_fds ((tidy.client number current.1).resolve_left current.2) (by decide)
    | close fd =>
        obtain rfl : fd = none := undisturbed
        obtain ⟨rfl, rfl⟩ := by simpa [Closing.step] using step
        exact keeps tidy.sound rfl rfl
    | clear => exact absurd rfl clears

/-- `start` sets up a socket, listens on it or gives it up: a number of which only its holder
changes. -/
theorem setsUp (tidy : Tidy process) (sound : later.Sound) {sfd : Nat} {holder : Option Holder}
    (fds : later.fds = Function.update process.shared.fds sfd holder)
    (slot : later.slot = process.shared.slot)
    (before : process.shared.fds sfd ≠ some .listening ∧ process.shared.fds sfd ≠ some .connected)
    (unconnected : holder ≠ some .connected)
    (clears : ∀ slot, process.caller ≠ .stopClosing slot .clear)
    (clearsStale : process.caller ≠ .startClosing .clear)
    (socket : ∀ fd, caller.sfd = some fd ↔
      Function.update process.shared.fds sfd holder fd = some .created)
    (stored : ∀ fd, caller = .startStore fd → fd = sfd ∧ holder = some .listening) :
    Tidy (process.goTo later caller) := by
  have other (fd : Nat) (differs : fd ≠ sfd) : later.fds fd = process.shared.fds fd := by
    rw [fds]
    exact Function.update_of_ne differs _ _
  have self : later.fds sfd = holder := by
    rw [fds]
    exact Function.update_self ..
  refine tidy.proceed sound ?_ ?_ ?_ ?_ ?_
  · intro fd stands
    refine .inr (.inr (.inr ⟨slot ▸ stands, clearsStale, clears .listener, fun listens => ?_⟩))
    rw [other fd fun same => before.1 (same ▸ listens)]
    exact listens
  · exact fun fd stands => ⟨slot ▸ stands, clears .client⟩
  · rw [fds]
    exact socket
  · intro fd place
    obtain ⟨rfl, listens⟩ := stored fd place
    rw [self, listens]
  · intro fd
    by_cases same : fd = sfd
    · subst same
      exact iff_of_false (fun connected => unconnected (self.symm.trans connected)) before.2
    · rw [other fd same]

/-- Tidiness does not depend on the handle of the thread. -/
theorem withHandle (tidy : Tidy process) (handle : Option Nat) : Tidy { process with handle } :=
  ⟨tidy.sound, tidy.listener, tidy.client, tidy.socket, tidy.stored, tidy.connection⟩

theorem join (step : process.join caller = some next)
    (moved : Tidy (process.goTo process.shared caller)) : Tidy next := by
  simp only [Process.join] at step
  split at step
  case h_1 =>
      obtain rfl := Option.some.inj step
      exact moved
  case h_2 =>
      split at step
      case isFalse => cases step
      case isTrue =>
          obtain rfl := Option.some.inj step
          exact moved.withHandle none

theorem spawn (tidy : Tidy process) (place : process.caller = .startThread) :
    Tidy process.spawn := by
  refine ⟨tidy.sound, ?_, ?_, ?_, ?_, ?_⟩
  · intro fd stands
    refine (tidy.listener fd stands).imp_left ?_
    rintro (caller | caller | member)
    · simp [place] at caller
    · simp [place] at caller
    · exact Or.inr (Or.inr (List.mem_append_left _ member))
  · intro fd stands
    refine (tidy.client fd stands).imp_left ?_
    rintro (caller | member | member)
    · simp [place] at caller
    · exact Or.inr (Or.inl (List.mem_append_left _ member))
    · exact Or.inr (Or.inr (List.mem_append_left _ member))
  · intro fd
    have socket := tidy.socket fd
    rwa [place] at socket
  · exact fun fd caller => by cases caller
  · intro fd
    refine Iff.trans ?_ (tidy.connection fd)
    simp [Process.spawn, Worker.cfd]

/-- No other socket is being set up. -/
theorem settled (tidy : Tidy process) {sfd : Nat} (own : process.caller.sfd = some sfd)
    {holder : Option Holder} (changed : holder ≠ some .created) (fd : Nat) :
    Function.update process.shared.fds sfd holder fd ≠ some .created := by
  by_cases same : fd = sfd
  · subst same
    rwa [Function.update_self]
  · rw [Function.update_of_ne same]
    intro created
    exact same (Option.some.inj (((tidy.socket fd).mpr created).symm.trans own))

/-- Every step of `start` and `stop`, one case for each place. -/
theorem callerStep (tidy : Tidy process) {answer : Answer}
    (undisturbed : process.CallerUndisturbed process.caller)
    (step : process.callerStep answer = some next) : Tidy next := by
  have socket := tidy.socket
  have stored := tidy.stored
  simp only [Process.callerStep] at step
  cases place : process.caller with
  | idle last => simp [place] at step
  | startTest =>
      simp only [place] at step
      obtain rfl := Option.some.inj step
      refine tidy.continues tidy.sound rfl rfl (by simp [place]) (by simp [place]) ?_ ?_
      · rw [place]
        split <;> rfl
      · intro fd
        split <;> simp
  | startJoin =>
      simp only [place] at step
      refine join step ?_
      exact tidy.continues tidy.sound rfl rfl (by simp [place]) (by simp [place])
        (by rw [place]; rfl) (by simp)
  | startClosing closing =>
      rw [place] at undisturbed
      simp only [place] at step
      split at step <;> rename_i closes <;> obtain rfl := Option.some.inj step
      · exact tidy.closingListener .startSocket (Or.inl rfl) rfl (by simp) place undisturbed closes
      · exact tidy.closingListener .startSocket (Or.inl rfl) rfl (by simp) place undisturbed closes
  | startSocket =>
      simp only [place] at step
      cases answer with
      | ok | again => simp at step
      | failed =>
          obtain rfl := Option.some.inj step
          exact tidy.continues tidy.sound rfl rfl (by simp [place]) (by simp [place])
            (by rw [place]; rfl) (by simp)
      | fd sfd =>
          simp only at step
          split at step
          case isFalse => cases step
          case isTrue free =>
              obtain rfl := Option.some.inj step
              refine tidy.setsUp (tidy.sound.acquire free (by decide)) rfl rfl (by simp [free])
                (by simp) (by simp [place]) (by simp [place]) ?_ (by simp)
              intro fd
              by_cases same : fd = sfd
              · subst same
                simp [Caller.sfd]
              · have before := socket fd
                rw [place] at before
                simpa [Caller.sfd, same, Ne.symm same] using before
  | startBind sfd =>
      have own := (socket sfd).mp (by rw [place]; rfl)
      have used := tidy.sound.useOwn own (by decide)
      simp only [place] at step
      cases answer with
      | again | fd => simp at step
      | ok | failed =>
          obtain rfl := Option.some.inj step
          exact tidy.continues used rfl rfl (by simp [place]) (by simp [place]) (by rw [place]; rfl)
            (by simp)
  | startListen sfd =>
      have own := (socket sfd).mp (by rw [place]; rfl)
      simp only [place] at step
      cases answer with
      | again | fd => simp at step
      | failed =>
          obtain rfl := Option.some.inj step
          have used := tidy.sound.useOwn own (by decide)
          exact tidy.continues used rfl rfl (by simp [place]) (by simp [place]) (by rw [place]; rfl)
            (by simp)
      | ok =>
          obtain rfl := Option.some.inj step
          have mine := Shared.mine_of_fds own (by decide)
          refine tidy.setsUp (tidy.sound.listen mine) rfl rfl (by simp [own]) (by simp)
            (by simp [place]) (by simp [place]) ?_ (by simp)
          intro fd
          exact iff_of_false (by simp [Caller.sfd])
            (tidy.settled (by rw [place]; rfl) (by decide) fd)
  | startAbandon sfd =>
      have own := (socket sfd).mp (by rw [place]; rfl)
      simp only [place] at step
      obtain rfl := Option.some.inj step
      have closed := tidy.sound.closeOwn own (by decide)
      refine tidy.setsUp closed rfl rfl (by simp [own]) (by simp) (by simp [place])
        (by simp [place]) ?_ (by simp)
      intro fd
      exact iff_of_false (by simp [Caller.sfd])
        (tidy.settled (by rw [place]; rfl) (by decide) fd)
  | startStore sfd =>
      have listens := stored sfd place
      simp only [place] at step
      obtain rfl := Option.some.inj step
      refine tidy.proceed (tidy.sound.same rfl rfl) ?_ ?_ ?_ (by simp) (fun fd => Iff.rfl)
      · intro fd stands
        obtain rfl : sfd = fd := by simpa [Shared.store] using stands
        exact Or.inr (Or.inr (Or.inl listens))
      · intro fd stands
        exact ⟨by simpa [Shared.store] using stands, by simp [place]⟩
      · intro fd
        have before := socket fd
        rwa [place] at before
  | startRunning =>
      simp only [place] at step
      obtain rfl := Option.some.inj step
      exact tidy.continues (tidy.sound.same rfl rfl) rfl rfl (by simp [place]) (by simp [place])
        (by rw [place]; rfl) (by simp)
  | startThread =>
      simp only [place] at step
      cases answer with
      | again | fd => simp at step
      | failed =>
          obtain rfl := Option.some.inj step
          exact tidy.continues tidy.sound rfl rfl (by simp [place]) (by simp [place])
            (by rw [place]; rfl) (by simp)
      | ok =>
          obtain rfl := Option.some.inj step
          exact tidy.spawn place
  | stopRunning =>
      simp only [place] at step
      obtain rfl := Option.some.inj step
      exact tidy.continues (tidy.sound.same rfl rfl) rfl rfl (by simp [place]) (by simp [place])
        (by rw [place]; rfl) (by simp)
  | stopClosing slot closing =>
      cases slot with
      | listener =>
          rw [place] at undisturbed
          simp only [place] at step
          split at step <;> rename_i closes <;> obtain rfl := Option.some.inj step
          · exact tidy.closingListener (.stopClosing .client .test) (Or.inr rfl) rfl (by simp) place
              undisturbed closes
          · exact tidy.closingListener (.stopClosing .client .test) (Or.inr rfl) rfl (by simp) place
              undisturbed closes
      | client =>
          simp only [place] at step
          split at step <;> rename_i closes <;> obtain rfl := Option.some.inj step
          · exact tidy.closingClient place undisturbed closes
          · exact tidy.closingClient place undisturbed closes
  | stopJoin =>
      simp only [place] at step
      refine join step ?_
      exact tidy.continues tidy.sound rfl rfl (by simp [place]) (by simp [place])
        (by rw [place]; rfl) (by simp)

theorem call (tidy : Tidy process) {last : Option Call} (idle : process.caller = .idle last)
    (call : Call) : Tidy { process with caller := call.entry } := by
  have moved : Tidy (process.goTo process.shared call.entry) := by
    refine tidy.continues tidy.sound rfl rfl (by simp [idle]) (by simp [idle]) ?_ ?_
    · rw [idle]
      cases call <;> rfl
    · cases call <;> simp [Call.entry]
  exact moved

/-- What other threads do to numbers that are not the receiver's. -/
theorem interfere (tidy : Tidy process) {number : Nat} {result : Option Holder}
    (before : ¬ process.shared.Mine number) (after : result = none ∨ result = some .foreign) :
    Tidy
      { process with
        shared :=
          { process.shared with
            fds := Function.update process.shared.fds number result } } := by
  have own {fd : Nat} {holder : Holder} (mine : holder ≠ .foreign) :
      Function.update process.shared.fds number result fd = some holder ↔
        process.shared.fds fd = some holder := by
    by_cases same : fd = number
    · subst same
      rw [Function.update_self]
      refine iff_of_false ?_ fun found => before (Shared.mine_of_fds found mine)
      rcases after with rfl | rfl
      · exact (Option.some_ne_none _).symm
      · exact fun same => mine (Option.some.inj same).symm
    · rw [Function.update_of_ne same]
  refine ⟨tidy.sound.interfere before after, ?_, ?_, ?_, ?_, ?_⟩
  · exact fun fd stands => (tidy.listener fd stands).imp_right (own (by decide)).mpr
  · exact fun fd stands => (tidy.client fd stands).imp_right (own (by decide)).mpr
  · exact fun fd => (tidy.socket fd).trans (own (by decide)).symm
  · exact fun fd place => (own (by decide)).mpr (tidy.stored fd place)
  · exact fun fd => (tidy.connection fd).trans (own (by decide)).symm

/-- Any undisturbed step. -/
theorem step (tidy : Tidy process) (orderly : Orderly process) {act : Act}
    (undisturbed : process.Undisturbed act) (step : process.step act = some next) : Tidy next := by
  simp only [Process.step] at step
  rw [if_neg (Bool.eq_false_iff.mp orderly.going)] at step
  cases act with
  | call call =>
      simp only at step
      split at step
      case h_1 idle =>
          obtain rfl := Option.some.inj step
          exact tidy.call idle call
      case h_2 => cases step
  | caller answer => exact tidy.callerStep undisturbed step
  | worker index answer => exact tidy.workerStep orderly undisturbed step
  | opens fd =>
      simp only [Process.opens] at step
      split at step
      case isFalse => cases step
      case isTrue free =>
          obtain rfl := Option.some.inj step
          exact tidy.interfere (by simp [Shared.Mine, free]) (Or.inr rfl)
  | closes fd =>
      simp only [Process.closes] at step
      split at step
      case isFalse => cases step
      case isTrue foreign =>
          obtain rfl := Option.some.inj step
          exact tidy.interfere (by simp [Shared.Mine, foreign]) (Or.inl rfl)

theorem initial (inUse : Nat → Bool) : Tidy (Process.initial inUse) := by
  have alien (fd : Nat) : (Process.initial inUse).shared.fds fd = none ∨
      (Process.initial inUse).shared.fds fd = some .foreign := by
    simp only [Process.initial]
    split <;> simp
  have unheld (fd : Nat) : ¬ (Process.initial inUse).shared.Mine fd := by
    rcases alien fd with found | found <;> simp [Shared.Mine, found]
  have nobody (fd : Nat) (holder : Holder) (own : holder ≠ .foreign) :
      (Process.initial inUse).shared.fds fd ≠ some holder :=
    fun found => unheld fd (Shared.mine_of_fds found own)
  refine ⟨⟨Trace.justified_nil _, fun fd => ?_⟩, ?_, ?_, ?_, ?_, ?_⟩
  · exact iff_of_false Bool.false_ne_true (unheld fd)
  · exact fun fd stands => by cases stands
  · exact fun fd stands => by cases stands
  · exact fun fd => iff_of_false (by simp [Process.initial, Caller.sfd]) (nobody fd _ (by decide))
  · exact fun fd place => by cases place
  · exact fun fd => iff_of_false (by simp [Process.initial]) (nobody fd _ (by decide))

/-- After `stop` nothing is left open. -/
theorem released (tidy : Tidy process) (orderly : Orderly process)
    (returned : process.caller = .idle (some .stop)) (fd : Nat) :
    Handles.held fd process.shared.ops = false := by
  rw [Bool.eq_false_iff]
  intro held
  have mine := (tidy.sound.held_iff fd).mp held
  obtain ⟨-, -, finished, quiet⟩ := orderly.lifecycle.stopped returned
  cases holder : process.shared.fds fd with
  | none => exact mine.1 holder
  | some holder' =>
      cases holder' with
      | foreign => exact mine.2 holder
      | listening => exact quiet fd holder
      | created =>
          have place := (tidy.socket fd).mpr holder
          rw [returned] at place
          cases place
      | connected =>
          obtain ⟨worker, member, own⟩ := List.mem_map.mp ((tidy.connection fd).mpr holder)
          obtain rfl := finished worker member
          cases own

end Tidy

/-! ## Whole runs -/

/-- The receiver has called on no number that was not its own, and has closed everything it opened
when `stop` returns. -/
def Process.ClosesOnce (process : Process) : Prop :=
  Handles.Owned process.shared.ops ∧
    (process.caller = .idle (some .stop) → ∀ fd,
      process.shared.ops.count (.acquire fd) = process.shared.ops.count (.release fd))

/-- In a run of undisturbed steps the receiver closes each of its descriptors once, and calls on
none afterwards. -/
theorem mirror_closes_once (inUse : Nat → Bool) (acts : List Act) (process : Process)
    (undisturbed : Scheduled.Meets Process.step Process.Undisturbed (Process.initial inUse) acts)
    (ran : (Process.initial inUse).run acts = some process) : process.ClosesOnce := by
  have kept : ∀ {before : Process} {act : Act} {after : Process}, Orderly before ∧ Tidy before →
      before.Undisturbed act → before.step act = some after → Orderly after ∧ Tidy after := by
    rintro before act after ⟨orderly, tidy⟩ undisturbed step
    exact ⟨(orderly.step step).1, tidy.step orderly undisturbed step⟩
  obtain ⟨orderly, tidy⟩ := undisturbed.keeps kept ⟨Orderly.initial inUse, Tidy.initial inUse⟩ ran
  refine ⟨tidy.sound.owned, fun returned fd => ?_⟩
  rw [tidy.sound.owned.count_acquire fd, tidy.released orderly returned fd]
  rfl

/-- A worker listens on 3 and reads a TLS connection on 4. -/
def connectedStart : List Act :=
  [.call .start, .caller .ok, .caller .ok, .caller .ok, .caller (.fd 3), .caller .ok, .caller .ok,
    .caller .ok, .caller .ok, .caller .ok, .worker 0 .ok, .worker 0 .ok, .worker 0 .ok,
    .worker 0 (.fd 4), .worker 0 .ok, .worker 0 .again, .worker 0 .ok, .worker 0 .ok, .worker 0 .ok]

/-- The stream ends, the worker cleans up, and then the event loop calls `stop`. -/
def endedStream : List Act :=
  connectedStart ++ .worker 0 .failed :: List.replicate 8 (.worker 0 .ok) ++
    .call .stop :: List.replicate 4 (.caller .ok)

theorem mirror_closes_once_ended :
    ∃ process, (Process.initial fun _ => false).run endedStream = some process ∧
      process.caller = .idle (some .stop) ∧ process.ClosesOnce :=
  ⟨_, rfl, rfl, mirror_closes_once (fun _ => false) endedStream _ (by decide) rfl⟩

/-- `stop` closes both descriptors of a worker that is reading, and another thread opens 4. -/
def stoppedStream : List Act :=
  connectedStart ++ .call .stop :: List.replicate 12 (.caller .ok) ++ [.opens 4]

/-- The worker says goodbye on the other thread's descriptor and closes it. -/
theorem mirror_closes_foreign :
    ∃ before after, (Process.initial fun _ => false).run stoppedStream = some before ∧
      before.shared.fds 4 = some .foreign ∧
      before.run [.worker 0 .failed, .worker 0 .ok, .worker 0 .ok] = some after ∧
      after.shared.fds 4 = none ∧ ¬ after.ClosesOnce := by
  refine ⟨_, _, rfl, rfl, rfl, rfl, fun closesOnce => ?_⟩
  exact @Handles.not_owned_of_release_use
    [.acquire 3, .use 3, .use 3, .use 3, .acquire 4, .use 4, .use 3, .release 3, .use 4] _ 4
    ⟨[.release 4], rfl⟩ closesOnce.1

end MirrorThreads
end TitanShare
