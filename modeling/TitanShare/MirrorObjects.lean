import TitanShare.MirrorClosing
import TitanShare.MirrorPipeline

/-!
# The objects of the mirror

In every interleaving of the worker, the event loop and the other threads, GStreamer is given only
objects that live, and none is lost: each is in its member until it was freed once.  When a worker
has ended, or `stop` has returned, nothing is left.
-/

namespace TitanShare
namespace MirrorPipeline

open MirrorThreads (Orderly Process Worker)

namespace Screen

variable {screen : Screen} {pipeline appsrc : Option Nat} {live rest : List Nat} {object : Nat}

/-- The members are these, only what lives was passed to GStreamer, and these objects live. -/
structure Has (screen : Screen) (pipeline appsrc : Option Nat) (live : List Nat) : Prop where
  pipeline : screen.pipeline = pipeline
  appsrc : screen.appsrc = appsrc
  holds : Handles.Holds screen.ops live
  null : screen.null = false

def Empty (screen : Screen) : Prop :=
  screen.Has none none []

/-- A pipeline, and the source that frames are pushed into. -/
def Full (screen : Screen) : Prop :=
  ∃ pipeline appsrc, screen.Has (some pipeline) (some appsrc) [pipeline, appsrc]

theorem empty_created : created.Empty :=
  ⟨rfl, rfl, Handles.holds_nil, rfl⟩

theorem Has.usePipeline (has : screen.Has (some object) appsrc live) (member : object ∈ live) :
    (screen.use screen.pipeline).Has (some object) appsrc live := by
  rw [has.pipeline]
  exact ⟨has.pipeline, has.appsrc, has.holds.use member, has.null⟩

theorem Has.useAppsrc (has : screen.Has pipeline (some object) live) (member : object ∈ live) :
    (screen.use screen.appsrc).Has pipeline (some object) live := by
  rw [has.appsrc]
  exact ⟨has.pipeline, has.appsrc, has.holds.use member, has.null⟩

theorem Has.unrefPipeline (has : screen.Has (some object) appsrc (object :: rest)) :
    (screen.unref screen.pipeline).Has (some object) appsrc rest := by
  rw [has.pipeline]
  exact ⟨has.pipeline, has.appsrc, has.holds.release (List.Perm.refl _), has.null⟩

theorem Has.unrefAppsrc (has : screen.Has pipeline (some object) (object :: rest)) :
    (screen.unref screen.appsrc).Has pipeline (some object) rest := by
  rw [has.appsrc]
  exact ⟨has.pipeline, has.appsrc, has.holds.release (List.Perm.refl _), has.null⟩

theorem Has.setPipeline (has : screen.Has pipeline appsrc live) (value : Option Nat) :
    ({ screen with pipeline := value } : Screen).Has value appsrc live :=
  ⟨rfl, has.appsrc, has.holds, has.null⟩

theorem Has.setAppsrc (has : screen.Has pipeline appsrc live) (value : Option Nat) :
    ({ screen with appsrc := value } : Screen).Has pipeline value live :=
  ⟨has.pipeline, rfl, has.holds, has.null⟩

theorem Has.launch (has : screen.Has pipeline appsrc live) (granted : screen.grants object = true) :
    (screen.launch object).Has (some object) appsrc (object :: live) := by
  have free : Handles.held object screen.ops = false := by simpa [grants] using granted
  exact ⟨rfl, has.appsrc, has.holds.acquire free, has.null⟩

theorem Has.found (has : screen.Has pipeline appsrc live) (granted : screen.grants object = true) :
    (screen.found object).Has pipeline (some object) (object :: live) := by
  have free : Handles.held object screen.ops = false := by simpa [grants] using granted
  exact ⟨has.pipeline, rfl, has.holds.acquire free, has.null⟩

theorem Has.perm (has : screen.Has pipeline appsrc live) (same : live.Perm rest) :
    screen.Has pipeline appsrc rest :=
  ⟨has.pipeline, has.appsrc, has.holds.perm same, has.null⟩

theorem Full.usePipeline (full : screen.Full) : (screen.use screen.pipeline).Full := by
  obtain ⟨pipeline, appsrc, has⟩ := full
  exact ⟨pipeline, appsrc, has.usePipeline (by simp)⟩

theorem Full.useAppsrc (full : screen.Full) : (screen.use screen.appsrc).Full := by
  obtain ⟨pipeline, appsrc, has⟩ := full
  exact ⟨pipeline, appsrc, has.useAppsrc (by simp)⟩

/-- Nothing was passed to GStreamer but what lived, and what lives is in its member. -/
structure Owned (screen : Screen) : Prop where
  owned : Handles.Owned screen.ops
  null : screen.null = false
  kept : ∀ object, Handles.held object screen.ops = true →
    screen.pipeline = some object ∨ screen.appsrc = some object

theorem Has.owned (has : screen.Has pipeline appsrc live)
    (kept : ∀ object ∈ live, pipeline = some object ∨ appsrc = some object) : screen.Owned where
  owned := has.holds.owned
  null := has.null
  kept := by
    intro object held
    rw [has.pipeline, has.appsrc]
    exact kept object ((has.holds.held_iff object).mp held)

theorem Empty.owned (empty : screen.Empty) : screen.Owned :=
  Has.owned empty (by simp)

theorem Full.owned (full : screen.Full) : screen.Owned := by
  obtain ⟨pipeline, appsrc, has⟩ := full
  exact has.owned (by simp [eq_comm])

/-- What was taken was given back. -/
theorem Empty.balanced (empty : screen.Empty) (object : Nat) :
    screen.ops.count (.acquire object) = screen.ops.count (.release object) := by
  have dead : Handles.held object screen.ops = false := by
    simpa using (empty.holds.held_iff object)
  simpa [dead] using empty.holds.owned.count_acquire object

end Screen

/-! ## `cleanupPipeline` -/

/-- What is left where the thread stands. -/
def Cleaning.Keeps (screen : Screen) : Cleaning → Prop
  | testPipeline => screen.Full ∨ screen.Empty
  | setNull | unrefPipeline => screen.Full
  | clearPipeline => ∃ pipeline appsrc, screen.Has (some pipeline) (some appsrc) [appsrc]
  | testAppsrc => (∃ appsrc, screen.Has none (some appsrc) [appsrc]) ∨ screen.Empty
  | unrefAppsrc => ∃ appsrc, screen.Has none (some appsrc) [appsrc]
  | clearAppsrc => ∃ appsrc, screen.Has none (some appsrc) []

/-- The thread goes on with what is left, or nothing is. -/
theorem Cleaning.Keeps.step {screen : Screen} {place : Cleaning} (keeps : place.Keeps screen) :
    (∀ next, (place.step screen).2 = some next → next.Keeps (place.step screen).1) ∧
      ((place.step screen).2 = none → (place.step screen).1.Empty) := by
  cases place with
  | testPipeline =>
      refine ⟨?_, fun done => by cases done⟩
      rintro _ ⟨⟩
      rcases keeps with full | empty
      · obtain ⟨pipeline, appsrc, has⟩ := full
        simpa [Cleaning.step, has.pipeline, Cleaning.Keeps] using ⟨pipeline, appsrc, has⟩
      · simpa [Cleaning.step, empty.pipeline, Cleaning.Keeps] using Or.inr empty
  | setNull =>
      refine ⟨?_, fun done => by cases done⟩
      rintro _ ⟨⟩
      exact Screen.Full.usePipeline keeps
  | unrefPipeline =>
      obtain ⟨pipeline, appsrc, has⟩ := keeps
      refine ⟨?_, fun done => by cases done⟩
      rintro _ ⟨⟩
      exact ⟨pipeline, appsrc, has.unrefPipeline⟩
  | clearPipeline =>
      obtain ⟨pipeline, appsrc, has⟩ := keeps
      refine ⟨?_, fun done => by cases done⟩
      rintro _ ⟨⟩
      exact Or.inl ⟨appsrc, has.setPipeline none⟩
  | testAppsrc =>
      rcases keeps with ⟨appsrc, has⟩ | empty
      · refine ⟨?_, ?_⟩
        · simpa [Cleaning.step, has.appsrc, Cleaning.Keeps] using ⟨appsrc, has⟩
        · simp [Cleaning.step, has.appsrc]
      · refine ⟨?_, fun _ => empty⟩
        simp [Cleaning.step, empty.appsrc]
  | unrefAppsrc =>
      obtain ⟨appsrc, has⟩ := keeps
      refine ⟨?_, fun done => by cases done⟩
      rintro _ ⟨⟩
      exact ⟨appsrc, has.unrefAppsrc⟩
  | clearAppsrc =>
      obtain ⟨appsrc, has⟩ := keeps
      refine ⟨fun _ more => ?_, fun _ => has.setAppsrc none⟩
      cases more

/-- Inside a call of `cleanupPipeline` and behind it. -/
theorem Cleaning.Keeps.go {screen : Screen} {cleaning : Cleaning} (keeps : cleaning.Keeps screen)
    {motive : Screen → Place → Prop} {within : Cleaning → Place} {behind : Place}
    (inside : ∀ later next, next.Keeps later → motive later (within next))
    (after : ∀ later, later.Empty → motive later behind) :
    motive (cleaning.go screen within behind).1 (cleaning.go screen within behind).2 := by
  obtain ⟨further, done⟩ := keeps.step
  unfold Cleaning.go
  split
  case h_1 later next cleans =>
      rw [cleans] at further
      exact inside later next (further next rfl)
  case h_2 later cleans =>
      rw [cleans] at done
      exact after later (done rfl)

theorem Cleaning.Keeps.owned {screen : Screen} {place : Cleaning} (keeps : place.Keeps screen) :
    screen.Owned := by
  cases place with
  | testPipeline =>
      rcases keeps with full | empty
      · exact full.owned
      · exact empty.owned
  | setNull | unrefPipeline => exact Screen.Full.owned keeps
  | clearPipeline =>
      obtain ⟨pipeline, appsrc, has⟩ := keeps
      exact has.owned (by simp)
  | testAppsrc =>
      rcases keeps with ⟨appsrc, has⟩ | empty
      · exact has.owned (by simp)
      · exact empty.owned
  | unrefAppsrc =>
      obtain ⟨appsrc, has⟩ := keeps
      exact has.owned (by simp)
  | clearAppsrc =>
      obtain ⟨appsrc, has⟩ := keeps
      exact has.owned (by simp)

/-! ## The worker -/

/-- What the worker has where it stands in `buildPipeline`. -/
def Place.Builds (screen : Screen) : Place → Prop
  | outside | resetAppsrc | launching | relaunching | built false => screen.Empty
  | finding | abandoning => ∃ pipeline, screen.Has (some pipeline) none [pipeline]
  | forgetting => ∃ pipeline, screen.Has (some pipeline) none []
  | settingUp | announcing | playing | built true => screen.Full
  | failing place => place.Keeps screen
  | pushed | cleaning _ | cleaned => False

/-- What it has when its stream has ended. -/
def Place.Ends (screen : Screen) : Place → Prop
  | outside => screen.Full
  | cleaning place => place.Keeps screen
  | cleaned => screen.Empty
  | _ => False

/-- What a worker has, where its thread stands. -/
def Keeps (screen : Screen) (place : Place) : Worker → Prop
  | .building _ _ => place.Builds screen
  | .looping _ _ => place = .outside ∧ screen.Full
  | .reading _ _ => (place = .outside ∨ place = .pushed) ∧ screen.Full
  | .goodbye true _ _ => place.Ends screen
  | _ => place = .outside ∧ screen.Empty

variable {screen later : Screen} {place next : Place}

theorem Place.Builds.launched (empty : screen.Empty) {answer : Answer} {refused : Place}
    (step : launchStep screen answer refused = some (later, place))
    (failed : refused.Builds { screen with pipeline := none }) : place.Builds later := by
  cases answer with
  | ok => cases step
  | failed =>
      obtain ⟨rfl, rfl⟩ := by simpa [launchStep] using step
      exact failed
  | object pipeline =>
      simp only [launchStep] at step
      split at step
      case isFalse => cases step
      case isTrue granted =>
          obtain ⟨rfl, rfl⟩ := by simpa using step
          exact ⟨pipeline, empty.launch granted⟩

theorem Place.Builds.step (builds : place.Builds screen) {answer : Answer}
    (step : buildStep screen answer place = some (later, next)) : next.Builds later := by
  cases place with
  | outside =>
      obtain ⟨rfl, rfl⟩ := by simpa [buildStep] using step
      exact Screen.Has.setPipeline builds none
  | resetAppsrc =>
      obtain ⟨rfl, rfl⟩ := by simpa [buildStep] using step
      exact Screen.Has.setAppsrc builds none
  | launching =>
      exact launched builds step (Screen.Has.setPipeline builds none)
  | relaunching =>
      exact launched builds step (Screen.Has.setPipeline builds none)
  | finding =>
      obtain ⟨pipeline, has⟩ := builds
      have used := has.usePipeline List.mem_cons_self
      cases answer with
      | ok => cases step
      | failed =>
          obtain ⟨rfl, rfl⟩ := by simpa [buildStep] using step
          exact ⟨pipeline, used.setAppsrc none⟩
      | object appsrc =>
          simp only [buildStep] at step
          split at step
          case isFalse => cases step
          case isTrue granted =>
              obtain ⟨rfl, rfl⟩ := by simpa using step
              exact ⟨pipeline, appsrc, (used.found granted).perm (List.Perm.swap _ _ _)⟩
  | abandoning =>
      obtain ⟨pipeline, has⟩ := builds
      obtain ⟨rfl, rfl⟩ := by simpa [buildStep] using step
      exact ⟨pipeline, has.unrefPipeline⟩
  | forgetting =>
      obtain ⟨pipeline, has⟩ := builds
      obtain ⟨rfl, rfl⟩ := by simpa [buildStep] using step
      exact has.setPipeline none
  | settingUp =>
      obtain ⟨rfl, rfl⟩ := by simpa [buildStep] using step
      exact Screen.Full.usePipeline builds
  | announcing =>
      obtain ⟨rfl, rfl⟩ := by simpa [buildStep] using step
      exact Screen.Full.useAppsrc builds
  | playing =>
      have full := Screen.Full.usePipeline builds
      cases answer with
      | object => cases step
      | ok =>
          obtain ⟨rfl, rfl⟩ := by simpa [buildStep] using step
          exact full
      | failed =>
          obtain ⟨rfl, rfl⟩ := by simpa [buildStep] using step
          exact Or.inl full
  | failing cleaning =>
      obtain ⟨rfl, rfl⟩ := Prod.mk.inj (Option.some.inj step)
      exact Cleaning.Keeps.go builds (motive := fun screen place => place.Builds screen)
        (fun _ _ keeps => keeps) (fun _ empty => empty)
  | built | pushed | cleaning | cleaned => cases step

theorem Keeps.placeStep {worker : Worker} (keeps : Keeps screen place worker) {answer : Answer}
    (step : place.step screen answer worker = some (later, next)) : Keeps later next worker := by
  cases worker with
  | building => exact Place.Builds.step keeps step
  | reading =>
      simp only [Place.step] at step
      split at step
      case isFalse => cases step
      case isTrue =>
          obtain ⟨rfl, rfl⟩ := by simpa using step
          exact ⟨Or.inr rfl, keeps.2.useAppsrc⟩
  | goodbye built =>
      cases built with
      | false => cases step
      | true =>
          cases place with
          | outside =>
              obtain ⟨rfl, rfl⟩ := by simpa [Place.step] using step
              exact Or.inl keeps
          | cleaning cleaning =>
              obtain ⟨rfl, rfl⟩ := Prod.mk.inj (Option.some.inj step)
              exact Cleaning.Keeps.go keeps (motive := fun screen place => place.Ends screen)
                (fun _ _ keeps => keeps) (fun _ empty => empty)
          | _ => cases step
  | _ => cases step

/-- A thread goes on when it is through with the members. -/
theorem Keeps.threadStep {worker moved : Worker} (keeps : Keeps screen place worker)
    {shared after : MirrorThreads.Shared} {answer : MirrorThreads.Answer}
    (lets : place.lets answer worker = true)
    (step : worker.step shared answer = some (after, moved)) : Keeps screen .outside moved := by
  cases worker with
  | waiting =>
      obtain ⟨-, rfl⟩ := by simpa [Worker.step] using step
      split
      · exact ⟨rfl, keeps.2⟩
      · exact ⟨rfl, keeps.2⟩
  | looping =>
      obtain ⟨-, rfl⟩ := by simpa [Worker.step] using step
      split
      · exact ⟨Or.inl rfl, keeps.2⟩
      · exact keeps.2
  | building =>
      obtain rfl : place = .built (answer = .ok) := by simpa [Place.lets] using lets
      cases answer with
      | ok =>
          obtain ⟨-, rfl⟩ := by simpa [Worker.step] using step
          exact ⟨rfl, keeps⟩
      | failed =>
          obtain ⟨-, rfl⟩ := by simpa [Worker.step] using step
          exact ⟨rfl, keeps⟩
      | again | fd => cases step
  | reading =>
      cases answer with
      | ok =>
          obtain ⟨-, rfl⟩ := by simpa [Worker.step] using step
          exact ⟨rfl, keeps.2⟩
      | again =>
          obtain ⟨-, rfl⟩ := by simpa [Worker.step] using step
          exact ⟨Or.inl rfl, keeps.2⟩
      | failed =>
          obtain ⟨-, rfl⟩ := by simpa [Worker.step] using step
          exact keeps.2
      | fd => cases step
  | goodbye built =>
      obtain ⟨-, rfl⟩ := by simpa only [Worker.step, Option.some.injEq, Prod.mk.injEq] using step
      cases built with
      | false => exact ⟨rfl, keeps.2⟩
      | true =>
          obtain rfl : place = .cleaned := by simpa [Place.lets] using lets
          exact ⟨rfl, keeps⟩
  | loading | connected | closing | stopping =>
      obtain ⟨-, rfl⟩ := by simpa [Worker.step] using step
      exact ⟨rfl, keeps.2⟩
  | clearing =>
      obtain ⟨-, rfl⟩ := by simpa [Worker.step] using step
      split
      · exact ⟨rfl, keeps.2⟩
      · exact ⟨rfl, keeps.2⟩
  | polling =>
      cases answer with
      | ok | again | failed =>
          obtain ⟨-, rfl⟩ := by simpa [Worker.step] using step
          exact ⟨rfl, keeps.2⟩
      | fd => cases step
  | accepting =>
      cases answer with
      | ok => cases step
      | again | failed =>
          obtain ⟨-, rfl⟩ := by simpa [Worker.step] using step
          exact ⟨rfl, keeps.2⟩
      | fd =>
          simp only [Worker.step] at step
          split at step
          case isFalse => cases step
          case isTrue =>
              obtain ⟨-, rfl⟩ := by simpa using step
              exact ⟨rfl, keeps.2⟩
  | handshake =>
      cases answer with
      | ok | failed =>
          obtain ⟨-, rfl⟩ := by simpa [Worker.step] using step
          exact keeps.2
      | again =>
          obtain ⟨-, rfl⟩ := by simpa [Worker.step] using step
          exact ⟨rfl, keeps.2⟩
      | fd => cases step
  | closingListener =>
      simp only [Worker.step] at step
      split at step
      case h_1 | h_2 =>
          obtain ⟨-, rfl⟩ := by simpa using step
          exact ⟨rfl, keeps.2⟩
  | finished => cases step

theorem Place.Builds.owned (builds : place.Builds screen) : screen.Owned := by
  cases place with
  | outside | resetAppsrc | launching | relaunching => exact Screen.Empty.owned builds
  | built ok =>
      cases ok with
      | false => exact Screen.Empty.owned builds
      | true => exact Screen.Full.owned builds
  | finding | abandoning =>
      obtain ⟨pipeline, has⟩ := builds
      exact has.owned (by simp)
  | forgetting =>
      obtain ⟨pipeline, has⟩ := builds
      exact has.owned (by simp)
  | settingUp | announcing | playing => exact Screen.Full.owned builds
  | failing => exact Cleaning.Keeps.owned builds
  | pushed | cleaning | cleaned => exact builds.elim

theorem Keeps.owned {worker : Worker} (keeps : Keeps screen place worker) : screen.Owned := by
  cases worker with
  | building => exact Place.Builds.owned keeps
  | looping | reading => exact keeps.2.owned
  | goodbye built =>
      cases built with
      | false => exact keeps.2.owned
      | true =>
          cases place with
          | outside => exact Screen.Full.owned keeps
          | cleaning => exact Cleaning.Keeps.owned keeps
          | cleaned => exact Screen.Empty.owned keeps
          | _ => exact keeps.elim
  | _ => exact keeps.2.owned

/-! ## The threads together -/

namespace System

/-- Every worker has ended. -/
def Resting (process : Process) : Prop :=
  ∀ worker ∈ process.workers, worker = .finished

/-- Between two steps the objects are with the thread that is at work, if there is one. -/
structure Sound (system : System) : Prop where
  orderly : Orderly system.process
  works : ∀ (index : Nat) (worker : Worker), system.process.workers[index]? = some worker →
    worker ≠ .finished → Keeps system.screen (system.place index) worker
  rests : Resting system.process → system.stopping = none → system.screen.Empty
  stops : ∀ place ∈ system.stopping,
    place.Keeps system.screen ∧ system.process.caller = .idle (some .stop)
  fresh : ∀ index, system.process.workers.length ≤ index → system.place index = .outside

theorem sound_initial (inUse : Nat → Bool) : Sound (initial inUse) where
  orderly := Orderly.initial inUse
  works := by simp [initial, Process.initial]
  rests := fun _ _ => Screen.empty_created
  stops := by simp [initial]
  fresh := fun _ _ => rfl

/-- When `stop` has joined the worker nobody works. -/
theorem resting_of_idle {process : Process} (orderly : Orderly process)
    (idle : process.caller = .idle (some .stop)) : Resting process := by
  intro worker member
  obtain ⟨index, found⟩ := List.mem_iff_getElem?.mp member
  exact orderly.finished_of_alone (orderly.alone (by rw [idle]; trivial)) found

variable {system : System}

/-- A step of a thread. -/
theorem Sound.thread (sound : Sound system) {next : Process} (orderly : Orderly next)
    {place : Nat → Place}
    (free : system.stopping = none ∨ next.caller = system.process.caller)
    (works : ∀ (index : Nat) (worker : Worker), next.workers[index]? = some worker →
      worker ≠ .finished → Keeps system.screen (place index) worker)
    (rests : Resting next → system.stopping = none → system.screen.Empty)
    (fresh : ∀ index, next.workers.length ≤ index → place index = .outside) :
    Sound
      { process := next
        screen := system.screen
        place := place
        stopping :=
          if stopped system.process next then some .testPipeline else system.stopping } := by
  by_cases joined : stopped system.process next = true
  · obtain ⟨before, after⟩ : system.process.caller = .stopJoin ∧
      next.caller = .idle (some .stop) := by
      simpa [stopped] using joined
    have unstopped : system.stopping = none := by
      rcases free with unstopped | same
      · exact unstopped
      · rw [after, before] at same
        cases same
    have empty := rests (resting_of_idle orderly after) unstopped
    rw [if_pos joined]
    refine ⟨orderly, works, ?_, ?_, fresh⟩
    · rintro - ⟨⟩
    · rintro _ ⟨⟩
      exact ⟨Or.inr empty, after⟩
  · rw [if_neg joined]
    refine ⟨orderly, works, rests, ?_, fresh⟩
    intro cleaning member
    rcases free with unstopped | same
    · rw [unstopped] at member
      cases member
    · obtain ⟨keeps, idle⟩ := sound.stops cleaning member
      exact ⟨keeps, same.trans idle⟩

/-- A step of a thread that moves no worker. -/
theorem Sound.unmoved (sound : Sound system) {next : Process} (orderly : Orderly next)
    (free : system.stopping = none ∨ next.caller = system.process.caller)
    (same : next.workers = system.process.workers) :
    Sound
      { process := next
        screen := system.screen
        place := system.place
        stopping :=
          if stopped system.process next then some .testPipeline else system.stopping } := by
  refine sound.thread orderly free ?_ ?_ ?_
  · rw [same]
    exact sound.works
  · intro resting
    refine sound.rests fun worker member => resting worker ?_
    rwa [same]
  · rw [same]
    exact sound.fresh

/-- The event loop moves no worker, but creates one at the end of `start`. -/
theorem callerStep_workers {process next : Process} {answer : MirrorThreads.Answer}
    (step : process.callerStep answer = some next) :
    next.workers = process.workers ∨ process.caller = .startThread ∧ next = process.spawn := by
  simp only [Process.callerStep] at step
  cases place : process.caller with
  | idle => simp [place] at step
  | startTest | startAbandon | startStore | startRunning | stopRunning =>
      simp only [place] at step
      obtain rfl := Option.some.inj step
      exact Or.inl rfl
  | startJoin | stopJoin =>
      simp only [place, Process.join] at step
      split at step
      · obtain rfl := Option.some.inj step
        exact Or.inl rfl
      · split at step
        case isFalse => cases step
        case isTrue =>
            obtain rfl := Option.some.inj step
            exact Or.inl rfl
  | startClosing =>
      simp only [place] at step
      split at step <;> (obtain rfl := Option.some.inj step; exact Or.inl rfl)
  | startSocket =>
      simp only [place] at step
      cases answer with
      | ok | again => cases step
      | failed =>
          obtain rfl := Option.some.inj step
          exact Or.inl rfl
      | fd sfd =>
          simp only at step
          split at step
          case isFalse => cases step
          case isTrue =>
              obtain rfl := Option.some.inj step
              exact Or.inl rfl
  | startBind | startListen =>
      simp only [place] at step
      cases answer with
      | again | fd => cases step
      | ok | failed =>
          obtain rfl := Option.some.inj step
          exact Or.inl rfl
  | startThread =>
      simp only [place] at step
      cases answer with
      | again | fd => cases step
      | failed =>
          obtain rfl := Option.some.inj step
          exact Or.inl rfl
      | ok => exact Or.inr ⟨rfl, (Option.some.inj step).symm⟩
  | stopClosing slot =>
      simp only [place] at step
      split at step
      · obtain rfl := Option.some.inj step
        exact Or.inl rfl
      · cases slot <;> (obtain rfl := Option.some.inj step; exact Or.inl rfl)

/-- The new worker has nothing yet. -/
theorem Sound.spawned (sound : Sound system) (orderly : Orderly system.process.spawn)
    (place : system.process.caller = .startThread) (unstopped : system.stopping = none) :
    Sound
      { process := system.process.spawn
        screen := system.screen
        place := system.place
        stopping :=
          if stopped system.process system.process.spawn then some .testPipeline
          else system.stopping } := by
  have alone := sound.orderly.alone (by rw [place]; trivial)
  have resting : Resting system.process := by
    intro worker member
    obtain ⟨index, found⟩ := List.mem_iff_getElem?.mp member
    exact sound.orderly.finished_of_alone alone found
  have empty := sound.rests resting unstopped
  refine sound.thread orderly (Or.inl unstopped) ?_ (fun _ _ => empty) ?_
  · intro index worker found unfinished
    rcases sound.orderly.of_spawn alone found with finished | ⟨rfl, rfl⟩
    · exact absurd finished unfinished
    · exact ⟨sound.fresh _ (Nat.le_refl _), empty⟩
  · intro index outside
    refine sound.fresh index (Nat.le_of_succ_le ?_)
    simpa [Process.spawn] using outside

/-- While a worker is at work the others have ended. -/
theorem Sound.only (sound : Sound system) {index other : Nat} {worker present : Worker}
    (found : system.process.workers[index]? = some worker) (unfinished : worker ≠ .finished)
    (there : system.process.workers[other]? = some present) (live : present ≠ .finished) :
    other = index := by
  have handle := sound.orderly.alive index worker found unfinished
  exact Option.some.inj ((sound.orderly.alive other present there live).symm.trans handle)

theorem Sound.workerStep (sound : Sound system) {next : Process} {index : Nat}
    {answer : MirrorThreads.Answer} (lets : system.lets (.worker index answer) = true)
    (orderly : Orderly next) (step : system.process.workerStep index answer = some next) :
    Sound
      { process := next
        screen := system.screen
        place := Function.update system.place index .outside
        stopping :=
          if stopped system.process next then some .testPipeline else system.stopping } := by
  obtain ⟨worker, moved, later, found, steps, rfl⟩ := MirrorThreads.Process.workerStep_eq step
  have unfinished : worker ≠ .finished := by
    rintro rfl
    cases steps
  have inside : index < system.process.workers.length := (List.getElem?_eq_some_iff.mp found).1
  have placed : (system.place index).lets answer worker = true := by
    simpa [System.lets, found] using lets
  have keeps := (sound.works index worker found unfinished).threadStep placed steps
  refine sound.thread orderly (Or.inr rfl) ?_ ?_ ?_
  · intro other present there live
    by_cases same : other = index
    · subst same
      obtain rfl : moved = present := by simpa [inside] using there
      rwa [Function.update_self]
    · rw [List.getElem?_set_ne (Ne.symm same)] at there
      exact absurd (sound.only found unfinished there live) same
  · intro resting _
    obtain rfl : moved = .finished := resting moved (List.mem_set inside moved)
    exact keeps.2
  · intro other outside
    rw [List.length_set] at outside
    rw [Function.update_of_ne (by omega)]
    exact sound.fresh other outside

theorem Sound.threadStep (sound : Sound system) {later : System} {act : MirrorThreads.Act}
    (step : system.step (.thread act) = some later) : Sound later := by
  simp only [System.step] at step
  split at step
  case isFalse => cases step
  case isTrue lets =>
      obtain ⟨next, stepped, rfl⟩ := Option.map_eq_some_iff.mp step
      have orderly := (sound.orderly.step stepped).1
      simp only [Process.step] at stepped
      rw [if_neg (Bool.eq_false_iff.mp sound.orderly.going)] at stepped
      cases act with
      | call call =>
          have unstopped : system.stopping = none := by simpa [System.lets] using lets
          simp only at stepped
          split at stepped
          case h_1 =>
              obtain rfl := Option.some.inj stepped
              exact sound.unmoved orderly (Or.inl unstopped) rfl
          case h_2 => cases stepped
      | caller answer =>
          have unstopped : system.stopping = none := by simpa [System.lets] using lets
          rcases callerStep_workers stepped with same | ⟨place, rfl⟩
          · exact sound.unmoved orderly (Or.inl unstopped) same
          · exact sound.spawned orderly place unstopped
      | worker index answer => exact sound.workerStep lets orderly stepped
      | opens fd =>
          simp only [Process.opens] at stepped
          split at stepped
          case isFalse => cases stepped
          case isTrue =>
              obtain rfl := Option.some.inj stepped
              exact sound.unmoved orderly (Or.inr rfl) rfl
      | closes fd =>
          simp only [Process.closes] at stepped
          split at stepped
          case isFalse => cases stepped
          case isTrue =>
              obtain rfl := Option.some.inj stepped
              exact sound.unmoved orderly (Or.inr rfl) rfl

theorem Sound.screenStep (sound : Sound system) {later : System} {index : Nat} {answer : Answer}
    (step : system.step (.screen index answer) = some later) : Sound later := by
  simp only [System.step] at step
  split at step
  case h_2 => cases step
  case h_1 worker found =>
      obtain ⟨⟨screen, place⟩, stepped, rfl⟩ := Option.map_eq_some_iff.mp step
      have unfinished : worker ≠ .finished := by
        rintro rfl
        cases stepped
      have inside : index < system.process.workers.length := (List.getElem?_eq_some_iff.mp found).1
      have keeps := (sound.works index worker found unfinished).placeStep stepped
      have busy : ¬ Resting system.process := fun resting =>
        unfinished (resting worker (List.mem_of_getElem? found))
      refine ⟨sound.orderly, ?_, fun resting => absurd resting busy, ?_, ?_⟩
      · intro other present there live
        obtain rfl := sound.only found unfinished there live
        obtain rfl := Option.some.inj (there.symm.trans found)
        simpa using keeps
      · intro cleaning member
        exact absurd (resting_of_idle sound.orderly (sound.stops cleaning member).2) busy
      · intro other outside
        have apart : other ≠ index := by
          have outside : system.process.workers.length ≤ other := outside
          omega
        exact (Function.update_of_ne apart _ _).trans (sound.fresh other outside)

theorem Sound.stopStep (sound : Sound system) {later : System}
    (step : system.step .stop = some later) : Sound later := by
  obtain ⟨cleaning, stopping, rfl⟩ := Option.map_eq_some_iff.mp step
  obtain ⟨keeps, idle⟩ := sound.stops cleaning stopping
  obtain ⟨further, done⟩ := keeps.step
  have resting := resting_of_idle sound.orderly idle
  refine ⟨sound.orderly, ?_, fun _ => done, fun next member => ⟨further next member, idle⟩,
    sound.fresh⟩
  intro index worker found unfinished
  exact absurd (resting worker (List.mem_of_getElem? found)) unfinished

theorem Sound.step (sound : Sound system) {act : Act} {later : System}
    (step : system.step act = some later) : Sound later := by
  cases act with
  | thread act => exact sound.threadStep step
  | screen index answer => exact sound.screenStep step
  | stop => exact sound.stopStep step

theorem Sound.owned (sound : Sound system) : system.screen.Owned := by
  by_cases resting : Resting system.process
  · cases stopping : system.stopping with
    | none => exact (sound.rests resting stopping).owned
    | some cleaning => exact (sound.stops cleaning stopping).1.owned
  · unfold Resting at resting
    push Not at resting
    obtain ⟨worker, member, unfinished⟩ := resting
    obtain ⟨index, found⟩ := List.mem_iff_getElem?.mp member
    exact (sound.works index worker found unfinished).owned

end System

/-! ## Whole runs -/

/-- What GStreamer was asked to do with its objects. -/
structure System.Accounts (system : System) : Prop where
  owned : system.screen.Owned
  /-- A worker that has ended has left nothing, nor has `stop`. -/
  balanced : (∀ worker ∈ system.process.workers, worker = .finished) → system.stopping = none →
    ∀ object, system.screen.ops.count (.acquire object) = system.screen.ops.count (.release object)
  stopped : system.process.caller = .idle (some .stop) → system.stopping = none →
    ∀ object, system.screen.ops.count (.acquire object) = system.screen.ops.count (.release object)

/-- In every order of the steps GStreamer is given only objects that live, each is in its member
until it was freed, and each is freed once when the worker has ended or `stop` has returned. -/
theorem mirror_objects_owned (inUse : Nat → Bool) (acts : List Act) (system : System)
    (ran : System.run inUse acts = some system) : system.Accounts := by
  have sound : System.Sound system :=
    Scheduled.run_keeps (fun sound step => System.Sound.step sound step)
      (System.sound_initial inUse) ran
  refine ⟨sound.owned, ?_, ?_⟩
  · intro resting unstopped
    exact (sound.rests resting unstopped).balanced
  · intro idle unstopped
    exact (sound.rests (System.resting_of_idle sound.orderly idle) unstopped).balanced

/-- The first pipeline is refused, the second cannot be played, and the worker gives up. -/
def refusedPipeline : List Act :=
  [.thread (.call .start)] ++ List.replicate 3 (.thread (.caller .ok)) ++
    [.thread (.caller (.fd 3))] ++ List.replicate 5 (.thread (.caller .ok)) ++
    [.thread (.worker 0 .ok), .thread (.worker 0 .ok), .thread (.worker 0 .ok),
      .thread (.worker 0 (.fd 4)), .thread (.worker 0 .ok), .thread (.worker 0 .ok),
      .screen 0 .ok, .screen 0 .ok, .screen 0 .failed, .screen 0 (.object 7), .screen 0 (.object 8),
      .screen 0 .ok, .screen 0 .ok, .screen 0 .failed] ++
    List.replicate 7 (.screen 0 .ok) ++
    [.thread (.worker 0 .failed)]

theorem mirror_objects_owned_refused :
    ∃ system, System.run (fun _ => false) refusedPipeline = some system ∧ system.Accounts ∧
      system.screen.ops =
        [.acquire 7, .use 7, .acquire 8, .use 7, .use 8, .use 7, .use 7, .release 7,
          .release 8] := by
  have shape : (System.run (fun _ => false) refusedPipeline).map (fun system => system.screen.ops) =
      some [.acquire 7, .use 7, .acquire 8, .use 7, .use 8, .use 7, .use 7, .release 7,
        .release 8] := by
    decide +kernel
  obtain ⟨system, ran, ops⟩ := Option.map_eq_some_iff.mp shape
  exact ⟨system, ran, mirror_objects_owned _ _ system ran, ops⟩

end MirrorPipeline
end TitanShare
