import TitanShare.MirrorLifecycle

/-!
# The pipeline of the mirror

The worker builds a GStreamer pipeline when its connection stands, pushes frames into it and takes
it down; `stop` takes it down again once the worker has been joined.  Both do it step by step on
shared members, beside the steps of their threads.
-/

namespace TitanShare
namespace MirrorPipeline

open MirrorThreads (Process Worker)

/-! ## The members -/

/-- The members `pipeline` and `appsrc`, and what was done with the objects. -/
structure Screen where
  pipeline : Option Nat
  appsrc : Option Nat
  ops : List Handles.Op
  /-- A null pointer was passed to GStreamer. -/
  null : Bool
  deriving DecidableEq

namespace Screen

def created : Screen where
  pipeline := none
  appsrc := none
  ops := []
  null := false

/-- Pass an object to GStreamer. -/
def use (screen : Screen) : Option Nat → Screen
  | none => { screen with null := true }
  | some object => { screen with ops := screen.ops ++ [.use object] }

/-- `gst_object_unref` -/
def unref (screen : Screen) : Option Nat → Screen
  | none => { screen with null := true }
  | some object => { screen with ops := screen.ops ++ [.release object] }

/-- GStreamer hands out pointers that are not in use. -/
def grants (screen : Screen) (object : Nat) : Bool :=
  !Handles.held object screen.ops

def launch (screen : Screen) (object : Nat) : Screen :=
  { screen with pipeline := some object, ops := screen.ops ++ [.acquire object] }

def found (screen : Screen) (object : Nat) : Screen :=
  { screen with appsrc := some object, ops := screen.ops ++ [.acquire object] }

end Screen

/-- Where a thread stands in `cleanupPipeline`. -/
inductive Cleaning
  | testPipeline
  | setNull
  | unrefPipeline
  | clearPipeline
  | testAppsrc
  | unrefAppsrc
  | clearAppsrc
  deriving DecidableEq

def Cleaning.step (screen : Screen) : Cleaning → Screen × Option Cleaning
  | testPipeline => (screen, some (if screen.pipeline.isSome then setNull else testAppsrc))
  | setNull => (screen.use screen.pipeline, some unrefPipeline)
  | unrefPipeline => (screen.unref screen.pipeline, some clearPipeline)
  | clearPipeline => ({ screen with pipeline := none }, some testAppsrc)
  | testAppsrc => (screen, if screen.appsrc.isSome then some unrefAppsrc else none)
  | unrefAppsrc => (screen.unref screen.appsrc, some clearAppsrc)
  | clearAppsrc => ({ screen with appsrc := none }, none)

/-! ## The worker -/

/-- What a worker does with the members, where its thread stands. -/
inductive Place
  /-- Nothing yet. -/
  | outside
  /-- In `buildPipeline`, behind the reset of `pipeline`. -/
  | resetAppsrc
  | launching
  /-- The first launch has failed. -/
  | relaunching
  | finding
  | abandoning
  | forgetting
  | settingUp
  | announcing
  | playing
  | failing (place : Cleaning)
  /-- `buildPipeline` has returned. -/
  | built (ok : Bool)
  /-- The frame was pushed. -/
  | pushed
  | cleaning (place : Cleaning)
  | cleaned
  deriving DecidableEq

/-- What GStreamer answers. -/
inductive Answer
  | ok
  | failed
  | object (pointer : Nat)
  deriving DecidableEq

/-- `gst_parse_launch`, and where the worker stands if it fails. -/
def launchStep (screen : Screen) (answer : Answer) (refused : Place) : Option (Screen × Place) :=
  match answer with
  | .object pipeline =>
      if screen.grants pipeline then some (screen.launch pipeline, .finding) else none
  | .failed => some ({ screen with pipeline := none }, refused)
  | .ok => none

/-- One step of `cleanupPipeline`, in its call and behind it. -/
def Cleaning.go (screen : Screen) (cleaning : Cleaning) (within : Cleaning → Place)
    (behind : Place) :
    Screen × Place :=
  match cleaning.step screen with
  | (screen, some cleaning) => (screen, within cleaning)
  | (screen, none) => (screen, behind)

/-- One step of `buildPipeline`. -/
def buildStep (screen : Screen) (answer : Answer) : Place → Option (Screen × Place)
  | .outside => some ({ screen with pipeline := none }, .resetAppsrc)
  | .resetAppsrc => some ({ screen with appsrc := none }, .launching)
  | .launching => launchStep screen answer .relaunching
  | .relaunching => launchStep screen answer (.built false)
  | .finding =>
      match answer with
      | .object appsrc =>
          if (screen.use screen.pipeline).grants appsrc then
            some ((screen.use screen.pipeline).found appsrc, .settingUp)
          else none
      | .failed => some ({ screen.use screen.pipeline with appsrc := none }, .abandoning)
      | .ok => none
  | .abandoning => some (screen.unref screen.pipeline, .forgetting)
  | .forgetting => some ({ screen with pipeline := none }, .built false)
  | .settingUp => some (screen.use screen.pipeline, .announcing)
  | .announcing => some (screen.use screen.appsrc, .playing)
  | .playing =>
      match answer with
      | .ok => some (screen.use screen.pipeline, .built true)
      | .failed => some (screen.use screen.pipeline, .failing .testPipeline)
      | .object _ => none
  | .failing place => some (place.go screen .failing (.built false))
  | _ => none

/-- One step of a worker on the members, where its thread stands. -/
def Place.step (screen : Screen) (answer : Answer) (worker : Worker) (place : Place) :
    Option (Screen × Place) :=
  match worker with
  | .building _ _ => buildStep screen answer place
  | .reading _ _ => if place = .outside then some (screen.use screen.appsrc, .pushed) else none
  | .goodbye true _ _ =>
      match place with
      | .outside => some (screen, .cleaning .testPipeline)
      | .cleaning place => some (place.go screen .cleaning .cleaned)
      | _ => none
  | _ => none

/-- Whether the thread of a worker can go on with an answer.  A frame that was read is pushed,
unless there is no memory for it. -/
def Place.lets (answer : MirrorThreads.Answer) (worker : Worker) (place : Place) : Bool :=
  match worker with
  | .building _ _ => place = .built (answer = .ok)
  | .reading _ _ => place = .outside || place = .pushed && answer = .ok
  | .goodbye true _ _ => place = .cleaned
  | _ => true

/-! ## The threads -/

structure System where
  process : Process
  screen : Screen
  /-- Where the workers stand beside their threads. -/
  place : Nat → Place
  /-- Where the event loop stands in the `cleanupPipeline` of `stop`. -/
  stopping : Option Cleaning

inductive Act
  | thread (act : MirrorThreads.Act)
  /-- A worker takes a step on the members. -/
  | screen (index : Nat) (answer : Answer)
  /-- `stop` takes a step of its `cleanupPipeline`. -/
  | stop
  deriving DecidableEq

namespace System

def initial (inUse : Nat → Bool) : System where
  process := .initial inUse
  screen := .created
  place := fun _ => .outside
  stopping := none

/-- A thread does not leave a place before it is through with the members. -/
def lets (system : System) : MirrorThreads.Act → Bool
  | .call _ | .caller _ => system.stopping.isNone
  | .worker index answer =>
      match system.process.workers[index]? with
      | some worker => (system.place index).lets answer worker
      | none => true
  | .opens _ | .closes _ => true

/-- Where the worker of a step stands behind it. -/
def placeAfter (system : System) : MirrorThreads.Act → Nat → Place
  | .worker index _ => Function.update system.place index .outside
  | _ => system.place

/-- `stop` has joined the worker. -/
def stopped (before after : Process) : Bool :=
  before.caller = .stopJoin && after.caller = .idle (some .stop)

def step (system : System) : Act → Option System
  | .thread act =>
      if system.lets act then
        (system.process.step act).map fun next =>
          { process := next
            screen := system.screen
            place := system.placeAfter act
            stopping := if stopped system.process next then some .testPipeline
              else system.stopping }
      else none
  | .screen index answer =>
      match system.process.workers[index]? with
      | some worker =>
          ((system.place index).step system.screen answer worker).map fun next =>
            { system with
              screen := next.1
              place := Function.update system.place index next.2 }
      | none => none
  | .stop =>
      system.stopping.map fun place =>
        { system with
          screen := (place.step system.screen).1
          stopping := (place.step system.screen).2 }

def run (inUse : Nat → Bool) (acts : List Act) : Option System :=
  Scheduled.run step (initial inUse) acts

end System
end MirrorPipeline
end TitanShare
