import TitanShare.ProcessBuffer

/-!
# The daemon

One event loop serves all connections: a run is a sequence of accepted connections, received chunks
and hangups, in any order.  Sessions share the world only.  An exception that leaves `onData` ends
the daemon.
-/

namespace TitanShare

/-- A session with its receive buffer, between two calls of the event loop. -/
structure Client where
  session : ClientSession
  trace : List Event
  consumed : Nat
  buffer : OffsetBuffer UInt8
  calls : Calls
  stream : Bytes
  /-- The server has removed the session. -/
  gone : Bool

/-- The client of a receiver that is still connected. -/
def Receiver.client (receiver : Receiver) : Client where
  session := receiver.session
  trace := receiver.trace
  consumed := receiver.consumed
  buffer := receiver.buffer
  calls := receiver.calls
  stream := receiver.stream
  gone := false

namespace Client

def initial (ssl : Bool) (remoteIp : Ip) : Client where
  session := .initial ssl remoteIp
  trace := []
  consumed := 0
  buffer := .empty
  calls := ⟨0, 0, 0⟩
  stream := []
  gone := false

def receiver (client : Client) (world : World) : Receiver where
  session := client.session
  trace := client.trace
  world := world
  consumed := client.consumed
  buffer := client.buffer
  calls := client.calls
  stream := client.stream

@[simp]
theorem client_receiver (receiver : Receiver) (world : World) :
    receiver.client.receiver world = { receiver with world } := rfl

end Client

/-- The files and PINs the daemon starts with; nothing is open and nobody has authenticated. -/
structure Startup where
  pins : List Bytes
  now : Nat
  files : FileTable
  noneOpen : files.opened = fun _ => none
  receivedDir : Bytes
  sendDir : Bytes

def Startup.world (startup : Startup) : World where
  manager := { SessionManager.initial with recentPins := startup.pins }
  now := startup.now
  authLog := []
  files := startup.files
  transfer := ⟨.absent, []⟩
  receivedDir := startup.receivedDir
  sendDir := startup.sendDir

/-! ## Quiet surroundings -/

/-- No time passes, nothing else runs, every system call succeeds and nothing is found. -/
def Env.quiet : Env where
  auth _ := { check := ⟨0, []⟩, guess := ⟨0, []⟩, register := ⟨0, []⟩, sends := [] }
  header _ :=
    { command :=
        { hasInput := true
          root := false
          exec := fun _ => ⟨0, []⟩
          detach := fun _ => .ok ()
          readings := ⟨0, [], 0, [], [], [], [], [], [], [], [], [], [], [], []⟩
          localIp := []
          hasMirror := false
          mirrorRunning := false
          mirrorStart := .ok true }
      listing := ⟨.ok true, []⟩
      push := ⟨.ok false, .ok false, .ok 0, false, [], ⟨true, true⟩⟩
      createsDir := true
      opens := true
      sends := [] }
  data _ :=
    { write := some Config.maxReceiveFileBytes
      due := false
      progress := ⟨true, true⟩
      finish := ⟨true, true⟩
      sends := [] }

/-- A fresh start with one PIN. -/
def Startup.fresh (pin : Bytes) : Startup where
  pins := [pin]
  now := 0
  files := .empty
  noneOpen := rfl
  receivedDir := []
  sendDir := []

structure Daemon where
  world : World
  /-- The sessions, by the order of their accepted connections. -/
  clients : Nat → Option Client
  /-- An exception has left `onData`. -/
  crashed : Bool

/-- One event of the server's loop. -/
inductive Input
  | connect (conn : Nat) (ssl : Bool) (remoteIp : Ip)
  | data (conn : Nat) (chunk : Bytes) (env : Env)
  | hangup (conn : Nat)

namespace Daemon

def start (startup : Startup) : Daemon where
  world := startup.world
  clients := fun _ => none
  crashed := false

/-- Put a receiver back after a call of `onData`. -/
def store (daemon : Daemon) (conn : Nat) (receiver : Receiver) : Daemon :=
  { daemon with
    world := receiver.world
    clients := Function.update daemon.clients conn (some receiver.client) }

/-- Deliver a chunk to a session. -/
def deliver (daemon : Daemon) (conn : Nat) (client : Client) (chunk : Bytes) (env : Env) :
    Daemon :=
  match (client.receiver daemon.world).onData env chunk with
  | .returned receiver => daemon.store conn receiver
  | .threw _ receiver => { daemon.store conn receiver with crashed := true }

/-- `~ClientSession`: a file that is still open is closed. -/
def destroy (daemon : Daemon) (conn : Nat) (client : Client) : Daemon :=
  let world :=
    match client.session.fileFd with
    | none => daemon.world
    | some descriptor =>
        { daemon.world with files := daemon.world.files.close descriptor }
  { daemon with
    world := world
    clients := Function.update daemon.clients conn (some { client with gone := true }) }

def step (daemon : Daemon) (input : Input) : Daemon :=
  if daemon.crashed = true then daemon
  else
    match input with
    | .connect conn ssl remoteIp =>
        match daemon.clients conn with
        | none =>
            { daemon with
              clients := Function.update daemon.clients conn (some (.initial ssl remoteIp)) }
        | some _ => daemon
    | .data conn chunk env =>
        match daemon.clients conn with
        | none => daemon
        | some client => if client.gone = true then daemon else daemon.deliver conn client chunk env
    | .hangup conn =>
        match daemon.clients conn with
        | none => daemon
        | some client => if client.gone = true then daemon else daemon.destroy conn client

def run (startup : Startup) (inputs : List Input) : Daemon :=
  inputs.foldl step (start startup)

/-! ## Moments -/

/-- Where a connected session can stand after some inputs: between two calls of the event loop, or
before a pass over the buffer during the next call. -/
inductive Moment (startup : Startup) (inputs : List Input) (conn : Nat) : Receiver → Prop
  | between {client : Client} (present : (run startup inputs).clients conn = some client)
      (connected : client.gone = false) :
      Moment startup inputs conn (client.receiver (run startup inputs).world)
  | within {client : Client} {chunk : Bytes} {env : Env} {receiver : Receiver}
      (running : (run startup inputs).crashed = false)
      (present : (run startup inputs).clients conn = some client)
      (connected : client.gone = false) (isOpen : client.session.closed = false)
      (fits : ((client.receiver (run startup inputs).world).receive chunk).overflows = false)
      (visits : PassLoop.Visits (Receiver.pass env)
        ((client.receiver (run startup inputs).world).receive chunk) receiver) :
      Moment startup inputs conn receiver

/-! ## Invariants of runs -/

theorem run_append (startup : Startup) (inputs : List Input) (input : Input) :
    run startup (inputs ++ [input]) = (run startup inputs).step input := by
  simp [run]

/-- A crash is the end of a run. -/
theorem crashed_append {startup : Startup} {earlier : List Input}
    (crashed : (run startup earlier).crashed = true) (later : List Input) :
    (run startup (earlier ++ later)).crashed = true := by
  induction later using List.reverseRecOn with
  | nil => rwa [List.append_nil]
  | append_singleton later input ih =>
      have stopped : (run startup (earlier ++ later)).step input =
          run startup (earlier ++ later) := by
        unfold step
        rw [if_pos ih]
      rw [← List.append_assoc, run_append, stopped]
      exact ih

/-- Every input of a run meets a condition in the daemon that takes it. -/
def Along (guard : Daemon → Input → Prop) (startup : Startup) (inputs : List Input) : Prop :=
  ∀ earlier input later, inputs = earlier ++ input :: later → guard (run startup earlier) input

theorem Along.front {guard : Daemon → Input → Prop} {startup : Startup}
    {inputs earlier later : List Input} (along : Along guard startup inputs)
    (split : inputs = earlier ++ later) :
    Along guard startup earlier := by
  intro before input after cut
  exact along before input (after ++ later) (by rw [split, cut]; simp)

theorem along_append_iff {guard : Daemon → Input → Prop} {startup : Startup} {inputs : List Input}
    {input : Input} :
    Along guard startup (inputs ++ [input]) ↔
      Along guard startup inputs ∧ guard (run startup inputs) input := by
  constructor
  · intro along
    exact ⟨along.front rfl, along inputs input [] rfl⟩
  · rintro ⟨along, last⟩ earlier other later split
    rcases List.eq_nil_or_concat later with rfl | ⟨between, final, rfl⟩
    · obtain ⟨rfl, same⟩ := List.append_inj' split rfl
      obtain rfl := List.singleton_injective same
      exact last
    · have same : inputs ++ [input] = (earlier ++ other :: between) ++ [final] := by
        simpa using split
      exact along earlier other between (List.append_inj' same rfl).1

/-- What the accepted connections, deliveries and hangups of a running daemon keep under a condition
on the inputs, every run keeps whose inputs meet it. -/
theorem run_along {guard : Daemon → Input → Prop} (invariant : Daemon → Prop) (startup : Startup)
    (initial : invariant (start startup))
    (connect : ∀ {daemon conn} ssl remoteIp, invariant daemon → daemon.crashed = false →
      daemon.clients conn = none → guard daemon (.connect conn ssl remoteIp) →
      invariant
        { daemon with
          clients := Function.update daemon.clients conn (some (.initial ssl remoteIp)) })
    (deliver : ∀ {daemon conn client} chunk env, invariant daemon → daemon.crashed = false →
      daemon.clients conn = some client → client.gone = false →
        guard daemon (.data conn chunk env) →
      invariant (daemon.deliver conn client chunk env))
    (hangup : ∀ {daemon conn client}, invariant daemon → daemon.crashed = false →
      daemon.clients conn = some client → client.gone = false → guard daemon (.hangup conn) →
      invariant (daemon.destroy conn client))
    (inputs : List Input) (along : Along guard startup inputs) :
    invariant (run startup inputs) := by
  have stepped : ∀ daemon input, invariant daemon → guard daemon input →
      invariant (daemon.step input) := by
    intro daemon input holds guarded
    unfold step
    by_cases crashed : daemon.crashed = true
    · rw [if_pos crashed]
      exact holds
    have running : daemon.crashed = false := by simpa using crashed
    rw [if_neg crashed]
    cases input with
    | connect conn ssl remoteIp =>
        cases slot : daemon.clients conn with
        | none =>
            simp only [slot]
            exact connect ssl remoteIp holds running slot guarded
        | some client =>
            simp only [slot]
            exact holds
    | data conn chunk env =>
        cases slot : daemon.clients conn with
        | none =>
            simp only [slot]
            exact holds
        | some client =>
            simp only [slot]
            by_cases gone : client.gone = true
            · rw [if_pos gone]
              exact holds
            · rw [if_neg gone]
              exact deliver chunk env holds running slot (by simpa using gone) guarded
    | hangup conn =>
        cases slot : daemon.clients conn with
        | none =>
            simp only [slot]
            exact holds
        | some client =>
            simp only [slot]
            by_cases gone : client.gone = true
            · rw [if_pos gone]
              exact holds
            · rw [if_neg gone]
              exact hangup holds running slot (by simpa using gone) guarded
  induction inputs using List.reverseRecOn with
  | nil => exact initial
  | append_singleton inputs input ih =>
      obtain ⟨before, last⟩ := along_append_iff.mp along
      rw [run_append]
      exact stepped _ _ (ih before) last

/-- What the accepted connections, deliveries and hangups of a running daemon keep, every run
keeps. -/
theorem run_induction (invariant : Daemon → Prop) (startup : Startup)
    (initial : invariant (start startup))
    (connect : ∀ {daemon conn} ssl remoteIp, invariant daemon → daemon.clients conn = none →
      invariant
        { daemon with
          clients := Function.update daemon.clients conn (some (.initial ssl remoteIp)) })
    (deliver : ∀ {daemon conn client} chunk env, invariant daemon → daemon.crashed = false →
      daemon.clients conn = some client → client.gone = false →
      invariant (daemon.deliver conn client chunk env))
    (hangup : ∀ {daemon conn client}, invariant daemon →
      daemon.clients conn = some client → client.gone = false →
      invariant (daemon.destroy conn client))
    (inputs : List Input) : invariant (run startup inputs) := by
  have always : Along (fun _ _ => True) startup inputs := fun _ _ _ _ => trivial
  exact run_along invariant startup initial
    (fun ssl remoteIp holds _ slot _ => connect ssl remoteIp holds slot)
    (fun chunk env holds running slot connected _ => deliver chunk env holds running slot connected)
    (fun holds _ slot connected _ => hangup holds slot connected) inputs always

/-- An invariant that does not care how `onData` ends. -/
theorem run_keeps (invariant : Daemon → Prop) (startup : Startup)
    (initial : invariant (start startup))
    (connect : ∀ {daemon conn} ssl remoteIp, invariant daemon → daemon.clients conn = none →
      invariant
        { daemon with
          clients := Function.update daemon.clients conn (some (.initial ssl remoteIp)) })
    (data : ∀ {daemon conn client} chunk env, invariant daemon →
      daemon.clients conn = some client → client.gone = false →
      ∀ crashed, invariant
        { daemon.store conn ((client.receiver daemon.world).onData env chunk).state with crashed })
    (hangup : ∀ {daemon conn client}, invariant daemon →
      daemon.clients conn = some client → client.gone = false →
      invariant (daemon.destroy conn client))
    (inputs : List Input) : invariant (run startup inputs) := by
  refine run_induction invariant startup initial connect ?_ hangup inputs
  intro daemon conn client chunk env holds _ slot connected
  have delivered := data chunk env holds slot connected
  unfold deliver
  cases outcome : (client.receiver daemon.world).onData env chunk with
  | returned receiver =>
      rw [outcome] at delivered
      exact delivered daemon.crashed
  | threw exception receiver =>
      rw [outcome] at delivered
      exact delivered true

/-! ## Invariants of sessions -/

/-- A session after one was replaced is the new one or was there before. -/
theorem client_of_update {clients : Nat → Option Client} {conn other : Nat}
    {replaced found : Client}
    (present : Function.update clients conn (some replaced) other = some found) :
    (other = conn ∧ found = replaced) ∨ (other ≠ conn ∧ clients other = some found) := by
  by_cases same : other = conn
  · subst same
    rw [Function.update_self, Option.some.injEq] at present
    exact .inl ⟨rfl, present.symm⟩
  · rw [Function.update_of_ne same] at present
    exact .inr ⟨same, present⟩

/-- `~ClientSession` touches neither the directory nor the status file. -/
theorem destroy_world (daemon : Daemon) (conn : Nat) (client : Client) :
    (daemon.destroy conn client).world.files.directory = daemon.world.files.directory ∧
      (daemon.destroy conn client).world.receivedDir = daemon.world.receivedDir ∧
      (daemon.destroy conn client).world.transfer = daemon.world.transfer := by
  unfold destroy
  cases client.session.fileFd with
  | none => exact ⟨rfl, rfl, rfl⟩
  | some descriptor => exact ⟨rfl, rfl, rfl⟩

theorem deliver_clients (daemon : Daemon) (conn : Nat) (client : Client) (chunk : Bytes)
    (env : Env) :
    (daemon.deliver conn client chunk env).clients =
      Function.update daemon.clients conn
        (some ((client.receiver daemon.world).onData env chunk).state.client) := by
  unfold deliver
  cases (client.receiver daemon.world).onData env chunk with
  | returned receiver => rfl
  | threw exception receiver => rfl

theorem deliver_world (daemon : Daemon) (conn : Nat) (client : Client) (chunk : Bytes) (env : Env) :
    (daemon.deliver conn client chunk env).world =
      ((client.receiver daemon.world).onData env chunk).state.world := by
  unfold deliver
  cases (client.receiver daemon.world).onData env chunk with
  | returned receiver => rfl
  | threw exception receiver => rfl

theorem step_data {daemon : Daemon} {conn : Nat} {client : Client} {chunk : Bytes} {env : Env}
    (running : daemon.crashed = false) (present : daemon.clients conn = some client)
    (connected : client.gone = false) :
    daemon.step (.data conn chunk env) = daemon.deliver conn client chunk env := by
  simp [step, running, present, connected]

theorem step_hangup {daemon : Daemon} {conn : Nat} {client : Client}
    (running : daemon.crashed = false) (present : daemon.clients conn = some client)
    (connected : client.gone = false) :
    daemon.step (.hangup conn) = daemon.destroy conn client := by
  simp [step, running, present, connected]

theorem deliver_eq_store (daemon : Daemon) (conn : Nat) (client : Client) (chunk : Bytes)
    (env : Env) :
    ∃ crashed, daemon.deliver conn client chunk env =
      { daemon.store conn ((client.receiver daemon.world).onData env chunk).state with
        crashed } := by
  unfold deliver
  cases (client.receiver daemon.world).onData env chunk with
  | returned receiver => exact ⟨daemon.crashed, rfl⟩
  | threw exception receiver => exact ⟨true, rfl⟩

/-- An invariant of one session that does not depend on the world, and that every delivery keeps
under a condition on the inputs, holds of every session of a run whose inputs meet it. -/
theorem clients_along {guard : Daemon → Input → Prop} {invariant : Receiver → Prop}
    (initial : ∀ ssl remoteIp world, invariant ((Client.initial ssl remoteIp).receiver world))
    (anywhere : ∀ receiver world, invariant receiver → invariant { receiver with world })
    (delivers : ∀ {daemon conn client} chunk env, daemon.crashed = false →
      daemon.clients conn = some client → client.gone = false →
      guard daemon (.data conn chunk env) → invariant (client.receiver daemon.world) →
      invariant ((client.receiver daemon.world).onData env chunk).state)
    (startup : Startup) (inputs : List Input) (along : Along guard startup inputs) :
    ∀ conn client, (run startup inputs).clients conn = some client →
      ∀ world, invariant (client.receiver world) := by
  refine run_along (fun daemon => ∀ conn client, daemon.clients conn = some client →
    ∀ world, invariant (client.receiver world)) startup ?_ ?_ ?_ ?_ inputs along
  · intro conn client present
    cases present
  · intro daemon conn ssl remoteIp holds _ _ _ other client present world
    rcases client_of_update present with ⟨rfl, rfl⟩ | ⟨_, old⟩
    · exact initial ssl remoteIp world
    · exact holds other client old world
  · intro daemon conn client chunk env holds running slot connected guarded other later
      present world
    rw [deliver_clients] at present
    rcases client_of_update present with ⟨rfl, rfl⟩ | ⟨_, old⟩
    · rw [Client.client_receiver]
      exact anywhere _ world
        (delivers chunk env running slot connected guarded (holds other client slot _))
    · exact holds other later old world
  · intro daemon conn client holds _ slot _ _ other later present world
    rcases client_of_update present with ⟨rfl, rfl⟩ | ⟨_, old⟩
    · exact holds other client slot world
    · exact holds other later old world

section Sessions

variable {invariant : Receiver → Prop} (kept : Receiver.Kept invariant)
  (initial : ∀ ssl remoteIp world, invariant ((Client.initial ssl remoteIp).receiver world))
  (anywhere : ∀ receiver world, invariant receiver → invariant { receiver with world })

include kept initial anywhere

/-- An invariant of one session that does not depend on the world holds of every session. -/
theorem clients_keep (startup : Startup) (inputs : List Input) :
    ∀ conn client, (run startup inputs).clients conn = some client →
      ∀ world, invariant (client.receiver world) := by
  have always : Along (fun _ _ => True) startup inputs := fun _ _ _ _ => trivial
  exact clients_along initial anywhere (fun chunk env _ _ _ _ holds => kept.onData env chunk holds)
    startup inputs always

theorem Moment.keeps {startup : Startup} {inputs : List Input} {conn : Nat} {receiver : Receiver}
    (moment : Moment startup inputs conn receiver) : invariant receiver := by
  cases moment with
  | between present _ => exact clients_keep kept initial anywhere startup inputs conn _ present _
  | within _ present _ isOpen _ visits =>
      have before := clients_keep kept initial anywhere startup inputs conn _ present
        (run startup inputs).world
      exact visits.keeps kept.goes (kept before (.receive _ isOpen rfl))

end Sessions

/-- An invariant of the world that every session's steps keep, and closing a file as well. -/
theorem world_keeps {invariant : World → Prop} (startup : Startup)
    (kept : Receiver.Kept fun receiver => invariant receiver.world)
    (initial : invariant startup.world)
    (closing : ∀ world descriptor, invariant world →
      invariant { world with files := world.files.close descriptor })
    (inputs : List Input) : invariant (run startup inputs).world := by
  refine run_keeps (fun daemon => invariant daemon.world) startup initial ?_ ?_ ?_ inputs
  · intro daemon conn ssl remoteIp holds _
    exact holds
  · intro daemon conn client chunk env holds _ _ crashed
    have before : invariant (client.receiver daemon.world).world := holds
    exact kept.onData env chunk before
  · intro daemon conn client holds _ _
    simp only [destroy]
    cases client.session.fileFd with
    | none => exact holds
    | some descriptor => exact closing _ descriptor holds

end Daemon
end TitanShare
