import TitanShare.Daemon

/-!
# What holds as long as no exception is thrown

A handler that throws leaves its work half done, and the daemon with it.  A property that only the
steps of a running daemon keep holds of its sessions until then; what a throwing handler leaves
behind has to be looked at separately.
-/

namespace TitanShare

open ByteText PassLoop

namespace Receiver

/-- The request handler ran on the next line, with this outcome. -/
structure Requests (before : Receiver) (outcome : Outcome Exception Context) : Prop where
  isOpen : before.session.closed = false
  stage : before.session.stage = .header
  handled : ∃ raw frame stop, outcome =
    handleHeader frame (stripReturn raw)
      ({ before.toContext with consumed := stop }.emit
        [.headerLine before.consumed stop (stripReturn raw)])

/-- A step after which the session goes on. -/
inductive Proceeds (before after : Receiver) : Prop
  | step (step : Step before after) (stage : before.session.stage ≠ .header)
  | receive (chunk : Bytes) (receives : after = before.receive chunk)
  | request (requests : Requests before (.returned after.toContext))

/-- A property that every step keeps after which the session goes on. -/
def Survives (calm : Receiver → Prop) : Prop :=
  ∀ {before after}, calm before → Proceeds before after → calm after

/-- What is left behind when a handler throws in a calm state. -/
inductive Breaks (calm : Receiver → Prop) (after : Receiver) : Prop
  | request {before : Receiver} {exception : Exception} (holds : calm before)
      (requests : Requests before (.threw exception after.toContext))
  | data {before : Receiver} {frame : DataFrame} {calls : Calls} (holds : calm before)
      (isOpen : before.session.closed = false) (stage : before.session.stage = .data)
      (handles : DataStep frame { before with calls } after)

/-- A calm session stays calm, or a handler has thrown. -/
def Ends (calm : Receiver → Prop) : Outcome Exception Receiver → Prop
  | .returned receiver => calm receiver
  | .threw _ receiver => Breaks calm receiver

theorem headerLine_requests {receiver taken : Receiver} {line : Bytes} (env : Env)
    (isOpen : receiver.session.closed = false) (stage : receiver.session.stage = .header)
    (taking : receiver.takeLine = some (line, taken)) :
    ∃ outcome, Requests receiver outcome ∧
      taken.headerLine env receiver.consumed line = outcome.map fun context =>
        { taken with
          toContext := context
          calls := { taken.calls with header := taken.calls.header + 1 } } := by
  obtain ⟨raw, rest, view, absent, rfl, unread, _, stream, context⟩ := takeLine_eq_some taking
  refine ⟨_, ⟨isOpen, stage, raw, env.header taken.calls.header,
    receiver.consumed + (raw.length + 1), rfl⟩, ?_⟩
  unfold headerLine
  rw [context]

namespace Survives

variable {calm : Receiver → Prop} (survives : Survives calm)

include survives

theorem goes {env : Env} {before after : Receiver} (holds : calm before)
    (step : Goes (pass env) before after) : calm after := by
  obtain ⟨isOpen, line, taken, taking, ⟨stage, rfl⟩ | ⟨stage, handled⟩⟩ := goes_iff.mp step
  · exact survives holds (.step (step_auth _ _ isOpen stage taking) (by rw [stage]; decide))
  · obtain ⟨outcome, requests, line_eq⟩ := headerLine_requests env isOpen stage taking
    rw [handled] at line_eq
    cases outcome with
    | threw exception context => cases line_eq
    | returned context =>
        obtain rfl := Outcome.returned.inj line_eq
        exact survives holds (.request requests)

theorem leaves {env : Env} {last : Receiver} {outcome : Outcome Exception Receiver}
    (holds : calm last) (leaving : pass env last = .leave outcome) : Ends calm outcome := by
  cases leaves_of_pass leaving with
  | idle nothing => exact holds
  | unfinished stage missing => exact holds
  | throws stillOpen stage taking handled =>
      obtain ⟨result, requests, line_eq⟩ := headerLine_requests env stillOpen stage taking
      rw [handled] at line_eq
      cases result with
      | returned context => cases line_eq
      | threw other context =>
          obtain ⟨rfl, rfl⟩ := Outcome.threw.inj line_eq
          exact .request holds requests
  | data stillOpen buffered stage =>
      have handles := handleFileData_step (env.data last.calls.data)
        { last with calls := { last.calls with data := last.calls.data + 1 } }
      unfold fileData
      cases result : handleFileData (env.data last.calls.data)
          { last with calls := { last.calls with data := last.calls.data + 1 } } with
      | returned after =>
          rw [result, Outcome.state_returned] at handles
          exact survives holds (.step (.data _ _ stillOpen stage handles) (by rw [stage]; decide))
      | threw exception after =>
          rw [result, Outcome.state_threw] at handles
          exact .data holds stillOpen stage handles

theorem onData (env : Env) (chunk : Bytes) {receiver : Receiver} (holds : calm receiver) :
    Ends calm (receiver.onData env chunk) := by
  by_cases closed : receiver.session.closed = true
  · rw [onData_closed env chunk closed]
    exact holds
  · have isOpen : receiver.session.closed = false := by simpa using closed
    have received := survives holds (.receive chunk rfl)
    cases overflows : (receiver.receive chunk).overflows with
    | true =>
        have stage := stage_of_overflows overflows
        rw [onData_overflow env isOpen overflows]
        exact survives received (.step (.overflow isOpen stage rfl) (by rw [stage]; decide))
    | false =>
        rw [onData_fits env isOpen overflows]
        exact Exits.keeps survives.goes survives.leaves (processBuffer_exits env _) received

end Survives
end Receiver

/-- In every run, a session keeps a surviving property while the daemon runs, and a weaker one in
any case. -/
theorem Daemon.run_survives {calm broken : Receiver → Prop} (survives : Receiver.Survives calm)
    (weaken : ∀ {receiver}, calm receiver → broken receiver)
    (breaks : ∀ {receiver}, Receiver.Breaks calm receiver → broken receiver)
    (initial : ∀ ssl remoteIp world, calm ((Client.initial ssl remoteIp).receiver world))
    (anywhere : ∀ receiver world, calm receiver → calm { receiver with world })
    (stays : ∀ receiver world, broken receiver → broken { receiver with world })
    (startup : Startup) (inputs : List Input) :
    ∀ conn client, (run startup inputs).clients conn = some client →
      ∀ world, broken (client.receiver world) ∧
        ((run startup inputs).crashed = false → calm (client.receiver world)) := by
  refine run_induction (fun daemon => ∀ conn client, daemon.clients conn = some client →
    ∀ world, broken (client.receiver world) ∧
      (daemon.crashed = false → calm (client.receiver world))) startup ?_ ?_ ?_ ?_ inputs
  · intro conn client present
    cases present
  · intro daemon conn ssl remoteIp holds _ other client present world
    rcases client_of_update present with ⟨rfl, rfl⟩ | ⟨_, old⟩
    · exact ⟨weaken (initial ssl remoteIp world), fun _ => initial ssl remoteIp world⟩
    · exact holds other client old world
  · intro daemon conn client chunk env holds running slot _ other later present world
    have before := (holds conn client slot daemon.world).2 running
    have after := survives.onData env chunk before
    rw [deliver_clients] at present
    rcases client_of_update present with ⟨rfl, rfl⟩ | ⟨_, old⟩
    · rw [Client.client_receiver]
      unfold deliver
      cases outcome : (client.receiver daemon.world).onData env chunk with
      | returned receiver =>
          rw [outcome] at after
          have still := anywhere _ world after
          exact ⟨weaken still, fun _ => still⟩
      | threw exception receiver =>
          rw [outcome] at after
          refine ⟨stays _ world (breaks after), ?_⟩
          intro impossible
          cases impossible
    · have stands := holds other later old world
      exact ⟨stands.1, fun _ => stands.2 running⟩
  · intro daemon conn client holds slot _ other later present world
    rcases client_of_update present with ⟨rfl, rfl⟩ | ⟨_, old⟩
    · exact holds other client slot world
    · exact holds other later old world

end TitanShare
