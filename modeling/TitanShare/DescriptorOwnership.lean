import TitanShare.Expulsion
import TitanShare.TcpServer

/-!
# Ownership of client descriptors

As long as no session closes its own socket, the server closes every descriptor it accepted exactly
once and never touches the number again.  A session that closes its socket leaves its server with a
number that it goes on to read and to close.
-/

namespace TitanShare

open ByteText

/-- The server's operations as operations on handles. -/
def TcpServer.history (server : TcpServer) : List Handles.Op :=
  server.ops.map FdOp.handle

/-- Nothing is done to a number the server does not hold, and what it holds are the descriptors of
its clients. -/
def TcpServer.OwnsDescriptors (server : TcpServer) : Prop :=
  Handles.Owned server.history ∧
    ∀ fd, Handles.held fd server.history = true ↔ (server.clients.lookup fd).isSome

/-- The server holds the descriptors of its clients, and nobody else has opened their numbers. -/
structure Steward (server : TcpServer) : Prop where
  owned : Handles.Owned server.history
  held_iff : ∀ fd, Handles.held fd server.history = true ↔ (server.clients.lookup fd).isSome
  isOpen : ∀ fd, (server.clients.lookup fd).isSome → server.openFds fd = true
  foreign : ∀ fd, server.foreign fd = true →
    server.openFds fd = true ∧ server.clients.lookup fd = none
  registered : ∀ fd, server.registered fd = true → (server.clients.lookup fd).isSome
  gates : ∀ fd client, server.clients.lookup fd = some client →
    Gate client.session client.trace ∧ client.session.closed = false

theorem Steward.ownsDescriptors {server : TcpServer} (steward : Steward server) :
    server.OwnsDescriptors :=
  ⟨steward.owned, steward.held_iff⟩

/-- What has gone wrong stays wrong. -/
theorem not_owned_later {server after : TcpServer} (disowned : ¬ Handles.Owned server.history)
    (grows : server.ops <+: after.ops) : ¬ Handles.Owned after.history := by
  obtain ⟨added, same⟩ := grows
  have history : after.history = server.history ++ added.map FdOp.handle := by
    rw [TcpServer.history, ← same, List.map_append]
    rfl
  intro owned
  rw [history] at owned
  exact disowned owned.of_append

/-- Reading from a number right after a session closed it. -/
theorem not_owned_of_read {server : TcpServer} {before : List FdOp} {fd : Nat}
    (reads : before ++ [.aborted fd, .read fd] <+: server.ops) :
    ¬ Handles.Owned server.history := by
  have history := reads.map FdOp.handle
  rw [List.map_append] at history
  exact Handles.not_owned_of_release_use history

/-! ## What the operations leave in the log -/

namespace TcpServer

variable (server : TcpServer)

@[simp]
theorem log_ops (ops : List FdOp) : (server.log ops).ops = server.ops ++ ops := rfl

@[simp]
theorem log_history (ops : List FdOp) :
    (server.log ops).history = server.history ++ ops.map FdOp.handle := by
  simp [history]

/-- Other threads leave the server's own fields alone, and do not look at them. -/
theorem interfereAll_with (acts : List Interference) (world : World)
    (clients : AList fun _ : Nat => Client) (ops : List FdOp) (crashed : Bool) :
    ({ server with world, clients, ops, crashed } : TcpServer).interfereAll acts =
      { server.interfereAll acts with world, clients, ops, crashed } := by
  induction acts generalizing server with
  | nil => rfl
  | cons act acts ih =>
      have first : ({ server with world, clients, ops, crashed } : TcpServer).interfere act =
          { server.interfere act with world, clients, ops, crashed } := by
        cases act with
        | opens fd =>
            simp only [interfere]
            split <;> rfl
        | closes fd =>
            simp only [interfere]
            split <;> rfl
      simp only [interfereAll, List.foldl_cons, first]
      exact ih (server.interfere act)

theorem interfereAll_frame (acts : List Interference) :
    (server.interfereAll acts).ops = server.ops ∧
      (server.interfereAll acts).clients = server.clients ∧
      (server.interfereAll acts).crashed = server.crashed := by
  have same : server.interfereAll acts =
      { server.interfereAll acts with
        world := server.world
        clients := server.clients
        ops := server.ops
        crashed := server.crashed } :=
    server.interfereAll_with acts server.world server.clients server.ops server.crashed
  refine ⟨?_, ?_, ?_⟩
  · exact (congrArg TcpServer.ops same).trans rfl
  · exact (congrArg TcpServer.clients same).trans rfl
  · exact (congrArg TcpServer.crashed same).trans rfl

@[simp]
theorem interfereAll_ops (acts : List Interference) :
    (server.interfereAll acts).ops = server.ops :=
  (server.interfereAll_frame acts).1

@[simp]
theorem interfereAll_clients (acts : List Interference) :
    (server.interfereAll acts).clients = server.clients :=
  (server.interfereAll_frame acts).2.1

theorem destroy_grows (fd : Nat) (client : Client) :
    server.ops <+: (server.destroy fd client).ops :=
  List.prefix_append _ _

theorem removeClient_grows (fd : Nat) (before : List Interference) :
    server.ops <+: (server.removeClient fd before).ops := by
  simp only [removeClient, release, log_ops, interfereAll_ops]
  split
  · exact List.prefix_append _ _
  · exact (destroy_grows server fd _).trans (List.prefix_append _ _)

theorem acceptConnection_grows (fd : Nat) (ssl : Bool) (remoteIp : Ip) :
    server.ops <+: (server.acceptConnection fd ssl remoteIp).ops := by
  simp only [acceptConnection]
  split
  · exact List.prefix_refl _
  · split
    · simp [release, List.append_assoc]
    · split
      · simp [List.append_assoc]
      · refine List.IsPrefix.trans ?_ (destroy_grows _ fd _)
        simp [List.append_assoc]

theorem store_ops (fd : Nat) (client : Client) (receiver : Receiver) :
    (server.store fd client receiver).ops =
      server.ops ++ (receiver.trace.drop client.trace.length).flatMap (Event.fdOps fd) := by
  simp only [store]
  split <;> rfl

theorem store_clients (fd : Nat) (client : Client) (receiver : Receiver) :
    (server.store fd client receiver).clients = server.clients.insert fd receiver.client := by
  simp only [store]
  split <;> rfl

theorem feed_present (fd : Nat) (client : Client) (chunk : Bytes) (env : Env) :
    ((server.feed fd client chunk env).clients.lookup fd).isSome := by
  unfold feed
  split
  · rw [store_clients, AList.lookup_insert]
    rfl
  · change ((server.store fd client _).clients.lookup fd).isSome
    rw [store_clients, AList.lookup_insert]
    rfl

theorem feed_grows (fd : Nat) (client : Client) (chunk : Bytes) (env : Env) :
    server.ops <+: (server.feed fd client chunk env).ops := by
  unfold feed
  split
  · rw [store_ops]
    exact List.prefix_append _ _
  · change server.ops <+: (server.store fd client _).ops
    rw [store_ops]
    exact List.prefix_append _ _

/-- Whatever comes first, the loop reads. -/
theorem readLoop_grows (fd : Nat) (rounds : List Round) :
    server.ops ++ [.read fd] <+: (readLoop fd rounds server).ops := by
  induction rounds generalizing server with
  | nil => exact List.prefix_refl _
  | cons round rest ih =>
      have reads : server.ops ++ [.read fd] <+:
          ((server.interfereAll round.before).log [.read fd]).ops := by
        simp
      simp only [readLoop]
      cases round.result with
      | again => exact reads
      | ended => exact reads.trans (removeClient_grows _ fd _)
      | failed => exact reads.trans (removeClient_grows _ fd _)
      | data chunk env =>
          simp only
          cases ((server.interfereAll round.before).log [.read fd]).clients.lookup fd with
          | none => exact reads
          | some client =>
              have fed := reads.trans (feed_grows _ fd client chunk env)
              simp only
              split
              · exact fed
              · exact fed.trans ((List.prefix_append _ _).trans (ih _))

theorem step_grows (input : ServerInput) : server.ops <+: (server.step input).ops := by
  unfold step
  split
  · exact List.prefix_refl _
  · cases input with
    | accept fd ssl remoteIp => exact acceptConnection_grows _ fd ssl remoteIp
    | readable fd rounds =>
        simp only [handleClientData]
        split
        · split
          · exact List.prefix_refl _
          · exact (List.prefix_append _ _).trans (readLoop_grows _ fd rounds)
        · exact List.prefix_refl _
    | hangup fd before =>
        simp only
        split
        · exact removeClient_grows _ fd before
        · exact List.prefix_refl _
    | interfere act =>
        change server.ops <+: (server.interfereAll [act]).ops
        rw [interfereAll_ops]

end TcpServer

/-! ## What keeps a server a steward -/

theorem Steward.interfere {server : TcpServer} (steward : Steward server) (act : Interference) :
    Steward (server.interfere act) := by
  cases act with
  | opens fd =>
      simp only [TcpServer.interfere]
      split
      · exact steward
      · rename_i taken
        have free : server.clients.lookup fd = none := by
          by_contra present
          exact taken (steward.isOpen fd (Option.isSome_iff_ne_none.mpr present))
        refine { steward with isOpen := ?_, foreign := ?_ }
        · intro other present
          have before := steward.isOpen other present
          by_cases same : other = fd
          · simp [same]
          · simpa [same] using before
        · intro other strange
          by_cases same : other = fd
          · subst same
            simpa using free
          · simp only [Function.update_of_ne same] at strange ⊢
            exact steward.foreign other strange
  | closes fd =>
      simp only [TcpServer.interfere]
      split
      · rename_i strange
        have free := (steward.foreign fd strange).2
        refine { steward with isOpen := ?_, foreign := ?_, registered := ?_ }
        · intro other present
          have before := steward.isOpen other present
          have different : other ≠ fd := by
            rintro rfl
            rw [TcpServer.release, free] at present
            cases present
          simpa [TcpServer.release, different] using before
        · intro other stranger
          by_cases same : other = fd
          · simp [same] at stranger
          · simp only [TcpServer.release, Function.update_of_ne same] at stranger ⊢
            exact steward.foreign other stranger
        · intro other listed
          by_cases same : other = fd
          · simp [TcpServer.release, same] at listed
          · simp only [TcpServer.release, Function.update_of_ne same] at listed ⊢
            exact steward.registered other listed
      · exact steward

theorem Steward.interfereAll {server : TcpServer} (steward : Steward server)
    (acts : List Interference) : Steward (server.interfereAll acts) := by
  induction acts generalizing server with
  | nil => exact steward
  | cons act acts ih => exact ih (steward.interfere act)

/-- Using the number of a client. -/
theorem Steward.uses {server : TcpServer} (steward : Steward server) {fd : Nat}
    (present : (server.clients.lookup fd).isSome) (ops : List FdOp)
    (all : ∀ op ∈ ops, op.handle = .use fd) : Steward (server.log ops) := by
  have holds := (steward.held_iff fd).mpr present
  have uses := steward.owned.uses holds (ops.map FdOp.handle) (by simpa using all)
  refine { steward with owned := ?_, held_iff := ?_ }
  · rw [TcpServer.log_history]
    exact uses.1
  · intro other
    rw [TcpServer.log_history, uses.2]
    exact steward.held_iff other

/-- A call of `onData` changes the session of a client and the world. -/
theorem Steward.updates {server : TcpServer} (steward : Steward server) {fd : Nat}
    (present : (server.clients.lookup fd).isSome) (world : World) {client : Client}
    (gate : Gate client.session client.trace) (isOpen : client.session.closed = false) :
    Steward { server with world, clients := server.clients.insert fd client } := by
  have slots : ∀ other, ((server.clients.insert fd client).lookup other).isSome ↔
      (server.clients.lookup other).isSome := by
    intro other
    by_cases same : other = fd
    · rw [same, AList.lookup_insert]
      exact iff_of_true rfl present
    · rw [AList.lookup_insert_ne same]
  refine ⟨steward.owned, ?_, ?_, ?_, ?_, ?_⟩
  · intro other
    exact (steward.held_iff other).trans (slots other).symm
  · intro other listed
    exact steward.isOpen other ((slots other).mp listed)
  · intro other strange
    obtain ⟨taken, free⟩ := steward.foreign other strange
    refine ⟨taken, ?_⟩
    rw [← Option.not_isSome_iff_eq_none] at free ⊢
    exact fun listed => free ((slots other).mp listed)
  · intro other listed
    exact (slots other).mpr (steward.registered other listed)
  · intro other slot found
    by_cases same : other = fd
    · rw [same, AList.lookup_insert] at found
      rw [← Option.some.inj found]
      exact ⟨gate, isOpen⟩
    · rw [AList.lookup_insert_ne same] at found
      exact steward.gates other slot found

/-- The server closes the number of a client and forgets the client. -/
theorem Steward.drops {server : TcpServer} (steward : Steward server) {fd : Nat}
    (present : (server.clients.lookup fd).isSome) (world : World) :
    Steward
      (({ server.log [.closed fd] with world, clients := server.clients.erase fd } :
        TcpServer).release fd) := by
  have others : ∀ other, ((server.clients.erase fd).lookup other).isSome → other ≠ fd := by
    rintro other listed rfl
    rw [AList.lookup_erase] at listed
    cases listed
  have history : (server.log [.closed fd]).history = server.history ++ [.release fd] :=
    server.log_history [.closed fd]
  refine ⟨?_, ?_, ?_, ?_, ?_, ?_⟩
  · change Handles.Owned (server.log [.closed fd]).history
    rw [history]
    exact steward.owned.append ((steward.held_iff fd).mpr present)
  · intro other
    change Handles.held other (server.log [.closed fd]).history = true ↔
      ((server.clients.erase fd).lookup other).isSome
    rw [history, Handles.held_release]
    by_cases same : other = fd
    · subst same
      simp
    · simpa [same, Ne.symm same] using steward.held_iff other
  · intro other listed
    have different := others other listed
    change (Function.update server.openFds fd false) other = true
    rw [Function.update_of_ne different]
    rw [TcpServer.release, AList.lookup_erase_ne different] at listed
    exact steward.isOpen other listed
  · intro other strange
    obtain ⟨taken, free⟩ := steward.foreign other strange
    have different : other ≠ fd := by
      rintro rfl
      rw [free] at present
      cases present
    change (Function.update server.openFds fd false) other = true ∧
      (server.clients.erase fd).lookup other = none
    rw [Function.update_of_ne different, AList.lookup_erase_ne different]
    exact ⟨taken, free⟩
  · intro other listed
    have different : other ≠ fd := by
      rintro rfl
      simp [TcpServer.release] at listed
    change ((server.clients.erase fd).lookup other).isSome
    rw [AList.lookup_erase_ne different]
    simp only [TcpServer.release, Function.update_of_ne different] at listed
    exact steward.registered other listed
  · intro other slot found
    have different := others other (Option.isSome_iff_exists.mpr ⟨slot, found⟩)
    rw [TcpServer.release, AList.lookup_erase_ne different] at found
    exact steward.gates other slot found

/-- A number that was free is accepted for a new client. -/
theorem Steward.takes {server : TcpServer} (steward : Steward server) {fd : Nat}
    (free : server.openFds fd = false) (client : Client)
    (gate : Gate client.session client.trace) (isOpen : client.session.closed = false) :
    Steward
      { server.log [.accepted fd] with
        openFds := Function.update server.openFds fd true
        registered := Function.update server.registered fd true
        clients := server.clients.insert fd client } := by
  have absent : server.clients.lookup fd = none := by
    by_contra present
    have taken := steward.isOpen fd (Option.isSome_iff_ne_none.mpr present)
    rw [free] at taken
    cases taken
  have history : (server.log [.accepted fd]).history = server.history ++ [.acquire fd] :=
    server.log_history [.accepted fd]
  refine ⟨?_, ?_, ?_, ?_, ?_, ?_⟩
  · change Handles.Owned (server.log [.accepted fd]).history
    rw [history]
    refine steward.owned.append ?_
    have held := steward.held_iff fd
    rw [absent] at held
    simpa [Handles.Allowed] using held
  · intro other
    change Handles.held other (server.log [.accepted fd]).history = true ↔
      ((server.clients.insert fd client).lookup other).isSome
    rw [history, Handles.held_acquire]
    by_cases same : other = fd
    · subst same
      simp
    · simpa [same, Ne.symm same] using steward.held_iff other
  · intro other listed
    by_cases same : other = fd
    · subst same
      simp
    · simp only [AList.lookup_insert_ne same, Function.update_of_ne same] at listed ⊢
      exact steward.isOpen other listed
  · intro other strange
    obtain ⟨taken, none⟩ := steward.foreign other strange
    have different : other ≠ fd := by
      rintro rfl
      rw [free] at taken
      cases taken
    simp only [AList.lookup_insert_ne different, Function.update_of_ne different]
    exact ⟨taken, none⟩
  · intro other listed
    by_cases same : other = fd
    · subst same
      simp
    · simp only [AList.lookup_insert_ne same, Function.update_of_ne same] at listed ⊢
      exact steward.registered other listed
  · intro other slot found
    by_cases same : other = fd
    · rw [same, AList.lookup_insert] at found
      rw [← Option.some.inj found]
      exact ⟨gate, isOpen⟩
    · rw [AList.lookup_insert_ne same] at found
      exact steward.gates other slot found

/-! ## The operations of the server -/

/-- Removing a client that is there. -/
theorem Steward.removeClient {server : TcpServer} (steward : Steward server) {fd : Nat}
    {client : Client} (present : server.clients.lookup fd = some client)
    (before : List Interference) : Steward (server.removeClient fd before) := by
  have quiet := steward.interfereAll before
  have stays : (server.interfereAll before).clients.lookup fd = some client := by
    rw [TcpServer.interfereAll_clients, present]
  have listed := Option.isSome_iff_exists.mpr ⟨client, stays⟩
  have used := quiet.uses listed (if client.session.ssl then [.written fd] else []) (by
    split <;> simp [FdOp.handle])
  have dropped := used.drops listed (server.destroy fd client).world
  unfold TcpServer.removeClient
  rw [present]
  simp only [TcpServer.destroy, TcpServer.log, TcpServer.interfereAll_with]
  simpa [TcpServer.log, TcpServer.destroy, (server.interfereAll_frame before).2.2] using dropped

/-- Accepting a connection, also one that is turned away. -/
theorem Steward.acceptConnection {server : TcpServer} (steward : Steward server) (fd : Nat)
    (ssl : Bool) (remoteIp : Ip) : Steward (server.acceptConnection fd ssl remoteIp) := by
  unfold TcpServer.acceptConnection
  by_cases taken : server.openFds fd = true
  · rw [if_pos taken]
    exact steward
  rw [if_neg taken]
  have free : server.openFds fd = false := by simpa using taken
  have gate : Gate (Client.initial ssl remoteIp).session (Client.initial ssl remoteIp).trace :=
    gate_initial ssl remoteIp
  have accepted := steward.takes free (.initial ssl remoteIp) gate rfl
  have present :
      ((server.clients.insert fd (.initial ssl remoteIp)).lookup fd).isSome := by
    rw [AList.lookup_insert]
    rfl
  have absent : server.clients.lookup fd = none := by
    by_contra listed
    exact taken (steward.isOpen fd (Option.isSome_iff_ne_none.mpr listed))
  split
  · have dropped := accepted.drops present server.world
    have same : (server.clients.insert fd (.initial ssl remoteIp)).erase fd = server.clients := by
      apply AList.ext
      change List.kerase fd (server.clients.insert fd _).entries = _
      rw [AList.entries_insert_of_notMem (AList.lookup_eq_none.mp absent)]
      exact List.kerase_cons_eq rfl
    simpa [TcpServer.log, TcpServer.release, same] using dropped
  · have shaken := accepted.uses present [.read fd, .written fd] (by simp [FdOp.handle])
    simp only [absent]
    exact shaken

/-! ## Feeding a session -/

/-- What a session sends in one call of `onData`, and whether it closes its socket at the end. -/
theorem Receiver.onData_events {receiver : Receiver} (gate : Gate receiver.session receiver.trace)
    (isOpen : receiver.session.closed = false) (env : Env) (chunk : Bytes) (fd : Nat) :
    ∃ events, (receiver.onData env chunk).state.trace = receiver.trace ++ events ∧
      ((receiver.onData env chunk).state.session.closed = false →
        .closeSocket ∉ events ∧ ∀ op ∈ events.flatMap (Event.fdOps fd), op = .written fd) ∧
      ((receiver.onData env chunk).state.session.closed = true →
        .closeSocket ∈ events ∧ ∃ ops, events.flatMap (Event.fdOps fd) = ops ++ [.aborted fd]) := by
  have kept : Receiver.Kept fun after =>
      Gate after.session after.trace ∧ receiver.trace <+: after.trace := by
    intro before after holds step
    exact ⟨gate_kept holds.1 step, holds.2.trans step.grows⟩
  obtain ⟨after, events, trace⟩ := kept.onData env chunk ⟨gate, List.prefix_refl _⟩
  have before : .closeSocket ∉ receiver.trace := by
    rw [← gate.closed_iff, isOpen]
    simp
  refine ⟨events, trace.symm, ?_, ?_⟩
  · intro stillOpen
    have absent : .closeSocket ∉ events := by
      intro member
      have closed := after.closed_iff.mpr (by rw [← trace]; exact List.mem_append_right _ member)
      rw [stillOpen] at closed
      cases closed
    refine ⟨absent, ?_⟩
    intro op member
    obtain ⟨event, occurs, does⟩ := List.mem_flatMap.mp member
    cases event with
    | closeSocket => exact absurd occurs absent
    | sent bytes => simpa [Event.fdOps] using does
    | pushed bytes => simpa [Event.fdOps] using does
    | _ => simp [Event.fdOps] at does
  · intro closed
    have occurs : .closeSocket ∈ events := by
      have member := after.closed_iff.mp closed
      rw [← trace, List.mem_append] at member
      exact member.resolve_left before
    refine ⟨occurs, ?_⟩
    obtain ⟨earlier, later, rfl⟩ := List.append_of_mem occurs
    cases later with
    | nil => exact ⟨earlier.flatMap (Event.fdOps fd), by simp [Event.fdOps]⟩
    | cons next rest =>
        have gated := after.gated (receiver.trace ++ (earlier ++ [.closeSocket])) next rest
          (by rw [← trace]; simp)
        exact absurd gated.1 (by simp)

/-- A session that is still open is put back. -/
theorem Steward.store {server : TcpServer} (steward : Steward server) {fd : Nat} {client : Client}
    (present : (server.clients.lookup fd).isSome) {receiver : Receiver} {events : List Event}
    (trace : receiver.trace = client.trace ++ events)
    (gate : Gate receiver.session receiver.trace) (isOpen : receiver.session.closed = false)
    (stays : .closeSocket ∉ events)
    (sends : ∀ op ∈ events.flatMap (Event.fdOps fd), op = .written fd) :
    Steward (server.store fd client receiver) := by
  have used := steward.uses present (events.flatMap (Event.fdOps fd)) (by
    intro op member
    rw [sends op member]
    rfl)
  have delta : receiver.trace.drop client.trace.length = events := by
    rw [trace]
    exact List.drop_left
  have gateClient : Gate receiver.client.session receiver.client.trace := gate
  unfold TcpServer.store
  simp only [delta, stays, if_false]
  exact used.updates present receiver.world gateClient isOpen

/-- After a chunk the server is still a steward, or the session has closed its number. -/
theorem Steward.feed {server : TcpServer} (steward : Steward server)
    (running : server.crashed = false) {fd : Nat} {client : Client}
    (present : server.clients.lookup fd = some client) (chunk : Bytes) (env : Env) :
    (¬ (client.receiver server.world).Expels env chunk ∧
      Steward (server.feed fd client chunk env)) ∨
      (client.receiver server.world).Expels env chunk ∧
        (server.feed fd client chunk env).crashed = false ∧
          ∃ before, (server.feed fd client chunk env).ops = before ++ [.aborted fd] := by
  obtain ⟨gate, isOpen⟩ := steward.gates fd client present
  have listed := Option.isSome_iff_exists.mpr ⟨client, present⟩
  have openReceiver : (client.receiver server.world).session.closed = false := isOpen
  have gateReceiver : Gate (client.receiver server.world).session
      (client.receiver server.world).trace := gate
  have closed_iff := Receiver.onData_closed_iff env chunk openReceiver
  have gateAfter := gate_kept.onData env chunk gateReceiver
  obtain ⟨events, trace, stays, closes⟩ :=
    Receiver.onData_events gateReceiver openReceiver env chunk fd
  rw [← closed_iff]
  unfold TcpServer.feed
  cases outcome : (client.receiver server.world).onData env chunk with
  | threw exception receiver =>
      have stillOpen := Receiver.threw_open outcome
      rw [outcome] at trace stays gateAfter
      have stored := steward.store listed trace gateAfter stillOpen (stays stillOpen).1
        (stays stillOpen).2
      left
      simp only [Outcome.state_threw, stillOpen, Bool.false_eq_true, not_false_eq_true, true_and]
      exact { stored with }
  | returned receiver =>
      rw [outcome] at trace stays closes gateAfter
      simp only [Outcome.state_returned] at trace stays closes gateAfter ⊢
      by_cases closed : receiver.session.closed = true
      · right
        obtain ⟨occurs, sent, ops⟩ := closes closed
        refine ⟨closed, ?_, server.ops ++ sent, ?_⟩
        · unfold TcpServer.store
          simp only
          split <;> exact running
        · have delta : receiver.trace.drop client.trace.length = events := by
            rw [trace]
            exact List.drop_left
          rw [TcpServer.store_ops, delta, ops, List.append_assoc]
      · left
        have stillOpen : receiver.session.closed = false := by simpa using closed
        exact ⟨closed, steward.store listed trace gateAfter stillOpen (stays stillOpen).1
          (stays stillOpen).2⟩

/-! ## Runs -/

namespace TcpServer

/-- None of the chunks that the rounds of a readable event deliver expels the session. -/
def Lenient (fd : Nat) : List Round → TcpServer → Prop
  | [], _ => True
  | round :: rest, server =>
      let reached := (server.interfereAll round.before).log [.read fd]
      match round.result with
      | .again | .ended | .failed => True
      | .data chunk env =>
          ∀ client, reached.clients.lookup fd = some client →
            ¬ (client.receiver reached.world).Expels env chunk ∧
              ((reached.feed fd client chunk env).crashed = false →
                Lenient fd rest (reached.feed fd client chunk env))

/-- The event does not make a session close its socket. -/
def Spares (server : TcpServer) : ServerInput → Prop
  | .readable fd rounds =>
      server.crashed = false → server.registered fd = true → server.Lenient fd rounds
  | .accept _ _ _ | .hangup _ _ | .interfere _ => True

end TcpServer

/-- The loop keeps a steward exactly when no chunk expels the session. -/
theorem Steward.readLoop {server : TcpServer} (steward : Steward server)
    (running : server.crashed = false) {fd : Nat} (present : (server.clients.lookup fd).isSome)
    (rounds : List Round) :
    (server.Lenient fd rounds ∧ Steward (TcpServer.readLoop fd rounds server)) ∨
      ¬ server.Lenient fd rounds ∧
        ¬ Handles.Owned (TcpServer.readLoop fd rounds server).history := by
  induction rounds generalizing server with
  | nil => exact .inl ⟨trivial, steward.uses present [.read fd] (by simp [FdOp.handle])⟩
  | cons round rest ih =>
      have quiet := steward.interfereAll round.before
      have listed : ((server.interfereAll round.before).clients.lookup fd).isSome := by
        rw [TcpServer.interfereAll_clients]
        exact present
      have reached := quiet.uses listed [.read fd] (by simp [FdOp.handle])
      have stillRunning : ((server.interfereAll round.before).log [.read fd]).crashed = false :=
        (server.interfereAll_frame round.before).2.2.trans running
      obtain ⟨client, slot⟩ := Option.isSome_iff_exists.mp listed
      unfold TcpServer.readLoop TcpServer.Lenient
      cases round.result with
      | again => exact .inl ⟨trivial, reached⟩
      | ended => exact .inl ⟨trivial, reached.removeClient slot round.after⟩
      | failed => exact .inl ⟨trivial, reached.removeClient slot round.after⟩
      | data chunk env =>
          have found : ((server.interfereAll round.before).log [.read fd]).clients.lookup fd =
              some client := slot
          simp only [found, Option.some.injEq, forall_eq']
          obtain ⟨fed, atOnce⟩ :
              ∃ fed, ((server.interfereAll round.before).log [.read fd]).feed fd client chunk env =
                fed := ⟨_, rfl⟩
          have feeds := reached.feed stillRunning found chunk env
          rw [atOnce] at feeds ⊢
          rcases feeds with ⟨spared, still⟩ | ⟨expels, alive, before, ops⟩
          · cases crashed : fed.crashed with
            | true => exact .inl (by simpa [spared] using still)
            | false =>
                have there : (fed.clients.lookup fd).isSome := by
                  rw [← atOnce]
                  exact TcpServer.feed_present _ fd client chunk env
                simpa [spared] using ih still crashed there
          · right
            refine ⟨fun lenient => lenient.1 expels, ?_⟩
            have reads := fed.readLoop_grows fd rest
            rw [ops, List.append_assoc] at reads
            simpa [alive] using not_owned_of_read reads

theorem Steward.step {server : TcpServer} (steward : Steward server) (input : ServerInput) :
    (server.Spares input ∧ Steward (server.step input)) ∨
      ¬ server.Spares input ∧ ¬ Handles.Owned (server.step input).history := by
  unfold TcpServer.step TcpServer.Spares
  cases crashed : server.crashed with
  | true => exact .inl ⟨by cases input <;> simp, by simpa using steward⟩
  | false =>
      simp only [Bool.false_eq_true, if_false]
      cases input with
      | accept fd ssl remoteIp => exact .inl ⟨trivial, steward.acceptConnection fd ssl remoteIp⟩
      | readable fd rounds =>
          cases listed : server.registered fd with
          | false => exact .inl ⟨by simp [listed], by simpa [listed] using steward⟩
          | true =>
              have present := steward.registered fd listed
              have loops := steward.readLoop crashed present rounds
              obtain ⟨client, found⟩ := Option.isSome_iff_exists.mp present
              simpa [TcpServer.handleClientData, listed, found] using loops
      | hangup fd before =>
          refine .inl ⟨trivial, ?_⟩
          cases listed : server.registered fd with
          | false => simpa [listed] using steward
          | true =>
              obtain ⟨client, found⟩ := Option.isSome_iff_exists.mp (steward.registered fd listed)
              simpa [listed] using steward.removeClient found before
      | interfere act => exact .inl ⟨trivial, steward.interfere act⟩

theorem steward_start (startup : Startup) (inUse : Nat → Bool) :
    Steward (TcpServer.start startup inUse) := by
  refine ⟨Trace.justified_nil _, ?_, ?_, ?_, ?_, ?_⟩
  all_goals simp [TcpServer.start, TcpServer.history, Handles.held]

theorem run_steward (startup : Startup) (inUse : Nat → Bool) (inputs : List ServerInput) :
    (Trace.Justified (fun before => (TcpServer.run startup inUse before).Spares) inputs ∧
        Steward (TcpServer.run startup inUse inputs)) ∨
      ¬ Trace.Justified (fun before => (TcpServer.run startup inUse before).Spares) inputs ∧
        ¬ Handles.Owned (TcpServer.run startup inUse inputs).history := by
  induction inputs using List.reverseRecOn with
  | nil => exact .inl ⟨Trace.justified_nil _, steward_start startup inUse⟩
  | append_singleton inputs input ih =>
      have last : TcpServer.run startup inUse (inputs ++ [input]) =
          (TcpServer.run startup inUse inputs).step input := by
        simp [TcpServer.run]
      rw [last, Trace.justified_append_iff, Trace.justified_cons_iff, List.append_nil]
      rcases ih with ⟨spared, steward⟩ | ⟨expels, disowned⟩
      · rcases steward.step input with ⟨spares, still⟩ | ⟨strikes, lost⟩
        · exact .inl ⟨⟨spared, spares, Trace.justified_nil _⟩, still⟩
        · exact .inr ⟨fun justified => strikes justified.2.1, lost⟩
      · exact .inr ⟨fun justified => expels justified.1,
          not_owned_later disowned (TcpServer.step_grows _ input)⟩

/-- In every run, descriptors are closed once and left alone afterwards exactly if no chunk makes a
session close its own socket. -/
theorem descriptors_owned (startup : Startup) (inUse : Nat → Bool) (inputs : List ServerInput) :
    (TcpServer.run startup inUse inputs).OwnsDescriptors ↔
      Trace.Justified (fun before => (TcpServer.run startup inUse before).Spares) inputs := by
  rcases run_steward startup inUse inputs with ⟨spared, steward⟩ | ⟨expels, disowned⟩
  · exact iff_of_true steward.ownsDescriptors spared
  · exact iff_of_false (fun owns => disowned owns.1) expels

/-- Three wrong PINs in one chunk.  The session closes descriptor 5, another thread opens it, and
the server's next read fails. -/
def wrongPins : List ServerInput :=
  [.accept 5 false [1],
    .readable 5 [⟨[], .data (ascii "1\n2\n3\n") .quiet, []⟩, ⟨[.opens 5], .failed, []⟩]]

/-- The server closes the number a second time, while the other thread has it open. -/
theorem descriptor_closed_twice :
    let server := TcpServer.run (.fresh (ascii "123456")) (fun _ => false) wrongPins
    ¬ server.OwnsDescriptors ∧ server.foreign 5 = true ∧ server.openFds 5 = false := by
  intro server
  have ops : server.ops =
      [.accepted 5, .read 5, .written 5, .read 5, .written 5, .written 5, .written 5] ++
        [.aborted 5, .read 5] ++ [.closed 5] := by
    decide +kernel
  have reads : [.accepted 5, .read 5, .written 5, .read 5, .written 5, .written 5, .written 5] ++
      [.aborted 5, .read 5] <+: server.ops := by
    rw [ops]
    exact List.prefix_append _ _
  refine ⟨fun owns => not_owned_of_read reads owns.1, ?_, ?_⟩
  · decide +kernel
  · decide +kernel

end TitanShare
