import TitanShare.DescriptorOwnership

/-!
# The table of clients

Between two events the server's table lists exactly the accepted descriptors that are still open.
In the middle of an event a session may have closed its own number while the table still lists it;
the number is lost until the next read fails and the server removes the client.
-/

namespace TitanShare

open ByteText

/-- The table is right about the accepted descriptors, and within its bound. -/
structure TcpServer.TableExact (server : TcpServer) : Prop where
  mem_iff : ∀ fd, fd ∈ server.clients ↔
    .accepted fd ∈ server.ops ∧ server.openFds fd = true ∧ server.foreign fd = false
  /-- What is accepted next replaces nobody. -/
  vacant : ∀ fd, server.openFds fd = false → fd ∉ server.clients
  bounded : server.clients.keys.length ≤ Config.maxClients

/-- The table lists the accepted descriptors that are still open, and a number that is lost. -/
structure Tabled (inUse : Nat → Bool) (lost : Option Nat) (server : TcpServer) : Prop where
  listed : ∀ fd, fd ∈ server.clients → .accepted fd ∈ server.ops ∧ server.foreign fd = false ∧
    (lost ≠ some fd → server.openFds fd = true)
  isLost : ∀ fd, lost = some fd → server.openFds fd = false ∧ fd ∈ server.clients
  accounted : ∀ fd, server.openFds fd = true →
    inUse fd = true ∨ server.foreign fd = true ∨ fd ∈ server.clients
  foreign : ∀ fd, server.foreign fd = true → server.openFds fd = true
  reserved : ∀ fd, inUse fd = true → server.openFds fd = true ∧ server.foreign fd = false
  accepted : ∀ fd, .accepted fd ∈ server.ops → inUse fd = false
  registered : ∀ fd, server.registered fd = true → fd ∈ server.clients ∧ lost ≠ some fd
  gates : ∀ fd client, server.clients.lookup fd = some client →
    Gate client.session client.trace ∧ (client.session.closed = true ↔ lost = some fd)
  bounded : server.clients.keys.length ≤ Config.maxClients

variable {inUse : Nat → Bool} {lost : Option Nat} {server : TcpServer}

/-- When no number is lost the table is exact. -/
theorem Tabled.exact (tabled : Tabled inUse none server) : server.TableExact := by
  have forward : ∀ fd, fd ∈ server.clients →
      .accepted fd ∈ server.ops ∧ server.openFds fd = true ∧ server.foreign fd = false := by
    intro fd member
    obtain ⟨accepted, native, isOpen⟩ := tabled.listed fd member
    exact ⟨accepted, isOpen (by simp), native⟩
  refine ⟨?_, ?_, tabled.bounded⟩
  · intro fd
    refine ⟨forward fd, ?_⟩
    rintro ⟨accepted, isOpen, native⟩
    rcases tabled.accounted fd isOpen with used | strange | member
    · rw [tabled.accepted fd accepted] at used
      cases used
    · rw [native] at strange
      cases strange
    · exact member
  · intro fd free member
    have isOpen := (forward fd member).2.1
    rw [free] at isOpen
    cases isOpen

theorem tabled_start (startup : Startup) (inUse : Nat → Bool) :
    Tabled inUse none (TcpServer.start startup inUse) := by
  refine ⟨?_, ?_, ?_, ?_, ?_, ?_, ?_, ?_, ?_⟩
  all_goals simp [TcpServer.start]

/-! ## Other threads -/

theorem TcpServer.registered_release {fd other : Nat}
    (listed : (server.release fd).registered other = true) :
    other ≠ fd ∧ server.registered other = true := by
  have different : other ≠ fd := by
    rintro rfl
    simp [TcpServer.release] at listed
  simp only [TcpServer.release, Function.update_of_ne different] at listed
  exact ⟨different, listed⟩

/-- Other threads take no number that is lost. -/
theorem Tabled.interfere (tabled : Tabled inUse lost server) {act : Interference}
    (leaves : ∀ fd, lost = some fd → act ≠ .opens fd) :
    Tabled inUse lost (server.interfere act) := by
  cases act with
  | opens fd =>
      simp only [TcpServer.interfere]
      split
      · exact tabled
      · rename_i taken
        have free : fd ∉ server.clients := by
          intro member
          by_cases own : lost = some fd
          · exact leaves fd own rfl
          · exact taken ((tabled.listed fd member).2.2 own)
        have unused : inUse fd = false := by
          by_contra used
          exact taken (tabled.reserved fd (by simpa using used)).1
        refine { tabled with
          listed := ?_, isLost := ?_, accounted := ?_, foreign := ?_, reserved := ?_ }
        · intro other member
          have different : other ≠ fd := fun same => free (same ▸ member)
          simpa [different] using tabled.listed other member
        · intro other isLost
          have different : other ≠ fd := by
            rintro rfl
            exact leaves other isLost rfl
          simpa [different] using tabled.isLost other isLost
        · intro other isOpen
          by_cases same : other = fd
          · simp [same]
          · simp only [Function.update_of_ne same] at isOpen ⊢
            exact tabled.accounted other isOpen
        · intro other strange
          by_cases same : other = fd
          · simp [same]
          · simp only [Function.update_of_ne same] at strange ⊢
            exact tabled.foreign other strange
        · intro other used
          have different : other ≠ fd := by
            rintro rfl
            rw [unused] at used
            cases used
          simpa [different] using tabled.reserved other used
  | closes fd =>
      simp only [TcpServer.interfere]
      split
      · rename_i strange
        have unlisted : fd ∉ server.clients := by
          intro member
          have native := (tabled.listed fd member).2.1
          rw [strange] at native
          cases native
        have unused : inUse fd = false := by
          by_contra used
          have native := (tabled.reserved fd (by simpa using used)).2
          rw [strange] at native
          cases native
        refine { tabled with
          listed := ?_, isLost := ?_, accounted := ?_, foreign := ?_, reserved := ?_,
          registered := ?_ }
        · intro other member
          have different : other ≠ fd := fun same => unlisted (same ▸ member)
          simpa [TcpServer.release, different] using tabled.listed other member
        · intro other isLost
          have member := (tabled.isLost other isLost).2
          have different : other ≠ fd := fun same => unlisted (same ▸ member)
          simpa [TcpServer.release, different] using tabled.isLost other isLost
        · intro other isOpen
          by_cases same : other = fd
          · simp [TcpServer.release, same] at isOpen
          · simp only [TcpServer.release, Function.update_of_ne same] at isOpen ⊢
            exact tabled.accounted other isOpen
        · intro other stranger
          by_cases same : other = fd
          · simp [same] at stranger
          · simp only [TcpServer.release, Function.update_of_ne same] at stranger ⊢
            exact tabled.foreign other stranger
        · intro other used
          have different : other ≠ fd := by
            rintro rfl
            rw [unused] at used
            cases used
          simpa [TcpServer.release, different] using tabled.reserved other used
        · intro other listed
          obtain ⟨_, listed⟩ := TcpServer.registered_release listed
          exact tabled.registered other listed
      · exact tabled

theorem Tabled.interfereAll (tabled : Tabled inUse lost server) {acts : List Interference}
    (leaves : ∀ fd, lost = some fd → .opens fd ∉ acts) :
    Tabled inUse lost (server.interfereAll acts) := by
  induction acts generalizing server with
  | nil => exact tabled
  | cons act acts ih =>
      refine ih (tabled.interfere ?_) ?_
      · rintro fd isLost rfl
        exact leaves fd isLost List.mem_cons_self
      · intro fd isLost member
        exact leaves fd isLost (List.mem_cons_of_mem _ member)

/-! ## The table itself -/

/-- Whatever the server does to numbers it has. -/
theorem Tabled.log (tabled : Tabled inUse lost server) (ops : List FdOp)
    (known : ∀ fd, .accepted fd ∉ ops) : Tabled inUse lost (server.log ops) := by
  have same : ∀ fd, .accepted fd ∈ (server.log ops).ops ↔ .accepted fd ∈ server.ops := by
    intro fd
    simp [known fd]
  refine { tabled with listed := ?_, accepted := ?_ }
  · intro fd member
    rw [same]
    exact tabled.listed fd member
  · intro fd member
    exact tabled.accepted fd ((same fd).mp member)

theorem Tabled.crash (tabled : Tabled inUse lost server) (crashed : Bool) :
    Tabled inUse lost { server with crashed } :=
  ⟨tabled.listed, tabled.isLost, tabled.accounted, tabled.foreign, tabled.reserved,
    tabled.accepted, tabled.registered, tabled.gates, tabled.bounded⟩

theorem length_keys_insert {clients : AList fun _ : Nat => Client} {fd : Nat}
    (member : fd ∈ clients) (client : Client) :
    (clients.insert fd client).keys.length = clients.keys.length := by
  have listed : fd ∈ clients.keys := AList.mem_keys.mp member
  rw [AList.keys_insert, List.length_cons, List.length_erase_of_mem listed]
  have positive := List.length_pos_of_mem listed
  omega

/-- A client that is replaced was listed before. -/
theorem mem_insert_iff_of_mem {clients : AList fun _ : Nat => Client} {fd : Nat}
    (member : fd ∈ clients) (client : Client) (other : Nat) : other ∈ clients.insert fd client ↔
      other ∈ clients := by
  rw [AList.mem_insert]
  constructor
  · rintro (rfl | old)
    · exact member
    · exact old
  · exact Or.inr

/-- Closing the number of a client leaves the numbers of other threads and those in use open. -/
theorem Tabled.release (tabled : Tabled inUse lost server) {fd : Nat}
    (member : fd ∈ server.clients) :
    (∀ other, server.foreign other = true → (server.release fd).openFds other = true) ∧
      ∀ other, inUse other = true →
        (server.release fd).openFds other = true ∧ server.foreign other = false := by
  obtain ⟨accepted, native, _⟩ := tabled.listed fd member
  constructor
  · intro other strange
    have different : other ≠ fd := by
      rintro rfl
      rw [native] at strange
      cases strange
    simpa [TcpServer.release, different] using tabled.foreign other strange
  · intro other used
    have different : other ≠ fd := by
      rintro rfl
      rw [tabled.accepted other accepted] at used
      cases used
    simpa [TcpServer.release, different] using tabled.reserved other used

/-- A call of `onData` changes the session of a client and the world. -/
theorem Tabled.updates (tabled : Tabled inUse lost server) {fd : Nat} (member : fd ∈ server.clients)
    (world : World) {client : Client} (gate : Gate client.session client.trace)
    (closed_iff : client.session.closed = true ↔ lost = some fd) :
    Tabled inUse lost { server with world, clients := server.clients.insert fd client } := by
  have same := mem_insert_iff_of_mem member client
  refine ⟨?_, ?_, ?_, tabled.foreign, tabled.reserved, tabled.accepted, ?_, ?_, ?_⟩
  · intro other listed
    exact tabled.listed other ((same other).mp listed)
  · intro other isLost
    exact ⟨(tabled.isLost other isLost).1, (same other).mpr (tabled.isLost other isLost).2⟩
  · intro other isOpen
    exact (tabled.accounted other isOpen).imp_right (Or.imp_right (same other).mpr)
  · intro other listed
    exact ⟨(same other).mpr (tabled.registered other listed).1, (tabled.registered other listed).2⟩
  · intro other slot found
    by_cases own : other = fd
    · subst own
      rw [AList.lookup_insert] at found
      rw [← Option.some.inj found]
      exact ⟨gate, closed_iff⟩
    · rw [AList.lookup_insert_ne own] at found
      exact tabled.gates other slot found
  · exact (length_keys_insert member client).le.trans tabled.bounded

/-- A session closes its number, which is lost from then on. -/
theorem Tabled.loses (tabled : Tabled inUse none server) {fd : Nat} (member : fd ∈ server.clients)
    (world : World) {client : Client} (gate : Gate client.session client.trace)
    (closed : client.session.closed = true) :
    Tabled inUse (some fd)
      (({ server with world, clients := server.clients.insert fd client } : TcpServer).release fd)
    := by
  have same := mem_insert_iff_of_mem member client
  obtain ⟨foreign, reserved⟩ := tabled.release member
  refine ⟨?_, ?_, ?_, foreign, reserved, tabled.accepted, ?_, ?_, ?_⟩
  · intro other listed
    obtain ⟨known, unseen, isOpen⟩ := tabled.listed other ((same other).mp listed)
    refine ⟨known, unseen, ?_⟩
    intro kept
    have different : other ≠ fd := fun own => kept (by rw [own])
    simpa [TcpServer.release, different] using isOpen
  · intro other isLost
    obtain rfl := Option.some.inj isLost
    exact ⟨by simp [TcpServer.release], (same fd).mpr member⟩
  · intro other isOpen
    by_cases own : other = fd
    · simp [TcpServer.release, own] at isOpen
    · simp only [TcpServer.release, Function.update_of_ne own] at isOpen
      exact (tabled.accounted other isOpen).imp_right (Or.imp_right (same other).mpr)
  · intro other listed
    obtain ⟨different, before⟩ := TcpServer.registered_release listed
    refine ⟨(same other).mpr (tabled.registered other before).1, ?_⟩
    simpa [eq_comm] using different
  · intro other slot found
    by_cases own : other = fd
    · subst own
      rw [TcpServer.release, AList.lookup_insert] at found
      rw [← Option.some.inj found]
      exact ⟨gate, iff_of_true closed rfl⟩
    · rw [TcpServer.release, AList.lookup_insert_ne own] at found
      obtain ⟨gated, still⟩ := tabled.gates other slot found
      exact ⟨gated, iff_of_false (by simp [still]) (by simpa [eq_comm] using own)⟩
  · exact (length_keys_insert member client).le.trans tabled.bounded

/-- The server forgets a client and closes its number, which may have been lost. -/
theorem Tabled.drops (tabled : Tabled inUse lost server) {fd : Nat} (member : fd ∈ server.clients)
    (own : ∀ other, lost = some other → other = fd) (world : World) :
    Tabled inUse none
      (({ server with world, clients := server.clients.erase fd } : TcpServer).release fd) := by
  obtain ⟨foreign, reserved⟩ := tabled.release member
  have kept : ∀ {other}, other ≠ fd → lost ≠ some other := fun different isLost =>
    different (own _ isLost)
  refine ⟨?_, ?_, ?_, foreign, reserved, tabled.accepted, ?_, ?_, ?_⟩
  · intro other listed
    obtain ⟨different, old⟩ := AList.mem_erase.mp listed
    obtain ⟨known, unseen, isOpen⟩ := tabled.listed other old
    refine ⟨known, unseen, fun _ => ?_⟩
    simpa [TcpServer.release, different] using isOpen (kept different)
  · intro other impossible
    cases impossible
  · intro other isOpen
    by_cases same : other = fd
    · simp [TcpServer.release, same] at isOpen
    · simp only [TcpServer.release, Function.update_of_ne same] at isOpen
      refine (tabled.accounted other isOpen).imp_right (Or.imp_right ?_)
      intro old
      exact AList.mem_erase.mpr ⟨same, old⟩
  · intro other listed
    obtain ⟨different, before⟩ := TcpServer.registered_release listed
    exact ⟨AList.mem_erase.mpr ⟨different, (tabled.registered other before).1⟩, by simp⟩
  · intro other slot found
    have different : other ≠ fd := by
      rintro rfl
      rw [TcpServer.release, AList.lookup_erase] at found
      cases found
    rw [TcpServer.release, AList.lookup_erase_ne different] at found
    obtain ⟨gated, closed_iff⟩ := tabled.gates other slot found
    exact ⟨gated, closed_iff.trans (iff_of_false (kept different) (by simp))⟩
  · change (server.clients.erase fd).keys.length ≤ Config.maxClients
    rw [AList.keys_erase]
    exact (List.erase_sublist.length_le).trans tabled.bounded

/-! ## The operations of the server -/

/-- Removing a client restores the table. -/
theorem Tabled.removeClient (tabled : Tabled inUse lost server) {fd : Nat}
    (member : fd ∈ server.clients) (own : ∀ other, lost = some other → other = fd)
    {before : List Interference} (leaves : lost = some fd → .opens fd ∉ before) :
    Tabled inUse none (server.removeClient fd before) := by
  obtain ⟨client, present⟩ := Option.isSome_iff_exists.mp (AList.lookup_isSome.mpr member)
  have quiet : Tabled inUse lost (server.interfereAll before) := by
    refine tabled.interfereAll ?_
    rintro other isLost
    obtain rfl := own other isLost
    exact leaves isLost
  have used := (quiet.log (if client.session.ssl then [.written fd] else [])
    (by intro other; split <;> simp)).log [.closed fd] (by simp)
  have stays : fd ∈ (server.interfereAll before).clients := by
    rw [TcpServer.interfereAll_clients]
    exact member
  have dropped := used.drops stays own (server.destroy fd client).world
  unfold TcpServer.removeClient
  rw [present]
  simp only [TcpServer.destroy, TcpServer.log, TcpServer.interfereAll_with]
  simpa [TcpServer.log, TcpServer.destroy, (server.interfereAll_frame before).2.2] using dropped

/-- A number the system has free belongs to nobody. -/
theorem Tabled.free (tabled : Tabled inUse none server) {fd : Nat}
    (unopened : server.openFds fd = false) :
    fd ∉ server.clients ∧ server.foreign fd = false ∧ inUse fd = false := by
  refine ⟨tabled.exact.vacant fd unopened, ?_, ?_⟩
  · by_contra strange
    have isOpen := tabled.foreign fd (by simpa using strange)
    rw [unopened] at isOpen
    cases isOpen
  · by_contra used
    have isOpen := (tabled.reserved fd (by simpa using used)).1
    rw [unopened] at isOpen
    cases isOpen

/-- Operations behind a new connection that accept nothing else leave one more accepted number. -/
theorem Tabled.accepted_after (tabled : Tabled inUse none server) {fd : Nat}
    (unopened : server.openFds fd = false) {ops : List FdOp} (quiet : ∀ fd, .accepted fd ∉ ops)
    {other : Nat} (member : .accepted other ∈ server.ops ++ [.accepted fd] ++ ops) :
    inUse other = false := by
  have known : .accepted other ∈ server.ops ∨ other = fd := by
    simpa [quiet other] using member
  rcases known with old | rfl
  · exact tabled.accepted other old
  · exact (tabled.free unopened).2.2

/-- A connection the server has no room for is closed again. -/
theorem Tabled.accept_full (tabled : Tabled inUse none server) {fd : Nat}
    (unopened : server.openFds fd = false) (full : Config.maxClients ≤ server.clients.keys.length)
    (ssl : Bool) (remoteIp : Ip) : Tabled inUse none (server.acceptConnection fd ssl remoteIp) := by
  obtain ⟨absent, native, unused⟩ := tabled.free unopened
  rw [TcpServer.acceptConnection, if_neg (by simp [unopened]), if_pos full]
  have kept : ∀ {other}, other ≠ fd →
      Function.update (Function.update server.openFds fd true) fd false other =
        server.openFds other := by
    intro other different
    simp [different]
  refine ⟨?_, ?_, ?_, ?_, ?_, fun other => tabled.accepted_after unopened (by simp), ?_,
    tabled.gates, tabled.bounded⟩
  · intro other member
    obtain ⟨accepted, unseen, isOpen⟩ := tabled.listed other member
    have different : other ≠ fd := fun same => absent (same ▸ member)
    refine ⟨?_, unseen, fun present => (kept different).trans (isOpen present)⟩
    exact List.mem_append_left _ (List.mem_append_left _ accepted)
  · intro other impossible
    cases impossible
  · intro other isOpen
    have different : other ≠ fd := by
      rintro rfl
      simp [TcpServer.release] at isOpen
    exact tabled.accounted other ((kept different).symm.trans isOpen)
  · intro other strange
    have different : other ≠ fd := by
      rintro rfl
      exact absurd strange (by simp [TcpServer.release, TcpServer.log, native])
    exact (kept different).trans (tabled.foreign other strange)
  · intro other used
    have different : other ≠ fd := by
      rintro rfl
      rw [unused] at used
      cases used
    obtain ⟨isOpen, unseen⟩ := tabled.reserved other used
    exact ⟨(kept different).trans isOpen, unseen⟩
  · intro other listed
    obtain ⟨_, listed⟩ := TcpServer.registered_release listed
    exact tabled.registered other listed

/-- A connection the server has room for is entered under its number. -/
theorem Tabled.accept_room (tabled : Tabled inUse none server) {fd : Nat}
    (unopened : server.openFds fd = false) (room : server.clients.keys.length < Config.maxClients)
    (ssl : Bool) (remoteIp : Ip) : Tabled inUse none (server.acceptConnection fd ssl remoteIp) := by
  obtain ⟨absent, native, unused⟩ := tabled.free unopened
  have vacant : server.clients.lookup fd = none := AList.lookup_eq_none.mpr absent
  rw [TcpServer.acceptConnection, if_neg (by simp [unopened]), if_neg (not_le.mpr room)]
  simp only [vacant]
  refine ⟨?_, ?_, ?_, ?_, ?_, fun other => tabled.accepted_after unopened (by simp), ?_, ?_, ?_⟩
  · intro other member
    rcases (AList.mem_insert _).mp member with rfl | old
    · exact ⟨by simp [TcpServer.log], native, fun _ => by simp [TcpServer.log]⟩
    · obtain ⟨accepted, unseen, isOpen⟩ := tabled.listed other old
      have different : other ≠ fd := fun same => absent (same ▸ old)
      refine ⟨?_, unseen, fun present => ?_⟩
      · exact List.mem_append_left _ (List.mem_append_left _ accepted)
      · simpa [TcpServer.log, different] using isOpen present
  · intro other impossible
    cases impossible
  · intro other isOpen
    by_cases same : other = fd
    · exact .inr (.inr ((AList.mem_insert _).mpr (.inl same)))
    · simp only [TcpServer.log, Function.update_of_ne same] at isOpen
      refine (tabled.accounted other isOpen).imp_right (Or.imp_right ?_)
      intro old
      exact (AList.mem_insert _).mpr (.inr old)
  · intro other strange
    have isOpen := tabled.foreign other strange
    by_cases same : other = fd
    · simp [TcpServer.log, same]
    · simpa [TcpServer.log, same] using isOpen
  · intro other used
    have different : other ≠ fd := by
      rintro rfl
      rw [unused] at used
      cases used
    simpa [TcpServer.log, different] using tabled.reserved other used
  · intro other listed
    by_cases same : other = fd
    · exact ⟨(AList.mem_insert _).mpr (.inl same), by simp⟩
    · simp only [Function.update_of_ne same] at listed
      obtain ⟨member, kept⟩ := tabled.registered other listed
      exact ⟨(AList.mem_insert _).mpr (.inr member), kept⟩
  · intro other slot found
    by_cases same : other = fd
    · subst same
      rw [AList.lookup_insert] at found
      rw [← Option.some.inj found]
      exact ⟨gate_initial ssl remoteIp, by simp [Client.initial, ClientSession.initial]⟩
    · rw [AList.lookup_insert_ne same] at found
      exact tabled.gates other slot found
  · change (server.clients.insert fd (.initial ssl remoteIp)).keys.length ≤ Config.maxClients
    have unlisted : fd ∉ server.clients.keys := fun member => absent (AList.mem_keys.mpr member)
    rw [AList.keys_insert, List.length_cons, List.erase_of_not_mem unlisted]
    exact Nat.succ_le_of_lt room

/-- Accepting a connection, also one that is turned away. -/
theorem Tabled.acceptConnection (tabled : Tabled inUse none server) (fd : Nat) (ssl : Bool)
    (remoteIp : Ip) : Tabled inUse none (server.acceptConnection fd ssl remoteIp) := by
  cases taken : server.openFds fd with
  | true =>
      rw [TcpServer.acceptConnection, if_pos taken]
      exact tabled
  | false =>
      rcases le_or_gt Config.maxClients server.clients.keys.length with full | room
      · exact tabled.accept_full taken full ssl remoteIp
      · exact tabled.accept_room taken room ssl remoteIp

/-! ## Feeding a session -/

theorem TcpServer.store_of_open {server : TcpServer} {fd : Nat} {client : Client}
    {receiver : Receiver} {events : List Event} (trace : receiver.trace = client.trace ++ events)
    (stays : .closeSocket ∉ events) :
    server.store fd client receiver =
      { server.log (events.flatMap (Event.fdOps fd)) with
        world := receiver.world
        clients := server.clients.insert fd receiver.client } := by
  have delta : receiver.trace.drop client.trace.length = events := by
    rw [trace]
    exact List.drop_left
  simp only [TcpServer.store, delta, stays, if_false]

theorem TcpServer.store_of_closed {server : TcpServer} {fd : Nat} {client : Client}
    {receiver : Receiver} {events : List Event} (trace : receiver.trace = client.trace ++ events)
    (closes : .closeSocket ∈ events) :
    server.store fd client receiver =
      ({ server.log (events.flatMap (Event.fdOps fd)) with
        world := receiver.world
        clients := server.clients.insert fd receiver.client } : TcpServer).release fd := by
  have delta : receiver.trace.drop client.trace.length = events := by
    rw [trace]
    exact List.drop_left
  simp only [TcpServer.store, delta, closes, if_true]

/-- A session accepts no descriptors. -/
theorem not_accepted_fdOps (fd : Nat) (events : List Event) (other : Nat) :
    .accepted other ∉ events.flatMap (Event.fdOps fd) := by
  intro member
  obtain ⟨event, _, does⟩ := List.mem_flatMap.mp member
  cases event with
  | sent bytes => simp [Event.fdOps] at does
  | pushed bytes => simp [Event.fdOps] at does
  | closeSocket => simp [Event.fdOps] at does
  | _ => simp [Event.fdOps] at does

/-- A session that has closed its socket is not disturbed by what is still read for it. -/
theorem Tabled.feed_lost {fd : Nat} (tabled : Tabled inUse (some fd) server)
    (running : server.crashed = false) {client : Client}
    (present : server.clients.lookup fd = some client) (chunk : Bytes) (env : Env) :
    Tabled inUse (some fd) (server.feed fd client chunk env) ∧
      (server.feed fd client chunk env).crashed = false := by
  obtain ⟨gate, closed_iff⟩ := tabled.gates fd client present
  have closed : (client.receiver server.world).session.closed = true := closed_iff.mpr rfl
  have member : fd ∈ server.clients := AList.lookup_isSome.mp (by rw [present]; rfl)
  have idle : (client.receiver server.world).onData env chunk =
      .returned (client.receiver server.world) := Receiver.onData_closed env chunk closed
  have trace : (client.receiver server.world).trace = client.trace ++ [] :=
    (List.append_nil _).symm
  have fed : server.feed fd client chunk env =
      { server.log [] with
        world := server.world
        clients := server.clients.insert fd (client.receiver server.world).client } := by
    simp only [TcpServer.feed, idle]
    exact TcpServer.store_of_open trace List.not_mem_nil
  rw [fed]
  refine ⟨?_, running⟩
  have gateAfter : Gate (client.receiver server.world).client.session
      (client.receiver server.world).client.trace := gate
  exact (tabled.log [] (by simp)).updates member server.world gateAfter closed_iff

/-- After a chunk the table is right, or the session has just closed its number. -/
theorem Tabled.feed {fd : Nat} (tabled : Tabled inUse none server)
    (running : server.crashed = false) {client : Client}
    (present : server.clients.lookup fd = some client) (chunk : Bytes) (env : Env) :
    Tabled inUse none (server.feed fd client chunk env) ∨
      Tabled inUse (some fd) (server.feed fd client chunk env) ∧
        (server.feed fd client chunk env).crashed = false := by
  obtain ⟨gate, closed_iff⟩ := tabled.gates fd client present
  have isOpen : (client.receiver server.world).session.closed = false := by
    simpa [Client.receiver] using closed_iff
  have member : fd ∈ server.clients := AList.lookup_isSome.mp (by rw [present]; rfl)
  have gateReceiver : Gate (client.receiver server.world).session
      (client.receiver server.world).trace := gate
  have gateAfter := gate_kept.onData env chunk gateReceiver
  obtain ⟨events, trace, stays, closes⟩ :=
    Receiver.onData_events gateReceiver isOpen env chunk fd
  have logged := tabled.log (events.flatMap (Event.fdOps fd)) (not_accepted_fdOps fd events)
  unfold TcpServer.feed
  cases outcome : (client.receiver server.world).onData env chunk with
  | threw exception receiver =>
      rw [outcome, Outcome.state_threw] at trace stays gateAfter
      have stillOpen := Receiver.threw_open outcome
      have clientTrace : receiver.trace = client.trace ++ events := trace
      have gateClient : Gate receiver.client.session receiver.client.trace := gateAfter
      have stored := logged.updates member receiver.world gateClient
        (by simp [Receiver.client, stillOpen])
      left
      simp only [TcpServer.store_of_open clientTrace (stays stillOpen).1]
      exact stored.crash true
  | returned receiver =>
      rw [outcome, Outcome.state_returned] at trace stays closes gateAfter
      have clientTrace : receiver.trace = client.trace ++ events := trace
      have gateClient : Gate receiver.client.session receiver.client.trace := gateAfter
      by_cases closed : receiver.session.closed = true
      · right
        have lost := logged.loses member receiver.world gateClient closed
        simp only [TcpServer.store_of_closed clientTrace (closes closed).1]
        exact ⟨lost, running⟩
      · left
        have stillOpen : receiver.session.closed = false := by simpa using closed
        have stored := logged.updates member receiver.world gateClient
          (by simp [Receiver.client, stillOpen])
        simp only [TcpServer.store_of_open clientTrace (stays stillOpen).1]
        exact stored

/-! ## Runs -/

namespace TcpServer

/-- The session of a number has not closed its socket. -/
def SessionOpen (server : TcpServer) (fd : Nat) : Prop :=
  ∀ client, server.clients.lookup fd = some client → client.session.closed = false

/-- What the system promises about the reads of a readable event: only a socket that is open has
nothing to offer for now, and no other thread is given the number in the meantime. -/
def Undisturbed (fd : Nat) : List Round → TcpServer → Prop
  | [], server => server.SessionOpen fd
  | round :: rest, server =>
      let reached := (server.interfereAll round.before).log [.read fd]
      .opens fd ∉ round.before ∧
        match round.result with
        | .again => reached.SessionOpen fd
        | .ended | .failed => .opens fd ∉ round.after
        | .data chunk env =>
            ∀ client, reached.clients.lookup fd = some client →
              (reached.feed fd client chunk env).crashed = false →
                Undisturbed fd rest (reached.feed fd client chunk env)

/-- The system keeps its promises during an event. -/
def Keeps (server : TcpServer) : ServerInput → Prop
  | .readable fd rounds => Undisturbed fd rounds server
  | .accept _ _ _ | .hangup _ _ | .interfere _ => True

end TcpServer

theorem Tabled.not_lost {fd : Nat} (tabled : Tabled inUse lost server)
    (member : fd ∈ server.clients) (own : ∀ other, lost = some other → other = fd)
    (isOpen : server.SessionOpen fd) :
    lost = none := by
  obtain ⟨client, present⟩ := Option.isSome_iff_exists.mp (AList.lookup_isSome.mpr member)
  have closed_iff := (tabled.gates fd client present).2
  rw [isOpen client present] at closed_iff
  cases lost with
  | none => rfl
  | some other =>
      obtain rfl := own other rfl
      simp at closed_iff

/-- The loop of `handleClientData` leaves an exact table behind, even if a chunk makes the session
close its number. -/
theorem Tabled.readLoop {fd : Nat} (tabled : Tabled inUse lost server)
    (own : ∀ other, lost = some other → other = fd) (running : server.crashed = false)
    (member : fd ∈ server.clients) {rounds : List Round}
    (undisturbed : TcpServer.Undisturbed fd rounds server) :
    Tabled inUse none (TcpServer.readLoop fd rounds server) := by
  induction rounds generalizing server lost with
  | nil =>
      obtain rfl := tabled.not_lost member own undisturbed
      exact tabled.log [.read fd] (by simp)
  | cons round rest ih =>
      simp only [TcpServer.Undisturbed] at undisturbed
      obtain ⟨quiet, undisturbed⟩ := undisturbed
      have waited : Tabled inUse lost (server.interfereAll round.before) := by
        refine tabled.interfereAll ?_
        rintro other isLost
        obtain rfl := own other isLost
        exact quiet
      have reached := waited.log [.read fd] (by simp)
      have stays : fd ∈ ((server.interfereAll round.before).log [.read fd]).clients := by
        change fd ∈ (server.interfereAll round.before).clients
        rw [TcpServer.interfereAll_clients]
        exact member
      have stillRunning : ((server.interfereAll round.before).log [.read fd]).crashed = false :=
        (server.interfereAll_frame round.before).2.2.trans running
      simp only [TcpServer.readLoop]
      cases result : round.result with
      | again =>
          rw [result] at undisturbed
          obtain rfl := reached.not_lost stays own undisturbed
          exact reached
      | ended =>
          rw [result] at undisturbed
          exact reached.removeClient stays own fun _ => undisturbed
      | failed =>
          rw [result] at undisturbed
          exact reached.removeClient stays own fun _ => undisturbed
      | data chunk env =>
          rw [result] at undisturbed
          obtain ⟨client, present⟩ := Option.isSome_iff_exists.mp (AList.lookup_isSome.mpr stays)
          simp only [present]
          have there : fd ∈ (((server.interfereAll round.before).log [.read fd]).feed fd client
              chunk env).clients :=
            AList.lookup_isSome.mp (TcpServer.feed_present _ fd client chunk env)
          have later := undisturbed client present
          cases lost with
          | some other =>
              obtain rfl := own other rfl
              obtain ⟨fed, alive⟩ := reached.feed_lost stillRunning present chunk env
              rw [if_neg (by simp [alive])]
              exact ih fed own alive there (later alive)
          | none =>
              rcases reached.feed stillRunning present chunk env with fed | ⟨fed, alive⟩
              · split
                · exact fed
                · rename_i running
                  have alive := Bool.eq_false_iff.mpr running
                  exact ih fed (by simp) alive there (later alive)
              · rw [if_neg (by simp [alive])]
                exact ih fed (by simp [eq_comm]) alive there (later alive)

theorem Tabled.step (tabled : Tabled inUse none server) {input : ServerInput}
    (keeps : server.Keeps input) : Tabled inUse none (server.step input) := by
  unfold TcpServer.step
  split
  · exact tabled
  · rename_i alive
    have running : server.crashed = false := Bool.eq_false_iff.mpr alive
    cases input with
    | accept fd ssl remoteIp => exact tabled.acceptConnection fd ssl remoteIp
    | readable fd rounds =>
        simp only [TcpServer.handleClientData]
        split
        · rename_i listed
          split
          · exact tabled
          · exact tabled.readLoop (by simp) running (tabled.registered fd listed).1 keeps
        · exact tabled
    | hangup fd before =>
        simp only
        split
        · rename_i listed
          exact tabled.removeClient (tabled.registered fd listed).1 (by simp) (by simp)
        · exact tabled
    | interfere act => exact tabled.interfere (by simp)

/-- Between any two events of any run, the table lists exactly the accepted descriptors that are
still open, at most `maxClients` of them, and a number that is accepted next is not in it. -/
theorem client_table_exact (startup : Startup) (inUse : Nat → Bool) (inputs : List ServerInput)
    (keeps : Trace.Justified (fun before => (TcpServer.run startup inUse before).Keeps) inputs) :
    (TcpServer.run startup inUse inputs).TableExact := by
  have tabled : Tabled inUse none (TcpServer.run startup inUse inputs) := by
    induction inputs using List.reverseRecOn with
    | nil => exact tabled_start startup inUse
    | append_singleton inputs input ih =>
        obtain ⟨before, now⟩ := Trace.justified_append_iff.mp keeps
        rw [Trace.justified_cons_iff, List.append_nil] at now
        have last : TcpServer.run startup inUse (inputs ++ [input]) =
            (TcpServer.run startup inUse inputs).step input := by
          simp [TcpServer.run]
        rw [last]
        exact (ih before).step now.1
  exact tabled.exact

/-- A session closes its socket after three wrong PINs, the next read fails, and the number is given
to a second client. -/
def reusedNumber : List ServerInput :=
  [.accept 5 false [1],
    .readable 5 [⟨[], .data (ascii "1\n2\n3\n") .quiet, []⟩, ⟨[], .failed, []⟩],
    .accept 5 false [2]]

theorem client_table_reused :
    (TcpServer.run (.fresh (ascii "123456")) (fun _ => false) reusedNumber).TableExact ∧
      (TcpServer.run (.fresh (ascii "123456")) (fun _ => false) reusedNumber).clients.keys =
        [5] := by
  refine ⟨client_table_exact _ _ _ ?_, by decide +kernel⟩
  simp only [reusedNumber, Trace.justified_cons_iff, Trace.justified_nil, and_true,
    TcpServer.Keeps, true_and]
  refine ⟨by simp, ?_⟩
  intro client _ _
  exact ⟨by simp, by simp⟩

end TitanShare
