import TitanShare.Config
import TitanShare.MirrorReceiver

/-!
# The handshake on a client that does not speak TLS

`acceptTls` tries a TLS handshake on every connection, on the descriptor the session reads from when
there is none.  What OpenSSL reads from the descriptor before it gives up is gone with the SSL
object.
-/

namespace TitanShare

/-- The return value of `SSL_accept`, with the error `SSL_get_error` reports for it. -/
inductive AcceptResult
  | established
  | wantRead
  | wantWrite
  | failed
  deriving DecidableEq

/-- `SSL_accept`, given the bytes it has taken in earlier calls, those it can read now, and whether
the stream ends behind these: how many of them it takes, and its result. -/
abbrev SslAccept := Bytes → Bytes → Bool → Nat × AcceptResult

/-- A client that sends its stream without waiting for anything. -/
structure PlainClient where
  /-- What has arrived when the connection is accepted. -/
  arrived : Bytes
  /-- What arrives during each `poll` of the handshake that returns before the deadline. -/
  waits : List Bytes
  /-- What arrives after the deadline. -/
  later : Bytes
  /-- The client closes its side behind the stream. -/
  closes : Bool

/-- All the client sends. -/
def PlainClient.stream (client : PlainClient) : Bytes :=
  client.arrived ++ client.waits.flatten ++ client.later

/-- What the handshake of the server finds to read. -/
def PlainClient.early (client : PlainClient) : Bytes :=
  client.arrived ++ client.waits.flatten

namespace SslHelper

/-- What OpenSSL has taken from the descriptor, and what is left there. -/
structure Attempt where
  result : AcceptResult
  taken : Bytes
  readable : Bytes

/-- One call of `SSL_accept`, with the bytes that arrive later. -/
def attempt (accept : SslAccept) (closes : Bool) (taken readable remaining : Bytes) : Attempt :=
  let call := accept taken readable (closes && remaining.isEmpty)
  { result := call.2
    taken := taken ++ readable.take call.1
    readable := readable.drop call.1 }

/-- The loop of `acceptTls`: the last result of `SSL_accept`, and the bytes that are still to be
read from the descriptor.  A result that wants more is the last one when no `poll` returns in
time. -/
def handshake (accept : SslAccept) (closes : Bool) (later : Bytes) :
    List Bytes → Bytes → Bytes → AcceptResult × Bytes
  | [], taken, readable =>
      let tried := attempt accept closes taken readable later
      (tried.result, tried.readable ++ later)
  | wait :: waits, taken, readable =>
      let remaining := wait ++ waits.flatten ++ later
      let tried := attempt accept closes taken readable remaining
      match tried.result with
      | .wantRead | .wantWrite =>
          handshake accept closes later waits tried.taken (tried.readable ++ wait)
      | .established | .failed => (tried.result, tried.readable ++ remaining)

/-- `acceptTls` on the descriptor of a client of the server, which does not block: whether there is
an SSL object, and what is left to read.  Without a context, or an object for it, nothing is
read. -/
def acceptTls (accept : SslAccept) (context : Bool) (client : PlainClient) : Bool × Bytes :=
  if context then
    let accepted := handshake accept client.closes client.later client.waits [] client.arrived
    (accepted.1 == .established, accepted.2)
  else (false, client.stream)

/-- `acceptTls` on the descriptor of a mirror connection, which blocks: inside `SSL_accept` a read
waits for the next bytes however long they take.  No result stands for a call that does not
return. -/
def acceptMirror (accept : SslAccept) (context : Bool) (client : PlainClient) :
    Option (Bool × Bytes) :=
  if context then
    let waits := client.waits ++ [client.later]
    let accepted := handshake accept client.closes [] waits [] client.arrived
    match accepted.1 with
    | .established => some (true, accepted.2)
    | .failed => some (false, accepted.2)
    | .wantRead | .wantWrite => none
  else some (false, client.stream)

end SslHelper

/-- The chunks that the `recv` calls of `handleClientData` hand to `onData`, and what they leave. -/
def received : List Nat → Bytes → List Bytes × Bytes
  | [], unread => ([], unread)
  | size :: sizes, unread =>
      let count := min size Config.readBufferSize
      let rest := received sizes (unread.drop count)
      (unread.take count :: rest.1, rest.2)

/-- The client's session is given the client's stream from its first byte. -/
def SessionExact (accept : SslAccept) (context : Bool) (client : PlainClient) : Prop :=
  let accepted := SslHelper.acceptTls accept context client
  accepted.1 = false ∧
    ∀ sizes, (received sizes accepted.2).1.flatten ++ (received sizes accepted.2).2 = client.stream

/-- The frame reader is given the client's stream from its first byte. -/
def FramesExact (accept : SslAccept) (context : Bool) (client : PlainClient) : Prop :=
  match SslHelper.acceptMirror accept context client with
  | none => client.stream = []
  | some (ssl, unread) => ssl = false ∧ unread = client.stream

/-- What OpenSSL does with a stream that is not TLS. -/
structure NotTls (accept : SslAccept) (stream : Bytes) : Prop where
  /-- No handshake comes about. -/
  refused : ∀ taken readable ended, taken ++ readable <+: stream →
    (accept taken readable ended).2 ≠ .established
  /-- It starts with the header of a record. -/
  reads : ∀ readable ended, readable ≠ [] → readable <+: stream →
    0 < (accept [] readable ended).1
  /-- It waits for a client that has sent nothing. -/
  waits : (accept [] [] false).2 = .wantRead

theorem received_exact (sizes : List Nat) (unread : Bytes) :
    (received sizes unread).1.flatten ++ (received sizes unread).2 = unread := by
  induction sizes generalizing unread with
  | nil => rfl
  | cons size sizes ih =>
      simp only [received, List.flatten_cons, List.append_assoc, ih]
      exact List.take_append_drop _ _

namespace SslHelper

variable {accept : SslAccept} {closes : Bool} {later stream : Bytes} {client : PlainClient}

/-- What one call takes is what it does not leave. -/
theorem attempt_split (taken readable remaining : Bytes) :
    (attempt accept closes taken readable remaining).taken ++
      (attempt accept closes taken readable remaining).readable = taken ++ readable := by
  simp [attempt]

theorem attempt_suffix (taken readable remaining rest : Bytes) :
    (attempt accept closes taken readable remaining).readable ++ rest <:+ readable ++ rest :=
  List.suffix_append_self_iff.mpr (List.drop_suffix _ _)

theorem attempt_short (plain : NotTls accept stream) {readable : Bytes} (something : readable ≠ [])
    (isPrefix : readable <+: stream) (remaining : Bytes) :
    (attempt accept closes [] readable remaining).readable.length < readable.length := by
  have reads := plain.reads readable (closes && remaining.isEmpty) something isPrefix
  have positive := List.length_pos_of_ne_nil something
  simp only [attempt, List.length_drop]
  omega

/-- What the first call has taken does not come back. -/
theorem handshake_suffix (waits : List Bytes) (taken readable : Bytes) :
    (handshake accept closes later waits taken readable).2 <:+
      (attempt accept closes taken readable (waits.flatten ++ later)).readable ++
        (waits.flatten ++ later) := by
  induction waits generalizing taken readable with
  | nil => exact List.suffix_refl _
  | cons wait waits ih =>
      simp only [handshake, List.flatten_cons]
      split
      case h_1 | h_2 =>
          have rest := ih (attempt accept closes taken readable
            (wait ++ waits.flatten ++ later)).taken
            ((attempt accept closes taken readable
              (wait ++ waits.flatten ++ later)).readable ++ wait)
          have next := rest.trans (attempt_suffix _ _ _ _)
          simp only [List.append_assoc] at next ⊢
          exact next
      case h_3 | h_4 => exact List.suffix_refl _

/-- No handshake comes about on a stream that is not TLS. -/
theorem handshake_refused (plain : NotTls accept stream) (waits : List Bytes)
    (taken readable : Bytes) (all : taken ++ readable ++ waits.flatten ++ later = stream) :
    (handshake accept closes later waits taken readable).1 ≠ .established := by
  induction waits generalizing taken readable with
  | nil =>
      refine plain.refused taken readable _ ?_
      rw [← all, List.append_assoc (taken ++ readable)]
      exact List.prefix_append _ _
  | cons wait waits ih =>
      have refused := plain.refused taken readable
        (closes && (wait ++ waits.flatten ++ later).isEmpty) (by
          rw [← all, List.append_assoc (taken ++ readable)]
          exact List.prefix_append _ _)
      simp only [handshake]
      split
      case h_1 | h_2 =>
          apply ih
          rw [← all, ← List.append_assoc, attempt_split, List.flatten_cons]
          simp only [List.append_assoc]
      case h_3 | h_4 => exact refused

/-- Something is taken of the first bytes that arrive. -/
theorem handshake_short (plain : NotTls accept stream) (waits : List Bytes) {readable : Bytes}
    (something : readable ≠ []) (all : readable ++ waits.flatten ++ later = stream) :
    (handshake accept closes later waits [] readable).2 ≠ stream := by
  intro same
  have isPrefix : readable <+: stream := by
    rw [← all, List.append_assoc]
    exact List.prefix_append _ _
  have short : (attempt accept closes [] readable (waits.flatten ++ later)).readable.length <
      readable.length := attempt_short plain something isPrefix _
  have length : (handshake accept closes later waits [] readable).2.length ≤ _ :=
    (handshake_suffix waits [] readable).length_le
  rw [same, ← all] at length
  simp only [List.length_append] at length
  omega

/-- A client that is still silent is waited for. -/
theorem handshake_silent (plain : NotTls accept stream) (wait : Bytes) (waits : List Bytes)
    (something : wait ++ waits.flatten ++ later ≠ []) :
    handshake accept closes later (wait :: waits) [] [] =
      handshake accept closes later waits [] wait := by
  have continues : (closes && (wait ++ waits.flatten ++ later).isEmpty) = false := by
    rw [List.isEmpty_eq_false_iff.mpr something, Bool.and_false]
  simp only [handshake, attempt, continues, plain.waits]
  simp

/-- All of the stream is left just when none of it arrives in time. -/
theorem handshake_all_iff (plain : NotTls accept stream) (waits : List Bytes) (readable : Bytes)
    (all : readable ++ waits.flatten ++ later = stream) :
    (handshake accept closes later waits [] readable).2 = stream ↔
      readable ++ waits.flatten = [] := by
  by_cases empty : stream = []
  case pos =>
    subst empty
    obtain ⟨⟨rfl, silent⟩, rfl⟩ := by simpa only [List.append_eq_nil_iff] using all
    have suffix : (handshake accept closes [] waits [] []).2 <:+ _ :=
      handshake_suffix waits [] []
    simpa [attempt, silent] using suffix
  case neg =>
    induction waits generalizing readable with
    | nil =>
        by_cases silent : readable = []
        case pos =>
          subst silent
          simpa [handshake, attempt] using all
        case neg => simp [handshake_short plain [] silent all, silent]
    | cons wait waits ih =>
        by_cases silent : readable = []
        case pos =>
          subst silent
          rw [List.nil_append, List.flatten_cons] at all
          rw [handshake_silent plain wait waits (all ▸ empty), ih wait all]
          simp
        case neg => simp [handshake_short plain _ silent all, silent]

end SslHelper

theorem sessionExact_iff {accept : SslAccept} {client : PlainClient}
    (plain : NotTls accept client.stream) (context : Bool) :
    SessionExact accept context client ↔ context = false ∨ client.early = [] := by
  cases context with
  | false => simp [SessionExact, SslHelper.acceptTls, received_exact]
  | true =>
      have refused : (SslHelper.handshake accept client.closes client.later client.waits []
          client.arrived).1 ≠ .established :=
        SslHelper.handshake_refused plain client.waits [] client.arrived rfl
      have all : (SslHelper.handshake accept client.closes client.later client.waits []
          client.arrived).2 = client.stream ↔ client.early = [] :=
        SslHelper.handshake_all_iff plain client.waits client.arrived rfl
      simp [SessionExact, SslHelper.acceptTls, received_exact, refused, all]

theorem framesExact_iff {accept : SslAccept} {client : PlainClient}
    (plain : NotTls accept client.stream) (context : Bool) :
    FramesExact accept context client ↔ context = false ∨ client.stream = [] := by
  cases context with
  | false => simp [FramesExact, SslHelper.acceptMirror]
  | true =>
      have stream : client.arrived ++ (client.waits ++ [client.later]).flatten = client.stream := by
        simp [PlainClient.stream]
      have refused : (SslHelper.handshake accept client.closes []
          (client.waits ++ [client.later]) [] client.arrived).1 ≠ .established :=
        SslHelper.handshake_refused plain _ [] client.arrived (by simpa using stream)
      have all : (SslHelper.handshake accept client.closes []
          (client.waits ++ [client.later]) [] client.arrived).2 = client.stream ↔
            client.stream = [] := by
        rw [SslHelper.handshake_all_iff plain _ client.arrived (by simpa using stream), stream]
      simp only [FramesExact, SslHelper.acceptMirror, if_true, Bool.true_eq_false, false_or]
      split
      case h_1 => rfl
      case h_2 ssl unread accepted =>
          split at accepted
          case h_1 established => exact absurd established refused
          case h_2 =>
              obtain ⟨rfl, rfl⟩ := Prod.mk.inj (Option.some.inj accepted)
              simpa only [true_and] using all
          case h_3 | h_4 => cases accepted

/-- The frame reader takes its frames from the front of the client's stream. -/
theorem FramesExact.readExact {accept : SslAccept} {context ssl : Bool} {client : PlainClient}
    {unread : Bytes} (lossless : FramesExact accept context client)
    (accepted : SslHelper.acceptMirror accept context client = some (ssl, unread))
    (pieces : List Nat) {count : Nat} (small : count < 2 ^ 31) :
    Connection.Exact count client.stream (Connection.readExact ssl count ⟨unread, pieces⟩) := by
  rw [FramesExact, accepted] at lossless
  rw [← lossless.2]
  exact Connection.readExact_exact ssl ⟨unread, pieces⟩ small

/-- No bytes are lost just when no handshake is tried, or nothing arrives as long as it lasts. -/
theorem fallback_exact_iff (accept : SslAccept) (context : Bool) (client : PlainClient)
    (plain : NotTls accept client.stream) :
    (SessionExact accept context client ↔
        context = false ∨ client.arrived = [] ∧ ∀ wait ∈ client.waits, wait = []) ∧
      (FramesExact accept context client ↔ context = false ∨ client.stream = []) := by
  refine ⟨?_, framesExact_iff plain context⟩
  rw [sessionExact_iff plain, PlainClient.early, List.append_eq_nil_iff, List.flatten_eq_nil_iff]

/-- It takes the five bytes of a record header, and fails on them. -/
def headerAccept : SslAccept := fun taken readable ended =>
  let missing := 5 - taken.length
  if missing ≤ readable.length then (missing, .failed)
  else (readable.length, if ended then .failed else .wantRead)

theorem headerAccept_notTls (stream : Bytes) : NotTls headerAccept stream where
  refused := by
    intro taken readable ended _
    unfold headerAccept
    grind
  reads := by
    intro readable ended something _
    have positive := List.length_pos_of_ne_nil something
    unfold headerAccept
    grind
  waits := rfl

/-- A client that sends its PIN as soon as it is connected. -/
def eagerClient : PlainClient where
  arrived := [49, 50, 51, 52, 53, 54, 10]
  waits := []
  later := []
  closes := false

theorem fallback_exact_iff_eager :
    (SessionExact headerAccept true eagerClient ↔
        true = false ∨ eagerClient.arrived = [] ∧ ∀ wait ∈ eagerClient.waits, wait = []) ∧
      (FramesExact headerAccept true eagerClient ↔ true = false ∨ eagerClient.stream = []) :=
  fallback_exact_iff headerAccept true eagerClient (headerAccept_notTls _)

/-- The session is given the last digit of the PIN only. -/
theorem fallback_loses :
    (received [Config.readBufferSize] (SslHelper.acceptTls headerAccept true eagerClient).2).1 =
        [[54, 10]] ∧
      ¬ SessionExact headerAccept true eagerClient ∧
      ¬ FramesExact headerAccept true eagerClient := by
  refine ⟨by decide, ?_, ?_⟩
  · intro lossless
    exact absurd (lossless.2 [Config.readBufferSize]) (by decide)
  · intro lossless
    have accepted : SslHelper.acceptMirror headerAccept true eagerClient =
        some (false, [54, 10]) := by decide
    rw [FramesExact, accepted] at lossless
    exact absurd lossless.2 (by decide)

end TitanShare
