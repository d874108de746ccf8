import TitanShare.PushFraming
import TitanShare.UploadHeader

/-!
# The streaming loops of a push

`pushFile` streams a file in two nested loops: the outer one reads a chunk, the inner one sends it
and tries again as long as the socket would block.  Here every pass makes at most one system call,
and the results of the calls form an infinite sequence.
-/

namespace TitanShare

open ByteText PassLoop

/-- The surroundings of the streaming loops, over the whole push. -/
structure StreamEnv where
  /-- The bytes `ifs.read` finds in each round of the outer loop. -/
  read : Nat → Bytes
  /-- The results of the `send` or `SSL_write` calls, by number of earlier ones. -/
  send : Nat → SendResult
  /-- More than 100 ms have passed since the last progress update, by round. -/
  due : Nat → Bool
  publish : Nat → PublishEnv
  /-- The last publish call. -/
  finish : PublishEnv

/-- Where the loops stand. -/
inductive PushPlace
  /-- At the head of the outer loop. -/
  | reading
  /-- At the head of the inner loop. -/
  | writing (bytes : Bytes) (totalWritten : Nat)

/-- The variables of the loops. -/
structure Pushing where
  place : PushPlace
  sent : Nat
  /-- `ifs.good()` -/
  good : Bool
  rounds : Nat
  calls : Nat
  /-- The bytes behind the header line that the connection took. -/
  wire : Bytes
  context : Context

/-- How the push ends. -/
structure PushEnd where
  sent : Nat
  wire : Bytes
  outcome : Outcome Exception Context

/-- One pass through the head of one of the loops of `pushFile`. -/
def streamPass (env : StreamEnv) (name : Bytes) (size : Nat) (state : Pushing) :
    Pass Pushing PushEnd :=
  let ends (done : Nat) (context : Context) : Pass Pushing PushEnd :=
    .leave ⟨state.sent, state.wire,
      publishTransferState env.finish ⟨false, true, [], done, 1⟩ context⟩
  match state.place with
  | .reading =>
      if size ≤ state.sent then ends 1 state.context
      else
        let wanted := min Config.pushChunk (size - state.sent)
        let bytes := if state.good then (env.read state.rounds).take wanted else []
        if bytes = [] then ends 1 state.context
        else
          .again { state with
            place := .writing bytes 0
            good := state.good && bytes.length == wanted }
  | .writing bytes totalWritten =>
      if bytes.length ≤ totalWritten then
        let sent := state.sent + totalWritten
        let written := state.context.emit [.pushed (bytes.take totalWritten)]
        let published :=
          if env.due state.rounds = true ∨ sent = size then
            publishTransferState (env.publish state.rounds) ⟨true, true, name, sent, size⟩ written
          else .returned written
        match published with
        | .threw exception context => .leave ⟨sent, state.wire, .threw exception context⟩
        | .returned context =>
            .again { state with place := .reading, sent, rounds := state.rounds + 1, context }
      else
        match env.send state.calls with
        | .refused _ false => ends 0 (state.context.emit [.pushed (bytes.take totalWritten)])
        -- the socket would block: `poll` waits for it
        | .refused _ true => .again { state with calls := state.calls + 1 }
        | .accepted count =>
            let taken := (bytes.drop totalWritten).take count
            .again { state with
              place := .writing bytes (totalWritten + taken.length)
              calls := state.calls + 1
              wire := state.wire ++ taken }

/-- The push has sent its header line. -/
def Pushing.start (context : Context) : Pushing where
  place := .reading
  sent := 0
  good := true
  rounds := 0
  calls := 0
  wire := []
  context := context

/-! ## A push of an unchanged file -/

/-- The reads find this content, every call would block or takes something, and no infinite sequence
of calls would block. -/
structure StreamEnv.Steady (env : StreamEnv) (content : Bytes) : Prop where
  reads : ∀ round, round * Config.pushChunk < content.length →
    (env.read round).take (min Config.pushChunk (content.length - round * Config.pushChunk)) =
      (content.drop (round * Config.pushChunk)).take Config.pushChunk
  sends : ∀ call, (∃ wants, env.send call = .refused wants true) ∨
    ∃ count, env.send call = .accepted (count + 1)
  fair : ∀ call, ∃ later, call ≤ later ∧ ∃ count, env.send later = .accepted (count + 1)

/-- The results of some consecutive calls. -/
def StreamEnv.sends (env : StreamEnv) (first count : Nat) : List SendResult :=
  (List.range' first count).map env.send

theorem StreamEnv.sends_succ (env : StreamEnv) (first count : Nat) :
    env.sends first (count + 1) = env.send first :: env.sends (first + 1) count := by
  simp [StreamEnv.sends, List.range'_succ]

namespace Pushing

variable {env : StreamEnv} {name content : Bytes} {size : Nat}

section InnerLoop

variable {state : Pushing} {bytes : Bytes} {total : Nat}
    (place : state.place = .writing bytes total)
  (below : total < bytes.length)

include place below

/-- The socket would block. -/
theorem goes_blocked {wants : Bool} (blocked : env.send state.calls = .refused wants true) :
    Goes (streamPass env name size) state { state with calls := state.calls + 1 } := by
  unfold Goes
  simp only [streamPass, place, if_neg (not_le.mpr below), blocked]

theorem goes_accepted {count : Nat} (accepted : env.send state.calls = .accepted count) :
    Goes (streamPass env name size) state
      { state with
        place := .writing bytes (total + ((bytes.drop total).take count).length)
        calls := state.calls + 1
        wire := state.wire ++ (bytes.drop total).take count } := by
  unfold Goes
  simp only [streamPass, place, if_neg (not_le.mpr below), accepted]

end InnerLoop

/-- The inner loop ends when the whole chunk was accepted, after a number of calls that depends on
their results only.  The induction is on the bytes that are left and on the calls up to the next one
that takes some of them. -/
theorem writes (steady : env.Steady content) {bytes : Bytes} (state : Pushing) {total : Nat}
    (place : state.place = .writing bytes total) (within : total ≤ bytes.length) :
    ∃ count,
      (∀ context, Visits (streamPass env name size) { state with context }
        { state with
          place := .writing bytes bytes.length
          calls := state.calls + count
          wire := state.wire ++ bytes.drop total
          context }) ∧
      Transport.carries (env.sends state.calls count) (bytes.length - total) = true := by
  induction left : bytes.length - total using Nat.strong_induction_on
    generalizing state total with
  | _ remaining more =>
      rcases within.eq_or_lt with rfl | below
      · refine ⟨0, fun context => ?_, rfl⟩
        rw [List.drop_length, List.append_nil, ← place]
        exact .refl
      · have accepted : ∀ (state : Pushing) {taken : Nat}, state.place = .writing bytes total →
            env.send state.calls = .accepted (taken + 1) → ∃ count,
              (∀ context, Visits (streamPass env name size) { state with context }
                { state with
                  place := .writing bytes bytes.length
                  calls := state.calls + count
                  wire := state.wire ++ bytes.drop total
                  context }) ∧
              Transport.carries (env.sends state.calls count) remaining = true := by
          intro state taken place accepts
          have length : ((bytes.drop total).take (taken + 1)).length =
              min (taken + 1) (bytes.length - total) := by
            rw [List.length_take, List.length_drop]
          obtain ⟨count, visits, carries⟩ := more _ (by omega)
            { state with
              place := .writing bytes (total + ((bytes.drop total).take (taken + 1)).length)
              calls := state.calls + 1
              wire := state.wire ++ (bytes.drop total).take (taken + 1) } rfl (by omega) rfl
          refine ⟨count + 1, fun context => ?_, ?_⟩
          · refine .head
              (@goes_accepted env name size { state with context } bytes total place below _
                accepts) ?_
            rw [show state.calls + (count + 1) = state.calls + 1 + count by omega]
            have split : (bytes.drop total).take (taken + 1) ++
                bytes.drop (total + ((bytes.drop total).take (taken + 1)).length) =
                  bytes.drop total := by
              rw [← List.drop_drop, List.length_take, ← List.drop_eq_drop_min]
              exact List.take_append_drop _ _
            simp only [List.append_assoc, split] at visits
            exact visits context
          · rw [StreamEnv.sends_succ, accepts, Transport.carries]
            have shorter : remaining - (taken + 1) =
                bytes.length - (total + ((bytes.drop total).take (taken + 1)).length) := by omega
            simp only [shorter, carries, Bool.or_true]
        obtain ⟨later, reached, taken, accepts⟩ := steady.fair state.calls
        induction distance : later - state.calls generalizing state with
        | zero =>
            obtain rfl : later = state.calls := by omega
            exact accepted state place accepts
        | succ gap next =>
            rcases steady.sends state.calls with ⟨wants, blocked⟩ | ⟨count, accepts⟩
            · have nearer : state.calls + 1 ≤ later ∧ later - (state.calls + 1) = gap := by omega
              obtain ⟨count, visits, carries⟩ :=
                next { state with calls := state.calls + 1 } place nearer.1 nearer.2
              refine ⟨count + 1, fun context => ?_, ?_⟩
              · refine .head
                  (@goes_blocked env name size { state with context } bytes total place below _
                    blocked) ?_
                rw [show state.calls + (count + 1) = state.calls + 1 + count by omega]
                exact visits context
              · rw [StreamEnv.sends_succ, blocked, Transport.carries]
                simp [carries]
            · exact accepted state place accepts

/-! ## Rounds of the outer loop -/

/-- The chunk of a content that a round reads. -/
def chunkOf (content : Bytes) (round : Nat) : Bytes :=
  (content.drop (round * Config.pushChunk)).take Config.pushChunk

theorem chunkOf_length (content : Bytes) (round : Nat) :
    (chunkOf content round).length =
      min Config.pushChunk (content.length - round * Config.pushChunk) := by
  rw [chunkOf, List.length_take, List.length_drop]

theorem chunkOf_ne_nil {round : Nat} (more : round * Config.pushChunk < content.length) :
    chunkOf content round ≠ [] := by
  have positive : 0 < Config.pushChunk := by decide
  have length := chunkOf_length content round
  rw [← List.length_pos_iff_ne_nil, length]
  omega

/-- The loops are at the head of a round, and everything read so far was sent. -/
structure Ready (content : Bytes) (state : Pushing) : Prop where
  place : state.place = .reading
  good : state.good = true
  sent : state.sent = min (state.rounds * Config.pushChunk) content.length
  wire : state.wire = content.take (state.rounds * Config.pushChunk)

theorem ready_start (content : Bytes) (context : Context) : Ready content (.start context) where
  place := rfl
  good := rfl
  sent := by simp [start]
  wire := by simp [start]

section Round

variable {state : Pushing} (ready : Ready content state)
  (more : state.rounds * Config.pushChunk < content.length)

include ready

theorem Ready.leave (last : content.length ≤ state.rounds * Config.pushChunk) :
    streamPass env name content.length state =
      .leave ⟨content.length, content,
        publishTransferState env.finish ⟨false, true, [], 1, 1⟩ state.context⟩ := by
  have sent : state.sent = content.length := by
    rw [ready.sent]
    omega
  have wire : state.wire = content := by
    rw [ready.wire, List.take_of_length_le last]
  simp only [streamPass, ready.place, sent, if_pos (le_refl content.length), wire]

include more

theorem Ready.sent_eq : state.sent = state.rounds * Config.pushChunk := by
  rw [ready.sent]
  omega

/-- A round reads its chunk and sends it whole. -/
theorem Ready.sends (steady : env.Steady content) :
    ∃ count,
      (∀ context, Visits (streamPass env name content.length) { state with context }
        { state with
          place := .writing (chunkOf content state.rounds) (chunkOf content state.rounds).length
          calls := state.calls + count
          wire := content.take ((state.rounds + 1) * Config.pushChunk)
          context }) ∧
      Transport.carries (env.sends state.calls count) (chunkOf content state.rounds).length =
        true := by
  have length := chunkOf_length content state.rounds
  have nonempty := chunkOf_ne_nil more
  have wanted : min Config.pushChunk (content.length - state.sent) =
      (chunkOf content state.rounds).length := by
    rw [length, ready.sent_eq more]
  have found : (env.read state.rounds).take (chunkOf content state.rounds).length =
      chunkOf content state.rounds := by
    rw [length]
    exact steady.reads state.rounds more
  have reads : ∀ context, Goes (streamPass env name content.length) { state with context }
      { state with place := .writing (chunkOf content state.rounds) 0, context } := by
    have short : ¬ content.length ≤ state.sent := by
      rw [ready.sent_eq more]
      omega
    have place := ready.place
    have good := ready.good
    obtain ⟨_, _, _, _, _, _, _⟩ := state
    subst place good
    intro context
    unfold Goes
    simp only [streamPass, if_neg short, wanted, if_true, found, if_neg nonempty, beq_self_eq_true,
      Bool.and_self]
  obtain ⟨count, visits, carries⟩ := @writes env name content content.length steady
    (chunkOf content state.rounds)
    { state with place := .writing (chunkOf content state.rounds) 0 } 0
    rfl (Nat.zero_le _)
  have wire : state.wire ++ chunkOf content state.rounds =
      content.take ((state.rounds + 1) * Config.pushChunk) := by
    rw [ready.wire, chunkOf, Nat.succ_mul, List.take_add]
  simp only [List.drop_zero, wire] at visits
  rw [Nat.sub_zero] at carries
  exact ⟨count, fun context => .head (reads context) (visits context), carries⟩

end Round

end Pushing

/-! ## Status updates -/

namespace StreamEnv

variable (env : StreamEnv) (name : Bytes) (size : Nat)

/-- The status update behind a round. -/
def publishRound (round sent : Nat) (context : Context) : Outcome Exception Context :=
  if env.due round = true ∨ sent = size then
    publishTransferState (env.publish round) ⟨true, true, name, sent, size⟩ context
  else .returned context

/-- There is a status update behind this round: some time has passed, or it is the last one. -/
def Updates (round : Nat) : Prop :=
  round * Config.pushChunk < size ∧ (env.due round = true ∨ size ≤ (round + 1) * Config.pushChunk)

/-- From this round on every status update finds its folder. -/
def Publishes (round : Nat) : Prop :=
  (∀ later, round ≤ later → env.Updates size later → (env.publish later).createsDir = true) ∧
    env.finish.createsDir = true

/-- From this round on every status update in front of the last byte finds its folder. -/
def Persists (round : Nat) : Prop :=
  ∀ later, round ≤ later → env.Updates size later → (later + 1) * Config.pushChunk < size →
    (env.publish later).createsDir = true

/-- What a round of the outer loop meets. -/
def chunkEnv (round first count : Nat) : ChunkEnv where
  read := env.read round
  sends := env.sends first count
  due := env.due round
  publish := env.publish round

end StreamEnv

namespace Pushing

variable {env : StreamEnv} {name content : Bytes}

theorem publishRound_returns_iff (valid : Json.validUtf8 name = true) {round : Nat}
    (more : round * Config.pushChunk < content.length) (context : Context) :
    (env.publishRound name content.length round
        (min ((round + 1) * Config.pushChunk) content.length) context).Returns ↔
      (env.Updates content.length round → (env.publish round).createsDir = true) := by
  have last : min ((round + 1) * Config.pushChunk) content.length = content.length ↔
      content.length ≤ (round + 1) * Config.pushChunk := min_eq_right_iff
  unfold StreamEnv.publishRound StreamEnv.Updates
  rw [← last]
  by_cases updates : env.due round = true ∨
      min ((round + 1) * Config.pushChunk) content.length = content.length
  · rw [if_pos updates, publishTransferState_returns_iff]
    constructor
    · exact fun succeeds _ => succeeds.1
    · exact fun creates => ⟨creates ⟨more, updates⟩, fun _ => valid⟩
  · rw [if_neg updates]
    exact iff_of_true (Outcome.returns_returned _) fun made => absurd made.2 updates

/-- At the end of a round its status update decides whether the loops go on. -/
theorem pass_written {state : Pushing} {bytes : Bytes} {size : Nat}
    (place : state.place = .writing bytes bytes.length) :
    streamPass env name size state =
      match env.publishRound name size state.rounds (state.sent + bytes.length)
          (state.context.emit [.pushed bytes]) with
      | .threw exception context =>
          .leave ⟨state.sent + bytes.length, state.wire, .threw exception context⟩
      | .returned context =>
          .again { state with
            place := .reading
            sent := state.sent + bytes.length
            rounds := state.rounds + 1
            context } := by
  simp only [streamPass, place, if_pos (le_refl bytes.length), List.take_length]
  rfl

/-- One round in the model with one record for each chunk. -/
theorem streamFile_chunkEnv {round first count : Nat} {rest : List ChunkEnv} {context : Context}
    (steady : env.Steady content) (more : round * Config.pushChunk < content.length)
    (carries : Transport.carries (env.sends first count) (chunkOf content round).length = true) :
    streamFile env.finish name content.length (env.chunkEnv round first count :: rest)
        (round * Config.pushChunk) true context =
      (env.publishRound name content.length round
          (min ((round + 1) * Config.pushChunk) content.length)
          (context.emit [.pushed (chunkOf content round)])).andThen
        (streamFile env.finish name content.length rest
          (min ((round + 1) * Config.pushChunk) content.length) true) := by
  have length := chunkOf_length content round
  have nonempty := chunkOf_ne_nil more
  have delivers : (env.chunkEnv round first count).delivers true
      (min Config.pushChunk (content.length - round * Config.pushChunk)) =
        chunkOf content round := by
    simp only [ChunkEnv.delivers, StreamEnv.chunkEnv, if_true]
    exact steady.reads round more
  have complete := Transport.sendChunk_complete (env.sends first count) (chunkOf content round)
  have sent := Transport.sendChunk_sent (env.sends first count) (chunkOf content round)
  rw [carries] at complete
  rw [if_pos carries] at sent
  have total : round * Config.pushChunk + (chunkOf content round).length =
      min ((round + 1) * Config.pushChunk) content.length := by
    rw [length, Nat.succ_mul]
    omega
  have whole : ((chunkOf content round).length ==
      min Config.pushChunk (content.length - round * Config.pushChunk)) = true := by
    rw [length]
    exact beq_self_eq_true _
  have due : (env.chunkEnv round first count).due = env.due round := rfl
  have publishes : (env.chunkEnv round first count).publish = env.publish round := rfl
  have results : (env.chunkEnv round first count).sends = env.sends first count := rfl
  simp only [streamFile, delivers, if_neg nonempty, results, complete, sent, total, due, publishes,
    whole, Bool.true_and, Bool.true_eq_false, if_false]
  rfl

theorem publishes_succ_iff {round : Nat}
    (updated : env.Updates content.length round → (env.publish round).createsDir = true) :
    env.Publishes content.length round ↔ env.Publishes content.length (round + 1) := by
  refine and_congr_left fun _ => ⟨fun all later after => all later (by omega), ?_⟩
  intro all later after updates
  rcases after.eq_or_lt with rfl | after
  · exact updated updates
  · exact all later after updates

theorem persists_succ_iff {round : Nat}
    (updated : env.Updates content.length round → (env.publish round).createsDir = true) :
    env.Persists content.length round ↔ env.Persists content.length (round + 1) := by
  refine ⟨fun all later after => all later (by omega), ?_⟩
  intro all later after updates
  rcases after.eq_or_lt with rfl | after
  · exact fun _ => updated updates
  · exact all later after updates

/-- The loops end, in the model with one record for each chunk they end alike, and what they have
sent depends on the status updates. -/
structure Ends (env : StreamEnv) (name content : Bytes) (chunks : List ChunkEnv) (state : Pushing)
    (result : PushEnd) : Prop where
  exits : Exits (streamPass env name content.length) state result
  agrees : streamFile env.finish name content.length chunks state.sent true state.context =
    result.outcome
  returns : result.outcome.Returns ↔ env.Publishes content.length state.rounds
  exact : result.wire = content ∧ result.sent = content.length ↔
    env.Persists content.length state.rounds

theorem Ready.ends_last {state : Pushing} (ready : Ready content state)
    (last : content.length ≤ state.rounds * Config.pushChunk) :
    ∃ result, Ends env name content [] state result := by
  have done : ∀ later, state.rounds ≤ later → ¬ env.Updates content.length later := by
    rintro later after ⟨more, _⟩
    exact absurd (last.trans (Nat.mul_le_mul_right _ after)) (not_le.mpr more)
  refine ⟨_, ⟨state, .refl, ready.leave last⟩, rfl, ?_, ?_⟩
  · rw [publishTransferState_returns_iff]
    constructor
    · exact fun succeeds =>
        ⟨fun later after updates => absurd updates (done later after), succeeds.1⟩
    · exact fun publishes => ⟨publishes.2, fun _ => by decide⟩
  · exact iff_of_true ⟨rfl, rfl⟩ fun later after updates => absurd updates (done later after)

/-- A status update that throws ends the loops; nothing is missing if it was the one behind the last
byte. -/
theorem Ready.ends_thrown {state last : Pushing} (ready : Ready content state)
    (more : state.rounds * Config.pushChunk < content.length) {count : Nat}
    (carries : Transport.carries (env.sends state.calls count)
      (chunkOf content state.rounds).length = true)
    (steady : env.Steady content) {exception : Exception} {context : Context}
    (thrown : ¬ (env.Updates content.length state.rounds →
      (env.publish state.rounds).createsDir = true))
    (visits : Visits (streamPass env name content.length) state last)
    (publishes : env.publishRound name content.length state.rounds
      (min ((state.rounds + 1) * Config.pushChunk) content.length)
      (state.context.emit [.pushed (chunkOf content state.rounds)]) = .threw exception context)
    (leaves : streamPass env name content.length last =
      .leave ⟨min ((state.rounds + 1) * Config.pushChunk) content.length,
        content.take ((state.rounds + 1) * Config.pushChunk), .threw exception context⟩) :
    ∃ result, Ends env name content [env.chunkEnv state.rounds state.calls count] state result := by
  refine ⟨_, ⟨last, visits, leaves⟩, ?_, ?_, ?_⟩
  · rw [ready.sent_eq more, streamFile_chunkEnv steady more carries, publishes]
    rfl
  · refine iff_of_false (Outcome.not_returns_threw _ _) fun all => thrown ?_
    exact all.1 state.rounds (le_refl _)
  · have whole : (content.take ((state.rounds + 1) * Config.pushChunk) = content ∧
        min ((state.rounds + 1) * Config.pushChunk) content.length = content.length) ↔
          content.length ≤ (state.rounds + 1) * Config.pushChunk := by
      rw [List.take_eq_self_iff, min_eq_right_iff, and_self]
    refine whole.trans ⟨?_, ?_⟩
    · intro covered later after _ short
      have grown := Nat.mul_le_mul_right Config.pushChunk (Nat.succ_le_succ after)
      exact absurd (covered.trans grown) (not_le.mpr short)
    · intro persists
      by_contra short
      exact thrown fun updates => persists state.rounds (le_refl _) updates (not_le.mp short)

/-- The induction is on the rounds that are left. -/
theorem Ready.ends (steady : env.Steady content) (valid : Json.validUtf8 name = true)
    {state : Pushing} (ready : Ready content state) :
    ∃ chunks, ∀ context, ∃ result, Ends env name content chunks { state with context } result := by
  induction left : content.length - state.rounds * Config.pushChunk using Nat.strong_induction_on
    generalizing state with
  | _ remaining later =>
      have anywhere : ∀ context, Ready content { state with context } := fun _ =>
        ⟨ready.place, ready.good, ready.sent, ready.wire⟩
      rcases le_or_gt content.length (state.rounds * Config.pushChunk) with last | more
      · exact ⟨[], fun context => (anywhere context).ends_last last⟩
      · obtain ⟨count, visits, carries⟩ := @Ready.sends env name content state ready more steady
        have positive : 0 < Config.pushChunk := by decide
        have total : state.sent + (chunkOf content state.rounds).length =
            min ((state.rounds + 1) * Config.pushChunk) content.length := by
          rw [ready.sent_eq more, chunkOf_length, Nat.succ_mul]
          omega
        let next : Pushing :=
          { state with
            place := .reading
            sent := min ((state.rounds + 1) * Config.pushChunk) content.length
            rounds := state.rounds + 1
            calls := state.calls + count
            wire := content.take ((state.rounds + 1) * Config.pushChunk) }
        have passes := fun context : Context =>
          @pass_written env name
            { state with
              place := .writing (chunkOf content state.rounds) (chunkOf content state.rounds).length
              calls := state.calls + count
              wire := content.take ((state.rounds + 1) * Config.pushChunk)
              context }
            _ content.length rfl
        simp only [total] at passes
        have returns := fun context : Context =>
          @publishRound_returns_iff env name content valid state.rounds more
            (context.emit [.pushed (chunkOf content state.rounds)])
        by_cases updated : env.Updates content.length state.rounds →
            (env.publish state.rounds).createsDir = true
        · have shorter : content.length - (state.rounds + 1) * Config.pushChunk < remaining := by
            rw [Nat.succ_mul]
            omega
          obtain ⟨rest, ends⟩ := @later _ shorter next ⟨rfl, ready.good, rfl, rfl⟩ rfl
          refine ⟨env.chunkEnv state.rounds state.calls count :: rest, fun context => ?_⟩
          obtain ⟨published, publishes⟩ := (returns context).mpr updated
          obtain ⟨result, ⟨last, goes, leaves⟩, agrees, returns, exact⟩ := ends published
          have pass := passes context
          rw [publishes] at pass
          refine ⟨result, ⟨last, (visits context).trans (.head pass goes), leaves⟩, ?_, ?_, ?_⟩
          · change streamFile env.finish name content.length _ state.sent true context = _
            rw [ready.sent_eq more, streamFile_chunkEnv steady more carries, publishes]
            exact agrees
          · exact returns.trans (publishes_succ_iff updated).symm
          · exact exact.trans (persists_succ_iff updated).symm
        · refine ⟨[env.chunkEnv state.rounds state.calls count], fun context => ?_⟩
          have pass := passes context
          cases publishes : env.publishRound name content.length state.rounds
              (min ((state.rounds + 1) * Config.pushChunk) content.length)
              (context.emit [.pushed (chunkOf content state.rounds)]) with
          | returned published => exact absurd ((returns context).mp ⟨_, publishes⟩) updated
          | threw exception thrown =>
              rw [publishes] at pass
              exact (anywhere context).ends_thrown more carries steady updated (visits context)
                publishes pass

end Pushing

/-- The same surroundings with these chunks and this last status update of the push. -/
def HeaderFrame.streaming (frame : HeaderFrame) (env : StreamEnv) (chunks : List ChunkEnv) :
    HeaderFrame :=
  { frame with push := { frame.push with chunks, finish := env.finish } }

/-- The push of an unchanged file ends, as in the model with one record for each chunk; it returns
and has sent exactly the file if all its status updates find their folder, and it has sent exactly
the file if those in front of the last byte do. -/
theorem push_exact_iff (env : StreamEnv) (frame : HeaderFrame) (filename content : Bytes)
    (context : Context) (offers : frame.push.Offers content.length)
    (valid : Json.validUtf8 (baseName filename) = true) (steady : env.Steady content) :
    ∃ chunks result,
      Exits (streamPass env (baseName filename) content.length)
          (.start ((frame.streaming env chunks).promised filename content.length context)) result ∧
        pushFile (frame.streaming env chunks) filename context = result.outcome ∧
        (result.outcome.Returns ∧ result.wire = content ∧ result.sent = content.length ↔
          env.Publishes content.length 0) ∧
        (result.wire = content ∧ result.sent = content.length ↔ env.Persists content.length 0) := by
  obtain ⟨chunks, ends⟩ := (Pushing.ready_start content context).ends steady valid
  obtain ⟨result, exits, agrees, returns, exact⟩ :=
    ends ((frame.streaming env chunks).promised filename content.length context)
  refine ⟨chunks, result, exits, ?_, ?_, exact⟩
  · have still : (frame.streaming env chunks).push.Offers content.length :=
      ⟨offers.found, offers.regular, offers.fileSize, offers.nonempty, offers.opens⟩
    cases pushFile_exit (frame.streaming env chunks) filename context with
    | threw exception missing same => exact absurd still (missing _)
    | refused reply refusal missing same => exact absurd still (missing _)
    | streamed size found same =>
        obtain rfl := Except.ok.inj (still.fileSize.symm.trans found.fileSize)
        rw [same]
        exact agrees
  · constructor
    · exact fun done => returns.mp done.1
    · exact fun all =>
        ⟨returns.mpr all, exact.mpr fun later after updates _ => all.1 later after updates⟩

/-- A file in the drop folder whose pushes succeed. -/
def offeredFrame (size : Nat) : HeaderFrame :=
  let quiet := Env.quiet.header 0
  { quiet with push := ⟨.ok true, .ok true, .ok size, true, [], ⟨true, true⟩⟩ }

/-- The socket blocks once and then takes one byte after the other. -/
def trickling : StreamEnv where
  read := fun _ => ascii "abc"
  send := fun call => if call = 0 then .refused true true else .accepted 1
  due := fun _ => false
  publish := fun _ => ⟨true, true⟩
  finish := ⟨true, true⟩

theorem trickling_steady : trickling.Steady (ascii "abc") where
  reads round more := by
    obtain rfl : round = 0 := by
      have short : (ascii "abc").length < Config.pushChunk := by decide
      by_contra later
      have grown := Nat.mul_le_mul_right Config.pushChunk (Nat.pos_of_ne_zero later)
      omega
    decide
  sends call := by
    by_cases first : call = 0
    · exact .inl ⟨true, if_pos first⟩
    · exact .inr ⟨0, if_neg first⟩
  fair call := ⟨call + 1, Nat.le_succ call, 0, by simp [trickling]⟩

theorem push_exact_iff_trickling :
    ∃ chunks result,
      Exits (streamPass trickling (ascii "f") 3)
          (.start (((offeredFrame 3).streaming trickling chunks).promised (ascii "f") 3
            (pairedReceiver []).toContext)) result ∧
        result.outcome.Returns ∧ result.wire = ascii "abc" ∧ result.sent = 3 := by
  obtain ⟨chunks, result, exits, _, exact, _⟩ :=
    push_exact_iff trickling (offeredFrame 3) (ascii "f")
    (ascii "abc") (pairedReceiver []).toContext ⟨rfl, rfl, rfl, by decide, rfl⟩ (by decide)
    trickling_steady
  exact ⟨chunks, result, exits, exact.mpr ⟨fun _ _ _ => rfl, rfl⟩⟩

/-- A file with one byte more than a chunk. -/
def longFile : Bytes :=
  List.replicate (Config.pushChunk + 1) 0

/-- Every send goes through at once, but the folder of the status file is gone. -/
def folderless : StreamEnv where
  read := fun _ => List.replicate Config.pushChunk 0
  send := fun _ => .accepted Config.pushChunk
  due := fun _ => true
  publish := fun _ => ⟨false, false⟩
  finish := ⟨false, false⟩

theorem folderless_steady : folderless.Steady longFile where
  reads round more := by
    simp only [folderless, longFile, List.take_replicate, List.drop_replicate,
      List.length_replicate]
    congr 1
    omega
  sends _ := .inr ⟨131071, rfl⟩
  fair call := ⟨call, le_refl call, 131071, rfl⟩

/-- The first chunk is sent, and the status update behind it ends the push. -/
theorem push_not_exact :
    ¬ ∀ (env : StreamEnv) (frame : HeaderFrame) (filename content : Bytes) (context : Context),
      frame.push.Offers content.length → Json.validUtf8 (baseName filename) = true →
        env.Steady content →
          ∃ result, Exits (streamPass env (baseName filename) content.length)
              (.start (frame.promised filename content.length context)) result ∧
            result.wire = content ∧ result.sent = content.length := by
  intro claim
  let context := (pairedReceiver []).toContext
  have nonempty : longFile.length ≠ 0 := by
    rw [longFile, List.length_replicate]
    exact Nat.succ_ne_zero _
  obtain ⟨result, exits, exact⟩ :=
    claim folderless (offeredFrame longFile.length) (ascii "f") longFile
    context ⟨rfl, rfl, rfl, nonempty, rfl⟩ (by decide) folderless_steady
  have valid : Json.validUtf8 (baseName (ascii "f")) = true := by decide
  obtain ⟨_, ends⟩ := (Pushing.ready_start longFile context).ends folderless_steady valid
  obtain ⟨other, ⟨last, visits, leaves⟩, _, _, persists⟩ :=
    ends ((offeredFrame longFile.length).promised (ascii "f") longFile.length context)
  obtain rfl := exits.eq_of_leave visits leaves
  have updates : folderless.Updates longFile.length 0 := by
    refine ⟨?_, .inl rfl⟩
    rw [Nat.zero_mul]
    exact Nat.pos_of_ne_zero nonempty
  have short : (0 + 1) * Config.pushChunk < longFile.length := by
    rw [longFile, List.length_replicate]
    omega
  have creates := persists.mp exact 0 (le_refl 0) updates short
  cases creates

end TitanShare
