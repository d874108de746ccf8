import Mathlib.Algebra.Order.BigOperators.Group.List
import TitanShare.Library.ByteText
import TitanShare.Library.LengthPrefix
import TitanShare.Library.PassLoop

/-!
# The mirror receiver

The worker of the screen mirror reads length-prefixed frames from its connection and pushes every
payload to the appsrc.  It is run from the point where the connection is accepted and the pipeline
is built, against what `recv` or `SSL_read`, `stop` and GStreamer do.
-/

namespace TitanShare

/-- The mirror connection: the bytes that arrive before its end or an error, and how many of them
the successive read calls return.  A call returns at least one byte, and all it may where none are
left in the list. -/
structure Connection where
  unread : Bytes
  pieces : List Nat

namespace Connection

/-- The number of bytes a read call asks for; `SSL_read` takes it as an `int`. -/
def requested (ssl : Bool) (missing : Nat) : Int :=
  if ssl then (Int32.ofNat missing).toInt else missing

/-- One `SSL_read` or `recv`; no result stands for a return value that is not positive. -/
def read (ssl : Bool) (missing : Nat) (connection : Connection) : Option (Bytes × Connection) :=
  let most := min (requested ssl missing).toNat connection.unread.length
  let count := min (max 1 (connection.pieces.headD most)) most
  if count = 0 then none
  else
    some (connection.unread.take count,
      { unread := connection.unread.drop count, pieces := connection.pieces.tail })

/-- A buffer that is being filled. -/
structure Filling where
  got : Bytes
  connection : Connection

/-- One pass of the loop of `readExact`. -/
def fill (ssl : Bool) (count : Nat) (filling : Filling) :
    PassLoop.Pass Filling (Option (Bytes × Connection)) :=
  if filling.got.length < count then
    match filling.connection.read ssl (count - filling.got.length) with
    | none => .leave none
    | some (bytes, connection) => .again { got := filling.got ++ bytes, connection }
  else .leave (some (filling.got, filling.connection))

/-- Read `count` bytes, or fail at the end of the stream or an error. -/
def readExact (ssl : Bool) (count : Nat) (connection : Connection) : Option (Bytes × Connection) :=
  PassLoop.run (fill ssl count) (fun _ => none) (count + 1) { got := [], connection }

/-- The outcome of a read of `count` bytes: all of them from the front of the stream, or the stream
is shorter. -/
def Exact (count : Nat) (unread : Bytes) : Option (Bytes × Connection) → Prop
  | none => unread.length < count
  | some (bytes, next) => bytes.length = count ∧ unread = bytes ++ next.unread

variable {ssl : Bool} {missing count : Nat} {connection next : Connection} {bytes : Bytes}

theorem requested_eq (small : missing < 2 ^ 31) : requested ssl missing = missing := by
  cases ssl with
  | false => rfl
  | true => exact Int32.toInt_ofNat_of_lt small

theorem read_some (found : connection.read ssl missing = some (bytes, next))
    (small : missing < 2 ^ 31) :
    bytes ≠ [] ∧ bytes.length ≤ missing ∧ connection.unread = bytes ++ next.unread := by
  simp only [read, requested_eq small, Int.toNat_natCast] at found
  split at found
  case isTrue => cases found
  case isFalse positive =>
      obtain ⟨rfl, rfl⟩ := Prod.mk.inj (Option.some.inj found)
      refine ⟨?_, ?_, (List.take_append_drop _ _).symm⟩
      · apply List.ne_nil_of_length_pos
        rw [List.length_take]
        omega
      · rw [List.length_take]
        omega

theorem read_none (failed : connection.read ssl missing = none) (small : missing < 2 ^ 31)
    (positive : 0 < missing) : connection.unread = [] := by
  simp only [read, requested_eq small, Int.toNat_natCast] at failed
  split at failed
  case isFalse => cases failed
  case isTrue nothing =>
      apply List.eq_nil_of_length_eq_zero
      omega

/-- The bytes gathered so far are the front of the stream. -/
structure Filling.Sound (count : Nat) (unread : Bytes) (filling : Filling) : Prop where
  short : filling.got.length ≤ count
  split : unread = filling.got ++ filling.connection.unread

variable {unread : Bytes} {before after : Filling}

theorem Filling.Sound.fill_again (sound : before.Sound count unread) (small : count < 2 ^ 31)
    (pass : PassLoop.Goes (fill ssl count) before after) : after.Sound count unread := by
  simp only [PassLoop.Goes, fill] at pass
  split at pass
  case isFalse => cases pass
  case isTrue more =>
      cases found : before.connection.read ssl (count - before.got.length) with
      | none => simp [found] at pass
      | some result =>
          obtain ⟨bytes, connection⟩ := result
          obtain ⟨_, few, front⟩ := read_some found (by omega)
          simp only [found] at pass
          obtain rfl := PassLoop.Pass.again.inj pass
          refine ⟨?_, ?_⟩
          · simp only [List.length_append]
            omega
          · simp only [List.append_assoc, ← front]
            exact sound.split

theorem Filling.Sound.fill_leave (sound : before.Sound count unread) (small : count < 2 ^ 31)
    {result : Option (Bytes × Connection)} (pass : fill ssl count before = .leave result) :
    Exact count unread result := by
  simp only [fill] at pass
  split at pass
  case isFalse full =>
      obtain rfl := PassLoop.Pass.leave.inj pass
      have short := sound.short
      exact ⟨by omega, sound.split⟩
  case isTrue more =>
      cases found : before.connection.read ssl (count - before.got.length) with
      | some result => simp [found] at pass
      | none =>
          have ended := read_none found (by omega) (by omega)
          simp only [found] at pass
          obtain rfl := PassLoop.Pass.leave.inj pass
          have split := sound.split
          rw [ended, List.append_nil] at split
          simpa only [Exact, split] using more

theorem fill_decreasing (small : count < 2 ^ 31)
    (pass : PassLoop.Goes (fill ssl count) before after) :
    count - after.got.length < count - before.got.length := by
  simp only [PassLoop.Goes, fill] at pass
  split at pass
  case isFalse => cases pass
  case isTrue more =>
      cases found : before.connection.read ssl (count - before.got.length) with
      | none => simp [found] at pass
      | some result =>
          obtain ⟨bytes, connection⟩ := result
          obtain ⟨something, _, _⟩ := read_some found (by omega)
          have positive := List.length_pos_of_ne_nil something
          simp only [found] at pass
          obtain rfl := PassLoop.Pass.again.inj pass
          simp only [List.length_append]
          omega

/-- However the reads cut the stream, `readExact` takes the bytes it is asked for from its front. -/
theorem readExact_exact (ssl : Bool) (connection : Connection) (small : count < 2 ^ 31) :
    Exact count connection.unread (connection.readExact ssl count) := by
  have exits : PassLoop.Exits (fill ssl count) { got := [], connection }
      (connection.readExact ssl count) :=
    PassLoop.run_exits _ (fun filling => count - filling.got.length) (fill_decreasing small)
      (by simp)
  have start : Filling.Sound count connection.unread { got := [], connection } :=
    ⟨Nat.zero_le _, rfl⟩
  have step : ∀ {before after}, before.Sound count connection.unread →
      PassLoop.Goes (fill ssl count) before after → after.Sound count connection.unread :=
    fun sound pass => sound.fill_again small pass
  exact exits.keeps step (fun sound leaves => sound.fill_leave small leaves) start

end Connection

/-- The constant `MAX_FRAME_BYTES`, an `int`. -/
def maxFrameBytes : Int32 := 24 * 1024 * 1024

/-- The value of `GST_FLOW_OK`. -/
def gstFlowOk : Int := 0

/-- The frames of the mirror stream. -/
def mirrorFrames : FrameFormat where
  width := 4
  limit := maxFrameBytes.toUInt32.toNat
  representable := by decide

namespace MirrorReceiver

/-- What the worker meets. -/
structure Surroundings where
  /-- Whether the connection carries TLS. -/
  ssl : Bool
  /-- The value of `m_running` that each pass loads; `stop` clears it. -/
  running : Nat → Bool
  /-- Whether `gst_buffer_new_allocate` returns a buffer in each pass. -/
  allocates : Nat → Bool
  /-- The result of each call of `gst_app_src_push_buffer`. -/
  flow : Nat → Int

/-- The worker between two passes. -/
structure Worker where
  connection : Connection
  passes : Nat
  /-- The payloads pushed to the appsrc. -/
  pushed : List Bytes
  /-- The counter `m_frames`. -/
  frames : Nat

/-- The length assembled from the four header bytes. -/
def frameLength (hdr : Bytes) : UInt32 :=
  ((hdr.getD 0 0).toUInt32 <<< 24) ||| ((hdr.getD 1 0).toUInt32 <<< 16) |||
    ((hdr.getD 2 0).toUInt32 <<< 8) ||| (hdr.getD 3 0).toUInt32

/-- Push a payload to the appsrc. -/
def push (env : Surroundings) (payload : Bytes) (worker : Worker) : Worker :=
  { worker with
    pushed := worker.pushed ++ [payload]
    frames :=
      if env.flow worker.pushed.length = gstFlowOk then worker.frames + 1 else worker.frames }

/-- One pass of the read and push loop. -/
def pass (env : Surroundings) (worker : Worker) : PassLoop.Pass Worker (Option Worker) :=
  if env.running worker.passes then
    match worker.connection.readExact env.ssl 4 with
    | none => .leave (some worker)
    | some (hdr, behind) =>
        let len := frameLength hdr
        if len = 0 ∨ maxFrameBytes.toUInt32 < len then .leave (some worker)
        else
          match behind.readExact env.ssl len.toNat with
          | none => .leave (some worker)
          | some (payload, connection) =>
              let next : Worker := { worker with connection, passes := worker.passes + 1 }
              if env.allocates worker.passes then .again (push env payload next)
              else .again next
  else .leave (some worker)

/-- The worker before its first pass. -/
def initial (connection : Connection) : Worker :=
  { connection, passes := 0, pushed := [], frames := 0 }

/-- The worker as it leaves the loop. -/
def run (env : Surroundings) (connection : Connection) : Option Worker :=
  PassLoop.run (pass env) (fun _ => none) (connection.unread.length + 1) (initial connection)

variable {env : Surroundings}

/-- Bytes below the lowest bit of what stands to their left are added by a disjunction. -/
theorem or_eq_add {low width : Nat} (high : Nat) (small : low < 2 ^ width) :
    (high * 2 ^ width ||| low) = high * 2 ^ width + low := by
  rw [mul_comm, Nat.two_pow_add_eq_or_of_lt small]

theorem frameLength_toNat {hdr : Bytes} (four : hdr.length = 4) :
    (frameLength hdr).toNat = BigEndian.value hdr := by
  obtain ⟨first, second, third, fourth, rfl⟩ : ∃ first second third fourth,
      hdr = [first, second, third, fourth] := by
    match hdr, four with
    | [first, second, third, fourth], _ => exact ⟨first, second, third, fourth, rfl⟩
  have firstSmall : first.toNat < 256 := first.toNat_lt
  have secondSmall : second.toNat < 256 := second.toNat_lt
  have thirdSmall : third.toNat < 256 := third.toNat_lt
  have fourthSmall : fourth.toNat < 256 := fourth.toNat_lt
  have shifted : (frameLength [first, second, third, fourth]).toNat =
      first.toNat * 2 ^ 24 ||| second.toNat * 2 ^ 16 ||| third.toNat * 2 ^ 8 ||| fourth.toNat := by
    simp only [frameLength, List.getD_cons_zero, List.getD_cons_succ, UInt32.toNat_or,
      UInt32.toNat_shiftLeft, UInt8.toNat_toUInt32, Nat.shiftLeft_eq, UInt32.toNat_ofNat]
    norm_num
    rw [Nat.mod_eq_of_lt (by omega), Nat.mod_eq_of_lt (by omega), Nat.mod_eq_of_lt (by omega)]
  have two : (first.toNat * 2 ^ 24 ||| second.toNat * 2 ^ 16) =
      (first.toNat * 256 + second.toNat) * 2 ^ 16 := by
    rw [or_eq_add first.toNat (by omega)]
    ring
  have three : ((first.toNat * 256 + second.toNat) * 2 ^ 16 ||| third.toNat * 2 ^ 8) =
      ((first.toNat * 256 + second.toNat) * 256 + third.toNat) * 2 ^ 8 := by
    rw [or_eq_add _ (by omega)]
    ring
  rw [shifted, two, three, or_eq_add _ (by omega)]
  simp [BigEndian.value]

/-- The test of the length lets exactly the allowed lengths through. -/
theorem refused_iff (len : UInt32) :
    (len = 0 ∨ maxFrameBytes.toUInt32 < len) ↔
      ¬ (1 ≤ len.toNat ∧ len.toNat ≤ mirrorFrames.limit) := by
  have zero : len = 0 ↔ len.toNat = 0 := by
    rw [← UInt32.toNat_inj, UInt32.toNat_zero]
  rw [zero, UInt32.lt_iff_toNat_lt]
  simp only [mirrorFrames]
  omega

/-- What a worker becomes with the frame at the front of its stream. -/
def taken (env : Surroundings) (payload : Bytes) (connection : Connection) (worker : Worker) :
    Worker :=
  let next : Worker := { worker with connection, passes := worker.passes + 1 }
  if env.allocates worker.passes then push env payload next else next

/-- What one pass does. -/
inductive Passes (env : Surroundings) (worker : Worker) :
    PassLoop.Pass Worker (Option Worker) → Prop
  | stopped (cleared : env.running worker.passes = false) : Passes env worker (.leave (some worker))
  | stuck (none : mirrorFrames.parse worker.connection.unread = none) :
      Passes env worker (.leave (some worker))
  | frame (payload : Bytes) (connection : Connection) (fits : mirrorFrames.Fits payload)
      (front : worker.connection.unread = mirrorFrames.encode payload ++ connection.unread) :
      Passes env worker (.again (taken env payload connection worker))

theorem pass_passes (env : Surroundings) (worker : Worker) :
    Passes env worker (pass env worker) := by
  cases running : env.running worker.passes with
  | false =>
      simp only [pass, running, Bool.false_eq_true, if_false]
      exact .stopped running
  | true =>
      have headerRead := worker.connection.readExact_exact env.ssl (by decide : 4 < 2 ^ 31)
      cases header : worker.connection.readExact env.ssl 4 with
      | none =>
          rw [header] at headerRead
          simp only [pass, running, if_true, header]
          exact .stuck (FrameFormat.parse_short headerRead)
      | some result =>
          obtain ⟨hdr, behind⟩ := result
          rw [header] at headerRead
          obtain ⟨four, front⟩ := headerRead
          have length := frameLength_toNat four
          have parsed : mirrorFrames.parse (hdr ++ behind.unread) = _ :=
            FrameFormat.parse_header four
          rw [← front, ← length] at parsed
          simp only [pass, running, if_true, header]
          split
          case isTrue refused =>
              rw [refused_iff] at refused
              refine .stuck ?_
              rw [parsed, if_neg]
              rintro ⟨positive, limited, _⟩
              exact refused ⟨positive, limited⟩
          case isFalse accepted =>
              rw [refused_iff, not_not] at accepted
              obtain ⟨positive, limited⟩ := accepted
              have bounded : (frameLength hdr).toNat ≤ 24 * 1024 * 1024 := limited
              have small : (frameLength hdr).toNat < 2 ^ 31 := by omega
              have payloadRead := behind.readExact_exact env.ssl small
              cases payload : behind.readExact env.ssl (frameLength hdr).toNat with
              | none =>
                  rw [payload] at payloadRead
                  have short : behind.unread.length < (frameLength hdr).toNat := payloadRead
                  refine .stuck ?_
                  rw [parsed, if_neg]
                  rintro ⟨_, _, covered⟩
                  omega
              | some result =>
                  obtain ⟨bytes, connection⟩ := result
                  rw [payload] at payloadRead
                  obtain ⟨whole, split⟩ := payloadRead
                  have fits : mirrorFrames.Fits bytes := by
                    rw [FrameFormat.Fits, whole]
                    exact ⟨positive, limited⟩
                  have encoded : hdr = BigEndian.encode mirrorFrames.width bytes.length := by
                    rw [whole, length]
                    exact (four ▸ BigEndian.encode_value hdr).symm
                  have split_front : worker.connection.unread =
                      mirrorFrames.encode bytes ++ connection.unread := by
                    rw [front, split, FrameFormat.encode, ← encoded, List.append_assoc]
                  have taking : Passes env worker (.again (taken env bytes connection worker)) :=
                    .frame bytes connection fits split_front
                  simp only [taken, apply_ite (PassLoop.Pass.again (ρ := Option Worker))] at taking
                  exact taking

/-- What the worker has pushed and counted, and what it has left of the stream. -/
structure Sound (env : Surroundings) (stream : Bytes) (worker : Worker) : Prop where
  fits : ∀ payload ∈ worker.pushed, mirrorFrames.Fits payload
  split : stream = mirrorFrames.encodeAll worker.pushed ++ worker.connection.unread
  counted : worker.frames =
    (List.range worker.pushed.length).countP fun number => env.flow number = gstFlowOk

variable {stream : Bytes} {before after : Worker}

theorem Sound.again (allocates : ∀ number, env.allocates number = true)
    (sound : Sound env stream before) (goes : PassLoop.Goes (pass env) before after) :
    Sound env stream after := by
  have passes := pass_passes env before
  rw [PassLoop.Goes] at goes
  rw [goes] at passes
  cases passes with
  | frame payload connection fits front =>
      simp only [taken, allocates, if_true]
      refine ⟨?_, ?_, ?_⟩
      · intro each member
        rcases List.mem_append.mp member with earlier | last
        · exact sound.fits each earlier
        · rw [List.mem_singleton.mp last]
          exact fits
      · simp only [push]
        rw [FrameFormat.encodeAll_concat, List.append_assoc, ← front]
        exact sound.split
      · simp only [push, List.length_append, List.length_singleton, List.range_succ,
          List.countP_append, ← sound.counted, List.countP_singleton, decide_eq_true_eq]
        split <;> rfl

theorem Sound.leave (running : ∀ number, env.running number = true)
    (sound : Sound env stream before) {result : Option Worker}
    (leaves : pass env before = .leave result) :
    ∃ final, result = some final ∧ Sound env stream final ∧
      mirrorFrames.parse final.connection.unread = none := by
  have passes := pass_passes env before
  rw [leaves] at passes
  cases passes with
  | stopped cleared =>
      rw [running] at cleared
      cases cleared
  | stuck none => exact ⟨before, rfl, sound, none⟩

theorem pass_decreasing (goes : PassLoop.Goes (pass env) before after) :
    after.connection.unread.length < before.connection.unread.length := by
  have passes := pass_passes env before
  rw [PassLoop.Goes] at goes
  rw [goes] at passes
  cases passes with
  | frame payload connection fits front =>
      have positive : 1 ≤ payload.length := fits.1
      have connected : (taken env payload connection before).connection = connection := by
        simp only [taken]
        split <;> rfl
      rw [connected, front]
      simp only [FrameFormat.encode, List.length_append]
      omega

/-- The worker pushes exactly the payloads of the longest prefix of complete frames, and then
ends. -/
theorem mirror_decodes (env : Surroundings) (connection : Connection)
    (running : ∀ number, env.running number = true)
    (allocates : ∀ number, env.allocates number = true) :
    ∃ final rest,
      run env connection = some final ∧
      (∀ payload ∈ final.pushed, mirrorFrames.Fits payload) ∧
      connection.unread = mirrorFrames.encodeAll final.pushed ++ rest ∧
      mirrorFrames.parse rest = none ∧
      (∀ payloads, (∀ payload ∈ payloads, mirrorFrames.Fits payload) →
        mirrorFrames.encodeAll payloads <+: connection.unread → payloads <+: final.pushed) ∧
      (∀ payloads, (∀ payload ∈ payloads, mirrorFrames.Fits payload) →
        connection.unread = mirrorFrames.encodeAll payloads → final.pushed = payloads) ∧
      final.frames =
        (List.range final.pushed.length).countP fun number => env.flow number = gstFlowOk := by
  have exits : PassLoop.Exits (pass env) (initial connection) (run env connection) :=
    PassLoop.run_exits _ (fun worker => worker.connection.unread.length) pass_decreasing
      (Nat.lt_succ_self _)
  have start : Sound env connection.unread (initial connection) :=
    ⟨by simp [initial], by simp [initial], by simp [initial]⟩
  have step : ∀ {before after}, Sound env connection.unread before →
      PassLoop.Goes (pass env) before after → Sound env connection.unread after :=
    fun sound goes => sound.again allocates goes
  obtain ⟨final, result, sound, stuck⟩ := exits.keeps step
    (fun sound leaves => sound.leave running leaves) start
  have decodes : mirrorFrames.Decodes connection.unread final.pushed final.connection.unread :=
    ⟨sound.fits, sound.split, stuck⟩
  refine ⟨final, final.connection.unread, result, sound.fits, sound.split, stuck, ?_, ?_,
    sound.counted⟩
  · intro payloads fits front
    exact decodes.longest fits front
  · intro payloads fits same
    rw [same] at decodes
    exact decodes.eq_of_encodeAll fits

/-- The surroundings of a receiver that is not stopped and whose buffers are allocated. -/
def undisturbed (ssl : Bool) (flow : Nat → Int) : Surroundings :=
  { ssl, running := fun _ => true, allocates := fun _ => true, flow }

theorem mirror_decodes_two_frames :
    ∃ final,
      run (undisturbed true fun number => if number = 0 then -2 else gstFlowOk)
        { unread := [0, 0, 0, 1, 255, 0, 0, 0, 2, 1, 2], pieces := [1, 2, 1] } = some final ∧
      final.pushed = [[255], [1, 2]] ∧ final.frames = 1 := by
  obtain ⟨final, rest, result, _, _, _, _, exact, counted⟩ :=
    mirror_decodes (undisturbed true fun number => if number = 0 then -2 else gstFlowOk)
      { unread := [0, 0, 0, 1, 255, 0, 0, 0, 2, 1, 2], pieces := [1, 2, 1] }
      (fun _ => rfl) (fun _ => rfl)
  have pushed : final.pushed = [[255], [1, 2]] := by
    refine exact _ ?_ (by decide)
    intro payload member
    have small : payload.length ≤ 2 ∧ 1 ≤ payload.length := by
      rcases List.mem_cons.mp member with rfl | later
      · decide
      · rw [List.mem_singleton.mp later]
        decide
    have limit : mirrorFrames.limit = 24 * 1024 * 1024 := rfl
    exact ⟨small.2, by omega⟩
  rw [pushed] at counted
  exact ⟨final, result, pushed, counted⟩

end MirrorReceiver
end TitanShare
