import TitanShare.Commands
import TitanShare.Library.Words

/-!
# The seat0 lookups

The lock command, `unlockSession` and the volume commands each search the session list for the
graphical session, two with a chained extraction into variables that survive from line to line, one
with a vector of tokens.  All three find the first line whose fourth word is `seat0`.
-/

namespace TitanShare

open ByteText Words

/-- The fourth word of the line is `seat0`. -/
def onSeat (line : Bytes) : Bool :=
  decide ((words isSpace line)[3]? = some (ascii "seat0"))

/-- The session id and the user of a line, its first and its third word. -/
def sessionOf (line : Bytes) : Bytes × Bytes :=
  ((words isSpace line)[0]?.getD [], (words isSpace line)[2]?.getD [])

/-- The session on seat0, if the listing succeeds. -/
def seatSession (listResult : ExecResult) : Option (Bytes × Bytes) :=
  if listResult.success then ((lines listResult.output).find? onSeat).map sessionOf else none

/-! ## One word at a time -/

theorem words_of_word_eq_none {text : Bytes} (none_left : word text = none) :
    words isSpace text = [] := by
  unfold word at none_left
  rw [← words_dropWhile]
  simp only at none_left
  split at none_left
  · rename_i blank
    rw [blank, words_nil]
  · cases none_left

theorem words_of_word_eq_some {text first rest : Bytes} (taken : word text = some (first, rest)) :
    words isSpace text = first :: words isSpace rest := by
  unfold word at taken
  rw [← words_dropWhile]
  simp only at taken
  split at taken
  · cases taken
  · rename_i something
    obtain ⟨rfl, rfl⟩ := Prod.mk.inj (Option.some.inj taken)
    cases body : text.dropWhile isSpace with
    | nil => exact absurd body something
    | cons head tail =>
        have solid : isSpace head = false := by
          have stops := List.head_dropWhile_not isSpace (l := text) something
          simpa [body] using stops
        exact words_eq_cons tail solid

theorem word_of_words_eq_cons {text first : Bytes} {more : List Bytes}
    (listed : words isSpace text = first :: more) :
    ∃ rest, word text = some (first, rest) ∧ words isSpace rest = more := by
  cases taken : word text with
  | none =>
      rw [words_of_word_eq_none taken] at listed
      cases listed
  | some pair =>
      obtain ⟨other, rest⟩ := pair
      rw [words_of_word_eq_some taken, List.cons.injEq] at listed
      exact ⟨rest, by rw [listed.1], listed.2⟩

/-- The token loop of `unlockSession` collects the words. -/
theorem wordsFrom_eq {current : Bytes} (solid : ∀ entry ∈ current, isSpace entry = false)
    (text : Bytes) : LockCommands.wordsFrom current text = words isSpace (current ++ text) := by
  induction text generalizing current with
  | nil =>
      rw [List.append_nil, LockCommands.wordsFrom]
      split
      · rename_i empty
        rw [empty, words_nil]
      · rename_i something
        exact (words_of_solid something solid).symm
  | cons head tail ih =>
      rw [LockCommands.wordsFrom]
      cases blank : isSpace head with
      | true =>
          rw [if_pos rfl, words_append_blank blank, ih (by simp), List.nil_append]
          split
          · rename_i empty
            rw [empty, words_nil, List.nil_append]
          · rename_i something
            rw [words_of_solid something solid, List.singleton_append]
      | false =>
          have longer : ∀ entry ∈ current ++ [head], isSpace entry = false := by
            intro entry member
            rcases List.mem_append.mp member with old | new
            · exact solid entry old
            · rw [List.mem_singleton.mp new, blank]
          rw [if_neg (by decide), ih longer, List.append_assoc, List.singleton_append]

/-! ## One line at a time -/

/-- The chained extraction assigns all four variables on a line of four words. -/
theorem extractSeat_long (vars : SeatVariables) {line id uid user seat : Bytes}
    {more : List Bytes} (long : words isSpace line = id :: uid :: user :: seat :: more) :
    extractSeat vars line = (⟨id, uid, user, seat⟩, true) := by
  obtain ⟨afterId, isId, later⟩ := word_of_words_eq_cons long
  obtain ⟨afterUid, isUid, later⟩ := word_of_words_eq_cons later
  obtain ⟨afterUser, isUser, later⟩ := word_of_words_eq_cons later
  obtain ⟨afterSeat, isSeat, _⟩ := word_of_words_eq_cons later
  simp only [extractSeat, isId, isUid, isUser, isSeat]

/-- On a shorter line it fails, whatever it leaves in the variables. -/
theorem extractSeat_short (vars : SeatVariables) {line : Bytes}
    (short : (words isSpace line).length < 4) : (extractSeat vars line).2 = false := by
  unfold extractSeat
  cases isId : word line with
  | none => rfl
  | some afterId =>
      rw [words_of_word_eq_some isId, List.length_cons] at short
      simp only
      cases isUid : word afterId.2 with
      | none => rfl
      | some afterUid =>
          rw [words_of_word_eq_some isUid, List.length_cons] at short
          simp only
          cases isUser : word afterUid.2 with
          | none => rfl
          | some afterUser =>
              rw [words_of_word_eq_some isUser, List.length_cons] at short
              simp only
              cases isSeat : word afterUser.2 with
              | none => rfl
              | some afterSeat =>
                  rw [words_of_word_eq_some isSeat, List.length_cons] at short
                  omega

/-- A line has four words and more, or it is too short to be on a seat. -/
theorem words_cases (line : Bytes) :
    (∃ id uid user seat more, words isSpace line = id :: uid :: user :: seat :: more) ∨
      (words isSpace line).length < 4 := by
  match words isSpace line with
  | [] | [_] | [_, _] | [_, _, _] => exact .inr (by simp)
  | id :: uid :: user :: seat :: more => exact .inl ⟨id, uid, user, seat, more, rfl⟩

theorem onSeat_long {line id uid user seat : Bytes} {more : List Bytes}
    (long : words isSpace line = id :: uid :: user :: seat :: more) :
    onSeat line = true ↔ seat = ascii "seat0" := by
  simp [onSeat, long]

theorem onSeat_short {line : Bytes} (short : (words isSpace line).length < 4) :
    onSeat line = false := by
  simp [onSeat, List.getElem?_eq_none (Nat.le_of_lt_succ short)]

theorem sessionOf_long {line id uid user seat : Bytes} {more : List Bytes}
    (long : words isSpace line = id :: uid :: user :: seat :: more) :
    sessionOf line = (id, user) := by
  simp [sessionOf, long]

/-- A line on a seat names a session and a user. -/
theorem sessionOf_ne_nil {line : Bytes} (found : onSeat line = true) :
    (sessionOf line).1 ≠ [] ∧ (sessionOf line).2 ≠ [] := by
  rcases words_cases line with ⟨id, uid, user, seat, more, long⟩ | short
  · rw [sessionOf_long long]
    exact ⟨@ne_nil_of_mem _ isSpace line id (by simp [long]),
      @ne_nil_of_mem _ isSpace line user (by simp [long])⟩
  · rw [onSeat_short short] at found
    cases found

/-! ## The three loops -/

/-- What the variables hold from earlier lines does not matter: they are looked at only when all of
them were assigned. -/
theorem findSeat_eq (vars : SeatVariables) (listing : List Bytes) :
    (findSeat vars listing).map (fun found => (found.id, found.user)) =
      (listing.find? onSeat).map sessionOf := by
  induction listing generalizing vars with
  | nil => rfl
  | cons line rest ih =>
      rw [findSeat]
      rcases words_cases line with ⟨id, uid, user, seat, more, long⟩ | short
      · simp only [extractSeat_long vars long]
        by_cases found : seat = ascii "seat0"
        · rw [if_pos ⟨trivial, found⟩, List.find?_cons_of_pos ((onSeat_long long).mpr found)]
          exact congrArg some (sessionOf_long long).symm
        · rw [if_neg fun both => found both.2,
            List.find?_cons_of_neg fun same => found ((onSeat_long long).mp same), ih]
      · simp only [extractSeat_short vars short]
        rw [if_neg (by simp), List.find?_cons_of_neg (by simp [onSeat_short short]), ih]

theorem findParts_eq (listing : List Bytes) :
    LockCommands.findParts listing = (listing.find? onSeat).map sessionOf := by
  induction listing with
  | nil => rfl
  | cons line rest ih =>
      have collected := @wordsFrom_eq [] (by simp) line
      rw [List.nil_append] at collected
      rw [LockCommands.findParts, collected]
      rcases words_cases line with ⟨id, uid, user, seat, more, long⟩ | short
      · simp only [long]
        by_cases found : seat = ascii "seat0"
        · rw [if_pos found, List.find?_cons_of_pos ((onSeat_long long).mpr found)]
          exact congrArg some (sessionOf_long long).symm
        · rw [if_neg found,
            List.find?_cons_of_neg fun same => found ((onSeat_long long).mp same), ih]
      · rw [List.find?_cons_of_neg (by simp [onSeat_short short]), ← ih]
        split
        · rename_i long
          simp [long] at short
          omega
        · rfl

/-! ## What the commands do with the session -/

/-- What the lock command runs for a session. -/
def lockCmd (env : CommandEnv) (sessionId sessionUser : Bytes) : Bytes :=
  (if env.root then ascii "runuser -u " ++ sessionUser ++ ascii " -- " else []) ++
    ascii "/usr/bin/loginctl lock-session " ++ sessionId

/-- An answer `CMD_FAIL` after the listing alone. -/
def noSession : Answer :=
  ⟨[.exec listSessions], .ok cmdFail⟩

/-- Lock, for the session of the listing. -/
def lockRun (env : CommandEnv) : Option (Bytes × Bytes) → Answer
  | none => noSession
  | some (sessionId, sessionUser) =>
      execAnswer env [.exec listSessions] (lockCmd env sessionId sessionUser)

/-- Unlock, for the session of the listing: it is unlocked and activated and its screen is woken, as
far as the threads for it start. -/
def unlockRun (env : CommandEnv) : Option (Bytes × Bytes) → Answer
  | none => noSession
  | some (sessionId, sessionUser) =>
      let unlocked : List Action :=
        [.exec listSessions, .exec (LockCommands.unlockCmd env sessionId sessionUser),
          .execDetached (LockCommands.activateCmd env sessionId sessionUser)]
      match env.detach (LockCommands.activateCmd env sessionId sessionUser) with
      | .error exception => ⟨unlocked, .error exception⟩
      | .ok () =>
          ⟨unlocked ++ [.execDetached (LockCommands.xsetCmd env sessionUser)],
            (env.detach (LockCommands.xsetCmd env sessionUser)).map fun _ => cmdOk⟩

/-- What a volume command runs behind its prefix. -/
def pactlCmd (cmd : Bytes) : Option Bytes :=
  if cmd = ascii "volume_up" then some (ascii "pactl set-sink-volume @DEFAULT_SINK@ +5%")
  else if cmd = ascii "volume_down" then some (ascii "pactl set-sink-volume @DEFAULT_SINK@ -5%")
  else if cmd = ascii "mute" then some (ascii "pactl set-sink-mute @DEFAULT_SINK@ toggle")
  else none

/-- In front of a volume command, for its user. -/
def runuserPrefix (env : CommandEnv) (sessionUser : Bytes) : Bytes :=
  if env.root then
    ascii "runuser -u " ++ sessionUser ++ ascii " -- env XDG_RUNTIME_DIR=/run/user/$(id -u " ++
      sessionUser ++ ascii ") "
  else []

/-- The user that volume takes, if there is no session the one of the source. -/
def seatUser (session : Option (Bytes × Bytes)) : Bytes :=
  (session.map Prod.snd).getD (ascii "msfvenom")

/-- Volume, for the session of the listing. -/
def volumeRun (env : CommandEnv) (cmd : Bytes) (session : Option (Bytes × Bytes)) : Answer :=
  match pactlCmd cmd with
  | none => ⟨[.exec listSessions], .ok cmdUnknown⟩
  | some sysCmd =>
      execAnswer env [.exec listSessions] (runuserPrefix env (seatUser session) ++ sysCmd)

/-- The result of the loop of lock and volume, with fresh variables. -/
def listedSeat (env : CommandEnv) : Option SeatVariables :=
  if (env.exec listSessions).success then
    findSeat ⟨[], [], [], []⟩ (lines (env.exec listSessions).output)
  else none

theorem listedSeat_eq (env : CommandEnv) :
    (listedSeat env).map (fun found => (found.id, found.user)) =
      seatSession (env.exec listSessions) := by
  unfold listedSeat seatSession
  split
  · exact findSeat_eq _ _
  · rfl

theorem seatSession_ne_nil {listResult : ExecResult} {sessionId sessionUser : Bytes}
    (found : seatSession listResult = some (sessionId, sessionUser)) :
    sessionId ≠ [] ∧ sessionUser ≠ [] := by
  unfold seatSession at found
  split at found
  · obtain ⟨line, isFirst, names⟩ := Option.map_eq_some_iff.mp found
    have nonempty := sessionOf_ne_nil (List.find?_some isFirst)
    rwa [names] at nonempty
  · cases found

/-- What lock answers to the result of its loop. -/
def lockFound (env : CommandEnv) : Option SeatVariables → Answer
  | none => noSession
  | some vars =>
      if vars.id = [] then noSession
      else execAnswer env [.exec listSessions] (lockCmd env vars.id vars.user)

/-- The user that volume takes from the result of its loop. -/
def volumeFound : Option SeatVariables → Bytes
  | none => ascii "msfvenom"
  | some vars => vars.user

theorem lock_eq (env : CommandEnv) :
    LockCommands.execute env (ascii "lock") =
      lockRun env (seatSession (env.exec listSessions)) := by
  have seat := listedSeat_eq env
  change lockFound env (listedSeat env) = _
  cases found : listedSeat env with
  | none =>
      rw [found] at seat
      rw [← seat]
      rfl
  | some vars =>
      rw [found] at seat
      have nonempty := (seatSession_ne_nil seat.symm).1
      rw [← seat]
      simp only [lockFound, Option.map_some, lockRun, if_neg nonempty]

theorem unlockTarget_eq (env : CommandEnv) :
    LockCommands.unlockTarget env = seatSession (env.exec listSessions) := by
  have nonempty := fun sessionId sessionUser =>
    @seatSession_ne_nil (env.exec listSessions) sessionId sessionUser
  unfold LockCommands.unlockTarget
  unfold seatSession at nonempty ⊢
  simp only [findParts_eq]
  split
  · rename_i listed
    simp only [if_pos listed] at nonempty
    generalize ((lines (env.exec listSessions).output).find? onSeat).map sessionOf = found
      at nonempty ⊢
    cases found with
    | none => rfl
    | some session =>
        obtain ⟨sessionId, sessionUser⟩ := session
        obtain ⟨named, owned⟩ := nonempty sessionId sessionUser rfl
        simp [named, owned]
  · rfl

theorem unlock_eq (env : CommandEnv) :
    LockCommands.unlockSession env = unlockRun env (seatSession (env.exec listSessions)) := by
  rw [LockCommands.unlockSession, unlockTarget_eq]
  cases seatSession (env.exec listSessions) with
  | none => rfl
  | some session => rfl

theorem sessionUser_eq (env : CommandEnv) :
    VolumeCommands.sessionUser env = seatUser (seatSession (env.exec listSessions)) := by
  have seat := listedSeat_eq env
  change volumeFound (listedSeat env) = _
  rw [← seat]
  cases listedSeat env with
  | none => rfl
  | some vars => rfl

theorem volume_eq (env : CommandEnv) (cmd : Bytes) :
    VolumeCommands.execute env cmd =
      volumeRun env cmd (seatSession (env.exec listSessions)) := by
  simp only [VolumeCommands.execute, sessionUser_eq, volumeRun, pactlCmd]
  split
  · rfl
  · split
    · rfl
    · split
      · rfl
      · rfl

/-- The lock command, `unlockSession` and the volume commands take their session from the same line,
the first one whose fourth word is `seat0`: what each of them runs and answers is a function of that
session.  Volume takes its fallback user exactly when lock and unlock answer that there is no
session. -/
theorem seat_lookups_agree (env : CommandEnv) :
    LockCommands.execute env (ascii "lock") = lockRun env (seatSession (env.exec listSessions)) ∧
      LockCommands.execute env (ascii "unlock") =
        unlockRun env (seatSession (env.exec listSessions)) ∧
      (∀ cmd, VolumeCommands.execute env cmd =
        volumeRun env cmd (seatSession (env.exec listSessions))) ∧
      (listedSeat env).map (fun found => (found.id, found.user)) =
        seatSession (env.exec listSessions) ∧
      (listedSeat env = none ↔ LockCommands.execute env (ascii "lock") = noSession) ∧
      (listedSeat env = none ↔ LockCommands.unlockSession env = noSession) := by
  have unlock : LockCommands.execute env (ascii "unlock") = LockCommands.unlockSession env := by
    rw [LockCommands.execute, if_neg (by decide), if_pos rfl]
  refine ⟨lock_eq env, unlock.trans (unlock_eq env), volume_eq env, listedSeat_eq env, ?_, ?_⟩
  · rw [lock_eq, ← listedSeat_eq]
    cases listedSeat env with
    | none => simp [lockRun]
    | some vars => simp [lockRun, execAnswer, noSession]
  · rw [unlock_eq, ← listedSeat_eq]
    cases listedSeat env with
    | none => simp [unlockRun]
    | some vars =>
        simp only [Option.map_some, unlockRun]
        split <;> simp [noSession]

end TitanShare
