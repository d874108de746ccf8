import TitanShare.AuthGrammar
import TitanShare.AuthIsolation
import TitanShare.Library.Numerals
import TitanShare.PinWindow
import TitanShare.UploadHeader

/-!
# The persisted pairing PIN

A PIN that `generatePin` draws is a number of `pairingPinDigits` digits.  The one that
`loadPersistedSession` finds in the session file is whatever text stands there.
-/

namespace TitanShare

open ByteText

/-- The JSON values that `loadPersistedSession` tells apart. -/
inductive JsonValue
  | string (text : Bytes)
  | object (members : List (Bytes × JsonValue))
  | other

/-- `j["pin"].get<std::string>()`, behind `j.contains("pin")`; `get` throws for other values. -/
def JsonValue.pin : JsonValue → Option Bytes
  | object members =>
      match members.lookup (ascii "pin") with
      | some (string text) => some text
      | _ => none
  | _ => none

/-- The session file as `loadPersistedSession` finds it. -/
inductive SessionFile
  | missing
  /-- `exists` throws or the file cannot be opened. -/
  | unreadable
  | holds (content : Bytes)

/-- `SessionManager::loadPersistedSession`, with the PIN it installs; `parse` is `json::parse`,
which throws for other texts than JSON. -/
def loadPersistedSession (parse : Bytes → Option JsonValue) : SessionFile → Option Bytes
  | .missing => none
  | .unreadable => none
  | .holds content => (parse content).bind JsonValue.pin

/-- `minVal` of `generatePin`. -/
def lowestPin : Nat :=
  (List.range (Config.pairingPinDigits - 1)).foldl (fun value _ => value * 10) 1

/-- `maxVal` of `generatePin`. -/
def highestPin : Nat :=
  lowestPin * 10 - 1

/-- A number of the distribution that `generatePin` draws from. -/
structure PinDraw where
  value : Nat
  low : lowestPin ≤ value
  high : value ≤ highestPin

/-- `SessionManager::generatePin` -/
def generatePin (draw : PinDraw) : Bytes :=
  decimal draw.value

/-- One call of `generateSession`: its argument, the session file it finds, and its draw. -/
structure PinCall where
  preservePin : Bool
  file : SessionFile
  draw : PinDraw

def PinCall.rotation (parse : Bytes → Option JsonValue) (call : PinCall) : Rotation where
  preservePin := call.preservePin
  persisted := loadPersistedSession parse call.file
  generated := generatePin call.draw

/-- The manager after some calls. -/
def SessionManager.called (parse : Bytes → Option JsonValue) (calls : List PinCall) :
    SessionManager :=
  (calls.map (PinCall.rotation parse)).foldl rotate initial

/-! ## Well-formed PINs -/

/-- A PIN of the right number of digits without a leading zero. -/
def IsPairingPin (text : Bytes) : Prop :=
  IsPin text ∧ text.head? ≠ some (byte '0')

instance (text : Bytes) : Decidable (IsPairingPin text) := by
  unfold IsPairingPin
  infer_instance

theorem isPairingPin_generatePin (draw : PinDraw) : IsPairingPin (generatePin draw) := by
  have low : 10 ^ 5 ≤ draw.value := draw.low
  have high : draw.value < 10 ^ (5 + 1) := Nat.lt_of_le_pred (by decide) draw.high
  exact ⟨⟨length_decimal low high, isDigit_of_mem_decimal⟩, head_decimal (by omega)⟩

/-- The manager knows pairing PINs only, and only their lines are answered `AUTH_OK` while the
window is what it is. -/
structure OnlyPins (manager : SessionManager) : Prop where
  current : IsPairingPin manager.currentKey
  window : ∀ pin ∈ manager.recentPins, IsPairingPin pin
  answers : ∀ (frame : AuthFrame) (line : Bytes) (context : Context),
    frame.check.rotations = [] → frame.guess.rotations = [] →
      context.world.manager.recentPins = manager.recentPins →
        Answers context (.returned (handleAuth frame line context)) .authOk →
          IsPairingPin (normalisePin line)

/-- A line that is answered `AUTH_OK` holds a PIN of the window. -/
theorem mem_of_answers {frame : AuthFrame} {line : Bytes} {context : Context}
    (check : frame.check.rotations = []) (guess : frame.guess.rotations = [])
    (answers : Answers context (.returned (handleAuth frame line context)) .authOk) :
    normalisePin line ∈ context.world.manager.recentPins := by
  obtain ⟨after, earlier, last, same, ends⟩ := answers
  obtain rfl := Outcome.returned.inj same
  have accepted : ∀ {added}, (handleAuth frame line context).trace = context.trace ++ added →
      .reply .authOk ∈ added := by
    intro added trace
    rw [List.append_cancel_left (trace.symm.trans ends)]
    simp
  cases handleAuth_step frame line context with
  | blocked isBlocked world session sent trace =>
      have member := accepted trace
      simp at member
  | refused unblocked guessed isFree isWrong world closed closes session window sent trace =>
      have member := accepted (trace.trans (List.append_assoc _ _ _))
      cases closed <;> simp at member
  | accepted unblocked guessed isFree isValid world session member sent trace =>
      have valid : normalisePin line ∈ (unblocked.advance frame.guess).manager.recentPins :=
        decide_eq_true_iff.mp (congrArg Prod.fst isValid)
      have stays : unblocked.manager.recentPins = context.world.manager.recentPins := by
        have reached : (context.world.checkIp frame.check context.session.remoteIp).2 = unblocked :=
          congrArg Prod.snd isFree
        rw [← reached]
        simp [World.checkIp, World.advance, check]
      rw [← stays]
      simpa [World.advance, guess] using valid

theorem onlyPins_iff {manager : SessionManager} :
    OnlyPins manager ↔
      IsPairingPin manager.currentKey ∧ ∀ pin ∈ manager.recentPins, IsPairingPin pin := by
  refine ⟨fun only => ⟨only.current, only.window⟩, fun ⟨current, window⟩ => ⟨current, window, ?_⟩⟩
  intro frame line context check guess same answers
  apply window
  rw [← same]
  exact mem_of_answers check guess answers

/-! ## Runs of calls -/

namespace SessionManager

variable {parse : Bytes → Option JsonValue}

theorem called_concat (calls : List PinCall) (call : PinCall) :
    called parse (calls ++ [call]) = (called parse calls).rotate (call.rotation parse) := by
  simp [called]

theorem rotate_currentKey (manager : SessionManager) (call : PinCall) :
    (manager.rotate (call.rotation parse)).currentKey =
      if call.preservePin = true then
        (loadPersistedSession parse call.file).getD (generatePin call.draw)
      else generatePin call.draw := rfl

/-- A call that finds a PIN it has to preserve makes it the current one. -/
theorem currentKey_called {call : PinCall} (calls : List PinCall) {pin : Bytes}
    (preserves : call.preservePin = true)
    (loads : loadPersistedSession parse call.file = some pin) :
    (called parse (calls ++ [call])).currentKey = pin := by
  rw [called_concat, rotate_currentKey, if_pos preserves, loads, Option.getD_some]

/-- A call makes a PIN it has drawn or loaded the current one, and puts it into the window. -/
theorem rotate_onlyPins {manager : SessionManager} {call : PinCall}
    (window : ∀ pin ∈ manager.recentPins, IsPairingPin pin)
    (loads : call.preservePin = true → ∀ pin, loadPersistedSession parse call.file = some pin →
      IsPairingPin pin) : OnlyPins (manager.rotate (call.rotation parse)) := by
  have current : IsPairingPin (manager.rotate (call.rotation parse)).currentKey := by
    have drawn := isPairingPin_generatePin call.draw
    rw [rotate_currentKey]
    by_cases preserves : call.preservePin = true
    · rw [if_pos preserves]
      cases found : loadPersistedSession parse call.file with
      | none => exact drawn
      | some pin => exact loads preserves pin found
    · rw [if_neg preserves]
      exact drawn
  refine onlyPins_iff.mpr ⟨current, ?_⟩
  intro pin member
  rw [rotate_recentPins] at member
  rcases RollingWindow.mem_of_mem_push member with old | rfl
  · exact window pin old
  · exact current

end SessionManager

/-- After every call of `generateSession` the manager knows pairing PINs only, unless a call that
may reuse the persisted PIN has found a text in the session file that is none. -/
theorem only_pins_iff (parse : Bytes → Option JsonValue) (first : PinCall) (later : List PinCall) :
    (∀ calls, calls ≠ [] → calls <+: first :: later → OnlyPins (.called parse calls)) ↔
      ∀ call ∈ first :: later, call.preservePin = true →
        ∀ pin, loadPersistedSession parse call.file = some pin → IsPairingPin pin := by
  constructor
  · intro only call member preserves pin loads
    obtain ⟨before, behind, split⟩ := List.append_of_mem member
    have reached := only (before ++ [call]) (by simp) ⟨behind, by rw [split]; simp⟩
    rw [← SessionManager.currentKey_called before preserves loads]
    exact reached.current
  · intro sound calls
    induction calls using List.reverseRecOn with
    | nil => exact fun nonempty => absurd rfl nonempty
    | append_singleton front call ih =>
        intro _ run
        rw [SessionManager.called_concat]
        apply SessionManager.rotate_onlyPins
        · rcases List.eq_nil_or_concat front with rfl | nonempty
          · intro pin member
            cases member
          · exact (ih (by obtain ⟨_, _, rfl⟩ := nonempty; simp)
              ((List.prefix_append front [call]).trans run)).window
        · exact sound call (run.subset (by simp))

/-- A session file whose PIN is empty. -/
def emptyPinFile : Bytes :=
  ascii "\x7b\"pin\":\"\"\x7d"

/-- What `json::parse` makes of that file. -/
def parseEmptyPin (text : Bytes) : Option JsonValue :=
  if text = emptyPinFile then some (.object [(ascii "pin", .string [])]) else none

/-- A start that reuses the empty PIN. -/
def emptyPinCall : PinCall where
  preservePin := true
  file := .holds emptyPinFile
  draw := ⟨100000, by decide, by decide⟩

/-- The first session of that start. -/
def emptyPinSession : Context where
  session := .initial false [1]
  trace := []
  world :=
    { (Startup.fresh []).world with manager := SessionManager.called parseEmptyPin [emptyPinCall] }
  consumed := 0

/-- The empty line is answered `AUTH_OK`. -/
theorem empty_pin_accepted :
    ¬ ∀ parse (first : PinCall) (later : List PinCall) calls, calls ≠ [] →
      calls <+: first :: later →
      OnlyPins (.called parse calls) := by
  intro only
  have reached := only parseEmptyPin emptyPinCall [] [emptyPinCall] (by simp) (List.prefix_refl _)
  have pairing := reached.answers (Env.quiet.auth 0) [] emptyPinSession rfl rfl rfl
    ⟨_, [.authLine [], .blockCheck false, .keyCheck [] [[]]], _, rfl, rfl⟩
  exact absurd pairing (by decide)

end TitanShare
