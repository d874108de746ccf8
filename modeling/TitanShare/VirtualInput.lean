import TitanShare.Commands
import TitanShare.Library.UsKeyboard

/-!
# The virtual keyboard

The keyboard half of `VirtualInput`: the table from ASCII to key codes, and the events that
`typeText` and `pressKey` write to the device.  Read back through the US layout they are the
printable part of the text, and no command leaves a key down.
-/

namespace TitanShare

open ByteText UsKeyboard UsKeyboard.Keyboard

structure KeyMap where
  code : Nat
  shift : Bool
  deriving DecidableEq

/-- The assignments of `initAsciiMap`. -/
def asciiAssignments : List (UInt8 × KeyMap) :=
  [(byte 'a', ⟨keyA, false⟩), (byte 'A', ⟨keyA, true⟩),
    (byte 'b', ⟨keyB, false⟩), (byte 'B', ⟨keyB, true⟩),
    (byte 'c', ⟨keyC, false⟩), (byte 'C', ⟨keyC, true⟩),
    (byte 'd', ⟨keyD, false⟩), (byte 'D', ⟨keyD, true⟩),
    (byte 'e', ⟨keyE, false⟩), (byte 'E', ⟨keyE, true⟩),
    (byte 'f', ⟨keyF, false⟩), (byte 'F', ⟨keyF, true⟩),
    (byte 'g', ⟨keyG, false⟩), (byte 'G', ⟨keyG, true⟩),
    (byte 'h', ⟨keyH, false⟩), (byte 'H', ⟨keyH, true⟩),
    (byte 'i', ⟨keyI, false⟩), (byte 'I', ⟨keyI, true⟩),
    (byte 'j', ⟨keyJ, false⟩), (byte 'J', ⟨keyJ, true⟩),
    (byte 'k', ⟨keyK, false⟩), (byte 'K', ⟨keyK, true⟩),
    (byte 'l', ⟨keyL, false⟩), (byte 'L', ⟨keyL, true⟩),
    (byte 'm', ⟨keyM, false⟩), (byte 'M', ⟨keyM, true⟩),
    (byte 'n', ⟨keyN, false⟩), (byte 'N', ⟨keyN, true⟩),
    (byte 'o', ⟨keyO, false⟩), (byte 'O', ⟨keyO, true⟩),
    (byte 'p', ⟨keyP, false⟩), (byte 'P', ⟨keyP, true⟩),
    (byte 'q', ⟨keyQ, false⟩), (byte 'Q', ⟨keyQ, true⟩),
    (byte 'r', ⟨keyR, false⟩), (byte 'R', ⟨keyR, true⟩),
    (byte 's', ⟨keyS, false⟩), (byte 'S', ⟨keyS, true⟩),
    (byte 't', ⟨keyT, false⟩), (byte 'T', ⟨keyT, true⟩),
    (byte 'u', ⟨keyU, false⟩), (byte 'U', ⟨keyU, true⟩),
    (byte 'v', ⟨keyV, false⟩), (byte 'V', ⟨keyV, true⟩),
    (byte 'w', ⟨keyW, false⟩), (byte 'W', ⟨keyW, true⟩),
    (byte 'x', ⟨keyX, false⟩), (byte 'X', ⟨keyX, true⟩),
    (byte 'y', ⟨keyY, false⟩), (byte 'Y', ⟨keyY, true⟩),
    (byte 'z', ⟨keyZ, false⟩), (byte 'Z', ⟨keyZ, true⟩),
    (byte '1', ⟨key1, false⟩), (byte '2', ⟨key2, false⟩),
    (byte '3', ⟨key3, false⟩), (byte '4', ⟨key4, false⟩),
    (byte '5', ⟨key5, false⟩), (byte '6', ⟨key6, false⟩),
    (byte '7', ⟨key7, false⟩), (byte '8', ⟨key8, false⟩),
    (byte '9', ⟨key9, false⟩), (byte '0', ⟨key0, false⟩),
    (byte ' ', ⟨keySpace, false⟩), (10, ⟨keyEnter, false⟩),
    (9, ⟨keyTab, false⟩), (byte '!', ⟨key1, true⟩),
    (byte '@', ⟨key2, true⟩), (byte '#', ⟨key3, true⟩),
    (byte '$', ⟨key4, true⟩), (byte '%', ⟨key5, true⟩),
    (byte '^', ⟨key6, true⟩), (byte '&', ⟨key7, true⟩),
    (byte '*', ⟨key8, true⟩), (byte '(', ⟨key9, true⟩),
    (byte ')', ⟨key0, true⟩), (byte '-', ⟨keyMinus, false⟩),
    (byte '_', ⟨keyMinus, true⟩), (byte '=', ⟨keyEqual, false⟩),
    (byte '+', ⟨keyEqual, true⟩), (byte '[', ⟨keyLeftBrace, false⟩),
    (123, ⟨keyLeftBrace, true⟩), (byte ']', ⟨keyRightBrace, false⟩),
    (125, ⟨keyRightBrace, true⟩), (92, ⟨keyBackslash, false⟩),
    (byte '|', ⟨keyBackslash, true⟩), (byte ';', ⟨keySemicolon, false⟩),
    (byte ':', ⟨keySemicolon, true⟩), (39, ⟨keyApostrophe, false⟩),
    (34, ⟨keyApostrophe, true⟩), (byte ',', ⟨keyComma, false⟩),
    (byte '<', ⟨keyComma, true⟩), (byte '.', ⟨keyDot, false⟩),
    (byte '>', ⟨keyDot, true⟩), (byte '/', ⟨keySlash, false⟩),
    (byte '?', ⟨keySlash, true⟩), (96, ⟨keyGrave, false⟩),
    (byte '~', ⟨keyGrave, true⟩)]

/-- The members of `VirtualInput` that the keyboard operations read. -/
structure VirtualInput where
  /-- `m_asciiMap`, of which the first 128 entries exist -/
  asciiMap : UInt8 → KeyMap
  initialized : Bool

namespace VirtualInput

/-- As constructed. -/
def created : VirtualInput where
  asciiMap := fun _ => ⟨0, false⟩
  initialized := false

def initAsciiMap (input : VirtualInput) : VirtualInput :=
  { input with
    asciiMap := asciiAssignments.foldl
      (fun map assignment => Function.update map assignment.1 assignment.2) input.asciiMap }

/-- Create both devices; the flags tell whether that succeeds. -/
def init (mouse keyboard : Bool) (input : VirtualInput) : Bool × VirtualInput :=
  if mouse = false then (false, input)
  else if keyboard = false then (false, input)
  else (true, { input.initAsciiMap with initialized := true })

def typeKeyCode (code : Nat) (shift : Bool) : List InputEvent :=
  (if shift then emitKey keyLeftShift 1 else []) ++ (emitKey code 1 ++ emitKey code 0) ++
    if shift then emitKey keyLeftShift 0 else []

/-- One round of the loop of `typeText`; a negative `char` is a byte from 128 on. -/
def typeChar (input : VirtualInput) (c : UInt8) : List InputEvent :=
  if 128 ≤ c then []
  else
    let m := input.asciiMap c
    if m.code ≠ 0 then typeKeyCode m.code m.shift else []

def typeText (input : VirtualInput) (text : Bytes) : List InputEvent :=
  if input.initialized = false then [] else text.flatMap input.typeChar

def getKeyCodeFromName (name : Bytes) : Nat :=
  if name = ascii "BACKSPACE" then keyBackspace
  else if name = ascii "ENTER" then keyEnter
  else if name = ascii "TAB" then keyTab
  else if name = ascii "SHIFT" then keyLeftShift
  else if name = ascii "ESC" then keyEsc
  else if name = ascii "SPACE" then keySpace
  else if name = ascii "PRINTSCREEN" then keyPrint
  else if name = ascii "LALT" then keyLeftAlt
  else if name = ascii "CAPSLOCK" then keyCapsLock
  else if name = ascii "DELETE" then keyDelete
  else if name = ascii "HOME" then keyHome
  else if name = ascii "END" then keyEnd
  else if name = ascii "UP" then keyUp
  else if name = ascii "DOWN" then keyDown
  else if name = ascii "LEFT" then keyLeft
  else if name = ascii "RIGHT" then keyRight
  else 0

def pressKey (input : VirtualInput) (keyName : Bytes) : List InputEvent :=
  if input.initialized = false then []
  else
    let code := getKeyCodeFromName keyName
    if code ≠ 0 then emitKey code 1 ++ emitKey code 0 else []

/-- What an action of a command writes to the keyboard. -/
def keyEvents (input : VirtualInput) : Action → List InputEvent
  | .typeText text => input.typeText text
  | .pressKey keyName => input.pressKey keyName
  | _ => []

/-- The device after a successful `init`. -/
def ready : VirtualInput :=
  (created.init true true).2

end VirtualInput

/-! ## The table -/

/-- The characters that can be typed: the printable ones, newline and tab. -/
def typeable (c : UInt8) : Bool :=
  c == 9 || c == 10 || (32 ≤ c && c ≤ 126)

/-- Every row of the table names the key of its character under the US layout. -/
theorem layout_of_assigned : ∀ assignment ∈ asciiAssignments,
    (layout assignment.2.code).map
        (fun characters => if assignment.2.shift then characters.2 else characters.1) =
      some assignment.1 :=
  by decide

theorem typeable_of_assigned : ∀ assignment ∈ asciiAssignments, typeable assignment.1 = true :=
  List.all_eq_true.mp (by decide)

theorem toNat_of_typeable {c : UInt8} (types : typeable c = true) : c.toNat ≤ 126 := by
  simp only [typeable, Bool.or_eq_true, beq_iff_eq, Bool.and_eq_true, decide_eq_true_eq] at types
  rcases types with (rfl | rfl) | ⟨_, printable⟩
  · decide
  · decide
  · exact UInt8.le_iff_toNat_le.mp printable

/-- Every character that can be typed has its row. -/
theorem assigned_of_typeable {c : UInt8} (types : typeable c = true) :
    ∃ assignment ∈ asciiAssignments, assignment.1 = c := by
  have all : ∀ code < 128, typeable (UInt8.ofNat code) = true →
      UInt8.ofNat code ∈ asciiAssignments.map Prod.fst := by decide
  have member := all c.toNat (Nat.lt_of_le_of_lt (toNat_of_typeable types) (by decide))
    (by rw [UInt8.ofNat_toNat]; exact types)
  rw [UInt8.ofNat_toNat] at member
  obtain ⟨assignment, isRow, named⟩ := List.mem_map.mp member
  exact ⟨assignment, isRow, named⟩

/-- After a run of assignments an entry is one of those assigned to it, or what it was. -/
theorem assign_cases {α β : Type} [DecidableEq α] (assignments : List (α × β)) (map : α → β)
    (entry : α) :
    let assigned := assignments.foldl
      (fun map assignment => Function.update map assignment.1 assignment.2) map
    (∃ assignment ∈ assignments, assignment.1 = entry ∧ assigned entry = assignment.2) ∨
      (∀ assignment ∈ assignments, assignment.1 ≠ entry) ∧ assigned entry = map entry := by
  induction assignments generalizing map with
  | nil => exact .inr ⟨by simp, rfl⟩
  | cons first rest ih =>
      rcases ih (Function.update map first.1 first.2) with
        ⟨assignment, member, named, holds⟩ | ⟨others, unchanged⟩
      · exact .inl ⟨assignment, List.mem_cons_of_mem _ member, named, holds⟩
      · by_cases named : first.1 = entry
        · refine .inl ⟨first, List.mem_cons_self, named, unchanged.trans ?_⟩
          rw [← named, Function.update_self]
        · refine .inr ⟨List.forall_mem_cons.mpr ⟨named, others⟩, unchanged.trans ?_⟩
          exact Function.update_of_ne (Ne.symm named) _ _

namespace VirtualInput

/-- A character that can be typed is looked up to a row of its own. -/
theorem asciiMap_typeable {c : UInt8} (types : typeable c = true) :
    ∃ assignment ∈ asciiAssignments, assignment.1 = c ∧ ready.asciiMap c = assignment.2 := by
  rcases assign_cases asciiAssignments created.asciiMap c with found | ⟨others, _⟩
  · exact found
  · obtain ⟨assignment, member, named⟩ := assigned_of_typeable types
    exact absurd named (others assignment member)

theorem typeChar_of_not_typeable {c : UInt8} (silent : typeable c = false) :
    ready.typeChar c = [] := by
  unfold typeChar
  split
  · rfl
  · rcases assign_cases asciiAssignments created.asciiMap c with
      ⟨assignment, member, named, _⟩ | ⟨_, unchanged⟩
    · have types := typeable_of_assigned assignment member
      rw [named, silent] at types
      cases types
    · have none_there : (ready.asciiMap c).code = 0 := congrArg KeyMap.code unchanged
      simp [none_there]

/-! ## Typing -/

/-- A key with characters is neither a modifier nor code 0. -/
theorem plain_of_layout {code : Nat} {characters : UInt8 × UInt8}
    (typed : layout code = some characters) :
    code ≠ 0 ∧ code ≠ keyLeftShift ∧ code ≠ keyCapsLock := by
  refine ⟨?_, ?_, ?_⟩
  · rintro rfl
    cases typed
  · rintro rfl
    cases typed
  · rintro rfl
    cases typed

/-- A key of the layout, typed with or without shift on an idle keyboard. -/
theorem feedAll_typeKeyCode {code : Nat} {characters : UInt8 × UInt8} (shift : Bool)
    (typed : layout code = some characters) :
    idle.feedAll (typeKeyCode code shift) =
      (idle, [if shift then characters.2 else characters.1]) := by
  obtain ⟨_, notShift, notLock⟩ := plain_of_layout typed
  have keepsLock : decide (code = keyCapsLock) = false := by simpa using notLock
  cases shift with
  | false =>
      have tapped := @feedAll_tap idle code rfl
      rw [keepsLock] at tapped
      refine (congrArg idle.feedAll (show typeKeyCode code false = tap code by
        simp [typeKeyCode, tap])).trans (tapped.trans ?_)
      simp [idle, types, typed, Keyboard.shift]
  | true =>
      have tapped := @feedAll_shifted idle code rfl rfl notShift
      rw [keepsLock] at tapped
      refine tapped.trans ?_
      simp [idle, types, typed, Keyboard.shift, shifted]

theorem feedAll_typeChar (c : UInt8) :
    idle.feedAll (ready.typeChar c) = (idle, if typeable c = true then [c] else []) := by
  cases types : typeable c with
  | false =>
      rw [typeChar_of_not_typeable types]
      rfl
  | true =>
      obtain ⟨assignment, member, rfl, mapped⟩ := asciiMap_typeable types
      obtain ⟨characters, typed, isCharacter⟩ :=
        Option.map_eq_some_iff.mp (layout_of_assigned assignment member)
      have small : ¬128 ≤ assignment.1 := by
        intro large
        exact absurd ((UInt8.le_iff_toNat_le.mp large).trans (toNat_of_typeable types)) (by decide)
      have nonzero := (plain_of_layout typed).1
      simp only [typeChar, if_neg small, mapped, ne_eq, nonzero, not_false_eq_true, if_true]
      rw [feedAll_typeKeyCode assignment.2.shift typed, isCharacter]

theorem feedAll_typeText (text : Bytes) :
    idle.feedAll (ready.typeText text) = (idle, text.filter typeable) := by
  change idle.feedAll (text.flatMap ready.typeChar) = _
  induction text with
  | nil => rfl
  | cons c rest ih =>
      rw [List.flatMap_cons, feedAll_append, feedAll_typeChar, ih, List.filter_cons]
      cases typeable c with
      | true => rfl
      | false => rfl

/-! ## No key is left down -/

/-- Whatever its state of caps lock, a keyboard without held keys is left without held keys; and
every key event is reported at once. -/
structure Settled (events : List InputEvent) : Prop where
  releases : ∀ keyboard : Keyboard, keyboard.held = idle.held →
    (keyboard.feedAll events).1.held = idle.held
  reported : Reported events

theorem settled_nil : Settled [] where
  releases := fun _ free => free
  reported := trivial

theorem Settled.append {left right : List InputEvent} (first : Settled left)
    (second : Settled right) : Settled (left ++ right) where
  releases := by
    intro keyboard free
    rw [feedAll_append]
    exact second.releases _ (first.releases keyboard free)
  reported := first.reported.append second.reported

theorem settled_flatMap {α : Type} {events : α → List InputEvent}
    (each : ∀ element, Settled (events element)) (list : List α) :
    Settled (list.flatMap events) := by
  induction list with
  | nil => exact settled_nil
  | cons head tail ih =>
      rw [List.flatMap_cons]
      exact (each head).append ih

theorem settled_tap (code : Nat) : Settled (tap code) where
  releases := by
    intro keyboard free
    rw [@feedAll_tap keyboard code (by rw [free]; rfl)]
    exact free
  reported := reported_tap code

theorem settled_typeKeyCode {code : Nat} (shift : Bool) (other : code ≠ keyLeftShift) :
    Settled (typeKeyCode code shift) := by
  cases shift with
  | false => simpa [typeKeyCode, tap] using settled_tap code
  | true =>
      refine ⟨?_, ((reported_emitKey _ _).append (reported_tap code)).append (reported_emitKey _ _)⟩
      intro keyboard free
      have shifted := @feedAll_shifted keyboard code (by rw [free]; rfl) (by rw [free]; rfl) other
      exact (congrArg (fun final => final.1.held) shifted).trans free

/-- A character writes nothing, or taps the key of its row. -/
theorem settled_typeChar (c : UInt8) : Settled (ready.typeChar c) := by
  cases types : typeable c with
  | false =>
      rw [typeChar_of_not_typeable types]
      exact settled_nil
  | true =>
      obtain ⟨assignment, member, named, mapped⟩ := asciiMap_typeable types
      obtain ⟨characters, typed, _⟩ :=
        Option.map_eq_some_iff.mp (layout_of_assigned assignment member)
      unfold typeChar
      split
      · exact settled_nil
      · rw [mapped]
        simp only
        split
        · exact settled_typeKeyCode _ (plain_of_layout typed).2.1
        · exact settled_nil

theorem settled_pressKey (keyName : Bytes) : Settled (ready.pressKey keyName) := by
  have written : ready.pressKey keyName =
      if getKeyCodeFromName keyName ≠ 0 then tap (getKeyCodeFromName keyName) else [] := rfl
  rw [written]
  split
  · exact settled_tap _
  · exact settled_nil

theorem settled_keyEvents (action : Action) : Settled (ready.keyEvents action) := by
  cases action with
  | typeText text => exact settled_flatMap settled_typeChar text
  | pressKey keyName => exact settled_pressKey keyName
  | exec | execDetached | startMirror | stopMirror | moveMouse | scrollWheel | clickMouse
  | mouseDown | mouseUp => exact settled_nil

/-- What a run of commands writes to the keyboard. -/
def commandEvents (input : VirtualInput) (commands : List (CommandEnv × Bytes)) : List InputEvent :=
  commands.flatMap fun command =>
    (CommandDispatcher.dispatch command.1 command.2).actions.flatMap input.keyEvents

theorem settled_commandEvents (commands : List (CommandEnv × Bytes)) :
    Settled (ready.commandEvents commands) :=
  settled_flatMap (fun _ => settled_flatMap settled_keyEvents _) commands

end VirtualInput

/-- Typed text is read back as its printable part, whatever the bytes are; a byte that cannot be
typed writes nothing.  After any commands no key is held, and every key event has been reported. -/
theorem typed_text_round_trip (text : Bytes) (commands : List (CommandEnv × Bytes)) :
    idle.feedAll (VirtualInput.ready.typeText text) = (idle, text.filter typeable) ∧
      (∀ c, typeable c = false → VirtualInput.ready.typeText [c] = []) ∧
      Reported (VirtualInput.ready.typeText text) ∧
      (idle.feedAll (VirtualInput.ready.commandEvents commands)).1.held = (fun _ => false) ∧
      Reported (VirtualInput.ready.commandEvents commands) := by
  have commanded := VirtualInput.settled_commandEvents commands
  refine ⟨VirtualInput.feedAll_typeText text, ?_,
    (VirtualInput.settled_keyEvents (.typeText text)).reported, commanded.releases idle rfl,
    commanded.reported⟩
  intro c silent
  change [c].flatMap VirtualInput.ready.typeChar = []
  rw [List.flatMap_singleton, VirtualInput.typeChar_of_not_typeable silent]

end TitanShare
