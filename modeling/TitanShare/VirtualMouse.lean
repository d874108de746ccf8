import TitanShare.CommandActions
import TitanShare.Library.InputDevice
import TitanShare.Library.Numerals
import TitanShare.ReplyLines
import TitanShare.VirtualInput

/-!
# The virtual mouse

The mouse half of `VirtualInput`, and both devices from their creation to their destruction.  Every
event that is written to either of them was declared, and what a client asks of the pointer is what
a desktop sees it do, whatever the system leaves out that tells nothing new.
-/

namespace TitanShare

open ByteText UsKeyboard InputDevice

namespace VirtualInput

/-! ## The devices -/

/-- `createMouse`, behind the `open` -/
def createMouse : List Request :=
  [.setEvBit evKey, .setKeyBit btnLeft, .setKeyBit btnRight, .setKeyBit btnMiddle,
    .setEvBit evRel, .setRelBit relX, .setRelBit relY, .setRelBit relWheel,
    .setUp ((ascii "TitanShare Mouse").take (maxNameSize - 1)) busUsb 1 2 1, .create]

/-- `createKeyboard`, behind the `open` -/
def createKeyboard : List Request :=
  .setEvBit evKey :: (List.range' 1 254).map .setKeyBit ++
    [.setUp ((ascii "TitanShare Keyboard").take (maxNameSize - 1)) busUsb 1 3 1, .create]

def moveMouse (input : VirtualInput) (dx dy : Int) : List InputEvent :=
  if input.initialized = false then [] else [⟨evRel, relX, dx⟩, ⟨evRel, relY, dy⟩, report]

def scrollWheel (input : VirtualInput) (dy : Int) : List InputEvent :=
  if input.initialized = false then [] else [⟨evRel, relWheel, dy⟩, report]

def getButtonCode (button : Bytes) : Nat :=
  if button = ascii "LEFT" then btnLeft
  else if button = ascii "RIGHT" then btnRight
  else if button = ascii "MIDDLE" then btnMiddle
  else btnLeft

def clickMouse (input : VirtualInput) (button : Bytes) : List InputEvent :=
  if input.initialized = false then []
  else emitKey (getButtonCode button) 1 ++ emitKey (getButtonCode button) 0

def mouseDown (input : VirtualInput) (button : Bytes) : List InputEvent :=
  if input.initialized = false then [] else emitKey (getButtonCode button) 1

def mouseUp (input : VirtualInput) (button : Bytes) : List InputEvent :=
  if input.initialized = false then [] else emitKey (getButtonCode button) 0

/-- What an action of a command writes to the mouse. -/
def mouseEvents (input : VirtualInput) : Action → List InputEvent
  | .moveMouse dx dy => input.moveMouse dx dy
  | .scrollWheel dy => input.scrollWheel dy
  | .clickMouse button => input.clickMouse button
  | .mouseDown button => input.mouseDown button
  | .mouseUp button => input.mouseUp button
  | _ => []

/-- What a run of commands writes to the mouse. -/
def pointerEvents (input : VirtualInput) (commands : List (CommandEnv × Bytes)) : List InputEvent :=
  commands.flatMap fun command =>
    (CommandDispatcher.dispatch command.1 command.2).actions.flatMap input.mouseEvents

/-- What `init` and the commands ask of the mouse device, if it can be opened. -/
def mouseRequests (mouse keyboard : Bool) (commands : List (CommandEnv × Bytes)) : List Request :=
  if mouse then
    createMouse ++ ((created.init mouse keyboard).2.pointerEvents commands).map .emit
  else []

/-- The same for the keyboard, which is opened behind the mouse. -/
def keyboardRequests (mouse keyboard : Bool) (commands : List (CommandEnv × Bytes)) :
    List Request :=
  if mouse && keyboard then
    createKeyboard ++ ((created.init mouse keyboard).2.commandEvents commands).map .emit
  else []

/-- All that is asked of the mouse device: the destructor destroys it if it is open. -/
def mouseLife (mouse keyboard : Bool) (commands : List (CommandEnv × Bytes)) : List Request :=
  mouseRequests mouse keyboard commands ++ if mouse then [.destroy] else []

def keyboardLife (mouse keyboard : Bool) (commands : List (CommandEnv × Bytes)) : List Request :=
  keyboardRequests mouse keyboard commands ++ if mouse && keyboard then [.destroy] else []

end VirtualInput

/-! ## Requests of a client -/

/-- What a client asks of the pointer. -/
inductive PointerRequest
  | move (dx dy : Int)
  | scroll (dy : Int)
  | click (button : Bytes)
  | down (button : Bytes)
  | up (button : Bytes)

namespace PointerRequest

/-- The command it sends. -/
def command : PointerRequest → Bytes
  | move dx dy => ascii "MOUSE_MOVE:" ++ (decimalInt dx ++ byte ':' :: decimalInt dy)
  | scroll dy => ascii "MOUSE_SCROLL:" ++ decimalInt dy
  | click button => ascii "MOUSE_CLICK:" ++ button
  | down button => ascii "MOUSE_DOWN:" ++ button
  | up button => ascii "MOUSE_UP:" ++ button

/-- The numbers are those of an `int`. -/
def Fits : PointerRequest → Prop
  | move dx dy => (-2 ^ 31 ≤ dx ∧ dx < 2 ^ 31) ∧ -2 ^ 31 ≤ dy ∧ dy < 2 ^ 31
  | scroll dy => -2 ^ 31 ≤ dy ∧ dy < 2 ^ 31
  | _ => True

/-- What it means. -/
def apply (pointer : Pointer) : PointerRequest → Pointer
  | move dx dy => pointer.move dx dy
  | scroll dy => pointer.scroll dy
  | click button => pointer.release (VirtualInput.getButtonCode button)
  | down button => pointer.press (VirtualInput.getButtonCode button)
  | up button => pointer.release (VirtualInput.getButtonCode button)

/-- The action it becomes. -/
def action : PointerRequest → Action
  | move dx dy => .moveMouse dx dy
  | scroll dy => .scrollWheel dy
  | click button => .clickMouse button
  | down button => .mouseDown button
  | up button => .mouseUp button

end PointerRequest

/-- A command of a client: a request for the pointer, or any other text. -/
inductive ClientCommand
  | pointer (request : PointerRequest)
  | other (text : Bytes)

namespace ClientCommand

def text : ClientCommand → Bytes
  | pointer request => request.command
  | other text => text

/-- The numbers fit, and no other text looks like a request for the pointer. -/
def Sane : ClientCommand → Prop
  | pointer request => request.Fits
  | other text => text.take 6 ≠ ascii "MOUSE_"

def apply (pointer : Pointer) : ClientCommand → Pointer
  | .pointer request => request.apply pointer
  | .other _ => pointer

end ClientCommand

/-! ## What the devices declare -/

namespace VirtualInput

/-- What `createMouse` asks for before it creates the device. -/
def mouseSetup : List Request :=
  createMouse.dropLast

def keyboardSetup : List Request :=
  .setEvBit evKey :: (List.range' 1 254).map .setKeyBit ++
    [.setUp ((ascii "TitanShare Keyboard").take (maxNameSize - 1)) busUsb 1 3 1]

theorem createMouse_eq : createMouse = mouseSetup ++ [.create] := rfl

theorem createKeyboard_eq : createKeyboard = keyboardSetup ++ [.create] := by
  simp [createKeyboard, keyboardSetup]

theorem declares_report (setup : List Request) : Declared setup report :=
  .inl rfl

theorem getButtonCode_cases (button : Bytes) :
    getButtonCode button = btnLeft ∨ getButtonCode button = btnRight ∨
      getButtonCode button = btnMiddle := by
  unfold getButtonCode
  repeat' split
  all_goals simp

theorem mouse_declares_button (button : Bytes) (value : Int) :
    Declared mouseSetup ⟨evKey, getButtonCode button, value⟩ := by
  have keys : .setKeyBit (getButtonCode button) ∈ mouseSetup := by
    rcases getButtonCode_cases button with code | code | code
    · rw [code]
      decide
    · rw [code]
      decide
    · rw [code]
      decide
  exact .inr (.inl ⟨rfl, by decide, keys⟩)

/-- Whatever the mouse is asked for, its events are declared. -/
theorem mouse_declares (input : VirtualInput) (action : Action) :
    ∀ event ∈ input.mouseEvents action, Declared mouseSetup event := by
  have axis : ∀ code value, code = relX ∨ code = relY ∨ code = relWheel →
      Declared mouseSetup ⟨evRel, code, value⟩ := by
    intro code value known
    have bit : .setRelBit code ∈ mouseSetup := by
      rcases known with rfl | rfl | rfl
      · decide
      · decide
      · decide
    exact .inr (.inr ⟨rfl, by decide, bit⟩)
  have button : ∀ (button : Bytes) (value : Int), ∀ event ∈ emitKey (getButtonCode button) value,
      Declared mouseSetup event := by
    intro button value
    simp only [emitKey, List.forall_mem_cons]
    exact ⟨mouse_declares_button button value, declares_report _, by simp⟩
  cases action with
  | moveMouse dx dy =>
      simp only [mouseEvents, moveMouse]
      split
      · simp
      · simp only [List.forall_mem_cons]
        exact ⟨axis _ dx (.inl rfl), axis _ dy (.inr (.inl rfl)), declares_report _, by simp⟩
  | scrollWheel dy =>
      simp only [mouseEvents, scrollWheel]
      split
      · simp
      · simp only [List.forall_mem_cons]
        exact ⟨axis _ dy (.inr (.inr rfl)), declares_report _, by simp⟩
  | clickMouse name =>
      simp only [mouseEvents, clickMouse]
      split
      · simp
      · exact List.forall_mem_append.mpr ⟨button name 1, button name 0⟩
  | mouseDown name =>
      simp only [mouseEvents, mouseDown]
      split
      · simp
      · exact button name 1
  | mouseUp name =>
      simp only [mouseEvents, mouseUp]
      split
      · simp
      · exact button name 0
  | exec | execDetached | startMirror | stopMirror | typeText | pressKey =>
      intro event member
      cases member

/-- The keyboard declares the keys from 1 to 254. -/
theorem keyboard_declares_key {code : Nat} (value : Int) (known : 0 < code ∧ code < 255) :
    Declared keyboardSetup ⟨evKey, code, value⟩ := by
  have listed : code ∈ List.range' 1 254 := List.mem_range'_1.mpr ⟨known.1, by omega⟩
  have keys : .setKeyBit code ∈ keyboardSetup :=
    List.mem_cons_of_mem _ (List.mem_append_left _ (List.mem_map_of_mem listed))
  exact .inr (.inl ⟨rfl, List.mem_cons_self, keys⟩)

theorem keyboard_declares_emitKey {code : Nat} (value : Int) (known : 0 < code ∧ code < 255) :
    ∀ event ∈ emitKey code value, Declared keyboardSetup event := by
  simp only [emitKey, List.forall_mem_cons]
  exact ⟨keyboard_declares_key value known, declares_report _, by simp⟩

theorem keyboard_declares_typeKeyCode {code : Nat} (shift : Bool) (known : 0 < code ∧ code < 255) :
    ∀ event ∈ typeKeyCode code shift, Declared keyboardSetup event := by
  have shifts : ∀ value, ∀ event ∈ emitKey keyLeftShift value, Declared keyboardSetup event :=
    fun value => keyboard_declares_emitKey value (by decide)
  have key : ∀ value, ∀ event ∈ emitKey code value, Declared keyboardSetup event :=
    fun value => keyboard_declares_emitKey value known
  unfold typeKeyCode
  cases shift with
  | false =>
      simp only [Bool.false_eq_true, if_false, List.nil_append, List.append_nil,
        List.forall_mem_append]
      exact ⟨key 1, key 0⟩
  | true =>
      simp only [if_true, List.forall_mem_append]
      exact ⟨⟨shifts 1, key 1, key 0⟩, shifts 0⟩

theorem code_of_assigned : ∀ assignment ∈ asciiAssignments,
    0 < assignment.2.code ∧ assignment.2.code < 255 := by
  decide

theorem getKeyCodeFromName_lt (name : Bytes) : getKeyCodeFromName name < 255 := by
  have choice : ∀ {condition : Prop} [Decidable condition] {yes no : Nat}, yes < 255 → no < 255 →
      (if condition then yes else no) < 255 := by
    intro condition _ yes no first second
    split
    · exact first
    · exact second
  unfold getKeyCodeFromName
  repeat' apply choice
  all_goals decide

/-- Whatever the keyboard is asked for, its events are declared. -/
theorem keyboard_declares (action : Action) :
    ∀ event ∈ ready.keyEvents action, Declared keyboardSetup event := by
  cases action with
  | typeText text =>
      intro event member
      obtain ⟨c, _, typed⟩ := List.mem_flatMap.mp member
      cases types : typeable c with
      | false =>
          rw [typeChar_of_not_typeable types] at typed
          cases typed
      | true =>
          obtain ⟨assignment, isRow, _, mapped⟩ := asciiMap_typeable types
          unfold typeChar at typed
          split at typed
          · cases typed
          · rw [mapped] at typed
            simp only at typed
            split at typed
            · exact keyboard_declares_typeKeyCode _ (code_of_assigned assignment isRow) event typed
            · cases typed
  | pressKey keyName =>
      have written : ready.pressKey keyName =
          if getKeyCodeFromName keyName ≠ 0 then
            emitKey (getKeyCodeFromName keyName) 1 ++ emitKey (getKeyCodeFromName keyName) 0
          else [] := rfl
      simp only [keyEvents, written]
      split
      · rename_i known
        have bounds := And.intro (Nat.pos_of_ne_zero known) (getKeyCodeFromName_lt keyName)
        exact List.forall_mem_append.mpr
          ⟨keyboard_declares_emitKey 1 bounds, keyboard_declares_emitKey 0 bounds⟩
      · simp
  | exec | execDetached | startMirror | stopMirror | moveMouse | scrollWheel | clickMouse
  | mouseDown | mouseUp =>
      intro event member
      cases member

/-! ## Whole lives -/

/-- Without both devices nothing is initialised. -/
theorem init_eq (mouse keyboard : Bool) :
    (created.init mouse keyboard).2 = if mouse && keyboard then ready else created := by
  cases mouse with
  | false => rfl
  | true =>
      cases keyboard with
      | false => rfl
      | true => rfl

theorem created_mouseEvents (action : Action) : created.mouseEvents action = [] := by
  cases action with
  | _ => rfl

theorem created_pointerEvents (commands : List (CommandEnv × Bytes)) :
    created.pointerEvents commands = [] := by
  simp [pointerEvents, created_mouseEvents]

theorem isSetup_keyboard : ∀ request ∈ keyboardSetup, request.isSetup = true := by
  intro request member
  rcases List.mem_cons.mp member with rfl | member
  · rfl
  · rcases List.mem_append.mp member with key | name
    · obtain ⟨code, _, rfl⟩ := List.mem_map.mp key
      rfl
    · rw [List.mem_singleton.mp name]
      rfl

/-- The mouse is used in order, and without a keyboard nothing is written to it. -/
theorem inOrder_mouse (keyboardOpens : Bool) (commands : List (CommandEnv × Bytes)) :
    InOrder (mouseRequests true keyboardOpens commands)
      (if keyboardOpens then ready.pointerEvents commands else []) := by
  have written : (created.init true keyboardOpens).2.pointerEvents commands =
      if keyboardOpens then ready.pointerEvents commands else [] := by
    rw [init_eq]
    cases keyboardOpens with
    | false => exact created_pointerEvents commands
    | true => rfl
  refine ⟨mouseSetup, ?_, by decide, ?_, ?_⟩
  · rw [mouseRequests, if_pos rfl, written, createMouse_eq, List.append_assoc]
    rfl
  · exact ⟨_, _, _, _, _, by decide, List.getLast_mem (l := mouseSetup) (by decide)⟩
  · rw [← written]
    intro event member
    obtain ⟨command, _, acted⟩ := List.mem_flatMap.mp member
    obtain ⟨action, _, emitted⟩ := List.mem_flatMap.mp acted
    exact mouse_declares _ action event emitted

theorem inOrder_keyboard (commands : List (CommandEnv × Bytes)) :
    InOrder (keyboardRequests true true commands) (ready.commandEvents commands) := by
  refine ⟨keyboardSetup, ?_, isSetup_keyboard, ?_, ?_⟩
  · have shape : keyboardRequests true true commands =
        createKeyboard ++ (ready.commandEvents commands).map .emit := rfl
    rw [shape, createKeyboard_eq, List.append_assoc]
    rfl
  · exact ⟨_, _, _, _, _, by decide,
      List.mem_cons_of_mem _ (List.mem_append_right _ List.mem_cons_self)⟩
  · intro event member
    obtain ⟨command, _, acted⟩ := List.mem_flatMap.mp member
    obtain ⟨action, _, emitted⟩ := List.mem_flatMap.mp acted
    exact keyboard_declares action event emitted

/-! ## Reading the pointer -/

/-- What an action means for the pointer. -/
def steer (pointer : Pointer) : Action → Pointer
  | .moveMouse dx dy => pointer.move dx dy
  | .scrollWheel dy => pointer.scroll dy
  | .clickMouse button => pointer.release (getButtonCode button)
  | .mouseDown button => pointer.press (getButtonCode button)
  | .mouseUp button => pointer.release (getButtonCode button)
  | _ => pointer

/-- A button event is a packet of its own. -/
theorem watch_emitKey (pointer : Pointer) (code : Nat) (value : Int) :
    (⟨pointer, []⟩ : Watch).watchAll (emitKey code value) =
      ⟨if value = 0 then pointer.release code else pointer.press code, []⟩ := by
  have inner : report ∉ [(⟨evKey, code, value⟩ : InputEvent)] := by simp [report, evKey, evSyn]
  refine (Watch.watchAll_packet ⟨pointer, []⟩ inner).trans ?_
  simp [Pointer.apply, evKey, evRel]

/-- The packets of an action mean the action, and none of them is left unfinished. -/
theorem watch_action (pointer : Pointer) (action : Action) :
    (⟨pointer, []⟩ : Watch).watchAll (ready.mouseEvents action) = ⟨steer pointer action, []⟩ := by
  cases action with
  | moveMouse dx dy =>
      have inner : report ∉ [(⟨evRel, relX, dx⟩ : InputEvent), ⟨evRel, relY, dy⟩] := by
        simp [report, evRel, evSyn]
      refine (Watch.watchAll_packet ⟨pointer, []⟩ inner).trans ?_
      simp [Pointer.apply, Pointer.move, relX, relY, steer]
  | scrollWheel dy =>
      have inner : report ∉ [(⟨evRel, relWheel, dy⟩ : InputEvent)] := by
        simp [report, evRel, evSyn]
      refine (Watch.watchAll_packet ⟨pointer, []⟩ inner).trans ?_
      simp [Pointer.apply, relX, relY, relWheel, steer]
  | clickMouse button =>
      change (⟨pointer, []⟩ : Watch).watchAll
        (emitKey (getButtonCode button) 1 ++ emitKey (getButtonCode button) 0) = _
      rw [Watch.watchAll_append, watch_emitKey, watch_emitKey]
      simp [steer, Pointer.press, Pointer.release]
  | mouseDown button => exact watch_emitKey pointer _ 1
  | mouseUp button => exact watch_emitKey pointer _ 0
  | exec | execDetached | startMirror | stopMirror | typeText | pressKey => rfl

theorem watch_actions (pointer : Pointer) (actions : List Action) :
    (⟨pointer, []⟩ : Watch).watchAll (actions.flatMap ready.mouseEvents) =
      ⟨actions.foldl steer pointer, []⟩ := by
  induction actions generalizing pointer with
  | nil => rfl
  | cons action later ih => rw [List.flatMap_cons, Watch.watchAll_append, watch_action, ih]; rfl

/-- The actions of a run of commands, in order. -/
def actionsOf (commands : List (CommandEnv × Bytes)) : List Action :=
  commands.flatMap fun command => (CommandDispatcher.dispatch command.1 command.2).actions

theorem watch_commands (pointer : Pointer) (commands : List (CommandEnv × Bytes)) :
    (⟨pointer, []⟩ : Watch).watchAll (ready.pointerEvents commands) =
      ⟨(actionsOf commands).foldl steer pointer, []⟩ := by
  rw [← watch_actions, actionsOf, List.flatMap_assoc]
  rfl

/-- Only the three buttons of the mouse are ever pressed. -/
theorem held_steer {pointer : Pointer} {action : Action} {code : Nat}
    (held : (steer pointer action).held code = true) :
    pointer.held code = true ∨ code = btnLeft ∨ code = btnRight ∨ code = btnMiddle := by
  have released : ∀ button : Bytes, (pointer.release (getButtonCode button)).held code = true →
      pointer.held code = true := by
    intro button still
    by_cases same : code = getButtonCode button
    · simp [Pointer.release, same] at still
    · simpa [Pointer.release, same] using still
  cases action with
  | clickMouse button => exact .inl (released button held)
  | mouseUp button => exact .inl (released button held)
  | mouseDown button =>
      by_cases same : code = getButtonCode button
      · exact .inr (same ▸ getButtonCode_cases button)
      · exact .inl (by simpa [steer, Pointer.press, same] using held)
  | moveMouse | scrollWheel | exec | execDetached | startMirror | stopMirror | typeText
  | pressKey =>
      exact .inl held

theorem held_steers {actions : List Action} {pointer : Pointer} {code : Nat}
    (held : (actions.foldl steer pointer).held code = true) :
    pointer.held code = true ∨ code = btnLeft ∨ code = btnRight ∨ code = btnMiddle := by
  induction actions generalizing pointer with
  | nil => exact .inl held
  | cons action later ih =>
      rcases ih held with first | button
      · exact held_steer first
      · exact .inr button

end VirtualInput

/-! ## From a request to its action -/

theorem stoi_decimalInt {value : Int} (fits : -2 ^ 31 ≤ value ∧ value < 2 ^ 31) :
    stoi (decimalInt value) = .ok value := by
  have magnitude : (if decide (value < 0) = true then -(value.natAbs : Int) else value.natAbs) =
      value := by
    simp only [decide_eq_true_eq]
    split
    · omega
    · omega
  rw [stoi, scanInteger_decimalInt]
  simp only [magnitude]
  exact if_pos fits

/-- There is no colon in a printed integer. -/
theorem colon_not_mem_decimalInt (value : Int) : byte ':' ∉ decimalInt value := by
  have digits : byte ':' ∉ decimal value.natAbs := fun member =>
    absurd (isDigit_of_mem_decimal _ member) (by decide)
  unfold decimalInt
  split
  · rw [List.mem_cons, not_or]
    exact ⟨by decide, digits⟩
  · exact digits

/-- A command in front of its arguments, looked at up to some length. -/
theorem take_command (name rest : Bytes) {count : Nat} (short : count ≤ name.length) :
    (name ++ rest).take count = name.take count :=
  List.take_append_of_le_length short

namespace PointerRequest

theorem isInput_command (request : PointerRequest) :
    CommandDispatcher.isInputCommand request.command = true := by
  have named : ∀ name rest : Bytes, (name ++ rest).take name.length = name :=
    fun name rest => List.take_left
  have lengths : (ascii "MOUSE_MOVE:").length = 11 ∧ (ascii "MOUSE_SCROLL:").length = 13 ∧
      (ascii "MOUSE_CLICK:").length = 12 ∧ (ascii "MOUSE_DOWN:").length = 11 ∧
      (ascii "MOUSE_UP:").length = 9 := by decide
  obtain ⟨move, scroll, click, down, up⟩ := lengths
  unfold CommandDispatcher.isInputCommand
  cases request with
  | move dx dy => simp [command, ← move, named]
  | scroll dy => simp [command, ← scroll, named]
  | click button => simp [command, ← click, named]
  | down button => simp [command, ← down, named]
  | up button => simp [command, ← up, named]

/-- A command that begins with one name does not begin with a name that differs early. -/
theorem take_ne {cmd name other : Bytes} {length count : Nat} (named : cmd.take length = name)
    (differ : other.take length ≠ name.take count) : cmd.take count ≠ other := by
  rintro rfl
  apply differ
  rw [← named, List.take_take, List.take_take, Nat.min_comm]

/-- A request is dispatched as its action, and not answered. -/
theorem dispatch_command {env : CommandEnv} (hasInput : env.hasInput = true)
    {request : PointerRequest} (fits : request.Fits) :
    CommandDispatcher.dispatch env request.command = ⟨[request.action], .ok []⟩ := by
  rw [CommandDispatcher.dispatch_input env request.isInput_command]
  unfold CommandDispatcher.handleInputCommand
  rw [if_neg (by simp [hasInput])]
  cases request with
  | move dx dy =>
      obtain ⟨fitsX, fitsY⟩ := fits
      have named : (command (.move dx dy)).take 11 = ascii "MOUSE_MOVE:" :=
        take_command _ _ (by decide)
      have rest : (command (.move dx dy)).drop 11 =
          decimalInt dx ++ byte ':' :: decimalInt dy := rfl
      have cut : cutAt (byte ':') (decimalInt dx ++ byte ':' :: decimalInt dy) =
          some (decimalInt dx, decimalInt dy) :=
        cutAt_eq_some_iff.mpr ⟨rfl, colon_not_mem_decimalInt dx⟩
      rw [if_pos named, rest, cut]
      simp only [stoi_decimalInt fitsX, stoi_decimalInt fitsY]
      rfl
  | scroll dy =>
      have named : (command (.scroll dy)).take 13 = ascii "MOUSE_SCROLL:" :=
        take_command _ _ (by decide)
      have rest : (command (.scroll dy)).drop 13 = decimalInt dy := rfl
      rw [if_neg (take_ne named (by decide)), if_pos named, rest]
      simp only [stoi_decimalInt fits]
      rfl
  | click button =>
      have named : (command (.click button)).take 12 = ascii "MOUSE_CLICK:" :=
        take_command _ _ (by decide)
      rw [if_neg (take_ne named (by decide)), if_neg (take_ne named (by decide)), if_pos named]
      rfl
  | down button =>
      have named : (command (.down button)).take 11 = ascii "MOUSE_DOWN:" :=
        take_command _ _ (by decide)
      rw [if_neg (take_ne named (by decide)), if_neg (take_ne named (by decide)),
        if_neg (take_ne named (by decide)), if_pos named]
      rfl
  | up button =>
      have named : (command (.up button)).take 9 = ascii "MOUSE_UP:" :=
        take_command _ _ (by decide)
      rw [if_neg (take_ne named (by decide)), if_neg (take_ne named (by decide)),
        if_neg (take_ne named (by decide)), if_neg (take_ne named (by decide)), if_pos named]
      rfl

theorem steer_action (pointer : Pointer) (request : PointerRequest) :
    VirtualInput.steer pointer request.action = request.apply pointer := by
  cases request with
  | _ => rfl

end PointerRequest

/-- A command that does not look like a request for the pointer does nothing to it. -/
theorem steer_other {env : CommandEnv} {cmd : Bytes} (other : cmd.take 6 ≠ ascii "MOUSE_")
    {action : Action} (acts : action ∈ (CommandDispatcher.dispatch env cmd).actions)
    (pointer : Pointer) : VirtualInput.steer pointer action = pointer := by
  cases prompts_dispatch acts with
  | shell text runs member =>
      cases action with
      | exec | execDetached => rfl
      | startMirror | stopMirror | moveMouse | scrollWheel | clickMouse | mouseDown | mouseUp
      | typeText | pressKey => cases runs
  | startMirror named => rfl
  | stopMirror named => rfl
  | input isInput acts =>
      have differs : ∀ {count : Nat} {name : Bytes}, 6 ≤ count → name.take 6 = ascii "MOUSE_" →
          cmd.take count ≠ name := by
        intro count name long mouse same
        have shorter := congrArg (List.take 6) same
        rw [List.take_take, Nat.min_eq_left long, mouse] at shorter
        exact other shorter
      unfold CommandDispatcher.handleInputCommand at acts
      rw [if_neg (differs (by decide) (by decide)), if_neg (differs (by decide) (by decide)),
        if_neg (differs (by decide) (by decide)), if_neg (differs (by decide) (by decide)),
        if_neg (differs (by decide) (by decide))] at acts
      split at acts
      · cases acts
      · split at acts
        · rw [List.mem_singleton.mp acts]
          rfl
        · split at acts
          · rw [List.mem_singleton.mp acts]
            rfl
          · cases acts

/-- A command of a client means what it says. -/
theorem steer_command {env : CommandEnv} (hasInput : env.hasInput = true) {command : ClientCommand}
    (sane : command.Sane) (pointer : Pointer) :
    (CommandDispatcher.dispatch env command.text).actions.foldl VirtualInput.steer pointer =
      command.apply pointer := by
  cases command with
  | pointer request =>
      change (CommandDispatcher.dispatch env request.command).actions.foldl _ _ = _
      rw [PointerRequest.dispatch_command hasInput sane]
      exact PointerRequest.steer_action pointer request
  | other text =>
      have still : ∀ actions : List Action, (∀ action ∈ actions,
          VirtualInput.steer pointer action = pointer) →
          actions.foldl VirtualInput.steer pointer = pointer := by
        intro actions each
        induction actions with
        | nil => rfl
        | cons action later ih =>
            rw [List.foldl_cons, each action List.mem_cons_self]
            exact ih fun behind member => each behind (List.mem_cons_of_mem _ member)
      exact still _ fun action acts => steer_other sane acts pointer

/-- What a desktop knows of the mouse when it has read all that the system relays of a run of
commands, the device being in use. -/
def desktop (deliver : List Request → List InputEvent) (start : Pointer)
    (commands : List (CommandEnv × Bytes)) : Watch :=
  (⟨start, []⟩ : Watch).watchAll (deliver (VirtualInput.mouseRequests true true commands))

/-- Nothing is lost on the way to the desktop that means anything. -/
theorem desktop_eq {deliver : List Request → List InputEvent} (relays : RelaysDevices deliver)
    {start : Pointer} (released : start.held = fun _ => false)
    (commands : List (CommandEnv × Bytes)) :
    desktop deliver start commands =
      ⟨(VirtualInput.actionsOf commands).foldl VirtualInput.steer start, []⟩ := by
  have relayed := relays _ _ (VirtualInput.inOrder_mouse true commands)
  have agrees : (⟨start, []⟩ : Watch).Agrees ⟨start, []⟩ := ⟨rfl, rfl, id⟩
  have read := Watch.agrees_of_relays relayed agrees released fun _ => rfl
  rw [if_pos rfl, VirtualInput.watch_commands] at read
  have pending := read.pending rfl
  have pointer := read.pointer
  unfold desktop
  generalize (⟨start, []⟩ : Watch).watchAll
    (deliver (VirtualInput.mouseRequests true true commands)) = known at pending pointer ⊢
  obtain ⟨known, packet⟩ := known
  simp only at pending pointer
  rw [pending, pointer]

/-- The commands of a client mean what they say. -/
theorem steer_commands (pointer : Pointer) {sent : List (CommandEnv × ClientCommand)}
    (sane : ∀ command ∈ sent, command.1.hasInput = true ∧ command.2.Sane) :
    (VirtualInput.actionsOf (sent.map fun command => (command.1, command.2.text))).foldl
        VirtualInput.steer pointer =
      sent.foldl (fun pointer command => command.2.apply pointer) pointer := by
  induction sent generalizing pointer with
  | nil => rfl
  | cons command later ih =>
      obtain ⟨⟨hasInput, first⟩, behind⟩ := List.forall_mem_cons.mp sane
      simp only [VirtualInput.actionsOf, List.map_cons, List.flatMap_cons, List.foldl_append,
        List.foldl_cons, steer_command hasInput first]
      exact ih _ behind

/-- Whatever the commands are, both devices are used in order and destroyed, their events are
declared, and without both of them nothing is written.  Whatever system relays the events, the
desktop has no packet pending, and no button but the three of the mouse is down.  The moves of the
requests of a client add up, other commands between them do nothing to the pointer, and a button is
down exactly behind its last press. -/
theorem pointer_follows_requests (deliver : List Request → List InputEvent)
    (relays : RelaysDevices deliver) (x y wheel : Int) (sent : List (CommandEnv × ClientCommand))
    (sane : ∀ command ∈ sent, command.1.hasInput = true ∧ command.2.Sane) :
    (∀ (mouse keyboard : Bool) (commands : List (CommandEnv × Bytes)),
      (if mouse then
          LivesInOrder (VirtualInput.mouseLife mouse keyboard commands)
            (if keyboard then VirtualInput.ready.pointerEvents commands else [])
        else VirtualInput.mouseLife mouse keyboard commands = []) ∧
      (if mouse && keyboard then
          LivesInOrder (VirtualInput.keyboardLife mouse keyboard commands)
            (VirtualInput.ready.commandEvents commands)
        else VirtualInput.keyboardLife mouse keyboard commands = [])) ∧
      (∀ commands : List (CommandEnv × Bytes),
        (desktop deliver ⟨x, y, wheel, fun _ => false⟩ commands).pending = [] ∧
          ∀ code, (desktop deliver ⟨x, y, wheel, fun _ => false⟩ commands).pointer.held code =
            true →
            code = btnLeft ∨ code = btnRight ∨ code = btnMiddle) ∧
      desktop deliver ⟨x, y, wheel, fun _ => false⟩
          (sent.map fun command => (command.1, command.2.text)) =
        ⟨sent.foldl (fun pointer command => command.2.apply pointer) ⟨x, y, wheel, fun _ => false⟩,
          []⟩ := by
  have seen := fun commands => @desktop_eq deliver relays ⟨x, y, wheel, fun _ => false⟩ rfl commands
  refine ⟨?_, ?_, ?_⟩
  · intro mouse keyboard commands
    cases mouse with
    | false => exact ⟨rfl, rfl⟩
    | true =>
        refine ⟨⟨_, rfl, VirtualInput.inOrder_mouse keyboard commands⟩, ?_⟩
        cases keyboard with
        | false => rfl
        | true => exact ⟨_, rfl, VirtualInput.inOrder_keyboard commands⟩
  · intro commands
    rw [seen]
    refine ⟨rfl, ?_⟩
    intro code held
    rcases VirtualInput.held_steers held with impossible | button
    · cases impossible
    · exact button
  · rw [seen, steer_commands _ sane]

/-- A drag to the right, begun twice, with a text typed in the middle; the system leaves out the
second press and the move along the other axis. -/
theorem pointer_follows_requests_drag :
    let env := (Env.quiet.header 0).command
    let sent : List (CommandEnv × ClientCommand) :=
      [(env, .pointer (.down (ascii "LEFT"))), (env, .pointer (.down (ascii "LEFT"))),
        (env, .other (ascii "KEY_TYPE:a")), (env, .pointer (.move 30 0)),
        (env, .pointer (.up (ascii "LEFT")))]
    let deliver := fun requests : List Request =>
      sieve (fun _ => false) true (requests.filterMap Request.emitted)
    (desktop deliver ⟨0, 0, 0, fun _ => false⟩
      (sent.map fun command => (command.1, command.2.text))).pointer.x = 30 := by
  intro env sent deliver
  have sane : ∀ command ∈ sent, command.1.hasInput = true ∧ command.2.Sane := by
    have fits : ((-2 ^ 31 : Int) ≤ 30 ∧ (30 : Int) < 2 ^ 31) ∧ (-2 ^ 31 : Int) ≤ 0 ∧
        (0 : Int) < 2 ^ 31 := by decide
    have text : (ascii "KEY_TYPE:a").take 6 ≠ ascii "MOUSE_" := by decide
    simp only [sent, List.forall_mem_cons]
    exact ⟨⟨rfl, trivial⟩, ⟨rfl, trivial⟩, ⟨rfl, text⟩, ⟨rfl, fits⟩, ⟨rfl, trivial⟩, by simp⟩
  have follows := (pointer_follows_requests deliver relaysDevices_sieve 0 0 0 sent sane).2.2
  exact (congrArg (fun reader => reader.pointer.x) follows).trans rfl

end TitanShare
