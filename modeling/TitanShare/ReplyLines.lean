import TitanShare.HandleHeader
import TitanShare.JsonRoundTrip

/-!
# Every reply is a line

A client takes the replies of the daemon apart at the newlines.  No reply has a newline in it but
the one it ends in, whatever the texts it was put together from hold: the serialiser escapes theirs,
and a name that was asked for came on a line itself.
-/

namespace TitanShare

open ByteText Outcome

/-! ## Serialised texts -/

namespace Json

theorem unbroken_written : ∀ state < 9, ∀ code < 256,
    decode state (UInt8.ofNat code) = 1 ∨ 10 ∉ written state (UInt8.ofNat code) := by
  decide +kernel

theorem unbroken_dumped {state : Nat} {text body : Bytes} (small : state < 9)
    (dumped : dumpEscapedFrom state text = .ok body) : 10 ∉ body := by
  induction text generalizing state body with
  | nil =>
      rw [dumpEscapedFrom] at dumped
      split at dumped
      · obtain rfl := Except.ok.inj dumped
        exact List.not_mem_nil
      · cases dumped
  | cons head tail ih =>
      rw [dumpEscapedFrom] at dumped
      split at dumped
      · cases dumped
      · rename_i continues
        split at dumped
        · cases dumped
        · rename_i later behind
          obtain rfl := Except.ok.inj dumped
          have code : UInt8.ofNat head.toNat = head := UInt8.ofNat_toNat
          have first := unbroken_written state small head.toNat head.toNat_lt
          have next := decode_lt state small head.toNat head.toNat_lt
          rw [code] at first next
          rw [List.mem_append, not_or]
          exact ⟨first.resolve_left continues, ih next behind⟩

theorem unbroken_string {text quoted : Bytes} (dumps : string text = .ok quoted) : 10 ∉ quoted := by
  rw [string] at dumps
  split at dumps
  · cases dumps
  · rename_i body dumped
    obtain rfl := Except.ok.inj dumps
    have quote : (10 : UInt8) ≠ byte '"' := by decide
    simp [quote, unbroken_dumped (by decide) dumped]

theorem unbroken_intercalate {separator : Bytes} {pieces : List Bytes} (clean : 10 ∉ separator)
    (pieceClean : ∀ piece ∈ pieces, 10 ∉ piece) : 10 ∉ List.intercalate separator pieces := by
  induction pieces with
  | nil => simp
  | cons first later ih =>
      have here := pieceClean first List.mem_cons_self
      have behind := ih fun piece member => pieceClean piece (List.mem_cons_of_mem _ member)
      cases later with
      | nil => simpa using here
      | cons second later =>
          rw [List.intercalate_cons_cons]
          simp [here, clean, behind]

theorem unbroken_array {elements : List Bytes} (clean : ∀ element ∈ elements, 10 ∉ element) :
    10 ∉ array elements := by
  have inner := @unbroken_intercalate [byte ','] elements (by decide) clean
  have brackets : (10 : UInt8) ≠ byte '[' ∧ (10 : UInt8) ≠ byte ']' := by decide
  simp [array, inner, brackets]

theorem unbroken_object {members : List (String × Bytes)}
    (keys : ∀ key ∈ members.map Prod.fst, 10 ∉ ascii key)
    (values : ∀ value ∈ members.map Prod.snd, 10 ∉ value) : 10 ∉ object members := by
  have pieces : ∀ piece ∈ members.map
      (fun member => byte '"' :: ascii member.1 ++ ascii "\":" ++ member.2), 10 ∉ piece := by
    intro piece member
    obtain ⟨⟨key, value⟩, present, rfl⟩ := List.mem_map.mp member
    have keyClean := keys key (List.mem_map_of_mem present)
    have valueClean := values value (List.mem_map_of_mem present)
    have quotes : (10 : UInt8) ≠ byte '"' ∧ 10 ∉ ascii "\":" := by decide
    simp [keyClean, valueClean, quotes]
  have inner := unbroken_intercalate (by decide : 10 ∉ [byte ',']) pieces
  have braces : (10 : UInt8) ≠ byte '{' ∧ (10 : UInt8) ≠ byte '}' := by decide
  unfold object
  rw [List.mem_append, List.mem_cons, List.mem_singleton]
  rintro ((opening | between) | closing)
  · exact braces.1 opening
  · exact inner between
  · exact braces.2 closing

end Json

theorem unbroken_decimal (value : Nat) : 10 ∉ decimal value := fun member => by
  have digit := isDigit_of_mem_decimal 10 member
  exact absurd digit (by decide)

theorem unbroken_decimalInt (value : Int) : 10 ∉ decimalInt value := by
  unfold decimalInt
  split
  · have sign : (10 : UInt8) ≠ byte '-' := by decide
    simp [sign, unbroken_decimal]
  · exact unbroken_decimal _

/-! ## Lines -/

/-- A text without a newline in it that does not announce a file. -/
structure PlainReply (text : Bytes) : Prop where
  unbroken : 10 ∉ text
  announces : text.take 10 ≠ ascii "FILE_PUSH:"

instance (text : Bytes) : Decidable (PlainReply text) :=
  decidable_of_iff (10 ∉ text ∧ text.take 10 ≠ ascii "FILE_PUSH:")
    ⟨fun plain => ⟨plain.1, plain.2⟩, fun plain => ⟨plain.1, plain.2⟩⟩

/-- A line that does not announce a file. -/
def IsLine (text : Bytes) : Prop :=
  ∃ body, text = body ++ [10] ∧ PlainReply body

theorem isLine_of_body {text : Bytes} (body : Bytes) (shape : text = body ++ [10] := by decide)
    (plain : PlainReply body := by decide) : IsLine text :=
  ⟨body, shape, plain⟩

theorem isLine_object {members : List (String × Bytes)}
    (keys : ∀ key ∈ members.map Prod.fst, 10 ∉ ascii key)
    (values : ∀ value ∈ members.map Prod.snd, 10 ∉ value) :
    IsLine (Json.object members ++ ascii "\n") := by
  refine ⟨Json.object members, rfl, Json.unbroken_object keys values, ?_⟩
  intro announces
  rw [Json.object, List.cons_append, List.take_succ_cons] at announces
  have first := congrArg List.head? announces
  rw [List.head?_cons] at first
  exact absurd first (by decide)

/-! ## What the dispatcher answers -/

theorem unbroken_mapM {texts quoted : List Bytes} (dumps : texts.mapM Json.string = .ok quoted) :
    ∀ text ∈ quoted, 10 ∉ text := by
  induction texts generalizing quoted with
  | nil =>
      obtain rfl := Except.ok.inj dumps
      simp
  | cons first later ih =>
      rw [List.mapM_cons] at dumps
      obtain ⟨text, here, dumps⟩ := bind_eq_ok_iff.mp dumps
      obtain ⟨others, behind, dumps⟩ := bind_eq_ok_iff.mp dumps
      obtain rfl := Except.ok.inj dumps
      exact List.forall_mem_cons.mpr ⟨Json.unbroken_string here, ih behind⟩

theorem unbroken_systemInfo {readings : SystemReadings} {text : Bytes}
    (dumps : SystemInfo.dump readings = .ok text) : 10 ∉ text := by
  obtain ⟨brand, ofBrand, dumps⟩ := bind_eq_ok_iff.mp dumps
  obtain ⟨cores, ofCores, dumps⟩ := bind_eq_ok_iff.mp dumps
  obtain ⟨freq, ofFreq, dumps⟩ := bind_eq_ok_iff.mp dumps
  obtain ⟨load, ofLoad, dumps⟩ := bind_eq_ok_iff.mp dumps
  obtain ⟨temp, ofTemp, dumps⟩ := bind_eq_ok_iff.mp dumps
  obtain ⟨model, ofModel, dumps⟩ := bind_eq_ok_iff.mp dumps
  obtain ⟨netSpeed, ofNetSpeed, dumps⟩ := bind_eq_ok_iff.mp dumps
  obtain ⟨osVersion, ofOsVersion, dumps⟩ := bind_eq_ok_iff.mp dumps
  obtain ⟨ramTotal, ofRamTotal, dumps⟩ := bind_eq_ok_iff.mp dumps
  obtain ⟨ramUsage, ofRamUsage, dumps⟩ := bind_eq_ok_iff.mp dumps
  obtain ⟨ramUsed, ofRamUsed, dumps⟩ := bind_eq_ok_iff.mp dumps
  obtain ⟨storageTotal, ofStorageTotal, dumps⟩ := bind_eq_ok_iff.mp dumps
  obtain ⟨storageUsed, ofStorageUsed, dumps⟩ := bind_eq_ok_iff.mp dumps
  obtain ⟨storageUsage, ofStorageUsage, dumps⟩ := bind_eq_ok_iff.mp dumps
  obtain rfl := Except.ok.inj dumps
  apply Json.unbroken_object
  · have keys : ∀ key ∈ ["battery", "brand", "cpu_core_count", "cpu_cores_usage", "cpu_freq_ghz",
        "cpu_load", "cpu_temp", "model", "net_speed", "os_version", "ramTotal", "ramUsage",
        "ramUsed", "storageTotal", "storageUsed", "storage_usage"], 10 ∉ ascii key := by decide
    exact keys
  · simp only [List.map_cons, List.map_nil, List.forall_mem_cons]
    exact ⟨unbroken_decimalInt _, Json.unbroken_string ofBrand, unbroken_decimal _,
      Json.unbroken_array (unbroken_mapM ofCores), Json.unbroken_string ofFreq,
      Json.unbroken_string ofLoad, Json.unbroken_string ofTemp, Json.unbroken_string ofModel,
      Json.unbroken_string ofNetSpeed, Json.unbroken_string ofOsVersion,
      Json.unbroken_string ofRamTotal, Json.unbroken_string ofRamUsage,
      Json.unbroken_string ofRamUsed, Json.unbroken_string ofStorageTotal,
      Json.unbroken_string ofStorageUsed, Json.unbroken_string ofStorageUsage, by simp⟩

theorem isLine_cmdOk : IsLine cmdOk :=
  isLine_of_body (ascii "CMD_OK")

theorem isLine_cmdFail : IsLine cmdFail :=
  isLine_of_body (ascii "CMD_FAIL")

theorem isLine_cmdUnknown : IsLine cmdUnknown :=
  isLine_of_body (ascii "CMD_UNKNOWN")

/-- Whatever is replied is a line. -/
def Answer.Lined (answer : Answer) : Prop :=
  ∀ response, answer.reply = .ok response → IsLine response

/-- Whatever is replied says how the command went. -/
def Answer.Fixed (answer : Answer) : Prop :=
  ∀ response, answer.reply = .ok response →
    response = cmdOk ∨ response = cmdFail ∨ response = cmdUnknown

theorem fixed_error {actions : List Action} (exception : Exception) :
    Answer.Fixed ⟨actions, .error exception⟩ := nofun

theorem fixed_ok {actions : List Action} {response : Bytes}
    (listed : response = cmdOk ∨ response = cmdFail ∨ response = cmdUnknown) :
    Answer.Fixed ⟨actions, .ok response⟩ := by
  intro given replied
  obtain rfl := Except.ok.inj replied
  exact listed

theorem Answer.Fixed.lined {answer : Answer} (fixed : answer.Fixed) : answer.Lined := by
  intro response replied
  rcases fixed response replied with rfl | rfl | rfl
  · exact isLine_cmdOk
  · exact isLine_cmdFail
  · exact isLine_cmdUnknown

theorem map_eq_ok {α β : Type} {result : Except Exception α} {function : α → β} {value : β}
    (yields : result.map function = .ok value) : ∃ given, result = .ok given ∧
      function given = value := by
  cases result with
  | error exception => cases yields
  | ok given => exact ⟨given, rfl, Except.ok.inj yields⟩

theorem fixed_exec (env : CommandEnv) (before : List Action) (command : Bytes) :
    (execAnswer env before command).Fixed := by
  unfold execAnswer
  split
  · exact fixed_ok (.inl rfl)
  · exact fixed_ok (.inr (.inl rfl))

theorem fixed_power (env : CommandEnv) (cmd : Bytes) : (PowerCommands.execute env cmd).Fixed := by
  unfold PowerCommands.execute
  split
  · exact fixed_exec env _ _
  · split
    · exact fixed_exec env _ _
    · split
      · exact fixed_exec env _ _
      · exact fixed_ok (.inr (.inr rfl))

theorem fixed_volume (env : CommandEnv) (cmd : Bytes) : (VolumeCommands.execute env cmd).Fixed := by
  simp only [VolumeCommands.execute]
  split
  · exact fixed_exec env _ _
  · split
    · exact fixed_exec env _ _
    · split
      · exact fixed_exec env _ _
      · exact fixed_ok (.inr (.inr rfl))

theorem fixed_unlock (env : CommandEnv) : (LockCommands.unlockSession env).Fixed := by
  simp only [LockCommands.unlockSession]
  split
  · exact fixed_ok (.inr (.inl rfl))
  · split
    · exact fixed_error _
    · intro response replied
      obtain ⟨_, _, rfl⟩ := map_eq_ok replied
      exact .inl rfl

theorem fixed_lock (env : CommandEnv) (cmd : Bytes) : (LockCommands.execute env cmd).Fixed := by
  simp only [LockCommands.execute]
  split
  · split
    · exact fixed_ok (.inr (.inl rfl))
    · split
      · exact fixed_ok (.inr (.inl rfl))
      · exact fixed_exec env _ _
  · split
    · exact fixed_unlock env
    · split
      · exact fixed_ok (.inl rfl)
      · exact fixed_ok (.inr (.inr rfl))

namespace CommandDispatcher

theorem lined_systemInfo (env : CommandEnv) : (handleSystemInfo env).Lined := by
  intro response replied
  obtain ⟨data, dumped, replied⟩ := bind_eq_ok_iff.mp replied
  obtain ⟨type, quoted, replied⟩ := bind_eq_ok_iff.mp replied
  obtain rfl := Except.ok.inj replied
  refine isLine_object ?_ ?_
  · have keys : ∀ key ∈ ["data", "type"], 10 ∉ ascii key := by decide
    exact keys
  · simp only [List.map_cons, List.map_nil, List.forall_mem_cons]
    exact ⟨unbroken_systemInfo dumped, Json.unbroken_string quoted, by simp⟩

theorem lined_mirrorReply {env : CommandEnv} {actions : List Action} (type : Bytes) :
    Answer.Lined ⟨actions, mirrorReply env type⟩ := by
  intro response replied
  obtain ⟨ip, address, replied⟩ := bind_eq_ok_iff.mp replied
  obtain ⟨typeText, quoted, replied⟩ := bind_eq_ok_iff.mp replied
  obtain rfl := Except.ok.inj replied
  refine isLine_object ?_ ?_
  · have keys : ∀ key ∈ ["ip", "port", "type"], 10 ∉ ascii key := by decide
    exact keys
  · simp only [List.map_cons, List.map_nil, List.forall_mem_cons]
    exact ⟨Json.unbroken_string address, unbroken_decimal _, Json.unbroken_string quoted, by simp⟩

/-- A mirror command is answered with the endpoint or with how it went. -/
theorem mirror_reply {env : CommandEnv} {cmd response : Bytes}
    (replied : (handleMirrorCommand env cmd).reply = .ok response) :
    (response = cmdOk ∨ response = cmdFail ∨ response = cmdUnknown) ∨
      ∃ type, (type = ascii "MIRROR_READY" ∨ type = ascii "MIRROR_ERROR") ∧
        mirrorReply env type = .ok response := by
  unfold handleMirrorCommand at replied
  split at replied
  · split at replied
    · exact .inr ⟨_, .inl rfl, replied⟩
    · split at replied
      · cases replied
      · exact .inr ⟨_, .inr rfl, replied⟩
      · exact .inr ⟨_, .inl rfl, replied⟩
  · split at replied
    · exact .inl (.inl (Except.ok.inj replied).symm)
    · exact .inl (.inr (.inl (Except.ok.inj replied).symm))

theorem lined_mirror (env : CommandEnv) (cmd : Bytes) : (handleMirrorCommand env cmd).Lined := by
  intro response replied
  rcases mirror_reply replied with fixed | ⟨type, _, endpoint⟩
  · exact (@fixed_ok [] response fixed).lined response rfl
  · exact @lined_mirrorReply env [] type response endpoint

/-- An input command is not answered, unless there is no input. -/
theorem input_reply {env : CommandEnv} {cmd response : Bytes}
    (replied : (handleInputCommand env cmd).reply = .ok response) :
    response = [] ∨ response = cmdFail := by
  have silent : (.ok [] : Except Exception Bytes) = .ok response → response = [] ∨
      response = cmdFail :=
    fun same => .inl (Except.ok.inj same).symm
  have fails : (.ok cmdFail : Except Exception Bytes) = .ok response →
      response = [] ∨ response = cmdFail :=
    fun same => .inr (Except.ok.inj same).symm
  unfold handleInputCommand at replied
  split at replied
  · exact fails replied
  · split at replied
    · split at replied
      · exact silent replied
      · split at replied
        · cases replied
        · split at replied
          · cases replied
          · exact silent replied
    · split at replied
      · split at replied
        · cases replied
        · exact silent replied
      · repeat' split at replied
        all_goals first | exact silent replied | exact fails replied

/-- Every other command is answered with a line. -/
theorem lined_dispatch (env : CommandEnv) {cmd : Bytes} (other : isInputCommand cmd = false) :
    (dispatch env cmd).Lined := by
  unfold dispatch
  split
  · exact (fixed_power env cmd).lined
  · split
    · exact (fixed_volume env cmd).lined
    · split
      · exact (fixed_lock env cmd).lined
      · split
        · exact lined_systemInfo env
        · split
          · exact lined_mirror env cmd
          · rw [if_neg (by rw [other]; decide)]
            exact (fixed_ok (.inr (.inr rfl))).lined

theorem dispatch_input (env : CommandEnv) {cmd : Bytes} (input : isInputCommand cmd = true) :
    dispatch env cmd = handleInputCommand env cmd := by
  have apart : ∀ name : Bytes, isInputCommand name = false → cmd ≠ name := by
    rintro name other rfl
    rw [input] at other
    cases other
  unfold dispatch
  rw [if_neg, if_neg, if_neg, if_neg, if_neg, if_pos input]
  · exact not_or.mpr ⟨apart _ (by decide), apart _ (by decide)⟩
  · exact apart _ (by decide)
  · exact not_or.mpr ⟨apart _ (by decide), not_or.mpr ⟨apart _ (by decide), apart _ (by decide)⟩⟩
  · exact not_or.mpr ⟨apart _ (by decide), not_or.mpr ⟨apart _ (by decide), apart _ (by decide)⟩⟩
  · exact not_or.mpr ⟨apart _ (by decide), not_or.mpr ⟨apart _ (by decide), apart _ (by decide)⟩⟩

/-- What a command is answered with: nothing, how it went, the system information, or the endpoint
of the mirror. -/
inductive Responds (env : CommandEnv) (response : Bytes) : Prop
  | nothing (empty : response = [])
  | fixed (listed : response = cmdOk ∨ response = cmdFail ∨ response = cmdUnknown)
  | info (collected : (handleSystemInfo env).reply = .ok response)
  | mirror (type : Bytes) (known : type = ascii "MIRROR_READY" ∨ type = ascii "MIRROR_ERROR")
      (endpoint : mirrorReply env type = .ok response)

theorem responds_dispatch {env : CommandEnv} {cmd response : Bytes}
    (replied : (dispatch env cmd).reply = .ok response) : Responds env response := by
  unfold dispatch at replied
  split at replied
  · exact .fixed (fixed_power env cmd response replied)
  · split at replied
    · exact .fixed (fixed_volume env cmd response replied)
    · split at replied
      · exact .fixed (fixed_lock env cmd response replied)
      · split at replied
        · exact .info replied
        · split at replied
          · rcases mirror_reply replied with fixed | ⟨type, known, endpoint⟩
            · exact .fixed fixed
            · exact .mirror type known endpoint
          · split at replied
            · rcases input_reply replied with empty | fails
              · exact .nothing empty
              · exact .fixed (.inr (.inl fails))
            · exact .fixed (.inr (.inr (Except.ok.inj replied).symm))

/-- A response is nothing or a line. -/
theorem isLine_dispatch {env : CommandEnv} {cmd response : Bytes}
    (replied : (dispatch env cmd).reply = .ok response) : response = [] ∨ IsLine response := by
  cases input : isInputCommand cmd with
  | false => exact .inr (lined_dispatch env input response replied)
  | true =>
      rw [dispatch_input env input] at replied
      rcases input_reply replied with nothing | rfl
      · exact .inl nothing
      · exact .inr isLine_cmdFail

end CommandDispatcher

theorem unbroken_dumpFiles {files : List (Bytes × Nat)} {dumped : List Bytes}
    (written : files.mapM dumpFile = .ok dumped) : ∀ text ∈ dumped, 10 ∉ text := by
  induction files generalizing dumped with
  | nil =>
      obtain rfl := Except.ok.inj written
      simp
  | cons file later ih =>
      rw [List.mapM_cons] at written
      obtain ⟨text, here, written⟩ := bind_eq_ok_iff.mp written
      obtain ⟨others, behind, written⟩ := bind_eq_ok_iff.mp written
      obtain rfl := Except.ok.inj written
      refine List.forall_mem_cons.mpr ⟨?_, ih behind⟩
      obtain ⟨nameText, name, rfl⟩ := map_eq_ok here
      apply Json.unbroken_object
      · have keys : ∀ key ∈ ["name", "size"], 10 ∉ ascii key := by decide
        exact keys
      · simp only [List.map_cons, List.map_nil, List.forall_mem_cons]
        exact ⟨Json.unbroken_string name, unbroken_decimal _, by simp⟩

/-- The list of the files that can be asked for is a line. -/
theorem isLine_listing {env : ListingEnv} {listing : Bytes} (dumps : env.dump = .ok listing) :
    IsLine (listing ++ ascii "\n") := by
  have serialised : ∀ files : List (Bytes × Nat),
      (do
        let dumped ← files.mapM dumpFile
        let type ← Json.string (ascii "push_file_list")
        return Json.object [("files", Json.array dumped), ("type", type)]) = Except.ok listing →
        IsLine (listing ++ ascii "\n") := by
    intro files dumps
    obtain ⟨dumped, written, dumps⟩ := bind_eq_ok_iff.mp dumps
    obtain ⟨type, quoted, dumps⟩ := bind_eq_ok_iff.mp dumps
    obtain rfl := Except.ok.inj dumps
    refine isLine_object ?_ ?_
    · have keys : ∀ key ∈ ["files", "type"], 10 ∉ ascii key := by decide
      exact keys
    · simp only [List.map_cons, List.map_nil, List.forall_mem_cons]
      exact ⟨Json.unbroken_array (unbroken_dumpFiles written), Json.unbroken_string quoted, by simp⟩
  obtain ⟨found, _, dumps⟩ := bind_eq_ok_iff.mp dumps
  cases found with
  | false => exact serialised [] dumps
  | true =>
      obtain ⟨files, _, dumps⟩ := bind_eq_ok_iff.mp dumps
      exact serialised files dumps

end TitanShare
