import TitanShare.CommandActions
import TitanShare.JsonRoundTrip
import TitanShare.ReplyLines

/-!
# The JSON replies

An app parses the list of the files it can ask for, the system information and the endpoint of the
mirror. What it reads is what the daemon collected: texts, numbers and names come back as they were,
whatever bytes they hold.
-/

namespace TitanShare

open ByteText Outcome

/-! ## Serialised lists -/

namespace Json

/-- What is serialised element by element is read element by element. -/
theorem reads_mapM {α : Type} {elements : List α} {write : α → Except Exception Bytes}
    {value : α → Value} {texts : List Bytes}
    (reads : ∀ element ∈ elements, ∀ text, write element = .ok text → Reads (value element) text)
    (written : elements.mapM write = .ok texts) :
    Reads (.array (elements.map value)) (array texts) := by
  have paired : ∃ parts : List (Value × Bytes), parts.map Prod.fst = elements.map value ∧
      parts.map Prod.snd = texts ∧ ∀ part ∈ parts, Reads part.1 part.2 := by
    induction elements generalizing texts with
    | nil =>
        obtain rfl := Except.ok.inj written
        exact ⟨[], rfl, rfl, by simp⟩
    | cons first later ih =>
        rw [List.mapM_cons] at written
        obtain ⟨text, here, written⟩ := bind_eq_ok_iff.mp written
        obtain ⟨others, behind, written⟩ := bind_eq_ok_iff.mp written
        obtain rfl := Except.ok.inj written
        obtain ⟨parts, values, rfl, all⟩ :=
          ih (fun element member => reads element (List.mem_cons_of_mem _ member)) behind
        refine ⟨(value first, text) :: parts, by simp [values], rfl, ?_⟩
        exact List.forall_mem_cons.mpr ⟨reads first List.mem_cons_self text here, all⟩
  obtain ⟨parts, values, rfl, all⟩ := paired
  rw [← values]
  exact reads_array all

end Json

/-! ## What the app reads -/

/-- A text that is replaced when it is missing. -/
def orUnknown (text : Bytes) : Bytes :=
  if text = [] then ascii "Unknown" else text

namespace SystemReadings

/-- The object with what was collected. -/
def value (readings : SystemReadings) : Json.Value :=
  .object
    [(ascii "battery", .number (decimalInt readings.battery)),
      (ascii "brand", .string (orUnknown readings.brand)),
      (ascii "cpu_core_count", .number (decimal readings.cpuCoreCount)),
      (ascii "cpu_cores_usage", .array (readings.cpuCoresUsage.map .string)),
      (ascii "cpu_freq_ghz", .string readings.cpuFreqGhz),
      (ascii "cpu_load", .string readings.cpuLoad),
      (ascii "cpu_temp", .string readings.cpuTemp),
      (ascii "model", .string (orUnknown readings.model)),
      (ascii "net_speed", .string (ascii "0 Mbps")),
      (ascii "os_version", .string readings.osVersion),
      (ascii "ramTotal", .string readings.ramTotal),
      (ascii "ramUsage", .string readings.ramUsage),
      (ascii "ramUsed", .string readings.ramUsed),
      (ascii "storageTotal", .string readings.storageTotal),
      (ascii "storageUsed", .string readings.storageUsed),
      (ascii "storage_usage", .string readings.storageUsage)]

/-- The numbers are of their type `int`. -/
structure Typed (readings : SystemReadings) : Prop where
  battery : readings.battery.natAbs ≤ 2 ^ 31
  cores : readings.cpuCoreCount < 2 ^ 31

end SystemReadings

/-- What is read from the answer to `get_info`. -/
def infoValue (readings : SystemReadings) : Json.Value :=
  .object [(ascii "data", readings.value), (ascii "type", .string (ascii "system_info"))]

/-- What is read from the endpoint of the mirror. -/
def endpointValue (ip type : Bytes) : Json.Value :=
  .object [(ascii "ip", .string ip), (ascii "port", .number (decimal Config.mirrorPort)),
    (ascii "type", .string type)]

def fileValue (file : Bytes × Nat) : Json.Value :=
  .object [(ascii "name", .string file.1), (ascii "size", .number (decimal file.2))]

/-- What is read from the answer to `push_file_list`. -/
def listingValue (files : List (Bytes × Nat)) : Json.Value :=
  .object [(ascii "files", .array (files.map fileValue)),
    (ascii "type", .string (ascii "push_file_list"))]

theorem reads_info {readings : SystemReadings} (typed : readings.Typed) {text : Bytes}
    (dumps : SystemInfo.dump readings = .ok text) : Json.Reads readings.value text := by
  obtain ⟨brand, ofBrand, dumps⟩ := bind_eq_ok_iff.mp dumps
  obtain ⟨cores, ofCores, dumps⟩ := bind_eq_ok_iff.mp dumps
  obtain ⟨freq, ofFreq, dumps⟩ := bind_eq_ok_iff.mp dumps
  obtain ⟨load, ofLoad, dumps⟩ := bind_eq_ok_iff.mp dumps
  obtain ⟨temp, ofTemp, dumps⟩ := bind_eq_ok_iff.mp dumps
  obtain ⟨model, ofModel, dumps⟩ := bind_eq_ok_iff.mp dumps
  obtain ⟨netSpeed, ofNetSpeed, dumps⟩ := bind_eq_ok_iff.mp dumps
  obtain ⟨osVersion, ofOsVersion, dumps⟩ := bind_eq_ok_iff.mp dumps
  obtain ⟨ramTotal, ofRamTotal, dumps⟩ := bind_eq_ok_iff.mp dumps
  obtain ⟨ramUsage, ofRamUsage, dumps⟩ := bind_eq_ok_iff.mp dumps
  obtain ⟨ramUsed, ofRamUsed, dumps⟩ := bind_eq_ok_iff.mp dumps
  obtain ⟨storageTotal, ofStorageTotal, dumps⟩ := bind_eq_ok_iff.mp dumps
  obtain ⟨storageUsed, ofStorageUsed, dumps⟩ := bind_eq_ok_iff.mp dumps
  obtain ⟨storageUsage, ofStorageUsage, dumps⟩ := bind_eq_ok_iff.mp dumps
  obtain rfl := Except.ok.inj dumps
  let fields : List Json.Field :=
    [⟨"battery", .number (decimalInt readings.battery), decimalInt readings.battery⟩,
      ⟨"brand", .string (orUnknown readings.brand), brand⟩,
      ⟨"cpu_core_count", .number (decimal readings.cpuCoreCount), decimal readings.cpuCoreCount⟩,
      ⟨"cpu_cores_usage", .array (readings.cpuCoresUsage.map .string), Json.array cores⟩,
      ⟨"cpu_freq_ghz", .string readings.cpuFreqGhz, freq⟩,
      ⟨"cpu_load", .string readings.cpuLoad, load⟩, ⟨"cpu_temp", .string readings.cpuTemp, temp⟩,
      ⟨"model", .string (orUnknown readings.model), model⟩,
      ⟨"net_speed", .string (ascii "0 Mbps"), netSpeed⟩,
      ⟨"os_version", .string readings.osVersion, osVersion⟩,
      ⟨"ramTotal", .string readings.ramTotal, ramTotal⟩,
      ⟨"ramUsage", .string readings.ramUsage, ramUsage⟩,
      ⟨"ramUsed", .string readings.ramUsed, ramUsed⟩,
      ⟨"storageTotal", .string readings.storageTotal, storageTotal⟩,
      ⟨"storageUsed", .string readings.storageUsed, storageUsed⟩,
      ⟨"storage_usage", .string readings.storageUsage, storageUsage⟩]
  have reads : ∀ field ∈ fields, Json.Reads field.value field.text := by
    have battery := typed.battery
    have count := typed.cores
    simp only [fields, List.forall_mem_cons]
    exact ⟨Json.reads_decimalInt (by omega), Json.reads_string ofBrand,
      Json.reads_decimal (by omega),
      Json.reads_mapM (fun _ _ _ quoted => Json.reads_string quoted) ofCores,
      Json.reads_string ofFreq, Json.reads_string ofLoad, Json.reads_string ofTemp,
      Json.reads_string ofModel, Json.reads_string ofNetSpeed, Json.reads_string ofOsVersion,
      Json.reads_string ofRamTotal, Json.reads_string ofRamUsage, Json.reads_string ofRamUsed,
      Json.reads_string ofStorageTotal, Json.reads_string ofStorageUsed,
      Json.reads_string ofStorageUsage, by simp⟩
  have keys : fields.map Json.Field.key = ["battery", "brand", "cpu_core_count", "cpu_cores_usage",
      "cpu_freq_ghz", "cpu_load", "cpu_temp", "model", "net_speed", "os_version", "ramTotal",
      "ramUsage", "ramUsed", "storageTotal", "storageUsed", "storage_usage"] := rfl
  have plain : ∀ key ∈ fields.map Json.Field.key, Json.PlainKey key := by
    rw [keys]
    decide +kernel
  have ordered : Json.Ascending (fields.map Json.Field.key) := by
    rw [keys]
    decide +kernel
  exact Json.reads_object reads plain ordered

theorem reads_file {file : Bytes × Nat} (small : file.2 < 2 ^ 64) {text : Bytes}
    (dumps : dumpFile file = .ok text) : Json.Reads (fileValue file) text := by
  obtain ⟨name, quoted, rfl⟩ := map_eq_ok dumps
  let fields : List Json.Field :=
    [⟨"name", .string file.1, name⟩, ⟨"size", .number (decimal file.2), decimal file.2⟩]
  have reads : ∀ field ∈ fields, Json.Reads field.value field.text := by
    simp only [fields, List.forall_mem_cons]
    exact ⟨Json.reads_string quoted, Json.reads_decimal small, by simp⟩
  have plain : ∀ key ∈ ["name", "size"], Json.PlainKey key := by decide
  have ordered : Json.Ascending ["name", "size"] := by decide
  exact @Json.reads_object fields reads plain ordered

/-- A regular file of a folder, with its size. -/
def DirEntry.listed (entry : DirEntry) : Option (Bytes × Nat) :=
  match entry.regular, entry.fileSize with
  | .ok true, .ok size => some (entry.name, size)
  | _, _ => none

/-- What is listed of a folder that was found or not. -/
def ListingEnv.files (env : ListingEnv) : List (Bytes × Nat) :=
  match env.found with
  | .ok true => env.entries.filterMap DirEntry.listed
  | _ => []

theorem collectFiles_eq_listed {entries : List DirEntry} {files : List (Bytes × Nat)}
    (collects : collectFiles entries = .ok files) : files = entries.filterMap DirEntry.listed := by
  induction entries generalizing files with
  | nil => exact (Except.ok.inj collects).symm
  | cons entry rest ih =>
      obtain ⟨regular, isRegular, collects⟩ := bind_eq_ok_iff.mp collects
      have behind : ∀ here, (if entry.advances = false then Except.error Exception.filesystemError
          else do
            let later ← collectFiles rest
            pure (here ++ later)) = Except.ok files →
          files = here ++ rest.filterMap DirEntry.listed := by
        intro here collects
        split at collects
        · cases collects
        · obtain ⟨later, collected, collects⟩ := bind_eq_ok_iff.mp collects
          rw [← ih collected]
          exact (Except.ok.inj collects).symm
      cases regular with
      | false =>
          have unlisted : entry.listed = none := by simp [DirEntry.listed, isRegular]
          rw [List.filterMap_cons_none unlisted]
          exact behind [] collects
      | true =>
          obtain ⟨here, found, collects⟩ := bind_eq_ok_iff.mp collects
          obtain ⟨size, sized, rfl⟩ := map_eq_ok found
          have listed : entry.listed = some (entry.name, size) := by
            simp [DirEntry.listed, isRegular, sized]
          rw [List.filterMap_cons_some listed]
          exact behind [(entry.name, size)] collects

/-- The sizes of the files are of the type that `file_size` returns. -/
def ListingEnv.Typed (env : ListingEnv) : Prop :=
  ∀ file ∈ env.files, file.2 < 2 ^ 64

theorem reads_listing {env : ListingEnv} (typed : env.Typed) {text : Bytes}
    (dumps : env.dump = .ok text) : Json.Reads (listingValue env.files) text := by
  have serialised : ∀ files : List (Bytes × Nat), (∀ file ∈ files, file.2 < 2 ^ 64) →
      (do
        let dumped ← files.mapM dumpFile
        let type ← Json.string (ascii "push_file_list")
        return Json.object [("files", Json.array dumped), ("type", type)]) = Except.ok text →
        Json.Reads (listingValue files) text := by
    intro files small dumps
    obtain ⟨dumped, written, dumps⟩ := bind_eq_ok_iff.mp dumps
    obtain ⟨type, quoted, dumps⟩ := bind_eq_ok_iff.mp dumps
    obtain rfl := Except.ok.inj dumps
    let fields : List Json.Field :=
      [⟨"files", .array (files.map fileValue), Json.array dumped⟩,
        ⟨"type", .string (ascii "push_file_list"), type⟩]
    have reads : ∀ field ∈ fields, Json.Reads field.value field.text := by
      simp only [fields, List.forall_mem_cons]
      refine ⟨Json.reads_mapM ?_ written, Json.reads_string quoted, by simp⟩
      intro file member text dumps
      exact reads_file (small file member) dumps
    have plain : ∀ key ∈ ["files", "type"], Json.PlainKey key := by decide
    have ordered : Json.Ascending ["files", "type"] := by decide
    exact @Json.reads_object fields reads plain ordered
  rw [ListingEnv.Typed, ListingEnv.files] at typed
  rw [ListingEnv.files]
  obtain ⟨found, isFound, dumps⟩ := bind_eq_ok_iff.mp dumps
  rw [isFound] at typed ⊢
  cases found with
  | false => exact serialised [] (by simp) dumps
  | true =>
      obtain ⟨files, collects, dumps⟩ := bind_eq_ok_iff.mp dumps
      rw [← collectFiles_eq_listed collects] at typed ⊢
      exact serialised files typed dumps

/-- The system information behind its type. -/
theorem reads_systemInfo {env : CommandEnv} (typed : env.readings.Typed) {response : Bytes}
    (replied : (CommandDispatcher.handleSystemInfo env).reply = .ok response) :
    ∃ text, response = text ++ ascii "\n" ∧ Json.Reads (infoValue env.readings) text := by
  obtain ⟨data, dumped, replied⟩ := bind_eq_ok_iff.mp replied
  obtain ⟨type, quoted, replied⟩ := bind_eq_ok_iff.mp replied
  obtain rfl := Except.ok.inj replied
  let fields : List Json.Field :=
    [⟨"data", env.readings.value, data⟩, ⟨"type", .string (ascii "system_info"), type⟩]
  have reads : ∀ field ∈ fields, Json.Reads field.value field.text := by
    simp only [fields, List.forall_mem_cons]
    exact ⟨reads_info typed dumped, Json.reads_string quoted, by simp⟩
  have plain : ∀ key ∈ ["data", "type"], Json.PlainKey key := by decide
  have ordered : Json.Ascending ["data", "type"] := by decide
  exact ⟨_, rfl, @Json.reads_object fields reads plain ordered⟩

theorem reads_endpoint {env : CommandEnv} {type response : Bytes}
    (replied : CommandDispatcher.mirrorReply env type = .ok response) :
    ∃ text, response = text ++ ascii "\n" ∧ Json.Reads (endpointValue env.localIp type) text := by
  obtain ⟨ip, address, replied⟩ := bind_eq_ok_iff.mp replied
  obtain ⟨typeText, quoted, replied⟩ := bind_eq_ok_iff.mp replied
  obtain rfl := Except.ok.inj replied
  let fields : List Json.Field :=
    [⟨"ip", .string env.localIp, ip⟩,
      ⟨"port", .number (decimal Config.mirrorPort), decimal Config.mirrorPort⟩,
      ⟨"type", .string type, typeText⟩]
  have reads : ∀ field ∈ fields, Json.Reads field.value field.text := by
    simp only [fields, List.forall_mem_cons]
    exact ⟨Json.reads_string address, Json.reads_decimal (by decide),
      Json.reads_string quoted, by simp⟩
  have plain : ∀ key ∈ ["ip", "port", "type"], Json.PlainKey key := by decide
  have ordered : Json.Ascending ["ip", "port", "type"] := by decide
  exact ⟨_, rfl, @Json.reads_object fields reads plain ordered⟩

/-! ## Runs -/

/-- The numbers of the surroundings are of their types. -/
structure Env.Typed (env : Env) : Prop where
  readings : ∀ count, (env.header count).command.readings.Typed
  listing : ∀ count, (env.header count).listing.Typed

/-- What a response is, in the surroundings of its command. -/
inductive Told (command : CommandEnv) (response : Bytes) : Prop
  | went (listed : response = cmdOk ∨ response = cmdFail ∨ response = cmdUnknown)
  | info (text : Bytes) (shape : response = text ++ ascii "\n")
      (parses : Json.parse text = some (infoValue command.readings))
  | endpoint (type text : Bytes) (known : type = ascii "MIRROR_READY" ∨ type = ascii "MIRROR_ERROR")
      (shape : response = text ++ ascii "\n")
      (parses : Json.parse text = some (endpointValue command.localIp type))

theorem told_dispatch {command : CommandEnv} (typed : command.readings.Typed) {cmd response : Bytes}
    (nonempty : response ≠ [])
    (replied : (CommandDispatcher.dispatch command cmd).reply = .ok response) :
    Told command response := by
  cases CommandDispatcher.responds_dispatch replied with
  | nothing empty => exact absurd empty nonempty
  | fixed listed => exact .went listed
  | info collected =>
      obtain ⟨text, shape, reads⟩ := reads_systemInfo typed collected
      exact .info text shape reads.parse_eq
  | mirror type known endpoint =>
      obtain ⟨text, shape, reads⟩ := reads_endpoint endpoint
      exact .endpoint type text known shape reads.parse_eq

/-- In every run, an app that parses the answers of a session reads what the daemon collected at one
of the run's chunks: from a list its files with their sizes, whatever bytes their names hold, and
from the answer to a command how it went, the system information, or the endpoint of the mirror. -/
theorem replies_read_back (startup : Startup) (inputs : List Input) (conn : Nat) (client : Client)
    (present : (Daemon.run startup inputs).clients conn = some client)
    (typed : ∀ other chunk env, Input.data other chunk env ∈ inputs → env.Typed) :
    (∀ listing, Event.reply (.fileList listing) ∈ client.trace →
      ∃ other chunk env count, Input.data other chunk env ∈ inputs ∧
        Json.parse listing = some (listingValue (env.header count).listing.files)) ∧
      ∀ response, Event.reply (.dispatched response) ∈ client.trace →
        ∃ other chunk env count, Input.data other chunk env ∈ inputs ∧
          Told (env.header count).command response := by
  have prompted := prompted_run startup inputs conn client present
  constructor
  · intro listing listed
    obtain ⟨other, chunk, env, given, count, dumps⟩ := prompted _ listed
    have reads := reads_listing ((typed other chunk env given).listing count) dumps
    exact ⟨other, chunk, env, count, given, reads.parse_eq⟩
  · intro response replied
    obtain ⟨other, chunk, env, given, nonempty, count, cmd, dispatched⟩ := prompted _ replied
    exact ⟨other, chunk, env, count, given,
      told_dispatch ((typed other chunk env given).readings count) nonempty dispatched⟩

/-- A folder with a file whose name is in quotes. -/
def Env.listingQuoted : Env :=
  { Env.quiet with
    header := fun index =>
      { Env.quiet.header index with
        listing := ⟨.ok true, [⟨ascii "\"a\"", .ok true, .ok 5, true⟩]⟩ } }

/-- A client that pairs and asks for the list. -/
def askForList : List Input :=
  [.connect 0 false (ascii "10.0.0.2"),
    .data 0 (ascii "123456\nCMD:push_file_list\n") .listingQuoted]

theorem replies_read_back_quoted :
    ∃ client listing, (Daemon.run (.fresh (ascii "123456")) askForList).clients 0 = some client ∧
      Event.reply (.fileList listing) ∈ client.trace ∧
      Json.parse listing = some (listingValue [(ascii "\"a\"", 5)]) := by
  have surroundings : ∀ {other chunk env}, Input.data other chunk env ∈ askForList →
      env = .listingQuoted := by
    intro other chunk env member
    rcases List.mem_cons.mp member with connects | member
    · cases connects
    · exact (Input.data.inj (List.mem_singleton.mp member)).2.2
  have typed : ∀ other chunk env, Input.data other chunk env ∈ askForList → env.Typed := by
    intro other chunk env member
    rw [surroundings member]
    have idle : (Env.quiet.header 0).command.readings.Typed := ⟨by decide, by decide⟩
    refine ⟨fun _ => idle, fun count file listed => ?_⟩
    rw [List.mem_singleton.mp (show file ∈ [(ascii "\"a\"", 5)] from listed)]
    decide
  obtain ⟨client, listing, present, listed⟩ : ∃ client listing,
      (Daemon.run (.fresh (ascii "123456")) askForList).clients 0 = some client ∧
        Event.reply (.fileList listing) ∈ client.trace :=
    ⟨_, ((Env.listingQuoted.header 0).listing.dump.toOption).getD [], rfl, by decide +kernel⟩
  obtain ⟨other, chunk, env, count, given, parses⟩ := (replies_read_back (.fresh (ascii "123456"))
    askForList 0 client present typed).1 listing listed
  rw [surroundings given] at parses
  exact ⟨client, listing, present, listed, parses⟩

end TitanShare
