import TagConsole.Proofs.Config.Defaults
import TagConsole.Proofs.Document.Toml.Documents
import TagConsole.Proofs.Files.Folders
import TagConsole.Proofs.Uuid

/-!
Saving a configuration and loading it again.
-/

namespace TagConsole.Config

open Document (Codec Entries Value TypedMember MakesUp keysOf record_read_write)
open Document.Toml (WellFormed tableOf wellKeyed_of_keys)
open Files (Left)

def numbers (config : Config) : List Nat :=
  [config.link.baudRate, config.link.readTimeout, config.link.readBuffer, config.link.inboundCapacity,
   config.device.version, config.device.scan, config.device.set, config.device.raw,
   config.terminal.historySize, config.terminal.outputLimit]

def written (config : Config) : List (String × Entries) :=
  [("link", linkMembers.map fun field => (field.key, field.get config.link)),
   ("radio", radioMembers.map fun field => (field.key, field.get config.radio)),
   ("device", deviceMembers.map fun field => (field.key, field.get config.device)),
   ("terminal", terminalMembers.map fun field => (field.key, field.get config.terminal)),
   ("logging", loggingMembers.map fun field => (field.key, field.get config.logging))]

theorem codec_write (config : Config) : codec.write config = .table .header (tableOf config.written) := rfl

def largest : Nat := 0x7FFFFFFFFFFFFFFF

theorem write_isSome {config : Config} :
    (Document.Toml.write (codec.write config)).isSome = true ↔ ∀ n ∈ config.numbers, n ≤ largest := by
  have scalar (n : Nat) : (Document.Toml.writeScalar (.integer n)).isSome = true ↔ n ≤ largest := by
    rw [Document.Toml.writeScalar_integer, Text.inInt64, largest, Bool.and_eq_true, decide_eq_true_eq,
      decide_eq_true_eq]
    omega
  rw [codec_write, Document.Toml.write_isSome]
  simp only [written, numbers, linkMembers, radioMembers, deviceMembers, terminalMembers, loggingMembers,
    Document.Member.of, word32, word64, Codec.number, Codec.string, Codec.choice, identifier, List.forall_mem_cons,
    List.map_cons, List.map_nil, scalar, Document.Toml.writeScalar_text]
  simp [and_assoc]

theorem write_eq_none {config : Config} :
    Document.Toml.write (codec.write config) = none ↔ ∃ n ∈ config.numbers, largest < n := by
  rw [← Option.not_isSome_iff_eq_none, write_isSome]
  push Not
  rfl

theorem written_wellFormed (config : Config) : WellFormed config.written where
  keys := wellKeyed_of_keys (keysOf sections) rfl sections_makeUp.keys (by decide)
  entries := by
    simp only [written, List.forall_mem_cons]
    exact ⟨wellKeyed_of_keys (keysOf linkFields) rfl linkFields_makeUp.keys (by decide),
      wellKeyed_of_keys (keysOf radioFields) rfl radioFields_makeUp.keys (by decide),
      wellKeyed_of_keys (keysOf deviceFields) rfl deviceFields_makeUp.keys (by decide),
      wellKeyed_of_keys (keysOf terminalFields) rfl terminalFields_makeUp.keys (by decide),
      wellKeyed_of_keys (keysOf loggingFields) rfl loggingFields_makeUp.keys (by decide), nofun⟩

theorem number_read_write {most n : Nat} (small : n ≤ most) :
    (Codec.number most).read .file ((Codec.number most).write n) = some n :=
  if_pos ⟨Int.natCast_nonneg n, Int.ofNat_le.mpr small⟩

theorem choice_read_write {α : Type} {named : List (String × α)} {name : α → String} {a : α}
    (listed : named.lookup (name a) = some a) :
    (Codec.choice named name).read .file ((Codec.choice named name).write a) = some a := listed

theorem codec_read_write {config : Config} (fits : ∀ n ∈ config.numbers, n ≤ largest)
    (baudRate : config.link.baudRate ≤ UInt32.size - 1) : codec.read .file (codec.write config) = some config := by
  have word {n : Nat} (small : n ≤ largest) : word64.read .file (word64.write n) = some n :=
    number_read_write (small.trans (by decide))
  simp only [numbers, List.forall_mem_cons] at fits
  obtain ⟨-, readTimeout, readBuffer, inboundCapacity, version, scan, set, raw, historySize, outputLimit, -⟩ := fits
  refine record_read_write sections_makeUp ?_
  simp only [sections, List.forall_mem_cons]
  refine ⟨record_read_write linkFields_makeUp ?_, record_read_write radioFields_makeUp ?_,
    record_read_write deviceFields_makeUp ?_, record_read_write terminalFields_makeUp ?_,
    record_read_write loggingFields_makeUp ?_, List.forall_mem_nil _⟩
  · simp only [linkFields, List.forall_mem_cons]
    -- The speed is the only number whose type holds less than a document does.
    exact ⟨number_read_write baudRate, choice_read_write (by cases config.link.dataBits <;> rfl),
      choice_read_write (by cases config.link.parity <;> rfl),
      choice_read_write (by cases config.link.stopBits <;> rfl),
      choice_read_write (by cases config.link.flowControl <;> rfl), word readTimeout, word readBuffer,
      word inboundCapacity, List.forall_mem_nil _⟩
  · simp only [radioFields, List.forall_mem_cons]
    exact ⟨rfl, Uuid.ofText?_text _, List.forall_mem_nil _⟩
  · simp only [deviceFields, List.forall_mem_cons]
    exact ⟨word version, word scan, word set, word raw, List.forall_mem_nil _⟩
  · simp only [terminalFields, List.forall_mem_cons]
    exact ⟨rfl, word historySize, word outputLimit, List.forall_mem_nil _⟩
  · simp only [loggingFields, List.forall_mem_cons]
    exact ⟨rfl, choice_read_write (by cases config.logging.layout <;> rfl), List.forall_mem_nil _⟩

theorem number_read_le {most n : Nat} {value : Value} (read : (Codec.number most).read .file value = some n) :
    n ≤ most := by
  cases value with
  | integer m =>
    obtain ⟨⟨low, high⟩, same⟩ := Option.ite_none_right_eq_some.mp read
    obtain rfl := Option.some.inj same
    omega
  | _ => cases read

theorem readNat?_le {most n : Nat} {text : String} (read : Text.readNat? most text = some n) : n ≤ most :=
  of_decide_eq_true (Option.filter_eq_some_iff.mp read).2

theorem IsLoaded.baudRate_le {config : Config} (loaded : IsLoaded config) : config.link.baudRate ≤ UInt32.size - 1 := by
  rcases loaded.exists_source with ⟨env, file, source, finished⟩ | rfl
  · cases finished with
    | done fit positive =>
      change (env.parsed? "CHAMELEON_TERM_LINK_BAUD_RATE" (Text.readNat? (UInt32.size - 1))).getD
        file.link.baudRate ≤ _
      cases set : env.parsed? "CHAMELEON_TERM_LINK_BAUD_RATE" (Text.readNat? (UInt32.size - 1)) with
      | some n =>
        obtain ⟨value, -, read⟩ := Option.bind_eq_some_iff.mp set
        exact readNat?_le read
      | none =>
        rcases source with rfl | ⟨doc, -, rfl⟩
        · decide
        · change (stored doc "link" linkFields "baud_rate" word32).getD 115200 ≤ _
          cases last : stored doc "link" linkFields "baud_rate" word32 with
          | none => decide
          | some n =>
            obtain ⟨value, -, read⟩ := Option.bind_eq_some_iff.mp last
            exact number_read_le read
  · decide

def saving (files : Files) (config : Config) (path : String) : Left Error :=
  match files.makingFolderOf path with
  | ⟨.error failure, left⟩ => ⟨.error (.write path failure.text), left⟩
  | ⟨.ok (), made⟩ =>
    match Document.Toml.write (codec.write config) with
    | none => ⟨.error .render, made⟩
    | some text =>
      match made.writeText path text with
      | .error failure => ⟨.error (.write path failure.text), made⟩
      | .ok after => ⟨.ok (), after⟩

theorem save_eq (files : Files) (config : Config) (path : String) :
    save files config path = (saving files config path).result := by
  rw [save, saving, Files.makeFolderOf_eq]
  obtain ⟨failure | _, made⟩ := files.makingFolderOf path
  · rfl
  · cases Document.Toml.write (codec.write config) with
    | none => rfl
    | some text =>
      dsimp only
      cases stored : made.writeText path text with
      | error failure =>
        change (made.writeText path text).mapError _ = _
        rw [stored]
        rfl
      | ok after =>
        change (made.writeText path text).mapError _ = _
        rw [stored]
        rfl

/-- A path to which a file can be written, once there is a folder for it. -/
def IsWritable (files : Files) (path : String) : Prop :=
  ∃ made contents after, files.makeFolderOf path = .ok made ∧ made.writeText path contents = .ok after

structure Saves (config : Config) : Prop where
  /-- What saving returns, and the files that it leaves when it fails. -/
  result : ∀ files path, save files config path = (saving files config path).result
  lossless : (∀ n ∈ config.numbers, n ≤ largest) → ∀ files path env, IsWritable files path →
    (∀ setting ∈ Setting.all, env.text? setting.variableName = none) →
    ∃ after, save files config path = .ok after ∧ loadFrom after env path = .ok config
  /-- A number that a document can not hold is found before anything is written. -/
  refused : (∃ n ∈ config.numbers, largest < n) → ∀ files path made, files.makeFolderOf path = .ok made →
    save files config path = .error .render
  kept : (∃ n ∈ config.numbers, largest < n) → ∀ files path bytes, files.find path = .ok (.file bytes) →
    saving files config path = ⟨.error .render, files⟩

theorem overridden_of_unset {env : Environment} (unset : ∀ setting ∈ Setting.all, env.text? setting.variableName = none)
    (config : Config) : overridden env config = config := by
  simp only [Setting.all, List.forall_mem_cons] at unset
  simp [overridden, Environment.parsed?, unset]

theorem finish_of_unset {env : Environment} (unset : ∀ setting ∈ Setting.all, env.text? setting.variableName = none)
    {config : Config} (positive : config.IsPositive) : finish env config = .ok config := by
  have fit : ∀ setting ∈ Setting.all, setting.Fits env := by
    intro setting member value found
    rw [unset setting member] at found
    cases found
  rw [finish, withEnvironment_of_fit fit, overridden_of_unset unset]
  exact validate_of_isPositive positive

theorem ofText?_write {config : Config} (baudRate : config.link.baudRate ≤ UInt32.size - 1) {text : String}
    (written : Document.Toml.write (codec.write config) = some text) : ofText? text = some config := by
  have fits := write_isSome.mp (Option.isSome_of_mem written)
  rw [codec_write] at written
  rw [ofText?, Document.Toml.read_write (written_wellFormed config) written, ← codec_write]
  exact codec_read_write fits baudRate

theorem loaded_saves {config : Config} (loaded : IsLoaded config) : Saves config where
  result files := save_eq files config
  lossless fits files path env := by
    rintro ⟨made, contents, other, folder, writable⟩ unset
    obtain ⟨text, written⟩ := Option.isSome_iff_exists.mp (write_isSome.mpr fits)
    obtain ⟨after, stored⟩ : ∃ after, made.writeText path text = .ok after := by
      obtain ⟨way, place, name, read, leads, -⟩ := Files.writeText_eq_ok.mp writable
      exact ⟨_, Files.writeText_eq_ok.mpr ⟨way, place, name, read, leads, rfl⟩⟩
    refine ⟨after, ?_, ?_⟩
    · rw [save, folder, written]
      change (made.writeText path text).mapError _ = _
      rw [stored]
      rfl
    · rw [loadFrom, readFile, Files.readText_writeText stored]
      change ((ofText? text).elim (Except.error (.parse path)) Except.ok).bind (finish env) = _
      rw [ofText?_write loaded.baudRate_le written]
      exact finish_of_unset unset loaded.isPositive
  refused large files path made folder := by
    rw [save, folder, write_eq_none.mpr large]
    rfl
  kept large files path bytes found := by
    rw [saving, Files.makingFolderOf_of_file found, write_eq_none.mpr large]

def endless : Environment where
  entries := [("CHAMELEON_TERM_DEVICE_RAW_TIMEOUT_MS", Text.toUtf8 "9223372036854775808")]

theorem text?_endless (name : String) : endless.text? name =
    if name = "CHAMELEON_TERM_DEVICE_RAW_TIMEOUT_MS" then some "9223372036854775808" else none := by
  rw [Environment.text?, endless, List.lookup_cons, List.lookup_nil]
  split_ifs with same
  · rw [same, beq_self_eq_true]
    exact Text.ofUtf8?_toUtf8 _
  · rw [beq_eq_false_iff_ne.mpr same]
    rfl

theorem withDefaults_endless : withDefaults endless = { device := { raw := 0x8000000000000000 } } := by
  have merged : overridden endless {} = { device := { raw := 0x8000000000000000 } } := by
    simp only [overridden, Environment.parsed?, text?_endless]
    decide
  have suits : Suits endless := by
    constructor
    · simp only [Setting.all, List.forall_mem_cons, Setting.Fits, text?_endless]
      decide
    · rw [merged, isPositive_iff]
      decide
  rw [withDefaults_of_suits suits, merged]

/-- A file that chooses a slower line, and a variable that keeps a short history. -/
def slowFiles : Files := { root := [("slow.toml", .file (Text.toUtf8 "[link]\nbaud_rate = 9600\n"))] }

def brief : List (String × String) := [("CHAMELEON_TERM_TERMINAL_HISTORY_SIZE", "5")]

def slowAndBrief : Config := { link := { baudRate := 9600 }, terminal := { historySize := 5 } }

theorem loadFrom_slowFiles :
    loadFrom slowFiles { entries := brief.map fun entry => (entry.1, Text.toUtf8 entry.2) } "slow.toml" =
      .ok slowAndBrief := by
  have read : readFile slowFiles "slow.toml" = .ok { link := { baudRate := 9600 } } := by decide +kernel
  rw [loadFrom, read]
  change finish _ _ = _
  have fit : ∀ setting ∈ Setting.all,
      setting.Fits { entries := brief.map fun entry => (entry.1, Text.toUtf8 entry.2) } := by
    simp only [Setting.all, List.forall_mem_cons, Setting.Fits, text?_texts]
    decide
  rw [finish, withEnvironment_of_fit fit]
  simp only [overridden, Environment.parsed?, text?_texts]
  decide

theorem loaded_saves_or_not :
    (∃ after, save {} slowAndBrief "folder/file.toml" = .ok after ∧
        loadFrom after {} "folder/file.toml" = .ok slowAndBrief) ∧
      save {} (withDefaults endless) "folder/file.toml" = .error .render := by
  constructor
  · exact (loaded_saves (.file loadFrom_slowFiles)).lossless (by decide) {} "folder/file.toml" {}
      ⟨_, "", _, rfl, rfl⟩ fun _ _ => rfl
  · exact (loaded_saves (.defaults rfl)).refused
      ⟨0x8000000000000000, by rw [withDefaults_endless]; decide, by decide⟩ {} "folder/file.toml" _ rfl

end TagConsole.Config
