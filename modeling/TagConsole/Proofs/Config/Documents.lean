import TagConsole.Config.Schema
import TagConsole.Proofs.Document.Records

/-!
The configuration in a document. Each setting is what the document holds for it, or its default.
-/

namespace TagConsole.Config

open Document (Codec TypedMember Value Entries MakesUp RecordsFit keysOf lastEntries record_fits record_last)
open Link (DataBits FlowControl Parity StopBits)

def linkFields : List (TypedMember LinkSection) :=
  [⟨Nat, "baud_rate", word32, (·.baudRate), fun link n => { link with baudRate := n }⟩,
   ⟨DataBits, "data_bits", .choice DataBits.all DataBits.name, (·.dataBits),
     fun link bits => { link with dataBits := bits }⟩,
   ⟨Parity, "parity", .choice Parity.all Parity.name, (·.parity), fun link parity => { link with parity := parity }⟩,
   ⟨StopBits, "stop_bits", .choice StopBits.all StopBits.name, (·.stopBits),
     fun link bits => { link with stopBits := bits }⟩,
   ⟨FlowControl, "flow_control", .choice FlowControl.all FlowControl.name, (·.flowControl),
     fun link control => { link with flowControl := control }⟩,
   ⟨Nat, "read_timeout_ms", word64, (·.readTimeout), fun link n => { link with readTimeout := n }⟩,
   ⟨Nat, "read_buffer", word64, (·.readBuffer), fun link n => { link with readBuffer := n }⟩,
   ⟨Nat, "inbound_capacity", word64, (·.inboundCapacity), fun link n => { link with inboundCapacity := n }⟩]

def radioFields : List (TypedMember RadioSection) :=
  [⟨String, "name_filter", .string, (·.nameFilter), fun radio text => { radio with nameFilter := text }⟩,
   ⟨Uuid, "service_uuid", identifier, (·.serviceUuid), fun radio uuid => { radio with serviceUuid := uuid }⟩]

def deviceFields : List (TypedMember DeviceSection) :=
  [⟨Nat, "version_timeout_ms", word64, (·.version), fun device n => { device with version := n }⟩,
   ⟨Nat, "scan_timeout_ms", word64, (·.scan), fun device n => { device with scan := n }⟩,
   ⟨Nat, "set_timeout_ms", word64, (·.set), fun device n => { device with set := n }⟩,
   ⟨Nat, "raw_timeout_ms", word64, (·.raw), fun device n => { device with raw := n }⟩]

def terminalFields : List (TypedMember TerminalSection) :=
  [⟨String, "prompt", .string, (·.prompt), fun terminal text => { terminal with prompt := text }⟩,
   ⟨Nat, "history_size", word64, (·.historySize), fun terminal n => { terminal with historySize := n }⟩,
   ⟨Nat, "output_limit", word64, (·.outputLimit), fun terminal n => { terminal with outputLimit := n }⟩]

def loggingFields : List (TypedMember LoggingSection) :=
  [⟨String, "level", .string, (·.level), fun logging text => { logging with level := text }⟩,
   ⟨LogLayout, "format", .choice LogLayout.all LogLayout.name, (·.layout),
     fun logging layout => { logging with layout := layout }⟩]

def sections : List (TypedMember Config) :=
  [⟨LinkSection, "link", linkCodec, (·.link), fun config link => { config with link := link }⟩,
   ⟨RadioSection, "radio", .record radioMembers {}, (·.radio), fun config radio => { config with radio := radio }⟩,
   ⟨DeviceSection, "device", deviceCodec, (·.device), fun config device => { config with device := device }⟩,
   ⟨TerminalSection, "terminal", .record terminalMembers {}, (·.terminal),
     fun config terminal => { config with terminal := terminal }⟩,
   ⟨LoggingSection, "logging", .record loggingMembers {}, (·.logging),
     fun config logging => { config with logging := logging }⟩]

theorem linkFields_makeUp : MakesUp linkFields where
  keys := by decide
  get_set := by simp [linkFields]
  get_set_ne := by simp [linkFields]
  ext a b same := by
    cases a
    cases b
    simpa [linkFields] using same

theorem radioFields_makeUp : MakesUp radioFields where
  keys := by decide
  get_set := by simp [radioFields]
  get_set_ne := by simp [radioFields]
  ext a b same := by
    cases a
    cases b
    simpa [radioFields] using same

theorem deviceFields_makeUp : MakesUp deviceFields where
  keys := by decide
  get_set := by simp [deviceFields]
  get_set_ne := by simp [deviceFields]
  ext a b same := by
    cases a
    cases b
    simpa [deviceFields] using same

theorem terminalFields_makeUp : MakesUp terminalFields where
  keys := by decide
  get_set := by simp [terminalFields]
  get_set_ne := by simp [terminalFields]
  ext a b same := by
    cases a
    cases b
    simpa [terminalFields] using same

theorem loggingFields_makeUp : MakesUp loggingFields where
  keys := by decide
  get_set := by simp [loggingFields]
  get_set_ne := by simp [loggingFields]
  ext a b same := by
    cases a
    cases b
    simpa [loggingFields] using same

theorem sections_makeUp : MakesUp sections where
  keys := by decide
  get_set := by simp [sections]
  get_set_ne := by simp [sections]
  ext a b same := by
    cases a
    cases b
    simpa [sections] using same

def stored {σ α : Type} (doc : Value) (name : String) (fields : List (TypedMember σ)) (key : String) (codec : Codec α) :
    Option α :=
  codec.last? (Entries.under key (lastEntries fields (Entries.under name ((doc.entries? (keysOf sections)).getD []))))

def ofDocument (doc : Value) : Config where
  link :=
    { baudRate := (stored doc "link" linkFields "baud_rate" word32).getD 115200
      dataBits := (stored doc "link" linkFields "data_bits" (.choice DataBits.all DataBits.name)).getD .eight
      parity := (stored doc "link" linkFields "parity" (.choice Parity.all Parity.name)).getD .none
      stopBits := (stored doc "link" linkFields "stop_bits" (.choice StopBits.all StopBits.name)).getD .one
      flowControl := (stored doc "link" linkFields "flow_control" (.choice FlowControl.all FlowControl.name)).getD .none
      readTimeout := (stored doc "link" linkFields "read_timeout_ms" word64).getD 50
      readBuffer := (stored doc "link" linkFields "read_buffer" word64).getD 1024
      inboundCapacity := (stored doc "link" linkFields "inbound_capacity" word64).getD 64 }
  radio :=
    { nameFilter := (stored doc "radio" radioFields "name_filter" .string).getD "chameleon"
      serviceUuid := (stored doc "radio" radioFields "service_uuid" identifier).getD serialService }
  device :=
    { version := (stored doc "device" deviceFields "version_timeout_ms" word64).getD 5000
      scan := (stored doc "device" deviceFields "scan_timeout_ms" word64).getD 10000
      set := (stored doc "device" deviceFields "set_timeout_ms" word64).getD 3000
      raw := (stored doc "device" deviceFields "raw_timeout_ms" word64).getD 5000 }
  terminal :=
    { prompt := (stored doc "terminal" terminalFields "prompt" .string).getD "proxmark3> "
      historySize := (stored doc "terminal" terminalFields "history_size" word64).getD 100
      outputLimit := (stored doc "terminal" terminalFields "output_limit" word64).getD 1000 }
  logging :=
    { level := (stored doc "logging" loggingFields "level" .string).getD "info"
      layout := (stored doc "logging" loggingFields "format" (.choice LogLayout.all LogLayout.name)).getD .pretty }

/-- The sections of a document stand for records, and every setting in them has a value of its type. -/
structure SectionsFit (entries : Entries) : Prop where
  link : RecordsFit linkFields (Entries.under "link" entries)
  radio : RecordsFit radioFields (Entries.under "radio" entries)
  device : RecordsFit deviceFields (Entries.under "device" entries)
  terminal : RecordsFit terminalFields (Entries.under "terminal" entries)
  logging : RecordsFit loggingFields (Entries.under "logging" entries)

/-- A document that fits the schema. Sections and settings that it does not name keep their defaults, and what else
    it names does not count. -/
def IsValid (doc : Value) : Prop := ∃ entries, doc.entries? (keysOf sections) = some entries ∧ SectionsFit entries

theorem sections_fit {entries : Entries} :
    (∀ field ∈ sections, field.codec.Fits (Entries.under field.key entries)) ↔ SectionsFit entries := by
  simp only [sections, List.forall_mem_cons]
  constructor
  · rintro ⟨link, radio, device, terminal, logging, -⟩
    exact ⟨(record_fits linkFields_makeUp).mp link, (record_fits radioFields_makeUp).mp radio,
      (record_fits deviceFields_makeUp).mp device, (record_fits terminalFields_makeUp).mp terminal,
      (record_fits loggingFields_makeUp).mp logging⟩
  · rintro ⟨link, radio, device, terminal, logging⟩
    exact ⟨(record_fits linkFields_makeUp).mpr link, (record_fits radioFields_makeUp).mpr radio,
      (record_fits deviceFields_makeUp).mpr device, (record_fits terminalFields_makeUp).mpr terminal,
      (record_fits loggingFields_makeUp).mpr logging, nofun⟩

theorem section_eq {σ : Type} {doc : Value} {entries : Entries} {name : String} {fields : List (TypedMember σ)}
    {record default other : σ} (makes : MakesUp fields) (whole : doc.entries? (keysOf sections) = some entries)
    (fits : RecordsFit fields (Entries.under name entries))
    (last : record = ((Codec.record (fields.map (·.member)) default).last? (Entries.under name entries)).getD default)
    (others : ∀ field ∈ fields,
      field.get other = (stored doc name fields field.key field.codec).getD (field.get default)) :
    record = other := by
  refine makes.ext _ _ fun field member => ?_
  rw [last, record_last makes fits member, others field member, stored, whole]
  rfl

theorem codec_read_eq_some {doc : Value} {config : Config} :
    codec.read .file doc = some config ↔ IsValid doc ∧ config = ofDocument doc := by
  have reads {config : Config} : codec.read .file doc = some config → IsValid doc ∧ config = ofDocument doc := by
    intro read
    obtain ⟨entries, whole, all⟩ := (Document.record_read_eq_some sections_makeUp).mp read
    have fits := sections_fit.mp fun field member => (all field member).1
    simp only [sections, List.forall_mem_cons] at all
    obtain ⟨⟨-, link⟩, ⟨-, radio⟩, ⟨-, device⟩, ⟨-, terminal⟩, ⟨-, logging⟩, -⟩ := all
    refine ⟨⟨entries, whole, fits⟩, sections_makeUp.ext _ _ ?_⟩
    simp only [sections, List.forall_mem_cons]
    refine ⟨section_eq linkFields_makeUp whole fits.link link ?_,
      section_eq radioFields_makeUp whole fits.radio radio ?_,
      section_eq deviceFields_makeUp whole fits.device device ?_,
      section_eq terminalFields_makeUp whole fits.terminal terminal ?_,
      section_eq loggingFields_makeUp whole fits.logging logging ?_, nofun⟩
    · simp [linkFields, ofDocument]
    · simp [radioFields, ofDocument]
    · simp [deviceFields, ofDocument]
    · simp [terminalFields, ofDocument]
    · simp [loggingFields, ofDocument]
  -- Something is read from a valid document, and by the other direction it is what the document holds.
  refine ⟨reads, ?_⟩
  rintro ⟨⟨entries, whole, fits⟩, rfl⟩
  have readable : (codec.read .file doc).isSome = true := by
    rw [codec, show members = sections.map (·.member) from rfl, Document.record_read sections_makeUp, whole]
    exact (Document.setEntries_isSome sections_makeUp).mpr (sections_fit.mpr fits)
  obtain ⟨config, read⟩ := Option.isSome_iff_exists.mp readable
  rw [read, (reads read).2]

theorem codec_read_eq_none {doc : Value} : codec.read .file doc = none ↔ ¬ IsValid doc := by
  rw [Option.eq_none_iff_forall_ne_some]
  constructor
  · exact fun none valid => none _ (codec_read_eq_some.mpr ⟨valid, rfl⟩)
  · exact fun invalid config read => invalid (codec_read_eq_some.mp read).1

end TagConsole.Config
