import Mathlib.Data.List.Basic
import TagConsole.Config.Environment

/-!
The environment over a configuration. Each variable that is set decides its own setting and no other, and the first
whose value does not fit is the one that is reported.
-/

namespace TagConsole

def Environment.parsed? {α : Type} (env : Environment) (name : String) (parse : String → Option α) : Option α :=
  (env.text? name).bind fun value => parse (Text.trim value)

namespace Config

structure Setting where
  type : Type
  variableName : String
  expected : String
  parse : String → Option type
  get : Config → type
  set : Config → type → Config

namespace Setting

def override (setting : Setting) : Override where
  variableName := setting.variableName
  expected := setting.expected
  apply text config := (setting.parse text).map (setting.set config)

def all : List Setting :=
  [⟨Nat, "CHAMELEON_TERM_LINK_BAUD_RATE", "baud rate", Text.readNat? (UInt32.size - 1), (·.link.baudRate),
     fun config n => { config with link.baudRate := n }⟩,
   ⟨Nat, "CHAMELEON_TERM_LINK_READ_TIMEOUT_MS", "timeout", Text.readNat? (UInt64.size - 1), (·.link.readTimeout),
     fun config n => { config with link.readTimeout := n }⟩,
   ⟨String, "CHAMELEON_TERM_RADIO_NAME_FILTER", "name filter", some, (·.radio.nameFilter),
     fun config text => { config with radio.nameFilter := text }⟩,
   ⟨Uuid, "CHAMELEON_TERM_RADIO_SERVICE_UUID", "service uuid", Uuid.ofText?, (·.radio.serviceUuid),
     fun config uuid => { config with radio.serviceUuid := uuid }⟩,
   ⟨Nat, "CHAMELEON_TERM_DEVICE_VERSION_TIMEOUT_MS", "timeout", Text.readNat? (UInt64.size - 1), (·.device.version),
     fun config n => { config with device.version := n }⟩,
   ⟨Nat, "CHAMELEON_TERM_DEVICE_SCAN_TIMEOUT_MS", "timeout", Text.readNat? (UInt64.size - 1), (·.device.scan),
     fun config n => { config with device.scan := n }⟩,
   ⟨Nat, "CHAMELEON_TERM_DEVICE_SET_TIMEOUT_MS", "timeout", Text.readNat? (UInt64.size - 1), (·.device.set),
     fun config n => { config with device.set := n }⟩,
   ⟨Nat, "CHAMELEON_TERM_DEVICE_RAW_TIMEOUT_MS", "timeout", Text.readNat? (UInt64.size - 1), (·.device.raw),
     fun config n => { config with device.raw := n }⟩,
   ⟨Nat, "CHAMELEON_TERM_TERMINAL_HISTORY_SIZE", "history size", Text.readNat? (UInt64.size - 1),
     (·.terminal.historySize), fun config n => { config with terminal.historySize := n }⟩,
   ⟨Nat, "CHAMELEON_TERM_TERMINAL_OUTPUT_LIMIT", "output limit", Text.readNat? (UInt64.size - 1),
     (·.terminal.outputLimit), fun config n => { config with terminal.outputLimit := n }⟩,
   ⟨String, "CHAMELEON_TERM_LOGGING_LEVEL", "log level", some, (·.logging.level),
     fun config text => { config with logging.level := text }⟩]

theorem overrides_eq : Override.all = all.map (·.override) := rfl

theorem set_get {setting : Setting} (member : setting ∈ all) (config : Config) :
    setting.set config (setting.get config) = config := by
  revert setting
  simp [all]

def Fits (env : Environment) (setting : Setting) : Prop :=
  ∀ value, env.text? setting.variableName = some value → (setting.parse (Text.trim value)).isSome = true

def apply (env : Environment) (config : Config) (setting : Setting) : Config :=
  setting.set config ((env.parsed? setting.variableName setting.parse).getD (setting.get config))

variable {env : Environment} {setting : Setting}

theorem run_of_fits (member : setting ∈ all) (fits : setting.Fits env) (config : Config) :
    Override.run env config setting.override = .ok (setting.apply env config) := by
  have name : setting.override.variableName = setting.variableName := rfl
  rw [Override.run, apply, Environment.parsed?, name]
  cases found : env.text? setting.variableName with
  -- A setting that is set to what it is stays the same.
  | none => exact congrArg Except.ok (set_get member config).symm
  | some value =>
    obtain ⟨a, parsed⟩ := Option.isSome_iff_exists.mp (fits value found)
    simp [override, parsed]

theorem run_of_misfit {value : String} (found : env.text? setting.variableName = some value)
    (misfit : setting.parse (Text.trim value) = none) (config : Config) :
    Override.run env config setting.override = .error (.env setting.variableName value setting.expected) := by
  have name : setting.override.variableName = setting.variableName := rfl
  rw [Override.run, name, found]
  simp [override, misfit]

theorem foldlM_of_fit {settings : List Setting} (within : settings ⊆ all) (fit : ∀ setting ∈ settings, setting.Fits env)
    (config : Config) : (settings.map (·.override)).foldlM (Override.run env) config =
      .ok (settings.foldl (apply env) config) := by
  induction settings generalizing config with
  | nil => rfl
  | cons first others ih =>
    rw [List.forall_mem_cons] at fit
    rw [List.cons_subset] at within
    rw [List.map_cons, List.foldlM_cons, run_of_fits within.1 fit.1]
    exact ih within.2 fit.2 _

end Setting

section Environment

variable {env : Environment} {file : Config}

def overridden (env : Environment) (file : Config) : Config where
  link :=
    { file.link with
      baudRate := (env.parsed? "CHAMELEON_TERM_LINK_BAUD_RATE" (Text.readNat? (UInt32.size - 1))).getD
        file.link.baudRate
      readTimeout := (env.parsed? "CHAMELEON_TERM_LINK_READ_TIMEOUT_MS" (Text.readNat? (UInt64.size - 1))).getD
        file.link.readTimeout }
  radio :=
    { nameFilter := (env.parsed? "CHAMELEON_TERM_RADIO_NAME_FILTER" some).getD file.radio.nameFilter
      serviceUuid := (env.parsed? "CHAMELEON_TERM_RADIO_SERVICE_UUID" Uuid.ofText?).getD file.radio.serviceUuid }
  device :=
    { version := (env.parsed? "CHAMELEON_TERM_DEVICE_VERSION_TIMEOUT_MS" (Text.readNat? (UInt64.size - 1))).getD
        file.device.version
      scan := (env.parsed? "CHAMELEON_TERM_DEVICE_SCAN_TIMEOUT_MS" (Text.readNat? (UInt64.size - 1))).getD
        file.device.scan
      set := (env.parsed? "CHAMELEON_TERM_DEVICE_SET_TIMEOUT_MS" (Text.readNat? (UInt64.size - 1))).getD
        file.device.set
      raw := (env.parsed? "CHAMELEON_TERM_DEVICE_RAW_TIMEOUT_MS" (Text.readNat? (UInt64.size - 1))).getD
        file.device.raw }
  terminal :=
    { file.terminal with
      historySize := (env.parsed? "CHAMELEON_TERM_TERMINAL_HISTORY_SIZE" (Text.readNat? (UInt64.size - 1))).getD
        file.terminal.historySize
      outputLimit := (env.parsed? "CHAMELEON_TERM_TERMINAL_OUTPUT_LIMIT" (Text.readNat? (UInt64.size - 1))).getD
        file.terminal.outputLimit }
  logging :=
    { file.logging with level := (env.parsed? "CHAMELEON_TERM_LOGGING_LEVEL" some).getD file.logging.level }

theorem foldl_apply (env : Environment) (file : Config) :
    Setting.all.foldl (Setting.apply env) file = overridden env file := rfl

theorem withEnvironment_of_fit (fit : ∀ setting ∈ Setting.all, setting.Fits env) :
    file.withEnvironment env = .ok (overridden env file) := by
  rw [withEnvironment, Setting.overrides_eq, Setting.foldlM_of_fit (List.Subset.refl _) fit, foldl_apply]

theorem withEnvironment_of_misfit {before after : List Setting} {setting : Setting} {value : String}
    (order : Setting.all = before ++ setting :: after) (fit : ∀ earlier ∈ before, earlier.Fits env)
    (found : env.text? setting.variableName = some value) (misfit : setting.parse (Text.trim value) = none) :
    file.withEnvironment env = .error (.env setting.variableName value setting.expected) := by
  have within : before ⊆ Setting.all := by
    rw [order]
    exact List.subset_append_left before _
  rw [withEnvironment, Setting.overrides_eq, order, List.map_append, List.foldlM_append,
    Setting.foldlM_of_fit within fit, List.map_cons]
  change (List.foldlM (Override.run env) _ (setting.override :: _)) = _
  rw [List.foldlM_cons, Setting.run_of_misfit found misfit]
  rfl

theorem overridden_congr {other : Environment} {own : Setting} (member : own ∈ Setting.all)
    (same : ∀ setting ∈ Setting.all, setting.variableName ≠ own.variableName →
      env.text? setting.variableName = other.text? setting.variableName) (a : own.type) :
    own.set (overridden env file) a = own.set (overridden other file) a := by
  revert own
  simp +contextual [Setting.all, overridden, Environment.parsed?]

theorem fit_or_misfit (env : Environment) (settings : List Setting) : (∀ setting ∈ settings, setting.Fits env) ∨
    ∃ before setting after value, settings = before ++ setting :: after ∧ (∀ earlier ∈ before, earlier.Fits env) ∧
      env.text? setting.variableName = some value ∧ setting.parse (Text.trim value) = none := by
  induction settings with
  | nil => exact .inl nofun
  | cons first others ih =>
    by_cases fits : first.Fits env
    · rcases ih with fit | ⟨before, setting, after, value, rfl, fit, misfit⟩
      · exact .inl (List.forall_mem_cons.mpr ⟨fits, fit⟩)
      · exact .inr ⟨first :: before, setting, after, value, rfl, List.forall_mem_cons.mpr ⟨fits, fit⟩, misfit⟩
    · simp only [Setting.Fits, not_forall] at fits
      obtain ⟨value, found, misfit⟩ := fits
      exact .inr ⟨[], first, others, value, rfl, nofun, found, by simpa using misfit⟩

end Environment

end Config

end TagConsole
