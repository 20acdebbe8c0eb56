import TagConsole.Config.Loading
import TagConsole.Proofs.Config.Documents
import TagConsole.Proofs.Config.Overrides

/-!
What loading a configuration yields. The environment goes before the file and the file before the defaults; of all
that can be wrong, what is met first is reported.
-/

namespace TagConsole.Config

open Document (Value)

structure IsPositive (config : Config) : Prop where
  baudRate : config.link.baudRate ≠ 0
  readTimeout : config.link.readTimeout ≠ 0
  readBuffer : config.link.readBuffer ≠ 0
  inboundCapacity : config.link.inboundCapacity ≠ 0
  historySize : config.terminal.historySize ≠ 0
  outputLimit : config.terminal.outputLimit ≠ 0

inductive Finished (env : Environment) (file : Config) : Except Error Config → Prop where
  | misfit {before setting after value} (order : Setting.all = before ++ setting :: after)
      (fit : ∀ earlier ∈ before, earlier.Fits env) (found : env.text? setting.variableName = some value)
      (misfit : setting.parse (Text.trim value) = none) :
      Finished env file (.error (.env setting.variableName value setting.expected))
  | zero {before header key after} (fit : ∀ setting ∈ Setting.all, setting.Fits env)
      (order : (overridden env file).positiveSettings = before ++ (header, key, 0) :: after)
      (positive : ∀ earlier ∈ before, earlier.2.2 ≠ 0) :
      Finished env file (.error (.invalid header key "must be greater than zero"))
  | done (fit : ∀ setting ∈ Setting.all, setting.Fits env) (positive : (overridden env file).IsPositive) :
      Finished env file (.ok (overridden env file))

inductive LoadedFrom (files : Files) (env : Environment) (path : String) : Except Error Config → Prop where
  | unreadable {failure} (unreadable : files.readText path = .error failure) :
      LoadedFrom files env path (.error (.read path failure.text))
  | malformed {text} (readable : files.readText path = .ok text) (malformed : Document.Toml.read text = none) :
      LoadedFrom files env path (.error (.parse path))
  | invalid {text doc} (readable : files.readText path = .ok text) (document : Document.Toml.read text = some doc)
      (invalid : ¬ IsValid doc) : LoadedFrom files env path (.error (.parse path))
  | finished {text doc result} (readable : files.readText path = .ok text)
      (document : Document.Toml.read text = some doc) (valid : IsValid doc)
      (finished : Finished env (ofDocument doc) result) : LoadedFrom files env path result

/-- What comes of looking for a file: the one that is found is loaded, or else the defaults are. -/
inductive Found (files : Files) (env : Environment) : Except Error Loaded → Prop where
  | file {path result} (found : resolve files env = some path) (loaded : LoadedFrom files env path result) :
      Found files env (result.map fun config => ⟨some path, config⟩)
  | none {result} (found : resolve files env = none) (finished : Finished env {} result) :
      Found files env (result.map fun config => ⟨none, config⟩)

theorem isPositive_iff {config : Config} :
    config.IsPositive ↔ ∀ setting ∈ config.positiveSettings, setting.2.2 ≠ 0 := by
  simp only [positiveSettings, List.forall_mem_cons, List.not_mem_nil, false_implies, implies_true, and_true]
  constructor
  · rintro ⟨baudRate, readTimeout, readBuffer, inboundCapacity, historySize, outputLimit⟩
    exact ⟨baudRate, readTimeout, readBuffer, inboundCapacity, historySize, outputLimit⟩
  · rintro ⟨baudRate, readTimeout, readBuffer, inboundCapacity, historySize, outputLimit⟩
    exact ⟨baudRate, readTimeout, readBuffer, inboundCapacity, historySize, outputLimit⟩

theorem validate_cases (config : Config) : (config.validate = .ok config ∧ config.IsPositive) ∨
    ∃ before header key after, config.positiveSettings = before ++ (header, key, 0) :: after ∧
      (∀ earlier ∈ before, earlier.2.2 ≠ 0) ∧
      config.validate = .error (.invalid header key "must be greater than zero") := by
  unfold validate
  split
  · rename_i header key n found
    obtain ⟨zero, before, after, order, positive⟩ := List.find?_eq_some_iff_append.mp found
    obtain rfl : n = 0 := by simpa using zero
    exact .inr ⟨before, header, key, after, order, by simpa using positive, rfl⟩
  · rename_i none
    exact .inl ⟨rfl, isPositive_iff.mpr fun setting member => by simpa using List.find?_eq_none.mp none setting member⟩

theorem validate_of_isPositive {config : Config} (positive : config.IsPositive) : config.validate = .ok config := by
  rcases config.validate_cases with ⟨valid, -⟩ | ⟨before, header, key, after, order, -, -⟩
  · exact valid
  · refine absurd rfl (isPositive_iff.mp positive (header, key, 0) ?_)
    simp [order]

theorem finish_finished (env : Environment) (file : Config) : Finished env file (finish env file) := by
  rw [finish]
  rcases fit_or_misfit env Setting.all with fit | ⟨before, setting, after, value, order, fit, found, misfit⟩
  · rw [withEnvironment_of_fit fit]
    change Finished env file (overridden env file).validate
    rcases (overridden env file).validate_cases with
      ⟨valid, positive⟩ | ⟨before, header, key, after, order, positive, zero⟩
    · rw [valid]
      exact .done fit positive
    · rw [zero]
      exact .zero fit order positive
  · rw [withEnvironment_of_misfit order fit found misfit]
    exact .misfit order fit found misfit

theorem loadFrom_loaded (files : Files) (env : Environment) (path : String) :
    LoadedFrom files env path (loadFrom files env path) := by
  rw [loadFrom, readFile]
  cases readable : files.readText path with
  | error failure => exact .unreadable readable
  | ok text =>
    change LoadedFrom files env path (((ofText? text).elim (Except.error (.parse path)) Except.ok).bind (finish env))
    cases document : Document.Toml.read text with
    | none =>
      rw [ofText?, document]
      exact .malformed readable document
    | some doc =>
      rw [ofText?, document, Option.bind_some]
      by_cases valid : IsValid doc
      · rw [codec_read_eq_some.mpr ⟨valid, rfl⟩]
        exact .finished readable document valid (finish_finished env _)
      · rw [codec_read_eq_none.mpr valid]
        exact .invalid readable document valid

theorem load_found (files : Files) (env : Environment) : Found files env (load files env) := by
  unfold load
  split
  · rename_i path found
    exact .file found (loadFrom_loaded files env path)
  · rename_i found
    exact .none found (finish_finished env {})

inductive IsLoaded (config : Config) : Prop where
  | file {files env path} (loaded : loadFrom files env path = .ok config)
  | found {files env path} (loaded : load files env = .ok ⟨path, config⟩)
  | defaults {env} (loaded : withDefaults env = config)

theorem Finished.isPositive {env : Environment} {file config : Config} (finished : Finished env file (.ok config)) :
    config.IsPositive := by
  cases finished with
  | done fit positive => exact positive

def IsSource (file : Config) : Prop := file = {} ∨ ∃ doc, IsValid doc ∧ file = ofDocument doc

theorem LoadedFrom.exists_source {files : Files} {env : Environment} {path : String} {config : Config}
    (loaded : LoadedFrom files env path (.ok config)) : ∃ file, IsSource file ∧ Finished env file (.ok config) := by
  cases loaded with
  | finished readable document valid finished => exact ⟨_, .inr ⟨_, valid, rfl⟩, finished⟩

theorem Found.exists_source {files : Files} {env : Environment} {path : Option String} {config : Config}
    (found : Found files env (.ok ⟨path, config⟩)) : ∃ file, IsSource file ∧ Finished env file (.ok config) := by
  generalize whole : (Except.ok ⟨path, config⟩ : Except Error Loaded) = result at found
  cases found with
  | @file path result found loaded =>
    cases result with
    | error error => cases whole
    | ok other =>
      cases whole
      exact loaded.exists_source
  | @none result found finished =>
    cases result with
    | error error => cases whole
    | ok other =>
      cases whole
      exact ⟨{}, .inl rfl, finished⟩

/-- Every configuration that is returned has the environment over a document or over the defaults. Only the defaults
    themselves are also returned without it. -/
theorem IsLoaded.exists_source {config : Config} (loaded : IsLoaded config) :
    (∃ env file, IsSource file ∧ Finished env file (.ok config)) ∨ config = {} := by
  cases loaded with
  | @file files env path loaded => exact .inl ⟨env, (loaded ▸ loadFrom_loaded files env path).exists_source⟩
  | @found files env path loaded => exact .inl ⟨env, (loaded ▸ load_found files env).exists_source⟩
  | @defaults env loaded =>
    have finished := finish_finished env {}
    unfold withDefaults at loaded
    cases done : finish env {} with
    | ok other =>
      rw [done] at loaded finished
      exact .inl ⟨env, {}, .inl rfl, loaded ▸ finished⟩
    | error error =>
      rw [done] at loaded
      exact .inr loaded.symm

theorem IsLoaded.isPositive {config : Config} (loaded : IsLoaded config) : config.IsPositive := by
  rcases loaded.exists_source with ⟨env, file, -, finished⟩ | rfl
  · exact finished.isPositive
  · rw [isPositive_iff]
    decide

/-- How configurations are loaded. -/
structure Loads (files : Files) (env : Environment) : Prop where
  file : ∀ path, LoadedFrom files env path (loadFrom files env path)
  standard : Found files env (load files env)
  positive : ∀ config, IsLoaded config → config.IsPositive
  own : ∀ other : Environment, ∀ setting ∈ Setting.all,
    (∀ another ∈ Setting.all, another.variableName ≠ setting.variableName →
      env.text? another.variableName = other.text? another.variableName) →
    ∀ file value, setting.set (overridden env file) value = setting.set (overridden other file) value

theorem configuration_loads (files : Files) (env : Environment) : Loads files env where
  file := loadFrom_loaded files env
  standard := load_found files env
  positive _ loaded := loaded.isPositive
  own _ _ member same _ value := overridden_congr member same value

end TagConsole.Config
