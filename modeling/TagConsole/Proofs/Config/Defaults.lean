import TagConsole.Proofs.Config.Precedence
import TagConsole.Proofs.Text.Utf8

/-!
The defaults with the environment over them. Either every variable counts or none does, and an empty file comes
to the same.
-/

namespace TagConsole.Config

section Defaults

variable {env : Environment}

theorem ofText?_empty : ofText? "" = some {} := by
  decide +kernel

theorem loadFrom_empty {files : Files} {path : String} (empty : files.readText path = .ok "") (env : Environment) :
    loadFrom files env path = finish env {} := by
  rw [loadFrom, readFile, empty]
  change ((ofText? "").elim (Except.error (.parse path)) Except.ok).bind (finish env) = _
  rw [ofText?_empty]
  rfl

structure Suits (env : Environment) : Prop where
  fit : ∀ setting ∈ Setting.all, setting.Fits env
  positive : (overridden env {}).IsPositive

theorem finish_eq_ok {config : Config} : finish env {} = .ok config ↔ Suits env ∧ config = overridden env {} := by
  have finished := finish_finished env {}
  constructor
  · intro done
    rw [done] at finished
    cases finished with
    | done fit positive => exact ⟨⟨fit, positive⟩, rfl⟩
  · rintro ⟨suits, rfl⟩
    rw [finish, withEnvironment_of_fit suits.fit]
    exact validate_of_isPositive suits.positive

theorem withDefaults_of_suits (suits : Suits env) : withDefaults env = overridden env {} := by
  rw [withDefaults, finish_eq_ok.mpr ⟨suits, rfl⟩]

theorem withDefaults_of_not_suits (unsuited : ¬ Suits env) : withDefaults env = {} := by
  rw [withDefaults]
  split
  · rename_i config done
    exact absurd (finish_eq_ok.mp done).1 unsuited
  · rfl

theorem get_overridden {setting : Setting} (member : setting ∈ Setting.all) (file : Config) :
    setting.get (overridden env file) =
      (env.parsed? setting.variableName setting.parse).getD (setting.get file) := by
  revert setting
  simp [Setting.all, overridden]

def Setting.Follows (env : Environment) (config : Config) (setting : Setting) : Prop :=
  ∀ value, env.text? setting.variableName = some value →
    setting.parse (Text.trim value) = some (setting.get config)

theorem follows_of_suits (suits : Suits env) {setting : Setting} (member : setting ∈ Setting.all) :
    setting.Follows env (withDefaults env) := by
  intro value found
  obtain ⟨a, parsed⟩ := Option.isSome_iff_exists.mp (suits.fit setting member value found)
  rw [withDefaults_of_suits suits, get_overridden member, Environment.parsed?, found, Option.bind_some, parsed]
  rfl

end Defaults

structure AllOrNothing (env : Environment) : Prop where
  loaded : ∀ files path config, files.readText path = .ok "" → loadFrom files env path = .ok config →
    withDefaults env = config
  refused : ∀ files path error, files.readText path = .ok "" → loadFrom files env path = .error error →
    withDefaults env = {}
  all : Suits env → withDefaults env = overridden env {} ∧
    ∀ setting ∈ Setting.all, setting.Follows env (withDefaults env)
  /-- One value that does not fit, or a zero that nothing can run with, and no variable counts. -/
  nothing : ¬ Suits env → withDefaults env = {}
  neverSome : ∀ changed ∈ Setting.all, changed.get (withDefaults env) ≠ changed.get {} →
    ∀ setting ∈ Setting.all, setting.Follows env (withDefaults env)

theorem defaults_all_or_nothing (env : Environment) : AllOrNothing env where
  loaded files path config empty loaded := by
    obtain ⟨suits, rfl⟩ := finish_eq_ok.mp ((loadFrom_empty empty env).symm.trans loaded)
    exact withDefaults_of_suits suits
  refused files path error empty refused := by
    refine withDefaults_of_not_suits fun suits => ?_
    cases ((loadFrom_empty empty env).symm.trans refused).symm.trans (finish_eq_ok.mpr ⟨suits, rfl⟩)
  all suits := ⟨withDefaults_of_suits suits, fun _ => follows_of_suits suits⟩
  nothing := withDefaults_of_not_suits
  neverSome changed _ differs setting member := by
    by_cases suits : Suits env
    · exact follows_of_suits suits member
    · rw [withDefaults_of_not_suits suits] at differs
      exact absurd rfl differs

theorem text?_texts (texts : List (String × String)) (name : String) :
    Environment.text? { entries := texts.map fun entry => (entry.1, Text.toUtf8 entry.2) } name = texts.lookup name := by
  induction texts with
  | nil => rfl
  | cons entry texts ih =>
    rw [Environment.text?] at ih ⊢
    rw [List.map_cons, List.lookup_cons, List.lookup_cons]
    cases name == entry.1 with
    | true => exact Text.ofUtf8?_toUtf8 entry.2
    | false => exact ih

def halfFit : List (String × String) :=
  [("CHAMELEON_TERM_TERMINAL_HISTORY_SIZE", "5"), ("CHAMELEON_TERM_TERMINAL_OUTPUT_LIMIT", "0")]

theorem defaults_all_or_nothing_halfFit :
    let env : Environment := { entries := halfFit.map fun entry => (entry.1, Text.toUtf8 entry.2) }
    let files : Files := { root := [("empty.toml", .file [])] }
    loadFrom files env "empty.toml" = .error (.invalid "terminal" "output_limit" "must be greater than zero") ∧
      withDefaults env = {} := by
  intro env files
  have readable : files.readText "empty.toml" = .ok "" := by decide +kernel
  have fit : ∀ setting ∈ Setting.all, setting.Fits env := by
    simp only [Setting.all, List.forall_mem_cons, Setting.Fits, env, text?_texts]
    decide
  have refused : loadFrom files env "empty.toml" =
      .error (.invalid "terminal" "output_limit" "must be greater than zero") := by
    rw [loadFrom_empty readable, finish, withEnvironment_of_fit fit]
    simp only [overridden, Environment.parsed?, env, text?_texts]
    decide
  exact ⟨refused, (defaults_all_or_nothing env).refused files _ _ readable refused⟩

end TagConsole.Config
