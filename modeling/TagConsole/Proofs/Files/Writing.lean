import TagConsole.Proofs.Files.Trees
import TagConsole.Proofs.Text.Utf8

/-!
Writing a file and reading it again. The way to the file is the same before and after, and at its end stands what was
written.
-/

namespace TagConsole.Files

theorem bind_eq_ok {α β : Type} {result : Except Failure α} {next : α → Except Failure β} {b : β} :
    (result >>= next) = .ok b ↔ ∃ a, result = .ok a ∧ next a = .ok b := by
  cases result with
  | error failure => exact iff_of_false nofun nofun
  | ok a => simp [bind, Except.bind]

section Steps

variable {entries : Entries} {spot next : Spot} {step : String}

theorem findIn_eq_ok {node : Node} :
    findIn entries step = .ok node ↔ step.utf8ByteSize ≤ longestName ∧ entries.lookup step = some node := by
  unfold findIn
  split
  · rename_i long
    exact iff_of_false nofun fun short => absurd long (Nat.not_lt.mpr short.1)
  · rename_i short
    rw [and_iff_right (Nat.not_lt.mp short)]
    cases entries.lookup step <;> simp

theorem enter_eq_ok : spot.enter step = .ok next ↔ ∃ entries, spot.node = .folder entries ∧
    (step = "." ∧ next = spot ∨ step = ".." ∧ next = spot.up ∨
      isDots step = false ∧ ∃ node, findIn entries step = .ok node ∧ next = ⟨node, (step, entries) :: spot.above⟩) := by
  unfold Spot.enter isDots
  cases spot.node with
  | file bytes => simp
  | folder entries =>
    by_cases stay : step = "."
    · simp [stay, eq_comm]
    · by_cases up : step = ".."
      · simp [up, eq_comm]
      · cases found : findIn entries step <;> simp [found, stay, up, Except.map, eq_comm]

inductive Stands (root : Entries) : Spot → Prop where
  | root : Stands root ⟨.folder root, []⟩
  | inside {entries above name node} (stands : Stands root ⟨.folder entries, above⟩)
      (found : entries.lookup name = some node) : Stands root ⟨node, (name, entries) :: above⟩

variable {root : Entries}

theorem place_inside (node : Node) (name : String) (entries : Entries) (spot : Spot) :
    Spot.place ⟨node, (name, entries) :: spot.above⟩ = spot.place ++ [name] := by
  simp [Spot.place]

theorem Stands.at? (stands : Stands root spot) (folder : spot.node = .folder entries) :
    Entries.at? spot.place root = some entries := by
  induction stands generalizing entries with
  | root =>
    cases folder
    rfl
  | @inside outer above name node stands found ih =>
    obtain rfl : node = .folder entries := folder
    rw [place_inside _ _ _ ⟨.folder outer, above⟩, at?_append, ih rfl, Option.bind_some, Entries.at?,
      folder?_eq_some.mpr found]
    rfl

theorem Stands.up (stands : Stands root spot) : Stands root spot.up := by
  cases stands with
  | root => exact .root
  | inside stands found => exact stands

theorem Stands.enter (stands : Stands root spot) (entered : spot.enter step = .ok next) : Stands root next := by
  obtain ⟨entries, folder, ⟨-, rfl⟩ | ⟨-, rfl⟩ | ⟨-, node, found, rfl⟩⟩ := enter_eq_ok.mp entered
  · exact stands
  · exact stands.up
  · obtain ⟨node, above⟩ := spot
    obtain rfl : node = .folder entries := folder
    exact stands.inside (findIn_eq_ok.mp found).2

end Steps

section Ways

variable {root other : Entries}

/-- A folder of one tree, and the folder of another tree at the same place. -/
structure Alongside (root other : Entries) (spot beside : Spot) : Prop where
  stands : Stands root spot
  standsBeside : Stands other beside
  place : beside.place = spot.place
  folder : ∃ entries, spot.node = .folder entries
  folderBeside : ∃ entries, beside.node = .folder entries

theorem Stands.folder_up {spot : Spot} (folder : ∃ entries, spot.node = .folder entries) :
    ∃ entries, spot.up.node = .folder entries := by
  obtain ⟨node, _ | ⟨⟨name, entries⟩, above⟩⟩ := spot
  · exact folder
  · exact ⟨entries, rfl⟩

theorem place_up (spot : Spot) : spot.up.place = spot.place.dropLast := by
  obtain ⟨node, _ | ⟨⟨name, entries⟩, above⟩⟩ := spot
  · rfl
  · rw [place_inside _ _ _ ⟨.folder entries, above⟩, List.dropLast_concat]
    rfl

theorem folder_of_steps {spot last : Spot} {steps : List String} (walked : steps.foldlM Spot.enter spot = .ok last)
    (folder : ∃ entries, last.node = .folder entries) : ∃ entries, spot.node = .folder entries := by
  cases steps with
  | nil =>
    obtain rfl := Except.ok.inj walked
    exact folder
  | cons step steps =>
    rw [List.foldlM_cons] at walked
    obtain ⟨next, entered, -⟩ := bind_eq_ok.mp walked
    obtain ⟨entries, holds, -⟩ := enter_eq_ok.mp entered
    exact ⟨entries, holds⟩

variable (keeps : ∀ place, (Entries.at? place root).isSome = true → (Entries.at? place other).isSome = true)

include keeps

theorem Alongside.enter {spot beside next : Spot} {step : String} (alongside : Alongside root other spot beside)
    (entered : spot.enter step = .ok next) (folder : ∃ entries, next.node = .folder entries) :
    ∃ nextBeside, beside.enter step = .ok nextBeside ∧ Alongside root other next nextBeside := by
  obtain ⟨stands, standsBeside, place, _, held, holdsBeside⟩ := alongside
  have standsNext := stands.enter entered
  obtain ⟨entries, holds, ⟨rfl, rfl⟩ | ⟨rfl, rfl⟩ | ⟨name, node, found, rfl⟩⟩ := enter_eq_ok.mp entered
  · exact ⟨beside, enter_eq_ok.mpr ⟨held, holdsBeside, .inl ⟨rfl, rfl⟩⟩,
      standsNext, standsBeside, place, folder, held, holdsBeside⟩
  · refine ⟨beside.up, enter_eq_ok.mpr ⟨held, holdsBeside, .inr (.inl ⟨rfl, rfl⟩)⟩,
      standsNext, standsBeside.up, ?_, folder, Stands.folder_up ⟨held, holdsBeside⟩⟩
    rw [place_up, place_up, place]
  -- Only here could the other tree differ: by `keeps` it has a folder of this name too.
  · obtain ⟨sub, rfl⟩ := folder
    have there := keeps _ (Option.isSome_of_mem (standsNext.at? rfl))
    rw [place_inside, ← place, at?_append, standsBeside.at? holdsBeside, Option.bind_some, Entries.at?] at there
    obtain ⟨_, there⟩ := Option.isSome_iff_exists.mp there
    obtain ⟨subBeside, found', -⟩ := Option.bind_eq_some_iff.mp there
    have listed := folder?_eq_some.mp found'
    have foundBeside : findIn held step = .ok (.folder subBeside) :=
      findIn_eq_ok.mpr ⟨(findIn_eq_ok.mp found).1, listed⟩
    have entersBeside : beside.enter step = .ok ⟨.folder subBeside, (step, held) :: beside.above⟩ :=
      enter_eq_ok.mpr ⟨held, holdsBeside, .inr (.inr ⟨name, _, foundBeside, rfl⟩)⟩
    refine ⟨_, entersBeside, standsNext, standsBeside.enter entersBeside, ?_, ⟨sub, rfl⟩, ⟨subBeside, rfl⟩⟩
    rw [place_inside, place_inside, place]

theorem Alongside.steps {spot beside last : Spot} {steps : List String} (alongside : Alongside root other spot beside)
    (walked : steps.foldlM Spot.enter spot = .ok last) (folder : ∃ entries, last.node = .folder entries) :
    ∃ lastBeside, steps.foldlM Spot.enter beside = .ok lastBeside ∧ Alongside root other last lastBeside := by
  induction steps generalizing spot beside with
  | nil =>
    obtain rfl := Except.ok.inj walked
    exact ⟨beside, rfl, alongside⟩
  | cons step steps ih =>
    rw [List.foldlM_cons] at walked
    obtain ⟨next, entered, walked⟩ := bind_eq_ok.mp walked
    obtain ⟨nextBeside, enteredBeside, alongside⟩ := alongside.enter keeps entered (folder_of_steps walked folder)
    obtain ⟨lastBeside, walkedBeside, alongside⟩ := ih alongside walked
    refine ⟨lastBeside, ?_, alongside⟩
    rw [List.foldlM_cons, enteredBeside]
    exact walkedBeside

end Ways

section Writing

variable {files after : Files} {text contents : String}

def stepsFromRoot (files : Files) (fromRoot : Bool) (steps : List String) : List String :=
  (if fromRoot then [] else files.current) ++ steps

theorem walk_eq (files : Files) (fromRoot : Bool) (steps : List String) :
    files.walk fromRoot steps = (files.stepsFromRoot fromRoot steps).foldlM Spot.enter files.rootSpot := by
  rw [walk, stepsFromRoot, List.foldlM_append]
  cases fromRoot <;> rfl

theorem walk_concat {fromRoot : Bool} {steps : List String} {name : String} {last : Spot} :
    files.walk fromRoot (steps ++ [name]) = .ok last ↔
      ∃ spot, files.walk fromRoot steps = .ok spot ∧ spot.enter name = .ok last := by
  rw [walk_eq, walk_eq, stepsFromRoot, ← List.append_assoc, List.foldlM_append]
  change (List.foldlM Spot.enter files.rootSpot (files.stepsFromRoot fromRoot steps) >>= _) = _ ↔ _
  rw [bind_eq_ok]
  refine exists_congr fun spot => and_congr_right fun _ => ?_
  rw [List.foldlM_cons, bind_eq_ok]
  constructor
  · rintro ⟨next, entered, same⟩
    exact Except.ok.inj same ▸ entered
  · exact fun entered => ⟨last, entered, rfl⟩

theorem folderAt_eq_ok {fromRoot : Bool} {steps place : List String} {entries : Entries} :
    files.folderAt fromRoot steps = .ok (place, entries) ↔
      ∃ spot, files.walk fromRoot steps = .ok spot ∧ spot.node = .folder entries ∧ spot.place = place := by
  rw [folderAt, bind_eq_ok]
  refine exists_congr fun spot => and_congr_right fun _ => ?_
  cases spot.node with
  | file bytes => simp
  | folder found => simp [and_comm]

/-- A path at whose end a file can be written: its last name stands in a folder, and there is no folder there under
    this name. -/
structure Leads (files : Files) (path : Path) (place : List String) (name : String) : Prop where
  steps : ∃ above entries, path.steps = above ++ [name] ∧ files.folderAt path.fromRoot above = .ok (place, entries) ∧
    name.utf8ByteSize ≤ longestName ∧ entries.folder? name = none
  name : isDots name = false
  file : path.asksFolder = false

theorem findIn_of_unused {entries : Entries} {name : String} :
    (findIn entries name = .error .notFound ∨ ∃ bytes, findIn entries name = .ok (.file bytes)) ↔
      name.utf8ByteSize ≤ longestName ∧ entries.folder? name = none := by
  unfold findIn Entries.folder?
  split
  · rename_i long
    simp [Nat.not_le.mpr long]
  · rename_i short
    rw [and_iff_right (Nat.not_lt.mp short)]
    cases entries.lookup name with
    | none => simp
    | some node => cases node <;> simp

theorem writeText_eq_ok : files.writeText text contents = .ok after ↔ ∃ path place name, Path.read text = .ok path ∧
    files.Leads path place name ∧ after = files.putFile (place ++ [name]) (Text.toUtf8 contents) := by
  rw [writeText, bind_eq_ok]
  refine exists_congr fun path => ?_
  cases reversed : path.steps.reverse with
  | nil =>
    obtain none := List.reverse_eq_nil_iff.mp reversed
    refine iff_of_false nofun ?_
    rintro ⟨place, name, -, ⟨⟨above, entries, steps, -⟩, -⟩, -⟩
    simp [none] at steps
  | cons name above =>
    have steps : path.steps = above.reverse ++ [name] := by
      rw [← List.reverse_cons, ← reversed, List.reverse_reverse]
    constructor
    · rintro ⟨read, written⟩
      obtain ⟨⟨place, entries⟩, folder, written⟩ := bind_eq_ok.mp written
      dsimp only at written
      split at written
      · cases written
      · rename_i plain
        simp only [Bool.or_eq_true, not_or, Bool.not_eq_true] at plain
        have leads (unused : name.utf8ByteSize ≤ longestName ∧ entries.folder? name = none) :
            files.Leads path place name := ⟨⟨_, entries, steps, folder, unused⟩, plain.1, plain.2⟩
        split at written
        · cases written
        · rename_i bytes found
          exact ⟨place, name, read, leads (findIn_of_unused.mp (.inr ⟨bytes, found⟩)),
            (Except.ok.inj written).symm⟩
        · rename_i found
          exact ⟨place, name, read, leads (findIn_of_unused.mp (.inl found)), (Except.ok.inj written).symm⟩
        · cases written
    · rintro ⟨place, last, read, ⟨⟨front, entries, steps', folder, unused⟩, plain, file⟩, rfl⟩
      obtain ⟨rfl, same⟩ := List.append_inj' (steps.symm.trans steps') rfl
      obtain rfl := List.singleton_inj.mp same
      refine ⟨read, bind_eq_ok.mpr ⟨_, folder, ?_⟩⟩
      simp only [plain, file, Bool.or_false, Bool.false_eq_true, if_false]
      rcases findIn_of_unused.mpr unused with found | ⟨bytes, found⟩
      · rw [found]
      · rw [found]

theorem Stands.steps {root : Entries} {spot last : Spot} {steps : List String} (stands : Stands root spot)
    (walked : steps.foldlM Spot.enter spot = .ok last) : Stands root last := by
  induction steps generalizing spot with
  | nil =>
    obtain rfl := Except.ok.inj walked
    exact stands
  | cons step steps ih =>
    rw [List.foldlM_cons] at walked
    obtain ⟨next, entered, later⟩ := bind_eq_ok.mp walked
    exact ih (stands.enter entered) later

theorem Leads.walk_putFile {path : Path} {place : List String} {name : String} (leads : files.Leads path place name)
    (bytes : List UInt8) : ∃ spot, (files.putFile (place ++ [name]) bytes).walk path.fromRoot path.steps = .ok spot ∧
      spot.node = .file bytes := by
  obtain ⟨⟨above, entries, steps, folder, short, unused⟩, plain, file⟩ := leads
  obtain ⟨spot, walked, holds, rfl⟩ := folderAt_eq_ok.mp folder
  rw [walk_eq] at walked
  have stands : Stands files.root spot := Stands.root.steps walked
  -- The tree with the file has all folders of the old one, so the way leads to the same place in both.
  have start : Alongside files.root (files.root.put (.file bytes) (spot.place ++ [name])) files.rootSpot
      (files.putFile (spot.place ++ [name]) bytes).rootSpot := ⟨.root, .root, rfl, ⟨_, rfl⟩, ⟨_, rfl⟩⟩
  obtain ⟨beside, walkedBeside, -, standsBeside, place, -, found, holdsBeside⟩ :=
    start.steps (fun _ => at?_put (stands.at? holds) unused _) walked ⟨entries, holds⟩
  obtain ⟨held, there, listed⟩ := lookup_put (stands.at? holds) name (.file bytes)
  obtain rfl : found = held := by
    have same := standsBeside.at? holdsBeside
    rw [place] at same
    exact Option.some.inj (same.symm.trans there)
  have entered : beside.enter name = .ok ⟨.file bytes, (name, found) :: beside.above⟩ :=
    enter_eq_ok.mpr ⟨found, holdsBeside, .inr (.inr ⟨plain, _, findIn_eq_ok.mpr ⟨short, listed⟩, rfl⟩)⟩
  have arrives : (files.putFile (spot.place ++ [name]) bytes).walk path.fromRoot above = .ok beside := by
    rw [walk_eq]
    exact walkedBeside
  exact ⟨_, by rw [steps]; exact walk_concat.mpr ⟨beside, arrives, entered⟩, rfl⟩

theorem find_eq_file {bytes : List UInt8} : files.find text = .ok (.file bytes) ↔ ∃ path, Path.read text = .ok path ∧
    ∃ spot, files.walk path.fromRoot path.steps = .ok spot ∧ spot.node = .file bytes ∧ path.asksFolder = false := by
  rw [find, bind_eq_ok]
  refine exists_congr fun path => and_congr_right fun _ => ?_
  rw [bind_eq_ok]
  refine exists_congr fun spot => and_congr_right fun _ => ?_
  cases spot.node with
  | file found => cases path.asksFolder <;> simp
  | folder found => simp

/-- What is written to a file is read from it. -/
theorem readText_writeText (written : files.writeText text contents = .ok after) :
    after.readText text = .ok contents := by
  obtain ⟨path, place, name, read, leads, rfl⟩ := writeText_eq_ok.mp written
  obtain ⟨spot, arrives, node⟩ := leads.walk_putFile (Text.toUtf8 contents)
  rw [readText, find_eq_file.mpr ⟨path, read, spot, arrives, node, leads.file⟩]
  change (Text.ofUtf8? (Text.toUtf8 contents)).elim _ _ = _
  rw [Text.ofUtf8?_toUtf8]
  rfl

end Writing

end TagConsole.Files
