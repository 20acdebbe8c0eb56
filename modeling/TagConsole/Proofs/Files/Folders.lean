import Mathlib.Data.List.DropRight
import TagConsole.Proofs.Files.Writing

/-!
Making the folder of a path. Where the path already leads to a file, there is nothing to make.
-/

namespace TagConsole.Files

section Parts

variable {cs : List Char}

theorem splitSlashes_ne_nil (cs : List Char) : splitSlashes cs ≠ [] := by
  unfold splitSlashes
  split
  · nofun
  · nofun
  · split <;> nofun

theorem splitSlashes_cons {c : Char} (other : c ≠ '/') (cs : List Char) : ∃ part parts,
    splitSlashes cs = part :: parts ∧ splitSlashes (c :: cs) = (c :: part) :: parts := by
  obtain ⟨part, parts, split⟩ := List.exists_cons_of_ne_nil (splitSlashes_ne_nil cs)
  refine ⟨part, parts, split, ?_⟩
  rw [splitSlashes, split]
  exact other

theorem splitSlashes_eq (cs : List Char) : splitSlashes cs = cs.splitOn '/' := by
  induction cs with
  | nil => rfl
  | cons c cs ih =>
    rw [List.splitOn_cons_eq_if_modifyHead, ← ih]
    by_cases slash : c = '/'
    · rw [slash]
      rfl
    · obtain ⟨part, parts, split, more⟩ := splitSlashes_cons slash cs
      rw [more, split, beq_eq_false_iff_ne.mpr slash]
      rfl

theorem slash_not_mem {part : List Char} (member : part ∈ splitSlashes cs) : '/' ∉ part := by
  induction cs generalizing part with
  | nil =>
    obtain rfl := List.mem_singleton.mp member
    nofun
  | cons c cs ih =>
    by_cases slash : c = '/'
    · subst slash
      rcases List.mem_cons.mp member with rfl | member
      · nofun
      · exact ih member
    · obtain ⟨first, parts, split, more⟩ := splitSlashes_cons slash cs
      rw [more] at member
      rw [split] at ih
      rcases List.mem_cons.mp member with rfl | member
      · have absent := @ih first (by simp)
        simp [absent, Ne.symm slash]
      · exact ih (by simp [member])

theorem getLast?_splitSlashes (empty : (splitSlashes cs).getLast? = some []) : cs = [] ∨ cs.getLast? = some '/' := by
  induction cs with
  | nil => exact .inl rfl
  | cons c cs ih =>
    refine .inr ?_
    by_cases slash : c = '/'
    · subst slash
      have last : (splitSlashes cs).getLast? = some [] := by
        rw [splitSlashes, List.getLast?_cons_of_ne_nil (splitSlashes_ne_nil cs)] at empty
        exact empty
      rcases ih last with rfl | last
      · rfl
      · simp [List.getLast?_cons, last]
    · obtain ⟨part, parts, split, more⟩ := splitSlashes_cons slash cs
      rw [more] at empty
      rw [split] at ih
      cases parts with
      | nil => cases empty
      | cons next parts =>
        rw [List.getLast?_cons_cons] at empty ih
        rcases ih empty with rfl | last
        · cases split
        · simp [List.getLast?_cons, last]

theorem intercalate_start {a b : List (List Char)} (front : a <+: b) (sep : List Char) :
    sep.intercalate a <+: sep.intercalate b := by
  obtain ⟨more, rfl⟩ := front
  induction a with
  | nil => exact List.nil_prefix
  | cons first a ih =>
    cases a with
    | nil =>
      cases more with
      | nil => exact List.prefix_refl _
      | cons next more =>
        rw [List.intercalate_singleton, List.singleton_append, List.intercalate_cons_cons, List.append_assoc]
        exact List.prefix_append _ _
    | cons next a =>
      rw [List.cons_append, List.cons_append, List.intercalate_cons_cons, List.intercalate_cons_cons]
      exact (List.prefix_append_right_inj _).mpr ih

theorem exists_last_part (nonempty : cs ≠ []) (file : cs.getLast? ≠ some '/') :
    ∃ front last, splitSlashes cs = front ++ [last] ∧ last ≠ [] := by
  obtain ⟨front, last, split⟩ := List.eq_nil_or_concat (splitSlashes cs) |>.resolve_left (splitSlashes_ne_nil cs)
  rw [List.concat_eq_append] at split
  refine ⟨front, last, split, ?_⟩
  rintro rfl
  rcases getLast?_splitSlashes (by rw [split, List.getLast?_concat]) with empty | slash
  · exact nonempty empty
  · exact file slash

def stepsOf (parts : List (List Char)) : List String := (parts.filter fun part => !isIdle part).map String.ofList

theorem filter_steps (parts : List (List Char)) :
    ((parts.filter (· ≠ [])).map String.ofList).filter (· ≠ ".") = stepsOf parts := by
  rw [stepsOf, List.filter_map, List.filter_filter]
  congr 1
  refine List.filter_congr fun part _ => ?_
  have dot : String.ofList part = "." ↔ part = ['.'] := String.ofList_inj
  simp [isIdle, dot, Bool.and_comm]

theorem stepsOf_rdropWhile (parts : List (List Char)) : stepsOf (parts.rdropWhile isIdle) = stepsOf parts := by
  have idle : (parts.rtakeWhile isIdle).filter (fun part => !isIdle part) = [] := by
    rw [List.filter_eq_nil_iff]
    intro part member
    simp [List.mem_rtakeWhile_imp member]
  have whole : parts.rdropWhile isIdle ++ parts.rtakeWhile isIdle = parts := List.rdropWhile_append_rtakeWhile
  have same := congrArg (List.filter fun part => !isIdle part) whole
  rw [List.filter_append, idle, List.append_nil] at same
  rw [stepsOf, stepsOf, same]

theorem steps_intercalate {parts : List (List Char)} (plain : ∀ part ∈ parts, '/' ∉ part) :
    (Path.ofText (String.ofList (['/'].intercalate parts))).steps.filter (· ≠ ".") = stepsOf parts := by
  rw [Path.ofText, String.toList_ofList, filter_steps]
  cases parts with
  | nil => rfl
  | cons first parts => rw [splitSlashes_eq, List.splitOn_intercalate '/' plain (by simp)]

theorem folderText_of_split {front : List (List Char)} {last : List Char} (split : splitSlashes cs = front ++ [last])
    (solid : isIdle last = false) :
    (Path.ofText (String.ofList (folderText cs))).steps.filter (· ≠ ".") = stepsOf front ∧ folderText cs <+: cs := by
  have above : folderText cs = ['/'].intercalate (front.rdropWhile isIdle) := by
    rw [folderText, split, List.reverse_append, List.reverse_singleton, List.singleton_append,
      List.dropWhile_cons_of_neg (by simp [solid])]
    rfl
  have kept : front.rdropWhile isIdle <+: splitSlashes cs := by
    rw [split]
    exact (List.rdropWhile_prefix _ _).trans (List.prefix_append _ _)
  constructor
  · rw [above, steps_intercalate fun part member => slash_not_mem (kept.subset member), stepsOf_rdropWhile]
  · have start := intercalate_start kept ['/']
    rwa [splitSlashes_eq, List.intercalate_splitOn, ← above] at start

theorem textFailure?_eq_none {size : Nat} :
    textFailure? size cs = none ↔ '\x00' ∉ cs ∧ cs ≠ [] ∧ size ≤ longestPath := by
  unfold textFailure?
  split_ifs with broken empty long
  · exact iff_of_false nofun fun fine => fine.1 broken
  · exact iff_of_false nofun fun fine => fine.2.1 (List.isEmpty_iff.mp empty)
  · exact iff_of_false nofun fun fine => absurd long (Nat.not_lt.mpr fine.2.2)
  · exact iff_of_true rfl ⟨broken, fun same => empty (List.isEmpty_iff.mpr same), Nat.not_lt.mp long⟩

theorem textFailure?_of_start {start : List Char} (begins : start <+: cs) (nonempty : start ≠ [])
    (fine : textFailure? (String.ofList cs).utf8ByteSize cs = none) :
    textFailure? (String.ofList start).utf8ByteSize start = none := by
  obtain ⟨unbroken, -, short⟩ := textFailure?_eq_none.mp fine
  obtain ⟨more, rfl⟩ := begins
  rw [String.ofList_append, String.utf8ByteSize_append] at short
  exact textFailure?_eq_none.mpr ⟨fun member => unbroken (List.mem_append_left _ member), nonempty, by omega⟩

end Parts

section Folders

variable {files : Files}

theorem foldlM_filter {spot last : Spot} {steps : List String} (walked : steps.foldlM Spot.enter spot = .ok last) :
    (steps.filter (· ≠ ".")).foldlM Spot.enter spot = .ok last := by
  induction steps generalizing spot with
  | nil => exact walked
  | cons step steps ih =>
    rw [List.foldlM_cons] at walked
    obtain ⟨next, entered, later⟩ := bind_eq_ok.mp walked
    by_cases stay : step = "."
    · subst stay
      obtain rfl : next = spot := by
        obtain ⟨entries, -, ⟨-, same⟩ | ⟨up, -⟩ | ⟨name, -⟩⟩ := enter_eq_ok.mp entered
        · exact same
        · exact absurd up (by decide)
        · exact absurd name (by decide)
      rw [List.filter_cons_of_neg (by simp)]
      exact ih later
    · rw [List.filter_cons_of_pos (by simpa using stay), List.foldlM_cons, entered]
      exact ih later

theorem folderAt_of_walk {fromRoot : Bool} {steps : List String} {spot : Spot} {entries : Entries}
    (walked : files.walk fromRoot steps = .ok spot) (folder : spot.node = .folder entries) :
    files.folderAt fromRoot steps = .ok (spot.place, entries) := folderAt_eq_ok.mpr ⟨spot, walked, folder, rfl⟩

theorem makeFolder_of_walk {fromRoot : Bool} {name : String} {above : List String} {spot : Spot}
    (walked : files.walk fromRoot (above.reverse ++ [name]) = .ok spot) :
    files.makeFolder fromRoot (name :: above) = .error .alreadyExists := by
  obtain ⟨outer, walked, entered⟩ := walk_concat.mp walked
  obtain ⟨entries, holds, kinds⟩ := enter_eq_ok.mp entered
  rw [makeFolder, folderAt_of_walk walked holds]
  change (if isDots name = true then _ else _) = _
  rcases kinds with ⟨rfl, -⟩ | ⟨rfl, -⟩ | ⟨plain, node, found, -⟩
  · rfl
  · rfl
  · rw [plain, found]
    rfl

theorem makeFolders_of_walk {fromRoot : Bool} {steps : List String} {spot : Spot} {entries : Entries}
    (walked : files.walk fromRoot steps = .ok spot) (folder : spot.node = .folder entries) :
    files.makeFolders fromRoot steps.reverse = .ok files := by
  cases reversed : steps.reverse with
  | nil => rfl
  | cons name above =>
    have split : steps = above.reverse ++ [name] := by
      rw [← List.reverse_cons, ← reversed, List.reverse_reverse]
    have there : files.makeFolderUnlessThere fromRoot (name :: above) = .ok files := by
      rw [makeFolderUnlessThere, makeFolder_of_walk (split ▸ walked), List.reverse_cons, ← split,
        folderAt_of_walk walked folder]
      rfl
    rw [makeFolders, there]

theorem walk_filter {fromRoot : Bool} {steps : List String} {spot : Spot}
    (walked : files.walk fromRoot steps = .ok spot) : files.walk fromRoot (steps.filter (· ≠ ".")) = .ok spot := by
  rw [walk_eq, stepsFromRoot, List.foldlM_append] at walked ⊢
  obtain ⟨start, arrived, walked⟩ := bind_eq_ok.mp walked
  exact bind_eq_ok.mpr ⟨start, arrived, foldlM_filter walked⟩

theorem read_eq_ok {text : String} {path : Path} : Path.read text = .ok path ↔
    textFailure? text.utf8ByteSize text.toList = none ∧ path = .ofText text := by
  unfold Path.read
  cases textFailure? text.utf8ByteSize text.toList with
  | none => simp [eq_comm]
  | some failure => simp

theorem name_of_file {fromRoot : Bool} {steps : List String} {name : String} {spot : Spot} {bytes : List UInt8}
    (walked : files.walk fromRoot (steps ++ [name]) = .ok spot) (file : spot.node = .file bytes) :
    isDots name = false ∧ ∃ outer entries, files.walk fromRoot steps = .ok outer ∧ outer.node = .folder entries := by
  obtain ⟨outer, walked, entered⟩ := walk_concat.mp walked
  obtain ⟨entries, holds, ⟨-, rfl⟩ | ⟨-, rfl⟩ | ⟨plain, -⟩⟩ := enter_eq_ok.mp entered
  · rw [holds] at file
    cases file
  · obtain ⟨_, up⟩ := Stands.folder_up ⟨entries, holds⟩
    rw [up] at file
    cases file
  · exact ⟨plain, outer, entries, walked, holds⟩

theorem makeFolderOf_of_file {text : String} {bytes : List UInt8} (found : files.find text = .ok (.file bytes)) :
    files.makeFolderOf text = .ok files := by
  obtain ⟨path, read, spot, walked, holds, file⟩ := find_eq_file.mp found
  obtain ⟨fine, rfl⟩ := read_eq_ok.mp read
  obtain ⟨front, last, split, full⟩ := exists_last_part (textFailure?_eq_none.mp fine).2.1 (of_decide_eq_false file)
  have steps : (Path.ofText text).steps = (front.filter (· ≠ [])).map String.ofList ++ [String.ofList last] := by
    rw [Path.ofText, split]
    simp [full]
  rw [steps] at walked
  obtain ⟨plain, outer, entries, walked, folder⟩ := name_of_file walked holds
  have solid : isIdle last = false := by
    have named : last ≠ ['.'] := by
      rintro rfl
      cases plain
    simp [isIdle, full, named]
  obtain ⟨stepsFolder, begins⟩ := folderText_of_split split solid
  -- The folder is spelled without the dots that stay in the path of the file.
  have walkedFolder := walk_filter walked
  rw [filter_steps] at walkedFolder
  simp only [makeFolderOf]
  rw [stepsFolder]
  split
  · rfl
  · rename_i several
    have nonempty : folderText text.toList ≠ [] := by
      intro empty
      rw [empty] at stepsFolder
      exact several (stepsFolder ▸ rfl)
    have fineText : textFailure? (String.ofList text.toList).utf8ByteSize text.toList = none := by
      rw [String.ofList_toList]
      exact fine
    rw [textFailure?_of_start begins nonempty fineText]
    exact makeFolders_of_walk walkedFolder folder

end Folders

structure Left (ε : Type) where
  outcome : Except ε Unit
  files : Files

def Left.result {ε : Type} (left : Left ε) : Except ε Files := left.outcome.map fun _ => left.files

theorem Left.result_eq_ok {ε : Type} {left : Left ε} {after : Files} :
    left.result = .ok after ↔ left = ⟨.ok (), after⟩ := by
  obtain ⟨failure | _, files⟩ := left
  · exact iff_of_false nofun nofun
  · exact ⟨fun same => congrArg (Left.mk _) (Except.ok.inj same), fun same => congrArg Left.result same⟩

def attempt (files : Files) : Except Failure Files → Left Failure
  | .ok after => ⟨.ok (), after⟩
  | .error failure => ⟨.error failure, files⟩

theorem result_attempt (files : Files) (result : Except Failure Files) : (files.attempt result).result = result := by
  cases result <;> rfl

/-- Makes folders. Those that were made before one could not be made stay. -/
def makingFolders (files : Files) (fromRoot : Bool) : List String → Left Failure
  | [] => ⟨.ok (), files⟩
  | name :: above =>
    match files.makeFolderUnlessThere fromRoot (name :: above) with
    | .error .notFound =>
      match makingFolders files fromRoot above with
      | ⟨.ok (), made⟩ => made.attempt (made.makeFolderUnlessThere fromRoot (name :: above))
      | failed => failed
    | result => files.attempt result

theorem makeFolders_eq (files : Files) (fromRoot : Bool) (steps : List String) :
    files.makeFolders fromRoot steps = (files.makingFolders fromRoot steps).result := by
  induction steps with
  | nil => rfl
  | cons name above ih =>
    rw [makeFolders, makingFolders, ih]
    cases tried : files.makeFolderUnlessThere fromRoot (name :: above) with
    | ok after => rfl
    | error failure =>
      cases failure with
      | notFound =>
        obtain ⟨failure | _, made⟩ := files.makingFolders fromRoot above
        · rfl
        · exact (result_attempt made _).symm
      | _ => rfl

def makingFolderOf (files : Files) (text : String) : Left Failure :=
  let folder := folderText text.toList
  let steps := (Path.ofText (String.ofList folder)).steps.filter (· ≠ ".")
  if steps.isEmpty then ⟨.ok (), files⟩
  else match textFailure? (String.ofList folder).utf8ByteSize folder with
    | some failure => ⟨.error failure, files⟩
    | none => files.makingFolders (Path.ofText text).fromRoot steps.reverse

theorem makeFolderOf_eq (files : Files) (text : String) :
    files.makeFolderOf text = (files.makingFolderOf text).result := by
  unfold makeFolderOf makingFolderOf
  generalize folderText text.toList = folder
  dsimp only
  split_ifs with none
  · rfl
  · cases textFailure? (String.ofList folder).utf8ByteSize folder with
    | some failure => rfl
    | none => exact makeFolders_eq _ _ _

theorem makingFolderOf_of_file {files : Files} {text : String} {bytes : List UInt8}
    (found : files.find text = .ok (.file bytes)) : files.makingFolderOf text = ⟨.ok (), files⟩ := by
  rw [← Left.result_eq_ok, ← makeFolderOf_eq]
  exact makeFolderOf_of_file found

end TagConsole.Files
