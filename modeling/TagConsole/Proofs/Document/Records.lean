import Mathlib.Data.List.Nodup
import TagConsole.Document.Codec

/-!
Records in documents. Reading a record puts into each field what the document holds for it, or leaves the default,
and a record that was written is read back.
-/

namespace TagConsole.Document

structure TypedMember (σ : Type) where
  type : Type
  key : String
  codec : Codec type
  get : σ → type
  set : σ → type → σ

variable {σ : Type}

def TypedMember.member (field : TypedMember σ) : Member σ := .of field.key field.codec field.get field.set

def keysOf (fields : List (TypedMember σ)) : List String := fields.map (·.key)

/-- Fields that make up a record: each can be set without the others, and together they are all that it holds. -/
structure MakesUp (fields : List (TypedMember σ)) : Prop where
  keys : (keysOf fields).Nodup
  get_set : ∀ field ∈ fields, ∀ record a, field.get (field.set record a) = a
  get_set_ne : ∀ field ∈ fields, ∀ other ∈ fields, field.key ≠ other.key →
    ∀ record a, field.get (other.set record a) = field.get record
  ext : ∀ record other, (∀ field ∈ fields, field.get record = field.get other) → record = other

def Value.entries? (keys : List String) : Value → Option Entries
  | .table _ entries => some entries
  | .list values => some (keys.zip values)
  | .date => some []
  | _ => none

def Entries.under (key : String) (entries : Entries) : List Value := (entries.filter (·.1 = key)).map (·.2)

def Codec.last? {α : Type} (codec : Codec α) (values : List Value) : Option α := values.getLast?.bind (codec.read .file)

def Codec.Fits {α : Type} (codec : Codec α) (values : List Value) : Prop :=
  ∀ value ∈ values, (codec.read .file value).isSome = true

section Under

variable {key : String} {value : Value} {entries : Entries}

@[simp] theorem under_nil : Entries.under key [] = [] := rfl

theorem under_cons_same : Entries.under key ((key, value) :: entries) = value :: Entries.under key entries := by
  simp [Entries.under]

theorem under_cons_ne {other : String} (different : other ≠ key) :
    Entries.under key ((other, value) :: entries) = Entries.under key entries := by
  simp [Entries.under, different]

theorem fits_cons {α : Type} {codec : Codec α} {values : List Value} :
    codec.Fits (value :: values) ↔ (codec.read .file value).isSome = true ∧ codec.Fits values := List.forall_mem_cons

theorem last?_cons {α : Type} {codec : Codec α} {values : List Value} {a start : α} (fits : codec.Fits values)
    (read : codec.read .file value = some a) :
    (codec.last? (value :: values)).getD start = (codec.last? values).getD a := by
  cases last : values.getLast? with
  | none => simp [Codec.last?, List.getLast?_cons, last, read]
  | some other =>
    obtain ⟨b, read⟩ := Option.isSome_iff_exists.mp (fits other (List.mem_of_getLast? last))
    simp [Codec.last?, List.getLast?_cons, last, read]

end Under

section Reading

variable {fields : List (TypedMember σ)}

theorem eq_of_key (makes : MakesUp fields) {field other : TypedMember σ} (member : field ∈ fields)
    (member' : other ∈ fields) (same : field.key = other.key) : field = other :=
  List.inj_on_of_nodup_map makes.keys member member' same

theorem find?_member (makes : MakesUp fields) {field : TypedMember σ} (member : field ∈ fields) :
    (fields.map (·.member)).find? (·.key == field.key) = some field.member := by
  have found : fields.find? (·.key == field.key) = some field := by
    cases none : fields.find? (·.key == field.key) with
    | none => simpa using List.find?_eq_none.mp none field member
    | some other =>
      have same : other.key = field.key := by simpa using List.find?_some none
      rw [eq_of_key makes (List.mem_of_find?_eq_some none) member same]
  rw [List.find?_map]
  exact congrArg (Option.map _) found

theorem find?_member_eq_none {key : String} (absent : key ∉ keysOf fields) :
    (fields.map (·.member)).find? (·.key == key) = none := by
  rw [List.find?_map, Option.map_eq_none_iff, List.find?_eq_none]
  intro field member same
  exact absent (List.mem_map.mpr ⟨field, member, eq_of_beq same⟩)

theorem setEntries_cons (makes : MakesUp fields) {field : TypedMember σ} (member : field ∈ fields) (value : Value)
    (entries : Entries) (record : σ) :
    setEntries (fields.map (·.member)) .file ((field.key, value) :: entries) record =
      (field.codec.read .file value).bind fun a =>
        setEntries (fields.map (·.member)) .file entries (field.set record a) := by
  rw [setEntries, find?_member makes member]
  change ((field.codec.read .file value).map (field.set record)).bind _ = _
  rw [Option.bind_map]
  rfl

theorem setEntries_cons_unknown {key : String} (absent : key ∉ keysOf fields) (value : Value) (entries : Entries)
    (record : σ) : setEntries (fields.map (·.member)) .file ((key, value) :: entries) record =
      setEntries (fields.map (·.member)) .file entries record := by
  rw [setEntries, find?_member_eq_none absent]

/-- Reading a table puts the last value under each key into its field. -/
theorem setEntries_eq_some (makes : MakesUp fields) {entries : Entries} {record result : σ} :
    setEntries (fields.map (·.member)) .file entries record = some result ↔ ∀ field ∈ fields,
      field.codec.Fits (Entries.under field.key entries) ∧
      field.get result = (field.codec.last? (Entries.under field.key entries)).getD (field.get record) := by
  induction entries generalizing record with
  | nil =>
    constructor
    · intro read
      cases read
      exact fun field _ => ⟨nofun, rfl⟩
    · intro all
      exact congrArg some (makes.ext _ _ fun field member => (all field member).2.symm)
  | cons entry entries ih =>
    obtain ⟨key, value⟩ := entry
    by_cases known : key ∈ keysOf fields
    · obtain ⟨own, member, rfl⟩ := List.mem_map.mp known
      rw [setEntries_cons makes member]
      cases read : own.codec.read .file value with
      | none =>
        refine iff_of_false (by simp) fun all => ?_
        have fits := (all own member).1 value (by simp [under_cons_same])
        simp [read] at fits
      | some a =>
        -- Only the field of this key is set, and a later value under the key replaces this one.
        rw [Option.bind_some, ih]
        refine forall₂_congr fun field member' => ?_
        by_cases same : own.key = field.key
        · obtain rfl := eq_of_key makes member member' same
          rw [under_cons_same, fits_cons, makes.get_set _ member]
          simp only [read, Option.isSome_some, true_and]
          exact and_congr_right fun fits => by rw [last?_cons fits read]
        · rw [under_cons_ne same, makes.get_set_ne _ member' _ member (Ne.symm same)]
    · rw [setEntries_cons_unknown known, ih]
      refine forall₂_congr fun field member => ?_
      have different : key ≠ field.key := fun same => known (List.mem_map.mpr ⟨field, member, same.symm⟩)
      rw [under_cons_ne different]

theorem setEntries_isSome (makes : MakesUp fields) {entries : Entries} {record : σ} :
    (setEntries (fields.map (·.member)) .file entries record).isSome = true ↔
      ∀ field ∈ fields, field.codec.Fits (Entries.under field.key entries) := by
  constructor
  · intro read
    obtain ⟨result, read⟩ := Option.isSome_iff_exists.mp read
    exact fun field member => ((setEntries_eq_some makes).mp read field member).1
  · intro fits
    -- Whether a value fits does not depend on what was set before, so the record stays general.
    induction entries generalizing record with
    | nil => rfl
    | cons entry entries ih =>
      obtain ⟨key, value⟩ := entry
      have later : ∀ field ∈ fields, field.codec.Fits (Entries.under field.key entries) := by
        intro field member
        by_cases same : key = field.key
        · subst same
          exact (fits_cons.mp (under_cons_same ▸ fits field member)).2
        · exact under_cons_ne same ▸ fits field member
      by_cases known : key ∈ keysOf fields
      · obtain ⟨field, member, rfl⟩ := List.mem_map.mp known
        obtain ⟨a, read⟩ := Option.isSome_iff_exists.mp (fits_cons.mp (under_cons_same ▸ fits field member)).1
        rw [setEntries_cons makes member, read]
        exact ih later
      · rw [setEntries_cons_unknown known]
        exact ih later

theorem setItems_eq (makes : MakesUp fields) {part : List (TypedMember σ)} (within : part ⊆ fields)
    (values : List Value) (record : σ) : setItems .file (part.map (·.member)) values record =
      setEntries (fields.map (·.member)) .file ((keysOf part).zip values) record := by
  induction part generalizing values record with
  | nil => cases values <;> rfl
  | cons field others ih =>
    cases values with
    | nil => rfl
    | cons value values =>
      have member : field ∈ fields := within (by simp)
      have later : others ⊆ fields := fun other member => within (List.mem_cons_of_mem _ member)
      rw [keysOf, List.map_cons, List.map_cons, List.zip_cons_cons, setEntries_cons makes member, setItems]
      change ((field.codec.read .file value).map (field.set record)).bind _ = _
      rw [Option.bind_map]
      exact congrArg _ (funext fun a => ih later values _)

theorem record_read (makes : MakesUp fields) (default : σ) (value : Value) :
    (Codec.record (fields.map (·.member)) default).read .file value =
      (value.entries? (keysOf fields)).bind fun entries =>
        setEntries (fields.map (·.member)) .file entries default := by
  cases value with
  | list values => exact setItems_eq makes (List.Subset.refl _) values default
  | _ => rfl

/-- A record is read if all that is under its keys fits, and each of its fields then comes from the document. -/
theorem record_read_eq_some (makes : MakesUp fields) {default result : σ} {value : Value} :
    (Codec.record (fields.map (·.member)) default).read .file value = some result ↔
      ∃ entries, value.entries? (keysOf fields) = some entries ∧ ∀ field ∈ fields,
        field.codec.Fits (Entries.under field.key entries) ∧
        field.get result = (field.codec.last? (Entries.under field.key entries)).getD (field.get default) := by
  rw [record_read makes, Option.bind_eq_some_iff]
  exact exists_congr fun entries => and_congr_right fun _ => setEntries_eq_some makes

def RecordsFit (fields : List (TypedMember σ)) (values : List Value) : Prop :=
  ∀ value ∈ values, ∃ entries, value.entries? (keysOf fields) = some entries ∧
    ∀ field ∈ fields, field.codec.Fits (Entries.under field.key entries)

def lastEntries (fields : List (TypedMember σ)) (values : List Value) : Entries :=
  (values.getLast?.bind (·.entries? (keysOf fields))).getD []

theorem record_fits (makes : MakesUp fields) {default : σ} {values : List Value} :
    (Codec.record (fields.map (·.member)) default).Fits values ↔ RecordsFit fields values := by
  refine forall₂_congr fun value _ => ?_
  rw [record_read makes]
  cases entries : value.entries? (keysOf fields) with
  | none => simp
  | some entries => simp [setEntries_isSome makes]

theorem record_last (makes : MakesUp fields) {default : σ} {values : List Value} (fits : RecordsFit fields values)
    {field : TypedMember σ} (member : field ∈ fields) :
    field.get (((Codec.record (fields.map (·.member)) default).last? values).getD default) =
      (field.codec.last? (Entries.under field.key (lastEntries fields values))).getD (field.get default) := by
  cases last : values.getLast? with
  | none => simp [Codec.last?, lastEntries, last]
  | some value =>
    have readable : (Codec.record (fields.map (·.member)) default).Fits values := (record_fits makes).mpr fits
    obtain ⟨result, read⟩ := Option.isSome_iff_exists.mp (readable value (List.mem_of_getLast? last))
    obtain ⟨entries, holds, all⟩ := (record_read_eq_some makes).mp read
    rw [Codec.last?, lastEntries, last, Option.bind_some, Option.bind_some, read, holds]
    exact (all field member).2

theorem filter_key {field : TypedMember σ} (unique : (keysOf fields).Nodup) (member : field ∈ fields) :
    fields.filter (·.key = field.key) = [field] := by
  induction fields with
  | nil => cases member
  | cons first others ih =>
    obtain ⟨absent, unique⟩ := List.nodup_cons.mp unique
    have apart {other : TypedMember σ} (member : other ∈ others) : other.key ≠ first.key :=
      fun same => absent (List.mem_map.mpr ⟨other, member, same⟩)
    rcases List.mem_cons.mp member with rfl | member
    · have none : others.filter (·.key = field.key) = [] := by
        rw [List.filter_eq_nil_iff]
        exact fun other member => by simpa using apart member
      rw [List.filter_cons_of_pos (by simp), none]
    · rw [List.filter_cons_of_neg (by simpa using (apart member).symm), ih unique member]

theorem record_read_write (makes : MakesUp fields) {default record : σ} (each : ∀ field ∈ fields,
      field.codec.read .file (field.codec.write (field.get record)) = some (field.get record)) :
    (Codec.record (fields.map (·.member)) default).read .file
      ((Codec.record (fields.map (·.member)) default).write record) = some record := by
  rw [record_read_eq_some makes]
  refine ⟨_, rfl, fun field member => ?_⟩
  have written : Entries.under field.key ((fields.map (·.member)).map fun field => (field.key, field.get record)) =
      [field.codec.write (field.get record)] := by
    rw [List.map_map, Entries.under, List.filter_map, List.map_map]
    change (fields.filter (·.key = field.key)).map _ = _
    rw [filter_key makes.keys member]
    rfl
  rw [written, fits_cons, Codec.last?, List.getLast?_singleton, Option.bind_some, each field member]
  exact ⟨⟨rfl, nofun⟩, rfl⟩

end Reading

end TagConsole.Document
