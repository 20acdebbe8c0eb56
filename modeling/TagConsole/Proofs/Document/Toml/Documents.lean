import Mathlib.Data.List.Nodup
import TagConsole.Document.Toml.Reader
import TagConsole.Document.Toml.Writer
import TagConsole.Proofs.Document.Toml.Numbers
import TagConsole.Proofs.Document.Toml.Strings

/-!
Documents that consist of sections. What the writer writes is read back, line by line.
-/

namespace TagConsole.Document.Toml

structure IsBareKey (key : String) : Prop where
  nonempty : key.toList ≠ []
  bare : ∀ c ∈ key.toList, isBare c = true

theorem isBare_ne {c : Char} (bare : isBare c = true) (mark : Char) (other : isBare mark = false) : c ≠ mark := by
  rintro rfl
  rw [bare] at other
  cases other

theorem isGap_of_isBare {c : Char} (bare : isBare c = true) : isGap c = false := by
  simp [isGap, isBare_ne bare ' ' rfl, isBare_ne bare '\t' rfl]

theorem skipGaps_of_isBare {c : Char} (bare : isBare c = true) (cs : List Char) : skipGaps (c :: cs) = c :: cs :=
  List.dropWhile_cons_of_neg (by simp [isGap_of_isBare bare])

variable {key : String}

theorem IsBareKey.exists_head (proper : IsBareKey key) :
    ∃ head tail, key.toList = head :: tail ∧ isBare head = true := by
  obtain ⟨head, tail, spelled⟩ := List.exists_cons_of_ne_nil proper.nonempty
  exact ⟨head, tail, spelled, proper.bare head (by simp [spelled])⟩

theorem readPart_bare (proper : IsBareKey key) {stop : Char} (other : isBare stop = false) (rest : List Char) :
    readPart (key.toList ++ stop :: rest) = some (key, stop :: rest) := by
  have bare : (key.toList ++ stop :: rest).takeWhile isBare = key.toList := by
    rw [List.takeWhile_append_of_pos proper.bare, List.takeWhile_cons_of_neg (by simp [other]), List.append_nil]
  have left : (key.toList ++ stop :: rest).dropWhile isBare = stop :: rest := by
    rw [List.dropWhile_append_of_pos proper.bare, List.dropWhile_cons_of_neg (by simp [other])]
  rw [readPart, bare, left]
  simp [proper.nonempty]

theorem readPath_bare (proper : IsBareKey key) {stop next : Char} {rest others : List Char}
    (other : isBare stop = false) (gaps : skipGaps (stop :: rest) = next :: others) (undotted : next ≠ '.') :
    readPath (key.toList ++ stop :: rest) = some (⟨[], key⟩, next :: others) := by
  obtain ⟨head, tail, spelled, bare⟩ := proper.exists_head
  have start : skipGaps (key.toList ++ stop :: rest) = key.toList ++ stop :: rest := by
    rw [spelled]
    exact skipGaps_of_isBare bare _
  rw [readPath, maxParts, readPathParts, start, readPart_bare proper other]
  simp only [Option.bind_eq_bind, Option.bind_some]
  rw [gaps]
  split
  · rename_i same
    exact absurd (List.cons.inj same).1 undotted
  · rfl

theorem readHeader_bare (proper : IsBareKey key) (rest : List Char) :
    readHeader 1 (key.toList ++ ']' :: '\n' :: rest) = some (⟨[], key⟩, '\n' :: rest) := by
  rw [readHeader, readPath_bare proper rfl rfl (by decide)]
  rfl

theorem readLine_header (doc : Draft) (proper : IsBareKey key) (rest : List Char) :
    readLine doc ('[' :: (key.toList ++ ']' :: '\n' :: rest)) = (doc.openTable ⟨[], key⟩).map (·, rest) := by
  obtain ⟨head, tail, spelled, bare⟩ := proper.exists_head
  have header := readHeader_bare proper rest
  unfold readLine
  split
  · rename_i same
    rw [spelled] at same
    exact absurd (List.cons.inj (List.cons.inj same).2).1 (isBare_ne bare '[' rfl)
  · rename_i same
    obtain ⟨-, rfl⟩ := List.cons.inj same
    rw [header]
    change ((doc.openTable ⟨[], key⟩).bind fun doc => some (doc, rest)) = _
    cases doc.openTable ⟨[], key⟩ <;> rfl
  · rename_i same
    exact absurd rfl (same _)

theorem readLine_blank (doc : Draft) (rest : List Char) : readLine doc ('\n' :: rest) = some (doc, rest) := rfl

theorem writeChars_head (cs : List Char) : ∃ tail, writeChars cs = '"' :: tail ∨ writeChars cs = '\'' :: tail := by
  unfold writeChars
  cases Spelling.of cs with
  | escaped => exact ⟨_, .inl rfl⟩
  | literal => exact ⟨_, .inr rfl⟩
  | longEscaped => exact ⟨_, .inl rfl⟩
  | longLiteral => exact ⟨_, .inr rfl⟩

theorem readValue_text (text : String) (rest : List Char) :
    readValue maxNesting (writeChars text.toList ++ '\n' :: rest) = some (.text text, '\n' :: rest) := by
  have read := readString_writeChars text.toList rest
  rw [String.ofList_toList] at read
  obtain ⟨tail, spelled | spelled⟩ := writeChars_head text.toList
  · rw [spelled] at read ⊢
    exact congrArg (Option.map fun found : String × List Char => (Value.text found.1, found.2)) read
  · rw [spelled] at read ⊢
    exact congrArg (Option.map fun found : String × List Char => (Value.text found.1, found.2)) read

theorem readValue_integer {n : Int} (small : Text.inInt64 n = true) (rest : List Char) :
    readValue maxNesting ((toString n).toList ++ '\n' :: rest) = some (.integer n, '\n' :: rest) := by
  obtain ⟨head, tail, spelled, start⟩ := toString_head n
  rw [← readNumber_toString small, spelled, List.cons_append, maxNesting, readValue.eq_def]
  have other {mark : Char} {cs : List Char} (undigital : mark.isDigit = false) (unsigned : mark ≠ '-')
      (same : head :: (tail ++ '\n' :: rest) = mark :: cs) : False := by
    obtain ⟨rfl, -⟩ := List.cons.inj same
    rcases start with rfl | digit
    · exact unsigned rfl
    · rw [digit] at undigital
      cases undigital
  dsimp only
  -- A text, a list, a table and a word all start with something other than a digit or a minus.
  split
  · rename_i same
    exact (other rfl (by decide) same).elim
  · rename_i same
    exact (other rfl (by decide) same).elim
  · rename_i same
    exact (other rfl (by decide) same).elim
  · rename_i same
    exact (other rfl (by decide) same).elim
  · rename_i same _
    exact (other rfl (by decide) same).elim
  · rename_i same _
    exact (other rfl (by decide) same).elim
  · rfl

theorem readValue_scalar {value : Value} {chars : List Char} (written : writeScalar value = some chars)
    (rest : List Char) : readValue maxNesting (chars ++ '\n' :: rest) = some (value, '\n' :: rest) := by
  unfold writeScalar at written
  split at written
  · rename_i text
    obtain rfl := Option.some.inj written
    exact readValue_text text rest
  · rename_i n
    obtain ⟨small, written⟩ := Option.ite_none_right_eq_some.mp written
    obtain rfl := Option.some.inj written
    exact readValue_integer small rest
  · cases written

theorem writeScalar_head {value : Value} {chars : List Char} (written : writeScalar value = some chars) :
    ∃ head tail, chars = head :: tail ∧ isGap head = false := by
  unfold writeScalar at written
  split at written
  · obtain rfl := Option.some.inj written
    obtain ⟨tail, spelled | spelled⟩ := writeChars_head (String.toList _)
    · exact ⟨_, _, spelled, rfl⟩
    · exact ⟨_, _, spelled, rfl⟩
  · obtain ⟨-, written⟩ := Option.ite_none_right_eq_some.mp written
    obtain rfl := Option.some.inj written
    obtain ⟨head, tail, spelled, rfl | digit⟩ := toString_head _
    · exact ⟨_, _, spelled, rfl⟩
    · exact ⟨_, _, spelled, isGap_of_isBare (by simp [isBare, Char.isAlphanum, digit])⟩
  · cases written

theorem readPair_entry (proper : IsBareKey key) {value : Value} {chars : List Char}
    (written : writeScalar value = some chars) (rest : List Char) :
    readPair (readValue maxNesting) (key.toList ++ ' ' :: '=' :: ' ' :: (chars ++ '\n' :: rest)) =
      some ((⟨[], key⟩, value), '\n' :: rest) := by
  obtain ⟨head, tail, spelled, solid⟩ := writeScalar_head written
  have gaps : skipGaps (chars ++ '\n' :: rest) = chars ++ '\n' :: rest := by
    rw [spelled]
    exact List.dropWhile_cons_of_neg (by simpa using solid)
  rw [readPair, readPath_bare proper rfl rfl (by decide)]
  change ((readValue maxNesting (skipGaps (chars ++ '\n' :: rest))).bind _) = _
  rw [gaps, readValue_scalar written]
  rfl

theorem endLine?_bare {c : Char} (bare : isBare c = true) (rest : List Char) : endLine? (c :: rest) = none := by
  have start : skipComment (c :: rest) = c :: rest := by
    unfold skipComment
    split
    · rename_i same
      exact absurd (List.cons.inj same).1 (isBare_ne bare '#' rfl)
    · rfl
  rw [endLine?, skipGaps_of_isBare bare, start]
  exact skipNewline?_cons (isBare_ne bare '\n' rfl) (isBare_ne bare '\r' rfl) rest

theorem readLine_entry (doc : Draft) (proper : IsBareKey key) {value : Value} {chars : List Char}
    (written : writeScalar value = some chars) (rest : List Char) :
    readLine doc (key.toList ++ ' ' :: '=' :: ' ' :: (chars ++ '\n' :: rest)) =
      (doc.add ⟨[], key⟩ value).map (·, rest) := by
  obtain ⟨head, tail, spelled, bare⟩ := proper.exists_head
  have pair := readPair_entry proper written rest
  rw [spelled, List.cons_append] at pair ⊢
  unfold readLine
  rw [skipGaps_of_isBare bare]
  split
  · rename_i same
    exact absurd (List.cons.inj same).1 (isBare_ne bare '[' rfl)
  · rename_i same
    exact absurd (List.cons.inj same).1 (isBare_ne bare '[' rfl)
  · rw [endLine?_bare bare, pair]
    change ((doc.add ⟨[], key⟩ value).bind fun doc => some (doc, rest)) = _
    cases doc.add ⟨[], key⟩ value <;> rfl

structure WellKeyed {α : Type} (entries : List (String × α)) : Prop where
  nodup : (entries.map (·.1)).Nodup
  bare : ∀ entry ∈ entries, IsBareKey entry.1

instance (key : String) : Decidable (IsBareKey key) :=
  decidable_of_iff (key.toList.isEmpty = false ∧ key.toList.all isBare = true)
    ⟨fun both => ⟨List.isEmpty_eq_false_iff.mp both.1, List.all_eq_true.mp both.2⟩,
      fun proper => ⟨List.isEmpty_eq_false_iff.mpr proper.nonempty, List.all_eq_true.mpr proper.bare⟩⟩

theorem wellKeyed_of_keys {α : Type} {entries : List (String × α)} (keys : List String)
    (same : entries.map (·.1) = keys) (nodup : keys.Nodup) (bare : ∀ key ∈ keys, IsBareKey key) :
    WellKeyed entries where
  nodup := same ▸ nodup
  bare _ member := bare _ (same ▸ List.mem_map_of_mem member)

theorem WellKeyed.not_mem {α : Type} {before after : List (String × α)} {a : α}
    (keys : WellKeyed (before ++ (key, a) :: after)) : key ∉ before.map (·.1) := by
  have nodup := keys.nodup
  rw [List.map_append, List.map_cons, List.nodup_middle, List.nodup_cons] at nodup
  exact fun member => nodup.1 (List.mem_append_left _ member)

theorem lookup_eq_none {α : Type} {entries : List (String × α)} (absent : key ∉ entries.map (·.1)) :
    entries.lookup key = none := by
  rw [List.lookup_eq_none_iff]
  intro entry member
  exact bne_iff_ne.mpr fun same => absent (List.mem_map.mpr ⟨entry, member, same.symm⟩)

theorem add_new {doc : Draft} (new : key ∉ doc.entries.map (·.1)) (value : Value) :
    doc.add ⟨[], key⟩ value = some { doc with entries := doc.entries ++ [(key, value)] } := by
  simp [Draft.add, addValue, within, lookup_eq_none new, Layout.isDotted]

theorem openTable_new {doc : Draft} {root : Entries} (closed : doc.close = some root) (new : key ∉ root.map (·.1)) :
    doc.openTable ⟨[], key⟩ = some ⟨root, .table ⟨[], key⟩, []⟩ := by
  simp [Draft.openTable, closed, within, lookup_eq_none new]

def Completes (doc : Draft) (cs : List Char) (whole : Draft) : Prop :=
  ∀ fuel, cs.length < fuel → readLines fuel doc cs = some whole

theorem completes_nil (doc : Draft) : Completes doc [] doc := by
  intro fuel enough
  obtain ⟨fuel, rfl⟩ := Nat.exists_eq_add_one_of_ne_zero (Nat.ne_zero_of_lt enough)
  rfl

theorem Completes.line {doc next whole : Draft} {cs rest : List Char} (later : Completes next rest whole)
    (read : readLine doc cs = some (next, rest)) (shorter : rest.length < cs.length) : Completes doc cs whole := by
  intro fuel enough
  obtain ⟨fuel, rfl⟩ := Nat.exists_eq_add_one_of_ne_zero (Nat.ne_zero_of_lt enough)
  have more : cs.isEmpty = false := by
    cases cs with
    | nil => cases shorter
    | cons _ _ => rfl
  rw [readLines, more, read]
  exact later fuel (by omega)

theorem Completes.entries {doc whole : Draft} {entries : Entries} {lines : List (List Char)} {rest : List Char}
    (later : Completes { doc with entries := doc.entries ++ entries } rest whole)
    (written : entries.mapM writeEntry = some lines) (keys : WellKeyed (doc.entries ++ entries)) :
    Completes doc (lines.flatten ++ rest) whole := by
  -- What was read moves into the draft, one entry after the other.
  induction entries generalizing doc lines with
  | nil =>
    obtain rfl := Option.some.inj written
    simpa using later
  | cons entry entries ih =>
    obtain ⟨key, value⟩ := entry
    rw [List.mapM_cons] at written
    obtain ⟨line, spelled, written⟩ := Option.bind_eq_some_iff.mp written
    obtain ⟨lines, others, written⟩ := Option.bind_eq_some_iff.mp written
    obtain rfl := Option.some.inj written
    obtain ⟨chars, scalar, same⟩ := Option.bind_eq_some_iff.mp spelled
    obtain rfl := Option.some.inj same
    have read := readLine_entry doc (keys.bare (key, value) (by simp)) scalar (lines.flatten ++ rest)
    rw [add_new keys.not_mem] at read
    rw [← List.singleton_append, ← List.append_assoc] at keys later
    have remaining := @ih { doc with entries := doc.entries ++ [(key, value)] } lines later others keys
    refine remaining.line ?_ ?_
    · simpa using read
    · simp
      omega

theorem completes_section {doc whole : Draft} {root entries : Entries} {chars rest : List Char}
    (written : writeSection (key, .table .header entries) = some chars) (closed : doc.close = some root)
    (new : key ∉ root.map (·.1)) (bare : IsBareKey key) (keys : WellKeyed entries)
    (later : Completes ⟨root, .table ⟨[], key⟩, entries⟩ rest whole) : Completes doc (chars ++ rest) whole := by
  obtain ⟨lines, others, same⟩ := Option.bind_eq_some_iff.mp written
  obtain rfl := Option.some.inj same
  have read := readLine_header doc bare (lines.flatten ++ rest)
  rw [openTable_new closed new] at read
  have entered : Completes ⟨root, .table ⟨[], key⟩, []⟩ (lines.flatten ++ rest) whole := later.entries others keys
  refine entered.line ?_ ?_
  · simpa using read
  · simp
    omega

def tableOf (sections : List (String × Entries)) : Entries :=
  sections.map fun part => (part.1, .table .header part.2)

structure WellFormed (sections : List (String × Entries)) : Prop where
  keys : WellKeyed sections
  entries : ∀ part ∈ sections, WellKeyed part.2

theorem completes_sections {sections : List (String × Entries)} {before : List (String × Entries)} {doc : Draft}
    {texts : List (List Char)} (written : (tableOf sections).mapM writeSection = some texts)
    (closed : doc.close = some (tableOf before)) (formed : WellFormed (before ++ sections)) :
    ∃ whole, Completes doc (['\n'].intercalate texts) whole ∧ whole.close = some (tableOf (before ++ sections)) := by
  induction sections generalizing before doc texts with
  | nil =>
    obtain rfl := Option.some.inj written
    exact ⟨doc, completes_nil doc, by rw [closed, List.append_nil]⟩
  | cons part sections ih =>
    obtain ⟨key, entries⟩ := part
    rw [tableOf, List.map_cons, List.mapM_cons] at written
    obtain ⟨text, spelled, written⟩ := Option.bind_eq_some_iff.mp written
    obtain ⟨texts, others, written⟩ := Option.bind_eq_some_iff.mp written
    obtain rfl := Option.some.inj written
    -- The header that comes next closes this section.
    have closedLater : (⟨tableOf before, .table ⟨[], key⟩, entries⟩ : Draft).close =
        some (tableOf (before ++ [(key, entries)])) := by
      rw [tableOf, tableOf, List.map_append]
      rfl
    have formedLater : WellFormed ((before ++ [(key, entries)]) ++ sections) := by
      simpa using formed
    obtain ⟨whole, completes, wholeClosed⟩ := ih others closedLater formedLater
    have new : key ∉ (tableOf before).map (·.1) := by
      rw [tableOf, List.map_map]
      exact formed.keys.not_mem
    have first {rest : List Char} (later : Completes ⟨tableOf before, .table ⟨[], key⟩, entries⟩ rest whole) :
        Completes doc (text ++ rest) whole :=
      completes_section spelled closed new (formed.keys.bare (key, entries) (by simp))
        (formed.entries (key, entries) (by simp)) later
    rw [List.append_assoc, List.singleton_append] at wholeClosed
    refine ⟨whole, ?_, wholeClosed⟩
    cases texts with
    | nil =>
      rw [List.intercalate_singleton, ← List.append_nil text]
      exact first completes
    | cons next texts =>
      rw [List.intercalate_cons_cons, List.append_assoc]
      exact first (completes.line (readLine_blank _ _) (Nat.lt_succ_self _))

theorem head?_sections {sections : List (String × Entries)} {texts : List (List Char)}
    (written : (tableOf sections).mapM writeSection = some texts) :
    ∀ c ∈ (['\n'].intercalate texts).head?, c = '[' := by
  cases sections with
  | nil =>
    obtain rfl := Option.some.inj written
    nofun
  | cons part sections =>
    rw [tableOf, List.map_cons, List.mapM_cons] at written
    obtain ⟨text, spelled, written⟩ := Option.bind_eq_some_iff.mp written
    obtain ⟨texts, -, written⟩ := Option.bind_eq_some_iff.mp written
    obtain rfl := Option.some.inj written
    obtain ⟨lines, -, same⟩ := Option.bind_eq_some_iff.mp spelled
    obtain rfl := Option.some.inj same
    cases texts <;> simp

/-- A document of sections is read back. -/
theorem read_write {sections : List (String × Entries)} (formed : WellFormed sections) {text : String}
    (written : write (.table .header (tableOf sections)) = some text) :
    read text = some (.table .header (tableOf sections)) := by
  obtain ⟨texts, parts, same⟩ := Option.bind_eq_some_iff.mp written
  obtain rfl := Option.some.inj same
  obtain ⟨whole, completes, closed⟩ := @completes_sections sections [] {} texts parts rfl formed
  have unmarked : (['\n'].intercalate texts).head? ≠ some '\uFEFF' :=
    fun marked => absurd (head?_sections parts _ marked) (by decide)
  rw [read, String.toList_ofList, if_neg unmarked, completes _ (Nat.lt_succ_self _)]
  simp only [Option.bind_eq_bind, Option.bind_some]
  rw [closed]
  rfl

theorem mapM_isSome {α β : Type} {f : α → Option β} {as : List α} :
    (as.mapM f).isSome = true ↔ ∀ a ∈ as, (f a).isSome = true := by
  induction as with
  | nil => simp
  | cons a as ih =>
    rw [List.mapM_cons, List.forall_mem_cons, ← ih]
    cases f a with
    | none => simp
    | some b => cases as.mapM f <;> simp

theorem writeEntry_isSome {entry : String × Value} :
    (writeEntry entry).isSome = true ↔ (writeScalar entry.2).isSome = true := by
  change ((writeScalar entry.2).bind _).isSome = true ↔ _
  cases writeScalar entry.2 <;> simp

theorem writeSection_isSome {entries : Entries} :
    (writeSection (key, .table .header entries)).isSome = true ↔
      ∀ entry ∈ entries, (writeScalar entry.2).isSome = true := by
  simp_rw [← writeEntry_isSome, ← mapM_isSome]
  change ((entries.mapM writeEntry).bind _).isSome = true ↔ _
  cases entries.mapM writeEntry <;> simp

theorem write_isSome {sections : List (String × Entries)} : (write (.table .header (tableOf sections))).isSome = true ↔
    ∀ part ∈ sections, ∀ entry ∈ part.2, (writeScalar entry.2).isSome = true := by
  have parts : (write (.table .header (tableOf sections))).isSome = ((tableOf sections).mapM writeSection).isSome := by
    change (((tableOf sections).mapM writeSection).bind _).isSome = _
    cases (tableOf sections).mapM writeSection <;> rfl
  rw [parts, mapM_isSome, tableOf, List.forall_mem_map]
  exact forall₂_congr fun part _ => writeSection_isSome

theorem writeScalar_text (text : String) : (writeScalar (.text text)).isSome = true := rfl

theorem writeScalar_integer {n : Int} : (writeScalar (.integer n)).isSome = true ↔ Text.inInt64 n = true := by
  rw [writeScalar]
  split_ifs with small <;> simp [small]

end TagConsole.Document.Toml
