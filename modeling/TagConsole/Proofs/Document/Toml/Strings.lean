import Mathlib.Data.List.Basic
import TagConsole.Document.Toml.Quoting

/-!
Strings in documents. Whichever spelling a text is written in, it is read back.
-/

namespace TagConsole.Document.Toml

section Characters

variable {c : Char}

theorem isPlain_of_uncoded (uncoded : needsCode c = false) (unbroken : c ≠ '\n') : isPlain c = true := by
  simp only [needsCode, isPlain] at uncoded ⊢
  grind

theorem ne_return (plain : isPlain c = true) : c ≠ '\r' := by
  rintro rfl
  revert plain
  decide

theorem ne_newline (plain : isPlain c = true) : c ≠ '\n' := by
  rintro rfl
  revert plain
  decide

theorem readPlain_cons (plain : isPlain c = true) (rest : List Char) : readPlain (c :: rest) = some (c, rest) :=
  if_pos plain

theorem skipNewline?_cons (unbroken : c ≠ '\n') (unreturned : c ≠ '\r') (rest : List Char) :
    skipNewline? (c :: rest) = none := by
  unfold skipNewline?
  split
  · rename_i same
    exact absurd (List.cons.inj same).1 unbroken
  · rename_i same
    exact absurd (List.cons.inj same).1 unreturned
  · rfl

theorem readOrNewline_cons {readOne : Reader (List Char)} (unbroken : c ≠ '\n') (unreturned : c ≠ '\r')
    (rest : List Char) : readOrNewline readOne (c :: rest) = readOne (c :: rest) := by
  rw [readOrNewline, skipNewline?_cons unbroken unreturned]

theorem code_digits : ∀ code < 128,
    (Text.padZeros 4 (Text.digitsIn Text.upperHexLetters 16 code)).length = 4 ∧
      ((Text.padZeros 4 (Text.digitsIn Text.upperHexLetters 16 code)).mapM Hex.digitValue?).map
        (fun digits => (digits.length, digits.foldl (16 * · + ·) 0)) = some (4, code) := by
  decide +kernel

theorem readCodePoint_digits (small : c.toNat < 128) (rest : List Char) :
    readCodePoint 4 (Text.padZeros 4 (Text.digitsIn Text.upperHexLetters 16 c.toNat) ++ rest) = some (c, rest) := by
  obtain ⟨four, values⟩ := code_digits c.toNat small
  obtain ⟨digits, read, value⟩ := Option.map_eq_some_iff.mp values
  obtain ⟨length, value⟩ := Prod.mk.inj value
  have valid : c.toNat.isValidChar := c.valid
  rw [readCodePoint, List.take_left' four, List.drop_left' four, read]
  simp [value, length, valid]

inductive Escape (c : Char) : List Char → Prop where
  | plain (plain : isPlain c = true) (unslashed : c ≠ '\\') (unquoted : c ≠ '"') : Escape c [c]
  | coded (head : Char) (code : List Char) (solid : isGap head = false) (unbroken : head ≠ '\n')
      (unreturned : head ≠ '\r') (read : ∀ rest, readEscape (head :: code ++ rest) = some (c, rest)) :
      Escape c ('\\' :: head :: code)

theorem escape_escapeChar (unbroken : c ≠ '\n') (unquoted : c ≠ '"') : Escape c (escapeChar c) := by
  unfold escapeChar
  split_ifs with backspace tab feed back slash code
  · exact .coded 'b' [] rfl (by decide) (by decide) fun rest => by rw [backspace]; rfl
  · exact .coded 't' [] rfl (by decide) (by decide) fun rest => by rw [tab]; rfl
  · exact .coded 'f' [] rfl (by decide) (by decide) fun rest => by rw [feed]; rfl
  · exact .coded 'r' [] rfl (by decide) (by decide) fun rest => by rw [back]; rfl
  · exact .coded '\\' [] rfl (by decide) (by decide) fun rest => by rw [slash]; rfl
  · refine .coded 'u' _ rfl (by decide) (by decide) fun rest => readCodePoint_digits ?_ rest
    simp only [needsCode] at code
    grind
  · exact .plain (isPlain_of_uncoded (by simpa using code) unbroken) slash unquoted

theorem escape_escapeShort (c : Char) : Escape c (escapeShort c) := by
  unfold escapeShort
  split_ifs with quote broken
  · exact .coded '"' [] rfl (by decide) (by decide) fun rest => by rw [quote]; rfl
  · exact .coded 'n' [] rfl (by decide) (by decide) fun rest => by rw [broken]; rfl
  · exact escape_escapeChar broken quote

variable {piece : List Char}

theorem Escape.exists_head (escape : Escape c piece) :
    ∃ head tail, piece = head :: tail ∧ head ≠ '"' ∧ head ≠ '\n' ∧ head ≠ '\r' := by
  cases escape with
  | plain plain unslashed unquoted => exact ⟨c, [], rfl, unquoted, ne_newline plain, ne_return plain⟩
  | coded head code => exact ⟨_, _, rfl, by decide⟩

theorem Escape.readEscaped (escape : Escape c piece) (rest : List Char) :
    readEscaped (piece ++ rest) = some (c, rest) := by
  cases escape with
  | coded head code solid unbroken unreturned read => exact read rest
  | plain plain unslashed =>
    change Toml.readEscaped (c :: rest) = _
    unfold Toml.readEscaped
    split
    · rename_i same
      exact absurd (List.cons.inj same).1 unslashed
    · exact readPlain_cons plain rest

theorem readEscapedPart_plain (plain : isPlain c = true) (unslashed : c ≠ '\\') (rest : List Char) :
    readEscapedPart (c :: rest) = some ([c], rest) := by
  rw [readEscapedPart, readOrNewline_cons (ne_newline plain) (ne_return plain)]
  split
  · rename_i same
    exact absurd (List.cons.inj same).1 unslashed
  · rw [readPlain_cons plain]
    rfl

theorem Escape.readEscapedPart (escape : Escape c piece) (rest : List Char) :
    readEscapedPart (piece ++ rest) = some ([c], rest) := by
  cases escape with
  | plain plain unslashed => exact readEscapedPart_plain plain unslashed rest
  | coded head code solid unbroken unreturned read =>
    -- A line end behind the backslash would be taken away.
    have stays : skipGaps (head :: code ++ rest) = head :: code ++ rest :=
      List.dropWhile_cons_of_neg (by simp [solid])
    rw [Toml.readEscapedPart, List.cons_append, readOrNewline_cons (by decide) (by decide)]
    split
    · rename_i cs same
      obtain rfl := (List.cons.inj same).2
      rw [stays, read, List.cons_append, skipNewline?_cons unbroken unreturned]
      rfl
    · rename_i other
      exact absurd rfl (other _)

theorem readPlainPart_cons (plain : isPlain c = true ∨ c = '\n') (rest : List Char) :
    readPlainPart ([c] ++ rest) = some ([c], rest) := by
  rcases plain with plain | rfl
  · change readPlainPart (c :: rest) = _
    rw [readPlainPart, readOrNewline_cons (ne_newline plain) (ne_return plain), readPlain_cons plain]
    rfl
  · rfl

end Characters

/-- Characters are taken one by one, as long as the spelling of none starts with the quote. -/
theorem readUntil_spelled {quote : Char} {readOne : Reader Char} {spell : Char → List Char} {cs : List Char}
    (starts : ∀ c ∈ cs, ∃ head tail, spell c = head :: tail ∧ head ≠ quote)
    (reads : ∀ c ∈ cs, ∀ rest, readOne (spell c ++ rest) = some (c, rest)) (rest : List Char) {fuel : Nat}
    (enough : (cs.flatMap spell).length < fuel) :
    readUntil quote readOne fuel (cs.flatMap spell ++ quote :: rest) = some (cs, rest) := by
  induction cs generalizing fuel with
  | nil =>
    obtain ⟨fuel, rfl⟩ := Nat.exists_eq_add_one_of_ne_zero (Nat.ne_of_gt enough)
    simp [readUntil]
  | cons c cs ih =>
    obtain ⟨fuel, rfl⟩ := Nat.exists_eq_add_one_of_ne_zero (Nat.ne_zero_of_lt enough)
    obtain ⟨head, tail, spelled, other⟩ := starts c (by simp)
    have shorter : (cs.flatMap spell).length < fuel := by
      rw [List.flatMap_cons, spelled, List.length_append, List.length_cons] at enough
      omega
    have unclosed : ((c :: cs).flatMap spell ++ quote :: rest).head? ≠ some quote := by simp [spelled, other]
    rw [readUntil, if_neg unclosed, List.flatMap_cons, List.append_assoc, reads c (by simp)]
    simp only [Option.bind_eq_bind, Option.bind_some]
    rw [ih (fun c member => starts c (by simp [member])) (fun c member => reads c (by simp [member])) shorter]
    rfl

theorem readString_of_short {quote : Char} {cs text rest : List Char} (isQuote : quote = '"' ∨ quote = '\'')
    (short : ∀ more, cs ≠ quote :: quote :: more) (read : readShort (quote :: cs) = some (text, rest)) :
    readString (quote :: cs) = some (String.ofList text, rest) := by
  unfold readString
  split
  · rename_i same
    obtain ⟨rfl, long⟩ := List.cons.inj same
    exact absurd long (short _)
  · rename_i same
    obtain ⟨rfl, long⟩ := List.cons.inj same
    exact absurd long (short _)
  · rw [read]
    rfl

theorem readString_spelled {quote : Char} {readOne : Reader Char} {spell : Char → List Char} {cs : List Char}
    (isQuote : quote = '"' ∨ quote = '\'')
    (short : ∀ cs, readShort (quote :: cs) = readUntil quote readOne (cs.length + 1) cs)
    (starts : ∀ c ∈ cs, ∃ head tail, spell c = head :: tail ∧ head ≠ quote)
    (reads : ∀ c ∈ cs, ∀ rest, readOne (spell c ++ rest) = some (c, rest)) (rest : List Char) :
    readString (quote :: (cs.flatMap spell ++ quote :: '\n' :: rest)) = some (String.ofList cs, '\n' :: rest) := by
  refine readString_of_short isQuote (fun more => ?_) ?_
  · cases cs with
    | nil => rcases isQuote with rfl | rfl <;> simp
    | cons c cs =>
      obtain ⟨head, tail, spelled, other⟩ := starts c (by simp)
      simp [spelled, other]
  · rw [short]
    exact readUntil_spelled starts reads _ (by simp only [List.length_append]; omega)

theorem readString_escaped (cs rest : List Char) :
    readString ('"' :: (cs.flatMap escapeShort ++ '"' :: '\n' :: rest)) = some (String.ofList cs, '\n' :: rest) := by
  refine readString_spelled (.inl rfl) (fun _ => rfl) (fun c _ => ?_)
    (fun c _ => (escape_escapeShort c).readEscaped) rest
  obtain ⟨head, tail, spelled, unquoted, -⟩ := (escape_escapeShort c).exists_head
  exact ⟨head, tail, spelled, unquoted⟩

theorem readString_literal {cs : List Char} (plain : ∀ c ∈ cs, isPlain c = true) (unquoted : '\'' ∉ cs)
    (rest : List Char) :
    readString ('\'' :: (cs ++ '\'' :: '\n' :: rest)) = some (String.ofList cs, '\n' :: rest) := by
  have read := @readString_spelled '\'' readPlain (fun c => [c]) cs (.inr rfl) (fun _ => rfl)
    (fun c member => ⟨c, [], rfl, fun same => unquoted (same ▸ member)⟩)
    (fun c member => readPlain_cons (plain c member)) rest
  rwa [List.flatMap_singleton'] at read

/-- What may stand between three quotes, and the text that it spells. No more than two quotes stand in a row, so that
    those at the end belong to the text. -/
inductive Spells (quote : Char) (readPart : Reader (List Char)) : List Char → List Char → Prop where
  | last {k} (few : k ≤ 2) : Spells quote readPart (List.replicate k quote) (List.replicate k quote)
  | part {piece content part text} (nonempty : piece ≠ [])
      (front : ∃ k ≤ 2, ∃ head tail, piece ++ content = List.replicate k quote ++ head :: tail ∧ head ≠ quote)
      (read : ∀ rest, readPart (piece ++ rest) = some (part, rest)) (later : Spells quote readPart content text) :
      Spells quote readPart (piece ++ content) (part ++ text)

theorem closing?_eq_none {quote head : Char} {k : Nat} (few : k ≤ 2) (other : head ≠ quote) (tail : List Char) :
    closing? quote (List.replicate k quote ++ head :: tail) = none := by
  have run : (List.replicate k quote ++ head :: tail).takeWhile (· = quote) = List.replicate k quote := by
    rw [List.takeWhile_append_of_pos (by simp), List.takeWhile_cons_of_neg (by simpa using other), List.append_nil]
  rw [closing?, run, List.length_replicate, if_pos (by omega)]

theorem closing?_replicate {quote : Char} (unbroken : '\n' ≠ quote) {k : Nat} (few : k ≤ 2) (rest : List Char) :
    closing? quote (List.replicate k quote ++ quote :: quote :: quote :: '\n' :: rest) =
      some (List.replicate k quote, '\n' :: rest) := by
  have whole : List.replicate k quote ++ quote :: quote :: quote :: '\n' :: rest =
      List.replicate (k + 3) quote ++ '\n' :: rest := by
    rw [List.replicate_add, List.append_assoc]
    rfl
  have run : (List.replicate (k + 3) quote ++ '\n' :: rest).takeWhile (· = quote) = List.replicate (k + 3) quote := by
    rw [List.takeWhile_append_of_pos (by simp), List.takeWhile_cons_of_neg (by simpa using unbroken), List.append_nil]
  rw [whole, closing?, run, List.length_replicate, if_neg (by omega), show min (k + 3) 5 = k + 3 by omega,
    Nat.add_sub_cancel, List.drop_left' List.length_replicate]

theorem readParts_spelled {quote : Char} {readPart : Reader (List Char)} {content text : List Char}
    (unbroken : '\n' ≠ quote) (spells : Spells quote readPart content text) (rest : List Char) {fuel : Nat}
    (enough : content.length < fuel) :
    readParts quote readPart fuel (content ++ quote :: quote :: quote :: '\n' :: rest) = some (text, '\n' :: rest) := by
  -- No part is empty, so there are no more of them than characters.
  induction spells generalizing fuel with
  | last few =>
    obtain ⟨fuel, rfl⟩ := Nat.exists_eq_add_one_of_ne_zero (Nat.ne_zero_of_lt enough)
    rw [readParts, closing?_replicate unbroken few]
  | @part piece content part text nonempty front read later ih =>
    obtain ⟨fuel, rfl⟩ := Nat.exists_eq_add_one_of_ne_zero (Nat.ne_zero_of_lt enough)
    obtain ⟨k, few, head, tail, spelled, other⟩ := front
    have shorter : content.length < fuel := by
      have := List.length_pos_iff.mpr nonempty
      rw [List.length_append] at enough
      omega
    have unclosed : closing? quote (piece ++ content ++ quote :: quote :: quote :: '\n' :: rest) = none := by
      rw [spelled, List.append_assoc]
      exact closing?_eq_none few other _
    rw [readParts, unclosed, List.append_assoc, read]
    simp only [Option.bind_eq_bind, Option.bind_some]
    rw [ih shorter]
    rfl

theorem escapeLong_front (cs : List Char) {run : Nat} (few : run ≤ 2) :
    (∃ k, k + run ≤ 2 ∧ cs = List.replicate k '"' ∧ escapeLong run cs = List.replicate k '"') ∨
      ∃ k, k + run ≤ 2 ∧ ∃ head tail, escapeLong run cs = List.replicate k '"' ++ head :: tail ∧ head ≠ '"' := by
  induction cs generalizing run with
  | nil => exact .inl ⟨0, by omega, rfl, rfl⟩
  | cons c cs ih =>
    unfold escapeLong
    split_ifs with quote room broken
    · subst quote
      rcases ih (show run + 1 ≤ 2 by omega) with ⟨k, fits, rfl, spelled⟩ | ⟨k, fits, head, tail, spelled, other⟩
      · exact .inl ⟨k + 1, by omega, rfl, by rw [spelled]; rfl⟩
      · exact .inr ⟨k + 1, by omega, head, tail, by rw [spelled]; rfl, other⟩
    · exact .inr ⟨0, by omega, _, _, rfl, by decide⟩
    · exact .inr ⟨0, by omega, _, _, rfl, by decide⟩
    · obtain ⟨head, tail, spelled, unquoted, -⟩ := (escape_escapeChar broken quote).exists_head
      exact .inr ⟨0, by omega, _, _, by rw [spelled]; rfl, unquoted⟩

theorem escapeLong_spells (cs : List Char) {run : Nat} (few : run ≤ 2) :
    Spells '"' readEscapedPart (escapeLong run cs) cs := by
  induction cs generalizing run with
  | nil => exact .last (Nat.zero_le 2)
  | cons c cs ih =>
    rcases escapeLong_front (c :: cs) few with ⟨k, fits, same, spelled⟩ | ⟨k, fits, mixed⟩
    · rw [spelled, same]
      exact .last (by omega)
    · have front : ∃ k ≤ 2, ∃ head tail,
          escapeLong run (c :: cs) = List.replicate k '"' ++ head :: tail ∧ head ≠ '"' := ⟨k, by omega, mixed⟩
      -- What the escapes of the rest start with is in `front`; here the first character is taken off.
      unfold escapeLong at front ⊢
      split_ifs at front ⊢ with quote room broken
      · subst quote
        exact .part (List.cons_ne_nil '"' []) front (readEscapedPart_plain (by decide) (by decide)) (ih (by omega))
      · subst quote
        have escape : Escape '"' ['\\', '"'] := escape_escapeShort '"'
        exact .part (List.cons_ne_nil '\\' ['"']) front escape.readEscapedPart (ih (by omega))
      · subst broken
        exact .part (List.cons_ne_nil '\n' []) front (fun _ => rfl) (ih (by omega))
      · have escape := escape_escapeChar broken quote
        obtain ⟨head, tail, spelled, -⟩ := escape.exists_head
        exact .part (by simp [spelled]) front escape.readEscapedPart (ih (by omega))

theorem exists_replicate_front (q : Char) (cs : List Char) : ∃ k, cs = List.replicate k q ∨
    ∃ head tail, cs = List.replicate k q ++ head :: tail ∧ head ≠ q := by
  induction cs with
  | nil => exact ⟨0, .inl rfl⟩
  | cons c cs ih =>
    by_cases same : c = q
    · subst same
      obtain ⟨k, rfl | ⟨head, tail, rfl, other⟩⟩ := ih
      · exact ⟨k + 1, .inl rfl⟩
      · exact ⟨k + 1, .inr ⟨head, tail, rfl, other⟩⟩
    · exact ⟨0, .inr ⟨c, cs, rfl, same⟩⟩

theorem length_front {q : Char} {k : Nat} {tail : List Char}
    (unquoted : Text.occursInChars [q, q, q] (List.replicate k q ++ tail) = false) : k ≤ 2 := by
  by_contra many
  obtain ⟨more, rfl⟩ := Nat.exists_eq_add_of_le' (show 3 ≤ k by omega)
  simp [List.replicate_succ, Text.occursInChars, List.isPrefixOf] at unquoted

theorem literal_spells {cs : List Char} (plain : ∀ c ∈ cs, isPlain c = true ∨ c = '\n')
    (unquoted : Text.occursInChars ['\'', '\'', '\''] cs = false) : Spells '\'' readPlainPart cs cs := by
  induction cs with
  | nil => exact .last (Nat.zero_le 2)
  | cons c cs ih =>
    obtain ⟨plainHead, plain⟩ := List.forall_mem_cons.mp plain
    have later := ih plain (Bool.or_eq_false_iff.mp unquoted).2
    obtain ⟨k, same | ⟨head, tail, same, other⟩⟩ := exists_replicate_front '\'' (c :: cs)
    -- Nothing but quotes is left: they stand in front of those that close the text.
    · rw [same, ← List.append_nil (List.replicate k _)] at unquoted
      rw [same]
      exact .last (length_front unquoted)
    · exact .part (List.cons_ne_nil c []) ⟨k, length_front (same ▸ unquoted), head, tail, same, other⟩
        (readPlainPart_cons plainHead) later

theorem readLong_spelled {quote : Char} {readPart : Reader (List Char)} {content text : List Char}
    (isQuote : quote = '"' ∨ quote = '\'') (spells : Spells quote readPart content text)
    (start : '\n' ∉ text → ∀ head ∈ content.head?, head ≠ '\n' ∧ head ≠ '\r') (rest : List Char) :
    readLong quote readPart (longStart text ++ content ++ [quote, quote, quote] ++ '\n' :: rest) =
      some (text, '\n' :: rest) := by
  have other : '\n' ≠ quote ∧ quote ≠ '\r' := by rcases isQuote with rfl | rfl <;> decide
  have opened : (skipNewline? (longStart text ++ content ++ [quote, quote, quote] ++ '\n' :: rest)).getD
      (longStart text ++ content ++ [quote, quote, quote] ++ '\n' :: rest) =
        content ++ quote :: quote :: quote :: '\n' :: rest := by
    unfold longStart
    split_ifs with broken
    · simp [skipNewline?]
    · cases content with
      | nil =>
        simp only [List.nil_append, List.cons_append]
        rw [skipNewline?_cons other.1.symm other.2]
        rfl
      | cons head content =>
        obtain ⟨unbroken, unreturned⟩ := start broken head rfl
        simp only [List.nil_append, List.cons_append, List.append_assoc]
        rw [skipNewline?_cons unbroken unreturned]
        rfl
  rw [readLong, opened]
  exact readParts_spelled other.1 spells rest (by simp only [List.length_append]; omega)

theorem readString_longEscaped (cs rest : List Char) :
    readString (['"', '"', '"'] ++ longStart cs ++ escapeLong 0 cs ++ ['"', '"', '"'] ++ '\n' :: rest) =
      some (String.ofList cs, '\n' :: rest) := by
  have read := readLong_spelled (.inl rfl) (escapeLong_spells cs (Nat.zero_le 2)) (fun unbroken => ?_) rest
  · exact congrArg (Option.map fun found : List Char × List Char => (String.ofList found.1, found.2)) read
  · cases cs with
    | nil => nofun
    | cons c cs =>
      have other : c ≠ '\n' := fun same => unbroken (by simp [same])
      unfold escapeLong
      split_ifs with quote room
      · rintro _ ⟨⟩
        decide
      · rintro _ ⟨⟩
        decide
      · obtain ⟨head, tail, spelled, -, solid⟩ := (escape_escapeChar other quote).exists_head
        rw [spelled]
        rintro _ ⟨⟩
        exact solid

theorem readString_longLiteral {cs : List Char} (plain : ∀ c ∈ cs, isPlain c = true ∨ c = '\n')
    (unquoted : Text.occursInChars ['\'', '\'', '\''] cs = false) (rest : List Char) :
    readString (['\'', '\'', '\''] ++ longStart cs ++ cs ++ ['\'', '\'', '\''] ++ '\n' :: rest) =
      some (String.ofList cs, '\n' :: rest) := by
  have read := readLong_spelled (.inr rfl) (literal_spells plain unquoted) (fun unbroken => ?_) rest
  · exact congrArg (Option.map fun found : List Char × List Char => (String.ofList found.1, found.2)) read
  · intro head first
    have member := List.mem_of_mem_head? first
    rcases plain head member with plain | rfl
    · exact ⟨ne_newline plain, ne_return plain⟩
    · exact absurd member unbroken

theorem Spelling.of_eq_literal {cs : List Char} (picked : Spelling.of cs = .literal) :
    cs.any needsCode = false ∧ '\'' ∉ cs ∧ '\n' ∉ cs := by
  unfold Spelling.of at picked
  grind

theorem Spelling.of_eq_longLiteral {cs : List Char} (picked : Spelling.of cs = .longLiteral) :
    cs.any needsCode = false ∧ Text.occursInChars ['\'', '\'', '\''] cs = false := by
  unfold Spelling.of at picked
  grind

theorem isPlain_or_newline {cs : List Char} (uncoded : cs.any needsCode = false) :
    ∀ c ∈ cs, isPlain c = true ∨ c = '\n' := by
  intro c member
  by_cases broken : c = '\n'
  · exact .inr broken
  · exact .inl (isPlain_of_uncoded (by simpa using List.any_eq_false.mp uncoded c member) broken)

/-- A text is read back, whatever it holds. -/
theorem readString_writeChars (cs rest : List Char) :
    readString (writeChars cs ++ '\n' :: rest) = some (String.ofList cs, '\n' :: rest) := by
  unfold writeChars
  cases picked : Spelling.of cs with
  | escaped =>
    rw [← readString_escaped]
    simp
  | longEscaped => exact readString_longEscaped cs rest
  | literal =>
    obtain ⟨uncoded, unquoted, unbroken⟩ := Spelling.of_eq_literal picked
    have plain : ∀ c ∈ cs, isPlain c = true := fun c member =>
      (isPlain_or_newline uncoded c member).resolve_right fun same => unbroken (same ▸ member)
    rw [← readString_literal plain unquoted]
    simp
  | longLiteral =>
    obtain ⟨uncoded, unquoted⟩ := Spelling.of_eq_longLiteral picked
    exact readString_longLiteral (isPlain_or_newline uncoded) unquoted rest

end TagConsole.Document.Toml
