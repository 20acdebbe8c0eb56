import Mathlib.Data.List.DropRight
import TagConsole.Text.Case

/-!
Words and trimmed texts. Blanks at the ends of a text make no difference to its words, and the first word keeps
its small letters whatever comes after it.
-/

namespace TagConsole.Text

section Words

variable {c : Char} {cs : List Char}

theorem wordsOf_blank (blank : isBlank c = true) : wordsOf (c :: cs) = wordsOf cs := by
  cases cs <;> simp [wordsOf, blank]

theorem wordsOf_visible (visible : isBlank c = false) :
    wordsOf (c :: cs) = (c :: cs.takeWhile (!isBlank ·)) :: wordsOf (cs.dropWhile (!isBlank ·)) := by
  induction cs generalizing c with
  | nil => simp [wordsOf, visible]
  | cons d cs ih =>
    cases blank : isBlank d with
    | true => simp [wordsOf, visible, blank]
    | false =>
      have rest := ih blank
      rw [wordsOf, visible, if_neg Bool.false_ne_true]
      simp [rest, blank]

theorem wordsOf_trimStart (cs : List Char) : wordsOf (trimStartChars cs) = wordsOf cs := by
  induction cs with
  | nil => rfl
  | cons c cs ih =>
    cases blank : isBlank c with
    | true => rw [trimStartChars, List.dropWhile_cons_of_pos blank, wordsOf_blank blank, ← ih, trimStartChars]
    | false => rw [trimStartChars, List.dropWhile_cons_of_neg (by simp [blank])]

theorem wordsOf_concat_blank (blank : isBlank c = true) (cs : List Char) : wordsOf (cs ++ [c]) = wordsOf cs := by
  induction cs with
  | nil => simp [wordsOf, blank]
  | cons d cs ih =>
    cases cs with
    | nil => simp [wordsOf, blank]
    | cons e cs =>
      rw [List.cons_append] at ih
      rw [List.cons_append, List.cons_append, wordsOf, ih, wordsOf]

theorem wordsOf_trimEnd (cs : List Char) : wordsOf (trimEndChars cs) = wordsOf cs := by
  change wordsOf (cs.rdropWhile isBlank) = wordsOf cs
  induction cs using List.reverseRecOn with
  | nil => rfl
  | append_singleton cs c ih =>
    cases blank : isBlank c with
    | true => rw [List.rdropWhile_concat_pos _ _ _ blank, ih, wordsOf_concat_blank blank]
    | false => rw [List.rdropWhile_concat_neg _ _ _ (by simp [blank])]

@[simp] theorem words_trim (s : String) : words (trim s) = words s := by
  simp [words, trim, trimChars, wordsOf_trimEnd, wordsOf_trimStart]

theorem wordsOf_ne_nil (member : c ∈ cs) (visible : isBlank c = false) : wordsOf cs ≠ [] := by
  induction cs with
  | nil => cases member
  | cons d cs ih =>
    cases blank : isBlank d with
    | true =>
      rw [wordsOf_blank blank]
      rcases List.mem_cons.mp member with rfl | member
      · simp [visible] at blank
      · exact ih member
    | false => simp [wordsOf_visible blank]

theorem wordsOf_eq_nil : wordsOf cs = [] ↔ ∀ c ∈ cs, isBlank c = true := by
  constructor
  · intro none c member
    by_contra visible
    exact wordsOf_ne_nil member (by simpa using visible) none
  · intro blank
    induction cs with
    | nil => rfl
    | cons d cs ih =>
      rw [wordsOf_blank (blank d (by simp))]
      exact ih fun c member => blank c (List.mem_cons_of_mem _ member)

/-- A text in words: its maximal runs of characters that are not blank, in order. -/
inductive InWords : List Char → List (List Char) → Prop where
  | blank {gap} (blank : ∀ c ∈ gap, isBlank c = true) : InWords gap []
  | word {gap word rest others} (blank : ∀ c ∈ gap, isBlank c = true) (nonempty : word ≠ [])
      (visible : ∀ c ∈ word, isBlank c = false) (ends : ∀ c ∈ rest.head?, isBlank c = true)
      (later : InWords rest others) : InWords (gap ++ word ++ rest) (word :: others)

theorem wordsOf_gap {gap : List Char} (blank : ∀ c ∈ gap, isBlank c = true) (cs : List Char) :
    wordsOf (gap ++ cs) = wordsOf cs := by
  induction gap with
  | nil => rfl
  | cons d gap ih =>
    rw [List.cons_append, wordsOf_blank (blank d (by simp))]
    exact ih fun c member => blank c (List.mem_cons_of_mem _ member)

theorem wordsOf_word {word rest : List Char} (nonempty : word ≠ []) (visible : ∀ c ∈ word, isBlank c = false)
    (ends : ∀ c ∈ rest.head?, isBlank c = true) : wordsOf (word ++ rest) = word :: wordsOf rest := by
  obtain ⟨c, word, rfl⟩ := List.exists_cons_of_ne_nil nonempty
  have others : ∀ d ∈ word, (!isBlank d) = true := fun d member => by simp [visible d (List.mem_cons_of_mem _ member)]
  have stops : rest.takeWhile (!isBlank ·) = [] ∧ rest.dropWhile (!isBlank ·) = rest := by
    cases rest with
    | nil => exact ⟨rfl, rfl⟩
    | cons d rest => simp [ends d rfl]
  rw [List.cons_append, wordsOf_visible (visible c (by simp)), List.takeWhile_append_of_pos others,
    List.dropWhile_append_of_pos others, stops.1, stops.2, List.append_nil]

theorem InWords.gap {words : List (List Char)} (blank : isBlank c = true) (cut : InWords cs words) :
    InWords (c :: cs) words := by
  cases cut with
  | blank others => exact .blank fun d member => (List.mem_cons.mp member).elim (· ▸ blank) (others d)
  | @word gap word rest _ others nonempty visible ends later =>
    have gap' : ∀ d ∈ c :: gap, isBlank d = true :=
      fun d member => (List.mem_cons.mp member).elim (· ▸ blank) (others d)
    exact .word gap' nonempty visible ends later

theorem inWords_wordsOf (cs : List Char) : InWords cs (wordsOf cs) := by
  -- Each step takes a blank or a whole word away.
  induction size : cs.length using Nat.strong_induction_on generalizing cs with
  | _ n ih =>
    cases cs with
    | nil => exact .blank (by simp)
    | cons c cs =>
      rw [List.length_cons] at size
      cases blank : isBlank c with
      | true =>
        rw [wordsOf_blank blank]
        exact (ih _ (by omega) cs rfl).gap blank
      | false =>
        have shorter := (List.dropWhile_sublist (!isBlank ·) (l := cs)).length_le
        have later := ih _ (by omega) (cs.dropWhile (!isBlank ·)) rfl
        have visible : ∀ d ∈ c :: cs.takeWhile (!isBlank ·), isBlank d = false := by
          intro d member
          rcases List.mem_cons.mp member with rfl | member
          · exact blank
          · simpa using List.mem_takeWhile_imp member
        have ends : ∀ d ∈ (cs.dropWhile (!isBlank ·)).head?, isBlank d = true := by
          intro d first
          have head := List.head?_dropWhile_not (!isBlank ·) cs
          rw [Option.mem_def.mp first] at head
          simpa using head
        rw [wordsOf_visible blank]
        have whole := @InWords.word [] _ _ _ (by simp) (by simp) visible ends later
        rwa [List.nil_append, List.cons_append, List.takeWhile_append_dropWhile] at whole

theorem inWords_iff {words : List (List Char)} : InWords cs words ↔ wordsOf cs = words := by
  constructor
  · intro cut
    induction cut with
    | blank blank => exact wordsOf_eq_nil.mpr blank
    | word blank nonempty visible ends later ih =>
      rw [List.append_assoc, wordsOf_gap blank, wordsOf_word nonempty visible ends, ih]
  · rintro rfl
    exact inWords_wordsOf cs

theorem InWords.word_visible {words : List (List Char)} (cut : InWords cs words) :
    ∀ word ∈ words, word ≠ [] ∧ ∀ c ∈ word, isBlank c = false := by
  induction cut with
  | blank => simp
  | word blank nonempty visible ends later ih =>
    intro word member
    rcases List.mem_cons.mp member with rfl | member
    · exact ⟨nonempty, visible⟩
    · exact ih word member

theorem wordsOf_intercalate {words : List (List Char)}
    (visible : ∀ word ∈ words, word ≠ [] ∧ ∀ c ∈ word, isBlank c = false) : wordsOf ([' '].intercalate words) = words := by
  induction words with
  | nil => rfl
  | cons word others ih =>
    obtain ⟨⟨nonempty, plain⟩, later⟩ := List.forall_mem_cons.mp visible
    cases others with
    | nil =>
      have alone := @wordsOf_word word [] nonempty plain (by simp)
      rw [List.append_nil] at alone
      rw [List.intercalate_singleton, alone]
      rfl
    | cons next others =>
      have space : isBlank ' ' = true := by decide
      rw [List.intercalate_cons_cons, List.append_assoc, List.singleton_append,
        wordsOf_word nonempty plain (by simp [space]), wordsOf_blank space, ih later]

theorem words_unwords {ws : List String} (visible : ∀ w ∈ ws, w.toList ≠ [] ∧ ∀ c ∈ w.toList, isBlank c = false) :
    words (unwords ws) = ws := by
  have plain : ∀ word ∈ ws.map String.toList, word ≠ [] ∧ ∀ c ∈ word, isBlank c = false :=
    List.forall_mem_map.mpr visible
  have joined : (unwords ws).toList = [' '].intercalate (ws.map String.toList) := String.toList_intercalate
  rw [words, joined, wordsOf_intercalate plain]
  simp [List.map_map, Function.comp_def]

theorem trim_isEmpty_iff (s : String) : (trim s).isEmpty = true ↔ words s = [] := by
  rw [← words_trim s]
  constructor
  · intro empty
    rw [String.isEmpty_iff] at empty
    rw [empty]
    rfl
  · intro none
    by_contra some
    have some : trimChars s.toList ≠ [] := by simpa [trim, String.isEmpty_iff] using some
    -- What is left of a text ends in a character that is not blank, and this character stands in a word.
    have visible : ¬ isBlank ((trimChars s.toList).getLast some) = true := List.rdropWhile_last_not _ _ some
    refine wordsOf_ne_nil (List.getLast_mem some) (by simpa using visible) ?_
    simpa [words, trim] using none

theorem trimChars_prefix (cs : List Char) : trimChars cs <+: trimStartChars cs :=
  List.rdropWhile_prefix isBlank _

theorem trimEndChars_eq (cs : List Char) : trimEndChars cs = (trimStartChars cs.reverse).reverse := rfl

theorem head?_trimStartChars (cs : List Char) : ∀ c ∈ (trimStartChars cs).head?, isBlank c = false := by
  intro c first
  have head := List.head?_dropWhile_not isBlank cs
  rwa [show (cs.dropWhile isBlank).head? = some c from first] at head

theorem trimStartChars_split (cs : List Char) :
    ∃ front, (∀ c ∈ front, isBlank c = true) ∧ cs = front ++ trimStartChars cs :=
  ⟨cs.takeWhile isBlank, fun _ => List.mem_takeWhile_imp, List.takeWhile_append_dropWhile.symm⟩

theorem trimStartChars_gap {gap : List Char} (blank : ∀ c ∈ gap, isBlank c = true) (cs : List Char) :
    trimStartChars (gap ++ cs) = trimStartChars cs := List.dropWhile_append_of_pos blank

theorem trimStartChars_of_first (first : ∀ c ∈ cs.head?, isBlank c = false) : trimStartChars cs = cs := by
  cases cs with
  | nil => rfl
  | cons c cs => exact List.dropWhile_cons_of_neg (by simp [first c rfl])

inductive Trims : List Char → List Char → Prop where
  | around {front core back} (before : ∀ c ∈ front, isBlank c = true) (after : ∀ c ∈ back, isBlank c = true)
      (first : ∀ c ∈ core.head?, isBlank c = false) (last : ∀ c ∈ core.getLast?, isBlank c = false) :
      Trims (front ++ core ++ back) core

theorem trimChars_eq_iff {core : List Char} : trimChars cs = core ↔ Trims cs core := by
  constructor
  · rintro rfl
    obtain ⟨front, before, whole⟩ := trimStartChars_split cs
    obtain ⟨back, after, tail⟩ := trimStartChars_split (trimStartChars cs).reverse
    have first : ∀ c ∈ (trimChars cs).head?, isBlank c = false := by
      intro c head
      obtain ⟨rest, starts⟩ := trimChars_prefix cs
      exact head?_trimStartChars cs c (by simp [← starts, List.head?_append, Option.mem_def.mp head])
    have last : ∀ c ∈ (trimChars cs).getLast?, isBlank c = false := by
      rw [trimChars, trimEndChars_eq, List.getLast?_reverse]
      exact head?_trimStartChars _
    have behind : ∀ c ∈ back.reverse, isBlank c = true := by simpa using after
    have trims := Trims.around before behind first last
    rw [← List.reverse_inj, List.reverse_reverse, List.reverse_append] at tail
    rwa [List.append_assoc, trimChars, trimEndChars_eq, ← tail, ← whole] at trims
  · rintro ⟨before, after, first, last⟩
    rename_i front back
    rw [trimChars, List.append_assoc, trimStartChars_gap before]
    by_cases none : core = []
    · subst none
      rw [List.nil_append, show trimStartChars back = [] from List.dropWhile_eq_nil_iff.mpr after]
      rfl
    · rw [trimStartChars_of_first (by rwa [List.head?_append_of_ne_nil _ none]), trimEndChars_eq, List.reverse_append,
        trimStartChars_gap (by simpa using after), trimStartChars_of_first (by simpa using last), List.reverse_reverse]

theorem trim_begins {s word : String} {others : List String} (first : words s = word :: others) :
    ∃ rest, (trim s).toList = word.toList ++ rest := by
  have some : (trim s).isEmpty = false := by
    rw [Bool.eq_false_iff, ne_eq, trim_isEmpty_iff, first]
    simp
  rw [← words_trim] at first
  generalize chars : (trim s).toList = cs at *
  cases cs with
  | nil =>
    rw [String.toList_eq_nil_iff] at chars
    simp [chars] at some
  | cons c cs =>
    have visible : isBlank c = false := by
      obtain ⟨tail, whole⟩ := trimChars_prefix s.toList
      rw [trim, String.toList_ofList] at chars
      rw [chars, List.cons_append] at whole
      exact head?_trimStartChars s.toList c (by rw [← whole]; rfl)
    rw [words, chars, wordsOf_visible visible, List.map_cons, List.cons.injEq] at first
    refine ⟨cs.dropWhile (!isBlank ·), ?_⟩
    rw [← first.1, String.toList_ofList, List.cons_append, List.takeWhile_append_dropWhile]

end Words

section Lower

variable {before cs after : List Char}

theorem lowerFrom_append (plain : 'Σ' ∉ cs) :
    lowerFrom before (cs ++ after) = lowerFrom before cs ++ lowerFrom (cs.reverse ++ before) after := by
  induction cs generalizing before with
  | nil => rfl
  | cons c cs ih =>
    rw [List.mem_cons, not_or] at plain
    have same : lowerAt before c (cs ++ after) = lowerAt before c cs := by
      rw [lowerAt, lowerAt, if_neg (Ne.symm plain.1), if_neg (Ne.symm plain.1)]
    rw [List.cons_append, lowerFrom, lowerFrom, same, ih plain.2, List.reverse_cons, List.append_assoc,
      List.append_assoc]
    rfl

theorem sigma_of_mem (member : 'Σ' ∈ cs) : 'σ' ∈ lowerFrom before cs ∨ 'ς' ∈ lowerFrom before cs := by
  induction cs generalizing before with
  | nil => cases member
  | cons c cs ih =>
    rw [lowerFrom, List.mem_append, List.mem_append]
    rcases List.mem_cons.mp member with rfl | member
    · rw [lowerAt, if_pos rfl]
      split
      · exact .inr (.inl (by simp))
      · exact .inl (.inl (by simp))
    · exact (ih member).imp .inr .inr

theorem lowerChars_prefix (plain : 'σ' ∉ lowerChars cs ∧ 'ς' ∉ lowerChars cs) :
    lowerChars cs <+: lowerChars (cs ++ after) := by
  have noSigma : 'Σ' ∉ cs := fun member => (sigma_of_mem member).elim plain.1 plain.2
  rw [lowerChars, lowerChars, lowerFrom_append noSigma]
  exact List.prefix_append _ _

theorem lower_begins {s word : String} {others : List String} (first : words s = word :: others)
    (plain : 'σ' ∉ (lower word).toList ∧ 'ς' ∉ (lower word).toList) :
    (lower word).toList <+: (lower (trim s)).toList := by
  obtain ⟨rest, whole⟩ := trim_begins first
  rw [lower, String.toList_ofList] at plain ⊢
  rw [lower, String.toList_ofList, whole]
  exact lowerChars_prefix plain

end Lower

end TagConsole.Text
