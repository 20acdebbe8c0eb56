import Mathlib.Data.List.Infix
import TagConsole.Proofs.Text.SmallLetters
import TagConsole.Proofs.Text.Words

/-!
Small letters and parts of a text. The small form of a part is a part of the small form of the whole, unless what
stands around it changes which of its sigmas end a word.
-/

namespace TagConsole.Text

section Occurrence

variable {part cs : List Char}

theorem occursInChars_iff : occursInChars part cs = true ↔ part <:+: cs := by
  induction cs with
  | nil => simp [occursInChars]
  | cons c cs ih =>
    rw [occursInChars, Bool.or_eq_true, List.isPrefixOf_iff_prefix, ih, List.infix_cons_iff]

theorem occursIn_iff {part text : String} : occursIn part text = true ↔ part.toList <:+: text.toList :=
  occursInChars_iff

end Occurrence

def lowerWithin (before after : List Char) : List Char → List Char
  | [] => []
  | c :: cs => lowerAt before c (cs ++ after) ++ lowerWithin (c :: before) after cs

section Part

variable {before after cs ds : List Char} {c : Char}

theorem lowerFrom_split : lowerFrom before (cs ++ after) =
    lowerWithin before after cs ++ lowerFrom (cs.reverse ++ before) after := by
  induction cs generalizing before with
  | nil => rfl
  | cons c cs ih =>
    rw [List.cons_append, lowerFrom, ih, lowerWithin, List.append_assoc, List.reverse_cons, List.append_assoc]
    rfl

theorem lowerChars_split : lowerChars (before ++ (cs ++ after)) = lowerWithin [] (cs ++ after) before ++
    (lowerWithin before.reverse after cs ++ lowerFrom (cs.reverse ++ before.reverse) after) := by
  rw [lowerChars, lowerFrom_split, lowerFrom_split, List.append_nil]

theorem lowerWithin_nil : lowerWithin before [] cs = lowerFrom before cs := by
  have split := @lowerFrom_split before [] cs
  rw [List.append_nil, lowerFrom, List.append_nil] at split
  exact split.symm

theorem lowerAt_congr (other : c ≠ 'Σ') : lowerAt before c after = lowerAt [] c [] := by
  rw [lowerAt, lowerAt, if_neg other, if_neg other]

theorem length_lowerAt : (lowerAt before c after).length = (lowerAt [] c []).length := by
  by_cases sigma : c = 'Σ'
  · rw [lowerAt, lowerAt, if_pos sigma, if_pos sigma]
    rfl
  · rw [lowerAt_congr sigma]

theorem length_lowerWithin : (lowerWithin before after cs).length = (lowerChars cs).length := by
  have same (x y : List Char) : (lowerWithin x after cs).length = (lowerWithin y [] cs).length := by
    induction cs generalizing x y with
    | nil => rfl
    | cons c cs ih =>
      rw [lowerWithin, lowerWithin, List.length_append, List.length_append, ih (c :: x) (c :: y),
        length_lowerAt, @length_lowerAt y]
  rw [same before [], lowerWithin_nil, lowerChars]

theorem lowerAt_sigma_eq_iff {before' after' : List Char} : lowerAt before 'Σ' after = lowerAt before' 'Σ' after' ↔
    endsWord before after = endsWord before' after' := by
  rw [lowerAt, lowerAt, if_pos rfl, if_pos rfl]
  cases endsWord before after <;> cases endsWord before' after' <;> decide

/-- Each capital sigma of a part ends a word in its place just if it ends one in the part alone. -/
def SameEnds (before after cs : List Char) : Prop :=
  ∀ u v, cs = u ++ 'Σ' :: v → endsWord (u.reverse ++ before) (v ++ after) = endsWord u.reverse v

theorem lowerWithin_eq_lowerFrom_iff {read : List Char} : lowerWithin (read ++ before) after cs = lowerFrom read cs ↔
    ∀ u v, cs = u ++ 'Σ' :: v →
      endsWord (u.reverse ++ (read ++ before)) (v ++ after) = endsWord (u.reverse ++ read) v := by
  induction cs generalizing read with
  | nil => simp [lowerWithin, lowerFrom]
  | cons c cs ih =>
    have later := @ih (c :: read)
    rw [List.cons_append] at later
    rw [lowerWithin, lowerFrom]
    constructor
    · intro same u v whole
      obtain ⟨first, others⟩ := List.append_inj same (length_lowerAt.trans length_lowerAt.symm)
      rcases List.cons_eq_append_iff.mp whole with ⟨rfl, here⟩ | ⟨u, rfl, there⟩
      · cases here
        exact lowerAt_sigma_eq_iff.mp first
      · simpa using later.mp others u v there
    · intro ends
      have first : lowerAt (read ++ before) c (cs ++ after) = lowerAt read c cs := by
        by_cases sigma : c = 'Σ'
        · subst sigma
          exact lowerAt_sigma_eq_iff.mpr (ends [] cs rfl)
        · rw [lowerAt_congr sigma, @lowerAt_congr read _ _ sigma]
      rw [first, later.mpr fun u v whole => by simpa using ends (c :: u) v (by rw [whole]; rfl)]

theorem lowerWithin_eq_iff : lowerWithin before after cs = lowerChars cs ↔ SameEnds before after cs := by
  have along := @lowerWithin_eq_lowerFrom_iff before after cs []
  simpa only [List.nil_append, List.append_nil, lowerChars, SameEnds] using along

end Part

section Settled

variable {before after cs ds : List Char} {c : Char}

/-- No text around a part changes which of its sigmas end a word. -/
def IsSettled (cs : List Char) : Prop := ∀ before after, SameEnds before after cs

theorem isSettled_of_plain (plain : 'Σ' ∉ cs) : IsSettled cs := by
  rintro before after u v rfl
  simp at plain

theorem SameEnds.found (same : SameEnds before.reverse after cs) :
    lowerChars cs <:+: lowerChars (before ++ (cs ++ after)) := by
  rw [lowerChars_split, lowerWithin_eq_iff.mpr same]
  exact ⟨_, _, List.append_assoc _ _ _⟩

theorem meetsCased_append : meetsCased (cs ++ ds) =
    if cs.all isCaseIgnorable then meetsCased ds else meetsCased cs := by
  induction cs with
  | nil => rfl
  | cons c cs ih =>
    cases ignorable : isCaseIgnorable c with
    | true => simpa [meetsCased, ignorable] using ih
    | false => simp [meetsCased, ignorable]

theorem meetsCased_of_ignorable (ignorable : cs.all isCaseIgnorable = true) : meetsCased cs = false := by
  have whole := @meetsCased_append cs []
  rwa [List.append_nil, if_pos ignorable] at whole

theorem unsettled_cases {u v : List Char}
    (differs : endsWord (u.reverse ++ before) (v ++ after) ≠ endsWord u.reverse v) :
    (u.all isCaseIgnorable = true ∧ endsWord (u.reverse ++ ['Α']) v ≠ endsWord u.reverse v) ∨
      (v.all isCaseIgnorable = true ∧ endsWord u.reverse (v ++ ['Α']) ≠ endsWord u.reverse v) := by
  have letter : meetsCased ['Α'] = true := by decide +kernel
  simp only [endsWord, meetsCased_append, List.all_reverse, letter] at differs ⊢
  by_cases first : u.all isCaseIgnorable = true
  · have nothing : meetsCased u.reverse = false := meetsCased_of_ignorable (by rwa [List.all_reverse])
    by_cases last : v.all isCaseIgnorable = true
    · simp_all [meetsCased_of_ignorable last]
    · simp_all
  · by_cases last : v.all isCaseIgnorable = true
    · simp_all [meetsCased_of_ignorable last]
    · simp_all

theorem smallLetter_eq_alpha (small : smallLetter c = 'α') : c = 'Α' ∨ c = 'α' := by
  rcases smallLetter_cases c with same | ⟨run, listed, holds, value⟩
  · exact .inr (same ▸ small)
  · have capital : ∀ run ∈ capitalRuns, run.holds (Int.toNat (0x3B1 - run.shift)) = true →
        Int.toNat (0x3B1 - run.shift) = 0x391 := by decide +kernel
    rw [small, CapitalRun.small] at value
    have same : Int.toNat (0x3B1 - run.shift) = c.toNat := by
      change 0x3B1 = _ at value
      omega
    have point : c.toNat = 'Α'.toNat := same ▸ capital run listed (by rwa [same])
    exact .inl (Char.toNat_inj.mp point)

/-- What the unsettled sigmas of a part have around them in it, they included. -/
def IsMute (c : Char) : Prop := c = 'Σ' ∨ isCaseIgnorable c = true

theorem lowerAt_of_mute (mute : IsMute c) : ∃ d, d ≠ 'α' ∧ lowerAt before c after = [d] := by
  rcases mute with rfl | ignorable
  · rw [lowerAt, if_pos rfl]
    split
    · exact ⟨_, by decide, rfl⟩
    · exact ⟨_, by decide, rfl⟩
  · have letters : isCaseIgnorable 'Σ' = false ∧ isCaseIgnorable 'İ' = false ∧ isCaseIgnorable 'Α' = false ∧
        isCaseIgnorable 'α' = false := by decide +kernel
    have other (letter : Char) (cased : isCaseIgnorable letter = false) : c ≠ letter := by
      rintro rfl
      rw [ignorable] at cased
      cases cased
    rw [lowerAt, if_neg (other _ letters.1), if_neg (other _ letters.2.1)]
    exact ⟨_, fun alpha => (smallLetter_eq_alpha alpha).elim (other _ letters.2.2.1) (other _ letters.2.2.2), rfl⟩

theorem lowerAt_letter : lowerAt before 'Α' after = ['α'] := by
  have letter : lowerAt [] 'Α' [] = ['α'] := by decide +kernel
  rw [lowerAt_congr (by decide), letter]

theorem lowerChars_after_letter : lowerChars ('Α' :: cs) = 'α' :: lowerWithin ['Α'] [] cs := by
  rw [lowerWithin_nil, lowerChars, lowerFrom, lowerAt_letter]
  rfl

theorem lowerChars_before_letter : lowerChars (cs ++ ['Α']) = lowerWithin [] ['Α'] cs ++ ['α'] := by
  rw [lowerChars, lowerFrom_split, lowerFrom, lowerAt_letter]
  rfl

theorem not_prefix_of_mute (mute : IsMute c) : ¬ lowerChars (c :: cs) <+: 'α' :: ds := by
  obtain ⟨d, other, small⟩ := @lowerAt_of_mute [] cs c mute
  rw [lowerChars, lowerFrom, small, List.singleton_append, List.cons_prefix_cons]
  exact fun found => other found.1

theorem not_suffix_of_mute (mute : IsMute c) : ¬ lowerChars (cs ++ [c]) <:+ ds ++ ['α'] := by
  obtain ⟨d, other, small⟩ := @lowerAt_of_mute (cs.reverse ++ []) [] c mute
  rw [lowerChars, lowerFrom_split, lowerFrom, small, ← List.reverse_prefix]
  simp only [lowerFrom, List.append_nil, List.reverse_append, List.reverse_singleton, List.singleton_append,
    List.cons_prefix_cons]
  exact fun found => other found.1

/-- A part is found in every text around it exactly if it is settled. -/
theorem isSettled_iff : IsSettled cs ↔ ∀ text, cs <:+: text → lowerChars cs <:+: lowerChars text := by
  constructor
  · rintro settled _ ⟨before, after, rfl⟩
    rw [List.append_assoc]
    exact (settled _ _).found
  · intro everywhere before after u v whole
    by_contra differs
    rcases unsettled_cases differs with ⟨mute, changed⟩ | ⟨mute, changed⟩
    · -- The first letter of the part is none that the added letter becomes, so the part can only be found in its place.
      have found := everywhere ('Α' :: cs) (List.infix_cons (List.infix_refl cs))
      rw [lowerChars_after_letter, List.infix_cons_iff] at found
      rcases found with first | place
      · cases u with
        | nil => exact not_prefix_of_mute (.inl rfl) (whole ▸ first)
        | cons c u => exact not_prefix_of_mute (.inr (List.all_eq_true.mp mute c (by simp))) (whole ▸ first)
      · have same := place.eq_of_length length_lowerWithin.symm
        exact changed (by simpa using lowerWithin_eq_iff.mp same.symm u v whole)
    · have found := everywhere (cs ++ ['Α']) ⟨[], ['Α'], rfl⟩
      rw [lowerChars_before_letter, List.infix_concat_iff] at found
      rcases found with last | place
      · rcases List.eq_nil_or_concat v with rfl | ⟨v, c, rfl⟩
        · exact not_suffix_of_mute (.inl rfl) (whole ▸ last)
        · have split : cs = (u ++ 'Σ' :: v) ++ [c] := by simp [whole]
          exact not_suffix_of_mute (.inr (List.all_eq_true.mp mute c (by simp))) (split ▸ last)
      · have same := place.eq_of_length length_lowerWithin.symm
        exact changed (by simpa using lowerWithin_eq_iff.mp same.symm u v whole)

/-- In a text without the two capitals that do not map on their own, what is found is a part with the same small
    letters. -/
theorem lowerChars_infix_iff {part text : List Char} (noSigma : 'Σ' ∉ text) (noDot : 'İ' ∉ text) :
    lowerChars part <:+: lowerChars text ↔ ∃ piece, piece <:+: text ∧ lowerChars piece = lowerChars part := by
  have letters {before cs : List Char} (within : cs ⊆ text) : lowerFrom before cs = cs.map smallLetter := by
    induction cs generalizing before with
    | nil => rfl
    | cons c cs ih =>
      obtain ⟨member, within⟩ := List.cons_subset.mp within
      have sigma : c ≠ 'Σ' := fun same => noSigma (same ▸ member)
      have dot : c ≠ 'İ' := fun same => noDot (same ▸ member)
      rw [lowerFrom, lowerAt, if_neg sigma, if_neg dot, ih within]
      rfl
  rw [lowerChars, lowerChars, letters (List.Subset.refl text), List.infix_map_iff]
  refine exists_congr fun piece => and_congr_right fun found => ?_
  rw [lowerChars, letters found.subset, eq_comm]

end Settled

end TagConsole.Text
