import TagConsole.Proofs.Text.Hex
import TagConsole.Text.Case

/-!
Small letters stay as they are, and no letter becomes a blank. So making a text small twice is making it small once,
and the small form of a word is a word.
-/

namespace TagConsole.Text

namespace CapitalRun

def small (run : CapitalRun) (point : Nat) : Nat := Int.toNat (point + run.shift)

def points (run : CapitalRun) : List Nat :=
  List.range' run.first ((run.last - run.first) / run.step + 1) run.step

def isValid (run : CapitalRun) : Bool :=
  Nat.blt (run.small run.last) 0xD800 || Nat.blt 0xDFFF (run.small run.first) && Nat.blt (run.small run.last) 0x110000

variable {run : CapitalRun} {point : Nat}

theorem holds_iff : run.holds point = true ↔
    (run.first ≤ point ∧ point ≤ run.last) ∧ (point - run.first) % run.step = 0 := by
  simp [holds]

theorem mem_points (holds : run.holds point = true) : point ∈ run.points := by
  obtain ⟨⟨low, high⟩, steps⟩ := holds_iff.mp holds
  rw [points, List.mem_range']
  refine ⟨(point - run.first) / run.step, ?_, ?_⟩
  · exact Nat.lt_succ_of_le (Nat.div_le_div_right (by omega))
  · rw [Nat.mul_div_cancel' (Nat.dvd_of_mod_eq_zero steps)]
    omega

theorem small_isValidChar (holds : run.holds point = true) (valid : run.isValid = true) :
    (run.small point).isValidChar := by
  obtain ⟨within, -⟩ := holds_iff.mp holds
  simp only [isValid, Bool.or_eq_true, Bool.and_eq_true, Nat.blt_eq, small] at valid
  simp only [Nat.isValidChar, small]
  omega

end CapitalRun

theorem capitalRuns_isValid : ∀ run ∈ capitalRuns, run.isValid = true := by decide +kernel

def specialLetters : List Char := ['ς', 'σ', 'i', '\u0307']

def smallForms : List Nat :=
  specialLetters.map Char.toNat ++ capitalRuns.flatMap fun run => run.points.map run.small

def pointsIn (table : List (Nat × Nat)) : List Nat :=
  table.flatMap fun range => List.range' range.1 (range.2 + 1 - range.1)

/-- What no small form is: one of the two capitals that do not map on their own, a blank, or another capital. -/
def notSmall : List Nat :=
  'Σ'.toNat :: 'İ'.toNat :: pointsIn blankRanges ++ capitalRuns.flatMap (·.points)

/-- A set of code points as the bits of a number, so that two sets are intersected in one step. -/
def pointSet : List Nat → Nat
  | [] => 0
  | point :: points => 1 <<< point ||| pointSet points

theorem testBit_pointSet {points : List Nat} {point : Nat} :
    (pointSet points).testBit point = true ↔ point ∈ points := by
  induction points with
  | nil => simp [pointSet]
  | cons first points ih =>
    rw [pointSet, Nat.testBit_or, Nat.one_shiftLeft, Nat.testBit_two_pow, Bool.or_eq_true, decide_eq_true_eq, ih,
      List.mem_cons, eq_comm]

theorem notSmall_and_smallForms : pointSet notSmall &&& pointSet smallForms = 0 := by decide +kernel

theorem not_mem_notSmall {point : Nat} (small : point ∈ smallForms) : point ∉ notSmall := by
  intro bad
  have both : (pointSet notSmall &&& pointSet smallForms).testBit point = true := by
    rw [Nat.testBit_and, testBit_pointSet.mpr bad, testBit_pointSet.mpr small]
    rfl
  rw [notSmall_and_smallForms, Nat.zero_testBit] at both
  cases both

section Letter

variable {c d : Char} {before after : List Char}

theorem mem_notSmall_of_blank (blank : isBlank c = true) : c.toNat ∈ notSmall := by
  obtain ⟨range, listed, between⟩ := List.any_eq_true.mp blank
  rw [Bool.and_eq_true, decide_eq_true_eq, decide_eq_true_eq] at between
  refine List.mem_append_left _ (List.mem_cons_of_mem _ (List.mem_cons_of_mem _ ?_))
  exact List.mem_flatMap.mpr ⟨range, listed, List.mem_range'_1.mpr (by omega)⟩

theorem mem_notSmall_of_holds {run : CapitalRun} (listed : run ∈ capitalRuns) (holds : run.holds c.toNat = true) :
    c.toNat ∈ notSmall :=
  List.mem_append_right _ (List.mem_flatMap.mpr ⟨run, listed, CapitalRun.mem_points holds⟩)

theorem smallLetter_of_none (none : ∀ run ∈ capitalRuns, run.holds c.toNat = false) : smallLetter c = c := by
  have nowhere : capitalRuns.find? (·.holds c.toNat) = .none :=
    List.find?_eq_none.mpr fun run listed => by simp [none run listed]
  rw [smallLetter, nowhere]

theorem smallLetter_cases (c : Char) : smallLetter c = c ∨
    ∃ run ∈ capitalRuns, run.holds c.toNat = true ∧ (smallLetter c).toNat = run.small c.toNat := by
  cases found : capitalRuns.find? (·.holds c.toNat) with
  | none => exact .inl (by rw [smallLetter, found])
  | some run =>
    have listed := List.mem_of_find?_eq_some found
    have holds : run.holds c.toNat = true := by simpa using List.find?_some found
    have same : smallLetter c = Char.ofNat (run.small c.toNat) := by
      rw [smallLetter, found]
      rfl
    refine .inr ⟨run, listed, holds, ?_⟩
    rw [same, Hex.toNat_ofNat (CapitalRun.small_isValidChar holds (capitalRuns_isValid run listed))]

def IsSmall (c : Char) : Prop := smallLetter c = c ∧ c ≠ 'Σ' ∧ c ≠ 'İ'

theorem isSmall_of_mem_smallForms (small : c.toNat ∈ smallForms) : IsSmall c := by
  have apart := not_mem_notSmall small
  refine ⟨smallLetter_of_none fun run listed => ?_, ?_, ?_⟩
  · rw [Bool.eq_false_iff]
    exact fun holds => apart (mem_notSmall_of_holds listed holds)
  · rintro rfl
    exact apart List.mem_cons_self
  · rintro rfl
    exact apart (List.mem_cons_of_mem _ List.mem_cons_self)

theorem visible_of_mem_smallForms (small : c.toNat ∈ smallForms) : isBlank c = false := by
  rw [Bool.eq_false_iff]
  exact fun blank => not_mem_notSmall small (mem_notSmall_of_blank blank)

theorem IsSmall.lowerAt_eq (small : IsSmall c) : lowerAt before c after = [c] := by
  obtain ⟨same, sigma, dot⟩ := small
  rw [lowerAt, if_neg sigma, if_neg dot, same]

theorem mem_smallForms_of_special (special : d ∈ specialLetters) : d.toNat ∈ smallForms :=
  List.mem_append_left _ (List.mem_map_of_mem special)

/-- A character becomes small forms only, or is small and stays. -/
theorem mem_lowerAt (member : d ∈ lowerAt before c after) : d.toNat ∈ smallForms ∨ d = c ∧ IsSmall c := by
  unfold lowerAt at member
  split at member
  · left
    rw [List.mem_singleton.mp member]
    split <;> exact mem_smallForms_of_special (by decide)
  · split at member
    · exact .inl (mem_smallForms_of_special (List.mem_append_right ['ς', 'σ'] member))
    · rw [List.mem_singleton.mp member]
      rcases smallLetter_cases c with same | ⟨run, listed, holds, small⟩
      · exact .inr ⟨same, same, ‹_›, ‹_›⟩
      · left
        rw [small]
        refine List.mem_append_right _ (List.mem_flatMap.mpr ⟨run, listed, ?_⟩)
        exact List.mem_map_of_mem (CapitalRun.mem_points holds)

theorem isSmall_of_mem_lowerAt (member : d ∈ lowerAt before c after) : IsSmall d := by
  rcases mem_lowerAt member with small | ⟨rfl, small⟩
  · exact isSmall_of_mem_smallForms small
  · exact small

theorem visible_of_mem_lowerAt (visible : isBlank c = false) (member : d ∈ lowerAt before c after) :
    isBlank d = false := by
  rcases mem_lowerAt member with small | ⟨rfl, -⟩
  · exact visible_of_mem_smallForms small
  · exact visible

theorem lowerAt_ne_nil : lowerAt before c after ≠ [] := by
  unfold lowerAt
  split
  · simp
  · split <;> simp

end Letter

section Small

variable {d : Char} {before cs : List Char}

theorem lowerFrom_eq_self (small : ∀ c ∈ cs, IsSmall c) : lowerFrom before cs = cs := by
  induction cs generalizing before with
  | nil => rfl
  | cons c cs ih =>
    rw [lowerFrom, (small c (by simp)).lowerAt_eq, ih fun d member => small d (List.mem_cons_of_mem _ member)]
    rfl

theorem isSmall_of_mem_lowerFrom (member : d ∈ lowerFrom before cs) : IsSmall d := by
  induction cs generalizing before with
  | nil => cases member
  | cons c cs ih =>
    rw [lowerFrom] at member
    exact (List.mem_append.mp member).elim isSmall_of_mem_lowerAt ih

theorem lowerChars_eq_self_iff : lowerChars cs = cs ↔ ∀ c ∈ cs, IsSmall c := by
  constructor
  · intro same c member
    rw [← same] at member
    exact isSmall_of_mem_lowerFrom member
  · exact lowerFrom_eq_self

theorem visible_of_mem_lowerFrom (visible : ∀ c ∈ cs, isBlank c = false) (member : d ∈ lowerFrom before cs) :
    isBlank d = false := by
  induction cs generalizing before with
  | nil => cases member
  | cons c cs ih =>
    rw [List.forall_mem_cons] at visible
    rw [lowerFrom] at member
    exact (List.mem_append.mp member).elim (visible_of_mem_lowerAt visible.1) (ih visible.2)

theorem lowerChars_ne_nil (nonempty : cs ≠ []) : lowerChars cs ≠ [] := by
  obtain ⟨c, cs, rfl⟩ := List.exists_cons_of_ne_nil nonempty
  exact List.append_ne_nil_of_left_ne_nil lowerAt_ne_nil _

end Small

@[simp] theorem lower_lower (s : String) : lower (lower s) = lower s := by
  have small : ∀ c ∈ lowerChars s.toList, IsSmall c := fun _ => isSmall_of_mem_lowerFrom
  rw [lower, lower, String.toList_ofList, lowerChars_eq_self_iff.mpr small]

theorem lower_visible {word : String} (nonempty : word.toList ≠ []) (visible : ∀ c ∈ word.toList, isBlank c = false) :
    (lower word).toList ≠ [] ∧ ∀ c ∈ (lower word).toList, isBlank c = false := by
  rw [lower, String.toList_ofList]
  exact ⟨lowerChars_ne_nil nonempty, fun _ => visible_of_mem_lowerFrom visible⟩

theorem lower_eq_self_of_prefix {s start : String} (small : lower s = s) (begins : start.toList <+: s.toList) :
    lower start = start := by
  rw [← String.toList_inj, lower, String.toList_ofList, lowerChars_eq_self_iff] at small ⊢
  exact fun c member => small c (begins.subset member)

end TagConsole.Text
