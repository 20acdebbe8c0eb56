import Mathlib.Data.List.DropRight
import TagConsole.Console.History

/-!
Walks through a history. A history is the latest lines that were entered and a position among them, and behind the
newest of them nobody walks.
-/

namespace TagConsole

theorem rtake_append_rtake {α : Type} (limit : Nat) (first later : List α) :
    (first.rtake limit ++ later).rtake limit = (first ++ later).rtake limit := by
  simp only [List.rtake_eq_reverse_take_reverse, List.reverse_append, List.reverse_reverse, List.take_append,
    List.take_take]
  rw [Nat.min_eq_left (Nat.sub_le _ _)]

theorem rtake_concat_ne_nil {α : Type} {limit : Nat} (positive : 0 < limit) (first : List α) (last : α) :
    (first ++ [last]).rtake limit ≠ [] := by
  rw [← List.length_pos_iff, List.rtake, List.length_drop, List.length_append, List.length_singleton]
  omega

namespace Console

namespace History

inductive Act where
  | push (line : String)
  | previous
  | next

def act (history : History) : Act → Option String × History
  | .push line => (none, history.push line)
  | .previous => history.previous
  | .next => history.next

def run (history : History) (acts : List Act) : History :=
  acts.foldl (fun history act => (history.act act).2) history

def pushed (acts : List Act) : List String :=
  acts.filterMap fun
    | .push line => some line
    | _ => none

end History

open History (Act)

/-- Lines and a position among them, or behind the last one. -/
structure Walk where
  lines : List String
  position : Nat
  within : position ≤ lines.length

namespace Walk

def start : Walk := ⟨[], 0, Nat.le_refl 0⟩

/-- A step back stops at the oldest line. A step forward from the newest one leads behind it, to an empty line. -/
def act (room : Nat) (walk : Walk) : Act → Option String × Walk
  | .push line =>
    let lines := (walk.lines ++ [line]).rtake room
    (none, ⟨lines, lines.length, Nat.le_refl _⟩)
  | .previous =>
    if walk.lines = [] then (none, walk)
    else (walk.lines[walk.position - 1]?, ⟨walk.lines, walk.position - 1, (Nat.sub_le _ _).trans walk.within⟩)
  | .next =>
    if behind : walk.position = walk.lines.length then (none, walk)
    else (walk.lines[walk.position + 1]?.getD "",
      ⟨walk.lines, walk.position + 1, Nat.lt_of_le_of_ne walk.within behind⟩)

def run (room : Nat) (walk : Walk) (acts : List Act) : Walk := acts.foldl (fun walk act => (walk.act room act).2) walk

def history (room : Nat) (walk : Walk) : History :=
  ⟨room, walk.lines, if walk.position = walk.lines.length then none else some walk.position⟩

section Act

variable (room : Nat) {walk : Walk}

theorem act_previous (nonempty : walk.lines ≠ []) : ∃ line, walk.lines[walk.position - 1]? = some line ∧
    walk.act room .previous =
      (some line, ⟨walk.lines, walk.position - 1, (Nat.sub_le _ _).trans walk.within⟩) := by
  have length := List.length_pos_iff.mpr nonempty
  have within := walk.within
  have present : walk.lines[walk.position - 1]? = some walk.lines[walk.position - 1] :=
    List.getElem?_eq_getElem (by omega)
  exact ⟨_, present, by rw [Walk.act, if_neg nonempty, present]⟩

theorem previous_eq_none : (walk.act room .previous).1 = none ↔ walk.lines = [] := by
  constructor
  · intro silent
    by_contra nonempty
    obtain ⟨line, -, step⟩ := act_previous room nonempty
    simp [step] at silent
  · intro empty
    rw [Walk.act, if_pos empty]

theorem next_eq_none : (walk.act room .next).1 = none ↔ walk.position = walk.lines.length := by
  rw [Walk.act]
  split <;> simp_all

theorem history_act (walk : Walk) (act : Act) :
    (walk.history room).act act = ((walk.act room act).1, (walk.act room act).2.history room) := by
  obtain ⟨lines, position, within⟩ := walk
  cases act with
  | push line => simp [History.act, History.push, Walk.act, history, List.rtake]
  | previous =>
    by_cases empty : lines = []
    · subst empty
      simp [History.act, History.previous, Walk.act, history]
    · have length := List.length_pos_iff.mpr empty
      have inside : position - 1 ≠ lines.length := by omega
      -- Whoever stands behind the newest line steps back as from any other position.
      by_cases behind : position = lines.length
      · subst behind
        simp [History.act, History.previous, Walk.act, history, empty, inside]
      · simp [History.act, History.previous, Walk.act, history, empty, inside, behind]
  | next =>
    by_cases behind : position = lines.length
    · simp [History.act, History.next, Walk.act, history, behind]
    · by_cases last : position + 1 = lines.length
      · simp [History.act, History.next, Walk.act, history, behind, last]
      · have present : position + 1 < lines.length := by omega
        simp [History.act, History.next, Walk.act, history, behind, last, present]

theorem previous_next (free : walk.position ≠ 0 ∨ walk.lines = []) :
    ((walk.act room .previous).2.act room .next).2 = walk := by
  obtain ⟨lines, position, within⟩ := walk
  by_cases empty : lines = []
  · subst empty
    obtain rfl : position = 0 := Nat.le_zero.mp within
    rfl
  · have inside : position ≠ 0 := by simpa [empty] using free
    have ahead : position - 1 ≠ lines.length := by omega
    have back : position - 1 + 1 = position := by omega
    simp [Walk.act, empty, ahead, back]

theorem previous_times (nonempty : walk.lines ≠ []) (k : Nat) :
    (walk.run room (List.replicate k .previous)).lines = walk.lines ∧
      (walk.run room (List.replicate k .previous)).position = walk.position - k := by
  induction k generalizing walk with
  | zero => exact ⟨rfl, rfl⟩
  | succ k ih =>
    obtain ⟨line, -, step⟩ := act_previous room nonempty
    rw [List.replicate_succ, run, List.foldl_cons, step]
    obtain ⟨lines, position⟩ := @ih ⟨walk.lines, walk.position - 1, (Nat.sub_le _ _).trans walk.within⟩ nonempty
    exact ⟨lines, position.trans (Nat.sub_right_comm _ _ _)⟩

theorem previous_newest (nonempty : walk.lines ≠ []) (behind : walk.position = walk.lines.length) (k : Nat) :
    ∃ found, walk.lines.reverse[min k (walk.lines.length - 1)]? = some found ∧
      ((walk.run room (List.replicate k .previous)).act room .previous).1 = some found := by
  have length := List.length_pos_iff.mpr nonempty
  obtain ⟨lines, position⟩ := previous_times room nonempty k
  obtain ⟨found, place, step⟩ := act_previous room (lines ▸ nonempty)
  have order : walk.lines.length - 1 - min k (walk.lines.length - 1) = walk.lines.length - k - 1 := by omega
  rw [lines, position, behind] at place
  exact ⟨found, by rw [List.getElem?_reverse (by omega), order, place], by rw [step]⟩

end Act

section Run

variable {room : Nat}

theorem history_run (walk : Walk) (acts : List Act) :
    (walk.history room).run acts = (walk.run room acts).history room := by
  induction acts generalizing walk with
  | nil => rfl
  | cons act acts ih =>
    change ((walk.history room).act act).2.run acts = _
    rw [history_act]
    exact ih _

theorem run_lines {walk : Walk} {lines : List String} (known : walk.lines = lines.rtake room) (acts : List Act) :
    (walk.run room acts).lines = (lines ++ History.pushed acts).rtake room := by
  induction acts generalizing walk lines with
  | nil => simpa [run, History.pushed] using known
  | cons act acts ih =>
    cases act with
    | push line =>
      have pushed : (walk.act room (.push line)).2.lines = (lines ++ [line]).rtake room := by
        rw [← rtake_append_rtake, ← known]
        rfl
      have later := ih pushed
      rwa [List.append_assoc] at later
    | previous =>
      have same : (walk.act room .previous).2.lines = walk.lines := by
        rw [Walk.act]
        split <;> rfl
      exact ih (same.trans known)
    | next =>
      have same : (walk.act room .next).2.lines = walk.lines := by
        rw [Walk.act]
        split <;> rfl
      exact ih (same.trans known)

end Run

end Walk

/-- A history against the walk through the latest of the lines that were pushed. -/
structure Refines (room : Nat) (pushed : List String) (history : History) (walk : Walk) : Prop where
  lines : walk.lines = pushed.rtake room
  represented : history = walk.history room
  acts : ∀ act, history.act act = ((walk.act room act).1, (walk.act room act).2.history room)
  cursor : ∀ i, history.cursor = some i → i < history.entries.length
  silent : (history.previous.1 = none ↔ walk.lines = []) ∧
    (history.next.1 = none ↔ walk.position = walk.lines.length)
  /-- A step back is taken back by a step forward, unless it was held up at the oldest line. -/
  back : walk.position ≠ 0 ∨ walk.lines = [] → history.previous.2.next.2 = history
  newest : ∀ line k, let kept := (pushed ++ [line]).rtake room
    ∃ found, kept.reverse[min k (kept.length - 1)]? = some found ∧
      (history.run (.push line :: List.replicate k .previous)).previous.1 = some found

theorem navigation_refined (capacity : Nat) (acts : List Act) :
    Refines (max capacity 1) (History.pushed acts) ((History.empty capacity).run acts)
      (Walk.start.run (max capacity 1) acts) := by
  have nothing : Walk.start.lines = List.rtake [] (max capacity 1) := (List.rtake_nil _).symm
  have lines := Walk.run_lines nothing acts
  rw [List.nil_append] at lines
  rw [show History.empty capacity = Walk.start.history (max capacity 1) from rfl, Walk.history_run]
  generalize Walk.start.run (max capacity 1) acts = walk at *
  -- Each act on the history is one on the walk, and this says all there is to say about it.
  have acts := Walk.history_act (max capacity 1)
  constructor
  case lines => exact lines
  case represented => rfl
  case acts => exact acts walk
  case cursor =>
    intro i cursor
    have within := walk.within
    simp [Walk.history] at cursor ⊢
    omega
  case silent =>
    change (((walk.history _).act .previous).1 = none ↔ _) ∧ (((walk.history _).act .next).1 = none ↔ _)
    rw [acts, acts]
    exact ⟨Walk.previous_eq_none _, Walk.next_eq_none _⟩
  case back =>
    intro free
    change (((walk.history _).act .previous).2.act .next).2 = _
    rw [acts, acts, Walk.previous_next _ free]
  case newest =>
    intro line k kept
    let fresh : Walk := ⟨kept, kept.length, Nat.le_refl _⟩
    have after : (walk.act (max capacity 1) (.push line)).2 = fresh := by
      simp only [Walk.act, lines, rtake_append_rtake, kept, fresh]
    have nonempty : fresh.lines ≠ [] := rtake_concat_ne_nil (by omega) _ line
    obtain ⟨found, place, answer⟩ := Walk.previous_newest (max capacity 1) nonempty rfl k
    refine ⟨found, place, ?_⟩
    change ((((walk.history _).act (.push line)).2.run _).act .previous).1 = _
    rw [acts, after, Walk.history_run, acts, answer]

end Console

end TagConsole
