import TagConsole.Proofs.Session.Progress
import TagConsole.Proofs.Session.Runs

/-!
The statuses that a session publishes, in order and with whoever publishes them: what may follow what, and
that nobody else publishes while a connection is being made.
-/

namespace TagConsole.Session

inductive Author where
  | connect (call : Nat)
  | disconnect (call : Nat)
  | link (generation : Nat)
  deriving DecidableEq, Repr

structure Publication where
  author : Author
  status : Status
  deriving DecidableEq, Repr

namespace Moment

def author? (m : Moment) : Option Author :=
  match m.action with
  | .resume id =>
    match m.before.call? id with
    | some (.connect _ _) => some (.connect id)
    | some (.disconnect _) => some (.disconnect id)
    | _ => none
  | .receive generation => some (.link generation)
  | _ => none

def publications (m : Moment) : List Publication :=
  m.author?.elim [] fun author => (m.after.published.drop m.before.published.length).map (⟨author, ·⟩)

def Declares (m : Moment) (id : Nat) (status : Status) : Prop :=
  status = .connecting ∨ (status = .connected ∧ m.after.call? id = some (.ended .done)) ∨
    ∃ cause, status = .failed cause.message ∧ m.after.call? id = some (.ended (.failed (.connect cause)))

end Moment

def publications (past : List Moment) : List Publication := past.flatMap (·.publications)

/-- What may be published after what, or at first. -/
inductive Follows : Option Publication → Publication → Prop where
  | begins {last id} (settled : ∀ p, last = some p → p.status ≠ .connecting) : Follows last ⟨.connect id, .connecting⟩
  | succeeds {id} : Follows (some ⟨.connect id, .connecting⟩) ⟨.connect id, .connected⟩
  | fails {id} (cause : Transport.Error) :
      Follows (some ⟨.connect id, .connecting⟩) ⟨.connect id, .failed cause.message⟩
  | loses {id generation} : Follows (some ⟨.connect id, .connected⟩) ⟨.link generation, .linkLost⟩
  | disconnects {last id} (settled : ∀ p, last = some p → p.status ≠ .connecting) :
      Follows last ⟨.disconnect id, .disconnected⟩

def InOrder (ps : List Publication) : Prop := ∀ front p back, ps = front ++ p :: back → Follows front.getLast? p

theorem InOrder.concat {ps : List Publication} {p : Publication} (order : InOrder ps) (next : Follows ps.getLast? p) :
    InOrder (ps ++ [p]) := by
  intro front q back split
  rcases List.eq_nil_or_concat back with rfl | ⟨back, last, rfl⟩
  · obtain ⟨rfl, same⟩ := List.append_inj' split rfl
    cases same
    exact next
  · have split' : ps ++ [p] = (front ++ q :: back) ++ [last] := by rw [split]; simp
    exact order front q back (List.append_inj' split' rfl).1

namespace Call

def isOpening : Call → Bool
  | connect _ .opening | connect _ (.opened _) | connect _ (.discarding _) => true
  | _ => false

theorem isUnderway_of_isOpening {call : Call} (opening : call.isOpening = true) : call.isUnderway = true := by
  unfold isOpening at opening
  split at opening
  · rfl
  · rfl
  · rfl
  · cases opening

end Call

def Opening (s : Session) (id : Nat) : Prop := ∃ call, s.attempt? id = some call ∧ call.isOpening = true

section Opening

variable {s s' : Session} {id : Nat}

theorem opening_congr (attempts : s'.attempt? = s.attempt?) (other : Nat) : s'.Opening other ↔ s.Opening other := by
  simp only [Opening, attempts]

theorem opening_add {call : Call} (tidy : s.Tidy) (waits : call.isOpening = false)
    (calls : s'.calls = s.calls ++ [(s.nextCall, call)]) (other : Nat) : s'.Opening other ↔ s.Opening other := by
  simp only [Opening, attempt?_add tidy calls]
  by_cases new : other = s.nextCall
  · subst new
    have absent : s.attempt? s.nextCall = none := by simp [attempt?, tidy.call?_nextCall]
    simp [absent, Option.filter_eq_some_iff, waits]
  · simp [new]

theorem opening_replace {new : Call} (attempts : ∀ other, s'.attempt? other =
    if other = id then (some new).filter (·.isLifecycle) else s.attempt? other) (other : Nat) :
    s'.Opening other ↔ if other = id then new.isOpening = true else s.Opening other := by
  simp only [Opening, attempts]
  split
  · constructor
    · rintro ⟨call, same, opening⟩
      rwa [Option.some.inj (Option.filter_eq_some_iff.mp same).1]
    · intro opening
      have connects := Call.isLifecycle_of_isUnderway (Call.isUnderway_of_isOpening opening)
      exact ⟨new, Option.filter_some_pos connects, opening⟩
  · rfl

theorem opening_goesOn {old new : Call} (present : s.attempt? id = some old)
    (attempts : ∀ other, s'.attempt? other =
      if other = id then (some new).filter (·.isLifecycle) else s.attempt? other)
    (same : new.isOpening = old.isOpening) (other : Nat) : s'.Opening other ↔ s.Opening other := by
  rw [opening_replace attempts]
  split
  · rename_i own
    subst own
    rw [same]
    exact ⟨fun opening => ⟨old, present, opening⟩, by
      rintro ⟨call, known, opening⟩
      rw [present, Option.some.injEq] at known
      rwa [known]⟩
  · rfl

theorem Tidy.opening_alone {call : Call} (tidy : s.Tidy) (present : s.attempt? id = some call)
    (underway : call.isUnderway = true) {other : Nat} (opening : s.Opening other) : other = id := by
  obtain ⟨call', present', opening⟩ := opening
  exact tidy.underway_alone present' (Call.isUnderway_of_isOpening opening) present underway

end Opening

/-- What is known of the publications while a run goes on. -/
structure Told (s : Session) (past : List Moment) : Prop where
  published : s.published = (publications past).map (·.status)
  order : InOrder (publications past)
  opening : ∀ id, s.Opening id ↔ (publications past).getLast? = some ⟨.connect id, .connecting⟩
  active : s.active.isSome = true → ∃ id, (publications past).getLast? = some ⟨.connect id, .connected⟩
  declared : ∀ m ∈ past, ∀ id status, ⟨.connect id, status⟩ ∈ m.publications → m.Declares id status

theorem fresh_told (config : Config) (bus : Link.Bus) : (fresh config bus).Told [] := by
  constructor
  · rfl
  · intro front p back split
    simp [publications] at split
  · simp [Opening, fresh, attempt?, call?, publications]
  · simp [fresh]
  · simp

theorem publications_append (past : List Moment) (m : Moment) :
    publications (past ++ [m]) = publications past ++ m.publications := by
  simp [publications]

section Step

variable {s s' : Session} {action : Action} {past : List Moment}

theorem publications_of_same (published : s'.published = s.published) :
    Moment.publications ⟨s, action, s'⟩ = [] := by
  simp only [Moment.publications, published, List.drop_length, List.map_nil]
  cases Moment.author? ⟨s, action, s'⟩ <;> rfl

theorem publications_of_author {author : Author} {status : Status} (by_whom : Moment.author? ⟨s, action, s'⟩ = some author)
    (published : s'.published = s.published ++ [status]) : Moment.publications ⟨s, action, s'⟩ = [⟨author, status⟩] := by
  simp [Moment.publications, by_whom, published]

theorem Told.quiet (told : s.Told past) (published : s'.published = s.published)
    (opening : ∀ id, s'.Opening id ↔ s.Opening id) (active : s'.active.isSome = true → s.active.isSome = true) :
    s'.Told (past ++ [⟨s, action, s'⟩]) := by
  have same : publications (past ++ [⟨s, action, s'⟩]) = publications past := by
    rw [publications_append, publications_of_same published, List.append_nil]
  constructor
  · rw [same, published, told.published]
  · rw [same]
    exact told.order
  · intro id
    rw [same, opening, told.opening]
  · intro used
    rw [same]
    exact told.active (active used)
  · intro m member id status announced
    rcases List.mem_append.mp member with old | new
    · exact told.declared m old id status announced
    · obtain rfl := List.mem_singleton.mp new
      simp [publications_of_same published] at announced

theorem Told.publishes (told : s.Told past) {author : Author} {status : Status}
    (by_whom : Moment.author? ⟨s, action, s'⟩ = some author) (published : s'.published = s.published ++ [status])
    (follows : Follows (publications past).getLast? ⟨author, status⟩)
    (opening : ∀ id, s'.Opening id ↔ author = .connect id ∧ status = .connecting)
    (active : s'.active.isSome = true → ∃ id, author = .connect id ∧ status = .connected)
    (declares : ∀ id, author = .connect id → Moment.Declares ⟨s, action, s'⟩ id status) :
    s'.Told (past ++ [⟨s, action, s'⟩]) := by
  have more : publications (past ++ [⟨s, action, s'⟩]) = publications past ++ [⟨author, status⟩] := by
    rw [publications_append, publications_of_author by_whom published]
  constructor
  · rw [more, published, told.published, List.map_append]
    rfl
  · rw [more]
    exact told.order.concat follows
  · intro id
    rw [more, opening]
    simp
  · intro used
    obtain ⟨id, rfl, rfl⟩ := active used
    exact ⟨id, by simp [more]⟩
  · intro m member id status' announced
    rcases List.mem_append.mp member with old | new
    · exact told.declared m old id status' announced
    · obtain rfl := List.mem_singleton.mp new
      rw [publications_of_author by_whom published, List.mem_singleton] at announced
      cases announced
      exact declares id rfl

theorem Told.settled (told : s.Told past) (nobody : ∀ id, ¬ s.Opening id) (p : Publication)
    (last : (publications past).getLast? = some p) : p.status ≠ .connecting := by
  obtain ⟨front, split⟩ := List.getLast?_eq_some_iff.mp last
  intro connecting
  have follows := told.order front p [] split
  generalize front.getLast? = before at follows
  cases follows with
  | begins => exact nobody _ ((told.opening _).mpr last)
  | _ => cases connecting

theorem author?_of_connect {id transport : Nat} {stage : Connecting}
    (present : s.call? id = some (.connect transport stage)) :
    Moment.author? ⟨s, .resume id, s'⟩ = some (.connect id) := by
  simp [Moment.author?, present]

theorem author?_of_disconnect {id : Nat} {stage : Disconnecting} (present : s.call? id = some (.disconnect stage)) :
    Moment.author? ⟨s, .resume id, s'⟩ = some (.disconnect id) := by
  simp [Moment.author?, present]

theorem Told.step (told : s.Told past) (sound : s.Sound) (stepped : s.step action = some s') :
    s'.Told (past ++ [⟨s, action, s'⟩]) := by
  have tidy := sound.tidy
  have mailed {mail : Mail} {chosen : Nat → Bool} {s' : Session} (calls : s'.calls = s.calls.handMail mail chosen)
      (id : Nat) : s'.Opening id ↔ s.Opening id := opening_congr (attempt?_handMail calls) id
  have goesOn {s' : Session} {id : Nat} {old new : Call} (present : s.call? id = some old)
      (connects : old.isLifecycle = true) (calls : s'.calls = s.calls.replace id new)
      (same : new.isOpening = old.isOpening) (other : Nat) : s'.Opening other ↔ s.Opening other :=
    opening_goesOn (attempt?_of_call? present connects) (attempt?_replace present calls) same other
  -- whoever is underway keeps all others from being opened
  have alone {id other : Nat} {call : Call} (present : s.call? id = some call) (underway : call.isUnderway = true)
      (opening : s.Opening other) : other = id :=
    tidy.opening_alone (attempt?_of_call? present (Call.isLifecycle_of_isUnderway underway)) underway opening
  have nobody {id : Nat} {call : Call} (present : s.call? id = some call) (underway : call.isUnderway = true)
      (idle : call.isOpening = false) (other : Nat) : ¬ s.Opening other := by
    intro opening
    obtain rfl := alone present underway opening
    obtain ⟨call', present', opening⟩ := opening
    rw [call?_of_attempt? present', Option.some.injEq] at present
    simp [← present, opening] at idle
  have closed {id : Nat} {call : Call} (present : s.call? id = some call) (underway : call.isUnderway = true) :
      s.active.isSome = false := by
    have connects := Call.isLifecycle_of_isUnderway underway
    simp [sound.linked.underway_idle id call (attempt?_of_call? present connects) underway]
  cases step_move tidy stepped with
  | refusesSend => exact told.quiet rfl (opening_add tidy rfl rfl) id
  | refusesRequest => exact told.quiet rfl (opening_add tidy rfl rfl) id
  | sends => exact told.quiet rfl (opening_add tidy rfl rfl) id
  | requests => exact told.quiet rfl (opening_add tidy rfl rfl) id
  | connects => exact told.quiet rfl (opening_add tidy rfl rfl) id
  | disconnects => exact told.quiet rfl (opening_add tidy rfl rfl) id
  | advances present advance => exact told.quiet rfl (opening_congr (attempt?_update present advance.sends rfl)) id
  | takes present turn stage =>
    rcases stage with ⟨transport, rfl, rfl⟩ | ⟨rfl, rfl⟩
    · exact told.quiet rfl (goesOn present rfl rfl rfl) (by rintro ⟨⟩)
    · exact told.quiet rfl (goesOn present rfl rfl rfl) (by rintro ⟨⟩)
  | @reopens id transport previous present =>
    refine told.publishes (author?_of_connect present) rfl (.begins (told.settled (nobody present rfl rfl))) ?_ ?_ ?_
    · intro other
      rw [opening_replace (attempt?_handMail_replace present rfl)]
      by_cases own : other = id
      · simp [own, Call.isOpening]
      · simpa [own, Ne.symm own] using nobody present rfl rfl other
    · intro used
      exact absurd used (by simp [closed present rfl])
    · exact fun _ _ => .inl rfl
  | @disconnected id previous present =>
    refine told.publishes (author?_of_disconnect present) rfl (.disconnects (told.settled (nobody present rfl rfl)))
      ?_ ?_ ?_
    · intro other
      rw [opening_replace (attempt?_handMail_replace present rfl)]
      by_cases own : other = id
      · simp [own, Call.isOpening]
      · simpa [own] using nobody present rfl rfl other
    · intro used
      exact absurd used (by simp [closed present rfl])
    · simp
  | opens present => exact told.quiet rfl (goesOn present rfl rfl rfl) id
  | opensNot present => exact told.quiet rfl (goesOn present rfl rfl rfl) id
  | attachesNot present => exact told.quiet rfl (goesOn present rfl rfl rfl) id
  | @installs id transport device t t' bus present found attached =>
    have last := (told.opening id).mp ⟨_, attempt?_of_call? present rfl, rfl⟩
    refine told.publishes (author?_of_connect present) rfl (last ▸ .succeeds) ?_ ?_ ?_
    · intro other
      rw [opening_replace (attempt?_replace present rfl)]
      by_cases own : other = id
      · simp [own, Call.isOpening]
      · simpa [own] using fun opening => own (alone present rfl opening)
    · exact fun _ => ⟨id, rfl, rfl⟩
    · rintro _ ⟨⟩
      exact .inr (.inl ⟨rfl, call?_of_replace present rfl⟩)
  | @discards id transport cause present =>
    have last := (told.opening id).mp ⟨_, attempt?_of_call? present rfl, rfl⟩
    refine told.publishes (author?_of_connect present) rfl (last ▸ .fails cause) ?_ ?_ ?_
    · intro other
      rw [opening_replace (attempt?_replace present rfl)]
      by_cases own : other = id
      · simp [own, Call.isOpening]
      · simpa [own] using fun opening => own (alone present rfl opening)
    · intro used
      exact absurd used (by simp [closed present rfl])
    · rintro _ ⟨⟩
      exact .inr (.inr ⟨cause, rfl, call?_of_replace present rfl⟩)
  | reads => exact told.quiet rfl (opening_congr rfl) id
  | delivers => exact told.quiet rfl (mailed rfl) id
  | publishes => exact told.quiet rfl (opening_congr rfl) id
  | @loses generation receiver t reader known stage found taps ended current =>
    have used := Option.isSome_of_any current
    obtain ⟨id, last⟩ := told.active used
    refine told.publishes rfl rfl (last ▸ .loses) ?_ ?_ ?_
    · intro other
      rw [mailed rfl, told.opening, last]
      simp [Status.linkLost]
    · rintro ⟨⟩
    · simp
  | noticesLate => exact told.quiet rfl (opening_congr rfl) id
  | releases => exact told.quiet rfl (opening_congr rfl) id
  | ticks => exact told.quiet rfl (opening_congr rfl) id
  | happens => exact told.quiet rfl (opening_congr rfl) id
  | withholds => exact told.quiet rfl (opening_congr rfl) id

end Step

/-- What the publications of a run show of the calls that connect and disconnect and of the links. -/
structure Orderly (s : Session) (past : List Moment) : Prop where
  published : s.published = (publications past).map (·.status)
  connected : ∀ front p back, publications past = front ++ p :: back → p.status = .connected →
    ∃ id, p.author = .connect id ∧ front.getLast? = some ⟨.connect id, .connecting⟩
  connecting : ∀ front p q back, publications past = front ++ p :: q :: back → p.status = .connecting →
    ∃ id, p.author = .connect id ∧ q.author = .connect id ∧
      (q.status = .connected ∨ ∃ cause : Transport.Error, q.status = .failed cause.message)
  pending : ∀ front p, publications past = front ++ [p] → p.status = .connecting →
    ∃ id, p.author = .connect id ∧ s.Opening id
  declared : ∀ m ∈ past, ∀ id status, ⟨.connect id, status⟩ ∈ m.publications → m.Declares id status
  lost : ∀ front generation status back, publications past = front ++ ⟨.link generation, status⟩ :: back →
    status = .linkLost ∧ ∃ id, front.getLast? = some ⟨.connect id, .connected⟩
  disconnected : ∀ p ∈ publications past, p.status = .disconnected ↔ ∃ id, p.author = .disconnect id
  alone : ∀ id id', s.Opening id → s.Opening id' → id = id'

theorem Told.orderly {s : Session} {past : List Moment} (told : s.Told past) (tidy : s.Tidy) : s.Orderly past := by
  constructor
  · exact told.published
  · intro front p back split connected
    have follows := told.order front p back split
    generalize front.getLast? = before at follows ⊢
    cases follows with
    | succeeds => exact ⟨_, rfl, rfl⟩
    | _ => cases connected
  · intro front p q back split connecting
    have follows := told.order (front ++ [p]) q back (by simp [split])
    rw [List.getLast?_concat] at follows
    cases follows with
    | begins settled => exact absurd connecting (settled p rfl)
    | succeeds => exact ⟨_, rfl, rfl, .inl rfl⟩
    | fails cause => exact ⟨_, rfl, rfl, .inr ⟨cause, rfl⟩⟩
    | loses => cases connecting
    | disconnects settled => exact absurd connecting (settled p rfl)
  · intro front p split connecting
    have follows := told.order front p [] split
    have last : (publications past).getLast? = some p := by rw [split, List.getLast?_concat]
    generalize front.getLast? = before at follows
    cases follows with
    | begins => exact ⟨_, rfl, (told.opening _).mpr last⟩
    | _ => cases connecting
  · exact told.declared
  · intro front generation status back split
    have follows := told.order front _ back split
    generalize front.getLast? = before at follows ⊢
    cases follows
    exact ⟨rfl, _, rfl⟩
  · intro p member
    obtain ⟨front, back, split⟩ := List.append_of_mem member
    have follows := told.order front p back split
    generalize front.getLast? = before at follows
    cases follows <;> simp [Status.linkLost]
  · rintro id id' ⟨call, present, opening⟩ opening'
    exact (tidy.opening_alone present (Call.isUnderway_of_isOpening opening) opening').symm

/-- Whatever calls and links do at once, the statuses come in the order of one attempt after the other. -/
theorem published_in_order {config : Config} {bus : Link.Bus} {actions : List Action} {s : Session}
    (run : (fresh config bus).run actions = some s) : s.Orderly ((fresh config bus).moments actions) := by
  have known : s.Sound ∧ s.Told ((fresh config bus).moments actions) := by
    refine run_induction (P := fun s past => s.Sound ∧ s.Told past)
      ⟨fresh_sound config bus, fresh_told config bus⟩ ?_ run
    rintro before action after past ⟨sound, told⟩ stepped
    exact ⟨sound.step stepped, told.step sound stepped⟩
  exact known.2.orderly known.1.tidy

theorem published_in_order_overlapping : ∃ bus actions s, (fresh {} bus).run actions = some s ∧
    s.published = [.connecting, .connected, .linkLost, .connecting, .failed "No suitable Chameleon device found",
      .disconnected] ∧ s.Orderly ((fresh {} bus).moments actions) := by
  let bus : Link.Bus := { devices := [.ofInfo ⟨"adapter", .usb, none⟩ .silent []] }
  let actions : List Action :=
    [.begin (.connect .usb none), .begin (.connect .radio none), .begin .disconnect, .resume 0, .resume 0, .work 0,
      .happen (.close 0), .resume 0, .read 0 0, .read 0 0, .receive 1, .resume 1, .resume 1, .work 1, .resume 1,
      .resume 1, .resume 2, .receive 1, .resume 2]
  have ends : ((fresh {} bus).run actions).any (·.published = [.connecting, .connected, .linkLost, .connecting,
      .failed "No suitable Chameleon device found", .disconnected]) = true := by decide +kernel
  obtain ⟨s, run, ends⟩ := (Option.any_eq_true _ _).mp ends
  exact ⟨bus, actions, s, run, of_decide_eq_true ends, published_in_order run⟩

end TagConsole.Session
