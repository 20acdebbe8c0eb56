import Mathlib.Data.List.Range
import TagConsole.Proofs.Transport.Changes
import TagConsole.Proofs.Transport.Opening

/-!
What whoever uses a transport can rely on, however often it is opened and released and however late the readers
of earlier links notice that they are not needed any more.
-/

namespace TagConsole.Transport

open Link (Bus)
open Wire (Frame)

/-- A transport with the bus under it. A connect first has the link opened and then takes it in use. -/
structure Use where
  transport : Transport
  bus : Bus
  opened : Option (Except Error Nat) := none

namespace Use

inductive Event where
  | connect
  | attach
  | disconnect
  | take
  | send (frame : Frame)
  | read (reader : Nat)
  | receive (reader : Nat)
  | abandon (reader : Nat)
  | happen (event : Link.Event)

/-- Operations come one after another. Turns of readers and what happens on the far side come at any time. -/
def step (config : Config) (use : Use) : Event → Option Use
  | .connect =>
    if use.opened.isSome then none
    else if use.transport.isConnected then some use
    else
      let (result, bus) := use.transport.openLink config use.bus
      some { use with bus, opened := some result }
  | .attach =>
    match use.opened with
    | none => none
    | some (.error _) => some { use with opened := none }
    | some (.ok device) =>
      let (_, transport, bus) := use.transport.attach config use.bus device
      some { transport, bus, opened := none }
  | .disconnect => if use.opened.isSome then none else some { use with transport := use.transport.detach }
  | .take => if use.opened.isSome then none else some { use with transport := use.transport.takeReceiver.2 }
  | .send frame =>
    if use.opened.isSome then none else some { use with bus := (use.transport.send use.bus frame).2 }
  | .read reader => (use.transport.stepReader use.bus reader).map fun (transport, bus) => { use with transport, bus }
  | .receive reader =>
    (use.transport.readers[reader]?.bind (·.receive)).map fun (_, rest) =>
      { use with transport := { use.transport with readers := use.transport.readers.set reader rest } }
  | .abandon reader =>
    some { use with
      transport := { use.transport with readers := use.transport.readers.modify reader (·.abandon) } }
  | .happen event => some { use with bus := use.bus.apply event }

def fresh (kind : Kind) (target : Option String) (bus : Bus) : Use := { transport := { kind, target }, bus := bus }

def run (config : Config) (use : Use) (events : List Event) : Option Use := events.foldlM (step config) use

structure Moment where
  before : Use
  event : Event
  after : Use

def moments (config : Config) (use : Use) : List Event → List Moment
  | [] => []
  | event :: later =>
    match use.step config event with
    | none => []
    | some use' => ⟨use, event, use'⟩ :: use'.moments config later

def Moment.returned? (config : Config) (m : Moment) : Option (Except Error Unit) :=
  match m.event, m.before.opened with
  | .connect, _ => if m.before.transport.isConnected then some (.ok ()) else none
  | .attach, some (.error e) => some (.error e)
  | .attach, some (.ok device) => some (m.before.transport.attach config m.before.bus device).1
  | _, _ => none

def Moment.opened? (config : Config) (m : Moment) : Option Nat :=
  match m.event, m.returned? config with
  | .attach, some (.ok ()) => some m.before.transport.readers.length
  | _, _ => none

def Moment.taken? (m : Moment) : Option Nat :=
  match m.event with
  | .take => m.before.transport.takeReceiver.1
  | _ => none

def Moment.detaches (m : Moment) : Bool :=
  match m.event, m.before.opened with
  | .disconnect, _ => true
  | .attach, some (.ok _) => true
  | _, _ => false

def Moment.kills (link : Nat) (m : Moment) : Bool :=
  match m.event with
  | .read reader => reader = link && m.before.transport.readers[link]?.any (·.isAlive) &&
      !m.after.transport.readers[link]?.any (·.isAlive)
  | _ => false

def openings (config : Config) (past : List Moment) : List Nat := past.filterMap (·.opened? config)

def takings (past : List Moment) : List Nat := past.filterMap (·.taken?)

/-- A connect has opened the link, and since then it was neither released nor marked as dead by its reader. -/
def IsUp (config : Config) (past : List Moment) (link : Nat) : Prop :=
  ∃ earlier m later, past = earlier ++ m :: later ∧ m.opened? config = some link ∧
    ∀ m' ∈ later, m'.detaches = false ∧ m'.kills link = false

section Append

variable {config : Config} {past : List Moment} {m : Moment}

theorem isUp_append {link : Nat} : IsUp config (past ++ [m]) link ↔
    m.opened? config = some link ∨ (IsUp config past link ∧ m.detaches = false ∧ m.kills link = false) := by
  constructor
  · rintro ⟨earlier, opening, later, whole, opens, quiet⟩
    rcases List.eq_nil_or_concat later with rfl | ⟨later, last, rfl⟩
    · obtain ⟨-, same⟩ := List.append_inj' whole rfl
      obtain rfl := List.head_eq_of_cons_eq same
      exact .inl opens
    · rw [List.concat_eq_append, ← List.cons_append, ← List.append_assoc] at whole
      obtain ⟨same, ends⟩ := List.append_inj' whole rfl
      obtain rfl := List.head_eq_of_cons_eq ends
      refine .inr ⟨⟨earlier, opening, later, same, opens, fun m' member => ?_⟩, ?_⟩
      · exact quiet m' (by simp [member])
      · exact quiet m (by simp)
  · rintro (opens | ⟨⟨earlier, opening, later, rfl, opens, quiet⟩, kept, alive⟩)
    · exact ⟨past, m, [], rfl, opens, by simp⟩
    · refine ⟨earlier, opening, later ++ [m], by simp, opens, fun m' member => ?_⟩
      rcases List.mem_append.mp member with member | member
      · exact quiet m' member
      · exact List.mem_singleton.mp member ▸ ⟨kept, alive⟩

@[simp] theorem openings_append : openings config (past ++ [m]) = openings config past ++ (m.opened? config).toList := by
  cases opens : m.opened? config <;> simp [openings, opens]

@[simp] theorem takings_append : takings (past ++ [m]) = takings past ++ m.taken?.toList := by
  cases takes : m.taken? <;> simp [takings, takes]

end Append

theorem run_induction {config : Config} {P : Use → List Moment → Prop} {use use' : Use} {events : List Event}
    (start : P use [])
    (next : ∀ before event after past, P before past → before.step config event = some after →
      P after (past ++ [⟨before, event, after⟩]))
    (run : use.run config events = some use') : P use' (use.moments config events) := by
  have general : ∀ (events : List Event) (use : Use) (past : List Moment), P use past →
      use.run config events = some use' → P use' (past ++ use.moments config events) := by
    intro events
    induction events with
    | nil =>
      rintro use past holds ⟨⟩
      rwa [moments, List.append_nil]
    | cons event later ih =>
      intro use past holds run
      obtain ⟨after, stepped, run⟩ := Option.bind_eq_some_iff.mp run
      simp only [moments, stepped]
      rw [List.append_cons]
      exact ih after _ (next use event after past holds stepped) run
  simpa using general events use [] start run

end Use

section Operations

variable {t t' : Transport} {config : Config} {bus bus' : Bus}

theorem connect_of_connected (connected : t.isConnected = true) : t.connect config bus = (.ok (), t, bus) := by
  rw [connect, if_pos connected]

theorem send_of_unconnected (closed : t.isConnected = false) (frame : Frame) :
    t.send bus frame = (.error .notConnected, bus) := by
  rw [send, if_neg (by simp [closed])]

theorem attach_connected {device : Nat} (attached : t.attach config bus device = (.ok (), t', bus')) :
    t'.isConnected = true ∧ t'.hasReceiver = true ∧ t'.readers.length = t.readers.length + 1 := by
  obtain ⟨rfl, -⟩ := attach_ok attached
  exact ⟨by simp [isConnected, Reader.start], rfl, by simp [detach_length]⟩

theorem detach_eq_self (released : t.updateLast (·.release) = t) (idle : t.hasReceiver = false)
    (unopened : t.writer = none) : t.detach = t := by
  obtain ⟨kind, target, writer, readers, hasReceiver⟩ := t
  simp only at idle unopened
  subst idle unopened
  simp only [detach, released, Bool.false_eq_true, if_false]

theorem detach_detach : t.detach.detach = t.detach := by
  have same : t.detach.readers.modify (t.detach.readers.length - 1) (·.release) = t.detach.readers := by
    apply modify_eq_self
    intro reader found
    obtain ⟨before, was, now⟩ := detach_grown found
    have lt := (List.getElem?_eq_some_iff.mp was).1
    rw [detach_length] at now
    rw [if_pos (by omega)] at now
    rcases now with rfl | rfl <;> rfl
  exact detach_eq_self (by rw [updateLast, same]) rfl rfl

structure Unmoved (t t' : Transport) : Prop where
  current : t'.readers.getLast? = t.readers.getLast?
  isConnected : t'.isConnected = t.isConnected
  receiver : t'.takeReceiver.1 = t.takeReceiver.1
  send : ∀ bus frame, t'.send bus frame = t.send bus frame
  connect : ∀ config bus, (t'.connect config bus).1 = (t.connect config bus).1 ∧
    (t'.connect config bus).2.2 = (t.connect config bus).2.2

theorem attach_bus (config : Config) (bus : Bus) (device : Nat) :
    (t'.attach config bus device).2.2 = (t.attach config bus device).2.2 := by
  unfold attach
  split
  · rfl
  · dsimp only
    split <;> rfl

theorem unmoved_of_earlier {i : Nat} (earlier : i + 1 < t.readers.length) (reader : Reader) :
    t.Unmoved { t with readers := t.readers.set i reader } := by
  have current : (t.readers.set i reader).getLast? = t.readers.getLast? := by
    rw [List.getLast?_eq_getElem?, List.getLast?_eq_getElem?, List.length_set, List.getElem?_set_ne (by omega)]
  have connected : Transport.isConnected { t with readers := t.readers.set i reader } = t.isConnected := by
    simp only [Transport.isConnected, current]
  constructor
  case current => exact current
  case isConnected => exact connected
  case receiver =>
    unfold takeReceiver
    split
    · simp
    · rfl
  case send =>
    intro bus frame
    simp only [Transport.send, connected]
    rfl
  case connect =>
    intro config bus
    have opens : openLink { t with readers := t.readers.set i reader } config = t.openLink config :=
      openLink_congr t config rfl rfl
    simp only [Transport.connect, connected, opens]
    split
    · exact ⟨rfl, rfl⟩
    · split
      · exact ⟨rfl, rfl⟩
      · exact ⟨by rw [attach_result, attach_result], attach_bus config _ _⟩

end Operations

namespace Use

inductive Effect (config : Config) (m : Moment) : Prop where
  | keeps (length : m.after.transport.readers.length = m.before.transport.readers.length)
      (receiver : m.after.transport.hasReceiver = m.before.transport.hasReceiver)
      (opened : m.opened? config = none) (taken : m.taken? = none) (kept : m.detaches = false)
      (connected : m.after.transport.isConnected =
        (m.before.transport.isConnected && !m.kills (m.before.transport.readers.length - 1)))
      (idle : m.after.opened.isSome = true → m.before.opened.isSome = true ∨ m.before.transport.isConnected = false)
  | hands (length : m.after.transport.readers.length = m.before.transport.readers.length)
      (had : m.before.transport.hasReceiver = true) (receiver : m.after.transport.hasReceiver = false)
      (opened : m.opened? config = none) (taken : m.taken? = some (m.before.transport.readers.length - 1))
      (kept : m.detaches = false) (alive : ∀ link, m.kills link = false)
      (connected : m.after.transport.isConnected = m.before.transport.isConnected) (idle : m.after.opened = none)
  | releases (length : m.after.transport.readers.length = m.before.transport.readers.length)
      (receiver : m.after.transport.hasReceiver = false) (opened : m.opened? config = none) (taken : m.taken? = none)
      (gone : m.detaches = true) (closed : m.after.transport.isConnected = false) (idle : m.after.opened = none)
  | opens (length : m.after.transport.readers.length = m.before.transport.readers.length + 1)
      (receiver : m.after.transport.hasReceiver = true)
      (opened : m.opened? config = some m.before.transport.readers.length) (taken : m.taken? = none)
      (gone : m.detaches = true) (connected : m.after.transport.isConnected = true) (idle : m.after.opened = none)

section Effect

variable {config : Config} {use use' : Use}

theorem effect_of_attach (stepped : use.step config .attach = some use') : Effect config ⟨use, .attach, use'⟩ := by
  simp only [step] at stepped
  split at stepped
  · cases stepped
  · rename_i e failed
    cases stepped
    exact .keeps rfl rfl (by simp [Moment.opened?, Moment.returned?, failed]) rfl (by simp [Moment.detaches, failed])
      (by simp [Moment.kills]) (by simp)
  · rename_i device opened
    cases attached : use.transport.attach config use.bus device with
    | mk result rest =>
      obtain ⟨t', bus'⟩ := rest
      rw [attached] at stepped
      cases stepped
      have gone : Moment.detaches ⟨use, .attach, ⟨t', bus', none⟩⟩ = true := by simp [Moment.detaches, opened]
      cases result with
      | error e =>
        obtain rfl := attach_error attached
        exact .releases detach_length rfl (by simp [Moment.opened?, Moment.returned?, opened, attached]) rfl gone
          (detach_isConnected _) rfl
      | ok done =>
        obtain ⟨connected, receiver, length⟩ := attach_connected attached
        exact .opens length receiver (by simp [Moment.opened?, Moment.returned?, opened, attached]) rfl gone connected rfl

theorem effect_of_read {reader : Nat} (stepped : use.step config (.read reader) = some use') :
    Effect config ⟨use, .read reader, use'⟩ := by
  obtain ⟨⟨t', bus'⟩, turned, rfl⟩ := Option.map_eq_some_iff.mp stepped
  obtain ⟨before, after, device, link', taps, knows, steps, rfl, rfl⟩ := stepReader_some turned
  have turn := Reader.step_turn steps
  refine .keeps (by simp) rfl rfl rfl rfl ?_ .inl
  have lt := (List.getElem?_eq_some_iff.mp taps).1
  simp only [Transport.isConnected, Moment.kills, List.getLast?_eq_getElem?, List.length_set, List.getElem?_set]
  -- the transport is connected by its last reader, so the turns of others do not count
  by_cases last : reader = use.transport.readers.length - 1
  · subst last
    simp only [taps, Option.any_some, if_pos lt, decide_true, Bool.true_and]
    cases lives : before.isAlive <;> cases lives' : after.isAlive <;> simp_all
    exact absurd (turn.isAlive lives') (by simp [lives])
  · simp [last]

theorem effect_of_same {event : Event} {readers : List Reader} {bus : Bus}
    (after : use' = { use with transport := { use.transport with readers := readers }, bus := bus })
    (length : readers.length = use.transport.readers.length)
    (alive : ∀ i : Nat, readers[i]?.map (·.isAlive) = use.transport.readers[i]?.map (·.isAlive))
    (opened : Moment.opened? config ⟨use, event, use'⟩ = none) (taken : Moment.taken? ⟨use, event, use'⟩ = none)
    (kept : Moment.detaches ⟨use, event, use'⟩ = false) (lives : ∀ i, Moment.kills i ⟨use, event, use'⟩ = false) :
    Effect config ⟨use, event, use'⟩ := by
  subst after
  refine .keeps length rfl opened taken kept ?_ .inl
  have last := congrArg (·.any id) (alive (use.transport.readers.length - 1))
  simp only [Option.any_map] at last
  simp only [lives, Bool.not_false, Bool.and_true, Transport.isConnected, List.getLast?_eq_getElem?, length]
  exact congrArg (· && use.transport.writer.isSome) last

theorem effect_of_step {event : Event} (stepped : use.step config event = some use') :
    Effect config ⟨use, event, use'⟩ := by
  cases event with
  | attach => exact effect_of_attach stepped
  | read reader => exact effect_of_read stepped
  | connect =>
    simp only [step] at stepped
    split at stepped
    · cases stepped
    · split at stepped
      · cases stepped
        exact effect_of_same rfl rfl (fun _ => rfl) rfl rfl rfl fun _ => rfl
      · rename_i closed
        cases stepped
        exact .keeps rfl rfl rfl rfl rfl (by simp [Moment.kills]) fun _ => .inr (Bool.eq_false_iff.mpr closed)
  | disconnect =>
    simp only [step] at stepped
    split at stepped
    · cases stepped
    · rename_i idle
      cases stepped
      exact .releases detach_length rfl rfl rfl rfl (detach_isConnected _) (by simpa using idle)
  | take =>
    simp only [step] at stepped
    split at stepped
    · cases stepped
    · rename_i idle
      cases stepped
      by_cases had : use.transport.hasReceiver = true
      · have taking : use.transport.takeReceiver =
            (some (use.transport.readers.length - 1), { use.transport with hasReceiver := false }) := by
          rw [takeReceiver, if_pos had]
        exact .hands (by simp [taking]) had (by simp [taking]) rfl (by simp [Moment.taken?, taking]) rfl (fun _ => rfl)
          (by simp [taking, Transport.isConnected]) (by simpa using idle)
      · have taking : use.transport.takeReceiver = (none, use.transport) := by rw [takeReceiver, if_neg had]
        rw [taking]
        exact effect_of_same rfl rfl (fun _ => rfl) rfl (by simp [Moment.taken?, taking]) rfl fun _ => rfl
  | send frame =>
    simp only [step] at stepped
    split at stepped
    · cases stepped
    · cases stepped
      exact effect_of_same rfl rfl (fun _ => rfl) rfl rfl rfl fun _ => rfl
  | receive reader =>
    obtain ⟨⟨chunk, rest⟩, received, rfl⟩ := Option.map_eq_some_iff.mp stepped
    obtain ⟨before, taps, takes⟩ := Option.bind_eq_some_iff.mp received
    obtain ⟨-, same⟩ := Reader.receive_eq takes
    refine effect_of_same rfl (by simp) (fun i => ?_) rfl rfl rfl fun _ => rfl
    rw [List.getElem?_set]
    split
    · rename_i here
      have lt := (List.getElem?_eq_some_iff.mp taps).1
      subst here
      rw [if_pos lt, taps, same]
      rfl
    · rfl
  | abandon reader =>
    cases stepped
    refine effect_of_same rfl (by simp) (fun i => ?_) rfl rfl rfl fun _ => rfl
    rw [List.getElem?_modify]
    cases use.transport.readers[i]? with
    | none => rfl
    | some before =>
      simp only [Option.map_eq_map, Option.map_some]
      split <;> rfl
  | happen event =>
    cases stepped
    exact effect_of_same rfl rfl (fun _ => rfl) rfl rfl rfl fun _ => rfl

theorem closed_of_failed {m : Moment} {e : Error} (stepped : m.before.step config m.event = some m.after)
    (idle : m.before.opened.isSome = true → m.before.transport.isConnected = false)
    (failed : m.returned? config = some (.error e)) : m.after.transport.isConnected = false := by
  obtain ⟨before, event, after⟩ := m
  simp only [Moment.returned?] at failed
  split at failed
  · split at failed <;> cases failed
  · rename_i cause opened
    simp only [step, opened] at stepped
    cases stepped
    exact idle (by simp [opened])
  · rename_i device opened
    cases attached : before.transport.attach config before.bus device with
    | mk result rest =>
      simp only [attached, Option.some.injEq] at failed
      subst failed
      simp only [step, opened, attached] at stepped
      cases stepped
      rw [attach_error attached]
      exact detach_isConnected _
  · cases failed

end Effect

structure Known (config : Config) (use : Use) (past : List Moment) : Prop where
  up : ∀ link, IsUp config past link ↔
    link + 1 = use.transport.readers.length ∧ use.transport.isConnected = true
  idle : use.opened.isSome = true → use.transport.isConnected = false
  openings : openings config past = List.range use.transport.readers.length
  takings : (takings past).Sublist (List.range use.transport.readers.length)
  untaken : use.transport.hasReceiver = true → 0 < use.transport.readers.length ∧
    (Use.takings past).Sublist (List.range (use.transport.readers.length - 1))
  failed : ∀ m ∈ past, ∀ e, m.returned? config = some (.error e) → m.after.transport.isConnected = false

/-- What can be relied on at the end of a run. -/
structure Contract (config : Config) (use : Use) (past : List Moment) : Prop where
  connected : use.transport.isConnected = true ↔ ∃ link, IsUp config past link
  reconnects : use.transport.isConnected = true → use.opened = none ∧
    use.transport.connect config use.bus = (.ok (), use.transport, use.bus) ∧ use.step config .connect = some use ∧
    Moment.returned? config ⟨use, .connect, use⟩ = some (.ok ())
  connects : use.opened = none → use.transport.isConnected = false → ∃ asked done,
    use.step config .connect = some asked ∧ asked.step config .attach = some done ∧
    Moment.returned? config ⟨asked, .attach, done⟩ = some (use.transport.connect config use.bus).1 ∧
    (use.transport.connect config use.bus).2 = (done.transport, done.bus)
  failed : ∀ m ∈ past, ∀ e, m.returned? config = some (.error e) → m.after.transport.isConnected = false
  /-- Receivers are handed out in the order of the links, and one at most for each. -/
  receivers : (takings past).Sublist (openings config past) ∧ (openings config past).Nodup
  refuses : use.transport.isConnected = false → ∀ frame,
    use.transport.send use.bus frame = (.error .notConnected, use.bus)
  disconnects : use.transport.detach.isConnected = false ∧ use.transport.detach.detach = use.transport.detach
  /-- A turn of the reader of an earlier link is nothing to the current one, and when that reader stops it leaves the
      bus as it is, too. -/
  late : ∀ reader use', reader + 1 < use.transport.readers.length → use.step config (.read reader) = some use' →
    use.transport.Unmoved use'.transport ∧
      (use'.transport.readers[reader]?.any (·.isRunning) = false → use'.bus = use.bus)

section Run

variable {config : Config} {use : Use} {past : List Moment} {m : Moment}

theorem fresh_known (config : Config) (kind : Kind) (target : Option String) (bus : Bus) :
    (fresh kind target bus).Known config [] := by
  constructor <;> simp [fresh, IsUp, Use.openings, Use.takings, Transport.isConnected]

theorem Known.up_keeps (known : m.before.Known config past)
    (length : m.after.transport.readers.length = m.before.transport.readers.length)
    (opened : m.opened? config = none) (kept : m.detaches = false)
    (connected : m.after.transport.isConnected =
      (m.before.transport.isConnected && !m.kills (m.before.transport.readers.length - 1))) (link : Nat) :
    IsUp config (past ++ [m]) link ↔
      link + 1 = m.after.transport.readers.length ∧ m.after.transport.isConnected = true := by
  rw [isUp_append, known.up, length, connected]
  simp only [opened, kept, reduceCtorEq, false_or, true_and, Bool.and_eq_true, Bool.not_eq_true']
  constructor
  · rintro ⟨⟨last, was⟩, alive⟩
    exact ⟨last, was, by rwa [show m.before.transport.readers.length - 1 = link by omega]⟩
  · rintro ⟨last, was, alive⟩
    exact ⟨⟨last, was⟩, by rwa [show m.before.transport.readers.length - 1 = link by omega] at alive⟩

theorem Known.step (known : m.before.Known config past) (stepped : m.before.step config m.event = some m.after) :
    m.after.Known config (past ++ [m]) := by
  have failed : ∀ m' ∈ past ++ [m], ∀ e, m'.returned? config = some (.error e) →
      m'.after.transport.isConnected = false := by
    intro m' member e returned
    rcases List.mem_append.mp member with member | member
    · exact known.failed m' member e returned
    · rw [List.mem_singleton.mp member] at returned ⊢
      exact closed_of_failed stepped known.idle returned
  have effect : Effect config m := effect_of_step stepped
  -- one case for each effect: whether a link is up, and what was opened and taken, changes as it says
  cases effect with
  | keeps length receiver opened taken kept connected idle =>
    refine ⟨known.up_keeps length opened kept connected, fun asked => ?_, ?_, ?_, fun has => ?_, failed⟩
    · have closed : m.before.transport.isConnected = false := (idle asked).elim known.idle id
      rw [connected, closed, Bool.false_and]
    · rw [openings_append, opened, length, known.openings, Option.toList_none, List.append_nil]
    · rw [takings_append, taken, length, Option.toList_none, List.append_nil]
      exact known.takings
    · rw [takings_append, taken, length, Option.toList_none, List.append_nil]
      exact known.untaken (receiver ▸ has)
  | hands length had receiver opened taken kept alive connected idle =>
    refine ⟨known.up_keeps length opened kept (by simp [alive, connected]), by simp [idle], ?_, ?_, by simp [receiver],
      failed⟩
    · rw [openings_append, opened, length, known.openings, Option.toList_none, List.append_nil]
    · obtain ⟨positive, before⟩ := known.untaken had
      rw [takings_append, taken, length, Option.toList_some, ← Nat.sub_add_cancel positive, List.range_succ]
      exact before.append (List.Sublist.refl _)
  | releases length receiver opened taken gone closed idle =>
    refine ⟨fun link => ?_, by simp [idle], ?_, ?_, by simp [receiver], failed⟩
    · rw [isUp_append]
      simp [opened, gone, closed]
    · rw [openings_append, opened, length, known.openings, Option.toList_none, List.append_nil]
    · rw [takings_append, taken, length, Option.toList_none, List.append_nil]
      exact known.takings
  | opens length receiver opened taken gone connected idle =>
    have takings : Use.takings (past ++ [m]) = Use.takings past := by
      rw [takings_append, taken, Option.toList_none, List.append_nil]
    refine ⟨fun link => ?_, by simp [idle], ?_, ?_, fun _ => ⟨by omega, ?_⟩, failed⟩
    · rw [isUp_append]
      simp only [opened, gone, connected, length, Option.some.injEq, Bool.true_eq_false, false_and, and_false, or_false,
        and_true, Nat.add_right_cancel_iff]
      exact eq_comm
    · rw [openings_append, opened, length, known.openings, Option.toList_some, List.range_succ]
    · rw [takings, length, List.range_succ]
      exact known.takings.trans (List.sublist_append_left _ _)
    · rw [takings, length, Nat.add_sub_cancel]
      exact known.takings

theorem updateLink_same {bus : Bus} {index : Nat} {device : Link.Device} (known : bus.devices[index]? = some device) :
    (bus.updateLink index fun _ => device.link) = bus := by
  have same : bus.devices.modify index (fun other => { other with link := device.link }) = bus.devices := by
    apply List.ext_getElem?
    intro i
    rw [List.getElem?_modify]
    split
    · rename_i here
      rw [← here, known]
      rfl
    · simp
  rw [Bus.updateLink, same]

theorem connect_in_parts (idle : use.opened = none) (closed : use.transport.isConnected = false) : ∃ asked done,
    use.step config .connect = some asked ∧ asked.step config .attach = some done ∧
    Moment.returned? config ⟨asked, .attach, done⟩ = some (use.transport.connect config use.bus).1 ∧
    (use.transport.connect config use.bus).2 = (done.transport, done.bus) := by
  cases opened : use.transport.openLink config use.bus with
  | mk result bus =>
    cases result with
    | error e =>
      refine ⟨⟨use.transport, bus, some (.error e)⟩, ⟨use.transport, bus, none⟩, ?_, rfl, ?_, ?_⟩
      · simp [step, idle, closed, opened]
      · simp [Moment.returned?, connect, closed, opened]
      · simp [connect, closed, opened]
    | ok device =>
      let attached := use.transport.attach config bus device
      refine ⟨⟨use.transport, bus, some (.ok device)⟩, ⟨attached.2.1, attached.2.2, none⟩, ?_, rfl, ?_, ?_⟩
      · simp [step, idle, closed, opened]
      · simp [Moment.returned?, connect, closed, opened]
      · simp only [connect, closed, opened]
        rfl

theorem late_turn {use' : Use} {reader : Nat} (earlier : reader + 1 < use.transport.readers.length)
    (stepped : use.step config (.read reader) = some use') : use.transport.Unmoved use'.transport ∧
      (use'.transport.readers[reader]?.any (·.isRunning) = false → use'.bus = use.bus) := by
  obtain ⟨⟨t', bus'⟩, turned, rfl⟩ := Option.map_eq_some_iff.mp stepped
  obtain ⟨before, after, device, link', taps, knows, steps, rfl, rfl⟩ := stepReader_some turned
  refine ⟨unmoved_of_earlier earlier after, fun stopped => ?_⟩
  have lt := (List.getElem?_eq_some_iff.mp taps).1
  rw [List.getElem?_set_self lt, Option.any_some] at stopped
  -- only a read takes anything off a link, and it leaves the reader running
  cases Reader.step_does steps with
  | reads running => exact absurd running (Bool.eq_false_iff.mp stopped)
  | _ => exact updateLink_same knows

theorem Known.contract (known : use.Known config past) : use.Contract config past := by
  constructor
  case connected =>
    constructor
    · intro connected
      refine ⟨use.transport.readers.length - 1, (known.up _).mpr ⟨?_, connected⟩⟩
      have some : use.transport.readers ≠ [] := by
        rintro none
        simp [Transport.isConnected, none] at connected
      have positive := List.length_pos_iff.mpr some
      omega
    · rintro ⟨link, up⟩
      exact ((known.up link).mp up).2
  case reconnects =>
    intro connected
    have idle : use.opened = none := by
      cases asked : use.opened with
      | none => rfl
      | some result => simp [known.idle (by simp [asked])] at connected
    refine ⟨idle, connect_of_connected connected, ?_, ?_⟩
    · simp [Use.step, idle, connected]
    · simp [Moment.returned?, connected]
  case connects => exact fun idle closed => connect_in_parts idle closed
  case failed => exact known.failed
  case receivers =>
    rw [known.openings]
    exact ⟨known.takings, List.nodup_range⟩
  case refuses => exact fun closed frame => send_of_unconnected closed frame
  case disconnects => exact ⟨detach_isConnected _, detach_detach⟩
  case late => exact fun reader use' earlier stepped => late_turn earlier stepped

end Run

end Use

/-- A transport keeps to its contract, whatever was done with it and whenever its readers took their turns. -/
theorem transport_keeps_contract {config : Config} {kind : Kind} {target : Option String} {bus : Bus}
    {events : List Use.Event} {use : Use} (run : (Use.fresh kind target bus).run config events = some use) :
    use.Contract config ((Use.fresh kind target bus).moments config events) :=
  (Use.run_induction (P := fun use past => use.Known config past) (Use.fresh_known config kind target bus)
    (fun before event after _ known stepped => known.step (m := ⟨before, event, after⟩) stepped) run).contract

theorem transport_keeps_contract_late : ∃ bus events use,
    (Use.fresh .usb none bus).run {} events = some use ∧ use.transport.isConnected = true ∧
    use.transport.readers.map (·.isRunning) = [false, true] ∧
    Use.openings {} ((Use.fresh .usb none bus).moments {} events) = [0, 1] ∧
    Use.takings ((Use.fresh .usb none bus).moments {} events) = [0] ∧
    use.Contract {} ((Use.fresh .usb none bus).moments {} events) := by
  let bus : Bus := { devices := [.ofInfo ⟨"adapter", .usb, none⟩ .silent []] }
  let events : List Use.Event :=
    [.connect, .attach, .take, .read 0, .disconnect, .connect, .attach, .happen (.close 0), .read 0]
  have ends : ((Use.fresh .usb none bus).run {} events).any (fun use =>
      use.transport.isConnected = true ∧ use.transport.readers.map (·.isRunning) = [false, true] ∧
      Use.openings {} ((Use.fresh .usb none bus).moments {} events) = [0, 1] ∧
      Use.takings ((Use.fresh .usb none bus).moments {} events) = [0]) = true := by decide +kernel
  obtain ⟨use, run, ends⟩ := (Option.any_eq_true _ _).mp ends
  obtain ⟨connected, running, openings, takings⟩ := of_decide_eq_true ends
  exact ⟨bus, events, use, run, connected, running, openings, takings, transport_keeps_contract run⟩

end TagConsole.Transport
