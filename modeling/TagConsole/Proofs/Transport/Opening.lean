import TagConsole.Proofs.Transport.Attachment

/-!
What opening a link depends on. Of the bus it is only what the bus offers, and that stays as it is however
often links are opened.
-/

namespace TagConsole

namespace Link

structure Record where
  opened : List String
  settings : List Settings
  services : List Uuid

namespace Record

instance : Append Record where
  append first next :=
    ⟨first.opened ++ next.opened, first.settings ++ next.settings, first.services ++ next.services⟩

theorem append_eq (first next : Record) : first ++ next =
    ⟨first.opened ++ next.opened, first.settings ++ next.settings, first.services ++ next.services⟩ := rfl

theorem append_assoc (a b c : Record) : a ++ b ++ c = a ++ (b ++ c) := by
  simp [append_eq]

end Record

namespace Bus

/-- The bus as if nothing had been done with it: what it lists, what can be opened, and what fails. -/
def offer (bus : Bus) : Bus :=
  { bus with
    devices := bus.devices.map fun device => { device with link := { name := device.info.path } }
    opened := []
    settings := []
    services := [] }

def record (bus : Bus) : Record := ⟨bus.opened, bus.settings, bus.services⟩

def written (bus : Bus) : List (List Wire.Frame) := bus.devices.map (·.link.written)

section Parts

variable (bus : Bus)

@[simp] theorem offer_offer : bus.offer.offer = bus.offer := by
  simp [offer]

@[simp] theorem offer_list : bus.offer.list = bus.list := by
  simp [list, entries, offer, List.filter_map, Function.comp_def]

@[simp] theorem offer_peers : bus.offer.peers = bus.peers := by
  simp [peers]

@[simp] theorem offer_fault? (index : Nat) (fault : Fault) : bus.offer.fault? index fault = bus.fault? index fault := by
  simp only [fault?, offer, List.getElem?_map]
  cases bus.devices[index]? with
  | none => rfl
  | some device => simp [Option.filter]

variable (index : Nat) {change : Simulated → Simulated}

@[simp] theorem offer_updateLink : (bus.updateLink index change).offer = bus.offer := by
  simp only [offer, updateLink, Bus.mk.injEq, true_and, and_true]
  apply List.ext_getElem?
  intro i
  simp only [List.getElem?_map, List.getElem?_modify]
  cases bus.devices[i]? with
  | none => rfl
  | some device =>
    simp only [Option.map_eq_map, Option.map_some]
    split <;> rfl

@[simp] theorem fault?_updateLink (device : Nat) (fault : Fault) :
    (bus.updateLink index change).fault? device fault = bus.fault? device fault := by
  rw [← offer_fault?, offer_updateLink, offer_fault?]

theorem written_updateLink (keeps : ∀ link, (change link).written = link.written) :
    (bus.updateLink index change).written = bus.written := by
  apply List.ext_getElem?
  intro i
  simp only [written, updateLink, List.getElem?_map, List.getElem?_modify]
  cases bus.devices[i]? with
  | none => rfl
  | some device =>
    simp only [Option.map_eq_map, Option.map_some]
    split
    · exact congrArg some (keeps device.link)
    · rfl

end Parts

/-- The operation depends on what the bus offers only, adds its requests to the record, and neither changes
    the offer nor writes to a device. -/
structure Asks {α : Type} (operation : Bus → α × Bus) : Prop where
  result : ∀ bus, (operation bus.offer).1 = (operation bus).1
  record : ∀ bus, (operation bus).2.record = bus.record ++ (operation bus.offer).2.record
  offer : ∀ bus, (operation bus).2.offer = bus.offer
  written : ∀ bus, (operation bus).2.written = bus.written

namespace Asks

variable {α β : Type}

theorem look {see : Bus → α} (same : ∀ bus, see bus.offer = see bus) : Asks fun bus => (see bus, bus) :=
  ⟨same, fun bus => by simp [Bus.record, Record.append_eq, Bus.offer], fun _ => rfl, fun _ => rfl⟩

theorem pure (a : α) : Asks fun bus => (a, bus) := look fun _ => rfl

theorem bind {operation : Bus → α × Bus} {next : α → Bus → β × Bus} (first : Asks operation)
    (second : ∀ a, Asks (next a)) : Asks fun bus => next (operation bus).1 (operation bus).2 := by
  constructor
  · intro bus
    have same := (second (operation bus).1).result
    rw [first.result, ← same (operation bus.offer).2, first.offer, offer_offer, ← same (operation bus).2, first.offer]
  · intro bus
    have more := (second (operation bus).1).record
    rw [first.result, more (operation bus).2, more (operation bus.offer).2, first.record bus, first.offer, first.offer,
      offer_offer, Record.append_assoc]
  · intro bus
    rw [(second _).offer, first.offer]
  · intro bus
    rw [(second _).written, first.written]

theorem map {operation : Bus → α × Bus} (f : α → β) (first : Asks operation) :
    Asks fun bus => (f (operation bus).1, (operation bus).2) :=
  first.bind fun a => pure (f a)

theorem congr {operation operation' : Bus → α × Bus} (asks : Asks operation)
    (same : ∀ bus, operation' bus = operation bus) : Asks operation' :=
  funext same ▸ asks

theorem andThen {ε δ : Type} {operation : Bus → Except ε α × Bus} {next : α → Bus → Except δ β × Bus} (f : ε → δ)
    (first : Asks operation) (second : ∀ a, Asks (next a)) : Asks fun bus =>
      match operation bus with
      | (.error e, bus) => (.error (f e), bus)
      | (.ok a, bus) => next a bus := by
  have goesOn (result : Except ε α) : Asks fun bus =>
      match result with
      | .error e => (.error (f e), bus)
      | .ok a => next a bus := by
    cases result with
    | error e => exact pure _
    | ok a => exact second a
  apply (first.bind goesOn).congr
  intro bus
  obtain ⟨result, after⟩ := operation bus
  cases result <;> rfl

end Asks

theorem openPath_asks (path : String) (settings : Settings) : Asks (·.openPath path settings) := by
  have found (bus : Bus) : bus.offer.devices.findIdx? (·.info.path = path) =
      bus.devices.findIdx? (·.info.path = path) := by
    simp [offer, List.findIdx?_map, Function.comp_def]
  have fails (bus : Bus) : bus.offer.failsOpen = bus.failsOpen := rfl
  constructor
  · intro bus
    simp only [openPath, found, fails]
    split
    · rfl
    · split <;> rfl
  · intro bus
    simp only [openPath, found, fails]
    split
    · simp [record, Record.append_eq, offer]
    · split <;> simp [record, Record.append_eq, offer]
  · intro bus
    simp only [openPath]
    split
    · rfl
    · split <;> rfl
  · intro bus
    simp only [openPath]
    split
    · rfl
    · split <;> rfl

theorem openChannel_asks (path : String) (service : Uuid) (settings : Settings) :
    Asks (·.openChannel path service settings) := by
  have requests : Asks fun bus => ((), { bus with services := bus.services ++ [service] }) := by
    constructor
    · exact fun _ => rfl
    · intro bus
      simp [record, Record.append_eq, offer]
    · exact fun _ => rfl
    · exact fun _ => rfl
  exact requests.bind fun _ => openPath_asks path settings

theorem clear_asks (index : Nat) : Asks (·.clear index) := by
  constructor
  · intro bus
    simp only [clear, offer_fault?]
    split <;> rfl
  · intro bus
    simp only [clear, offer_fault?]
    split <;> simp [record, updateLink, Record.append_eq, offer]
  · intro bus
    simp only [clear]
    split <;> simp
  · intro bus
    simp only [clear]
    split
    · rfl
    · exact written_updateLink bus index fun _ => rfl

end Bus

end Link

namespace Transport

open Link (Bus)

variable (t : Transport) (config : Config)

theorem openLink_asks : Bus.Asks (t.openLink config) := by
  cases kind : t.kind with
  | usb =>
    have selects : Bus.Asks fun bus => (bus.list.mapError Error.link >>= (selectAdapter · t.target), bus) :=
      .look (by simp)
    apply (selects.andThen id fun info =>
      (Bus.openPath_asks info.path config.link.settings).andThen Error.link fun device =>
        (Bus.clear_asks device).map fun result => (result.mapError Error.link).map fun _ => device).congr
    intro bus
    simp only [openLink, kind]
    cases bus.list.mapError Error.link >>= (selectAdapter · t.target) with
    | error e => rfl
    | ok info =>
      dsimp only
      generalize bus.openPath info.path config.link.settings = opened
      obtain ⟨result, after⟩ := opened
      cases result <;> rfl
  | radio =>
    have selects : Bus.Asks fun bus =>
        (bus.peers.mapError Error.link >>= (selectPeer · config.radio.nameFilter t.target), bus) := .look (by simp)
    apply (selects.andThen id fun peer =>
      (Bus.openChannel_asks peer.path config.radio.serviceUuid config.link.settings).map (·.mapError Error.link)).congr
    intro bus
    simp only [openLink, kind]
    cases bus.peers.mapError Error.link >>= (selectPeer · config.radio.nameFilter t.target) <;> rfl

theorem openLink_congr {t' : Transport} (kind : t'.kind = t.kind) (target : t'.target = t.target) :
    t'.openLink config = t.openLink config := by
  funext bus
  simp only [openLink, kind, target]

section Attach

variable (bus : Bus) (device : Nat)

theorem attach_result : (t.attach config bus device).1 =
    ((bus.fault? device .clone <|> bus.fault? device .setTimeout <|> bus.fault? device .spawn).elim (.ok ())
      fun e => .error (.link e) : Except Error Unit) := by
  simp only [attach, Bus.fault?_updateLink]
  cases bus.fault? device .clone with
  | some e => rfl
  | none =>
    cases bus.fault? device .setTimeout with
    | some e => rfl
    | none => cases bus.fault? device .spawn <;> rfl

theorem attach_offer (t' : Transport) :
    (t'.attach config bus.offer device).1 = (t.attach config bus device).1 := by
  simp only [attach_result, Bus.offer_fault?]

theorem attach_record : (t.attach config bus device).2.2.record = bus.record := by
  unfold attach
  split
  · rfl
  · dsimp only
    split <;> rfl

theorem attach_written : (t.attach config bus device).2.2.written = bus.written := by
  unfold attach
  split
  · rfl
  · dsimp only
    split <;> exact Bus.written_updateLink bus device fun _ => rfl

theorem attach_keeps : (t.attach config bus device).2.1.kind = t.kind ∧
    (t.attach config bus device).2.1.target = t.target := by
  have detached : t.detach.kind = t.kind ∧ t.detach.target = t.target := by
    unfold detach
    split <;> exact ⟨rfl, rfl⟩
  unfold attach
  split
  · exact detached
  · dsimp only
    split <;> exact detached

theorem attach_openLink {bus' : Bus} (same : bus'.offer = bus.offer) :
    (t.attach config bus' device).1 = (t.attach config bus device).1 := by
  rw [← attach_offer t config bus' device t, same, attach_offer t config bus device t]

end Attach

def takeOn (t : Transport) (config : Config) (taking : Bus) (withholds : Bool) (device : Nat) : Except Error Unit := do
  (t.attach config taking device).1
  if withholds then throw .notConnected

/-- What connecting comes to, given the bus when the link is opened and the bus when it is taken in use. -/
def connectOn (t : Transport) (config : Config) (opening taking : Bus) (withholds : Bool) : Except Error Unit :=
  (t.openLink config opening).1 >>= t.takeOn config taking withholds

theorem takeOn_offer (taking : Bus) (withholds : Bool) (device : Nat) (t' : Transport) :
    t.takeOn config taking.offer withholds device = t'.takeOn config taking withholds device := by
  simp only [takeOn, attach_offer t' config taking device t]

theorem connect_result (bus : Bus) (closed : t.isConnected = false) :
    (t.connect config bus).1 = t.connectOn config bus bus false := by
  have offer := (t.openLink_asks config).offer bus
  simp only [connect, closed, Bool.false_eq_true, if_false, connectOn]
  generalize t.openLink config bus = opened at offer
  obtain ⟨result, after⟩ := opened
  cases result with
  | error cause => rfl
  | ok device =>
    change (t.attach config after device).1 = (t.attach config bus device).1 >>= fun _ => pure ()
    rw [t.attach_openLink config bus device offer]
    cases (t.attach config bus device).1 <;> rfl

end Transport

end TagConsole
