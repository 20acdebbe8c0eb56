import TagConsole.Proofs.Text.Lower
import TagConsole.Transport.Basic

/-!
Which of the listed links is opened. It is the first one that meets the demand; a target names adapters and radio
peers alike, and a filter is looked for among small letters.
-/

namespace TagConsole.Transport

open Link (Bus Info)

def IsFirst (P : Info → Prop) (listed : List Info) (info : Info) : Prop :=
  ∃ before after, listed = before ++ info :: after ∧ P info ∧ ∀ other ∈ before, ¬ P other

section First

variable {P : Info → Prop} {p : Info → Bool} {listed : List Info} {info : Info}

theorem find?_eq_some_iff_isFirst (means : ∀ info, p info = true ↔ P info) :
    listed.find? p = some info ↔ IsFirst P listed info := by
  simp only [List.find?_eq_some_iff_append, IsFirst, ← means]
  constructor
  · rintro ⟨holds, before, after, whole, others⟩
    exact ⟨before, after, whole, holds, by simpa using others⟩
  · rintro ⟨before, after, whole, holds, others⟩
    exact ⟨holds, before, after, whole, by simpa using others⟩

theorem find?_eq_none_iff_forall (means : ∀ info, p info = true ↔ P info) :
    listed.find? p = none ↔ ∀ info ∈ listed, ¬ P info := by
  simp only [List.find?_eq_none, means]

end First

def IsNamed (target : String) (info : Info) : Prop :=
  info.path = target ∨ ∃ name, info.name = some name ∧
    name.toList.map Char.toLower = target.toList.map Char.toLower

theorem isNamedBy_iff {target : String} (info : Info) : info.isNamedBy target = true ↔ IsNamed target info := by
  simp [Info.isNamedBy, IsNamed, Text.sameAsciiFolded, Option.any_eq_true]

inductive AdapterSelected (available : List Info) : Option String → Except Error Info → Prop where
  | usb {info} (first : IsFirst (·.hardware = .usb) available info) : AdapterSelected available none (.ok info)
  | noUsb (absent : ∀ info ∈ available, info.hardware ≠ .usb) :
      AdapterSelected available none (.error .noUsbDevice)
  | named {target info} (first : IsFirst (IsNamed target) available info) :
      AdapterSelected available (some target) (.ok info)
  | path {target} (absent : ∀ info ∈ available, ¬ IsNamed target info) :
      AdapterSelected available (some target) (.ok ⟨target, .other, none⟩)

section Adapters

variable {available : List Info} {target : Option String} {info : Info}

theorem selectAdapter_eq_iff {result : Except Error Info} :
    selectAdapter available target = result ↔ AdapterSelected available target result := by
  have means (info : Info) : decide (info.hardware = .usb) = true ↔ info.hardware = .usb := decide_eq_true_iff
  unfold selectAdapter
  constructor
  · rintro rfl
    cases target with
    | some target =>
      dsimp only
      cases found : available.find? (·.isNamedBy target) with
      | some info => exact .named ((find?_eq_some_iff_isFirst isNamedBy_iff).mp found)
      | none => exact .path ((find?_eq_none_iff_forall isNamedBy_iff).mp found)
    | none =>
      dsimp only
      cases found : available.find? (·.hardware = .usb) with
      | some info => exact .usb ((find?_eq_some_iff_isFirst means).mp found)
      | none => exact .noUsb ((find?_eq_none_iff_forall means).mp found)
  · intro selected
    cases selected with
    | usb first =>
      dsimp only
      rw [(find?_eq_some_iff_isFirst means).mpr first]
      rfl
    | noUsb absent =>
      dsimp only
      rw [(find?_eq_none_iff_forall means).mpr absent]
      rfl
    | named first =>
      dsimp only
      rw [(find?_eq_some_iff_isFirst isNamedBy_iff).mpr first]
      rfl
    | path absent =>
      dsimp only
      rw [(find?_eq_none_iff_forall isNamedBy_iff).mpr absent]
      rfl

theorem openPath_opened (bus : Bus) (path : String) (settings : Link.Settings) :
    (∃ e, bus.openPath path settings = (.error e, bus)) ∨ ∃ device after,
      bus.openPath path settings = (.ok device, after) ∧ after.opened = bus.opened ++ [path] := by
  unfold Bus.openPath
  split
  · exact .inl ⟨_, rfl⟩
  · split
    · exact .inl ⟨_, rfl⟩
    · exact .inr ⟨_, _, rfl, rfl⟩

theorem clear_opened (bus : Bus) (device : Nat) : (bus.clear device).2.opened = bus.opened := by
  unfold Bus.clear
  split <;> rfl

theorem openLink_usb {transport : Transport} {bus : Bus} (usb : transport.kind = .usb) (listed : bus.list = .ok available)
    (config : Config) : (transport.openLink config bus).2.opened = bus.opened ∨ ∃ info,
      selectAdapter available transport.target = .ok info ∧
      (transport.openLink config bus).2.opened = bus.opened ++ [info.path] := by
  have selects : ((Except.ok available : Except Link.Error _).mapError Error.link >>= (selectAdapter · transport.target)) =
      selectAdapter available transport.target := rfl
  unfold openLink
  rw [usb, listed]
  dsimp only
  rw [selects]
  cases selected : selectAdapter available transport.target with
  | error e => exact .inl rfl
  | ok info =>
    rcases openPath_opened bus info.path config.link.settings with ⟨e, failed⟩ | ⟨device, after, done, opened⟩
    · exact .inl (by simp only [failed])
    · refine .inr ⟨info, rfl, ?_⟩
      simp only [done]
      rw [clear_opened, opened]

/-- Which adapter a USB connection is made to. -/
structure AdaptersSelected (available : List Info) : Prop where
  selected : ∀ target result, selectAdapter available target = result ↔ AdapterSelected available target result
  noUsb : selectAdapter available none = .error .noUsbDevice ↔ ∀ info ∈ available, info.hardware ≠ .usb
  opened : ∀ (transport : Transport) config bus, transport.kind = .usb → bus.list = .ok available →
    (transport.openLink config bus).2.opened = bus.opened ∨ ∃ info,
      selectAdapter available transport.target = .ok info ∧
      (transport.openLink config bus).2.opened = bus.opened ++ [info.path]
  /-- It is a radio link just if there is a target and it names one before any other link. -/
  radio : ∀ target, (∃ info, selectAdapter available target = .ok info ∧ info.hardware = .bluetooth) ↔
    ∃ name info, target = some name ∧ IsFirst (IsNamed name) available info ∧ info.hardware = .bluetooth

theorem adapters_selected (available : List Info) : AdaptersSelected available where
  selected _ _ := selectAdapter_eq_iff
  noUsb := by
    rw [selectAdapter_eq_iff]
    constructor
    · intro selected
      cases selected with
      | noUsb absent => exact absent
    · exact .noUsb
  opened _ config _ usb listed := openLink_usb usb listed config
  radio target := by
    simp only [selectAdapter_eq_iff]
    constructor
    · rintro ⟨info, selected, radio⟩
      cases selected with
      | usb first =>
        obtain ⟨before, after, whole, usb, others⟩ := first
        cases usb.symm.trans radio
      | named first => exact ⟨_, info, rfl, first, radio⟩
      | path absent => cases radio
    · rintro ⟨name, info, rfl, first, radio⟩
      exact ⟨info, .named first, radio⟩

/-- A product and a radio peer of one name, of which the host lists the peer first. -/
theorem adapter_selected_radio :
    let peer : Info := ⟨"/dev/rfcomm0", .bluetooth, some "Chameleon"⟩
    let adapter : Info := ⟨"/dev/ttyACM0", .usb, some "Chameleon"⟩
    let bus : Bus := { devices := [.ofInfo peer .silent [], .ofInfo adapter .silent []] }
    let transport : Transport := { kind := .usb, target := some "Chameleon" }
    bus.list = .ok [peer, adapter] ∧ selectAdapter [peer, adapter] transport.target = .ok peer ∧
      (transport.openLink {} bus).2.opened = ["/dev/rfcomm0"] := by
  decide

end Adapters

def Matches (nameFilter : String) (peer : Info) : Prop :=
  ∃ name, peer.name = some name ∧ (Text.lower nameFilter).toList <:+: (Text.lower name).toList

theorem isEligible_iff {nameFilter : String} (peer : Info) :
    isEligible nameFilter peer = true ↔ Matches nameFilter peer := by
  simp [isEligible, Matches, Option.any_eq_true, Text.occursIn_iff]

section Peers

variable {bonded : List Info} {nameFilter name : String} {peer : Info}

theorem selectPeer_eq_ok : selectPeer bonded nameFilter none = .ok peer ↔ IsFirst (Matches nameFilter) bonded peer := by
  rw [selectPeer, ← find?_eq_some_iff_isFirst isEligible_iff]
  cases bonded.find? (isEligible nameFilter) <;> simp

theorem selectPeer_eq_error {error : Error} : selectPeer bonded nameFilter none = .error error ↔
    error = .noRadioPeer ∧ ∀ peer ∈ bonded, ¬ Matches nameFilter peer := by
  rw [selectPeer, ← find?_eq_none_iff_forall isEligible_iff]
  cases bonded.find? (isEligible nameFilter) <;> simp [eq_comm]

theorem matches_iff (named : peer.name = some name) :
    Matches nameFilter peer ↔ Text.lowerChars nameFilter.toList <:+: Text.lowerChars name.toList := by
  simp [Matches, named, Text.lower]

/-- Every name that holds the filter as it is matches, exactly if the filter is settled. -/
theorem isSettled_iff_matches : Text.IsSettled nameFilter.toList ↔ ∀ peer name, peer.name = some name →
    nameFilter.toList <:+: name.toList → Matches nameFilter peer := by
  rw [Text.isSettled_iff]
  constructor
  · intro everywhere peer name named found
    exact (matches_iff named).mpr (everywhere _ found)
  · intro all text found
    have peer := all ⟨"", .bluetooth, some (String.ofList text)⟩ _ rfl (by rwa [String.toList_ofList])
    rwa [matches_iff rfl, String.toList_ofList] at peer

end Peers

/-- Which peer a radio connection without a target is made to. -/
structure PeersSelected (bonded : List Info) (nameFilter : String) : Prop where
  first : ∀ peer, selectPeer bonded nameFilter none = .ok peer ↔ IsFirst (Matches nameFilter) bonded peer
  noPeer : ∀ error, selectPeer bonded nameFilter none = .error error ↔
    error = .noRadioPeer ∧ ∀ peer ∈ bonded, ¬ Matches nameFilter peer
  inPlace : ∀ peer before after, Text.SameEnds before.reverse after nameFilter.toList →
    peer.name = some (String.ofList (before ++ (nameFilter.toList ++ after))) → Matches nameFilter peer
  /-- No peer with the filter in its name is missed, if no such name changes which sigmas of the filter end a word. -/
  verbatim : Text.IsSettled nameFilter.toList → ∀ peer ∈ bonded, ∀ name, peer.name = some name →
    nameFilter.toList <:+: name.toList → Matches nameFilter peer ∧ ∃ first, selectPeer bonded nameFilter none = .ok first
  settled : Text.IsSettled nameFilter.toList ↔ ∀ peer name, peer.name = some name →
    nameFilter.toList <:+: name.toList → Matches nameFilter peer
  plain : 'Σ' ∉ nameFilter.toList → Text.IsSettled nameFilter.toList
  /-- In plain names the filter is found just if a part of the name is the filter in other letters. -/
  ignoringCase : ∀ peer name, peer.name = some name → 'Σ' ∉ name.toList → 'İ' ∉ name.toList →
    (Matches nameFilter peer ↔ ∃ part, part <:+: name.toList ∧
      Text.lowerChars part = Text.lowerChars nameFilter.toList)

theorem peers_selected (bonded : List Info) (nameFilter : String) : PeersSelected bonded nameFilter where
  first _ := selectPeer_eq_ok
  noPeer _ := selectPeer_eq_error
  inPlace peer before after same named := by
    rw [matches_iff named, String.toList_ofList]
    exact same.found
  verbatim settled peer member name named found := by
    have matched := isSettled_iff_matches.mp settled peer name named found
    refine ⟨matched, ?_⟩
    cases selected : selectPeer bonded nameFilter none with
    | ok first => exact ⟨first, rfl⟩
    | error error => exact absurd matched ((selectPeer_eq_error.mp selected).2 peer member)
  settled := isSettled_iff_matches
  plain := Text.isSettled_of_plain
  ignoringCase peer name named noSigma noDot := by
    rw [matches_iff named, Text.lowerChars_infix_iff noSigma noDot]

/-- A filter that ends in a sigma, and a name that goes on after it. -/
theorem peer_missed :
    "ΝΙΚΟΣ".toList <:+: "ΝΙΚΟΣΙΑ".toList ∧
      selectPeer [⟨"/dev/rfcomm0", .bluetooth, some "ΝΙΚΟΣΙΑ"⟩] "ΝΙΚΟΣ" none = .error .noRadioPeer := by
  decide +kernel

end TagConsole.Transport
