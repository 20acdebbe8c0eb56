import TagConsole.Proofs.Session.Traffic
import TagConsole.Proofs.Transport.Changes

/-!
The readers of a session. Whatever happens, the readers of links that are not in use are dead, and one that is
dead and not inside a read takes nothing from its device any more.
-/

namespace TagConsole.Session

open Wire (Frame)

inductive TransportChange (s : Session) (i : Nat) (t' : Transport) : Prop where
  | begins (new : s.transports.length ≤ i) (unopened : t'.readers = [])
  | goesOn {t} (found : s.transports[i]? = some t) (change : t.Change t')
  | opens {t u id call device result bus} (found : s.transports[i]? = some t) (present : s.attempt? id = some call)
      (underway : call.isUnderway = true) (attached : t.attach s.config s.bus device = (result, u, bus))
      (change : u.Change t')

section Change

variable {s s' : Session} {action : Action} {i : Nat} {t' : Transport}

theorem transportChange_of_modify {j : Nat} {change : Transport → Transport}
    (found : (s.transports.modify j change)[i]? = some t')
    (changes : ∀ t, s.transports[j]? = some t → t.Change (change t)) : s.TransportChange i t' := by
  rw [List.getElem?_modify, Option.map_eq_map, Option.map_eq_some_iff] at found
  obtain ⟨t, was, now⟩ := found
  split at now
  · rename_i same
    subst same now
    exact .goesOn was (changes t was)
  · exact .goesOn was (now ▸ .stays)

theorem change_of_abandon (t : Transport) (index : Nat) :
    t.Change { t with readers := t.readers.modify index (·.abandon) } := by
  cases taps : t.readers[index]? with
  | none =>
    have same : t.readers.modify index (·.abandon) = t.readers :=
      Transport.modify_eq_self fun reader found => by simp [taps] at found
    rw [same]
    exact .stays
  | some reader =>
    have same : t.readers.modify index (·.abandon) = t.readers.set index reader.abandon := by
      rw [List.modify_eq_set_getElem?, taps]
      rfl
    rw [same]
    exact .grows taps .abandons

theorem transportChange_of_takeActive (found : s.takeActive.2.transports[i]? = some t') : s.TransportChange i t' := by
  unfold takeActive at found
  split at found
  · exact .goesOn found .stays
  · simp only [abort] at found
    split at found
    · exact .goesOn found .stays
    · exact transportChange_of_modify found fun t _ => change_of_abandon t _

theorem Move.transportChange (move : Move s action s') (found : s'.transports[i]? = some t') :
    s.TransportChange i t' := by
  have detached {previous : Option Nat} (found : (s.detach previous).transports[i]? = some t') :
      s.TransportChange i t' := by
    cases previous with
    | none => exact .goesOn found .stays
    | some j => exact transportChange_of_modify found fun t _ => .detaches
  have attached {id transport device : Nat} {t u w : Transport} {result : Except Transport.Error Unit} {bus : Link.Bus}
      (present : s.call? id = some (.connect transport (.opened (.ok device))))
      (known : s.transports[transport]? = some t) (attached : t.attach s.config s.bus device = (result, u, bus))
      (change : u.Change w) (found : (s.transports.modify transport fun _ => w)[i]? = some t') :
      s.TransportChange i t' := by
    rw [List.getElem?_modify, Option.map_eq_map, Option.map_eq_some_iff] at found
    obtain ⟨v, was, now⟩ := found
    split at now
    · rename_i same
      subst same now
      exact .opens known (attempt?_of_call? present rfl) rfl attached change
    · exact .goesOn was (now ▸ .stays)
  cases move with
  | connects =>
    rw [List.getElem?_append] at found
    split at found
    · exact .goesOn found .stays
    · rename_i new
      obtain rfl := List.mem_singleton.mp (List.mem_of_getElem? found)
      exact .begins (Nat.le_of_not_lt new) rfl
  | takes => exact transportChange_of_takeActive found
  | reopens => exact detached found
  | disconnected => exact detached found
  | attachesNot present known refused =>
    rcases refused with refused | ⟨done, -, -⟩
    · exact attached present known refused .stays found
    · exact attached present known done .stays found
  | installs present known done => exact attached present known done .handsOut found
  | discards => exact transportChange_of_modify found fun t _ => .detaches
  | reads known turned =>
    obtain ⟨reader, reader', device, link', taps, -, stepped, rfl, -⟩ := Transport.stepReader_some turned
    refine transportChange_of_modify found fun t known' => ?_
    obtain rfl := Option.some.inj (known.symm.trans known')
    exact .grows taps (.turns stepped)
  | delivers known stage found' taps takes =>
    refine transportChange_of_modify found fun t known' => ?_
    obtain rfl := Option.some.inj (found'.symm.trans known')
    exact .grows taps (.receives takes)
  | publishes known stage found' taps takes =>
    refine transportChange_of_modify found fun t known' => ?_
    obtain rfl := Option.some.inj (found'.symm.trans known')
    exact .grows taps (.receives takes)
  | releases => exact transportChange_of_modify found fun t _ => .detaches
  | _ => exact .goesOn found .stays

theorem Move.transports_le (move : Move s action s') : s.transports.length ≤ s'.transports.length := by
  cases move with
  | connects => simp
  | takes =>
    obtain ⟨i, change, same, -⟩ := s.takeActive_transports
    simp [same]
  | @reopens id transport previous => cases previous <;> simp [Session.detach, updateTransport]
  | @disconnected id previous => cases previous <;> simp [Session.detach, updateTransport]
  | noticesLate | withholds => exact Nat.le_refl _
  | _ => simp

theorem Move.transport_hasEnded (move : Move s action s') {t : Transport} {index : Nat}
    (found : s.transports[i]? = some t) (ended : t.HasEnded index) :
    ∃ t', s'.transports[i]? = some t' ∧ t'.HasEnded index := by
  have lt := (List.getElem?_eq_some_iff.mp found).1
  have here := List.getElem?_eq_getElem (Nat.lt_of_lt_of_le lt move.transports_le)
  refine ⟨_, here, ?_⟩
  cases move.transportChange here with
  | begins new => omega
  | goesOn found' change =>
    obtain rfl := Option.some.inj (found.symm.trans found')
    exact change.hasEnded ended
  | opens found' present underway attached change =>
    obtain rfl := Option.some.inj (found.symm.trans found')
    exact change.hasEnded (ended.attach attached)

end Change

def Staffed (s : Session) : Prop := ∀ (i : Nat) t, s.transports[i]? = some t → t.Kept s.config

section Staffed

variable {s s' : Session} {action : Action}

theorem Staffed.step (staffed : s.Staffed) (move : Move s action s') : s'.Staffed := by
  intro i t' found
  rw [move.config_eq]
  cases move.transportChange found with
  | begins new unopened => exact Transport.kept_of_unopened unopened
  | goesOn found change => exact change.kept (staffed i _ found)
  | opens found present underway attached change => exact change.kept ((staffed i _ found).attach attached)

theorem config_of_run {config : Config} {bus : Link.Bus} {actions : List Action}
    (run : (fresh config bus).run actions = some s) : s.config = config := by
  refine (fresh_sound config bus).run_induction (P := fun s _ => s.config = config) rfl ?_ run
  intro before action after past sound same stepped
  exact (step_move sound.tidy stepped).config_eq.trans same

theorem staffed_of_run {config : Config} {bus : Link.Bus} {actions : List Action}
    (run : (fresh config bus).run actions = some s) : s.Staffed := by
  refine (fresh_sound config bus).run_induction (P := fun s _ => s.Staffed) ?_ ?_ run
  · intro i t found
    simp [fresh] at found
  · intro before action after past sound staffed stepped
    exact staffed.step (step_move sound.tidy stepped)

/-- While a link is active the readers of all others are dead. -/
theorem Staffed.others_dead (staffed : s.Staffed) (linked : s.Linked) {link : ActiveLink} (active : s.active = some link)
    {i : Nat} (other : i ≠ link.transport) {t : Transport} (found : s.transports[i]? = some t)
    {reader : Transport.Reader} (member : reader ∈ t.readers) : reader.isAlive = false := by
  have kept := staffed i t found
  cases writer : t.writer with
  | none => exact kept.released writer reader member
  | some device =>
    rcases linked.held i t found (by simp [writer]) with used | ⟨r, routed, rfl, stage⟩
    · exact absurd (linked.inUse_eq active used) other
    · -- the link was lost, so its reader is the one that has died
      have lost := linked.lost_dead r routed stage t found
      simp only [Transport.isConnected, writer, Option.isSome_some, Bool.and_true] at lost
      obtain ⟨j, taps⟩ := List.getElem?_of_mem member
      have lt := (List.getElem?_eq_some_iff.mp taps).1
      by_cases last : j + 1 = t.readers.length
      · rw [List.getLast?_eq_getElem?, show t.readers.length - 1 = j by omega, taps] at lost
        simpa using lost
      · exact kept.earlier j reader taps (by omega)

end Staffed

/-- No reader of another link is inside a read of the device. Nothing ensures that: nobody waits for a reader to stop, so
    one of an earlier link to the same device may still be inside a read when the next link comes into use. -/
def Alone (s : Session) (link : ActiveLink) (device : Nat) : Prop :=
  ∀ i t, i ≠ link.transport → s.transports[i]? = some t →
    ∀ reader ∈ t.readers, reader.device = device → reader.isReading = false

/-- What `Alone` shuts out: the reader of the first link takes a frame while the second is in use, and it is lost. -/
example : ((fresh {} { devices := [.ofInfo ⟨"adapter", .usb, none⟩ .silent []] }).run
    [.begin (.connect .usb none), .resume 0, .resume 0, .work 0, .resume 0, .read 0 0,
      .begin (.connect .usb none), .resume 1, .resume 1, .work 1, .resume 1,
      .happen (.push 0 [7]), .read 0 0, .read 0 0]).any (fun s =>
        s.active = some ⟨1, 2⟩ ∧ s.bus.queue 0 = [] ∧ s.inbound = []) = true := by decide

section Alone

variable {s s' : Session} {action : Action} {link : ActiveLink} {device : Nat}

theorem Alone.step (alone : s.Alone link device) (staffed : s.Staffed) (linked : s.Linked)
    (active : s.active = some link) (move : Move s action s') : s'.Alone link device := by
  intro i t' other found reader' member reads
  cases move.transportChange found with
  | begins new unopened => simp [unopened] at member
  | @goesOn t found change =>
    -- the readers of other links are dead, so none of them begins a read
    have dead : ∀ reader ∈ t.readers, reader.isAlive = false :=
      fun reader member => staffed.others_dead linked active other found member
    have quiet := alone i t other found
    cases change with
    | stays => exact quiet reader' member reads
    | handsOut => exact quiet reader' member reads
    | detaches =>
      obtain ⟨j, taps⟩ := List.getElem?_of_mem member
      obtain ⟨reader, was, now⟩ := Transport.detach_grown taps
      have quiet := quiet reader (List.mem_of_getElem? was)
      split at now
      · rcases now with rfl | rfl <;> exact quiet reads
      · subst now
        exact quiet reads
    | @grows index reader _ taps grows =>
      have old := List.mem_of_getElem? taps
      rcases List.mem_or_eq_of_mem_set member with same | rfl
      · exact quiet reader' same reads
      · exact grows.isReading (dead reader old) (quiet reader old (grows.device.symm.trans reads))
  | opens found present underway =>
    have idle := linked.underway_idle _ _ present underway
    rw [active] at idle
    cases idle

theorem Alone.queue_eq (alone : s.Alone link device) (move : Move s action s')
    (other : Moment.readsOther ⟨s, action, s'⟩ link.transport = true) :
    s'.bus.queue device = s.bus.queue device := by
  cases move with
  | @reads i index t t' bus found turned =>
    have apart : i ≠ link.transport := by simpa [Moment.readsOther] using other
    obtain ⟨reader, reader', known, link', taps, knows, stepped, rfl, rfl⟩ := Transport.stepReader_some turned
    have member := List.mem_of_getElem? taps
    by_cases own : reader.device = device
    · subst own
      have idle := alone i t apart found reader member rfl
      rw [Link.Bus.queue_updateLink knows, Link.Bus.queue_of_known knows]
      cases Transport.Reader.step_does stepped with
      | reads running free reading => simp [idle] at reading
      | _ => rfl
    · exact s.bus.queue_updateLink_ne _ _ _ own
  | advances present advance =>
    simp only [Moment.readsOther] at other
    split at other
    · cases advance
    · cases other
  | _ => cases other

end Alone

end TagConsole.Session
