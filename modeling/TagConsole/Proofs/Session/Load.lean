import Mathlib.Algebra.GroupWithZero.Nat
import Mathlib.Algebra.Order.BigOperators.Group.List
import Mathlib.Algebra.Order.Group.Nat
import TagConsole.Proofs.Session.Readers
import TagConsole.Proofs.Transport.Chunks
import TagConsole.Session.Schedule

/-!
How much a session has still to do by itself. Each action that does not come from outside leaves less of it,
although writing a frame may bring an answer that has to be read, passed on and received.
-/

namespace TagConsole

open Link (Bus Device Responder Simulated)
open Wire (Frame)

section Sums

variable {α : Type} {l : List α} {i : Nat} {a : α}

theorem sum_modify (found : l[i]? = some a) (change : α → α) (weight : α → Nat) :
    ((l.modify i change).map weight).sum + weight a = (l.map weight).sum + weight (change a) := by
  induction l generalizing i with
  | nil => cases found
  | cons head tail ih =>
    cases i with
    | zero =>
      cases found
      simp only [List.modify_zero_cons, List.map_cons, List.sum_cons]
      omega
    | succ i =>
      have rest := ih (i := i) found
      simp only [List.modify_succ_cons, List.map_cons, List.sum_cons]
      omega

theorem sum_modify_le {change : α → α} {weight : α → Nat} (lighter : ∀ a, weight (change a) ≤ weight a) :
    ((l.modify i change).map weight).sum ≤ (l.map weight).sum := by
  cases found : l[i]? with
  | none => rw [List.modify_eq_self (List.getElem?_eq_none_iff.mp found)]
  | some a =>
    have changed := sum_modify found change weight
    have := lighter a
    omega

theorem foldl_max_le {l : List Nat} {b n : Nat} : l.foldl max b ≤ n ↔ b ≤ n ∧ ∀ m ∈ l, m ≤ n := by
  induction l generalizing b with
  | nil => simp
  | cons m l ih => simp [ih, and_assoc]

theorem sum_le_of_le (weight bound : α → Nat) {k c : Nat} (below : ∀ a, weight a ≤ k * bound a + c) (l : List α) :
    (l.map weight).sum ≤ k * (l.map bound).sum + c * l.length := by
  induction l with
  | nil => exact Nat.zero_le _
  | cons a l ih =>
    have first := below a
    simp only [List.map_cons, List.sum_cons, List.length_cons, Nat.mul_add]
    omega

end Sums

section Answers

def Link.Bus.answerSize (bus : Bus) : Nat := (bus.devices.map (Session.answerSize ·.link.responder)).foldl max 0

theorem answerSize_le {bus : Bus} {n : Nat} :
    bus.answerSize ≤ n ↔ ∀ known ∈ bus.devices, Session.answerSize known.link.responder ≤ n := by
  simp [Bus.answerSize, foldl_max_le]

theorem answer_size (responder : Responder) (frame : Frame) :
    (∀ reply, (responder.answer frame).1 = some reply →
      reply.length ≤ frame.length + Session.answerSize responder) ∧
    Session.answerSize (responder.answer frame).2 ≤ Session.answerSize responder := by
  cases responder with
  | silent => exact ⟨by simp [Responder.answer], Nat.le_refl _⟩
  | always reply => exact ⟨by simp [Responder.answer, Session.answerSize], Nat.le_refl _⟩
  | echo start => exact ⟨by simp [Responder.answer, Session.answerSize, Nat.add_comm], Nat.le_refl _⟩
  | script replies =>
    cases replies with
    | nil => exact ⟨by simp [Responder.answer], Nat.le_refl _⟩
    | cons reply later =>
      have bounds := foldl_max_le.mp (Nat.le_refl (Session.answerSize (.script (reply :: later))))
      simp only [List.map_cons, List.mem_cons, forall_eq_or_imp] at bounds
      refine ⟨?_, foldl_max_le.mpr ⟨bounds.1, bounds.2.2⟩⟩
      rintro answer first
      obtain rfl : reply = some answer := first
      exact Nat.le_trans bounds.2.1 (Nat.le_add_left _ _)
  | table replies otherwise =>
    have bounds := foldl_max_le.mp (Nat.le_refl (Session.answerSize (.table replies otherwise)))
    refine ⟨fun answer found => Nat.le_trans ?_ (Nat.le_add_left _ _), Nat.le_refl _⟩
    rw [Responder.answer] at found
    cases listed : replies.find? (·.1 == frame.take 4) with
    | none =>
      obtain rfl : otherwise = some answer := by simpa [listed] using found
      exact bounds.1
    | some entry =>
      obtain rfl : entry.2 = answer := by simpa [listed] using found
      exact bounds.2 _ (List.mem_map.mpr ⟨entry, List.mem_of_find?_eq_some listed, rfl⟩)

end Answers

namespace Link

variable {bus bus' : Bus} {d : Nat} {known : Device}

def Simulated.load (link : Simulated) : Nat := (link.queue.map (·.length + 1)).sum

structure Bus.Eased (bus bus' : Bus) : Prop where
  reads : bus'.pendingReads ≤ bus.pendingReads
  answers : bus'.answerSize ≤ bus.answerSize

namespace Bus

theorem Eased.trans {bus'' : Bus} (first : bus.Eased bus') (second : bus'.Eased bus'') : bus.Eased bus'' :=
  ⟨Nat.le_trans second.reads first.reads, Nat.le_trans second.answers first.answers⟩

theorem Eased.refl (bus : Bus) : bus.Eased bus := ⟨Nat.le_refl _, Nat.le_refl _⟩

theorem pendingReads_eq (bus : Bus) : bus.pendingReads = (bus.devices.map (·.link.load)).sum := by
  rw [pendingReads, ← List.sum_eq_foldl_nat, List.flatMap, List.sum_flatten, List.map_map]
  rfl

theorem pendingReads_updateLink (found : bus.devices[d]? = some known) (change : Simulated → Simulated) :
    (bus.updateLink d change).pendingReads + known.link.load = bus.pendingReads + (change known.link).load := by
  simp only [pendingReads_eq, updateLink]
  exact sum_modify found _ _

theorem answerSize_updateLink (d : Nat) (change : Simulated → Simulated) (keeps : ∀ known, bus.devices[d]? = some known →
      Session.answerSize (change known.link).responder ≤ Session.answerSize known.link.responder) :
    (bus.updateLink d change).answerSize ≤ bus.answerSize := by
  refine answerSize_le.mpr fun changed member => ?_
  have all := answerSize_le.mp (Nat.le_refl bus.answerSize)
  obtain ⟨i, found⟩ := List.getElem?_of_mem member
  rw [updateLink, List.getElem?_modify, Option.map_eq_map, Option.map_eq_some_iff] at found
  obtain ⟨known, was, now⟩ := found
  split at now
  · rename_i same
    subst same now
    exact Nat.le_trans (keeps known was) (all known (List.mem_of_getElem? was))
  · subst now
    exact all known (List.mem_of_getElem? was)

theorem eased_updateLink {change : Simulated → Simulated} (fewer : ∀ link, (change link).load ≤ link.load)
    (keeps : ∀ link, (change link).responder = link.responder) : bus.Eased (bus.updateLink d change) := by
  refine ⟨?_, answerSize_updateLink d change fun known _ => by rw [keeps]⟩
  simp only [pendingReads_eq, updateLink]
  exact sum_modify_le fun known => fewer known.link

theorem eased_clear (bus : Bus) (d : Nat) : bus.Eased (bus.clear d).2 := by
  rw [clear]
  split
  · exact .refl bus
  · exact eased_updateLink (fun link => by simp [Simulated.clear, Simulated.load]) fun _ => rfl

theorem eased_openPath (bus : Bus) (path : String) (settings : Settings) : bus.Eased (bus.openPath path settings).2 := by
  unfold openPath
  split
  · exact .refl bus
  · split
    · exact .refl bus
    · exact ⟨Nat.le_refl _, Nat.le_refl _⟩

theorem write_light (bus : Bus) (d : Nat) (frame : Frame) :
    (bus.write d frame).2.pendingReads ≤ bus.pendingReads + (frame.length + bus.answerSize + 1) ∧
      (bus.write d frame).2.answerSize ≤ bus.answerSize := by
  unfold write
  split
  · exact ⟨Nat.le_add_right _ _, Nat.le_refl _⟩
  · rename_i known found
    have most := answerSize_le.mp (Nat.le_refl bus.answerSize) known (List.mem_of_getElem? found)
    have queued := pendingReads_updateLink found fun _ => (known.link.write frame).2
    have one : (known.link.write frame).2.load ≤ known.link.load + (frame.length + bus.answerSize + 1) ∧
        Session.answerSize (known.link.write frame).2.responder ≤ Session.answerSize known.link.responder := by
      obtain ⟨size, later⟩ := answer_size known.link.responder frame
      unfold Simulated.write
      split
      · exact ⟨Nat.le_add_right _ _, Nat.le_refl _⟩
      · split
        · exact ⟨Nat.le_add_right _ _, Nat.le_refl _⟩
        · refine ⟨?_, later⟩
          simp only [Simulated.load, List.map_append, List.sum_append]
          cases answered : (known.link.responder.answer frame).1 with
          | none => simp
          | some reply =>
            have := size reply answered
            simp only [Option.toList_some, List.map_cons, List.map_nil, List.sum_singleton]
            omega
    refine ⟨?_, answerSize_updateLink d _ fun other there => ?_⟩
    · change (bus.updateLink d fun _ => (known.link.write frame).2).pendingReads ≤ _
      omega
    obtain rfl := Option.some.inj (found.symm.trans there)
    exact one.2

end Bus

end Link

namespace Transport

theorem Reader.step_responder {reader reader' : Reader} {link link' : Simulated}
    (stepped : reader.step link = some (reader', link')) : link'.responder = link.responder := by
  cases step_does stepped with
  | reads running free reading read =>
    unfold Simulated.read at read
    split at read
    · split at read <;> cases read <;> rfl
    · cases read
  | _ => rfl

variable {t t' : Transport} {config : Config} {bus bus' : Bus} {device : Nat}

def load (t : Transport) : Nat := (t.readers.map (·.load)).sum

theorem Reader.release_load (reader : Reader) : reader.release.load = reader.load := rfl

theorem Reader.abandon_load (reader : Reader) : reader.abandon.load ≤ reader.load := by
  change (if reader.held.isSome then 2 else 0) + 0 + (if reader.isReading then 0 else 1) +
    (if reader.isRunning then 2 else 0) ≤ _
  rw [Reader.load]
  omega

theorem Reader.load_le (reader : Reader) : reader.load ≤ 4 * (reader.channel.length + 4) + 0 := by
  have held : (if reader.held.isSome then 2 else 0) ≤ 2 := by split <;> omega
  have reading : (if reader.isReading then 0 else 1) ≤ 1 := by split <;> omega
  have running : (if reader.isRunning then 2 else 0) ≤ 2 := by split <;> omega
  rw [Reader.load]
  omega

theorem detach_load (t : Transport) : t.detach.load ≤ t.load := by
  have released : (t.updateLast (·.release)).load ≤ t.load :=
    sum_modify_le fun reader => Nat.le_of_eq reader.release_load
  unfold detach
  dsimp only
  split
  · exact Nat.le_trans (sum_modify_le Reader.abandon_load) released
  · exact released

theorem set_load {index : Nat} {reader : Reader} (taps : t.readers[index]? = some reader) (reader' : Reader) :
    load { t with readers := t.readers.set index reader' } + reader.load = t.load + reader'.load := by
  have lt := (List.getElem?_eq_some_iff.mp taps).1
  have same : t.readers.set index reader' = t.readers.modify index fun _ => reader' := by
    rw [List.modify_eq_set_getElem?, taps]
    rfl
  rw [load, same]
  exact sum_modify taps _ _

theorem openLink_eased (t : Transport) (config : Config) (bus : Bus) : bus.Eased (t.openLink config bus).2 := by
  unfold openLink
  split
  · split
    · exact .refl bus
    · rename_i info _
      have opened := bus.eased_openPath info.path config.link.settings
      split
      · rename_i same
        rwa [same] at opened
      · rename_i device there same
        rw [same] at opened
        exact opened.trans (there.eased_clear device)
  · split
    · exact .refl bus
    · rename_i peer _
      have asked : bus.Eased { bus with services := bus.services ++ [config.radio.serviceUuid] } :=
        ⟨Nat.le_refl _, Nat.le_refl _⟩
      exact asked.trans (Bus.eased_openPath _ peer.path config.link.settings)

theorem write_light (t : Transport) (bus : Bus) (frame : Frame) :
    (t.write bus frame).2.pendingReads ≤ bus.pendingReads + (frame.length + bus.answerSize + 1) ∧
      (t.write bus frame).2.answerSize ≤ bus.answerSize := by
  unfold write
  split
  · exact ⟨Nat.le_add_right _ _, Nat.le_refl _⟩
  · rename_i device _
    exact bus.write_light device frame

theorem attach_light (attached : t.attach config bus device = (result, t', bus')) :
    bus.Eased bus' ∧ t'.load ≤ t.load + if result.isOk then 3 else 0 := by
  have detached := t.detach_load
  have timed : bus.Eased (bus.updateLink device fun link =>
      { link with readTimeout := .ofMillis config.link.readTimeout }) :=
    Bus.eased_updateLink (fun _ => Nat.le_refl _) fun _ => rfl
  unfold attach at attached
  split at attached
  · cases attached
    exact ⟨.refl bus, detached⟩
  · dsimp only at attached
    split at attached
    · cases attached
      exact ⟨timed, detached⟩
    · cases attached
      refine ⟨timed, ?_⟩
      have started : (Reader.start device config.link.readBuffer config.link.inboundCapacity).load = 3 := rfl
      simp only [load, List.map_append, List.sum_append, List.map_cons, List.map_nil, List.sum_singleton, started]
      exact Nat.add_le_add_right detached 3

end Transport

namespace Session

variable {s s' : Session} {action : Action} {id n : Nat} {old : Call} {new : Option Call}

/-- What a frame costs that is still to be written: the bytes of an answer are read one by one in the worst case, and
    each read is followed by at most three other turns. -/
def writeLoad (n : Nat) (frame : Frame) : Nat := 4 * (frame.length + n + 1)

/-- A bound on what a call has still to do, where devices add at most so many bytes to the frames that they answer. A
    link that is opened brings a reader and a receiver. -/
def Call.load (n : Nat) : Call → Nat
  | connect _ .waiting => 9
  | connect _ (.releasing _) => 8
  | connect _ .opening => 7
  | connect _ (.opened _) => 6
  | connect _ (.discarding _) => 1
  | disconnect .waiting => 2
  | disconnect (.releasing _) => 1
  | send frame (.writing _) => writeLoad n frame + 2
  | send _ (.written _) => 1
  | request frame _ (.queueing _ _) => writeLoad n frame + 4
  | request frame _ (.registered _ _ _ .writing) => writeLoad n frame + 3
  | request _ _ (.registered _ _ _ (.written _)) => 2
  | request _ _ (.registered _ _ _ (.awaiting _)) => 1
  | orphan _ frame => writeLoad n frame + 1
  | ended _ => 0

def Calls.load (n : Nat) (calls : Calls) : Nat := (calls.map (·.2.load n)).sum

def Receiver.load (receiver : Receiver) : Nat :=
  match receiver.stage with
  | .listening => 2
  | .releasing => 1
  | .over => 0

/-- A bound on the actions that a session can still take by itself. -/
def load (s : Session) : Nat :=
  4 * s.bus.pendingReads + (s.transports.map (·.load)).sum + s.calls.load s.bus.answerSize +
    (s.receivers.map (·.load)).sum

def Action.isOwn : Action → Bool
  | resume _ | work _ | read _ _ | receive _ => true
  | _ => false

theorem Call.load_mono {m : Nat} (less : n ≤ m) (call : Call) : call.load n ≤ call.load m := by
  unfold load writeLoad
  split <;> omega

theorem Calls.load_mono {m : Nat} (less : n ≤ m) (calls : Calls) : calls.load n ≤ calls.load m :=
  List.sum_le_sum fun entry _ => entry.2.load_mono less

theorem Calls.load_handMail (calls : Calls) (mail : Mail) (chosen : Nat → Bool) :
    (calls.handMail mail chosen).load n = calls.load n := by
  have blind (call : Call) : (call.handMail mail chosen).load n = call.load n :=
    call.handMail_congr mail chosen (Call.load n) fun _ _ _ _ progress _ _ => by cases progress <;> rfl
  simp only [Calls.load, handMail, List.map_map, Function.comp_def, blind]

theorem Calls.update_of_absent {calls : Calls} (absent : id ∉ calls.map (·.1)) (new : Option Call) :
    calls.update id new = calls := by
  have others : ∀ entry ∈ calls, entry.1 ≠ id := fun entry member same => absent (List.mem_map.mpr ⟨entry, member, same⟩)
  cases new with
  | none => exact List.filter_eq_self.mpr fun entry member => by simpa using others entry member
  | some call => exact (List.map_congr_left fun entry member => if_neg (others entry member)).trans (List.map_id' calls)

theorem Calls.load_update {calls : Calls} (nodup : (calls.map (·.1)).Nodup) (present : calls.lookup id = some old)
    (n : Nat) (new : Option Call) :
    (calls.update id new).load n + old.load n = calls.load n + new.elim 0 (Call.load n) := by
  induction calls with
  | nil => cases present
  | cons entry calls ih =>
    obtain ⟨key, call⟩ := entry
    rw [List.map_cons, List.nodup_cons] at nodup
    rw [List.lookup_cons] at present
    have added (key : Nat) (call : Call) (calls : Calls) : load n ((key, call) :: calls) = call.load n + load n calls :=
      rfl
    by_cases same : key = id
    · subst same
      rw [beq_self_eq_true] at present
      cases present
      have kept := Calls.update_of_absent nodup.1 new
      cases new with
      | none =>
        have rest : update ((key, old) :: calls) key none = update calls key none := by simp [update, remove]
        rw [rest, kept, added, Option.elim_none]
        omega
      | some call' =>
        have rest : update ((key, old) :: calls) key (some call') = (key, call') :: update calls key (some call') := by
          simp [update, replace]
        rw [rest, kept, added, added, Option.elim_some]
        omega
    · rw [beq_false_of_ne (Ne.symm same)] at present
      have later := ih nodup.2 present
      have rest : update ((key, call) :: calls) id new = (key, call) :: update calls id new := by
        cases new <;> simp [update, replace, remove, same]
      rw [rest, added, added]
      omega

theorem write_light {transport : Nat} {frame : Frame} {result : Except Transport.Error Unit} {bus : Bus}
    (write : s.write transport frame = (result, { s with bus := bus })) :
    4 * bus.pendingReads ≤ 4 * s.bus.pendingReads + writeLoad s.bus.answerSize frame ∧
      bus.answerSize ≤ s.bus.answerSize := by
  have light : 4 * (s.write transport frame).2.bus.pendingReads ≤
      4 * s.bus.pendingReads + writeLoad s.bus.answerSize frame ∧
      (s.write transport frame).2.bus.answerSize ≤ s.bus.answerSize := by
    unfold Session.write
    split
    · exact ⟨Nat.le_add_right _ _, Nat.le_refl _⟩
    · rename_i t _
      have light := t.write_light s.bus frame
      refine ⟨?_, light.2⟩
      change 4 * (t.write s.bus frame).2.pendingReads ≤ _
      have := light.1
      rw [writeLoad]
      omega
  rwa [write] at light

theorem Advance.load_lt {call : Call} {waiters : List Nat} {bus : Bus} (own : action.isOwn = true)
    (advance : Advance s id action call new waiters bus) :
    4 * bus.pendingReads + new.elim 0 (Call.load s.bus.answerSize) <
      4 * s.bus.pendingReads + call.load s.bus.answerSize ∧ bus.answerSize ≤ s.bus.answerSize := by
  have idle (lighter : new.elim 0 (Call.load s.bus.answerSize) < call.load s.bus.answerSize) :
      4 * s.bus.pendingReads + new.elim 0 (Call.load s.bus.answerSize) <
        4 * s.bus.pendingReads + call.load s.bus.answerSize ∧ s.bus.answerSize ≤ s.bus.answerSize :=
    ⟨Nat.add_lt_add_left lighter _, Nat.le_refl _⟩
  cases advance with
  | registers => exact idle (by simp [Call.load])
  | refuses => exact idle (by simp [Call.load])
  | fails => exact idle (by simp [Call.load])
  | @replies _ _ _ _ _ progress sent => exact idle (by cases progress <;> simp_all [Call.load, Progress.isSent])
  | @closes _ _ _ _ progress sent => exact idle (by cases progress <;> simp_all [Call.load, Progress.isSent])
  | awaits => exact idle (by simp [Call.load])
  | expiresAtOnce => exact idle (by simp [Call.load])
  | endsAlone => exact idle (by simp [Call.load])
  | writes write =>
    have light := write_light write
    refine ⟨?_, light.2⟩
    have := light.1
    simp only [Call.load, Option.elim_some]
    omega
  | writesAlone write =>
    have light := write_light write
    refine ⟨?_, light.2⟩
    have := light.1
    simp only [Call.load, Option.elim_some]
    omega
  | writesOrphan write =>
    have light := write_light write
    refine ⟨?_, light.2⟩
    have := light.1
    simp only [Call.load, Option.elim_none]
    omega
  | expires | orphansRequest | orphansAlone | leaves => cases own

theorem updateReceiver_load {generation : Nat} {receiver : Receiver} (linked : s.Linked)
    (known : s.receiver? generation = some receiver) (stage : Receiver.Stage)
    (further : { receiver with stage := stage }.load < receiver.load) :
    ((s.updateReceiver generation stage).receivers.map (·.load)).sum < (s.receivers.map (·.load)).sum := by
  obtain ⟨member, here⟩ := receiver?_some known
  rw [updateReceiver_receivers, List.map_map]
  refine List.sum_lt_sum _ _ (fun other member' => ?_) ⟨receiver, member, by simpa [here] using further⟩
  by_cases same : other.generation = generation
  · obtain rfl := linked.receiver_eq member' member (same.trans here.symm)
    simpa [same] using further.le
  · simp [same]

theorem takeActive_load (s : Session) :
    (s.takeActive.2.transports.map (·.load)).sum ≤ (s.transports.map (·.load)).sum ∧
      (s.takeActive.2.receivers.map (·.load)).sum ≤ (s.receivers.map (·.load)).sum := by
  constructor
  · unfold takeActive
    split
    · exact Nat.le_refl _
    · simp only [abort]
      split
      · exact Nat.le_refl _
      · exact sum_modify_le fun t => sum_modify_le Transport.Reader.abandon_load
  · rw [takeActive_receivers, List.map_map]
    refine List.sum_le_sum fun receiver _ => ?_
    simp only [Function.comp_apply]
    split
    · exact Nat.zero_le _
    · exact Nat.le_refl _

theorem detach_load (s : Session) (previous : Option Nat) :
    ((s.detach previous).transports.map (·.load)).sum ≤ (s.transports.map (·.load)).sum := by
  cases previous with
  | none => exact Nat.le_refl _
  | some transport => exact sum_modify_le Transport.detach_load

section Move

variable (tidy : s.Tidy)
include tidy

theorem Tidy.load_replace (present : s.call? id = some old) {bus : Bus} (eased : s.bus.Eased bus) (new : Call) :
    (s.calls.replace id new).load bus.answerSize + old.load s.bus.answerSize ≤
      s.calls.load s.bus.answerSize + new.load s.bus.answerSize := by
  have replaced := Calls.load_update tidy.ids_nodup present s.bus.answerSize (some new)
  have fewer := Calls.load_mono eased.answers (s.calls.replace id new)
  simp only [Calls.update, Option.elim_some] at replaced
  omega

theorem Tidy.load_drops (present : s.call? id = some old) (apart : old.handMail .dropped (· ∈ s.waiters) = old)
    (new : Call) :
    ((s.calls.handMail .dropped (· ∈ s.waiters)).replace id new).load s.bus.answerSize + old.load s.bus.answerSize ≤
      s.calls.load s.bus.answerSize + new.load s.bus.answerSize := by
  have mailed : { s with calls := s.calls.handMail .dropped (· ∈ s.waiters) }.Tidy := tidy.handMail rfl rfl rfl rfl
  have present' : { s with calls := s.calls.handMail .dropped (· ∈ s.waiters) }.call? id = some old := by
    rw [call?_handMail present, apart]
  have replaced := mailed.load_replace present' (.refl s.bus) new
  rwa [Calls.load_handMail] at replaced

end Move

theorem load_receives {receiver : Receiver} {t : Transport} {reader reader' : Transport.Reader} {frame : Frame}
    (found : s.transports[receiver.transport]? = some t) (taps : t.readers[receiver.reader]? = some reader)
    (takes : reader.receive = some (frame, reader'))
    (transports : s'.transports = s.transports.modify receiver.transport fun t =>
      { t with readers := t.readers.set receiver.reader reader' }) (bus : s'.bus = s.bus)
    (receivers : s'.receivers = s.receivers) (calls : s'.calls.load s.bus.answerSize = s.calls.load s.bus.answerSize) :
    s'.load < s.load := by
  have changed := sum_modify found (fun t => { t with readers := t.readers.set receiver.reader reader' }) (·.load)
  have set := Transport.set_load taps reader'
  have lighter := Transport.Reader.receive_load takes
  simp only [load, transports, bus, receivers, calls]
  omega

/-- Every own action leaves less to do. -/
theorem Move.load_lt (move : Move s action s') (own : action.isOwn = true) (tidy : s.Tidy) (linked : s.Linked)
    (staffed : s.Staffed) : s'.load < s.load := by
  cases move with
  | @advances action id old new waiters bus present advance =>
    obtain ⟨less, answers⟩ := advance.load_lt own
    have updated := Calls.load_update tidy.ids_nodup present s.bus.answerSize new
    have := Calls.load_mono answers (s.calls.update id new)
    simp only [load]
    omega
  | @takes id old new present turn stage =>
    obtain ⟨transports, receivers⟩ := s.takeActive_load
    have calls := tidy.load_replace present (.refl s.bus) (new)
    rcases stage with ⟨transport, rfl, rfl⟩ | ⟨rfl, rfl⟩
    · simp only [load, Call.load] at calls ⊢
      omega
    · simp only [load, Call.load] at calls ⊢
      omega
  | @reopens id transport previous present =>
    have transports := s.detach_load previous
    have calls := tidy.load_drops present rfl (.connect transport .opening)
    simp only [load, Call.load] at calls ⊢
    omega
  | @disconnected id previous present =>
    have transports := s.detach_load previous
    have calls := tidy.load_drops present rfl (.ended .done)
    simp only [load, Call.load] at calls ⊢
    omega
  | @opens id transport t result bus present found opened =>
    have eased : s.bus.Eased bus := by
      have eased := t.openLink_eased s.config s.bus
      rwa [opened] at eased
    have calls := tidy.load_replace present eased (.connect transport (.opened result))
    have := eased.reads
    simp only [load, Call.load] at calls ⊢
    omega
  | @opensNot id transport cause present =>
    have calls := tidy.load_replace present (.refl s.bus) (.connect transport (.discarding cause))
    simp only [load, Call.load] at calls ⊢
    omega
  | @attachesNot id transport device t t' bus cause present found refused =>
    have light : s.bus.Eased bus ∧ t'.load ≤ t.load + 3 := by
      rcases refused with refused | ⟨attached, -, -⟩
      · exact (Transport.attach_light refused).imp_right fun less => Nat.le_trans less (by simp [Except.isOk, Except.toBool])
      · exact Transport.attach_light attached
    have changed := sum_modify found (fun _ => t') (·.load)
    have calls := tidy.load_replace present light.1 (.connect transport (.discarding cause))
    have := light.1.reads
    simp only [load, Call.load] at calls ⊢
    omega
  | @installs id transport device t t' bus present found attached handsOut =>
    obtain ⟨eased, less⟩ := Transport.attach_light attached
    have less : Transport.load { t' with hasReceiver := false } ≤ t.load + 3 := less
    have changed := sum_modify found (fun _ => { t' with hasReceiver := false }) (·.load)
    have calls := tidy.load_replace present eased (.ended .done)
    have := eased.reads
    simp only [load, Call.load, List.map_append, List.sum_append, List.map_cons, List.map_nil, List.sum_singleton,
      Receiver.load] at calls ⊢
    omega
  | @discards id transport cause present =>
    have transports : ((s.transports.modify transport (·.detach)).map (·.load)).sum ≤ (s.transports.map (·.load)).sum :=
      sum_modify_le Transport.detach_load
    have calls := tidy.load_replace present (.refl s.bus) (.ended (.failed (.connect cause)))
    simp only [load, Call.load] at calls ⊢
    omega
  | @reads transport reader t t' bus found turned =>
    obtain ⟨before, after, known, link, taps, knows, stepped, rfl, rfl⟩ := Transport.stepReader_some turned
    have changed := sum_modify found (fun _ => { t with readers := t.readers.set reader after }) (·.load)
    have set := Transport.set_load taps after
    have positive : 0 < before.size := by
      have size := ((staffed transport t found).fit before (List.mem_of_getElem? taps)).size
      omega
    have lighter := Transport.Reader.step_load positive stepped
    have queued := Link.Bus.pendingReads_updateLink knows fun _ => link
    have answers := Calls.load_mono (Link.Bus.answerSize_updateLink before.device (fun _ => link)
      fun other there => by
        obtain rfl := Option.some.inj (knows.symm.trans there)
        rw [Transport.Reader.step_responder stepped]) s.calls
    simp only [load, Simulated.load] at queued ⊢
    omega
  | delivers known stage found taps takes queue =>
    exact load_receives found taps takes rfl rfl rfl (Calls.load_handMail ..)
  | publishes known stage found taps takes queue => exact load_receives found taps takes rfl rfl rfl rfl
  | loses known stage found taps ended current =>
    have later := updateReceiver_load linked known .releasing (by simp [Receiver.load, stage])
    have same := s.calls.load_handMail (n := s.bus.answerSize) .dropped (· ∈ s.waiters)
    simp only [load]
    omega
  | noticesLate known stage found taps ended past =>
    have later := updateReceiver_load linked known .over (by simp [Receiver.load, stage])
    exact Nat.add_lt_add_left later _
  | @releases generation receiver known stage =>
    have transports : ((s.transports.modify receiver.transport (·.detach)).map (·.load)).sum ≤
        (s.transports.map (·.load)).sum := sum_modify_le Transport.detach_load
    have later := updateReceiver_load linked known .over (by simp [Receiver.load, stage])
    simp only [load]
    omega
  | _ => cases own

theorem Call.load_le (n : Nat) (call : Call) : call.load n ≤ 4 * (call.frameSize + n + 1) + 8 := by
  unfold load writeLoad frameSize
  split <;> simp only <;> omega

theorem Receiver.load_le (receiver : Receiver) : receiver.load ≤ 2 := by
  unfold load
  split <;> omega

theorem load_le_effort (s : Session) : s.load ≤ s.effort := by
  have calls : s.calls.load s.bus.answerSize ≤ _ := sum_le_of_le _ _ (·.2.load_le s.bus.answerSize) s.calls
  have readers := sum_le_of_le (·.load) _ (·.load_le) (s.transports.flatMap (·.readers))
  have receivers : (s.receivers.map (·.load)).sum ≤ 0 * (s.receivers.map fun _ => 0).sum + 2 * s.receivers.length :=
    sum_le_of_le _ _ (fun receiver => by simpa using receiver.load_le) s.receivers
  have whole : (s.transports.map (·.load)).sum = ((s.transports.flatMap (·.readers)).map (·.load)).sum := by
    rw [List.flatMap, List.map_flatten, List.sum_flatten, List.map_map, List.map_map]
    rfl
  have effort : s.effort = 4 * (s.bus.pendingReads +
      (s.calls.map fun entry => entry.2.frameSize + s.bus.answerSize + 1).sum +
      ((s.transports.flatMap (·.readers)).map fun reader => reader.channel.length + 4).sum) +
      8 * (s.calls.length + s.receivers.length + 1) := by
    rw [List.sum_eq_foldl_nat, List.sum_eq_foldl_nat, List.map_flatMap]
    rfl
  rw [load, whole, effort]
  omega

end Session

end TagConsole
