import TagConsole.Session.Basic

/-!
The calls of a session as a map from numbers to calls, and the kinds of call that hold one of the
session's two queues.
-/

namespace TagConsole.Session

namespace Calls

def update (calls : Calls) (id : Nat) : Option Call → Calls
  | some call => calls.replace id call
  | none => calls.remove id

theorem lookup_replace (calls : Calls) (id other : Nat) (call : Call) :
    (calls.replace id call).lookup other =
      if other = id then (calls.lookup id).map fun _ => call else calls.lookup other := by
  induction calls with
  | nil => simp [replace]
  | cons entry calls ih =>
    obtain ⟨key, old⟩ := entry
    have first : replace ((key, old) :: calls) id call =
        (if key = id then (id, call) else (key, old)) :: replace calls id call := rfl
    by_cases same : key = id
    · subst same
      rw [first, if_pos rfl, List.lookup_cons, List.lookup_cons, List.lookup_cons, ih]
      by_cases hit : other = key
      · simp [hit]
      · simp [hit, beq_false_of_ne hit]
    · rw [first, if_neg same, List.lookup_cons, List.lookup_cons, List.lookup_cons, ih,
        beq_false_of_ne (Ne.symm same)]
      by_cases hit : other = key
      · simp [hit, same]
      · simp [beq_false_of_ne hit]

theorem lookup_remove (calls : Calls) (id other : Nat) :
    (calls.remove id).lookup other = if other = id then none else calls.lookup other := by
  induction calls with
  | nil => simp [remove]
  | cons entry calls ih =>
    obtain ⟨key, old⟩ := entry
    have first : remove ((key, old) :: calls) id = 
        if key = id then remove calls id else (key, old) :: remove calls id := by
      by_cases same : key = id <;> simp [remove, same]
    by_cases same : key = id
    · subst same
      rw [first, if_pos rfl, ih, List.lookup_cons]
      by_cases hit : other = key
      · simp [hit]
      · simp [hit, beq_false_of_ne hit]
    · rw [first, if_neg same, List.lookup_cons, List.lookup_cons, ih]
      by_cases hit : other = key
      · simp [hit, same]
      · simp [beq_false_of_ne hit]

theorem lookup_update (calls : Calls) (id other : Nat) (new : Option Call) :
    (calls.update id new).lookup other =
      if other = id then (calls.lookup id).bind fun _ => new else calls.lookup other := by
  cases new with
  | none => simp [update, lookup_remove]
  | some call =>
    simp only [update, lookup_replace]
    cases calls.lookup id <;> rfl

theorem lookup_handMail (calls : Calls) (mail : Mail) (chosen : Nat → Bool) (id : Nat) :
    (calls.handMail mail chosen).lookup id = (calls.lookup id).map (·.handMail mail chosen) := by
  induction calls with
  | nil => rfl
  | cons entry calls ih =>
    obtain ⟨key, old⟩ := entry
    simp only [handMail, List.map_cons, List.lookup_cons] at ih ⊢
    cases id == key
    · exact ih
    · rfl

theorem lookup_add (calls : Calls) (new id : Nat) (call : Call) :
    List.lookup id (calls ++ [(new, call)]) =
      (calls.lookup id).or (if id = new then some call else none) := by
  rw [List.lookup_append]
  by_cases same : id = new
  · simp [same]
  · have other : (id == new) = false := by simpa using same
    simp [List.lookup_cons, same, other]

theorem ids_replace (calls : Calls) (id : Nat) (call : Call) :
    (calls.replace id call).map (·.1) = calls.map (·.1) := by
  simp only [replace, List.map_map]
  apply List.map_congr_left
  intro entry _
  simp only [Function.comp_apply]
  split <;> simp_all

theorem ids_handMail (calls : Calls) (mail : Mail) (chosen : Nat → Bool) :
    (calls.handMail mail chosen).map (·.1) = calls.map (·.1) := by
  simp [handMail]

theorem ids_update (calls : Calls) (id : Nat) (new : Option Call) :
    ((calls.update id new).map (·.1)).Sublist (calls.map (·.1)) := by
  cases new with
  | none => exact List.filter_sublist.map _
  | some call => simp [update, ids_replace]

theorem mem_ids_of_lookup {calls : Calls} {id : Nat} {call : Call} (h : calls.lookup id = some call) :
    id ∈ calls.map (·.1) := by
  obtain ⟨left, right, rfl, _⟩ := List.lookup_eq_some_iff.mp h
  simp

theorem mem_iff_lookup {calls : Calls} (nodup : (calls.map (·.1)).Nodup) {id : Nat} {call : Call} :
    (id, call) ∈ calls ↔ calls.lookup id = some call := by
  induction calls with
  | nil => simp
  | cons entry calls ih =>
    obtain ⟨key, old⟩ := entry
    rw [List.map_cons, List.nodup_cons] at nodup
    have fresh : ∀ call, (key, call) ∉ calls := fun call member =>
      nodup.1 (List.mem_map.mpr ⟨_, member, rfl⟩)
    have tail := ih nodup.2
    rw [List.mem_cons, List.lookup_cons]
    by_cases same : id = key
    · subst same
      have absent := fresh call
      simp [absent, eq_comm]
    · have other : (id == key) = false := by simpa using same
      simp [same, other, tail]

end Calls

namespace Call

def isLifecycle : Call → Bool
  | connect _ _ | disconnect _ => true
  | _ => false

def isUnderway : Call → Bool
  | connect _ .waiting | disconnect .waiting => false
  | connect _ _ | disconnect _ => true
  | _ => false

end Call

def Progress.isSending : Progress → Bool
  | writing | written _ => true
  | awaiting _ => false

def Progress.isSent : Progress → Bool
  | written (.ok ()) | awaiting _ => true
  | _ => false

namespace Call

def isSending : Call → Bool
  | request _ _ (.registered _ _ _ progress) => progress.isSending
  | _ => false

def isSent : Call → Bool
  | request _ _ (.registered _ _ _ progress) => progress.isSent
  | _ => false

def wantsTurn : Call → Bool
  | request _ _ (.queueing _ _) => true
  | request _ _ (.registered _ _ _ progress) => progress.isSending
  | _ => false

def route? : Call → Option Nat
  | request _ _ (.queueing transport _) | request _ _ (.registered transport _ _ _) => some transport
  | _ => none

def seq? : Call → Option Nat
  | request _ _ (.queueing _ seq) | request _ _ (.registered _ seq _ _) => some seq
  | _ => none

def mail? : Call → Option Mail
  | request _ _ (.registered _ _ mail _) => some mail
  | _ => none

theorem isLifecycle_of_isUnderway {call : Call} (h : call.isUnderway = true) :
    call.isLifecycle = true := by
  cases call <;> simp_all [isUnderway, isLifecycle]

theorem wantsTurn_of_isSending {call : Call} (h : call.isSending = true) : call.wantsTurn = true := by
  cases call with
  | request frame timeout stage => cases stage <;> simp_all [isSending, wantsTurn]
  | _ => simp_all [isSending]

section HandMail

variable (call : Call) (mail : Mail) (chosen : Nat → Bool)

theorem handMail_cases : call.handMail mail chosen = call ∨
    ∃ frame timeout transport seq progress,
      call = .request frame timeout (.registered transport seq .empty progress) ∧ chosen seq = true ∧
      call.handMail mail chosen = .request frame timeout (.registered transport seq mail progress) := by
  unfold handMail
  split
  · rename_i frame timeout transport seq progress
    by_cases hit : chosen seq = true
    · exact .inr ⟨frame, timeout, transport, seq, progress, rfl, hit, by rw [if_pos hit]⟩
    · exact .inl (by rw [if_neg hit])
  · exact .inl rfl

theorem handMail_congr {α : Type} (part : Call → α)
    (blind : ∀ frame timeout transport seq progress mail mail',
      part (.request frame timeout (.registered transport seq mail progress)) =
        part (.request frame timeout (.registered transport seq mail' progress))) :
    part (call.handMail mail chosen) = part call := by
  rcases call.handMail_cases mail chosen with same | ⟨_, _, _, _, _, rfl, _, handed⟩
  · rw [same]
  · rw [handed]
    exact blind ..

@[simp] theorem isLifecycle_handMail : (call.handMail mail chosen).isLifecycle = call.isLifecycle :=
  call.handMail_congr mail chosen isLifecycle fun _ _ _ _ _ _ _ => rfl

@[simp] theorem isUnderway_handMail : (call.handMail mail chosen).isUnderway = call.isUnderway :=
  call.handMail_congr mail chosen isUnderway fun _ _ _ _ _ _ _ => rfl

@[simp] theorem isSending_handMail : (call.handMail mail chosen).isSending = call.isSending :=
  call.handMail_congr mail chosen isSending fun _ _ _ _ _ _ _ => rfl

@[simp] theorem isSent_handMail : (call.handMail mail chosen).isSent = call.isSent :=
  call.handMail_congr mail chosen isSent fun _ _ _ _ _ _ _ => rfl

@[simp] theorem wantsTurn_handMail : (call.handMail mail chosen).wantsTurn = call.wantsTurn :=
  call.handMail_congr mail chosen wantsTurn fun _ _ _ _ _ _ _ => rfl

@[simp] theorem route?_handMail : (call.handMail mail chosen).route? = call.route? :=
  call.handMail_congr mail chosen route? fun _ _ _ _ _ _ _ => rfl

@[simp] theorem seq?_handMail : (call.handMail mail chosen).seq? = call.seq? :=
  call.handMail_congr mail chosen seq? fun _ _ _ _ _ _ _ => rfl

end HandMail

end Call

end TagConsole.Session
