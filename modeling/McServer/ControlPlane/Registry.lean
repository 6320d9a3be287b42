import Mathlib.Logic.Function.Basic
import McServer.Domain.Instance

set_option autoImplicit false

namespace McServer.ControlPlane

open Domain

structure AgentHandle (Sender : Type) where
  sessionId : Uuid
  sender : Sender

structure AgentRegistry (Sender : Type) where
  sessions : ComputeInstanceId → Option (AgentHandle Sender)

namespace AgentRegistry

variable {Sender : Type}

def empty : AgentRegistry Sender := { sessions := fun _ => none }

section Calls

variable (registry : AgentRegistry Sender) (compute : ComputeInstanceId)

def register (sessionId : Uuid) (sender : Sender) : AgentRegistry Sender :=
  { sessions := Function.update registry.sessions compute (some { sessionId, sender }) }

def unregister (sessionId : Uuid) : AgentRegistry Sender :=
  if (registry.sessions compute).any fun handle => handle.sessionId = sessionId then
    { sessions := Function.update registry.sessions compute none }
  else registry

def isConnected : Bool := (registry.sessions compute).isSome

end Calls

inductive Call (Sender : Type) where
  | register (compute : ComputeInstanceId) (sessionId : Uuid) (sender : Sender)
  | unregister (compute : ComputeInstanceId) (sessionId : Uuid)

namespace Call

def compute : Call Sender → ComputeInstanceId
  | .register compute _ _ => compute
  | .unregister compute _ => compute

def begins : Call Sender → Option Uuid
  | .register _ sessionId _ => some sessionId
  | .unregister _ _ => none

def ends : Call Sender → Option Uuid
  | .register _ _ _ => none
  | .unregister _ sessionId => some sessionId

def apply (registry : AgentRegistry Sender) : Call Sender → AgentRegistry Sender
  | .register compute sessionId sender => registry.register compute sessionId sender
  | .unregister compute sessionId => registry.unregister compute sessionId

end Call

def run (calls : List (Call Sender)) : AgentRegistry Sender := calls.foldl Call.apply empty

theorem run_append (calls : List (Call Sender)) (call : Call Sender) :
    run (calls ++ [call]) = call.apply (run calls) := by
  simp [run]

structure Disciplined (calls : List (Call Sender)) : Prop where
  unique : (calls.filterMap Call.begins).Nodup
  once : (calls.filterMap Call.ends).Nodup
  begun : ∀ earlier compute sessionId later, calls = earlier ++ .unregister compute sessionId :: later →
    ∃ sender, .register compute sessionId sender ∈ earlier

def Current (calls : List (Call Sender)) (compute : ComputeInstanceId) (handle : AgentHandle Sender) : Prop :=
  ∃ earlier later, calls = earlier ++ .register compute handle.sessionId handle.sender :: later ∧
    (∀ sessionId sender, .register compute sessionId sender ∉ later) ∧
    .unregister compute handle.sessionId ∉ later

def Superseded (calls : List (Call Sender)) (compute : ComputeInstanceId) (sessionId : Uuid) : Prop :=
  ∃ earlier sender later, calls = earlier ++ .register compute sessionId sender :: later ∧
    ∃ newer other, .register compute newer other ∈ later

section Newest

variable {calls : List (Call Sender)} {call : Call Sender} {compute : ComputeInstanceId}
  {handle : AgentHandle Sender}

theorem current_append :
    Current (calls ++ [call]) compute handle ↔
      call = .register compute handle.sessionId handle.sender ∨
        Current calls compute handle ∧ (∀ sessionId sender, call ≠ .register compute sessionId sender) ∧
          call ≠ .unregister compute handle.sessionId := by
  constructor
  · rintro ⟨earlier, later, whole, newest, lasting⟩
    rcases List.eq_nil_or_concat later with rfl | ⟨between, last, rfl⟩
    · have ends := List.append_inj_right' whole rfl
      exact .inl (by simpa using ends)
    · rw [List.concat_eq_append] at whole newest lasting
      rw [← List.cons_append, ← List.append_assoc] at whole
      obtain ⟨front, back⟩ := List.append_inj' whole rfl
      obtain rfl : call = last := by simpa using back
      refine .inr ⟨⟨earlier, between, front, ?_, ?_⟩, ?_, ?_⟩
      · exact fun sessionId sender member => newest sessionId sender (by simp [member])
      · exact fun member => lasting (by simp [member])
      · rintro sessionId sender rfl
        exact newest sessionId sender (by simp)
      · rintro rfl
        exact lasting (by simp)
  · rintro (rfl | ⟨⟨earlier, later, rfl, newest, lasting⟩, unlike, remains⟩)
    · exact ⟨calls, [], rfl, by simp, by simp⟩
    · refine ⟨earlier, later ++ [call], by simp, ?_, ?_⟩
      · intro sessionId sender member
        rcases List.mem_append.mp member with before | last
        · exact newest sessionId sender before
        · exact unlike sessionId sender (List.mem_singleton.mp last).symm
      · intro member
        rcases List.mem_append.mp member with before | last
        · exact lasting before
        · exact remains (List.mem_singleton.mp last).symm

theorem apply_other {registry : AgentRegistry Sender} {other : ComputeInstanceId}
    (apart : other ≠ call.compute) : (call.apply registry).sessions other = registry.sessions other := by
  cases call with
  | register compute sessionId sender => exact Function.update_of_ne apart _ _
  | unregister compute sessionId =>
    change (registry.unregister compute sessionId).sessions other = _
    unfold unregister
    split_ifs
    · exact Function.update_of_ne apart _ _
    · rfl

theorem unregister_same {registry : AgentRegistry Sender} {sessionId : Uuid} :
    (registry.unregister compute sessionId).sessions compute = some handle ↔
      registry.sessions compute = some handle ∧ handle.sessionId ≠ sessionId := by
  unfold unregister
  cases found : registry.sessions compute with
  | none => simp [found]
  | some current =>
    by_cases same : current.sessionId = sessionId
    · simp only [same, Option.any_some, decide_true, if_true, Function.update_self]
      constructor
      · intro absurdity
        cases absurdity
      · rintro ⟨⟨rfl⟩, differs⟩
        exact absurd same differs
    · simp only [same, Option.any_some, decide_false, Bool.false_eq_true, if_false, found]
      constructor
      · rintro ⟨rfl⟩
        exact ⟨rfl, same⟩
      · exact And.left

theorem run_current (calls : List (Call Sender)) (compute : ComputeInstanceId)
    (handle : AgentHandle Sender) :
    (run calls).sessions compute = some handle ↔ Current calls compute handle := by
  induction calls using List.reverseRecOn with
  | nil =>
    constructor
    · intro absurdity
      cases absurdity
    · rintro ⟨earlier, later, whole, _⟩
      simp at whole
  | append_singleton calls call ih =>
    rw [run_append, current_append, ← ih]
    by_cases same : compute = call.compute
    · cases call with
      | register target sessionId sender =>
        obtain rfl : compute = target := same
        obtain ⟨current, channel⟩ := handle
        simp [Call.apply, register, eq_comm]
      | unregister target sessionId =>
        obtain rfl : compute = target := same
        rw [Call.apply, unregister_same]
        simp [eq_comm]
    · rw [apply_other same]
      have unlike : ∀ sessionId sender, call ≠ .register compute sessionId sender := by
        rintro sessionId sender rfl
        exact same rfl
      have remains : call ≠ .unregister compute handle.sessionId := by
        rintro rfl
        exact same rfl
      simp [unlike, remains]

theorem begins_once {earlier later : List (Call Sender)} {sessionId : Uuid} {sender : Sender}
    (unique : ((earlier ++ .register compute sessionId sender :: later).filterMap Call.begins).Nodup)
    (target : ComputeInstanceId) (other : Sender) : .register target sessionId other ∉ later := by
  intro member
  have begun : (Call.register compute sessionId sender :: later).filterMap Call.begins =
    sessionId :: later.filterMap Call.begins := rfl
  rw [List.filterMap_append, begun] at unique
  have apart := (List.nodup_cons.mp (List.nodup_append.mp unique).2.1).1
  exact apart (List.mem_filterMap.mpr ⟨_, member, rfl⟩)

theorem not_current_of_superseded {sessionId : Uuid}
    (unique : (calls.filterMap Call.begins).Nodup) (superseded : Superseded calls compute sessionId)
    (same : handle.sessionId = sessionId) : ¬Current calls compute handle := by
  subst same
  rintro ⟨earlier, later, whole, newest, _⟩
  obtain ⟨before, sender, after, again, newer, other, member⟩ := superseded
  rw [again] at unique
  -- The session begins once, so both splittings are the same.
  rcases List.append_eq_append_iff.mp (whole.symm.trans again) with
    ⟨between, _, rest⟩ | ⟨between, _, rest⟩
  · cases between with
    | nil =>
      obtain ⟨_, rfl⟩ := List.cons.inj rest
      exact newest newer other member
    | cons call between =>
      obtain ⟨_, rfl⟩ := List.cons.inj rest
      exact newest handle.sessionId sender (by simp)
  · cases between with
    | nil =>
      obtain ⟨_, rfl⟩ := List.cons.inj rest
      exact newest newer other member
    | cons call between =>
      obtain ⟨_, rfl⟩ := List.cons.inj rest
      exact begins_once unique compute handle.sender (by simp)

theorem unregister_absent {registry : AgentRegistry Sender} {sessionId : Uuid}
    (absent : ∀ handle, handle.sessionId = sessionId → registry.sessions compute ≠ some handle) :
    registry.unregister compute sessionId = registry := by
  unfold unregister
  cases found : registry.sessions compute with
  | none => rfl
  | some current =>
    have differs : current.sessionId ≠ sessionId := fun same => absent current same found
    simp [differs]

theorem Disciplined.until {done : List (Call Sender)} (disciplined : Disciplined calls)
    (first : done <+: calls) : Disciplined done := by
  obtain ⟨later, rfl⟩ := first
  have begins := disciplined.unique
  have ends := disciplined.once
  rw [List.filterMap_append] at begins ends
  refine ⟨(List.nodup_append.mp begins).1, (List.nodup_append.mp ends).1, ?_⟩
  rintro earlier compute sessionId between rfl
  exact disciplined.begun earlier compute sessionId (between ++ later) (by simp)

end Newest

theorem newest_session_wins (calls : List (Call Sender)) (disciplined : Disciplined calls) :
    (∀ done, done <+: calls → ∀ compute handle,
      (run done).sessions compute = some handle ↔ Current done compute handle) ∧
    (∀ done compute sessionId, done ++ [.unregister compute sessionId] <+: calls →
      Superseded done compute sessionId → run (done ++ [.unregister compute sessionId]) = run done) ∧
    (∀ done call, done ++ [call] <+: calls → ∀ other, other ≠ call.compute →
      (run (done ++ [call])).sessions other = (run done).sessions other) := by
  refine ⟨fun done _ compute handle => run_current done compute handle, ?_, ?_⟩
  · intro done compute sessionId first superseded
    have unique := (disciplined.until ((List.prefix_append done _).trans first)).unique
    rw [run_append]
    refine unregister_absent fun handle same registered => ?_
    exact not_current_of_superseded unique superseded same ((run_current done compute handle).mp registered)
  · intro done call _ other apart
    rw [run_append]
    exact apply_other apart

theorem newest_session_wins_after_reconnect :
    (run [.register ⟨1⟩ 10 (), .register ⟨1⟩ 11 (), .register ⟨2⟩ 12 (), .unregister ⟨1⟩ 10]).sessions ⟨1⟩ =
      some ⟨11, ()⟩ := by
  have disciplined : Disciplined (([.register ⟨1⟩ 10 (), .register ⟨1⟩ 11 (), .register ⟨2⟩ 12 (),
      .unregister ⟨1⟩ 10] : List (Call Unit))) := by
    refine ⟨by decide, by decide, ?_⟩
    intro earlier compute sessionId later whole
    rcases earlier with _ | ⟨first, _ | ⟨second, _ | ⟨third, rest⟩⟩⟩
    · simp at whole
    · simp at whole
    · simp at whole
    · cases rest with
      | nil =>
        simp only [List.cons_append, List.nil_append, List.cons.injEq, Call.unregister.injEq] at whole
        obtain ⟨rfl, rfl, rfl, ⟨rfl, rfl⟩, _⟩ := whole
        exact ⟨(), by simp⟩
      | cons fourth rest => simp at whole
  refine ((newest_session_wins _ disciplined).1 _ (List.prefix_refl _) _ _).mpr ?_
  exact ⟨[.register ⟨1⟩ 10 ()], _, rfl, by simp, by simp⟩

end AgentRegistry

end McServer.ControlPlane
