import FlowAI.Registry.Operations

/-! # The Kubernetes Executor: Records

  The recovery cache of the executor (`cache/cache.go`), the Pods it owns, and the
  identifiers it derives (`v0002.go`).  Of an assignment record the model keeps what a
  restart reads: the command, the Pod reference, the conversation and the state.
-/

namespace FlowAI.K8s

open Registry (TaskEventAppendRequest)

/-! ## Section 1: The recovery cache -/

inductive AssignmentState where
  | claiming | claimed | running | finished | failed
  deriving DecidableEq, Repr

/-- A record of the `assignments` bucket. -/
structure AssignmentRecord where
  taskID : String
  teamID : String
  ownerCommandID : String
  /-- `pod name@uid`, or empty. -/
  runtimeRef : String
  conversationID : String
  state : AssignmentState
  deriving DecidableEq

/-- The record still stands for work: neither finished nor failed. -/
def AssignmentRecord.live (r : AssignmentRecord) : Bool := r.state ≠ .finished && r.state ≠ .failed

/-- A record of the `event_outbox` bucket. -/
structure EventOutboxRecord where
  event : TaskEventAppendRequest
  accepted : Bool
  deriving DecidableEq

/-- The buckets of the cache that change; the third one holds the executor's identity. -/
structure Cache where
  assignments : StrMap AssignmentRecord
  eventOutbox : StrMap EventOutboxRecord

namespace Cache

def empty : Cache := ⟨.empty, .empty⟩

def putAssignment (c : Cache) (r : AssignmentRecord) : Cache :=
  { c with assignments := c.assignments.insert r.taskID r }

def deleteAssignment (c : Cache) (taskID : String) : Cache :=
  { c with assignments := c.assignments.erase taskID }

/-- `ListAssignments`, in key order. -/
def listAssignments (c : Cache) : List AssignmentRecord := c.assignments.entries.map Prod.snd

/-- `PutOutbox` of a pending event. -/
def putOutbox (c : Cache) (event : TaskEventAppendRequest) : Cache :=
  { c with eventOutbox := c.eventOutbox.insert event.eventID ⟨event, false⟩ }

/-- `UpdateOutboxState(eventID, "accepted")` of a record that is there. -/
def acceptOutbox (c : Cache) (eventID : String) : Cache :=
  match c.eventOutbox.lookup eventID with
  | some r => { c with eventOutbox := c.eventOutbox.insert eventID { r with accepted := true } }
  | none => c

/-- `PendingOutbox`, in key order. -/
def pendingOutbox (c : Cache) : List TaskEventAppendRequest :=
  (c.eventOutbox.entries.filter (fun e => !e.2.accepted)).map (·.2.event)

@[simp] theorem assignments_acceptOutbox (c : Cache) (eventID : String) :
    (c.acceptOutbox eventID).assignments = c.assignments := by
  unfold acceptOutbox
  split <;> rfl

theorem lookup_putAssignment (c : Cache) (r : AssignmentRecord) (taskID : String) :
    (c.putAssignment r).assignments.lookup taskID =
      if r.taskID = taskID then some r else c.assignments.lookup taskID :=
  StrMap.lookup_insert

theorem lookup_deleteAssignment (c : Cache) (id taskID : String) :
    (c.deleteAssignment id).assignments.lookup taskID =
      if taskID = id then none else c.assignments.lookup taskID :=
  StrMap.lookup_erase

theorem lookup_putOutbox (c : Cache) (event : TaskEventAppendRequest) (eventID : String) :
    (c.putOutbox event).eventOutbox.lookup eventID =
      if event.eventID = eventID then some ⟨event, false⟩ else c.eventOutbox.lookup eventID :=
  StrMap.lookup_insert

/-- Accepting a record changes its state and nothing else. -/
theorem lookup_acceptOutbox (c : Cache) (id eventID : String) :
    (c.acceptOutbox id).eventOutbox.lookup eventID =
      if id = eventID then (c.eventOutbox.lookup eventID).map (fun r => { r with accepted := true })
      else c.eventOutbox.lookup eventID := by
  unfold acceptOutbox
  cases h : c.eventOutbox.lookup id with
  | none | some r =>
    by_cases hid : id = eventID
    · subst hid
      simp [h]
    · simp [hid]

theorem mem_listAssignments {c : Cache} {r : AssignmentRecord} :
    r ∈ c.listAssignments ↔ ∃ taskID, c.assignments.lookup taskID = some r := by
  unfold listAssignments
  rw [List.mem_map]
  constructor
  · intro h
    obtain ⟨⟨taskID, r'⟩, hmem, rfl⟩ := h
    exact ⟨taskID, StrMap.lookup_eq_some_iff.mpr hmem⟩
  · intro h
    obtain ⟨taskID, hlook⟩ := h
    exact ⟨(taskID, r), StrMap.lookup_eq_some_iff.mp hlook, rfl⟩

theorem mem_pendingOutbox {c : Cache} {event : TaskEventAppendRequest} :
    event ∈ c.pendingOutbox ↔ ∃ eventID, c.eventOutbox.lookup eventID = some ⟨event, false⟩ := by
  unfold pendingOutbox
  simp only [List.mem_map, List.mem_filter, Bool.not_eq_true']
  constructor
  · intro h
    obtain ⟨⟨eventID, event', accepted⟩, ⟨hmem, hpending⟩, rfl⟩ := h
    simp only at hpending
    subst hpending
    exact ⟨eventID, StrMap.lookup_eq_some_iff.mpr hmem⟩
  · intro h
    obtain ⟨eventID, hlook⟩ := h
    exact ⟨(eventID, ⟨event, false⟩), ⟨StrMap.lookup_eq_some_iff.mp hlook, rfl⟩, rfl⟩

end Cache

/-! ## Section 2: Identifiers -/

/-- `commandIDForStable`: twelve hexadecimal digits that depend on the low half of the byte. -/
def commandIDForStable (seed : Nat) : String :=
  String.ofList ("cmd-".toList ++ (List.range 12).map (fun i =>
    "0123456789abcdef".toList.getD ((seed + i * 13) % 16) '0'))

/-- `shortID`: the first eight letters of the task identifier without dashes. -/
def shortID (taskID : String) : String :=
  String.ofList ((taskID.toList.filter (fun c => c ≠ '-' && c ≠ '_')).take 8)

def podName (taskID : String) : String := "oh-" ++ shortID taskID

/-- `podName + "@" + ref.UID`. -/
def runtimeRef (taskID uid : String) : String := podName taskID ++ "@" ++ uid

/-- The name and the UID in a cached reference: `strings.SplitN(ref, "@", 2)`, both not empty. -/
def podReference (ref : String) : Option (String × String) :=
  match ref.toList.dropWhile (· ≠ '@') with
  | [] => none
  | _ :: uid =>
    if ref.toList.takeWhile (· ≠ '@') = [] ∨ uid = [] then none
    else some (String.ofList (ref.toList.takeWhile (· ≠ '@')), String.ofList uid)

@[simp] theorem podReference_empty : podReference "" = none := by decide

end FlowAI.K8s
