import FlowAI.Registry.Tasks

/-! # Task Events

  The lifecycle log of a task (`store/events.go`): `appendTaskEvent` appends an
  executor's event and projects the task state in one transaction,
  `listTaskEvents` reads the log back in the order of the stored tuples.

  The retry branch and the ordering check compare the nanosecond timestamp of
  the request with what the database kept, which has microseconds.
-/

namespace FlowAI.Registry

variable {req : TaskEventAppendRequest} {parsed : ParsedEvent} {identity : ExecutorIdentity}
  {db db' : Db} {task : TaskRow} {cfg : Config} {env : CallEnv}

/-! ## Section 1: Payloads -/

/-- `normalizeAppendedPayload`: nothing and `null` become the empty object.  Blanks
    between the letters of `null` do not matter to it, so such a text counts as
    `null` here. -/
def normalizeAppendedPayload : RawMessage → Except StoreError Json
  | .empty => .ok (.obj [])
  | .text .null => .ok (.obj [])
  | .text j => .ok j
  | .invalid => .error (.plain "payload is not valid JSON")

/-- `jsonEqual`: both texts decode, and to the same Go value. -/
def jsonEqual (left right : Json) : Bool :=
  left.unmarshals && right.unmarshals && left.goValue = right.goValue

/-- The column compares equal to the text it was written from exactly when the text
    decodes at all. -/
theorem jsonEqual_jsonb (j : Json) : jsonEqual j.jsonb j = j.unmarshals := by
  unfold jsonEqual
  rw [Json.goValue_jsonb]
  cases h : j.unmarshals with
  | false => simp
  | true => simp [Json.unmarshals_jsonb h]

/-! ## Section 2: The append request -/

/-- A request after the checks that precede the transaction. -/
structure ParsedEvent where
  eventType : TaskEventType
  /-- Nanoseconds. -/
  occurredAt : Int
  payload : Json

def parseTaskEvent (req : TaskEventAppendRequest) : Except StoreError ParsedEvent :=
  match allowedTaskEventType req.eventType with
  | none => .error (.plain ("event type " ++ req.eventType.quote ++
      " is not accepted on the task event surface"))
  | some eventType =>
    match Time.parseRFC3339Nano req.occurredAt with
    | none => .error (.wrapped "parse occurred_at" (.plain req.occurredAt))
    | some occurredAt =>
      match normalizeAppendedPayload req.payload with
      | .error e => .error e
      | .ok payload => .ok ⟨eventType, occurredAt, payload⟩

theorem parseTaskEvent_ok (h : parseTaskEvent req = .ok parsed) :
    allowedTaskEventType req.eventType = some parsed.eventType ∧
      Time.parseRFC3339Nano req.occurredAt = some parsed.occurredAt ∧
      normalizeAppendedPayload req.payload = .ok parsed.payload := by
  unfold parseTaskEvent at h
  cases htype : allowedTaskEventType req.eventType with
  | none => simp [htype] at h
  | some eventType =>
    cases htime : Time.parseRFC3339Nano req.occurredAt with
    | none => simp [htype, htime] at h
    | some occurredAt =>
      cases hpayload : normalizeAppendedPayload req.payload with
      | error e => simp [htype, htime, hpayload] at h
      | ok payload =>
        simp only [htype, htime, hpayload, Except.ok.injEq] at h
        subst h
        exact ⟨rfl, rfl, rfl⟩

/-- The event as the response carries it. -/
structure TaskEvent where
  eventID : String
  teamID : String
  taskID : String
  executorID : String
  eventType : TaskEventType
  occurredAt : String
  payload : Json
  deriving DecidableEq

/-- The same event: all fields agree and the payloads are the same JSON value. -/
def TaskEvent.Same (a b : TaskEvent) : Prop :=
  { a with payload := a.payload.jsonb } = { b with payload := b.payload.jsonb }

/-- The envelope names the executor's team or, for a system executor, the task's. -/
def envelopeTeam (executor : ExecutorRow) (task : TaskRow) : Option String :=
  match executor.scope with
  | .team => executor.teamID
  | .system => some task.teamID

/-- Lock executor and task, and check that the caller may write to the task's log. -/
def authorizeTaskEvent (req : TaskEventAppendRequest) (identity : ExecutorIdentity) :
    StoreTx TaskRow := do
  let db ← Tx.get
  let executor ← Tx.ofOption (db.executors.lookup identity.executorID) .executorNotFound
  Tx.ensure (identity.scope = executor.scope) .executorNotFound
  Tx.ensure (executor.scope = .team →
    executor.teamID.isSome ∧ identity.teamID = executor.teamID) .executorNotFound
  let task ← Tx.ofOption (db.tasks.lookup req.taskID) .eventNotFound
  Tx.ensure (executor.scope = .team → executor.teamID = some task.teamID) .eventNotFound
  Tx.ensure (some req.teamID = envelopeTeam executor task) .eventTeamMismatch
  Tx.ensure (task.executorID = some identity.executorID) .notAssigned
  return task

/-- What `authorizeTaskEvent` establishes about the caller and the task. -/
structure MayAppend (db : Db) (req : TaskEventAppendRequest) (identity : ExecutorIdentity)
    (task : TaskRow) : Prop where
  found : db.tasks.lookup req.taskID = some task
  assigned : task.executorID = some identity.executorID
  envelope : req.teamID = task.teamID
  executor : ∃ executor, db.executors.lookup identity.executorID = some executor ∧
    identity.scope = executor.scope ∧
    (executor.scope = .team →
      executor.teamID = some task.teamID ∧ identity.teamID = executor.teamID)

theorem authorizeTaskEvent_eq_ok :
    authorizeTaskEvent req identity db = .ok (task, db') ↔
      MayAppend db req identity task ∧ db = db' := by
  simp only [authorizeTaskEvent, Tx.bind_eq_ok, Tx.exists_get, Tx.exists_ofOption,
    Tx.exists_ensure, Tx.pure_eq_ok]
  constructor
  · rintro ⟨executor, he, hscope, hteam, task, ht, hvis, henv, ha, rfl, rfl⟩
    refine ⟨⟨ht, ha, ?_, executor, he, hscope, fun hs => ⟨hvis hs, (hteam hs).2⟩⟩, rfl⟩
    cases hs : executor.scope with
    | team =>
      simp only [envelopeTeam, hs] at henv
      rw [hvis hs] at henv
      exact Option.some.inj henv
    | system =>
      simp only [envelopeTeam, hs] at henv
      exact Option.some.inj henv
  · rintro ⟨⟨ht, ha, henv, executor, he, hscope, hteam⟩, rfl⟩
    refine ⟨executor, he, hscope, fun hs => ⟨by rw [(hteam hs).1]; rfl, (hteam hs).2⟩, task, ht,
      fun hs => (hteam hs).1, ?_, ha, rfl, rfl⟩
    unfold envelopeTeam
    cases hs : executor.scope with
    | team => exact (congrArg some henv).trans (hteam hs).1.symm
    | system => exact congrArg some henv

/-! ## Section 3: Retry, lifecycle and order -/

/-- The stored row is the request again: same type, same instant, same payload. -/
def TaskEventRow.retries (existing : TaskEventRow) (parsed : ParsedEvent) : Bool :=
  existing.eventType = parsed.eventType && Time.ofMicros existing.occurredAt = parsed.occurredAt &&
    jsonEqual existing.payload parsed.payload

/-- The response of an accepted event, fresh or retried. -/
def taskEventResponse (req : TaskEventAppendRequest) (identity : ExecutorIdentity) (task : TaskRow)
    (eventType : TaskEventType) (occurredAt : Int) (payload : Json) : TaskEvent where
  eventID := req.eventID
  teamID := task.teamID
  taskID := req.taskID
  executorID := identity.executorID
  eventType := eventType
  occurredAt := Time.formatRFC3339Nano occurredAt
  payload := payload

/-- `running` follows `created`; `finished` and `failed` follow `running`. -/
def validTaskTransition (state : TaskState) : TaskEventType → Bool
  | .running => state = .created
  | .finished => state = .running
  | .failed => state = .running
  | .created => true

/-- The stored ordering tuple of an event. -/
def TaskEventRow.tuple (r : TaskEventRow) : Lex (Int × String) := toLex (r.occurredAt, r.eventID)

/-- `… ORDER BY occurred_at DESC, event_id DESC LIMIT 1`. -/
def latestTaskEvent (db : Db) (taskID : String) : Option TaskEventRow :=
  ((db.taskEvents.rows.filter (fun r => r.taskID = taskID)).insertionSort
    (fun a b => b.tuple ≤ a.tuple)).head?

/-- The strict ordering check against the latest accepted event: its stored
    microseconds are compared with the nanoseconds of the request. -/
def strictlyAfter (latest : TaskEventRow) (occurredAt : Int) (eventID : String) : Bool :=
  Time.ofMicros latest.occurredAt < occurredAt ||
    (Time.ofMicros latest.occurredAt = occurredAt && latest.eventID < eventID)

/-- The row a fresh event writes. -/
def taskEventRow (req : TaskEventAppendRequest) (identity : ExecutorIdentity) (task : TaskRow)
    (parsed : ParsedEvent) : TaskEventRow where
  eventID := req.eventID
  teamID := task.teamID
  taskID := req.taskID
  executorID := identity.executorID
  eventType := parsed.eventType
  occurredAt := Time.toMicros parsed.occurredAt
  payload := parsed.payload.jsonb

/-- The audit row of a fresh event. -/
def taskEventAudit (env : CallEnv) (req : TaskEventAppendRequest) (identity : ExecutorIdentity)
    (task : TaskRow) : AuditRow where
  auditID := env.uuid 0
  teamID := some task.teamID
  actorID := identity.executorID
  actorType := .executor
  action := "task.event." ++ req.eventType
  resourceType := "task_event"
  resourceID := req.eventID
  requestID := identity.requestID
  outcome := .accepted
  executorScope := some identity.scope

/-- The projection of an accepted event onto its task. -/
def TaskRow.project (eventType : TaskEventType) (t : TaskRow) : TaskRow :=
  { t with currentState := eventType.state }

/-- The context of a failed projection. -/
def projectContext : TaskEventType → String
  | .running => "project task running state"
  | _ => "project task terminal state"

/-! ## Section 4: `AppendTaskEvent` -/

/-- The order check of a fresh event.  Without an earlier event only the first
    `running` of a created task could pass. -/
def ensureOrder (req : TaskEventAppendRequest) (parsed : ParsedEvent) (task : TaskRow) :
    StoreTx Unit := do
  let db ← Tx.get
  match latestTaskEvent db req.taskID with
  | some latest => Tx.ensure (strictlyAfter latest parsed.occurredAt req.eventID) .eventConflict
  | none =>
    Tx.ensure (task.currentState = .created ∧ parsed.eventType = .running) .invalidTaskTransition

theorem ensureOrder_ok {u : Unit} (h : ensureOrder req parsed task db = .ok (u, db')) :
    (∀ latest ∈ latestTaskEvent db req.taskID,
      strictlyAfter latest parsed.occurredAt req.eventID = true) ∧ db = db' := by
  simp only [ensureOrder, Tx.bind_eq_ok, Tx.exists_get] at h
  cases hl : latestTaskEvent db req.taskID with
  | some latest =>
    simp only [hl, Tx.ensure_eq_ok] at h
    exact ⟨fun l hl' => Option.mem_some.mp hl' ▸ h.1, h.2⟩
  | none =>
    simp only [hl, Tx.ensure_eq_ok] at h
    exact ⟨by simp, h.2⟩

/-- Order and insertion of an event that is not a retry. -/
def appendFresh (cfg : Config) (env : CallEnv) (req : TaskEventAppendRequest)
    (identity : ExecutorIdentity) (parsed : ParsedEvent) (task : TaskRow) : StoreTx TaskEvent := do
  Tx.ensure (validTaskTransition task.currentState parsed.eventType) .invalidTaskTransition
  ensureOrder req parsed task
  require (wrap "append task event") .check (cfg.jsonbAdmits parsed.payload)
  insertTaskEvent (wrap "append task event") (taskEventRow req identity task parsed)
  updateTask (wrap (projectContext parsed.eventType)) req.taskID (TaskRow.project parsed.eventType)
    (fun _ => rfl)
  insertAudit "append task event audit" (taskEventAudit env req identity task)
  return taskEventResponse req identity task parsed.eventType parsed.occurredAt parsed.payload

/-- The part of `appendFresh` that only reads. -/
def freshChecks (cfg : Config) (req : TaskEventAppendRequest) (parsed : ParsedEvent)
    (task : TaskRow) : StoreTx Unit := do
  Tx.ensure (validTaskTransition task.currentState parsed.eventType) .invalidTaskTransition
  ensureOrder req parsed task
  require (wrap "append task event") .check (cfg.jsonbAdmits parsed.payload)

/-- The part of `appendFresh` that writes. -/
def freshWrite (env : CallEnv) (req : TaskEventAppendRequest) (identity : ExecutorIdentity)
    (parsed : ParsedEvent) (task : TaskRow) : StoreTx TaskEvent := do
  insertTaskEvent (wrap "append task event") (taskEventRow req identity task parsed)
  updateTask (wrap (projectContext parsed.eventType)) req.taskID (TaskRow.project parsed.eventType)
    (fun _ => rfl)
  insertAudit "append task event audit" (taskEventAudit env req identity task)
  return taskEventResponse req identity task parsed.eventType parsed.occurredAt parsed.payload

/-- `SELECT … FROM task_events WHERE task_id = $1 AND event_id = $2`. -/
def findTaskEvent (db : Db) (taskID eventID : String) : Option TaskEventRow :=
  (db.taskEvents.lookup eventID).filter (fun r => r.taskID = taskID)

theorem findTaskEvent_eq_some {taskID eventID : String} {r : TaskEventRow} :
    findTaskEvent db taskID eventID = some r ↔
      db.taskEvents.lookup eventID = some r ∧ r.taskID = taskID := by
  simp [findTaskEvent, Option.filter_eq_some_iff]

def appendTaskEvent (cfg : Config) (env : CallEnv) (req : TaskEventAppendRequest)
    (identity : ExecutorIdentity) : StoreTx TaskEvent := do
  let parsed ← Tx.ofExcept (parseTaskEvent req)
  let task ← authorizeTaskEvent req identity
  let db ← Tx.get
  match findTaskEvent db req.taskID req.eventID with
  | some existing =>
    Tx.ensure (existing.retries parsed) .eventConflict
    return taskEventResponse req identity task existing.eventType
      (Time.ofMicros existing.occurredAt) existing.payload
  | none => appendFresh cfg env req identity parsed task

/-- What a fresh append required and wrote. -/
structure FreshAppend (env : CallEnv) (req : TaskEventAppendRequest)
    (identity : ExecutorIdentity) (parsed : ParsedEvent) (task : TaskRow) (db db' : Db) :
    Prop where
  transition : validTaskTransition task.currentState parsed.eventType = true
  ordered : ∀ latest ∈ latestTaskEvent db req.taskID,
    strictlyAfter latest parsed.occurredAt req.eventID = true
  effect : ∃ taskEvents tasks auditEntries,
    db.taskEvents.insert (taskEventRow req identity task parsed) = .ok taskEvents ∧
    db.tasks.update req.taskID (TaskRow.project parsed.eventType) (fun _ => rfl) = .ok tasks ∧
    db.auditEntries.insert (taskEventAudit env req identity task) = .ok auditEntries ∧
    db' = { db with taskEvents, tasks, auditEntries }

theorem appendFresh_ok {event : TaskEvent}
    (h : appendFresh cfg env req identity parsed task db = .ok (event, db')) :
    FreshAppend env req identity parsed task db db' ∧
      event = taskEventResponse req identity task parsed.eventType parsed.occurredAt
        parsed.payload := by
  simp only [appendFresh, Tx.bind_eq_ok, Tx.exists_ensure, exists_require, Tx.pure_eq_ok] at h
  obtain ⟨htr, _, _, hord, -, _, _, hins, _, _, hupd, _, _, haud, rfl, rfl⟩ := h
  obtain ⟨hlast, rfl⟩ := ensureOrder_ok hord
  obtain ⟨-, -, -, events, he, rfl⟩ := insertTaskEvent_eq_ok.mp hins
  obtain ⟨-, tasks, ht, rfl⟩ := updateTask_eq_ok.mp hupd
  obtain ⟨audit, ha, -, rfl⟩ := insertAudit_eq_ok.mp haud
  exact ⟨⟨htr, hlast, events, tasks, audit, he, ht, ha, rfl⟩, rfl⟩

/-- The inversion of an accepted append: an identical retry that changes nothing, or
    a fresh event. -/
theorem appendTaskEvent_ok {event : TaskEvent}
    (h : appendTaskEvent cfg env req identity db = .ok (event, db')) :
    ∃ parsed task, parseTaskEvent req = .ok parsed ∧ MayAppend db req identity task ∧
      ((∃ existing, findTaskEvent db req.taskID req.eventID = some existing ∧
          existing.retries parsed = true ∧
          event = taskEventResponse req identity task existing.eventType
            (Time.ofMicros existing.occurredAt) existing.payload ∧ db' = db) ∨
        (findTaskEvent db req.taskID req.eventID = none ∧
          event = taskEventResponse req identity task parsed.eventType parsed.occurredAt
            parsed.payload ∧
          FreshAppend env req identity parsed task db db')) := by
  simp only [appendTaskEvent, Tx.bind_eq_ok, Tx.exists_ofExcept, authorizeTaskEvent_eq_ok,
    Tx.exists_get] at h
  obtain ⟨parsed, hp, task, _, ⟨hm, rfl⟩, h⟩ := h
  refine ⟨parsed, task, hp, hm, ?_⟩
  cases hf : findTaskEvent db req.taskID req.eventID with
  | some existing =>
    simp only [hf, Tx.bind_eq_ok, Tx.exists_ensure, Tx.pure_eq_ok] at h
    obtain ⟨hr, rfl, rfl⟩ := h
    exact .inl ⟨existing, rfl, hr, rfl, rfl⟩
  | none =>
    simp only [hf] at h
    obtain ⟨hfresh, rfl⟩ := appendFresh_ok h
    exact .inr ⟨rfl, rfl, hfresh⟩

/-- The retry branch run forward: with the event already stored the call either
    returns the stored event or reports a conflict, and writes nothing. -/
theorem appendTaskEvent_of_found {existing : TaskEventRow} (hp : parseTaskEvent req = .ok parsed)
    (hm : MayAppend db req identity task)
    (hf : findTaskEvent db req.taskID req.eventID = some existing) :
    appendTaskEvent cfg env req identity db =
      if existing.retries parsed then
        .ok (taskEventResponse req identity task existing.eventType
          (Time.ofMicros existing.occurredAt) existing.payload, db)
      else .error .eventConflict := by
  unfold appendTaskEvent
  rw [Tx.bind_of_ok (Tx.ofExcept_eq_ok.mpr ⟨hp, rfl⟩),
    Tx.bind_of_ok (authorizeTaskEvent_eq_ok.mpr ⟨hm, rfl⟩), Tx.get_bind]
  simp only [hf]
  by_cases hr : existing.retries parsed = true
  · rw [if_pos hr, Tx.bind_of_ok (a := ()) (Tx.ensure_eq_ok.mpr ⟨hr, rfl⟩)]
    rfl
  · rw [if_neg hr, Tx.bind_of_error]
    simp [Tx.ensure, hr, Tx.fail]

/-! ## Section 5: `ListTaskEvents` -/

/-- A stored event as a listing carries it. -/
def TaskEventRow.listed (r : TaskEventRow) : TaskEvent where
  eventID := r.eventID
  teamID := r.teamID
  taskID := r.taskID
  executorID := r.executorID
  eventType := r.eventType
  occurredAt := formatIngestedAt r.occurredAt
  payload := r.payload

/-- One task's events in the order of the stored tuples. -/
def listTaskEvents (db : Db) (teamID taskID : String) : Except StoreError (List TaskEvent) :=
  if (db.tasks.lookup taskID).any (fun t => t.teamID = teamID) then
    .ok (((db.taskEvents.rows.filter (fun r => r.teamID = teamID && r.taskID = taskID)).insertionSort
      (fun a b => a.tuple ≤ b.tuple)).map TaskEventRow.listed)
  else .error .taskNotFound

end FlowAI.Registry
