import FlowAI.Registry.Tasks

/-! # Task Controls

  An operator asks for a task to be cancelled or interrupted
  (`CreateTaskControl`, `store/controls.go`); the assigned executor reports how
  far it got (`AppendTaskControlEvent`, `store/control_events.go`).  The request
  row projects the status of its event log.
-/

namespace FlowAI.Registry

/-! ## Section 1: `CreateTaskControl` -/

/-- The request that holds the idempotency tuple of a call. -/
def findTaskControl (db : Db) (identity : GatewayIdentity) (taskID : String)
    (req : CreateTaskControlRequest) : Option ControlRow :=
  db.controls.rows.find? (fun c =>
    c.teamID = identity.teamID && c.taskID = taskID && c.operatorID = identity.operatorID &&
      c.action = req.action && c.idempotencyKey = req.idempotencyKey)

/-- The row of a new request. -/
def controlRow (env : CallEnv) (identity : GatewayIdentity) (taskID : String)
    (req : CreateTaskControlRequest) : ControlRow where
  controlID := env.uuid 0
  teamID := identity.teamID
  taskID := taskID
  operatorID := identity.operatorID
  action := req.action
  idempotencyKey := req.idempotencyKey
  reason := req.reason
  status := .pending
  auditID := some (env.uuid 1)
  requestedAt := env.txTime

/-- The audit row of a new request. -/
def controlAudit (env : CallEnv) (identity : GatewayIdentity) (req : CreateTaskControlRequest) :
    AuditRow where
  auditID := env.uuid 1
  teamID := some identity.teamID
  actorID := identity.operatorID
  actorType := .operator
  action := "task.control." ++ req.action.text
  resourceType := "task_control_request"
  resourceID := env.uuid 0
  requestID := identity.requestID
  outcome := .accepted
  executorScope := none

/-- The event that opens the log of a request. -/
def requestedEventRow (env : CallEnv) (control : ControlRow) : ControlEventRow where
  controlEventID := env.uuid 2
  controlID := control.controlID
  taskID := control.taskID
  teamID := control.teamID
  executorID := none
  status := .pending
  occurredAt := control.requestedAt
  payload := Json.jsonb (.obj [("action", .str control.action.text), ("source", .str "operator")])

/-- `INSERT INTO task_control_requests`. -/
def insertControl (row : ControlRow) : StoreTx Unit := do
  let db ← Tx.get
  let context := wrap "append task control"
  let controls ← refuse context (db.controls.insert row)
  require context .foreignKey (∀ id ∈ row.auditID, (db.auditEntries.lookup id).isSome)
  require context .foreignKey ((db.tasks.lookup row.taskID).any (fun t => t.teamID = row.teamID))
  Tx.set { db with controls }

theorem insertControl_ok {row : ControlRow} {db db' : Db} {u : Unit}
    (h : insertControl row db = .ok (u, db')) :
    ∃ controls, db.controls.insert row = .ok controls ∧ db' = { db with controls } := by
  simp only [insertControl, Tx.bind_eq_ok, Tx.exists_get, exists_refuse, exists_require,
    Tx.set_eq_ok] at h
  obtain ⟨controls, hc, -, -, rfl⟩ := h
  exact ⟨controls, hc, rfl⟩

/-- `INSERT INTO task_control_events`. -/
def insertControlEvent (context : String) (row : ControlEventRow) : StoreTx Unit := do
  let db ← Tx.get
  let controlEvents ← refuse (wrap context) (db.controlEvents.insert row)
  require (wrap context) .foreignKey
    ((db.tasks.lookup row.taskID).any (fun t => t.teamID = row.teamID))
  require (wrap context) .foreignKey (db.controls.lookup row.controlID).isSome
  require (wrap context) .foreignKey (∀ id ∈ row.executorID, (db.executors.lookup id).isSome)
  Tx.set { db with controlEvents }

theorem insertControlEvent_ok {context : String} {row : ControlEventRow} {db db' : Db} {u : Unit}
    (h : insertControlEvent context row db = .ok (u, db')) :
    ∃ controlEvents, db.controlEvents.insert row = .ok controlEvents ∧
      db' = { db with controlEvents } := by
  simp only [insertControlEvent, Tx.bind_eq_ok, Tx.exists_get, exists_refuse, exists_require,
    Tx.set_eq_ok] at h
  obtain ⟨events, he, -, -, -, rfl⟩ := h
  exact ⟨events, he, rfl⟩

def createTaskControl (env : CallEnv) (identity : GatewayIdentity) (taskID : String)
    (req : CreateTaskControlRequest) : StoreTx ControlRow := do
  let db ← Tx.get
  Tx.ensure ((db.tasks.lookup taskID).any (fun t => t.teamID = identity.teamID)) .taskUnknown
  match findTaskControl db identity taskID req with
  | some control => return control
  | none =>
    let control := controlRow env identity taskID req
    insertAudit "append control audit" (controlAudit env identity req)
    insertControl control
    insertControlEvent "append requested control event" (requestedEventRow env control)
    return control

variable {control : ControlRow} {db db' : Db}

/-- The inversion of an accepted request: a known control, or a new one with its
    first event and its audit row. -/
theorem createTaskControl_ok {env : CallEnv} {identity : GatewayIdentity} {taskID : String}
    {req : CreateTaskControlRequest}
    (h : createTaskControl env identity taskID req db = .ok (control, db')) :
    findTaskControl db identity taskID req = some control ∧ db' = db ∨
      findTaskControl db identity taskID req = none ∧
      control = controlRow env identity taskID req ∧
      ∃ auditEntries controls controlEvents,
        db.auditEntries.insert (controlAudit env identity req) = .ok auditEntries ∧
        db.controls.insert control = .ok controls ∧
        db.controlEvents.insert (requestedEventRow env control) = .ok controlEvents ∧
        db' = { db with auditEntries, controls, controlEvents } := by
  simp only [createTaskControl, Tx.bind_eq_ok, Tx.exists_get, Tx.exists_ensure] at h
  obtain ⟨-, h⟩ := h
  cases hf : findTaskControl db identity taskID req with
  | some existing =>
    simp only [hf, Tx.pure_eq_ok] at h
    obtain ⟨rfl, rfl⟩ := h
    exact .inl ⟨rfl, rfl⟩
  | none =>
    simp only [hf, Tx.bind_eq_ok, Tx.pure_eq_ok] at h
    obtain ⟨_, _, haudit, _, _, hcontrol, _, _, hevent, rfl, rfl⟩ := h
    obtain ⟨audits, ha, -, rfl⟩ := insertAudit_eq_ok.mp haudit
    obtain ⟨controls, hc, rfl⟩ := insertControl_ok hcontrol
    obtain ⟨events, he, rfl⟩ := insertControlEvent_ok hevent
    exact .inr ⟨rfl, rfl, audits, controls, events, ha, hc, he, rfl⟩

/-! ## Section 2: Who may report -/

/-- The caller is the registered executor, and of the task's team if team-scoped. -/
def executorIdentityMatches (db : Db) (taskTeamID : String) (identity : ExecutorIdentity) : Bool :=
  match db.executors.lookup identity.executorID with
  | none => false
  | some executor =>
    executor.scope = identity.scope &&
      (match executor.scope with
        | .team => identity.teamID.isSome && identity.teamID = executor.teamID &&
            executor.teamID = some taskTeamID
        | .system => executor.teamID.isNone && identity.teamID.isNone)

/-- What `database/sql` reports when a null `executor_id` is scanned into a string. -/
def errNullExecutor : StoreError :=
  .plain "sql: Scan error on column index 1, name \"executor_id\": converting NULL to string is unsupported"

/-- The assigned executor of a locked task. -/
def assignedExecutor (context : String) (task : TaskRow) : StoreTx String :=
  Tx.ofOption task.executorID (.wrapped context errNullExecutor)

/-- The joined row of control and task. -/
def lockTaskControl (taskID controlID : String) : StoreTx (ControlRow × TaskRow) := do
  let db ← Tx.get
  let control ← Tx.ofOption ((db.controls.lookup controlID).filter (fun c => c.taskID = taskID))
    .taskUnknown
  let task ← Tx.ofOption ((db.tasks.lookup taskID).filter (fun t => t.teamID = control.teamID))
    .taskUnknown
  return (control, task)

theorem lockTaskControl_eq_ok {taskID controlID : String} {locked : ControlRow × TaskRow} :
    lockTaskControl taskID controlID db = .ok (locked, db') ↔
      (db.controls.lookup controlID = some locked.1 ∧ locked.1.taskID = taskID ∧
        db.tasks.lookup taskID = some locked.2 ∧ locked.2.teamID = locked.1.teamID) ∧ db = db' := by
  simp only [lockTaskControl, Tx.bind_eq_ok, Tx.exists_get, Tx.exists_ofOption, Tx.pure_eq_ok,
    Option.filter_eq_some_iff, decide_eq_true_eq]
  constructor
  · intro h
    obtain ⟨control, ⟨hc, hct⟩, task, ⟨ht, htt⟩, rfl, rfl⟩ := h
    exact ⟨⟨hc, hct, ht, htt⟩, rfl⟩
  · intro h
    obtain ⟨⟨hc, hct, ht, htt⟩, rfl⟩ := h
    exact ⟨locked.1, ⟨hc, hct⟩, locked.2, ⟨ht, htt⟩, rfl, rfl⟩

/-! ## Section 3: `AppendTaskControlEvent` -/

/-- Acknowledge first, then complete or fail. -/
def validControlTransition (current next : ControlStatus) : Bool :=
  (current = .pending && next = .acknowledged) ||
    (current = .acknowledged && (next = .completed || next = .failed))

/-- Nothing and malformed payloads become the empty object. -/
def normalizeControlPayload (payload : String) : String :=
  if payload = "" || (JsonText.parse payload.toList).isNone then "\x7b\x7d" else payload

/-- The value `$8::jsonb` reads from the payload. -/
def controlPayloadValue (payload : String) : Json :=
  ((JsonText.parse (normalizeControlPayload payload).toList).map JsonText.toJson).getD .null

def equalControlPayload (left right : String) : Bool :=
  JsonText.compact .outside (normalizeControlPayload left).toList =
    JsonText.compact .outside (normalizeControlPayload right).toList

/-- The stored event is the request again. -/
def ControlEventRow.retries (cfg : Config) (existing : ControlEventRow)
    (req : TaskControlEventAppendRequest) : Bool :=
  existing.status = req.status && Time.ofMicros existing.occurredAt = req.occurredAt &&
    equalControlPayload (cfg.jsonbOut existing.payload) req.payload

/-- The stored ordering tuple of a control event. -/
def ControlEventRow.tuple (r : ControlEventRow) : Lex (Int × String) :=
  toLex (r.occurredAt, r.controlEventID)

/-- The last event of a control in the order of the stored tuples. -/
def lastControlEvent (db : Db) (teamID taskID controlID : String) : Option ControlEventRow :=
  ((db.controlEvents.rows.filter (fun r => r.teamID = teamID && r.taskID = taskID &&
    r.controlID = controlID)).insertionSort (fun a b => b.tuple ≤ a.tuple)).head?

/-- An event that is not after the last one is refused. -/
def behind (last : ControlEventRow) (req : TaskControlEventAppendRequest) : Bool :=
  req.occurredAt < Time.ofMicros last.occurredAt ||
    (req.occurredAt = Time.ofMicros last.occurredAt && req.controlEventID ≤ last.controlEventID)

def readTaskControlEvent (db : Db) (teamID taskID controlID eventID : String) :
    Option ControlEventRow :=
  (db.controlEvents.lookup eventID).filter (fun r =>
    r.teamID = teamID && r.taskID = taskID && r.controlID = controlID)

/-- The row of an accepted report. -/
def controlEventRow (control : ControlRow) (req : TaskControlEventAppendRequest)
    (identity : ExecutorIdentity) : ControlEventRow where
  controlEventID := req.controlEventID
  controlID := control.controlID
  taskID := control.taskID
  teamID := control.teamID
  executorID := some identity.executorID
  status := req.status
  occurredAt := Time.toMicros req.occurredAt
  payload := (controlPayloadValue req.payload).jsonb

/-- The audit row of an accepted report. -/
def controlEventAudit (env : CallEnv) (control : ControlRow) (req : TaskControlEventAppendRequest)
    (identity : ExecutorIdentity) : AuditRow where
  auditID := env.uuid 0
  teamID := some control.teamID
  actorID := identity.executorID
  actorType := .executor
  action := "task.control." ++ req.status.text
  resourceType := "task_control_request"
  resourceID := control.controlID
  requestID := identity.requestID
  outcome := .accepted
  executorScope := some identity.scope

/-- The projection of an accepted report onto its control. -/
def ControlRow.project (status : ControlStatus) (c : ControlRow) : ControlRow :=
  { c with status }

/-- The event as the response carries it: a fresh one keeps the nanoseconds and the
    payload text of the request. -/
structure TaskControlEvent where
  controlEventID : String
  controlID : String
  taskID : String
  teamID : String
  executorID : Option String
  status : ControlStatus
  /-- Nanoseconds. -/
  occurredAt : Int
  payload : String
  deriving DecidableEq

/-- A stored event as a reading returns it. -/
def ControlEventRow.read (cfg : Config) (r : ControlEventRow) : TaskControlEvent where
  controlEventID := r.controlEventID
  controlID := r.controlID
  taskID := r.taskID
  teamID := r.teamID
  executorID := r.executorID
  status := r.status
  occurredAt := Time.ofMicros r.occurredAt
  payload := cfg.jsonbOut r.payload

/-- Transition, order and writes of a report that is not a retry. -/
def appendControlFresh (cfg : Config) (env : CallEnv) (control : ControlRow)
    (req : TaskControlEventAppendRequest) (identity : ExecutorIdentity) :
    StoreTx TaskControlEvent := do
  Tx.ensure (validControlTransition control.status req.status) .controlEventConflict
  let db ← Tx.get
  Tx.ensure (∀ last ∈ lastControlEvent db control.teamID control.taskID control.controlID,
    behind last req = false) .controlEventConflict
  require (wrap "insert control event") .check (cfg.jsonbAdmits (controlPayloadValue req.payload))
  insertControlEvent "insert control event" (controlEventRow control req identity)
  let db ← Tx.get
  let controls ← refuse (wrap "update task control projection")
    (db.controls.update control.controlID (ControlRow.project req.status) (fun _ => rfl))
  Tx.set { db with controls }
  insertAudit "append control event audit" (controlEventAudit env control req identity)
  return { controlEventRow control req identity with
    occurredAt := req.occurredAt, payload := normalizeControlPayload req.payload }

def appendTaskControlEvent (cfg : Config) (env : CallEnv) (taskID controlID : String)
    (req : TaskControlEventAppendRequest) (identity : ExecutorIdentity) :
    StoreTx TaskControlEvent := do
  let (control, task) ← lockTaskControl taskID controlID
  let assigned ← assignedExecutor "lock task control for event" task
  let db ← Tx.get
  Tx.ensure (assigned = identity.executorID ∧ executorIdentityMatches db control.teamID identity)
    .taskUnknown
  match readTaskControlEvent db control.teamID taskID controlID req.controlEventID with
  | some existing =>
    Tx.ensure (existing.retries cfg req) .controlEventConflict
    return existing.read cfg
  | none => appendControlFresh cfg env control req identity

/-- What a fresh report required and wrote. -/
structure FreshControlEvent (env : CallEnv) (control : ControlRow)
    (req : TaskControlEventAppendRequest) (identity : ExecutorIdentity) (db db' : Db) : Prop where
  transition : validControlTransition control.status req.status = true
  ordered : ∀ last ∈ lastControlEvent db control.teamID control.taskID control.controlID,
    behind last req = false
  effect : ∃ controlEvents controls auditEntries,
    db.controlEvents.insert (controlEventRow control req identity) = .ok controlEvents ∧
    db.controls.update control.controlID (ControlRow.project req.status) (fun _ => rfl) =
      .ok controls ∧
    db.auditEntries.insert (controlEventAudit env control req identity) = .ok auditEntries ∧
    db' = { db with controlEvents, controls, auditEntries }

theorem appendControlFresh_ok {cfg : Config} {env : CallEnv} {req : TaskControlEventAppendRequest}
    {identity : ExecutorIdentity} {event : TaskControlEvent}
    (h : appendControlFresh cfg env control req identity db = .ok (event, db')) :
    FreshControlEvent env control req identity db db' := by
  simp only [appendControlFresh, Tx.bind_eq_ok, Tx.exists_get, Tx.exists_ensure, exists_require,
    exists_refuse, Tx.exists_set, Tx.pure_eq_ok] at h
  obtain ⟨htr, hord, -, _, _, hins, controls, hc, _, _, haud, -, rfl⟩ := h
  obtain ⟨events, he, rfl⟩ := insertControlEvent_ok hins
  obtain ⟨audits, ha, -, rfl⟩ := insertAudit_eq_ok.mp haud
  exact ⟨htr, hord, events, controls, audits, he, hc, ha, rfl⟩

/-- The caller is the assigned executor of the task of a control. -/
structure MayReport (db : Db) (taskID controlID : String) (identity : ExecutorIdentity)
    (control : ControlRow) (task : TaskRow) : Prop where
  found : db.controls.lookup controlID = some control
  ofTask : control.taskID = taskID
  locked : db.tasks.lookup taskID = some task
  team : task.teamID = control.teamID
  assigned : task.executorID = some identity.executorID
  registered : executorIdentityMatches db control.teamID identity = true

section Inversion

variable {cfg : Config} {env : CallEnv} {taskID controlID : String}
  {req : TaskControlEventAppendRequest} {identity : ExecutorIdentity} {db db' : Db}
  {event : TaskControlEvent}

/-- The inversion of an accepted report: a retry that changes nothing, or a fresh
    event of the locked control. -/
theorem appendTaskControlEvent_ok
    (h : appendTaskControlEvent cfg env taskID controlID req identity db = .ok (event, db')) :
    ∃ control task, MayReport db taskID controlID identity control task ∧
      ((∃ existing,
          readTaskControlEvent db control.teamID taskID controlID req.controlEventID =
            some existing ∧ existing.retries cfg req = true ∧ event = existing.read cfg ∧
            db' = db) ∨
        readTaskControlEvent db control.teamID taskID controlID req.controlEventID = none ∧
          FreshControlEvent env control req identity db db') := by
  simp only [appendTaskControlEvent, assignedExecutor, Tx.bind_eq_ok, lockTaskControl_eq_ok,
    Tx.exists_ofOption, Tx.exists_get, Tx.exists_ensure] at h
  obtain ⟨⟨control, task⟩, _, ⟨⟨hc, hct, ht, htt⟩, rfl⟩, assigned, ha, ⟨rfl, hregistered⟩, h⟩ := h
  refine ⟨control, task, ⟨hc, hct, ht, htt, ha, hregistered⟩, ?_⟩
  cases hr : readTaskControlEvent db control.teamID taskID controlID req.controlEventID with
  | some existing =>
    simp only [hr, Tx.bind_eq_ok, Tx.exists_ensure, Tx.pure_eq_ok] at h
    obtain ⟨hretries, rfl, rfl⟩ := h
    exact .inl ⟨existing, rfl, hretries, rfl, rfl⟩
  | none =>
    simp only [hr] at h
    exact .inr ⟨rfl, appendControlFresh_ok h⟩

end Inversion

end FlowAI.Registry
