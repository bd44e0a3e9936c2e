import FlowAI.Registry.TaskEvents

/-! # Executor Events

  Self events of an executor (`AppendExecutorEvent`).  Two of the types mirror
  an observation onto the executor row; the mirror never gates work.
-/

namespace FlowAI.Registry

/-! ## Section 1: The append request -/

structure ParsedExecutorEvent where
  eventType : ExecutorEventType
  /-- Nanoseconds. -/
  occurredAt : Int
  payload : Json

def parseExecutorEvent (req : ExecutorEventAppendRequest) : Except StoreError ParsedExecutorEvent :=
  match executorEventType req.eventType with
  | none => .error (.plain ("event type " ++ req.eventType.quote ++
      " is not accepted on the executor event surface"))
  | some eventType =>
    match Time.parseRFC3339Nano req.occurredAt with
    | none => .error (.wrapped "parse occurred_at" (.plain req.occurredAt))
    | some occurredAt =>
      match normalizeAppendedPayload req.payload with
      | .error e => .error e
      | .ok payload => .ok ⟨eventType, occurredAt, payload⟩

/-- `int(v)` of a decoded number: the fraction is cut off. -/
def truncateDecimal (d : Decimal) : Int :=
  if 0 ≤ d.exponent then d.mantissa * 10 ^ d.exponent.toNat
  else d.mantissa.tdiv (10 ^ (-d.exponent).toNat)

/-- `decodePayloadInt`: an integer member of an object payload. -/
def decodePayloadInt (payload : Json) (field : String) : Except String Int :=
  match payload.unmarshals, payload.goValue with
  | true, .obj members =>
    match members.find? (fun m => m.1 = field) with
    | some (_, .num d) => .ok (truncateDecimal d)
    | some _ => .error ("payload field " ++ field.quote ++ " is not an integer")
    | none => .error ("payload field " ++ field.quote ++ " is missing")
  | _, _ => .error "payload is not a JSON object"

/-- The event as the response carries it. -/
structure ExecutorEvent where
  eventID : String
  teamID : Option String
  taskID : Option String
  executorID : String
  eventType : ExecutorEventType
  occurredAt : String
  payload : Json

/-- The stored row is the request again. -/
def ExecutorEventRow.retries (existing : ExecutorEventRow) (req : ExecutorEventAppendRequest)
    (parsed : ParsedExecutorEvent) : Bool :=
  existing.eventType = parsed.eventType && Time.ofMicros existing.occurredAt = parsed.occurredAt &&
    jsonEqual existing.payload parsed.payload && existing.teamID = req.teamID &&
    existing.taskID = req.taskID

/-! ## Section 2: Statements -/

/-- Lock the executor; the envelope carries its team, or none for a system executor. -/
def authorizeExecutorEvent (req : ExecutorEventAppendRequest) (identity : ExecutorIdentity) :
    StoreTx ExecutorRow := do
  let db ← Tx.get
  let executor ← Tx.ofOption (db.executors.lookup identity.executorID) .executorNotFound
  Tx.ensure (identity.scope = executor.scope) .executorNotFound
  Tx.ensure (executor.scope = .team → executor.teamID.isSome ∧ req.teamID = executor.teamID)
    .eventTeamMismatch
  Tx.ensure (executor.scope = .system → req.teamID = none) .eventTeamMismatch
  return executor

variable {req : ExecutorEventAppendRequest} {identity : ExecutorIdentity} {db db' : Db}

theorem authorizeExecutorEvent_ok {executor : ExecutorRow}
    (h : authorizeExecutorEvent req identity db = .ok (executor, db')) :
    db.executors.lookup identity.executorID = some executor ∧ db = db' := by
  simp only [authorizeExecutorEvent, Tx.bind_eq_ok, Tx.exists_get, Tx.exists_ofOption,
    Tx.exists_ensure, Tx.pure_eq_ok] at h
  obtain ⟨_, he, -, -, -, rfl, rfl⟩ := h
  exact ⟨he, rfl⟩

/-- The team of the task an event names, when it names one the executor may see. -/
def parentTaskTeam (executor : ExecutorRow) (req : ExecutorEventAppendRequest) :
    StoreTx (Option String) := do
  let db ← Tx.get
  match req.taskID with
  | none => return none
  | some taskID =>
    let task ← Tx.ofOption (db.tasks.lookup taskID) .eventNotFound
    Tx.ensure (executor.scope = .team → executor.teamID = some task.teamID) .eventNotFound
    return some task.teamID

theorem parentTaskTeam_ok {executor : ExecutorRow}
    {team : Option String} (h : parentTaskTeam executor req db = .ok (team, db')) : db = db' := by
  simp only [parentTaskTeam, Tx.bind_eq_ok, Tx.exists_get] at h
  cases ht : req.taskID with
  | none =>
    simp only [ht, Tx.pure_eq_ok] at h
    exact h.2
  | some taskID =>
    simp only [ht, Tx.bind_eq_ok, Tx.exists_ofOption, Tx.exists_ensure, Tx.pure_eq_ok] at h
    obtain ⟨_, -, -, -, rfl⟩ := h
    rfl

/-- `INSERT INTO executor_events`; the trigger on the scope restates what
    `authorizeExecutorEvent` and `parentTaskTeam` checked on the same rows. -/
def insertExecutorEvent (row : ExecutorEventRow) : StoreTx Unit := do
  let db ← Tx.get
  let context := wrap "append executor event"
  let executorEvents ← refuse context (db.executorEvents.insert row)
  require context .foreignKey (db.executors.lookup row.executorID).isSome
  require context .foreignKey (∀ team ∈ row.teamID, (db.teams.lookup team).isSome)
  require context .foreignKey (∀ task ∈ row.taskID, (db.tasks.lookup task).isSome)
  Tx.set { db with executorEvents }

theorem insertExecutorEvent_ok {row : ExecutorEventRow} {u : Unit}
    (h : insertExecutorEvent row db = .ok (u, db')) :
    ∃ executorEvents, db.executorEvents.insert row = .ok executorEvents ∧
      db' = { db with executorEvents } := by
  simp only [insertExecutorEvent, Tx.bind_eq_ok, Tx.exists_get, exists_refuse, exists_require,
    Tx.set_eq_ok] at h
  obtain ⟨events, he, -, -, -, rfl⟩ := h
  exact ⟨events, he, rfl⟩

/-- An observation on an executor row. -/
inductive Observation where
  | capacity (n : Int)
  | runningCount (n : Int)

/-- The row an observation leaves. -/
def Observation.mirror (env : CallEnv) (o : Observation) (row : ExecutorRow) : ExecutorRow :=
  match o with
  | .capacity n => { row with maxCapacity := n, updatedAt := env.txTime }
  | .runningCount n => { row with runningCount := n, updatedAt := env.txTime }

theorem Observation.mirror_executorID (env : CallEnv) (o : Observation) (row : ExecutorRow) :
    (o.mirror env row).executorID = row.executorID := by
  cases o <;> rfl

/-- The observation an event carries, if its type carries one. -/
def observation (parsed : ParsedExecutorEvent) : Except StoreError (Option Observation) :=
  match parsed.eventType with
  | .capacityObserved =>
    match decodePayloadInt parsed.payload "max_capacity" with
    | .ok n => .ok (some (.capacity n))
    | .error e => .error (.wrapped "decode capacity observation" (.plain e))
  | .runningCountObserved =>
    match decodePayloadInt parsed.payload "running_count" with
    | .ok n => .ok (some (.runningCount n))
    | .error e => .error (.wrapped "decode running-count observation" (.plain e))
  | _ => .ok none

def Observation.context : Observation → String
  | .capacity _ => "mirror capacity observation"
  | .runningCount _ => "mirror running-count observation"

/-- `UPDATE executors SET max_capacity | running_count`. -/
def mirrorObservation (env : CallEnv) (executorID : String) (o : Option Observation) :
    StoreTx Unit := do
  match o with
  | none => return ()
  | some o =>
    let db ← Tx.get
    let executors ← refuse (wrap o.context)
      (db.executors.update executorID (o.mirror env) (o.mirror_executorID env))
    Tx.set { db with executors }

theorem mirrorObservation_ok {env : CallEnv} {executorID : String} {o : Option Observation}
    {u : Unit} (h : mirrorObservation env executorID o db = .ok (u, db')) :
    db' = db ∨ ∃ o' executors,
      db.executors.update executorID (Observation.mirror env o')
        (o'.mirror_executorID env) = .ok executors ∧ db' = { db with executors } := by
  cases o with
  | none =>
    simp only [mirrorObservation, Tx.pure_eq_ok] at h
    exact .inl h.2.symm
  | some o =>
    simp only [mirrorObservation, Tx.bind_eq_ok, Tx.exists_get, exists_refuse, Tx.set_eq_ok] at h
    obtain ⟨executors, hu, rfl⟩ := h
    exact .inr ⟨o, executors, hu, rfl⟩

/-! ## Section 3: `AppendExecutorEvent` -/

/-- The row a fresh self event writes. -/
def executorEventRow (req : ExecutorEventAppendRequest) (identity : ExecutorIdentity)
    (executor : ExecutorRow) (parsed : ParsedExecutorEvent) : ExecutorEventRow where
  eventID := req.eventID
  executorID := identity.executorID
  teamID := if executor.scope = .team then executor.teamID else none
  taskID := req.taskID
  eventType := parsed.eventType
  occurredAt := Time.toMicros parsed.occurredAt
  payload := parsed.payload.jsonb

/-- The event a stored row is returned as. -/
def ExecutorEventRow.listed (r : ExecutorEventRow) : ExecutorEvent where
  eventID := r.eventID
  teamID := r.teamID
  taskID := r.taskID
  executorID := r.executorID
  eventType := r.eventType
  occurredAt := formatIngestedAt r.occurredAt
  payload := r.payload

/-- `SELECT … FROM executor_events WHERE executor_id = $1 AND event_id = $2`. -/
def findExecutorEvent (db : Db) (executorID eventID : String) : Option ExecutorEventRow :=
  (db.executorEvents.lookup eventID).filter (fun r => r.executorID = executorID)

def appendExecutorEvent (cfg : Config) (env : CallEnv) (req : ExecutorEventAppendRequest)
    (identity : ExecutorIdentity) : StoreTx ExecutorEvent := do
  let parsed ← Tx.ofExcept (parseExecutorEvent req)
  let executor ← authorizeExecutorEvent req identity
  let db ← Tx.get
  match findExecutorEvent db identity.executorID req.eventID with
  | some existing =>
    Tx.ensure (existing.retries req parsed) .eventConflict
    return existing.listed
  | none =>
    let taskTeam ← parentTaskTeam executor req
    require (wrap "append executor event") .check (cfg.jsonbAdmits parsed.payload)
    let row := executorEventRow req identity executor parsed
    insertExecutorEvent row
    let observed ← Tx.ofExcept (observation parsed)
    mirrorObservation env identity.executorID observed
    insertAudit "append executor event audit" {
      auditID := env.uuid 0
      teamID := if executor.scope = .team then executor.teamID else taskTeam
      actorID := identity.executorID, actorType := .executor
      action := "executor.event." ++ req.eventType, resourceType := "executor_event"
      resourceID := req.eventID, requestID := identity.requestID, outcome := .accepted
      executorScope := some identity.scope }
    return { row.listed with
      occurredAt := Time.formatRFC3339Nano parsed.occurredAt, payload := parsed.payload }

theorem appendExecutorEvent_ok {cfg : Config} {env : CallEnv} {event : ExecutorEvent}
    (h : appendExecutorEvent cfg env req identity db = .ok (event, db')) :
    db' = db ∨ ∃ executorEvents executors auditEntries,
      (executors = db.executors ∨ ∃ o : Observation, db.executors.update identity.executorID
        (o.mirror env) (o.mirror_executorID env) = .ok executors) ∧
      db' = { db with executorEvents, executors, auditEntries } := by
  simp only [appendExecutorEvent, Tx.bind_eq_ok, Tx.exists_ofExcept, Tx.exists_get] at h
  obtain ⟨parsed, -, executor, _, hauth, h⟩ := h
  obtain ⟨-, rfl⟩ := authorizeExecutorEvent_ok hauth
  cases hf : findExecutorEvent db identity.executorID req.eventID with
  | some existing =>
    simp only [hf, Tx.bind_eq_ok, Tx.exists_ensure, Tx.pure_eq_ok] at h
    obtain ⟨-, -, rfl⟩ := h
    exact .inl rfl
  | none =>
    simp only [hf, Tx.bind_eq_ok, exists_require, Tx.exists_ofExcept, Tx.pure_eq_ok] at h
    obtain ⟨taskTeam, _, hparent, -, _, _, hins, observed, -, _, _, hmirror, _, _, haudit, -,
      rfl⟩ := h
    obtain rfl := parentTaskTeam_ok hparent
    obtain ⟨events, -, rfl⟩ := insertExecutorEvent_ok hins
    obtain ⟨a, -, -, rfl⟩ := insertAudit_eq_ok.mp haudit
    rcases mirrorObservation_ok hmirror with rfl | ⟨o, executors, hu, rfl⟩
    · exact .inr ⟨events, db.executors, a, .inl rfl, rfl⟩
    · exact .inr ⟨events, executors, a, .inr ⟨o, hu⟩, rfl⟩

end FlowAI.Registry
