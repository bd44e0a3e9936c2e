import FlowAI.Registry.Controls

/-! # Task Logs

  `AppendTaskLog` of `store/task_logs.go`: the assigned executor of a created or
  running task appends a chunk of output, which gets the next offset of the task.
-/

namespace FlowAI.Registry

/-- The chunk as the response carries it; a fresh one keeps the nanoseconds of the
    request. -/
structure TaskLogChunk where
  logChunkID : String
  taskID : String
  teamID : String
  executorID : String
  logOffset : Nat
  stream : LogStream
  content : String
  /-- Nanoseconds. -/
  occurredAt : Int
  deriving DecidableEq

/-- A stored chunk as a reading returns it. -/
def LogChunkRow.read (r : LogChunkRow) : TaskLogChunk where
  logChunkID := r.logChunkID
  taskID := r.taskID
  teamID := r.teamID
  executorID := r.executorID
  logOffset := r.logOffset
  stream := r.stream
  content := r.content
  occurredAt := Time.ofMicros r.occurredAt

/-- `COALESCE(MAX(log_offset), 0) + 1`. -/
def nextLogOffset (db : Db) (taskID : String) : Nat :=
  ((db.logChunks.rows.filter (fun r => r.taskID = taskID)).map LogChunkRow.logOffset).foldl max 0 + 1

def readTaskLogChunk (db : Db) (taskID chunkID : String) : Option LogChunkRow :=
  (db.logChunks.lookup chunkID).filter (fun r => r.taskID = taskID)

/-- The stored chunk is the request again. -/
def LogChunkRow.retries (existing : LogChunkRow) (req : TaskLogAppendRequest) : Bool :=
  existing.stream = req.stream && existing.content = req.content &&
    Time.ofMicros existing.occurredAt = req.occurredAt

/-- The row of a fresh chunk. -/
def logChunkRow (req : TaskLogAppendRequest) (identity : ExecutorIdentity) (task : TaskRow)
    (logOffset : Nat) : LogChunkRow where
  logChunkID := req.logChunkID
  taskID := task.taskID
  teamID := task.teamID
  executorID := identity.executorID
  logOffset := logOffset
  stream := req.stream
  content := req.content
  occurredAt := Time.toMicros req.occurredAt

/-- `INSERT INTO task_log_chunks`. -/
def insertLogChunk (row : LogChunkRow) : StoreTx Unit := do
  let db ← Tx.get
  let context := wrap "insert task log chunk"
  let logChunks ← refuse context (db.logChunks.insert row)
  require context .foreignKey ((db.tasks.lookup row.taskID).any (fun t => t.teamID = row.teamID))
  require context .foreignKey (db.executors.lookup row.executorID).isSome
  Tx.set { db with logChunks }

def appendTaskLog (taskID : String) (req : TaskLogAppendRequest) (identity : ExecutorIdentity) :
    StoreTx TaskLogChunk := do
  let db ← Tx.get
  let task ← Tx.ofOption (db.tasks.lookup taskID) .taskUnknown
  let assigned ← assignedExecutor "lock task for log append" task
  Tx.ensure (assigned = identity.executorID ∧ executorIdentityMatches db task.teamID identity ∧
    (task.currentState = .created ∨ task.currentState = .running)) .taskUnknown
  match readTaskLogChunk db taskID req.logChunkID with
  | some existing =>
    Tx.ensure (existing.retries req) .taskLogConflict
    return existing.read
  | none =>
    let row := logChunkRow req identity task (nextLogOffset db taskID)
    insertLogChunk row
    return { row.read with occurredAt := req.occurredAt }

/-- The caller is the assigned executor of an open task. -/
structure MayLog (db : Db) (taskID : String) (identity : ExecutorIdentity) (task : TaskRow) :
    Prop where
  found : db.tasks.lookup taskID = some task
  assigned : task.executorID = some identity.executorID
  registered : executorIdentityMatches db task.teamID identity = true
  opened : task.currentState = .created ∨ task.currentState = .running

section Inversion

variable {taskID : String} {req : TaskLogAppendRequest} {identity : ExecutorIdentity} {db db' : Db}
  {chunk : TaskLogChunk}

/-- The inversion of an accepted chunk: a retry that changes nothing, or one new row
    at the next offset. -/
theorem appendTaskLog_ok (h : appendTaskLog taskID req identity db = .ok (chunk, db')) :
    ∃ task, MayLog db taskID identity task ∧
      ((∃ existing, readTaskLogChunk db taskID req.logChunkID = some existing ∧
          existing.retries req = true ∧ chunk = existing.read ∧ db' = db) ∨
        ∃ row logChunks, row = logChunkRow req identity task (nextLogOffset db taskID) ∧
          readTaskLogChunk db taskID req.logChunkID = none ∧
          db.logChunks.insert row = .ok logChunks ∧
          chunk = { row.read with occurredAt := req.occurredAt } ∧ db' = { db with logChunks }) := by
  simp only [appendTaskLog, assignedExecutor, Tx.bind_eq_ok, Tx.exists_get, Tx.exists_ofOption,
    Tx.exists_ensure] at h
  obtain ⟨task, ht, assigned, ha, ⟨rfl, hregistered, hstate⟩, h⟩ := h
  refine ⟨task, ⟨ht, ha, hregistered, hstate⟩, ?_⟩
  cases hr : readTaskLogChunk db taskID req.logChunkID with
  | some existing =>
    simp only [hr, Tx.bind_eq_ok, Tx.exists_ensure, Tx.pure_eq_ok] at h
    obtain ⟨hretries, rfl, rfl⟩ := h
    exact .inl ⟨existing, rfl, hretries, rfl, rfl⟩
  | none =>
    simp only [hr, insertLogChunk, Tx.bind_eq_ok, Tx.exists_get, exists_refuse, exists_require,
      Tx.set_eq_ok, Tx.pure_eq_ok] at h
    obtain ⟨_, _, ⟨chunks, hc, -, -, rfl⟩, rfl, rfl⟩ := h
    exact .inr ⟨_, chunks, rfl, rfl, hc, rfl, rfl⟩

theorem appendTaskLog_of_stored {task : TaskRow} {existing : LogChunkRow}
    (h : MayLog db taskID identity task)
    (hstored : readTaskLogChunk db taskID req.logChunkID = some existing)
    (hretries : existing.retries req = true) :
    appendTaskLog taskID req identity db = .ok (existing.read, db) := by
  simp only [appendTaskLog, assignedExecutor, Tx.bind_eq_ok, Tx.exists_get, Tx.exists_ofOption,
    Tx.exists_ensure]
  refine ⟨task, h.found, _, h.assigned, ⟨rfl, h.registered, h.opened⟩, ?_⟩
  simp only [hstored, Tx.bind_eq_ok, Tx.exists_ensure, Tx.pure_eq_ok]
  exact ⟨hretries, trivial, trivial⟩

end Inversion

end FlowAI.Registry
