import FlowAI.Framework.Locks
import FlowAI.Registry.Operations

/-! # The Locks of the Operations

  For each write operation, the locks its statements take, in order: the rows of
  `SELECT … FOR UPDATE`, the advisory locks, and for every `INSERT` a key-share
  lock on each row its foreign keys reference, in the order in which the tables
  declare them.  Rows that the transaction itself inserts are seen by nobody
  else and are left out.

  A plan is that of a call that is accepted; a refused call takes a part of it
  and ends.
-/

namespace FlowAI.Registry

/-! ## Section 1: What can be locked -/

/-- A row, or the key of an advisory lock. -/
inductive Resource where
  | advisory (key : Int)
  | executor (executorID : String)
  | task (taskID : String)
  | team (teamID : String)
  | control (controlID : String)
  | taskEvent (eventID : String)
  | executorEvent (eventID : String)
  | snapshot (taskID : String)
  | sourceSystem (sourceSystemID : String)
  | taskType (taskTypeID : String)
  | secretVersion (secretID : String) (version : Nat)
  deriving DecidableEq, Repr

/-- `SELECT … FOR UPDATE`, or `pg_advisory_xact_lock`. -/
@[simp] def forUpdate (r : Resource) : Lock Resource := ⟨r, .update⟩

/-- The lock of a foreign key. -/
@[simp] def keyShare (r : Resource) : Lock Resource := ⟨r, .keyShare⟩

/-- An operation and the database its statements read. -/
structure LockCall where
  db : Db
  op : Op

/-! ## Section 2: The plan of each operation

  `hash` is `hashtextextended(·, 0)`, which maps the texts of advisory locks to keys. -/

section Plans

variable (hash : String → Int)

/-- Executor, queue, task and team; then the references of snapshot, secret references,
    assignment and event. -/
def claimTaskLocks (db : Db) (req : ClaimRequest) (executorID : String) : List (Lock Resource) :=
  match db.executors.lookup executorID with
  | none => []
  | some executor =>
    [forUpdate (.executor executorID), forUpdate (.advisory (hash (claimLockKey executor)))] ++
      match db.tasks.lookup req.taskID with
      | none => []
      | some task =>
        [forUpdate (.task req.taskID), forUpdate (.team task.teamID), keyShare (.task req.taskID)] ++
          (resolveLaunchParameters db task.teamID task.taskTypeID).secretRefs.entries.map
            (fun e => keyShare (.secretVersion e.2.1 e.2.2)) ++
          [keyShare (.executor executorID), keyShare (.executor executorID),
            keyShare (.task req.taskID)]

/-- The key of the registration, the row if there is one, else the team of the new row. -/
def registerExecutorLocks (db : Db) (executorID : String) (req : ExecutorRegistrationRequest) :
    List (Lock Resource) :=
  forUpdate (.advisory (hash executorID)) ::
    match db.executors.lookup executorID with
    | some _ => [forUpdate (.executor executorID)]
    | none => req.teamID.toList.map (fun team => keyShare (.team team))

/-- Executor and task; a known event is locked and returned, a new one references both
    rows, and its audit entry the team. -/
def appendTaskEventLocks (db : Db) (req : TaskEventAppendRequest) (identity : ExecutorIdentity) :
    List (Lock Resource) :=
  [forUpdate (.executor identity.executorID), forUpdate (.task req.taskID)] ++
    match findTaskEvent db req.taskID req.eventID with
    | some _ => [forUpdate (.taskEvent req.eventID)]
    | none => [keyShare (.executor identity.executorID), keyShare (.task req.taskID),
        keyShare (.team req.teamID)]

/-- The team of the audit entry: the one of the envelope, or of the task named by a
    system executor. -/
def executorEventAuditTeam (db : Db) (req : ExecutorEventAppendRequest) : Option String :=
  req.teamID.or ((req.taskID.bind db.tasks.lookup).map TaskRow.teamID)

/-- The executor; a known event is locked and returned, a new one references executor,
    team, task and once more the executor within its team. -/
def appendExecutorEventLocks (db : Db) (req : ExecutorEventAppendRequest)
    (identity : ExecutorIdentity) : List (Lock Resource) :=
  forUpdate (.executor identity.executorID) ::
    match findExecutorEvent db identity.executorID req.eventID with
    | some _ => [forUpdate (.executorEvent req.eventID)]
    | none =>
      keyShare (.executor identity.executorID) ::
        (req.teamID.toList.map (fun team => keyShare (.team team)) ++
          req.taskID.toList.map (fun task => keyShare (.task task)) ++
          req.teamID.toList.map (fun _ => keyShare (.executor identity.executorID)) ++
          (executorEventAuditTeam db req).toList.map (fun team => keyShare (.team team)))

/-- The task; a new chunk references task and executor. -/
def appendTaskLogLocks (db : Db) (taskID : String) (req : TaskLogAppendRequest)
    (identity : ExecutorIdentity) : List (Lock Resource) :=
  forUpdate (.task taskID) ::
    match readTaskLogChunk db taskID req.logChunkID with
    | some _ => []
    | none => [keyShare (.task taskID), keyShare (.executor identity.executorID)]

/-- The task; audit entry, control and first event of a new control. -/
def createTaskControlLocks (db : Db) (identity : GatewayIdentity) (taskID : String)
    (req : CreateTaskControlRequest) : List (Lock Resource) :=
  forUpdate (.task taskID) ::
    match findTaskControl db identity taskID req with
    | some _ => []
    | none => [keyShare (.team identity.teamID), keyShare (.task taskID), keyShare (.task taskID)]

/-- Both rows of the join; a new event references task, control and executor, and its audit
    entry the team. -/
def appendTaskControlEventLocks (db : Db) (taskID controlID : String)
    (req : TaskControlEventAppendRequest) (identity : ExecutorIdentity) : List (Lock Resource) :=
  match db.controls.lookup controlID with
  | none => []
  | some control =>
    [forUpdate (.control controlID), forUpdate (.task taskID)] ++
      match readTaskControlEvent db control.teamID taskID controlID req.controlEventID with
      | some _ => []
      | none => [keyShare (.task taskID), keyShare (.control controlID),
          keyShare (.executor identity.executorID), keyShare (.team control.teamID)]

/-- The team; a new task references team, source system and task type. -/
def ingestTaskLocks (db : Db) (req : TaskIngestionRequest) (ident : ListenerIdentity) :
    List (Lock Resource) :=
  forUpdate (.team ident.teamID) ::
    match findSubmission db ident.teamID ident.sourceSystemID req.sourceID with
    | some _ => []
    | none => [keyShare (.team ident.teamID), keyShare (.sourceSystem ident.sourceSystemID),
        keyShare (.taskType req.taskTypeID)]

/-- The team, once more for its audit entry. -/
def changeTeamLocks (teamID : String) : List (Lock Resource) :=
  [forUpdate (.team teamID), keyShare (.team teamID)]

/-- Both rows of the join, and the team for the audit entry. -/
def openEnvironmentLocks (db : Db) (req : OpenEnvironmentRequest) : List (Lock Resource) :=
  match db.tasks.lookup req.taskID with
  | none => []
  | some task =>
    [forUpdate (.task req.taskID), forUpdate (.snapshot req.taskID), keyShare (.team task.teamID)]

/-- The plan of a call.  Operations on launch parameters and secrets and the creation of
    teams, source systems and task types lock none of the rows above for update and are not
    part of this model. -/
def LockCall.locks (call : LockCall) : List (Lock Resource) :=
  match call.op with
  | .claimTask req executorID _ => claimTaskLocks hash call.db req executorID
  | .registerExecutor executorID req _ => registerExecutorLocks hash call.db executorID req
  | .appendTaskEvent req identity => appendTaskEventLocks call.db req identity
  | .appendExecutorEvent req identity => appendExecutorEventLocks call.db req identity
  | .appendTaskLog taskID req identity => appendTaskLogLocks call.db taskID req identity
  | .createTaskControl identity taskID req => createTaskControlLocks call.db identity taskID req
  | .appendTaskControlEvent taskID controlID req identity =>
    appendTaskControlEventLocks call.db taskID controlID req identity
  | .ingestTask req ident => ingestTaskLocks call.db req ident
  | .updateTeam teamID _ _ => changeTeamLocks teamID
  | .archiveTeam teamID _ => changeTeamLocks teamID
  | .openEnvironment req => openEnvironmentLocks call.db req
  | _ => []

end Plans

end FlowAI.Registry
