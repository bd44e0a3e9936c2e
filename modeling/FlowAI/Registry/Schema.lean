import FlowAI.Registry.Platform

/-! # Schema

  The tables of the registry after the last migration, with their primary
  keys, `CHECK` constraints and unique indexes.  Foreign keys and triggers
  relate several tables; the insertion functions of this module decide them.

  Columns that no operation of the model reads or returns (`created_at` and
  `updated_at` of teams, snapshots and the like) are left out.
-/

namespace FlowAI.Registry

/-! ## Section 1: Text constraints -/

/-- `length(btrim(s)) > 0`. -/
def nonBlank (s : String) : Bool := s.toList.any (· ≠ ' ')

def isUpper (c : Char) : Bool := 'A' ≤ c ∧ c ≤ 'Z'

def isDigit (c : Char) : Bool := '0' ≤ c ∧ c ≤ '9'

/-- `s ~ '^[A-Z_][A-Z0-9_]*$'`. -/
def isEnvKey (s : String) : Bool :=
  match s.toList with
  | [] => false
  | c :: cs => (isUpper c || c = '_') && cs.all (fun c => isUpper c || isDigit c || c = '_')

/-! ## Section 2: Rows -/

structure TeamRow where
  teamID : String
  teamName : String
  defaultImage : String
  ingestedAt : Int
  archivedAt : Option Int
  deriving DecidableEq

structure SourceSystemRow where
  sourceSystemID : String
  teamID : String
  listenerIdentity : String
  defaultImage : Option Json
  createdAt : Int
  updatedAt : Int
  deriving DecidableEq

structure TaskTypeRow where
  taskTypeID : String
  teamID : String
  executionTag : String
  defaultImage : Option Json
  createdAt : Int
  updatedAt : Int
  deriving DecidableEq

structure ExecutorRow where
  executorID : String
  scope : ExecutorScope
  teamID : Option String
  executorType : String
  identity : String
  authorizedTag : String
  maxCapacity : Int
  runningCount : Int
  runtimeMetadata : Json
  registeredAt : Int
  updatedAt : Int
  deriving DecidableEq

structure TaskRow where
  taskID : String
  teamID : String
  sourceSystemID : String
  sourceID : String
  taskTypeID : String
  requiredTag : String
  payload : Json
  currentState : TaskState
  ownerCommandID : Option String
  executorID : Option String
  projectID : Option String
  image : Option Json
  resolvedImage : Option Json
  imageSource : Option ImageSource
  ingestedAt : Int
  claimedAt : Option Int
  deriving DecidableEq

structure TaskEventRow where
  eventID : String
  teamID : String
  taskID : String
  executorID : String
  eventType : TaskEventType
  occurredAt : Int
  payload : Json
  deriving DecidableEq

structure ExecutorEventRow where
  eventID : String
  executorID : String
  teamID : Option String
  taskID : Option String
  eventType : ExecutorEventType
  occurredAt : Int
  payload : Json
  deriving DecidableEq

/-- `environment_definitions`: one set of launch parameters. -/
structure DefinitionRow where
  environmentID : String
  teamID : Option String
  scopeKind : Option LaunchScope
  taskTypeID : Option String
  name : String
  values : StrMap String
  image : Option String
  revision : Nat
  deleted : Bool
  createdAt : Int
  updatedAt : Int
  deriving DecidableEq

/-- `environment_revisions`. -/
structure RevisionRow where
  environmentID : String
  revision : Nat
  teamID : Option String
  scopeKind : LaunchScope
  taskTypeID : Option String
  name : String
  values : StrMap String
  secretKeys : List String
  image : Option String
  deleted : Bool
  actorID : String
  requestID : String
  deriving DecidableEq

structure SecretRow where
  secretID : String
  teamID : Option String
  environmentID : String
  name : String
  revoked : Bool
  latestVersion : Nat
  createdAt : Int
  updatedAt : Int
  deriving DecidableEq

structure SecretVersionRow where
  secretID : String
  version : Nat
  teamID : Option String
  ciphertext : String
  nonce : String
  authenticationTag : String
  keyID : String
  keyVersion : Nat
  createdAt : Int
  deriving DecidableEq

structure AuditRow where
  auditID : String
  teamID : Option String
  actorID : String
  actorType : ActorType
  action : String
  resourceType : String
  resourceID : String
  requestID : String
  outcome : AuditOutcome
  executorScope : Option ExecutorScope
  deriving DecidableEq

structure TeamAuditDetailRow where
  auditID : String
  oldTeamName : Option String
  newTeamName : String
  oldDefaultImage : Option String
  newDefaultImage : String
  archivedAt : Option Int
  deriving DecidableEq

/-- `task_control_requests`. -/
structure ControlRow where
  controlID : String
  teamID : String
  taskID : String
  operatorID : String
  action : ControlAction
  idempotencyKey : String
  reason : Option String
  status : ControlStatus
  auditID : Option String
  requestedAt : Int
  deriving DecidableEq

/-- `task_control_events`. -/
structure ControlEventRow where
  controlEventID : String
  controlID : String
  taskID : String
  teamID : String
  executorID : Option String
  status : ControlStatus
  occurredAt : Int
  payload : Json
  deriving DecidableEq

/-- `task_log_chunks`. -/
structure LogChunkRow where
  logChunkID : String
  taskID : String
  teamID : String
  executorID : String
  logOffset : Nat
  stream : LogStream
  content : String
  occurredAt : Int
  deriving DecidableEq

/-- `task_launch_parameter_snapshots`. -/
structure SnapshotRow where
  taskID : String
  teamID : String
  values : StrMap String
  deriving DecidableEq

/-- `task_launch_parameter_secret_refs`. -/
structure SecretRefRow where
  taskID : String
  teamID : String
  key : String
  secretID : String
  version : Nat
  deriving DecidableEq

/-! ## Section 3: Constraints of each table -/

def teamSchema : Schema TeamRow String where
  key := TeamRow.teamID
  check r := nonBlank r.teamName
  uniques := [fun r => some [r.teamName]]

def sourceSystemSchema : Schema SourceSystemRow String where
  key := SourceSystemRow.sourceSystemID
  check r := nonBlank r.listenerIdentity
  uniques := [fun r => some [r.listenerIdentity]]

def taskTypeSchema : Schema TaskTypeRow String where
  key := TaskTypeRow.taskTypeID
  check r := nonBlank r.executionTag

def executorSchema : Schema ExecutorRow String where
  key := ExecutorRow.executorID
  check r := nonBlank r.executorType && nonBlank r.identity && nonBlank r.authorizedTag &&
    decide (0 ≤ r.maxCapacity) && decide (0 ≤ r.runningCount) &&
    (match r.scope with
      | .team => r.teamID.isSome
      | .system => r.teamID.isNone)

/-- The claim columns are all null on a pending task and all set on any other. -/
def TaskRow.claimColumns (r : TaskRow) : Bool :=
  if r.currentState = .pending then
    r.ownerCommandID.isNone && r.executorID.isNone && r.resolvedImage.isNone &&
      r.imageSource.isNone && r.claimedAt.isNone
  else
    r.ownerCommandID.isSome && r.executorID.isSome && r.resolvedImage.isSome &&
      r.imageSource.isSome && r.claimedAt.isSome

def taskSchema : Schema TaskRow String where
  key := TaskRow.taskID
  check r := nonBlank r.sourceID && nonBlank r.requiredTag && r.claimColumns
  uniques := [fun r => some [r.teamID, r.sourceSystemID, r.sourceID]]

def taskEventSchema : Schema TaskEventRow String where
  key := TaskEventRow.eventID

def executorEventSchema : Schema ExecutorEventRow String where
  key := ExecutorEventRow.eventID

/-- `environment_task_type_scope_valid`. -/
def DefinitionRow.scopeValid (r : DefinitionRow) : Bool :=
  match r.scopeKind with
  | none => true
  | some .global => r.teamID.isNone && r.taskTypeID.isNone
  | some .team => r.teamID.isSome && r.taskTypeID.isNone
  | some .taskType => r.teamID.isSome && r.taskTypeID.isSome

/-- The tuple a definition holds in the partial unique index of its scope. -/
def DefinitionRow.activeScope (r : DefinitionRow) : Option (List String) :=
  if r.deleted then none else
    match r.scopeKind, r.teamID, r.taskTypeID with
    | some .global, _, _ => some []
    | some .team, some team, _ => some [team]
    | some .taskType, some team, some taskType => some [team, taskType]
    | _, _, _ => none

def definitionSchema : Schema DefinitionRow String where
  key := DefinitionRow.environmentID
  check r := nonBlank r.name && decide (1 ≤ r.revision) && r.scopeValid
  uniques := [DefinitionRow.activeScope]

def revisionSchema : Schema RevisionRow (String × Nat) where
  key r := (r.environmentID, r.revision)
  check r := decide (1 ≤ r.revision)

def secretSchema : Schema SecretRow String where
  key := SecretRow.secretID
  check r := nonBlank r.name && decide (1 ≤ r.latestVersion)

def secretVersionSchema : Schema SecretVersionRow (String × Nat) where
  key r := (r.secretID, r.version)
  check r := decide (1 ≤ r.version) && nonBlank r.keyID && decide (1 ≤ r.keyVersion)

def auditSchema : Schema AuditRow String where
  key := AuditRow.auditID
  check r := nonBlank r.actorID && nonBlank r.action && nonBlank r.resourceType &&
    nonBlank r.resourceID && nonBlank r.requestID

def teamAuditDetailSchema : Schema TeamAuditDetailRow String where
  key := TeamAuditDetailRow.auditID

def controlSchema : Schema ControlRow String where
  key := ControlRow.controlID
  check r := nonBlank r.operatorID && nonBlank r.idempotencyKey
  uniques := [fun r => some [r.teamID, r.taskID, r.operatorID, r.action.text, r.idempotencyKey]]

def controlEventSchema : Schema ControlEventRow String where
  key := ControlEventRow.controlEventID

def logChunkSchema : Schema LogChunkRow String where
  key := LogChunkRow.logChunkID
  check r := decide (1 ≤ r.logOffset ∧ r.logOffset < 2 ^ 63)
  uniques := [fun r => some [r.taskID, toString r.logOffset]]

def snapshotSchema : Schema SnapshotRow String where
  key := SnapshotRow.taskID

def secretRefSchema : Schema SecretRefRow (String × String) where
  key r := (r.taskID, r.key)
  check r := isEnvKey r.key && decide (1 ≤ r.version)

/-! ## Section 4: The database -/

/-- The committed contents of the registry database. -/
structure Db where
  teams : Table teamSchema
  sourceSystems : Table sourceSystemSchema
  taskTypes : Table taskTypeSchema
  executors : Table executorSchema
  tasks : Table taskSchema
  taskEvents : Table taskEventSchema
  executorEvents : Table executorEventSchema
  definitions : Table definitionSchema
  revisions : Table revisionSchema
  secrets : Table secretSchema
  secretVersions : Table secretVersionSchema
  auditEntries : Table auditSchema
  teamAuditDetails : Table teamAuditDetailSchema
  controls : Table controlSchema
  controlEvents : Table controlEventSchema
  logChunks : Table logChunkSchema
  snapshots : Table snapshotSchema
  secretRefs : Table secretRefSchema

/-- The database after the migrations. -/
def Db.empty : Db :=
  ⟨.empty, .empty, .empty, .empty, .empty, .empty, .empty, .empty, .empty, .empty, .empty,
    .empty, .empty, .empty, .empty, .empty, .empty, .empty⟩

/-- A transaction of the store. -/
abbrev StoreTx := Tx Db StoreError

variable {err : Violation → StoreError} {db : Db}

/-- `fmt.Errorf("context: %w", err)` for a refusal of the database. -/
def wrap (context : String) (v : Violation) : StoreError := .wrapped context (.violation v)

/-- A foreign key or trigger that must hold at the end of a statement. -/
def require (err : Violation → StoreError) (v : Violation) (p : Prop) [Decidable p] :
    StoreTx Unit :=
  Tx.ensure p (err v)

@[simp] theorem require_eq_ok {v : Violation} {p : Prop} [Decidable p] {db' : Db} {u : Unit} :
    require err v p db = .ok (u, db') ↔ p ∧ db = db' := by
  simp [require]

theorem exists_require {v : Violation} {p : Prop} [Decidable p] {P : Unit → Db → Prop} :
    (∃ u db₁, require err v p db = .ok (u, db₁) ∧ P u db₁) ↔ p ∧ P () db :=
  Tx.exists_ensure

end FlowAI.Registry
