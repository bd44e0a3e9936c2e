import FlowAI.Registry.Admin
import Mathlib.Data.Prod.Lex

/-! # Launch Parameters

  Definitions of launch parameters and their revisions
  (`store/ui_launch_parameters.go`; the environment routes of
  `store/environments.go` are the same operations at scope `team` without an
  image).  Every write of a definition bumps its revision and appends the
  revision row.
-/

namespace FlowAI.Registry

variable {identity : GatewayIdentity} {item : DefinitionRow} {db' : Db} {environmentID : String}
  {env : CallEnv}

/-! ## Section 1: Revisions and audit -/

/-- Names of the unrevoked secrets of a definition, `ORDER BY name`. -/
def revisionSecretKeys (db : Db) (teamID : Option String) (environmentID : String) : List String :=
  ((db.secrets.rows.filter (fun r =>
      r.teamID.isSome && r.teamID = teamID && r.environmentID = environmentID && !r.revoked)).map
    (·.name)).insertionSort (· ≤ ·)

/-- A `(team_id, task_type_id)` reference; it holds when a column is null. -/
def taskTypeReference (db : Db) (teamID taskTypeID : Option String) : Bool :=
  match teamID, taskTypeID with
  | some team, some taskType => (db.taskTypes.lookup taskType).any (fun r => r.teamID = team)
  | _, _ => true

def appendLaunchParameterRevision (identity : GatewayIdentity) (item : DefinitionRow)
    (scope : LaunchScope) (deleted : Bool) : StoreTx Unit := do
  let db ← Tx.get
  let context := wrap "append launch parameter revision"
  let revisions ← refuse context (db.revisions.insert {
    environmentID := item.environmentID, revision := item.revision, teamID := item.teamID
    scopeKind := scope, taskTypeID := item.taskTypeID, name := item.name
    values := item.values
    secretKeys := revisionSecretKeys db item.teamID item.environmentID
    image := item.image, deleted, actorID := identity.operatorID
    requestID := identity.requestID })
  require context .foreignKey (db.definitions.lookup item.environmentID).isSome
  require context .foreignKey (taskTypeReference db item.teamID item.taskTypeID)
  Tx.set { db with revisions }

/-- The revision row of a definition, with the secret names of `db`. -/
def revisionRow (db : Db) (identity : GatewayIdentity) (item : DefinitionRow)
    (scope : LaunchScope) (deleted : Bool) : RevisionRow where
  environmentID := item.environmentID
  revision := item.revision
  teamID := item.teamID
  scopeKind := scope
  taskTypeID := item.taskTypeID
  name := item.name
  values := item.values
  secretKeys := revisionSecretKeys db item.teamID item.environmentID
  image := item.image
  deleted := deleted
  actorID := identity.operatorID
  requestID := identity.requestID

variable {db : Db} {u : Unit} {req : LaunchParameterWrite}

theorem appendLaunchParameterRevision_ok {scope : LaunchScope} {deleted : Bool}
    (h : appendLaunchParameterRevision identity item scope deleted db = .ok (u, db')) :
    ∃ revisions, db.revisions.insert (revisionRow db identity item scope deleted) =
      .ok revisions ∧ db' = { db with revisions } := by
  simp only [appendLaunchParameterRevision, Tx.bind_eq_ok, Tx.exists_get, exists_refuse,
    exists_require, Tx.set_eq_ok] at h
  obtain ⟨revisions, hr, -, -, rfl⟩ := h
  exact ⟨revisions, hr, rfl⟩

/-- A live definition of the operator's team was rewritten by `f`, and `revisions` has the
    row of what came out. -/
structure Recorded (db : Db) (identity : GatewayIdentity) (environmentID : String)
    (f : DefinitionRow → DefinitionRow) (row : DefinitionRow) (revisions : Table revisionSchema) :
    Prop where
  found : db.definitions.lookup environmentID = some row
  owned : row.teamID = some identity.teamID
  live : row.deleted = false
  appended : ∃ scope, (f row).scopeKind = some scope ∧
    db.revisions.insert (revisionRow db identity (f row) scope (f row).deleted) = .ok revisions

/-- The audit row of an operator's write to `resourceType`. -/
def appendOperatorAudit (context auditID resourceType : String) (identity : GatewayIdentity)
    (action resourceID : String) : StoreTx Unit :=
  insertAudit context {
    auditID, teamID := some identity.teamID, actorID := identity.operatorID
    actorType := .operator, action, resourceType, resourceID
    requestID := identity.requestID, outcome := .accepted, executorScope := none }

def appendEnvironmentAudit (auditID : String) (identity : GatewayIdentity)
    (action environmentID : String) : StoreTx Unit :=
  appendOperatorAudit "append environment audit" auditID "environment" identity action environmentID

theorem appendOperatorAudit_ok {context auditID resourceType action resourceID : String}
    (h : appendOperatorAudit context auditID resourceType identity action resourceID db =
      .ok (u, db')) : ∃ auditEntries, db' = { db with auditEntries } := by
  obtain ⟨a, -, -, rfl⟩ := insertAudit_eq_ok.mp h
  exact ⟨a, rfl⟩

/-! ## Section 2: Definitions -/

def classifyLaunchParameterWrite : Violation → StoreError
  | .primaryKey => .launchParameterConflict
  | .unique => .launchParameterConflict
  | .foreignKey => .environmentUnavailable
  | v => wrap "write launch parameters" v

/-- Only team scope without a task type, and task-type scope with a task type of
    the team, can be written. -/
def verifyLaunchParameterScope (teamID : String) (req : LaunchParameterWrite) : StoreTx Unit := do
  let db ← Tx.get
  Tx.ensure
    ((req.scope = .team ∧ req.taskTypeID = none) ∨
      (req.scope = .taskType ∧ ∃ taskType ∈ req.taskTypeID, taskType ≠ "" ∧
        (db.taskTypes.lookup taskType).any (fun r => r.teamID = teamID)))
    .environmentUnavailable

/-- `UPDATE environment_definitions SET … WHERE environment_id = $1 AND cond RETURNING …`. -/
def updateDefinition (err : Violation → StoreError) (environmentID : String)
    (cond : DefinitionRow → Bool) (f : DefinitionRow → DefinitionRow)
    (hf : ∀ r, (f r).environmentID = r.environmentID) : StoreTx DefinitionRow := do
  let db ← Tx.get
  let row ← Tx.ofOption ((db.definitions.lookup environmentID).filter cond) .environmentUnavailable
  let definitions ← refuse err (db.definitions.update environmentID f hf)
  Tx.set { db with definitions }
  return f row

theorem updateDefinition_ok {err : Violation → StoreError} {cond : DefinitionRow → Bool}
    {f : DefinitionRow → DefinitionRow} {hf : ∀ r, (f r).environmentID = r.environmentID}
    (h : updateDefinition err environmentID cond f hf db = .ok (item, db')) :
    ∃ row definitions, db.definitions.lookup environmentID = some row ∧ cond row = true ∧
      db.definitions.update environmentID f hf = .ok definitions ∧ item = f row ∧
      db' = { db with definitions } := by
  simp only [updateDefinition, Tx.bind_eq_ok, Tx.exists_get, Tx.exists_ofOption, exists_refuse,
    Tx.exists_set, Tx.pure_eq_ok, Option.filter_eq_some_iff] at h
  obtain ⟨row, ⟨hrow, hcond⟩, definitions, hd, rfl, rfl⟩ := h
  exact ⟨row, definitions, hrow, hcond, hd, rfl, rfl⟩

/-- `INSERT INTO environment_definitions`. -/
def insertDefinition (row : DefinitionRow) : StoreTx Unit := do
  let db ← Tx.get
  let definitions ← refuse classifyLaunchParameterWrite (db.definitions.insert row)
  require classifyLaunchParameterWrite .foreignKey
    (∀ team ∈ row.teamID, (db.teams.lookup team).isSome)
  require classifyLaunchParameterWrite .foreignKey (taskTypeReference db row.teamID row.taskTypeID)
  Tx.set { db with definitions }

def createLaunchParameters (env : CallEnv) (identity : GatewayIdentity)
    (req : LaunchParameterWrite) : StoreTx DefinitionRow := do
  verifyLaunchParameterScope identity.teamID req
  let item : DefinitionRow := {
    environmentID := env.uuid 0, teamID := some identity.teamID, scopeKind := some req.scope
    taskTypeID := req.taskTypeID, name := req.name, values := req.env, image := req.image
    revision := 1, deleted := false, createdAt := env.txTime, updatedAt := env.txTime }
  insertDefinition item
  appendLaunchParameterRevision identity item req.scope false
  appendEnvironmentAudit (env.uuid 1) identity "environment.create" item.environmentID
  return item

theorem createLaunchParameters_ok
    (h : createLaunchParameters env identity req db = .ok (item, db')) :
    ∃ definitions revisions auditEntries, db.definitions.insert item = .ok definitions ∧
      item.values = req.env ∧ item.image = req.image ∧
      item.scopeKind = some req.scope ∧ item.revision = 1 ∧ item.deleted = false ∧
      db.revisions.insert (revisionRow db identity item req.scope false) = .ok revisions ∧
      db' = { db with definitions, revisions, auditEntries } := by
  simp only [createLaunchParameters, verifyLaunchParameterScope, insertDefinition, Tx.bind_eq_ok,
    Tx.exists_get, Tx.ensure_eq_ok, exists_refuse, exists_require, Tx.set_eq_ok, Tx.pure_eq_ok] at h
  obtain ⟨_, _, ⟨-, rfl⟩, _, _, ⟨definitions, hd, -, -, rfl⟩, _, _, hrev, _, _, haudit, rfl,
    rfl⟩ := h
  obtain ⟨revisions, hr, rfl⟩ := appendLaunchParameterRevision_ok hrev
  obtain ⟨a, rfl⟩ := appendOperatorAudit_ok haudit
  exact ⟨definitions, revisions, a, hd, rfl, rfl, rfl, rfl, rfl, hr, rfl⟩

/-- Secrets of a definition, `ORDER BY created_at, secret_id`. -/
def listSecretSummaries (db : Db) (teamID environmentID : String) : List SecretRow :=
  (db.secrets.rows.filter (fun r =>
      r.teamID = some teamID && r.environmentID = environmentID)).insertionSort
    (fun a b => toLex (a.createdAt, a.secretID) ≤ toLex (b.createdAt, b.secretID))

/-- The row after `ReplaceLaunchParameters`. -/
def LaunchParameterWrite.replace (env : CallEnv) (req : LaunchParameterWrite)
    (row : DefinitionRow) : DefinitionRow :=
  { row with
    name := req.name, values := req.env, image := req.image
    revision := row.revision + 1, updatedAt := env.txTime }

def replaceLaunchParameters (env : CallEnv) (identity : GatewayIdentity) (environmentID : String)
    (req : LaunchParameterWrite) : StoreTx (DefinitionRow × List SecretRow) := do
  verifyLaunchParameterScope identity.teamID req
  let item ← updateDefinition classifyLaunchParameterWrite environmentID
    (fun r => r.teamID = some identity.teamID && r.scopeKind = some req.scope &&
      r.taskTypeID = req.taskTypeID && !r.deleted)
    (req.replace env) (fun _ => rfl)
  appendLaunchParameterRevision identity item req.scope false
  appendEnvironmentAudit (env.uuid 0) identity "environment.replace" environmentID
  let db ← Tx.get
  return (item, listSecretSummaries db identity.teamID environmentID)

theorem replaceLaunchParameters_ok {result : DefinitionRow × List SecretRow}
    (h : replaceLaunchParameters env identity environmentID req db = .ok (result, db')) :
    ∃ row definitions revisions auditEntries,
      db.definitions.update environmentID (req.replace env) (fun _ => rfl) = .ok definitions ∧
      Recorded db identity environmentID (req.replace env) row revisions ∧
      db' = { db with definitions, revisions, auditEntries } := by
  simp only [replaceLaunchParameters, verifyLaunchParameterScope, Tx.bind_eq_ok, Tx.exists_get,
    Tx.ensure_eq_ok, Tx.pure_eq_ok] at h
  obtain ⟨_, _, ⟨-, rfl⟩, item, _, hupd, _, _, hrev, _, _, haudit, -, rfl⟩ := h
  obtain ⟨row, definitions, hrow, hcond, hd, rfl, rfl⟩ := updateDefinition_ok hupd
  obtain ⟨revisions, hr, rfl⟩ := appendLaunchParameterRevision_ok hrev
  obtain ⟨a, rfl⟩ := appendOperatorAudit_ok haudit
  simp only [Bool.and_eq_true, decide_eq_true_eq, Bool.not_eq_true'] at hcond
  obtain ⟨⟨⟨hteam, hscope⟩, -⟩, hlive⟩ := hcond
  have hdeleted : (req.replace env row).deleted = false := hlive
  rw [← hdeleted] at hr
  exact ⟨row, definitions, revisions, a, hd, ⟨hrow, hteam, hlive, req.scope, hscope, hr⟩, rfl⟩

/-- The row after `DeleteLaunchParameters`. -/
def DefinitionRow.delete (env : CallEnv) (row : DefinitionRow) : DefinitionRow :=
  { row with deleted := true, revision := row.revision + 1, updatedAt := env.txTime }

def deleteLaunchParameters (env : CallEnv) (identity : GatewayIdentity) (environmentID : String) :
    StoreTx Unit := do
  let item ← updateDefinition (wrap "delete launch parameters") environmentID
    (fun r => r.teamID = some identity.teamID && r.scopeKind.isSome && !r.deleted)
    (DefinitionRow.delete env) (fun _ => rfl)
  let scope ← Tx.ofOption item.scopeKind .environmentUnavailable
  appendLaunchParameterRevision identity item scope true
  appendEnvironmentAudit (env.uuid 0) identity "environment.delete" environmentID

theorem deleteLaunchParameters_ok
    (h : deleteLaunchParameters env identity environmentID db = .ok (u, db')) :
    ∃ row definitions revisions auditEntries,
      db.definitions.update environmentID (DefinitionRow.delete env) (fun _ => rfl) =
        .ok definitions ∧
      Recorded db identity environmentID (DefinitionRow.delete env) row revisions ∧
      db' = { db with definitions, revisions, auditEntries } := by
  simp only [deleteLaunchParameters, Tx.bind_eq_ok, Tx.exists_ofOption] at h
  obtain ⟨item, _, hupd, scope, hscope, _, _, hrev, haudit⟩ := h
  obtain ⟨row, definitions, hrow, hcond, hd, rfl, rfl⟩ := updateDefinition_ok hupd
  obtain ⟨revisions, hr, rfl⟩ := appendLaunchParameterRevision_ok hrev
  obtain ⟨a, rfl⟩ := appendOperatorAudit_ok haudit
  simp only [Bool.and_eq_true, decide_eq_true_eq, Bool.not_eq_true'] at hcond
  obtain ⟨⟨hteam, -⟩, hlive⟩ := hcond
  exact ⟨row, definitions, revisions, a, hd, ⟨hrow, hteam, hlive, scope, hscope, hr⟩, rfl⟩

end FlowAI.Registry
