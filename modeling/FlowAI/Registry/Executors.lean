import FlowAI.Registry.Admin
import Mathlib.Data.Prod.Lex

/-! # Executors

  Registration and discovery (`RegisterExecutor`, `DiscoverExecutorTasks` of
  `store/executor.go`).  A second registration keeps scope and team and
  overwrites everything else, the authorized tag included.
-/

namespace FlowAI.Registry

/-! ## Section 1: Registration -/

def classifyExecutorError : Violation → StoreError
  | .foreignKey => .teamNotFound
  | v => wrap "persist executor registration" v

/-- The row an `INSERT` of the registration writes. -/
def ExecutorRegistrationRequest.row (req : ExecutorRegistrationRequest) (env : CallEnv)
    (executorID : String) : ExecutorRow where
  executorID := executorID
  scope := req.scope
  teamID := req.teamID
  executorType := req.executorType
  identity := executorID
  authorizedTag := req.authorizedTag
  maxCapacity := req.maxCapacity
  runningCount := req.runningCount
  runtimeMetadata := req.runtimeMetadata.jsonb
  registeredAt := env.txTime
  updatedAt := env.txTime

/-- The row an `UPDATE` of the registration leaves. -/
def ExecutorRegistrationRequest.refresh (req : ExecutorRegistrationRequest) (env : CallEnv)
    (row : ExecutorRow) : ExecutorRow :=
  { row with
    executorType := req.executorType, identity := row.executorID
    authorizedTag := req.authorizedTag, maxCapacity := req.maxCapacity
    runningCount := req.runningCount, runtimeMetadata := req.runtimeMetadata.jsonb
    updatedAt := env.txTime }

/-- The caller registers itself, under the scope and team it authenticated with. -/
def ExecutorIdentity.registers (identity : ExecutorIdentity) (executorID : String)
    (req : ExecutorRegistrationRequest) : Bool :=
  identity.executorID = executorID && identity.scope = req.scope && identity.teamID = req.teamID

def registerExecutor (cfg : Config) (env : CallEnv) (executorID : String)
    (req : ExecutorRegistrationRequest) (identity : ExecutorIdentity) : StoreTx ExecutorRow := do
  let db ← Tx.get
  match db.executors.lookup executorID with
  | some existing =>
    Tx.ensure (existing.scope = req.scope) .executorScopeConflict
    Tx.ensure (existing.teamID = req.teamID) .executorTeamConflict
    Tx.ensure (identity.registers executorID req) .executorIdentityMismatch
    require classifyExecutorError .check (cfg.jsonbAdmits req.runtimeMetadata)
    let executors ← refuse classifyExecutorError
      (db.executors.update executorID (req.refresh env) (fun _ => rfl))
    Tx.set { db with executors }
    return req.refresh env existing
  | none =>
    Tx.ensure (identity.registers executorID req) .executorIdentityMismatch
    require classifyExecutorError .check (cfg.jsonbAdmits req.runtimeMetadata)
    let executors ← refuse classifyExecutorError (db.executors.insert (req.row env executorID))
    require classifyExecutorError .foreignKey
      (∀ team ∈ req.teamID, (db.teams.lookup team).isSome)
    Tx.set { db with executors }
    return req.row env executorID

theorem registerExecutor_ok {cfg : Config} {env : CallEnv} {executorID : String}
    {req : ExecutorRegistrationRequest} {identity : ExecutorIdentity} {db db' : Db}
    {row : ExecutorRow}
    (h : registerExecutor cfg env executorID req identity db = .ok (row, db')) :
    ∃ executors, db' = { db with executors } ∧
      ((db.executors.lookup executorID).isSome ∧
          db.executors.update executorID (req.refresh env) (fun _ => rfl) = .ok executors ∨
        db.executors.insert (req.row env executorID) = .ok executors ∧
          ∀ team ∈ req.teamID, (db.teams.lookup team).isSome) := by
  simp only [registerExecutor, Tx.bind_eq_ok, Tx.exists_get] at h
  cases hl : db.executors.lookup executorID with
  | some existing =>
    simp only [hl, Tx.bind_eq_ok, Tx.exists_ensure, exists_require, exists_refuse, Tx.exists_set,
      Tx.pure_eq_ok] at h
    obtain ⟨-, -, -, -, executors, hu, -, rfl⟩ := h
    exact ⟨executors, rfl, .inl ⟨rfl, hu⟩⟩
  | none =>
    simp only [hl, Tx.bind_eq_ok, Tx.exists_ensure, exists_require, exists_refuse, Tx.exists_set,
      Tx.pure_eq_ok] at h
    obtain ⟨-, -, executors, hi, hfk, -, rfl⟩ := h
    exact ⟨executors, rfl, .inr ⟨hi, hfk⟩⟩

/-! ## Section 2: Discovery -/

/-- The FIFO position of a task. -/
def TaskRow.position (t : TaskRow) : Lex (Int × String) := toLex (t.ingestedAt, t.taskID)

/-- A task the executor may claim: pending, with its tag, and of its team when the
    executor is team-scoped. -/
def TaskRow.eligible (t : TaskRow) (tag : String) (scope : ExecutorScope)
    (teamID : Option String) : Bool :=
  t.currentState = .pending && t.requiredTag = tag &&
    (match scope with
      | .team => t.teamID = teamID.getD ""
      | .system => true)

/-- Pending tasks of the executor in FIFO order. -/
def discoverExecutorTasks (db : Db) (executorID tag : String) (limit : Nat) :
    Except StoreError (List TaskRow) :=
  match db.executors.lookup executorID with
  | none => .error .executorNotFound
  | some executor =>
    if tag ≠ executor.authorizedTag then .error .executorTagMismatch
    else .ok (((db.tasks.rows.filter
      (·.eligible executor.authorizedTag executor.scope executor.teamID)).insertionSort
        (fun a b => a.position ≤ b.position)).take limit)

end FlowAI.Registry
