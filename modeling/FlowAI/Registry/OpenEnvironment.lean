import FlowAI.Registry.Claims

/-! # Opening the Environment

  `OpenEnvironment` of `store/scope_tokens.go`: the executor of a task trades the
  scope token of its claim for the frozen launch parameters, with every secret
  decrypted.  Each denial is the same error.
-/

namespace FlowAI.Registry

/-! ## Section 1: Verifying the token -/

/-- Thirty seconds in nanoseconds. -/
def scopeTokenSkew : Int := 30000000000

/-- The time window of a token at an instant. -/
def scopeTokenWindow (now issuedAt expiry : Int) : Bool :=
  decide (issuedAt ≤ now + scopeTokenSkew) && decide (issuedAt < expiry) &&
    decide (expiry - issuedAt ≤ scopeTokenLifetime) && decide (now < expiry)

/-- The claims are complete, meant for this operation, and in their window. -/
def ScopeTokenClaims.admissible (claims : ScopeTokenClaims) (now : Int) : Bool :=
  match Time.parseRFC3339Nano claims.issuedAt, Time.parseRFC3339Nano claims.expiry with
  | some issuedAt, some expiry =>
    claims.teamID ≠ "" && claims.taskID ≠ "" && claims.executorID ≠ "" &&
      claims.audience = scopeTokenAudience && scopeTokenWindow now issuedAt expiry
  | _, _ => false

/-- `verifyScopeToken`; `none` stands for the one error it returns. -/
def verifyScopeToken (cfg : Config) (env : CallEnv) (token : String) : Option ScopeTokenClaims :=
  match cfg.keyring, cfg.aead with
  | some keyring, some _ =>
    if token.utf8ByteSize = 0 || token.utf8ByteSize > 8192 then none
    else (keyring.decode token).filter (·.admissible env.now)
  | _, _ => none

/-! ## Section 2: Decrypting the references -/

/-- The references of a task with their version rows, in key order. -/
def openSecretRows (db : Db) (teamID taskID : String) : List (SecretRefRow × SecretVersionRow) :=
  ((db.secretRefs.rows.filter (fun r => r.teamID = teamID && r.taskID = taskID)).insertionSort
    (fun a b => a.key ≤ b.key)).filterMap (fun r =>
      (db.secretVersions.lookup (r.secretID, r.version)).map (r, ·))

/-- The plaintext of a stored version. -/
def SecretVersionRow.decrypt (aead : Aead) (v : SecretVersionRow) : Option String :=
  decryptSecret aead (v.teamID.getD "") v.secretID v.version v.ciphertext v.nonce
    v.authenticationTag

/-- The loop over the joined rows: the values if every secret decrypts, and how often
    `RecordDecrypt` was called. -/
def openRows (aead : Aead) :
    List (SecretRefRow × SecretVersionRow) → StrMap String → Option (StrMap String) × Nat
  | [], values => (some values, 0)
  | (ref, version) :: rest, values =>
    match version.decrypt aead with
    | none => (none, 0)
    | some plaintext => (openRows aead rest (values.insert ref.key plaintext)).map id (· + 1)

def decryptAll (aead : Aead) (rows : List (SecretRefRow × SecretVersionRow))
    (values : StrMap String) : Option (StrMap String) :=
  (openRows aead rows values).1

/-! ## Section 3: `OpenEnvironment` -/

structure OpenEnvironmentRequest where
  taskID : String
  token : String
  identity : ExecutorIdentity
  requestID : String

structure OpenEnvironmentResponse where
  teamID : String
  taskID : String
  executorID : String
  values : StrMap String
  deriving DecidableEq

/-- The token speaks for the caller and the task. -/
def ScopeTokenClaims.namesCall (claims : ScopeTokenClaims) (req : OpenEnvironmentRequest) : Bool :=
  claims.taskID = req.taskID && claims.executorID = req.identity.executorID

/-- The task is assigned to the caller, live, and of the team the token names. -/
def mayOpen (claims : ScopeTokenClaims) (identity : ExecutorIdentity) (task : TaskRow) : Bool :=
  task.executorID = some identity.executorID && claims.teamID = task.teamID &&
    task.executorID = some claims.executorID &&
    (task.currentState = .created || task.currentState = .running) &&
    (match identity.scope with
      | .team => identity.teamID = some task.teamID
      | .system => true)

/-- An executor may open a live task of its own that it could see when it claimed it. -/
theorem mayOpen_of_sees {claims : ScopeTokenClaims} {identity : ExecutorIdentity}
    {executor : ExecutorRow} {task task₀ : TaskRow} (hsees : executor.sees task₀ = true)
    (hscope : identity.scope = executor.scope) (hbound : identity.teamID = executor.teamID)
    (hsame : task.teamID = task₀.teamID) (hheld : task.executorID = some identity.executorID)
    (hlive : task.currentState = .created ∨ task.currentState = .running)
    (hteam : claims.teamID = task.teamID) (hname : claims.executorID = identity.executorID) :
    mayOpen claims identity task = true := by
  simp only [mayOpen, hheld, hname, hteam, hscope, hbound, hsame, Bool.and_eq_true, Bool.or_eq_true,
    decide_eq_true_eq, true_and]
  refine ⟨hlive, ?_⟩
  unfold ExecutorRow.sees at hsees
  cases hs : executor.scope with
  | system => rfl
  | team =>
    rw [hs] at hsees
    cases ht : executor.teamID with
    | none => simp [ht] at hsees
    | some team =>
      simp only [ht, Option.getD_some, Bool.and_eq_true, decide_eq_true_eq] at hsees
      simp [hsees.2]

/-- The audit row of a successful open. -/
def openAudit (env : CallEnv) (req : OpenEnvironmentRequest) (task : TaskRow) : AuditRow where
  auditID := env.uuid 0
  teamID := some task.teamID
  actorID := req.identity.executorID
  actorType := .executor
  action := "launch_parameters.open"
  resourceType := "task"
  resourceID := req.taskID
  requestID := req.requestID
  outcome := .succeeded
  executorScope := some req.identity.scope

def openEnvironment (cfg : Config) (env : CallEnv) (req : OpenEnvironmentRequest) :
    StoreTx OpenEnvironmentResponse := do
  let claims ← Tx.ofOption (verifyScopeToken cfg env req.token) .environmentUnavailable
  let aead ← Tx.ofOption cfg.aead .environmentUnavailable
  Tx.ensure (claims.namesCall req) .environmentUnavailable
  let db ← Tx.get
  let task ← Tx.ofOption (db.tasks.lookup req.taskID) .environmentUnavailable
  let snapshot ← Tx.ofOption ((db.snapshots.lookup req.taskID).filter
    (fun s => s.teamID = task.teamID)) .environmentUnavailable
  Tx.ensure (mayOpen claims req.identity task) .environmentUnavailable
  let values ← Tx.ofOption
    (decryptAll aead (openSecretRows db task.teamID req.taskID) snapshot.values)
    .environmentUnavailable
  insertAudit "append environment open audit" (openAudit env req task)
  return ⟨task.teamID, req.taskID, req.identity.executorID, values⟩

/-- What `OpenEnvironment` checks before the loop. -/
def openChecks (cfg : Config) (env : CallEnv) (req : OpenEnvironmentRequest) (db : Db) :
    Option (Aead × TaskRow × SnapshotRow) :=
  (verifyScopeToken cfg env req.token).bind fun claims =>
  cfg.aead.bind fun aead =>
  if claims.namesCall req = true then
    (db.tasks.lookup req.taskID).bind fun task =>
    ((db.snapshots.lookup req.taskID).filter (fun s => s.teamID = task.teamID)).bind fun snapshot =>
    if mayOpen claims req.identity task = true then some (aead, task, snapshot) else none
  else none

section Inversion

variable {cfg : Config} {env : CallEnv} {req : OpenEnvironmentRequest} {db db' : Db}
  {response : OpenEnvironmentResponse}

/-- An open succeeds after its checks if every row decrypts and the audit entry is accepted. -/
theorem openEnvironment_eq_ok :
    openEnvironment cfg env req db = .ok (response, db') ↔ ∃ aead task snapshot values,
      openChecks cfg env req db = some (aead, task, snapshot) ∧
      decryptAll aead (openSecretRows db task.teamID req.taskID) snapshot.values = some values ∧
      insertAudit "append environment open audit" (openAudit env req task) db = .ok ((), db') ∧
      response = ⟨task.teamID, req.taskID, req.identity.executorID, values⟩ := by
  simp only [openEnvironment, openChecks, Tx.bind_eq_ok, Tx.exists_get, Tx.exists_ofOption,
    Tx.exists_ensure, Tx.pure_eq_ok, Option.bind_eq_some_iff, Option.ite_none_right_eq_some]
  constructor
  · rintro ⟨claims, hclaims, aead, haead, hcall, task, htask, snapshot, hsnap, hmay, values,
      hvalues,
      _, _, haudit, rfl, rfl⟩
    exact ⟨aead, task, snapshot, values, ⟨claims, hclaims, aead, haead, hcall, task, htask,
      snapshot,
      hsnap, hmay, rfl⟩, hvalues, haudit, rfl⟩
  · rintro ⟨aead, task, snapshot, values, ⟨claims, hclaims, _, haead, hcall, _, htask, _, hsnap,
      hmay, heq⟩, hvalues, haudit, rfl⟩
    cases heq
    exact ⟨claims, hclaims, aead, haead, hcall, task, htask, snapshot, hsnap, hmay, values, hvalues,
      (), db', haudit, rfl, rfl⟩

/-- What a successful open rests on. -/
structure Opened (cfg : Config) (env : CallEnv) (req : OpenEnvironmentRequest)
    (response : OpenEnvironmentResponse) (db : Db) : Prop where
  rows : ∃ claims aead task snapshot, verifyScopeToken cfg env req.token = some claims ∧
    cfg.aead = some aead ∧ claims.namesCall req = true ∧
    db.tasks.lookup req.taskID = some task ∧
    db.snapshots.lookup req.taskID = some snapshot ∧ snapshot.teamID = task.teamID ∧
    mayOpen claims req.identity task = true ∧
    response.teamID = task.teamID ∧
    decryptAll aead (openSecretRows db task.teamID req.taskID) snapshot.values =
      some response.values
  task : response.taskID = req.taskID
  executor : response.executorID = req.identity.executorID

theorem openEnvironment_ok (h : openEnvironment cfg env req db = .ok (response, db')) :
    Opened cfg env req response db ∧ ∃ auditEntries, db' = { db with auditEntries } := by
  obtain ⟨aead, task, snapshot, values, hchecks, hvalues, haudit, rfl⟩ :=
    openEnvironment_eq_ok.mp h
  simp only [openChecks, Option.bind_eq_some_iff, Option.ite_none_right_eq_some,
    Option.filter_eq_some_iff, decide_eq_true_eq] at hchecks
  obtain ⟨claims, hclaims, _, haead, hcall, _, htask, _, ⟨hsnap, hteam⟩, hmay, heq⟩ := hchecks
  cases heq
  obtain ⟨audits, -, -, rfl⟩ := insertAudit_eq_ok.mp haudit
  exact ⟨⟨⟨claims, aead, task, snapshot, hclaims, haead, hcall, htask, hsnap, hteam, hmay, rfl,
    hvalues⟩, rfl, rfl⟩, audits, rfl⟩

end Inversion

end FlowAI.Registry
