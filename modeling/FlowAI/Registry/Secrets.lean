import FlowAI.Registry.LaunchParameters

/-! # Secrets

  Logical secrets of a definition and their encrypted versions
  (`store/secrets.go`).  A version row is written once, under associated data
  that names team, secret and version; replacing a secret adds the next
  version, revoking one only marks the logical row.
-/

namespace FlowAI.Registry

variable {db' : Db} {env : CallEnv} {identity : GatewayIdentity} {environmentID secretID : String}

def localKeyID : String := "local-aes-v1"

/-! ## Section 1: Encryption -/

/-- `fmt.Sprintf("%s\x00%s\x00%d", teamID, secretID, version)`. -/
def secretAAD (teamID secretID : String) (version : Nat) : String :=
  teamID ++ "\x00" ++ secretID ++ "\x00" ++ toString version

/-- The version row of a freshly encrypted plaintext. -/
def encryptedVersion (aead : Aead) (env : CallEnv) (teamID secretID : String) (version : Nat)
    (plaintext : String) : SecretVersionRow :=
  let ct := aead.sealText env.nonce (secretAAD teamID secretID version) plaintext
  { secretID, version, teamID := some teamID, ciphertext := ct.1, nonce := env.nonce
    authenticationTag := ct.2, keyID := localKeyID, keyVersion := 1, createdAt := env.txTime }

def decryptSecret (aead : Aead) (teamID secretID : String) (version : Nat)
    (ciphertext nonce tag : String) : Option String :=
  aead.openText nonce (secretAAD teamID secretID version) ciphertext tag

/-! ## Section 2: Statements -/

/-- A live definition of the team that may carry secrets. -/
def DefinitionRow.ownsSecrets (teamID : String) (r : DefinitionRow) : Bool :=
  r.teamID = some teamID && (r.scopeKind = some .team || r.scopeKind = some .taskType) && !r.deleted

def verifyLaunchDefinitionForSecret (teamID environmentID : String) : StoreTx Unit := do
  let db ← Tx.get
  Tx.ensure ((db.definitions.lookup environmentID).any (·.ownsSecrets teamID))
    .environmentUnavailable

/-- `INSERT INTO secrets`. -/
def insertSecret (row : SecretRow) : StoreTx Unit := do
  let db ← Tx.get
  let context := wrap "insert logical secret"
  let secrets ← refuse context (db.secrets.insert row)
  require context .foreignKey (∀ team ∈ row.teamID, (db.teams.lookup team).isSome)
  require context .foreignKey (∀ team ∈ row.teamID,
    (db.definitions.lookup row.environmentID).any (fun r => r.teamID = some team))
  Tx.set { db with secrets }

def insertSecretVersion (row : SecretVersionRow) : StoreTx Unit := do
  let db ← Tx.get
  let context := wrap "insert secret version"
  let secretVersions ← refuse context (db.secretVersions.insert row)
  require context .foreignKey (∀ team ∈ row.teamID,
    (db.secrets.lookup row.secretID).any (fun r => r.teamID = some team))
  Tx.set { db with secretVersions }

variable {db : Db} {result : SecretRow × SecretVersionRow}

theorem insertSecretVersion_ok {row : SecretVersionRow} {u : Unit}
    (h : insertSecretVersion row db = .ok (u, db')) :
    ∃ secretVersions, db.secretVersions.insert row = .ok secretVersions ∧
      db' = { db with secretVersions } := by
  simp only [insertSecretVersion, Tx.bind_eq_ok, Tx.exists_get, exists_refuse, exists_require,
    Tx.set_eq_ok] at h
  obtain ⟨versions, hv, -, rfl⟩ := h
  exact ⟨versions, hv, rfl⟩

/-- A definition whose revision is bumped because a secret of it changed. -/
def DefinitionRow.touch (env : CallEnv) (row : DefinitionRow) : DefinitionRow :=
  { row with revision := row.revision + 1, updatedAt := env.txTime }

def appendSecretDefinitionRevision (env : CallEnv) (identity : GatewayIdentity)
    (environmentID : String) : StoreTx Unit := do
  let item ← updateDefinition (wrap "advance launch parameter revision for secret") environmentID
    (·.ownsSecrets identity.teamID) (DefinitionRow.touch env) (fun _ => rfl)
  let scope ← Tx.ofOption item.scopeKind .environmentUnavailable
  appendLaunchParameterRevision identity item scope false

theorem appendSecretDefinitionRevision_ok {u : Unit}
    (h : appendSecretDefinitionRevision env identity environmentID db = .ok (u, db')) :
    ∃ row definitions revisions,
      db.definitions.update environmentID (DefinitionRow.touch env) (fun _ => rfl) =
        .ok definitions ∧
      Recorded db identity environmentID (DefinitionRow.touch env) row revisions ∧
      db' = { db with definitions, revisions } := by
  simp only [appendSecretDefinitionRevision, Tx.bind_eq_ok, Tx.exists_ofOption] at h
  obtain ⟨item, _, hupd, scope, hscope, hrev⟩ := h
  obtain ⟨row, definitions, hrow, hcond, hd, rfl, rfl⟩ := updateDefinition_ok hupd
  obtain ⟨revisions, hr, rfl⟩ := appendLaunchParameterRevision_ok hrev
  simp only [DefinitionRow.ownsSecrets, Bool.and_eq_true, decide_eq_true_eq,
    Bool.not_eq_true'] at hcond
  obtain ⟨⟨hteam, -⟩, hlive⟩ := hcond
  have hdeleted : (row.touch env).deleted = false := hlive
  rw [← hdeleted] at hr
  exact ⟨row, definitions, revisions, hd, ⟨hrow, hteam, hlive, scope, hscope, hr⟩, rfl⟩

def appendSecretAudit (auditID : String) (identity : GatewayIdentity) (action secretID : String) :
    StoreTx Unit :=
  appendOperatorAudit "append secret audit" auditID "secret" identity action secretID

def aesKeyUnavailable : StoreError := .plain "AES-256-GCM key unavailable"

/-! ## Section 3: Operations -/

def createSecret (cfg : Config) (env : CallEnv) (identity : GatewayIdentity)
    (environmentID : String) (req : SecretCreateRequest) :
    StoreTx (SecretRow × SecretVersionRow) := do
  let aead ← Tx.ofOption cfg.aead aesKeyUnavailable
  verifyLaunchDefinitionForSecret identity.teamID environmentID
  let secret : SecretRow := {
    secretID := env.uuid 0, teamID := some identity.teamID, environmentID, name := req.name
    revoked := false, latestVersion := 1, createdAt := env.txTime, updatedAt := env.txTime }
  let version := encryptedVersion aead env identity.teamID secret.secretID 1 req.value
  insertSecret secret
  insertSecretVersion version
  appendSecretDefinitionRevision env identity environmentID
  appendSecretAudit (env.uuid 1) identity "secret.create" secret.secretID
  return (secret, version)

theorem createSecret_ok {cfg : Config} {req : SecretCreateRequest}
    (h : createSecret cfg env identity environmentID req db = .ok (result, db')) :
    ∃ aead secrets secretVersions row definitions revisions auditEntries,
      cfg.aead = some aead ∧
      result.1.name = req.name ∧ result.1.latestVersion = 1 ∧
      result.1.teamID = some identity.teamID ∧ result.1.environmentID = environmentID ∧
      result.2 = encryptedVersion aead env identity.teamID result.1.secretID 1 req.value ∧
      db.secrets.insert result.1 = .ok secrets ∧
      db.secretVersions.insert result.2 = .ok secretVersions ∧
      db.definitions.update environmentID (DefinitionRow.touch env) (fun _ => rfl) =
        .ok definitions ∧
      Recorded { db with secrets } identity environmentID (DefinitionRow.touch env) row
        revisions ∧
      db' = { db with secrets, secretVersions, definitions, revisions, auditEntries } := by
  simp only [createSecret, verifyLaunchDefinitionForSecret, insertSecret, Tx.bind_eq_ok,
    Tx.exists_get, Tx.exists_ofOption, Tx.ensure_eq_ok, exists_refuse, exists_require, Tx.set_eq_ok,
    Tx.pure_eq_ok] at h
  obtain ⟨aead, haead, _, _, ⟨-, rfl⟩, _, _, ⟨secrets, hs, -, -, rfl⟩, _, _, hv, _, _, hrev, _, _,
    haudit, rfl, rfl⟩ := h
  obtain ⟨versions, hins, rfl⟩ := insertSecretVersion_ok hv
  obtain ⟨row, definitions, revisions, hd, hr, rfl⟩ := appendSecretDefinitionRevision_ok hrev
  obtain ⟨a, rfl⟩ := appendOperatorAudit_ok haudit
  exact ⟨aead, secrets, versions, row, definitions, revisions, a, haead, rfl, rfl, rfl, rfl, rfl,
    hs, hins, hd, ⟨hr.found, hr.owned, hr.live, hr.appended⟩, rfl⟩

/-- `SELECT … FROM secrets WHERE team_id = $1 AND environment_id = $2 AND secret_id = $3
    FOR UPDATE`, with a further condition on the row. -/
def lockSecret (teamID environmentID secretID : String) (cond : SecretRow → Bool) :
    StoreTx SecretRow := do
  let db ← Tx.get
  Tx.ofOption ((db.secrets.lookup secretID).filter (fun r =>
    r.teamID = some teamID && r.environmentID = environmentID && cond r)) .environmentUnavailable

theorem lockSecret_eq_ok {teamID : String} {cond : SecretRow → Bool} {secret : SecretRow} :
    lockSecret teamID environmentID secretID cond db = .ok (secret, db') ↔
      (db.secrets.lookup secretID = some secret ∧ secret.teamID = some teamID ∧
        secret.environmentID = environmentID ∧ cond secret = true) ∧ db = db' := by
  simp [lockSecret, Tx.bind_eq_ok, Option.filter_eq_some_iff, and_assoc]

/-- The row after a replacement advanced it to `version`. -/
def SecretRow.advance (env : CallEnv) (version : Nat) (row : SecretRow) : SecretRow :=
  { row with latestVersion := version, updatedAt := env.txTime }

def replaceSecret (cfg : Config) (env : CallEnv) (identity : GatewayIdentity)
    (environmentID secretID : String) (req : SecretReplaceRequest) :
    StoreTx (SecretRow × SecretVersionRow) := do
  let aead ← Tx.ofOption cfg.aead aesKeyUnavailable
  verifyLaunchDefinitionForSecret identity.teamID environmentID
  let secret ← lockSecret identity.teamID environmentID secretID (!·.revoked)
  let nextVersion := secret.latestVersion + 1
  let version := encryptedVersion aead env identity.teamID secretID nextVersion req.value
  insertSecretVersion version
  let db ← Tx.get
  let secrets ← refuse (wrap "advance logical secret version")
    (db.secrets.update secretID (SecretRow.advance env nextVersion) (fun _ => rfl))
  Tx.set { db with secrets }
  appendSecretDefinitionRevision env identity environmentID
  appendSecretAudit (env.uuid 0) identity "secret.replace" secretID
  return (secret.advance env nextVersion, version)

theorem replaceSecret_ok {cfg : Config} {req : SecretReplaceRequest}
    (h : replaceSecret cfg env identity environmentID secretID req db = .ok (result, db')) :
    ∃ aead secret secrets secretVersions row definitions revisions auditEntries,
      cfg.aead = some aead ∧ db.secrets.lookup secretID = some secret ∧
      secret.environmentID = environmentID ∧
      result.2 = encryptedVersion aead env identity.teamID secretID (secret.latestVersion + 1)
        req.value ∧
      db.secretVersions.insert result.2 = .ok secretVersions ∧
      db.secrets.update secretID (SecretRow.advance env (secret.latestVersion + 1))
        (fun _ => rfl) = .ok secrets ∧
      db.definitions.update environmentID (DefinitionRow.touch env) (fun _ => rfl) =
        .ok definitions ∧
      Recorded { db with secrets } identity environmentID (DefinitionRow.touch env) row
        revisions ∧
      db' = { db with secrets, secretVersions, definitions, revisions, auditEntries } := by
  simp only [replaceSecret, verifyLaunchDefinitionForSecret, Tx.bind_eq_ok, Tx.exists_get,
    Tx.exists_ofOption, Tx.ensure_eq_ok, lockSecret_eq_ok, exists_refuse, Tx.exists_set,
    Tx.pure_eq_ok] at h
  obtain ⟨aead, haead, _, _, ⟨-, rfl⟩, secret, _, ⟨⟨hlook, -, hsecret, -⟩, rfl⟩, _, _, hv, secrets,
    hs, _, _, hrev, _, _, haudit, rfl, rfl⟩ := h
  obtain ⟨versions, hins, rfl⟩ := insertSecretVersion_ok hv
  obtain ⟨row, definitions, revisions, hd, hr, rfl⟩ := appendSecretDefinitionRevision_ok hrev
  obtain ⟨a, rfl⟩ := appendOperatorAudit_ok haudit
  exact ⟨aead, secret, secrets, versions, row, definitions, revisions, a, haead, hlook, hsecret,
    rfl, hins, hs, hd, ⟨hr.found, hr.owned, hr.live, hr.appended⟩, rfl⟩

/-- The row after a revocation. -/
def SecretRow.revoke (env : CallEnv) (row : SecretRow) : SecretRow :=
  { row with revoked := true, updatedAt := env.txTime }

/-- Revoke a secret; revoking it again changes nothing.  The response of the first
    revocation carries the clock of the process instead of the column. -/
def revokeSecret (env : CallEnv) (identity : GatewayIdentity) (environmentID secretID : String) :
    StoreTx SecretRow := do
  verifyLaunchDefinitionForSecret identity.teamID environmentID
  let secret ← lockSecret identity.teamID environmentID secretID (fun _ => true)
  if secret.revoked then
    return secret
  else
    let db ← Tx.get
    let secrets ← refuse (wrap "revoke logical secret")
      (db.secrets.update secretID (SecretRow.revoke env) (fun _ => rfl))
    Tx.set { db with secrets }
    appendSecretDefinitionRevision env identity environmentID
    appendSecretAudit (env.uuid 0) identity "secret.revoke" secretID
    return { secret with revoked := true, updatedAt := Time.toMicros env.now }

theorem revokeSecret_ok {result : SecretRow}
    (h : revokeSecret env identity environmentID secretID db = .ok (result, db')) :
    (db.definitions.lookup environmentID).any (·.ownsSecrets identity.teamID) = true ∧
    (db' = db ∨ ∃ secret secrets row definitions revisions auditEntries,
      db.secrets.lookup secretID = some secret ∧ secret.environmentID = environmentID ∧
      db.secrets.update secretID (SecretRow.revoke env) (fun _ => rfl) = .ok secrets ∧
      db.definitions.update environmentID (DefinitionRow.touch env) (fun _ => rfl) =
        .ok definitions ∧
      Recorded { db with secrets } identity environmentID (DefinitionRow.touch env) row
        revisions ∧
      db' = { db with secrets, definitions, revisions, auditEntries }) := by
  simp only [revokeSecret, verifyLaunchDefinitionForSecret, Tx.bind_eq_ok, Tx.exists_get,
    Tx.ensure_eq_ok, lockSecret_eq_ok] at h
  obtain ⟨_, _, ⟨hlive, rfl⟩, secret, _, ⟨⟨hlook, -, hsecret, -⟩, rfl⟩, h⟩ := h
  refine ⟨hlive, ?_⟩
  split at h
  · simp only [Tx.pure_eq_ok] at h
    exact .inl h.2.symm
  · simp only [Tx.bind_eq_ok, Tx.exists_get, exists_refuse, Tx.exists_set, Tx.pure_eq_ok] at h
    obtain ⟨secrets, hs, _, _, hrev, _, _, haudit, -, rfl⟩ := h
    obtain ⟨row, definitions, revisions, hd, hr, rfl⟩ := appendSecretDefinitionRevision_ok hrev
    obtain ⟨a, rfl⟩ := appendOperatorAudit_ok haudit
    exact .inr ⟨secret, secrets, row, definitions, revisions, a, hlook, hsecret, hs, hd, hr, rfl⟩

end FlowAI.Registry
