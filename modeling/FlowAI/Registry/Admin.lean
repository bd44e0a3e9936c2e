import FlowAI.Registry.Schema

/-! # Administration

  Teams, source systems and task types (`store/admin.go`), and the audit rows
  that most operations of the store append.  Each operation comes with its
  inversion lemma `…_ok`: the tables a successful call changes, and how.
-/

namespace FlowAI.Registry

variable {db' : Db} {team : TeamRow} {ident : AdminIdentity} {env : CallEnv}

/-! ## Section 1: Audit rows -/

/-- `INSERT INTO audit_entries`. -/
def insertAudit (context : String) (row : AuditRow) : StoreTx Unit := do
  let db ← Tx.get
  let auditEntries ← refuse (wrap context) (db.auditEntries.insert row)
  require (wrap context) .foreignKey (∀ team ∈ row.teamID, (db.teams.lookup team).isSome)
  Tx.set { db with auditEntries }

variable {db : Db}

theorem insertAudit_eq_ok {context : String} {row : AuditRow} {u : Unit} :
    insertAudit context row db = .ok (u, db') ↔
      ∃ auditEntries, db.auditEntries.insert row = .ok auditEntries ∧
        (∀ team ∈ row.teamID, (db.teams.lookup team).isSome) ∧
        db' = { db with auditEntries } := by
  simp only [insertAudit, Tx.bind_eq_ok, Tx.exists_get, exists_refuse, exists_require, Tx.set_eq_ok]

/-! ### Trimming -/

/-- `unicode.IsSpace`. -/
def isSpace (c : Char) : Bool :=
  c.toNat ∈ [9, 10, 11, 12, 13, 32, 0x85, 0xA0, 0x1680, 0x2028, 0x2029, 0x202F, 0x205F, 0x3000] ∨
    (0x2000 ≤ c.toNat ∧ c.toNat ≤ 0x200A)

/-- `strings.TrimSpace`. -/
def trimSpace (s : String) : String :=
  String.ofList ((s.toList.dropWhile isSpace).rdropWhile isSpace)

/-! ## Section 2: Teams -/

def classifyTeamError : Violation → StoreError
  | .unique => .teamNameConflict
  | v => wrap "persist team" v

/-- `INSERT INTO team_audit_details`; the audit row it references is its own. -/
def insertTeamAuditDetail (row : TeamAuditDetailRow) : StoreTx Unit := do
  let db ← Tx.get
  let teamAuditDetails ←
    refuse (wrap "append team audit details") (db.teamAuditDetails.insert row)
  Tx.set { db with teamAuditDetails }

def appendTeamAudit (auditID : String) (team : TeamRow) (old : Option TeamRow) (action : String)
    (ident : AdminIdentity) : StoreTx Unit := do
  let actor := if trimSpace ident.subject = "" then "system-administrator"
    else trimSpace ident.subject
  let requestID := if trimSpace ident.requestID = "" then "request-unknown"
    else trimSpace ident.requestID
  insertAudit "append team audit" {
    auditID, teamID := some team.teamID, actorID := actor, actorType := .systemAdministrator
    action, resourceType := "team", resourceID := team.teamID, requestID
    outcome := .succeeded, executorScope := none }
  insertTeamAuditDetail {
    auditID, oldTeamName := old.map (·.teamName), newTeamName := team.teamName
    oldDefaultImage := old.map (·.defaultImage), newDefaultImage := team.defaultImage
    archivedAt := team.archivedAt }

theorem appendTeamAudit_ok {auditID action : String} {old : Option TeamRow} {u : Unit}
    (h : appendTeamAudit auditID team old action ident db = .ok (u, db')) :
    ∃ auditEntries teamAuditDetails, db' = { db with auditEntries, teamAuditDetails } := by
  simp only [appendTeamAudit, insertTeamAuditDetail, Tx.bind_eq_ok, insertAudit_eq_ok,
    Tx.exists_get, exists_refuse, Tx.set_eq_ok] at h
  obtain ⟨_, _, ⟨a, -, -, rfl⟩, d, -, rfl⟩ := h
  exact ⟨a, d, rfl⟩

def createTeam (env : CallEnv) (req : CreateTeamRequest) (ident : AdminIdentity) :
    StoreTx TeamRow := do
  let db ← Tx.get
  let team : TeamRow := {
    teamID := env.uuid 0, teamName := req.teamName, defaultImage := req.defaultImage
    ingestedAt := env.txTime, archivedAt := none }
  let teams ← refuse classifyTeamError (db.teams.insert team)
  Tx.set { db with teams }
  appendTeamAudit (env.uuid 1) team none "team.create" ident
  return team

theorem createTeam_ok {req : CreateTeamRequest}
    (h : createTeam env req ident db = .ok (team, db')) :
    ∃ teams auditEntries teamAuditDetails, db.teams.insert team = .ok teams ∧
      team.defaultImage = req.defaultImage ∧
      db' = { db with teams, auditEntries, teamAuditDetails } := by
  simp only [createTeam, Tx.bind_eq_ok, Tx.exists_get, exists_refuse, Tx.exists_set,
    Tx.pure_eq_ok] at h
  obtain ⟨teams, ht, _, _, ha, rfl, rfl⟩ := h
  obtain ⟨a, d, rfl⟩ := appendTeamAudit_ok ha
  exact ⟨teams, a, d, ht, rfl, rfl⟩

/-- `SELECT … FROM teams WHERE team_id = $1 FOR UPDATE`. -/
def lockTeam (teamID : String) : StoreTx TeamRow := do
  let db ← Tx.get
  Tx.ofOption (db.teams.lookup teamID) .teamNotFound

/-- The row an update leaves: absent request fields keep the column. -/
def UpdateTeamRequest.apply (req : UpdateTeamRequest) (team : TeamRow) : TeamRow :=
  { team with
    teamName := req.teamName.getD team.teamName
    defaultImage := req.defaultImage.getD team.defaultImage }

def updateTeam (env : CallEnv) (teamID : String) (req : UpdateTeamRequest) (ident : AdminIdentity) :
    StoreTx TeamRow := do
  let current ← lockTeam teamID
  let db ← Tx.get
  let teams ← refuse classifyTeamError (db.teams.update teamID req.apply (fun _ => rfl))
  Tx.set { db with teams }
  appendTeamAudit (env.uuid 0) (req.apply current) (some current) "team.update" ident
  return req.apply current

theorem updateTeam_ok {teamID : String} {req : UpdateTeamRequest}
    (h : updateTeam env teamID req ident db = .ok (team, db')) :
    ∃ current teams auditEntries teamAuditDetails,
      db.teams.lookup teamID = some current ∧
      db.teams.update teamID req.apply (fun _ => rfl) = .ok teams ∧
      db' = { db with teams, auditEntries, teamAuditDetails } := by
  simp only [updateTeam, lockTeam, Tx.bind_eq_ok, Tx.exists_get, Tx.ofOption_eq_ok, exists_refuse,
    Tx.exists_set, Tx.pure_eq_ok] at h
  obtain ⟨cur, _, ⟨hcur, rfl⟩, teams, ht, _, _, ha, -, rfl⟩ := h
  obtain ⟨a, d, rfl⟩ := appendTeamAudit_ok ha
  exact ⟨cur, teams, a, d, hcur, ht, rfl⟩

/-- Archive a team; the flag says whether this call did it. -/
def archiveTeam (env : CallEnv) (teamID : String) (ident : AdminIdentity) :
    StoreTx (TeamRow × Bool) := do
  let current ← lockTeam teamID
  if current.archivedAt.isSome then
    return (current, false)
  else
    let db ← Tx.get
    let archive (team : TeamRow) : TeamRow := { team with archivedAt := some env.txTime }
    let teams ← refuse (wrap "read team") (db.teams.update teamID archive (fun _ => rfl))
    Tx.set { db with teams }
    appendTeamAudit (env.uuid 0) (archive current) (some current) "team.archive" ident
    return (archive current, true)

theorem archiveTeam_ok {teamID : String} {result : TeamRow × Bool}
    (h : archiveTeam env teamID ident db = .ok (result, db')) :
    ∃ current, db.teams.lookup teamID = some current ∧
      (db' = db ∨ current.archivedAt = none ∧ ∃ teams auditEntries teamAuditDetails,
        db.teams.update teamID (fun team => { team with archivedAt := some env.txTime })
          (fun _ => rfl) = .ok teams ∧
        db' = { db with teams, auditEntries, teamAuditDetails }) := by
  simp only [archiveTeam, lockTeam, Tx.bind_eq_ok, Tx.exists_get, Tx.ofOption_eq_ok] at h
  obtain ⟨cur, _, ⟨hcur, rfl⟩, h⟩ := h
  refine ⟨cur, hcur, ?_⟩
  split at h
  · simp only [Tx.pure_eq_ok] at h
    exact .inl h.2.symm
  · rename_i hactive
    simp only [Tx.bind_eq_ok, Tx.exists_get, exists_refuse, Tx.exists_set, Tx.pure_eq_ok] at h
    obtain ⟨teams, ht, _, _, ha, -, rfl⟩ := h
    obtain ⟨a, d, rfl⟩ := appendTeamAudit_ok ha
    exact .inr ⟨by simpa using hactive, teams, a, d, ht, rfl⟩

/-! ## Section 3: Source systems and task types -/

/-- `nullableImage`: the `jsonb` value of an optional image. -/
def nullableImage (image : Option ImageReference) : Option Json := image.map (·.toJson.jsonb)

def classifySourceSystemError : Violation → StoreError
  | .unique => .listenerIdentityConflict
  | .foreignKey => .teamNotFound
  | v => wrap "create source system" v

def classifyTaskTypeError : Violation → StoreError
  | .foreignKey => .teamNotFound
  | v => wrap "create task type" v

def createSourceSystem (env : CallEnv) (req : CreateSourceSystemRequest) :
    StoreTx SourceSystemRow := do
  let db ← Tx.get
  let row : SourceSystemRow := {
    sourceSystemID := env.uuid 0, teamID := req.teamID, listenerIdentity := req.listenerIdentity
    defaultImage := nullableImage req.defaultImage, createdAt := env.txTime
    updatedAt := env.txTime }
  let sourceSystems ← refuse classifySourceSystemError (db.sourceSystems.insert row)
  require classifySourceSystemError .foreignKey (db.teams.lookup req.teamID).isSome
  Tx.set { db with sourceSystems }
  return row

theorem createSourceSystem_ok {req : CreateSourceSystemRequest} {row : SourceSystemRow}
    (h : createSourceSystem env req db = .ok (row, db')) :
    ∃ sourceSystems, db.sourceSystems.insert row = .ok sourceSystems ∧
      row.defaultImage = nullableImage req.defaultImage ∧ row.teamID = req.teamID ∧
      (db.teams.lookup req.teamID).isSome ∧ db' = { db with sourceSystems } := by
  simp only [createSourceSystem, Tx.bind_eq_ok, Tx.exists_get, exists_refuse, exists_require,
    Tx.exists_set, Tx.pure_eq_ok] at h
  obtain ⟨t, ht, hteam, rfl, rfl⟩ := h
  exact ⟨t, ht, rfl, rfl, hteam, rfl⟩

def createTaskType (env : CallEnv) (req : CreateTaskTypeRequest) : StoreTx TaskTypeRow := do
  let db ← Tx.get
  let row : TaskTypeRow := {
    taskTypeID := env.uuid 0, teamID := req.teamID, executionTag := req.executionTag
    defaultImage := nullableImage req.defaultImage, createdAt := env.txTime
    updatedAt := env.txTime }
  let taskTypes ← refuse classifyTaskTypeError (db.taskTypes.insert row)
  require classifyTaskTypeError .foreignKey (db.teams.lookup req.teamID).isSome
  Tx.set { db with taskTypes }
  return row

theorem createTaskType_ok {req : CreateTaskTypeRequest} {row : TaskTypeRow}
    (h : createTaskType env req db = .ok (row, db')) :
    ∃ taskTypes, db.taskTypes.insert row = .ok taskTypes ∧
      row.defaultImage = nullableImage req.defaultImage ∧ row.teamID = req.teamID ∧
      (db.teams.lookup req.teamID).isSome ∧ db' = { db with taskTypes } := by
  simp only [createTaskType, Tx.bind_eq_ok, Tx.exists_get, exists_refuse, exists_require,
    Tx.exists_set, Tx.pure_eq_ok] at h
  obtain ⟨t, ht, hteam, rfl, rfl⟩ := h
  exact ⟨t, ht, rfl, rfl, hteam, rfl⟩

end FlowAI.Registry
