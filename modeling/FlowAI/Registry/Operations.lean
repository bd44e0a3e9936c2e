import FlowAI.Framework.System
import FlowAI.Registry.ExecutorEvents
import FlowAI.Registry.Listener
import FlowAI.Registry.OpenEnvironment
import FlowAI.Registry.TaskLogs

/-! # The Registry as a System

  Every write operation of the State Registry is a label of one transition
  system over the database.  A call runs as one transaction: its step publishes
  what a success wrote, and a failure leaves the database as it was.

  `Effect` lists once what a step can do.  Every invariant and every relation
  between two states of a run is derived from it.
-/

namespace FlowAI.Registry

/-! ## Section 1: Calls -/

/-- A write operation with its arguments. -/
inductive Op where
  | createTeam (req : CreateTeamRequest) (ident : AdminIdentity)
  | updateTeam (teamID : String) (req : UpdateTeamRequest) (ident : AdminIdentity)
  | archiveTeam (teamID : String) (ident : AdminIdentity)
  | createSourceSystem (req : CreateSourceSystemRequest)
  | createTaskType (req : CreateTaskTypeRequest)
  | registerExecutor (executorID : String) (req : ExecutorRegistrationRequest)
      (identity : ExecutorIdentity)
  | ingestTask (req : TaskIngestionRequest) (ident : ListenerIdentity)
  | claimTask (req : ClaimRequest) (executorID : String) (identity : ExecutorIdentity)
  | appendTaskEvent (req : TaskEventAppendRequest) (identity : ExecutorIdentity)
  | appendExecutorEvent (req : ExecutorEventAppendRequest) (identity : ExecutorIdentity)
  | createTaskControl (identity : GatewayIdentity) (taskID : String)
      (req : CreateTaskControlRequest)
  | appendTaskControlEvent (taskID controlID : String) (req : TaskControlEventAppendRequest)
      (identity : ExecutorIdentity)
  | appendTaskLog (taskID : String) (req : TaskLogAppendRequest) (identity : ExecutorIdentity)
  | createLaunchParameters (identity : GatewayIdentity) (req : LaunchParameterWrite)
  | replaceLaunchParameters (identity : GatewayIdentity) (environmentID : String)
      (req : LaunchParameterWrite)
  | deleteLaunchParameters (identity : GatewayIdentity) (environmentID : String)
  | createSecret (identity : GatewayIdentity) (environmentID : String) (req : SecretCreateRequest)
  | replaceSecret (identity : GatewayIdentity) (environmentID secretID : String)
      (req : SecretReplaceRequest)
  | revokeSecret (identity : GatewayIdentity) (environmentID secretID : String)
  | openEnvironment (req : OpenEnvironmentRequest)

/-- An operation together with what it draws from its surroundings. -/
structure Call where
  env : CallEnv
  op : Op

/-- The transaction of a call. -/
def exec (cfg : Config) (call : Call) : StoreTx Unit :=
  match call.op with
  | .createTeam req ident => Tx.void (createTeam call.env req ident)
  | .updateTeam teamID req ident => Tx.void (updateTeam call.env teamID req ident)
  | .archiveTeam teamID ident => Tx.void (archiveTeam call.env teamID ident)
  | .createSourceSystem req => Tx.void (createSourceSystem call.env req)
  | .createTaskType req => Tx.void (createTaskType call.env req)
  | .registerExecutor executorID req identity =>
    Tx.void (registerExecutor cfg call.env executorID req identity)
  | .ingestTask req ident => Tx.void (ingestTask cfg call.env req ident)
  | .claimTask req executorID identity =>
    Tx.void (claimTask cfg call.env req executorID identity)
  | .appendTaskEvent req identity => Tx.void (appendTaskEvent cfg call.env req identity)
  | .appendExecutorEvent req identity => Tx.void (appendExecutorEvent cfg call.env req identity)
  | .createTaskControl identity taskID req =>
    Tx.void (createTaskControl call.env identity taskID req)
  | .appendTaskControlEvent taskID controlID req identity =>
    Tx.void (appendTaskControlEvent cfg call.env taskID controlID req identity)
  | .appendTaskLog taskID req identity => Tx.void (appendTaskLog taskID req identity)
  | .createLaunchParameters identity req =>
    Tx.void (createLaunchParameters call.env identity req)
  | .replaceLaunchParameters identity environmentID req =>
    Tx.void (replaceLaunchParameters call.env identity environmentID req)
  | .deleteLaunchParameters identity environmentID =>
    deleteLaunchParameters call.env identity environmentID
  | .createSecret identity environmentID req =>
    Tx.void (createSecret cfg call.env identity environmentID req)
  | .replaceSecret identity environmentID secretID req =>
    Tx.void (replaceSecret cfg call.env identity environmentID secretID req)
  | .revokeSecret identity environmentID secretID =>
    Tx.void (revokeSecret call.env identity environmentID secretID)
  | .openEnvironment req => Tx.void (openEnvironment cfg call.env req)

/-- The State Registry: it starts after the migrations and serves any calls. -/
def registry (cfg : Config) : System Db Call where
  init db := db = Db.empty
  step db call db' := (exec cfg call).commit db = db'

/-- Serve calls one after the other. -/
def serve (cfg : Config) (db : Db) : List Call → Db
  | [] => db
  | call :: calls => serve cfg ((exec cfg call).commit db) calls

variable {cfg : Config} {db db' : Db}

theorem run_iff_serve {calls : List Call} :
    (registry cfg).Run db calls db' ↔ serve cfg db calls = db' := by
  constructor
  · intro h
    induction h with
    | nil db => rfl
    | cons call hstep _ ih =>
      rw [serve, show (exec cfg call).commit _ = _ from hstep]
      exact ih
  · intro h
    induction calls generalizing db with
    | nil =>
      subst h
      exact .nil _
    | cons call calls ih => exact .cons call rfl (ih h)

theorem serve_append (cfg : Config) (db : Db) (calls calls' : List Call) :
    serve cfg db (calls ++ calls') = serve cfg (serve cfg db calls) calls' := by
  induction calls generalizing db with
  | nil => rfl
  | cons call calls ih => exact ih _

theorem reachable_serve (cfg : Config) (calls : List Call) :
    (registry cfg).Reachable (serve cfg .empty calls) :=
  (run_iff_serve.mpr rfl).reachable (.init rfl)

/-! ## Section 2: What a step can do -/

/-- The effect of a call: nothing, or what one operation wrote. -/
inductive Effect (cfg : Config) (call : Call) (db : Db) : Db → Prop where
  | unchanged : Effect cfg call db db
  | createTeam {req ident team teams auditEntries teamAuditDetails}
      (op : call.op = .createTeam req ident)
      (inserted : db.teams.insert team = .ok teams)
      (image : team.defaultImage = req.defaultImage) :
      Effect cfg call db { db with teams, auditEntries, teamAuditDetails }
  | updateTeam {teamID req ident teams auditEntries teamAuditDetails}
      (op : call.op = .updateTeam teamID req ident)
      (updated : db.teams.update teamID req.apply (fun _ => rfl) = .ok teams) :
      Effect cfg call db { db with teams, auditEntries, teamAuditDetails }
  | archiveTeam {teamID teams auditEntries teamAuditDetails}
      (updated : db.teams.update teamID
        (fun team => { team with archivedAt := some call.env.txTime }) (fun _ => rfl) = .ok teams) :
      Effect cfg call db { db with teams, auditEntries, teamAuditDetails }
  | createSourceSystem {req row sourceSystems}
      (op : call.op = .createSourceSystem req)
      (inserted : db.sourceSystems.insert row = .ok sourceSystems)
      (image : row.defaultImage = nullableImage req.defaultImage) :
      Effect cfg call db { db with sourceSystems }
  | createTaskType {req row taskTypes}
      (op : call.op = .createTaskType req)
      (inserted : db.taskTypes.insert row = .ok taskTypes)
      (image : row.defaultImage = nullableImage req.defaultImage) :
      Effect cfg call db { db with taskTypes }
  | registerExecutor {executorID req identity executors}
      (op : call.op = .registerExecutor executorID req identity)
      (written : db.executors.update executorID (req.refresh call.env) (fun _ => rfl) =
          .ok executors ∨
        db.executors.insert (req.row call.env executorID) = .ok executors ∧
          ∀ team ∈ req.teamID, (db.teams.lookup team).isSome) :
      Effect cfg call db { db with executors }
  | ingestTask {req ident} {taskType : TaskTypeRow} {payload tasks}
      (op : call.op = .ingestTask req ident)
      (team : ∃ team, db.teams.lookup ident.teamID = some team)
      (source : ∃ source, db.sourceSystems.lookup ident.sourceSystemID = some source ∧
        source.teamID = ident.teamID)
      (typed : db.taskTypes.lookup req.taskTypeID = some taskType ∧
        taskType.teamID = ident.teamID)
      (inserted : db.tasks.insert
        (ingestedRow call.env req ident taskType.executionTag payload) = .ok tasks) :
      Effect cfg call db { db with tasks }
  | claimTask {req executorID identity executor task db'}
      (op : call.op = .claimTask req executorID identity)
      (may : MayClaim db req executorID identity executor task)
      (fresh : FreshClaim cfg call.env req executorID executor task db db') :
      Effect cfg call db db'
  | appendTaskEvent {req identity parsed task db'}
      (op : call.op = .appendTaskEvent req identity)
      (parse : parseTaskEvent req = .ok parsed)
      (may : MayAppend db req identity task)
      (unknown : findTaskEvent db req.taskID req.eventID = none)
      (fresh : FreshAppend call.env req identity parsed task db db') :
      Effect cfg call db db'
  | appendExecutorEvent {executorEvents executors auditEntries executorID}
      (mirrored : executors = db.executors ∨ ∃ o : Observation, db.executors.update executorID
        (o.mirror call.env) (o.mirror_executorID call.env) = .ok executors) :
      Effect cfg call db { db with executorEvents, executors, auditEntries }
  | createTaskControl {identity taskID req auditEntries controls controlEvents}
      (op : call.op = .createTaskControl identity taskID req)
      (audited : db.auditEntries.insert (controlAudit call.env identity req) = .ok auditEntries)
      (inserted : db.controls.insert (controlRow call.env identity taskID req) = .ok controls)
      (opened : db.controlEvents.insert
        (requestedEventRow call.env (controlRow call.env identity taskID req)) =
          .ok controlEvents) :
      Effect cfg call db { db with auditEntries, controls, controlEvents }
  | appendTaskControlEvent {taskID controlID req identity control db'}
      (op : call.op = .appendTaskControlEvent taskID controlID req identity)
      (found : db.controls.lookup controlID = some control)
      (ofTask : control.taskID = taskID)
      (fresh : FreshControlEvent call.env control req identity db db') :
      Effect cfg call db db'
  | appendTaskLog {taskID req identity logChunks} {task : TaskRow}
      (op : call.op = .appendTaskLog taskID req identity)
      (found : db.tasks.lookup taskID = some task)
      (inserted : db.logChunks.insert
        (logChunkRow req identity task (nextLogOffset db taskID)) = .ok logChunks) :
      Effect cfg call db { db with logChunks }
  | createLaunchParameters {identity req item definitions revisions auditEntries}
      (op : call.op = .createLaunchParameters identity req)
      (inserted : db.definitions.insert item = .ok definitions)
      (image : item.image = req.image) :
      Effect cfg call db { db with definitions, revisions, auditEntries }
  | replaceLaunchParameters {identity environmentID req definitions revisions auditEntries}
      (op : call.op = .replaceLaunchParameters identity environmentID req)
      (updated : db.definitions.update environmentID (req.replace call.env) (fun _ => rfl) =
        .ok definitions) :
      Effect cfg call db { db with definitions, revisions, auditEntries }
  | deleteLaunchParameters {identity environmentID definitions revisions auditEntries}
      (op : call.op = .deleteLaunchParameters identity environmentID)
      (updated : db.definitions.update environmentID (DefinitionRow.delete call.env)
        (fun _ => rfl) = .ok definitions) :
      Effect cfg call db { db with definitions, revisions, auditEntries }
  | createSecret {identity environmentID req aead} {secret : SecretRow}
      {secrets secretVersions definitions revisions auditEntries}
      (op : call.op = .createSecret identity environmentID req)
      (key : cfg.aead = some aead)
      (name : secret.name = req.name)
      (first : secret.latestVersion = 1)
      (inserted : db.secrets.insert secret = .ok secrets)
      (encrypted : db.secretVersions.insert (encryptedVersion aead call.env identity.teamID
        secret.secretID 1 req.value) = .ok secretVersions)
      (touched : db.definitions.update environmentID (DefinitionRow.touch call.env)
        (fun _ => rfl) = .ok definitions) :
      Effect cfg call db
        { db with secrets, secretVersions, definitions, revisions, auditEntries }
  | replaceSecret {identity environmentID secretID req aead} {secret : SecretRow}
      {secrets secretVersions definitions revisions auditEntries}
      (op : call.op = .replaceSecret identity environmentID secretID req)
      (key : cfg.aead = some aead)
      (found : db.secrets.lookup secretID = some secret)
      (encrypted : db.secretVersions.insert (encryptedVersion aead call.env identity.teamID
        secretID (secret.latestVersion + 1) req.value) = .ok secretVersions)
      (advanced : db.secrets.update secretID
        (SecretRow.advance call.env (secret.latestVersion + 1)) (fun _ => rfl) = .ok secrets)
      (touched : db.definitions.update environmentID (DefinitionRow.touch call.env)
        (fun _ => rfl) = .ok definitions) :
      Effect cfg call db
        { db with secrets, secretVersions, definitions, revisions, auditEntries }
  | revokeSecret {identity environmentID secretID secrets definitions revisions auditEntries}
      (op : call.op = .revokeSecret identity environmentID secretID)
      (revoked : db.secrets.update secretID (SecretRow.revoke call.env) (fun _ => rfl) =
        .ok secrets)
      (touched : db.definitions.update environmentID (DefinitionRow.touch call.env)
        (fun _ => rfl) = .ok definitions) :
      Effect cfg call db { db with secrets, definitions, revisions, auditEntries }
  | openEnvironment {auditEntries} : Effect cfg call db { db with auditEntries }

/-- The inversion of a successful call. -/
theorem exec_effect {call : Call} {u : Unit}
    (h : exec cfg call db = .ok (u, db')) : Effect cfg call db db' := by
  obtain ⟨env, op⟩ := call
  cases op with
  | createTeam req ident =>
    obtain ⟨team, h⟩ := Tx.void_eq_ok.mp h
    obtain ⟨teams, audits, details, hins, himage, rfl⟩ := createTeam_ok h
    exact .createTeam rfl hins himage
  | updateTeam teamID req ident =>
    obtain ⟨team, h⟩ := Tx.void_eq_ok.mp h
    obtain ⟨_, teams, audits, details, -, hupd, rfl⟩ := updateTeam_ok h
    exact .updateTeam rfl hupd
  | archiveTeam teamID ident =>
    obtain ⟨team, h⟩ := Tx.void_eq_ok.mp h
    obtain ⟨_, -, rfl | ⟨-, teams, audits, details, hupd, rfl⟩⟩ := archiveTeam_ok h
    · exact .unchanged
    · exact .archiveTeam hupd
  | createSourceSystem req =>
    obtain ⟨row, h⟩ := Tx.void_eq_ok.mp h
    obtain ⟨systems, hins, himage, -, -, rfl⟩ := createSourceSystem_ok h
    exact .createSourceSystem rfl hins himage
  | createTaskType req =>
    obtain ⟨row, h⟩ := Tx.void_eq_ok.mp h
    obtain ⟨types, hins, himage, -, -, rfl⟩ := createTaskType_ok h
    exact .createTaskType rfl hins himage
  | registerExecutor executorID req identity =>
    obtain ⟨row, h⟩ := Tx.void_eq_ok.mp h
    obtain ⟨executors, rfl, hw⟩ := registerExecutor_ok h
    exact .registerExecutor rfl (hw.imp And.right id)
  | ingestTask req ident =>
    obtain ⟨result, h⟩ := Tx.void_eq_ok.mp h
    obtain ⟨taskType, payload, hsub, ⟨_, -, -, -, rfl⟩ | ⟨-, tasks, hins, -, -, rfl⟩⟩ :=
      ingestTask_eq_ok.mp h
    · exact .unchanged
    · obtain ⟨team, hteam, -⟩ := hsub.active
      obtain ⟨source, hsource, hst, -⟩ := hsub.source
      exact .ingestTask rfl ⟨team, hteam⟩ ⟨source, hsource, hst⟩ hsub.typed hins
  | claimTask req executorID identity =>
    obtain ⟨response, h⟩ := Tx.void_eq_ok.mp h
    obtain ⟨executor, task, hmay, -, ⟨-, -, -, rfl⟩ | hfresh⟩ := claimTask_ok h
    · exact .unchanged
    · exact .claimTask rfl hmay hfresh
  | appendTaskEvent req identity =>
    obtain ⟨event, h⟩ := Tx.void_eq_ok.mp h
    obtain ⟨parsed, task, hparse, hmay, ⟨_, -, -, -, rfl⟩ | ⟨hnew, -, hfresh⟩⟩ :=
      appendTaskEvent_ok h
    · exact .unchanged
    · exact .appendTaskEvent rfl hparse hmay hnew hfresh
  | appendExecutorEvent req identity =>
    obtain ⟨event, h⟩ := Tx.void_eq_ok.mp h
    rcases appendExecutorEvent_ok h with rfl | ⟨events, executors, audits, hm, rfl⟩
    · exact .unchanged
    · exact .appendExecutorEvent hm
  | createTaskControl identity taskID req =>
    obtain ⟨control, h⟩ := Tx.void_eq_ok.mp h
    rcases createTaskControl_ok h with
      ⟨-, rfl⟩ | ⟨-, rfl, audits, controls, events, ha, hc, he, rfl⟩
    · exact .unchanged
    · exact .createTaskControl rfl ha hc he
  | appendTaskControlEvent taskID controlID req identity =>
    obtain ⟨event, h⟩ := Tx.void_eq_ok.mp h
    obtain ⟨control, task, hmay, ⟨_, -, -, -, rfl⟩ | ⟨-, hfresh⟩⟩ := appendTaskControlEvent_ok h
    · exact .unchanged
    · exact .appendTaskControlEvent rfl hmay.found hmay.ofTask hfresh
  | appendTaskLog taskID req identity =>
    obtain ⟨chunk, h⟩ := Tx.void_eq_ok.mp h
    obtain ⟨task, hmay, ⟨_, -, -, -, rfl⟩ | ⟨_, chunks, rfl, -, hins, -, rfl⟩⟩ := appendTaskLog_ok h
    · exact .unchanged
    · exact .appendTaskLog rfl hmay.found hins
  | createLaunchParameters identity req =>
    obtain ⟨item, h⟩ := Tx.void_eq_ok.mp h
    obtain ⟨definitions, revisions, audits, hins, -, himage, -, -, -, -, rfl⟩ :=
      createLaunchParameters_ok h
    exact .createLaunchParameters rfl hins himage
  | replaceLaunchParameters identity environmentID req =>
    obtain ⟨result, h⟩ := Tx.void_eq_ok.mp h
    obtain ⟨_, definitions, revisions, audits, hupd, -, rfl⟩ := replaceLaunchParameters_ok h
    exact .replaceLaunchParameters rfl hupd
  | deleteLaunchParameters identity environmentID =>
    obtain ⟨_, definitions, revisions, audits, hupd, -, rfl⟩ := deleteLaunchParameters_ok h
    exact .deleteLaunchParameters rfl hupd
  | createSecret identity environmentID req =>
    obtain ⟨result, h⟩ := Tx.void_eq_ok.mp h
    obtain ⟨aead, secrets, versions, _, definitions, revisions, audits, hkey, hname, hfirst, -, -,
      hversion, hins, henc, htouch, -, rfl⟩ := createSecret_ok h
    rw [hversion] at henc
    exact .createSecret rfl hkey hname hfirst hins henc htouch
  | replaceSecret identity environmentID secretID req =>
    obtain ⟨result, h⟩ := Tx.void_eq_ok.mp h
    obtain ⟨aead, secret, secrets, versions, _, definitions, revisions, audits, hkey, hfound, -,
      hversion, henc, hadv, htouch, -, rfl⟩ := replaceSecret_ok h
    rw [hversion] at henc
    exact .replaceSecret rfl hkey hfound henc hadv htouch
  | revokeSecret identity environmentID secretID =>
    obtain ⟨result, h⟩ := Tx.void_eq_ok.mp h
    rcases (revokeSecret_ok h).2 with
      rfl | ⟨_, secrets, _, definitions, revisions, audits, -, -, hrev, htouch, -, rfl⟩
    · exact .unchanged
    · exact .revokeSecret rfl hrev htouch
  | openEnvironment req =>
    obtain ⟨response, h⟩ := Tx.void_eq_ok.mp h
    obtain ⟨-, audits, rfl⟩ := openEnvironment_ok h
    exact .openEnvironment

/-- The inversion of a step, of a refused call too. -/
theorem step_effect {call : Call} (h : (registry cfg).step db call db') : Effect cfg call db db' := by
  change (exec cfg call).commit db = db' at h
  rcases Tx.commit_cases (exec cfg call) db with hc | ⟨u, hc⟩
  · rw [← h, hc]
    exact .unchanged
  · rw [← h]
    exact exec_effect hc

/-! ## Section 3: A small deployment

  One team with one source system, one task type and one system executor, and
  the calls that bring a task to its claim.  Statements of later modules are
  evaluated on it. -/

/-- A toy cipher: the tag repeats nonce and associated data. -/
def sampleAead : Aead where
  sealText nonce aad plaintext := (plaintext, nonce ++ aad)
  openText nonce aad ciphertext tag := if tag = nonce ++ aad then some ciphertext else none

/-- A toy keyring with a single token, issued at second 6 for the sample task. -/
def sampleKeyring : TokenKeyring where
  activeKeyID := "k1"
  sign _ := "token"
  decode token :=
    if token = "token" then
      some ⟨"team", "task", "exec", scopeTokenAudience, "k1", "1970-01-01T00:00:06Z",
        "1970-01-01T00:05:06Z"⟩
    else none

/-- A toy output function, for flat objects of booleans. -/
def sampleJsonbOut : Json → String
  | .obj members => "\x7b" ++ ", ".intercalate (members.map (fun m =>
      "\"" ++ m.1 ++ "\": " ++ if m.2 = .bool true then "true" else "false")) ++ "\x7d"
  | _ => "null"

def sampleConfig : Config where
  aead := some sampleAead
  keyring := some sampleKeyring
  jsonbAdmits _ := true
  jsonbText _ := none
  jsonbOut := sampleJsonbOut

/-- A call at a second, drawing identifiers that start with `name`. -/
def sampleEnv (name : String) (second : Int) : CallEnv where
  now := second * 1000000000
  txTime := second * 1000000
  uuid n := name ++ String.ofList (List.replicate n '+')
  nonce := "nonce"

def sampleIdentity : ExecutorIdentity := ⟨"exec", .system, none, "request"⟩

def sampleRegistration (tag : String) : ExecutorRegistrationRequest :=
  ⟨.system, none, "docker", tag, 1, 0, .obj []⟩

/-- Team, source system, task type and executor. -/
def sampleSetup : List Call := [
  ⟨sampleEnv "team" 1, .createTeam ⟨"Team", "repo@sha256:0"⟩ ⟨"admin", "request"⟩⟩,
  ⟨sampleEnv "source" 2, .createSourceSystem ⟨"team", "listener", none⟩⟩,
  ⟨sampleEnv "type" 3, .createTaskType ⟨"team", "go", none⟩⟩,
  ⟨sampleEnv "exec" 4, .registerExecutor "exec" (sampleRegistration "go") sampleIdentity⟩]

/-- A task of the sample team. -/
def sampleIngest (name sourceID : String) (second : Int) : Call :=
  ⟨sampleEnv name second,
    .ingestTask ⟨"team", "source", sourceID, "type", .text (.obj []), none, none⟩
      ⟨"team", "source", "listener", "request"⟩⟩

def sampleClaim (taskID : String) (second : Int) : Call :=
  ⟨sampleEnv "claim" second, .claimTask ⟨taskID, "command"⟩ "exec" sampleIdentity⟩

/-- An event request about a sample task. -/
def sampleEvent (eventID taskID eventType occurredAt : String) : TaskEventAppendRequest :=
  ⟨eventID, "team", taskID, "exec", eventType, occurredAt, .text (.obj [])⟩

def sampleAppend (second : Int) (req : TaskEventAppendRequest) : Call :=
  ⟨sampleEnv ("audit-" ++ req.eventID) second, .appendTaskEvent req sampleIdentity⟩

end FlowAI.Registry
