import FlowAI.Registry.Resolution

/-! # Claims

  `ClaimTask` of `store/executor.go`: an executor moves the oldest pending task
  of its queue to `created`.  One transaction freezes the launch parameters,
  fixes the image, sets the claim columns and appends the `created` event.  The
  same executor may repeat the call under the same command and gets the claim
  response again.
-/

namespace FlowAI.Registry

variable {cfg : Config} {env : CallEnv} {db' : Db} {req : ClaimRequest} {executorID : String}
  {identity : ExecutorIdentity} {task : TaskRow}

/-! ## Section 1: The image of a claim -/

/-- Split a text at the last occurrence of a character. -/
def splitAtLast (c : Char) : List Char → Option (List Char × List Char)
  | [] => none
  | x :: xs =>
    match splitAtLast c xs with
    | some (before, after) => some (x :: before, after)
    | none => if x = c then some ([], xs) else none

/-- `repository@digest`, split at the last `@`; both parts must be non-empty. -/
def splitImage (image : String) : Option ImageReference :=
  match splitAtLast '@' image.toList with
  | some (x :: before, y :: after) =>
    some ⟨String.ofList (x :: before), String.ofList (y :: after)⟩
  | _ => none

/-- The bytes the claim writes into `resolved_image`: the text of a JSON value, or a
    team default copied without a look at it. -/
inductive ImageText where
  | value (j : Json)
  | raw (text : String)

/-- `$5::jsonb`. -/
def ImageText.cast (cfg : Config) : ImageText → Option Json
  | .value j => some j.jsonb
  | .raw text => cfg.jsonbText text

/-- The image a team falls back to. -/
def teamDefaultImage (text : String) : Except StoreError ImageText :=
  if text.toList.head? = some '\x7b' then .ok (.raw text)
  else
    match splitImage text with
    | some image => .ok (.value image.toJson)
    | none => .error (.plain "team default image is invalid")

/-- `sql.ErrNoRows`. -/
def errNoRows : StoreError := .plain "sql: no rows in result set"

/-- `resolveClaimImageLocked`: the override of the task, the image of its launch
    parameters, then the defaults of task type, source system and team. -/
def resolveClaimImageLocked (db : Db) (task : TaskRow) (launch : Option (String × ImageSource)) :
    Except StoreError (ImageText × ImageSource) :=
  match task.image, launch with
  | some image, _ => .ok (.value image, .taskOverride)
  | none, some (image, source) =>
    match splitImage image with
    | some image => .ok (.value image.toJson, source)
    | none => .error (.plain "launch parameter image is invalid")
  | none, none =>
    match ((db.taskTypes.lookup task.taskTypeID).filter
        (fun r => r.teamID = task.teamID)).bind TaskTypeRow.defaultImage with
    | some image => .ok (.value image, .taskTypeDefault)
    | none =>
      match ((db.sourceSystems.lookup task.sourceSystemID).filter
          (fun r => r.teamID = task.teamID)).bind SourceSystemRow.defaultImage with
      | some image => .ok (.value image, .sourceSystemDefault)
      | none =>
        match db.teams.lookup task.teamID with
        | none => .error errNoRows
        | some team => (teamDefaultImage team.defaultImage).map (·, .teamDefault)

/-! ## Section 2: The claim response -/

def scopeTokenAudience : String := "state-registry.environment.open"

/-- Five minutes in nanoseconds. -/
def scopeTokenLifetime : Int := 300000000000

/-- Whether the frozen launch parameters of a task are non-empty; `none` when the
    task has no snapshot. -/
def hasLaunchParameters (db : Db) (taskID : String) : Option Bool :=
  (db.snapshots.lookup taskID).map (fun snap =>
    !snap.values.isEmpty || db.secretRefs.rows.any (fun r => r.taskID = taskID))

/-- The instant a token is issued at: the claim, as its wire form reads. -/
def scopeTokenIssuedAt (env : CallEnv) (claimedAt : Option String) : Except StoreError Int :=
  match claimedAt with
  | none => .ok env.now
  | some text =>
    match Time.parseRFC3339Nano text with
    | some t => .ok t
    | none => .error (.wrapped "parse claim token issued_at" (.plain text))

/-- The claims of the token of a task. -/
def scopeTokenClaims (keyring : TokenKeyring) (teamID taskID executorID : String)
    (issuedAt : Int) : ScopeTokenClaims where
  teamID := teamID
  taskID := taskID
  executorID := executorID
  audience := scopeTokenAudience
  keyID := keyring.activeKeyID
  issuedAt := Time.formatRFC3339Nano issuedAt
  expiry := Time.formatRFC3339Nano (issuedAt + scopeTokenLifetime)

def issueScopeToken (cfg : Config) (env : CallEnv) (db : Db) (task : TaskListEntry) :
    Except StoreError (Option String) :=
  match task.executorID, cfg.keyring with
  | none, _ => .ok none
  | some _, none => .error (.plain "scope token keyring unavailable")
  | some executorID, some keyring =>
    if (db.snapshots.lookup task.taskID).any (fun snap => snap.teamID = task.teamID) &&
        hasLaunchParameters db task.taskID = some true then
      match scopeTokenIssuedAt env task.claimedAt with
      | .error e => .error e
      | .ok issuedAt =>
        .ok (some (keyring.sign
          (scopeTokenClaims keyring task.teamID task.taskID executorID issuedAt)))
    else .ok none

/-- `claim` is always the text `claimed`. -/
structure ClaimResponse where
  claim : String
  task : TaskListEntry
  resolvedImage : Option ImageReference
  imageSource : Option ImageSource
  claimedAt : Option String
  launchParameters : Bool
  scopeToken : Option String
  deriving DecidableEq

/-- The response about a projected task. -/
def claimResponse (entry : TaskListEntry) (scopeToken : Option String) : ClaimResponse where
  claim := "claimed"
  task := entry
  resolvedImage := entry.resolvedImage
  imageSource := entry.imageSource
  claimedAt := entry.claimedAt
  launchParameters := scopeToken.isSome
  scopeToken := scopeToken

/-- A token goes with a claim that has launch parameters. -/
def claimScopeToken (cfg : Config) (env : CallEnv) (db : Db) (entry : TaskListEntry) :
    Except StoreError (Option String) :=
  if hasLaunchParameters db entry.taskID = some true then issueScopeToken cfg env db entry
  else .ok none

def buildClaimResponseForRow (cfg : Config) (env : CallEnv) (taskID : String) :
    StoreTx ClaimResponse := do
  let db ← Tx.get
  let context := "re-read canonical task for retry"
  let task ← Tx.ofOption (db.tasks.lookup taskID) (.wrapped context errNoRows)
  let entry ← scanTask context task
  let scopeToken ← Tx.ofExcept (claimScopeToken cfg env db entry)
  return claimResponse entry scopeToken

variable {db : Db} {response : ClaimResponse}

theorem buildClaimResponseForRow_eq_ok {taskID : String} :
    buildClaimResponseForRow cfg env taskID db = .ok (response, db') ↔
      (∃ task entry scopeToken, db.tasks.lookup taskID = some task ∧
        scanTaskRow task = .ok entry ∧ claimScopeToken cfg env db entry = .ok scopeToken ∧
        response = claimResponse entry scopeToken) ∧ db = db' := by
  simp only [buildClaimResponseForRow, Tx.bind_eq_ok, Tx.exists_get, Tx.exists_ofOption,
    scanTask_eq_ok, Tx.exists_ofExcept, Tx.pure_eq_ok]
  constructor
  · intro h
    obtain ⟨task, ht, entry, _, ⟨hs, rfl⟩, token, hk, rfl, rfl⟩ := h
    exact ⟨⟨task, entry, token, ht, hs, hk, rfl⟩, rfl⟩
  · intro h
    obtain ⟨⟨task, entry, token, ht, hs, hk, rfl⟩, rfl⟩ := h
    exact ⟨task, ht, entry, db, ⟨hs, rfl⟩, token, hk, rfl, rfl⟩

/-! ## Section 3: Locks and the FIFO probe -/

/-- The executor row, which must be the one the caller authenticated as. -/
def lockClaimExecutor (executorID : String) (identity : ExecutorIdentity) :
    StoreTx ExecutorRow := do
  let db ← Tx.get
  let executor ← Tx.ofOption (db.executors.lookup executorID) .executorNotFound
  Tx.ensure (identity.executorID = executorID ∧ identity.scope = executor.scope ∧
    identity.teamID = executor.teamID) .executorNotFound
  return executor

/-- The key of the advisory lock that serializes the claims of one tag. -/
def claimLockKey (executor : ExecutorRow) : String :=
  "state-registry:claim:" ++ executor.authorizedTag

/-- A team-owned executor only sees the tasks of its team. -/
def ExecutorRow.sees (executor : ExecutorRow) (task : TaskRow) : Bool :=
  match executor.scope with
  | .team => executor.teamID.getD "" ≠ "" && executor.teamID.getD "" = task.teamID
  | .system => true

/-- The requested task, if it is in a queue of the executor. -/
def lockClaimTask (executor : ExecutorRow) (taskID : String) : StoreTx TaskRow := do
  let db ← Tx.get
  let task ← Tx.ofOption (db.tasks.lookup taskID) .taskNotFound
  Tx.ensure (executor.sees task) .taskNotFound
  Tx.ensure (executor.authorizedTag = task.requiredTag) .taskNotFound
  return task

def lockClaimTeam (teamID : String) : StoreTx Unit := do
  let db ← Tx.get
  Tx.ensure (db.teams.lookup teamID).isSome (.wrapped "lock claim team" errNoRows)

/-- A pending task of the executor's queue stands before the requested one. -/
def isEarlierPendingTask (db : Db) (executor : ExecutorRow) (task : TaskRow) : Bool :=
  db.tasks.rows.any (fun t =>
    t.eligible executor.authorizedTag executor.scope executor.teamID &&
      decide (t.position < task.position))

/-- What the locked rows establish before the state of the task is looked at. -/
structure MayClaim (db : Db) (req : ClaimRequest) (executorID : String)
    (identity : ExecutorIdentity) (executor : ExecutorRow) (task : TaskRow) : Prop where
  registered : db.executors.lookup executorID = some executor
  authentic : identity.executorID = executorID ∧ identity.scope = executor.scope ∧
    identity.teamID = executor.teamID
  found : db.tasks.lookup req.taskID = some task
  visible : executor.sees task = true
  tagged : executor.authorizedTag = task.requiredTag
  team : (db.teams.lookup task.teamID).isSome

/-- The three row locks, in the order of the statements. -/
def lockClaim (req : ClaimRequest) (executorID : String) (identity : ExecutorIdentity) :
    StoreTx (ExecutorRow × TaskRow) := do
  let executor ← lockClaimExecutor executorID identity
  let task ← lockClaimTask executor req.taskID
  lockClaimTeam task.teamID
  return (executor, task)

theorem lockClaim_eq_ok {locked : ExecutorRow × TaskRow} :
    lockClaim req executorID identity db = .ok (locked, db') ↔
      MayClaim db req executorID identity locked.1 locked.2 ∧ db = db' := by
  simp only [lockClaim, lockClaimExecutor, lockClaimTask, lockClaimTeam, Tx.bind_eq_ok,
    Tx.exists_get, Tx.exists_ofOption, Tx.ensure_eq_ok, Tx.pure_eq_ok]
  constructor
  · intro h
    obtain ⟨executor, _, ⟨_, he, _, _, ⟨hid, rfl⟩, rfl, rfl⟩, task, _,
      ⟨_, ht, _, _, ⟨hvis, rfl⟩, _, _, ⟨htag, rfl⟩, rfl, rfl⟩, _, _, ⟨hteam, rfl⟩, rfl, rfl⟩ := h
    exact ⟨⟨he, hid, ht, hvis, htag, hteam⟩, rfl⟩
  · intro h
    obtain ⟨⟨he, hid, ht, hvis, htag, hteam⟩, rfl⟩ := h
    exact ⟨locked.1, db, ⟨_, he, (), db, ⟨hid, rfl⟩, rfl, rfl⟩, locked.2, db,
      ⟨_, ht, (), db, ⟨hvis, rfl⟩, (), db, ⟨htag, rfl⟩, rfl, rfl⟩, (), db, ⟨hteam, rfl⟩, rfl, rfl⟩

/-! ## Section 4: The write of a fresh claim -/

/-- The claim columns of a task assigned to an executor under a command. -/
def TaskRow.assign (env : CallEnv) (req : ClaimRequest) (executorID : String)
    (resolvedImage : Json) (source : ImageSource) (t : TaskRow) : TaskRow :=
  { t with
    currentState := .created, ownerCommandID := some req.commandID
    executorID := some executorID, claimedAt := some (Time.toMicros env.now)
    resolvedImage := some resolvedImage, imageSource := some source }

/-- The first lifecycle event of a task. -/
def createdEventRow (env : CallEnv) (req : ClaimRequest) (executorID teamID : String) :
    TaskEventRow where
  eventID := "evt-" ++ req.taskID
  teamID := teamID
  taskID := req.taskID
  executorID := executorID
  eventType := .created
  occurredAt := Time.toMicros env.now
  payload := Json.jsonb (.obj [("executor", .str executorID),
    ("message", .str ("task " ++ req.taskID ++ " loaded by " ++ executorID)),
    ("task_id", .str req.taskID)])

/-- `UPDATE tasks SET …` of the claim, with the cast of the image, the ownership
    trigger and the foreign key of the executor. -/
def persistAssignment (cfg : Config) (env : CallEnv) (req : ClaimRequest) (executorID : String)
    (task : TaskRow) (image : ImageText) (source : ImageSource) : StoreTx Unit := do
  let context := wrap "persist claim assignment"
  let resolvedImage ← Tx.ofOption (image.cast cfg) (context .check)
  let db ← Tx.get
  require context .trigger (ownedBy db executorID task.teamID)
  updateTask context req.taskID (TaskRow.assign env req executorID resolvedImage source)
    (fun _ => rfl)
  require context .foreignKey (db.executors.lookup executorID).isSome

/-- Everything a fresh claim writes. -/
def writeClaim (cfg : Config) (env : CallEnv) (req : ClaimRequest) (executorID : String)
    (task : TaskRow) : StoreTx Unit := do
  let launch ← Tx.mapError (.wrapped "resolve launch parameters")
    (resolveLaunchParametersLocked task.teamID task.taskTypeID req.taskID)
  let db ← Tx.get
  let image ← Tx.mapError (.wrapped "resolve claim image")
    (Tx.ofExcept (resolveClaimImageLocked db task launch.image))
  persistAssignment cfg env req executorID task image.1 image.2
  insertTaskEvent (wrap "append created event") (createdEventRow env req executorID task.teamID)

/-! ## Section 5: `ClaimTask` -/

def claimTask (cfg : Config) (env : CallEnv) (req : ClaimRequest) (executorID : String)
    (identity : ExecutorIdentity) : StoreTx ClaimResponse := do
  let (executor, task) ← lockClaim req executorID identity
  if task.currentState = .pending then
    let db ← Tx.get
    Tx.ensure (isEarlierPendingTask db executor task = false) .olderTaskMustBeClaimedFirst
    writeClaim cfg env req executorID task
    Tx.mapError (.wrapped "build committed claim response")
      (buildClaimResponseForRow cfg env req.taskID)
  else
    -- The original command of the original executor gets the response once more.
    Tx.ensure (task.ownerCommandID = some req.commandID ∧ task.executorID = some executorID)
      .taskAlreadyClaimed
    buildClaimResponseForRow cfg env req.taskID

/-- What a fresh claim writes. -/
def WritesClaim (cfg : Config) (env : CallEnv) (req : ClaimRequest) (executorID : String)
    (task : TaskRow) (db db' : Db) : Prop :=
  ∃ image source resolvedImage snapshots secretRefs tasks taskEvents,
    Freezes db req.taskID task.teamID
      (resolveLaunchParameters db task.teamID task.taskTypeID) snapshots secretRefs ∧
    resolveClaimImageLocked { db with snapshots, secretRefs } task
      (resolveLaunchParameters db task.teamID task.taskTypeID).image = .ok (image, source) ∧
    image.cast cfg = some resolvedImage ∧
    db.tasks.update req.taskID (TaskRow.assign env req executorID resolvedImage source)
      (fun _ => rfl) = .ok tasks ∧
    db.taskEvents.insert (createdEventRow env req executorID task.teamID) = .ok taskEvents ∧
    db' = { db with snapshots, secretRefs, tasks, taskEvents }

/-- What a fresh claim required and wrote. -/
structure FreshClaim (cfg : Config) (env : CallEnv) (req : ClaimRequest) (executorID : String)
    (executor : ExecutorRow) (task : TaskRow) (db db' : Db) : Prop where
  pending : task.currentState = .pending
  oldest : isEarlierPendingTask db executor task = false
  effect : WritesClaim cfg env req executorID task db db'

theorem persistAssignment_ok {image : ImageText} {source : ImageSource} {u : Unit}
    (h : persistAssignment cfg env req executorID task image source db = .ok (u, db')) :
    ∃ resolvedImage tasks, image.cast cfg = some resolvedImage ∧
      db.tasks.update req.taskID (TaskRow.assign env req executorID resolvedImage source)
        (fun _ => rfl) = .ok tasks ∧ db' = { db with tasks } := by
  simp only [persistAssignment, Tx.bind_eq_ok, Tx.exists_get, Tx.exists_ofOption,
    require_eq_ok] at h
  obtain ⟨resolvedImage, hc, _, _, ⟨-, rfl⟩, _, _, hupd, -, rfl⟩ := h
  obtain ⟨-, tasks, ht, rfl⟩ := updateTask_eq_ok.mp hupd
  exact ⟨resolvedImage, tasks, hc, ht, rfl⟩

/-- The inversion of the write of a fresh claim. -/
theorem writeClaim_ok {u : Unit} (h : writeClaim cfg env req executorID task db = .ok (u, db')) :
    WritesClaim cfg env req executorID task db db' := by
  simp only [writeClaim, Tx.bind_eq_ok, Tx.exists_get, Tx.mapError_eq_ok, Tx.exists_ofExcept] at h
  obtain ⟨launch, _, hlaunch, image, himage, _, _, hpersist, hevent⟩ := h
  obtain ⟨rfl, snapshots, refs, hfreeze, rfl⟩ := resolveLaunchParametersLocked_ok hlaunch
  obtain ⟨resolvedImage, tasks, hcast, htasks, rfl⟩ := persistAssignment_ok hpersist
  obtain ⟨-, -, -, events, hevents, rfl⟩ := insertTaskEvent_eq_ok.mp hevent
  exact ⟨image.1, image.2, resolvedImage, snapshots, refs, tasks, events, hfreeze, himage, hcast,
    htasks, hevents, rfl⟩

/-- The inversion of an accepted claim: a repeated call that changes nothing, or a
    fresh claim. -/
theorem claimTask_ok (h : claimTask cfg env req executorID identity db = .ok (response, db')) :
    ∃ executor task, MayClaim db req executorID identity executor task ∧
      buildClaimResponseForRow cfg env req.taskID db' = .ok (response, db') ∧
      (task.currentState ≠ .pending ∧ task.ownerCommandID = some req.commandID ∧
          task.executorID = some executorID ∧ db' = db ∨
        FreshClaim cfg env req executorID executor task db db') := by
  simp only [claimTask, Tx.bind_eq_ok, lockClaim_eq_ok] at h
  obtain ⟨⟨executor, task⟩, _, ⟨hmay, rfl⟩, h⟩ := h
  refine ⟨executor, task, hmay, ?_⟩
  by_cases hstate : task.currentState = .pending
  · simp only [hstate, if_true, Tx.bind_eq_ok, Tx.exists_get, Tx.exists_ensure,
      Tx.mapError_eq_ok] at h
    obtain ⟨hold, _, db₁, hwrite, hresp⟩ := h
    obtain ⟨-, rfl⟩ := buildClaimResponseForRow_eq_ok.mp hresp
    exact ⟨hresp, .inr ⟨hstate, hold, writeClaim_ok hwrite⟩⟩
  · simp only [hstate, if_false, Tx.bind_eq_ok, Tx.exists_ensure] at h
    obtain ⟨⟨howner, hexec⟩, hresp⟩ := h
    obtain ⟨-, rfl⟩ := buildClaimResponseForRow_eq_ok.mp hresp
    exact ⟨hresp, .inl ⟨hstate, howner, hexec, rfl⟩⟩

/-- The repeated call run forward: it is a reading of the task. -/
theorem claimTask_of_claimed {executor : ExecutorRow}
    (hmay : MayClaim db req executorID identity executor task)
    (hstate : task.currentState ≠ .pending) (howner : task.ownerCommandID = some req.commandID)
    (hexec : task.executorID = some executorID) :
    claimTask cfg env req executorID identity db =
      buildClaimResponseForRow cfg env req.taskID db := by
  unfold claimTask
  rw [Tx.bind_of_ok (a := (executor, task)) (lockClaim_eq_ok.mpr ⟨hmay, rfl⟩)]
  simp only [hstate, if_false]
  rw [Tx.bind_of_ok (a := ()) (Tx.ensure_eq_ok.mpr ⟨⟨howner, hexec⟩, rfl⟩)]

end FlowAI.Registry
