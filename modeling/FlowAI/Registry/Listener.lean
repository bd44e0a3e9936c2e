import FlowAI.Registry.Tasks

/-! # Task Ingestion

  `IngestTask` of `store/listener.go`: a listener submits a task, and the tuple
  (team, source system, source id) deduplicates submissions.  `ingested_at` is
  the transaction time truncated to the second.
-/

namespace FlowAI.Registry

/-- `json.Marshal` of a raw payload: no bytes are `null`. -/
def marshalPayload : RawMessage → Except StoreError Json
  | .empty => .ok .null
  | .text j => .ok j
  | .invalid => .error (.wrapped "marshal listener payload" (.plain "invalid JSON"))

/-- `date_trunc('second', t)` on microseconds. -/
def truncSecond (micros : Int) : Int := micros / 1000000 * 1000000

/-- The row a submission inserts; state and claim columns take their defaults. -/
def ingestedRow (env : CallEnv) (req : TaskIngestionRequest) (ident : ListenerIdentity)
    (executionTag : String) (payload : Json) : TaskRow where
  taskID := env.uuid 0
  teamID := ident.teamID
  sourceSystemID := ident.sourceSystemID
  sourceID := req.sourceID
  taskTypeID := req.taskTypeID
  requiredTag := executionTag
  payload := payload.jsonb
  currentState := .pending
  ownerCommandID := none
  executorID := none
  projectID := req.projectID
  image := nullableImage req.image
  resolvedImage := none
  imageSource := none
  ingestedAt := truncSecond env.txTime
  claimedAt := none

/-- The task that holds a submission's deduplication tuple. -/
def findSubmission (db : Db) (teamID sourceSystemID sourceID : String) : Option TaskRow :=
  db.tasks.rows.find? (fun t =>
    t.teamID = teamID && t.sourceSystemID = sourceSystemID && t.sourceID = sourceID)

/-- Verify the binding of the listener and derive the tag of the task type. -/
def resolveSubmission (req : TaskIngestionRequest) (ident : ListenerIdentity) :
    StoreTx TaskTypeRow := do
  let db ← Tx.get
  let team ← Tx.ofOption (db.teams.lookup ident.teamID) .listenerSourceMismatch
  Tx.ensure team.archivedAt.isNone .teamArchived
  Tx.ensure ((db.sourceSystems.lookup ident.sourceSystemID).any (fun s =>
    s.teamID = ident.teamID && s.listenerIdentity = ident.identity)) .listenerSourceMismatch
  Tx.ofOption ((db.taskTypes.lookup req.taskTypeID).filter (fun tt => tt.teamID = ident.teamID))
    .listenerTaskTypeUnknown

variable {req : TaskIngestionRequest} {ident : ListenerIdentity}

theorem resolveSubmission_eq_ok {db db' : Db}
    {taskType : TaskTypeRow} : resolveSubmission req ident db = .ok (taskType, db') ↔
      (∃ team, db.teams.lookup ident.teamID = some team ∧ team.archivedAt = none) ∧
      (∃ source, db.sourceSystems.lookup ident.sourceSystemID = some source ∧
        source.teamID = ident.teamID ∧ source.listenerIdentity = ident.identity) ∧
      db.taskTypes.lookup req.taskTypeID = some taskType ∧ taskType.teamID = ident.teamID ∧
      db = db' := by
  simp only [resolveSubmission, Tx.bind_eq_ok, Tx.exists_get, Tx.ofOption_eq_ok, Tx.exists_ensure,
    Option.filter_eq_some_iff, Option.any_eq_true, Bool.and_eq_true, decide_eq_true_eq,
    Option.isNone_iff_eq_none]
  constructor
  · rintro ⟨team, _, ⟨hteam, rfl⟩, hactive, hsource, ⟨htt, htm⟩, rfl⟩
    exact ⟨⟨team, hteam, hactive⟩, hsource, htt, htm, rfl⟩
  · rintro ⟨⟨team, hteam, hactive⟩, hsource, htt, htm, rfl⟩
    exact ⟨team, db, ⟨hteam, rfl⟩, hactive, hsource, ⟨htt, htm⟩, rfl⟩

/-- The canonical task of a submission; the flag says whether this call created it.
    The foreign keys of the insertion name the rows `resolveSubmission` read. -/
def ingestTask (cfg : Config) (env : CallEnv) (req : TaskIngestionRequest)
    (ident : ListenerIdentity) : StoreTx (TaskListEntry × Bool) := do
  Tx.ensure (req.teamID = ident.teamID ∧ req.sourceSystemID = ident.sourceSystemID)
    .listenerSourceMismatch
  let payload ← Tx.ofExcept (marshalPayload req.payload)
  let taskType ← resolveSubmission req ident
  let row := ingestedRow env req ident taskType.executionTag payload
  require (wrap "insert pending task") .check (cfg.jsonbAdmits payload ∧ taskSchema.check row)
  let db ← Tx.get
  match findSubmission db ident.teamID ident.sourceSystemID req.sourceID with
  | some existing =>
    let entry ← scanTask "re-read canonical task" existing
    return (entry, false)
  | none =>
    let tasks ← refuse (wrap "insert pending task") (db.tasks.insert row)
    Tx.set { db with tasks }
    let entry ← scanTask "insert pending task" row
    return (entry, true)

/-- What the checks before the insertion establish. -/
structure Submits (cfg : Config) (env : CallEnv) (req : TaskIngestionRequest)
    (ident : ListenerIdentity) (db : Db) (taskType : TaskTypeRow) (payload : Json) : Prop where
  addressed : req.teamID = ident.teamID ∧ req.sourceSystemID = ident.sourceSystemID
  active : ∃ team, db.teams.lookup ident.teamID = some team ∧ team.archivedAt = none
  source : ∃ source, db.sourceSystems.lookup ident.sourceSystemID = some source ∧
    source.teamID = ident.teamID ∧ source.listenerIdentity = ident.identity
  typed : db.taskTypes.lookup req.taskTypeID = some taskType ∧ taskType.teamID = ident.teamID
  marshalled : marshalPayload req.payload = .ok payload
  admitted : cfg.jsonbAdmits payload ∧
    taskSchema.check (ingestedRow env req ident taskType.executionTag payload)

/-- An accepted submission: a known task, or a new pending one. -/
theorem ingestTask_eq_ok {cfg : Config} {env : CallEnv}
    {db db' : Db} {result : TaskListEntry × Bool} :
    ingestTask cfg env req ident db = .ok (result, db') ↔
    ∃ taskType payload, Submits cfg env req ident db taskType payload ∧
      ((∃ t, findSubmission db ident.teamID ident.sourceSystemID req.sourceID = some t ∧
          scanTaskRow t = .ok result.1 ∧ result.2 = false ∧ db' = db) ∨
        findSubmission db ident.teamID ident.sourceSystemID req.sourceID = none ∧
          ∃ tasks, db.tasks.insert (ingestedRow env req ident taskType.executionTag payload) =
              .ok tasks ∧
            scanTaskRow (ingestedRow env req ident taskType.executionTag payload) =
              .ok result.1 ∧
            result.2 = true ∧ db' = { db with tasks }) := by
  obtain ⟨entry, created⟩ := result
  simp only [ingestTask, Tx.bind_eq_ok, Tx.exists_ensure, Tx.exists_ofExcept, exists_require,
    Tx.exists_get, resolveSubmission_eq_ok]
  constructor
  · rintro ⟨haddr, payload, hpayload, taskType, _, ⟨hteam, hsource, htt, htm, rfl⟩, hadm, h⟩
    refine ⟨taskType, payload, ⟨haddr, hteam, hsource, ⟨htt, htm⟩, hpayload, hadm⟩, ?_⟩
    cases hf : findSubmission db ident.teamID ident.sourceSystemID req.sourceID with
    | some existing =>
      simp only [hf, Tx.bind_eq_ok, scanTask_eq_ok, Tx.pure_eq_ok, Prod.mk.injEq] at h
      obtain ⟨_, _, ⟨hscan, rfl⟩, ⟨rfl, rfl⟩, rfl⟩ := h
      exact .inl ⟨existing, rfl, hscan, rfl, rfl⟩
    | none =>
      simp only [hf, Tx.bind_eq_ok, exists_refuse, Tx.exists_set, scanTask_eq_ok, Tx.pure_eq_ok,
        Prod.mk.injEq] at h
      obtain ⟨tasks, hi, _, _, ⟨hscan, rfl⟩, ⟨rfl, rfl⟩, rfl⟩ := h
      exact .inr ⟨rfl, tasks, hi, hscan, rfl, rfl⟩
  · rintro ⟨taskType, payload, hsub, h⟩
    refine ⟨hsub.addressed, payload, hsub.marshalled, taskType, db,
      ⟨hsub.active, hsub.source, hsub.typed.1, hsub.typed.2, rfl⟩, hsub.admitted, ?_⟩
    rcases h with ⟨t, hf, hscan, hflag, rfl⟩ | ⟨hf, tasks, hins, hscan, hflag, rfl⟩
    · simp only [hf, Tx.bind_eq_ok, scanTask_eq_ok, Tx.pure_eq_ok, Prod.mk.injEq]
      exact ⟨entry, _, ⟨hscan, rfl⟩, ⟨rfl, hflag.symm⟩, rfl⟩
    · simp only [hf, Tx.bind_eq_ok, exists_refuse, Tx.exists_set, scanTask_eq_ok, Tx.pure_eq_ok,
        Prod.mk.injEq]
      exact ⟨tasks, hins, entry, _, ⟨hscan, rfl⟩, ⟨rfl, hflag.symm⟩, rfl⟩

end FlowAI.Registry
