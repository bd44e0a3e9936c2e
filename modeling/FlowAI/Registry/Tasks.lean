import FlowAI.Registry.Executors

/-! # Task Rows and Task Events

  Statements on `tasks` and `task_events` that several operations share: the
  projection of a row (`scanTaskRow`), the guarded update of a row with its
  triggers, and the insertion of a lifecycle event.
-/

namespace FlowAI.Registry

/-! ## Section 1: Projection -/

/-- The task as responses carry it. -/
structure TaskListEntry where
  taskID : String
  teamID : String
  sourceSystemID : String
  sourceID : String
  taskTypeID : String
  requiredTag : String
  payload : Json
  currentState : TaskState
  ownerCommandID : Option String
  executorID : Option String
  projectID : Option String
  image : Option ImageReference
  resolvedImage : Option ImageReference
  imageSource : Option ImageSource
  ingestedAt : String
  claimedAt : Option String
  deriving DecidableEq

/-- The zero `time.Time`, in microseconds. -/
def zeroTime : Int := -62135596800000000

/-- The wire form of a column; the zero time is the empty text. -/
def formatIngestedAt (micros : Int) : String :=
  if micros = zeroTime then "" else Time.formatRFC3339Nano (Time.ofMicros micros)

/-- A null image stays absent; any other must decode. -/
def decodeNullableImage (message : String) (image : Option Json) :
    Except String (Option ImageReference) :=
  match image with
  | none => .ok none
  | some j =>
    match ImageReference.ofJson j with
    | some r => .ok (some r)
    | none => .error message

def scanTaskRow (t : TaskRow) : Except String TaskListEntry := do
  let image ← decodeNullableImage "decode task image" t.image
  let resolvedImage ← decodeNullableImage "decode task resolved_image" t.resolvedImage
  return {
    taskID := t.taskID, teamID := t.teamID, sourceSystemID := t.sourceSystemID
    sourceID := t.sourceID, taskTypeID := t.taskTypeID, requiredTag := t.requiredTag
    payload := t.payload, currentState := t.currentState, ownerCommandID := t.ownerCommandID
    executorID := t.executorID, projectID := t.projectID, image, resolvedImage
    imageSource := t.imageSource, ingestedAt := formatIngestedAt t.ingestedAt
    claimedAt := t.claimedAt.map formatIngestedAt }

/-- The projection inside a transaction. -/
def scanTask (context : String) (t : TaskRow) : StoreTx TaskListEntry :=
  match scanTaskRow t with
  | .ok entry => pure entry
  | .error text => Tx.fail (.wrapped context (.plain text))

variable {t : TaskRow} {db db' : Db} {entry : TaskListEntry} {err : Violation → StoreError}

@[simp] theorem scanTask_eq_ok {context : String} :
    scanTask context t db = .ok (entry, db') ↔ scanTaskRow t = .ok entry ∧ db = db' := by
  unfold scanTask
  cases scanTaskRow t <;> simp

/-- The inversion of the projection: images decode, all else is copied. -/
theorem scanTaskRow_eq_ok (h : scanTaskRow t = .ok entry) :
    entry.taskID = t.taskID ∧ entry.teamID = t.teamID ∧
      entry.ownerCommandID = t.ownerCommandID ∧ entry.executorID = t.executorID ∧
      entry.imageSource = t.imageSource ∧ entry.claimedAt = t.claimedAt.map formatIngestedAt ∧
      decodeNullableImage "decode task resolved_image" t.resolvedImage =
        .ok entry.resolvedImage := by
  unfold scanTaskRow at h
  cases hi : decodeNullableImage "decode task image" t.image with
  | error e => simp [hi, bind, Except.bind] at h
  | ok image =>
    cases hr : decodeNullableImage "decode task resolved_image" t.resolvedImage with
    | error e => simp [hi, hr, bind, Except.bind] at h
    | ok resolved =>
      simp only [hi, hr, bind, Except.bind, pure, Except.pure, Except.ok.injEq] at h
      subst h
      exact ⟨rfl, rfl, rfl, rfl, rfl, rfl, rfl⟩

theorem scanTaskRow_of_decodes (hi : ∀ j ∈ t.image, (ImageReference.ofJson j).isSome)
    (hr : ∀ j ∈ t.resolvedImage, (ImageReference.ofJson j).isSome) :
    ∃ entry, scanTaskRow t = .ok entry := by
  have hdec : ∀ (m : String) (o : Option Json), (∀ j ∈ o, (ImageReference.ofJson j).isSome) →
      ∃ r, decodeNullableImage m o = .ok r := by
    intro m o ho
    cases o with
    | none => exact ⟨none, rfl⟩
    | some j =>
      obtain ⟨r, hj⟩ := Option.isSome_iff_exists.mp (ho j rfl)
      exact ⟨some r, by simp [decodeNullableImage, hj]⟩
  obtain ⟨i, hi'⟩ := hdec "decode task image" _ hi
  obtain ⟨r, hr'⟩ := hdec "decode task resolved_image" _ hr
  exact ⟨_, by simp only [scanTaskRow, hi', hr', bind, Except.bind, pure, Except.pure]; rfl⟩

/-! ## Section 2: Updating a task -/

/-- What both scope triggers of tasks ask of an executor and a team: a team-owned
    executor is of that team. -/
def ownedBy (db : Db) (executorID teamID : String) : Bool :=
  match db.executors.lookup executorID with
  | some e => e.scope = .system || e.teamID = some teamID
  | none => true

/-- Trigger `protect_task_update`: ingestion columns never change, claim columns
    never change once they are set. -/
def protectTaskUpdate (old new : TaskRow) : Bool :=
  new.taskID = old.taskID && new.teamID = old.teamID &&
    new.sourceSystemID = old.sourceSystemID && new.sourceID = old.sourceID &&
    new.taskTypeID = old.taskTypeID && new.requiredTag = old.requiredTag &&
    new.image = old.image && new.ingestedAt = old.ingestedAt &&
    (old.ownerCommandID.isNone || new.ownerCommandID = old.ownerCommandID) &&
    (old.executorID.isNone || new.executorID = old.executorID) &&
    (old.resolvedImage.isNone || new.resolvedImage = old.resolvedImage) &&
    (old.imageSource.isNone || new.imageSource = old.imageSource) &&
    (old.claimedAt.isNone || new.claimedAt = old.claimedAt)

/-- `UPDATE tasks SET … WHERE task_id = $1`. -/
def updateTask (err : Violation → StoreError) (taskID : String) (f : TaskRow → TaskRow)
    (hf : ∀ t, (f t).taskID = t.taskID) : StoreTx Unit := do
  let db ← Tx.get
  require err .trigger (∀ t ∈ db.tasks.lookup taskID, protectTaskUpdate t (f t))
  let tasks ← refuse err (db.tasks.update taskID f hf)
  Tx.set { db with tasks }

theorem updateTask_eq_ok {taskID : String} {f : TaskRow → TaskRow}
    {hf : ∀ t, (f t).taskID = t.taskID} {u : Unit} :
    updateTask err taskID f hf db = .ok (u, db') ↔
      (∀ t ∈ db.tasks.lookup taskID, protectTaskUpdate t (f t)) ∧
      ∃ tasks, db.tasks.update taskID f hf = .ok tasks ∧ db' = { db with tasks } := by
  simp only [updateTask, Tx.bind_eq_ok, Tx.exists_get, exists_require, exists_refuse, Tx.set_eq_ok]

/-! ## Section 3: Appending a lifecycle event -/

/-- Trigger `validate_task_event_scope`: an event of a team-owned executor carries
    the team of the executor. -/
def taskEventScope (db : Db) (row : TaskEventRow) : Bool :=
  ownedBy db row.executorID row.teamID

/-- `INSERT INTO task_events`. -/
def insertTaskEvent (err : Violation → StoreError) (row : TaskEventRow) : StoreTx Unit := do
  let db ← Tx.get
  require err .trigger (taskEventScope db row)
  let taskEvents ← refuse err (db.taskEvents.insert row)
  require err .foreignKey (db.executors.lookup row.executorID).isSome
  require err .foreignKey ((db.tasks.lookup row.taskID).any (fun t => t.teamID = row.teamID))
  Tx.set { db with taskEvents }

theorem insertTaskEvent_eq_ok {row : TaskEventRow} {u : Unit} :
    insertTaskEvent err row db = .ok (u, db') ↔
      taskEventScope db row = true ∧ (db.executors.lookup row.executorID).isSome ∧
      ((db.tasks.lookup row.taskID).any (fun t => t.teamID = row.teamID)) = true ∧
      ∃ taskEvents, db.taskEvents.insert row = .ok taskEvents ∧ db' = { db with taskEvents } := by
  simp only [insertTaskEvent, Tx.bind_eq_ok, Tx.exists_get, exists_require, exists_refuse,
    Tx.set_eq_ok]
  constructor
  · rintro ⟨hs, events, he, hx, ht, rfl⟩
    exact ⟨hs, hx, ht, events, he, rfl⟩
  · rintro ⟨hs, hx, ht, events, he, rfl⟩
    exact ⟨hs, events, he, hx, ht, rfl⟩

/-- An event of a stored task and a stored executor goes in while its identifier is free. -/
theorem insertTaskEvent_of_free {row : TaskEventRow} {executor : ExecutorRow} {task : TaskRow}
    (hscope : taskEventScope db row = true)
    (hexec : db.executors.lookup row.executorID = some executor)
    (htask : db.tasks.lookup row.taskID = some task) (hteam : task.teamID = row.teamID)
    (hfree : db.taskEvents.lookup row.eventID = none) :
    ∃ taskEvents, insertTaskEvent err row db = .ok ((), { db with taskEvents }) := by
  obtain ⟨taskEvents, hins⟩ : ∃ t, db.taskEvents.insert row = .ok t :=
    Table.insert_ok rfl hfree (by simp [Schema.Clash, taskEventSchema])
  refine ⟨taskEvents, insertTaskEvent_eq_ok.mpr ⟨hscope, ?_, ?_, taskEvents, hins, rfl⟩⟩
  · rw [hexec]
    rfl
  · rw [htask]
    simp [hteam]

end FlowAI.Registry
