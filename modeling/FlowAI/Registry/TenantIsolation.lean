import FlowAI.Registry.EventRetry
import FlowAI.Registry.Routes

/-! # What an Append Reveals of Other Tenants

  Two stores that look the same from an append (its executor, its task, the task's own
  events, the task's team) may hold any tasks and events of others.  The outcome the
  caller sees is the same in both, except for one thing: event ids are unique over the
  whole table, so an id that another task's event uses makes the `INSERT` fail, and the
  handler answers with an internal error.
-/

namespace FlowAI.Registry

/-! ## Section 1: What the caller sees -/

/-- The text of an error, as far as the handlers look into it; what the database says
    names its constraint only. -/
def StoreError.text : StoreError → String
  | .plain text => text
  | .wrapped context err => context ++ ": " ++ err.text
  | _ => ""

/-- Status and code of an error, `mapAppendTaskEventError`. -/
def mapAppendTaskEventError : StoreError → Nat × String
  | .eventNotFound => (404, "task_not_found")
  | .executorNotFound => (404, "executor_unknown")
  | .notAssigned => (403, "not_assigned")
  | .eventTeamMismatch => (403, "team_mismatch")
  | .eventConflict => (409, "invalid_task_transition")
  | .invalidTaskTransition => (409, "invalid_task_transition")
  | err =>
    if containsText "is not accepted on the task event surface".toList err.text.toList then
      (403, "self_event_type_not_allowed")
    else (500, "internal_error")

/-- The accepted event or the class of the error. -/
def outcomeOf (result : Except StoreError (TaskEvent × Db)) : Except (Nat × String) TaskEvent :=
  match result with
  | .ok (event, _) => .ok event
  | .error e => .error (mapAppendTaskEventError e)

def appendOutcome (cfg : Config) (env : CallEnv) (req : TaskEventAppendRequest)
    (identity : ExecutorIdentity) (db : Db) : Except (Nat × String) TaskEvent :=
  outcomeOf (appendTaskEvent cfg env req identity db)

/-! ## Section 2: Stores that look the same -/

/-- The two stores agree on the rows an append may see: its executor, its task, the events
    and the team of that task, and the audit row it would collide with. -/
structure LookAlike (env : CallEnv) (req : TaskEventAppendRequest) (identity : ExecutorIdentity)
    (db db' : Db) : Prop where
  executor : db.executors.lookup identity.executorID = db'.executors.lookup identity.executorID
  task : db.tasks.lookup req.taskID = db'.tasks.lookup req.taskID
  events : ∀ r : TaskEventRow, r.taskID = req.taskID →
    (r ∈ db.taskEvents.rows ↔ r ∈ db'.taskEvents.rows)
  team : ∀ t ∈ db.tasks.lookup req.taskID,
    db.teams.lookup t.teamID = db'.teams.lookup t.teamID
  audit : db.auditEntries.lookup (env.uuid 0) = db'.auditEntries.lookup (env.uuid 0)

/-- Some other task's event has the id of the request. -/
def UsedElsewhere (db : Db) (req : TaskEventAppendRequest) : Prop :=
  ∃ r ∈ db.taskEvents.rows, r.eventID = req.eventID ∧ r.taskID ≠ req.taskID

section

variable {cfg : Config} {env : CallEnv} {req : TaskEventAppendRequest}
  {identity : ExecutorIdentity} {db db' : Db} {parsed : ParsedEvent} {task : TaskRow}

theorem LookAlike.findTaskEvent (h : LookAlike env req identity db db') :
    findTaskEvent db req.taskID req.eventID = findTaskEvent db' req.taskID req.eventID := by
  apply Option.ext
  intro r
  simp only [findTaskEvent_eq_some, Table.lookup_eq_some_iff]
  exact and_congr_left (fun htask => and_congr_left' (h.events r htask))

/-- Two lists of events with the same members have the same latest event: the tuple holds
    the primary key. -/
theorem LookAlike.latestTaskEvent (h : LookAlike env req identity db db') :
    latestTaskEvent db req.taskID = latestTaskEvent db' req.taskID := by
  have hmem : ∀ r, r ∈ db.taskEvents.rows.filter (fun r => r.taskID = req.taskID) ↔
      r ∈ db'.taskEvents.rows.filter (fun r => r.taskID = req.taskID) := by
    intro r
    simp only [List.mem_filter, decide_eq_true_eq]
    exact and_congr_left (h.events r)
  have hinj : ∀ db : Db, ∀ a ∈ db.taskEvents.rows.filter (fun r => r.taskID = req.taskID),
      ∀ b ∈ db.taskEvents.rows.filter (fun r => r.taskID = req.taskID), a.tuple = b.tuple →
        a = b := by
    intro db a ha b hb heq
    exact db.taskEvents.eq_of_key_eq (List.mem_of_mem_filter ha) (List.mem_of_mem_filter hb)
      (congrArg (fun p => (ofLex p).2) heq)
  apply Option.ext
  intro r
  unfold Registry.latestTaskEvent
  rw [head?_orderByDesc_eq_some (hinj db), head?_orderByDesc_eq_some (hinj db')]
  simp only [hmem]

/-! ### The checks give the same answer -/

theorem outcomeOf_agree {x y : StoreTx TaskEvent} (h : x.Agree db y db') :
    outcomeOf (x db) = outcomeOf (y db') := by
  rcases h with ⟨e, hx, hy⟩ | ⟨event, hx, hy⟩
  · rw [hx, hy]
  · rw [hx, hy]
    rfl

theorem authorizeTaskEvent_agree (h : LookAlike env req identity db db') :
    (authorizeTaskEvent req identity).Agree db (authorizeTaskEvent req identity) db' := by
  unfold authorizeTaskEvent
  apply Tx.Agree.get_bind
  rw [h.executor, h.task]
  refine (Tx.Agree.of_option _ _).bind (fun executor => ?_)
  refine (Tx.Agree.ensure _ _).bind (fun _ => ?_)
  refine (Tx.Agree.ensure _ _).bind (fun _ => ?_)
  refine (Tx.Agree.of_option _ _).bind (fun task => ?_)
  refine (Tx.Agree.ensure _ _).bind (fun _ => ?_)
  refine (Tx.Agree.ensure _ _).bind (fun _ => ?_)
  refine (Tx.Agree.ensure _ _).bind (fun _ => ?_)
  exact .of_pure task

theorem ensureOrder_agree (h : LookAlike env req identity db db') :
    (ensureOrder req parsed task).Agree db (ensureOrder req parsed task) db' := by
  unfold ensureOrder
  apply Tx.Agree.get_bind
  rw [h.latestTaskEvent]
  cases latestTaskEvent db' req.taskID with
  | none | some => exact .ensure _ _

/-! ## Section 3: The checks and the writes of a fresh event -/

theorem appendFresh_eq : appendFresh cfg env req identity parsed task =
    freshChecks cfg req parsed task >>= fun _ => freshWrite env req identity parsed task := by
  simp only [freshChecks, Tx.bind_assoc]
  rfl

theorem freshChecks_agree (cfg : Config) (parsed : ParsedEvent) (task : TaskRow)
    (h : LookAlike env req identity db db') :
    (freshChecks cfg req parsed task).Agree db (freshChecks cfg req parsed task) db' := by
  unfold freshChecks
  refine (Tx.Agree.ensure _ _).bind (fun _ => ?_)
  exact (ensureOrder_agree h).bind (fun _ => .ensure _ _)

/-- The audit row of the append has a free id, a team, and no blank column. -/
structure AuditReady (env : CallEnv) (req : TaskEventAppendRequest) (identity : ExecutorIdentity)
    (task : TaskRow) (db : Db) : Prop where
  team : (db.teams.lookup task.teamID).isSome
  free : db.auditEntries.lookup (env.uuid 0) = none
  check : auditSchema.check (taskEventAudit env req identity task) = true

theorem LookAlike.auditReady (h : LookAlike env req identity db db')
    (htask : db.tasks.lookup req.taskID = some task) :
    AuditReady env req identity task db ↔ AuditReady env req identity task db' := by
  have hteam := h.team task htask
  constructor
  · intro hready
    exact ⟨hteam ▸ hready.team, h.audit ▸ hready.free, hready.check⟩
  · intro hready
    exact ⟨hteam ▸ hready.team, h.audit ▸ hready.free, hready.check⟩

theorem insertAudit_error {context : String} {row : AuditRow} {e : StoreError}
    (h : insertAudit context row db = .error e) : ∃ v, e = wrap context v := by
  unfold insertAudit at h
  rw [Tx.get_bind] at h
  cases hins : db.auditEntries.insert row with
  | error v =>
    rw [Tx.bind_of_error (e := wrap context v) (by rw [hins]; rfl)] at h
    injection h with h
    exact ⟨v, h.symm⟩
  | ok entries =>
    rw [Tx.bind_of_ok (refuse_eq_ok.mpr ⟨hins, rfl⟩)] at h
    by_cases hfk : ∀ team ∈ row.teamID, (db.teams.lookup team).isSome
    · rw [Tx.bind_of_ok (a := ()) (require_eq_ok.mpr ⟨hfk, rfl⟩)] at h
      cases h
    · rw [Tx.bind_of_error (e := wrap context .foreignKey)
        (by simp only [require, Tx.ensure, if_neg hfk, Tx.fail])] at h
      injection h with h
      exact ⟨.foreignKey, h.symm⟩

theorem AuditReady.insertAudit_ok (h : AuditReady env req identity task db) :
    ∃ db', insertAudit "append task event audit" (taskEventAudit env req identity task) db =
      .ok ((), db') := by
  obtain ⟨auditEntries, hins⟩ : ∃ t, db.auditEntries.insert
      (taskEventAudit env req identity task) = .ok t :=
    Table.insert_ok h.check h.free (by simp [Schema.Clash, auditSchema])
  refine ⟨_, insertAudit_eq_ok.mpr ⟨auditEntries, hins, ?_, rfl⟩⟩
  intro team hteam
  have : task.teamID = team := Option.some.inj hteam
  exact this ▸ h.team

theorem AuditReady.of_insertAudit {u : Unit}
    (h : insertAudit "append task event audit" (taskEventAudit env req identity task) db =
      .ok (u, db')) : AuditReady env req identity task db := by
  obtain ⟨auditEntries, hins, hteam, -⟩ := insertAudit_eq_ok.mp h
  obtain ⟨hcheck, hfree, -⟩ := Table.insert_eq_ok_iff.mp hins
  exact ⟨hteam task.teamID rfl, hfree, hcheck⟩

/-- A refused write is an internal error: the context names no event type. -/
theorem internal_of_append (v : Violation) :
    mapAppendTaskEventError (wrap "append task event" v) = (500, "internal_error") := by
  cases v <;> decide

theorem internal_of_audit (v : Violation) :
    mapAppendTaskEventError (wrap "append task event audit" v) = (500, "internal_error") := by
  cases v <;> decide

theorem MayAppend.taskEventScope (h : MayAppend db req identity task) :
    taskEventScope db (taskEventRow req identity task parsed) = true := by
  obtain ⟨executor, hexecutor, -, hteam⟩ := h.executor
  show ownedBy db identity.executorID task.teamID = true
  rw [ownedBy, hexecutor]
  cases hscope : executor.scope with
  | system => simp [hscope]
  | team => simp [hscope, (hteam hscope).1]

theorem MayAppend.claimed (h : MayAppend db req identity task) : task.currentState ≠ .pending := by
  intro hpending
  have hcheck := db.tasks.checked task (Table.mem_of_lookup h.found)
  simp [taskSchema, TaskRow.claimColumns, hpending, h.assigned] at hcheck

/-- The projection of an accepted event keeps the constraints of the task table. -/
theorem MayAppend.project_ok (h : MayAppend db req identity task) (eventType : TaskEventType) :
    ∃ tasks, db.tasks.update req.taskID (TaskRow.project eventType) (fun _ => rfl) =
      .ok tasks := by
  have hcheck := db.tasks.checked task (Table.mem_of_lookup h.found)
  have hclaimed := h.claimed
  apply Table.update_ok
  · intro r hr hkey
    have hrow : r = task := by
      have hlookup := Table.lookup_key hr
      rw [hkey, h.found] at hlookup
      exact (Option.some.inj hlookup).symm
    subst hrow
    have hstate : eventType.state ≠ .pending := by
      cases eventType <;> decide
    simpa [taskSchema, TaskRow.claimColumns, TaskRow.project, hclaimed, hstate] using hcheck
  · intro u hu r
    simp only [taskSchema, List.mem_singleton] at hu
    subst hu
    rfl

/-- Once the id is free the event is stored and the task projected; what remains is the audit
    row. -/
theorem freshWrite_of_free (env : CallEnv) (parsed : ParsedEvent)
    (hm : MayAppend db req identity task)
    (hfree : db.taskEvents.lookup req.eventID = none) :
    ∃ taskEvents tasks, freshWrite env req identity parsed task db =
      (insertAudit "append task event audit" (taskEventAudit env req identity task) >>= fun _ =>
        pure (taskEventResponse req identity task parsed.eventType parsed.occurredAt
          parsed.payload)) { db with taskEvents, tasks } := by
  obtain ⟨executor, hexecutor, -, -⟩ := hm.executor
  obtain ⟨taskEvents, hevent⟩ : ∃ taskEvents, insertTaskEvent (wrap "append task event")
      (taskEventRow req identity task parsed) db = .ok ((), { db with taskEvents }) :=
    insertTaskEvent_of_free hm.taskEventScope hexecutor hm.found rfl hfree
  obtain ⟨tasks, hupdate⟩ := hm.project_ok parsed.eventType
  have hproject : updateTask (wrap (projectContext parsed.eventType)) req.taskID
      (TaskRow.project parsed.eventType) (fun _ => rfl) { db with taskEvents } =
      .ok ((), { db with taskEvents, tasks }) := by
    refine updateTask_eq_ok.mpr ⟨?_, tasks, hupdate, rfl⟩
    intro t _
    simp [protectTaskUpdate, TaskRow.project]
  refine ⟨taskEvents, tasks, ?_⟩
  unfold freshWrite
  rw [Tx.bind_of_ok hevent, Tx.bind_of_ok hproject]

/-- The outcome of the writes: an internal error if the id is taken anywhere. -/
theorem outcomeOf_freshWrite (env : CallEnv) (parsed : ParsedEvent)
    (hm : MayAppend db req identity task)
    (hnone : findTaskEvent db req.taskID req.eventID = none) :
    (¬ UsedElsewhere db req ∧ AuditReady env req identity task db ∧
      outcomeOf (freshWrite env req identity parsed task db) =
        .ok (taskEventResponse req identity task parsed.eventType parsed.occurredAt
          parsed.payload)) ∨
    ((UsedElsewhere db req ∨ ¬ AuditReady env req identity task db) ∧
      outcomeOf (freshWrite env req identity parsed task db) =
        .error (500, "internal_error")) := by
  by_cases hused : UsedElsewhere db req
  · right
    refine ⟨.inl hused, ?_⟩
    obtain ⟨r, hr, hid, -⟩ := hused
    have hrefused : db.taskEvents.insert (taskEventRow req identity task parsed) =
        .error .primaryKey := by
      have hkey : taskEventSchema.key (taskEventRow req identity task parsed) ∈
          db.taskEvents.rows.map taskEventSchema.key := List.mem_map.mpr ⟨r, hr, hid⟩
      have hcheck : taskEventSchema.check (taskEventRow req identity task parsed) = true := rfl
      rw [Table.insert, dif_pos hcheck, dif_pos hkey]
    have hevent : insertTaskEvent (wrap "append task event")
        (taskEventRow req identity task parsed) db =
        .error (wrap "append task event" .primaryKey) := by
      have hscope : require (wrap "append task event") .trigger
          (taskEventScope db (taskEventRow req identity task parsed) = true) db = .ok ((), db) :=
        require_eq_ok.mpr ⟨hm.taskEventScope, rfl⟩
      unfold insertTaskEvent
      rw [Tx.get_bind, Tx.bind_of_ok hscope, hrefused]
      rfl
    unfold freshWrite
    rw [Tx.bind_of_error hevent]
    exact congrArg Except.error (internal_of_append .primaryKey)
  · -- the id is not the task's own either
    have hfree : db.taskEvents.lookup req.eventID = none := by
      rw [Table.lookup_eq_none_iff]
      intro r hr hid
      by_cases htask : r.taskID = req.taskID
      · have hfound := findTaskEvent_eq_some.mpr
          ⟨Table.lookup_eq_some_iff.mpr ⟨hr, hid⟩, htask⟩
        rw [hnone] at hfound
        cases hfound
      · exact hused ⟨r, hr, hid, htask⟩
    obtain ⟨taskEvents, tasks, hwrite⟩ := freshWrite_of_free env parsed hm hfree
    rw [hwrite]
    cases haudit : insertAudit "append task event audit" (taskEventAudit env req identity task)
        { db with taskEvents, tasks } with
    | error e =>
      right
      obtain ⟨v, rfl⟩ := insertAudit_error haudit
      rw [Tx.bind_of_error haudit]
      refine ⟨.inr ?_, congrArg Except.error (internal_of_audit v)⟩
      intro hready
      have hready' : AuditReady env req identity task { db with taskEvents, tasks } :=
        ⟨hready.team, hready.free, hready.check⟩
      obtain ⟨db', hok⟩ := hready'.insertAudit_ok
      rw [haudit] at hok
      cases hok
    | ok p =>
      left
      have hready := AuditReady.of_insertAudit haudit
      rw [Tx.bind_of_ok haudit]
      exact ⟨hused, ⟨hready.team, hready.free, hready.check⟩, rfl⟩

/-! ## Section 4: Noninterference -/

/-- Seen from the task's own data, the request is a new event the store would take: it
    parses, its caller may append, the task has no event of this id, the transition and the
    order are right, and its payload and its audit row are admitted. -/
def NewEvent (cfg : Config) (env : CallEnv) (req : TaskEventAppendRequest)
    (identity : ExecutorIdentity) (db : Db) : Prop :=
  ∃ parsed task, parseTaskEvent req = .ok parsed ∧ MayAppend db req identity task ∧
    findTaskEvent db req.taskID req.eventID = none ∧
    freshChecks cfg req parsed task db = .ok ((), db) ∧ AuditReady env req identity task db

/-- The outcome of an append that is not a new event, or the writes of one that is. -/
theorem appendOutcome_cases (cfg : Config) (h : LookAlike env req identity db db') :
    (¬ NewEvent cfg env req identity db ∧
      appendOutcome cfg env req identity db = appendOutcome cfg env req identity db') ∨
    (∃ parsed task, parseTaskEvent req = .ok parsed ∧ MayAppend db req identity task ∧
      MayAppend db' req identity task ∧
      findTaskEvent db req.taskID req.eventID = none ∧
      freshChecks cfg req parsed task db = .ok ((), db) ∧
      appendOutcome cfg env req identity db =
        outcomeOf (freshWrite env req identity parsed task db) ∧
      appendOutcome cfg env req identity db' =
        outcomeOf (freshWrite env req identity parsed task db')) := by
  unfold appendOutcome appendTaskEvent
  cases hparse : parseTaskEvent req with
  | error e =>
    left
    refine ⟨?_, rfl⟩
    rintro ⟨parsed, task, hparsed, -⟩
    rw [hparse] at hparsed
    cases hparsed
  | ok parsed =>
    rw [Tx.bind_of_ok (Tx.ofExcept_eq_ok.mpr ⟨rfl, rfl⟩),
      Tx.bind_of_ok (Tx.ofExcept_eq_ok.mpr ⟨rfl, rfl⟩)]
    rcases authorizeTaskEvent_agree h with ⟨e, hauth, hauth'⟩ | ⟨task, hauth, hauth'⟩
    · left
      rw [Tx.bind_of_error hauth, Tx.bind_of_error hauth']
      refine ⟨?_, rfl⟩
      rintro ⟨_, task, -, hm, -⟩
      rw [authorizeTaskEvent_eq_ok.mpr ⟨hm, rfl⟩] at hauth
      cases hauth
    · have hm := (authorizeTaskEvent_eq_ok.mp hauth).1
      have hm' := (authorizeTaskEvent_eq_ok.mp hauth').1
      rw [Tx.bind_of_ok hauth, Tx.bind_of_ok hauth', Tx.get_bind,
        Tx.get_bind, ← h.findTaskEvent]
      cases hfind : findTaskEvent db req.taskID req.eventID with
      | some existing =>
        left
        refine ⟨?_, ?_⟩
        · rintro ⟨_, _, -, -, hnone, -⟩
          rw [hfind] at hnone
          cases hnone
        · -- a retry or a conflict with the task's own event
          exact outcomeOf_agree ((Tx.Agree.ensure _ _).bind (fun _ => .of_pure _))
      | none =>
        simp only [appendFresh_eq]
        rcases freshChecks_agree cfg parsed task h with
          ⟨e, hchecks, hchecks'⟩ | ⟨_, hchecks, hchecks'⟩
        · left
          rw [Tx.bind_of_error hchecks, Tx.bind_of_error hchecks']
          refine ⟨?_, rfl⟩
          rintro ⟨parsed₁, task₁, hparsed₁, hm₁, -, hok, -⟩
          rw [hparse] at hparsed₁
          injection hparsed₁ with hparsed₁
          have htask : task = task₁ := Option.some.inj (hm.found.symm.trans hm₁.found)
          rw [← hparsed₁, ← htask, hchecks] at hok
          cases hok
        · right
          rw [Tx.bind_of_ok hchecks, Tx.bind_of_ok hchecks']
          exact ⟨parsed, task, rfl, hm, hm', trivial, hchecks, rfl, rfl⟩

theorem append_outcome_agrees_iff (h : LookAlike env req identity db db') :
    appendOutcome cfg env req identity db = appendOutcome cfg env req identity db' ↔
      (NewEvent cfg env req identity db → (UsedElsewhere db req ↔ UsedElsewhere db' req)) := by
  rcases appendOutcome_cases cfg h with ⟨hold, hsame⟩ |
    ⟨parsed, task, hparsed, hm, hm', hnone, hchecks, hout, hout'⟩
  · exact ⟨fun _ hnew => absurd hnew hold, fun _ => hsame⟩
  · have hready := h.auditReady hm.found
    have hnew : NewEvent cfg env req identity db ↔ AuditReady env req identity task db := by
      constructor
      · rintro ⟨_, task₁, -, hm₁, -, -, hready₁⟩
        have htask : task = task₁ := Option.some.inj (hm.found.symm.trans hm₁.found)
        exact htask ▸ hready₁
      · intro hr
        exact ⟨parsed, task, hparsed, hm, hnone, hchecks, hr⟩
    rw [hout, hout', hnew]
    rcases outcomeOf_freshWrite env parsed hm hnone with
      ⟨hfree, hr, hwrite⟩ | ⟨hcause, hwrite⟩ <;>
    rcases outcomeOf_freshWrite env parsed hm' (h.findTaskEvent ▸ hnone) with
      ⟨hfree', hr', hwrite'⟩ | ⟨hcause', hwrite'⟩ <;>
    rw [hwrite, hwrite']
    · exact ⟨fun _ _ => ⟨fun hu => absurd hu hfree, fun hu => absurd hu hfree'⟩, fun _ => rfl⟩
    · have hused := hcause'.resolve_right (fun hn => hn (hready.mp hr))
      exact ⟨fun heq => by simp at heq, fun himp => absurd ((himp hr).mpr hused) hfree⟩
    · have hused := hcause.resolve_right (fun hn => hn (hready.mpr hr'))
      exact ⟨fun heq => by simp at heq,
        fun himp => absurd ((himp (hready.mpr hr')).mp hused) hfree'⟩
    · refine ⟨fun _ hr => ?_, fun _ => rfl⟩
      have hused := hcause.resolve_right (fun hn => hn hr)
      have hused' := hcause'.resolve_right (fun hn => hn (hready.mp hr))
      exact ⟨fun _ => hused', fun _ => hused⟩

end

/-! ### Two deployments -/

/-- Another team whose task has used the event id `e1`. -/
def sampleForeign : List Call := [
  ⟨sampleEnv "other" 7, .createTeam ⟨"Other", "repo@sha256:0"⟩ ⟨"admin", "request"⟩⟩,
  ⟨sampleEnv "other-source" 8, .createSourceSystem ⟨"other", "other-listener", none⟩⟩,
  ⟨sampleEnv "other-type" 9, .createTaskType ⟨"other", "go", none⟩⟩,
  ⟨sampleEnv "other-task" 10,
    .ingestTask ⟨"other", "other-source", "1", "other-type", .text (.obj []), none, none⟩
      ⟨"other", "other-source", "other-listener", "request"⟩⟩,
  ⟨sampleEnv "other-claim" 11, .claimTask ⟨"other-task", "other-command"⟩ "exec" sampleIdentity⟩,
  ⟨sampleEnv "other-audit" 12,
    .appendTaskEvent ⟨"e1", "other", "other-task", "exec", "running", "1970-01-01T00:00:12Z",
      .text (.obj [])⟩ sampleIdentity⟩]

/-- The request about the sample team's task. -/
def sampleRunning : TaskEventAppendRequest :=
  sampleEvent "e1" "task" "running" "1970-01-01T00:00:20Z"

/-- The store with the sample team alone, and with the other team beside it. -/
def sampleAlone : Db := serve sampleConfig .empty sampleClaimed

def sampleNeighbour : Db := serve sampleConfig sampleAlone sampleForeign

instance (db : Db) (req : TaskEventAppendRequest) : Decidable (UsedElsewhere db req) :=
  inferInstanceAs (Decidable (∃ r ∈ db.taskEvents.rows, _))

theorem sampleBeside_looksAlike (eventID : String) :
    LookAlike (sampleEnv "new" 20) (sampleEvent eventID "task" "running" "1970-01-01T00:00:20Z")
      sampleIdentity sampleAlone sampleNeighbour where
  executor := by decide +kernel
  task := by
    show sampleAlone.tasks.lookup "task" = sampleNeighbour.tasks.lookup "task"
    decide +kernel
  events := by
    have hfilter : sampleAlone.taskEvents.rows.filter (fun r => r.taskID = "task") =
        sampleNeighbour.taskEvents.rows.filter (fun r => r.taskID = "task") := by decide +kernel
    intro r hr
    have hmem : ∀ db : Db, r ∈ db.taskEvents.rows ↔
        r ∈ db.taskEvents.rows.filter (fun r => r.taskID = "task") := by
      intro db
      rw [List.mem_filter]
      exact ⟨fun h => ⟨h, decide_eq_true hr⟩, fun h => h.1⟩
    rw [hmem sampleAlone, hmem sampleNeighbour, hfilter]
  team := by
    have hteam : ∀ t ∈ (sampleAlone.tasks.lookup "task"),
        sampleAlone.teams.lookup t.teamID = sampleNeighbour.teams.lookup t.teamID := by decide +kernel
    exact hteam
  audit := by decide +kernel

/-- An id nobody uses: the other team changes nothing. -/
theorem append_outcome_agrees_iff_sample :
    appendOutcome sampleConfig (sampleEnv "new" 20)
        (sampleEvent "e2" "task" "running" "1970-01-01T00:00:20Z") sampleIdentity sampleAlone =
      appendOutcome sampleConfig (sampleEnv "new" 20)
        (sampleEvent "e2" "task" "running" "1970-01-01T00:00:20Z") sampleIdentity sampleNeighbour := by
  have hunused : ¬ UsedElsewhere sampleAlone
      (sampleEvent "e2" "task" "running" "1970-01-01T00:00:20Z") := by decide +kernel
  have hunused' : ¬ UsedElsewhere sampleNeighbour
      (sampleEvent "e2" "task" "running" "1970-01-01T00:00:20Z") := by decide +kernel
  apply (append_outcome_agrees_iff (sampleBeside_looksAlike "e2")).mpr
  intro _
  exact ⟨fun h => absurd h hunused, fun h => absurd h hunused'⟩

/-- The other team used `e1`, and the caller is told so by an internal error. -/
theorem foreign_event_id_is_observable :
    LookAlike (sampleEnv "new" 20) sampleRunning sampleIdentity sampleAlone sampleNeighbour ∧
      (∃ event, appendOutcome sampleConfig (sampleEnv "new" 20) sampleRunning sampleIdentity
        sampleAlone = .ok event) ∧
      appendOutcome sampleConfig (sampleEnv "new" 20) sampleRunning sampleIdentity sampleNeighbour =
        .error (500, "internal_error") := by
  have hok : (appendOutcome sampleConfig (sampleEnv "new" 20) sampleRunning sampleIdentity
      sampleAlone).isOk = true := by decide +kernel
  have herror : (appendTaskEvent sampleConfig (sampleEnv "new" 20) sampleRunning
      sampleIdentity).errorOf sampleNeighbour = some (wrap "append task event" .primaryKey) := by
    decide +kernel
  refine ⟨sampleBeside_looksAlike "e1", ?_, ?_⟩
  · exact Check.ok_of_isOk hok
  · rw [appendOutcome, Tx.errorOf_eq_some.mp herror]
    exact congrArg Except.error (internal_of_append .primaryKey)

end FlowAI.Registry
