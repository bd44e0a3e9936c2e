import FlowAI.Framework.Projection
import FlowAI.Registry.Evolution

/-! # The Task Lifecycle

  The lifecycle log of a task and its `current_state` agree in every reachable
  state.  The abstract lifecycle is a machine over event types: `created` from
  `pending`, `running` from `created`, one of `finished` and `failed` from
  `running`.  The registry keeps, for every task, the log of its events in order
  of acceptance, and `current_state` is what the machine replays from it.
-/

namespace FlowAI.Registry

variable {cfg : Config} {db : Db} {events : Table taskEventSchema}

/-! ## Section 1: The abstract lifecycle -/

/-- One transition of the lifecycle. -/
def TaskState.next : TaskState → TaskEventType → Option TaskState
  | .pending, .created => some .created
  | .created, .running => some .running
  | .running, .finished => some .finished
  | .running, .failed => some .failed
  | _, _ => none

/-- How far a lifecycle event takes a task. -/
def TaskEventType.rank : TaskEventType → Nat
  | .created => 1
  | .running => 2
  | .finished => 3
  | .failed => 3

def TaskEventType.terminal : TaskEventType → Bool
  | .finished => true
  | .failed => true
  | _ => false

/-- The logs of the lifecycle, with the state each of them leads to. -/
inductive LifecycleLog : List TaskEventType → TaskState → Prop where
  | pending : LifecycleLog [] .pending
  | created : LifecycleLog [.created] .created
  | running : LifecycleLog [.created, .running] .running
  | finished : LifecycleLog [.created, .running, .finished] .finished
  | failed : LifecycleLog [.created, .running, .failed] .failed

theorem lifecycleLog_of_replay {es : List TaskEventType} {s : TaskState}
    (h : replay TaskState.next .pending es = some s) : LifecycleLog es s := by
  refine replay_induct (P := LifecycleLog) .pending ?_ h
  intro es s' e s'' hes hnext
  cases hes <;> cases e <;> simp only [TaskState.next, reduceCtorEq, Option.some.injEq] at hnext <;>
    subst hnext <;> constructor

/-- The check of an append is the transition of the machine. -/
theorem next_of_validTaskTransition {s : TaskState} {e : TaskEventType} (he : e ≠ .created)
    (h : validTaskTransition s e = true) : s.next e = some e.state := by
  cases e <;> simp only [validTaskTransition, decide_eq_true_eq] at h
  · exact absurd rfl he
  all_goals subst h; rfl

theorem parseTaskEvent_ne_created {req : TaskEventAppendRequest} {parsed : ParsedEvent}
    (h : parseTaskEvent req = .ok parsed) : parsed.eventType ≠ .created := by
  obtain ⟨hallowed, -, -⟩ := parseTaskEvent_ok h
  intro heq
  rw [heq] at hallowed
  unfold allowedTaskEventType at hallowed
  split at hallowed <;> simp at hallowed

/-! ## Section 2: What a step does to tasks and their logs -/

/-- The log of a task, in order of acceptance. -/
def taskLog (db : Db) (taskID : String) : List TaskEventRow :=
  eventsOf TaskEventRow.taskID db.taskEvents taskID

/-- The tasks and events a call leaves. -/
inductive TaskStep (cfg : Config) (call : Call) (db : Db) :
    Table taskSchema → Table taskEventSchema → Prop where
  | keep : TaskStep cfg call db db.tasks db.taskEvents
  | ingest {req ident row tasks} (op : call.op = .ingestTask req ident)
      (drawn : row.taskID = call.env.uuid 0) (pending : row.currentState = .pending)
      (inserted : db.tasks.insert row = .ok tasks) : TaskStep cfg call db tasks db.taskEvents
  | claim {req executorID identity executor} {task : TaskRow} {image source tasks taskEvents}
      (op : call.op = .claimTask req executorID identity)
      (may : MayClaim db req executorID identity executor task)
      (pending : task.currentState = .pending)
      (updated : db.tasks.update req.taskID
        (TaskRow.assign call.env req executorID image source) (fun _ => rfl) = .ok tasks)
      (inserted : db.taskEvents.insert
        (createdEventRow call.env req executorID task.teamID) = .ok taskEvents) :
      TaskStep cfg call db tasks taskEvents
  | append {req identity parsed task tasks taskEvents}
      (op : call.op = .appendTaskEvent req identity)
      (parse : parseTaskEvent req = .ok parsed)
      (may : MayAppend db req identity task)
      (transition : validTaskTransition task.currentState parsed.eventType = true)
      (ordered : ∀ latest ∈ latestTaskEvent db req.taskID,
        strictlyAfter latest parsed.occurredAt req.eventID = true)
      (updated : db.tasks.update req.taskID (TaskRow.project parsed.eventType) (fun _ => rfl) =
        .ok tasks)
      (inserted : db.taskEvents.insert (taskEventRow req identity task parsed) =
        .ok taskEvents) :
      TaskStep cfg call db tasks taskEvents

theorem Effect.taskStep {call : Call} {db' : Db} (h : Effect cfg call db db') :
    TaskStep cfg call db db'.tasks db'.taskEvents := by
  cases h with
  | ingestTask hop _ _ _ hins => exact .ingest hop rfl rfl hins
  | claimTask hop hmay hfresh =>
    obtain ⟨_, _, _, _, _, _, _, -, -, -, htasks, hevents, rfl⟩ := hfresh.effect
    exact .claim hop hmay hfresh.pending htasks hevents
  | appendTaskEvent hop hparse hmay _ hfresh =>
    obtain ⟨_, _, _, hevents, htasks, -, rfl⟩ := hfresh.effect
    exact .append hop hparse hmay hfresh.transition hfresh.ordered htasks hevents
  | appendTaskControlEvent _ _ _ hfresh =>
    obtain ⟨_, _, _, -, -, -, rfl⟩ := hfresh.effect
    exact .keep
  | _ => exact .keep

/-! ## Section 3: The invariant -/

/-- Every task is what its log replays to, and every event carries the team of its
    task and the executor that claimed it. -/
structure LogInvariant (tasks : Table taskSchema) (events : Table taskEventSchema) : Prop where
  projects : Projects TaskState.next .pending TaskEventRow.taskID TaskEventRow.eventType
    TaskRow.currentState tasks events
  owned : ∀ r ∈ events.rows, ∃ t, tasks.lookup r.taskID = some t ∧ r.teamID = t.teamID ∧
    t.executorID = some r.executorID

variable {tasks tasks' : Table taskSchema} {t : TaskRow}

theorem LogInvariant.no_events (h : LogInvariant tasks events)
    {id : String} (ht : tasks.lookup id = some t)
    (hpending : t.currentState = .pending) : eventsOf TaskEventRow.taskID events id = [] := by
  have hreplay := h.projects.replayed id t ht
  rw [hpending] at hreplay
  generalize htypes : (eventsOf TaskEventRow.taskID events id).map TaskEventRow.eventType =
    types at hreplay
  cases lifecycleLog_of_replay hreplay
  exact List.map_eq_nil_iff.mp htypes

theorem LogInvariant.insert {row : TaskRow}
    (h : LogInvariant tasks events) (hpending : row.currentState = .pending)
    (hins : tasks.insert row = .ok tasks') : LogInvariant tasks' events := by
  refine ⟨h.projects.insert hins hpending, ?_⟩
  intro r hr
  obtain ⟨t, ht, hteam, hexec⟩ := h.owned r hr
  exact ⟨t, Table.lookup_insert_of_some hins ht, hteam, hexec⟩

theorem LogInvariant.extend {events' : Table taskEventSchema}
    {row : TaskEventRow} {task : TaskRow} {f : TaskRow → TaskRow}
    {hf : ∀ t, (f t).taskID = t.taskID} (h : LogInvariant tasks events)
    (hfound : tasks.lookup row.taskID = some task)
    (hupd : tasks.update row.taskID f hf = .ok tasks') (hins : events.insert row = .ok events')
    (hnext : task.currentState.next row.eventType = some (f task).currentState)
    (hteam : (f task).teamID = task.teamID) (hrow : row.teamID = task.teamID)
    (hexec : (f task).executorID = some row.executorID)
    (hkept : ∀ r ∈ events.rows, r.taskID = row.taskID → r.executorID = row.executorID) :
    LogInvariant tasks' events' := by
  refine ⟨h.projects.extend hfound hupd hins hnext, ?_⟩
  have hlook : tasks'.lookup row.taskID = some (f task) := by
    rw [Table.lookup_update hupd, if_pos rfl, hfound]
    rfl
  intro r hr
  rw [Table.rows_insert hins] at hr
  rcases List.mem_append.mp hr with hr | hr
  · obtain ⟨t, ht, hrt, hre⟩ := h.owned r hr
    by_cases hid : r.taskID = row.taskID
    · rw [hid, hfound] at ht
      cases Option.some.inj ht
      exact ⟨f task, hid ▸ hlook, hrt.trans hteam.symm, by rw [hexec, hkept r hr hid]⟩
    · exact ⟨t, by rw [Table.lookup_update hupd, if_neg hid, ht], hrt, hre⟩
  · rw [List.mem_singleton.mp hr]
    exact ⟨f task, hlook, hrow.trans hteam.symm, hexec⟩

/-- Step lemma: each transition of the registry is one of the lifecycle. -/
theorem TaskStep.logInvariant {call : Call}
    (hstep : TaskStep cfg call db tasks events) (h : LogInvariant db.tasks db.taskEvents) :
    LogInvariant tasks events := by
  cases hstep with
  | keep => exact h
  | ingest _ _ hpending hins => exact h.insert hpending hins
  | @claim req executorID _ _ task image source _ _ _ hmay hpending hupd hins =>
    -- A pending task has no events, so no older event names another executor.
    have hnone := h.no_events hmay.found hpending
    refine h.extend hmay.found hupd hins ?_ rfl rfl rfl ?_
    · rw [hpending]
      rfl
    · intro r hr hid
      have hmem : r ∈ eventsOf TaskEventRow.taskID db.taskEvents req.taskID :=
        mem_eventsOf.mpr ⟨hr, hid⟩
      rw [hnone] at hmem
      cases hmem
  | @append req identity parsed task _ _ _ hparse hmay htr _ hupd hins =>
    refine h.extend hmay.found hupd hins ?_ rfl rfl hmay.assigned ?_
    · exact next_of_validTaskTransition (parseTaskEvent_ne_created hparse) htr
    · intro r hr hid
      obtain ⟨t, ht, -, hexec⟩ := h.owned r hr
      have hfound : db.tasks.lookup r.taskID = some task := by
        rw [hid]
        exact hmay.found
      rw [hfound] at ht
      cases Option.some.inj ht
      exact Option.some.inj (hexec.symm.trans hmay.assigned)

/-- Run lemma: the invariant holds in every reachable state. -/
theorem reachable_logInvariant (h : (registry cfg).Reachable db) :
    LogInvariant db.tasks db.taskEvents := by
  refine h.invariant (P := fun db => LogInvariant db.tasks db.taskEvents) ?_ ?_
  · intro db hinit
    cases hinit
    refine ⟨.empty, ?_⟩
    intro r hr
    cases hr
  · intro db call db' _ ih hstep
    exact (step_effect hstep).taskStep.logInvariant ih

/-! ## Section 4: Log and projection agree -/

/-- A task that nobody claimed: no claim column is set and no event exists. -/
structure Unclaimed (db : Db) (t : TaskRow) : Prop where
  state : t.currentState = .pending
  executorID : t.executorID = none
  ownerCommandID : t.ownerCommandID = none
  claimedAt : t.claimedAt = none
  resolvedImage : t.resolvedImage = none
  events : taskLog db t.taskID = []

/-- A claimed task: the shape of its log, its projection, and who wrote the log. -/
structure Logged (db : Db) (t : TaskRow) : Prop where
  state : t.currentState ≠ .pending
  created_once : (taskLog db t.taskID).countP (fun r => r.eventType = .created) = 1
  running_at_most_once : (taskLog db t.taskID).countP (fun r => r.eventType = .running) ≤ 1
  terminal_at_most_once : (taskLog db t.taskID).countP (fun r => r.eventType.terminal) ≤ 1
  terminal_after_running : ∀ r ∈ taskLog db t.taskID, r.eventType.terminal = true →
    ∃ r' ∈ taskLog db t.taskID, r'.eventType = .running
  most_advanced : ∃ r ∈ taskLog db t.taskID, t.currentState = r.eventType.state ∧
    ∀ r' ∈ taskLog db t.taskID, r'.eventType.rank ≤ r.eventType.rank
  owned : ∀ r ∈ taskLog db t.taskID, r.teamID = t.teamID ∧ t.executorID = some r.executorID

/-- The `CHECK` of the table: a pending task has no claim column. -/
theorem claimColumns_of_pending (ht : t ∈ tasks.rows) (hpending : t.currentState = .pending) :
    t.ownerCommandID = none ∧ t.executorID = none ∧ t.resolvedImage = none ∧
      t.imageSource = none ∧ t.claimedAt = none := by
  have hcheck := tasks.checked t ht
  simp only [taskSchema, TaskRow.claimColumns, hpending, if_true, Bool.and_eq_true,
    Option.isNone_iff_eq_none] at hcheck
  obtain ⟨-, ⟨⟨⟨howner, hexec⟩, himage⟩, hsource⟩, hclaimed⟩ := hcheck
  exact ⟨howner, hexec, himage, hsource, hclaimed⟩

/-- What the shape of a log says about its rows, read off the list of types. -/
theorem logged_of_types
    (hlog : LifecycleLog ((taskLog db t.taskID).map TaskEventRow.eventType) t.currentState)
    (hstate : t.currentState ≠ .pending)
    (howned : ∀ r ∈ taskLog db t.taskID, r.teamID = t.teamID ∧ t.executorID = some r.executorID) :
    Logged db t := by
  generalize htypes : (taskLog db t.taskID).map TaskEventRow.eventType = types at hlog
  have hcount : ∀ p : TaskEventType → Bool,
      (taskLog db t.taskID).countP (fun r => p r.eventType) = types.countP p := by
    intro p
    rw [← htypes, List.countP_map]
    rfl
  have hmem : ∀ e, e ∈ types ↔ ∃ r ∈ taskLog db t.taskID, r.eventType = e := by
    intro e
    rw [← htypes, List.mem_map]
  have htype : ∀ r ∈ taskLog db t.taskID, r.eventType ∈ types := by
    intro r hr
    exact (hmem _).mpr ⟨r, hr, rfl⟩
  refine ⟨hstate, ?_, ?_, ?_, ?_, ?_, howned⟩
  · rw [hcount (fun e => e = .created)]
    generalize t.currentState = s at hlog hstate
    cases hlog <;> first | exact absurd rfl hstate | decide
  · rw [hcount (fun e => e = .running)]
    generalize t.currentState = s at hlog
    cases hlog <;> decide
  · rw [hcount TaskEventType.terminal]
    generalize t.currentState = s at hlog
    cases hlog <;> decide
  · intro r hr hterminal
    have hrunning : ∀ e ∈ types, e.terminal = true → TaskEventType.running ∈ types := by
      generalize t.currentState = s at hlog
      cases hlog <;> decide
    exact (hmem .running).mp (hrunning _ (htype r hr) hterminal)
  · have hlast : ∃ e ∈ types, t.currentState = e.state ∧ ∀ e' ∈ types, e'.rank ≤ e.rank := by
      generalize t.currentState = s at hlog hstate
      cases hlog with
      | pending => exact absurd rfl hstate
      | created => exact ⟨.created, by decide, rfl, by decide⟩
      | running => exact ⟨.running, by decide, rfl, by decide⟩
      | finished => exact ⟨.finished, by decide, rfl, by decide⟩
      | failed => exact ⟨.failed, by decide, rfl, by decide⟩
    obtain ⟨e, he, hcurrent, hrank⟩ := hlast
    obtain ⟨r, hr, rfl⟩ := (hmem e).mp he
    exact ⟨r, hr, hcurrent, fun r' hr' => hrank _ (htype r' hr')⟩

/-- In every reachable state every task is unclaimed or agrees with its log, and
    whatever calls follow, the claim columns of a claimed task stay as they are. -/
theorem lifecycle_log_agrees {cfg : Config} {db : Db} (hreach : (registry cfg).Reachable db)
    {t : TaskRow} (ht : t ∈ db.tasks.rows) :
    (Unclaimed db t ∨ Logged db t) ∧
      ∀ calls db', (registry cfg).Run db calls db' → t.currentState ≠ .pending →
        ∃ t', db'.tasks.lookup t.taskID = some t' ∧ t'.claim = t.claim := by
  have hinv := reachable_logInvariant hreach
  have hlook : db.tasks.lookup t.taskID = some t := Table.lookup_key ht
  constructor
  · by_cases hstate : t.currentState = .pending
    · obtain ⟨howner, hexec, himage, -, hclaimed⟩ := claimColumns_of_pending ht hstate
      exact .inl ⟨hstate, hexec, howner, hclaimed, himage, hinv.no_events hlook hstate⟩
    · refine .inr (logged_of_types (lifecycleLog_of_replay (hinv.projects.replayed _ t hlook))
        hstate ?_)
      intro r hr
      obtain ⟨hrow, hid⟩ := mem_eventsOf.mp hr
      obtain ⟨t', ht', hteam, hexec⟩ := hinv.owned r hrow
      rw [hid, hlook] at ht'
      cases Option.some.inj ht'
      exact ⟨hteam, hexec⟩
  · intro calls db' hrun hstate
    obtain ⟨t', ht', hfollows⟩ := (run_evolves hrun).tasks _ t hlook
    exact ⟨t', ht', (hfollows.claimed hstate).2⟩

/-- The sample task from its submission to its end. -/
def sampleLifecycle : List Call :=
  sampleSetup ++ [sampleIngest "task" "1" 5, sampleClaim "task" 6,
    sampleAppend 7 (sampleEvent "e1" "task" "running" "1970-01-01T00:00:07Z"),
    sampleAppend 8 (sampleEvent "e2" "task" "finished" "1970-01-01T00:00:08Z")]

theorem lifecycle_log_agrees_sample :
    ∃ t ∈ (serve sampleConfig .empty sampleLifecycle).tasks.rows, t.currentState = .finished ∧
      Logged (serve sampleConfig .empty sampleLifecycle) t := by
  have hexists : ∃ t ∈ (serve sampleConfig .empty sampleLifecycle).tasks.rows,
      t.currentState = .finished := by
    decide +kernel
  obtain ⟨t, ht, hstate⟩ := hexists
  refine ⟨t, ht, hstate, ?_⟩
  rcases (lifecycle_log_agrees (reachable_serve _ _) ht).1 with hun | hlog
  · rw [hun.state] at hstate
    cases hstate
  · exact hlog

end FlowAI.Registry
