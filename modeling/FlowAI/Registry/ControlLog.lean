import FlowAI.Framework.Projection
import FlowAI.Registry.Operations

/-! # The Log of a Task Control

  A control request starts with the `pending` event of its operator; the assigned
  executor adds `acknowledged` and then one of `completed` and `failed`.  The
  status of the request is what this log replays to, in every reachable state,
  and the two operations on it touch neither tasks nor their lifecycle events.
-/

namespace FlowAI.Registry

variable {es : List ControlStatus} {cfg : Config} {call : Call} {db db' : Db}

/-! ## Section 1: The abstract log -/

/-- One transition of a control; `none` is the control before its request. -/
def nextControl : Option ControlStatus → ControlStatus → Option (Option ControlStatus)
  | none, .pending => some (some .pending)
  | some .pending, .acknowledged => some (some .acknowledged)
  | some .acknowledged, .completed => some (some .completed)
  | some .acknowledged, .failed => some (some .failed)
  | _, _ => none

/-- How far a status takes a control. -/
def ControlStatus.rank : ControlStatus → Nat
  | .pending => 0
  | .acknowledged => 1
  | .completed => 2
  | .failed => 2

/-- The logs of a control, with the status each of them leads to. -/
inductive ControlLogShape : List ControlStatus → Option ControlStatus → Prop where
  | absent : ControlLogShape [] none
  | pending : ControlLogShape [.pending] (some .pending)
  | acknowledged : ControlLogShape [.pending, .acknowledged] (some .acknowledged)
  | completed : ControlLogShape [.pending, .acknowledged, .completed] (some .completed)
  | failed : ControlLogShape [.pending, .acknowledged, .failed] (some .failed)

theorem controlLogShape_of_replay {s : Option ControlStatus}
    (h : replay nextControl none es = some s) : ControlLogShape es s := by
  refine replay_induct (P := ControlLogShape) .absent ?_ h
  intro es s' e s'' hes hnext
  cases hes <;> cases e <;> simp only [nextControl, reduceCtorEq, Option.some.injEq] at hnext <;>
    subst hnext <;> constructor

variable {s current next : ControlStatus} {controls : Table controlSchema}

theorem ControlLogShape.requested_once (h : ControlLogShape es (some s)) :
    es.countP (fun e => e = .pending) = 1 := by
  cases h <;> decide

/-- What follows the opening event. -/
theorem ControlLogShape.reports (h : ControlLogShape es (some s)) :
    es.filter (fun e => e ≠ .pending) <+: [.acknowledged, .completed] ∨
      es.filter (fun e => e ≠ .pending) <+: [.acknowledged, .failed] := by
  cases h with
  | pending | acknowledged | completed => exact .inl (by decide)
  | failed => exact .inr (by decide)

theorem ControlLogShape.most_advanced (h : ControlLogShape es (some s)) :
    s ∈ es ∧ ∀ e ∈ es, e.rank ≤ s.rank := by
  cases h <;> decide

/-- The check of a report is the transition of the machine. -/
theorem nextControl_of_valid (h : validControlTransition current next = true) :
    nextControl (some current) next = some (some next) := by
  cases current <;> cases next <;> first | rfl | cases h

theorem ne_pending_of_valid (h : validControlTransition current next = true) : next ≠ .pending := by
  intro heq
  subst heq
  cases current <;> cases h

/-! ## Section 2: What a step does to controls -/

/-- The log of a control, in order of acceptance. -/
def controlLog (db : Db) (controlID : String) : List ControlEventRow :=
  eventsOf ControlEventRow.controlID db.controlEvents controlID

/-- The controls and control events a call leaves. -/
inductive ControlStep (call : Call) (db : Db) :
    Table controlSchema → Table controlEventSchema → Prop where
  | keep : ControlStep call db db.controls db.controlEvents
  | create {identity taskID req controls controlEvents}
      (inserted : db.controls.insert (controlRow call.env identity taskID req) = .ok controls)
      (opened : db.controlEvents.insert
        (requestedEventRow call.env (controlRow call.env identity taskID req)) =
          .ok controlEvents) :
      ControlStep call db controls controlEvents
  | report {controlID req identity control controls controlEvents}
      (found : db.controls.lookup controlID = some control)
      (transition : validControlTransition control.status req.status = true)
      (updated : db.controls.update control.controlID (ControlRow.project req.status)
        (fun _ => rfl) = .ok controls)
      (inserted : db.controlEvents.insert (controlEventRow control req identity) =
        .ok controlEvents) :
      ControlStep call db controls controlEvents

theorem Effect.controlStep (h : Effect cfg call db db') :
    ControlStep call db db'.controls db'.controlEvents := by
  cases h with
  | createTaskControl _ _ hins hopen => exact .create hins hopen
  | appendTaskControlEvent _ hfound _ hfresh =>
    obtain ⟨_, _, _, hevents, hcontrols, -, rfl⟩ := hfresh.effect
    exact .report hfound hfresh.transition hcontrols hevents
  | claimTask _ _ hfresh =>
    obtain ⟨_, _, _, _, _, _, _, -, -, -, -, -, rfl⟩ := hfresh.effect
    exact .keep
  | appendTaskEvent _ _ _ _ hfresh =>
    obtain ⟨_, _, _, -, -, -, rfl⟩ := hfresh.effect
    exact .keep
  | _ => exact .keep

/-- Every control is what its log replays to; exactly the opening events are without
    an executor. -/
structure ControlInvariant (controls : Table controlSchema) (events : Table controlEventSchema) :
    Prop where
  projects : Projects nextControl none ControlEventRow.controlID ControlEventRow.status
    (fun c : ControlRow => some c.status) controls events
  origin : ∀ e ∈ events.rows, e.executorID = none ↔ e.status = .pending

/-- Step lemma. -/
theorem ControlStep.invariant {events : Table controlEventSchema}
    (hstep : ControlStep call db controls events)
    (h : ControlInvariant db.controls db.controlEvents) : ControlInvariant controls events := by
  cases hstep with
  | keep => exact h
  | create hins hopen =>
    exact ⟨h.projects.insertWith hins hopen rfl rfl,
      Table.forall_insert h.origin hopen ⟨fun _ => rfl, fun _ => rfl⟩⟩
  | @report controlID req identity control _ _ hfound htr hupd hins =>
    have hkey : control.controlID = controlID := Table.key_of_lookup hfound
    rw [← hkey] at hfound
    refine ⟨h.projects.extend hfound hupd hins (nextControl_of_valid htr), ?_⟩
    refine Table.forall_insert h.origin hins ⟨fun hnone => ?_, fun hpending => ?_⟩
    · cases hnone
    · exact absurd hpending (ne_pending_of_valid htr)

/-- Run lemma. -/
theorem reachable_controlInvariant (h : (registry cfg).Reachable db) :
    ControlInvariant db.controls db.controlEvents := by
  refine h.invariant (P := fun db => ControlInvariant db.controls db.controlEvents) ?_ ?_
  · intro db hinit
    cases hinit
    refine ⟨.empty, ?_⟩
    intro e he
    cases he
  · intro db call db' _ ih hstep
    exact (step_effect hstep).controlStep.invariant ih

/-! ## Section 3: Log and projection agree -/

/-- One control and its log. -/
structure ControlAgrees (db : Db) (c : ControlRow) : Prop where
  requested_once : (controlLog db c.controlID).countP (fun e => e.status = .pending) = 1
  requested_by_operator : ∀ e ∈ controlLog db c.controlID,
    e.executorID = none ↔ e.status = .pending
  reports : ((controlLog db c.controlID).filter (fun e => e.executorID.isSome)).map
      ControlEventRow.status <+: [.acknowledged, .completed] ∨
    ((controlLog db c.controlID).filter (fun e => e.executorID.isSome)).map
      ControlEventRow.status <+: [.acknowledged, .failed]
  most_advanced : ∃ e ∈ controlLog db c.controlID, e.status = c.status ∧
    ∀ e' ∈ controlLog db c.controlID, e'.status.rank ≤ e.status.rank

/-- What the shape of a log says about its rows, read off the list of statuses. -/
theorem controlAgrees_of_shape {c : ControlRow}
    (hshape : ControlLogShape ((controlLog db c.controlID).map ControlEventRow.status)
      (some c.status))
    (horigin : ∀ e ∈ controlLog db c.controlID, e.executorID = none ↔ e.status = .pending) :
    ControlAgrees db c := by
  have hreports : ((controlLog db c.controlID).filter (fun e => e.executorID.isSome)).map
      ControlEventRow.status =
        ((controlLog db c.controlID).map ControlEventRow.status).filter (fun s => s ≠ .pending) := by
    rw [List.filter_map]
    congr 1
    refine List.filter_congr ?_
    intro e he
    have ho := horigin e he
    cases hexec : e.executorID with
    | none => simp [ho.mp hexec]
    | some id =>
      have hne : e.status ≠ .pending := by
        intro hpending
        rw [ho.mpr hpending] at hexec
        cases hexec
      simp [hne]
  refine ⟨?_, horigin, ?_, ?_⟩
  · have hcount := hshape.requested_once
    rw [List.countP_map] at hcount
    exact hcount
  · rw [hreports]
    exact hshape.reports
  · obtain ⟨hmem, hrank⟩ := hshape.most_advanced
    obtain ⟨e, he, hcurrent⟩ := List.mem_map.mp hmem
    refine ⟨e, he, hcurrent, ?_⟩
    intro e' he'
    rw [hcurrent]
    exact hrank _ (List.mem_map_of_mem he')

/-! ## Section 4: The calls -/

/-- The two operations on controls. -/
def Op.isControl : Op → Bool
  | .createTaskControl _ _ _ => true
  | .appendTaskControlEvent _ _ _ _ => true
  | _ => false

/-- The call repeats one that is already stored: its request by the idempotency
    tuple, its report by the event id. -/
def Op.repeatsControl (db : Db) : Op → Bool
  | .createTaskControl identity taskID req => (findTaskControl db identity taskID req).isSome
  | .appendTaskControlEvent taskID controlID req _ =>
    (db.controls.lookup controlID).any (fun c =>
      (readTaskControlEvent db c.teamID taskID controlID req.controlEventID).isSome)
  | _ => false

/-- What an accepted call on controls leaves: a repeated one nothing, any other one
    event and one audit row. -/
structure ControlAccepted (op : Op) (db db' : Db) : Prop where
  tasks : db'.tasks = db.tasks
  taskEvents : db'.taskEvents = db.taskEvents
  repeated : op.repeatsControl db = true → db' = db
  added : op.repeatsControl db = false →
    (∃ event, db'.controlEvents.rows = db.controlEvents.rows ++ [event]) ∧
      ∃ audit, db'.auditEntries.rows = db.auditEntries.rows ++ [audit]

theorem ControlAccepted.of_repeated {op : Op} (h : op.repeatsControl db = true) :
    ControlAccepted op db db := by
  refine ⟨rfl, rfl, fun _ => rfl, ?_⟩
  intro hfresh
  rw [h] at hfresh
  cases hfresh

theorem createTaskControl_accepted {env : CallEnv} {identity : GatewayIdentity} {taskID : String}
    {req : CreateTaskControlRequest} {control : ControlRow}
    (h : createTaskControl env identity taskID req db = .ok (control, db')) :
    ControlAccepted (.createTaskControl identity taskID req) db db' := by
  rcases createTaskControl_ok h with
    ⟨hfound, rfl⟩ | ⟨hnone, -, audits, controls, events, haudit, -, hevent, rfl⟩
  · refine .of_repeated ?_
    simp [Op.repeatsControl, hfound]
  · refine ⟨rfl, rfl, ?_, ?_⟩
    · intro hrepeated
      simp [Op.repeatsControl, hnone] at hrepeated
    · intro _
      exact ⟨⟨_, Table.rows_insert hevent⟩, ⟨_, Table.rows_insert haudit⟩⟩

theorem appendTaskControlEvent_accepted {env : CallEnv} {taskID controlID : String}
    {req : TaskControlEventAppendRequest} {identity : ExecutorIdentity} {event : TaskControlEvent}
    (h : appendTaskControlEvent cfg env taskID controlID req identity db = .ok (event, db')) :
    ControlAccepted (.appendTaskControlEvent taskID controlID req identity) db db' := by
  obtain ⟨control, task, ⟨hcontrol, -, -, -, -, -⟩, hcases⟩ := appendTaskControlEvent_ok h
  rcases hcases with ⟨existing, hread, -, -, rfl⟩ | ⟨hnone, hfresh⟩
  · refine .of_repeated ?_
    simp [Op.repeatsControl, hcontrol, hread]
  · obtain ⟨events, controls, audits, hevent, -, haudit, rfl⟩ := hfresh.effect
    refine ⟨rfl, rfl, ?_, ?_⟩
    · intro hrepeated
      simp [Op.repeatsControl, hcontrol, hnone] at hrepeated
    · intro _
      exact ⟨⟨_, Table.rows_insert hevent⟩, ⟨_, Table.rows_insert haudit⟩⟩

/-- What a call on controls leaves: tasks and their lifecycle events as they were, and
    nothing at all when it is refused. -/
structure ControlCall (cfg : Config) (call : Call) (db db' : Db) : Prop where
  tasks : db'.tasks = db.tasks
  taskEvents : db'.taskEvents = db.taskEvents
  refused : (exec cfg call).errorOf db ≠ none → db' = db
  accepted : (exec cfg call).errorOf db = none → ControlAccepted call.op db db'

theorem ControlCall.of_accepted (hok : exec cfg call db = .ok ((), db'))
    (h : ControlAccepted call.op db db') :
    ControlCall cfg call db db' := by
  have hnone : (exec cfg call).errorOf db = none := by
    rw [Tx.errorOf_eq_none, Tx.commit_of_ok hok]
    exact ⟨(), hok⟩
  exact ⟨h.tasks, h.taskEvents, fun herr => absurd hnone herr, fun _ => h⟩

theorem controlCall_of_step (hstep : (registry cfg).step db call db')
    (hop : call.op.isControl = true) :
    ControlCall cfg call db db' := by
  have hcommit : db' = (exec cfg call).commit db := hstep.symm
  cases hexec : exec cfg call db with
  | error e =>
    rw [Tx.commit_of_error hexec] at hcommit
    subst hcommit
    refine ⟨rfl, rfl, fun _ => rfl, ?_⟩
    intro hnone
    rw [Tx.errorOf_eq_some.mpr hexec] at hnone
    cases hnone
  | ok result =>
    obtain ⟨_, db₁⟩ := result
    rw [Tx.commit_of_ok hexec] at hcommit
    subst hcommit
    refine .of_accepted hexec ?_
    obtain ⟨env, op⟩ := call
    -- the two operations; every other one is excluded by `hop`
    cases op with
    | createTaskControl identity taskID req =>
      obtain ⟨control, h⟩ := Tx.void_eq_ok.mp hexec
      exact createTaskControl_accepted h
    | appendTaskControlEvent taskID controlID req identity =>
      obtain ⟨event, h⟩ := Tx.void_eq_ok.mp hexec
      exact appendTaskControlEvent_accepted h
    | _ => cases hop

/-! ## Section 5: The control log of a run -/

/-- The columns that make a request idempotent. -/
def ControlRow.idempotencyTuple (c : ControlRow) :
    String × String × String × ControlAction × String :=
  (c.teamID, c.taskID, c.operatorID, c.action, c.idempotencyKey)

/-- The unique index of the control table. -/
theorem control_eq_of_idempotencyTuple {c c' : ControlRow}
    (hc : c ∈ controls.rows) (hc' : c' ∈ controls.rows)
    (h : c.idempotencyTuple = c'.idempotencyTuple) : c = c' := by
  refine Table.eq_of_tuple_eq (List.mem_singleton_self _) hc hc' rfl ?_
  simp only [ControlRow.idempotencyTuple, Prod.mk.injEq] at h
  obtain ⟨hteam, htask, hoperator, haction, hkey⟩ := h
  simp only [hteam, htask, hoperator, haction, hkey]

/-- In every reachable state each control agrees with its log and no two controls have
    the same idempotency tuple; and from there a call on controls adds one event and
    one audit row, or nothing, and never touches a task. -/
theorem control_log_agrees (cfg : Config) (db : Db) (hreach : (registry cfg).Reachable db) :
    (∀ c ∈ db.controls.rows, ControlAgrees db c) ∧
    (∀ c ∈ db.controls.rows, ∀ c' ∈ db.controls.rows,
      c.idempotencyTuple = c'.idempotencyTuple → c = c') ∧
    ∀ call db', call.op.isControl = true → (registry cfg).step db call db' →
      ControlCall cfg call db db' := by
  have hinv := reachable_controlInvariant hreach
  refine ⟨?_, ?_, ?_⟩
  · intro c hc
    refine controlAgrees_of_shape (controlLogShape_of_replay
      (hinv.projects.replayed _ _ (Table.lookup_key hc))) ?_
    intro e he
    exact hinv.origin e (mem_eventsOf.mp he).1
  · intro c hc c' hc' heq
    exact control_eq_of_idempotencyTuple hc hc' heq
  · intro call db' hop hstep
    exact controlCall_of_step hstep hop

/-- A claimed task, and a request to cancel it that the executor carries out. -/
def sampleControl : List Call :=
  sampleSetup ++ [sampleIngest "task" "1" 5, sampleClaim "task" 6,
    ⟨sampleEnv "control" 7,
      .createTaskControl ⟨"team", "operator", "request"⟩ "task" ⟨.cancel, "key", none⟩⟩,
    ⟨sampleEnv "audit1" 8, .appendTaskControlEvent "task" "control"
      ⟨"report1", .acknowledged, 8000000000, "\x7b\x7d"⟩ sampleIdentity⟩]

/-- The report that closes the sample request. -/
def sampleReport : Call :=
  ⟨sampleEnv "audit2" 9, .appendTaskControlEvent "task" "control"
    ⟨"report2", .completed, 9000000000, "\x7b\x7d"⟩ sampleIdentity⟩

theorem control_log_agrees_sample :
    (∃ c ∈ (serve sampleConfig .empty sampleControl).controls.rows, c.status = .acknowledged ∧
      ControlAgrees (serve sampleConfig .empty sampleControl) c) ∧
    (exec sampleConfig sampleReport).errorOf (serve sampleConfig .empty sampleControl) = none ∧
    ControlCall sampleConfig sampleReport (serve sampleConfig .empty sampleControl)
      ((exec sampleConfig sampleReport).commit (serve sampleConfig .empty sampleControl)) := by
  obtain ⟨hagrees, -, hcalls⟩ :=
    control_log_agrees sampleConfig (serve sampleConfig .empty sampleControl) (reachable_serve _ _)
  have hexists : ∃ c ∈ (serve sampleConfig .empty sampleControl).controls.rows,
      c.status = .acknowledged := by
    decide +kernel
  obtain ⟨c, hc, hstatus⟩ := hexists
  exact ⟨⟨c, hc, hstatus, hagrees c hc⟩, by decide +kernel, hcalls sampleReport _ rfl rfl⟩

end FlowAI.Registry
