import FlowAI.Registry.EventRetry
import FlowAI.Registry.Lifecycle

/-! # History Order

  `ListTaskEvents` sorts by the stored tuple (microseconds, event id).  An append
  is checked against the latest tuple with the nanoseconds of the request, so an
  event inside the microsecond of its predecessor passes whatever its id, and is
  then listed by its id.  The listing is the order of acceptance exactly when
  every accepted event that falls into the microsecond of the latest one has the
  greater id.
-/

namespace FlowAI.Registry

variable {cfg : Config} {call : Call} {db db' : Db}

/-! ## Section 1: Acceptance -/

/-- The task and event a call adds to a log: a claim of a pending task accepts its
    `created` event, an append accepts an event that was not there. -/
def accepts (cfg : Config) (db : Db) (call : Call) : Option (String × String) :=
  match call.op with
  | .claimTask req executorID identity =>
    if (claimTask cfg call.env req executorID identity).errorOf db = none ∧
        (db.tasks.lookup req.taskID).any (fun t => t.currentState = .pending) then
      some (req.taskID, "evt-" ++ req.taskID)
    else none
  | .appendTaskEvent req identity =>
    if (appendTaskEvent cfg call.env req identity).errorOf db = none ∧
        findTaskEvent db req.taskID req.eventID = none then
      some (req.taskID, req.eventID)
    else none
  | _ => none

/-- The events of a task in the order the calls of a run accepted them. -/
def acceptanceLog (cfg : Config) (taskID : String) (db : Db) : List Call → List String
  | [] => []
  | call :: calls =>
    ((accepts cfg db call).toList.filter (fun a => a.1 = taskID)).map Prod.snd ++
      acceptanceLog cfg taskID ((exec cfg call).commit db) calls

/-- Only claims and appends write events. -/
theorem TaskStep.events_of_other {tasks : Table taskSchema} {events : Table taskEventSchema}
    (h : TaskStep cfg call db tasks events)
    (hclaim : ∀ req executorID identity, call.op ≠ .claimTask req executorID identity)
    (happend : ∀ req identity, call.op ≠ .appendTaskEvent req identity) :
    events = db.taskEvents := by
  cases h with
  | keep | ingest => rfl
  | claim hop _ _ _ _ => exact absurd hop (hclaim _ _ _)
  | append hop _ _ _ _ _ _ => exact absurd hop (happend _ _)

theorem accepts_rows (hstep : (registry cfg).step db call db') :
    ∃ new, db'.taskEvents.rows = db.taskEvents.rows ++ new ∧
      new.map (fun r => (r.taskID, r.eventID)) = (accepts cfg db call).toList := by
  have hother : (∀ req executorID identity, call.op ≠ .claimTask req executorID identity) →
      (∀ req identity, call.op ≠ .appendTaskEvent req identity) → accepts cfg db call = none →
      ∃ new, db'.taskEvents.rows = db.taskEvents.rows ++ new ∧
        new.map (fun r => (r.taskID, r.eventID)) = (accepts cfg db call).toList := by
    intro hclaim happend hnone
    refine ⟨[], ?_, by rw [hnone]; rfl⟩
    rw [(step_effect hstep).taskStep.events_of_other hclaim happend, List.append_nil]
  have hcommit : (exec cfg call).commit db = db' := hstep
  cases hop : call.op with
  | claimTask req executorID identity =>
    have hexec : exec cfg call = Tx.void (claimTask cfg call.env req executorID identity) := by
      simp only [exec, hop]
    rw [hexec, Tx.commit_void] at hcommit
    cases herr : (claimTask cfg call.env req executorID identity).errorOf db with
    | some e =>
      have hdb := Tx.commit_of_error (Tx.errorOf_eq_some.mp herr)
      rw [hdb] at hcommit
      exact ⟨[], by rw [hcommit, List.append_nil], by simp [accepts, hop, herr]⟩
    | none =>
      obtain ⟨response, hok⟩ := Tx.errorOf_eq_none.mp herr
      rw [hcommit] at hok
      obtain ⟨executor, task, hmay, -, ⟨hstate, -, -, rfl⟩ | hfresh⟩ := claimTask_ok hok
      · exact ⟨[], by rw [List.append_nil], by simp [accepts, hop, hmay.found, hstate]⟩
      · obtain ⟨_, _, _, _, _, _, events, -, -, -, -, hevents, rfl⟩ := hfresh.effect
        refine ⟨[createdEventRow call.env req executorID task.teamID], Table.rows_insert hevents,
          ?_⟩
        simp [accepts, hop, herr, hmay.found, hfresh.pending, createdEventRow]
  | appendTaskEvent req identity =>
    have hexec : exec cfg call = Tx.void (appendTaskEvent cfg call.env req identity) := by
      simp only [exec, hop]
    rw [hexec, Tx.commit_void] at hcommit
    cases herr : (appendTaskEvent cfg call.env req identity).errorOf db with
    | some e =>
      have hdb := Tx.commit_of_error (Tx.errorOf_eq_some.mp herr)
      rw [hdb] at hcommit
      exact ⟨[], by rw [hcommit, List.append_nil], by simp [accepts, hop, herr]⟩
    | none =>
      obtain ⟨event, hok⟩ := Tx.errorOf_eq_none.mp herr
      rw [hcommit] at hok
      obtain ⟨parsed, task, -, -, ⟨existing, hfound, -, -, rfl⟩ | ⟨hnew, -, hfresh⟩⟩ :=
        appendTaskEvent_ok hok
      · exact ⟨[], by rw [List.append_nil], by simp [accepts, hop, hfound]⟩
      · obtain ⟨events, _, _, hevents, -, -, rfl⟩ := hfresh.effect
        refine ⟨[taskEventRow req identity task parsed], Table.rows_insert hevents, ?_⟩
        simp [accepts, hop, herr, hnew, taskEventRow]
  | _ =>
    refine hother ?_ ?_ ?_
    · intro req executorID identity h
      rw [hop] at h
      cases h
    · intro req identity h
      rw [hop] at h
      cases h
    · simp only [accepts, hop]

/-- Run lemma: the log of a task grows by the events the run accepts. -/
theorem taskLog_run {calls : List Call} (taskID : String) (hrun : (registry cfg).Run db calls db') :
    (taskLog db' taskID).map TaskEventRow.eventID =
      (taskLog db taskID).map TaskEventRow.eventID ++ acceptanceLog cfg taskID db calls := by
  induction hrun with
  | nil db => simp [acceptanceLog]
  | @cons db db₁ db₂ calls call hstep _ ih =>
    obtain ⟨new, hrows, hnew⟩ := accepts_rows hstep
    have hcommit : (exec cfg call).commit db = db₁ := hstep
    have hlog : (taskLog db₁ taskID).map TaskEventRow.eventID =
        (taskLog db taskID).map TaskEventRow.eventID ++
          ((accepts cfg db call).toList.filter (fun a => a.1 = taskID)).map Prod.snd := by
      rw [← hnew, taskLog, eventsOf, hrows, List.filter_append, List.map_append, List.filter_map,
        List.map_map]
      rfl
    rw [ih, hlog, acceptanceLog, hcommit, List.append_assoc]

/-! ## Section 2: Logs in tuple order -/

/-- Every log is in the order of its stored tuples. -/
def SortedLogs (db : Db) : Prop :=
  ∀ taskID, (taskLog db taskID).Pairwise (fun a b => a.tuple ≤ b.tuple)

/-- An event that falls into the microsecond of the latest event of its task has the
    greater id. -/
def InOrder (db : Db) (call : Call) : Prop :=
  ∀ req identity occurredAt latest, call.op = .appendTaskEvent req identity →
    Time.parseRFC3339Nano req.occurredAt = some occurredAt →
    latestTaskEvent db req.taskID = some latest →
    Time.toMicros occurredAt = latest.occurredAt → latest.eventID < req.eventID

/-- Every event the calls accept is in order in the state it arrives in. -/
def AllInOrder (cfg : Config) (db : Db) : List Call → Prop
  | [] => True
  | call :: calls =>
    (accepts cfg db call ≠ none → InOrder db call) ∧
      AllInOrder cfg ((exec cfg call).commit db) calls

/-- An event that passed the check and is in order is not below the latest tuple. -/
theorem tuple_le_of_strictlyAfter {latest row : TaskEventRow} {occurredAt : Int}
    (hrow : row.occurredAt = Time.toMicros occurredAt)
    (hafter : strictlyAfter latest occurredAt row.eventID = true)
    (horder : Time.toMicros occurredAt = latest.occurredAt → latest.eventID < row.eventID) :
    latest.tuple ≤ row.tuple := by
  simp only [strictlyAfter, Bool.or_eq_true, Bool.and_eq_true, decide_eq_true_eq] at hafter
  have hle : latest.occurredAt ≤ row.occurredAt := by
    rw [hrow]
    unfold Time.ofMicros at hafter
    unfold Time.toMicros
    omega
  unfold TaskEventRow.tuple
  rw [Prod.Lex.toLex_le_toLex]
  rcases lt_or_eq_of_le hle with hlt | heq
  · exact .inl hlt
  · exact .inr ⟨heq, le_of_lt (horder (hrow ▸ heq.symm))⟩

/-- One more event keeps the logs sorted exactly when it is in order. -/
theorem sortedLogs_append_iff {req : TaskEventAppendRequest} {identity : ExecutorIdentity}
    {task : TaskRow} {parsed : ParsedEvent} (hop : call.op = .appendTaskEvent req identity)
    (hparse : parseTaskEvent req = .ok parsed) (hordered : ∀ latest ∈ latestTaskEvent db req.taskID,
      strictlyAfter latest parsed.occurredAt req.eventID = true)
    (hins : db.taskEvents.insert (taskEventRow req identity task parsed) = .ok db'.taskEvents) :
    SortedLogs db' ↔ SortedLogs db ∧ InOrder db call := by
  have htime := (parseTaskEvent_ok hparse).2.1
  have hlog : ∀ id, taskLog db' id = taskLog db id ++
      (if req.taskID = id then [taskEventRow req identity task parsed] else []) :=
    eventsOf_insert hins
  constructor
  · intro hsorted
    refine ⟨fun id => ?_, ?_⟩
    · have hid := hsorted id
      rw [hlog] at hid
      exact (List.pairwise_append.mp hid).1
    · intro req' identity' occurredAt latest hop' htime' hlatest hmicros
      cases hop.symm.trans hop'
      cases htime.symm.trans htime'
      have hmem := (head?_orderByDesc hlatest).1
      have hid := hsorted req.taskID
      rw [hlog, if_pos rfl] at hid
      have hle := (List.pairwise_append.mp hid).2.2 latest hmem _ (List.mem_singleton.mpr rfl)
      -- The ids differ because the key was free.
      have hne : latest.eventID ≠ req.eventID := by
        intro heq
        have hfree := (Table.insert_eq_ok_iff.mp hins).2.1
        exact Table.lookup_eq_none_iff.mp hfree latest (mem_eventsOf.mp hmem).1 heq
      unfold TaskEventRow.tuple at hle
      rw [Prod.Lex.toLex_le_toLex] at hle
      rcases hle with hlt | ⟨-, hle⟩
      · exact absurd hmicros.symm (ne_of_lt hlt)
      · exact lt_of_le_of_ne hle hne
  · intro h
    obtain ⟨hsorted, hinorder⟩ := h
    intro id
    rw [hlog]
    by_cases hid : req.taskID = id
    · subst hid
      rw [if_pos rfl]
      refine List.pairwise_append.mpr ⟨hsorted _, List.pairwise_singleton _ _, ?_⟩
      intro a ha b hb
      rw [List.mem_singleton.mp hb]
      cases hlatest : latestTaskEvent db req.taskID with
      | none =>
        have hempty : taskLog db req.taskID = [] := head?_orderByDesc_eq_none.mp hlatest
        rw [hempty] at ha
        cases ha
      | some latest =>
        have hgreatest := (head?_orderByDesc hlatest).2 a ha
        refine le_trans hgreatest (tuple_le_of_strictlyAfter rfl (hordered latest hlatest) ?_)
        exact hinorder req identity _ latest hop htime hlatest
    · rw [if_neg hid, List.append_nil]
      exact hsorted id

/-- Step lemma: a call keeps the logs sorted exactly when what it accepts is in order. -/
theorem sortedLogs_step_iff (hinv : LogInvariant db.tasks db.taskEvents)
    (hstep : (registry cfg).step db call db') :
    SortedLogs db' ↔ SortedLogs db ∧ (accepts cfg db call ≠ none → InOrder db call) := by
  obtain ⟨new, hrows, hnew⟩ := accepts_rows hstep
  have htaskStep := (step_effect hstep).taskStep
  generalize db'.tasks = tasks at htaskStep
  generalize hevents : db'.taskEvents = events at htaskStep hrows
  have hsame : events = db.taskEvents → (SortedLogs db' ↔
      SortedLogs db ∧ (accepts cfg db call ≠ none → InOrder db call)) := by
    intro heq
    have hnone : accepts cfg db call = none := by
      rw [heq, List.self_eq_append_right] at hrows
      rw [hrows] at hnew
      exact Option.toList_eq_nil_iff.mp hnew.symm
    have hlogs : ∀ id, taskLog db' id = taskLog db id := by
      intro id
      rw [taskLog, hevents, heq]
      rfl
    simp only [SortedLogs, hlogs, hnone, ne_eq, not_true_eq_false, false_implies, and_true]
  cases htaskStep with
  | keep | ingest => exact hsame rfl
  | @claim req executorID identity executor task _ _ _ _ hop hmay hpending _ hins =>
    have hinorder : InOrder db call := by
      intro req' identity' _ _ hop' _ _ _
      rw [hop] at hop'
      cases hop'
    have hlog : ∀ id, taskLog db' id = taskLog db id ++
        (if req.taskID = id then [createdEventRow call.env req executorID task.teamID] else []) := by
      intro id
      rw [taskLog, hevents]
      exact eventsOf_insert hins id
    constructor
    · intro hsorted
      refine ⟨fun id => ?_, fun _ => hinorder⟩
      have hid := hsorted id
      rw [hlog] at hid
      exact (List.pairwise_append.mp hid).1
    · intro h id
      rw [hlog]
      by_cases hid : req.taskID = id
      · -- The claimed task was pending, so its log starts with this event.
        subst hid
        have hempty : taskLog db req.taskID = [] := hinv.no_events hmay.found hpending
        rw [hempty, if_pos rfl, List.nil_append]
        exact List.pairwise_singleton _ _
      · rw [if_neg hid, List.append_nil]
        exact h.1 id
  | @append req identity parsed task _ _ hop hparse _ _ hordered _ hins =>
    have haccepts : accepts cfg db call ≠ none := by
      rw [Table.rows_insert hins] at hrows
      intro hnone
      rw [hnone, Option.toList_none, List.map_eq_nil_iff] at hnew
      rw [hnew, List.append_nil] at hrows
      simp at hrows
    rw [← hevents] at hins
    rw [sortedLogs_append_iff hop hparse hordered hins]
    exact and_congr_right (fun _ => ⟨fun h _ => h, fun h => h haccepts⟩)

/-- Run lemma, from any reachable state. -/
theorem sortedLogs_serve_iff (hreach : (registry cfg).Reachable db) (calls : List Call) :
    SortedLogs (serve cfg db calls) ↔ SortedLogs db ∧ AllInOrder cfg db calls := by
  induction calls generalizing db with
  | nil => simp [serve, AllInOrder]
  | cons call calls ih =>
    have hstep : (registry cfg).step db call ((exec cfg call).commit db) := rfl
    rw [serve, ih (.step call hreach hstep),
      sortedLogs_step_iff (reachable_logInvariant hreach) hstep, AllInOrder, and_assoc]

/-! ## Section 3: The listing -/

/-- The listing of a task is the given sequence of events and replays to its state. -/
def HistoryAgrees (db : Db) (t : TaskRow) (accepted : List String) : Prop :=
  ∃ events, listTaskEvents db t.teamID t.taskID = .ok events ∧
    events.map TaskEvent.eventID = accepted ∧
    replay TaskState.next .pending (events.map TaskEvent.eventType) = some t.currentState

theorem listTaskEvents_eq (hinv : LogInvariant db.tasks db.taskEvents) {t : TaskRow}
    (ht : t ∈ db.tasks.rows) :
    listTaskEvents db t.teamID t.taskID =
      .ok (((taskLog db t.taskID).insertionSort (fun a b => a.tuple ≤ b.tuple)).map
        TaskEventRow.listed) := by
  have hlook : db.tasks.lookup t.taskID = some t := Table.lookup_key ht
  have hfilter : db.taskEvents.rows.filter (fun r => r.teamID = t.teamID && r.taskID = t.taskID) =
      taskLog db t.taskID := by
    refine List.filter_congr ?_
    intro r hr
    obtain ⟨t', ht', hteam, -⟩ := hinv.owned r hr
    by_cases hid : r.taskID = t.taskID
    · rw [hid, hlook] at ht'
      cases Option.some.inj ht'
      simp [hteam]
    · simp [hid]
  unfold listTaskEvents
  rw [hfilter, if_pos (by simp [hlook])]

/-- A task's history agrees with its log exactly when the log is sorted. -/
theorem historyAgrees_iff (hinv : LogInvariant db.tasks db.taskEvents) {t : TaskRow}
    (ht : t ∈ db.tasks.rows) :
    HistoryAgrees db t ((taskLog db t.taskID).map TaskEventRow.eventID) ↔
      (taskLog db t.taskID).Pairwise (fun a b => a.tuple ≤ b.tuple) := by
  have hlook : db.tasks.lookup t.taskID = some t := Table.lookup_key ht
  have hlisted : ∀ rows : List TaskEventRow,
      (rows.map TaskEventRow.listed).map TaskEvent.eventID = rows.map TaskEventRow.eventID := by
    intro rows
    rw [List.map_map]
    rfl
  rw [← orderBy_eq_self_iff TaskEventRow.tuple]
  constructor
  · intro h
    obtain ⟨events, hlist, hids, -⟩ := h
    rw [listTaskEvents_eq hinv ht] at hlist
    cases hlist
    rw [hlisted] at hids
    refine eq_of_map_eq ?_ hids
    intro a ha b hb hab
    have ha' := (mem_eventsOf.mp ((List.mem_insertionSort _).mp ha)).1
    have hb' := (mem_eventsOf.mp hb).1
    exact Table.eq_of_key_eq ha' hb' hab
  · intro hsorted
    refine ⟨_, listTaskEvents_eq hinv ht, ?_, ?_⟩
    · rw [hsorted, hlisted]
    · rw [hsorted, List.map_map]
      exact hinv.projects.replayed _ t hlook

/-- After any calls, the history of every task is the order in which the calls
    accepted its events, and replays to its state, exactly when every accepted event
    was in order. -/
theorem history_is_acceptance_iff (cfg : Config) (calls : List Call) :
    (∀ t ∈ (serve cfg .empty calls).tasks.rows,
      HistoryAgrees (serve cfg .empty calls) t (acceptanceLog cfg t.taskID .empty calls)) ↔
      AllInOrder cfg .empty calls := by
  have hreach := reachable_serve cfg calls
  have hinv := reachable_logInvariant hreach
  have hlog : ∀ id, acceptanceLog cfg id .empty calls =
      (taskLog (serve cfg .empty calls) id).map TaskEventRow.eventID := by
    intro id
    have hrun : (registry cfg).Run .empty calls (serve cfg .empty calls) := run_iff_serve.mpr rfl
    rw [taskLog_run id hrun]
    rfl
  have hempty : SortedLogs Db.empty := fun id => List.Pairwise.nil
  have hsorted : SortedLogs (serve cfg .empty calls) ↔ AllInOrder cfg .empty calls := by
    rw [sortedLogs_serve_iff (.init rfl)]
    exact ⟨fun h => h.2, fun h => ⟨hempty, h⟩⟩
  rw [← hsorted]
  constructor
  · intro h id
    cases hlook : (serve cfg .empty calls).tasks.lookup id with
    | some t =>
      have ht := h t (Table.mem_of_lookup hlook)
      rw [hlog, historyAgrees_iff hinv (Table.mem_of_lookup hlook)] at ht
      have hid : t.taskID = id := Table.key_of_lookup hlook
      exact hid ▸ ht
    | none =>
      have hnil : taskLog (serve cfg .empty calls) id = [] := hinv.projects.eventsOf_eq_nil hlook
      rw [hnil]
      exact List.Pairwise.nil
  · intro h t ht
    rw [hlog, historyAgrees_iff hinv ht]
    exact h t.taskID

/-- A `running` event one tenth of a microsecond after the claim, with an id below
    that of the `created` event. -/
def sampleOvertaken : List Call :=
  sampleClaimed ++
    [sampleAppend 7 (sampleEvent "a" "task" "running" "1970-01-01T00:00:06.0000001Z")]

/-- Its listing starts with the later event and does not replay at all. -/
theorem history_out_of_order_sample :
    ∃ events, listTaskEvents (serve sampleConfig .empty sampleOvertaken) "team" "task" =
        .ok events ∧
      events.map TaskEvent.eventID = ["a", "evt-task"] ∧
      acceptanceLog sampleConfig "task" .empty sampleOvertaken = ["evt-task", "a"] ∧
      replay TaskState.next .pending (events.map TaskEvent.eventType) = none :=
  Check.exists_ok (by decide +kernel)

end FlowAI.Registry
