import FlowAI.Registry.Frozen

/-! # The Tasks of One Executor

  A claimed task stays with its executor, and nobody else moves it: its row and its log
  change with the events this executor appends to it, and with nothing else.  A program
  that acts as one executor can so be followed while all other clients do what they like.
-/

namespace FlowAI.Registry

variable {cfg : Config} {call : Call} {db db' : Db} {executorID taskID : String}

/-! ## Section 1: Assigned tasks -/

/-- The task is claimed by the executor. -/
def Assigned (db : Db) (executorID taskID : String) : Prop :=
  ∃ t, db.tasks.lookup taskID = some t ∧ t.executorID = some executorID

/-- The task exists, in the team. -/
def InTeam (db : Db) (taskID teamID : String) : Prop :=
  ∃ t, db.tasks.lookup taskID = some t ∧ t.teamID = teamID

/-- The log of the task holds a terminal event. -/
def Settled (db : Db) (taskID : String) : Prop :=
  ∃ r ∈ taskLog db taskID, r.eventType.terminal = true

variable {tasks : Table taskSchema} {t : TaskRow}

/-- An assigned task is not pending, by the `CHECK` of the table. -/
theorem ne_pending_of_executorID (ht : tasks.lookup taskID = some t)
    (hexec : t.executorID = some executorID) : t.currentState ≠ .pending := by
  intro hpending
  have hnone := (claimColumns_of_pending (Table.mem_of_lookup ht) hpending).2.1
  rw [hexec] at hnone
  cases hnone

/-- The `CHECK` of the table: a claimed task has its image and the time of its claim. -/
theorem claimColumns_of_claimed (ht : t ∈ tasks.rows) (hclaimed : t.currentState ≠ .pending) :
    t.resolvedImage.isSome = true ∧ t.claimedAt.isSome = true := by
  have hcheck := tasks.checked t ht
  simp only [taskSchema, TaskRow.claimColumns, if_neg hclaimed, Bool.and_eq_true] at hcheck
  exact ⟨hcheck.2.1.1.2, hcheck.2.2⟩

section Later

variable {db db' : Db} {executorID taskID teamID : String}

theorem Assigned.later (h : Assigned db executorID taskID) (hlater : db.Evolves db') :
    Assigned db' executorID taskID := by
  obtain ⟨t, ht, hexec⟩ := h
  obtain ⟨t', ht', hfollows⟩ := hlater.tasks _ _ ht
  have hclaim := (hfollows.claimed (ne_pending_of_executorID ht hexec)).2
  exact ⟨t', ht', (congrArg TaskClaim.executorID hclaim).trans hexec⟩

theorem InTeam.later (h : InTeam db taskID teamID) (hlater : db.Evolves db') :
    InTeam db' taskID teamID := by
  obtain ⟨t, ht, hteam⟩ := h
  obtain ⟨t', ht', hfollows⟩ := hlater.tasks _ _ ht
  exact ⟨t', ht', hfollows.teamID.trans hteam⟩

theorem Settled.later (h : Settled db taskID) (hlater : db.Evolves db') : Settled db' taskID := by
  obtain ⟨r, hr, hterminal⟩ := h
  obtain ⟨hmem, hid⟩ := mem_eventsOf.mp hr
  obtain ⟨r', hr', rfl⟩ := hlater.taskEvents _ _ (Table.lookup_key hmem)
  exact ⟨r, mem_eventsOf.mpr ⟨Table.mem_of_lookup hr', hid⟩, hterminal⟩

end Later

theorem commit_evolves (cfg : Config) (call : Call) (db : Db) :
    db.Evolves ((exec cfg call).commit db) :=
  (step_effect rfl).evolves

theorem commit_taskStep (cfg : Config) (call : Call) (db : Db) :
    TaskStep cfg call db ((exec cfg call).commit db).tasks ((exec cfg call).commit db).taskEvents :=
  (step_effect rfl).taskStep

/-- An accepted claim, first or repeated, leaves the task with the executor. -/
theorem assigned_of_claim {env : CallEnv} {req : ClaimRequest} {identity : ExecutorIdentity}
    {response : ClaimResponse}
    (h : claimTask cfg env req executorID identity db = .ok (response, db')) :
    Assigned db' executorID req.taskID := by
  obtain ⟨executor, task, hmay, -, ⟨-, -, hexec, rfl⟩ | hfresh⟩ := claimTask_ok h
  · exact ⟨task, hmay.found, hexec⟩
  · obtain ⟨_, source, image, _, _, tasks, _, -, -, -, htasks, -, rfl⟩ := hfresh.effect
    refine ⟨task.assign env req executorID image source, ?_, rfl⟩
    show tasks.lookup req.taskID = _
    rw [Table.lookup_update htasks, if_pos rfl, hmay.found]
    rfl

/-- A task comes to an executor by an accepted claim of its own. -/
theorem assigned_of_commit (h : Assigned ((exec cfg call).commit db) executorID taskID) :
    Assigned db executorID taskID ∨ TakesTask cfg db call taskID executorID := by
  obtain ⟨t, ht, hexec⟩ := h
  have hstate := ne_pending_of_executorID ht hexec
  by_cases hbefore : IsClaimed db taskID
  · obtain ⟨t₀, ht₀, hstate₀⟩ := hbefore
    obtain ⟨t', ht', hfollows⟩ := (commit_evolves cfg call db).tasks _ _ ht₀
    rw [ht] at ht'
    obtain rfl := Option.some.inj ht'
    have hclaim := (hfollows.claimed hstate₀).2
    exact .inl ⟨t₀, ht₀, (congrArg TaskClaim.executorID hclaim).symm.trans hexec⟩
  · exact .inr (takesTask_of_step ht hstate hexec hbefore)

/-- The log of a task that was just claimed is its `created` event. -/
theorem TakesTask.not_settled (h : TakesTask cfg db call taskID executorID)
    (hinv : LogInvariant db.tasks db.taskEvents) :
    ¬ Settled ((exec cfg call).commit db) taskID := by
  obtain ⟨t, ht, hpending⟩ := h.pending
  obtain ⟨req, identity, executor, task, rfl, hmay, hfresh⟩ := h.fresh
  obtain ⟨_, _, _, _, _, _, events, -, -, -, -, hevents, hdb⟩ := hfresh.effect
  intro hsettled
  obtain ⟨r, hr, hterminal⟩ := hsettled
  obtain ⟨hmem, hid⟩ := mem_eventsOf.mp hr
  rw [hdb] at hmem
  rw [Table.rows_insert hevents] at hmem
  rcases List.mem_append.mp hmem with hold | hnew
  · have hnone := hinv.no_events ht hpending
    have : r ∈ eventsOf TaskEventRow.taskID db.taskEvents req.taskID := mem_eventsOf.mpr ⟨hold, hid⟩
    rw [hnone] at this
    cases this
  · rw [List.mem_singleton.mp hnew] at hterminal
    cases hterminal

/-- The log of a task, as the lifecycle has it. -/
theorem LogInvariant.lifecycle (h : LogInvariant db.tasks db.taskEvents)
    (ht : db.tasks.lookup taskID = some t) :
    LifecycleLog ((taskLog db taskID).map TaskEventRow.eventType) t.currentState :=
  lifecycleLog_of_replay (h.projects.replayed taskID t ht)

theorem LogInvariant.terminal_le_one (h : LogInvariant db.tasks db.taskEvents)
    (ht : db.tasks.lookup taskID = some t) :
    (taskLog db taskID).countP (fun r => r.eventType.terminal) ≤ 1 := by
  have hlog := h.lifecycle ht
  generalize htypes : (taskLog db taskID).map TaskEventRow.eventType = types at hlog
  have hcount : (taskLog db taskID).countP (fun r => r.eventType.terminal) =
      types.countP TaskEventType.terminal := by
    rw [← htypes, List.countP_map]
    rfl
  rw [hcount]
  generalize t.currentState = s at hlog
  cases hlog <;> decide

/-- The state of a task tells whether its log holds a terminal event. -/
theorem LogInvariant.settled_iff (h : LogInvariant db.tasks db.taskEvents)
    (ht : db.tasks.lookup taskID = some t) :
    Settled db taskID ↔ t.currentState = .finished ∨ t.currentState = .failed := by
  have hlog := h.lifecycle ht
  have hmem : Settled db taskID ↔ ∃ e ∈ (taskLog db taskID).map TaskEventRow.eventType,
      e.terminal = true := by
    simp [Settled]
  rw [hmem]
  generalize (taskLog db taskID).map TaskEventRow.eventType = types at hlog
  generalize t.currentState = s at hlog
  cases hlog <;> simp [TaskEventType.terminal]

/-- A task ends with a terminal event that its own executor appends. -/
theorem settled_of_commit (h : Settled ((exec cfg call).commit db) taskID) :
    Settled db taskID ∨ ∃ req identity, call.op = .appendTaskEvent req identity ∧
      req.taskID = taskID ∧ (req.eventType = "finished" ∨ req.eventType = "failed") ∧
      Assigned db identity.executorID taskID := by
  obtain ⟨r, hr, hterminal⟩ := h
  obtain ⟨hmem, hid⟩ := mem_eventsOf.mp hr
  have hold : r ∈ db.taskEvents.rows → Settled db taskID :=
    fun hrow => ⟨r, mem_eventsOf.mpr ⟨hrow, hid⟩, hterminal⟩
  have hstep := commit_taskStep cfg call db
  generalize ((exec cfg call).commit db).tasks = tasks at hstep
  generalize ((exec cfg call).commit db).taskEvents = events at hstep hmem
  cases hstep with
  | keep | ingest => exact .inl (hold hmem)
  | claim _ _ _ _ hins =>
    rw [Table.rows_insert hins] at hmem
    rcases List.mem_append.mp hmem with hrow | hnew
    · exact .inl (hold hrow)
    · rw [List.mem_singleton.mp hnew] at hterminal
      cases hterminal
  | @append req identity parsed task _ _ hop hparse hmay _ _ _ hins =>
    rw [Table.rows_insert hins] at hmem
    rcases List.mem_append.mp hmem with hrow | hnew
    · exact .inl (hold hrow)
    · rw [List.mem_singleton.mp hnew] at hterminal hid
      refine .inr ⟨req, identity, hop, hid, ?_, task, ?_, hmay.assigned⟩
      · have htype := (parseTaskEvent_ok hparse).1
        have hkind : parsed.eventType.terminal = true := hterminal
        unfold allowedTaskEventType at htype
        split at htype
        · rw [← Option.some.inj htype] at hkind
          cases hkind
        · rename_i heq
          exact .inl heq
        · rename_i heq
          exact .inr heq
        · cases htype
      · rw [← show req.taskID = taskID from hid]
        exact hmay.found

/-! ## Section 2: What a call leaves alone -/

/-- The row and the log of a task are the same in both states. -/
structure SameTask (db db' : Db) (taskID : String) : Prop where
  row : db'.tasks.lookup taskID = db.tasks.lookup taskID
  log : taskLog db' taskID = taskLog db taskID

theorem eventsOf_insert_ne {events events' : Table taskEventSchema} {row : TaskEventRow}
    (hins : events.insert row = .ok events') (hne : row.taskID ≠ taskID) :
    eventsOf TaskEventRow.taskID events' taskID = eventsOf TaskEventRow.taskID events taskID :=
  Table.filter_rows_insert hins (decide_eq_false hne)

/-- Only the executor of a task changes it, by appending to its log. -/
theorem sameTask_of_commit (h : Assigned db executorID taskID)
    (hother : ∀ req identity, call.op = .appendTaskEvent req identity →
      identity.executorID = executorID → req.taskID ≠ taskID) :
    SameTask db ((exec cfg call).commit db) taskID := by
  obtain ⟨t, ht, hexec⟩ := h
  have hstep := commit_taskStep cfg call db
  constructor
  · generalize ((exec cfg call).commit db).tasks = tasks at hstep ⊢
    generalize ((exec cfg call).commit db).taskEvents = events at hstep
    cases hstep with
    | keep => rfl
    | ingest _ _ _ hins => rw [ht, Table.lookup_insert_of_some hins ht]
    | @claim req _ _ _ task _ _ _ _ _ hmay hpending hupd _ =>
      rw [Table.lookup_update hupd, if_neg]
      intro hid
      have hfound := hmay.found
      rw [← hid, ht] at hfound
      exact ne_pending_of_executorID ht hexec (Option.some.inj hfound ▸ hpending)
    | @append req identity _ task _ _ hop _ hmay _ _ hupd _ =>
      rw [Table.lookup_update hupd, if_neg]
      intro hid
      have hfound := hmay.found
      rw [← hid, ht] at hfound
      have hassigned := hmay.assigned
      rw [← Option.some.inj hfound, hexec] at hassigned
      exact hother req identity hop (Option.some.inj hassigned).symm hid.symm
  · unfold taskLog
    generalize ((exec cfg call).commit db).tasks = tasks at hstep
    generalize ((exec cfg call).commit db).taskEvents = events at hstep ⊢
    cases hstep with
    | keep | ingest => rfl
    | @claim req _ _ _ task _ _ _ _ _ hmay hpending _ hins =>
      apply eventsOf_insert_ne hins
      intro hid
      have hid' : req.taskID = taskID := hid
      have hfound := hmay.found
      rw [hid', ht] at hfound
      exact ne_pending_of_executorID ht hexec (Option.some.inj hfound ▸ hpending)
    | @append req identity _ task _ _ hop _ hmay _ _ _ hins =>
      apply eventsOf_insert_ne hins
      intro hid
      have hid' : req.taskID = taskID := hid
      have hfound := hmay.found
      rw [hid', ht] at hfound
      have hassigned := hmay.assigned
      rw [← Option.some.inj hfound, hexec] at hassigned
      exact hother req identity hop (Option.some.inj hassigned).symm hid'

end FlowAI.Registry
