import FlowAI.Registry.Evolution

/-! # Repeating an Accepted Event

  An executor that did not see the answer to an event sends the same request
  again.  The registry compares the request with the row it stored, and the row
  has lost the digits below a microsecond; it also decodes both payloads, and a
  number beyond the range of `float64` does not decode.  A repeated request is
  answered with the stored event exactly when neither happens.
-/

namespace FlowAI.Registry

variable {req : TaskEventAppendRequest} {parsed : ParsedEvent}

/-- Whole microseconds, and every number of the payload within `float64`. -/
def TaskEventAppendRequest.Retriable (req : TaskEventAppendRequest) : Prop :=
  (∀ occurredAt, Time.parseRFC3339Nano req.occurredAt = some occurredAt → occurredAt % 1000 = 0) ∧
    ∀ payload, req.payload = .text payload → ∀ n ∈ payload.numbers, n.inFloat64Range = true

/-- The condition read on the parsed request. -/
theorem retriable_iff (hparse : parseTaskEvent req = .ok parsed) :
    req.Retriable ↔ parsed.occurredAt % 1000 = 0 ∧ parsed.payload.unmarshals = true := by
  obtain ⟨-, htime, hpayload⟩ := parseTaskEvent_ok hparse
  generalize parsed.payload = stored at hpayload ⊢
  have hnumbers : (∀ payload, req.payload = .text payload →
      ∀ n ∈ payload.numbers, n.inFloat64Range = true) ↔ stored.unmarshals = true := by
    cases hraw : req.payload with
    | empty =>
      rw [hraw] at hpayload
      cases hpayload
      simp [Json.unmarshals, Json.numbers, Json.numbersMembers]
    | invalid =>
      rw [hraw] at hpayload
      cases hpayload
    | text j =>
      rw [hraw] at hpayload
      -- `null` is replaced by the empty object, and neither holds a number.
      have hsame : stored.numbers = j.numbers := by
        cases j <;> cases hpayload <;> rfl
      simp [Json.unmarshals, hsame]
  unfold TaskEventAppendRequest.Retriable
  rw [hnumbers, htime]
  simp

variable {identity : ExecutorIdentity}

/-- The stored row of a request is recognised exactly when the request is retriable. -/
theorem retries_taskEventRow_iff {task : TaskRow} :
    (taskEventRow req identity task parsed).retries parsed = true ↔
      parsed.occurredAt % 1000 = 0 ∧ parsed.payload.unmarshals = true := by
  simp [TaskEventRow.retries, taskEventRow, jsonEqual_jsonb, Time.ofMicros_toMicros_iff]

/-- A row that is recognised at all comes from a retriable request. -/
theorem retries_sound {existing : TaskEventRow} (h : existing.retries parsed = true) :
    parsed.occurredAt % 1000 = 0 ∧ parsed.payload.unmarshals = true := by
  simp only [TaskEventRow.retries, jsonEqual, Bool.and_eq_true, decide_eq_true_eq] at h
  obtain ⟨⟨-, htime⟩, ⟨-, hpayload⟩, -⟩ := h
  refine ⟨?_, hpayload⟩
  unfold Time.ofMicros at htime
  omega

/-- Who may append to a task may do so in every later state, under any request id. -/
theorem MayAppend.later {db db' : Db} {task : TaskRow}
    (h : MayAppend db req identity task) (hlater : db.Evolves db') (requestID : String) :
    ∃ task', MayAppend db' req { identity with requestID } task' ∧ task'.teamID = task.teamID := by
  obtain ⟨task', htask', hfollows⟩ := hlater.tasks _ _ h.found
  -- An executor column is set, so the `CHECK` of the table excludes `pending`.
  have hclaimed : task.currentState ≠ .pending := by
    intro hpending
    have hcheck := db.tasks.checked task (Table.mem_of_lookup h.found)
    simp [taskSchema, TaskRow.claimColumns, hpending, h.assigned] at hcheck
  have hteam := hfollows.teamID
  have hexec : task'.executorID = task.executorID :=
    (congrArg TaskClaim.executorID (hfollows.claimed hclaimed).2 :)
  obtain ⟨executor, hexecutor, hscope, hbound⟩ := h.executor
  obtain ⟨executor', hexecutor', hsame⟩ := hlater.executors _ _ hexecutor
  refine ⟨task', ⟨htask', hexec.trans h.assigned, h.envelope.trans hteam.symm, executor',
    hexecutor', hscope.trans hsame.1.symm, ?_⟩, hteam⟩
  intro hs
  obtain ⟨he, hi⟩ := hbound (hsame.1.symm.trans hs)
  exact ⟨by rw [hsame.2, he, hteam], hi.trans hsame.2.symm⟩

theorem accepted_row {cfg : Config} {env : CallEnv} {db db₁ : Db}
    {event : TaskEvent} (hparse : parseTaskEvent req = .ok parsed)
    (haccept : appendTaskEvent cfg env req identity db = .ok (event, db₁)) :
    ∃ task existing, MayAppend db req identity task ∧ db.Evolves db₁ ∧
      findTaskEvent db₁ req.taskID req.eventID = some existing ∧
      (existing.retries parsed = true ↔ req.Retriable) ∧
      (req.Retriable → (taskEventResponse req identity task existing.eventType
        (Time.ofMicros existing.occurredAt) existing.payload).Same event) := by
  obtain ⟨parsed', task, hparse', hmay, hcase⟩ := appendTaskEvent_ok haccept
  cases hparse.symm.trans hparse'
  rcases hcase with ⟨existing, hfound, hretries, rfl, rfl⟩ | ⟨hnew, rfl, hfresh⟩
  · -- The accepted call was itself a repetition.
    refine ⟨task, existing, hmay, .refl _, hfound, ?_, fun _ => rfl⟩
    rw [retriable_iff hparse]
    exact ⟨retries_sound, fun _ => hretries⟩
  · have heffect : Effect cfg ⟨env, .appendTaskEvent req identity⟩ db db₁ :=
      .appendTaskEvent rfl hparse hmay hnew hfresh
    have hevolves := heffect.evolves
    obtain ⟨events, tasks, audits, hevents, htasks, haudits, rfl⟩ := hfresh.effect
    refine ⟨task, taskEventRow req identity task parsed, hmay, hevolves, ?_, ?_, ?_⟩
    · have hlook : events.lookup req.eventID = some (taskEventRow req identity task parsed) := by
        rw [Table.lookup_insert hevents]
        exact if_pos rfl
      exact findTaskEvent_eq_some.mpr ⟨hlook, rfl⟩
    · rw [retriable_iff hparse]
      exact retries_taskEventRow_iff
    · intro hretriable
      have hmicros := (Time.ofMicros_toMicros_iff _).mpr ((retriable_iff hparse).mp hretriable).1
      simp [TaskEvent.Same, taskEventResponse, taskEventRow, hmicros]

/-- An accepted event sent again, by the same executor and in any later state, is
    answered with the accepted event and changes nothing, exactly when the request
    is retriable. -/
theorem append_retry_idempotent_iff {cfg : Config} {env env' : CallEnv}
    {req : TaskEventAppendRequest} {identity : ExecutorIdentity} {db db₁ db₂ : Db}
    {event : TaskEvent} {calls : List Call} (requestID : String)
    (haccept : appendTaskEvent cfg env req identity db = .ok (event, db₁))
    (hrun : (registry cfg).Run db₁ calls db₂) :
    (∃ event', appendTaskEvent cfg env' req { identity with requestID } db₂ = .ok (event', db₂) ∧
      event'.Same event) ↔ req.Retriable := by
  obtain ⟨parsed, _, hparse, -, -⟩ := appendTaskEvent_ok haccept
  obtain ⟨task, existing, hmay, hevolves, hfound, hretries, hsame⟩ := accepted_row hparse haccept
  have hlater := run_evolves hrun
  obtain ⟨task', hmay', hteam⟩ := hmay.later (hevolves.trans hlater) requestID
  have hfound' : findTaskEvent db₂ req.taskID req.eventID = some existing := by
    obtain ⟨hlook, htask⟩ := findTaskEvent_eq_some.mp hfound
    obtain ⟨_, hlook', rfl⟩ := hlater.taskEvents _ _ hlook
    exact findTaskEvent_eq_some.mpr ⟨hlook', htask⟩
  rw [appendTaskEvent_of_found hparse hmay' hfound']
  constructor
  · intro h
    obtain ⟨event', heq, -⟩ := h
    by_contra hnot
    rw [if_neg (fun hr => hnot (hretries.mp hr))] at heq
    cases heq
  · intro hretriable
    refine ⟨_, if_pos (hretries.mpr hretriable), ?_⟩
    have hresponse := hsame hretriable
    simp only [TaskEvent.Same, taskEventResponse, hteam] at hresponse ⊢
    exact hresponse

/-- The sample task up to its claim. -/
def sampleClaimed : List Call := sampleSetup ++ [sampleIngest "task" "1" 5, sampleClaim "task" 6]

/-- A `running` event on a whole second, repeated after the task finished. -/
theorem append_retry_idempotent_sample :
    ∃ event db₁ event',
      appendTaskEvent sampleConfig (sampleEnv "audit" 7)
        (sampleEvent "e1" "task" "running" "1970-01-01T00:00:07Z") sampleIdentity
        (serve sampleConfig .empty sampleClaimed) = .ok (event, db₁) ∧
      appendTaskEvent sampleConfig (sampleEnv "again" 9)
        (sampleEvent "e1" "task" "running" "1970-01-01T00:00:07Z") sampleIdentity
        (serve sampleConfig db₁
          [sampleAppend 8 (sampleEvent "e2" "task" "finished" "1970-01-01T00:00:08Z")]) =
        .ok (event', serve sampleConfig db₁
          [sampleAppend 8 (sampleEvent "e2" "task" "finished" "1970-01-01T00:00:08Z")]) ∧
      event'.Same event := by
  have hok : (appendTaskEvent sampleConfig (sampleEnv "audit" 7)
      (sampleEvent "e1" "task" "running" "1970-01-01T00:00:07Z") sampleIdentity).errorOf
      (serve sampleConfig .empty sampleClaimed) = none := by
    decide +kernel
  have hretriable :
      (sampleEvent "e1" "task" "running" "1970-01-01T00:00:07Z").Retriable := by
    constructor
    · intro t ht
      have htime : Time.parseRFC3339Nano "1970-01-01T00:00:07Z" = some 7000000000 := by
        decide +kernel
      cases htime.symm.trans ht
      decide
    · intro payload hpayload n hn
      cases hpayload
      cases hn
  obtain ⟨event, haccept⟩ := Tx.errorOf_eq_none.mp hok
  obtain ⟨event', hagain, hsame⟩ :=
    (append_retry_idempotent_iff "request" haccept (run_iff_serve.mpr rfl)).mpr hretriable
  exact ⟨event, _, event', haccept, hagain, hsame⟩

/-- One tenth of a microsecond is enough: the accepted event, sent again at once, is
    refused as a conflict. -/
theorem append_retry_conflict_below_micros :
    ∃ event db₁,
      appendTaskEvent sampleConfig (sampleEnv "audit" 7)
        (sampleEvent "e1" "task" "running" "1970-01-01T00:00:07.0000001Z") sampleIdentity
        (serve sampleConfig .empty sampleClaimed) = .ok (event, db₁) ∧
      appendTaskEvent sampleConfig (sampleEnv "again" 8)
        (sampleEvent "e1" "task" "running" "1970-01-01T00:00:07.0000001Z") sampleIdentity db₁ =
        .error .eventConflict := by
  refine Tx.exists_ok (by decide +kernel) (fun _ _ => Tx.errorOf_eq_some.mp ?_)
  decide +kernel

end FlowAI.Registry
