import FlowAI.Registry.Assignment
import FlowAI.Registry.ControlLog

/-! # Repeating an Accepted Report

  The executor of a task reports chunks of output (`AppendTaskLog`) and how far it got with
  a control (`AppendTaskControlEvent`).  Both operations compare a repeated request with the
  row they stored.  The row has lost the digits below a microsecond, the payload of a control
  event comes back as the database spells it, and a chunk is only looked up while its task is
  open.
-/

namespace FlowAI.Registry

/-! ## Section 1: The caller -/

section Caller

variable {db db' : Db} {identity : ExecutorIdentity}

/-- Who is recognised stays recognised, under any request id. -/
theorem executorIdentityMatches_later {teamID : String} (requestID : String)
    (h : executorIdentityMatches db teamID identity = true) (hlater : db.Evolves db') :
    executorIdentityMatches db' teamID { identity with requestID } = true := by
  unfold executorIdentityMatches at h ⊢
  cases hfound : db.executors.lookup identity.executorID with
  | none =>
    rw [hfound] at h
    cases h
  | some executor =>
    obtain ⟨executor', hfound', hscope, hteam⟩ := hlater.executors _ _ hfound
    rw [hfound] at h
    simp only [hfound', hscope, hteam]
    exact h

theorem evolves_of_accepted (cfg : Config) (call : Call) {α : Type} {x : StoreTx α} {a : α}
    (hexec : exec cfg call = x.void) (h : x db = .ok (a, db')) : db.Evolves db' := by
  have hlater := commit_evolves cfg call db
  rw [hexec, Tx.commit_void, Tx.commit_of_ok h] at hlater
  exact hlater

theorem assigned_later {taskID : String} {task : TaskRow}
    (hfound : db.tasks.lookup taskID = some task)
    (hassigned : task.executorID = some identity.executorID) (hlater : db.Evolves db') :
    ∃ task', db'.tasks.lookup taskID = some task' ∧ task'.teamID = task.teamID ∧
      task'.executorID = some identity.executorID := by
  obtain ⟨task', hfound', hfollows⟩ := hlater.tasks _ _ hfound
  have hclaim := (hfollows.claimed (ne_pending_of_executorID hfound hassigned)).2
  exact ⟨task', hfound', hfollows.teamID,
    (congrArg TaskClaim.executorID hclaim).trans hassigned⟩

end Caller

/-! ## Section 2: Log chunks -/

section Chunks

variable {cfg : Config} {taskID : String} {req : TaskLogAppendRequest}
  {identity : ExecutorIdentity} {db db₁ db₂ : Db} {chunk : TaskLogChunk}

theorem accepted_chunk (h : appendTaskLog taskID req identity db = .ok (chunk, db₁)) :
    ∃ row, readTaskLogChunk db₁ taskID req.logChunkID = some row ∧
      (row.retries req = true ↔ req.occurredAt % 1000 = 0) ∧
      (req.occurredAt % 1000 = 0 → row.read = chunk) := by
  obtain ⟨task, hmay, hcases⟩ := appendTaskLog_ok h
  rcases hcases with ⟨row, hread, hretries, rfl, rfl⟩ | ⟨row, chunks, rfl, -, hins, rfl, rfl⟩
  · -- the accepted call was itself a repetition
    refine ⟨row, hread, ⟨fun _ => ?_, fun _ => hretries⟩, fun _ => rfl⟩
    simp only [LogChunkRow.retries, Bool.and_eq_true, decide_eq_true_eq] at hretries
    obtain ⟨-, htime⟩ := hretries
    unfold Time.ofMicros at htime
    omega
  · obtain rfl : task.taskID = taskID := Table.key_of_lookup hmay.found
    refine ⟨logChunkRow req identity task (nextLogOffset db task.taskID), ?_, ?_, ?_⟩
    · show (chunks.lookup req.logChunkID).filter _ = _
      rw [Table.lookup_insert hins]
      simp [logChunkSchema, logChunkRow]
    · simp [LogChunkRow.retries, logChunkRow, Time.ofMicros_toMicros_iff]
    · intro hmicros
      simp [LogChunkRow.read, logChunkRow, (Time.ofMicros_toMicros_iff _).mpr hmicros]

/-- **A repeated chunk is answered as before, and changes nothing, exactly if its time is in
    whole microseconds and the task is still open.** -/
theorem log_retry_idempotent_iff {calls : List Call} (requestID : String)
    (haccept : appendTaskLog taskID req identity db = .ok (chunk, db₁))
    (hrun : (registry cfg).Run db₁ calls db₂) :
    appendTaskLog taskID req { identity with requestID } db₂ = .ok (chunk, db₂) ↔
      req.occurredAt % 1000 = 0 ∧ ∃ task, db₂.tasks.lookup taskID = some task ∧
        (task.currentState = .created ∨ task.currentState = .running) := by
  obtain ⟨row, hread, hretries, hsame⟩ := accepted_chunk haccept
  have hread' : readTaskLogChunk db₂ taskID req.logChunkID = some row := by
    obtain ⟨hlook, htask⟩ := Option.filter_eq_some_iff.mp hread
    obtain ⟨_, hlook', rfl⟩ := (run_evolves hrun).logChunks _ _ hlook
    exact Option.filter_eq_some_iff.mpr ⟨hlook', htask⟩
  constructor
  · intro h
    obtain ⟨task, hmay, hcases⟩ := appendTaskLog_ok h
    refine ⟨?_, task, hmay.found, hmay.opened⟩
    rcases hcases with ⟨row', hrow', hagain, -⟩ | ⟨_, _, -, hnone, -⟩
    · obtain rfl := Option.some.inj (hread'.symm.trans hrow')
      exact hretries.mp hagain
    · rw [hread'] at hnone
      cases hnone
  · intro h
    obtain ⟨hmicros, task₂, hfound₂, hopened⟩ := h
    obtain ⟨task, hmay, -⟩ := appendTaskLog_ok haccept
    have hfirst : db.Evolves db₁ := evolves_of_accepted cfg
      ⟨⟨0, 0, fun _ => "", ""⟩, .appendTaskLog taskID req identity⟩ rfl haccept
    have hlater := hfirst.trans (run_evolves hrun)
    obtain ⟨task', hfound', hteam, hassigned⟩ := assigned_later hmay.found hmay.assigned hlater
    obtain rfl := Option.some.inj (hfound₂.symm.trans hfound')
    have hregistered := executorIdentityMatches_later requestID hmay.registered hlater
    rw [← hteam] at hregistered
    rw [← hsame hmicros]
    exact appendTaskLog_of_stored ⟨hfound₂, hassigned, hregistered, hopened⟩ hread'
      (hretries.mpr hmicros)

end Chunks

/-- A chunk of the sample task. -/
def sampleChunk : TaskLogAppendRequest := ⟨"chunk", .work, "output", 7500000000⟩

/-- The executor reports that the sample task runs. -/
def sampleStart : Call := sampleAppend 8 (sampleEvent "e1" "task" "running" "1970-01-01T00:00:08Z")

/-- A chunk sent again after the task was started. -/
theorem log_retry_idempotent_sample : ∃ chunk db₁,
    appendTaskLog "task" sampleChunk sampleIdentity
      (serve sampleConfig .empty (sampleControl.take 7)) = .ok (chunk, db₁) ∧
    appendTaskLog "task" sampleChunk sampleIdentity (serve sampleConfig db₁ [sampleStart]) =
      .ok (chunk, serve sampleConfig db₁ [sampleStart]) := by
  have hrunning : ((serve sampleConfig ((appendTaskLog "task" sampleChunk sampleIdentity).commit
      (serve sampleConfig .empty (sampleControl.take 7))) [sampleStart]).tasks.lookup "task").any
        (fun t => t.currentState = .running) = true := by
    decide +kernel
  obtain ⟨task, htask, hstate⟩ := (Option.any_eq_true _ _).mp hrunning
  refine Tx.exists_ok (by decide +kernel) (fun chunk haccept => ?_)
  exact (log_retry_idempotent_iff "request" haccept (run_iff_serve.mpr rfl)).mpr
    ⟨by decide, task, htask, .inr (of_decide_eq_true hstate)⟩

/-- The task ends between the two: the stored chunk is not looked up any more. -/
theorem log_retry_refused_after_end : ∃ chunk db₁,
    appendTaskLog "task" sampleChunk sampleIdentity
      (serve sampleConfig .empty (sampleControl.take 7)) = .ok (chunk, db₁) ∧
    appendTaskLog "task" sampleChunk sampleIdentity (serve sampleConfig db₁
      [sampleStart, sampleAppend 9 (sampleEvent "e2" "task" "finished" "1970-01-01T00:00:09Z")]) =
      .error .taskUnknown := by
  refine Tx.exists_ok (by decide +kernel) (fun _ _ => Tx.errorOf_eq_some.mp ?_)
  decide +kernel

/-! ## Section 3: Control events -/

/-- Whole microseconds, and the database writes the payload back as it was, up to spacing. -/
def TaskControlEventAppendRequest.Retriable (cfg : Config) (req : TaskControlEventAppendRequest) :
    Prop :=
  req.occurredAt % 1000 = 0 ∧
    equalControlPayload (cfg.jsonbOut (controlPayloadValue req.payload).jsonb) req.payload = true

section Reports

variable {cfg : Config} {env : CallEnv} {taskID controlID : String}
  {req : TaskControlEventAppendRequest} {identity : ExecutorIdentity} {db db₁ db₂ : Db}
  {event : TaskControlEvent}

end Reports

end FlowAI.Registry
