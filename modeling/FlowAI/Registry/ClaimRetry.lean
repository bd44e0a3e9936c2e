import FlowAI.Registry.EventRetry

/-! # Repeating a Claim

  An executor that lost the answer to its claim repeats the call under the same
  command.  The retry branch of `ClaimTask` stands behind the tag check, and a
  registration may overwrite the tag of the executor.  The repeated call returns
  the original response exactly as long as the registered tag is the tag of the
  task.
-/

namespace FlowAI.Registry

variable {db db' : Db} {cfg : Config} {env : CallEnv}

/-! ## Section 1: What the response is made of -/

/-- A task without frozen references is one no key of which is referenced. -/
theorem hasLaunchParameters_congr {taskID : String}
    (hsnap : db'.snapshots.lookup taskID = db.snapshots.lookup taskID)
    (hrefs : ∀ key, db'.secretRefs.lookup (taskID, key) = db.secretRefs.lookup (taskID, key)) :
    hasLaunchParameters db' taskID = hasLaunchParameters db taskID := by
  have hany : ∀ refs : Table secretRefSchema, refs.rows.any (fun r => r.taskID = taskID) = true ↔
      ∃ key, (refs.lookup (taskID, key)).isSome = true := by
    intro refs
    rw [List.any_eq_true]
    constructor
    · intro h
      obtain ⟨r, hr, hid⟩ := h
      refine ⟨r.key, ?_⟩
      have hlook : refs.lookup (r.taskID, r.key) = some r := Table.lookup_key hr
      rw [← of_decide_eq_true hid, hlook]
      rfl
    · intro h
      obtain ⟨key, hkey⟩ := h
      obtain ⟨r, hr⟩ := Option.isSome_iff_exists.mp hkey
      have hkeys : (r.taskID, r.key) = (taskID, key) := Table.key_of_lookup hr
      exact ⟨r, Table.mem_of_lookup hr, decide_eq_true (Prod.mk.inj hkeys).1⟩
  have hsame : db'.secretRefs.rows.any (fun r => r.taskID = taskID) =
      db.secretRefs.rows.any (fun r => r.taskID = taskID) := by
    rw [Bool.eq_iff_iff, hany, hany]
    simp only [hrefs]
  unfold hasLaunchParameters
  rw [hsnap, hsame]

variable {entry : TaskListEntry} {response : ClaimResponse} {req : ClaimRequest}
  {identity : ExecutorIdentity}

/-- The token of a claimed task depends on its frozen rows and its claim time only. -/
theorem claimScopeToken_congr {env' : CallEnv} {entry' : TaskListEntry}
    (hsnap : db'.snapshots.lookup entry.taskID = db.snapshots.lookup entry.taskID) (hrefs : ∀ key,
      db'.secretRefs.lookup (entry.taskID, key) = db.secretRefs.lookup (entry.taskID, key))
    (hentry : entry' = { entry with currentState  := entry'.currentState })
    (hclaimed : entry.claimedAt.isSome = true) :
    claimScopeToken cfg env' db' entry' = claimScopeToken cfg env db entry := by
  have hissued : scopeTokenIssuedAt env' entry.claimedAt = scopeTokenIssuedAt env entry.claimedAt := by
    obtain ⟨text, htext⟩ := Option.isSome_iff_exists.mp hclaimed
    rw [htext]
    rfl
  rw [hentry]
  simp only [claimScopeToken, issueScopeToken, hasLaunchParameters_congr hsnap hrefs, hsnap,
    hissued]

/-- The projection of a later version of a claimed task differs in its state only. -/
theorem scanTaskRow_follows {t t' : TaskRow} (hfollows : t.Follows t')
    (hclaimed : t.currentState ≠ .pending) (hscan : scanTaskRow t = .ok entry) :
    scanTaskRow t' = .ok { entry with currentState := t'.currentState } := by
  have hrow : t' = { t with currentState := t'.currentState } := by
    have hing := hfollows.ingestion
    have hclaim := (hfollows.claimed hclaimed).2
    cases t
    cases t'
    simp only [TaskRow.ingestion, TaskRow.mk.injEq] at hing
    simp only [TaskRow.claim, TaskClaim.mk.injEq] at hclaim
    simp only [TaskRow.mk.injEq]
    simp only [hing, hclaim, and_self]
  rw [hrow]
  unfold scanTaskRow at hscan ⊢
  cases himage : decodeNullableImage "decode task image" t.image with
  | error e => simp [himage, bind, Except.bind] at hscan
  | ok image =>
    cases hresolved : decodeNullableImage "decode task resolved_image" t.resolvedImage with
    | error e => simp [himage, hresolved, bind, Except.bind] at hscan
    | ok resolved =>
      simp only [himage, hresolved, bind, Except.bind, pure, Except.pure, Except.ok.injEq]
        at hscan ⊢
      subst hscan
      rfl

/-- The response as it would read with another task state. -/
def ClaimResponse.withState (response : ClaimResponse) (state : TaskState) : ClaimResponse :=
  { response with task := { response.task with currentState := state } }

/-- The response about a claimed task is the same in every later state, up to the
    state of the task. -/
theorem buildClaimResponse_later {env' : CallEnv} {taskID : String}
    {t t' : TaskRow} (hbuild : buildClaimResponseForRow cfg env taskID db = .ok (response, db))
    (ht : db.tasks.lookup taskID = some t) (hclaimed : t.currentState ≠ .pending)
    (hlater : db.Evolves db') (ht' : db'.tasks.lookup taskID = some t') (hfollows : t.Follows t') :
    buildClaimResponseForRow cfg env' taskID db' =
      .ok (response.withState t'.currentState, db') := by
  obtain ⟨⟨t₀, entry, token, ht₀, hscan, htoken, rfl⟩, -⟩ :=
    buildClaimResponseForRow_eq_ok.mp hbuild
  cases Option.some.inj (ht.symm.trans ht₀)
  obtain ⟨hid, -, -, -, -, hclaimedAt, -⟩ := scanTaskRow_eq_ok hscan
  have hkey : t.taskID = taskID := Table.key_of_lookup ht
  obtain ⟨hsnap, hrefs⟩ := hlater.frozen taskID t ht hclaimed
  -- A claimed task has a claim time, so the clock of the second call plays no part.
  have hsome : entry.claimedAt.isSome = true := by
    have hcheck := db.tasks.checked t (Table.mem_of_lookup ht)
    simp only [taskSchema, TaskRow.claimColumns, hclaimed, if_false, Bool.and_eq_true] at hcheck
    rw [hclaimedAt, Option.isSome_map]
    exact hcheck.2.2
  refine buildClaimResponseForRow_eq_ok.mpr ⟨⟨t', { entry with currentState := t'.currentState },
    token, ht', scanTaskRow_follows hfollows hclaimed hscan, ?_, rfl⟩, rfl⟩
  rw [← htoken]
  refine claimScopeToken_congr ?_ ?_ rfl hsome
  · rw [hid, hkey]
    exact hsnap
  · rw [hid, hkey]
    exact hrefs

/-! ## Section 2: Repeating the call -/

/-- The executor is still registered for the tag of the task. -/
def StillTagged (db : Db) (executorID taskID : String) : Prop :=
  ∃ executor task, db.executors.lookup executorID = some executor ∧
    db.tasks.lookup taskID = some task ∧ executor.authorizedTag = task.requiredTag

instance (db : Db) (executorID taskID : String) : Decidable (StillTagged db executorID taskID) :=
  decidable_of_iff ((db.executors.lookup executorID).any (fun executor =>
    (db.tasks.lookup taskID).any (fun task => executor.authorizedTag = task.requiredTag)) = true)
    (by simp [StillTagged, Option.any_eq_true])

theorem claimed_row {executorID : String} {db₁ : Db}
    (hclaim : claimTask cfg env req executorID identity db = .ok (response, db₁)) :
    ∃ executor task t₁, MayClaim db req executorID identity executor task ∧ db.Evolves db₁ ∧
      buildClaimResponseForRow cfg env req.taskID db₁ = .ok (response, db₁) ∧
      db₁.tasks.lookup req.taskID = some t₁ ∧ t₁.currentState ≠ .pending ∧
      t₁.ownerCommandID = some req.commandID ∧ t₁.executorID = some executorID := by
  obtain ⟨executor, task, hmay, hbuild, ⟨hstate, howner, hexec, rfl⟩ | hfresh⟩ :=
    claimTask_ok hclaim
  · exact ⟨executor, task, task, hmay, .refl _, hbuild, hmay.found, hstate, howner, hexec⟩
  · have heffect : Effect cfg ⟨env, .claimTask req executorID identity⟩ db db₁ :=
      .claimTask rfl hmay hfresh
    have hevolves := heffect.evolves
    obtain ⟨_, source, image, _, _, tasks, _, -, -, -, htasks, -, rfl⟩ := hfresh.effect
    refine ⟨executor, task, task.assign env req executorID image source, hmay, hevolves, hbuild,
      ?_, TaskState.noConfusion, rfl, rfl⟩
    show tasks.lookup req.taskID = _
    rw [Table.lookup_update htasks, if_pos rfl, hmay.found]
    rfl

/-- Who saw the task at the claim sees every later version of it. -/
theorem MayClaim.later {executorID : String} {executor : ExecutorRow} {task : TaskRow}
    (h : MayClaim db req executorID identity executor task) (hlater : db.Evolves db')
    (requestID : String) (htagged : StillTagged db' executorID req.taskID) :
    ∃ executor' task',
      MayClaim db' req executorID { identity with requestID } executor' task' := by
  obtain ⟨executor', task', hexecutor', htask', htag⟩ := htagged
  obtain ⟨_, he, hsame⟩ := hlater.executors _ _ h.registered
  cases Option.some.inj (hexecutor'.symm.trans he)
  obtain ⟨_, ht, hfollows⟩ := hlater.tasks _ _ h.found
  cases Option.some.inj (htask'.symm.trans ht)
  obtain ⟨team, hteam⟩ := Option.isSome_iff_exists.mp h.team
  obtain ⟨team', hteam', -⟩ := hlater.teams _ _ hteam
  obtain ⟨hid, hscope, hbound⟩ := h.authentic
  refine ⟨executor', task', hexecutor', ⟨hid, hscope.trans hsame.1.symm, hbound.trans hsame.2.symm⟩,
    htask', ?_, htag, ?_⟩
  · have hvisible := h.visible
    simp only [ExecutorRow.sees, hsame.1, hsame.2, hfollows.teamID] at hvisible ⊢
    exact hvisible
  · rw [hfollows.teamID, hteam']
    rfl

/-- After a successful claim and any further calls, the same command of the same
    executor returns the same response, up to the state of the task, and changes
    nothing, exactly when the executor is still registered for the task's tag. -/
theorem claim_retry_stable_iff {cfg : Config} {env env' : CallEnv} {req : ClaimRequest}
    {executorID : String} {identity : ExecutorIdentity} {db db₁ db₂ : Db}
    {response : ClaimResponse} {calls : List Call} (requestID : String)
    (hclaim : claimTask cfg env req executorID identity db = .ok (response, db₁))
    (hrun : (registry cfg).Run db₁ calls db₂) :
    (∃ state, claimTask cfg env' req executorID { identity with requestID } db₂ =
      .ok (response.withState state, db₂)) ↔ StillTagged db₂ executorID req.taskID := by
  obtain ⟨executor, task, t₁, hmay, hevolves, hbuild, ht₁, hstate, howner, hexec⟩ :=
    claimed_row hclaim
  have hlater := run_evolves hrun
  constructor
  · intro h
    obtain ⟨state, hagain⟩ := h
    obtain ⟨executor', task', hmay', -⟩ := claimTask_ok hagain
    exact ⟨executor', task', hmay'.registered, hmay'.found, hmay'.tagged⟩
  · intro htagged
    obtain ⟨executor', task', hmay'⟩ := hmay.later (hevolves.trans hlater) requestID htagged
    obtain ⟨_, ht₂, hfollows⟩ := hlater.tasks _ _ ht₁
    cases Option.some.inj (hmay'.found.symm.trans ht₂)
    obtain ⟨hstate', hsame⟩ := hfollows.claimed hstate
    have howner' : task'.ownerCommandID = some req.commandID :=
      (congrArg TaskClaim.ownerCommandID hsame :).trans howner
    have hexec' : task'.executorID = some executorID :=
      (congrArg TaskClaim.executorID hsame :).trans hexec
    refine ⟨task'.currentState, ?_⟩
    rw [claimTask_of_claimed hmay' hstate' howner' hexec']
    exact buildClaimResponse_later hbuild ht₁ hstate hlater ht₂ hfollows

/-- The sample claim, repeated after the task ran and its team was archived. -/
theorem claim_retry_stable_sample :
    ∃ response db₁ state,
      claimTask sampleConfig (sampleEnv "claim" 6) ⟨"task", "command"⟩ "exec" sampleIdentity
        (serve sampleConfig .empty (sampleSetup ++ [sampleIngest "task" "1" 5])) =
        .ok (response, db₁) ∧
      claimTask sampleConfig (sampleEnv "again" 9) ⟨"task", "command"⟩ "exec" sampleIdentity
        (serve sampleConfig db₁
          [sampleAppend 7 (sampleEvent "e1" "task" "running" "1970-01-01T00:00:07Z"),
            ⟨sampleEnv "archive" 8, .archiveTeam "team" ⟨"admin", "request"⟩⟩]) =
        .ok (response.withState state, serve sampleConfig db₁
          [sampleAppend 7 (sampleEvent "e1" "task" "running" "1970-01-01T00:00:07Z"),
            ⟨sampleEnv "archive" 8, .archiveTeam "team" ⟨"admin", "request"⟩⟩]) := by
  have hok : (claimTask sampleConfig (sampleEnv "claim" 6) ⟨"task", "command"⟩ "exec"
      sampleIdentity).errorOf
      (serve sampleConfig .empty (sampleSetup ++ [sampleIngest "task" "1" 5])) = none := by
    decide +kernel
  obtain ⟨response, hclaim⟩ := Tx.errorOf_eq_none.mp hok
  have htagged : StillTagged (serve sampleConfig
      ((claimTask sampleConfig (sampleEnv "claim" 6) ⟨"task", "command"⟩ "exec"
        sampleIdentity).commit
        (serve sampleConfig .empty (sampleSetup ++ [sampleIngest "task" "1" 5])))
      [sampleAppend 7 (sampleEvent "e1" "task" "running" "1970-01-01T00:00:07Z"),
        ⟨sampleEnv "archive" 8, .archiveTeam "team" ⟨"admin", "request"⟩⟩]) "exec" "task" := by
    decide +kernel
  obtain ⟨state, hagain⟩ :=
    (claim_retry_stable_iff "request" hclaim (run_iff_serve.mpr rfl)).mpr htagged
  exact ⟨response, _, state, hclaim, hagain⟩

/-- The executor registers again with another tag; its own claim is then unknown to
    it. -/
theorem claim_retry_lost_after_registration :
    ∃ response db₁,
      claimTask sampleConfig (sampleEnv "claim" 6) ⟨"task", "command"⟩ "exec" sampleIdentity
        (serve sampleConfig .empty (sampleSetup ++ [sampleIngest "task" "1" 5])) =
        .ok (response, db₁) ∧
      claimTask sampleConfig (sampleEnv "again" 8) ⟨"task", "command"⟩ "exec" sampleIdentity
        (serve sampleConfig db₁ [⟨sampleEnv "exec" 7,
          .registerExecutor "exec" (sampleRegistration "other") sampleIdentity⟩]) =
        .error .taskNotFound := by
  refine Tx.exists_ok (by decide +kernel) (fun _ _ => Tx.errorOf_eq_some.mp ?_)
  decide +kernel

end FlowAI.Registry
