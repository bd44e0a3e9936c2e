import FlowAI.Registry.AssignedControls

/-! # Who the Headers Say the Executor Is

  Two functions of `httpapi` read the identity of an executor from the same request headers:
  `resolveExecutorIdentity` for registration and claims, `taskEventExecutorIdentity` for
  everything it does with a claimed task.  The first falls back on the path and guesses the
  scope from the team; the second takes the headers as they are.
-/

namespace FlowAI.Registry

/-! ## Section 1: The two resolvers -/

/-- The headers both resolvers read; an absent one is empty. -/
structure ExecutorHeaders where
  /-- `X-FlowAI-Role` -/
  role : String
  /-- `X-FlowAI-Executor-Id` -/
  executorID : String
  /-- `X-FlowAI-Team-Id` -/
  teamID : String

def executorTeamRole : String := "team-executor"
def executorSysRole : String := "system-executor"

/-- Without an identity the answer is 404 `executor_unknown`; the request id stays unset. -/
def resolveExecutorIdentity (headers : ExecutorHeaders) (pathExecutorID : String) :
    Option ExecutorIdentity :=
  let headerExecutorID := if headers.executorID = "" then pathExecutorID else headers.executorID
  let teamID := trimSpace headers.teamID
  let system : ExecutorIdentity := ⟨headerExecutorID, .system, none, ""⟩
  let team : ExecutorIdentity := ⟨headerExecutorID, .team, some teamID, ""⟩
  if headerExecutorID ≠ pathExecutorID then none
  else if headers.role = executorTeamRole ∧ teamID ≠ "" then some team
  else if headers.role = executorTeamRole then some system
  else if headers.role = executorSysRole then some system
  else if teamID ≠ "" then some team
  else some system

def taskEventExecutorIdentity (headers : ExecutorHeaders) (requestID : String) :
    ExecutorIdentity :=
  if headers.role = executorTeamRole then
    ⟨headers.executorID, .team, some (trimSpace headers.teamID), requestID⟩
  else ⟨headers.executorID, .system, none, requestID⟩

/-- The headers leave nothing to guess: they name the executor of the path, the role of a team
    executor comes with its team, and a team comes with one of the two roles. -/
structure ExecutorHeaders.Explicit (headers : ExecutorHeaders) (pathExecutorID : String) :
    Prop where
  named : headers.executorID = pathExecutorID
  team : headers.role = executorTeamRole → trimSpace headers.teamID ≠ ""
  role : trimSpace headers.teamID ≠ "" → headers.role = executorTeamRole ∨
    headers.role = executorSysRole

section Resolvers

variable {headers : ExecutorHeaders} {pathExecutorID : String} {identity : ExecutorIdentity}

/-- A claim is made for the team of the headers, unless they say the executor is a system one. -/
theorem resolveExecutorIdentity_eq
    (h : resolveExecutorIdentity headers pathExecutorID = some identity) :
    identity = if trimSpace headers.teamID ≠ "" ∧ headers.role ≠ executorSysRole
      then ⟨pathExecutorID, .team, some (trimSpace headers.teamID), ""⟩
      else ⟨pathExecutorID, .system, none, ""⟩ := by
  have hroles : executorTeamRole ≠ executorSysRole := by decide
  simp only [resolveExecutorIdentity] at h
  generalize (if headers.executorID = "" then pathExecutorID else headers.executorID) = id at h
  split_ifs at h <;> grind

theorem resolveExecutorIdentity_system
    (h : resolveExecutorIdentity headers pathExecutorID = some identity) :
    identity.scope = .system → identity.teamID = none := by
  rw [resolveExecutorIdentity_eq h]
  split_ifs
  · intro hscope
    cases hscope
  · intro _
    rfl

theorem taskEventExecutorIdentity_system (requestID : String) :
    (taskEventExecutorIdentity headers requestID).scope = .system →
      (taskEventExecutorIdentity headers requestID).teamID = none := by
  unfold taskEventExecutorIdentity
  split_ifs
  · intro h
    cases h
  · intro _
    rfl

@[simp]
theorem taskEventExecutorIdentity_requestID (requestID : String) :
    (taskEventExecutorIdentity headers requestID).requestID = requestID := by
  unfold taskEventExecutorIdentity
  split_ifs <;> rfl

theorem same_identity_iff (requestID : String)
    (h : resolveExecutorIdentity headers pathExecutorID = some identity) :
    taskEventExecutorIdentity headers requestID = { identity with requestID } ↔
      headers.Explicit pathExecutorID := by
  have hroles : executorTeamRole ≠ executorSysRole := by decide
  rw [resolveExecutorIdentity_eq h, taskEventExecutorIdentity]
  constructor
  · intro hsame
    refine ⟨?_, ?_, ?_⟩ <;> grind
  · intro hexplicit
    obtain ⟨hnamed, hteam, hrole⟩ := hexplicit
    grind

end Resolvers

/-! ## Section 2: The checks of a claimed task -/

/-- The caller passes the executor checks the four operations make for the task. -/
structure Recognised (db : Db) (taskID : String) (identity : ExecutorIdentity) : Prop where
  event : ∀ req : TaskEventAppendRequest, req.taskID = taskID → InTeam db taskID req.teamID →
    ∃ task, authorizeTaskEvent req identity db = .ok (task, db)
  log : ∀ task, db.tasks.lookup taskID = some task →
    task.currentState = .created ∨ task.currentState = .running → MayLog db taskID identity task
  control : ∀ controlID control task,
    lockTaskControl taskID controlID db = .ok ((control, task), db) →
      MayReport db taskID controlID identity control task
  listed : ∃ controls, listAssignedTaskControls db taskID identity = .ok controls

/-- The identity a claim was made under, as the rows of executor and task have it. -/
structure HoldsClaim (db : Db) (taskID : String) (identity : ExecutorIdentity)
    (executor : ExecutorRow) (task : TaskRow) : Prop where
  registered : db.executors.lookup identity.executorID = some executor
  scope : identity.scope = executor.scope
  team : identity.teamID = executor.teamID
  found : db.tasks.lookup taskID = some task
  assigned : task.executorID = some identity.executorID
  visible : executor.scope = .team → executor.teamID = some task.teamID

section Claimed

variable {cfg : Config} {env : CallEnv} {req : ClaimRequest} {executorID taskID : String}
  {identity : ExecutorIdentity} {db db' : Db} {executor : ExecutorRow} {task : TaskRow}

theorem holdsClaim_of_claimTask {response : ClaimResponse}
    (h : claimTask cfg env req executorID identity db = .ok (response, db')) :
    ∃ executor task, HoldsClaim db' req.taskID identity executor task := by
  obtain ⟨executor, task, hmay, -, hcases⟩ := claimTask_ok h
  obtain ⟨rfl, hscope, hteam⟩ := hmay.authentic
  have hvisible : executor.scope = .team → executor.teamID = some task.teamID := by
    intro hs
    have hsees := hmay.visible
    simp only [ExecutorRow.sees, hs, Bool.and_eq_true, decide_eq_true_eq] at hsees
    cases hteam : executor.teamID <;> simp_all
  rcases hcases with ⟨-, -, hassigned, rfl⟩ | hfresh
  · exact ⟨executor, task, hmay.registered, hscope, hteam, hmay.found, hassigned, hvisible⟩
  · obtain ⟨_, _, _, _, _, tasks, _, -, -, -, hupd, -, rfl⟩ := hfresh.effect
    have hfound := Table.lookup_update hupd req.taskID
    rw [if_pos rfl, hmay.found, Option.map_some] at hfound
    exact ⟨executor, _, hmay.registered, hscope, hteam, hfound, rfl, hvisible⟩

theorem HoldsClaim.later (h : HoldsClaim db taskID identity executor task)
    (hlater : db.Evolves db') : ∃ executor task, HoldsClaim db' taskID identity executor task := by
  obtain ⟨executor', hreg, hscope, hteam⟩ := hlater.executors _ _ h.registered
  obtain ⟨task', hfound, hfollows⟩ := hlater.tasks _ _ h.found
  have hclaim := (hfollows.claimed (ne_pending_of_executorID h.found h.assigned)).2
  refine ⟨executor', task', hreg, h.scope.trans hscope.symm, h.team.trans hteam.symm, hfound,
    (congrArg TaskClaim.executorID hclaim).trans h.assigned, ?_⟩
  rw [hscope, hteam, hfollows.teamID]
  exact h.visible

/-- Who holds the claim is recognised, and nobody else is. -/
theorem HoldsClaim.recognised_iff (h : HoldsClaim db taskID identity executor task)
    (hsystem : identity.scope = .system → identity.teamID = none) {caller : ExecutorIdentity}
    (hcaller : caller.scope = .system → caller.teamID = none) :
    Recognised db taskID caller ↔ caller = { identity with requestID := caller.requestID } := by
  obtain ⟨hreg, hscope, hteam, hfound, hassigned, hvisible⟩ := h
  constructor
  · intro hrec
    -- the listing alone checks executor, scope and team
    obtain ⟨controls, hlisted⟩ := hrec.listed
    obtain ⟨_, hfound', hcaller', -⟩ := listAssignedTaskControls_ok hlisted
    rw [hfound, Option.some.injEq] at hfound'
    subst hfound'
    rw [hassigned, Option.some.injEq] at hcaller'
    simp only [listAssignedTaskControls, hfound, ← hcaller', hreg] at hlisted
    split_ifs at hlisted with hscope' hteam'
    have hteams : caller.teamID = identity.teamID := by
      cases hs : executor.scope with
      | team =>
        by_contra hne
        exact hteam' ⟨hs, .inr (.inr (hteam ▸ hne))⟩
      | system => rw [hcaller ((not_not.mp hscope').symm.trans hs), hsystem (hscope.trans hs)]
    rw [hcaller', hscope, not_not.mp hscope', ← hteams]
  · intro heq
    rw [heq]
    clear heq
    have hmatches : executorIdentityMatches db task.teamID
        { identity with requestID := caller.requestID } = true := by
      simp only [executorIdentityMatches, hreg]
      cases hs : executor.scope <;> simp_all
    refine ⟨?_, ?_, ?_, ?_⟩
    · rintro req rfl ⟨task', hfound', henvelope⟩
      cases hfound.symm.trans hfound'
      exact ⟨task, authorizeTaskEvent_eq_ok.mpr ⟨⟨hfound, hassigned, henvelope.symm, executor, hreg,
        hscope, fun hs => ⟨hvisible hs, hteam⟩⟩, rfl⟩⟩
    · intro task' hfound' hopen
      cases hfound.symm.trans hfound'
      exact ⟨hfound, hassigned, hmatches, hopen⟩
    · intro controlID control task' hlocked
      obtain ⟨⟨hcontrol, hof, hfound', hteam'⟩, -⟩ := lockTaskControl_eq_ok.mp hlocked
      cases hfound.symm.trans hfound'
      exact ⟨hcontrol, hof, hfound, hteam', hassigned, hteam' ▸ hmatches⟩
    · refine ⟨pendingControls db task.teamID taskID, ?_⟩
      simp only [listAssignedTaskControls, hfound, hreg]
      grind

end Claimed

/-! ## Section 3: Claims and reports under the same headers -/

/-- An executor that claimed a task is recognised in its reports from then on exactly if its
    headers leave nothing to guess. -/
theorem claimant_recognised_iff {cfg : Config} {env : CallEnv} {req : ClaimRequest}
    {headers : ExecutorHeaders} {pathExecutorID requestID : String} {identity : ExecutorIdentity}
    {db db₁ db' : Db} {response : ClaimResponse} {calls : List Call}
    (hresolve : resolveExecutorIdentity headers pathExecutorID = some identity)
    (hclaim : claimTask cfg env req pathExecutorID identity db = .ok (response, db₁))
    (hrun : (registry cfg).Run db₁ calls db') :
    Recognised db' req.taskID (taskEventExecutorIdentity headers requestID) ↔
      headers.Explicit pathExecutorID := by
  obtain ⟨_, _, hholds⟩ := holdsClaim_of_claimTask hclaim
  obtain ⟨_, _, hholds'⟩ := hholds.later (run_evolves hrun)
  rw [hholds'.recognised_iff (resolveExecutorIdentity_system hresolve)
    (taskEventExecutorIdentity_system requestID), taskEventExecutorIdentity_requestID]
  exact same_identity_iff requestID hresolve

/-- The headers of the sample executor, with or without its name. -/
def sampleHeaders (executorID : String) : ExecutorHeaders := ⟨executorSysRole, executorID, ""⟩

/-- Team, executor and a task to claim. -/
def sampleClaimable : Db := serve sampleConfig .empty (sampleSetup ++ [sampleIngest "task" "1" 5])

/-- Another task is submitted between the claim and the report. -/
theorem claimant_recognised_sample :
    ∃ response db', claimTask sampleConfig (sampleEnv "claim" 6) ⟨"task", "command"⟩ "exec"
      ⟨"exec", .system, none, ""⟩ sampleClaimable = .ok (response, db') ∧
      Recognised (serve sampleConfig db' [sampleIngest "other" "2" 7]) "task"
        (taskEventExecutorIdentity (sampleHeaders "exec") "request") := by
  have hresolve : resolveExecutorIdentity (sampleHeaders "exec") "exec" =
      some ⟨"exec", .system, none, ""⟩ := by decide
  refine Tx.exists_ok (by decide +kernel) (fun response hclaim => ?_)
  exact (claimant_recognised_iff hresolve hclaim (run_iff_serve.mpr rfl)).mpr
    ⟨rfl, by decide, by decide⟩

/-- Without `X-FlowAI-Executor-Id` the executor registers and claims under the name of the path,
    and none of its reports is accepted. -/
theorem claimant_not_recognised :
    ∃ identity response db', resolveExecutorIdentity (sampleHeaders "") "exec" = some identity ∧
      claimTask sampleConfig (sampleEnv "claim" 6) ⟨"task", "command"⟩ "exec" identity
        sampleClaimable = .ok (response, db') ∧
      ¬ Recognised db' "task" (taskEventExecutorIdentity (sampleHeaders "") "request") := by
  obtain ⟨response, hclaim⟩ := Tx.errorOf_eq_none.mp (show Tx.errorOf (claimTask sampleConfig
    (sampleEnv "claim" 6) ⟨"task", "command"⟩ "exec" ⟨"exec", .system, none, ""⟩) sampleClaimable =
      none by decide +kernel)
  obtain ⟨_, _, hholds⟩ := holdsClaim_of_claimTask hclaim
  have hresolve : resolveExecutorIdentity (sampleHeaders "") "exec" =
      some ⟨"exec", .system, none, ""⟩ := by decide
  refine ⟨_, response, _, hresolve, hclaim, ?_⟩
  rw [hholds.recognised_iff (resolveExecutorIdentity_system hresolve)
    (taskEventExecutorIdentity_system "request")]
  decide

end FlowAI.Registry
