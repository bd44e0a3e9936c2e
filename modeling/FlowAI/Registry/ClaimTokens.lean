import FlowAI.Registry.ScopeTokenTrust
import FlowAI.Registry.Assignment

/-! # The Scope Token of a Claim Response

  A claim that reports launch parameters carries the token to open them with, and so does
  every repetition of the claim.  The token of a repetition is minted from the time of the
  *first* claim, while `OpenEnvironment` compares with its own clock: a repetition later
  than the lifetime of a token answers with a token that has already expired.
-/

namespace FlowAI.Registry

/-! ## Section 1: Authorisation -/

/-- `OpenEnvironment` up to the point where it reads the values: the token is valid and
    names the call, and the task is live, held by the caller and in the caller's scope. -/
def Authorised (cfg : Config) (env : CallEnv) (req : OpenEnvironmentRequest) (db : Db) : Prop :=
  ∃ claims task snapshot, verifyScopeToken cfg env req.token = some claims ∧
    claims.namesCall req = true ∧ db.tasks.lookup req.taskID = some task ∧
    db.snapshots.lookup req.taskID = some snapshot ∧ snapshot.teamID = task.teamID ∧
    mayOpen claims req.identity task = true

/-! ## Section 2: What a claim answers -/

/-- The task behind a claim response with launch parameters, and its token. -/
structure Tokened (hmac : ScopeTokenHMAC) (k : ScopeTokenKeyring) (req : ClaimRequest)
    (executorID : String) (db : Db) (task : TaskRow) (claimedAt : Int) (token : String) : Prop where
  found : db.tasks.lookup req.taskID = some task
  held : task.executorID = some executorID
  claimed : task.claimedAt = some claimedAt
  frozen : ∃ snapshot, db.snapshots.lookup req.taskID = some snapshot ∧
    snapshot.teamID = task.teamID
  token : token = k.sign hmac (scopeTokenClaims (k.tokenKeyring hmac) task.teamID req.taskID
    executorID (Time.ofMicros claimedAt))
  readable : Time.startOfYears ≤ Time.ofMicros claimedAt ∧ Time.ofMicros claimedAt < Time.endOfYears

section

variable {hmac : ScopeTokenHMAC} {k : ScopeTokenKeyring} {cfg : Config} {env : CallEnv}
  {req : ClaimRequest} {executorID : String} {identity : ExecutorIdentity} {db db' : Db}
  {response : ClaimResponse}

/-- The token goes with a snapshot of the task's team. -/
theorem snapshot_of_issued {entry : TaskListEntry} {token : String}
    (h : issueScopeToken cfg env db entry = .ok (some token)) :
    ∃ snapshot, db.snapshots.lookup entry.taskID = some snapshot ∧
      snapshot.teamID = entry.teamID := by
  unfold issueScopeToken at h
  split at h
  · cases h
  · cases h
  · split at h
    · rename_i hcond
      obtain ⟨hany, -⟩ := Bool.and_eq_true_iff.mp hcond
      obtain ⟨snapshot, hsnap, hteam⟩ := (Option.any_eq_true _ _).mp hany
      exact ⟨snapshot, hsnap, of_decide_eq_true hteam⟩
    · cases h

/-- First claim or repetition: the response is about the stored task, and its token is minted
    from the time of the first claim. -/
theorem tokened_of_claim
    (h : claimTask (cfg.withScopeTokens hmac k) env req executorID identity db = .ok (response, db'))
    (hlaunch : response.launchParameters = true) :
    ∃ task claimedAt token, response.scopeToken = some token ∧
      response.task.teamID = task.teamID ∧
      Tokened hmac k req executorID db' task claimedAt token := by
  obtain ⟨assigned, hassigned, hheld⟩ := assigned_of_claim h
  obtain ⟨_, _, -, hbuild, -⟩ := claimTask_ok h
  obtain ⟨⟨task, entry, answer, htask, hscan, hanswer, rfl⟩, -⟩ :=
    buildClaimResponseForRow_eq_ok.mp hbuild
  obtain rfl := Option.some.inj (hassigned.symm.trans htask)
  obtain ⟨token, rfl⟩ := Option.isSome_iff_exists.mp hlaunch
  obtain ⟨hid, hteam, -, hexec, -, hwire, -⟩ := scanTaskRow_eq_ok hscan
  have hkey : assigned.taskID = req.taskID := Table.key_of_lookup htask
  -- a claimed task has the time of its claim
  have hstate := ne_pending_of_executorID htask hheld
  obtain ⟨claimedAt, hclaimed⟩ := Option.isSome_iff_exists.mp
    (claimColumns_of_claimed (Table.mem_of_lookup htask) hstate).2
  have hissue : issueScopeToken (cfg.withScopeTokens hmac k) env db' entry = .ok (some token) := by
    unfold claimScopeToken at hanswer
    split at hanswer
    · exact hanswer
    · cases hanswer
  obtain ⟨snapshot, hsnap, hsnapTeam⟩ := snapshot_of_issued hissue
  obtain ⟨executorID', issuedAt, hexec', hissued, htoken⟩ := issueScopeToken_eq_some hissue
  rw [hexec, hheld] at hexec'
  obtain rfl := Option.some.inj hexec'
  rw [hwire, hclaimed] at hissued
  obtain ⟨rfl, hrange⟩ := scopeTokenIssuedAt_claimed hissued
  rw [hid, hkey] at hsnap htoken
  rw [hteam] at hsnapTeam htoken
  exact ⟨assigned, claimedAt, token, rfl, hteam, ⟨htask, hheld, hclaimed, ⟨snapshot, hsnap,
    hsnapTeam⟩, htoken, hrange⟩⟩

/-- The claimant may open a live task of its own. -/
theorem mayOpen_of_claim
    (h : claimTask cfg env req executorID identity db = .ok (response, db')) {task : TaskRow}
    (htask : db'.tasks.lookup req.taskID = some task) (hheld : task.executorID = some executorID)
    (hlive : task.currentState = .created ∨ task.currentState = .running)
    {claims : ScopeTokenClaims} (hteam : claims.teamID = task.teamID)
    (hname : claims.executorID = executorID) : mayOpen claims identity task = true := by
  obtain ⟨executor, task₀, hmay, -, hcase⟩ := claimTask_ok h
  obtain ⟨hidentity, hscope, hbound⟩ := hmay.authentic
  have hsame : task.teamID = task₀.teamID := by
    rcases hcase with ⟨-, -, -, rfl⟩ | hfresh
    · rw [Option.some.inj (hmay.found.symm.trans htask)]
    · obtain ⟨_, source, image, _, _, tasks, _, -, -, -, htasks, -, rfl⟩ := hfresh.effect
      have hlook : tasks.lookup req.taskID = some task := htask
      rw [Table.lookup_update htasks, if_pos rfl, hmay.found] at hlook
      rw [← Option.some.inj hlook]
      rfl
  subst hidentity
  exact mayOpen_of_sees hmay.visible hscope hbound hsame hheld hlive hteam hname

/-- An expired token opens nothing. -/
theorem Tokened.denied {task : TaskRow} {claimedAt : Int} {token : String}
    (h : Tokened hmac k req executorID db task claimedAt token) {env' : CallEnv}
    (hlate : Time.ofMicros claimedAt + scopeTokenLifetime ≤ env'.now) (requestID : String) :
    ¬ Authorised (cfg.withScopeTokens hmac k) env' ⟨req.taskID, token, identity, requestID⟩ db := by
  rintro ⟨claims, _, _, hverify, -⟩
  have hverify' : verifyScopeToken (cfg.withScopeTokens hmac k) env' token = some claims := hverify
  rw [h.token] at hverify'
  obtain ⟨-, -, hadmissible⟩ := verifyScopeToken_sign hverify'
  have hfresh := admissible_fresh hadmissible
  omega

/-- **The token of a claim response, first or repeated, opens the launch parameters exactly
    while the clock is within the window of the first claim.** -/
theorem claim_token_opens_iff (haead : cfg.aead.isSome)
    (h : claimTask (cfg.withScopeTokens hmac k) env req executorID identity db = .ok (response, db'))
    (hlaunch : response.launchParameters = true)
    (hids : validIdentifier response.task.teamID = true ∧ validIdentifier req.taskID = true ∧
      validIdentifier executorID = true) :
    ∃ task claimedAt token, response.scopeToken = some token ∧
      db'.tasks.lookup req.taskID = some task ∧ task.claimedAt = some claimedAt ∧
      (task.currentState = .created ∨ task.currentState = .running →
        ∀ (env' : CallEnv) (requestID : String),
          Authorised (cfg.withScopeTokens hmac k) env' ⟨req.taskID, token, identity, requestID⟩ db' ↔
            Time.ofMicros claimedAt - scopeTokenSkew ≤ env'.now ∧
            env'.now < Time.ofMicros claimedAt + scopeTokenLifetime ∧
            Time.ofMicros claimedAt + scopeTokenLifetime < Time.endOfYears) := by
  obtain ⟨task, claimedAt, token, htoken, hteam, ht⟩ := tokened_of_claim h hlaunch
  refine ⟨task, claimedAt, token, htoken, ht.found, ht.claimed, ?_⟩
  intro hlive env' requestID
  rw [hteam] at hids
  obtain ⟨hteamID, hteamLen⟩ := validIdentifier_spec hids.1
  obtain ⟨htaskID, htaskLen⟩ := validIdentifier_spec hids.2.1
  obtain ⟨hexecID, hexecLen⟩ := validIdentifier_spec hids.2.2
  have hwindow := admissible_scopeTokenClaims (k.tokenKeyring hmac) hteamID htaskID hexecID
    (Time.ofMicros claimedAt) env'.now
  constructor
  · rintro ⟨claims, _, _, hverify, -⟩
    have hverify' : verifyScopeToken (cfg.withScopeTokens hmac k) env' token = some claims := hverify
    rw [ht.token] at hverify'
    obtain ⟨-, -, hadmissible⟩ := verifyScopeToken_sign hverify'
    obtain ⟨-, ⟨-, hend⟩, hlow, hhigh⟩ := hwindow.mp hadmissible
    exact ⟨hlow, hhigh, hend⟩
  · intro hcond
    obtain ⟨hlow, hhigh, hend⟩ := hcond
    have hexpiry : Time.startOfYears ≤ Time.ofMicros claimedAt + scopeTokenLifetime ∧
        Time.ofMicros claimedAt + scopeTokenLifetime < Time.endOfYears := by
      have hstart := ht.readable.1
      refine ⟨?_, hend⟩
      unfold scopeTokenLifetime
      omega
    have hadmissible := hwindow.mpr ⟨ht.readable, hexpiry, hlow, hhigh⟩
    have hbounded : (scopeTokenClaims (k.tokenKeyring hmac) task.teamID req.taskID executorID
        (Time.ofMicros claimedAt)).Bounded :=
      ⟨hteamLen, htaskLen, hexecLen, rfl, length_primary k,
        Time.length_formatRFC3339Nano ht.readable, Time.length_formatRFC3339Nano hexpiry⟩
    have hverify : verifyScopeToken (cfg.withScopeTokens hmac k) env' token =
        some (scopeTokenClaims (k.tokenKeyring hmac) task.teamID req.taskID executorID
          (Time.ofMicros claimedAt)) := by
      rw [ht.token]
      exact verifyScopeToken_of_signed k.lookup_primary haead rfl hbounded hadmissible
    obtain ⟨snapshot, hsnap, hsnapTeam⟩ := ht.frozen
    refine ⟨_, task, snapshot, hverify, ?_, ht.found, hsnap, hsnapTeam,
      mayOpen_of_claim h ht.found ht.held hlive rfl rfl⟩
    obtain ⟨_, _, hmayClaim, -⟩ := claimTask_ok h
    simp [ScopeTokenClaims.namesCall, scopeTokenClaims, hmayClaim.authentic.1]

end

/-! ### A deployment -/

def sampleTokenConfig : Config := sampleConfig.withScopeTokens zeroScopeHMAC sampleScopeKeyring

/-- The sample task with one launch parameter, claimed at the second 6. -/
def sampleTokenDb : Db :=
  serve sampleTokenConfig .empty (sampleSetup ++ [
    ⟨sampleEnv "params" 5, .createLaunchParameters ⟨"team", "operator", "request"⟩
      ⟨.team, none, "defaults", .ofList [("MODE", "fast")], none⟩⟩,
    sampleIngest "task" "1" 5, sampleClaim "task" 6])

/-- The claim repeated at the second 400: launch parameters once more. -/
theorem sampleToken_retry : ∃ response db',
    claimTask sampleTokenConfig (sampleEnv "again" 400) ⟨"task", "command"⟩ "exec" sampleIdentity
      sampleTokenDb = .ok (response, db') ∧
    response.launchParameters = true ∧ response.task.teamID = "team" ∧
    ∃ task, db'.tasks.lookup "task" = some task ∧ task.claimedAt = some 6000000 ∧
      task.currentState = .created :=
  Check.exists_ok_pair (by decide +kernel)

/-- The token of the claim repeated at the second 400 opens until the second 306. -/
theorem claim_token_opens_iff_sample : ∃ response db' token,
    claimTask sampleTokenConfig (sampleEnv "again" 400) ⟨"task", "command"⟩ "exec" sampleIdentity
      sampleTokenDb = .ok (response, db') ∧ response.scopeToken = some token ∧
    (Authorised sampleTokenConfig (sampleEnv "open" 300) ⟨"task", token, sampleIdentity, "request"⟩
        db' ↔
      Time.ofMicros 6000000 - scopeTokenSkew ≤ (sampleEnv "open" 300).now ∧
      (sampleEnv "open" 300).now < Time.ofMicros 6000000 + scopeTokenLifetime ∧
      Time.ofMicros 6000000 + scopeTokenLifetime < Time.endOfYears) := by
  obtain ⟨response, db', hclaim, hlaunch, hteam, task, htask, hclaimed, hstate⟩ := sampleToken_retry
  obtain ⟨task', claimedAt, token, htoken, htask', hclaimed', hopens⟩ :=
    claim_token_opens_iff rfl hclaim hlaunch (by rw [hteam]; decide +kernel)
  obtain rfl := Option.some.inj (htask.symm.trans htask')
  obtain rfl := Option.some.inj (hclaimed.symm.trans hclaimed')
  exact ⟨response, db', token, hclaim, htoken,
    hopens (.inl hstate) (sampleEnv "open" 300) "request"⟩

/-- The response of the second 400 carries a token that is refused at once. -/
theorem retry_token_refused : ∃ response db' token,
    claimTask sampleTokenConfig (sampleEnv "again" 400) ⟨"task", "command"⟩ "exec" sampleIdentity
      sampleTokenDb = .ok (response, db') ∧
    response.launchParameters = true ∧ response.scopeToken = some token ∧
    (∃ task, db'.tasks.lookup "task" = some task ∧ task.currentState = .created) ∧
    ¬ Authorised sampleTokenConfig (sampleEnv "open" 400)
      ⟨"task", token, sampleIdentity, "request"⟩ db' := by
  obtain ⟨response, db', hclaim, hlaunch, hteam, task, htask, hclaimed, hstate⟩ := sampleToken_retry
  obtain ⟨task', claimedAt, token, htoken, -, ht⟩ := tokened_of_claim hclaim hlaunch
  refine ⟨response, db', token, hclaim, hlaunch, htoken, ⟨task, htask, hstate⟩, ?_⟩
  apply ht.denied
  obtain rfl := Option.some.inj (htask.symm.trans ht.found)
  rw [← Option.some.inj (hclaimed.symm.trans ht.claimed)]
  decide

end FlowAI.Registry
