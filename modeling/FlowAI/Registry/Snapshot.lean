import FlowAI.Registry.Frozen
import FlowAI.Registry.Routes
import FlowAI.Registry.SecretVersions

/-! # Snapshot Isolation of Launch Parameters

  Whoever holds a task opens the environment its claim resolved: the ordinary
  values of that moment and, for each secret, the plaintext of the version that
  was latest then.  Later edits of definitions and secrets never reach it.
-/

namespace FlowAI.Registry

variable {aead : Aead} {teamID taskID : String} {cfg : Config} {env : CallEnv}
  {req : OpenEnvironmentRequest} {task : TaskRow}

/-! ## Section 1: Reading the frozen rows back -/

/-- Decryption inverts encryption under the same nonce and associated data. -/
structure Aead.Lawful (aead : Aead) : Prop where
  opens : ∀ nonce aad plaintext, aead.openText nonce aad (aead.sealText nonce aad plaintext).1
    (aead.sealText nonce aad plaintext).2 = some plaintext

/-- The associated data on the read side is rebuilt from the columns the write side
    filled from the same values. -/
theorem decrypt_encryptedVersion (hlaw : aead.Lawful) (env : CallEnv) (teamID secretID : String)
    (n : Nat) (plaintext : String) :
    (encryptedVersion aead env teamID secretID n plaintext).decrypt aead = some plaintext :=
  hlaw.opens _ _ _

variable {db : Db} {claims : ScopeTokenClaims}

theorem mem_openSecretRows {p : SecretRefRow × SecretVersionRow} :
    p ∈ openSecretRows db teamID taskID ↔
      db.secretRefs.lookup (taskID, p.1.key) = some p.1 ∧ p.1.teamID = teamID ∧
        db.secretVersions.lookup (p.1.secretID, p.1.version) = some p.2 := by
  obtain ⟨r, v⟩ := p
  have hrow : db.secretRefs.lookup (taskID, r.key) = some r ↔
      r ∈ db.secretRefs.rows ∧ r.taskID = taskID := by
    rw [Table.lookup_eq_some_iff]
    exact and_congr_right fun _ => by simp [secretRefSchema]
  simp only [openSecretRows, List.mem_filterMap, List.mem_insertionSort, List.mem_filter,
    Bool.and_eq_true, decide_eq_true_eq, Option.map_eq_some_iff, Prod.mk.injEq, hrow]
  constructor
  · rintro ⟨_, ⟨hr, hteam, htask⟩, _, hv, rfl, rfl⟩
    exact ⟨⟨hr, htask⟩, hteam, hv⟩
  · rintro ⟨⟨hr, htask⟩, hteam, hv⟩
    exact ⟨r, ⟨hr, hteam, htask⟩, v, hv, rfl, rfl⟩

/-- The decryption loop, when the row of each key decrypts to `plain key`. -/
theorem decryptAll_of {plain : String → String} {rows : List (SecretRefRow × SecretVersionRow)}
    (h : ∀ p ∈ rows, p.2.decrypt aead = some (plain p.1.key)) (values : StrMap String) :
    ∃ out, decryptAll aead rows values = some out ∧
      ∀ key, out.lookup key =
        if ∃ p ∈ rows, p.1.key = key then some (plain key) else values.lookup key := by
  induction rows generalizing values with
  | nil => exact ⟨values, rfl, by simp⟩
  | cons p rows ih =>
    obtain ⟨ref, version⟩ := p
    have hhead : version.decrypt aead = some (plain ref.key) := h _ List.mem_cons_self
    obtain ⟨out, hout, hlook⟩ := ih (fun p hp => h p (List.mem_cons_of_mem _ hp))
      (values.insert ref.key (plain ref.key))
    refine ⟨out, by simpa [decryptAll, openRows, hhead] using hout, ?_⟩
    intro key
    rw [hlook, StrMap.lookup_insert]
    by_cases hrest : ∃ p ∈ rows, p.1.key = key
    · obtain ⟨p, hp, hkey⟩ := hrest
      rw [if_pos ⟨p, hp, hkey⟩, if_pos ⟨p, List.mem_cons_of_mem _ hp, hkey⟩]
    · rw [if_neg hrest]
      by_cases hkey : ref.key = key
      · rw [if_pos hkey, if_pos ⟨_, List.mem_cons_self, hkey⟩, hkey]
      · rw [if_neg hkey, if_neg]
        rintro ⟨p, hp, hpk⟩
        rcases List.mem_cons.mp hp with rfl | hp
        · exact hkey hpk
        · exact hrest ⟨p, hp, hpk⟩

/-! ## Section 2: What a claim freezes -/

/-- The environment a resolution stands for, given the plaintext of each version. -/
def Resolution.environment (r : Resolution) (plaintext : VersionKey → Option String)
    (key : String) : Option String :=
  match r.secretRefs.lookup key with
  | some version => plaintext version
  | none => r.values.lookup key

/-- Resolution picks live secrets, under their names, at their latest version. -/
theorem resolved_secret {taskTypeID key : String} {k : VersionKey}
    (h : (resolveLaunchParameters db teamID taskTypeID).secretRefs.lookup key = some k) :
    ∃ s ∈ db.secrets.rows, s.revoked = false ∧ s.name = key ∧
      k = (s.secretID, s.latestVersion) := by
  refine resolveLaunchParameters_induct
    (P := fun r => ∀ key k, r.secretRefs.lookup key = some k → ∃ s ∈ db.secrets.rows,
      s.revoked = false ∧ s.name = key ∧ k = (s.secretID, s.latestVersion))
    teamID taskTypeID ?_ ?_ ?_ ?_ key k h
  · intro key k h
    cases h
  · intro r name value ih key k h
    simp only [Resolution.addValue, StrMap.lookup_erase] at h
    split at h
    · cases h
    · exact ih key k h
  · intro r s hs hlive ih key k h
    simp only [Resolution.addSecret, StrMap.lookup_insert] at h
    split at h
    · rename_i hname
      exact ⟨s, hs, hlive, hname, (Option.some.inj h).symm⟩
    · exact ih key k h
  · intro r d _ ih key k h
    have hrefs : (r.addImage d).secretRefs = r.secretRefs := by
      unfold Resolution.addImage
      split <;> rfl
    rw [hrefs] at h
    exact ih key k h

/-! ## Section 3: Opening -/

/-- The caller holds the live task, with its own identity, a valid token for both, past the
    handler of the route, and draws a new audit identifier. -/
structure HoldsTask (cfg : Config) (env : CallEnv) (req : OpenEnvironmentRequest)
    (task : TaskRow) (db : Db) : Prop where
  found : db.tasks.lookup req.taskID = some task
  held : task.executorID = some req.identity.executorID
  live : task.currentState = .created ∨ task.currentState = .running
  registered : ∃ executor, db.executors.lookup req.identity.executorID = some executor ∧
    req.identity.scope = executor.scope ∧ req.identity.teamID = executor.teamID
  token : ∃ claims, verifyScopeToken cfg env req.token = some claims ∧
    claims.teamID = task.teamID ∧ claims.taskID = req.taskID ∧
    claims.executorID = req.identity.executorID
  admitted : (Op.openEnvironment req).admitted = true
  auditID : db.auditEntries.lookup (env.uuid 0) = none

/-- `OpenEnvironment` forward: with snapshot, secrets and audit row in place it returns
    the decrypted map. -/
theorem openEnvironment_of {snapshot : SnapshotRow}
    {values : StrMap String} {auditEntries : Table auditSchema}
    (htoken : verifyScopeToken cfg env req.token = some claims) (haead : cfg.aead = some aead)
    (hcall : claims.namesCall req = true) (htask : db.tasks.lookup req.taskID = some task)
    (hsnap : db.snapshots.lookup req.taskID = some snapshot) (hteam : snapshot.teamID = task.teamID)
    (hmay : mayOpen claims req.identity task = true)
    (hvalues : decryptAll aead (openSecretRows db task.teamID req.taskID) snapshot.values =
      some values) (haudit : db.auditEntries.insert (openAudit env req task) = .ok auditEntries)
    (hfk : (db.teams.lookup task.teamID).isSome) :
    openEnvironment cfg env req db =
      .ok (⟨task.teamID, req.taskID, req.identity.executorID, values⟩, { db with auditEntries }) := by
  have hins : insertAudit "append environment open audit" (openAudit env req task) db =
      .ok ((), { db with auditEntries }) := by
    rw [insertAudit_eq_ok]
    refine ⟨auditEntries, haudit, ?_, rfl⟩
    intro team hteam
    obtain rfl := Option.some.inj hteam
    exact hfk
  have hfilter : (db.snapshots.lookup req.taskID).filter (fun s => s.teamID = task.teamID) =
      some snapshot := by
    rw [hsnap, Option.filter_some, decide_eq_true hteam, if_pos rfl]
  refine openEnvironment_eq_ok.mpr ⟨aead, task, snapshot, values, ?_, hvalues, hins, rfl⟩
  simp only [openChecks, htoken, haead, hcall, htask, hfilter, hmay, Option.bind_some, if_true]

/-- Every executor is registered under its own name. -/
theorem reachable_executor_identity (h : (registry cfg).Reachable db) :
    ∀ e ∈ db.executors.rows, e.identity = e.executorID := by
  refine h.invariant (P := fun db => ∀ e ∈ db.executors.rows, e.identity = e.executorID) ?_ ?_
  · intro db hinit e he
    cases hinit
    cases he
  · intro db call db' _ ih hstep
    cases step_effect hstep with
    | registerExecutor _ hwritten =>
      rcases hwritten with hupd | ⟨hins, -⟩
      · exact Table.forall_update ih hupd (fun _ _ _ => rfl)
      · exact Table.forall_insert ih hins rfl
    | appendExecutorEvent hmirror =>
      rcases hmirror with rfl | ⟨o, hupd⟩
      · exact ih
      · refine Table.forall_update ih hupd ?_
        intro e he _
        cases o <;> exact ih e he
    | claimTask _ _ hfresh =>
      obtain ⟨_, _, _, _, _, _, _, -, -, -, -, -, rfl⟩ := hfresh.effect
      exact ih
    | appendTaskEvent _ _ _ _ hfresh | appendTaskControlEvent _ _ _ hfresh =>
      obtain ⟨_, _, _, -, -, -, rfl⟩ := hfresh.effect
      exact ih
    | _ => exact ih

theorem openAudit_accepted (hreach : (registry cfg).Reachable db)
    (h : HoldsTask cfg env req task db) :
    ∃ auditEntries, db.auditEntries.insert (openAudit env req task) = .ok auditEntries := by
  obtain ⟨executor, hexec, -, -⟩ := h.registered
  have hmem := Table.mem_of_lookup hexec
  have hname : nonBlank req.identity.executorID = true := by
    have hchecked := db.executors.checked executor hmem
    have hid : executor.executorID = req.identity.executorID := Table.key_of_lookup hexec
    rw [← hid, ← reachable_executor_identity hreach executor hmem]
    simp only [executorSchema, Bool.and_eq_true] at hchecked
    exact hchecked.1.1.1.1.2
  have hadmitted := h.admitted
  simp only [Op.admitted, Bool.and_eq_true] at hadmitted
  obtain ⟨⟨⟨-, htaskID⟩, -⟩, hrequestID⟩ := hadmitted
  refine Table.insert_ok ?_ h.auditID (by simp [Schema.Clash, auditSchema])
  simp only [auditSchema, openAudit, hname, nonBlank_of_validPathID htaskID, hrequestID,
    Bool.and_true, Bool.true_and]
  decide

/-- A team executor that claimed the task is of its team, then and later. -/
theorem mayOpen_of_holds {task₀ : TaskRow} {executor₀ : ExecutorRow} {db₀ : Db}
    (h : HoldsTask cfg env req task db) (hevolves : db₀.Evolves db)
    (hexec : db₀.executors.lookup req.identity.executorID = some executor₀)
    (hsees : executor₀.sees task₀ = true) (hteam : task.teamID = task₀.teamID)
    (hclaims : claims.teamID = task.teamID) (hname : claims.executorID = req.identity.executorID) :
    mayOpen claims req.identity task = true := by
  obtain ⟨executor, hlook, hscope, hbound⟩ := h.registered
  obtain ⟨executor', hlook', hsame⟩ := hevolves.executors _ _ hexec
  rw [hlook] at hlook'
  obtain rfl := Option.some.inj hlook'
  rw [hsame.1] at hscope
  rw [hsame.2] at hbound
  exact mayOpen_of_sees hsees hscope hbound hteam h.held h.live hclaims hname

/-! ## Section 4: Snapshot isolation -/

/-- No version of the secret beyond this one has been written. -/
def IsLatest (writes : List (VersionKey × String)) (k : VersionKey) : Prop :=
  ∀ w ∈ writes, w.1.1 = k.1 → w.1.2 ≤ k.2

/-- A version that resolution picks: stored, the latest one written, and decrypting to
    the plaintext written under it. -/
theorem resolved_version (haead : cfg.aead = some aead) (hlaw : aead.Lawful) {calls : List Call}
    {taskTypeID key : String} {k : VersionKey}
    (h : (resolveLaunchParameters (serve cfg .empty calls) teamID taskTypeID).secretRefs.lookup key =
      some k) :
    ∃ version plaintext, (serve cfg .empty calls).secretVersions.lookup k = some version ∧
      version.decrypt aead = some plaintext ∧
      plaintextOf (secretWrites cfg .empty calls) k = some plaintext ∧
      IsLatest (secretWrites cfg .empty calls) k := by
  have hinv := serve_versionInvariant cfg calls
  obtain ⟨s, hs, -, -, rfl⟩ := resolved_secret h
  have hlook : (serve cfg .empty calls).secrets.lookup s.secretID = some s := Table.lookup_key hs
  obtain ⟨version, hversion⟩ := hinv.latest _ _ hlook
  obtain ⟨aead', env, team, plaintext, hkey, hrow, hplain⟩ := hinv.encrypted _ _ hversion
  rw [haead] at hkey
  obtain rfl := Option.some.inj hkey
  refine ⟨version, plaintext, hversion, ?_, hplain, ?_⟩
  · rw [hrow]
    exact decrypt_encryptedVersion hlaw _ _ _ _ _
  · intro w hw hid
    obtain ⟨v, hv⟩ := hinv.stored w hw
    obtain ⟨s', hs', hle⟩ := hinv.bounded _ _ hv
    rw [hid, hlook] at hs'
    exact Option.some.inj hs' ▸ hle

/-- What the claim of a task froze is what every later state holds for it. -/
structure FrozenAs (db : Db) (taskID teamID : String) (resolved : Resolution) : Prop where
  snapshot : db.snapshots.lookup taskID = some ⟨taskID, teamID, resolved.values⟩
  refs : ∀ key, db.secretRefs.lookup (taskID, key) = (resolved.secretRefs.lookup key).map
    (fun k => ⟨taskID, teamID, key, k.1, k.2⟩)

theorem FrozenAs.later {db' : Db} {resolved : Resolution}
    (h : FrozenAs db taskID teamID resolved) (hclaimed : IsClaimed db taskID)
    (hevolves : db.Evolves db') : FrozenAs db' taskID teamID resolved := by
  obtain ⟨t, ht, hstate⟩ := hclaimed
  obtain ⟨hsnap, hrefs⟩ := hevolves.frozen taskID t ht hstate
  exact ⟨hsnap.trans h.snapshot, fun key => (hrefs key).trans (h.refs key)⟩

theorem FreshClaim.frozenAs {req : ClaimRequest} {executorID : String} {identity : ExecutorIdentity}
    {executor : ExecutorRow} {db' : Db} (hmay : MayClaim db req executorID identity executor task)
    (h : FreshClaim cfg env req executorID executor task db db') (hfrozen : FrozenInvariant db) :
    FrozenAs db' req.taskID task.teamID
      (resolveLaunchParameters db task.teamID task.taskTypeID) ∧ IsClaimed db' req.taskID := by
  obtain ⟨hsnap, hrefs⟩ := hfrozen.of_pending hmay.found h.pending
  obtain ⟨_, source, image, snapshots, refs, tasks, _, hfreeze, -, -, htasks, -, rfl⟩ := h.effect
  obtain ⟨hsnap', hrefs'⟩ := hfreeze.of_pending hsnap hrefs
  refine ⟨⟨hsnap', hrefs'⟩, task.assign env req executorID image source, ?_,
    TaskState.noConfusion⟩
  show tasks.lookup req.taskID = _
  rw [Table.lookup_update htasks, if_pos rfl, hmay.found]
  rfl

/-- The frozen rows of a task, read back by the loop of `OpenEnvironment` once every
    referenced version decrypts to its plaintext. -/
theorem decryptAll_frozen {resolved : Resolution} {plaintext : VersionKey → Option String}
    (h : FrozenAs db taskID teamID resolved)
    (hversions : ∀ key k, resolved.secretRefs.lookup key = some k → ∃ version text,
      db.secretVersions.lookup k = some version ∧ version.decrypt aead = some text ∧
        plaintext k = some text) :
    ∃ values, decryptAll aead (openSecretRows db teamID taskID) resolved.values = some values ∧
      ∀ key, values.lookup key = resolved.environment plaintext key := by
  -- the plaintext a key stands for; keys that are no secret are never asked
  let plain : String → String := fun key =>
    ((resolved.secretRefs.lookup key).bind plaintext).getD ""
  have hrow : ∀ p ∈ openSecretRows db teamID taskID,
      resolved.secretRefs.lookup p.1.key = some (p.1.secretID, p.1.version) := by
    intro p hp
    obtain ⟨href, -, -⟩ := mem_openSecretRows.mp hp
    rw [h.refs] at href
    obtain ⟨k, hk, heq⟩ := Option.map_eq_some_iff.mp href
    rw [hk, ← heq]
  have hplain : ∀ p ∈ openSecretRows db teamID taskID,
      p.2.decrypt aead = some (plain p.1.key) := by
    intro p hp
    obtain ⟨-, -, hversion⟩ := mem_openSecretRows.mp hp
    obtain ⟨version, text, hlook, hdecrypt, htext⟩ := hversions _ _ (hrow p hp)
    rw [hversion] at hlook
    obtain rfl := Option.some.inj hlook
    rw [hdecrypt]
    simp [plain, hrow p hp, htext]
  obtain ⟨values, hvalues, hlook⟩ := decryptAll_of hplain resolved.values
  refine ⟨values, hvalues, ?_⟩
  intro key
  rw [hlook]
  cases hk : resolved.secretRefs.lookup key with
  | none =>
    rw [if_neg]
    · simp [Resolution.environment, hk]
    · rintro ⟨p, hp, hkey⟩
      have hsome := hrow p hp
      rw [hkey, hk] at hsome
      cases hsome
  | some k =>
    obtain ⟨version, text, hversion, -, htext⟩ := hversions key k hk
    have href : db.secretRefs.lookup (taskID, key) = some ⟨taskID, teamID, key, k.1, k.2⟩ := by
      rw [h.refs, hk]
      rfl
    rw [if_pos ⟨(⟨taskID, teamID, key, k.1, k.2⟩, version),
      mem_openSecretRows.mpr ⟨href, rfl, hversion⟩, rfl⟩]
    simp [plain, Resolution.environment, hk, htext]

/-- What the claim of a task left for every later state of the run. -/
structure SinceClaim (db₀ db : Db) (executorID : String) (task : TaskRow) : Prop where
  evolves : db₀.Evolves db
  executor : ∃ executor task₀, db₀.executors.lookup executorID = some executor ∧
    executor.sees task₀ = true ∧ task.teamID = task₀.teamID
  team : (db.teams.lookup task.teamID).isSome
  frozen : FrozenAs db task.taskID task.teamID
    (resolveLaunchParameters db₀ task.teamID task.taskTypeID)

theorem sinceClaim_of_takesTask {before after : List Call} {claim : Call} {executorID : String}
    (htakes : TakesTask cfg (serve cfg .empty before) claim taskID executorID)
    (hfound : (serve cfg .empty (before ++ claim :: after)).tasks.lookup taskID = some task) :
    SinceClaim (serve cfg .empty before) (serve cfg .empty (before ++ claim :: after)) executorID
      task := by
  obtain ⟨req, identity, executor₀, task₀, rfl, hmay, hfresh⟩ := htakes.fresh
  have hid : task.taskID = req.taskID := Table.key_of_lookup hfound
  -- the three states: before the claim, after it, and now
  have hstep : (serve cfg .empty before).Evolves
      ((exec cfg claim).commit (serve cfg .empty before)) := (step_effect rfl).evolves
  have hlater : ((exec cfg claim).commit (serve cfg .empty before)).Evolves
      (serve cfg .empty (before ++ claim :: after)) := by
    rw [serve_append]
    exact run_evolves (run_iff_serve.mpr rfl)
  have hevolves := hstep.trans hlater
  obtain ⟨task', htask', hfollows⟩ := hevolves.tasks _ _ hmay.found
  rw [hfound] at htask'
  obtain rfl := Option.some.inj htask'
  have hteam : task.teamID = task₀.teamID := hfollows.teamID
  have htype : task.taskTypeID = task₀.taskTypeID :=
    (congrArg TaskRow.taskTypeID hfollows.ingestion :)
  refine ⟨hevolves, ⟨executor₀, task₀, hmay.registered, hmay.visible, hteam⟩, ?_, ?_⟩
  · obtain ⟨team, hteam₀⟩ := Option.isSome_iff_exists.mp hmay.team
    obtain ⟨team', hteam', -⟩ := hevolves.teams _ _ hteam₀
    rw [hteam, hteam']
    rfl
  · obtain ⟨hfrozen, hclaimed⟩ :=
      hfresh.frozenAs hmay (reachable_frozenInvariant (reachable_serve cfg before))
    rw [hteam, htype, hid]
    exact hfrozen.later hclaimed hlater

/-- Whoever holds a live task opens the environment that resolution produced inside the
    claim of the task: ordinary values as they were, and for each secret the plaintext
    written as the version that was latest at that claim. -/
theorem open_environment_is_claim_resolution {cfg : Config} {aead : Aead}
    (haead : cfg.aead = some aead) (hlaw : aead.Lawful) {calls : List Call} {env : CallEnv}
    {req : OpenEnvironmentRequest} {task : TaskRow}
    (h : HoldsTask cfg env req task (serve cfg .empty calls)) :
    ∃ before claim after, calls = before ++ claim :: after ∧
      TakesTask cfg (serve cfg .empty before) claim req.taskID req.identity.executorID ∧
      (∃ response db', openEnvironment cfg env req (serve cfg .empty calls) = .ok (response, db') ∧
        ∀ key, response.values.lookup key =
          (resolveLaunchParameters (serve cfg .empty before) task.teamID
            task.taskTypeID).environment (plaintextOf (secretWrites cfg .empty before)) key) ∧
      ∀ key k, (resolveLaunchParameters (serve cfg .empty before) task.teamID
          task.taskTypeID).secretRefs.lookup key = some k →
        (plaintextOf (secretWrites cfg .empty before) k).isSome ∧
          IsLatest (secretWrites cfg .empty before) k := by
  have hclaimed : task.currentState ≠ .pending := by
    intro hpending
    rcases h.live with hl | hl <;> rw [hl] at hpending <;> cases hpending
  obtain ⟨before, claim, after, rfl, htakes⟩ := exists_claim_of_held h.found hclaimed h.held
  refine ⟨before, claim, after, rfl, htakes, ?_, ?_⟩
  · have hsince := sinceClaim_of_takesTask htakes h.found
    have hid : task.taskID = req.taskID := Table.key_of_lookup h.found
    have hfrozen := hsince.frozen
    rw [hid] at hfrozen
    -- versions are append-only, so those of the claim are still there
    have hversions : ∀ key k, (resolveLaunchParameters (serve cfg .empty before) task.teamID
        task.taskTypeID).secretRefs.lookup key = some k → ∃ version text,
        (serve cfg .empty (before ++ claim :: after)).secretVersions.lookup k = some version ∧
          version.decrypt aead = some text ∧
          plaintextOf (secretWrites cfg .empty before) k = some text := by
      intro key k hk
      obtain ⟨version, text, hversion, hdecrypt, htext, -⟩ := resolved_version haead hlaw hk
      obtain ⟨version', hversion', rfl⟩ := hsince.evolves.secretVersions _ _ hversion
      exact ⟨version, text, hversion', hdecrypt, htext⟩
    obtain ⟨values, hvalues, hlook⟩ := decryptAll_frozen hfrozen hversions
    obtain ⟨claims, htoken, hcteam, hctask, hcexec⟩ := h.token
    obtain ⟨executor₀, task₀, hexec, hsees, hteam⟩ := hsince.executor
    obtain ⟨audits, haudit⟩ := openAudit_accepted (reachable_serve cfg _) h
    have hmay := mayOpen_of_holds h hsince.evolves hexec hsees hteam hcteam hcexec
    have hcall : claims.namesCall req = true := by
      simp [ScopeTokenClaims.namesCall, hctask, hcexec]
    exact ⟨_, _, openEnvironment_of htoken haead hcall h.found hfrozen.snapshot rfl hmay hvalues
      haudit hsince.team, hlook⟩
  · intro key k hk
    obtain ⟨-, text, -, -, htext, hlatest⟩ := resolved_version haead hlaw hk
    exact ⟨by rw [htext]; rfl, hlatest⟩

theorem sampleAead_lawful : sampleAead.Lawful := by
  refine ⟨?_⟩
  intro nonce aad plaintext
  simp [sampleAead]

/-- A claim under a definition with one value and one secret, both edited afterwards. -/
def sampleEdited : List Call :=
  sampleSetup ++ [
    ⟨sampleEnv "params" 5, .createLaunchParameters ⟨"team", "operator", "request"⟩
      ⟨.team, none, "defaults", .ofList [("MODE", "fast")], none⟩⟩,
    ⟨sampleEnv "secret" 5, .createSecret ⟨"team", "operator", "request"⟩ "params"
      ⟨"TOKEN", "first"⟩⟩,
    sampleIngest "task" "1" 5, sampleClaim "task" 6,
    ⟨sampleEnv "edit1" 7, .replaceSecret ⟨"team", "operator", "request"⟩ "params" "secret"
      ⟨"second"⟩⟩,
    ⟨sampleEnv "edit2" 7, .revokeSecret ⟨"team", "operator", "request"⟩ "params" "secret"⟩,
    ⟨sampleEnv "edit3" 7, .deleteLaunchParameters ⟨"team", "operator", "request"⟩ "params"⟩]

def sampleOpen : OpenEnvironmentRequest := ⟨"task", "token", sampleIdentity, "request"⟩

/-- The sample executor opens the values and the plaintext of its claim. -/
theorem open_environment_is_claim_resolution_sample :
    ∃ before claim after, sampleEdited = before ++ claim :: after ∧
      TakesTask sampleConfig (serve sampleConfig .empty before) claim "task" "exec" ∧
      ∃ response db', openEnvironment sampleConfig (sampleEnv "open" 8) sampleOpen
        (serve sampleConfig .empty sampleEdited) = .ok (response, db') ∧
        response.values.lookup "TOKEN" = some "first" ∧
        response.values.lookup "MODE" = some "fast" := by
  have hfound : ∃ task, (serve sampleConfig .empty sampleEdited).tasks.lookup "task" = some task ∧
      task.executorID = some "exec" ∧ task.currentState = .created ∧ task.teamID = "team" := by
    decide +kernel
  obtain ⟨task, htask, hheld, hstate, hteam⟩ := hfound
  have hholds : HoldsTask sampleConfig (sampleEnv "open" 8) sampleOpen task
      (serve sampleConfig .empty sampleEdited) := by
    refine ⟨htask, hheld, .inl hstate, ?_, ?_, by decide +kernel, by decide +kernel⟩
    · decide +kernel
    · refine ⟨_, rfl, hteam.symm, rfl, rfl⟩
  obtain ⟨before, claim, after, hcalls, htakes, ⟨response, db', hopen, -⟩, -⟩ :=
    open_environment_is_claim_resolution rfl sampleAead_lawful hholds
  have hvalues : (match openEnvironment sampleConfig (sampleEnv "open" 8) sampleOpen
      (serve sampleConfig .empty sampleEdited) with
      | .ok (r, _) => decide (r.values.lookup "TOKEN" = some "first" ∧
          r.values.lookup "MODE" = some "fast")
      | .error _ => false) = true := by
    decide +kernel
  rw [hopen] at hvalues
  exact ⟨before, claim, after, hcalls, htakes, response, db', hopen, of_decide_eq_true hvalues⟩

end FlowAI.Registry
