import FlowAI.Registry.Snapshot

/-! # What an Open Reports

  `OpenEnvironment` calls `RecordDecrypt` inside its loop, after each row that decrypts.  A
  later row, or the audit entry, can still make the open fail: then decryptions of a denied
  open were reported.
-/

namespace FlowAI.Registry

variable {cfg : Config} {env : CallEnv} {req : OpenEnvironmentRequest} {db : Db}

/-! ## Section 1: The callback -/

/-- The calls of `RecordDecrypt` in one open. -/
def recordedDecrypts (cfg : Config) (env : CallEnv) (req : OpenEnvironmentRequest) (db : Db) : Nat :=
  match openChecks cfg env req db with
  | none => 0
  | some (aead, task, snapshot) =>
    (openRows aead (openSecretRows db task.teamID req.taskID) snapshot.values).2

/-- `OpenEnvironment` with the error of its `COMMIT`, if there is one. -/
def openCommitted (cfg : Config) (env : CallEnv) (req : OpenEnvironmentRequest)
    (failure : Option StoreError) : StoreTx OpenEnvironmentResponse := do
  let response ← openEnvironment cfg env req
  match failure with
  | none => return response
  | some err => Tx.fail (.wrapped "commit environment open" err)

theorem openCommitted_eq_ok {failure : Option StoreError} {response : OpenEnvironmentResponse}
    {db' : Db} : openCommitted cfg env req failure db = .ok (response, db') ↔
      openEnvironment cfg env req db = .ok (response, db') ∧ failure = none := by
  cases failure <;> simp [openCommitted, Tx.bind_eq_ok]

section Loop

variable {aead : Aead} {rows : List (SecretRefRow × SecretVersionRow)} {values : StrMap String}

theorem decryptAll_isSome_iff :
    (decryptAll aead rows values).isSome = true ↔
      ∀ r ∈ rows, (r.2.decrypt aead).isSome = true := by
  induction rows generalizing values with
  | nil => simp [decryptAll, openRows]
  | cons row rest ih =>
    cases hrow : row.2.decrypt aead with
    | none => simp [decryptAll, openRows, hrow]
    | some plaintext => simpa [decryptAll, openRows, hrow] using ih

theorem openRows_eq_zero_iff :
    (openRows aead rows values).2 = 0 ↔ ∀ r ∈ rows.head?, r.2.decrypt aead = none := by
  cases rows with
  | nil => simp [openRows]
  | cons row rest => cases hrow : row.2.decrypt aead <;> simp [openRows, hrow]

theorem openRows_of_all (h : ∀ r ∈ rows, (r.2.decrypt aead).isSome = true) :
    (openRows aead rows values).2 = rows.length := by
  induction rows generalizing values with
  | nil => rfl
  | cons row rest ih =>
    obtain ⟨plaintext, hrow⟩ := Option.isSome_iff_exists.mp (h row List.mem_cons_self)
    simp [openRows, hrow, ih (fun r hr => h r (List.mem_cons_of_mem _ hr))]

end Loop

/-! ## Section 2: What the reports say -/

/-- The references of the task to stored secret versions. -/
def secretRefsOf (db : Db) (teamID taskID : String) : List SecretRefRow :=
  db.secretRefs.rows.filter (fun r => r.teamID = teamID && r.taskID = taskID)

/-- A failed open reports nothing and writes nothing, a successful one reports every reference. -/
structure ReportsOpens (cfg : Config) (env : CallEnv) (req : OpenEnvironmentRequest)
    (failure : Option StoreError) (db : Db) : Prop where
  denied : ∀ e, openCommitted cfg env req failure db = .error e →
    recordedDecrypts cfg env req db = 0 ∧ (openCommitted cfg env req failure).commit db = db
  opened : ∀ response db', openCommitted cfg env req failure db = .ok (response, db') →
    recordedDecrypts cfg env req db = (secretRefsOf db response.teamID req.taskID).length

/-- If the first secret opens, all do, the audit entry is accepted, and `COMMIT` succeeds. -/
def opensWhole (cfg : Config) (env : CallEnv) (req : OpenEnvironmentRequest)
    (failure : Option StoreError) (db : Db) : Bool :=
  (openChecks cfg env req db).all (fun (aead, task, _) =>
    (openSecretRows db task.teamID req.taskID).head?.all (fun r => (r.2.decrypt aead).isNone) ||
    ((openSecretRows db task.teamID req.taskID).all (fun r => (r.2.decrypt aead).isSome) &&
      decide ((insertAudit "append environment open audit" (openAudit env req task)).errorOf db =
        none) && failure.isNone))

/-- The foreign key of the references. -/
def Db.RefsStored (db : Db) : Prop :=
  ∀ r ∈ db.secretRefs.rows, (db.secretVersions.lookup (r.secretID, r.version)).isSome = true

/-- Run lemma: the statement that writes a reference checks it, and versions stay. -/
theorem reachable_refsStored (h : (registry cfg).Reachable db) : db.RefsStored := by
  refine h.invariant ?_ ?_
  · intro db hinit r hr
    cases hinit
    cases hr
  · intro db call db' _ ih hstep r hr
    have heffect := step_effect hstep
    -- only a claim adds references
    have hstored : (db.secretVersions.lookup (r.secretID, r.version)).isSome = true := by
      rcases heffect.freezeStep with ⟨-, hrefs⟩ | ⟨_, _, _, hfreeze, -⟩
      · exact ih r (hrefs ▸ hr)
      · exact (hfreeze.stored r hr).elim (ih r) And.right
    obtain ⟨version, hversion⟩ := Option.isSome_iff_exists.mp hstored
    obtain ⟨_, hlater, -⟩ := heffect.evolves.secretVersions _ _ hversion
    exact Option.isSome_iff_exists.mpr ⟨_, hlater⟩

theorem length_openSecretRows (hrefs : db.RefsStored) (teamID taskID : String) :
    (openSecretRows db teamID taskID).length = (secretRefsOf db teamID taskID).length := by
  unfold openSecretRows
  rw [List.filterMap_length_eq_length.mpr, List.length_insertionSort]
  · rfl
  · intro r hr
    rw [List.mem_insertionSort] at hr
    rw [Option.isSome_map]
    exact hrefs r (List.mem_of_mem_filter hr)

/-- When an open with valid credentials succeeds. -/
theorem opens_iff (failure : Option StoreError) {aead : Aead} {task : TaskRow}
    {snapshot : SnapshotRow}
    (hchecks : openChecks cfg env req db = some (aead, task, snapshot)) :
    (∃ response db', openCommitted cfg env req failure db = .ok (response, db')) ↔
      ((∀ r ∈ openSecretRows db task.teamID req.taskID, (r.2.decrypt aead).isSome = true) ∧
      (insertAudit "append environment open audit" (openAudit env req task)).errorOf db = none) ∧
        failure = none := by
  simp only [openCommitted_eq_ok, exists_and_right, and_congr_left_iff]
  intro _
  constructor
  · rintro ⟨response, db', hopen⟩
    obtain ⟨aead', task', snapshot', values, hsame, hvalues, haudit, -⟩ :=
      openEnvironment_eq_ok.mp hopen
    rw [hchecks] at hsame
    cases hsame
    refine ⟨decryptAll_isSome_iff.mp (by rw [hvalues]; rfl), ?_⟩
    exact Tx.errorOf_eq_none.mpr ⟨(), by rw [Tx.commit_of_ok haudit]; exact haudit⟩
  · rintro ⟨hall, haudit⟩
    obtain ⟨values, hvalues⟩ :=
      Option.isSome_iff_exists.mp (decryptAll_isSome_iff.mpr hall)
    obtain ⟨_, haccepted⟩ := Tx.errorOf_eq_none.mp haudit
    exact ⟨_, _, openEnvironment_eq_ok.mpr
      ⟨aead, task, snapshot, values, hchecks, hvalues, haccepted, rfl⟩⟩

/-- **A denied open reports nothing, and a successful one every reference, exactly if no secret
    opens before another fails, or before the audit entry or `COMMIT` does.** -/
theorem open_reports_iff {failure : Option StoreError} (hrefs : db.RefsStored) :
    ReportsOpens cfg env req failure db ↔ opensWhole cfg env req failure db = true := by
  cases hchecks : openChecks cfg env req db with
  | none =>
    have hnone : recordedDecrypts cfg env req db = 0 := by
      simp only [recordedDecrypts, hchecks]
    refine iff_of_true ⟨fun e herr => ⟨hnone, Tx.commit_of_error herr⟩, ?_⟩ ?_
    · intro response db' hopen
      obtain ⟨_, _, _, _, hsome, -⟩ := openEnvironment_eq_ok.mp (openCommitted_eq_ok.mp hopen).1
      rw [hchecks] at hsome
      cases hsome
    · rw [opensWhole, hchecks]
      rfl
  | some checked =>
    obtain ⟨aead, task, snapshot⟩ := checked
    have hopens := opens_iff failure hchecks
    have hcount : recordedDecrypts cfg env req db =
        (openRows aead (openSecretRows db task.teamID req.taskID) snapshot.values).2 := by
      simp only [recordedDecrypts, hchecks]
    -- the condition: nothing was reported, or the open succeeds
    have hwhole : opensWhole cfg env req failure db = true ↔
        recordedDecrypts cfg env req db = 0 ∨
          ∃ response db', openCommitted cfg env req failure db = .ok (response, db') := by
      rw [hopens, hcount, openRows_eq_zero_iff, opensWhole, hchecks]
      simp [Option.all_eq_true]
    rw [hwhole]
    constructor
    · intro h
      cases hopen : openCommitted cfg env req failure db with
      | error e => exact .inl (h.denied e hopen).1
      | ok result => exact .inr ⟨result.1, result.2, rfl⟩
    · intro h
      refine ⟨?_, ?_⟩
      · intro e herr
        refine ⟨h.resolve_right ?_, Tx.commit_of_error herr⟩
        rintro ⟨response, db', hopen⟩
        rw [herr] at hopen
        cases hopen
      · intro response db' hopen
        obtain ⟨⟨hall, -⟩, -⟩ := hopens.mp ⟨response, db', hopen⟩
        obtain ⟨_, _, _, _, hsome, -, -, rfl⟩ :=
          openEnvironment_eq_ok.mp (openCommitted_eq_ok.mp hopen).1
        rw [hchecks] at hsome
        cases hsome
        rw [hcount, openRows_of_all hall, length_openSecretRows hrefs]

/-- A claimed task with two secrets. -/
def sampleTwoSecrets : Db := serve sampleConfig .empty (sampleSetup ++ [
  ⟨sampleEnv "params" 5, .createLaunchParameters ⟨"team", "operator", "request"⟩
    ⟨.team, none, "defaults", .ofList [], none⟩⟩,
  ⟨sampleEnv "first" 5, .createSecret ⟨"team", "operator", "request"⟩ "params" ⟨"A", "one"⟩⟩,
  ⟨sampleEnv "second" 5, .createSecret ⟨"team", "operator", "request"⟩ "params" ⟨"B", "two"⟩⟩,
  sampleIngest "task" "1" 5, sampleClaim "task" 6])

/-- Both secrets open, and two decryptions are reported. -/
theorem open_reports_sample :
    ReportsOpens sampleConfig (sampleEnv "open" 8) sampleOpen none sampleTwoSecrets ∧
      recordedDecrypts sampleConfig (sampleEnv "open" 8) sampleOpen sampleTwoSecrets = 2 := by
  have hrefs : sampleTwoSecrets.RefsStored := reachable_refsStored (reachable_serve sampleConfig _)
  exact ⟨(open_reports_iff hrefs).mpr (by decide +kernel), by decide +kernel⟩

/-- The stored bytes of a secret are overwritten. -/
def Db.tamper (db : Db) (secretID : String) : Db :=
  match db.secretVersions.update (secretID, 1) (fun v => { v with authenticationTag := "" })
      (fun _ => rfl) with
  | .ok secretVersions => { db with secretVersions }
  | .error _ => db

/-- The second secret has been tampered with: the open is denied after one decryption was
    reported. -/
theorem denied_open_reported :
    openEnvironment sampleConfig (sampleEnv "open" 8) sampleOpen
      (sampleTwoSecrets.tamper "second") = .error .environmentUnavailable ∧
    recordedDecrypts sampleConfig (sampleEnv "open" 8) sampleOpen
      (sampleTwoSecrets.tamper "second") = 1 :=
  ⟨Tx.errorOf_eq_some.mp (by decide +kernel), by decide +kernel⟩

end FlowAI.Registry
