import FlowAI.Registry.Snapshot

/-! # The Head of the Queue Is Claimable

  A claim writes values that other operations let in: images of teams and launch
  parameters, names of secrets, and an event whose identifier is made of the task.
  Behind the routes four of these can make the claim of the oldest task fail, and
  with it the whole queue of its tag.  When every call keeps them out, the head is
  claimable in every state reached.
-/

namespace FlowAI.Registry

variable {cfg : Config} {call : Call} {db' : Db} {t task : TaskRow} {executorID : String}
  {executor : ExecutorRow} {req : ClaimRequest} {env : CallEnv}

/-! ## Section 1: What a call must keep out -/

/-- A stored image reference. -/
def IsImage (j : Json) : Prop := ∃ image : ImageReference, j = image.toJson.jsonb

/-- The text a fresh claim of the task takes for its event. -/
def claimEventID (taskID : String) : String := "evt-" ++ taskID

/-- A text that is taken for JSON. -/
def LooksLikeJson (image : String) : Prop := image.toList.head? = some '\x7b'

/-- A call that leaves the queues claimable: team images do not look like JSON, images
    of launch parameters have a reference, secrets are named like environment keys, and
    nobody but a claim takes the event identifier of a pending task. -/
def KeepsQueues (db : Db) (call : Call) : Prop :=
  match call.op with
  | .createTeam req _ => ¬ LooksLikeJson req.defaultImage
  | .updateTeam _ req _ => ∀ image ∈ req.defaultImage, ¬ LooksLikeJson image
  | .createLaunchParameters _ req => ∀ image ∈ req.image, HasReference image
  | .replaceLaunchParameters _ _ req => ∀ image ∈ req.image, HasReference image
  | .createSecret _ _ req => isEnvKey req.name = true
  | .ingestTask _ _ => db.taskEvents.lookup (claimEventID (call.env.uuid 0)) = none
  | .appendTaskEvent req _ =>
    ∀ t ∈ db.tasks.rows, t.currentState = .pending → req.eventID ≠ claimEventID t.taskID
  | _ => True

/-- Every call of a run does. -/
def AllKeepQueues (cfg : Config) (db : Db) : List Call → Prop
  | [] => True
  | call :: calls => KeepsQueues db call ∧ AllKeepQueues cfg ((exec cfg call).commit db) calls

/-! ## Section 2: What the tables then hold -/

/-- The texts a claim reads. -/
structure StoredTexts (db : Db) : Prop where
  teams : ∀ t ∈ db.teams.rows, HasReference t.defaultImage ∧ ¬ LooksLikeJson t.defaultImage
  definitions : ∀ d ∈ db.definitions.rows, ∀ image ∈ d.image, HasReference image
  secrets : ∀ s ∈ db.secrets.rows, isEnvKey s.name = true
  tasks : ∀ t ∈ db.tasks.rows, ∀ j ∈ t.image, IsImage j
  taskTypes : ∀ t ∈ db.taskTypes.rows, ∀ j ∈ t.defaultImage, IsImage j
  sourceSystems : ∀ s ∈ db.sourceSystems.rows, ∀ j ∈ s.defaultImage, IsImage j
  executors : ∀ e ∈ db.executors.rows, e.scope = .team → e.teamID.getD "" ≠ ""

theorem isImage_nullable {image : Option ImageReference} :
    ∀ j ∈ nullableImage image, IsImage j := by
  intro j hj
  obtain ⟨r, -, rfl⟩ := Option.map_eq_some_iff.mp hj
  exact ⟨r, rfl⟩

theorem ne_empty_of_validIdentifier {s : String} (h : validIdentifier s = true) : s ≠ "" := by
  rintro rfl
  exact absurd h (by decide)

variable {db : Db} {tasks : Table taskSchema} {keyring : TokenKeyring} {identity : ExecutorIdentity}

/-- A definition keeps its image when its revision or its deletion is recorded. -/
theorem StoredTexts.touched (h : StoredTexts db) {k : String}
    {f : DefinitionRow → DefinitionRow} {hf} {definitions : Table definitionSchema}
    (hupd : db.definitions.update k f hf = .ok definitions) (hkeep : ∀ d, (f d).image = d.image) :
    ∀ d ∈ definitions.rows, ∀ image ∈ d.image, HasReference image := by
  refine Table.forall_update h.definitions hupd ?_
  intro d hd _
  rw [hkeep]
  exact h.definitions d hd

/-- Step lemma. -/
theorem Effect.storedTexts (heffect : Effect cfg call db db')
    (hadmitted : call.op.admitted = true) (hkeeps : KeepsQueues db call) (h : StoredTexts db) :
    StoredTexts db' := by
  cases heffect with
  | @createTeam req ident team _ _ _ hop hins himage =>
    simp only [KeepsQueues, hop] at hkeeps
    simp only [hop, Op.admitted, Bool.and_eq_true] at hadmitted
    refine { h with teams := Table.forall_insert h.teams hins ?_ }
    rw [himage]
    exact ⟨hasReference_of_validOCIImage hadmitted.2, hkeeps⟩
  | @updateTeam teamID req ident _ _ _ hop hupd =>
    simp only [KeepsQueues, hop] at hkeeps
    simp only [hop, Op.admitted, Bool.and_eq_true] at hadmitted
    refine { h with teams := Table.forall_update h.teams hupd ?_ }
    intro team hteam _
    cases himage : req.defaultImage with
    | none => simpa [UpdateTeamRequest.apply, himage] using h.teams team hteam
    | some image =>
      have hvalid : validOCIImage image = true := by simpa [himage] using hadmitted.2
      simpa [UpdateTeamRequest.apply, himage] using
        And.intro (hasReference_of_validOCIImage hvalid) (hkeeps image himage)
  | archiveTeam hupd =>
    exact { h with teams := Table.forall_update h.teams hupd (fun t ht _ => h.teams t ht) }
  | createSourceSystem _ hins himage =>
    refine { h with sourceSystems := Table.forall_insert h.sourceSystems hins ?_ }
    rw [himage]
    exact isImage_nullable
  | createTaskType _ hins himage =>
    refine { h with taskTypes := Table.forall_insert h.taskTypes hins ?_ }
    rw [himage]
    exact isImage_nullable
  | @registerExecutor executorID req identity _ hop hwritten =>
    simp only [hop, Op.admitted, Bool.and_eq_true] at hadmitted
    refine { h with executors := ?_ }
    rcases hwritten with hupd | ⟨hins, -⟩
    · exact Table.forall_update h.executors hupd (fun e he _ => h.executors e he)
    · refine Table.forall_insert h.executors hins ?_
      intro hscope
      have hteam := hadmitted.2
      change req.scope = .team at hscope
      rw [hscope, Bool.and_eq_true] at hteam
      obtain ⟨team, hsome, hvalid⟩ := (Option.any_eq_true _ _).mp hteam.1
      show req.teamID.getD "" ≠ ""
      rw [hsome]
      exact ne_empty_of_validIdentifier hvalid
  | ingestTask _ _ _ _ hins =>
    exact { h with tasks := Table.forall_insert h.tasks hins isImage_nullable }
  | claimTask _ _ hfresh =>
    obtain ⟨_, _, _, _, _, _, _, -, -, -, htasks, -, rfl⟩ := hfresh.effect
    exact { h with tasks := Table.forall_update h.tasks htasks (fun t ht _ => h.tasks t ht) }
  | appendTaskEvent _ _ _ _ hfresh =>
    obtain ⟨_, _, _, -, htasks, -, rfl⟩ := hfresh.effect
    exact { h with tasks := Table.forall_update h.tasks htasks (fun t ht _ => h.tasks t ht) }
  | appendExecutorEvent hmirror =>
    refine { h with executors := ?_ }
    rcases hmirror with rfl | ⟨o, hupd⟩
    · exact h.executors
    · refine Table.forall_update h.executors hupd ?_
      intro e he _
      cases o <;> exact h.executors e he
  | appendTaskControlEvent _ _ _ hfresh =>
    obtain ⟨_, _, _, -, -, -, rfl⟩ := hfresh.effect
    exact { h with }
  | @createLaunchParameters identity req item _ _ _ hop hins himage =>
    simp only [KeepsQueues, hop] at hkeeps
    refine { h with definitions := Table.forall_insert h.definitions hins ?_ }
    rw [himage]
    exact hkeeps
  | @replaceLaunchParameters identity environmentID req _ _ _ hop hupd =>
    simp only [KeepsQueues, hop] at hkeeps
    exact { h with definitions := Table.forall_update h.definitions hupd (fun _ _ _ => hkeeps) }
  | deleteLaunchParameters _ hupd =>
    exact { h with definitions := h.touched hupd (fun _ => rfl) }
  | @createSecret identity environmentID req aead secret _ _ _ _ _ hop _ hname _ hins _ htouch =>
    simp only [KeepsQueues, hop] at hkeeps
    refine { h with
      secrets := Table.forall_insert h.secrets hins ?_
      definitions := h.touched htouch (fun _ => rfl) }
    rw [hname]
    exact hkeeps
  | replaceSecret _ _ _ _ hadv htouch =>
    exact { h with
      secrets := Table.forall_update h.secrets hadv (fun s hs _ => h.secrets s hs)
      definitions := h.touched htouch (fun _ => rfl) }
  | revokeSecret _ hrev htouch =>
    exact { h with
      secrets := Table.forall_update h.secrets hrev (fun s hs _ => h.secrets s hs)
      definitions := h.touched htouch (fun _ => rfl) }
  | _ => exact { h with }

/-- No event has taken the identifier a pending task will claim with. -/
def EventIDsFree (tasks : Table taskSchema) (events : Table taskEventSchema) : Prop :=
  ∀ t ∈ tasks.rows, t.currentState = .pending → events.lookup (claimEventID t.taskID) = none

theorem claimEventID_injective : Function.Injective claimEventID := by
  intro a b h
  exact String.append_right_inj _ |>.mp h

/-- Step lemma. -/
theorem TaskStep.eventIDsFree {events : Table taskEventSchema}
    (hstep : TaskStep cfg call db tasks events) (hkeeps : KeepsQueues db call)
    (h : EventIDsFree db.tasks db.taskEvents) :
    EventIDsFree tasks events := by
  cases hstep with
  | keep => exact h
  | @ingest req ident row _ hop hdrawn _ hins =>
    simp only [KeepsQueues, hop] at hkeeps
    refine Table.forall_insert h hins ?_
    intro _
    rw [hdrawn]
    exact hkeeps
  | @claim req executorID identity executor task image source _ _ hop hmay hpending hupd hins =>
    intro t ht hstate
    have hlook : events.lookup (claimEventID t.taskID) =
        if claimEventID req.taskID = claimEventID t.taskID then
          some (createdEventRow call.env req executorID task.teamID)
        else db.taskEvents.lookup (claimEventID t.taskID) := Table.lookup_insert hins _
    obtain ⟨t₀, ht₀, rfl⟩ := (Table.mem_update hupd).mp ht
    by_cases hid : taskSchema.key t₀ = req.taskID
    · -- the claimed task is pending no more
      rw [if_pos hid] at hstate
      cases hstate
    · rw [if_neg hid] at hlook hstate ⊢
      have hne : claimEventID req.taskID ≠ claimEventID t₀.taskID := by
        intro heq
        exact hid (claimEventID_injective heq).symm
      rw [hlook, if_neg hne]
      exact h t₀ ht₀ hstate
  | @append req identity parsed task _ _ hop _ _ _ _ hupd hins =>
    simp only [KeepsQueues, hop] at hkeeps
    intro t ht hstate
    obtain ⟨t₀, ht₀, rfl⟩ := (Table.mem_update hupd).mp ht
    by_cases hid : taskSchema.key t₀ = req.taskID
    · -- a projected state is never `pending`
      rw [if_pos hid] at hstate
      cases hkind : parsed.eventType <;> simp [TaskRow.project, hkind, TaskEventType.state] at hstate
    · rw [if_neg hid] at hstate ⊢
      have hlook : events.lookup (claimEventID t₀.taskID) =
          if req.eventID = claimEventID t₀.taskID then some (taskEventRow req identity task parsed)
          else db.taskEvents.lookup (claimEventID t₀.taskID) := Table.lookup_insert hins _
      rw [hlook, if_neg (hkeeps t₀ ht₀ hstate)]
      exact h t₀ ht₀ hstate

/-- Every task belongs to a team of the registry. -/
def TasksOwned (db : Db) : Prop := ∀ t ∈ db.tasks.rows, (db.teams.lookup t.teamID).isSome

/-- Step lemma: teams stay, and an ingested task is of a team that is there. -/
theorem Effect.tasksOwned (heffect : Effect cfg call db db') (h : TasksOwned db) :
    TasksOwned db' := by
  have hteams : ∀ id, (db.teams.lookup id).isSome → (db'.teams.lookup id).isSome := by
    intro id hid
    obtain ⟨team, hteam⟩ := Option.isSome_iff_exists.mp hid
    obtain ⟨team', hteam', -⟩ := heffect.evolves.teams _ _ hteam
    rw [hteam']
    rfl
  have hold : ∀ t ∈ db.tasks.rows, (db'.teams.lookup t.teamID).isSome := by
    intro t ht
    exact hteams _ (h t ht)
  unfold TasksOwned
  cases heffect with
  | ingestTask _ hteam _ _ hins =>
    obtain ⟨team, hteam⟩ := hteam
    refine Table.forall_insert hold hins ?_
    exact Option.isSome_iff_exists.mpr ⟨team, hteam⟩
  | claimTask _ _ hfresh =>
    obtain ⟨_, _, _, _, _, _, _, -, -, -, htasks, -, rfl⟩ := hfresh.effect
    exact Table.forall_update hold htasks (fun t ht _ => hold t ht)
  | appendTaskEvent _ _ _ _ hfresh =>
    obtain ⟨_, _, _, -, htasks, -, rfl⟩ := hfresh.effect
    exact Table.forall_update hold htasks (fun t ht _ => hold t ht)
  | appendTaskControlEvent _ _ _ hfresh =>
    obtain ⟨_, _, _, -, -, -, rfl⟩ := hfresh.effect
    exact hold
  | _ => exact hold

/-- What the claim of a queue head rests on. -/
structure QueuesKept (db : Db) : Prop where
  texts : StoredTexts db
  eventIDs : EventIDsFree db.tasks db.taskEvents
  owned : TasksOwned db

theorem queuesKept_empty : QueuesKept Db.empty := by
  refine ⟨⟨?_, ?_, ?_, ?_, ?_, ?_, ?_⟩, ?_, ?_⟩ <;> intro r hr <;> cases hr

/-- Run lemma. -/
theorem run_queuesKept {calls : List Call} (hrun : (registry cfg).Run db calls db')
    (hadmitted : Admitted calls) (hkeeps : AllKeepQueues cfg db calls) (h : QueuesKept db) :
    QueuesKept db' := by
  induction hrun with
  | nil db => exact h
  | @cons db db₁ db₂ calls call hstep _ ih =>
    have hcommit : (exec cfg call).commit db = db₁ := hstep
    obtain ⟨hcall, hrest⟩ := hkeeps
    rw [hcommit] at hrest
    have heffect := step_effect hstep
    have hadm : call.op.admitted = true := hadmitted call List.mem_cons_self
    refine ih (fun c hc => hadmitted c (List.mem_cons_of_mem _ hc)) hrest ⟨?_, ?_, ?_⟩
    · exact heffect.storedTexts hadm hcall h.texts
    · exact heffect.taskStep.eventIDsFree hcall h.eventIDs
    · exact heffect.tasksOwned h.owned

/-! ## Section 3: The claim run forward -/

theorem insertSnapshot_of_none {row : SnapshotRow}
    (hnone : db.snapshots.lookup row.taskID = none) (ht : db.tasks.lookup row.taskID = some t)
    (hteam : t.teamID = row.teamID) :
    ∃ snapshots, insertSnapshot row db = .ok ((), { db with snapshots }) ∧
      snapshots.lookup row.taskID = some row := by
  obtain ⟨snapshots, hins⟩ : ∃ t, db.snapshots.insert row = .ok t :=
    Table.insert_ok rfl hnone (by simp [Schema.Clash, snapshotSchema])
  have hfk : (db.tasks.lookup row.taskID).any (fun t => t.teamID = row.teamID) = true := by
    rw [ht]
    simp [hteam]
  refine ⟨snapshots, ?_, (Table.lookup_insert hins row.taskID).trans (if_pos rfl)⟩
  simp only [insertSnapshot, Tx.bind_eq_ok, Tx.exists_get, hnone, exists_refuse, exists_require,
    Tx.set_eq_ok]
  exact ⟨snapshots, hins, hfk, rfl⟩

theorem insertSecretRef_of {row : SecretRefRow} (hcheck : secretRefSchema.check row = true)
    (hsnap : (db.snapshots.lookup row.taskID).any (fun s => s.teamID = row.teamID) = true)
    (hversion : (db.secretVersions.lookup (row.secretID, row.version)).isSome) :
    ∃ secretRefs, insertSecretRef row db = .ok ((), { db with secretRefs }) := by
  simp only [insertSecretRef, Tx.bind_eq_ok, Tx.exists_get, exists_require]
  cases hold : db.secretRefs.lookup (row.taskID, row.key) with
  | some old =>
    refine ⟨db.secretRefs, hcheck, ?_⟩
    simp only [Tx.pure_eq_ok]
    exact ⟨trivial, trivial⟩
  | none =>
    obtain ⟨secretRefs, hins⟩ : ∃ t, db.secretRefs.insert row = .ok t :=
      Table.insert_ok hcheck hold (by simp [Schema.Clash, secretRefSchema])
    refine ⟨secretRefs, hcheck, ?_⟩
    simp only [Tx.bind_eq_ok, exists_refuse, exists_require, Tx.set_eq_ok]
    exact ⟨secretRefs, hins, hsnap, hversion, rfl⟩

theorem insertSecretRefs_of {taskID teamID : String} {entries : List (String × String × Nat)}
    (hentries : ∀ e ∈ entries, isEnvKey e.1 = true ∧ 1 ≤ e.2.2 ∧
      (db.secretVersions.lookup e.2).isSome)
    (hsnap : (db.snapshots.lookup taskID).any (fun s => s.teamID = teamID) = true) :
    ∃ secretRefs, insertSecretRefs taskID teamID entries db = .ok ((), { db with secretRefs }) := by
  induction entries generalizing db with
  | nil => exact ⟨db.secretRefs, rfl⟩
  | cons e rest ih =>
    obtain ⟨key, secretID, version⟩ := e
    obtain ⟨hkey, hpos, hversion⟩ := hentries _ List.mem_cons_self
    have hcheck : secretRefSchema.check ⟨taskID, teamID, key, secretID, version⟩ = true := by
      simp only [secretRefSchema, hkey, Bool.true_and]
      exact decide_eq_true hpos
    obtain ⟨refs, hfirst⟩ := insertSecretRef_of hcheck hsnap hversion
    obtain ⟨refs', hrest⟩ : ∃ refs', insertSecretRefs taskID teamID rest
        { db with secretRefs := refs } = .ok ((), { db with secretRefs := refs' }) :=
      ih (fun e he => hentries e (List.mem_cons_of_mem _ he)) hsnap
    refine ⟨refs', ?_⟩
    simp only [insertSecretRefs, Tx.bind_eq_ok]
    exact ⟨(), _, hfirst, hrest⟩

/-- Launch parameters of a task that has no snapshot yet can be frozen. -/
theorem resolveLaunchParametersLocked_of {teamID taskTypeID taskID : String}
    (htexts : StoredTexts db) (hversions : ∀ s ∈ db.secrets.rows,
      (db.secretVersions.lookup (s.secretID, s.latestVersion)).isSome)
    (hnone : db.snapshots.lookup taskID = none) (ht : db.tasks.lookup taskID = some t)
    (hteam : t.teamID = teamID) :
    ∃ snapshots secretRefs, resolveLaunchParametersLocked teamID taskTypeID taskID db =
      .ok (resolveLaunchParameters db teamID taskTypeID, { db with snapshots, secretRefs }) := by
  let row : SnapshotRow := ⟨taskID, teamID, (resolveLaunchParameters db teamID taskTypeID).values⟩
  obtain ⟨snapshots, hfirst, hlook⟩ : ∃ snapshots, insertSnapshot row db =
      .ok ((), { db with snapshots }) ∧ snapshots.lookup taskID = some row :=
    insertSnapshot_of_none hnone ht hteam
  have hentries : ∀ e ∈ (resolveLaunchParameters db teamID taskTypeID).secretRefs.entries,
      isEnvKey e.1 = true ∧ 1 ≤ e.2.2 ∧ (db.secretVersions.lookup e.2).isSome := by
    intro e he
    obtain ⟨s, hs, -, hname, hversion⟩ := resolved_secret (StrMap.lookup_eq_some_iff.mpr he)
    have hcheck := db.secrets.checked s hs
    simp only [secretSchema, Bool.and_eq_true, decide_eq_true_eq] at hcheck
    rw [← hname, hversion]
    exact ⟨htexts.secrets s hs, hcheck.2, hversions s hs⟩
  have hsnap : (snapshots.lookup taskID).any (fun s => s.teamID = teamID) = true := by
    rw [hlook]
    simp [row]
  obtain ⟨secretRefs, hrest⟩ : ∃ secretRefs, insertSecretRefs taskID teamID
      (resolveLaunchParameters db teamID taskTypeID).secretRefs.entries { db with snapshots } =
        .ok ((), { db with snapshots, secretRefs }) := insertSecretRefs_of hentries hsnap
  refine ⟨snapshots, secretRefs, ?_⟩
  simp only [resolveLaunchParametersLocked, Tx.bind_eq_ok, Tx.exists_get, Tx.pure_eq_ok]
  exact ⟨(), _, hfirst, (), _, hrest, trivial, rfl⟩

/-- An image of the resolution comes from a stored definition. -/
theorem resolved_image (htexts : StoredTexts db) (teamID taskTypeID : String) :
    ∀ p ∈ (resolveLaunchParameters db teamID taskTypeID).image, HasReference p.1 := by
  refine resolveLaunchParameters_induct (P := fun r => ∀ p ∈ r.image, HasReference p.1)
    teamID taskTypeID ?_ (fun _ _ _ h => h) (fun _ _ _ _ h => h) ?_
  · intro p hp
    cases hp
  · intro r d hd h
    unfold Resolution.addImage
    split
    · rename_i image scope himage _
      intro p hp
      obtain rfl := Option.some.inj hp
      exact htexts.definitions d hd image himage
    · exact h

theorem resolveClaimImageLocked_of (htexts : StoredTexts db)
    (htask : task ∈ db.tasks.rows) (hteam : (db.teams.lookup task.teamID).isSome) (cfg : Config)
    {launch : Option (String × ImageSource)} (hlaunch : ∀ p ∈ launch, HasReference p.1) :
    ∃ image source resolved, resolveClaimImageLocked db task launch = .ok (image, source) ∧
      image.cast cfg = some resolved ∧ IsImage resolved := by
  -- what is stored as an image is written back as it is
  have hstored : ∀ j, IsImage j → (ImageText.value j).cast cfg = some j := by
    intro j hj
    obtain ⟨image, rfl⟩ := hj
    exact congrArg some (Json.jsonb_jsonb _)
  have hsplit : ∀ text, HasReference text → ∃ image : ImageReference, splitImage text = some image ∧
      (ImageText.value image.toJson).cast cfg = some image.toJson.jsonb ∧
        IsImage image.toJson.jsonb := by
    intro text htext
    obtain ⟨image, himage⟩ := splitImage_of_hasReference htext
    exact ⟨image, himage, rfl, image, rfl⟩
  unfold resolveClaimImageLocked
  cases himage : task.image with
  | some j =>
    have hj := htexts.tasks task htask j himage
    exact ⟨_, _, j, rfl, hstored j hj, hj⟩
  | none =>
    cases launch with
    | some p =>
      obtain ⟨image, hparts, hcast, his⟩ := hsplit p.1 (hlaunch p rfl)
      simp only [hparts]
      exact ⟨_, _, _, rfl, hcast, his⟩
    | none =>
      dsimp only
      split
      · rename_i j hj
        obtain ⟨taskType, hfound, hdefault⟩ := Option.bind_eq_some_iff.mp hj
        have hmem := Table.mem_of_lookup (Option.filter_eq_some_iff.mp hfound).1
        have his := htexts.taskTypes taskType hmem j hdefault
        exact ⟨_, _, j, rfl, hstored j his, his⟩
      · split
        · rename_i j hj
          obtain ⟨source, hfound, hdefault⟩ := Option.bind_eq_some_iff.mp hj
          have hmem := Table.mem_of_lookup (Option.filter_eq_some_iff.mp hfound).1
          have his := htexts.sourceSystems source hmem j hdefault
          exact ⟨_, _, j, rfl, hstored j his, his⟩
        · obtain ⟨team, hlook⟩ := Option.isSome_iff_exists.mp hteam
          obtain ⟨href, hplain⟩ := htexts.teams team (Table.mem_of_lookup hlook)
          obtain ⟨image, hparts, hcast, his⟩ := hsplit team.defaultImage href
          have hdefault : teamDefaultImage team.defaultImage = .ok (.value image.toJson) := by
            have hhead : ¬ team.defaultImage.toList.head? = some '\x7b' := hplain
            unfold teamDefaultImage
            rw [if_neg hhead, hparts]
          rw [hlook]
          simp only [hdefault]
          exact ⟨_, _, _, rfl, hcast, his⟩

/-- An executor that sees a task passes the scope triggers for it. -/
theorem ownedBy_of_sees (hexec : db.executors.lookup executorID = some executor)
    (hsees : executor.sees task = true) :
    ownedBy db executorID task.teamID = true := by
  unfold ownedBy
  rw [hexec]
  unfold ExecutorRow.sees at hsees
  cases hscope : executor.scope with
  | system => simp [hscope]
  | team =>
    rw [hscope] at hsees
    cases hteam : executor.teamID with
    | none => simp [hteam] at hsees
    | some team => simpa [hteam, hscope] using And.right (by simpa [hteam] using hsees)

theorem persistAssignment_of (env : CallEnv) {image : ImageText} (source : ImageSource)
    {resolved : Json} (hcast : image.cast cfg = some resolved)
    (hexec : db.executors.lookup executorID = some executor) (hsees : executor.sees task = true)
    (hfound : db.tasks.lookup req.taskID = some task) (hpending : task.currentState = .pending) :
    ∃ tasks, persistAssignment cfg env req executorID task image source db =
        .ok ((), { db with tasks }) ∧
      tasks.lookup req.taskID = some (task.assign env req executorID resolved source) := by
  have hmem := Table.mem_of_lookup hfound
  obtain ⟨howner, hexecutor, himage, hsource, hclaimed⟩ := claimColumns_of_pending hmem hpending
  have hcheck : ∀ t ∈ db.tasks.rows, taskSchema.key t = req.taskID →
      taskSchema.check (t.assign env req executorID resolved source) = true := by
    intro t ht _
    have hold := db.tasks.checked t ht
    simp only [taskSchema, Bool.and_eq_true] at hold ⊢
    exact ⟨hold.1, rfl⟩
  have hunique : ∀ u ∈ taskSchema.uniques, ∀ t,
      u (t.assign env req executorID resolved source) = u t := by
    intro u hu t
    obtain rfl := List.mem_singleton.mp hu
    rfl
  obtain ⟨tasks, hupd⟩ : ∃ tasks, db.tasks.update req.taskID
      (TaskRow.assign env req executorID resolved source) (fun _ => rfl) = .ok tasks :=
    Table.update_ok hcheck hunique
  have hprotect : ∀ t ∈ db.tasks.lookup req.taskID,
      protectTaskUpdate t (t.assign env req executorID resolved source) = true := by
    intro t ht
    rw [hfound] at ht
    obtain rfl := Option.some.inj ht
    simp [protectTaskUpdate, TaskRow.assign, howner, hexecutor, himage, hsource, hclaimed]
  refine ⟨tasks, ?_, ?_⟩
  · simp only [persistAssignment, Tx.bind_eq_ok, Tx.exists_get, Tx.exists_ofOption,
      require_eq_ok]
    refine ⟨resolved, hcast, (), db, ⟨ownedBy_of_sees hexec hsees, rfl⟩, (), { db with tasks }, ?_, ?_,
      rfl⟩
    · exact updateTask_eq_ok.mpr ⟨hprotect, tasks, hupd, rfl⟩
    · rw [hexec]
      rfl
  · rw [Table.lookup_update hupd, if_pos rfl, hfound]
    rfl

/-- An instant the wire form of a time can carry. -/
def ClockInRange (env : CallEnv) : Prop := 0 ≤ env.now ∧ env.now < Time.endOfYears

instance (env : CallEnv) : Decidable (ClockInRange env) := inferInstanceAs (Decidable (_ ∧ _))

/-- The instant of a claim survives its wire form. -/
theorem parse_formatIngestedAt (h : ClockInRange env) :
    (Time.parseRFC3339Nano (formatIngestedAt (Time.toMicros env.now))).isSome = true := by
  obtain ⟨h0, h1⟩ := h
  have hlow : 0 ≤ Time.ofMicros (Time.toMicros env.now) := by
    unfold Time.ofMicros Time.toMicros
    omega
  have hhigh : Time.ofMicros (Time.toMicros env.now) < Time.endOfYears := by
    unfold Time.ofMicros Time.toMicros
    omega
  have hzero : Time.toMicros env.now ≠ zeroTime := by
    unfold Time.toMicros zeroTime
    omega
  unfold formatIngestedAt
  rw [if_neg hzero, Time.parse_format (Time.year_of_instant hlow hhigh)]
  rfl

theorem claimScopeToken_of (hkey : cfg.keyring = some keyring)
    (env : CallEnv) (db : Db) {entry : TaskListEntry}
    (hclaimed : ∀ text ∈ entry.claimedAt, (Time.parseRFC3339Nano text).isSome = true) :
    ∃ token, claimScopeToken cfg env db entry = .ok token := by
  have hissued : ∃ issuedAt, scopeTokenIssuedAt env entry.claimedAt = .ok issuedAt := by
    unfold scopeTokenIssuedAt
    cases hc : entry.claimedAt with
    | none => exact ⟨_, rfl⟩
    | some text =>
      obtain ⟨t, ht⟩ := Option.isSome_iff_exists.mp (hclaimed text hc)
      simp only [ht]
      exact ⟨t, rfl⟩
  obtain ⟨issuedAt, hissued⟩ := hissued
  unfold claimScopeToken
  split
  · unfold issueScopeToken
    cases entry.executorID with
    | none => exact ⟨_, rfl⟩
    | some executorID =>
      simp only [hkey, hissued]
      split
      · exact ⟨_, rfl⟩
      · exact ⟨_, rfl⟩
  · exact ⟨_, rfl⟩

theorem buildClaimResponseForRow_of (hkey : cfg.keyring = some keyring)
    (hclock : ClockInRange env) {resolved : Json} {source : ImageSource}
    (hfound : db.tasks.lookup req.taskID = some (task.assign env req executorID resolved source))
    (himage : ∀ j ∈ task.image, IsImage j) (hresolved : IsImage resolved) :
    ∃ response, buildClaimResponseForRow cfg env req.taskID db = .ok (response, db) := by
  have hdecodes : ∀ j, IsImage j → (ImageReference.ofJson j).isSome = true := by
    intro j hj
    obtain ⟨image, rfl⟩ := hj
    rw [ImageReference.ofJson_jsonb_toJson]
    rfl
  have hscan : ∃ entry, scanTaskRow (task.assign env req executorID resolved source) = .ok entry := by
    refine scanTaskRow_of_decodes (fun j hj => hdecodes j (himage j hj)) ?_
    intro j hj
    obtain rfl := Option.some.inj hj
    exact hdecodes _ hresolved
  obtain ⟨entry, hscan⟩ := hscan
  have hclaimed : ∀ text ∈ entry.claimedAt, (Time.parseRFC3339Nano text).isSome = true := by
    intro text htext
    obtain ⟨-, -, -, -, -, hwire, -⟩ := scanTaskRow_eq_ok hscan
    rw [hwire] at htext
    obtain rfl := Option.some.inj htext
    exact parse_formatIngestedAt hclock
  obtain ⟨token, htoken⟩ := claimScopeToken_of hkey env db hclaimed
  exact ⟨_, buildClaimResponseForRow_eq_ok.mpr ⟨⟨_, entry, token, hfound, hscan, htoken, rfl⟩, rfl⟩⟩

/-! ## Section 4: The head of the queue -/

/-- The oldest pending task that a registered executor may claim. -/
structure IsHead (db : Db) (executorID : String) (executor : ExecutorRow) (task : TaskRow) :
    Prop where
  registered : db.executors.lookup executorID = some executor
  found : db.tasks.lookup task.taskID = some task
  eligible : task.eligible executor.authorizedTag executor.scope executor.teamID = true
  oldest : ∀ t ∈ db.tasks.rows,
    t.eligible executor.authorizedTag executor.scope executor.teamID = true →
      ¬ t.position < task.position

instance (db : Db) (executorID : String) (executor : ExecutorRow) (task : TaskRow) :
    Decidable (IsHead db executorID executor task) :=
  decidable_of_iff (_ ∧ _ ∧ _ ∧ _)
    ⟨fun ⟨h₁, h₂, h₃, h₄⟩ => ⟨h₁, h₂, h₃, h₄⟩, fun h => ⟨h.1, h.2, h.3, h.4⟩⟩

theorem IsHead.pending (h : IsHead db executorID executor task) :
    task.currentState = .pending := by
  have heligible := h.eligible
  simp only [TaskRow.eligible, Bool.and_eq_true, decide_eq_true_eq] at heligible
  exact heligible.1.1

theorem IsHead.isEarlierPendingTask (h : IsHead db executorID executor task) :
    isEarlierPendingTask db executor task = false := by
  rw [Bool.eq_false_iff]
  intro hearlier
  obtain ⟨t, ht, hboth⟩ := List.any_eq_true.mp hearlier
  rw [Bool.and_eq_true, decide_eq_true_eq] at hboth
  exact h.oldest t ht hboth.1 hboth.2

theorem IsHead.mayClaim (h : IsHead db executorID executor task) (hkept : QueuesKept db)
    (hreq : req.taskID = task.taskID)
    (hid : identity.executorID = executorID ∧ identity.scope = executor.scope ∧
      identity.teamID = executor.teamID) :
    MayClaim db req executorID identity executor task := by
  have heligible := h.eligible
  simp only [TaskRow.eligible, Bool.and_eq_true, decide_eq_true_eq] at heligible
  obtain ⟨⟨-, htag⟩, hqueue⟩ := heligible
  refine ⟨h.registered, hid, ?_, ?_, htag.symm, hkept.owned task (Table.mem_of_lookup h.found)⟩
  · rw [hreq]
    exact h.found
  · unfold ExecutorRow.sees
    cases hscope : executor.scope with
    | system => rfl
    | team =>
      rw [hscope] at hqueue
      have hbound := hkept.texts.executors executor (Table.mem_of_lookup h.registered) hscope
      have hteam : task.teamID = executor.teamID.getD "" := of_decide_eq_true hqueue
      simp [hbound, hteam]

theorem writeClaim_of (env : CallEnv)
    (hkept : QueuesKept db) (hfrozen : FrozenInvariant db) (hversions : ∀ s ∈ db.secrets.rows,
      (db.secretVersions.lookup (s.secretID, s.latestVersion)).isSome)
    (hmay : MayClaim db req executorID identity executor task)
    (hpending : task.currentState = .pending) :
    ∃ resolved source db', writeClaim cfg env req executorID task db = .ok ((), db') ∧
      db'.tasks.lookup req.taskID = some (task.assign env req executorID resolved source) ∧
      IsImage resolved := by
  have hmem := Table.mem_of_lookup hmay.found
  have hid : task.taskID = req.taskID := Table.key_of_lookup hmay.found
  have hsnap := (hfrozen.of_pending hmay.found hpending).1
  -- the four statements of the write, each in the state the one before it left
  obtain ⟨snapshots, secretRefs, hlaunch⟩ : ∃ snapshots secretRefs,
      resolveLaunchParametersLocked task.teamID task.taskTypeID req.taskID db =
        .ok (resolveLaunchParameters db task.teamID task.taskTypeID,
          { db with snapshots, secretRefs }) :=
    resolveLaunchParametersLocked_of hkept.texts hversions hsnap hmay.found rfl
  have htexts : StoredTexts { db with snapshots, secretRefs } := { hkept.texts with }
  obtain ⟨image, source, resolved, himage, hcast, his⟩ :=
    resolveClaimImageLocked_of htexts hmem hmay.team cfg
      (resolved_image hkept.texts task.teamID task.taskTypeID)
  obtain ⟨tasks, hpersist, hassigned⟩ : ∃ tasks, persistAssignment cfg env req executorID task image
      source { db with snapshots, secretRefs } = .ok ((), { db with snapshots, secretRefs, tasks }) ∧
      tasks.lookup req.taskID = some (task.assign env req executorID resolved source) :=
    persistAssignment_of env source hcast hmay.registered hmay.visible hmay.found hpending
  have hfree : db.taskEvents.lookup (claimEventID req.taskID) = none := by
    rw [← hid]
    exact hkept.eventIDs task hmem hpending
  obtain ⟨taskEvents, hevent⟩ : ∃ taskEvents, insertTaskEvent (wrap "append created event")
      (createdEventRow env req executorID task.teamID) { db with snapshots, secretRefs, tasks } =
        .ok ((), { db with snapshots, secretRefs, tasks, taskEvents }) :=
    insertTaskEvent_of_free (ownedBy_of_sees hmay.registered hmay.visible) hmay.registered hassigned
      rfl hfree
  refine ⟨resolved, source, { db with snapshots, secretRefs, tasks, taskEvents }, ?_, hassigned,
    his⟩
  simp only [writeClaim, Tx.bind_eq_ok, Tx.exists_get, Tx.mapError_eq_ok, Tx.exists_ofExcept]
  exact ⟨_, _, hlaunch, (image, source), himage, (), _, hpersist, hevent⟩

/-- Behind the routes, and as long as every call keeps unclaimable values out, the head of the
    queue of a registered executor is claimed by its next claim. -/
theorem head_is_claimable {cfg : Config} {keyring : TokenKeyring}
    (hkey : cfg.keyring = some keyring) {calls : List Call} (hadmitted : Admitted calls)
    (hkeeps : AllKeepQueues cfg .empty calls) {executorID : String} {executor : ExecutorRow}
    {task : TaskRow} (hhead : IsHead (serve cfg .empty calls) executorID executor task)
    {env : CallEnv} (hclock : ClockInRange env) {req : ClaimRequest}
    (hreq : req.taskID = task.taskID) {identity : ExecutorIdentity}
    (hid : identity.executorID = executorID ∧ identity.scope = executor.scope ∧
      identity.teamID = executor.teamID) :
    ∃ response db' claimed,
      claimTask cfg env req executorID identity (serve cfg .empty calls) = .ok (response, db') ∧
      db'.tasks.lookup task.taskID = some claimed ∧ claimed.executorID = some executorID ∧
      claimed.ownerCommandID = some req.commandID := by
  have hkept : QueuesKept (serve cfg .empty calls) :=
    run_queuesKept (run_iff_serve.mpr rfl) hadmitted hkeeps queuesKept_empty
  have hmay := hhead.mayClaim hkept hreq hid
  have hversions : ∀ s ∈ (serve cfg .empty calls).secrets.rows,
      ((serve cfg .empty calls).secretVersions.lookup (s.secretID, s.latestVersion)).isSome := by
    intro s hs
    obtain ⟨v, hv⟩ := (serve_versionInvariant cfg calls).latest _ _ (Table.lookup_key hs)
    exact Option.isSome_iff_exists.mpr ⟨v, hv⟩
  obtain ⟨resolved, source, db', hwrite, hassigned, his⟩ := writeClaim_of env hkept
    (reachable_frozenInvariant (reachable_serve cfg calls)) hversions hmay hhead.pending
  have hmem := Table.mem_of_lookup hhead.found
  obtain ⟨response, hresponse⟩ := buildClaimResponseForRow_of hkey hclock hassigned
    (hkept.texts.tasks task hmem) his
  refine ⟨response, db', task.assign env req executorID resolved source, ?_, ?_, rfl, rfl⟩
  · simp only [claimTask, Tx.bind_eq_ok, lockClaim_eq_ok]
    refine ⟨(executor, task), _, ⟨hmay, rfl⟩, ?_⟩
    simp only [hhead.pending, if_true, Tx.bind_eq_ok, Tx.exists_get, Tx.exists_ensure,
      Tx.mapError_eq_ok]
    exact ⟨hhead.isEarlierPendingTask, (), db', hwrite, hresponse⟩
  · rw [← hreq]
    exact hassigned

/-- Launch parameters with an image and a secret, and a task that will claim under them. -/
def sampleQueued (image name : String) : List Call :=
  sampleSetup ++ [
    ⟨sampleEnv "params" 5, .createLaunchParameters ⟨"team", "operator", "request"⟩
      ⟨.team, none, "defaults", .ofList [("MODE", "fast")], some image⟩⟩,
    ⟨sampleEnv "secret" 5, .createSecret ⟨"team", "operator", "request"⟩ "params"
      ⟨name, "first"⟩⟩,
    sampleIngest "task" "1" 5]

theorem sampleQueued_keepsQueues :
    AllKeepQueues sampleConfig .empty (sampleQueued "repo@sha256:1" "TOKEN") := by
  have hteam : ¬ LooksLikeJson "repo@sha256:0" := by
    unfold LooksLikeJson
    decide
  have himage : HasReference "repo@sha256:1" :=
    ⟨"repo".toList, "sha256:1".toList, by decide, by decide, by decide, by decide⟩
  refine ⟨hteam, trivial, trivial, trivial, ?_, ?_, ?_, trivial⟩
  · intro image h
    obtain rfl := Option.some.inj h
    exact himage
  · show isEnvKey "TOKEN" = true
    decide
  · simp only [KeepsQueues, sampleIngest]
    decide +kernel

/-- The sample executor claims the head of its queue. -/
theorem head_is_claimable_sample :
    ∃ response db' claimed, claimTask sampleConfig (sampleEnv "claim" 6) ⟨"task", "command"⟩ "exec"
        sampleIdentity (serve sampleConfig .empty (sampleQueued "repo@sha256:1" "TOKEN")) =
          .ok (response, db') ∧
      db'.tasks.lookup "task" = some claimed ∧ claimed.executorID = some "exec" ∧
      claimed.ownerCommandID = some "command" := by
  have hhead : ∃ executor, (serve sampleConfig .empty
      (sampleQueued "repo@sha256:1" "TOKEN")).executors.lookup "exec" = some executor ∧
      ∃ task, (serve sampleConfig .empty
        (sampleQueued "repo@sha256:1" "TOKEN")).tasks.lookup "task" = some task ∧
      (IsHead (serve sampleConfig .empty (sampleQueued "repo@sha256:1" "TOKEN")) "exec" executor task ∧
        task.taskID = "task" ∧ executor.scope = .system ∧ executor.teamID = none) := by
    decide +kernel
  obtain ⟨executor, -, task, -, hhead, hid, hscope, hteam⟩ := hhead
  have hadmitted : Admitted (sampleQueued "repo@sha256:1" "TOKEN") := by decide +kernel
  have hclock : ClockInRange (sampleEnv "claim" 6) := by decide
  have hreq : (⟨"task", "command"⟩ : ClaimRequest).taskID = task.taskID := hid.symm
  have hown : sampleIdentity.executorID = "exec" ∧ sampleIdentity.scope = executor.scope ∧
      sampleIdentity.teamID = executor.teamID := ⟨rfl, hscope.symm, hteam.symm⟩
  have hclaim := head_is_claimable rfl hadmitted sampleQueued_keepsQueues hhead hclock hreq hown
  rw [hid] at hclaim
  exact hclaim

/-- A run behind the routes whose head the sample executor cannot claim. -/
def BlocksHead (calls : List Call) (err : StoreError) : Prop :=
  Admitted calls ∧
    (∃ executor, (serve sampleConfig .empty calls).executors.lookup "exec" = some executor ∧
      ∃ task, (serve sampleConfig .empty calls).tasks.lookup "task" = some task ∧
        IsHead (serve sampleConfig .empty calls) "exec" executor task) ∧
    (claimTask sampleConfig (sampleEnv "claim" 9) ⟨"task", "command"⟩ "exec"
      sampleIdentity).errorOf (serve sampleConfig .empty calls) = some err

instance (calls : List Call) (err : StoreError) : Decidable (BlocksHead calls err) :=
  inferInstanceAs (Decidable (_ ∧ _ ∧ _))

/-- The executor of an earlier task takes the event identifier of the next one. -/
def sampleTakenEventID : List Call :=
  sampleSetup ++ [sampleIngest "first" "0" 5, sampleIngest "task" "1" 6, sampleClaim "first" 7,
    sampleAppend 8 (sampleEvent "evt-task" "first" "running" "1970-01-01T00:00:08Z")]

/-- A team whose default image begins like a JSON object. -/
def sampleBraceImage : List Call :=
  sampleSetup ++ [
    ⟨sampleEnv "update" 5, .updateTeam "team" ⟨none, some "\x7bx@sha256:0"⟩ ⟨"admin", "request"⟩⟩,
    sampleIngest "task" "1" 6]

/-- Four values the routes let in, each of which stops the queue: a secret named with a hyphen, the
    event identifier of a pending task, a launch image without a repository and a team image that
    is taken for JSON. -/
theorem head_blocked_sample :
    BlocksHead (sampleQueued "repo@sha256:1" "my-secret")
        (.wrapped "resolve launch parameters" (wrap "insert task secret reference snapshot" .check)) ∧
      BlocksHead sampleTakenEventID (wrap "append created event" .primaryKey) ∧
      BlocksHead (sampleQueued "@sha256:1" "TOKEN")
        (.wrapped "resolve claim image" (.plain "launch parameter image is invalid")) ∧
      BlocksHead sampleBraceImage (wrap "persist claim assignment" .check) := by
  decide +kernel

end FlowAI.Registry
