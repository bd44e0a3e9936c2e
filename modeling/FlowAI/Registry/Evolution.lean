import FlowAI.Registry.Operations

/-! # How the Database Evolves

  What no operation ever takes back, as a relation between two states of a run:
  tasks keep what was ingested and, once claimed, their claim; events, reports,
  snapshots and secret versions are append-only; executors keep scope and team; the
  frozen secret references of a claimed task never change.
-/

namespace FlowAI.Registry

/-! ## Section 1: One task -/

/-- The columns ingestion writes. -/
def TaskRow.ingestion (t : TaskRow) : TaskRow :=
  { t with
    currentState := .pending, ownerCommandID := none, executorID := none, resolvedImage := none
    imageSource := none, claimedAt := none }

/-- The columns a claim writes. -/
structure TaskClaim where
  ownerCommandID : Option String
  executorID : Option String
  resolvedImage : Option Json
  imageSource : Option ImageSource
  claimedAt : Option Int
  deriving DecidableEq

def TaskRow.claim (t : TaskRow) : TaskClaim :=
  ⟨t.ownerCommandID, t.executorID, t.resolvedImage, t.imageSource, t.claimedAt⟩

/-- A later version of the row of one task. -/
structure TaskRow.Follows (t t' : TaskRow) : Prop where
  ingestion : t'.ingestion = t.ingestion
  claimed : t.currentState ≠ .pending → t'.currentState ≠ .pending ∧ t'.claim = t.claim

theorem TaskRow.Follows.refl (t : TaskRow) : t.Follows t := ⟨rfl, fun h => ⟨h, rfl⟩⟩

theorem TaskRow.Follows.trans {a b c : TaskRow} (h₁ : a.Follows b) (h₂ : b.Follows c) :
    a.Follows c := by
  refine ⟨h₂.ingestion.trans h₁.ingestion, ?_⟩
  intro ha
  obtain ⟨hb, hab⟩ := h₁.claimed ha
  obtain ⟨hc, hbc⟩ := h₂.claimed hb
  exact ⟨hc, hbc.trans hab⟩

theorem TaskRow.Follows.teamID {t t' : TaskRow} (h : t.Follows t') : t'.teamID = t.teamID :=
  (congrArg TaskRow.teamID h.ingestion :)

/-- A fresh claim writes claim columns of a pending task only. -/
theorem TaskRow.follows_assign {t : TaskRow} (hpending : t.currentState = .pending)
    {env : CallEnv} {req : ClaimRequest} {executorID : String} {image : Json}
    {source : ImageSource} : t.Follows (t.assign env req executorID image source) :=
  ⟨rfl, fun h => absurd hpending h⟩

/-- An accepted event moves the state of a claimed task, and only that. -/
theorem TaskRow.follows_project (t : TaskRow) (eventType : TaskEventType) :
    t.Follows (t.project eventType) := by
  refine ⟨rfl, fun _ => ⟨?_, rfl⟩⟩
  cases eventType <;> simp [TaskRow.project, TaskEventType.state]

/-! ## Section 2: The database -/

/-- An executor stays registered under its scope and team. -/
def ExecutorRow.SameBinding (e e' : ExecutorRow) : Prop := e'.scope = e.scope ∧ e'.teamID = e.teamID

/-- A control stays with its task and team. -/
def ControlRow.SameTask (c c' : ControlRow) : Prop := c'.taskID = c.taskID ∧ c'.teamID = c.teamID

structure Db.Evolves (db db' : Db) : Prop where
  tasks : db.tasks.Persists TaskRow.Follows db'.tasks
  taskEvents : db.taskEvents.Persists Eq db'.taskEvents
  executors : db.executors.Persists ExecutorRow.SameBinding db'.executors
  teams : db.teams.Persists (fun _ _ => True) db'.teams
  secretVersions : db.secretVersions.Persists Eq db'.secretVersions
  controls : db.controls.Persists ControlRow.SameTask db'.controls
  controlEvents : db.controlEvents.Persists Eq db'.controlEvents
  logChunks : db.logChunks.Persists Eq db'.logChunks
  frozen : ∀ id t, db.tasks.lookup id = some t → t.currentState ≠ .pending →
    db'.snapshots.lookup id = db.snapshots.lookup id ∧
      ∀ key, db'.secretRefs.lookup (id, key) = db.secretRefs.lookup (id, key)

theorem Db.Evolves.refl (db : Db) : db.Evolves db where
  tasks := .refl TaskRow.Follows.refl _
  taskEvents := .refl (fun _ => rfl) _
  executors := .refl (fun _ => ⟨rfl, rfl⟩) _
  teams := .refl (fun _ => trivial) _
  secretVersions := .refl (fun _ => rfl) _
  controls := .refl (fun _ => ⟨rfl, rfl⟩) _
  controlEvents := .refl (fun _ => rfl) _
  logChunks := .refl (fun _ => rfl) _
  frozen _ _ _ _ := ⟨rfl, fun _ => rfl⟩

theorem Db.Evolves.trans {a b c : Db} (h₁ : a.Evolves b) (h₂ : b.Evolves c) : a.Evolves c where
  tasks := h₁.tasks.trans (fun _ _ _ => TaskRow.Follows.trans) h₂.tasks
  taskEvents := h₁.taskEvents.trans (fun _ _ _ => Eq.trans) h₂.taskEvents
  executors := h₁.executors.trans (fun _ _ _ hab hbc => ⟨hbc.1.trans hab.1, hbc.2.trans hab.2⟩)
    h₂.executors
  teams := h₁.teams.trans (fun _ _ _ _ _ => trivial) h₂.teams
  secretVersions := h₁.secretVersions.trans (fun _ _ _ => Eq.trans) h₂.secretVersions
  controls := h₁.controls.trans (fun _ _ _ hab hbc => ⟨hbc.1.trans hab.1, hbc.2.trans hab.2⟩)
    h₂.controls
  controlEvents := h₁.controlEvents.trans (fun _ _ _ => Eq.trans) h₂.controlEvents
  logChunks := h₁.logChunks.trans (fun _ _ _ => Eq.trans) h₂.logChunks
  frozen := by
    intro id t ht hclaimed
    -- The claimed task is still claimed in `b`, so the second half applies to it.
    obtain ⟨t', ht', hfollows⟩ := h₁.tasks id t ht
    obtain ⟨hsnap₁, hrefs₁⟩ := h₁.frozen id t ht hclaimed
    obtain ⟨hsnap₂, hrefs₂⟩ := h₂.frozen id t' ht' (hfollows.claimed hclaimed).1
    exact ⟨hsnap₂.trans hsnap₁, fun key => (hrefs₂ key).trans (hrefs₁ key)⟩

/-- The frozen rows a claim adds belong to the task it claims. -/
theorem Freezes.other_tasks {db : Db} {taskID teamID : String} {resolved : Resolution}
    {snapshots : Table snapshotSchema} {secretRefs : Table secretRefSchema}
    (h : Freezes db taskID teamID resolved snapshots secretRefs) {id : String}
    (hne : id ≠ taskID) :
    snapshots.lookup id = db.snapshots.lookup id ∧
      ∀ key, secretRefs.lookup (id, key) = db.secretRefs.lookup (id, key) := by
  constructor
  · rcases h.snapshot with ⟨-, rfl⟩ | hins
    · rfl
    · rw [Table.lookup_insert hins]
      exact if_neg (Ne.symm hne)
  · intro key
    rw [h.refs, if_neg hne, Option.or_none]

/-- Step lemma: every call leaves a later version of the database. -/
theorem Effect.evolves {cfg : Config} {call : Call} {db db' : Db} (h : Effect cfg call db db') :
    db.Evolves db' := by
  cases h with
  | unchanged => exact .refl db
  | createTeam _ hins _ =>
    exact { Db.Evolves.refl db with teams := Table.persists_insert (fun _ => trivial) hins }
  | updateTeam _ hupd | archiveTeam hupd =>
    exact { Db.Evolves.refl db with
      teams := Table.persists_update (fun _ => trivial) hupd (fun _ _ => trivial) }
  | createSourceSystem _ _ _ | createTaskType _ _ _ | createLaunchParameters _ _ _
  | replaceLaunchParameters _ _ | deleteLaunchParameters _ _ | revokeSecret _ _ _
  | openEnvironment => exact { Db.Evolves.refl db with }
  | registerExecutor _ hw =>
    refine { Db.Evolves.refl db with executors := ?_ }
    rcases hw with hupd | ⟨hins, -⟩
    · exact Table.persists_update (fun _ => ⟨rfl, rfl⟩) hupd (fun _ _ => ⟨rfl, rfl⟩)
    · exact Table.persists_insert (fun _ => ⟨rfl, rfl⟩) hins
  | ingestTask _ _ _ _ hins =>
    exact { Db.Evolves.refl db with tasks := Table.persists_insert TaskRow.Follows.refl hins }
  | @claimTask req executorID _ _ task _ _ hmay hfresh =>
    obtain ⟨_, _, _, snapshots, refs, tasks, events, hfreeze, -, -, htasks, hevents, rfl⟩ :=
      hfresh.effect
    have hclaimed : ∀ t, db.tasks.lookup req.taskID = some t → t.currentState = .pending := by
      intro t ht
      rw [hmay.found] at ht
      exact Option.some.inj ht ▸ hfresh.pending
    refine { Db.Evolves.refl db with
      tasks := Table.persists_update TaskRow.Follows.refl htasks
        (fun t ht => TaskRow.follows_assign (hclaimed t ht))
      taskEvents := Table.persists_insert (fun _ => rfl) hevents
      frozen := ?_ }
    intro id t ht hstate
    refine hfreeze.other_tasks ?_
    intro heq
    subst heq
    exact hstate (hclaimed t ht)
  | appendTaskEvent _ _ _ _ hfresh =>
    obtain ⟨events, tasks, audits, hevents, htasks, -, rfl⟩ := hfresh.effect
    exact { Db.Evolves.refl db with
      tasks := Table.persists_update TaskRow.Follows.refl htasks
        (fun t _ => t.follows_project _)
      taskEvents := Table.persists_insert (fun _ => rfl) hevents }
  | appendExecutorEvent hm =>
    refine { Db.Evolves.refl db with executors := ?_ }
    rcases hm with rfl | ⟨o, hupd⟩
    · exact .refl (fun _ => ⟨rfl, rfl⟩) _
    · refine Table.persists_update (fun _ => ⟨rfl, rfl⟩) hupd (fun e _ => ?_)
      cases o <;> exact ⟨rfl, rfl⟩
  | createTaskControl _ _ hins hopened =>
    exact { Db.Evolves.refl db with
      controls := Table.persists_insert (fun _ => ⟨rfl, rfl⟩) hins
      controlEvents := Table.persists_insert (fun _ => rfl) hopened }
  | appendTaskControlEvent _ _ _ hfresh =>
    obtain ⟨events, controls, audits, hins, hupd, -, rfl⟩ := hfresh.effect
    exact { Db.Evolves.refl db with
      controls := Table.persists_update (fun _ => ⟨rfl, rfl⟩) hupd (fun _ _ => ⟨rfl, rfl⟩)
      controlEvents := Table.persists_insert (fun _ => rfl) hins }
  | appendTaskLog _ _ hins =>
    exact { Db.Evolves.refl db with logChunks := Table.persists_insert (fun _ => rfl) hins }
  | createSecret _ _ _ _ _ henc _ | replaceSecret _ _ _ henc _ _ =>
    exact { Db.Evolves.refl db with
      secretVersions := Table.persists_insert (fun _ => rfl) henc }

/-- Run lemma: the end of a run is a later version of its start. -/
theorem run_evolves {cfg : Config} {db db' : Db} {calls : List Call}
    (hrun : (registry cfg).Run db calls db') : db.Evolves db' := by
  induction hrun with
  | nil db => exact .refl db
  | cons call hstep _ ih => exact (step_effect hstep).evolves.trans ih

/-- Whatever calls are served, from any state, no accepted event, log chunk or secret version is
    lost or rewritten, and a claimed task keeps its claim and its frozen launch parameters. -/
theorem accepted_rows_kept (cfg : Config) (db : Db) (calls : List Call) :
    db.Evolves (serve cfg db calls) :=
  run_evolves (run_iff_serve.mpr rfl)

end FlowAI.Registry
