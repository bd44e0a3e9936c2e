import FlowAI.Registry.Lifecycle

/-! # Frozen Launch Parameters

  Snapshot rows and secret references are written by the claim that takes their
  task out of `pending`, and by nothing else: a pending task has none, and a
  task that is held was claimed at one point of the run, by the executor that
  holds it.
-/

namespace FlowAI.Registry

variable {db db' : Db} {taskID executorID : String} {cfg : Config} {call : Call}

/-! ## Section 1: Nothing is frozen before the claim -/

/-- A task that has been claimed. -/
def IsClaimed (db : Db) (taskID : String) : Prop :=
  ∃ t, db.tasks.lookup taskID = some t ∧ t.currentState ≠ .pending

theorem IsClaimed.later (h : IsClaimed db taskID) (hevolves : db.Evolves db') :
    IsClaimed db' taskID := by
  obtain ⟨t, ht, hstate⟩ := h
  obtain ⟨t', ht', hfollows⟩ := hevolves.tasks taskID t ht
  exact ⟨t', ht', (hfollows.claimed hstate).1⟩

/-- Frozen rows belong to claimed tasks. -/
structure FrozenInvariant (db : Db) : Prop where
  snapshot : ∀ id s, db.snapshots.lookup id = some s → IsClaimed db id
  ref : ∀ id key r, db.secretRefs.lookup (id, key) = some r → IsClaimed db id

/-- The frozen rows a call leaves: those of before, or those of the task it claims. -/
theorem Effect.freezeStep (h : Effect cfg call db db') :
    db'.snapshots = db.snapshots ∧ db'.secretRefs = db.secretRefs ∨
      ∃ taskID teamID resolved,
        Freezes db taskID teamID resolved db'.snapshots db'.secretRefs ∧
        IsClaimed db' taskID := by
  cases h with
  | @claimTask req executorID _ _ task _ _ hmay hfresh =>
    obtain ⟨_, source, image, _, _, tasks, _, hfreeze, -, -, htasks, -, rfl⟩ := hfresh.effect
    refine .inr ⟨_, _, _, hfreeze, task.assign call.env req executorID image source, ?_,
      TaskState.noConfusion⟩
    show tasks.lookup req.taskID = _
    rw [Table.lookup_update htasks, if_pos rfl, hmay.found]
    rfl
  | appendTaskEvent _ _ _ _ hfresh | appendTaskControlEvent _ _ _ hfresh =>
    obtain ⟨_, _, _, -, -, -, rfl⟩ := hfresh.effect
    exact .inl ⟨rfl, rfl⟩
  | _ => exact .inl ⟨rfl, rfl⟩

/-- Step lemma. -/
theorem Effect.frozenInvariant (heffect : Effect cfg call db db') (h : FrozenInvariant db) :
    FrozenInvariant db' := by
  have hevolves := heffect.evolves
  rcases heffect.freezeStep with ⟨hsnap, hrefs⟩ | ⟨taskID, teamID, resolved, hfreeze, hclaimed⟩
  · refine ⟨?_, ?_⟩
    · intro id s hs
      rw [hsnap] at hs
      exact (h.snapshot id s hs).later hevolves
    · intro id key r hr
      rw [hrefs] at hr
      exact (h.ref id key r hr).later hevolves
  · refine ⟨?_, ?_⟩
    · intro id s hs
      by_cases hid : id = taskID
      · rw [hid]
        exact hclaimed
      · rw [(hfreeze.other_tasks hid).1] at hs
        exact (h.snapshot id s hs).later hevolves
    · intro id key r hr
      by_cases hid : id = taskID
      · rw [hid]
        exact hclaimed
      · rw [(hfreeze.other_tasks hid).2] at hr
        exact (h.ref id key r hr).later hevolves

/-- Run lemma. -/
theorem reachable_frozenInvariant (h : (registry cfg).Reachable db) :
    FrozenInvariant db := by
  refine h.invariant ?_ ?_
  · intro db hinit
    cases hinit
    refine ⟨?_, ?_⟩
    · intro id s hs
      cases hs
    · intro id key r hr
      cases hr
  · intro db call db' _ ih hstep
    exact (step_effect hstep).frozenInvariant ih

variable {t : TaskRow}

theorem FrozenInvariant.of_pending (h : FrozenInvariant db)
    (ht : db.tasks.lookup taskID = some t) (hpending : t.currentState = .pending) :
    db.snapshots.lookup taskID = none ∧ ∀ key, db.secretRefs.lookup (taskID, key) = none := by
  have hno : ¬ IsClaimed db taskID := by
    intro hclaimed
    obtain ⟨t', ht', hstate⟩ := hclaimed
    rw [ht] at ht'
    exact hstate (Option.some.inj ht' ▸ hpending)
  constructor
  · exact Option.eq_none_iff_forall_not_mem.mpr (fun s hs => hno (h.snapshot _ s hs))
  · intro key
    exact Option.eq_none_iff_forall_not_mem.mpr (fun r hr => hno (h.ref _ key r hr))

/-! ## Section 2: The claim of a held task -/

/-- The call is the claim that takes the task, pending until now, for the executor. -/
structure TakesTask (cfg : Config) (db : Db) (call : Call) (taskID executorID : String) : Prop where
  claims : ∃ req identity, call.op = .claimTask req executorID identity ∧ req.taskID = taskID
  accepted : (exec cfg call).errorOf db = none
  pending : ∃ t, db.tasks.lookup taskID = some t ∧ t.currentState = .pending

/-- What an accepted claim rests on, with the rows it writes. -/
theorem TakesTask.fresh (h : TakesTask cfg db call taskID executorID) :
    ∃ req identity executor task, req.taskID = taskID ∧
      MayClaim db req executorID identity executor task ∧
      FreshClaim cfg call.env req executorID executor task db ((exec cfg call).commit db) := by
  obtain ⟨req, identity, hop, hid⟩ := h.claims
  obtain ⟨t, ht, hpending⟩ := h.pending
  obtain ⟨_, hok⟩ := Tx.errorOf_eq_none.mp h.accepted
  have hexec : exec cfg call = Tx.void (claimTask cfg call.env req executorID identity) := by
    simp only [exec, hop]
  rw [hexec] at hok
  obtain ⟨response, hclaim⟩ := Tx.void_eq_ok.mp hok
  obtain ⟨executor, task, hmay, -, ⟨hstate, -⟩ | hfresh⟩ := claimTask_ok hclaim
  · have hfound := hmay.found
    rw [hid, ht] at hfound
    exact absurd (Option.some.inj hfound ▸ hpending) hstate
  · rw [hexec]
    exact ⟨req, identity, executor, task, hid, hmay, hfresh⟩

/-- A call that takes a task out of `pending` is a claim of it by the executor that then
    holds it. -/
theorem takesTask_of_step (ht : ((exec cfg call).commit db).tasks.lookup taskID = some t)
    (hstate : t.currentState ≠ .pending) (hheld : t.executorID = some executorID)
    (hbefore : ¬ IsClaimed db taskID) : TakesTask cfg db call taskID executorID := by
  have hnot : ∀ t', db.tasks.lookup taskID = some t' → t'.currentState = .pending := by
    intro t' ht'
    by_contra hne
    exact hbefore ⟨t', ht', hne⟩
  have hchanged : db.tasks.lookup taskID ≠ some t := fun hsame => hstate (hnot t hsame)
  have haccepted : (exec cfg call).errorOf db = none := by
    cases herr : (exec cfg call).errorOf db with
    | none => rfl
    | some e =>
      rw [Tx.commit_of_error (Tx.errorOf_eq_some.mp herr)] at ht
      exact absurd ht hchanged
  have hstep : TaskStep cfg call db ((exec cfg call).commit db).tasks
      ((exec cfg call).commit db).taskEvents := (step_effect rfl).taskStep
  generalize ((exec cfg call).commit db).tasks = tasks at ht hstep
  generalize ((exec cfg call).commit db).taskEvents = events at hstep
  cases hstep with
  | keep => exact absurd ht hchanged
  | @ingest _ _ row _ _ _ hpending hins =>
    have hlook : tasks.lookup taskID =
        if row.taskID = taskID then some row else db.tasks.lookup taskID :=
      Table.lookup_insert hins taskID
    rw [hlook] at ht
    split at ht
    · exact absurd (Option.some.inj ht ▸ hpending) hstate
    · exact absurd ht hchanged
  | @claim req claimant identity executor task image source _ _ hop hmay hpending hupd _ =>
    rw [Table.lookup_update hupd] at ht
    split at ht
    · rename_i hid
      subst hid
      rw [hmay.found] at ht
      obtain rfl := Option.some.inj ht
      obtain rfl : claimant = executorID := Option.some.inj hheld
      exact ⟨⟨req, identity, hop, rfl⟩, haccepted, task, hmay.found, hpending⟩
    · exact absurd ht hchanged
  | @append req identity parsed task _ _ hop hparse hmay htr _ hupd _ =>
    rw [Table.lookup_update hupd] at ht
    split at ht
    · rename_i hid
      subst hid
      -- only `created` leaves `pending`, and an append never carries it
      have hcreated := parseTaskEvent_ne_created hparse
      rw [hnot task hmay.found] at htr
      generalize parsed.eventType = kind at hcreated htr
      cases kind with
      | created => exact absurd rfl hcreated
      | _ => cases htr
    · exact absurd ht hchanged

/-- A held task was claimed at one point of the run. -/
theorem exists_claim_of_held {calls : List Call}
    (ht : (serve cfg .empty calls).tasks.lookup taskID = some t)
    (hstate : t.currentState ≠ .pending) (hheld : t.executorID = some executorID) :
    ∃ before claim after, calls = before ++ claim :: after ∧
      TakesTask cfg (serve cfg .empty before) claim taskID executorID := by
  induction calls using List.reverseRecOn generalizing t with
  | nil => cases ht
  | append_singleton calls call ih =>
    rw [serve_append] at ht
    by_cases hbefore : IsClaimed (serve cfg .empty calls) taskID
    · -- claimed already: the claim columns have not changed since
      obtain ⟨t₀, ht₀, hstate₀⟩ := hbefore
      have hstep : (registry cfg).step (serve cfg .empty calls) call
          (serve cfg (serve cfg .empty calls) [call]) := rfl
      obtain ⟨t₁, ht₁, hfollows⟩ := (step_effect hstep).evolves.tasks taskID t₀ ht₀
      rw [ht] at ht₁
      obtain rfl := Option.some.inj ht₁
      have hclaim := (hfollows.claimed hstate₀).2
      have hheld₀ : t₀.executorID = some executorID :=
        (congrArg TaskClaim.executorID hclaim).symm.trans hheld
      obtain ⟨before, claim, after, rfl, htakes⟩ := ih ht₀ hstate₀ hheld₀
      exact ⟨before, claim, after ++ [call], by simp, htakes⟩
    · exact ⟨calls, call, [], rfl, takesTask_of_step ht hstate hheld hbefore⟩

end FlowAI.Registry
