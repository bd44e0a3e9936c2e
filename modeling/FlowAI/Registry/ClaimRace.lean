import FlowAI.Registry.Isolation

/-! # Racing Claims

  Whatever claims, registrations, ingestions and team changes run side by side, a
  task leaves `pending` by one committed claim, and that claim took the oldest task
  of its executor's queue among those committed before its FIFO probe.
-/

namespace FlowAI.Registry

/-! ## Section 1: One committed claim -/

/-- A committed claim took a pending task for its executor, and no eligible task that its
    probe could see and that is still pending stands before it. -/
def ClaimCommit.TookHead (c : ClaimCommit) : Prop :=
  ∃ executor task claimed, c.before.executors.lookup c.executorID = some executor ∧
    c.before.tasks.lookup c.taskID = some task ∧ task.currentState = .pending ∧
    c.after.tasks.lookup c.taskID = some claimed ∧ claimed.currentState = .created ∧
    claimed.executorID = some c.executorID ∧
    ∀ u, c.before.tasks.lookup u.taskID = some u → (c.seen.tasks.lookup u.taskID).isSome →
      u.eligible executor.authorizedTag executor.scope executor.teamID = true →
      ¬ u.position < task.position

/-- A task that is pending now was pending before, in the same place of the same queue. -/
theorem TaskRow.Follows.eligible {u u' : TaskRow} (h : u.Follows u') {tag : String}
    {scope : ExecutorScope} {teamID : Option String} (he : u'.eligible tag scope teamID = true) :
    u.eligible tag scope teamID = true ∧ u.position = u'.position := by
  have htag : u'.requiredTag = u.requiredTag := (congrArg TaskRow.requiredTag h.ingestion :)
  have htime : u'.ingestedAt = u.ingestedAt := (congrArg TaskRow.ingestedAt h.ingestion :)
  have hid : u'.taskID = u.taskID := (congrArg TaskRow.taskID h.ingestion :)
  have hpending : u'.currentState = .pending := by
    simp only [TaskRow.eligible, Bool.and_eq_true, decide_eq_true_eq] at he
    exact he.1.1
  have hbefore : u.currentState = .pending := by
    by_contra hclaimed
    exact (h.claimed hclaimed).1 hpending
  constructor
  · simpa [TaskRow.eligible, htag, h.teamID, hpending, hbefore] using he
  · simp [TaskRow.position, htime, hid]

variable {db base mine : Db} {hash : String → Int}

/-- The probe of a claim, at its commit. -/
theorem Probed.head {seen : Db} {executor : ExecutorRow} {task u : TaskRow}
    (h : Probed db executor task seen) (hu : db.tasks.lookup u.taskID = some u)
    (hseen : (seen.tasks.lookup u.taskID).isSome)
    (he : u.eligible executor.authorizedTag executor.scope executor.teamID = true) :
    ¬ u.position < task.position := by
  obtain ⟨u₀, hu₀⟩ := Option.isSome_iff_exists.mp hseen
  obtain ⟨u', hu', hfollows⟩ := h.since _ _ hu₀
  rw [hu] at hu'
  obtain rfl := Option.some.inj hu'
  obtain ⟨heligible, hposition⟩ := hfollows.eligible he
  intro hlt
  have hearlier : isEarlierPendingTask seen executor task = true := by
    rw [isEarlierPendingTask, List.any_eq_true]
    refine ⟨u₀, Table.mem_of_lookup hu₀, ?_⟩
    rw [Bool.and_eq_true, decide_eq_true_eq, hposition]
    exact ⟨heligible, hlt⟩
  rw [h.oldest] at hearlier
  cases hearlier

/-- What the commit of a session adds to the record of claims. -/
theorem Session.claims_tookHead {s : Session} {db' : Db} (hs : s.Sound db)
    (hc : s.copy = some (base, mine)) (hp : Db.publish base mine db = .ok db') :
    ∀ c ∈ s.claims db db', c.before = db ∧ c.after = db' ∧ c.TookHead := by
  intro c hmem
  unfold Session.claims at hmem
  split at hmem
  · rename_i call executor task seen base' mine'
    obtain rfl := List.mem_singleton.mp hmem
    cases hc
    obtain ⟨image, source, hafter⟩ := ClaimCall.tasks_of_publish hs (Db.publish_ok hp).2.2
    obtain ⟨hlocked, hprobed, -⟩ := hs
    refine ⟨rfl, rfl, executor, task, task.assign call.env call.req call.executorID image source,
      hlocked.executor, hlocked.task, hprobed.pending, ?_, rfl, rfl, fun u => hprobed.head⟩
    show db'.tasks.lookup call.req.taskID = _
    rw [hafter, if_pos rfl]
  · cases hmem

/-- A commit moves a task out of `pending` only if it is recorded as its claim. -/
theorem Session.claims_of_moved {s : Session} {db' : Db} (hs : s.Sound db)
    (hc : s.copy = some (base, mine)) (hp : Db.publish base mine db = .ok db') {id : String}
    {t t' : TaskRow} (ht : db.tasks.lookup id = some t) (ht' : db'.tasks.lookup id = some t')
    (hpending : t.currentState = .pending) (hmoved : t'.currentState ≠ .pending) :
    ∃ c ∈ s.claims db db', c.taskID = id := by
  have htasks := (Db.publish_ok hp).2.2
  -- no other kind of transaction changes a task that was there
  have hsame : db'.tasks.lookup id ≠ some t := by
    intro heq
    rw [heq] at ht'
    exact hmoved (Option.some.inj ht' ▸ hpending)
  unfold Session.copy at hc
  split at hc
  · rename_i call executor task seen base' mine'
    cases hc
    refine ⟨_, List.mem_singleton.mpr rfl, ?_⟩
    obtain ⟨image, source, hafter⟩ := ClaimCall.tasks_of_publish hs htasks
    by_contra hne
    rw [hafter, if_neg (Ne.symm hne)] at hsame
    exact hsame ht
  · cases hc
    rw [hs.tasks, Table.publish_unchanged] at htasks
    exact absurd (Except.ok.inj htasks ▸ ht) hsame
  · cases hc
    exact absurd ((IngestCall.tasks_of_publish hs.2.2 htasks).1 id t ht) hsame
  · cases hc
    rw [hs.2.tasks, Table.publish_unchanged] at htasks
    exact absurd (Except.ok.inj htasks ▸ ht) hsame
  · cases hc

/-! ## Section 2: Runs -/

/-- The record of claims agrees with the tasks. -/
structure World.ClaimsAgree {n : Nat} (db₀ : Db) (w : World n) : Prop where
  tookHead : ∀ c ∈ w.claims, c.TookHead
  once : (w.claims.map ClaimCommit.taskID).Nodup
  taken : ∀ c ∈ w.claims, ∃ t, w.db.tasks.lookup c.taskID = some t ∧ t.currentState ≠ .pending
  recorded : ∀ id t, w.db.tasks.lookup id = some t → t.currentState ≠ .pending →
    (∃ t₀, db₀.tasks.lookup id = some t₀ ∧ t₀.currentState ≠ .pending) ∨
      ∃ c ∈ w.claims, c.taskID = id

theorem World.ClaimsAgree.commit {n : Nat} {db₀ : Db} {w : World n} {i : Fin n}
    (h : w.ClaimsAgree db₀) (hw : w.Sound hash) (hcopy : (w.sessions i).copy = some (base, mine))
    (hpub : Db.publish base mine w.db = .ok db) : (w.commit i db).ClaimsAgree db₀ := by
  have hs := hw.sessions i
  have hcommits : (w.sessions i).Commits hash w.db db := Session.commits hs hcopy hpub
  have hnew := Session.claims_tookHead hs hcopy hpub
  have hlater : ∀ id t, w.db.tasks.lookup id = some t → t.currentState ≠ .pending →
      ∃ t', db.tasks.lookup id = some t' ∧ t'.currentState ≠ .pending := by
    intro id t ht hclaimed
    obtain ⟨t', ht', hfollows⟩ := hcommits.follows id t ht
    exact ⟨t', ht', (hfollows.claimed hclaimed).1⟩
  refine ⟨?_, ?_, ?_, ?_⟩
  · intro c hc
    rcases List.mem_append.mp hc with hc | hc
    · exact h.tookHead c hc
    · exact (hnew c hc).2.2
  · show ((w.claims ++ _).map ClaimCommit.taskID).Nodup
    rw [List.map_append, List.nodup_append]
    refine ⟨h.once, ?_, ?_⟩
    · unfold Session.claims
      split <;> simp
    · -- a recorded task is not pending any more, so no later claim can take it
      intro id hid id' hid' heq
      obtain ⟨c, hc, rfl⟩ := List.mem_map.mp hid
      obtain ⟨c', hc', rfl⟩ := List.mem_map.mp hid'
      obtain ⟨t, ht, hclaimed⟩ := h.taken c hc
      obtain ⟨hbefore, -, executor, task, _, -, htask, hpending, -⟩ := hnew c' hc'
      rw [hbefore, ← heq, ht] at htask
      exact hclaimed (Option.some.inj htask ▸ hpending)
  · intro c hc
    rcases List.mem_append.mp hc with hc | hc
    · obtain ⟨t, ht, hclaimed⟩ := h.taken c hc
      exact hlater _ t ht hclaimed
    · obtain ⟨-, hafter, _, _, claimed, -, -, -, hclaimed, hstate, -, -⟩ := hnew c hc
      rw [hafter] at hclaimed
      exact ⟨claimed, hclaimed, by rw [hstate]; decide⟩
  · intro id t' ht' hclaimed
    cases ht : w.db.tasks.lookup id with
    | none =>
      exact absurd (hcommits.added id t' ht' ht).1 hclaimed
    | some t =>
      by_cases hpending : t.currentState = .pending
      · obtain ⟨c, hc, hid⟩ := Session.claims_of_moved hs hcopy hpub ht ht' hpending hclaimed
        exact .inr ⟨c, List.mem_append_right _ hc, hid⟩
      · rcases h.recorded id t ht hpending with hstart | ⟨c, hc, hid⟩
        · exact .inl hstart
        · exact .inr ⟨c, List.mem_append_left _ hc, hid⟩

theorem World.reachable_claimsAgree {cfg : Config} {n : Nat} {db₀ : Db}
    {w : World n} (h : (interleaving cfg hash n db₀).Reachable w) : w.ClaimsAgree db₀ := by
  refine h.invariant ?_ ?_
  · rintro w rfl
    exact ⟨by simp [World.initial], by simp [World.initial], by simp [World.initial],
      fun id t ht hclaimed => .inl ⟨t, ht, hclaimed⟩⟩
  · intro w l w' hr hw hstep
    cases World.next_step hstep with
    | quiet i s _ _ => exact { hw with }
    | commit i hcopy hpub => exact hw.commit (World.reachable_sound hr) hcopy hpub

/-- In every interleaving, each claim that commits took the head of its executor's queue,
    no task is taken twice, and a task leaves `pending` only by such a claim. -/
theorem claims_exclusive_and_fifo {cfg : Config} {hash : String → Int} {n : Nat} {db₀ : Db}
    {w : World n} (h : (interleaving cfg hash n db₀).Reachable w) :
    (∀ c ∈ w.claims, c.TookHead) ∧ (w.claims.map ClaimCommit.taskID).Nodup ∧
      ∀ id t, w.db.tasks.lookup id = some t → t.currentState ≠ .pending →
        (∃ t₀, db₀.tasks.lookup id = some t₀ ∧ t₀.currentState ≠ .pending) ∨
          ∃ c ∈ w.claims, c.taskID = id := by
  have hagree := World.reachable_claimsAgree h
  exact ⟨hagree.tookHead, hagree.once, hagree.recorded⟩

/-! ### A race

  Two executors want the first of two tasks, one of them registers under another tag and
  a third task arrives meanwhile. -/

def sampleRival : ExecutorIdentity := ⟨"rival", .system, none, "request"⟩

def sampleRaceDb : Db :=
  serve sampleConfig .empty (sampleSetup ++ [
    ⟨sampleEnv "rival" 4, .registerExecutor "rival" (sampleRegistration "go") sampleRival⟩,
    sampleIngest "task" "1" 5, sampleIngest "next" "2" 6])

def sampleContender (identity : ExecutorIdentity) (taskID : String) : Session :=
  .claim ⟨sampleEnv "claim" 9, ⟨taskID, identity.executorID⟩, identity.executorID, identity⟩ .start

/-- A toy hash for the keys of advisory locks. -/
def sampleKey (text : String) : Int := text.length

def sampleRaceLabels : List (World.Label 4) :=
  [.begin 0 (sampleContender sampleIdentity "task"), .begin 1 (sampleContender sampleRival "task"),
    .begin 2 (.ingest ⟨sampleEnv "third" 9,
      ⟨"team", "source", "3", "type", .text (.obj []), none, none⟩,
      ⟨"team", "source", "listener", "request"⟩⟩ .start),
    .begin 3 (.register ⟨sampleEnv "exec" 9, "exec", sampleRegistration "rust", sampleIdentity⟩
      .start),
    .advance 0, .advance 1, .advance 3, .advance 1, .advance 2, .advance 2, .advance 1, .advance 2,
    .advance 1, .advance 1, .advance 1, .advance 1, .advance 0, .advance 0, .advance 0, .advance 0,
    .advance 3, .advance 3, .advance 3]

/-- The rival takes the task; the other claim finds it taken. -/
theorem claims_exclusive_and_fifo_sample :
    ∃ w, (World.initial 4 sampleRaceDb).run sampleConfig sampleKey sampleRaceLabels = some w ∧
      w.claims.map (fun c => (c.executorID, c.taskID)) = [("rival", "task")] ∧
      (∀ c ∈ w.claims, c.TookHead) := by
  have hrun : ∃ w, (World.initial 4 sampleRaceDb).run sampleConfig sampleKey sampleRaceLabels =
      some w ∧ w.claims.map (fun c => (c.executorID, c.taskID)) = [("rival", "task")] := by
    decide +kernel
  obtain ⟨w, hw, hclaims⟩ := hrun
  have hreach : (interleaving sampleConfig sampleKey 4 sampleRaceDb).Reachable w :=
    (World.run_iff hw).reachable (.init rfl)
  exact ⟨w, hw, hclaims, (claims_exclusive_and_fifo hreach).1⟩

end FlowAI.Registry
