import FlowAI.Registry.Interleaving

/-! # Isolation

  What a transaction may rely on while others commit.  Each phase of a session
  remembers rows it read under its locks; `Session.Sound` relates them to what is
  committed now.  A commit changes rows only under their locks
  (`Session.Commits`), so a sound session stays sound whatever the others do
  (`World.Sound.step`).
-/

namespace FlowAI.Registry

variable {s : Session} {base mine db db' : Db} {teamID : String} {result : TaskListEntry × Bool}
  {hash : String → Int} {executor : ExecutorRow} {task : TaskRow}

/-! ## Section 1: What a session knows -/

/-- The rows a claim has locked are the committed ones. -/
structure ClaimCall.Locked (call : ClaimCall) (db : Db) (executor : ExecutorRow) (task : TaskRow) :
    Prop where
  executor : db.executors.lookup call.executorID = some executor
  task : db.tasks.lookup call.req.taskID = some task

/-- What the FIFO probe of a claim has established. -/
structure Probed (db : Db) (executor : ExecutorRow) (task : TaskRow) (seen : Db) : Prop where
  pending : task.currentState = .pending
  oldest : isEarlierPendingTask seen executor task = false
  since : seen.tasks.Persists TaskRow.Follows db.tasks

/-- What a claim has written. -/
structure ClaimCall.Wrote (call : ClaimCall) (task : TaskRow) (base mine : Db) : Prop where
  teams : mine.teams = base.teams
  executors : mine.executors = base.executors
  task : base.tasks.lookup call.req.taskID = some task
  tasks : ∃ image source, base.tasks.update call.req.taskID
    (TaskRow.assign call.env call.req call.executorID image source) (fun _ => rfl) = .ok mine.tasks

def ClaimCall.Sound (call : ClaimCall) (db : Db) : ClaimPhase → Prop
  | .start => True
  | .executorLocked executor | .tagLocked executor =>
    db.executors.lookup call.executorID = some executor
  | .taskLocked executor task | .teamLocked executor task => call.Locked db executor task
  | .probed executor task seen => call.Locked db executor task ∧ Probed db executor task seen
  | .written executor task seen base mine =>
    call.Locked db executor task ∧ Probed db executor task seen ∧ call.Wrote task base mine

/-- What a registration has written. -/
structure RegisterCall.Wrote (call : RegisterCall) (found : Bool) (base mine : Db) : Prop where
  teams : mine.teams = base.teams
  tasks : mine.tasks = base.tasks
  others : ∀ id, id ≠ call.executorID → mine.executors.lookup id = base.executors.lookup id
  registered : (mine.executors.lookup call.executorID).isSome
  before : (base.executors.lookup call.executorID).isSome = found

def RegisterCall.Sound (call : RegisterCall) : RegisterPhase → Prop
  | .written found base mine => call.Wrote found base mine
  | _ => True

/-- The tuple that identifies a submission. -/
def TaskRow.submission (t : TaskRow) : String × String × String :=
  (t.teamID, t.sourceSystemID, t.sourceID)

def IngestCall.submission (call : IngestCall) : String × String × String :=
  (call.ident.teamID, call.ident.sourceSystemID, call.req.sourceID)

/-- What an ingestion has written: nothing, or one pending task of its team. -/
structure IngestCall.Wrote (call : IngestCall) (result : TaskListEntry × Bool) (base mine : Db) :
    Prop where
  teams : mine.teams = base.teams
  executors : mine.executors = base.executors
  answer : ∃ t, t.submission = call.submission ∧ scanTaskRow t = .ok result.1 ∧
    (base.tasks.lookup t.taskID = some t ∧ result.2 = false ∧ mine.tasks = base.tasks ∨
      base.tasks.insert t = .ok mine.tasks ∧ t.currentState = .pending ∧ result.2 = true)

def IngestCall.Sound (call : IngestCall) (db : Db) : TeamPhase (TaskListEntry × Bool) → Prop
  | .written result base mine =>
    (∃ team, db.teams.lookup call.ident.teamID = some team ∧ team.archivedAt = none) ∧
      base.tasks.Persists TaskRow.Follows db.tasks ∧ call.Wrote result base mine
  | _ => True

/-- An archived team stays archived, with the time of it. -/
def TeamRow.KeepsArchive (team team' : TeamRow) : Prop :=
  ∀ a, team.archivedAt = some a → team'.archivedAt = some a

/-- What a change of a team has written. -/
structure TeamCall.Wrote (call : TeamCall) (base mine : Db) : Prop where
  executors : mine.executors = base.executors
  tasks : mine.tasks = base.tasks
  others : ∀ id, id ≠ call.teamID → mine.teams.lookup id = base.teams.lookup id
  row : ∃ team team', base.teams.lookup call.teamID = some team ∧
    mine.teams.lookup call.teamID = some team' ∧ team.KeepsArchive team'

def TeamCall.Sound (call : TeamCall) (db : Db) : TeamPhase Unit → Prop
  | .written _ base mine =>
    db.teams.lookup call.teamID = base.teams.lookup call.teamID ∧ call.Wrote base mine
  | _ => True

def Session.Sound (db : Db) : Session → Prop
  | .idle => True
  | .claim call phase => call.Sound db phase
  | .register call phase => call.Sound phase
  | .ingest call phase => call.Sound db phase
  | .changeTeam call phase => call.Sound db phase

/-! ## Section 2: Statements keep a session sound -/

section Moves

variable {cfg : Config} {free : Lock Resource → Bool}

/-- A statement that neither waits nor stops has met its condition. -/
theorem Move.of_ite {p : Prop} [Decidable p] {m m' m'' : Move} (h : (if p then m else m') = m'')
    (hne : m' ≠ m'') : p ∧ m = m'' := by
  by_cases hp : p
  · exact ⟨hp, (if_pos hp).symm.trans h⟩
  · exact absurd ((if_neg hp).symm.trans h) hne

theorem Move.ofResult_go {α : Type} {result : Except StoreError (α × Db)} {next : α → Db → Session}
    (h : Move.ofResult result next = .go s) :
    ∃ a mine, result = .ok (a, mine) ∧ s = next a mine := by
  unfold Move.ofResult at h
  split at h
  · rename_i a mine
    cases h
    exact ⟨a, mine, rfl, rfl⟩
  · cases h

theorem Move.ofResult_ne_commit {α : Type} {result : Except StoreError (α × Db)}
    {next : α → Db → Session} :
    Move.ofResult result next ≠ .commit base mine := by
  unfold Move.ofResult
  split <;> simp

theorem lockClaimExecutor_ok {executorID : String} {identity : ExecutorIdentity}
    (h : lockClaimExecutor executorID identity db = .ok (executor, db')) :
    db.executors.lookup executorID = some executor := by
  simp only [lockClaimExecutor, Tx.bind_eq_ok, Tx.exists_get, Tx.exists_ofOption,
    Tx.exists_ensure, Tx.pure_eq_ok] at h
  obtain ⟨_, he, -, rfl, rfl⟩ := h
  exact he

theorem lockClaimTask_ok {taskID : String}
    (h : lockClaimTask executor taskID db = .ok (task, db')) :
    db.tasks.lookup taskID = some task := by
  simp only [lockClaimTask, Tx.bind_eq_ok, Tx.exists_get, Tx.exists_ofOption, Tx.exists_ensure,
    Tx.pure_eq_ok] at h
  obtain ⟨_, ht, -, -, rfl, rfl⟩ := h
  exact ht

theorem claimWrite_ok {call : ClaimCall} {response : ClaimResponse}
    (htask : db.tasks.lookup call.req.taskID = some task)
    (h : claimWrite cfg call task db = .ok (response, mine)) : call.Wrote task db mine := by
  simp only [claimWrite, Tx.bind_eq_ok, Tx.mapError_eq_ok] at h
  obtain ⟨_, db₁, hwrite, hresp⟩ := h
  obtain ⟨-, rfl⟩ := buildClaimResponseForRow_eq_ok.mp hresp
  obtain ⟨_, _, _, _, _, tasks, _, -, -, -, htasks, -, rfl⟩ := writeClaim_ok hwrite
  exact ⟨rfl, rfl, htask, _, _, htasks⟩

theorem registerExecutor_wrote {call : RegisterCall} {row : ExecutorRow} {found : Bool}
    (hfound : (db.executors.lookup call.executorID).isSome = found)
    (h : registerExecutor cfg call.env call.executorID call.req call.identity db =
      .ok (row, mine)) :
    call.Wrote found db mine := by
  obtain ⟨executors, rfl, ⟨hexists, hupd⟩ | ⟨hins, -⟩⟩ := registerExecutor_ok h
  · refine ⟨rfl, rfl, ?_, ?_, hfound⟩
    · intro id hid
      rw [Table.lookup_update hupd, if_neg hid]
    · rw [Table.lookup_update hupd, if_pos rfl, Option.isSome_map]
      exact hexists
  · refine ⟨rfl, rfl, ?_, ?_, hfound⟩
    · intro id hid
      rw [Table.lookup_insert hins]
      exact if_neg (Ne.symm hid)
    · rw [Table.lookup_insert hins]
      simp [ExecutorRegistrationRequest.row, executorSchema]

theorem findSubmission_some {sourceSystemID sourceID : String} {t : TaskRow}
    (h : findSubmission db teamID sourceSystemID sourceID = some t) :
    db.tasks.lookup t.taskID = some t ∧ t.submission = (teamID, sourceSystemID, sourceID) := by
  have hmem : t ∈ db.tasks.rows := List.mem_of_find?_eq_some h
  have hmatch := List.find?_some h
  simp only [Bool.and_eq_true, decide_eq_true_eq] at hmatch
  obtain ⟨⟨rfl, rfl⟩, rfl⟩ := hmatch
  exact ⟨Table.lookup_key hmem, rfl⟩

theorem ingestTask_wrote {call : IngestCall}
    (h : ingestTask cfg call.env call.req call.ident db = .ok (result, mine)) :
    (∃ team, db.teams.lookup call.ident.teamID = some team ∧ team.archivedAt = none) ∧
      call.Wrote result db mine := by
  obtain ⟨taskType, payload, hsub, ⟨t, hfind, hscan, hflag, rfl⟩ |
    ⟨-, tasks, hins, hscan, hflag, rfl⟩⟩ := ingestTask_eq_ok.mp h
  · obtain ⟨hlookup, hsubm⟩ := findSubmission_some hfind
    exact ⟨hsub.active, rfl, rfl, t, hsubm, hscan, .inl ⟨hlookup, hflag, rfl⟩⟩
  · exact ⟨hsub.active, rfl, rfl, _, rfl, hscan, .inr ⟨hins, rfl, hflag⟩⟩

theorem TeamCall.write_wrote {call : TeamCall} {u : Unit} (h : call.write db = .ok (u, mine)) :
    call.Wrote db mine := by
  unfold TeamCall.write at h
  cases hchange : call.change with
  | update req =>
    simp only [hchange, Tx.void_eq_ok] at h
    obtain ⟨team, h⟩ := h
    obtain ⟨current, teams, _, _, hcur, hupd, rfl⟩ := updateTeam_ok h
    refine ⟨rfl, rfl, ?_, current, req.apply current, hcur, ?_, fun a ha => ha⟩
    · intro id hid
      rw [Table.lookup_update hupd, if_neg hid]
    · rw [Table.lookup_update hupd, if_pos rfl, hcur]
      rfl
  | archive =>
    simp only [hchange, Tx.void_eq_ok] at h
    obtain ⟨result, h⟩ := h
    obtain ⟨current, hcur, rfl | ⟨hactive, teams, _, _, hupd, rfl⟩⟩ := archiveTeam_ok h
    · exact ⟨rfl, rfl, fun _ _ => rfl, current, current, hcur, hcur, fun a ha => ha⟩
    · refine ⟨rfl, rfl, ?_, current, { current with archivedAt := some call.env.txTime }, hcur, ?_,
        ?_⟩
      · intro id hid
        rw [Table.lookup_update hupd, if_neg hid]
      · rw [Table.lookup_update hupd, if_pos rfl, hcur]
        rfl
      · -- only a team that was not archived gets a time
        intro a ha
        rw [hactive] at ha
        cases ha

/-- What one statement of a session leads to: it stays sound, and holds no lock it neither
    held nor was granted. -/
structure Advances (hash : String → Int) (db : Db) (free : Lock Resource → Bool) (s s' : Session) :
    Prop where
  sound : s.Sound db → s'.Sound db
  locks : ∀ l ∈ s'.holds hash, l ∈ s.holds hash ∨ free l = true

theorem ClaimCall.move_go {call : ClaimCall} {phase : ClaimPhase}
    (h : call.move cfg hash db free phase = .go s) :
    Advances hash db free (.claim call phase) s := by
  cases phase with
  | start =>
    obtain ⟨hfree, h⟩ := Move.of_ite h (by simp)
    obtain ⟨executor, _, hres, rfl⟩ := Move.ofResult_go h
    refine ⟨fun _ => lockClaimExecutor_ok hres, ?_⟩
    simpa using hfree
  | executorLocked executor =>
    obtain ⟨hfree, h⟩ := Move.of_ite h (by simp)
    cases h
    refine ⟨fun hs => hs, ?_⟩
    simpa using hfree
  | tagLocked executor =>
    obtain ⟨hfree, h⟩ := Move.of_ite h (by simp)
    obtain ⟨task, _, hres, rfl⟩ := Move.ofResult_go h
    refine ⟨fun hs => ⟨hs, lockClaimTask_ok hres⟩, ?_⟩
    simpa using hfree
  | taskLocked executor task =>
    obtain ⟨hfree, h⟩ := Move.of_ite h (by simp)
    obtain ⟨_, _, -, rfl⟩ := Move.ofResult_go h
    refine ⟨fun hs => hs, ?_⟩
    simpa using hfree
  | teamLocked executor task =>
    obtain ⟨hprobe, h⟩ := Move.of_ite h (by simp)
    cases h
    refine ⟨fun hs => ⟨hs, hprobe.1, hprobe.2, .refl TaskRow.Follows.refl _⟩, ?_⟩
    intro l hl
    exact .inl hl
  | probed executor task seen =>
    obtain ⟨_, mine, hres, rfl⟩ := Move.ofResult_go h
    refine ⟨fun hs => ⟨hs.1, hs.2, claimWrite_ok hs.1.task hres⟩, ?_⟩
    intro l hl
    exact .inl hl
  | written executor task seen base mine => cases h

theorem RegisterCall.move_go {call : RegisterCall} {phase : RegisterPhase}
    (h : call.move cfg hash db free phase = .go s) :
    Advances hash db free (.register call phase) s := by
  cases phase with
  | start =>
    obtain ⟨hfree, h⟩ := Move.of_ite h (by simp)
    cases h
    refine ⟨fun _ => trivial, ?_⟩
    simpa using hfree
  | keyLocked =>
    obtain ⟨hfree, h⟩ := Move.of_ite h (by simp)
    cases h
    refine ⟨fun _ => trivial, ?_⟩
    intro l hl
    simp only [Session.holds, RegisterPhase.holds, List.mem_cons] at hl ⊢
    rcases hl with rfl | hl
    · exact .inl (.inl rfl)
    · split at hl
      · rw [List.mem_singleton.mp hl]
        exact .inr hfree
      · cases hl
  | rowLocked found =>
    obtain ⟨hfound, h⟩ := Move.of_ite h (by simp)
    obtain ⟨_, mine, hres, rfl⟩ := Move.ofResult_go h
    exact ⟨fun _ => registerExecutor_wrote hfound hres, fun l hl => .inl hl⟩
  | written found base mine => cases h

/-- The two transactions that lock a team; `wrote` is what the write makes sound. -/
theorem TeamPhase.move_go {α : Type} {write : StoreTx α} {put : TeamPhase α → Session}
    {phase : TeamPhase α} (hholds : ∀ phase, (put phase).holds hash = phase.holds teamID)
    (hlocked : (put .locked).Sound db) (hwrote : ∀ result mine, write db = .ok (result, mine) →
      (put (.written result db mine)).Sound db) (h : phase.move db free teamID write put = .go s) :
    Advances hash db free (put phase) s := by
  cases phase with
  | start =>
    obtain ⟨hfree, h⟩ := Move.of_ite h (by simp)
    obtain ⟨-, h⟩ := Move.of_ite h (by simp)
    cases h
    refine ⟨fun _ => hlocked, ?_⟩
    rw [hholds, hholds]
    simpa using hfree
  | locked =>
    obtain ⟨result, mine, hres, rfl⟩ := Move.ofResult_go h
    refine ⟨fun _ => hwrote result mine hres, ?_⟩
    rw [hholds, hholds]
    exact fun l hl => .inl hl
  | written result base mine => cases h

theorem Session.move_go {s' : Session} (h : s.move cfg hash db free = .go s') :
    Advances hash db free s s' := by
  cases s with
  | idle => cases h
  | claim call phase => exact ClaimCall.move_go h
  | register call phase => exact RegisterCall.move_go h
  | ingest call phase =>
    refine TeamPhase.move_go (fun _ => rfl) trivial ?_ h
    intro result mine hres
    obtain ⟨hactive, hwrote⟩ := ingestTask_wrote hres
    exact ⟨hactive, .refl TaskRow.Follows.refl _, hwrote⟩
  | changeTeam call phase =>
    refine TeamPhase.move_go (fun _ => rfl) trivial ?_ h
    intro _ mine hres
    exact ⟨rfl, TeamCall.write_wrote hres⟩

end Moves

/-! ## Section 3: What a commit changes -/

/-- What a session that is ready to commit started from and made of it. -/
def Session.copy : Session → Option (Db × Db)
  | .claim _ (.written _ _ _ base mine) => some (base, mine)
  | .register _ (.written _ base mine) => some (base, mine)
  | .ingest _ (.written _ base mine) => some (base, mine)
  | .changeTeam _ (.written _ base mine) => some (base, mine)
  | _ => none

/-- The published tables the transactions write and read. -/
theorem Db.publish_ok {now : Db} (h : Db.publish base mine now = .ok db) :
    Table.publish base.teams mine.teams now.teams = .ok db.teams ∧
      Table.publish base.executors mine.executors now.executors = .ok db.executors ∧
      Table.publish base.tasks mine.tasks now.tasks = .ok db.tasks := by
  simp only [Db.publish, Check.bind_eq_ok, Check.pure_eq_ok] at h
  obtain ⟨teams, hteams, executors, hexecutors, tasks, htasks, _, -, _, -, _, -, _, -, _, -, rfl⟩ := h
  exact ⟨hteams, hexecutors, htasks⟩

/-- What the commit of a session does to rows that were committed before: it changes
    those it has locked, along the lifecycle of tasks and the archive of teams, and adds
    pending tasks of teams that are not archived. -/
structure Session.Commits (hash : String → Int) (s : Session) (db db' : Db) : Prop where
  executors : ∀ id e, db.executors.lookup id = some e →
    forUpdate (.executor id) ∈ s.holds hash ∨ db'.executors.lookup id = some e
  tasks : ∀ id t, db.tasks.lookup id = some t →
    forUpdate (.task id) ∈ s.holds hash ∨ db'.tasks.lookup id = some t
  teams : ∀ id team, db.teams.lookup id = some team →
    forUpdate (.team id) ∈ s.holds hash ∨ db'.teams.lookup id = some team
  follows : db.tasks.Persists TaskRow.Follows db'.tasks
  archived : db.teams.Persists TeamRow.KeepsArchive db'.teams
  added : ∀ id t, db'.tasks.lookup id = some t → db.tasks.lookup id = none →
    t.currentState = .pending ∧
      ∃ team, db.teams.lookup t.teamID = some team ∧ team.archivedAt = none

theorem TeamRow.KeepsArchive.refl (team : TeamRow) : team.KeepsArchive team := fun _ h => h

/-- The commit of a claim: only the claimed task changes. -/
theorem ClaimCall.tasks_of_publish {call : ClaimCall} {seen : Db}
    (hs : call.Sound db (.written executor task seen base mine))
    (hp : Table.publish base.tasks mine.tasks db.tasks = .ok db'.tasks) :
    ∃ image source, ∀ id, db'.tasks.lookup id =
      if id = call.req.taskID then
        some (task.assign call.env call.req call.executorID image source)
      else db.tasks.lookup id := by
  obtain ⟨hlocked, hprobed, hwrote⟩ := hs
  obtain ⟨image, source, hupd⟩ := hwrote.tasks
  refine ⟨image, source, ?_⟩
  have hmine := Table.lookup_update hupd
  intro id
  by_cases hid : id = call.req.taskID
  · subst hid
    rw [if_pos rfl]
    have hnew : mine.tasks.lookup call.req.taskID =
        some (task.assign call.env call.req call.executorID image source) := by
      rw [hmine, if_pos rfl, hwrote.task]
      rfl
    refine Table.lookup_publish_of_update hp hnew hwrote.task ?_ (by rw [hlocked.task]; rfl)
    -- the state differs
    intro heq
    have hstate : task.currentState = .created := congrArg TaskRow.currentState heq
    rw [hprobed.pending] at hstate
    cases hstate
  · rw [if_neg hid]
    refine Table.lookup_publish_of_same hp ?_
    rw [hmine, if_neg hid]

theorem ClaimCall.commits {call : ClaimCall} {seen : Db}
    (hs : call.Sound db (.written executor task seen base mine))
    (hp : Db.publish base mine db = .ok db') :
    Session.Commits hash (.claim call (.written executor task seen base mine)) db db' := by
  obtain ⟨hteams, hexecutors, htasks⟩ := Db.publish_ok hp
  obtain ⟨image, source, hafter⟩ := ClaimCall.tasks_of_publish hs htasks
  obtain ⟨hlocked, hprobed, hwrote⟩ := hs
  have hteams' := Table.eq_of_publish hteams hwrote.teams
  have hexecutors' := Table.eq_of_publish hexecutors hwrote.executors
  constructor
  · intro id e he
    exact .inr (hexecutors' ▸ he)
  · intro id t ht
    by_cases hid : id = call.req.taskID
    · left
      simp [hid]
    · right
      rw [hafter, if_neg hid]
      exact ht
  · intro id team hteam
    exact .inr (hteams' ▸ hteam)
  · intro id t ht
    rw [hafter]
    by_cases hid : id = call.req.taskID
    · subst hid
      rw [hlocked.task] at ht
      obtain rfl := Option.some.inj ht
      exact ⟨_, if_pos rfl, TaskRow.follows_assign hprobed.pending⟩
    · exact ⟨t, by rw [if_neg hid, ht], TaskRow.Follows.refl t⟩
  · rw [hteams']
    exact .refl TeamRow.KeepsArchive.refl _
  · intro id t ht hnone
    rw [hafter] at ht
    by_cases hid : id = call.req.taskID
    · rw [hid, hlocked.task] at hnone
      cases hnone
    · rw [if_neg hid, hnone] at ht
      cases ht

theorem RegisterCall.commits {call : RegisterCall} {found : Bool}
    (hs : call.Sound (.written found base mine)) (hp : Db.publish base mine db = .ok db') :
    Session.Commits hash (.register call (.written found base mine)) db db' := by
  obtain ⟨hteams, hexecutors, htasks⟩ := Db.publish_ok hp
  have hteams' := Table.eq_of_publish hteams hs.teams
  have htasks' := Table.eq_of_publish htasks hs.tasks
  constructor
  · intro id e he
    by_cases hid : id = call.executorID
    · subst hid
      cases found with
      | true =>
        left
        simp
      | false =>
        -- the row was inserted, so no other row can have taken its key
        obtain ⟨row, hrow⟩ := Option.isSome_iff_exists.mp hs.registered
        have hbase : base.executors.lookup call.executorID = none := by
          simpa using hs.before
        have hfree := (Table.lookup_publish_of_insert hexecutors hrow hbase).1
        rw [hfree] at he
        cases he
    · right
      rw [Table.lookup_publish_of_same hexecutors (hs.others id hid)]
      exact he
  · intro id t ht
    exact .inr (htasks' ▸ ht)
  · intro id team hteam
    exact .inr (hteams' ▸ hteam)
  · rw [htasks']
    exact .refl TaskRow.Follows.refl _
  · rw [hteams']
    exact .refl TeamRow.KeepsArchive.refl _
  · intro id t ht hnone
    rw [htasks', hnone] at ht
    cases ht

/-- The commit of an ingestion: the tasks that were there stay, and one more may appear. -/
theorem IngestCall.tasks_of_publish {call : IngestCall} (hwrote : call.Wrote result base mine)
    (hp : Table.publish base.tasks mine.tasks db.tasks = .ok db'.tasks) :
    (∀ id t, db.tasks.lookup id = some t → db'.tasks.lookup id = some t) ∧
      ∀ id t, db'.tasks.lookup id = some t → db.tasks.lookup id = none →
        t.currentState = .pending ∧ t.submission = call.submission := by
  obtain ⟨row, hsub, -, ⟨-, -, hsame⟩ | ⟨hins, hpending, -⟩⟩ := hwrote.answer
  · rw [Table.eq_of_publish hp hsame]
    refine ⟨fun _ _ h => h, ?_⟩
    intro id t ht hnone
    rw [hnone] at ht
    cases ht
  · have hmine := Table.lookup_insert hins
    have hbase : base.tasks.lookup row.taskID = none := (Table.insert_eq_ok_iff.mp hins).2.1
    have hrow : mine.tasks.lookup row.taskID = some row := by
      rw [hmine]
      exact if_pos rfl
    obtain ⟨hfree, hnew⟩ := Table.lookup_publish_of_insert hp hrow hbase
    have hother : ∀ id, id ≠ row.taskID → db'.tasks.lookup id = db.tasks.lookup id := by
      intro id hid
      refine Table.lookup_publish_of_same hp ?_
      rw [hmine]
      exact if_neg (Ne.symm hid)
    constructor
    · intro id t ht
      rw [hother id ?_]
      · exact ht
      · rintro rfl
        rw [hfree] at ht
        cases ht
    · intro id t ht hnone
      by_cases hid : id = row.taskID
      · rw [hid, hnew] at ht
        obtain rfl := Option.some.inj ht
        exact ⟨hpending, hsub⟩
      · rw [hother id hid, hnone] at ht
        cases ht

theorem IngestCall.commits {call : IngestCall} (hs : call.Sound db (.written result base mine))
    (hp : Db.publish base mine db = .ok db') :
    Session.Commits hash (.ingest call (.written result base mine)) db db' := by
  obtain ⟨hactive, -, hwrote⟩ := hs
  obtain ⟨hteams, hexecutors, htasks⟩ := Db.publish_ok hp
  obtain ⟨hkept, hadded⟩ := IngestCall.tasks_of_publish hwrote htasks
  have hteams' := Table.eq_of_publish hteams hwrote.teams
  have hexecutors' := Table.eq_of_publish hexecutors hwrote.executors
  constructor
  · intro id e he
    exact .inr (hexecutors' ▸ he)
  · intro id t ht
    exact .inr (hkept id t ht)
  · intro id team hteam
    exact .inr (hteams' ▸ hteam)
  · intro id t ht
    exact ⟨t, hkept id t ht, TaskRow.Follows.refl t⟩
  · rw [hteams']
    exact .refl TeamRow.KeepsArchive.refl _
  · intro id t ht hnone
    obtain ⟨hpending, hsub⟩ := hadded id t ht hnone
    have hteam : t.teamID = call.ident.teamID := congrArg Prod.fst hsub
    exact ⟨hpending, hteam ▸ hactive⟩

theorem TeamCall.commits {call : TeamCall} {u : Unit} (hs : call.Sound db (.written u base mine))
    (hp : Db.publish base mine db = .ok db') :
    Session.Commits hash (.changeTeam call (.written u base mine)) db db' := by
  obtain ⟨hsame, hwrote⟩ := hs
  obtain ⟨hteams, hexecutors, htasks⟩ := Db.publish_ok hp
  have hexecutors' := Table.eq_of_publish hexecutors hwrote.executors
  have htasks' := Table.eq_of_publish htasks hwrote.tasks
  have hother : ∀ id, id ≠ call.teamID → db'.teams.lookup id = db.teams.lookup id := by
    intro id hid
    exact Table.lookup_publish_of_same hteams (hwrote.others id hid)
  constructor
  · intro id e he
    exact .inr (hexecutors' ▸ he)
  · intro id t ht
    exact .inr (htasks' ▸ ht)
  · intro id team hteam
    by_cases hid : id = call.teamID
    · left
      simp [hid]
    · right
      rw [hother id hid]
      exact hteam
  · rw [htasks']
    exact .refl TaskRow.Follows.refl _
  · intro id team hteam
    by_cases hid : id = call.teamID
    · -- the committed row is still the one the transaction started from
      subst hid
      obtain ⟨row, row', hrow, hrow', hkeeps⟩ := hwrote.row
      rw [hsame, hrow] at hteam
      obtain rfl := Option.some.inj hteam
      by_cases heq : row = row'
      · subst heq
        refine ⟨row, ?_, TeamRow.KeepsArchive.refl row⟩
        rw [Table.lookup_publish_of_same hteams (hrow'.trans hrow.symm), hsame, hrow]
      · refine ⟨row', Table.lookup_publish_of_update hteams hrow' hrow heq ?_, hkeeps⟩
        rw [hsame, hrow]
        rfl
    · exact ⟨team, by rw [hother id hid, hteam], TeamRow.KeepsArchive.refl team⟩
  · intro id t ht hnone
    rw [htasks', hnone] at ht
    cases ht

theorem TeamPhase.move_commit {α : Type} {write : StoreTx α} {free : Lock Resource → Bool}
    {put : TeamPhase α → Session} {phase : TeamPhase α}
    (h : phase.move db free teamID write put = .commit base mine) :
    ∃ result, phase = .written result base mine := by
  cases phase with
  | start =>
    obtain ⟨-, h⟩ := Move.of_ite h (by simp)
    cases (Move.of_ite h (by simp)).2
  | locked => exact absurd h Move.ofResult_ne_commit
  | written result base' mine' =>
    cases h
    exact ⟨result, rfl⟩

/-- A session commits in its last phase only. -/
theorem Session.move_commit {cfg : Config} {free : Lock Resource → Bool}
    (hm : s.move cfg hash db free = .commit base mine) : s.copy = some (base, mine) := by
  cases s with
  | idle => cases hm
  | claim call phase =>
    cases phase with
    | written executor task seen base' mine' =>
      cases hm
      rfl
    | start | tagLocked | taskLocked =>
      exact absurd (Move.of_ite hm (by simp)).2 Move.ofResult_ne_commit
    | executorLocked | teamLocked => cases (Move.of_ite hm (by simp)).2
    | probed => exact absurd hm Move.ofResult_ne_commit
  | register call phase =>
    cases phase with
    | written found base' mine' =>
      cases hm
      rfl
    | start | keyLocked => cases (Move.of_ite hm (by simp)).2
    | rowLocked => exact absurd (Move.of_ite hm (by simp)).2 Move.ofResult_ne_commit
  | ingest call phase | changeTeam call phase =>
    obtain ⟨result, rfl⟩ := TeamPhase.move_commit hm
    rfl

theorem Session.commits (hs : s.Sound db) (hc : s.copy = some (base, mine))
    (hp : Db.publish base mine db = .ok db') : s.Commits hash db db' := by
  unfold Session.copy at hc
  split at hc
  · cases hc
    exact ClaimCall.commits hs hp
  · cases hc
    exact RegisterCall.commits hs hp
  · cases hc
    exact IngestCall.commits hs hp
  · cases hc
    exact TeamCall.commits hs hp
  · cases hc

/-! ## Section 4: Runs -/

/-- Locks do not conflict, and every session is sound. -/
structure World.Sound {n : Nat} (hash : String → Int) (w : World n) : Prop where
  compatible : Compatible (w.holds hash)
  sessions : ∀ i, (w.sessions i).Sound w.db

/-- A session relies on the rows it has locked, and on tasks moving forward. -/
theorem Session.Sound.keep (hash : String → Int) (hs : s.Sound db)
    (hexecutors : ∀ id e, forUpdate (.executor id) ∈ s.holds hash →
      db.executors.lookup id = some e → db'.executors.lookup id = some e)
    (htasks : ∀ id t, forUpdate (.task id) ∈ s.holds hash →
      db.tasks.lookup id = some t → db'.tasks.lookup id = some t)
    (hteams : ∀ id team, forUpdate (.team id) ∈ s.holds hash →
      db.teams.lookup id = some team → db'.teams.lookup id = some team)
    (hfollows : db.tasks.Persists TaskRow.Follows db'.tasks) : s.Sound db' := by
  have hprobed : ∀ {executor task seen}, Probed db executor task seen →
      Probed db' executor task seen := by
    intro executor task seen h
    exact ⟨h.pending, h.oldest, h.since.trans (fun _ _ _ => TaskRow.Follows.trans) hfollows⟩
  cases s with
  | idle => trivial
  | claim call phase =>
    have hlocked : ∀ {executor task},
        forUpdate (.executor call.executorID) ∈ phase.holds hash call →
        forUpdate (.task call.req.taskID) ∈ phase.holds hash call →
        call.Locked db executor task → call.Locked db' executor task := by
      intro executor task he ht h
      exact ⟨hexecutors _ _ he h.executor, htasks _ _ ht h.task⟩
    cases phase with
    | start => trivial
    | executorLocked | tagLocked =>
      exact hexecutors _ _ (by simp) hs
    | taskLocked | teamLocked =>
      exact hlocked (by simp) (by simp) hs
    | probed =>
      exact ⟨hlocked (by simp) (by simp) hs.1, hprobed hs.2⟩
    | written =>
      exact ⟨hlocked (by simp) (by simp) hs.1,
        hprobed hs.2.1, hs.2.2⟩
  | register call phase => exact hs
  | ingest call phase =>
    cases phase with
    | start | locked => trivial
    | written result base mine =>
      obtain ⟨⟨team, hteam, hactive⟩, hsince, hwrote⟩ := hs
      exact ⟨⟨team, hteams _ _ (by simp) hteam, hactive⟩,
        hsince.trans (fun _ _ _ => TaskRow.Follows.trans) hfollows, hwrote⟩
  | changeTeam call phase =>
    cases phase with
    | start | locked => trivial
    | written result base mine =>
      obtain ⟨hsame, hwrote⟩ := hs
      obtain ⟨row, _, hrow, -, -⟩ := hwrote.row
      refine ⟨?_, hwrote⟩
      rw [hrow] at hsame ⊢
      exact hteams _ _ (by simp) hsame

namespace World

variable {n : Nat} {w w' : World n}

/-- What a step of the world does: one session changes, or commits. -/
inductive Step (hash : String → Int) (w : World n) : World n → Prop where
  | quiet (i : Fin n) (s : Session)
      (sound : (w.sessions i).Sound w.db → s.Sound w.db)
      (locks : ∀ l ∈ s.holds hash, l ∈ w.holds hash i ∨ Grants (w.holds hash) i l) :
      Step hash w (w.put i s)
  | commit (i : Fin n) {base mine db : Db}
      (copy : (w.sessions i).copy = some (base, mine))
      (published : Db.publish base mine w.db = .ok db) : Step hash w (w.commit i db)

theorem Step.stop (i : Fin n) : Step hash w (w.put i .idle) :=
  .quiet i .idle (fun _ => trivial) (fun _ hl => by cases hl)

/-- A fresh session holds nothing and knows nothing. -/
theorem Step.begin (i : Fin n) (hs : s.fresh = true) : Step hash w (w.put i s) := by
  unfold Session.fresh at hs
  split at hs
  case h_5 => cases hs
  all_goals exact .quiet i _ (fun _ => trivial) (fun _ hl => by cases hl)

theorem next_step {cfg : Config} {l : Label n} (h : w.next cfg hash l = some w') :
    Step hash w w' := by
  cases l with
  | begin i s =>
    simp only [next] at h
    split at h
    · split at h
      · rename_i hfresh
        cases h
        exact .begin i hfresh
      · cases h
    · cases h
  | advance i =>
    simp only [next, advance] at h
    split at h
    · cases h
    · rename_i s hmove
      cases h
      obtain ⟨hsound, hlocks⟩ := Session.move_go hmove
      refine .quiet i s hsound ?_
      intro l hl
      exact (hlocks l hl).imp id of_decide_eq_true
    · cases h
      exact .stop i
    · rename_i base mine hmove
      split at h
      · cases h
        exact .stop i
      · rename_i db hpub
        cases h
        exact .commit i (Session.move_commit hmove) hpub
  | rollback i =>
    cases h
    exact .stop i

theorem holds_put (w : World n) (i : Fin n) (s : Session) :
    (w.put i s).holds hash = Function.update (w.holds hash) i (s.holds hash) := by
  funext j
  by_cases hj : j = i
  · subst hj
    simp [holds, put]
  · simp [holds, put, hj]

theorem holds_commit (w : World n) (i : Fin n) (db : Db) :
    (w.commit i db).holds hash = Function.update (w.holds hash) i [] := by
  rw [← show Session.idle.holds hash = [] from rfl, ← holds_put]
  rfl

theorem sound_initial (db : Db) : (initial n db).Sound hash :=
  ⟨compatible_nil, fun _ => trivial⟩

/-- Step lemma. -/
theorem Sound.step (h : w.Sound hash) (hstep : Step hash w w') : w'.Sound hash := by
  cases hstep with
  | quiet i s hsound hlocks =>
    refine ⟨?_, ?_⟩
    · rw [holds_put]
      exact h.compatible.update hlocks
    · intro j
      by_cases hj : j = i
      · subst hj
        simpa [put] using hsound (h.sessions j)
      · simpa [put, hj] using h.sessions j
  | @commit i base mine db hcopy hpub =>
    have hcommits : (w.sessions i).Commits hash w.db db :=
      Session.commits (h.sessions i) hcopy hpub
    refine ⟨?_, ?_⟩
    · rw [holds_commit]
      exact h.compatible.update (fun _ hl => by cases hl)
    · intro j
      by_cases hj : j = i
      · subst hj
        simp only [World.commit, Function.update_self]
        trivial
      · simp only [World.commit, Function.update_of_ne hj]
        -- a lock of `j` is not one of `i`
        have hfree : ∀ r, forUpdate r ∈ (w.sessions j).holds hash →
            forUpdate r ∉ (w.sessions i).holds hash := by
          intro r hrj hri
          exact hj (h.compatible.excludes hrj hri)
        refine (h.sessions j).keep hash ?_ ?_ ?_ hcommits.follows
        · intro id e hl he
          exact (hcommits.executors id e he).resolve_left (hfree _ hl)
        · intro id t hl ht
          exact (hcommits.tasks id t ht).resolve_left (hfree _ hl)
        · intro id team hl hteam
          exact (hcommits.teams id team hteam).resolve_left (hfree _ hl)

theorem reachable_sound {cfg : Config} {db₀ : Db}
    (h : (interleaving cfg hash n db₀).Reachable w) : w.Sound hash := by
  refine h.invariant ?_ ?_
  · rintro w rfl
    exact sound_initial db₀
  · intro w l w' _ hw hstep
    exact hw.step (next_step hstep)

end World

end FlowAI.Registry
