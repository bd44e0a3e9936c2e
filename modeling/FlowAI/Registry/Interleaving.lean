import FlowAI.Framework.Publish
import FlowAI.Registry.Evolution
import FlowAI.Registry.LockPlans

/-! # Interleaved Transactions

  Claims, registrations, ingestions and changes of teams as transactions of
  several statements that run side by side.  A statement reads what is committed
  when it starts; row and advisory locks are held to the end of the transaction;
  what a transaction wrote becomes visible when it commits.

  Key-share locks of foreign keys are left out: they could only delay a statement
  further.
-/

namespace FlowAI.Registry

/-! ## Section 1: Transactions and their phases -/

structure ClaimCall where
  env : CallEnv
  req : ClaimRequest
  executorID : String
  identity : ExecutorIdentity

/-- How far a claim has come, with the rows it read; `seen` is what was committed at the
    FIFO probe, `base` at the write, and `mine` is its own view since then. -/
inductive ClaimPhase where
  | start
  | executorLocked (executor : ExecutorRow)
  | tagLocked (executor : ExecutorRow)
  | taskLocked (executor : ExecutorRow) (task : TaskRow)
  | teamLocked (executor : ExecutorRow) (task : TaskRow)
  | probed (executor : ExecutorRow) (task : TaskRow) (seen : Db)
  | written (executor : ExecutorRow) (task : TaskRow) (seen base mine : Db)

structure RegisterCall where
  env : CallEnv
  executorID : String
  req : ExecutorRegistrationRequest
  identity : ExecutorIdentity

/-- `found` says whether there was a row to lock. -/
inductive RegisterPhase where
  | start
  | keyLocked
  | rowLocked (found : Bool)
  | written (found : Bool) (base mine : Db)

structure IngestCall where
  env : CallEnv
  req : TaskIngestionRequest
  ident : ListenerIdentity

inductive TeamChange where
  | update (req : UpdateTeamRequest)
  | archive

structure TeamCall where
  env : CallEnv
  teamID : String
  change : TeamChange
  ident : AdminIdentity

/-- A transaction that locks one team and then runs to its commit. -/
inductive TeamPhase (α : Type) where
  | start
  | locked
  | written (result : α) (base mine : Db)

/-- A database session. -/
inductive Session where
  | idle
  | claim (call : ClaimCall) (phase : ClaimPhase)
  | register (call : RegisterCall) (phase : RegisterPhase)
  | ingest (call : IngestCall) (phase : TeamPhase (TaskListEntry × Bool))
  | changeTeam (call : TeamCall) (phase : TeamPhase Unit)

/-- A session that is about to run its first statement. -/
def Session.fresh : Session → Bool
  | .claim _ .start => true
  | .register _ .start => true
  | .ingest _ .start => true
  | .changeTeam _ .start => true
  | _ => false

/-! ## Section 2: Locks -/

section Locks

variable (hash : String → Int)

@[simp] def ClaimPhase.holds (call : ClaimCall) : ClaimPhase → List (Lock Resource)
  | .start => []
  | .executorLocked _ => [forUpdate (.executor call.executorID)]
  | .tagLocked executor =>
    [forUpdate (.executor call.executorID), forUpdate (.advisory (hash (claimLockKey executor)))]
  | .taskLocked executor _ =>
    [forUpdate (.executor call.executorID), forUpdate (.advisory (hash (claimLockKey executor))),
      forUpdate (.task call.req.taskID)]
  | .teamLocked executor task | .probed executor task _ | .written executor task _ _ _ =>
    [forUpdate (.executor call.executorID), forUpdate (.advisory (hash (claimLockKey executor))),
      forUpdate (.task call.req.taskID), forUpdate (.team task.teamID)]

@[simp] def RegisterPhase.holds (call : RegisterCall) : RegisterPhase → List (Lock Resource)
  | .start => []
  | .keyLocked => [forUpdate (.advisory (hash call.executorID))]
  | .rowLocked found | .written found _ _ =>
    forUpdate (.advisory (hash call.executorID)) ::
      if found then [forUpdate (.executor call.executorID)] else []

@[simp] def TeamPhase.holds {α : Type} (teamID : String) : TeamPhase α → List (Lock Resource)
  | .start => []
  | .locked | .written _ _ _ => [forUpdate (.team teamID)]

@[simp] def Session.holds : Session → List (Lock Resource)
  | .idle => []
  | .claim call phase => phase.holds hash call
  | .register call phase => phase.holds hash call
  | .ingest call phase => phase.holds call.ident.teamID
  | .changeTeam call phase => phase.holds call.teamID

end Locks

/-! ## Section 3: Statements -/

/-- What a session does next: wait for a lock, go on, end without a commit, or commit. -/
inductive Move where
  | wait
  | go (next : Session)
  | stop
  | commit (base mine : Db)

/-- Go on with the result of a statement; a failed one ends the transaction. -/
def Move.ofResult {α : Type} (result : Except StoreError (α × Db)) (next : α → Db → Session) : Move :=
  match result with
  | .ok (a, db) => .go (next a db)
  | .error _ => .stop

/-- The statements after the probe. -/
def claimWrite (cfg : Config) (call : ClaimCall) (task : TaskRow) : StoreTx ClaimResponse := do
  writeClaim cfg call.env call.req call.executorID task
  Tx.mapError (.wrapped "build committed claim response")
    (buildClaimResponseForRow cfg call.env call.req.taskID)

def TeamCall.write (call : TeamCall) : StoreTx Unit :=
  match call.change with
  | .update req => Tx.void (updateTeam call.env call.teamID req call.ident)
  | .archive => Tx.void (archiveTeam call.env call.teamID call.ident)

section Moves

variable (cfg : Config) (hash : String → Int) (db : Db) (free : Lock Resource → Bool)

/-- The next statement of a claim, on the committed database `db`. -/
def ClaimCall.move (call : ClaimCall) : ClaimPhase → Move
  | .start =>
    if free (forUpdate (.executor call.executorID)) then
      .ofResult (lockClaimExecutor call.executorID call.identity db)
        (fun executor _ => .claim call (.executorLocked executor))
    else .wait
  | .executorLocked executor =>
    if free (forUpdate (.advisory (hash (claimLockKey executor)))) then
      .go (.claim call (.tagLocked executor))
    else .wait
  | .tagLocked executor =>
    if free (forUpdate (.task call.req.taskID)) then
      .ofResult (lockClaimTask executor call.req.taskID db)
        (fun task _ => .claim call (.taskLocked executor task))
    else .wait
  | .taskLocked executor task =>
    if free (forUpdate (.team task.teamID)) then
      .ofResult (lockClaimTeam task.teamID db) (fun _ _ => .claim call (.teamLocked executor task))
    else .wait
  | .teamLocked executor task =>
    -- a task that is no longer pending is read and the transaction ends without a write
    if task.currentState = .pending ∧ isEarlierPendingTask db executor task = false then
      .go (.claim call (.probed executor task db))
    else .stop
  | .probed executor task seen =>
    .ofResult (claimWrite cfg call task db)
      (fun _ mine => .claim call (.written executor task seen db mine))
  | .written _ _ _ base mine => .commit base mine

def RegisterCall.move (call : RegisterCall) : RegisterPhase → Move
  | .start =>
    if free (forUpdate (.advisory (hash call.executorID))) then .go (.register call .keyLocked)
    else .wait
  | .keyLocked =>
    if free (forUpdate (.executor call.executorID)) then
      .go (.register call (.rowLocked (db.executors.lookup call.executorID).isSome))
    else .wait
  | .rowLocked found =>
    -- an insertion of a row that has appeared since then violates the primary key
    if (db.executors.lookup call.executorID).isSome = found then
      .ofResult (registerExecutor cfg call.env call.executorID call.req call.identity db)
        (fun _ mine => .register call (.written found db mine))
    else .stop
  | .written _ base mine => .commit base mine

/-- A transaction that locks a team: `write` is all that follows the lock. -/
def TeamPhase.move {α : Type} (teamID : String) (write : StoreTx α) (put : TeamPhase α → Session) :
    TeamPhase α → Move
  | .start =>
    if free (forUpdate (.team teamID)) then
      if (db.teams.lookup teamID).isSome then .go (put .locked) else .stop
    else .wait
  | .locked => .ofResult (write db) (fun result mine => put (.written result db mine))
  | .written _ base mine => .commit base mine

def Session.move : Session → Move
  | .idle => .wait
  | .claim call phase => call.move cfg hash db free phase
  | .register call phase => call.move cfg hash db free phase
  | .ingest call phase =>
    phase.move db free call.ident.teamID (ingestTask cfg call.env call.req call.ident) (.ingest call)
  | .changeTeam call phase => phase.move db free call.teamID call.write (.changeTeam call)

end Moves

/-- The rows a transaction wrote, published into what is committed.  These are the tables
    the four kinds of transactions write. -/
def Db.publish (base mine now : Db) : Except Violation Db := do
  let teams ← Table.publish base.teams mine.teams now.teams
  let executors ← Table.publish base.executors mine.executors now.executors
  let tasks ← Table.publish base.tasks mine.tasks now.tasks
  let taskEvents ← Table.publish base.taskEvents mine.taskEvents now.taskEvents
  let snapshots ← Table.publish base.snapshots mine.snapshots now.snapshots
  let secretRefs ← Table.publish base.secretRefs mine.secretRefs now.secretRefs
  let auditEntries ← Table.publish base.auditEntries mine.auditEntries now.auditEntries
  let teamAuditDetails ←
    Table.publish base.teamAuditDetails mine.teamAuditDetails now.teamAuditDetails
  return { now with
    teams, executors, tasks, taskEvents, snapshots, secretRefs, auditEntries, teamAuditDetails }

/-! ## Section 4: The world -/

/-- A claim that committed: what was committed at its probe, and right before and after
    its commit. -/
structure ClaimCommit where
  executorID : String
  taskID : String
  seen : Db
  before : Db
  after : Db

/-- An ingestion that committed, with its answer. -/
structure IngestCommit where
  call : IngestCall
  result : TaskListEntry × Bool

/-- What the commit of a session adds to the record of claims. -/
def Session.claims (before after : Db) : Session → List ClaimCommit
  | .claim call (.written _ _ seen _ _) =>
    [⟨call.executorID, call.req.taskID, seen, before, after⟩]
  | _ => []

/-- What the commit of a session adds to the record of ingestions. -/
def Session.ingestions : Session → List IngestCommit
  | .ingest call (.written result _ _) => [⟨call, result⟩]
  | _ => []

/-- The committed database, the sessions, and what committed so far. -/
structure World (n : Nat) where
  db : Db
  sessions : Fin n → Session
  claims : List ClaimCommit
  ingestions : List IngestCommit

namespace World

variable {n : Nat}

def put (w : World n) (i : Fin n) (s : Session) : World n :=
  { w with sessions := Function.update w.sessions i s }

/-- A session commits and becomes idle. -/
def commit (w : World n) (i : Fin n) (db : Db) : World n where
  db := db
  sessions := Function.update w.sessions i .idle
  claims := w.claims ++ (w.sessions i).claims w.db db
  ingestions := w.ingestions ++ (w.sessions i).ingestions

/-- The locks each session holds. -/
def holds (hash : String → Int) (w : World n) (i : Fin n) : List (Lock Resource) :=
  (w.sessions i).holds hash

/-- One statement of a session; `none` while it waits. -/
def advance (cfg : Config) (hash : String → Int) (w : World n) (i : Fin n) : Option (World n) :=
  match (w.sessions i).move cfg hash w.db (fun l => decide (Grants (w.holds hash) i l)) with
  | .wait => none
  | .go s => some (w.put i s)
  | .stop => some (w.put i .idle)
  | .commit base mine =>
    match Db.publish base mine w.db with
    | .error _ => some (w.put i .idle)
    | .ok db => some (w.commit i db)

inductive Label (n : Nat) where
  | begin (i : Fin n) (s : Session)
  | advance (i : Fin n)
  | rollback (i : Fin n)

/-- A transaction begins, runs one statement, or is rolled back. -/
def next (cfg : Config) (hash : String → Int) (w : World n) : Label n → Option (World n)
  | .begin i s =>
    match w.sessions i with
    | .idle => if s.fresh then some (w.put i s) else none
    | _ => none
  | .advance i => w.advance cfg hash i
  | .rollback i => some (w.put i .idle)

/-- Take the labels one after the other. -/
def run (cfg : Config) (hash : String → Int) (w : World n) : List (Label n) → Option (World n)
  | [] => some w
  | l :: ls => (w.next cfg hash l).bind (fun w' => run cfg hash w' ls)

/-- Nothing has run yet. -/
def initial (n : Nat) (db : Db) : World n := ⟨db, fun _ => .idle, [], []⟩

end World

/-- Any number of sessions on a database. -/
def interleaving (cfg : Config) (hash : String → Int) (n : Nat) (db₀ : Db) :
    System (World n) (World.Label n) where
  init w := w = World.initial n db₀
  step w l w' := w.next cfg hash l = some w'

/-- A run of labels is a run of the system. -/
theorem World.run_iff {cfg : Config} {hash : String → Int} {n : Nat} {db₀ : Db} {w w' : World n}
    {ls : List (World.Label n)} (h : w.run cfg hash ls = some w') :
    (interleaving cfg hash n db₀).Run w ls w' := by
  induction ls generalizing w with
  | nil =>
    cases h
    exact .nil _
  | cons l ls ih =>
    obtain ⟨w₁, hstep, hrest⟩ := Option.bind_eq_some_iff.mp h
    exact .cons l hstep (ih hrest)

end FlowAI.Registry
