import FlowAI.Registry.Assignment

/-! # The Running Event and the Two Clocks

  From the first claim of a task to its `running` event (`startTaskV0002` of the Docker and
  of the Kubernetes executor), with the Registry.  The Registry stamps the claim and the
  `created` event with its own clock; the executor stamps the `running` event with its
  own.  The Docker executor first waits until its clock is past the claim, the Kubernetes
  executor does not.

  Between the two the Registry serves other calls and time passes.  The clock of the
  executor is that of the Registry plus a constant.
-/

namespace FlowAI.Executors

open Registry

variable {db : Db} {claimedAt clock : Int} {call : Call} {response : ClaimResponse}

/-! ## Section 1: The system -/

inductive Kind where
  | docker
  | k8s
  deriving DecidableEq, Repr

/-- An executor about to start a task. -/
structure Starter where
  kind : Kind
  identity : ExecutorIdentity
  taskID : String
  /-- The team as the discovery page has it. -/
  teamID : String
  commandID : String
  /-- The clock of the executor minus that of the Registry, in nanoseconds. -/
  offset : Int

/-- The program counter of `startTaskV0002`.  The instants are of the Registry's clock, and
    nothing but the statements below reads them. -/
inductive Phase where
  | discovered
  | claimed (claimedAt : Int) (response : ClaimResponse)
  /-- The timer runs. -/
  | waiting (claimedAt : Int) (response : ClaimResponse) (target : Int)
  | ready (claimedAt : Int) (response : ClaimResponse)
  /-- The event is on its way to the Registry. -/
  | composed (claimedAt composedAt : Int) (event : TaskEventAppendRequest)
  /-- It returned without an event. -/
  | returned
  deriving DecidableEq

structure State where
  db : Db
  /-- The clock of the Registry. -/
  clock : Int
  phase : Phase

/-- `Truncate(time.Millisecond).Add(time.Millisecond)`. -/
def nextMillisecond (ns : Int) : Int := ns - ns % 1000000 + 1000000

/-- What the Docker executor waits for; nothing if the time of the claim does not parse. -/
def waitTarget (response : ClaimResponse) : Option Int :=
  (response.claimedAt.bind Time.parseRFC3339Nano).map nextMillisecond

/-- `time.Now()` of the executor. -/
def Starter.now (x : Starter) (clock : Int) : Int := clock + x.offset

def Starter.claimCall (x : Starter) (env : CallEnv) : Call :=
  ⟨env, .claimTask ⟨x.taskID, x.commandID⟩ x.identity.executorID x.identity⟩

/-- On after an accepted claim. -/
def Starter.proceed (x : Starter) (s : State) (claimedAt : Int) (response : ClaimResponse) : Phase :=
  match x.kind, waitTarget response with
  | .docker, some target =>
    if x.now s.clock < target then .waiting claimedAt response target
    else .ready claimedAt response
  | _, _ => .ready claimedAt response

/-- The team of the envelope: Docker copies it from the claim, Kubernetes from the page. -/
def Starter.envelopeTeam (x : Starter) (response : ClaimResponse) : String :=
  match x.kind with
  | .docker => response.task.teamID
  | .k8s => x.teamID

def Starter.runningEvent (x : Starter) (clock : Int) (response : ClaimResponse) (uuid : String) :
    TaskEventAppendRequest where
  eventID := "evt-" ++ uuid
  teamID := x.envelopeTeam response
  taskID := x.taskID
  executorID := x.identity.executorID
  eventType := "running"
  occurredAt := Time.formatRFC3339Nano (x.now clock)
  payload := .text (.obj [("phase", .str "running")])

/-- The call appends an event to the log of the task. -/
def appendsTo (taskID : String) : Op → Bool
  | .appendTaskEvent req _ => req.taskID = taskID
  | _ => false

inductive Label where
  | tick (elapsed : Nat)
  /-- Another call, not of an event of the task. -/
  | registry (call : Call)
  /-- The first claim of the task. -/
  | claim (env : CallEnv)
  | proceed
  | compose (uuid : String)
  /-- An error, or the end of the context. -/
  | quit

/-- The task waits to be claimed. -/
def isPending (db : Db) (taskID : String) : Bool :=
  (db.tasks.lookup taskID).any (fun t => t.currentState = .pending)

variable (reg : Config) (x : Starter)

def State.next (s : State) : Label → Option State
  | .tick elapsed => some { s with clock := s.clock + elapsed }
  | .registry call =>
    if appendsTo x.taskID call.op then none
    else some { s with db := (exec reg call).commit s.db }
  | .claim env =>
    match s.phase with
    | .discovered =>
      if isPending s.db x.taskID && env.now = s.clock then
        some { s with
          db := (exec reg (x.claimCall env)).commit s.db
          phase := match claimTask reg env ⟨x.taskID, x.commandID⟩ x.identity.executorID
              x.identity s.db with
            | .ok (response, _) => .claimed s.clock response
            | .error _ => .returned }
      else none
    | _ => none
  | .proceed =>
    match s.phase with
    | .claimed claimedAt response => some { s with phase := x.proceed s claimedAt response }
    | .waiting claimedAt response target =>
      if target ≤ x.now s.clock then some { s with phase := .ready claimedAt response } else none
    | _ => none
  | .compose uuid =>
    match s.phase with
    | .ready claimedAt response =>
      some { s with
        phase := .composed claimedAt s.clock (x.runningEvent s.clock response uuid) }
    | _ => none
  | .quit => some { s with phase := .returned }

/-- The composition, from an empty Registry whose clock shows anything. -/
def starting : System State Label :=
  .ofNext (fun s => s.db = .empty ∧ s.phase = .discovered) (State.next reg x)

/-! ## Section 2: After the claim -/

/-- The log of the task is the `created` event of a claim at an instant. -/
structure OnlyCreated (db : Db) (claimedAt : Int) : Prop where
  assigned : Assigned db x.identity.executorID x.taskID
  log : ∃ row, taskLog db x.taskID = [row] ∧ row.occurredAt = Time.toMicros claimedAt ∧
    row.eventID = "evt-" ++ x.taskID

/-- The claim and its response. -/
structure Answered (db : Db) (claimedAt : Int) (response : ClaimResponse) : Prop where
  created : OnlyCreated x db claimedAt
  claimedAt : response.claimedAt = some (formatIngestedAt (Time.toMicros claimedAt))

/-- The Docker executor has waited. -/
def Waited (response : ClaimResponse) (clock : Int) : Prop :=
  x.kind = .docker → ∀ target ∈ waitTarget response, target ≤ x.now clock

def PhaseInvariant (db : Db) (clock : Int) : Phase → Prop
  | .discovered => True
  | .claimed claimedAt response => Answered x db claimedAt response
  | .waiting claimedAt response target =>
      Answered x db claimedAt response ∧ waitTarget response = some target
  | .ready claimedAt response => Answered x db claimedAt response ∧ Waited x response clock
  | .composed claimedAt composedAt event => ∃ response uuid, Answered x db claimedAt response ∧
      Waited x response composedAt ∧ event = x.runningEvent composedAt response uuid
  | .returned => True

variable {reg x} {s s' : State}

/-- A call that appends nothing to the log of the task leaves its claim as it is. -/
theorem OnlyCreated.commit (h : OnlyCreated x db claimedAt)
    (hcall : appendsTo x.taskID call.op = false) :
    OnlyCreated x ((exec reg call).commit db) claimedAt := by
  have hsame : SameTask db ((exec reg call).commit db) x.taskID := by
    apply sameTask_of_commit h.assigned
    intro req identity hop _ hid
    rw [hop] at hcall
    exact absurd hid (of_decide_eq_false hcall)
  refine ⟨h.assigned.later (commit_evolves reg call db), ?_⟩
  rw [hsame.log]
  exact h.log

theorem Answered.commit (h : Answered x db claimedAt response)
    (hcall : appendsTo x.taskID call.op = false) :
    Answered x ((exec reg call).commit db) claimedAt response :=
  ⟨h.created.commit hcall, h.claimedAt⟩

/-- Time passes: the clock of the executor has still reached the target. -/
theorem Waited.later (h : Waited x response clock) (elapsed : Nat) :
    Waited x response (clock + elapsed) := by
  intro hkind target htarget
  have hle := h hkind target htarget
  unfold Starter.now at hle ⊢
  omega

theorem PhaseInvariant.commit {phase : Phase} (h : PhaseInvariant x db clock phase)
    (hcall : appendsTo x.taskID call.op = false) :
    PhaseInvariant x ((exec reg call).commit db) clock phase := by
  cases phase with
  | discovered | returned => trivial
  | claimed => exact Answered.commit h hcall
  | waiting | ready => exact ⟨h.1.commit hcall, h.2⟩
  | composed =>
    obtain ⟨response, uuid, hanswered, hrest⟩ := h
    exact ⟨response, uuid, hanswered.commit hcall, hrest⟩

/-- The first claim: the log is the event it appends, and the response carries its stamp. -/
theorem answered_of_claim {env : CallEnv} {db' : Db}
    (hinv : LogInvariant db.tasks db.taskEvents) (hpending : isPending db x.taskID = true)
    (h : claimTask reg env ⟨x.taskID, x.commandID⟩ x.identity.executorID x.identity db =
      .ok (response, db')) : Answered x db' env.now response := by
  obtain ⟨executor, task, hmay, hresponse, hcase⟩ := claimTask_ok h
  obtain ⟨t, ht, hstate⟩ := (Option.any_eq_true _ _).mp hpending
  rw [hmay.found] at ht
  obtain rfl := Option.some.inj ht
  rcases hcase with ⟨hclaimed, -⟩ | hfresh
  · exact absurd (of_decide_eq_true hstate) hclaimed
  · obtain ⟨_, source, image, _, _, tasks, events, -, -, -, htasks, hevents, rfl⟩ := hfresh.effect
    have hrow : tasks.lookup x.taskID =
        some (task.assign env ⟨x.taskID, x.commandID⟩ x.identity.executorID image source) := by
      rw [Table.lookup_update htasks, if_pos rfl, hmay.found]
      rfl
    refine ⟨⟨⟨_, hrow, rfl⟩, createdEventRow env ⟨x.taskID, x.commandID⟩
      x.identity.executorID task.teamID, ?_, rfl, rfl⟩, ?_⟩
    · -- a pending task has no events yet
      have hnone := hinv.no_events hmay.found (of_decide_eq_true hstate)
      show (events.rows.filter _) = _
      rw [Table.rows_insert hevents, List.filter_append]
      rw [show db.taskEvents.rows.filter _ = [] from hnone]
      simp [createdEventRow]
    · obtain ⟨⟨task', entry, token, hfound, hscan, -, rfl⟩, -⟩ :=
        buildClaimResponseForRow_eq_ok.mp hresponse
      rw [show task' = _ from Option.some.inj (hfound.symm.trans hrow)] at hscan
      exact (scanTaskRow_eq_ok hscan).2.2.2.2.2.1

structure Invariant (reg : Config) (x : Starter) (s : State) : Prop where
  registry : (Registry.registry reg).Reachable s.db
  phase : PhaseInvariant x s.db s.clock s.phase

/-- Step lemma for the composition. -/
theorem Invariant.step {l : Label} (h : Invariant reg x s) (hs : s.next reg x l = some s') :
    Invariant reg x s' := by
  have hphase := h.phase
  cases l with
  | tick elapsed =>
    cases hs
    refine ⟨h.registry, ?_⟩
    show PhaseInvariant x s.db (s.clock + elapsed) s.phase
    cases hp : s.phase with
    | ready claimedAt response =>
      rw [hp] at hphase
      exact ⟨hphase.1, hphase.2.later elapsed⟩
    | _ =>
      rw [hp] at hphase
      exact hphase
  | registry call =>
    simp only [State.next] at hs
    split at hs
    · cases hs
    · rename_i hcall
      cases hs
      exact ⟨.step call h.registry rfl, hphase.commit (Bool.eq_false_iff.mpr hcall)⟩
  | claim env =>
    simp only [State.next] at hs
    split at hs
    · split at hs
      · rename_i hguard
        rw [Bool.and_eq_true, decide_eq_true_eq] at hguard
        cases hs
        refine ⟨.step (x.claimCall env) h.registry rfl, ?_⟩
        show PhaseInvariant x ((exec reg (x.claimCall env)).commit s.db) s.clock _
        split
        · rename_i response db' hok
          have hcommit : (exec reg (x.claimCall env)).commit s.db = db' := by
            show (Tx.void _).commit s.db = db'
            rw [Tx.commit_void]
            exact Tx.commit_of_ok hok
          rw [hcommit, ← hguard.2]
          exact answered_of_claim (reachable_logInvariant h.registry) hguard.1 hok
        · trivial
      · cases hs
    · cases hs
  | proceed =>
    simp only [State.next] at hs
    split at hs
    · rename_i claimedAt response hp
      rw [hp] at hphase
      cases hs
      refine ⟨h.registry, ?_⟩
      show PhaseInvariant x s.db s.clock (x.proceed s claimedAt response)
      unfold Starter.proceed
      split
      · rename_i target _ htarget
        split
        · exact ⟨hphase, htarget⟩
        · rename_i hreached
          refine ⟨hphase, fun _ target' htarget' => ?_⟩
          rw [htarget, Option.mem_some] at htarget'
          omega
      · rename_i hno
        refine ⟨hphase, fun hkind target htarget => ?_⟩
        exact absurd htarget (hno target hkind)
    · rename_i claimedAt response target hp
      rw [hp] at hphase
      split at hs
      · rename_i hreached
        cases hs
        refine ⟨h.registry, hphase.1, fun _ target' htarget' => ?_⟩
        rw [hphase.2, Option.mem_some] at htarget'
        exact htarget' ▸ hreached
      · cases hs
    · cases hs
  | compose uuid =>
    simp only [State.next] at hs
    split at hs
    · rename_i claimedAt response hp
      rw [hp] at hphase
      cases hs
      exact ⟨h.registry, response, uuid, hphase.1, hphase.2, rfl⟩
    · cases hs
  | quit =>
    cases hs
    exact ⟨h.registry, trivial⟩

theorem invariant_reachable (h : (starting reg x).Reachable s) : Invariant reg x s := by
  apply h.invariant
  · intro s hinit
    obtain ⟨hdb, hp⟩ := hinit
    refine ⟨.init hdb, ?_⟩
    rw [hp]
    trivial
  · intro s l s' _ hinv hstep
    exact hinv.step hstep

/-! ## Section 3: The order check -/

/-- The wire form of the instant of a claim is read back. -/
def Readable (claimedAt : Int) : Prop :=
  Time.toMicros claimedAt ≠ zeroTime ∧
    Time.startOfYears ≤ Time.ofMicros (Time.toMicros claimedAt) ∧
    Time.ofMicros (Time.toMicros claimedAt) < Time.endOfYears

/-- The `created` event of the claim is before the event. -/
def Starter.Before (x : Starter) (claimedAt : Int) (occurredAt : Int) (eventID : String) : Prop :=
  Time.ofMicros (Time.toMicros claimedAt) < occurredAt ∨
    Time.ofMicros (Time.toMicros claimedAt) = occurredAt ∧ "evt-" ++ x.taskID < eventID

/-- The order check of `AppendTaskEvent` looks at the `created` event only. -/
theorem ensureOrder_iff (h : OnlyCreated x db claimedAt) {event : TaskEventAppendRequest}
    (hid : event.taskID = x.taskID) (parsed : ParsedEvent) (task : TaskRow) :
    (ensureOrder event parsed task).errorOf db = none ↔
      x.Before claimedAt parsed.occurredAt event.eventID := by
  obtain ⟨row, hlog, hstamp, hrow⟩ := h.log
  have hlatest : latestTaskEvent db event.taskID = some row := by
    unfold latestTaskEvent
    rw [hid, show db.taskEvents.rows.filter _ = [row] from hlog]
    rfl
  have hcheck : ensureOrder event parsed task db =
      (Tx.ensure (strictlyAfter row parsed.occurredAt event.eventID) .eventConflict :
        StoreTx Unit) db := by
    unfold ensureOrder
    rw [Tx.get_bind, hlatest]
  have hafter : strictlyAfter row parsed.occurredAt event.eventID = true ↔
      x.Before claimedAt parsed.occurredAt event.eventID := by
    unfold strictlyAfter Starter.Before
    rw [hstamp, hrow, Bool.or_eq_true, Bool.and_eq_true, decide_eq_true_eq, decide_eq_true_eq,
      decide_eq_true_eq]
  rw [← hafter, Tx.errorOf, hcheck, Tx.ensure]
  by_cases hp : strictlyAfter row parsed.occurredAt event.eventID = true
  · rw [if_pos hp]
    exact ⟨fun _ => hp, fun _ => rfl⟩
  · rw [if_neg hp]
    exact ⟨(fun hnone => by cases hnone), fun hp' => absurd hp' hp⟩

/-- After the wait the clock of the executor is past the stamp of the claim. -/
theorem waited_past (h : Answered x db claimedAt response) (hwaited : Waited x response clock)
    (hkind : x.kind = .docker) (hread : Readable claimedAt) :
    Time.ofMicros (Time.toMicros claimedAt) < x.now clock := by
  have htarget : waitTarget response =
      some (nextMillisecond (Time.ofMicros (Time.toMicros claimedAt))) := by
    unfold waitTarget
    rw [h.claimedAt, Option.bind_some, formatIngestedAt, if_neg hread.1,
      Time.parse_format_iff, if_pos hread.2]
    rfl
  have hle := hwaited hkind _ htarget
  unfold nextMillisecond at hle
  omega

/-- The first claim of a task and its `running` event, in every run, with any offset of the
    clocks: the order check passes for the Docker executor, and for the Kubernetes executor
    when its clock is behind by less than what passed since the claim, the digits the
    stored stamp has lost included. -/
theorem running_event_in_order (h : (starting reg x).Reachable s) {claimedAt composedAt : Int}
    {event : TaskEventAppendRequest} (hphase : s.phase = .composed claimedAt composedAt event)
    {parsed : ParsedEvent} (hparse : parseTaskEvent event = .ok parsed) (task : TaskRow) :
    (ensureOrder event parsed task).errorOf s.db = none ↔
      (x.kind = .docker ∧ Readable claimedAt) ∨
      -x.offset < (composedAt - claimedAt) + claimedAt % 1000 ∨
      -x.offset = (composedAt - claimedAt) + claimedAt % 1000 ∧
        "evt-" ++ x.taskID < event.eventID := by
  have hinv := (invariant_reachable h).phase
  rw [hphase] at hinv
  obtain ⟨response, uuid, hanswered, hwaited, rfl⟩ := hinv
  have htime : parsed.occurredAt = x.now composedAt :=
    Time.parse_format_some (parseTaskEvent_ok hparse).2.1
  rw [ensureOrder_iff hanswered.created rfl, htime]
  have hstamp : Time.ofMicros (Time.toMicros claimedAt) = claimedAt - claimedAt % 1000 := by
    unfold Time.ofMicros Time.toMicros
    omega
  have hlater : Time.ofMicros (Time.toMicros claimedAt) < x.now composedAt ↔
      -x.offset < (composedAt - claimedAt) + claimedAt % 1000 := by
    rw [hstamp, Starter.now]
    omega
  have hequal : Time.ofMicros (Time.toMicros claimedAt) = x.now composedAt ↔
      -x.offset = (composedAt - claimedAt) + claimedAt % 1000 := by
    rw [hstamp, Starter.now]
    omega
  unfold Starter.Before
  rw [hlater, hequal]
  constructor
  · intro hbefore
    exact .inr hbefore
  · intro hcond
    rcases hcond with ⟨hkind, hread⟩ | hbefore
    · exact .inl (hlater.mp (waited_past hanswered hwaited hkind hread))
    · exact hbefore

/-- An executor of the sample deployment whose clock is one second behind. -/
def sampleStarter (kind : Kind) : Starter :=
  ⟨kind, sampleIdentity, "task", "team", "command", -1000000000⟩

/-- The Registry at its second eight. -/
def sampleState : State := ⟨.empty, 8000000000, .discovered⟩

/-- The deployment with one pending task, and the claim of the task. -/
def sampleClaimed : List Label :=
  (sampleSetup ++ [sampleIngest "task" "1" 5]).map .registry ++
    [.claim (sampleEnv "claim" 8), .proceed]

/-- The event an executor composes when its clock shows an instant. -/
def sampleRunning (now : Int) : TaskEventAppendRequest where
  eventID := "evt-running"
  teamID := "team"
  taskID := "task"
  executorID := "exec"
  eventType := "running"
  occurredAt := Time.formatRFC3339Nano now
  payload := .text (.obj [("phase", .str "running")])

/-- The Docker executor waits for a second and a millisecond and is heard. -/
theorem running_event_in_order_sample : ∃ s,
    (starting sampleConfig (sampleStarter .docker)).Reachable s ∧
      s.phase = .composed 8000000000 9001000000 (sampleRunning 8001000000) ∧
      parseTaskEvent (sampleRunning 8001000000) =
        .ok ⟨.running, 8001000000, .obj [("phase", .str "running")]⟩ ∧
      ∀ task, (ensureOrder (sampleRunning 8001000000)
        ⟨.running, 8001000000, .obj [("phase", .str "running")]⟩ task).errorOf s.db = none := by
  obtain ⟨s, hreach, hp⟩ : ∃ s,
      (starting sampleConfig (sampleStarter .docker)).Reachable s ∧
        s.phase = .composed 8000000000 9001000000 (sampleRunning 8001000000) :=
    System.Reachable.exists_of_follow (s := sampleState)
      (sampleClaimed ++ [.tick 1001000000, .proceed, .compose "running"]) ⟨rfl, rfl⟩
      (by decide +kernel)
  have hparse : parseTaskEvent (sampleRunning 8001000000) =
      .ok ⟨.running, 8001000000, .obj [("phase", .str "running")]⟩ := by
    simp only [parseTaskEvent, sampleRunning, Time.parse_format_iff]
    rfl
  refine ⟨s, hreach, hp, hparse, fun task => ?_⟩
  apply (running_event_in_order hreach hp hparse task).mpr
  exact .inl ⟨rfl, by decide, by decide, by decide⟩

/-- The Kubernetes executor sends the event at once, a millisecond after the claim by both
    clocks, and the Registry refuses it: it has `created` a second later. -/
theorem running_event_refused : ∃ s,
    (starting sampleConfig (sampleStarter .k8s)).Reachable s ∧
      s.phase = .composed 8000000000 8001000000 (sampleRunning 7001000000) ∧
      (appendTaskEvent sampleConfig (sampleEnv "append" 9)
        (sampleRunning 7001000000) sampleIdentity).errorOf s.db = some .eventConflict := by
  exact System.Reachable.exists_of_follow (s := sampleState)
    (sampleClaimed ++ [.tick 1000000, .compose "running"]) ⟨rfl, rfl⟩ (by decide +kernel)

end FlowAI.Executors
