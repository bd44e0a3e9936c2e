import FlowAI.Registry.LockPlans
import FlowAI.Registry.Routes

/-! # Deadlocks of the Store

  Most operations lock executor, queue, control, task and team in this order.
  Three do not: the log and control-event operations reference the executor when
  they hold the task, the executor event of a team references its team before the
  task it names, and the key of a registration may be the key of a claim queue.
  Each of the three can close a cycle of waits.  Where none of them meets the
  operation it collides with, no state has one.
-/

namespace FlowAI.Registry

/-! ## Section 1: The three collisions -/

/-- The executor a log or control-event operation references last. -/
@[simp] def Op.lateExecutor : Op → Option String
  | .appendTaskLog _ _ identity => some identity.executorID
  | .appendTaskControlEvent _ _ _ identity => some identity.executorID
  | _ => none

/-- The executor an operation holds while it asks for a task. -/
@[simp] def Op.lockedExecutor : Op → Option String
  | .claimTask _ executorID _ => some executorID
  | .appendTaskEvent _ identity => some identity.executorID
  | .appendExecutorEvent req identity => req.taskID.map (fun _ => identity.executorID)
  | _ => none

/-- The task an executor event references after its team. -/
@[simp] def Op.lateTask : Op → Option String
  | .appendExecutorEvent req _ => req.teamID.bind (fun _ => req.taskID)
  | _ => none

@[simp] def Op.claimedTask : Op → Option String
  | .claimTask req _ _ => some req.taskID
  | _ => none

/-- The key of a registration. -/
@[simp] def LockCall.registrationKey (hash : String → Int) (call : LockCall) : Option Int :=
  match call.op with
  | .registerExecutor executorID _ _ => some (hash executorID)
  | _ => none

/-- The key of the queue a claim waits in. -/
def LockCall.queueKey (hash : String → Int) (call : LockCall) : Option Int :=
  match call.op with
  | .claimTask _ executorID _ =>
    (call.db.executors.lookup executorID).map (fun e => hash (claimLockKey e))
  | _ => none

/-- The first operation asks late for what the second holds early. -/
def Collides (hash : String → Int) (a b : LockCall) : Prop :=
  (∃ executorID ∈ a.op.lateExecutor, executorID ∈ b.op.lockedExecutor) ∨
    (∃ taskID ∈ a.op.lateTask, taskID ∈ b.op.claimedTask) ∨
    ∃ key ∈ a.registrationKey hash, key ∈ b.queueKey hash

/-- A step that starts no operation next to one it collides with. -/
def StartsApart (hash : String → Int) {n : Nat} (s : LockState LockCall Resource n) :
    LockState.Label LockCall n → Prop
  | .start _ call => ∀ j x, s j = some x → ¬ Collides hash call x.txn ∧ ¬ Collides hash x.txn call
  | _ => True

/-! ## Section 2: Stages

  A stage orders the requests.  `bound h` is the latest stage of a request that the held lock
  `h` can block, so a session whose requests are beyond the bounds of what it holds keeps
  the stages growing along chains of waits. -/

/-- Rows that no operation locks for update. -/
def Resource.Quiet : Resource → Prop
  | .sourceSystem _ => True
  | .taskType _ => True
  | .secretVersion _ _ => True
  | _ => False

@[simp] def Op.stage (op : Op) (l : Lock Resource) : Nat :=
  match l.resource, l.mode with
  | .advisory _, _ => if op.claimedTask.isSome then 3 else 1
  | .executor _, .update => 2
  | .executor _, .keyShare => if op.lateExecutor.isSome then 8 else 2
  | .control _, _ => 4
  | .task _, .update => 5
  | .task _, .keyShare => if op.lateTask.isSome then 7 else 5
  | .team _, .update => 6
  | .team _, .keyShare => 9
  | .taskEvent _, _ => 8
  | .snapshot _, _ => 8
  | _, _ => 10

@[simp] def Op.bound (op : Op) (h : Lock Resource) : Nat :=
  match h.resource, h.mode with
  | .advisory _, _ => op.stage h
  | .executor _, .update => if op.lockedExecutor.isSome then 2 else 8
  | .executor _, .keyShare => 2
  | .control _, _ => 4
  | .task _, .update => 7
  | .task _, .keyShare => 5
  | .team _, .update => 9
  | .team _, .keyShare => 6
  | .taskEvent _, _ => 8
  | .snapshot _, _ => 8
  | _, _ => 10

/-- The request `l` of an operation that holds `held`: on a row it holds already, on a quiet
    row, or beyond all bounds; only the team of a claimed task is asked for within the bound of
    the task. -/
@[simp] def Op.Orderly (op : Op) (held : List (Lock Resource)) (l : Lock Resource) : Prop :=
  forUpdate l.resource ∈ held ∨ l.resource.Quiet ∨
    ∀ h ∈ held, op.bound h < op.stage l ∨
      ∃ taskID ∈ op.claimedTask, h = forUpdate (.task taskID) ∧ op.stage l = 6

/-- Every request of a list is orderly once those before it are held. -/
@[simp] def Op.OrderlyFrom (op : Op) : List (Lock Resource) → List (Lock Resource) → Prop
  | _, [] => True
  | held, l :: todo => op.Orderly held l ∧ op.OrderlyFrom (held ++ [l]) todo

theorem Op.OrderlyFrom.orderly {op : Op} {held done todo : List (Lock Resource)}
    {l : Lock Resource} (h : op.OrderlyFrom held (done ++ l :: todo)) : op.Orderly (held ++ done) l := by
  induction done generalizing held with
  | nil =>
    rw [List.append_nil]
    exact h.1
  | cons d done ih =>
    have hrest := ih h.2
    rwa [List.append_assoc] at hrest

/-- A stretch of quiet requests is orderly. -/
theorem Op.orderlyFrom_quiet {op : Op} {held quiet todo : List (Lock Resource)}
    (hquiet : ∀ l ∈ quiet, l.resource.Quiet) (h : op.OrderlyFrom (held ++ quiet) todo) :
    op.OrderlyFrom held (quiet ++ todo) := by
  induction quiet generalizing held with
  | nil =>
    rw [List.append_nil] at h
    exact h
  | cons q quiet ih =>
    refine ⟨.inr (.inl (hquiet q List.mem_cons_self)), ?_⟩
    refine ih (fun l hl => hquiet l (List.mem_cons_of_mem _ hl)) ?_
    rwa [List.append_assoc]

/-! ## Section 3: The plans are orderly -/

theorem claimTaskLocks_orderly (hash : String → Int) (db : Db) (req : ClaimRequest)
    (executorID : String) (identity : ExecutorIdentity) :
    (Op.claimTask req executorID identity).OrderlyFrom []
      (claimTaskLocks hash db req executorID) := by
  unfold claimTaskLocks
  cases db.executors.lookup executorID with
  | none => trivial
  | some executor =>
    cases db.tasks.lookup req.taskID with
    | none => simp
    | some task =>
      simp only [List.cons_append, List.nil_append, Op.OrderlyFrom]
      refine ⟨?_, ?_, ?_, ?_, ?_, Op.orderlyFrom_quiet ?_ ?_⟩
      · simp
      · simp
      · simp
      · -- the one request within a bound: the team, while the task is held
        simp
      · simp
      · intro l hl
        obtain ⟨e, -, rfl⟩ := List.mem_map.mp hl
        trivial
      · simp

/-- What a lock in the plan of a call says about the call. -/
@[simp] def LockCall.Fits (hash : String → Int) (call : LockCall) (l : Lock Resource) : Prop :=
  match l.resource, l.mode with
  | .advisory key, _ =>
    if call.op.claimedTask.isSome then key ∈ call.queueKey hash else key ∈ call.registrationKey hash
  | .executor executorID, .update =>
    call.op.lockedExecutor.isSome → executorID ∈ call.op.lockedExecutor
  | .executor executorID, .keyShare =>
    call.op.lateExecutor.isSome → executorID ∈ call.op.lateExecutor
  | .task taskID, .keyShare => call.op.lateTask.isSome → taskID ∈ call.op.lateTask
  | .sourceSystem _, mode => mode = .keyShare
  | .taskType _, mode => mode = .keyShare
  | .secretVersion _ _, mode => mode = .keyShare
  | _, _ => True

theorem claimTaskLocks_fit (hash : String → Int) (db : Db) (req : ClaimRequest)
    (executorID : String) (identity : ExecutorIdentity) :
    ∀ l ∈ claimTaskLocks hash db req executorID,
      (LockCall.mk db (.claimTask req executorID identity)).Fits hash l := by
  unfold claimTaskLocks
  cases hexec : db.executors.lookup executorID with
  | none => simp
  | some executor =>
    have hqueue : hash (claimLockKey executor) ∈
        (LockCall.mk db (.claimTask req executorID identity)).queueKey hash := by
      simp [LockCall.queueKey, hexec]
    cases db.tasks.lookup req.taskID with
    | none => simpa using hqueue
    | some task =>
      intro l hl
      simp only [List.mem_append, List.mem_cons, List.mem_map, List.not_mem_nil, or_false] at hl
      rcases hl with (rfl | rfl) | ((rfl | rfl | rfl) | ⟨e, -, rfl⟩) | (rfl | rfl | rfl)
      · simp
      · exact hqueue
      all_goals simp

theorem LockCall.locks_sound (hash : String → Int) (call : LockCall) :
    call.op.OrderlyFrom [] (call.locks hash) ∧ ∀ l ∈ call.locks hash, call.Fits hash l := by
  obtain ⟨db, op⟩ := call
  cases op with
  | claimTask req executorID identity =>
    exact ⟨claimTaskLocks_orderly hash db req executorID identity,
      claimTaskLocks_fit hash db req executorID identity⟩
  | appendExecutorEvent req identity =>
    simp only [LockCall.locks, appendExecutorEventLocks]
    cases htask : req.taskID <;> cases findExecutorEvent db identity.executorID req.eventID with
    | some _ => simp [htask]
    | none =>
      cases hteam : req.teamID <;> cases executorEventAuditTeam db req <;>
        simp [hteam, htask]
  | registerExecutor executorID req identity =>
    simp only [LockCall.locks, registerExecutorLocks]
    cases db.executors.lookup executorID with
    | some _ => simp
    | none => cases req.teamID <;> simp
  | appendTaskEvent req identity =>
    simp only [LockCall.locks, appendTaskEventLocks]
    cases findTaskEvent db req.taskID req.eventID <;> simp
  | appendTaskLog taskID req identity =>
    simp only [LockCall.locks, appendTaskLogLocks]
    cases readTaskLogChunk db taskID req.logChunkID <;> simp
  | createTaskControl identity taskID req =>
    simp only [LockCall.locks, createTaskControlLocks]
    cases findTaskControl db identity taskID req <;> simp
  | appendTaskControlEvent taskID controlID req identity =>
    simp only [LockCall.locks, appendTaskControlEventLocks]
    cases db.controls.lookup controlID with
    | none => simp
    | some control =>
      cases hread : readTaskControlEvent db control.teamID taskID controlID req.controlEventID <;>
        simp [hread]
  | ingestTask req ident =>
    simp only [LockCall.locks, ingestTaskLocks]
    cases findSubmission db ident.teamID ident.sourceSystemID req.sourceID <;>
      simp [Resource.Quiet]
  | updateTeam | archiveTeam =>
    simp [LockCall.locks, changeTeamLocks]
  | openEnvironment req =>
    simp only [LockCall.locks, openEnvironmentLocks]
    cases db.tasks.lookup req.taskID <;> simp
  | _ => simp [LockCall.locks]

/-! ## Section 4: Waits -/

/-- A request is blocked within the bound of the lock that blocks it. -/
theorem stage_le_bound {hash : String → Int} {a b : LockCall} {l h : Lock Resource}
    (hab : ¬ Collides hash a b) (hba : ¬ Collides hash b a) (hl : a.Fits hash l) (hh : b.Fits hash h)
    (hconf : l.Conflicts h) : a.op.stage l ≤ b.op.bound h := by
  obtain ⟨r, m⟩ := l
  obtain ⟨r', m'⟩ := h
  obtain ⟨hres, hmode⟩ := hconf
  change r = r' at hres
  change m = .update ∨ m' = .update at hmode
  subst hres
  cases r with
  | advisory key =>
    simp only [LockCall.Fits] at hl hh
    simp only [Op.stage, Op.bound]
    by_cases ha : a.op.claimedTask.isSome
    · rw [if_pos ha] at hl ⊢
      by_cases hb : b.op.claimedTask.isSome
      · rw [if_pos hb]
      · -- a registration holds the key a claim asks for
        rw [if_neg hb] at hh
        exact absurd (.inr (.inr ⟨key, hh, hl⟩)) hba
    · rw [if_neg ha]
      split <;> decide
  | executor executorID =>
    cases m with
    | update =>
      cases m' with
      | update =>
        simp only [Op.stage, Op.bound]
        split <;> decide
      | keyShare => simp
    | keyShare =>
      obtain rfl := hmode.resolve_left LockMode.noConfusion
      simp only [Op.stage, Op.bound]
      split
      · split
        · -- a late reference to an executor that is held until a task is locked
          rename_i hlate hlocked
          exact absurd (.inl ⟨executorID, hl hlate, hh hlocked⟩) hab
        · decide
      · split <;> decide
  | task taskID =>
    cases m with
    | update => cases m' <;> simp
    | keyShare =>
      obtain rfl := hmode.resolve_left LockMode.noConfusion
      simp only [Op.stage, Op.bound]
      split <;> decide
  | team teamID =>
    cases m with
    | update => cases m' <;> simp
    | keyShare =>
      obtain rfl := hmode.resolve_left LockMode.noConfusion
      simp
  | _ => simp

/-- The stage of the request a session waits with. -/
def LockState.stage {n : Nat} (s : LockState LockCall Resource n) (i : Fin n) : Nat :=
  match s i with
  | some ⟨call, _, l :: _⟩ => call.op.stage l
  | _ => 0

/-- Sessions that run side by side do not collide. -/
def LockState.Apart (hash : String → Int) {n : Nat} (s : LockState LockCall Resource n) : Prop :=
  ∀ i j x y, i ≠ j → s i = some x → s j = some y → ¬ Collides hash x.txn y.txn

/-- A session that waits and is waited for has the later stage. -/
theorem LockState.stage_lt_of_waits {hash : String → Int} {n : Nat}
    {s : LockState LockCall Resource n} (hsound : s.Sound (LockCall.locks hash))
    (hapart : LockState.Apart hash s) {i j k : Fin n} (hij : s.Waits i j) (hjk : s.Waits j k) :
    LockState.stage s i < LockState.stage s j := by
  obtain ⟨hne, x, y, l, todo, h, hx, hy, htodo, hh, hconf⟩ := hij.elim
  obtain ⟨hne', y', z, l', todo', h', hy', hz, htodo', hh', hconf'⟩ := hjk.elim
  rw [hy] at hy'
  obtain rfl := Option.some.inj hy'
  obtain ⟨call, held, _⟩ := x
  obtain ⟨call', held', _⟩ := y
  obtain ⟨call'', held'', _⟩ := z
  subst htodo htodo'
  have hfits : ∀ (m : Fin n) (c : LockCall) (hs ts : List (Lock Resource)),
      s m = some ⟨c, hs, ts⟩ → ∀ q ∈ hs ++ ts, c.Fits hash q := by
    intro m c hs ts hm q hq
    rw [hsound.follows m _ hm] at hq
    exact (c.locks_sound hash).2 q hq
  have hl : call.Fits hash l := hfits i _ _ _ hx l (by simp)
  have hl' : call'.Fits hash l' := hfits j _ _ _ hy l' (by simp)
  have hheld : call'.Fits hash h := hfits j _ _ _ hy h (List.mem_append_left _ hh)
  have hheld' : call''.Fits hash h' := hfits k _ _ _ hz h' (List.mem_append_left _ hh')
  simp only [LockState.stage, hx, hy]
  -- how the second session came to ask for `l'`
  have horderly : call'.op.Orderly held' l' := by
    have hplan := (call'.locks_sound hash).1
    rw [← hsound.follows j _ hy] at hplan
    simpa using hplan.orderly
  rcases horderly with hown | hquiet | hbeyond
  · -- on a row it holds for update nobody else holds anything
    exfalso
    refine hsound.compatible j k hne' (forUpdate l'.resource) ?_ h' ?_ ⟨hconf'.1, .inl rfl⟩
    · simpa only [LockState.holds, hy] using hown
    · simpa only [LockState.holds, hz] using hh'
  · -- quiet rows are only ever shared
    exfalso
    obtain ⟨r, m⟩ := l'
    obtain ⟨r', m'⟩ := h'
    obtain ⟨hres, hmode⟩ := hconf'
    change r = r' at hres
    subst hres
    cases r <;> first
      | exact hquiet.elim
      | (simp only [LockCall.Fits] at hl' hheld'
         subst hl' hheld'
         rcases hmode with hmode | hmode <;> cases hmode)
  · rcases hbeyond h hh with hlt | ⟨taskID, hclaimed, rfl, hstage⟩
    · exact Nat.lt_of_le_of_lt (stage_le_bound (hapart i j _ _ hne hx hy)
        (hapart j i _ _ (Ne.symm hne) hy hx) hl hheld hconf) hlt
    · -- a claim holds the task and asks for its team: only a late reference to the task
      -- would be beyond that
      obtain ⟨r, m⟩ := l
      obtain ⟨hres, -⟩ := hconf
      change r = Resource.task taskID at hres
      subst hres
      rw [hstage]
      cases m with
      | update => simp
      | keyShare =>
        simp only [Op.stage]
        split
        · rename_i hlateTask
          exact absurd (.inr (.inl ⟨taskID, hl hlateTask, hclaimed⟩))
            (hapart i j _ _ hne hx hy)
        · decide

/-! ## Section 5: Deadlock freedom -/

/-- Step lemma. -/
theorem LockState.Apart.next {hash : String → Int} {n : Nat} {s s' : LockState LockCall Resource n}
    {l : LockState.Label LockCall n} (h : LockState.Apart hash s)
    (hstep : s.next (LockCall.locks hash) l = some s') (hguard : StartsApart hash s l) :
    LockState.Apart hash s' := by
  -- a session that keeps its call, or ends, stays apart from the others
  have hkeep : ∀ {i : Fin n} {x : Option (LockSession LockCall Resource)},
      (∀ y, x = some y → ∃ y₀, s i = some y₀ ∧ y₀.txn = y.txn) →
      LockState.Apart hash (Function.update s i x) := by
    intro i x hx a b y z hab hy hz
    have hold : ∀ c w, Function.update s i x c = some w → ∃ w₀, s c = some w₀ ∧ w₀.txn = w.txn := by
      intro c w hw
      by_cases hc : c = i
      · subst hc
        rw [Function.update_self] at hw
        exact hx w hw
      · rw [Function.update_of_ne hc] at hw
        exact ⟨w, hw, rfl⟩
    obtain ⟨y₀, hy₀, hytxn⟩ := hold a y hy
    obtain ⟨z₀, hz₀, hztxn⟩ := hold b z hz
    rw [← hytxn, ← hztxn]
    exact h a b y₀ z₀ hab hy₀ hz₀
  rcases LockState.next_cases hstep with ⟨i, call, rfl, hidle, rfl⟩ |
    ⟨i, call, held, lock, todo, -, hrun, -, rfl⟩ | ⟨i, x, -, -, rfl⟩
  · intro a b y z hab hy hz
    by_cases ha : a = i
    · subst ha
      rw [Function.update_self] at hy
      rw [Function.update_of_ne (Ne.symm hab)] at hz
      obtain rfl := Option.some.inj hy
      exact (hguard b z hz).1
    · rw [Function.update_of_ne ha] at hy
      by_cases hb : b = i
      · subst hb
        rw [Function.update_self] at hz
        obtain rfl := Option.some.inj hz
        exact (hguard a y hy).2
      · rw [Function.update_of_ne hb] at hz
        exact h a b y z hab hy hz
  · refine hkeep ?_
    intro y hy
    obtain rfl := Option.some.inj hy
    exact ⟨_, hrun, rfl⟩
  · refine hkeep ?_
    intro y hy
    cases hy

/-- Where no operation starts next to one it collides with, no state of any number of
    concurrent operations has a cycle of waits. -/
theorem no_deadlock_when_apart {hash : String → Int} {n : Nat} {s : LockState LockCall Resource n}
    (h : ((lockManager (LockCall.locks hash) n).restrict (StartsApart hash)).Reachable s) :
    ¬ s.Deadlocked := by
  have hinv : s.Sound (LockCall.locks hash) ∧ LockState.Apart hash s := by
    refine h.invariant (P := fun s => s.Sound (LockCall.locks hash) ∧ LockState.Apart hash s) ?_ ?_
    · intro s hinit
      obtain rfl : s = LockState.empty := hinit
      refine ⟨LockState.sound_empty, ?_⟩
      intro i j x y _ hx
      cases hx
    · intro s l s' _ hprev hstep
      exact ⟨hprev.1.next hstep.1, hprev.2.next hstep.1 hstep.2⟩
  refine LockState.not_deadlocked_of_rank (LockState.stage s) ?_
  intro i j k hij hjk
  exact LockState.stage_lt_of_waits hinv.1 hinv.2 hij hjk

/-- A toy hash. -/
def sampleHash (text : String) : Int := text.toList.foldl (fun h c => 131 * h + c.toNat) 0

/-- An update of the sample team, and a submission of a task to it. -/
def sampleUpdate : LockCall := ⟨.empty, .updateTeam "team" ⟨some "Team", none⟩ ⟨"admin", "request"⟩⟩

def sampleSubmission : LockCall := ⟨.empty, (sampleIngest "task" "1" 5).op⟩

/-- The update has started. -/
def sampleStarted : LockState LockCall Resource 2 :=
  Function.update LockState.empty 0 (some ⟨sampleUpdate, [], sampleUpdate.locks sampleHash⟩)

/-- The update holds the team and the submission waits for it. -/
def sampleBeside : LockState LockCall Resource 2 :=
  Function.update
    (Function.update sampleStarted 1
      (some ⟨sampleSubmission, [], sampleSubmission.locks sampleHash⟩)) 0
    (some ⟨sampleUpdate, [forUpdate (.team "team")], [keyShare (.team "team")]⟩)

theorem sampleBeside_reachable :
    ((lockManager (LockCall.locks sampleHash) 2).restrict (StartsApart sampleHash)).Reachable
      sampleBeside := by
  have hapart : ¬ Collides sampleHash sampleSubmission sampleUpdate ∧
      ¬ Collides sampleHash sampleUpdate sampleSubmission := by
    constructor <;> rintro (⟨_, h, -⟩ | ⟨_, h, -⟩ | ⟨_, h, -⟩) <;> cases h
  have hfirst : StartsApart sampleHash LockState.empty (.start (0 : Fin 2) sampleUpdate) := by
    intro j x hx
    cases hx
  have hsecond : StartsApart sampleHash sampleStarted (.start 1 sampleSubmission) := by
    intro j x hx
    by_cases hj : j = 0
    · subst hj
      obtain rfl := Option.some.inj hx
      exact hapart
    · rw [show sampleStarted j = none from Function.update_of_ne hj _ _] at hx
      cases hx
  exact .step (.acquire 0) (.step (.start 1 sampleSubmission)
    (.step (.start 0 sampleUpdate) (.init rfl) ⟨rfl, hfirst⟩) ⟨rfl, hsecond⟩) ⟨rfl, trivial⟩

theorem no_deadlock_when_apart_sample :
    sampleBeside.Waits 1 0 ∧ ¬ sampleBeside.Deadlocked :=
  ⟨by decide, no_deadlock_when_apart sampleBeside_reachable⟩

/-- The two calls start, and acquire their locks in the given order. -/
def sampleRace (calls : List Call) (a b : Call) (order : List (Fin 2)) :
    Option (LockState LockCall Resource 2) :=
  LockState.empty.run (LockCall.locks sampleHash)
    (.start 0 ⟨serve sampleConfig .empty calls, a.op⟩ ::
      .start 1 ⟨serve sampleConfig .empty calls, b.op⟩ :: order.map .acquire)

/-- Two calls that pass their handlers and are accepted when they run alone, but can end up
    waiting for each other. -/
def Deadlocks (calls : List Call) (a b : Call) : Prop :=
  Admitted (a :: b :: calls) ∧
    (exec sampleConfig a).errorOf (serve sampleConfig .empty calls) = none ∧
    (exec sampleConfig b).errorOf (serve sampleConfig .empty calls) = none ∧
    ∃ order s, sampleRace calls a b order = some s ∧
      (lockManager (LockCall.locks sampleHash) 2).Reachable s ∧ s.Deadlocked

theorem deadlocks_of_race {calls : List Call} {a b : Call} (order : List (Fin 2))
    (hadmitted : Admitted (a :: b :: calls))
    (ha : (exec sampleConfig a).errorOf (serve sampleConfig .empty calls) = none)
    (hb : (exec sampleConfig b).errorOf (serve sampleConfig .empty calls) = none)
    (hrace : ∃ s, sampleRace calls a b order = some s ∧ (s.Waits 0 1 ∧ s.Waits 1 0)) :
    Deadlocks calls a b := by
  obtain ⟨s, hrun, h01, h10⟩ := hrace
  refine ⟨hadmitted, ha, hb, order, s, hrun, LockState.run_reachable (.init rfl) hrun, 0, ?_⟩
  exact .tail (.single h01) h10

/-- The executor of a task reports its start while it appends to its log. -/
def sampleLog : Call :=
  ⟨sampleEnv "log" 8, .appendTaskLog "task" ⟨"chunk", .work, "line", 8000000000⟩ sampleIdentity⟩

/-- An executor of the sample team. -/
def sampleTeamIdentity : ExecutorIdentity := ⟨"worker", .team, some "team", "request"⟩

def sampleTeamExecutor : Call :=
  ⟨sampleEnv "worker" 5, .registerExecutor "worker" ⟨.team, some "team", "docker", "go", 1, 0, .obj []⟩
    sampleTeamIdentity⟩

/-- It reports to be busy with a task. -/
def sampleBusy : Call :=
  ⟨sampleEnv "busy" 8, .appendExecutorEvent
    ⟨"event", some "team", some "task", "worker", "busy", "1970-01-01T00:00:08Z", .empty⟩
    sampleTeamIdentity⟩

/-- The registration of an executor named like the queue of its tag. -/
def sampleQueueName : Call :=
  ⟨sampleEnv "named" 5, .registerExecutor "state-registry:claim:go" (sampleRegistration "go")
    ⟨"state-registry:claim:go", .system, none, "request"⟩⟩

def sampleQueueClaim : Call :=
  ⟨sampleEnv "claim" 8, .claimTask ⟨"task", "command"⟩ "state-registry:claim:go"
    ⟨"state-registry:claim:go", .system, none, "request"⟩⟩

/-- Each of the three collisions ends in a cycle: a log against a lifecycle event of the same
    executor, an executor event against the claim of the task it names, and a registration
    against a claim of an executor that is named like its queue. -/
theorem deadlocks_sample :
    Deadlocks (sampleSetup ++ [sampleIngest "task" "1" 5, sampleClaim "task" 6]) sampleLog
        (sampleAppend 8 (sampleEvent "running" "task" "running" "1970-01-01T00:00:08Z")) ∧
      Deadlocks (sampleSetup ++ [sampleTeamExecutor, sampleIngest "task" "1" 6]) sampleBusy
        (sampleClaim "task" 8) ∧
      Deadlocks (sampleSetup ++ [sampleQueueName, sampleIngest "task" "1" 6]) sampleQueueName
        sampleQueueClaim := by
  refine ⟨deadlocks_of_race [0, 0, 1] ?_ ?_ ?_ ?_, deadlocks_of_race [0, 0, 0, 1, 1, 1] ?_ ?_ ?_ ?_,
    deadlocks_of_race [0, 1] ?_ ?_ ?_ ?_⟩ <;> decide +kernel

end FlowAI.Registry
