import FlowAI.K8s.Steps
import FlowAI.Registry.Assignment

/-! # The Tasks of the Kubernetes Executor

  What the process holds is its own: every slot, every record with a Pod and every event in
  the outbox is of a task that the Registry assigned to this executor, and a task it is
  about to claim is not.  One poll goroutine and distinct task identifiers keep the two
  apart: a task is started once, and has one slot.
-/

namespace FlowAI.K8s

open Registry

variable {call : Call} {taskID : String} {slot : Slot} {task : Starting}
  {stage : StartStage} {act : Act} {slot' : Option Slot}

/-! ## Section 1: What is owned -/

/-- The event says that the task has ended. -/
def IsTerminal (event : TaskEventAppendRequest) : Prop :=
  event.eventType = "finished" ∨ event.eventType = "failed"

/-- An event as `appendTaskEvent` composes it for a task. -/
structure Composed (taskID teamID : String) (event : TaskEventAppendRequest) : Prop where
  taskID : event.taskID = taskID
  teamID : event.teamID = teamID
  kind : event.eventType = "running" ∨ IsTerminal event
  payload : ∃ texts : List (String × String),
    event.payload = .text (.obj (texts.map (fun p => (p.1, .str p.2))))

/-- What the stage of a slot carries. -/
def StageOwned (taskID teamID : String) : Stage → Prop
  | .outbox eventType _ _ => eventType = "finished" ∨ eventType = "failed"
  | .post event => Composed taskID teamID event ∧ IsTerminal event
  | _ => True

structure SlotOwned (cfg : ExecutorConfig) (db : Db) (taskID : String) (slot : Slot) : Prop where
  key : slot.taskID = taskID
  assigned : Assigned db cfg.executorID taskID
  team : InTeam db taskID slot.teamID
  stage : StageOwned taskID slot.teamID slot.stage

/-- A record without a Pod may be of a task that somebody else got. -/
structure RecordOwned (cfg : ExecutorConfig) (db : Db) (taskID : String) (r : AssignmentRecord) :
    Prop where
  key : r.taskID = taskID
  live : r.live = true
  assigned : r.runtimeRef ≠ "" → Assigned db cfg.executorID taskID ∧ InTeam db taskID r.teamID

structure OutboxOwned (cfg : ExecutorConfig) (db : Db) (eventID : String)
    (event : TaskEventAppendRequest) : Prop where
  key : event.eventID = eventID
  assigned : Assigned db cfg.executorID event.taskID
  team : InTeam db event.taskID event.teamID
  composed : Composed event.taskID event.teamID event

/-- Tasks that are there to be claimed. -/
structure Untaken (cfg : ExecutorConfig) (db : Db) (items : List Summary) : Prop where
  distinct : (items.map Summary.taskID).Nodup
  unassigned : ∀ i ∈ items, ¬ Assigned db cfg.executorID i.taskID
  team : ∀ i ∈ items, InTeam db i.taskID i.teamID

/-- Records as the cache has them. -/
structure Cached (c : Cache) (rs : List AssignmentRecord) : Prop where
  distinct : (rs.map AssignmentRecord.taskID).Nodup
  found : ∀ r ∈ rs, c.assignments.lookup r.taskID = some r

/-- Events that the outbox still holds as pending. -/
structure Pending (c : Cache) (events : List TaskEventAppendRequest) : Prop where
  distinct : (events.map TaskEventAppendRequest.eventID).Nodup
  found : ∀ e ∈ events, c.eventOutbox.lookup e.eventID = some ⟨e, false⟩

/-- A claimed task that has no slot yet. -/
def Launching (cfg : ExecutorConfig) (w : World) (task : Starting) : Prop :=
  Assigned w.db cfg.executorID task.taskID ∧ w.pods.lookup task.taskID = none

def StartOwned (cfg : ExecutorConfig) (w : World) (task : Starting) : StartStage → Prop
  | .intent => ¬ Assigned w.db cfg.executorID task.taskID
  | .claim => ¬ Assigned w.db cfg.executorID task.taskID
  | .post _ event => Launching cfg w task ∧ Composed task.taskID task.teamID event ∧
      event.eventType = "running"
  | .release _ => ∃ slot, w.pods.lookup task.taskID = some slot ∧ slot.stage = .installed
  | .record _ => ∃ slot, w.pods.lookup task.taskID = some slot ∧ slot.stage = .installed
  | .spawn => ∃ slot, w.pods.lookup task.taskID = some slot ∧ slot.stage = .installed
  | _ => Launching cfg w task

/-- What the poll goroutine relies on at a point. -/
def MainOwned (cfg : ExecutorConfig) (w : World) : Main → Prop
  | .down => w.pods = .empty
  | .reconcile => w.pods = .empty
  | .drop unmatched kept => w.pods = .empty ∧ Cached w.cache (unmatched ++ kept)
  | .resend pending kept => w.pods = .empty ∧ Cached w.cache kept ∧ Pending w.cache pending
  | .confirm eventID pending kept => w.pods = .empty ∧ Cached w.cache kept ∧
      ∃ e, e.eventID = eventID ∧ Pending w.cache (e :: pending)
  | .attach kept => Cached w.cache kept ∧ ∀ r ∈ kept, w.pods.lookup r.taskID = none
  | .idle => True
  | .capacity => True
  | .discover => True
  | .each items => Untaken cfg w.db items
  | .start task stage => Untaken cfg w.db task.rest ∧
      task.taskID ∉ task.rest.map Summary.taskID ∧ InTeam w.db task.taskID task.teamID ∧
      StartOwned cfg w task stage

/-- The slots, the records and the outbox. -/
structure Stores (cfg : ExecutorConfig) (w : World) : Prop where
  slots : ∀ taskID slot, w.pods.lookup taskID = some slot → SlotOwned cfg w.db taskID slot
  records : ∀ taskID r, w.cache.assignments.lookup taskID = some r →
    RecordOwned cfg w.db taskID r
  outbox : ∀ eventID r, w.cache.eventOutbox.lookup eventID = some r →
    OutboxOwned cfg w.db eventID r.event

structure Ownership (cfg : ExecutorConfig) (w : World) : Prop where
  stores : Stores cfg w
  main : MainOwned cfg w w.main

variable {cfg : ExecutorConfig} {reg : Config} {w w' : World} {a : Answer} {db db' : Db}

/-! ## Section 2: The Registry moves on -/

/-- A later state of the Registry in which the executor has no new task. -/
structure Grows (cfg : ExecutorConfig) (db db' : Db) : Prop where
  evolves : db.Evolves db'
  assigned : ∀ taskID, Assigned db' cfg.executorID taskID → Assigned db cfg.executorID taskID

theorem Grows.refl (db : Db) : Grows cfg db db := ⟨.refl db, fun _ h => h⟩

theorem Grows.of_eq {db db' : Db} (h : db' = db) : Grows cfg db db' := by
  rw [h]
  exact .refl db

/-- A call that is no claim in the name of the executor. -/
theorem grows_commit (h : ∀ req identity, call.op ≠ .claimTask req cfg.executorID identity)
    (db : Db) :
    Grows cfg db ((exec reg call).commit db) := by
  refine ⟨commit_evolves reg call db, ?_⟩
  intro taskID hassigned
  rcases assigned_of_commit hassigned with hbefore | htakes
  · exact hbefore
  · obtain ⟨req, identity, hop, -⟩ := htakes.claims
    exact absurd hop (h req identity)

theorem grows_of_other (h : actsAs cfg.executorID call.op = false) (db : Db) :
    Grows cfg db ((exec reg call).commit db) := by
  apply grows_commit
  intro req identity hop
  rw [hop] at h
  simp [actsAs] at h

theorem SlotOwned.later (h : SlotOwned cfg db taskID slot) (hlater : db.Evolves db') :
    SlotOwned cfg db' taskID slot :=
  ⟨h.key, h.assigned.later hlater, h.team.later hlater, h.stage⟩

variable {r : AssignmentRecord} {items : List Summary} {m : Main}

theorem RecordOwned.later (h : RecordOwned cfg db taskID r)
    (hlater : db.Evolves db') : RecordOwned cfg db' taskID r := by
  refine ⟨h.key, h.live, ?_⟩
  intro hne
  exact ⟨(h.assigned hne).1.later hlater, (h.assigned hne).2.later hlater⟩

theorem OutboxOwned.later {eventID : String} {event : TaskEventAppendRequest}
    (h : OutboxOwned cfg db eventID event) (hlater : db.Evolves db') :
    OutboxOwned cfg db' eventID event :=
  ⟨h.key, h.assigned.later hlater, h.team.later hlater, h.composed⟩

theorem Untaken.grows (h : Untaken cfg db items) (hgrows : Grows cfg db db') :
    Untaken cfg db' items :=
  ⟨h.distinct, fun i hi hassigned => h.unassigned i hi (hgrows.assigned _ hassigned),
    fun i hi => (h.team i hi).later hgrows.evolves⟩

theorem Untaken.tail {item : Summary} {rest : List Summary} (h : Untaken cfg db (item :: rest)) :
    Untaken cfg db rest ∧ item.taskID ∉ rest.map Summary.taskID := by
  obtain ⟨hnew, hrest⟩ := List.nodup_cons.mp h.distinct
  exact ⟨⟨hrest, fun i hi => h.unassigned i (List.mem_cons_of_mem _ hi),
    fun i hi => h.team i (List.mem_cons_of_mem _ hi)⟩, hnew⟩

theorem Stores.later (h : Stores cfg w) (hlater : w.db.Evolves db') :
    Stores cfg { w with db := db' } :=
  ⟨fun id slot hs => (h.slots id slot hs).later hlater,
    fun id r hr => (h.records id r hr).later hlater,
    fun id r hr => (h.outbox id r hr).later hlater⟩

theorem Launching.frame (h : Launching cfg w task) (hevolves : w.db.Evolves w'.db)
    (hpods : w'.pods.lookup task.taskID = w.pods.lookup task.taskID) : Launching cfg w' task :=
  ⟨h.1.later hevolves, hpods.trans h.2⟩

/-- What a start relies on is kept while the slot of its own task is left alone. -/
theorem StartOwned.frame (h : StartOwned cfg w task stage) (hgrows : Grows cfg w.db w'.db)
    (hpods : w'.pods.lookup task.taskID = w.pods.lookup task.taskID) :
    StartOwned cfg w' task stage := by
  have hslot : (∃ slot, w.pods.lookup task.taskID = some slot ∧ slot.stage = .installed) →
      ∃ slot, w'.pods.lookup task.taskID = some slot ∧ slot.stage = .installed := by
    rw [hpods]
    exact id
  cases stage with
  | intent | claim => exact fun hassigned => h (hgrows.assigned _ hassigned)
  | post podEnv event => exact ⟨h.1.frame hgrows.evolves hpods, h.2⟩
  | release | record | spawn => exact hslot h
  | _ => exact Launching.frame h hgrows.evolves hpods

/-- The poll goroutine keeps what it relies on when the Registry moves on and its slots and
    its cache stay as they are. -/
theorem MainOwned.frame (h : MainOwned cfg w m) (hgrows : Grows cfg w.db w'.db)
    (hpods : w'.pods = w.pods) (hcache : w'.cache = w.cache) : MainOwned cfg w' m := by
  cases m with
  | down | reconcile => exact hpods.trans h
  | drop | resend | confirm =>
    refine ⟨hpods.trans h.1, ?_⟩
    rw [hcache]
    exact h.2
  | attach =>
    unfold MainOwned
    rw [hcache, hpods]
    exact h
  | idle | capacity | discover => trivial
  | each items => exact Untaken.grows h hgrows
  | start task stage =>
    obtain ⟨hrest, hnew, hteam, hstage⟩ := h
    exact ⟨hrest.grows hgrows, hnew, hteam.later hgrows.evolves,
      hstage.frame hgrows (by rw [hpods])⟩

/-! ## Section 3: Actions -/

/-- What an action puts into the stores is owned. -/
def Act.Owned (cfg : ExecutorConfig) (db : Db) : Act → Prop
  | .putAssignment _ r => RecordOwned cfg db r.taskID r
  | .putOutbox _ event => OutboxOwned cfg db event.eventID event
  | .addPod slot => SlotOwned cfg db slot.taskID slot
  | _ => True

theorem reach_evolves (reach : Reach) (call : Call) (db : Db) :
    db.Evolves (reach.commit reg call db) := by
  cases reach with
  | failed => exact .refl db
  | answered | lost => exact commit_evolves reg call db

theorem perform_evolves (act : Act) : w.db.Evolves (w.perform reg act).db := by
  cases act with
  | request reach call | append reach call event => exact reach_evolves reach call w.db
  | _ =>
    rw [perform_db (by simp) (by simp)]
    exact .refl _

theorem Stores.addPod (h : Stores cfg w) (hslot : SlotOwned cfg w.db slot.taskID slot) :
    Stores cfg (w.perform reg (.addPod slot)) := by
  have hslots := StrMap.forall_lookup_insert hslot h.slots
  exact ⟨hslots, h.records, h.outbox⟩

theorem Stores.perform (h : Stores cfg w) (hact : act.Owned cfg w.db) :
    Stores cfg (w.perform reg act) := by
  cases act with
  | none | reserve | draw => exact ⟨h.slots, h.records, h.outbox⟩
  | putAssignment written r =>
    simp only [World.perform]
    split
    · exact ⟨h.slots, StrMap.forall_lookup_insert hact h.records, h.outbox⟩
    · exact h
  | deleteAssignment written taskID =>
    simp only [World.perform]
    split
    · exact ⟨h.slots, StrMap.forall_lookup_erase h.records, h.outbox⟩
    · exact h
  | putOutbox written event =>
    simp only [World.perform]
    split
    · exact ⟨h.slots, h.records, StrMap.forall_lookup_insert hact h.outbox⟩
    · exact h
  | acceptOutbox written eventID =>
    simp only [World.perform]
    split
    · refine ⟨h.slots, ?_, ?_⟩
      · intro id r' hr
        change (w.cache.acceptOutbox eventID).assignments.lookup id = some r' at hr
        rw [Cache.assignments_acceptOutbox] at hr
        exact h.records id r' hr
      · intro id r' hr
        change (w.cache.acceptOutbox eventID).eventOutbox.lookup id = some r' at hr
        rw [Cache.lookup_acceptOutbox] at hr
        split at hr
        · obtain ⟨r, hfound, rfl⟩ := Option.map_eq_some_iff.mp hr
          exact h.outbox id r hfound
        · exact h.outbox id r' hr
    · exact h
  | request reach call => exact h.later (reach_evolves reach call w.db)
  | append reach call event =>
    have hevolves : w.db.Evolves (reach.commit reg call w.db) := reach_evolves reach call w.db
    exact ⟨(h.later hevolves).slots, (h.later hevolves).records, (h.later hevolves).outbox⟩
  | createPod reach pod | release =>
    simp only [World.perform]
    split <;> exact ⟨h.slots, h.records, h.outbox⟩
  | addPod slot => exact h.addPod hact
  | spawn taskID =>
    cases hslot : w.pods.lookup taskID with
    | none => simpa only [World.perform, hslot] using h
    | some slot =>
      have howned := h.slots taskID slot hslot
      have hkey : (slot.at .watch).taskID = taskID := howned.key
      rw [perform_spawn hslot hkey]
      refine h.addPod ?_
      rw [hkey]
      exact ⟨hkey, howned.assigned, howned.team, trivial⟩

theorem Stores.exit (h : Stores cfg w) : Stores cfg w.exit :=
  ⟨(fun _ _ hs => by cases hs), h.records, h.outbox⟩

theorem Stores.goto (h : Stores cfg w) (m : Main) : Stores cfg (w.goto m) := by
  by_cases hm : m = .down
  · subst hm
    exact h.exit
  · rw [goto_of_up hm]
    exact ⟨h.slots, h.records, h.outbox⟩

theorem Stores.setSlot {slot : Option Slot} (h : Stores cfg w)
    (hslot : ∀ s, slot = some s → SlotOwned cfg w.db taskID s) :
    Stores cfg (w.setSlot taskID slot) := by
  refine ⟨?_, ?_, ?_⟩
  · rw [setSlot_db]
    exact forall_setSlot rfl hslot (fun id s _ hs => h.slots id s hs)
  · rw [setSlot_cache, setSlot_db]
    exact h.records
  · rw [setSlot_cache, setSlot_db]
    exact h.outbox

/-! ## Section 4: A start -/

/-- The state after an accepted claim. -/
theorem claimCall_commit {response : ClaimResponse}
    (h : claimTask reg a.env ⟨task.taskID, task.commandID⟩ cfg.executorID
      (cfg.identity a.requestID) db = .ok (response, db')) :
    (exec reg (claimCall cfg a task.taskID task.commandID)).commit db = db' := by
  show (Tx.void _).commit db = db'
  rw [Tx.commit_void]
  exact Tx.commit_of_ok h

/-- A claim of the executor leaves the other tasks of the page as they were. -/
theorem Untaken.claim {commandID : String} (h : Untaken cfg db items)
    (hnew : taskID ∉ items.map Summary.taskID) :
    Untaken cfg ((exec reg (claimCall cfg a taskID commandID)).commit db) items := by
  refine ⟨h.distinct, ?_, ?_⟩
  · intro i hi hassigned
    rcases assigned_of_commit hassigned with hbefore | htakes
    · exact h.unassigned i hi hbefore
    · obtain ⟨req, identity, hop, hid⟩ := htakes.claims
      cases hop
      exact hnew (List.mem_map.mpr ⟨i, hi, hid.symm⟩)
  · intro i hi
    exact (h.team i hi).later (commit_evolves reg _ db)

theorem reach_grows (reach : Reach)
    (h : ∀ req identity, call.op ≠ .claimTask req cfg.executorID identity) (db : Db) :
    Grows cfg db (reach.commit reg call db) := by
  cases reach with
  | failed => exact .refl db
  | answered | lost => exact grows_commit h db

theorem composed_running (task : Starting) :
    Composed task.taskID task.teamID (runningEvent cfg a task) :=
  ⟨rfl, rfl, .inl rfl, [("phase", "running")], rfl⟩

theorem composed_terminal {eventType : String} (phase detail : String)
    (h : eventType = "finished" ∨ eventType = "failed") :
    Composed slot.taskID slot.teamID (terminalEvent cfg a slot eventType phase detail) ∧
      IsTerminal (terminalEvent cfg a slot eventType phase detail) :=
  ⟨⟨rfl, rfl, .inr h, [("detail", detail), ("phase", phase)], rfl⟩, h⟩

/-- Step lemma for `startTaskV0002`. -/
theorem StartStep.owned (hs : StartStep cfg reg w a task stage act m) (h : Stores cfg w)
    (hmain : MainOwned cfg w (.start task stage)) :
    act.Owned cfg w.db ∧ MainOwned cfg ((w.perform reg act).goto m) m := by
  obtain ⟨hrest, hnew, hteam, hstage⟩ := hmain
  -- the goroutine goes on with the same task, and the Registry has given out no other one
  have hon : ∀ (act : Act) (stage' : StartStage),
      Grows cfg w.db (w.perform reg act).db →
      StartOwned cfg ((w.perform reg act).goto (.start task stage')) task stage' →
      MainOwned cfg ((w.perform reg act).goto (.start task stage')) (.start task stage') :=
    fun act stage' hgrows hst =>
      ⟨hrest.grows hgrows, hnew, hteam.later hgrows.evolves, hst⟩
  have hquiet : ∀ (act : Act) (stage' : StartStage), (w.perform reg act).db = w.db →
      (w.perform reg act).pods = w.pods → StartOwned cfg w task stage' →
      MainOwned cfg ((w.perform reg act).goto (.start task stage')) (.start task stage') := by
    intro act stage' hdb hpods hst
    apply hon act stage' (hdb ▸ .refl _)
    apply hst.frame
    · rw [goto_db, hdb]
      exact .refl _
    · rw [goto_pods (by simp), hpods]
  cases hs with
  | noIntent => exact ⟨trivial, trivial⟩
  | intent => exact ⟨⟨rfl, rfl, fun hne => absurd rfl hne⟩, hon _ _ (.refl _) hstage⟩
  | @claimed response db' hr hok =>
    refine ⟨trivial, ?_⟩
    obtain ⟨w₁, hw₁⟩ : ∃ w₁, w.perform reg (.request a.reach
      (claimCall cfg a task.taskID task.commandID)) = w₁ := ⟨_, rfl⟩
    have hdb : w₁.db = (exec reg (claimCall cfg a task.taskID task.commandID)).commit w.db := by
      rw [← hw₁]
      show a.reach.commit reg _ w.db = _
      rw [hr]
      rfl
    have hlaunch : ∀ m, Launching cfg (w₁.goto (.start task m)) task := by
      intro m
      refine ⟨?_, ?_⟩
      · rw [goto_db, hdb, claimCall_commit hok]
        exact assigned_of_claim hok
      · rw [goto_pods (by simp), ← hw₁, perform_pods (by simp) (by simp)]
        -- a task with a slot would be assigned already
        rw [Option.eq_none_iff_forall_not_mem]
        intro slot hslot
        exact hstage (h.slots _ _ hslot).assigned
    have hclaimed : ∀ stage', StartOwned cfg (w₁.goto (.start task stage')) task stage' →
        MainOwned cfg (w₁.goto (.start task stage')) (.start task stage') := by
      intro stage' hst
      refine ⟨?_, hnew, ?_, hst⟩
      · rw [goto_db, hdb]
        exact hrest.claim hnew
      · rw [goto_db, hdb]
        exact hteam.later (commit_evolves reg _ w.db)
    rw [hw₁]
    rcases afterClaim_cases cfg task response with heq | ⟨token, heq⟩ | ⟨podEnv, heq⟩
    · rw [heq]
      trivial
    · rw [heq]
      exact hclaimed _ (hlaunch _)
    · rw [heq]
      exact hclaimed _ (hlaunch _)
  | @declined e m hr hno hnext =>
    refine ⟨trivial, ?_⟩
    rcases hnext with rfl | rfl
    · trivial
    · show Untaken cfg (World.goto _ _).db task.rest
      rw [goto_db]
      show Untaken cfg (a.reach.commit reg _ w.db) task.rest
      rw [hr]
      have hdb : (exec reg (claimCall cfg a task.taskID task.commandID)).commit w.db =
          w.db := (Tx.commit_void _).trans (Tx.commit_of_error hno)
      show Untaken cfg (Tx.commit _ w.db) task.rest
      rw [hdb]
      exact hrest
  | unanswered => exact ⟨trivial, trivial⟩
  | @opened response token values hr =>
    refine ⟨trivial, ?_⟩
    have hgrows : Grows cfg w.db (a.reach.commit reg (openCall cfg a task.taskID token) w.db) :=
      reach_grows _ (by simp [openCall]) w.db
    rcases launch_cases cfg task response values with heq | ⟨podEnv, heq⟩
    · rw [heq]
      trivial
    · rw [heq]
      exact hon _ _ hgrows (Launching.frame hstage hgrows.evolves rfl)
  | unopened => exact ⟨trivial, trivial⟩
  | assign =>
    exact ⟨⟨rfl, rfl, fun hne => absurd rfl hne⟩,
      hquiet _ _ perform_db perform_pods hstage⟩
  | outbox =>
    exact ⟨⟨rfl, hstage.1, hteam, composed_running task⟩,
      hquiet _ _ perform_db perform_pods
        ⟨hstage, composed_running task, rfl⟩⟩
  | @posted podEnv event | @unposted podEnv event =>
    have hgrows : Grows cfg w.db (a.reach.commit reg (appendCall cfg a event) w.db) :=
      reach_grows _ (by simp [appendCall]) w.db
    exact ⟨trivial, hon _ _ hgrows (Launching.frame hstage.1 hgrows.evolves rfl)⟩
  | reserve | accept | created | uncreated | unassign | release =>
    exact ⟨trivial,
      hquiet _ _ perform_db perform_pods hstage⟩
  | abort => exact ⟨trivial, trivial⟩
  | @install podEnv uid =>
    refine ⟨⟨rfl, hstage.1, hteam, trivial⟩, hon _ _ (.refl _) ⟨task.slot podEnv uid, ?_, rfl⟩⟩
    show (w.pods.insert task.taskID (task.slot podEnv uid)).lookup task.taskID = _
    rw [StrMap.lookup_insert, if_pos rfl]
  | record =>
    obtain ⟨slot, hslot, hinstalled⟩ := hstage
    exact ⟨⟨rfl, rfl, fun _ => ⟨(h.slots _ _ hslot).assigned, hteam⟩⟩,
      hquiet _ _ perform_db perform_pods
        ⟨slot, hslot, hinstalled⟩⟩
  | spawn =>
    refine ⟨trivial, ?_⟩
    show Untaken cfg (World.goto _ _).db task.rest
    rw [goto_db, perform_db (by simp) (by simp)]
    exact hrest

/-! ## Section 5: The poll goroutine -/

theorem cached_listAssignments (h : Stores cfg w) : Cached w.cache w.cache.listAssignments := by
  have hkey : ∀ e ∈ w.cache.assignments.entries, e.2.taskID = e.1 := by
    intro e he
    exact (h.records e.1 e.2 (StrMap.lookup_eq_some_iff.mpr he)).key
  refine ⟨?_, ?_⟩
  · have hmap : w.cache.listAssignments.map AssignmentRecord.taskID =
        w.cache.assignments.entries.map Prod.fst := by
      unfold Cache.listAssignments
      rw [List.map_map]
      exact List.map_congr_left hkey
    rw [hmap]
    exact w.cache.assignments.keys_nodup
  · intro r hr
    obtain ⟨taskID, hlook⟩ := Cache.mem_listAssignments.mp hr
    rw [(h.records taskID r hlook).key]
    exact hlook

/-- The two lists of `Reconcile` share no record. -/
theorem cached_reconcile (h : Stores cfg w) : Cached w.cache (w.unmatched ++ w.kept) := by
  have hall := cached_listAssignments h
  have hfound : ∀ r ∈ w.unmatched ++ w.kept, w.cache.assignments.lookup r.taskID = some r := by
    intro r hr
    apply hall.found
    rcases List.mem_append.mp hr with hr | hr
    · exact List.mem_of_mem_filter hr
    · exact List.mem_of_mem_filter hr
  refine ⟨?_, hfound⟩
  rw [List.map_append]
  apply List.Nodup.append
  · exact hall.distinct.sublist (List.Sublist.map _ List.filter_sublist)
  · exact hall.distinct.sublist (List.Sublist.map _ List.filter_sublist)
  · intro id hun hkept
    obtain ⟨r, hr, rfl⟩ := List.mem_map.mp hun
    obtain ⟨r', hr', hid⟩ := List.mem_map.mp hkept
    have hr₁ := hfound r (List.mem_append_left _ hr)
    have hr₂ := hfound r' (List.mem_append_right _ hr')
    rw [hid, hr₁] at hr₂
    obtain rfl := Option.some.inj hr₂
    have hno := (List.mem_filter.mp hr).2
    have hyes := (List.mem_filter.mp hr').2
    simp only [Bool.and_eq_true, Bool.not_eq_true'] at hno hyes
    rw [hyes.2] at hno
    exact absurd hno.2 (by simp)

theorem pending_pendingOutbox (h : Stores cfg w) : Pending w.cache w.cache.pendingOutbox := by
  refine ⟨?_, ?_⟩
  · have hmap : w.cache.pendingOutbox.map TaskEventAppendRequest.eventID =
        (w.cache.eventOutbox.entries.filter (fun e => !e.2.accepted)).map Prod.fst := by
      unfold Cache.pendingOutbox
      rw [List.map_map]
      apply List.map_congr_left
      intro e he
      exact (h.outbox e.1 e.2
        (StrMap.lookup_eq_some_iff.mpr (List.mem_of_mem_filter he))).key
    rw [hmap]
    exact w.cache.eventOutbox.keys_nodup.sublist (List.Sublist.map _ List.filter_sublist)
  · intro e he
    obtain ⟨eventID, hlook⟩ := Cache.mem_pendingOutbox.mp he
    have hkey := (h.outbox eventID _ hlook).key
    simp only at hkey
    rw [hkey]
    exact hlook

/-- A page lists pending tasks, each once. -/
theorem untaken_discovered (cfg : ExecutorConfig) (w : World) :
    Untaken cfg w.db (w.discovered cfg) := by
  unfold World.discovered
  split
  · rename_i rows hrows
    have hsub : rows ⊆ w.db.tasks.rows ∧ (rows.map TaskRow.taskID).Nodup ∧
        ∀ t ∈ rows, t.currentState = .pending := by
      unfold discoverExecutorTasks at hrows
      split at hrows
      · cases hrows
      · split at hrows
        · cases hrows
        · rename_i executor _ _
          injection hrows with hrows
          subst hrows
          have hmem : ∀ t ∈ ((w.db.tasks.rows.filter (fun t => t.eligible executor.authorizedTag
              executor.scope executor.teamID)).insertionSort
                (fun a b => a.position ≤ b.position)).take 100,
              t ∈ w.db.tasks.rows ∧ t.eligible executor.authorizedTag executor.scope
                executor.teamID = true := by
            intro t ht
            exact List.mem_filter.mp ((List.mem_insertionSort _).mp (List.mem_of_mem_take ht))
          refine ⟨fun t ht => (hmem t ht).1, ?_, ?_⟩
          · have hkeys : (w.db.tasks.rows.map TaskRow.taskID).Nodup :=
              w.db.tasks.keys_nodup
            apply List.Nodup.sublist (List.Sublist.map _ (List.take_sublist _ _))
            rw [((List.perm_insertionSort _ _).map _).nodup_iff]
            exact hkeys.sublist (List.Sublist.map _ List.filter_sublist)
          · intro t ht
            have helig := (hmem t ht).2
            simp only [TaskRow.eligible, Bool.and_eq_true, decide_eq_true_eq] at helig
            exact helig.1.1
    obtain ⟨hrow, hdistinct, hpending⟩ := hsub
    have hitem : ∀ i ∈ (rows.insertionSort (fun a b => a.position ≤ b.position)).map
        (fun t => (⟨t.taskID, t.teamID⟩ : Summary)), ∃ t ∈ rows, i = ⟨t.taskID, t.teamID⟩ := by
      intro i hi
      obtain ⟨t, ht, rfl⟩ := List.mem_map.mp hi
      exact ⟨t, (List.mem_insertionSort _).mp ht, rfl⟩
    refine ⟨?_, ?_, ?_⟩
    · rw [List.map_map]
      show (List.map TaskRow.taskID _).Nodup
      rw [((List.perm_insertionSort _ _).map _).nodup_iff]
      exact hdistinct
    · intro i hi hassigned
      obtain ⟨t, ht, rfl⟩ := hitem i hi
      obtain ⟨t', ht', hexec⟩ := hassigned
      have hlook : w.db.tasks.lookup t.taskID = some t := Table.lookup_key (hrow ht)
      obtain rfl := Option.some.inj (hlook.symm.trans ht')
      exact ne_pending_of_executorID hlook hexec (hpending t ht)
    · intro i hi
      obtain ⟨t, ht, rfl⟩ := hitem i hi
      exact ⟨t, Table.lookup_key (hrow ht), rfl⟩
  · exact ⟨List.nodup_nil, by simp, by simp⟩

theorem Cached.tail {c : Cache} {rs : List AssignmentRecord}
    (h : Cached c (r :: rs)) : Cached c rs ∧ ∀ r' ∈ rs, r'.taskID ≠ r.taskID := by
  obtain ⟨hnew, hrest⟩ := List.nodup_cons.mp h.distinct
  refine ⟨⟨hrest, fun r' hr' => h.found r' (List.mem_cons_of_mem _ hr')⟩, ?_⟩
  intro r' hr' hid
  exact hnew (hid ▸ List.mem_map_of_mem hr')

/-- Step lemma for the poll goroutine. -/
theorem MainStep.owned {m' : Main} (hs : MainStep cfg reg w a m act m') (h : Stores cfg w)
    (hmain : MainOwned cfg w m) :
    act.Owned cfg w.db ∧ MainOwned cfg ((w.perform reg act).goto m') m' := by
  cases hs with
  | unlisted | unsent | unconfirmed | unattached => exact ⟨trivial, rfl⟩
  | listed =>
    have hlists := cached_reconcile h
    exact ⟨trivial, hmain, hlists⟩
  | dropped =>
    obtain ⟨hempty, hkept⟩ := hmain
    have hpending := pending_pendingOutbox h
    exact ⟨trivial, hempty, hkept, hpending⟩
  | @drop r rest kept =>
    obtain ⟨hempty, hcached⟩ := hmain
    obtain ⟨htail, hne⟩ := hcached.tail
    refine ⟨trivial, ?_, htail.distinct, ?_⟩
    · rw [goto_pods (by simp), perform_pods (by simp) (by simp)]
      exact hempty
    · intro r' hr'
      rw [goto_cache]
      simp only [World.perform]
      split
      · show (w.cache.deleteAssignment r.taskID).assignments.lookup r'.taskID = some r'
        rw [Cache.lookup_deleteAssignment, if_neg (hne r' hr')]
        exact htail.found r' hr'
      · exact htail.found r' hr'
  | resent =>
    obtain ⟨hempty, hkept, -⟩ := hmain
    refine ⟨trivial, hkept, ?_⟩
    intro r _
    show w.pods.lookup r.taskID = none
    rw [hempty]
    rfl
  | resend =>
    obtain ⟨hempty, hkept, hpending⟩ := hmain
    exact ⟨trivial, hempty, hkept, _, rfl, hpending⟩
  | @confirm eventID rest kept hfound hwritten =>
    obtain ⟨hempty, hkept, e, rfl, hpending⟩ := hmain
    obtain ⟨hnew, hdistinct⟩ := List.nodup_cons.mp hpending.distinct
    refine ⟨trivial, hempty, ⟨hkept.distinct, ?_⟩, hdistinct, ?_⟩
    · intro r hr
      show (w.cache.acceptOutbox e.eventID).assignments.lookup r.taskID = some r
      rw [Cache.assignments_acceptOutbox]
      exact hkept.found r hr
    · intro e' he'
      show (w.cache.acceptOutbox e.eventID).eventOutbox.lookup e'.eventID = some ⟨e', false⟩
      rw [Cache.lookup_acceptOutbox, if_neg]
      · exact hpending.found e' (List.mem_cons_of_mem _ he')
      · intro hid
        exact hnew (hid ▸ List.mem_map_of_mem he')
  | attached => exact ⟨trivial, trivial⟩
  | @attach r rest name uid href =>
    obtain ⟨hcached, hfree⟩ := hmain
    obtain ⟨htail, hne⟩ := hcached.tail
    have hrecord := h.records _ r (hcached.found r (List.mem_cons_self ..))
    obtain ⟨hassigned, hteam⟩ := hrecord.assigned (by
      intro hempty
      rw [hempty, podReference_empty] at href
      cases href)
    refine ⟨⟨rfl, hassigned, hteam, trivial⟩, ⟨htail.distinct, htail.found⟩, ?_⟩
    intro r' hr'
    show (w.pods.insert r.taskID (r.slot name uid)).lookup r'.taskID = none
    rw [StrMap.lookup_insert, if_neg (Ne.symm (hne r' hr'))]
    exact hfree r' (List.mem_cons_of_mem _ hr')
  | tick | full | room | undiscovered => exact ⟨trivial, trivial⟩
  | discovered => exact ⟨trivial, untaken_discovered cfg w⟩
  | running => exact ⟨trivial, (Untaken.tail hmain).1⟩
  | @next item rest _ _ =>
    have htail := Untaken.tail hmain
    exact ⟨trivial, htail.1, htail.2, hmain.team item (List.mem_cons_self ..),
      hmain.unassigned item (List.mem_cons_self ..)⟩
  | start hstart => exact hstart.owned h hmain

/-! ## Section 6: The goroutine of a task -/

/-- The action of a slot touches the cache at its own task and the Registry only. -/
theorem SlotStep.frame (hs : SlotStep cfg reg w a slot act slot') :
    Grows cfg w.db (w.perform reg act).db ∧ (w.perform reg act).pods = w.pods ∧
      ∀ id, id ≠ slot.taskID →
        (w.perform reg act).cache.assignments.lookup id = w.cache.assignments.lookup id := by
  have hquiet : ∀ act : Act, (w.perform reg act).db = w.db →
      Grows cfg w.db (w.perform reg act).db := by
    intro act hdb
    rw [hdb]
    exact .refl _
  cases hs with
  | supervise | delete | leave => exact ⟨.refl _, rfl, fun _ _ => rfl⟩
  | persist =>
    refine ⟨hquiet _ perform_db, perform_pods (by simp) (by simp), ?_⟩
    intro id hne
    simp only [World.perform]
    split
    · rw [Cache.lookup_putAssignment]
      exact if_neg (Ne.symm hne)
    · rfl
  | outbox =>
    refine ⟨hquiet _ perform_db, perform_pods (by simp) (by simp), ?_⟩
    intro id _
    simp only [World.perform]
    split <;> rfl
  | @posted event | @unposted event =>
    exact ⟨reach_grows _ (by simp [appendCall]) w.db, rfl, fun _ _ => rfl⟩
  | accept =>
    refine ⟨hquiet _ perform_db, perform_pods (by simp) (by simp), ?_⟩
    intro id _
    simp only [World.perform]
    split
    · rw [Cache.assignments_acceptOutbox]
    · rfl
  | unassign =>
    refine ⟨hquiet _ perform_db, perform_pods (by simp) (by simp), ?_⟩
    intro id hne
    simp only [World.perform]
    split
    · rw [Cache.lookup_deleteAssignment, if_neg hne]
    · rfl

/-- A slot that was not started yet takes no step. -/
theorem SlotStep.started (hs : SlotStep cfg reg w a slot act slot') : slot.stage ≠ .installed := by
  cases hs with
  | supervise _ hstarted => exact hstarted
  | persist hat | outbox hat | posted hat | unposted hat | accept hat | unassign hat | delete hat
  | leave hat => simp [hat]

theorem SlotStep.owned (hs : SlotStep cfg reg w a slot act slot')
    (h : SlotOwned cfg w.db taskID slot) :
    act.Owned cfg w.db ∧ ∀ s, slot' = some s → SlotOwned cfg w.db taskID s := by
  obtain ⟨rfl, hassigned, hteam, hstage⟩ := h
  have hat : ∀ stage, StageOwned slot.taskID slot.teamID stage →
      ∀ s, some (slot.at stage) = some s → SlotOwned cfg w.db slot.taskID s := by
    intro stage hst s hsome
    obtain rfl := Option.some.inj hsome
    exact ⟨rfl, hassigned, hteam, hst⟩
  cases hs with
  | @supervise slot' _ _ hsame hnext =>
    refine ⟨trivial, ?_⟩
    intro s hsome
    obtain rfl := Option.some.inj hsome
    refine ⟨hsame.taskID, hassigned, hsame.teamID ▸ hteam, ?_⟩
    rcases hnext with hsup | ⟨eventType, phase, detail, hout, hkind⟩
    · generalize slot'.stage = stage at hsup
      cases stage with
      | outbox | post => cases hsup
      | _ => trivial
    · rw [hout]
      exact hkind
  | persist => exact ⟨⟨rfl, rfl, fun _ => ⟨hassigned, hteam⟩⟩, hat _ trivial⟩
  | @outbox eventType phase detail hout _ =>
    rw [hout] at hstage
    have hcomposed : Composed slot.taskID slot.teamID
        (terminalEvent cfg a slot eventType phase detail) ∧
        IsTerminal (terminalEvent cfg a slot eventType phase detail) :=
      composed_terminal phase detail hstage
    exact ⟨⟨rfl, hassigned, hteam, hcomposed.1⟩, hat _ hcomposed⟩
  | posted | unposted | accept | unassign | delete => exact ⟨trivial, hat _ trivial⟩
  | leave =>
    refine ⟨trivial, ?_⟩
    intro s hsome
    cases hsome

/-- The task of a start has no slot, or one that takes no step yet. -/
theorem SlotStep.not_starting (hs : SlotStep cfg reg w a slot act slot')
    (hfound : w.pods.lookup taskID = some slot) (howned : SlotOwned cfg w.db taskID slot)
    (hstage : StartOwned cfg w task stage) : task.taskID ≠ taskID := by
  intro hid
  have hlaunching : ¬ Launching cfg w task := by
    intro hl
    have hnone := hl.2
    rw [hid, hfound] at hnone
    cases hnone
  have hinstalled : ¬ ∃ slot, w.pods.lookup task.taskID = some slot ∧
      slot.stage = .installed := by
    intro hex
    obtain ⟨slot₁, hslot₁, hinst⟩ := hex
    rw [hid, hfound] at hslot₁
    obtain rfl := Option.some.inj hslot₁
    exact hs.started hinst
  cases stage with
  | intent | claim => exact hstage (hid ▸ howned.assigned)
  | post => exact hlaunching hstage.1
  | release | record | spawn => exact hinstalled hstage
  | _ => exact hlaunching hstage

/-- What the poll goroutine relies on survives the step of a slot. -/
theorem SlotStep.main (hs : SlotStep cfg reg w a slot act slot')
    (hfound : w.pods.lookup taskID = some slot) (howned : SlotOwned cfg w.db taskID slot)
    (hmain : MainOwned cfg w m) :
    MainOwned cfg ((w.perform reg act).setSlot taskID slot') m := by
  obtain ⟨hgrows, hpods, hcache⟩ := hs.frame
  obtain rfl := howned.key
  have hother : ∀ id, id ≠ slot.taskID →
      ((w.perform reg act).setSlot slot.taskID slot').pods.lookup id = w.pods.lookup id := by
    intro id hne
    rw [lookup_setSlot, if_neg hne, hpods]
  have hnonempty : w.pods ≠ .empty := by
    intro hempty
    rw [hempty] at hfound
    cases hfound
  cases m with
  | down | reconcile => exact absurd hmain hnonempty
  | drop | resend | confirm => exact absurd hmain.1 hnonempty
  | attach kept =>
    obtain ⟨hcached, hfree⟩ := hmain
    have hne : ∀ r ∈ kept, r.taskID ≠ slot.taskID := by
      intro r hr hid
      have hnone := hfree r hr
      rw [hid, hfound] at hnone
      cases hnone
    refine ⟨⟨hcached.distinct, ?_⟩, ?_⟩
    · intro r hr
      rw [setSlot_cache, hcache _ (hne r hr)]
      exact hcached.found r hr
    · intro r hr
      rw [hother _ (hne r hr)]
      exact hfree r hr
  | idle | capacity | discover => trivial
  | each items =>
    show Untaken cfg (World.setSlot _ _ _).db items
    rw [setSlot_db]
    exact Untaken.grows hmain hgrows
  | start task stage =>
    obtain ⟨hrest, hnew, hteam, hstage⟩ := hmain
    have hne : task.taskID ≠ slot.taskID := hs.not_starting hfound howned hstage
    refine ⟨?_, hnew, ?_, ?_⟩
    · rw [setSlot_db]
      exact hrest.grows hgrows
    · rw [setSlot_db]
      exact hteam.later hgrows.evolves
    · apply hstage.frame
      · rw [setSlot_db]
        exact hgrows
      · exact hother _ hne

/-! ## Section 7: Every run -/

theorem registry_reachable (h : (executor cfg reg).Reachable w) :
    (registry reg).Reachable w.db := by
  have hreach : ∀ (reach : Reach) (call : Call) (db : Db),
      (registry reg).Reachable db →
      (registry reg).Reachable (reach.commit reg call db) := by
    intro reach call db hdb
    cases reach with
    | failed => exact hdb
    | answered | lost => exact .step call hdb rfl
  have hperform : ∀ (w : World) (act : Act), (registry reg).Reachable w.db →
      (registry reg).Reachable (w.perform reg act).db := by
    intro w act hdb
    cases act with
    | request reach call | append reach call event => exact hreach reach call w.db hdb
    | _ =>
      rw [perform_db (by simp) (by simp)]
      exact hdb
  apply h.invariant
  · rintro _ rfl
    exact .init rfl
  · intro w l w' _ hdb hstep
    cases worldStep_of_step hstep with
    | start | crash | podGone => exact hdb
    | @registry call _ => exact .step call hdb rfl
    | main =>
      rw [goto_db]
      exact hperform _ _ hdb
    | task =>
      rw [setSlot_db]
      exact hperform _ _ hdb

theorem WorldStep.ownership {l : Label} (hs : WorldStep cfg reg w l w') (h : Ownership cfg w) :
    Ownership cfg w' := by
  cases hs with
  | start hdown =>
    have hmain := h.main
    rw [hdown] at hmain
    exact ⟨⟨h.stores.slots, h.stores.records, h.stores.outbox⟩, hmain⟩
  | crash => exact ⟨h.stores.exit, rfl⟩
  | @registry call hother =>
    have hgrows : Grows cfg w.db ((exec reg call).commit w.db) :=
      grows_of_other hother w.db
    refine ⟨h.stores.later hgrows.evolves, ?_⟩
    exact h.main.frame hgrows rfl rfl
  | podGone =>
    exact ⟨⟨h.stores.slots, h.stores.records, h.stores.outbox⟩,
      h.main.frame (.refl _) rfl rfl⟩
  | @main a act m hmain =>
    obtain ⟨hact, hnext⟩ := hmain.owned h.stores h.main
    refine ⟨(h.stores.perform hact).goto m, ?_⟩
    rw [goto_main]
    exact hnext
  | @task taskID a obs slot act slot' hfound hslot =>
    have howned := h.stores.slots taskID slot hfound
    obtain ⟨hact, hnext⟩ := hslot.owned howned
    obtain ⟨hgrows, -, -⟩ := hslot.frame
    refine ⟨(h.stores.perform hact).setSlot ?_, ?_⟩
    · intro s hs
      exact (hnext s hs).later hgrows.evolves
    · rw [setSlot_main, perform_main]
      exact hslot.main hfound howned h.main

theorem ownership_reachable (h : (executor cfg reg).Reachable w) : Ownership cfg w := by
  apply h.invariant
  · rintro _ rfl
    refine ⟨⟨?_, ?_, ?_⟩, rfl⟩
    · intro id slot hs
      cases hs
    · intro id r hr
      cases hr
    · intro id r hr
      cases hr
  · intro w l w' _ hinv hstep
    exact (worldStep_of_step hstep).ownership hinv

/-- Whatever crashes and whatever answers are lost, the executor supervises a Pod, and keeps an
    event for sending, only for tasks that the Registry has assigned to it, in their teams. -/
theorem works_for_own_tasks (h : (executor cfg reg).Reachable w) :
    (∀ taskID slot, w.pods.lookup taskID = some slot →
      Assigned w.db cfg.executorID taskID ∧ InTeam w.db taskID slot.teamID) ∧
    ∀ id r, w.cache.eventOutbox.lookup id = some r →
      Assigned w.db cfg.executorID r.event.taskID ∧ InTeam w.db r.event.taskID r.event.teamID := by
  have hstores := (ownership_reachable h).stores
  constructor
  · intro taskID slot hslot
    have howned := hstores.slots taskID slot hslot
    exact ⟨howned.assigned, howned.team⟩
  · intro id r hr
    have howned := hstores.outbox id r hr
    exact ⟨howned.assigned, howned.team⟩

theorem works_for_own_tasks_sample : ∃ w, (executor sampleExecutor sampleConfig).Reachable w ∧
    Assigned w.db sampleExecutor.executorID "task" := by
  obtain ⟨w, hreach, hslot⟩ : ∃ w, (executor sampleExecutor sampleConfig).Reachable w ∧
      (w.pods.lookup "task").isSome = true :=
    System.Reachable.exists_of_follow (sampleRegistry ++ sampleStart ++ sampleRound ++
      sampleLaunch ++ sampleInstall) rfl (by decide +kernel)
  obtain ⟨slot, hs⟩ := Option.isSome_iff_exists.mp hslot
  exact ⟨w, hreach, ((works_for_own_tasks hreach).1 "task" slot hs).1⟩

end FlowAI.K8s
