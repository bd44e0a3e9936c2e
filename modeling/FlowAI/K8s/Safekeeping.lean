import FlowAI.K8s.Delivery

/-! # No Claimed Task Is Lost

  Across restarts a task lives on in the recovery cache: as a record that names its Pod, or
  as a terminal event that waits in the outbox.  The poll loop has a slot for every other
  open task of the executor.  This needs that a start is not interrupted between its claim
  and the record of its Pod, since neither a claim nor its intent is ever sent again, and
  that no Pod with a record has gone when a restart lists them, since the record is then
  dropped without an event.
-/

namespace FlowAI.K8s

open Registry

variable {taskID : String} {act : Act} {slot : Slot}

variable {cfg : ExecutorConfig} {reg : Config} {w w' : World} {a : Answer}

/-! ## Section 1: The condition -/

/-- The stages of a start whose task has no durable record of its Pod. -/
def StartStage.unrecorded : StartStage → Bool
  | .open _ _ | .assign _ | .reserve _ | .outbox _ | .post _ _ | .accept _ _ | .create _
  | .install _ _ | .release _ | .record _ => true
  | _ => false

/-- A start is between its claim and the record of its Pod. -/
def Main.inLaunch : Main → Bool
  | .start _ stage => stage.unrecorded
  | _ => false

/-- The Registry has the end of the task, or will get it from the outbox. -/
def World.over (w : World) (taskID : String) : Bool :=
  (w.db.tasks.lookup taskID).any
      (fun t => t.currentState = .finished || t.currentState = .failed) ||
    w.cache.pendingOutbox.any
      (fun e => e.taskID = taskID && (e.eventType = "finished" || e.eventType = "failed"))

/-- Every record that names a Pod of an open task still has it. -/
def World.podsKept (w : World) : Bool :=
  w.cache.listAssignments.all
    (fun r => w.matched r || (podReference r.runtimeRef).isNone || w.over r.taskID)

/-- The cache takes what it is given, starts go through once claimed and are not interrupted
    before the record of their Pod, and a restart finds the Pods of the open tasks. -/
def durable (cfg : ExecutorConfig) (reg : Config) (w : World) : Label → Bool
  | .crash => !w.main.inLaunch
  | .main a => a.written && startsWell cfg reg w a w.main &&
      (w.main ≠ .reconcile || a.reach ≠ .answered || w.podsKept)
  | .task _ a _ => a.written
  | _ => true

/-- The executor in runs whose steps all meet the condition. -/
def durableExecutor (cfg : ExecutorConfig) (reg : Config) : System World Label :=
  (executor cfg reg).restrict (fun w l => durable cfg reg w l = true)

/-! ## Section 2: Where a task is kept -/

/-- The cache has a record that names the Pod of the task. -/
def Held (c : Cache) (taskID : String) : Prop :=
  ∃ r, c.assignments.lookup taskID = some r ∧ r.live = true ∧
    (podReference r.runtimeRef).isSome = true

def Main.unrecorded (m : Main) (taskID : String) : Prop :=
  ∃ task stage, m = .start task stage ∧ task.taskID = taskID ∧ stage.unrecorded = true

/-- The start-up will come to the record of the task, if the cache has one. -/
def Main.recovers : Main → String → Prop
  | .down, _ => True
  | .reconcile, _ => True
  | .drop _ kept, id => id ∈ kept.map AssignmentRecord.taskID
  | .resend _ kept, id => id ∈ kept.map AssignmentRecord.taskID
  | .confirm _ _ kept, id => id ∈ kept.map AssignmentRecord.taskID
  | .attach kept, id => id ∈ kept.map AssignmentRecord.taskID
  | _, _ => False

/-- The end of the task is on its way as far as the stage says. -/
def StageSafe (c : Cache) (db : Db) (taskID : String) : Stage → Prop
  | .post event => c.eventOutbox.lookup event.eventID = some ⟨event, false⟩
  | .accept eventID => Settled db taskID ∧
      ∃ r, c.eventOutbox.lookup eventID = some r ∧ r.event.taskID = taskID
  | .unassign => Settled db taskID
  | .delete => Settled db taskID
  | .leave => Settled db taskID ∨ PendingTerminal c taskID
  | _ => True

structure SlotSafe (c : Cache) (db : Db) (taskID : String) (slot : Slot) : Prop where
  pod : ValidPod slot.podName slot.podUID
  stage : StageSafe c db taskID slot.stage

def StartSafe (c : Cache) : StartStage → Prop
  | .open response _ => claimedImage response ≠ ""
  | .post _ event => c.eventOutbox.lookup event.eventID = some ⟨event, false⟩
  | .accept _ eventID => ∃ r, c.eventOutbox.lookup eventID = some r ∧ ¬ IsTerminal r.event
  | .unassign => False
  | .abort => False
  | .install _ uid => uid ≠ ""
  | .release uid => uid ≠ ""
  | .record uid => uid ≠ ""
  | _ => True

def MainSafe (c : Cache) (db : Db) : Main → Prop
  | .confirm eventID _ _ => ∃ r, c.eventOutbox.lookup eventID = some r ∧
      (IsTerminal r.event → Settled db r.event.taskID)
  | .start _ stage => StartSafe c stage
  | _ => True

/-- The task has a slot, or a record that a start-up comes to. -/
def World.Keeps (w : World) (taskID : String) : Prop :=
  w.main.unrecorded taskID ∨ Held w.cache taskID ∧
    ((w.pods.lookup taskID).isSome = true ∨ w.main.recovers taskID)

structure Safe (cfg : ExecutorConfig) (w : World) : Prop where
  kept : ∀ taskID, Assigned w.db cfg.executorID taskID → ¬ Settled w.db taskID →
    PendingTerminal w.cache taskID ∨ w.Keeps taskID
  slots : ∀ taskID slot, w.pods.lookup taskID = some slot → SlotSafe w.cache w.db taskID slot
  main : MainSafe w.cache w.db w.main

theorem unrecorded_start {task : Starting} {stage : StartStage} :
    (Main.start task stage).unrecorded taskID ↔ task.taskID = taskID ∧ stage.unrecorded = true := by
  unfold Main.unrecorded
  constructor
  · intro h
    obtain ⟨task', stage', heq, hid, hu⟩ := h
    cases heq
    exact ⟨hid, hu⟩
  · intro h
    exact ⟨task, stage, rfl, h⟩

/-! ## Section 3: What an action leaves safe -/

/-- An event that is put is new, and one is marked accepted once its task has ended, and while
    nobody waits for the answer to it. -/
def Act.Closes (w : World) : Act → Prop
  | .putOutbox _ event => w.cache.eventOutbox.lookup event.eventID = Option.none
  | .acceptOutbox _ eventID => ∃ r, w.cache.eventOutbox.lookup eventID = some r ∧
      (IsTerminal r.event → Settled w.db r.event.taskID) ∧
      (∀ taskID slot event, w.pods.lookup taskID = some slot → slot.stage = .post event →
        event.eventID ≠ eventID) ∧
      ∀ task podEnv event, w.main = .start task (.post podEnv event) → event.eventID ≠ eventID
  | _ => True

theorem Act.Closes.fresh (h : act.Closes w) : act.PutsFresh w.cache := by
  cases act <;> first | exact h | trivial

theorem PendingTerminal.step (h : PendingTerminal w.cache taskID) (hcloses : act.Closes w) :
    PendingTerminal (w.perform reg act).cache taskID ∨ Settled (w.perform reg act).db taskID := by
  rcases h.perform hcloses.fresh with hpending | ⟨written, eventID, r, rfl, hlook, hid, hterminal⟩
  · exact .inl hpending
  · obtain ⟨r', hlook', hsettled, -, -⟩ := hcloses
    obtain rfl := Option.some.inj (hlook.symm.trans hlook')
    exact .inr (hid ▸ (hsettled hterminal).later (perform_evolves _))

theorem StageSafe.step (h : StageSafe w.cache w.db taskID slot.stage)
    (hslot : w.pods.lookup taskID = some slot) (hcloses : act.Closes w) :
    StageSafe (w.perform reg act).cache (w.perform reg act).db taskID slot.stage := by
  have hevolves : w.db.Evolves (w.perform reg act).db := perform_evolves act
  cases hs : slot.stage with
  | post event =>
    rw [hs] at h
    refine lookup_outbox_perform hcloses.fresh h ?_
    intro written heq
    subst heq
    obtain ⟨-, -, -, hnone, -⟩ := hcloses
    exact hnone taskID slot event hslot hs rfl
  | accept eventID =>
    rw [hs] at h
    obtain ⟨hsettled, r, hr, hid⟩ := h
    obtain ⟨r', hr', hevent⟩ : ∃ r', (w.perform reg act).cache.eventOutbox.lookup eventID =
        some r' ∧ r'.event = r.event := event_outbox_perform hcloses.fresh hr
    exact ⟨hsettled.later hevolves, r', hr', by rw [hevent]; exact hid⟩
  | unassign | delete =>
    rw [hs] at h
    exact Settled.later h hevolves
  | leave =>
    rw [hs] at h
    rcases h with hsettled | hpending
    · exact .inl (hsettled.later hevolves)
    · exact (hpending.step hcloses).symm
  | _ => trivial

/-- What a step has to show about the tasks that were kept. -/
theorem Safe.kept_step (h : Safe cfg w) (act : Act) (hcloses : act.Closes w)
    (hdb : w'.db = (w.perform reg act).db) (hcache : w'.cache = (w.perform reg act).cache)
    (hassigned : ∀ taskID, Assigned w'.db cfg.executorID taskID →
      Assigned w.db cfg.executorID taskID ∨ w'.main.unrecorded taskID)
    (hkeeps : ∀ taskID, Assigned w.db cfg.executorID taskID → ¬ Settled w'.db taskID →
      ¬ PendingTerminal w'.cache taskID → w.Keeps taskID → w'.Keeps taskID) :
    ∀ taskID, Assigned w'.db cfg.executorID taskID → ¬ Settled w'.db taskID →
      PendingTerminal w'.cache taskID ∨ w'.Keeps taskID := by
  intro taskID hnow hopen
  by_cases hpending : PendingTerminal w'.cache taskID
  · exact .inl hpending
  · right
    rcases hassigned taskID hnow with hbefore | hnew
    · have hopen₀ : ¬ Settled w.db taskID := by
        intro hs
        apply hopen
        rw [hdb]
        exact hs.later (perform_evolves act)
      rcases h.kept taskID hbefore hopen₀ with hp | hkeeps₀
      · have hstep : PendingTerminal (w.perform reg act).cache taskID ∨
            Settled (w.perform reg act).db taskID := hp.step hcloses
        rw [← hcache, ← hdb] at hstep
        exact absurd hstep (not_or.mpr ⟨hpending, hopen⟩)
      · exact hkeeps taskID hbefore hopen hpending hkeeps₀
    · exact .inl hnew

/-- The slots that an action leaves alone stay safe. -/
theorem SlotSafe.step (h : Safe cfg w) (hslot : w.pods.lookup taskID = some slot)
    (hcloses : act.Closes w) :
    SlotSafe (w.perform reg act).cache (w.perform reg act).db taskID slot :=
  ⟨(h.slots taskID slot hslot).pod, (h.slots taskID slot hslot).stage.step hslot hcloses⟩

variable {m : Main}

/-- A step of the poll goroutine that leaves the slots alone. -/
theorem Safe.advance (h : Safe cfg w) (hcloses : act.Closes w) (hup : m ≠ .down)
    (hpods : (w.perform reg act).pods = w.pods)
    (hassigned : ∀ taskID, Assigned (w.perform reg act).db cfg.executorID taskID →
      Assigned w.db cfg.executorID taskID ∨ m.unrecorded taskID)
    (hkeeps : ∀ taskID, Assigned w.db cfg.executorID taskID →
      ¬ Settled (w.perform reg act).db taskID →
      ¬ PendingTerminal (w.perform reg act).cache taskID → w.Keeps taskID →
      m.unrecorded taskID ∨ Held (w.perform reg act).cache taskID ∧
        ((w.pods.lookup taskID).isSome = true ∨ m.recovers taskID))
    (hmain : MainSafe (w.perform reg act).cache (w.perform reg act).db m) :
    Safe cfg ((w.perform reg act).goto m) := by
  refine ⟨?_, ?_, ?_⟩
  · refine h.kept_step act hcloses (goto_db m) (goto_cache m) ?_ ?_
    · intro taskID hnow
      rw [goto_main]
      rw [goto_db] at hnow
      exact hassigned taskID hnow
    · intro taskID hbefore hopen hpending hkept
      rw [goto_db] at hopen
      rw [goto_cache] at hpending
      unfold World.Keeps
      rw [goto_main, goto_cache, goto_pods hup, hpods]
      exact hkeeps taskID hbefore hopen hpending hkept
  · intro taskID slot hslot
    rw [goto_pods hup, hpods] at hslot
    rw [goto_cache, goto_db]
    exact SlotSafe.step h hslot hcloses
  · rw [goto_cache, goto_db, goto_main]
    exact hmain

/-- The end of the process: what was kept by a slot or a start-up is now kept by its record
    alone. -/
theorem Safe.exit (h : Safe cfg w) (hlaunch : ∀ taskID, ¬ w.main.unrecorded taskID)
    (hgrows : Grows cfg w.db w'.db) (hcache : w'.cache = w.cache) : Safe cfg w'.exit := by
  refine ⟨?_, ?_, trivial⟩
  · intro taskID hassigned hopen
    have hopen₀ : ¬ Settled w.db taskID := fun hs => hopen (hs.later hgrows.evolves)
    show PendingTerminal w'.cache taskID ∨ _ ∨ Held w'.cache taskID ∧ _
    rw [hcache]
    refine (h.kept taskID (hgrows.assigned taskID hassigned) hopen₀).imp_right ?_
    intro hkeeps
    rcases hkeeps with hun | ⟨hheld, -⟩
    · exact absurd hun (hlaunch taskID)
    · exact .inr ⟨hheld, .inr trivial⟩
  · intro taskID slot hslot
    cases hslot

theorem held_congr {c c' : Cache} (h : c'.assignments.lookup taskID = c.assignments.lookup taskID) :
    Held c' taskID ↔ Held c taskID := by
  unfold Held
  rw [h]

/-- A slot for a task that is kept, or for one that nobody waits for. -/
theorem Safe.addPod (h : Safe cfg w) (hup : m ≠ .down)
    (hslot : SlotSafe w.cache w.db slot.taskID slot)
    (hkeeps : ∀ taskID, w.Keeps taskID → m.unrecorded taskID ∨ Held w.cache taskID ∧
      (taskID = slot.taskID ∨ (w.pods.lookup taskID).isSome = true ∨ m.recovers taskID))
    (hmain : MainSafe w.cache w.db m) : Safe cfg ((w.perform reg (.addPod slot)).goto m) := by
  refine ⟨?_, ?_, ?_⟩
  · refine h.kept_step (.addPod slot) trivial (goto_db m) (goto_cache m) ?_ ?_
    · intro taskID hnow
      rw [goto_db] at hnow
      exact .inl hnow
    · intro taskID _ _ _ hkept
      unfold World.Keeps
      rw [goto_main, goto_cache, lookup_goto_addPod hup]
      refine (hkeeps taskID hkept).imp_right (And.imp_right ?_)
      intro hwhere
      by_cases hid : slot.taskID = taskID
      · rw [if_pos hid]
        exact .inl rfl
      · rw [if_neg hid]
        exact hwhere.resolve_left (Ne.symm hid)
  · rw [goto_cache, goto_db]
    exact forall_goto_addPod hup hslot h.slots
  · rw [goto_main, goto_cache, goto_db]
    exact hmain

/-! ## Section 4: A start -/

theorem lookup_putAssignment_written (hwritten : a.written = true) (r : AssignmentRecord)
    (taskID : String) :
    (w.perform reg (.putAssignment a.written r)).cache.assignments.lookup taskID =
      if r.taskID = taskID then some r else w.cache.assignments.lookup taskID := by
  simp only [World.perform, hwritten, if_true]
  exact Cache.lookup_putAssignment _ _ _

theorem lookup_putOutbox_written (hwritten : a.written = true) (event : TaskEventAppendRequest) :
    (w.perform reg (.putOutbox a.written event)).cache.eventOutbox.lookup event.eventID =
      some ⟨event, false⟩ := by
  simp only [World.perform, hwritten, if_true]
  rw [Cache.lookup_putOutbox, if_pos rfl]

section Starts

variable {task : Starting} {stage : StartStage}

/-- What is kept during a start is kept by the start, or by its slot. -/
theorem World.Keeps.of_start (h : w.Keeps taskID) (hm : w.main = .start task stage) :
    (task.taskID = taskID ∧ stage.unrecorded = true) ∨
      Held w.cache taskID ∧ (w.pods.lookup taskID).isSome = true := by
  unfold World.Keeps at h
  rw [hm] at h
  rcases h with hun | ⟨hheld, hpod | hrec⟩
  · exact .inl (unrecorded_start.mp hun)
  · exact .inr ⟨hheld, hpod⟩
  · exact hrec.elim

/-- The slots and the records stay, and the start goes on or had nothing yet. -/
theorem Safe.startQuiet (h : Safe cfg w) (hm : w.main = .start task stage)
    (hcloses : act.Closes w) (hup : m ≠ .down)
    (hpods : (w.perform reg act).pods = w.pods)
    (hheld : ∀ taskID, Assigned w.db cfg.executorID taskID → Held w.cache taskID →
      m.unrecorded taskID ∨ Held (w.perform reg act).cache taskID)
    (hgrows : Grows cfg w.db (w.perform reg act).db)
    (hon : stage.unrecorded = true → m.unrecorded task.taskID)
    (hmain : MainSafe (w.perform reg act).cache (w.perform reg act).db m) :
    Safe cfg ((w.perform reg act).goto m) := by
  refine h.advance hcloses hup hpods ?_ ?_ hmain
  · intro taskID hnow
    exact .inl (hgrows.assigned taskID hnow)
  · intro taskID hbefore _ _ hkeeps
    rcases hkeeps.of_start hm with ⟨rfl, hun⟩ | ⟨hh, hpod⟩
    · exact .inl (hon hun)
    · exact (hheld taskID hbefore hh).imp_right (fun hh' => ⟨hh', .inl hpod⟩)

/-- An action that writes no record. -/
theorem held_of_same (hsame : (w.perform reg act).cache.assignments = w.cache.assignments)
    (taskID : String) (_ : Assigned w.db cfg.executorID taskID) (hh : Held w.cache taskID) :
    m.unrecorded taskID ∨ Held (w.perform reg act).cache taskID :=
  .inr ((held_congr (by rw [hsame])).mpr hh)

/-- The claim was answered in full, and the start goes on with the task. -/
theorem Safe.startClaimed (h : Safe cfg w) (hm : w.main = .start task .claim)
    (hgood : startsWell cfg reg w a (.start task .claim) = true) (hr : a.reach = .answered)
    {response : ClaimResponse} {db' : Db} (hok : claimTask reg a.env ⟨task.taskID, task.commandID⟩
      cfg.executorID (cfg.identity a.requestID) w.db = .ok (response, db')) :
    Safe cfg ((w.perform reg (.request a.reach (claimCall cfg a task.taskID task.commandID))).goto
      (afterClaim cfg task response)) := by
  obtain ⟨-, hcomplete⟩ := startsWell_claim hgood hok
  -- with launch parameters or without, the task has no record yet
  obtain ⟨stage', heq, hun, hsafe'⟩ : ∃ stage', afterClaim cfg task response =
      .start task stage' ∧ stage'.unrecorded = true ∧ StartSafe w.cache stage' := by
    rcases afterClaim_of_complete hok hcomplete task with ⟨token, heq, himage⟩ | ⟨podEnv, heq⟩
    · exact ⟨_, heq, rfl, himage⟩
    · exact ⟨_, heq, rfl, trivial⟩
  rw [heq]
  refine h.advance trivial (by simp) rfl ?_ ?_ hsafe'
  · intro taskID hassigned
    exact (assigned_of_claimCall hr hassigned).imp_right
      (fun hid => unrecorded_start.mpr ⟨hid, hun⟩)
  · intro taskID _ _ _ hkeeps
    rcases hkeeps.of_start hm with ⟨-, hc⟩ | ⟨hh, hpod⟩
    · cases hc
    · exact .inr ⟨hh, .inl hpod⟩

/-- The events that slots wait for are terminal, that of a start is not. -/
theorem Safe.closes_accept (h : Safe cfg w) (hown : Ownership cfg w) {podEnv : StrMap String}
    {eventID : String} (hm : w.main = .start task (.accept podEnv eventID))
    (hsafe : StartSafe w.cache (.accept podEnv eventID)) :
    (Act.acceptOutbox a.written eventID).Closes w := by
  obtain ⟨r, hlook, hnot⟩ := hsafe
  refine ⟨r, hlook, fun hc => absurd hc hnot, ?_, ?_⟩
  · intro taskID slot event hslot hpost hid
    have hpending := (h.slots taskID slot hslot).stage
    have hterminal := (hown.stores.slots taskID slot hslot).stage
    rw [hpost] at hpending hterminal
    rw [← hid, show w.cache.eventOutbox.lookup event.eventID = _ from hpending] at hlook
    obtain rfl := Option.some.inj hlook
    exact hnot hterminal.2
  · intro task' podEnv' event hmain
    rw [hm] at hmain
    cases hmain

/-- The task of the start gets its record, and it has its slot already. -/
theorem Safe.startRecord (h : Safe cfg w) {uid : String} (hm : w.main = .start task (.record uid))
    (hwritten : a.written = true) (huid : uid ≠ "")
    (hslot : w.pods.lookup task.taskID = some slot) :
    Safe cfg ((w.perform reg (.putAssignment a.written
      (task.record (runtimeRef task.taskID uid) .running))).goto (.start task .spawn)) := by
  refine h.advance trivial (by simp) perform_pods ?_ ?_ trivial
  · intro taskID hnow
    rw [perform_db (by simp) (by simp)] at hnow
    exact .inl hnow
  · intro taskID _ _ _ hkeeps
    right
    by_cases hid : task.taskID = taskID
    · -- the record names the Pod of the new slot
      subst hid
      refine ⟨⟨_, (lookup_putAssignment_written hwritten _ _).trans (if_pos rfl), rfl,
        podReference_isSome (validPod_podName task.taskID huid)⟩, .inl ?_⟩
      rw [hslot]
      rfl
    · rcases hkeeps.of_start hm with ⟨hc, -⟩ | ⟨hh, hpod⟩
      · exact absurd hc hid
      · refine ⟨(held_congr ?_).mpr hh, .inl hpod⟩
        rw [lookup_putAssignment_written hwritten]
        exact if_neg hid

theorem StartStep.safe (hs : StartStep cfg reg w a task stage act m)
    (hm : w.main = .start task stage)
    (hgood : startsWell cfg reg w a (.start task stage) = true) (hwritten : a.written = true)
    (hown : Ownership cfg w) (h : Safe cfg w) : Safe cfg ((w.perform reg act).goto m) := by
  have hsafe : StartSafe w.cache stage := by
    have hmain := h.main
    rw [hm] at hmain
    exact hmain
  obtain ⟨-, -, -, hstart⟩ : MainOwned cfg w (.start task stage) := hm ▸ hown.main
  have hno : ∀ {stage : StartStage} {P : Prop}, stage.unrecorded = false →
      stage.unrecorded = true → P := by
    intro stage P hf ht
    rw [hf] at ht
    cases ht
  have hgoes : ∀ {stage' : StartStage}, stage'.unrecorded = true → stage.unrecorded = true →
      (Main.start task stage').unrecorded task.taskID :=
    fun hun _ => unrecorded_start.mpr ⟨rfl, hun⟩
  cases hs with
  | noIntent hfailed =>
    rw [hwritten] at hfailed
    cases hfailed
  | intent =>
    -- the record of the intent is of a task that the executor does not have
    refine h.startQuiet hm trivial (by simp) rfl ?_ (.refl _) (hno rfl) trivial
    intro taskID hassigned hh
    right
    refine (held_congr ?_).mpr hh
    show (w.cache.putAssignment _).assignments.lookup taskID = _
    rw [Cache.lookup_putAssignment, if_neg]
    intro hid
    have hid' : task.taskID = taskID := hid
    rw [← hid'] at hassigned
    exact hstart hassigned
  | claimed hr hok => exact h.startClaimed hm hgood hr hok
  | declined _ hrefused hnext =>
    have hgrows := claim_fruitless hgood (.inr ⟨_, hrefused⟩)
    rcases hnext with rfl | rfl <;>
      exact h.startQuiet hm trivial (by simp) rfl (held_of_same rfl) hgrows (hno rfl) trivial
  | unanswered hr =>
    exact h.startQuiet hm trivial (by simp) rfl (held_of_same rfl) (claim_fruitless hgood (.inl hr))
      (hno rfl) trivial
  | @opened response token values hr =>
    have heq : launch cfg task response values = .start task (.assign (podEnvOf cfg values)) :=
      if_neg hsafe
    rw [heq]
    exact h.startQuiet hm trivial (by simp) rfl (held_of_same rfl)
      (reach_grows _ (by simp [openCall]) w.db) (hgoes rfl) trivial
  | @unopened response token hrefused =>
    obtain ⟨hr, result, hok⟩ := startsWell_open hgood
    exact absurd hok (hrefused hr result)
  | assign =>
    refine h.startQuiet hm trivial (by simp) perform_pods ?_
      (.of_eq perform_db) (hgoes rfl) trivial
    intro taskID _ hh
    by_cases hid : task.taskID = taskID
    · exact .inl (unrecorded_start.mpr ⟨hid, rfl⟩)
    · right
      refine (held_congr ?_).mpr hh
      rw [lookup_putAssignment_written hwritten]
      exact if_neg hid
  | reserve =>
    exact h.startQuiet hm trivial (by simp) rfl (held_of_same rfl) (.refl _) (hgoes rfl) trivial
  | outbox hfresh =>
    exact h.startQuiet hm (fresh_outbox hfresh) (by simp) perform_pods
      (held_of_same perform_assignments) (.of_eq perform_db) (hgoes rfl)
      (lookup_putOutbox_written hwritten _)
  | @posted podEnv event hp =>
    refine h.startQuiet hm trivial (by simp) rfl (held_of_same rfl)
      (reach_grows _ (by simp [appendCall]) w.db) (hgoes rfl) ?_
    refine ⟨_, hsafe, ?_⟩
    intro hterminal
    have hrunning : event.eventType = "running" := hstart.2.2
    rw [IsTerminal, hrunning] at hterminal
    exact absurd hterminal (by decide)
  | unposted hrefused | uncreated hrefused =>
    cases hrefused.symm.trans hgood
  | accept =>
    exact h.startQuiet hm (h.closes_accept hown hm hsafe) (by simp) perform_pods
      (held_of_same perform_assignments) (.of_eq perform_db) (hgoes rfl) trivial
  | created huid =>
    exact h.startQuiet hm trivial (by simp) perform_pods (held_of_same perform_assignments)
      (.of_eq perform_db) (hgoes rfl) huid
  | unassign | abort => exact hsafe.elim
  | install =>
    refine h.addPod (by simp) ⟨validPod_podName task.taskID hsafe, trivial⟩ ?_ hsafe
    intro taskID hkeeps
    rcases hkeeps.of_start hm with ⟨hid, -⟩ | ⟨hh, hpod⟩
    · exact .inl (unrecorded_start.mpr ⟨hid, rfl⟩)
    · exact .inr ⟨hh, .inr (.inl hpod)⟩
  | release =>
    exact h.startQuiet hm trivial (by simp) perform_pods (held_of_same perform_assignments)
      (.of_eq perform_db) (hgoes rfl) hsafe
  | record =>
    obtain ⟨slot, hslot, -⟩ := hstart
    exact h.startRecord hm hwritten hsafe hslot
  | spawn =>
    obtain ⟨slot, hslot, -⟩ := hstart
    have hkey : (slot.at .watch).taskID = task.taskID := (hown.stores.slots _ _ hslot).key
    rw [perform_spawn hslot hkey]
    refine h.addPod (by simp) ⟨(h.slots _ _ hslot).pod, trivial⟩ ?_ trivial
    intro taskID hkeeps
    rcases hkeeps.of_start hm with ⟨-, hc⟩ | ⟨hh, hpod⟩
    · cases hc
    · exact .inr ⟨hh, .inr (.inl hpod)⟩

end Starts

/-! ## Section 5: The poll goroutine -/

theorem over_of_settled_or_pending (hlog : LogInvariant w.db.tasks
    w.db.taskEvents) (h : w.over taskID = true) :
    Settled w.db taskID ∨ PendingTerminal w.cache taskID := by
  simp only [World.over, Bool.or_eq_true] at h
  rcases h with hdb | hout
  · obtain ⟨t, ht, hstate⟩ := (Option.any_eq_true _ _).mp hdb
    simp only [Bool.or_eq_true, decide_eq_true_eq] at hstate
    exact .inl ((hlog.settled_iff ht).mpr hstate)
  · obtain ⟨e, he, hboth⟩ := List.any_eq_true.mp hout
    simp only [Bool.and_eq_true, Bool.or_eq_true, decide_eq_true_eq] at hboth
    exact .inr ⟨e, he, hboth.1, hboth.2⟩

/-- With the Pods of the open tasks still there, `Reconcile` keeps their records. -/
theorem mem_kept_of_held (hown : Ownership cfg w)
    (hlog : LogInvariant w.db.tasks w.db.taskEvents) (hkept : w.podsKept = true)
    (hheld : Held w.cache taskID) (hopen : ¬ Settled w.db taskID)
    (hpending : ¬ PendingTerminal w.cache taskID) :
    taskID ∈ w.kept.map AssignmentRecord.taskID := by
  obtain ⟨r, hlook, hlive, href⟩ := hheld
  have hkey := (hown.stores.records taskID r hlook).key
  have hmem : r ∈ w.cache.listAssignments := Cache.mem_listAssignments.mpr ⟨taskID, hlook⟩
  have hr := List.all_eq_true.mp hkept r hmem
  simp only [Bool.or_eq_true] at hr
  have hmatched : w.matched r = true := by
    rcases hr with (hmatch | hnone) | hover
    · exact hmatch
    · rw [Option.isNone_iff_eq_none.mp hnone] at href
      cases href
    · rw [hkey] at hover
      exact absurd (over_of_settled_or_pending hlog hover) (not_or.mpr ⟨hopen, hpending⟩)
  refine List.mem_map.mpr ⟨r, List.mem_filter.mpr ⟨hmem, ?_⟩, hkey⟩
  rw [hlive, hmatched]
  rfl

theorem MainStep.safe {m' : Main} (hs : MainStep cfg reg w a m act m') (hm : w.main = m)
    (hdurable : durable cfg reg w (.main a) = true) (hown : Ownership cfg w)
    (hlog : LogInvariant w.db.tasks w.db.taskEvents) (h : Safe cfg w) :
    Safe cfg ((w.perform reg act).goto m') := by
  simp only [durable, Bool.and_eq_true, Bool.or_eq_true, decide_eq_true_eq] at hdurable
  obtain ⟨⟨hwritten, hgood⟩, hpodsKept⟩ := hdurable
  rw [hm] at hgood
  have howned : MainOwned cfg w m := hm ▸ hown.main
  have hlaunch : (∀ task stage, m ≠ .start task stage) → ∀ taskID, ¬ w.main.unrecorded taskID := by
    intro hout taskID hun
    obtain ⟨task, stage, heq, -, -⟩ := hun
    exact hout task stage (hm.symm.trans heq)
  have hback : (∀ task stage, m ≠ .start task stage) → ∀ taskID, w.Keeps taskID →
      Held w.cache taskID ∧ ((w.pods.lookup taskID).isSome = true ∨ m.recovers taskID) := by
    intro hout taskID hkeeps
    unfold World.Keeps at hkeeps
    rw [hm] at hkeeps
    rcases hkeeps with hun | hheld
    · exact absurd (hm ▸ hun) (hlaunch hout taskID)
    · exact hheld
  -- the records stay, and the start-up still comes to what it came to before
  have hquiet : ∀ (act : Act) (m' : Main), act.Closes w → m' ≠ .down →
      (∀ task stage, m ≠ .start task stage) → (w.perform reg act).pods = w.pods →
      (w.perform reg act).cache.assignments = w.cache.assignments →
      Grows cfg w.db (w.perform reg act).db → (∀ taskID, m.recovers taskID → m'.recovers taskID) →
      MainSafe (w.perform reg act).cache (w.perform reg act).db m' →
      Safe cfg ((w.perform reg act).goto m') := by
    intro act m' hcloses hup hout hpods hrecords hgrows hrecovers hmain
    refine h.advance hcloses hup hpods ?_ ?_ hmain
    · intro taskID hnow
      exact .inl (hgrows.assigned taskID hnow)
    · intro taskID _ _ _ hkeeps
      obtain ⟨hheld, hwhere⟩ := hback hout taskID hkeeps
      exact .inr ⟨(held_congr (by rw [hrecords])).mpr hheld,
        hwhere.imp_right (hrecovers taskID)⟩
  cases hs with
  | start hstart => exact hstart.safe hm hgood hwritten hown h
  | unlisted | unattached | unconfirmed => exact h.exit (hlaunch (by simp)) (.refl _) rfl
  | unsent =>
    exact h.exit (hlaunch (by simp)) (reach_grows _ (by simp [appendCall]) w.db) rfl
  | listed hr =>
    have hkept : w.podsKept = true := by
      rcases hpodsKept with (hne | hunanswered) | hkept
      · exact absurd hm hne
      · exact absurd hr hunanswered
      · exact hkept
    refine h.advance trivial (by simp) rfl (fun taskID hnow => .inl hnow) ?_ trivial
    intro taskID _ hopen hpending hkeeps
    obtain ⟨hheld, -⟩ := hback (by simp) taskID hkeeps
    exact .inr ⟨hheld, .inr (mem_kept_of_held hown hlog hkept hheld hopen hpending)⟩
  | dropped | resent | tick | room | undiscovered | discovered | running | next =>
    exact hquiet _ _ trivial (by simp) (by simp) rfl rfl (.refl _) (fun _ hrec => hrec)
      trivial
  | @drop r rest kept =>
    obtain ⟨-, hcached⟩ := howned
    obtain ⟨-, hne⟩ := hcached.tail
    refine h.advance trivial (by simp) perform_pods ?_ ?_ trivial
    · intro taskID hnow
      rw [perform_db (by simp) (by simp)] at hnow
      exact .inl hnow
    · intro taskID _ _ _ hkeeps
      obtain ⟨hheld, hwhere⟩ := hback (by simp) taskID hkeeps
      have hempty : w.pods = .empty := (hm ▸ hown.main : MainOwned cfg w (.drop (r :: rest) kept)).1
      rw [hempty] at hwhere
      have hrec : taskID ∈ kept.map AssignmentRecord.taskID := by
        rcases hwhere with hpod | hrec
        · cases hpod
        · exact hrec
      refine .inr ⟨(held_congr ?_).mpr hheld, .inr hrec⟩
      obtain ⟨r', hr', rfl⟩ := List.mem_map.mp hrec
      simp only [World.perform, hwritten, if_true]
      rw [Cache.lookup_deleteAssignment]
      exact if_neg (hne r' (List.mem_append_right _ hr'))
  | @resend event rest kept hp =>
    obtain ⟨-, -, hpending⟩ := howned
    refine hquiet _ _ trivial (by simp) (by simp) rfl rfl
      (reach_grows _ (by simp [appendCall]) w.db) (fun _ hrec => hrec) ?_
    exact ⟨_, hpending.found event (List.mem_cons_self ..), settled_of_appends hp⟩
  | @confirm eventID rest kept =>
    obtain ⟨hempty, -, -⟩ := howned
    obtain ⟨r, hlook, hsettled⟩ : MainSafe w.cache w.db (.confirm eventID rest kept) := hm ▸ h.main
    refine hquiet _ _ ?_ (by simp) (by simp) perform_pods
      perform_assignments ?_ (fun _ hrec => hrec) trivial
    · refine ⟨r, hlook, hsettled, ?_, ?_⟩
      · intro taskID slot event hslot
        rw [hempty] at hslot
        cases hslot
      · intro task podEnv event hmain
        rw [hm] at hmain
        cases hmain
    · exact .of_eq perform_db
  | attached =>
    refine hquiet _ _ trivial (by simp) (by simp) rfl rfl (.refl _) ?_ trivial
    intro taskID hrec
    cases hrec
  | attach href =>
    refine h.addPod (by simp) ⟨validPod_of_podReference href, trivial⟩ ?_ trivial
    intro taskID hkeeps
    obtain ⟨hheld, hpod | hrec⟩ := hback (by simp) taskID hkeeps
    · exact .inr ⟨hheld, .inr (.inl hpod)⟩
    · exact .inr ⟨hheld, (List.mem_cons.mp hrec).imp_right .inr⟩
  | full hat =>
    refine hquiet _ _ trivial (by simp) ?_ rfl rfl (.refl _) ?_ trivial
    · rcases hat with rfl | ⟨items, rfl⟩
      · simp
      · simp
    · intro taskID hrec
      rcases hat with rfl | ⟨items, rfl⟩
      · exact hrec
      · exact hrec

/-! ## Section 6: The goroutine of a task -/

/-- What the poll goroutine waits for in the outbox stays. -/
theorem MainSafe.step (h : MainSafe w.cache w.db w.main) (hcloses : act.Closes w) :
    MainSafe (w.perform reg act).cache (w.perform reg act).db w.main := by
  have hevolves : w.db.Evolves (w.perform reg act).db := perform_evolves act
  have hevent : ∀ {eventID : String} {r : EventOutboxRecord},
      w.cache.eventOutbox.lookup eventID = some r → ∃ r',
        (w.perform reg act).cache.eventOutbox.lookup eventID = some r' ∧ r'.event = r.event :=
    fun hr => event_outbox_perform hcloses.fresh hr
  cases hm : w.main with
  | confirm eventID pending kept =>
    rw [hm] at h
    obtain ⟨r, hr, hsettled⟩ := h
    obtain ⟨r', hr', heq⟩ := hevent hr
    refine ⟨r', hr', ?_⟩
    rw [heq]
    exact fun hterminal => (hsettled hterminal).later hevolves
  | start task stage =>
    rw [hm] at h
    cases stage with
    | post podEnv event =>
      refine lookup_outbox_perform hcloses.fresh h ?_
      intro written heq
      subst heq
      obtain ⟨-, -, -, -, hnone⟩ := hcloses
      exact hnone task podEnv event hm rfl
    | accept podEnv eventID =>
      obtain ⟨r, hr, hnot⟩ := h
      obtain ⟨r', hr', heq⟩ := hevent hr
      exact ⟨r', hr', by rw [heq]; exact hnot⟩
    | _ => exact h
  | _ => trivial

/-- What the step of a slot has to show: its own slot stays safe, or it goes with the end of
    its task on the way. -/
theorem Safe.setSlot {slot' : Option Slot} (h : Safe cfg w) (hcloses : act.Closes w)
    (hgrows : Grows cfg w.db (w.perform reg act).db)
    (hpods : (w.perform reg act).pods = w.pods) (hrecords : ∀ id, id ≠ taskID →
      (w.perform reg act).cache.assignments.lookup id = w.cache.assignments.lookup id)
    (hheld : Held w.cache taskID →
      Held (w.perform reg act).cache taskID ∨ Settled (w.perform reg act).db taskID)
    (hgone : slot' = none → Settled (w.perform reg act).db taskID ∨
      PendingTerminal (w.perform reg act).cache taskID)
    (hslot : ∀ s, slot' = some s →
      SlotSafe (w.perform reg act).cache (w.perform reg act).db taskID s) :
    Safe cfg ((w.perform reg act).setSlot taskID slot') := by
  refine ⟨?_, ?_, ?_⟩
  · refine h.kept_step act hcloses (setSlot_db _ _) (setSlot_cache _ _) ?_ ?_
    · intro id hnow
      rw [setSlot_db] at hnow
      exact .inl (hgrows.assigned id hnow)
    · intro id _ hopen hpending hkeeps
      rw [setSlot_db] at hopen
      rw [setSlot_cache] at hpending
      unfold World.Keeps
      rw [setSlot_main, perform_main, setSlot_cache, lookup_setSlot, hpods]
      refine hkeeps.imp_right ?_
      intro hboth
      obtain ⟨hh, hwhere⟩ := hboth
      by_cases hid : id = taskID
      · subst hid
        rw [if_pos rfl]
        refine ⟨(hheld hh).resolve_right hopen, .inl ?_⟩
        cases hs : slot' with
        | none => exact absurd (hgone hs) (not_or.mpr ⟨hopen, hpending⟩)
        | some s => rfl
      · rw [if_neg hid]
        exact ⟨(held_congr (hrecords id hid)).mpr hh, hwhere⟩
  · rw [setSlot_cache, setSlot_db]
    exact forall_setSlot hpods hslot (fun id s _ hs => SlotSafe.step h hs hcloses)
  · rw [setSlot_cache, setSlot_db, setSlot_main, perform_main]
    exact h.main.step hcloses

theorem SlotStep.safe {slot' : Option Slot} (hs : SlotStep cfg reg w a slot act slot')
    (hfound : w.pods.lookup taskID = some slot) (hwritten : a.written = true)
    (hown : Ownership cfg w) (h : Safe cfg w) :
    Safe cfg ((w.perform reg act).setSlot taskID slot') := by
  have howned := hown.stores.slots taskID slot hfound
  have hsafe := h.slots taskID slot hfound
  obtain ⟨hgrows, hpods, hrecords⟩ := hs.frame
  obtain rfl := howned.key
  have hown_stage := howned.stage
  have hsafe_stage := hsafe.stage
  have hevolves : w.db.Evolves (w.perform reg act).db := hgrows.evolves
  -- the poll goroutine waits for the answer to an event of a task without a slot
  have hnotMain : ∀ task podEnv event, w.main = .start task (.post podEnv event) →
      event.taskID ≠ slot.taskID := by
    intro task podEnv event hmain hid
    obtain ⟨-, -, -, hlaunching, hcomposed, -⟩ :
      MainOwned cfg w (.start task (.post podEnv event)) := hmain ▸ hown.main
    have hnone := hlaunching.2
    rw [← hcomposed.taskID, hid, hfound] at hnone
    cases hnone
  have hat : ∀ (stage : Stage) (c : Cache) (db : Db), StageSafe c db slot.taskID stage →
      ∀ s, some (slot.at stage) = some s → SlotSafe c db slot.taskID s := by
    intro stage c db hst s hsome
    obtain rfl := Option.some.inj hsome
    exact ⟨hsafe.pod, hst⟩
  cases hs with
  | @supervise slot' _ _ hsame hnext =>
    refine h.setSlot trivial hgrows hpods hrecords .inl (fun hc => by cases hc) ?_
    intro s hsome
    obtain rfl := Option.some.inj hsome
    refine ⟨?_, ?_⟩
    · rw [hsame.podName, hsame.podUID]
      exact hsafe.pod
    · rcases hnext with hsup | ⟨eventType, phase, detail, hout, -⟩
      · generalize slot'.stage = stage at hsup
        cases stage <;> trivial
      · rw [hout]
        trivial
  | persist =>
    refine h.setSlot trivial hgrows hpods hrecords ?_ (fun hc => by cases hc)
      (hat _ _ _ trivial)
    intro _
    left
    refine ⟨slot.record, ?_, rfl, podReference_isSome hsafe.pod⟩
    rw [lookup_putAssignment_written hwritten]
    exact if_pos rfl
  | outbox hstage hfresh =>
    refine h.setSlot (fresh_outbox hfresh) hgrows hpods hrecords ?_
      (fun hc => by cases hc) (hat _ _ _ (lookup_putOutbox_written hwritten _))
    intro hh
    exact .inl ((held_congr (by rw [perform_assignments (by simp) (by simp)])).mpr hh)
  | @posted event hstage hp =>
    rw [hstage] at hown_stage hsafe_stage
    refine h.setSlot trivial hgrows hpods hrecords .inl (fun hc => by cases hc)
      (hat _ _ _ ⟨?_, _, hsafe_stage, hown_stage.1.taskID⟩)
    rw [← hown_stage.1.taskID]
    exact settled_of_appends hp hown_stage.2
  | @unposted event hstage hp =>
    rw [hstage] at hown_stage hsafe_stage
    refine h.setSlot trivial hgrows hpods hrecords .inl (fun hc => by cases hc)
      (hat _ _ _ (.inr ?_))
    rw [pendingTerminal_iff]
    exact ⟨event.eventID, event, hsafe_stage, hown_stage.1.taskID, hown_stage.2⟩
  | @accept eventID hstage =>
    rw [hstage] at hsafe_stage
    obtain ⟨hsettled, r, hlook, hid⟩ := hsafe_stage
    have hcloses : Act.Closes w (.acceptOutbox a.written eventID) := by
      refine ⟨r, hlook, fun _ => hid ▸ hsettled, ?_, ?_⟩
      · intro id s event hslot hpost heq
        have hpending := (h.slots id s hslot).stage
        have hcomposed := (hown.stores.slots id s hslot).stage
        rw [hpost] at hpending hcomposed
        rw [← heq, show w.cache.eventOutbox.lookup event.eventID = _ from hpending] at hlook
        obtain rfl := Option.some.inj hlook
        -- both are the slot of this task, and this one waits for nothing
        have hsame : id = slot.taskID := hcomposed.1.taskID.symm.trans hid
        rw [hsame, hfound] at hslot
        rw [← Option.some.inj hslot, hstage] at hpost
        cases hpost
      · intro task podEnv event hmain heq
        have hpending := h.main
        rw [hmain] at hpending
        rw [← heq, show w.cache.eventOutbox.lookup event.eventID = _ from hpending] at hlook
        obtain rfl := Option.some.inj hlook
        exact hnotMain task podEnv event hmain hid
    refine h.setSlot hcloses hgrows hpods hrecords ?_ (fun hc => by cases hc)
      (hat _ _ _ (hsettled.later hevolves))
    intro _
    exact .inr (hsettled.later hevolves)
  | unassign hstage =>
    rw [hstage] at hsafe_stage
    have hsettled : Settled (w.perform reg (.deleteAssignment a.written slot.taskID)).db
        slot.taskID := Settled.later hsafe_stage hevolves
    exact h.setSlot trivial hgrows hpods hrecords (fun _ => .inr hsettled)
      (fun hc => by cases hc) (hat _ _ _ hsettled)
  | delete hstage =>
    rw [hstage] at hsafe_stage
    exact h.setSlot trivial hgrows hpods hrecords .inl (fun hc => by cases hc)
      (hat _ _ _ (.inl hsafe_stage))
  | leave hstage =>
    rw [hstage] at hsafe_stage
    exact h.setSlot trivial hgrows hpods hrecords .inl (fun _ => hsafe_stage)
      (fun s hc => by cases hc)

/-! ## Section 7: Every run -/

theorem WorldStep.safe {l : Label} (hs : WorldStep cfg reg w l w')
    (hdurable : durable cfg reg w l = true) (hown : Ownership cfg w)
    (hlog : LogInvariant w.db.tasks w.db.taskEvents) (h : Safe cfg w) : Safe cfg w' := by
  cases hs with
  | start hdown =>
    refine ⟨?_, h.slots, trivial⟩
    intro taskID hassigned hopen
    refine (h.kept taskID hassigned hopen).imp_right ?_
    intro hkeeps
    unfold World.Keeps at hkeeps
    rw [hdown] at hkeeps
    rcases hkeeps with ⟨_, _, hc, -, -⟩ | ⟨hheld, -⟩
    · cases hc
    · exact .inr ⟨hheld, .inr trivial⟩
  | crash =>
    refine h.exit ?_ (.refl _) rfl
    intro taskID hun
    obtain ⟨task, stage, hmain, -, hstage⟩ := hun
    simp only [durable, hmain, Main.inLaunch, hstage] at hdurable
    cases hdurable
  | @registry call hother =>
    have hgrows : Grows cfg w.db ((exec reg call).commit w.db) :=
      grows_of_other hother w.db
    -- to the executor it is as good as an answered request of its own
    have hperform : (w.perform reg (.request .answered call)) =
        { w with db := (exec reg call).commit w.db } := rfl
    rw [← hperform]
    refine ⟨?_, ?_, ?_⟩
    · exact h.kept_step (.request .answered call) trivial rfl rfl
        (fun taskID hnow => .inl (hgrows.assigned taskID hnow)) (fun _ _ _ _ hkeeps => hkeeps)
    · intro taskID slot hslot
      exact SlotSafe.step h hslot trivial
    · exact h.main.step trivial
  | podGone => exact ⟨h.kept, h.slots, h.main⟩
  | main hmain => exact hmain.safe rfl hdurable hown hlog h
  | task hfound hslot => exact hslot.safe hfound hdurable hown h

theorem safe_reachable (h : (durableExecutor cfg reg).Reachable w) : Safe cfg w := by
  apply h.invariant
  · rintro _ rfl
    refine ⟨?_, ?_, trivial⟩
    · intro taskID hassigned
      obtain ⟨t, ht, -⟩ := hassigned
      cases ht
    · intro taskID slot hslot
      cases hslot
  · intro w l w' hreach hsafe hstep
    exact (worldStep_of_step hstep.1).safe hstep.2 (ownership_reachable hreach.of_restrict)
      (reachable_logInvariant (registry_reachable hreach.of_restrict)) hsafe

/-- In a run that meets the condition, every task that is open and assigned to the executor has
    a slot or a terminal event in the outbox whenever the poll loop is idle. -/
theorem open_task_kept (h : (durableExecutor cfg reg).Reachable w) (hidle : w.main = .idle)
    {taskID : String} {t : TaskRow} (ht : w.db.tasks.lookup taskID = some t)
    (hassigned : t.executorID = some cfg.executorID)
    (hopen : t.currentState = .created ∨ t.currentState = .running) :
    (w.pods.lookup taskID).isSome = true ∨ PendingTerminal w.cache taskID := by
  have hlog := reachable_logInvariant (registry_reachable h.of_restrict)
  have hunsettled : ¬ Settled w.db taskID := by
    rw [hlog.settled_iff ht]
    rcases hopen with hs | hs <;> simp [hs]
  rcases (safe_reachable h).kept taskID ⟨t, ht, hassigned⟩ hunsettled with hpending | hkeeps
  · exact .inr hpending
  · left
    unfold World.Keeps at hkeeps
    rw [hidle] at hkeeps
    rcases hkeeps with ⟨_, _, hc, -, -⟩ | ⟨-, hpod | hrec⟩
    · cases hc
    · exact hpod
    · exact hrec.elim

/-- A crash, and a start-up of five steps. -/
def sampleRestart : List Label :=
  .crash :: .start :: List.replicate 5 (.main (sampleAnswer "restart" 20))

/-- The sample task runs when the process ends, and its slot comes back. -/
theorem open_task_kept_sample : ∃ w t,
    (durableExecutor sampleExecutor sampleConfig).Reachable w ∧ w.main = .idle ∧
      w.db.tasks.lookup "task" = some t ∧ t.executorID = some sampleExecutor.executorID ∧
      t.currentState = .running ∧
      ((w.pods.lookup "task").isSome = true ∨ PendingTerminal w.cache "task") := by
  obtain ⟨w, hreach, hidle, t, ht, hexec, hstate⟩ : ∃ w,
      (durableExecutor sampleExecutor sampleConfig).Reachable w ∧ w.main = .idle ∧
        ∃ t ∈ w.db.tasks.lookup "task", t.executorID = some "exec" ∧ t.currentState = .running :=
    System.Reachable.exists_of_guarded (sampleRegistry ++ sampleStart ++ sampleRound ++
      sampleLaunch ++ sampleInstall ++ sampleRestart) rfl (by decide +kernel)
  exact ⟨w, t, hreach, hidle, ht, hexec, hstate,
    open_task_kept hreach hidle ht hexec (.inr hstate)⟩

/-- The response to the claim is lost.  The poll loop goes on, and a restart forgets the intent:
    the task is `created` and assigned to an executor that knows nothing of it. -/
theorem claimed_task_lost : ∃ w t,
    (executor sampleExecutor sampleConfig).Reachable w ∧ w.main = .idle ∧
      w.db.tasks.lookup "task" = some t ∧ t.executorID = some sampleExecutor.executorID ∧
      t.currentState = .created ∧ w.pods.lookup "task" = none ∧
      w.cache.listAssignments = [] ∧ w.cache.pendingOutbox = [] := by
  obtain ⟨w, hreach, hidle, ⟨t, ht, hclaimed⟩, hlost⟩ : ∃ w,
      (executor sampleExecutor sampleConfig).Reachable w ∧ w.main = .idle ∧
        (∃ t ∈ w.db.tasks.lookup "task", t.executorID = some "exec" ∧ t.currentState = .created) ∧
        w.pods.lookup "task" = none ∧ w.cache.listAssignments = [] ∧ w.cache.pendingOutbox = [] :=
    System.Reachable.exists_of_follow (sampleRegistry ++ sampleStart ++ sampleRound.take 5 ++
      [.main { sampleAnswer "claim" 8 with reach := .lost }] ++ sampleRestart) rfl
      (by decide +kernel)
  exact ⟨w, t, hreach, hidle, ht, hclaimed.1, hclaimed.2, hlost⟩

end FlowAI.K8s
