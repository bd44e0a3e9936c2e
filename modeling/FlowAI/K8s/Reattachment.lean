import FlowAI.K8s.Safekeeping

/-! # Finished Work Is Not Reattached

  `reconcileCachedWork` reattaches the records it collected before it resends the outbox, and
  asks nobody whether their tasks have ended.  So a record must be gone when its task has a
  terminal event, stored or waiting.  `finishPodTask` writes the event first and deletes the
  record last; between the two the process must not end, and both must go through.
-/

namespace FlowAI.K8s

open Registry

variable {taskID : String} {slot : Slot} {m : Main} {act : Act} {slot' : Option Slot}
  {task : Starting} {stage : StartStage}

variable {cfg : ExecutorConfig} {reg : Config} {w w' : World} {a : Answer}

/-! ## Section 1: The condition -/

/-- In `finishPodTask`, from the outbox entry of the event to the deletion of the record. -/
def Stage.reporting : Stage → Bool
  | .post _ | .accept _ | .unassign => true
  | _ => false

def World.reports (w : World) : Bool := w.pods.entries.any (fun e => e.2.stage.reporting)

/-- The process does not end while a slot reports the end of its task, the Registry takes the
    report and says so, and the record of the task is deleted. -/
def orderly (cfg : ExecutorConfig) (reg : Config) (w : World) : Label → Bool
  | .crash => !w.reports
  | .main a => !w.reports || !(w.main.step cfg reg w a).any (fun r => r.2 = .down)
  | .task taskID a _ => (w.pods.lookup taskID).all (fun slot =>
      match slot.stage with
      | .post event => w.appends cfg reg a event
      | .unassign => a.written
      | _ => true)
  | _ => true

/-- The executor in runs whose steps all meet the condition. -/
def orderlyExecutor (cfg : ExecutorConfig) (reg : Config) : System World Label :=
  (executor cfg reg).restrict (fun w l => orderly cfg reg w l = true)

theorem not_reporting (h : w.reports = false) (hslot : w.pods.lookup taskID = some slot) :
    slot.stage.reporting = false := by
  have hall := List.any_eq_false.mp h (taskID, slot) (StrMap.lookup_eq_some_iff.mp hslot)
  exact Bool.eq_false_iff.mpr hall

/-! ## Section 2: What ends a task -/

/-- No terminal event of the task is stored or waits in the outbox. -/
structure Clean (w : World) (taskID : String) : Prop where
  unsettled : ¬ Settled w.db taskID
  unsent : ¬ PendingTerminal w.cache taskID

theorem Clean.same (h : Clean w taskID) (hdb : w'.db = w.db := by rfl)
    (hcache : w'.cache = w.cache := by rfl) : Clean w' taskID :=
  ⟨hdb ▸ h.unsettled, hcache ▸ h.unsent⟩

/-- The action stores a terminal event of the task, or puts it into the outbox. -/
def Act.Ends (taskID : String) : Act → Prop
  | .append _ _ event => event.taskID = taskID ∧ IsTerminal event
  | .putOutbox _ event => event.taskID = taskID ∧ IsTerminal event
  | _ => False

/-- The request is the one the action stands for. -/
def Act.Called : Act → Prop
  | .request _ call => ∀ req identity, call.op ≠ .appendTaskEvent req identity
  | .append _ call event => ∃ identity, call.op = .appendTaskEvent event identity
  | _ => True

theorem MainStep.called {m' : Main} (hs : MainStep cfg reg w a m act m') :
    act.Called := by
  cases hs with
  | start hstart => cases hstart <;> simp [Act.Called, claimCall, openCall, appendCall]
  | _ => simp [Act.Called, appendCall]

theorem SlotStep.called (hs : SlotStep cfg reg w a slot act slot') : act.Called := by
  cases hs <;> simp [Act.Called, appendCall]

variable {call : Call}

theorem settled_of_reach {reach : Reach} {db : Db} (h : Settled (reach.commit reg call db) taskID) :
    Settled db taskID ∨ ∃ req identity, call.op = .appendTaskEvent req identity ∧
      req.taskID = taskID ∧ IsTerminal req := by
  have hcommit : Settled ((exec reg call).commit db) taskID → _ := fun hs =>
    (settled_of_commit hs).imp_right (fun hex => by
      obtain ⟨req, identity, hop, hid, hterminal, -⟩ := hex
      exact (⟨req, identity, hop, hid, hterminal⟩ : ∃ req identity,
        call.op = .appendTaskEvent req identity ∧ req.taskID = taskID ∧ IsTerminal req))
  cases reach with
  | failed => exact .inl h
  | answered | lost => exact hcommit h

theorem pendingTerminal_of_perform (h : PendingTerminal (w.perform reg act).cache taskID) :
    PendingTerminal w.cache taskID ∨ act.Ends taskID := by
  obtain ⟨eventID, e, hlook, hid, hterminal⟩ := pendingTerminal_iff.mp h
  rcases pending_of_perform hlook with hold | ⟨rfl, -⟩
  · exact .inl (pendingTerminal_iff.mpr ⟨eventID, e, hold, hid, hterminal⟩)
  · exact .inr ⟨hid, hterminal⟩

/-- A task stays clean unless the action ends it. -/
theorem Clean.perform (h : Clean w taskID) (hcalled : act.Called) (hends : ¬ act.Ends taskID) :
    ¬ Settled (w.perform reg act).db taskID ∧ ¬ PendingTerminal (w.perform reg act).cache taskID := by
  refine ⟨?_, ?_⟩
  · intro hsettled
    cases act with
    | request reach call =>
      rcases settled_of_reach hsettled with hbefore | ⟨req, identity, hop, -, -⟩
      · exact h.unsettled hbefore
      · exact hcalled req identity hop
    | append reach call event =>
      rcases settled_of_reach hsettled with hbefore | ⟨req, identity, hop, hid, hterminal⟩
      · exact h.unsettled hbefore
      · obtain ⟨identity', hop'⟩ := hcalled
        rw [hop'] at hop
        cases hop
        exact hends ⟨hid, hterminal⟩
    | _ =>
      rw [perform_db (by simp) (by simp)] at hsettled
      exact h.unsettled hsettled
  · intro hpending
    rcases pendingTerminal_of_perform hpending with hbefore | hends'
    · exact h.unsent hbefore
    · exact hends hends'

/-- A record that names a Pod was there before, or is written now. -/
theorem held_of_perform (h : Held (w.perform reg act).cache taskID) : Held w.cache taskID ∨
      ∃ written r, act = .putAssignment written r ∧ r.taskID = taskID ∧
        (podReference r.runtimeRef).isSome = true := by
  obtain ⟨r, hlook, hlive, href⟩ := h
  have hold : w.cache.assignments.lookup taskID = some r → Held w.cache taskID :=
    fun hl => ⟨r, hl, hlive, href⟩
  cases act with
  | putAssignment written r' =>
    simp only [World.perform] at hlook
    split at hlook
    · rw [Cache.lookup_putAssignment] at hlook
      split at hlook
      · rename_i hid
        cases Option.some.inj hlook
        exact .inr ⟨written, r, rfl, hid, href⟩
      · exact .inl (hold hlook)
    · exact .inl (hold hlook)
  | deleteAssignment written id =>
    simp only [World.perform] at hlook
    split at hlook
    · rw [Cache.lookup_deleteAssignment] at hlook
      split at hlook
      · cases hlook
      · exact .inl (hold hlook)
    · exact .inl (hold hlook)
  | _ =>
    rw [perform_assignments (by simp) (by simp)] at hlook
    exact .inl (hold hlook)

/-! ## Section 3: The invariant -/

/-- The stages of a slot before its task has a terminal event. -/
def Stage.working : Stage → Bool
  | .outbox _ _ _ => true
  | stage => stage.supervising

structure Orderly (w : World) : Prop where
  recorded : ∀ taskID, Held w.cache taskID → ¬ Clean w taskID →
    ∃ slot, w.pods.lookup taskID = some slot ∧ slot.stage.reporting = true
  slots : ∀ taskID slot, w.pods.lookup taskID = some slot → slot.stage.working = true →
    Clean w taskID
  launch : ∀ task stage, w.main = .start task stage → stage.launching = true →
    Clean w task.taskID

/-- A record without a slot is of a clean task. -/
theorem Orderly.clean_of_held (h : Orderly w) (hheld : Held w.cache taskID)
    (hnone : w.pods.lookup taskID = none) : Clean w taskID := by
  by_contra hnot
  obtain ⟨slot, hslot, -⟩ := h.recorded taskID hheld hnot
  rw [hnone] at hslot
  cases hslot

/-- No slot reports, so the process may end. -/
theorem Orderly.exit (h : Orderly w) (hquiet : w.reports = false) : Orderly w.exit := by
  refine ⟨?_, ?_, ?_⟩
  · intro taskID hheld hnot
    have hnot' : ¬ Clean w taskID := fun hc => hnot hc.same
    obtain ⟨slot, hslot, hreporting⟩ := h.recorded taskID hheld hnot'
    rw [not_reporting hquiet hslot] at hreporting
    cases hreporting
  · intro taskID slot hslot
    cases hslot
  · intro task stage hmain
    cases hmain

theorem StartStep.not_ends (hs : StartStep cfg reg w a task stage act m)
    (hown : StartOwned cfg w task stage) (taskID : String) : ¬ act.Ends taskID := by
  have hrunning : ∀ event : TaskEventAppendRequest, event.eventType = "running" →
      ¬ (event.taskID = taskID ∧ IsTerminal event) := by
    intro event htype hboth
    have hterminal := hboth.2
    rw [IsTerminal, htype] at hterminal
    exact absurd hterminal (by decide)
  cases hs with
  | outbox => exact hrunning _ rfl
  | posted | unposted => exact hrunning _ hown.2.2
  | _ => exact id

/-! ## Section 4: The poll goroutine -/

theorem Clean.goto (h : Clean w taskID) (hcalled : act.Called) (hends : ¬ act.Ends taskID) :
    Clean ((w.perform reg act).goto m) taskID := by
  obtain ⟨hsettled, hpending⟩ : ¬ Settled (w.perform reg act).db taskID ∧
      ¬ PendingTerminal (w.perform reg act).cache taskID := h.perform hcalled hends
  refine ⟨?_, ?_⟩
  · rw [goto_db]
    exact hsettled
  · rw [goto_cache]
    exact hpending

/-- A step that leaves the slots alone, and ends no task but one without slot that was on its
    way out already. -/
theorem Orderly.advance (h : Orderly w) (hcalled : act.Called) (hup : m ≠ .down)
    (hpods : (w.perform reg act).pods = w.pods)
    (hends : ∀ taskID, act.Ends taskID → ¬ Clean w taskID ∧ w.pods.lookup taskID = none)
    (hheld : ∀ taskID, Held (w.perform reg act).cache taskID →
      Held w.cache taskID ∨ Clean w taskID)
    (hlaunch : ∀ task stage, m = .start task stage → stage.launching = true →
      Clean ((w.perform reg act).goto m) task.taskID) :
    Orderly ((w.perform reg act).goto m) := by
  have hclean : ∀ taskID, Clean w taskID → Clean ((w.perform reg act).goto m) taskID :=
    fun taskID hc => hc.goto hcalled (fun he => (hends taskID he).1 hc)
  refine ⟨?_, ?_, ?_⟩
  · intro taskID hh hnot
    rw [goto_cache] at hh
    rw [goto_pods hup, hpods]
    have hnot' : ¬ Clean w taskID := fun hc => hnot (hclean taskID hc)
    exact h.recorded taskID ((hheld taskID hh).resolve_right hnot') hnot'
  · intro taskID slot hslot hworking
    rw [goto_pods hup, hpods] at hslot
    exact hclean taskID (h.slots taskID slot hslot hworking)
  · intro task stage hmain
    rw [goto_main] at hmain
    exact hlaunch task stage hmain

theorem Orderly.addPod (h : Orderly w) (hup : m ≠ .down) (hclean : Clean w slot.taskID)
    (hmain : ∀ task stage, m = .start task stage → stage.launching = false) :
    Orderly ((w.perform reg (.addPod slot)).goto m) := by
  have hkeep : ∀ taskID, Clean w taskID → Clean ((w.perform reg (.addPod slot)).goto m) taskID :=
    fun taskID hc => hc.goto trivial id
  refine ⟨?_, ?_, ?_⟩
  · intro taskID hh hnot
    rw [goto_cache] at hh
    have hnot' : ¬ Clean w taskID := fun hc => hnot (hkeep taskID hc)
    obtain ⟨s, hs, hreporting⟩ := h.recorded taskID hh hnot'
    refine ⟨s, ?_, hreporting⟩
    rw [lookup_goto_addPod hup, if_neg]
    · exact hs
    · intro hid
      exact hnot' (hid ▸ hclean)
  · exact forall_goto_addPod hup (fun _ => hkeep _ hclean)
      (fun id s hs hworking => hkeep id (h.slots id s hs hworking))
  · intro task stage heq hlaunching
    rw [goto_main] at heq
    rw [hmain task stage heq] at hlaunching
    cases hlaunching

theorem StartStep.orderly (hs : StartStep cfg reg w a task stage act m)
    (hm : w.main = .start task stage) (hown : Ownership cfg w)
    (hlog : LogInvariant w.db.tasks w.db.taskEvents) (h : Orderly w) :
    Orderly ((w.perform reg act).goto m) := by
  obtain ⟨-, -, -, hstart⟩ : MainOwned cfg w (.start task stage) := hm ▸ hown.main
  have hends : ∀ taskID, act.Ends taskID → ¬ Clean w taskID ∧ w.pods.lookup taskID = none :=
    fun taskID he => absurd he (hs.not_ends hstart taskID)
  have hcalled : act.Called := (MainStep.start hs).called
  have hclean : stage.launching = true → ∀ m : Main,
      Clean ((w.perform reg act).goto m) task.taskID :=
    fun hl m => (h.launch task stage hm hl).goto hcalled (hs.not_ends hstart task.taskID)
  -- the start goes on as before, and its record names no Pod
  have hquiet : ∀ m : Main, m ≠ .down → (w.perform reg act).pods = w.pods →
      (∀ written r, act = .putAssignment written r → r.runtimeRef = "") →
      (∀ task' stage', m = .start task' stage' → stage'.launching = true →
        task' = task ∧ stage.launching = true) → Orderly ((w.perform reg act).goto m) := by
    intro m hup hpods hrecord hon
    apply h.advance hcalled hup hpods hends
    · intro taskID hh
      rcases held_of_perform hh with hbefore | ⟨written, r, hact, -, href⟩
      · exact .inl hbefore
      · rw [hrecord written r hact, podReference_empty] at href
        cases href
    · intro task' stage' heq hlaunching
      obtain ⟨rfl, hl⟩ := hon task' stage' heq hlaunching
      exact hclean hl m
  cases hs with
  | noIntent | unanswered | unopened | abort =>
    exact hquiet _ (by simp) perform_pods (by simp)
      (fun _ _ heq => by cases heq)
  | intent =>
    refine hquiet _ (by simp) rfl ?_ (fun _ _ heq hl => by cases heq; cases hl)
    intro written r hact
    cases hact
    rfl
  | @claimed response db' hr hok =>
    have hopen : ¬ Settled (a.reach.commit reg
        (claimCall cfg a task.taskID task.commandID) w.db) task.taskID := by
      rw [hr]
      have hassigned : Assigned ((exec reg
          (claimCall cfg a task.taskID task.commandID)).commit w.db) cfg.executorID task.taskID := by
        rw [claimCall_commit hok]
        exact assigned_of_claim hok
      exact ((assigned_of_commit hassigned).resolve_left hstart).not_settled hlog
    have hunsent : ¬ PendingTerminal w.cache task.taskID := by
      intro hpending
      obtain ⟨eventID, e, hlook, hid, -⟩ := pendingTerminal_iff.mp hpending
      have hassigned := (hown.stores.outbox eventID _ hlook).assigned
      simp only at hassigned
      rw [hid] at hassigned
      exact hstart hassigned
    have hon : ∀ m : Main, m ≠ .down →
        (∀ task' stage', m = .start task' stage' → task' = task) → Orderly ((w.perform reg
          (.request a.reach (claimCall cfg a task.taskID task.commandID))).goto m) := by
      intro m hup hsame
      refine h.advance hcalled hup rfl hends (fun taskID hh => .inl hh) ?_
      intro task' stage' heq _
      rw [hsame task' stage' heq]
      refine ⟨?_, ?_⟩
      · rw [goto_db]
        exact hopen
      · rw [goto_cache]
        exact hunsent
    rcases afterClaim_cases cfg task response with heq | ⟨token, heq⟩ | ⟨podEnv, heq⟩ <;> rw [heq]
    · exact hon _ (by simp) (fun _ _ heq => by cases heq)
    · exact hon _ (by simp) (fun _ _ heq => by cases heq; rfl)
    · exact hon _ (by simp) (fun _ _ heq => by cases heq; rfl)
  | declined hr hno hnext =>
    rcases hnext with rfl | rfl <;>
      exact hquiet _ (by simp) rfl (by simp) (fun _ _ heq => by cases heq)
  | @opened response token values hr =>
    rcases launch_cases cfg task response values with heq | ⟨podEnv, heq⟩
    · rw [heq]
      exact hquiet _ (by simp) rfl (by simp) (fun _ _ heq => by cases heq)
    · rw [heq]
      exact hquiet _ (by simp) rfl (by simp) (fun _ _ heq _ => by cases heq; exact ⟨rfl, rfl⟩)
  | assign =>
    refine hquiet _ (by simp) perform_pods ?_
      (fun _ _ heq _ => by cases heq; exact ⟨rfl, rfl⟩)
    intro written r hact
    cases hact
    rfl
  | reserve | outbox | posted | accept | created =>
    exact hquiet _ (by simp) perform_pods (by simp)
      (fun _ _ heq _ => by cases heq; exact ⟨rfl, rfl⟩)
  | unposted | uncreated | unassign | release =>
    exact hquiet _ (by simp) perform_pods (by simp)
      (fun _ _ heq hl => by cases heq; cases hl)
  | install =>
    apply h.addPod (by simp) (h.launch task _ hm rfl)
    intro task' stage' heq
    cases heq
    rfl
  | record =>
    -- the slot of the task is there and works, so the task is clean
    obtain ⟨slot, hslot, hinstalled⟩ := hstart
    have htask : Clean w task.taskID := h.slots _ slot hslot (by rw [hinstalled]; rfl)
    refine h.advance hcalled (by simp) perform_pods hends ?_
      (fun _ _ heq hl => by cases heq; cases hl)
    intro taskID hh
    rcases held_of_perform hh with hbefore | ⟨written, r, hact, hid, -⟩
    · exact .inl hbefore
    · cases hact
      exact .inr (hid ▸ htask)
  | spawn =>
    obtain ⟨slot, hslot, hinstalled⟩ := hstart
    have hkey : (slot.at .watch).taskID = task.taskID := (hown.stores.slots _ _ hslot).key
    rw [perform_spawn hslot hkey]
    exact h.addPod (by simp) (hkey ▸ h.slots _ slot hslot (by rw [hinstalled]; rfl))
      (fun _ _ heq => by cases heq)

theorem pending_of_ends {c : Cache} {reach : Reach}
    {event : TaskEventAppendRequest} {rest : List TaskEventAppendRequest}
    (hpending : Pending c (event :: rest)) (h : (Act.append reach call event).Ends taskID) :
    PendingTerminal c taskID :=
  pendingTerminal_iff.mpr
    ⟨event.eventID, event, hpending.found event (List.mem_cons_self ..), h.1, h.2⟩

theorem MainStep.orderly {m' : Main} (hs : MainStep cfg reg w a m act m') (hm : w.main = m)
    (horderly : orderly cfg reg w (.main a) = true) (hown : Ownership cfg w)
    (hlog : LogInvariant w.db.tasks w.db.taskEvents) (h : Orderly w) :
    Orderly ((w.perform reg act).goto m') := by
  have howned : MainOwned cfg w m := hm ▸ hown.main
  have hcalled : act.Called := hs.called
  have hempty : w.pods = .empty → w.reports = false := by
    intro he
    unfold World.reports
    rw [he]
    rfl
  -- outside a start: no task ends, no record is written
  have hquiet : ∀ m' : Main, m' ≠ .down → (w.perform reg act).pods = w.pods →
      (∀ taskID, ¬ act.Ends taskID) → (∀ written r, act ≠ .putAssignment written r) →
      (∀ task stage, m' = .start task stage → stage.launching = false) →
      Orderly ((w.perform reg act).goto m') := by
    intro m' hup hpods hends hput hlaunch
    apply h.advance hcalled hup hpods (fun taskID he => absurd he (hends taskID))
    · intro taskID hh
      rcases held_of_perform hh with hbefore | ⟨written, r, hact, -, -⟩
      · exact .inl hbefore
      · exact absurd hact (hput written r)
    · intro task stage heq hlaunching
      rw [hlaunch task stage heq] at hlaunching
      cases hlaunching
  cases hs with
  | start hstart => exact hstart.orderly hm hown hlog h
  | unlisted => exact h.exit (hempty howned)
  | unconfirmed => exact h.exit (hempty howned.1)
  | unattached href =>
    apply h.exit
    simp only [FlowAI.K8s.orderly, hm, Main.step, href] at horderly
    simpa using horderly
  | @resend event rest kept hp =>
    obtain ⟨hpods, -, hpending⟩ := howned
    refine h.advance hcalled (by simp) rfl ?_ (fun taskID hh => .inl hh)
      (fun _ _ heq => by cases heq)
    intro taskID he
    refine ⟨fun hc => hc.unsent (pending_of_ends hpending he), ?_⟩
    rw [hpods]
    rfl
  | @unsent event rest kept hp =>
    obtain ⟨hpods, -, hpending⟩ := howned
    refine ⟨?_, ?_, ?_⟩
    · intro taskID hh hnot
      -- nothing had a slot, and what ends now was in the outbox
      have hnot' : ¬ Clean w taskID := by
        intro hc
        apply hnot
        exact hc.goto hcalled (fun he => hc.unsent (pending_of_ends hpending he))
      obtain ⟨slot, hslot, -⟩ := h.recorded taskID hh hnot'
      rw [hpods] at hslot
      cases hslot
    · intro taskID slot hslot
      cases hslot
    · intro task stage heq
      cases heq
  | @attach r rest name uid href =>
    obtain ⟨hcached, hfree⟩ := howned
    have hlook := hcached.found r (List.mem_cons_self ..)
    have hheld : Held w.cache r.taskID :=
      ⟨r, hlook, (hown.stores.records _ r hlook).live, by rw [href]; rfl⟩
    exact h.addPod (by simp) (h.clean_of_held hheld (hfree r (List.mem_cons_self ..)))
      (fun _ _ heq => by cases heq)
  | listed | dropped | resent | attached | tick | full | room | undiscovered | discovered
  | running =>
    exact hquiet _ (by simp) rfl (fun _ => id) (by simp) (fun _ _ heq => by cases heq)
  | drop | confirm =>
    exact hquiet _ (by simp) perform_pods (fun _ => id) (by simp)
      (fun _ _ heq => by cases heq)
  | next =>
    exact hquiet _ (by simp) rfl (fun _ => id) (by simp) (fun _ _ heq => by cases heq; rfl)

/-! ## Section 5: The goroutine of a task -/

/-- What the step of a slot has to show about its own task. -/
theorem Orderly.setSlot (h : Orderly w) (hcalled : act.Called)
    (hpods : (w.perform reg act).pods = w.pods) (hother : ∀ id, id ≠ taskID → ¬ act.Ends id)
    (hrecords : ∀ id, id ≠ taskID →
      (w.perform reg act).cache.assignments.lookup id = w.cache.assignments.lookup id)
    (hworking : ∀ s, slot' = some s → s.stage.working = true →
      Clean w taskID ∧ ¬ act.Ends taskID)
    (hheld : Held (w.perform reg act).cache taskID → ¬ (Clean w taskID ∧ ¬ act.Ends taskID) →
      ∃ s, slot' = some s ∧ s.stage.reporting = true)
    (hmain : ∀ task stage, w.main = .start task stage → stage.launching = true →
      task.taskID ≠ taskID) :
    Orderly ((w.perform reg act).setSlot taskID slot') := by
  have hclean : ∀ id, Clean w id → ¬ act.Ends id →
      Clean ((w.perform reg act).setSlot taskID slot') id := by
    intro id hc he
    obtain ⟨hsettled, hpending⟩ : ¬ Settled (w.perform reg act).db id ∧
        ¬ PendingTerminal (w.perform reg act).cache id := hc.perform hcalled he
    exact ⟨by rw [setSlot_db]; exact hsettled, by rw [setSlot_cache]; exact hpending⟩
  refine ⟨?_, ?_, ?_⟩
  · intro id hh hnot
    rw [setSlot_cache] at hh
    rw [lookup_setSlot, hpods]
    by_cases hid : id = taskID
    · subst hid
      rw [if_pos rfl]
      exact hheld hh (fun hboth => hnot (hclean id hboth.1 hboth.2))
    · rw [if_neg hid]
      exact h.recorded id ((held_congr (hrecords id hid)).mp hh)
        (fun hc => hnot (hclean id hc (hother id hid)))
  · refine forall_setSlot hpods ?_
      (fun id s hne hs hw => hclean id (h.slots id s hs hw) (hother id hne))
    intro s hs hw
    obtain ⟨hc, he⟩ := hworking s hs hw
    exact hclean taskID hc he
  · intro task stage heq hlaunching
    rw [setSlot_main, perform_main] at heq
    exact hclean _ (h.launch task stage heq hlaunching)
      (hother _ (hmain task stage heq hlaunching))

/-- A start that has no slot yet works on a task of the executor that has none. -/
theorem launching_of_stage (hown : Ownership cfg w) (hm : w.main = .start task stage)
    (hl : stage.launching = true) : Launching cfg w task := by
  obtain ⟨-, -, -, hstart⟩ : MainOwned cfg w (.start task stage) := hm ▸ hown.main
  cases stage with
  | intent | claim | unassign | abort | release | record | spawn => cases hl
  | post => exact hstart.1
  | _ => exact hstart

theorem SlotStep.orderly {obs : Observation} (hs : SlotStep cfg reg w a slot act slot')
    (hfound : w.pods.lookup taskID = some slot)
    (horderly : orderly cfg reg w (.task taskID a obs) = true) (hown : Ownership cfg w)
    (h : Orderly w) : Orderly ((w.perform reg act).setSlot taskID slot') := by
  have howned := hown.stores.slots taskID slot hfound
  obtain ⟨-, hpods, hrecords⟩ := hs.frame
  obtain rfl := howned.key
  have hcalled : act.Called := hs.called
  simp only [FlowAI.K8s.orderly, hfound, Option.all_some] at horderly
  have hother : ∀ id, id ≠ slot.taskID → ¬ act.Ends id := by
    intro id hne he
    have hstage := howned.stage
    cases hs with
    | outbox => exact hne he.1.symm
    | posted hat | unposted hat =>
      rw [hat] at hstage
      exact hne (he.1.symm.trans hstage.1.taskID)
    | _ => exact he
  have hmain : ∀ task stage, w.main = .start task stage → stage.launching = true →
      task.taskID ≠ slot.taskID := by
    intro task stage hm hl hid
    have hnone := (launching_of_stage hown hm hl).2
    rw [hid, hfound] at hnone
    cases hnone
  have hworking : slot.stage.working = true → Clean w slot.taskID :=
    h.slots slot.taskID slot hfound
  have hsupervising : slot.stage.supervising = true → Clean w slot.taskID := by
    intro hsup
    apply hworking
    generalize slot.stage = stage at hsup
    cases stage <;> first | rfl | cases hsup
  cases hs with
  | supervise hat =>
    exact h.setSlot hcalled hpods hother hrecords (fun _ _ _ => ⟨hsupervising hat, id⟩)
      (fun _ hnot => absurd ⟨hsupervising hat, id⟩ hnot) hmain
  | persist hat =>
    have hclean := hsupervising (by rw [hat]; rfl)
    exact h.setSlot hcalled hpods hother hrecords (fun _ _ _ => ⟨hclean, id⟩)
      (fun _ hnot => absurd ⟨hclean, id⟩ hnot) hmain
  | unposted hat hrefused =>
    simp only [hat] at horderly
    rw [horderly] at hrefused
    cases hrefused
  | outbox | posted | accept =>
    refine h.setSlot hcalled hpods hother hrecords ?_ (fun _ _ => ⟨_, rfl, rfl⟩) hmain
    intro s hsome hw
    cases hsome
    cases hw
  | unassign hat =>
    simp only [hat] at horderly
    refine h.setSlot hcalled hpods hother hrecords ?_ ?_ hmain
    · intro s hsome hw
      cases hsome
      cases hw
    · -- the record is gone
      intro hh
      obtain ⟨r, hlook, -, -⟩ := hh
      simp only [World.perform, horderly, if_true] at hlook
      rw [Cache.lookup_deleteAssignment, if_pos rfl] at hlook
      cases hlook
  | delete hat | leave hat =>
    refine h.setSlot hcalled hpods hother hrecords ?_ ?_ hmain
    · intro s hsome hw
      cases hsome
      try cases hw
    · intro hh hnot
      obtain ⟨s, hslot, hreporting⟩ :=
        h.recorded slot.taskID hh (fun hc => hnot ⟨hc, id⟩)
      rw [hfound] at hslot
      rw [← Option.some.inj hslot, hat] at hreporting
      cases hreporting

/-! ## Section 6: Every run -/

theorem WorldStep.orderly {l : Label} (hs : WorldStep cfg reg w l w')
    (horderly : orderly cfg reg w l = true) (hown : Ownership cfg w)
    (hlog : LogInvariant w.db.tasks w.db.taskEvents) (h : Orderly w) : Orderly w' := by
  cases hs with
  | start hdown =>
    refine ⟨fun id hh hnot => h.recorded id hh (fun hc => hnot hc.same), ?_, ?_⟩
    · intro taskID slot hslot hw
      exact (h.slots taskID slot hslot hw).same
    · intro task stage heq
      cases heq
  | crash =>
    apply h.exit
    simpa [FlowAI.K8s.orderly] using horderly
  | @registry call hother =>
    -- nobody else ends a task of the executor
    have hclean : ∀ taskID, Assigned w.db cfg.executorID taskID → Clean w taskID →
        Clean { w with db := (exec reg call).commit w.db } taskID := by
      intro taskID hassigned hc
      refine ⟨?_, hc.unsent⟩
      intro hsettled
      rcases settled_of_commit hsettled with hbefore | ⟨req, identity, hop, -, -, hexec⟩
      · exact hc.unsettled hbefore
      · obtain ⟨t, ht, hus⟩ := hassigned
        obtain ⟨t', ht', hthem⟩ := hexec
        rw [ht] at ht'
        obtain rfl := Option.some.inj ht'
        have hsame : identity.executorID = cfg.executorID := Option.some.inj (hthem.symm.trans hus)
        rw [hop] at hother
        simp [actsAs, hsame] at hother
    refine ⟨?_, ?_, ?_⟩
    · intro taskID hh hnot
      have hheld := hh
      obtain ⟨r, hlook, -, href⟩ := hheld
      have hassigned := ((hown.stores.records taskID r hlook).assigned (by
        intro hempty
        rw [hempty, podReference_empty] at href
        cases href)).1
      exact h.recorded taskID hh (fun hc => hnot (hclean taskID hassigned hc))
    · intro taskID slot hslot hw
      exact hclean taskID (hown.stores.slots taskID slot hslot).assigned
        (h.slots taskID slot hslot hw)
    · intro task stage heq hl
      exact hclean _ (launching_of_stage hown heq hl).1 (h.launch task stage heq hl)
  | podGone =>
    refine ⟨fun id hh hnot => h.recorded id hh (fun hc => hnot hc.same), ?_, ?_⟩
    · intro taskID slot hslot hw
      exact (h.slots taskID slot hslot hw).same
    · intro task stage heq hl
      exact (h.launch task stage heq hl).same
  | main hmain => exact hmain.orderly rfl horderly hown hlog h
  | task hfound hslot => exact hslot.orderly hfound horderly hown h

theorem orderly_reachable (h : (orderlyExecutor cfg reg).Reachable w) : Orderly w := by
  apply h.invariant
  · rintro _ rfl
    refine ⟨?_, ?_, ?_⟩
    · intro taskID hheld
      obtain ⟨r, hlook, -⟩ := hheld
      cases hlook
    · intro taskID slot hslot
      cases hslot
    · intro task stage heq
      cases heq
  · intro w l w' hreach hinv hstep
    exact (worldStep_of_step hstep.1).orderly hstep.2 (ownership_reachable hreach.of_restrict)
      (reachable_logInvariant (registry_reachable hreach.of_restrict)) hinv

/-- In a run that meets the condition, a record that is about to be reattached is of a task
    without a terminal event, and so is every slot until it reports the end of its task. -/
theorem reattached_unsettled (h : (orderlyExecutor cfg reg).Reachable w) :
    (∀ r rest pod, w.main = .attach (r :: rest) → podReference r.runtimeRef = some pod →
      ¬ Settled w.db r.taskID) ∧
    ∀ taskID slot, w.pods.lookup taskID = some slot → slot.stage.working = true →
      ¬ Settled w.db taskID := by
  have hinv := orderly_reachable h
  have hown := ownership_reachable h.of_restrict
  constructor
  · intro r rest pod hmain href
    obtain ⟨hcached, hfree⟩ : MainOwned cfg w (.attach (r :: rest)) := hmain ▸ hown.main
    have hlook := hcached.found r (List.mem_cons_self ..)
    have hheld : Held w.cache r.taskID :=
      ⟨r, hlook, (hown.stores.records _ r hlook).live, by rw [href]; rfl⟩
    exact (hinv.clean_of_held hheld (hfree r (List.mem_cons_self ..))).unsettled
  · intro taskID slot hslot hworking
    exact (hinv.slots taskID slot hslot hworking).unsettled

/-- The record that is reattached last. -/
def Main.lastRecord : Main → Option AssignmentRecord
  | .attach [r] => some r
  | _ => none

theorem Main.of_lastRecord {m : Main} {r : AssignmentRecord} (h : m.lastRecord = some r) :
    m = .attach [r] := by
  unfold Main.lastRecord at h
  split at h
  · cases h
    rfl
  · cases h

/-- The sample task runs when the process ends: it is reattached, and it has not ended. -/
theorem reattached_unsettled_sample : ∃ w r,
    (orderlyExecutor sampleExecutor sampleConfig).Reachable w ∧
      w.main = .attach [r] ∧ (podReference r.runtimeRef).isSome = true ∧
      ¬ Settled w.db r.taskID := by
  have hrun : (System.follow (System.guardNext
      (fun w l => orderly sampleExecutor sampleConfig w l = true)
      (World.next sampleExecutor sampleConfig)) World.initial
      (sampleRegistry ++ sampleStart ++ sampleRound ++ sampleLaunch ++ sampleInstall ++
        sampleRestart.take 5)).any (fun w =>
          w.main.lastRecord.any (fun r => (podReference r.runtimeRef).isSome)) = true := by
    decide +kernel
  obtain ⟨w, hw, hend⟩ := (Option.any_eq_true _ _).mp hrun
  have hreach : (orderlyExecutor sampleExecutor sampleConfig).Reachable w :=
    System.Reachable.of_follow_guarded rfl hw
  obtain ⟨r, hr, href⟩ := (Option.any_eq_true _ _).mp hend
  have hmain := Main.of_lastRecord hr
  obtain ⟨pod, hpod⟩ := Option.isSome_iff_exists.mp href
  exact ⟨w, r, hreach, hmain, href, (reattached_unsettled hreach).1 r [] pod hmain hpod⟩

/-- The process ends between the outbox entry of the terminal event and its request.  The
    start-up resends the event, the Registry takes it, and the task is reattached. -/
theorem settled_task_reattached : ∃ w r,
    (executor sampleExecutor sampleConfig).Reachable w ∧
      w.main = .attach [r] ∧ (podReference r.runtimeRef).isSome = true ∧
      Settled w.db r.taskID := by
  have hrun : (System.follow (World.next sampleExecutor sampleConfig) World.initial
      (sampleRegistry ++ sampleStart ++ sampleRound ++ sampleLaunch ++ sampleInstall ++
        sampleFailure.take 2 ++ sampleRestart)).any (fun w => w.main.lastRecord.any (fun r =>
          (podReference r.runtimeRef).isSome &&
            (taskLog w.db r.taskID).any (fun e => e.eventType.terminal))) = true := by
    decide +kernel
  obtain ⟨w, hw, hend⟩ := (Option.any_eq_true _ _).mp hrun
  obtain ⟨r, hr, hboth⟩ := (Option.any_eq_true _ _).mp hend
  simp only [Bool.and_eq_true] at hboth
  obtain ⟨e, he, hterminal⟩ := List.any_eq_true.mp hboth.2
  exact ⟨w, r, reachable_of_follow hw, Main.of_lastRecord hr, hboth.1, e, he, hterminal⟩

end FlowAI.K8s
