import FlowAI.K8s.Delivery

/-! # The Order of Resent Events

  `retryPendingOutbox` sends the pending events in the order of their keys, and a key is
  drawn at random.  That is harmless as long as a task never has two pending events: its
  `running` event is accepted before its Pod exists, and a restart attaches a task only
  after every pending event was accepted.  One write breaks it.  The result of
  `UpdateOutboxState` is ignored, and a `running` event that stays pending may be sent after
  the terminal event of its task.
-/

namespace FlowAI.K8s

open Registry

variable {act : Act} {taskID : String} {slot : Slot}

variable {cfg : ExecutorConfig} {reg : Config} {w w' : World} {a : Answer}

/-! ## Section 1: Order -/

/-- The instant of an event. -/
def occurred (e : TaskEventAppendRequest) : Option Int := Time.parseRFC3339Nano e.occurredAt

/-- The events of each task in the order of their creation: a `running` event first, and times
    that do not go back. -/
def InOrder (events : List TaskEventAppendRequest) : Prop :=
  events.Pairwise (fun e e' => e.taskID = e'.taskID →
    ¬ (IsTerminal e ∧ e'.eventType = "running") ∧
      ∀ t t', occurred e = some t → occurred e' = some t' → t ≤ t')

/-- The write that marks an accepted `running` event goes through. -/
def runningMarked (w : World) : Label → Bool
  | .main a =>
    match w.main with
    | .start _ (.accept _ _) => a.written
    | _ => true
  | _ => true

def markingExecutor (cfg : ExecutorConfig) (reg : Config) : System World Label :=
  (executor cfg reg).restrict (fun w l => runningMarked w l = true)

/-! ## Section 2: Open events -/

/-- The record is a pending event of the task. -/
def PendingFor (c : Cache) (taskID eventID : String) : Prop :=
  ∃ e, c.eventOutbox.lookup eventID = some ⟨e, false⟩ ∧ e.taskID = taskID

/-- The pending events that count: all of them, or those the Registry does not have. -/
def Open (counts : Db → String → Prop) (w : World) (taskID eventID : String) : Prop :=
  PendingFor w.cache taskID eventID ∧ counts w.db eventID

/-- What the stage of a slot knows about the open events of its task. -/
def StageOpen (isOpen : String → Prop) : Stage → Prop
  | .post event => ∀ id, isOpen id → id = event.eventID
  | .accept _ | .unassign | .delete | .leave => True
  | _ => ∀ id, ¬ isOpen id

def StartOpen (db : Db) (isOpen : String → Prop) : StartStage → Prop
  | .post _ event => ∀ id, isOpen id → id = event.eventID
  | .accept _ eventID => (∀ id, isOpen id → id = eventID) ∧ Stored db eventID
  | .unassign | .abort => True
  | _ => ∀ id, ¬ isOpen id

def MainOpen (db : Db) (isOpen : String → String → Prop) : Main → Prop
  | .resend pending _ => ∀ taskID id, isOpen taskID id → ∃ e ∈ pending, e.eventID = id
  | .confirm eventID pending _ =>
    ∀ taskID id, isOpen taskID id → (∃ e ∈ pending, e.eventID = id) ∨ id = eventID
  | .attach kept => ∀ r ∈ kept, ∀ id, ¬ isOpen r.taskID id
  | .start task stage => StartOpen db (isOpen task.taskID) stage
  | _ => True

/-- A task has at most one open event. -/
structure OneOpen (counts : Db → String → Prop) (w : World) : Prop where
  one : ∀ taskID id id', Open counts w taskID id → Open counts w taskID id' → id = id'
  slots : ∀ taskID slot, w.pods.lookup taskID = some slot →
    StageOpen (Open counts w taskID) slot.stage
  main : MainOpen w.db (Open counts w) w.main

/-- Each pending event was pending before, or is the new one. -/
theorem pendingFor_perform {id : String} (h : PendingFor (w.perform reg act).cache taskID id) :
    PendingFor w.cache taskID id ∨ ∃ event, act = .putOutbox true event ∧
      event.taskID = taskID ∧ event.eventID = id := by
  obtain ⟨e, hlook, hid⟩ := h
  rcases pending_of_perform hlook with hold | ⟨rfl, heq⟩
  · exact .inl ⟨e, hold, hid⟩
  · exact .inr ⟨e, rfl, hid, heq⟩

theorem not_pendingFor_accepted {eventID : String} :
    ¬ PendingFor (w.perform reg (.acceptOutbox true eventID)).cache taskID eventID := by
  intro h
  obtain ⟨e, hlook, -⟩ := h
  change (w.cache.acceptOutbox eventID).eventOutbox.lookup eventID = _ at hlook
  rw [Cache.lookup_acceptOutbox, if_pos rfl] at hlook
  obtain ⟨r, -, hr⟩ := Option.map_eq_some_iff.mp hlook
  cases hr

/-! ## Section 3: Frames -/

/-- The action writes no new pending event for the task. -/
def Act.Spares (taskID : String) (act : Act) : Prop :=
  ∀ event, act = .putOutbox true event → event.taskID ≠ taskID

variable {isOpen isOpen' : String → Prop} {m : Main}

theorem StageOpen.mono {stage : Stage}
    (h : StageOpen isOpen stage) (hsub : ∀ id, isOpen' id → isOpen id) :
    StageOpen isOpen' stage := by
  cases stage with
  | post event => exact fun id hid => h id (hsub id hid)
  | accept | unassign | delete | leave => trivial
  | _ => exact fun id hid => h id (hsub id hid)

theorem StartOpen.mono {db db' : Db} {stage : StartStage}
    (h : StartOpen db isOpen stage) (hlater : db.Evolves db')
    (hsub : ∀ id, isOpen' id → isOpen id) : StartOpen db' isOpen' stage := by
  cases stage with
  | post podEnv event => exact fun id hid => h id (hsub id hid)
  | accept podEnv eventID => exact ⟨fun id hid => h.1 id (hsub id hid), h.2.later hlater⟩
  | unassign | abort => trivial
  | _ => exact fun id hid => h id (hsub id hid)

/-- What the Registry has, it keeps: an event that counts has counted before. -/
def Antitone (counts : Db → String → Prop) : Prop :=
  ∀ db db' id, Db.Evolves db db' → counts db' id → counts db id

/-- The mark of an accepted `running` event is written, or events the Registry has do not
    count. -/
def Marks (counts : Db → String → Prop) (w : World) (a : Answer) : Prop :=
  ∀ task podEnv id, w.main = .start task (.accept podEnv id) →
    a.written = true ∨ ∀ db eventID, Stored db eventID → ¬ counts db eventID

section Opened

variable {counts : Db → String → Prop}

@[simp] theorem open_goto (m : Main) : Open counts (w.goto m) = Open counts w := by
  unfold Open
  rw [goto_cache, goto_db]

@[simp] theorem open_setSlot (taskID : String) (slot : Option Slot) :
    Open counts (w.setSlot taskID slot) = Open counts w := by
  unfold Open
  rw [setSlot_cache, setSlot_db]

variable (hcounts : Antitone counts)
include hcounts

theorem open_perform {id : String} (h : Open counts (w.perform reg act) taskID id) :
    Open counts w taskID id ∨ ∃ event, act = .putOutbox true event ∧ event.taskID = taskID ∧
      event.eventID = id := by
  have hbefore := hcounts _ _ _ (perform_evolves act) h.2
  rcases pendingFor_perform h.1 with hold | hnew
  · exact .inl ⟨hold, hbefore⟩
  · exact .inr hnew

theorem open_of_spares (hspares : act.Spares taskID) (id : String)
    (h : Open counts (w.perform reg act) taskID id) : Open counts w taskID id := by
  rcases open_perform hcounts h with hold | ⟨event, hact, htask, -⟩
  · exact hold
  · exact absurd htask (hspares event hact)

/-- Still at most one open event for each task: a new one is the first of its task. -/
theorem OneOpen.one_perform (h : OneOpen counts w)
    (hnew : ∀ event, act = .putOutbox true event → ∀ id, ¬ Open counts w event.taskID id) :
    ∀ taskID id id', Open counts (w.perform reg act) taskID id →
      Open counts (w.perform reg act) taskID id' → id = id' := by
  intro taskID id id' hid hid'
  rcases open_perform hcounts hid with hold | ⟨event, hact, htask, heq⟩
  · rcases open_perform hcounts hid' with hold' | ⟨event', hact', htask', -⟩
    · exact h.one taskID id id' hold hold'
    · exact absurd (htask' ▸ hold) (hnew event' hact' id)
  · rcases open_perform hcounts hid' with hold' | ⟨event', hact', -, heq'⟩
    · exact absurd (htask ▸ hold') (hnew event hact id')
    · rw [hact] at hact'
      injection hact' with _ hevent
      rw [← heq, ← heq', hevent]

/-- A step of the poll goroutine that adds no slot. -/
theorem OneOpen.advance (h : OneOpen counts w) (hup : m ≠ .down)
    (hnew : ∀ event, act = .putOutbox true event →
      (∀ id, ¬ Open counts w event.taskID id) ∧ w.pods.lookup event.taskID = none)
    (hpods : (w.perform reg act).pods = w.pods)
    (hmain : MainOpen (w.perform reg act).db (Open counts (w.perform reg act)) m) :
    OneOpen counts ((w.perform reg act).goto m) := by
  refine ⟨?_, ?_, ?_⟩
  · rw [open_goto]
    exact h.one_perform hcounts (fun event hact => (hnew event hact).1)
  · intro taskID slot hslot
    rw [goto_pods hup, hpods] at hslot
    rw [open_goto]
    apply (h.slots taskID slot hslot).mono
    apply open_of_spares hcounts
    intro event hact htask
    have hnone := (hnew event hact).2
    rw [htask, hslot] at hnone
    cases hnone
  · rw [open_goto, goto_main, goto_db]
    exact hmain

omit hcounts in
/-- A slot is added in a stage that has nothing open. -/
theorem OneOpen.addPod (h : OneOpen counts w) (hup : m ≠ .down)
    (hslot : StageOpen (Open counts w slot.taskID) slot.stage)
    (hmain : MainOpen w.db (Open counts w) m) :
    OneOpen counts ((w.perform reg (.addPod slot)).goto m) := by
  refine ⟨?_, ?_, ?_⟩
  · rw [open_goto]
    exact h.one
  · rw [open_goto]
    exact forall_goto_addPod hup hslot h.slots
  · rw [open_goto, goto_main, goto_db]
    exact hmain

/-! ## Section 4: Steps of the poll goroutine -/

theorem StartStep.oneOpen {task : Starting} {stage : StartStage}
    (hs : StartStep cfg reg w a task stage act m) (hm : w.main = .start task stage)
    (hown : Ownership cfg w) (hmarks : Marks counts w a) (h : OneOpen counts w) :
    OneOpen counts ((w.perform reg act).goto m) := by
  have hstart : StartOwned cfg w task stage := by
    have hmain := hown.main
    rw [hm] at hmain
    exact hmain.2.2.2
  have hstage : StartOpen w.db (Open counts w task.taskID) stage := by
    have hmain := h.main
    rw [hm] at hmain
    exact hmain
  -- no event is written: what was known about the task is still known
  have hkeep : ∀ {act : Act} {stage' : StartStage}, (∀ event, act ≠ .putOutbox true event) →
      (w.perform reg act).pods = w.pods →
      ((∀ id, Open counts (w.perform reg act) task.taskID id → Open counts w task.taskID id) →
        StartOpen (w.perform reg act).db (Open counts (w.perform reg act) task.taskID) stage') →
      OneOpen counts ((w.perform reg act).goto (.start task stage')) := by
    intro act stage' hno hpods hnext
    apply h.advance hcounts (by simp) (fun event hact => absurd hact (hno event)) hpods
    apply hnext
    exact open_of_spares hcounts (fun event hact => absurd hact (hno event))
  have hsame : ∀ {act : Act} {stage' : StartStage}, (∀ event, act ≠ .putOutbox true event) →
      (w.perform reg act).pods = w.pods → StartOpen w.db (Open counts w task.taskID) stage' →
      OneOpen counts ((w.perform reg act).goto (.start task stage')) := by
    intro act stage' hno hpods hbefore
    exact hkeep hno hpods (hbefore.mono (perform_evolves act))
  have hend : ∀ {act : Act} {m : Main}, (∀ event, act ≠ .putOutbox true event) →
      (w.perform reg act).pods = w.pods → (m = .idle ∨ ∃ items, m = .each items) →
      OneOpen counts ((w.perform reg act).goto m) := by
    intro act m hno hpods hgoes
    rcases hgoes with rfl | ⟨items, rfl⟩
    · exact h.advance hcounts (by simp) (fun event hact => absurd hact (hno event)) hpods trivial
    · exact h.advance hcounts (by simp) (fun event hact => absurd hact (hno event)) hpods trivial
  cases hs with
  | noIntent | unanswered | unopened | abort =>
    exact hend (by simp) perform_pods (.inl rfl)
  | @claimed response _ _ _ =>
    rcases afterClaim_cases cfg task response with heq | ⟨token, heq⟩ | ⟨podEnv, heq⟩
    · rw [heq]
      exact hend (by simp) rfl (.inl rfl)
    · rw [heq]
      exact hsame (by simp) rfl hstage
    · rw [heq]
      exact hsame (by simp) rfl hstage
  | declined _ _ hnext =>
    rcases hnext with rfl | rfl
    · exact hend (by simp) rfl (.inl rfl)
    · exact hend (by simp) rfl (.inr ⟨_, rfl⟩)
  | @opened response token values _ =>
    rcases launch_cases cfg task response values with heq | ⟨podEnv, heq⟩
    · rw [heq]
      exact hend (by simp) rfl (.inl rfl)
    · rw [heq]
      exact hsame (by simp) rfl hstage
  | intent | assign | reserve | created | release | record =>
    exact hsame (by simp) perform_pods hstage
  | unposted | uncreated | unassign =>
    exact hsame (by simp) perform_pods trivial
  | @outbox podEnv hfresh =>
    -- the first event of the task
    apply h.advance hcounts (by simp)
    · intro event hact
      injection hact with _ hevent
      subst hevent
      exact ⟨hstage, hstart.2⟩
    · exact perform_pods (by simp) (by simp)
    · intro id hid
      rcases open_perform hcounts hid with hold | ⟨event, hact, -, heq⟩
      · exact absurd hold (hstage id)
      · injection hact with _ hevent
        rw [hevent]
        exact heq.symm
  | posted happends =>
    apply hkeep (by simp) rfl
    intro hsub
    exact ⟨fun id hid => hstage id (hsub id hid), stored_of_appends happends⟩
  | @accept podEnv eventID =>
    apply hkeep (by simp) perform_pods
    intro hsub id hid
    -- the one open event of the task is marked, or does not count
    obtain rfl := hstage.1 id (hsub id hid)
    rcases hmarks task podEnv id hm with hwritten | hstored
    · rw [hwritten] at hid
      exact not_pendingFor_accepted hid.1
    · exact hstored _ id (hstage.2.later (perform_evolves _)) hid.2
  | install => exact h.addPod (by simp) hstage hstage
  | spawn =>
    obtain ⟨slot, hslot, -⟩ := hstart
    have hkey : (slot.at .watch).taskID = task.taskID := (hown.stores.slots _ _ hslot).key
    rw [perform_spawn hslot hkey]
    refine h.addPod (by simp) ?_ trivial
    rw [hkey]
    exact hstage

theorem MainStep.oneOpen {m' : Main} (hs : MainStep cfg reg w a m act m') (hm : w.main = m)
    (hown : Ownership cfg w) (hmarks : Marks counts w a) (h : OneOpen counts w) :
    OneOpen counts ((w.perform reg act).goto m') := by
  have hmain : MainOpen w.db (Open counts w) m := hm ▸ h.main
  have howned : MainOwned cfg w m := hm ▸ hown.main
  have hquiet : ∀ {act : Act} {m' : Main}, m' ≠ .down → (∀ event, act ≠ .putOutbox true event) →
      (w.perform reg act).pods = w.pods →
      ((∀ taskID id, Open counts (w.perform reg act) taskID id → Open counts w taskID id) →
        MainOpen (w.perform reg act).db (Open counts (w.perform reg act)) m') →
      OneOpen counts ((w.perform reg act).goto m') := by
    intro act m' hup hno hpods hnext
    apply h.advance hcounts hup (fun event hact => absurd hact (hno event)) hpods
    apply hnext
    intro taskID
    exact open_of_spares hcounts (fun event hact => absurd hact (hno event))
  cases hs with
  | unlisted | unsent | unconfirmed | unattached =>
    refine ⟨?_, ?_, trivial⟩
    · rw [open_goto]
      exact h.one_perform hcounts (by simp)
    · intro taskID slot hslot
      cases hslot
  | listed | drop | attached | tick | room | undiscovered | discovered | running =>
    exact hquiet (by simp) (by simp) perform_pods (fun _ => trivial)
  | full => exact hquiet (by simp) (by simp) rfl (fun _ => trivial)
  | dropped =>
    -- everything open is in the list
    apply hquiet (by simp) (by simp) rfl
    intro _ taskID id hid
    obtain ⟨⟨e, hlook, -⟩, -⟩ := hid
    exact ⟨e, Cache.mem_pendingOutbox.mpr ⟨id, hlook⟩, (hown.stores.outbox id _ hlook).key⟩
  | resent =>
    apply hquiet (by simp) (by simp) rfl
    intro _ r _ id hid
    obtain ⟨e, he, -⟩ := hmain r.taskID id hid
    cases he
  | @resend event rest kept _ =>
    apply hquiet (by simp) (by simp) rfl
    intro hsub taskID id hid
    obtain ⟨e, he, rfl⟩ := hmain taskID id (hsub taskID id hid)
    rcases List.mem_cons.mp he with rfl | hrest
    · exact .inr rfl
    · exact .inl ⟨e, hrest, rfl⟩
  | @confirm eventID rest kept _ _ =>
    apply hquiet (by simp) (by simp) rfl
    intro hsub taskID id hid
    rcases hmain taskID id (hsub taskID id hid) with hrest | rfl
    · exact hrest
    · exact absurd hid.1 not_pendingFor_accepted
  | @attach r rest name uid _ =>
    apply h.addPod (by simp)
    · exact hmain r List.mem_cons_self
    · intro r' hr'
      exact hmain r' (List.mem_cons_of_mem _ hr')
  | @next item rest _ _ =>
    apply hquiet (by simp) (by simp) rfl
    -- a task that is not the executor's has no event in the outbox
    intro _ id hid
    obtain ⟨⟨e, hlook, htask⟩, -⟩ := hid
    have hassigned := (hown.stores.outbox id _ hlook).assigned
    rw [htask] at hassigned
    exact howned.unassigned item List.mem_cons_self hassigned
  | start hstart => exact hstart.oneOpen hcounts hm hown hmarks h

/-! ## Section 5: Steps of the goroutine of a task -/

/-- A slot that takes a step is not that of the start in progress, nor of a record that is
    still to be attached. -/
theorem OneOpen.setSlot {slot' : Option Slot} (h : OneOpen counts w) (hown : Ownership cfg w)
    (hs : SlotStep cfg reg w a slot act slot') (hfound : w.pods.lookup taskID = some slot)
    (hnew : ∀ event, act = .putOutbox true event →
      event.taskID = taskID ∧ ∀ id, ¬ Open counts w taskID id)
    (hslot : ∀ s, slot' = some s → StageOpen (Open counts (w.perform reg act) taskID) s.stage) :
    OneOpen counts ((w.perform reg act).setSlot taskID slot') := by
  obtain ⟨-, hpods, -⟩ := hs.frame
  have hspares : ∀ id, id ≠ taskID → act.Spares id := by
    intro id hne event hact htask
    exact hne (htask.symm.trans (hnew event hact).1)
  refine ⟨?_, ?_, ?_⟩
  · rw [open_setSlot]
    apply h.one_perform hcounts
    intro event hact
    rw [(hnew event hact).1]
    exact (hnew event hact).2
  · rw [open_setSlot]
    refine forall_setSlot hpods hslot ?_
    intro id s hne hlook
    exact (h.slots id s hlook).mono (open_of_spares hcounts (hspares id hne))
  · rw [setSlot_main, open_setSlot, perform_main, setSlot_db]
    have hmain := h.main
    have hnonempty : w.pods ≠ .empty := by
      intro hempty
      rw [hempty] at hfound
      cases hfound
    have howned := hown.main
    cases hm : w.main with
    | resend pending kept | confirm eventID pending kept =>
      rw [hm] at howned
      exact absurd howned.1 hnonempty
    | attach kept =>
      rw [hm] at howned hmain
      intro r hr id hid
      have hne : r.taskID ≠ taskID := by
        intro heq
        have hnone := howned.2 r hr
        rw [heq, hfound] at hnone
        cases hnone
      exact hmain r hr id (open_of_spares hcounts (hspares _ hne) id hid)
    | start task stage =>
      rw [hm] at howned hmain
      have hne : task.taskID ≠ taskID :=
        hs.not_starting hfound (hown.stores.slots taskID slot hfound) howned.2.2.2
      exact hmain.mono (perform_evolves act) (open_of_spares hcounts (hspares _ hne))
    | _ => trivial

theorem SlotStep.oneOpen {slot' : Option Slot} (hs : SlotStep cfg reg w a slot act slot')
    (hfound : w.pods.lookup taskID = some slot) (hown : Ownership cfg w) (h : OneOpen counts w) :
    OneOpen counts ((w.perform reg act).setSlot taskID slot') := by
  have hkey : slot.taskID = taskID := (hown.stores.slots taskID slot hfound).key
  have hstage : StageOpen (Open counts w taskID) slot.stage := h.slots taskID slot hfound
  have hset := h.setSlot hcounts hown hs hfound
  cases hs with
  | @supervise slot' hsup hstarted hsame hnext =>
    apply hset (by simp)
    intro s hsome
    obtain rfl := Option.some.inj hsome
    -- before and after: no event of the task is open
    have hnone : ∀ id, ¬ Open counts w taskID id := by
      generalize slot.stage = stage at hsup hstage
      cases stage with
      | installed | watch | health | submit | persist | observe => exact hstage
      | _ => cases hsup
    rcases hnext with hsup' | ⟨eventType, phase, detail, hout, -⟩
    · generalize slot'.stage = stage at hsup'
      cases stage with
      | installed | watch | health | submit | persist | observe => exact hnone
      | _ => cases hsup'
    · rw [hout]
      exact hnone
  | persist hat =>
    rw [hat] at hstage
    apply hset (by simp)
    intro s hsome
    obtain rfl := Option.some.inj hsome
    exact hstage.mono (open_of_spares hcounts (by simp [Act.Spares]))
  | @outbox eventType phase detail hat hfresh =>
    rw [hat] at hstage
    have htask : (terminalEvent cfg a slot eventType phase detail).taskID = taskID := hkey
    apply hset
    · intro event hact
      injection hact with _ hevent
      subst hevent
      exact ⟨htask, hstage⟩
    · intro s hsome
      obtain rfl := Option.some.inj hsome
      intro id hid
      rcases open_perform hcounts hid with hold | ⟨event, hact, -, heq⟩
      · exact absurd hold (hstage id)
      · injection hact with _ hevent
        rw [hevent]
        exact heq.symm
  | posted | unposted | accept | unassign | delete =>
    apply hset (by simp)
    intro s hsome
    obtain rfl := Option.some.inj hsome
    trivial
  | leave =>
    apply hset (by simp)
    intro s hsome
    cases hsome

theorem WorldStep.oneOpen {l : Label} (hs : WorldStep cfg reg w l w') (hown : Ownership cfg w)
    (hmarks : ∀ a, l = .main a → Marks counts w a) (h : OneOpen counts w) : OneOpen counts w' := by
  cases hs with
  | start => exact ⟨h.one, h.slots, trivial⟩
  | crash =>
    refine ⟨h.one, ?_, trivial⟩
    intro taskID slot hslot
    cases hslot
  | @registry call _ =>
    have hlater := commit_evolves reg call w.db
    have hsub : ∀ taskID id,
        Open counts { w with db := (exec reg call).commit w.db } taskID id →
          Open counts w taskID id :=
      fun _ _ hopen => ⟨hopen.1, hcounts _ _ _ hlater hopen.2⟩
    refine ⟨?_, ?_, ?_⟩
    · intro taskID id id' hid hid'
      exact h.one taskID id id' (hsub _ _ hid) (hsub _ _ hid')
    · intro taskID slot hslot
      exact (h.slots taskID slot hslot).mono (hsub taskID)
    · show MainOpen _ _ w.main
      have hmain := h.main
      cases hm : w.main with
      | resend | confirm =>
        rw [hm] at hmain
        exact fun taskID id hid => hmain taskID id (hsub _ _ hid)
      | attach kept =>
        rw [hm] at hmain
        exact fun r hr id hid => hmain r hr id (hsub _ _ hid)
      | start task stage =>
        rw [hm] at hmain
        exact hmain.mono hlater (hsub task.taskID)
      | _ => trivial
  | podGone => exact ⟨h.one, h.slots, h.main⟩
  | main hmain => exact hmain.oneOpen hcounts rfl hown (hmarks _ rfl) h
  | task hfound hslot => exact hslot.oneOpen hcounts hfound hown h

omit hcounts in
theorem oneOpen_initial : OneOpen counts World.initial := by
  refine ⟨?_, ?_, trivial⟩
  · intro taskID id id' hid
    obtain ⟨⟨e, hlook, -⟩, -⟩ := hid
    cases hlook
  · intro taskID slot hslot
    cases hslot

end Opened

/-- With every mark of a `running` event written, a task has at most one pending event. -/
theorem onePending_reachable (h : (markingExecutor cfg reg).Reachable w) :
    OneOpen (fun _ _ => True) w := by
  apply h.invariant
  · rintro _ rfl
    exact oneOpen_initial
  · intro w l w' hreach hinv hstep
    apply (worldStep_of_step hstep.1).oneOpen (fun _ _ _ _ _ => trivial)
      (ownership_reachable hreach.of_restrict) _ hinv
    intro a hl task podEnv id hm
    left
    have hguard := hstep.2
    rw [hl] at hguard
    simpa [runningMarked, hm] using hguard

/-! ## Section 6: The order of a resend -/

/-- **What `retryPendingOutbox` sends is in order for each task, in every state of every run
    in which the mark of each accepted `running` event is written.** -/
theorem resend_in_order (h : (markingExecutor cfg reg).Reachable w) :
    InOrder w.cache.pendingOutbox ∧
      ∀ pending kept, w.main = .resend pending kept → InOrder pending := by
  have hown := ownership_reachable h.of_restrict
  have hone := (onePending_reachable h).one
  -- two pending events of one task would be one
  have horder : ∀ events, Pending w.cache events → InOrder events := by
    intro events hpending
    have hdistinct : events.Pairwise (fun e e' => e.eventID ≠ e'.eventID) :=
      List.pairwise_map.mp hpending.distinct
    apply List.Pairwise.imp_of_mem _ hdistinct
    intro e e' he he' hne htask
    have hsame := hone e'.taskID e.eventID e'.eventID ⟨⟨e, hpending.found e he, htask⟩, trivial⟩
      ⟨⟨e', hpending.found e' he', rfl⟩, trivial⟩
    exact absurd hsame hne
  constructor
  · exact horder _ (pending_pendingOutbox hown.stores)
  · intro pending kept hm
    have hmain := hown.main
    rw [hm] at hmain
    exact horder _ hmain.2.2

/-- The task of the sample deployment with its terminal event pending. -/
def sampleEnding : List Label :=
  [.task "task" (sampleAnswer "watch" 13) (.watchFailed "gone"),
    .task "task" (sampleAnswer "end" 14) .step]

/-- A crash, and the start-up to the resend. -/
def sampleResend : List Label :=
  .crash :: .start :: List.replicate 2 (.main (sampleAnswer "restart" 20))

/-- The executor with room for two Pods ends one task, and crashes while it starts another. -/
def sampleTwoTasks : List Label :=
  sampleRegistry ++ .registry (Registry.sampleIngest "other" "2" 6) :: sampleStart ++ sampleRound ++
    sampleLaunch ++ sampleInstall ++ sampleEnding ++
    List.replicate 5 (.main (sampleAnswer "next" 15)) ++ sampleResend

theorem resend_in_order_sample : ∃ w,
    (markingExecutor { sampleExecutor with maxPods := 2 } sampleConfig).Reachable w ∧
      w.cache.pendingOutbox.map (fun e => (e.taskID, e.eventType)) =
        [("task", "failed"), ("other", "running")] ∧ InOrder w.cache.pendingOutbox ∧
      ∀ pending kept, w.main = .resend pending kept → InOrder pending := by
  obtain ⟨w, hreach, hend⟩ : ∃ w,
      (markingExecutor { sampleExecutor with maxPods := 2 } sampleConfig).Reachable w ∧
        w.cache.pendingOutbox.map (fun e => (e.taskID, e.eventType)) =
          [("task", "failed"), ("other", "running")] :=
    System.Reachable.exists_of_guarded sampleTwoTasks rfl (by decide +kernel)
  exact ⟨w, hreach, hend, resend_in_order hreach⟩

/-- The mark of the accepted `running` event is not written, and the key of the terminal event
    is the smaller one: after a crash the terminal event is sent first. -/
theorem terminal_event_resent_first : ∃ w,
    (executor sampleExecutor sampleConfig).Reachable w ∧ ∃ pending kept,
      w.main = .resend pending kept ∧ pending = w.cache.pendingOutbox ∧
      pending.map (fun e => (e.taskID, e.eventType)) = [("task", "failed"), ("task", "running")] ∧
      ¬ InOrder pending := by
  have hrun : (System.follow (World.next sampleExecutor sampleConfig) World.initial
      (sampleRegistry ++ sampleStart ++ sampleRound ++ sampleLaunch.take 4 ++
        [.main { sampleAnswer "accept" 10 with written := false }] ++ sampleLaunch.drop 5 ++
        sampleInstall ++ sampleEnding ++ sampleResend)).any
        (fun w => match w.main with
          | .resend pending _ => pending = w.cache.pendingOutbox &&
              pending.map (fun e => (e.taskID, e.eventType)) =
                [("task", "failed"), ("task", "running")]
          | _ => false) = true := by
    decide +kernel
  obtain ⟨w, hw, hend⟩ := (Option.any_eq_true _ _).mp hrun
  refine ⟨w, reachable_of_follow hw, ?_⟩
  split at hend
  · rename_i pending kept hm
    simp only [Bool.and_eq_true, decide_eq_true_eq] at hend
    obtain ⟨heq, hkinds⟩ := hend
    refine ⟨pending, kept, hm, heq, hkinds, ?_⟩
    intro horder
    obtain ⟨e, rest, rfl, he, hrest⟩ := List.map_eq_cons_iff.mp hkinds
    obtain ⟨e', rest', rfl, he', -⟩ := List.map_eq_cons_iff.mp hrest
    obtain ⟨htask, hkind⟩ := Prod.mk.inj he
    obtain ⟨htask', hkind'⟩ := Prod.mk.inj he'
    have hpair := (List.pairwise_cons.mp horder).1 e' List.mem_cons_self
    exact (hpair (htask.trans htask'.symm)).1 ⟨.inr hkind, hkind'⟩
  · cases hend

end FlowAI.K8s
