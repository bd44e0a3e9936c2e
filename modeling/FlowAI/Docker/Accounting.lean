import FlowAI.Docker.Slots
import FlowAI.Registry.ClaimRetry

/-! # Terminal Accounting of the Docker Executor

  Every task whose `running` event the Registry accepted, and that the executor no longer
  works on, has had exactly one terminal event submitted, if nothing of the following
  happens: the answer to the `running` event is lost, the claim lacks a scope token or an
  image, no port is found, the WebSocket closes normally, or a watcher is still to submit the
  event for which it took the terminal flag when the slot goes.  On each of these the code
  ends the work on the task and submits nothing, or not yet.

  The terminal flag is the account: it is set when one of the goroutines takes it upon itself
  to submit the event, so what is submitted and what is still to be submitted add up to it.
-/

namespace FlowAI.Docker

open Registry (ClaimResponse TaskEventAppendRequest)

variable {reach : Reach} {taskID id : String} {task : Starting} {response : ClaimResponse}
  {slot slot' : Slot} {n : Nat} {act : Act} {m : Main}

variable {cfg : Config} {w w' : World} {a : Answer}

/-! ## Section 1: What is submitted -/

def isTerminalType (eventType : String) : Bool := eventType = "finished" || eventType = "failed"

/-- The terminal events of a task that were submitted. -/
def World.terminalEvents (w : World) (taskID : String) : List TaskEventAppendRequest :=
  w.sent.filter (fun e => e.taskID = taskID && isTerminalType e.eventType)

def World.reported (w : World) (taskID : String) : Nat := (w.terminalEvents taskID).length

/-- Whether an action submits a terminal event of the task. -/
def Act.reports (taskID : String) : Act → Nat
  | .append _ event => if event.taskID = taskID && isTerminalType event.eventType then 1 else 0
  | _ => 0

theorem reported_perform (act : Act) (taskID : String) :
    (w.perform act).reported taskID = w.reported taskID + act.reports taskID := by
  cases act with
  | append reach event =>
    simp only [World.reported, World.terminalEvents, World.perform, Act.reports, List.filter_cons]
    split <;> rfl
  | _ => rfl

variable {event : TaskEventAppendRequest} {stage : StartStage}

/-- The report of a task says nothing about another one. -/
theorem reports_append_ne (h : taskID ≠ event.taskID) :
    (Act.append reach event).reports taskID = 0 := by
  simp [Act.reports, Ne.symm h]

theorem reports_envelope {teamID eventType : String} {payload : List (String × Json)} :
    (Act.append reach (envelope cfg a taskID teamID eventType payload)).reports taskID =
      (isTerminalType eventType).toNat := by
  simp only [Act.reports, envelope, decide_true, Bool.true_and]
  cases isTerminalType eventType <;> rfl

theorem reports_running (taskID : String) :
    (Act.append reach (runningEvent cfg a task response)).reports taskID = 0 := by
  have hno : isTerminalType "running" = false := by decide
  simp [Act.reports, runningEvent, envelope, hno]

theorem accepted_of_terminal (h : isTerminalType event.eventType = true) :
    (w.perform (.append reach event)).accepted = w.accepted := by
  have hne : event.eventType ≠ "running" := by
    intro heq
    rw [heq] at h
    revert h
    decide
  simp [World.perform, hne]

/-! ## Section 2: The account of a slot -/

def Stage.reporting : Stage → Bool
  | .report _ _ => true
  | _ => false

/-- `runTaskV0002` is in its deferred calls. -/
def Stage.past : Stage → Bool
  | .terminalize | .releasePort | .forget | .cleanup | .remove | .done => true
  | _ => false

/-- The goroutines that have taken the flag and are still to submit the event. -/
@[simp] def Slot.pending (slot : Slot) : Nat :=
  slot.stage.reporting.toNat + (decide (slot.exitWatch = .report)).toNat +
    (decide (slot.controlWatch = .report)).toNat

/-- With `n` terminal events of its task submitted, the slot is in balance. -/
structure Slot.Balanced (slot : Slot) (n : Nat) : Prop where
  total : n + slot.pending = slot.terminal.toNat
  past : slot.stage.past = true → slot.terminal = true
  done : slot.stage = .done → slot.pending = 0
  unbegun : slot.stage = .installed → slot.exitWatch = .off
  early : slot.stage.early = true → slot.controlWatch = .off
  eventType : ∀ eventType payload, slot.stage = .report eventType payload →
    isTerminalType eventType = true

/-- The condition on a step of `runTaskV0002`. -/
def Slot.accountable (slot : Slot) (obs : Observation) : Bool :=
  -- a normal close comes after someone took the terminal flag
  (slot.stage ≠ .stream || obs ≠ .closed || slot.terminal) &&
  -- the slot goes after the watchers have submitted what they took the flag for
  (slot.stage ≠ .remove || (slot.exitWatch ≠ .report && slot.controlWatch ≠ .report))

/-- The condition on a step. -/
def accountable (cfg : Config) (w : World) : Label → Bool
  | .main a =>
    match w.main with
    | .start _ (.running response) =>
      a.reach ≠ .lost && (!response.launchParameters || response.scopeToken.getD "" ≠ "")
    | .start _ (.image response _) => (Executors.dockerImageRef response).isSome
    | .start _ (.port _ _ _) => (w.allocatePort cfg).isSome
    | _ => true
  | .task id (.run obs) _ => (w.objects.lookup id).all (fun slot => slot.accountable obs)
  | _ => true

theorem reporting_of_live {stage : Stage} (h : stage.live = true) :
    stage.reporting = false ∧ stage.past = false := by
  cases stage <;> first | exact ⟨rfl, rfl⟩ | cases h

/-- Who takes the flag is the first: nothing is submitted, nothing pending, and
    `runTaskV0002` is not yet in its deferred calls. -/
theorem Slot.Balanced.first (h : slot.Balanced n) (hfirst : slot.terminal = false) :
    n = 0 ∧ slot.pending = 0 ∧ slot.stage.past = false := by
  have htotal := h.total
  rw [hfirst, Bool.toNat_false] at htotal
  refine ⟨by omega, by omega, ?_⟩
  by_contra hpast
  rw [h.past (Bool.not_eq_false _ ▸ hpast)] at hfirst
  cases hfirst

theorem Slot.Balanced.terminal_of_pending (h : slot.Balanced n) (hpending : 0 < slot.pending) :
    slot.terminal = true := by
  by_contra hfalse
  obtain ⟨_, hnone, _⟩ := h.first (Bool.not_eq_true _ ▸ hfalse)
  omega

/-- `runTaskV0002` moves on and submits nothing. -/
theorem Slot.Balanced.move (h : slot.Balanced n) {stage : Stage}
    (hfrom : slot.stage.reporting = false) (hto : stage.reporting = false)
    (hpast : stage.past = true → slot.terminal = true)
    (hdone : stage = .done → slot.exitWatch ≠ .report ∧ slot.controlWatch ≠ .report)
    (hbegun : stage ≠ .installed) (hearly : stage.early = true → slot.stage.early = true) :
    (slot.at stage).Balanced n where
  total := by
    have htotal := h.total
    unfold Slot.pending at htotal
    rw [hfrom] at htotal
    show n + (stage.reporting.toNat + _ + _) = _
    rw [hto]
    exact htotal
  past := hpast
  done := by
    intro hstage
    obtain ⟨hexit, hcontrol⟩ := hdone hstage
    show stage.reporting.toNat + (decide (slot.exitWatch = .report)).toNat +
      (decide (slot.controlWatch = .report)).toNat = 0
    simp [hto, hexit, hcontrol]
  unbegun := fun hstage => absurd hstage hbegun
  early := fun hstage => h.early (hearly hstage)
  eventType := by
    intro eventType payload hstage
    have hstage' : stage = .report eventType payload := hstage
    rw [hstage'] at hto
    cases hto

/-- The deferred calls of `runTaskV0002`, which come after the flag is taken. -/
theorem Slot.Balanced.defer (h : slot.Balanced n) {stage : Stage} (hfrom : slot.stage.past = true)
    (hto : stage.past = true)
    (hdone : stage = .done → slot.exitWatch ≠ .report ∧ slot.controlWatch ≠ .report) :
    (slot.at stage).Balanced n := by
  have hterminal := h.past hfrom
  apply h.move
  · cases hstage : slot.stage <;> first | rfl | (rw [hstage] at hfrom; cases hfrom)
  · cases stage <;> first | rfl | cases hto
  · exact fun _ => hterminal
  · exact hdone
  · intro hstage
    rw [hstage] at hto
    cases hto
  · intro hearly
    cases stage <;>
      first | exact absurd hto Bool.false_ne_true | exact absurd hearly Bool.false_ne_true

/-- A goroutine takes the flag. -/
theorem Slot.Balanced.take (h : slot.Balanced n) (hfirst : slot.terminal = false)
    (hterminal : slot'.terminal = true) (hpending : slot'.pending = slot.pending + 1)
    (hpast : slot'.stage.past = false)
    (hunbegun : slot'.stage = .installed → slot'.exitWatch = .off)
    (hearly : slot'.stage.early = true → slot'.controlWatch = .off)
    (heventType : ∀ eventType payload, slot'.stage = .report eventType payload →
      isTerminalType eventType = true) : slot'.Balanced n := by
  obtain ⟨hn, hnone, _⟩ := h.first hfirst
  refine ⟨?_, fun _ => hterminal, ?_, hunbegun, hearly, heventType⟩
  · rw [hpending, hnone, hn, hterminal]
    rfl
  · intro hdone
    rw [hdone] at hpast
    cases hpast

/-- A watcher moves; `runTaskV0002` stays where it is. -/
theorem Slot.Balanced.watch {k : Nat} {exitWatch : ExitStage} {controlWatch : ControlStage}
    (h : slot.Balanced n)
    (hpending : { slot with exitWatch, controlWatch }.pending + k = slot.pending)
    (hunbegun : slot.stage = .installed → exitWatch = .off)
    (hearly : slot.stage.early = true → controlWatch = .off) :
    { slot with exitWatch, controlWatch }.Balanced (n + k) := by
  have htotal := h.total
  refine ⟨?_, h.past, ?_, hunbegun, hearly, h.eventType⟩
  · show n + k + Slot.pending _ = slot.terminal.toNat
    omega
  · intro hdone
    have := h.done hdone
    omega

/-- The exit watcher has begun with the other goroutines of the slot. -/
theorem Slot.Balanced.begun {p : Prop} (h : slot.Balanced n) (hwatch : slot.exitWatch ≠ .off)
    (hstage : slot.stage = .installed) : p :=
  absurd (h.unbegun hstage) hwatch

/-- The control watcher begins with the conversation. -/
theorem Slot.Balanced.controlled {p : Prop} (h : slot.Balanced n) (hwatch : slot.controlWatch ≠ .off)
    (hearly : slot.stage.early = true) : p :=
  absurd (h.early hearly) hwatch

/-- A step of a goroutine keeps the slot in balance. -/
theorem SlotStep.balanced {move : Move} (hs : SlotStep cfg w a slot move act slot')
    (hguard : ∀ obs, move = .run obs → slot.accountable obs = true) (h : slot.Balanced n) :
    slot'.Balanced (n + act.reports slot.taskID) := by
  cases hs with
  | goes hlive hlive' hearly =>
    obtain ⟨hr, _⟩ := reporting_of_live hlive
    obtain ⟨hr', hp'⟩ := reporting_of_live hlive'
    apply h.move hr hr'
    · rw [hp']
      rintro ⟨⟩
    · intro hdone
      rw [hdone] at hlive'
      cases hlive'
    · intro hinstalled
      rw [hinstalled] at hlive'
      cases hlive'
    · exact hearly
  | submitted hlive hearly =>
    -- the control watcher begins here
    have hoff := h.early hearly
    have htotal := h.total
    obtain ⟨hr, _⟩ := reporting_of_live hlive
    simp only [Slot.pending, hr, hoff] at htotal
    refine ⟨?_, by rintro ⟨⟩, by rintro ⟨⟩, by rintro ⟨⟩, by rintro ⟨⟩, by rintro _ _ ⟨⟩⟩
    simpa [Act.reports, Stage.reporting] using htotal
  | closed hlive hstage =>
    have hterminal : slot.terminal = true := by
      have hg := hguard .closed rfl
      simpa [Slot.accountable, hstage] using hg
    exact h.move (reporting_of_live hlive).1 rfl (fun _ => hterminal) (by rintro ⟨⟩)
      (by rintro ⟨⟩) (by rintro ⟨⟩)
  | outrun hlive hterminal =>
    exact h.move (reporting_of_live hlive).1 rfl (fun _ => hterminal) (by rintro ⟨⟩)
      (by rintro ⟨⟩) (by rintro ⟨⟩)
  | wins hlive hfirst htype =>
    apply h.take hfirst rfl
    · show 1 + _ + _ = _
      simp only [Slot.pending, (reporting_of_live hlive).1]
      simp only [Bool.toNat_false]
      omega
    · rfl
    · rintro ⟨⟩
    · rintro ⟨⟩
    · intro eventType payload hstage
      cases hstage
      rcases htype with rfl | rfl <;> rfl
  | @report _ eventType payload hstage =>
    have hterminal := h.terminal_of_pending (by simp [hstage, Stage.reporting])
    have htotal := h.total
    rw [reports_envelope, h.eventType eventType payload hstage]
    refine ⟨?_, fun _ => hterminal, by rintro ⟨⟩, by rintro ⟨⟩, by rintro ⟨⟩, by rintro _ _ ⟨⟩⟩
    simp only [Slot.pending, hstage, Stage.reporting, Bool.toNat_true] at htotal
    show n + 1 + (0 + (decide (slot.exitWatch = .report)).toNat +
      (decide (slot.controlWatch = .report)).toNat) = slot.terminal.toNat
    omega
  | terminalized hstage hterminal =>
    have heq : { slot with terminal := true, stage := .releasePort } = slot.at .releasePort := by
      simp [Slot.at, hterminal]
    rw [heq]
    exact h.defer (by rw [hstage]; rfl) rfl (by rintro ⟨⟩)
  | terminalize hstage hfirst =>
    have hpast := (h.first hfirst).2.2
    rw [hstage] at hpast
    cases hpast
  | releasePort hstage | forget hstage | cleanup hstage =>
    exact h.defer (by rw [hstage]; rfl) rfl (by rintro ⟨⟩)
  | remove hstage =>
    apply h.defer (by rw [hstage]; rfl) rfl
    intro _
    have hg := hguard _ rfl
    simpa [Slot.accountable, hstage] using hg
  | died hwatch hfirst =>
    apply h.take hfirst
    · rfl
    · simp [hwatch]
      omega
    · exact (h.first hfirst).2.2
    · exact h.begun (by simp [hwatch])
    · exact h.early
    · exact h.eventType
  | quit hwatch =>
    apply h.watch
    · simp [hwatch, Act.reports]
    · exact h.begun (by simp [hwatch])
    · exact h.early
  | exitReport hwatch =>
    rw [reports_envelope]
    apply h.watch
    · simp [hwatch, isTerminalType]
      omega
    · exact h.begun (by simp [hwatch])
    · exact h.early
  | controls hoff hreport hreport' =>
    apply h.watch
    · simp [hreport, hreport', Act.reports]
    · exact h.unbegun
    · exact h.controlled hoff
  | cancels hwatch hfirst =>
    apply h.take hfirst
    · rfl
    · simp [hwatch]
    · exact (h.first hfirst).2.2
    · exact h.unbegun
    · exact h.controlled (by simp [hwatch])
    · exact h.eventType
  | controlReport hwatch =>
    rw [reports_envelope]
    apply h.watch
    · simp [hwatch, isTerminalType]
    · exact h.unbegun
    · exact h.controlled (by simp [hwatch])

/-! ## Section 3: The accounts of the process -/

/-- The task of a start that has not submitted its `running` event, or in vain. -/
def Main.fresh : Main → Option String
  | .start task stage =>
    match stage with
    | .mark _ | .reserve _ | .wait _ | .running _ | .forget none => some task.taskID
    | _ => none
  | _ => none

/-- The task of a start that goes on after the `running` event: it owes a slot or a terminal
    event. -/
def Main.owing : Main → Option String
  | .start task stage =>
    match stage with
    | .open _ _ | .image _ _ | .port _ _ _ | .pull _ | .create _ | .install _ _
    | .forget (some _) | .report _ _ => some task.taskID
    | _ => none
  | _ => none

/-- A start with a granted claim that `acceptedTasks` has not forgotten. -/
def Main.claimed : Main → Option Starting
  | .start task stage =>
    match stage with
    | .claim | .release _ | .spawn _ | .report _ _ | .abort => none
    | _ => some task
  | _ => none

theorem unplaced_of_owing (h : m.owing = some taskID) :
    m.unplaced = some taskID := by
  cases m with
  | start task stage =>
    cases stage with
    | forget report =>
      cases report with
      | none => cases h
      | some _ => exact h
    | _ => first | exact h | cases h
  | _ => cases h

theorem unplaced_of_fresh (h : m.fresh = some taskID) :
    m.unplaced = some taskID := by
  cases m with
  | start task stage =>
    cases stage with
    | forget report =>
      cases report with
      | none => exact h
      | some _ => cases h
    | _ => first | exact h | cases h
  | _ => cases h

structure Accounts (w : World) : Prop where
  /-- A task with an event is not started again: it is still accepted here, or the Registry
      has granted it to a command that is forgotten. -/
  touched : ∀ taskID, taskID ∈ w.accepted ∨ 0 < w.reported taskID →
    w.acceptedTasks.lookup taskID ≠ none ∨
      ∃ commandID, w.granted.lookup taskID = some commandID ∧
        w.commandIDs.lookup taskID ≠ some commandID
  settled : ∀ taskID ∈ w.accepted, w.main.owing = some taskID ∨
    (∃ id slot, w.objects.lookup id = some slot ∧ slot.taskID = taskID) ∨ w.reported taskID = 1
  owing : ∀ taskID, w.main.owing = some taskID → taskID ∈ w.accepted ∧ w.reported taskID = 0
  fresh : ∀ taskID, w.main.fresh = some taskID → taskID ∉ w.accepted ∧ w.reported taskID = 0
  claiming : ∀ task, w.main = .start task .claim →
    w.commandIDs.lookup task.taskID = some task.commandID ∧
      w.acceptedTasks.lookup task.taskID = none
  granted : ∀ task, w.main.claimed = some task →
    w.granted.lookup task.taskID = some task.commandID
  unique : ∀ id id' slot slot', w.objects.lookup id = some slot →
    w.objects.lookup id' = some slot' → slot.taskID = slot'.taskID → id = id'
  balanced : ∀ id slot, w.objects.lookup id = some slot → slot.Balanced (w.reported slot.taskID)

theorem Accounts.initial : Accounts (World.initial cfg) where
  touched taskID h := by rcases h with h | h <;> cases h
  settled taskID h := by cases h
  owing taskID h := by cases h
  fresh taskID h := by cases h
  claiming task h := by cases h
  granted task h := by cases h
  unique id id' slot slot' h := by cases h
  balanced id slot h := by cases h

/-- Nothing that the accounts speak of changes. -/
structure SameBooks (w w' : World) : Prop where
  objects : w'.objects = w.objects
  acceptedTasks : w'.acceptedTasks = w.acceptedTasks
  commandIDs : w'.commandIDs = w.commandIDs
  granted : w'.granted = w.granted
  accepted : w'.accepted = w.accepted
  reported : ∀ taskID, w'.reported taskID = w.reported taskID

/-- A step that only moves the poll goroutine. -/
theorem Accounts.frame (h : Accounts w) (hsame : SameBooks w w')
    (howing : w'.main.owing = w.main.owing)
    (hfresh : ∀ taskID, w'.main.fresh = some taskID → w.main.fresh = some taskID)
    (hclaiming : ∀ task, w'.main = .start task .claim →
      w.commandIDs.lookup task.taskID = some task.commandID ∧
        w.acceptedTasks.lookup task.taskID = none)
    (hclaimed : ∀ task, w'.main.claimed = some task → w.main.claimed = some task) :
    Accounts w' where
  touched := by
    intro taskID ht
    rw [hsame.accepted, hsame.reported] at ht
    rw [hsame.acceptedTasks, hsame.granted, hsame.commandIDs]
    exact h.touched taskID ht
  settled := by
    intro taskID ht
    rw [hsame.accepted] at ht
    rw [hsame.objects, hsame.reported, howing]
    exact h.settled taskID ht
  owing := by
    intro taskID ht
    rw [howing] at ht
    rw [hsame.accepted, hsame.reported]
    exact h.owing taskID ht
  fresh := by
    intro taskID ht
    rw [hsame.accepted, hsame.reported]
    exact h.fresh taskID (hfresh taskID ht)
  claiming := by
    rw [hsame.commandIDs, hsame.acceptedTasks]
    exact hclaiming
  granted := by
    intro task ht
    rw [hsame.granted]
    exact h.granted task (hclaimed task ht)
  unique := by
    rw [hsame.objects]
    exact h.unique
  balanced := by
    intro id slot hslot
    rw [hsame.objects] at hslot
    rw [hsame.reported]
    exact h.balanced id slot hslot

/-- `startTaskV0002` goes on without touching the books. -/
theorem Accounts.proceed (h : Accounts w) (hm : w.main = .start task stage)
    (hsame : SameBooks w ((w.perform act).goto m))
    (howing : m.owing = (Main.start task stage).owing)
    (hfresh : ∀ taskID, m.fresh = some taskID → (Main.start task stage).fresh = some taskID)
    (hclaiming : ∀ task, m ≠ .start task .claim)
    (hclaimed : ∀ task', m.claimed = some task' → (Main.start task stage).claimed = some task') :
    Accounts ((w.perform act).goto m) := by
  apply h.frame hsame
  · rw [hm]
    exact howing
  · rw [hm]
    exact hfresh
  · exact fun task' ht => absurd ht (hclaiming task')
  · rw [hm]
    exact hclaimed

/-! ## Section 4: The poll goroutine -/

/-- The commands of the granted tasks own them in the Registry. -/
def World.GrantedIn (w : World) (db : Registry.Db) : Prop :=
  ∀ taskID commandID, w.granted.lookup taskID = some commandID →
    ∃ t, db.tasks.lookup taskID = some t ∧ t.currentState ≠ .pending ∧
      t.ownerCommandID = some commandID

/-- Later calls of anyone leave that so. -/
theorem World.GrantedIn.later {db db' : Registry.Db} (h : w.GrantedIn db)
    (hlater : db.Evolves db') : w.GrantedIn db' := by
  intro taskID commandID hgranted
  obtain ⟨t, ht, hclaimed, howner⟩ := h taskID commandID hgranted
  obtain ⟨t', ht', hfollows⟩ := hlater.tasks _ _ ht
  obtain ⟨hclaimed', hsame⟩ := hfollows.claimed hclaimed
  exact ⟨t', ht', hclaimed',
    (congrArg Registry.TaskClaim.ownerCommandID hsame :).trans howner⟩

/-- What `grants` assumes of the Registry is what `ClaimTask` does. -/
theorem World.GrantedIn.claimTask {reg : Registry.Config} {env : Registry.CallEnv}
    {identity : Registry.ExecutorIdentity} {db db' : Registry.Db} (h : w.GrantedIn db)
    (hclaim : Registry.claimTask reg env ⟨task.taskID, task.commandID⟩ cfg.executorID identity db =
      .ok (response, db')) :
    w.grants task response = true ∧
      (w.perform (.grant task.taskID task.commandID)).GrantedIn db' := by
  obtain ⟨_, _, t, -, hlater, hbuild, ht, hclaimed, howner, -⟩ := Registry.claimed_row hclaim
  obtain ⟨⟨t', entry, _, ht', hscan, -, rfl⟩, -⟩ :=
    Registry.buildClaimResponseForRow_eq_ok.mp hbuild
  have hid : entry.taskID = task.taskID :=
    (Registry.scanTaskRow_eq_ok hscan).1.trans (Table.key_of_lookup ht')
  constructor
  · simp only [World.grants, Bool.and_eq_true]
    refine ⟨decide_eq_true hid, ?_⟩
    split
    · -- the owner of a claimed task never changes
      rename_i commandID hgranted
      obtain ⟨t₀, ht₀, -, howner₀⟩ := h.later hlater _ _ hgranted
      obtain rfl := Option.some.inj (ht₀.symm.trans ht)
      exact decide_eq_true (Option.some.inj (howner₀.symm.trans howner))
    · rfl
  · intro taskID commandID hgranted
    replace hgranted : (w.granted.insert task.taskID task.commandID).lookup taskID =
      some commandID := hgranted
    rw [StrMap.lookup_insert] at hgranted
    split at hgranted
    · rename_i hsame
      cases hgranted
      exact ⟨t, hsame ▸ ht, hclaimed, howner⟩
    · exact h.later hlater _ _ hgranted

/-- A task the Registry grants now has no events of this process: the command of an earlier
    start is forgotten. -/
theorem Accounts.untouched (h : Accounts w) (hm : w.main = .start task .claim)
    (hgrants : w.grants task response = true) :
    task.taskID ∉ w.accepted ∧ w.reported task.taskID = 0 := by
  obtain ⟨hcommand, hnew⟩ := h.claiming task hm
  have hnot : ¬ (task.taskID ∈ w.accepted ∨ 0 < w.reported task.taskID) := by
    intro htouched
    rcases h.touched task.taskID htouched with hmarked | ⟨commandID, hgranted, hforgotten⟩
    · exact hmarked hnew
    · simp only [World.grants, hgranted, Bool.and_eq_true, decide_eq_true_eq] at hgrants
      rw [hcommand, hgrants.2] at hforgotten
      exact hforgotten rfl
  rw [not_or] at hnot
  exact ⟨hnot.1, Nat.eq_zero_of_not_pos hnot.2⟩

theorem Accounts.grant (h : Accounts w) (hm : w.main = .start task .claim)
    (hgrants : w.grants task response = true)
    (hnext : m = .idle ∨ m = .start task (.mark response)) :
    Accounts ((w.perform (.grant task.taskID task.commandID)).goto m) := by
  obtain ⟨haccepted, hreported⟩ := h.untouched hm hgrants
  have howing : m.owing = none := by
    rcases hnext with rfl | rfl <;> rfl
  refine ⟨?_, ?_, ?_, ?_, ?_, ?_, h.unique, h.balanced⟩
  · intro taskID ht
    have ht' : taskID ∈ w.accepted ∨ 0 < w.reported taskID := ht
    have hne : task.taskID ≠ taskID := by
      rintro rfl
      rcases ht' with hmem | hpos
      · exact haccepted hmem
      · omega
    show w.acceptedTasks.lookup taskID ≠ none ∨ ∃ commandID,
      (w.granted.insert task.taskID task.commandID).lookup taskID = some commandID ∧ _
    rw [StrMap.lookup_insert, if_neg hne]
    exact h.touched taskID ht'
  · intro taskID ht
    have hold := h.settled taskID ht
    rw [hm] at hold
    exact .inr (hold.resolve_left nofun)
  · intro taskID ht
    exact absurd (howing.symm.trans ht) nofun
  · intro taskID ht
    rcases hnext with rfl | rfl
    · cases ht
    · cases ht
      exact ⟨haccepted, hreported⟩
  · intro task' ht
    rcases hnext with rfl | rfl <;> cases ht
  · intro task' ht
    rcases hnext with rfl | rfl
    · cases ht
    · cases ht
      show (w.granted.insert task.taskID task.commandID).lookup task.taskID = _
      rw [StrMap.lookup_insert, if_pos rfl]

theorem Accounts.mark (h : Accounts w) (hm : w.main = .start task (.mark response)) :
    Accounts ((w.perform (.markAccepted task.taskID .running)).goto
      (.start task (.reserve response))) := by
  refine ⟨?_, ?_, nofun, ?_, nofun, ?_, h.unique, h.balanced⟩
  · intro taskID ht
    rcases h.touched taskID ht with hmarked | hforgotten
    · apply Or.inl
      show (w.acceptedTasks.insert task.taskID .running).lookup taskID ≠ none
      rw [StrMap.lookup_insert]
      split
      · simp
      · exact hmarked
    · exact .inr hforgotten
  · intro taskID ht
    have hold := h.settled taskID ht
    rw [hm] at hold
    exact hold
  · intro taskID ht
    exact h.fresh taskID (by rw [hm]; exact ht)
  · intro task' ht
    exact h.granted task' (by rw [hm]; exact ht)

/-- The Registry accepts the `running` event, and the start goes on. -/
theorem Accounts.run (h : Accounts w) (hsound : Sound w)
    (hm : w.main = .start task (.running response)) (hanswered : a.reach = .answered)
    (howing : (Main.start task stage).owing = some task.taskID)
    (hfresh : (Main.start task stage).fresh = none) (hclaim : stage ≠ .claim)
    (hclaimed : (Main.start task stage).claimed = some task) :
    Accounts ((w.perform (.append a.reach (runningEvent cfg a task response))).goto
      (.start task stage)) := by
  obtain ⟨_, hzero⟩ := h.fresh task.taskID (by rw [hm]; rfl)
  have haccepted : (w.perform (.append a.reach (runningEvent cfg a task response))).accepted =
      task.taskID :: w.accepted := by
    simp [World.perform, runningEvent, envelope, hanswered]
  have hreported : ∀ taskID,
      ((w.perform (.append a.reach (runningEvent cfg a task response))).goto
        (.start task stage)).reported taskID = w.reported taskID := by
    intro taskID
    exact (reported_perform _ taskID).trans (by rw [reports_running]; rfl)
  have hmem : ∀ taskID, taskID ∈ ((w.perform (.append a.reach (runningEvent cfg a task
      response))).goto (.start task stage)).accepted → taskID = task.taskID ∨
        taskID ∈ w.accepted := by
    intro taskID ht
    exact List.mem_cons.mp (haccepted ▸ ht)
  refine ⟨?_, ?_, ?_, ?_, ?_, ?_, h.unique, ?_⟩
  · intro taskID ht
    rw [hreported] at ht
    by_cases hself : taskID = task.taskID
    · subst hself
      exact .inl (hsound.marked task.taskID (by rw [hm]; rfl))
    · exact h.touched taskID (ht.imp_left (fun hin => (hmem taskID hin).resolve_left hself))
  · intro taskID ht
    rw [hreported]
    rcases hmem taskID ht with rfl | hold
    · exact .inl howing
    · have hsettled := h.settled taskID hold
      rw [hm] at hsettled
      exact .inr (hsettled.resolve_left (by rintro ⟨⟩))
  · intro taskID ht
    have htask : some task.taskID = some taskID := howing.symm.trans ht
    cases htask
    rw [hreported]
    refine ⟨?_, hzero⟩
    show _ ∈ (w.perform _).accepted
    rw [haccepted]
    exact List.mem_cons_self
  · intro taskID ht
    cases hfresh.symm.trans ht
  · intro task' ht
    cases ht
    exact absurd rfl hclaim
  · intro task' ht
    have htask : some task = some task' := hclaimed.symm.trans ht
    cases htask
    exact h.granted task (by rw [hm]; rfl)
  · intro id slot hslot
    rw [hreported]
    exact h.balanced id slot hslot

/-- The slot takes over what the start owes. -/
theorem Accounts.install (h : Accounts w) (hsound : Sound w) {launch : Launch}
    (hm : w.main = .start task (.install launch id)) :
    Accounts ((w.perform (.addSlot (task.slot launch id))).goto (.start task (.release id))) := by
  obtain ⟨_, hzero⟩ := h.owing task.taskID (by rw [hm]; rfl)
  have hnone := hsound.unplaced task.taskID (by rw [hm]; rfl)
  have hfree : w.objects.lookup id = none := hsound.launched id (by rw [hm]; rfl)
  refine ⟨h.touched, ?_, nofun, nofun, nofun, nofun, ?_, ?_⟩
  · intro taskID ht
    apply Or.inr
    show (∃ i slot, (w.objects.insert id (task.slot launch id)).lookup i = some slot ∧ _) ∨ _
    have hsettled := h.settled taskID ht
    rw [hm] at hsettled
    rcases hsettled with howing | ⟨i, slot, hslot, htask⟩ | hone
    · refine .inl ⟨id, task.slot launch id, ?_, Option.some.inj howing⟩
      rw [StrMap.lookup_insert, if_pos rfl]
    · refine .inl ⟨i, slot, ?_, htask⟩
      have hne : id ≠ i := by
        intro heq
        rw [heq, hslot] at hfree
        cases hfree
      rw [StrMap.lookup_insert, if_neg hne]
      exact hslot
    · exact .inr hone
  · intro i i' slot slot' hslot hslot' hsame
    have hi : (w.objects.insert id (task.slot launch id)).lookup i = some slot := hslot
    have hi' : (w.objects.insert id (task.slot launch id)).lookup i' = some slot' := hslot'
    rw [StrMap.lookup_insert] at hi hi'
    -- the new slot is the only one of its task
    split at hi <;> split at hi'
    · rename_i h1 h2
      exact h1.symm.trans h2
    · cases hi
      exact absurd hsame.symm (hnone i' slot' hi')
    · cases hi'
      exact absurd hsame (hnone i slot hi)
    · exact h.unique i i' slot slot' hi hi' hsame
  · show ∀ i slot, (w.objects.insert id (task.slot launch id)).lookup i = some slot →
      slot.Balanced (w.reported slot.taskID)
    apply StrMap.forall_lookup_insert
    · show (task.slot launch id).Balanced (w.reported task.taskID)
      rw [hzero]
      exact ⟨rfl, nofun, nofun, fun _ => rfl, fun _ => rfl, nofun⟩
    · exact h.balanced

/-- A slot is replaced, and what is written in the books is about its task. -/
theorem Accounts.replace (h : Accounts w) (hsound : Sound w) (hr : Replaces w w' id slot slot')
    (hgranted : w'.granted = w.granted) (haccepted : w'.accepted = w.accepted)
    (hothers : ∀ taskID, taskID ≠ slot.taskID →
      w'.commandIDs.lookup taskID = w.commandIDs.lookup taskID ∧
      w'.acceptedTasks.lookup taskID = w.acceptedTasks.lookup taskID ∧
      w'.reported taskID = w.reported taskID)
    (hbal : slot'.Balanced (w'.reported slot.taskID)) : Accounts w' := by
  obtain ⟨-, hown, -⟩ := hsound.object id slot hr.object
  -- a start in progress is of another task
  have hstart : ∀ taskID, w.main.unplaced = some taskID → taskID ≠ slot.taskID :=
    fun taskID ht => Ne.symm (hsound.unplaced taskID ht id slot hr.object)
  refine ⟨?_, ?_, ?_, ?_, ?_, ?_, ?_, ?_⟩
  · intro taskID ht
    by_cases hself : taskID = slot.taskID
    · subst hself
      exact .inl (hr.accepted _ hown)
    · obtain ⟨hcommand, htasks, hreported⟩ := hothers taskID hself
      rw [haccepted, hreported] at ht
      rw [hcommand, htasks, hgranted]
      exact h.touched taskID ht
  · intro taskID ht
    rw [haccepted] at ht
    rw [hr.main, hr.objects]
    by_cases hself : taskID = slot.taskID
    · refine .inr (.inl ⟨id, slot', ?_, hr.taskID.trans hself.symm⟩)
      rw [StrMap.lookup_insert, if_pos rfl]
    · rw [(hothers taskID hself).2.2]
      rcases h.settled taskID ht with howing | ⟨i, s, hs, ht'⟩ | hone
      · exact .inl howing
      · refine .inr (.inl ⟨i, s, ?_, ht'⟩)
        have hne : id ≠ i := by
          rintro rfl
          rw [hr.object] at hs
          cases hs
          exact hself ht'.symm
        rw [StrMap.lookup_insert, if_neg hne]
        exact hs
      · exact .inr (.inr hone)
  · intro taskID ht
    rw [hr.main] at ht
    rw [haccepted, (hothers taskID (hstart taskID (unplaced_of_owing ht))).2.2]
    exact h.owing taskID ht
  · intro taskID ht
    rw [hr.main] at ht
    rw [haccepted, (hothers taskID (hstart taskID (unplaced_of_fresh ht))).2.2]
    exact h.fresh taskID ht
  · intro task ht
    rw [hr.main] at ht
    obtain ⟨hcommand, htasks, -⟩ := hothers _ (hstart task.taskID (by rw [ht]; rfl))
    rw [hcommand, htasks]
    exact h.claiming task ht
  · intro task ht
    rw [hr.main] at ht
    rw [hgranted]
    exact h.granted task ht
  · rw [hr.objects]
    have hold : ∀ i s, (w.objects.insert id slot').lookup i = some s →
        ∃ s', w.objects.lookup i = some s' ∧ s.taskID = s'.taskID := by
      apply StrMap.forall_lookup_insert
      · exact ⟨slot, hr.object, hr.taskID⟩
      · exact fun i s hs => ⟨s, hs, rfl⟩
    intro i i' s s' hi hi' hsame
    obtain ⟨t, ht, heq⟩ := hold i s hi
    obtain ⟨t', ht', heq'⟩ := hold i' s' hi'
    exact h.unique i i' t t' ht ht' (heq.symm.trans (hsame.trans heq'))
  · rw [hr.objects]
    apply StrMap.forall_lookup_insert_ne
    · rw [hr.taskID]
      exact hbal
    · intro i s hne hs
      have htasks : s.taskID ≠ slot.taskID := fun hsame =>
        hne (h.unique id i slot s hr.object hs hsame.symm)
      rw [(hothers s.taskID htasks).2.2]
      exact h.balanced i s hs

theorem Accounts.spawn (h : Accounts w) (hsound : Sound w) (hm : w.main = .start task (.spawn id)) :
    Accounts ((w.perform (.spawn id)).goto (.each task.rest)) := by
  obtain ⟨slot, hstage, hleft, hr⟩ := hsound.spawns hm
  have hout : Accounts (w.goto (.each task.rest)) :=
    h.frame ⟨rfl, rfl, rfl, rfl, rfl, fun _ => rfl⟩ (by rw [hm]; rfl) nofun nofun nofun
  refine hout.replace hleft hr rfl rfl (fun _ _ => ⟨rfl, rfl, rfl⟩) ?_
  have hbal := h.balanced id slot hr.object
  have hexit := hbal.unbegun hstage
  have hcontrol := hbal.early (by rw [hstage]; rfl)
  have htotal := hbal.total
  refine ⟨?_, nofun, nofun, nofun, fun _ => hcontrol, nofun⟩
  simp only [Slot.pending, hstage, hexit] at htotal
  exact htotal

/-- `acceptedTasks` forgets the task of a start, and with it the command. -/
theorem Accounts.forget (h : Accounts w) {report : Option (String × String)}
    (hm : w.main = .start task (.forget report))
    (howing : (Main.start task stage).owing = (Main.start task (.forget report)).owing)
    (hfresh : (Main.start task stage).fresh = none) (hclaim : stage ≠ .claim)
    (hclaimed : (Main.start task stage).claimed = none) :
    Accounts ((w.perform (.terminalizeAccepted task.taskID)).goto (.start task stage)) := by
  have hgranted := h.granted task (by rw [hm]; rfl)
  refine ⟨?_, ?_, ?_, ?_, ?_, ?_, h.unique, h.balanced⟩
  · intro taskID ht
    show (w.acceptedTasks.erase task.taskID).lookup taskID ≠ none ∨ ∃ commandID,
      w.granted.lookup taskID = some commandID ∧
        (w.commandIDs.erase task.taskID).lookup taskID ≠ some commandID
    by_cases hself : taskID = task.taskID
    · subst hself
      refine .inr ⟨task.commandID, hgranted, ?_⟩
      rw [StrMap.lookup_erase, if_pos rfl]
      exact nofun
    · rw [StrMap.lookup_erase, if_neg hself, StrMap.lookup_erase, if_neg hself]
      exact h.touched taskID ht
  · intro taskID ht
    show (Main.start task stage).owing = some taskID ∨ _
    rw [howing]
    have hsettled := h.settled taskID ht
    rw [hm] at hsettled
    exact hsettled
  · intro taskID ht
    exact h.owing taskID (by rw [hm]; exact howing.symm.trans ht)
  · intro taskID ht
    exact absurd (hfresh.symm.trans ht) nofun
  · intro task' ht
    cases ht
    exact absurd rfl hclaim
  · intro task' ht
    exact absurd (hclaimed.symm.trans ht) nofun

/-- The report of a start that ends before its slot. -/
theorem Accounts.report (h : Accounts w) (hsound : Sound w) {teamID phase : String}
    (hm : w.main = .start task (.report teamID phase))
    (htask : event.taskID = task.taskID) (htype : isTerminalType event.eventType = true) :
    Accounts ((w.perform (.append reach event)).goto (.start task .abort)) := by
  obtain ⟨hin, hzero⟩ := h.owing task.taskID (by rw [hm]; rfl)
  have hnone := hsound.unplaced task.taskID (by rw [hm]; rfl)
  have haccepted : ((w.perform (.append reach event)).goto (.start task .abort)).accepted =
      w.accepted := accepted_of_terminal htype
  have hreported : ∀ taskID, ((w.perform (.append reach event)).goto
      (.start task .abort)).reported taskID =
        w.reported taskID + if taskID = task.taskID then 1 else 0 := by
    intro taskID
    refine (reported_perform _ taskID).trans ?_
    simp [Act.reports, htask, htype, eq_comm]
  refine ⟨?_, ?_, nofun, nofun, nofun, nofun, h.unique, ?_⟩
  · intro taskID ht
    rw [haccepted, hreported] at ht
    by_cases hself : taskID = task.taskID
    · subst hself
      exact h.touched _ (.inl hin)
    · rw [if_neg hself] at ht
      exact h.touched taskID ht
  · intro taskID ht
    rw [haccepted] at ht
    rw [hreported]
    by_cases hself : taskID = task.taskID
    · subst hself
      rw [hzero, if_pos rfl]
      exact .inr (.inr rfl)
    · rw [if_neg hself]
      have hsettled := h.settled taskID ht
      rw [hm] at hsettled
      rcases hsettled with howing | hrest
      · exact absurd (Option.some.inj howing).symm hself
      · exact .inr hrest
  · intro id slot hslot
    rw [hreported, if_neg (hnone id slot hslot)]
    exact h.balanced id slot hslot

/-- The guard at the `running` event. -/
theorem afterRunning_of_accountable (hm : w.main = .start task (.running response))
    (h : accountable cfg w (.main a) = true) :
    a.reach ≠ .lost ∧ afterRunning response ≠ .abort := by
  simp only [accountable, hm, Bool.and_eq_true, Bool.or_eq_true, decide_eq_true_eq,
    Bool.not_eq_true'] at h
  refine ⟨h.1, ?_⟩
  intro habort
  rcases afterRunning_cases response with ⟨hlaunch, hempty, _⟩ | ⟨token, heq⟩ | heq
  · rcases h.2 with hnone | hsome
    · rw [hlaunch] at hnone
      cases hnone
    · exact hsome hempty
  · rw [heq] at habort
    cases habort
  · rw [heq] at habort
    cases habort

theorem StartStep.accounts (hs : StartStep cfg w a task stage act m)
    (hm : w.main = .start task stage) (hsound : Sound w)
    (hguard : accountable cfg w (.main a) = true) (h : Accounts w) :
    Accounts ((w.perform act).goto m) := by
  cases hs with
  | unanswered hgrants => exact h.grant hm hgrants (.inl rfl)
  | claimed hgrants => exact h.grant hm hgrants (.inr rfl)
  | mark _ => exact h.mark hm
  | ran hanswered =>
    have hnot := (afterRunning_of_accountable hm hguard).2
    rcases afterRunning_cases _ with ⟨_, _, heq⟩ | ⟨token, heq⟩ | heq
    · exact absurd heq hnot
    · rw [heq]
      exact h.run hsound hm hanswered rfl rfl (by simp) rfl
    · rw [heq]
      exact h.run hsound hm hanswered rfl rfl (by simp) rfl
  | @unran response hunanswered =>
    -- not answered and not lost: the Registry has not seen it
    have hfailed : a.reach = .failed := by
      have hlost := (afterRunning_of_accountable hm hguard).1
      cases hr : a.reach with
      | answered => exact absurd hr hunanswered
      | lost => exact absurd hr hlost
      | failed => rfl
    have hbooks : SameBooks w ((w.perform (.append a.reach (runningEvent cfg a task response))).goto
        (.start task (.forget none))) := by
      refine ⟨rfl, rfl, rfl, rfl, ?_, ?_⟩
      · show (w.perform _).accepted = _
        simp [World.perform, hfailed]
      · intro taskID
        exact (reported_perform _ taskID).trans (by rw [reports_running]; rfl)
    exact h.proceed hm hbooks rfl (fun _ ht => ht) (by rintro _ ⟨⟩) (fun _ ht => ht)
  | unimaged himage =>
    simp only [accountable, hm, himage] at hguard
    cases hguard
  | noPort hfull =>
    simp only [accountable, hm, hfull] at hguard
    cases hguard
  | install => exact h.install hsound hm
  | spawn => exact h.spawn hsound hm
  | forget | forgetReport => exact h.forget hm rfl rfl (by simp) rfl
  | report => exact h.report hsound hm rfl rfl
  | unclaimed | known | declined | abort | release =>
    exact h.proceed hm ⟨rfl, rfl, rfl, rfl, rfl, fun _ => rfl⟩ rfl (by rintro _ ⟨⟩) (by rintro _ ⟨⟩)
      (by rintro _ ⟨⟩)
  | _ =>
    exact h.proceed hm ⟨rfl, rfl, rfl, rfl, rfl, fun _ => rfl⟩ rfl (fun _ ht => ht)
      (by rintro _ ⟨⟩) (fun _ ht => ht)

/-- A start begins, with its command in the cache. -/
theorem Accounts.begin (h : Accounts w) {items : List String} (hm : w.main = .each items)
    (hcommand : w.commandIDs.lookup task.taskID = some task.commandID)
    (hnew : w.acceptedTasks.lookup task.taskID = none) : Accounts (w.goto (.start task .claim)) := by
  apply h.frame
  · exact ⟨rfl, rfl, rfl, rfl, rfl, fun _ => rfl⟩
  · rw [hm]
    rfl
  · exact nofun
  · intro task' ht
    cases ht
    exact ⟨hcommand, hnew⟩
  · exact nofun

/-- A new command is not the one the task was granted to. -/
theorem Accounts.command (h : Accounts w) {item commandID : String} {items : List String}
    (hm : w.main = .each items) (hdrawn : w.newCommand commandID = true) :
    Accounts (w.perform (.command item commandID)) := by
  refine ⟨?_, h.settled, h.owing, h.fresh, ?_, h.granted, h.unique, h.balanced⟩
  · intro taskID ht
    rcases h.touched taskID ht with hmarked | ⟨granted, hgranted, hforgotten⟩
    · exact .inl hmarked
    · refine .inr ⟨granted, hgranted, ?_⟩
      show (w.commandIDs.insert item commandID).lookup taskID ≠ some granted
      rw [StrMap.lookup_insert]
      split
      · have hentry := List.all_eq_true.mp hdrawn _ (StrMap.lookup_eq_some_iff.mp hgranted)
        intro heq
        have hne : granted ≠ commandID := by simpa using hentry
        exact hne (Option.some.inj heq).symm
      · exact hforgotten
  · intro task ht
    have hmain : w.main = .start task .claim := ht
    rw [hm] at hmain
    cases hmain

theorem MainStep.accounts (hs : MainStep cfg w a w.main act m) (hsound : Sound w)
    (hguard : accountable cfg w (.main a) = true) (h : Accounts w) :
    Accounts ((w.perform act).goto m) := by
  generalize hm : w.main = m₀ at hs
  cases hs with
  | start hs => exact hs.accounts hm hsound hguard h
  | retry _ hnew _ hcached => exact h.begin hm hcached hnew
  | @first item rest _ hnew _ hdrawn =>
    have hdrawn' : Accounts (w.perform (.command item ("cmd-" ++ a.uuid))) := h.command hm hdrawn
    apply hdrawn'.begin
    · exact hm
    · show (w.commandIDs.insert item _).lookup item = _
      rw [StrMap.lookup_insert, if_pos rfl]
    · exact hnew
  | nothing | discovered | finished | full | skip | drain | undrained =>
    apply h.frame
    · exact ⟨rfl, rfl, rfl, rfl, rfl, fun _ => rfl⟩
    · rw [hm]
      rfl
    · exact nofun
    · exact nofun
    · exact nofun

/-! ## Section 5: The goroutines of a task -/

/-- What a goroutine of a slot writes in the books is about its own task. -/
theorem SlotStep.books {move : Move} (hs : SlotStep cfg w a slot move act slot')
    (h : slot.Balanced n) :
    (w.perform act).granted = w.granted ∧ (w.perform act).accepted = w.accepted ∧
      ∀ taskID, taskID ≠ slot.taskID →
        (w.perform act).commandIDs.lookup taskID = w.commandIDs.lookup taskID ∧
        (w.perform act).acceptedTasks.lookup taskID = w.acceptedTasks.lookup taskID ∧
        act.reports taskID = 0 := by
  cases hs with
  | terminalize =>
    refine ⟨rfl, rfl, fun taskID ht => ⟨rfl, ?_, rfl⟩⟩
    show (w.acceptedTasks.insert slot.taskID .terminal).lookup taskID = _
    rw [StrMap.lookup_insert, if_neg (Ne.symm ht)]
  | forget =>
    refine ⟨rfl, rfl, fun taskID ht => ⟨?_, rfl, rfl⟩⟩
    show (w.commandIDs.erase slot.taskID).lookup taskID = _
    rw [StrMap.lookup_erase, if_neg ht]
  | report hstage =>
    exact ⟨rfl, accepted_of_terminal (h.eventType _ _ hstage), fun taskID ht =>
      ⟨rfl, rfl, reports_append_ne ht⟩⟩
  | exitReport | controlReport =>
    refine ⟨rfl, ?_, fun taskID ht => ⟨rfl, rfl, reports_append_ne ht⟩⟩
    apply accepted_of_terminal
    rfl
  | _ => exact ⟨rfl, rfl, fun _ _ => ⟨rfl, rfl, rfl⟩⟩

theorem SlotStep.accounts {move : Move} (hs : SlotStep cfg w a slot move act slot')
    (hobject : w.objects.lookup id = some slot) (hsound : Sound w)
    (hguard : ∀ obs, move = .run obs → slot.accountable obs = true) (h : Accounts w) :
    Accounts ((w.perform act).setObject id slot') := by
  have hbal := h.balanced id slot hobject
  obtain ⟨hgranted, haccepted, hothers⟩ := hs.books hbal
  have hreported : ∀ taskID, ((w.perform act).setObject id slot').reported taskID =
      w.reported taskID + act.reports taskID := reported_perform act
  refine h.replace hsound (hs.replaces hobject) hgranted haccepted ?_ ?_
  · intro taskID ht
    obtain ⟨hcommand, htasks, hno⟩ := hothers taskID ht
    refine ⟨hcommand, htasks, ?_⟩
    rw [hreported, hno, Nat.add_zero]
  · rw [hreported]
    exact hs.balanced hguard hbal

/-! ## Section 6: Runs -/

theorem WorldStep.accounts {l : Label} (hs : WorldStep cfg w l w') (hsound : Sound w)
    (hguard : accountable cfg w l = true) (h : Accounts w) : Accounts w' := by
  cases hs with
  | main hs => exact hs.accounts hsound hguard h
  | stop hidle =>
    apply h.frame
    · exact ⟨rfl, rfl, rfl, rfl, rfl, fun _ => rfl⟩
    · rw [hidle]
      rfl
    · exact nofun
    · exact nofun
    · exact nofun
  | @task id move a slot act slot' hobject hs =>
    apply hs.accounts hobject hsound _ h
    rintro obs rfl
    simpa [accountable, hobject] using hguard
  | containerGone =>
    exact h.frame ⟨rfl, rfl, rfl, rfl, rfl, fun _ => rfl⟩ rfl (fun _ ht => ht) h.claiming
      (fun _ ht => ht)

/-- The runs whose steps all meet the condition. -/
def accountingExecutor (cfg : Config) : System World Label :=
  (executor cfg).restrict (fun w l => accountable cfg w l = true)

theorem accounts_reachable (h : (accountingExecutor cfg).Reachable w) : Accounts w := by
  refine h.invariant ?_ ?_
  · intro s hinit
    cases hinit
    exact Accounts.initial
  · intro s l s' hr hinv hstep
    exact (worldStep_of_step hstep.1).accounts (sound_reachable hr.of_restrict) hstep.2 hinv

/-- The executor has stopped working on a task that was running. -/
theorem one_terminal_event (h : (accountingExecutor cfg).Reachable w) {taskID : String}
    (haccepted : taskID ∈ w.accepted) (hstart : w.main.owing ≠ some taskID)
    (hslot : w.slots.lookup taskID = none) : (w.terminalEvents taskID).length = 1 := by
  have hinv := accounts_reachable h
  have hsound := sound_reachable h.of_restrict
  rcases hinv.settled taskID haccepted with howing | ⟨id, slot, hobject, htask⟩ | hone
  · exact absurd howing hstart
  · -- the slot is out of the map, so its goroutine has ended
    have hdone : slot.stage = .done := by
      by_contra hlive
      have hlisted := (hsound.object id slot hobject).2.2 hlive
      rw [htask, hslot] at hlisted
      cases hlisted
    have hbal := hinv.balanced id slot hobject
    have htotal := hbal.total
    rw [hbal.done hdone, hbal.past (by rw [hdone]; rfl), htask] at htotal
    exact htotal
  · exact hone

/-- A task without launch parameters fails at the submission, and the executor says so. -/
theorem one_terminal_event_sample : ∃ w, (accountingExecutor sampleConfig).Reachable w ∧
    "a" ∈ w.accepted ∧ w.slots.lookup "a" = none ∧ (w.terminalEvents "a").length = 1 := by
  obtain ⟨w, hreach, hin, hidle, hslot⟩ : ∃ w, (accountingExecutor sampleConfig).Reachable w ∧
      "a" ∈ w.accepted ∧ w.main = .idle ∧ w.slots.lookup "a" = none :=
    System.Reachable.exists_of_guarded (sampleStart "a" ++
      sampleRun "a" .healthy :: List.replicate 8 (sampleRun "a" .step)) rfl (by decide +kernel)
  have hstart : w.main.owing ≠ some "a" := by
    rw [hidle]
    exact nofun
  exact ⟨w, hreach, hin, hslot, one_terminal_event hreach hin hstart hslot⟩

/-- A step of a task with launch parameters. -/
def sampleLaunchAnswer (name : String) : Answer :=
  { sampleAnswer name with
    response := some { sampleResponse name with launchParameters := true, scopeToken := some "token" }
    values := some (.ofList [("OPENAI_API_KEY", "key"), ("OPENAI_BASE_URL", "url"),
      ("OPENAI_MODEL", "model")]) }

/-- OpenHands closes the WebSocket normally before it has reported a terminal status: the
    slot goes, and no terminal event was submitted. -/
theorem closed_without_event : ∃ w, (executor sampleConfig).Reachable w ∧ "a" ∈ w.accepted ∧
    w.main = .idle ∧ w.slots.lookup "a" = none ∧ w.terminalEvents "a" = [] := by
  exact System.Reachable.exists_of_follow (List.replicate 16 (.main (sampleLaunchAnswer "a")) ++
    [sampleRun "a" .healthy, sampleRun "a" .submitted, sampleRun "a" .closed] ++
    List.replicate 5 (sampleRun "a" .step)) rfl (by decide +kernel)

end FlowAI.Docker
