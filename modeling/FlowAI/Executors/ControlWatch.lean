import FlowAI.Executors.ClockSkew
import FlowAI.K8s.Machine
import FlowAI.Registry.AssignedControls

/-! # Watching the Controls of a Task

  While a conversation runs, the slot of its task asks the Registry twice a second for
  controls and carries out the first pending cancellation: it appends `acknowledged`,
  pauses the conversation, and appends `completed`, or `failed` if the pause is refused
  (`watchTaskControls` and `applyCancelControl` of the Docker executor,
  `applyPendingControls` of the Kubernetes executor).

  The Registry lists pending controls only.  So a cancellation that was acknowledged is
  finished by the attempt that acknowledged it or by nobody, and the Docker watcher makes
  one attempt.  The requests may fail or lose their answer, and between two of them the
  Registry serves everybody else.
-/

namespace FlowAI.Executors.ControlWatch

open Registry

variable {c : ControlRow} {occurredAt : Int} {message : String}
open K8s (Reach)

/-! ## Section 1: The system -/

/-- The slot of a task that an executor has claimed. -/
structure Slot where
  kind : Kind
  taskID : String
  executorID : String
  scope : ExecutorScope
  teamID : Option String

/-- What the surroundings contribute to a step of the watcher. -/
structure Answer where
  reach : Reach
  /-- What the Registry draws while it serves the request. -/
  env : CallEnv
  requestID : String
  /-- `time.Now()` of the executor, in nanoseconds. -/
  now : Int
  /-- What `uuid.NewString` draws. -/
  uuid : String
  /-- Whether `PauseConversation` goes through. -/
  paused : Bool

/-- The program counter of the watcher. -/
inductive Stage where
  /-- The slot is not supervised: its conversation has not begun, or it is over. -/
  | off
  | polling
  | acknowledge (controlID : String)
  | pause (controlID : String) (acknowledgedAt : Int)
  | complete (controlID : String) (acknowledgedAt : Int)
  | refuse (controlID : String) (acknowledgedAt : Int)
  /-- `watchTaskControls` has returned, and the slot is still supervised. -/
  | ended
  deriving DecidableEq, Repr

structure World where
  db : Db
  stage : Stage

inductive Label where
  /-- The Registry serves any other client. -/
  | registry (call : Call)
  /-- The conversation has begun. -/
  | watch
  /-- The task is over, or the executor stops. -/
  | leave
  | step (a : Answer)

def Slot.identity (slot : Slot) (a : Answer) : ExecutorIdentity :=
  ⟨slot.executorID, slot.scope, slot.teamID, a.requestID⟩

def eventID (a : Answer) : String := "control-event-" ++ a.uuid

/-- `appendControlEvent`. -/
def Slot.appendControlEvent (slot : Slot) (a : Answer) (controlID : String)
    (status : ControlStatus) (occurredAt : Int) (message : String) : Call :=
  ⟨a.env, .appendTaskControlEvent slot.taskID controlID
    ⟨eventID a, status, occurredAt,
      String.ofList (JsonText.print (.obj [("message", .str message)]))⟩ (slot.identity a)⟩

def Slot.acknowledged (slot : Slot) (a : Answer) (controlID : String) : Call :=
  slot.appendControlEvent a controlID .acknowledged a.now "cancellation received"

/-- A microsecond after the acknowledgement, like the next one. -/
def Slot.completed (slot : Slot) (a : Answer) (controlID : String) (acknowledgedAt : Int) :
    Call :=
  slot.appendControlEvent a controlID .completed (acknowledgedAt + 1000)
    "cancellation sent to OpenHands"

def Slot.failed (slot : Slot) (a : Answer) (controlID : String) (acknowledgedAt : Int) :
    Call :=
  slot.appendControlEvent a controlID .failed (acknowledgedAt + 1000)
    "cancellation could not be sent"

/-- The control the loop over a listing stops at. -/
def pendingCancel (controls : List ControlRow) : Option ControlRow :=
  controls.find? (fun c => c.status = .pending && c.action = .cancel)

/-- Where a failed attempt leaves the watcher: the Docker one returns, the Kubernetes one
    reads the controls again. -/
def Slot.afterError (slot : Slot) : Stage :=
  match slot.kind with
  | .docker => .ended
  | .k8s => .polling

variable (reg : Config)

/-- The Registry carries the call out when it gets it. -/
def accepts (db : Db) (call : Call) : Bool := ((exec reg call).errorOf db).isNone

def Slot.poll (slot : Slot) (db : Db) (a : Answer) : Stage :=
  if a.reach = .answered then
    match listAssignedTaskControls db slot.taskID (slot.identity a) with
    | .error _ => .polling
    | .ok controls => (pendingCancel controls).elim .polling (fun c => .acknowledge c.controlID)
  else .polling

/-- One append; the identifier of the event is new. -/
def World.append (w : World) (a : Answer) (call : Call) (done undone : Stage) :
    Option World :=
  if w.db.controlEvents.lookup (eventID a) = none then
    some ⟨a.reach.commit reg call w.db,
      if a.reach = .answered ∧ accepts reg w.db call = true then done else undone⟩
  else none

def World.step (slot : Slot) (w : World) (a : Answer) : Option World :=
  match w.stage with
  | .off => none
  | .ended => none
  | .polling => some { w with stage := slot.poll w.db a }
  | .acknowledge id => w.append reg a (slot.acknowledged a id) (.pause id a.now) slot.afterError
  | .pause id at' => some { w with stage := if a.paused then .complete id at' else .refuse id at' }
  -- the task is over: `slot.cancel` and `finishPodTask`
  | .complete id at' => w.append reg a (slot.completed a id at') .off slot.afterError
  | .refuse id at' => w.append reg a (slot.failed a id at') slot.afterError slot.afterError

/-- Reports of the slot itself. -/
def Slot.reports (slot : Slot) : Op → Bool
  | .appendTaskControlEvent taskID _ _ identity =>
    taskID = slot.taskID && identity.executorID = slot.executorID
  | _ => false

def World.next (slot : Slot) (w : World) : Label → Option World
  -- what a supervised slot reports, it reports in the steps of its watcher
  | .registry call =>
    if w.stage ≠ .off ∧ slot.reports call.op = true then none
    else some { w with db := (exec reg call).commit w.db }
  | .watch =>
    if w.stage = .off ∧
        (w.db.tasks.lookup slot.taskID).any (fun t => t.executorID = some slot.executorID) then
      some { w with stage := .polling }
    else none
  | .leave => if w.stage = .off then none else some { w with stage := .off }
  | .step a => w.step reg slot a

def watcher (slot : Slot) : System World Label :=
  System.ofNext (fun w => w = ⟨.empty, .off⟩) (World.next reg slot)

/-! ## Section 2: Acting on a cancellation -/

variable {reg}

/-- A cancellation of the task that is not finished. -/
def openCancel (taskID : String) (c : ControlRow) : Bool :=
  c.taskID = taskID && c.action = .cancel && (c.status = .pending || c.status = .acknowledged)

/-- The control the watcher is carrying out. -/
def Stage.handles : Stage → Option String
  | .acknowledge id => some id
  | .pause id _ => some id
  | .complete id _ => some id
  | .refuse id _ => some id
  | _ => none

variable (reg) in
/-- The watcher is about to report on the control, or does so after the next successful
    reading. -/
def WillAct (slot : Slot) (w : World) (c : ControlRow) : Prop :=
  w.stage.handles = some c.controlID ∨
    w.stage = .polling ∧ ∀ a : Answer, a.reach = .answered →
      (∃ controls, listAssignedTaskControls w.db slot.taskID (slot.identity a) = .ok controls) →
      w.step reg slot a = some { w with stage := .acknowledge c.controlID }

/-- Asks for a cancellation of the slot's task. -/
def Slot.asksCancel (slot : Slot) : Op → Bool
  | .createTaskControl _ taskID req => taskID = slot.taskID && req.action = .cancel
  | _ => false

variable (reg) in
/-- The requests of the watcher go well enough.  The Docker watcher has one attempt, so
    everything it asks for is done and answered.  The Kubernetes watcher may try again as
    long as the control is pending, and needs the rest to be carried out. -/
def goesWell (slot : Slot) (w : World) (a : Answer) : Bool :=
  match slot.kind, w.stage with
  | .docker, .acknowledge id => a.reach = .answered && accepts reg w.db (slot.acknowledged a id)
  | .docker, .pause _ _ => a.paused
  | .docker, .complete id at' =>
    a.reach = .answered && accepts reg w.db (slot.completed a id at')
  | .k8s, .acknowledge id => !(a.reach = .lost && accepts reg w.db (slot.acknowledged a id))
  | .k8s, .complete id at' =>
    !(a.reach = .failed) && accepts reg w.db (slot.completed a id at')
  | .k8s, .refuse id at' => !(a.reach = .failed) && accepts reg w.db (slot.failed a id at')
  | _, _ => true

variable (reg) in
/-- Cancellations come one at a time, the slot is not taken up again in the middle of one,
    and the requests of the watcher go well. -/
def unstranded (slot : Slot) (w : World) : Label → Bool
  | .registry call =>
    !slot.asksCancel call.op || w.db.controls.rows.all (fun c => !openCancel slot.taskID c)
  | .watch => w.db.controls.rows.all (fun c =>
      !(openCancel slot.taskID c && c.status = .acknowledged))
  | .leave => true
  | .step a => goesWell reg slot w a

/-! ## Section 3: The open cancellation -/

/-- An unfinished cancellation of the slot's task, as the Registry has it. -/
def OpenCancel (slot : Slot) (db : Db) (c : ControlRow) : Prop :=
  db.controls.lookup c.controlID = some c ∧ openCancel slot.taskID c = true

theorem openCancel_iff {taskID : String} :
    openCancel taskID c = true ↔
      c.taskID = taskID ∧ c.action = .cancel ∧ (c.status = .pending ∨ c.status = .acknowledged) := by
  simp only [openCancel, Bool.and_eq_true, Bool.or_eq_true, decide_eq_true_eq, and_assoc]

theorem OpenCancel.mem {slot : Slot} {db : Db} (h : OpenCancel slot db c) :
    c ∈ db.controls.rows :=
  Table.mem_of_lookup h.1

/-- What a stage says about the open cancellations. -/
def Stage.Fits (kind : Kind) (opened : ControlRow → Prop) : Stage → Prop
  | .off => True
  | .polling => ∀ c, opened c → c.status = .pending
  | .acknowledge id => ∃ c, opened c ∧ c.controlID = id ∧ c.status = .pending
  | .pause id _ => ∃ c, opened c ∧ c.controlID = id ∧ c.status = .acknowledged
  | .complete id _ => ∃ c, opened c ∧ c.controlID = id ∧ c.status = .acknowledged
  | .refuse id _ => kind = .k8s ∧ ∃ c, opened c ∧ c.controlID = id ∧ c.status = .acknowledged
  | .ended => False

variable {stage : Stage} {status : ControlStatus}

/-- New cancellations are pending, and none goes away. -/
theorem Stage.Fits.mono {kind : Kind} {opened opened' : ControlRow → Prop}
    (h : stage.Fits kind opened) (hkeep : ∀ c, opened c → opened' c)
    (hnew : ∀ c, opened' c → opened c ∨ c.status = .pending) : stage.Fits kind opened' := by
  have hex : ∀ {id status}, (∃ c, opened c ∧ c.controlID = id ∧ c.status = status) →
      ∃ c, opened' c ∧ c.controlID = id ∧ c.status = status := by
    intro id status hc
    obtain ⟨c, hopen, hrest⟩ := hc
    exact ⟨c, hkeep c hopen, hrest⟩
  cases stage with
  | off => trivial
  | polling =>
    intro c hc
    rcases hnew c hc with hold | hpending
    · exact h c hold
    · exact hpending
  | acknowledge | pause | complete => exact hex h
  | refuse id _ => exact ⟨h.1, hex h.2⟩
  | ended => exact h

variable (reg) in
/-- The invariant: at most one cancellation is open, and the watcher knows how far it is. -/
structure Attended (slot : Slot) (w : World) : Prop where
  registry : (Registry.registry reg).Reachable w.db
  assigned : w.stage ≠ .off → Assigned w.db slot.executorID slot.taskID
  single : ∀ c c', OpenCancel slot w.db c → OpenCancel slot w.db c' → c = c'
  fits : w.stage.Fits slot.kind (OpenCancel slot w.db)

/-- A task is with one executor. -/
theorem assigned_unique {db : Db} {executorID executorID' taskID : String}
    (h : Assigned db executorID taskID) (h' : Assigned db executorID' taskID) :
    executorID = executorID' := by
  obtain ⟨t, ht, hexec⟩ := h
  obtain ⟨t', ht', hexec'⟩ := h'
  rw [ht] at ht'
  obtain rfl := Option.some.inj ht'
  exact Option.some.inj (hexec.symm.trans hexec')

/-! ### Calls of others -/

section Calls

variable {slot : Slot} {call : Call} {db db' : Db}

/-- An open cancellation was open before, perhaps one report earlier, or is the one the
    call asks for. -/
theorem open_before (h : ControlMove call db db') (hc : OpenCancel slot db' c) :
    (∃ c₀, OpenCancel slot db c₀ ∧ c₀.controlID = c.controlID) ∨
    ∃ identity taskID req, call.op = .createTaskControl identity taskID req ∧
      slot.asksCancel call.op = true ∧ c = controlRow call.env identity taskID req := by
  obtain ⟨hlookup, hopen⟩ := hc
  rcases h.origin hlookup with
    hold | ⟨identity, taskID, req, hop, -, hrow⟩ | ⟨c₀, req, identity, -, hold, -, htr, hrow⟩
  · exact .inl ⟨c, ⟨hold, hopen⟩, rfl⟩
  · refine .inr ⟨identity, taskID, req, hop, ?_, hrow⟩
    rw [hrow, openCancel_iff] at hopen
    rw [hop]
    simp only [Slot.asksCancel, Bool.and_eq_true, decide_eq_true_eq]
    exact ⟨hopen.1, hopen.2.1⟩
  · have hkey : c₀.controlID = c.controlID := Table.key_of_lookup hold
    refine .inl ⟨c₀, ⟨hkey ▸ hold, ?_⟩, hkey⟩
    rw [hrow, openCancel_iff] at hopen
    rw [openCancel_iff]
    refine ⟨hopen.1, hopen.2.1, ?_⟩
    -- whatever a report starts from is unfinished
    revert htr
    cases c₀.status <;> simp [validControlTransition]

/-- Cancellations come one at a time. -/
theorem single_of_move (h : ControlMove call db db')
    (hsingle : ∀ c c', OpenCancel slot db c → OpenCancel slot db c' → c = c')
    (hcalm : slot.asksCancel call.op = true → ∀ c, ¬ OpenCancel slot db c) :
    ∀ c c', OpenCancel slot db' c → OpenCancel slot db' c' → c = c' := by
  intro c c' hc hc'
  rcases open_before h hc with ⟨c₀, hopen, hid⟩ | ⟨identity, taskID, req, hop, hasks, hrow⟩
  · rcases open_before h hc' with ⟨c₁, hopen', hid'⟩ | ⟨_, _, _, -, hasks, -⟩
    · have hsame : c.controlID = c'.controlID := by
        rw [← hid, ← hid', hsingle c₀ c₁ hopen hopen']
      have hlookup := hc.1
      rw [hsame, hc'.1] at hlookup
      exact (Option.some.inj hlookup).symm
    · exact absurd hopen (hcalm hasks c₀)
  · rcases open_before h hc' with ⟨c₁, hopen', -⟩ | ⟨_, _, _, hop', -, hrow'⟩
    · exact absurd hopen' (hcalm hasks c₁)
    · rw [hop] at hop'
      cases hop'
      rw [hrow, hrow']

variable (hassigned : Assigned db slot.executorID slot.taskID)
  (hother : slot.reports call.op = false)
include hassigned hother

/-- Nobody else may report on the controls of the slot's task. -/
theorem not_reported {id : String} {req : TaskControlEventAppendRequest}
    {identity : ExecutorIdentity} (htask : c.taskID = slot.taskID)
    (hop : call.op = .appendTaskControlEvent c.taskID id req identity) :
    ¬ Assigned db identity.executorID c.taskID := by
  intro hby
  rw [htask] at hby
  have hid := assigned_unique hby hassigned
  rw [hop] at hother
  simp [Slot.reports, htask, hid] at hother

theorem open_kept (h : ControlMove call db db') (hc : OpenCancel slot db c) :
    OpenCancel slot db' c := by
  obtain ⟨hlookup, hopen⟩ := hc
  rcases h.kept hlookup with hkept | ⟨req, identity, hop, hby⟩
  · exact ⟨hkept, hopen⟩
  · exact absurd hby (not_reported hassigned hother (openCancel_iff.mp hopen).1 hop)

theorem open_or_new (h : ControlMove call db db') (hc : OpenCancel slot db' c) :
    OpenCancel slot db c ∨ c.status = .pending := by
  obtain ⟨hlookup, hopen⟩ := hc
  rcases h.origin hlookup with
    hold | ⟨identity, taskID, req, -, -, rfl⟩ | ⟨c₀, req, identity, hop, -, hby, -, rfl⟩
  · exact .inl ⟨hold, hopen⟩
  · exact .inr rfl
  · exact absurd hby (not_reported hassigned hother (openCancel_iff.mp hopen).1 hop)

end Calls

theorem attended_registry {slot : Slot} {w : World} (h : Attended reg slot w)
    {call : Call} (hother : w.stage ≠ .off → slot.reports call.op = false)
    (hcalm : slot.asksCancel call.op = true → ∀ c, ¬ OpenCancel slot w.db c) :
    Attended reg slot { w with db := (exec reg call).commit w.db } := by
  have hmove := commit_controlMove reg call w.db
  refine ⟨.step call h.registry rfl, ?_, single_of_move hmove h.single hcalm, ?_⟩
  · intro hon
    exact (h.assigned hon).later (commit_evolves reg call w.db)
  · show w.stage.Fits slot.kind _
    by_cases hoff : w.stage = .off
    · rw [hoff]
      trivial
    · have hassigned := h.assigned hoff
      apply h.fits.mono
      · intro c hc
        exact open_kept hassigned (hother hoff) hmove hc
      · intro c hc
        exact open_or_new hassigned (hother hoff) hmove hc

/-! ### Requests of the watcher -/

section Requests

variable {slot : Slot} {w : World} {a : Answer} {call : Call}

/-- A request leaves a Registry that goes on from where it was. -/
theorem reach_evolves (reach : Reach) (call : Call)
    (hr : (Registry.registry reg).Reachable w.db) :
    (Registry.registry reg).Reachable (reach.commit reg call w.db) ∧
      ∀ {executorID taskID}, Assigned w.db executorID taskID →
        Assigned (reach.commit reg call w.db) executorID taskID := by
  cases reach with
  | failed => exact ⟨hr, id⟩
  | answered | lost =>
    exact ⟨.step call hr rfl, fun h => h.later (commit_evolves reg call w.db)⟩

/-- A request that is not carried out changes nothing. -/
theorem reach_refused {reach : Reach} {db : Db}
    (h : reach = .failed ∨ accepts reg db call = false) : reach.commit reg call db = db := by
  cases reach with
  | failed => rfl
  | answered | lost =>
    rcases h with h | h
    · cases h
    · apply commit_of_refused
      intro hnone
      simp [accepts, hnone] at h

theorem reach_carried {reach : Reach} {db : Db} (h : reach ≠ .failed) :
    reach.commit reg call db = (exec reg call).commit db := by
  cases reach with
  | failed => exact absurd rfl h
  | answered | lost => rfl

section Report

variable {id : String} (hfresh : w.db.controlEvents.lookup (eventID a) = none)
  (hok : accepts reg w.db (slot.appendControlEvent a id status occurredAt message) = true)
  (hsingle : ∀ c c', OpenCancel slot w.db c → OpenCancel slot w.db c' → c = c')
  (hc : OpenCancel slot w.db c) (hid : c.controlID = id)

include hfresh hok hsingle hc hid

/-- The open cancellation after an accepted report on it. -/
theorem open_of_report :
    let db' := (exec reg
      (slot.appendControlEvent a id status occurredAt message)).commit w.db
    db'.controls.lookup id = some (c.project status) ∧
      ∀ c', OpenCancel slot db' c' → c' = c.project status := by
  obtain ⟨control, hfound, -, -, hrows⟩ :=
    report_of_accepted (Option.isNone_iff_eq_none.mp hok) hfresh
  have hlookup : ∀ id', ((exec reg
      (slot.appendControlEvent a id status occurredAt message)).commit w.db).controls.lookup id' =
        if id' = id then some (control.project status) else w.db.controls.lookup id' := hrows
  have hsame : control = c := by
    have hl := hc.1
    rw [hid, hfound] at hl
    exact Option.some.inj hl
  subst hsame
  refine ⟨?_, ?_⟩
  · rw [hlookup, if_pos rfl]
  · intro c' hc'
    have hl := hc'.1
    rw [hlookup] at hl
    by_cases hcid : c'.controlID = id
    · rw [if_pos hcid] at hl
      exact (Option.some.inj hl).symm
    · rw [if_neg hcid] at hl
      have heq := hsingle c' control ⟨hl, hc'.2⟩ hc
      rw [heq] at hcid
      exact absurd hid hcid

/-- After an accepted acknowledgement the same cancellation is open, and acknowledged. -/
theorem acknowledged_of_report (hstatus : status = .acknowledged) :
    OpenCancel slot ((exec reg
      (slot.appendControlEvent a id status occurredAt message)).commit w.db) (c.project status) := by
  have hopen := openCancel_iff.mp hc.2
  refine ⟨?_, openCancel_iff.mpr ⟨hopen.1, hopen.2.1, .inr hstatus⟩⟩
  rw [show (c.project status).controlID = id from hid]
  exact (open_of_report hfresh hok hsingle hc hid).1

/-- After an accepted last report no cancellation is open. -/
theorem none_open_of_report (hlast : status = .completed ∨ status = .failed) (c' : ControlRow) :
    ¬ OpenCancel slot ((exec reg
      (slot.appendControlEvent a id status occurredAt message)).commit w.db) c' := by
  intro hc'
  have heq := (open_of_report hfresh hok hsingle hc hid).2 c' hc'
  have hstatus := (openCancel_iff.mp hc'.2).2.2
  rw [heq] at hstatus
  have hprojected : (c.project status).status = status := rfl
  rw [hprojected] at hstatus
  rcases hlast with rfl | rfl <;> simp at hstatus

end Report

theorem afterError_k8s (h : slot.kind = .k8s) : slot.afterError = .polling := by
  unfold Slot.afterError
  rw [h]

theorem append_inv {done undone : Stage} {w' : World}
    (h : w.append reg a call done undone = some w') :
    w.db.controlEvents.lookup (eventID a) = none ∧
      w' = ⟨a.reach.commit reg call w.db,
        if a.reach = .answered ∧ accepts reg w.db call = true then done else undone⟩ := by
  unfold World.append at h
  by_cases hfresh : w.db.controlEvents.lookup (eventID a) = none
  · rw [if_pos hfresh] at h
    exact ⟨hfresh, (Option.some.inj h).symm⟩
  · rw [if_neg hfresh] at h
    cases h

/-- A request keeps the invariant if the cancellations it leaves fit the stage it leads to. -/
theorem Attended.request (h : Attended reg slot w) (hon : w.stage ≠ .off)
    (hsingle : ∀ c c', OpenCancel slot (a.reach.commit reg call w.db) c →
      OpenCancel slot (a.reach.commit reg call w.db) c' → c = c')
    (hfits : stage.Fits slot.kind (OpenCancel slot (a.reach.commit reg call w.db))) :
    Attended reg slot ⟨a.reach.commit reg call w.db, stage⟩ := by
  obtain ⟨hreach, hassigned⟩ := reach_evolves a.reach call h.registry
  exact ⟨hreach, fun _ => hassigned (h.assigned hon), hsingle, hfits⟩

theorem Attended.goto (h : Attended reg slot w) (hon : w.stage ≠ .off)
    (hfits : stage.Fits slot.kind (OpenCancel slot w.db)) :
    Attended reg slot { w with stage } :=
  ⟨h.registry, fun _ => h.assigned hon, h.single, hfits⟩

/-- An accepted acknowledgement. -/
theorem attended_acknowledged (h : Attended reg slot w) (hon : w.stage ≠ .off) {id : String}
    (hstage : w.stage = .acknowledge id) (hfresh : w.db.controlEvents.lookup (eventID a) = none)
    (hreach : a.reach = .answered) (hok : accepts reg w.db (slot.acknowledged a id) = true) :
    Attended reg slot
      ⟨a.reach.commit reg (slot.acknowledged a id) w.db, .pause id a.now⟩ := by
  have hfits := h.fits
  rw [hstage] at hfits
  obtain ⟨c, hc, hid, -⟩ := hfits
  have hcarried : a.reach.commit reg (slot.acknowledged a id) w.db =
      (exec reg (slot.acknowledged a id)).commit w.db := by
    apply reach_carried
    rw [hreach]
    exact Reach.noConfusion
  have hafter := (open_of_report hfresh hok h.single hc hid).2
  apply h.request hon
  · rw [hcarried]
    intro c₁ c₂ h₁ h₂
    rw [hafter c₁ h₁, hafter c₂ h₂]
  · rw [hcarried]
    exact ⟨c.project .acknowledged, acknowledged_of_report hfresh hok h.single hc hid rfl, hid, rfl⟩

/-- The last report, accepted; every later reading finds nothing acknowledged. -/
theorem attended_reported (h : Attended reg slot w) (hon : w.stage ≠ .off) {id : String}
    (hlast : status = .completed ∨ status = .failed)
    (hopen : ∃ c, OpenCancel slot w.db c ∧ c.controlID = id ∧ c.status = .acknowledged)
    (hfresh : w.db.controlEvents.lookup (eventID a) = none) (hreach : a.reach ≠ .failed)
    (hok : accepts reg w.db (slot.appendControlEvent a id status occurredAt message) = true)
    (hstage : stage = .off ∨ stage = .polling) :
    Attended reg slot
      ⟨a.reach.commit reg (slot.appendControlEvent a id status occurredAt message) w.db, stage⟩ := by
  obtain ⟨c, hc, hid, -⟩ := hopen
  have hnone : ∀ c', ¬ OpenCancel slot (a.reach.commit reg
      (slot.appendControlEvent a id status occurredAt message) w.db) c' := by
    rw [reach_carried hreach]
    exact none_open_of_report hfresh hok h.single hc hid hlast
  apply h.request hon
  · intro c₁ _ h₁
    exact absurd h₁ (hnone c₁)
  · rcases hstage with rfl | rfl
    · trivial
    · intro c' hc'
      exact absurd hc' (hnone c')

/-- An acknowledgement that is not carried out: the cancellation is still pending. -/
theorem attended_retry (h : Attended reg slot w) (hon : w.stage ≠ .off) {id : String}
    (hstage : w.stage = .acknowledge id)
    (hrefused : a.reach = .failed ∨ accepts reg w.db (slot.acknowledged a id) = false) :
    Attended reg slot ⟨a.reach.commit reg (slot.acknowledged a id) w.db, .polling⟩ := by
  have hfits := h.fits
  rw [hstage] at hfits
  obtain ⟨c, hc, -, hpending⟩ := hfits
  rw [reach_refused hrefused]
  apply h.goto hon
  intro c' hc'
  rw [h.single c' c hc' hc]
  exact hpending

theorem poll_cases (slot : Slot) (db : Db) (a : Answer) :
    slot.poll db a = .polling ∨
      ∃ c, OpenCancel slot db c ∧ c.status = .pending ∧ slot.poll db a = .acknowledge c.controlID := by
  unfold Slot.poll
  split_ifs with hreach
  · cases hlist : listAssignedTaskControls db slot.taskID (slot.identity a) with
    | error e => exact .inl rfl
    | ok controls =>
      cases hfind : pendingCancel controls with
      | none =>
        left
        simp only [hfind, Option.elim]
      | some c =>
        right
        obtain ⟨task, -, -, rfl⟩ := listAssignedTaskControls_ok hlist
        obtain ⟨hmem, -, htask, hpending⟩ :=
          mem_pendingControls.mp (List.mem_of_find?_eq_some hfind)
        have hcancel := List.find?_some hfind
        simp only [Bool.and_eq_true, decide_eq_true_eq] at hcancel
        refine ⟨c, ⟨Table.lookup_key hmem, ?_⟩, hpending, ?_⟩
        · exact openCancel_iff.mpr ⟨htask, hcancel.2, .inl hpending⟩
        · simp only [hfind, Option.elim]
  · exact .inl rfl

end Requests

/-! ## Section 4: Whole runs -/

section Runs

variable {slot : Slot} {w w' : World}

/-- Step lemma for the watcher, one case a stage. -/
theorem attended_step (h : Attended reg slot w) {a : Answer}
    (hwell : goesWell reg slot w a = true) (hs : w.step reg slot a = some w') :
    Attended reg slot w' := by
  have hfits := h.fits
  unfold World.step at hs
  have hon : w.stage ≠ .off := by
    intro hoff
    rw [hoff] at hs
    cases hs
  unfold goesWell at hwell
  cases hstage : w.stage with
  | off => exact absurd hstage hon
  | ended =>
    rw [hstage] at hs
    cases hs
  | polling =>
    rw [hstage] at hs hfits
    obtain rfl := Option.some.inj hs
    apply h.goto hon
    rcases poll_cases slot w.db a with hpoll | ⟨c, hc, hpending, hpoll⟩
    · rw [hpoll]
      exact hfits
    · rw [hpoll]
      exact ⟨c, hc, rfl, hpending⟩
  | acknowledge id =>
    rw [hstage] at hs hwell
    obtain ⟨hfresh, rfl⟩ := append_inv hs
    by_cases hdone : a.reach = .answered ∧ accepts reg w.db (slot.acknowledged a id) = true
    · rw [if_pos hdone]
      exact attended_acknowledged h hon hstage hfresh hdone.1 hdone.2
    · rw [if_neg hdone]
      cases hkind : slot.kind with
      | docker =>
        -- the one attempt goes well
        rw [hkind] at hwell
        simp only [Bool.and_eq_true, decide_eq_true_eq] at hwell
        exact absurd hwell hdone
      | k8s =>
        rw [hkind] at hwell
        rw [afterError_k8s hkind]
        apply attended_retry h hon hstage
        cases hreach : a.reach with
        | failed => exact .inl rfl
        | answered =>
          right
          exact Bool.eq_false_iff.mpr (fun hok => hdone ⟨hreach, hok⟩)
        | lost =>
          right
          simpa [hreach] using hwell
  | pause id at' =>
    rw [hstage] at hs hwell hfits
    obtain rfl := Option.some.inj hs
    apply h.goto hon
    cases hpaused : a.paused with
    | true => exact hfits
    | false =>
      cases hkind : slot.kind with
      | docker =>
        rw [hkind, hpaused] at hwell
        cases hwell
      | k8s => exact ⟨rfl, hfits⟩
  | complete id at' =>
    rw [hstage] at hs hwell hfits
    obtain ⟨hfresh, rfl⟩ := append_inv hs
    cases hkind : slot.kind with
    | docker =>
      rw [hkind] at hwell
      simp only [Bool.and_eq_true, decide_eq_true_eq] at hwell
      rw [if_pos hwell]
      have hreach : a.reach ≠ .failed := by
        rw [hwell.1]
        exact Reach.noConfusion
      exact attended_reported h hon (.inl rfl) hfits hfresh hreach hwell.2 (.inl rfl)
    | k8s =>
      rw [hkind] at hwell
      simp only [Bool.and_eq_true, Bool.not_eq_true', decide_eq_false_iff_not] at hwell
      apply attended_reported h hon (.inl rfl) hfits hfresh hwell.1 hwell.2
      split_ifs
      · exact .inl rfl
      · exact .inr (afterError_k8s hkind)
  | refuse id at' =>
    rw [hstage] at hs hwell hfits
    obtain ⟨hkind, hopen⟩ := hfits
    obtain ⟨hfresh, rfl⟩ := append_inv hs
    rw [hkind] at hwell
    simp only [Bool.and_eq_true, Bool.not_eq_true', decide_eq_false_iff_not] at hwell
    apply attended_reported h hon (.inr rfl) hopen hfresh hwell.1 hwell.2
    rw [ite_self]
    exact .inr (afterError_k8s hkind)

theorem attended_next (h : Attended reg slot w) {l : Label} (hok : unstranded reg slot w l = true)
    (hs : w.next reg slot l = some w') : Attended reg slot w' := by
  cases l with
  | registry call =>
    simp only [World.next] at hs
    split_ifs at hs with hrefused
    obtain rfl := Option.some.inj hs
    apply attended_registry h
    · intro hon
      exact Bool.eq_false_iff.mpr (fun hrep => hrefused ⟨hon, hrep⟩)
    · intro hasks c hc
      simp only [unstranded, hasks, Bool.not_true, Bool.false_or, List.all_eq_true] at hok
      have hclosed := hok c hc.mem
      rw [hc.2] at hclosed
      cases hclosed
  | watch =>
    simp only [World.next] at hs
    split_ifs at hs with hmay
    obtain rfl := Option.some.inj hs
    obtain ⟨t, ht, hexec⟩ := (Option.any_eq_true _ _).mp hmay.2
    refine ⟨h.registry, fun _ => ⟨t, ht, of_decide_eq_true hexec⟩, h.single, ?_⟩
    intro c hc
    simp only [unstranded, List.all_eq_true] at hok
    have hcalm := hok c hc.mem
    rw [hc.2] at hcalm
    rcases (openCancel_iff.mp hc.2).2.2 with hpending | hacked
    · exact hpending
    · rw [hacked] at hcalm
      cases hcalm
  | leave =>
    simp only [World.next] at hs
    split_ifs at hs with hoff
    obtain rfl := Option.some.inj hs
    exact ⟨h.registry, fun hon => absurd rfl hon, h.single, trivial⟩
  | step a => exact attended_step h hok hs

variable (reg) in
/-- The system in which cancellations come one at a time and the requests go well. -/
def unstrandedWatcher (slot : Slot) : System World Label :=
  (watcher reg slot).restrict (fun w l => unstranded reg slot w l = true)

/-- Run lemma. -/
theorem attended_reachable (h : (unstrandedWatcher reg slot).Reachable w) :
    Attended reg slot w := by
  apply h.invariant
  · intro w hinit
    cases hinit
    refine ⟨.init rfl, fun hon => absurd rfl hon, ?_, trivial⟩
    intro c c' hc
    cases hc.1
  · intro w l w' _ hinv hstep
    exact attended_next hinv hstep.2 hstep.1

/-- A polling watcher finds the one pending cancellation. -/
theorem poll_finds (h : Attended reg slot w) (hstage : w.stage = .polling)
    (hc : OpenCancel slot w.db c) {a : Answer} (hreach : a.reach = .answered)
    {controls : List ControlRow}
    (hlist : listAssignedTaskControls w.db slot.taskID (slot.identity a) = .ok controls) :
    slot.poll w.db a = .acknowledge c.controlID := by
  have hfits := h.fits
  rw [hstage] at hfits
  obtain ⟨htask, hcancel, -⟩ := openCancel_iff.mp hc.2
  have hpending := hfits c hc
  obtain ⟨task, ht, -, hcontrols⟩ := listAssignedTaskControls_ok hlist
  have hteam : c.teamID = task.teamID := by
    obtain ⟨t, ht', hteam⟩ := reachable_controlsInTeam h.registry _ _ hc.1
    rw [htask, ht] at ht'
    rw [← hteam, Option.some.inj ht']
  have hmem : c ∈ controls := by
    rw [hcontrols]
    exact mem_pendingControls.mpr ⟨hc.mem, hteam, htask, hpending⟩
  rcases poll_cases slot w.db a with hpoll | ⟨c', hc', -, hpoll⟩
  · -- the loop stops at the control at the latest
    exfalso
    simp only [Slot.poll, if_pos hreach, hlist] at hpoll
    cases hfind : pendingCancel controls with
    | none =>
      have hno := List.find?_eq_none.mp hfind c hmem
      simp [hpending, hcancel] at hno
    | some c' =>
      rw [hfind] at hpoll
      cases hpoll
  · rw [hpoll, h.single c' c hc' hc]

theorem attended_willAct (h : Attended reg slot w) (hon : w.stage ≠ .off)
    (hc : OpenCancel slot w.db c) : WillAct reg slot w c := by
  have hfits := h.fits
  have hex : ∀ {id status}, (∃ c, OpenCancel slot w.db c ∧ c.controlID = id ∧ c.status = status) →
      some id = some c.controlID := by
    intro id status hopen
    obtain ⟨c', hc', hid, -⟩ := hopen
    rw [← hid, h.single c' c hc' hc]
  cases hstage : w.stage with
  | off => exact absurd hstage hon
  | polling =>
    right
    refine ⟨hstage, ?_⟩
    intro a hreach hlist
    obtain ⟨controls, hlist⟩ := hlist
    unfold World.step
    rw [hstage]
    simp only [poll_finds h hstage hc hreach hlist]
  | acknowledge id | pause id at' | complete id at' =>
    left
    rw [hstage] at hfits ⊢
    exact hex hfits
  | refuse id at' =>
    left
    rw [hstage] at hfits ⊢
    exact hex hfits.2
  | ended =>
    rw [hstage] at hfits
    exact hfits.elim

end Runs

/-- In every run in which cancellations come one at a time and the requests of the watcher
    go well, a supervised slot will act on every open cancellation of its task. -/
theorem cancel_never_stranded (reg : Config) (slot : Slot) (w : World)
    (hreach : (unstrandedWatcher reg slot).Reachable w) (hon : w.stage ≠ .off) :
    ∀ c ∈ w.db.controls.rows, openCancel slot.taskID c = true → WillAct reg slot w c := by
  intro c hc hopen
  exact attended_willAct (attended_reachable hreach) hon ⟨Table.lookup_key hc, hopen⟩

/-! ### A slot whose task is cancelled -/

def sampleSlot (kind : Kind) : Slot := ⟨kind, "task", "exec", .system, none⟩

/-- A running task that its operator wants to cancel. -/
def sampleCancel : List Label :=
  (sampleSetup ++ [sampleIngest "task" "1" 5, sampleClaim "task" 6,
    sampleAppend 7 (sampleEvent "e1" "task" "running" "1970-01-01T00:00:07Z"),
    ⟨sampleEnv "control" 8, .createTaskControl ⟨"team", "operator", "request"⟩ "task"
      ⟨.cancel, "key", none⟩⟩]).map Label.registry

def sampleAnswer (name : String) (reach : Reach) : Answer :=
  ⟨reach, sampleEnv ("audit-" ++ name) 9, "request", 9000000000, name, true⟩

/-- The task is cancelled by a watcher that is about to pause the conversation. -/
theorem cancel_never_stranded_sample :
    ∃ w, (unstrandedWatcher sampleConfig (sampleSlot .docker)).Reachable w ∧
      w.stage = .pause "control" 9000000000 ∧
      ∃ c ∈ w.db.controls.rows, openCancel "task" c = true ∧ c.status = .acknowledged ∧
        WillAct sampleConfig (sampleSlot .docker) w c := by
  obtain ⟨w, hreach, hstage, c, hc, hopen, hstatus⟩ : ∃ w,
      (unstrandedWatcher sampleConfig (sampleSlot .docker)).Reachable w ∧
        w.stage = .pause "control" 9000000000 ∧
        ∃ c ∈ w.db.controls.rows, openCancel "task" c = true ∧ c.status = .acknowledged :=
    System.Reachable.exists_of_guarded (sampleCancel ++ [.watch,
      .step (sampleAnswer "poll" .answered), .step (sampleAnswer "first" .answered)]) rfl
      (by decide +kernel)
  have hon : w.stage ≠ .off := by
    rw [hstage]
    exact Stage.noConfusion
  exact ⟨w, hreach, hstage, c, hc, hopen, hstatus,
    cancel_never_stranded sampleConfig (sampleSlot .docker) w hreach hon c hc hopen⟩

/-- The watcher has returned, or the next reading finds nothing. -/
def idle (slot : Slot) (w : World) (a : Answer) : Bool :=
  w.stage = .ended ||
    (w.stage = .polling && a.reach = .answered && slot.poll w.db a = .polling &&
      (match listAssignedTaskControls w.db slot.taskID (slot.identity a) with
        | .ok _ => true
        | .error _ => false))

theorem not_willAct_of_idle {slot : Slot} {w : World} {a : Answer} (h : idle slot w a = true)
    (c : ControlRow) : ¬ WillAct reg slot w c := by
  intro hact
  simp only [idle, Bool.or_eq_true, Bool.and_eq_true, decide_eq_true_eq] at h
  rcases h with hended | ⟨⟨⟨hstage, hreach⟩, hpoll⟩, hlist⟩
  · rcases hact with hhandles | ⟨hpolling, -⟩
    · rw [hended] at hhandles
      cases hhandles
    · rw [hended] at hpolling
      cases hpolling
  · rcases hact with hhandles | ⟨-, hnext⟩
    · rw [hstage] at hhandles
      cases hhandles
    · have hok : (listAssignedTaskControls w.db slot.taskID (slot.identity a)).isOk = true := by
        cases hcontrols : listAssignedTaskControls w.db slot.taskID (slot.identity a) <;>
          simp_all [Except.isOk, Except.toBool]
      have hstep := hnext a hreach (Check.ok_of_isOk hok)
      unfold World.step at hstep
      rw [hstage] at hstep
      simp only [hpoll] at hstep
      cases hstep

/-- The answer to the `acknowledged` event is lost. -/
def sampleLoss : List Label :=
  sampleCancel ++ [.watch, .step (sampleAnswer "poll" .answered),
    .step (sampleAnswer "first" .lost)]

theorem stranded_of_run {slot : Slot} {a : Answer}
    (hrun : (System.follow (World.next reg slot) ⟨.empty, .off⟩ sampleLoss).any (fun w =>
      decide (w.stage ≠ .off ∧ idle slot w a = true ∧ ∃ c ∈ w.db.controls.rows,
        openCancel slot.taskID c = true ∧ c.status = .acknowledged)) = true) :
    ∃ w, (watcher reg slot).Reachable w ∧ w.stage ≠ .off ∧
      ∃ c ∈ w.db.controls.rows, openCancel slot.taskID c = true ∧ c.status = .acknowledged ∧
        ¬ WillAct reg slot w c := by
  obtain ⟨w, hreach, hon, hidle, c, hc, hopen, hstatus⟩ :=
    (System.Reachable.exists_of_follow _ rfl hrun : ∃ w, (watcher reg slot).Reachable w ∧ _)
  exact ⟨w, hreach, hon, c, hc, hopen, hstatus, not_willAct_of_idle hidle c⟩

/-- With either executor the cancellation stays acknowledged: the Docker watcher has
    returned, and the Kubernetes watcher does not get to see it again. -/
theorem acknowledged_for_ever :
    (∃ w, (watcher sampleConfig (sampleSlot .docker)).Reachable w ∧ w.stage ≠ .off ∧
      ∃ c ∈ w.db.controls.rows, openCancel "task" c = true ∧ c.status = .acknowledged ∧
        ¬ WillAct sampleConfig (sampleSlot .docker) w c) ∧
    ∃ w, (watcher sampleConfig (sampleSlot .k8s)).Reachable w ∧ w.stage ≠ .off ∧
      ∃ c ∈ w.db.controls.rows, openCancel "task" c = true ∧ c.status = .acknowledged ∧
        ¬ WillAct sampleConfig (sampleSlot .k8s) w c := by
  constructor
  · apply stranded_of_run (a := sampleAnswer "next" .answered)
    decide +kernel
  · apply stranded_of_run (a := sampleAnswer "next" .answered)
    decide +kernel

end FlowAI.Executors.ControlWatch
