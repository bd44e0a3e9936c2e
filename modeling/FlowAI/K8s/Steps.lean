import FlowAI.K8s.Machine
import FlowAI.Registry.Lifecycle

/-! # What a Step of the Executor Can Do

  The inversion of every step, once: which action the poll goroutine or the goroutine of a
  task performs, and where it goes on.  Frame lemmas say what an action leaves alone.
-/

namespace FlowAI.K8s

open Registry

variable {cfg : ExecutorConfig} {reg : Config} {w w' : World} {a : Answer}

/-! ## Section 1: Frames -/

@[simp] theorem perform_main (act : Act) : (w.perform reg act).main = w.main := by
  cases act <;> simp only [World.perform] <;> split <;> rfl

theorem perform_cluster {act : Act} (h : ∀ reach pod, act ≠ .createPod reach pod) :
    (w.perform reg act).cluster = w.cluster := by
  cases act with
  | createPod reach pod => exact absurd rfl (h reach pod)
  | _ => simp only [World.perform] <;> split <;> rfl

theorem perform_db {act : Act} (hrequest : ∀ reach call, act ≠ .request reach call := by simp)
    (happend : ∀ reach call event, act ≠ .append reach call event := by simp) :
    (w.perform reg act).db = w.db := by
  cases act with
  | request reach call => exact absurd rfl (hrequest reach call)
  | append reach call event => exact absurd rfl (happend reach call event)
  | _ => simp only [World.perform] <;> split <;> rfl

theorem perform_pods {act : Act} (hadd : ∀ slot, act ≠ .addPod slot := by simp)
    (hspawn : ∀ taskID, act ≠ .spawn taskID := by simp) : (w.perform reg act).pods = w.pods := by
  cases act with
  | addPod slot => exact absurd rfl (hadd slot)
  | spawn taskID => exact absurd rfl (hspawn taskID)
  | _ => simp only [World.perform] <;> split <;> rfl

theorem perform_eventOutbox {act : Act} (hput : ∀ written event, act ≠ .putOutbox written event)
    (haccept : ∀ written eventID, act ≠ .acceptOutbox written eventID) :
    (w.perform reg act).cache.eventOutbox = w.cache.eventOutbox := by
  cases act with
  | putOutbox written event => exact absurd rfl (hput written event)
  | acceptOutbox written eventID => exact absurd rfl (haccept written eventID)
  | _ => simp only [World.perform] <;> split <;> rfl

/-- A pending record was pending before, or is the one that the action puts. -/
theorem pending_of_perform {act : Act} {eventID : String} {event : TaskEventAppendRequest}
    (h : (w.perform reg act).cache.eventOutbox.lookup eventID = some ⟨event, false⟩) :
    w.cache.eventOutbox.lookup eventID = some ⟨event, false⟩ ∨
      act = .putOutbox true event ∧ event.eventID = eventID := by
  cases act with
  | putOutbox written e =>
    cases written with
    | false => exact .inl h
    | true =>
      change (w.cache.putOutbox e).eventOutbox.lookup eventID = _ at h
      rw [Cache.lookup_putOutbox] at h
      split at h
      · rename_i hid
        cases h
        exact .inr ⟨rfl, hid⟩
      · exact .inl h
  | acceptOutbox written id =>
    cases written with
    | false => exact .inl h
    | true =>
      change (w.cache.acceptOutbox id).eventOutbox.lookup eventID = _ at h
      rw [Cache.lookup_acceptOutbox] at h
      split at h
      · obtain ⟨r, -, hr⟩ := Option.map_eq_some_iff.mp h
        cases hr
      · exact .inl h
  | _ =>
    rw [perform_eventOutbox (by simp) (by simp)] at h
    exact .inl h

theorem perform_assignments {act : Act}
    (hput : ∀ written r, act ≠ .putAssignment written r := by simp)
    (hdelete : ∀ written taskID, act ≠ .deleteAssignment written taskID := by simp) :
    (w.perform reg act).cache.assignments = w.cache.assignments := by
  cases act with
  | putAssignment written r => exact absurd rfl (hput written r)
  | deleteAssignment written taskID => exact absurd rfl (hdelete written taskID)
  | acceptOutbox written eventID =>
    simp only [World.perform]
    split
    · exact Cache.assignments_acceptOutbox _ _
    · rfl
  | _ => simp only [World.perform] <;> split <;> rfl

theorem perform_spawn {taskID : String} {slot : Slot} (hslot : w.pods.lookup taskID = some slot)
    (hkey : slot.taskID = taskID) :
    w.perform reg (.spawn taskID) = w.perform reg (.addPod (slot.at .watch)) := by
  simp only [World.perform, hslot, Slot.at, hkey]

theorem perform_sent {act : Act} (happend : ∀ reach call event, act ≠ .append reach call event) :
    (w.perform reg act).sent = w.sent := by
  cases act with
  | append reach call event => exact absurd rfl (happend reach call event)
  | _ => simp only [World.perform] <;> split <;> rfl

theorem perform_slotReservations {act : Act} (hreserve : act ≠ .reserve)
    (hrelease : act ≠ .release) : (w.perform reg act).slotReservations = w.slotReservations := by
  cases act with
  | reserve => exact absurd rfl hreserve
  | release => exact absurd rfl hrelease
  | _ => simp only [World.perform] <;> split <;> rfl

@[simp] theorem goto_db (m : Main) : (w.goto m).db = w.db := by cases m <;> rfl

@[simp] theorem goto_cluster (m : Main) : (w.goto m).cluster = w.cluster := by cases m <;> rfl

@[simp] theorem goto_cache (m : Main) : (w.goto m).cache = w.cache := by cases m <;> rfl

@[simp] theorem goto_sent (m : Main) : (w.goto m).sent = w.sent := by cases m <;> rfl

@[simp] theorem goto_main (m : Main) : (w.goto m).main = m := by cases m <;> rfl

theorem goto_of_up {m : Main} (h : m ≠ .down) : w.goto m = { w with main := m } := by
  cases m with
  | down => exact absurd rfl h
  | _ => rfl

theorem goto_pods {m : Main} (h : m ≠ .down) : (w.goto m).pods = w.pods := by
  rw [goto_of_up h]

theorem lookup_goto_addPod {slot : Slot} {m : Main} (hup : m ≠ .down) (id : String) :
    ((w.perform reg (.addPod slot)).goto m).pods.lookup id =
      if slot.taskID = id then some slot else w.pods.lookup id := by
  rw [goto_pods hup]
  exact StrMap.lookup_insert

variable {P : String → Slot → Prop}

theorem forall_goto_addPod {slot : Slot} {m : Main} (hup : m ≠ .down) (hnew : P slot.taskID slot)
    (hold : ∀ id s, w.pods.lookup id = some s → P id s) :
    ∀ id s, ((w.perform reg (.addPod slot)).goto m).pods.lookup id = some s → P id s := by
  rw [goto_pods hup]
  exact StrMap.forall_lookup_insert hnew hold

@[simp] theorem setSlot_db (taskID : String) (slot : Option Slot) :
    (w.setSlot taskID slot).db = w.db := by cases slot <;> rfl

@[simp] theorem setSlot_cluster (taskID : String) (slot : Option Slot) :
    (w.setSlot taskID slot).cluster = w.cluster := by cases slot <;> rfl

@[simp] theorem setSlot_cache (taskID : String) (slot : Option Slot) :
    (w.setSlot taskID slot).cache = w.cache := by cases slot <;> rfl

@[simp] theorem setSlot_sent (taskID : String) (slot : Option Slot) :
    (w.setSlot taskID slot).sent = w.sent := by cases slot <;> rfl

@[simp] theorem setSlot_main (taskID : String) (slot : Option Slot) :
    (w.setSlot taskID slot).main = w.main := by cases slot <;> rfl

@[simp] theorem setSlot_slotReservations (taskID : String) (slot : Option Slot) :
    (w.setSlot taskID slot).slotReservations = w.slotReservations := by cases slot <;> rfl

theorem lookup_setSlot (taskID : String) (slot : Option Slot) (id : String) :
    (w.setSlot taskID slot).pods.lookup id = if id = taskID then slot else w.pods.lookup id := by
  cases slot with
  | none => exact StrMap.lookup_erase
  | some slot =>
    show (w.pods.insert taskID slot).lookup id = _
    rw [StrMap.lookup_insert]
    by_cases h : id = taskID
    · rw [if_pos h, if_pos h.symm]
    · rw [if_neg h, if_neg (Ne.symm h)]

theorem forall_setSlot {taskID : String} {slot : Option Slot} (hpods : w'.pods = w.pods)
    (hnew : ∀ s, slot = some s → P taskID s)
    (hold : ∀ id s, id ≠ taskID → w.pods.lookup id = some s → P id s) :
    ∀ id s, (w'.setSlot taskID slot).pods.lookup id = some s → P id s := by
  intro id s hs
  rw [lookup_setSlot, hpods] at hs
  split at hs
  · rename_i hid
    exact hid ▸ hnew s hs
  · rename_i hne
    exact hold id s hne hs

/-! ## Section 2: The poll goroutine -/

theorem launch_cases (cfg : ExecutorConfig) (task : Starting) (response : ClaimResponse)
    (values : StrMap String) : launch cfg task response values = .idle ∨
      ∃ podEnv, launch cfg task response values = .start task (.assign podEnv) := by
  unfold launch
  split
  · exact .inl rfl
  · exact .inr ⟨_, rfl⟩

theorem afterClaim_cases (cfg : ExecutorConfig) (task : Starting) (response : ClaimResponse) :
    afterClaim cfg task response = .idle ∨
      (∃ token, afterClaim cfg task response = .start task (.open response token)) ∨
      ∃ podEnv, afterClaim cfg task response = .start task (.assign podEnv) := by
  unfold afterClaim
  split
  · exact .inl rfl
  · split
    · split
      · split
        · exact .inl rfl
        · exact .inr (.inl ⟨_, rfl⟩)
      · exact .inl rfl
    · exact (launch_cases cfg task response .empty).imp_right .inr

/-- What `startTaskV0002` does at a stage: its action, and where the goroutine goes on. -/
inductive StartStep (cfg : ExecutorConfig) (reg : Config) (w : World) (a : Answer)
    (task : Starting) : StartStage → Act → Main → Prop where
  | noIntent (failed : a.written = false) : StartStep cfg reg w a task .intent .none .idle
  | intent : StartStep cfg reg w a task .intent
      (.putAssignment true (task.record "" .claiming)) (.start task .claim)
  | claimed {response db'} (answered : a.reach = .answered)
      (accepted : claimTask reg a.env ⟨task.taskID, task.commandID⟩ cfg.executorID
        (cfg.identity a.requestID) w.db = .ok (response, db')) :
      StartStep cfg reg w a task .claim
        (.request a.reach (claimCall cfg a task.taskID task.commandID))
        (afterClaim cfg task response)
  | declined {e m} (answered : a.reach = .answered)
      (refused : claimTask reg a.env ⟨task.taskID, task.commandID⟩ cfg.executorID
        (cfg.identity a.requestID) w.db = .error e)
      (next : m = .idle ∨ m = .each task.rest) :
      StartStep cfg reg w a task .claim
        (.request a.reach (claimCall cfg a task.taskID task.commandID)) m
  | unanswered (unanswered : a.reach ≠ .answered) :
      StartStep cfg reg w a task .claim
        (.request a.reach (claimCall cfg a task.taskID task.commandID)) .idle
  | opened {response token values} (answered : a.reach = .answered) :
      StartStep cfg reg w a task (.open response token)
        (.request a.reach (openCall cfg a task.taskID token)) (launch cfg task response values)
  | unopened {response token}
      (refused : a.reach = .answered → ∀ result, openEnvironment reg a.env
        ⟨task.taskID, token, cfg.identity a.requestID, a.requestID⟩ w.db ≠ .ok result) :
      StartStep cfg reg w a task (.open response token)
        (.request a.reach (openCall cfg a task.taskID token)) .idle
  | assign {podEnv} : StartStep cfg reg w a task (.assign podEnv)
      (.putAssignment a.written (task.record "" .claimed)) (.start task (.reserve podEnv))
  | reserve {podEnv} : StartStep cfg reg w a task (.reserve podEnv) .reserve
      (.start task (.outbox podEnv))
  | outbox {podEnv} (fresh : w.fresh (runningEvent cfg a task).eventID = true) :
      StartStep cfg reg w a task (.outbox podEnv) (.putOutbox a.written (runningEvent cfg a task))
        (.start task (.post podEnv (runningEvent cfg a task)))
  | posted {podEnv event} (appends : w.appends cfg reg a event = true) :
      StartStep cfg reg w a task (.post podEnv event)
        (.append a.reach (appendCall cfg a event) event)
        (.start task (.accept podEnv event.eventID))
  | unposted {podEnv event} (refused : w.appends cfg reg a event = false) :
      StartStep cfg reg w a task (.post podEnv event)
        (.append a.reach (appendCall cfg a event) event) (.start task .abort)
  | accept {podEnv eventID} : StartStep cfg reg w a task (.accept podEnv eventID)
      (.acceptOutbox a.written eventID) (.start task (.create podEnv))
  | created {podEnv} (uid : a.uid ≠ "") (answered : a.reach = .answered)
      (free : w.nameFree (podName task.taskID) = true) :
      StartStep cfg reg w a task (.create podEnv)
        (.createPod a.reach ⟨podName task.taskID, a.uid, task.taskID, task.commandID⟩)
        (.start task (.install podEnv a.uid))
  | uncreated {podEnv}
      (refused : (decide (a.reach = .answered) && w.nameFree (podName task.taskID)) = false) :
      StartStep cfg reg w a task (.create podEnv)
        (.createPod a.reach ⟨podName task.taskID, a.uid, task.taskID, task.commandID⟩)
        (.start task .unassign)
  | unassign : StartStep cfg reg w a task .unassign (.deleteAssignment a.written task.taskID)
      (.start task .abort)
  | abort : StartStep cfg reg w a task .abort .release .idle
  | install {podEnv uid} : StartStep cfg reg w a task (.install podEnv uid)
      (.addPod (task.slot podEnv uid)) (.start task (.release uid))
  | release {uid} : StartStep cfg reg w a task (.release uid) .release (.start task (.record uid))
  | record {uid} : StartStep cfg reg w a task (.record uid)
      (.putAssignment a.written (task.record (runtimeRef task.taskID uid) .running))
      (.start task .spawn)
  | spawn : StartStep cfg reg w a task .spawn (.spawn task.taskID) (.each task.rest)

theorem startStep_of_step {task : Starting} {stage : StartStage} {act : Act} {m : Main}
    (h : task.step cfg reg w a stage = some (act, m)) :
    StartStep cfg reg w a task stage act m := by
  cases stage with
  | intent =>
    simp only [Starting.step] at h
    split at h
    · cases h
      exact .intent
    · rename_i hw
      cases h
      exact .noIntent (Bool.eq_false_iff.mpr hw)
  | claim =>
    cases h
    split
    · rename_i response db' hr hres
      exact .claimed hr hres
    · rename_i e hr hres
      refine .declined hr hres ?_
      by_cases hd : claimDeclined e = true
      · exact .inr (if_pos hd)
      · exact .inl (if_neg hd)
    · rename_i hok herr
      apply StartStep.unanswered
      intro hr
      cases hres : claimTask reg a.env ⟨task.taskID, task.commandID⟩ cfg.executorID
        (cfg.identity a.requestID) w.db with
      | ok result => exact hok result.1 result.2 hr hres
      | error e => exact herr e hr hres
  | «open» response token =>
    cases h
    split
    · rename_i hr _
      exact .opened hr
    · rename_i hno
      apply StartStep.unopened
      intro hr result hok
      exact hno result.1 result.2 hr hok
  | outbox podEnv =>
    simp only [Starting.step] at h
    split at h
    · rename_i hf
      cases h
      exact .outbox hf
    · cases h
  | post podEnv event =>
    cases h
    by_cases hp : w.appends cfg reg a event = true
    · rw [if_pos hp]
      exact .posted hp
    · rw [if_neg hp]
      exact .unposted (Bool.eq_false_iff.mpr hp)
  | create podEnv =>
    simp only [Starting.step] at h
    split at h
    · cases h
    · rename_i huid
      cases h
      by_cases hc : (decide (a.reach = .answered) && w.nameFree (podName task.taskID)) = true
      · rw [if_pos hc]
        simp only [Bool.and_eq_true, decide_eq_true_eq] at hc
        exact .created huid hc.1 hc.2
      · rw [if_neg hc]
        exact .uncreated (Bool.eq_false_iff.mpr hc)
  | assign podEnv => cases h; exact .assign
  | reserve podEnv => cases h; exact .reserve
  | accept podEnv eventID => cases h; exact .accept
  | unassign => cases h; exact .unassign
  | abort => cases h; exact .abort
  | install podEnv uid => cases h; exact .install
  | release uid => cases h; exact .release
  | record uid => cases h; exact .record
  | spawn => cases h; exact .spawn

/-- What the poll goroutine does. -/
inductive MainStep (cfg : ExecutorConfig) (reg : Config) (w : World) (a : Answer) :
    Main → Act → Main → Prop where
  | unlisted (unanswered : a.reach ≠ .answered) : MainStep cfg reg w a .reconcile .none .down
  | listed (answered : a.reach = .answered) :
      MainStep cfg reg w a .reconcile .none (.drop w.unmatched w.kept)
  | dropped {kept} :
      MainStep cfg reg w a (.drop [] kept) .none (.resend w.cache.pendingOutbox kept)
  | drop {r rest kept} : MainStep cfg reg w a (.drop (r :: rest) kept)
      (.deleteAssignment a.written r.taskID) (.drop rest kept)
  | resent {kept} : MainStep cfg reg w a (.resend [] kept) .none (.attach kept)
  | resend {event rest kept} (appends : w.appends cfg reg a event = true) :
      MainStep cfg reg w a (.resend (event :: rest) kept)
        (.append a.reach (appendCall cfg a event) event) (.confirm event.eventID rest kept)
  | unsent {event rest kept} (refused : w.appends cfg reg a event = false) :
      MainStep cfg reg w a (.resend (event :: rest) kept)
        (.append a.reach (appendCall cfg a event) event) .down
  | confirm {eventID rest kept} (found : (w.cache.eventOutbox.lookup eventID).isSome = true)
      (written : a.written = true) :
      MainStep cfg reg w a (.confirm eventID rest kept) (.acceptOutbox true eventID)
        (.resend rest kept)
  | unconfirmed {eventID rest kept}
      (failed : (a.written && (w.cache.eventOutbox.lookup eventID).isSome) = false) :
      MainStep cfg reg w a (.confirm eventID rest kept) .none .down
  | attached : MainStep cfg reg w a (.attach []) .none .idle
  | attach {r rest name uid} (reference : podReference r.runtimeRef = some (name, uid)) :
      MainStep cfg reg w a (.attach (r :: rest)) (.addPod (r.slot name uid)) (.attach rest)
  | unattached {r rest} (reference : podReference r.runtimeRef = none) :
      MainStep cfg reg w a (.attach (r :: rest)) .none .down
  | tick : MainStep cfg reg w a .idle .none .capacity
  | full {m} (at_check : m = .capacity ∨ ∃ items, m = .each items) :
      MainStep cfg reg w a m .none .idle
  | room (capacity : w.hasClusterCapacity cfg a = true) :
      MainStep cfg reg w a .capacity .none .discover
  | undiscovered : MainStep cfg reg w a .discover .none .idle
  | discovered : MainStep cfg reg w a .discover .none (.each (w.discovered cfg))
  | running {item rest} (known : (w.pods.lookup item.taskID).isSome = true) :
      MainStep cfg reg w a (.each (item :: rest)) .none (.each rest)
  | next {item rest} (capacity : w.hasClusterCapacity cfg a = true)
      (unknown : w.pods.lookup item.taskID = none) :
      MainStep cfg reg w a (.each (item :: rest))
        (.draw (commandIDFor w.lastSeen item.taskID a.now).2)
        (.start ⟨item.taskID, item.teamID, (commandIDFor w.lastSeen item.taskID a.now).1, rest⟩
          .intent)
  | start {task stage act m} (step : StartStep cfg reg w a task stage act m) :
      MainStep cfg reg w a (.start task stage) act m

theorem mainStep_of_step {m m' : Main} {act : Act} (h : m.step cfg reg w a = some (act, m')) :
    MainStep cfg reg w a m act m' := by
  cases m with
  | down => cases h
  | reconcile =>
    cases h
    by_cases hr : a.reach = .answered
    · rw [if_pos hr]
      exact .listed hr
    · rw [if_neg hr]
      exact .unlisted hr
  | drop unmatched kept =>
    cases unmatched with
    | nil => cases h; exact .dropped
    | cons r rest => cases h; exact .drop
  | resend pending kept =>
    cases pending with
    | nil => cases h; exact .resent
    | cons event rest =>
      cases h
      by_cases hp : w.appends cfg reg a event = true
      · rw [if_pos hp]
        exact .resend hp
      · rw [if_neg hp]
        exact .unsent (Bool.eq_false_iff.mpr hp)
  | confirm eventID rest kept =>
    simp only [Main.step] at h
    split at h
    · rename_i hc
      cases h
      simp only [Bool.and_eq_true] at hc
      exact .confirm hc.2 hc.1
    · rename_i hc
      cases h
      exact .unconfirmed (Bool.eq_false_iff.mpr hc)
  | attach kept =>
    cases kept with
    | nil => cases h; exact .attached
    | cons r rest =>
      simp only [Main.step] at h
      split at h
      · rename_i name uid href
        cases h
        exact .attach href
      · rename_i href
        cases h
        exact .unattached href
  | idle => cases h; exact .tick
  | capacity =>
    cases h
    by_cases hc : w.hasClusterCapacity cfg a = true
    · rw [if_pos hc]
      exact .room hc
    · rw [if_neg hc]
      exact .full (.inl rfl)
  | discover =>
    cases h
    split
    · exact .discovered
    · exact .undiscovered
  | each items =>
    cases items with
    | nil => cases h; exact .full (.inr ⟨_, rfl⟩)
    | cons item rest =>
      simp only [Main.step] at h
      split at h
      · rename_i hc
        split at h
        · rename_i hk
          cases h
          exact .running hk
        · rename_i hk
          cases h
          exact .next hc (Option.not_isSome_iff_eq_none.mp hk)
      · cases h
        exact .full (.inr ⟨_, rfl⟩)
  | start task stage => exact .start (startStep_of_step h)

/-! ## Section 3: The goroutine of a task -/

/-- A slot before its task ends: its own fields, the conversation and the stage apart. -/
structure Slot.SameTask (slot slot' : Slot) : Prop where
  taskID : slot'.taskID = slot.taskID
  teamID : slot'.teamID = slot.teamID
  commandID : slot'.commandID = slot.commandID
  podName : slot'.podName = slot.podName
  podUID : slot'.podUID = slot.podUID

/-- The stages before `finishPodTask`. -/
def Stage.supervising : Stage → Bool
  | .installed | .watch | .health | .submit | .persist | .observe => true
  | _ => false

/-- What `runPodTask` does: its action, and the slot it leaves. -/
inductive SlotStep (cfg : ExecutorConfig) (reg : Config) (w : World) (a : Answer)
    (slot : Slot) : Act → Option Slot → Prop where
  | supervise {slot'} (at_stage : slot.stage.supervising = true)
      (started : slot.stage ≠ .installed) (same : slot.SameTask slot')
      (next : slot'.stage.supervising = true ∨
        ∃ eventType phase detail, slot'.stage = .outbox eventType phase detail ∧
          (eventType = "finished" ∨ eventType = "failed")) :
      SlotStep cfg reg w a slot .none (some slot')
  | persist (at_stage : slot.stage = .persist) :
      SlotStep cfg reg w a slot (.putAssignment a.written slot.record) (some (slot.at .observe))
  | outbox {eventType phase detail} (at_stage : slot.stage = .outbox eventType phase detail)
      (fresh : w.fresh (terminalEvent cfg a slot eventType phase detail).eventID = true) :
      SlotStep cfg reg w a slot
        (.putOutbox a.written (terminalEvent cfg a slot eventType phase detail))
        (some (slot.at (.post (terminalEvent cfg a slot eventType phase detail))))
  | posted {event} (at_stage : slot.stage = .post event)
      (appends : w.appends cfg reg a event = true) :
      SlotStep cfg reg w a slot (.append a.reach (appendCall cfg a event) event)
        (some (slot.at (.accept event.eventID)))
  | unposted {event} (at_stage : slot.stage = .post event)
      (refused : w.appends cfg reg a event = false) :
      SlotStep cfg reg w a slot (.append a.reach (appendCall cfg a event) event)
        (some (slot.at .leave))
  | accept {eventID} (at_stage : slot.stage = .accept eventID) :
      SlotStep cfg reg w a slot (.acceptOutbox a.written eventID) (some (slot.at .unassign))
  | unassign (at_stage : slot.stage = .unassign) :
      SlotStep cfg reg w a slot (.deleteAssignment a.written slot.taskID)
        (some (slot.at .delete))
  | delete (at_stage : slot.stage = .delete) :
      SlotStep cfg reg w a slot .none (some (slot.at .leave))
  | leave (at_stage : slot.stage = .leave) : SlotStep cfg reg w a slot .none none

theorem Slot.sameTask_at (slot : Slot) (stage : Stage) : slot.SameTask (slot.at stage) :=
  ⟨rfl, rfl, rfl, rfl, rfl⟩

theorem Slot.sameTask_finish (slot : Slot) (eventType phase detail : String) :
    slot.SameTask (slot.finish eventType phase detail) :=
  ⟨rfl, rfl, rfl, rfl, rfl⟩

/-- `runPodTask` goes on with its own slot, to a later stage or to `finishPodTask`. -/
theorem supervise_cases {slot slot' : Slot} {obs : Observation}
    (h : slot.supervise slot.stage obs = some slot') :
    slot.stage.supervising = true ∧ slot.stage ≠ .installed ∧ slot.SameTask slot' ∧
      (slot'.stage.supervising = true ∨
        ∃ eventType phase detail, slot'.stage = .outbox eventType phase detail ∧
          (eventType = "finished" ∨ eventType = "failed")) := by
  have hfinish : ∀ eventType phase detail : String,
      (eventType = "finished" ∨ eventType = "failed") →
      slot.SameTask (slot.finish eventType phase detail) ∧
        ((slot.finish eventType phase detail).stage.supervising = true ∨
          ∃ e p d, (slot.finish eventType phase detail).stage = .outbox e p d ∧
            (e = "finished" ∨ e = "failed")) :=
    fun e p d he => ⟨slot.sameTask_finish e p d, .inr ⟨e, p, d, rfl, he⟩⟩
  cases hs : slot.stage with
  | watch =>
    refine ⟨rfl, by simp, ?_⟩
    cases obs <;> simp only [hs, Slot.supervise, Option.some.injEq, reduceCtorEq] at h
    all_goals subst h
    · exact hfinish _ _ _ (.inr rfl)
    · exact hfinish _ _ _ (.inr rfl)
    · exact hfinish _ _ _ (.inr rfl)
    · exact ⟨slot.sameTask_at _, .inl rfl⟩
  | health =>
    refine ⟨rfl, by simp, ?_⟩
    cases obs <;> simp only [hs, Slot.supervise, Option.some.injEq, reduceCtorEq] at h
    all_goals subst h
    · exact hfinish _ _ _ (.inr rfl)
    · exact ⟨slot.sameTask_at _, .inl rfl⟩
  | submit =>
    refine ⟨rfl, by simp, ?_⟩
    simp only [hs, Slot.supervise] at h
    split at h
    · split at h
      · cases h
        exact ⟨slot.sameTask_at _, .inl rfl⟩
      · cases h
    · split at h
      · split at h
        · cases h
          exact hfinish _ _ _ (.inr rfl)
        · cases h
      · split at h
        · cases h
          exact ⟨⟨rfl, rfl, rfl, rfl, rfl⟩, .inl rfl⟩
        · cases h
          exact hfinish _ _ _ (.inr rfl)
        · cases h
  | observe =>
    refine ⟨rfl, by simp, ?_⟩
    cases obs <;> simp only [hs, Slot.supervise, Option.some.injEq, reduceCtorEq] at h
    all_goals subst h
    · apply hfinish
      split
      · exact .inl rfl
      · exact .inr rfl
    · exact hfinish _ _ _ (.inr rfl)
    · exact hfinish _ _ _ (.inr rfl)
    · exact hfinish _ _ _ (.inr rfl)
  | installed | persist | outbox | post | accept | unassign | delete | leave =>
    cases obs <;> simp [hs, Slot.supervise] at h

theorem slotStep_of_step {slot : Slot} {obs : Observation} {act : Act} {slot' : Option Slot}
    (h : slot.step cfg reg w a obs = some (act, slot')) :
    SlotStep cfg reg w a slot act slot' := by
  have hsupervise : (slot.supervise slot.stage obs).map
      (fun slot => ((.none, some slot) : Act × Option Slot)) = some (act, slot') →
      SlotStep cfg reg w a slot act slot' := by
    intro hmap
    obtain ⟨s, hs, heq⟩ := Option.map_eq_some_iff.mp hmap
    cases heq
    obtain ⟨hstage, hstarted, hsame, hnext⟩ := supervise_cases hs
    exact .supervise hstage hstarted hsame hnext
  unfold Slot.step at h
  cases hs : slot.stage with
  | installed => simp [hs] at h
  | persist =>
    simp only [hs] at h
    cases h
    by_cases hc : slot.conversationID ≠ ""
    · rw [if_pos hc]
      exact .persist hs
    · rw [if_neg hc]
      exact .supervise (by rw [hs]; rfl) (by simp [hs]) (slot.sameTask_at _) (.inl rfl)
  | outbox eventType phase detail =>
    simp only [hs] at h
    split at h
    · rename_i hf
      cases h
      exact .outbox hs hf
    · cases h
  | post event =>
    simp only [hs] at h
    cases h
    by_cases hp : w.appends cfg reg a event = true
    · rw [if_pos hp]
      exact .posted hs hp
    · rw [if_neg hp]
      exact .unposted hs (Bool.eq_false_iff.mpr hp)
  | accept eventID => simp only [hs] at h; cases h; exact .accept hs
  | unassign => simp only [hs] at h; cases h; exact .unassign hs
  | delete => simp only [hs] at h; cases h; exact .delete hs
  | leave => simp only [hs] at h; cases h; exact .leave hs
  | watch | health | submit | observe =>
    apply hsupervise
    rw [hs]
    simpa only [hs] using h

/-! ## Section 4: The system -/

/-- The inversion of a step. -/
inductive WorldStep (cfg : ExecutorConfig) (reg : Config) (w : World) :
    Label → World → Prop where
  | start (down : w.main = .down) : WorldStep cfg reg w .start { w with main := .reconcile }
  | crash (up : w.main ≠ .down) : WorldStep cfg reg w .crash w.exit
  | registry {call} (other : actsAs cfg.executorID call.op = false) :
      WorldStep cfg reg w (.registry call) { w with db := (exec reg call).commit w.db }
  | podGone {name} : WorldStep cfg reg w (.podGone name)
      { w with cluster := w.cluster.filter (fun p => p.name ≠ name) }
  | main {a act m} (step : MainStep cfg reg w a w.main act m) :
      WorldStep cfg reg w (.main a) ((w.perform reg act).goto m)
  | task {taskID a obs slot act slot'} (found : w.pods.lookup taskID = some slot)
      (step : SlotStep cfg reg w a slot act slot') :
      WorldStep cfg reg w (.task taskID a obs) ((w.perform reg act).setSlot taskID slot')

theorem worldStep_of_step {l : Label} (h : (executor cfg reg).step w l w') :
    WorldStep cfg reg w l w' := by
  change w.next cfg reg l = some w' at h
  cases l with
  | start =>
    simp only [World.next] at h
    split at h
    · rename_i hd
      cases h
      exact .start hd
    · cases h
  | crash =>
    simp only [World.next] at h
    split at h
    · cases h
    · rename_i hd
      cases h
      exact .crash hd
  | registry call =>
    simp only [World.next] at h
    split at h
    · cases h
    · rename_i hc
      cases h
      exact .registry (Bool.eq_false_iff.mpr hc)
  | podGone name =>
    cases h
    exact .podGone
  | main a =>
    obtain ⟨⟨act, m⟩, hs, rfl⟩ := Option.map_eq_some_iff.mp h
    exact .main (mainStep_of_step hs)
  | task taskID a obs =>
    simp only [World.next] at h
    split at h
    · rename_i slot hslot
      obtain ⟨⟨act, slot'⟩, hs, rfl⟩ := Option.map_eq_some_iff.mp h
      exact .task hslot (slotStep_of_step hs)
    · cases h

end FlowAI.K8s
