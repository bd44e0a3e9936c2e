import FlowAI.K8s.Cache

/-! # The Kubernetes Executor as a System

  One executor process with the State Registry, the Kubernetes API and its recovery cache
  (`v0002.go`, `pod_lifecycle.go`).  The poll goroutine and the goroutines of the tasks are
  programs: a step of one performs a single action on the world (a cache write, a request,
  a change of the shared map) and moves its program counter.  The process may end at any
  point; what it kept in memory is then gone.

  A request reaches its service and is answered, reaches it and the answer is lost, or has
  no effect.  What the watch of a Pod and OpenHands report is arbitrary.
-/

namespace FlowAI.K8s

open Registry (Db StoreError CallEnv ClaimResponse TaskEventAppendRequest)

/-! ## Section 1: The state of a process -/

structure ExecutorConfig where
  executorID : String
  scope : Registry.ExecutorScope
  teamID : Option String
  authorizedTag : String
  maxPods : Nat
  openHandsAPIKey : String

/-- Who the executor's requests come from. -/
def ExecutorConfig.identity (cfg : ExecutorConfig) (requestID : String) :
    Registry.ExecutorIdentity :=
  ⟨cfg.executorID, cfg.scope, cfg.teamID, requestID⟩

/-- A Pod that carries the labels of this executor. -/
structure Pod where
  name : String
  uid : String
  taskID : String
  commandID : String
  deriving DecidableEq

/-- The program counter of `runPodTask`; from `outbox` on it is in `finishPodTask`. -/
inductive Stage where
  /-- In the map, the goroutine not started yet. -/
  | installed
  | watch
  | health
  | submit
  | persist
  | observe
  | outbox (eventType phase detail : String)
  | post (event : TaskEventAppendRequest)
  | accept (eventID : String)
  | unassign
  | delete
  | leave
  deriving DecidableEq

/-- `podSlot`. -/
structure Slot where
  taskID : String
  teamID : String
  commandID : String
  podName : String
  podUID : String
  conversationID : String
  llmAPIKey : String
  llmBaseURL : String
  llmModel : String
  stage : Stage
  deriving DecidableEq

/-- What a discovery page says about a task. -/
structure Summary where
  taskID : String
  teamID : String
  deriving DecidableEq

/-- The task `startTaskV0002` works on, with the rest of the page. -/
structure Starting where
  taskID : String
  teamID : String
  commandID : String
  rest : List Summary
  deriving DecidableEq

/-- The program counter of `startTaskV0002`. -/
inductive StartStage where
  | intent
  | claim
  | open (response : ClaimResponse) (scopeToken : String)
  | assign (podEnv : StrMap String)
  | reserve (podEnv : StrMap String)
  | outbox (podEnv : StrMap String)
  | post (podEnv : StrMap String) (event : TaskEventAppendRequest)
  | accept (podEnv : StrMap String) (eventID : String)
  | create (podEnv : StrMap String)
  | unassign
  /-- The deferred release of the reservation on an error. -/
  | abort
  | install (podEnv : StrMap String) (uid : String)
  | release (uid : String)
  | record (uid : String)
  | spawn
  deriving DecidableEq

/-- The program counter of the poll goroutine: `reconcileCachedWork`, then the poll loop. -/
inductive Main where
  | down
  | reconcile
  | drop (unmatched kept : List AssignmentRecord)
  | resend (pending : List TaskEventAppendRequest) (kept : List AssignmentRecord)
  | confirm (eventID : String) (pending : List TaskEventAppendRequest)
      (kept : List AssignmentRecord)
  | attach (kept : List AssignmentRecord)
  | idle
  | capacity
  | discover
  | each (items : List Summary)
  | start (task : Starting) (stage : StartStage)
  deriving DecidableEq

structure World where
  db : Db
  /-- The Pods labelled with this executor, those being deleted included. -/
  cluster : List Pod
  cache : Cache
  main : Main
  /-- `e.pods`, each with the goroutine that supervises it. -/
  pods : StrMap Slot
  slotReservations : Int
  lastSeen : StrMap Nat
  /-- Ghost: the task events handed to the Registry, the latest first. -/
  sent : List TaskEventAppendRequest

/-- Before the first start. -/
def World.initial : World where
  db := .empty
  cluster := []
  cache := .empty
  main := .down
  pods := .empty
  slotReservations := 0
  lastSeen := .empty
  sent := []

/-- The end of the process. -/
def World.exit (w : World) : World :=
  { w with main := .down, pods := .empty, slotReservations := 0, lastSeen := .empty }

/-- The poll goroutine goes on at `m`. -/
def World.goto (w : World) (m : Main) : World :=
  match m with
  | .down => w.exit
  | m => { w with main := m }

/-! ## Section 2: Requests -/

/-- How a request ends. -/
inductive Reach where
  | answered
  /-- It was carried out, and the caller sees an error. -/
  | lost
  /-- It was not carried out, and the caller sees an error. -/
  | failed
  deriving DecidableEq, Repr

/-- What the surroundings contribute to a step. -/
structure Answer where
  reach : Reach
  /-- Whether the cache write of the step goes through. -/
  written : Bool
  /-- What the Registry draws while it serves the request. -/
  env : CallEnv
  requestID : String
  /-- `time.Now()` of the executor, in nanoseconds. -/
  now : Int
  /-- What `uuid.NewString` draws. -/
  uuid : String
  /-- The UID of a new Pod. -/
  uid : String

variable (cfg : ExecutorConfig) (reg : Registry.Config)

/-- The Registry after a request. -/
def Reach.commit (reach : Reach) (call : Registry.Call) (db : Db) : Db :=
  match reach with
  | .failed => db
  | _ => (Registry.exec reg call).commit db

/-- The envelope of `appendTaskEvent`. -/
def envelope (a : Answer) (taskID teamID eventType : String) (payload : Json) :
    TaskEventAppendRequest where
  eventID := "evt-" ++ a.uuid
  teamID := teamID
  taskID := taskID
  executorID := cfg.executorID
  eventType := eventType
  occurredAt := Time.formatRFC3339Nano a.now
  payload := .text payload

def claimCall (a : Answer) (taskID commandID : String) : Registry.Call :=
  ⟨a.env, .claimTask ⟨taskID, commandID⟩ cfg.executorID (cfg.identity a.requestID)⟩

def openCall (a : Answer) (taskID scopeToken : String) : Registry.Call :=
  ⟨a.env, .openEnvironment ⟨taskID, scopeToken, cfg.identity a.requestID, a.requestID⟩⟩

def appendCall (a : Answer) (event : TaskEventAppendRequest) : Registry.Call :=
  ⟨a.env, .appendTaskEvent event (cfg.identity a.requestID)⟩

/-- The Registry accepts the event and says so. -/
def World.appends (w : World) (a : Answer) (event : TaskEventAppendRequest) : Bool :=
  a.reach = .answered &&
    ((Registry.appendTaskEvent reg a.env event (cfg.identity a.requestID)).errorOf w.db).isNone

/-- `errors.Is`. -/
def isError (target : StoreError) : StoreError → Bool
  | .wrapped _ e => isError target e
  | e => e = target

/-- The refusals of a claim that `startTaskV0002` passes over: 404, and 409 for an older or
    a claimed task. -/
def claimDeclined (e : StoreError) : Bool :=
  isError .executorNotFound e || isError .taskNotFound e || isError .taskUnknown e ||
    isError .taskAlreadyClaimed e || isError .olderTaskMustBeClaimedFirst e

/-- An event identifier that was not drawn before. -/
def World.fresh (w : World) (eventID : String) : Bool :=
  (w.cache.eventOutbox.lookup eventID).isNone && (w.db.taskEvents.lookup eventID).isNone &&
    w.sent.all (fun e => e.eventID ≠ eventID)

/-! ## Section 3: Actions -/

/-- One action on the world. -/
inductive Act where
  | none
  | putAssignment (written : Bool) (record : AssignmentRecord)
  | deleteAssignment (written : Bool) (taskID : String)
  | putOutbox (written : Bool) (event : TaskEventAppendRequest)
  | acceptOutbox (written : Bool) (eventID : String)
  | request (reach : Reach) (call : Registry.Call)
  /-- The request that appends a task event. -/
  | append (reach : Reach) (call : Registry.Call) (event : TaskEventAppendRequest)
  | createPod (reach : Reach) (pod : Pod)
  | addPod (slot : Slot)
  | spawn (taskID : String)
  | reserve
  | release
  | draw (lastSeen : StrMap Nat)

/-- The API server has no Pod of this name. -/
def World.nameFree (w : World) (name : String) : Bool := w.cluster.all (fun p => p.name ≠ name)

def World.perform (w : World) : Act → World
  | .none => w
  | .putAssignment written record =>
    if written then { w with cache := w.cache.putAssignment record } else w
  | .deleteAssignment written taskID =>
    if written then { w with cache := w.cache.deleteAssignment taskID } else w
  | .putOutbox written event => if written then { w with cache := w.cache.putOutbox event } else w
  | .acceptOutbox written eventID =>
    if written then { w with cache := w.cache.acceptOutbox eventID } else w
  | .request reach call => { w with db := reach.commit reg call w.db }
  | .append reach call event =>
    { w with db := reach.commit reg call w.db, sent := event :: w.sent }
  | .createPod reach pod =>
    if reach ≠ .failed && w.nameFree pod.name then { w with cluster := w.cluster ++ [pod] } else w
  | .addPod slot => { w with pods := w.pods.insert slot.taskID slot }
  | .spawn taskID =>
    match w.pods.lookup taskID with
    | some slot => { w with pods := w.pods.insert taskID { slot with stage := .watch } }
    | Option.none => w
  | .reserve => { w with slotReservations := w.slotReservations + 1 }
  | .release =>
    if 0 < w.slotReservations then { w with slotReservations := w.slotReservations - 1 } else w
  | .draw lastSeen => { w with lastSeen }

/-! ## Section 4: The poll goroutine -/

/-- A Pod of the executor carries the command of the record. -/
def World.matched (w : World) (r : AssignmentRecord) : Bool :=
  w.cluster.any (fun p => p.commandID ≠ "" && p.commandID = r.ownerCommandID)

/-- The records `Reconcile` returns. -/
def World.kept (w : World) : List AssignmentRecord :=
  w.cache.listAssignments.filter (fun r => r.live && w.matched r)

/-- The records `Reconcile` deletes. -/
def World.unmatched (w : World) : List AssignmentRecord :=
  w.cache.listAssignments.filter (fun r => r.live && !w.matched r)

def World.freeSlots (w : World) : Int :=
  cfg.maxPods - w.pods.entries.length - w.slotReservations

/-- `hasClusterCapacity`; an error counts as no capacity, as both end the round. -/
def World.hasClusterCapacity (w : World) (a : Answer) : Bool :=
  0 < w.freeSlots cfg && a.reach = .answered && w.cluster.length < cfg.maxPods

/-- `commandIDFor` at a reading of the clock: the command and the bytes kept after it. -/
def commandIDFor (lastSeen : StrMap Nat) (taskID : String) (now : Int) : String × StrMap Nat :=
  let draw := (commandIDForStable (now % 256).toNat, lastSeen.insert taskID (now % 256).toNat)
  match lastSeen.lookup taskID with
  | some v => if v ≠ 0 then (commandIDForStable v, lastSeen) else draw
  | none => draw

/-- The page of `DiscoverTasks`, sorted. -/
def World.discovered (w : World) : List Summary :=
  match Registry.discoverExecutorTasks w.db cfg.executorID cfg.authorizedTag 100 with
  | .ok rows =>
    (rows.insertionSort (fun a b => a.position ≤ b.position)).map (fun t => ⟨t.taskID, t.teamID⟩)
  | .error _ => []

/-- `openHandsPodEnv` with the opened values. -/
def podEnvOf (values : StrMap String) : StrMap String :=
  let base : StrMap String := if cfg.openHandsAPIKey = "" then .empty
    else StrMap.insert "SESSION_API_KEY" cfg.openHandsAPIKey .empty
  values.entries.foldl (fun env e => if e.1 ≠ "SESSION_API_KEY" then env.insert e.1 e.2 else env)
    base

/-- The repository of the resolved image; empty if there is none. -/
def claimedImage (response : ClaimResponse) : String :=
  match response.resolvedImage, response.task.resolvedImage with
  | some image, _ => image.repository
  | none, some image => image.repository
  | none, none => ""

/-- On with a claimed task, unless no image was resolved. -/
def launch (task : Starting) (response : ClaimResponse) (values : StrMap String) : Main :=
  if claimedImage response = "" then .idle else .start task (.assign (podEnvOf cfg values))

/-- On after the response to a claim. -/
def afterClaim (task : Starting) (response : ClaimResponse) : Main :=
  if response.claim ≠ "claimed" then .idle
  else if response.launchParameters then
    match response.scopeToken with
    | some token => if token = "" then .idle else .start task (.open response token)
    | none => .idle
  else launch cfg task response .empty

/-- The slot of a task whose Pod was just created. -/
def Starting.slot (task : Starting) (podEnv : StrMap String) (uid : String) : Slot where
  taskID := task.taskID
  teamID := task.teamID
  commandID := task.commandID
  podName := podName task.taskID
  podUID := uid
  conversationID := ""
  llmAPIKey := (podEnv.lookup "OPENAI_API_KEY").getD ""
  llmBaseURL := (podEnv.lookup "OPENAI_BASE_URL").getD ""
  llmModel := (podEnv.lookup "OPENAI_MODEL").getD ""
  stage := .installed

/-- The assignment record of a task in `startTaskV0002`. -/
def Starting.record (task : Starting) (runtimeRef : String) (state : AssignmentState) :
    AssignmentRecord where
  taskID := task.taskID
  teamID := task.teamID
  ownerCommandID := task.commandID
  runtimeRef := runtimeRef
  conversationID := ""
  state := state

/-- The slot of a record whose Pod is still there; nothing but the conversation is known of
    the work. -/
def AssignmentRecord.slot (r : AssignmentRecord) (name uid : String) : Slot where
  taskID := r.taskID
  teamID := r.teamID
  commandID := r.ownerCommandID
  podName := name
  podUID := uid
  conversationID := r.conversationID
  llmAPIKey := ""
  llmBaseURL := ""
  llmModel := ""
  stage := .watch

def runningEvent (a : Answer) (task : Starting) : TaskEventAppendRequest :=
  envelope cfg a task.taskID task.teamID "running" (.obj [("phase", .str "running")])

/-- The steps of `startTaskV0002`.  An error ends the round of the poll loop. -/
def Starting.step (w : World) (a : Answer) (task : Starting) : StartStage → Option (Act × Main)
  | .intent =>
    if a.written then
      some (.putAssignment true (task.record "" .claiming), .start task .claim)
    else some (.none, .idle)
  | .claim =>
    some (.request a.reach (claimCall cfg a task.taskID task.commandID),
      match a.reach, Registry.claimTask reg a.env ⟨task.taskID, task.commandID⟩ cfg.executorID
        (cfg.identity a.requestID) w.db with
      | .answered, .ok (response, _) => afterClaim cfg task response
      | .answered, .error e => if claimDeclined e then .each task.rest else .idle
      | _, _ => .idle)
  | .open response token =>
    some (.request a.reach (openCall cfg a task.taskID token),
      match a.reach, Registry.openEnvironment reg a.env
        ⟨task.taskID, token, cfg.identity a.requestID, a.requestID⟩ w.db with
      | .answered, .ok (opened, _) => launch cfg task response opened.values
      | _, _ => .idle)
  | .assign podEnv =>
    some (.putAssignment a.written (task.record "" .claimed), .start task (.reserve podEnv))
  | .reserve podEnv => some (.reserve, .start task (.outbox podEnv))
  | .outbox podEnv =>
    let event := runningEvent cfg a task
    if w.fresh event.eventID then
      some (.putOutbox a.written event, .start task (.post podEnv event))
    else none
  | .post podEnv event =>
    some (.append a.reach (appendCall cfg a event) event,
      .start task (if w.appends cfg reg a event then .accept podEnv event.eventID else .abort))
  | .accept podEnv eventID => some (.acceptOutbox a.written eventID, .start task (.create podEnv))
  | .create podEnv =>
    if a.uid = "" then none
    else
      some (.createPod a.reach ⟨podName task.taskID, a.uid, task.taskID, task.commandID⟩,
        .start task (if a.reach = .answered && w.nameFree (podName task.taskID) then
          .install podEnv a.uid else .unassign))
  | .unassign => some (.deleteAssignment a.written task.taskID, .start task .abort)
  | .abort => some (.release, .idle)
  | .install podEnv uid => some (.addPod (task.slot podEnv uid), .start task (.release uid))
  | .release uid => some (.release, .start task (.record uid))
  | .record uid =>
    some (.putAssignment a.written (task.record (runtimeRef task.taskID uid) .running),
      .start task .spawn)
  | .spawn => some (.spawn task.taskID, .each task.rest)

/-- The steps of the poll goroutine. -/
def Main.step (w : World) (a : Answer) : Main → Option (Act × Main)
  | .down => none
  -- `reconcileCachedWork`
  | .reconcile =>
    some (.none, if a.reach = .answered then .drop w.unmatched w.kept else .down)
  | .drop [] kept => some (.none, .resend w.cache.pendingOutbox kept)
  | .drop (r :: rest) kept => some (.deleteAssignment a.written r.taskID, .drop rest kept)
  | .resend [] kept => some (.none, .attach kept)
  | .resend (event :: rest) kept =>
    some (.append a.reach (appendCall cfg a event) event,
      if w.appends cfg reg a event then .confirm event.eventID rest kept else .down)
  | .confirm eventID rest kept =>
    if a.written && (w.cache.eventOutbox.lookup eventID).isSome then
      some (.acceptOutbox true eventID, .resend rest kept)
    else some (.none, .down)
  | .attach [] => some (.none, .idle)
  | .attach (r :: rest) =>
    match podReference r.runtimeRef with
    | some (name, uid) => some (.addPod (r.slot name uid), .attach rest)
    | none => some (.none, .down)
  -- the poll loop and `tickV0002`
  | .idle => some (.none, .capacity)
  | .capacity => some (.none, if w.hasClusterCapacity cfg a then .discover else .idle)
  | .discover => some (.none, if a.reach = .answered then .each (w.discovered cfg) else .idle)
  | .each [] => some (.none, .idle)
  | .each (item :: rest) =>
    if w.hasClusterCapacity cfg a then
      if (w.pods.lookup item.taskID).isSome then some (.none, .each rest)
      else
        let command := commandIDFor w.lastSeen item.taskID a.now
        some (.draw command.2, .start ⟨item.taskID, item.teamID, command.1, rest⟩ .intent)
    else some (.none, .idle)
  | .start task stage => task.step cfg reg w a stage

/-! ## Section 5: The goroutine of a task -/

/-- What the watch, OpenHands and the controls of a task report. -/
inductive Observation where
  | step
  | watchFailed (err : String)
  | podFailed
  | watchClosed
  | podReady
  | unhealthy (err : String)
  | healthy
  | submitFailed (err : String)
  | submitted (conversationID : String)
  | terminal (status : String)
  | streamFailed (err : String)
  | cancelled
  | podEnded (detail : String)
  deriving DecidableEq

/-- On to `finishPodTask`. -/
def Slot.finish (slot : Slot) (eventType phase detail : String) : Slot :=
  { slot with stage := .outbox eventType phase detail }

def Slot.at (slot : Slot) (stage : Stage) : Slot := { slot with stage }

def missingLaunchParameters : String :=
  "task launch parameters require OPENAI_API_KEY, OPENAI_BASE_URL, and OPENAI_MODEL"

def terminalEvent (a : Answer) (slot : Slot) (eventType phase detail : String) :
    TaskEventAppendRequest :=
  envelope cfg a slot.taskID slot.teamID eventType
    (.obj [("detail", .str detail), ("phase", .str phase)])

/-- The record `runPodTask` writes once the conversation is known. -/
def Slot.record (slot : Slot) : AssignmentRecord where
  taskID := slot.taskID
  teamID := slot.teamID
  ownerCommandID := slot.commandID
  runtimeRef := slot.podName ++ "@" ++ slot.podUID
  conversationID := slot.conversationID
  state := .running

/-- `runPodTask` up to the call of `finishPodTask`: the slot it leaves. -/
def Slot.supervise (slot : Slot) : Stage → Observation → Option Slot
  | .watch, .watchFailed err => some (slot.finish "failed" "watch" err)
  | .watch, .podFailed => some (slot.finish "failed" "pod" "pod failed before OpenHands became ready")
  | .watch, .watchClosed =>
    some (slot.finish "failed" "watch" "pod watch closed before pod became ready")
  | .watch, .podReady => some (slot.at .health)
  | .health, .unhealthy err => some (slot.finish "failed" "health_check" err)
  | .health, .healthy => some (slot.at .submit)
  | .submit, obs =>
    if slot.conversationID ≠ "" then
      if obs = .step then some (slot.at .persist) else none
    else if slot.llmAPIKey = "" || slot.llmBaseURL = "" || slot.llmModel = "" then
      if obs = .step then some (slot.finish "failed" "submit" missingLaunchParameters) else none
    else
      match obs with
      | .submitted id => some { slot with conversationID := id, stage := .persist }
      | .submitFailed err => some (slot.finish "failed" "submit" err)
      | _ => none
  | .observe, .terminal status =>
    some (slot.finish (if status = "finished" then "finished" else "failed") "terminal_state" status)
  | .observe, .streamFailed err => some (slot.finish "failed" "stream" err)
  | .observe, .cancelled => some (slot.finish "failed" "control" "cancel")
  | .observe, .podEnded detail => some (slot.finish "failed" "pod" detail)
  | _, _ => none

/-- The steps of `runPodTask`; the last one takes the slot out of the map.  `DeletePod`
    only asks: the Pod goes later. -/
def Slot.step (w : World) (a : Answer) (obs : Observation) (slot : Slot) :
    Option (Act × Option Slot) :=
  match slot.stage with
  | .installed => none
  | .persist =>
    some (if slot.conversationID ≠ "" then .putAssignment a.written slot.record else .none,
      some (slot.at .observe))
  | .outbox eventType phase detail =>
    let event := terminalEvent cfg a slot eventType phase detail
    if w.fresh event.eventID then some (.putOutbox a.written event, some (slot.at (.post event)))
    else none
  | .post event =>
    some (.append a.reach (appendCall cfg a event) event,
      some (slot.at (if w.appends cfg reg a event then .accept event.eventID else .leave)))
  | .accept eventID => some (.acceptOutbox a.written eventID, some (slot.at .unassign))
  | .unassign => some (.deleteAssignment a.written slot.taskID, some (slot.at .delete))
  | .delete => some (.none, some (slot.at .leave))
  | .leave => some (.none, none)
  | stage => (slot.supervise stage obs).map (fun slot => (.none, some slot))

/-! ## Section 6: The system -/

inductive Label where
  /-- The process starts; it is registered. -/
  | start
  /-- The process ends, wherever its goroutines are. -/
  | crash
  /-- A call of another client of the Registry. -/
  | registry (call : Registry.Call)
  /-- A Pod is gone. -/
  | podGone (name : String)
  | main (a : Answer)
  | task (taskID : String) (a : Answer) (obs : Observation)

/-- Claims and task events under the name of this executor are its own. -/
def actsAs (executorID : String) : Registry.Op → Bool
  | .claimTask _ id identity => id = executorID || identity.executorID = executorID
  | .appendTaskEvent _ identity => identity.executorID = executorID
  | _ => false

/-- The map after a step of the goroutine of a task. -/
def World.setSlot (w : World) (taskID : String) : Option Slot → World
  | some slot => { w with pods := w.pods.insert taskID slot }
  | none => { w with pods := w.pods.erase taskID }

def World.next (w : World) : Label → Option World
  | .start =>
    match w.main with
    | .down => some { w with main := .reconcile }
    | _ => none
  | .crash =>
    match w.main with
    | .down => none
    | _ => some w.exit
  | .registry call =>
    if actsAs cfg.executorID call.op then none
    else some { w with db := (Registry.exec reg call).commit w.db }
  | .podGone name => some { w with cluster := w.cluster.filter (fun p => p.name ≠ name) }
  | .main a => (w.main.step cfg reg w a).map (fun r => (w.perform reg r.1).goto r.2)
  | .task taskID a obs =>
    match w.pods.lookup taskID with
    | some slot =>
      (slot.step cfg reg w a obs).map (fun r => (w.perform reg r.1).setSlot taskID r.2)
    | none => none

/-- The executor with its surroundings, from an empty Registry and an empty cache. -/
def executor : System World Label := .ofNext (· = World.initial) (World.next cfg reg)

variable {cfg reg} in
theorem reachable_of_follow {ls : List Label} {w : World}
    (h : System.follow (World.next cfg reg) World.initial ls = some w) :
    (executor cfg reg).Reachable w :=
  System.Reachable.of_follow rfl h

/-! ## Section 7: A small deployment

  The executor of the Registry's sample deployment, with room for one Pod.  Statements of
  later modules are evaluated on its runs. -/

def sampleExecutor : ExecutorConfig := ⟨"exec", .system, none, "go", 1, ""⟩

/-- A step at a second in which everything goes well. -/
def sampleAnswer (name : String) (second : Int) : Answer where
  reach := .answered
  written := true
  env := Registry.sampleEnv name second
  requestID := "request"
  now := second * 1000000000
  uuid := name
  uid := "uid"

/-- The deployment with one pending task. -/
def sampleRegistry : List Label :=
  (Registry.sampleSetup ++ [Registry.sampleIngest "task" "1" 5]).map .registry

/-- A start with nothing to recover, up to the poll loop. -/
def sampleStart : List Label :=
  .start :: List.replicate 4 (.main (sampleAnswer "start" 6))

/-- A round of the poll loop up to the claim of the task. -/
def sampleRound : List Label :=
  List.replicate 5 (.main (sampleAnswer "round" 7)) ++ [.main (sampleAnswer "claim" 8)]

/-- From the claim to the request that creates the Pod. -/
def sampleLaunch : List Label :=
  [.main (sampleAnswer "assign" 9), .main (sampleAnswer "reserve" 9),
    .main (sampleAnswer "running" 10), .main (sampleAnswer "post" 10),
    .main (sampleAnswer "accept" 10), .main (sampleAnswer "create" 11)]

/-- From the new Pod to the end of the round, the goroutine of the task started. -/
def sampleInstall : List Label :=
  List.replicate 5 (.main (sampleAnswer "install" 12))

end FlowAI.K8s
