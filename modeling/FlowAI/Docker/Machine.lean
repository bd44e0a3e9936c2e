import FlowAI.Executors.Images

/-! # The Docker Executor as a System

  One process of the Docker executor (`executor.go`, `v0002.go`, `task_controls.go`): the poll
  goroutine, which starts tasks one after the other, and for every started task three more
  goroutines, which run the conversation, watch the container and watch for a cancel.  They
  share the maps of the process, its port mark and the terminal flag of the slot.  A step of
  a goroutine performs one action on what is shared and moves its program counter.

  What Docker, OpenHands and the Registry answer is arbitrary.  Of the Registry only this is
  assumed: a claim is answered with the task it was made for, and a task is granted to one
  command (`World.GrantedIn.claimTask`).  Of Docker: a container that failed to start is not
  there, and `StopContainer`, or `ForceKill` after it, removes the container.
-/

namespace FlowAI.Docker

open Registry (ClaimResponse TaskEventAppendRequest)

/-! ## Section 1: Configuration -/

structure Config where
  executorID : String
  dockerSocketPath : String
  maxContainers : Int
  openHandsPortStart : Int
  openHandsPortEnd : Int
  stateRegistryURL : String
  scope : String
  teamID : String
  authorizedTag : String
  webSocketDialTimeout : Int
  openHandsStartupTO : Int
  openHandsDrainTO : Int
  openHandsWorkspace : String
  finishedCleanupDelay : Int
  failedCleanupDelay : Int

/-- One check of `Validate`. -/
def reject (bad : Bool) (message : String) : Except String Unit :=
  if bad then .error message else .ok ()

/-- The number of host ports of the range. -/
def Config.rangeSize (c : Config) : Int := c.openHandsPortEnd - c.openHandsPortStart + 1

/-- `Validate`; `httpURL` says that an address parses as one with scheme http or https and a
    host. -/
def Config.validate (httpURL : String → Bool) (c : Config) : Except String Unit := do
  reject (Registry.trimSpace c.dockerSocketPath = "")
    "DOCKER_SOCKET_PATH must be configured explicitly"
  reject (c.maxContainers < 1) "EXECUTOR_MAX_CONTAINERS must be >= 1"
  reject (c.openHandsPortEnd ≤ c.openHandsPortStart)
    "OPENHANDS_HOST_PORT_END must be > OPENHANDS_HOST_PORT_START"
  reject (c.rangeSize < c.maxContainers)
    ("host port range size (" ++ toString c.rangeSize ++
      ") must be >= EXECUTOR_MAX_CONTAINERS (" ++ toString c.maxContainers ++ ")")
  reject (c.stateRegistryURL = "") "EXECUTOR_STATE_REGISTRY_URL is required"
  reject (c.scope ≠ "team" && c.scope ≠ "system") "EXECUTOR_SCOPE must be team or system"
  reject (c.scope = "team" && c.teamID = "") "EXECUTOR_TEAM_ID is required for team scope"
  reject (c.scope = "system" && c.teamID ≠ "") "EXECUTOR_TEAM_ID must be empty for system scope"
  reject (c.authorizedTag = "") "EXECUTOR_AUTHORIZED_TAG must be non-empty"
  reject (!httpURL c.stateRegistryURL)
    ("EXECUTOR_STATE_REGISTRY_URL must use http or https scheme, got \"" ++
      c.stateRegistryURL ++ "\"")
  reject (c.webSocketDialTimeout ≤ 0) "OPENHANDS_WS_DIAL_TIMEOUT_SECONDS must be > 0"
  reject (c.openHandsStartupTO ≤ 0) "OPENHANDS_STARTUP_TIMEOUT_SECONDS must be > 0"
  reject (c.openHandsDrainTO ≤ 0) "OPENHANDS_DRAIN_TIMEOUT_SECONDS must be > 0"
  reject (c.openHandsWorkspace = "") "OPENHANDS_WORKSPACE must be non-empty"
  reject (c.finishedCleanupDelay < 0) "EXECUTOR_FINISHED_CLEANUP_DELAY must be >= 0"
  reject (c.failedCleanupDelay < 0) "EXECUTOR_FAILED_CLEANUP_DELAY must be >= 0"

/-! ## Section 2: The state of a process -/

/-- The program counter of `runTaskV0002`; from `terminalize` on it runs its deferred calls. -/
inductive Stage where
  /-- In the map, the goroutines not started yet. -/
  | installed
  | health
  | submit
  | stream
  /-- An error: about to claim the terminal flag. -/
  | fail (phase err : String)
  /-- A terminal status: about to claim the terminal flag. -/
  | ended (status : String)
  /-- The flag is claimed, the event is not submitted yet. -/
  | report (eventType : String) (payload : List (String × Json))
  | terminalize
  | releasePort
  | forget
  | cleanup
  | remove
  | done
  deriving DecidableEq

/-- The program counter of `watchContainerExitV0002`. -/
inductive ExitStage where
  | off
  | watching
  | report
  | done
  deriving DecidableEq

/-- The program counter of `watchTaskControls` and `applyCancelControl`. -/
inductive ControlStage where
  | off
  | watching
  | acknowledge (controlID : String)
  | pause (controlID : String)
  /-- The pause failed: about to say so. -/
  | refuse (controlID : String)
  | complete (controlID : String)
  | claim
  | report
  | done
  deriving DecidableEq

/-- `taskSlot`, with the program counters of its goroutines. -/
structure Slot where
  taskID : String
  teamID : String
  containerID : String
  hostPort : Int
  llmAPIKey : String
  llmBaseURL : String
  llmModel : String
  terminal : Bool
  stage : Stage
  exitWatch : ExitStage
  controlWatch : ControlStage
  deriving DecidableEq

/-- `taskLifecycle`; a missing entry is `taskLifecycleNone`. -/
inductive Lifecycle where
  | running
  | terminal
  deriving DecidableEq

/-- The task `startTaskV0002` works on, with the rest of the page. -/
structure Starting where
  taskID : String
  commandID : String
  rest : List String
  deriving DecidableEq

/-- What `startTaskV0002` knows once it has a port. -/
structure Launch where
  teamID : String
  values : StrMap String
  imageRef : String
  port : Int
  deriving DecidableEq

/-- The program counter of `startTaskV0002`. -/
inductive StartStage where
  | claim
  | mark (response : ClaimResponse)
  | reserve (response : ClaimResponse)
  | wait (response : ClaimResponse)
  | running (response : ClaimResponse)
  | open (response : ClaimResponse) (scopeToken : String)
  | image (response : ClaimResponse) (values : StrMap String)
  | port (response : ClaimResponse) (values : StrMap String) (imageRef : String)
  | pull (launch : Launch)
  | create (launch : Launch)
  | install (launch : Launch) (containerID : String)
  | release (containerID : String)
  | spawn (containerID : String)
  /-- `terminalizeAcceptedV0002`, then the report of the phase, if there is one. -/
  | forget (report : Option (String × String))
  | report (teamID phase : String)
  /-- The deferred release of the reservation. -/
  | abort
  deriving DecidableEq

/-- The program counter of the poll goroutine, which drains the slots at the end. -/
inductive Main where
  | idle
  | each (items : List String)
  | start (task : Starting) (stage : StartStage)
  | drain (containers : List String)
  deriving DecidableEq

structure World where
  main : Main
  /-- `e.slots`: the slot objects by task, named by their containers. -/
  slots : StrMap String
  /-- The slot objects, those that left the map included. -/
  objects : StrMap Slot
  slotReservations : Int
  nextPort : Int
  acceptedTasks : StrMap Lifecycle
  commandIDs : StrMap String
  /-- The task containers of this process that Docker has. -/
  containers : List String
  /-- The command the Registry granted a task to. -/
  granted : StrMap String
  /-- Ghost: the tasks whose `running` event the Registry accepted. -/
  accepted : List String
  /-- Ghost: the task events submitted to the Registry, the latest first. -/
  sent : List TaskEventAppendRequest

variable (cfg : Config)

/-- `New`. -/
def World.initial : World where
  main := .idle
  slots := .empty
  objects := .empty
  slotReservations := 0
  nextPort := cfg.openHandsPortStart
  acceptedTasks := .empty
  commandIDs := .empty
  containers := []
  granted := .empty
  accepted := []
  sent := []

/-! ## Section 3: What the goroutines read -/

/-- How a request to the Registry ends. -/
inductive Reach where
  | answered
  /-- It was carried out, and the caller sees an error. -/
  | lost
  /-- It was not carried out, and the caller sees an error. -/
  | failed
  deriving DecidableEq

/-- What the surroundings contribute to a step. -/
structure Answer where
  reach : Reach
  /-- How a call to Docker or OpenHands, or a wait, ends. -/
  ok : Bool
  /-- The tasks of a discovery page, sorted. -/
  items : List String
  /-- What the Registry answers a claim; `none` if it refuses. -/
  response : Option ClaimResponse
  /-- The refusal of the claim is one of those that are passed over. -/
  declined : Bool
  /-- The opened values; `none` is an error. -/
  values : Option (StrMap String)
  /-- What `uuid.NewString` draws. -/
  uuid : String
  /-- `time.Now()`, in nanoseconds. -/
  now : Int
  /-- The identifier of a new container. -/
  containerID : String
  /-- A pending cancel control. -/
  controlID : String

/-- `v2002FreeSlots`. -/
def World.freeSlots (w : World) : Int :=
  cfg.maxContainers - w.slots.entries.length - w.slotReservations

/-- An installed slot has the port. -/
def World.portUsed (w : World) (p : Int) : Bool :=
  w.slots.entries.any (fun e => (w.objects.lookup e.2).any (fun slot => slot.hostPort = p))

/-- `allocatePort`, without the new mark. -/
def World.allocatePort (w : World) : Option Int :=
  ((List.range (cfg.openHandsPortEnd + 1 - w.nextPort).toNat).map
    (fun i : Nat => w.nextPort + (i : Int))).find? (fun p => !w.portUsed p)

/-- `v0002TaskTeamID`. -/
def World.taskTeamID (w : World) (taskID : String) : String :=
  match (w.slots.lookup taskID).bind w.objects.lookup with
  | some slot => slot.teamID
  | none => if cfg.scope = "team" then cfg.teamID else ""

/-- The Registry may answer the claim of the task so. -/
def World.grants (w : World) (task : Starting) (response : ClaimResponse) : Bool :=
  response.task.taskID = task.taskID &&
    (match w.granted.lookup task.taskID with
    | some commandID => decide (commandID = task.commandID)
    | none => true)

/-- A command that no task was granted to. -/
def World.newCommand (w : World) (commandID : String) : Bool :=
  w.granted.entries.all (fun e => e.2 ≠ commandID)

/-- A container identifier that Docker has not given out. -/
def World.newContainer (w : World) (id : String) : Bool :=
  (w.objects.lookup id).isNone && w.containers.all (· ≠ id)

/-- The envelope of `appendV0002TaskEventForTeam`. -/
def envelope (a : Answer) (taskID teamID eventType : String) (payload : List (String × Json)) :
    TaskEventAppendRequest where
  eventID := "evt-" ++ a.uuid
  teamID := teamID
  taskID := taskID
  executorID := cfg.executorID
  eventType := eventType
  occurredAt := Time.formatRFC3339Nano a.now
  payload := .text (.obj payload)

/-! ## Section 4: Actions -/

/-- One action on what the goroutines share. -/
inductive Act where
  | none
  | command (taskID commandID : String)
  | grant (taskID commandID : String)
  | markAccepted (taskID : String) (stage : Lifecycle)
  | terminalizeAccepted (taskID : String)
  | forgetCommand (taskID : String)
  | reserve
  | release
  | append (reach : Reach) (event : TaskEventAppendRequest)
  | takePort (port : Int)
  | releasePort (port : Int)
  | startContainer (id : String)
  | removeContainer (id : String)
  | addSlot (slot : Slot)
  | spawn (containerID : String)
  | removeSlot (taskID : String)

/-- The goroutines of a slot start. -/
def Slot.spawned (slot : Slot) : Slot := { slot with stage := .health, exitWatch := .watching }

def World.perform (w : World) : Act → World
  | .none => w
  | .command taskID commandID => { w with commandIDs := w.commandIDs.insert taskID commandID }
  | .grant taskID commandID => { w with granted := w.granted.insert taskID commandID }
  | .markAccepted taskID stage => { w with acceptedTasks := w.acceptedTasks.insert taskID stage }
  | .terminalizeAccepted taskID =>
    { w with acceptedTasks := w.acceptedTasks.erase taskID,
             commandIDs := w.commandIDs.erase taskID }
  | .forgetCommand taskID => { w with commandIDs := w.commandIDs.erase taskID }
  | .reserve => { w with slotReservations := w.slotReservations + 1 }
  | .release =>
    { w with slotReservations :=
        if 0 < w.slotReservations then w.slotReservations - 1 else w.slotReservations }
  | .append reach event =>
    { w with sent := event :: w.sent,
             accepted := if event.eventType = "running" ∧ reach ≠ .failed then
               event.taskID :: w.accepted else w.accepted }
  | .takePort port => { w with nextPort := port + 1 }
  | .releasePort port => { w with nextPort := if port < w.nextPort then port else w.nextPort }
  | .startContainer id => { w with containers := id :: w.containers }
  | .removeContainer id => { w with containers := w.containers.filter (· ≠ id) }
  | .addSlot slot =>
    { w with slots := w.slots.insert slot.taskID slot.containerID,
             objects := w.objects.insert slot.containerID slot }
  | .spawn containerID =>
    { w with objects := match w.objects.lookup containerID with
        | some slot => w.objects.insert containerID slot.spawned
        | Option.none => w.objects }
  | .removeSlot taskID => { w with slots := w.slots.erase taskID }

/-! ## Section 5: The poll goroutine -/

/-- On with a task whose `running` event was accepted. -/
def afterRunning (response : ClaimResponse) : StartStage :=
  if response.launchParameters then
    match response.scopeToken with
    | some token => if token = "" then .abort else .open response token
    | none => .abort
  else .image response .empty

/-- The slot `startTaskV0002` installs. -/
def Starting.slot (task : Starting) (launch : Launch) (containerID : String) : Slot where
  taskID := task.taskID
  teamID := launch.teamID
  containerID := containerID
  hostPort := launch.port
  llmAPIKey := (launch.values.lookup "OPENAI_API_KEY").getD ""
  llmBaseURL := (launch.values.lookup "OPENAI_BASE_URL").getD ""
  llmModel := (launch.values.lookup "OPENAI_MODEL").getD ""
  terminal := false
  stage := .installed
  exitWatch := .off
  controlWatch := .off

def runningEvent (a : Answer) (task : Starting) (response : ClaimResponse) :
    TaskEventAppendRequest :=
  envelope cfg a task.taskID response.task.teamID "running" [("phase", .str "running")]

/-- The steps of `startTaskV0002`.  An error ends the round of the poll loop. -/
def Starting.step (w : World) (a : Answer) (task : Starting) : StartStage → Option (Act × Main)
  | .claim =>
    match a.reach, a.response with
    | .failed, _ => some (.none, .idle)
    | reach, some response =>
      if w.grants task response then
        some (.grant task.taskID task.commandID,
          if reach = .answered && response.claim = "claimed" then .start task (.mark response)
          else .idle)
      else none
    | reach, none =>
      some (.none, if reach = .answered && a.declined then .each task.rest else .idle)
  | .mark response =>
    match w.acceptedTasks.lookup task.taskID with
    | some _ => some (.none, .idle)
    | none => some (.markAccepted task.taskID .running, .start task (.reserve response))
  | .reserve response => some (.reserve, .start task (.wait response))
  | .wait response =>
    some (.none, .start task (if a.ok then .running response else .forget none))
  | .running response =>
    some (.append a.reach (runningEvent cfg a task response),
      .start task (if a.reach = .answered then afterRunning response else .forget none))
  | .open response _ =>
    some (.none, .start task (match a.values with
      | some values => .image response values
      | none => .forget (some (response.task.teamID, "environment_open"))))
  | .image response values =>
    some (.none, .start task (match Executors.dockerImageRef response with
      | some imageRef => .port response values imageRef
      | none => .forget none))
  | .port response values imageRef =>
    match w.allocatePort cfg with
    | some port =>
      some (.takePort port, .start task (.pull ⟨response.task.teamID, values, imageRef, port⟩))
    | none => some (.none, .start task (.forget none))
  | .pull launch =>
    if a.ok then some (.none, .start task (.create launch))
    else some (.releasePort launch.port, .start task (.forget (some (launch.teamID, "image_pull"))))
  | .create launch =>
    if a.ok then
      if w.newContainer a.containerID then
        some (.startContainer a.containerID, .start task (.install launch a.containerID))
      else none
    else
      some (.releasePort launch.port,
        .start task (.forget (some (launch.teamID, "container_create"))))
  | .install launch containerID =>
    some (.addSlot (task.slot launch containerID), .start task (.release containerID))
  | .release containerID => some (.release, .start task (.spawn containerID))
  | .spawn containerID => some (.spawn containerID, .each task.rest)
  | .forget report =>
    some (.terminalizeAccepted task.taskID, .start task (match report with
      | some (teamID, phase) => .report teamID phase
      | none => .abort))
  | .report teamID phase =>
    some (.append a.reach (envelope cfg a task.taskID teamID "failed" [("phase", .str phase)]),
      .start task .abort)
  | .abort => some (.release, .idle)

/-- The steps of the poll goroutine: `tickV0002`, then `drain`. -/
def Main.step (w : World) (a : Answer) : Main → Option (Act × Main)
  | .idle =>
    some (.none, if w.freeSlots cfg = 0 then .idle
      else if a.reach = .answered then .each a.items else .idle)
  | .each [] => some (.none, .idle)
  | .each (item :: rest) =>
    if w.freeSlots cfg ≤ 0 then some (.none, .idle)
    else if (w.acceptedTasks.lookup item).isSome then some (.none, .each rest)
    else if (w.slots.lookup item).isSome then some (.none, .each rest)
    else
      -- `commandIDFor`
      match (w.commandIDs.lookup item).filter (· ≠ "") with
      | some commandID => some (.none, .start ⟨item, commandID, rest⟩ .claim)
      | none =>
        if w.newCommand ("cmd-" ++ a.uuid) then
          some (.command item ("cmd-" ++ a.uuid), .start ⟨item, "cmd-" ++ a.uuid, rest⟩ .claim)
        else none
  | .start task stage => task.step cfg w a stage
  | .drain [] => none
  | .drain (id :: rest) => some (if a.ok then .removeContainer id else .none, .drain rest)

/-! ## Section 6: The goroutines of a task -/

/-- What `runTaskV0002` hears from OpenHands. -/
inductive Observation where
  | step
  | healthy
  | unhealthy (err : String)
  | submitted
  | submitFailed (err : String)
  | terminal (status : String)
  /-- The WebSocket closes normally. -/
  | closed
  | streamFailed (err : String)
  deriving DecidableEq

def missingLaunchParameters : String :=
  "task launch parameters require OPENAI_API_KEY, OPENAI_BASE_URL, and OPENAI_MODEL"

def Slot.at (slot : Slot) (stage : Stage) : Slot := { slot with stage }

/-- `claimTerminal`, then the report, for the winner. -/
def Slot.claimTerminal (slot : Slot) (eventType : String) (payload : List (String × Json)) : Slot :=
  if slot.terminal then slot.at .terminalize
  else { slot with terminal := true, stage := .report eventType payload }

/-- `runTaskV0002` while it waits for OpenHands. -/
def Slot.supervise (slot : Slot) : Stage → Observation → Option Slot
  | .health, .healthy => some (slot.at .submit)
  | .health, .unhealthy err => some (slot.at (.fail "health_check" err))
  | .submit, obs =>
    if slot.llmAPIKey = "" || slot.llmBaseURL = "" || slot.llmModel = "" then
      if obs = .step then some (slot.at (.fail "submit" missingLaunchParameters)) else none
    else
      match obs with
      | .submitted => some { slot with stage := .stream, controlWatch := .watching }
      | .submitFailed err => some (slot.at (.fail "submit" err))
      | _ => none
  | .stream, .terminal status => some (slot.at (.ended status))
  | .stream, .closed => some (slot.at .terminalize)
  | .stream, .streamFailed err => some (slot.at (.fail "stream" err))
  | _, _ => none

/-- The steps of `runTaskV0002`. -/
def Slot.run (w : World) (a : Answer) (obs : Observation) (slot : Slot) : Option (Act × Slot) :=
  match slot.stage with
  | .installed => none
  | .done => none
  | .fail phase err =>
    some (.none, slot.claimTerminal "failed" [("error", .str err), ("phase", .str phase)])
  | .ended status =>
    some (.none, slot.claimTerminal (if status = "finished" then "finished" else "failed")
      [("openhands_status", .str status), ("phase", .str "terminal_state")])
  | .report eventType payload =>
    some (.append a.reach
        (envelope cfg a slot.taskID (w.taskTeamID cfg slot.taskID) eventType payload),
      slot.at .terminalize)
  | .terminalize =>
    some (if slot.terminal then .none else .markAccepted slot.taskID .terminal,
      { slot with terminal := true, stage := .releasePort })
  | .releasePort => some (.releasePort slot.hostPort, slot.at .forget)
  | .forget => some (.forgetCommand slot.taskID, slot.at .cleanup)
  | .cleanup => some (.removeContainer slot.containerID, slot.at .remove)
  | .remove => some (.removeSlot slot.taskID, slot.at .done)
  | stage => (slot.supervise stage obs).map (fun slot => (.none, slot))

/-- The steps of `watchContainerExitV0002`; `ok` says that the container died. -/
def Slot.watchExit (w : World) (a : Answer) (slot : Slot) : Option (Act × Slot) :=
  match slot.exitWatch with
  | .off | .done => none
  | .watching =>
    some (.none, if a.ok && !slot.terminal then { slot with terminal := true, exitWatch := .report }
      else { slot with exitWatch := .done })
  | .report =>
    some (.append a.reach (envelope cfg a slot.taskID (w.taskTeamID cfg slot.taskID) "failed"
        [("failure_reason", .str "container_exited_before_finish"),
          ("phase", .str "container_exit")]),
      { slot with exitWatch := .done })

/-- The steps of `watchTaskControls`; `ok` says that a cancel is pending.  The watch ends with
    the first one, however `applyCancelControl` goes. -/
def Slot.watchControls (w : World) (a : Answer) (slot : Slot) : Option (Act × Slot) :=
  match slot.controlWatch with
  | .off | .done => none
  | .watching =>
    some (.none, { slot with controlWatch := if a.ok then .acknowledge a.controlID else .done })
  | .acknowledge id =>
    some (.none, { slot with controlWatch := if a.reach = .answered then .pause id else .done })
  | .pause id =>
    some (.none, { slot with controlWatch := if a.ok then .complete id else .refuse id })
  | .refuse _ => some (.none, { slot with controlWatch := .done })
  | .complete _ =>
    some (.none, { slot with controlWatch := if a.reach = .answered then .claim else .done })
  | .claim =>
    some (.none, if slot.terminal then { slot with controlWatch := .done }
      else { slot with terminal := true, controlWatch := .report })
  | .report =>
    some (.append a.reach (envelope cfg a slot.taskID (w.taskTeamID cfg slot.taskID) "failed"
        [("control", .str "cancel"), ("phase", .str "control")]),
      { slot with controlWatch := .done })

/-- Which goroutine of a slot moves. -/
inductive Move where
  | run (obs : Observation)
  | exit
  | control

def Slot.step (w : World) (a : Answer) (slot : Slot) : Move → Option (Act × Slot)
  | .run obs => slot.run cfg w a obs
  | .exit => slot.watchExit cfg w a
  | .control => slot.watchControls cfg w a

/-! ## Section 7: The system -/

inductive Label where
  | main (a : Answer)
  /-- The poll loop sees the end of its context. -/
  | stop
  | task (containerID : String) (move : Move) (a : Answer)
  /-- Someone else removes a container. -/
  | containerGone (id : String)

/-- The poll goroutine goes on at `m`. -/
def World.goto (w : World) (m : Main) : World := { w with main := m }

/-- A goroutine leaves its slot so. -/
def World.setObject (w : World) (containerID : String) (slot : Slot) : World :=
  { w with objects := w.objects.insert containerID slot }

def World.next (w : World) : Label → Option World
  | .main a => (w.main.step cfg w a).map (fun r => (w.perform r.1).goto r.2)
  | .stop =>
    match w.main with
    | .idle => some (w.goto (.drain (w.slots.entries.map (·.2))))
    | _ => none
  | .task containerID move a =>
    match w.objects.lookup containerID with
    | some slot =>
      (slot.step cfg w a move).map (fun r => (w.perform r.1).setObject containerID r.2)
    | none => none
  | .containerGone id => some { w with containers := w.containers.filter (· ≠ id) }

/-- The executor from its construction on. -/
def executor : System World Label := .ofNext (· = World.initial cfg) (World.next cfg)

variable {cfg} in
theorem reachable_of_follow {ls : List Label} {w : World}
    (h : System.follow (World.next cfg) (World.initial cfg) ls = some w) :
    (executor cfg).Reachable w :=
  System.Reachable.of_follow rfl h

/-! ## Section 8: A small deployment

  Two containers on two ports.  Statements of later modules are evaluated on its runs. -/

def sampleConfig : Config where
  executorID := "exec"
  dockerSocketPath := "/var/run/docker.sock"
  maxContainers := 2
  openHandsPortStart := 8000
  openHandsPortEnd := 8001
  stateRegistryURL := "http://registry"
  scope := "team"
  teamID := "team"
  authorizedTag := "go"
  webSocketDialTimeout := 1
  openHandsStartupTO := 1
  openHandsDrainTO := 1
  openHandsWorkspace := "/workspace"
  finishedCleanupDelay := 0
  failedCleanupDelay := 0

/-- The Registry's answer to the claim of a task without launch parameters. -/
def sampleResponse (taskID : String) : ClaimResponse where
  claim := "claimed"
  task := {
    taskID := taskID
    teamID := "team"
    sourceSystemID := "source"
    sourceID := "1"
    taskTypeID := "type"
    requiredTag := "go"
    payload := .null
    currentState := .created
    ownerCommandID := none
    executorID := none
    projectID := none
    image := none
    resolvedImage := none
    imageSource := none
    ingestedAt := ""
    claimedAt := none }
  resolvedImage := some ⟨"image", "digest"⟩
  imageSource := none
  claimedAt := none
  launchParameters := false
  scopeToken := none

/-- A step in which everything goes well; the task, its container and what is drawn for it
    have one name. -/
def sampleAnswer (name : String) : Answer where
  reach := .answered
  ok := true
  items := [name]
  response := some (sampleResponse name)
  declined := false
  values := some .empty
  uuid := name
  now := 0
  containerID := name
  controlID := name

/-- From the poll loop to the running container of a task, and back. -/
def sampleStart (name : String) : List Label := List.replicate 15 (.main (sampleAnswer name))

/-- `runTaskV0002` on an answer of OpenHands. -/
def sampleRun (name : String) (obs : Observation) : Label :=
  .task name (.run obs) (sampleAnswer name)

end FlowAI.Docker
