import FlowAI.Docker.Machine

/-! # What a Step of the Docker Executor Can Do

  The inversion of every step, once: which action a goroutine performs, and where it goes on.
-/

namespace FlowAI.Docker

open Registry (ClaimResponse)

variable {cfg : Config} {w w' : World} {a : Answer}

/-! ## Section 1: The poll goroutine -/

/-- What `startTaskV0002` does at a stage: its action, and where the goroutine goes on. -/
inductive StartStep (cfg : Config) (w : World) (a : Answer) (task : Starting) :
    StartStage → Act → Main → Prop where
  | unclaimed : StartStep cfg w a task .claim .none .idle
  | declined : StartStep cfg w a task .claim .none (.each task.rest)
  | unanswered {response} (grants : w.grants task response = true) :
      StartStep cfg w a task .claim (.grant task.taskID task.commandID) .idle
  | claimed {response} (grants : w.grants task response = true) :
      StartStep cfg w a task .claim (.grant task.taskID task.commandID)
        (.start task (.mark response))
  | known {response} : StartStep cfg w a task (.mark response) .none .idle
  | mark {response} (new : w.acceptedTasks.lookup task.taskID = none) :
      StartStep cfg w a task (.mark response) (.markAccepted task.taskID .running)
        (.start task (.reserve response))
  | reserve {response} :
      StartStep cfg w a task (.reserve response) .reserve (.start task (.wait response))
  | waited {response} :
      StartStep cfg w a task (.wait response) .none (.start task (.running response))
  | interrupted {response} :
      StartStep cfg w a task (.wait response) .none (.start task (.forget none))
  | ran {response} (answered : a.reach = .answered) :
      StartStep cfg w a task (.running response) (.append a.reach (runningEvent cfg a task response))
        (.start task (afterRunning response))
  | unran {response} (unanswered : a.reach ≠ .answered) :
      StartStep cfg w a task (.running response) (.append a.reach (runningEvent cfg a task response))
        (.start task (.forget none))
  | opened {response token values} :
      StartStep cfg w a task (.open response token) .none (.start task (.image response values))
  | unopened {response token} :
      StartStep cfg w a task (.open response token) .none
        (.start task (.forget (some (response.task.teamID, "environment_open"))))
  | imaged {response values imageRef} (image : Executors.dockerImageRef response = some imageRef) :
      StartStep cfg w a task (.image response values) .none
        (.start task (.port response values imageRef))
  | unimaged {response values} (image : Executors.dockerImageRef response = none) :
      StartStep cfg w a task (.image response values) .none (.start task (.forget none))
  | port {response values imageRef port} (free : w.allocatePort cfg = some port) :
      StartStep cfg w a task (.port response values imageRef) (.takePort port)
        (.start task (.pull ⟨response.task.teamID, values, imageRef, port⟩))
  | noPort {response values imageRef} (full : w.allocatePort cfg = none) :
      StartStep cfg w a task (.port response values imageRef) .none (.start task (.forget none))
  | pulled {launch} :
      StartStep cfg w a task (.pull launch) .none (.start task (.create launch))
  | unpulled {launch} :
      StartStep cfg w a task (.pull launch) (.releasePort launch.port)
        (.start task (.forget (some (launch.teamID, "image_pull"))))
  | created {launch} (new : w.newContainer a.containerID = true) :
      StartStep cfg w a task (.create launch) (.startContainer a.containerID)
        (.start task (.install launch a.containerID))
  | uncreated {launch} :
      StartStep cfg w a task (.create launch) (.releasePort launch.port)
        (.start task (.forget (some (launch.teamID, "container_create"))))
  | install {launch containerID} :
      StartStep cfg w a task (.install launch containerID)
        (.addSlot (task.slot launch containerID)) (.start task (.release containerID))
  | release {containerID} :
      StartStep cfg w a task (.release containerID) .release (.start task (.spawn containerID))
  | spawn {containerID} :
      StartStep cfg w a task (.spawn containerID) (.spawn containerID) (.each task.rest)
  | forget : StartStep cfg w a task (.forget none) (.terminalizeAccepted task.taskID)
      (.start task .abort)
  | forgetReport {teamID phase} :
      StartStep cfg w a task (.forget (some (teamID, phase))) (.terminalizeAccepted task.taskID)
        (.start task (.report teamID phase))
  | report {teamID phase} :
      StartStep cfg w a task (.report teamID phase)
        (.append a.reach (envelope cfg a task.taskID teamID "failed" [("phase", .str phase)]))
        (.start task .abort)
  | abort : StartStep cfg w a task .abort .release .idle

theorem startStep_of_step {task : Starting} {stage : StartStage} {act : Act} {m : Main}
    (h : task.step cfg w a stage = some (act, m)) : StartStep cfg w a task stage act m := by
  cases stage with
  | claim =>
    simp only [Starting.step] at h
    split at h
    · cases h
      exact .unclaimed
    · split at h
      · rename_i hgrants
        cases h
        split
        · exact .claimed hgrants
        · exact .unanswered hgrants
      · cases h
    · cases h
      split
      · exact .declined
      · exact .unclaimed
  | mark response =>
    simp only [Starting.step] at h
    split at h
    · cases h
      exact .known
    · rename_i hnone
      cases h
      exact .mark hnone
  | wait response =>
    cases h
    split
    · exact .waited
    · exact .interrupted
  | running response =>
    cases h
    split
    · rename_i hr
      exact .ran hr
    · rename_i hr
      exact .unran hr
  | «open» response token =>
    cases h
    split
    · exact .opened
    · exact .unopened
  | image response values =>
    cases h
    split
    · rename_i himage
      exact .imaged himage
    · rename_i himage
      exact .unimaged himage
  | port response values imageRef =>
    simp only [Starting.step] at h
    split at h
    · rename_i hport
      cases h
      exact .port hport
    · rename_i hport
      cases h
      exact .noPort hport
  | pull launch =>
    simp only [Starting.step] at h
    split at h
    · cases h
      exact .pulled
    · cases h
      exact .unpulled
  | create launch =>
    simp only [Starting.step] at h
    split at h
    · split at h
      · rename_i hnew
        cases h
        exact .created hnew
      · cases h
    · cases h
      exact .uncreated
  | forget report =>
    cases report with
    | none => cases h; exact .forget
    | some report => cases h; exact .forgetReport
  | reserve response => cases h; exact .reserve
  | install launch containerID => cases h; exact .install
  | release containerID => cases h; exact .release
  | spawn containerID => cases h; exact .spawn
  | report teamID phase => cases h; exact .report
  | abort => cases h; exact .abort

/-- Where a task with an accepted `running` event goes. -/
theorem afterRunning_cases (response : ClaimResponse) :
    (response.launchParameters = true ∧ response.scopeToken.getD "" = "" ∧
      afterRunning response = .abort) ∨
    (∃ token, afterRunning response = .open response token) ∨
    afterRunning response = .image response .empty := by
  unfold afterRunning
  split
  · rename_i hparameters
    split
    · rename_i token htoken
      split
      · rename_i hempty
        apply Or.inl
        rw [htoken]
        exact ⟨hparameters, hempty, rfl⟩
      · exact .inr (.inl ⟨token, rfl⟩)
    · rename_i htoken
      apply Or.inl
      rw [htoken]
      exact ⟨hparameters, rfl, rfl⟩
  · exact .inr (.inr rfl)

/-- What the poll goroutine does. -/
inductive MainStep (cfg : Config) (w : World) (a : Answer) : Main → Act → Main → Prop where
  | nothing : MainStep cfg w a .idle .none .idle
  | discovered : MainStep cfg w a .idle .none (.each a.items)
  | finished : MainStep cfg w a (.each []) .none .idle
  | full {item rest} : MainStep cfg w a (.each (item :: rest)) .none .idle
  | skip {item rest} : MainStep cfg w a (.each (item :: rest)) .none (.each rest)
  | retry {item rest commandID} (room : 0 < w.freeSlots cfg)
      (new : w.acceptedTasks.lookup item = none)
      (free : w.slots.lookup item = none) (cached : w.commandIDs.lookup item = some commandID) :
      MainStep cfg w a (.each (item :: rest)) .none (.start ⟨item, commandID, rest⟩ .claim)
  | first {item rest} (room : 0 < w.freeSlots cfg)
      (new : w.acceptedTasks.lookup item = none) (free : w.slots.lookup item = none)
      (drawn : w.newCommand ("cmd-" ++ a.uuid) = true) :
      MainStep cfg w a (.each (item :: rest)) (.command item ("cmd-" ++ a.uuid))
        (.start ⟨item, "cmd-" ++ a.uuid, rest⟩ .claim)
  | start {task stage act m} (step : StartStep cfg w a task stage act m) :
      MainStep cfg w a (.start task stage) act m
  | drain {id rest} : MainStep cfg w a (.drain (id :: rest)) (.removeContainer id) (.drain rest)
  | undrained {id rest} : MainStep cfg w a (.drain (id :: rest)) .none (.drain rest)

theorem mainStep_of_step {m m' : Main} {act : Act} (h : m.step cfg w a = some (act, m')) :
    MainStep cfg w a m act m' := by
  cases m with
  | idle =>
    cases h
    split
    · exact .nothing
    · split
      · exact .discovered
      · exact .nothing
  | each items =>
    cases items with
    | nil => cases h; exact .finished
    | cons item rest =>
      simp only [Main.step] at h
      split at h
      · cases h
        exact .full
      · rename_i hroom
        split at h
        · cases h
          exact .skip
        · rename_i hnew
          split at h
          · cases h
            exact .skip
          · rename_i hfree
            rw [Option.not_isSome_iff_eq_none] at hnew hfree
            split at h
            · rename_i commandID hcached
              cases h
              exact .retry (not_le.mp hroom) hnew hfree (Option.filter_eq_some_iff.mp hcached).1
            · split at h
              · rename_i hdrawn
                cases h
                exact .first (not_le.mp hroom) hnew hfree hdrawn
              · cases h
  | start task stage => exact .start (startStep_of_step h)
  | drain containers =>
    cases containers with
    | nil => cases h
    | cons id rest =>
      cases h
      split
      · exact .drain
      · exact .undrained

/-! ## Section 2: The goroutines of a task -/

/-- `runTaskV0002` has not tried to claim the terminal flag. -/
def Stage.live : Stage → Bool
  | .health | .submit | .stream | .fail _ _ | .ended _ => true
  | _ => false

/-- There is no conversation to control yet. -/
def Stage.early : Stage → Bool
  | .installed | .health | .submit => true
  | _ => false

/-- What a goroutine of a slot does: its action, and the slot it leaves. -/
inductive SlotStep (cfg : Config) (w : World) (a : Answer) (slot : Slot) :
    Move → Act → Slot → Prop where
  | goes {obs stage} (live : slot.stage.live = true) (live' : stage.live = true)
      (early : stage.early = true → slot.stage.early = true) :
      SlotStep cfg w a slot (.run obs) .none (slot.at stage)
  | submitted {obs} (live : slot.stage.live = true) (early : slot.stage.early = true) :
      SlotStep cfg w a slot (.run obs) .none
        { slot with stage := .stream, controlWatch := .watching }
  | closed (live : slot.stage.live = true) (stage : slot.stage = .stream) :
      SlotStep cfg w a slot (.run .closed) .none (slot.at .terminalize)
  | outrun {obs} (live : slot.stage.live = true) (terminal : slot.terminal = true) :
      SlotStep cfg w a slot (.run obs) .none (slot.at .terminalize)
  | wins {obs eventType payload} (live : slot.stage.live = true) (first : slot.terminal = false)
      (isTerminal : eventType = "finished" ∨ eventType = "failed") :
      SlotStep cfg w a slot (.run obs) .none
        { slot with terminal := true, stage := .report eventType payload }
  | report {obs eventType payload} (stage : slot.stage = .report eventType payload) :
      SlotStep cfg w a slot (.run obs)
        (.append a.reach
          (envelope cfg a slot.taskID (w.taskTeamID cfg slot.taskID) eventType payload))
        (slot.at .terminalize)
  | terminalized {obs} (stage : slot.stage = .terminalize) (terminal : slot.terminal = true) :
      SlotStep cfg w a slot (.run obs) .none { slot with terminal := true, stage := .releasePort }
  | terminalize {obs} (stage : slot.stage = .terminalize) (first : slot.terminal = false) :
      SlotStep cfg w a slot (.run obs) (.markAccepted slot.taskID .terminal)
        { slot with terminal := true, stage := .releasePort }
  | releasePort {obs} (stage : slot.stage = .releasePort) :
      SlotStep cfg w a slot (.run obs) (.releasePort slot.hostPort) (slot.at .forget)
  | forget {obs} (stage : slot.stage = .forget) :
      SlotStep cfg w a slot (.run obs) (.forgetCommand slot.taskID) (slot.at .cleanup)
  | cleanup {obs} (stage : slot.stage = .cleanup) :
      SlotStep cfg w a slot (.run obs) (.removeContainer slot.containerID) (slot.at .remove)
  | remove {obs} (stage : slot.stage = .remove) :
      SlotStep cfg w a slot (.run obs) (.removeSlot slot.taskID) (slot.at .done)
  | died (watch : slot.exitWatch = .watching) (first : slot.terminal = false) :
      SlotStep cfg w a slot .exit .none { slot with terminal := true, exitWatch := .report }
  | quit (watch : slot.exitWatch = .watching) :
      SlotStep cfg w a slot .exit .none { slot with exitWatch := .done }
  | exitReport (watch : slot.exitWatch = .report) :
      SlotStep cfg w a slot .exit
        (.append a.reach (envelope cfg a slot.taskID (w.taskTeamID cfg slot.taskID) "failed"
          [("failure_reason", .str "container_exited_before_finish"),
            ("phase", .str "container_exit")]))
        { slot with exitWatch := .done }
  | controls {stage} (watch : slot.controlWatch ≠ .off) (watch' : slot.controlWatch ≠ .report)
      (watch'' : stage ≠ .report) :
      SlotStep cfg w a slot .control .none { slot with controlWatch := stage }
  | cancels (watch : slot.controlWatch = .claim) (first : slot.terminal = false) :
      SlotStep cfg w a slot .control .none { slot with terminal := true, controlWatch := .report }
  | controlReport (watch : slot.controlWatch = .report) :
      SlotStep cfg w a slot .control
        (.append a.reach (envelope cfg a slot.taskID (w.taskTeamID cfg slot.taskID) "failed"
          [("control", .str "cancel"), ("phase", .str "control")]))
        { slot with controlWatch := .done }

theorem slotStep_of_supervise {slot slot' : Slot} {obs : Observation}
    (h : slot.supervise slot.stage obs = some slot') :
    SlotStep cfg w a slot (.run obs) .none slot' := by
  cases hstage : slot.stage with
  | health =>
    rw [hstage] at h
    have hlive : slot.stage.live = true := by rw [hstage]; rfl
    cases obs <;> simp only [Slot.supervise, Option.some.injEq, reduceCtorEq] at h <;> subst h
    · exact .goes hlive rfl (fun _ => by rw [hstage]; rfl)
    · exact .goes hlive rfl nofun
  | submit =>
    rw [hstage] at h
    have hlive : slot.stage.live = true := by rw [hstage]; rfl
    simp only [Slot.supervise] at h
    split at h
    · split at h
      · cases h
        exact .goes hlive rfl nofun
      · cases h
    · split at h
      · cases h
        exact .submitted hlive (by rw [hstage]; rfl)
      · cases h
        exact .goes hlive rfl nofun
      · cases h
  | stream =>
    rw [hstage] at h
    have hlive : slot.stage.live = true := by rw [hstage]; rfl
    cases obs <;> simp only [Slot.supervise, Option.some.injEq, reduceCtorEq] at h <;> subst h
    · exact .goes hlive rfl nofun
    · exact .closed hlive hstage
    · exact .goes hlive rfl nofun
  | _ =>
    rw [hstage] at h
    simp [Slot.supervise] at h

theorem slotStep_of_claimTerminal {slot : Slot} {obs : Observation} {eventType : String}
    {payload : List (String × Json)} (hlive : slot.stage.live = true)
    (htype : eventType = "finished" ∨ eventType = "failed") :
    SlotStep cfg w a slot (.run obs) .none (slot.claimTerminal eventType payload) := by
  unfold Slot.claimTerminal
  split
  · rename_i hterminal
    exact .outrun hlive hterminal
  · rename_i hterminal
    exact .wins hlive (Bool.eq_false_iff.mpr hterminal) htype

theorem slotStep_of_run {slot slot' : Slot} {obs : Observation} {act : Act}
    (h : slot.run cfg w a obs = some (act, slot')) :
    SlotStep cfg w a slot (.run obs) act slot' := by
  unfold Slot.run at h
  split at h
  · cases h
  · cases h
  · rename_i hstage
    cases h
    exact slotStep_of_claimTerminal (by rw [hstage]; rfl) (.inr rfl)
  · rename_i hstage
    cases h
    apply slotStep_of_claimTerminal (by rw [hstage]; rfl)
    split
    · exact .inl rfl
    · exact .inr rfl
  · rename_i hstage
    cases h
    exact .report hstage
  · rename_i hstage
    cases h
    split
    · rename_i hterminal
      exact .terminalized hstage hterminal
    · rename_i hterminal
      exact .terminalize hstage (Bool.eq_false_iff.mpr hterminal)
  · rename_i hstage
    cases h
    exact .releasePort hstage
  · rename_i hstage
    cases h
    exact .forget hstage
  · rename_i hstage
    cases h
    exact .cleanup hstage
  · rename_i hstage
    cases h
    exact .remove hstage
  · obtain ⟨s, hs, heq⟩ := Option.map_eq_some_iff.mp h
    cases heq
    exact slotStep_of_supervise hs

theorem slotStep_of_watchExit {slot slot' : Slot} {act : Act}
    (h : slot.watchExit cfg w a = some (act, slot')) : SlotStep cfg w a slot .exit act slot' := by
  unfold Slot.watchExit at h
  split at h
  · cases h
  · cases h
  · rename_i hwatch
    cases h
    split
    · rename_i hdied
      simp only [Bool.and_eq_true, Bool.not_eq_true'] at hdied
      exact .died hwatch hdied.2
    · exact .quit hwatch
  · rename_i hwatch
    cases h
    exact .exitReport hwatch

theorem slotStep_of_watchControls {slot slot' : Slot} {act : Act}
    (h : slot.watchControls cfg w a = some (act, slot')) :
    SlotStep cfg w a slot .control act slot' := by
  unfold Slot.watchControls at h
  split at h
  · cases h
  · cases h
  case h_8 hwatch =>
    cases h
    split
    · exact .controls (by simp [hwatch]) (by simp [hwatch]) (by simp)
    · rename_i hterminal
      exact .cancels hwatch (Bool.eq_false_iff.mpr hterminal)
  case h_9 hwatch =>
    cases h
    exact .controlReport hwatch
  all_goals
    -- the stages before the claim of the flag
    rename_i hwatch
    cases h
    apply SlotStep.controls (by simp [hwatch]) (by simp [hwatch])
    first
      | (split <;> simp)
      | simp

theorem slotStep_of_step {slot slot' : Slot} {move : Move} {act : Act}
    (h : slot.step cfg w a move = some (act, slot')) : SlotStep cfg w a slot move act slot' := by
  cases move with
  | run obs => exact slotStep_of_run h
  | exit => exact slotStep_of_watchExit h
  | control => exact slotStep_of_watchControls h

/-- No goroutine changes what the slot stands for. -/
theorem SlotStep.same {slot slot' : Slot} {move : Move} {act : Act}
    (h : SlotStep cfg w a slot move act slot') :
    slot'.taskID = slot.taskID ∧ slot'.containerID = slot.containerID ∧
      slot'.hostPort = slot.hostPort := by
  cases h <;> exact ⟨rfl, rfl, rfl⟩

/-! ## Section 3: The system -/

/-- What a step of the system does. -/
inductive WorldStep (cfg : Config) (w : World) : Label → World → Prop where
  | main {a act m} (step : MainStep cfg w a w.main act m) :
      WorldStep cfg w (.main a) ((w.perform act).goto m)
  | stop (idle : w.main = .idle) :
      WorldStep cfg w .stop (w.goto (.drain (w.slots.entries.map (·.2))))
  | task {id move a slot act slot'} (object : w.objects.lookup id = some slot)
      (step : SlotStep cfg w a slot move act slot') :
      WorldStep cfg w (.task id move a) ((w.perform act).setObject id slot')
  | containerGone {id} :
      WorldStep cfg w (.containerGone id) { w with containers := w.containers.filter (· ≠ id) }

theorem worldStep_of_next {l : Label} (h : w.next cfg l = some w') : WorldStep cfg w l w' := by
  cases l with
  | main a =>
    obtain ⟨⟨act, m⟩, hstep, rfl⟩ := Option.map_eq_some_iff.mp h
    exact .main (mainStep_of_step hstep)
  | stop =>
    simp only [World.next] at h
    split at h
    · rename_i hidle
      cases h
      exact .stop hidle
    · cases h
  | task id move a =>
    simp only [World.next] at h
    split at h
    · rename_i slot hobject
      obtain ⟨⟨act, slot'⟩, hstep, rfl⟩ := Option.map_eq_some_iff.mp h
      exact .task hobject (slotStep_of_step hstep)
    · cases h
  | containerGone id =>
    cases h
    exact .containerGone

theorem worldStep_of_step {l : Label} (h : (executor cfg).step w l w') : WorldStep cfg w l w' :=
  worldStep_of_next h

end FlowAI.Docker
