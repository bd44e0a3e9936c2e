import FlowAI.Registry.Assignment
import FlowAI.Registry.ControlLog

/-! # The Controls of an Assigned Task

  An executor learns of the controls of its task by asking for them
  (`ListAssignedTaskControls`, `store/controls.go`), and it is the only one whose reports
  move them.  So between two of its own reports a control stays as it is, whatever other
  clients do.
-/

namespace FlowAI.Registry

/-! ## Section 1: `ListAssignedTaskControls` -/

/-- The order of the listing. -/
def ControlRow.tuple (c : ControlRow) : Lex (Int × String) := toLex (c.requestedAt, c.controlID)

/-- The pending controls of a task, oldest first. -/
def pendingControls (db : Db) (teamID taskID : String) : List ControlRow :=
  (db.controls.rows.filter (fun c =>
    c.teamID = teamID && c.taskID = taskID && c.status = .pending)).insertionSort
      (fun a b => a.tuple ≤ b.tuple)

def listAssignedTaskControls (db : Db) (taskID : String) (identity : ExecutorIdentity) :
    Except StoreError (List ControlRow) :=
  match db.tasks.lookup taskID with
  | none => .error .taskUnknown
  | some task =>
    match db.executors.lookup identity.executorID with
    | none => .error .executorNotFound
    | some executor =>
      if executor.scope ≠ identity.scope then .error .executorNotFound
      else if executor.scope = .team ∧ (identity.teamID = none ∨ executor.teamID = none ∨
          identity.teamID ≠ executor.teamID) then .error .executorNotFound
      -- a task of another team is as good as unknown
      else if executor.scope = .team ∧ executor.teamID ≠ some task.teamID then .error .taskUnknown
      else if task.executorID ≠ some identity.executorID then .error .notAssigned
      else .ok (pendingControls db task.teamID taskID)

variable {taskID : String} {c : ControlRow} {identity : ExecutorIdentity} {cfg : Config} {db : Db}

theorem mem_pendingControls {teamID : String} : c ∈ pendingControls db teamID taskID ↔
      c ∈ db.controls.rows ∧ c.teamID = teamID ∧ c.taskID = taskID ∧ c.status = .pending := by
  simp only [pendingControls, List.mem_insertionSort, List.mem_filter, Bool.and_eq_true,
    decide_eq_true_eq, and_assoc]

theorem listAssignedTaskControls_ok {controls : List ControlRow}
    (h : listAssignedTaskControls db taskID identity = .ok controls) :
    ∃ task, db.tasks.lookup taskID = some task ∧ task.executorID = some identity.executorID ∧
      controls = pendingControls db task.teamID taskID := by
  unfold listAssignedTaskControls at h
  cases htask : db.tasks.lookup taskID with
  | none =>
    rw [htask] at h
    cases h
  | some task =>
    cases hexec : db.executors.lookup identity.executorID with
    | none =>
      rw [htask, hexec] at h
      cases h
    | some executor =>
      rw [htask, hexec] at h
      simp only at h
      split_ifs at h with hscope hidentity hteam hassigned
      refine ⟨task, rfl, ?_, ?_⟩
      · exact not_not.mp hassigned
      · exact (Except.ok.inj h).symm

/-! ## Section 2: What a call does to the controls -/

theorem Effect.controls_eq {call : Call} {db' : Db} (h : Effect cfg call db db')
    (hop : call.op.isControl = false) : db'.controls = db.controls := by
  cases h with
  | createTaskControl op _ _ _ =>
    rw [op] at hop
    cases hop
  | appendTaskControlEvent op _ _ _ =>
    rw [op] at hop
    cases hop
  | claimTask _ _ hfresh =>
    obtain ⟨_, _, _, _, _, _, _, -, -, -, -, -, rfl⟩ := hfresh.effect
    rfl
  | appendTaskEvent _ _ _ _ hfresh =>
    obtain ⟨_, _, _, -, -, -, rfl⟩ := hfresh.effect
    rfl
  | _ => rfl

/-- A request is for a task of the operator's team. -/
theorem createTaskControl_inTeam {env : CallEnv} {identity : GatewayIdentity}
    {req : CreateTaskControlRequest} {db' : Db} {control : ControlRow}
    (h : createTaskControl env identity taskID req db = .ok (control, db')) :
    InTeam db taskID identity.teamID := by
  simp only [createTaskControl, Tx.bind_eq_ok, Tx.exists_get, Tx.exists_ensure] at h
  obtain ⟨htask, -⟩ := h
  obtain ⟨task, ht, hteam⟩ := (Option.any_eq_true _ _).mp htask
  exact ⟨task, ht, of_decide_eq_true hteam⟩

/-- The controls a call leaves, with who asked for the change. -/
inductive ControlMove (call : Call) (db db' : Db) : Prop where
  | keep (controls : db'.controls = db.controls)
  | create {identity : GatewayIdentity} {taskID : String} {req : CreateTaskControlRequest}
      (op : call.op = .createTaskControl identity taskID req)
      (inTeam : InTeam db taskID identity.teamID)
      (inserted : db.controls.insert (controlRow call.env identity taskID req) = .ok db'.controls)
  | report {control : ControlRow} {req : TaskControlEventAppendRequest}
      {identity : ExecutorIdentity}
      (op : call.op = .appendTaskControlEvent control.taskID control.controlID req identity)
      (found : db.controls.lookup control.controlID = some control)
      (assigned : Assigned db identity.executorID control.taskID)
      (transition : validControlTransition control.status req.status = true)
      (updated : db.controls.update control.controlID (ControlRow.project req.status)
        (fun _ => rfl) = .ok db'.controls)

theorem commit_controlMove (cfg : Config) (call : Call) (db : Db) :
    ControlMove call db ((exec cfg call).commit db) := by
  cases hop : call.op.isControl with
  | false => exact .keep ((step_effect rfl).controls_eq hop)
  | true =>
    cases hexec : exec cfg call db with
    | error e =>
      rw [Tx.commit_of_error hexec]
      exact .keep rfl
    | ok result =>
      obtain ⟨_, db'⟩ := result
      rw [Tx.commit_of_ok hexec]
      obtain ⟨env, op⟩ := call
      cases op with
      | createTaskControl identity taskID req =>
        obtain ⟨control, h⟩ := Tx.void_eq_ok.mp hexec
        have hteam := createTaskControl_inTeam h
        rcases createTaskControl_ok h with ⟨-, rfl⟩ | ⟨-, rfl, _, controls, _, -, hins, -, rfl⟩
        · exact .keep rfl
        · exact .create rfl hteam hins
      | appendTaskControlEvent taskID controlID req identity =>
        obtain ⟨event, h⟩ := Tx.void_eq_ok.mp hexec
        obtain ⟨control, task, ⟨hfound, rfl, htask, -, hexecutor, -⟩, hcases⟩ :=
          appendTaskControlEvent_ok h
        rcases hcases with ⟨_, -, -, -, rfl⟩ | ⟨-, hfresh⟩
        · exact .keep rfl
        · obtain ⟨_, controls, _, -, hupd, -, rfl⟩ := hfresh.effect
          obtain rfl : control.controlID = controlID := Table.key_of_lookup hfound
          exact .report rfl hfound ⟨task, htask, hexecutor⟩ hfresh.transition hupd
      | _ => cases hop

section Moves

variable {call : Call} {db db' : Db}

/-- Where a control comes from. -/
theorem ControlMove.origin (h : ControlMove call db db') {id : String}
    (hc : db'.controls.lookup id = some c) :
    db.controls.lookup id = some c ∨
    (∃ identity taskID req, call.op = .createTaskControl identity taskID req ∧
      InTeam db taskID identity.teamID ∧ c = controlRow call.env identity taskID req) ∨
    ∃ c₀ req identity, call.op = .appendTaskControlEvent c₀.taskID id req identity ∧
      db.controls.lookup id = some c₀ ∧ Assigned db identity.executorID c₀.taskID ∧
      validControlTransition c₀.status req.status = true ∧ c = c₀.project req.status := by
  cases h with
  | keep hkeep =>
    rw [hkeep] at hc
    exact .inl hc
  | create op inTeam inserted =>
    rw [Table.lookup_insert inserted] at hc
    split_ifs at hc with hid
    · exact .inr (.inl ⟨_, _, _, op, inTeam, (Option.some.inj hc).symm⟩)
    · exact .inl hc
  | @report control req identity op found assigned transition updated =>
    rw [Table.lookup_update updated] at hc
    split_ifs at hc with hid
    · subst hid
      rw [found] at hc
      exact .inr (.inr ⟨control, req, identity, op, found, assigned, transition,
        (Option.some.inj hc).symm⟩)
    · exact .inl hc

/-- A control changes with a report of the assigned executor only. -/
theorem ControlMove.kept (h : ControlMove call db db') {id : String}
    (hc : db.controls.lookup id = some c) :
    db'.controls.lookup id = some c ∨
    ∃ req identity, call.op = .appendTaskControlEvent c.taskID id req identity ∧
      Assigned db identity.executorID c.taskID := by
  cases h with
  | keep hkeep =>
    rw [hkeep]
    exact .inl hc
  | create op inTeam inserted =>
    exact .inl (Table.lookup_insert_of_some inserted hc)
  | @report control req identity op found assigned transition updated =>
    rw [Table.lookup_update updated]
    split_ifs with hid
    · subst hid
      rw [found] at hc
      obtain rfl := Option.some.inj hc
      exact .inr ⟨req, identity, op, assigned⟩
    · exact .inl hc

end Moves

/-- Every control is of its task's team. -/
def ControlsInTeam (db : Db) : Prop :=
  ∀ id c, db.controls.lookup id = some c → InTeam db c.taskID c.teamID

theorem reachable_controlsInTeam (h : (registry cfg).Reachable db) : ControlsInTeam db := by
  refine h.invariant (P := ControlsInTeam) ?_ ?_
  · intro db hinit id c hc
    cases hinit
    cases hc
  · intro db call db' _ ih hstep id c hc
    obtain rfl : db' = (exec cfg call).commit db := hstep.symm
    have hlater := commit_evolves cfg call db
    rcases (commit_controlMove cfg call db).origin hc with
      hold | ⟨identity, taskID, req, -, hteam, rfl⟩ | ⟨c₀, req, identity, -, hold, -, -, rfl⟩
    · exact (ih id c hold).later hlater
    · exact hteam.later hlater
    · exact (ih id c₀ hold).later hlater

/-! ## Section 3: A report of a new event -/

/-- An accepted report with an unused identifier moves its control and no other one. -/
theorem report_of_accepted {env : CallEnv} {controlID : String}
    {req : TaskControlEventAppendRequest}
    (hok : (exec cfg ⟨env, .appendTaskControlEvent taskID controlID req identity⟩).errorOf db = none)
    (hfresh : db.controlEvents.lookup req.controlEventID = none) :
    ∃ control, db.controls.lookup controlID = some control ∧ control.taskID = taskID ∧
      validControlTransition control.status req.status = true ∧
      ∀ id, ((exec cfg ⟨env, .appendTaskControlEvent taskID controlID req identity⟩).commit
          db).controls.lookup id =
        if id = controlID then some (control.project req.status) else db.controls.lookup id := by
  obtain ⟨_, hexec⟩ := Tx.errorOf_eq_none.mp hok
  obtain ⟨event, h⟩ := Tx.void_eq_ok.mp hexec
  obtain ⟨control, task, ⟨hfound, hof, -, -, -, -⟩, hcases⟩ := appendTaskControlEvent_ok h
  rcases hcases with ⟨existing, hread, -⟩ | ⟨-, hnew⟩
  · simp [readTaskControlEvent, hfresh] at hread
  · refine ⟨control, hfound, hof, hnew.transition, ?_⟩
    intro id
    obtain ⟨_, controls, _, -, hupd, -, hdb⟩ := hnew.effect
    obtain rfl : control.controlID = controlID := Table.key_of_lookup hfound
    rw [hdb]
    show controls.lookup id = _
    rw [Table.lookup_update hupd]
    by_cases hid : id = control.controlID
    · rw [if_pos hid, if_pos hid, hid, hfound]
      rfl
    · rw [if_neg hid, if_neg hid]

theorem commit_of_refused {call : Call} (h : (exec cfg call).errorOf db ≠ none) :
    (exec cfg call).commit db = db := by
  cases hexec : exec cfg call db with
  | error e => exact Tx.commit_of_error hexec
  | ok result =>
    refine absurd ?_ h
    rw [Tx.errorOf_eq_none, Tx.commit_of_ok hexec]
    exact ⟨(), hexec⟩

end FlowAI.Registry
