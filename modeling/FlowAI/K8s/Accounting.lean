import FlowAI.K8s.Ownership

/-! # Terminal Accounting of the Kubernetes Executor

  A task that the executor claimed and no longer works on has a terminal event on its way,
  as long as the process does not end and the start of the task goes through.  The second
  half is needed: between the claim and the new slot, `startTaskV0002` returns its errors to
  the poll loop and tells the Registry nothing.
-/

namespace FlowAI.K8s

open Registry

variable {task : Starting} {response : ClaimResponse} {taskID : String} {act : Act}

variable {cfg : ExecutorConfig} {reg : Config} {w w' : World} {a : Answer}

/-! ## Section 1: A start that goes through -/

/-- The response gives a start what it needs: an image, and a token with the launch
    parameters. -/
def complete (response : ClaimResponse) : Bool :=
  claimedImage response ≠ "" &&
    (!response.launchParameters || response.scopeToken.any (· ≠ ""))

/-- The requests of a start once its claim is accepted: the response arrives and is complete,
    the environment opens, the Registry takes the `running` event and says so, and the Pod
    is created. -/
def startsWell (cfg : ExecutorConfig) (reg : Config) (w : World) (a : Answer) :
    Main → Bool
  | .start task .claim =>
    match claimTask reg a.env ⟨task.taskID, task.commandID⟩ cfg.executorID
      (cfg.identity a.requestID) w.db with
    | .ok (response, _) => a.reach ≠ .lost && complete response
    | .error _ => true
  | .start task (.open _ token) => a.reach = .answered &&
      ((openEnvironment reg a.env
        ⟨task.taskID, token, cfg.identity a.requestID, a.requestID⟩).errorOf w.db).isNone
  | .start _ (.post _ event) => w.appends cfg reg a event
  | .start task (.create _) => a.reach = .answered && w.nameFree (podName task.taskID)
  | _ => true

theorem startsWell_claim (h : startsWell cfg reg w a (.start task .claim) = true) {db' : Db}
    (hok : claimTask reg a.env ⟨task.taskID, task.commandID⟩ cfg.executorID
      (cfg.identity a.requestID) w.db = .ok (response, db')) :
    a.reach ≠ .lost ∧ complete response = true := by
  simp only [startsWell, hok, Bool.and_eq_true, decide_eq_true_eq] at h
  exact h

theorem startsWell_open {token : String}
    (h : startsWell cfg reg w a (.start task (.open response token)) = true) :
    a.reach = .answered ∧ ∃ result, openEnvironment reg a.env
      ⟨task.taskID, token, cfg.identity a.requestID, a.requestID⟩ w.db = .ok result := by
  simp only [startsWell, Bool.and_eq_true, decide_eq_true_eq, Option.isNone_iff_eq_none] at h
  obtain ⟨hr, hnone⟩ := h
  obtain ⟨opened, hok⟩ := Tx.errorOf_eq_none.mp hnone
  exact ⟨hr, _, hok⟩

/-- The stages between the claim and the new slot. -/
def StartStage.launching : StartStage → Bool
  | .open _ _ | .assign _ | .reserve _ | .outbox _ | .post _ _ | .accept _ _ | .create _
  | .install _ _ => true
  | _ => false

/-- The poll goroutine has claimed the task and has no slot for it yet. -/
def Main.launches (m : Main) (taskID : String) : Prop :=
  ∃ task stage, m = .start task stage ∧ task.taskID = taskID ∧ stage.launching = true

theorem launches_start {stage : StartStage} :
    (Main.start task stage).launches taskID ↔ task.taskID = taskID ∧ stage.launching = true := by
  unfold Main.launches
  constructor
  · intro h
    obtain ⟨task', stage', heq, hid, hl⟩ := h
    cases heq
    exact ⟨hid, hl⟩
  · intro h
    exact ⟨task, stage, rfl, h⟩

/-- What a start that goes through never meets, and what it has read. -/
def StageWell : StartStage → Prop
  | .open response _ => claimedImage response ≠ ""
  | .unassign => False
  | .abort => False
  | _ => True

def Main.well : Main → Prop
  | .start _ stage => StageWell stage
  | _ => True

/-- The claim of a complete response is followed up. -/
theorem afterClaim_of_complete {env : CallEnv} {req : ClaimRequest}
    {identity : ExecutorIdentity} {db db' : Db}
    (hok : claimTask reg env req cfg.executorID identity db = .ok (response, db'))
    (hcomplete : complete response = true) (task : Starting) :
    (∃ token, afterClaim cfg task response = .start task (.open response token) ∧
        claimedImage response ≠ "") ∨
      ∃ podEnv, afterClaim cfg task response = .start task (.assign podEnv) := by
  have hclaim : response.claim = "claimed" := by
    obtain ⟨_, _, -, hbuild, -⟩ := claimTask_ok hok
    obtain ⟨⟨_, entry, token, -, -, -, rfl⟩, -⟩ := buildClaimResponseForRow_eq_ok.mp hbuild
    rfl
  simp only [complete, Bool.and_eq_true, Bool.or_eq_true, Bool.not_eq_true',
    decide_eq_true_eq] at hcomplete
  obtain ⟨himage, htoken⟩ := hcomplete
  unfold afterClaim
  rw [if_neg (by simp [hclaim])]
  by_cases hlaunch : response.launchParameters = true
  · obtain ⟨token, hsome, hne⟩ := (Option.any_eq_true _ _).mp
      (htoken.resolve_left (by simp [hlaunch]))
    rw [if_pos hlaunch, hsome]
    simp only [of_decide_eq_true hne, if_false]
    exact .inl ⟨token, rfl, himage⟩
  · rw [if_neg hlaunch]
    unfold launch
    rw [if_neg himage]
    exact .inr ⟨_, rfl⟩

/-! ## Section 2: The accounts -/

/-- The start-up, before the poll loop. -/
def Main.booting : Main → Bool
  | .down | .reconcile | .drop _ _ | .resend _ _ | .confirm _ _ _ | .attach _ => true
  | _ => false

/-- A terminal event of the task was handed to the Registry. -/
def Submitted (w : World) (taskID : String) : Prop :=
  ∃ e ∈ w.sent, e.taskID = taskID ∧ IsTerminal e

/-- The stages of `finishPodTask` after the request. -/
def Stage.reported : Stage → Bool
  | .accept _ | .unassign | .delete | .leave => true
  | _ => false

theorem Stage.reported_of_supervising {stage : Stage} (h : stage.supervising = true) :
    stage.reported = false := by
  cases stage <;> first | rfl | cases h

structure Accounts (cfg : ExecutorConfig) (w : World) : Prop where
  /-- Without a crash there is nothing to recover. -/
  boot : w.main.booting = true → ∀ taskID, ¬ Assigned w.db cfg.executorID taskID
  accounted : ∀ taskID, Assigned w.db cfg.executorID taskID →
    (w.pods.lookup taskID).isSome = true ∨ w.main.launches taskID ∨ Submitted w taskID
  reported : ∀ taskID slot, w.pods.lookup taskID = some slot → slot.stage.reported = true →
    Submitted w taskID
  well : w.main.well

theorem Submitted.mono (h : Submitted w taskID) (hsent : ∀ e ∈ w.sent, e ∈ w'.sent) :
    Submitted w' taskID := by
  obtain ⟨e, he, hterminal⟩ := h
  exact ⟨e, hsent e he, hterminal⟩

/-- What a step has to show: a task that is new to the executor is being launched, a launch
    goes on or has a slot, and a slot goes once its event was sent. -/
theorem Accounts.step (h : Accounts cfg w)
    (hboot : w'.main.booting = true → w.main.booting = true)
    (hassigned : ∀ taskID, Assigned w'.db cfg.executorID taskID →
      Assigned w.db cfg.executorID taskID ∨ w'.main.launches taskID)
    (hsent : ∀ e ∈ w.sent, e ∈ w'.sent)
    (hkept : ∀ taskID, (w.pods.lookup taskID).isSome = true →
      (w'.pods.lookup taskID).isSome = true ∨ Submitted w' taskID)
    (hlaunches : ∀ taskID, w.main.launches taskID →
      (w'.pods.lookup taskID).isSome = true ∨ w'.main.launches taskID)
    (hreported : ∀ taskID slot, w'.pods.lookup taskID = some slot →
      slot.stage.reported = true → Submitted w' taskID)
    (hwell : w'.main.well) : Accounts cfg w' := by
  refine ⟨?_, ?_, hreported, hwell⟩
  · intro hb taskID hnow
    rcases hassigned taskID hnow with hbefore | hnew
    · exact h.boot (hboot hb) taskID hbefore
    · obtain ⟨task, stage, hmain, -, -⟩ := hnew
      rw [hmain] at hb
      cases hb
  · intro taskID hnow
    rcases hassigned taskID hnow with hbefore | hnew
    · rcases h.accounted taskID hbefore with hpod | hlaunch | hsubmitted
      · exact (hkept taskID hpod).imp_right .inr
      · exact (hlaunches taskID hlaunch).imp_right .inl
      · exact .inr (.inr (hsubmitted.mono hsent))
    · exact .inr (.inl hnew)

/-- A step that leaves the slots alone. -/
theorem Accounts.quiet (h : Accounts cfg w)
    (hboot : w'.main.booting = true → w.main.booting = true)
    (hassigned : ∀ taskID, Assigned w'.db cfg.executorID taskID →
      Assigned w.db cfg.executorID taskID ∨ w'.main.launches taskID)
    (hpods : ∀ taskID, w'.pods.lookup taskID = w.pods.lookup taskID)
    (hsent : ∀ e ∈ w.sent, e ∈ w'.sent)
    (hlaunches : ∀ taskID, w.main.launches taskID → w'.main.launches taskID)
    (hwell : w'.main.well) : Accounts cfg w' := by
  apply h.step hboot hassigned hsent _ (fun taskID hl => .inr (hlaunches taskID hl)) _ hwell
  · intro taskID hpod
    rw [hpods]
    exact .inl hpod
  · intro taskID slot hslot hreported
    rw [hpods] at hslot
    exact (h.reported taskID slot hslot hreported).mono hsent

/-! ## Section 3: Steps -/

theorem perform_sent_mono (act : Act) : ∀ e ∈ w.sent, e ∈ (w.perform reg act).sent := by
  intro e he
  cases act with
  | append reach call event => exact List.mem_cons_of_mem _ he
  | _ =>
    rw [perform_sent (by simp)]
    exact he

/-- A claim that is refused, or that has no answer: it was not carried out. -/
theorem claim_fruitless (hgood : startsWell cfg reg w a (.start task .claim) = true)
    (h : a.reach ≠ .answered ∨ ∃ e, claimTask reg a.env ⟨task.taskID, task.commandID⟩
      cfg.executorID (cfg.identity a.requestID) w.db = .error e) :
    Grows cfg w.db (a.reach.commit reg (claimCall cfg a task.taskID task.commandID) w.db) := by
  cases hres : claimTask reg a.env ⟨task.taskID, task.commandID⟩ cfg.executorID
    (cfg.identity a.requestID) w.db with
  | error e =>
    have hsame : (exec reg (claimCall cfg a task.taskID task.commandID)).commit w.db = w.db :=
      (Tx.commit_void _).trans (Tx.commit_of_error hres)
    cases a.reach with
    | failed => exact .refl _
    | lost | answered => exact .of_eq hsame
  | ok result =>
    cases hr : a.reach with
    | failed => exact .refl _
    | lost => exact absurd hr (startsWell_claim hgood hres).1
    | answered =>
      rcases h with hunanswered | ⟨e, hno⟩
      · exact absurd hr hunanswered
      · rw [hres] at hno
        cases hno

/-- A claim takes no other task. -/
theorem assigned_of_claimCall {id : String} (hr : a.reach = .answered)
    (h : Assigned (a.reach.commit reg (claimCall cfg a task.taskID task.commandID) w.db)
      cfg.executorID id) : Assigned w.db cfg.executorID id ∨ task.taskID = id := by
  rw [hr] at h
  refine (assigned_of_commit h).imp_right ?_
  intro htakes
  obtain ⟨req, identity, hop, hid⟩ := htakes.claims
  cases hop
  exact hid

variable {m : Main}

theorem Main.up_of_running (h : m.booting = false) : m ≠ .down := by
  rintro rfl
  cases h

/-- A step of the poll goroutine that leaves the slots alone. -/
theorem Accounts.advance (h : Accounts cfg w)
    (hboot : m.booting = true → w.main.booting = true)
    (hpods : ∀ taskID, ((w.perform reg act).goto m).pods.lookup taskID = w.pods.lookup taskID)
    (hassigned : ∀ taskID, Assigned (w.perform reg act).db cfg.executorID taskID →
      Assigned w.db cfg.executorID taskID ∨ m.launches taskID)
    (hlaunches : ∀ taskID, w.main.launches taskID → m.launches taskID) (hwell : m.well) :
    Accounts cfg ((w.perform reg act).goto m) := by
  apply h.quiet
  · rw [goto_main]
    exact hboot
  · rw [goto_db, goto_main]
    exact hassigned
  · exact hpods
  · rw [goto_sent]
    exact perform_sent_mono act
  · rw [goto_main]
    exact hlaunches
  · rw [goto_main]
    exact hwell

/-- A new slot, for the task that is being launched if there is one. -/
theorem Accounts.addPod {slot : Slot} (h : Accounts cfg w) (hboot : m.booting = false)
    (hlaunches : ∀ taskID, w.main.launches taskID → taskID = slot.taskID)
    (hreported : slot.stage.reported = false) (hwell : m.well) :
    Accounts cfg ((w.perform reg (.addPod slot)).goto m) := by
  have hup := Main.up_of_running hboot
  have hsent : ∀ e ∈ w.sent, e ∈ ((w.perform reg (.addPod slot)).goto m).sent := by
    rw [goto_sent]
    exact perform_sent_mono _
  apply h.step _ _ hsent
  · intro taskID hpod
    left
    rw [lookup_goto_addPod hup]
    split
    · rfl
    · exact hpod
  · intro taskID hl
    left
    rw [lookup_goto_addPod hup, if_pos (hlaunches taskID hl).symm]
    rfl
  · refine forall_goto_addPod hup ?_ (fun id s hs hrep => (h.reported id s hs hrep).mono hsent)
    intro hrep
    rw [hreported] at hrep
    cases hrep
  · rw [goto_main]
    exact hwell
  · intro hb
    rw [goto_main, hboot] at hb
    cases hb
  · intro taskID hassigned
    rw [goto_db] at hassigned
    exact .inl hassigned

theorem StartStep.accounts {stage : StartStage}
    (hs : StartStep cfg reg w a task stage act m) (hm : w.main = .start task stage)
    (hgood : startsWell cfg reg w a (.start task stage) = true) (hown : Ownership cfg w)
    (h : Accounts cfg w) : Accounts cfg ((w.perform reg act).goto m) := by
  obtain ⟨-, -, -, hstart⟩ : MainOwned cfg w (.start task stage) := hm ▸ hown.main
  have hwell : StageWell stage := by
    have hw := h.well
    rw [hm] at hw
    exact hw
  have hback : ∀ taskID, w.main.launches taskID →
      task.taskID = taskID ∧ stage.launching = true := by
    intro taskID hl
    rw [hm] at hl
    exact launches_start.mp hl
  -- no new task and no new slot: the goroutine goes on with the launch, if there is one
  have hquiet : ∀ (act : Act) (m : Main), m.booting = false → m.well →
      (w.perform reg act).pods = w.pods → Grows cfg w.db (w.perform reg act).db →
      (stage.launching = true → ∃ stage', m = .start task stage' ∧ stage'.launching = true) →
      Accounts cfg ((w.perform reg act).goto m) := by
    intro act m hboot hw hpods hgrows hlaunch
    apply h.advance _ _ _ _ hw
    · intro hb
      rw [hboot] at hb
      cases hb
    · intro taskID
      rw [goto_pods (Main.up_of_running hboot), hpods]
    · intro taskID hassigned
      exact .inl (hgrows.assigned taskID hassigned)
    · intro taskID hl
      obtain ⟨hid, hstage⟩ := hback taskID hl
      obtain ⟨stage', rfl, hstage'⟩ := hlaunch hstage
      exact launches_start.mpr ⟨hid, hstage'⟩
  cases hs with
  | noIntent | intent => exact hquiet _ _ rfl trivial rfl (.refl _) (fun hc => by cases hc)
  | @claimed response db' hr hok =>
    -- the one way to a new task
    obtain ⟨-, hcomplete⟩ := startsWell_claim hgood hok
    obtain ⟨stage', heq, hlaunching, hstage'⟩ : ∃ stage', afterClaim cfg task response =
        .start task stage' ∧ stage'.launching = true ∧ StageWell stage' := by
      rcases afterClaim_of_complete hok hcomplete task with ⟨token, heq, himage⟩ | ⟨podEnv, heq⟩
      · exact ⟨_, heq, rfl, himage⟩
      · exact ⟨_, heq, rfl, trivial⟩
    rw [heq]
    refine h.advance ?_ ?_ ?_ ?_ hstage'
    · intro hb
      cases hb
    · exact fun _ => rfl
    · intro taskID hassigned
      exact (assigned_of_claimCall hr hassigned).imp_right
        (fun hid => launches_start.mpr ⟨hid, hlaunching⟩)
    · intro taskID hl
      cases (hback taskID hl).2
  | declined _ hno hnext =>
    have hgrows := claim_fruitless hgood (.inr ⟨_, hno⟩)
    rcases hnext with rfl | rfl
    · exact hquiet _ _ rfl trivial rfl hgrows (fun hc => by cases hc)
    · exact hquiet _ _ rfl trivial rfl hgrows (fun hc => by cases hc)
  | unanswered hr =>
    exact hquiet _ _ rfl trivial rfl (claim_fruitless hgood (.inl hr)) (fun hc => by cases hc)
  | @opened response token values hr =>
    have heq : launch cfg task response values = .start task (.assign (podEnvOf cfg values)) :=
      if_neg hwell
    rw [heq]
    exact hquiet _ _ rfl trivial rfl (reach_grows _ (by simp [openCall]) w.db)
      (fun _ => ⟨_, rfl, rfl⟩)
  | @unopened response token hno =>
    obtain ⟨hr, result, hok⟩ := startsWell_open hgood
    exact absurd hok (hno hr result)
  | assign | reserve | outbox | accept | created =>
    exact hquiet _ _ rfl trivial perform_pods (.of_eq perform_db) (fun _ => ⟨_, rfl, rfl⟩)
  | posted =>
    exact hquiet _ _ rfl trivial rfl (reach_grows _ (by simp [appendCall]) w.db)
      (fun _ => ⟨_, rfl, rfl⟩)
  | unposted hrefused | uncreated hrefused =>
    cases hrefused.symm.trans hgood
  | unassign | abort => exact hwell.elim
  | install => exact h.addPod rfl (fun taskID hl => (hback taskID hl).1.symm) rfl trivial
  | release | record =>
    exact hquiet _ _ rfl trivial perform_pods (.of_eq perform_db) (fun hc => by cases hc)
  | spawn =>
    obtain ⟨slot, hslot, -⟩ := hstart
    rw [perform_spawn hslot (hown.stores.slots _ _ hslot).key]
    exact h.addPod rfl (fun taskID hl => by cases (hback taskID hl).2) rfl trivial

/-- In the start-up the executor has no slot. -/
theorem Accounts.no_slot (h : Accounts cfg w) (hown : Ownership cfg w)
    (hboot : w.main.booting = true) (taskID : String) : w.pods.lookup taskID = none := by
  rw [Option.eq_none_iff_forall_not_mem]
  intro slot hslot
  exact h.boot hboot taskID (hown.stores.slots _ _ hslot).assigned

theorem MainStep.accounts {m' : Main} (hs : MainStep cfg reg w a m act m') (hm : w.main = m)
    (hgood : startsWell cfg reg w a m = true) (hown : Ownership cfg w) (h : Accounts cfg w) :
    Accounts cfg ((w.perform reg act).goto m') := by
  -- outside a start no task comes, and none is being launched
  have hquiet : ∀ (act : Act) (m' : Main), (m'.booting = true → m.booting = true) → m'.well →
      (w.perform reg act).pods = w.pods → Grows cfg w.db (w.perform reg act).db →
      (∀ taskID, ¬ m.launches taskID) → Accounts cfg ((w.perform reg act).goto m') := by
    intro act m' hboot hw hpods hgrows hno
    apply h.advance _ _ _ _ hw
    · rw [hm]
      exact hboot
    · intro taskID
      by_cases hup : m' = .down
      · subst hup
        rw [h.no_slot hown (hm ▸ hboot rfl) taskID]
        rfl
      · rw [goto_pods hup, hpods]
    · intro taskID hassigned
      exact .inl (hgrows.assigned taskID hassigned)
    · intro taskID hl
      rw [hm] at hl
      exact absurd hl (hno taskID)
  have hno : (∀ task stage, m ≠ .start task stage) → ∀ taskID, ¬ m.launches taskID := by
    intro hout taskID hl
    obtain ⟨task, stage, heq, -, -⟩ := hl
    exact hout task stage heq
  cases hs with
  | start hstart => exact hstart.accounts hm hgood hown h
  | unlisted | listed | dropped | resent | unconfirmed | attached | unattached =>
    exact hquiet _ _ (fun _ => rfl) trivial rfl (.refl _) (hno (by simp))
  | tick | room | undiscovered | discovered | running | next =>
    exact hquiet _ _ (fun hb => by cases hb) trivial rfl (.refl _) (hno (by simp))
  | full hat =>
    refine hquiet _ _ (fun hb => by cases hb) trivial rfl (.refl _) ?_
    rcases hat with rfl | ⟨items, rfl⟩
    · exact hno (by simp)
    · exact hno (by simp)
  | resend | unsent =>
    exact hquiet _ _ (fun _ => rfl) trivial rfl (reach_grows _ (by simp [appendCall]) w.db)
      (hno (by simp))
  | drop | confirm =>
    exact hquiet _ _ (fun _ => rfl) trivial perform_pods (.of_eq perform_db) (hno (by simp))
  | @attach r rest name uid href =>
    -- a record with a Pod would be of a task of the executor
    obtain ⟨hcached, -⟩ : MainOwned cfg w (.attach (r :: rest)) := hm ▸ hown.main
    have hrecord := hown.stores.records _ r (hcached.found r (List.mem_cons_self ..))
    have hassigned := (hrecord.assigned (by
      intro hempty
      rw [hempty, podReference_empty] at href
      cases href)).1
    exact absurd hassigned (h.boot (by rw [hm]; rfl) _)

theorem SlotStep.accounts {slot : Slot} {slot' : Option Slot}
    (hs : SlotStep cfg reg w a slot act slot') (hfound : w.pods.lookup taskID = some slot)
    (howned : SlotOwned cfg w.db taskID slot) (h : Accounts cfg w) :
    Accounts cfg ((w.perform reg act).setSlot taskID slot') := by
  obtain ⟨hgrows, hpods, -⟩ := hs.frame
  -- what the step shows about its own slot
  have hown : (∀ s, slot' = some s → s.stage.reported = true →
      Submitted ((w.perform reg act).setSlot taskID slot') taskID) ∧
      (slot' = none → Submitted ((w.perform reg act).setSlot taskID slot') taskID) := by
    have hbefore : slot.stage.reported = true →
        Submitted ((w.perform reg act).setSlot taskID slot') taskID := by
      intro hreported
      apply (h.reported taskID slot hfound hreported).mono
      rw [setSlot_sent]
      exact perform_sent_mono act
    have hkey := howned.key
    have hstage := howned.stage
    cases hs with
    | supervise hat hstarted hsame hnext =>
      refine ⟨?_, fun hc => by cases hc⟩
      intro s hsome hreported
      obtain rfl := Option.some.inj hsome
      rcases hnext with hsup | ⟨eventType, phase, detail, hout, -⟩
      · rw [Stage.reported_of_supervising hsup] at hreported
        cases hreported
      · rw [hout] at hreported
        cases hreported
    | persist | outbox =>
      refine ⟨?_, fun hc => by cases hc⟩
      intro s hsome hreported
      obtain rfl := Option.some.inj hsome
      cases hreported
    | @posted event hat | @unposted event hat =>
      rw [hat] at hstage
      refine ⟨fun _ _ _ => ?_, fun hc => by cases hc⟩
      exact ⟨event, List.mem_cons_self .., hstage.1.taskID, hstage.2⟩
    | accept hat | unassign hat | delete hat =>
      exact ⟨fun _ _ _ => hbefore (by rw [hat]; rfl), fun hc => by cases hc⟩
    | leave hat => exact ⟨(fun _ hc => by cases hc), fun _ => hbefore (by rw [hat]; rfl)⟩
  apply h.step
  · intro hb
    rw [setSlot_main, perform_main] at hb
    exact hb
  · intro id hassigned
    rw [setSlot_db] at hassigned
    exact .inl (hgrows.assigned id hassigned)
  · rw [setSlot_sent]
    exact perform_sent_mono act
  · intro id hpod
    rw [lookup_setSlot]
    split
    · rename_i hid
      subst hid
      cases hslot' : slot' with
      | none => exact .inr (hslot' ▸ hown.2 hslot')
      | some s => exact .inl rfl
    · rw [hpods]
      exact .inl hpod
  · intro id hl
    rw [setSlot_main, perform_main]
    exact .inr hl
  · refine forall_setSlot hpods hown.1 ?_
    intro id s _ hslot hreported
    apply (h.reported id s hslot hreported).mono
    rw [setSlot_sent]
    exact perform_sent_mono act
  · rw [setSlot_main, perform_main]
    exact h.well

/-! ## Section 4: Every run -/

/-- The process does not end from outside, and a start goes through once its claim is
    accepted. -/
def steady (cfg : ExecutorConfig) (reg : Config) (w : World) : Label → Bool
  | .crash => false
  | .main a => startsWell cfg reg w a w.main
  | _ => true

/-- The executor in runs whose steps all are steady. -/
def steadyExecutor (cfg : ExecutorConfig) (reg : Config) : System World Label :=
  (executor cfg reg).restrict (fun w l => steady cfg reg w l = true)

theorem WorldStep.accounts {l : Label} (hs : WorldStep cfg reg w l w') (hown : Ownership cfg w)
    (hsteady : steady cfg reg w l = true) (h : Accounts cfg w) : Accounts cfg w' := by
  cases hs with
  | start hdown =>
    apply h.quiet
    · intro _
      rw [hdown]
      rfl
    · exact fun _ hassigned => .inl hassigned
    · exact fun _ => rfl
    · exact fun e he => he
    · intro taskID hl
      rw [hdown] at hl
      obtain ⟨_, _, heq, -, -⟩ := hl
      cases heq
    · trivial
  | crash => cases hsteady
  | @registry call hother =>
    have hgrows : Grows cfg w.db ((exec reg call).commit w.db) :=
      grows_of_other hother w.db
    exact h.quiet id (fun taskID hassigned => .inl (hgrows.assigned taskID hassigned))
      (fun _ => rfl) (fun e he => he) (fun _ hl => hl) h.well
  | podGone =>
    exact h.quiet id (fun _ hassigned => .inl hassigned) (fun _ => rfl) (fun e he => he)
      (fun _ hl => hl) h.well
  | main hmain => exact hmain.accounts rfl hsteady hown h
  | @task taskID a obs slot act slot' hfound hslot =>
    exact hslot.accounts hfound (hown.stores.slots taskID slot hfound) h

theorem accounts_reachable (h : (steadyExecutor cfg reg).Reachable w) :
    Accounts cfg w := by
  apply h.invariant
  · rintro _ rfl
    have hnone : ∀ taskID, ¬ Assigned World.initial.db cfg.executorID taskID := by
      intro taskID hassigned
      obtain ⟨t, ht, -⟩ := hassigned
      cases ht
    refine ⟨fun _ => hnone, fun taskID hassigned => absurd hassigned (hnone taskID), ?_, trivial⟩
    intro taskID slot hslot
    cases hslot
  · intro w l w' hreach hacc hstep
    exact (worldStep_of_step hstep.1).accounts (ownership_reachable hreach.of_restrict) hstep.2 hacc

/-- The task was claimed by the executor, and neither a slot nor a start works on it. -/
structure Abandoned (cfg : ExecutorConfig) (w : World) (taskID : String) : Prop where
  claimed : Assigned w.db cfg.executorID taskID
  no_slot : w.pods.lookup taskID = none
  no_start : ¬ w.main.launches taskID

/-- In a run without a crash in which every start goes through once its claim is accepted, a
    claimed task that is no longer supervised has had a terminal event submitted, and the
    Registry has at most one. -/
theorem terminal_event_submitted
    (h : (steadyExecutor cfg reg).Reachable w) {taskID : String}
    (hstopped : Abandoned cfg w taskID) :
    Submitted w taskID ∧
      (taskLog w.db taskID).countP (fun r => r.eventType.terminal) ≤ 1 := by
  constructor
  · rcases (accounts_reachable h).accounted taskID hstopped.claimed with hpod | hlaunch | hsub
    · rw [hstopped.no_slot] at hpod
      cases hpod
    · exact absurd hlaunch hstopped.no_start
    · exact hsub
  · obtain ⟨t, ht, -⟩ := hstopped.claimed
    have hlog := reachable_logInvariant (registry_reachable h.of_restrict)
    exact hlog.terminal_le_one ht

/-- The task of the sample deployment fails at once: the watch of its Pod reports an error, and
    the Registry takes the event. -/
def sampleFailure : List Label :=
  [.task "task" (sampleAnswer "watch" 13) (.watchFailed "gone"),
    .task "task" (sampleAnswer "end" 14) .step, .task "task" (sampleAnswer "report" 14) .step,
    .task "task" (sampleAnswer "mark" 14) .step, .task "task" (sampleAnswer "forget" 14) .step,
    .task "task" (sampleAnswer "delete" 14) .step, .task "task" (sampleAnswer "leave" 14) .step]

theorem not_launches_of_idle (h : w.main = .idle) (taskID : String) :
    ¬ w.main.launches taskID := by
  intro hl
  obtain ⟨task, stage, hmain, -, -⟩ := hl
  rw [h] at hmain
  cases hmain

theorem terminal_event_submitted_sample : ∃ w,
    (steadyExecutor sampleExecutor sampleConfig).Reachable w ∧
      Abandoned sampleExecutor w "task" ∧ Submitted w "task" ∧
      (taskLog w.db "task").countP (fun r => r.eventType.terminal) ≤ 1 := by
  obtain ⟨w, hreach, hassigned, hslot, hidle⟩ : ∃ w,
      (steadyExecutor sampleExecutor sampleConfig).Reachable w ∧
        (∃ t ∈ w.db.tasks.lookup "task", t.executorID = some "exec") ∧
        w.pods.lookup "task" = none ∧ w.main = .idle :=
    System.Reachable.exists_of_guarded (sampleRegistry ++ sampleStart ++ sampleRound ++
      sampleLaunch ++ sampleInstall ++ sampleFailure) rfl (by decide +kernel)
  have hstopped : Abandoned sampleExecutor w "task" :=
    ⟨hassigned, hslot, not_launches_of_idle hidle "task"⟩
  exact ⟨w, hreach, hstopped, terminal_event_submitted hreach hstopped⟩

/-- The process is not ended from outside. -/
def uncrashed : Label → Bool
  | .crash => false
  | _ => true

/-- The API server refuses the Pod, after the claim and the `running` event: the poll loop
    goes on, and the task stays `running` without a terminal event. -/
theorem terminal_event_missing_after_failed_create : ∃ w,
    ((executor sampleExecutor sampleConfig).restrict
      (fun _ l => uncrashed l = true)).Reachable w ∧
      w.main = .idle ∧ Abandoned sampleExecutor w "task" ∧ ¬ Submitted w "task" := by
  obtain ⟨w, hreach, hassigned, hslot, hidle, hsent⟩ : ∃ w,
      ((executor sampleExecutor sampleConfig).restrict
        (fun _ l => uncrashed l = true)).Reachable w ∧
        (∃ t ∈ w.db.tasks.lookup "task", t.executorID = some "exec") ∧
        w.pods.lookup "task" = none ∧ w.main = .idle ∧ ∀ e ∈ w.sent, e.eventType = "running" :=
    System.Reachable.exists_of_guarded (sampleRegistry ++ sampleStart ++ sampleRound ++
      sampleLaunch.take 5 ++ [.main { sampleAnswer "create" 11 with reach := .failed },
        .main (sampleAnswer "unassign" 11), .main (sampleAnswer "abort" 11)]) rfl
      (by decide +kernel)
  refine ⟨w, hreach, hidle, ⟨hassigned, hslot, not_launches_of_idle hidle _⟩, ?_⟩
  intro hsub
  obtain ⟨e, he, -, hterminal⟩ := hsub
  rw [IsTerminal, hsent e he] at hterminal
  rcases hterminal with h | h
  · exact absurd h (by decide)
  · exact absurd h (by decide)

end FlowAI.K8s
