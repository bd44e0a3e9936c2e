import FlowAI.K8s.Accounting

/-! # Pods Without a Supervisor

  `removePod` runs on every way out of `runPodTask`, `DeletePod` only on the way that ends
  with an accepted terminal event.  A report that the Registry does not take leaves the Pod
  in the cluster, where it counts against `MaxPods`, with nobody to delete it.

  Which Pods a process created and which it asked to delete is not part of its state; it is
  noted beside it.
-/

namespace FlowAI.K8s

open Registry

variable {m : Main} {log : PodLog} {act : Act}

variable {cfg : ExecutorConfig} {reg : Config} {w w' : World} {a : Answer}

/-! ## Section 1: The notes -/

/-- What the process has done to Pods since it started. -/
structure PodLog where
  created : List Pod
  /-- The names and UIDs of the Pods `DeletePod` was called for. -/
  deleted : List (String × String)

def PodLog.empty : PodLog := ⟨[], []⟩

/-- The Pod that the API server creates in a step of the poll goroutine. -/
def Main.creates (w : World) (a : Answer) : Main → Option Pod
  | .start task (.create _) =>
    if a.reach ≠ .failed && w.nameFree (podName task.taskID) then
      some ⟨podName task.taskID, a.uid, task.taskID, task.commandID⟩
    else none
  | _ => none

/-- The Pod that a goroutine calls `DeletePod` for. -/
def Slot.deletes (slot : Slot) : Option (String × String) :=
  if slot.stage = .delete then some (slot.podName, slot.podUID) else none

def podLog (w : World) : Label → PodLog → PodLog
  | .start, _ => .empty
  | .crash, _ => .empty
  | .main a, log => { log with created := (w.main.creates w a).toList ++ log.created }
  | .task taskID _ _, log =>
    { log with deleted := ((w.pods.lookup taskID).bind Slot.deletes).toList ++ log.deleted }
  | _, log => log

/-! ## Section 2: What is claimed of a Pod -/

/-- An entry of `e.pods` stands for the Pod. -/
def Supervised (w : World) (pod : Pod) : Prop :=
  ∃ slot, w.pods.lookup pod.taskID = some slot ∧ slot.podName = pod.name ∧ slot.podUID = pod.uid

instance (w : World) (pod : Pod) : Decidable (Supervised w pod) :=
  inferInstanceAs (Decidable (∃ slot, w.pods.lookup pod.taskID = some slot ∧ _))

def PodLog.Deleted (log : PodLog) (pod : Pod) : Prop := (pod.name, pod.uid) ∈ log.deleted

instance (log : PodLog) (pod : Pod) : Decidable (log.Deleted pod) :=
  inferInstanceAs (Decidable (_ ∈ log.deleted))

/-- The start in progress is about to enter the Pod into the map. -/
def Main.InHand (m : Main) (pod : Pod) : Prop :=
  ∃ task podEnv, m = .start task (.install podEnv pod.uid) ∧ pod.taskID = task.taskID ∧
    pod.name = podName task.taskID

/-- The poll loop, outside `startTaskV0002`. -/
def Main.polling : Main → Bool
  | .idle | .capacity | .discover | .each _ => true
  | _ => false

/-- Reports of terminal events are accepted and answered, and so is every `CreatePod` that
    the API server carries out. -/
def reportsAccepted (cfg : ExecutorConfig) (reg : Config) (w : World) : Label → Bool
  | .main a =>
    match w.main with
    | .start _ (.create _) => a.reach ≠ .lost
    | _ => true
  | .task taskID a _ =>
    match w.pods.lookup taskID with
    | some ⟨_, _, _, _, _, _, _, _, _, .post event⟩ => w.appends cfg reg a event
    | _ => true
  | _ => true

/-- The executor in runs that meet the condition, with the notes. -/
def reportingExecutor (cfg : ExecutorConfig) (reg : Config) :
    System (World × PodLog) Label :=
  ((executor cfg reg).restrict (fun w l => reportsAccepted cfg reg w l = true)).noting
    .empty podLog

/-! ## Section 3: The invariant -/

structure Tended (w : World) (log : PodLog) : Prop where
  /-- Before the poll loop the process has created nothing. -/
  boot : w.main.booting = true → log.created = []
  covered : ∀ pod ∈ log.created, Supervised w pod ∨ log.Deleted pod ∨ w.main.InHand pod
  /-- A goroutine about to remove its slot has called `DeletePod`. -/
  left : ∀ taskID slot, w.pods.lookup taskID = some slot → slot.stage = .leave →
    (slot.podName, slot.podUID) ∈ log.deleted

theorem not_inHand_of_polling (h : m.polling = true) (pod : Pod) : ¬ m.InHand pod := by
  rintro ⟨task, podEnv, rfl, -, -⟩
  cases h

/-- A step of the poll goroutine that keeps the map and creates no Pod. -/
theorem Tended.quiet (h : Tended w log) (hup : m ≠ .down)
    (hpods : (w.perform reg act).pods = w.pods) (hboot : m.booting = true → w.main.booting = true)
    (hhand : ∀ pod, w.main.InHand pod → m.InHand pod) :
    Tended ((w.perform reg act).goto m) log := by
  have hsame : ((w.perform reg act).goto m).pods = w.pods := by
    rw [goto_pods hup, hpods]
  refine ⟨?_, ?_, ?_⟩
  · intro hb
    rw [goto_main] at hb
    exact h.boot (hboot hb)
  · intro pod hpod
    rcases h.covered pod hpod with hslot | hdeleted | hhanded
    · left
      unfold Supervised
      rw [hsame]
      exact hslot
    · exact .inr (.inl hdeleted)
    · right
      right
      rw [goto_main]
      exact hhand pod hhanded
  · intro taskID slot hslot hstage
    rw [hsame] at hslot
    exact h.left taskID slot hslot hstage

/-- A slot for a task that had none, or in the place of one for the same Pod. -/
theorem Tended.install {slot : Slot} (h : Tended w log) (hup : m ≠ .down)
    (hsame : ∀ s, w.pods.lookup slot.taskID = some s →
      slot.podName = s.podName ∧ slot.podUID = s.podUID) (hstage : slot.stage ≠ .leave)
    (hboot : m.booting = true → w.main.booting = true)
    (hhand : ∀ pod, w.main.InHand pod → pod.taskID = slot.taskID ∧ slot.podName = pod.name ∧
      slot.podUID = pod.uid) :
    Tended ((w.perform reg (.addPod slot)).goto m) log := by
  refine ⟨?_, ?_, ?_⟩
  · intro hb
    rw [goto_main] at hb
    exact h.boot (hboot hb)
  · intro pod hpod
    unfold Supervised
    rw [lookup_goto_addPod hup]
    rcases h.covered pod hpod with ⟨slot₀, hslot₀, hname⟩ | hdeleted | hhanded
    · left
      by_cases hid : slot.taskID = pod.taskID
      · rw [← hid] at hslot₀
        exact ⟨slot, if_pos hid, (hsame _ hslot₀).1.trans hname.1, (hsame _ hslot₀).2.trans hname.2⟩
      · exact ⟨slot₀, by rw [if_neg hid, hslot₀], hname⟩
    · exact .inr (.inl hdeleted)
    · left
      obtain ⟨hid, hname⟩ := hhand pod hhanded
      exact ⟨slot, if_pos hid.symm, hname⟩
  · exact forall_goto_addPod hup (fun hleave => absurd hleave hstage) h.left

/-! ## Section 4: Steps -/

theorem launch_polling_or_start (cfg : ExecutorConfig) (task : Starting)
    (response : ClaimResponse) (values : StrMap String) : launch cfg task response values ≠ .down ∧
      (launch cfg task response values).booting = false := by
  rcases launch_cases cfg task response values with heq | ⟨podEnv, heq⟩
  · rw [heq]
    exact ⟨by simp, rfl⟩
  · rw [heq]
    exact ⟨by simp, rfl⟩

theorem afterClaim_polling_or_start (cfg : ExecutorConfig) (task : Starting)
    (response : ClaimResponse) :
    afterClaim cfg task response ≠ .down ∧ (afterClaim cfg task response).booting = false := by
  rcases afterClaim_cases cfg task response with heq | ⟨token, heq⟩ | ⟨podEnv, heq⟩
  · rw [heq]
    exact ⟨by simp, rfl⟩
  · rw [heq]
    exact ⟨by simp, rfl⟩
  · rw [heq]
    exact ⟨by simp, rfl⟩

theorem StartStep.tended {task : Starting} {stage : StartStage}
    (hs : StartStep cfg reg w a task stage act m) (hm : w.main = .start task stage)
    (hown : StartOwned cfg w task stage) (hstores : Stores cfg w)
    (hguard : reportsAccepted cfg reg w (.main a) = true) (h : Tended w log) :
    Tended ((w.perform reg act).goto m)
      { log with created := ((Main.start task stage).creates w a).toList ++ log.created } := by
  -- only the stage after `CreatePod` has a Pod in hand
  have hhand : (∀ podEnv uid, stage ≠ .install podEnv uid) → ∀ pod, ¬ w.main.InHand pod := by
    intro hstage pod hpod
    obtain ⟨task', podEnv, heq, -, -⟩ := hpod
    rw [hm] at heq
    cases heq
    exact hstage podEnv pod.uid rfl
  have hquiet : ∀ {act : Act} {m : Main}, m ≠ .down → m.booting = false →
      (w.perform reg act).pods = w.pods → (∀ podEnv uid, stage ≠ .install podEnv uid) →
      Tended ((w.perform reg act).goto m) log := by
    intro act m hup hboot hpods hstage
    apply h.quiet hup hpods
    · intro hb
      rw [hboot] at hb
      cases hb
    · intro pod hpod
      exact absurd hpod (hhand hstage pod)
  cases hs with
  | noIntent | intent | assign | reserve | outbox | posted | unposted | accept | unassign | abort
  | release | record | unanswered | unopened =>
    exact hquiet (by simp) rfl perform_pods (by simp)
  | @claimed response _ _ _ =>
    obtain ⟨hup, hboot⟩ := afterClaim_polling_or_start cfg task response
    exact hquiet hup hboot rfl (by simp)
  | declined _ _ hnext =>
    rcases hnext with rfl | rfl
    · exact hquiet (by simp) rfl rfl (by simp)
    · exact hquiet (by simp) rfl rfl (by simp)
  | @opened response token values _ =>
    obtain ⟨hup, hboot⟩ := launch_polling_or_start cfg task response values
    exact hquiet hup hboot rfl (by simp)
  | @created podEnv huid hr hfree =>
    -- the new Pod is in hand; the rest is as before
    have hold : Tended ((w.perform reg (.createPod a.reach
        ⟨podName task.taskID, a.uid, task.taskID, task.commandID⟩)).goto
          (.start task (.install podEnv a.uid))) log :=
      hquiet (by simp) rfl perform_pods (by simp)
    refine ⟨?_, ?_, hold.left⟩
    · intro hb
      rw [goto_main] at hb
      cases hb
    · intro pod hpod
      rcases List.mem_append.mp hpod with hnew | hpod
      · right
        right
        simp only [Main.creates, hr, hfree, Option.mem_toList] at hnew
        obtain rfl := Option.some.inj hnew
        rw [goto_main]
        exact ⟨task, podEnv, rfl, rfl, rfl⟩
      · exact hold.covered pod hpod
  | @uncreated podEnv hrefused =>
    have hnone : (Main.start task (.create podEnv)).creates w a = none := by
      have hreach : a.reach ≠ .lost := by
        simpa [reportsAccepted, hm] using hguard
      simp only [Main.creates]
      apply if_neg
      intro hc
      cases hr : a.reach with
      | answered => simp [hr] at hc hrefused; simp [hrefused] at hc
      | lost => exact hreach hr
      | failed => simp [hr] at hc
    rw [hnone]
    exact hquiet (by simp) rfl perform_pods (by simp)
  | @install podEnv uid =>
    refine h.install (by simp) (fun s hs => by cases hown.2.symm.trans hs) ?_
      (fun hb => by cases hb) ?_
    · intro hc
      cases hc
    · intro pod hpod
      obtain ⟨task', podEnv', heq, hid, hname⟩ := hpod
      rw [hm] at heq
      cases heq
      exact ⟨hid, hname.symm, rfl⟩
  | spawn =>
    obtain ⟨slot, hslot, -⟩ := hown
    have hkey : (slot.at .watch).taskID = task.taskID := (hstores.slots _ _ hslot).key
    rw [perform_spawn hslot hkey]
    refine h.install (by simp) ?_ (by simp [Slot.at]) (fun hb => by cases hb)
      (fun pod hpod => absurd hpod (hhand (by simp) pod))
    intro s hs
    rw [hkey, hslot] at hs
    obtain rfl := Option.some.inj hs
    exact ⟨rfl, rfl⟩

theorem MainStep.tended {m' : Main} (hs : MainStep cfg reg w a m act m') (hm : w.main = m)
    (hown : Ownership cfg w) (hguard : reportsAccepted cfg reg w (.main a) = true)
    (h : Tended w log) :
    Tended ((w.perform reg act).goto m')
      { log with created := (m.creates w a).toList ++ log.created } := by
  have hmain : MainOwned cfg w m := hm ▸ hown.main
  -- a goroutine that goes down, or is not in a start, has no Pod in hand
  have hdown : ∀ {act : Act}, w.main.booting = true →
      Tended ((w.perform reg act).goto .down) log := by
    intro act hb
    refine ⟨fun _ => h.boot hb, ?_, ?_⟩
    · intro pod hpod
      rw [h.boot hb] at hpod
      cases hpod
    · intro taskID slot hslot
      cases hslot
  have hquiet : ∀ {act : Act} {m' : Main}, m' ≠ .down →
      (w.perform reg act).pods = w.pods → (m'.booting = true → m.booting = true) →
      (∀ task stage, m ≠ .start task stage) → Tended ((w.perform reg act).goto m') log := by
    intro act m' hup hpods hboot hno
    apply h.quiet hup hpods
    · intro hb
      rw [hm]
      exact hboot hb
    · intro pod hpod
      obtain ⟨task, podEnv, heq, -, -⟩ := hpod
      rw [hm] at heq
      exact absurd heq (hno _ _)
  cases hs with
  | unlisted | unsent | unconfirmed | unattached => exact hdown (by rw [hm]; rfl)
  | listed | dropped | drop | resent | resend | confirm | attached =>
    exact hquiet (by simp) perform_pods (fun _ => rfl) (by simp)
  | @attach r rest name uid _ =>
    refine h.install (by simp) (fun s hs => by cases (hmain.2 r List.mem_cons_self).symm.trans hs) ?_
      (fun _ => by rw [hm]; rfl) ?_
    · intro hc
      cases hc
    · intro pod hpod
      obtain ⟨task, podEnv, heq, -, -⟩ := hpod
      rw [hm] at heq
      cases heq
  | tick | room | undiscovered | discovered | running | next =>
    exact hquiet (by simp) perform_pods (fun hb => by cases hb) (by simp)
  | full hat =>
    rcases hat with rfl | ⟨items, rfl⟩
    · exact hquiet (by simp) rfl (fun hb => by cases hb) (by simp)
    · exact hquiet (by simp) rfl (fun hb => by cases hb) (by simp)
  | start hstart => exact hstart.tended hm hmain.2.2.2 hown.stores hguard h

/-- The goroutine of a task: its slot stands for the same Pod until `DeletePod` was called. -/
theorem SlotStep.tended {slot : Slot} {slot' : Option Slot} {taskID : String} {obs : Observation}
    (hs : SlotStep cfg reg w a slot act slot') (hfound : w.pods.lookup taskID = some slot)
    (hguard : reportsAccepted cfg reg w (.task taskID a obs) = true) (h : Tended w log) :
    Tended ((w.perform reg act).setSlot taskID slot')
      { log with deleted := slot.deletes.toList ++ log.deleted } := by
  obtain ⟨-, hpods, -⟩ := hs.frame
  have hmono : ∀ x ∈ log.deleted, x ∈ slot.deletes.toList ++ log.deleted :=
    fun x hx => List.mem_append_right _ hx
  -- where the slot goes on, for the same Pod, or leaves with its Pod deleted
  have hslot : ∀ s, slot' = some s → (s.podName = slot.podName ∧ s.podUID = slot.podUID) ∧
      (s.stage = .leave → (slot.podName, slot.podUID) ∈ slot.deletes.toList ++ log.deleted) := by
    intro s hsome
    subst hsome
    cases hs with
    | supervise _ _ hsame hnext =>
      refine ⟨⟨hsame.podName, hsame.podUID⟩, ?_⟩
      intro hleave
      rcases hnext with hsup | ⟨_, _, _, hout, -⟩
      · rw [hleave] at hsup
        cases hsup
      · rw [hleave] at hout
        cases hout
    | persist | outbox | posted | accept | unassign =>
      refine ⟨⟨rfl, rfl⟩, ?_⟩
      intro hleave
      cases hleave
    | @unposted event hat hrefused =>
      have happends : w.appends cfg reg a event = true := by
        obtain ⟨_, _, _, _, _, _, _, _, _, stage⟩ := slot
        cases hat
        simpa [reportsAccepted, hfound] using hguard
      rw [happends] at hrefused
      cases hrefused
    | delete hat =>
      refine ⟨⟨rfl, rfl⟩, fun _ => ?_⟩
      simp [Slot.deletes, hat]
  have hgone : slot' = none → (slot.podName, slot.podUID) ∈ slot.deletes.toList ++ log.deleted := by
    intro hnone
    subst hnone
    cases hs with
    | leave hat => exact hmono _ (h.left taskID slot hfound hat)
  refine ⟨?_, ?_, ?_⟩
  · intro hb
    rw [setSlot_main, perform_main] at hb
    exact h.boot hb
  · intro pod hpod
    rcases h.covered pod hpod with ⟨slot₀, hslot₀, hname, huid⟩ | hdeleted | hhanded
    · by_cases hid : pod.taskID = taskID
      · rw [hid, hfound] at hslot₀
        obtain rfl := Option.some.inj hslot₀
        cases hnext : slot' with
        | none =>
          right
          left
          show (pod.name, pod.uid) ∈ slot.deletes.toList ++ log.deleted
          rw [← hname, ← huid]
          exact hgone hnext
        | some s =>
          left
          obtain ⟨⟨hn, hu⟩, -⟩ := hslot s hnext
          refine ⟨s, ?_, hn.trans hname, hu.trans huid⟩
          rw [lookup_setSlot, if_pos hid]
      · left
        refine ⟨slot₀, ?_, hname, huid⟩
        rw [lookup_setSlot, if_neg hid, hpods]
        exact hslot₀
    · exact .inr (.inl (hmono _ hdeleted))
    · right
      right
      rw [setSlot_main, perform_main]
      exact hhanded
  · refine forall_setSlot hpods ?_ (fun id s _ hs hleave => hmono _ (h.left id s hs hleave))
    intro s hs hleave
    obtain ⟨⟨hn, hu⟩, hdel⟩ := hslot s hs
    rw [hn, hu]
    exact hdel hleave

theorem WorldStep.tended {l : Label} (hs : WorldStep cfg reg w l w') (hown : Ownership cfg w)
    (hguard : reportsAccepted cfg reg w l = true) (h : Tended w log) :
    Tended w' (podLog w l log) := by
  cases hs with
  | start hdown =>
    have hempty : w.pods = .empty := by
      have hmain := hown.main
      rw [hdown] at hmain
      exact hmain
    refine ⟨fun _ => rfl, ?_, ?_⟩
    · intro pod hpod
      cases hpod
    · intro taskID slot hslot
      change w.pods.lookup taskID = some slot at hslot
      rw [hempty] at hslot
      cases hslot
  | crash =>
    refine ⟨fun _ => rfl, ?_, ?_⟩
    · intro pod hpod
      cases hpod
    · intro taskID slot hslot
      cases hslot
  | registry | podGone => exact ⟨h.boot, h.covered, h.left⟩
  | main hmain => exact hmain.tended rfl hown hguard h
  | @task taskID a obs slot act slot' hfound hslot =>
    have hlog : podLog w (.task taskID a obs) log =
        { log with deleted := slot.deletes.toList ++ log.deleted } := by
      simp [podLog, hfound]
    rw [hlog]
    exact hslot.tended hfound hguard h

theorem tended_reachable (h : (reportingExecutor cfg reg).Reachable (w, log)) :
    Tended w log := by
  have hgen : ∀ p : World × PodLog, (reportingExecutor cfg reg).Reachable p → Tended p.1 p.2 := by
    intro p hp
    apply hp.invariant (P := fun p => Tended p.1 p.2)
    · intro p hinit
      obtain ⟨hw, hlog⟩ := hinit
      rw [hlog, show p.1 = World.initial from hw]
      refine ⟨fun _ => rfl, ?_, ?_⟩
      · intro pod hpod
        cases hpod
      · intro taskID slot hslot
        cases hslot
    · intro p l p' hreach htended hstep
      obtain ⟨⟨hw, hguard⟩, hlog⟩ := hstep
      rw [hlog]
      exact (worldStep_of_step hw).tended (ownership_reachable hreach.of_noting.of_restrict)
        hguard htended
  exact hgen (w, log) h

/-- **In the poll loop every Pod that the process created has its slot or was asked to go, if
    the Registry takes every terminal event and no answer to a `CreatePod` is lost.** -/
theorem pods_supervised_or_deleted {log : PodLog}
    (h : (reportingExecutor cfg reg).Reachable (w, log)) (hpolling : w.main.polling = true)
    (pod : Pod) (hpod : pod ∈ log.created) : Supervised w pod ∨ log.Deleted pod := by
  rcases (tended_reachable h).covered pod hpod with hslot | hdeleted | hhanded
  · exact .inl hslot
  · exact .inr hdeleted
  · exact absurd hhanded (not_inHand_of_polling hpolling pod)

def samplePod : Pod := ⟨podName "task", "uid", "task", commandIDForStable 0⟩

/-- The task of the sample deployment fails and is reported: `DeletePod` is called before the
    slot goes. -/
theorem pods_supervised_or_deleted_sample : ∃ w log,
    (reportingExecutor sampleExecutor sampleConfig).Reachable (w, log) ∧
      w.main.polling = true ∧ samplePod ∈ log.created ∧ w.pods.lookup "task" = none ∧
      (Supervised w samplePod ∨ log.Deleted samplePod) := by
  obtain ⟨w, log, hreach, hpolling, hpod, hslot⟩ : ∃ w log,
      (reportingExecutor sampleExecutor sampleConfig).Reachable (w, log) ∧
        w.main.polling = true ∧ samplePod ∈ log.created ∧ w.pods.lookup "task" = none :=
    System.Reachable.exists_of_noting (sampleRegistry ++ sampleStart ++ sampleRound ++
      sampleLaunch ++ sampleInstall ++ sampleFailure) rfl (by decide +kernel)
  exact ⟨w, log, hreach, hpolling, hpod, hslot,
    pods_supervised_or_deleted hreach hpolling samplePod hpod⟩

/-- The Registry does not take the terminal event of the sample task: the slot is removed,
    `DeletePod` is never called, and the Pod stays in the cluster, which is then full. -/
theorem pod_orphaned : ∃ w log,
    (((executor sampleExecutor sampleConfig).restrict
      (fun _ l => uncrashed l = true)).noting .empty podLog).Reachable (w, log) ∧
      w.main = .idle ∧ samplePod ∈ log.created ∧ ¬ Supervised w samplePod ∧
      ¬ log.Deleted samplePod ∧ w.cluster.length = sampleExecutor.maxPods := by
  exact System.Reachable.exists_of_noting (sampleRegistry ++ sampleStart ++ sampleRound ++
    sampleLaunch ++ sampleInstall ++ sampleFailure.take 2 ++
      [.task "task" { sampleAnswer "report" 14 with reach := .failed } .step,
        .task "task" (sampleAnswer "leave" 14) .step]) rfl (by decide +kernel)

end FlowAI.K8s
