import FlowAI.K8s.Steps

/-! # The Capacity of the Kubernetes Executor

  The poll goroutine alone creates Pods, one at a time, and each time it has just seen fewer
  than `maxPods` of them.  Pods go at any time and come from nowhere else, so the room it saw
  is still there when the Pod is created, however many requests lie between.
-/

namespace FlowAI.K8s

variable {cfg : ExecutorConfig} {reg : Registry.Config} {w w' : World}

/-- The poll goroutine has checked the capacity for a Pod it has not created yet. -/
def Main.creating : Main → Bool
  | .start _ stage =>
    match stage with
    | .intent | .claim | .open _ _ | .assign _ | .reserve _ | .outbox _ | .post _ _ | .accept _ _
    | .create _ => true
    | _ => false
  | _ => false

/-- The reservations that are open at a point of the poll goroutine. -/
def Main.reserved : Main → Int
  | .start _ stage =>
    match stage with
    | .outbox _ | .post _ _ | .accept _ _ | .create _ | .unassign | .abort | .install _ _
    | .release _ => 1
    | _ => 0
  | _ => 0

structure CapacityInvariant (cfg : ExecutorConfig) (w : World) : Prop where
  bounded : w.cluster.length ≤ cfg.maxPods
  room : w.main.creating = true → w.cluster.length < cfg.maxPods
  reservations : w.slotReservations = w.main.reserved

variable {a : Answer} {m : Main}

theorem room_of_hasClusterCapacity (h : w.hasClusterCapacity cfg a = true) :
    w.cluster.length < cfg.maxPods := by
  simp only [World.hasClusterCapacity, Bool.and_eq_true, decide_eq_true_eq] at h
  exact h.2

/-- A step that leaves the cluster and the reservations alone. -/
theorem CapacityInvariant.frame (h : CapacityInvariant cfg w) (hcluster : w'.cluster = w.cluster)
    (hreservations : w'.slotReservations = w.slotReservations)
    (hcreating : w'.main.creating = true → w.cluster.length < cfg.maxPods)
    (hreserved : w'.main.reserved = w.main.reserved) : CapacityInvariant cfg w' := by
  refine ⟨?_, ?_, ?_⟩
  · rw [hcluster]
    exact h.bounded
  · intro hc
    rw [hcluster]
    exact hcreating hc
  · rw [hreservations, hreserved]
    exact h.reservations

theorem CapacityInvariant.exit (h : CapacityInvariant cfg w) : CapacityInvariant cfg w.exit :=
  ⟨h.bounded, (fun hc => by cases hc), rfl⟩

/-- An action that creates no Pod and touches no reservation. -/
theorem CapacityInvariant.act (h : CapacityInvariant cfg w) {act : Act}
    (hcreate : ∀ reach pod, act ≠ .createPod reach pod) (hreserve : act ≠ .reserve)
    (hrelease : act ≠ .release) (hcreating : m.creating = true → w.cluster.length < cfg.maxPods)
    (hreserved : m.reserved = w.main.reserved) :
    CapacityInvariant cfg ((w.perform reg act).goto m) := by
  have hcluster : (w.perform reg act).cluster = w.cluster := perform_cluster hcreate
  by_cases hup : m = .down
  · subst hup
    refine ⟨?_, (fun hc => by cases hc), rfl⟩
    rw [goto_cluster, hcluster]
    exact h.bounded
  · rw [goto_of_up hup]
    exact h.frame hcluster (perform_slotReservations hreserve hrelease) hcreating hreserved

theorem StartStep.capacity {task : Starting} {stage : StartStage} {act : Act}
    (hs : StartStep cfg reg w a task stage act m) (hm : w.main = .start task stage)
    (h : CapacityInvariant cfg w) : CapacityInvariant cfg ((w.perform reg act).goto m) := by
  have hroom : w.main.creating = true → w.cluster.length < cfg.maxPods := h.room
  have hres : w.slotReservations = w.main.reserved := h.reservations
  rw [hm] at hroom hres
  cases hs with
  | created huid hr hfree | uncreated hrefused =>
    -- the one place where a Pod comes: the room of the check is still there
    have hlt := hroom rfl
    refine ⟨?_, (fun hc => by cases hc), ?_⟩
    · rw [goto_cluster]
      simp only [World.perform]
      split
      · simp only [List.length_append, List.length_singleton]
        omega
      · exact h.bounded
    · rw [goto_of_up (by simp)]
      show (w.perform reg _).slotReservations = 1
      rw [perform_slotReservations (by simp) (by simp)]
      exact hres
  | reserve =>
    refine ⟨h.bounded, fun _ => hroom rfl, ?_⟩
    show w.slotReservations + 1 = 1
    rw [hres]
    rfl
  | abort | release =>
    have hone : w.slotReservations = 1 := hres
    have hrelease : (w.perform reg .release).slotReservations = 0 := by
      simp [World.perform, hone]
    refine ⟨?_, (fun hc => by cases hc), hrelease⟩
    rw [goto_cluster, perform_cluster (by simp)]
    exact h.bounded
  | claimed hr hok =>
    rcases afterClaim_cases cfg task _ with heq | ⟨token, heq⟩ | ⟨podEnv, heq⟩
    all_goals
      rw [heq]
      apply h.act (by simp) (by simp) (by simp) (fun _ => hroom rfl)
      rw [hm]
      rfl
  | declined hr hno hnext =>
    rcases hnext with rfl | rfl
    all_goals
      apply h.act (by simp) (by simp) (by simp) (fun hc => by cases hc)
      rw [hm]
      rfl
  | opened hr =>
    rcases launch_cases cfg task _ _ with heq | ⟨podEnv, heq⟩
    all_goals
      rw [heq]
      apply h.act (by simp) (by simp) (by simp) (fun _ => hroom rfl)
      rw [hm]
      rfl
  | noIntent | intent | unanswered | unopened | assign | outbox | posted | unposted | accept =>
    apply h.act (by simp) (by simp) (by simp) (fun _ => hroom rfl)
    rw [hm]
    rfl
  | unassign | install | record | spawn =>
    apply h.act (by simp) (by simp) (by simp) (fun hc => by cases hc)
    rw [hm]
    rfl

theorem MainStep.capacity {act : Act}
    (hs : MainStep cfg reg w a w.main act m) (h : CapacityInvariant cfg w) :
    CapacityInvariant cfg ((w.perform reg act).goto m) := by
  generalize hm : w.main = m₀ at hs
  cases hs with
  | start hstart => exact hstart.capacity hm h
  | next hcapacity _ =>
    apply h.act (by simp) (by simp) (by simp)
      (fun _ => room_of_hasClusterCapacity hcapacity)
    rw [hm]
    rfl
  | full hat =>
    apply h.act (by simp) (by simp) (by simp) (fun hc => by cases hc)
    rw [hm]
    rcases hat with rfl | ⟨items, rfl⟩ <;> rfl
  | _ =>
    apply h.act (by simp) (by simp) (by simp) (fun hc => by cases hc)
    rw [hm]
    rfl

theorem SlotStep.capacity {slot : Slot} {act : Act} {slot' : Option Slot}
    (hs : SlotStep cfg reg w a slot act slot') (taskID : String) (h : CapacityInvariant cfg w) :
    CapacityInvariant cfg ((w.perform reg act).setSlot taskID slot') := by
  have hact : (∀ reach pod, act ≠ .createPod reach pod) ∧ act ≠ .reserve ∧ act ≠ .release := by
    cases hs <;> simp
  obtain ⟨hcreate, hreserve, hrelease⟩ := hact
  apply h.frame
  · rw [setSlot_cluster, perform_cluster hcreate]
  · rw [setSlot_slotReservations, perform_slotReservations hreserve hrelease]
  · intro hc
    rw [setSlot_main, perform_main] at hc
    exact h.room hc
  · rw [setSlot_main, perform_main]

theorem WorldStep.capacity {l : Label} (hs : WorldStep cfg reg w l w')
    (h : CapacityInvariant cfg w) : CapacityInvariant cfg w' := by
  cases hs with
  | start hdown =>
    refine h.frame rfl rfl ?_ ?_
    · intro hc
      cases hc
    · rw [hdown]
      rfl
  | crash => exact h.exit
  | registry =>
    refine h.frame rfl rfl ?_ rfl
    exact h.room
  | podGone =>
    have hle : ∀ name, (w.cluster.filter (fun p => p.name ≠ name)).length ≤ w.cluster.length :=
      fun name => List.length_filter_le _ _
    refine ⟨(hle _).trans h.bounded, ?_, h.reservations⟩
    intro hc
    exact lt_of_le_of_lt (hle _) (h.room hc)
  | main hmain => exact hmain.capacity h
  | task _ hslot => exact hslot.capacity _ h

theorem capacity_reachable (h : (executor cfg reg).Reachable w) : CapacityInvariant cfg w := by
  apply h.invariant
  · rintro _ rfl
    exact ⟨Nat.zero_le _, (fun hc => by cases hc), rfl⟩
  · intro w l w' _ hinv hstep
    exact (worldStep_of_step hstep).capacity hinv

/-- In every state of every run, with the process ending and starting anywhere and any
    request failing, there are at most `maxPods` Pods of the executor; the reservations are
    never negative, and none is open outside `startTaskV0002`. -/
theorem capacity_never_exceeded (h : (executor cfg reg).Reachable w) :
    w.cluster.length ≤ cfg.maxPods ∧ 0 ≤ w.slotReservations ∧
      ((∀ task stage, w.main ≠ .start task stage) → w.slotReservations = 0) := by
  have hinv := capacity_reachable h
  refine ⟨hinv.bounded, ?_, ?_⟩
  · rw [hinv.reservations]
    unfold Main.reserved
    split
    · split <;> decide
    · decide
  · intro hout
    rw [hinv.reservations]
    unfold Main.reserved
    split
    · rename_i task stage heq
      exact absurd heq (hout task stage)
    · rfl

/-- The run of the sample deployment that creates its one Pod. -/
theorem capacity_never_exceeded_sample : ∃ w,
    (executor sampleExecutor Registry.sampleConfig).Reachable w ∧ w.cluster.length = 1 ∧
      w.cluster.length ≤ sampleExecutor.maxPods ∧ 0 ≤ w.slotReservations ∧
      ((∀ task stage, w.main ≠ .start task stage) → w.slotReservations = 0) := by
  obtain ⟨w, hreach, hone⟩ : ∃ w,
      (executor sampleExecutor Registry.sampleConfig).Reachable w ∧ w.cluster.length = 1 :=
    System.Reachable.exists_of_follow (sampleRegistry ++ sampleStart ++ sampleRound ++
      sampleLaunch) rfl (by decide +kernel)
  exact ⟨w, hreach, hone, capacity_never_exceeded hreach⟩

end FlowAI.K8s
