import FlowAI.Docker.Slots

/-! # The Capacity of the Docker Executor

  The poll goroutine alone installs slots, one at a time, and each time it has just seen room
  for one.  The other goroutines only take slots out, and a slot goes after its container, so
  the containers are never more than the slots and the one a start has in hand.
-/

namespace FlowAI.Docker

variable {act : Act} {task : Starting}

variable {cfg : Config} {w w' : World} {a : Answer}

/-! ## Section 1: The invariant -/

/-- The reservations that are open at a point of the poll goroutine. -/
def Main.reserved : Main → Int
  | .start _ stage =>
    match stage with
    | .claim | .mark _ | .reserve _ | .spawn _ => 0
    | _ => 1
  | _ => 0

structure CapacityInvariant (cfg : Config) (w : World) : Prop where
  bounded : (w.slots.entries.length : Int) ≤ cfg.maxContainers
  room : ∀ taskID, w.main.unplaced = some taskID →
    (w.slots.entries.length : Int) < cfg.maxContainers
  reservations : w.slotReservations = w.main.reserved
  distinct : w.containers.Nodup
  /-- A container is of a slot or of the start in progress. -/
  owned : ∀ id ∈ w.containers,
    (∃ taskID, w.slots.lookup taskID = some id) ∨ w.main.launched = some id
  /-- The container goes before the slot. -/
  cleaned : ∀ id slot, w.objects.lookup id = some slot →
    slot.stage = .remove ∨ slot.stage = .done → id ∉ w.containers

theorem CapacityInvariant.initial (hmax : 0 ≤ cfg.maxContainers) :
    CapacityInvariant cfg (World.initial cfg) where
  bounded := hmax
  room taskID h := by cases h
  reservations := rfl
  distinct := List.nodup_nil
  owned id h := by cases h
  cleaned id slot h := by cases h

/-! ## Section 2: The poll goroutine -/

section Frame

variable (h : CapacityInvariant cfg w) (hobjects : w'.objects = w.objects)
  (hslots : w'.slots = w.slots)

include h hobjects hslots

/-- A step that leaves the slots and starts no container. -/
theorem CapacityInvariant.frame (hcontainers : w'.containers.Sublist w.containers)
    (hroom : ∀ taskID, w'.main.unplaced = some taskID →
      (w.slots.entries.length : Int) < cfg.maxContainers)
    (hreservations : w'.slotReservations = w'.main.reserved)
    (hlaunched : w.main.launched = none) : CapacityInvariant cfg w' where
  bounded := by
    rw [hslots]
    exact h.bounded
  room := by
    rw [hslots]
    exact hroom
  reservations := hreservations
  distinct := h.distinct.sublist hcontainers
  owned := by
    intro id hid
    rw [hslots]
    rcases h.owned id (hcontainers.subset hid) with hslot | hstart
    · exact .inl hslot
    · rw [hlaunched] at hstart
      cases hstart
  cleaned := by
    intro id slot hslot hstage hid
    rw [hobjects] at hslot
    exact h.cleaned id slot hslot hstage (hcontainers.subset hid)

/-- A step of `startTaskV0002` that leaves slots, containers and reservations alone. -/
theorem CapacityInvariant.proceed (hcontainers : w'.containers = w.containers)
    (hreserve : w'.slotReservations = w.slotReservations)
    (hunplaced : w.main.unplaced = some task.taskID) (hreserved : w'.main.reserved = w.main.reserved)
    (hlaunched : w.main.launched = none) : CapacityInvariant cfg w' := by
  apply h.frame hobjects hslots
  · rw [hcontainers]
  · exact fun _ _ => h.room task.taskID hunplaced
  · rw [hreserve, h.reservations, hreserved]
  · exact hlaunched

/-- The poll goroutine stays outside `startTaskV0002`. -/
theorem CapacityInvariant.outside (hcontainers : w'.containers.Sublist w.containers)
    (hreserve : w'.slotReservations = w.slotReservations)
    (hbefore : ∀ task stage, w.main ≠ .start task stage)
    (hafter : ∀ task stage, w'.main ≠ .start task stage) : CapacityInvariant cfg w' := by
  have hout : ∀ m : Main, (∀ task stage, m ≠ .start task stage) →
      m.unplaced = none ∧ m.reserved = 0 ∧ m.launched = none := by
    intro m hm
    cases m with
    | start task stage => exact absurd rfl (hm task stage)
    | _ => exact ⟨rfl, rfl, rfl⟩
  apply h.frame hobjects hslots hcontainers
  · intro taskID ht
    rw [(hout _ hafter).1] at ht
    cases ht
  · rw [hreserve, h.reservations, (hout _ hbefore).2.1, (hout _ hafter).2.1]
  · exact (hout _ hbefore).2.2

/-- A start begins: the check has seen room. -/
theorem CapacityInvariant.begin {items : List String} (hm : w.main = .each items)
    (hm' : w'.main = .start task .claim) (hroom : 0 < w.freeSlots cfg)
    (hcontainers : w'.containers = w.containers)
    (hreserve : w'.slotReservations = w.slotReservations) : CapacityInvariant cfg w' := by
  have hzero : w.slotReservations = 0 := by
    rw [h.reservations, hm]
    rfl
  apply h.frame hobjects hslots
  · rw [hcontainers]
  · intro _ _
    unfold World.freeSlots at hroom
    omega
  · rw [hreserve, hzero, hm']
    rfl
  · rw [hm]
    rfl

end Frame

theorem slotReservations_release (h : w.slotReservations = 1) :
    (w.perform .release).slotReservations = 0 := by
  simp [World.perform, h]

/-- The slot of a start takes over its container. -/
theorem CapacityInvariant.install (h : CapacityInvariant cfg w) (hsound : Sound w) {launch : Launch}
    {id : String} (hm : w.main = .start task (.install launch id)) :
    CapacityInvariant cfg
      ((w.perform (.addSlot (task.slot launch id))).goto (.start task (.release id))) := by
  have hroom := h.room task.taskID (by rw [hm]; rfl)
  have hfree : w.slots.lookup task.taskID = none := by
    rw [Option.eq_none_iff_forall_ne_some]
    intro i hi
    obtain ⟨slot, hslot, htask, _⟩ := hsound.listed _ i hi
    exact hsound.unplaced task.taskID (by rw [hm]; rfl) i slot hslot htask
  refine ⟨?_, (fun t ht => by cases ht), ?_, h.distinct, ?_, ?_⟩
  · show ((w.slots.insert task.taskID id).entries.length : Int) ≤ _
    rw [StrMap.length_insert hfree]
    push_cast
    omega
  · show w.slotReservations = 1
    rw [h.reservations, hm]
    rfl
  · intro i hi
    apply Or.inl
    show ∃ t, (w.slots.insert task.taskID id).lookup t = some i
    rcases h.owned i hi with ⟨t, ht⟩ | hstart
    · refine ⟨t, ?_⟩
      have hne : task.taskID ≠ t := by
        intro heq
        rw [← heq, hfree] at ht
        cases ht
      rw [StrMap.lookup_insert, if_neg hne]
      exact ht
    · rw [hm] at hstart
      cases hstart
      refine ⟨task.taskID, ?_⟩
      rw [StrMap.lookup_insert, if_pos rfl]
  · show ∀ i slot, (w.objects.insert id (task.slot launch id)).lookup i = some slot →
      slot.stage = .remove ∨ slot.stage = .done → i ∉ w.containers
    apply StrMap.forall_lookup_insert
    · intro hstage
      rcases hstage with hstage | hstage <;> cases hstage
    · exact h.cleaned

variable {slot slot' : Slot}

/-- A slot is replaced; its container is gone when its last step is left. -/
theorem CapacityInvariant.replace {id : String} (h : CapacityInvariant cfg w)
    (hsound : Sound w) (hr : Replaces w w' id slot slot')
    (hreservations : w'.slotReservations = w.slotReservations)
    (hcontainers : w'.containers.Sublist w.containers)
    (hcleanup : slot'.stage = .remove → slot.stage = .remove ∨
      w'.containers = w.containers.filter (· ≠ slot.containerID)) : CapacityInvariant cfg w' := by
  obtain ⟨hid, _, hlisted⟩ := hsound.object id slot hr.object
  have hlength : w'.slots.entries.length ≤ w.slots.entries.length := by
    rcases hr.slots with ⟨heq, _⟩ | ⟨heq, _⟩
    · rw [heq]
    · rw [heq]
      exact StrMap.length_erase_le
  have hbounded := h.bounded
  refine ⟨by omega, ?_, ?_, h.distinct.sublist hcontainers, ?_, ?_⟩
  · intro t ht
    rw [hr.main] at ht
    have hroom := h.room t ht
    omega
  · rw [hr.main]
    exact hreservations.trans h.reservations
  · intro i hi
    rw [hr.main]
    have hi' : i ∈ w.containers := hcontainers.subset hi
    rcases h.owned i hi' with ⟨t, ht⟩ | hstart
    · refine .inl ⟨t, ?_⟩
      rcases hr.slots with ⟨heq, _⟩ | ⟨heq, hstage, _⟩
      · rw [heq]
        exact ht
      · -- the slot that goes has no container any more
        have hne : t ≠ slot.taskID := by
          intro hsame
          rw [hsame, hlisted (by rw [hstage]; simp)] at ht
          cases ht
          exact h.cleaned id slot hr.object (.inl hstage) hi'
        rw [heq, StrMap.lookup_erase, if_neg hne]
        exact ht
    · exact .inr hstart
  · rw [hr.objects]
    apply StrMap.forall_lookup_insert
    · intro hstage hmem
      have hold : slot.stage = .remove ∨ slot.stage = .done → False := fun hst =>
        h.cleaned id slot hr.object hst (hcontainers.subset hmem)
      rcases hstage with hstage | hstage
      · rcases hcleanup hstage with hst | heq
        · exact hold (.inl hst)
        · rw [heq, hid] at hmem
          simp at hmem
      · rcases hr.slots with ⟨_, hiff⟩ | ⟨_, hst, _⟩
        · exact hold (.inr (hiff.mp hstage))
        · exact hold (.inl hst)
    · intro i s hs hstage hmem
      exact h.cleaned i s hs hstage (hcontainers.subset hmem)

theorem StartStep.capacity {stage : StartStage} {m : Main} (hs : StartStep cfg w a task stage act m)
    (hm : w.main = .start task stage) (hsound : Sound w) (h : CapacityInvariant cfg w) :
    CapacityInvariant cfg ((w.perform act).goto m) := by
  have hres : w.slotReservations = (Main.start task stage).reserved := by
    rw [h.reservations, hm]
  cases hs with
  | reserve =>
    refine h.frame rfl rfl (List.Sublist.refl _) ?_ ?_ (by rw [hm]; rfl)
    · exact fun _ _ => h.room task.taskID (by rw [hm]; rfl)
    · show w.slotReservations + 1 = 1
      rw [hres]
      rfl
  | abort | release =>
    exact h.frame rfl rfl (List.Sublist.refl _) (by rintro _ ⟨⟩)
      (slotReservations_release hres) (by rw [hm]; rfl)
  | created hnew =>
    -- the one place where a container comes
    simp only [World.newContainer, Bool.and_eq_true, Option.isNone_iff_eq_none] at hnew
    have hfresh : a.containerID ∉ w.containers := by
      intro hmem
      have := List.all_eq_true.mp hnew.2 _ hmem
      simp at this
    refine ⟨h.bounded, fun _ _ => h.room task.taskID (by rw [hm]; rfl), hres, ?_, ?_, ?_⟩
    · exact List.nodup_cons.mpr ⟨hfresh, h.distinct⟩
    · intro id hid
      rcases List.mem_cons.mp hid with rfl | hid
      · exact .inr rfl
      · rcases h.owned id hid with hslot | hstart
        · exact .inl hslot
        · rw [hm] at hstart
          cases hstart
    · intro id slot hslot hstage hid
      rcases List.mem_cons.mp hid with rfl | hid
      · have hslot' : w.objects.lookup a.containerID = some slot := hslot
        rw [hnew.1] at hslot'
        cases hslot'
      · exact h.cleaned id slot hslot hstage hid
  | install => exact h.install hsound hm
  | spawn =>
    obtain ⟨_, _, hleft, hr⟩ := hsound.spawns hm
    have hout : CapacityInvariant cfg (w.goto (.each task.rest)) :=
      h.frame rfl rfl (List.Sublist.refl _) (by rintro _ ⟨⟩) hres (by rw [hm]; rfl)
    exact hout.replace hleft hr rfl (List.Sublist.refl _) (by rintro ⟨⟩)
  | ran =>
    rcases afterRunning_cases _ with ⟨_, _, heq⟩ | ⟨token, heq⟩ | heq
    all_goals
      rw [heq]
      exact h.proceed rfl rfl rfl rfl (by rw [hm]; rfl) (by rw [hm]; rfl) (by rw [hm]; rfl)
  | _ => exact h.proceed rfl rfl rfl rfl (by rw [hm]; rfl) (by rw [hm]; rfl) (by rw [hm]; rfl)

theorem MainStep.capacity {m : Main} (hs : MainStep cfg w a w.main act m) (hsound : Sound w)
    (h : CapacityInvariant cfg w) :
    CapacityInvariant cfg ((w.perform act).goto m) := by
  generalize hm : w.main = m₀ at hs
  cases hs with
  | nothing | discovered | finished | full | skip | undrained =>
    exact h.outside rfl rfl (List.Sublist.refl _) rfl (by simp [hm]) (by simp [World.goto])
  | drain => exact h.outside rfl rfl List.filter_sublist rfl (by simp [hm]) (by simp [World.goto])
  | retry hroom _ _ _ | first hroom _ _ _ => exact h.begin rfl rfl hm rfl hroom rfl rfl
  | start hs => exact hs.capacity hm hsound h

/-! ## Section 3: The goroutines of a task -/

/-- What a goroutine of a slot does to slots, containers and reservations. -/
theorem SlotStep.effect {move : Move} (hs : SlotStep cfg w a slot move act slot') :
    (w.perform act).slotReservations = w.slotReservations ∧
      (w.perform act).containers.Sublist w.containers ∧
      (slot'.stage = .remove → slot.stage = .remove ∨
        (w.perform act).containers = w.containers.filter (· ≠ slot.containerID)) := by
  cases hs with
  | cleanup => exact ⟨rfl, List.filter_sublist, fun _ => .inr rfl⟩
  | goes _ hlive _ =>
    refine ⟨rfl, List.Sublist.refl _, ?_⟩
    intro hstage
    subst hstage
    cases hlive
  | died | quit | exitReport | controls | cancels | controlReport =>
    exact ⟨rfl, List.Sublist.refl _, fun hstage => .inl hstage⟩
  | _ => exact ⟨rfl, List.Sublist.refl _, nofun⟩

theorem SlotStep.capacity {id : String} {move : Move}
    (hs : SlotStep cfg w a slot move act slot') (hobject : w.objects.lookup id = some slot)
    (hsound : Sound w) (h : CapacityInvariant cfg w) :
    CapacityInvariant cfg ((w.perform act).setObject id slot') := by
  obtain ⟨hreservations, hcontainers, hcleanup⟩ := hs.effect
  exact h.replace hsound (hs.replaces hobject) hreservations hcontainers hcleanup

/-! ## Section 4: Runs -/

theorem WorldStep.capacity {l : Label} (hs : WorldStep cfg w l w') (hsound : Sound w)
    (h : CapacityInvariant cfg w) : CapacityInvariant cfg w' := by
  cases hs with
  | main hs => exact hs.capacity hsound h
  | stop hidle =>
    exact h.outside rfl rfl (List.Sublist.refl _) rfl (by simp [hidle]) (by simp [World.goto])
  | task hobject hs => exact hs.capacity hobject hsound h
  | containerGone =>
    refine ⟨h.bounded, h.room, h.reservations, h.distinct.filter _, ?_, ?_⟩
    · exact fun id hid => h.owned id (List.mem_of_mem_filter hid)
    · exact fun id slot hslot hstage hid =>
        h.cleaned id slot hslot hstage (List.mem_of_mem_filter hid)

theorem capacity_reachable (hmax : 0 ≤ cfg.maxContainers) (h : (executor cfg).Reachable w) :
    CapacityInvariant cfg w := by
  refine h.invariant ?_ ?_
  · intro s hinit
    cases hinit
    exact CapacityInvariant.initial hmax
  · intro s l s' hr hinv hstep
    exact (worldStep_of_step hstep).capacity (sound_reachable hr) hinv

/-- The containers are counted by the slots and the start in progress. -/
theorem CapacityInvariant.containers (h : CapacityInvariant cfg w) :
    (w.containers.length : Int) ≤ cfg.maxContainers := by
  have hin : ∀ id, (∃ taskID, w.slots.lookup taskID = some id) → id ∈ w.slots.entries.map (·.2) := by
    rintro id ⟨taskID, ht⟩
    exact List.mem_map.mpr ⟨(taskID, id), StrMap.lookup_eq_some_iff.mp ht, rfl⟩
  cases hl : w.main.launched with
  | none =>
    have hsub : w.containers ⊆ w.slots.entries.map (·.2) := by
      intro id hid
      rcases h.owned id hid with hslot | hstart
      · exact hin id hslot
      · rw [hl] at hstart
        cases hstart
    have hle := (List.subperm_of_subset h.distinct hsub).length_le
    rw [List.length_map] at hle
    have hbounded := h.bounded
    omega
  | some started =>
    -- one more than the slots, but there is room for one more slot
    have hsub : w.containers ⊆ started :: w.slots.entries.map (·.2) := by
      intro id hid
      rcases h.owned id hid with hslot | hstart
      · exact List.mem_cons_of_mem _ (hin id hslot)
      · rw [hl] at hstart
        cases hstart
        exact List.mem_cons_self
    have hle := (List.subperm_of_subset h.distinct hsub).length_le
    rw [List.length_cons, List.length_map] at hle
    have hroom : (w.slots.entries.length : Int) < cfg.maxContainers := by
      cases hm : w.main with
      | start task stage =>
        rw [hm] at hl
        cases stage with
        | install launch id => exact h.room task.taskID (by rw [hm]; rfl)
        | _ => cases hl
      | _ =>
        rw [hm] at hl
        cases hl
    omega

/-- What the executor keeps to. -/
structure WithinCapacity (cfg : Config) (w : World) : Prop where
  slots : (w.slots.entries.length : Int) ≤ cfg.maxContainers
  reservations : w.slotReservations = 0 ∨ w.slotReservations = 1
  outside : (∀ task stage, w.main ≠ .start task stage) → w.slotReservations = 0
  /-- Two slots are of two tasks. -/
  distinct : ∀ taskID taskID' id id' slot slot', w.slots.lookup taskID = some id →
    w.slots.lookup taskID' = some id' → w.objects.lookup id = some slot →
    w.objects.lookup id' = some slot' → slot.taskID = slot'.taskID → taskID = taskID' ∧ id = id'
  /-- The task of a start has no slot before the start installs it. -/
  inFlight : ∀ task, w.main.unplaced = some task → ∀ taskID id slot,
    w.slots.lookup taskID = some id → w.objects.lookup id = some slot → slot.taskID ≠ task
  owned : ∀ id ∈ w.containers,
    (∃ taskID, w.slots.lookup taskID = some id) ∨ w.main.launched = some id
  containers : (w.containers.length : Int) ≤ cfg.maxContainers

theorem executor_within_capacity (hmax : 0 ≤ cfg.maxContainers) (h : (executor cfg).Reachable w) :
    WithinCapacity cfg w := by
  have hsound := sound_reachable h
  have hinv := capacity_reachable hmax h
  -- the key of an entry is the task of its slot
  have hkey : ∀ taskID id slot, w.slots.lookup taskID = some id →
      w.objects.lookup id = some slot → slot.taskID = taskID := by
    intro taskID id slot hid hslot
    obtain ⟨s, hs, htask, _⟩ := hsound.listed taskID id hid
    rw [hslot] at hs
    cases hs
    exact htask
  refine ⟨hinv.bounded, ?_, ?_, ?_, ?_, hinv.owned, hinv.containers⟩
  · rw [hinv.reservations]
    unfold Main.reserved
    split
    · split <;> simp
    · exact .inl rfl
  · intro hout
    rw [hinv.reservations]
    unfold Main.reserved
    split
    · rename_i task stage heq
      exact absurd heq (hout task stage)
    · rfl
  · intro taskID taskID' id id' slot slot' hid hid' hslot hslot' hsame
    have htask : taskID = taskID' := by
      rw [← hkey taskID id slot hid hslot, ← hkey taskID' id' slot' hid' hslot', hsame]
    subst htask
    rw [hid] at hid'
    exact ⟨rfl, Option.some.inj hid'⟩
  · intro task htask taskID id slot _ hslot
    exact hsound.unplaced task htask id slot hslot

/-- Two tasks are started on a deployment with room for two: both slots and both containers
    are there. -/
theorem executor_within_capacity_sample : ∃ w, (executor sampleConfig).Reachable w ∧
    w.slots.entries.length = 2 ∧ w.containers.length = 2 ∧ WithinCapacity sampleConfig w := by
  obtain ⟨w, hreach, hslots, hcontainers⟩ : ∃ w, (executor sampleConfig).Reachable w ∧
      w.slots.entries.length = 2 ∧ w.containers.length = 2 :=
    System.Reachable.exists_of_follow (sampleStart "a" ++ sampleStart "b") rfl (by decide +kernel)
  exact ⟨w, hreach, hslots, hcontainers, executor_within_capacity (by decide) hreach⟩

end FlowAI.Docker
