import FlowAI.Docker.Capacity

/-! # The Port Mark

  `nextPort` is the port at which the next search begins.  An allocation raises it over the
  port it found, a release lowers it to the port that comes back.  A release comes before
  the slot leaves the map: in between, the port counts as used, an allocation passes over it,
  and raises the mark above it.  Nothing brings the mark down to that port again.

  As long as no port is allocated in that interval, every port below the mark is held by a
  slot that will still release it, and a search cannot fail while there is room for a slot.
-/

namespace FlowAI.Docker

variable {act : Act} {task : Starting} {stage : StartStage} {slot : Slot}

variable {cfg : Config} {w w' : World} {a : Answer}

/-! ## Section 1: The search -/

theorem portUsed_iff (p : Int) : w.portUsed p = true ↔ ∃ taskID id slot,
    w.slots.lookup taskID = some id ∧ w.objects.lookup id = some slot ∧ slot.hostPort = p := by
  simp only [World.portUsed, List.any_eq_true, Option.any_eq_true, decide_eq_true_eq]
  constructor
  · rintro ⟨⟨taskID, id⟩, hmem, slot, hslot, hport⟩
    exact ⟨taskID, id, slot, StrMap.lookup_eq_some_iff.mpr hmem, hslot, hport⟩
  · rintro ⟨taskID, id, slot, hid, hslot, hport⟩
    exact ⟨(taskID, id), StrMap.lookup_eq_some_iff.mp hid, slot, hslot, hport⟩

variable {p : Int} {slot' : Slot}

/-- What the search finds is the first free port from the mark on. -/
theorem allocatePort_eq_some (h : w.allocatePort cfg = some p) :
    w.nextPort ≤ p ∧ p ≤ cfg.openHandsPortEnd ∧ w.portUsed p = false ∧
      ∀ q, w.nextPort ≤ q → q < p → w.portUsed q = true := by
  unfold World.allocatePort at h
  rw [List.find?_map] at h
  obtain ⟨i, hi, rfl⟩ := Option.map_eq_some_iff.mp h
  rw [List.find?_range_eq_some] at hi
  obtain ⟨hfree, hmem, hbefore⟩ := hi
  rw [List.mem_range] at hmem
  refine ⟨by omega, by omega, by simpa using hfree, ?_⟩
  intro q hlow hhigh
  have hq := hbefore (q - w.nextPort).toNat (by omega)
  have heq : w.nextPort + ((q - w.nextPort).toNat : Int) = q := by omega
  simp only [Function.comp_apply, heq] at hq
  simpa using hq

theorem allocatePort_eq_none (h : w.allocatePort cfg = none) {q : Int} (hlow : w.nextPort ≤ q)
    (hhigh : q ≤ cfg.openHandsPortEnd) : w.portUsed q = true := by
  unfold World.allocatePort at h
  have hq := List.find?_eq_none.mp h q (by
    rw [List.mem_map]
    refine ⟨(q - w.nextPort).toNat, ?_, by omega⟩
    rw [List.mem_range]
    omega)
  simpa using hq

/-- If every port of the range is used, there are as many slots as ports. -/
theorem rangeSize_le_slots
    (h : ∀ p, cfg.openHandsPortStart ≤ p → p ≤ cfg.openHandsPortEnd → w.portUsed p = true) :
    cfg.rangeSize ≤ w.slots.entries.length := by
  have hsub : (List.range cfg.rangeSize.toNat).map
      (fun i : Nat => some (cfg.openHandsPortStart + (i : Int))) ⊆
      w.slots.entries.map (fun e => (w.objects.lookup e.2).map Slot.hostPort) := by
    intro p hp
    obtain ⟨i, hi, rfl⟩ := List.mem_map.mp hp
    rw [List.mem_range] at hi
    unfold Config.rangeSize at hi
    obtain ⟨taskID, id, slot, hid, hslot, hport⟩ :=
      (portUsed_iff _).mp (h (cfg.openHandsPortStart + i) (by omega) (by omega))
    refine List.mem_map.mpr ⟨(taskID, id), StrMap.lookup_eq_some_iff.mp hid, ?_⟩
    show (w.objects.lookup id).map Slot.hostPort = _
    rw [hslot, Option.map_some, hport]
  have hnodup : ((List.range cfg.rangeSize.toNat).map
      (fun i : Nat => some (cfg.openHandsPortStart + (i : Int)))).Nodup := by
    apply List.Nodup.map _ List.nodup_range
    intro i j hij
    simpa using hij
  have hle := (List.subperm_of_subset hnodup hsub).length_le
  rw [List.length_map, List.length_map, List.length_range] at hle
  omega

/-! ## Section 2: The invariant -/

/-- `runTaskV0002` has given back the port of the slot. -/
def Slot.released (slot : Slot) : Bool :=
  match slot.stage with
  | .forget | .cleanup | .remove | .done => true
  | _ => false

/-- The port a start has allocated for a slot that it has not installed. -/
def Main.port : Main → Option Int
  | .start _ stage =>
    match stage with
    | .pull launch | .create launch | .install launch _ => some launch.port
    | _ => none
  | _ => none

/-- Someone will still give back the port. -/
def World.Holds (w : World) (p : Int) : Prop :=
  (∃ taskID id slot, w.slots.lookup taskID = some id ∧ w.objects.lookup id = some slot ∧
    slot.hostPort = p ∧ slot.released = false) ∨ w.main.port = some p

/-- A port is allocated only while no installed slot has given back its own. -/
def portsSettled (w : World) : Label → Bool
  | .main _ =>
    match w.main with
    | .start _ (.port _ _ _) =>
      w.slots.entries.all (fun e => (w.objects.lookup e.2).all (fun slot => !slot.released))
    | _ => true
  | _ => true

structure PortInvariant (cfg : Config) (w : World) : Prop where
  mark : cfg.openHandsPortStart ≤ w.nextPort
  held : ∀ p, cfg.openHandsPortStart ≤ p → p < w.nextPort → w.Holds p
  slot : ∀ id slot, w.objects.lookup id = some slot → cfg.openHandsPortStart ≤ slot.hostPort
  inHand : ∀ p, w.main.port = some p → cfg.openHandsPortStart ≤ p

theorem PortInvariant.initial : PortInvariant cfg (World.initial cfg) where
  mark := le_rfl
  held p hlow hhigh := absurd hhigh (not_lt.mpr hlow)
  slot id slot h := by cases h
  inHand p h := by cases h

/-! ## Section 3: The poll goroutine -/

/-- The poll goroutine leaves the slots, the mark and the port in its hand alone. -/
theorem PortInvariant.frame (h : PortInvariant cfg w) (hobjects : w'.objects = w.objects)
    (hslots : w'.slots = w.slots) (hnext : w'.nextPort = w.nextPort)
    (hport : w'.main.port = w.main.port) : PortInvariant cfg w' where
  mark := by
    rw [hnext]
    exact h.mark
  held := by
    unfold World.Holds
    rw [hnext, hslots, hobjects, hport]
    exact h.held
  slot := by
    rw [hobjects]
    exact h.slot
  inHand := by
    rw [hport]
    exact h.inHand

theorem PortInvariant.allocate (h : PortInvariant cfg w) {stage' : StartStage}
    (hm : w.main = .start task stage) (hbefore : (Main.start task stage).port = none)
    (hafter : (Main.start task stage').port = some p)
    (hsettled : ∀ taskID id slot, w.slots.lookup taskID = some id →
      w.objects.lookup id = some slot → slot.released = false)
    (hfree : w.allocatePort cfg = some p) :
    PortInvariant cfg ((w.perform (.takePort p)).goto (.start task stage')) := by
  obtain ⟨hlow, _, _, hpassed⟩ := allocatePort_eq_some hfree
  have hstart := h.mark
  refine ⟨?_, ?_, h.slot, ?_⟩
  · show _ ≤ p + 1
    omega
  · intro q hq hhigh
    have hhigh' : q < p + 1 := hhigh
    by_cases hqp : q = p
    · -- the new port is in the hand of the start
      exact .inr (hqp ▸ hafter)
    · apply Or.inl
      by_cases hmark : q < w.nextPort
      · rcases h.held q hq hmark with hslot | hhand
        · exact hslot
        · rw [hm, hbefore] at hhand
          cases hhand
      · -- passed over: a slot has it, and no slot has given its port back
        obtain ⟨taskID, id, slot, hid, hslot, hport⟩ :=
          (portUsed_iff q).mp (hpassed q (by omega) (by omega))
        exact ⟨taskID, id, slot, hid, hslot, hport, hsettled taskID id slot hid hslot⟩
  · intro q hq
    have hqp : some p = some q := hafter.symm.trans hq
    cases hqp
    omega

/-- A start gives back the port it has in hand. -/
theorem PortInvariant.giveBack (h : PortInvariant cfg w) {stage' : StartStage}
    (hm : w.main = .start task stage) (hbefore : (Main.start task stage).port = some p)
    (hafter : (Main.start task stage').port = none) :
    PortInvariant cfg ((w.perform (.releasePort p)).goto (.start task stage')) := by
  have hmark := h.mark
  have hp : cfg.openHandsPortStart ≤ p := h.inHand p (by rw [hm]; exact hbefore)
  refine ⟨?_, ?_, h.slot, ?_⟩
  · show _ ≤ if p < w.nextPort then p else w.nextPort
    split <;> assumption
  · intro q hq hhigh
    have hhigh' : q < if p < w.nextPort then p else w.nextPort := hhigh
    have hne : q ≠ p ∧ q < w.nextPort := by
      split at hhigh' <;> omega
    rcases h.held q hq hne.2 with hslot | hhand
    · exact .inl hslot
    · rw [hm, hbefore] at hhand
      exact absurd (Option.some.inj hhand).symm hne.1
  · intro q hq
    have hnone : none = some q := hafter.symm.trans hq
    cases hnone

/-- The port goes over to the slot. -/
theorem PortInvariant.install (h : PortInvariant cfg w) (hsound : Sound w) {launch : Launch}
    {id : String} (hm : w.main = .start task (.install launch id)) :
    PortInvariant cfg
      ((w.perform (.addSlot (task.slot launch id))).goto (.start task (.release id))) := by
  have hfree : w.objects.lookup id = none := hsound.launched id (by rw [hm]; rfl)
  have hnone := hsound.unplaced task.taskID (by rw [hm]; rfl)
  refine ⟨h.mark, ?_, ?_, (fun p hp => by cases hp)⟩
  · intro p hlow hhigh
    apply Or.inl
    show ∃ taskID i slot, (w.slots.insert task.taskID id).lookup taskID = some i ∧
      (w.objects.insert id (task.slot launch id)).lookup i = some slot ∧ slot.hostPort = p ∧
        slot.released = false
    simp only [StrMap.lookup_insert]
    rcases h.held p hlow hhigh with ⟨taskID, i, slot, hi, hslot, hport, hreleased⟩ | hhand
    · have htask : task.taskID ≠ taskID := by
        obtain ⟨s, hs, ht, _⟩ := hsound.listed taskID i hi
        rw [← ht]
        exact Ne.symm (hnone i s hs)
      have hne : id ≠ i := by
        intro heq
        rw [heq, hslot] at hfree
        cases hfree
      exact ⟨taskID, i, slot, by rw [if_neg htask]; exact hi, by rw [if_neg hne]; exact hslot,
        hport, hreleased⟩
    · rw [hm] at hhand
      exact ⟨task.taskID, id, task.slot launch id, if_pos rfl, if_pos rfl, Option.some.inj hhand, rfl⟩
  · show ∀ i slot, (w.objects.insert id (task.slot launch id)).lookup i = some slot → _
    apply StrMap.forall_lookup_insert
    · exact h.inHand launch.port (by rw [hm]; rfl)
    · exact h.slot

/-- A slot is replaced: either its port is given back now, or nothing happens to the mark and
    to whether the port was given back. -/
theorem PortInvariant.replace {id : String} (h : PortInvariant cfg w)
    (hsound : Sound w) (hr : Replaces w w' id slot slot')
    (hport : (w'.nextPort = w.nextPort ∧ slot'.released = slot.released) ∨
      w'.nextPort = if slot.hostPort < w.nextPort then slot.hostPort else w.nextPort) :
    PortInvariant cfg w' := by
  have hmark := h.mark
  have hslotPort := h.slot id slot hr.object
  -- below the new mark: below the old one, and not the port given back in this step
  have hbelow : ∀ p, p < w'.nextPort → p < w.nextPort ∧
      (slot'.released = slot.released ∨ slot.hostPort ≠ p) := by
    intro p hp
    rcases hport with ⟨hnext, hsame⟩ | hnext
    · rw [hnext] at hp
      exact ⟨hp, .inl hsame⟩
    · rw [hnext] at hp
      split at hp <;> exact ⟨by omega, .inr (by omega)⟩
  refine ⟨?_, ?_, ?_, ?_⟩
  · rcases hport with ⟨hnext, _⟩ | hnext
    · rw [hnext]
      exact hmark
    · rw [hnext]
      split <;> assumption
  · intro p hlow hhigh
    obtain ⟨hold, hkeeps⟩ := hbelow p hhigh
    unfold World.Holds
    rw [hr.main, hr.objects]
    rcases h.held p hlow hold with ⟨taskID, i, s, hi, hs', hp, hreleased⟩ | hhand
    · refine .inl ⟨taskID, i, if id = i then slot' else s, ?_, ?_, ?_⟩
      · -- the entry that leaves the map is of a slot that has given its port back
        rcases hr.slots with ⟨heq, _⟩ | ⟨heq, hstage, _⟩
        · rw [heq]
          exact hi
        · have hne : taskID ≠ slot.taskID := by
            intro heq
            obtain ⟨_, _, hlisted⟩ := hsound.object id slot hr.object
            rw [heq, hlisted (by rw [hstage]; simp)] at hi
            cases hi
            rw [hr.object] at hs'
            cases hs'
            simp [Slot.released, hstage] at hreleased
          rw [heq, StrMap.lookup_erase, if_neg hne]
          exact hi
      · rw [StrMap.lookup_insert]
        split
        · rfl
        · exact hs'
      · split
        · rename_i heq
          subst heq
          rw [hr.object] at hs'
          cases hs'
          refine ⟨hr.hostPort.trans hp, ?_⟩
          rcases hkeeps with hsame | hne
          · exact hsame.trans hreleased
          · exact absurd hp hne
        · exact ⟨hp, hreleased⟩
    · exact .inr hhand
  · rw [hr.objects]
    apply StrMap.forall_lookup_insert
    · rw [hr.hostPort]
      exact hslotPort
    · exact h.slot
  · rw [hr.main]
    exact h.inHand

/-- What the guard says where a port is allocated. -/
theorem released_of_portsSettled {response : Registry.ClaimResponse} {values : StrMap String}
    {imageRef : String} (hm : w.main = .start task (.port response values imageRef))
    (h : portsSettled w (.main a) = true) (taskID id : String) (slot : Slot)
    (hid : w.slots.lookup taskID = some id) (hslot : w.objects.lookup id = some slot) :
    slot.released = false := by
  simp only [portsSettled, hm] at h
  have hentry := List.all_eq_true.mp h (taskID, id) (StrMap.lookup_eq_some_iff.mp hid)
  rw [show ((taskID, id) : String × String).2 = id from rfl, hslot] at hentry
  simpa using hentry

theorem StartStep.ports {m : Main} (hs : StartStep cfg w a task stage act m)
    (hm : w.main = .start task stage) (hsound : Sound w) (hguard : portsSettled w (.main a) = true)
    (h : PortInvariant cfg w) :
    PortInvariant cfg ((w.perform act).goto m) := by
  cases hs with
  | port hfree => exact h.allocate hm rfl rfl (released_of_portsSettled hm hguard) hfree
  | unpulled | uncreated => exact h.giveBack hm rfl rfl
  | install => exact h.install hsound hm
  | spawn =>
    obtain ⟨slot, hstage, hleft, hr⟩ := hsound.spawns hm
    have hout : PortInvariant cfg (w.goto (.each task.rest)) :=
      h.frame rfl rfl rfl (by rw [hm]; rfl)
    exact hout.replace hleft hr (.inl ⟨rfl, by simp [Slot.released, Slot.spawned, hstage]⟩)
  | ran =>
    rcases afterRunning_cases _ with ⟨_, _, heq⟩ | ⟨token, heq⟩ | heq
    all_goals
      rw [heq]
      exact h.frame rfl rfl rfl (by rw [hm]; rfl)
  | _ => exact h.frame rfl rfl rfl (by rw [hm]; rfl)

theorem MainStep.ports {m : Main} (hs : MainStep cfg w a w.main act m) (hsound : Sound w)
    (hguard : portsSettled w (.main a) = true) (h : PortInvariant cfg w) :
    PortInvariant cfg ((w.perform act).goto m) := by
  generalize hm : w.main = m₀ at hs
  cases hs with
  | start hs => exact hs.ports hm hsound hguard h
  | _ => exact h.frame rfl rfl rfl (by rw [hm]; rfl)

/-! ## Section 4: The goroutines of a task -/

theorem released_of_live (h : slot.stage.live = true) : slot.released = false := by
  unfold Slot.released
  cases hstage : slot.stage with
  | forget | cleanup | remove | done =>
    rw [hstage] at h
    cases h
  | _ => rfl

theorem SlotStep.ports_effect {move : Move} (hs : SlotStep cfg w a slot move act slot') :
    ((w.perform act).nextPort = w.nextPort ∧ slot'.released = slot.released) ∨
      (w.perform act).nextPort =
        if slot.hostPort < w.nextPort then slot.hostPort else w.nextPort := by
  cases hs with
  | goes hlive hlive' _ =>
    refine .inl ⟨rfl, ?_⟩
    rw [released_of_live hlive, released_of_live hlive']
  | submitted hlive _ | closed hlive _ | outrun hlive _ | wins hlive _ _ =>
    refine .inl ⟨rfl, ?_⟩
    rw [released_of_live hlive]
    rfl
  | report hstage | terminalized hstage _ | terminalize hstage _ | forget hstage | cleanup hstage
  | remove hstage =>
    refine .inl ⟨rfl, ?_⟩
    simp [Slot.released, Slot.at, hstage]
  | releasePort => exact .inr rfl
  | died | quit | exitReport | controls | cancels | controlReport => exact .inl ⟨rfl, rfl⟩

theorem SlotStep.ports {id : String} {move : Move}
    (hs : SlotStep cfg w a slot move act slot') (hobject : w.objects.lookup id = some slot)
    (hsound : Sound w) (h : PortInvariant cfg w) :
    PortInvariant cfg ((w.perform act).setObject id slot') :=
  h.replace hsound (hs.replaces hobject) hs.ports_effect

/-! ## Section 5: Runs -/

theorem WorldStep.ports {l : Label} (hs : WorldStep cfg w l w') (hsound : Sound w)
    (hguard : portsSettled w l = true) (h : PortInvariant cfg w) : PortInvariant cfg w' := by
  cases hs with
  | main hs => exact hs.ports hsound hguard h
  | stop hidle => exact h.frame rfl rfl rfl (by rw [hidle]; rfl)
  | task hobject hs => exact hs.ports hobject hsound h
  | containerGone => exact { h with }

/-- The runs that allocate a port only while no installed slot has given back its own. -/
def settledExecutor (cfg : Config) : System World Label :=
  (executor cfg).restrict (fun w l => portsSettled w l = true)

theorem ports_reachable (h : (settledExecutor cfg).Reachable w) : PortInvariant cfg w := by
  refine h.invariant ?_ ?_
  · intro s hinit
    cases hinit
    exact PortInvariant.initial
  · intro s l s' hr hinv hstep
    exact (worldStep_of_step hstep.1).ports (sound_reachable hr.of_restrict) hstep.2 hinv

theorem of_reject_bind {bad : Bool} {message : String} {next : Unit → Except String Unit}
    (h : (reject bad message >>= next) = .ok ()) : bad = false ∧ next () = .ok () := by
  cases bad with
  | true => cases h
  | false => exact ⟨rfl, h⟩

/-- What `Validate` says about the range. -/
theorem rangeSize_of_validate {httpURL : String → Bool} (h : cfg.validate httpURL = .ok ()) :
    cfg.maxContainers ≤ cfg.rangeSize := by
  unfold Config.validate at h
  obtain ⟨_, h⟩ := of_reject_bind h
  obtain ⟨_, h⟩ := of_reject_bind h
  obtain ⟨_, h⟩ := of_reject_bind h
  obtain ⟨hsize, _⟩ := of_reject_bind h
  exact not_lt.mp (of_decide_eq_false hsize)

/-- Wherever a start is about to allocate a port, or could be, there is one for it. -/
theorem port_below_capacity {httpURL : String → Bool} (hvalid : cfg.validate httpURL = .ok ())
    (h : (settledExecutor cfg).Reachable w) (hhand : w.main.port = none)
    (hroom : (w.slots.entries.length : Int) < cfg.maxContainers) :
    ∃ p, w.allocatePort cfg = some p ∧ cfg.openHandsPortStart ≤ p ∧ p ≤ cfg.openHandsPortEnd ∧
      ∀ taskID id slot, w.slots.lookup taskID = some id → w.objects.lookup id = some slot →
        slot.hostPort ≠ p := by
  have hinv := ports_reachable h
  have hmark := hinv.mark
  cases hfound : w.allocatePort cfg with
  | some p =>
    obtain ⟨hlow, hhigh, hunused, _⟩ := allocatePort_eq_some hfound
    refine ⟨p, rfl, by omega, hhigh, ?_⟩
    intro taskID id slot hid hslot hport
    have hused := (portUsed_iff p).mpr ⟨taskID, id, slot, hid, hslot, hport⟩
    rw [hunused] at hused
    cases hused
  | none =>
    -- every port of the range is with a slot: below the mark by the invariant, above by the search
    have hsize : cfg.rangeSize ≤ w.slots.entries.length := by
      apply rangeSize_le_slots
      intro p hlow hhigh
      by_cases hbelow : p < w.nextPort
      · rcases hinv.held p hlow hbelow with ⟨taskID, id, slot, hid, hslot, hport, _⟩ | hstart
        · exact (portUsed_iff p).mpr ⟨taskID, id, slot, hid, hslot, hport⟩
        · rw [hhand] at hstart
          cases hstart
      · exact allocatePort_eq_none hfound (not_lt.mp hbelow) hhigh
    have hmax := rangeSize_of_validate hvalid
    omega

/-! ## Section 6: A port that is lost -/

/-- A task fails at once, up to the point where its port is back. -/
def sampleGiveBack (name : String) : List Label :=
  sampleRun name (.unhealthy "") :: List.replicate 4 (sampleRun name .step)

/-- The rest of its deferred calls. -/
def sampleLeave (name : String) : List Label := List.replicate 3 (sampleRun name .step)

/-- From the poll loop to the allocation of a port. -/
def sampleAllocate (name : String) : List Label := List.replicate 8 (.main (sampleAnswer name))

/-- The first task has its slot, and the second gets another port. -/
theorem port_below_capacity_sample : ∃ w p slot, (settledExecutor sampleConfig).Reachable w ∧
    w.main.port = none ∧ (w.slots.lookup "a").bind w.objects.lookup = some slot ∧
    w.allocatePort sampleConfig = some p ∧ sampleConfig.openHandsPortStart ≤ p ∧
    p ≤ sampleConfig.openHandsPortEnd ∧ slot.hostPort ≠ p := by
  obtain ⟨w, hreach, hport, hslots, hslot⟩ : ∃ w, (settledExecutor sampleConfig).Reachable w ∧
      w.main.port = none ∧ w.slots.entries.length = 1 ∧
      ((w.slots.lookup "a").bind w.objects.lookup).isSome = true :=
    System.Reachable.exists_of_guarded (sampleStart "a" ++ sampleAllocate "b") rfl
      (by decide +kernel)
  obtain ⟨slot, hslot⟩ := Option.isSome_iff_exists.mp hslot
  obtain ⟨id, hid, hobject⟩ := Option.bind_eq_some_iff.mp hslot
  have hvalid : sampleConfig.validate (fun _ => true) = .ok () := by decide +kernel
  obtain ⟨p, hp, hlow, hhigh, hother⟩ :=
    port_below_capacity hvalid hreach hport (by rw [hslots]; decide)
  exact ⟨w, p, slot, hreach, hport, hslot, hp, hlow, hhigh, hother "a" id slot hid hobject⟩

/-- The first task gives its port back, the second is started before the slot of the first
    is gone, and then the third finds no port, though only one slot of two is taken. -/
theorem port_lost_below_capacity : sampleConfig.validate (fun _ => true) = .ok () ∧
    ∃ w task response values imageRef, (executor sampleConfig).Reachable w ∧
      w.main = .start task (.port response values imageRef) ∧
      (w.slots.entries.length : Int) < sampleConfig.maxContainers ∧
      w.allocatePort sampleConfig = none := by
  refine ⟨by decide +kernel, ?_⟩
  have hrun : (System.follow (World.next sampleConfig) (World.initial sampleConfig)
      (sampleStart "a" ++ sampleGiveBack "a" ++ sampleStart "b" ++ sampleLeave "a" ++
        sampleAllocate "c")).any (fun w =>
          (match w.main with
          | .start _ (.port _ _ _) => true
          | _ => false) && w.slots.entries.length = 1 && w.allocatePort sampleConfig = none) =
      true := by
    decide +kernel
  obtain ⟨w, hw, hstate⟩ := (Option.any_eq_true _ _).mp hrun
  simp only [Bool.and_eq_true, decide_eq_true_eq] at hstate
  obtain ⟨⟨hmain, hslots⟩, hport⟩ := hstate
  split at hmain
  · rename_i task response values imageRef hm
    exact ⟨w, task, response, values, imageRef, reachable_of_follow hw, hm,
      by rw [hslots]; decide, hport⟩
  · cases hmain

end FlowAI.Docker
