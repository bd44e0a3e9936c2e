import FlowAI.Docker.Steps

/-! # Slots and Their Tasks

  A task has at most one slot over the life of the process.  `acceptedTasks` remembers every
  task whose slot was ever installed, so the poll goroutine, which passes over the tasks it
  finds there, never starts one of them again.
-/

namespace FlowAI.Docker

variable {act : Act} {task : Starting} {stage : StartStage} {slot slot' : Slot} {move : Move}

variable {cfg : Config} {w w' : World} {a : Answer}

/-! ## Section 1: The invariant -/

/-- The task of a start that has not installed a slot. -/
def Main.unplaced : Main → Option String
  | .start task stage =>
    match stage with
    | .release _ | .spawn _ => none
    | _ => some task.taskID
  | _ => none

/-- The task of a start that stands in `acceptedTasks`. -/
def Main.marked : Main → Option String
  | .start task stage =>
    match stage with
    | .claim | .mark _ | .report _ _ | .abort => none
    | _ => some task.taskID
  | _ => none

/-- The container of a start that has not installed its slot. -/
def Main.launched : Main → Option String
  | .start _ (.install _ id) => some id
  | _ => none

/-- The slot of a start whose goroutines have not begun. -/
def Main.placed : Main → Option String
  | .start _ (.release id) => some id
  | .start _ (.spawn id) => some id
  | _ => none

structure Sound (w : World) : Prop where
  /-- A slot object is the one its task has, until its goroutine has taken it out. -/
  object : ∀ id slot, w.objects.lookup id = some slot → slot.containerID = id ∧
    w.acceptedTasks.lookup slot.taskID ≠ none ∧
    (slot.stage ≠ .done → w.slots.lookup slot.taskID = some id)
  listed : ∀ taskID id, w.slots.lookup taskID = some id →
    ∃ slot, w.objects.lookup id = some slot ∧ slot.taskID = taskID ∧ slot.stage ≠ .done
  unplaced : ∀ taskID, w.main.unplaced = some taskID →
    ∀ id slot, w.objects.lookup id = some slot → slot.taskID ≠ taskID
  marked : ∀ taskID, w.main.marked = some taskID → w.acceptedTasks.lookup taskID ≠ none
  launched : ∀ id, w.main.launched = some id → w.objects.lookup id = none
  placed : ∀ id, w.main.placed = some id →
    ∃ slot, w.objects.lookup id = some slot ∧ slot.stage = .installed

theorem Sound.initial : Sound (World.initial cfg) where
  object id slot h := by cases h
  listed taskID id h := by cases h
  unplaced taskID h := by cases h
  marked taskID h := by cases h
  launched id h := by cases h
  placed id h := by cases h

/-! ## Section 2: The poll goroutine -/

theorem unplaced_start {taskID : String} (h : (Main.start task stage).unplaced = some taskID) :
    task.taskID = taskID := by
  cases stage <;> first | exact Option.some.inj h | cases h

section Frame

variable (h : Sound w) (hobjects : w'.objects = w.objects) (hslots : w'.slots = w.slots)
  (haccepted : w'.acceptedTasks = w.acceptedTasks)

include h hobjects hslots haccepted

/-- A step that leaves the slots and `acceptedTasks` alone. -/
theorem Sound.frame
    (hunplaced : ∀ taskID, w'.main.unplaced = some taskID →
      w.main.unplaced = some taskID ∨ w.acceptedTasks.lookup taskID = none)
    (hmarked : ∀ taskID, w'.main.marked = some taskID → w.main.marked = some taskID)
    (hlaunched : ∀ id, w'.main.launched = some id → w.objects.lookup id = none)
    (hplaced : ∀ id, w'.main.placed = some id → w.main.placed = some id) : Sound w' where
  object := by
    rw [hobjects, hslots, haccepted]
    exact h.object
  listed := by
    rw [hobjects, hslots]
    exact h.listed
  unplaced := by
    intro taskID ht id slot hslot heq
    rw [hobjects] at hslot
    rcases hunplaced taskID ht with hsame | hnone
    · exact h.unplaced taskID hsame id slot hslot heq
    · -- a task that is not accepted has no slot
      rw [← heq] at hnone
      exact (h.object id slot hslot).2.1 hnone
  marked := by
    intro taskID ht
    rw [haccepted]
    exact h.marked taskID (hmarked taskID ht)
  launched := by
    rw [hobjects]
    exact hlaunched
  placed := by
    intro id hid
    rw [hobjects]
    exact h.placed id (hplaced id hid)

/-- The goroutine is not in `startTaskV0002` after the step. -/
theorem Sound.leave (hout : ∀ task stage, w'.main ≠ .start task stage) : Sound w' := by
  apply h.frame hobjects hslots haccepted
  all_goals
    intro id hid
    cases hm : w'.main with
    | start task stage => exact absurd hm (hout task stage)
    | _ =>
      rw [hm] at hid
      cases hid

/-- `startTaskV0002` goes on, with no slot installed and no container started. -/
theorem Sound.proceed (hm : w'.main = .start task stage)
    (hunplaced : w.main.unplaced = some task.taskID)
    (hmarked : w'.main.marked = w.main.marked ∨ w'.main.marked = none)
    (hlaunched : w'.main.launched = none) (hplaced : w'.main.placed = none) : Sound w' := by
  apply h.frame hobjects hslots haccepted
  · intro taskID ht
    rw [hm] at ht
    rw [hunplaced, unplaced_start ht]
    exact .inl rfl
  · intro taskID ht
    rcases hmarked with heq | hnone
    · exact heq ▸ ht
    · rw [hnone] at ht
      cases ht
  · intro id hid
    rw [hlaunched] at hid
    cases hid
  · intro id hid
    rw [hplaced] at hid
    cases hid

/-- A task that is about to be started has no slot. -/
theorem Sound.begin (hm : w'.main = .start task .claim)
    (hnew : w.acceptedTasks.lookup task.taskID = none) : Sound w' := by
  apply h.frame hobjects hslots haccepted <;> rw [hm]
  · intro t ht
    cases ht
    exact .inr hnew
  · exact nofun
  · exact nofun
  · exact nofun

end Frame

theorem Sound.install (h : Sound w) {launch : Launch} {id : String}
    (hm : w.main = .start task (.install launch id)) :
    Sound ((w.perform (.addSlot (task.slot launch id))).goto (.start task (.release id))) := by
  have hfree : w.objects.lookup id = none := h.launched id (by rw [hm]; rfl)
  have hnone : ∀ id slot, w.objects.lookup id = some slot → slot.taskID ≠ task.taskID :=
    h.unplaced task.taskID (by rw [hm]; rfl)
  have haccepted : w.acceptedTasks.lookup task.taskID ≠ none := h.marked task.taskID (by rw [hm]; rfl)
  refine ⟨?_, ?_, (fun t ht => by cases ht), ?_, (fun i hi => by cases hi), ?_⟩
  · show ∀ i slot, (w.objects.insert id (task.slot launch id)).lookup i = some slot →
      slot.containerID = i ∧ w.acceptedTasks.lookup slot.taskID ≠ none ∧
        (slot.stage ≠ .done → (w.slots.insert task.taskID id).lookup slot.taskID = some i)
    apply StrMap.forall_lookup_insert
    · refine ⟨rfl, haccepted, fun _ => ?_⟩
      rw [StrMap.lookup_insert]
      exact if_pos rfl
    · intro i slot hslot
      obtain ⟨hc, ha, hs⟩ := h.object i slot hslot
      refine ⟨hc, ha, fun hdone => ?_⟩
      rw [StrMap.lookup_insert, if_neg (Ne.symm (hnone i slot hslot))]
      exact hs hdone
  · show ∀ t i, (w.slots.insert task.taskID id).lookup t = some i →
      ∃ slot, (w.objects.insert id (task.slot launch id)).lookup i = some slot ∧
        slot.taskID = t ∧ slot.stage ≠ .done
    apply StrMap.forall_lookup_insert
    · refine ⟨task.slot launch id, ?_, rfl, nofun⟩
      rw [StrMap.lookup_insert]
      exact if_pos rfl
    · intro t i hslot
      obtain ⟨slot, hobject, htask, hdone⟩ := h.listed t i hslot
      have hne : id ≠ i := by
        intro heq
        rw [heq, hobject] at hfree
        cases hfree
      refine ⟨slot, ?_, htask, hdone⟩
      rw [StrMap.lookup_insert, if_neg hne]
      exact hobject
  · intro t ht
    cases ht
    exact haccepted
  · intro i hi
    cases hi
    refine ⟨task.slot launch id, ?_, rfl⟩
    show (w.objects.insert id _).lookup id = _
    rw [StrMap.lookup_insert]
    exact if_pos rfl

/-- `w'` has the slot `slot'` in the place of `slot`; a goroutine that ends takes its slot out
    of the map. -/
structure Replaces (w w' : World) (id : String) (slot slot' : Slot) : Prop where
  object : w.objects.lookup id = some slot
  objects : w'.objects = w.objects.insert id slot'
  main : w'.main = w.main
  taskID : slot'.taskID = slot.taskID
  containerID : slot'.containerID = slot.containerID
  hostPort : slot'.hostPort = slot.hostPort
  accepted : ∀ t, w.acceptedTasks.lookup t ≠ none → w'.acceptedTasks.lookup t ≠ none
  slots : w'.slots = w.slots ∧ (slot'.stage = .done ↔ slot.stage = .done) ∨
    w'.slots = w.slots.erase slot.taskID ∧ slot.stage = .remove ∧ slot'.stage = .done

theorem Sound.replace {id : String} (h : Sound w) (hr : Replaces w w' id slot slot')
    (hunbegun : slot.stage = .installed → w.main.placed = some id → slot'.stage = .installed) :
    Sound w' := by
  obtain ⟨hid, hacc, hlisted⟩ := h.object id slot hr.object
  refine ⟨?_, ?_, ?_, ?_, ?_, ?_⟩
  · rw [hr.objects]
    apply StrMap.forall_lookup_insert_ne
    · refine ⟨hr.containerID.trans hid, hr.taskID ▸ hr.accepted _ hacc, fun hdone => ?_⟩
      rcases hr.slots with ⟨heq, hiff⟩ | ⟨_, _, hdone'⟩
      · rw [heq, hr.taskID]
        exact hlisted (mt hiff.mpr hdone)
      · exact absurd hdone' hdone
    · intro i s hne hs
      obtain ⟨hc, ha, hl⟩ := h.object i s hs
      refine ⟨hc, hr.accepted _ ha, fun hdone => ?_⟩
      rcases hr.slots with ⟨heq, _⟩ | ⟨heq, hstage, _⟩
      · rw [heq]
        exact hl hdone
      · -- two live slots are of two tasks, so the other entry stays
        have hother : s.taskID ≠ slot.taskID := by
          intro hsame
          have hentry := hl hdone
          rw [hsame, hlisted (by rw [hstage]; simp)] at hentry
          exact hne (Option.some.inj hentry)
        rw [heq, StrMap.lookup_erase, if_neg hother]
        exact hl hdone
  · intro t i hslot
    rw [hr.objects, StrMap.lookup_insert]
    by_cases hi : id = i
    · subst hi
      rw [if_pos rfl]
      rcases hr.slots with ⟨heq, hiff⟩ | ⟨heq, hstage, _⟩
      · rw [heq] at hslot
        obtain ⟨s, hs, ht, hdone⟩ := h.listed t id hslot
        rw [hr.object] at hs
        cases hs
        exact ⟨slot', rfl, hr.taskID.trans ht, mt hiff.mp hdone⟩
      · rw [heq, StrMap.lookup_erase] at hslot
        split at hslot
        · cases hslot
        · rename_i hne
          obtain ⟨s, hs, ht, _⟩ := h.listed t id hslot
          rw [hr.object] at hs
          cases hs
          exact absurd ht.symm hne
    · rw [if_neg hi]
      apply h.listed t i
      rcases hr.slots with ⟨heq, _⟩ | ⟨heq, _, _⟩
      · exact heq ▸ hslot
      · rw [heq, StrMap.lookup_erase] at hslot
        split at hslot
        · cases hslot
        · exact hslot
  · rw [hr.objects, hr.main]
    intro t ht
    apply StrMap.forall_lookup_insert
    · rw [hr.taskID]
      exact h.unplaced t ht id slot hr.object
    · exact h.unplaced t ht
  · intro t ht
    rw [hr.main] at ht
    exact hr.accepted t (h.marked t ht)
  · intro i hi
    rw [hr.main] at hi
    have hfree := h.launched i hi
    rw [hr.objects, StrMap.lookup_insert, if_neg]
    · exact hfree
    · intro heq
      rw [← heq, hr.object] at hfree
      cases hfree
  · intro i hi
    rw [hr.main] at hi
    obtain ⟨s, hs, hstage⟩ := h.placed i hi
    rw [hr.objects, StrMap.lookup_insert]
    by_cases heq : id = i
    · subst heq
      rw [hr.object] at hs
      cases hs
      exact ⟨slot', if_pos rfl, hunbegun hstage hi⟩
    · exact ⟨s, by rw [if_neg heq]; exact hs, hstage⟩

/-- The start is over, and the goroutines of its slot begin. -/
theorem Sound.spawns (h : Sound w) {id : String} (hm : w.main = .start task (.spawn id)) :
    ∃ slot, slot.stage = .installed ∧ Sound (w.goto (.each task.rest)) ∧
      Replaces (w.goto (.each task.rest)) ((w.perform (.spawn id)).goto (.each task.rest)) id slot
        slot.spawned := by
  obtain ⟨slot, hslot, hstage⟩ := h.placed id (by rw [hm]; rfl)
  refine ⟨slot, hstage, h.leave rfl rfl rfl (by simp [World.goto]), hslot, ?_, rfl, rfl, rfl, rfl,
    fun _ ha => ha, .inl ⟨rfl, ?_⟩⟩
  · simp only [World.goto, World.perform, hslot]
  · simp [hstage, Slot.spawned]

theorem Sound.mark (h : Sound w) {response : Registry.ClaimResponse}
    (hm : w.main = .start task (.mark response)) :
    Sound ((w.perform (.markAccepted task.taskID .running)).goto
      (.start task (.reserve response))) := by
  refine ⟨?_, h.listed, ?_, ?_, (fun i hi => by cases hi), (fun i hi => by cases hi)⟩
  · intro id slot hslot
    obtain ⟨hc, ha, hs⟩ := h.object id slot hslot
    refine ⟨hc, ?_, hs⟩
    show (w.acceptedTasks.insert task.taskID .running).lookup slot.taskID ≠ none
    rw [StrMap.lookup_insert]
    split
    · simp
    · exact ha
  · intro t ht
    apply h.unplaced t
    rw [hm]
    exact ht
  · intro t ht
    cases ht
    show (w.acceptedTasks.insert task.taskID .running).lookup task.taskID ≠ none
    simp

/-- `acceptedTasks` forgets the task of a start; no slot is of that task. -/
theorem Sound.forget (h : Sound w) {stage' : StartStage} (hm : w.main = .start task stage)
    (hunplaced : (Main.start task stage).unplaced = some task.taskID)
    (hmarked : (Main.start task stage').marked = none)
    (hlaunched : (Main.start task stage').launched = none)
    (hplaced : (Main.start task stage').placed = none) :
    Sound ((w.perform (.terminalizeAccepted task.taskID)).goto (.start task stage')) := by
  have hnone := h.unplaced task.taskID (by rw [hm]; exact hunplaced)
  refine ⟨?_, h.listed, ?_, ?_, ?_, ?_⟩
  · intro id slot hslot
    obtain ⟨hc, ha, hs⟩ := h.object id slot hslot
    refine ⟨hc, ?_, hs⟩
    show (w.acceptedTasks.erase task.taskID).lookup slot.taskID ≠ none
    rw [StrMap.lookup_erase, if_neg (hnone id slot hslot)]
    exact ha
  · intro t ht
    have htask : task.taskID = t := unplaced_start ht
    exact htask ▸ hnone
  · intro t ht
    exact absurd (hmarked.symm.trans ht) (by simp)
  · intro id hid
    exact absurd (hlaunched.symm.trans hid) (by simp)
  · intro id hid
    exact absurd (hplaced.symm.trans hid) (by simp)

theorem StartStep.sound {m : Main} (hs : StartStep cfg w a task stage act m)
    (hm : w.main = .start task stage) (h : Sound w) :
    Sound ((w.perform act).goto m) := by
  cases hs with
  | unclaimed | unanswered | known | abort | declined =>
    exact h.leave rfl rfl rfl (by simp [World.goto])
  | claimed | report => exact h.proceed rfl rfl rfl rfl (by rw [hm]; rfl) (.inr rfl) rfl rfl
  | mark hnew => exact h.mark hm
  | ran =>
    rcases afterRunning_cases _ with ⟨_, _, heq⟩ | ⟨token, heq⟩ | heq
    · rw [heq]
      exact h.proceed rfl rfl rfl rfl (by rw [hm]; rfl) (.inr rfl) rfl rfl
    · rw [heq]
      exact h.proceed rfl rfl rfl rfl (by rw [hm]; rfl) (.inl (by rw [hm]; rfl)) rfl rfl
    · rw [heq]
      exact h.proceed rfl rfl rfl rfl (by rw [hm]; rfl) (.inl (by rw [hm]; rfl)) rfl rfl
  | created hnew =>
    simp only [World.newContainer, Bool.and_eq_true, Option.isNone_iff_eq_none] at hnew
    refine h.frame rfl rfl rfl ?_ ?_ ?_ ?_
    · intro t ht
      exact .inl (by rw [hm]; exact ht)
    · intro t ht
      rw [hm]
      exact ht
    · intro id hid
      cases hid
      exact hnew.1
    · intro id hid
      cases hid
  | install => exact h.install hm
  | release =>
    refine h.frame rfl rfl rfl ?_ ?_ ?_ ?_
    · intro t ht
      cases ht
    · intro t ht
      rw [hm]
      exact ht
    · intro id hid
      cases hid
    · intro id hid
      rw [hm]
      exact hid
  | spawn =>
    obtain ⟨_, -, hleft, hr⟩ := h.spawns hm
    exact hleft.replace hr nofun
  | forget | forgetReport => exact h.forget hm rfl rfl rfl rfl
  | reserve | waited | interrupted | unran | opened | unopened | imaged | unimaged | port | noPort
  | pulled | unpulled | uncreated =>
    exact h.proceed rfl rfl rfl rfl (by rw [hm]; rfl) (.inl (by rw [hm]; rfl)) rfl rfl

theorem MainStep.sound {m : Main} (hs : MainStep cfg w a w.main act m) (h : Sound w) :
    Sound ((w.perform act).goto m) := by
  generalize hm : w.main = m₀ at hs
  cases hs with
  | nothing | discovered | finished | full | skip | drain | undrained =>
    exact h.leave rfl rfl rfl (by simp [World.goto])
  | retry _ hnew _ _ | first _ hnew _ _ => exact h.begin rfl rfl rfl rfl hnew
  | start hs => exact hs.sound hm h

/-! ## Section 3: The goroutines of a task -/

/-- What an action of a slot's goroutine leaves alone; the last one takes the slot out. -/
theorem SlotStep.frame (hs : SlotStep cfg w a slot move act slot') :
    (w.perform act).objects = w.objects ∧
      (w.perform act).main = w.main ∧
      (∀ t, w.acceptedTasks.lookup t ≠ none → (w.perform act).acceptedTasks.lookup t ≠ none) ∧
      ((w.perform act).slots = w.slots ∧ (slot'.stage = .done ↔ slot.stage = .done) ∨
        (w.perform act).slots = w.slots.erase slot.taskID ∧ slot.stage = .remove ∧
          slot'.stage = .done) := by
  cases hs with
  | terminalize hstage =>
    refine ⟨rfl, rfl, ?_, .inl ⟨rfl, by simp [hstage]⟩⟩
    intro t ht
    show (w.acceptedTasks.insert slot.taskID .terminal).lookup t ≠ none
    rw [StrMap.lookup_insert]
    split
    · simp
    · exact ht
  | remove hstage => exact ⟨rfl, rfl, fun _ h => h, .inr ⟨rfl, hstage, rfl⟩⟩
  | goes hlive hlive' _ =>
    refine ⟨rfl, rfl, fun _ h => h, .inl ⟨rfl, ?_⟩⟩
    constructor
    · intro hdone
      subst hdone
      cases hlive'
    · intro hdone
      rw [hdone] at hlive
      cases hlive
  | submitted hlive _ | closed hlive _ | outrun hlive _ | wins hlive _ _ =>
    refine ⟨rfl, rfl, fun _ h => h, .inl ⟨rfl, ?_⟩⟩
    constructor
    · intro hdone
      cases hdone
    · intro hdone
      rw [hdone] at hlive
      cases hlive
  | report hstage | terminalized hstage _ | releasePort hstage | forget hstage | cleanup hstage =>
    exact ⟨rfl, rfl, fun _ h => h, .inl ⟨rfl, by simp [hstage, Slot.at]⟩⟩
  | died | quit | exitReport | controls | cancels | controlReport =>
    exact ⟨rfl, rfl, fun _ h => h, .inl ⟨rfl, Iff.rfl⟩⟩

/-- A slot whose goroutines have not begun does not move. -/
theorem SlotStep.unbegun (hs : SlotStep cfg w a slot move act slot')
    (hstage : slot.stage = .installed) :
    slot'.stage = .installed := by
  cases hs with
  | goes hlive _ _ | submitted hlive _ | closed hlive _ | outrun hlive _ | wins hlive _ _ =>
    rw [hstage] at hlive
    cases hlive
  | report h | terminalized h _ | terminalize h _ | releasePort h | forget h | cleanup h | remove h =>
    rw [hstage] at h
    cases h
  | _ => exact hstage

theorem SlotStep.replaces {id : String} (hs : SlotStep cfg w a slot move act slot')
    (hobject : w.objects.lookup id = some slot) :
    Replaces w ((w.perform act).setObject id slot') id slot slot' := by
  obtain ⟨htask, hcontainer, hport⟩ := hs.same
  obtain ⟨hobjects, hmain, haccepted, hslots⟩ := hs.frame
  exact ⟨hobject, congrArg (·.insert id slot') hobjects, hmain, htask, hcontainer, hport, haccepted,
    hslots⟩

theorem SlotStep.sound {id : String} (hs : SlotStep cfg w a slot move act slot')
    (hobject : w.objects.lookup id = some slot) (h : Sound w) :
    Sound ((w.perform act).setObject id slot') :=
  h.replace (hs.replaces hobject) (fun hstage _ => hs.unbegun hstage)

/-! ## Section 4: Runs -/

theorem WorldStep.sound {l : Label} (hs : WorldStep cfg w l w') (h : Sound w) : Sound w' := by
  cases hs with
  | main hs => exact hs.sound h
  | stop _ => exact ⟨h.object, h.listed, nofun, nofun, nofun, nofun⟩
  | task hobject hs => exact hs.sound hobject h
  | containerGone => exact { h with }

theorem sound_reachable (h : (executor cfg).Reachable w) : Sound w := by
  refine h.invariant ?_ ?_
  · intro s hinit
    cases hinit
    exact Sound.initial
  · intro s l s' _ hinv hstep
    exact (worldStep_of_step hstep).sound hinv

end FlowAI.Docker
