import FlowAI.K8s.Machine

/-! # Command Identifiers of the Kubernetes Executor

  `commandIDFor` (`v0002.go`) derives the command of a task from one byte of the clock at
  the first call and keeps the byte; a byte of zero counts as no byte.  The text of the
  command shows the low half of the byte only, so a process has sixteen of them.

  A restart finds the Pod of an assignment by the command alone, so it matters exactly
  when the commands of a process tell its tasks apart.
-/

namespace FlowAI.K8s

variable {issued : List (String × String)}

/-! ## Section 1: One process -/

section

variable {lastSeen : StrMap Nat} {taskID : String} {now : Int}

/-- The byte of an earlier call is used again. -/
theorem commandIDFor_of_kept {v : Nat} (h : lastSeen.lookup taskID = some v) (hv : v ≠ 0) :
    commandIDFor lastSeen taskID now = (commandIDForStable v, lastSeen) := by
  simp only [commandIDFor, h, if_pos hv]

/-- Without a byte, or with a byte of zero, one is drawn. -/
theorem commandIDFor_of_drawn (h : ∀ v, lastSeen.lookup taskID = some v → v = 0) :
    commandIDFor lastSeen taskID now =
      (commandIDForStable (now % 256).toNat, lastSeen.insert taskID (now % 256).toNat) := by
  unfold commandIDFor
  cases hseen : lastSeen.lookup taskID with
  | none => rfl
  | some v => simp [h v hseen]

end

/-- The commands of a sequence of calls, each with its task. -/
def commandIDs (lastSeen : StrMap Nat) : List (String × Int) → List (String × String)
  | [] => []
  | (taskID, now) :: rest =>
    (taskID, (commandIDFor lastSeen taskID now).1) ::
      commandIDs (commandIDFor lastSeen taskID now).2 rest

/-! ## Section 2: The text of a command -/

theorem commandIDForStable_eq_iff (a b : Nat) :
    commandIDForStable a = commandIDForStable b ↔ a % 16 = b % 16 := by
  constructor
  · intro h
    have hlist := congrArg String.toList h
    simp only [commandIDForStable, String.toList_ofList, List.append_cancel_left_eq] at hlist
    -- the first digit tells the low half of the byte
    have hdigit := congrArg List.head? hlist
    simp only [List.range_succ_eq_map, List.map_cons, List.head?_cons, Nat.zero_mul, Nat.add_zero,
      Option.some.injEq] at hdigit
    have hinj : ∀ i j : Fin 16, "0123456789abcdef".toList.getD i.val '0' =
        "0123456789abcdef".toList.getD j.val '0' → i = j := by
      decide
    have := hinj ⟨a % 16, Nat.mod_lt _ (by decide)⟩ ⟨b % 16, Nat.mod_lt _ (by decide)⟩ hdigit
    exact Fin.mk.inj this
  · intro h
    unfold commandIDForStable
    congr 2
    apply List.map_congr_left
    intro i _
    rw [show (a + i * 13) % 16 = (b + i * 13) % 16 by omega]

/-! ## Section 3: Telling tasks apart -/

/-- Equal tasks have equal commands, and equal commands are of equal tasks. -/
def Identifies (issued : List (String × String)) : Prop :=
  ∀ p ∈ issued, ∀ q ∈ issued, p.1 = q.1 ↔ p.2 = q.2

/-- What the reading of the clock must be for the next call.  The first call of a task has
    to differ in the low half of the byte from every task before it; a byte of zero is
    drawn again, and must then end in zero again. -/
def TellsApart (lastSeen : StrMap Nat) (taskID : String) (now : Int) : Prop :=
  match lastSeen.lookup taskID with
  | none => ∀ id v, lastSeen.lookup id = some v → (now % 256).toNat % 16 ≠ v % 16
  | some v => v = 0 → (now % 256).toNat % 16 = 0

/-- Every reading of a sequence of calls is as the next call needs it. -/
def ReadingsTellApart (lastSeen : StrMap Nat) : List (String × Int) → Prop
  | [] => True
  | (taskID, now) :: rest => TellsApart lastSeen taskID now ∧
      ReadingsTellApart (commandIDFor lastSeen taskID now).2 rest

/-- The bytes kept are those of the commands issued so far. -/
structure Issued (lastSeen : StrMap Nat) (issued : List (String × String)) : Prop where
  kept : ∀ p ∈ issued, ∃ v, lastSeen.lookup p.1 = some v ∧ p.2 = commandIDForStable v
  used : ∀ id v, lastSeen.lookup id = some v → (id, commandIDForStable v) ∈ issued
  identifies : Identifies issued

theorem Identifies.append_singleton_iff {p : String × String} (h : Identifies issued) :
    Identifies (issued ++ [p]) ↔ ∀ q ∈ issued, p.1 = q.1 ↔ p.2 = q.2 := by
  constructor
  · intro hall q hq
    exact hall p (by simp) q (by simp [hq])
  · intro hnew q hq r hr
    rcases List.mem_append.mp hq with hq | hq <;> rcases List.mem_append.mp hr with hr | hr
    · exact h q hq r hr
    · rw [List.mem_singleton.mp hr, eq_comm, hnew q hq, eq_comm]
    · rw [List.mem_singleton.mp hq]
      exact hnew r hr
    · rw [List.mem_singleton.mp hq, List.mem_singleton.mp hr]
      exact ⟨fun _ => rfl, fun _ => rfl⟩

/-- One call: the new command fits those before it exactly when the reading is as needed. -/
theorem Issued.tellsApart_iff {lastSeen : StrMap Nat} (h : Issued lastSeen issued) (taskID : String)
    (now : Int) :
    Identifies (issued ++ [(taskID, (commandIDFor lastSeen taskID now).1)]) ↔
      TellsApart lastSeen taskID now := by
  rw [h.identifies.append_singleton_iff]
  unfold TellsApart
  cases hseen : lastSeen.lookup taskID with
  | none =>
    have hdraw : ∀ v, lastSeen.lookup taskID = some v → v = 0 := by
      intro v hv
      rw [hseen] at hv
      cases hv
    rw [commandIDFor_of_drawn hdraw]
    constructor
    · intro hnew id v hv heq
      have hid := (hnew _ (h.used id v hv)).mpr ((commandIDForStable_eq_iff _ _).mpr heq)
      rw [show taskID = id from hid, hv] at hseen
      cases hseen
    · intro hapart q hq
      obtain ⟨v, hv, hcommand⟩ := h.kept q hq
      constructor
      · intro hid
        rw [show taskID = q.1 from hid, hv] at hseen
        cases hseen
      · intro heq
        rw [hcommand] at heq
        exact absurd ((commandIDForStable_eq_iff _ _).mp heq) (hapart _ _ hv)
  | some v =>
    have hissued := h.used taskID v hseen
    by_cases hv : v = 0
    · subst hv
      rw [commandIDFor_of_drawn (by simp [hseen])]
      constructor
      · intro hnew _
        have heq := (hnew _ hissued).mp rfl
        exact (commandIDForStable_eq_iff _ _).mp heq
      · intro hzero q hq
        have heq : commandIDForStable (now % 256).toNat = commandIDForStable 0 :=
          (commandIDForStable_eq_iff _ _).mpr (hzero rfl)
        show taskID = q.1 ↔ commandIDForStable (now % 256).toNat = q.2
        rw [heq]
        exact h.identifies _ hissued q hq
    · rw [commandIDFor_of_kept hseen hv]
      constructor
      · intro _ hzero
        exact absurd hzero hv
      · intro _ q hq
        exact h.identifies _ hissued q hq

/-- One call keeps the bytes in step with the commands issued. -/
theorem Issued.step {lastSeen : StrMap Nat} (h : Issued lastSeen issued) {taskID : String}
    {now : Int} (hnew : Identifies (issued ++ [(taskID, (commandIDFor lastSeen taskID now).1)])) :
    Issued (commandIDFor lastSeen taskID now).2
      (issued ++ [(taskID, (commandIDFor lastSeen taskID now).1)]) := by
  by_cases hkept : ∃ v, lastSeen.lookup taskID = some v ∧ v ≠ 0
  · obtain ⟨v, hseen, hv⟩ := hkept
    rw [commandIDFor_of_kept hseen hv] at hnew ⊢
    refine ⟨?_, fun id v hv => List.mem_append_left _ (h.used id v hv), hnew⟩
    intro p hp
    rcases List.mem_append.mp hp with hp | hp
    · exact h.kept p hp
    · rw [List.mem_singleton.mp hp]
      exact ⟨v, hseen, rfl⟩
  · have hdraw : ∀ v, lastSeen.lookup taskID = some v → v = 0 := by
      intro v hseen
      by_contra hv
      exact hkept ⟨v, hseen, hv⟩
    rw [commandIDFor_of_drawn hdraw] at hnew ⊢
    refine ⟨?_, ?_, hnew⟩
    · intro p hp
      rw [StrMap.lookup_insert]
      by_cases hid : taskID = p.1
      · -- a second command of the task is the first one again
        rw [if_pos hid]
        have hsame := hnew p hp _ (List.mem_append_right _ (List.mem_singleton.mpr rfl))
        exact ⟨_, rfl, hsame.mp hid.symm⟩
      · rw [if_neg hid]
        rcases List.mem_append.mp hp with hp | hp
        · exact h.kept p hp
        · rw [List.mem_singleton.mp hp] at hid
          exact absurd rfl hid
    · intro id v hv
      rw [StrMap.lookup_insert] at hv
      split at hv
      · rename_i hid
        obtain rfl := Option.some.inj hv
        rw [← hid]
        exact List.mem_append_right _ (List.mem_singleton.mpr rfl)
      · exact List.mem_append_left _ (h.used id v hv)

/-- Run lemma: from any point of a process on. -/
theorem Issued.run_iff {lastSeen : StrMap Nat} (h : Issued lastSeen issued)
    (calls : List (String × Int)) :
    Identifies (issued ++ commandIDs lastSeen calls) ↔ ReadingsTellApart lastSeen calls := by
  induction calls generalizing lastSeen issued with
  | nil => simpa [commandIDs, ReadingsTellApart] using h.identifies
  | cons call rest ih =>
    obtain ⟨taskID, now⟩ := call
    have hsplit : issued ++ commandIDs lastSeen ((taskID, now) :: rest) =
        (issued ++ [(taskID, (commandIDFor lastSeen taskID now).1)]) ++
          commandIDs (commandIDFor lastSeen taskID now).2 rest := by
      simp [commandIDs]
    rw [hsplit]
    show _ ↔ TellsApart lastSeen taskID now ∧ _
    rw [← h.tellsApart_iff]
    by_cases hnew : Identifies (issued ++ [(taskID, (commandIDFor lastSeen taskID now).1)])
    · rw [ih (h.step hnew)]
      exact ⟨fun hrest => ⟨hnew, hrest⟩, fun hboth => hboth.2⟩
    · constructor
      · intro hall
        refine absurd ?_ hnew
        exact fun p hp q hq => hall p (List.mem_append_left _ hp) q (List.mem_append_left _ hq)
      · intro hboth
        exact absurd hboth.1 hnew

/-- For every sequence of calls of one process, at every reading of the clock: the commands
    tell the tasks apart exactly when the readings do. -/
theorem command_ids_identify_tasks (calls : List (String × Int)) :
    Identifies (commandIDs .empty calls) ↔ ReadingsTellApart .empty calls := by
  have hstart : Issued .empty [] :=
    ⟨(fun p hp => by cases hp), (fun id v hv => by cases hv), (fun p hp => by cases hp)⟩
  exact hstart.run_iff calls

/-- Two tasks first seen sixteen nanoseconds apart share a command, and a task first seen at
    a byte of zero gets two. -/
theorem command_ids_collide :
    commandIDs .empty [("one", 1), ("two", 17)] =
      [("one", commandIDForStable 1), ("two", commandIDForStable 1)] ∧
    ¬ Identifies (commandIDs .empty [("one", 1), ("two", 17)]) ∧
    ¬ Identifies (commandIDs .empty [("one", 0), ("one", 5)]) := by
  refine ⟨by decide, ?_, ?_⟩
  · intro h
    have hsame := h ("one", commandIDForStable 1) (by decide) ("two", commandIDForStable 1) (by decide)
    exact absurd (hsame.mpr rfl) (by decide)
  · intro h
    have hsame := h ("one", commandIDForStable 0) (by decide) ("one", commandIDForStable 5) (by decide)
    exact absurd (hsame.mp rfl) (by decide)

end FlowAI.K8s
