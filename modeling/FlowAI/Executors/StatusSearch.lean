import FlowAI.Registry.Admin

/-! # The Status in an OpenHands Event

  Both executors look for a status anywhere in a decoded event (`taskStatusFromValue` of
  the Docker executor, `conversationStatus` of the Kubernetes executor): the
  `execution_status` of an object, else the first status below it, else one of its own
  keys.  "First" is the order in which Go ranges over a map, and that is any order.

  `Returns` is the search with every order allowed at every object; `statusOf` is the search
  in the order of the text.
-/

namespace FlowAI.Executors

/-! ## Section 1: The search -/

/-- Where a search looks, besides `execution_status` and nested objects. -/
structure StatusSearch where
  arrays : Bool
  keys : List String

/-- `strings.ToLower(strings.TrimSpace(raw))` is a parameter: nothing depends on it. -/
abbrev Normal := String → String

/-- The normalised text of a key of an object; empty if it is absent or no text. -/
def textAt (normal : Normal) (members : List (String × Json)) (key : String) : String :=
  match members.find? (fun m => m.1 = key) with
  | some (_, .str raw) => normal raw
  | _ => ""

/-- The first of the object's own keys that has a text. -/
def keyStatus (normal : Normal) (members : List (String × Json)) : List String → String
  | [] => ""
  | key :: keys =>
    if textAt normal members key ≠ "" then textAt normal members key
    else keyStatus normal members keys

section

variable (normal : Normal) (search : StatusSearch)

mutual

/-- What the search of a value may return, with the entries of each object visited in any
    order. -/
inductive Returns : Json → String → Prop where
  | null : Returns .null ""
  | bool (b : Bool) : Returns (.bool b) ""
  | num (d : Decimal) : Returns (.num d) ""
  | str (s : String) : Returns (.str s) ""
  | skipped {items} (skipped : search.arrays = false) : Returns (.arr items) ""
  | items {items s} (searched : search.arrays = true) (first : ReturnsFirst items s) :
      Returns (.arr items) s
  | execution {members} (present : textAt normal members "execution_status" ≠ "") :
      Returns (.obj members) (textAt normal members "execution_status")
  | nested {members order : List (String × Json)} {s}
      (absent : textAt normal members "execution_status" = "") (visited : order.Perm members)
      (first : ReturnsFirst (order.map Prod.snd) s) (found : s ≠ "") : Returns (.obj members) s
  | keyed {members order : List (String × Json)}
      (absent : textAt normal members "execution_status" = "") (visited : order.Perm members)
      (first : ReturnsFirst (order.map Prod.snd) "") :
      Returns (.obj members) (keyStatus normal members search.keys)

/-- The loop over nested values: it ends with the first that has a status. -/
inductive ReturnsFirst : List Json → String → Prop where
  | none : ReturnsFirst [] ""
  | hit {j js s} (returned : Returns j s) (found : s ≠ "") : ReturnsFirst (j :: js) s
  | miss {j js s} (returned : Returns j "") (rest : ReturnsFirst js s) : ReturnsFirst (j :: js) s

end

mutual

/-- The search in the order of the text. -/
def statusOf : Json → String
  | .arr items => if search.arrays then firstStatus items else ""
  | .obj members =>
    if textAt normal members "execution_status" ≠ "" then textAt normal members "execution_status"
    else if firstMemberStatus members ≠ "" then firstMemberStatus members
    else keyStatus normal members search.keys
  | _ => ""

def firstStatus : List Json → String
  | [] => ""
  | j :: js => if statusOf j ≠ "" then statusOf j else firstStatus js

def firstMemberStatus : List (String × Json) → String
  | [] => ""
  | (_, j) :: members => if statusOf j ≠ "" then statusOf j else firstMemberStatus members

end

end

/-- `strings.ToLower(strings.TrimSpace(raw))`, on texts of ASCII letters. -/
def normalStatus (raw : String) : String :=
  String.ofList ((Registry.trimSpace raw).toList.map Char.toLower)

/-- `taskStatusFromValue`: arrays are searched too. -/
def taskStatusFromValue : StatusSearch := ⟨true, ["status", "kind", "type"]⟩

/-- `conversationStatus`: objects only. -/
def conversationStatus : StatusSearch := ⟨false, ["status", "kind"]⟩

variable {normal : Normal} {search : StatusSearch}

theorem firstMemberStatus_eq (members : List (String × Json)) :
    firstMemberStatus normal search members = firstStatus normal search (members.map Prod.snd) := by
  induction members with
  | nil => rfl
  | cons m members ih => rw [firstMemberStatus, List.map_cons, firstStatus, ih]

theorem firstStatus_eq_empty_iff (js : List Json) :
    firstStatus normal search js = "" ↔ ∀ j ∈ js, statusOf normal search j = "" := by
  induction js with
  | nil => simp [firstStatus]
  | cons j js ih =>
    rw [firstStatus, List.forall_mem_cons, ← ih]
    by_cases hj : statusOf normal search j = ""
    · simp [hj]
    · simp [hj]

/-! ## Section 2: The text order is one of the orders -/

variable {js : List Json} {s : String} {j : Json} {members : List (String × Json)}

/-- A loop whose every value returns what `statusOf` says. -/
theorem returnsFirst_firstStatus
    (h : ∀ j ∈ js, Returns normal search j (statusOf normal search j)) :
    ReturnsFirst normal search js (firstStatus normal search js) := by
  induction js with
  | nil => exact .none
  | cons j js ih =>
    have hj := h j List.mem_cons_self
    rw [firstStatus]
    by_cases hempty : statusOf normal search j = ""
    · rw [if_neg (not_not.mpr hempty)]
      rw [hempty] at hj
      exact .miss hj (ih (fun j' hj' => h j' (List.mem_cons_of_mem _ hj')))
    · rw [if_pos hempty]
      exact .hit hj hempty

theorem returns_statusOf (j : Json) : Returns normal search j (statusOf normal search j) := by
  induction j using Json.induct with
  | null => exact .null
  | bool b => exact .bool b
  | num d => exact .num d
  | str s => exact .str s
  | arr items ih =>
    rw [statusOf]
    by_cases harrays : search.arrays = true
    · rw [if_pos harrays]
      exact .items harrays (returnsFirst_firstStatus ih)
    · rw [if_neg harrays]
      exact .skipped (Bool.eq_false_iff.mpr harrays)
  | obj members ih =>
    have hloop : ReturnsFirst normal search (members.map Prod.snd)
        (firstMemberStatus normal search members) := by
      rw [firstMemberStatus_eq]
      apply returnsFirst_firstStatus
      intro j hj
      obtain ⟨m, hm, rfl⟩ := List.mem_map.mp hj
      exact ih m hm
    rw [statusOf]
    by_cases hown : textAt normal members "execution_status" = ""
    · rw [if_neg (not_not.mpr hown)]
      by_cases hnested : firstMemberStatus normal search members = ""
      · rw [if_neg (not_not.mpr hnested)]
        rw [hnested] at hloop
        exact .keyed hown (.refl _) hloop
      · rw [if_pos hnested]
        exact .nested hown (.refl _) hloop hnested
    · rw [if_pos hown]
      exact .execution hown

/-! ## Section 3: Whether there is a status does not depend on the order -/

theorem ReturnsFirst.empty_iff (h : ReturnsFirst normal search js s)
    (heach : ∀ j ∈ js, ∀ s, Returns normal search j s → (s = "" ↔ statusOf normal search j = "")) :
    s = "" ↔ ∀ j ∈ js, statusOf normal search j = "" := by
  induction js with
  | nil =>
    cases h
    simp
  | cons j js ih =>
    cases h with
    | hit hj hfound =>
      constructor
      · intro hs
        exact absurd hs hfound
      · intro hall
        exact (heach j List.mem_cons_self s hj).mpr (hall j List.mem_cons_self)
    | miss hj hrest =>
      have hj' := (heach j List.mem_cons_self "" hj).mp rfl
      rw [ih hrest (fun j' hm => heach j' (List.mem_cons_of_mem _ hm)), List.forall_mem_cons]
      exact ⟨fun hall => ⟨hj', hall⟩, fun hall => hall.2⟩

/-- Visiting the entries in another order visits the same entries. -/
theorem ReturnsFirst.empty_iff_members {order : List (String × Json)}
    (h : ReturnsFirst normal search (order.map Prod.snd) s) (hperm : order.Perm members)
    (heach : ∀ m ∈ members, ∀ s, Returns normal search m.2 s →
      (s = "" ↔ statusOf normal search m.2 = "")) :
    s = "" ↔ firstMemberStatus normal search members = "" := by
  rw [firstMemberStatus_eq, firstStatus_eq_empty_iff, h.empty_iff]
  · constructor
    · intro hall j hj
      exact hall j ((hperm.map Prod.snd).mem_iff.mpr hj)
    · intro hall j hj
      exact hall j ((hperm.map Prod.snd).mem_iff.mp hj)
  · intro j hj s hs
    obtain ⟨m, hm, rfl⟩ := List.mem_map.mp hj
    exact heach m (hperm.mem_iff.mp hm) s hs

theorem Returns.empty_iff (h : Returns normal search j s) :
    s = "" ↔ statusOf normal search j = "" := by
  induction j using Json.induct generalizing s with
  | null | bool | num | str =>
    cases h
    simp [statusOf]
  | arr items ih =>
    cases h with
    | skipped hskip => simp [statusOf, hskip]
    | items hsearch hfirst =>
      rw [statusOf, if_pos hsearch, firstStatus_eq_empty_iff]
      exact hfirst.empty_iff (fun j hj s hs => ih j hj hs)
  | obj members ih =>
    cases h with
    | execution hown => simp [statusOf, hown]
    | nested hown hperm hfirst hfound =>
      have hnested := mt (hfirst.empty_iff_members hperm (fun m hm _ hs => ih m hm hs)).mpr hfound
      rw [statusOf, if_neg (not_not.mpr hown), if_pos hnested]
      exact ⟨fun hs => absurd hs hfound, fun hs => absurd hs hnested⟩
    | keyed hown hperm hfirst =>
      have hnested := (hfirst.empty_iff_members hperm (fun m hm _ hs => ih m hm hs)).mp rfl
      rw [statusOf, if_neg (not_not.mpr hown), if_neg (not_not.mpr hnested)]

/-! ## Section 4: When the status does not depend on the order -/

section

variable (normal : Normal) (search : StatusSearch)

mutual

/-- The values below each object that is searched, and has no `execution_status`, offer one
    status at most. -/
def Agrees : Json → Prop
  | .arr items => search.arrays = true → AgreesUpToFirst items
  | .obj members => textAt normal members "execution_status" ≠ "" ∨
      AgreesBelow members ∧ ∀ m ∈ members, ∀ m' ∈ members, statusOf normal search m.2 ≠ "" →
        statusOf normal search m'.2 ≠ "" → statusOf normal search m.2 = statusOf normal search m'.2
  | _ => True

/-- An array is searched up to its first value with a status. -/
def AgreesUpToFirst : List Json → Prop
  | [] => True
  | j :: js => (statusOf normal search j ≠ "" → Agrees j) ∧
      (statusOf normal search j = "" → AgreesUpToFirst js)

/-- Any entry of an object that has a status may come first. -/
def AgreesBelow : List (String × Json) → Prop
  | [] => True
  | (_, j) :: members => (statusOf normal search j ≠ "" → Agrees j) ∧ AgreesBelow members

end

end

theorem agreesBelow_iff (members : List (String × Json)) : AgreesBelow normal search members ↔
    ∀ m ∈ members, statusOf normal search m.2 ≠ "" → Agrees normal search m.2 := by
  induction members with
  | nil => simp [AgreesBelow]
  | cons m members ih => rw [AgreesBelow, ih, List.forall_mem_cons]

/-- The loop over an array whose values are as they should be. -/
theorem ReturnsFirst.eq_firstStatus
    (h : ReturnsFirst normal search js s) (hagrees : AgreesUpToFirst normal search js)
    (heach : ∀ j ∈ js, ∀ s, Agrees normal search j → Returns normal search j s →
      s = statusOf normal search j) : s = firstStatus normal search js := by
  induction js with
  | nil =>
    cases h
    rfl
  | cons j js ih =>
    obtain ⟨hhit, hmiss⟩ := hagrees
    rw [firstStatus]
    cases h with
    | hit hj hfound =>
      have hne := mt hj.empty_iff.mpr hfound
      rw [if_pos hne]
      exact heach j List.mem_cons_self s (hhit hne) hj
    | miss hj hrest =>
      have hempty := hj.empty_iff.mp rfl
      rw [if_neg (not_not.mpr hempty)]
      exact ih hrest (hmiss hempty) (fun j' hm => heach j' (List.mem_cons_of_mem _ hm))

/-- A loop that finds a status returns that of one of its values. -/
theorem ReturnsFirst.exists_returns (h : ReturnsFirst normal search js s) (hfound : s ≠ "") :
    ∃ j ∈ js, Returns normal search j s := by
  induction js with
  | nil =>
    cases h
    exact absurd rfl hfound
  | cons j js ih =>
    cases h with
    | hit hj _ => exact ⟨j, List.mem_cons_self, hj⟩
    | miss _ hrest =>
      obtain ⟨j', hm, hj'⟩ := ih hrest
      exact ⟨j', List.mem_cons_of_mem _ hm, hj'⟩

/-- The status of the text order is that of some entry. -/
theorem exists_statusOf_firstMemberStatus
    (h : firstMemberStatus normal search members ≠ "") : ∃ m ∈ members,
      statusOf normal search m.2 = firstMemberStatus normal search members := by
  induction members with
  | nil => exact absurd rfl h
  | cons m members ih =>
    rw [firstMemberStatus] at h ⊢
    by_cases hm : statusOf normal search m.2 = ""
    · rw [if_neg (not_not.mpr hm)] at h ⊢
      obtain ⟨m', hmem, heq⟩ := ih h
      exact ⟨m', List.mem_cons_of_mem _ hmem, heq⟩
    · rw [if_pos hm]
      exact ⟨m, List.mem_cons_self, rfl⟩

/-- One direction: an event whose values agree has one status in every order. -/
theorem Agrees.eq_statusOf (hagrees : Agrees normal search j)
    (h : Returns normal search j s) : s = statusOf normal search j := by
  induction j using Json.induct generalizing s with
  | null | bool | num | str =>
    cases h
    simp [statusOf]
  | arr items ih =>
    cases h with
    | skipped hskip => simp [statusOf, hskip]
    | items hsearch hfirst =>
      rw [statusOf, if_pos hsearch]
      exact hfirst.eq_firstStatus (hagrees hsearch) (fun j hj s ha hs => ih j hj ha hs)
  | obj members ih =>
    have hempty := h.empty_iff
    cases h with
    | execution hown => simp [statusOf, hown]
    | nested hown hperm hfirst hfound =>
      rcases hagrees with hpresent | ⟨hbelow, hone⟩
      · exact absurd hown hpresent
      · obtain ⟨j, hj, hreturns⟩ := hfirst.exists_returns hfound
        obtain ⟨m, hm, rfl⟩ := List.mem_map.mp hj
        have hmem := hperm.mem_iff.mp hm
        have hne := mt hreturns.empty_iff.mpr hfound
        have hs := ih m hmem ((agreesBelow_iff members).mp hbelow m hmem hne) hreturns
        have hnested :=
          mt (hfirst.empty_iff_members hperm (fun _ _ _ hs => hs.empty_iff)).mpr hfound
        obtain ⟨m', hmem', heq⟩ := exists_statusOf_firstMemberStatus hnested
        rw [statusOf, if_neg (not_not.mpr hown), if_pos hnested, hs, ← heq]
        exact hone m hmem m' hmem' hne (heq ▸ hnested)
    | keyed hown hperm hfirst =>
      have hnested := (hfirst.empty_iff_members hperm (fun _ _ _ hs => hs.empty_iff)).mp rfl
      rw [statusOf, if_neg (not_not.mpr hown), if_neg (not_not.mpr hnested)]

/-- An object can return what any of its entries returns: that entry may come first. -/
theorem returns_of_member {m : String × Json}
    (hown : textAt normal members "execution_status" = "") (hm : m ∈ members)
    (h : Returns normal search m.2 s) (hfound : s ≠ "") : Returns normal search (.obj members) s := by
  obtain ⟨before, after, rfl⟩ := List.append_of_mem hm
  have hperm : (m :: (before ++ after)).Perm (before ++ m :: after) := List.perm_middle.symm
  exact .nested hown hperm (.hit h hfound) hfound

/-- The values of an array agree, if the loop over it has one answer. -/
theorem agreesUpToFirst_of_unique
    (heach : ∀ j ∈ js, (∀ s, Returns normal search j s → s = statusOf normal search j) →
      Agrees normal search j)
    (hunique : ∀ s, ReturnsFirst normal search js s → s = firstStatus normal search js) :
    AgreesUpToFirst normal search js := by
  induction js with
  | nil => trivial
  | cons j js ih =>
    constructor
    · intro hne
      apply heach j List.mem_cons_self
      intro s hs
      have h := hunique s (.hit hs (mt hs.empty_iff.mp hne))
      rwa [firstStatus, if_pos hne] at h
    · intro hempty
      apply ih (fun j' hm => heach j' (List.mem_cons_of_mem _ hm))
      intro s hs
      have hj : Returns normal search j "" := hempty ▸ returns_statusOf j
      have h := hunique s (.miss hj hs)
      rwa [firstStatus, if_neg (not_not.mpr hempty)] at h

/-- The other direction: an event with one status in every order has values that agree. -/
theorem agrees_of_unique (hunique : ∀ s, Returns normal search j s → s = statusOf normal search j) :
    Agrees normal search j := by
  induction j using Json.induct with
  | null | bool | num | str => trivial
  | arr items ih =>
    intro hsearch
    apply agreesUpToFirst_of_unique ih
    intro s hs
    have h := hunique s (.items hsearch hs)
    rwa [statusOf, if_pos hsearch] at h
  | obj members ih =>
    by_cases hown : textAt normal members "execution_status" = ""
    · -- whatever an entry returns is what the object returns
      have hall : ∀ m ∈ members, statusOf normal search m.2 ≠ "" → ∀ s,
          Returns normal search m.2 s → s = statusOf normal search (.obj members) := by
        intro m hm hne s hs
        exact hunique s (returns_of_member hown hm hs (mt hs.empty_iff.mp hne))
      have hstatus : ∀ m ∈ members, statusOf normal search m.2 ≠ "" →
          statusOf normal search m.2 = statusOf normal search (.obj members) :=
        fun m hm hne => hall m hm hne _ (returns_statusOf m.2)
      refine .inr ⟨(agreesBelow_iff members).mpr ?_, ?_⟩
      · intro m hm hne
        apply ih m hm
        intro s hs
        rw [hall m hm hne s hs, hstatus m hm hne]
      · intro m hm m' hm' hne hne'
        rw [hstatus m hm hne, hstatus m' hm' hne']
    · exact .inl hown

/-- **The status of an event is a function of the event exactly when, at each object that is
    searched and has no `execution_status` of its own, the values below offer one status.** -/
theorem status_order_independent_iff (normal : Normal) (search : StatusSearch) (event : Json) :
    (∀ s t, Returns normal search event s → Returns normal search event t → s = t) ↔
      Agrees normal search event := by
  constructor
  · intro hunique
    apply agrees_of_unique
    intro s hs
    exact hunique s _ hs (returns_statusOf event)
  · intro hagrees s t hs ht
    rw [hagrees.eq_statusOf hs, hagrees.eq_statusOf ht]

/-- An event with two nested statuses. -/
def twoStatuses : Json :=
  .obj [("agent", .obj [("status", .str "finished")]), ("tool", .obj [("status", .str "failed")])]

/-- Either of two nested statuses is returned, by both executors. -/
theorem status_depends_on_order :
    (Returns normalStatus taskStatusFromValue twoStatuses "finished" ∧
      Returns normalStatus taskStatusFromValue twoStatuses "failed") ∧
    Returns normalStatus conversationStatus twoStatuses "finished" ∧
      Returns normalStatus conversationStatus twoStatuses "failed" := by
  -- an entry returns its status in the text order already; then that entry comes first
  have hentry : ∀ (search : StatusSearch) (m : String × Json) (s : String),
      m ∈ [("agent", .obj [("status", .str "finished")]), ("tool", .obj [("status", .str "failed")])] →
      statusOf normalStatus search m.2 = s → s ≠ "" → Returns normalStatus search twoStatuses s := by
    intro search m s hm hs hfound
    exact returns_of_member rfl hm (hs ▸ returns_statusOf m.2) hfound
  refine ⟨⟨?_, ?_⟩, ?_, ?_⟩
  · exact hentry _ _ "finished" (.head _) (by decide +kernel) (by decide)
  · exact hentry _ _ "failed" (.tail _ (.head _)) (by decide +kernel) (by decide)
  · exact hentry _ _ "finished" (.head _) (by decide +kernel) (by decide)
  · exact hentry _ _ "failed" (.tail _ (.head _)) (by decide +kernel) (by decide)

end FlowAI.Executors
