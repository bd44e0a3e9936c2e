import Mathlib.Data.List.Sort
import Mathlib.Data.String.Basic

/-! # Maps with String Keys

  A map is a member list with strictly increasing keys, so that equal maps are
  equal lists.  `mergeMembers` reads any member list as the map it denotes, the
  last duplicate of a key winning.
-/

namespace FlowAI

variable {α β : Type}

/-! ### Member lists -/

/-- Insert into a member list sorted by key, replacing an equal key. -/
def insertMember (k : String) (v : α) : List (String × α) → List (String × α)
  | [] => [(k, v)]
  | (k', v') :: rest =>
    if k < k' then (k, v) :: (k', v') :: rest
    else if k = k' then (k, v) :: rest
    else (k', v') :: insertMember k v rest

/-- The map that a member list denotes: sorted by key, the last duplicate wins. -/
def mergeMembers (ms : List (String × α)) : List (String × α) :=
  ms.foldl (fun acc m => insertMember m.1 m.2 acc) []

/-- Strictly increasing keys. -/
def KeySorted (ms : List (String × α)) : Prop := ms.Pairwise (fun a b => a.1 < b.1)

variable {ms : List (String × α)} {P : String → α → Prop}

theorem insertMember_keys {k : String} {v : α} {m : String × α}
    (h : m ∈ insertMember k v ms) : m = (k, v) ∨ m ∈ ms := by
  induction ms with
  | nil => exact .inl (List.mem_singleton.mp h)
  | cons m' rest ih =>
    obtain ⟨k', v'⟩ := m'
    unfold insertMember at h
    split at h
    · simpa using h
    · split at h
      · rcases List.mem_cons.mp h with rfl | h
        · exact .inl rfl
        · exact .inr (List.mem_cons_of_mem _ h)
      · rcases List.mem_cons.mp h with rfl | h
        · exact .inr List.mem_cons_self
        · exact (ih h).imp_right (List.mem_cons_of_mem _)

theorem insertMember_sorted {k : String} {v : α} (h : KeySorted ms) :
    KeySorted (insertMember k v ms) := by
  induction ms with
  | nil => exact List.pairwise_singleton _ _
  | cons m' rest ih =>
    obtain ⟨k', v'⟩ := m'
    obtain ⟨hhead, htail⟩ := List.pairwise_cons.mp h
    unfold insertMember
    split
    · rename_i hlt
      refine List.pairwise_cons.mpr ⟨?_, h⟩
      intro m hm
      rcases List.mem_cons.mp hm with rfl | hm
      · exact hlt
      · exact lt_trans hlt (hhead m hm)
    · split
      · rename_i heq
        exact List.pairwise_cons.mpr ⟨fun m hm => heq ▸ hhead m hm, htail⟩
      · rename_i hlt hne
        refine List.pairwise_cons.mpr ⟨?_, ih htail⟩
        intro m hm
        rcases insertMember_keys hm with rfl | hm
        · exact lt_of_le_of_ne (not_lt.mp hlt) (Ne.symm hne)
        · exact hhead m hm

theorem insertMember_map (f : α → β) (k : String) (v : α) (ms : List (String × α)) :
    (insertMember k v ms).map (fun m => (m.1, f m.2)) =
      insertMember k (f v) (ms.map (fun m => (m.1, f m.2))) := by
  induction ms with
  | nil => rfl
  | cons m' rest ih =>
    simp only [insertMember, List.map_cons]
    split_ifs <;> simp [ih]

theorem insertMember_append {k : String} {v : α}
    (h : ∀ m ∈ ms, m.1 < k) : insertMember k v ms = ms ++ [(k, v)] := by
  induction ms with
  | nil => rfl
  | cons m' rest ih =>
    have hk : m'.1 < k := h m' List.mem_cons_self
    rw [insertMember, if_neg (not_lt.mpr hk.le), if_neg hk.ne',
      ih (fun m hm => h m (List.mem_cons_of_mem _ hm))]
    rfl

/-- Folding members into an accumulator; the induction behind `mergeMembers`. -/
private theorem foldl_insert_map (f : α → β) (ms : List (String × α)) (acc : List (String × α)) :
    (ms.foldl (fun acc m => insertMember m.1 m.2 acc) acc).map (fun m => (m.1, f m.2)) =
      (ms.map (fun m => (m.1, f m.2))).foldl (fun acc m => insertMember m.1 m.2 acc)
        (acc.map (fun m => (m.1, f m.2))) := by
  induction ms generalizing acc with
  | nil => rfl
  | cons m rest ih =>
    simp only [List.foldl_cons, List.map_cons]
    rw [ih, insertMember_map]

theorem mergeMembers_map (f : α → β) (ms : List (String × α)) :
    (mergeMembers ms).map (fun m => (m.1, f m.2)) =
      mergeMembers (ms.map (fun m => (m.1, f m.2))) :=
  foldl_insert_map f ms []

theorem mergeMembers_sorted (ms : List (String × α)) : KeySorted (mergeMembers ms) :=
  List.foldlRecOn _ _ List.Pairwise.nil (fun _ hacc _ _ => insertMember_sorted hacc)

theorem mergeMembers_of_sorted (h : KeySorted ms) :
    mergeMembers ms = ms := by
  -- The accumulator holds a prefix of the sorted list, so every member goes to its end.
  have hgen : ∀ (rest acc : List (String × α)), KeySorted (acc ++ rest) →
      rest.foldl (fun acc m => insertMember m.1 m.2 acc) acc = acc ++ rest := by
    intro rest
    induction rest with
    | nil => simp
    | cons m rest ih =>
      intro acc hs
      have hlt : ∀ m' ∈ acc, m'.1 < m.1 := fun m' hm' =>
        (List.pairwise_append.mp hs).2.2 m' hm' m List.mem_cons_self
      rw [List.foldl_cons, insertMember_append hlt, ih]
      · simp
      · simpa using hs
  exact hgen ms [] h

@[simp] theorem mergeMembers_mergeMembers (ms : List (String × α)) :
    mergeMembers (mergeMembers ms) = mergeMembers ms :=
  mergeMembers_of_sorted (mergeMembers_sorted ms)

theorem mem_of_mem_mergeMembers {m : String × α} (h : m ∈ mergeMembers ms) : m ∈ ms := by
  have hgen : ∀ (rest acc : List (String × α)),
      m ∈ rest.foldl (fun acc m => insertMember m.1 m.2 acc) acc → m ∈ acc ∨ m ∈ rest := by
    intro rest
    induction rest with
    | nil => exact fun acc h => .inl h
    | cons m' rest ih =>
      intro acc h
      rcases ih _ h with h | h
      · rcases insertMember_keys h with rfl | h
        · exact .inr List.mem_cons_self
        · exact .inl h
      · exact .inr (List.mem_cons_of_mem _ h)
  exact (hgen ms [] h).resolve_left (by simp)


/-! ### Maps -/

/-- A finite map from strings: a member list with strictly increasing keys. -/
structure StrMap (α : Type) where
  entries : List (String × α)
  sorted : KeySorted entries

namespace StrMap

variable {m m' : StrMap α} {k k' : String} {v : α}

@[ext] theorem ext (h : m.entries = m'.entries) : m = m' := by
  cases m; cases m'; cases h; rfl

instance [DecidableEq α] : DecidableEq (StrMap α) := fun m m' =>
  decidable_of_iff (m.entries = m'.entries) ⟨ext, congrArg entries⟩

/-- The map of a member list. -/
def ofList (ms : List (String × α)) : StrMap α := ⟨mergeMembers ms, mergeMembers_sorted ms⟩

def empty : StrMap α := ⟨[], List.Pairwise.nil⟩

def insert (k : String) (v : α) (m : StrMap α) : StrMap α :=
  ⟨insertMember k v m.entries, insertMember_sorted m.sorted⟩

/-- `delete(m, k)`. -/
def erase (k : String) (m : StrMap α) : StrMap α :=
  ⟨m.entries.filter (fun e => e.1 ≠ k), m.sorted.filter _⟩

def lookup (m : StrMap α) (k : String) : Option α := (m.entries.find? (fun e => e.1 = k)).map (·.2)

/-- `len(m) == 0`. -/
def isEmpty (m : StrMap α) : Bool := m.entries.isEmpty

@[simp] theorem lookup_empty : (empty : StrMap α).lookup k = none := rfl

theorem find_insertMember (k k' : String) (v : α) (ms : List (String × α)) :
    (insertMember k v ms).find? (fun e => e.1 = k') =
      if k = k' then some (k, v) else ms.find? (fun e => e.1 = k') := by
  induction ms with
  | nil => by_cases h : k = k' <;> simp [insertMember, h]
  | cons m rest ih =>
    obtain ⟨k₀, v₀⟩ := m
    by_cases h : k = k'
    · subst h
      rw [if_pos rfl]
      rw [if_pos rfl] at ih
      unfold insertMember
      split
      · simp
      · split
        · simp
        · rename_i hne
          rw [List.find?_cons_of_neg (by simpa using Ne.symm hne), ih]
    · rw [if_neg h]
      rw [if_neg h] at ih
      unfold insertMember
      split
      · simp [h]
      · split
        · rename_i heq
          subst heq
          simp [h]
        · simp [List.find?_cons, ih]

@[simp] theorem lookup_insert : (m.insert k v).lookup k' = if k = k' then some v else m.lookup k' := by
  unfold lookup insert
  rw [find_insertMember]
  split <;> rfl

@[simp] theorem lookup_erase : (m.erase k).lookup k' = if k' = k then none else m.lookup k' := by
  unfold lookup erase
  rw [List.find?_filter]
  split
  · rename_i h
    subst h
    simp
  · rename_i h
    congr 2
    funext e
    by_cases he : e.1 = k'
    · simp [he, h]
    · simp [he]

theorem entries_erase_head {rest : List (String × α)} (h : m.entries = (k, v) :: rest) :
    (m.erase k).entries = rest := by
  have hsorted := m.sorted
  rw [h] at hsorted
  have hrest : ∀ e ∈ rest, e.1 ≠ k := fun e he => ((List.pairwise_cons.mp hsorted).1 e he).ne'
  unfold erase
  simpa [h] using hrest

/-- What holds of a new entry and of those it does not replace holds after the insertion. -/
theorem forall_lookup_insert_ne (hnew : P k v)
    (hold : ∀ k' v', k ≠ k' → m.lookup k' = some v' → P k' v') :
    ∀ k' v', (m.insert k v).lookup k' = some v' → P k' v' := by
  intro k' v' h
  rw [lookup_insert] at h
  split at h
  · rename_i heq
    injection h with h
    exact heq ▸ h ▸ hnew
  · rename_i hne
    exact hold k' v' hne h

/-- What holds of every entry and of a new one holds after the insertion. -/
theorem forall_lookup_insert (hnew : P k v) (hold : ∀ k' v', m.lookup k' = some v' → P k' v') :
    ∀ k' v', (m.insert k v).lookup k' = some v' → P k' v' :=
  forall_lookup_insert_ne hnew (fun k' v' _ h => hold k' v' h)

theorem forall_lookup_erase (h : ∀ k' v', m.lookup k' = some v' → P k' v') :
    ∀ k' v', (m.erase k).lookup k' = some v' → P k' v' := by
  intro k' v' hk
  rw [lookup_erase] at hk
  split at hk
  · cases hk
  · exact h k' v' hk

theorem find_of_mem (hs : KeySorted ms) (h : (k, v) ∈ ms) :
    ms.find? (fun e => e.1 = k) = some (k, v) := by
  induction ms with
  | nil => cases h
  | cons e rest ih =>
    obtain ⟨hhead, htail⟩ := List.pairwise_cons.mp hs
    rcases List.mem_cons.mp h with rfl | h
    · simp
    · rw [List.find?_cons_of_neg (by simpa using (hhead _ h).ne)]
      exact ih htail h

theorem lookup_eq_some_iff : m.lookup k = some v ↔ (k, v) ∈ m.entries := by
  unfold lookup
  constructor
  · intro h
    obtain ⟨⟨k', v'⟩, hf, rfl⟩ := Option.map_eq_some_iff.mp h
    have hk : k' = k := by simpa using List.find?_some hf
    exact hk ▸ List.mem_of_find?_eq_some hf
  · intro h
    rw [find_of_mem m.sorted h]
    rfl

/-- No key stands twice. -/
theorem keys_nodup (m : StrMap α) : (m.entries.map Prod.fst).Nodup := by
  refine List.pairwise_map.mpr (List.Pairwise.imp ?_ m.sorted)
  intro a b hab heq
  rw [heq] at hab
  exact lt_irrefl _ hab

theorem entries_nodup (m : StrMap α) : m.entries.Nodup := m.keys_nodup.of_map

theorem lookup_eq_none_iff : m.lookup k = none ↔ ∀ e ∈ m.entries, e.1 ≠ k := by
  constructor
  · intro h e he heq
    have hsome : m.lookup k = some e.2 := lookup_eq_some_iff.mpr (heq ▸ he)
    rw [h] at hsome
    cases hsome
  · intro h
    rw [Option.eq_none_iff_forall_ne_some]
    intro v hv
    exact h (k, v) (lookup_eq_some_iff.mp hv) rfl

theorem length_insertMember (h : ∀ e ∈ ms, e.1 ≠ k) :
    (insertMember k v ms).length = ms.length + 1 := by
  induction ms with
  | nil => rfl
  | cons e rest ih =>
    have hne : k ≠ e.1 := Ne.symm (h e List.mem_cons_self)
    have hrest := ih (fun e' he' => h e' (List.mem_cons_of_mem _ he'))
    unfold insertMember
    split
    · rfl
    · rw [List.length_cons, hrest, List.length_cons]

theorem length_insert (h : m.lookup k = none) :
    (m.insert k v).entries.length = m.entries.length + 1 :=
  length_insertMember (lookup_eq_none_iff.mp h)

theorem length_erase_le : (m.erase k).entries.length ≤ m.entries.length :=
  List.length_filter_le _ _

/-- Maps are determined by their lookups. -/
theorem ext_lookup (h : ∀ k, m.lookup k = m'.lookup k) : m = m' := by
  have hmem : ∀ e : String × α, e ∈ m.entries ↔ e ∈ m'.entries := fun e => by
    rw [← lookup_eq_some_iff, ← lookup_eq_some_iff, h]
  have hs : ∀ n : StrMap α, n.entries.Pairwise (fun a b => a.1 < b.1) := fun n => n.sorted
  refine ext (List.Perm.eq_of_pairwise ?_ (hs m) (hs m') ?_)
  · intro a b _ _ hab hba
    exact absurd (lt_trans hab hba) (lt_irrefl _)
  · exact (List.perm_ext_iff_of_nodup (entries_nodup m) (entries_nodup m')).mpr hmem

theorem foldl_insert_entries (m : StrMap α) :
    m.entries.foldl (fun acc e => acc.insert e.1 e.2) empty = m := by
  apply ext
  have hentries : m.entries.foldl (fun acc e => insertMember e.1 e.2 acc) (entries empty) =
      (m.entries.foldl (fun acc e => acc.insert e.1 e.2) empty).entries :=
    List.foldl_hom entries (fun _ _ => rfl)
  rw [← hentries]
  exact mergeMembers_of_sorted m.sorted

/-- A map inside another one of the same size is that map. -/
theorem eq_of_forall_lookup (hsize : m.entries.length = m'.entries.length)
    (h : ∀ e ∈ m.entries, m'.lookup e.1 = some e.2) : m = m' := by
  have hsub : m.entries ⊆ m'.entries := by
    intro e he
    exact lookup_eq_some_iff.mp (h e he)
  have hperm : m.entries.Perm m'.entries :=
    (List.subperm_of_subset (entries_nodup m) hsub).perm_of_length_le hsize.ge
  apply ext
  refine hperm.eq_of_pairwise ?_ m.sorted m'.sorted
  intro a b _ _ hab hba
  exact absurd (lt_trans hab hba) (lt_irrefl _)

end StrMap

end FlowAI
