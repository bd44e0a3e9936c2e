import Mathlib.Data.List.Nodup
import Mathlib.Data.List.Pairwise

/-! # Keyed Tables

  A table is a list of rows together with the constraints its schema declares:
  the primary key, the `CHECK`s of one row and the further unique indexes.  The
  three are fields of `Table`, so a table that violates them cannot be built;
  `insert` and `update` decide them and report the violation instead.

  Rows stand in insertion order, which is also the order in which the
  transactions that wrote them committed.
-/

namespace FlowAI

variable {ρ κ : Type}

/-- The constraints declared for one table.  A unique index maps a row to the
    tuple it indexes, or to `none` where the row is outside the index (a null
    column, or the predicate of a partial index). -/
structure Schema (ρ κ : Type) where
  key : ρ → κ
  check : ρ → Bool := fun _ => true
  uniques : List (ρ → Option (List String)) := []

/-- Two rows clash when some unique index holds the same tuple for both. -/
def Schema.Clash (S : Schema ρ κ) (a b : ρ) : Prop :=
  ∃ u ∈ S.uniques, (u a).isSome ∧ u a = u b

instance (S : Schema ρ κ) (a b : ρ) : Decidable (S.Clash a b) :=
  inferInstanceAs (Decidable (∃ u ∈ S.uniques, _))

/-- Why the database refused a row. -/
inductive Violation where
  /-- A `CHECK` constraint (SQLSTATE 23514). -/
  | check
  /-- The primary key (SQLSTATE 23505). -/
  | primaryKey
  /-- A further unique index (SQLSTATE 23505). -/
  | unique
  /-- A foreign key (SQLSTATE 23503). -/
  | foreignKey
  /-- An exception raised by a trigger. -/
  | trigger
  deriving DecidableEq, Repr

/-- Rows that satisfy every constraint of the schema `S`. -/
structure Table (S : Schema ρ κ) where
  rows : List ρ
  keys_nodup : (rows.map S.key).Nodup
  checked : ∀ r ∈ rows, S.check r = true
  unique : rows.Pairwise (fun a b => ¬ S.Clash a b)

namespace Table

variable {S : Schema ρ κ} {t t' : Table S} {r r' : ρ} {k : κ}

@[ext] theorem ext (h : t.rows = t'.rows) : t = t' := by
  cases t; cases t'; cases h; rfl

/-- The table without rows. -/
def empty : Table S := ⟨[], List.nodup_nil, by simp, List.Pairwise.nil⟩

@[simp] theorem rows_empty : (empty : Table S).rows = [] := rfl

theorem eq_of_key_eq (hr : r ∈ t.rows) (hr' : r' ∈ t.rows) (h : S.key r = S.key r') : r = r' :=
  List.inj_on_of_nodup_map t.keys_nodup hr hr' h

/-- Rows that agree in a unique index are one row. -/
theorem eq_of_tuple_eq {u : ρ → Option (List String)} (hu : u ∈ S.uniques) (hr : r ∈ t.rows)
    (hr' : r' ∈ t.rows) (hsome : (u r).isSome = true) (h : u r = u r') : r = r' := by
  by_contra hne
  have hsymm : Std.Symm (fun a b => ¬ S.Clash a b) := by
    refine ⟨?_⟩
    intro a b hab hba
    obtain ⟨v, hv, hv_some, hv_eq⟩ := hba
    exact hab ⟨v, hv, hv_eq ▸ hv_some, hv_eq.symm⟩
  exact t.unique.forall hr hr' hne ⟨u, hu, hsome, h⟩

/-! ### Lookup -/

variable [DecidableEq κ]

/-- The row with primary key `k`. -/
def lookup (t : Table S) (k : κ) : Option ρ := t.rows.find? (fun r => S.key r = k)

@[simp] theorem lookup_empty : (empty : Table S).lookup k = none := rfl

theorem lookup_eq_some_iff : t.lookup k = some r ↔ r ∈ t.rows ∧ S.key r = k := by
  constructor
  · intro h
    exact ⟨List.mem_of_find?_eq_some h, by simpa using List.find?_some h⟩
  · rintro ⟨hr, rfl⟩
    cases hf : t.lookup (S.key r) with
    | none =>
      have hno := List.find?_eq_none.mp hf r hr
      simp at hno
    | some r' =>
      have hk : S.key r' = S.key r := by simpa using List.find?_some hf
      rw [eq_of_key_eq (List.mem_of_find?_eq_some hf) hr hk]

theorem lookup_eq_none_iff : t.lookup k = none ↔ ∀ r ∈ t.rows, S.key r ≠ k := by
  simp [lookup]

theorem mem_of_lookup (h : t.lookup k = some r) : r ∈ t.rows := (lookup_eq_some_iff.mp h).1

theorem key_of_lookup (h : t.lookup k = some r) : S.key r = k := (lookup_eq_some_iff.mp h).2

theorem lookup_key (h : r ∈ t.rows) : t.lookup (S.key r) = some r :=
  lookup_eq_some_iff.mpr ⟨h, rfl⟩

/-! ### Insertion -/

/-- `INSERT`: constraints are decided in the order the database checks them. -/
def insert (t : Table S) (r : ρ) : Except Violation (Table S) :=
  if hc : S.check r = true then
    if hk : S.key r ∈ t.rows.map S.key then .error .primaryKey
    else if hu : ∃ r' ∈ t.rows, S.Clash r' r then .error .unique
    else .ok {
      rows := t.rows ++ [r]
      keys_nodup := by
        rw [List.map_append]
        exact List.nodup_append.mpr ⟨t.keys_nodup, by simp, by
          rintro _ hx _ hy rfl
          simp only [List.map_cons, List.map_nil, List.mem_singleton] at hy
          exact hk (hy ▸ hx)⟩
      checked := by
        intro r' hr'
        rcases List.mem_append.mp hr' with h | h
        · exact t.checked r' h
        · rw [List.mem_singleton.mp h]; exact hc
      unique := by
        refine List.pairwise_append.mpr ⟨t.unique, List.pairwise_singleton _ _, ?_⟩
        intro a ha b hb hab
        rw [List.mem_singleton.mp hb] at hab
        exact hu ⟨a, ha, hab⟩ }
  else .error .check

/-- The inversion lemma of `insert`: what a successful insertion required and did. -/
theorem insert_eq_ok_iff : t.insert r = .ok t' ↔
    S.check r = true ∧ t.lookup (S.key r) = none ∧ (∀ r' ∈ t.rows, ¬ S.Clash r' r) ∧
      t'.rows = t.rows ++ [r] := by
  have hmem : S.key r ∈ t.rows.map S.key ↔ ¬ t.lookup (S.key r) = none := by
    simp [lookup_eq_none_iff]
  unfold insert
  split_ifs with hc hk hu
  · simp [hmem.mp hk]
  · obtain ⟨r', hr', hcl⟩ := hu
    simp only [false_iff]
    rintro ⟨-, -, hno, -⟩
    exact hno r' hr' hcl
  · constructor
    · intro h
      cases h
      refine ⟨hc, not_not.mp (fun hn => hk (hmem.mpr hn)), ?_, rfl⟩
      exact fun r' hr' hcl => hu ⟨r', hr', hcl⟩
    · rintro ⟨-, -, -, hrows⟩
      exact congrArg _ (ext hrows.symm)
  · simp [hc]

/-- An insertion that violates no constraint succeeds. -/
theorem insert_ok (hc : S.check r = true) (hnew : t.lookup (S.key r) = none)
    (hu : ∀ r' ∈ t.rows, ¬ S.Clash r' r) : ∃ t', t.insert r = .ok t' := by
  have hkey : S.key r ∉ t.rows.map S.key := by
    intro hmem
    obtain ⟨r', hr', hk⟩ := List.mem_map.mp hmem
    rw [← hk, lookup_eq_some_iff.mpr ⟨hr', rfl⟩] at hnew
    cases hnew
  have hclash : ¬ ∃ r' ∈ t.rows, S.Clash r' r := by
    rintro ⟨r', hr', hcl⟩
    exact hu r' hr' hcl
  unfold insert
  rw [dif_pos hc, dif_neg hkey, dif_neg hclash]
  exact ⟨_, rfl⟩

theorem rows_insert (h : t.insert r = .ok t') : t'.rows = t.rows ++ [r] :=
  (insert_eq_ok_iff.mp h).2.2.2

variable {p : ρ → Bool}

theorem filter_rows_insert (h : t.insert r = .ok t') (hp : p r = false) :
    t'.rows.filter p = t.rows.filter p := by
  rw [rows_insert h, List.filter_append]
  simp [hp]

theorem lookup_insert (h : t.insert r = .ok t') (k : κ) :
    t'.lookup k = if S.key r = k then some r else t.lookup k := by
  obtain ⟨-, hnew, -, hrows⟩ := insert_eq_ok_iff.mp h
  by_cases hk : S.key r = k
  · subst hk
    rw [if_pos rfl]
    exact lookup_eq_some_iff.mpr ⟨by simp [hrows], rfl⟩
  · rw [if_neg hk]
    simp [lookup, hrows, List.find?_append, hk]

theorem lookup_insert_of_some (h : t.insert r = .ok t') {r₀ : ρ} (h₀ : t.lookup k = some r₀) :
    t'.lookup k = some r₀ := by
  rw [lookup_insert h, if_neg]
  · exact h₀
  · rintro rfl
    rw [(insert_eq_ok_iff.mp h).2.1] at h₀
    cases h₀

/-! ### Update of one row -/

/-- Rows with `f` applied to the one whose primary key is `k`. -/
def updateRows (t : Table S) (k : κ) (f : ρ → ρ) : List ρ :=
  t.rows.map (fun r => if S.key r = k then f r else r)

/-- `UPDATE … WHERE` on the primary key, by a function that leaves the key alone. -/
def update (t : Table S) (k : κ) (f : ρ → ρ) (hf : ∀ r, S.key (f r) = S.key r) :
    Except Violation (Table S) :=
  if hc : ∀ r ∈ t.updateRows k f, S.check r = true then
    if hu : (t.updateRows k f).Pairwise (fun a b => ¬ S.Clash a b) then .ok {
      rows := t.updateRows k f
      keys_nodup := by
        have hmap : (t.updateRows k f).map S.key = t.rows.map S.key := by
          simp only [updateRows, List.map_map, List.map_inj_left, Function.comp_apply]
          intro r _
          split <;> simp [hf]
        rw [hmap]
        exact t.keys_nodup
      checked := hc
      unique := hu }
    else .error .unique
  else .error .check

variable {f : ρ → ρ} {hf : ∀ r, S.key (f r) = S.key r}

theorem update_eq_ok_iff : t.update k f hf = .ok t' ↔
    (∀ r ∈ t.updateRows k f, S.check r = true) ∧
      (t.updateRows k f).Pairwise (fun a b => ¬ S.Clash a b) ∧ t'.rows = t.updateRows k f := by
  unfold update
  split_ifs with hc hu
  · constructor
    · intro h
      cases h
      exact ⟨hc, hu, rfl⟩
    · rintro ⟨-, -, hrows⟩
      exact congrArg _ (ext hrows.symm)
  · simp [hu]
  · simp only [false_iff]
    rintro ⟨hc', -⟩
    exact hc hc'

/-- An update that keeps the checks and touches no unique index succeeds. -/
theorem update_ok (hc : ∀ r ∈ t.rows, S.key r = k → S.check (f r) = true)
    (hu : ∀ u ∈ S.uniques, ∀ r, u (f r) = u r) : ∃ t', t.update k f hf = .ok t' := by
  have hcheck : ∀ r ∈ t.updateRows k f, S.check r = true := by
    intro r' hr'
    obtain ⟨r, hr, rfl⟩ := List.mem_map.mp hr'
    by_cases hk : S.key r = k
    · rw [if_pos hk]
      exact hc r hr hk
    · rw [if_neg hk]
      exact t.checked r hr
  have hsame : ∀ u ∈ S.uniques, ∀ r, u (if S.key r = k then f r else r) = u r := by
    intro u hmem r
    split
    · exact hu u hmem r
    · rfl
  have hunique : (t.updateRows k f).Pairwise (fun a b => ¬ S.Clash a b) := by
    refine List.pairwise_map.mpr (t.unique.imp ?_)
    intro a b hab hclash
    obtain ⟨u, hmem, hsome, heq⟩ := hclash
    rw [hsame u hmem] at hsome heq
    rw [hsame u hmem] at heq
    exact hab ⟨u, hmem, hsome, heq⟩
  unfold update
  rw [dif_pos hcheck, dif_pos hunique]
  exact ⟨_, rfl⟩

theorem rows_update (h : t.update k f hf = .ok t') : t'.rows = t.updateRows k f :=
  (update_eq_ok_iff.mp h).2.2

/-- A filter that the updated row is outside of, before and after, does not see the update. -/
theorem filter_rows_update (h : t.update k f hf = .ok t')
    (hp : ∀ r ∈ t.rows, S.key r = k → p r = false ∧ p (f r) = false) :
    t'.rows.filter p = t.rows.filter p := by
  rw [rows_update h, updateRows]
  revert hp
  induction t.rows with
  | nil => simp
  | cons r rows ih =>
    intro hp
    have hrest := ih (fun r' hr' => hp r' (List.mem_cons_of_mem r hr'))
    by_cases hk : S.key r = k
    · obtain ⟨hold, hnew⟩ := hp r (List.mem_cons_self) hk
      simp [hk, hold, hnew, hrest]
    · simp [hk, List.filter_cons, hrest]

theorem lookup_update (h : t.update k f hf = .ok t') (k' : κ) :
    t'.lookup k' = if k' = k then (t.lookup k').map f else t.lookup k' := by
  have hkey : ∀ r, S.key (if S.key r = k then f r else r) = S.key r := by
    intro r
    split <;> simp [hf]
  rw [lookup, rows_update h, updateRows, List.find?_map]
  simp only [Function.comp_def, hkey]
  change (t.lookup k').map _ = _
  cases hl : t.lookup k' with
  | none => simp
  | some r =>
    have hk := key_of_lookup hl
    by_cases h' : k' = k <;> simp [hk, h']

theorem mem_update (h : t.update k f hf = .ok t') :
    r' ∈ t'.rows ↔ ∃ r ∈ t.rows, r' = if S.key r = k then f r else r := by
  rw [rows_update h]
  simp [updateRows, eq_comm]

/-! ### Several rows -/

/-- `INSERT … SELECT`: the rows one after the other. -/
def insertAll (t : Table S) (rs : List ρ) : Except Violation (Table S) := rs.foldlM insert t

theorem rows_insertAll {rs : List ρ} (h : t.insertAll rs = .ok t') : t'.rows = t.rows ++ rs := by
  induction rs generalizing t with
  | nil =>
    injection h with h
    rw [h, List.append_nil]
  | cons r rs ih =>
    unfold insertAll at h
    rw [List.foldlM_cons] at h
    cases hfirst : t.insert r with
    | error v =>
      rw [hfirst] at h
      cases h
    | ok t₁ =>
      rw [hfirst] at h
      have hrest : t'.rows = t₁.rows ++ rs := ih h
      rw [hrest, rows_insert hfirst, List.append_assoc]
      rfl

/-- `DELETE … WHERE`. -/
def delete (t : Table S) (p : ρ → Bool) : Table S where
  rows := t.rows.filter (fun r => !p r)
  keys_nodup := t.keys_nodup.sublist (List.filter_sublist.map _)
  checked := fun r hr => t.checked r (List.mem_of_mem_filter hr)
  unique := t.unique.sublist List.filter_sublist

omit [DecidableEq κ] in
theorem mem_delete : r ∈ (t.delete p).rows ↔ r ∈ t.rows ∧ p r = false := by
  simp [delete]

theorem lookup_delete :
    (t.delete p).lookup k = some r ↔ t.lookup k = some r ∧ p r = false := by
  rw [lookup_eq_some_iff, lookup_eq_some_iff, mem_delete]
  exact and_right_comm

/-! ### Properties of every row -/

theorem forall_insert {P : ρ → Prop} (hall : ∀ r₀ ∈ t.rows, P r₀) (h : t.insert r = .ok t')
    (hr : P r) : ∀ r₀ ∈ t'.rows, P r₀ := by
  intro r₀ hr₀
  rw [rows_insert h] at hr₀
  rcases List.mem_append.mp hr₀ with hr₀ | hr₀
  · exact hall r₀ hr₀
  · rw [List.mem_singleton.mp hr₀]
    exact hr

theorem forall_update {P : ρ → Prop} (hall : ∀ r ∈ t.rows, P r) (h : t.update k f hf = .ok t')
    (hstep : ∀ r ∈ t.rows, S.key r = k → P (f r)) : ∀ r ∈ t'.rows, P r := by
  intro r' hr'
  obtain ⟨r, hr, rfl⟩ := (mem_update h).mp hr'
  by_cases hk : S.key r = k
  · rw [if_pos hk]
    exact hstep r hr hk
  · rw [if_neg hk]
    exact hall r hr

/-! ### Rows that stay

  `Persists R t t'`: every row of `t` is still in `t'` under its key, changed at
  most along `R`.  An append-only table persists along equality. -/

/-- Every row of `t` has a successor along `R` in `t'`. -/
def Persists (R : ρ → ρ → Prop) (t t' : Table S) : Prop :=
  ∀ k r, t.lookup k = some r → ∃ r', t'.lookup k = some r' ∧ R r r'

variable {R : ρ → ρ → Prop} {t'' : Table S}

theorem Persists.refl (hR : ∀ r, R r r) (t : Table S) : t.Persists R t :=
  fun _ r h => ⟨r, h, hR r⟩

theorem Persists.trans (hR : ∀ a b c, R a b → R b c → R a c) (h₁ : t.Persists R t')
    (h₂ : t'.Persists R t'') : t.Persists R t'' := by
  intro k r hr
  obtain ⟨r', hr', hrr'⟩ := h₁ k r hr
  obtain ⟨r'', hr'', hr'r''⟩ := h₂ k r' hr'
  exact ⟨r'', hr'', hR _ _ _ hrr' hr'r''⟩

theorem persists_insert (hR : ∀ r, R r r) (h : t.insert r = .ok t') : t.Persists R t' :=
  fun _ r₀ h₀ => ⟨r₀, lookup_insert_of_some h h₀, hR r₀⟩

theorem persists_update (hR : ∀ r, R r r) (h : t.update k f hf = .ok t')
    (hstep : ∀ r, t.lookup k = some r → R r (f r)) : t.Persists R t' := by
  intro k' r hr
  rw [lookup_update h]
  by_cases hk : k' = k
  · subst hk
    exact ⟨f r, by simp [hr], hstep r hr⟩
  · exact ⟨r, by simp [hk, hr], hR r⟩

end Table

end FlowAI
