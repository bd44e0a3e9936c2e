import FlowAI.Framework.Table

/-! # Publishing Private Rows

  A transaction under read-committed isolation works on its own copy of the
  tables.  When it commits, the rows it wrote, and only those, appear in the
  tables as they are committed by then: a row it found is overwritten, a row it
  added is inserted and refused if its key has been taken meanwhile.

  `publish base mine now` is that step for one table: `base` is what the
  transaction started from, `mine` what it made of it, `now` what is committed.
-/

namespace FlowAI

namespace Table

variable {ρ κ : Type} {S : Schema ρ κ} [DecidableEq κ]
variable {base mine now t : Table S} {r r₀ : ρ} {k : κ}

/-- Replace the row of the same key. -/
def overwrite (now : Table S) (r : ρ) : Except Violation (Table S) :=
  now.update (S.key r) (fun r' => if S.key r' = S.key r then r else r') (by
    intro r'
    split <;> simp_all)

/-- Publish one row. -/
def publishRow (base now : Table S) (r : ρ) : Except Violation (Table S) :=
  if (base.lookup (S.key r)).isSome then now.overwrite r else now.insert r

def publishRows (base : Table S) : List ρ → Table S → Except Violation (Table S)
  | [], now => .ok now
  | r :: rs, now =>
    match base.publishRow now r with
    | .ok now' => publishRows base rs now'
    | .error v => .error v

/-! ### One row -/

theorem lookup_overwrite (h : now.overwrite r = .ok t) (k : κ) :
    t.lookup k = if k = S.key r then (now.lookup k).map (fun _ => r) else now.lookup k := by
  rw [lookup_update h]
  by_cases hk : k = S.key r
  · rw [if_pos hk, if_pos hk]
    cases hl : now.lookup k with
    | none => rfl
    | some r' => simp [(key_of_lookup hl).trans hk]
  · rw [if_neg hk, if_neg hk]

theorem lookup_publishRow_other (h : base.publishRow now r = .ok t) (hk : S.key r ≠ k) :
    t.lookup k = now.lookup k := by
  unfold publishRow at h
  split at h
  · rw [lookup_overwrite h, if_neg (Ne.symm hk)]
  · rw [lookup_insert h, if_neg hk]

/-- The row that was published stands under its key, unless it replaced nothing. -/
theorem lookup_publishRow_self (h : base.publishRow now r = .ok t)
    (hkept : (base.lookup (S.key r)).isSome → (now.lookup (S.key r)).isSome) :
    t.lookup (S.key r) = some r := by
  unfold publishRow at h
  split at h
  · rename_i hbase
    obtain ⟨r', hr'⟩ := Option.isSome_iff_exists.mp (hkept hbase)
    rw [lookup_overwrite h, if_pos rfl, hr']
    rfl
  · rw [lookup_insert h, if_pos rfl]

/-- An added row is refused when its key has been taken. -/
theorem publishRow_added (h : base.publishRow now r = .ok t) (hbase : base.lookup (S.key r) = none) :
    now.lookup (S.key r) = none := by
  unfold publishRow at h
  rw [hbase] at h
  exact (insert_eq_ok_iff.mp h).2.1

/-! ### All rows -/

variable {rs : List ρ}

theorem publishRows_cons (h : publishRows base (r :: rs) now = .ok t) :
    ∃ now', base.publishRow now r = .ok now' ∧ publishRows base rs now' = .ok t := by
  unfold publishRows at h
  split at h
  · rename_i now' hrow
    exact ⟨now', hrow, h⟩
  · cases h

theorem lookup_publishRows_other (h : publishRows base rs now = .ok t)
    (hk : ∀ r ∈ rs, S.key r ≠ k) : t.lookup k = now.lookup k := by
  induction rs generalizing now with
  | nil =>
    cases h
    rfl
  | cons r rs ih =>
    obtain ⟨now', hrow, hrest⟩ := publishRows_cons h
    rw [ih hrest (fun r' hr' => hk r' (List.mem_cons_of_mem _ hr'))]
    exact lookup_publishRow_other hrow (hk r List.mem_cons_self)

theorem lookup_publishRows_self (h : publishRows base rs now = .ok t)
    (hkeys : (rs.map S.key).Nodup) (hr : r ∈ rs)
    (hkept : (base.lookup (S.key r)).isSome → (now.lookup (S.key r)).isSome) :
    t.lookup (S.key r) = some r ∧
      (base.lookup (S.key r) = none → now.lookup (S.key r) = none) := by
  induction rs generalizing now with
  | nil => cases hr
  | cons r' rs ih =>
    obtain ⟨now', hrow, hrest⟩ := publishRows_cons h
    rw [List.map_cons, List.nodup_cons] at hkeys
    rcases List.mem_cons.mp hr with rfl | hr
    · -- the rows after this one have other keys
      have hlater : ∀ r' ∈ rs, S.key r' ≠ S.key r := by
        intro r' hr' heq
        exact hkeys.1 (heq ▸ List.mem_map_of_mem hr')
      rw [lookup_publishRows_other hrest hlater]
      exact ⟨lookup_publishRow_self hrow hkept, publishRow_added hrow⟩
    · have hne : S.key r' ≠ S.key r := by
        intro heq
        exact hkeys.1 (heq ▸ List.mem_map_of_mem hr)
      have hsame := lookup_publishRow_other hrow hne
      rw [← hsame] at hkept ⊢
      exact ih hrest hkeys.2 hr hkept

/-! ### The whole table, by key -/

variable [DecidableEq ρ]

/-- The rows a transaction wrote. -/
def written (base mine : Table S) : List ρ :=
  mine.rows.filter (fun r => base.lookup (S.key r) ≠ some r)

def publish (base mine now : Table S) : Except Violation (Table S) :=
  publishRows base (written base mine) now

theorem mem_written : r ∈ written base mine ↔
    mine.lookup (S.key r) = some r ∧ base.lookup (S.key r) ≠ some r := by
  simp only [written, List.mem_filter, ne_eq, decide_not, Bool.not_eq_true',
    decide_eq_false_iff_not]
  refine and_congr_left fun _ => ?_
  rw [lookup_eq_some_iff]
  exact ⟨fun h => ⟨h, rfl⟩, fun h => h.1⟩

theorem written_nodup : ((written base mine).map S.key).Nodup :=
  mine.keys_nodup.sublist (List.filter_sublist.map _)

/-- A key the transaction left alone keeps what is committed. -/
theorem lookup_publish_of_same (h : publish base mine now = .ok t)
    (hk : mine.lookup k = base.lookup k) : t.lookup k = now.lookup k := by
  refine lookup_publishRows_other h ?_
  intro r hr heq
  obtain ⟨hmine, hbase⟩ := mem_written.mp hr
  rw [heq] at hmine hbase
  exact hbase (hk ▸ hmine)

/-- A row the transaction changed is published in place of the committed one. -/
theorem lookup_publish_of_update (h : publish base mine now = .ok t) (hmine : mine.lookup k = some r)
    (hbase : base.lookup k = some r₀) (hne : r₀ ≠ r) (hnow : (now.lookup k).isSome) :
    t.lookup k = some r := by
  have hkey := key_of_lookup hmine
  subst hkey
  refine (lookup_publishRows_self h written_nodup (mem_written.mpr ⟨hmine, ?_⟩) (fun _ => hnow)).1
  rw [hbase]
  exact fun heq => hne (Option.some.inj heq)

/-- A row the transaction added is published where no other row took its key. -/
theorem lookup_publish_of_insert (h : publish base mine now = .ok t) (hmine : mine.lookup k = some r)
    (hbase : base.lookup k = none) : now.lookup k = none ∧ t.lookup k = some r := by
  have hkey := key_of_lookup hmine
  subst hkey
  have hkept : (base.lookup (S.key r)).isSome → (now.lookup (S.key r)).isSome := by
    intro hsome
    rw [hbase] at hsome
    cases hsome
  have hmem : r ∈ written base mine := mem_written.mpr ⟨hmine, by simp [hbase]⟩
  obtain ⟨hself, hfree⟩ := lookup_publishRows_self h written_nodup hmem hkept
  exact ⟨hfree hbase, hself⟩

/-! ### Publishing without interference

  When nothing was committed meanwhile, publishing gives the copy itself. -/

@[simp] theorem publish_unchanged (base now : Table S) : publish base base now = .ok now := by
  have hnone : written base base = [] := by
    rw [List.eq_nil_iff_forall_not_mem]
    intro r hr
    obtain ⟨hmine, hbase⟩ := mem_written.mp hr
    exact hbase hmine
  rw [publish, hnone, publishRows]

theorem eq_of_publish (h : publish base mine now = .ok t) (hsame : mine = base) : t = now := by
  rw [hsame, publish_unchanged] at h
  exact (Except.ok.inj h).symm

end Table

end FlowAI
