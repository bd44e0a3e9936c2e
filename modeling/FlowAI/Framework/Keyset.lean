import FlowAI.Framework.OrderBy

/-! # Keyset Pages

  A page of a table is what follows a cursor in the order of a key, up to a limit.
  A reader that moves its cursor to the last key of each page skips no row that is
  ahead of the cursor.
-/

namespace FlowAI

variable {α κ : Type} [LinearOrder κ] {key : α → κ} {limit : Nat} {cursor : κ} {l : List α}

/-- `WHERE key > cursor ORDER BY key LIMIT limit`. -/
def page (key : α → κ) (limit : Nat) (cursor : κ) (l : List α) : List α :=
  ((l.filter (fun a => cursor < key a)).insertionSort (fun a b => key a ≤ key b)).take limit

variable {a : α} {fuel : Nat} {out : List α}

theorem mem_page (h : a ∈ page key limit cursor l) : a ∈ l ∧ cursor < key a := by
  have hmem := List.mem_of_mem_take h
  rw [List.mem_insertionSort, List.mem_filter, decide_eq_true_eq] at hmem
  exact hmem

theorem pairwise_page : (page key limit cursor l).Pairwise (fun a b => key a ≤ key b) :=
  (pairwise_orderBy key _).sublist (List.take_sublist _ _)

/-- Where the key identifies the rows, it grows strictly along a page. -/
theorem strict_page (hnodup : l.Nodup) (hinj : ∀ a ∈ l, ∀ b ∈ l, key a = key b → a = b) :
    (page key limit cursor l).Pairwise (fun a b => key a < key b) := by
  have hdistinct : (page key limit cursor l).Nodup := by
    have hsorted : ((l.filter (fun a => decide (cursor < key a))).insertionSort
        (fun a b => key a ≤ key b)).Nodup :=
      (List.perm_insertionSort _ _).nodup_iff.mpr (hnodup.filter _)
    exact hsorted.sublist (List.take_sublist _ _)
  refine (pairwise_page.and hdistinct).imp_of_mem ?_
  intro a b ha hb hab
  refine lt_of_le_of_ne hab.1 ?_
  intro heq
  exact hab.2 (hinj a (mem_page ha).1 b (mem_page hb).1 heq)

theorem mem_ahead (ha : a ∈ l) (hahead : cursor < key a) :
    a ∈ (l.filter (fun a => decide (cursor < key a))).insertionSort (fun a b => key a ≤ key b) := by
  rw [List.mem_insertionSort, List.mem_filter, decide_eq_true_eq]
  exact ⟨ha, hahead⟩

/-- A row ahead of the cursor is on the page, or no row of the page is ahead of it. -/
theorem page_complete (ha : a ∈ l) (hahead : cursor < key a) :
    a ∈ page key limit cursor l ∨ ∀ b ∈ page key limit cursor l, key b ≤ key a := by
  have hsorted := pairwise_orderBy key (l.filter (fun a => decide (cursor < key a)))
  have hmem := mem_ahead ha hahead
  unfold page
  generalize (l.filter (fun a => decide (cursor < key a))).insertionSort
    (fun a b => key a ≤ key b) = sorted at hsorted hmem
  rw [← List.take_append_drop limit sorted] at hsorted hmem
  rcases List.mem_append.mp hmem with hmem | hmem
  · exact .inl hmem
  · right
    intro b hb
    exact (List.pairwise_append.mp hsorted).2.2 b hb a hmem

/-- An empty page means that nothing is ahead. -/
theorem not_ahead_of_page_eq_nil (hlimit : 0 < limit) (h : page key limit cursor l = [])
    (ha : a ∈ l) : ¬ cursor < key a := by
  intro hahead
  have hmem := mem_ahead ha hahead
  rcases List.take_eq_nil_iff.mp h with h0 | hnil
  · omega
  · rw [hnil] at hmem
    cases hmem

/-! ## Walks

  A listing answers a request with the next page and, if more may follow, with a token for
  the request after it.  The table may change between two requests. -/

/-- A page, and the row after which the next one starts. -/
structure Continues (key : α → κ) (limit : Nat) (cursor : κ) (l items : List α)
    (next : Option α) : Prop where
  items_eq : items = page key limit cursor l
  last : next = none → ∀ a ∈ l, cursor < key a → a ∈ items
  next : ∀ z, next = some z → z ∈ items ∧ ∀ b ∈ items, key b ≤ key z

/-- A full page has a successor. -/
def nextIfFull (limit : Nat) (rows : List α) : Option α :=
  if rows.length = limit then rows.getLast? else none

theorem mem_page_of_short (hshort : (page key limit cursor l).length < limit)
    (ha : a ∈ l) (hahead : cursor < key a) : a ∈ page key limit cursor l := by
  unfold page at hshort ⊢
  rw [List.length_take] at hshort
  rw [List.take_of_length_le (by omega), List.mem_insertionSort, List.mem_filter,
    decide_eq_true_eq]
  exact ⟨ha, hahead⟩

theorem le_getLast {z : α} (hlast : (page key limit cursor l).getLast? = some z) :
    z ∈ page key limit cursor l ∧ ∀ b ∈ page key limit cursor l, key b ≤ key z := by
  have hsorted : (page key limit cursor l).Pairwise (fun a b => key a ≤ key b) := pairwise_page
  obtain ⟨front, hfront⟩ := List.getLast?_eq_some_iff.mp hlast
  rw [hfront] at hsorted ⊢
  refine ⟨by simp, ?_⟩
  intro b hb
  rcases List.mem_append.mp hb with hb | hb
  · exact (List.pairwise_append.mp hsorted).2.2 b hb z (by simp)
  · rw [List.mem_singleton.mp hb]

theorem continues_nextIfFull (hlimit : 0 < limit) :
    Continues key limit cursor l (page key limit cursor l)
      (nextIfFull limit (page key limit cursor l)) := by
  unfold nextIfFull
  by_cases hfull : (page key limit cursor l).length = limit
  · rw [if_pos hfull]
    refine ⟨rfl, ?_, fun z hz => le_getLast hz⟩
    intro hnone
    rw [List.getLast?_eq_none_iff] at hnone
    rw [hnone] at hfull
    simp at hfull
    omega
  · rw [if_neg hfull]
    have hle : (page key limit cursor l).length ≤ limit := List.length_take_le _ _
    exact ⟨rfl, fun _ a ha hahead => mem_page_of_short (by omega) ha hahead, by simp⟩

variable {τ : Type}

/-- A listing of the rows `l`: it accepts the good tokens, and the token it issues for a row is
    good and stands for the row's key. -/
def Answers (key : α → κ) (limit : Nat) (token : α → τ) (position : τ → κ) (good : τ → Prop)
    (l : List α) (list : τ → Option (List α × Option τ)) : Prop :=
  ∀ t, good t → ∃ items next, list t = some (items, next.map token) ∧
    Continues key limit (position t) l items next ∧
    ∀ z, next = some z → good (token z) ∧ position (token z) = key z

/-- Follow the tokens; the `i`-th request is answered by `lists i`. -/
def readPages (lists : Nat → τ → Option (List α × Option τ)) : Nat → Nat → τ → Option (List α)
  | 0, _, _ => none
  | fuel + 1, i, t =>
    match lists i t with
    | none => none
    | some (items, none) => some items
    | some (items, some next) => (readPages lists fuel (i + 1) next).map (items ++ ·)

section Walk

variable {token : α → τ} {position : τ → κ} {good : τ → Prop} {rows : Nat → List α}
  {lists : Nat → τ → Option (List α × Option τ)} {i : Nat} {t : τ}

/-- A walk ends if it ends from wherever its first page leads. -/
theorem readPages_ends_of_next (h : Answers key limit token position good (rows i) (lists i))
    (ht : good t)
    (hnext : ∀ z ∈ rows i, good (token z) → position (token z) = key z → position t < key z →
      ∃ fuel out, readPages lists fuel (i + 1) (token z) = some out) :
    ∃ fuel out, readPages lists fuel i t = some out := by
  obtain ⟨items, next, hlist, hcont, hgood⟩ := h t ht
  cases next with
  | none => exact ⟨1, items, by simp [readPages, hlist]⟩
  | some z =>
    have hmem := (hcont.next z rfl).1
    rw [hcont.items_eq] at hmem
    obtain ⟨fuel, out, hwalk⟩ :=
      hnext z (mem_page hmem).1 (hgood z rfl).1 (hgood z rfl).2 (mem_page hmem).2
    exact ⟨fuel + 1, items ++ out, by simp [readPages, hlist, hwalk]⟩

variable (h : ∀ i, Answers key limit token position good (rows i) (lists i))

include h

/-- One request of a walk that comes to its end. -/
theorem readPages_cases (ht : good t) (hwalk : readPages lists (fuel + 1) i t = some out) :
    (∃ items, Continues key limit (position t) (rows i) items none ∧ out = items) ∨
      ∃ items z rest, Continues key limit (position t) (rows i) items (some z) ∧
        good (token z) ∧ position (token z) = key z ∧
        readPages lists fuel (i + 1) (token z) = some rest ∧ out = items ++ rest := by
  obtain ⟨items, next, hlist, hcont, hnext⟩ := h i t ht
  simp only [readPages, hlist] at hwalk
  cases next with
  | none => exact .inl ⟨items, hcont, (Option.some.inj hwalk).symm⟩
  | some z =>
    obtain ⟨rest, hrest, rfl⟩ := Option.map_eq_some_iff.mp hwalk
    exact .inr ⟨items, z, rest, hcont, (hnext z rfl).1, (hnext z rfl).2, hrest, rfl⟩

/-- The keys of a walk grow strictly, from the position it starts at. -/
theorem readPages_strict (hnodup : ∀ i, ((rows i).map key).Nodup) (ht : good t)
    (hwalk : readPages lists fuel i t = some out) :
    out.Pairwise (fun a b => key a < key b) ∧ ∀ a ∈ out, position t < key a := by
  have hpage (i : Nat) (c : κ) : (page key limit c (rows i)).Pairwise (fun a b => key a < key b) :=
    strict_page (hnodup i).of_map (fun _ ha _ hb => List.inj_on_of_nodup_map (hnodup i) ha hb)
  induction fuel generalizing i t out with
  | zero => cases hwalk
  | succ fuel ih =>
    rcases readPages_cases h ht hwalk with ⟨items, hcont, rfl⟩ |
      ⟨items, z, rest, hcont, hz, hpos, hrest, rfl⟩
    · rw [hcont.items_eq]
      exact ⟨hpage _ _, fun a ha => (mem_page ha).2⟩
    · obtain ⟨hstrict, hafter⟩ := ih hz hrest
      obtain ⟨hmem, hmax⟩ := hcont.next z rfl
      have hfirst : ∀ a ∈ items, position t < key a := by
        rw [hcont.items_eq]
        exact fun a ha => (mem_page ha).2
      rw [hpos] at hafter
      refine ⟨List.pairwise_append.mpr ⟨hcont.items_eq ▸ hpage _ _, hstrict, ?_⟩, ?_⟩
      · intro a ha b hb
        exact lt_of_le_of_lt (hmax a ha) (hafter b hb)
      · intro a ha
        rcases List.mem_append.mp ha with ha | ha
        · exact hfirst a ha
        · exact (hfirst z hmem).trans (hafter a ha)

/-- Only rows of the tables are visited. -/
theorem readPages_sound (ht : good t) (hwalk : readPages lists fuel i t = some out) :
    ∀ a ∈ out, ∃ j, a ∈ rows j := by
  induction fuel generalizing i t out with
  | zero => cases hwalk
  | succ fuel ih =>
    have hitems {items : List α} {next : Option α}
        (hcont : Continues key limit (position t) (rows i) items next) : ∀ a ∈ items, a ∈ rows i := by
      rw [hcont.items_eq]
      exact fun a ha => (mem_page ha).1
    intro a ha
    rcases readPages_cases h ht hwalk with ⟨items, hcont, rfl⟩ |
      ⟨items, z, rest, hcont, hz, -, hrest, rfl⟩
    · exact ⟨i, hitems hcont a ha⟩
    · rcases List.mem_append.mp ha with ha | ha
      · exact ⟨i, hitems hcont a ha⟩
      · exact ih hz hrest a ha

/-- A key that stays in the table, ahead of the start, is visited. -/
theorem readPages_complete (ht : good t) (hwalk : readPages lists fuel i t = some out)
    {k : κ} (hstays : ∀ j, k ∈ (rows j).map key) (hahead : position t < k) : k ∈ out.map key := by
  induction fuel generalizing i t out with
  | zero => cases hwalk
  | succ fuel ih =>
    obtain ⟨a, ha, rfl⟩ := List.mem_map.mp (hstays i)
    rcases readPages_cases h ht hwalk with ⟨items, hcont, rfl⟩ |
      ⟨items, z, rest, hcont, hz, hpos, hrest, rfl⟩
    · exact List.mem_map_of_mem (hcont.last rfl a ha hahead)
    · rw [List.map_append]
      -- the row is on this page, or ahead of its last row
      by_cases hpassed : key z < key a
      · exact List.mem_append_right _ (ih hz hrest (hpos ▸ hpassed))
      · refine List.mem_append_left _ ?_
        obtain ⟨hmem, hmax⟩ := hcont.next z rfl
        have hcomplete : a ∈ page key limit (position t) (rows i) ∨ _ := page_complete ha hahead
        rw [← hcont.items_eq] at hcomplete
        rcases hcomplete with hon | hbehind
        · exact List.mem_map_of_mem hon
        · have hsame : key a = key z := le_antisymm (not_lt.mp hpassed) (hbehind z hmem)
          exact List.mem_map.mpr ⟨z, hmem, hsame.symm⟩

/-- Once the table is left alone, a walk comes to its end. -/
theorem readPages_ends {n : Nat} (hquiet : ∀ j, n ≤ j → rows j = rows n) (ht : good t) :
    ∃ fuel out, readPages lists fuel i t = some out := by
  induction hleft : n - i generalizing i t with
  | succ left ih =>
    refine readPages_ends_of_next (h i) ht ?_
    intro z _ hz _ _
    exact ih hz (by omega)
  | zero =>
    -- nothing changes any more: each page leaves fewer rows ahead
    induction hm : ((rows n).filter (fun a => position t < key a)).length using
      Nat.strong_induction_on generalizing i t with
    | _ m ih =>
      refine readPages_ends_of_next (h i) ht ?_
      intro z hmem hz hpos hahead
      rw [hquiet i (by omega)] at hmem
      refine ih _ ?_ hz (by omega) rfl
      rw [← hm, hpos]
      have hsub : ((rows n).filter (fun a => key z < key a)).Sublist
          ((rows n).filter (fun a => position t < key a)) := by
        apply List.monotone_filter_right
        intro a ha
        simp only [decide_eq_true_eq] at ha ⊢
        exact hahead.trans ha
      refine lt_of_le_of_ne hsub.length_le ?_
      intro heq
      have hin : z ∈ (rows n).filter (fun a => position t < key a) := by
        simp [hmem, hahead]
      rw [← hsub.eq_of_length heq] at hin
      simp at hin

omit h in
/-- Over a table that does not change, a walk visits what lies ahead, in order. -/
theorem readPages_quiet {l : List α} (h : ∀ i, Answers key limit token position good l (lists i))
    (hnodup : (l.map key).Nodup) (ht : good t)
    (hwalk : readPages lists fuel i t = some out) :
    out = (l.filter (fun a => position t < key a)).insertionSort (fun a b => key a ≤ key b) := by
  obtain ⟨hstrict, hafter⟩ := readPages_strict h (fun _ => hnodup) ht hwalk
  have hinj : ∀ a ∈ l, ∀ b ∈ l, key a = key b → a = b := fun _ ha _ hb =>
    List.inj_on_of_nodup_map hnodup ha hb
  have hmem (a : α) : a ∈ out ↔
      a ∈ (l.filter (fun a => position t < key a)).insertionSort (fun a b => key a ≤ key b) := by
    rw [List.mem_insertionSort, List.mem_filter, decide_eq_true_eq]
    constructor
    · intro ha
      obtain ⟨-, hin⟩ := readPages_sound h ht hwalk a ha
      exact ⟨hin, hafter a ha⟩
    · intro ha
      obtain ⟨b, hb, hkey⟩ := List.mem_map.mp
        (readPages_complete h ht hwalk (fun _ => List.mem_map_of_mem ha.1) ha.2)
      obtain ⟨-, hin⟩ := readPages_sound h ht hwalk b hb
      rwa [← hinj b hin a ha.1 hkey]
  have hnodup' : ((l.filter (fun a => position t < key a)).insertionSort
      (fun a b => key a ≤ key b)).Nodup :=
    (List.perm_insertionSort _ _).nodup_iff.mpr (hnodup.of_map.filter _)
  have hperm := (List.perm_ext_iff_of_nodup (hstrict.imp (fun hlt heq => by
    rw [heq] at hlt
    exact lt_irrefl _ hlt)) hnodup').mpr hmem
  refine hperm.eq_of_pairwise ?_ (hstrict.imp le_of_lt) (pairwise_orderBy key _)
  intro a b ha hb hab hba
  have hin (c : α) (hc : c ∈ out) : c ∈ l := (readPages_sound h ht hwalk c hc).choose_spec
  exact hinj a (hin a ha) b (hin b (hperm.mem_iff.mpr hb)) (le_antisymm hab hba)

end Walk

end FlowAI
