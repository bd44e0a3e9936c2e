import FlowAI.Framework.OrderBy

/-! # The Last Contribution Wins

  A loop that overwrites what it read before ends with the contribution of the last
  element that has one.  Over a list in order of a key that is an element with the greatest
  key; elements with equal keys may stand in any order, and each of them may be the last.
-/

namespace FlowAI

variable {α β σ κ : Type} {f : α → Option β} {l : List α} {a : α} {b : β}

/-- What the last element with a contribution contributes. -/
def lastSome (f : α → Option β) : List α → Option β
  | [] => none
  | a :: l => (lastSome f l).or (f a)

theorem lastSome_eq_none_iff : lastSome f l = none ↔ ∀ a ∈ l, f a = none := by
  induction l with
  | nil => simp [lastSome]
  | cons a l ih =>
    rw [lastSome, Option.or_eq_none_iff, ih, List.forall_mem_cons]
    exact and_comm

/-- Nothing behind the element that wins contributes. -/
theorem exists_of_lastSome (h : lastSome f l = some b) : ∃ before a after,
    l = before ++ a :: after ∧ f a = some b ∧ ∀ x ∈ after, f x = none := by
  induction l with
  | nil => cases h
  | cons a l ih =>
    rw [lastSome] at h
    cases hl : lastSome f l with
    | some c =>
      rw [hl, Option.some_or] at h
      obtain ⟨before, a', after, rfl, ha', hafter⟩ := ih (hl.trans h)
      exact ⟨a :: before, a', after, rfl, ha', hafter⟩
    | none =>
      rw [hl, Option.none_or] at h
      exact ⟨[], a, l, rfl, h, lastSome_eq_none_iff.mp hl⟩

theorem mem_of_lastSome (h : lastSome f l = some b) : ∃ a ∈ l, f a = some b := by
  obtain ⟨before, a, after, rfl, ha, -⟩ := exists_of_lastSome h
  exact ⟨a, by simp, ha⟩

theorem lastSome_of_last {before after : List α} (ha : f a = some b)
    (hafter : ∀ x ∈ after, f x = none) : lastSome f (before ++ a :: after) = some b := by
  induction before with
  | nil => rw [List.nil_append, lastSome, lastSome_eq_none_iff.mpr hafter, Option.none_or, ha]
  | cons x before ih => rw [List.cons_append, lastSome, ih, Option.some_or]

/-- Contributions that all agree: any of them is the last. -/
theorem lastSome_of_agree (ha : a ∈ l) (hb : f a = some b)
    (hagree : ∀ x ∈ l, ∀ c, f x = some c → c = b) : lastSome f l = some b := by
  cases h : lastSome f l with
  | none => rw [lastSome_eq_none_iff.mp h a ha] at hb; cases hb
  | some c =>
    obtain ⟨x, hx, hc⟩ := mem_of_lastSome h
    rw [hagree x hx c hc]

/-- Reading the state of a loop whose every step overwrites what it contributes to. -/
theorem read_foldl (read : σ → Option β) {step : σ → α → σ}
    (hstep : ∀ s a, read (step s a) = (f a).or (read s)) (l : List α) (s : σ) :
    read (l.foldl step s) = (lastSome f l).or (read s) := by
  induction l generalizing s with
  | nil => rfl
  | cons a l ih => rw [List.foldl_cons, ih, hstep, lastSome, Option.or_assoc]

section

variable [LinearOrder κ] {key : α → κ}

/-- In an ordered list the winner has the greatest key of all that contribute. -/
theorem exists_greatest_of_lastSome (hsorted : l.Pairwise (fun x y => key x ≤ key y))
    (h : lastSome f l = some b) :
    ∃ a ∈ l, f a = some b ∧ ∀ x ∈ l, f x ≠ none → key x ≤ key a := by
  obtain ⟨before, a, after, rfl, ha, hafter⟩ := exists_of_lastSome h
  refine ⟨a, by simp, ha, ?_⟩
  intro x hx hcontributes
  rcases List.mem_append.mp hx with hx | hx
  · exact (List.pairwise_append.mp hsorted).2.2 x hx a List.mem_cons_self
  · rcases List.mem_cons.mp hx with rfl | hx
    · exact le_refl _
    · exact absurd (hafter x hx) hcontributes

/-- An element wins, if all others that contribute have smaller keys. -/
theorem lastSome_of_greatest (hsorted : l.Pairwise (fun x y => key x ≤ key y)) (ha : a ∈ l)
    (hb : f a = some b) (hothers : ∀ x ∈ l, f x ≠ none → x = a ∨ key x < key a) :
    lastSome f l = some b := by
  cases h : lastSome f l with
  | none => rw [lastSome_eq_none_iff.mp h a ha] at hb; cases hb
  | some c =>
    obtain ⟨x, hx, hc, hmax⟩ := exists_greatest_of_lastSome hsorted h
    have hle := hmax a ha (by rw [hb]; exact Option.some_ne_none b)
    rcases hothers x hx (by rw [hc]; exact Option.some_ne_none c) with rfl | hlt
    · rw [← hc, hb]
    · exact absurd hle (not_le.mpr hlt)

/-- Any element may be the last of those with its key. -/
theorem exists_ordered_last (key : α → κ) (ha : a ∈ l) : ∃ before after,
    (before ++ a :: after).Perm l ∧
      (before ++ a :: after).Pairwise (fun x y => key x ≤ key y) ∧
      ∀ x ∈ after, key a < key x := by
  obtain ⟨front, back, rfl⟩ := List.append_of_mem ha
  -- the others in order, cut behind the last that has at most the key of `a`
  let others := (front ++ back).insertionSort (fun x y => key x ≤ key y)
  have hperm : others.Perm (front ++ back) := List.perm_insertionSort _ _
  have hordered : others.Pairwise (fun x y => key x ≤ key y) := pairwise_orderBy key _
  have hlow : ∀ x ∈ others.filter (fun x => key x ≤ key a), key x ≤ key a :=
    fun x hx => of_decide_eq_true (List.mem_filter.mp hx).2
  have hhigh : ∀ x ∈ others.filter (fun x => !decide (key x ≤ key a)), key a < key x := by
    intro x hx
    have hnot := (List.mem_filter.mp hx).2
    simp only [Bool.not_eq_true', decide_eq_false_iff_not] at hnot
    exact not_le.mp hnot
  refine ⟨others.filter (fun x => key x ≤ key a), others.filter (fun x => !decide (key x ≤ key a)),
    ?_, ?_, hhigh⟩
  · have hcut := List.filter_append_perm (fun x => decide (key x ≤ key a)) others
    exact List.perm_middle.trans (((hcut.trans hperm).cons a).trans List.perm_middle.symm)
  · refine List.pairwise_append.mpr ⟨hordered.filter _, List.pairwise_cons.mpr
      ⟨fun x hx => (hhigh x hx).le, hordered.filter _⟩, ?_⟩
    intro x hx y hy
    rcases List.mem_cons.mp hy with rfl | hy
    · exact hlow x hx
    · exact (hlow x hx).trans (hhigh y hy).le

end

end FlowAI
