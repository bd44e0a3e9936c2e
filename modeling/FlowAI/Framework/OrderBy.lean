import Mathlib.Data.List.Sort
import Mathlib.Order.Lattice

/-! # Ordering Rows by a Key

  `ORDER BY` is insertion sort by a key in a linear order: rows with equal keys
  stay in the order of the table.
-/

namespace FlowAI

variable {α β κ : Type} [LinearOrder κ] {key : α → κ} {l l' : List α}

theorem pairwise_orderBy (key : α → κ) (l : List α) :
    (l.insertionSort (fun a b => key a ≤ key b)).Pairwise (fun a b => key a ≤ key b) := by
  have : Std.Total (fun a b : α => key a ≤ key b) := ⟨fun a b => le_total (key a) (key b)⟩
  have : IsTrans α (fun a b => key a ≤ key b) := ⟨fun _ _ _ => le_trans⟩
  exact List.pairwise_insertionSort _ l

theorem orderBy_eq_self_iff (key : α → κ) :
    l.insertionSort (fun a b => key a ≤ key b) = l ↔ l.Pairwise (fun a b => key a ≤ key b) := by
  constructor
  · intro h
    have hsorted := pairwise_orderBy key l
    rw [h] at hsorted
    exact hsorted
  · exact List.Pairwise.insertionSort_eq

/-- The first row of a descending order is a greatest one. -/
theorem head?_orderByDesc {m : α}
    (h : (l.insertionSort (fun a b => key b ≤ key a)).head? = some m) :
    m ∈ l ∧ ∀ a ∈ l, key a ≤ key m := by
  have hsorted : (l.insertionSort (fun a b => key b ≤ key a)).Pairwise
      (fun a b => key b ≤ key a) := by
    have : Std.Total (fun a b : α => key b ≤ key a) := ⟨fun a b => le_total (key b) (key a)⟩
    have : IsTrans α (fun a b => key b ≤ key a) := ⟨fun _ _ _ hab hbc => le_trans hbc hab⟩
    exact List.pairwise_insertionSort _ l
  obtain ⟨rest, hrest⟩ := List.head?_eq_some_iff.mp h
  rw [hrest, List.pairwise_cons] at hsorted
  have hmem : ∀ a, a ∈ l ↔ a = m ∨ a ∈ rest := by
    intro a
    rw [← List.mem_insertionSort (fun a b => key b ≤ key a), hrest, List.mem_cons]
  refine ⟨(hmem m).mpr (.inl rfl), ?_⟩
  intro a ha
  rcases (hmem a).mp ha with rfl | ha
  · exact le_rfl
  · exact hsorted.1 a ha

theorem head?_orderByDesc_eq_none :
    (l.insertionSort (fun a b => key b ≤ key a)).head? = none ↔ l = [] := by
  rw [List.head?_eq_none_iff, ← List.length_eq_zero_iff, List.length_insertionSort,
    List.length_eq_zero_iff]

/-- The first row of a descending order is the greatest one, if the key separates the rows. -/
theorem head?_orderByDesc_eq_some {m : α} (hinj : ∀ a ∈ l, ∀ b ∈ l, key a = key b → a = b) :
    (l.insertionSort (fun a b => key b ≤ key a)).head? = some m ↔
      m ∈ l ∧ ∀ a ∈ l, key a ≤ key m := by
  refine ⟨head?_orderByDesc, ?_⟩
  rintro ⟨hm, hmax⟩
  cases h : (l.insertionSort (fun a b => key b ≤ key a)).head? with
  | none =>
    rw [head?_orderByDesc_eq_none.mp h] at hm
    cases hm
  | some a =>
    obtain ⟨ha, hamax⟩ := head?_orderByDesc h
    rw [hinj a ha m hm (le_antisymm (hmax a ha) (hamax m hm))]

/-- Lists with the same images are equal when the function separates their members. -/
theorem eq_of_map_eq {f : α → β} (hinj : ∀ a ∈ l, ∀ b ∈ l', f a = f b → a = b)
    (h : l.map f = l'.map f) : l = l' := by
  induction l generalizing l' with
  | nil =>
    cases l' with
    | nil => rfl
    | cons b l' => cases h
  | cons a l ih =>
    cases l' with
    | nil => cases h
    | cons b l' =>
      obtain ⟨hab, hrest⟩ := List.cons_eq_cons.mp h
      rw [hinj a List.mem_cons_self b List.mem_cons_self hab]
      congr 1
      exact ih (fun x hx y hy => hinj x (List.mem_cons_of_mem _ hx) y (List.mem_cons_of_mem _ hy))
        hrest

end FlowAI
