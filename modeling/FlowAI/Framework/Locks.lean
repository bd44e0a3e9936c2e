import FlowAI.Framework.System
import Mathlib.Logic.Function.Basic
import Mathlib.Logic.Relation

/-! # Locks

  Sessions hold locks on resources in one of two modes, the weaker of which is
  compatible with itself.  A lock is granted when no other session holds a
  conflicting one, so the locks held at any time are pairwise compatible
  (`Compatible.update`).

  The lock manager runs transactions that ask for the locks of a plan one after
  the other and release them all at their end.  A session waits for another when
  the lock it asks for conflicts with one the other holds; a deadlock is a cycle
  of waits.  If along every two waits in a row the rank grows, there is none
  (`not_deadlocked_of_rank`).
-/

namespace FlowAI

/-! ### Modes -/

/-- `FOR KEY SHARE`, as foreign keys take it, and `FOR UPDATE`.  An advisory lock is
    taken like the latter. -/
inductive LockMode where
  | keyShare | update
  deriving DecidableEq, Repr

/-- A lock on a resource. -/
structure Lock (ρ : Type) where
  resource : ρ
  mode : LockMode
  deriving DecidableEq, Repr

variable {ρ ι : Type}

/-- Two locks that different sessions cannot hold at once. -/
def Lock.Conflicts (a b : Lock ρ) : Prop :=
  a.resource = b.resource ∧ (a.mode = .update ∨ b.mode = .update)

instance [DecidableEq ρ] (a b : Lock ρ) : Decidable (a.Conflicts b) :=
  inferInstanceAs (Decidable (_ ∧ _))

theorem Lock.Conflicts.symm {a b : Lock ρ} (h : a.Conflicts b) : b.Conflicts a :=
  ⟨h.1.symm, h.2.symm⟩

/-! ### Granting -/

/-- No other session holds a lock that conflicts with `l`. -/
def Grants (holds : ι → List (Lock ρ)) (i : ι) (l : Lock ρ) : Prop :=
  ∀ j, j ≠ i → ∀ l' ∈ holds j, ¬ l.Conflicts l'

instance {n : Nat} [DecidableEq ρ] (holds : Fin n → List (Lock ρ)) (i : Fin n) (l : Lock ρ) :
    Decidable (Grants holds i l) :=
  inferInstanceAs (Decidable (∀ _, _ → _))

/-- Locks of different sessions do not conflict. -/
def Compatible (holds : ι → List (Lock ρ)) : Prop :=
  ∀ i j, i ≠ j → ∀ l ∈ holds i, ∀ l' ∈ holds j, ¬ l.Conflicts l'

theorem compatible_nil : Compatible (fun _ : ι => ([] : List (Lock ρ))) := by
  intro i j _ l hl
  cases hl

/-- The step rule of a lock manager: one session changes its locks, and each of its new
    ones was held before or granted. -/
theorem Compatible.update [DecidableEq ι] {holds : ι → List (Lock ρ)} {i : ι} {ls : List (Lock ρ)}
    (h : Compatible holds) (hnew : ∀ l ∈ ls, l ∈ holds i ∨ Grants holds i l) :
    Compatible (Function.update holds i ls) := by
  have hside : ∀ j, j ≠ i → ∀ l ∈ ls, ∀ l' ∈ holds j, ¬ l.Conflicts l' := by
    intro j hj l hl l' hl'
    rcases hnew l hl with hold | hgrant
    · exact h i j (Ne.symm hj) l hold l' hl'
    · exact hgrant j hj l' hl'
  intro a b hab l hl l' hl'
  by_cases ha : a = i
  · subst ha
    rw [Function.update_self] at hl
    rw [Function.update_of_ne (Ne.symm hab)] at hl'
    exact hside b (Ne.symm hab) l hl l' hl'
  · rw [Function.update_of_ne ha] at hl
    by_cases hb : b = i
    · subst hb
      rw [Function.update_self] at hl'
      exact fun hc => hside a hab l' hl' l hl hc.symm
    · rw [Function.update_of_ne hb] at hl'
      exact h a b hab l hl l' hl'

/-- An update lock excludes every other session from the resource. -/
theorem Compatible.excludes {holds : ι → List (Lock ρ)} (h : Compatible holds) {i j : ι} {r : ρ}
    (hi : ⟨r, .update⟩ ∈ holds i) (hj : ⟨r, .update⟩ ∈ holds j) : i = j := by
  by_contra hne
  exact h i j hne _ hi _ hj ⟨rfl, .inl rfl⟩

/-! ### The lock manager -/

/-- A transaction that has acquired `held` and will ask for `todo`. -/
structure LockSession (α ρ : Type) where
  txn : α
  held : List (Lock ρ)
  todo : List (Lock ρ)

/-- What each of `n` sessions does; `none` is idle. -/
abbrev LockState (α ρ : Type) (n : Nat) := Fin n → Option (LockSession α ρ)

namespace LockState

variable {α : Type} {n : Nat}

def empty : LockState α ρ n := fun _ => none

/-- The locks of a session. -/
def holds (s : LockState α ρ n) (i : Fin n) : List (Lock ρ) :=
  match s i with
  | some x => x.held
  | none => []

inductive Label (α : Type) (n : Nat) where
  | start (i : Fin n) (txn : α)
  | acquire (i : Fin n)
  | finish (i : Fin n)

/-- One step of a session.  It may finish at any time: a transaction that is refused
    gives up the rest of its plan. -/
def next [DecidableEq ρ] (plan : α → List (Lock ρ)) (s : LockState α ρ n) :
    Label α n → Option (LockState α ρ n)
  | .start i txn =>
    match s i with
    | none => some (Function.update s i (some ⟨txn, [], plan txn⟩))
    | some _ => none
  | .acquire i =>
    match s i with
    | some ⟨txn, held, l :: todo⟩ =>
      if Grants s.holds i l then some (Function.update s i (some ⟨txn, held ++ [l], todo⟩))
      else none
    | _ => none
  | .finish i =>
    match s i with
    | some _ => some (Function.update s i none)
    | none => none

/-- Take the labels one after the other. -/
def run [DecidableEq ρ] (plan : α → List (Lock ρ)) (s : LockState α ρ n) :
    List (Label α n) → Option (LockState α ρ n)
  | [] => some s
  | l :: ls => (s.next plan l).bind (fun s' => run plan s' ls)

/-- `i` asks for a lock that conflicts with one `j` holds. -/
def Waits (s : LockState α ρ n) (i j : Fin n) : Prop :=
  i ≠ j ∧ ∃ x, s i = some x ∧ ∃ l, x.todo.head? = some l ∧ ∃ l' ∈ s.holds j, l.Conflicts l'

instance [DecidableEq ρ] (s : LockState α ρ n) (i j : Fin n) : Decidable (s.Waits i j) :=
  inferInstanceAs (Decidable (_ ∧ ∃ x, s i = some x ∧ _))

/-- A cycle of sessions each of which waits for the next. -/
def Deadlocked (s : LockState α ρ n) : Prop := ∃ i, Relation.TransGen s.Waits i i

/-! ### Waits -/

variable {plan : α → List (Lock ρ)} {s s' : LockState α ρ n}

theorem holds_update (s : LockState α ρ n) (i : Fin n) (x : Option (LockSession α ρ)) :
    LockState.holds (Function.update s i x) =
      Function.update s.holds i (match x with | some x => x.held | none => []) := by
  funext j
  by_cases hj : j = i
  · subst hj
    simp [holds]
  · simp [holds, hj]

/-- The inversion of a wait. -/
theorem Waits.elim {i j : Fin n} (h : s.Waits i j) :
    i ≠ j ∧ ∃ x y l todo l', s i = some x ∧ s j = some y ∧ x.todo = l :: todo ∧ l' ∈ y.held ∧
      l.Conflicts l' := by
  obtain ⟨hne, x, hx, l, hl, l', hl', hconf⟩ := h
  cases hy : s j with
  | none =>
    simp only [holds, hy] at hl'
    cases hl'
  | some y =>
    simp only [holds, hy] at hl'
    obtain ⟨todo, htodo⟩ := List.head?_eq_some_iff.mp hl
    exact ⟨hne, x, y, l, todo, l', hx, rfl, htodo, hl', hconf⟩

/-- The rank rule: if every wait in front of another wait has the smaller rank, no cycle
    of waits exists. -/
theorem not_deadlocked_of_rank (rank : Fin n → Nat)
    (h : ∀ i j k, s.Waits i j → s.Waits j k → rank i < rank j) : ¬ s.Deadlocked := by
  -- along a chain of waits that goes on, the rank has grown
  have hchain : ∀ i j, Relation.TransGen s.Waits i j → ∀ k, s.Waits j k → rank i < rank j := by
    intro i j hij
    induction hij with
    | single hij => exact fun k hjk => h _ _ _ hij hjk
    | tail _ hbc ih => exact fun k hck => Nat.lt_trans (ih _ hbc) (h _ _ _ hbc hck)
  rintro ⟨i, hcycle⟩
  obtain ⟨j, hij, -⟩ := Relation.TransGen.head'_iff.mp hcycle
  exact Nat.lt_irrefl _ (hchain i i hcycle j hij)

end LockState

/-! ### Runs of the manager -/

/-- The lock manager over the plans of its transactions. -/
def lockManager {α : Type} [DecidableEq ρ] (plan : α → List (Lock ρ)) (n : Nat) :
    System (LockState α ρ n) (LockState.Label α n) where
  init s := s = LockState.empty
  step s l s' := s.next plan l = some s'

namespace LockState

variable {α : Type} {n : Nat} {plan : α → List (Lock ρ)} {s s' : LockState α ρ n}

/-- What the locks and plans of a state satisfy. -/
structure Sound (plan : α → List (Lock ρ)) (s : LockState α ρ n) : Prop where
  compatible : Compatible s.holds
  follows : ∀ i x, s i = some x → x.held ++ x.todo = plan x.txn

theorem sound_empty : (LockState.empty : LockState α ρ n).Sound plan := by
  refine ⟨compatible_nil, ?_⟩
  intro i x hx
  cases hx

variable [DecidableEq ρ]

theorem run_reachable {ls : List (Label α n)} (hr : (lockManager plan n).Reachable s)
    (h : s.run plan ls = some s') : (lockManager plan n).Reachable s' := by
  induction ls generalizing s with
  | nil =>
    cases h
    exact hr
  | cons l ls ih =>
    obtain ⟨s₁, hstep, hrest⟩ := Option.bind_eq_some_iff.mp h
    exact ih (.step l hr hstep) hrest

/-- What a step does: a session starts, acquires a lock it was granted, or ends. -/
theorem next_cases {l : Label α n} (h : s.next plan l = some s') :
    (∃ i txn, l = .start i txn ∧ s i = none ∧
        s' = Function.update s i (some ⟨txn, [], plan txn⟩)) ∨
      (∃ i txn held lock todo, l = .acquire i ∧ s i = some ⟨txn, held, lock :: todo⟩ ∧
        Grants s.holds i lock ∧ s' = Function.update s i (some ⟨txn, held ++ [lock], todo⟩)) ∨
      ∃ i x, l = .finish i ∧ s i = some x ∧ s' = Function.update s i none := by
  cases l with
  | start i txn =>
    simp only [next] at h
    split at h
    · rename_i hidle
      exact .inl ⟨i, txn, rfl, hidle, (Option.some.inj h).symm⟩
    · cases h
  | acquire i =>
    simp only [next] at h
    split at h
    · rename_i txn held lock todo hrun
      split at h
      · rename_i hgrant
        exact .inr (.inl ⟨i, txn, held, lock, todo, rfl, hrun, hgrant, (Option.some.inj h).symm⟩)
      · cases h
    · cases h
  | finish i =>
    simp only [next] at h
    split at h
    · rename_i x hrun
      exact .inr (.inr ⟨i, x, rfl, hrun, (Option.some.inj h).symm⟩)
    · cases h

/-- Step lemma. -/
theorem Sound.next {l : Label α n} (h : s.Sound plan) (hstep : s.next plan l = some s') :
    s'.Sound plan := by
  have hother : ∀ {i : Fin n} {x : Option (LockSession α ρ)},
      (∀ y, x = some y → y.held ++ y.todo = plan y.txn) →
      ∀ j y, Function.update s i x j = some y → y.held ++ y.todo = plan y.txn := by
    intro i x hx j y hy
    by_cases hj : j = i
    · subst hj
      rw [Function.update_self] at hy
      exact hx y hy
    · rw [Function.update_of_ne hj] at hy
      exact h.follows j y hy
  rcases next_cases hstep with ⟨i, txn, -, -, rfl⟩ | ⟨i, txn, held, lock, todo, -, hrun, hgrant, rfl⟩ |
    ⟨i, x, -, -, rfl⟩
  · refine ⟨?_, hother ?_⟩
    · rw [holds_update]
      exact h.compatible.update (fun l hl => by cases hl)
    · intro y hy
      obtain rfl := Option.some.inj hy
      rfl
  · refine ⟨?_, hother ?_⟩
    · rw [holds_update]
      refine h.compatible.update ?_
      intro l hl
      rcases List.mem_append.mp hl with hl | hl
      · left
        simp only [holds, hrun]
        exact hl
      · right
        rw [List.mem_singleton.mp hl]
        exact hgrant
    · intro y hy
      obtain rfl := Option.some.inj hy
      have hplan := h.follows i _ hrun
      simpa using hplan
  · refine ⟨?_, hother ?_⟩
    · rw [holds_update]
      exact h.compatible.update (fun l hl => by cases hl)
    · intro y hy
      cases hy

end LockState

end FlowAI
