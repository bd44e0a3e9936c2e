import Mathlib.Data.List.Induction

/-! # Replaying an Event Log

  A projection is kept next to an append-only log of events.  `replay next s es`
  runs the events through the partial transition function `next`; it is defined
  exactly on the logs the transition function allows.
-/

namespace FlowAI

variable {σ ε : Type}

/-- The state after a log, if every event of it was allowed. -/
def replay (next : σ → ε → Option σ) : σ → List ε → Option σ
  | s, [] => some s
  | s, e :: es => (next s e).bind (fun s' => replay next s' es)

variable {next : σ → ε → Option σ} {s : σ}

theorem replay_append (es es' : List ε) :
    replay next s (es ++ es') = (replay next s es).bind (fun s' => replay next s' es') := by
  induction es generalizing s with
  | nil => rfl
  | cons e es ih =>
    simp only [List.cons_append, replay, ih]
    cases next s e <;> rfl

theorem replay_snoc (es : List ε) (e : ε) :
    replay next s (es ++ [e]) = (replay next s es).bind (fun s' => next s' e) := by
  rw [replay_append]
  congr 1
  funext s'
  simp [replay]

/-- Rule for facts about all allowed logs: they grow by allowed transitions. -/
theorem replay_induct {P : List ε → σ → Prop} (hnil : P [] s)
    (hsnoc : ∀ es s' e s'', P es s' → next s' e = some s'' → P (es ++ [e]) s'') :
    ∀ {es s'}, replay next s es = some s' → P es s' := by
  intro es
  induction es using List.reverseRecOn with
  | nil =>
    intro s' h
    cases h
    exact hnil
  | append_singleton es e ih =>
    intro s'' h
    rw [replay_snoc] at h
    obtain ⟨s', hes, hnext⟩ := Option.bind_eq_some_iff.mp h
    exact hsnoc es s' e s'' (ih hes) hnext

end FlowAI
