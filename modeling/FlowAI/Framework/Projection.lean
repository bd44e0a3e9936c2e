import FlowAI.Framework.Replay
import FlowAI.Framework.Table

/-! # Event Logs with a Projected State

  Entities carry a state column; an append-only table holds their events.  In
  `Projects` the state of every entity is what its events replay to, and every
  event belongs to an entity.  The rules below say which statements keep it: a
  new entity without events, a new entity with its first event, and an event
  together with the matching update.
-/

namespace FlowAI

variable {ρ κ ε κ' τ σ : Type} [DecidableEq κ] {S : Schema ρ κ} {E : Schema ε κ'}

/-- The events of one entity, in the order they were written. -/
def eventsOf (ref : ε → κ) (events : Table E) (k : κ) : List ε :=
  events.rows.filter (fun e => ref e = k)

/-- States are what the logs replay to, and logs belong to entities. -/
structure Projects (next : σ → τ → Option σ) (s₀ : σ) (ref : ε → κ) (kind : ε → τ)
    (state : ρ → σ) (entities : Table S) (events : Table E) : Prop where
  replayed : ∀ k r, entities.lookup k = some r →
    replay next s₀ ((eventsOf ref events k).map kind) = some (state r)
  referenced : ∀ e ∈ events.rows, (entities.lookup (ref e)).isSome = true

variable {next : σ → τ → Option σ} {s₀ : σ} {ref : ε → κ} {kind : ε → τ} {state : ρ → σ}
  {entities entities' : Table S} {events events' : Table E}

variable {e : ε} {r : ρ}

theorem eventsOf_insert [DecidableEq κ'] (h : events.insert e = .ok events') (k : κ) :
    eventsOf ref events' k = eventsOf ref events k ++ (if ref e = k then [e] else []) := by
  rw [eventsOf, Table.rows_insert h, List.filter_append]
  by_cases hk : ref e = k <;> simp [hk, eventsOf]

theorem mem_eventsOf {k : κ} : e ∈ eventsOf ref events k ↔ e ∈ events.rows ∧ ref e = k := by
  simp [eventsOf]

namespace Projects

theorem empty : Projects next s₀ ref kind state (Table.empty : Table S) (Table.empty : Table E) := by
  constructor
  · intro k r hr
    cases hr
  · intro e he
    cases he

variable (h : Projects next s₀ ref kind state entities events)
include h

/-- No event belongs to an entity that does not exist. -/
theorem eventsOf_eq_nil {k : κ} (hk : entities.lookup k = none) : eventsOf ref events k = [] := by
  rw [eventsOf, List.filter_eq_nil_iff]
  intro e he hke
  have hsome := h.referenced e he
  rw [of_decide_eq_true hke, hk] at hsome
  cases hsome

/-- A new entity in the initial state needs no event. -/
theorem insert (hins : entities.insert r = .ok entities') (hstate : state r = s₀) :
    Projects next s₀ ref kind state entities' events := by
  have hfresh := (Table.insert_eq_ok_iff.mp hins).2.1
  constructor
  · intro k r' hr'
    rw [Table.lookup_insert hins] at hr'
    by_cases hk : S.key r = k
    · subst hk
      rw [if_pos rfl] at hr'
      cases hr'
      rw [h.eventsOf_eq_nil hfresh, hstate]
      rfl
    · rw [if_neg hk] at hr'
      exact h.replayed k r' hr'
  · intro e he
    obtain ⟨r', hr'⟩ := Option.isSome_iff_exists.mp (h.referenced e he)
    rw [Table.lookup_insert_of_some hins hr']
    rfl

variable [DecidableEq κ']

/-- A new entity together with its first event. -/
theorem insertWith (hins : entities.insert r = .ok entities')
    (hevent : events.insert e = .ok events') (href : ref e = S.key r)
    (hnext : next s₀ (kind e) = some (state r)) :
    Projects next s₀ ref kind state entities' events' := by
  have hfresh := (Table.insert_eq_ok_iff.mp hins).2.1
  constructor
  · intro k r' hr'
    rw [Table.lookup_insert hins] at hr'
    rw [eventsOf_insert hevent, href]
    by_cases hk : S.key r = k
    · subst hk
      rw [if_pos rfl] at hr'
      cases hr'
      rw [h.eventsOf_eq_nil hfresh, if_pos rfl]
      simp [replay, hnext]
    · rw [if_neg hk] at hr'
      rw [if_neg hk, List.append_nil]
      exact h.replayed k r' hr'
  · intro e' he'
    rw [Table.rows_insert hevent] at he'
    rcases List.mem_append.mp he' with he' | he'
    · obtain ⟨r', hr'⟩ := Option.isSome_iff_exists.mp (h.referenced e' he')
      rw [Table.lookup_insert_of_some hins hr']
      rfl
    · rw [List.mem_singleton.mp he', href, Table.lookup_insert hins, if_pos rfl]
      rfl

theorem extend {f : ρ → ρ} {hf : ∀ r, S.key (f r) = S.key r}
    (hfound : entities.lookup (ref e) = some r)
    (hupd : entities.update (ref e) f hf = .ok entities') (hevent : events.insert e = .ok events')
    (hnext : next (state r) (kind e) = some (state (f r))) :
    Projects next s₀ ref kind state entities' events' := by
  constructor
  · intro k r' hr'
    rw [Table.lookup_update hupd] at hr'
    rw [eventsOf_insert hevent]
    by_cases hk : k = ref e
    · subst hk
      rw [if_pos rfl, hfound] at hr'
      cases hr'
      rw [if_pos rfl, List.map_append, List.map_singleton, replay_snoc, h.replayed _ r hfound]
      exact hnext
    · rw [if_neg hk] at hr'
      rw [if_neg (Ne.symm hk), List.append_nil]
      exact h.replayed k r' hr'
  · intro e' he'
    have hkept : ∀ k r', entities.lookup k = some r' → (entities'.lookup k).isSome = true := by
      intro k r' hr'
      rw [Table.lookup_update hupd, hr']
      split <;> rfl
    rw [Table.rows_insert hevent] at he'
    rcases List.mem_append.mp he' with he' | he'
    · obtain ⟨r', hr'⟩ := Option.isSome_iff_exists.mp (h.referenced e' he')
      exact hkept _ r' hr'
    · rw [List.mem_singleton.mp he']
      exact hkept _ r hfound

end Projects

end FlowAI
