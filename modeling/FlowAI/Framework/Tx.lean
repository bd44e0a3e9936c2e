import Mathlib.Logic.Basic

/-! # Transactions

  A transaction reads and writes a private copy of the state and either
  finishes with a result or fails.  `Tx.commit` is what the outside sees: the
  new state after a success, the old one after a failure, so a failed call
  leaves the state unchanged by construction.

  The `_eq_ok` lemmas peel a successful transaction apart statement by
  statement; they form the simp set that every inversion lemma below uses.
  `Check` holds the same lemmas for computations that touch no state.
-/

namespace FlowAI

/-- A transaction over states `σ` with errors `ε` and result `α`. -/
def Tx (σ ε α : Type) : Type := σ → Except ε (α × σ)

namespace Tx

variable {σ ε α β : Type}

instance : Monad (Tx σ ε) where
  pure a := fun s => .ok (a, s)
  bind x f := fun s =>
    match x s with
    | .ok (a, s') => f a s'
    | .error e => .error e

/-- Read the state as the transaction sees it. -/
def get : Tx σ ε σ := fun s => .ok (s, s)

/-- Replace the state. -/
def set (s : σ) : Tx σ ε Unit := fun _ => .ok ((), s)

/-- Abort with an error. -/
def fail (e : ε) : Tx σ ε α := fun _ => .error e

/-- Abort with `e` unless `p` holds. -/
def ensure (p : Prop) [Decidable p] (e : ε) : Tx σ ε Unit :=
  if p then pure () else fail e

/-- The value of a query that must return a row. -/
def ofOption (o : Option α) (e : ε) : Tx σ ε α :=
  match o with
  | some a => pure a
  | none => fail e

/-- The value of a computation that may fail on its own. -/
def ofExcept (x : Except ε α) : Tx σ ε α :=
  match x with
  | .ok a => pure a
  | .error e => fail e

/-- Run a transaction and rewrite its error. -/
def mapError (f : ε → ε) (x : Tx σ ε α) : Tx σ ε α := fun s =>
  match x s with
  | .ok r => .ok r
  | .error e => .error (f e)

/-- Run a transaction for its effect only. -/
def void (x : Tx σ ε α) : Tx σ ε Unit := fun s =>
  match x s with
  | .ok (_, s') => .ok ((), s')
  | .error e => .error e

/-- The error a transaction ends in, if it fails. -/
def errorOf (x : Tx σ ε α) (s : σ) : Option ε :=
  match x s with
  | .ok _ => none
  | .error e => some e

/-- The state the outside sees once the transaction is over. -/
def commit (x : Tx σ ε α) (s : σ) : σ :=
  match x s with
  | .ok (_, s') => s'
  | .error _ => s

/-! ### Inversion of successful transactions -/

variable {s s' : σ} {a : α} {b : β} {e : ε}

variable {x : Tx σ ε α} {f : α → Tx σ ε β} {t : σ} {u : Unit} {p : Prop} {o : Option α}

theorem bind_eq_ok :
    (x >>= f) s = .ok (b, s') ↔ ∃ a s₁, x s = .ok (a, s₁) ∧ f a s₁ = .ok (b, s') := by
  show (match x s with | .ok (a, s₁) => f a s₁ | .error e => .error e) = _ ↔ _
  cases hx : x s with
  | error e => simp
  | ok p =>
    obtain ⟨a, s₁⟩ := p
    exact ⟨fun h => ⟨a, s₁, rfl, h⟩, by rintro ⟨_, _, heq, h⟩; cases heq; exact h⟩

@[simp] theorem pure_eq_ok {a' : α} :
    (pure a : Tx σ ε α) s = .ok (a', s') ↔ a = a' ∧ s = s' := by
  show (Except.ok (a, s) : Except ε (α × σ)) = .ok (a', s') ↔ _
  simp

@[simp] theorem get_eq_ok :
    (get : Tx σ ε σ) s = .ok (t, s') ↔ s = t ∧ s = s' := by
  simp [get]

@[simp] theorem set_eq_ok :
    (set t : Tx σ ε Unit) s = .ok (u, s') ↔ s' = t := by
  simp [set, eq_comm]

@[simp] theorem fail_eq_ok : (fail e : Tx σ ε α) s = .ok (a, s') ↔ False := by
  simp [fail]

@[simp] theorem ensure_eq_ok [Decidable p] :
    (ensure p e : Tx σ ε Unit) s = .ok (u, s') ↔ p ∧ s = s' := by
  by_cases hp : p <;> simp [ensure, hp]

@[simp] theorem ofOption_eq_ok :
    (ofOption o e : Tx σ ε α) s = .ok (a, s') ↔ o = some a ∧ s = s' := by
  cases o <;> simp [ofOption]

@[simp] theorem ofExcept_eq_ok {x : Except ε α} :
    (ofExcept x : Tx σ ε α) s = .ok (a, s') ↔ x = .ok a ∧ s = s' := by
  cases x <;> simp [ofExcept]

@[simp] theorem mapError_eq_ok {f : ε → ε} :
    mapError f x s = .ok (a, s') ↔ x s = .ok (a, s') := by
  unfold mapError
  cases x s <;> simp

theorem void_eq_ok :
    void x s = .ok (u, s') ↔ ∃ a, x s = .ok (a, s') := by
  unfold void
  cases x s with
  | error e => simp
  | ok p => simp [Prod.ext_iff]

/-! A statement and what follows it: `bind_eq_ok` asks for the value and the state in between. -/

section Between

variable {P : α → σ → Prop}

theorem exists_get {P : σ → σ → Prop} :
    (∃ a s₁, (get : Tx σ ε σ) s = .ok (a, s₁) ∧ P a s₁) ↔ P s s := by
  simp [and_assoc]

theorem exists_set {P : Unit → σ → Prop} :
    (∃ u s₁, (set t : Tx σ ε Unit) s = .ok (u, s₁) ∧ P u s₁) ↔ P () t := by
  constructor
  · rintro ⟨_, _, h, hP⟩
    obtain rfl := set_eq_ok.mp h
    exact hP
  · exact fun hP => ⟨(), t, rfl, hP⟩

theorem exists_ensure [Decidable p] {P : Unit → σ → Prop} :
    (∃ u s₁, (ensure p e : Tx σ ε Unit) s = .ok (u, s₁) ∧ P u s₁) ↔ p ∧ P () s := by
  constructor
  · rintro ⟨_, _, h, hP⟩
    obtain ⟨hp, rfl⟩ := ensure_eq_ok.mp h
    exact ⟨hp, hP⟩
  · exact fun h => ⟨(), s, ensure_eq_ok.mpr ⟨h.1, rfl⟩, h.2⟩

theorem exists_ofOption :
    (∃ a s₁, (ofOption o e : Tx σ ε α) s = .ok (a, s₁) ∧ P a s₁) ↔ ∃ a, o = some a ∧ P a s := by
  simp [and_assoc]

theorem exists_ofExcept {x : Except ε α} :
    (∃ a s₁, (ofExcept x : Tx σ ε α) s = .ok (a, s₁) ∧ P a s₁) ↔ ∃ a, x = .ok a ∧ P a s := by
  simp [and_assoc]

end Between

/-! ### Running a transaction forward -/

theorem bind_of_ok {s₁ : σ} (h : x s = .ok (a, s₁)) :
    (x >>= f) s = f a s₁ := by
  show (match x s with | .ok (a, s₁) => f a s₁ | .error e => .error e) = _
  rw [h]

theorem bind_of_error (h : x s = .error e) :
    (x >>= f) s = .error e := by
  show (match x s with | .ok (a, s₁) => f a s₁ | .error e => .error e) = _
  rw [h]

theorem get_bind (f : σ → Tx σ ε β) : (get >>= f) s = f s s := rfl

theorem bind_assoc {γ : Type} (x : Tx σ ε α) (f : α → Tx σ ε β) (g : β → Tx σ ε γ) :
    (x >>= f) >>= g = x >>= fun a => f a >>= g := by
  funext s
  show (match (x >>= f) s with | .ok (b, s₁) => g b s₁ | .error e => .error e) = _
  cases hx : x s with
  | error e => rw [bind_of_error hx, bind_of_error hx]
  | ok p =>
    obtain ⟨a, s₁⟩ := p
    rw [bind_of_ok hx, bind_of_ok hx]
    rfl

/-! ### Committing -/

theorem commit_of_ok (h : x s = .ok (a, s')) : x.commit s = s' := by
  simp [commit, h]

theorem commit_of_error (h : x s = .error e) : x.commit s = s := by
  simp [commit, h]

@[simp] theorem commit_void (x : Tx σ ε α) : x.void.commit s = x.commit s := by
  unfold commit void
  cases x s <;> rfl

/-- A commit either changes nothing or publishes what a success wrote. -/
theorem commit_cases (x : Tx σ ε α) (s : σ) :
    x.commit s = s ∨ ∃ a, x s = .ok (a, x.commit s) := by
  unfold commit
  cases h : x s with
  | error e => exact .inl rfl
  | ok p => exact .inr ⟨p.1, rfl⟩

theorem errorOf_eq_some : x.errorOf s = some e ↔ x s = .error e := by
  unfold errorOf
  cases x s <;> simp

theorem errorOf_eq_none :
    x.errorOf s = none ↔ ∃ a, x s = .ok (a, x.commit s) := by
  unfold errorOf commit
  cases h : x s with
  | error e => simp
  | ok p => exact ⟨fun _ => ⟨p.1, rfl⟩, fun _ => rfl⟩

/-- A transaction that does not fail, and what follows from its success. -/
theorem exists_ok {P : α → σ → Prop} (h : x.errorOf s = none)
    (hP : ∀ a, x s = .ok (a, x.commit s) → P a (x.commit s)) :
    ∃ a s', x s = .ok (a, s') ∧ P a s' := by
  obtain ⟨a, ha⟩ := errorOf_eq_none.mp h
  exact ⟨a, _, ha, hP a ha⟩

/-! ### Two runs

  `Agree` compares two runs that write nothing: they end in the same error, or in the
  same result with their states as they were. -/

def Agree (x : Tx σ ε α) (s : σ) (y : Tx σ ε α) (s' : σ) : Prop :=
  (∃ e, x s = .error e ∧ y s' = .error e) ∨ ∃ a, x s = .ok (a, s) ∧ y s' = .ok (a, s')

theorem Agree.of_pure (a : α) : Agree (pure a : Tx σ ε α) s (pure a) s' := .inr ⟨a, rfl, rfl⟩

theorem Agree.ensure (p : Prop) [Decidable p] (e : ε) :
    Agree (ensure p e : Tx σ ε Unit) s (ensure p e) s' := by
  by_cases hp : p
  · exact .inr ⟨(), by simp [hp], by simp [hp]⟩
  · exact .inl ⟨e, by simp [Tx.ensure, hp, fail], by simp [Tx.ensure, hp, fail]⟩

theorem Agree.of_option (o : Option α) (e : ε) :
    Agree (ofOption o e : Tx σ ε α) s (ofOption o e) s' := by
  cases o with
  | none => exact .inl ⟨e, rfl, rfl⟩
  | some a => exact .inr ⟨a, rfl, rfl⟩

theorem Agree.get_bind {f g : σ → Tx σ ε α} (h : Agree (f s) s (g s') s') :
    Agree (get >>= f) s (get >>= g) s' := h

theorem Agree.bind {y : Tx σ ε α} {g : α → Tx σ ε β} (hx : Agree x s y s')
    (hf : ∀ a, Agree (f a) s (g a) s') : Agree (x >>= f) s (y >>= g) s' := by
  rcases hx with ⟨e, hx, hy⟩ | ⟨a, hx, hy⟩
  · exact .inl ⟨e, bind_of_error hx, bind_of_error hy⟩
  · have hrest := hf a
    unfold Agree at hrest ⊢
    rw [bind_of_ok hx, bind_of_ok hy]
    exact hrest

end Tx

section Refuse

variable {σ ε ν α : Type} {err : ν → ε} {x : Except ν α} {s s' : σ} {a : α}

/-- The result of one statement; `err` turns a refusal into the error returned. -/
def refuse (err : ν → ε) (x : Except ν α) : Tx σ ε α :=
  match x with
  | .ok a => pure a
  | .error v => Tx.fail (err v)

@[simp] theorem refuse_eq_ok : refuse err x s = .ok (a, s') ↔ x = .ok a ∧ s = s' := by
  cases x <;> simp [refuse]

theorem exists_refuse {P : α → σ → Prop} :
    (∃ a s₁, refuse err x s = .ok (a, s₁) ∧ P a s₁) ↔ ∃ a, x = .ok a ∧ P a s := by
  simp [and_assoc]

end Refuse

/-! ## Checks without a state

  Validators and decoders fail the same way but touch no state. -/

namespace Check

variable {ε α β : Type} {e : ε} {a : α} {b : β}

/-- Fail with `e` unless `p` holds. -/
def ensure (p : Prop) [Decidable p] (e : ε) : Except ε Unit := if p then .ok () else .error e

/-- The value that must be there. -/
def need (o : Option α) (e : ε) : Except ε α :=
  match o with
  | some a => .ok a
  | none => .error e

theorem bind_eq_ok {x : Except ε α} {f : α → Except ε β} :
    (x >>= f) = .ok b ↔ ∃ a, x = .ok a ∧ f a = .ok b := by
  cases x with
  | error e => simp [bind, Except.bind]
  | ok a => simp [bind, Except.bind]

@[simp] theorem pure_eq_ok {a' : α} : (pure a : Except ε α) = .ok a' ↔ a = a' := by
  simp [pure, Except.pure]

@[simp] theorem ensure_eq_ok [Decidable p] :
    (ensure p e : Except ε Unit) = .ok u ↔ p := by
  by_cases hp : p <;> simp [ensure, hp]

@[simp] theorem need_eq_ok : (need o e : Except ε α) = .ok a ↔ o = some a := by
  cases o <;> simp [need]

theorem ok_of_isOk {x : Except ε α} (h : x.isOk = true) : ∃ a, x = .ok a := by
  cases x with
  | error e => cases h
  | ok a => exact ⟨a, rfl⟩

/-- What a success says, where that can be checked. -/
theorem exists_ok {x : Except ε α} {P : α → Prop} [DecidablePred P]
    (h : x.toOption.any (fun a => P a) = true) : ∃ a, x = .ok a ∧ P a := by
  cases x with
  | error e => cases h
  | ok a => exact ⟨a, rfl, of_decide_eq_true h⟩

theorem exists_ok_pair {x : Except ε (α × β)} {P : α → β → Prop} [∀ a b, Decidable (P a b)]
    (h : x.toOption.any (fun r => P r.1 r.2) = true) : ∃ a b, x = .ok (a, b) ∧ P a b :=
  Prod.exists.mp (exists_ok h)

/-- What each turn of a loop preserves holds after the loop. -/
theorem foldlM_ok {σ : Type} {f : σ → α → Except ε σ} {P : σ → Prop}
    (hstep : ∀ s a s', P s → f s a = .ok s' → P s') {l : List α} {s s' : σ} (hs : P s)
    (h : l.foldlM f s = .ok s') : P s' := by
  induction l generalizing s with
  | nil =>
    rw [List.foldlM_nil, pure_eq_ok] at h
    exact h ▸ hs
  | cons a l ih =>
    rw [List.foldlM_cons, bind_eq_ok] at h
    obtain ⟨s₁, hfirst, hrest⟩ := h
    exact ih (hstep s a s₁ hs hfirst) hrest

end Check

end FlowAI
