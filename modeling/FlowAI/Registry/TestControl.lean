import FlowAI.Framework.StrMap
import FlowAI.Framework.System

/-! # Transaction Barriers

  The coordinator of the test-control listener arms named barriers, each of which
  pauses one production handler.  A call holds the coordinator's mutex in its critical
  sections and nowhere else, so a run is a sequence of critical sections, and of
  wake-ups of the calls that block between two of them, in any order.

  `Fate` lists what a step can do to one barrier.  How its state moves, which calls
  block on it and how long its record can be read are all derived from that list.
  `Channels` keeps the channels of the barriers apart, so that none is closed twice.
-/

namespace FlowAI.Registry.TestControl

/-! ## Section 1: The Coordinator -/

/-- The transaction points that a barrier may name. -/
def allowed : List String :=
  ["team_archive_after_lock", "task_ingest_after_team_lock", "task_claim_after_team_lock",
    "team_default_image_update_after_lock", "team_name_write_after_constraint_before_commit"]

inductive BarrierState where
  | armed | reached | released | timedOut | cancelled
  deriving DecidableEq

def BarrierState.isTerminal : BarrierState → Bool
  | .released | .timedOut | .cancelled => true
  | .armed | .reached => false

theorem BarrierState.isTerminal_eq_false {st : BarrierState} :
    st.isTerminal = false ↔ st = .armed ∨ st = .reached := by
  cases st <;> simp [isTerminal]

/-- A barrier object, whose id is its key in `byID`.  A channel is the number that `make`
    gave it. -/
structure Barrier where
  name : String
  state : BarrierState
  expiresAt : Int
  release : Nat
  changed : Nat
  deriving DecidableEq

/-- The exported fields of a barrier, which is what a caller gets. -/
structure BarrierCopy where
  id : String
  name : String
  state : BarrierState
  expiresAt : Int
  deriving DecidableEq

def copyBarrier (id : String) (b : Barrier) : BarrierCopy := ⟨id, b.name, b.state, b.expiresAt⟩

/-- The coordinator.  Below its own fields stand the objects and channels of the runtime. -/
structure Coordinator where
  timeout : Int
  byID : StrMap Barrier
  active : StrMap String
  closed : Bool
  /-- The barriers that are no longer in `byID`, as they were last written. -/
  removed : StrMap Barrier
  /-- How many channels were made. -/
  chans : Nat
  /-- Every `close` of a channel, the last one first. -/
  closes : List Nat
  /-- A call dereferenced a nil barrier. -/
  crashed : Bool

/-- The cases of the `select` in `Wait`. -/
inductive Wake where
  | release
  | timer (now : Int)
  | done

def Wake.state : Wake → BarrierState
  | .release => .released
  | .timer _ => .timedOut
  | .done => .cancelled

/-- A `Wait` call is blocked in its `select`, has left it, or has returned. -/
inductive WaitStage where
  | blocked
  | woken (cause : Wake)
  | returned

/-- A `Wait` call that got past its first critical section; its timer fires at `expiresAt`. -/
structure WaitCall where
  id : String
  release : Nat
  expiresAt : Int
  stage : WaitStage

/-- A `Get` call that has no answer yet may wait on `changed`. -/
structure GetCall where
  id : String
  changed : Option Nat
  answer : Option (Option BarrierCopy)

namespace Coordinator

/-- `New`. -/
def new (timeout : Int) : Coordinator := ⟨timeout, .empty, .empty, false, .empty, 0, [], false⟩

/-- The barrier object that was made under an id, in `byID` or no longer. -/
def barrier (c : Coordinator) (id : String) : Option Barrier :=
  (c.byID.lookup id).or (c.removed.lookup id)

def closeChan (ch : Nat) (c : Coordinator) : Coordinator := { c with closes := ch :: c.closes }

/-- `signal`, and the fields of the barrier that were assigned before it. -/
def signal (id : String) (b : Barrier) (c : Coordinator) : Coordinator :=
  { c.closeChan b.changed with
    byID := c.byID.insert id { b with changed := c.chans }, chans := c.chans + 1 }

/-- `Arm`, with the id and the time it draws. -/
def arm (name id : String) (now : Int) (c : Coordinator) :
    Except String BarrierCopy × Coordinator :=
  if name ∉ allowed then (.error "invalid", c)
  else if (c.active.lookup name).isSome then (.error "conflict", c)
  else
    let b : Barrier := ⟨name, .armed, now + c.timeout, c.chans, c.chans + 1⟩
    (.ok (copyBarrier id b),
      { c with
        byID := c.byID.insert id b, active := c.active.insert name id, chans := c.chans + 2 })

/-- The first critical section of `Wait`, and the call if it blocks. -/
def wait (name : String) (c : Coordinator) : Option WaitCall × Coordinator :=
  match c.active.lookup name with
  | none => (none, c)
  | some id =>
    if c.closed then (none, c)
    else
      match c.byID.lookup id with
      | none => (none, { c with crashed := true })
      | some b =>
        if b.state ≠ .armed then (none, c)
        else
          (some ⟨id, b.release, b.expiresAt, .blocked⟩, c.signal id { b with state := .reached })

/-- `terminal`, the last critical section of `Wait`. -/
def terminal (id : String) (state : BarrierState) (c : Coordinator) : Coordinator :=
  match c.byID.lookup id with
  | none => c
  | some b =>
    if b.state.isTerminal then c
    else { c with active := c.active.erase b.name }.signal id { b with state := state }

/-- The first critical section of `Get`. -/
def get (id : String) (wait : Int) (c : Coordinator) : GetCall :=
  match c.byID.lookup id with
  | none => ⟨id, none, some none⟩
  | some b =>
    ⟨id, if 0 < wait ∧ b.state.isTerminal = false then some b.changed else none, none⟩

/-- The last critical section of `Get`. -/
def read (id : String) (c : Coordinator) : Option BarrierCopy :=
  (c.byID.lookup id).map (copyBarrier id)

def release (id : String) (c : Coordinator) : (Option BarrierCopy × String) × Coordinator :=
  match c.byID.lookup id with
  | none => ((none, "not_found"), c)
  | some b =>
    if b.state ≠ .reached then ((some (copyBarrier id b), "not_reached"), c)
    else
      let b' := { b with state := .released }
      ((some (copyBarrier id b'), ""),
        ({ c with active := c.active.erase b.name }.signal id b').closeChan b.release)

/-- A barrier that has not ended is cancelled and its waiter released; then
    `delete(c.byID, id)`. -/
def discard (c : Coordinator) (id : String) (b : Barrier) : Coordinator :=
  if b.state.isTerminal then
    { c with byID := c.byID.erase id, removed := c.removed.insert id b }
  else
    { c.closeChan b.release with
      byID := c.byID.erase id, removed := c.removed.insert id { b with state := .cancelled } }

def delete (id : String) (c : Coordinator) : Bool × Coordinator :=
  match c.byID.lookup id with
  | none => (false, c)
  | some b =>
    (true, { c.discard id b with
      active := if b.state.isTerminal then c.active else c.active.erase b.name })

def close (c : Coordinator) : Coordinator :=
  { c.byID.entries.foldl (fun c e => c.discard e.1 e.2) { c with closed := true } with
    active := .empty }

end Coordinator

/-- The coordinator and the calls that have blocked on it so far. -/
structure World extends Coordinator where
  waits : List WaitCall
  gets : List GetCall

/-- A case of the `select` is ready.  A context may end at any time. -/
def World.Ready (w : World) (call : WaitCall) : Wake → Prop
  | .release => call.release ∈ w.closes
  | .timer now => call.expiresAt ≤ now
  | .done => True

instance (w : World) (call : WaitCall) : DecidablePred (w.Ready call)
  | .release => inferInstanceAs (Decidable (_ ∈ _))
  | .timer _ => inferInstanceAs (Decidable (_ ≤ _))
  | .done => .isTrue trivial

inductive Event where
  | arm (name id : String) (now : Int)
  | wait (name : String)
  | wake (call : Nat) (cause : Wake)
  | terminal (call : Nat)
  | get (id : String) (wait : Int)
  | read (call : Nat)
  | release (id : String)
  | delete (id : String)
  | close

/-- One critical section or one wake-up. -/
def next (w : World) : Event → Option World
  | .arm name id now =>
    -- no two calls of `uuid.NewString` return the same id
    if w.barrier id = none then some { w with toCoordinator := (w.arm name id now).2 } else none
  | .wait name =>
    some { w with
      toCoordinator := (w.toCoordinator.wait name).2
      waits := w.waits ++ (w.toCoordinator.wait name).1.toList }
  | .wake i cause =>
    match w.waits[i]? with
    | some ⟨id, release, expiresAt, .blocked⟩ =>
      if w.Ready ⟨id, release, expiresAt, .blocked⟩ cause then
        some { w with waits := w.waits.set i ⟨id, release, expiresAt, .woken cause⟩ }
      else none
    | _ => none
  | .terminal i =>
    match w.waits[i]? with
    | some ⟨id, release, expiresAt, .woken cause⟩ =>
      some { w with
        toCoordinator := w.toCoordinator.terminal id cause.state
        waits := w.waits.set i ⟨id, release, expiresAt, .returned⟩ }
    | _ => none
  | .get id wait => some { w with gets := w.gets ++ [w.toCoordinator.get id wait] }
  | .read i =>
    -- the channel, the timer and the context of the call may end its wait at any time
    match w.gets[i]? with
    | some ⟨id, changed, none⟩ =>
      some { w with gets := w.gets.set i ⟨id, changed, some (w.toCoordinator.read id)⟩ }
    | _ => none
  | .release id => some { w with toCoordinator := (w.toCoordinator.release id).2 }
  | .delete id => some { w with toCoordinator := (w.toCoordinator.delete id).2 }
  | .close => some { w with toCoordinator := w.toCoordinator.close }

/-- All interleavings of calls on one coordinator. -/
def coordination : System World Event :=
  .ofNext (fun w => ∃ timeout, w = ⟨.new timeout, [], []⟩) next

/-! ## Section 2: Names and Channels -/

variable {c c' : Coordinator} {byID byID' : StrMap Barrier} {active : StrMap String} {chans : Nat}
  {closes : List Nat} {id name : String} {b b' : Barrier} {st st' : BarrierState} {l : Event}

/-- `active` maps a name to an id exactly when the barrier with this id has not ended. -/
def Active (byID : StrMap Barrier) (active : StrMap String) : Prop :=
  ∀ name id, active.lookup name = some id ↔
    ∃ b, byID.lookup id = some b ∧ b.name = name ∧ b.state.isTerminal = false

namespace Active

theorem arm (h : Active byID active) (hnew : byID.lookup id = none)
    (hfree : active.lookup b.name = none) (hlive : b.state.isTerminal = false) :
    Active (byID.insert id b) (active.insert b.name id) := by
  intro name' id'
  have hold := h name' id'
  have hthis := h b.name id'
  rw [StrMap.lookup_insert, StrMap.lookup_insert]
  grind

/-- A barrier that stays as live as it was keeps its name. -/
theorem keep (h : Active byID active) (hb : byID.lookup id = some b) (hname : b'.name = b.name)
    (hlive : b'.state.isTerminal = b.state.isTerminal) : Active (byID.insert id b') active := by
  intro name' id'
  rw [h name' id', StrMap.lookup_insert]
  grind

/-- A barrier that ends or goes away takes its own name with it. -/
theorem drop (h : Active byID active) (hb : byID.lookup id = some b)
    (hoff : ∀ id', id' ≠ id → byID'.lookup id' = byID.lookup id')
    (hat : ∀ b', byID'.lookup id = some b' → b'.state.isTerminal = true) :
    Active byID' (if b.state.isTerminal then active else active.erase b.name) := by
  intro name' id'
  have hold := h name' id'
  have hthis := h b.name id
  have hoff' := hoff id'
  split <;> grind [StrMap.lookup_erase]

theorem drop_insert (h : Active byID active) (hb : byID.lookup id = some b)
    (hlive : b.state.isTerminal = false) (hended : b'.state.isTerminal = true) :
    Active (byID.insert id b') (active.erase b.name) := by
  have hoff : ∀ id', id' ≠ id → (byID.insert id b').lookup id' = byID.lookup id' :=
    fun id' hne => by simp [hne.symm]
  have hdrop := h.drop hb hoff (fun b'' hb'' => by simp_all)
  rwa [if_neg (by simp [hlive])] at hdrop

end Active

/-- The channels of the barriers in `byID`.  Each barrier has two of its own, and those it
    may still close are open. -/
structure Channels (byID : StrMap Barrier) (chans : Nat) (closes : List Nat) : Prop where
  nodup : closes.Nodup
  made : ∀ ch ∈ closes, ch < chans
  own : ∀ id b, byID.lookup id = some b →
    b.release < chans ∧ b.changed < chans ∧ b.release ≠ b.changed
  unused : ∀ id b, byID.lookup id = some b →
    b.changed ∉ closes ∧ (b.state.isTerminal = false → b.release ∉ closes)
  apart : ∀ id id' b b', byID.lookup id = some b → byID.lookup id' = some b' → id ≠ id' →
    b.release ≠ b'.release ∧ b.release ≠ b'.changed ∧ b.changed ≠ b'.changed

namespace Channels

theorem arm (h : Channels byID chans closes) (hrelease : b.release = chans)
    (hchanged : b.changed = chans + 1) : Channels (byID.insert id b) (chans + 2) closes := by
  obtain ⟨hnodup, hmade, hown, hunused, hapart⟩ := h
  constructor <;> grind [StrMap.lookup_insert]

theorem signal (h : Channels byID chans closes) (hb : byID.lookup id = some b)
    (hlive : b.state.isTerminal = false) :
    Channels (byID.insert id { b with state := st, changed := chans }) (chans + 1)
      (b.changed :: closes) := by
  obtain ⟨hnodup, hmade, hown, hunused, hapart⟩ := h
  constructor <;> grind [StrMap.lookup_insert]

theorem release (h : Channels byID chans closes) (hb : byID.lookup id = some b)
    (hlive : b.state.isTerminal = false) (hended : st.isTerminal = true) :
    Channels (byID.insert id { b with state := st, changed := chans }) (chans + 1)
      (b.release :: b.changed :: closes) := by
  obtain ⟨hnodup, hmade, hown, hunused, hapart⟩ := h
  constructor <;> grind [StrMap.lookup_insert]

theorem discard (h : Channels byID chans closes) (hb : byID.lookup id = some b) :
    Channels (byID.erase id) chans
      (if b.state.isTerminal then closes else b.release :: closes) := by
  obtain ⟨hnodup, hmade, hown, hunused, hapart⟩ := h
  constructor <;> grind [StrMap.lookup_erase]

end Channels

/-! ## Section 3: What a Step Does -/

/-- The moves of a barrier's state. -/
inductive BarrierState.Moves : BarrierState → BarrierState → Prop where
  | arrive : Moves .armed .reached
  | finish {st : BarrierState} : st.isTerminal = true → Moves .reached st
  | cancel : Moves .armed .cancelled

theorem BarrierState.Moves.live (h : st.Moves st') : st.isTerminal = false := by
  cases h <;> rfl

theorem BarrierState.Moves.ne_armed (h : st.Moves st') : st' ≠ .armed := by
  rintro rfl
  cases h with
  | finish hended => cases hended

/-- A step leaves a barrier alone, or takes it out of `byID` and cancels it if it has not
    ended. -/
def Removal (c : Coordinator) (l : Event) (c' : Coordinator) (id : String) : Prop :=
  (c'.byID.lookup id = c.byID.lookup id ∧ c'.removed.lookup id = c.removed.lookup id) ∨
    ∃ b b', (l = .delete id ∨ l = .close) ∧ c.byID.lookup id = some b ∧ c'.byID.lookup id = none ∧
      c'.removed.lookup id = some b' ∧ (b' = b ∨ b.state.Moves b'.state)

/-- What a step can do to the barrier that has an id, or gets it. -/
inductive Fate (c : Coordinator) (l : Event) (c' : Coordinator) (id : String) : Prop where
  | removal : Removal c l c' id → Fate c l c' id
  | armed (b : Barrier) : c.barrier id = none → c'.byID.lookup id = some b → b.state = .armed →
      Fate c l c' id
  | moved (b b' : Barrier) : c.byID.lookup id = some b → c'.byID.lookup id = some b' →
      b.state.Moves b'.state → Fate c l c' id

/-- What holds of the coordinator between two critical sections. -/
structure Coordinator.Sound (c : Coordinator) : Prop where
  active : Active c.byID c.active
  channels : Channels c.byID c.chans c.closes
  uncrashed : c.crashed = false

/-- A step from one coordinator to another. -/
structure Effect (c : Coordinator) (l : Event) (c' : Coordinator) : Prop extends c'.Sound where
  fate : ∀ id, Fate c l c' id

theorem Effect.refl (h : c.Sound) : Effect c l c := ⟨h, fun _ => .removal (.inl ⟨rfl, rfl⟩)⟩

namespace Coordinator

theorem arm_effect (h : c.Sound) (hfresh : c.barrier id = none) (now : Int) :
    Effect c l (c.arm name id now).2 := by
  have hnew : c.byID.lookup id = none := (Option.or_eq_none_iff.mp hfresh).1
  unfold arm
  split
  · exact .refl h
  · split
    · exact .refl h
    · rename_i hactive
      have hactive := h.active.arm (b := ⟨name, .armed, now + c.timeout, c.chans, c.chans + 1⟩)
        hnew (by simpa using hactive) rfl
      refine ⟨⟨hactive, h.channels.arm rfl rfl, h.uncrashed⟩, fun id' => ?_⟩
      by_cases hid : id = id'
      · subst hid
        exact .armed _ hfresh (StrMap.lookup_insert.trans (if_pos rfl)) rfl
      · exact .removal (.inl ⟨by simp [hid], rfl⟩)

/-- A barrier gets another state in a step that signals the change. -/
theorem signal_effect (h : c.Sound) (hb : c.byID.lookup id = some b)
    (hmoves : b.state.Moves b'.state) (hactive : Active (c.byID.insert id b') active)
    (hchannels : Channels (c.byID.insert id b') chans closes) :
    Effect c l { c with byID := c.byID.insert id b', active, chans, closes } := by
  refine ⟨⟨hactive, hchannels, h.uncrashed⟩, fun id' => ?_⟩
  by_cases hid : id = id'
  · subst hid
    exact .moved b b' hb (by simp) hmoves
  · exact .removal (.inl ⟨by simp [hid], rfl⟩)

/-- The first critical section of `Wait` finds the barrier that `active` names. -/
theorem wait_cases (h : c.Sound) (name : String) :
    c.wait name = (none, c) ∨ ∃ id b, c.byID.lookup id = some b ∧ b.state = .armed ∧
      c.wait name = (some ⟨id, b.release, b.expiresAt, .blocked⟩,
        c.signal id { b with state := .reached }) := by
  unfold wait
  cases hid : c.active.lookup name with
  | none => exact .inl rfl
  | some id =>
    obtain ⟨b, hb, -, -⟩ := (h.active name id).mp hid
    by_cases hwaits : c.closed = false ∧ b.state = .armed
    · exact .inr ⟨id, b, hb, hwaits.2, by simp [hb, hwaits]⟩
    · refine .inl ?_
      simp only [hb]
      grind

theorem wait_effect (h : c.Sound) : Effect c l (c.wait name).2 := by
  rcases wait_cases h name with heq | ⟨id, b, hb, harmed, heq⟩
  · rw [heq]
    exact .refl h
  · rw [heq]
    have hmoves : b.state.Moves .reached := harmed ▸ .arrive
    exact signal_effect h hb hmoves (h.active.keep hb rfl hmoves.live.symm)
      (h.channels.signal (b := b) hb hmoves.live)

/-- `terminal` for a call whose barrier was reached before. -/
theorem terminal_effect (h : c.Sound) (hended : st.isTerminal = true)
    (hreached : ∀ b, c.byID.lookup id = some b → b.state ≠ .armed) :
    Effect c l (c.terminal id st) := by
  unfold terminal
  cases hb : c.byID.lookup id with
  | none => exact .refl h
  | some b =>
    simp only
    split
    · exact .refl h
    · rename_i hlive
      have hlive : b.state.isTerminal = false := by simpa using hlive
      have hstate := (BarrierState.isTerminal_eq_false.mp hlive).resolve_left (hreached b hb)
      have hmoves : b.state.Moves st := hstate ▸ .finish hended
      exact signal_effect h hb hmoves (h.active.drop_insert hb hlive hended)
        (h.channels.signal (b := b) hb hlive)

theorem release_effect (h : c.Sound) : Effect c l (c.release id).2 := by
  unfold release
  cases hb : c.byID.lookup id with
  | none => exact .refl h
  | some b =>
    simp only
    split
    · exact .refl h
    · rename_i hstate
      have hmoves : b.state.Moves .released := not_ne_iff.mp hstate ▸ .finish rfl
      exact signal_effect h hb hmoves (h.active.drop_insert hb hmoves.live rfl)
        (h.channels.release (b := b) hb hmoves.live rfl)

/-- What `Delete` does, and what the loop of `Close` has done when it has come to `c'`. -/
structure Cleared (c : Coordinator) (l : Event) (c' : Coordinator) : Prop where
  channels : Channels c'.byID c'.chans c'.closes
  uncrashed : c'.crashed = false
  removal : ∀ id, Removal c l c' id

theorem Cleared.start (h : c.Sound) (closed : Bool) : Cleared c l { c with closed := closed } :=
  ⟨h.channels, h.uncrashed, fun _ => .inl ⟨rfl, rfl⟩⟩

theorem Cleared.effect (h : Cleared c l c') (hactive : Active c'.byID active) :
    Effect c l { c' with active := active } :=
  ⟨⟨hactive, h.channels, h.uncrashed⟩, fun id => .removal (h.removal id)⟩

@[simp] theorem byID_discard : (c.discard id b).byID = c.byID.erase id := by
  unfold discard
  split <;> rfl

theorem removed_discard (id : String) (b : Barrier) :
    ∃ b', (c.discard id b).removed = c.removed.insert id b' ∧
      (b' = b ∨ b.state.Moves b'.state) := by
  unfold discard
  split
  · exact ⟨b, rfl, .inl rfl⟩
  · rename_i hlive
    refine ⟨{ b with state := .cancelled }, rfl, .inr ?_⟩
    rcases BarrierState.isTerminal_eq_false.mp (by simpa using hlive) with h | h
    · exact h ▸ .cancel
    · exact h ▸ .finish rfl

/-- One entry of the map is taken out. -/
theorem Cleared.discard (h : Cleared c l c') (hl : l = .delete id ∨ l = .close)
    (hb : c'.byID.lookup id = some b) : Cleared c l (c'.discard id b) := by
  refine ⟨?_, ?_, fun id' => ?_⟩
  · have hchannels := h.channels.discard hb
    unfold Coordinator.discard
    split <;> simp_all [closeChan]
  · unfold Coordinator.discard
    split <;> exact h.uncrashed
  · obtain ⟨b', hremoved, hcancel⟩ := c'.removed_discard id b
    have hold := h.removal id'
    by_cases hid : id' = id
    · subst hid
      rcases hold with ⟨hbyID, -⟩ | ⟨_, _, -, -, hnone, -⟩
      · exact .inr ⟨b, b', hl, hbyID ▸ hb, by simp, by simp [hremoved], hcancel⟩
      · exact nomatch hnone.symm.trans hb
    · simpa [Removal, hid, Ne.symm hid, hremoved] using hold

theorem delete_effect (h : c.Sound) : Effect c (.delete id) (c.delete id).2 := by
  unfold delete
  cases hb : c.byID.lookup id with
  | none => exact .refl h
  | some b =>
    refine ((Cleared.start h c.closed).discard (.inl rfl) hb).effect ?_
    exact h.active.drop hb (fun id' hne => by simp [hne]) (by simp)

/-- The loop of `Close`.  When it is over the map is empty. -/
theorem Cleared.loop {entries : List (String × Barrier)} (h : Cleared c .close c')
    (hentries : c'.byID.entries = entries) :
    Cleared c .close (entries.foldl (fun c e => c.discard e.1 e.2) c') ∧
      (entries.foldl (fun c e => c.discard e.1 e.2) c').byID = .empty := by
  induction entries generalizing c' with
  | nil => exact ⟨h, StrMap.ext hentries⟩
  | cons e rest ih =>
    obtain ⟨id, b⟩ := e
    have hb : c'.byID.lookup id = some b :=
      StrMap.lookup_eq_some_iff.mpr (hentries ▸ List.mem_cons_self)
    exact ih (h.discard (.inr rfl) hb) (byID_discard ▸ StrMap.entries_erase_head hentries)

theorem close_effect (h : c.Sound) : Effect c .close c.close := by
  obtain ⟨hcleared, hempty⟩ := (Cleared.start h true).loop rfl
  exact hcleared.effect (hempty ▸ fun name id => by simp)

end Coordinator

/-! ## Section 4: Interleavings -/

open Coordinator

variable {w w' : World} {call : WaitCall} {i : Nat}

theorem Coordinator.barrier_of_byID (h : c.byID.lookup id = some b) : c.barrier id = some b := by
  simp [barrier, h]

/-- A barrier object stays as it is or its state moves; a new one is armed. -/
inductive Barrier.Moves : Option Barrier → Option Barrier → Prop where
  | keep {o : Option Barrier} : Moves o o
  | arm {b : Barrier} : b.state = .armed → Moves none (some b)
  | move {b b' : Barrier} : b.state.Moves b'.state → Moves (some b) (some b')

theorem Fate.moves (h : Fate c l c' id) : Barrier.Moves (c.barrier id) (c'.barrier id) := by
  rcases h with (⟨hbyID, hremoved⟩ | ⟨b, b', -, hb, hnone, hb', rfl | hmoves⟩) |
    ⟨b, hnone, hb, harmed⟩ | ⟨b, b', hb, hb', hmoves⟩
  · rw [barrier, barrier, hbyID, hremoved]
    exact .keep
  · rw [barrier, barrier, hb, hnone, hb']
    exact .keep
  · rw [barrier, barrier, hb, hnone, hb']
    exact .move hmoves
  · rw [hnone, barrier_of_byID hb]
    exact .arm harmed
  · rw [barrier_of_byID hb, barrier_of_byID hb']
    exact .move hmoves

/-- The calls that have blocked, and on which barriers: a barrier that was reached, and one
    call for each. -/
structure World.Sound (w : World) : Prop extends w.toCoordinator.Sound where
  reached : ∀ id ∈ w.waits.map WaitCall.id, ∃ b, w.barrier id = some b ∧ b.state ≠ .armed
  once : (w.waits.map WaitCall.id).Nodup

theorem ids_set {waits : List WaitCall} {stage : WaitStage} (h : waits[i]? = some call) :
    (waits.set i { call with stage := stage }).map WaitCall.id = waits.map WaitCall.id := by
  obtain ⟨hi, rfl⟩ := List.getElem?_eq_some_iff.mp h
  have hself := (waits.map WaitCall.id).set_getElem_self (i := i) (by simpa using hi)
  simpa [List.map_set] using hself

/-- What a step does to the coordinator, and to the list of barriers that calls blocked on. -/
structure Turn (w : World) (l : Event) (w' : World) : Prop
    extends Effect w.toCoordinator l w'.toCoordinator where
  ids : w'.waits.map WaitCall.id = w.waits.map WaitCall.id ∨ ∃ id b,
    w.byID.lookup id = some b ∧ b.state = .armed ∧
    (∃ b', w'.byID.lookup id = some b' ∧ b'.state = .reached) ∧
    w'.waits.map WaitCall.id = w.waits.map WaitCall.id ++ [id]

theorem Wake.isTerminal_state (cause : Wake) : cause.state.isTerminal = true := by
  cases cause <;> rfl

theorem World.Sound.turn (h : w.Sound) (hs : next w l = some w') : Turn w l w' := by
  cases l with
  | arm name id now =>
    simp only [next] at hs
    split at hs
    · rename_i hfresh
      cases hs
      exact ⟨arm_effect h.toSound hfresh now, .inl rfl⟩
    · cases hs
  | wait name =>
    simp only [next, Option.some.injEq] at hs
    subst hs
    refine ⟨wait_effect h.toSound, ?_⟩
    rcases wait_cases h.toSound name with heq | ⟨id, b, hb, harmed, heq⟩
    · exact .inl (by simp [heq])
    · exact .inr ⟨id, b, hb, harmed, ⟨_, by simp [heq, signal]; rfl, rfl⟩, by simp [heq]⟩
  | wake i cause =>
    simp only [next] at hs
    split at hs
    · rename_i hcall
      split at hs
      · cases hs
        exact ⟨.refl h.toSound, .inl (ids_set hcall)⟩
      · cases hs
    · cases hs
  | terminal i =>
    simp only [next] at hs
    split at hs
    · rename_i id release expiresAt cause hcall
      cases hs
      refine ⟨terminal_effect h.toSound cause.isTerminal_state (fun b hb => ?_),
        .inl (ids_set hcall)⟩
      obtain ⟨b', hb', hne⟩ := h.reached id (List.mem_map_of_mem (List.mem_of_getElem? hcall))
      rw [barrier_of_byID hb] at hb'
      exact Option.some.inj hb' ▸ hne
    · cases hs
  | get id wait =>
    cases hs
    exact ⟨.refl h.toSound, .inl rfl⟩
  | read i =>
    simp only [next] at hs
    split at hs
    · cases hs
      exact ⟨.refl h.toSound, .inl rfl⟩
    · cases hs
  | release id =>
    cases hs
    exact ⟨release_effect h.toSound, .inl rfl⟩
  | delete id =>
    cases hs
    exact ⟨delete_effect h.toSound, .inl rfl⟩
  | close =>
    cases hs
    exact ⟨close_effect h.toSound, .inl rfl⟩

theorem World.Sound.step (h : w.Sound) (hs : next w l = some w') : w'.Sound := by
  have hturn := h.turn hs
  have hkept : ∀ id ∈ w.waits.map WaitCall.id, ∃ b, w'.barrier id = some b ∧ b.state ≠ .armed := by
    intro id hid
    obtain ⟨b, hb, hne⟩ := h.reached id hid
    have hmoves := (hturn.fate id).moves
    rw [hb] at hmoves
    generalize w'.barrier id = after at hmoves
    cases hmoves with
    | keep => exact ⟨b, rfl, hne⟩
    | move hmoves => exact ⟨_, rfl, hmoves.ne_armed⟩
  rcases hturn.ids with heq | ⟨id, b, hb, harmed, ⟨b', hb', hreached⟩, heq⟩
  · exact ⟨hturn.toSound, heq ▸ hkept, heq ▸ h.once⟩
  · refine ⟨hturn.toSound, heq ▸ List.forall_mem_append.mpr ⟨hkept, ?_⟩, ?_⟩
    · exact List.forall_mem_singleton.mpr ⟨b', barrier_of_byID hb', by simp [hreached]⟩
    · -- a call that had blocked before would have left the barrier reached
      have hnot : id ∉ w.waits.map WaitCall.id := by
        intro hid
        obtain ⟨b₀, hb₀, hne⟩ := h.reached id hid
        rw [barrier_of_byID hb] at hb₀
        exact hne (Option.some.inj hb₀ ▸ harmed)
      rw [heq]
      exact List.nodup_append.mpr ⟨h.once, by simp, by grind⟩

theorem sound_of_reachable (h : coordination.Reachable w) : w.Sound := by
  induction h with
  | init h0 =>
    obtain ⟨timeout, rfl⟩ := h0
    refine ⟨⟨fun name id => ?_, ⟨List.nodup_nil, nofun, nofun, nofun, nofun⟩, rfl⟩, nofun,
      List.nodup_nil⟩
    simp [new]
  | step l _ hs ih => exact ih.step hs

/-! ## Section 5: One Shot -/

/-- A record that has ended stays in `byID` until its own `Delete`, or `Close`. -/
theorem record_kept (h : w.Sound) (hb : w.byID.lookup id = some b)
    (hended : b.state.isTerminal = true) {ls : List Event} (hrun : coordination.Run w ls w')
    (hls : ∀ l ∈ ls, l ≠ .delete id ∧ l ≠ .close) : w'.byID.lookup id = some b := by
  induction hrun with
  | nil w => exact hb
  | @cons w w₁ w' ls l hs _ ih =>
    obtain ⟨hl, hrest⟩ := List.forall_mem_cons.mp hls
    refine ih (h.step hs) ?_ hrest
    rcases (h.turn hs).fate id with (⟨hbyID, -⟩ | ⟨-, -, hdelete, -⟩) | ⟨-, hnone, -⟩ |
      ⟨b₀, b', hb₀, -, hmoves⟩
    · exact hbyID.trans hb
    · exact absurd hdelete (not_or.mpr hl)
    · exact nomatch (barrier_of_byID hb).symm.trans hnone
    · obtain rfl : b₀ = b := Option.some.inj (hb₀.symm.trans hb)
      exact nomatch hmoves.live.symm.trans hended

/-- What a barrier keeps when a step does not concern it. -/
structure Undisturbed (c c' : Coordinator) (id : String) : Prop where
  barrier : c'.byID.lookup id = c.byID.lookup id
  active : ∀ name, c'.active.lookup name = some id ↔ c.active.lookup name = some id
  channels : ∀ b, c.byID.lookup id = some b → ∀ ch ∈ c'.closes, ch ∉ c.closes →
    ch ≠ b.release ∧ ch ≠ b.changed

theorem Undisturbed.refl : Undisturbed c c id :=
  ⟨rfl, fun _ => Iff.rfl, fun _ _ _ hch hnot => absurd hch hnot⟩

/-- `terminal` touches no barrier but its own, not even one that has taken over the name. -/
theorem Coordinator.terminal_other (h : c.Sound) {id' : String} (hne : id' ≠ id) :
    Undisturbed c (c.terminal id st) id' := by
  unfold terminal
  cases hb : c.byID.lookup id with
  | none => exact .refl
  | some b =>
    simp only
    split
    · exact .refl
    · rename_i hlive
      have hown : c.active.lookup b.name = some id :=
        (h.active _ _).mpr ⟨b, hb, rfl, by simpa using hlive⟩
      refine ⟨by simp [signal, hne.symm], fun name => ?_, fun b' hb' ch hch hnot => ?_⟩
      · by_cases hname : name = b.name
        · subst hname
          simp [signal, closeChan, hown, hne.symm]
        · simp [signal, closeChan, hname]
      · have hch : ch = b.changed := (List.mem_cons.mp hch).resolve_right hnot
        have hapart := h.channels.apart _ _ b' b hb' hb hne
        exact hch ▸ ⟨hapart.2.1.symm, hapart.2.2.symm⟩

/-- How many `Wait` calls have blocked on a barrier so far. -/
def World.blockedOn (w : World) (id : String) : Nat := (w.waits.map WaitCall.id).count id

/-- What it means that barriers are one-shot, at a point of a run and in the steps from there. -/
structure OneShot (w : World) : Prop where
  closes_once : w.closes.Nodup
  uncrashed : w.crashed = false
  active_iff : ∀ name id, w.active.lookup name = some id ↔
    ∃ b, w.byID.lookup id = some b ∧ b.name = name ∧ (b.state = .armed ∨ b.state = .reached)
  moves : ∀ l w' id, coordination.step w l w' → Barrier.Moves (w.barrier id) (w'.barrier id)
  blocks_one : ∀ id, w.blockedOn id ≤ 1
  blocks_none : ∀ l w' id b, coordination.step w l w' → w.barrier id = some b →
    b.state.isTerminal = true → w'.blockedOn id = w.blockedOn id
  /-- A wake-up of a call, and the critical section it leads to, concern its own barrier. -/
  wakes_own : ∀ i call l w', w.waits[i]? = some call →
    (∃ cause, l = .wake i cause) ∨ l = .terminal i → coordination.step w l w' →
    (∀ j, j ≠ i → w'.waits[j]? = w.waits[j]?) ∧
    ∀ id, id ≠ call.id → Undisturbed w.toCoordinator w'.toCoordinator id
  /-- A record that has ended can be read, without waiting, until `Delete` or `Close`. -/
  readable : ∀ id b, w.byID.lookup id = some b → b.state.isTerminal = true →
    ∀ ls w', coordination.Run w ls w' → (∀ l ∈ ls, l ≠ .delete id ∧ l ≠ .close) →
      (∀ wait, w'.toCoordinator.get id wait = ⟨id, none, none⟩) ∧
      w'.toCoordinator.read id = some (copyBarrier id b)

/-- In every interleaving of calls and wake-ups the barriers of a coordinator are one-shot. -/
theorem barriers_one_shot (h : coordination.Reachable w) : OneShot w where
  closes_once := (sound_of_reachable h).channels.nodup
  uncrashed := (sound_of_reachable h).uncrashed
  active_iff := by
    simpa only [Active, BarrierState.isTerminal_eq_false] using (sound_of_reachable h).active
  moves l w' id hs := (((sound_of_reachable h).turn hs).fate id).moves
  blocks_one := List.nodup_iff_count_le_one.mp (sound_of_reachable h).once
  blocks_none := by
    intro l w' id b hs hb hended
    unfold World.blockedOn
    rcases ((sound_of_reachable h).turn hs).ids with heq | ⟨id', b', hb', harmed, -, heq⟩
    · rw [heq]
    · -- the new call has found its barrier armed
      have hne : id' ≠ id := by
        rintro rfl
        obtain rfl := Option.some.inj ((barrier_of_byID hb').symm.trans hb)
        rw [harmed] at hended
        cases hended
      simp [heq, hne]
  wakes_own := by
    intro i call l w' hcall hl hs
    have hset : ∀ call' j, j ≠ i → (w.waits.set i call')[j]? = w.waits[j]? :=
      fun call' j hj => List.getElem?_set_ne hj.symm
    change next w l = some w' at hs
    rcases hl with ⟨cause, rfl⟩ | rfl
    · simp only [next] at hs
      split at hs
      · split at hs
        · cases hs
          exact ⟨hset _, fun _ _ => .refl⟩
        · cases hs
      · cases hs
    · simp only [next] at hs
      split at hs
      · rename_i hcall'
        cases hs
        obtain rfl := Option.some.inj (hcall.symm.trans hcall')
        exact ⟨hset _, fun id hne => terminal_other (sound_of_reachable h).toSound hne⟩
      · cases hs
  readable := by
    intro id b hb hended ls w' hrun hls
    have hkept := record_kept (sound_of_reachable h) hb hended hrun hls
    simp [Coordinator.get, Coordinator.read, hkept, hended]

/-- A call wakes up after its barrier was deleted and its name armed again. -/
theorem barriers_one_shot_sample : ∃ w, coordination.Reachable w ∧
    w.blockedOn "b1" = 1 ∧ w.active.lookup "team_archive_after_lock" = some "b2" ∧ OneShot w := by
  have hrun : ∃ w, coordination.Reachable w ∧ w.blockedOn "b1" = 1 ∧
      w.active.lookup "team_archive_after_lock" = some "b2" :=
    System.Reachable.exists_of_follow (s := ⟨.new 10, [], []⟩)
      [.arm "team_archive_after_lock" "b1" 0, .wait "team_archive_after_lock", .wake 0 (.timer 10),
        .delete "b1", .arm "team_archive_after_lock" "b2" 11, .terminal 0]
      ⟨10, rfl⟩ (by decide +kernel)
  obtain ⟨w, hw, hblocked, hactive⟩ := hrun
  exact ⟨w, hw, hblocked, hactive, barriers_one_shot hw⟩

end FlowAI.Registry.TestControl
