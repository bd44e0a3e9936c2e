import FlowAI.Framework.System
import FlowAI.Gateway.Store

/-! # Derived Team Access

  The store as a transition system.  A membership write (`Create` or
  `ReplaceMembership`) is a transaction of several statements: it holds the row of its
  session from its first statement on, reads the mapping table in its last one, and
  commits.  Mappings may be registered between any two of these steps.

  The main result relates the access rows of a session, in every reachable state, to
  the join of its observations with the mappings.
-/

namespace FlowAI.Gateway

/-! ## Section 1: The store as a system -/

/-- A transaction that writes the membership of a session. -/
inductive MembershipWrite where
  | create (input : SessionInput) (txTime : Int)
  | replace (sessionID : String) (encrypted : Bytes) (oidcTeamIDs : List String) (observedAt : Int)
  deriving DecidableEq

def MembershipWrite.sessionID : MembershipWrite → String
  | .create input _ => input.sessionID
  | .replace sessionID _ _ _ => sessionID

def MembershipWrite.tx (sha256 : String → Hash) (visible : Table mappingSchema) :
    MembershipWrite → StoreTx Unit
  | .create input txTime => createSession sha256 input txTime visible
  | .replace sessionID encrypted ids observedAt =>
    replaceMembership sha256 sessionID encrypted ids observedAt visible

/-- A membership write under way, with what it has read of the mapping table. -/
structure OpenWrite where
  write : MembershipWrite
  visible : Option (Table mappingSchema)

/-- The committed tables, the transactions under way, and for each session the mappings
    that its last committed derivation read.  The last component is history: no step
    looks at it. -/
structure StoreState where
  db : Db
  writes : List OpenWrite
  derivations : List (Hash × Table mappingSchema)

def StoreState.empty : StoreState := ⟨.empty, [], []⟩

/-- The mappings that the last derivation of a session read. -/
def StoreState.derivation (s : StoreState) (hash : Hash) : Option (Table mappingSchema) :=
  (s.derivations.find? (fun d => d.1 = hash)).map Prod.snd

/-- The row lock of a session is held by a membership write. -/
def StoreState.locked (sha256 : String → Hash) (s : StoreState) (sessionID : String) : Bool :=
  s.writes.any (fun w => sha256 w.write.sessionID = sha256 sessionID)

/-- The transactions without the one on a session. -/
def StoreState.without (sha256 : String → Hash) (s : StoreState) (sessionID : String) :
    List OpenWrite :=
  s.writes.filter (fun w => sha256 w.write.sessionID ≠ sha256 sessionID)

inductive StoreLabel where
  | register (mapping : MappingRow)
  | refreshPresentation (teamID teamName : String) (archivedAt : Option Int)
  | deleteSession (sessionID : String)
  | recordToken (context : TokenContext) (jti : String) (issuedAt expiresAt : Int)
  | begin (write : MembershipWrite)
  | derive (sessionID : String)
  | commit (sessionID : String)
  | abort (sessionID : String)
  deriving DecidableEq

/-- Run the statements of a membership write that has read the mappings, and commit. -/
def StoreState.finish (sha256 : String → Hash) (s : StoreState) (write : MembershipWrite)
    (visible : Table mappingSchema) : StoreState :=
  match write.tx sha256 visible s.db with
  | .ok (_, db') => {
      db := db'
      writes := s.without sha256 write.sessionID
      derivations := (sha256 write.sessionID, visible) :: s.derivations }
  | .error _ => { s with writes := s.without sha256 write.sessionID }

def StoreState.next (sha256 : String → Hash) (s : StoreState) : StoreLabel → Option StoreState
  | .register mapping => some { s with db := (register mapping).commit s.db }
  | .refreshPresentation teamID teamName archivedAt =>
    some { s with db := (refreshPresentation teamID teamName archivedAt).commit s.db }
  | .deleteSession sessionID =>
    if s.locked sha256 sessionID then none
    else some { s with db := (deleteSession sha256 sessionID).commit s.db }
  | .recordToken context jti issuedAt expiresAt =>
    some { s with db := (recordToken sha256 context jti issuedAt expiresAt).commit s.db }
  | .begin write =>
    if s.locked sha256 write.sessionID then none
    else some { s with writes := ⟨write, none⟩ :: s.writes }
  | .derive sessionID =>
    some { s with writes := s.writes.map (fun w =>
      if sha256 w.write.sessionID = sha256 sessionID then { w with visible := some s.db.mappings }
      else w) }
  | .commit sessionID =>
    match s.writes.find? (fun w => sha256 w.write.sessionID = sha256 sessionID) with
    | some ⟨write, some visible⟩ => some (s.finish sha256 write visible)
    | _ => none
  | .abort sessionID => some { s with writes := s.without sha256 sessionID }

def store (sha256 : String → Hash) : System StoreState StoreLabel :=
  .ofNext (· = .empty) (StoreState.next sha256)

/-- The error that a call ends in with a step, if the step ends a call. -/
def StoreState.callError (sha256 : String → Hash) (s : StoreState) : StoreLabel → Option StoreError
  | .register mapping => (register mapping).errorOf s.db
  | .refreshPresentation teamID teamName archivedAt =>
    (refreshPresentation teamID teamName archivedAt).errorOf s.db
  | .deleteSession sessionID => (deleteSession sha256 sessionID).errorOf s.db
  | .recordToken context jti issuedAt expiresAt =>
    (recordToken sha256 context jti issuedAt expiresAt).errorOf s.db
  | .commit sessionID =>
    match s.writes.find? (fun w => sha256 w.write.sessionID = sha256 sessionID) with
    | some ⟨write, some visible⟩ => (write.tx sha256 visible).errorOf s.db
    | _ => none
  | .begin _ => none
  | .derive _ => none
  | .abort _ => none

/-! ## Section 2: What a step can do -/

/-- The pair of a mapping never changes, only its presentation. -/
def MappingRow.SamePair (m m' : MappingRow) : Prop :=
  m'.issuer = m.issuer ∧ m'.oidcTeamID = m.oidcTeamID ∧ m'.teamID = m.teamID

theorem MappingRow.SamePair.refl (m : MappingRow) : m.SamePair m := ⟨rfl, rfl, rfl⟩

theorem MappingRow.SamePair.trans {a b c : MappingRow} (h : a.SamePair b) (h' : b.SamePair c) :
    a.SamePair c :=
  ⟨h'.1.trans h.1, h'.2.1.trans h.2.1, h'.2.2.trans h.2.2⟩

/-- The mappings of a view that are still there. -/
def Known (visible mappings : Table mappingSchema) : Prop :=
  visible.Persists MappingRow.SamePair mappings

theorem Known.refl (mappings : Table mappingSchema) : Known mappings mappings :=
  Table.Persists.refl MappingRow.SamePair.refl mappings

theorem Known.trans {a b c : Table mappingSchema} (h : Known a b) (h' : Known b c) : Known a c :=
  Table.Persists.trans (fun _ _ _ => MappingRow.SamePair.trans) h h'

/-- What holds of the tables in every reachable state. -/
structure Coherent (s : StoreState) : Prop where
  /-- Foreign keys of the observations. -/
  observed : ∀ o ∈ s.db.observations.rows, (s.db.sessions.lookup o.sessionHash).isSome
  /-- An access row stands for a mapping of the session's issuer that the session observes. -/
  granted : ∀ a ∈ s.db.access.rows, ∃ session, s.db.sessions.lookup a.sessionHash = some session ∧
    a.mappingIssuer = session.issuer ∧
    (∃ o ∈ s.db.observations.rows, o.sessionHash = a.sessionHash ∧
      o.oidcTeamID = a.mappingOidcTeamID) ∧
    ∃ m, s.db.mappings.lookup (a.mappingIssuer, a.mappingOidcTeamID) = some m ∧ m.teamID = a.teamID
  /-- Every mapping that the last derivation could read and the session observes has its row. -/
  complete : ∀ hash session visible, s.db.sessions.lookup hash = some session →
    s.derivation hash = some visible → ∀ m ∈ visible.rows, m.issuer = session.issuer →
    (∃ o ∈ s.db.observations.rows, o.sessionHash = hash ∧ o.oidcTeamID = m.oidcTeamID) →
    ∃ a ∈ s.db.access.rows, a.sessionHash = hash ∧ a.teamID = m.teamID ∧
      a.mappingIssuer = m.issuer ∧ a.mappingOidcTeamID = m.oidcTeamID
  derived : ∀ hash, (s.db.sessions.lookup hash).isSome → (s.derivation hash).isSome
  /-- Views that transactions and derivations have read. -/
  known : ∀ w ∈ s.writes, ∀ visible ∈ w.visible, Known visible s.db.mappings

/-- The effect of a step: on the mappings, on one session, or on what is under way. -/
inductive StoreEffect (sha256 : String → Hash) (s : StoreState) : StoreLabel → StoreState → Prop where
  | mappings {l mappings} (known : Known s.db.mappings mappings) :
      StoreEffect sha256 s l { s with db := { s.db with mappings } }
  | tokens {context jti issuedAt expiresAt tokens}
      (inserted : s.db.tokens.insert ⟨sha256 jti, context.sessionHash, context.operatorID,
        context.teamID, Time.toMicros issuedAt, Time.toMicros expiresAt⟩ = .ok tokens)
      (found : (s.db.sessions.lookup context.sessionHash).isSome) :
      StoreEffect sha256 s (.recordToken context jti issuedAt expiresAt)
        { s with db := { s.db with tokens } }
  | deleted {sessionID} : StoreEffect sha256 s (.deleteSession sessionID) { s with db := { s.db with
      sessions := s.db.sessions.delete (fun r => r.sessionHash = sha256 sessionID)
      observations := s.db.observations.delete (fun r => r.sessionHash = sha256 sessionID)
      access := s.db.access.delete (fun r => r.sessionHash = sha256 sessionID)
      tokens := s.db.tokens.delete (fun r => r.sessionHash = sha256 sessionID) } }
  | observed {sessionID} {write : MembershipWrite} {visible : Table mappingSchema}
      {session : SessionRow} {ids : List String} {db' : Db}
      (under : ⟨write, some visible⟩ ∈ s.writes)
      (named : sha256 write.sessionID = sha256 sessionID)
      (ran : write.tx sha256 visible s.db = .ok ((), db'))
      (hash : session.sessionHash = sha256 write.sessionID)
      (wrote : Observed visible session ids s.db db') :
      StoreEffect sha256 s (.commit sessionID) {
        db := db', writes := s.without sha256 write.sessionID
        derivations := (sha256 write.sessionID, visible) :: s.derivations }
  | pending {l} {writes : List OpenWrite} (views : ∀ w ∈ writes, ∀ visible ∈ w.visible,
        visible = s.db.mappings ∨ ∃ w' ∈ s.writes, visible ∈ w'.visible) :
      StoreEffect sha256 s l { s with writes }

/-- A call that fails has no effect. -/
theorem StoreEffect.of_commit {sha256 : String → Hash} {s : StoreState} {l : StoreLabel} {α : Type}
    {x : StoreTx α}
    (h : ∀ a db, x s.db = .ok (a, db) → StoreEffect sha256 s l { s with db }) :
    StoreEffect sha256 s l { s with db := x.commit s.db } := by
  rcases Tx.commit_cases x s.db with hsame | ⟨a, hok⟩
  · rw [hsame]
    exact .mappings (.refl _)
  · exact h a _ hok

variable {sha256 : String → Hash} {s s' : StoreState}

theorem mem_without {sessionID : String} {w : OpenWrite} (h : w ∈ s.without sha256 sessionID) :
    w ∈ s.writes := List.mem_of_mem_filter h

variable {visible : Table mappingSchema} {l : StoreLabel} {writes : List OpenWrite}

theorem Coherent.created (hs : Coherent s) {input : SessionInput} {txTime : Int} {u : Unit}
    {db' : Db} (hrun : createSession sha256 input txTime visible s.db = .ok (u, db')) :
    Observed visible (input.row sha256 txTime) input.oidcTeamIDs s.db db' := by
  refine (createSession_eq_ok hrun hs.observed ?_).2.2
  intro a ha
  obtain ⟨session, hsession, -⟩ := hs.granted a ha
  rw [hsession]
  rfl

theorem finish_effect (hs : Coherent s) {sessionID : String} {write : MembershipWrite}
    (hunder : ⟨write, some visible⟩ ∈ s.writes)
    (hnamed : sha256 write.sessionID = sha256 sessionID) :
    StoreEffect sha256 s (.commit sessionID) (s.finish sha256 write visible) := by
  unfold StoreState.finish
  cases hrun : write.tx sha256 visible s.db with
  | error e => exact .pending (fun w hw v hv => .inr ⟨w, mem_without hw, hv⟩)
  | ok result =>
    obtain ⟨u, db'⟩ := result
    cases write with
    | create input txTime =>
      exact .observed hunder hnamed hrun rfl (hs.created hrun)
    | replace id encrypted ids observedAt =>
      obtain ⟨session, hfound, hwrote⟩ := replaceMembership_eq_ok hrun
      have hhash : (session.observe encrypted (Time.toMicros observedAt)).sessionHash = sha256 id :=
        Table.key_of_lookup hfound
      exact .observed hunder hnamed hrun hhash hwrote

/-- Every step is one of the effects. -/
theorem store_step_effect (hs : Coherent s) (h : s.next sha256 l = some s') :
    StoreEffect sha256 s l s' := by
  cases l with
  | register mapping =>
    cases h
    refine .of_commit ?_
    intro _ _ hok
    rcases register_eq_ok hok with ⟨mappings, hins, rfl⟩ | rfl
    · exact .mappings (Table.persists_insert MappingRow.SamePair.refl hins)
    · exact .mappings (.refl _)
  | refreshPresentation teamID teamName archivedAt =>
    cases h
    refine .of_commit ?_
    intro _ _ hok
    obtain ⟨key, mappings, hupd, rfl⟩ := refreshPresentation_eq_ok hok
    exact .mappings (Table.persists_update MappingRow.SamePair.refl hupd
      (fun m _ => ⟨rfl, rfl, rfl⟩))
  | deleteSession sessionID =>
    simp only [StoreState.next] at h
    split_ifs at h
    cases h
    refine .of_commit ?_
    intro _ _ hok
    obtain ⟨-, rfl⟩ := deleteSession_eq_ok hok
    exact .deleted
  | recordToken context jti issuedAt expiresAt =>
    cases h
    refine .of_commit ?_
    intro _ _ hok
    obtain ⟨tokens, hins, hfound, rfl⟩ := recordToken_eq_ok hok
    exact .tokens hins hfound
  | begin write =>
    simp only [StoreState.next] at h
    split_ifs at h
    injection h with h
    subst h
    refine .pending ?_
    intro w hw visible hvisible
    rcases List.mem_cons.mp hw with rfl | hw
    · cases hvisible
    · exact .inr ⟨w, hw, hvisible⟩
  | derive sessionID =>
    injection h with h
    subst h
    refine .pending ?_
    intro w hw visible hvisible
    obtain ⟨w', hw', rfl⟩ := List.mem_map.mp hw
    split at hvisible
    · exact .inl (Option.some.inj hvisible).symm
    · exact .inr ⟨w', hw', hvisible⟩
  | commit sessionID =>
    simp only [StoreState.next] at h
    split at h
    · rename_i write visible hfind
      injection h with h
      have hnamed := List.find?_some hfind
      exact h ▸ finish_effect hs (List.mem_of_find?_eq_some hfind) (by simpa using hnamed)
    · cases h
  | abort sessionID =>
    injection h with h
    subst h
    exact .pending (fun w hw v hv => .inr ⟨w, mem_without hw, hv⟩)

/-! ## Section 3: The tables stay coherent -/

theorem coherent_empty : Coherent .empty where
  observed := by simp [StoreState.empty, Db.empty]
  granted := by simp [StoreState.empty, Db.empty]
  complete := by simp [StoreState.empty, Db.empty]
  derived := by simp [StoreState.empty, Db.empty]
  known := by simp [StoreState.empty]

theorem Coherent.mappings (hs : Coherent s) {mappings : Table mappingSchema}
    (hknown : Known s.db.mappings mappings) :
    Coherent { s with db := { s.db with mappings } } := by
  refine { hs with
    granted := ?_
    known := fun w hw visible hvisible => (hs.known w hw visible hvisible).trans hknown }
  intro a ha
  obtain ⟨session, hsession, hissuer, hobs, m, hm, hteam⟩ := hs.granted a ha
  obtain ⟨m', hm', hpair⟩ := hknown _ m hm
  exact ⟨session, hsession, hissuer, hobs, m', hm', hpair.2.2.trans hteam⟩

theorem Coherent.pending (hs : Coherent s) (hviews : ∀ w ∈ writes, ∀ visible ∈ w.visible,
      visible = s.db.mappings ∨ ∃ w' ∈ s.writes, visible ∈ w'.visible) :
    Coherent { s with writes } := by
  refine { hs with known := ?_ }
  intro w hw visible hvisible
  rcases hviews w hw visible hvisible with rfl | ⟨w', hw', hvisible'⟩
  · exact Known.refl _
  · exact hs.known w' hw' visible hvisible'

/-- Deleting a session takes its rows away and leaves the others. -/
theorem Coherent.deleted (hs : Coherent s) (hash : Hash) (tokens : Table tokenSchema) :
    Coherent { s with db := { s.db with
      sessions := s.db.sessions.delete (fun r => r.sessionHash = hash)
      observations := s.db.observations.delete (fun r => r.sessionHash = hash)
      access := s.db.access.delete (fun r => r.sessionHash = hash)
      tokens } } := by
  have hkeep : ∀ {h : Hash} {session : SessionRow}, h ≠ hash →
      s.db.sessions.lookup h = some session →
      (s.db.sessions.delete (fun r => r.sessionHash = hash)).lookup h = some session := by
    intro h session hne hsession
    refine Table.lookup_delete.mpr ⟨hsession, ?_⟩
    have hhash : session.sessionHash = h := Table.key_of_lookup hsession
    rw [hhash]
    exact decide_eq_false hne
  have hold : ∀ {h : Hash} {session : SessionRow},
      (s.db.sessions.delete (fun r => r.sessionHash = hash)).lookup h = some session →
      s.db.sessions.lookup h = some session ∧ h ≠ hash := by
    intro h session hsession
    obtain ⟨hsession, hne⟩ := Table.lookup_delete.mp hsession
    have hhash : session.sessionHash = h := Table.key_of_lookup hsession
    exact ⟨hsession, hhash ▸ decide_eq_false_iff_not.mp hne⟩
  refine ⟨?_, ?_, ?_, ?_, hs.known⟩
  · intro o ho
    obtain ⟨ho, hne⟩ := Table.mem_delete.mp ho
    obtain ⟨session, hsession⟩ := Option.isSome_iff_exists.mp (hs.observed o ho)
    have hlookup := hkeep (decide_eq_false_iff_not.mp hne) hsession
    exact Option.isSome_iff_exists.mpr ⟨session, hlookup⟩
  · intro a ha
    obtain ⟨ha, hne⟩ := Table.mem_delete.mp ha
    obtain ⟨session, hsession, hissuer, ⟨o, ho, hhash, hid⟩, hm⟩ := hs.granted a ha
    have hne := decide_eq_false_iff_not.mp hne
    refine ⟨session, hkeep hne hsession, hissuer, ⟨o, ?_, hhash, hid⟩, hm⟩
    exact Table.mem_delete.mpr ⟨ho, decide_eq_false (hhash ▸ hne)⟩
  · intro h session visible hsession hvisible m hm hissuer hobs
    obtain ⟨hsession, hne⟩ := hold hsession
    obtain ⟨o, ho, hhash, hid⟩ := hobs
    obtain ⟨a, ha, hahash, hrest⟩ := hs.complete h session visible hsession hvisible m hm hissuer
      ⟨o, (Table.mem_delete.mp ho).1, hhash, hid⟩
    exact ⟨a, Table.mem_delete.mpr ⟨ha, decide_eq_false (hahash ▸ hne)⟩, hahash, hrest⟩
  · intro h hsome
    obtain ⟨session, hsession⟩ := Option.isSome_iff_exists.mp hsome
    exact hs.derived h (Option.isSome_iff_exists.mpr ⟨session, (hold hsession).1⟩)

/-- The rows of a session after its membership was written are the join of what was
    observed with what was visible. -/
theorem Coherent.observed_write (hs : Coherent s)
    {session : SessionRow} {ids : List String} {db' : Db}
    (hvisible : Known visible s.db.mappings) (hwrote : Observed visible session ids s.db db')
    (hwrites : ∀ w ∈ writes, w ∈ s.writes) :
    Coherent ⟨db', writes, (session.sessionHash, visible) :: s.derivations⟩ := by
  have hderivation : ∀ hash, StoreState.derivation
      ⟨db', writes, (session.sessionHash, visible) :: s.derivations⟩ hash =
      if session.sessionHash = hash then some visible else s.derivation hash := by
    intro hash
    unfold StoreState.derivation
    rw [List.find?_cons]
    by_cases hhash : session.sessionHash = hash
    · simp [hhash]
    · simp [hhash]
  refine ⟨?_, ?_, ?_, ?_, ?_⟩
  · intro o ho
    rcases (hwrote.observations o).mp ho with ⟨ho, hne⟩ | ho
    · rw [hwrote.others _ hne]
      exact hs.observed o ho
    · obtain ⟨id, -, rfl⟩ := List.mem_map.mp ho
      rw [hwrote.stored]
      rfl
  · intro a ha
    rcases (hwrote.access a).mp ha with ⟨ha, hne⟩ | ⟨m, hm, hissuer, hmem, rfl⟩
    · obtain ⟨owner, howner, howned, ⟨o, ho, hhash, hoid⟩, m, hm, hteam⟩ := hs.granted a ha
      refine ⟨owner, (hwrote.others _ hne).trans howner, howned, ⟨o, ?_, hhash, hoid⟩, m, ?_, hteam⟩
      · exact (hwrote.mem_other (hhash ▸ hne)).mpr ho
      · rw [hwrote.mappings]
        exact hm
    · obtain ⟨m', hm', hpair⟩ := hvisible _ m (Table.lookup_key hm)
      refine ⟨session, hwrote.stored, hissuer, (hwrote.mem_ids m.oidcTeamID).mpr hmem, m', ?_, hpair.2.2⟩
      rw [hwrote.mappings]
      exact hm'
  · intro hash owner view howner hview m hm hissuer hobs
    rw [hderivation] at hview
    by_cases hhash : session.sessionHash = hash
    · subst hhash
      rw [if_pos rfl, Option.some.injEq] at hview
      subst hview
      have hsame : session = owner := Option.some.inj (hwrote.stored.symm.trans howner)
      subst hsame
      exact ⟨_, (hwrote.access _).mpr (.inr ⟨m, hm, hissuer, (hwrote.mem_ids _).mp hobs, rfl⟩), rfl, rfl, rfl,
        rfl⟩
    · rw [if_neg hhash] at hview
      rw [hwrote.others hash (Ne.symm hhash)] at howner
      obtain ⟨o, ho, hohash, hoid⟩ := hobs
      obtain ⟨a, ha, hahash, hrest⟩ := hs.complete hash owner view howner hview m hm hissuer
        ⟨o, (hwrote.mem_other (hohash ▸ Ne.symm hhash)).mp ho, hohash, hoid⟩
      exact ⟨a, (hwrote.access a).mpr (.inl ⟨ha, hahash ▸ Ne.symm hhash⟩), hahash, hrest⟩
  · intro hash hsome
    rw [hderivation]
    by_cases hhash : session.sessionHash = hash
    · rw [if_pos hhash]
      rfl
    · rw [if_neg hhash]
      rw [hwrote.others hash (Ne.symm hhash)] at hsome
      exact hs.derived hash hsome
  · intro w hw view hview
    show Known view db'.mappings
    rw [hwrote.mappings]
    exact hs.known w (hwrites w hw) view hview

theorem Coherent.effect (hs : Coherent s) (h : StoreEffect sha256 s l s') :
    Coherent s' := by
  cases h with
  | mappings hknown => exact hs.mappings hknown
  | tokens _ _ => exact { hs with }
  | deleted => exact hs.deleted _ _
  | observed hunder _ _ hhash hwrote =>
    rw [← hhash]
    exact hs.observed_write (hs.known _ hunder _ rfl) hwrote (fun w hw => mem_without hw)
  | pending hviews => exact hs.pending hviews

theorem coherent_reachable (h : (store sha256).Reachable s) : Coherent s := by
  refine System.Reachable.invariant ?_ ?_ h
  · rintro _ rfl
    exact coherent_empty
  · intro s l s' _ hs hstep
    exact hs.effect (store_step_effect hs hstep)

/-- A registered pair stays for ever. -/
theorem known_step (hs : Coherent s) (h : s.next sha256 l = some s') :
    Known s.db.mappings s'.db.mappings := by
  cases store_step_effect hs h with
  | mappings hknown => exact hknown
  | tokens | deleted => exact Known.refl _
  | observed _ _ _ _ hwrote =>
    show Known s.db.mappings _
    rw [hwrote.mappings]
    exact Known.refl _
  | pending _ => exact Known.refl _

theorem known_run {ls : List StoreLabel} (hr : (store sha256).Reachable s)
    (h : (store sha256).Run s ls s') : Known s.db.mappings s'.db.mappings :=
  System.Run.relate (R := fun a b => Known a.db.mappings b.db.mappings)
    (fun _ => Known.refl _) (fun _ _ _ => Known.trans)
    (fun _ _ _ hr hstep => known_step (coherent_reachable hr) hstep) hr h

/-! ## Section 4: Derived access is membership joined with mappings -/

/-- Two readers join the same rows. -/
theorem accessibleTeams_iff_tokenContext (db : Db) (sessionID teamID : String) (now : Int) :
    (∃ teams, accessibleTeams sha256 db sessionID now = .ok teams ∧ ∃ t ∈ teams, t.teamID = teamID) ↔
      ∃ context, tokenContext sha256 db sessionID teamID now = .ok context := by
  unfold accessibleTeams tokenContext
  generalize sessionMappings db (sha256 sessionID) now = joined
  have hsorted : ∀ m, m ∈ (joined.map Prod.snd).insertionSort (fun a b => a.listedBefore b = true) ↔
      ∃ p ∈ joined, p.2 = m := by
    intro m
    rw [List.mem_insertionSort, List.mem_map]
  constructor
  · rintro ⟨teams, hteams, t, ht, rfl⟩
    dsimp only at hteams
    split_ifs at hteams
    injection hteams with hteams
    subst hteams
    obtain ⟨m, hm, rfl⟩ := List.mem_map.mp ht
    obtain ⟨p, hp, rfl⟩ := (hsorted m).mp hm
    cases hfind : joined.find? (fun q => q.2.teamID = p.2.teamID) with
    | none =>
      have hnone := List.find?_eq_none.mp hfind p hp
      simp at hnone
    | some q => exact ⟨_, rfl⟩
  · rintro ⟨context, hcontext⟩
    cases hfind : joined.find? (fun q => q.2.teamID = teamID) with
    | none =>
      rw [hfind] at hcontext
      dsimp only at hcontext
      split_ifs at hcontext
    | some q =>
      have hmem := (hsorted q.2).mpr ⟨q, List.mem_of_find?_eq_some hfind, rfl⟩
      have hne : (joined.map Prod.snd).insertionSort (fun a b => a.listedBefore b = true) ≠ [] :=
        List.ne_nil_of_mem hmem
      have hteam := List.find?_some hfind
      refine ⟨_, if_neg (by simp [hne]), _, List.mem_map.mpr ⟨q.2, hmem, rfl⟩, ?_⟩
      simpa using hteam

/-- A call that fails leaves the tables as they were. -/
theorem unchanged_of_callError {e : StoreError}
    (herr : s.callError sha256 l = some e) (h : s.next sha256 l = some s') : s'.db = s.db := by
  cases l with
  | register mapping | refreshPresentation teamID teamName archivedAt
  | recordToken context jti issuedAt expiresAt =>
    injection h with h
    exact h ▸ Tx.commit_of_error (Tx.errorOf_eq_some.mp herr)
  | deleteSession sessionID =>
    simp only [StoreState.next] at h
    split_ifs at h
    injection h with h
    exact h ▸ Tx.commit_of_error (Tx.errorOf_eq_some.mp herr)
  | commit sessionID =>
    simp only [StoreState.next, StoreState.callError] at h herr
    split at h
    · rename_i write visible hfind
      rw [hfind] at herr
      injection h with h
      have hrun := Tx.errorOf_eq_some.mp herr
      rw [← h, StoreState.finish, hrun]
    · cases h
  | begin | derive | abort => cases herr

/-- In every reachable state: mappings are one-to-one and no pair is ever lost; an access row
    stands for a mapping of the session's issuer that the session observes now; every such
    mapping that the session's last derivation could read has its row; the two readers agree;
    and a call that fails changes nothing. -/
theorem derived_access_is_join (h : (store sha256).Reachable s) :
    (∀ m ∈ s.db.mappings.rows, ∀ m' ∈ s.db.mappings.rows,
      (m.issuer = m'.issuer ∧ m.oidcTeamID = m'.oidcTeamID) ↔ m.teamID = m'.teamID) ∧
    (∀ ls s', (store sha256).Run s ls s' → ∀ m ∈ s.db.mappings.rows, ∃ m' ∈ s'.db.mappings.rows,
      m'.issuer = m.issuer ∧ m'.oidcTeamID = m.oidcTeamID ∧ m'.teamID = m.teamID) ∧
    (∀ a ∈ s.db.access.rows, ∃ session ∈ s.db.sessions.rows, ∃ o ∈ s.db.observations.rows,
      ∃ m ∈ s.db.mappings.rows, session.sessionHash = a.sessionHash ∧
        o.sessionHash = a.sessionHash ∧ m.issuer = session.issuer ∧ m.issuer = a.mappingIssuer ∧
        m.oidcTeamID = a.mappingOidcTeamID ∧ m.oidcTeamID = o.oidcTeamID ∧ m.teamID = a.teamID) ∧
    (∀ session ∈ s.db.sessions.rows, ∃ visible, s.derivation session.sessionHash = some visible ∧
      ∀ m ∈ visible.rows, m.issuer = session.issuer → ∀ o ∈ s.db.observations.rows,
        o.sessionHash = session.sessionHash → o.oidcTeamID = m.oidcTeamID →
        ∃ a ∈ s.db.access.rows, a.sessionHash = session.sessionHash ∧ a.teamID = m.teamID ∧
          a.mappingIssuer = m.issuer ∧ a.mappingOidcTeamID = m.oidcTeamID) ∧
    (∀ sessionID teamID now, (∃ teams, accessibleTeams sha256 s.db sessionID now = .ok teams ∧
        ∃ t ∈ teams, t.teamID = teamID) ↔
      ∃ context, tokenContext sha256 s.db sessionID teamID now = .ok context) ∧
    (∀ l e s', s.callError sha256 l = some e → (store sha256).step s l s' → s'.db = s.db) := by
  have hs := coherent_reachable h
  refine ⟨?_, ?_, ?_, ?_, accessibleTeams_iff_tokenContext s.db, ?_⟩
  · intro m hm m' hm'
    constructor
    · rintro ⟨hissuer, hid⟩
      have hkey : mappingSchema.key m = mappingSchema.key m' := Prod.ext hissuer hid
      rw [Table.eq_of_key_eq hm hm' hkey]
    · intro hteam
      have hsame : m = m' := Table.eq_of_tuple_eq (u := fun r => some [r.teamID])
        (List.mem_singleton.mpr rfl) hm hm' rfl (by rw [hteam])
      rw [hsame]
      exact ⟨rfl, rfl⟩
  · intro ls s' hrun m hm
    obtain ⟨m', hm', hpair⟩ := known_run h hrun _ m (Table.lookup_key hm)
    exact ⟨m', Table.mem_of_lookup hm', hpair⟩
  · intro a ha
    obtain ⟨session, hsession, hissuer, ⟨o, ho, hohash, hoid⟩, m, hm, hteam⟩ := hs.granted a ha
    have hkey : (m.issuer, m.oidcTeamID) = (a.mappingIssuer, a.mappingOidcTeamID) :=
      Table.key_of_lookup hm
    obtain ⟨hmissuer, hmid⟩ := Prod.mk.inj hkey
    exact ⟨session, Table.mem_of_lookup hsession, o, ho, m, Table.mem_of_lookup hm,
      Table.key_of_lookup hsession, hohash, hmissuer.trans hissuer, hmissuer, hmid,
      hmid.trans hoid.symm, hteam⟩
  · intro session hsession
    have hlookup := Table.lookup_key hsession
    obtain ⟨visible, hvisible⟩ := Option.isSome_iff_exists.mp
      (hs.derived _ (Option.isSome_iff_exists.mpr ⟨session, hlookup⟩))
    refine ⟨visible, hvisible, ?_⟩
    intro m hm hissuer o ho hohash hoid
    exact hs.complete _ session visible hlookup hvisible m hm hissuer ⟨o, ho, hohash, hoid⟩
  · intro l e s' herr hstep
    exact unchanged_of_callError herr hstep

/-! ### A small run -/

/-- A hash that is easy to evaluate. -/
def sampleHash (text : String) : Hash := utf8Encode text.toList

def sampleMapping : MappingRow := ⟨"https://issuer", "alpha", "team_1", none, none⟩

def sampleInput : SessionInput :=
  ⟨"session", "oidc_1", "https://issuer", "sub_1", [1], ["alpha", "beta"], 1000, 3600000000000⟩

def sampleLogin : List StoreLabel :=
  [.register sampleMapping, .begin (.create sampleInput 0), .derive "session", .commit "session"]

theorem derived_access_is_join_sample : ∃ s, System.follow (StoreState.next sampleHash) .empty
      sampleLogin = some s ∧ s.db.access.rows.map AccessRow.teamID = ["team_1"] ∧
    ∀ a ∈ s.db.access.rows, ∃ session ∈ s.db.sessions.rows, ∃ o ∈ s.db.observations.rows,
      ∃ m ∈ s.db.mappings.rows, session.sessionHash = a.sessionHash ∧
        o.sessionHash = a.sessionHash ∧ m.issuer = session.issuer ∧ m.issuer = a.mappingIssuer ∧
        m.oidcTeamID = a.mappingOidcTeamID ∧ m.oidcTeamID = o.oidcTeamID ∧ m.teamID = a.teamID := by
  have hrun : ∃ s, System.follow (StoreState.next sampleHash) .empty sampleLogin = some s ∧
      s.db.access.rows.map AccessRow.teamID = ["team_1"] := by decide +kernel
  obtain ⟨s, hs, hteams⟩ := hrun
  have hreach : (store sampleHash).Reachable s := .of_follow rfl hs
  exact ⟨s, hs, hteams, (derived_access_is_join hreach).2.2.1⟩

end FlowAI.Gateway
