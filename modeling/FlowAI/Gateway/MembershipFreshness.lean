import FlowAI.Gateway.Server

/-! # Freshness of Membership

  A refresh of a session's membership reads the clock first, asks the provider, and then
  writes what it learned under the instant it has read.  The row lock of the session
  orders the writes of two refreshes, but not the instants they have read.

  In every run in which the refreshes of one session do not overlap, the stored membership
  is that of the latest observation.  The run at the end has two refreshes that overlap.
-/

namespace FlowAI.Gateway

variable {db' : Db} {session : SessionRow} {visible : Table mappingSchema} {sessionID : String}
  {new : Option Issue}

variable {cfg : GatewayConfig} {s s' : GatewayState}

/-! ## Section 1: What is stored of an observation -/

/-- The row of a session, its observed teams and its team access are those of one
    membership write. -/
structure Written.Stored (w : Written) (db : Db) (session : SessionRow) : Prop where
  hash : w.sessionHash = session.sessionHash
  observedAt : session.membershipObservedAt = Time.toMicros w.observedAt
  providerState : session.encryptedProviderState = w.encrypted
  observations : ∀ id, (∃ o ∈ db.observations.rows, o.sessionHash = session.sessionHash ∧
    o.oidcTeamID = id) ↔ id ∈ w.oidcTeamIDs
  access : ∀ team, (∃ a ∈ db.access.rows, a.sessionHash = session.sessionHash ∧ a.teamID = team) ↔
    ∃ m ∈ w.visible.rows, m.issuer = session.issuer ∧ m.oidcTeamID ∈ w.oidcTeamIDs ∧ m.teamID = team

/-- The rows that refer to a session are the same in two databases. -/
def SameMembership (db db' : Db) (hash : Hash) : Prop :=
  (∀ o : ObservationRow, o.sessionHash = hash →
    (o ∈ db'.observations.rows ↔ o ∈ db.observations.rows)) ∧
  ∀ a : AccessRow, a.sessionHash = hash → (a ∈ db'.access.rows ↔ a ∈ db.access.rows)

variable {db : Db} {a b : StoreState} {l : GatewayLabel} {ls : List GatewayLabel}

theorem Written.Stored.frame {w : Written} (h : w.Stored db session)
    (hsame : SameMembership db db' session.sessionHash) :
    w.Stored db' session := by
  refine { h with observations := ?_, access := ?_ }
  · intro id
    rw [← h.observations id]
    refine exists_congr (fun o => ?_)
    by_cases hhash : o.sessionHash = session.sessionHash
    · rw [hsame.1 o hhash]
    · simp [hhash]
  · intro team
    rw [← h.access team]
    refine exists_congr (fun a => ?_)
    by_cases hhash : a.sessionHash = session.sessionHash
    · rw [hsame.2 a hhash]
    · simp [hhash]

theorem Written.stored_of_observed {w : Written}
    (hwrote : Observed visible session w.oidcTeamIDs db db') (hvisible : w.visible = visible)
    (hhash : session.sessionHash = w.sessionHash)
    (hstate : session.encryptedProviderState = w.encrypted)
    (hat : session.membershipObservedAt = Time.toMicros w.observedAt) : w.Stored db' session where
  hash := hhash.symm
  observedAt := hat
  providerState := hstate
  observations := hwrote.mem_ids
  access := by
    intro team
    rw [hvisible]
    constructor
    · rintro ⟨a, ha, hahash, rfl⟩
      rcases (hwrote.access a).mp ha with ⟨-, hne⟩ | ⟨m, hm, hissuer, hid, rfl⟩
      · exact absurd hahash hne
      · exact ⟨m, hm, hissuer, hid, rfl⟩
    · rintro ⟨m, hm, hissuer, hid, rfl⟩
      exact ⟨_, (hwrote.access _).mpr (.inr ⟨m, hm, hissuer, hid, rfl⟩), rfl, rfl⟩

/-- A membership write leaves the rows of other sessions alone. -/
theorem sameMembership_of_observed {ids : List String}
    (hwrote : Observed visible session ids db db') {hash : Hash}
    (hne : hash ≠ session.sessionHash) : SameMembership db db' hash := by
  refine ⟨fun o ho => hwrote.mem_other (ho ▸ hne), ?_⟩
  intro a ha
  rw [hwrote.access]
  constructor
  · rintro (⟨hmem, -⟩ | ⟨m, -, -, -, rfl⟩)
    · exact hmem
    · exact absurd ha.symm hne
  · intro hmem
    exact .inl ⟨hmem, ha ▸ hne⟩

/-! ## Section 2: Steps of the store that write no session -/

/-- Sessions may disappear, with what refers to them; nothing else changes for a session. -/
structure KeepsSessions (a b : StoreState) : Prop where
  sessions : ∀ session ∈ b.db.sessions.rows, session ∈ a.db.sessions.rows ∧
    SameMembership a.db b.db session.sessionHash
  logins : ∀ w ∈ b.writes, ∀ input txTime, w.write = .create input txTime →
    ∃ w' ∈ a.writes, w'.write = .create input txTime

theorem SameMembership.refl {hash : Hash} : SameMembership db db hash :=
  ⟨fun _ _ => Iff.rfl, fun _ _ => Iff.rfl⟩

/-- Only a commit changes the rows of a session that stays. -/
theorem StoreEffect.sessions {l : StoreLabel} (h : StoreEffect cfg.sha256 a l b)
    (hcommit : ∀ id, l ≠ .commit id) : ∀ session ∈ b.db.sessions.rows,
      session ∈ a.db.sessions.rows ∧ SameMembership a.db b.db session.sessionHash := by
  intro session hsession
  cases h with
  | deleted =>
    obtain ⟨hsession, hne⟩ := Table.mem_delete.mp hsession
    have hne := decide_eq_false_iff_not.mp hne
    refine ⟨hsession, ?_, ?_⟩
    · intro o ho
      rw [Table.mem_delete, decide_eq_false_iff_not, ho]
      exact and_iff_left hne
    · intro r hr
      rw [Table.mem_delete, decide_eq_false_iff_not, hr]
      exact and_iff_left hne
  | observed => exact absurd rfl (hcommit _)
  | mappings | tokens | pending => exact ⟨hsession, .refl⟩

/-- A login is under way since its own transaction began. -/
theorem logins_of_next {l : StoreLabel} (h : a.next cfg.sha256 l = some b)
    (hcommit : ∀ id, l ≠ .commit id) (hbegin : ∀ input txTime, l ≠ .begin (.create input txTime)) :
    ∀ w ∈ b.writes, ∀ input txTime, w.write = .create input txTime →
      ∃ w' ∈ a.writes, w'.write = .create input txTime := by
  intro w hw input txTime hwrite
  cases l with
  | register | refreshPresentation | recordToken =>
    cases h
    exact ⟨w, hw, hwrite⟩
  | deleteSession sessionID =>
    simp only [StoreState.next] at h
    split_ifs at h
    cases h
    exact ⟨w, hw, hwrite⟩
  | begin write =>
    simp only [StoreState.next] at h
    split_ifs at h
    cases h
    rcases List.mem_cons.mp hw with rfl | hw
    · exact absurd (congrArg _ hwrite) (hbegin input txTime)
    · exact ⟨w, hw, hwrite⟩
  | derive sessionID =>
    cases h
    obtain ⟨w', hw', rfl⟩ := List.mem_map.mp hw
    refine ⟨w', hw', ?_⟩
    split at hwrite
    · exact hwrite
    · exact hwrite
  | commit id => exact absurd rfl (hcommit id)
  | abort sessionID =>
    cases h
    exact ⟨w, mem_without hw, hwrite⟩

theorem keepsSessions_of_next {l : StoreLabel} (ha : Coherent a) (h : a.next cfg.sha256 l = some b)
    (hcommit : ∀ id, l ≠ .commit id) (hbegin : ∀ input txTime, l ≠ .begin (.create input txTime)) :
    KeepsSessions a b :=
  ⟨(store_step_effect ha h).sessions hcommit, logins_of_next h hcommit hbegin⟩

theorem Quiet.keepsSessions (ha : Coherent a) (h : Quiet cfg a b) : KeepsSessions a b := by
  rcases h with rfl | ⟨l, hquiet, hstep⟩
  · exact ⟨fun _ hsession => ⟨hsession, .refl⟩, fun w hw _ _ hwrite => ⟨w, hw, hwrite⟩⟩
  · apply keepsSessions_of_next ha hstep
    · rintro _ rfl
      cases hquiet
    · rintro _ _ rfl
      cases hquiet

/-! ## Section 3: Refreshes that do not overlap -/

/-- A refresh starts only when no other request of the session is between reading the
    clock and the end of its `ReplaceMembership`. -/
def Apart (cfg : GatewayConfig) (s : GatewayState) (l : GatewayLabel) : Prop :=
  ∀ id, l = .issue id .readMembership → ∀ i, s.issues id = some i → ∀ id' i',
    s.issues id' = some i' → cfg.sha256 i'.sessionID = cfg.sha256 i.sessionID → i'.observing = none

/-- The Gateway without the steps that let two refreshes of a session overlap. -/
def apartGateway (cfg : GatewayConfig) : System GatewayState GatewayLabel :=
  (gateway cfg).restrict (Apart cfg)

/-- What such a run keeps. -/
structure InOrder (cfg : GatewayConfig) (s : GatewayState) : Prop where
  clock : ∀ w ∈ s.written, w.observedAt ≤ s.now
  drawn : ∀ w ∈ s.written, ∃ id ∈ s.drawn, cfg.sha256 id = w.sessionHash
  /-- A login under way is the first write to its session. -/
  logins : ∀ ow ∈ s.store.writes, ∀ input txTime, ow.write = .create input txTime →
    input.observedAt ≤ s.now ∧ input.sessionID ∈ s.drawn ∧
    ∀ w ∈ s.written, w.sessionHash ≠ cfg.sha256 input.sessionID
  /-- What is stored of a session is its latest observation. -/
  stored : ∀ session ∈ s.store.db.sessions.rows, ∃ w ∈ s.written, w.Stored s.store.db session ∧
    ∀ w' ∈ s.written, w'.sessionHash = session.sessionHash → w'.observedAt ≤ w.observedAt
  /-- A refresh under way is later than every observation of its session. -/
  refreshing : ∀ id i now, s.issues id = some i → i.observing = some now →
    now ≤ s.now ∧ (∃ w ∈ s.written, w.sessionHash = cfg.sha256 i.sessionID) ∧
    ∀ w ∈ s.written, w.sessionHash = cfg.sha256 i.sessionID → w.observedAt ≤ now
  alone : ∀ id id' i i' now now', s.issues id = some i → s.issues id' = some i' →
    i.observing = some now → i'.observing = some now' →
    cfg.sha256 i.sessionID = cfg.sha256 i'.sessionID → id = id'

theorem inOrder_initial (now : Int) : InOrder cfg (.initial now) where
  clock := by simp [GatewayState.initial]
  drawn := by simp [GatewayState.initial]
  logins := by simp [GatewayState.initial, StoreState.empty]
  stored := by simp [GatewayState.initial, StoreState.empty, Db.empty]
  refreshing := by simp [GatewayState.initial]
  alone := by simp [GatewayState.initial]

theorem InOrder.tick (hs : InOrder cfg s) (d : Nat) : InOrder cfg { s with now := s.now + d } := by
  refine { hs with clock := ?_, logins := ?_, refreshing := ?_ }
  · intro w hw
    have hle := hs.clock w hw
    show w.observedAt ≤ s.now + d
    omega
  · intro ow how input txTime hwrite
    obtain ⟨hle, hrest⟩ := hs.logins ow how input txTime hwrite
    refine ⟨?_, hrest⟩
    show input.observedAt ≤ s.now + d
    omega
  · intro id i now hi hnow
    obtain ⟨hle, hrest⟩ := hs.refreshing id i now hi hnow
    refine ⟨?_, hrest⟩
    show now ≤ s.now + d
    omega

theorem InOrder.keeps (hs : InOrder cfg s) {store : StoreState} (h : KeepsSessions s.store store) :
    InOrder cfg { s with store } := by
  refine { hs with logins := ?_, stored := ?_ }
  · intro ow how input txTime hwrite
    obtain ⟨ow', how', hwrite'⟩ := h.logins ow how input txTime hwrite
    exact hs.logins ow' how' input txTime hwrite'
  · intro session hsession
    obtain ⟨hsession, hsame⟩ := h.sessions session hsession
    obtain ⟨w, hw, hstored, hlatest⟩ := hs.stored session hsession
    exact ⟨w, hw, hstored.frame hsame, hlatest⟩

theorem InOrder.draw (hs : InOrder cfg s) (id : String) :
    InOrder cfg { s with drawn := id :: s.drawn } := by
  refine { hs with drawn := ?_, logins := ?_ }
  · intro w hw
    obtain ⟨id', hid', hhash⟩ := hs.drawn w hw
    exact ⟨id', List.mem_cons_of_mem _ hid', hhash⟩
  · intro ow how input txTime hwrite
    obtain ⟨hle, hdrawn, hnew⟩ := hs.logins ow how input txTime hwrite
    exact ⟨hle, List.mem_cons_of_mem _ hdrawn, hnew⟩

/-- A login begins on a session that was never written. -/
theorem InOrder.login (hs : InOrder cfg s) {identity : Identity} {encrypted : Bytes} {txTime : Int}
    {store : StoreState} (hfresh : s.fresh cfg sessionID = true)
    (hbegan : s.store.next cfg.sha256 (.begin (.create
      (loginInput cfg s identity sessionID encrypted) txTime)) = some store) :
    InOrder cfg { s with store, drawn := sessionID :: s.drawn } := by
  simp only [StoreState.next] at hbegan
  split_ifs at hbegan
  cases hbegan
  have hdraw := hs.draw sessionID
  refine { hdraw with logins := ?_ }
  intro ow how input txTime' hwrite
  rcases List.mem_cons.mp how with rfl | how
  · cases hwrite
    refine ⟨le_refl _, List.mem_cons_self, ?_⟩
    intro w hw hhash
    obtain ⟨id, hid, hdrawn⟩ := hs.drawn w hw
    have hne : cfg.sha256 id ≠ cfg.sha256 sessionID := by
      simpa using List.all_eq_true.mp hfresh id hid
    exact hne (hdrawn.trans hhash)
  · exact hdraw.logins ow how input txTime' hwrite

/-- One request moves on; what it observes is bounded as the others are. -/
theorem InOrder.setIssue (hs : InOrder cfg s) (id : Nat)
    (hnew : ∀ i now, new = some i → i.observing = some now →
      (now ≤ s.now ∧ (∃ w ∈ s.written, w.sessionHash = cfg.sha256 i.sessionID) ∧
        ∀ w ∈ s.written, w.sessionHash = cfg.sha256 i.sessionID → w.observedAt ≤ now) ∧
      ∀ id' i' now', id' ≠ id → s.issues id' = some i' → i'.observing = some now' →
        cfg.sha256 i.sessionID ≠ cfg.sha256 i'.sessionID) :
    InOrder cfg { s with issues := Function.update s.issues id new } := by
  refine { hs with refreshing := ?_, alone := ?_ }
  · intro id' i now hi hnow
    rcases update_eq_some hi with ⟨-, hi⟩ | ⟨-, hi⟩
    · exact (hnew i now hi hnow).1
    · exact hs.refreshing id' i now hi hnow
  · intro a b i j now now' hi hj hnow hnow' hhash
    rcases update_eq_some hi with ⟨ha, hi⟩ | ⟨ha, hi⟩
    · rcases update_eq_some hj with ⟨hb, -⟩ | ⟨hb, hj⟩
      · exact ha.trans hb.symm
      · exact absurd hhash ((hnew i now hi hnow).2 b j now' hb hj hnow')
    · rcases update_eq_some hj with ⟨-, hj⟩ | ⟨-, hj⟩
      · exact absurd hhash.symm ((hnew j now' hj hnow').2 a i now ha hi hnow)
      · exact hs.alone a b i j now now' hi hj hnow hnow' hhash

theorem InOrder.setIssue_idle (hs : InOrder cfg s) (id : Nat)
    (hnew : ∀ i, new = some i → i.observing = none) :
    InOrder cfg { s with issues := Function.update s.issues id new } := by
  refine hs.setIssue id ?_
  intro i now hi hnow
  rw [hnew i hi] at hnow
  cases hnow

/-- A request that moves on by a step that does not commit. -/
theorem InOrder.advances (hs : InOrder cfg s) {id : Nat} {l : IssueLabel}
    (happart : Apart cfg s (.issue id l)) (hnew : ∀ i, new = some i → Advances cfg s id l i) :
    InOrder cfg { s with issues := Function.update s.issues id new } := by
  refine hs.setIssue id ?_
  intro i now hi hnow
  obtain ⟨old, hold, hsession, hobs⟩ := (hnew i hi).2 now hnow
  rw [← hsession]
  rcases hobs with hobs | ⟨rfl, rfl, hfound⟩
  · -- the refresh was under way
    refine ⟨hs.refreshing id old now hold hobs, ?_⟩
    intro id' i' now' hne hi' hnow' hhash
    exact hne (hs.alone id id' old i' now now' hold hi' hobs hnow' hhash).symm
  · -- the refresh reads the clock: nothing of the session is later, and it is the only one
    rw [← hsession] at hfound
    obtain ⟨session, hlookup⟩ := Option.isSome_iff_exists.mp hfound
    have hhash : session.sessionHash = cfg.sha256 old.sessionID := Table.key_of_lookup hlookup
    obtain ⟨w, hw, hstored, -⟩ := hs.stored session (Table.mem_of_lookup hlookup)
    refine ⟨⟨le_refl _, ⟨w, hw, hstored.hash.trans hhash⟩, fun w hw _ => hs.clock w hw⟩, ?_⟩
    intro id' i' now' _ hi' hnow' hsame
    have hidle := happart id rfl old hold id' i' hi' hsame.symm
    rw [hidle] at hnow'
    cases hnow'

/-- A committed write becomes the latest observation of its session, if no earlier one is
    later. -/
theorem InOrder.finish (hs : InOrder cfg s) (hcoherent : Coherent s.store) {write : MembershipWrite}
    (hready : s.readyWrite cfg sessionID = some (write, visible))
    (hclock : (write.written cfg visible).observedAt ≤ s.now)
    (hdrawn : ∃ id ∈ s.drawn, cfg.sha256 id = cfg.sha256 write.sessionID)
    (hlatest : ∀ w ∈ s.written, w.sessionHash = cfg.sha256 write.sessionID →
      w.observedAt ≤ (write.written cfg visible).observedAt)
    (hidle : ∀ id i now, s.issues id = some i → i.observing = some now →
      cfg.sha256 i.sessionID ≠ cfg.sha256 write.sessionID) :
    InOrder cfg (s.finish cfg write visible) := by
  have hwhash : (write.written cfg visible).sessionHash = cfg.sha256 write.sessionID := by
    cases write <;> rfl
  have hothers : ∀ ow ∈ s.store.without cfg.sha256 write.sessionID,
      cfg.sha256 ow.write.sessionID ≠ cfg.sha256 write.sessionID := by
    intro ow how
    simpa using (List.mem_filter.mp how).2
  rcases finish_cases hcoherent hready with
    ⟨session, db', hwrote, hhash, hstate, hat, hfinish⟩ | hfinish
  · rw [hfinish]
    have hvisible : (write.written cfg visible).visible = visible := by
      cases write <;> rfl
    have hstored : (write.written cfg visible).Stored db' session :=
      Written.stored_of_observed hwrote hvisible hhash hstate hat
    refine ⟨?_, ?_, ?_, ?_, ?_, hs.alone⟩
    · intro w hw
      rcases List.mem_cons.mp hw with rfl | hw
      · exact hclock
      · exact hs.clock w hw
    · intro w hw
      rcases List.mem_cons.mp hw with rfl | hw
      · rw [hwhash]
        exact hdrawn
      · exact hs.drawn w hw
    · intro ow how input txTime hwrite
      obtain ⟨hle, hid, hnew⟩ := hs.logins ow (mem_without how) input txTime hwrite
      refine ⟨hle, hid, ?_⟩
      intro w hw hsame
      rcases List.mem_cons.mp hw with rfl | hw
      · have hne := hothers ow how
        rw [hwrite] at hne
        exact hne (hsame.symm.trans hwhash)
      · exact hnew w hw hsame
    · intro owner howner
      have hlookup : db'.sessions.lookup owner.sessionHash = some owner := Table.lookup_key howner
      by_cases hsame : owner.sessionHash = session.sessionHash
      · rw [hsame, hwrote.stored] at hlookup
        cases hlookup
        refine ⟨_, List.mem_cons_self, hstored, ?_⟩
        intro w hw hw'
        rcases List.mem_cons.mp hw with rfl | hw
        · exact le_refl _
        · exact hlatest w hw (hw'.trans (hhash.trans hwhash))
      · rw [hwrote.others _ hsame] at hlookup
        obtain ⟨w, hw, hold, hmax⟩ := hs.stored owner (Table.mem_of_lookup hlookup)
        refine ⟨w, List.mem_cons_of_mem _ hw, hold.frame (sameMembership_of_observed hwrote hsame), ?_⟩
        intro w' hw' hhash'
        rcases List.mem_cons.mp hw' with rfl | hw'
        · exact absurd (hhash'.symm.trans hhash.symm) hsame
        · exact hmax w' hw' hhash'
    · intro id i now hi hnow
      obtain ⟨hle, ⟨w, hw, hwh⟩, hmax⟩ := hs.refreshing id i now hi hnow
      refine ⟨hle, ⟨w, List.mem_cons_of_mem _ hw, hwh⟩, ?_⟩
      intro w' hw' hhash'
      rcases List.mem_cons.mp hw' with rfl | hw'
      · exact absurd (hhash'.symm.trans hwhash) (hidle id i now hi hnow)
      · exact hmax w' hw' hhash'
  · rw [hfinish]
    exact hs.keeps ⟨fun _ hsession => ⟨hsession, .refl⟩,
      fun w hw _ _ hwrite => ⟨w, mem_without hw, hwrite⟩⟩

/-- A login that commits is the first observation of its session. -/
theorem InOrder.created (hs : InOrder cfg s) (hcoherent : Coherent s.store) {input : SessionInput}
    {txTime : Int} (hready : s.readyWrite cfg sessionID = some (.create input txTime, visible)) :
    InOrder cfg (s.finish cfg (.create input txTime) visible) := by
  have hunder := List.mem_of_find?_eq_some (readyWrite_eq_some hready)
  obtain ⟨hle, hdrawn, hnew⟩ := hs.logins _ hunder input txTime rfl
  refine hs.finish hcoherent hready hle ⟨input.sessionID, hdrawn, rfl⟩ ?_ ?_
  · intro w hw hhash
    exact absurd hhash (hnew w hw)
  · intro id i now hi hnow hhash
    obtain ⟨-, ⟨w, hw, hwh⟩, -⟩ := hs.refreshing id i now hi hnow
    exact hnew w hw (hwh.trans hhash)

/-- A refresh that commits is later than what was observed of its session before. -/
theorem InOrder.replaced (hs : InOrder cfg s) (hcoherent : Coherent s.store) {id : Nat}
    {teamID : String} {now : Int} {encrypted : Bytes} {ids : List String}
    (hfound : s.issues id = some ⟨sessionID, teamID, .replacing now encrypted ids⟩)
    (hready : s.readyWrite cfg sessionID = some (.replace sessionID encrypted ids now, visible))
    (hnew : ∀ i, new = some i → i.stage = .refreshed) :
    InOrder cfg ((s.finish cfg (.replace sessionID encrypted ids now) visible).setIssue id new) := by
  obtain ⟨hle, ⟨w, hw, hwh⟩, hmax⟩ := hs.refreshing id _ now hfound rfl
  obtain ⟨drawn, hdrawn, hdrawnHash⟩ := hs.drawn w hw
  -- with its own request out of the way, no refresh of the session is under way
  have hclear : InOrder cfg { s with issues := Function.update s.issues id new } := by
    refine hs.setIssue_idle id ?_
    intro i hi
    rw [Issue.observing, hnew i hi]
  refine hclear.finish hcoherent hready hle ⟨drawn, hdrawn, hdrawnHash.trans hwh⟩ hmax ?_
  intro id' i' now' hi' hnow' hhash
  rcases update_eq_some hi' with ⟨-, hi'⟩ | ⟨hid, hi'⟩
  · rw [Issue.observing, hnew i' hi'] at hnow'
    cases hnow'
  · exact hid (hs.alone id' id i' _ now' now hi' hfound hnow' rfl hhash)

theorem InOrder.effect (hs : InOrder cfg s) (hcoherent : Coherent s.store)
    (happart : Apart cfg s l) (h : GatewayEffect cfg s l s') : InOrder cfg s' := by
  cases h with
  | tick d => exact hs.tick d
  | quiet hstep => exact hs.keeps (hstep.keepsSessions hcoherent)
  | login hfresh hbegan => exact hs.login hfresh hbegan
  | created hready => exact hs.created hcoherent hready
  | issue hstep hadvances =>
    exact (hs.advances happart hadvances).keeps (hstep.keepsSessions hcoherent)
  | replaced hfound hready hnew => exact hs.replaced hcoherent hfound hready hnew
  | @signed id jti sessionID teamID context token _ _ =>
    have hidle : ∀ i, some (Issue.mk sessionID teamID (.signed context token)) = some i →
        i.observing = none := by
      intro i hi
      cases hi
      rfl
    exact { (hs.setIssue_idle id hidle).draw jti with }
  | recorded _ hstep =>
    exact (hs.setIssue_idle _ (by simp)).keeps
      (keepsSessions_of_next hcoherent hstep (by simp) (by simp))
  | received | verified | checked | sent | refused => exact { hs with }

theorem inOrder_reachable (h : (apartGateway cfg).Reachable s) : InOrder cfg s := by
  refine System.Reachable.invariant ?_ ?_ h
  · rintro _ ⟨now, rfl⟩
    exact inOrder_initial now
  · intro s l s' hr hs hstep
    exact hs.effect (coherent_store hr.of_restrict) hstep.2 (gateway_step_effect hstep.1)

/-! ## Section 4: The stored membership is the latest observation -/

/-- History only grows. -/
theorem GatewayEffect.written (h : GatewayEffect cfg s l s') :
    s.written ⊆ s'.written := by
  have hfinish : ∀ (write : MembershipWrite) (visible : Table mappingSchema),
      s.written ⊆ (s.finish cfg write visible).written := by
    intro write visible
    unfold GatewayState.finish
    dsimp only
    split_ifs
    · exact List.subset_cons_self _ _
    · exact List.Subset.refl _
  cases h with
  | created | replaced => exact hfinish _ _
  | _ => exact List.Subset.refl _

theorem written_run (hr : (apartGateway cfg).Reachable s)
    (h : (apartGateway cfg).Run s ls s') : s.written ⊆ s'.written := by
  refine System.Run.relate (R := fun a b => a.written ⊆ b.written)
    (fun _ => List.Subset.refl _) (fun _ _ _ => List.Subset.trans) ?_ hr h
  intro s l s' _ hstep
  exact (gateway_step_effect hstep.1).written

/-- In every run whose refreshes of one session do not overlap: what is stored of a session
    is the observation with the greatest instant among those committed for it, and the
    instant that is stored never decreases. -/
theorem latest_observation_stored (h : (apartGateway cfg).Reachable s) :
    (∀ session ∈ s.store.db.sessions.rows, ∃ w ∈ s.written, w.Stored s.store.db session ∧
      ∀ w' ∈ s.written, w'.sessionHash = session.sessionHash → w'.observedAt ≤ w.observedAt) ∧
    (∀ ls s', (apartGateway cfg).Run s ls s' → ∀ session ∈ s.store.db.sessions.rows,
      ∀ session' ∈ s'.store.db.sessions.rows, session'.sessionHash = session.sessionHash →
        session.membershipObservedAt ≤ session'.membershipObservedAt) := by
  have hs := inOrder_reachable h
  refine ⟨hs.stored, ?_⟩
  intro ls s' hrun session hsession session' hsession' hhash
  have hs' := inOrder_reachable (hrun.reachable h)
  obtain ⟨w, hw, hstored, -⟩ := hs.stored session hsession
  obtain ⟨w', -, hstored', hmax⟩ := hs'.stored session' hsession'
  have hle : w.observedAt ≤ w'.observedAt :=
    hmax w (written_run h hrun hw) (hstored.hash.trans hhash.symm)
  rw [hstored.observedAt, hstored'.observedAt]
  exact Time.toMicros_mono hle

/-! ### Runs with one token request -/

/-- A step on one token request leaves the others where they are. -/
theorem GatewayEffect.issues_other (h : GatewayEffect cfg s l s') {id : Nat}
    (hid : ∀ id' il, l = .issue id' il → id' ≠ id) : s'.issues id = s.issues id := by
  cases h with
  | issue _ _ | replaced _ _ _ | signed _ _ | recorded _ _ =>
    exact Function.update_of_ne (hid _ _ rfl).symm _ _
  | _ => rfl

theorem apart_of_single (hone : ∀ id, id ≠ 0 → s.issues id = none)
    (h : s.next cfg l = some s') (hl : ∀ id il, l = .issue id il → id = 0) : Apart cfg s l := by
  intro id hlabel i hi id' i' hi' _
  have hzero : id = 0 := hl id _ hlabel
  subst hzero
  have hzero' : id' = 0 := by
    by_contra hne
    rw [hone id' hne] at hi'
    cases hi'
  subst hzero'
  rw [hi] at hi'
  cases hi'
  -- a request that can read its membership has only been started
  subst hlabel
  simp only [GatewayState.next, hi] at h
  obtain ⟨sessionID, teamID, stage⟩ := i
  cases stage with
  | started => rfl
  | _ => cases h

theorem apartGateway_of_single (hr : (apartGateway cfg).Reachable s)
    (hone : ∀ id, id ≠ 0 → s.issues id = none) (hls : ∀ l ∈ ls, ∀ id il, l = .issue id il → id = 0)
    (h : System.follow (GatewayState.next cfg) s ls = some s') :
    (apartGateway cfg).Reachable s' := by
  induction ls generalizing s with
  | nil =>
    cases h
    exact hr
  | cons l ls ih =>
    rw [System.follow, List.foldlM_cons, Option.bind_eq_bind, Option.bind_eq_some_iff] at h
    obtain ⟨s₁, hfirst, hrest⟩ := h
    have hl := hls l List.mem_cons_self
    have hstep : (apartGateway cfg).step s l s₁ := ⟨hfirst, apart_of_single hone hfirst hl⟩
    refine ih (.step l hr hstep) ?_ (fun l' hl' => hls l' (List.mem_cons_of_mem _ hl')) hrest
    intro id hid
    rw [(gateway_step_effect hfirst).issues_other
      (fun id' il hil => (hl id' il hil).trans_ne hid.symm)]
    exact hone id hid

/-- A signature scheme that is easy to evaluate. -/
def sampleRSA : RSA := ⟨fun message => message, fun message signature => message = signature, by simp⟩

def sampleGateway : GatewayConfig where
  sha256 := sampleHash
  signer := ⟨sampleRSA, "key_1", "https://gateway", "registry", 60 * nanosPerSecond⟩
  decrypt encrypted _ := some encrypted
  isWebSocketUpgrade _ := false
  subprotocols _ := []
  configuredIssuer := "https://issuer"
  sessionTTL := 0
  membershipMaxAge := 0
  refreshes := true
  presents := false
  proxyBaseURL := .url ⟨[], []⟩

def sampleIdentity : Identity := ⟨"https://issuer", "sub_1", "oidc_1", ["alpha"]⟩

/-- A mapping is registered and a browser session begins. -/
def sampleSession : List GatewayLabel :=
  [.registerMapping sampleMapping, .callback sampleIdentity "session" [1] 0, .derive "session",
    .commitCreate "session"]

/-- A refresh of the session from its start to the call of the provider. -/
def sampleRead (id : Nat) : List GatewayLabel :=
  [.issue id (.start "session" "team_1"), .tick 1000, .issue id .readMembership]

/-- The rest of the refresh, with what the provider answers. -/
def sampleReplace (id : Nat) (ids : List String) : List GatewayLabel :=
  [.issue id (.provider (some (ids, [2]))), .issue id .begin, .derive "session", .issue id .commit]

theorem latest_observation_stored_sample : ∃ s, System.follow (GatewayState.next sampleGateway)
      (.initial 0) (sampleSession ++ sampleRead 0 ++ sampleReplace 0 []) = some s ∧
    s.store.db.sessions.rows.map SessionRow.membershipObservedAt = [1] ∧
    ∀ session ∈ s.store.db.sessions.rows, ∃ w ∈ s.written, w.Stored s.store.db session ∧
      ∀ w' ∈ s.written, w'.sessionHash = session.sessionHash → w'.observedAt ≤ w.observedAt := by
  have hrun : ∃ s, System.follow (GatewayState.next sampleGateway) (.initial 0)
      (sampleSession ++ sampleRead 0 ++ sampleReplace 0 []) = some s ∧
        s.store.db.sessions.rows.map SessionRow.membershipObservedAt = [1] := by
    decide +kernel
  obtain ⟨s, hs, hat⟩ := hrun
  have hreach : (apartGateway sampleGateway).Reachable s := by
    refine apartGateway_of_single (.init ⟨0, rfl⟩) (fun _ _ => rfl) ?_ hs
    simp [sampleSession, sampleRead, sampleReplace]
  exact ⟨s, hs, hat, (latest_observation_stored hreach).1⟩

/-- Two refreshes overlap: the one that read the clock first commits last, sets the instant
    back, and restores the team that the other one removed. -/
theorem overlapping_refresh_goes_back : ∃ s s' : GatewayState,
    (gateway sampleGateway).Reachable s ∧
    (gateway sampleGateway).Run s (sampleReplace 0 ["alpha"]) s' ∧
    s.store.db.sessions.rows.map (fun r => (r.sessionHash, r.membershipObservedAt)) =
      [(sampleHash "session", 2)] ∧
    s'.store.db.sessions.rows.map (fun r => (r.sessionHash, r.membershipObservedAt)) =
      [(sampleHash "session", 1)] ∧
    s.store.db.access.rows.map AccessRow.teamID = [] ∧
    s'.store.db.access.rows.map AccessRow.teamID = ["team_1"] := by
  have hrun : ∃ s, System.follow (GatewayState.next sampleGateway) (.initial 0)
      (sampleSession ++ sampleRead 0 ++ sampleRead 1 ++ sampleReplace 1 []) = some s ∧
      (s.store.db.sessions.rows.map (fun r => (r.sessionHash, r.membershipObservedAt)) =
          [(sampleHash "session", 2)] ∧ s.store.db.access.rows.map AccessRow.teamID = [] ∧
        ∃ s', System.follow (GatewayState.next sampleGateway) s (sampleReplace 0 ["alpha"]) = some s' ∧
          (s'.store.db.sessions.rows.map (fun r => (r.sessionHash, r.membershipObservedAt)) =
            [(sampleHash "session", 1)] ∧
          s'.store.db.access.rows.map AccessRow.teamID = ["team_1"])) := by
    decide +kernel
  obtain ⟨s, hs, hat, haccess, s', hs', hafter⟩ := hrun
  exact ⟨s, s', .of_follow ⟨0, rfl⟩ hs, .of_follow hs', hat, hafter.1, haccess, hafter.2⟩

end FlowAI.Gateway
