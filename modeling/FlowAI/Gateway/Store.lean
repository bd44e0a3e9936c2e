import FlowAI.Framework.Bytes
import FlowAI.Framework.Table
import FlowAI.Framework.Time
import FlowAI.Framework.Tx

/-! # The Gateway's Store

  The `api_gateway` schema and the operations of `store/mappings.go` and
  `store/sessions.go`.  Sessions and tokens are kept under a hash of their random
  identifiers; the hash is a parameter.

  An operation that derives team access reads the mapping table in one statement of its
  transaction and sees what was committed at that moment.  That view is an argument of
  the operation, so that a run may let mappings be committed before and after it.
  Columns that no operation reads (`created_at` of mappings, the audit table) are left
  out.
-/

namespace FlowAI.Gateway

variable {err : Violation → StoreError} {db db' : Db} {u : Unit} {hash : Hash} {observedAt : Int}
  {ids : List String} {visible : Table mappingSchema} {operatorID : String} {sha256 : String → Hash}

/-! ## Section 1: Schema -/

abbrev Hash := Bytes

/-- `oidc_team_mappings`. -/
structure MappingRow where
  issuer : String
  oidcTeamID : String
  teamID : String
  teamName : Option String
  archivedAt : Option Int
  deriving DecidableEq

/-- `oidc_sessions`. -/
structure SessionRow where
  sessionHash : Hash
  operatorID : String
  issuer : String
  subject : String
  encryptedProviderState : Bytes
  membershipObservedAt : Int
  expiresAt : Int
  createdAt : Int
  deriving DecidableEq

/-- `membership_observations`. -/
structure ObservationRow where
  sessionHash : Hash
  oidcTeamID : String
  observedAt : Int
  deriving DecidableEq

/-- `derived_operator_team_access`. -/
structure AccessRow where
  sessionHash : Hash
  operatorID : String
  teamID : String
  mappingIssuer : String
  mappingOidcTeamID : String
  observedAt : Int
  deriving DecidableEq

/-- `working_token_records`. -/
structure TokenRow where
  jtiHash : Hash
  sessionHash : Hash
  operatorID : String
  teamID : String
  issuedAt : Int
  expiresAt : Int
  deriving DecidableEq

def mappingSchema : Schema MappingRow (String × String) where
  key r := (r.issuer, r.oidcTeamID)
  check r := decide (r.oidcTeamID ≠ "") && decide (r.teamID ≠ "")
  uniques := [fun r => some [r.teamID]]

def sessionSchema : Schema SessionRow Hash where
  key := SessionRow.sessionHash
  check r := decide (r.operatorID ≠ "") && decide (r.subject ≠ "") && decide (r.createdAt < r.expiresAt)

def observationSchema : Schema ObservationRow (Hash × String) where
  key r := (r.sessionHash, r.oidcTeamID)
  check r := decide (r.oidcTeamID ≠ "")

def accessSchema : Schema AccessRow (Hash × String) where
  key r := (r.sessionHash, r.teamID)
  check r := decide (r.operatorID ≠ "") && decide (r.teamID ≠ "")

def tokenSchema : Schema TokenRow Hash where
  key := TokenRow.jtiHash
  check r := decide (r.issuedAt < r.expiresAt)

structure Db where
  mappings : Table mappingSchema
  sessions : Table sessionSchema
  observations : Table observationSchema
  access : Table accessSchema
  tokens : Table tokenSchema

def Db.empty : Db := ⟨.empty, .empty, .empty, .empty, .empty⟩

inductive StoreError where
  | mappingConflict
  | sessionNotFound
  | teamNotAccessible
  | plain (message : String)
  | wrapped (context : String) (v : Violation)
  | violation (v : Violation)
  deriving DecidableEq, Repr

abbrev StoreTx := Tx Db StoreError

/-! ## Section 2: `MappingStore` -/

def mappingConflictOr (context : String) : Violation → StoreError
  | .unique => .mappingConflict
  | .primaryKey => .mappingConflict
  | v => .wrapped context v

/-- `Register`: the row, and whether it was created. -/
def register (mapping : MappingRow) : StoreTx (MappingRow × Bool) := do
  Tx.ensure (mapping.issuer ≠ "" ∧ mapping.oidcTeamID ≠ "" ∧ mapping.teamID ≠ "")
    (.plain "mapping fields must be non-empty")
  let db ← Tx.get
  match db.mappings.lookup (mapping.issuer, mapping.oidcTeamID) with
  | none =>
    let mappings ← refuse (mappingConflictOr "insert mapping") (db.mappings.insert mapping)
    Tx.set { db with mappings }
    return (mapping, true)
  | some existing =>
    -- `ON CONFLICT … DO NOTHING` returned no row
    Tx.ensure (existing.teamID = mapping.teamID) .mappingConflict
    return (existing, false)

/-- The update of `RefreshPresentation`. -/
def MappingRow.present (teamName : String) (archivedAt : Option Int) (m : MappingRow) : MappingRow :=
  { m with teamName := some teamName, archivedAt }

/-- `RefreshPresentation`: the one mapping of a team. -/
def refreshPresentation (teamID teamName : String) (archivedAt : Option Int) : StoreTx Unit := do
  let db ← Tx.get
  let mapping ← Tx.ofOption (db.mappings.rows.find? (fun m => m.teamID = teamID)) .mappingConflict
  let mappings ← refuse (.wrapped "refresh mapping presentation")
    (db.mappings.update (mapping.issuer, mapping.oidcTeamID) (MappingRow.present teamName archivedAt)
      (fun _ => rfl))
  Tx.set { db with mappings }

/-! ## Section 3: `SessionStore` -/

/-- Instants are nanoseconds. -/
structure SessionInput where
  sessionID : String
  operatorID : String
  issuer : String
  subject : String
  encryptedProviderState : Bytes
  oidcTeamIDs : List String
  observedAt : Int
  expiresAt : Int
  deriving DecidableEq

/-- One `INSERT` for each observed team. -/
def insertObservations (err : Violation → StoreError) (hash : Hash) (observedAt : Int) :
    List String → StoreTx Unit
  | [] => pure ()
  | id :: ids => do
    Tx.ensure (id ≠ "") (.plain "empty OIDC team ID")
    let db ← Tx.get
    let observations ← refuse err (db.observations.insert ⟨hash, id, observedAt⟩)
    Tx.set { db with observations }
    insertObservations err hash observedAt ids

/-- The mappings of an issuer that a session observes, as rows of access. -/
def derivedRows (db : Db) (visible : Table mappingSchema) (hash : Hash) (operatorID issuer : String)
    (observedAt : Int) : List AccessRow :=
  (visible.rows.filter (fun m => m.issuer = issuer &&
    db.observations.rows.any (fun o => o.sessionHash = hash && o.oidcTeamID = m.oidcTeamID))).map
    (fun m => ⟨hash, operatorID, m.teamID, m.issuer, m.oidcTeamID, observedAt⟩)

/-- `INSERT INTO derived_operator_team_access … SELECT`, with its foreign key. -/
def deriveAccess (err : Violation → StoreError) (visible : Table mappingSchema) (hash : Hash)
    (operatorID issuer : String) (observedAt : Int) : StoreTx Unit := do
  let db ← Tx.get
  let rows := derivedRows db visible hash operatorID issuer observedAt
  let access ← refuse err (db.access.insertAll rows)
  Tx.ensure (∀ r ∈ rows, (db.mappings.lookup (r.mappingIssuer, r.mappingOidcTeamID)).isSome)
    (err .foreignKey)
  Tx.set { db with access }

/-- The row of a new session. -/
def SessionInput.row (sha256 : String → Hash) (txTime : Int) (input : SessionInput) : SessionRow where
  sessionHash := sha256 input.sessionID
  operatorID := input.operatorID
  issuer := input.issuer
  subject := input.subject
  encryptedProviderState := input.encryptedProviderState
  membershipObservedAt := Time.toMicros input.observedAt
  expiresAt := Time.toMicros input.expiresAt
  createdAt := txTime

def SessionInput.valid (input : SessionInput) : Bool :=
  input.sessionID ≠ "" && input.operatorID ≠ "" && input.issuer ≠ "" && input.subject ≠ "" &&
    input.encryptedProviderState ≠ [] && decide (input.observedAt < input.expiresAt)

/-- `Create`; `txTime` is the `now()` of the database. -/
def createSession (sha256 : String → Hash) (input : SessionInput) (txTime : Int)
    (visible : Table mappingSchema) : StoreTx Unit := do
  Tx.ensure (input.valid = true) (.plain "invalid session input")
  let hash := sha256 input.sessionID
  let observedAt := Time.toMicros input.observedAt
  let db ← Tx.get
  let sessions ← refuse (.wrapped "insert session") (db.sessions.insert (input.row sha256 txTime))
  Tx.set { db with sessions }
  insertObservations (.wrapped "insert membership") hash observedAt input.oidcTeamIDs
  deriveAccess (.wrapped "derive access") visible hash input.operatorID input.issuer observedAt

/-- The update of `ReplaceMembership`. -/
def SessionRow.observe (encrypted : Bytes) (observedAt : Int) (s : SessionRow) : SessionRow :=
  { s with encryptedProviderState := encrypted, membershipObservedAt := observedAt }

/-- `ReplaceMembership`, under the row lock of the session. -/
def replaceMembership (sha256 : String → Hash) (sessionID : String) (encrypted : Bytes)
    (oidcTeamIDs : List String) (observedAt : Int) (visible : Table mappingSchema) :
    StoreTx Unit := do
  let hash := sha256 sessionID
  let observedAt := Time.toMicros observedAt
  let db ← Tx.get
  let session ← Tx.ofOption (db.sessions.lookup hash) .sessionNotFound
  let sessions ← refuse .violation (db.sessions.update hash (SessionRow.observe encrypted observedAt)
    (fun _ => rfl))
  Tx.set { db with
    sessions
    observations := db.observations.delete (fun r => r.sessionHash = hash)
    access := db.access.delete (fun r => r.sessionHash = hash) }
  insertObservations .violation hash observedAt oidcTeamIDs
  deriveAccess .violation visible hash session.operatorID session.issuer observedAt

/-- `Delete`; the rows that refer to the session go with it. -/
def deleteSession (sha256 : String → Hash) (sessionID : String) : StoreTx Unit := do
  let hash := sha256 sessionID
  let db ← Tx.get
  Tx.ensure (db.sessions.lookup hash).isSome .sessionNotFound
  Tx.set { db with
    sessions := db.sessions.delete (fun r => r.sessionHash = hash)
    observations := db.observations.delete (fun r => r.sessionHash = hash)
    access := db.access.delete (fun r => r.sessionHash = hash)
    tokens := db.tokens.delete (fun r => r.sessionHash = hash) }

structure AccessibleTeam where
  teamID : String
  teamName : Option String
  archivedAt : Option Int
  deriving DecidableEq

/-- A session that exists and has not expired. -/
def liveSession (db : Db) (hash : Hash) (now : Int) : Option SessionRow :=
  (db.sessions.lookup hash).filter (fun s => Time.toMicros now < s.expiresAt)

/-- The join of a live session with its access rows and their mappings. -/
def sessionMappings (db : Db) (hash : Hash) (now : Int) : List (SessionRow × MappingRow) :=
  (liveSession db hash now).toList.flatMap (fun s =>
    (db.access.rows.filter (fun a => a.sessionHash = s.sessionHash)).filterMap (fun a =>
      (db.mappings.lookup (a.mappingIssuer, a.mappingOidcTeamID)).map (fun m => (s, m))))

/-- `ORDER BY team_name ASC NULLS LAST, team_id ASC`. -/
def MappingRow.listedBefore (a b : MappingRow) : Bool :=
  match a.teamName, b.teamName with
  | some x, some y => x < y || (x = y && a.teamID ≤ b.teamID)
  | some _, none => true
  | none, some _ => false
  | none, none => a.teamID ≤ b.teamID

/-- `AccessibleTeams`. -/
def accessibleTeams (sha256 : String → Hash) (db : Db) (sessionID : String) (now : Int) :
    Except StoreError (List AccessibleTeam) :=
  let teams := ((sessionMappings db (sha256 sessionID) now).map Prod.snd).insertionSort
    (fun a b => a.listedBefore b = true)
  if teams = [] && liveSession db (sha256 sessionID) now = none then .error .sessionNotFound
  else .ok (teams.map (fun m => ⟨m.teamID, m.teamName, m.archivedAt⟩))

structure TokenContext where
  sessionHash : Hash
  operatorID : String
  teamID : String
  teamName : Option String
  deriving DecidableEq

/-- `SessionStore.TokenContext`. -/
def tokenContext (sha256 : String → Hash) (db : Db) (sessionID teamID : String) (now : Int) :
    Except StoreError TokenContext :=
  match (sessionMappings db (sha256 sessionID) now).find? (fun p => p.2.teamID = teamID) with
  | some (s, m) => .ok ⟨sha256 sessionID, s.operatorID, m.teamID, m.teamName⟩
  | none =>
    if (liveSession db (sha256 sessionID) now).isSome then .error .teamNotAccessible
    else .error .sessionNotFound

structure MembershipState where
  encryptedProviderState : Bytes
  issuer : String
  subject : String
  /-- Nanoseconds. -/
  observedAt : Int
  deriving DecidableEq

/-- `SessionStore.MembershipState`. -/
def membershipState (sha256 : String → Hash) (db : Db) (sessionID : String) (now : Int) :
    Except StoreError MembershipState :=
  match liveSession db (sha256 sessionID) now with
  | some s => .ok ⟨s.encryptedProviderState, s.issuer, s.subject, Time.ofMicros s.membershipObservedAt⟩
  | none => .error .sessionNotFound

/-- `RecordToken`. -/
def recordToken (sha256 : String → Hash) (context : TokenContext) (jti : String)
    (issuedAt expiresAt : Int) : StoreTx Unit := do
  let db ← Tx.get
  let tokens ← refuse .violation (db.tokens.insert ⟨sha256 jti, context.sessionHash,
    context.operatorID, context.teamID, Time.toMicros issuedAt, Time.toMicros expiresAt⟩)
  Tx.ensure (db.sessions.lookup context.sessionHash).isSome (.violation .foreignKey)
  Tx.set { db with tokens }

/-- The join condition of `ValidateTokenAccess`. -/
def tokenGrants (jtiHash : Hash) (operatorID teamID : String) (now : Int) (token : TokenRow)
    (session : SessionRow) (access : AccessRow) : Bool :=
  session.sessionHash = token.sessionHash && access.sessionHash = session.sessionHash &&
    access.teamID = token.teamID && token.jtiHash = jtiHash && token.operatorID = operatorID &&
    token.teamID = teamID && Time.toMicros now < token.expiresAt &&
    Time.toMicros now < session.expiresAt

/-- `ValidateTokenAccess`. -/
def validateTokenAccess (sha256 : String → Hash) (db : Db) (operatorID teamID jti : String)
    (now : Int) : Except StoreError Unit :=
  if db.tokens.rows.any (fun token => db.sessions.rows.any (fun session =>
      db.access.rows.any (tokenGrants (sha256 jti) operatorID teamID now token session))) then .ok ()
  else .error .teamNotAccessible

/-! ## Section 4: Inversion of the writes -/

theorem register_eq_ok {mapping : MappingRow} {result : MappingRow × Bool}
    (h : register mapping db = .ok (result, db')) :
    (∃ mappings, db.mappings.insert mapping = .ok mappings ∧ db' = { db with mappings }) ∨
      db' = db := by
  simp only [register, Tx.bind_eq_ok, Tx.exists_ensure, Tx.exists_get] at h
  obtain ⟨-, h⟩ := h
  cases hlookup : db.mappings.lookup (mapping.issuer, mapping.oidcTeamID) with
  | none =>
    simp only [hlookup, Tx.bind_eq_ok, exists_refuse, Tx.exists_set, Tx.pure_eq_ok] at h
    obtain ⟨mappings, hins, -, rfl⟩ := h
    exact .inl ⟨mappings, hins, rfl⟩
  | some existing =>
    simp only [hlookup, Tx.bind_eq_ok, Tx.exists_ensure, Tx.pure_eq_ok] at h
    obtain ⟨-, -, rfl⟩ := h
    exact .inr rfl

theorem refreshPresentation_eq_ok {teamID teamName : String} {archivedAt : Option Int}
    (h : refreshPresentation teamID teamName archivedAt db = .ok (u, db')) :
    ∃ key mappings, db.mappings.update key (MappingRow.present teamName archivedAt) (fun _ => rfl) =
      .ok mappings ∧ db' = { db with mappings } := by
  simp only [refreshPresentation, Tx.bind_eq_ok, Tx.exists_get, Tx.exists_ofOption, exists_refuse,
    Tx.set_eq_ok] at h
  obtain ⟨mapping, -, mappings, hupd, rfl⟩ := h
  exact ⟨_, mappings, hupd, rfl⟩

/-- The observations of a session, one for each identifier. -/
def observationRows (hash : Hash) (observedAt : Int) (ids : List String) : List ObservationRow :=
  ids.map (fun id => ⟨hash, id, observedAt⟩)

theorem insertObservations_eq_ok
    (h : insertObservations err hash observedAt ids db = .ok (u, db')) :
    ∃ observations, observations.rows = db.observations.rows ++ observationRows hash observedAt ids ∧
      db' = { db with observations } := by
  induction ids generalizing db with
  | nil =>
    simp only [insertObservations, Tx.pure_eq_ok] at h
    obtain ⟨-, rfl⟩ := h
    exact ⟨db.observations, (List.append_nil _).symm, rfl⟩
  | cons id ids ih =>
    simp only [insertObservations, Tx.bind_eq_ok, Tx.exists_ensure, Tx.exists_get, exists_refuse,
      Tx.exists_set] at h
    obtain ⟨-, first, hins, hrest⟩ := h
    obtain ⟨observations, hrows, rfl⟩ := ih hrest
    refine ⟨observations, ?_, rfl⟩
    rw [hrows, Table.rows_insert hins, List.append_assoc]
    rfl

theorem deriveAccess_eq_ok {issuer : String}
    (h : deriveAccess err visible hash operatorID issuer observedAt db = .ok (u, db')) :
    ∃ access, access.rows = db.access.rows ++
        derivedRows db visible hash operatorID issuer observedAt ∧
      (∀ r ∈ derivedRows db visible hash operatorID issuer observedAt,
        (db.mappings.lookup (r.mappingIssuer, r.mappingOidcTeamID)).isSome) ∧
      db' = { db with access } := by
  simp only [deriveAccess, Tx.bind_eq_ok, Tx.exists_get, exists_refuse, Tx.exists_ensure,
    Tx.set_eq_ok] at h
  obtain ⟨access, hins, hkey, rfl⟩ := h
  exact ⟨access, Table.rows_insertAll hins, hkey, rfl⟩

/-- What a session looks like after its membership was written: its row, the observed
    teams, and the access derived from the mappings that were visible. -/
structure Observed (visible : Table mappingSchema) (session : SessionRow) (ids : List String)
    (db db' : Db) : Prop where
  stored : db'.sessions.lookup session.sessionHash = some session
  others : ∀ hash, hash ≠ session.sessionHash → db'.sessions.lookup hash = db.sessions.lookup hash
  observations : ∀ r, r ∈ db'.observations.rows ↔
    (r ∈ db.observations.rows ∧ r.sessionHash ≠ session.sessionHash) ∨
      r ∈ observationRows session.sessionHash session.membershipObservedAt ids
  access : ∀ r, r ∈ db'.access.rows ↔
    (r ∈ db.access.rows ∧ r.sessionHash ≠ session.sessionHash) ∨
      ∃ m ∈ visible.rows, m.issuer = session.issuer ∧ m.oidcTeamID ∈ ids ∧
        r = ⟨session.sessionHash, session.operatorID, m.teamID, m.issuer, m.oidcTeamID,
          session.membershipObservedAt⟩
  mapped : ∀ m ∈ visible.rows, m.issuer = session.issuer → m.oidcTeamID ∈ ids →
    (db.mappings.lookup (m.issuer, m.oidcTeamID)).isSome
  mappings : db'.mappings = db.mappings
  tokens : db'.tokens = db.tokens

theorem Observed.mem_ids (h : Observed visible session ids db db') (id : String) :
    (∃ o ∈ db'.observations.rows, o.sessionHash = session.sessionHash ∧ o.oidcTeamID = id) ↔
      id ∈ ids := by
  constructor
  · rintro ⟨o, ho, hhash, rfl⟩
    rcases (h.observations o).mp ho with ⟨-, hne⟩ | ho
    · exact absurd hhash hne
    · obtain ⟨id, hid, rfl⟩ := List.mem_map.mp ho
      exact hid
  · intro hid
    exact ⟨_, (h.observations _).mpr (.inr (List.mem_map.mpr ⟨id, hid, rfl⟩)), rfl, rfl⟩

/-- The observations of other sessions are left alone. -/
theorem Observed.mem_other (h : Observed visible session ids db db') {o : ObservationRow}
    (hne : o.sessionHash ≠ session.sessionHash) :
    o ∈ db'.observations.rows ↔ o ∈ db.observations.rows := by
  rw [h.observations]
  constructor
  · rintro (⟨ho, -⟩ | ho)
    · exact ho
    · obtain ⟨id, -, rfl⟩ := List.mem_map.mp ho
      exact absurd rfl hne
  · intro ho
    exact .inl ⟨ho, hne⟩

/-- The derived rows of a session whose observations are the given identifiers. -/
theorem mem_derivedRows {issuer : String}
    (hobs : ∀ id, (∃ r ∈ db.observations.rows, r.sessionHash = hash ∧ r.oidcTeamID = id) ↔ id ∈ ids)
    {r : AccessRow} : r ∈ derivedRows db visible hash operatorID issuer observedAt ↔
      ∃ m ∈ visible.rows, m.issuer = issuer ∧ m.oidcTeamID ∈ ids ∧
        r = ⟨hash, operatorID, m.teamID, m.issuer, m.oidcTeamID, observedAt⟩ := by
  have hany : ∀ m : MappingRow, (db.observations.rows.any (fun o => o.sessionHash = hash &&
      o.oidcTeamID = m.oidcTeamID)) = true ↔ m.oidcTeamID ∈ ids := by
    intro m
    rw [← hobs m.oidcTeamID]
    simp
  simp only [derivedRows, List.mem_map, List.mem_filter, Bool.and_eq_true, decide_eq_true_eq, hany]
  constructor
  · rintro ⟨m, ⟨hm, hissuer, hid⟩, rfl⟩
    exact ⟨m, hm, hissuer, hid, rfl⟩
  · rintro ⟨m, hm, hissuer, hid, rfl⟩
    exact ⟨m, ⟨hm, hissuer, hid⟩, rfl⟩

/-- The last two statements of both membership writes. -/
theorem observed_of_statements {err' : Violation → StoreError} (session : SessionRow) {db₁ db₂ : Db}
    {u' : Unit}
    (hobs : insertObservations err session.sessionHash session.membershipObservedAt ids db₁ =
      .ok (u, db₂))
    (hder : deriveAccess err' visible session.sessionHash session.operatorID session.issuer
      session.membershipObservedAt db₂ = .ok (u', db'))
    (hclear : ∀ r ∈ db₁.observations.rows, r.sessionHash ≠ session.sessionHash) :
    (∀ r, r ∈ db'.observations.rows ↔ r ∈ db₁.observations.rows ∨
      r ∈ observationRows session.sessionHash session.membershipObservedAt ids) ∧
    (∀ r, r ∈ db'.access.rows ↔ r ∈ db₁.access.rows ∨
      ∃ m ∈ visible.rows, m.issuer = session.issuer ∧ m.oidcTeamID ∈ ids ∧
        r = ⟨session.sessionHash, session.operatorID, m.teamID, m.issuer, m.oidcTeamID,
          session.membershipObservedAt⟩) ∧
    (∀ m ∈ visible.rows, m.issuer = session.issuer → m.oidcTeamID ∈ ids →
      (db₁.mappings.lookup (m.issuer, m.oidcTeamID)).isSome) ∧
    db'.sessions = db₁.sessions ∧ db'.mappings = db₁.mappings ∧ db'.tokens = db₁.tokens := by
  obtain ⟨observations, hrows, rfl⟩ := insertObservations_eq_ok hobs
  obtain ⟨access, haccess, hkey, rfl⟩ := deriveAccess_eq_ok hder
  have hids : ∀ id, (∃ r ∈ observations.rows, r.sessionHash = session.sessionHash ∧
      r.oidcTeamID = id) ↔ id ∈ ids := by
    intro id
    rw [hrows]
    constructor
    · rintro ⟨r, hr, hhash, rfl⟩
      rcases List.mem_append.mp hr with hr | hr
      · exact absurd hhash (hclear r hr)
      · obtain ⟨id, hid, rfl⟩ := List.mem_map.mp hr
        exact hid
    · intro hid
      exact ⟨_, List.mem_append_right _ (List.mem_map.mpr ⟨id, hid, rfl⟩), rfl, rfl⟩
  refine ⟨?_, ?_, ?_, rfl, rfl, rfl⟩
  · intro r
    show r ∈ observations.rows ↔ _
    rw [hrows, List.mem_append]
  · intro r
    show r ∈ access.rows ↔ _
    rw [haccess, List.mem_append, mem_derivedRows hids]
  · intro m hm hissuer hid
    exact hkey _ ((mem_derivedRows hids).mpr ⟨m, hm, hissuer, hid, rfl⟩)

/-- A new session; no other row refers to its hash yet. -/
theorem createSession_eq_ok {input : SessionInput} {txTime : Int}
    (h : createSession sha256 input txTime visible db = .ok (u, db'))
    (hobs : ∀ r ∈ db.observations.rows, (db.sessions.lookup r.sessionHash).isSome)
    (hacc : ∀ r ∈ db.access.rows, (db.sessions.lookup r.sessionHash).isSome) :
    input.valid = true ∧ db.sessions.lookup (sha256 input.sessionID) = none ∧
      Observed visible (input.row sha256 txTime) input.oidcTeamIDs db db' := by
  simp only [createSession, Tx.bind_eq_ok, Tx.exists_ensure, Tx.exists_get, exists_refuse,
    Tx.exists_set] at h
  obtain ⟨hvalid, sessions, hins, _, db₂, hids, hder⟩ := h
  have hnew : db.sessions.lookup (sha256 input.sessionID) = none :=
    (Table.insert_eq_ok_iff.mp hins).2.1
  have hfresh : ∀ hash : Hash, (db.sessions.lookup hash).isSome →
      hash ≠ (input.row sha256 txTime).sessionHash := by
    rintro _ hsome rfl
    rw [show (input.row sha256 txTime).sessionHash = sha256 input.sessionID from rfl, hnew] at hsome
    cases hsome
  obtain ⟨hobs', hacc', hmapped, hs, hm, ht⟩ := observed_of_statements
    (input.row sha256 txTime) hids hder (fun r hr => hfresh _ (hobs r hr))
  refine ⟨hvalid, hnew, ?_, ?_, ?_, ?_, hmapped, hm, ht⟩
  · rw [hs, Table.lookup_insert hins]
    exact if_pos rfl
  · intro hash hne
    rw [hs, Table.lookup_insert hins]
    exact if_neg (Ne.symm hne)
  · intro r
    rw [hobs']
    exact or_congr_left ⟨fun hr => ⟨hr, hfresh _ (hobs r hr)⟩, fun hr => hr.1⟩
  · intro r
    rw [hacc']
    exact or_congr_left ⟨fun hr => ⟨hr, hfresh _ (hacc r hr)⟩, fun hr => hr.1⟩

theorem replaceMembership_eq_ok {sessionID : String} {encrypted : Bytes}
    (h : replaceMembership sha256 sessionID encrypted ids observedAt visible db = .ok (u, db')) :
    ∃ session, db.sessions.lookup (sha256 sessionID) = some session ∧
      Observed visible (session.observe encrypted (Time.toMicros observedAt)) ids db db' := by
  simp only [replaceMembership, Tx.bind_eq_ok, Tx.exists_get, Tx.exists_ofOption, exists_refuse,
    Tx.exists_set] at h
  obtain ⟨session, hfound, sessions, hupd, _, db₂, hids, hder⟩ := h
  have hhash : session.sessionHash = sha256 sessionID := Table.key_of_lookup hfound
  rw [← hhash] at hids hder hupd hfound
  refine ⟨session, hhash ▸ hfound, ?_⟩
  obtain ⟨hobs', hacc', hmapped, hs, hm, ht⟩ := observed_of_statements
    (session.observe encrypted (Time.toMicros observedAt)) hids hder (by
      intro r hr
      have hkept := (Table.mem_delete.mp hr).2
      exact decide_eq_false_iff_not.mp hkept)
  refine ⟨?_, ?_, ?_, ?_, hmapped, hm, ht⟩
  · rw [hs, Table.lookup_update hupd]
    show (if session.sessionHash = session.sessionHash then _ else _) = _
    rw [if_pos rfl]
    show Option.map _ (db.sessions.lookup session.sessionHash) = _
    rw [hfound]
    rfl
  · intro hash hne
    rw [hs, Table.lookup_update hupd]
    exact if_neg hne
  · intro r
    rw [hobs']
    refine or_congr_left ?_
    rw [Table.mem_delete, decide_eq_false_iff_not]
    exact Iff.rfl
  · intro r
    rw [hacc']
    refine or_congr_left ?_
    rw [Table.mem_delete, decide_eq_false_iff_not]
    exact Iff.rfl

theorem deleteSession_eq_ok {sessionID : String}
    (h : deleteSession sha256 sessionID db = .ok (u, db')) :
    (db.sessions.lookup (sha256 sessionID)).isSome ∧
      db' = { db with
        sessions := db.sessions.delete (fun r => r.sessionHash = sha256 sessionID)
        observations := db.observations.delete (fun r => r.sessionHash = sha256 sessionID)
        access := db.access.delete (fun r => r.sessionHash = sha256 sessionID)
        tokens := db.tokens.delete (fun r => r.sessionHash = sha256 sessionID) } := by
  simp only [deleteSession, Tx.bind_eq_ok, Tx.exists_get, Tx.exists_ensure, Tx.set_eq_ok] at h
  obtain ⟨hfound, rfl⟩ := h
  exact ⟨hfound, rfl⟩

theorem recordToken_eq_ok {context : TokenContext} {jti : String} {issuedAt expiresAt : Int}
    (h : recordToken sha256 context jti issuedAt expiresAt db = .ok (u, db')) :
    ∃ tokens, db.tokens.insert ⟨sha256 jti, context.sessionHash, context.operatorID,
        context.teamID, Time.toMicros issuedAt, Time.toMicros expiresAt⟩ = .ok tokens ∧
      (db.sessions.lookup context.sessionHash).isSome ∧ db' = { db with tokens } := by
  simp only [recordToken, Tx.bind_eq_ok, Tx.exists_get, exists_refuse, Tx.exists_ensure,
    Tx.set_eq_ok] at h
  obtain ⟨tokens, hins, hfound, rfl⟩ := h
  exact ⟨tokens, hins, hfound, rfl⟩

/-- What an access check that passes has read. -/
theorem validateTokenAccess_eq_ok {teamID jti : String} {now : Int}
    (h : validateTokenAccess sha256 db operatorID teamID jti now = .ok ()) :
    ∃ token ∈ db.tokens.rows, ∃ session ∈ db.sessions.rows, ∃ access ∈ db.access.rows,
      token.jtiHash = sha256 jti ∧ token.operatorID = operatorID ∧ token.teamID = teamID ∧
      session.sessionHash = token.sessionHash ∧ access.sessionHash = session.sessionHash ∧
      access.teamID = teamID ∧ Time.toMicros now < token.expiresAt ∧
      Time.toMicros now < session.expiresAt := by
  unfold validateTokenAccess at h
  split_ifs at h with hany
  simp only [List.any_eq_true, tokenGrants, Bool.and_eq_true, decide_eq_true_eq] at hany
  obtain ⟨token, ht, session, hs, access, ha, ⟨⟨⟨⟨⟨⟨⟨h₁, h₂⟩, h₃⟩, h₄⟩, h₅⟩, h₆⟩, h₇⟩, h₈⟩⟩ := hany
  exact ⟨token, ht, session, hs, access, ha, h₄, h₅, h₆, h₁, h₂, h₃.trans h₆, h₇, h₈⟩

end FlowAI.Gateway
