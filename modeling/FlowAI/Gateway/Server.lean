import FlowAI.Gateway.TeamAccess
import FlowAI.Gateway.WorkingTokens
import FlowAI.Registry.Admin
import Mathlib.Logic.Function.Basic

/-! # The Gateway as a System

  The handlers of `httpapi/server.go` running side by side: `callback`, `issueToken` with
  its `refreshMembership`, `logout`, `registerMapping`, and the proxied requests.  Each
  handler is cut where another one can act: at its database statements, at the calls to
  the OIDC provider and the State Registry, and where it reads the clock.

  Labels carry what the Gateway does not decide: the order of the steps, the answers of
  the provider and the registry, ciphertexts, and random identifiers.  A random
  identifier is one whose hash was not drawn before.  A handler may end early at any
  step; the answers to clients are left out.

  Four components of the state are history that no step looks at: the identifiers drawn,
  the claims signed, the membership writes committed, and the requests sent to the State
  Registry.
-/

namespace FlowAI.Gateway

open FlowAI.Registry (trimSpace)

/-! ## Section 1: Configuration -/

/-- `ProxyBaseURL`: empty, not a URL, or a URL with this path. -/
inductive ProxyBaseURL where
  | unset
  | malformed
  | url (path : UrlPath)
  deriving DecidableEq

def ProxyBaseURL.path : ProxyBaseURL → Option UrlPath
  | .url path => some path
  | _ => none

/-- The dependencies of the handlers.  `decrypt` takes the session as associated data;
    `isWebSocketUpgrade` and `subprotocols` are those of the WebSocket library. -/
structure GatewayConfig where
  sha256 : String → Hash
  signer : Signer
  decrypt : Bytes → String → Option Bytes
  isWebSocketUpgrade : Header → Bool
  subprotocols : Header → List String
  configuredIssuer : String
  sessionTTL : Int
  membershipMaxAge : Int
  /-- `Membership` and `SessionEncryptor` are there. -/
  refreshes : Bool
  /-- `Teams` and `Presentation` are there. -/
  presents : Bool
  proxyBaseURL : ProxyBaseURL

/-- One hour unless configured. -/
def GatewayConfig.ttl (cfg : GatewayConfig) : Int :=
  if cfg.sessionTTL ≤ 0 then 3600 * nanosPerSecond else cfg.sessionTTL

/-! ## Section 2: Bearers -/

def bearerPrefix : List Char := "Bearer ".toList

def browserBearerProtocolPrefix : List Char := "flowai.bearer.".toList

/-- The token behind `Bearer`. -/
def authorizationBearer (h : Header) : Option String :=
  if bearerPrefix.isPrefixOf (h.get "Authorization").toList then
    some (trimSpace (String.ofList ((h.get "Authorization").toList.drop bearerPrefix.length)))
  else none

/-- The token of a subprotocol. -/
def protocolBearer (protocol : String) : Option String :=
  if browserBearerProtocolPrefix.isPrefixOf protocol.toList then
    match base64UrlDecode (protocol.toList.drop browserBearerProtocolPrefix.length) with
    | some (b :: token) => some (String.ofList (utf8Decode (b :: token)))
    | _ => none
  else none

def websocketBearer (cfg : GatewayConfig) (h : Header) : String :=
  (authorizationBearer h).getD (((cfg.subprotocols h).findSome? protocolBearer).getD "")

/-- The token that a request is authenticated with; `none` where `proxyREST` refuses first. -/
def requestBearer (cfg : GatewayConfig) (r : ClientRequest) : Option String :=
  if cfg.isWebSocketUpgrade r.header then some (websocketBearer cfg r.header)
  else if cfg.proxyBaseURL = .unset then none
  else authorizationBearer r.header

/-! ## Section 3: States and labels -/

/-- What `Complete` returns. -/
structure Identity where
  issuer : String
  subject : String
  operatorID : String
  oidcTeamIDs : List String
  deriving DecidableEq

/-- How far an `issueToken` request has come. -/
inductive IssueStage where
  | started
  /-- The state is older than allowed; the instant was read before it. -/
  | stale (now : Int) (state : MembershipState)
  /-- The provider has answered. -/
  | fetched (now : Int) (encrypted : Bytes) (oidcTeamIDs : List String)
  /-- `ReplaceMembership` holds the row of the session. -/
  | replacing (now : Int) (encrypted : Bytes) (oidcTeamIDs : List String)
  | refreshed
  | authorised (context : TokenContext)
  | presented (context : TokenContext)
  | signed (context : TokenContext) (token : WorkingToken)
  deriving DecidableEq

structure Issue where
  sessionID : String
  teamID : String
  stage : IssueStage
  deriving DecidableEq

/-- The instant of a refresh that is under way. -/
def Issue.observing (i : Issue) : Option Int :=
  match i.stage with
  | .stale now _ => some now
  | .fetched now _ _ => some now
  | .replacing now _ _ => some now
  | _ => none

/-- How far a proxied request has come. -/
inductive ProxyStage where
  | received
  | verified (claims : Claims) (verifiedAt : Int)
  /-- The access check passed; `db` is what it read. -/
  | authenticated (claims : Claims) (verifiedAt checkedAt : Int) (db : Db)

structure Proxied where
  request : ClientRequest
  url : UrlPath
  bearer : String
  stage : ProxyStage

/-- A membership write that was committed. -/
structure Written where
  sessionHash : Hash
  /-- Nanoseconds. -/
  observedAt : Int
  encrypted : Bytes
  oidcTeamIDs : List String
  /-- The mappings that the derivation read. -/
  visible : Table mappingSchema

/-- A request that was sent to the State Registry. -/
structure Contact where
  request : ClientRequest
  bearer : String
  claims : Claims
  verifiedAt : Int
  checkedAt : Int
  /-- The tables at the access check. -/
  db : Db
  requestID : String
  child : ChildRequest

structure GatewayState where
  store : StoreState
  now : Int
  issues : Nat → Option Issue
  requests : Nat → Option Proxied
  drawn : List String
  signed : List Claims
  written : List Written
  contacts : List Contact

def GatewayState.initial (now : Int) : GatewayState :=
  ⟨.empty, now, fun _ => none, fun _ => none, [], [], [], []⟩

inductive IssueLabel where
  | start (sessionID teamID : String)
  | readMembership
  | provider (answer : Option (List String × Bytes))
  | begin
  | commit
  | abandon
  | readContext
  | present (canonicalID teamName : String) (archivedAt : Option Int)
  | skipPresentation
  | sign (jti : String)
  | record
  deriving DecidableEq

inductive ProxyLabel where
  | receive (request : ClientRequest)
  | verify
  | check
  | forward (requestID : String)
  | abandon
  deriving DecidableEq

inductive GatewayLabel where
  | tick (d : Nat)
  | callback (identity : Identity) (sessionID : String) (encrypted : Bytes) (txTime : Int)
  | derive (sessionID : String)
  | commitCreate (sessionID : String)
  | abortCreate (sessionID : String)
  | issue (id : Nat) (l : IssueLabel)
  | proxy (id : Nat) (l : ProxyLabel)
  | logout (sessionID : String)
  | registerMapping (mapping : MappingRow)
  | presentTeam (teamID teamName : String) (archivedAt : Option Int)
  deriving DecidableEq

/-! ## Section 4: Steps -/

variable (cfg : GatewayConfig)

/-- No identifier with this hash was drawn before. -/
def GatewayState.fresh (s : GatewayState) (id : String) : Bool :=
  s.drawn.all (fun drawn => cfg.sha256 drawn ≠ cfg.sha256 id)

/-- The session that `callback` creates. -/
def loginInput (s : GatewayState) (identity : Identity) (sessionID : String) (encrypted : Bytes) :
    SessionInput where
  sessionID := sessionID
  operatorID := identity.operatorID
  issuer := identity.issuer
  subject := identity.subject
  encryptedProviderState := encrypted
  oidcTeamIDs := identity.oidcTeamIDs
  observedAt := s.now
  expiresAt := s.now + cfg.ttl

/-- A membership write as history keeps it. -/
def MembershipWrite.written (visible : Table mappingSchema) : MembershipWrite → Written
  | .create input _ => ⟨cfg.sha256 input.sessionID, input.observedAt, input.encryptedProviderState,
      input.oidcTeamIDs, visible⟩
  | .replace sessionID encrypted ids observedAt =>
    ⟨cfg.sha256 sessionID, observedAt, encrypted, ids, visible⟩

/-- A membership write passes its checks. -/
def GatewayState.accepts (s : GatewayState) (write : MembershipWrite)
    (visible : Table mappingSchema) : Bool :=
  ((write.tx cfg.sha256 visible).errorOf s.store.db).isNone

/-- The last statement and the commit of a membership write. -/
def GatewayState.finish (s : GatewayState) (write : MembershipWrite)
    (visible : Table mappingSchema) : GatewayState :=
  { s with
    store := s.store.finish cfg.sha256 write visible
    written := if s.accepts cfg write visible then write.written cfg visible :: s.written
      else s.written }

/-- The membership write on a session that has read the mappings. -/
def GatewayState.readyWrite (s : GatewayState) (sessionID : String) :
    Option (MembershipWrite × Table mappingSchema) :=
  match s.store.writes.find? (fun w => cfg.sha256 w.write.sessionID = cfg.sha256 sessionID) with
  | some ⟨write, some visible⟩ => some (write, visible)
  | _ => none

def GatewayState.setIssue (s : GatewayState) (id : Nat) (i : Option Issue) : GatewayState :=
  { s with issues := Function.update s.issues id i }

def GatewayState.setRequest (s : GatewayState) (id : Nat) (r : Option Proxied) : GatewayState :=
  { s with requests := Function.update s.requests id r }

@[simp] theorem requests_setRequest (s : GatewayState) (id : Nat) (r : Option Proxied) :
    (s.setRequest id r).requests id = r := by
  simp [GatewayState.setRequest]

theorem update_eq_some {f : Nat → Option α} {new : Option α} {id id' : Nat} {a : α}
    (h : Function.update f id new id' = some a) :
    id' = id ∧ new = some a ∨ id' ≠ id ∧ f id' = some a := by
  by_cases hid : id' = id
  · subst hid
    exact .inl ⟨rfl, Function.update_self id' new f ▸ h⟩
  · exact .inr ⟨hid, Function.update_of_ne hid new f ▸ h⟩

/-- A step of the store, and the handler's state after it. -/
def GatewayState.storeStep (s : GatewayState) (l : StoreLabel) : Option GatewayState :=
  (s.store.next cfg.sha256 l).map (fun store => { s with store })

/-- `refreshMembership` up to the decision whether the state is fresh enough. -/
def membershipStage (s : GatewayState) (sessionID : String) : Option IssueStage :=
  if cfg.refreshes then
    match membershipState cfg.sha256 s.store.db sessionID s.now with
    | .ok state =>
      if 0 < cfg.membershipMaxAge ∧ s.now - state.observedAt ≤ cfg.membershipMaxAge then
        some .refreshed
      else some (.stale s.now state)
    | .error _ => none
  else some .refreshed

/-- The steps of `issueToken`; a request that is refused ends. -/
def issueNext (s : GatewayState) (id : Nat) : IssueLabel → Option Issue → Option GatewayState
  | .start sessionID teamID, none =>
    if sessionID = "" ∨ teamID = "" then none
    else some (s.setIssue id (some ⟨sessionID, teamID, .started⟩))
  | .readMembership, some ⟨sessionID, teamID, .started⟩ =>
    some (s.setIssue id ((membershipStage cfg s sessionID).map (Issue.mk sessionID teamID)))
  | .provider answer, some ⟨sessionID, teamID, .stale now state⟩ =>
    match cfg.decrypt state.encryptedProviderState sessionID, answer with
    | some _, some (ids, encrypted) =>
      some (s.setIssue id (some ⟨sessionID, teamID, .fetched now encrypted ids⟩))
    | _, _ => some (s.setIssue id none)
  | .begin, some ⟨sessionID, teamID, .fetched now encrypted ids⟩ =>
    (s.storeStep cfg (.begin (.replace sessionID encrypted ids now))).map (fun s =>
      s.setIssue id (some ⟨sessionID, teamID, .replacing now encrypted ids⟩))
  | .commit, some ⟨sessionID, teamID, .replacing now encrypted ids⟩ =>
    match s.readyWrite cfg sessionID with
    | some (write, visible) =>
      if write = .replace sessionID encrypted ids now then
        some ((s.finish cfg write visible).setIssue id
          (if s.accepts cfg write visible then some ⟨sessionID, teamID, .refreshed⟩ else none))
      else none
    | none => none
  | .abandon, some ⟨sessionID, _, .replacing _ _ _⟩ =>
    (s.storeStep cfg (.abort sessionID)).map (fun s => s.setIssue id none)
  | .abandon, some _ => some (s.setIssue id none)
  | .readContext, some ⟨sessionID, teamID, .refreshed⟩ =>
    match tokenContext cfg.sha256 s.store.db sessionID teamID s.now with
    | .ok context => some (s.setIssue id (some ⟨sessionID, teamID, .authorised context⟩))
    | .error _ => some (s.setIssue id none)
  | .present canonicalID teamName archivedAt, some ⟨sessionID, teamID, .authorised context⟩ =>
    if cfg.presents then
      (s.storeStep cfg (.refreshPresentation canonicalID teamName archivedAt)).map (fun s' =>
        s'.setIssue id
          (if ((refreshPresentation canonicalID teamName archivedAt).errorOf s.store.db).isNone then
            some ⟨sessionID, teamID, .presented { context with teamName := some teamName }⟩
          else none))
    else none
  | .skipPresentation, some ⟨sessionID, teamID, .authorised context⟩ =>
    if cfg.presents then none
    else some (s.setIssue id (some ⟨sessionID, teamID, .presented context⟩))
  | .sign jti, some ⟨sessionID, teamID, .presented context⟩ =>
    if s.fresh cfg jti then
      match cfg.signer.sign context.operatorID context.teamID context.teamName jti s.now with
      | .ok token => some { s.setIssue id (some ⟨sessionID, teamID, .signed context token⟩) with
          drawn := jti :: s.drawn
          signed := cfg.signer.claims context.operatorID context.teamID context.teamName jti s.now ::
            s.signed }
      | .error _ => some (s.setIssue id none)
    else none
  | .record, some ⟨_, _, .signed context token⟩ =>
    (s.storeStep cfg (.recordToken context token.jti token.issuedAt token.expiresAt)).map (fun s =>
      s.setIssue id none)
  | _, _ => none

/-- What `proxyREST` or `proxyWebSocket` sends. -/
def forwarded (r : Proxied) (claims : Claims) (requestID : String) : Except Reply ChildRequest :=
  if cfg.isWebSocketUpgrade r.request.header then
    forwardWebSocket cfg.proxyBaseURL.path claims r.url r.request requestID
  else forwardREST cfg.proxyBaseURL.path claims r.url r.request requestID

/-- The steps of a proxied request; one that is refused ends. -/
def proxyNext (s : GatewayState) (id : Nat) : ProxyLabel → Option Proxied → Option GatewayState
  | .receive request, none =>
    match requestURL request with
    | some url =>
      if route request.method url = .handler .ui then
        some (s.setRequest id ((requestBearer cfg request).map (fun bearer =>
          ⟨request, url, bearer, .received⟩)))
      else none
    | none => none
  | .verify, some ⟨request, url, bearer, .received⟩ =>
    if bearer = "" then some (s.setRequest id none)
    else some (s.setRequest id ((cfg.signer.verify bearer s.now).map (fun claims =>
      ⟨request, url, bearer, .verified claims s.now⟩)))
  | .check, some ⟨request, url, bearer, .verified claims verifiedAt⟩ =>
    match validateTokenAccess cfg.sha256 s.store.db claims.operatorID claims.teamID claims.jti
      s.now with
    | .ok () => some (s.setRequest id
        (some ⟨request, url, bearer, .authenticated claims verifiedAt s.now s.store.db⟩))
    | .error _ => some (s.setRequest id none)
  | .forward requestID, some r =>
    match r.stage with
    | .authenticated claims verifiedAt checkedAt db =>
      match forwarded cfg r claims requestID with
      | .ok child => some { s.setRequest id none with
          contacts := ⟨r.request, r.bearer, claims, verifiedAt, checkedAt, db, requestID, child⟩ ::
            s.contacts }
      | .error _ => some (s.setRequest id none)
    | _ => none
  | .abandon, some _ => some (s.setRequest id none)
  | _, _ => none

def GatewayState.next (s : GatewayState) : GatewayLabel → Option GatewayState
  | .tick d => some { s with now := s.now + d }
  | .callback identity sessionID encrypted txTime =>
    if s.fresh cfg sessionID then
      (s.storeStep cfg (.begin (.create (loginInput cfg s identity sessionID encrypted) txTime))).map
        (fun s => { s with drawn := sessionID :: s.drawn })
    else none
  | .derive sessionID => s.storeStep cfg (.derive sessionID)
  | .commitCreate sessionID =>
    match s.readyWrite cfg sessionID with
    | some (.create input txTime, visible) => some (s.finish cfg (.create input txTime) visible)
    | _ => none
  | .abortCreate sessionID =>
    match s.readyWrite cfg sessionID with
    | some (.create _ _, _) => s.storeStep cfg (.abort sessionID)
    | _ => none
  | .issue id l => issueNext cfg s id l (s.issues id)
  | .proxy id l => proxyNext cfg s id l (s.requests id)
  | .logout sessionID => s.storeStep cfg (.deleteSession sessionID)
  | .registerMapping mapping =>
    if mapping.issuer = cfg.configuredIssuer then s.storeStep cfg (.register mapping) else some s
  | .presentTeam teamID teamName archivedAt =>
    s.storeStep cfg (.refreshPresentation teamID teamName archivedAt)

/-- The Gateway from an empty database, at any time. -/
def gateway : System GatewayState GatewayLabel :=
  .ofNext (fun s => ∃ now, s = .initial now) (GatewayState.next cfg)

/-! ## Section 5: What a step can do -/

/-- The steps of the store that write no session and no token. -/
def StoreLabel.quiet : StoreLabel → Bool
  | .recordToken _ _ _ _ => false
  | .commit _ => false
  | .begin (.create _ _) => false
  | _ => true

/-- The store stays, or takes a step that writes no session and no token. -/
def Quiet (a b : StoreState) : Prop :=
  b = a ∨ ∃ l : StoreLabel, l.quiet = true ∧ a.next cfg.sha256 l = some b

/-- What a step that neither commits nor signs makes of a token request: a refresh keeps
    the instant it has read, and a new one reads the clock and finds the session. -/
def Advances (s : GatewayState) (id : Nat) (l : IssueLabel) (new : Issue) : Prop :=
  (∀ context token, new.stage ≠ .signed context token) ∧
  ∀ now, new.observing = some now → ∃ old, s.issues id = some old ∧
    old.sessionID = new.sessionID ∧
    (old.observing = some now ∨ (l = .readMembership ∧ now = s.now ∧
      (s.store.db.sessions.lookup (cfg.sha256 new.sessionID)).isSome))

inductive GatewayEffect (s : GatewayState) : GatewayLabel → GatewayState → Prop where
  | tick (d : Nat) : GatewayEffect s (.tick d) { s with now := s.now + d }
  | quiet {l store} (step : Quiet cfg s.store store) : GatewayEffect s l { s with store }
  | login {identity sessionID encrypted txTime store} (fresh : s.fresh cfg sessionID = true)
      (began : s.store.next cfg.sha256 (.begin (.create
        (loginInput cfg s identity sessionID encrypted) txTime)) = some store) :
      GatewayEffect s (.callback identity sessionID encrypted txTime)
        { s with store, drawn := sessionID :: s.drawn }
  | created {sessionID input txTime visible}
      (ready : s.readyWrite cfg sessionID = some (.create input txTime, visible)) :
      GatewayEffect s (.commitCreate sessionID) (s.finish cfg (.create input txTime) visible)
  | issue {id l store} {new : Option Issue} (step : Quiet cfg s.store store)
      (advances : ∀ i, new = some i → Advances cfg s id l i) :
      GatewayEffect s (.issue id l) { s with store, issues := Function.update s.issues id new }
  | replaced {id sessionID teamID now encrypted ids visible} {new : Option Issue}
      (found : s.issues id = some ⟨sessionID, teamID, .replacing now encrypted ids⟩)
      (ready : s.readyWrite cfg sessionID = some (.replace sessionID encrypted ids now, visible))
      (advances : ∀ i, new = some i → i.stage = .refreshed) :
      GatewayEffect s (.issue id .commit)
        ((s.finish cfg (.replace sessionID encrypted ids now) visible).setIssue id new)
  | signed {id jti sessionID teamID context token} (fresh : s.fresh cfg jti = true)
      (sign : cfg.signer.sign context.operatorID context.teamID context.teamName jti s.now =
        .ok token) :
      GatewayEffect s (.issue id (.sign jti))
        { s.setIssue id (some ⟨sessionID, teamID, .signed context token⟩) with
          drawn := jti :: s.drawn
          signed := cfg.signer.claims context.operatorID context.teamID context.teamName jti s.now ::
            s.signed }
  | recorded {id sessionID teamID context token store}
      (found : s.issues id = some ⟨sessionID, teamID, .signed context token⟩)
      (step : s.store.next cfg.sha256 (.recordToken context token.jti token.issuedAt
        token.expiresAt) = some store) :
      GatewayEffect s (.issue id .record)
        { s with store, issues := Function.update s.issues id none }
  | received {id request} {new : Option Proxied} (advances : ∀ r, new = some r → r.stage = .received) :
      GatewayEffect s (.proxy id (.receive request)) (s.setRequest id new)
  | verified {id request url bearer claims}
      (found : s.requests id = some ⟨request, url, bearer, .received⟩)
      (verify : cfg.signer.verify bearer s.now = some claims) :
      GatewayEffect s (.proxy id .verify)
        (s.setRequest id (some ⟨request, url, bearer, .verified claims s.now⟩))
  | checked {id request url bearer claims verifiedAt}
      (found : s.requests id = some ⟨request, url, bearer, .verified claims verifiedAt⟩)
      (check : validateTokenAccess cfg.sha256 s.store.db claims.operatorID claims.teamID claims.jti
        s.now = .ok ()) :
      GatewayEffect s (.proxy id .check) (s.setRequest id
        (some ⟨request, url, bearer, .authenticated claims verifiedAt s.now s.store.db⟩))
  | sent {id r claims verifiedAt checkedAt db requestID child} (found : s.requests id = some r)
      (stage : r.stage = .authenticated claims verifiedAt checkedAt db)
      (child_eq : forwarded cfg r claims requestID = .ok child) :
      GatewayEffect s (.proxy id (.forward requestID)) { s.setRequest id none with
        contacts := ⟨r.request, r.bearer, claims, verifiedAt, checkedAt, db, requestID, child⟩ ::
          s.contacts }
  | refused {id l} : GatewayEffect s (.proxy id l) (s.setRequest id none)

variable {cfg} {s s' : GatewayState}

theorem storeStep_eq_some {l : StoreLabel} : s.storeStep cfg l = some s' ↔
    ∃ store, s.store.next cfg.sha256 l = some store ∧ s' = { s with store } := by
  rw [GatewayState.storeStep, Option.map_eq_some_iff]
  exact exists_congr (fun _ => and_congr_right (fun _ => eq_comm))

variable {l : IssueLabel} {label : StoreLabel} {sessionID : String} {write : MembershipWrite}
  {visible : Table mappingSchema}

/-- A step of the store that no request takes note of. -/
theorem GatewayEffect.of_storeStep {l : GatewayLabel} (hl : label.quiet = true)
    (h : s.storeStep cfg label = some s') : GatewayEffect cfg s l s' := by
  obtain ⟨store, hstep, rfl⟩ := storeStep_eq_some.mp h
  exact .quiet (.inr ⟨label, hl, hstep⟩)

/-- A request that moves on with a step of the store. -/
theorem GatewayEffect.stores {id : Nat} {new : Option Issue} (hl : label.quiet = true)
    (h : (s.storeStep cfg label).map (·.setIssue id new) = some s')
    (hnew : ∀ i, new = some i → Advances cfg s id l i) : GatewayEffect cfg s (.issue id l) s' := by
  simp only [Option.map_eq_some_iff, storeStep_eq_some] at h
  obtain ⟨_, ⟨store, hstep, rfl⟩, rfl⟩ := h
  exact .issue (.inr ⟨label, hl, hstep⟩) hnew

/-- A request that only moves on, without touching the store. -/
theorem GatewayEffect.moves {id : Nat} {new : Option Issue}
    (h : ∀ i, new = some i → Advances cfg s id l i) :
    GatewayEffect cfg s (.issue id l) (s.setIssue id new) := by
  have hstore : Quiet cfg s.store s.store := .inl rfl
  exact .issue hstore h

theorem advances_of_idle {id : Nat} {i : Issue} (hobs : i.observing = none)
    (hstage : ∀ context token, i.stage ≠ .signed context token) : Advances cfg s id l i := by
  refine ⟨hstage, ?_⟩
  intro now hnow
  rw [hobs] at hnow
  cases hnow

theorem advances_of_kept {id : Nat} {old i : Issue} (hfound : s.issues id = some old)
    (hid : old.sessionID = i.sessionID) (hobs : i.observing = old.observing)
    (hstage : ∀ context token, i.stage ≠ .signed context token) : Advances cfg s id l i := by
  refine ⟨hstage, ?_⟩
  intro now hnow
  exact ⟨old, hfound, hid, .inl (hobs ▸ hnow)⟩

theorem advances_some {id : Nat} {i : Issue} (h : Advances cfg s id l i) :
    ∀ i', some i = some i' → Advances cfg s id l i' := by
  rintro _ ⟨⟩
  exact h

theorem advances_membershipStage {id : Nat} {teamID : String} {stage : IssueStage}
    (hfound : s.issues id = some ⟨sessionID, teamID, .started⟩)
    (hstage : membershipStage cfg s sessionID = some stage) :
    Advances cfg s id .readMembership ⟨sessionID, teamID, stage⟩ := by
  unfold membershipStage at hstage
  split_ifs at hstage with hrefreshes
  · cases hstate : membershipState cfg.sha256 s.store.db sessionID s.now with
    | error e => simp [hstate] at hstage
    | ok state =>
      rw [hstate] at hstage
      dsimp only at hstage
      split_ifs at hstage
      · cases hstage
        exact advances_of_idle rfl (by simp)
      · cases hstage
        refine ⟨by simp, ?_⟩
        intro now hnow
        refine ⟨_, hfound, rfl, .inr ⟨rfl, (Option.some.inj hnow).symm, ?_⟩⟩
        -- only a session that is there and has not expired has a membership state
        unfold membershipState liveSession at hstate
        cases hlookup : s.store.db.sessions.lookup (cfg.sha256 sessionID) with
        | none => simp [hlookup] at hstate
        | some session => rfl
  · cases hstage
    exact advances_of_idle rfl (by simp)

theorem issue_step_effect {id : Nat}
    (h : issueNext cfg s id l (s.issues id) = some s') : GatewayEffect cfg s (.issue id l) s' := by
  cases hfound : s.issues id with
  | none =>
    rw [hfound] at h
    cases l with
    | start sessionID teamID =>
      simp only [issueNext] at h
      split_ifs at h
      cases h
      exact .moves (advances_some (advances_of_idle rfl (by simp)))
    | _ => cases h
  | some i =>
    obtain ⟨sessionID, teamID, stage⟩ := i
    rw [hfound] at h
    cases l with
    | start _ _ => cases h
    | readMembership =>
      cases stage with
      | started =>
        cases h
        refine .moves ?_
        intro i hi
        obtain ⟨stage, hstage, rfl⟩ := Option.map_eq_some_iff.mp hi
        exact advances_membershipStage hfound hstage
      | _ => cases h
    | provider answer =>
      cases stage with
      | stale now state =>
        simp only [issueNext] at h
        split at h
        · cases h
          exact .moves (advances_some (advances_of_kept hfound rfl rfl (by simp)))
        · cases h
          exact .moves (by simp)
      | _ => cases h
    | begin =>
      cases stage with
      | fetched now encrypted ids =>
        exact .stores rfl h (advances_some (advances_of_kept hfound rfl rfl (by simp)))
      | _ => cases h
    | commit =>
      cases stage with
      | replacing now encrypted ids =>
        simp only [issueNext] at h
        split at h
        · rename_i write visible hready
          split_ifs at h with hwrite haccepts
          · cases h
            subst hwrite
            exact .replaced hfound hready (by simp)
          · cases h
            subst hwrite
            exact .replaced hfound hready (by simp)
        · cases h
      | _ => cases h
    | abandon =>
      cases stage with
      | replacing now encrypted ids =>
        simp only [issueNext] at h
        exact .stores rfl h (by simp)
      | _ =>
        cases h
        exact .moves (by simp)
    | readContext =>
      cases stage with
      | refreshed =>
        simp only [issueNext] at h
        split at h
        · cases h
          exact .moves (advances_some (advances_of_idle rfl (by simp)))
        · cases h
          exact .moves (by simp)
      | _ => cases h
    | present canonicalID teamName archivedAt =>
      cases stage with
      | authorised context =>
        simp only [issueNext] at h
        split_ifs at h with hpresents haccepts
        · exact .stores rfl h (advances_some (advances_of_idle rfl (by simp)))
        · exact .stores rfl h (by simp)
      | _ => cases h
    | skipPresentation =>
      cases stage with
      | authorised context =>
        simp only [issueNext] at h
        split_ifs at h
        cases h
        exact .moves (advances_some (advances_of_idle rfl (by simp)))
      | _ => cases h
    | sign jti =>
      cases stage with
      | presented context =>
        simp only [issueNext] at h
        split_ifs at h with hfresh
        split at h
        · rename_i token hsign
          cases h
          exact .signed hfresh hsign
        · cases h
          exact .moves (by simp)
      | _ => cases h
    | record =>
      cases stage with
      | signed context token =>
        simp only [issueNext, Option.map_eq_some_iff, storeStep_eq_some] at h
        obtain ⟨_, ⟨store, hstep, rfl⟩, rfl⟩ := h
        exact .recorded hfound hstep
      | _ => cases h

theorem proxy_step_effect {id : Nat} {l : ProxyLabel}
    (h : proxyNext cfg s id l (s.requests id) = some s') : GatewayEffect cfg s (.proxy id l) s' := by
  cases hfound : s.requests id with
  | none =>
    rw [hfound] at h
    cases l with
    | receive request =>
      simp only [proxyNext] at h
      split at h
      · split_ifs at h
        cases h
        refine .received ?_
        intro r hr
        obtain ⟨bearer, -, rfl⟩ := Option.map_eq_some_iff.mp hr
        rfl
      · cases h
    | _ => cases h
  | some r =>
    rw [hfound] at h
    cases l with
    | receive request => cases h
    | verify =>
      obtain ⟨request, url, bearer, stage⟩ := r
      cases stage with
      | received =>
        simp only [proxyNext] at h
        split_ifs at h
        · cases h
          exact .refused
        · cases h
          cases hverify : cfg.signer.verify bearer s.now with
          | none => exact .refused
          | some claims => exact .verified hfound hverify
      | _ => cases h
    | check =>
      obtain ⟨request, url, bearer, stage⟩ := r
      cases stage with
      | verified claims verifiedAt =>
        simp only [proxyNext] at h
        split at h
        · rename_i hcheck
          cases h
          exact .checked hfound hcheck
        · cases h
          exact .refused
      | _ => cases h
    | forward requestID =>
      simp only [proxyNext] at h
      split at h
      · rename_i claims verifiedAt checkedAt db hstage
        split at h
        · rename_i child hchild
          cases h
          exact .sent hfound hstage hchild
        · cases h
          exact .refused
      · cases h
    | abandon =>
      cases h
      exact .refused

/-- Every step is one of the effects. -/
theorem gateway_step_effect {l : GatewayLabel} (h : s.next cfg l = some s') :
    GatewayEffect cfg s l s' := by
  cases l with
  | tick d =>
    cases h
    exact .tick d
  | callback identity sessionID encrypted txTime =>
    simp only [GatewayState.next] at h
    split_ifs at h with hfresh
    simp only [Option.map_eq_some_iff, storeStep_eq_some] at h
    obtain ⟨_, ⟨store, hstep, rfl⟩, rfl⟩ := h
    exact .login hfresh hstep
  | derive sessionID => exact .of_storeStep rfl h
  | commitCreate sessionID =>
    simp only [GatewayState.next] at h
    split at h
    · rename_i hready
      cases h
      exact .created hready
    · cases h
  | abortCreate sessionID =>
    simp only [GatewayState.next] at h
    split at h
    · exact .of_storeStep rfl h
    · cases h
  | issue id l => exact issue_step_effect h
  | proxy id l => exact proxy_step_effect h
  | logout sessionID => exact .of_storeStep rfl h
  | registerMapping mapping =>
    simp only [GatewayState.next] at h
    split_ifs at h
    · exact .of_storeStep rfl h
    · cases h
      have hstore : Quiet cfg s.store s.store := .inl rfl
      exact .quiet hstore
  | presentTeam teamID teamName archivedAt => exact .of_storeStep rfl h

/-! ## Section 6: The store within the Gateway -/

theorem readyWrite_eq_some (h : s.readyWrite cfg sessionID = some (write, visible)) :
    s.store.writes.find? (fun w => cfg.sha256 w.write.sessionID = cfg.sha256 sessionID) =
      some ⟨write, some visible⟩ := by
  unfold GatewayState.readyWrite at h
  split at h
  · rename_i write' visible' hfind
    cases h
    exact hfind
  · cases h

/-- Committing a membership write is a step of the store. -/
theorem store_commit (h : s.readyWrite cfg sessionID = some (write, visible)) :
    s.store.next cfg.sha256 (.commit sessionID) = some (s.finish cfg write visible).store := by
  simp only [StoreState.next, readyWrite_eq_some h, GatewayState.finish]

/-- A step of the Gateway is a step of the store or leaves it alone. -/
theorem GatewayEffect.store {l : GatewayLabel} (h : GatewayEffect cfg s l s') :
    s'.store = s.store ∨ ∃ sl, s.store.next cfg.sha256 sl = some s'.store := by
  cases h with
  | tick d => exact .inl rfl
  | quiet hstep | issue hstep _ => exact hstep.imp_right (fun ⟨sl, _, hsl⟩ => ⟨sl, hsl⟩)
  | login _ hbegan => exact .inr ⟨_, hbegan⟩
  | created hready | replaced _ hready _ => exact .inr ⟨_, store_commit hready⟩
  | signed _ _ => exact .inl rfl
  | recorded _ hstep => exact .inr ⟨_, hstep⟩
  | received | verified | checked | sent | refused => exact .inl rfl

/-- The tables of the Gateway are those of a run of the store. -/
theorem store_reachable (h : (gateway cfg).Reachable s) : (store cfg.sha256).Reachable s.store := by
  refine System.Reachable.invariant (P := fun s => (store cfg.sha256).Reachable s.store) ?_ ?_ h
  · rintro _ ⟨now, rfl⟩
    exact .init rfl
  · intro s l s' _ hs hstep
    rcases (gateway_step_effect hstep).store with hsame | ⟨sl, hsl⟩
    · rw [hsame]
      exact hs
    · exact .step sl hs hsl

theorem coherent_store (h : (gateway cfg).Reachable s) : Coherent s.store :=
  coherent_reachable (store_reachable h)

/-- What a membership write leaves behind when it is committed, or that it was rolled back. -/
theorem finish_cases (hs : Coherent s.store)
    (hready : s.readyWrite cfg sessionID = some (write, visible)) :
    (∃ session db', Observed visible session (write.written cfg visible).oidcTeamIDs s.store.db db' ∧
      session.sessionHash = (write.written cfg visible).sessionHash ∧
      session.encryptedProviderState = (write.written cfg visible).encrypted ∧
      session.membershipObservedAt = Time.toMicros (write.written cfg visible).observedAt ∧
      s.finish cfg write visible = { s with
        store := ⟨db', s.store.without cfg.sha256 write.sessionID,
          (cfg.sha256 write.sessionID, visible) :: s.store.derivations⟩
        written := write.written cfg visible :: s.written }) ∨
    s.finish cfg write visible =
      { s with store := { s.store with writes := s.store.without cfg.sha256 write.sessionID } } := by
  cases hrun : write.tx cfg.sha256 visible s.store.db with
  | error e =>
    refine .inr ?_
    have haccepts : s.accepts cfg write visible = false := by
      rw [GatewayState.accepts, Tx.errorOf_eq_some.mpr hrun]
      rfl
    simp only [GatewayState.finish, haccepts, StoreState.finish, hrun]
    rfl
  | ok result =>
    obtain ⟨u, db'⟩ := result
    have haccepts : s.accepts cfg write visible = true := by
      rw [GatewayState.accepts, Tx.errorOf_eq_none.mpr ⟨u, by rw [Tx.commit_of_ok hrun, hrun]⟩]
      rfl
    have hfinish : s.finish cfg write visible = { s with
        store := ⟨db', s.store.without cfg.sha256 write.sessionID,
          (cfg.sha256 write.sessionID, visible) :: s.store.derivations⟩
        written := write.written cfg visible :: s.written } := by
      simp only [GatewayState.finish, haccepts, StoreState.finish, hrun]
      rfl
    refine .inl ?_
    cases write with
    | create input txTime =>
      exact ⟨_, db', hs.created hrun, rfl, rfl, rfl, hfinish⟩
    | replace id encrypted ids observedAt =>
      obtain ⟨session, hfound, hwrote⟩ := replaceMembership_eq_ok hrun
      exact ⟨_, db', hwrote, Table.key_of_lookup hfound, rfl, rfl, hfinish⟩

end FlowAI.Gateway
