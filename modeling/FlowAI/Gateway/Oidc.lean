import FlowAI.Gateway.Server

/-! # The OIDC Flow

  `oidc/flow.go` and `oidc/team_claims.go`: the authorization-code flow with its pending
  authorizations, the claim documents, and the adapters that read team identifiers from
  them.

  The provider is a parameter: what its endpoints answer, and the claims that the token
  verifier accepts an ID token with.  An answer is a status and the first JSON value of
  its body, if the body starts with one.  A Go value of type `any` that was read from JSON
  is the JSON text itself; of two members of one name the last counts.
-/

namespace FlowAI.Gateway

open FlowAI.Registry (trimSpace)

/-! ## Section 1: Team claims -/

/-- `AdapterKind`, which is a string. -/
inductive AdapterKind where
  | stringArray
  | objectArray
  | other (name : String)
  deriving DecidableEq, Repr

structure TeamClaimAdapter where
  kind : AdapterKind
  claimPointer : String
  idField : String
  nameField : String
  deriving DecidableEq, Repr

/-- One token of a pointer, with its escapes undone. -/
def unescapeToken : List Char → Except String (List Char)
  | [] => .ok []
  | '~' :: '0' :: rest => do
    let rest ← unescapeToken rest
    return '~' :: rest
  | '~' :: '1' :: rest => do
    let rest ← unescapeToken rest
    return '/' :: rest
  | '~' :: _ => .error "contains an invalid escape"
  | c :: rest => do
    let rest ← unescapeToken rest
    return c :: rest

def parsePointer (pointer : String) : Except String (List String) :=
  match pointer.toList with
  | '/' :: rest => do
    let tokens ← (rest.splitOn '/').mapM unescapeToken
    return tokens.map String.ofList
  | _ => .error "must be a non-empty RFC 6901 JSON pointer"

namespace TeamClaimAdapter

variable (a : TeamClaimAdapter)

/-- `%q` of an adapter name. -/
def kindText : AdapterKind → String
  | .stringArray => "string_array"
  | .objectArray => "object_array"
  | .other name => name

def validate : Except String Unit := do
  Check.ensure (a.kind = .stringArray ∨ a.kind = .objectArray)
    ("unsupported team claim adapter \"" ++ kindText a.kind ++ "\"")
  let _ ← (parsePointer a.claimPointer).mapError ("claim pointer: " ++ ·)
  Check.ensure (a.kind ≠ .stringArray ∨ (a.idField = "" ∧ a.nameField = ""))
    "string_array does not accept object fields"
  Check.ensure (a.kind ≠ .objectArray ∨ trimSpace a.idField ≠ "") "object_array requires id_field"

/-- One step of `resolvePointer` below the document. -/
def descend (current : JsonText) (token : String) : Except String JsonText :=
  match current with
  | .obj members =>
    match (JsonText.rawMap members).lookup token with
    | none => .error "claim pointer target is missing or null"
    | some .null => .error "claim pointer target is missing or null"
    | some value => .ok value
  | _ => .error "claim pointer traverses a non-object"

/-- `resolvePointer`; the document is a map, so the first token is a key of it. -/
def resolvePointer (document : StrMap JsonText) (pointer : String) : Except String JsonText := do
  match ← parsePointer pointer with
  | [] => .ok (.obj document.entries)
  | first :: rest =>
    match document.lookup first with
    | none => .error "claim pointer target is missing or null"
    | some .null => .error "claim pointer target is missing or null"
    | some value => rest.foldlM descend value

/-- The identifier of an element, the empty string if there is none. -/
def elementID (item : JsonText) : String :=
  match a.kind, item with
  | .stringArray, .str id => id
  | .objectArray, .obj members =>
    match (JsonText.rawMap members).lookup a.idField with
    | some (.str id) => id
    | _ => ""
  | _, _ => ""

/-- The loop of `Normalize`; `index` is the element's and `result` has no duplicates. -/
def collect : Nat → List String → List JsonText → Except String (List String)
  | _, result, [] => .ok result
  | index, result, item :: items =>
    if a.elementID item = "" then
      .error ("team claim element " ++ toString index ++ " has no non-empty identifier")
    else if a.elementID item ∈ result then collect (index + 1) result items
    else collect (index + 1) (result ++ [a.elementID item]) items

def normalize (claims : StrMap JsonText) : Except String (List String) := do
  a.validate
  match ← resolvePointer claims a.claimPointer with
  | .arr items => a.collect 0 [] items
  | _ => .error "team claim must be an array"

end TeamClaimAdapter

/-! ## Section 2: The provider -/

inductive ClaimSource where
  | idToken
  | userinfo
  deriving DecidableEq, Repr

structure FlowConfig where
  issuer : String
  teamClaims : TeamClaimAdapter
  claimSource : ClaimSource
  deriving DecidableEq, Repr

inductive FlowError where
  | plain (message : String)
  | providerUnavailable (detail : String)
  | jwksUnavailable
  | invalidToken
  deriving DecidableEq, Repr

/-- An answer over HTTP: the status, and the first JSON value of the body. -/
structure HttpResponse where
  status : Nat
  body : Option JsonText

/-- What the provider answers and what the verifier accepts. -/
structure OidcProvider where
  /-- The token endpoint, for a code and its PKCE verifier; `none` if the call fails. -/
  exchange : String → String → Option HttpResponse
  /-- The token endpoint, for a refresh token. -/
  refresh : String → Option HttpResponse
  userInfo : String → Option HttpResponse
  verify : String → Int → Except FlowError (StrMap JsonText)

/-- The tokens of a token response. -/
structure TokenResponse where
  accessToken : String
  refreshToken : String
  idToken : String
  tokenType : String
  expiresIn : Int64
  deriving DecidableEq

open JsonText in
def tokenResponseFields : List (StructField TokenResponse) :=
  [.of "access_token" (·.accessToken) (fun t v => { t with accessToken := v }) storeString,
    .of "refresh_token" (·.refreshToken) (fun t v => { t with refreshToken := v }) storeString,
    .of "id_token" (·.idToken) (fun t v => { t with idToken := v }) storeString,
    .of "token_type" (·.tokenType) (fun t v => { t with tokenType := v }) storeString,
    .of "expires_in" (·.expiresIn) (fun t v => { t with expiresIn := v }) storeInt64]

def TokenResponse.ofBody (body : Option JsonText) : Option TokenResponse :=
  body.bind (JsonText.storeStruct false tokenResponseFields ⟨"", "", "", "", 0⟩)

/-- The body of an answer with status 200. -/
def requireOK (what : String) (response : Option HttpResponse) :
    Except FlowError (Option JsonText) := do
  let response ← Check.need response (.providerUnavailable "")
  Check.ensure (response.status = 200)
    (.providerUnavailable (what ++ " status " ++ toString response.status))
  return response.body

/-- `claims[name].(string)`. -/
def stringClaim (claims : StrMap JsonText) (name : String) : Option String :=
  match claims.lookup name with
  | some (.str text) => some text
  | _ => none

/-- Ask UserInfo, store its document into the claims at hand, and compare the subject. -/
def userInfoClaims (provider : OidcProvider) (accessToken : String)
    (claims : Option (StrMap JsonText)) (subject : String) : Except FlowError (StrMap JsonText) := do
  let body ← requireOK "userinfo" (provider.userInfo accessToken)
  let document ← Check.need (body.bind (JsonText.storeIntoMap claims)) .invalidToken
  let document := document.getD .empty
  Check.ensure (stringClaim document "sub" = some subject) .invalidToken
  return document

/-! ## Section 3: `Flow` -/

structure PendingAuthorization where
  state : String
  nonce : String
  pkceVerifier : String
  expiresAt : Int
  deriving DecidableEq

/-- `Consume`: what was pending, and what is still pending. -/
def consume (pending : StrMap PendingAuthorization) (state : String) (now : Int) :
    Option PendingAuthorization × StrMap PendingAuthorization :=
  ((pending.lookup state).filter (fun p => now < p.expiresAt), pending.erase state)

/-- What `Complete` returns. -/
structure FlowIdentity extends Identity where
  providerState : Bytes
  deriving DecidableEq

/-- `"oidc_"` and the digest of issuer and subject. -/
def operatorIDOf (sha256 : Bytes → Bytes) (issuer subject : String) : String :=
  "oidc_" ++ String.ofList (base64UrlEncode (sha256
    (utf8Encode issuer.toList ++ 0 :: utf8Encode subject.toList)))

open JsonText in
/-- The provider state of a login, a map in key order. -/
def loginState (tokens : TokenResponse) : Bytes :=
  (JsonText.obj [("access_token", .str tokens.accessToken),
    ("expires_in", .int tokens.expiresIn.toInt), ("refresh_token", .str tokens.refreshToken),
    ("token_type", .str "Bearer")]).marshal

/-- The claims a membership is read from, once the ID token is validated. -/
def claimDocument (cfg : FlowConfig) (provider : OidcProvider) (accessToken : String)
    (claims : StrMap JsonText) (subject : String) : Except FlowError (StrMap JsonText) :=
  match cfg.claimSource with
  | .idToken => .ok claims
  | .userinfo => userInfoClaims provider accessToken (some claims) subject

/-- The token response of the code exchange. -/
def exchangeCode (provider : OidcProvider) (code pkceVerifier : String) :
    Except FlowError TokenResponse := do
  let body ← requireOK "token" (provider.exchange code pkceVerifier)
  let tokens ← Check.need (TokenResponse.ofBody body) (.providerUnavailable "malformed token response")
  Check.ensure (tokens.accessToken ≠ "" ∧ tokens.idToken ≠ "" ∧
      JsonText.foldName tokens.tokenType = JsonText.foldName "Bearer")
    (.providerUnavailable "malformed token response")
  return tokens

/-- `Complete` after `Consume`. -/
def completeConsumed (cfg : FlowConfig) (sha256 : Bytes → Bytes) (provider : OidcProvider)
    (pending : Option PendingAuthorization) (code : String) (now : Int) :
    Except FlowError FlowIdentity := do
  let pending ← Check.need pending .invalidToken
  let tokens ← exchangeCode provider code pending.pkceVerifier
  let claims ← provider.verify tokens.idToken now
  Check.ensure (stringClaim claims "nonce" = some pending.nonce) .invalidToken
  let subject ← Check.need (stringClaim claims "sub") .invalidToken
  Check.ensure (subject ≠ "") .invalidToken
  let document ← claimDocument cfg provider tokens.accessToken claims subject
  Check.ensure (cfg.teamClaims.kind = .other "" ∨ cfg.teamClaims.claimPointer ≠ "") .invalidToken
  let teamIDs ← (cfg.teamClaims.normalize document).mapError (fun _ => FlowError.invalidToken)
  return {
    issuer := cfg.issuer
    subject := subject
    operatorID := operatorIDOf sha256 cfg.issuer subject
    oidcTeamIDs := teamIDs
    providerState := loginState tokens }

/-- `Complete`: its result, and what is still pending. -/
def complete (cfg : FlowConfig) (sha256 : Bytes → Bytes) (provider : OidcProvider)
    (pending : StrMap PendingAuthorization) (code state : String) (consumedAt now : Int) :
    Except FlowError FlowIdentity × StrMap PendingAuthorization :=
  if code = "" ∨ state = "" then
    (.error (.plain "authorization code and state are required"), pending)
  else
    (completeConsumed cfg sha256 provider (consume pending state consumedAt).1 code now,
      (consume pending state consumedAt).2)

/-- The provider state that `Refresh` reads. -/
structure ProviderState where
  accessToken : String
  refreshToken : String
  deriving DecidableEq

open JsonText in
def providerStateFields : List (StructField ProviderState) :=
  [.of "access_token" (·.accessToken) (fun t v => { t with accessToken := v }) storeString,
    .of "refresh_token" (·.refreshToken) (fun t v => { t with refreshToken := v }) storeString]

def ProviderState.ofBytes (encoded : Bytes) : Option ProviderState :=
  (JsonText.unmarshal encoded).bind (JsonText.storeStruct false providerStateFields ⟨"", ""⟩)

/-- The refresh grant: the new state, and the claims of the new ID token. -/
def refreshGrant (provider : OidcProvider) (state : ProviderState) (subject : String) (now : Int) :
    Except FlowError (ProviderState × StrMap JsonText) := do
  let body ← requireOK "refresh" (provider.refresh state.refreshToken)
  let tokens ← Check.need (TokenResponse.ofBody body)
    (.providerUnavailable "malformed refresh response")
  Check.ensure (tokens.accessToken ≠ "" ∧ tokens.idToken ≠ "")
    (.providerUnavailable "malformed refresh response")
  let claims ← provider.verify tokens.idToken now
  Check.ensure ((stringClaim claims "sub").getD "" = subject) .invalidToken
  return (⟨tokens.accessToken,
    if tokens.refreshToken ≠ "" then tokens.refreshToken else state.refreshToken⟩, claims)

/-- The state and the claims at hand after the refresh grant, if there is a refresh token. -/
def refreshedClaims (provider : OidcProvider) (state : ProviderState) (subject : String) (now : Int) :
    Except FlowError (ProviderState × Option (StrMap JsonText)) :=
  if state.refreshToken = "" then .ok (state, none)
  else do
    let (state, claims) ← refreshGrant provider state subject now
    return (state, some claims)

/-- The claims that a refreshed membership is read from. -/
def refreshDocument (cfg : FlowConfig) (provider : OidcProvider) (accessToken : String)
    (claims : Option (StrMap JsonText)) (subject : String) : Except FlowError (StrMap JsonText) :=
  match cfg.claimSource with
  | .userinfo => userInfoClaims provider accessToken claims subject
  | .idToken => Check.need claims
      (.providerUnavailable "refresh token is required for id_token membership")

/-- `Refresh`: the observed teams and the provider state to keep. -/
def refreshFlow (cfg : FlowConfig) (provider : OidcProvider) (encoded : Bytes)
    (expectedSubject : String) (now : Int) : Except FlowError (List String × Bytes) := do
  let state ← Check.need (ProviderState.ofBytes encoded) .invalidToken
  Check.ensure (expectedSubject ≠ "") .invalidToken
  let (state, claims) ← refreshedClaims provider state expectedSubject now
  let document ← refreshDocument cfg provider state.accessToken claims expectedSubject
  let teamIDs ← (cfg.teamClaims.normalize document).mapError (fun _ => FlowError.invalidToken)
  return (teamIDs, (JsonText.ofStrings [("access_token", state.accessToken),
    ("refresh_token", state.refreshToken), ("token_type", "Bearer")]).marshal)

end FlowAI.Gateway
