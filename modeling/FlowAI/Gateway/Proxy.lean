import FlowAI.Framework.StrMap
import FlowAI.Framework.Tx
import FlowAI.Framework.UrlPath

/-! # The Gateway's Proxy

  Routing and forwarding of `httpapi/server.go`: the request multiplexer of
  `NewWithDependencies`, and the child request that `proxyREST` and `proxyWebSocket`
  send to the State Registry once the caller is authenticated.

  Of `net/http` the model has what decides where a request goes: a `ServeMux` that
  cleans the escaped path and compares its segments one by one, each decoded, and the
  map of header fields.  The body of a request, and what the registry answers, are
  left out.
-/

namespace FlowAI.Gateway

/-! ## Section 1: Header fields -/

/-- `strings.ToLower` of a field name; names are ASCII. -/
def lowerName (name : String) : List Char := name.toList.map Char.toLower

/-- `CanonicalMIMEHeaderKey` of a valid field name: capitals at the start and after a
    hyphen. -/
def canonicalChars : Bool → List Char → List Char
  | _, [] => []
  | upper, c :: cs => (if upper then c.toUpper else c.toLower) :: canonicalChars (c = '-') cs

def canonicalKey (name : String) : String := String.ofList (canonicalChars true name.toList)

/-- `http.Header`. -/
abbrev Header := StrMap (List String)

namespace Header

def get (h : Header) (name : String) : String :=
  ((h.lookup (canonicalKey name)).bind List.head?).getD ""

def set (h : Header) (name value : String) : Header :=
  StrMap.insert (canonicalKey name) [value] h

def add (h : Header) (name value : String) : Header :=
  StrMap.insert (canonicalKey name) ((h.lookup (canonicalKey name)).getD [] ++ [value]) h

/-- The fields of `from` that pass the filter, added value by value. -/
def addAll (h source : Header) (keep : String → Bool) : Header :=
  source.entries.foldl (fun h e => if keep e.1 then e.2.foldl (fun h v => h.add e.1 v) h else h) h

end Header

def isHopHeader (lower : List Char) : Bool :=
  lower ∈ ["connection".toList, "keep-alive".toList, "proxy-authenticate".toList,
    "proxy-authorization".toList, "te".toList, "trailer".toList, "transfer-encoding".toList,
    "upgrade".toList]

def flowAIPrefix : List Char := "x-flowai-".toList

/-- The fields `proxyREST` copies. -/
def forwardedREST (name : String) : Bool :=
  !(lowerName name = "authorization".toList || lowerName name = "cookie".toList ||
    flowAIPrefix.isPrefixOf (lowerName name) || isHopHeader (lowerName name))

/-- The fields `proxyWebSocket` copies. -/
def forwardedWebSocket (name : String) : Bool :=
  !(lowerName name = "authorization".toList || lowerName name = "cookie".toList ||
    lowerName name = "sec-websocket-protocol".toList || flowAIPrefix.isPrefixOf (lowerName name) ||
    isHopHeader (lowerName name) || "sec-websocket-".toList.isPrefixOf (lowerName name))

/-! ## Section 2: The multiplexer -/

/-- The client's request: the path as the request line has it, without the query. -/
structure ClientRequest where
  method : String
  target : Bytes
  rawQuery : String
  header : Header
  deriving DecidableEq

/-- The path of the URL in a request line: `*`, or empty, or starting with a slash. -/
def requestURL (r : ClientRequest) : Option UrlPath :=
  if r.target = [42] then some ⟨[42], []⟩
  else if r.target = [] || r.target.head? = some slashByte then setPath r.target
  else none

inductive Route where
  | healthz | login | callback | teams | token | session | mappings | ui
  deriving DecidableEq, Repr

/-- A pattern of the multiplexer: a method or any, literal segments, and a slash at the end
    that matches every path below. -/
structure Pattern where
  method : Option String
  segments : List String
  subtree : Bool
  route : Route

/-- The patterns in the order of `NewWithDependencies`. -/
def patterns : List Pattern := [
  ⟨some "GET", ["healthz"], false, .healthz⟩,
  ⟨some "GET", ["auth", "v1", "login"], false, .login⟩,
  ⟨some "GET", ["auth", "v1", "callback"], false, .callback⟩,
  ⟨some "GET", ["auth", "v1", "teams"], false, .teams⟩,
  ⟨some "POST", ["auth", "v1", "token"], false, .token⟩,
  ⟨some "DELETE", ["auth", "v1", "session"], false, .session⟩,
  ⟨some "POST", ["admin", "v1", "oidc-team-mappings"], false, .mappings⟩,
  ⟨none, ["ui"], true, .ui⟩]

/-- The first segment of an escaped path, decoded if possible, and the rest. -/
def firstSegment (path : Bytes) : Bytes × Bytes :=
  if path = [slashByte] then ([slashByte], [])
  else
    let segment := (path.drop 1).takeWhile (· ≠ slashByte)
    ((unescapePath segment).getD segment, (path.drop 1).dropWhile (· ≠ slashByte))

def matchSegments : List Bytes → Bool → Bytes → Bool
  | [], subtree, path => if subtree then path ≠ [] else path = []
  | s :: rest, subtree, path =>
    path ≠ [] && (firstSegment path).1 = s && matchSegments rest subtree (firstSegment path).2

def Pattern.matchesPath (p : Pattern) (path : Bytes) : Bool :=
  matchSegments (p.segments.map (fun s => utf8Encode s.toList)) p.subtree path

/-- A pattern for `GET` also matches `HEAD`. -/
def Pattern.matchesMethod (p : Pattern) (method : String) : Bool :=
  p.method = none || p.method = some method || (p.method = some "GET" && method = "HEAD")

def findPattern (method : String) (path : Bytes) : Option Pattern :=
  patterns.find? (fun p => p.matchesMethod method && p.matchesPath path)

/-- A match that is not due to the slash at the end of a pattern. -/
def exactMatch (p : Option Pattern) (path : Bytes) : Bool :=
  match p with
  | none => false
  | some p =>
    !p.subtree || (path.getLast? = some slashByte && p.segments.length + 1 = path.count slashByte)

/-- One segment of `path.Clean` on a rooted path. -/
def cleanStep (stack : List Bytes) (elem : Bytes) : List Bytes :=
  if elem = [] || elem = dot then stack
  else if elem = dotDot then stack.dropLast
  else stack ++ [elem]

def cleanRooted (path : Bytes) : Bytes :=
  slashByte :: joinSlashes ((splitSlashes path).foldl cleanStep [])

/-- `cleanPath`: the cleaned path with the slash at its end, if it had one. -/
def cleanPath (p : Bytes) : Bytes :=
  let p := if p.head? = some slashByte then p else slashByte :: p
  let np := cleanRooted p
  if p.getLast? = some slashByte && np ≠ [slashByte] then np ++ [slashByte] else np

/-- What the multiplexer does with a request. -/
inductive Routed where
  | handler (route : Route)
  | redirect
  | methodNotAllowed
  | notFound
  deriving DecidableEq, Repr

/-- The handler of a path, or the answer that there is none for it or for the method. -/
def handlerOf (p : Option Pattern) (path : Bytes) : Routed :=
  match p with
  | some p => .handler p.route
  | none => if patterns.any (fun p => p.matchesPath path) then .methodNotAllowed else .notFound

/-- The path without its slash belongs to a pattern with one. -/
def lacksSlash (method : String) (path : Bytes) : Bool :=
  !exactMatch (findPattern method path) path && path.getLast? ≠ some slashByte && path ≠ [] &&
    exactMatch (findPattern method (path ++ [slashByte])) (path ++ [slashByte])

/-- `findHandler`: the path is cleaned and redirected to, unless the method is `CONNECT`. -/
def route (method : String) (url : UrlPath) : Routed :=
  let escaped := url.escapedPath
  if method = "CONNECT" then
    if lacksSlash method escaped then .redirect
    else handlerOf (findPattern method escaped) escaped
  else
    let path := cleanPath escaped
    if lacksSlash method path || path ≠ escaped then .redirect
    else handlerOf (findPattern method path) path

/-! ## Section 3: The child request -/

/-- The claims of a working token. -/
structure Claims where
  issuer : String
  audience : String
  subject : String
  operatorID : String
  teamID : String
  teamName : Option String
  issuedAt : Int64
  expiresAt : Int64
  jti : String
  deriving DecidableEq

/-- An error answer. -/
structure Reply where
  status : Nat
  code : String
  message : String
  deriving DecidableEq, Repr

def registryUnavailable : Reply :=
  ⟨502, "state_registry_unavailable", "State Registry is unavailable"⟩

def teamNotAccessible : Reply := ⟨403, "team_not_accessible", "team is not accessible"⟩

/-- What is sent to the State Registry: the escaped path of the request line and the header. -/
structure ChildRequest where
  method : String
  path : Bytes
  rawQuery : String
  header : Header
  deriving DecidableEq

/-- The trusted fields, set on top of what was copied. -/
def trustedHeader (h : Header) (claims : Claims) (requestID : String) : Header :=
  let h := ((h.set "X-FlowAI-Operator-ID" claims.operatorID).set "X-FlowAI-Team-ID"
    claims.teamID).set "X-FlowAI-Request-ID" requestID
  match claims.teamName with
  | some teamName => h.set "X-FlowAI-Team-Name" teamName
  | none => h

/-- The path a URL is sent with, after it was written out and parsed again. -/
def sentPath (target : UrlPath) : Option Bytes :=
  (setPath target.escapedPath).map UrlPath.escapedPath

/-- `proxyREST` after the authentication; `base` is the path of the configured URL, `none`
    if that URL does not parse. -/
def forwardREST (base : Option UrlPath) (claims : Claims) (url : UrlPath) (r : ClientRequest)
    (requestID : String) : Except Reply ChildRequest := do
  let base ← Check.need base registryUnavailable
  -- `ResolveReference` of a reference that has only a path and a query
  let target ← Check.need (setPath (resolvePath base.escapedPath
    (UrlPath.mk url.path []).escapedPath)) registryUnavailable
  let path ← Check.need (sentPath target) registryUnavailable
  return {
    method := r.method, path, rawQuery := r.rawQuery
    header := trustedHeader (Header.addAll .empty r.header forwardedREST) claims requestID }

/-- `proxyWebSocket` after the authentication: the path is taken over as it was decoded. -/
def forwardWebSocket (base : Option UrlPath) (claims : Claims) (url : UrlPath) (r : ClientRequest)
    (requestID : String) : Except Reply ChildRequest := do
  let _ ← Check.need base registryUnavailable
  let path ← Check.need (sentPath ⟨url.path, []⟩) registryUnavailable
  return {
    method := "GET", path, rawQuery := r.rawQuery
    header := trustedHeader (Header.addAll .empty r.header forwardedWebSocket) claims requestID }

end FlowAI.Gateway
