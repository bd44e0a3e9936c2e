import FlowAI.Registry.Routes

/-! # Pagination Cursors

  The package `cursor` and its keyring (`config/cursor_keyring.go`).  A cursor is
  `key_id "." base64url(envelope) "." base64url(tag)`, where the envelope is the JSON
  of the endpoint, the caller's scope, the ordering, the filters and a position, and
  the tag is an HMAC over a header, the key id and the envelope.

  HMAC-SHA-256 is a parameter.  Error texts of the Go libraries that the source wraps
  are left out.
-/

namespace FlowAI.Registry

/-! ## Section 1: The keyring -/

/-- The key id of a deployment with a single key. -/
def cursorKeySingle : String := "state-registry-cursor-v1"

def maxCursorKeyIDLength : Nat := 64

def maxCursorKeyCount : Nat := 8

/-- `%q` of a text without characters to escape, such as a key id. -/
def quoted (text : String) : String := "\"" ++ text ++ "\""

def validCursorKeyID (keyID : String) : Bool :=
  keyID ≠ "" && decide (keyID.utf8ByteSize ≤ maxCursorKeyIDLength) && trimSpace keyID = keyID &&
    keyID.toList.all (fun c => isAlphanumeric c || c ∈ ['.', '_', ':', '-'])

/-- What the loader guarantees of a keyring. -/
structure SoundCursorKeys (primary : String) (keys : StrMap Bytes) : Prop where
  active : (keys.lookup primary).isSome
  entries : ∀ keyID key, keys.lookup keyID = some key →
    validCursorKeyID keyID = true ∧ key.length = 32

structure CursorKeyring where
  keys : StrMap Bytes
  primary : String
  sound : SoundCursorKeys primary keys

def decodeCursorKey (name keyHex : String) : Except String Bytes := do
  Check.ensure (keyHex ≠ "")
    "STATE_REGISTRY_CURSOR_KEY_HEX is required (32-byte hex-encoded cursor HMAC key)"
  let decoded ← Check.need (hexDecode keyHex.toList) ("decode " ++ name)
  Check.ensure (decoded.length = 32)
    (name ++ " must decode to exactly 32 bytes, got " ++ toString decoded.length)
  return decoded

/-- One turn of the loop over the previous keys. -/
def addPreviousCursorKey (activeKeyID : String) (keys : StrMap Bytes) (entry : String × String) :
    Except String (StrMap Bytes) := do
  Check.ensure (validCursorKeyID entry.1)
    "previous cursor key id must be 1-64 characters from [A-Za-z0-9._:-]"
  Check.ensure (entry.1 ≠ activeKeyID)
    ("previous cursor keys must not repeat active key id " ++ quoted activeKeyID)
  let key ← decodeCursorKey "previous cursor key" entry.2
  return keys.insert entry.1 key

/-- The JSON object of previous keys; a Go map is ranged over in key order here. -/
def addPreviousCursorKeys (activeKeyID previousKeysJSON : String) (keys : StrMap Bytes) :
    Except String (StrMap Bytes) :=
  if previousKeysJSON = "" then .ok keys
  else do
    let previous ← Check.need
      ((JsonText.parse previousKeysJSON.toList).bind (JsonText.storeStringMap .empty))
      "decode STATE_REGISTRY_CURSOR_PREVIOUS_KEYS_JSON"
    Check.ensure (previous.entries.length + 1 ≤ maxCursorKeyCount)
      "cursor keyring may contain at most 8 keys"
    previous.entries.foldlM (addPreviousCursorKey activeKeyID) keys

/-- The active key id: an empty setting stands for the single-key one. -/
def activeCursorKeyID (activeKeyID : String) : String :=
  if activeKeyID = "" then cursorKeySingle else activeKeyID

def loadCursorKeys (activeKeyID activeKeyHex previousKeysJSON : String) :
    Except String (StrMap Bytes) := do
  Check.ensure (validCursorKeyID (activeCursorKeyID activeKeyID))
    "STATE_REGISTRY_CURSOR_KEY_ID must be 1-64 characters from [A-Za-z0-9._:-]"
  let activeKey ← decodeCursorKey "STATE_REGISTRY_CURSOR_KEY_HEX" activeKeyHex
  addPreviousCursorKeys (activeCursorKeyID activeKeyID) previousKeysJSON
    (StrMap.empty.insert (activeCursorKeyID activeKeyID) activeKey)

theorem decodeCursorKey_ok {name keyHex : String} {key : Bytes}
    (h : decodeCursorKey name keyHex = .ok key) : key.length = 32 := by
  simp only [decodeCursorKey, Check.bind_eq_ok, Check.ensure_eq_ok, Check.need_eq_ok,
    Check.pure_eq_ok] at h
  obtain ⟨_, _, decoded, _, _, hlen, rfl⟩ := h
  exact hlen

variable {keys : StrMap Bytes} {α : Type} {keyID : String}

/-- A loop turn keeps the keyring sound and the active key in place. -/
theorem addPreviousCursorKey_ok {primary : String} {keys' : StrMap Bytes}
    {entry : String × String} (hs : SoundCursorKeys primary keys)
    (h : addPreviousCursorKey primary keys entry = .ok keys') : SoundCursorKeys primary keys' := by
  simp only [addPreviousCursorKey, Check.bind_eq_ok, Check.ensure_eq_ok, Check.pure_eq_ok] at h
  obtain ⟨_, hvalid, _, hne, key, hkey, rfl⟩ := h
  constructor
  · rw [StrMap.lookup_insert, if_neg hne]
    exact hs.active
  · exact StrMap.forall_lookup_insert ⟨hvalid, decodeCursorKey_ok hkey⟩ hs.entries

theorem loadCursorKeys_ok {activeKeyID activeKeyHex previousKeysJSON : String}
    (h : loadCursorKeys activeKeyID activeKeyHex previousKeysJSON = .ok keys) :
    SoundCursorKeys (activeCursorKeyID activeKeyID) keys := by
  simp only [loadCursorKeys, Check.bind_eq_ok, Check.ensure_eq_ok] at h
  obtain ⟨_, hvalid, key, hkey, hprevious⟩ := h
  have hone : SoundCursorKeys (activeCursorKeyID activeKeyID)
      (StrMap.empty.insert (activeCursorKeyID activeKeyID) key) := by
    constructor
    · simp
    · exact StrMap.forall_lookup_insert ⟨hvalid, decodeCursorKey_ok hkey⟩ (by simp)
  unfold addPreviousCursorKeys at hprevious
  split at hprevious
  · injection hprevious with hprevious
    exact hprevious ▸ hone
  · simp only [Check.bind_eq_ok, Check.ensure_eq_ok] at hprevious
    obtain ⟨_, _, _, _, hfold⟩ := hprevious
    exact Check.foldlM_ok (fun _ _ _ => addPreviousCursorKey_ok) hone hfold

def loadRotatingCursorKeyring (activeKeyID activeKeyHex previousKeysJSON : String) :
    Except String CursorKeyring :=
  match h : loadCursorKeys activeKeyID activeKeyHex previousKeysJSON with
  | .ok keys => .ok ⟨keys, activeCursorKeyID activeKeyID, loadCursorKeys_ok h⟩
  | .error e => .error e

theorem loadRotatingCursorKeyring_primary {activeKeyID activeKeyHex previousKeysJSON : String}
    {keyring : CursorKeyring}
    (h : loadRotatingCursorKeyring activeKeyID activeKeyHex previousKeysJSON = .ok keyring) :
    keyring.primary = activeCursorKeyID activeKeyID := by
  unfold loadRotatingCursorKeyring at h
  split at h
  · injection h with h
    subst h
    rfl
  · simp at h

namespace Cursor

/-! ## Section 2: Identities -/

def adminRole : String := "admin"

structure Identity where
  kind : String
  teamID : String
  operatorID : String
  deriving DecidableEq, Repr

def Identity.scope (i : Identity) : String :=
  if i.kind = "gateway" then "gateway|" ++ i.teamID ++ "|" ++ i.operatorID
  else if i.kind = "admin" then "admin|" ++ adminRole
  else "unknown|" ++ i.kind

/-- The same scope; an admin is its role only. -/
def Identity.equal (i o : Identity) : Bool :=
  i.kind = o.kind &&
    if i.kind = "gateway" then decide (i.teamID = o.teamID ∧ i.operatorID = o.operatorID)
    else decide (i.kind = "admin")

/-! ## Section 3: The envelope -/

structure TagPositionTuple where
  teamID : String
  executionTag : String
  taskTypeID : String
  deriving DecidableEq, Repr

structure TaskPositionTuple where
  ingestedAtNano : Int64
  taskID : String
  deriving DecidableEq, Repr

structure AuditPositionTuple where
  occurredAtNano : Int64
  auditID : String
  deriving DecidableEq, Repr

structure EnvironmentPositionTuple where
  createdAtNano : Int64
  environmentID : String
  deriving DecidableEq, Repr

structure SecretPositionTuple where
  createdAtNano : Int64
  secretID : String
  deriving DecidableEq, Repr

structure SecretVersionPositionTuple where
  version : Int64
  secretID : String
  deriving DecidableEq, Repr

/-- The six continuation tuples an issue or an envelope may carry. -/
structure Positions where
  tagPosition : Option TagPositionTuple := none
  taskPosition : Option TaskPositionTuple := none
  auditPosition : Option AuditPositionTuple := none
  environmentPosition : Option EnvironmentPositionTuple := none
  secretPosition : Option SecretPositionTuple := none
  secretVersionPosition : Option SecretVersionPositionTuple := none
  deriving DecidableEq, Repr

structure Envelope extends Positions where
  endpoint : String := ""
  scope : String := ""
  ordering : String := ""
  direction : String := ""
  filters : StrMap String := .empty
  deriving DecidableEq

open JsonText

/-- A tuple of a number and an id, as five of the six tuples are. -/
def numbered (numberName idName : String) (number : Int64) (id : String) : JsonText :=
  .obj [(numberName, .int number.toInt), (idName, .str id)]

def TagPositionTuple.toJson (p : TagPositionTuple) : JsonText :=
  .obj [("t", .str p.teamID), ("e", .str p.executionTag), ("y", .str p.taskTypeID)]

def TaskPositionTuple.toJson (p : TaskPositionTuple) : JsonText :=
  numbered "i" "t" p.ingestedAtNano p.taskID

def AuditPositionTuple.toJson (p : AuditPositionTuple) : JsonText :=
  numbered "o" "a" p.occurredAtNano p.auditID

def EnvironmentPositionTuple.toJson (p : EnvironmentPositionTuple) : JsonText :=
  numbered "c" "e" p.createdAtNano p.environmentID

def SecretPositionTuple.toJson (p : SecretPositionTuple) : JsonText :=
  numbered "c" "s" p.createdAtNano p.secretID

def SecretVersionPositionTuple.toJson (p : SecretVersionPositionTuple) : JsonText :=
  numbered "v" "s" p.version p.secretID

/-- The members of the envelope in field order; a nil position is left out. -/
def Envelope.toJson (env : Envelope) : JsonText :=
  .obj ([("ep", .str env.endpoint), ("sc", .str env.scope), ("or", .str env.ordering),
      ("dr", .str env.direction), ("ft", ofStringMap env.filters)] ++
    omitEmpty "tp" (env.tagPosition.map TagPositionTuple.toJson) ++
    omitEmpty "kp" (env.taskPosition.map TaskPositionTuple.toJson) ++
    omitEmpty "ap" (env.auditPosition.map AuditPositionTuple.toJson) ++
    omitEmpty "enp" (env.environmentPosition.map EnvironmentPositionTuple.toJson) ++
    omitEmpty "sep" (env.secretPosition.map SecretPositionTuple.toJson) ++
    omitEmpty "svp" (env.secretVersionPosition.map SecretVersionPositionTuple.toJson))

def tagPositionFields : List (StructField TagPositionTuple) :=
  [.of "t" (·.teamID) (fun p v => { p with teamID := v }) storeString,
    .of "e" (·.executionTag) (fun p v => { p with executionTag := v }) storeString,
    .of "y" (·.taskTypeID) (fun p v => { p with taskTypeID := v }) storeString]

def taskPositionFields : List (StructField TaskPositionTuple) :=
  [.of "i" (·.ingestedAtNano) (fun p v => { p with ingestedAtNano := v }) storeInt64,
    .of "t" (·.taskID) (fun p v => { p with taskID := v }) storeString]

def auditPositionFields : List (StructField AuditPositionTuple) :=
  [.of "o" (·.occurredAtNano) (fun p v => { p with occurredAtNano := v }) storeInt64,
    .of "a" (·.auditID) (fun p v => { p with auditID := v }) storeString]

def environmentPositionFields : List (StructField EnvironmentPositionTuple) :=
  [.of "c" (·.createdAtNano) (fun p v => { p with createdAtNano := v }) storeInt64,
    .of "e" (·.environmentID) (fun p v => { p with environmentID := v }) storeString]

def secretPositionFields : List (StructField SecretPositionTuple) :=
  [.of "c" (·.createdAtNano) (fun p v => { p with createdAtNano := v }) storeInt64,
    .of "s" (·.secretID) (fun p v => { p with secretID := v }) storeString]

def secretVersionPositionFields : List (StructField SecretVersionPositionTuple) :=
  [.of "v" (·.version) (fun p v => { p with version := v }) storeInt64,
    .of "s" (·.secretID) (fun p v => { p with secretID := v }) storeString]

/-- A position of the envelope: a pointer to a struct of the given fields. -/
def positionField {α : Type} (name : String) (get : Envelope → Option α)
    (set : Envelope → Option α → Envelope) (zero : α) (fields : List (StructField α)) : StructField Envelope :=
  .of name get set (storePointer zero (storeStruct false fields))

def envelopeFields : List (StructField Envelope) :=
  [.of "ep" (·.endpoint) (fun e v => { e with endpoint := v }) storeString,
    .of "sc" (·.scope) (fun e v => { e with scope := v }) storeString,
    .of "or" (·.ordering) (fun e v => { e with ordering := v }) storeString,
    .of "dr" (·.direction) (fun e v => { e with direction := v }) storeString,
    .of "ft" (·.filters) (fun e v => { e with filters := v }) storeStringMap,
    positionField "tp" (·.tagPosition) (fun e v => { e with tagPosition := v }) ⟨"", "", ""⟩
      tagPositionFields,
    positionField "kp" (·.taskPosition) (fun e v => { e with taskPosition := v }) ⟨0, ""⟩
      taskPositionFields,
    positionField "ap" (·.auditPosition) (fun e v => { e with auditPosition := v }) ⟨0, ""⟩
      auditPositionFields,
    positionField "enp" (·.environmentPosition) (fun e v => { e with environmentPosition := v })
      ⟨0, ""⟩ environmentPositionFields,
    positionField "sep" (·.secretPosition) (fun e v => { e with secretPosition := v }) ⟨0, ""⟩
      secretPositionFields,
    positionField "svp" (·.secretVersionPosition) (fun e v => { e with secretVersionPosition := v })
      ⟨0, ""⟩ secretVersionPositionFields]

/-- `json.Unmarshal` into a zero envelope. -/
def Envelope.ofBytes (bytes : Bytes) : Option Envelope :=
  (unmarshal bytes).bind (storeStruct false envelopeFields {})

/-! ### The envelope is read back -/

theorem marshalled_numbered (numberName idName : String) (number : Int64) (id : String) :
    (numbered numberName idName number id).Marshalled := by
  simp [numbered]

theorem marshalled_omitEmpty {toJson : α → JsonText} (h : ∀ a, (toJson a).Marshalled)
    (name : String) (p : Option α) : ∀ m ∈ omitEmpty name (p.map toJson), m.2.Marshalled := by
  cases p with
  | none => simp [omitEmpty]
  | some a => simp [omitEmpty, h]

theorem Envelope.marshalled_toJson (env : Envelope) : env.toJson.Marshalled := by
  rw [Envelope.toJson, marshalled_obj]
  intro m hm
  simp only [List.mem_append] at hm
  rcases hm with (((((hm | hm) | hm) | hm) | hm) | hm) | hm
  · simp only [List.mem_cons, List.not_mem_nil, or_false] at hm
    rcases hm with rfl | rfl | rfl | rfl | rfl <;> simp
  · exact marshalled_omitEmpty (fun p => by simp [TagPositionTuple.toJson]) _ _ m hm
  · exact marshalled_omitEmpty (fun p => marshalled_numbered _ _ _ _) _ _ m hm
  · exact marshalled_omitEmpty (fun p => marshalled_numbered _ _ _ _) _ _ m hm
  · exact marshalled_omitEmpty (fun p => marshalled_numbered _ _ _ _) _ _ m hm
  · exact marshalled_omitEmpty (fun p => marshalled_numbered _ _ _ _) _ _ m hm
  · exact marshalled_omitEmpty (fun p => marshalled_numbered _ _ _ _) _ _ m hm

/-- Reading back a number and an id. -/
theorem storeStruct_numbered {numberName idName : String} {getNumber : α → Int64}
    {setNumber : α → Int64 → α} {getID : α → String} {setID : α → String → α} {zero : α}
    (hne : numberName ≠ idName) (number : Int64) (id : String) :
    storeStruct false [.of numberName getNumber setNumber storeInt64,
        .of idName getID setID storeString] zero (numbered numberName idName number id) =
      some (setID (setNumber zero number) id) := by
  have hnumber : findField [.of numberName getNumber setNumber storeInt64,
      .of idName getID setID storeString] numberName =
        some (.of numberName getNumber setNumber storeInt64) := by
    simp [findField, StructField.of]
  have hid : findField [.of numberName getNumber setNumber storeInt64,
      .of idName getID setID storeString] idName = some (.of idName getID setID storeString) := by
    simp [findField, StructField.of, hne]
  rw [numbered, storeStruct, List.foldlM_cons,
    storeMember_of hnumber (storeInt64_int number (getNumber zero))]
  simp only [Option.bind_eq_bind, Option.bind_some, List.foldlM_cons, List.foldlM_nil]
  rw [storeMember_of hid (a := id) rfl]
  rfl

theorem storeStruct_tagPosition (p : TagPositionTuple) :
    storeStruct false tagPositionFields ⟨"", "", ""⟩ p.toJson = some p := by
  simp [TagPositionTuple.toJson, storeStruct, tagPositionFields, storeMember, findField, StructField.of,
    storeString]

/-- The members that are always there. -/
theorem storeStruct_envelope_head (env : Envelope) :
    [("ep", JsonText.str env.endpoint), ("sc", .str env.scope), ("or", .str env.ordering),
      ("dr", .str env.direction), ("ft", ofStringMap env.filters)].foldlM
        (storeMember false envelopeFields) {} =
      some { endpoint := env.endpoint, scope := env.scope, ordering := env.ordering,
             direction := env.direction, filters := env.filters } := by
  simp [storeMember, findField, envelopeFields, StructField.of, storeString]

/-- One position: the field of its name, still nil, takes the pointer that was written. -/
theorem storeStruct_position {name : String} {get : Envelope → Option α}
    {set : Envelope → Option α → Envelope} {zero : α} {fields : List (StructField α)}
    {toJson : α → JsonText} {env : Envelope}
    (hfind : findField envelopeFields name = some (positionField name get set zero fields))
    (hget : get env = none) (hset : set env none = env)
    (hstore : ∀ a, storeStruct false fields zero (toJson a) = some a)
    (hobj : ∀ a, toJson a ≠ .null) (p : Option α) :
    (omitEmpty name (p.map toJson)).foldlM (storeMember false envelopeFields) env =
      some (set env p) :=
  foldlM_omitEmpty hfind hget hset hstore hobj p

theorem storeStruct_envelope (env : Envelope) :
    storeStruct false envelopeFields {} env.toJson = some env := by
  have htask : ∀ p : TaskPositionTuple,
      storeStruct false taskPositionFields ⟨0, ""⟩ p.toJson = some p :=
    fun p => storeStruct_numbered (by decide) p.1 p.2
  have haudit : ∀ p : AuditPositionTuple,
      storeStruct false auditPositionFields ⟨0, ""⟩ p.toJson = some p :=
    fun p => storeStruct_numbered (by decide) p.1 p.2
  have henvironment : ∀ p : EnvironmentPositionTuple,
      storeStruct false environmentPositionFields ⟨0, ""⟩ p.toJson = some p :=
    fun p => storeStruct_numbered (by decide) p.1 p.2
  have hsecret : ∀ p : SecretPositionTuple,
      storeStruct false secretPositionFields ⟨0, ""⟩ p.toJson = some p :=
    fun p => storeStruct_numbered (by decide) p.1 p.2
  have hversion : ∀ p : SecretVersionPositionTuple,
      storeStruct false secretVersionPositionFields ⟨0, ""⟩ p.toJson = some p :=
    fun p => storeStruct_numbered (by decide) p.1 p.2
  rw [Envelope.toJson, storeStruct]
  simp only [List.foldlM_append, storeStruct_envelope_head, Option.bind_eq_bind, Option.bind_some]
  -- the positions one after the other, each into an envelope that does not have it yet
  rw [storeStruct_position rfl rfl rfl storeStruct_tagPosition
      (by simp [TagPositionTuple.toJson]), Option.bind_some,
    storeStruct_position rfl rfl rfl htask
      (by simp [TaskPositionTuple.toJson, numbered]), Option.bind_some,
    storeStruct_position rfl rfl rfl haudit
      (by simp [AuditPositionTuple.toJson, numbered]), Option.bind_some,
    storeStruct_position rfl rfl rfl henvironment
      (by simp [EnvironmentPositionTuple.toJson, numbered]), Option.bind_some,
    storeStruct_position rfl rfl rfl hsecret
      (by simp [SecretPositionTuple.toJson, numbered]), Option.bind_some,
    storeStruct_position rfl rfl rfl hversion
      (by simp [SecretVersionPositionTuple.toJson, numbered])]

theorem Envelope.ofBytes_marshal (env : Envelope) :
    Envelope.ofBytes env.toJson.marshal = some env := by
  rw [Envelope.ofBytes, unmarshal_marshal env.marshalled_toJson, Option.bind_some,
    storeStruct_envelope]

/-! ## Section 4: `Encode` and `Decode` -/

def direction : String := "forward"

def maxTokenLength : Nat := 1536

def maxKeyIDLength : Nat := 64

def protocolHeader : String := "v0002-cursor/v1"

structure EncodeIssue extends Positions where
  endpoint : String
  identity : Identity
  ordering : String
  filters : StrMap String
  deriving DecidableEq

structure DecodeRequest where
  token : String
  endpoint : String
  identity : Identity
  ordering : String
  filters : StrMap String
  deriving DecidableEq

section

-- HMAC-SHA-256 of a key and a message
variable (hmac : Bytes → Bytes → Bytes)

/-- The bytes that are tagged. -/
def macInput (keyID : String) (env : Bytes) : Bytes :=
  utf8Encode protocolHeader.toList ++ 0 :: (utf8Encode keyID.toList ++ 0 :: env)

def computeMAC (key : Bytes) (keyID : String) (env : Bytes) : Bytes :=
  hmac key (macInput keyID env)

/-- The envelope of an issue. -/
def EncodeIssue.envelope (issue : EncodeIssue) : Envelope where
  toPositions := issue.toPositions
  endpoint := issue.endpoint
  scope := issue.identity.scope
  ordering := issue.ordering
  direction := direction
  filters := issue.filters

/-- A key that can be used, as both directions look it up. -/
def usableKey (keyring : CursorKeyring) (keyID : String) : Option Bytes :=
  (keyring.keys.lookup keyID).filter (fun key => key ≠ [])

def tokenText (keyID : String) (env mac : Bytes) : String :=
  keyID ++ "." ++ String.ofList (base64UrlEncode env) ++ "." ++
    String.ofList (base64UrlEncode mac)

def encode (keyring : Option CursorKeyring) (issue : EncodeIssue) : Except String String := do
  let keyring ← Check.need keyring "cursor: nil keyring"
  Check.ensure (issue.endpoint ≠ "" ∧ issue.ordering ≠ "") "cursor: missing endpoint or ordering"
  Check.ensure (issue.identity.kind = "gateway" ∨ issue.identity.kind = "admin")
    "cursor: identity kind must be gateway or admin"
  let key ← Check.need (usableKey keyring keyring.primary)
    ("cursor: keyring missing key " ++ quoted keyring.primary)
  let envBytes := issue.envelope.toJson.marshal
  let token := tokenText keyring.primary envBytes (computeMAC hmac key keyring.primary envBytes)
  Check.ensure (token.utf8ByteSize ≤ maxTokenLength) "cursor: encoded token exceeds maximum length"
  return token

/-- The three parts of a token. -/
def splitToken (token : String) : Option (List Char × List Char × List Char) :=
  match splitDots token.toList with
  | [keyID, env, mac] => some (keyID, env, mac)
  | _ => none

def filtersEqual (a b : StrMap String) : Bool :=
  decide (a.entries.length = b.entries.length) &&
    a.entries.all (fun e => b.lookup e.1 = some e.2)

/-- The error of every token that is malformed or tampered with. -/
def invalid (reason : String) : String := "cursor: " ++ reason

def decode (keyring : Option CursorKeyring) (req : DecodeRequest) : Except String Envelope := do
  let keyring ← Check.need keyring "cursor: nil keyring"
  Check.ensure (req.token ≠ "") (invalid "empty token")
  Check.ensure (req.token.utf8ByteSize ≤ maxTokenLength) (invalid "token too long")
  let (keyPart, envPart, macPart) ← Check.need (splitToken req.token) (invalid "malformed token")
  let keyID := String.ofList keyPart
  Check.ensure (keyID ≠ "" ∧ keyID.utf8ByteSize ≤ maxKeyIDLength) (invalid "missing key_id")
  let key ← Check.need (usableKey keyring keyID) (invalid "unknown key_id")
  let envBytes ← Check.need (base64UrlDecode envPart) (invalid "envelope decode")
  let macBytes ← Check.need (base64UrlDecode macPart) (invalid "mac decode")
  Check.ensure (computeMAC hmac key keyID envBytes = macBytes) (invalid "mac mismatch")
  let env ← Check.need (Envelope.ofBytes envBytes) (invalid "envelope parse")
  Check.ensure (env.endpoint = req.endpoint) (invalid "endpoint mismatch")
  Check.ensure (env.scope = req.identity.scope) (invalid "scope mismatch")
  Check.ensure (env.ordering = req.ordering) (invalid "ordering mismatch")
  Check.ensure (env.direction = direction) (invalid "direction mismatch")
  Check.ensure (filtersEqual env.filters req.filters) (invalid "filter mismatch")
  return env

end

/-! ## Section 5: Inversion -/

section

variable {hmac : Bytes → Bytes → Bytes} {keyring : CursorKeyring} {issue : EncodeIssue}
  {req : DecodeRequest} {token : String} {env : Envelope}

/-- The checks of `Encode` before it computes a tag. -/
def EncodeIssue.Complete (issue : EncodeIssue) : Prop :=
  (issue.endpoint ≠ "" ∧ issue.ordering ≠ "") ∧
    (issue.identity.kind = "gateway" ∨ issue.identity.kind = "admin")

instance (issue : EncodeIssue) : Decidable issue.Complete := by
  unfold EncodeIssue.Complete
  infer_instance

theorem encode_eq_ok :
    encode hmac (some keyring) issue = .ok token ↔ issue.Complete ∧
      ∃ key, usableKey keyring keyring.primary = some key ∧
        token = tokenText keyring.primary issue.envelope.toJson.marshal
          (computeMAC hmac key keyring.primary issue.envelope.toJson.marshal) ∧
        token.utf8ByteSize ≤ maxTokenLength := by
  simp only [encode, Check.bind_eq_ok, Check.need_eq_ok, Check.ensure_eq_ok, Check.pure_eq_ok]
  constructor
  · rintro ⟨_, ⟨rfl⟩, _, hnames, _, hkind, key, hkey, _, hsize, rfl⟩
    exact ⟨⟨hnames, hkind⟩, key, hkey, rfl, hsize⟩
  · rintro ⟨⟨hnames, hkind⟩, key, hkey, rfl, hsize⟩
    exact ⟨_, rfl, (), hnames, (), hkind, key, hkey, (), hsize, rfl⟩

/-- The envelope is what the request asks to continue. -/
structure Envelope.Matches (env : Envelope) (req : DecodeRequest) : Prop where
  endpoint : env.endpoint = req.endpoint
  scope : env.scope = req.identity.scope
  ordering : env.ordering = req.ordering
  direction : env.direction = Cursor.direction
  filters : filtersEqual env.filters req.filters = true

theorem decode_eq_ok :
    decode hmac (some keyring) req = .ok env ↔
      ∃ keyPart envPart macPart key envBytes, req.token ≠ "" ∧
        req.token.utf8ByteSize ≤ maxTokenLength ∧
        splitToken req.token = some (keyPart, envPart, macPart) ∧
        (String.ofList keyPart ≠ "" ∧ (String.ofList keyPart).utf8ByteSize ≤ maxKeyIDLength) ∧
        usableKey keyring (String.ofList keyPart) = some key ∧
        base64UrlDecode envPart = some envBytes ∧
        base64UrlDecode macPart = some (computeMAC hmac key (String.ofList keyPart) envBytes) ∧
        Envelope.ofBytes envBytes = some env ∧ env.Matches req := by
  simp only [decode, Check.bind_eq_ok, Check.need_eq_ok, Check.ensure_eq_ok, Check.pure_eq_ok]
  constructor
  · rintro ⟨_, ⟨rfl⟩, _, hne, _, hsize, ⟨keyPart, envPart, macPart⟩, hsplit, _, hid, key, hkey,
      envBytes, henv, _, hmac, _, rfl, env, hparse, _, h₁, _, h₂, _, h₃, _, h₄, _, h₅, rfl⟩
    exact ⟨keyPart, envPart, macPart, key, envBytes, hne, hsize, hsplit, hid, hkey, henv, hmac,
      hparse, ⟨h₁, h₂, h₃, h₄, h₅⟩⟩
  · rintro ⟨keyPart, envPart, macPart, key, envBytes, hne, hsize, hsplit, hid, hkey, henv, hmac,
      hparse, ⟨h₁, h₂, h₃, h₄, h₅⟩⟩
    exact ⟨_, rfl, (), hne, (), hsize, (keyPart, envPart, macPart), hsplit, (), hid, key, hkey,
      envBytes, henv, _, hmac, (), rfl, env, hparse, (), h₁, (), h₂, (), h₃, (), h₄, (), h₅, rfl⟩

theorem filtersEqual_iff {a b : StrMap String} : filtersEqual a b = true ↔ a = b := by
  unfold filtersEqual
  rw [Bool.and_eq_true, decide_eq_true_eq, List.all_eq_true]
  constructor
  · rintro ⟨hsize, hall⟩
    refine StrMap.eq_of_forall_lookup hsize ?_
    intro e he
    exact of_decide_eq_true (hall e he)
  · rintro rfl
    refine ⟨rfl, ?_⟩
    intro e he
    exact decide_eq_true (StrMap.lookup_eq_some_iff.mpr he)

theorem usableKey_eq_some {key : Bytes} :
    usableKey keyring keyID = some key ↔ keyring.keys.lookup keyID = some key := by
  unfold usableKey
  rw [Option.filter_eq_some_iff]
  constructor
  · exact fun h => h.1
  · intro h
    refine ⟨h, ?_⟩
    have hlen := (keyring.sound.entries keyID key h).2
    simp only [ne_eq, decide_not, Bool.not_eq_eq_eq_not, Bool.not_true, decide_eq_false_iff_not]
    rintro rfl
    simp at hlen

theorem toList_tokenText (keyID : String) (env mac : Bytes) :
    (tokenText keyID env mac).toList =
      keyID.toList ++ '.' :: (base64UrlEncode env ++ '.' :: base64UrlEncode mac) := by
  simp [tokenText]

theorem splitToken_tokenText (hdot : '.' ∉ keyID.toList) (env mac : Bytes) :
    splitToken (tokenText keyID env mac) =
      some (keyID.toList, base64UrlEncode env, base64UrlEncode mac) := by
  rw [splitToken, toList_tokenText, splitDots_three hdot (dot_not_mem_base64UrlEncode env)
    (dot_not_mem_base64UrlEncode mac)]

theorem splitToken_dotted (hdot : '.' ∈ keyID.toList) (env mac : Bytes) :
    splitToken (tokenText keyID env mac) = none := by
  have hlen := length_splitDots (tokenText keyID env mac).toList
  have hcount : 0 < keyID.toList.count '.' := List.count_pos_iff.mpr hdot
  rw [toList_tokenText, List.count_append, List.count_cons_self, List.count_append,
    List.count_cons_self] at hlen
  rw [splitToken, toList_tokenText]
  split
  · rename_i heq
    rw [heq] at hlen
    simp only [List.length_cons, List.length_nil] at hlen
    omega
  · rfl

theorem validCursorKeyID_spec (h : validCursorKeyID keyID = true) :
    keyID ≠ "" ∧ keyID.utf8ByteSize ≤ maxKeyIDLength ∧
      ∀ c ∈ keyID.toList, isAlphanumeric c = true ∨ c ∈ ['.', '_', ':', '-'] := by
  simp only [validCursorKeyID, Bool.and_eq_true, decide_eq_true_eq, List.all_eq_true,
    Bool.or_eq_true] at h
  obtain ⟨⟨⟨hne, hsize⟩, -⟩, hall⟩ := h
  exact ⟨hne, hsize, hall⟩

end

end Cursor

end FlowAI.Registry
