import FlowAI.Registry.Cursor

/-! # Scope Tokens

  The compact tokens of `store/scope_tokens.go` and their rotating keyring
  (`store/scope_token_keyring.go`).  A token is
  `base64url(header) "." base64url(claims) "." base64url(mac)`; the header names the
  algorithm and the key, the MAC is taken over the first two segments as they stand.

  The three HMACs are a parameter that comes with the sizes of their sums.  Error texts
  of the Go libraries that the source wraps are left out, and a Go map is ranged over
  in key order.
-/

namespace FlowAI.Registry

variable {entry : ScopeTokenPreviousEntry} {activeAlg : ScopeTokenAlgorithm}
  {primary previousJSON : String} {keys keys' : StrMap ScopeTokenKey}
  {entries : List ScopeTokenPreviousEntry}

/-! ## Section 1: Algorithms and keys -/

inductive ScopeTokenAlgorithm where
  | hs256 | hs384 | hs512
  deriving DecidableEq, Repr

def ScopeTokenAlgorithm.text : ScopeTokenAlgorithm → String
  | .hs256 => "HS256"
  | .hs384 => "HS384"
  | .hs512 => "HS512"

/-- The size of a sum in bytes. -/
def ScopeTokenAlgorithm.size : ScopeTokenAlgorithm → Nat
  | .hs256 => 32
  | .hs384 => 48
  | .hs512 => 64

/-- The allow-list. -/
def allowedScopeTokenAlg (text : String) : Option ScopeTokenAlgorithm :=
  if text = "HS256" then some .hs256
  else if text = "HS384" then some .hs384
  else if text = "HS512" then some .hs512
  else none

@[simp] theorem allowedScopeTokenAlg_text (alg : ScopeTokenAlgorithm) :
    allowedScopeTokenAlg alg.text = some alg := by
  cases alg <;> decide

theorem text_of_allowedScopeTokenAlg {text : String} {alg : ScopeTokenAlgorithm}
    (h : allowedScopeTokenAlg text = some alg) : text = alg.text := by
  unfold allowedScopeTokenAlg at h
  split_ifs at h with h256 h384 h512
  · cases h
    exact h256
  · cases h
    exact h384
  · cases h
    exact h512

def defaultScopeTokenKeyID : String := "state-registry-scope-v1"

def maxScopeTokenKeyIDLength : Nat := 64

def maxScopeTokenKeyCount : Nat := 8

structure ScopeTokenKey where
  bytes : Bytes
  alg : ScopeTokenAlgorithm
  deriving DecidableEq, Repr

def validScopeTokenKeyID (keyID : String) : Bool :=
  keyID ≠ "" && decide (keyID.utf8ByteSize ≤ maxScopeTokenKeyIDLength) && trimSpace keyID = keyID &&
    keyID.toList.all (fun c => isAlphanumeric c || c ∈ ['.', '_', ':', '-'])

/-- What the builder guarantees of a keyring. -/
structure SoundScopeTokenKeys (primary : String) (activeAlg : ScopeTokenAlgorithm)
    (keys : StrMap ScopeTokenKey) : Prop where
  active : ∃ bytes, keys.lookup primary = some ⟨bytes, activeAlg⟩
  entries : ∀ keyID key, keys.lookup keyID = some key →
    validScopeTokenKeyID keyID = true ∧ 32 ≤ key.bytes.length

structure ScopeTokenKeyring where
  keys : StrMap ScopeTokenKey
  primary : String
  activeAlg : ScopeTokenAlgorithm
  sound : SoundScopeTokenKeys primary activeAlg keys

theorem ScopeTokenKeyring.isSome_active (k : ScopeTokenKeyring) :
    (k.keys.lookup k.primary).isSome := by
  obtain ⟨bytes, hactive⟩ := k.sound.active
  rw [hactive]
  rfl

/-- The key new tokens are signed with; a keyring that was built has it. -/
def ScopeTokenKeyring.activeKey (k : ScopeTokenKeyring) : ScopeTokenKey :=
  (k.keys.lookup k.primary).get k.isSome_active

@[simp] theorem ScopeTokenKeyring.lookup_primary (k : ScopeTokenKeyring) :
    k.keys.lookup k.primary = some k.activeKey :=
  (Option.some_get k.isSome_active).symm

/-! ## Section 2: Building the keyring -/

def decodeScopeTokenKey (name keyHex : String) : Except String Bytes := do
  Check.ensure (keyHex ≠ "") "scope token key is required (32-byte hex-encoded HMAC key)"
  let decoded ← Check.need (hexDecode (trimSpace keyHex).toList) ("decode " ++ name)
  Check.ensure (32 ≤ decoded.length)
    (name ++ " must decode to at least 32 bytes for HS256/HS384/HS512, got " ++
      toString decoded.length)
  return decoded

/-- An entry of the previous keys; the algorithm is empty in the hex-only shape. -/
structure ScopeTokenPreviousEntry where
  keyID : String
  keyHex : String
  alg : String
  deriving DecidableEq, Repr

/-- `strings.ToUpper`, on the letters that can become ASCII capitals. -/
def upperChar (c : Char) : Char :=
  if c = Char.ofNat 0x17f then 'S' else if c = Char.ofNat 0x131 then 'I' else c.toUpper

def toUpper (s : String) : String := String.ofList (s.toList.map upperChar)

/-- Whether a value has the structured shape; `none` when it has neither shape. -/
def structuredEntry : JsonText → Option Bool
  | .obj _ => some true
  | .str _ => some false
  | _ => none

/-- A value of the previous-keys map. -/
def readPreviousEntry (keyID : String) : JsonText → Except String ScopeTokenPreviousEntry
  | .str keyHex => .ok ⟨keyID, keyHex, ""⟩
  | .obj members => do
    let fields := JsonText.rawMap members
    Check.ensure (fields.entries.length = 2)
      "decode previous scope token keys: structured entries require exactly key and alg"
    let key ← Check.need (fields.lookup "key")
      "decode previous scope token keys: structured entries require exactly key and alg"
    let alg ← Check.need (fields.lookup "alg")
      "decode previous scope token keys: structured entries require exactly key and alg"
    let keyHex ← Check.need (JsonText.storeString "" key)
      "decode previous scope token keys: key must be a string"
    let alg ← Check.need (JsonText.storeString "" alg)
      "decode previous scope token keys: alg must be a string"
    return ⟨keyID, keyHex, toUpper (trimSpace alg)⟩
  | _ => .error
      "decode previous scope token keys: values must be hex strings or structured key objects"

/-- One turn of the parsing loop: the shape of the entries so far, and the entries. -/
def appendPreviousEntry (acc : Option Bool × List ScopeTokenPreviousEntry)
    (entry : String × JsonText) :
    Except String (Option Bool × List ScopeTokenPreviousEntry) := do
  let entryStructured ← Check.need (structuredEntry entry.2)
    "decode previous scope token keys: values must be hex strings or structured key objects"
  Check.ensure (acc.1 = none ∨ acc.1 = some entryStructured)
    "decode previous scope token keys: legacy and structured key entries must not be mixed"
  let parsed ← readPreviousEntry entry.1 entry.2
  return (some entryStructured, acc.2 ++ [parsed])

def parseScopeTokenPreviousKeys (previousJSON : String) :
    Except String (List ScopeTokenPreviousEntry) := do
  let rawEntries ← Check.need
    ((JsonText.parse previousJSON.toList).bind JsonText.storeRawMap)
    "decode previous scope token keys"
  let out ← rawEntries.entries.foldlM appendPreviousEntry (none, [])
  return out.2

/-- The key of an entry: an entry without an algorithm takes that of the keyring. -/
def ScopeTokenPreviousEntry.key (entry : ScopeTokenPreviousEntry) (activeAlg : ScopeTokenAlgorithm) :
    Except String ScopeTokenKey := do
  let bytes ← decodeScopeTokenKey "previous scope token key" entry.keyHex
  let entryAlg := if entry.alg = "" then activeAlg.text else entry.alg
  let alg ← Check.need (allowedScopeTokenAlg entryAlg)
    ("previous scope token key " ++ quoted entry.keyID ++ " algorithm " ++ quoted entryAlg ++
      " is not in the HS256/HS384/HS512 allow-list")
  return ⟨bytes, alg⟩

/-- One turn of the loop over the previous keys. -/
def addPreviousScopeTokenKey (primaryID : String) (activeAlg : ScopeTokenAlgorithm)
    (keys : StrMap ScopeTokenKey) (entry : ScopeTokenPreviousEntry) :
    Except String (StrMap ScopeTokenKey) := do
  Check.ensure (validScopeTokenKeyID entry.keyID)
    "previous scope token key id must be 1..64 characters from [A-Za-z0-9._:-]"
  Check.ensure (entry.keyID ≠ primaryID)
    ("previous scope token keys must not repeat active key id " ++ quoted primaryID)
  let key ← entry.key activeAlg
  return keys.insert entry.keyID key

def addPreviousScopeTokenKeys (primaryID : String) (activeAlg : ScopeTokenAlgorithm)
    (previousJSON : String) (keys : StrMap ScopeTokenKey) : Except String (StrMap ScopeTokenKey) :=
  if previousJSON = "" then .ok keys
  else do
    let entries ← parseScopeTokenPreviousKeys previousJSON
    Check.ensure (entries.length + 1 ≤ maxScopeTokenKeyCount)
      "scope token keyring may contain at most 8 keys"
    entries.foldlM (addPreviousScopeTokenKey primaryID activeAlg) keys

/-- The primary key id: an empty setting stands for the default one. -/
def scopeTokenKeyID (primaryID : String) : String :=
  if primaryID = "" then defaultScopeTokenKeyID else primaryID

/-- The algorithm of the keyring, HS256 unless configured. -/
def scopeTokenAlg (alg : String) : Except String ScopeTokenAlgorithm :=
  let alg := if alg = "" then "HS256" else alg
  Check.need (allowedScopeTokenAlg alg)
    ("scope token signing algorithm " ++ quoted alg ++
      " is not in the HS256/HS384/HS512 allow-list")

/-- The algorithm and the keys of the keyring. -/
def buildScopeTokenKeys (primaryID primaryKeyHex previousJSON alg : String) :
    Except String (ScopeTokenAlgorithm × StrMap ScopeTokenKey) := do
  Check.ensure (validScopeTokenKeyID (scopeTokenKeyID primaryID))
    "scope token key id must be 1..64 characters from [A-Za-z0-9._:-]"
  let activeAlg ← scopeTokenAlg alg
  let bytes ← decodeScopeTokenKey "scope token key" primaryKeyHex
  let keys ← addPreviousScopeTokenKeys (scopeTokenKeyID primaryID) activeAlg previousJSON
    (StrMap.empty.insert (scopeTokenKeyID primaryID) ⟨bytes, activeAlg⟩)
  return (activeAlg, keys)

theorem decodeScopeTokenKey_ok {name keyHex : String} {key : Bytes}
    (h : decodeScopeTokenKey name keyHex = .ok key) : 32 ≤ key.length := by
  simp only [decodeScopeTokenKey, Check.bind_eq_ok, Check.ensure_eq_ok, Check.need_eq_ok,
    Check.pure_eq_ok] at h
  obtain ⟨_, _, decoded, _, _, hlen, rfl⟩ := h
  exact hlen

variable {key : ScopeTokenKey} {claims : ScopeTokenClaims}

theorem ScopeTokenPreviousEntry.key_ok (h : entry.key activeAlg = .ok key) :
    32 ≤ key.bytes.length := by
  simp only [ScopeTokenPreviousEntry.key, Check.bind_eq_ok, Check.need_eq_ok, Check.pure_eq_ok] at h
  obtain ⟨bytes, hbytes, alg, _, rfl⟩ := h
  exact decodeScopeTokenKey_ok hbytes

theorem addPreviousScopeTokenKey_eq_ok :
    addPreviousScopeTokenKey primary activeAlg keys entry = .ok keys' ↔
      validScopeTokenKeyID entry.keyID = true ∧ entry.keyID ≠ primary ∧
        ∃ key, entry.key activeAlg = .ok key ∧ keys.insert entry.keyID key = keys' := by
  simp only [addPreviousScopeTokenKey, Check.bind_eq_ok, Check.ensure_eq_ok, Check.pure_eq_ok]
  constructor
  · rintro ⟨_, hvalid, _, hne, key, hkey, hkeys⟩
    exact ⟨hvalid, hne, key, hkey, hkeys⟩
  · rintro ⟨hvalid, hne, key, hkey, hkeys⟩
    exact ⟨(), hvalid, (), hne, key, hkey, hkeys⟩

/-- A loop turn keeps the keyring sound and the active key in place. -/
theorem addPreviousScopeTokenKey_ok (hs : SoundScopeTokenKeys primary activeAlg keys)
    (h : addPreviousScopeTokenKey primary activeAlg keys entry = .ok keys') :
    SoundScopeTokenKeys primary activeAlg keys' := by
  obtain ⟨hvalid, hne, key, hkey, rfl⟩ := addPreviousScopeTokenKey_eq_ok.mp h
  constructor
  · rw [StrMap.lookup_insert, if_neg hne]
    exact hs.active
  · exact StrMap.forall_lookup_insert ⟨hvalid, entry.key_ok hkey⟩ hs.entries

theorem buildScopeTokenKeys_ok {primaryID primaryKeyHex alg : String}
    (h : buildScopeTokenKeys primaryID primaryKeyHex previousJSON alg = .ok (activeAlg, keys)) :
    SoundScopeTokenKeys (scopeTokenKeyID primaryID) activeAlg keys := by
  simp only [buildScopeTokenKeys, Check.bind_eq_ok, Check.ensure_eq_ok, Check.pure_eq_ok,
    Prod.mk.injEq] at h
  obtain ⟨_, hvalid, _, -, bytes, hbytes, _, hprevious, rfl, rfl⟩ := h
  rename_i activeAlg keys
  have hone : SoundScopeTokenKeys (scopeTokenKeyID primaryID) activeAlg
      (StrMap.empty.insert (scopeTokenKeyID primaryID) ⟨bytes, activeAlg⟩) := by
    constructor
    · exact ⟨bytes, by simp⟩
    · exact StrMap.forall_lookup_insert ⟨hvalid, decodeScopeTokenKey_ok hbytes⟩ (by simp)
  unfold addPreviousScopeTokenKeys at hprevious
  split at hprevious
  · injection hprevious with hprevious
    exact hprevious ▸ hone
  · simp only [Check.bind_eq_ok, Check.ensure_eq_ok] at hprevious
    obtain ⟨_, _, _, _, hfold⟩ := hprevious
    exact Check.foldlM_ok (fun _ _ _ => addPreviousScopeTokenKey_ok) hone hfold

def buildScopeTokenKeyring (primaryID primaryKeyHex previousJSON alg : String) :
    Except String ScopeTokenKeyring :=
  match h : buildScopeTokenKeys primaryID primaryKeyHex previousJSON alg with
  | .ok (activeAlg, keys) =>
    .ok ⟨keys, scopeTokenKeyID primaryID, activeAlg, buildScopeTokenKeys_ok h⟩
  | .error e => .error e

theorem buildScopeTokenKeyring_eq_ok {primaryID primaryKeyHex alg : String} {k : ScopeTokenKeyring}
    (h : buildScopeTokenKeyring primaryID primaryKeyHex previousJSON alg =
      .ok k) :
    buildScopeTokenKeys primaryID primaryKeyHex previousJSON alg = .ok (k.activeAlg, k.keys) ∧
      k.primary = scopeTokenKeyID primaryID := by
  unfold buildScopeTokenKeyring at h
  split at h
  · rename_i hbuild
    injection h with h
    subst h
    exact ⟨hbuild, rfl⟩
  · simp at h

/-! ### A previous key is in the keyring it is listed for -/

theorem readPreviousEntry_keyID {keyID : String} {v : JsonText}
    (h : readPreviousEntry keyID v = .ok entry) : entry.keyID = keyID := by
  cases v with
  | str keyHex =>
    injection h with h
    rw [← h]
  | obj members =>
    simp only [readPreviousEntry, Check.bind_eq_ok, Check.ensure_eq_ok, Check.need_eq_ok,
      Check.pure_eq_ok] at h
    obtain ⟨_, _, _, _, _, _, _, _, _, _, rfl⟩ := h
    rfl
  | _ => simp [readPreviousEntry] at h

/-- The parsing loop keeps the key ids and their order. -/
theorem appendPreviousEntry_keyIDs {raw : List (String × JsonText)}
    {acc out : Option Bool × List ScopeTokenPreviousEntry}
    (h : raw.foldlM appendPreviousEntry acc = .ok out) :
    out.2.map (·.keyID) = acc.2.map (·.keyID) ++ raw.map Prod.fst := by
  induction raw generalizing acc with
  | nil =>
    rw [List.foldlM_nil, Check.pure_eq_ok] at h
    simp [h]
  | cons e raw ih =>
    rw [List.foldlM_cons, Check.bind_eq_ok] at h
    obtain ⟨next, hfirst, hrest⟩ := h
    simp only [appendPreviousEntry, Check.bind_eq_ok, Check.ensure_eq_ok, Check.need_eq_ok,
      Check.pure_eq_ok] at hfirst
    obtain ⟨_, _, _, _, parsed, hparsed, rfl⟩ := hfirst
    rw [ih hrest]
    simp [readPreviousEntry_keyID hparsed]

/-- No key id is listed twice: the entries come from a map. -/
theorem parseScopeTokenPreviousKeys_nodup
    (h : parseScopeTokenPreviousKeys previousJSON = .ok entries) :
    (entries.map (·.keyID)).Nodup := by
  simp only [parseScopeTokenPreviousKeys, Check.bind_eq_ok, Check.need_eq_ok, Check.pure_eq_ok] at h
  obtain ⟨rawEntries, -, out, hout, rfl⟩ := h
  rw [appendPreviousEntry_keyIDs hout]
  simpa using rawEntries.keys_nodup

theorem addPreviousScopeTokenKey_frame {keyID : String}
    (h : entries.foldlM (addPreviousScopeTokenKey primary activeAlg) keys = .ok keys')
    (hkeyID : keyID ∉ entries.map (·.keyID)) : keys'.lookup keyID = keys.lookup keyID := by
  induction entries generalizing keys with
  | nil =>
    rw [List.foldlM_nil, Check.pure_eq_ok] at h
    rw [h]
  | cons e entries ih =>
    rw [List.foldlM_cons, Check.bind_eq_ok] at h
    obtain ⟨next, hfirst, hrest⟩ := h
    obtain ⟨-, -, key, -, rfl⟩ := addPreviousScopeTokenKey_eq_ok.mp hfirst
    rw [List.map_cons, List.mem_cons, not_or] at hkeyID
    rw [ih hrest hkeyID.2, StrMap.lookup_insert, if_neg (Ne.symm hkeyID.1)]

/-- After the loop each entry stands under its key id. -/
theorem addPreviousScopeTokenKey_lookup
    (h : entries.foldlM (addPreviousScopeTokenKey primary activeAlg) keys = .ok keys')
    (hnodup : (entries.map (·.keyID)).Nodup) (hentry : entry ∈ entries)
    (hkey : entry.key activeAlg = .ok key) :
    keys'.lookup entry.keyID = some key := by
  induction entries generalizing keys with
  | nil => simp at hentry
  | cons e entries ih =>
    rw [List.foldlM_cons, Check.bind_eq_ok] at h
    obtain ⟨next, hfirst, hrest⟩ := h
    rw [List.map_cons, List.nodup_cons] at hnodup
    rcases List.mem_cons.mp hentry with rfl | hentry
    · obtain ⟨-, -, key', hkey', rfl⟩ := addPreviousScopeTokenKey_eq_ok.mp hfirst
      rw [hkey] at hkey'
      injection hkey' with hkey'
      subst hkey'
      rw [addPreviousScopeTokenKey_frame hrest hnodup.1]
      simp
    · exact ih hrest hnodup.2 hentry

/-- The keyring that is in force later: the same one, or one built with the active key of
    the old keyring among its previous keys, with the same bytes and the same effective
    algorithm. -/
def Rotated (old new : ScopeTokenKeyring) : Prop :=
  new = old ∨ ∃ primaryID primaryKeyHex previousJSON alg entries entry,
    buildScopeTokenKeyring primaryID primaryKeyHex previousJSON alg = .ok new ∧
      parseScopeTokenPreviousKeys previousJSON = .ok entries ∧ entry ∈ entries ∧
      entry.keyID = old.primary ∧ entry.key new.activeAlg = .ok old.activeKey

theorem Rotated.lookup {old new : ScopeTokenKeyring} (h : Rotated old new) :
    new.keys.lookup old.primary = some old.activeKey := by
  rcases h with rfl | ⟨primaryID, primaryKeyHex, previousJSON, alg, entries, entry, hbuild, hparse,
    hentry, hid, hkey⟩
  · exact new.lookup_primary
  · obtain ⟨hkeys, -⟩ := buildScopeTokenKeyring_eq_ok hbuild
    simp only [buildScopeTokenKeys, Check.bind_eq_ok, Check.ensure_eq_ok, Check.pure_eq_ok,
      Prod.mk.injEq] at hkeys
    obtain ⟨_, -, activeAlg, -, bytes, -, keys, hprevious, rfl, rfl⟩ := hkeys
    have hne : previousJSON ≠ "" := by
      rintro rfl
      have hnone : parseScopeTokenPreviousKeys "" = .error "decode previous scope token keys" := by
        decide +kernel
      rw [hnone] at hparse
      cases hparse
    rw [addPreviousScopeTokenKeys, if_neg hne, hparse] at hprevious
    simp only [Check.bind_eq_ok, Check.ensure_eq_ok] at hprevious
    obtain ⟨parsed, hparsed, _, -, hfold⟩ := hprevious
    injection hparsed with hparsed
    subst hparsed
    rw [← hid]
    exact addPreviousScopeTokenKey_lookup hfold (parseScopeTokenPreviousKeys_nodup hparse) hentry
      hkey

/-! ## Section 3: Header and claims -/

def scopeTokenType : String := "scope-token+json"

structure ScopeTokenHeader where
  algorithm : String
  keyID : String
  type : String
  deriving DecidableEq, Repr

open JsonText in
def ScopeTokenHeader.toJson (h : ScopeTokenHeader) : JsonText :=
  ofStrings [("alg", h.algorithm), ("kid", h.keyID), ("typ", h.type)]

open JsonText in
def ScopeTokenClaims.toJson (c : ScopeTokenClaims) : JsonText :=
  ofStrings [("team_id", c.teamID), ("task_id", c.taskID), ("executor_id", c.executorID),
    ("audience", c.audience), ("key_id", c.keyID), ("issued_at", c.issuedAt),
    ("expiry", c.expiry)]

open JsonText in
def scopeTokenHeaderFields : List (StructField ScopeTokenHeader) :=
  [.of "alg" (·.algorithm) (fun h v => { h with algorithm := v }) storeString,
    .of "kid" (·.keyID) (fun h v => { h with keyID := v }) storeString,
    .of "typ" (·.type) (fun h v => { h with type := v }) storeString]

open JsonText in
def scopeTokenClaimsFields : List (StructField ScopeTokenClaims) :=
  [.of "team_id" (·.teamID) (fun c v => { c with teamID := v }) storeString,
    .of "task_id" (·.taskID) (fun c v => { c with taskID := v }) storeString,
    .of "executor_id" (·.executorID) (fun c v => { c with executorID := v }) storeString,
    .of "audience" (·.audience) (fun c v => { c with audience := v }) storeString,
    .of "key_id" (·.keyID) (fun c v => { c with keyID := v }) storeString,
    .of "issued_at" (·.issuedAt) (fun c v => { c with issuedAt := v }) storeString,
    .of "expiry" (·.expiry) (fun c v => { c with expiry := v }) storeString]

/-- `decodeScopeTokenJSON`: one JSON value, stored with unknown fields refused. -/
def decodeScopeTokenJSON {σ : Type} (fields : List (JsonText.StructField σ)) (zero : σ)
    (raw : Bytes) : Option σ :=
  (JsonText.unmarshal raw).bind (JsonText.storeStruct true fields zero)

def ScopeTokenHeader.ofBytes (raw : Bytes) : Option ScopeTokenHeader :=
  decodeScopeTokenJSON scopeTokenHeaderFields ⟨"", "", ""⟩ raw

def ScopeTokenClaims.ofBytes (raw : Bytes) : Option ScopeTokenClaims :=
  decodeScopeTokenJSON scopeTokenClaimsFields ⟨"", "", "", "", "", "", ""⟩ raw

theorem ScopeTokenHeader.ofBytes_marshal (h : ScopeTokenHeader) :
    ScopeTokenHeader.ofBytes h.toJson.marshal = some h := by
  have hread : JsonText.storeStruct true scopeTokenHeaderFields ⟨"", "", ""⟩ h.toJson = some h := by
    simp [ScopeTokenHeader.toJson, JsonText.ofStrings, JsonText.storeStruct, scopeTokenHeaderFields,
      JsonText.storeMember, JsonText.findField, JsonText.StructField.of, JsonText.storeString]
  have hmarshalled : h.toJson.Marshalled := JsonText.marshalled_ofStrings _
  rw [ScopeTokenHeader.ofBytes, decodeScopeTokenJSON, JsonText.unmarshal_marshal hmarshalled]
  exact hread

theorem ScopeTokenClaims.ofBytes_marshal (c : ScopeTokenClaims) :
    ScopeTokenClaims.ofBytes c.toJson.marshal = some c := by
  have hread : JsonText.storeStruct true scopeTokenClaimsFields ⟨"", "", "", "", "", "", ""⟩
      c.toJson = some c := by
    simp [ScopeTokenClaims.toJson, JsonText.ofStrings, JsonText.storeStruct, scopeTokenClaimsFields,
      JsonText.storeMember, JsonText.findField, JsonText.StructField.of, JsonText.storeString]
  have hmarshalled : c.toJson.Marshalled := JsonText.marshalled_ofStrings _
  rw [ScopeTokenClaims.ofBytes, decodeScopeTokenJSON, JsonText.unmarshal_marshal hmarshalled]
  exact hread

/-! ## Section 4: Signing and decoding -/

/-- HMAC with SHA-256, SHA-384 and SHA-512. -/
structure ScopeTokenHMAC where
  sum : ScopeTokenAlgorithm → Bytes → Bytes → Bytes
  length_sum : ∀ alg key message, (sum alg key message).length = alg.size

/-- `scopeTokenMAC`, with the algorithm bound to the key. -/
def ScopeTokenHMAC.mac (hmac : ScopeTokenHMAC) (key : ScopeTokenKey) (message : Bytes) : Bytes :=
  hmac.sum key.alg key.bytes message

/-- The bytes the MAC is taken over. -/
def signingInput (headerSegment claimsSegment : List Char) : Bytes :=
  utf8Encode (headerSegment ++ '.' :: claimsSegment)

namespace ScopeTokenKeyring

variable (hmac : ScopeTokenHMAC) (k : ScopeTokenKeyring)

def header : ScopeTokenHeader := ⟨k.activeKey.alg.text, k.primary, scopeTokenType⟩

def headerSegment : List Char := base64UrlEncode k.header.toJson.marshal

/-- The MAC of claims under the active key. -/
def signature (claims : ScopeTokenClaims) : Bytes :=
  hmac.mac k.activeKey (signingInput k.headerSegment (base64UrlEncode claims.toJson.marshal))

/-- The compact form of header, claims and a last segment. -/
def compact (claims : ScopeTokenClaims) (macSegment : List Char) : String :=
  String.ofList (k.headerSegment ++ '.' ::
    (base64UrlEncode claims.toJson.marshal ++ '.' :: macSegment))

def sign (claims : ScopeTokenClaims) : String :=
  k.compact claims (base64UrlEncode (k.signature hmac claims))

end ScopeTokenKeyring

/-- The three segments of a compact token, none of them empty. -/
def splitScopeToken (token : String) : Option (List Char × List Char × List Char) :=
  match splitDots token.toList with
  | [header, claims, mac] =>
    if header = [] || claims = [] || mac = [] then none else some (header, claims, mac)
  | _ => none

/-- The checks of `verifyScopeToken` up to the type of the token. -/
def decodeScopeToken (hmac : ScopeTokenHMAC) (k : ScopeTokenKeyring) (token : String) :
    Except StoreError ScopeTokenClaims := do
  let (headerPart, claimsPart, macPart) ← Check.need (splitScopeToken token)
    .environmentUnavailable
  let headerJSON ← Check.need (base64UrlDecode headerPart) .environmentUnavailable
  let claimsJSON ← Check.need (base64UrlDecode claimsPart) .environmentUnavailable
  let header ← Check.need (ScopeTokenHeader.ofBytes headerJSON) .environmentUnavailable
  let claims ← Check.need (ScopeTokenClaims.ofBytes claimsJSON) .environmentUnavailable
  Check.ensure (header.keyID ≠ "" ∧ header.keyID = claims.keyID) .environmentUnavailable
  let alg ← Check.need (allowedScopeTokenAlg header.algorithm) .environmentUnavailable
  let key ← Check.need (k.keys.lookup claims.keyID) .environmentUnavailable
  Check.ensure (alg = key.alg) .environmentUnavailable
  let suppliedMAC ← Check.need (base64UrlDecode macPart) .environmentUnavailable
  Check.ensure (suppliedMAC = hmac.mac key (signingInput headerPart claimsPart))
    .environmentUnavailable
  Check.ensure (header.type = scopeTokenType) .environmentUnavailable
  return claims

/-- The keyring as the store uses it. -/
def ScopeTokenKeyring.tokenKeyring (hmac : ScopeTokenHMAC) (k : ScopeTokenKeyring) :
    TokenKeyring where
  activeKeyID := k.primary
  sign := k.sign hmac
  decode token := (decodeScopeToken hmac k token).toOption

/-- The configuration with a scope-token keyring in force. -/
def Config.withScopeTokens (cfg : Config) (hmac : ScopeTokenHMAC) (k : ScopeTokenKeyring) :
    Config :=
  { cfg with keyring := some (k.tokenKeyring hmac) }

/-! ## Section 5: Inversion -/

section

variable {hmac : ScopeTokenHMAC} {k : ScopeTokenKeyring} {token : String}

theorem splitScopeToken_eq_some {headerPart claimsPart macPart : List Char} :
    splitScopeToken token = some (headerPart, claimsPart, macPart) ↔
      splitDots token.toList = [headerPart, claimsPart, macPart] ∧
        headerPart ≠ [] ∧ claimsPart ≠ [] ∧ macPart ≠ [] := by
  unfold splitScopeToken
  split
  · rename_i a b c hsplit
    rw [hsplit]
    by_cases hempty : a = [] ∨ b = [] ∨ c = []
    · simp only [← Bool.decide_or, or_assoc, hempty, decide_true, ↓reduceIte, reduceCtorEq,
        false_iff]
      rintro ⟨heq, ha, hb, hc⟩
      cases heq
      simp_all
    · simp only [← Bool.decide_or, or_assoc, hempty, decide_false, Bool.false_eq_true, ↓reduceIte,
        Option.some.injEq, Prod.mk.injEq, List.cons.injEq, and_true]
      constructor
      · rintro ⟨rfl, rfl, rfl⟩
        simpa [not_or] using hempty
      · rintro ⟨heq, -⟩
        exact heq
  · rename_i hother
    simp only [reduceCtorEq, false_iff, not_and]
    intro hsplit
    exact absurd hsplit (hother _ _ _)

/-- What a token that decodes consists of. -/
structure Decodes (hmac : ScopeTokenHMAC) (k : ScopeTokenKeyring) (token : String)
    (claims : ScopeTokenClaims) (headerPart claimsPart macPart : List Char) (key : ScopeTokenKey) :
    Prop where
  parts : splitScopeToken token = some (headerPart, claimsPart, macPart)
  header : (base64UrlDecode headerPart).bind ScopeTokenHeader.ofBytes =
    some ⟨key.alg.text, claims.keyID, scopeTokenType⟩
  payload : (base64UrlDecode claimsPart).bind ScopeTokenClaims.ofBytes = some claims
  keyID : claims.keyID ≠ ""
  lookup : k.keys.lookup claims.keyID = some key
  mac : base64UrlDecode macPart = some (hmac.mac key (signingInput headerPart claimsPart))

theorem decodeScopeToken_eq_ok :
    decodeScopeToken hmac k token = .ok claims ↔
      ∃ headerPart claimsPart macPart key,
        Decodes hmac k token claims headerPart claimsPart macPart key := by
  simp only [decodeScopeToken, Check.bind_eq_ok, Check.need_eq_ok, Check.ensure_eq_ok,
    Check.pure_eq_ok]
  constructor
  · rintro ⟨⟨headerPart, claimsPart, macPart⟩, hparts, headerJSON, hheader, claimsJSON, hclaims,
      header, hheader', claims, hclaims', _, ⟨hne, hid⟩, alg, halg, key, hkey, _, rfl, supplied,
      hsupplied, _, rfl, _, htype, rfl⟩
    obtain ⟨algorithm, keyID, type⟩ := header
    dsimp only at hne hid halg htype
    subst hid htype
    rw [text_of_allowedScopeTokenAlg halg] at hheader'
    refine ⟨headerPart, claimsPart, macPart, key, hparts, ?_, ?_, hne, hkey, hsupplied⟩
    · rw [hheader, Option.bind_some, hheader']
    · rw [hclaims, Option.bind_some, hclaims']
  · rintro ⟨headerPart, claimsPart, macPart, key, hparts, hheader, hclaims, hne, hkey, hmac⟩
    obtain ⟨headerJSON, hheaderJSON, hheader⟩ := Option.bind_eq_some_iff.mp hheader
    obtain ⟨claimsJSON, hclaimsJSON, hclaims⟩ := Option.bind_eq_some_iff.mp hclaims
    exact ⟨⟨headerPart, claimsPart, macPart⟩, hparts, headerJSON, hheaderJSON, claimsJSON,
      hclaimsJSON, _, hheader, claims, hclaims, (), ⟨hne, rfl⟩, key.alg,
      allowedScopeTokenAlg_text _, key, hkey, (), rfl, _, hmac, (), rfl, (), rfl, rfl⟩

theorem verifyScopeToken_eq_some {cfg : Config} {env : CallEnv} :
    verifyScopeToken (cfg.withScopeTokens hmac k) env token = some claims ↔
      cfg.aead.isSome ∧ token.utf8ByteSize ≠ 0 ∧ token.utf8ByteSize ≤ 8192 ∧
        (∃ headerPart claimsPart macPart key,
          Decodes hmac k token claims headerPart claimsPart macPart key) ∧
        claims.admissible env.now = true := by
  rw [← decodeScopeToken_eq_ok]
  have hoption : ∀ x : Except StoreError ScopeTokenClaims,
      x.toOption = some claims ↔ x = .ok claims := by
    intro x
    cases x <;> simp [Except.toOption]
  cases haead : cfg.aead with
  | none => simp [verifyScopeToken, Config.withScopeTokens, haead]
  | some aead =>
    simp only [verifyScopeToken, Config.withScopeTokens, haead,
      ScopeTokenKeyring.tokenKeyring, Option.isSome_some, true_and]
    by_cases hsize : token.utf8ByteSize = 0 ∨ token.utf8ByteSize > 8192
    · rw [if_pos (by simpa using hsize)]
      simp only [reduceCtorEq, false_iff, not_and]
      intro hzero hlong
      omega
    · rw [if_neg (by simpa using hsize), Option.filter_eq_some_iff, hoption]
      rw [not_or, not_lt] at hsize
      exact ⟨fun h => ⟨hsize.1, hsize.2, h⟩, fun h => h.2.2⟩

/-- The claims are signed: the inversion of `issueScopeToken`. -/
theorem issueScopeToken_eq_some {cfg : Config} {env : CallEnv} {db : Db} {entry : TaskListEntry}
    (h : issueScopeToken (cfg.withScopeTokens hmac k) env db entry = .ok (some token)) :
    ∃ executorID issuedAt, entry.executorID = some executorID ∧
      scopeTokenIssuedAt env entry.claimedAt = .ok issuedAt ∧
      token = k.sign hmac (scopeTokenClaims (k.tokenKeyring hmac) entry.teamID entry.taskID
        executorID issuedAt) := by
  unfold issueScopeToken at h
  cases hexec : entry.executorID with
  | none => simp [hexec] at h
  | some executorID =>
    simp only [hexec, Config.withScopeTokens] at h
    split at h
    · split at h
      · simp at h
      · rename_i issuedAt hissued
        injection h with h
        injection h with h
        exact ⟨executorID, issuedAt, rfl, hissued, h.symm⟩
    · simp at h

end

end FlowAI.Registry
