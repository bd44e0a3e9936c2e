import FlowAI.Registry.CursorBinding
import FlowAI.Registry.ScopeTokens
import FlowAI.Registry.Snapshot

/-! # What a Scope Token Is Good For

  A token is accepted from thirty seconds before its claim until five minutes after it,
  by every keyring that still has its key.  The one exception is the end of the year
  9999: an expiry in the year 10000 is written with five digits and cannot be read back.

  Whoever opens an environment presents the header, the claims and the MAC of one token
  that was minted for the task, the team and the executor of the open.  The text of the
  last segment need not be the minted one: the decoder drops unused bits and line breaks.
-/

namespace FlowAI.Registry

variable {macSegment : List Char} {claims claims' : ScopeTokenClaims} {executorID : String}
  {issuedAt : Int} {env : CallEnv} {cfg : Config}

variable {hmac : ScopeTokenHMAC} {issuer later : ScopeTokenKeyring} {token : String}

/-! ## Section 1: A signed token decodes to its claims -/

theorem base64UrlEncode_ne_nil {bytes : Bytes} (h : bytes ≠ []) : base64UrlEncode bytes ≠ [] := by
  have hpos := List.length_pos_iff.mpr h
  apply List.length_pos_iff.mp
  rw [length_base64UrlEncode]
  omega

theorem marshal_ofStrings_ne_nil (members : List (String × String)) :
    (JsonText.ofStrings members).marshal ≠ [] := by
  have hopen : String.utf8EncodeChar '\x7b' ≠ [] := by decide
  intro hnil
  rw [JsonText.marshal, JsonText.ofStrings, JsonText.print, utf8Encode_cons] at hnil
  exact hopen (List.append_eq_nil_iff.mp hnil).1

theorem ScopeTokenKeyring.signature_ne_nil (k : ScopeTokenKeyring) (claims : ScopeTokenClaims) :
    k.signature hmac claims ≠ [] := by
  apply List.length_pos_iff.mp
  show 0 < (hmac.sum _ _ _).length
  rw [hmac.length_sum]
  cases k.activeKey.alg <;> decide

theorem splitScopeToken_compact (k : ScopeTokenKeyring) (claims : ScopeTokenClaims)
    (hdot : '.' ∉ macSegment) (hne : macSegment ≠ []) :
    splitScopeToken (k.compact claims macSegment) = some (k.headerSegment,
      base64UrlEncode claims.toJson.marshal, macSegment) := by
  rw [splitScopeToken_eq_some, ScopeTokenKeyring.compact, String.toList_ofList]
  refine ⟨splitDots_three (dot_not_mem_base64UrlEncode _) (dot_not_mem_base64UrlEncode _) hdot,
    ?_, ?_, hne⟩
  · exact base64UrlEncode_ne_nil (marshal_ofStrings_ne_nil _)
  · exact base64UrlEncode_ne_nil (marshal_ofStrings_ne_nil _)

theorem splitScopeToken_sign (hmac : ScopeTokenHMAC) (k : ScopeTokenKeyring)
    (claims : ScopeTokenClaims) :
    splitScopeToken (k.sign hmac claims) = some (k.headerSegment,
      base64UrlEncode claims.toJson.marshal, base64UrlEncode (k.signature hmac claims)) :=
  splitScopeToken_compact k claims (dot_not_mem_base64UrlEncode _)
    (base64UrlEncode_ne_nil (k.signature_ne_nil claims))

/-- A keyring with the signing key decodes every token whose last segment reads as the MAC. -/
theorem decodes_compact (hlookup : later.keys.lookup issuer.primary = some issuer.activeKey)
    (hid : claims.keyID = issuer.primary) (hdot : '.' ∉ macSegment) (hne : macSegment ≠ [])
    (hread : base64UrlDecode macSegment = some (issuer.signature hmac claims)) :
    Decodes hmac later (issuer.compact claims macSegment) claims issuer.headerSegment
      (base64UrlEncode claims.toJson.marshal) macSegment issuer.activeKey where
  parts := splitScopeToken_compact issuer claims hdot hne
  header := by
    rw [ScopeTokenKeyring.headerSegment, base64UrlDecode_base64UrlEncode, Option.bind_some,
      ScopeTokenHeader.ofBytes_marshal, hid]
    rfl
  payload := by
    rw [base64UrlDecode_base64UrlEncode, Option.bind_some, ScopeTokenClaims.ofBytes_marshal]
  keyID := by
    obtain ⟨hvalid, -⟩ := issuer.sound.entries _ _ issuer.lookup_primary
    rw [hid]
    exact (Cursor.validCursorKeyID_spec hvalid).1
  lookup := by rw [hid, hlookup]
  mac := hread

variable {key : ScopeTokenKey} {k : ScopeTokenKeyring}

/-- Whoever decodes a signed token reads the signed claims, and has a key of their key id. -/
theorem decodes_sign_claims {headerPart claimsPart macPart : List Char}
    (h : Decodes hmac later (issuer.sign hmac claims) claims' headerPart claimsPart macPart key) :
    claims' = claims ∧ later.keys.lookup claims.keyID = some key := by
  have hparts := h.parts
  rw [splitScopeToken_sign] at hparts
  injection hparts with hparts
  simp only [Prod.mk.injEq] at hparts
  obtain ⟨-, rfl, -⟩ := hparts
  have hpayload := h.payload
  rw [base64UrlDecode_base64UrlEncode, Option.bind_some,
    ScopeTokenClaims.ofBytes_marshal] at hpayload
  injection hpayload with hpayload
  exact ⟨hpayload.symm, hpayload ▸ h.lookup⟩

/-! ## Section 2: The size of a token -/

theorem utf8ByteSize_compact (k : ScopeTokenKeyring) (claims : ScopeTokenClaims)
    (hmac : ∀ c ∈ macSegment, c.toNat < 128) :
    (k.compact claims macSegment).utf8ByteSize = (4 * k.header.toJson.marshal.length + 2) / 3 +
      (4 * claims.toJson.marshal.length + 2) / 3 + macSegment.length + 2 := by
  have hascii : ∀ c ∈ (k.compact claims macSegment).toList, c.toNat < 128 := by
    intro c hc
    rw [ScopeTokenKeyring.compact, String.toList_ofList] at hc
    simp only [List.mem_append, List.mem_cons] at hc
    rcases hc with hc | rfl | hc | rfl | hc
    · exact base64UrlEncode_ascii _ c hc
    · decide
    · exact base64UrlEncode_ascii _ c hc
    · decide
    · exact hmac c hc
  rw [utf8ByteSize_ascii hascii, ScopeTokenKeyring.compact, String.toList_ofList]
  simp only [List.length_append, List.length_cons, ScopeTokenKeyring.headerSegment,
    length_base64UrlEncode]
  omega

theorem length_primary (k : ScopeTokenKeyring) : k.primary.toList.length ≤ 64 := by
  obtain ⟨hvalid, -⟩ := k.sound.entries _ _ k.lookup_primary
  obtain ⟨-, hsize, hchars⟩ := Cursor.validCursorKeyID_spec hvalid
  rw [utf8ByteSize_ascii (fun c hc => (Cursor.keyChar_ascii (hchars c hc)).2.1)] at hsize
  exact hsize

theorem length_header (k : ScopeTokenKeyring) : k.header.toJson.marshal.length ≤ 600 := by
  have hprimary := length_primary k
  have halg : k.activeKey.alg.text.toList.length = 5 := by cases k.activeKey.alg <;> decide
  have htyp : scopeTokenType.toList.length = 16 := by decide
  have hnames : "alg".toList.length = 3 ∧ "kid".toList.length = 3 ∧ "typ".toList.length = 3 := by
    decide
  have h := JsonText.length_marshal_ofStrings
    [("alg", k.activeKey.alg.text), ("kid", k.primary), ("typ", scopeTokenType)]
  simp only [List.map_cons, List.map_nil, List.sum_cons, List.sum_nil, halg, htyp, hnames] at h
  refine le_trans h ?_
  omega

/-- Claims with identifiers, a key id and times that fit their limits. -/
structure ScopeTokenClaims.Bounded (claims : ScopeTokenClaims) : Prop where
  teamID : claims.teamID.toList.length ≤ 128
  taskID : claims.taskID.toList.length ≤ 128
  executorID : claims.executorID.toList.length ≤ 128
  audience : claims.audience = scopeTokenAudience
  keyID : claims.keyID.toList.length ≤ 64
  issuedAt : claims.issuedAt.toList.length ≤ 30
  expiry : claims.expiry.toList.length ≤ 30

theorem ScopeTokenClaims.Bounded.length_marshal (h : claims.Bounded) :
    claims.toJson.marshal.length ≤ 3700 := by
  obtain ⟨hteam, htask, hexec, haud, hkey, hissued, hexpiry⟩ := h
  have haudience : claims.audience.toList.length = 31 := by
    rw [haud]
    decide
  have hnames : "team_id".toList.length = 7 ∧ "task_id".toList.length = 7 ∧
      "executor_id".toList.length = 11 ∧ "audience".toList.length = 8 ∧
      "key_id".toList.length = 6 ∧ "issued_at".toList.length = 9 ∧
      "expiry".toList.length = 6 := by decide
  have hsize := JsonText.length_marshal_ofStrings
    [("team_id", claims.teamID), ("task_id", claims.taskID), ("executor_id", claims.executorID),
      ("audience", claims.audience), ("key_id", claims.keyID), ("issued_at", claims.issuedAt),
      ("expiry", claims.expiry)]
  simp only [List.map_cons, List.map_nil, List.sum_cons, List.sum_nil, hnames, haudience] at hsize
  refine le_trans hsize ?_
  omega

/-- Bounded claims make a token within the limit. -/
theorem utf8ByteSize_compact_le (k : ScopeTokenKeyring) (h : claims.Bounded)
    (hmac : ∀ c ∈ macSegment, c.toNat < 128) (hlen : macSegment.length ≤ 86) :
    (k.compact claims macSegment).utf8ByteSize ≠ 0 ∧
      (k.compact claims macSegment).utf8ByteSize ≤ 8192 := by
  have hheader := length_header k
  have hclaims := h.length_marshal
  rw [utf8ByteSize_compact k claims hmac]
  omega

theorem length_macSegment (hmac : ScopeTokenHMAC) (k : ScopeTokenKeyring)
    (claims : ScopeTokenClaims) : (base64UrlEncode (k.signature hmac claims)).length ≤ 86 := by
  have hsum : (k.signature hmac claims).length = k.activeKey.alg.size := hmac.length_sum _ _ _
  have hsize : k.activeKey.alg.size ≤ 64 := by cases k.activeKey.alg <;> decide
  rw [length_base64UrlEncode, hsum]
  omega

/-! ## Section 3: The window -/

/-- When minted claims are admissible. -/
theorem admissible_scopeTokenClaims (keyring : TokenKeyring) {teamID taskID : String}
    (hteam : teamID ≠ "") (htask : taskID ≠ "") (hexec : executorID ≠ "") (issuedAt now : Int) :
    (scopeTokenClaims keyring teamID taskID executorID issuedAt).admissible now = true ↔
      (Time.startOfYears ≤ issuedAt ∧ issuedAt < Time.endOfYears) ∧
      (Time.startOfYears ≤ issuedAt + scopeTokenLifetime ∧
        issuedAt + scopeTokenLifetime < Time.endOfYears) ∧
      issuedAt - scopeTokenSkew ≤ now ∧ now < issuedAt + scopeTokenLifetime := by
  unfold ScopeTokenClaims.admissible scopeTokenClaims
  simp only [Time.parse_format_iff]
  by_cases hissued : Time.startOfYears ≤ issuedAt ∧ issuedAt < Time.endOfYears
  · by_cases hexpiry : Time.startOfYears ≤ issuedAt + scopeTokenLifetime ∧
        issuedAt + scopeTokenLifetime < Time.endOfYears
    · simp only [hissued, hexpiry, hteam, htask, hexec, and_self, ↓reduceIte, ne_eq,
        not_false_eq_true, decide_true, Bool.and_self, Bool.true_and, true_and, scopeTokenWindow,
        Bool.and_eq_true, decide_eq_true_eq]
      unfold scopeTokenLifetime
      omega
    · simp [hissued, hexpiry]
  · simp [hissued]

/-- Whatever the identifiers are, admissible claims are younger than their lifetime. -/
theorem admissible_fresh {keyring : TokenKeyring} {teamID taskID : String} {now : Int}
    (h : (scopeTokenClaims keyring teamID taskID executorID issuedAt).admissible now = true) :
    now < issuedAt + scopeTokenLifetime := by
  unfold ScopeTokenClaims.admissible at h
  split at h
  · rename_i issued expiry hissued hexpiry
    have hread : expiry = issuedAt + scopeTokenLifetime := Time.parse_format_some hexpiry
    simp only [scopeTokenWindow, Bool.and_eq_true, decide_eq_true_eq] at h
    rw [← hread]
    exact h.2.2
  · simp at h

theorem scopeTokenIssuedAt_claimed {claimedAt : Int}
    (h : scopeTokenIssuedAt env (some (formatIngestedAt claimedAt)) = .ok issuedAt) :
    issuedAt = Time.ofMicros claimedAt ∧
      Time.startOfYears ≤ issuedAt ∧ issuedAt < Time.endOfYears := by
  have hempty : Time.parseRFC3339Nano "" = none := by decide
  unfold scopeTokenIssuedAt formatIngestedAt at h
  by_cases hzero : claimedAt = zeroTime
  · simp [hzero, hempty] at h
  · simp only [hzero, ↓reduceIte, Time.parse_format_iff] at h
    by_cases hrange : Time.startOfYears ≤ Time.ofMicros claimedAt ∧
        Time.ofMicros claimedAt < Time.endOfYears
    · simp only [hrange, and_self, ↓reduceIte, Except.ok.injEq] at h
      subst h
      exact ⟨rfl, hrange⟩
    · simp [hrange] at h

theorem validIdentifier_spec {s : String} (h : validIdentifier s = true) :
    s ≠ "" ∧ s.toList.length ≤ 128 := by
  simp only [validIdentifier, Bool.and_eq_true, decide_eq_true_eq] at h
  constructor
  · rintro rfl
    exact absurd h.2 (by decide)
  · rw [String.length_toList]
    exact h.1

/-! ## Section 4: Issue, verification and rotation -/

/-- What becomes of a token of `issuer` for a task claimed at `c`, in a store that verifies
    with the keyring `later`. -/
structure TokenLifecycle (hmac : ScopeTokenHMAC) (issuer later : ScopeTokenKeyring) (cfg : Config)
    (token teamID taskID executorID : String) (c : Int) : Prop where
  accepted : ∀ env : CallEnv, c - scopeTokenSkew ≤ env.now → env.now < c + scopeTokenLifetime →
    ∃ claims, verifyScopeToken (cfg.withScopeTokens hmac later) env token = some claims ∧
      claims.teamID = teamID ∧ claims.taskID = taskID ∧ claims.executorID = executorID
  expired : ∀ env : CallEnv, c + scopeTokenLifetime ≤ env.now →
    verifyScopeToken (cfg.withScopeTokens hmac later) env token = none
  retired : ∀ (k : ScopeTokenKeyring) (env : CallEnv), k.keys.lookup issuer.primary = none →
    verifyScopeToken (cfg.withScopeTokens hmac k) env token = none

/-- A store with the signing key verifies admissible claims, however their MAC is spelled. -/
theorem verifyScopeToken_compact
    (hlookup : later.keys.lookup issuer.primary = some issuer.activeKey) (haead : cfg.aead.isSome)
    (hid : claims.keyID = issuer.primary) (hbounded : claims.Bounded) (hdot : '.' ∉ macSegment)
    (hascii : ∀ c ∈ macSegment, c.toNat < 128) (hlen : macSegment.length ≤ 86)
    (hread : base64UrlDecode macSegment = some (issuer.signature hmac claims))
    (hadmissible : claims.admissible env.now = true) :
    verifyScopeToken (cfg.withScopeTokens hmac later) env (issuer.compact claims macSegment) =
      some claims := by
  have hne : macSegment ≠ [] := by
    rintro rfl
    have hnil : base64UrlDecode [] = some [] := rfl
    rw [hnil] at hread
    exact issuer.signature_ne_nil claims (Option.some.inj hread).symm
  obtain ⟨hpos, hsize⟩ := utf8ByteSize_compact_le issuer hbounded hascii hlen
  exact verifyScopeToken_eq_some.mpr ⟨haead, hpos, hsize,
    ⟨_, _, _, _, decodes_compact hlookup hid hdot hne hread⟩, hadmissible⟩

theorem verifyScopeToken_of_signed
    (hlookup : later.keys.lookup issuer.primary = some issuer.activeKey) (haead : cfg.aead.isSome)
    (hid : claims.keyID = issuer.primary) (hbounded : claims.Bounded)
    (hadmissible : claims.admissible env.now = true) :
    verifyScopeToken (cfg.withScopeTokens hmac later) env (issuer.sign hmac claims) =
      some claims :=
  verifyScopeToken_compact hlookup haead hid hbounded (dot_not_mem_base64UrlEncode _)
    (base64UrlEncode_ascii _) (length_macSegment hmac issuer claims)
    (base64UrlDecode_base64UrlEncode _) hadmissible

/-- A signed token is verified only where its claims are admissible. -/
theorem verifyScopeToken_sign
    (h : verifyScopeToken (cfg.withScopeTokens hmac later) env (issuer.sign hmac claims) =
      some claims') :
    claims' = claims ∧ (later.keys.lookup claims.keyID).isSome ∧
      claims.admissible env.now = true := by
  obtain ⟨-, -, -, ⟨_, _, _, key, hdecodes⟩, hadmissible⟩ := verifyScopeToken_eq_some.mp h
  obtain ⟨rfl, hkey⟩ := decodes_sign_claims hdecodes
  exact ⟨rfl, by rw [hkey]; rfl, hadmissible⟩

/-! ### A deployment -/

/-- The wire form of a stored task. -/
def scannedTask (db : Db) (taskID : String) : Option TaskListEntry :=
  (db.tasks.lookup taskID).bind (fun task => (scanTaskRow task).toOption)

/-- The sample task with one launch parameter, claimed at a second. -/
def sampleScopeDb (second : Int) : Db :=
  serve sampleConfig .empty (sampleSetup ++ [
    ⟨sampleEnv "params" 5, .createLaunchParameters ⟨"team", "operator", "request"⟩
      ⟨.team, none, "defaults", .ofList [("MODE", "fast")], none⟩⟩,
    sampleIngest "task" "1" 5, sampleClaim "task" second])

def sampleScopeKey : ScopeTokenKey := ⟨List.replicate 32 7, .hs256⟩

def sampleScopeKeyring : ScopeTokenKeyring where
  keys := StrMap.empty.insert "scope-v1" sampleScopeKey
  primary := "scope-v1"
  activeAlg := .hs256
  sound := {
    active := ⟨List.replicate 32 7, by simp [sampleScopeKey]⟩
    entries := StrMap.forall_lookup_insert ⟨by decide +kernel, by decide⟩ (by simp) }

theorem sampleScopeKeyring_activeKey : sampleScopeKeyring.activeKey = sampleScopeKey := by
  have hlookup := sampleScopeKeyring.lookup_primary
  have hkey : sampleScopeKeyring.keys.lookup sampleScopeKeyring.primary = some sampleScopeKey := by
    simp [sampleScopeKeyring]
  rw [hkey] at hlookup
  exact (Option.some.inj hlookup).symm

/-- The keyring after a rotation to `scope-v2`; the old key is listed with its algorithm. -/
def sampleRotation : Except String ScopeTokenKeyring :=
  buildScopeTokenKeyring "scope-v2"
    "000102030405060708090a0b0c0d0e0f101112131415161718191a1b1c1d1e1f"
    ("\x7b\"scope-v1\":\x7b\"key\":\"0707070707070707070707070707070707070707070707070707070707070707\"," ++
      "\"alg\":\"HS256\"\x7d\x7d") "HS384"

/-- The previous keys that the rotation lists. -/
def sampleListed : ScopeTokenPreviousEntry :=
  ⟨"scope-v1", "0707070707070707070707070707070707070707070707070707070707070707", "HS256"⟩

theorem sampleRotation_rotated (h : sampleRotation = .ok k) :
    Rotated sampleScopeKeyring k := by
  have hkey : ∀ alg, sampleListed.key alg = .ok sampleScopeKey := by
    intro alg
    cases alg <;> decide +kernel
  refine .inr ⟨_, _, _, _, [sampleListed], sampleListed, h, ?_, by simp, rfl, ?_⟩
  · decide +kernel
  · rw [hkey, sampleScopeKeyring_activeKey]

theorem issueScopeToken_of (hmac : ScopeTokenHMAC) (cfg : Config) (k : ScopeTokenKeyring) {db : Db}
    {entry : TaskListEntry} (hexec : entry.executorID = some executorID)
    (hsnapshot : (db.snapshots.lookup entry.taskID).any (fun snap => snap.teamID = entry.teamID) =
      true) (hvalues : hasLaunchParameters db entry.taskID = some true)
    (hissued : scopeTokenIssuedAt env entry.claimedAt = .ok issuedAt) :
    issueScopeToken (cfg.withScopeTokens hmac k) env db entry =
      .ok (some (k.sign hmac (scopeTokenClaims (k.tokenKeyring hmac) entry.teamID entry.taskID
        executorID issuedAt))) := by
  unfold issueScopeToken
  simp [hexec, hsnapshot, hvalues, hissued, Config.withScopeTokens, ScopeTokenKeyring.tokenKeyring]

/-- A MAC of zero bytes. -/
def zeroScopeHMAC : ScopeTokenHMAC where
  sum alg _ _ := List.replicate alg.size 0
  length_sum _ _ _ := List.length_replicate

/-- A token of the sample task, issued at an instant. -/
theorem sampleScope_issue (second issuedAt : Int) (text : String)
    (hentry : ∃ entry, scannedTask (sampleScopeDb second) "task" = some entry ∧
      (entry.executorID = some "exec" ∧ entry.teamID = "team" ∧ entry.taskID = "task" ∧
        entry.claimedAt = some text))
    (hsnapshot : ((sampleScopeDb second).snapshots.lookup "task").any
      (fun snap => snap.teamID = "team") = true ∧
        hasLaunchParameters (sampleScopeDb second) "task" = some true)
    (htext : Time.parseRFC3339Nano text = some issuedAt) :
    ∃ entry, scannedTask (sampleScopeDb second) "task" = some entry ∧
      entry.executorID = some "exec" ∧ entry.teamID = "team" ∧ entry.taskID = "task" ∧
      entry.claimedAt = some text ∧
      issueScopeToken (sampleConfig.withScopeTokens zeroScopeHMAC sampleScopeKeyring)
          (sampleEnv "claim" second) (sampleScopeDb second) entry =
        .ok (some (sampleScopeKeyring.sign zeroScopeHMAC (scopeTokenClaims
          (sampleScopeKeyring.tokenKeyring zeroScopeHMAC) "team" "task" "exec" issuedAt))) := by
  obtain ⟨entry, hscan, hexec, hteam, htask, hclaimed⟩ := hentry
  refine ⟨entry, hscan, hexec, hteam, htask, hclaimed, ?_⟩
  have hissued : scopeTokenIssuedAt (sampleEnv "claim" second) entry.claimedAt = .ok issuedAt := by
    simp [scopeTokenIssuedAt, hclaimed, htext]
  have hissue := issueScopeToken_of zeroScopeHMAC sampleConfig sampleScopeKeyring hexec
    (by rw [hteam, htask]; exact hsnapshot.1) (by rw [htask]; exact hsnapshot.2) hissued
  rw [hteam, htask] at hissue
  exact hissue

/-! ### The life of a token -/

theorem scope_token_survives_iff {cfg cfg' : Config} {env : CallEnv} {db : Db}
    {entry : TaskListEntry} {executorID : String} {claimedAt : Int}
    (hrotated : Rotated issuer later) (haead : cfg'.aead.isSome)
    (hissue : issueScopeToken (cfg.withScopeTokens hmac issuer) env db entry = .ok (some token))
    (hexec : entry.executorID = some executorID)
    (hclaimed : entry.claimedAt = some (formatIngestedAt claimedAt))
    (hids : validIdentifier entry.teamID = true ∧ validIdentifier entry.taskID = true ∧
      validIdentifier executorID = true) :
    TokenLifecycle hmac issuer later cfg' token entry.teamID entry.taskID executorID
        (Time.ofMicros claimedAt) ↔
      Time.ofMicros claimedAt + scopeTokenLifetime < Time.endOfYears := by
  obtain ⟨executorID', issuedAt, hexec', hissued, rfl⟩ := issueScopeToken_eq_some hissue
  rw [hexec] at hexec'
  injection hexec' with hexec'
  subst hexec'
  rw [hclaimed] at hissued
  obtain ⟨rfl, hrange⟩ := scopeTokenIssuedAt_claimed hissued
  obtain ⟨⟨hteam, hteamlen⟩, ⟨htask, htasklen⟩, ⟨hexec, hexeclen⟩⟩ :=
    And.intro (validIdentifier_spec hids.1) (And.intro (validIdentifier_spec hids.2.1)
      (validIdentifier_spec hids.2.2))
  generalize hc : Time.ofMicros claimedAt = c at *
  have hwindow := admissible_scopeTokenClaims (issuer.tokenKeyring hmac) hteam htask hexec c
  constructor
  · -- at the instant of the claim the token is accepted, so its expiry can be read
    intro hlife
    obtain ⟨claims, hverify, -⟩ := hlife.accepted { env with now := c }
      (by show c - scopeTokenSkew ≤ c; unfold scopeTokenSkew; omega)
      (by show c < c + scopeTokenLifetime; unfold scopeTokenLifetime; omega)
    obtain ⟨-, -, hadmissible⟩ := verifyScopeToken_sign hverify
    exact ((hwindow _).mp hadmissible).2.1.2
  · intro hend
    have hexpiry : Time.startOfYears ≤ c + scopeTokenLifetime ∧
        c + scopeTokenLifetime < Time.endOfYears := by
      refine ⟨?_, hend⟩
      unfold scopeTokenLifetime
      omega
    constructor
    · intro env' hlow hhigh
      have hadmissible := (hwindow env'.now).mpr ⟨hrange, hexpiry, hlow, hhigh⟩
      have hbounded : (scopeTokenClaims (issuer.tokenKeyring hmac) entry.teamID entry.taskID
          executorID c).Bounded :=
        ⟨hteamlen, htasklen, hexeclen, rfl, length_primary issuer,
          Time.length_formatRFC3339Nano hrange, Time.length_formatRFC3339Nano hexpiry⟩
      exact ⟨_, verifyScopeToken_of_signed hrotated.lookup haead rfl hbounded hadmissible, rfl, rfl,
        rfl⟩
    · intro env' hlate
      by_contra hverify
      obtain ⟨claims, hverify⟩ := Option.ne_none_iff_exists'.mp hverify
      obtain ⟨-, -, hadmissible⟩ := verifyScopeToken_sign hverify
      have := ((hwindow _).mp hadmissible).2.2.2
      omega
    · intro k env' hretired
      by_contra hverify
      obtain ⟨claims, hverify⟩ := Option.ne_none_iff_exists'.mp hverify
      obtain ⟨-, hkey, -⟩ := verifyScopeToken_sign hverify
      rw [show (scopeTokenClaims (issuer.tokenKeyring hmac) entry.teamID entry.taskID executorID
        c).keyID = issuer.primary from rfl, hretired] at hkey
      cases hkey

/-- A token of the second 6 outlives the rotation to `scope-v2`. -/
theorem scope_token_survives_iff_sample :
    ∃ later token, sampleRotation = .ok later ∧
      (TokenLifecycle zeroScopeHMAC sampleScopeKeyring later sampleConfig token "team" "task" "exec"
          (Time.ofMicros 6000000) ↔
        Time.ofMicros 6000000 + scopeTokenLifetime < Time.endOfYears) := by
  obtain ⟨later, hlater⟩ :=
    Check.ok_of_isOk (show sampleRotation.isOk = true by decide +kernel)
  obtain ⟨entry, -, hexec, hteam, htask, hclaimed, hissue⟩ :=
    sampleScope_issue 6 6000000000 (formatIngestedAt 6000000) (by decide +kernel)
      (by decide +kernel) (by decide +kernel)
  have haead : sampleConfig.aead.isSome := rfl
  have hlife := scope_token_survives_iff (sampleRotation_rotated hlater) haead hissue hexec hclaimed
    (by rw [hteam, htask]; decide +kernel)
  rw [hteam, htask] at hlife
  exact ⟨later, _, hlater, hlife⟩

/-- The token of a task claimed four minutes before the year 10000 is rejected at the very
    instant of the claim, by the store that minted it. -/
theorem late_claim_token_is_rejected : ∃ entry token,
    scannedTask (sampleScopeDb 253402300560) "task" = some entry ∧
    entry.claimedAt = some "9999-12-31T23:56:00Z" ∧
    issueScopeToken (sampleConfig.withScopeTokens zeroScopeHMAC sampleScopeKeyring)
      (sampleEnv "claim" 253402300560) (sampleScopeDb 253402300560) entry = .ok (some token) ∧
    verifyScopeToken (sampleConfig.withScopeTokens zeroScopeHMAC sampleScopeKeyring)
      (sampleEnv "open" 253402300560) token = none := by
  obtain ⟨entry, hscan, -, -, -, hclaimed, hissue⟩ :=
    sampleScope_issue 253402300560 253402300560000000000 "9999-12-31T23:56:00Z"
      (by decide +kernel) (by decide +kernel) (by decide +kernel)
  refine ⟨entry, _, hscan, hclaimed, hissue, ?_⟩
  by_contra hverify
  obtain ⟨claims, hverify⟩ := Option.ne_none_iff_exists'.mp hverify
  obtain ⟨-, -, hadmissible⟩ := verifyScopeToken_sign hverify
  rw [admissible_scopeTokenClaims _ (by decide) (by decide) (by decide)] at hadmissible
  exact absurd hadmissible.2.1.2 (by decide)

/-! ## Section 5: Who may open an environment -/

/-- The message a token is signed over. -/
def signedMessage (token : String) : Option Bytes :=
  (splitScopeToken token).map (fun parts => signingInput parts.1 parts.2.1)

/-- The MAC a token presents. -/
def presentedMAC (token : String) : Option Bytes :=
  (splitScopeToken token).bind (fun parts => base64UrlDecode parts.2.2)

/-- The last segment is spelled as the encoder spells its bytes. -/
def canonicalSignature (token : String) : Bool :=
  match splitScopeToken token with
  | some (_, _, macPart) => (base64UrlDecode macPart).any (fun bytes => base64UrlEncode bytes = macPart)
  | none => false

/-- A call of `issueScopeToken` that minted a token.  `claimed` assumes of the clock that the task
    was claimed before the call: `issued_at` is that time. -/
structure ScopeTokenMint (hmac : ScopeTokenHMAC) where
  cfg : Config
  keyring : ScopeTokenKeyring
  env : CallEnv
  db : Db
  entry : TaskListEntry
  token : String
  minted : issueScopeToken (cfg.withScopeTokens hmac keyring) env db entry = .ok (some token)
  claimed : ∀ issuedAt, scopeTokenIssuedAt env entry.claimedAt = .ok issuedAt → issuedAt ≤ env.now

/-- The call computed the MAC of the message under the key. -/
def ScopeTokenMint.Tags (mint : ScopeTokenMint hmac) (key : ScopeTokenKey) (message : Bytes) : Prop :=
  mint.keyring.activeKey = key ∧ signedMessage mint.token = some message

/-- The ideal MAC: a MAC that fits the presented message under a key of the keyring was
    computed by one of the mints. -/
def MACIdeal (mints : List (ScopeTokenMint hmac)) (k : ScopeTokenKeyring) (token : String) : Prop :=
  ∀ message, signedMessage token = some message →
    Authentic hmac.mac (fun key message => ∃ mint ∈ mints, mint.Tags key message)
      (fun key => ∃ keyID, k.keys.lookup keyID = some key) message (presentedMAC token)

/-- The mint stands for the open: its key is in the keyring with its bytes and algorithm, it
    was made for the task, the team and the executor of the open, less than five minutes ago,
    and the stored task is live and assigned to the caller, within the caller's team scope. -/
structure ScopeTokenMint.Authorises (mint : ScopeTokenMint hmac) (k : ScopeTokenKeyring)
    (env : CallEnv) (req : OpenEnvironmentRequest) (response : OpenEnvironmentResponse) (db : Db) :
    Prop where
  key : k.keys.lookup mint.keyring.primary = some mint.keyring.activeKey
  taskID : mint.entry.taskID = req.taskID ∧ response.taskID = req.taskID
  teamID : mint.entry.teamID = response.teamID
  executorID : mint.entry.executorID = some req.identity.executorID
  fresh : env.now < mint.env.now + scopeTokenLifetime
  task : ∃ task, db.tasks.lookup req.taskID = some task ∧ task.teamID = response.teamID ∧
    task.executorID = some req.identity.executorID ∧
    (task.currentState = .created ∨ task.currentState = .running) ∧
    (req.identity.scope = .team → req.identity.teamID = some task.teamID)

/-- Two tokens with the same header, the same claims and the same MAC. -/
def SameContent (a b : String) : Prop :=
  ∃ headerPart claimsPart macA macB, splitScopeToken a = some (headerPart, claimsPart, macA) ∧
    splitScopeToken b = some (headerPart, claimsPart, macB) ∧
    base64UrlDecode macA = base64UrlDecode macB ∧ (base64UrlDecode macA).isSome

theorem signingInput_inj {h h' c c' : List Char} (hh : '.' ∉ h) (hh' : '.' ∉ h')
    (heq : signingInput h c = signingInput h' c') : h = h' ∧ c = c' :=
  append_separator_inj hh hh' (utf8Encode_injective heq)

/-- A token that decodes and is signed over the message of a signed token, under the same
    key, has the content of that token. -/
theorem sameContent_of_signed {claims₀ : ScopeTokenClaims}
    {headerPart claimsPart macPart : List Char}
    (hdecodes : Decodes hmac k token claims headerPart claimsPart macPart key)
    (hkey : issuer.activeKey = key) (hmessage : signedMessage (issuer.sign hmac claims₀) =
      some (signingInput headerPart claimsPart)) :
    SameContent token (issuer.sign hmac claims₀) ∧ claims = claims₀ := by
  have hparts := splitScopeToken_sign hmac issuer claims₀
  have hinput : signingInput issuer.headerSegment (base64UrlEncode claims₀.toJson.marshal) =
      signingInput headerPart claimsPart := by
    rw [signedMessage, hparts] at hmessage
    exact Option.some.inj hmessage
  -- the segments before and after the first dot are those of the signed token
  obtain ⟨hsplit, -⟩ := splitScopeToken_eq_some.mp hdecodes.parts
  obtain ⟨-, hdot, -⟩ := splitDots_eq_three hsplit
  have hheader : '.' ∉ issuer.headerSegment := dot_not_mem_base64UrlEncode _
  obtain ⟨rfl, rfl⟩ := signingInput_inj hheader hdot hinput
  constructor
  · refine ⟨_, _, _, _, hdecodes.parts, hparts, ?_, by rw [hdecodes.mac]; rfl⟩
    rw [hdecodes.mac, base64UrlDecode_base64UrlEncode, ScopeTokenKeyring.signature, hkey]
  · have hpayload := hdecodes.payload
    rw [base64UrlDecode_base64UrlEncode, Option.bind_some, ScopeTokenClaims.ofBytes_marshal]
      at hpayload
    exact (Option.some.inj hpayload).symm

/-- Equal contents in the canonical spelling are equal tokens. -/
theorem eq_of_sameContent {a b : String} (h : SameContent a b) (ha : canonicalSignature a = true)
    (hb : canonicalSignature b = true) : a = b := by
  obtain ⟨headerPart, claimsPart, macA, macB, hpartsA, hpartsB, hsame, -⟩ := h
  have hspelled : ∀ {t : String} {m : List Char},
      splitScopeToken t = some (headerPart, claimsPart, m) → canonicalSignature t = true →
      ∃ bytes, base64UrlDecode m = some bytes ∧ base64UrlEncode bytes = m := by
    intro t m hparts hcanonical
    rw [canonicalSignature, hparts] at hcanonical
    cases hbytes : base64UrlDecode m with
    | none => simp [hbytes] at hcanonical
    | some bytes =>
      simp only [hbytes, Option.any_some, decide_eq_true_eq] at hcanonical
      exact ⟨bytes, rfl, hcanonical⟩
  obtain ⟨bytesA, hbytesA, rfl⟩ := hspelled hpartsA ha
  obtain ⟨bytesB, hbytesB, rfl⟩ := hspelled hpartsB hb
  rw [hbytesA, hbytesB] at hsame
  injection hsame with hsame
  subst hsame
  have htextA := (splitDots_eq_three (splitScopeToken_eq_some.mp hpartsA).1).1
  have htextB := (splitDots_eq_three (splitScopeToken_eq_some.mp hpartsB).1).1
  exact String.toList_injective (htextA.trans htextB.symm)

theorem ScopeTokenMint.canonicalSignature_token (mint : ScopeTokenMint hmac) :
    canonicalSignature mint.token = true := by
  obtain ⟨executorID, issuedAt, -, -, hsign⟩ := issueScopeToken_eq_some mint.minted
  rw [hsign, canonicalSignature, splitScopeToken_sign]
  simp

/-- What an open returns depends on a verified token through its identifiers only. -/
theorem openEnvironment_congr {cfg' : Config} (req : OpenEnvironmentRequest) {token' : String}
    (h : verifyScopeToken cfg env req.token = some claims)
    (h' : verifyScopeToken cfg' env token' = some claims') (haead : cfg.aead = cfg'.aead)
    (hids : claims.teamID = claims'.teamID ∧ claims.taskID = claims'.taskID ∧
      claims.executorID = claims'.executorID) (db : Db) :
    openEnvironment cfg env req db = openEnvironment cfg' env { req with token := token' } db := by
  obtain ⟨team, task, executor, _, _, _, _⟩ := claims
  obtain ⟨team', task', executor', _, _, _, _⟩ := claims'
  dsimp only at hids
  obtain ⟨rfl, rfl, rfl⟩ := hids
  have hverified : ∀ c : ScopeTokenClaims,
      (Tx.ofOption (some c) .environmentUnavailable : StoreTx ScopeTokenClaims) db = .ok (c, db) :=
    fun _ => rfl
  simp only [openEnvironment, h, h', haead, Tx.bind_of_ok (hverified _)]
  rfl

/-! ### A token and its respelling -/

def sampleScopeClaims : ScopeTokenClaims :=
  scopeTokenClaims (sampleScopeKeyring.tokenKeyring zeroScopeHMAC) "team" "task" "exec" 6000000000

def sampleScopeToken : String := sampleScopeKeyring.sign zeroScopeHMAC sampleScopeClaims

/-- The same token with one of the unused bits of the last character set. -/
def sampleRespelled : String :=
  sampleScopeKeyring.compact sampleScopeClaims (List.replicate 42 'A' ++ ['B'])

/-- The open of the sample task with a token. -/
def sampleScopeRequest (token : String) : OpenEnvironmentRequest :=
  ⟨"task", token, sampleIdentity, "request"⟩

theorem sampleSignature : sampleScopeKeyring.signature zeroScopeHMAC sampleScopeClaims =
    List.replicate 32 0 := by
  rw [ScopeTokenKeyring.signature, sampleScopeKeyring_activeKey]
  rfl

/-- A compact token of the sample claims whose last segment reads as the MAC opens. -/
theorem sampleCompact_opens (hdot : '.' ∉ macSegment) (hascii : ∀ c ∈ macSegment, c.toNat < 128)
    (hlen : macSegment.length ≤ 86) (hmac : base64UrlDecode macSegment =
      some (sampleScopeKeyring.signature zeroScopeHMAC sampleScopeClaims)) :
    ∃ response db', openEnvironment (sampleConfig.withScopeTokens zeroScopeHMAC sampleScopeKeyring)
      (sampleEnv "open" 8) (sampleScopeRequest (sampleScopeKeyring.compact sampleScopeClaims
        macSegment)) (sampleScopeDb 6) = .ok (response, db') := by
  have hbounded : sampleScopeClaims.Bounded := by
    constructor <;> decide +kernel
  have hadmissible : sampleScopeClaims.admissible (sampleEnv "open" 8).now = true := by
    decide +kernel
  have haead : sampleConfig.aead.isSome := rfl
  have hverify := verifyScopeToken_compact sampleScopeKeyring.lookup_primary haead rfl hbounded hdot
    hascii hlen hmac hadmissible
  have hstub : ∃ claims, verifyScopeToken sampleConfig (sampleEnv "open" 8) "token" = some claims ∧
      claims.teamID = "team" ∧ claims.taskID = "task" ∧ claims.executorID = "exec" := by
    decide +kernel
  obtain ⟨claims, hclaims, hteam, htask, hexec⟩ := hstub
  have hopen : (openEnvironment sampleConfig (sampleEnv "open" 8) sampleOpen
      (sampleScopeDb 6)).isOk = true := by decide +kernel
  have hsame := openEnvironment_congr
    (sampleScopeRequest (sampleScopeKeyring.compact sampleScopeClaims macSegment))
    hverify hclaims rfl ⟨hteam.symm, htask.symm, hexec.symm⟩ (sampleScopeDb 6)
  rw [hsame]
  obtain ⟨result, hresult⟩ := Check.ok_of_isOk hopen
  exact ⟨result.1, result.2, hresult⟩

theorem exists_sampleMint : ∃ mint : ScopeTokenMint zeroScopeHMAC,
    mint.keyring = sampleScopeKeyring ∧ mint.token = sampleScopeToken := by
  obtain ⟨entry, -, -, -, -, hclaimed, hissue⟩ :=
    sampleScope_issue 6 6000000000 (formatIngestedAt 6000000) (by decide +kernel)
      (by decide +kernel) (by decide +kernel)
  refine ⟨⟨_, sampleScopeKeyring, sampleEnv "claim" 6, _, entry, _, hissue, ?_⟩, rfl, rfl⟩
  intro issuedAt hissued
  rw [hclaimed] at hissued
  obtain ⟨rfl, -⟩ := scopeTokenIssuedAt_claimed hissued
  decide

/-- With a single key, a token over a minted message is no forgery. -/
theorem macIdeal_of_message {mint : ScopeTokenMint zeroScopeHMAC}
    (hkeyring : mint.keyring = sampleScopeKeyring)
    (hmessage : signedMessage token = signedMessage mint.token) :
    MACIdeal [mint] sampleScopeKeyring token := by
  intro message htoken key hkey _
  refine ⟨mint, List.mem_singleton_self mint, ?_, hmessage ▸ htoken⟩
  obtain ⟨keyID, hlookup⟩ := hkey
  rw [hkeyring, sampleScopeKeyring_activeKey]
  simp only [sampleScopeKeyring, StrMap.lookup_insert, StrMap.lookup_empty] at hlookup
  split at hlookup
  · exact Option.some.inj hlookup
  · cases hlookup

/-! ### What an open rests on -/

theorem open_token_minted_iff {cfg : Config} {k : ScopeTokenKeyring}
    {mints : List (ScopeTokenMint hmac)} {env : CallEnv} {req : OpenEnvironmentRequest} {db db' : Db}
    {response : OpenEnvironmentResponse} (hideal : MACIdeal mints k req.token)
    (h : openEnvironment (cfg.withScopeTokens hmac k) env req db = .ok (response, db')) :
    (∃ mint ∈ mints, SameContent req.token mint.token ∧ mint.Authorises k env req response db) ∧
    ((∃ mint ∈ mints, req.token = mint.token ∧ mint.Authorises k env req response db) ↔
      canonicalSignature req.token = true) := by
  have hcontent : ∃ mint ∈ mints, SameContent req.token mint.token ∧
      mint.Authorises k env req response db := by
    obtain ⟨⟨⟨claims, aead, task, snapshot, hverify, -, hcall, htask, -, -, hmay, hteam, -⟩, hid,
      -⟩, -⟩ := openEnvironment_ok h
    obtain ⟨-, -, -, ⟨headerPart, claimsPart, macPart, key, hdecodes⟩, hadmissible⟩ :=
      verifyScopeToken_eq_some.mp hverify
    -- the MAC verified, so one of the mints computed it
    have hmessage : signedMessage req.token = some (signingInput headerPart claimsPart) := by
      rw [signedMessage, hdecodes.parts]
      rfl
    have hpresented : presentedMAC req.token =
        some (hmac.mac key (signingInput headerPart claimsPart)) := by
      rw [presentedMAC, hdecodes.parts]
      exact hdecodes.mac
    obtain ⟨mint, hmint, htags⟩ := hideal _ hmessage key ⟨_, hdecodes.lookup⟩ hpresented
    obtain ⟨executorID, issuedAt, hexec, hissued, hsign⟩ := issueScopeToken_eq_some mint.minted
    obtain ⟨hsame, rfl⟩ := sameContent_of_signed hdecodes htags.1 (hsign ▸ htags.2)
    rw [← hsign] at hsame
    refine ⟨mint, hmint, hsame, ?_⟩
    simp only [ScopeTokenClaims.namesCall, Bool.and_eq_true, decide_eq_true_eq] at hcall
    simp only [mayOpen, Bool.and_eq_true, Bool.or_eq_true, decide_eq_true_eq] at hmay
    obtain ⟨⟨⟨⟨hassigned, hclaimteam⟩, -⟩, hstate⟩, hscope⟩ := hmay
    constructor
    · rw [htags.1]
      exact hdecodes.lookup
    · exact ⟨hcall.1, hid⟩
    · rw [hteam]
      exact hclaimteam
    · rw [hexec]
      exact congrArg some hcall.2
    · have hexpiry := admissible_fresh hadmissible
      have hpast := mint.claimed issuedAt hissued
      omega
    · refine ⟨task, htask, hteam.symm, hassigned, hstate, ?_⟩
      intro hteamscope
      rw [hteamscope] at hscope
      simpa using hscope
  refine ⟨hcontent, ?_, ?_⟩
  · rintro ⟨mint, -, htoken, -⟩
    rw [htoken]
    exact mint.canonicalSignature_token
  · intro hcanonical
    obtain ⟨mint, hmint, hsame, hauth⟩ := hcontent
    exact ⟨mint, hmint, eq_of_sameContent hsame hcanonical mint.canonicalSignature_token, hauth⟩

theorem open_token_minted_iff_sample :
    ∃ (mint : ScopeTokenMint zeroScopeHMAC) (response : OpenEnvironmentResponse) (db' : Db),
      openEnvironment (sampleConfig.withScopeTokens zeroScopeHMAC sampleScopeKeyring)
        (sampleEnv "open" 8) (sampleScopeRequest sampleScopeToken) (sampleScopeDb 6) =
          .ok (response, db') ∧
      ((∃ mint' ∈ [mint], sampleScopeToken = mint'.token ∧
        mint'.Authorises sampleScopeKeyring (sampleEnv "open" 8)
          (sampleScopeRequest sampleScopeToken) response (sampleScopeDb 6)) ↔
        canonicalSignature sampleScopeToken = true) := by
  obtain ⟨mint, hkeyring, htoken⟩ := exists_sampleMint
  have htext : sampleScopeKeyring.compact sampleScopeClaims (base64UrlEncode
      (sampleScopeKeyring.signature zeroScopeHMAC sampleScopeClaims)) = sampleScopeToken := rfl
  obtain ⟨response, db', hopen⟩ := sampleCompact_opens (dot_not_mem_base64UrlEncode _)
    (base64UrlEncode_ascii _) (length_macSegment _ _ _) (base64UrlDecode_base64UrlEncode _)
  rw [htext] at hopen
  have hideal : MACIdeal [mint] sampleScopeKeyring (sampleScopeRequest sampleScopeToken).token :=
    macIdeal_of_message hkeyring (by rw [htoken]; rfl)
  exact ⟨mint, response, db', hopen, (open_token_minted_iff hideal hopen).2⟩

/-- The respelled token opens the environment, though no call ever minted it. -/
theorem respelled_token_opens :
    ∃ (mint : ScopeTokenMint zeroScopeHMAC) (response : OpenEnvironmentResponse) (db' : Db),
      MACIdeal [mint] sampleScopeKeyring sampleRespelled ∧
      openEnvironment (sampleConfig.withScopeTokens zeroScopeHMAC sampleScopeKeyring)
        (sampleEnv "open" 8) (sampleScopeRequest sampleRespelled) (sampleScopeDb 6) =
          .ok (response, db') ∧
      ∀ minted : ScopeTokenMint zeroScopeHMAC, minted.token ≠ sampleRespelled := by
  obtain ⟨mint, hkeyring, htoken⟩ := exists_sampleMint
  have hdot : '.' ∉ List.replicate 42 'A' ++ ['B'] := by decide
  have hparts := splitScopeToken_compact sampleScopeKeyring sampleScopeClaims hdot (by simp)
  have hascii : ∀ c ∈ List.replicate 42 'A' ++ ['B'], c.toNat < 128 := by
    intro c hc
    rcases List.mem_append.mp hc with hc | hc
    · rw [List.eq_of_mem_replicate hc]
      decide
    · rw [List.mem_singleton.mp hc]
      decide
  obtain ⟨response, db', hopen⟩ := sampleCompact_opens hdot hascii (by decide)
    (by rw [sampleSignature]; decide +kernel)
  have hmessage : signedMessage sampleRespelled = signedMessage mint.token := by
    rw [htoken, signedMessage, signedMessage, sampleRespelled, hparts, sampleScopeToken,
      splitScopeToken_sign]
    rfl
  refine ⟨mint, response, db', macIdeal_of_message hkeyring hmessage, hopen, ?_⟩
  intro minted heq
  have hcanonical := minted.canonicalSignature_token
  rw [heq, canonicalSignature, sampleRespelled, hparts] at hcanonical
  exact absurd hcanonical (by decide +kernel)

end FlowAI.Registry
