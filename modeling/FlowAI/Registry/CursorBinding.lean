import FlowAI.Registry.Cursor

/-! # What a Cursor Is Good For

  A cursor comes back to the request it was issued for, and to no other one.  The
  first half fails for key ids the loader accepts but the token format cannot carry:
  a dot in the key id is taken for the separator.  The second half rests on the tag
  alone: whatever is accepted was tagged by some `Encode` call, the tagged bytes
  determine the envelope, and the envelope determines the request.
-/

namespace FlowAI.Registry.Cursor

variable {hmac : Bytes → Bytes → Bytes} {keyring later : CursorKeyring} {issue : EncodeIssue}
  {token : String}

/-! ## Section 1: Round trip -/

/-- The request that continues an issue. -/
def EncodeIssue.continuation (issue : EncodeIssue) (token : String) : DecodeRequest where
  token := token
  endpoint := issue.endpoint
  identity := issue.identity
  ordering := issue.ordering
  filters := issue.filters

theorem EncodeIssue.envelope_matches (issue : EncodeIssue) (token : String) :
    issue.envelope.Matches (issue.continuation token) where
  endpoint := rfl
  scope := rfl
  ordering := rfl
  direction := rfl
  filters := filtersEqual_iff.mpr rfl

theorem tokenText_ne_empty (keyID : String) (env mac : Bytes) : tokenText keyID env mac ≠ "" := by
  intro hempty
  have hnil := toList_tokenText keyID env mac
  rw [hempty] at hnil
  simp at hnil

/-- A keyring that still has the issuing key accepts the token, if the key id has no dot. -/
theorem decode_of_encode (hlater : later.keys.lookup keyring.primary =
      keyring.keys.lookup keyring.primary)
    (hissue : encode hmac (some keyring) issue = .ok token) (hdot : '.' ∉ keyring.primary.toList) :
    decode hmac (some later) (issue.continuation token) = .ok issue.envelope := by
  obtain ⟨-, key, hkey, rfl, hsize⟩ := encode_eq_ok.mp hissue
  have hlookup := usableKey_eq_some.mp hkey
  obtain ⟨hvalid, -⟩ := keyring.sound.entries _ _ hlookup
  obtain ⟨hne, hidsize, -⟩ := validCursorKeyID_spec hvalid
  refine decode_eq_ok.mpr ⟨_, _, _, key, _, tokenText_ne_empty _ _ _, hsize,
    splitToken_tokenText hdot _ _, ?_, ?_, base64UrlDecode_base64UrlEncode _, ?_,
    Envelope.ofBytes_marshal _, issue.envelope_matches _⟩
  · rw [String.ofList_toList]
    exact ⟨hne, hidsize⟩
  · rw [String.ofList_toList, usableKey_eq_some, hlater]
    exact hlookup
  · rw [String.ofList_toList, base64UrlDecode_base64UrlEncode]

variable {req : DecodeRequest} {c : Char}

/-- With a dot in the key id the token has a part too many, whoever presents it. -/
theorem decode_of_dotted (hissue : encode hmac (some keyring) issue = .ok token)
    (hdot : '.' ∈ keyring.primary.toList) (htoken : req.token = token) :
    decode hmac (some later) req = .error (invalid "malformed token") := by
  obtain ⟨-, key, -, hshape, hsize⟩ := encode_eq_ok.mp hissue
  have hsplit : splitToken req.token = none := by
    rw [htoken, hshape]
    exact splitToken_dotted hdot _ _
  have hne : req.token ≠ "" := by
    rw [htoken, hshape]
    exact tokenText_ne_empty _ _ _
  rw [← htoken] at hsize
  simp only [decode, Check.need, Check.ensure, hne, hsize, hsplit, ne_eq, not_false_eq_true,
    ↓reduceIte]
  rfl

/-- The default key id has no dot, so only the configured one matters. -/
theorem dot_mem_activeCursorKeyID (activeKeyID : String) :
    '.' ∈ (activeCursorKeyID activeKeyID).toList ↔ '.' ∈ activeKeyID.toList := by
  unfold activeCursorKeyID
  split
  · rename_i hempty
    subst hempty
    decide
  · exact Iff.rfl

/-! ### A deployment -/

/-- A deployment with one cursor key. -/
def sampleCursorKeyring (activeKeyID : String) : Except String CursorKeyring :=
  loadRotatingCursorKeyring activeKeyID
    "000102030405060708090a0b0c0d0e0f101112131415161718191a1b1c1d1e1f" ""

def sampleIssue : EncodeIssue where
  taskPosition := some ⟨1700000000000000000, "task-7"⟩
  endpoint := "GET:/v1/tasks"
  identity := ⟨"gateway", "team-a", "operator-1"⟩
  ordering := "ingested_at_desc__task_id_desc"
  filters := StrMap.ofList [("status", "running")]

theorem utf8ByteSize_tokenText (keyID : String) (env mac : Bytes) :
    (tokenText keyID env mac).utf8ByteSize =
      keyID.utf8ByteSize + (4 * env.length + 2) / 3 + (4 * mac.length + 2) / 3 + 2 := by
  have hascii : ∀ bytes : Bytes, (String.ofList (base64UrlEncode bytes)).utf8ByteSize =
      (4 * bytes.length + 2) / 3 := by
    intro bytes
    rw [utf8ByteSize_ascii (by simpa using base64UrlEncode_ascii bytes), String.toList_ofList,
      length_base64UrlEncode]
  have hone : ".".utf8ByteSize = 1 := by decide
  simp only [tokenText, String.utf8ByteSize_append, hascii, hone]
  omega

theorem length_macInput (keyID : String) (env : Bytes) :
    (macInput keyID env).length = 17 + keyID.utf8ByteSize + env.length := by
  have hheader : (utf8Encode protocolHeader.toList).length = 15 := by decide
  simp only [macInput, List.length_append, List.length_cons, hheader, utf8ByteSize_eq_length]
  omega

/-- The sample issue fits into a token, whatever the tag function, if its tags are not much
    longer than the message. -/
theorem encode_sampleIssue (hmac : Bytes → Bytes → Bytes)
    (hlen : ∀ key message, key.length = 32 → (hmac key message).length ≤ 65 + message.length)
    (keyring : CursorKeyring) : ∃ token, encode hmac (some keyring) sampleIssue = .ok token := by
  obtain ⟨key, hkey⟩ := Option.isSome_iff_exists.mp keyring.sound.active
  obtain ⟨hvalid, hkeylen⟩ := keyring.sound.entries _ _ hkey
  obtain ⟨-, hidsize, -⟩ := validCursorKeyID_spec hvalid
  have henv : sampleIssue.envelope.toJson.marshal.length ≤ 200 := by decide +kernel
  have htag := hlen key (macInput keyring.primary sampleIssue.envelope.toJson.marshal) hkeylen
  have hcomplete : sampleIssue.Complete := by
    unfold EncodeIssue.Complete
    decide
  rw [length_macInput] at htag
  refine ⟨_, encode_eq_ok.mpr ⟨hcomplete, key, usableKey_eq_some.mpr hkey, rfl, ?_⟩⟩
  rw [utf8ByteSize_tokenText, computeMAC]
  unfold maxKeyIDLength at hidsize
  unfold maxTokenLength
  omega

/-! ### The round trip -/

theorem cursor_round_trip_iff {activeKeyID activeKeyHex previousKeysJSON : String}
    (hload : loadRotatingCursorKeyring activeKeyID activeKeyHex previousKeysJSON = .ok keyring)
    (hlater : later.keys.lookup keyring.primary = keyring.keys.lookup keyring.primary)
    (hissue : encode hmac (some keyring) issue = .ok token) :
    (∃ env, decode hmac (some later) (issue.continuation token) = .ok env ∧
      env.toPositions = issue.toPositions) ↔ '.' ∉ activeKeyID.toList := by
  have hprimary := loadRotatingCursorKeyring_primary hload
  rw [← dot_mem_activeCursorKeyID, ← hprimary]
  constructor
  · rintro ⟨env, hdecode, -⟩ hdot
    rw [decode_of_dotted hissue hdot rfl] at hdecode
    simp at hdecode
  · intro hdot
    exact ⟨issue.envelope, decode_of_encode hlater hissue hdot, rfl⟩

/-- A tag of thirty-two zero bytes. -/
def zeroHMAC : Bytes → Bytes → Bytes := fun _ _ => List.replicate 32 0

theorem cursor_round_trip_iff_sample :
    ∃ keyring token, sampleCursorKeyring "cursor-v2" = .ok keyring ∧
      encode zeroHMAC (some keyring) sampleIssue = .ok token ∧
      ((∃ env, decode zeroHMAC (some keyring) (sampleIssue.continuation token) = .ok env ∧
        env.toPositions = sampleIssue.toPositions) ↔ '.' ∉ "cursor-v2".toList) := by
  obtain ⟨keyring, hload⟩ := Check.ok_of_isOk
    (show (sampleCursorKeyring "cursor-v2").isOk = true by decide +kernel)
  obtain ⟨token, hissue⟩ := encode_sampleIssue zeroHMAC
    (by intro key message _; simp [zeroHMAC]; omega) keyring
  exact ⟨keyring, token, hload, hissue, cursor_round_trip_iff hload rfl hissue⟩

/-- The loader accepts `cursor.v2`, and the same keyring rejects every token issued under it,
    whatever the thirty-two bytes of its tag are. -/
theorem decode_of_dotted_key_id (hmac : Bytes → Bytes → Bytes)
    (hlen : ∀ key message, (hmac key message).length = 32) :
    ∃ keyring token, sampleCursorKeyring "cursor.v2" = .ok keyring ∧
      encode hmac (some keyring) sampleIssue = .ok token ∧
      decode hmac (some keyring) (sampleIssue.continuation token) =
        .error "cursor: malformed token" := by
  obtain ⟨keyring, hload⟩ := Check.ok_of_isOk
    (show (sampleCursorKeyring "cursor.v2").isOk = true by decide +kernel)
  have hprimary := loadRotatingCursorKeyring_primary hload
  obtain ⟨token, hissue⟩ := encode_sampleIssue hmac
    (by intro key message _; rw [hlen]; omega) keyring
  refine ⟨keyring, token, hload, hissue, decode_of_dotted hissue ?_ rfl⟩
  rw [hprimary]
  decide

theorem dotted_key_id_loses_cursor :
    ∃ keyring token, sampleCursorKeyring "cursor.v2" = .ok keyring ∧
      encode zeroHMAC (some keyring) sampleIssue = .ok token ∧
      decode zeroHMAC (some keyring) (sampleIssue.continuation token) =
        .error "cursor: malformed token" := by
  apply decode_of_dotted_key_id
  intro key message
  exact List.length_replicate

/-! ## Section 2: Binding -/

/-- A call of `Encode` with the keyring in force. -/
structure EncodeCall where
  keyring : CursorKeyring
  issue : EncodeIssue

/-- The call tags the message under the key. -/
def EncodeCall.Tags (call : EncodeCall) (key message : Bytes) : Prop :=
  call.issue.Complete ∧ usableKey call.keyring call.keyring.primary = some key ∧
    message = macInput call.keyring.primary call.issue.envelope.toJson.marshal

/-- The tag a token presents. -/
def presentedTag (token : String) : Option Bytes :=
  (splitToken token).bind (fun parts => base64UrlDecode parts.2.2)

/-- The ideal tag: whatever message the presented tag fits under a key of the keyring, one of the
    calls tagged it under that key. -/
def TagIdeal (hmac : Bytes → Bytes → Bytes) (calls : List EncodeCall) (keyring : CursorKeyring)
    (token : String) : Prop :=
  ∀ message, Authentic hmac (fun key message => ∃ call ∈ calls, call.Tags key message)
    (fun key => ∃ keyID, keyring.keys.lookup keyID = some key) message (presentedTag token)

/-- The issue was made for the request, and its position is the one returned. -/
structure EncodeIssue.BoundTo (issue : EncodeIssue) (req : DecodeRequest) (env : Envelope) :
    Prop where
  endpoint : issue.endpoint = req.endpoint
  identity : issue.identity.equal req.identity = true
  ordering : issue.ordering = req.ordering
  filters : issue.filters = req.filters
  positions : env.toPositions = issue.toPositions

/-- The team and the operator of a Gateway caller match the identifier pattern. -/
def Identity.Identified (i : Identity) : Prop :=
  i.kind = "gateway" → identifierPattern i.teamID = true ∧ identifierPattern i.operatorID = true

/-! ### The framing is injective -/

theorem toNat_of_char_le {a b : Char} (h : a ≤ c ∧ c ≤ b) :
    a.toNat ≤ c.toNat ∧ c.toNat ≤ b.toNat := h

theorem isAlphanumeric_bounds (h : isAlphanumeric c = true) :
    48 ≤ c.toNat ∧ c.toNat ≤ 122 := by
  simp only [isAlphanumeric, isLetter, isUpper, isDigit, Bool.or_eq_true, decide_eq_true_eq] at h
  have hA : 'A'.toNat = 65 := rfl
  have hZ : 'Z'.toNat = 90 := rfl
  have ha : 'a'.toNat = 97 := rfl
  have hz : 'z'.toNat = 122 := rfl
  have h0 : '0'.toNat = 48 := rfl
  have h9 : '9'.toNat = 57 := rfl
  rcases h with (h | h) | h
  · have := toNat_of_char_le h
    omega
  · have := toNat_of_char_le h
    omega
  · have := toNat_of_char_le h
    omega

theorem keyChar_ascii (h : isAlphanumeric c = true ∨ c ∈ ['.', '_', ':', '-']) :
    0 < c.toNat ∧ c.toNat < 128 ∧ c ≠ '|' := by
  rcases h with h | h
  · have hbounds := isAlphanumeric_bounds h
    refine ⟨by omega, by omega, ?_⟩
    rintro rfl
    revert hbounds
    decide
  · simp only [List.mem_cons, List.not_mem_nil, or_false] at h
    rcases h with rfl | rfl | rfl | rfl <;> decide

theorem identifierPattern_chars {s : String} (h : identifierPattern s = true) :
    ∀ c ∈ s.toList, isAlphanumeric c = true ∨ c ∈ ['.', '_', ':', '-'] := by
  unfold identifierPattern at h
  split at h
  · simp at h
  · rename_i c cs hs
    simp only [Bool.and_eq_true, List.all_eq_true, Bool.or_eq_true, decide_eq_true_eq] at h
    rw [hs]
    intro d hd
    rcases List.mem_cons.mp hd with rfl | hd
    · exact .inl h.1
    · exact h.2 d hd

theorem macInput_inj {keyID keyID' : String} {env env' : Bytes} (hid : validCursorKeyID keyID = true)
    (hid' : validCursorKeyID keyID' = true) (h : macInput keyID env = macInput keyID' env') :
    keyID = keyID' ∧ env = env' := by
  have hzero : ∀ {id : String}, validCursorKeyID id = true → 0 ∉ utf8Encode id.toList := by
    intro id hvalid
    refine zero_not_mem_utf8Encode ?_
    intro c hc
    have hascii := keyChar_ascii ((validCursorKeyID_spec hvalid).2.2 c hc)
    exact ⟨hascii.1, hascii.2.1⟩
  have hrest := List.append_cancel_left h
  injection hrest with _ hrest
  obtain ⟨hbytes, henv⟩ := append_separator_inj (hzero hid) (hzero hid') hrest
  exact ⟨String.toList_injective (utf8Encode_injective hbytes), henv⟩

/-- The scope determines the identity, once the caller's ids cannot hold the separator. -/
theorem scope_inj {i o : Identity} (hi : i.kind = "gateway" ∨ i.kind = "admin")
    (ho : o.Identified) (h : i.scope = o.scope) : i.equal o = true := by
  have hlist := congrArg String.toList h
  unfold Identity.scope at hlist
  rcases hi with hi | hi
  · by_cases hgw : o.kind = "gateway"
    · obtain ⟨hteam, hop⟩ := ho hgw
      have hpipe : ∀ {s : String}, identifierPattern s = true → '|' ∉ s.toList := by
        intro s hs hmem
        exact (keyChar_ascii (identifierPattern_chars hs _ hmem)).2.2 rfl
      simp only [hi, hgw, ↓reduceIte, String.toList_append, List.append_assoc] at hlist
      have hrest := List.append_cancel_left hlist
      have hparts := (List.append_cons_inj_of_notMem (hpipe hteam) (hpipe hop)).mp hrest.symm
      simp only [Identity.equal, hi, hgw, decide_true, ↓reduceIte, Bool.true_and, decide_eq_true_eq]
      exact ⟨String.toList_injective hparts.1.symm, String.toList_injective hparts.2.2.symm⟩
    · -- the first letter tells a Gateway scope from the others
      have hhead := congrArg (fun l => l.take 1) hlist
      by_cases had : o.kind = "admin"
      · simp [hi, had] at hhead
      · simp [hi, hgw, had] at hhead
  · by_cases had : o.kind = "admin"
    · simp [Identity.equal, hi, had]
    · have hhead := congrArg (fun l => l.take 1) hlist
      by_cases hgw : o.kind = "gateway"
      · simp [hi, hgw] at hhead
      · simp [hi, hgw, had] at hhead

/-! ### What is accepted was issued for the request -/

theorem boundTo_of_matches (hcomplete : issue.Complete)
    (hids : req.identity.Identified) (h : issue.envelope.Matches req) :
    issue.BoundTo req issue.envelope where
  endpoint := h.endpoint
  identity := scope_inj hcomplete.2 hids h.scope
  ordering := h.ordering
  filters := filtersEqual_iff.mp h.filters
  positions := rfl

/-- The token of an issue presents the tag its call computed. -/
theorem presentedTag_of_encode (hissue : encode hmac (some keyring) issue = .ok token)
    (hdot : '.' ∉ keyring.primary.toList) :
    ∃ key message, EncodeCall.Tags ⟨keyring, issue⟩ key message ∧
      presentedTag token = some (hmac key message) := by
  obtain ⟨hcomplete, key, hkey, rfl, -⟩ := encode_eq_ok.mp hissue
  refine ⟨key, _, ⟨hcomplete, hkey, rfl⟩, ?_⟩
  rw [presentedTag, splitToken_tokenText hdot]
  simp [computeMAC]

theorem decode_accepts_only_issued {calls : List EncodeCall} {req : DecodeRequest} {env : Envelope}
    (hideal : TagIdeal hmac calls keyring req.token)
    (hids : req.identity.Identified) (h : decode hmac (some keyring) req = .ok env) :
    (∃ call ∈ calls, ∃ key, usableKey call.keyring call.keyring.primary = some key ∧
      keyring.keys.lookup call.keyring.primary = some key ∧ call.issue.BoundTo req env) ∧
    ∀ issuer issue, encode hmac (some issuer) issue = .ok req.token → issue.BoundTo req env := by
  obtain ⟨keyPart, envPart, macPart, key, envBytes, -, -, hsplit, -, hkey, henv, hmacPart, hparse,
    hmatches⟩ := decode_eq_ok.mp h
  have hlookup := usableKey_eq_some.mp hkey
  obtain ⟨hvalid, -⟩ := keyring.sound.entries _ _ hlookup
  constructor
  · -- the tag that verified is one some call computed, over the same key id and envelope
    have hpresented : presentedTag req.token =
        some (hmac key (macInput (String.ofList keyPart) envBytes)) := by
      rw [presentedTag, hsplit]
      exact hmacPart
    obtain ⟨call, hcall, hcomplete, hcallkey, hmessage⟩ := hideal _ key ⟨_, hlookup⟩ hpresented
    have hcallvalid := (call.keyring.sound.entries _ _ (usableKey_eq_some.mp hcallkey)).1
    obtain ⟨hid, rfl⟩ := macInput_inj hvalid hcallvalid hmessage
    rw [Envelope.ofBytes_marshal] at hparse
    injection hparse with hparse
    subst hparse
    exact ⟨call, hcall, key, hcallkey, hid ▸ hlookup, boundTo_of_matches hcomplete hids hmatches⟩
  · -- a token that `Encode` returned carries its own envelope
    intro issuer issue hissue
    obtain ⟨hcomplete, key', -, htoken, -⟩ := encode_eq_ok.mp hissue
    have hdot : '.' ∉ issuer.primary.toList := by
      intro hdot
      rw [htoken, splitToken_dotted hdot] at hsplit
      simp at hsplit
    rw [htoken, splitToken_tokenText hdot] at hsplit
    injection hsplit with hsplit
    simp only [Prod.mk.injEq] at hsplit
    obtain ⟨-, rfl, -⟩ := hsplit
    rw [base64UrlDecode_base64UrlEncode] at henv
    injection henv with henv
    subst henv
    rw [Envelope.ofBytes_marshal] at hparse
    injection hparse with hparse
    subst hparse
    exact boundTo_of_matches hcomplete hids hmatches

/-- A tag function without collisions: it spells out its key and its message. -/
def spelledHMAC (key message : Bytes) : Bytes :=
  List.replicate key.length 0 ++ 1 :: (key ++ message)

theorem spelledHMAC_inj {key key' message message' : Bytes}
    (h : spelledHMAC key message = spelledHMAC key' message') : key = key' ∧ message = message' := by
  have hone : ∀ n, (1 : UInt8) ∉ List.replicate n (0 : UInt8) := by
    intro n hmem
    exact absurd (List.eq_of_mem_replicate hmem) (by decide)
  obtain ⟨hlen, hrest⟩ := append_separator_inj (hone _) (hone _) h
  have hlength := congrArg List.length hlen
  rw [List.length_replicate, List.length_replicate] at hlength
  exact List.append_inj hrest hlength

/-- An issued token is unforged for a tag function without collisions. -/
theorem tagIdeal_of_encode (hissue : encode spelledHMAC (some keyring) issue = .ok token)
    (hdot : '.' ∉ keyring.primary.toList) :
    TagIdeal spelledHMAC [⟨keyring, issue⟩] keyring token := by
  obtain ⟨key, message, htags, htag⟩ := presentedTag_of_encode hissue hdot
  intro message' key' _ hpresented
  rw [htag] at hpresented
  injection hpresented with hpresented
  obtain ⟨rfl, rfl⟩ := spelledHMAC_inj hpresented
  exact ⟨_, List.mem_singleton_self _, htags⟩

theorem decode_accepts_only_issued_sample :
    ∃ (keyring : CursorKeyring) (token : String) (env : Envelope),
      sampleCursorKeyring "cursor-v2" = .ok keyring ∧
      TagIdeal spelledHMAC [⟨keyring, sampleIssue⟩] keyring token ∧
      decode spelledHMAC (some keyring) (sampleIssue.continuation token) = .ok env ∧
      sampleIssue.BoundTo (sampleIssue.continuation token) env := by
  obtain ⟨keyring, hload⟩ := Check.ok_of_isOk
    (show (sampleCursorKeyring "cursor-v2").isOk = true by decide +kernel)
  have hprimary := loadRotatingCursorKeyring_primary hload
  obtain ⟨token, hissue⟩ := encode_sampleIssue spelledHMAC
    (by intro key message hkey; simp [spelledHMAC, hkey]; omega) keyring
  have hdot : '.' ∉ keyring.primary.toList := by
    rw [hprimary]
    decide
  have hdecode : decode spelledHMAC (some keyring) (sampleIssue.continuation token) =
      .ok sampleIssue.envelope := decode_of_encode rfl hissue hdot
  have hideal := tagIdeal_of_encode hissue hdot
  have hids : (sampleIssue.continuation token).identity.Identified := by
    intro _
    show identifierPattern "team-a" = true ∧ identifierPattern "operator-1" = true
    decide
  have hbound := decode_accepts_only_issued hideal hids hdecode
  exact ⟨keyring, token, _, hload, hideal, hdecode, hbound.2 keyring sampleIssue hissue⟩

end FlowAI.Registry.Cursor
