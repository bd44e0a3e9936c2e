import FlowAI.Gateway.Confinement
import FlowAI.Gateway.MembershipFreshness

/-! # Authorisation of Proxied Requests

  What holds of every request that the Gateway sends to the State Registry on behalf of a
  client: its bearer was signed here and recorded for the operator and the team that are
  forwarded, the access check found a live session whose membership maps to the team, and
  the trusted header fields are those of the token.

  RSA signatures are taken to be unforgeable: a presented signature verifies only on a
  text that this Gateway has signed.
-/

namespace FlowAI.Gateway

open FlowAI.Registry (isSpace trimSpace)

variable {name requestID sessionID : String} {child : ChildRequest}

variable {cfg : GatewayConfig} {s s' : GatewayState}

/-! ## Section 1: Forwarded header fields -/

theorem toUpper_of_not_ascii {c : Char} (h : 128 ≤ c.toNat) : c.toUpper = c := by
  unfold Char.toUpper
  refine dif_neg ?_
  rintro ⟨-, hle⟩
  have hle : c.toNat ≤ 122 := hle
  omega

theorem toLower_of_not_ascii {c : Char} (h : 128 ≤ c.toNat) : c.toLower = c := by
  unfold Char.toLower
  refine dif_neg ?_
  rintro ⟨-, hle⟩
  have hle : c.toNat ≤ 90 := hle
  omega

/-- Both spellings of a letter have the same small letter. -/
theorem toLower_recased (c : Char) : c.toUpper.toLower = c.toLower ∧ c.toLower.toLower = c.toLower := by
  by_cases h : c.toNat < 128
  · have hascii : ∀ n < 128, (Char.ofNat n).toUpper.toLower = (Char.ofNat n).toLower ∧
        (Char.ofNat n).toLower.toLower = (Char.ofNat n).toLower := by decide
    have hc := hascii c.toNat h
    rwa [Char.ofNat_toNat] at hc
  · have hge : 128 ≤ c.toNat := by omega
    rw [toUpper_of_not_ascii hge, toLower_of_not_ascii hge, toLower_of_not_ascii hge]
    exact ⟨rfl, rfl⟩

/-- Canonical spelling changes letters only in case. -/
@[simp] theorem lowerName_canonicalKey (name : String) :
    lowerName (canonicalKey name) = lowerName name := by
  have hchars : ∀ (upper : Bool) (cs : List Char),
      (canonicalChars upper cs).map Char.toLower = cs.map Char.toLower := by
    intro upper cs
    induction cs generalizing upper with
    | nil => rfl
    | cons c cs ih =>
      obtain ⟨hup, hlow⟩ := toLower_recased c
      cases upper <;> simp [canonicalChars, ih, hup, hlow]
  rw [lowerName, canonicalKey, String.toList_ofList, hchars]
  rfl

namespace Header

@[simp] theorem lookup_set (h : Header) (name value k : String) :
    StrMap.lookup (h.set name value) k = if canonicalKey name = k then some [value] else h.lookup k :=
  StrMap.lookup_insert

variable {P : List Char → Prop} {r : Proxied} {l : GatewayLabel} {context : TokenContext}
  {token : WorkingToken}

/-- What all fields of a header satisfy, all fields of a larger one do if what is added does. -/
theorem forall_add {h : Header} {value : String}
    (hh : ∀ k v, h.lookup k = some v → P (lowerName k)) (hname : P (lowerName name)) :
    ∀ k v, StrMap.lookup (h.add name value) k = some v → P (lowerName k) := by
  intro k v hk
  rw [add, StrMap.lookup_insert] at hk
  split_ifs at hk with hkey
  · rw [← hkey, lowerName_canonicalKey]
    exact hname
  · exact hh k v hk

/-- Every copied field has a name that the filter lets through. -/
theorem forall_addAll (source : Header) {keep : String → Bool}
    (hkeep : ∀ name, keep name = true → P (lowerName name)) :
    ∀ k v, StrMap.lookup (Header.addAll .empty source keep) k = some v → P (lowerName k) := by
  refine List.foldlRecOn (motive := fun h => ∀ k v, StrMap.lookup h k = some v → P (lowerName k))
    _ _ (by simp) ?_
  intro h hh e _
  split_ifs with he
  · exact List.foldlRecOn
      (motive := fun h => ∀ k v, StrMap.lookup h k = some v → P (lowerName k))
      _ _ hh (fun _ hh _ _ => forall_add hh (hkeep e.1 he))
  · exact hh

end Header

/-- The header fields that identify the caller to the State Registry are those of the
    token, each with one value, and no credential of the client is among the fields. -/
structure TrustedFields (claims : Claims) (requestID : String) (h : Header) : Prop where
  operatorID : h.lookup (canonicalKey "X-FlowAI-Operator-ID") = some [claims.operatorID]
  teamID : h.lookup (canonicalKey "X-FlowAI-Team-ID") = some [claims.teamID]
  requestID : h.lookup (canonicalKey "X-FlowAI-Request-ID") = some [requestID]
  others : ∀ k v, h.lookup k = some v → flowAIPrefix.isPrefixOf (lowerName k) = true →
    k = canonicalKey "X-FlowAI-Operator-ID" ∨ k = canonicalKey "X-FlowAI-Team-ID" ∨
    k = canonicalKey "X-FlowAI-Request-ID" ∨
    (k = canonicalKey "X-FlowAI-Team-Name" ∧ ∃ name, claims.teamName = some name ∧ v = [name])
  credentials : ∀ k v, h.lookup k = some v →
    lowerName k ≠ "authorization".toList ∧ lowerName k ≠ "cookie".toList

/-- Names that may be copied from a client. -/
def Copied (lower : List Char) : Prop :=
  lower ≠ "authorization".toList ∧ lower ≠ "cookie".toList ∧ flowAIPrefix.isPrefixOf lower = false

theorem copied_of_forwardedREST (h : forwardedREST name = true) :
    Copied (lowerName name) := by
  simp only [forwardedREST, Bool.not_eq_true', Bool.or_eq_false_iff, decide_eq_false_iff_not] at h
  exact ⟨h.1.1.1, h.1.1.2, h.1.2⟩

theorem copied_of_forwardedWebSocket (h : forwardedWebSocket name = true) :
    Copied (lowerName name) := by
  simp only [forwardedWebSocket, Bool.not_eq_true', Bool.or_eq_false_iff, decide_eq_false_iff_not] at h
  exact ⟨h.1.1.1.1.1, h.1.1.1.1.2, h.1.1.2⟩

theorem trustedFields_trustedHeader {h : Header}
    (hcopied : ∀ k v, h.lookup k = some v → Copied (lowerName k)) (claims : Claims)
    (requestID : String) : TrustedFields claims requestID (trustedHeader h claims requestID) := by
  -- the field names in their canonical spelling
  have hop : canonicalKey "X-FlowAI-Operator-ID" = "X-Flowai-Operator-Id" := by decide +kernel
  have hteam : canonicalKey "X-FlowAI-Team-ID" = "X-Flowai-Team-Id" := by decide +kernel
  have hreq : canonicalKey "X-FlowAI-Request-ID" = "X-Flowai-Request-Id" := by decide +kernel
  have hname : canonicalKey "X-FlowAI-Team-Name" = "X-Flowai-Team-Name" := by decide +kernel
  have hlookup : ∀ k, (trustedHeader h claims requestID).lookup k =
      if "X-Flowai-Team-Name" = k ∧ claims.teamName.isSome then claims.teamName.map (fun n => [n])
      else if "X-Flowai-Request-Id" = k then some [requestID]
      else if "X-Flowai-Team-Id" = k then some [claims.teamID]
      else if "X-Flowai-Operator-Id" = k then some [claims.operatorID] else h.lookup k := by
    intro k
    unfold trustedHeader
    cases hteamName : claims.teamName with
    | none => simp [hop, hteam, hreq]
    | some name => simp [hop, hteam, hreq, hname]
  refine ⟨?_, ?_, ?_, ?_, ?_⟩
  · rw [hlookup, hop]
    simp
  · rw [hlookup, hteam]
    simp
  · rw [hlookup, hreq]
    simp
  · intro k v hk hprefix
    rw [hlookup] at hk
    rw [hop, hteam, hreq, hname]
    split_ifs at hk with h₁ h₂ h₃ h₄
    · obtain ⟨name, hsome⟩ := Option.isSome_iff_exists.mp h₁.2
      rw [hsome] at hk
      cases hk
      exact .inr (.inr (.inr ⟨h₁.1.symm, name, hsome, rfl⟩))
    · exact .inr (.inr (.inl h₂.symm))
    · exact .inr (.inl h₃.symm)
    · exact .inl h₄.symm
    · -- a copied field never has the prefix
      rw [(hcopied k v hk).2.2] at hprefix
      cases hprefix
  · intro k v hk
    rw [hlookup] at hk
    split_ifs at hk with h₁ h₂ h₃ h₄
    · rw [← h₁.1]
      decide +kernel
    · rw [← h₂]
      decide +kernel
    · rw [← h₃]
      decide +kernel
    · rw [← h₄]
      decide +kernel
    · exact ⟨(hcopied k v hk).1, (hcopied k v hk).2.1⟩

theorem trustedFields_forwarded {claims : Claims}
    (h : forwarded cfg r claims requestID = .ok child) :
    TrustedFields claims requestID child.header := by
  unfold forwarded at h
  split_ifs at h
  · simp only [forwardWebSocket, Check.bind_eq_ok, Check.need_eq_ok, Check.pure_eq_ok] at h
    obtain ⟨_, _, _, _, rfl⟩ := h
    exact trustedFields_trustedHeader
      (Header.forall_addAll r.request.header fun _ => copied_of_forwardedWebSocket) claims requestID
  · simp only [forwardREST, Check.bind_eq_ok, Check.need_eq_ok, Check.pure_eq_ok] at h
    obtain ⟨_, _, _, _, _, _, rfl⟩ := h
    exact trustedFields_trustedHeader
      (Header.forall_addAll r.request.header fun _ => copied_of_forwardedREST) claims requestID

/-! ## Section 2: Access checks -/

/-- What the tables say at an access check that passes: the token is recorded for the
    operator and the team, its session is there, neither has expired, and the session
    observes an OIDC team that is mapped to the team. -/
structure Permitted (cfg : GatewayConfig) (db : Db) (claims : Claims) (checkedAt : Int)
    (token : TokenRow) (session : SessionRow) (observation : ObservationRow) (mapping : MappingRow) :
    Prop where
  recorded : token ∈ db.tokens.rows ∧ token.jtiHash = cfg.sha256 claims.jti ∧
    token.operatorID = claims.operatorID ∧ token.teamID = claims.teamID
  inForce : Time.toMicros checkedAt < token.expiresAt
  live : session ∈ db.sessions.rows ∧ session.sessionHash = token.sessionHash ∧
    Time.toMicros checkedAt < session.expiresAt
  observed : observation ∈ db.observations.rows ∧ observation.sessionHash = session.sessionHash
  mapped : mapping ∈ db.mappings.rows ∧ mapping.issuer = session.issuer ∧
    mapping.oidcTeamID = observation.oidcTeamID ∧ mapping.teamID = claims.teamID

theorem permitted_of_check (hs : Coherent s.store) {claims : Claims}
    (h : validateTokenAccess cfg.sha256 s.store.db claims.operatorID claims.teamID claims.jti s.now =
      .ok ()) :
    ∃ token session observation mapping,
      Permitted cfg s.store.db claims s.now token session observation mapping := by
  obtain ⟨token, ht, session, hsession, access, ha, hjti, hop, hteam, hhash, hahash, hateam, hexp,
    hlive⟩ := validateTokenAccess_eq_ok h
  obtain ⟨owner, howner, hissuer, ⟨o, ho, hohash, hoid⟩, m, hm, hmteam⟩ := hs.granted access ha
  -- the session of the access row is the session of the token
  have hsame : owner = session := by
    have hlookup : s.store.db.sessions.lookup session.sessionHash = some session :=
      Table.lookup_key hsession
    rw [hahash, hlookup] at howner
    exact (Option.some.inj howner).symm
  subst hsame
  have hkey : (m.issuer, m.oidcTeamID) = (access.mappingIssuer, access.mappingOidcTeamID) :=
    Table.key_of_lookup hm
  obtain ⟨hmissuer, hmid⟩ := Prod.mk.inj hkey
  exact ⟨token, owner, o, m, ⟨ht, hjti, hop, hteam⟩, hexp, ⟨hsession, hhash, hlive⟩,
    ⟨ho, hohash.trans hahash⟩, ⟨Table.mem_of_lookup hm, hmissuer.trans hissuer,
      hmid.trans hoid.symm, hmteam.trans hateam⟩⟩

/-! ## Section 3: The invariant -/

/-- A presented signature verifies only on a text that was signed. -/
def SignatureUnforged (cfg : GatewayConfig) (s : GatewayState) (_ : GatewayLabel) : Prop :=
  ∀ id r, s.requests id = some r → ∀ headerPart claimsPart signaturePart signature,
    splitDots r.bearer.toList = [headerPart, claimsPart, signaturePart] →
    base64UrlDecode signaturePart = some signature →
    cfg.signer.rsa.verify (utf8Encode (headerPart ++ '.' :: claimsPart)) signature = true →
    ∃ c ∈ s.signed, headerPart ++ '.' :: claimsPart = cfg.signer.signedText c

/-- The Gateway, with clients that cannot forge signatures. -/
def trustedGateway (cfg : GatewayConfig) : System GatewayState GatewayLabel :=
  (gateway cfg).restrict (SignatureUnforged cfg)

/-- The bearer carries claims that were signed, and is in force at an instant. -/
structure Genuine (cfg : GatewayConfig) (signed : List Claims) (bearer : String) (claims : Claims)
    (verifiedAt : Int) : Prop where
  signed : claims ∈ signed
  bearer : tokenInput bearer = some (utf8Encode (cfg.signer.signedText claims))
  inForce : unixSeconds verifiedAt < claims.expiresAt

theorem Genuine.mono {signed signed' : List Claims} {bearer : String} {claims : Claims}
    {verifiedAt : Int} (h : Genuine cfg signed bearer claims verifiedAt) (hsub : signed ⊆ signed') :
    Genuine cfg signed' bearer claims verifiedAt :=
  ⟨hsub h.signed, h.bearer, h.inForce⟩

/-- A bearer that `Verify` accepts is genuine if signatures are not forged. -/
theorem genuine_of_verify {id : Nat} (hunforged : SignatureUnforged cfg s l)
    (hfound : s.requests id = some r) {claims : Claims}
    (h : cfg.signer.verify r.bearer s.now = some claims) :
    Genuine cfg s.signed r.bearer claims s.now := by
  obtain ⟨headerPart, claimsPart, signaturePart, signature, hv⟩ := Signer.verify_eq_some.mp h
  obtain ⟨c, hc, htext⟩ := hunforged id r hfound _ _ _ _ hv.parts hv.decoded hv.signed
  have hinput : tokenInput r.bearer = some (utf8Encode (cfg.signer.signedText c)) := by
    rw [tokenInput, hv.parts, ← htext]
  have hclaims : claims = c := Signer.claims_of_signed h hinput
  subst hclaims
  refine ⟨hc, hinput, ?_⟩
  have hadmissible := hv.admissible
  simp only [Claims.admissible, Bool.and_eq_true, decide_eq_true_eq] at hadmissible
  exact hadmissible.1.2

structure Trusted (cfg : GatewayConfig) (s : GatewayState) : Prop where
  /-- A recorded token was signed for its operator and its team. -/
  tokens : ∀ t ∈ s.store.db.tokens.rows, ∃ c ∈ s.signed, cfg.sha256 c.jti = t.jtiHash ∧
    c.operatorID = t.operatorID ∧ c.teamID = t.teamID
  /-- So was a token that is about to be recorded. -/
  pending : ∀ id sessionID teamID context token,
    s.issues id = some ⟨sessionID, teamID, .signed context token⟩ → ∃ c ∈ s.signed,
      c.jti = token.jti ∧ c.operatorID = context.operatorID ∧ c.teamID = context.teamID
  drawn : ∀ c ∈ s.signed, c.jti ∈ s.drawn
  distinct : ∀ c ∈ s.signed, ∀ c' ∈ s.signed, cfg.sha256 c.jti = cfg.sha256 c'.jti → c = c'
  verified : ∀ id r claims verifiedAt, s.requests id = some r → r.stage = .verified claims verifiedAt →
    Genuine cfg s.signed r.bearer claims verifiedAt
  authenticated : ∀ id r claims verifiedAt checkedAt db, s.requests id = some r →
    r.stage = .authenticated claims verifiedAt checkedAt db →
    Genuine cfg s.signed r.bearer claims verifiedAt ∧
    ∃ token session observation mapping,
      Permitted cfg db claims checkedAt token session observation mapping
  contacts : ∀ c ∈ s.contacts, Genuine cfg s.signed c.bearer c.claims c.verifiedAt ∧
    (∃ token session observation mapping,
      Permitted cfg c.db c.claims c.checkedAt token session observation mapping) ∧
    TrustedFields c.claims c.requestID c.child.header

theorem trusted_initial (now : Int) : Trusted cfg (.initial now) where
  tokens := by simp [GatewayState.initial, StoreState.empty, Db.empty]
  pending := by simp [GatewayState.initial]
  drawn := by simp [GatewayState.initial]
  distinct := by simp [GatewayState.initial]
  verified := by simp [GatewayState.initial]
  authenticated := by simp [GatewayState.initial]
  contacts := by simp [GatewayState.initial]

/-! ### Steps that write no token -/

/-- No token is added. -/
def KeepsTokens (a b : StoreState) : Prop := ∀ t ∈ b.db.tokens.rows, t ∈ a.db.tokens.rows

theorem Quiet.keepsTokens {a b : StoreState} (ha : Coherent a) (h : Quiet cfg a b) :
    KeepsTokens a b := by
  intro t ht
  rcases h with rfl | ⟨l, hquiet, hstep⟩
  · exact ht
  · cases store_step_effect ha hstep with
    | mappings _ => exact ht
    | tokens _ _ => cases hquiet
    | deleted => exact (Table.mem_delete.mp ht).1
    | observed _ _ _ _ _ => cases hquiet
    | pending _ => exact ht

/-- Neither does a membership write add a token. -/
theorem keepsTokens_finish (hs : Coherent s.store) {write : MembershipWrite}
    {visible : Table mappingSchema} (hready : s.readyWrite cfg sessionID = some (write, visible)) :
    KeepsTokens s.store (s.finish cfg write visible).store := by
  intro t ht
  rcases finish_cases hs hready with ⟨session, db', hwrote, -, -, -, hfinish⟩ | hfinish
  · rw [hfinish] at ht
    dsimp only at ht
    rw [hwrote.tokens] at ht
    exact ht
  · rw [hfinish] at ht
    exact ht

theorem Trusted.store (hs : Trusted cfg s) {store : StoreState} (h : KeepsTokens s.store store) :
    Trusted cfg { s with store } :=
  { hs with tokens := fun t ht => hs.tokens t (h t ht) }

theorem Trusted.draw (hs : Trusted cfg s) (id : String) :
    Trusted cfg { s with drawn := id :: s.drawn } :=
  { hs with drawn := fun c hc => List.mem_cons_of_mem _ (hs.drawn c hc) }

theorem Trusted.setIssue (hs : Trusted cfg s) (id : Nat) {new : Option Issue}
    (hnew : ∀ i, new = some i → ∀ context token, i.stage ≠ .signed context token) :
    Trusted cfg { s with issues := Function.update s.issues id new } := by
  refine { hs with pending := ?_ }
  intro id' sessionID teamID context token hi
  rcases update_eq_some hi with ⟨-, hi⟩ | ⟨-, hi⟩
  · exact absurd rfl (hnew _ hi context token)
  · exact hs.pending id' sessionID teamID context token hi

theorem Trusted.setRequest (hs : Trusted cfg s) (id : Nat) {new : Option Proxied}
    (hverified : ∀ r claims verifiedAt, new = some r → r.stage = .verified claims verifiedAt →
      Genuine cfg s.signed r.bearer claims verifiedAt)
    (hauthenticated : ∀ r claims verifiedAt checkedAt db, new = some r →
      r.stage = .authenticated claims verifiedAt checkedAt db →
      Genuine cfg s.signed r.bearer claims verifiedAt ∧ ∃ token session observation mapping,
        Permitted cfg db claims checkedAt token session observation mapping) :
    Trusted cfg (s.setRequest id new) := by
  refine { hs with verified := ?_, authenticated := ?_ }
  · intro id' r claims verifiedAt hr hstage
    rcases update_eq_some hr with ⟨-, hr⟩ | ⟨-, hr⟩
    · exact hverified r claims verifiedAt hr hstage
    · exact hs.verified id' r claims verifiedAt hr hstage
  · intro id' r claims verifiedAt checkedAt db hr hstage
    rcases update_eq_some hr with ⟨-, hr⟩ | ⟨-, hr⟩
    · exact hauthenticated r claims verifiedAt checkedAt db hr hstage
    · exact hs.authenticated id' r claims verifiedAt checkedAt db hr hstage

theorem Trusted.dropRequest (hs : Trusted cfg s) (id : Nat) : Trusted cfg (s.setRequest id none) :=
  hs.setRequest id (by simp) (by simp)

/-- Signing adds claims whose identifier was never drawn. -/
theorem Trusted.sign (hs : Trusted cfg s) {id : Nat} {jti teamID : String}
    (hfresh : s.fresh cfg jti = true)
    (hsign : cfg.signer.sign context.operatorID context.teamID context.teamName jti s.now =
      .ok token) :
    Trusted cfg { s.setIssue id (some ⟨sessionID, teamID, .signed context token⟩) with
      drawn := jti :: s.drawn
      signed := cfg.signer.claims context.operatorID context.teamID context.teamName jti s.now ::
        s.signed } := by
  have htoken : token.jti = jti := by
    simp only [Signer.sign, Check.bind_eq_ok, Check.ensure_eq_ok, Check.pure_eq_ok] at hsign
    obtain ⟨-, -, rfl⟩ := hsign
    rfl
  have hnew : ∀ c ∈ s.signed, cfg.sha256 c.jti ≠ cfg.sha256 jti := by
    intro c hc
    simpa using List.all_eq_true.mp hfresh c.jti (hs.drawn c hc)
  refine ⟨?_, ?_, ?_, ?_, ?_, ?_, ?_⟩
  · intro t ht
    obtain ⟨c, hc, hrest⟩ := hs.tokens t ht
    exact ⟨c, List.mem_cons_of_mem _ hc, hrest⟩
  · intro id' sessionID' teamID' context' token' hi
    rcases update_eq_some hi with ⟨-, hi⟩ | ⟨-, hi⟩
    · cases hi
      exact ⟨_, List.mem_cons_self, htoken.symm, rfl, rfl⟩
    · obtain ⟨c, hc, hrest⟩ := hs.pending id' sessionID' teamID' context' token' hi
      exact ⟨c, List.mem_cons_of_mem _ hc, hrest⟩
  · intro c hc
    rcases List.mem_cons.mp hc with rfl | hc
    · exact List.mem_cons_self
    · exact List.mem_cons_of_mem _ (hs.drawn c hc)
  · intro c hc c' hc' hhash
    rcases List.mem_cons.mp hc with rfl | hc
    · rcases List.mem_cons.mp hc' with rfl | hc'
      · rfl
      · exact absurd hhash.symm (hnew c' hc')
    · rcases List.mem_cons.mp hc' with rfl | hc'
      · exact absurd hhash (hnew c hc)
      · exact hs.distinct c hc c' hc' hhash
  · intro id' r claims verifiedAt hr hstage
    exact (hs.verified id' r claims verifiedAt hr hstage).mono (List.subset_cons_self _ _)
  · intro id' r claims verifiedAt checkedAt db hr hstage
    obtain ⟨hgenuine, hpermitted⟩ := hs.authenticated id' r claims verifiedAt checkedAt db hr hstage
    exact ⟨hgenuine.mono (List.subset_cons_self _ _), hpermitted⟩
  · intro c hc
    obtain ⟨hgenuine, hrest⟩ := hs.contacts c hc
    exact ⟨hgenuine.mono (List.subset_cons_self _ _), hrest⟩

/-- What is recorded is the token that was signed. -/
theorem Trusted.record (hs : Trusted cfg s) (hcoherent : Coherent s.store) {id : Nat}
    {teamID : String} {store : StoreState}
    (hfound : s.issues id = some ⟨sessionID, teamID, .signed context token⟩)
    (hstep : s.store.next cfg.sha256 (.recordToken context token.jti token.issuedAt
      token.expiresAt) = some store) : Trusted cfg { s with store } := by
  have hsigned := hs.pending id sessionID teamID context token hfound
  refine { hs with tokens := ?_ }
  intro t ht
  cases store_step_effect hcoherent hstep with
  | mappings _ => exact hs.tokens t ht
  | tokens hinserted _ =>
    dsimp only at ht
    rw [Table.rows_insert hinserted] at ht
    rcases List.mem_append.mp ht with ht | ht
    · exact hs.tokens t ht
    · rw [List.mem_singleton] at ht
      subst ht
      obtain ⟨c, hc, hjti, hop, hteam⟩ := hsigned
      exact ⟨c, hc, by rw [hjti], hop, hteam⟩
  | pending _ => exact hs.tokens t ht

theorem Trusted.effect (hs : Trusted cfg s) (hcoherent : Coherent s.store)
    (hunforged : SignatureUnforged cfg s l) (h : GatewayEffect cfg s l s') : Trusted cfg s' := by
  cases h with
  | tick d => exact { hs with }
  | quiet hstep => exact hs.store (hstep.keepsTokens hcoherent)
  | login _ hbegan =>
    refine (hs.draw _).store ?_
    intro t ht
    simp only [StoreState.next] at hbegan
    split_ifs at hbegan
    cases hbegan
    exact ht
  | created hready =>
    exact { hs.store (keepsTokens_finish hcoherent hready) with }
  | issue hstep hadvances =>
    exact (hs.setIssue _ (fun i hi => (hadvances i hi).1)).store (hstep.keepsTokens hcoherent)
  | @replaced id _ _ _ _ _ _ new _ hready hnew =>
    have hidle : ∀ i, new = some i → ∀ context token, i.stage ≠ .signed context token := by
      intro i hi context token
      simp [hnew i hi]
    exact { (hs.setIssue id hidle).store (keepsTokens_finish hcoherent hready) with }
  | signed hfresh hsign => exact hs.sign hfresh hsign
  | recorded hfound hstep => exact (hs.record hcoherent hfound hstep).setIssue _ (by simp)
  | received hnew =>
    refine hs.setRequest _ ?_ ?_
    · intro r claims verifiedAt hr hstage
      rw [hnew r hr] at hstage
      cases hstage
    · intro r claims verifiedAt checkedAt db hr hstage
      rw [hnew r hr] at hstage
      cases hstage
  | verified hfound hverify =>
    refine hs.setRequest _ ?_ ?_
    · intro r claims verifiedAt hr hstage
      cases hr
      cases hstage
      exact genuine_of_verify hunforged hfound hverify
    · intro r claims verifiedAt checkedAt db hr hstage
      cases hr
      cases hstage
  | checked hfound hcheck =>
    refine hs.setRequest _ ?_ ?_
    · intro r claims verifiedAt hr hstage
      cases hr
      cases hstage
    · intro r claims verifiedAt checkedAt db hr hstage
      cases hr
      cases hstage
      have hgenuine := hs.verified _ _ _ _ hfound rfl
      exact ⟨hgenuine, permitted_of_check hcoherent hcheck⟩
  | @sent id _ _ _ _ _ _ _ hfound hstage hchild =>
    refine { hs.dropRequest id with contacts := ?_ }
    intro c hc
    rcases List.mem_cons.mp hc with rfl | hc
    · obtain ⟨hgenuine, hpermitted⟩ := hs.authenticated _ _ _ _ _ _ hfound hstage
      exact ⟨hgenuine, hpermitted, trustedFields_forwarded hchild⟩
    · exact hs.contacts c hc
  | refused => exact hs.dropRequest _

theorem trusted_reachable (h : (trustedGateway cfg).Reachable s) : Trusted cfg s := by
  refine System.Reachable.invariant ?_ ?_ h
  · rintro _ ⟨now, rfl⟩
    exact trusted_initial now
  · intro s l s' hr hs hstep
    exact hs.effect (coherent_store hr.of_restrict) hstep.2 (gateway_step_effect hstep.1)

/-! ## Section 4: Every contact is authorised -/

/-- Whenever the Gateway has sent a request to the State Registry: the bearer carries
    claims that it signed itself; these and no other claims were recorded, for the operator
    and the team that are forwarded; at the access check the token and its session were in
    force, and the session's membership held an OIDC team mapped to the team; and the
    forwarded fields are trusted ones. -/
theorem contact_authorised (h : (trustedGateway cfg).Reachable s) : ∀ c ∈ s.contacts,
    (c.claims ∈ s.signed ∧
      tokenInput c.bearer = some (utf8Encode (cfg.signer.signedText c.claims)) ∧
      unixSeconds c.verifiedAt < c.claims.expiresAt) ∧
    (∃ token session observation mapping,
      Permitted cfg c.db c.claims c.checkedAt token session observation mapping ∧
      ∀ claims ∈ s.signed, cfg.sha256 claims.jti = token.jtiHash → claims = c.claims) ∧
    TrustedFields c.claims c.requestID c.child.header := by
  intro c hc
  have hs := trusted_reachable h
  obtain ⟨hgenuine, ⟨token, session, observation, mapping, hpermitted⟩, hfields⟩ :=
    hs.contacts c hc
  refine ⟨⟨hgenuine.signed, hgenuine.bearer, hgenuine.inForce⟩,
    ⟨token, session, observation, mapping, hpermitted, ?_⟩, hfields⟩
  intro claims hclaims hhash
  exact hs.distinct claims hclaims c.claims hgenuine.signed
    (hhash.trans hpermitted.recorded.2.1)

/-! ### A token is issued and used -/

/-- Runs without proxied requests need no assumption on signatures. -/
theorem trustedGateway_of_no_proxy {ls : List GatewayLabel} (hr : (trustedGateway cfg).Reachable s)
    (hnone : ∀ id, s.requests id = none) (hls : ∀ l ∈ ls, ∀ id pl, l ≠ .proxy id pl)
    (h : System.follow (GatewayState.next cfg) s ls = some s') :
    (trustedGateway cfg).Reachable s' ∧ ∀ id, s'.requests id = none := by
  induction ls generalizing s with
  | nil =>
    cases h
    exact ⟨hr, hnone⟩
  | cons l ls ih =>
    rw [System.follow, List.foldlM_cons, Option.bind_eq_bind, Option.bind_eq_some_iff] at h
    obtain ⟨s₁, hfirst, hrest⟩ := h
    have hguard : SignatureUnforged cfg s l := by
      intro id r hrequest
      rw [hnone id] at hrequest
      cases hrequest
    have hsame : s₁.requests = s.requests := by
      have hl := hls l List.mem_cons_self
      cases gateway_step_effect hfirst with
      | received | verified | checked | sent | refused => exact absurd rfl (hl _ _)
      | _ => rfl
    exact ih (.step l hr ⟨hfirst, hguard⟩) (by rw [hsame]; exact hnone)
      (fun l' hl' => hls l' (List.mem_cons_of_mem _ hl')) hrest

/-- All requests under way present one token. -/
def Presents (token : String) (s : GatewayState) : Prop :=
  ∀ id r, s.requests id = some r → r.bearer = token

theorem Presents.setRequest {token : String} (h : Presents token s) (id : Nat)
    (hr : r.bearer = token) : Presents token (s.setRequest id (some r)) := by
  intro id' r' hr'
  rcases update_eq_some hr' with ⟨-, hr'⟩ | ⟨-, hr'⟩
  · cases hr'
    exact hr
  · exact h id' r' hr'

/-- Presenting a token that was issued forges nothing. -/
theorem Presents.unforged {claims : Claims} (h : Presents (cfg.signer.compactToken claims) s)
    (hsigned : claims ∈ s.signed) (l : GatewayLabel) : SignatureUnforged cfg s l := by
  intro id r hr headerPart claimsPart signaturePart signature hparts _ _
  rw [h id r hr, Signer.splitDots_compactToken] at hparts
  cases hparts
  exact ⟨claims, hsigned, rfl⟩

theorem isSpace_compactToken (signer : Signer) (claims : Claims) :
    ∀ c ∈ (signer.compactToken claims).toList, isSpace c = false := by
  have hbase : ∀ (bytes : Bytes) (c : Char), c ∈ base64UrlEncode bytes →
      isSpace c = false := by
    intro bytes c hc
    obtain ⟨n, rfl⟩ := mem_base64UrlEncode hc
    by_cases hn : n < 64
    · have hall : ∀ i : Fin 64, isSpace (base64UrlChar i) = false := by decide
      exact hall ⟨n, hn⟩
    · have hlast : base64UrlChar n = '_' := by
        simp only [base64UrlChar]
        repeat rw [if_neg (by omega)]
      rw [hlast]
      decide
  intro c hc
  rw [Signer.compactToken, String.toList_ofList, Signer.signedText] at hc
  simp only [List.mem_append, List.mem_cons] at hc
  rcases hc with (hc | rfl | hc) | rfl | hc
  · exact hbase _ c hc
  · decide
  · exact hbase _ c hc
  · decide
  · exact hbase _ c hc

/-- A token without spaces is taken from the header field as it was put there. -/
theorem authorizationBearer_set (h : Header) {token : String}
    (hspace : ∀ c ∈ token.toList, isSpace c = false) :
    authorizationBearer (h.set "Authorization" ("Bearer " ++ token)) = some token := by
  have hget : Header.get (h.set "Authorization" ("Bearer " ++ token)) "Authorization" =
      "Bearer " ++ token := by
    simp [Header.get]
  have htrim : trimSpace token = token := by
    have hleft : token.toList.dropWhile isSpace = token.toList :=
      List.dropWhile_eq_self_iff.mpr (fun hne => by simp [hspace _ (List.getElem_mem hne)])
    have hright : token.toList.rdropWhile isSpace = token.toList :=
      List.rdropWhile_eq_self_iff.mpr (fun hne => by simp [hspace _ (List.getLast_mem hne)])
    rw [trimSpace, hleft, hright, String.ofList_toList]
  have hprefix : bearerPrefix.isPrefixOf ("Bearer " ++ token).toList = true := by
    rw [String.toList_append, List.isPrefixOf_iff_prefix]
    exact List.prefix_append _ _
  have hdrop : ("Bearer " ++ token).toList.drop bearerPrefix.length = token.toList := by
    rw [String.toList_append]
    exact List.drop_left
  rw [authorizationBearer, hget, if_pos hprefix, hdrop, String.ofList_toList, htrim]

section Served

variable {id : Nat} {request : ClientRequest} {url : UrlPath} {bearer : String} {claims : Claims}
variable {verifiedAt : Int}

theorem next_receive (hfound : s.requests id = none) (hurl : requestURL request = some url)
    (hroute : route request.method url = .handler .ui)
    (hbearer : requestBearer cfg request = some bearer) :
    s.next cfg (.proxy id (.receive request)) =
      some (s.setRequest id (some ⟨request, url, bearer, .received⟩)) := by
  simp only [GatewayState.next, hfound, proxyNext, hurl, hroute, if_true, hbearer, Option.map_some]

theorem next_verify (hfound : s.requests id = some ⟨request, url, bearer, .received⟩)
    (hne : bearer ≠ "") (hverify : cfg.signer.verify bearer s.now = some claims) :
    s.next cfg (.proxy id .verify) =
      some (s.setRequest id (some ⟨request, url, bearer, .verified claims s.now⟩)) := by
  simp only [GatewayState.next, hfound, proxyNext, if_neg hne, hverify, Option.map_some]

theorem next_check (hfound : s.requests id = some ⟨request, url, bearer, .verified claims verifiedAt⟩)
    (hcheck : validateTokenAccess cfg.sha256 s.store.db claims.operatorID claims.teamID claims.jti
      s.now = .ok ()) :
    s.next cfg (.proxy id .check) = some (s.setRequest id
      (some ⟨request, url, bearer, .authenticated claims verifiedAt s.now s.store.db⟩)) := by
  simp only [GatewayState.next, hfound, proxyNext, hcheck]

theorem next_forward {checkedAt : Int} {db : Db} (hfound : s.requests id = some r)
    (hstage : r.stage = .authenticated claims verifiedAt checkedAt db)
    (hchild : forwarded cfg r claims requestID = .ok child) :
    s.next cfg (.proxy id (.forward requestID)) = some { s.setRequest id none with
      contacts := ⟨r.request, r.bearer, claims, verifiedAt, checkedAt, db, requestID, child⟩ ::
        s.contacts } := by
  simp only [GatewayState.next, hfound, proxyNext, hstage, hchild]

/-- Request `r` is under way with a token that was issued; the store, the clock and what was
    signed are those of `s₀`. -/
structure Serving (cfg : GatewayConfig) (claims : Claims) (s₀ s : GatewayState) (r : Proxied) :
    Prop where
  reachable : (trustedGateway cfg).Reachable s
  presents : Presents (cfg.signer.compactToken claims) s
  found : s.requests 0 = some r
  now : s.now = s₀.now
  store : s.store = s₀.store
  signed : s.signed = s₀.signed

theorem Serving.step {s₀ : GatewayState} (h : Serving cfg claims s₀ s r)
    (hsigned : claims ∈ s₀.signed) {r' : Proxied}
    (hnext : s.next cfg l = some (s.setRequest 0 (some r')))
    (hbearer : r'.bearer = cfg.signer.compactToken claims) :
    Serving cfg claims s₀ (s.setRequest 0 (some r')) r' where
  reachable := .step _ h.reachable ⟨hnext, h.presents.unforged (h.signed ▸ hsigned) _⟩
  presents := h.presents.setRequest 0 hbearer
  found := requests_setRequest _ _ _
  now := h.now
  store := h.store
  signed := h.signed

/-- A request with a token that is in force and permitted gets through. -/
theorem served_of_issued (hr : (trustedGateway cfg).Reachable s)
    (hnone : ∀ id, s.requests id = none) (hsigned : claims ∈ s.signed)
    (hurl : requestURL request = some url) (hroute : route request.method url = .handler .ui)
    (hbearer : requestBearer cfg request = some (cfg.signer.compactToken claims))
    (hverify : cfg.signer.verify (cfg.signer.compactToken claims) s.now = some claims)
    (hcheck : validateTokenAccess cfg.sha256 s.store.db claims.operatorID claims.teamID claims.jti
      s.now = .ok ())
    (hchild : ∀ stage, forwarded cfg ⟨request, url, cfg.signer.compactToken claims, stage⟩ claims
      requestID = .ok child) :
    ∃ s', (trustedGateway cfg).Reachable s' ∧ ∃ c ∈ s'.contacts, c.claims = claims ∧
      c.child = child := by
  have h₀ : Presents (cfg.signer.compactToken claims) s := by
    intro id r hid
    rw [hnone id] at hid
    cases hid
  have h₁ : Serving cfg claims s _ ⟨request, url, cfg.signer.compactToken claims, .received⟩ :=
    ⟨.step _ hr ⟨next_receive (hnone 0) hurl hroute hbearer, h₀.unforged hsigned _⟩,
      h₀.setRequest 0 rfl, requests_setRequest _ _ _, rfl, rfl, rfl⟩
  have h₂ := h₁.step hsigned (next_verify h₁.found (cfg.signer.compactToken_ne_empty claims)
    (h₁.now ▸ hverify)) rfl
  have h₃ := h₂.step hsigned (next_check h₂.found (by rw [h₂.now, h₂.store]; exact hcheck)) rfl
  exact ⟨_, .step _ h₃.reachable ⟨next_forward h₃.found rfl (hchild _),
    h₃.presents.unforged (h₃.signed ▸ hsigned) _⟩, _, List.mem_cons_self, rfl, rfl⟩

end Served

def sampleTrusted : GatewayConfig := { sampleGateway with membershipMaxAge := 1000 }

def sampleIssue : List GatewayLabel :=
  [.issue 0 (.start "session" "team_1"), .issue 0 .readMembership, .issue 0 .readContext,
    .issue 0 .skipPresentation, .issue 0 (.sign "jti_1"), .issue 0 .record]

def sampleIssued : Claims := sampleTrusted.signer.claims "oidc_1" "team_1" none "jti_1" 0

def sampleProxied : ClientRequest :=
  { sampleRequest "GET" "/ui/tasks" with
    header := Header.set .empty "Authorization" ("Bearer " ++
      sampleTrusted.signer.compactToken sampleIssued) }

theorem contact_authorised_sample : ∃ s, (trustedGateway sampleTrusted).Reachable s ∧
    ∃ c ∈ s.contacts, c.claims = sampleIssued ∧ c.claims ∈ s.signed ∧
      TrustedFields c.claims c.requestID c.child.header := by
  have hrun : (System.follow (GatewayState.next sampleTrusted) (.initial 0)
      (sampleSession ++ sampleIssue)).any (fun s => s.signed = [sampleIssued] ∧ s.now = 0 ∧
        validateTokenAccess sampleHash s.store.db "oidc_1" "team_1" "jti_1" 0 = .ok ()) = true := by
    decide +kernel
  obtain ⟨s, hs, hfacts⟩ := (Option.any_eq_true _ _).mp hrun
  rw [decide_eq_true_eq] at hfacts
  obtain ⟨hsigned, hnow, hcheck⟩ := hfacts
  obtain ⟨hreach, hnone⟩ := trustedGateway_of_no_proxy (.init ⟨0, rfl⟩) (fun _ => rfl)
    (by simp [sampleSession, sampleIssue]) hs
  have hbearer : requestBearer sampleTrusted sampleProxied =
      some (sampleTrusted.signer.compactToken sampleIssued) := by
    rw [requestBearer, if_neg (by simp [sampleTrusted, sampleGateway]),
      if_neg (by simp [sampleTrusted, sampleGateway])]
    exact authorizationBearer_set .empty (isSpace_compactToken _ _)
  have hverify : sampleTrusted.signer.verify (sampleTrusted.signer.compactToken sampleIssued) 0 =
      some sampleIssued := by
    have hadmissible : sampleIssued.admissible sampleTrusted.signer 0 = true := by decide +kernel
    exact Signer.verify_compactToken hadmissible
  have hurl : requestURL sampleProxied = some ⟨utf8Encode "/ui/tasks".toList, []⟩ := by
    decide +kernel
  have hroute : route sampleProxied.method ⟨utf8Encode "/ui/tasks".toList, []⟩ = .handler .ui := by
    decide +kernel
  have hmem : sampleIssued ∈ s.signed := by
    rw [hsigned]
    exact List.mem_singleton.mpr rfl
  have hchild : ∀ stage, forwarded sampleTrusted ⟨sampleProxied,
      ⟨utf8Encode "/ui/tasks".toList, []⟩, sampleTrusted.signer.compactToken sampleIssued, stage⟩
      sampleIssued "req_1" = .ok ⟨"GET", utf8Encode "/ui/tasks".toList, "",
        trustedHeader (Header.addAll .empty sampleProxied.header forwardedREST) sampleIssued
          "req_1"⟩ := by
    intro stage
    have hrest : sampleTrusted.isWebSocketUpgrade sampleProxied.header = false := rfl
    simp only [forwarded, hrest, Bool.false_eq_true, if_false, forwardREST, Check.bind_eq_ok,
      Check.need_eq_ok, Check.pure_eq_ok]
    exact ⟨⟨[], []⟩, rfl, ⟨utf8Encode "/ui/tasks".toList, []⟩, by decide +kernel,
      utf8Encode "/ui/tasks".toList, by decide +kernel, rfl⟩
  obtain ⟨s', hreach', c, hc, hclaims, -⟩ := served_of_issued hreach hnone hmem hurl hroute hbearer
    (hnow.symm ▸ hverify) (hnow.symm ▸ hcheck) hchild
  have hall := contact_authorised hreach' c hc
  exact ⟨s', hreach', c, hc, hclaims, hall.1.1, hall.2.2⟩

end FlowAI.Gateway
