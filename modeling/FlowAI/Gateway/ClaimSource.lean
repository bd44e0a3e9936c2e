import FlowAI.Gateway.Oidc

/-! # The Source of Team Claims

  With the claim source `userinfo` the team identifiers are to come from the UserInfo
  document and from nowhere else.  `Complete` and `Refresh` store that document into the
  map that already holds the claims of the ID token, so that a member which the document
  lacks is taken from the ID token.

  The main result says for every successful call when the identifiers are those of the
  document: exactly if the document itself has a `sub` and a member for the first token of
  the claim pointer.
-/

namespace FlowAI.Gateway

variable {ids : List String} {document : StrMap JsonText} {subject : String}
  {provider : OidcProvider}

/-! ## Section 1: What a membership is read from -/

theorem mapError_eq_ok {ε ε' α : Type} {f : ε → ε'} {x : Except ε α} {a : α} :
    x.mapError f = .ok a ↔ x = .ok a := by
  cases x <;> simp [Except.mapError]

namespace TeamClaimAdapter

variable {a : TeamClaimAdapter} {claims claims' : StrMap JsonText}

/-- Only the member of the first token is read of a document. -/
theorem normalize_congr (h : ∀ first rest, parsePointer a.claimPointer = .ok (first :: rest) →
      claims.lookup first = claims'.lookup first)
    (hpointer : parsePointer a.claimPointer ≠ .ok []) : a.normalize claims = a.normalize claims' := by
  have hresolve : resolvePointer claims a.claimPointer = resolvePointer claims' a.claimPointer := by
    unfold resolvePointer
    cases hparse : parsePointer a.claimPointer with
    | error e => rfl
    | ok tokens =>
      cases tokens with
      | nil => exact absurd hparse hpointer
      | cons first rest =>
        simp only [bind, Except.bind]
        rw [h first rest hparse]
  unfold normalize
  rw [hresolve]

/-- A membership was found behind the first token. -/
theorem lookup_of_normalize (h : a.normalize claims = .ok ids) {first : String} {rest : List String}
    (hparse : parsePointer a.claimPointer = .ok (first :: rest)) :
    (claims.lookup first).isSome := by
  simp only [normalize, Check.bind_eq_ok] at h
  obtain ⟨_, -, value, hvalue, -⟩ := h
  simp only [resolvePointer, Check.bind_eq_ok] at hvalue
  obtain ⟨tokens, htokens, hvalue⟩ := hvalue
  rw [hparse] at htokens
  cases htokens
  dsimp only at hvalue
  cases hlookup : claims.lookup first with
  | none =>
    rw [hlookup] at hvalue
    cases hvalue
  | some value => rfl

end TeamClaimAdapter

theorem splitOn_ne_nil (c : Char) (text : List Char) : text.splitOn c ≠ [] := by
  intro hnil
  have hjoin : [c].intercalate (text.splitOn c) = text := List.intercalate_splitOn c
  rw [hnil] at hjoin
  subst hjoin
  simp [List.splitOn] at hnil

/-- A pointer that parses has a first token. -/
theorem parsePointer_ne_nil (pointer : String) : parsePointer pointer ≠ .ok [] := by
  intro h
  unfold parsePointer at h
  split at h
  · rename_i rest _
    simp only [Check.bind_eq_ok, Check.pure_eq_ok, List.map_eq_nil_iff] at h
    obtain ⟨tokens, htokens, rfl⟩ := h
    cases hsplit : rest.splitOn '/' with
    | nil => exact splitOn_ne_nil '/' rest hsplit
    | cons part parts =>
      rw [hsplit, List.mapM_cons] at htokens
      simp only [Check.bind_eq_ok, Check.pure_eq_ok] at htokens
      obtain ⟨_, -, _, -, hcons⟩ := htokens
      cases hcons
  · cases h

/-- The document itself names the subject and gives the team identifiers. -/
def OwnMembership (a : TeamClaimAdapter) (document : StrMap JsonText) (subject : String)
    (ids : List String) : Prop :=
  stringClaim document "sub" = some subject ∧ a.normalize document = .ok ids

/-- The document has members of its own for the subject and for the start of the pointer. -/
def HasOwnMembers (a : TeamClaimAdapter) (document : StrMap JsonText) : Prop :=
  (document.lookup "sub").isSome ∧
    ∀ first rest, parsePointer a.claimPointer = .ok (first :: rest) → (document.lookup first).isSome

theorem OwnMembership.hasOwnMembers {a : TeamClaimAdapter}
    (h : OwnMembership a document subject ids) :
    HasOwnMembers a document := by
  obtain ⟨hsub, hids⟩ := h
  refine ⟨?_, fun first rest hparse => TeamClaimAdapter.lookup_of_normalize hids hparse⟩
  unfold stringClaim at hsub
  split at hsub
  · rename_i hlookup
    rw [hlookup]
    rfl
  · cases hsub

/-- A document stored over other claims. -/
structure StoredOver (members : List (String × JsonText)) (claims document : StrMap JsonText) :
    Prop where
  lookup : ∀ k, document.lookup k = ((JsonText.rawMap members).lookup k).or (claims.lookup k)

variable {members : List (String × JsonText)}

theorem StoredOver.own {claims : StrMap JsonText}
    (h : StoredOver members claims document) {k : String}
    (hk : ((JsonText.rawMap members).lookup k).isSome) :
    document.lookup k = (JsonText.rawMap members).lookup k := by
  rw [h.lookup]
  obtain ⟨v, hv⟩ := Option.isSome_iff_exists.mp hk
  rw [hv]
  rfl

/-- Among documents stored over other claims, the membership is the document's own exactly
    if the members that are read are. -/
theorem StoredOver.own_iff {a : TeamClaimAdapter}
    {claims : StrMap JsonText} (h : StoredOver members claims document)
    (hread : OwnMembership a document subject ids) :
    OwnMembership a (JsonText.rawMap members) subject ids ↔
      HasOwnMembers a (JsonText.rawMap members) := by
  constructor
  · exact OwnMembership.hasOwnMembers
  · rintro ⟨hsub, hfirst⟩
    have hnormalize : a.normalize document = a.normalize (JsonText.rawMap members) :=
      TeamClaimAdapter.normalize_congr (fun first rest hparse => h.own (hfirst first rest hparse))
        (parsePointer_ne_nil _)
    refine ⟨?_, hnormalize ▸ hread.2⟩
    rw [← hread.1, stringClaim, stringClaim, h.own hsub]

/-! ## Section 2: Inversion of the calls -/

theorem requireOK_eq_ok {what : String} {response : Option HttpResponse} {body : Option JsonText} :
    requireOK what response = .ok body ↔ response = some ⟨200, body⟩ := by
  simp only [requireOK, Check.bind_eq_ok, Check.need_eq_ok, Check.ensure_eq_ok, Check.pure_eq_ok]
  constructor
  · rintro ⟨r, rfl, _, hstatus, rfl⟩
    rw [← hstatus]
  · rintro rfl
    exact ⟨_, rfl, (), rfl, rfl⟩

/-- UserInfo answered with a document, which was stored over the claims at hand. -/
theorem userInfoClaims_eq_ok {accessToken : String} {claims : Option (StrMap JsonText)}
    (h : userInfoClaims provider accessToken claims subject = .ok document) :
    ∃ members, provider.userInfo accessToken = some ⟨200, some (.obj members)⟩ ∧
      StoredOver members (claims.getD .empty) document ∧
      stringClaim document "sub" = some subject := by
  simp only [userInfoClaims, Check.bind_eq_ok, Check.need_eq_ok, Check.ensure_eq_ok,
    Check.pure_eq_ok, requireOK_eq_ok] at h
  obtain ⟨body, hresponse, stored, hstored, _, hsub, rfl⟩ := h
  obtain ⟨value, rfl, hstored⟩ := Option.bind_eq_some_iff.mp hstored
  cases value with
  | obj members =>
    cases hstored
    exact ⟨members, hresponse, ⟨JsonText.lookup_foldl_insert members _⟩, hsub⟩
  | null =>
    cases hstored
    cases hsub
  | _ => cases hstored

theorem complete_eq_ok {cfg : FlowConfig} {sha256 : Bytes → Bytes}
    {pending : StrMap PendingAuthorization} {code state : String} {consumedAt now : Int}
    {identity : FlowIdentity}
    (h : (complete cfg sha256 provider pending code state consumedAt now).1 = .ok identity) :
    ∃ authorization tokens claims document,
      (consume pending state consumedAt).1 = some authorization ∧
      exchangeCode provider code authorization.pkceVerifier = .ok tokens ∧
      provider.verify tokens.idToken now = .ok claims ∧
      stringClaim claims "sub" = some identity.subject ∧
      claimDocument cfg provider tokens.accessToken claims identity.subject = .ok document ∧
      cfg.teamClaims.normalize document = .ok identity.oidcTeamIDs := by
  unfold complete at h
  split_ifs at h
  simp only [completeConsumed, Check.bind_eq_ok, Check.need_eq_ok, Check.ensure_eq_ok,
    Check.pure_eq_ok, mapError_eq_ok] at h
  obtain ⟨authorization, hconsume, tokens, htokens, claims, hclaims, _, -, subject, hsubject, _, -,
    document, hdocument, _, -, ids, hids, rfl⟩ := h
  exact ⟨authorization, tokens, claims, document, hconsume, htokens, hclaims, hsubject, hdocument,
    hids⟩

theorem refreshFlow_eq_ok {cfg : FlowConfig} {encoded : Bytes} {now : Int} {updated : Bytes}
    (h : refreshFlow cfg provider encoded subject now = .ok (ids, updated)) :
    ∃ stored state claims document, ProviderState.ofBytes encoded = some stored ∧
      refreshedClaims provider stored subject now = .ok (state, claims) ∧
      refreshDocument cfg provider state.accessToken claims subject = .ok document ∧
      cfg.teamClaims.normalize document = .ok ids := by
  simp only [refreshFlow, Check.bind_eq_ok, Check.need_eq_ok, Check.ensure_eq_ok, Check.pure_eq_ok,
    mapError_eq_ok, Prod.mk.injEq] at h
  obtain ⟨stored, hstored, _, -, ⟨state, claims⟩, hclaims, document, hdocument, _, hids, rfl, -⟩ := h
  exact ⟨stored, state, claims, document, hstored, hclaims, hdocument, hids⟩

/-! ## Section 3: Own membership -/

/-- With the claim source `userinfo`: whenever `Complete` or `Refresh` succeeds, UserInfo
    answered with a document, and the returned teams are those of the document alone, with
    its own `sub`, exactly if it has members of its own for `sub` and for the start of the
    claim pointer.  A refresh without a refresh token has no other claims at hand. -/
theorem userinfo_membership_own_iff {cfg : FlowConfig} (hsource : cfg.claimSource = .userinfo) :
    (∀ sha256 provider pending code state consumedAt now identity,
      (complete cfg sha256 provider pending code state consumedAt now).1 = .ok identity →
      ∃ authorization tokens members,
        (consume pending state consumedAt).1 = some authorization ∧
        exchangeCode provider code authorization.pkceVerifier = .ok tokens ∧
        provider.userInfo tokens.accessToken = some ⟨200, some (.obj members)⟩ ∧
        (OwnMembership cfg.teamClaims (JsonText.rawMap members) identity.subject
            identity.oidcTeamIDs ↔
          HasOwnMembers cfg.teamClaims (JsonText.rawMap members))) ∧
    (∀ provider encoded subject now ids updated,
      refreshFlow cfg provider encoded subject now = .ok (ids, updated) →
      ∃ stored state claims members, ProviderState.ofBytes encoded = some stored ∧
        refreshedClaims provider stored subject now = .ok (state, claims) ∧
        provider.userInfo state.accessToken = some ⟨200, some (.obj members)⟩ ∧
        (OwnMembership cfg.teamClaims (JsonText.rawMap members) subject ids ↔
          stored.refreshToken = "" ∨ HasOwnMembers cfg.teamClaims (JsonText.rawMap members))) := by
  refine ⟨?_, ?_⟩
  · intro sha256 provider pending code state consumedAt now identity h
    obtain ⟨authorization, tokens, claims, document, hconsume, htokens, -, -, hdocument, hids⟩ :=
      complete_eq_ok h
    rw [claimDocument, hsource] at hdocument
    obtain ⟨members, hresponse, hstored, hsub⟩ := userInfoClaims_eq_ok hdocument
    exact ⟨authorization, tokens, members, hconsume, htokens, hresponse, hstored.own_iff ⟨hsub, hids⟩⟩
  · intro provider encoded subject now ids updated h
    obtain ⟨stored, state, claims, document, hstate, hclaims, hdocument, hids⟩ := refreshFlow_eq_ok h
    rw [refreshDocument, hsource] at hdocument
    obtain ⟨members, hresponse, hstored, hsub⟩ := userInfoClaims_eq_ok hdocument
    refine ⟨stored, state, claims, members, hstate, hclaims, hresponse, ?_⟩
    rw [hstored.own_iff ⟨hsub, hids⟩]
    constructor
    · exact .inr
    · rintro (hnone | hown)
      · -- nothing was at hand, so the document that was read is the one that was sent
        rw [refreshedClaims, if_pos hnone] at hclaims
        cases hclaims
        have hsame : document = JsonText.rawMap members := by
          refine StrMap.ext_lookup ?_
          intro k
          rw [hstored.lookup]
          simp
        exact (hsame ▸ (⟨hsub, hids⟩ : OwnMembership cfg.teamClaims document subject ids)
          : OwnMembership cfg.teamClaims (JsonText.rawMap members) subject ids).hasOwnMembers
      · exact hown

/-! ### A login with and without the members -/

def sampleFlow : FlowConfig :=
  ⟨"https://issuer", ⟨.stringArray, "/groups", "", ""⟩, .userinfo⟩

/-- The ID token names the group of the administrators. -/
def sampleProvider (userInfo : List (String × JsonText)) : OidcProvider where
  exchange _ _ := some ⟨200, some (JsonText.ofStrings
    [("access_token", "access"), ("id_token", "id"), ("token_type", "Bearer")])⟩
  refresh _ := none
  userInfo _ := some ⟨200, some (.obj userInfo)⟩
  verify _ _ := .ok (JsonText.rawMap [("nonce", .str "nonce"), ("sub", .str "sub_1"),
    ("groups", .arr [.str "admins"])])

def samplePending : StrMap PendingAuthorization :=
  StrMap.empty.insert "state" ⟨"state", "nonce", "verifier", 1⟩

def sampleComplete (userInfo : List (String × JsonText)) : Except FlowError FlowIdentity :=
  (complete sampleFlow id (sampleProvider userInfo) samplePending "code" "state" 0 0).1

theorem userinfo_membership_own_iff_sample :
    ∃ identity, sampleComplete [("sub", .str "sub_1"), ("groups", .arr [.str "staff"])] =
        .ok identity ∧ identity.oidcTeamIDs = ["staff"] ∧
      ∃ authorization tokens members,
        (consume samplePending "state" 0).1 = some authorization ∧
        exchangeCode (sampleProvider [("sub", .str "sub_1"), ("groups", .arr [.str "staff"])]) "code"
          authorization.pkceVerifier = .ok tokens ∧
        (sampleProvider [("sub", .str "sub_1"), ("groups", .arr [.str "staff"])]).userInfo
          tokens.accessToken = some ⟨200, some (.obj members)⟩ ∧
        (OwnMembership sampleFlow.teamClaims (JsonText.rawMap members) identity.subject
            identity.oidcTeamIDs ↔
          HasOwnMembers sampleFlow.teamClaims (JsonText.rawMap members)) := by
  have hids : (sampleComplete [("sub", .str "sub_1"), ("groups", .arr [.str "staff"])]).map
      (fun identity => identity.oidcTeamIDs) = .ok ["staff"] := by decide +kernel
  cases hrun : sampleComplete [("sub", .str "sub_1"), ("groups", .arr [.str "staff"])] with
  | error e =>
    rw [hrun] at hids
    cases hids
  | ok identity =>
    rw [hrun] at hids
    injection hids with hids
    exact ⟨identity, rfl, hids, (userinfo_membership_own_iff rfl).1 _ _ _ _ _ _ _ _ hrun⟩

/-- A UserInfo document with nothing in it: the login succeeds with the subject and the
    group of the ID token. -/
theorem empty_userinfo_falls_back :
    (sampleComplete []).map (fun identity => (identity.subject, identity.oidcTeamIDs)) =
      .ok ("sub_1", ["admins"]) ∧
    ¬ OwnMembership sampleFlow.teamClaims (JsonText.rawMap []) "sub_1" ["admins"] := by
  refine ⟨by decide +kernel, ?_⟩
  rintro ⟨hsub, -⟩
  cases hsub

end FlowAI.Gateway
