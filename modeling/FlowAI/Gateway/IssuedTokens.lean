import FlowAI.Gateway.Authorisation
import FlowAI.Registry.Routes

/-! # Working Tokens in Use

  What the holder of a working token can count on: for how long it is accepted, and that
  the name of its team does not keep `proxyREST` from sending a request.

  `Sign` counts from the whole second before the issue, `Verify` compares whole seconds, and
  `expires_in` promises the lifetime from the issue itself.  A team name goes from the
  Registry into the claims and from there into a header field.
-/

namespace FlowAI.Gateway

variable {s : Signer} {token : WorkingToken} {claims : Claims} {operatorID teamID jti : String}
  {name : Option String} {t u : Int}

/-! ## Section 1: The token that was issued -/

theorem Signer.sign_eq_ok (h : s.sign operatorID teamID name jti t = .ok token) :
    (operatorID ≠ "" ∧ teamID ≠ "") ∧
      token.accessToken = s.compactToken (s.claims operatorID teamID name jti t) ∧
      token.expiresIn = durationSeconds s.ttl ∧ token.expiresAt = truncateSecond t + s.ttl := by
  simp only [Signer.sign, Check.bind_eq_ok, Check.ensure_eq_ok, Check.pure_eq_ok] at h
  obtain ⟨-, hids, rfl⟩ := h
  exact ⟨hids, rfl, rfl, rfl⟩

/-- `Verify` checks the time of an issued token and returns its claims. -/
theorem Signer.verify_compactToken_iff {signed : Claims} :
    s.verify (s.compactToken signed) u = some claims ↔
      signed = claims ∧ signed.admissible s u = true := by
  constructor
  · intro h
    have hinput : tokenInput (s.compactToken signed) = some (utf8Encode (s.signedText signed)) := by
      rw [tokenInput, s.splitDots_compactToken]
      rfl
    obtain rfl := Signer.claims_of_signed h hinput
    obtain ⟨_, _, _, _, hv⟩ := Signer.verify_eq_some.mp h
    exact ⟨rfl, hv.admissible⟩
  · rintro ⟨rfl, hadmissible⟩
    exact Signer.verify_compactToken hadmissible

/-! ## Section 2: Lifetime -/

/-- The instants that a `time.Time` holds: its seconds count from the year 1. -/
def Instant (ns : Int) : Prop :=
  -2 ^ 63 ≤ ns / nanosPerSecond ∧ ns / nanosPerSecond + 62135596800 < 2 ^ 63

theorem toInt_unixSeconds (h : Instant t) : (unixSeconds t).toInt = t / nanosPerSecond := by
  obtain ⟨hlow, hhigh⟩ := h
  exact Int64.toInt_ofInt_of_le hlow (by omega)

/-- The times that `Verify` compares, in whole seconds. -/
theorem admissible_claims_iff (hids : operatorID ≠ "" ∧ teamID ≠ "") (hjti : jti ≠ "")
    (ht : Instant t) (hend : Instant (t + s.ttl)) (hu : Instant u) (hpos : 0 < s.ttl) :
    (s.claims operatorID teamID name jti t).admissible s u = true ↔
      t / nanosPerSecond ≤ u / nanosPerSecond + 30 ∧
        u / nanosPerSecond < t / nanosPerSecond + s.ttl / nanosPerSecond ∧
        nanosPerSecond ≤ s.ttl := by
  have hsecond : truncateSecond t / nanosPerSecond = t / nanosPerSecond := by
    simp only [truncateSecond, nanosPerSecond]
    omega
  have hissued : (unixSeconds (truncateSecond t)).toInt = t / nanosPerSecond := by
    rw [← hsecond]
    apply toInt_unixSeconds
    rw [Instant, hsecond]
    exact ht
  have hexpires : (unixSeconds (truncateSecond t + s.ttl)).toInt =
      t / nanosPerSecond + s.ttl / nanosPerSecond := by
    have hsum : (truncateSecond t + s.ttl) / nanosPerSecond =
        t / nanosPerSecond + s.ttl / nanosPerSecond := by
      simp only [truncateSecond, nanosPerSecond]
      omega
    rw [← hsum]
    apply toInt_unixSeconds
    rw [Instant, hsum]
    simp only [Instant, nanosPerSecond] at ht hend ⊢
    omega
  have hleeway : (unixSeconds u + 30).toInt = u / nanosPerSecond + 30 := by
    rw [Int64.toInt_add, toInt_unixSeconds hu]
    obtain ⟨hlow, hhigh⟩ := hu
    exact Int.bmod_eq_of_le (by simp; omega) (by simp; omega)
  simp only [Claims.admissible, Signer.claims, hids.1, hids.2, hjti, ne_eq, not_false_eq_true,
    decide_true, Bool.and_true, Bool.true_and, Bool.and_eq_true, decide_eq_true_eq,
    Int64.le_iff_toInt_le, Int64.lt_iff_toInt_lt, hissued, hexpires, hleeway, toInt_unixSeconds hu]
  simp only [nanosPerSecond]
  omega

/-- The token passes both checks of `authenticateWorkingToken`. -/
def Accepted (s : Signer) (sha256 : String → Hash) (db : Db) (token : WorkingToken) (u : Int) :
    Prop :=
  ∃ claims, s.verify token.accessToken u = some claims ∧
    validateTokenAccess sha256 db claims.operatorID claims.teamID claims.jti u = .ok ()

/-- A token lives as long as `expires_in` promises, and no longer than the configured
    lifetime, exactly if that is under a second, or if the token was issued on a whole second
    and `expires_in` was not rounded up. -/
theorem token_lives_as_advertised_iff {sha256 : String → Hash} {db : Db} {sessionHash : Hash}
    {session : SessionRow} {access : AccessRow} (hpos : 0 < s.ttl) (hjti : jti ≠ "")
    (hsign : s.sign operatorID teamID name jti t = .ok token)
    (hrecord : ⟨sha256 jti, sessionHash, operatorID, teamID, Time.toMicros token.issuedAt,
      Time.toMicros token.expiresAt⟩ ∈ db.tokens.rows)
    (hsession : session ∈ db.sessions.rows ∧ session.sessionHash = sessionHash ∧
      t + token.expiresIn * nanosPerSecond ≤ Time.ofMicros session.expiresAt)
    (haccess : access ∈ db.access.rows ∧ access.sessionHash = sessionHash ∧ access.teamID = teamID)
    (ht : Instant t) (hend : Instant (t + s.ttl)) :
    ((∀ u, Instant u → t ≤ u → u < t + token.expiresIn * nanosPerSecond →
        Accepted s sha256 db token u) ∧
      ∀ u, Instant u → t + s.ttl ≤ u → ¬ Accepted s sha256 db token u) ↔
      s.ttl < nanosPerSecond ∨ t % nanosPerSecond = 0 ∧ secondsRoundUp s.ttl = false := by
  obtain ⟨hids, haccessToken, hadvertised, hexpires⟩ := Signer.sign_eq_ok hsign
  have hbefore : ∀ u, Instant u → Accepted s sha256 db token u →
      u / nanosPerSecond < t / nanosPerSecond + s.ttl / nanosPerSecond := by
    intro u hu haccepted
    obtain ⟨claims, hverify, -⟩ := haccepted
    rw [haccessToken, Signer.verify_compactToken_iff] at hverify
    exact ((admissible_claims_iff hids hjti ht hend hu hpos).mp hverify.2).2.1
  rw [hadvertised, durationSeconds] at hsession ⊢
  constructor
  · -- at the second in which the claims expire
    intro h
    by_contra hnot
    have hu : Instant ((t / nanosPerSecond + s.ttl / nanosPerSecond) * nanosPerSecond) := by
      simp only [Instant, nanosPerSecond] at ht hend ⊢
      omega
    have haccepted := h.1 _ hu
    have hexpired := hbefore _ hu
    by_cases hup : secondsRoundUp s.ttl = true
    · simp only [hup, if_true, nanosPerSecond] at haccepted hexpired hnot
      have := hexpired (haccepted (by omega) (by omega))
      omega
    · rw [Bool.not_eq_true] at hup
      simp only [hup, Bool.false_eq_true, if_false, nanosPerSecond, and_true] at haccepted hexpired hnot
      have := hexpired (haccepted (by omega) (by omega))
      omega
  · intro h
    refine ⟨?_, ?_⟩
    · intro u hu hfrom huntil
      rcases h with hshort | ⟨hwhole, hup⟩
      · have hup : secondsRoundUp s.ttl = false := by
          simp [secondsRoundUp, hshort]
        rw [hup] at huntil
        simp only [Bool.false_eq_true, if_false, nanosPerSecond] at huntil hshort
        omega
      · rw [hup] at huntil hsession
        simp only [Bool.false_eq_true, if_false, nanosPerSecond] at huntil hwhole hsession
        refine ⟨s.claims operatorID teamID name jti t, ?_, ?_⟩
        · rw [haccessToken, Signer.verify_compactToken_iff,
            admissible_claims_iff hids hjti ht hend hu hpos]
          simp only [nanosPerSecond, true_and]
          omega
        · have htoken : Time.toMicros u < Time.toMicros token.expiresAt := by
            rw [hexpires]
            simp only [Time.toMicros, truncateSecond, nanosPerSecond]
            omega
          have hlive : Time.toMicros u < session.expiresAt := by
            simp only [Time.toMicros, Time.ofMicros] at hsession ⊢
            omega
          rw [validateTokenAccess, if_pos]
          simp only [List.any_eq_true, tokenGrants, Bool.and_eq_true, decide_eq_true_eq]
          exact ⟨_, hrecord, session, hsession.1, access, haccess.1, by
            simp [hsession.2.1, haccess.2.1, haccess.2.2, htoken, hlive, Signer.claims]⟩
    · intro u hu hlate haccepted
      have := hbefore u hu haccepted
      simp only [nanosPerSecond] at this
      omega

theorem token_lives_as_advertised_sample : ∃ (db : Db) (token : WorkingToken),
    sampleTrusted.signer.sign "oidc_1" "team_1" none "jti_1" 0 = .ok token ∧
    token.expiresIn = 60 ∧
    (∀ u, Instant u → 0 ≤ u → u < 0 + token.expiresIn * nanosPerSecond →
      Accepted sampleTrusted.signer sampleHash db token u) ∧
    ∀ u, Instant u → 0 + 60 * nanosPerSecond ≤ u →
      ¬ Accepted sampleTrusted.signer sampleHash db token u := by
  obtain ⟨state, -, hrecord, ⟨session, hsession⟩, ⟨access, haccess⟩⟩ : ∃ state,
      (gateway sampleTrusted).Reachable state ∧
      ⟨sampleHash "jti_1", sampleHash "session", "oidc_1", "team_1", 0, 60000000⟩ ∈
        state.store.db.tokens.rows ∧
      (∃ r ∈ state.store.db.sessions.rows, r.sessionHash = sampleHash "session" ∧
        0 + 60 * nanosPerSecond ≤ Time.ofMicros r.expiresAt) ∧
      ∃ r ∈ state.store.db.access.rows, r.sessionHash = sampleHash "session" ∧
        r.teamID = "team_1" :=
    System.Reachable.exists_of_follow (s := .initial 0) (sampleSession ++ sampleIssue) ⟨0, rfl⟩
      (by decide +kernel)
  have hsign : sampleTrusted.signer.sign "oidc_1" "team_1" none "jti_1" 0 =
      .ok ⟨sampleTrusted.signer.compactToken sampleIssued, 60, "jti_1", 0, 60 * nanosPerSecond⟩ := rfl
  exact ⟨state.store.db, _, hsign, rfl, (token_lives_as_advertised_iff (by decide) (by decide) hsign
    hrecord hsession haccess ⟨by decide, by decide⟩ ⟨by decide, by decide⟩).mpr (.inr (by decide))⟩

/-- Issued half a second after a whole second, a token is rejected half a second before its
    advertised end. -/
theorem token_rejected_early : ∃ token : WorkingToken,
    sampleTrusted.signer.sign "oidc_1" "team_1" none "jti_1" 500000000 = .ok token ∧
      token.expiresIn = 60 ∧ sampleTrusted.signer.verify token.accessToken 60000000000 = none := by
  refine ⟨_, rfl, rfl, Option.eq_none_iff_forall_ne_some.mpr ?_⟩
  intro claims hverify
  have hadmissible := (Signer.verify_compactToken_iff.mp hverify).2
  exact absurd hadmissible (by decide +kernel)

/-! ## Section 3: The name of the team -/

/-- `httpguts.ValidHeaderFieldValue`: no control character but the tab.  The bytes of a
    character beyond ASCII are none. -/
def validHeaderFieldValue (value : String) : Bool :=
  value.toList.all (fun c => c = '\t' || (32 ≤ c.toNat && c.toNat ≠ 127))

/-- `http.DefaultClient.Do` refuses a header with any other value, and `proxyREST` answers that
    the State Registry is unavailable. -/
def sendChild (child : ChildRequest) : Except Reply ChildRequest := do
  Check.ensure (∀ e ∈ child.header.entries, ∀ v ∈ e.2, validHeaderFieldValue v = true)
    registryUnavailable
  return child

/-- A request with a token that was issued for a team is sent, as far as the name of the team
    goes, exactly if the name has no control character but tabs. -/
theorem team_name_proxied_iff {teamName : String} {base : Option UrlPath} {url : UrlPath}
    {r : ClientRequest} {requestID : String} {child : ChildRequest}
    (hsign : s.sign operatorID teamID (some teamName) jti t = .ok token)
    (hverify : s.verify token.accessToken u = some claims)
    (hchild : forwardREST base claims url r requestID = .ok child)
    (hothers : ∀ e ∈ child.header.entries, e.1 ≠ "X-Flowai-Team-Name" →
      ∀ v ∈ e.2, validHeaderFieldValue v = true) :
    sendChild child = .ok child ↔
      ∀ c ∈ teamName.toList, c.toNat < 32 ∨ c.toNat = 127 → c = '\t' := by
  obtain ⟨-, haccessToken, -, -⟩ := Signer.sign_eq_ok hsign
  rw [haccessToken, Signer.verify_compactToken_iff] at hverify
  obtain ⟨rfl, -⟩ := hverify
  simp only [forwardREST, Check.bind_eq_ok, Check.need_eq_ok, Check.pure_eq_ok] at hchild
  obtain ⟨_, -, _, -, _, -, rfl⟩ := hchild
  -- the last field that is set
  have hlook : StrMap.lookup (trustedHeader (Header.addAll .empty r.header forwardedREST)
      (s.claims operatorID teamID (some teamName) jti t) requestID) "X-Flowai-Team-Name" =
      some [teamName] := by
    have hkey : canonicalKey "X-FlowAI-Team-Name" = "X-Flowai-Team-Name" := by decide +kernel
    rw [trustedHeader, Signer.claims, Header.lookup_set, if_pos hkey]
  simp only [sendChild, Check.bind_eq_ok, Check.ensure_eq_ok, Check.pure_eq_ok, and_true,
    exists_const]
  constructor
  · intro h c hc hcontrol
    have hvalid := h _ (StrMap.lookup_eq_some_iff.mp hlook) teamName (by simp)
    have hchar := List.all_eq_true.mp hvalid c hc
    simp only [Bool.or_eq_true, Bool.and_eq_true, decide_eq_true_eq] at hchar
    exact hchar.resolve_right (by omega)
  · intro h e he v hv
    by_cases hk : e.1 = "X-Flowai-Team-Name"
    · have hfield := StrMap.lookup_eq_some_iff.mpr he
      rw [hk, hlook, Option.some.injEq] at hfield
      rw [← hfield, List.mem_singleton] at hv
      subst hv
      refine List.all_eq_true.mpr ?_
      intro c hc
      have hchar := h c hc
      simp only [Bool.or_eq_true, Bool.and_eq_true, decide_eq_true_eq]
      by_cases hcontrol : c.toNat < 32 ∨ c.toNat = 127
      · exact .inl (hchar hcontrol)
      · exact .inr (by omega)
    · exact hothers e he hk v hv

def sampleNamed (name : String) : Claims :=
  sampleTrusted.signer.claims "oidc_1" "team_1" (some name) "jti_1" 0

def sampleChild (name : String) : ChildRequest :=
  ⟨"GET", utf8Encode "/ui/tasks".toList, "", trustedHeader .empty (sampleNamed name) "req_1"⟩

theorem sampleNamed_forwarded (name : String) : ∃ token : WorkingToken,
    sampleTrusted.signer.sign "oidc_1" "team_1" (some name) "jti_1" 0 = .ok token ∧
      sampleTrusted.signer.verify token.accessToken 0 = some (sampleNamed name) ∧
      forwardREST (some ⟨[], []⟩) (sampleNamed name) ⟨utf8Encode "/ui/tasks".toList, []⟩
        (sampleRequest "GET" "/ui/tasks") "req_1" = .ok (sampleChild name) := by
  refine ⟨_, rfl, Signer.verify_compactToken ?_, ?_⟩
  · rw [admissible_claims_iff] <;> first | decide | exact ⟨by decide, by decide⟩
  · simp only [forwardREST, Check.bind_eq_ok, Check.need_eq_ok, Check.pure_eq_ok]
    exact ⟨⟨[], []⟩, rfl, ⟨utf8Encode "/ui/tasks".toList, []⟩, by decide +kernel,
      utf8Encode "/ui/tasks".toList, by decide +kernel, rfl⟩

theorem team_name_proxied_sample :
    sendChild (sampleChild "Alpha team") = .ok (sampleChild "Alpha team") := by
  obtain ⟨token, hsign, hverify, hchild⟩ := sampleNamed_forwarded "Alpha team"
  exact (team_name_proxied_iff hsign hverify hchild (by decide +kernel)).mpr (by simp)

/-- The Registry takes a name of two lines, and no request of the team is sent any more. -/
theorem team_name_refused :
    (Registry.Op.updateTeam "team_1" ⟨some "Alpha\nteam", none⟩ ⟨"admin", "req_1"⟩).admitted =
      true ∧
    ∃ (token : WorkingToken) (claims : Claims) (child : ChildRequest),
      sampleTrusted.signer.sign "oidc_1" "team_1" (some "Alpha\nteam") "jti_1" 0 = .ok token ∧
      sampleTrusted.signer.verify token.accessToken 0 = some claims ∧
      forwardREST (some ⟨[], []⟩) claims ⟨utf8Encode "/ui/tasks".toList, []⟩
        (sampleRequest "GET" "/ui/tasks") "req_1" = .ok child ∧
      sendChild child = .error registryUnavailable := by
  obtain ⟨token, hsign, hverify, hchild⟩ := sampleNamed_forwarded "Alpha\nteam"
  exact ⟨by decide +kernel, token, _, _, hsign, hverify, hchild, by decide +kernel⟩

end FlowAI.Gateway
