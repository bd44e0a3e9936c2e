import FlowAI.Framework.JsonText
import FlowAI.Gateway.Proxy

/-! # Working Tokens

  The signed bearer tokens of `workingtoken/signer.go` and `workingtoken/verifier.go`:
  `base64url(header) "." base64url(claims) "." base64url(signature)`, signed with RSA over
  the first two segments.

  The RSA signature over SHA-256 is a parameter; that its owner's signatures verify is the
  only thing assumed of it here.  The main result is that a token whose first two segments
  were signed carries the claims it was signed with, and no others.
-/

namespace FlowAI.Gateway

/-! ## Section 1: The signer -/

/-- `SignPKCS1v15` and `VerifyPKCS1v15` with one key, over SHA-256. -/
structure RSA where
  sign : Bytes → Bytes
  verify : Bytes → Bytes → Bool
  verify_sign : ∀ message, verify message (sign message) = true

/-- The configuration of a signer; `ttl` is in nanoseconds. -/
structure Signer where
  rsa : RSA
  keyID : String
  issuer : String
  audience : String
  ttl : Int

def nanosPerSecond : Int := 1000000000

/-- `Time.Unix`. -/
def unixSeconds (ns : Int) : Int64 := Int64.ofInt (ns / nanosPerSecond)

/-- `Truncate(time.Second)`. -/
def truncateSecond (ns : Int) : Int := ns / nanosPerSecond * nanosPerSecond

/-- The fraction of a duration is so close to the next second that `Duration.Seconds`, a
    `float64`, reaches it: what is missing is at most half of the last place. -/
def secondsRoundUp (d : Int) : Bool :=
  nanosPerSecond ≤ d && (nanosPerSecond - d % nanosPerSecond) * 2 ^ 53 ≤
    nanosPerSecond * 2 ^ Nat.log2 (d / nanosPerSecond).toNat

/-- `int(d.Seconds())`. -/
def durationSeconds (d : Int) : Int :=
  d / nanosPerSecond + if secondsRoundUp d then 1 else 0

structure WorkingToken where
  accessToken : String
  expiresIn : Int
  jti : String
  issuedAt : Int
  expiresAt : Int
  deriving DecidableEq

/-- The header of a working token. -/
structure TokenHeader where
  algorithm : String
  keyID : String
  type : String
  deriving DecidableEq

/-- A map is marshalled in key order. -/
def TokenHeader.toJson (h : TokenHeader) : JsonText :=
  JsonText.ofStrings [("alg", h.algorithm), ("kid", h.keyID), ("typ", h.type)]

open JsonText in
/-- The claims in key order; `team_name` only if there is one. -/
def Claims.toJson (c : Claims) : JsonText :=
  .obj ([("aud", .str c.audience), ("exp", .int c.expiresAt.toInt), ("iat", .int c.issuedAt.toInt),
    ("iss", .str c.issuer), ("jti", .str c.jti), ("operator_id", .str c.operatorID),
    ("sub", .str c.subject), ("team_id", .str c.teamID)] ++
    omitEmpty "team_name" (c.teamName.map JsonText.str))

namespace Signer

variable (s : Signer)

def header : TokenHeader := ⟨"RS256", s.keyID, "JWT"⟩

/-- The claims that `Sign` writes. -/
def claims (operatorID teamID : String) (teamName : Option String) (jti : String) (now : Int) :
    Claims where
  issuer := s.issuer
  audience := s.audience
  subject := operatorID
  operatorID := operatorID
  teamID := teamID
  teamName := teamName
  issuedAt := unixSeconds (truncateSecond now)
  expiresAt := unixSeconds (truncateSecond now + s.ttl)
  jti := jti

/-- The text that is signed. -/
def signedText (claims : Claims) : List Char :=
  base64UrlEncode s.header.toJson.marshal ++ '.' :: base64UrlEncode claims.toJson.marshal

/-- `Sign`; the token identifier is random. -/
def sign (operatorID teamID : String) (teamName : Option String) (jti : String) (now : Int) :
    Except String WorkingToken := do
  Check.ensure (operatorID ≠ "" ∧ teamID ≠ "") "operator and team are required"
  let text := s.signedText (s.claims operatorID teamID teamName jti now)
  return {
    accessToken := String.ofList (text ++ '.' :: base64UrlEncode (s.rsa.sign (utf8Encode text)))
    expiresIn := durationSeconds s.ttl
    jti
    issuedAt := truncateSecond now
    expiresAt := truncateSecond now + s.ttl }

end Signer

/-! ## Section 2: Verification -/

open JsonText in
def tokenHeaderFields : List (StructField TokenHeader) :=
  [.of "alg" (·.algorithm) (fun h v => { h with algorithm := v }) storeString,
    .of "kid" (·.keyID) (fun h v => { h with keyID := v }) storeString,
    .of "typ" (·.type) (fun h v => { h with type := v }) storeString]

open JsonText in
def claimsFields : List (StructField Claims) :=
  [.of "iss" (·.issuer) (fun c v => { c with issuer := v }) storeString,
    .of "aud" (·.audience) (fun c v => { c with audience := v }) storeString,
    .of "sub" (·.subject) (fun c v => { c with subject := v }) storeString,
    .of "operator_id" (·.operatorID) (fun c v => { c with operatorID := v }) storeString,
    .of "team_id" (·.teamID) (fun c v => { c with teamID := v }) storeString,
    .of "team_name" (·.teamName) (fun c v => { c with teamName := v }) (storePointer "" storeString),
    .of "iat" (·.issuedAt) (fun c v => { c with issuedAt := v }) storeInt64,
    .of "exp" (·.expiresAt) (fun c v => { c with expiresAt := v }) storeInt64,
    .of "jti" (·.jti) (fun c v => { c with jti := v }) storeString]

def Claims.zero : Claims := ⟨"", "", "", "", "", none, 0, 0, ""⟩

/-- `decode`: base64url, then one JSON value with unknown fields ignored. -/
def decodePart {σ : Type} (fields : List (JsonText.StructField σ)) (zero : σ) (part : List Char) :
    Option σ := do
  let data ← base64UrlDecode part
  let value ← JsonText.unmarshal data
  JsonText.storeStruct false fields zero value

/-- The checks of `Verify` on the decoded claims. -/
def Claims.admissible (s : Signer) (now : Int) (c : Claims) : Bool :=
  c.issuer = s.issuer && c.audience = s.audience && c.subject ≠ "" && c.subject = c.operatorID &&
    c.teamID ≠ "" && c.jti ≠ "" && decide (c.issuedAt ≤ unixSeconds now + 30) &&
    decide (unixSeconds now < c.expiresAt) && decide (c.issuedAt < c.expiresAt)

/-- `Verify`; every failure is `ErrInvalid`. -/
def Signer.verify (s : Signer) (token : String) (now : Int) : Option Claims :=
  match splitDots token.toList with
  | [headerPart, claimsPart, signaturePart] => do
    let header ← decodePart tokenHeaderFields ⟨"", "", ""⟩ headerPart
    guard (header.algorithm = "RS256" ∧ header.keyID = s.keyID ∧ header.type = "JWT")
    let signature ← base64UrlDecode signaturePart
    guard (s.rsa.verify (utf8Encode (headerPart ++ '.' :: claimsPart)) signature = true)
    let claims ← decodePart claimsFields Claims.zero claimsPart
    guard (claims.admissible s now = true)
    return claims
  | _ => none

/-! ## Section 3: A token carries the claims it was signed with -/

theorem Claims.marshalled_toJson (c : Claims) : c.toJson.Marshalled := by
  rw [Claims.toJson, JsonText.marshalled_obj]
  intro m hm
  cases hname : c.teamName with
  | none =>
    simp only [hname, Option.map_none, JsonText.omitEmpty, Option.toList_none, List.map_nil,
      List.append_nil, List.mem_cons, List.not_mem_nil, or_false] at hm
    rcases hm with rfl | rfl | rfl | rfl | rfl | rfl | rfl | rfl <;> simp
  | some name =>
    simp only [hname, Option.map_some, JsonText.omitEmpty, Option.toList_some, List.map_cons,
      List.map_nil, List.mem_append, List.mem_cons, List.not_mem_nil, or_false] at hm
    rcases hm with (rfl | rfl | rfl | rfl | rfl | rfl | rfl | rfl) | rfl <;> simp

/-- What was written is read back. -/
theorem decodePart_claims (c : Claims) :
    decodePart claimsFields Claims.zero (base64UrlEncode c.toJson.marshal) = some c := by
  have hread : JsonText.storeStruct false claimsFields Claims.zero c.toJson = some c := by
    rw [Claims.toJson, JsonText.storeStruct, List.foldlM_append]
    -- the members that are always there, then the name of the team
    have hfixed : ([("aud", .str c.audience), ("exp", .int c.expiresAt.toInt),
        ("iat", .int c.issuedAt.toInt), ("iss", .str c.issuer), ("jti", .str c.jti),
        ("operator_id", .str c.operatorID), ("sub", .str c.subject), ("team_id", .str c.teamID)] :
        List (String × JsonText)).foldlM (JsonText.storeMember false claimsFields) Claims.zero =
        some { c with teamName := none } := by
      simp [claimsFields, JsonText.storeMember, JsonText.findField, JsonText.StructField.of,
        JsonText.storeString, Claims.zero]
    have hname : JsonText.findField claimsFields "team_name" =
        some (.of "team_name" (·.teamName) (fun c v => { c with teamName := v })
          (JsonText.storePointer "" JsonText.storeString)) := by
      simp [JsonText.findField, claimsFields, JsonText.StructField.of]
    rw [hfixed, Option.bind_eq_bind, Option.bind_some,
      JsonText.foldlM_omitEmpty hname rfl rfl (fun _ => rfl) (by simp)]
  rw [decodePart, base64UrlDecode_base64UrlEncode, Option.bind_eq_bind, Option.bind_some,
    JsonText.unmarshal_marshal c.marshalled_toJson, Option.bind_eq_bind, Option.bind_some, hread]

/-- What `Verify` has checked. -/
structure Verified (s : Signer) (token : String) (now : Int) (claims : Claims)
    (headerPart claimsPart signaturePart : List Char) (signature : Bytes) : Prop where
  parts : splitDots token.toList = [headerPart, claimsPart, signaturePart]
  header : ∃ header, decodePart tokenHeaderFields ⟨"", "", ""⟩ headerPart = some header ∧
    header.algorithm = "RS256" ∧ header.keyID = s.keyID ∧ header.type = "JWT"
  decoded : base64UrlDecode signaturePart = some signature
  signed : s.rsa.verify (utf8Encode (headerPart ++ '.' :: claimsPart)) signature = true
  payload : decodePart claimsFields Claims.zero claimsPart = some claims
  admissible : claims.admissible s now = true

variable {s : Signer} {now : Int} {claims : Claims}

theorem Signer.verify_eq_some {token : String} :
    s.verify token now = some claims ↔
      ∃ headerPart claimsPart signaturePart signature,
        Verified s token now claims headerPart claimsPart signaturePart signature := by
  unfold Signer.verify
  constructor
  · intro h
    split at h
    · rename_i headerPart claimsPart signaturePart hparts
      simp only [Option.bind_eq_bind, Option.bind_eq_some_iff, Option.guard_eq_some', Option.pure_def,
        Option.some.injEq] at h
      obtain ⟨header, hheader, -, hchecks, signature, hdecoded, -, hsigned, decoded, hpayload, -,
        hadmissible, rfl⟩ := h
      exact ⟨headerPart, claimsPart, signaturePart, signature, hparts, ⟨header, hheader, hchecks⟩,
        hdecoded, hsigned, hpayload, hadmissible⟩
    · cases h
  · rintro ⟨headerPart, claimsPart, signaturePart, signature, hv⟩
    obtain ⟨header, hheader, hchecks⟩ := hv.header
    simp only [hv.parts, Option.bind_eq_bind, Option.bind_eq_some_iff, Option.guard_eq_some',
      Option.pure_def, Option.some.injEq]
    exact ⟨header, hheader, (), hchecks, signature, hv.decoded, (), hv.signed, claims, hv.payload,
      (), hv.admissible, rfl⟩

/-- The bytes under the signature of a compact token. -/
def tokenInput (token : String) : Option Bytes :=
  match splitDots token.toList with
  | [headerPart, claimsPart, _] => some (utf8Encode (headerPart ++ '.' :: claimsPart))
  | _ => none

/-- If the bytes under the signature were made by `Sign` for some claims, `Verify` returns
    these claims. -/
theorem Signer.claims_of_signed {token : String} {signed : Claims}
    (h : s.verify token now = some claims)
    (hinput : tokenInput token = some (utf8Encode (s.signedText signed))) : claims = signed := by
  obtain ⟨headerPart, claimsPart, signaturePart, signature, hv⟩ := Signer.verify_eq_some.mp h
  obtain ⟨-, hheader, -, -⟩ := splitDots_eq_three hv.parts
  rw [tokenInput, hv.parts, Option.some.injEq] at hinput
  have htext := utf8Encode_injective hinput
  -- neither header has a dot, so the texts split at the same place
  obtain ⟨-, hclaims⟩ := append_separator_inj hheader (dot_not_mem_base64UrlEncode _) htext
  have hpayload := hv.payload
  rw [hclaims, decodePart_claims, Option.some.injEq] at hpayload
  exact hpayload.symm

/-- The compact form of claims, as `Sign` returns it. -/
def Signer.compactToken (s : Signer) (claims : Claims) : String :=
  String.ofList (s.signedText claims ++ '.' ::
    base64UrlEncode (s.rsa.sign (utf8Encode (s.signedText claims))))

theorem Signer.splitDots_compactToken (s : Signer) (claims : Claims) :
    splitDots (s.compactToken claims).toList =
      [base64UrlEncode s.header.toJson.marshal, base64UrlEncode claims.toJson.marshal,
        base64UrlEncode (s.rsa.sign (utf8Encode (s.signedText claims)))] := by
  rw [Signer.compactToken, String.toList_ofList, Signer.signedText, List.append_assoc,
    List.cons_append]
  exact splitDots_three (dot_not_mem_base64UrlEncode _) (dot_not_mem_base64UrlEncode _)
    (dot_not_mem_base64UrlEncode _)

theorem Signer.compactToken_ne_empty (s : Signer) (claims : Claims) : s.compactToken claims ≠ "" := by
  intro hempty
  have hlist := congrArg String.toList hempty
  rw [Signer.compactToken, String.toList_ofList] at hlist
  simp at hlist

/-- A token that was issued passes `Verify` while it is in force, with its claims. -/
theorem Signer.verify_compactToken (hadmissible : claims.admissible s now = true) :
    s.verify (s.compactToken claims) now = some claims := by
  have hheader : decodePart tokenHeaderFields ⟨"", "", ""⟩
      (base64UrlEncode s.header.toJson.marshal) = some s.header := by
    have hread : JsonText.storeStruct false tokenHeaderFields ⟨"", "", ""⟩ s.header.toJson =
        some s.header := by
      simp [TokenHeader.toJson, JsonText.ofStrings, JsonText.storeStruct, tokenHeaderFields,
        JsonText.storeMember, JsonText.findField, JsonText.StructField.of, JsonText.storeString]
    have hmarshalled : s.header.toJson.Marshalled := JsonText.marshalled_ofStrings _
    rw [decodePart, base64UrlDecode_base64UrlEncode, Option.bind_eq_bind, Option.bind_some,
      JsonText.unmarshal_marshal hmarshalled, Option.bind_eq_bind, Option.bind_some, hread]
  exact Signer.verify_eq_some.mpr ⟨_, _, _, _, s.splitDots_compactToken claims,
    ⟨s.header, hheader, rfl, rfl, rfl⟩, base64UrlDecode_base64UrlEncode _, s.rsa.verify_sign _,
    decodePart_claims _, hadmissible⟩

end FlowAI.Gateway
