import FlowAI.Registry.Operations

/-! # What the Routes Let Through

  The handlers of `httpapi` check a request before they call the store.  Their
  patterns and checks are modelled here, route by route, as the condition under
  which an operation reaches the store.  Limits on the size of a whole body and
  the decoding of its JSON are left out: a request of the model is decoded.
-/

namespace FlowAI.Registry

/-! ## Section 1: Patterns -/

def isLetter (c : Char) : Bool := isUpper c || decide ('a' ≤ c ∧ c ≤ 'z')

def isAlphanumeric (c : Char) : Bool := isLetter c || isDigit c

/-- `^[A-Za-z0-9][A-Za-z0-9._:-]*$`. -/
def identifierPattern (s : String) : Bool :=
  match s.toList with
  | [] => false
  | c :: cs =>
    isAlphanumeric c && cs.all (fun c => isAlphanumeric c || c ∈ ['.', '_', ':', '-'])

def validIdentifier (s : String) : Bool := decide (s.length ≤ 128) && identifierPattern s

def validTag (s : String) : Bool := decide (s.length ≤ 256) && identifierPattern s

/-- The empty text passes. -/
def validListingIdentifier (s : String) : Bool :=
  s = "" || decide (s.utf8ByteSize ≤ 128) && identifierPattern s

/-- A path segment: trimmed, present and an identifier. -/
def validPathID (s : String) : Bool := s ≠ "" && validListingIdentifier s

def validText (s : String) (max : Nat) : Bool := trimSpace s ≠ "" && decide (s.length ≤ max)

/-- A letter or digit, then letters, digits, dots, underscores, slashes and hyphens, then
    `(:[A-Za-z0-9._-]+)?`; a colon is no repository character, so the longest run of
    those is the only way to match. -/
def imageRepoPattern (s : String) : Bool :=
  match s.toList with
  | [] => false
  | c :: cs =>
    isAlphanumeric c &&
      match cs.dropWhile (fun c => isAlphanumeric c || c ∈ ['.', '_', '/', '-']) with
      | [] => true
      | ':' :: tag =>
        !tag.isEmpty && tag.all (fun c => isAlphanumeric c || c ∈ ['.', '_', '-'])
      | _ => false

def isHex (c : Char) : Bool :=
  isDigit c || decide ('a' ≤ c ∧ c ≤ 'f') || decide ('A' ≤ c ∧ c ≤ 'F')

/-- `^sha256:[A-Fa-f0-9]{64}$`. -/
def imageDigestPattern (s : String) : Bool :=
  s.toList.take 7 = "sha256:".toList && decide ((s.toList.drop 7).length = 64) &&
    (s.toList.drop 7).all isHex

def validImage (image : ImageReference) : Bool :=
  decide (image.repository.length ≤ 512) && imageRepoPattern image.repository &&
    imageDigestPattern image.digest

def validOptionalImage (image : Option ImageReference) : Bool := image.all validImage

/-- `[A-Za-z][A-Za-z0-9]*(?:[+._-][A-Za-z][A-Za-z0-9]*)*`; `begun` inside a component. -/
def digestAlgorithm (begun : Bool) : List Char → Bool
  | [] => begun
  | c :: cs =>
    if begun then
      if isAlphanumeric c then digestAlgorithm true cs
      else c ∈ ['+', '.', '_', '-'] && digestAlgorithm false cs
    else isLetter c && digestAlgorithm true cs

/-- `\s` of a Go pattern. -/
def isPatternSpace (c : Char) : Bool := c ∈ ['\t', '\n', '\x0c', '\r', ' ']

/-- `algorithm:encoded` of a digest reference. -/
def ociDigest (cs : List Char) : Bool :=
  match cs.dropWhile (· ≠ ':') with
  | ':' :: encoded =>
    digestAlgorithm false (cs.takeWhile (· ≠ ':')) && !encoded.isEmpty &&
      encoded.all (fun c => isAlphanumeric c || c ∈ ['=', '_', '-'])
  | _ => false

/-- `ociDigestReferencePattern`: a name without blanks, one `@`, then a digest. -/
def validOCIImage (image : String) : Bool :=
  match image.toList.dropWhile (· ≠ '@') with
  | '@' :: digest =>
    let name := image.toList.takeWhile (· ≠ '@')
    !name.isEmpty && name.all (fun c => !isPatternSpace c) && ociDigest digest
  | _ => false

/-- `^[A-Za-z_][A-Za-z0-9_]*$`, of the older routes. -/
def environmentKeyPattern (s : String) : Bool :=
  match s.toList with
  | [] => false
  | c :: cs => (isLetter c || c = '_') && cs.all (fun c => isAlphanumeric c || c = '_')

/-- `^[A-Z_][A-Z0-9_]*$`, the pattern of the column too. -/
def uiEnvironmentKeyPattern (s : String) : Bool := isEnvKey s

/-- `strings.Contains`. -/
def containsText (text : List Char) : List Char → Bool
  | [] => text.isEmpty
  | c :: cs => text.isPrefixOf (c :: cs) || containsText text cs

/-! ## Section 2: JSON bodies -/

mutual

/-- Some object below the value has the key. -/
def hasKey (name : String) : Json → Bool
  | .arr items => hasKeyItems name items
  | .obj members => hasKeyMembers name members
  | _ => false

def hasKeyItems (name : String) : List Json → Bool
  | [] => false
  | j :: js => hasKey name j || hasKeyItems name js

def hasKeyMembers (name : String) : List (String × Json) → Bool
  | [] => false
  | (k, j) :: ms => k = name || hasKey name j || hasKeyMembers name ms

end

/-- The walk over a decoded body; a body that does not decode is not walked. -/
def containsKey (name : String) : RawMessage → Bool
  | .text j => j.unmarshals && hasKey name j
  | _ => false

def payloadIsObject : RawMessage → Bool
  | .text (.obj _) => true
  | _ => false

def validTaskEventJSON : RawMessage → Bool
  | .empty => true
  | .text .null => true
  | .text (.obj _) => true
  | .text (.arr _) => true
  | _ => false

def validJSONObject : Json → Bool
  | .obj members => (Json.obj members).unmarshals
  | _ => false

/-! ## Section 3: Admission -/

/-- Gateway callers come with a team and an operator.  A request id is a header value, which
    arrives trimmed, or is drawn by the server. -/
def GatewayIdentity.admitted (identity : GatewayIdentity) : Bool :=
  validPathID identity.teamID && validPathID identity.operatorID && nonBlank identity.requestID

/-- The identity the event routes build: a team binding goes with the team role. -/
def ExecutorIdentity.admitted (identity : ExecutorIdentity) : Bool :=
  validListingIdentifier identity.executorID && nonBlank identity.requestID &&
    match identity.scope with
    | .team => identity.teamID.any validListingIdentifier
    | .system => identity.teamID.isNone

/-- `decodeUILaunchParameterWrite`. -/
def LaunchParameterWrite.uiAdmitted (req : LaunchParameterWrite) : Bool :=
  trimSpace req.name ≠ "" && decide (req.name.utf8ByteSize ≤ 200) &&
    (match req.scope with
      | .team => req.taskTypeID.isNone
      | .taskType => req.taskTypeID.any validListingIdentifier
      | .global => false) &&
    req.env.entries.all (fun e =>
      uiEnvironmentKeyPattern e.1 && decide (e.2.utf8ByteSize ≤ 65536)) &&
    req.image.all (fun image => decide (image.utf8ByteSize ≤ 1000) &&
      containsText "@sha256:".toList image.toList)

/-- `decodeEnvironmentWrite`, as the team-scoped write the older routes make of it. -/
def LaunchParameterWrite.legacyAdmitted (req : LaunchParameterWrite) : Bool :=
  trimSpace req.name ≠ "" && decide (req.name.utf8ByteSize ≤ 200) && req.scope = .team &&
    req.taskTypeID.isNone && req.image.isNone &&
    req.env.entries.all (fun e =>
      environmentKeyPattern e.1 && decide (e.2.utf8ByteSize ≤ 65536))

def LaunchParameterWrite.admitted (req : LaunchParameterWrite) : Bool :=
  req.uiAdmitted || req.legacyAdmitted

/-- A secret value on either route. -/
def validSecretValue (value : String) : Bool :=
  value ≠ "" && decide (value.utf8ByteSize ≤ 1048576)

/-- `POST …/launch-parameters/:environment_id/secrets`. -/
def SecretCreateRequest.uiAdmitted (req : SecretCreateRequest) : Bool :=
  uiEnvironmentKeyPattern req.name && validSecretValue req.value

/-- `POST /v1/environments/:environment_id/secrets`: any name that is not blank. -/
def SecretCreateRequest.legacyAdmitted (req : SecretCreateRequest) : Bool :=
  trimSpace req.name ≠ "" && decide (req.name.utf8ByteSize ≤ 200) && validSecretValue req.value

def SecretCreateRequest.admitted (req : SecretCreateRequest) : Bool :=
  req.uiAdmitted || req.legacyAdmitted

/-- The zero `time.Time`, in nanoseconds. -/
def zeroTimeNanos : Int := zeroTime * 1000

/-- The checks in front of each operation of the store. -/
def Op.admitted : Op → Bool
  | .createTeam req ident =>
    trimSpace ident.subject ≠ "" && validText req.teamName 200 && validOCIImage req.defaultImage
  | .updateTeam teamID req ident =>
    trimSpace ident.subject ≠ "" && validIdentifier teamID &&
      (req.teamName.isSome || req.defaultImage.isSome) &&
      req.teamName.all (validText · 200) && req.defaultImage.all validOCIImage
  | .archiveTeam teamID ident => trimSpace ident.subject ≠ "" && validIdentifier teamID
  | .createSourceSystem req =>
    validIdentifier req.teamID && validText req.listenerIdentity 512 &&
      validOptionalImage req.defaultImage
  | .createTaskType req =>
    validIdentifier req.teamID && validTag req.executionTag && validOptionalImage req.defaultImage
  | .registerExecutor executorID req identity =>
    validTag req.authorizedTag && validIdentifier executorID && validText req.executorType 128 &&
      decide (0 ≤ req.maxCapacity) && decide (0 ≤ req.runningCount) &&
      validJSONObject req.runtimeMetadata && identity.executorID = executorID &&
      (match req.scope with
        | .team => req.teamID.any validIdentifier && identity.teamID = req.teamID
        | .system => req.teamID.isNone)
  | .ingestTask req ident =>
    validIdentifier ident.teamID && validIdentifier ident.sourceSystemID &&
      validText ident.identity 512 && !containsKey "required_tag" req.payload &&
      validIdentifier req.teamID && validIdentifier req.sourceSystemID &&
      validIdentifier req.taskTypeID && req.projectID.all validIdentifier &&
      validText req.sourceID 256 && validOptionalImage req.image && payloadIsObject req.payload &&
      req.teamID = ident.teamID && req.sourceSystemID = ident.sourceSystemID
  | .claimTask req executorID identity =>
    validIdentifier req.taskID && validIdentifier req.commandID &&
      identity.executorID = executorID
  | .appendTaskEvent req identity =>
    identity.admitted && !containsKey "accepted_sequence" req.payload &&
      (allowedTaskEventType req.eventType).isSome &&
      validListingIdentifier req.eventID && validListingIdentifier req.taskID &&
      validListingIdentifier req.executorID && validListingIdentifier req.teamID &&
      (Time.parseRFC3339Nano req.occurredAt).isSome && validTaskEventJSON req.payload &&
      identity.executorID = req.executorID
  | .appendExecutorEvent req identity =>
    identity.admitted && validListingIdentifier req.eventID &&
      validListingIdentifier req.executorID && (Time.parseRFC3339Nano req.occurredAt).isSome &&
      req.taskID.all validListingIdentifier && req.teamID.all validListingIdentifier &&
      validTaskEventJSON req.payload
  | .createTaskControl identity taskID req =>
    identity.admitted && validListingIdentifier taskID &&
      validListingIdentifier req.idempotencyKey
  | .appendTaskControlEvent taskID controlID req identity =>
    identity.admitted && validPathID taskID && validPathID controlID &&
      validPathID req.controlEventID && req.status ≠ .pending &&
      req.occurredAt ≠ zeroTimeNanos &&
      (req.payload = "" || (JsonText.parse req.payload.toList).isSome)
  | .appendTaskLog taskID req identity =>
    identity.admitted && validPathID taskID && validPathID req.logChunkID && req.content ≠ "" &&
      decide (req.content.utf8ByteSize ≤ 65536) && req.occurredAt ≠ zeroTimeNanos
  | .createLaunchParameters identity req => identity.admitted && req.admitted
  | .replaceLaunchParameters identity environmentID req =>
    identity.admitted && validPathID environmentID && req.admitted
  | .deleteLaunchParameters identity environmentID =>
    identity.admitted && validPathID environmentID
  | .createSecret identity environmentID req =>
    identity.admitted && validPathID environmentID && req.admitted
  | .replaceSecret identity environmentID secretID req =>
    identity.admitted && validPathID environmentID && validPathID secretID &&
      validSecretValue req.value
  | .revokeSecret identity environmentID secretID =>
    identity.admitted && validPathID environmentID && validPathID secretID
  | .openEnvironment req =>
    req.identity.admitted && validPathID req.taskID && req.token ≠ "" &&
      nonBlank req.requestID

theorem nonBlank_of_validPathID {s : String} (h : validPathID s = true) : nonBlank s = true := by
  simp only [validPathID, validListingIdentifier, Bool.and_eq_true, Bool.or_eq_true,
    decide_eq_true_eq] at h
  obtain ⟨hne, heq | ⟨-, hpattern⟩⟩ := h
  · exact absurd heq hne
  · -- the first character is a letter or a digit
    unfold identifierPattern at hpattern
    unfold nonBlank
    split at hpattern
    · cases hpattern
    · rename_i c cs hs
      rw [Bool.and_eq_true] at hpattern
      have hc : c ≠ ' ' := by
        rintro rfl
        exact absurd hpattern.1 (by decide)
      rw [hs]
      simp [hc]

/-- The run of a registry behind its routes: every call has passed its handler. -/
def Admitted (calls : List Call) : Prop := ∀ call ∈ calls, call.op.admitted = true

instance (calls : List Call) : Decidable (Admitted calls) :=
  inferInstanceAs (Decidable (∀ call ∈ calls, _))

/-! ## Section 4: Images that split -/

/-- A text with a part in front of its last `@` and a part behind it. -/
def HasReference (image : String) : Prop :=
  ∃ repository digest, repository ≠ [] ∧ digest ≠ [] ∧ '@' ∉ digest ∧
    image.toList = repository ++ '@' :: digest

variable {cs : List Char}

/-- Behind the last occurrence there is none. -/
theorem splitAtLast_eq_none {c : Char} (h : c ∉ cs) : splitAtLast c cs = none := by
  induction cs with
  | nil => rfl
  | cons x xs ih =>
    rw [List.mem_cons, not_or] at h
    simp only [splitAtLast, ih h.2, if_neg (Ne.symm h.1)]

theorem splitAtLast_append {c : Char} {before after : List Char} (h : c ∉ after) :
    splitAtLast c (before ++ c :: after) = some (before, after) := by
  induction before with
  | nil => simp [splitAtLast, splitAtLast_eq_none h]
  | cons x xs ih => simp [splitAtLast, ih]

theorem splitImage_of_hasReference {image : String} (h : HasReference image) :
    ∃ reference, splitImage image = some reference := by
  obtain ⟨repository, digest, hrepo, hdigest, hlast, htext⟩ := h
  obtain ⟨x, xs, rfl⟩ := List.exists_cons_of_ne_nil hrepo
  obtain ⟨y, ys, rfl⟩ := List.exists_cons_of_ne_nil hdigest
  refine ⟨⟨String.ofList (x :: xs), String.ofList (y :: ys)⟩, ?_⟩
  rw [splitImage, htext, splitAtLast_append hlast]

theorem digestAlgorithm_no_at {begun : Bool} (h : digestAlgorithm begun cs = true) : '@' ∉ cs := by
  induction cs generalizing begun with
  | nil => exact List.not_mem_nil
  | cons c cs ih =>
    have hat : isAlphanumeric '@' = false := by decide
    simp only [digestAlgorithm] at h
    rw [List.mem_cons, not_or]
    split at h
    · split at h
      · rename_i hc
        refine ⟨?_, ih h⟩
        rintro rfl
        rw [hat] at hc
        cases hc
      · rw [Bool.and_eq_true] at h
        refine ⟨?_, ih h.2⟩
        rintro rfl
        exact absurd h.1 (by decide)
    · rw [Bool.and_eq_true] at h
      refine ⟨?_, ih h.2⟩
      rintro rfl
      exact absurd h.1 (by decide)

/-- The digest of an admitted reference is not empty and holds no further `@`. -/
theorem ociDigest_no_at (h : ociDigest cs = true) : cs ≠ [] ∧ '@' ∉ cs := by
  have hsplit : cs = cs.takeWhile (· ≠ ':') ++ cs.dropWhile (· ≠ ':') :=
    (List.takeWhile_append_dropWhile).symm
  unfold ociDigest at h
  split at h
  · rename_i encoded hdrop
    simp only [Bool.and_eq_true] at h
    obtain ⟨⟨halgorithm, -⟩, hencoded⟩ := h
    have hfront := digestAlgorithm_no_at halgorithm
    constructor
    · rintro rfl
      cases hdrop
    · rw [hsplit, hdrop, List.mem_append, List.mem_cons]
      rintro (hmem | hmem | hmem)
      · exact hfront hmem
      · cases hmem
      · exact absurd (List.all_eq_true.mp hencoded '@' hmem) (by decide)
  · cases h

/-- What the pattern of team images guarantees. -/
theorem hasReference_of_validOCIImage {image : String} (h : validOCIImage image = true) :
    HasReference image := by
  have hsplit : image.toList =
      image.toList.takeWhile (· ≠ '@') ++ image.toList.dropWhile (· ≠ '@') :=
    (List.takeWhile_append_dropWhile).symm
  unfold validOCIImage at h
  split at h
  · rename_i digest hdrop
    simp only [Bool.and_eq_true, Bool.not_eq_true', List.isEmpty_eq_false_iff] at h
    obtain ⟨⟨hname, -⟩, hdigest⟩ := h
    obtain ⟨hne, hno⟩ := ociDigest_no_at hdigest
    rw [hdrop] at hsplit
    exact ⟨_, digest, hname, hne, hno, hsplit⟩
  · cases h

end FlowAI.Registry
