import FlowAI.Registry.Assignment
import FlowAI.Registry.Routes

/-! # The Image a Task Runs

  The image reference on its way from the Registry to a container: the Registry resolves a
  repository and a digest at the claim, the Docker executor joins the two
  (`docker_openhands`, `v0002.go`), the Kubernetes executor joins them unless the
  repository looks as if it had a tag or a digest already (`k8s-openhands`, `v0002.go`).

  The Registry sends no tag, but a repository may end in one.
-/

namespace FlowAI.Executors

open Registry

variable {text : String} {cfg : Config} {resolved : Json} {db db' : Db}

/-! ## Section 1: The references -/

/-- `V0002ImageReference`, as both executors decode it. -/
structure V0002ImageReference where
  repository : String
  tag : String
  digest : String
  deriving DecidableEq

/-- The Registry's reference has no `tag` member. -/
def V0002ImageReference.ofRegistry (image : ImageReference) : V0002ImageReference :=
  ⟨image.repository, "", image.digest⟩

/-- A decoded image that has a repository. -/
def namedImage (image : Option ImageReference) : Option V0002ImageReference :=
  (image.map V0002ImageReference.ofRegistry).filter (fun i => i.repository ≠ "")

/-- The image the Docker executor looks at: the claim's, else the task's. -/
def dockerImage (response : ClaimResponse) : Option V0002ImageReference :=
  (namedImage response.resolvedImage).or (namedImage response.task.resolvedImage)

/-- `imageRef` of the Docker executor; `none` if no image was resolved. -/
def dockerImageRef (response : ClaimResponse) : Option String :=
  (dockerImage response).map (fun image =>
    if image.tag ≠ "" then image.repository ++ ":" ++ image.tag
    else if image.digest ≠ "" then image.repository ++ "@" ++ image.digest
    else image.repository)

/-- `strings.LastIndex` of a character. -/
def lastIndex (c : Char) : List Char → Int
  | [] => -1
  | x :: xs =>
    if 0 ≤ lastIndex c xs then lastIndex c xs + 1 else if x = c then 0 else -1

def imageRefAlreadyHasTagOrDigest (imageRef : String) : Bool :=
  if '@' ∈ imageRef.toList then true
  else if ':' ∈ imageRef.toList then
    lastIndex '/' imageRef.toList < lastIndex ':' imageRef.toList
  else false

/-- `imageRef` of the Kubernetes executor; `none` if no image was resolved. -/
def k8sImageRef (response : ClaimResponse) : Option String :=
  (namedImage (response.resolvedImage.or response.task.resolvedImage)).map (fun image =>
    if imageRefAlreadyHasTagOrDigest image.repository then image.repository
    else if image.tag ≠ "" then image.repository ++ ":" ++ image.tag
    else if image.digest ≠ "" then image.repository ++ "@" ++ image.digest
    else image.repository)

/-! ## Section 2: The heuristic -/

/-- Nothing in the repository is taken for a tag or a digest: it has no `@`, and every colon
    is in front of a slash, as that of a host and its port is. -/
def Untagged (repository : List Char) : Prop :=
  '@' ∉ repository ∧ ∀ before after, repository = before ++ ':' :: after → '/' ∈ after

theorem lastIndex_bound (c : Char) (cs : List Char) : -1 ≤ lastIndex c cs := by
  induction cs with
  | nil => exact le_rfl
  | cons x xs ih =>
    unfold lastIndex
    split
    · omega
    · split <;> omega

theorem lastIndex_nonneg_iff (c : Char) (cs : List Char) : 0 ≤ lastIndex c cs ↔ c ∈ cs := by
  induction cs with
  | nil => simp [lastIndex]
  | cons x xs ih =>
    unfold lastIndex
    rw [List.mem_cons, ← ih]
    split
    · rename_i hxs
      exact ⟨fun _ => .inr hxs, fun _ => by omega⟩
    · rename_i hxs
      split
      · rename_i hx
        exact ⟨fun _ => .inl hx.symm, fun _ => le_rfl⟩
      · rename_i hx
        constructor
        · intro hneg
          omega
        · intro hor
          exact absurd hor (not_or.mpr ⟨fun h => hx h.symm, hxs⟩)

/-- The last `d` stands behind the last `c`. -/
theorem lastIndex_lt_iff {c d : Char} (hcd : c ≠ d) (cs : List Char) :
    lastIndex c cs < lastIndex d cs ↔ ∃ before after, cs = before ++ d :: after ∧ c ∉ after := by
  induction cs with
  | nil => simp [lastIndex]
  | cons x xs ih =>
    have hc := lastIndex_nonneg_iff c xs
    have hd := lastIndex_nonneg_iff d xs
    have hbound := lastIndex_bound c xs
    by_cases hdx : d ∈ xs
    · have hlast : lastIndex d (x :: xs) = lastIndex d xs + 1 := by
        rw [lastIndex, if_pos (hd.mpr hdx)]
      have hle : lastIndex c (x :: xs) ≤ lastIndex c xs + 1 := by
        rw [lastIndex]
        split
        · exact le_rfl
        · split <;> omega
      -- the last `d` is in the tail, so the head says nothing
      have htail : lastIndex c (x :: xs) < lastIndex d (x :: xs) ↔ lastIndex c xs < lastIndex d xs := by
        have hd0 := hd.mpr hdx
        rw [hlast]
        by_cases hcx : c ∈ xs
        · rw [lastIndex, if_pos (hc.mpr hcx)]
          omega
        · have hneg : ¬ 0 ≤ lastIndex c xs := fun h => hcx (hc.mp h)
          omega
      rw [htail, ih]
      constructor
      · intro h
        obtain ⟨before, after, rfl, hno⟩ := h
        exact ⟨x :: before, after, rfl, hno⟩
      · intro h
        obtain ⟨before, after, heq, hno⟩ := h
        cases before with
        | cons y before =>
          injection heq with _ heq
          exact ⟨before, after, heq, hno⟩
        | nil =>
          injection heq with _ heq
          obtain ⟨before, after', hsplit⟩ := List.append_of_mem hdx
          refine ⟨before, after', hsplit, ?_⟩
          intro hin
          rw [heq] at hsplit
          exact hno (hsplit ▸ List.mem_append_right _ (List.mem_cons_of_mem _ hin))
    · have hlast : lastIndex d (x :: xs) = if x = d then 0 else -1 := by
        rw [lastIndex, if_neg (fun h => hdx (hd.mp h))]
      rw [hlast]
      constructor
      · intro h
        have hx : x = d := by
          by_contra hx
          rw [if_neg hx] at h
          have := lastIndex_bound c (x :: xs)
          omega
        refine ⟨[], xs, by rw [hx, List.nil_append], ?_⟩
        intro hin
        rw [if_pos hx, lastIndex, if_pos (hc.mpr hin)] at h
        have := hc.mpr hin
        omega
      · intro h
        obtain ⟨before, after, heq, hno⟩ := h
        cases before with
        | cons y before =>
          injection heq with _ heq
          exact absurd (heq ▸ List.mem_append_right _ List.mem_cons_self) hdx
        | nil =>
          injection heq with hx heq
          have hneg : ¬ 0 ≤ lastIndex c xs := fun h0 => hno (heq ▸ hc.mp h0)
          rw [if_pos hx, lastIndex, if_neg hneg, if_neg (fun hxc => hcd (hxc.symm.trans hx))]
          decide

theorem hasTagOrDigest_eq_false_iff (imageRef : String) :
    imageRefAlreadyHasTagOrDigest imageRef = false ↔ Untagged imageRef.toList := by
  unfold imageRefAlreadyHasTagOrDigest Untagged
  by_cases hat : '@' ∈ imageRef.toList
  · simp [hat]
  · have hlast := lastIndex_lt_iff (c := '/') (d := ':') (by decide) imageRef.toList
    have hcolon : (∃ before after, imageRef.toList = before ++ ':' :: after ∧ '/' ∉ after) →
        ':' ∈ imageRef.toList := by
      intro h
      obtain ⟨before, after, heq, -⟩ := h
      rw [heq]
      exact List.mem_append_right _ List.mem_cons_self
    have hnone : (∀ before after, imageRef.toList = before ++ ':' :: after → '/' ∈ after) ↔
        ¬ ∃ before after, imageRef.toList = before ++ ':' :: after ∧ '/' ∉ after := by
      push Not
      rfl
    rw [if_neg hat, hnone, ← hlast]
    by_cases hc : ':' ∈ imageRef.toList
    · rw [if_pos hc, decide_eq_false_iff_not]
      exact ⟨fun h => ⟨hat, h⟩, fun h => h.2⟩
    · rw [if_neg hc]
      exact ⟨fun _ => ⟨hat, fun h => hc (hcolon (hlast.mp h))⟩, fun _ => rfl⟩

/-! ## Section 3: What the Registry resolves -/

/-- A stored image with a repository and a digest. -/
def IsPinned (j : Json) : Prop :=
  ∃ image : ImageReference, image.repository ≠ "" ∧ image.digest ≠ "" ∧ j = image.toJson.jsonb

/-- The images a claim reads, and those it has written. -/
structure StoredImages (db : Db) : Prop where
  teams : ∀ t ∈ db.teams.rows, validOCIImage t.defaultImage = true
  tasks : ∀ t ∈ db.tasks.rows, (∀ j ∈ t.image, IsPinned j) ∧ ∀ j ∈ t.resolvedImage, IsPinned j
  taskTypes : ∀ t ∈ db.taskTypes.rows, ∀ j ∈ t.defaultImage, IsPinned j
  sourceSystems : ∀ s ∈ db.sourceSystems.rows, ∀ j ∈ s.defaultImage, IsPinned j

/-- The database takes a text that starts with a brace for a JSON value only if it ends with
    one, blanks aside. -/
def ReadsObjects (cfg : Config) : Prop :=
  ∀ text : String, text.toList.head? = some '\x7b' → (cfg.jsonbText text).isSome →
    ∃ c, text.toList.getLast? = some c ∧ (c = '\x7d' ∨ isPatternSpace c = true)

theorem pinned_of_valid {image : Option ImageReference}
    (h : validOptionalImage image = true) :
    ∀ j ∈ nullableImage image, IsPinned j := by
  intro j hj
  obtain ⟨reference, rfl, rfl⟩ := Option.map_eq_some_iff.mp hj
  have hvalid : validImage reference = true := h
  simp only [validImage, Bool.and_eq_true] at hvalid
  obtain ⟨⟨-, hrepo⟩, hdigest⟩ := hvalid
  refine ⟨reference, ?_, ?_, rfl⟩
  · intro hempty
    rw [hempty] at hrepo
    exact absurd hrepo (by decide)
  · intro hempty
    rw [hempty] at hdigest
    exact absurd hdigest (by decide)

variable {image : ImageReference} {req : ClaimRequest} {identity : ExecutorIdentity}

theorem pinned_of_split (h : splitImage text = some image) :
    IsPinned image.toJson.jsonb := by
  unfold splitImage at h
  split at h
  · obtain rfl := Option.some.inj h
    exact ⟨_, by simp, by simp, rfl⟩
  · cases h

/-- The image of a team that the database takes for JSON has not passed the handler. -/
theorem jsonbText_of_validOCIImage (hcfg : ReadsObjects cfg)
    (hvalid : validOCIImage text = true) (hbrace : text.toList.head? = some '\x7b') :
    cfg.jsonbText text = none := by
  by_contra hread
  obtain ⟨c, hlast, hc⟩ := hcfg text hbrace (Option.isSome_iff_ne_none.mpr hread)
  unfold validOCIImage at hvalid
  split at hvalid
  · rename_i digest hdrop
    rw [Bool.and_eq_true] at hvalid
    have hdigest := hvalid.2
    unfold ociDigest at hdigest
    split at hdigest
    · rename_i encoded hcolon
      simp only [Bool.and_eq_true, Bool.not_eq_true', List.isEmpty_eq_false_iff,
        List.all_eq_true] at hdigest
      obtain ⟨⟨-, hne⟩, hall⟩ := hdigest
      -- the last character of the text is the last one of the digest
      have htext : text.toList = (text.toList.takeWhile (· ≠ '@') ++ '@' ::
          (digest.takeWhile (· ≠ ':')) ++ [':']) ++ encoded := by
        conv_lhs => rw [← List.takeWhile_append_dropWhile (p := (· ≠ '@')) (l := text.toList), hdrop,
          ← List.takeWhile_append_dropWhile (p := (· ≠ ':')) (l := digest), hcolon]
        simp
      rw [htext, List.getLast?_append_of_ne_nil _ hne] at hlast
      have hin := hall c (List.mem_of_getLast? hlast)
      rcases hc with rfl | hspace
      · exact absurd hin (by decide)
      · simp only [isPatternSpace, List.mem_cons, List.not_mem_nil, or_false,
          decide_eq_true_eq] at hspace
        rcases hspace with rfl | rfl | rfl | rfl | rfl <;> exact absurd hin (by decide)
    · cases hdigest
  · cases hvalid

/-- What is stored as an image is written back as it is. -/
theorem IsPinned.cast {j : Json} (h : IsPinned j)
    (hcast : (ImageText.value j).cast cfg = some resolved) : IsPinned resolved := by
  obtain ⟨image, hrepo, hdigest, rfl⟩ := h
  have hsame : resolved = image.toJson.jsonb.jsonb := (Option.some.inj hcast).symm
  exact ⟨image, hrepo, hdigest, hsame.trans (Json.jsonb_jsonb _)⟩

theorem IsPinned.cast_split (h : splitImage text = some image)
    (hcast : (ImageText.value image.toJson).cast cfg = some resolved) :
    IsPinned resolved := by
  have hsame : image.toJson.jsonb = resolved := Option.some.inj hcast
  exact hsame ▸ pinned_of_split h

/-- Whatever level the image of a claim comes from, it is pinned. -/
theorem pinned_of_resolved (hcfg : ReadsObjects cfg) (h : StoredImages db) {task : TaskRow}
    (htask : task ∈ db.tasks.rows) {launch : Option (String × ImageSource)}
    {image : ImageText} {source : ImageSource}
    (himage : resolveClaimImageLocked db task launch = .ok (image, source))
    (hcast : image.cast cfg = some resolved) : IsPinned resolved := by
  unfold resolveClaimImageLocked at himage
  split at himage
  · rename_i j hj
    cases himage
    exact ((h.tasks task htask).1 j hj).cast hcast
  · split at himage
    · rename_i reference hsplit
      cases himage
      exact IsPinned.cast_split hsplit hcast
    · cases himage
  · split at himage
    · rename_i j hj
      cases himage
      obtain ⟨taskType, hfound, hdefault⟩ := Option.bind_eq_some_iff.mp hj
      have hmem := Table.mem_of_lookup (Option.filter_eq_some_iff.mp hfound).1
      exact (h.taskTypes taskType hmem j hdefault).cast hcast
    · split at himage
      · rename_i j hj
        cases himage
        obtain ⟨system, hfound, hdefault⟩ := Option.bind_eq_some_iff.mp hj
        have hmem := Table.mem_of_lookup (Option.filter_eq_some_iff.mp hfound).1
        exact (h.sourceSystems system hmem j hdefault).cast hcast
      · split at himage
        · cases himage
        · rename_i team hteam
          have hvalid := h.teams team (Table.mem_of_lookup hteam)
          unfold teamDefaultImage at himage
          split at himage
          · rename_i hbrace
            cases himage
            rw [show (ImageText.raw team.defaultImage).cast cfg =
              cfg.jsonbText team.defaultImage from rfl,
              jsonbText_of_validOCIImage hcfg hvalid hbrace] at hcast
            cases hcast
          · split at himage
            · rename_i reference hsplit
              cases himage
              exact IsPinned.cast_split hsplit hcast
            · cases himage

theorem storedImages_empty : StoredImages Db.empty := by
  refine ⟨?_, ?_, ?_, ?_⟩ <;> intro r hr <;> cases hr

/-- A first claim stores the image it resolved. -/
theorem StoredImages.claim (hcfg : ReadsObjects cfg) {env : CallEnv}
    {executorID : String} {executor : ExecutorRow} {task : TaskRow} (h : StoredImages db)
    (hmay : MayClaim db req executorID identity executor task)
    (hfresh : FreshClaim cfg env req executorID executor task db db') :
    StoredImages db' := by
  obtain ⟨image, source, resolved, snapshots, secretRefs, tasks, _, -, himage, hcast, htasks, -,
    rfl⟩ := hfresh.effect
  have hstored : StoredImages { db with snapshots, secretRefs } := { h with }
  have hpinned := pinned_of_resolved hcfg hstored (Table.mem_of_lookup hmay.found) himage hcast
  refine { h with tasks := Table.forall_update h.tasks htasks ?_ }
  intro t ht _
  refine ⟨(h.tasks t ht).1, ?_⟩
  intro j hj
  have hsame : resolved = j := Option.some.inj hj
  exact hsame ▸ hpinned

/-- Step lemma. -/
theorem StoredImages.step (hcfg : ReadsObjects cfg) {call : Call}
    (heffect : Effect cfg call db db') (hadmitted : call.op.admitted = true)
    (h : StoredImages db) : StoredImages db' := by
  cases heffect with
  | @createTeam req ident team _ _ _ hop hins himage =>
    simp only [hop, Op.admitted, Bool.and_eq_true] at hadmitted
    refine { h with teams := Table.forall_insert h.teams hins ?_ }
    rw [himage]
    exact hadmitted.2
  | @updateTeam teamID req ident _ _ _ hop hupd =>
    simp only [hop, Op.admitted, Bool.and_eq_true] at hadmitted
    refine { h with teams := Table.forall_update h.teams hupd ?_ }
    intro team hteam _
    cases himage : req.defaultImage with
    | none => simpa [UpdateTeamRequest.apply, himage] using h.teams team hteam
    | some image =>
      have hvalid : validOCIImage image = true := by simpa [himage] using hadmitted.2
      simpa [UpdateTeamRequest.apply, himage] using hvalid
  | archiveTeam hupd =>
    exact { h with teams := Table.forall_update h.teams hupd (fun t ht _ => h.teams t ht) }
  | createSourceSystem hop hins himage =>
    simp only [hop, Op.admitted, Bool.and_eq_true] at hadmitted
    refine { h with sourceSystems := Table.forall_insert h.sourceSystems hins ?_ }
    rw [himage]
    exact pinned_of_valid hadmitted.2
  | createTaskType hop hins himage =>
    simp only [hop, Op.admitted, Bool.and_eq_true] at hadmitted
    refine { h with taskTypes := Table.forall_insert h.taskTypes hins ?_ }
    rw [himage]
    exact pinned_of_valid hadmitted.2
  | @ingestTask req ident taskType payload _ hop _ _ _ hins =>
    simp only [hop, Op.admitted, Bool.and_eq_true] at hadmitted
    refine { h with tasks := Table.forall_insert h.tasks hins ⟨?_, ?_⟩ }
    · exact pinned_of_valid hadmitted.1.1.1.2
    · intro j hj
      cases hj
  | claimTask _ hmay hfresh => exact h.claim hcfg hmay hfresh
  | appendTaskEvent _ _ _ _ hfresh =>
    obtain ⟨_, _, _, -, htasks, -, rfl⟩ := hfresh.effect
    exact { h with tasks := Table.forall_update h.tasks htasks (fun t ht _ => h.tasks t ht) }
  | appendTaskControlEvent _ _ _ hfresh =>
    obtain ⟨_, _, _, -, -, -, rfl⟩ := hfresh.effect
    exact { h with }
  | _ => exact { h with }

/-- Run lemma: behind the handlers every stored image is pinned. -/
theorem storedImages_serve (hcfg : ReadsObjects cfg) {calls : List Call}
    (hadmitted : Admitted calls) (h : StoredImages db) :
    StoredImages (serve cfg db calls) := by
  induction calls generalizing db with
  | nil => exact h
  | cons call calls ih =>
    apply ih (fun c hc => hadmitted c (List.mem_cons_of_mem _ hc))
    exact h.step hcfg (step_effect rfl) (hadmitted call List.mem_cons_self)

/-! ## Section 4: From the claim to the container -/

/-- The image in the response to a claim is that of the claimed task. -/
theorem pinned_of_response {env : CallEnv} {executorID : String} {response : ClaimResponse}
    (hclaim : claimTask cfg env req executorID identity db = .ok (response, db'))
    (h : StoredImages db') :
    ∃ image, response.resolvedImage = some image ∧ image.repository ≠ "" ∧ image.digest ≠ "" := by
  obtain ⟨t, ht, hexec⟩ := assigned_of_claim hclaim
  have hmem := Table.mem_of_lookup ht
  have hstate := ne_pending_of_executorID ht hexec
  obtain ⟨j, hj⟩ := Option.isSome_iff_exists.mp (claimColumns_of_claimed hmem hstate).1
  obtain ⟨image, hrepo, hdigest, rfl⟩ := (h.tasks t hmem).2 j hj
  obtain ⟨_, _, _, hbuilt, -⟩ := claimTask_ok hclaim
  obtain ⟨⟨t', entry, token, ht', hscan, -, rfl⟩, -⟩ :=
    buildClaimResponseForRow_eq_ok.mp hbuilt
  obtain rfl : t = t' := Option.some.inj (ht.symm.trans ht')
  have hdecoded := (scanTaskRow_eq_ok hscan).2.2.2.2.2.2
  rw [hj] at hdecoded
  simp only [decodeNullableImage, ImageReference.ofJson_jsonb_toJson,
    Except.ok.injEq] at hdecoded
  exact ⟨image, hdecoded.symm, hrepo, hdigest⟩

/-- Every image the Registry resolves at a claim, first or repeated, in every run behind its
    handlers: the Docker executor starts repository and digest; the Kubernetes executor does
    if and only if the repository has nothing that looks like a tag or a digest. -/
theorem resolved_image_verbatim {cfg : Config} (hcfg : ReadsObjects cfg) {calls : List Call}
    (hadmitted : Admitted calls) {env : CallEnv} {req : ClaimRequest}
    {executorID : String} {identity : ExecutorIdentity} {response : ClaimResponse}
    {db' : Db} (hclaim : claimTask cfg env req executorID identity
      (serve cfg Db.empty calls) = .ok (response, db')) :
    ∃ image, response.resolvedImage = some image ∧
      dockerImageRef response = some (image.repository ++ "@" ++ image.digest) ∧
      (k8sImageRef response = some (image.repository ++ "@" ++ image.digest) ↔
        Untagged image.repository.toList) := by
  have hbefore : StoredImages (serve cfg Db.empty calls) :=
    storedImages_serve hcfg hadmitted storedImages_empty
  have hafter : StoredImages db' := by
    obtain ⟨_, _, hmay, -, ⟨-, -, -, rfl⟩ | hfresh⟩ := claimTask_ok hclaim
    · exact hbefore
    · exact hbefore.claim hcfg hmay hfresh
  obtain ⟨image, himage, hrepo, hdigest⟩ := pinned_of_response hclaim hafter
  have hnamed : namedImage (some image) = some ⟨image.repository, "", image.digest⟩ := by
    simp [namedImage, V0002ImageReference.ofRegistry, hrepo]
  refine ⟨image, himage, ?_, ?_⟩
  · simp [dockerImageRef, dockerImage, himage, hnamed, hdigest]
  · rw [← hasTagOrDigest_eq_false_iff]
    have hjoin : image.repository ++ "@" ++ image.digest ≠ image.repository := by
      intro hsame
      have hlength := congrArg String.length hsame
      rw [String.length_append, String.length_append] at hlength
      have hat : ("@" : String).length = 1 := rfl
      omega
    cases hguess : imageRefAlreadyHasTagOrDigest image.repository with
    | false => simp [k8sImageRef, himage, hnamed, hguess, hdigest]
    | true => simpa [k8sImageRef, himage, hnamed, hguess] using hjoin.symm

/-- A digest of the sample images. -/
def sampleDigest : String := "sha256:" ++ String.ofList (List.replicate 64 '0')

/-- The sample deployment with a task that brings its own image. -/
def sampleImageTask (repository : String) : List Call :=
  sampleSetup ++ [⟨sampleEnv "task" 5,
    .ingestTask ⟨"team", "source", "1", "type", .text (.obj []), none,
      some ⟨repository, sampleDigest⟩⟩ ⟨"team", "source", "listener", "request"⟩⟩]

/-- The claim of that task. -/
def sampleImageClaim (repository : String) : Except StoreError (ClaimResponse × Db) :=
  claimTask sampleConfig (sampleEnv "claim" 6) ⟨"task", "command"⟩ "exec"
    sampleIdentity (serve sampleConfig Db.empty (sampleImageTask repository))

theorem readsObjects_sample : ReadsObjects sampleConfig := by
  intro text _ hread
  cases hread

/-- A repository with a host and no tag arrives in full. -/
theorem resolved_image_verbatim_sample : ∃ response db',
    sampleImageClaim "host/agent" = .ok (response, db') ∧
      dockerImageRef response = some ("host/agent@" ++ sampleDigest) ∧
      k8sImageRef response = some ("host/agent@" ++ sampleDigest) := by
  have hrun : ∃ response db', sampleImageClaim "host/agent" = .ok (response, db') ∧
      response.resolvedImage = some ⟨"host/agent", sampleDigest⟩ :=
    Check.exists_ok_pair (by decide +kernel)
  obtain ⟨response, db', hclaim, himage⟩ := hrun
  have hadmitted : Admitted (sampleImageTask "host/agent") := by decide +kernel
  obtain ⟨image, hsome, hdocker, hk8s⟩ :=
    resolved_image_verbatim readsObjects_sample hadmitted hclaim
  obtain rfl : (⟨"host/agent", sampleDigest⟩ : ImageReference) = image :=
    Option.some.inj (himage.symm.trans hsome)
  refine ⟨response, db', hclaim, hdocker, hk8s.mpr ?_⟩
  exact (hasTagOrDigest_eq_false_iff "host/agent").mp (by decide)

/-- A tag in the repository makes the Kubernetes executor drop the digest. -/
theorem digest_dropped : Admitted (sampleImageTask "host/agent:1.0") ∧
    ∃ response db', sampleImageClaim "host/agent:1.0" = .ok (response, db') ∧
      response.resolvedImage = some ⟨"host/agent:1.0", sampleDigest⟩ ∧
      dockerImageRef response = some ("host/agent:1.0@" ++ sampleDigest) ∧
      k8sImageRef response = some "host/agent:1.0" :=
  ⟨by decide +kernel, Check.exists_ok_pair (by decide +kernel)⟩

end FlowAI.Executors
