import FlowAI.Gateway.Proxy

/-! # Confinement of Proxied Requests

  The operator's browser may only reach the `/ui/` routes of the State Registry.  Three
  functions look at the path of a request on its way: the multiplexer compares the
  segments of the escaped path, `proxyREST` rebuilds the URL from the decoded path, and
  `ResolveReference` removes the dot segments it then finds.

  They disagree about a dot that the client wrote as `%2e`: it is no dot segment for the
  multiplexer and it is one for the resolver.  What is sent is the decoded path, walked
  segment by segment (`forwardREST_path`), so a request stays below `/ui/` exactly when
  that walk does.
-/

namespace FlowAI.Gateway

/-! ## Section 1: What the multiplexer hands to the `/ui/` handler -/

def uiSegment : Bytes := utf8Encode "ui".toList

/-- The path as the State Registry reads it: decoded, and without its dot segments. -/
def liesUnderUI (path : Bytes) : Bool :=
  (unescapePath path).any (fun p => (slashByte :: (uiSegment ++ [slashByte])).isPrefixOf (resolvePath [] p))

variable {url : UrlPath} {r : ClientRequest} {path : Bytes}

theorem setPath_head {target : Bytes} (h : setPath target = some url)
    (hslash : target.head? = some slashByte) : url.escapedPath.head? = some slashByte := by
  simp only [setPath, Option.bind_eq_bind, Option.bind_eq_some_iff, Option.pure_def,
    Option.some.injEq] at h
  obtain ⟨path, hpath, rfl⟩ := h
  cases target with
  | nil => simp at hslash
  | cons c rest =>
    cases hslash
    rw [unescapePath_cons (by decide), Option.map_eq_some_iff] at hpath
    obtain ⟨tail, -, rfl⟩ := hpath
    generalize hraw : (if slashByte :: rest = escapePath (slashByte :: tail) then []
      else slashByte :: rest) = raw
    have hstar : slashByte :: tail ≠ [42] := by simp [slashByte]
    rcases escapedPath_cases ⟨slashByte :: tail, raw⟩ hstar with ⟨hne, hpath⟩ | hpath
    · -- the raw path is the one that was parsed
      rw [hpath, ← hraw]
      split
      · rename_i hdefault
        exact absurd (hraw.symm.trans (if_pos hdefault)) hne
      · rfl
    · rw [hpath, escapePath_slash]
      rfl

theorem requestURL_cases (h : requestURL r = some url) :
    url.escapedPath = [42] ∨ url.escapedPath = [] ∨ url.escapedPath.head? = some slashByte := by
  unfold requestURL at h
  split_ifs at h with hstar hslash
  · injection h with h
    subst h
    exact .inl (by decide)
  · rw [Bool.or_eq_true, decide_eq_true_eq, decide_eq_true_eq] at hslash
    rcases hslash with hempty | hslash
    · rw [hempty] at h
      injection h with h
      subst h
      exact .inr (.inl (by decide))
    · exact .inr (.inr (setPath_head h hslash))

/-- Only the pattern with the slash at its end leads to the proxy. -/
theorem matchesPath_of_handler {method : String}
    (h : handlerOf (findPattern method path) path = .handler .ui) :
    matchSegments [uiSegment] true path = true := by
  unfold handlerOf at h
  cases hfind : findPattern method path with
  | none =>
    rw [hfind] at h
    simp only at h
    split at h <;> cases h
  | some p =>
    rw [hfind] at h
    have hroute : p.route = .ui := Routed.handler.inj h
    have hmem : p ∈ patterns := List.mem_of_find?_eq_some hfind
    have hmatch := List.find?_some hfind
    rw [Bool.and_eq_true] at hmatch
    have hpattern : p = ⟨none, ["ui"], true, .ui⟩ := by
      simp only [patterns, List.mem_cons, List.not_mem_nil, or_false] at hmem
      rcases hmem with rfl | rfl | rfl | rfl | rfl | rfl | rfl | rfl <;> first | rfl | cases hroute
    rw [hpattern] at hmatch
    exact hmatch.2

/-- Whatever the method, the path that was compared is the escaped path of the request. -/
theorem matchSegments_of_route {method : String}
    (h : route method url = .handler .ui) : matchSegments [uiSegment] true url.escapedPath = true := by
  unfold route at h
  simp only at h
  by_cases hconnect : method = "CONNECT"
  · rw [if_pos hconnect] at h
    split_ifs at h
    exact matchesPath_of_handler h
  · rw [if_neg hconnect] at h
    split_ifs at h with hclean
    have hsame : cleanPath url.escapedPath = url.escapedPath := by
      by_contra hne
      exact hclean (by simp [hne])
    rw [hsame] at h
    exact matchesPath_of_handler h

/-- A first segment that something follows: the text between two slashes. -/
theorem firstSegment_eq {name : Bytes} (hslash : path.head? = some slashByte)
    (hfirst : (firstSegment path).1 = name) (hrest : (firstSegment path).2 ≠ []) :
    ∃ segment after, path = slashByte :: (segment ++ slashByte :: after) ∧ slashByte ∉ segment ∧
      (unescapePath segment).getD segment = name := by
  unfold firstSegment at hfirst hrest
  by_cases hroot : path = [slashByte]
  · rw [if_pos hroot] at hrest
    exact absurd rfl hrest
  rw [if_neg hroot] at hfirst hrest
  cases path with
  | nil => simp at hslash
  | cons c tail =>
    cases hslash
    simp only [List.drop_succ_cons, List.drop_zero] at hfirst hrest
    obtain ⟨d, after, hafter⟩ := List.exists_cons_of_ne_nil hrest
    have hd : d = slashByte := by
      have hhead := List.head?_dropWhile_not (fun x => decide (x ≠ slashByte)) tail
      rw [hafter] at hhead
      simpa using hhead
    refine ⟨tail.takeWhile (fun x => decide (x ≠ slashByte)), after, ?_, ?_, hfirst⟩
    · rw [show slashByte :: after = tail.dropWhile (fun x => decide (x ≠ slashByte)) by
        rw [hafter, hd], List.takeWhile_append_dropWhile]
    · intro hmem
      have hall : (tail.takeWhile (fun x => decide (x ≠ slashByte))).all
          (fun x => decide (x ≠ slashByte)) = true := List.all_takeWhile
      rw [List.all_eq_true] at hall
      simpa using hall slashByte hmem

/-- The decoded path of a request for the proxy: the empty segment of the root, `ui`, and at
    least one more. -/
theorem splitSlashes_of_route (hurl : requestURL r = some url)
    (h : route r.method url = .handler .ui) :
    ∃ rest, rest ≠ [] ∧ splitSlashes url.path = [] :: uiSegment :: rest := by
  have hmatch := matchSegments_of_route h
  have hdecode := unescapePath_escapedPath url
  have hform := requestURL_cases hurl
  simp only [matchSegments, Bool.and_eq_true, decide_eq_true_eq, ite_true] at hmatch
  obtain ⟨⟨hne, hfirst⟩, hrest⟩ := hmatch
  generalize url.escapedPath = escaped at hne hfirst hrest hdecode hform
  rcases hform with rfl | rfl | hslash
  · exact absurd rfl hrest
  · exact absurd rfl hne
  obtain ⟨segment, after, rfl, hplain, hsegment⟩ := firstSegment_eq hslash hfirst hrest
  have hdecoded : unescapePath segment = some uiSegment := by
    cases hread : unescapePath segment with
    | some s => rw [hread] at hsegment; exact congrArg some hsegment
    | none =>
      -- a segment that cannot be decoded is compared as it stands, and `ui` can be
      rw [hread] at hsegment
      rw [show segment = uiSegment from hsegment] at hread
      exact absurd hread (by decide)
  obtain ⟨tail, htail, hpath⟩ := unescapePath_slash (a := []) hdecode rfl
  obtain ⟨rest, -, rfl⟩ := unescapePath_slash htail hdecoded
  refine ⟨splitSlashes rest, splitSlashes_ne_nil rest, ?_⟩
  rw [hpath, splitSlashes_append_slash (by simp), splitSlashes_append_slash (by decide)]

/-! ## Section 2: What is sent -/

theorem ne_star_of_head (h : path.head? = some slashByte) : path ≠ [42] := by
  rintro rfl
  exact absurd h (by decide)

/-- What is sent is the decoded path at the end of its walk. -/
theorem forwardREST_path (h : url.path.head? = some slashByte) (base : UrlPath)
    (claims : Claims) (r : ClientRequest) (requestID : String) :
    ∃ child, forwardREST (some base) claims url r requestID = .ok child ∧
      child.path = escapePath (walkedPath (splitSlashes url.path)) := by
  have hresolve : resolvePath base.escapedPath (UrlPath.mk url.path []).escapedPath =
      escapePath (walkedPath (splitSlashes url.path)) := by
    rw [escapedPath_decoded (ne_star_of_head h), resolvePath_escapePath _ h]
  have hsent : sentPath ⟨walkedPath (splitSlashes url.path), []⟩ =
      some (escapePath (walkedPath (splitSlashes url.path))) := by
    have hstar := ne_star_of_head (head?_walkedPath (splitSlashes url.path))
    unfold sentPath
    rw [escapedPath_decoded hstar, setPath_escapePath, Option.map_some, escapedPath_decoded hstar]
  refine ⟨⟨r.method, escapePath (walkedPath (splitSlashes url.path)), r.rawQuery,
    trustedHeader (Header.addAll .empty r.header forwardedREST) claims requestID⟩, ?_, rfl⟩
  simp only [forwardREST, Check.need, bind, Except.bind, hresolve, setPath_escapePath, hsent]
  rfl

theorem liesUnderUI_walkedPath (path : Bytes) :
    liesUnderUI (escapePath (walkedPath (splitSlashes path))) = true ↔
      endsBelow uiSegment (splitSlashes path) = true := by
  unfold liesUnderUI
  rw [unescapePath_escapePath, Option.any_some, resolvePath_walkedPath [] slash_not_mem_splitSlashes,
    List.isPrefixOf_iff_prefix]
  exact prefix_walkedPath (by decide) (by decide) slash_not_mem_splitSlashes

/-! ## Section 3: Confinement -/

/-- A request that the multiplexer gives to the proxy is sent on, and what is sent lies under
    `/ui/` exactly when the walk over the decoded path of the request ends below `ui`. -/
theorem proxied_path_confined_iff {r : ClientRequest} {url : UrlPath} (hurl : requestURL r = some url)
    (hroute : route r.method url = .handler .ui) (base : UrlPath) (claims : Claims)
    (requestID : String) :
    ∃ child, forwardREST (some base) claims url r requestID = .ok child ∧
      (liesUnderUI child.path = true ↔ endsBelow uiSegment (splitSlashes url.path) = true) := by
  obtain ⟨rest, -, hsplit⟩ := splitSlashes_of_route hurl hroute
  have hhead : url.path.head? = some slashByte := by
    rw [← joinSlashes_splitSlashes url.path, hsplit, joinSlashes_cons [] (by simp)]
    rfl
  obtain ⟨child, hchild, hpath⟩ := forwardREST_path hhead base claims r requestID
  refine ⟨child, hchild, ?_⟩
  rw [hpath]
  exact liesUnderUI_walkedPath url.path

def sampleClaims : Claims :=
  ⟨"flowai-api-gateway", "flowai-state-registry", "oidc_1", "oidc_1", "team_1", none, 0, 900, "jti_1"⟩

def sampleRequest (method path : String) : ClientRequest :=
  ⟨method, utf8Encode path.toList, "", .empty⟩

/-- An escaped slash stays below `/ui/`. -/
theorem proxied_path_confined_iff_sample :
    ∃ child, forwardREST (some ⟨[], []⟩) sampleClaims
        ⟨utf8Encode "/ui/tasks/a/b".toList, utf8Encode "/ui/tasks/a%2Fb".toList⟩
        (sampleRequest "GET" "/ui/tasks/a%2Fb") "req_1" = .ok child ∧
      liesUnderUI child.path = true := by
  have hurl : requestURL (sampleRequest "GET" "/ui/tasks/a%2Fb") =
      some ⟨utf8Encode "/ui/tasks/a/b".toList, utf8Encode "/ui/tasks/a%2Fb".toList⟩ := by
    decide +kernel
  obtain ⟨child, hchild, hconfined⟩ :=
    proxied_path_confined_iff hurl (by decide +kernel) ⟨[], []⟩ sampleClaims "req_1"
  exact ⟨child, hchild, hconfined.mpr (by decide +kernel)⟩

/-- Escaped dots pass the multiplexer as a name and then lead out of `/ui/`. -/
theorem escaped_dots_leave_ui :
    requestURL (sampleRequest "GET" "/ui/%2e%2e/v1/tasks") =
        some ⟨utf8Encode "/ui/../v1/tasks".toList, utf8Encode "/ui/%2e%2e/v1/tasks".toList⟩ ∧
      route "GET" ⟨utf8Encode "/ui/../v1/tasks".toList, utf8Encode "/ui/%2e%2e/v1/tasks".toList⟩ =
        .handler .ui ∧
      (forwardREST (some ⟨[], []⟩) sampleClaims
          ⟨utf8Encode "/ui/../v1/tasks".toList, utf8Encode "/ui/%2e%2e/v1/tasks".toList⟩
          (sampleRequest "GET" "/ui/%2e%2e/v1/tasks") "req_1").map ChildRequest.path =
        .ok (utf8Encode "/v1/tasks".toList) ∧
      liesUnderUI (utf8Encode "/v1/tasks".toList) = false := by
  decide +kernel

end FlowAI.Gateway
