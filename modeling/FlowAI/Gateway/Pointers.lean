import FlowAI.Gateway.Oidc

/-! # JSON pointers

  `resolvePointer` of `oidc/team_claims.go` and `ValuesAtPointer` of `jwtverify/verifier.go` in
  the Gateway, and `valuesAtPointer` of `adminauth/authenticator.go` in the State Registry, are
  three walkers of one claims document.  The first unescapes a token in one pass, the other two
  by two replacements.
-/

namespace FlowAI

open JsonText

/-! ## Section 1: The walkers of the two verifiers -/

/-- `strings.ReplaceAll` of the text `ab` by `c`. -/
def replaceAll (a b c : Char) : List Char → List Char
  | x :: y :: rest =>
    if x = a ∧ y = b then c :: replaceAll a b c rest else x :: replaceAll a b c (y :: rest)
  | rest => rest

/-- One round of the loop of both walkers. -/
def pointerStep {ε : Type} (missing invalid : ε) : JsonText → List Char → Except ε JsonText
  | .obj members, raw => Check.need ((rawMap members).lookup
      (String.ofList (replaceAll '~' '0' '~' (replaceAll '~' '1' '/' raw)))) missing
  | _, _ => .error invalid

/-- The loop, after the leading slash. -/
def walkPointer {ε : Type} (missing invalid : ε) (claims : StrMap JsonText) (pointer : List Char) :
    Except ε JsonText :=
  (pointer.splitOn '/').foldlM (pointerStep missing invalid) (.obj claims.entries)

/-- The roles: an array of strings that are not empty. -/
def stringItems {ε : Type} (invalid : ε) : JsonText → Except ε (List String)
  | .arr items => items.mapM (fun item =>
      match item with
      | .str s => if s = "" then .error invalid else .ok s
      | _ => .error invalid)
  | _ => .error invalid

namespace Gateway

/-- The errors of `jwtverify`. -/
inductive JwtError where
  | invalidToken
  | jwksUnavailable
  | claimMissing
  | plain (message : String)

def valuesAtPointer (claims : StrMap JsonText) (pointer : String) :
    Except JwtError (List String) := do
  Check.ensure (pointer.toList.head? = some '/')
    (.plain "role pointer must be a non-empty RFC 6901 pointer")
  stringItems .invalidToken
    (← walkPointer .claimMissing .invalidToken claims pointer.toList.tail)

end Gateway

namespace Registry

/-- The errors of the Registry's `adminauth`. -/
inductive AdminError where
  | invalid
  | role
  | unavailable
  | claimMissing

def valuesAtPointer (claims : StrMap JsonText) (pointer : String) :
    Except AdminError (List String) := do
  stringItems .invalid (← walkPointer .claimMissing .invalid claims pointer.toList.tail)

end Registry

/-! ## Section 2: The path of keys a pointer names -/

/-- The escapes of RFC 6901. -/
def escapeKey (key : List Char) : List Char :=
  key.flatMap (fun c => if c = '~' then ['~', '0'] else if c = '/' then ['~', '1'] else [c])

def pointerOf (keys : List String) : String :=
  String.ofList (keys.flatMap (fun k => '/' :: escapeKey k.toList))

def atKey : JsonText → String → Option JsonText
  | .obj members, k => (rawMap members).lookup k
  | _, _ => none

/-- What the keys lead to, one after the other. -/
def atKeys (v : JsonText) (keys : List String) : Option JsonText := keys.foldlM atKey v

theorem replaceAll_cons_ne {a b c x : Char} (h : x ≠ a) (rest : List Char) :
    replaceAll a b c (x :: rest) = x :: replaceAll a b c rest := by
  cases rest <;> simp [replaceAll, h]

theorem replaceAll_escapeKey (key : List Char) :
    replaceAll '~' '0' '~' (replaceAll '~' '1' '/' (escapeKey key)) = key := by
  -- after the first pass only the tildes are escaped
  have hfirst : replaceAll '~' '1' '/' (escapeKey key) =
      key.flatMap (fun c => if c = '~' then ['~', '0'] else [c]) := by
    induction key with
    | nil => rfl
    | cons c key ih =>
      unfold escapeKey at ih ⊢
      rw [List.flatMap_cons, List.flatMap_cons, ← ih]
      by_cases htilde : c = '~'
      · simp [htilde, replaceAll, replaceAll_cons_ne]
      · by_cases hslash : c = '/'
        · simp [hslash, replaceAll]
        · simp [htilde, hslash, replaceAll_cons_ne]
  rw [hfirst]
  clear hfirst
  induction key with
  | nil => rfl
  | cons c key ih =>
    rw [List.flatMap_cons]
    by_cases htilde : c = '~'
    · simp [htilde, replaceAll, ih]
    · simp [htilde, replaceAll_cons_ne, ih]

theorem unescapeToken_escapeKey (key : List Char) :
    Gateway.unescapeToken (escapeKey key) = .ok key := by
  induction key with
  | nil => rfl
  | cons c key ih =>
    unfold escapeKey at ih ⊢
    rw [List.flatMap_cons]
    by_cases htilde : c = '~'
    · simp [htilde, Gateway.unescapeToken, ih, bind, Except.bind, pure, Except.pure]
    · by_cases hslash : c = '/'
      · simp [hslash, Gateway.unescapeToken, ih, bind, Except.bind, pure, Except.pure]
      · simp [htilde, hslash, Gateway.unescapeToken, ih, bind, Except.bind, pure, Except.pure]

theorem slash_not_mem_escapeKey (key : List Char) : '/' ∉ escapeKey key := by
  intro h
  obtain ⟨c, -, hc⟩ := List.mem_flatMap.mp h
  split at hc
  · simp at hc
  · split at hc
    · simp at hc
    · rename_i hslash
      exact hslash (List.mem_singleton.mp hc).symm

theorem splitOn_pointerOf (key : String) (keys : List String) :
    (pointerOf (key :: keys)).toList.head? = some '/' ∧
      (pointerOf (key :: keys)).toList.tail.splitOn '/' =
        (key :: keys).map (fun k => escapeKey k.toList) := by
  rw [pointerOf, String.toList_ofList]
  refine ⟨rfl, ?_⟩
  rw [List.flatMap_cons, List.cons_append, List.tail_cons]
  induction keys generalizing key with
  | nil => simp [List.splitOn_eq_singleton (slash_not_mem_escapeKey _)]
  | cons next keys ih =>
    rw [List.flatMap_cons, List.cons_append,
      List.splitOn_append_cons_self_of_not_mem (slash_not_mem_escapeKey _), ih]
    rfl

/-- A walker whose steps lead where a key leads, unless perhaps to a null, finds the array that
    the keys lead to, and fails if they lead nowhere. -/
theorem foldlM_atKeys {ε : Type} {f : JsonText → String → Except ε JsonText}
    (hnone : ∀ v k, atKey v k = none → ∃ e, f v k = .error e)
    (hsome : ∀ v k x, atKey v k = some x → f v k = .ok x ∨ x = .null ∧ ∃ e, f v k = .error e)
    (keys : List String) (v : JsonText) :
    (∀ items, atKeys v keys = some (.arr items) → keys.foldlM f v = .ok (.arr items)) ∧
      (atKeys v keys = none → ∃ e, keys.foldlM f v = .error e) := by
  unfold atKeys
  induction keys generalizing v with
  | nil =>
    refine ⟨fun items h => congrArg _ (Option.some.inj h), fun h => ?_⟩
    cases h
  | cons k rest ih =>
    rw [List.foldlM_cons, List.foldlM_cons]
    cases hk : atKey v k with
    | none =>
      obtain ⟨e, he⟩ := hnone v k hk
      rw [he]
      refine ⟨fun items h => ?_, fun _ => ⟨e, rfl⟩⟩
      cases h
    | some x =>
      rcases hsome v k x hk with hok | ⟨rfl, e, he⟩
      · rw [hok]
        exact ih x
      · -- nothing lies below a null
        rw [he]
        refine ⟨fun items h => ?_, fun _ => ⟨e, rfl⟩⟩
        cases rest <;> cases h

theorem walkPointer_pointerOf {ε : Type} (missing invalid : ε) (claims : StrMap JsonText)
    (key : String) (keys : List String) :
    (∀ items, atKeys (.obj claims.entries) (key :: keys) = some (.arr items) →
      walkPointer missing invalid claims (pointerOf (key :: keys)).toList.tail = .ok (.arr items)) ∧
    (atKeys (.obj claims.entries) (key :: keys) = none →
      ∃ e, walkPointer missing invalid claims (pointerOf (key :: keys)).toList.tail = .error e) := by
  rw [walkPointer, (splitOn_pointerOf key keys).2, List.foldlM_map]
  apply foldlM_atKeys <;> intro v k
  · intro hnone
    cases v with
    | obj members =>
      rw [pointerStep, replaceAll_escapeKey, String.ofList_toList,
        show (rawMap members).lookup k = _ from hnone]
      exact ⟨missing, rfl⟩
    | _ => exact ⟨invalid, rfl⟩
  · intro x hsome
    cases v with
    | obj members =>
      rw [pointerStep, replaceAll_escapeKey, String.ofList_toList,
        show (rawMap members).lookup k = _ from hsome]
      exact .inl rfl
    | _ => cases hsome

theorem stringItems_map {ε : Type} (invalid : ε) (values : List String)
    (h : ∀ v ∈ values, v ≠ "") : stringItems invalid (.arr (values.map .str)) = .ok values := by
  rw [stringItems]
  induction values with
  | nil => rfl
  | cons v values ih =>
    have hv : v ≠ "" := h v List.mem_cons_self
    have hrest := ih (fun u hu => h u (List.mem_cons_of_mem _ hu))
    simp only [List.map_cons, List.mapM_cons, hrest, hv, if_false]
    rfl

namespace Gateway.TeamClaimAdapter

/-- `descend` takes no null. -/
theorem foldlM_descend (keys : List String) (v : JsonText) :
    (∀ items, atKeys v keys = some (.arr items) → keys.foldlM descend v = .ok (.arr items)) ∧
      (atKeys v keys = none → ∃ e, keys.foldlM descend v = .error e) := by
  apply foldlM_atKeys <;> intro v k
  · intro hnone
    cases v with
    | obj members =>
      rw [descend, show (rawMap members).lookup k = _ from hnone]
      exact ⟨_, rfl⟩
    | _ => exact ⟨_, rfl⟩
  · intro x hsome
    cases v with
    | obj members =>
      rw [descend, show (rawMap members).lookup k = _ from hsome]
      cases x with
      | null => exact .inr ⟨rfl, _, rfl⟩
      | _ => exact .inl rfl
    | _ => cases hsome

theorem resolvePointer_pointerOf (claims : StrMap JsonText) (key : String) (keys : List String) :
    resolvePointer claims (pointerOf (key :: keys)) =
      (key :: keys).foldlM descend (.obj claims.entries) := by
  obtain ⟨hhead, hsplit⟩ := splitOn_pointerOf key keys
  have hparse : parsePointer (pointerOf (key :: keys)) = .ok (key :: keys) := by
    unfold parsePointer
    cases hp : (pointerOf (key :: keys)).toList with
    | nil => simp [hp] at hhead
    | cons c rest =>
      rw [hp] at hhead hsplit
      obtain rfl := Option.some.inj hhead
      have htokens : ∀ l : List String, (l.map (fun k => escapeKey k.toList)).mapM unescapeToken =
          .ok (l.map String.toList) := by
        intro l
        induction l with
        | nil => rfl
        | cons k l ih => simp [ih, unescapeToken_escapeKey, bind, Except.bind, pure, Except.pure]
      rw [List.tail_cons] at hsplit
      simp only [hsplit, htokens, bind, Except.bind, pure, Except.pure, List.map_map]
      simp
  rw [resolvePointer, hparse, List.foldlM_cons, descend,
    show rawMap claims.entries = claims from claims.foldl_insert_entries]
  simp only [bind, Except.bind]
  cases claims.lookup key with
  | none => rfl
  | some v => cases v <;> rfl

end Gateway.TeamClaimAdapter

/-- Every walker of a pointer to a path of keys gives the array of names that lies there, and an
    error if nothing lies there. -/
theorem pointer_walkers_agree (claims : StrMap JsonText) (key : String) (keys : List String) :
    (∀ values : List String, (∀ v ∈ values, v ≠ "") →
      atKeys (.obj claims.entries) (key :: keys) = some (.arr (values.map .str)) →
      Gateway.TeamClaimAdapter.resolvePointer claims (pointerOf (key :: keys)) =
          .ok (.arr (values.map .str)) ∧
        Gateway.valuesAtPointer claims (pointerOf (key :: keys)) = .ok values ∧
        Registry.valuesAtPointer claims (pointerOf (key :: keys)) = .ok values) ∧
    (atKeys (.obj claims.entries) (key :: keys) = none →
      (∃ e, Gateway.TeamClaimAdapter.resolvePointer claims (pointerOf (key :: keys)) = .error e) ∧
        (∃ e, Gateway.valuesAtPointer claims (pointerOf (key :: keys)) = .error e) ∧
        ∃ e, Registry.valuesAtPointer claims (pointerOf (key :: keys)) = .error e) := by
  rw [Gateway.valuesAtPointer, Registry.valuesAtPointer, Check.ensure,
    if_pos (splitOn_pointerOf key keys).1, Gateway.TeamClaimAdapter.resolvePointer_pointerOf]
  constructor
  · intro values hvalues hat
    refine ⟨(Gateway.TeamClaimAdapter.foldlM_descend _ _).1 _ hat, ?_, ?_⟩
    all_goals
      rw [(walkPointer_pointerOf _ _ claims key keys).1 _ hat]
      exact stringItems_map _ values hvalues
  · intro hnone
    refine ⟨(Gateway.TeamClaimAdapter.foldlM_descend _ _).2 hnone, ?_, ?_⟩
    all_goals
      obtain ⟨e, he⟩ := (walkPointer_pointerOf _ _ claims key keys).2 hnone
      rw [he]
      exact ⟨e, rfl⟩

/-- Roles under keys with a slash and a tilde. -/
def sampleRoles : StrMap JsonText := .ofList [("a/b", .obj [("c~1", .arr [.str "admin"])])]

theorem pointer_walkers_agree_sample : pointerOf ["a/b", "c~1"] = "/a~1b/c~01" ∧
    Gateway.TeamClaimAdapter.resolvePointer sampleRoles "/a~1b/c~01" = .ok (.arr [.str "admin"]) ∧
    Gateway.valuesAtPointer sampleRoles "/a~1b/c~01" = .ok ["admin"] ∧
    Registry.valuesAtPointer sampleRoles "/a~1b/c~01" = .ok ["admin"] := by
  have hpointer : pointerOf ["a/b", "c~1"] = "/a~1b/c~01" := by decide +kernel
  have hagree := (pointer_walkers_agree sampleRoles "a/b" ["c~1"]).1 ["admin"] (by simp) rfl
  rw [hpointer] at hagree
  exact ⟨hpointer, hagree⟩

end FlowAI
