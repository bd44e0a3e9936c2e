import FlowAI.Registry.Operations

/-! # Secret Versions Along a Run

  The plaintexts a run hands to `CreateSecret` and `ReplaceSecret`, and what the
  stored versions have to do with them: each version row is the encryption of
  the one plaintext written under its key, and the latest version of a secret
  is there and is the greatest.
-/

namespace FlowAI.Registry

/-! ## Section 1: Plaintexts -/

/-- A version of a secret. -/
abbrev VersionKey : Type := String × Nat

/-- The version an accepted call writes, with its plaintext. -/
def secretWrite (cfg : Config) (db : Db) (call : Call) : Option (VersionKey × String) :=
  match call.op with
  | .createSecret identity environmentID req =>
    match createSecret cfg call.env identity environmentID req db with
    | .ok ((_, version), _) => some ((version.secretID, version.version), req.value)
    | .error _ => none
  | .replaceSecret identity environmentID secretID req =>
    match replaceSecret cfg call.env identity environmentID secretID req db with
    | .ok ((_, version), _) => some ((version.secretID, version.version), req.value)
    | .error _ => none
  | _ => none

/-- The versions a run writes, in order. -/
def secretWrites (cfg : Config) (db : Db) : List Call → List (VersionKey × String)
  | [] => []
  | call :: calls =>
    (secretWrite cfg db call).toList ++ secretWrites cfg ((exec cfg call).commit db) calls

/-- The plaintext written under a version. -/
def plaintextOf (writes : List (VersionKey × String)) (k : VersionKey) : Option String :=
  (writes.find? (fun w => w.1 = k)).map Prod.snd

theorem plaintextOf_append (ws ws' : List (VersionKey × String)) (k : VersionKey) :
    plaintextOf (ws ++ ws') k = (plaintextOf ws k).or (plaintextOf ws' k) := by
  unfold plaintextOf
  rw [List.find?_append]
  cases ws.find? (fun w => w.1 = k) <;> rfl

/-- A version nobody wrote has no plaintext. -/
theorem plaintextOf_eq_none {ws : List (VersionKey × String)} {k : VersionKey}
    (h : ∀ w ∈ ws, w.1 ≠ k) : plaintextOf ws k = none := by
  unfold plaintextOf
  rw [Option.map_eq_none_iff, List.find?_eq_none]
  intro w hw
  simpa using h w hw

/-! ## Section 2: What a step does to secrets -/

/-- The secrets and versions a call leaves, with the plaintext it writes. -/
inductive SecretStep (cfg : Config) (call : Call) (db : Db) :
    Option (VersionKey × String) → Table secretSchema → Table secretVersionSchema → Prop where
  | keep : SecretStep cfg call db none db.secrets db.secretVersions
  | create {aead teamID plaintext} {secret : SecretRow} {secrets secretVersions}
      (key : cfg.aead = some aead)
      (first : secret.latestVersion = 1)
      (inserted : db.secrets.insert secret = .ok secrets)
      (encrypted : db.secretVersions.insert
        (encryptedVersion aead call.env teamID secret.secretID 1 plaintext) = .ok secretVersions) :
      SecretStep cfg call db (some ((secret.secretID, 1), plaintext)) secrets secretVersions
  | replace {aead teamID secretID plaintext} {secret : SecretRow} {secrets secretVersions}
      (key : cfg.aead = some aead)
      (found : db.secrets.lookup secretID = some secret)
      (encrypted : db.secretVersions.insert (encryptedVersion aead call.env teamID secretID
        (secret.latestVersion + 1) plaintext) = .ok secretVersions)
      (advanced : db.secrets.update secretID
        (SecretRow.advance call.env (secret.latestVersion + 1)) (fun _ => rfl) = .ok secrets) :
      SecretStep cfg call db (some ((secretID, secret.latestVersion + 1), plaintext)) secrets
        secretVersions
  | revoke {secretID secrets}
      (revoked : db.secrets.update secretID (SecretRow.revoke call.env) (fun _ => rfl) =
        .ok secrets) :
      SecretStep cfg call db none secrets db.secretVersions

variable {call : Call} {db db' : Db} {versions versions' : Table secretVersionSchema}
  {secretID : String} {cfg : Config} {writes : List (VersionKey × String)}
  {secrets : Table secretSchema}

/-- Every operation but the two that write versions. -/
theorem Effect.secretStep (h : Effect cfg call db db')
    (hcreate : ∀ identity environmentID req, call.op ≠ .createSecret identity environmentID req)
    (hreplace : ∀ identity environmentID secretID req,
      call.op ≠ .replaceSecret identity environmentID secretID req) :
    SecretStep cfg call db none db'.secrets db'.secretVersions := by
  cases h with
  | createSecret hop _ _ _ _ _ _ => exact absurd hop (hcreate _ _ _)
  | replaceSecret hop _ _ _ _ _ => exact absurd hop (hreplace _ _ _ _)
  | revokeSecret _ hrev _ => exact .revoke hrev
  | claimTask _ _ hfresh =>
    obtain ⟨_, _, _, _, _, _, _, -, -, -, -, -, rfl⟩ := hfresh.effect
    exact .keep
  | appendTaskEvent _ _ _ _ hfresh | appendTaskControlEvent _ _ _ hfresh =>
    obtain ⟨_, _, _, -, -, -, rfl⟩ := hfresh.effect
    exact .keep
  | _ => exact .keep

theorem secretStep_of_step (hstep : (registry cfg).step db call db') :
    SecretStep cfg call db (secretWrite cfg db call) db'.secrets db'.secretVersions := by
  have hcommit : (exec cfg call).commit db = db' := hstep
  cases hop : call.op with
  | createSecret identity environmentID req =>
    have hexec : exec cfg call =
        Tx.void (createSecret cfg call.env identity environmentID req) := by
      simp only [exec, hop]
    rw [hexec, Tx.commit_void] at hcommit
    cases hres : createSecret cfg call.env identity environmentID req db with
    | error e =>
      have hwrite : secretWrite cfg db call = none := by simp only [secretWrite, hop, hres]
      rw [Tx.commit_of_error hres] at hcommit
      rw [hwrite, ← hcommit]
      exact .keep
    | ok result =>
      obtain ⟨⟨secret, version⟩, db₁⟩ := result
      rw [Tx.commit_of_ok hres] at hcommit
      subst hcommit
      obtain ⟨aead, secrets, versions, _, _, _, _, hkey, -, hfirst, -, -, hversion, hins, henc, -,
        -, rfl⟩ := createSecret_ok hres
      change version = encryptedVersion aead call.env identity.teamID secret.secretID 1 req.value
        at hversion
      subst hversion
      have hwrite : secretWrite cfg db call = some ((secret.secretID, 1), req.value) := by
        simp only [secretWrite, hop, hres]
        rfl
      rw [hwrite]
      exact .create hkey hfirst hins henc
  | replaceSecret identity environmentID secretID req =>
    have hexec : exec cfg call =
        Tx.void (replaceSecret cfg call.env identity environmentID secretID req) := by
      simp only [exec, hop]
    rw [hexec, Tx.commit_void] at hcommit
    cases hres : replaceSecret cfg call.env identity environmentID secretID req db with
    | error e =>
      have hwrite : secretWrite cfg db call = none := by simp only [secretWrite, hop, hres]
      rw [Tx.commit_of_error hres] at hcommit
      rw [hwrite, ← hcommit]
      exact .keep
    | ok result =>
      obtain ⟨⟨secret', version⟩, db₁⟩ := result
      rw [Tx.commit_of_ok hres] at hcommit
      subst hcommit
      obtain ⟨aead, secret, secrets, versions, _, _, _, _, hkey, hfound, -, hversion, henc, hadv,
        -, -, rfl⟩ := replaceSecret_ok hres
      change version = _ at hversion
      subst hversion
      have hwrite : secretWrite cfg db call =
          some ((secretID, secret.latestVersion + 1), req.value) := by
        simp only [secretWrite, hop, hres]
        rfl
      rw [hwrite]
      exact .replace hkey hfound henc hadv
  | _ =>
    have hwrite : secretWrite cfg db call = none := by simp only [secretWrite, hop]
    rw [hwrite]
    refine (step_effect hstep).secretStep ?_ ?_
    · intro identity environmentID req h
      rw [hop] at h
      cases h
    · intro identity environmentID secretID req h
      rw [hop] at h
      cases h

/-! ## Section 3: The invariant -/

/-- What the versions hold, given the plaintexts written so far. -/
structure VersionInvariant (cfg : Config) (writes : List (VersionKey × String))
    (secrets : Table secretSchema) (versions : Table secretVersionSchema) : Prop where
  /-- A version row encrypts the plaintext written under it. -/
  encrypted : ∀ k v, versions.lookup k = some v → ∃ aead env teamID plaintext,
    cfg.aead = some aead ∧ v = encryptedVersion aead env teamID k.1 k.2 plaintext ∧
      plaintextOf writes k = some plaintext
  /-- Every version that was written is stored. -/
  stored : ∀ w ∈ writes, ∃ v, versions.lookup w.1 = some v
  /-- The latest version of a secret is stored. -/
  latest : ∀ id s, secrets.lookup id = some s → ∃ v, versions.lookup (id, s.latestVersion) = some v
  /-- No version is beyond the latest. -/
  bounded : ∀ k v, versions.lookup k = some v → ∃ s, secrets.lookup k.1 = some s ∧
    k.2 ≤ s.latestVersion

theorem versionInvariant_empty (cfg : Config) :
    VersionInvariant cfg [] Table.empty Table.empty := by
  refine ⟨?_, ?_, ?_, ?_⟩
  · intro k v h
    cases h
  · intro w h
    cases h
  · intro id s h
    cases h
  · intro k v h
    cases h

/-- Writing one more version under a key that is not stored yet. -/
theorem VersionInvariant.encrypted_insert (h : VersionInvariant cfg writes secrets versions)
    {aead : Aead} {env : CallEnv} {teamID plaintext : String} {n : Nat}
    (hkey : cfg.aead = some aead)
    (henc : versions.insert (encryptedVersion aead env teamID secretID n plaintext) =
      .ok versions') (k : VersionKey) (v : SecretVersionRow) (hv : versions'.lookup k = some v) :
    ∃ aead env teamID pt, cfg.aead = some aead ∧
      v = encryptedVersion aead env teamID k.1 k.2 pt ∧
      plaintextOf (writes ++ [((secretID, n), plaintext)]) k = some pt := by
  have hlook : versions'.lookup k = if (secretID, n) = k then
      some (encryptedVersion aead env teamID secretID n plaintext) else versions.lookup k :=
    Table.lookup_insert henc k
  have hnone : versions.lookup (secretID, n) = none := (Table.insert_eq_ok_iff.mp henc).2.1
  rw [plaintextOf_append]
  rw [hlook] at hv
  by_cases hk : (secretID, n) = k
  · subst hk
    rw [if_pos rfl] at hv
    -- no earlier write used this version: it would be stored
    have hfresh : plaintextOf writes (secretID, n) = none := by
      refine plaintextOf_eq_none ?_
      intro w hw heq
      obtain ⟨row, hrow⟩ := h.stored w hw
      rw [heq, hnone] at hrow
      cases hrow
    refine ⟨aead, env, teamID, plaintext, hkey, (Option.some.inj hv).symm, ?_⟩
    rw [hfresh, Option.none_or]
    simp [plaintextOf]
  · rw [if_neg hk] at hv
    obtain ⟨aead', env', teamID', pt, hkey', hrow, hpt⟩ := h.encrypted k v hv
    exact ⟨aead', env', teamID', pt, hkey', hrow, by rw [hpt]; rfl⟩

theorem VersionInvariant.stored_insert (h : VersionInvariant cfg writes secrets versions)
    {row : SecretVersionRow} {plaintext : String} (hins : versions.insert row = .ok versions') :
    ∀ w ∈ writes ++ [((row.secretID, row.version), plaintext)],
      ∃ v, versions'.lookup w.1 = some v := by
  intro w hw
  have hlook : versions'.lookup w.1 = if (row.secretID, row.version) = w.1 then some row
      else versions.lookup w.1 := Table.lookup_insert hins w.1
  rw [hlook]
  by_cases hk : (row.secretID, row.version) = w.1
  · exact ⟨row, if_pos hk⟩
  · rw [if_neg hk]
    rcases List.mem_append.mp hw with hw | hw
    · exact h.stored w hw
    · rw [List.mem_singleton.mp hw] at hk
      exact absurd rfl hk

section Steps

variable {cfg : Config} {env : CallEnv} {aead : Aead} {writes : List (VersionKey × String)}
  {secrets₀ secrets : Table secretSchema} {versions₀ versions : Table secretVersionSchema}
  {teamID plaintext : String} {secret : SecretRow}

/-- A version that is no older than the others becomes the latest one. -/
theorem VersionInvariant.advance (h : VersionInvariant cfg writes secrets₀ versions₀)
    (hkey : cfg.aead = some aead)
    (hsecrets : ∀ id, secrets.lookup id = if secretID = id then some secret else secrets₀.lookup id)
    (henc : versions₀.insert (encryptedVersion aead env teamID secretID secret.latestVersion
      plaintext) = .ok versions)
    (hold : ∀ s, secrets₀.lookup secretID = some s → s.latestVersion ≤ secret.latestVersion) :
    VersionInvariant cfg (writes ++ [((secretID, secret.latestVersion), plaintext)]) secrets
      versions := by
  have hversions : ∀ k : VersionKey, versions.lookup k =
      if (secretID, secret.latestVersion) = k then
        some (encryptedVersion aead env teamID secretID secret.latestVersion plaintext)
      else versions₀.lookup k := Table.lookup_insert henc
  refine ⟨h.encrypted_insert hkey henc, h.stored_insert henc, ?_, ?_⟩
  · intro id s hs
    rw [hsecrets] at hs
    by_cases hid : secretID = id
    · rw [if_pos hid] at hs
      obtain rfl := Option.some.inj hs
      exact ⟨_, by rw [hversions, hid, if_pos rfl]⟩
    · rw [if_neg hid] at hs
      obtain ⟨v, hv⟩ := h.latest id s hs
      refine ⟨v, ?_⟩
      rw [hversions, if_neg (fun heq => hid (congrArg Prod.fst heq)), hv]
  · intro k v hv
    rw [hversions] at hv
    by_cases hk : (secretID, secret.latestVersion) = k
    · subst hk
      exact ⟨secret, by rw [hsecrets, if_pos rfl], le_rfl⟩
    · rw [if_neg hk] at hv
      obtain ⟨s, hs, hle⟩ := h.bounded k v hv
      rw [hsecrets]
      by_cases hid : secretID = k.1
      · exact ⟨secret, if_pos hid, hle.trans (hold s (hid ▸ hs))⟩
      · exact ⟨s, by rw [if_neg hid, hs], hle⟩

theorem VersionInvariant.create (h : VersionInvariant cfg writes secrets₀ versions₀)
    (hkey : cfg.aead = some aead) (hfirst : secret.latestVersion = 1)
    (hins : secrets₀.insert secret = .ok secrets)
    (henc : versions₀.insert (encryptedVersion aead env teamID secret.secretID 1 plaintext) =
      .ok versions) :
    VersionInvariant cfg (writes ++ [((secret.secretID, 1), plaintext)]) secrets versions := by
  have hnew : secrets₀.lookup secret.secretID = none := (Table.insert_eq_ok_iff.mp hins).2.1
  rw [← hfirst] at henc ⊢
  refine h.advance hkey (Table.lookup_insert hins) henc ?_
  intro s hs
  rw [hnew] at hs
  cases hs

theorem VersionInvariant.replace (h : VersionInvariant cfg writes secrets₀ versions₀)
    (hkey : cfg.aead = some aead) (hfound : secrets₀.lookup secretID = some secret)
    (henc : versions₀.insert (encryptedVersion aead env teamID secretID
      (secret.latestVersion + 1) plaintext) = .ok versions)
    (hadv : secrets₀.update secretID (SecretRow.advance env (secret.latestVersion + 1))
      (fun _ => rfl) = .ok secrets) :
    VersionInvariant cfg (writes ++ [((secretID, secret.latestVersion + 1), plaintext)]) secrets
      versions := by
  have hsecrets : ∀ id, secrets.lookup id = if secretID = id then
      some (secret.advance env (secret.latestVersion + 1)) else secrets₀.lookup id := by
    intro id
    rw [Table.lookup_update hadv]
    by_cases hid : id = secretID
    · subst hid
      simp [hfound]
    · simp [hid, Ne.symm hid]
  refine h.advance hkey hsecrets henc ?_
  intro s hs
  obtain rfl := Option.some.inj (hfound.symm.trans hs)
  exact Nat.le_succ _

theorem VersionInvariant.revoke (h : VersionInvariant cfg writes secrets₀ versions₀)
    (hrev : secrets₀.update secretID (SecretRow.revoke env) (fun _ => rfl) = .ok secrets) :
    VersionInvariant cfg writes secrets versions₀ := by
  have hsecrets : ∀ id, secrets.lookup id = if id = secretID then
      (secrets₀.lookup id).map (SecretRow.revoke env) else secrets₀.lookup id :=
    Table.lookup_update hrev
  refine ⟨h.encrypted, h.stored, ?_, ?_⟩
  · intro id s hs
    rw [hsecrets] at hs
    by_cases hid : id = secretID
    · rw [if_pos hid] at hs
      obtain ⟨s₀, hs₀, rfl⟩ := Option.map_eq_some_iff.mp hs
      exact h.latest id s₀ hs₀
    · rw [if_neg hid] at hs
      exact h.latest id s hs
  · intro k v hv
    obtain ⟨s, hs, hle⟩ := h.bounded k v hv
    rw [hsecrets]
    by_cases hid : k.1 = secretID
    · exact ⟨s.revoke env, by rw [if_pos hid, hs]; rfl, hle⟩
    · exact ⟨s, by rw [if_neg hid, hs], hle⟩

end Steps

/-- Step lemma. -/
theorem SecretStep.versionInvariant {write : Option (VersionKey × String)}
    (hstep : SecretStep cfg call db write secrets versions)
    (h : VersionInvariant cfg writes db.secrets db.secretVersions) :
    VersionInvariant cfg (writes ++ write.toList) secrets versions := by
  cases hstep with
  | keep => rw [Option.toList_none, List.append_nil]; exact h
  | create hkey hfirst hins henc => exact h.create hkey hfirst hins henc
  | replace hkey hfound henc hadv => exact h.replace hkey hfound henc hadv
  | revoke hrev => rw [Option.toList_none, List.append_nil]; exact h.revoke hrev

/-- Run lemma. -/
theorem run_versionInvariant {calls : List Call} (hrun : (registry cfg).Run db calls db')
    (h : VersionInvariant cfg writes db.secrets db.secretVersions) :
    VersionInvariant cfg (writes ++ secretWrites cfg db calls) db'.secrets db'.secretVersions := by
  induction hrun generalizing writes with
  | nil db => rw [secretWrites, List.append_nil]; exact h
  | @cons db db₁ db₂ calls call hstep _ ih =>
    have hcommit : (exec cfg call).commit db = db₁ := hstep
    have hnext := ih ((secretStep_of_step hstep).versionInvariant h)
    rw [secretWrites, hcommit, ← List.append_assoc]
    exact hnext

theorem serve_versionInvariant (cfg : Config) (calls : List Call) :
    VersionInvariant cfg (secretWrites cfg .empty calls) (serve cfg .empty calls).secrets
      (serve cfg .empty calls).secretVersions := by
  have hrun : (registry cfg).Run .empty calls (serve cfg .empty calls) := run_iff_serve.mpr rfl
  have h := run_versionInvariant hrun (versionInvariant_empty cfg)
  rwa [List.nil_append] at h

end FlowAI.Registry
