import FlowAI.Registry.Tasks
import FlowAI.Registry.Secrets
import FlowAI.Framework.OrderBy

/-! # Launch Parameter Resolution

  `resolveLaunchParametersLocked` freezes, for one claimed task, the projection
  global → team → task type of the live definitions: ordinary values, and for
  each secret the version that is latest now.  The frozen rows are the snapshot
  and its secret references.
-/

namespace FlowAI.Registry

variable {db' : Db} {taskID teamID : String} {resolved : Resolution}

/-! ## Section 1: The projection -/

/-- What resolution accumulates: values, secret references by key, and the image of
    the narrowest definition that has one. -/
structure Resolution where
  values : StrMap String
  secretRefs : StrMap (String × Nat)
  image : Option (String × ImageSource)

def Resolution.empty : Resolution := ⟨.empty, .empty, none⟩

/-- An ordinary value replaces a secret of the same key. -/
def Resolution.addValue (r : Resolution) (key value : String) : Resolution :=
  { r with values := r.values.insert key value, secretRefs := r.secretRefs.erase key }

/-- A secret replaces an ordinary value of the same key. -/
def Resolution.addSecret (r : Resolution) (s : SecretRow) : Resolution :=
  { r with
    secretRefs := r.secretRefs.insert s.name (s.secretID, s.latestVersion)
    values := r.values.erase s.name }

def LaunchScope.imageSource : LaunchScope → ImageSource
  | .global => .globalParameters
  | .team => .teamParameters
  | .taskType => .taskTypeParameters

def Resolution.addImage (r : Resolution) (d : DefinitionRow) : Resolution :=
  match d.image, d.scopeKind with
  | some image, some scope => { r with image := some (image, scope.imageSource) }
  | _, _ => r

/-- `SELECT … FROM secrets WHERE environment_id = $1 AND revoked = false ORDER BY name`. -/
def definitionSecrets (db : Db) (environmentID : String) : List SecretRow :=
  (db.secrets.rows.filter (fun s => s.environmentID = environmentID && !s.revoked)).insertionSort
    (fun a b => a.name ≤ b.name)

/-- One definition on top of what wider scopes contributed. -/
def Resolution.addDefinition (db : Db) (r : Resolution) (d : DefinitionRow) : Resolution :=
  let r := d.values.entries.foldl (fun r e => r.addValue e.1 e.2) r
  let r := (definitionSecrets db d.environmentID).foldl Resolution.addSecret r
  r.addImage d

def LaunchScope.rank : LaunchScope → Nat
  | .global => 1
  | .team => 2
  | .taskType => 3

/-- The live definitions that apply to a task, widest scope first. -/
def applicableDefinitions (db : Db) (teamID taskTypeID : String) : List DefinitionRow :=
  (db.definitions.rows.filter (fun d => !d.deleted &&
    (d.scopeKind = some .global ||
      (d.scopeKind = some .team && d.teamID = some teamID) ||
      (d.scopeKind = some .taskType && d.teamID = some teamID &&
        d.taskTypeID = some taskTypeID)))).insertionSort
    (fun a b => (a.scopeKind.map LaunchScope.rank).getD 3 ≤ (b.scopeKind.map LaunchScope.rank).getD 3)

/-- The projection for a task of the team and type. -/
def resolveLaunchParameters (db : Db) (teamID taskTypeID : String) : Resolution :=
  (applicableDefinitions db teamID taskTypeID).foldl (Resolution.addDefinition db) .empty

variable {db : Db} {u : Unit} {row : SecretRefRow}

/-- A property of single entries that every contribution has holds of the result. -/
theorem resolveLaunchParameters_induct {P : Resolution → Prop} (teamID taskTypeID : String)
    (hempty : P .empty) (hvalue : ∀ r key value, P r → P (r.addValue key value))
    (hsecret : ∀ r, ∀ s ∈ db.secrets.rows, s.revoked = false → P r → P (r.addSecret s))
    (himage : ∀ r, ∀ d ∈ db.definitions.rows, P r → P (r.addImage d)) :
    P (resolveLaunchParameters db teamID taskTypeID) := by
  -- Each of the three loops preserves `P`: values, then secrets, then the image.
  refine List.foldlRecOn _ _ hempty ?_
  intro r hr d hd
  have hd' := List.mem_filter.mp ((List.mem_insertionSort _).mp hd)
  refine himage _ d hd'.1 (List.foldlRecOn _ _ ?_ ?_)
  · exact List.foldlRecOn _ _ hr (fun r hr e _ => hvalue r e.1 e.2 hr)
  · intro r hr s hs
    have hs' := List.mem_filter.mp ((List.mem_insertionSort _).mp hs)
    simp only [Bool.and_eq_true, Bool.not_eq_true'] at hs'
    exact hsecret r s hs'.1 hs'.2.2 hr

/-! ### Rows the ORDER BY leaves tied

  The database may return rows with equal sort keys in any order.  A `RowOrder` is one
  choice; `resolveLaunchParameters` is the resolution in the order of insertion.
-/

/-- The definitions the query selects. -/
def DefinitionRow.applies (teamID taskTypeID : String) (d : DefinitionRow) : Bool :=
  !d.deleted &&
    (d.scopeKind = some .global ||
      (d.scopeKind = some .team && d.teamID = some teamID) ||
      (d.scopeKind = some .taskType && d.teamID = some teamID && d.taskTypeID = some taskTypeID))

/-- `CASE scope_kind WHEN 'global' THEN 1 WHEN 'team' THEN 2 ELSE 3 END`. -/
def DefinitionRow.rank (d : DefinitionRow) : Nat := (d.scopeKind.map LaunchScope.rank).getD 3

/-- The secrets the query selects for a definition. -/
def SecretRow.activeIn (environmentID : String) (s : SecretRow) : Bool :=
  s.environmentID = environmentID && !s.revoked

/-- An answer of the database to the queries of a resolution. -/
structure RowOrder (db : Db) (teamID taskTypeID : String) where
  definitions : List DefinitionRow
  secrets : String → List SecretRow
  definitions_perm : definitions.Perm (db.definitions.rows.filter (·.applies teamID taskTypeID))
  definitions_sorted : definitions.Pairwise (fun a b => a.rank ≤ b.rank)
  secrets_perm : ∀ e, (secrets e).Perm (db.secrets.rows.filter (·.activeIn e))
  secrets_sorted : ∀ e, (secrets e).Pairwise (fun a b => a.name ≤ b.name)

/-- One definition with the rows of its secrets, on top of what wider scopes contributed. -/
def Resolution.addRows (secrets : List SecretRow) (r : Resolution) (d : DefinitionRow) :
    Resolution :=
  let r := d.values.entries.foldl (fun r e => r.addValue e.1 e.2) r
  let r := secrets.foldl Resolution.addSecret r
  r.addImage d

/-- The projection from the rows in the order of the answer. -/
def RowOrder.resolve {db : Db} {teamID taskTypeID : String} (o : RowOrder db teamID taskTypeID) :
    Resolution :=
  o.definitions.foldl (fun r d => r.addRows (o.secrets d.environmentID) d) .empty

/-- Ties in the order of insertion. -/
def RowOrder.inserted (db : Db) (teamID taskTypeID : String) : RowOrder db teamID taskTypeID where
  definitions := applicableDefinitions db teamID taskTypeID
  secrets := definitionSecrets db
  definitions_perm := List.perm_insertionSort _ _
  definitions_sorted := pairwise_orderBy DefinitionRow.rank _
  secrets_perm _ := List.perm_insertionSort _ _
  secrets_sorted _ := pairwise_orderBy SecretRow.name _

/-! ## Section 2: Freezing the projection -/

/-- `INSERT INTO task_launch_parameter_snapshots … ON CONFLICT (task_id) DO NOTHING`. -/
def insertSnapshot (row : SnapshotRow) : StoreTx Unit := do
  let db ← Tx.get
  let context := wrap "insert task launch parameter snapshot"
  match db.snapshots.lookup row.taskID with
  | some _ => return ()
  | none =>
    let snapshots ← refuse context (db.snapshots.insert row)
    require context .foreignKey ((db.tasks.lookup row.taskID).any (fun t => t.teamID = row.teamID))
    Tx.set { db with snapshots }

/-- `INSERT INTO task_launch_parameter_secret_refs … ON CONFLICT (task_id, key) DO NOTHING`. -/
def insertSecretRef (row : SecretRefRow) : StoreTx Unit := do
  let db ← Tx.get
  let context := wrap "insert task secret reference snapshot"
  require context .check (secretRefSchema.check row)
  match db.secretRefs.lookup (row.taskID, row.key) with
  | some _ => return ()
  | none =>
    let secretRefs ← refuse context (db.secretRefs.insert row)
    require context .foreignKey
      ((db.snapshots.lookup row.taskID).any (fun s => s.teamID = row.teamID))
    require context .foreignKey (db.secretVersions.lookup (row.secretID, row.version)).isSome
    Tx.set { db with secretRefs }

/-- The loop over the resolved references. -/
def insertSecretRefs (taskID teamID : String) : List (String × String × Nat) → StoreTx Unit
  | [] => pure ()
  | (key, secretID, version) :: rest => do
    insertSecretRef ⟨taskID, teamID, key, secretID, version⟩
    insertSecretRefs taskID teamID rest

def resolveLaunchParametersLocked (teamID taskTypeID taskID : String) : StoreTx Resolution := do
  let db ← Tx.get
  let resolved := resolveLaunchParameters db teamID taskTypeID
  insertSnapshot ⟨taskID, teamID, resolved.values⟩
  insertSecretRefs taskID teamID resolved.secretRefs.entries
  return resolved

/-- `resolveLaunchParametersLocked` with the answers of the database as a parameter. -/
def resolveLaunchParametersIn {teamID taskTypeID : String}
    (order : (db : Db) → RowOrder db teamID taskTypeID) (taskID : String) : StoreTx Resolution := do
  let db ← Tx.get
  let resolved := (order db).resolve
  insertSnapshot ⟨taskID, teamID, resolved.values⟩
  insertSecretRefs taskID teamID resolved.secretRefs.entries
  return resolved

theorem resolveLaunchParametersLocked_eq (teamID taskTypeID taskID : String) :
    resolveLaunchParametersLocked teamID taskTypeID taskID =
      resolveLaunchParametersIn (fun db => .inserted db teamID taskTypeID) taskID := rfl

/-! ### Inversion -/

theorem insertSnapshot_ok {row : SnapshotRow} (h : insertSnapshot row db = .ok (u, db')) :
    ∃ snapshots, db' = { db with snapshots } ∧
      ((∃ old, db.snapshots.lookup row.taskID = some old) ∧ snapshots = db.snapshots ∨
        db.snapshots.insert row = .ok snapshots) := by
  simp only [insertSnapshot, Tx.bind_eq_ok, Tx.exists_get] at h
  cases hl : db.snapshots.lookup row.taskID with
  | some old =>
    simp only [hl, Tx.pure_eq_ok] at h
    exact ⟨db.snapshots, h.2.symm, .inl ⟨⟨old, rfl⟩, rfl⟩⟩
  | none =>
    simp only [hl, Tx.bind_eq_ok, exists_refuse, exists_require, Tx.set_eq_ok] at h
    obtain ⟨snapshots, hi, -, rfl⟩ := h
    exact ⟨snapshots, rfl, .inr hi⟩

theorem insertSecretRef_ok (h : insertSecretRef row db = .ok (u, db')) :
    ∃ secretRefs, db' = { db with secretRefs } ∧
      ((∃ old, db.secretRefs.lookup (row.taskID, row.key) = some old) ∧
          secretRefs = db.secretRefs ∨
        db.secretRefs.insert row = .ok secretRefs ∧
          (db.secretVersions.lookup (row.secretID, row.version)).isSome) := by
  simp only [insertSecretRef, Tx.bind_eq_ok, Tx.exists_get, exists_require] at h
  obtain ⟨-, h⟩ := h
  cases hl : db.secretRefs.lookup (row.taskID, row.key) with
  | some old =>
    simp only [hl, Tx.pure_eq_ok] at h
    exact ⟨db.secretRefs, h.2.symm, .inl ⟨⟨old, rfl⟩, rfl⟩⟩
  | none =>
    simp only [hl, Tx.bind_eq_ok, exists_refuse, exists_require, Tx.set_eq_ok] at h
    obtain ⟨refs, hi, -, hv, rfl⟩ := h
    exact ⟨refs, rfl, .inr ⟨hi, hv⟩⟩

/-- The reference rows after one insertion: a row that was there stays. -/
theorem insertSecretRef_lookup (h : insertSecretRef row db = .ok (u, db')) (k : String × String) :
    db'.secretRefs.lookup k =
      (db.secretRefs.lookup k).or (if (row.taskID, row.key) = k then some row else none) := by
  obtain ⟨refs, rfl, ⟨⟨old, hold⟩, rfl⟩ | ⟨hi, -⟩⟩ := insertSecretRef_ok h
  · by_cases hk : (row.taskID, row.key) = k
    · subst hk
      simp [hold]
    · simp [hk]
  · have hnone : db.secretRefs.lookup (row.taskID, row.key) = none :=
      (Table.insert_eq_ok_iff.mp hi).2.1
    have hnew : refs.lookup k =
        if (row.taskID, row.key) = k then some row else db.secretRefs.lookup k :=
      Table.lookup_insert hi k
    by_cases hk : (row.taskID, row.key) = k
    · subst hk
      simp [hnew, hnone]
    · simp [hnew, hk]

/-- Loop invariant: the loop only adds reference rows, the first entry of a key wins,
    and every added row references a stored version. -/
theorem insertSecretRefs_ok {entries : List (String × String × Nat)}
    (h : insertSecretRefs taskID teamID entries db = .ok (u, db')) :
    (∃ secretRefs, db' = { db with secretRefs }) ∧
      (∀ t key, db'.secretRefs.lookup (t, key) = (db.secretRefs.lookup (t, key)).or
        (if t = taskID then (entries.find? (fun e => e.1 = key)).map
          (fun e => ⟨taskID, teamID, e.1, e.2.1, e.2.2⟩) else none)) ∧
      (∀ r ∈ db'.secretRefs.rows, r ∈ db.secretRefs.rows ∨
        r.taskID = taskID ∧ (db.secretVersions.lookup (r.secretID, r.version)).isSome) := by
  induction entries generalizing db with
  | nil =>
    simp only [insertSecretRefs, Tx.pure_eq_ok] at h
    obtain ⟨-, rfl⟩ := h
    exact ⟨⟨_, rfl⟩, by simp, fun r hr => .inl hr⟩
  | cons e rest ih =>
    obtain ⟨key₀, secretID, version⟩ := e
    simp only [insertSecretRefs, Tx.bind_eq_ok] at h
    obtain ⟨_, db₁, h₁, h₂⟩ := h
    obtain ⟨⟨refs₂, heq⟩, hlook, hrows⟩ := ih h₂
    have hstep := insertSecretRef_lookup h₁
    obtain ⟨refs₁, rfl, hcase⟩ := insertSecretRef_ok h₁
    refine ⟨⟨refs₂, heq⟩, ?_, ?_⟩
    · intro t key
      rw [hlook, hstep, Option.or_assoc]
      congr 1
      by_cases ht : t = taskID
      · subst ht
        by_cases hk : key₀ = key
        · simp [hk]
        · simp [hk]
      · simp [ht, Ne.symm ht]
    · intro r hr
      rcases hrows r hr with hr | hr
      · rcases hcase with ⟨-, rfl⟩ | ⟨hi, hv⟩
        · exact .inl hr
        · rw [Table.rows_insert hi] at hr
          rcases List.mem_append.mp hr with hr | hr
          · exact .inl hr
          · rw [List.mem_singleton.mp hr]
            exact .inr ⟨rfl, hv⟩
      · exact .inr hr

/-- The frozen rows of a claim: a snapshot and references that were there stay, any
    other is the projection `resolved`. -/
structure Freezes (db : Db) (taskID teamID : String) (resolved : Resolution)
    (snapshots : Table snapshotSchema) (secretRefs : Table secretRefSchema) : Prop where
  snapshot : (∃ old, db.snapshots.lookup taskID = some old) ∧ snapshots = db.snapshots ∨
    db.snapshots.insert ⟨taskID, teamID, resolved.values⟩ = .ok snapshots
  refs : ∀ t key, secretRefs.lookup (t, key) = (db.secretRefs.lookup (t, key)).or
    (if t = taskID then (resolved.secretRefs.entries.find? (fun e => e.1 = key)).map
      (fun e => ⟨taskID, teamID, e.1, e.2.1, e.2.2⟩) else none)
  stored : ∀ r ∈ secretRefs.rows, r ∈ db.secretRefs.rows ∨
    r.taskID = taskID ∧ (db.secretVersions.lookup (r.secretID, r.version)).isSome

theorem Freezes.of_pending {snapshots : Table snapshotSchema} {secretRefs : Table secretRefSchema}
    (h : Freezes db taskID teamID resolved snapshots secretRefs)
    (hsnap : db.snapshots.lookup taskID = none)
    (hrefs : ∀ key, db.secretRefs.lookup (taskID, key) = none) :
    snapshots.lookup taskID = some ⟨taskID, teamID, resolved.values⟩ ∧
      ∀ key, secretRefs.lookup (taskID, key) = (resolved.secretRefs.lookup key).map
        (fun k => ⟨taskID, teamID, key, k.1, k.2⟩) := by
  constructor
  · rcases h.snapshot with ⟨⟨old, hold⟩, -⟩ | hins
    · rw [hsnap] at hold
      cases hold
    · exact (Table.lookup_insert hins taskID).trans (if_pos rfl)
  · intro key
    rw [h.refs, hrefs, Option.none_or, if_pos rfl, StrMap.lookup, Option.map_map]
    cases hfind : resolved.secretRefs.entries.find? (fun e => e.1 = key) with
    | none => rfl
    | some e =>
      have hkey : e.1 = key := by simpa using List.find?_some hfind
      simp [← hkey]

theorem resolveLaunchParametersIn_ok {taskTypeID : String}
    {order : (db : Db) → RowOrder db teamID taskTypeID}
    (h : resolveLaunchParametersIn order taskID db = .ok (resolved, db')) :
    resolved = (order db).resolve ∧
      ∃ snapshots secretRefs, Freezes db taskID teamID resolved snapshots secretRefs ∧
        db' = { db with snapshots, secretRefs } := by
  simp only [resolveLaunchParametersIn, Tx.bind_eq_ok, Tx.exists_get, Tx.pure_eq_ok] at h
  obtain ⟨_, db₁, hsnap, _, db₂, hrefs, rfl, rfl⟩ := h
  obtain ⟨snapshots, rfl, hcase⟩ := insertSnapshot_ok hsnap
  obtain ⟨⟨refs, rfl⟩, hlook, hrows⟩ := insertSecretRefs_ok hrefs
  exact ⟨rfl, snapshots, refs, ⟨hcase, hlook, hrows⟩, rfl⟩

theorem resolveLaunchParametersLocked_ok {taskTypeID : String}
    (h : resolveLaunchParametersLocked teamID taskTypeID taskID db = .ok (resolved, db')) :
    resolved = resolveLaunchParameters db teamID taskTypeID ∧
      ∃ snapshots secretRefs, Freezes db taskID teamID resolved snapshots secretRefs ∧
        db' = { db with snapshots, secretRefs } := by
  rw [resolveLaunchParametersLocked_eq] at h
  exact resolveLaunchParametersIn_ok h

end FlowAI.Registry
