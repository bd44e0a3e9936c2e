import FlowAI.Registry.Operations
import FlowAI.Framework.LastWins

/-! # Precedence of Launch Parameters

  What a resolution is for, said without its loops: a key is bound by the narrowest
  definition that binds it, a secret before a value inside one definition.  `Precedence`
  states it over the stored rows; every loop of the code is "the last contribution wins",
  and the three loops meet in one function, `Resolution.binding`.

  The second half asks when the rows determine the answer.
-/

namespace FlowAI.Registry

variable {d : DefinitionRow} {key : String}

/-! ## Section 1: What the stored rows say -/

/-- What a key is frozen to. -/
inductive Binding where
  | value (text : String)
  | secret (secretID : String) (version : Nat)
  deriving DecidableEq

/-- An unrevoked secret of a definition. -/
structure ActiveSecret (db : Db) (d : DefinitionRow) (s : SecretRow) : Prop where
  stored : s ∈ db.secrets.rows
  active : s.activeIn d.environmentID = true

/-- A definition binds a key: as a secret if it has an unrevoked one of that name, with its
    latest version, and otherwise as its value. -/
def Binds (db : Db) (d : DefinitionRow) (key : String) : Binding → Prop
  | .secret secretID version => ∃ s, ActiveSecret db d s ∧ s.name = key ∧
      s.secretID = secretID ∧ s.latestVersion = version
  | .value text => d.values.lookup key = some text ∧ ∀ s, ActiveSecret db d s → s.name ≠ key

/-- A live definition that applies to tasks of the team and type. -/
structure Applicable (db : Db) (teamID taskTypeID : String) (d : DefinitionRow) : Prop where
  stored : d ∈ db.definitions.rows
  applies : d.applies teamID taskTypeID = true

/-- The definition is the narrowest applicable one with a property. -/
structure Narrowest (db : Db) (teamID taskTypeID : String) (P : DefinitionRow → Prop)
    (d : DefinitionRow) : Prop where
  applicable : Applicable db teamID taskTypeID d
  holds : P d
  wider : ∀ d', Applicable db teamID taskTypeID d' → P d' → d' = d ∨ d'.rank < d.rank

/-- A definition binds a key somehow. -/
def BindsKey (db : Db) (key : String) (d : DefinitionRow) : Prop := ∃ b, Binds db d key b

variable {d' : DefinitionRow} {r : Resolution} {b : Binding}

theorem Narrowest.unique {db : Db} {teamID taskTypeID : String} {P : DefinitionRow → Prop}
    (h : Narrowest db teamID taskTypeID P d) (h' : Narrowest db teamID taskTypeID P d') : d = d' := by
  rcases h.wider d' h'.applicable h'.holds with heq | hlt
  · exact heq.symm
  · rcases h'.wider d h.applicable h.holds with heq | hgt
    · exact heq
    · omega

/-- The tuple under which the index of a scope has a definition that applies to a task. -/
def LaunchScope.tuple (teamID taskTypeID : String) : LaunchScope → List String
  | .global => []
  | .team => [teamID]
  | .taskType => [teamID, taskTypeID]

/-- The unique indexes: two applicable definitions have different scopes. -/
theorem Applicable.eq_of_rank_eq {db : Db} {teamID taskTypeID : String}
    (h : Applicable db teamID taskTypeID d) (h' : Applicable db teamID taskTypeID d')
    (hrank : d.rank = d'.rank) : d = d' := by
  have hscope : ∀ d : DefinitionRow, d.applies teamID taskTypeID = true →
      ∃ scope : LaunchScope, d.scopeKind = some scope ∧
        d.activeScope = some (scope.tuple teamID taskTypeID) := by
    intro d hd
    simp only [DefinitionRow.applies, Bool.and_eq_true, Bool.or_eq_true, decide_eq_true_eq,
      Bool.not_eq_true'] at hd
    obtain ⟨hdel, (hs | ⟨hs, ht⟩) | ⟨⟨hs, ht⟩, hty⟩⟩ := hd
    · exact ⟨.global, hs, by simp [DefinitionRow.activeScope, LaunchScope.tuple, hdel, hs]⟩
    · exact ⟨.team, hs, by simp [DefinitionRow.activeScope, LaunchScope.tuple, hdel, hs, ht]⟩
    · exact ⟨.taskType, hs, by simp [DefinitionRow.activeScope, LaunchScope.tuple, hdel, hs, ht, hty]⟩
  obtain ⟨scope, hkind, htuple⟩ := hscope d h.applies
  obtain ⟨scope', hkind', htuple'⟩ := hscope d' h'.applies
  have hsame : scope = scope' := by
    rw [DefinitionRow.rank, DefinitionRow.rank, hkind, hkind'] at hrank
    cases scope <;> cases scope' <;> first | rfl | cases hrank
  apply Table.eq_of_tuple_eq (u := DefinitionRow.activeScope) List.mem_cons_self h.stored h'.stored
  · rw [htuple]
    rfl
  · rw [htuple, htuple', hsame]

/-- What a resolution has to be. -/
structure Precedence (db : Db) (teamID taskTypeID : String) (binding : String → Option Binding)
    (frozen : Option (String × ImageSource)) : Prop where
  bound : ∀ key b, binding key = some b →
    ∃ d, Narrowest db teamID taskTypeID (BindsKey db key) d ∧ Binds db d key b
  unbound : ∀ key, binding key = none →
    ∀ d, Applicable db teamID taskTypeID d → ¬ BindsKey db key d
  image : ∀ ref source, frozen = some (ref, source) →
    ∃ d scope, Narrowest db teamID taskTypeID (fun d => d.image ≠ none) d ∧
      d.image = some ref ∧ d.scopeKind = some scope ∧ source = scope.imageSource
  noImage : frozen = none → ∀ d, Applicable db teamID taskTypeID d → d.image = none

/-! ## Section 2: The loops -/

/-- What a resolution has for a key. -/
def Resolution.binding (r : Resolution) (key : String) : Option Binding :=
  ((r.secretRefs.lookup key).map (fun ref => .secret ref.1 ref.2)).or
    ((r.values.lookup key).map .value)

/-- No key is both a value and a reference. -/
def Resolution.Separate (r : Resolution) : Prop :=
  ∀ key, r.values.lookup key = none ∨ r.secretRefs.lookup key = none

def valueBinding (key : String) (e : String × String) : Option Binding :=
  if e.1 = key then some (.value e.2) else none

def secretBinding (key : String) (s : SecretRow) : Option Binding :=
  if s.name = key then some (.secret s.secretID s.latestVersion) else none

theorem binding_addValue (r : Resolution) (key : String) (e : String × String) :
    (r.addValue e.1 e.2).binding key = (valueBinding key e).or (r.binding key) := by
  unfold Resolution.binding Resolution.addValue valueBinding
  by_cases h : e.1 = key
  · simp [h]
  · simp [h, Ne.symm h]

theorem binding_addSecret (r : Resolution) (key : String) (s : SecretRow) :
    (r.addSecret s).binding key = (secretBinding key s).or (r.binding key) := by
  unfold Resolution.binding Resolution.addSecret secretBinding
  by_cases h : s.name = key
  · simp [h]
  · simp [h, Ne.symm h]

theorem addImage_binding (r : Resolution) (d : DefinitionRow) :
    (r.addImage d).binding = r.binding ∧ ((r.addImage d).Separate ↔ r.Separate) := by
  unfold Resolution.addImage
  split <;> exact ⟨rfl, .rfl⟩

/-- The values of one definition: at most one has the key. -/
theorem lastSome_values (values : StrMap String) (key : String) :
    lastSome (valueBinding key) values.entries = (values.lookup key).map .value := by
  have hentry : ∀ e ∈ values.entries, ∀ b, valueBinding key e = some b →
      values.lookup key = some e.2 ∧ b = .value e.2 := by
    intro e he b hb
    unfold valueBinding at hb
    split at hb
    · rename_i hkey
      subst hkey
      exact ⟨StrMap.lookup_eq_some_iff.mpr he, (Option.some.inj hb).symm⟩
    · cases hb
  cases hlook : values.lookup key with
  | none =>
    apply lastSome_eq_none_iff.mpr
    intro e he
    cases hb : valueBinding key e with
    | none => rfl
    | some b =>
      rw [hlook] at hentry
      cases (hentry e he b hb).1
  | some text =>
    have hmem : (key, text) ∈ values.entries := StrMap.lookup_eq_some_iff.mp hlook
    apply lastSome_of_agree hmem (if_pos rfl)
    intro e he b hb
    obtain ⟨htext, rfl⟩ := hentry e he b hb
    rw [Option.some.inj (hlook.symm.trans htext)]

/-- What one definition contributes to a key, its secrets read in the given order. -/
def DefinitionRow.layer (secrets : List SecretRow) (key : String) (d : DefinitionRow) :
    Option Binding :=
  (lastSome (secretBinding key) secrets).or ((d.values.lookup key).map .value)

theorem binding_addRows (secrets : List SecretRow) (r : Resolution) (d : DefinitionRow)
    (key : String) :
    (r.addRows secrets d).binding key = (d.layer secrets key).or (r.binding key) := by
  show ((secrets.foldl Resolution.addSecret _).addImage d).binding key = _
  have hsecrets := read_foldl (fun r : Resolution => r.binding key)
    (fun r s => binding_addSecret r key s) secrets
  have hvalues := read_foldl (fun r : Resolution => r.binding key)
    (fun r e => binding_addValue r key e) d.values.entries
  rw [(addImage_binding _ d).1, hsecrets, hvalues, lastSome_values, DefinitionRow.layer,
    Option.or_assoc]

/-- The image a definition contributes. -/
def DefinitionRow.imageLayer (d : DefinitionRow) : Option (String × ImageSource) :=
  match d.image, d.scopeKind with
  | some image, some scope => some (image, scope.imageSource)
  | _, _ => none

theorem image_addImage (r : Resolution) (d : DefinitionRow) :
    (r.addImage d).image = d.imageLayer.or r.image := by
  unfold Resolution.addImage DefinitionRow.imageLayer
  cases d.image with
  | none => rfl
  | some image => cases d.scopeKind <;> rfl

theorem image_addRows (secrets : List SecretRow) (r : Resolution) (d : DefinitionRow) :
    (r.addRows secrets d).image = d.imageLayer.or r.image := by
  have hsecrets : ∀ r : Resolution, (secrets.foldl Resolution.addSecret r).image = r.image :=
    fun r => List.foldlRecOn (motive := fun r' : Resolution => r'.image = r.image) _ _ rfl
      (fun _ h _ _ => h)
  have hvalues : (d.values.entries.foldl (fun r e => r.addValue e.1 e.2) r).image = r.image :=
    List.foldlRecOn (motive := fun r' : Resolution => r'.image = r.image) _ _ rfl (fun _ h _ _ => h)
  show ((secrets.foldl Resolution.addSecret _).addImage d).image = _
  rw [image_addImage, hsecrets, hvalues]

/-- Each insertion erases the other kind of binding. -/
theorem Resolution.Separate.addRows (h : r.Separate) (secrets : List SecretRow)
    (d : DefinitionRow) : (r.addRows secrets d).Separate := by
  have hvalue : ∀ (r : Resolution) (k v : String), r.Separate → (r.addValue k v).Separate := by
    intro r k v h key
    unfold Resolution.addValue
    by_cases hk : key = k
    · exact .inr (by simp [hk])
    · simpa [hk, Ne.symm hk] using h key
  have hsecret : ∀ (r : Resolution) (s : SecretRow), r.Separate → (r.addSecret s).Separate := by
    intro r s h key
    unfold Resolution.addSecret
    by_cases hk : key = s.name
    · exact .inl (by simp [hk])
    · simpa [hk, Ne.symm hk] using h key
  have hvalues : (d.values.entries.foldl (fun r e => r.addValue e.1 e.2) r).Separate :=
    List.foldlRecOn _ _ h (fun r h e _ => hvalue r e.1 e.2 h)
  exact (addImage_binding _ d).2.mpr
    (List.foldlRecOn secrets _ hvalues (fun r h s _ => hsecret r s h))

/-! ## Section 3: The projection -/

section

variable {db : Db} {teamID taskTypeID : String} (o : RowOrder db teamID taskTypeID)

/-- What a definition contributes to a key in an answer of the database. -/
def RowOrder.layer (key : String) (d : DefinitionRow) : Option Binding :=
  d.layer (o.secrets d.environmentID) key

theorem RowOrder.binding_resolve (key : String) :
    o.resolve.binding key = lastSome (o.layer key) o.definitions := by
  have h := read_foldl (fun r : Resolution => r.binding key)
    (fun r d => binding_addRows (o.secrets d.environmentID) r d key) o.definitions .empty
  exact h.trans (Option.or_none ..)

theorem RowOrder.image_resolve : o.resolve.image = lastSome DefinitionRow.imageLayer o.definitions := by
  have h := read_foldl Resolution.image
    (fun r d => image_addRows (o.secrets d.environmentID) r d) o.definitions .empty
  exact h.trans (Option.or_none ..)

theorem RowOrder.separate_resolve : o.resolve.Separate :=
  List.foldlRecOn o.definitions _ (fun _ => .inl rfl) (fun _ h d _ => h.addRows _ d)

theorem RowOrder.mem_definitions :
    d ∈ o.definitions ↔ Applicable db teamID taskTypeID d := by
  rw [o.definitions_perm.mem_iff, List.mem_filter]
  exact ⟨fun h => ⟨h.1, h.2⟩, fun h => ⟨h.stored, h.applies⟩⟩

theorem RowOrder.mem_secrets {s : SecretRow} :
    s ∈ o.secrets d.environmentID ↔ ActiveSecret db d s := by
  rw [(o.secrets_perm d.environmentID).mem_iff, List.mem_filter]
  exact ⟨fun h => ⟨h.1, h.2⟩, fun h => ⟨h.stored, h.active⟩⟩

theorem RowOrder.lastSome_secrets_eq_none_iff :
    lastSome (secretBinding key) (o.secrets d.environmentID) = none ↔
      ∀ s, ActiveSecret db d s → s.name ≠ key := by
  rw [lastSome_eq_none_iff]
  constructor
  · intro h s hs hname
    have hnone := h s (o.mem_secrets.mpr hs)
    rw [secretBinding, if_pos hname] at hnone
    cases hnone
  · intro h s hs
    exact if_neg (h s (o.mem_secrets.mp hs))

theorem RowOrder.binds_of_layer (h : o.layer key d = some b) : Binds db d key b := by
  unfold RowOrder.layer DefinitionRow.layer at h
  cases hs : lastSome (secretBinding key) (o.secrets d.environmentID) with
  | some b' =>
    rw [hs, Option.some_or] at h
    injection h with h
    subst h
    obtain ⟨s, hmem, hb⟩ := mem_of_lastSome hs
    unfold secretBinding at hb
    split at hb
    · rename_i hname
      injection hb with hb
      subst hb
      exact ⟨s, o.mem_secrets.mp hmem, hname, rfl, rfl⟩
    · cases hb
  | none =>
    rw [hs, Option.none_or] at h
    obtain ⟨text, htext, rfl⟩ := Option.map_eq_some_iff.mp h
    exact ⟨htext, o.lastSome_secrets_eq_none_iff.mp hs⟩

theorem RowOrder.layer_ne_none_iff :
    o.layer key d ≠ none ↔ BindsKey db key d := by
  constructor
  · intro h
    obtain ⟨b, hb⟩ := Option.ne_none_iff_exists'.mp h
    exact ⟨b, o.binds_of_layer hb⟩
  · rintro ⟨b, hb⟩ hnone
    obtain ⟨hsecrets, hvalues⟩ := Option.or_eq_none_iff.mp hnone
    have hno := o.lastSome_secrets_eq_none_iff.mp hsecrets
    cases b with
    | value text =>
      rw [hb.1] at hvalues
      cases hvalues
    | secret secretID version =>
      obtain ⟨s, hs, hname, -⟩ := hb
      exact hno s hs hname

/-- The last of the definitions with a contribution is the narrowest: ranks of applicable
    definitions differ. -/
theorem RowOrder.narrowest_of_lastSome {β : Type} {f : DefinitionRow → Option β} {b : β}
    (h : lastSome f o.definitions = some b) :
    ∃ d, Narrowest db teamID taskTypeID (fun d => f d ≠ none) d ∧ f d = some b := by
  obtain ⟨d, hd, hb, hmax⟩ := exists_greatest_of_lastSome o.definitions_sorted h
  have happ := o.mem_definitions.mp hd
  refine ⟨d, ⟨happ, by rw [hb]; exact Option.some_ne_none b, ?_⟩, hb⟩
  intro d' hd' hcontributes
  have hle := hmax d' (o.mem_definitions.mpr hd') hcontributes
  rcases Nat.lt_or_eq_of_le hle with hlt | heq
  · exact .inr hlt
  · exact .inl (hd'.eq_of_rank_eq happ heq)

/-- An applicable definition has a scope, so its image is a contribution. -/
theorem Applicable.imageLayer_eq (h : Applicable db teamID taskTypeID d) :
    ∃ scope, d.scopeKind = some scope ∧
      d.imageLayer = d.image.map (fun image => (image, scope.imageSource)) := by
  have happlies := h.applies
  unfold DefinitionRow.applies at happlies
  cases hkind : d.scopeKind with
  | none => simp [hkind] at happlies
  | some scope =>
    refine ⟨scope, rfl, ?_⟩
    rw [DefinitionRow.imageLayer, hkind]
    cases d.image <;> rfl

/-- **The projection has the precedence, in every answer of the database.** -/
theorem RowOrder.precedence :
    Precedence db teamID taskTypeID o.resolve.binding o.resolve.image := by
  constructor
  · intro key b hb
    rw [o.binding_resolve] at hb
    obtain ⟨d, hnarrow, hlayer⟩ := o.narrowest_of_lastSome hb
    refine ⟨d, ⟨hnarrow.applicable, o.layer_ne_none_iff.mp hnarrow.holds, ?_⟩,
      o.binds_of_layer hlayer⟩
    intro d' hd' hbinds
    exact hnarrow.wider d' hd' (o.layer_ne_none_iff.mpr hbinds)
  · intro key hnone d hd hbinds
    rw [o.binding_resolve] at hnone
    have hlayer := lastSome_eq_none_iff.mp hnone d (o.mem_definitions.mpr hd)
    exact o.layer_ne_none_iff.mpr hbinds hlayer
  · intro ref source himage
    rw [o.image_resolve] at himage
    obtain ⟨d, hnarrow, hlayer⟩ := o.narrowest_of_lastSome himage
    obtain ⟨scope, hkind, heq⟩ := hnarrow.applicable.imageLayer_eq
    rw [heq] at hlayer
    obtain ⟨image, hd, hpair⟩ := Option.map_eq_some_iff.mp hlayer
    obtain ⟨rfl, rfl⟩ := Prod.mk.inj hpair
    refine ⟨d, scope, ⟨hnarrow.applicable, by rw [hd]; exact Option.some_ne_none image, ?_⟩, hd,
      hkind, rfl⟩
    intro d' hd' himage'
    obtain ⟨scope', -, heq'⟩ := hd'.imageLayer_eq
    apply hnarrow.wider d' hd'
    rw [heq']
    exact mt Option.map_eq_none_iff.mp himage'
  · intro hnone d hd
    rw [o.image_resolve] at hnone
    have hlayer := lastSome_eq_none_iff.mp hnone d (o.mem_definitions.mpr hd)
    obtain ⟨scope, -, heq⟩ := hd.imageLayer_eq
    rw [heq] at hlayer
    exact Option.map_eq_none_iff.mp hlayer

end

/-! ## Section 4: The frozen rows -/

/-- What the rows of a task say about a key. -/
def frozenBinding (db : Db) (taskID key : String) : Option Binding :=
  ((db.secretRefs.lookup (taskID, key)).map (fun ref => .secret ref.secretID ref.version)).or
    (((db.snapshots.lookup taskID).bind (fun row => row.values.lookup key)).map .value)

/-- **A resolution freezes for each key the binding of the narrowest definition that binds
    it, and returns the image of the narrowest definition that has one.**  A pending task, the
    only kind that is resolved, has no frozen rows yet (`FrozenInvariant.of_pending`). -/
theorem launch_parameter_precedence {teamID taskTypeID taskID : String}
    (order : (db : Db) → RowOrder db teamID taskTypeID) {db db' : Db} {resolved : Resolution}
    (hsnapshot : db.snapshots.lookup taskID = none)
    (hrefs : ∀ key, db.secretRefs.lookup (taskID, key) = none)
    (h : resolveLaunchParametersIn order taskID db = .ok (resolved, db')) :
    Precedence db teamID taskTypeID (frozenBinding db' taskID) resolved.image ∧
      ∀ key, db'.secretRefs.lookup (taskID, key) = none ∨
        ∀ row, db'.snapshots.lookup taskID = some row → row.values.lookup key = none := by
  obtain ⟨rfl, snapshots, secretRefs, hfreezes, rfl⟩ := resolveLaunchParametersIn_ok h
  obtain ⟨hrow, hkeys⟩ := hfreezes.of_pending hsnapshot hrefs
  constructor
  · have hbinding : frozenBinding { db with snapshots, secretRefs } taskID =
        (order db).resolve.binding := by
      funext key
      unfold frozenBinding Resolution.binding
      show ((secretRefs.lookup (taskID, key)).map _).or
        (((snapshots.lookup taskID).bind _).map _) = _
      rw [hkeys, hrow, Option.map_map, Option.bind_some]
      rfl
    rw [hbinding]
    exact (order db).precedence
  · intro key
    rcases (order db).separate_resolve key with hvalue | href
    · right
      intro row hlook
      have heq : row = ⟨taskID, teamID, (order db).resolve.values⟩ :=
        Option.some.inj (hlook.symm.trans hrow)
      rw [heq]
      exact hvalue
    · left
      show secretRefs.lookup (taskID, key) = none
      rw [hkeys, href]
      rfl

/-- Two values of the team, a secret of the team under the key of the second, and a definition of
    the task type that overrides the first. -/
def samplePrecedence : List Call :=
  sampleSetup ++ [
    ⟨sampleEnv "params" 5, .createLaunchParameters ⟨"team", "operator", "request"⟩
      ⟨.team, none, "defaults", .ofList [("MODE", "fast"), ("TOKEN", "none")], none⟩⟩,
    ⟨sampleEnv "secret" 5, .createSecret ⟨"team", "operator", "request"⟩ "params"
      ⟨"TOKEN", "first"⟩⟩,
    ⟨sampleEnv "typed" 5, .createLaunchParameters ⟨"team", "operator", "request"⟩
      ⟨.taskType, some "type", "typed", .ofList [("MODE", "slow")], none⟩⟩,
    sampleIngest "task" "1" 5]

theorem launch_parameter_precedence_sample : ∃ resolved db',
    resolveLaunchParametersIn (fun db => .inserted db "team" "type") "task"
      (serve sampleConfig .empty samplePrecedence) = .ok (resolved, db') ∧
    Precedence (serve sampleConfig .empty samplePrecedence) "team" "type"
      (frozenBinding db' "task") resolved.image ∧
    frozenBinding db' "task" "TOKEN" = some (.secret "secret" 1) ∧
    frozenBinding db' "task" "MODE" = some (.value "slow") := by
  have hfresh : (serve sampleConfig .empty samplePrecedence).secretRefs.rows = [] := by
    decide +kernel
  refine Tx.exists_ok (by decide +kernel) (fun resolved h =>
    ⟨(launch_parameter_precedence _ (by decide +kernel) ?_ h).1, by decide +kernel⟩)
  intro key
  rw [Table.lookup, hfresh]
  rfl

/-! ## Section 5: When the rows determine the snapshot -/

theorem secretRefs_of_binding {secretID : String} {version : Nat}
    (h : r.binding key = some (.secret secretID version)) :
    r.secretRefs.lookup key = some (secretID, version) := by
  unfold Resolution.binding at h
  cases hrefs : r.secretRefs.lookup key with
  | some ref =>
    rw [hrefs] at h
    injection h with h
    injection h with hid hversion
    rw [← hid, ← hversion]
  | none =>
    rw [hrefs] at h
    cases hvalues : r.values.lookup key <;> rw [hvalues] at h <;> cases h

theorem Resolution.Separate.eq_of_binding {r' : Resolution} (hr : r.Separate) (hr' : r'.Separate)
    (h : ∀ key, r.binding key = r'.binding key) :
    r.values = r'.values ∧ r.secretRefs = r'.secretRefs := by
  have hlookups : ∀ key, r.values.lookup key = r'.values.lookup key ∧
      r.secretRefs.lookup key = r'.secretRefs.lookup key := by
    intro key
    have hkey := h key
    have hsep := hr key
    have hsep' := hr' key
    unfold Resolution.binding at hkey
    -- a binding tells which of the two maps it is from
    cases hv : r.values.lookup key <;> cases hs : r.secretRefs.lookup key <;>
      cases hv' : r'.values.lookup key <;> cases hs' : r'.secretRefs.lookup key <;>
      simp_all [Prod.ext_iff]
  exact ⟨StrMap.ext_lookup (fun key => (hlookups key).1),
    StrMap.ext_lookup (fun key => (hlookups key).2)⟩

section

variable {db : Db} {teamID taskTypeID : String}

/-- What the narrowest definition contributes is what the key is bound to. -/
theorem RowOrder.binding_of_narrowest (o : RowOrder db teamID taskTypeID)
    (h : Narrowest db teamID taskTypeID (BindsKey db key) d) (hlayer : o.layer key d = some b) :
    o.resolve.binding key = some b := by
  rw [o.binding_resolve]
  apply lastSome_of_greatest o.definitions_sorted (o.mem_definitions.mpr h.applicable) hlayer
  intro d' hd' hcontributes
  exact h.wider d' (o.mem_definitions.mp hd') (o.layer_ne_none_iff.mp hcontributes)

/-- Any unrevoked secret may be returned last of those with its name. -/
theorem exists_order_last (teamID taskTypeID : String) {s : SecretRow} (hs : ActiveSecret db d s) :
    ∃ o : RowOrder db teamID taskTypeID,
      o.layer s.name d = some (.secret s.secretID s.latestVersion) := by
  have hmem : s ∈ db.secrets.rows.filter (·.activeIn d.environmentID) :=
    List.mem_filter.mpr ⟨hs.stored, hs.active⟩
  obtain ⟨before, after, hperm, hsorted, hafter⟩ := exists_ordered_last SecretRow.name hmem
  let answer := RowOrder.inserted db teamID taskTypeID
  let o : RowOrder db teamID taskTypeID :=
    { answer with
      secrets := Function.update answer.secrets d.environmentID (before ++ s :: after)
      secrets_perm := by
        intro e
        by_cases he : e = d.environmentID
        · rw [he, Function.update_self]
          exact hperm
        · rw [Function.update_of_ne he]
          exact answer.secrets_perm e
      secrets_sorted := by
        intro e
        by_cases he : e = d.environmentID
        · rw [he, Function.update_self]
          exact hsorted
        · rw [Function.update_of_ne he]
          exact answer.secrets_sorted e }
  have hsecrets : o.secrets d.environmentID = before ++ s :: after := Function.update_self ..
  refine ⟨o, ?_⟩
  have hlast : lastSome (secretBinding s.name) (before ++ s :: after) =
      some (.secret s.secretID s.latestVersion) := by
    have hown : secretBinding s.name s = some (.secret s.secretID s.latestVersion) := if_pos rfl
    apply lastSome_of_last hown
    intro x hx
    exact if_neg (hafter x hx).ne'
  rw [RowOrder.layer, DefinitionRow.layer, hsecrets, hlast, Option.some_or]

/-- Without two unrevoked secrets of one name a definition binds a key to one thing. -/
theorem Binds.unique {b' : Binding}
    (hone : ∀ s s', ActiveSecret db d s → ActiveSecret db d s' → s.name = key → s'.name = key →
      s = s') (h : Binds db d key b) (h' : Binds db d key b') : b = b' := by
  cases b with
  | value text =>
    cases b' with
    | value text' => rw [Option.some.inj (h.1.symm.trans h'.1)]
    | secret _ _ =>
      obtain ⟨s, hs, hname, -⟩ := h'
      exact absurd hname (h.2 s hs)
  | secret secretID version =>
    obtain ⟨s, hs, hname, rfl, rfl⟩ := h
    cases b' with
    | value text' => exact absurd hname (h'.2 s hs)
    | secret _ _ =>
      obtain ⟨s', hs', hname', rfl, rfl⟩ := h'
      rw [hone s s' hs hs' hname hname']

/-- **The stored rows determine the snapshot of a resolution exactly when no definition that
    is the narrowest to bind a key has two unrevoked secrets of that name.** -/
theorem snapshot_determined_iff (db : Db) (teamID taskTypeID : String) :
    (∀ o o' : RowOrder db teamID taskTypeID,
      o.resolve.values = o'.resolve.values ∧ o.resolve.secretRefs = o'.resolve.secretRefs) ↔
    ∀ key d, Narrowest db teamID taskTypeID (BindsKey db key) d →
      ∀ s s', ActiveSecret db d s → ActiveSecret db d s' → s.name = key → s'.name = key →
        s = s' := by
  constructor
  · intro hsame key d hnarrow s s' hs hs' hname hname'
    subst hname
    obtain ⟨o, ho⟩ := exists_order_last teamID taskTypeID hs
    obtain ⟨o', ho'⟩ := exists_order_last teamID taskTypeID hs'
    rw [hname'] at ho'
    have href := secretRefs_of_binding (o.binding_of_narrowest hnarrow ho)
    have href' := secretRefs_of_binding (o'.binding_of_narrowest hnarrow ho')
    rw [(hsame o o').2, href'] at href
    have hid : s'.secretID = s.secretID := (Prod.mk.inj (Option.some.inj href)).1
    exact Table.eq_of_key_eq hs.stored hs'.stored hid.symm
  · intro hone o o'
    apply o.separate_resolve.eq_of_binding o'.separate_resolve
    intro key
    cases hb : o.resolve.binding key with
    | none =>
      cases hb' : o'.resolve.binding key with
      | none => rfl
      | some b' =>
        obtain ⟨d, hnarrow, -⟩ := o'.precedence.bound key b' hb'
        exact absurd hnarrow.holds (o.precedence.unbound key hb d hnarrow.applicable)
    | some b =>
      obtain ⟨d, hnarrow, hbinds⟩ := o.precedence.bound key b hb
      cases hb' : o'.resolve.binding key with
      | none => exact absurd hnarrow.holds (o'.precedence.unbound key hb' d hnarrow.applicable)
      | some b' =>
        obtain ⟨d', hnarrow', hbinds'⟩ := o'.precedence.bound key b' hb'
        rw [← hnarrow.unique hnarrow'] at hbinds'
        rw [hbinds.unique (hone key d hnarrow) hbinds']

end

/-- A secret created twice under one name. -/
def sampleTwice : List Call :=
  sampleSetup ++ [
    ⟨sampleEnv "params" 5, .createLaunchParameters ⟨"team", "operator", "request"⟩
      ⟨.team, none, "defaults", .empty, none⟩⟩,
    ⟨sampleEnv "first" 6, .createSecret ⟨"team", "operator", "request"⟩ "params"
      ⟨"TOKEN", "one"⟩⟩,
    ⟨sampleEnv "second" 7, .createSecret ⟨"team", "operator", "request"⟩ "params"
      ⟨"TOKEN", "two"⟩⟩]

/-- Each of the two secrets is frozen in some answer of the database. -/
theorem snapshot_depends_on_ties :
    ∃ o o' : RowOrder (serve sampleConfig .empty sampleTwice) "team" "type",
      o.resolve.secretRefs.lookup "TOKEN" = some ("first", 1) ∧
      o'.resolve.secretRefs.lookup "TOKEN" = some ("second", 1) := by
  have hstored : ∃ d ∈ (serve sampleConfig .empty sampleTwice).definitions.rows,
      d.applies "team" "type" = true ∧ d.environmentID = "params" ∧
      (serve sampleConfig .empty sampleTwice).definitions.rows = [d] := by
    decide +kernel
  have hfirst : ∃ s ∈ (serve sampleConfig .empty sampleTwice).secrets.rows,
      s.activeIn "params" = true ∧ s.name = "TOKEN" ∧ s.secretID = "first" ∧ s.latestVersion = 1 := by
    decide +kernel
  have hsecond : ∃ s ∈ (serve sampleConfig .empty sampleTwice).secrets.rows,
      s.activeIn "params" = true ∧ s.name = "TOKEN" ∧ s.secretID = "second" ∧
      s.latestVersion = 1 := by
    decide +kernel
  obtain ⟨d, hd, happlies, hparams, honly⟩ := hstored
  obtain ⟨s, hs, hactive, hname, hid, hversion⟩ := hfirst
  obtain ⟨s', hs', hactive', hname', hid', hversion'⟩ := hsecond
  have hdefined : ActiveSecret (serve sampleConfig .empty sampleTwice) d s := ⟨hs, hparams ▸ hactive⟩
  have hdefined' : ActiveSecret (serve sampleConfig .empty sampleTwice) d s' :=
    ⟨hs', hparams ▸ hactive'⟩
  have hnarrow : Narrowest (serve sampleConfig .empty sampleTwice) "team" "type"
      (BindsKey (serve sampleConfig .empty sampleTwice) "TOKEN") d := by
    refine ⟨⟨hd, happlies⟩, ⟨.secret "first" 1, s, hdefined, hname, hid, hversion⟩, ?_⟩
    intro d' hd' _
    have hmem := hd'.stored
    rw [honly] at hmem
    exact .inl (List.mem_singleton.mp hmem)
  obtain ⟨o, ho⟩ := exists_order_last "team" "type" hdefined
  obtain ⟨o', ho'⟩ := exists_order_last "team" "type" hdefined'
  rw [hname, hid, hversion] at ho
  rw [hname', hid', hversion'] at ho'
  exact ⟨o, o', secretRefs_of_binding (o.binding_of_narrowest hnarrow ho),
    secretRefs_of_binding (o'.binding_of_narrowest hnarrow ho')⟩

end FlowAI.Registry
