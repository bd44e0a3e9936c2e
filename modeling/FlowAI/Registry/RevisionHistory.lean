import FlowAI.Registry.Operations

/-! # The Revision History of Launch Parameters

  The six operations that write launch parameters or their secrets, over whole runs: the
  revisions of a definition are numbered without a gap up to the current one, and the last
  revision is the definition as it stands, with the names of its unrevoked secrets.

  `HistoryStep` says once what a call does to definitions, revisions and secrets; the
  invariant `Mirrored` is carried along it.
-/

namespace FlowAI.Registry

variable {cfg : Config} {call : Call} {db db' : Db} {d : DefinitionRow}

/-! ## Section 1: What a step does to the history -/

/-- `secrets` differs from the stored secrets only at one definition of one team. -/
structure SecretsWithin (db : Db) (teamID environmentID : String)
    (secrets : Table secretSchema) : Prop where
  elsewhere : ∀ id, id ≠ environmentID →
    secrets.rows.filter (fun s => s.environmentID = id) =
      db.secrets.rows.filter (fun s => s.environmentID = id)
  owned : ∀ s ∈ secrets.rows, (s.teamID = some teamID ∧ s.environmentID = environmentID) ∨
    ∃ s₀ ∈ db.secrets.rows, s₀.teamID = s.teamID ∧ s₀.environmentID = s.environmentID

theorem SecretsWithin.refl (db : Db) (teamID environmentID : String) :
    SecretsWithin db teamID environmentID db.secrets :=
  ⟨fun _ _ => rfl, fun s hs => .inr ⟨s, hs, rfl, rfl⟩⟩

variable {environmentID : String} {r : RevisionRow}

theorem SecretsWithin.insert {teamID : String} {secret : SecretRow} {secrets : Table secretSchema}
    (hteam : secret.teamID = some teamID) (henv : secret.environmentID = environmentID)
    (h : db.secrets.insert secret = .ok secrets) :
    SecretsWithin db teamID environmentID secrets := by
  constructor
  · intro id hid
    apply Table.filter_rows_insert h
    simpa [henv] using hid.symm
  · refine Table.forall_insert ?_ h ?_
    · intro s hs
      exact .inr ⟨s, hs, rfl, rfl⟩
    · exact .inl ⟨hteam, henv⟩

/-- An update of one secret that leaves its team and definition alone. -/
theorem SecretsWithin.update {teamID secretID : String} {secret : SecretRow}
    {secrets : Table secretSchema} {f : SecretRow → SecretRow}
    {hf : ∀ r, (f r).secretID = r.secretID} (h : db.secrets.update secretID f hf = .ok secrets)
    (hteam : ∀ r, (f r).teamID = r.teamID) (henv : ∀ r, (f r).environmentID = r.environmentID)
    (hfound : db.secrets.lookup secretID = some secret)
    (hsecret : secret.environmentID = environmentID) :
    SecretsWithin db teamID environmentID secrets := by
  constructor
  · intro id hid
    apply Table.filter_rows_update h
    intro s hs hkey
    -- the updated row is the one that was found
    have hlook : db.secrets.lookup secretID = some s := Table.lookup_eq_some_iff.mpr ⟨hs, hkey⟩
    have hs' : s = secret := Option.some.inj (hlook.symm.trans hfound)
    have hne : s.environmentID ≠ id := by
      rw [hs', hsecret]
      exact hid.symm
    simp [henv, hne]
  · refine Table.forall_update ?_ h ?_
    · intro s hs
      exact .inr ⟨s, hs, rfl, rfl⟩
    · intro s hs _
      exact .inr ⟨s, hs, (hteam s).symm, (henv s).symm⟩

/-- Definitions, revisions and secrets as a call leaves them. -/
inductive HistoryStep (db : Db) :
    Table definitionSchema → Table revisionSchema → Table secretSchema → Prop where
  | keep : HistoryStep db db.definitions db.revisions db.secrets
  | create {identity item scope definitions revisions}
      (inserted : db.definitions.insert item = .ok definitions)
      (kind : item.scopeKind = some scope)
      (first : item.revision = 1)
      (live : item.deleted = false)
      (appended : db.revisions.insert (revisionRow db identity item scope false) =
        .ok revisions) :
      HistoryStep db definitions revisions db.secrets
  | bump {identity environmentID f hf row definitions revisions secrets}
      (updated : db.definitions.update environmentID f hf = .ok definitions)
      (recorded : Recorded { db with secrets } identity environmentID f row revisions)
      (next : (f row).revision = row.revision + 1)
      (team : (f row).teamID = row.teamID)
      (within : SecretsWithin db identity.teamID environmentID secrets) :
      HistoryStep db definitions revisions secrets

/-- The calls that write launch parameters or secrets. -/
def Op.writesHistory : Op → Bool
  | .createLaunchParameters .. | .replaceLaunchParameters .. | .deleteLaunchParameters ..
  | .createSecret .. | .replaceSecret .. | .revokeSecret .. => true
  | _ => false

/-- Every other call leaves the three tables alone. -/
theorem Effect.keepsHistory (h : Effect cfg call db db') (hop : call.op.writesHistory = false) :
    db'.definitions = db.definitions ∧ db'.revisions = db.revisions ∧
      db'.secrets = db.secrets := by
  cases h with
  | createLaunchParameters op | replaceLaunchParameters op | deleteLaunchParameters op
  | createSecret op | replaceSecret op | revokeSecret op =>
    rw [op] at hop
    cases hop
  | claimTask _ _ hfresh =>
    obtain ⟨_, _, _, _, _, _, _, -, -, -, -, -, rfl⟩ := hfresh.effect
    exact ⟨rfl, rfl, rfl⟩
  | appendTaskEvent _ _ _ _ hfresh | appendTaskControlEvent _ _ _ hfresh =>
    obtain ⟨_, _, _, -, -, -, rfl⟩ := hfresh.effect
    exact ⟨rfl, rfl, rfl⟩
  | _ => exact ⟨rfl, rfl, rfl⟩

theorem exec_history {u : Unit} (h : exec cfg call db = .ok (u, db')) :
    HistoryStep db db'.definitions db'.revisions db'.secrets := by
  by_cases hw : call.op.writesHistory = true
  · obtain ⟨env, op⟩ := call
    cases op with
    | createLaunchParameters identity req =>
      obtain ⟨item, h⟩ := Tx.void_eq_ok.mp h
      obtain ⟨definitions, revisions, _, hins, -, -, hscope, hfirst, hlive, happ, rfl⟩ :=
        createLaunchParameters_ok h
      exact .create hins hscope hfirst hlive happ
    | replaceLaunchParameters identity environmentID req =>
      obtain ⟨_, h⟩ := Tx.void_eq_ok.mp h
      obtain ⟨row, definitions, revisions, _, hupd, hrec, rfl⟩ := replaceLaunchParameters_ok h
      exact .bump hupd hrec rfl rfl (.refl db _ _)
    | deleteLaunchParameters identity environmentID =>
      obtain ⟨row, definitions, revisions, _, hupd, hrec, rfl⟩ := deleteLaunchParameters_ok h
      exact .bump hupd hrec rfl rfl (.refl db _ _)
    | createSecret identity environmentID req =>
      obtain ⟨_, h⟩ := Tx.void_eq_ok.mp h
      obtain ⟨_, secrets, _, row, definitions, revisions, _, -, -, -, hteam, henv, -, hins, -, hupd,
        hrec, rfl⟩ := createSecret_ok h
      exact .bump hupd hrec rfl rfl (.insert hteam henv hins)
    | replaceSecret identity environmentID secretID req =>
      obtain ⟨_, h⟩ := Tx.void_eq_ok.mp h
      obtain ⟨_, secret, secrets, _, row, definitions, revisions, _, -, hfound, henv, -, -, hadv,
        hupd, hrec, rfl⟩ := replaceSecret_ok h
      have hwithin : SecretsWithin db identity.teamID environmentID secrets :=
        .update hadv (fun _ => rfl) (fun _ => rfl) hfound henv
      exact .bump hupd hrec rfl rfl hwithin
    | revokeSecret identity environmentID secretID =>
      obtain ⟨_, h⟩ := Tx.void_eq_ok.mp h
      rcases (revokeSecret_ok h).2 with
        rfl | ⟨secret, secrets, row, definitions, revisions, _, hfound, henv, hrev, hupd, hrec, rfl⟩
      · exact .keep
      · have hwithin : SecretsWithin db identity.teamID environmentID secrets :=
          .update hrev (fun _ => rfl) (fun _ => rfl) hfound henv
        exact .bump hupd hrec rfl rfl hwithin
    | _ => cases hw
  · obtain ⟨hd, hr, hs⟩ := (exec_effect h).keepsHistory (Bool.eq_false_iff.mpr hw)
    rw [hd, hr, hs]
    exact .keep

theorem historyStep_of_step (h : (registry cfg).step db call db') :
    HistoryStep db db'.definitions db'.revisions db'.secrets := by
  change (exec cfg call).commit db = db' at h
  rcases Tx.commit_cases (exec cfg call) db with hc | ⟨u, hc⟩
  · rw [← h, hc]
    exact .keep
  · rw [← h]
    exact exec_history hc

/-! ## Section 2: The invariant -/

/-- The names of the unrevoked secrets of a definition, in the order of the table. -/
def unrevokedNames (secrets : Table secretSchema) (environmentID : String) : List String :=
  (secrets.rows.filter (fun s => s.environmentID = environmentID && !s.revoked)).map (·.name)

/-- A revision that shows a definition as it stands, with the names of its secrets. -/
structure RevisionRow.Shows (secrets : Table secretSchema) (d : DefinitionRow)
    (r : RevisionRow) : Prop where
  scope : d.scopeKind = some r.scopeKind
  team : r.teamID = d.teamID
  taskType : r.taskTypeID = d.taskTypeID
  name : r.name = d.name
  values : r.values = d.values
  image : r.image = d.image
  deleted : r.deleted = d.deleted
  /-- The keys are the names of the unrevoked secrets, sorted. -/
  sorted : r.secretKeys.Pairwise (· ≤ ·)
  keys : r.secretKeys.Perm (unrevokedNames secrets d.environmentID)

/-- The history of one definition. -/
structure History (revisions : Table revisionSchema) (secrets : Table secretSchema)
    (d : DefinitionRow) : Prop where
  /-- The revisions are `1, …, n` with `n` the current one. -/
  numbered : ∀ n, (revisions.lookup (d.environmentID, n)).isSome ↔ 1 ≤ n ∧ n ≤ d.revision
  /-- The last revision shows the definition. -/
  last : ∀ r, revisions.lookup (d.environmentID, d.revision) = some r → r.Shows secrets d

/-- What definitions, revisions and secrets have to do with each other. -/
structure Mirrored (definitions : Table definitionSchema) (revisions : Table revisionSchema)
    (secrets : Table secretSchema) : Prop where
  history : ∀ id d, definitions.lookup id = some d → History revisions secrets d
  defined : ∀ k r, revisions.lookup k = some r → (definitions.lookup k.1).isSome
  owned : ∀ s ∈ secrets.rows, ∃ d, definitions.lookup s.environmentID = some d ∧
    s.teamID = d.teamID ∧ d.teamID.isSome

theorem environmentID_of_lookup {definitions : Table definitionSchema} {id : String}
    (h : definitions.lookup id = some d) : d.environmentID = id :=
  Table.key_of_lookup h

theorem revisionRow_shows (db : Db) (identity : GatewayIdentity) {scope : LaunchScope}
    (hscope : d.scopeKind = some scope)
    (hown : ∀ s ∈ db.secrets.rows, s.environmentID = d.environmentID →
      s.teamID = d.teamID ∧ d.teamID.isSome) :
    (revisionRow db identity d scope d.deleted).Shows db.secrets d := by
  have hfilter : db.secrets.rows.filter (fun s => s.teamID.isSome && s.teamID = d.teamID &&
        s.environmentID = d.environmentID && !s.revoked) =
      db.secrets.rows.filter (fun s => s.environmentID = d.environmentID && !s.revoked) := by
    apply List.filter_congr
    intro s hs
    by_cases henv : s.environmentID = d.environmentID
    · obtain ⟨hteam, hsome⟩ := hown s hs henv
      simp [henv, hteam, hsome]
    · simp [henv]
  have hkeys : (revisionRow db identity d scope d.deleted).secretKeys =
      (unrevokedNames db.secrets d.environmentID).insertionSort (· ≤ ·) := by
    unfold unrevokedNames
    rw [← hfilter]
    rfl
  refine ⟨hscope, rfl, rfl, rfl, rfl, rfl, rfl, ?_, ?_⟩
  · rw [hkeys]
    exact List.pairwise_insertionSort _ _
  · rw [hkeys]
    exact List.perm_insertionSort _ _

/-- A definition whose secrets stayed is still shown by the revision that showed it. -/
theorem RevisionRow.Shows.elsewhere {secrets secrets' : Table secretSchema} (h : r.Shows secrets d)
    (hsame : secrets'.rows.filter (fun s => s.environmentID = d.environmentID) =
      secrets.rows.filter (fun s => s.environmentID = d.environmentID)) :
    r.Shows secrets' d := by
  have hnames : unrevokedNames secrets' d.environmentID =
      unrevokedNames secrets d.environmentID := by
    have hsplit : ∀ t : Table secretSchema, unrevokedNames t d.environmentID =
        ((t.rows.filter (fun s => s.environmentID = d.environmentID)).filter
          (fun s => !s.revoked)).map (·.name) := by
      intro t
      rw [List.filter_filter]
      simp only [unrevokedNames, Bool.and_comm]
    rw [hsplit, hsplit, hsame]
  exact { h with keys := hnames ▸ h.keys }

theorem mirrored_empty : Mirrored Table.empty Table.empty Table.empty := by
  refine ⟨?_, ?_, ?_⟩
  · intro id d h
    cases h
  · intro k r h
    cases h
  · intro s hs
    cases hs

section Steps

variable {db : Db} {definitions : Table definitionSchema} {revisions : Table revisionSchema}
  {secrets : Table secretSchema} {identity : GatewayIdentity} {scope : LaunchScope}

/-- A revision row of one definition is not seen from another. -/
theorem lookup_insert_revision (h : db.revisions.insert r = .ok revisions)
    (id : String) (n : Nat) : revisions.lookup (id, n) =
      if r.environmentID = id ∧ r.revision = n then some r else db.revisions.lookup (id, n) := by
  rw [Table.lookup_insert h]
  simp only [revisionSchema, Prod.mk.injEq]

theorem History.append
    (hold : ∀ n, (db.revisions.lookup (d.environmentID, n)).isSome ↔ 1 ≤ n ∧ n < d.revision)
    (hpos : 1 ≤ d.revision) (hr : r.environmentID = d.environmentID) (hn : r.revision = d.revision)
    (hshows : r.Shows secrets d) (h : db.revisions.insert r = .ok revisions) :
    History revisions secrets d := by
  constructor
  · intro n
    rw [lookup_insert_revision h]
    by_cases hk : r.environmentID = d.environmentID ∧ r.revision = n
    · rw [if_pos hk]
      have hn' : n = d.revision := hk.2.symm.trans hn
      simp [hn', hpos]
    · rw [if_neg hk, hold n]
      have hne : n ≠ d.revision := fun hn' => hk ⟨hr, hn.trans hn'.symm⟩
      omega
  · intro r' hr'
    rw [lookup_insert_revision h, if_pos ⟨hr, hn⟩] at hr'
    rw [← Option.some.inj hr']
    exact hshows

theorem History.elsewhere (hh : History db.revisions db.secrets d)
    (hne : r.environmentID ≠ d.environmentID)
    (hsame : secrets.rows.filter (fun s => s.environmentID = d.environmentID) =
      db.secrets.rows.filter (fun s => s.environmentID = d.environmentID))
    (h : db.revisions.insert r = .ok revisions) : History revisions secrets d := by
  have hlook : ∀ n, revisions.lookup (d.environmentID, n) =
      db.revisions.lookup (d.environmentID, n) := by
    intro n
    rw [lookup_insert_revision h, if_neg (fun hk => hne hk.1)]
  constructor
  · intro n
    rw [hlook]
    exact hh.numbered n
  · intro r' hr'
    rw [hlook] at hr'
    exact (hh.last r' hr').elsewhere hsame

theorem Mirrored.create {item : DefinitionRow}
    (h : Mirrored db.definitions db.revisions db.secrets)
    (hins : db.definitions.insert item = .ok definitions) (hscope : item.scopeKind = some scope)
    (hfirst : item.revision = 1) (hlive : item.deleted = false)
    (happ : db.revisions.insert (revisionRow db identity item scope false) = .ok revisions) :
    Mirrored definitions revisions db.secrets := by
  have hnew : db.definitions.lookup item.environmentID = none :=
    (Table.insert_eq_ok_iff.mp hins).2.1
  have hlook : ∀ id, definitions.lookup id =
      if item.environmentID = id then some item else db.definitions.lookup id :=
    Table.lookup_insert hins
  rw [← hlive] at happ
  refine ⟨?_, ?_, ?_⟩
  · intro id d hd
    rw [hlook] at hd
    by_cases hid : item.environmentID = id
    · rw [if_pos hid] at hd
      obtain rfl := Option.some.inj hd
      -- nothing refers to an identifier that no definition had
      have hnone : ∀ n, (db.revisions.lookup (item.environmentID, n)).isSome = false := by
        intro n
        cases hl : db.revisions.lookup (item.environmentID, n) with
        | none => rfl
        | some r =>
          have hdef := h.defined _ r hl
          rw [hnew] at hdef
          cases hdef
      have hold : ∀ n, (db.revisions.lookup (item.environmentID, n)).isSome ↔
          1 ≤ n ∧ n < item.revision := by
        intro n
        rw [hnone n, hfirst]
        constructor
        · intro hn
          cases hn
        · intro hn
          omega
      apply History.append hold (by omega) rfl rfl _ happ
      · apply revisionRow_shows db identity hscope
        intro s hs henv
        obtain ⟨d₀, hd₀, -⟩ := h.owned s hs
        rw [henv, hnew] at hd₀
        cases hd₀
    · rw [if_neg hid] at hd
      apply (h.history id d hd).elsewhere _ rfl happ
      rw [environmentID_of_lookup hd]
      exact hid
  · intro k r hr
    obtain ⟨id, n⟩ := k
    rw [lookup_insert_revision happ] at hr
    rw [hlook]
    by_cases hid : item.environmentID = id
    · rw [if_pos hid]
      rfl
    · rw [if_neg (fun hk => hid hk.1)] at hr
      rw [if_neg hid]
      exact h.defined _ r hr
  · intro s hs
    obtain ⟨d, hd, hteam⟩ := h.owned s hs
    exact ⟨d, Table.lookup_insert_of_some hins hd, hteam⟩

theorem Mirrored.bump {f : DefinitionRow → DefinitionRow}
    {hf : ∀ r, (f r).environmentID = r.environmentID} {row : DefinitionRow}
    (h : Mirrored db.definitions db.revisions db.secrets)
    (hupd : db.definitions.update environmentID f hf = .ok definitions)
    (hrec : Recorded { db with secrets } identity environmentID f row revisions)
    (hnext : (f row).revision = row.revision + 1) (hteam : (f row).teamID = row.teamID)
    (hwithin : SecretsWithin db identity.teamID environmentID secrets) :
    Mirrored definitions revisions secrets := by
  have hrow : db.definitions.lookup environmentID = some row := hrec.found
  have hid : row.environmentID = environmentID := environmentID_of_lookup hrow
  have hlook : ∀ id, definitions.lookup id = if id = environmentID then
      (db.definitions.lookup id).map f else db.definitions.lookup id := Table.lookup_update hupd
  have hself : definitions.lookup environmentID = some (f row) := by
    rw [hlook, if_pos rfl, hrow]
    rfl
  obtain ⟨scope, hscope, happ⟩ := hrec.appended
  -- every secret is of the team of its definition, the touched one included
  have hown : ∀ s ∈ secrets.rows, ∃ d, definitions.lookup s.environmentID = some d ∧
      s.teamID = d.teamID ∧ d.teamID.isSome := by
    intro s hs
    rcases hwithin.owned s hs with ⟨hs_team, hs_env⟩ | ⟨s₀, hs₀, hs_team, hs_env⟩
    · refine ⟨f row, ?_, ?_, ?_⟩
      · rw [hs_env]
        exact hself
      · rw [hs_team, hteam, hrec.owned]
      · rw [hteam, hrec.owned]
        rfl
    · obtain ⟨d, hd, hd_team, hd_some⟩ := h.owned s₀ hs₀
      rw [hs_env] at hd
      rw [hs_team] at hd_team
      by_cases henv : s.environmentID = environmentID
      · rw [henv, hrow] at hd
        obtain rfl := Option.some.inj hd
        exact ⟨f row, henv ▸ hself, hteam ▸ hd_team, hteam ▸ hd_some⟩
      · refine ⟨d, ?_, hd_team, hd_some⟩
        rw [hlook, if_neg henv]
        exact hd
  refine ⟨?_, ?_, hown⟩
  · intro id d hd
    by_cases heq : id = environmentID
    · subst heq
      rw [hself] at hd
      obtain rfl := Option.some.inj hd
      have hold : ∀ n, (db.revisions.lookup ((f row).environmentID, n)).isSome ↔
          1 ≤ n ∧ n < (f row).revision := by
        intro n
        rw [hf row, (h.history _ row hrow).numbered n, hnext]
        omega
      apply History.append hold (by omega) rfl rfl _ happ
      · apply revisionRow_shows { db with secrets } identity hscope
        intro s hs henv
        obtain ⟨d, hd, hd_team⟩ := hown s hs
        rw [henv, hf row, hid, hself] at hd
        obtain rfl := Option.some.inj hd
        exact hd_team
    · rw [hlook, if_neg heq] at hd
      have hd_id : d.environmentID = id := environmentID_of_lookup hd
      apply (h.history id d hd).elsewhere _ _ happ
      · show (f row).environmentID ≠ d.environmentID
        rw [hf row, hid, hd_id]
        exact Ne.symm heq
      · rw [hd_id]
        exact hwithin.elsewhere id heq
  · intro k r hr
    obtain ⟨id, n⟩ := k
    rw [hlook]
    by_cases heq : id = environmentID
    · subst heq
      rw [if_pos rfl, hrow]
      rfl
    · have hne : (revisionRow { db with secrets } identity (f row) scope
          (f row).deleted).environmentID ≠ id := by
        show (f row).environmentID ≠ id
        rw [hf row, hid]
        exact Ne.symm heq
      rw [lookup_insert_revision happ, if_neg (fun hk => hne hk.1)] at hr
      rw [if_neg heq]
      exact h.defined _ r hr

theorem HistoryStep.mirrored (hstep : HistoryStep db definitions revisions secrets)
    (h : Mirrored db.definitions db.revisions db.secrets) :
    Mirrored definitions revisions secrets := by
  cases hstep with
  | keep => exact h
  | create hins hscope hfirst hlive happ => exact h.create hins hscope hfirst hlive happ
  | bump hupd hrec hnext hteam hwithin => exact h.bump hupd hrec hnext hteam hwithin

theorem mirrored_reachable (h : (registry cfg).Reachable db) :
    Mirrored db.definitions db.revisions db.secrets := by
  apply h.invariant
  · intro db hinit
    rw [show db = Db.empty from hinit]
    exact mirrored_empty
  · intro db call db' _ hdb hstep
    exact (historyStep_of_step hstep).mirrored hdb

/-! ## Section 3: What is left alone -/

/-- The definition a call is about. -/
def Op.definition : Op → Option String
  | .replaceLaunchParameters _ environmentID _ | .deleteLaunchParameters _ environmentID
  | .createSecret _ environmentID _ | .replaceSecret _ environmentID _ _
  | .revokeSecret _ environmentID _ => some environmentID
  | _ => none

theorem exec_live {u : Unit} (h : exec cfg call db = .ok (u, db'))
    (hdef : call.op.definition = some environmentID) :
    ∃ row, db.definitions.lookup environmentID = some row ∧ row.deleted = false := by
  obtain ⟨env, op⟩ := call
  cases op with
  | replaceLaunchParameters identity id req =>
    obtain rfl := Option.some.inj hdef
    obtain ⟨_, h⟩ := Tx.void_eq_ok.mp h
    obtain ⟨row, _, _, _, -, hrec, -⟩ := replaceLaunchParameters_ok h
    exact ⟨row, hrec.found, hrec.live⟩
  | deleteLaunchParameters identity id =>
    obtain rfl := Option.some.inj hdef
    obtain ⟨row, _, _, _, -, hrec, -⟩ := deleteLaunchParameters_ok h
    exact ⟨row, hrec.found, hrec.live⟩
  | createSecret identity id req =>
    obtain rfl := Option.some.inj hdef
    obtain ⟨_, h⟩ := Tx.void_eq_ok.mp h
    obtain ⟨_, _, _, row, _, _, _, -, -, -, -, -, -, -, -, -, hrec, -⟩ := createSecret_ok h
    exact ⟨row, hrec.found, hrec.live⟩
  | replaceSecret identity id secretID req =>
    obtain rfl := Option.some.inj hdef
    obtain ⟨_, h⟩ := Tx.void_eq_ok.mp h
    obtain ⟨_, _, _, _, row, _, _, _, -, -, -, -, -, -, -, hrec, -⟩ := replaceSecret_ok h
    exact ⟨row, hrec.found, hrec.live⟩
  | revokeSecret identity id secretID =>
    obtain rfl := Option.some.inj hdef
    obtain ⟨_, h⟩ := Tx.void_eq_ok.mp h
    obtain ⟨row, hrow, howns⟩ := (Option.any_eq_true _ _).mp (revokeSecret_ok h).1
    simp only [DefinitionRow.ownsSecrets, Bool.and_eq_true, Bool.not_eq_true'] at howns
    exact ⟨row, hrow, howns.2⟩
  | _ => cases hdef

/-- A revision that a step added is the last one of its definition. -/
theorem HistoryStep.last_of_new (hstep : HistoryStep db definitions revisions secrets)
    (hr : r ∈ revisions.rows) :
    r ∈ db.revisions.rows ∨
      ∃ d, definitions.lookup r.environmentID = some d ∧ d.revision = r.revision := by
  cases hstep with
  | keep => exact .inl hr
  | @create identity item scope _ _ hins _ _ _ happ =>
    rw [Table.rows_insert happ, List.mem_append, List.mem_singleton] at hr
    rcases hr with hr | rfl
    · exact .inl hr
    · refine .inr ⟨item, ?_, rfl⟩
      show definitions.lookup item.environmentID = some item
      rw [Table.lookup_insert hins]
      exact if_pos rfl
  | @bump _ environmentID f hf row _ _ _ hupd hrec _ _ _ =>
    obtain ⟨scope, -, happ⟩ := hrec.appended
    rw [Table.rows_insert happ, List.mem_append, List.mem_singleton] at hr
    rcases hr with hr | rfl
    · exact .inl hr
    · refine .inr ⟨f row, ?_, rfl⟩
      have hrow : db.definitions.lookup environmentID = some row := hrec.found
      have hid : (f row).environmentID = environmentID :=
        (hf row).trans (environmentID_of_lookup hrow)
      show definitions.lookup (f row).environmentID = some (f row)
      rw [hid, Table.lookup_update hupd, if_pos rfl, hrow]
      rfl

theorem HistoryStep.revisions_persist (hstep : HistoryStep db definitions revisions secrets) :
    db.revisions.Persists (· = ·) revisions := by
  cases hstep with
  | keep => exact Table.Persists.refl (fun _ => rfl) _
  | create _ _ _ _ happ => exact Table.persists_insert (fun _ => rfl) happ
  | bump _ hrec _ _ _ =>
    obtain ⟨scope, -, happ⟩ := hrec.appended
    exact Table.persists_insert (fun _ => rfl) happ

theorem HistoryStep.deleted_stays (hstep : HistoryStep db definitions revisions secrets)
    (hd : d ∈ db.definitions.rows) (hdel : d.deleted = true) : d ∈ definitions.rows := by
  cases hstep with
  | keep => exact hd
  | create hins _ _ _ _ =>
    rw [Table.rows_insert hins]
    exact List.mem_append_left _ hd
  | @bump _ environmentID f hf row _ _ _ hupd hrec _ _ _ =>
    refine (Table.mem_update hupd).mpr ⟨d, hd, ?_⟩
    by_cases hid : d.environmentID = environmentID
    · -- the updated definition was live
      have hlook : db.definitions.lookup environmentID = some d :=
        Table.lookup_eq_some_iff.mpr ⟨hd, hid⟩
      have hrow : db.definitions.lookup environmentID = some row := hrec.found
      rw [Option.some.inj (hlook.symm.trans hrow), hrec.live] at hdel
      cases hdel
    · exact (if_neg hid).symm

end Steps

/-- Every revision was the last one once, and showed its definition then. -/
theorem revision_origin (h : (registry cfg).Reachable db) :
    ∀ r ∈ db.revisions.rows, ∃ db₀ calls d₀, (registry cfg).Reachable db₀ ∧
      (registry cfg).Run db₀ calls db ∧ db₀.definitions.lookup r.environmentID = some d₀ ∧
      d₀.revision = r.revision ∧ r.Shows db₀.secrets d₀ := by
  induction h with
  | init hinit =>
    rw [show _ = Db.empty from hinit]
    intro r hr
    cases hr
  | @step db db' call hdb hstep ih =>
    intro r hr
    rcases (historyStep_of_step hstep).last_of_new hr with hold | ⟨d, hd, hrev⟩
    · obtain ⟨db₀, calls, d₀, hdb₀, hrun, hd₀⟩ := ih r hold
      exact ⟨db₀, calls ++ [call], d₀, hdb₀, hrun.snoc hstep, hd₀⟩
    · have hdb' := hdb.step call hstep
      refine ⟨db', [], d, hdb', .nil _, hd, hrev, ?_⟩
      apply ((mirrored_reachable hdb').history _ d hd).last r
      rw [environmentID_of_lookup hd, hrev]
      exact Table.lookup_key hr

/-! ## Section 4: The history of every definition -/

/-- In every state of every run the revisions of a definition are `1, …, n` with `n` the
    current one, and the last one shows the definition with the sorted names of its unrevoked
    secrets; each earlier one showed it when it was the last, and no call changes it.  A call
    on a deleted definition is refused and leaves it as it is, and a refused call adds no
    revision. -/
theorem revision_history {cfg : Config} {db : Db} (h : (registry cfg).Reachable db) :
    (∀ d ∈ db.definitions.rows, History db.revisions db.secrets d) ∧
    (∀ r ∈ db.revisions.rows, ∃ db₀ calls d₀, (registry cfg).Reachable db₀ ∧
      (registry cfg).Run db₀ calls db ∧ db₀.definitions.lookup r.environmentID = some d₀ ∧
      d₀.revision = r.revision ∧ r.Shows db₀.secrets d₀) ∧
    ∀ call db', (registry cfg).step db call db' →
      db.revisions.Persists (· = ·) db'.revisions ∧
      (∀ d ∈ db.definitions.rows, d.deleted = true → d ∈ db'.definitions.rows ∧
        (call.op.definition = some d.environmentID →
          ∃ e, (exec cfg call).errorOf db = some e)) ∧
      (∀ e, (exec cfg call).errorOf db = some e → db'.revisions = db.revisions) := by
  refine ⟨?_, revision_origin h, ?_⟩
  · intro d hd
    exact (mirrored_reachable h).history d.environmentID d (Table.lookup_key hd)
  · intro call db' hstep
    have hhistory := historyStep_of_step hstep
    refine ⟨hhistory.revisions_persist, ?_, ?_⟩
    · intro d hd hdel
      refine ⟨hhistory.deleted_stays hd hdel, ?_⟩
      intro hdef
      cases hres : exec cfg call db with
      | error e => exact ⟨e, Tx.errorOf_eq_some.mpr hres⟩
      | ok result =>
        obtain ⟨u, db₁⟩ := result
        obtain ⟨row, hrow, hlive⟩ := exec_live hres hdef
        have hlook : db.definitions.lookup d.environmentID = some d := Table.lookup_key hd
        rw [Option.some.inj (hrow.symm.trans hlook), hdel] at hlive
        cases hlive
    · intro e he
      have hcommit : (exec cfg call).commit db = db' := hstep
      rw [← hcommit, Tx.commit_of_error (Tx.errorOf_eq_some.mp he)]

/-- Launch parameters with one secret, replaced, the secret revoked, and deleted. -/
def sampleRevisions : List Call := sampleSetup ++ [
  ⟨sampleEnv "params" 5, .createLaunchParameters ⟨"team", "operator", "request"⟩
    ⟨.team, none, "params", .empty, none⟩⟩,
  ⟨sampleEnv "secret" 6, .createSecret ⟨"team", "operator", "request"⟩ "params"
    ⟨"KEY", "value"⟩⟩,
  ⟨sampleEnv "replace" 7, .replaceLaunchParameters ⟨"team", "operator", "request"⟩ "params"
    ⟨.team, none, "renamed", .empty, none⟩⟩,
  ⟨sampleEnv "revoke" 8, .revokeSecret ⟨"team", "operator", "request"⟩ "params" "secret"⟩,
  ⟨sampleEnv "delete" 9, .deleteLaunchParameters ⟨"team", "operator", "request"⟩ "params"⟩]

theorem revision_history_sample :
    (serve sampleConfig .empty sampleRevisions).revisions.rows.map
        (fun r => (r.revision, r.name, r.secretKeys, r.deleted)) =
      [(1, "params", [], false), (2, "params", ["KEY"], false), (3, "renamed", ["KEY"], false),
        (4, "renamed", [], false), (5, "renamed", [], true)] ∧
    ∀ d ∈ (serve sampleConfig .empty sampleRevisions).definitions.rows,
      History (serve sampleConfig .empty sampleRevisions).revisions
        (serve sampleConfig .empty sampleRevisions).secrets d := by
  constructor
  · decide +kernel
  · exact (revision_history (reachable_serve sampleConfig sampleRevisions)).1

end FlowAI.Registry
