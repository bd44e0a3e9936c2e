import FlowAI.Registry.Isolation

/-! # Archival and Ingestion

  An archival and the ingestions of its team race on the team row.  Once a team is
  archived no task of it is added, and its time of archival stays.  A submission
  that was ingested before is answered with the first task, whatever the retry
  says and however the two interleave.
-/

namespace FlowAI.Registry

/-! ## Section 1: Submissions -/

variable {db : Db} {t : TaskRow} {n : Nat} {hash : String → Int}

/-- The unique index of `tasks`. -/
theorem eq_of_submission_eq {t' : TaskRow} {id id' : String}
    (ht : db.tasks.lookup id = some t) (ht' : db.tasks.lookup id' = some t')
    (h : t.submission = t'.submission) : t = t' := by
  have htuple : [t.teamID, t.sourceSystemID, t.sourceID] =
      [t'.teamID, t'.sourceSystemID, t'.sourceID] := by
    simp only [TaskRow.submission, Prod.mk.injEq] at h
    rw [h.1, h.2.1, h.2.2]
  exact Table.eq_of_tuple_eq (List.mem_singleton.mpr rfl) (Table.mem_of_lookup ht)
    (Table.mem_of_lookup ht') rfl (congrArg some htuple)

theorem TaskRow.Follows.submission {t' : TaskRow} (h : t.Follows t') :
    t'.submission = t.submission :=
  (congrArg TaskRow.submission h.ingestion :)

/-- The answer to an ingestion, compared with a task that is stored: whoever repeats its
    submission gets what was ingested the first time. -/
def IngestCommit.Repeats (c : IngestCommit) (db : Db) : Prop :=
  ∀ id t, db.tasks.lookup id = some t → t.submission = c.call.submission →
    c.result.2 = false ∧ ∃ t', t'.ingestion = t.ingestion ∧ scanTaskRow t' = .ok c.result.1

/-- An ingestion that commits after another has stored its submission inserts nothing. -/
theorem Session.ingestions_repeat {s : Session} {db' base mine : Db} (hs : s.Sound db)
    (hc : s.copy = some (base, mine)) (hp : Db.publish base mine db = .ok db') :
    ∀ c ∈ s.ingestions, c.Repeats db := by
  intro c hmem
  unfold Session.ingestions at hmem
  split at hmem
  · rename_i call result base' mine'
    obtain rfl := List.mem_singleton.mp hmem
    cases hc
    obtain ⟨-, hsince, hwrote⟩ := hs
    have htasks := (Db.publish_ok hp).2.2
    obtain ⟨hkept, -⟩ := IngestCall.tasks_of_publish hwrote htasks
    intro id t ht hsub
    obtain ⟨row, hrowSub, hscan, ⟨hbase, hflag, -⟩ | ⟨hins, -, -⟩⟩ := hwrote.answer
    · -- the row the ingestion read has become `t`
      obtain ⟨row', hrow', hfollows⟩ := hsince _ _ hbase
      have heq : row' = t := by
        refine eq_of_submission_eq hrow' ht ?_
        rw [hfollows.submission, hrowSub, hsub]
      subst heq
      exact ⟨hflag, row, hfollows.ingestion.symm, hscan⟩
    · -- an inserted row would stand beside `t` under the same submission
      have hbase : base.tasks.lookup row.taskID = none := (Table.insert_eq_ok_iff.mp hins).2.1
      have hrow : mine.tasks.lookup row.taskID = some row := by
        rw [Table.lookup_insert hins]
        exact if_pos rfl
      obtain ⟨hfree, hnew⟩ := Table.lookup_publish_of_insert htasks hrow hbase
      have heq : row = t := eq_of_submission_eq hnew (hkept id t ht) (hrowSub.trans hsub.symm)
      have hid : row.taskID = id := heq ▸ Table.key_of_lookup ht
      rw [hid, ht] at hfree
      cases hfree
  · cases hmem

/-! ## Section 2: Runs -/

/-- What a later state of a run keeps of an earlier one. -/
structure World.Onward {n : Nat} (w w' : World n) : Prop where
  archived : w.db.teams.Persists TeamRow.KeepsArchive w'.db.teams
  closed : ∀ teamID team, w.db.teams.lookup teamID = some team → team.archivedAt ≠ none →
    ∀ id t, w'.db.tasks.lookup id = some t → t.teamID = teamID → (w.db.tasks.lookup id).isSome
  follows : w.db.tasks.Persists TaskRow.Follows w'.db.tasks
  answers : ∃ later, w'.ingestions = w.ingestions ++ later ∧ ∀ c ∈ later, c.Repeats w.db

theorem World.Onward.refl (w : World n) : w.Onward w where
  archived := .refl TeamRow.KeepsArchive.refl _
  closed := by
    intro _ _ _ _ id t ht _
    rw [ht]
    rfl
  follows := .refl TaskRow.Follows.refl _
  answers := ⟨[], (List.append_nil _).symm, by simp⟩

theorem IngestCommit.Repeats.earlier {c : IngestCommit} {db' : Db} (h : c.Repeats db')
    (hfollows : db.tasks.Persists TaskRow.Follows db'.tasks) : c.Repeats db := by
  intro id t ht hsub
  obtain ⟨t', ht', htt'⟩ := hfollows id t ht
  obtain ⟨hflag, row, hrow, hscan⟩ := h id t' ht' (htt'.submission.trans hsub)
  exact ⟨hflag, row, hrow.trans htt'.ingestion, hscan⟩

theorem World.Onward.trans {a b c : World n} (h₁ : a.Onward b) (h₂ : b.Onward c) :
    a.Onward c where
  archived := h₁.archived.trans (fun _ _ _ hab hbc x hx => hbc x (hab x hx)) h₂.archived
  closed := by
    intro teamID team hteam harch id t ht htt
    obtain ⟨team', hteam', hkeeps⟩ := h₁.archived teamID team hteam
    have harch' : team'.archivedAt ≠ none := by
      obtain ⟨x, hx⟩ := Option.ne_none_iff_exists'.mp harch
      rw [hkeeps x hx]
      exact Option.some_ne_none x
    obtain ⟨tb,
      htb⟩ := Option.isSome_iff_exists.mp (h₂.closed teamID team' hteam' harch' id t ht htt)
    obtain ⟨t', ht', hfollows⟩ := h₂.follows id tb htb
    rw [ht] at ht'
    obtain rfl := Option.some.inj ht'
    exact h₁.closed teamID team hteam harch id tb htb (hfollows.teamID.symm.trans htt)
  follows := h₁.follows.trans (fun _ _ _ => TaskRow.Follows.trans) h₂.follows
  answers := by
    obtain ⟨first, hfirst, hf⟩ := h₁.answers
    obtain ⟨second, hsecond, hs⟩ := h₂.answers
    refine ⟨first ++ second, by rw [hsecond, hfirst, List.append_assoc], ?_⟩
    intro x hx
    rcases List.mem_append.mp hx with hx | hx
    · exact hf x hx
    · exact (hs x hx).earlier h₁.follows

/-- Step lemma. -/
theorem World.Sound.onward {w w' : World n} (hw : w.Sound hash)
    (hstep : World.Step hash w w') : w.Onward w' := by
  cases hstep with
  | quiet i s _ _ => exact { World.Onward.refl w with }
  | @commit i base mine db hcopy hpub =>
    have hcommits : (w.sessions i).Commits hash w.db db :=
      Session.commits (hw.sessions i) hcopy hpub
    refine ⟨hcommits.archived, ?_, hcommits.follows, _, rfl,
      Session.ingestions_repeat (hw.sessions i) hcopy hpub⟩
    intro teamID team hteam harch id t ht htt
    cases hold : w.db.tasks.lookup id with
    | some _ => rfl
    | none =>
      -- a task is added only while its team is active
      obtain ⟨-, team', hteam', hactive⟩ := hcommits.added id t ht hold
      rw [htt, hteam] at hteam'
      exact absurd (Option.some.inj hteam' ▸ hactive) harch

/-- Run lemma. -/
theorem World.run_onward {cfg : Config} {db₀ : Db} {w w' : World n}
    {ls : List (World.Label n)} (hr : (interleaving cfg hash n db₀).Reachable w)
    (hrun : (interleaving cfg hash n db₀).Run w ls w') : w.Onward w' :=
  hrun.relate World.Onward.refl (fun _ _ _ => World.Onward.trans)
    (fun _ _ _ hr hstep => (World.reachable_sound hr).onward (World.next_step hstep)) hr

/-! ## Section 3: The answer to a repeated submission -/

theorem findSubmission_of_lookup {id : String} (ht : db.tasks.lookup id = some t) :
    findSubmission db t.teamID t.sourceSystemID t.sourceID = some t := by
  cases hf : findSubmission db t.teamID t.sourceSystemID t.sourceID with
  | none =>
    have hnone := List.find?_eq_none.mp hf t (Table.mem_of_lookup ht)
    simp at hnone
  | some t' =>
    obtain ⟨ht', hsub⟩ := findSubmission_some hf
    rw [eq_of_submission_eq ht' ht hsub]

/-- A valid submission of a stored task is accepted and changes nothing. -/
theorem ingestTask_repeated {cfg : Config} {env : CallEnv} {req : TaskIngestionRequest}
    {ident : ListenerIdentity} {id : String} {taskType : TaskTypeRow}
    {payload : Json} {entry : TaskListEntry} (ht : db.tasks.lookup id = some t)
    (hsub : t.submission = (ident.teamID, ident.sourceSystemID, req.sourceID))
    (hvalid : Submits cfg env req ident db taskType payload) (hscan : scanTaskRow t = .ok entry) :
    ingestTask cfg env req ident db = .ok ((entry, false), db) := by
  have hfind := findSubmission_of_lookup ht
  simp only [TaskRow.submission, Prod.mk.injEq] at hsub
  rw [hsub.1, hsub.2.1, hsub.2.2] at hfind
  exact ingestTask_eq_ok.mpr ⟨taskType, payload, hvalid, .inl ⟨t, hfind, hscan, rfl, rfl⟩⟩

/-- From any state of a run to any later one: an archived team keeps its time and gets no
    task; no submission is stored twice; a stored task keeps what was ingested; and
    every ingestion of its submission that commits, or that is valid where it runs, is
    answered with it. -/
theorem archive_closes_and_ingestion_deduplicates {cfg : Config} {hash : String → Int} {n : Nat}
    {db₀ : Db} {w w' : World n} {ls : List (World.Label n)}
    (hr : (interleaving cfg hash n db₀).Reachable w)
    (hrun : (interleaving cfg hash n db₀).Run w ls w') :
    (∀ teamID team a, w.db.teams.lookup teamID = some team → team.archivedAt = some a →
      (∃ team', w'.db.teams.lookup teamID = some team' ∧ team'.archivedAt = some a) ∧
        ∀ id t, w'.db.tasks.lookup id = some t → t.teamID = teamID →
          (w.db.tasks.lookup id).isSome) ∧
    (∀ t ∈ w'.db.tasks.rows, ∀ t' ∈ w'.db.tasks.rows, t.submission = t'.submission → t = t') ∧
    (∀ id t, w.db.tasks.lookup id = some t →
      ∃ t', w'.db.tasks.lookup id = some t' ∧ t'.ingestion = t.ingestion ∧
        ∀ env req ident taskType payload entry,
          t.submission = (ident.teamID, ident.sourceSystemID, req.sourceID) →
          Submits cfg env req ident w'.db taskType payload → scanTaskRow t' = .ok entry →
          ingestTask cfg env req ident w'.db = .ok ((entry, false), w'.db)) ∧
    ∃ later, w'.ingestions = w.ingestions ++ later ∧ ∀ c ∈ later, c.Repeats w.db := by
  have honward := World.run_onward hr hrun
  refine ⟨?_, ?_, ?_, honward.answers⟩
  · intro teamID team a hteam harch
    constructor
    · obtain ⟨team', hteam', hkeeps⟩ := honward.archived teamID team hteam
      exact ⟨team', hteam', hkeeps a harch⟩
    · refine honward.closed teamID team hteam ?_
      rw [harch]
      exact Option.some_ne_none a
  · intro t ht t' ht' hsub
    exact eq_of_submission_eq (Table.lookup_key ht) (Table.lookup_key ht') hsub
  · intro id t ht
    obtain ⟨t', ht', hfollows⟩ := honward.follows id t ht
    refine ⟨t', ht', hfollows.ingestion, ?_⟩
    intro env req ident taskType payload entry hsub hvalid hscan
    exact ingestTask_repeated ht' (hfollows.submission.trans hsub) hvalid hscan

/-! ### A run

  A task is ingested; its submission is repeated with another payload while an archival
  waits for the team; after the archival a new submission is refused. -/

def sampleIngestion (name sourceID : String) (payload : Json) : Session :=
  .ingest ⟨sampleEnv name 9, ⟨"team", "source", sourceID, "type", .text payload, none, none⟩,
    ⟨"team", "source", "listener", "request"⟩⟩ .start

def sampleFirst : Fin 2 := ⟨0, Nat.two_pos⟩

def sampleSecond : Fin 2 := ⟨1, Nat.one_lt_two⟩

def sampleFirstLabels : List (World.Label 2) :=
  .begin sampleFirst (sampleIngestion "task" "1" .null) :: List.replicate 3 (.advance sampleFirst)

def sampleArchiveLabels : List (World.Label 2) :=
  [.begin sampleFirst (sampleIngestion "again" "1" (.bool true)),
    .begin sampleSecond
      (.changeTeam ⟨sampleEnv "audit" 10, "team", .archive, ⟨"admin", "request"⟩⟩ .start)] ++
    List.replicate 3 (.advance sampleFirst) ++ List.replicate 3 (.advance sampleSecond) ++
    .begin sampleFirst (sampleIngestion "late" "2" .null) :: List.replicate 2 (.advance sampleFirst)

theorem archive_closes_and_ingestion_deduplicates_sample :
    ∃ w w', (World.initial 2 (serve sampleConfig .empty sampleSetup)).run sampleConfig
        (fun _ => 0) sampleFirstLabels = some w ∧
      w.run sampleConfig (fun _ => 0) sampleArchiveLabels = some w' ∧
      (w'.db.tasks.rows.map (fun t => (t.taskID, t.payload)) = [("task", .null)] ∧
        w'.db.teams.rows.map TeamRow.archivedAt = [some 10000000] ∧
        w'.ingestions.map (fun c => c.result.2) = [true, false]) ∧
      ∃ later, w'.ingestions = w.ingestions ++ later ∧ ∀ c ∈ later, c.Repeats w.db := by
  have hsample : ∃ w, (World.initial 2 (serve sampleConfig .empty sampleSetup)).run sampleConfig
        (fun _ => 0) sampleFirstLabels = some w ∧
      ∃ w', w.run sampleConfig (fun _ => 0) sampleArchiveLabels = some w' ∧
      (w'.db.tasks.rows.map (fun t => (t.taskID, t.payload)) = [("task", .null)] ∧
        w'.db.teams.rows.map TeamRow.archivedAt = [some 10000000] ∧
        w'.ingestions.map (fun c => c.result.2) = [true, false]) := by
    decide +kernel
  obtain ⟨w, hfirst, w', hsecond, hfacts⟩ := hsample
  have hreach : (interleaving sampleConfig (fun _ => 0) 2
      (serve sampleConfig .empty sampleSetup)).Reachable w :=
    (World.run_iff hfirst).reachable (.init rfl)
  exact ⟨w, w', hfirst, hsecond, hfacts,
    (archive_closes_and_ingestion_deduplicates hreach (World.run_iff hsecond)).2.2.2⟩

end FlowAI.Registry
