import FlowAI.Framework.Keyset
import FlowAI.Registry.LogRetry

/-! # Reading Task Logs

  `ListTaskLogs` of `store/task_logs.go` and the handler `list` of `httpapi/task_logs.go`.
  Offsets count the chunks of a task, and the handler issues a cursor whenever a page is full.
-/

namespace FlowAI.Registry

/-! ## Section 1: Offsets -/

/-- The chunks of a task, in order of acceptance. -/
def logChunksOf (db : Db) (taskID : String) : List LogChunkRow :=
  db.logChunks.rows.filter (fun r => r.taskID = taskID)

/-- The log a call leaves. -/
inductive LogStep (db : Db) : Table logChunkSchema → Prop where
  | keep : LogStep db db.logChunks
  | append {taskID req identity task logChunks}
      (found : db.tasks.lookup taskID = some task)
      (inserted : db.logChunks.insert
        (logChunkRow req identity task (nextLogOffset db taskID)) = .ok logChunks) :
      LogStep db logChunks

theorem Effect.logStep {cfg : Config} {call : Call} {db db' : Db} (h : Effect cfg call db db') :
    LogStep db db'.logChunks := by
  cases h with
  | appendTaskLog _ hfound hins => exact .append hfound hins
  | appendTaskControlEvent _ _ _ hfresh | appendTaskEvent _ _ _ _ hfresh =>
    obtain ⟨_, _, _, -, -, -, rfl⟩ := hfresh.effect
    exact .keep
  | claimTask _ _ hfresh =>
    obtain ⟨_, _, _, _, _, _, _, -, -, -, -, -, rfl⟩ := hfresh.effect
    exact .keep
  | _ => exact .keep

/-- Offsets count the chunks of a task, and a chunk has the team of its task. -/
structure LogsCounted (db : Db) : Prop where
  offsets : ∀ taskID, (logChunksOf db taskID).map LogChunkRow.logOffset =
    List.range' 1 (logChunksOf db taskID).length
  teams : ∀ c ∈ db.logChunks.rows, InTeam db c.taskID c.teamID

theorem foldl_max_range' (n : Nat) : (List.range' 1 n).foldl max 0 = n := by
  induction n with
  | zero => rfl
  | succ n ih =>
    rw [List.range'_1_concat, List.foldl_append, ih]
    simp only [List.foldl_cons, List.foldl_nil]
    omega

theorem LogsCounted.nextLogOffset {db : Db} (h : LogsCounted db) (taskID : String) :
    nextLogOffset db taskID = (logChunksOf db taskID).length + 1 := by
  show ((logChunksOf db taskID).map LogChunkRow.logOffset).foldl max 0 + 1 = _
  rw [h.offsets, foldl_max_range']

/-- Step lemma. -/
theorem LogsCounted.step {db db' : Db} (h : LogsCounted db) (hstep : LogStep db db'.logChunks)
    (hlater : db.Evolves db') : LogsCounted db' := by
  have hteams : ∀ c ∈ db.logChunks.rows, InTeam db' c.taskID c.teamID := fun c hc =>
    (h.teams c hc).later hlater
  generalize hchunks : db'.logChunks = logChunks at hstep
  cases hstep with
  | keep =>
    refine ⟨?_, by rwa [hchunks]⟩
    unfold logChunksOf
    rw [hchunks]
    exact h.offsets
  | @append taskID req identity task _ hfound hins =>
    obtain rfl : task.taskID = taskID := Table.key_of_lookup hfound
    have hteam : InTeam db task.taskID task.teamID := ⟨task, hfound, rfl⟩
    refine ⟨?_, by
      rw [hchunks]
      exact Table.forall_insert hteams hins (hteam.later hlater)⟩
    intro other
    unfold logChunksOf
    rw [hchunks]
    by_cases hsame : task.taskID = other
    · subst hsame
      have hcounted := h.offsets task.taskID
      unfold logChunksOf at hcounted
      rw [Table.rows_insert hins, List.filter_append]
      simp only [logChunkRow, decide_true, List.filter_cons_of_pos, List.filter_nil,
        List.map_append, hcounted, List.map_cons, List.map_nil, List.length_append,
        List.length_singleton, h.nextLogOffset, logChunksOf]
      rw [List.range'_1_concat, Nat.add_comm 1]
    · rw [Table.filter_rows_insert hins (decide_eq_false hsame)]
      exact h.offsets other

/-- Run lemma. -/
theorem reachable_logsCounted {cfg : Config} {db : Db} (h : (registry cfg).Reachable db) :
    LogsCounted db := by
  refine h.invariant ?_ ?_
  · intro db hinit
    cases hinit
    exact ⟨fun _ => rfl, fun _ hc => by cases hc⟩
  · intro db call db' _ ih hstep
    exact ih.step (step_effect hstep).logStep (step_effect hstep).evolves

/-! ## Section 2: The listing -/

/-- `uiError`. -/
structure UIError where
  status : Nat
  code : String
  message : String
  deriving DecidableEq

def uiNotFound : UIError := ⟨404, "not_found", "resource not found"⟩

def invalidCursor : UIError := ⟨400, "invalid_cursor", "cursor is invalid"⟩

/-- An integer with an optional sign. -/
def parseSigned : List Char → Option Int
  | '+' :: '-' :: _ => none
  | '+' :: digits => JsonText.parseInteger digits
  | text => JsonText.parseInteger text

/-- `strconv.ParseInt` for 64 bits, base ten. -/
def parseInt (text : List Char) : Option Int :=
  (parseSigned text).filter (fun i => -2 ^ 63 ≤ i ∧ i < 2 ^ 63)

def uiLimit (raw : String) : Except UIError Nat :=
  if raw = "" then .ok 10 else
  match parseInt raw.toList with
  | some 10 => .ok 10
  | some 25 => .ok 25
  | some 50 => .ok 50
  | some 100 => .ok 100
  | _ => .error ⟨400, "invalid_limit", "limit must be 10, 25, 50, or 100"⟩

theorem uiLimit_pos {raw : String} {limit : Nat} (h : uiLimit raw = .ok limit) : 0 < limit := by
  unfold uiLimit at h
  split at h
  · cases h
    decide
  · split at h <;> cases h <;> decide

def parseTaskLogCursor (raw : String) : Option Int :=
  if raw = "" then some 0 else do
    let decoded ← base64UrlDecode raw.toList
    let text := utf8Decode decoded
    guard (['l', 'o', 'g', ':'].isPrefixOf text)
    let offset ← parseInt (text.drop 4)
    guard (0 ≤ offset)
    return offset

/-- `fmt.Sprintf("log:%d", offset)`. -/
def taskLogText (offset : Int) : List Char := ['l', 'o', 'g', ':'] ++ JsonText.intLiteral offset

/-- The cursor of a page that ends at the chunk. -/
def taskLogCursor (chunk : TaskLogChunk) : String :=
  String.ofList (base64UrlEncode (utf8Encode (taskLogText chunk.logOffset)))

/-- The chunks that belong to a team and a task, as a listing returns them. -/
def teamLogChunks (db : Db) (teamID taskID : String) : List TaskLogChunk :=
  (db.logChunks.rows.filter (fun r => r.teamID = teamID && r.taskID = taskID)).map LogChunkRow.read

def logKey (chunk : TaskLogChunk) : Int := chunk.logOffset

def listTaskLogs (db : Db) (teamID taskID : String) (afterOffset : Int) (limit : Nat) :
    Except StoreError (List TaskLogChunk) :=
  if db.tasks.rows.any (fun t => t.teamID = teamID && t.taskID = taskID) then
    .ok (page logKey limit afterOffset (teamLogChunks db teamID taskID))
  else .error .taskUnknown

structure TaskLogPage where
  items : List TaskLogChunk
  nextCursor : Option String
  deriving DecidableEq

/-- The handler `list`, for a team and a task of the path. -/
def listLogs (db : Db) (teamID taskID rawLimit cursor : String) : Except UIError TaskLogPage := do
  let limit ← uiLimit rawLimit
  match parseTaskLogCursor cursor with
  | none => .error invalidCursor
  | some after =>
    match listTaskLogs db teamID taskID after limit with
    | .error _ => .error uiNotFound
    | .ok items => .ok ⟨items, (nextIfFull limit items).map taskLogCursor⟩

/-! ## Section 3: Following the cursors -/

theorem parseInt_intLiteral {i : Int} (h : -2 ^ 63 ≤ i ∧ i < 2 ^ 63) :
    parseInt (JsonText.intLiteral i) = some i := by
  have hplus : ∀ rest, JsonText.intLiteral i ≠ '+' :: rest := by
    intro rest heq
    unfold JsonText.intLiteral at heq
    split at heq
    · cases heq
    · have hmem : '+' ∈ Nat.toDigits 10 i.natAbs := by
        rw [heq]
        exact List.mem_cons_self
      exact absurd (JsonText.toDigits_isDigit hmem) (by decide)
  have hsigned : parseSigned (JsonText.intLiteral i) = some i := by
    unfold parseSigned
    split
    · rename_i heq
      exact absurd heq (hplus _)
    · rename_i heq
      exact absurd heq (hplus _)
    · exact JsonText.parseInteger_intLiteral i
  rw [parseInt, hsigned, Option.filter_some, if_pos (decide_eq_true h)]

theorem parseTaskLogCursor_taskLogCursor {chunk : TaskLogChunk} (h : chunk.logOffset < 2 ^ 63) :
    parseTaskLogCursor (taskLogCursor chunk) = some chunk.logOffset := by
  have hrange : -2 ^ 63 ≤ (chunk.logOffset : Int) ∧ (chunk.logOffset : Int) < 2 ^ 63 := by omega
  have hdecoded : base64UrlDecode (taskLogCursor chunk).toList =
      some (utf8Encode (taskLogText chunk.logOffset)) := by
    rw [taskLogCursor, String.toList_ofList, base64UrlDecode_base64UrlEncode]
  have hne : taskLogCursor chunk ≠ "" := by
    intro hempty
    rw [hempty] at hdecoded
    -- nothing decodes to nothing, and the text of a cursor is longer
    have htext := congrArg (Option.map utf8Decode) hdecoded
    rw [Option.map_some, utf8Decode_utf8Encode] at htext
    cases htext
  unfold parseTaskLogCursor
  rw [if_neg hne, hdecoded]
  simp only [Option.bind_eq_bind, Option.bind_some, utf8Decode_utf8Encode]
  have hdigits : (taskLogText chunk.logOffset).drop 4 = JsonText.intLiteral chunk.logOffset := rfl
  rw [hdigits, parseInt_intLiteral hrange]
  simp [guard, taskLogText]

/-- A page of the log as a step of a reader. -/
def logReader (db : Db) (teamID taskID rawLimit cursor : String) :
    Option (List TaskLogChunk × Option String) :=
  (listLogs db teamID taskID rawLimit cursor).toOption.map (fun p => (p.items, p.nextCursor))

section Reading

variable {cfg : Config} {db db' : Db} {teamID taskID rawLimit : String} {limit : Nat}

theorem teamLogChunks_eq (h : LogsCounted db) (hteam : InTeam db taskID teamID) :
    teamLogChunks db teamID taskID = (logChunksOf db taskID).map LogChunkRow.read := by
  unfold teamLogChunks logChunksOf
  congr 1
  apply List.filter_congr
  intro r hr
  by_cases htask : r.taskID = taskID
  · subst htask
    obtain ⟨t, ht, hteamID⟩ := h.teams r hr
    obtain ⟨t', ht', hteamID'⟩ := hteam
    obtain rfl := Option.some.inj (ht.symm.trans ht')
    simp [← hteamID, hteamID']
  · simp [htask]

theorem LogsCounted.increasing (h : LogsCounted db) (taskID : String) :
    ((logChunksOf db taskID).map LogChunkRow.read).Pairwise (fun a b => logKey a < logKey b) := by
  have hoffsets : ((logChunksOf db taskID).map LogChunkRow.logOffset).Pairwise (· < ·) := by
    rw [h.offsets]
    exact List.pairwise_lt_range'
  rw [List.pairwise_map] at hoffsets ⊢
  apply hoffsets.imp
  intro a b hab
  show (a.logOffset : Int) < b.logOffset
  omega

theorem listLogs_eq (hteam : InTeam db taskID teamID) (hlimit : uiLimit rawLimit = .ok limit)
    {cursor : String} {after : Int} (hcursor : parseTaskLogCursor cursor = some after) :
    listLogs db teamID taskID rawLimit cursor =
      .ok ⟨page logKey limit after (teamLogChunks db teamID taskID), (nextIfFull limit
        (page logKey limit after (teamLogChunks db teamID taskID))).map taskLogCursor⟩ := by
  have hexists : db.tasks.rows.any (fun t => t.teamID = teamID && t.taskID = taskID) = true := by
    obtain ⟨task, htask, hteamID⟩ := hteam
    have hkey : task.taskID = taskID := Table.key_of_lookup htask
    rw [List.any_eq_true]
    exact ⟨task, Table.mem_of_lookup htask, by simp [hteamID, hkey]⟩
  simp [listLogs, hlimit, hcursor, listTaskLogs, hexists, bind, Except.bind]

/-- The cursor of a listed chunk is read back: the column of the offsets is a `bigint`. -/
theorem parseTaskLogCursor_of_mem {z : TaskLogChunk} (hz : z ∈ teamLogChunks db teamID taskID) :
    parseTaskLogCursor (taskLogCursor z) = some (logKey z) := by
  obtain ⟨row, hrow, rfl⟩ := List.mem_map.mp hz
  have hcheck := db.logChunks.checked row (List.mem_of_mem_filter hrow)
  simp only [logChunkSchema, decide_eq_true_eq] at hcheck
  exact parseTaskLogCursor_taskLogCursor hcheck.2

/-- The handler is a listing of the stored chunks. -/
theorem answers_logReader (hteam : InTeam db taskID teamID) (hlimit : uiLimit rawLimit = .ok limit) :
    Answers logKey limit taskLogCursor (fun t => (parseTaskLogCursor t).getD 0)
      (fun t => (parseTaskLogCursor t).isSome = true) (teamLogChunks db teamID taskID)
      (logReader db teamID taskID rawLimit) := by
  intro t ht
  obtain ⟨after, hafter⟩ := Option.isSome_iff_exists.mp ht
  have hcont : Continues logKey limit after (teamLogChunks db teamID taskID) _ _ :=
    continues_nextIfFull (uiLimit_pos hlimit)
  refine ⟨page logKey limit after (teamLogChunks db teamID taskID),
    nextIfFull limit (page logKey limit after (teamLogChunks db teamID taskID)), ?_, ?_, ?_⟩
  · rw [logReader, listLogs_eq hteam hlimit hafter]
    rfl
  · simp only [hafter, Option.getD_some]
    exact hcont
  · intro z hz
    simp only [parseTaskLogCursor_of_mem (mem_page (hcont.next z hz).1).1]
    exact ⟨rfl, rfl⟩

theorem readPages_logReader (h : LogsCounted db) (hteam : InTeam db taskID teamID)
    (hlimit : uiLimit rawLimit = .ok limit) {cursor : String} {after : Int}
    (hcursor : parseTaskLogCursor cursor = some after) :
    ∃ fuel, readPages (fun _ => logReader db teamID taskID rawLimit) fuel 0 cursor =
      some (((logChunksOf db taskID).map LogChunkRow.read).filter (fun c => after < logKey c)) := by
  have hanswers (_ : Nat) := answers_logReader hteam hlimit
  have hgood : (parseTaskLogCursor cursor).isSome = true := by
    rw [hcursor]
    rfl
  obtain ⟨fuel, out, hread⟩ : ∃ fuel out,
      readPages (fun _ => logReader db teamID taskID rawLimit) fuel 0 cursor = some out :=
    readPages_ends (n := 0) hanswers (fun _ _ => rfl) hgood
  have hincreasing := h.increasing taskID
  refine ⟨fuel, hread.trans (congrArg some ?_)⟩
  rw [readPages_quiet hanswers ?_ hgood hread, teamLogChunks_eq h hteam, hcursor]
  · apply (orderBy_eq_self_iff logKey).mpr
    exact (hincreasing.imp le_of_lt).filter _
  · rw [teamLogChunks_eq h hteam]
    exact hincreasing.map _ (fun _ _ hlt => ne_of_lt hlt)

/-- **Offsets are `1 … n` in the order of acceptance; following the cursors reads every chunk
    once, in order, and ends; a cursor issued once resumes after its page in every later
    state.** -/
theorem task_logs_gapless_and_replayable (hdb : (registry cfg).Reachable db) (taskID : String) :
    (logChunksOf db taskID).map LogChunkRow.logOffset =
      List.range' 1 (logChunksOf db taskID).length ∧
    ∀ teamID rawLimit limit, InTeam db taskID teamID → uiLimit rawLimit = .ok limit →
      (∃ fuel, readPages (fun _ => logReader db teamID taskID rawLimit) fuel 0 "" =
        some ((logChunksOf db taskID).map LogChunkRow.read)) ∧
      ∀ cursor page next, listLogs db teamID taskID rawLimit cursor = .ok page →
        page.nextCursor = some next → ∃ z, page.items.getLast? = some z ∧
          ∀ calls db' rawLimit' limit', (registry cfg).Run db calls db' →
            uiLimit rawLimit' = .ok limit' →
            ∃ fuel, readPages (fun _ => logReader db' teamID taskID rawLimit') fuel 0 next =
              some (((logChunksOf db' taskID).map LogChunkRow.read).filter
                (fun c => z.logOffset < c.logOffset)) := by
  have hcounted := reachable_logsCounted hdb
  refine ⟨hcounted.offsets taskID, ?_⟩
  intro teamID rawLimit limit hteam hlimit
  constructor
  · obtain ⟨fuel, hread⟩ := readPages_logReader hcounted hteam hlimit
      (show parseTaskLogCursor "" = some 0 from rfl)
    refine ⟨fuel, hread.trans (congrArg some ?_)⟩
    -- offsets start at one
    apply List.filter_eq_self.mpr
    intro c hc
    obtain ⟨row, hrow, rfl⟩ := List.mem_map.mp hc
    have hcheck := db.logChunks.checked row (List.mem_of_mem_filter hrow)
    simp only [logChunkSchema, decide_eq_true_eq] at hcheck
    show decide ((0 : Int) < row.logOffset) = true
    simp only [decide_eq_true_eq]
    omega
  · intro cursor page next hpage hnext
    cases hcursor : parseTaskLogCursor cursor with
    | none => simp [listLogs, hlimit, hcursor, bind, Except.bind] at hpage
    | some after =>
      rw [listLogs_eq hteam hlimit hcursor] at hpage
      cases hpage
      obtain ⟨z, hz, rfl⟩ := Option.map_eq_some_iff.mp hnext
      have hmem := ((continues_nextIfFull (uiLimit_pos hlimit)).next z hz).1
      unfold nextIfFull at hz
      split at hz
      · refine ⟨z, hz, ?_⟩
        intro calls db' rawLimit' limit' hrun hlimit'
        have hdb' : (registry cfg).Reachable db' := hrun.reachable hdb
        obtain ⟨fuel, hread⟩ := readPages_logReader (reachable_logsCounted hdb')
          (hteam.later (run_evolves hrun)) hlimit' (parseTaskLogCursor_of_mem (mem_page hmem).1)
        refine ⟨fuel, hread.trans (congrArg some ?_)⟩
        apply List.filter_congr
        intro c _
        simp [logKey]
      · cases hz

end Reading

/-- The `n`-th line of the sample task. -/
def sampleLine (n : Nat) : Call :=
  ⟨sampleEnv "log" 8, .appendTaskLog "task" { sampleChunk with logChunkID := toString n }
    sampleIdentity⟩

/-- The sample task with eleven lines of output: one more than the first page takes. -/
def sampleLogged : Db :=
  serve sampleConfig .empty (sampleControl.take 7 ++ (List.range 11).map sampleLine)

/-- Another line has been appended. -/
def sampleGrown : Db := serve sampleConfig sampleLogged [sampleLine 11]

/-- The first page is full; the log is read from its start, and after another line the cursor
    of the page leads to what follows it, in pages of another size. -/
theorem task_logs_gapless_and_replayable_sample : ∃ page next,
    listLogs sampleLogged "team" "task" "10" "" = .ok page ∧
      page.items.map TaskLogChunk.logOffset = List.range' 1 10 ∧ page.nextCursor = some next ∧
      (∃ fuel chunks, readPages (fun _ => logReader sampleLogged "team" "task" "10") fuel 0 "" =
        some chunks ∧ chunks.map TaskLogChunk.logOffset = List.range' 1 11) ∧
      ∃ fuel chunks, readPages (fun _ => logReader sampleGrown "team" "task" "25") fuel 0 next =
        some chunks ∧ chunks.map TaskLogChunk.logOffset = [11, 12] := by
  have hfound : (sampleLogged.tasks.lookup "task").any (fun t => t.teamID = "team") = true := by
    decide +kernel
  obtain ⟨task, htask, hteam⟩ := (Option.any_eq_true _ _).mp hfound
  obtain ⟨page, hpage, hitems, hnext⟩ : ∃ page, listLogs sampleLogged "team" "task" "10" "" =
      .ok page ∧ page.items.map TaskLogChunk.logOffset = List.range' 1 10 ∧
        page.nextCursor.isSome = true := Check.exists_ok (by decide +kernel)
  obtain ⟨next, hnext⟩ := Option.isSome_iff_exists.mp hnext
  obtain ⟨⟨fuel, hread⟩, hresume⟩ :=
    (task_logs_gapless_and_replayable (reachable_serve sampleConfig _) "task").2 "team" "10" 10
      ⟨task, htask, of_decide_eq_true hteam⟩ (by decide +kernel)
  obtain ⟨z, hlast, hlater⟩ := hresume "" page next hpage hnext
  obtain ⟨fuel', hread'⟩ :=
    hlater [sampleLine 11] sampleGrown "25" 25 (run_iff_serve.mpr rfl) (by decide +kernel)
  -- the cursor is of the last chunk of the page
  have hz : z.logOffset = 10 := by
    have hlast' := congrArg (Option.map TaskLogChunk.logOffset) hlast
    rw [← List.getLast?_map, hitems] at hlast'
    exact (Option.some.inj hlast').symm
  rw [hz] at hread'
  exact ⟨page, next, hpage, hitems, hnext, ⟨fuel, _, hread, by decide +kernel⟩, fuel', _, hread',
    by decide +kernel⟩

end FlowAI.Registry
