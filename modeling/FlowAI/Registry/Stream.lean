import FlowAI.Framework.Keyset
import FlowAI.Registry.Evolution

/-! # The Live Stream

  One WebSocket connection of the operator stream (`uiStream` of
  `httpapi/events_stream.go`, `ListUIStreamFrames` of `store/ui_stream.go`).  Every
  poll reads up to a hundred frames behind a cursor `(occurred_at, frame_id)` and
  moves the cursor to the last frame it sent.

  The timestamps of the frames do not follow the order of the commits: `ingested_at`
  is cut to the second, and events, control events and log chunks carry the time
  their executor names.  A row that commits at or behind the cursor is never sent
  (`stream_misses_row_sample`); while every row commits ahead of it, nothing is
  missed (`stream_complete_when_ahead`).
-/

namespace FlowAI.Registry

variable {db db' : Db} {f f' : UIStreamFrame} {s : StreamState}

/-! ## Section 1: Frames -/

def TaskState.text : TaskState → String
  | .pending => "pending"
  | .created => "created"
  | .running => "running"
  | .finished => "finished"
  | .failed => "failed"

def LogStream.text : LogStream → String
  | .work => "work"
  | .reasoning => "reasoning"

inductive FrameType where
  | taskCommitted | taskEvent | controlEvent | taskLog
  deriving DecidableEq, Repr

def FrameType.text : FrameType → String
  | .taskCommitted => "task_committed"
  | .taskEvent => "task_event"
  | .controlEvent => "control_event"
  | .taskLog => "task_log"

/-- A frame on the wire; `occurredAt` is the column, which the wire shows as RFC 3339. -/
structure UIStreamFrame where
  frameID : String
  teamID : String
  frameType : FrameType
  taskID : String
  controlID : Option String
  occurredAt : Int
  data : Json
  deriving DecidableEq

/-- A row that appears on the stream. -/
inductive StreamRow where
  | task (t : TaskRow)
  | event (e : TaskEventRow)
  | control (e : ControlEventRow)
  | log (c : LogChunkRow)

namespace StreamRow

def frameType : StreamRow → FrameType
  | task _ => .taskCommitted
  | event _ => .taskEvent
  | control _ => .controlEvent
  | log _ => .taskLog

def rowID : StreamRow → String
  | task t => t.taskID
  | event e => e.eventID
  | control e => e.controlEventID
  | log c => c.logChunkID

def teamID : StreamRow → String
  | task t => t.teamID
  | event e => e.teamID
  | control e => e.teamID
  | log c => c.teamID

def taskID : StreamRow → String
  | task t => t.taskID
  | event e => e.taskID
  | control e => e.taskID
  | log c => c.taskID

def controlID : StreamRow → Option String
  | control e => some e.controlID
  | _ => none

def occurredAt : StreamRow → Int
  | task t => t.ingestedAt
  | event e => e.occurredAt
  | control e => e.occurredAt
  | log c => c.occurredAt

def data : StreamRow → Json
  | task t => Json.jsonb (.obj [("current_state", .str t.currentState.text)])
  | event e => e.payload
  | control e => Json.jsonb (.obj [("event_type", .str "task.control.requested"),
      ("status", .str e.status.text),
      ("executor_id", match e.executorID with | some id => .str id | none => .null),
      ("payload", e.payload)])
  | log c => Json.jsonb (.obj [("log_offset", .num ⟨c.logOffset, 0⟩),
      ("stream", .str c.stream.text), ("content", .str c.content)])

def frame (r : StreamRow) : UIStreamFrame where
  frameID := r.frameType.text ++ ":" ++ r.rowID
  teamID := r.teamID
  frameType := r.frameType
  taskID := r.taskID
  controlID := r.controlID
  occurredAt := r.occurredAt
  data := r.data

end StreamRow

/-- The position of a frame. -/
def UIStreamFrame.key (f : UIStreamFrame) : Lex (Int × String) := toLex (f.occurredAt, f.frameID)

/-- The time of a frame as the handler reads it back from the wire. -/
def UIStreamFrame.wireTime (f : UIStreamFrame) : Option Int :=
  Time.parseRFC3339Nano (Time.formatRFC3339Nano (Time.ofMicros f.occurredAt))

/-- The rows of the four tables. -/
def streamRows (db : Db) : List StreamRow :=
  db.tasks.rows.map .task ++ db.taskEvents.rows.map .event ++
    db.controlEvents.rows.map .control ++ db.logChunks.rows.map .log

/-- The frames of a team, of one task if `taskID` is not empty. -/
def streamFrames (db : Db) (teamID taskID : String) : List UIStreamFrame :=
  ((streamRows db).map StreamRow.frame).filter (fun f =>
    f.teamID = teamID && (taskID = "" || f.taskID = taskID))

/-- `after` is in nanoseconds, as the handler holds it. -/
def listUIStreamFrames (db : Db) (teamID taskID : String) (after : Int) (afterFrameID : String) :
    List UIStreamFrame :=
  page UIStreamFrame.key 100 (toLex (Time.toMicros after, afterFrameID))
    (streamFrames db teamID taskID)

/-! ## Section 2: The connection -/

/-- What a connection remembers, and what it has sent. -/
structure StreamConn where
  teamID : String
  taskID : String
  after : Int
  afterFrameID : String
  sent : List UIStreamFrame
  closed : Bool

namespace StreamConn

/-- The position polls start behind. -/
def cursor (conn : StreamConn) : Lex (Int × String) :=
  toLex (Time.toMicros conn.after, conn.afterFrameID)

/-- Send one frame; the cursor follows the time read back from the wire, and a time that
    cannot be read ends the connection. -/
def send (conn : StreamConn) (f : UIStreamFrame) : StreamConn :=
  match f.wireTime with
  | none => { conn with sent := conn.sent ++ [f], closed := true }
  | some t => { conn with after := t, afterFrameID := f.frameID, sent := conn.sent ++ [f] }

/-- Send frames one after the other. -/
def deliver (conn : StreamConn) : List UIStreamFrame → StreamConn
  | [] => conn
  | f :: fs => if (conn.send f).closed then conn.send f else (conn.send f).deliver fs

/-- What the next poll reads. -/
def frames (conn : StreamConn) (db : Db) : List UIStreamFrame :=
  listUIStreamFrames db conn.teamID conn.taskID conn.after conn.afterFrameID

/-- One tick of the handler. -/
def poll (conn : StreamConn) (db : Db) : StreamConn :=
  if conn.closed then conn else conn.deliver (conn.frames db)

end StreamConn

/-- The registry with one open connection; `opened` is what was committed when it opened. -/
structure StreamState where
  db : Db
  opened : Db
  conn : StreamConn

inductive StreamLabel where
  | call (call : Call)
  | poll
  | close

/-- A call commits, the connection polls, or it goes away. -/
def StreamState.next (cfg : Config) (s : StreamState) : StreamLabel → StreamState
  | .call call => { s with db := (exec cfg call).commit s.db }
  | .poll => { s with conn := s.conn.poll s.db }
  | .close => { s with conn := { s.conn with closed := true } }

/-- Calls commit and polls run in any order. -/
def uiStream (cfg : Config) : System StreamState StreamLabel where
  init s := (registry cfg).Reachable s.db ∧ s.opened = s.db ∧ s.conn.sent = [] ∧
    s.conn.closed = false
  step s l s' := s.next cfg l = s'

/-- The frames of the connection in a database. -/
def StreamState.framesIn (s : StreamState) (db : Db) : List UIStreamFrame :=
  streamFrames db s.conn.teamID s.conn.taskID

/-- The frames whose rows committed since the connection opened. -/
def StreamState.newFrames (s : StreamState) : List UIStreamFrame :=
  (s.framesIn s.db).filter (fun f => f.frameID ∉ (s.framesIn s.opened).map UIStreamFrame.frameID)

/-- Every frame that a call adds stands ahead of the cursor. -/
def CommitsAhead (cfg : Config) (s : StreamState) : StreamLabel → Prop
  | .call call => ∀ f ∈ s.framesIn ((exec cfg call).commit s.db),
      f.frameID ∉ (s.framesIn s.db).map UIStreamFrame.frameID → s.conn.cursor < f.key
  | _ => True

instance (cfg : Config) (s : StreamState) : (l : StreamLabel) → Decidable (CommitsAhead cfg s l)
  | .call _ => inferInstanceAs (Decidable (∀ f ∈ _, _ → _))
  | .poll => inferInstanceAs (Decidable True)
  | .close => inferInstanceAs (Decidable True)

/-! ## Section 3: Frames stay in place -/

theorem FrameType.frameID_injective {ty ty' : FrameType} {id id' : String}
    (h : ty.text ++ ":" ++ id = ty'.text ++ ":" ++ id') : ty = ty' ∧ id = id' := by
  have hchars := congrArg String.toList h
  cases ty <;> cases ty' <;> simp [FrameType.text] at hchars ⊢ <;> exact String.toList_injective hchars

variable {r : StreamRow} {teamID taskID : String}

theorem mem_streamRows : r ∈ streamRows db ↔
    (∃ t, db.tasks.lookup t.taskID = some t ∧ r = .task t) ∨
    (∃ e, db.taskEvents.lookup e.eventID = some e ∧ r = .event e) ∨
    (∃ e, db.controlEvents.lookup e.controlEventID = some e ∧ r = .control e) ∨
    ∃ c, db.logChunks.lookup c.logChunkID = some c ∧ r = .log c := by
  have hmem : ∀ {ρ : Type} {S : Schema ρ String} {table : Table S} {row : ρ},
      row ∈ table.rows ↔ table.lookup (S.key row) = some row := by
    intro ρ S table row
    exact ⟨Table.lookup_key, Table.mem_of_lookup⟩
  have htask : ∀ t, t ∈ db.tasks.rows ↔ db.tasks.lookup t.taskID = some t := fun _ => hmem
  have hevent : ∀ e, e ∈ db.taskEvents.rows ↔ db.taskEvents.lookup e.eventID = some e :=
    fun _ => hmem
  have hcontrol : ∀ e, e ∈ db.controlEvents.rows ↔
      db.controlEvents.lookup e.controlEventID = some e := fun _ => hmem
  have hlog : ∀ c, c ∈ db.logChunks.rows ↔ db.logChunks.lookup c.logChunkID = some c :=
    fun _ => hmem
  simp only [streamRows, List.mem_append, List.mem_map, htask, hevent, hcontrol, hlog, or_assoc,
    eq_comm (a := r)]

/-- A row of the stream is still there, where it was. -/
theorem Db.Evolves.streamRow (h : db.Evolves db') (hr : r ∈ streamRows db) :
    ∃ r' ∈ streamRows db', r'.frame.frameID = r.frame.frameID ∧
      r'.frame.key = r.frame.key ∧ r'.teamID = r.teamID ∧ r'.taskID = r.taskID := by
  have hgoal : ∃ r' ∈ streamRows db', r'.frameType = r.frameType ∧ r'.rowID = r.rowID ∧
      r'.occurredAt = r.occurredAt ∧ r'.teamID = r.teamID ∧ r'.taskID = r.taskID := by
    rcases mem_streamRows.mp hr with ⟨t, ht, rfl⟩ | ⟨e, he, rfl⟩ | ⟨e, he, rfl⟩ | ⟨c, hc, rfl⟩
    · obtain ⟨t', ht', hfollows⟩ := h.tasks _ _ ht
      have hid : t'.taskID = t.taskID := (congrArg TaskRow.taskID hfollows.ingestion :)
      have htime : t'.ingestedAt = t.ingestedAt := (congrArg TaskRow.ingestedAt hfollows.ingestion :)
      rw [← hid] at ht'
      exact ⟨.task t', mem_streamRows.mpr (.inl ⟨t', ht', rfl⟩), rfl, hid, htime, hfollows.teamID,
        hid⟩
    · obtain ⟨_, he', rfl⟩ := h.taskEvents _ _ he
      exact ⟨.event e, mem_streamRows.mpr (.inr (.inl ⟨e, he', rfl⟩)), rfl, rfl, rfl, rfl, rfl⟩
    · obtain ⟨_, he', rfl⟩ := h.controlEvents _ _ he
      exact ⟨.control e, mem_streamRows.mpr (.inr (.inr (.inl ⟨e, he', rfl⟩))), rfl, rfl, rfl, rfl,
        rfl⟩
    · obtain ⟨_, hc', rfl⟩ := h.logChunks _ _ hc
      exact ⟨.log c, mem_streamRows.mpr (.inr (.inr (.inr ⟨c, hc', rfl⟩))), rfl, rfl, rfl, rfl, rfl⟩
  obtain ⟨r', hr', htype, hrow, htime, hteam, htask⟩ := hgoal
  have hid : r'.frame.frameID = r.frame.frameID := by
    simp only [StreamRow.frame, htype, hrow]
  refine ⟨r', hr', hid, ?_, hteam, htask⟩
  rw [UIStreamFrame.key, UIStreamFrame.key, hid]
  exact congrArg (fun t => toLex (t, r.frame.frameID)) htime

/-- Rows with the same frame id are one row. -/
theorem streamRow_eq_of_frameID {r' : StreamRow} (hr : r ∈ streamRows db)
    (hr' : r' ∈ streamRows db) (h : r.frame.frameID = r'.frame.frameID) : r = r' := by
  obtain ⟨htype, hid⟩ := FrameType.frameID_injective h
  rcases mem_streamRows.mp hr with ⟨t, ht, rfl⟩ | ⟨e, he, rfl⟩ | ⟨e, he, rfl⟩ | ⟨c, hc, rfl⟩ <;>
    rcases mem_streamRows.mp hr' with ⟨t', ht', rfl⟩ | ⟨e', he', rfl⟩ | ⟨e', he', rfl⟩ |
      ⟨c', hc', rfl⟩ <;>
    simp only [StreamRow.frameType, reduceCtorEq] at htype
  · have heq : t.taskID = t'.taskID := hid
    rw [heq, ht'] at ht
    rw [Option.some.inj ht]
  · have heq : e.eventID = e'.eventID := hid
    rw [heq, he'] at he
    rw [Option.some.inj he]
  · have heq : e.controlEventID = e'.controlEventID := hid
    rw [heq, he'] at he
    rw [Option.some.inj he]
  · have heq : c.logChunkID = c'.logChunkID := hid
    rw [heq, hc'] at hc
    rw [Option.some.inj hc]

theorem mem_streamFrames :
    f ∈ streamFrames db teamID taskID ↔
      ∃ r ∈ streamRows db, r.frame = f ∧ r.teamID = teamID ∧ (taskID = "" ∨ r.taskID = taskID) := by
  simp only [streamFrames, List.mem_filter, List.mem_map, Bool.and_eq_true, Bool.or_eq_true,
    decide_eq_true_eq]
  constructor
  · rintro ⟨⟨r, hr, rfl⟩, hteam, htask⟩
    exact ⟨r, hr, rfl, hteam, htask⟩
  · rintro ⟨r, hr, rfl, hteam, htask⟩
    exact ⟨⟨r, hr, rfl⟩, hteam, htask⟩

/-- A frame of the connection keeps its place while the database grows. -/
theorem Db.Evolves.streamFrame (h : db.Evolves db')
    (hf : f ∈ streamFrames db teamID taskID) (hf' : f' ∈ streamFrames db' teamID taskID)
    (hid : f.frameID = f'.frameID) : f.key = f'.key := by
  obtain ⟨r, hr, rfl, -, -⟩ := mem_streamFrames.mp hf
  obtain ⟨r', hr', rfl, -, -⟩ := mem_streamFrames.mp hf'
  obtain ⟨r₁, hr₁, hid₁, hkey₁, -, -⟩ := h.streamRow hr
  rw [← streamRow_eq_of_frameID hr₁ hr' (hid₁.trans hid)]
  exact hkey₁.symm

theorem Db.Evolves.streamFrame_kept (h : db.Evolves db') (hf : f ∈ streamFrames db teamID taskID) :
    ∃ f' ∈ streamFrames db' teamID taskID, f'.frameID = f.frameID ∧ f'.key = f.key := by
  obtain ⟨r, hr, rfl, hteam, htask⟩ := mem_streamFrames.mp hf
  obtain ⟨r', hr', hid, hkey, hteam', htask'⟩ := h.streamRow hr
  exact ⟨r'.frame, mem_streamFrames.mpr ⟨r', hr', rfl, hteam'.trans hteam, by rwa [htask']⟩, hid,
    hkey⟩

theorem nodup_streamFrames (db : Db) (teamID taskID : String) :
    (streamFrames db teamID taskID).Nodup := by
  have hrows : ∀ {ρ : Type} {S : Schema ρ String} (table : Table S), table.rows.Nodup :=
    fun table => table.keys_nodup.of_map
  have hall : (streamRows db).Nodup := by
    unfold streamRows
    refine List.Nodup.append (List.Nodup.append (List.Nodup.append ?_ ?_ ?_) ?_ ?_) ?_ ?_
    · exact (hrows db.tasks).map (fun _ _ h => StreamRow.task.inj h)
    · exact (hrows db.taskEvents).map (fun _ _ h => StreamRow.event.inj h)
    · simp only [List.disjoint_left, List.mem_map]
      rintro _ ⟨_, _, rfl⟩ ⟨_, _, h⟩
      cases h
    · exact (hrows db.controlEvents).map (fun _ _ h => StreamRow.control.inj h)
    · simp only [List.disjoint_left, List.mem_append, List.mem_map]
      rintro _ (⟨_, _, rfl⟩ | ⟨_, _, rfl⟩) ⟨_, _, h⟩ <;> cases h
    · exact (hrows db.logChunks).map (fun _ _ h => StreamRow.log.inj h)
    · simp only [List.disjoint_left, List.mem_append, List.mem_map]
      rintro _ ((⟨_, _, rfl⟩ | ⟨_, _, rfl⟩) | ⟨_, _, rfl⟩) ⟨_, _, h⟩ <;> cases h
  refine (hall.map_on ?_).filter _
  intro r hr r' hr' h
  exact streamRow_eq_of_frameID hr hr' (congrArg UIStreamFrame.frameID h)

theorem frameID_of_key (h : f.key = f'.key) : f.frameID = f'.frameID := by
  have hpair : (f.occurredAt, f.frameID) = (f'.occurredAt, f'.frameID) := toLex.injective h
  exact congrArg Prod.snd hpair

theorem streamFrame_eq_of_frameID (hf : f ∈ streamFrames db teamID taskID)
    (hf' : f' ∈ streamFrames db teamID taskID) (h : f.frameID = f'.frameID) : f = f' := by
  obtain ⟨r, hr, rfl, -, -⟩ := mem_streamFrames.mp hf
  obtain ⟨r', hr', rfl, -, -⟩ := mem_streamFrames.mp hf'
  rw [streamRow_eq_of_frameID hr hr' h]

/-! ## Section 4: One poll -/

/-- What sending a list of frames leaves of a connection. -/
structure Delivered (fs : List UIStreamFrame) (conn conn' : StreamConn) : Prop where
  team : conn'.teamID = conn.teamID
  task : conn'.taskID = conn.taskID
  some : ∃ done, done <+: fs ∧ conn'.sent = conn.sent ++ done
  all : conn'.closed = false → conn'.sent = conn.sent ++ fs ∧
    conn'.cursor = (fs.getLast?.map UIStreamFrame.key).getD conn.cursor

theorem StreamConn.send_spec (conn : StreamConn) (f : UIStreamFrame) :
    (conn.send f).teamID = conn.teamID ∧ (conn.send f).taskID = conn.taskID ∧
      (conn.send f).sent = conn.sent ++ [f] ∧
      ((conn.send f).closed = false → (conn.send f).cursor = f.key) := by
  unfold StreamConn.send
  cases hwire : f.wireTime with
  | none =>
    refine ⟨rfl, rfl, rfl, ?_⟩
    intro hopen
    cases hopen
  | some t =>
    refine ⟨rfl, rfl, rfl, ?_⟩
    intro _
    -- the time read back is the time of the frame
    have htime : Time.toMicros t = f.occurredAt := by
      rw [Time.parse_format_some hwire, Time.toMicros_ofMicros]
    show toLex (Time.toMicros t, f.frameID) = f.key
    rw [htime]
    rfl

theorem StreamConn.deliver_spec (fs : List UIStreamFrame) (conn : StreamConn) :
    Delivered fs conn (conn.deliver fs) := by
  induction fs generalizing conn with
  | nil => exact ⟨rfl, rfl, ⟨[], List.prefix_refl _, (List.append_nil _).symm⟩, fun _ =>
      ⟨(List.append_nil _).symm, rfl⟩⟩
  | cons f fs ih =>
    obtain ⟨hteam, htask, hsent, hcursor⟩ := conn.send_spec f
    unfold StreamConn.deliver
    by_cases hclosed : (conn.send f).closed = true
    · rw [if_pos hclosed]
      refine ⟨hteam, htask, ⟨[f], ⟨fs, rfl⟩, hsent⟩, ?_⟩
      intro hopen
      rw [hclosed] at hopen
      cases hopen
    · rw [if_neg hclosed]
      obtain ⟨hteam', htask', ⟨done, hdone, hsent'⟩, hall⟩ := ih (conn.send f)
      refine ⟨hteam'.trans hteam, htask'.trans htask,
        ⟨f :: done, List.cons_prefix_cons.mpr ⟨rfl, hdone⟩, ?_⟩, ?_⟩
      · rw [hsent', hsent, List.append_assoc]
        rfl
      · intro hopen
        obtain ⟨hsentAll, hlast⟩ := hall hopen
        refine ⟨by rw [hsentAll, hsent, List.append_assoc]; rfl, ?_⟩
        rw [hlast, hcursor (by simpa using hclosed), List.getLast?_cons]
        cases fs.getLast? <;> rfl

/-! ## Section 5: Runs -/

/-- Frames were sent in the order of their keys, and the rows they show are there. -/
structure StreamState.SentInOrder (s : StreamState) : Prop where
  ordered : s.conn.sent.Pairwise (fun f f' => f.key < f'.key)
  behind : s.conn.closed = false → ∀ f ∈ s.conn.sent, f.key ≤ s.conn.cursor
  stored : ∀ f ∈ s.conn.sent, ∃ f' ∈ s.framesIn s.db, f'.frameID = f.frameID ∧ f'.key = f.key

/-- While the connection is open, every new frame was sent or is ahead. -/
def StreamState.Complete (s : StreamState) : Prop :=
  s.conn.closed = false → ∀ f ∈ s.newFrames,
    f.frameID ∈ s.conn.sent.map UIStreamFrame.frameID ∨ s.conn.cursor < f.key

/-- What a poll of an open connection does. -/
theorem StreamConn.poll_delivered (db : Db) {conn : StreamConn} (hopen : conn.closed = false) :
    Delivered (conn.frames db) conn (conn.poll db) := by
  unfold StreamConn.poll
  rw [hopen]
  exact conn.deliver_spec _

theorem strict_frames (conn : StreamConn) (db : Db) :
    (conn.frames db).Pairwise (fun f f' => f.key < f'.key) :=
  strict_page (nodup_streamFrames _ _ _)
    (fun _ hf _ hf' h => streamFrame_eq_of_frameID hf hf' (frameID_of_key h))

theorem key_le_getLast {fs : List UIStreamFrame} (h : fs.Pairwise (fun f f' => f.key < f'.key))
    {l : UIStreamFrame} (hl : fs.getLast? = some l) (hf : f ∈ fs) : f.key ≤ l.key := by
  obtain ⟨front, rfl⟩ := List.getLast?_eq_some_iff.mp hl
  rcases List.mem_append.mp hf with hf | hf
  · exact le_of_lt ((List.pairwise_append.mp h).2.2 f hf l List.mem_cons_self)
  · rw [List.mem_singleton.mp hf]

theorem StreamState.SentInOrder.poll (h : s.SentInOrder) :
    ({ s with conn := s.conn.poll s.db } : StreamState).SentInOrder := by
  by_cases hclosed : s.conn.closed = true
  · rw [show s.conn.poll s.db = s.conn by simp [StreamConn.poll, hclosed]]
    exact h
  · have hopen : s.conn.closed = false := by simpa using hclosed
    obtain ⟨hteam, htask, ⟨done, hdone, hsent⟩, hall⟩ := StreamConn.poll_delivered s.db hopen
    have hstrict := strict_frames s.conn s.db
    have hahead : ∀ f ∈ s.conn.frames s.db, s.conn.cursor < f.key := fun f hf => (mem_page hf).2
    refine ⟨?_, ?_, ?_⟩
    · show (s.conn.poll s.db).sent.Pairwise _
      rw [hsent, List.pairwise_append]
      refine ⟨h.ordered, hstrict.sublist hdone.sublist, ?_⟩
      intro f hf f' hf'
      exact lt_of_le_of_lt (h.behind hopen f hf) (hahead f' (hdone.subset hf'))
    · intro hstill f hf
      obtain ⟨hsent', hcursor⟩ := hall hstill
      show f.key ≤ (s.conn.poll s.db).cursor
      rw [hcursor]
      have hf' : f ∈ s.conn.sent ++ s.conn.frames s.db := hsent' ▸ hf
      cases hlast : (s.conn.frames s.db).getLast? with
      | none =>
        rw [List.getLast?_eq_none_iff.mp hlast, List.append_nil] at hf'
        exact h.behind hopen f hf'
      | some l =>
        have hl : l ∈ s.conn.frames s.db := List.mem_of_getLast? hlast
        rcases List.mem_append.mp hf' with hf' | hf'
        · exact le_of_lt (lt_of_le_of_lt (h.behind hopen f hf') (hahead l hl))
        · exact key_le_getLast hstrict hlast hf'
    · intro f hf
      have hf' : f ∈ s.conn.sent ++ done := hsent ▸ hf
      show ∃ f' ∈ streamFrames s.db (s.conn.poll s.db).teamID (s.conn.poll s.db).taskID, _
      rw [hteam, htask]
      rcases List.mem_append.mp hf' with hf' | hf'
      · exact h.stored f hf'
      · exact ⟨f, (mem_page (hdone.subset hf')).1, rfl, rfl⟩

theorem StreamState.SentInOrder.call (h : s.SentInOrder) (hkept : s.db.Evolves db) :
    ({ s with db := db } : StreamState).SentInOrder := by
  refine ⟨h.ordered, h.behind, ?_⟩
  intro f hf
  obtain ⟨f₁, hf₁, hid₁, hkey₁⟩ := h.stored f hf
  obtain ⟨f₂, hf₂, hid₂, hkey₂⟩ := hkept.streamFrame_kept hf₁
  exact ⟨f₂, hf₂, hid₂.trans hid₁, hkey₂.trans hkey₁⟩

theorem reachable_sentInOrder {cfg : Config} (h : (uiStream cfg).Reachable s) :
    s.SentInOrder := by
  refine h.invariant ?_ ?_
  · rintro s ⟨-, -, hsent, -⟩
    refine ⟨?_, ?_, ?_⟩ <;> simp [hsent]
  · intro s l s' _ hs hstep
    cases l with
    | call call =>
      cases hstep
      exact hs.call (step_effect rfl).evolves
    | poll =>
      cases hstep
      exact hs.poll
    | close =>
      cases hstep
      refine ⟨hs.ordered, ?_, hs.stored⟩
      intro hopen
      cases hopen

/-- No frame is sent twice: a frame id stands for one row, which has one key. -/
theorem StreamState.SentInOrder.nodup (h : s.SentInOrder) :
    (s.conn.sent.map UIStreamFrame.frameID).Nodup := by
  rw [List.Nodup, List.pairwise_map]
  refine h.ordered.imp_of_mem ?_
  intro f f' hf hf' hlt hid
  obtain ⟨g, hg, hgid, hgkey⟩ := h.stored f hf
  obtain ⟨g', hg', hgid', hgkey'⟩ := h.stored f' hf'
  have heq : g = g' := streamFrame_eq_of_frameID hg hg' (by rw [hgid, hgid', hid])
  rw [← hgkey, ← hgkey', heq] at hlt
  exact lt_irrefl _ hlt

theorem mem_newFrames : f ∈ s.newFrames ↔
    f ∈ s.framesIn s.db ∧ f.frameID ∉ (s.framesIn s.opened).map UIStreamFrame.frameID := by
  rw [StreamState.newFrames, List.mem_filter, decide_eq_true_eq]

/-- A call that commits ahead keeps the connection complete. -/
theorem StreamState.Complete.call (h : s.Complete) (hkept : s.db.Evolves db)
    (hahead : ∀ f ∈ s.framesIn db, f.frameID ∉ (s.framesIn s.db).map UIStreamFrame.frameID →
      s.conn.cursor < f.key) : ({ s with db := db } : StreamState).Complete := by
  intro hopen f hf
  obtain ⟨hmem, hnew⟩ := mem_newFrames.mp hf
  by_cases hold : f.frameID ∈ (s.framesIn s.db).map UIStreamFrame.frameID
  · -- the frame was there before, at the same place
    obtain ⟨f₀, hf₀, hid⟩ := List.mem_map.mp hold
    have hkey : f₀.key = f.key := hkept.streamFrame hf₀ hmem hid
    have hbefore : f₀ ∈ s.newFrames := mem_newFrames.mpr ⟨hf₀, by rw [hid]; exact hnew⟩
    rw [← hid, ← hkey]
    exact h hopen f₀ hbefore
  · exact .inr (hahead f hmem hold)

/-- A poll passes no frame over. -/
theorem StreamState.Complete.poll (h : s.Complete) :
    ({ s with conn := s.conn.poll s.db } : StreamState).Complete := by
  intro hstill f hf
  by_cases hclosed : s.conn.closed = true
  · rw [show s.conn.poll s.db = s.conn by simp [StreamConn.poll, hclosed]] at hstill
    rw [hclosed] at hstill
    cases hstill
  · have hopen : s.conn.closed = false := by simpa using hclosed
    obtain ⟨hteam, htask, -, hall⟩ := StreamConn.poll_delivered s.db hopen
    obtain ⟨hsent, hcursor⟩ := hall hstill
    have hsame : f ∈ s.newFrames := by
      rw [mem_newFrames] at hf ⊢
      simpa only [StreamState.framesIn, hteam, htask] using hf
    show f.frameID ∈ (s.conn.poll s.db).sent.map _ ∨ (s.conn.poll s.db).cursor < f.key
    rw [hsent, List.map_append, List.mem_append]
    rcases h hopen f hsame with hdone | hahead
    · exact .inl (.inl hdone)
    · have hmem := (mem_newFrames.mp hsame).1
      rcases page_complete hmem hahead with hpage | hrest
      · exact .inl (.inr (List.mem_map_of_mem hpage))
      · -- the page ended before this frame
        rw [hcursor]
        cases hlast : (s.conn.frames s.db).getLast? with
        | none => exact .inr hahead
        | some l =>
          have hl : l ∈ s.conn.frames s.db := List.mem_of_getLast? hlast
          rcases lt_or_eq_of_le (hrest l hl) with hlt | heq
          · exact .inr hlt
          · left
            right
            rw [← frameID_of_key heq]
            exact List.mem_map_of_mem hl

theorem reachable_complete {cfg : Config}
    (h : ((uiStream cfg).restrict (CommitsAhead cfg)).Reachable s) : s.Complete := by
  refine h.invariant ?_ ?_
  · rintro s ⟨-, hopened, -, -⟩ _ f hf
    -- nothing is new when the connection opens
    obtain ⟨hmem, hnew⟩ := mem_newFrames.mp hf
    rw [hopened] at hnew
    exact absurd (List.mem_map_of_mem hmem) hnew
  · intro s l s' _ hs hstep
    obtain ⟨hstep, hguard⟩ := hstep
    cases l with
    | call call =>
      cases hstep
      exact hs.call (step_effect rfl).evolves hguard
    | poll =>
      cases hstep
      exact hs.poll
    | close =>
      cases hstep
      intro hopen
      cases hopen

/-- While every row of the connection commits ahead of its cursor: a poll that finds
    nothing more means that every frame committed since the opening was sent, and none
    was sent twice. -/
theorem stream_complete_when_ahead {cfg : Config} {s : StreamState}
    (h : ((uiStream cfg).restrict (CommitsAhead cfg)).Reachable s) :
    (s.conn.closed = false → s.conn.frames s.db = [] →
      ∀ f ∈ s.newFrames, f.frameID ∈ s.conn.sent.map UIStreamFrame.frameID) ∧
    (s.conn.sent.map UIStreamFrame.frameID).Nodup := by
  refine ⟨?_, (reachable_sentInOrder h.of_restrict).nodup⟩
  intro hopen hnone f hf
  rcases reachable_complete h hopen f hf with hsent | hahead
  · exact hsent
  · exact absurd hahead (not_ahead_of_page_eq_nil (by decide) hnone (mem_newFrames.mp hf).1)

/-! ### Two connections

  A connection of the sample team opens at half past the fifth second.  A task ingested in
  the sixth second is streamed; one ingested later in the fifth is dated back to its
  beginning, behind the cursor, and is never sent. -/

def sampleOpened : StreamState where
  db := serve sampleConfig .empty sampleSetup
  opened := serve sampleConfig .empty sampleSetup
  conn := ⟨"team", "", 5500000000, "", [], false⟩

def sampleStreamed : StreamState :=
  (sampleOpened.next sampleConfig (.call (sampleIngest "task" "1" 6))).next sampleConfig .poll

/-- An ingestion nine tenths into the fifth second. -/
def sampleLateIngest : Call :=
  { sampleIngest "task" "1" 5 with env := { sampleEnv "task" 5 with txTime := 5900000 } }

def sampleMissed : StreamState :=
  (sampleOpened.next sampleConfig (.call sampleLateIngest)).next sampleConfig .poll

theorem sampleOpened_init : (uiStream sampleConfig).init sampleOpened :=
  ⟨reachable_serve _ _, rfl, rfl, rfl⟩

theorem stream_complete_when_ahead_sample :
    sampleStreamed.newFrames.map UIStreamFrame.frameID = ["task_committed:task"] ∧
      ∀ f ∈ sampleStreamed.newFrames,
        f.frameID ∈ sampleStreamed.conn.sent.map UIStreamFrame.frameID := by
  have hnew : sampleStreamed.newFrames.map UIStreamFrame.frameID = ["task_committed:task"] := by
    decide +kernel
  have hahead : CommitsAhead sampleConfig sampleOpened (.call (sampleIngest "task" "1" 6)) := by
    decide +kernel
  have hreach : ((uiStream sampleConfig).restrict (CommitsAhead sampleConfig)).Reachable
      sampleStreamed :=
    .step .poll (.step (.call (sampleIngest "task" "1" 6)) (.init sampleOpened_init) ⟨rfl, hahead⟩)
      ⟨rfl, trivial⟩
  exact ⟨hnew, (stream_complete_when_ahead hreach).1 (by decide +kernel) (by decide +kernel)⟩

theorem stream_misses_row_sample :
    (uiStream sampleConfig).Reachable sampleMissed ∧ sampleMissed.conn.closed = false ∧
      sampleMissed.conn.frames sampleMissed.db = [] ∧ sampleMissed.conn.sent = [] ∧
      sampleMissed.newFrames.map UIStreamFrame.frameID = ["task_committed:task"] := by
  refine ⟨?_, by decide +kernel, by decide +kernel, by decide +kernel, by decide +kernel⟩
  exact .step .poll (.step (.call sampleLateIngest) (.init sampleOpened_init) rfl) rfl

/-- Whatever commits between the polls, frames are sent in the order of their keys, none twice,
    and each shows a row that is still there. -/
theorem frames_sent_in_order {cfg : Config} (h : (uiStream cfg).Reachable s) :
    s.conn.sent.Pairwise (fun f f' => f.key < f'.key) ∧
      (s.conn.sent.map UIStreamFrame.frameID).Nodup ∧
      ∀ f ∈ s.conn.sent, ∃ f' ∈ s.framesIn s.db, f'.frameID = f.frameID ∧ f'.key = f.key := by
  have hsent := reachable_sentInOrder h
  exact ⟨hsent.ordered, hsent.nodup, hsent.stored⟩

/-- A second task is committed between the first poll and a second one. -/
def samplePolledTwice : StreamState :=
  (sampleStreamed.next sampleConfig (.call (sampleIngest "later" "2" 7))).next sampleConfig .poll

theorem frames_sent_in_order_sample :
    sampleStreamed.conn.sent.map UIStreamFrame.frameID = ["task_committed:task"] ∧
      samplePolledTwice.conn.sent.map UIStreamFrame.frameID =
        ["task_committed:task", "task_committed:later"] ∧
      samplePolledTwice.conn.sent.Pairwise (fun f f' => f.key < f'.key) ∧
      (samplePolledTwice.conn.sent.map UIStreamFrame.frameID).Nodup := by
  have hfirst : (uiStream sampleConfig).Reachable sampleStreamed :=
    .step .poll (.step (.call (sampleIngest "task" "1" 6)) (.init sampleOpened_init) rfl) rfl
  have hsecond : (uiStream sampleConfig).Reachable samplePolledTwice :=
    .step .poll (.step (.call (sampleIngest "later" "2" 7)) hfirst rfl) rfl
  have hsent := frames_sent_in_order hsecond
  exact ⟨by decide +kernel, by decide +kernel, hsent.1, hsent.2.1⟩

end FlowAI.Registry
