import FlowAI.K8s.Accounting
import FlowAI.Registry.EventRetry

/-! # Events on Their Way

  What it means that the Registry answered an append: the event is stored, and a terminal
  one has ended its task.  And what the actions of the executor do to the outbox: an event
  is written under a new identifier, and only its state changes later.
-/

namespace FlowAI.K8s

open Registry

variable {eventID uid : String} {event : TaskEventAppendRequest} {act : Act}

variable {cfg : ExecutorConfig} {reg : Config} {w w' : World} {a : Answer}

/-! ## Section 1: Accepted events -/

/-- The Registry has an event under the identifier. -/
def Stored (db : Db) (eventID : String) : Prop := ∃ row, db.taskEvents.lookup eventID = some row

theorem Stored.later {db db' : Db} (h : Stored db eventID) (hlater : db.Evolves db') :
    Stored db' eventID := by
  obtain ⟨row, hrow⟩ := h
  obtain ⟨row', hrow', -⟩ := hlater.taskEvents _ _ hrow
  exact ⟨row', hrow'⟩

/-- The Registry after an append that it accepted and answered. -/
theorem appends_ok (h : w.appends cfg reg a event = true) :
    a.reach = .answered ∧ ∃ result, appendTaskEvent reg a.env event
      (cfg.identity a.requestID) w.db =
        .ok (result, (w.perform reg (.append a.reach (appendCall cfg a event) event)).db) := by
  simp only [World.appends, Bool.and_eq_true, decide_eq_true_eq, Option.isNone_iff_eq_none] at h
  obtain ⟨hr, hnone⟩ := h
  obtain ⟨result, hok⟩ := Tx.errorOf_eq_none.mp hnone
  refine ⟨hr, result, ?_⟩
  rw [hok]
  congr 2
  show _ = a.reach.commit reg (appendCall cfg a event) w.db
  rw [hr]
  exact (Tx.commit_void _).symm

/-- The row of an accepted event: it carries the type of the request. -/
theorem row_of_appends (h : w.appends cfg reg a event = true) :
    ∃ row, findTaskEvent
        (w.perform reg (.append a.reach (appendCall cfg a event) event)).db event.taskID
          event.eventID = some row ∧
      allowedTaskEventType event.eventType = some row.eventType := by
  obtain ⟨-, result, hok⟩ := appends_ok h
  obtain ⟨parsed, task, hparse, hmay, hcase⟩ := appendTaskEvent_ok hok
  have htype := (parseTaskEvent_ok hparse).1
  rcases hcase with ⟨existing, hfound, hretries, -, hsame⟩ | ⟨-, -, hfresh⟩
  · refine ⟨existing, by rw [hsame]; exact hfound, ?_⟩
    simp only [TaskEventRow.retries, Bool.and_eq_true, decide_eq_true_eq] at hretries
    rw [htype, hretries.1.1]
  · obtain ⟨events, tasks, audits, hevents, -, -, hdb⟩ := hfresh.effect
    refine ⟨taskEventRow event (cfg.identity a.requestID) task parsed, ?_, htype⟩
    rw [findTaskEvent_eq_some]
    refine ⟨?_, rfl⟩
    rw [hdb]
    show events.lookup event.eventID = _
    rw [Table.lookup_insert hevents]
    exact if_pos rfl

theorem stored_of_appends (h : w.appends cfg reg a event = true) :
    Stored (w.perform reg (.append a.reach (appendCall cfg a event) event)).db event.eventID := by
  obtain ⟨row, hrow, -⟩ := row_of_appends h
  exact ⟨row, (findTaskEvent_eq_some.mp hrow).1⟩

theorem settled_of_appends (h : w.appends cfg reg a event = true) (hterminal : IsTerminal event) :
    Settled (w.perform reg (.append a.reach (appendCall cfg a event) event)).db event.taskID := by
  obtain ⟨row, hrow, htype⟩ := row_of_appends h
  obtain ⟨hlook, hid⟩ := findTaskEvent_eq_some.mp hrow
  refine ⟨row, mem_eventsOf.mpr ⟨Table.mem_of_lookup hlook, hid⟩, ?_⟩
  rcases hterminal with heq | heq
  · rw [heq] at htype
    have hkind : row.eventType = .finished := (Option.some.inj htype).symm
    rw [hkind]
    rfl
  · rw [heq] at htype
    have hkind : row.eventType = .failed := (Option.some.inj htype).symm
    rw [hkind]
    rfl

/-! ## Section 2: The outbox -/

/-- A terminal event of the task waits in the outbox. -/
def PendingTerminal (c : Cache) (taskID : String) : Prop :=
  ∃ e ∈ c.pendingOutbox, e.taskID = taskID ∧ IsTerminal e

theorem pendingTerminal_iff {c : Cache} {taskID : String} : PendingTerminal c taskID ↔
    ∃ eventID e, c.eventOutbox.lookup eventID = some ⟨e, false⟩ ∧ e.taskID = taskID ∧
      IsTerminal e := by
  constructor
  · intro h
    obtain ⟨e, he, hterminal⟩ := h
    obtain ⟨eventID, hlook⟩ := Cache.mem_pendingOutbox.mp he
    exact ⟨eventID, e, hlook, hterminal⟩
  · intro h
    obtain ⟨eventID, e, hlook, hterminal⟩ := h
    exact ⟨e, Cache.mem_pendingOutbox.mpr ⟨eventID, hlook⟩, hterminal⟩

/-- What an action writes to the outbox is new there. -/
def Act.PutsFresh (c : Cache) : Act → Prop
  | .putOutbox _ event => c.eventOutbox.lookup event.eventID = Option.none
  | _ => True

theorem fresh_outbox (h : w.fresh eventID = true) :
    w.cache.eventOutbox.lookup eventID = none := by
  simp only [World.fresh, Bool.and_eq_true, Option.isNone_iff_eq_none] at h
  exact h.1.1

variable {r : EventOutboxRecord}

/-- A record of the outbox stays as it is until it is accepted. -/
theorem lookup_outbox_perform (hfresh : act.PutsFresh w.cache)
    (h : w.cache.eventOutbox.lookup eventID = some r)
    (hne : ∀ written, act ≠ .acceptOutbox written eventID) :
    (w.perform reg act).cache.eventOutbox.lookup eventID = some r := by
  cases act with
  | putOutbox written event =>
    simp only [World.perform]
    split
    · rw [Cache.lookup_putOutbox, if_neg]
      · exact h
      · intro hid
        rw [← hid, show w.cache.eventOutbox.lookup event.eventID = none from hfresh] at h
        cases h
    · exact h
  | acceptOutbox written id =>
    simp only [World.perform]
    split
    · rw [Cache.lookup_acceptOutbox, if_neg]
      · exact h
      · intro hid
        exact hne written (by rw [hid])
    · exact h
  | _ =>
    rw [perform_eventOutbox (by simp) (by simp)]
    exact h

/-- The event of a record never changes. -/
theorem event_outbox_perform (hfresh : act.PutsFresh w.cache)
    (h : w.cache.eventOutbox.lookup eventID = some r) :
    ∃ r', (w.perform reg act).cache.eventOutbox.lookup eventID = some r' ∧ r'.event = r.event := by
  by_cases haccept : ∃ written, act = .acceptOutbox written eventID
  · obtain ⟨written, rfl⟩ := haccept
    simp only [World.perform]
    split
    · rw [Cache.lookup_acceptOutbox, if_pos rfl, h]
      exact ⟨_, rfl, rfl⟩
    · exact ⟨r, h, rfl⟩
  · exact ⟨r, lookup_outbox_perform hfresh h (fun written heq => haccept ⟨written, heq⟩), rfl⟩

/-- A pending terminal event goes out of the outbox by being accepted only. -/
theorem PendingTerminal.perform {taskID : String} (h : PendingTerminal w.cache taskID)
    (hfresh : act.PutsFresh w.cache) :
    PendingTerminal (w.perform reg act).cache taskID ∨
      ∃ written eventID r, act = .acceptOutbox written eventID ∧
        w.cache.eventOutbox.lookup eventID = some r ∧ r.event.taskID = taskID ∧
        IsTerminal r.event := by
  obtain ⟨eventID, e, hlook, hid, hterminal⟩ := pendingTerminal_iff.mp h
  by_cases haccept : ∃ written, act = .acceptOutbox written eventID
  · obtain ⟨written, rfl⟩ := haccept
    exact .inr ⟨written, eventID, _, rfl, hlook, hid, hterminal⟩
  · left
    rw [pendingTerminal_iff]
    exact ⟨eventID, e,
      lookup_outbox_perform hfresh hlook (fun written heq => haccept ⟨written, heq⟩), hid, hterminal⟩

/-! ## Section 3: Pod references -/

/-- A name and a UID that read back as a Pod reference. -/
structure ValidPod (name uid : String) : Prop where
  name : name.toList.takeWhile (· ≠ '@') ≠ []
  uid : uid ≠ ""

/-- Behind the first `@` of a name and a UID there is something left. -/
theorem dropWhile_ne_at (name : List Char) {uid : List Char} (huid : uid ≠ []) :
    ∃ rest, (name ++ '@' :: uid).dropWhile (fun c => decide (c ≠ '@')) = '@' :: rest ∧
      rest ≠ [] := by
  induction name with
  | nil => exact ⟨uid, rfl, huid⟩
  | cons c name ih =>
    by_cases hc : c = '@'
    · subst hc
      exact ⟨name ++ '@' :: uid, rfl, by simp⟩
    · obtain ⟨rest, hrest, hne⟩ := ih
      refine ⟨rest, ?_, hne⟩
      rw [List.cons_append, List.dropWhile_cons_of_pos (by simpa using hc)]
      exact hrest

theorem takeWhile_append_ne_nil {p : Char → Bool} {l : List Char} (h : l.takeWhile p ≠ [])
    (l' : List Char) : (l ++ l').takeWhile p ≠ [] := by
  cases l with
  | nil => exact absurd rfl h
  | cons c l =>
    by_cases hc : p c = true
    · rw [List.cons_append, List.takeWhile_cons_of_pos hc]
      simp
    · rw [List.takeWhile_cons_of_neg hc] at h
      exact absurd rfl h

theorem podReference_isSome {name : String} (h : ValidPod name uid) :
    (podReference (name ++ "@" ++ uid)).isSome = true := by
  have hlist : (name ++ "@" ++ uid).toList = name.toList ++ '@' :: uid.toList := by
    simp [String.toList_append]
  have huid : uid.toList ≠ [] := by
    intro hnil
    exact h.uid (String.toList_eq_nil_iff.mp hnil)
  obtain ⟨rest, hdrop, hne⟩ := dropWhile_ne_at name.toList huid
  unfold podReference
  rw [hlist, hdrop]
  simp only [takeWhile_append_ne_nil h.name, hne, or_self, if_false, Option.isSome_some]

theorem validPod_of_podReference {ref name : String} (h : podReference ref = some (name, uid)) :
    ValidPod name uid := by
  unfold podReference at h
  split at h
  · cases h
  · split at h
    · cases h
    · rename_i rest _ hparts
      simp only [not_or] at hparts
      injection h with h
      injection h with hname huid
      subst hname huid
      refine ⟨?_, ?_⟩
      · have hall : ∀ c ∈ ref.toList.takeWhile (fun c => decide (c ≠ '@')),
            (fun c => decide (c ≠ '@')) c = true :=
          fun c hc => List.mem_takeWhile_imp (p := fun c => decide (c ≠ '@')) hc
        rw [String.toList_ofList, List.takeWhile_eq_self_iff.mpr hall]
        exact hparts.1
      · intro hempty
        apply hparts.2
        rw [← String.toList_ofList (l := rest), hempty]
        rfl

theorem validPod_podName (taskID : String) (h : uid ≠ "") :
    ValidPod (podName taskID) uid := by
  refine ⟨?_, h⟩
  unfold podName
  rw [String.toList_append]
  exact takeWhile_append_ne_nil (by decide) _

end FlowAI.K8s
