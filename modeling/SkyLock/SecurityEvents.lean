import SkyLock.Lib.Keyset
import SkyLock.Models

/-!
# Reading the security events

`list_security_events` of `app/api/admin.py`: a page of the log from the newest event
down, and the cursor to go on from.  The handler looks one row further than the page it
returns, and treats the cursor 0 as no cursor.

## Main definitions

* `EventLog` — a log of events with distinct, positive ids.
* `listSecurityEvents` — the endpoint.
* `EventWalk` — following `next_cursor` while events are appended.

## Main results

* `EventWalk.keyset` — following the cursors is a walk by ids.
* `cursor_walk_complete` — **following the cursors ends, repeats no event and misses
  none that was there**.
-/

namespace SkyLock

/-- A row of `security_events`, as the endpoint returns it. -/
structure SecurityEvent where
  id : ℕ
  occurredAt : Time
  eventType : String
  severity : String
  actorUserId : Option UserId
  actorEmail : Option String
  ip : Option String
  path : Option String
  resourceType : Option String
  resourceId : Option String
  decision : Option String
  detail : JsonValue

/-- The committed events: their ids are distinct and positive. -/
structure EventLog where
  rows : List SecurityEvent
  ids_nodup : (rows.map SecurityEvent.id).Nodup
  ids_pos : ∀ e ∈ rows, 0 < e.id

/-- The filter of a request. -/
structure EventFilter where
  eventType : Option String
  severity : Option String
  since : Option Time

/-- The `limit` of a request. -/
structure PageLimit where
  value : ℕ
  pos : 1 ≤ value
  le : value ≤ 200

/-- The conditions of the filter that are there; an empty text is no condition. -/
def EventFilter.accepts (f : EventFilter) (e : SecurityEvent) : Bool :=
  (f.eventType.all fun t => decide (t = "" ∨ e.eventType = t)) &&
    (f.severity.all fun s => decide (s = "" ∨ e.severity = s)) &&
      f.since.all fun t => decide (t ≤ e.occurredAt)

/-- The condition a cursor makes, if it makes one. -/
def cursorBound (cursor : Option ℕ) : Option ℕ := cursor.filter fun c => decide (c ≠ 0)

/-- `CursorPage`. -/
structure CursorPage where
  items : List SecurityEvent
  nextCursor : Option ℕ
  hasMore : Bool

/-- `list_security_events`. -/
def listSecurityEvents (log : List SecurityEvent) (f : EventFilter) (cursor : Option ℕ)
    (limit : ℕ) : CursorPage :=
  let stmt := (log.filter f.accepts).filter fun e =>
    (cursorBound cursor).all fun c => decide (e.id < c)
  let rows := (stmt.insertionSort fun e e' => e'.id ≤ e.id).take (limit + 1)
  let hasMore := decide (limit < rows.length)
  { items := rows.take limit
    nextCursor := if hasMore then (rows.take limit).getLast?.map SecurityEvent.id else none
    hasMore := hasMore }

/-- The rows the pages of a request are taken from. -/
def EventFilter.pool (f : EventFilter) (log : List SecurityEvent) (cursor : Option ℕ) :
    List SecurityEvent := Keyset.under SecurityEvent.id (cursorBound cursor) (log.filter f.accepts)

/-- The items of a page are those of a page by ids. -/
theorem listSecurityEvents_items (log : List SecurityEvent) (f : EventFilter) (cursor : Option ℕ)
    (limit : ℕ) : (listSecurityEvents log f cursor limit).items =
      (Keyset.page SecurityEvent.id limit (f.pool log cursor)).1 := rfl

/-- So is its cursor. -/
theorem listSecurityEvents_nextCursor (log : List SecurityEvent) (f : EventFilter)
    (cursor : Option ℕ) (limit : ℕ) : (listSecurityEvents log f cursor limit).nextCursor =
      (Keyset.page SecurityEvent.id limit (f.pool log cursor)).2 := by
  simp [listSecurityEvents, Keyset.page, EventFilter.pool, Keyset.under, Keyset.newest]

/-! ### Following the cursors -/

/-- Following `next_cursor` from the request `i` on, which has the given cursor, until
it is null; the log is `log i` when the request `i` is served. -/
inductive EventWalk (log : ℕ → EventLog) (f : EventFilter) (limit : ℕ → PageLimit) :
    ℕ → Option ℕ → List SecurityEvent → Prop
  | last {i : ℕ} {cursor : Option ℕ} {page : CursorPage}
      (hpage : listSecurityEvents (log i).rows f cursor (limit i).1 = page)
      (h : page.nextCursor = none) : EventWalk log f limit i cursor page.items
  | more {i : ℕ} {cursor : Option ℕ} {page : CursorPage} {c : ℕ} {rest : List SecurityEvent}
      (hpage : listSecurityEvents (log i).rows f cursor (limit i).1 = page)
      (h : page.nextCursor = some c) (hrest : EventWalk log f limit (i + 1) (some c) rest) :
      EventWalk log f limit i cursor (page.items ++ rest)

section Walk

variable {log : ℕ → EventLog} {f : EventFilter} {limit : ℕ → PageLimit} {i : ℕ}
  {cursor : Option ℕ} {walked : List SecurityEvent}

theorem nodup_accepted (log : ℕ → EventLog) (f : EventFilter) (i : ℕ) :
    (((log i).rows.filter f.accepts).map SecurityEvent.id).Nodup :=
  (log i).ids_nodup.sublist (List.filter_sublist.map SecurityEvent.id)

/-- The cursor of a page is an id, and makes a condition. -/
theorem cursorBound_next {c : ℕ}
    (h : (listSecurityEvents (log i).rows f cursor (limit i).value).nextCursor = some c) :
    cursorBound (some c) = some c := by
  have hpage := (listSecurityEvents_nextCursor ..).symm.trans h
  obtain ⟨⟨e, he, rfl⟩, -⟩ := Keyset.page_next
    (Keyset.Walk.nodup_under (nodup_accepted log f) i (cursorBound cursor)) hpage
  have hlog := (Keyset.mem_under.mp (Keyset.page_subset he)).1
  have hpos := (log i).ids_pos e (List.mem_of_mem_filter hlog)
  simp [cursorBound, hpos.ne']

/-- Following the cursors is a walk by ids. -/
theorem EventWalk.keyset (h : EventWalk log f limit i cursor walked) :
    Keyset.Walk SecurityEvent.id (fun i => (log i).rows.filter f.accepts)
      (fun i => (limit i).value) i (cursorBound cursor) walked := by
  induction h with
  | @last i cursor page hpage h =>
    subst hpage
    rw [listSecurityEvents_nextCursor] at h
    exact .last h
  | @more i cursor page c rest hpage h hrest ih =>
    subst hpage
    rw [cursorBound_next h] at ih
    rw [listSecurityEvents_nextCursor] at h
    exact .more h ih

/-- A walk by ids is a way to follow the cursors. -/
theorem EventWalk.of_keyset {bound : Option ℕ} (h : Keyset.Walk SecurityEvent.id
      (fun i => (log i).rows.filter f.accepts) (fun i => (limit i).value) i bound walked)
    (hbound : cursorBound cursor = bound) : EventWalk log f limit i cursor walked := by
  induction h generalizing cursor with
  | @last i bound h =>
    subst hbound
    exact .last rfl ((listSecurityEvents_nextCursor ..).trans h)
  | @more i bound c rest h hrest ih =>
    subst hbound
    have hnext := (listSecurityEvents_nextCursor (log i).rows f cursor (limit i).value).trans h
    exact .more rfl hnext (ih (cursorBound_next hnext))

end Walk

/-- **Following the cursors is complete.**  However events are appended between two
requests, and whatever the limits, following `next_cursor` from the first page ends, in
one way; it returns ids in strictly decreasing order, and so no event twice; and it
returns every event the filter accepts that was committed when it started, and only
events the filter accepts. -/
theorem cursor_walk_complete (log : ℕ → EventLog) (f : EventFilter) (limit : ℕ → PageLimit)
    (hgrow : ∀ i, (log i).rows ⊆ (log (i + 1)).rows) :
    ∃ walked, EventWalk log f limit 0 none walked ∧
      (∀ walked', EventWalk log f limit 0 none walked' → walked' = walked) ∧
      (walked.map SecurityEvent.id).Pairwise (· > ·) ∧ walked.Nodup ∧
      (∀ e ∈ (log 0).rows, f.accepts e = true → e ∈ walked) ∧
      ∀ e ∈ walked, f.accepts e = true ∧ ∃ i, e ∈ (log i).rows := by
  have hnd := nodup_accepted log f
  obtain ⟨walked, hwalk⟩ : ∃ walked, Keyset.Walk SecurityEvent.id
      (fun i => (log i).rows.filter f.accepts) (fun i => (limit i).value) 0 none walked :=
    Keyset.Walk.exists_walk hnd 0 none
  have hsorted := hwalk.sorted hnd
  refine ⟨walked, .of_keyset hwalk rfl, fun walked' h' => h'.keyset.unique hwalk, ?_, ?_, ?_, ?_⟩
  · exact List.pairwise_map.mpr hsorted
  · refine hsorted.imp fun {e e'} hlt heq => ?_
    rw [heq] at hlt
    exact lt_irrefl _ hlt
  · intro e he haccepts
    exact hwalk.complete hnd (fun i => (limit i).pos)
      (fun i e he => by
        rw [List.mem_filter] at he ⊢
        exact ⟨hgrow i he.1, he.2⟩)
      (List.mem_filter.mpr ⟨he, haccepts⟩) fun c hc => absurd hc (by simp)
  · intro e he
    obtain ⟨⟨i, -, hmem⟩, -⟩ := hwalk.sound hnd he
    rw [List.mem_filter] at hmem
    exact ⟨hmem.2, i, hmem.1⟩

/-- A failed login, as `record_event` writes it. -/
def failedLogin (id : ℕ) (now : Time) : SecurityEvent where
  id := id
  occurredAt := now
  eventType := "AUTH_LOGIN_FAILED"
  severity := "medium"
  actorUserId := none
  actorEmail := some "mallory@example.com"
  ip := some "203.0.113.7"
  path := some "/api/v1/auth/login"
  resourceType := none
  resourceId := none
  decision := none
  detail := .obj []

/-- Three events; the event 3 commits after the first page, and so does a new event 5. -/
def lateCommit (i : ℕ) : EventLog where
  rows := match i with
    | 0 => [failedLogin 1 10, failedLogin 2 20, failedLogin 4 40]
    | _ + 1 => [failedLogin 1 10, failedLogin 2 20, failedLogin 4 40, failedLogin 3 30,
        failedLogin 5 50]
  ids_nodup := by
    cases i with
    | zero => decide
    | succ i => simp [failedLogin]
  ids_pos := by
    cases i with
    | zero => simp [failedLogin]
    | succ i => simp [failedLogin]

/-- A request for the medium events from the instant 15 on. -/
def mediumSince : EventFilter := ⟨none, some "medium", some 15⟩

/-- Pages of one row. -/
def oneRow (_ : ℕ) : PageLimit := ⟨1, le_rfl, by decide⟩

theorem lateCommit_walk : EventWalk lateCommit mediumSince oneRow 0 none
    [failedLogin 4 40, failedLogin 3 30, failedLogin 2 20] := by
  have hfirst : listSecurityEvents (lateCommit 0).rows mediumSince none 1 =
      ⟨[failedLogin 4 40], some 4, true⟩ := by rfl
  have hsecond : listSecurityEvents (lateCommit 1).rows mediumSince (some 4) 1 =
      ⟨[failedLogin 3 30], some 3, true⟩ := by rfl
  have hthird : listSecurityEvents (lateCommit 2).rows mediumSince (some 3) 1 =
      ⟨[failedLogin 2 20], none, false⟩ := by rfl
  have hlast : EventWalk lateCommit mediumSince oneRow 2 (some 3)
      (CursorPage.mk [failedLogin 2 20] none false).items := .last hthird rfl
  exact .more hfirst rfl (.more hsecond rfl hlast)

/-- The first page is the event 4, and the walk goes on to 3 and to 2. -/
theorem cursor_walk_complete_late :
    ∃ walked, walked.map SecurityEvent.id = [4, 3, 2] ∧
      EventWalk lateCommit mediumSince oneRow 0 none walked ∧
      (∀ walked', EventWalk lateCommit mediumSince oneRow 0 none walked' → walked' = walked) ∧
      (walked.map SecurityEvent.id).Pairwise (· > ·) ∧ walked.Nodup ∧
      (∀ e ∈ (lateCommit 0).rows, mediumSince.accepts e = true → e ∈ walked) ∧
      ∀ e ∈ walked, mediumSince.accepts e = true ∧ ∃ i, e ∈ (lateCommit i).rows := by
  have hgrow : ∀ i, (lateCommit i).rows ⊆ (lateCommit (i + 1)).rows := fun i => by
    cases i with
    | zero => exact fun e he => by simp [lateCommit] at he ⊢; tauto
    | succ i => exact fun e he => he
  obtain ⟨walked, hwalk, hunique, hrest⟩ :=
    cursor_walk_complete lateCommit mediumSince oneRow hgrow
  refine ⟨walked, ?_, hwalk, hunique, hrest⟩
  rw [← hunique _ lateCommit_walk]
  rfl

end SkyLock
