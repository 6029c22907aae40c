import SkyLock.Lib.ChangeLog
import SkyLock.StateJournal

/-!
# Overlapping updates of passenger names

`update_booking` of `app/api/bookings.py` statement by statement, for any number
of requests at once.  A request loads the booking and its passengers without a
lock, reads the next audit number, and then flushes the names it has changed and
the audit row, and commits.  The unique index on `(booking_id, seq)` rejects the
row if its number has been taken meanwhile; nothing checks that the passengers
still are as they were loaded, so a request that loads them before another one
commits, and reads its number after, journals names that never were there.

The flush takes the row locks of the passengers and holds them until the commit,
so it is one step with it.

## Main definitions

* `PatchRequest`, `PatchPc`, `stepPatch`, `patches` — the requests.
* `BookingAudit.changes`, `Db.nameLog` — the changes a booking's trail lists.
* `Db.names`, `Db.NamesJournalled` — the names, and when the trail accounts for them.
* `Confined` — nothing but names of named passengers has changed.
* `UpToDate` — the passengers a request changes are as it loaded them.

## Main results

* `exec_patch` — a request alone does what `updateBooking` says.
* `amending_run` — **updates are confined**, whatever overlaps.
* `amendments_journalled` — **and journalled, where they commit up to date**.
* `amendment_of_stale_names` — two that overlap are not.
-/

namespace SkyLock

open Concurrent Journal ChangeLog

/-! ### The requests -/

/-- A `PATCH /bookings/{booking_ref}` request. -/
structure PatchRequest where
  userId : UserId
  ref : String
  payload : BookingPatch

/-- Where a request is: at the SELECT of the booking, at that of its passengers, at
that of the audit number, at its flush and commit, or done. -/
inductive PatchPc where
  | load
  | loadPassengers (b : BookingId) (state : BookingState)
  | number (b : BookingId) (state : BookingState) (loaded : List BookingPassenger)
  | commit (b : BookingId) (state : BookingState) (loaded : List BookingPassenger) (seq : ℕ)
  | done (failure : Option Failure)

/-- What a flush of a passenger instance leaves of its row. -/
def BookingPassenger.merge (loaded current stored : BookingPassenger) : BookingPassenger :=
  { stored with
    givenName := Orm.writeBack loaded.givenName current.givenName stored.givenName
    familyName := Orm.writeBack loaded.familyName current.familyName stored.familyName }

/-- The row of a passenger after the flush of a session. -/
def flushedPassenger (loaded current : List BookingPassenger) (q : BookingPassenger) :
    BookingPassenger :=
  match loaded.find? fun l => l.id = q.id, current.find? fun c => c.id = q.id with
  | some l, some c => BookingPassenger.merge l c q
  | _, _ => q

/-- The unique index on `(booking_id, seq)` has the number. -/
def seqUsed (db : Db) (b : BookingId) (seq : ℕ) : Bool :=
  db.audit.any fun a => decide (a.bookingId = b ∧ a.seq = seq)

/-- The audit row of an update. -/
def updatedRow (r : PatchRequest) (b : BookingId) (state : BookingState) (seq : ℕ)
    (changes : List JsonValue) : BookingAudit where
  bookingId := b
  seq := seq
  eventType := .passengerUpdated
  actorType := "user"
  actorId := some r.userId
  fromState := some state
  toState := some state
  detail := .obj [("changes", .arr changes)]

/-- The database after an update of the passengers loaded as `loaded`. -/
def patchedDb (db : Db) (r : PatchRequest) (b : BookingId) (state : BookingState)
    (loaded : List BookingPassenger) (seq : ℕ) : Db :=
  let amended := amendPassengers b r.payload.passengers loaded
  { db with
    passengers := db.passengers.map (flushedPassenger loaded amended.1)
    audit := updatedRow r b state seq amended.2 :: db.audit }

/-- One step of a request. -/
def stepPatch (db : Db) (r : PatchRequest) : PatchPc → Option (Db × PatchPc)
  | .load =>
    match ownedBooking db r.ref r.userId with
    | none => some (db, .done (some (.app (.notFound "No such booking"))))
    | some (b, row) => some (db, .loadPassengers b row.state)
  | .loadPassengers b state =>
    match requireState state [.confirmed, .ticketed] with
    | some e => some (db, .done (some (.app e)))
    | none =>
      -- without a change nothing is dirty, and the commit writes nothing
      if (amendPassengers b r.payload.passengers (db.passengersOf b)).2.isEmpty then
        some (db, .done none)
      else some (db, .number b state (db.passengersOf b))
  | .number b state loaded => some (db, .commit b state loaded (db.nextSeq b))
  | .commit b state loaded seq =>
    if seqUsed db b seq then some (db, .done (some (.integrityError .auditSeq)))
    else some (patchedDb db r b state loaded seq, .done none)
  | .done _ => none

/-- The local state of a process. -/
inductive PatchProc where
  | idle
  | patch (r : PatchRequest) (pc : PatchPc)

/-- What a process does next. -/
inductive PatchInput where
  | arrive (r : PatchRequest)
  | go

/-- Any number of updates at once. -/
def patches : System Db PatchProc PatchInput where
  step db _ P a :=
    match P, a with
    | .idle, .arrive r => some (db, .patch r .load)
    | .patch r pc, .go => (stepPatch db r pc).map fun o => (o.1, .patch r o.2)
    | _, _ => none

/-- A database, and no update under way. -/
def patchStart (db : Db) : World Db PatchProc := ⟨db, fun _ => .idle⟩

/-! ### What the trail says of the names -/

/-- The names in an object of a change. -/
def readNames : JsonValue → Option (String × String)
  | .obj fields =>
    match fields.lookup "given_name", fields.lookup "family_name" with
    | some (.str given), some (.str family) => some (given, family)
    | _, _ => none
  | _ => none

/-- One entry of the `changes` of an audit row. -/
def readChange : JsonValue → Option (Change String (Option (String × String)))
  | .obj fields =>
    match fields.lookup "passenger_id", fields.lookup "before", fields.lookup "after" with
    | some (.str id), some before, some after => some ⟨id, readNames before, readNames after⟩
    | _, _, _ => none
  | _ => none

/-- The changes a `PASSENGER_UPDATED` row lists. -/
def BookingAudit.changes (a : BookingAudit) : List (Change String (Option (String × String))) :=
  match a.eventType, a.detail with
  | .passengerUpdated, .obj fields =>
    match fields.lookup "changes" with
    | some (.arr changes) => changes.filterMap readChange
    | _ => []
  | _, _ => []

/-- The changes of a booking's trail, in `seq` order. -/
def Db.nameLog (db : Db) (b : BookingId) : List (Change String (Option (String × String))) :=
  (bookingAudit.inOrder b db.audit).flatMap BookingAudit.changes

/-- The two names of a passenger. -/
def BookingPassenger.nameTexts (q : BookingPassenger) : String × String :=
  (q.givenName, q.familyName)

/-- The names in a list of rows, by the text of the passenger's id. -/
def nameTable (rows : List BookingPassenger) (id : String) : Option (String × String) :=
  (rows.find? fun q => uuidText q.id = id).map BookingPassenger.nameTexts

/-- The names of a booking's passengers. -/
def Db.names (db : Db) (b : BookingId) : String → Option (String × String) :=
  nameTable (db.passengersOf b)

/-- The trail of a booking accounts for the names: every `before` is what the
changes before it left, and the last change of a passenger left its names. -/
structure Db.NamesJournalled (db : Db) (b : BookingId)
    (original : String → Option (String × String)) : Prop where
  faithful : Faithful original (db.nameLog b)
  current : replay original (db.nameLog b) = db.names b

/-! ### Tables of names -/

section Names

variable {b : BookingId} {rows : List BookingPassenger} {q : BookingPassenger} {k : PassengerId}

theorem nameTable_uuidText (rows : List BookingPassenger) (k : PassengerId) :
    nameTable rows (uuidText k) =
      (rows.find? fun q => q.id = k).map BookingPassenger.nameTexts := by
  unfold nameTable
  simp only [uuidText_injective.eq_iff]

theorem find?_passenger (hids : (rows.map BookingPassenger.id).Nodup) (hq : q ∈ rows) :
    (rows.find? fun r => r.id = q.id) = some q := by
  induction rows with
  | nil => simp at hq
  | cons r rows ih =>
    rw [List.map_cons, List.nodup_cons] at hids
    rcases List.mem_cons.mp hq with rfl | hq
    · simp
    · have hne : r.id ≠ q.id := fun h => hids.1 (h ▸ List.mem_map_of_mem hq)
      simpa [hne] using ih hids.2 hq

theorem nameTable_of_mem (hids : (rows.map BookingPassenger.id).Nodup) (hq : q ∈ rows) :
    nameTable rows (uuidText q.id) = some q.nameTexts := by
  rw [nameTable_uuidText, find?_passenger hids hq]
  rfl

/-- An UPDATE that keeps the ids changes the names row by row. -/
theorem nameTable_map {f : BookingPassenger → BookingPassenger} (hf : ∀ q, (f q).id = q.id)
    (rows : List BookingPassenger) (id : String) :
    nameTable (rows.map f) id =
      ((rows.find? fun q => uuidText q.id = id).map f).map BookingPassenger.nameTexts := by
  have hsel : ((fun q : BookingPassenger => decide (uuidText q.id = id)) ∘ f) =
      fun q : BookingPassenger => decide (uuidText q.id = id) := by
    funext q
    simp [hf q]
  rw [nameTable, List.find?_map, hsel]

/-- The assignment of one update shows in one entry. -/
theorem nameTable_assign (hids : (rows.map BookingPassenger.id).Nodup) (hq : q ∈ rows)
    (u : PassengerUpdate) :
    nameTable (rows.map fun r => if r.id = q.id then u.applyTo r else r) =
      Function.update (nameTable rows) (uuidText q.id) (some (u.applyTo q).nameTexts) := by
  have hkeep : ∀ r : BookingPassenger,
      (if r.id = q.id then u.applyTo r else r).id = r.id := by
    intro r
    split <;> rfl
  funext id
  rw [nameTable_map hkeep]
  by_cases hid : id = uuidText q.id
  · have hfind : (rows.find? fun r => uuidText r.id = id) = some q := by
      rw [hid]
      simp only [uuidText_injective.eq_iff]
      exact find?_passenger hids hq
    rw [hfind, hid, Function.update_self, Option.map_some, if_pos rfl, Option.map_some]
  · rw [Function.update_of_ne hid, nameTable]
    cases hfind : rows.find? fun r => uuidText r.id = id with
    | none => rfl
    | some r =>
      have hr : uuidText r.id = id := by simpa using List.find?_some hfind
      have hne : r.id ≠ q.id := fun h => hid (by rw [← hr, h])
      rw [Option.map_some, if_neg hne]

theorem nodup_assigned (hids : (rows.map BookingPassenger.id).Nodup) (q : BookingPassenger)
    (u : PassengerUpdate) :
    ((rows.map fun r => if r.id = q.id then u.applyTo r else r).map BookingPassenger.id).Nodup := by
  rw [List.map_map]
  convert hids using 2
  funext r
  simp only [Function.comp_apply]
  split <;> rfl

/-- **What an update lists is what it does to the instances it loaded.** -/
theorem amendPassengers_log (us : List PassengerUpdate)
    (hids : (rows.map BookingPassenger.id).Nodup) :
    Faithful (nameTable rows) ((amendPassengers b us rows).2.filterMap readChange) ∧
      replay (nameTable rows) ((amendPassengers b us rows).2.filterMap readChange) =
        nameTable (amendPassengers b us rows).1 ∧
      ∀ c ∈ (amendPassengers b us rows).2.filterMap readChange,
        ∃ u ∈ us, ∃ q ∈ rows, q.id = u.passengerId ∧ c.key = uuidText q.id := by
  induction us generalizing rows with
  | nil => exact ⟨trivial, rfl, by simp [amendPassengers]⟩
  | cons u us ih =>
    rw [amendPassengers]
    split
    · obtain ⟨hfaithful, hreplay, hkeys⟩ := ih hids
      refine ⟨hfaithful, hreplay, fun c hc => ?_⟩
      obtain ⟨u', hu', q, hq, hid, hkey⟩ := hkeys c hc
      exact ⟨u', List.mem_cons_of_mem u hu', q, hq, hid, hkey⟩
    · next q hfind =>
      have hq := List.mem_of_find?_eq_some hfind
      have hnamed := List.find?_some hfind
      simp only [Bool.and_eq_true, decide_eq_true_eq] at hnamed
      obtain ⟨hfaithful, hreplay, hkeys⟩ := ih (nodup_assigned hids q u)
      have hread : readChange (.obj [("passenger_id", .str (uuidText q.id)), ("before", q.names),
          ("after", (u.applyTo q).names)]) =
            some ⟨uuidText q.id, some q.nameTexts, some (u.applyTo q).nameTexts⟩ := rfl
      rw [nameTable_assign hids hq] at hfaithful hreplay
      dsimp only
      rw [List.filterMap_cons_some hread]
      refine ⟨⟨nameTable_of_mem hids hq, hfaithful⟩, hreplay, fun c hc => ?_⟩
      rcases List.mem_cons.mp hc with rfl | hc
      · exact ⟨u, List.mem_cons_self, q, hq, hnamed.2, rfl⟩
      · obtain ⟨u', hu', q', hq', hid, hkey⟩ := hkeys c hc
        obtain ⟨q₀, hq₀, rfl⟩ := List.mem_map.mp hq'
        have hsame : (if q₀.id = q.id then u.applyTo q₀ else q₀).id = q₀.id := by
          split <;> rfl
        rw [hsame] at hid hkey
        exact ⟨u', List.mem_cons_of_mem u hu', q₀, hq₀, hid, hkey⟩

/-! ### The flush -/

theorem flushedPassenger_place (loaded current : List BookingPassenger) (q : BookingPassenger) :
    (flushedPassenger loaded current q).place = q.place := by
  unfold flushedPassenger
  split <;> rfl

theorem flushedPassenger_id (loaded current : List BookingPassenger) (q : BookingPassenger) :
    (flushedPassenger loaded current q).id = q.id :=
  congrArg Prod.fst (flushedPassenger_place loaded current q)

/-- The flush of a booking's passengers is the flush of each. -/
theorem passengersOf_patchedDb (db : Db) (r : PatchRequest) (state : BookingState)
    (loaded : List BookingPassenger) (seq : ℕ) (b' : BookingId) :
    (patchedDb db r b state loaded seq).passengersOf b' =
      (db.passengersOf b').map
        (flushedPassenger loaded (amendPassengers b r.payload.passengers loaded).1) := by
  unfold Db.passengersOf patchedDb
  rw [List.filter_map]
  congr 1
  refine List.filter_congr fun q _ => ?_
  have hplace := flushedPassenger_place loaded (amendPassengers b r.payload.passengers loaded).1 q
  have hbooking := congrArg (fun place => place.2.1) hplace
  simp only [BookingPassenger.place] at hbooking
  simp [hbooking]

/-- Rows in the same places have the same ids. -/
theorem find?_isSome_of_place {rows' : List BookingPassenger}
    (h : rows'.map BookingPassenger.place = rows.map BookingPassenger.place)
    (hq : q ∈ rows) : ∃ q', rows'.find? (fun r => r.id = q.id) = some q' := by
  obtain ⟨q', hq', hid, -⟩ := exists_of_place h.symm hq
  have hsome : (rows'.find? fun r => r.id = q.id).isSome := by
    rw [List.find?_isSome]
    exact ⟨q', hq', by simp [hid]⟩
  exact Option.isSome_iff_exists.mp hsome

/-- An entry is in the table of names of rows exactly when it is in that of rows in
the same places. -/
theorem nameTable_eq_none_of_place {rows' : List BookingPassenger}
    (h : rows'.map BookingPassenger.place = rows.map BookingPassenger.place) {id : String}
    (hnone : (rows.find? fun q => uuidText q.id = id) = none) : nameTable rows' id = none := by
  rw [nameTable, Option.map_eq_none_iff, List.find?_eq_none]
  intro q' hq'
  obtain ⟨q, hq, hid, -⟩ := exists_of_place h hq'
  have hne := List.find?_eq_none.mp hnone q hq
  rwa [hid] at hne

/-- An instance the log does not change is clean, so the flush leaves its row. -/
theorem flushedPassenger_of_unnamed {loaded current : List BookingPassenger}
    {log : List (Change String (Option (String × String)))}
    (hlog : replay (nameTable loaded) log = nameTable current)
    (hnone : ∀ d ∈ log, d.key ≠ uuidText q.id) : flushedPassenger loaded current q = q := by
  unfold flushedPassenger
  split
  · next l c hl hc =>
    have hend := congrFun hlog (uuidText q.id)
    rw [replay_of_notMem hnone, nameTable_uuidText, nameTable_uuidText, hl, hc] at hend
    have hclean : l.nameTexts = c.nameTexts := Option.some.inj hend
    simp only [BookingPassenger.nameTexts, Prod.mk.injEq] at hclean
    simp [BookingPassenger.merge, hclean.1, hclean.2]
  · rfl

/-- **A flush over names that are as they were loaded does what it lists.** -/
theorem names_flushed {loaded current : List BookingPassenger}
    {log : List (Change String (Option (String × String)))}
    (hids : (rows.map BookingPassenger.id).Nodup)
    (hloaded : loaded.map BookingPassenger.place = rows.map BookingPassenger.place)
    (hcurrent : current.map BookingPassenger.place = loaded.map BookingPassenger.place)
    (hlog : replay (nameTable loaded) log = nameTable current)
    (hfresh : ∀ c ∈ log, nameTable rows c.key = nameTable loaded c.key) :
    nameTable (rows.map (flushedPassenger loaded current)) = replay (nameTable rows) log := by
  funext id
  rw [nameTable_map (flushedPassenger_id loaded current)]
  cases hfind : rows.find? fun q => uuidText q.id = id with
  | none =>
    have hsame : nameTable rows id = nameTable loaded id := by
      rw [nameTable_eq_none_of_place rfl hfind, nameTable_eq_none_of_place hloaded hfind]
    rw [replay_congr hsame, hlog, nameTable_eq_none_of_place (hcurrent.trans hloaded) hfind]
    rfl
  | some q =>
    have hq := List.mem_of_find?_eq_some hfind
    obtain rfl : uuidText q.id = id := by simpa using List.find?_some hfind
    obtain ⟨l, hl⟩ := find?_isSome_of_place hloaded hq
    obtain ⟨c, hc⟩ := find?_isSome_of_place (hcurrent.trans hloaded) hq
    have hstored : nameTable rows (uuidText q.id) = some q.nameTexts := nameTable_of_mem hids hq
    by_cases hkey : ∃ d ∈ log, d.key = uuidText q.id
    · -- a changed passenger is as it was loaded, so the flush assigns its names
      obtain ⟨d, hd, hdkey⟩ := hkey
      have hsame : nameTable rows (uuidText q.id) = nameTable loaded (uuidText q.id) :=
        hdkey ▸ hfresh d hd
      have hnames : q.nameTexts = l.nameTexts := by
        rw [hstored, nameTable_uuidText, hl] at hsame
        exact Option.some.inj hsame
      rw [replay_congr hsame, hlog, nameTable_uuidText, hc, Option.map_some, Option.map_some]
      simp only [BookingPassenger.nameTexts, Prod.mk.injEq] at hnames
      simp [flushedPassenger, hl, hc, BookingPassenger.merge, BookingPassenger.nameTexts, hnames.1,
        hnames.2]
    · have hnone : ∀ d ∈ log, d.key ≠ uuidText q.id := fun d hd h => hkey ⟨d, hd, h⟩
      rw [replay_of_notMem hnone, hstored, Option.map_some,
        flushedPassenger_of_unnamed hlog hnone, Option.map_some]

end Names

/-! ### A request alone -/

/-- An update is one of the booking's rows, names apart, and leaves the others. -/
def Amended (b : BookingId) (q q' : BookingPassenger) : Prop :=
  q' = { q with givenName := q'.givenName, familyName := q'.familyName } ∧
    (q.bookingId ≠ b → q' = q)

theorem amendPassengers_aligned (b : BookingId) (us : List PassengerUpdate)
    {rows : List BookingPassenger} (hids : (rows.map BookingPassenger.id).Nodup) :
    List.Forall₂ (Amended b) rows (amendPassengers b us rows).1 := by
  induction us generalizing rows with
  | nil => exact List.forall₂_same.mpr fun _ _ => ⟨rfl, fun _ => rfl⟩
  | cons u us ih =>
    rw [amendPassengers]
    split
    · exact ih hids
    · next q hfind =>
      have hq := List.mem_of_find?_eq_some hfind
      have hnamed := List.find?_some hfind
      simp only [Bool.and_eq_true, decide_eq_true_eq] at hnamed
      have hrest := ih (nodup_assigned hids q u)
      rw [List.forall₂_map_left_iff] at hrest
      refine List.forall₂_iff_zip.mpr ⟨hrest.length_eq, fun {r r'} hmem => ?_⟩
      obtain ⟨hcolumns, hother⟩ := List.forall₂_zip hrest hmem
      refine ⟨?_, fun hb => ?_⟩
      · rw [hcolumns]
        split <;> rfl
      · have hne : r.id ≠ q.id := by
          intro hid
          have hsame := List.inj_on_of_nodup_map hids (List.of_mem_zip hmem).1 hq hid
          exact hb (hsame ▸ hnamed.1)
        rw [if_neg hne] at hother
        exact hother hb

/-- The rows of other bookings stay as they are. -/
theorem amendPassengers_of_ne {b c : BookingId} (us : List PassengerUpdate)
    {rows : List BookingPassenger} (hids : (rows.map BookingPassenger.id).Nodup) (hc : c ≠ b) :
    ((amendPassengers b us rows).1.filter fun q => q.bookingId = c) =
      rows.filter fun q => q.bookingId = c := by
  have haligned := amendPassengers_aligned b us hids
  generalize (amendPassengers b us rows).1 = rows' at haligned
  clear hids
  induction haligned with
  | nil => rfl
  | @cons q q' rows rows' hq _ ih =>
    obtain ⟨hcolumns, hother⟩ := hq
    by_cases hqc : q.bookingId = c
    · obtain rfl := hother (hqc ▸ hc)
      simp only [List.filter_cons, ih]
    · have hqc' : q'.bookingId ≠ c := by
        rw [hcolumns]
        exact hqc
      simpa [List.filter_cons, hqc, hqc'] using ih

/-- The loop over the rows of its booking alone. -/
theorem amendPassengers_own (b : BookingId) (us : List PassengerUpdate)
    (rows : List BookingPassenger) :
    amendPassengers b us (rows.filter fun q => q.bookingId = b) =
      ((amendPassengers b us rows).1.filter fun q => q.bookingId = b,
        (amendPassengers b us rows).2) :=
  amendPassengers_filter (fun c => decide (c = b)) (decide_eq_true rfl) us rows

/-- **A flush of freshly loaded passengers writes what the loop leaves.** -/
theorem flushed_fresh (b : BookingId) (us : List PassengerUpdate) {rows : List BookingPassenger}
    (hids : (rows.map BookingPassenger.id).Nodup) :
    rows.map (flushedPassenger (rows.filter fun q => q.bookingId = b)
        (amendPassengers b us (rows.filter fun q => q.bookingId = b)).1) =
      (amendPassengers b us rows).1 := by
  have haligned := amendPassengers_aligned b us hids
  have hplace := amendPassengers_place b us rows
  rw [amendPassengers_own]
  generalize (amendPassengers b us rows).1 = rows' at haligned hplace
  have hids' : (rows'.map BookingPassenger.id).Nodup := by
    have hplaces := congrArg (List.map Prod.fst) hplace
    rw [List.map_map, List.map_map] at hplaces
    exact hplaces ▸ hids
  have hboth : List.Forall₂ (fun x y => x = y) (rows.map (flushedPassenger
      (rows.filter fun q => q.bookingId = b) (rows'.filter fun q => q.bookingId = b))) rows' := by
    rw [List.forall₂_map_left_iff]
    refine List.forall₂_iff_zip.mpr ⟨haligned.length_eq, fun {q q'} hmem => ?_⟩
    obtain ⟨hcolumns, hother⟩ := List.forall₂_zip haligned hmem
    obtain ⟨hq, hq'⟩ := List.of_mem_zip hmem
    have hid : q'.id = q.id := by rw [hcolumns]
    have hb' : q'.bookingId = q.bookingId := by rw [hcolumns]
    by_cases hb : q.bookingId = b
    · have hmem₀ : q ∈ rows.filter fun q => q.bookingId = b :=
        List.mem_filter.mpr ⟨hq, by simpa using hb⟩
      have hmem' : q' ∈ rows'.filter fun q => q.bookingId = b :=
        List.mem_filter.mpr ⟨hq', by simpa using hb'.trans hb⟩
      have hl := find?_passenger (hids.sublist (List.filter_sublist.map _)) hmem₀
      have hc := find?_passenger (hids'.sublist (List.filter_sublist.map _)) hmem'
      rw [hid] at hc
      simp only [flushedPassenger, hl, hc]
      simp only [BookingPassenger.merge, Orm.writeBack_fresh]
      exact hcolumns.symm
    · have hnone : ((rows.filter fun q => q.bookingId = b).find? fun l => l.id = q.id) = none := by
        rw [List.find?_eq_none]
        intro l hl hlq
        obtain ⟨hl, hlb⟩ := List.mem_filter.mp hl
        obtain rfl := List.inj_on_of_nodup_map hids hl hq (by simpa using hlq)
        exact hb (of_decide_eq_true hlb)
      simp only [flushedPassenger, hnone]
      exact (hother hb).symm
  exact List.forall₂_eq_eq_eq ▸ hboth

/-- Where the loop reports nothing, it has changed nothing. -/
theorem amendPassengers_of_isEmpty (b : BookingId) (us : List PassengerUpdate)
    (rows : List BookingPassenger) (h : (amendPassengers b us rows).2.isEmpty = true) :
    (amendPassengers b us rows).1 = rows := by
  induction us with
  | nil => rfl
  | cons u us ih =>
    rw [amendPassengers] at h ⊢
    split at h
    · exact ih h
    · simp at h

theorem seqUsed_nextSeq (db : Db) (b : BookingId) : seqUsed db b (db.nextSeq b) = false := by
  rw [seqUsed, List.any_eq_false]
  intro a ha
  simp only [decide_eq_true_eq, not_and]
  rintro rfl heq
  have hlt := Filing.lt_next (F := bookingAudit) (Filing.mem_numbers.mpr ⟨a, ha, rfl, heq⟩)
  exact absurd hlt (Nat.lt_irrefl _)

/-- **A request that nothing runs beside does what `updateBooking` says.** -/
theorem exec_patch {w : World Db PatchProc} {p : ℕ} {r : PatchRequest} {db' : Db}
    (hids : (w.shared.passengers.map BookingPassenger.id).Nodup)
    (hp : w.proc p = .patch r .load)
    (h : updateBooking w.shared r.userId r.ref r.payload = .ok db') :
    ∃ n, (patches.exec w (List.replicate n (p, .go))).map (fun w' => w'.shared) = some db' := by
  simp only [updateBooking] at h
  split at h
  · exact absurd h (by simp)
  · next b row howned =>
    split at h
    · exact absurd h (by simp)
    · next hstate =>
      have hfilter := amendPassengers_own b r.payload.passengers w.shared.passengers
      have hflush := flushed_fresh b r.payload.passengers hids
      have hchanges : (amendPassengers b r.payload.passengers (w.shared.passengersOf b)).2 =
          (amendPassengers b r.payload.passengers w.shared.passengers).2 :=
        by unfold Db.passengersOf; rw [hfilter]
      split at h <;> obtain rfl := Except.ok.inj h
      · next hempty =>
        have hsame : setPassengers w.shared
            (amendPassengers b r.payload.passengers w.shared.passengers).1 = w.shared := by
          rw [amendPassengers_of_isEmpty _ _ _ hempty]
          rfl
        have hnil := List.isEmpty_iff.mp hempty
        refine ⟨2, ?_⟩
        simp [System.exec, System.next, patches, hp, stepPatch, howned, hstate, hchanges, hnil,
          hsame]
      · next hsome =>
        have hpatched : patchedDb w.shared r b row.state (w.shared.passengersOf b)
            (w.shared.nextSeq b) = (setPassengers w.shared
              (amendPassengers b r.payload.passengers w.shared.passengers).1).record b
                .passengerUpdated (some r.userId) (some row.state) (some row.state)
                  [("changes", .arr (amendPassengers b r.payload.passengers
                    w.shared.passengers).2)] := by
          dsimp only [patchedDb, Db.passengersOf]
          rw [hflush, hfilter]
          rfl
        have hne : (amendPassengers b r.payload.passengers w.shared.passengers).2 ≠ [] := by
          simpa using hsome
        refine ⟨4, ?_⟩
        simp [System.exec, System.next, patches, hp, stepPatch, howned, hstate, hchanges, hne,
          seqUsed_nextSeq, hpatched]

/-! ### What holds in every run -/

/-- Of a database only the names of named passengers and the audit trail have
changed: a passenger with other names belongs to the booking of a request, under its
owner's reference, and is named in its body. -/
structure Confined (db : Db) (w : World Db PatchProc) : Prop where
  rest : w.shared = { db with passengers := w.shared.passengers, audit := w.shared.audit }
  passengers : List.Forall₂ (fun q₀ q : BookingPassenger =>
    q = { q₀ with givenName := q.givenName, familyName := q.familyName } ∧
      (q ≠ q₀ → ∃ p r pc row, w.proc p = .patch r pc ∧
        ownedBooking db r.ref r.userId = some (q.bookingId, row) ∧
          ∃ u ∈ r.payload.passengers, u.passengerId = q.id)) db.passengers w.shared.passengers

/-- What a request knows: the booking is its user's, the passengers are the booking's
rows, and the number it read was the next. -/
def PatchPc.Sound (db₀ db : Db) (r : PatchRequest) : PatchPc → Prop
  | .loadPassengers b _ => ∃ row, ownedBooking db₀ r.ref r.userId = some (b, row)
  | .number b _ loaded =>
    (∃ row, ownedBooking db₀ r.ref r.userId = some (b, row)) ∧
      loaded.map BookingPassenger.place = (db₀.passengersOf b).map BookingPassenger.place
  | .commit b _ loaded seq =>
    (∃ row, ownedBooking db₀ r.ref r.userId = some (b, row)) ∧
      loaded.map BookingPassenger.place = (db₀.passengersOf b).map BookingPassenger.place ∧
        1 ≤ seq ∧ seq ≤ db.nextSeq b
  | _ => True

/-- The same of a process. -/
def PatchProc.Sound (db₀ db : Db) : PatchProc → Prop
  | .patch r pc => pc.Sound db₀ db r
  | .idle => True

/-- What every run keeps. -/
structure Amending (db : Db) (w : World Db PatchProc) : Prop where
  confined : Confined db w
  gapFree : ∀ b, bookingAudit.GapFree b w.shared.audit
  sound : ∀ p, (w.proc p).Sound db w.shared

section Run

variable {db db' : Db} {w w' : World Db PatchProc} {p : ℕ} {a : PatchInput} {r : PatchRequest}
  {b : BookingId} {state : BookingState} {loaded : List BookingPassenger} {seq : ℕ}

theorem places_of_forall₂ {R : BookingPassenger → BookingPassenger → Prop}
    (hR : ∀ q₀ q, R q₀ q → q.place = q₀.place) {rows rows' : List BookingPassenger}
    (h : List.Forall₂ R rows rows') :
    rows'.map BookingPassenger.place = rows.map BookingPassenger.place := by
  induction h with
  | nil => rfl
  | cons hq _ ih => rw [List.map_cons, List.map_cons, hR _ _ hq, ih]

theorem Confined.places (h : Confined db w) :
    w.shared.passengers.map BookingPassenger.place = db.passengers.map BookingPassenger.place := by
  refine places_of_forall₂ (fun q₀ q hq => ?_) h.passengers
  rw [hq.1]
  rfl

/-- The passengers of a booking are where they were. -/
theorem Confined.places_of (h : Confined db w) (b : BookingId) :
    (w.shared.passengersOf b).map BookingPassenger.place =
      (db.passengersOf b).map BookingPassenger.place := by
  have hfilter : ∀ rows : List BookingPassenger,
      (rows.filter fun q => q.bookingId = b).map BookingPassenger.place =
        (rows.map BookingPassenger.place).filter fun place => place.2.1 = b := by
    intro rows
    rw [List.filter_map]
    rfl
  unfold Db.passengersOf
  rw [hfilter, hfilter, h.places]

theorem Confined.ids (h : Confined db w) (hids : (db.passengers.map BookingPassenger.id).Nodup) :
    (w.shared.passengers.map BookingPassenger.id).Nodup := by
  have hplaces := congrArg (List.map Prod.fst) h.places
  rw [List.map_map, List.map_map] at hplaces
  exact hplaces ▸ hids

theorem Confined.ownedBooking_eq (h : Confined db w) (ref : String) (u : UserId) :
    ownedBooking w.shared ref u = ownedBooking db ref u := by
  rw [h.rest]
  rfl

/-- The rows a request loaded have the ids of the booking's passengers. -/
theorem nodup_loaded (hids : (db.passengers.map BookingPassenger.id).Nodup)
    (h : loaded.map BookingPassenger.place = (db.passengersOf b).map BookingPassenger.place) :
    (loaded.map BookingPassenger.id).Nodup := by
  have hplaces := congrArg (List.map Prod.fst) h
  rw [List.map_map, List.map_map] at hplaces
  have hsub : ((db.passengersOf b).map BookingPassenger.id).Nodup :=
    hids.sublist (List.filter_sublist.map _)
  exact hplaces ▸ hsub

/-- A number that is not used, and was the next one when it was read, still is. -/
theorem eq_nextSeq (hgap : bookingAudit.GapFree b db.audit) (hpos : 1 ≤ seq)
    (hle : seq ≤ db.nextSeq b) (hfree : seqUsed db b seq = false) : seq = db.nextSeq b := by
  have hnot : seq ∉ bookingAudit.numbers b db.audit := by
    intro hmem
    obtain ⟨a, ha, hkey, hnum⟩ := Filing.mem_numbers.mp hmem
    have hused := List.any_eq_false.mp hfree a ha
    exact hused (by simpa [bookingAudit] using ⟨hkey, hnum⟩)
  rw [hgap.mem_iff, ← db.nextSeq_eq] at hnot
  omega

/-- The next number does not go back. -/
theorem nextSeq_le_cons (db : Db) (rows : List BookingPassenger) (a : BookingAudit)
    (b : BookingId) :
    db.nextSeq b ≤ ({ db with passengers := rows, audit := a :: db.audit } : Db).nextSeq b := by
  by_cases hb : a.bookingId = b
  · simp [Db.nextSeq, hb]
  · simp [Db.nextSeq, hb]

/-- What a step of a request does: it writes nothing, or commits under a free number. -/
theorem stepPatch_cases {pc pc' : PatchPc} (h : stepPatch w.shared r pc = some (db', pc'))
    (hw : Confined db w) (hs : pc.Sound db w.shared r) :
    (db' = w.shared ∧ pc'.Sound db w.shared r) ∨
      ∃ b state loaded seq, pc = .commit b state loaded seq ∧
        seqUsed w.shared b seq = false ∧ db' = patchedDb w.shared r b state loaded seq ∧
          pc' = .done none := by
  cases pc with
  | load =>
    simp only [stepPatch, hw.ownedBooking_eq] at h
    split at h <;> obtain ⟨rfl, rfl⟩ := Prod.mk.inj (Option.some.inj h)
    · exact .inl ⟨rfl, trivial⟩
    · next b row howned => exact .inl ⟨rfl, row, howned⟩
  | loadPassengers b state =>
    simp only [stepPatch] at h
    split at h
    · obtain ⟨rfl, rfl⟩ := Prod.mk.inj (Option.some.inj h)
      exact .inl ⟨rfl, trivial⟩
    · split at h <;> obtain ⟨rfl, rfl⟩ := Prod.mk.inj (Option.some.inj h)
      · exact .inl ⟨rfl, trivial⟩
      · exact .inl ⟨rfl, hs, hw.places_of b⟩
  | number b state loaded =>
    obtain ⟨rfl, rfl⟩ := Prod.mk.inj (Option.some.inj h)
    exact .inl ⟨rfl, hs.1, hs.2, Nat.succ_le_succ (Nat.zero_le _), le_rfl⟩
  | commit b state loaded seq =>
    simp only [stepPatch] at h
    split at h <;> obtain ⟨rfl, rfl⟩ := Prod.mk.inj (Option.some.inj h)
    · exact .inl ⟨rfl, trivial⟩
    · next hfree => exact .inr ⟨b, state, loaded, seq, rfl, by simpa using hfree, rfl, rfl⟩
  | done => simp [stepPatch] at h

theorem PatchProc.Sound.mono {P : PatchProc} (h : P.Sound db db')
    {db'' : Db} (hle : ∀ b, db'.nextSeq b ≤ db''.nextSeq b) : P.Sound db db'' := by
  cases P with
  | idle => trivial
  | patch r pc =>
    cases pc with
    | commit b state loaded seq =>
      obtain ⟨howned, hloaded, hpos, hseq⟩ := h
      exact ⟨howned, hloaded, hpos, hseq.trans (hle b)⟩
    | _ => exact h

/-- A row the flush changes is a named passenger of the booking. -/
theorem named_of_flushed (hids : (db.passengers.map BookingPassenger.id).Nodup)
    (hw : Confined db w)
    (hloaded : loaded.map BookingPassenger.place = (db.passengersOf b).map BookingPassenger.place)
    {q : BookingPassenger} (hq : q ∈ w.shared.passengers)
    (hne : flushedPassenger loaded (amendPassengers b r.payload.passengers loaded).1 q ≠ q) :
    q.bookingId = b ∧ ∃ u ∈ r.payload.passengers, u.passengerId = q.id := by
  obtain ⟨-, hreplay, hkeys⟩ := amendPassengers_log (b := b) r.payload.passengers
    (nodup_loaded hids hloaded)
  obtain ⟨c, hc, hkey⟩ : ∃ c ∈ (amendPassengers b r.payload.passengers loaded).2.filterMap
      readChange, c.key = uuidText q.id := by
    by_contra hnone
    exact hne (flushedPassenger_of_unnamed hreplay fun d hd h => hnone ⟨d, hd, h⟩)
  obtain ⟨u, hu, l, hl, hlu, hlkey⟩ := hkeys c hc
  have hid : l.id = q.id := uuidText_injective (hlkey.symm.trans hkey)
  -- the instance stands for the one row with its id
  obtain ⟨q', hq', hid', hb', -⟩ := exists_of_place (hloaded.trans (hw.places_of b).symm) hl
  obtain ⟨hq', hqb'⟩ := Db.mem_passengersOf.mp hq'
  obtain rfl : q' = q := List.inj_on_of_nodup_map (hw.ids hids) hq' hq (hid'.trans hid)
  exact ⟨hqb', u, hu, hlu.symm.trans hid⟩

/-- A commit is confined to what its request names. -/
theorem Confined.commit (hids : (db.passengers.map BookingPassenger.id).Nodup)
    (hw : Confined db w) (hp : w.proc p = .patch r (.commit b state loaded seq))
    (hs : (PatchPc.commit b state loaded seq).Sound db w.shared r) :
    Confined db ⟨patchedDb w.shared r b state loaded seq,
      Function.update w.proc p (.patch r (.done none))⟩ := by
  obtain ⟨⟨row, howned⟩, hloaded, -, -⟩ := hs
  have hkept : ∀ p₁ r₁ pc₁, w.proc p₁ = .patch r₁ pc₁ →
      ∃ pc', Function.update w.proc p (.patch r (.done none)) p₁ = .patch r₁ pc' := by
    intro p₁ r₁ pc₁ h₁
    rcases eq_or_ne p₁ p with rfl | hne
    · rw [hp] at h₁
      obtain ⟨rfl, -⟩ := PatchProc.patch.inj h₁
      exact ⟨_, Function.update_self ..⟩
    · exact ⟨pc₁, by rw [Function.update_of_ne hne, h₁]⟩
  refine ⟨?_, ?_⟩
  · dsimp only [patchedDb]
    rw [hw.rest]
  · dsimp only [patchedDb]
    rw [List.forall₂_map_right_iff]
    refine List.forall₂_iff_zip.mpr ⟨hw.passengers.length_eq, fun {q₀ q} hmem => ?_⟩
    obtain ⟨hcolumns, hnamed⟩ := List.forall₂_zip hw.passengers hmem
    have hq := (List.of_mem_zip hmem).2
    have hplace := flushedPassenger_place loaded
      (amendPassengers b r.payload.passengers loaded).1 q
    simp only [BookingPassenger.place, Prod.mk.injEq] at hplace
    refine ⟨?_, fun hne => ?_⟩
    -- a flush writes the two names and nothing else
    · have hmerge : ∀ l c : BookingPassenger, BookingPassenger.merge l c q =
          { q₀ with
            givenName := (BookingPassenger.merge l c q).givenName
            familyName := (BookingPassenger.merge l c q).familyName } := by
        intro l c
        conv_lhs => rw [hcolumns]
        rfl
      unfold flushedPassenger
      split
      · exact hmerge _ _
      · exact hcolumns
    · by_cases hflushed :
          flushedPassenger loaded (amendPassengers b r.payload.passengers loaded).1 q = q
      · rw [hflushed] at hne ⊢
        obtain ⟨p₁, r₁, pc₁, row₁, hp₁, howned₁, hu⟩ := hnamed hne
        obtain ⟨pc', hpc'⟩ := hkept p₁ r₁ pc₁ hp₁
        exact ⟨p₁, r₁, pc', row₁, hpc', howned₁, hu⟩
      -- the row was flushed, so this request names it
      · obtain ⟨hb, u, hu, hid⟩ := named_of_flushed hids hw hloaded hq hflushed
        obtain ⟨pc', hpc'⟩ := hkept p r _ hp
        refine ⟨p, r, pc', row, hpc', ?_, u, hu, hid.trans hplace.1.symm⟩
        rw [hplace.2.1, hb]
        exact howned

/-- A step that writes nothing keeps what has been confined. -/
theorem Confined.of_proc (hw : Confined db w) {P : PatchProc}
    (hP : ∀ r pc, w.proc p = .patch r pc → ∃ pc', P = .patch r pc') :
    Confined db ⟨w.shared, Function.update w.proc p P⟩ := by
  refine ⟨hw.rest, hw.passengers.imp fun q₀ q hq => ⟨hq.1, fun hne => ?_⟩⟩
  obtain ⟨p₁, r₁, pc₁, row₁, hp₁, howned₁, hu⟩ := hq.2 hne
  rcases eq_or_ne p₁ p with rfl | hne'
  · obtain ⟨pc', rfl⟩ := hP r₁ pc₁ hp₁
    exact ⟨p₁, r₁, pc', row₁, Function.update_self .., howned₁, hu⟩
  · exact ⟨p₁, r₁, pc₁, row₁, (Function.update_of_ne hne' _ _).trans hp₁, howned₁, hu⟩

/-- What a step of the system does. -/
theorem patches_cases (hw : Amending db w) (hn : patches.next w p a = some w') :
    (w'.shared = w.shared ∧ Amending db w') ∨
      ∃ r b state loaded seq, w.proc p = .patch r (.commit b state loaded seq) ∧ a = .go ∧
        seqUsed w.shared b seq = false ∧
          w' = ⟨patchedDb w.shared r b state loaded seq,
            Function.update w.proc p (.patch r (.done none))⟩ := by
  obtain ⟨db', P', hstep, rfl⟩ := System.next_eq_some.mp hn
  have hsoundp := hw.sound p
  have hkeep : ∀ {P : PatchProc}, P.Sound db w.shared →
      (∀ r pc, w.proc p = .patch r pc → ∃ pc', P = .patch r pc') →
        Amending db ⟨w.shared, Function.update w.proc p P⟩ := by
    intro P hP hreq
    refine ⟨hw.confined.of_proc hreq, hw.gapFree, fun q => ?_⟩
    rcases eq_or_ne q p with rfl | hq
    · simpa using hP
    · simpa [hq] using hw.sound q
  cases hproc : w.proc p with
  | idle =>
    cases a with
    | arrive r =>
      simp only [patches, hproc, Option.some.injEq, Prod.mk.injEq] at hstep
      obtain ⟨rfl, rfl⟩ := hstep
      exact .inl ⟨rfl, hkeep trivial fun r' pc' h => by simp [hproc] at h⟩
    | go => simp [patches, hproc] at hstep
  | patch r pc =>
    cases a with
    | arrive r => simp [patches, hproc] at hstep
    | go =>
      rw [hproc] at hsoundp
      simp only [patches, hproc, Option.map_eq_some_iff, Prod.mk.injEq] at hstep
      obtain ⟨⟨_, pc'⟩, hstep, rfl, rfl⟩ := hstep
      rcases stepPatch_cases hstep hw.confined hsoundp with ⟨hdb, hpc'⟩ |
        ⟨b, state, loaded, seq, rfl, hfree, hdb, hpc'⟩
      · subst hdb
        refine .inl ⟨rfl, hkeep hpc' fun r' pc₁ h => ?_⟩
        rw [hproc] at h
        obtain ⟨rfl, -⟩ := PatchProc.patch.inj h
        exact ⟨pc', rfl⟩
      · subst hdb hpc'
        exact .inr ⟨r, b, state, loaded, seq, rfl, rfl, hfree, rfl⟩

/-- The audit trail after a commit under the next number. -/
theorem gapFree_patched (hgap : ∀ b, bookingAudit.GapFree b w.shared.audit)
    (hseq : seq = w.shared.nextSeq b) (k : BookingId) :
    bookingAudit.GapFree k (patchedDb w.shared r b state loaded seq).audit := by
  refine (hgap k).cons fun hk => ?_
  obtain rfl : b = k := hk
  rw [← Db.nextSeq_eq]
  exact hseq

/-- **Every step keeps what updates keep.** -/
theorem Amending.next (hids : (db.passengers.map BookingPassenger.id).Nodup)
    (hw : Amending db w) (hn : patches.next w p a = some w') : Amending db w' := by
  rcases patches_cases hw hn with ⟨-, h⟩ | ⟨r, b, state, loaded, seq, hproc, rfl, hfree, rfl⟩
  · exact h
  · have hs : (PatchProc.patch r (.commit b state loaded seq)).Sound db w.shared :=
      hproc ▸ hw.sound p
    have hseq := eq_nextSeq (hw.gapFree b) hs.2.2.1 hs.2.2.2 hfree
    refine ⟨hw.confined.commit hids hproc hs, gapFree_patched hw.gapFree hseq, fun q => ?_⟩
    rcases eq_or_ne q p with rfl | hq
    · dsimp only
      rw [Function.update_self]
      trivial
    · dsimp only
      rw [Function.update_of_ne hq]
      exact (hw.sound q).mono fun b' => nextSeq_le_cons _ _ _ b'

theorem amending_start (hgap : ∀ b, bookingAudit.GapFree b db.audit) :
    Amending db (patchStart db) where
  confined := ⟨rfl, List.forall₂_same.mpr fun _ _ => ⟨rfl, fun h => absurd rfl h⟩⟩
  gapFree := hgap
  sound _ := trivial

/-- **Updates are confined**, whatever overlaps. -/
theorem amending_run (hids : (db.passengers.map BookingPassenger.id).Nodup)
    (hgap : ∀ b, bookingAudit.GapFree b db.audit)
    {C : World Db PatchProc → ℕ → PatchInput → Prop} {as : List (ℕ × PatchInput)}
    (h : patches.Run C (patchStart db) as w) : Amending db w :=
  h.induct (amending_start hgap) fun _ _ _ _ hw _ hn => hw.next hids hn

/-! ### The journal -/

/-- Where a request commits, the passengers it names are as it loaded them. -/
def UpToDate (w : World Db PatchProc) (p : ℕ) (a : PatchInput) : Prop :=
  match w.proc p, a with
  | .patch r (.commit b _ loaded seq), .go =>
    seqUsed w.shared b seq = false →
      ∀ l ∈ loaded, (∃ u ∈ r.payload.passengers, u.passengerId = l.id) →
        ∀ q ∈ w.shared.passengersOf b, q.id = l.id → q.nameTexts = l.nameTexts
  | _, _ => True

/-- The trail of a booking with one more row on top. -/
theorem nameLog_patched (hgap : ∀ b, bookingAudit.GapFree b w.shared.audit)
    (hseq : seq = w.shared.nextSeq b) (k : BookingId) :
    (patchedDb w.shared r b state loaded seq).nameLog k =
      if k = b then w.shared.nameLog k ++
        (amendPassengers b r.payload.passengers loaded).2.filterMap readChange
      else w.shared.nameLog k := by
  have hgap' : bookingAudit.GapFree k (patchedDb w.shared r b state loaded seq).audit :=
    gapFree_patched hgap hseq k
  rw [Db.nameLog, hgap'.inOrder_eq, Db.nameLog, (hgap k).inOrder_eq]
  dsimp only [patchedDb]
  split
  · next hk =>
    have hkey : bookingAudit.key (updatedRow r b state seq
        (amendPassengers b r.payload.passengers loaded).2) = k := hk.symm
    rw [List.filter_cons_of_pos (by simpa using hkey), List.reverse_cons, List.flatMap_append]
    congr 1
    exact List.append_nil _
  · next hk =>
    have hkey : bookingAudit.key (updatedRow r b state seq
        (amendPassengers b r.payload.passengers loaded).2) ≠ k := fun h => hk h.symm
    rw [List.filter_cons_of_neg (by simpa using hkey)]

/-- The names of another booking's passengers stay. -/
theorem passengersOf_patched_of_ne (hids : (db.passengers.map BookingPassenger.id).Nodup)
    (hw : Confined db w)
    (hloaded : loaded.map BookingPassenger.place = (db.passengersOf b).map BookingPassenger.place)
    {k : BookingId} (hk : k ≠ b) :
    (patchedDb w.shared r b state loaded seq).passengersOf k = w.shared.passengersOf k := by
  rw [passengersOf_patchedDb]
  have hsame : ∀ q ∈ w.shared.passengersOf k,
      flushedPassenger loaded (amendPassengers b r.payload.passengers loaded).1 q = q := by
    intro q hq
    by_contra hne
    obtain ⟨hmem, hqk⟩ := Db.mem_passengersOf.mp hq
    exact hk (hqk.symm.trans (named_of_flushed hids hw hloaded hmem hne).1)
  rw [List.map_congr_left hsame, List.map_id']

/-- **An up-to-date commit journals what it does.** -/
theorem Db.NamesJournalled.commit (hids : (db.passengers.map BookingPassenger.id).Nodup)
    (hw : Amending db w) (hp : w.proc p = .patch r (.commit b state loaded seq))
    (hfree : seqUsed w.shared b seq = false) (hfresh : UpToDate w p .go) {k : BookingId}
    {original : String → Option (String × String)} (h : w.shared.NamesJournalled k original) :
    (patchedDb w.shared r b state loaded seq).NamesJournalled k original := by
  have hs : (PatchProc.patch r (.commit b state loaded seq)).Sound db w.shared := hp ▸ hw.sound p
  obtain ⟨-, hloaded, hpos, hle⟩ := hs
  have hseq := eq_nextSeq (hw.gapFree b) hpos hle hfree
  have hlog : (patchedDb w.shared r b state loaded seq).nameLog k =
      if k = b then w.shared.nameLog k ++
        (amendPassengers b r.payload.passengers loaded).2.filterMap readChange
      else w.shared.nameLog k := nameLog_patched hw.gapFree hseq k
  by_cases hk : k = b
  · rw [if_pos hk] at hlog
    obtain rfl := hk
    have hrows : ((w.shared.passengersOf k).map BookingPassenger.id).Nodup :=
      (hw.confined.ids hids).sublist (List.filter_sublist.map _)
    have hplaces := hloaded.trans (hw.confined.places_of k).symm
    have hnodup := nodup_loaded hids hloaded
    obtain ⟨hfaithful, hreplay, hkeys⟩ := amendPassengers_log (b := k) r.payload.passengers hnodup
    -- what the request reports of a passenger is what the row says now
    have hagree : ∀ c ∈ (amendPassengers k r.payload.passengers loaded).2.filterMap readChange,
        nameTable (w.shared.passengersOf k) c.key = nameTable loaded c.key := by
      intro c hc
      obtain ⟨u, hu, l, hl, hlu, hkey⟩ := hkeys c hc
      obtain ⟨q, hq, hid, -⟩ := exists_of_place hplaces hl
      simp only [UpToDate, hp] at hfresh
      have hnames := hfresh hfree l hl ⟨u, hu, hlu.symm⟩ q hq hid
      rw [hkey, nameTable_of_mem hnodup hl, ← hid, nameTable_of_mem hrows hq, hnames]
    refine ⟨?_, ?_⟩
    · rw [hlog, faithful_append]
      refine ⟨h.faithful, ?_⟩
      rw [h.current]
      exact (faithful_congr hagree).mpr hfaithful
    · rw [hlog, replay_append, h.current]
      unfold Db.names
      rw [passengersOf_patchedDb]
      exact (names_flushed hrows hplaces (amendPassengers_place k r.payload.passengers loaded)
        hreplay hagree).symm
  · rw [if_neg hk] at hlog
    have hpassengers :
        (patchedDb w.shared r b state loaded seq).passengersOf k = w.shared.passengersOf k :=
      passengersOf_patched_of_ne hids hw.confined hloaded hk
    exact ⟨hlog ▸ h.faithful, by rw [hlog, h.current, Db.names, Db.names, hpassengers]⟩

/-- **Updates that commit up to date are confined to the names of the passengers they
name, and journalled.**  Whatever requests overlap, with whatever bodies, nothing else
of the database changes; and the changes in a booking's trail, in the order of `seq`,
start each from what the ones before it left and lead from the original names to those
in the table. -/
theorem amendments_journalled (hids : (db.passengers.map BookingPassenger.id).Nodup)
    (hgap : ∀ b, bookingAudit.GapFree b db.audit)
    (hnone : ∀ a ∈ db.audit, a.eventType ≠ .passengerUpdated) {as : List (ℕ × PatchInput)}
    (h : patches.Run UpToDate (patchStart db) as w) :
    Confined db w ∧ ∀ b, w.shared.NamesJournalled b (db.names b) := by
  refine ⟨(amending_run hids hgap h).confined, ?_⟩
  suffices hboth : Amending db w ∧ ∀ b, w.shared.NamesJournalled b (db.names b) from hboth.2
  refine h.induct (I := fun w => Amending db w ∧ ∀ b, w.shared.NamesJournalled b (db.names b))
    ⟨amending_start hgap, fun b => ?_⟩ ?_
  · have hempty : db.nameLog b = [] := by
      rw [Db.nameLog, List.flatMap_eq_nil_iff]
      intro a ha
      have hmem : a ∈ db.audit :=
        List.mem_of_mem_filter ((List.perm_insertionSort _ _).mem_iff.mp ha)
      unfold BookingAudit.changes
      split
      · next heq _ => exact absurd heq (hnone a hmem)
      · rfl
    exact ⟨by rw [patchStart, hempty]; trivial, by rw [patchStart, hempty]; rfl⟩
  · rintro w₁ p a w₂ ⟨hw, htold⟩ hC hn
    refine ⟨hw.next hids hn, fun b => ?_⟩
    rcases patches_cases hw hn with ⟨hdb, -⟩ | ⟨r, k, state, loaded, seq, hproc, rfl, hfree, rfl⟩
    · exact hdb ▸ htold b
    · exact (htold b).commit hids hw hproc hfree hC

end Run

/-! ### Runs on fixed inputs -/

instance (w : World Db PatchProc) (p : ℕ) (a : PatchInput) : Decidable (UpToDate w p a) := by
  unfold UpToDate
  split <;> infer_instance

/-- A confirmed booking of two passengers. -/
def familyDb : Db :=
  { Db.seeded 7 ⟨"CAD"⟩ 25000 2 with
    booking := fun b => if b = 1 then
      some ⟨"SKYLCC", 10, 7, .confirmed, 50000, "CAD", some "family-01", 0⟩ else none
    bookingRef := fun ref => if ref = "SKYLCC" then some 1 else none
    passengers := [⟨2, 1, "Ada", "Lovelace", none, none, none, some 0⟩,
      ⟨3, 1, "Mary", "Somerville", none, none, none, some 1⟩] }

/-- A request of the booking's owner that names one passenger. -/
def renames (k : PassengerId) (given family : Option String) : PatchInput :=
  .arrive ⟨10, "SKYLCC", [⟨k, given, family⟩], by simp, by simp⟩

/-- Two requests load the passengers, and then run to their end one after the other. -/
def overlapping (first second : PatchInput) : List (ℕ × PatchInput) :=
  [(0, first), (0, .go), (0, .go), (1, second), (1, .go), (1, .go), (0, .go), (0, .go), (1, .go),
    (1, .go)]

/-- `amendments_journalled` where the two name different passengers. -/
theorem amendments_journalled_apart : ∃ w,
    patches.Run UpToDate (patchStart familyDb)
        (overlapping (renames 2 (some "Grace") none) (renames 3 none (some "Hopper"))) w ∧
      w.shared.names 1 "2" = some ("Grace", "Lovelace") ∧
        w.shared.names 1 "3" = some ("Mary", "Hopper") ∧
          Confined familyDb w ∧ ∀ b, w.shared.NamesJournalled b (familyDb.names b) := by
  have hchecked : (patches.checked UpToDate (patchStart familyDb)
      (overlapping (renames 2 (some "Grace") none) (renames 3 none (some "Hopper")))).any (fun w =>
        decide (w.shared.names 1 "2" = some ("Grace", "Lovelace") ∧
          w.shared.names 1 "3" = some ("Mary", "Hopper"))) = true := by
    decide +kernel
  obtain ⟨w, hrun, htest⟩ := System.exists_run_of_checked hchecked
  obtain ⟨hfirst, hsecond⟩ := of_decide_eq_true htest
  exact ⟨w, hrun, hfirst, hsecond,
    amendments_journalled (by decide) (fun _ => Filing.gapFree_nil) (by simp [familyDb, Db.seeded])
      hrun⟩

/-- **An amendment of stale names.**  Two updates of one passenger load it before
either commits; the first changes the given name, the second the family name.  Both
succeed.  The second row says that the names were and are Ada's, which they never were
after the first. -/
theorem amendment_of_stale_names : ∃ w,
    patches.Run (fun _ _ _ => True) (patchStart familyDb)
        (overlapping (renames 2 (some "Grace") none) (renames 2 none (some "Hopper"))) w ∧
      w.shared.nameLog 1 =
        [⟨"2", some ("Ada", "Lovelace"), some ("Grace", "Lovelace")⟩,
          ⟨"2", some ("Ada", "Lovelace"), some ("Ada", "Hopper")⟩] ∧
      w.shared.names 1 "2" = some ("Grace", "Hopper") ∧
        ¬ w.shared.NamesJournalled 1 (familyDb.names 1) := by
  have hchecked : (patches.checked (fun _ _ _ => True) (patchStart familyDb)
      (overlapping (renames 2 (some "Grace") none) (renames 2 none (some "Hopper")))).any (fun w =>
        decide (w.shared.nameLog 1 =
          [⟨"2", some ("Ada", "Lovelace"), some ("Grace", "Lovelace")⟩,
            ⟨"2", some ("Ada", "Lovelace"), some ("Ada", "Hopper")⟩] ∧
          w.shared.names 1 "2" = some ("Grace", "Hopper") ∧
            ¬ Faithful (familyDb.names 1) (w.shared.nameLog 1))) = true := by
    decide +kernel
  obtain ⟨w, hrun, htest⟩ := System.exists_run_of_checked hchecked
  obtain ⟨hlog, hnames, hunfaithful⟩ := of_decide_eq_true htest
  exact ⟨w, hrun, hlog, hnames, fun h => hunfaithful h.faithful⟩

end SkyLock
