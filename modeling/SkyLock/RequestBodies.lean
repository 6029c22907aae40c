import SkyLock.Lib.JsonText
import SkyLock.Columns
import SkyLock.Idempotency

/-!
# What a request hash says of a booking

`BookingCreate` of `app/schemas/bookings.py` reading a client's JSON, and
`request_hash` on what it read.  An object is a decoded one, so it repeats no key;
its numbers are whole.  The texts are stripped at the edge (`str_strip_whitespace`), unknown
fields are refused (`extra="forbid"`), and the two validators of the module run.

How a UUID or a date is written is the validation library's business: its readers
are parameters, of which only one thing is relied on, that two texts it accepts
and that differ in surrounding white space mean the same.

## Main definitions

* `Date` — a `datetime.date`, and its ISO text.
* `Parsers` — the readers of the validation library.
* `Parsers.passengerIn`, `Parsers.bookingCreate` — the model a body is read as.
* `CollisionFree` — two texts the hash tells apart.

## Main results

* `Parsers.agrees_bookingCreate` — bodies that are the same up to the order of fields and
  surrounding white space are read as one model.
* `BookingCreate.dump_injective` — the canonical text determines the model.
* `request_hash_separates` — **equal hashes are equal models**.
-/

namespace SkyLock

open JsonValue

/-! ### Dates -/

/-- The days of a month. -/
def daysInMonth (year month : ℕ) : ℕ :=
  if month = 2 then if year % 4 = 0 ∧ (year % 100 ≠ 0 ∨ year % 400 = 0) then 29 else 28
  else if month = 4 ∨ month = 6 ∨ month = 9 ∨ month = 11 then 30
  else 31

/-- A `datetime.date`. -/
structure Date where
  year : ℕ
  month : ℕ
  day : ℕ
  year_mem : 1 ≤ year ∧ year ≤ 9999
  month_mem : 1 ≤ month ∧ month ≤ 12
  day_mem : 1 ≤ day ∧ day ≤ daysInMonth year month
  deriving DecidableEq

namespace Date

theorem day_le (d : Date) : d.day ≤ 31 := by
  have hday := d.day_mem.2
  have hmonth : daysInMonth d.year d.month ≤ 31 := by
    unfold daysInMonth
    split_ifs <;> omega
  omega

/-- `d > e`. -/
def after (d e : Date) : Bool :=
  e.year < d.year || (e.year = d.year &&
    (e.month < d.month || (e.month = d.month && e.day < d.day)))

/-- Two decimal digits. -/
def twoDigits (n : ℕ) : List Char := [hexDigit (n / 10 % 10), hexDigit (n % 10)]

/-- `date.isoformat`. -/
def isoformat (d : Date) : String :=
  String.ofList (twoDigits (d.year / 100) ++ (twoDigits d.year ++ ('-' :: (twoDigits d.month ++
    ('-' :: twoDigits d.day)))))

theorem twoDigits_inj {m n : ℕ} {s s' : List Char} (h : twoDigits m ++ s = twoDigits n ++ s') :
    m % 100 = n % 100 ∧ s = s' := by
  have hread : ∀ k, hexValue (hexDigit (k % 10)) = k % 10 := by
    intro k
    exact hexValue_hexDigit _ (by omega)
  obtain ⟨htens, hrest⟩ := List.cons.inj h
  obtain ⟨hones, hrest⟩ := List.cons.inj hrest
  have htens := congrArg hexValue htens
  have hones := congrArg hexValue hones
  rw [hread, hread] at htens hones
  exact ⟨by omega, hrest⟩

/-- The ISO text of a date determines it. -/
theorem isoformat_injective : Function.Injective isoformat := by
  intro d e h
  obtain ⟨hcentury, h⟩ := twoDigits_inj (String.ofList_injective h)
  obtain ⟨hyear, h⟩ := twoDigits_inj h
  obtain ⟨hmonth, h⟩ := twoDigits_inj (List.cons.inj h).2
  have hrest := (List.cons.inj h).2
  rw [← List.append_nil (twoDigits d.day), ← List.append_nil (twoDigits e.day)] at hrest
  obtain ⟨hday, -⟩ := twoDigits_inj hrest
  have hd := d.day_le
  have he := e.day_le
  obtain ⟨y, m, k, hy, hm, hk⟩ := d
  obtain ⟨y', m', k', hy', hm', hk'⟩ := e
  dsimp only at *
  obtain rfl : y = y' := by omega
  obtain rfl : m = m' := by omega
  obtain rfl : k = k' := by omega
  rfl

end Date

/-! ### Reading a body -/

/-- The text without the white space around it. -/
def stripBy (space : Char → Bool) (t : String) : String :=
  String.ofList ((t.toList.dropWhile space).reverse.dropWhile space).reverse

/-- The readers of the validation library, and the day the body is read on. -/
structure Parsers where
  /-- The characters a text is stripped of. -/
  space : Char → Bool
  /-- A UUID from its text. -/
  uuid : String → Option HoldId
  /-- A date from a text or a number. -/
  date : JsonValue → Option Date
  /-- `date.today()`. -/
  today : Date
  /-- White space around a UUID does not change it. -/
  uuid_strip : ∀ t t' h h', stripBy space t = stripBy space t' → uuid t = some h →
    uuid t' = some h' → h = h'
  /-- White space around a date does not change it. -/
  date_strip : ∀ t t' d d', stripBy space t = stripBy space t' → date (.str t) = some d →
    date (.str t') = some d' → d = d'

/-- `extra="forbid"`: an object with no field but these. -/
def onlyFields (names : List String) : JsonValue → Bool
  | .obj fields => fields.all fun f => names.contains f.1
  | _ => false

section Readers

variable {α : Type}

/-- A required field. -/
def requiredField (read : JsonValue → Option α) (k : String) (body : JsonValue) : Option α :=
  (body.field k).bind read

/-- A field that may be null, or absent for its default `None`. -/
def optionalField (read : JsonValue → Option α) (k : String) (body : JsonValue) :
    Option (Option α) :=
  match body.field k with
  | none => some none
  | some .null => some none
  | some v => (read v).map some

/-- The items of a list. -/
def readItems (read : JsonValue → Option α) : List JsonValue → Option (List α)
  | [] => some []
  | x :: xs => do
    let a ← read x
    let as ← readItems read xs
    return a :: as

/-- A list. -/
def readList (read : JsonValue → Option α) : JsonValue → Option (List α)
  | .arr items => readItems read items
  | _ => none

end Readers

/-- `one_seat_per_passenger`, after the bounds of the two lists. -/
def oneSeatPerPassenger (holdIds : List HoldId) (passengers : List PassengerIn)
    (cardToken : String) (contactEmail : Option String) : Option BookingCreate :=
  if h : (1 ≤ holdIds.length ∧ holdIds.length ≤ 6) ∧
      (1 ≤ passengers.length ∧ passengers.length ≤ 6) ∧
      holdIds.length = passengers.length ∧ holdIds.Nodup then
    some
      { holdIds := holdIds
        passengers := passengers
        cardToken := cardToken
        contactEmail := contactEmail
        holds_nonempty := h.1.1
        holds_le_six := h.1.2
        oneSeatPerPassenger := h.2.2.1
        holds_nodup := h.2.2.2 }
  else none

/-- `date.fromisoformat`, on `YYYY-MM-DD`. -/
def Date.fromisoformat (t : String) : Option Date :=
  match t.toList with
  | [a, b, c, d, '-', e, f, '-', g, h] =>
    let number := fun cs => Nat.ofDigitChars 10 cs 0
    if hdate : (1 ≤ number [a, b, c, d] ∧ number [a, b, c, d] ≤ 9999) ∧
        (1 ≤ number [e, f] ∧ number [e, f] ≤ 12) ∧
        (1 ≤ number [g, h] ∧ number [g, h] ≤ daysInMonth (number [a, b, c, d]) (number [e, f])) then
      if [a, b, c, d, e, f, g, h].all Char.isDigit then
        some ⟨_, _, _, hdate.1, hdate.2.1, hdate.2.2⟩
      else none
    else none
  | _ => none

/-- The value of a hexadecimal digit. -/
def hexDigit? (c : Char) : Option ℕ :=
  if c.isDigit then some (c.toNat - '0'.toNat)
  else if 'a' ≤ c.toLower ∧ c.toLower ≤ 'f' then some (c.toLower.toNat - 'a'.toNat + 10)
  else none

/-- A UUID from its hexadecimal text, with the hyphens where they belong. -/
def uuidOfHex (t : String) : Option HoldId :=
  if (t.toList.splitOn '-').map List.length = [8, 4, 4, 4, 12] then
    ((t.toList.filter (· ≠ '-')).mapM hexDigit?).map fun digits =>
      digits.foldl (fun n d => 16 * n + d) 0
  else none

/-- Readers of ISO dates and of the UUID texts, with no white space around them. -/
def Parsers.plain (today : Date) : Parsers where
  space := Char.isWhitespace
  uuid t := if stripBy Char.isWhitespace t = t then uuidOfHex t else none
  date
    | .str t => if stripBy Char.isWhitespace t = t then Date.fromisoformat t else none
    | _ => none
  today := today
  uuid_strip := by
    intro t t' h h' hstrip ht ht'
    rw [Option.ite_none_right_eq_some] at ht ht'
    rw [ht.1, ht'.1] at hstrip
    rw [hstrip, ht'.2] at ht
    exact (Option.some.inj ht.2).symm
  date_strip := by
    intro t t' d d' hstrip ht ht'
    rw [Option.ite_none_right_eq_some] at ht ht'
    rw [ht.1, ht'.1] at hstrip
    rw [hstrip, ht'.2] at ht
    exact (Option.some.inj ht.2).symm

namespace Parsers

variable (p : Parsers)

/-- A text, stripped before it is checked. -/
def text (check : String → Bool) : JsonValue → Option String
  | .str t => if check (stripBy p.space t) then some (stripBy p.space t) else none
  | _ => none

/-- A UUID. -/
def holdId : JsonValue → Option HoldId
  | .str t => p.uuid t
  | _ => none

/-- `plausible_dob`, on a date read from a text or a number; the model keeps its ISO text. -/
def dob : JsonValue → Option String
  | .arr _ => none
  | .obj _ => none
  | v => (p.date v).bind fun d =>
      if d.after p.today || d.year < 1900 then none else some d.isoformat

/-- `PassengerIn`. -/
def passengerIn (body : JsonValue) : Option PassengerIn := do
  guard (onlyFields ["given_name", "family_name", "dob", "passport_number"] body)
  let givenName ← requiredField (p.text nameField) "given_name" body
  let familyName ← requiredField (p.text nameField) "family_name" body
  let dob ← optionalField p.dob "dob" body
  let passportNumber ← optionalField (p.text passportField) "passport_number" body
  return ⟨givenName, familyName, dob, passportNumber⟩

/-- `BookingCreate`. -/
def bookingCreate (body : JsonValue) : Option BookingCreate := do
  guard (onlyFields ["hold_ids", "passengers", "card_token", "contact_email"] body)
  let holdIds ← requiredField (readList p.holdId) "hold_ids" body
  let passengers ← requiredField (readList p.passengerIn) "passengers" body
  let cardToken ← requiredField (p.text cardTokenField) "card_token" body
  let contactEmail ← optionalField (p.text fun t => t.length ≤ 320) "contact_email" body
  oneSeatPerPassenger holdIds passengers cardToken contactEmail

/-- The body with the white space around its texts removed. -/
def strip (body : JsonValue) : JsonValue := body.mapStrings (stripBy p.space)

/-! ### Bodies that are read alike -/

/-- The body stripped, with its keys in order. -/
def canonical (body : JsonValue) : JsonValue := (p.strip body).sortKeys

theorem canonical_str (t : String) : p.canonical (.str t) = .str (stripBy p.space t) := by
  rw [canonical, strip, mapStrings, sortKeys]

theorem canonical_num (n : ℤ) : p.canonical (.num n) = .num n := by
  rw [canonical, strip, mapStrings, sortKeys]

theorem canonical_bool (b : Bool) : p.canonical (.bool b) = .bool b := by
  rw [canonical, strip, mapStrings, sortKeys]

theorem canonical_arr (items : List JsonValue) :
    p.canonical (.arr items) = .arr (items.map p.canonical) := by
  rw [canonical, strip, mapStrings, mapItems_eq, sortKeys_arr, List.map_map]
  rfl

theorem kind_canonical (v : JsonValue) : (p.canonical v).kind = v.kind := by
  rw [canonical, kind_sortKeys, strip, kind_mapStrings]

theorem field_canonical {v : JsonValue} (hv : v.Keyed) (k : String) :
    (p.canonical v).field k = (v.field k).map p.canonical := by
  rw [canonical, strip, field_sortKeys (hv.mapStrings _), field_mapStrings, Option.map_map]
  rfl

variable {α : Type}

/-- Values with one canonical form are read alike, where both are accepted. -/
def Agrees (read : JsonValue → Option α) : Prop :=
  ∀ v w a b, v.Keyed → w.Keyed → p.canonical v = p.canonical w → read v = some a →
    read w = some b → a = b

variable {p}

/-- Values with one canonical form are of one kind. -/
theorem kind_eq_of_canonical {v w : JsonValue} (h : p.canonical v = p.canonical w) :
    v.kind = w.kind := by
  rw [← p.kind_canonical, h, p.kind_canonical]

/-- The fields of objects with one canonical form. -/
theorem field_map_eq {v w : JsonValue} (hv : v.Keyed) (hw : w.Keyed)
    (h : p.canonical v = p.canonical w) (k : String) :
    (v.field k).map p.canonical = (w.field k).map p.canonical := by
  rw [← p.field_canonical hv, h, p.field_canonical hw]

theorem Agrees.required {read : JsonValue → Option α} (hread : p.Agrees read) (k : String) :
    p.Agrees (requiredField read k) := by
  intro v w a b hv hw h ha hb
  obtain ⟨x, hx, ha⟩ := Option.bind_eq_some_iff.mp ha
  obtain ⟨y, hy, hb⟩ := Option.bind_eq_some_iff.mp hb
  have hfield := field_map_eq hv hw h k
  rw [hx, hy] at hfield
  exact hread x y a b (hv.of_field hx) (hw.of_field hy) (Option.some.inj hfield) ha hb

/-- A field that was given: not absent, not null. -/
theorem optionalField_eq_some {read : JsonValue → Option α} {k : String} {v : JsonValue}
    {a : Option α} (h : optionalField read k v = some a) :
    (a = none ∧ ∀ x ∈ v.field k, x.kind = 0) ∨
      ∃ x b, v.field k = some x ∧ x.kind ≠ 0 ∧ read x = some b ∧ a = some b := by
  unfold optionalField at h
  split at h
  · next hfield =>
    refine .inl ⟨(Option.some.inj h).symm, ?_⟩
    rw [hfield]
    simp
  · next hfield =>
    refine .inl ⟨(Option.some.inj h).symm, ?_⟩
    rw [hfield]
    rintro x ⟨⟩
    rfl
  · next x hnull hfield =>
    obtain ⟨b, hb, rfl⟩ := Option.map_eq_some_iff.mp h
    refine .inr ⟨x, b, hfield, ?_, hb, rfl⟩
    intro hkind
    cases x with
    | null => exact hnull rfl
    | _ => cases hkind

theorem Agrees.optional {read : JsonValue → Option α} (hread : p.Agrees read) (k : String) :
    p.Agrees (optionalField read k) := by
  intro v w a b hv hw h ha hb
  have hfield := field_map_eq hv hw h k
  rcases optionalField_eq_some ha with ⟨rfl, hnull⟩ | ⟨x, a', hx, hkind, ha', rfl⟩
  · rcases optionalField_eq_some hb with ⟨rfl, -⟩ | ⟨y, b', hy, hkind, -, -⟩
    · rfl
    · rw [hy] at hfield
      obtain ⟨x, hx, hcanonical⟩ := Option.map_eq_some_iff.mp hfield
      rw [← kind_eq_of_canonical hcanonical, hnull x hx] at hkind
      exact absurd rfl hkind
  · rcases optionalField_eq_some hb with ⟨rfl, hnull⟩ | ⟨y, b', hy, -, hb', rfl⟩
    · rw [hx] at hfield
      obtain ⟨y, hy, hcanonical⟩ := Option.map_eq_some_iff.mp hfield.symm
      rw [← kind_eq_of_canonical hcanonical, hnull y hy] at hkind
      exact absurd rfl hkind
    · rw [hx, hy] at hfield
      exact congrArg some (hread x y a' b' (hv.of_field hx) (hw.of_field hy)
        (Option.some.inj hfield) ha' hb')

theorem Agrees.list {read : JsonValue → Option α} (hread : p.Agrees read) :
    p.Agrees (readList read) := by
  have hitems : ∀ xs ys as bs, (∀ x ∈ xs, x.Keyed) → (∀ y ∈ ys, y.Keyed) →
      xs.map p.canonical = ys.map p.canonical → readItems read xs = some as →
      readItems read ys = some bs → as = bs := by
    intro xs
    induction xs with
    | nil =>
      intro ys as bs _ _ h ha hb
      obtain rfl := List.map_eq_nil_iff.mp h.symm
      rw [← Option.some.inj ha, ← Option.some.inj hb]
    | cons x xs ih =>
      intro ys as bs hxs hys h ha hb
      cases ys with
      | nil => cases h
      | cons y ys =>
        obtain ⟨hhead, htail⟩ := List.cons.inj h
        simp only [readItems, Option.bind_eq_bind, Option.bind_eq_some_iff, Option.pure_def,
          Option.some.injEq] at ha hb
        obtain ⟨a, ha, as, has, rfl⟩ := ha
        obtain ⟨b, hb, bs, hbs, rfl⟩ := hb
        rw [hread x y a b (hxs x List.mem_cons_self) (hys y List.mem_cons_self) hhead ha hb,
          ih ys as bs (fun z hz => hxs z (List.mem_cons_of_mem _ hz))
            (fun z hz => hys z (List.mem_cons_of_mem _ hz)) htail has hbs]
  intro v w a b hv hw h ha hb
  cases hv with
  | arr hxs =>
    cases hw with
    | arr hys =>
      rw [p.canonical_arr, p.canonical_arr] at h
      exact hitems _ _ a b hxs hys (JsonValue.arr.inj h) ha hb
    | _ => cases hb
  | _ => cases ha

theorem agrees_text (check : String → Bool) : p.Agrees (p.text check) := by
  intro v w a b _ _ h ha hb
  cases v with
  | str t =>
    cases w with
    | str t' =>
      rw [p.canonical_str, p.canonical_str] at h
      rw [text, Option.ite_none_right_eq_some, Option.some.injEq] at ha hb
      rw [← ha.2, ← hb.2, JsonValue.str.inj h]
    | _ => cases hb
  | _ => cases ha

theorem agrees_holdId : p.Agrees p.holdId := by
  intro v w a b _ _ h ha hb
  cases v with
  | str t =>
    cases w with
    | str t' =>
      rw [p.canonical_str, p.canonical_str] at h
      exact p.uuid_strip t t' a b (JsonValue.str.inj h) ha hb
    | _ => cases hb
  | _ => cases ha

/-- An accepted date of birth is neither a list nor an object. -/
theorem dob_eq_some {v : JsonValue} {t : String} (h : p.dob v = some t) :
    v.kind ≠ 3 ∧ v.kind ≠ 4 ∧ ∃ d, p.date v = some d ∧ t = d.isoformat := by
  unfold dob at h
  split at h
  · cases h
  · cases h
  · next harr hobj =>
    obtain ⟨d, hd, ht⟩ := Option.bind_eq_some_iff.mp h
    rw [Option.ite_none_left_eq_some, Option.some.injEq] at ht
    refine ⟨?_, ?_, d, hd, ht.2.symm⟩
    · intro hkind
      cases v with
      | arr items => exact harr items rfl
      | _ => cases hkind
    · intro hkind
      cases v with
      | obj fields => exact hobj fields rfl
      | _ => cases hkind

theorem agrees_dob : p.Agrees p.dob := by
  intro v w a b _ _ h ha hb
  have hkind := kind_eq_of_canonical h
  obtain ⟨harr, hobj, d, hd, rfl⟩ := dob_eq_some ha
  obtain ⟨-, -, e, he, rfl⟩ := dob_eq_some hb
  suffices hdate : d = e by rw [hdate]
  -- the date is read from one value, or from texts that differ in white space
  by_cases heq : v = w
  · rw [heq, he] at hd
    exact (Option.some.inj hd).symm
  cases v with
  | str t =>
    cases w with
    | str t' =>
      rw [p.canonical_str, p.canonical_str] at h
      exact p.date_strip t t' d e (JsonValue.str.inj h) hd he
    | _ => cases hkind
  | null =>
    cases w with
    | null => exact absurd rfl heq
    | _ => cases hkind
  | bool x =>
    cases w with
    | bool y =>
      rw [p.canonical_bool, p.canonical_bool] at h
      exact absurd h heq
    | _ => cases hkind
  | num x =>
    cases w with
    | num y =>
      rw [p.canonical_num, p.canonical_num] at h
      exact absurd h heq
    | _ => cases hkind
  | arr _ => exact absurd rfl harr
  | obj _ => exact absurd rfl hobj

theorem passengerIn_eq_some {v : JsonValue} {q : PassengerIn} (h : p.passengerIn v = some q) :
    requiredField (p.text nameField) "given_name" v = some q.givenName ∧
      requiredField (p.text nameField) "family_name" v = some q.familyName ∧
      optionalField p.dob "dob" v = some q.dob ∧
      optionalField (p.text passportField) "passport_number" v = some q.passportNumber := by
  simp only [passengerIn, Option.bind_eq_bind, Option.bind_eq_some_iff, Option.pure_def,
    Option.some.injEq] at h
  obtain ⟨-, -, givenName, hgiven, familyName, hfamily, dob, hdob, passport, hpassport, rfl⟩ := h
  exact ⟨hgiven, hfamily, hdob, hpassport⟩

theorem agrees_passengerIn : p.Agrees p.passengerIn := by
  intro v w a b hv hw h ha hb
  obtain ⟨hgiven, hfamily, hdob, hpassport⟩ := passengerIn_eq_some ha
  obtain ⟨hgiven', hfamily', hdob', hpassport'⟩ := passengerIn_eq_some hb
  have htext := agrees_text (p := p)
  obtain ⟨givenName, familyName, dob, passport⟩ := a
  obtain ⟨givenName', familyName', dob', passport'⟩ := b
  rw [PassengerIn.mk.injEq]
  exact ⟨(htext _).required _ v w _ _ hv hw h hgiven hgiven',
    (htext _).required _ v w _ _ hv hw h hfamily hfamily',
    agrees_dob.optional _ v w _ _ hv hw h hdob hdob',
    (htext _).optional _ v w _ _ hv hw h hpassport hpassport'⟩

theorem bookingCreate_eq_some {v : JsonValue} {b : BookingCreate}
    (h : p.bookingCreate v = some b) :
    requiredField (readList p.holdId) "hold_ids" v = some b.holdIds ∧
      requiredField (readList p.passengerIn) "passengers" v = some b.passengers ∧
      requiredField (p.text cardTokenField) "card_token" v = some b.cardToken ∧
      optionalField (p.text fun t => t.length ≤ 320) "contact_email" v = some b.contactEmail := by
  simp only [bookingCreate, Option.bind_eq_bind, Option.bind_eq_some_iff] at h
  obtain ⟨-, -, holdIds, hholds, passengers, hpassengers, cardToken, htoken, email, hemail, h⟩ := h
  unfold oneSeatPerPassenger at h
  split at h
  · obtain rfl := Option.some.inj h
    exact ⟨hholds, hpassengers, htoken, hemail⟩
  · cases h

/-- **Bodies that are the same up to the order of fields and white space are read as one
model.** -/
theorem agrees_bookingCreate : p.Agrees p.bookingCreate := by
  intro v w a b hv hw h ha hb
  obtain ⟨hholds, hpassengers, htoken, hemail⟩ := bookingCreate_eq_some ha
  obtain ⟨hholds', hpassengers', htoken', hemail'⟩ := bookingCreate_eq_some hb
  obtain ⟨holdIds, passengers, cardToken, email, _, _, _, _⟩ := a
  obtain ⟨holdIds', passengers', cardToken', email', _, _, _, _⟩ := b
  rw [BookingCreate.mk.injEq]
  exact ⟨agrees_holdId.list.required _ v w _ _ hv hw h hholds hholds',
    agrees_passengerIn.list.required _ v w _ _ hv hw h hpassengers hpassengers',
    (agrees_text _).required _ v w _ _ hv hw h htoken htoken',
    (agrees_text _).optional _ v w _ _ hv hw h hemail hemail'⟩

/-! ### What was read -/

/-- A property of everything `read` returns. -/
def Ensures (read : JsonValue → Option α) (P : α → Prop) : Prop :=
  ∀ v a, read v = some a → P a

theorem Ensures.required {read : JsonValue → Option α} {P : α → Prop} (h : Ensures read P)
    (k : String) : Ensures (requiredField read k) P := by
  intro v a ha
  obtain ⟨x, -, hx⟩ := Option.bind_eq_some_iff.mp ha
  exact h x a hx

theorem Ensures.optional {read : JsonValue → Option α} {P : α → Prop} (h : Ensures read P)
    (k : String) : Ensures (optionalField read k) fun a => ∀ x ∈ a, P x := by
  intro v a ha
  rcases optionalField_eq_some ha with ⟨rfl, -⟩ | ⟨x, b, -, -, hb, rfl⟩
  · rintro x ⟨⟩
  · rintro y ⟨⟩
    exact h x b hb

theorem Ensures.list {read : JsonValue → Option α} {P : α → Prop} (h : Ensures read P) :
    Ensures (readList read) fun as => ∀ a ∈ as, P a := by
  have hitems : ∀ xs as, readItems read xs = some as → ∀ a ∈ as, P a := by
    intro xs
    induction xs with
    | nil =>
      rintro as ⟨⟩ a ha
      cases ha
    | cons x xs ih =>
      intro as has a ha
      simp only [readItems, Option.bind_eq_bind, Option.bind_eq_some_iff, Option.pure_def,
        Option.some.injEq] at has
      obtain ⟨b, hb, bs, hbs, rfl⟩ := has
      rcases List.mem_cons.mp ha with rfl | ha
      · exact h x a hb
      · exact ih bs hbs a ha
  intro v as has
  cases v with
  | arr items => exact hitems items as has
  | _ => cases has

theorem ensures_text (check : String → Bool) : Ensures (p.text check) fun t => check t = true := by
  intro v t ht
  cases v with
  | str t' =>
    rw [text, Option.ite_none_right_eq_some, Option.some.injEq] at ht
    rw [← ht.2]
    exact ht.1
  | _ => cases ht

theorem ensures_passengerIn : Ensures p.passengerIn fun q => q.accepted = true := by
  intro v q h
  obtain ⟨hgiven, hfamily, -, hpassport⟩ := passengerIn_eq_some h
  have hname : nameField q.givenName = true ∧ nameField q.familyName = true :=
    ⟨(ensures_text _).required _ v _ hgiven, (ensures_text _).required _ v _ hfamily⟩
  rw [PassengerIn.accepted, hname.1, hname.2, Bool.true_and, Bool.true_and, Option.all_eq_true]
  exact (ensures_text _).optional _ v _ hpassport

/-- What is read is a body `BookingCreate` accepts. -/
theorem ensures_bookingCreate : Ensures p.bookingCreate fun b => b.accepted = true := by
  intro v b h
  obtain ⟨-, hpassengers, htoken, hemail⟩ := bookingCreate_eq_some h
  have hall : b.passengers.all PassengerIn.accepted = true := by
    rw [List.all_eq_true]
    exact ensures_passengerIn.list.required _ v _ hpassengers
  have hcard : cardTokenField b.cardToken = true := (ensures_text _).required _ v _ htoken
  rw [BookingCreate.accepted, hall, hcard, Bool.true_and, Bool.true_and, Option.all_eq_true]
  exact (ensures_text _).optional _ v _ hemail

end Parsers

/-! ### The canonical text of a model -/

theorem PassengerIn.keyed_dump (q : PassengerIn) : q.dump.Keyed := by
  simp [PassengerIn.dump]

theorem BookingCreate.keyed_dump (b : BookingCreate) : b.dump.Keyed := by
  simp [BookingCreate.dump, PassengerIn.keyed_dump]

/-- A field both objects have, with its keys in order. -/
theorem sortKeys_field_eq {v w x y : JsonValue} (hv : v.Keyed) (hw : w.Keyed)
    (h : v.sortKeys = w.sortKeys) {k : String} (hx : v.field k = some x)
    (hy : w.field k = some y) : x.sortKeys = y.sortKeys := by
  have hfield := field_sortKeys hv k
  rw [h, field_sortKeys hw k, hx, hy] at hfield
  exact (Option.some.inj hfield).symm

theorem sortKeys_ofOption_str_inj {t t' : Option String}
    (h : (JsonValue.ofOption .str t).sortKeys = (JsonValue.ofOption .str t').sortKeys) : t = t' := by
  cases t with
  | none =>
    cases t' with
    | none => rfl
    | some t' => simp [JsonValue.ofOption, sortKeys] at h
  | some t =>
    cases t' with
    | none => simp [JsonValue.ofOption, sortKeys] at h
    | some t' =>
      rw [JsonValue.ofOption, JsonValue.ofOption, sortKeys, sortKeys] at h
      rw [JsonValue.str.inj h]

theorem sortKeys_str_inj {t t' : String}
    (h : (JsonValue.str t).sortKeys = (JsonValue.str t').sortKeys) : t = t' := by
  rw [sortKeys, sortKeys] at h
  exact JsonValue.str.inj h

/-- A passenger's canonical form determines the passenger. -/
theorem PassengerIn.sortKeys_dump_injective :
    Function.Injective fun q : PassengerIn => q.dump.sortKeys := by
  intro q r h
  have hfield : ∀ {k x y}, q.dump.field k = some x → r.dump.field k = some y →
      x.sortKeys = y.sortKeys := fun hx hy => sortKeys_field_eq q.keyed_dump r.keyed_dump h hx hy
  have hgiven : q.givenName = r.givenName :=
    sortKeys_str_inj (hfield (k := "given_name") rfl rfl)
  have hfamily : q.familyName = r.familyName :=
    sortKeys_str_inj (hfield (k := "family_name") rfl rfl)
  have hdob : q.dob = r.dob := sortKeys_ofOption_str_inj (hfield (k := "dob") rfl rfl)
  have hpassport : q.passportNumber = r.passportNumber :=
    sortKeys_ofOption_str_inj (hfield (k := "passport_number") rfl rfl)
  obtain ⟨givenName, familyName, dob, passport⟩ := q
  obtain ⟨givenName', familyName', dob', passport'⟩ := r
  exact PassengerIn.mk.injEq .. ▸ ⟨hgiven, hfamily, hdob, hpassport⟩

/-- **A model's canonical form determines the model.** -/
theorem BookingCreate.sortKeys_dump_injective :
    Function.Injective fun b : BookingCreate => b.dump.sortKeys := by
  intro b c h
  have hfield : ∀ {k x y}, b.dump.field k = some x → c.dump.field k = some y →
      x.sortKeys = y.sortKeys := fun hx hy => sortKeys_field_eq b.keyed_dump c.keyed_dump h hx hy
  have hholds : b.holdIds = c.holdIds := by
    have hitems := hfield (k := "hold_ids") rfl rfl
    rw [sortKeys_arr, sortKeys_arr, List.map_map, List.map_map] at hitems
    refine List.map_injective_iff.mpr ?_ (JsonValue.arr.inj hitems)
    intro m n hmn
    exact uuidText_injective (sortKeys_str_inj hmn)
  have hpassengers : b.passengers = c.passengers := by
    have hitems := hfield (k := "passengers") rfl rfl
    rw [sortKeys_arr, sortKeys_arr, List.map_map, List.map_map] at hitems
    exact List.map_injective_iff.mpr PassengerIn.sortKeys_dump_injective (JsonValue.arr.inj hitems)
  have htoken : b.cardToken = c.cardToken :=
    sortKeys_str_inj (hfield (k := "card_token") rfl rfl)
  have hemail : b.contactEmail = c.contactEmail :=
    sortKeys_ofOption_str_inj (hfield (k := "contact_email") rfl rfl)
  obtain ⟨holdIds, passengers, cardToken, email, _, _, _, _⟩ := b
  obtain ⟨holdIds', passengers', cardToken', email', _, _, _, _⟩ := c
  exact BookingCreate.mk.injEq .. ▸ ⟨hholds, hpassengers, htoken, hemail⟩

/-- The hash tells two texts apart. -/
def CollisionFree (env : Env) (t t' : String) : Prop := env.sha256 t = env.sha256 t' → t = t'

instance (env : Env) (t t' : String) : Decidable (CollisionFree env t t') :=
  inferInstanceAs (Decidable (_ → _))

/-- Where the hash tells their texts apart, it tells the models apart. -/
theorem requestHash_inj {env : Env} {b b' : BookingCreate}
    (hsha : CollisionFree env b.dump.dumps b'.dump.dumps)
    (h : requestHash env b = requestHash env b') : b = b' :=
  BookingCreate.sortKeys_dump_injective (dumps_inj.mp (hsha h))

/-- **Equal hashes are equal models**, lists in their order; and bodies that differ only in the
order of fields and the white space around their texts have one hash. -/
theorem request_hash_separates (p : Parsers) (env : Env) {body body' : JsonValue}
    {b b' : BookingCreate} (hbody : p.bookingCreate body = some b)
    (hbody' : p.bookingCreate body' = some b')
    (hsha : CollisionFree env b.dump.dumps b'.dump.dumps) :
    (requestHash env b = requestHash env b' ↔ b = b') ∧
      (body.Keyed → body'.Keyed → (p.strip body).Reordered (p.strip body') →
        requestHash env b = requestHash env b') ∧
      (b.holdIds ≠ b'.holdIds ∨ b.passengers ≠ b'.passengers →
        requestHash env b ≠ requestHash env b') := by
  refine ⟨⟨requestHash_inj hsha, ?_⟩, ?_, ?_⟩
  · rintro rfl
    rfl
  · intro hkeyed hkeyed' hreordered
    have hsame := hreordered.sortKeys_eq (hkeyed.mapStrings _)
    rw [Parsers.agrees_bookingCreate body body' b b' hkeyed hkeyed' hsame hbody hbody']
  · intro hdiffer heq
    obtain rfl := requestHash_inj hsha heq
    rcases hdiffer with h | h
    · exact h rfl
    · exact h rfl

deriving instance DecidableEq for BookingCreate

/-- Two passengers on two holds. -/
def adaAndZoe (holdIds : List HoldId) (h : holdIds.length = 2 ∧ holdIds.Nodup) : BookingCreate where
  holdIds := holdIds
  passengers := [⟨"Ada", "Byron", some "1990-12-10", none⟩,
    ⟨"Zoë", "O'Neill", none, some "AB123456"⟩]
  cardToken := "tok_test_visa0000"
  contactEmail := none
  holds_nonempty := by omega
  holds_le_six := by omega
  oneSeatPerPassenger := h.1
  holds_nodup := h.2

/-- The texts of the two holds. -/
def firstHold : JsonValue := .str "00000000-0000-0000-0000-000000000029"

def secondHold : JsonValue := .str "00000000-0000-0000-0000-00000000002A"

/-- A body that asks for it. -/
def firstTry (holdIds : List JsonValue) : JsonValue :=
  .obj [("hold_ids", .arr holdIds),
    ("passengers", .arr
      [.obj [("given_name", .str "Ada"), ("family_name", .str "Byron"),
        ("dob", .str "1990-12-10")],
      .obj [("given_name", .str "Zoë"), ("family_name", .str "O'Neill"),
        ("passport_number", .str "AB123456")]]),
    ("card_token", .str "tok_test_visa0000")]

/-- The same from a client that writes its fields the other way round, and pads its texts. -/
def retry : JsonValue :=
  .obj [("card_token", .str " tok_test_visa0000"),
    ("passengers", .arr
      [.obj [("dob", .str "1990-12-10"), ("family_name", .str "Byron "),
        ("given_name", .str "  Ada")],
      .obj [("passport_number", .str "AB123456"), ("given_name", .str "Zoë"),
        ("family_name", .str " O'Neill ")]]),
    ("hold_ids", .arr [firstHold, secondHold])]

/-- The readers on a day in 2026. -/
def readers : Parsers := .plain ⟨2026, 1, 15, by decide, by decide, by decide⟩

/-- SHA-256 on the two canonical texts. -/
def digests : Env :=
  .defaults (fun t =>
    if t = (adaAndZoe [41, 42] (by decide)).dump.dumps then
      "82799538a1d94f506b192d061c19cee3ab0225dc9c429fc5190a11aaf0d28a57"
    else if t = (adaAndZoe [42, 41] (by decide)).dump.dumps then
      "82801ca5e4f064b86dfb64910c8b9e229ea66b6512f724f354b6901f0dc3a399"
    else "") fun cardToken => cardToken

theorem digests_collisionFree : CollisionFree digests (adaAndZoe [41, 42] (by decide)).dump.dumps
    (adaAndZoe [42, 41] (by decide)).dump.dumps := by
  have hne : (adaAndZoe [42, 41] (by decide)).dump.dumps ≠
      (adaAndZoe [41, 42] (by decide)).dump.dumps := by
    refine mt String.ofList_injective ?_
    decide +kernel
  intro h
  simp [digests, Env.defaults, hne] at h

theorem request_hash_separates_adaAndZoe :
    (readers.bookingCreate (firstTry [firstHold, secondHold])).map (requestHash digests) =
        (readers.bookingCreate retry).map (requestHash digests) ∧
      (readers.bookingCreate (firstTry [firstHold, secondHold])).map (requestHash digests) ≠
        (readers.bookingCreate (firstTry [secondHold, firstHold])).map (requestHash digests) := by
  have hfirst : readers.bookingCreate (firstTry [firstHold, secondHold]) =
      some (adaAndZoe [41, 42] (by decide)) := by decide +kernel
  have hretry : readers.bookingCreate retry = some (adaAndZoe [41, 42] (by decide)) := by
    decide +kernel
  have hswapped : readers.bookingCreate (firstTry [secondHold, firstHold]) =
      some (adaAndZoe [42, 41] (by decide)) := by decide +kernel
  have hkeyed : (firstTry [firstHold, secondHold]).Keyed := by
    simp [firstTry, firstHold, secondHold]
  have hkeyed' : retry.Keyed := by simp [retry, firstHold, secondHold]
  have hreordered : (readers.strip (firstTry [firstHold, secondHold])).Reordered
      (readers.strip retry) :=
    (dumps_eq_iff (hkeyed.mapStrings _)).mp (congrArg String.ofList (by decide +kernel))
  constructor
  · have hsame := (request_hash_separates readers digests hfirst hretry fun _ => rfl).2.1
      hkeyed hkeyed' hreordered
    rw [hfirst, hretry, Option.map_some, hsame]
  · have hdiffer := (request_hash_separates readers digests hfirst hswapped digests_collisionFree).2.2
      (.inl (by decide))
    rw [hfirst, hswapped, Option.map_some, Option.map_some]
    exact fun h => hdiffer (Option.some.inj h)

end SkyLock
