import SkyLock.Models

/-!
# The request bodies of a booking

`BookingCreate` and `BookingPatch` of `app/schemas/bookings.py` after validation.
What the validators guarantee about the lists is part of the structures, so a body
that breaks it cannot be built.

## Main definitions

* `PassengerIn`, `BookingCreate` — the validated body.
* `BookingCreate.dump` — `payload.model_dump(mode="json")`.
* `PassengerUpdate`, `BookingPatch` — the validated body of an update.
-/

namespace SkyLock

/-- `PassengerIn`; a date of birth is its ISO text. -/
structure PassengerIn where
  givenName : String
  familyName : String
  dob : Option String
  passportNumber : Option String
  deriving DecidableEq, Repr, Inhabited

/-- `PassengerIn.model_dump`. -/
def PassengerIn.dump (p : PassengerIn) : JsonValue :=
  .obj [("given_name", .str p.givenName), ("family_name", .str p.familyName),
    ("dob", .ofOption .str p.dob), ("passport_number", .ofOption .str p.passportNumber)]

/-- `BookingCreate`: one hold per passenger, between one and six, no hold twice. -/
structure BookingCreate where
  holdIds : List HoldId
  passengers : List PassengerIn
  cardToken : String
  contactEmail : Option String
  holds_nonempty : 1 ≤ holdIds.length
  holds_le_six : holdIds.length ≤ 6
  oneSeatPerPassenger : holdIds.length = passengers.length
  holds_nodup : holdIds.Nodup

/-- `BookingCreate.model_dump(mode="json")`. -/
def BookingCreate.dump (b : BookingCreate) : JsonValue :=
  .obj [("hold_ids", .arr (b.holdIds.map fun h => .str (uuidText h))),
    ("passengers", .arr (b.passengers.map PassengerIn.dump)),
    ("card_token", .str b.cardToken), ("contact_email", .ofOption .str b.contactEmail)]

/-- `PassengerUpdate`. -/
structure PassengerUpdate where
  passengerId : PassengerId
  givenName : Option String
  familyName : Option String

/-- `BookingPatch`: between one and six updates. -/
structure BookingPatch where
  passengers : List PassengerUpdate
  passengers_nonempty : 1 ≤ passengers.length
  passengers_le_six : passengers.length ≤ 6

end SkyLock
