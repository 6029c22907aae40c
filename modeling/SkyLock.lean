import SkyLock.Charges
import SkyLock.Reverification
import SkyLock.Agreement
import SkyLock.StateMachine
import SkyLock.Cancellation
import SkyLock.CancelRaces
import SkyLock.Failures
import SkyLock.Declines
import SkyLock.Races
import SkyLock.StateJournal
import SkyLock.HoldCap
import SkyLock.HoldStability
import SkyLock.Statements
import SkyLock.SeatLocks
import SkyLock.Logins
import SkyLock.TokenChains
import SkyLock.SecurityEvents
import SkyLock.RateLimit
import SkyLock.DeclineBursts
import SkyLock.Storable
import SkyLock.AmendmentRaces
import SkyLock.SeatVersions
import SkyLock.Recovery
import SkyLock.Pagination
import SkyLock.RequestBodies
import SkyLock.Availability
import SkyLock.SoloBookings
import SkyLock.IdempotentBookings
import SkyLock.Progress
import SkyLock.History
import SkyLock.Ownership
import SkyLock.Accounts
import SkyLock.Fares
import SkyLock.Reservations
import SkyLock.Conversations
import SkyLock.Confidentiality
import SkyLock.Integrity
import SkyLock.Seeding
import SkyLock.Sessions
import SkyLock.Sweeps
import SkyLock.Invisibility
