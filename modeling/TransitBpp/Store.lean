import TransitBpp.Redaction
import TransitBpp.Table

/-!
# The reserved database and its transactions

`store.ts` over the schema of `migrations/reserved`. A table is a `Sql.Table`, so a database that
violates a unique index cannot be built; `CHECK` constraints are the types of the columns.

A read is a function of the database. A transaction is a program of statements in `Txn`: it
either runs whole or fails and leaves nothing behind. `Transaction` lists the transactions this
store runs, with what each answers.
-/

namespace TransitBpp

open Js

/-! ## Rows -/

/-- The state of a lock. -/
inductive SeatLockState : Type where
  | held | booked | expired | released
  deriving DecidableEq, Repr

/-- A row of `seat_locks`. -/
structure LockRow : Type where
  /-- primary key -/
  id : String
  /-- the service -/
  serviceId : String
  /-- the travel date -/
  travelDate : String
  /-- the seat -/
  seatId : String
  /-- held, booked, or no longer a claim -/
  state : SeatLockState
  /-- the hold it was taken by -/
  holdId : Option String
  /-- the booking it was sold to -/
  bookingId : Option String
  /-- the operator -/
  operator : String
  /-- the buyer's transaction -/
  identity : ReservedIdentity
  /-- when the hold lapses; null once booked -/
  expiresAt : Option ℤ
  /-- the clock reading the hold was taken under -/
  createdAt : ℤ
  deriving DecidableEq, Repr

/-- `state IN ('HELD','BOOKED')`. -/
def LockRow.isLive (row : LockRow) : Bool := row.state = .held || row.state = .booked

/-- The primary key of `seat_locks`. -/
def LockRow.primaryKey (row : LockRow) : Option (List String) := some [row.id]

/-- The partial unique index `seat_locks_live`. -/
def LockRow.liveKey (row : LockRow) : Option (List String) :=
  if row.isLive then some [row.serviceId, row.travelDate, row.seatId] else none

/-- The status of a booking and of each of its seats. -/
inductive BookingStatus : Type where
  | confirmed | cancelled
  deriving DecidableEq, Repr

/-- A row of `bookings`. -/
structure BookingRow : Type where
  /-- primary key -/
  id : String
  /-- the rider-facing reference -/
  reference : String
  /-- the operator -/
  operator : String
  /-- the buyer's transaction -/
  identity : ReservedIdentity
  /-- the service -/
  serviceId : String
  /-- the travel date -/
  travelDate : String
  /-- the class -/
  serviceClass : ServiceClass
  /-- where the rider boards -/
  fromBoardingPointId : String
  /-- where the rider alights -/
  toBoardingPointId : String
  /-- the departure instant, which the refund slab keys on -/
  departureAt : ℤ
  /-- cancelled once no seat is confirmed -/
  status : BookingStatus
  /-- the base fare of every seat -/
  basePaise : ℤ
  /-- the reservation fee of every seat -/
  reservationFeePaise : ℤ
  /-- the toll of every seat -/
  tollPaise : ℤ
  /-- when it was confirmed -/
  createdAt : ℤ
  /-- when it was last cancelled from -/
  cancelledAt : Option ℤ
  /-- what its cancelled seats refunded -/
  refundPaise : Option ℤ
  /-- the slab of the last cancellation -/
  slabCode : Option SlabCode
  /-- `order_json` -/
  order : Order
  /-- which corporation the sale is owed to -/
  settlementCorporation : Option Corporation
  /-- how well that is known -/
  settlementBasis : ServiceProvenance

/-- The primary key of `bookings`. -/
def BookingRow.primaryKey (row : BookingRow) : Option (List String) := some [row.id]

/-- The unique column `reference`. -/
def BookingRow.referenceKey (row : BookingRow) : Option (List String) := some [row.reference]

/-- The unique index `bookings_transaction`. -/
def BookingRow.transactionKey (row : BookingRow) : Option (List String) :=
  some [row.operator, row.identity.bapId, row.identity.bapUri, row.identity.transactionId]

/-- A row of `booking_seats`. -/
structure BookingSeatRow : Type where
  /-- the booking -/
  bookingId : String
  /-- the seat -/
  seatId : String
  /-- the passenger's name, until the retention sweep drops it -/
  name : Option String
  /-- the passenger's age, null when not supplied -/
  age : Option ℕ
  /-- the passenger's gender -/
  gender : Option ManifestGender
  /-- the seat's share of the base fare, frozen at confirm -/
  basePaise : ℤ
  /-- the seat's reservation fee -/
  reservationFeePaise : ℤ
  /-- the seat's toll -/
  tollPaise : ℤ
  /-- confirmed or cancelled -/
  status : BookingStatus
  /-- when it was cancelled -/
  cancelledAt : Option ℤ
  /-- what it refunded -/
  refundPaise : Option ℤ
  /-- the slab that produced the refund -/
  slabCode : Option SlabCode
  deriving DecidableEq, Repr

/-- The primary key of `booking_seats`. -/
def BookingSeatRow.primaryKey (row : BookingSeatRow) : Option (List String) :=
  some [row.bookingId, row.seatId]

/-- A row of `refund_quotes`. -/
structure RefundQuoteRecord : Type where
  /-- primary key -/
  id : String
  /-- the booking it quotes for -/
  bookingId : String
  /-- the seats it quotes for -/
  seatIds : List String
  /-- the slab it was computed in -/
  slabCode : SlabCode
  /-- what that slab deducts -/
  slabPercent : ℤ
  /-- what it promises -/
  refundPaise : ℤ
  /-- when it was given -/
  quotedAt : ℤ
  /-- when it lapses -/
  expiresAt : ℤ
  deriving DecidableEq, Repr

/-- The primary key of `refund_quotes`. -/
def RefundQuoteRecord.primaryKey (row : RefundQuoteRecord) : Option (List String) := some [row.id]

/-- The reserved database. -/
structure ReservedDb : Type where
  /-- holds and sold seats -/
  seatLocks : Sql.Table [LockRow.primaryKey, LockRow.liveKey]
  /-- bookings -/
  bookings : Sql.Table
    [BookingRow.primaryKey, BookingRow.referenceKey, BookingRow.transactionKey]
  /-- the seats and passengers of each booking -/
  bookingSeats : Sql.Table [BookingSeatRow.primaryKey]
  /-- cancellation quotes -/
  refundQuotes : Sql.Table [RefundQuoteRecord.primaryKey]

/-- The database after its migrations. -/
def ReservedDb.empty : ReservedDb := ⟨.empty, .empty, .empty, .empty⟩

/-! ## Reads -/

/-- A hold, as its rows make it up. -/
structure HoldRecord : Type where
  /-- its id -/
  holdId : String
  /-- the operator -/
  operator : String
  /-- the buyer's transaction -/
  identity : ReservedIdentity
  /-- the service -/
  serviceId : String
  /-- the travel date -/
  travelDate : String
  /-- its seats, sorted -/
  seatIds : List String
  /-- the state of its first row -/
  state : SeatLockState
  /-- the absolute instant it lapses -/
  expiresAt : ℤ
  /-- the clock reading it was taken under -/
  createdAt : ℤ
  deriving DecidableEq, Repr

/-- A hold from its rows. -/
def holdFromRows (first : LockRow) (rows : List LockRow) : HoldRecord where
  holdId := first.holdId.getD ""
  operator := first.operator
  identity := first.identity
  serviceId := first.serviceId
  travelDate := first.travelDate
  seatIds := sort (rows.map LockRow.seatId)
  state := first.state
  expiresAt := first.expiresAt.getD 0
  createdAt := first.createdAt

/-- Whether a hold is still good. -/
inductive HoldStatus : Type where
  | live | expired | spent
  deriving DecidableEq, Repr

/-- Whether a hold is still good, judged against this provider's own clock. -/
def holdStatus (hold : HoldRecord) (nowMs : ℤ) : HoldStatus :=
  match hold.state with
  | .booked => .spent
  | .held => if hold.expiresAt ≤ nowMs then .expired else .live
  | _ => .expired

namespace ReservedDb

variable (db : ReservedDb)

/-- The rows a transaction's holds left, `ORDER BY created_at DESC, rowid DESC`. -/
def holdRowsOf (operator : String) (identity : ReservedIdentity) : List LockRow :=
  let rows := db.seatLocks.rows.filter fun row =>
    row.operator = operator && row.identity = identity && row.holdId.isSome
  rows.reverse.insertionSort fun a b => b.createdAt ≤ a.createdAt

/-- The transaction's newest hold. -/
def findLatestHold (operator : String) (identity : ReservedIdentity) : Option HoldRecord :=
  let rows := db.holdRowsOf operator identity
  rows.head?.map fun newest =>
    holdFromRows newest (rows.filter fun row => row.holdId = newest.holdId)

/-- A hold by its id. -/
def findHoldById (holdId : String) : Option HoldRecord :=
  let rows := (db.seatLocks.rows.filter fun row => row.holdId = some holdId).insertionSort
    fun a b => a.seatId ≤ b.seatId
  rows.head?.map fun first => holdFromRows first rows

/-- The strength of a row's claim. -/
def claimState (row : LockRow) : ClaimState := if row.state = .booked then .booked else .held

/-- A live row as a claim, with the passenger's gender where it is sold. -/
def claimOf (row : LockRow) : LiveSeatClaim where
  seatId := row.seatId
  state := claimState row
  holdId := row.holdId
  bookingId := row.bookingId
  identity := row.identity
  gender := (db.bookingSeats.rows.find? fun seat =>
    row.bookingId = some seat.bookingId && seat.seatId = row.seatId).bind BookingSeatRow.gender

/-- Every live claim on a dated departure, `ORDER BY seat_id`. -/
def liveClaims (serviceId travelDate : String) : List LiveSeatClaim :=
  ((db.seatLocks.rows.filter fun row =>
    row.serviceId = serviceId && row.travelDate = travelDate && row.isLive).insertionSort
      fun a b => a.seatId ≤ b.seatId).map db.claimOf

/-- Every live claim on several services on one date, by service. -/
def liveClaimsForServices (serviceIds : List String) (travelDate : String) :
    List (String × List LiveSeatClaim) :=
  let rows := (db.seatLocks.rows.filter fun row =>
    row.serviceId ∈ serviceIds && row.travelDate = travelDate && row.isLive).insertionSort
      fun a b => a.serviceId < b.serviceId ∨ (a.serviceId = b.serviceId ∧ a.seatId ≤ b.seatId)
  (unique serviceIds).map fun serviceId =>
    (serviceId, (rows.filter fun row => row.serviceId = serviceId).map db.claimOf)

/-- The booking of a transaction. -/
def bookingByTransaction (operator : String) (identity : ReservedIdentity) : Option BookingRow :=
  db.bookings.rows.find? fun row => row.operator = operator && row.identity = identity

/-- A buyer app's booking by order id or reference. -/
def bookingByReference (operator bapId bapUri idOrReference : String) : Option BookingRow :=
  db.bookings.rows.find? fun row =>
    row.operator = operator && row.identity.bapId = bapId && row.identity.bapUri = bapUri &&
      (row.id = idOrReference || row.reference = idOrReference)

/-- A booking by its id. -/
def bookingById (bookingId : String) : Option BookingRow :=
  db.bookings.rows.find? fun row => row.id = bookingId

/-- The seats of a booking, `ORDER BY seat_id`. -/
def seatsOf (bookingId : String) : List BookingSeatRow :=
  (db.bookingSeats.rows.filter fun seat => seat.bookingId = bookingId).insertionSort
    fun a b => a.seatId ≤ b.seatId

/-- A refund quote by its id. -/
def findRefundQuote (id : String) : Option RefundQuoteRecord :=
  db.refundQuotes.rows.find? fun quote => quote.id = id

/-- The bookings that departed before a cutoff and still carry a name, with their orders. -/
def staleManifests (cutoff : ℤ) : List (String × Order) :=
  (db.bookings.rows.filter fun row => row.departureAt < cutoff &&
    db.bookingSeats.rows.any fun seat => seat.bookingId = row.id && seat.name.isSome).map
      fun row => (row.id, row.order)

end ReservedDb

/-! ### The reconciliation backlog -/

/-- What is owed for one dated departure, and to nobody in particular yet. -/
structure OwedDeparture : Type where
  /-- the service -/
  serviceId : String
  /-- the travel date -/
  travelDate : String
  /-- how many bookings -/
  bookings : ℕ
  /-- what they still owe -/
  owedPaise : ℤ
  deriving DecidableEq, Repr

namespace ReservedDb

variable (db : ReservedDb)

/-- The tolls of a booking's cancelled seats. -/
def cancelledTolls (bookingId : String) : ℤ :=
  ((db.bookingSeats.rows.filter fun seat => seat.bookingId = bookingId &&
    seat.status = .cancelled).map BookingSeatRow.tollPaise).sum

/-- What a booking still owes: the toll is in the refund and was never in the fare. -/
def owedPaise (row : BookingRow) : ℤ :=
  row.basePaise + row.reservationFeePaise - row.refundPaise.getD 0 + db.cancelledTolls row.id

/-- The bookings whose sale is owed to no corporation yet; every status counts. -/
def unattributed : List BookingRow :=
  db.bookings.rows.filter fun row => row.settlementCorporation = none

/-- What is owed for each departure, `GROUP BY` and `ORDER BY` service and date. -/
def unattributedBookings : List OwedDeparture :=
  let departures := unique (db.unattributed.map fun row => (row.serviceId, row.travelDate))
  let ordered := departures.insertionSort fun a b => a.1 < b.1 ∨ (a.1 = b.1 ∧ a.2 ≤ b.2)
  ordered.map fun departure =>
    let rows := db.unattributed.filter fun row =>
      row.serviceId = departure.1 && row.travelDate = departure.2
    ⟨departure.1, departure.2, rows.length, (rows.map db.owedPaise).sum⟩

end ReservedDb

/-! ## Statements -/

/-- A transaction: statements that read and write the database and may fail. -/
abbrev Txn (α : Type) : Type := StateT ReservedDb (Except Failure) α

/-- One statement on one table; a unique-constraint violation fails the transaction. -/
def statement {ρ α : Type} {indexes : List (ρ → Option (List String))}
    (table : ReservedDb → Sql.Table indexes) (put : ReservedDb → Sql.Table indexes → ReservedDb)
    (run : Sql.Table indexes → Option (Sql.Table indexes × α)) : Txn α := fun db =>
  match run (table db) with
  | some (t, a) => .ok (a, put db t)
  | none => .error .unique

/-- `UPDATE seat_locks SET f WHERE p`. -/
def updateLocks (p : LockRow → Bool) (f : LockRow → LockRow) : Txn ℕ :=
  statement ReservedDb.seatLocks (fun db t => { db with seatLocks := t }) fun t => t.update p f

/-- `UPDATE bookings SET f WHERE p`. -/
def updateBookings (p : BookingRow → Bool) (f : BookingRow → BookingRow) : Txn ℕ :=
  statement ReservedDb.bookings (fun db t => { db with bookings := t }) fun t => t.update p f

/-- `UPDATE booking_seats SET f WHERE p`. -/
def updateSeats (p : BookingSeatRow → Bool) (f : BookingSeatRow → BookingSeatRow) : Txn ℕ :=
  statement ReservedDb.bookingSeats (fun db t => { db with bookingSeats := t })
    fun t => t.update p f

/-- `INSERT INTO seat_locks`. -/
def insertLocks (rows : List LockRow) : Txn Unit :=
  statement ReservedDb.seatLocks (fun db t => { db with seatLocks := t })
    fun t => (t.insert rows).map (·, ())

/-- `INSERT INTO bookings`. -/
def insertBooking (row : BookingRow) : Txn Unit :=
  statement ReservedDb.bookings (fun db t => { db with bookings := t })
    fun t => (t.insert [row]).map (·, ())

/-- `INSERT INTO booking_seats`. -/
def insertSeats (rows : List BookingSeatRow) : Txn Unit :=
  statement ReservedDb.bookingSeats (fun db t => { db with bookingSeats := t })
    fun t => (t.insert rows).map (·, ())

/-- `INSERT INTO refund_quotes`. -/
def insertQuote (row : RefundQuoteRecord) : Txn Unit :=
  statement ReservedDb.refundQuotes (fun db t => { db with refundQuotes := t })
    fun t => (t.insert [row]).map (·, ())

/-! ## Ids -/

/-- `[A-Za-z0-9]`. -/
def isUsable (c : Char) : Bool := c.isAlpha || c.isDigit

/-- What an id generator's answer comes to: its letters and digits, in upper case. -/
def usable (raw : String) : List Char := (raw.toList.filter isUsable).map Char.toUpper

/-- A short id under a prefix. -/
def shortId (pre raw : String) : Except Failure String :=
  if (usable raw).isEmpty then
    throw (.error "Reserved id generator returned no usable characters")
  else return s!"{pre}-{String.ofList ((usable raw).take 8)}"

/-! ## Transactions -/

/-- The rows `sweepExpiredHolds` expires. -/
def isLapsed (serviceId travelDate : String) (nowMs : ℤ) (row : LockRow) : Bool :=
  row.state = .held && row.serviceId = serviceId && row.travelDate = travelDate &&
    row.expiresAt.any fun at_ => at_ ≤ nowMs

/-- Expire every hold on one dated departure whose instant has passed. -/
def sweepExpiredHolds (serviceId travelDate : String) (nowMs : ℤ) : Txn ℕ :=
  updateLocks (isLapsed serviceId travelDate nowMs) fun row => { row with state := .expired }

/-- The same sweep for several services at once. -/
def sweepExpiredHoldsForServices (serviceIds : List String) (travelDate : String) (nowMs : ℤ) :
    Txn ℕ :=
  if serviceIds = [] then return 0
  else updateLocks
    (fun row => row.state = .held && row.serviceId ∈ serviceIds && row.travelDate = travelDate &&
      row.expiresAt.any fun at_ => at_ ≤ nowMs)
    fun row => { row with state := .expired }

/-- What a hold is asked for. -/
structure AcquireHold : Type where
  /-- the operator -/
  operator : String
  /-- the buyer's transaction -/
  identity : ReservedIdentity
  /-- the service -/
  serviceId : String
  /-- the travel date -/
  travelDate : String
  /-- the seats, in the buyer's order and possibly repeated -/
  seatIds : List String
  /-- the clock reading of the request -/
  nowMs : ℤ
  /-- how long the hold lasts -/
  ttlSeconds : ℤ
  /-- skip the availability check, which only a test does -/
  skipAvailabilityCheckForTest : Bool
  deriving DecidableEq, Repr

namespace AcquireHold

variable (params : AcquireHold)

/-- `[...new Set(params.seatIds)].sort()`. -/
def seats : List String := sort (unique params.seatIds)

/-- When a hold taken now would lapse. -/
def expiresAt : ℤ := params.nowMs + params.ttlSeconds * 1000

/-- The refusal of seats that somebody else has. -/
def unavailable {m : Type → Type} [MonadExcept Failure m] {α : Type} (taken : List String) : m α :=
  refuse .seatUnavailable
    s!"Seats {commaList taken} on {params.serviceId} for {params.travelDate} are already held or sold"
    [("unavailableSeatIds", jsonStrings taken)]

/-- Whether a hold is exactly what is asked for. -/
def isSame (hold : HoldRecord) : Bool :=
  hold.serviceId = params.serviceId && hold.travelDate = params.travelDate &&
    hold.seatIds = params.seats

/-- The rows of the hold. -/
def newRows (holdId : String) : List LockRow :=
  params.seats.zipIdx.map fun s =>
    { id := s!"{holdId}-{s.2 + 1}"
      serviceId := params.serviceId
      travelDate := params.travelDate
      seatId := s.1
      state := .held
      holdId := some holdId
      bookingId := none
      operator := params.operator
      identity := params.identity
      expiresAt := some params.expiresAt
      createdAt := params.nowMs }

/-- The hold as it is answered. -/
def newHold (holdId : String) : HoldRecord where
  holdId := holdId
  operator := params.operator
  identity := params.identity
  serviceId := params.serviceId
  travelDate := params.travelDate
  seatIds := params.seats
  state := .held
  expiresAt := params.expiresAt
  createdAt := params.nowMs

/-- Release the transaction's live hold, which the new one replaces. -/
def releaseHold (live : Option HoldRecord) : Txn Unit :=
  match live with
  | none => return ()
  | some hold => do
    let _ ← updateLocks (fun row => row.holdId = some hold.holdId && row.state = .held)
      fun row => { row with state := .released }

/-- Refuse seats that somebody else has. -/
def assertAvailable : Txn Unit := do
  let claims := (← get).liveClaims params.serviceId params.travelDate
  let taken := (claims.map LiveSeatClaim.seatId).filter fun seatId => seatId ∈ params.seats
  if taken ≠ [] then params.unavailable taken

/-- Insert the rows of a new hold. -/
def insertHold (raw : String) : Txn HoldRecord := do
  let holdId ← shortId "HLD-KSRTC" raw
  if ((← get).findHoldById holdId).isSome then
    throw (.error s!"Reserved id generator produced hold id {holdId} twice")
  -- `VALUES` with no tuple is not a statement
  if params.seats = [] then throw (.error "incomplete input")
  insertLocks (params.newRows holdId)
  return params.newHold holdId

/-- The latest hold of the transaction, where it is live. -/
def liveHold (db : ReservedDb) : Option HoldRecord :=
  (db.findLatestHold params.operator params.identity).filter fun hold =>
    holdStatus hold params.nowMs = .live

/-- The body of the transaction: sweep, reuse or release the latest hold, check, insert. -/
def body (raw : String) : Txn HoldRecord := do
  let _ ← sweepExpiredHolds params.serviceId params.travelDate params.nowMs
  let live := params.liveHold (← get)
  match live.filter params.isSame with
  | some hold => return hold
  | none => do
    releaseHold live
    if !params.skipAvailabilityCheckForTest then params.assertAvailable
    params.insertHold raw

end AcquireHold

/-- Take a hold. A unique-constraint violation is the losing racer's refusal. -/
def acquireHold (params : AcquireHold) (raw : String) : Txn HoldRecord := fun db =>
  match params.body raw db with
  | .error .unique => params.unavailable params.seats
  | result => result

/-- A seat of a booking about to be confirmed. -/
structure NewSeat : Type where
  /-- the seat -/
  seatId : String
  /-- the passenger's name -/
  name : String
  /-- the passenger's age -/
  age : Option ℕ
  /-- the passenger's gender -/
  gender : Option ManifestGender
  /-- the seat's base fare -/
  basePaise : ℤ
  /-- the seat's reservation fee -/
  reservationFeePaise : ℤ
  /-- the seat's toll -/
  tollPaise : ℤ
  deriving DecidableEq, Repr

/-- What a booking is confirmed with. -/
structure ConfirmBooking : Type where
  /-- the order id -/
  orderId : String
  /-- the rider-facing reference -/
  reference : String
  /-- the hold to turn into a booking -/
  holdId : String
  /-- the operator -/
  operator : String
  /-- the buyer's transaction -/
  identity : ReservedIdentity
  /-- the service -/
  serviceId : String
  /-- the travel date -/
  travelDate : String
  /-- the class -/
  serviceClass : ServiceClass
  /-- where the rider boards -/
  fromBoardingPointId : String
  /-- where the rider alights -/
  toBoardingPointId : String
  /-- the departure instant -/
  departureAt : ℤ
  /-- its seats -/
  seats : List NewSeat
  /-- which corporation the sale is owed to -/
  settlementCorporation : Option Corporation
  /-- how well that is known -/
  settlementBasis : ServiceProvenance
  /-- the clock reading of the request -/
  nowMs : ℤ
  /-- the order as built -/
  order : Order

namespace ConfirmBooking

variable (params : ConfirmBooking)

/-- The booking row. -/
def row : BookingRow where
  id := params.orderId
  reference := params.reference
  operator := params.operator
  identity := params.identity
  serviceId := params.serviceId
  travelDate := params.travelDate
  serviceClass := params.serviceClass
  fromBoardingPointId := params.fromBoardingPointId
  toBoardingPointId := params.toBoardingPointId
  departureAt := params.departureAt
  status := .confirmed
  basePaise := (params.seats.map NewSeat.basePaise).sum
  reservationFeePaise := (params.seats.map NewSeat.reservationFeePaise).sum
  tollPaise := (params.seats.map NewSeat.tollPaise).sum
  createdAt := params.nowMs
  cancelledAt := none
  refundPaise := none
  slabCode := none
  order := params.order
  settlementCorporation := params.settlementCorporation
  settlementBasis := params.settlementBasis

/-- The seat rows. -/
def seatRows : List BookingSeatRow :=
  params.seats.map fun seat =>
    { bookingId := params.orderId
      seatId := seat.seatId
      name := some seat.name
      age := seat.age
      gender := seat.gender
      basePaise := seat.basePaise
      reservationFeePaise := seat.reservationFeePaise
      tollPaise := seat.tollPaise
      status := .confirmed
      cancelledAt := none
      refundPaise := none
      slabCode := none }

end ConfirmBooking

/-- Turn a hold into a booking: its locks move from held to booked. -/
def confirmBooking (params : ConfirmBooking) : Txn Unit := do
  let moved ← updateLocks (fun row => row.holdId = some params.holdId && row.state = .held)
    fun row => { row with state := .booked, bookingId := some params.orderId, expiresAt := none }
  if moved ≠ params.seats.length then
    refuse .holdExpired s!"Hold {params.holdId} was no longer live at the moment of confirm" []
  insertBooking params.row
  if params.seats.length > 0 then
    insertSeats params.seatRows

/-- What a cancellation is applied with. -/
structure ApplyCancellation : Type where
  /-- the booking -/
  bookingId : String
  /-- the seats to cancel -/
  seatIds : List String
  /-- the slab -/
  slabCode : SlabCode
  /-- what each seat refunds -/
  refundBySeat : List (String × ℤ)
  /-- the clock reading of the request -/
  nowMs : ℤ
  deriving DecidableEq, Repr

/-- Cancel one seat of a booking, where it is still confirmed, and release its lock. -/
def ApplyCancellation.cancelSeat (params : ApplyCancellation) (seatId : String) : Txn Unit := do
  let _ ← updateSeats
    (fun seat => seat.bookingId = params.bookingId && seat.seatId = seatId &&
      seat.status = .confirmed)
    fun seat => { seat with
      status := .cancelled
      cancelledAt := some params.nowMs
      refundPaise := some ((mapGet params.refundBySeat seatId).getD 0)
      slabCode := some params.slabCode }
  let _ ← updateLocks
    (fun row => row.bookingId = some params.bookingId && row.seatId = seatId &&
      row.state = .booked)
    fun row => { row with state := .released }

/-- How many seats of a booking are confirmed. -/
def ReservedDb.confirmedCount (db : ReservedDb) (bookingId : String) : ℕ :=
  db.bookingSeats.rows.countP fun seat => seat.bookingId = bookingId && seat.status = .confirmed

/-- What the seats of a booking refunded. -/
def ReservedDb.refundTotal (db : ReservedDb) (bookingId : String) : ℤ :=
  ((db.bookingSeats.rows.filter fun seat => seat.bookingId = bookingId).map
    fun seat => seat.refundPaise.getD 0).sum

/-- Cancel some or all of a booking's seats. -/
def applyCancellation (params : ApplyCancellation) : Txn Unit := do
  params.seatIds.forM params.cancelSeat
  let remaining := (← get).confirmedCount params.bookingId
  let refundTotal := (← get).refundTotal params.bookingId
  let _ ← updateBookings (fun row => row.id = params.bookingId) fun row => { row with
    status := if remaining = 0 then .cancelled else .confirmed
    cancelledAt := some params.nowMs
    refundPaise := some refundTotal
    slabCode := some params.slabCode }

/-- A refund quote before it has an id. -/
structure QuoteDraft : Type where
  /-- the booking it quotes for -/
  bookingId : String
  /-- the seats it quotes for -/
  seatIds : List String
  /-- the slab it was computed in -/
  slabCode : SlabCode
  /-- what that slab deducts -/
  slabPercent : ℤ
  /-- what it promises -/
  refundPaise : ℤ
  /-- when it was given -/
  quotedAt : ℤ
  /-- when it lapses -/
  expiresAt : ℤ
  deriving DecidableEq, Repr

/-- Save a refund quote under a new id. -/
def saveRefundQuote (draft : QuoteDraft) (raw : String) : Txn RefundQuoteRecord := do
  let id ← shortId "RFQ-KSRTC" raw
  let quote : RefundQuoteRecord := ⟨id, draft.bookingId, draft.seatIds, draft.slabCode,
    draft.slabPercent, draft.refundPaise, draft.quotedAt, draft.expiresAt⟩
  insertQuote quote
  return quote

/-- Replace the stored order. -/
def updateStoredOrder (bookingId : String) (order : Order) : Txn Unit := do
  let _ ← updateBookings (fun row => row.id = bookingId) fun row => { row with order := order }

/-- Clear one booking's manifest: the passengers of its seats, and those of an order read earlier. -/
def clearManifest (stale : String × Order) : Txn Unit := do
  let _ ← updateSeats (fun seat => seat.bookingId = stale.1)
    fun seat => { seat with name := none, age := none, gender := none }
  updateStoredOrder stale.1 (← stale.2.withoutManifestNames)

/-- The transactions this store runs. -/
inductive Transaction : Type where
  /-- expire the lapsed holds of one departure -/
  | sweepExpiredHolds : String → String → ℤ → Transaction
  /-- expire the lapsed holds of several services -/
  | sweepExpiredHoldsForServices : List String → String → ℤ → Transaction
  /-- take a hold -/
  | acquireHold : AcquireHold → Transaction
  /-- turn a hold into a booking -/
  | confirmBooking : ConfirmBooking → Transaction
  /-- cancel seats of a booking -/
  | applyCancellation : ApplyCancellation → Transaction
  /-- save a refund quote -/
  | saveRefundQuote : QuoteDraft → Transaction
  /-- replace a stored order -/
  | updateStoredOrder : String → Order → Transaction
  /-- clear the manifests of bookings read earlier -/
  | clearManifests : List (String × Order) → Transaction

/-- What a transaction answers. -/
@[reducible] def Transaction.Answer : Transaction → Type
  | sweepExpiredHolds _ _ _ => ℕ
  | sweepExpiredHoldsForServices _ _ _ => ℕ
  | acquireHold _ => HoldRecord
  | saveRefundQuote _ => RefundQuoteRecord
  | _ => Unit

/-- The statements of a transaction; `raw` is what the id generator would answer. -/
def Transaction.run (raw : String) : (t : Transaction) → Txn t.Answer
  | sweepExpiredHolds serviceId travelDate nowMs =>
    TransitBpp.sweepExpiredHolds serviceId travelDate nowMs
  | sweepExpiredHoldsForServices serviceIds travelDate nowMs =>
    TransitBpp.sweepExpiredHoldsForServices serviceIds travelDate nowMs
  | acquireHold params => TransitBpp.acquireHold params raw
  | confirmBooking params => TransitBpp.confirmBooking params
  | applyCancellation params => TransitBpp.applyCancellation params
  | saveRefundQuote draft => TransitBpp.saveRefundQuote draft raw
  | updateStoredOrder bookingId order => TransitBpp.updateStoredOrder bookingId order
  | clearManifests stale => stale.forM clearManifest

end TransitBpp
