import TransitBpp.Interleave
import TransitBpp.Store

/-!
# The provider as an interleaved system

What a request handler can do to the world, and what the world is. Every `await` of the source is
one `Op`: a read of the database, a whole transaction, a look-up in the service source, or one of
the few things a handler reads or writes in its own process.

Granularity. `withTransaction` runs one body at a time and its body runs whole or is rolled back,
so a transaction is one operation; a read outside a transaction is one operation on committed
data, and a record assembled from two reads is two. An operation on the database may fail
instead, and then it has done nothing. Several processes serve requests over one database; each
has its own map of confirmations in flight and its own note of the last manifest sweep.
-/

namespace TransitBpp

open Interleave

/-! ## The deployment -/

/-- The reservation settings, within the ranges `config.ts` enforces. -/
structure ReservationRuntime : Type where
  /-- minutes before departure at which the booking window closes -/
  closeMinutes : ℤ
  /-- days ahead the booking window reaches -/
  horizonDays : ℤ
  /-- the seed of the simulated occupancy -/
  occupancySeed : ℤ
  /-- how long a hold lasts -/
  holdTtlSeconds : ℤ
  /-- how long a manifest is kept after departure -/
  manifestRetentionDays : ℤ
  /-- `RESERVATION_CLOSE_MINUTES` -/
  close_range : 0 ≤ closeMinutes ∧ closeMinutes ≤ 1440
  /-- `RESERVATION_HORIZON_DAYS` -/
  horizon_range : 1 ≤ horizonDays ∧ horizonDays ≤ 365
  /-- `SEAT_OCCUPANCY_SEED` -/
  seed_range : 0 ≤ occupancySeed ∧ occupancySeed ≤ 2147483647
  /-- `RESERVATION_HOLD_TTL_SECONDS` -/
  ttl_range : 30 ≤ holdTtlSeconds ∧ holdTtlSeconds ≤ 3600
  /-- `RESERVED_MANIFEST_RETENTION_DAYS` -/
  retention_range : 1 ≤ manifestRetentionDays ∧ manifestRetentionDays ≤ 3650

/-- What a deployment is configured with. -/
structure Deployment : Type where
  /-- the operator's key, a column of every row -/
  operatorKey : String
  /-- the operator's id as a provider -/
  operatorId : String
  /-- the operator's name -/
  operatorName : String
  /-- this provider's own subscriber id -/
  subscriberId : String
  /-- this provider's own address -/
  subscriberUri : String
  /-- where the terms are published -/
  publicBaseUrl : String
  /-- the reservation settings -/
  reservation : ReservationRuntime
  /-- how long a manifest sweep is good for -/
  manifestSweepIntervalMs : ℤ
  /-- the host's `localeCompare` -/
  collation : Collation

/-- Where services, layouts and fares come from. -/
structure Source : Type where
  /-- one service by its id -/
  service : String → Option ReservedService
  /-- a seat map by its id -/
  seatMap : String → Option SeatMap
  /-- a fare table by its id -/
  fareTable : String → Option FareTable
  /-- the services a search asks for -/
  services : ReservedSearchQuery → List ReservedService

/-! ## Requests -/

/-- The part of a request's context the handlers read. -/
structure ReservedContext : Type where
  /-- the buyer's transaction -/
  transactionId : String
  /-- the buyer app -/
  bapId : String
  /-- its address -/
  bapUri : String
  /-- the seller addressed -/
  bppId : Option String
  /-- the seller's address -/
  bppUri : Option String
  deriving DecidableEq, Repr

/-- An item of a buyer's order. -/
structure ItemInput : Type where
  /-- the item id -/
  id : String
  /-- `quantity?.selected?.count` -/
  count : Option ℤ
  deriving DecidableEq, Repr

/-- A buyer's order. -/
structure OrderInput : Type where
  /-- the items named -/
  items : Option (List ItemInput)
  /-- `provider?.id` -/
  providerId : Option String
  /-- the stops of each fulfillment -/
  fulfillments : Option (List (Option (List BuyerStop)))
  /-- the contact -/
  billing : Option JsonObject
  /-- the payments -/
  payments : Option (List JsonObject)
  /-- the tag groups -/
  tags : Option (List BuyerTag)

/-- The fields of a search intent. -/
structure ReservedSearchIntent : Type where
  /-- `fulfillment?.travel_date` -/
  travelDate : Option String
  /-- `fulfillment?.stops` -/
  stops : Option (List BuyerStop)
  /-- `item?.descriptor?.code` -/
  itemCode : Option String
  /-- `context?.location?.city?.code` -/
  cityCode : Option String

/-- The two steps of a cancellation. -/
inductive CancelStep : Type where
  /-- `SOFT_CANCEL`: ask for a refund quote -/
  | soft : CancelStep
  /-- any other code: commit against one -/
  | confirm : CancelStep
  deriving DecidableEq, Repr

/-- What a request asks for. -/
inductive Action : Type where
  /-- search the catalogue -/
  | search : ReservedSearchIntent → Action
  /-- name a departure, and seats to hold -/
  | select : ReservedContext → OrderInput → Action
  /-- send the manifest -/
  | init : ReservedContext → OrderInput → Action
  /-- buy -/
  | confirm : ReservedContext → OrderInput → Action
  /-- read a booking, by `order_id` or `ref_id` -/
  | status : ReservedContext → Option String → Option String → Action
  /-- cancel an order, with the request's tags -/
  | cancel : ReservedContext → String → CancelStep → Option (List BuyerTag) → Action

/-- A request, and the process that serves it. -/
structure Request : Type where
  /-- which process -/
  process : ℕ
  /-- what is asked -/
  action : Action

/-- A booking with its seats. -/
structure BookingRecord : Type extends BookingRow where
  /-- its seats, in order -/
  seats : List BookingSeatRow

/-! ## Operations -/

/-- The key a confirmation in flight is filed under. -/
abbrev ConfirmationKey : Type := String × ReservedIdentity

/-- What looking for a confirmation in flight finds. -/
inductive Entered : Type where
  /-- another request's, to wait for -/
  | joined : ℕ → Entered
  /-- none, so a new one was filed -/
  | created : ℕ → Entered
  deriving DecidableEq, Repr

/-- What a request handler can do. -/
inductive Op : Type where
  /-- read the clock -/
  | now : Op
  /-- ask the id generator -/
  | newId : Op
  /-- look up a service -/
  | service : String → Op
  /-- look up a seat map -/
  | seatMap : String → Op
  /-- look up a fare table -/
  | fareTable : String → Op
  /-- look up the services of a search -/
  | services : ReservedSearchQuery → Op
  /-- read the live claims of a departure -/
  | liveClaims : String → String → Op
  /-- read the live claims of several services -/
  | liveClaimsForServices : List String → String → Op
  /-- read a transaction's newest hold -/
  | findLatestHold : String → ReservedIdentity → Op
  /-- read a transaction's booking -/
  | bookingByTransaction : String → ReservedIdentity → Op
  /-- read a buyer app's booking -/
  | bookingByReference : String → String → String → String → Op
  /-- read a booking by its id -/
  | bookingById : String → Op
  /-- read the seats of a booking -/
  | bookingSeats : String → Op
  /-- read a refund quote -/
  | findRefundQuote : String → Op
  /-- read the bookings whose manifest is due -/
  | staleManifests : ℤ → Op
  /-- run a transaction -/
  | transaction : Transaction → Op
  /-- whether this process owes a manifest sweep; if so it is noted as done -/
  | manifestSweepDue : ℤ → Op
  /-- find this process's confirmation in flight, or file a new one -/
  | enterConfirmation : ConfirmationKey → Op
  /-- wait for a confirmation -/
  | awaitConfirmation : ℕ → Op
  /-- settle a confirmation -/
  | settleConfirmation : ℕ → Except Failure BookingRecord → Op
  /-- take a confirmation out of the map, if it is still the one filed -/
  | leaveConfirmation : ConfirmationKey → ℕ → Op
  /-- start a manifest push, without waiting for it -/
  | startManifestPush : String → String → Op

/-- What an operation answers. -/
@[reducible] def Resp : Op → Type
  | .now => ℤ
  | .newId => String
  | .service _ => Except Failure (Option ReservedService)
  | .seatMap _ => Except Failure (Option SeatMap)
  | .fareTable _ => Except Failure (Option FareTable)
  | .services _ => Except Failure (List ReservedService)
  | .liveClaims _ _ => Except Failure (List LiveSeatClaim)
  | .liveClaimsForServices _ _ => Except Failure (List (String × List LiveSeatClaim))
  | .findLatestHold _ _ => Except Failure (Option HoldRecord)
  | .bookingByTransaction _ _ => Except Failure (Option BookingRow)
  | .bookingByReference _ _ _ _ => Except Failure (Option BookingRow)
  | .bookingById _ => Except Failure (Option BookingRow)
  | .bookingSeats _ => Except Failure (List BookingSeatRow)
  | .findRefundQuote _ => Except Failure (Option RefundQuoteRecord)
  | .staleManifests _ => Except Failure (List (String × Order))
  | .transaction t => Except Failure t.Answer
  | .manifestSweepDue _ => Bool
  | .enterConfirmation _ => Entered
  | .awaitConfirmation _ => Except Failure BookingRecord
  | .settleConfirmation _ _ => Unit
  | .leaveConfirmation _ _ => Unit
  | .startManifestPush _ _ => Unit

/-! ## The world -/

/-- A manifest push, with the instant it was started at. -/
structure ManifestPush : Type where
  /-- the service -/
  serviceId : String
  /-- the travel date -/
  travelDate : String
  /-- when it was started -/
  asOf : ℤ
  deriving DecidableEq, Repr

/-- What the provider and its surroundings are. -/
structure World : Type where
  /-- the committed database -/
  db : ReservedDb
  /-- the clock, in epoch milliseconds -/
  clock : ℤ
  /-- the catalogue as the source serves it now -/
  source : Source
  /-- when each process last swept manifests -/
  lastManifestSweepAt : ℕ → Option ℤ
  /-- each process's confirmations in flight -/
  confirmations : ℕ → List (ConfirmationKey × ℕ)
  /-- every confirmation ever filed, with its outcome once it has one -/
  promises : List (Option (Except Failure BookingRecord))
  /-- every manifest push ever started, newest first -/
  pushes : List ManifestPush

/-- The world before the first request. -/
def World.initial (clock : ℤ) (source : Source) : World where
  db := .empty
  clock := clock
  source := source
  lastManifestSweepAt := fun _ => none
  confirmations := fun _ => []
  promises := []
  pushes := []

/-- What the outside decides about one operation: what the id generator answers, and whether the
database or the source fails it. -/
structure Choice : Type where
  /-- the id generator's answer -/
  id : String
  /-- the failure, if it fails -/
  fault : Option String
  deriving DecidableEq, Repr

/-- A read that may fail. -/
def Choice.read {α : Type} (o : Choice) (a : α) : Except Failure α :=
  match o.fault with
  | some message => .error (.error message)
  | none => .ok a

/-- Whether a manifest sweep is due: never swept, swept long enough ago, or swept in the future of
a clock that went backwards. -/
def isSweepDue (last : Option ℤ) (nowMs intervalMs : ℤ) : Bool :=
  match last with
  | none => true
  | some at_ => !(0 ≤ nowMs - at_ && nowMs - at_ < intervalMs)

/-- One operation of a request served by `process`; `none` while it has to wait. -/
def World.exec (d : Deployment) (process : ℕ) (o : Choice) (w : World) :
    (op : Op) → Option (World × Resp op)
  | .now => some (w, w.clock)
  | .newId => some (w, o.id)
  | .service id => some (w, o.read (w.source.service id))
  | .seatMap id => some (w, o.read (w.source.seatMap id))
  | .fareTable id => some (w, o.read (w.source.fareTable id))
  | .services query => some (w, o.read (w.source.services query))
  | .liveClaims serviceId travelDate => some (w, o.read (w.db.liveClaims serviceId travelDate))
  | .liveClaimsForServices serviceIds travelDate =>
    some (w, o.read (w.db.liveClaimsForServices serviceIds travelDate))
  | .findLatestHold operator identity => some (w, o.read (w.db.findLatestHold operator identity))
  | .bookingByTransaction operator identity =>
    some (w, o.read (w.db.bookingByTransaction operator identity))
  | .bookingByReference operator bapId bapUri reference =>
    some (w, o.read (w.db.bookingByReference operator bapId bapUri reference))
  | .bookingById bookingId => some (w, o.read (w.db.bookingById bookingId))
  | .bookingSeats bookingId => some (w, o.read (w.db.seatsOf bookingId))
  | .findRefundQuote id => some (w, o.read (w.db.findRefundQuote id))
  | .staleManifests cutoff => some (w, o.read (w.db.staleManifests cutoff))
  | .transaction t =>
    match o.fault, t.run o.id w.db with
    | some message, _ => some (w, .error (.error message))
    | none, .error e => some (w, .error e)
    | none, .ok (a, db) => some ({ w with db := db }, .ok a)
  | .manifestSweepDue nowMs =>
    if isSweepDue (w.lastManifestSweepAt process) nowMs d.manifestSweepIntervalMs then
      some ({ w with
        lastManifestSweepAt := fun p =>
          if p = process then some nowMs else w.lastManifestSweepAt p }, true)
    else some (w, false)
  | .enterConfirmation key =>
    match (w.confirmations process).find? fun e => e.1 = key with
    | some e => some (w, .joined e.2)
    | none => some ({ w with
        confirmations := fun p =>
          if p = process then (key, w.promises.length) :: w.confirmations p
          else w.confirmations p
        promises := w.promises ++ [none] }, .created w.promises.length)
  | .awaitConfirmation promise =>
    match w.promises[promise]? with
    | some (some result) => some (w, result)
    | _ => none
  | .settleConfirmation promise result =>
    some ({ w with promises := w.promises.set promise (some result) }, ())
  | .leaveConfirmation key promise =>
    some ({ w with
      confirmations := fun p =>
        if p = process then (w.confirmations p).filter fun e => e ≠ (key, promise)
        else w.confirmations p }, ())
  | .startManifestPush serviceId travelDate =>
    some ({ w with pushes := ⟨serviceId, travelDate, w.clock⟩ :: w.pushes }, ())

/-- What happens on its own: time passes, and the source serves a new catalogue. -/
inductive Happening : Type where
  /-- this many milliseconds pass -/
  | tick : ℕ → Happening
  /-- the source serves this from now on -/
  | publish : Source → Happening

/-- The world after something happened on its own. -/
def World.happen : Happening → World → Option World
  | .tick ms, w => some { w with clock := w.clock + ms }
  | .publish source, w => some { w with source := source }

end TransitBpp
