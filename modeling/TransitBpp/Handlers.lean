import TransitBpp.Server

/-!
# The request handlers

`order.ts`, and the procedures of `store.ts` that are more than one operation. Each handler is a
program over `Op` that ends in an answer or a failure; what a handler computes between two
operations is an ordinary function (`renderOrder`, `cancelledOrder`, `refundPayload`).

The manifest push a confirm or a cancellation starts runs on its own; here it is only recorded.
-/

namespace TransitBpp

open Interleave Js

/-- A program of this provider. -/
abbrev Act (α : Type) : Type := Handler Op Resp Failure α

/-- An operation that cannot fail. -/
def perform (op : Op) : Act (Resp op) := ExceptT.lift (Prog.perform op)

/-- An operation that may fail. -/
def attempt {α : Type} (p : Prog Op Resp (Except Failure α)) : Act α := ExceptT.mk p

/-- Run a transaction. -/
def transact (t : Transaction) : Act t.Answer := attempt (Prog.perform (Op.transaction t))

/-! ## Store procedures -/

/-- A booking and its seats, which are read separately. -/
def bookingFromRow (row : BookingRow) : Act BookingRecord := do
  let seats ← attempt (Prog.perform (Op.bookingSeats row.id))
  return { row with seats }

/-- A booking read by one query, where there is one. -/
def bookingFrom (row : Act (Option BookingRow)) : Act (Option BookingRecord) := do
  match ← row with
  | none => return none
  | some row => return some (← bookingFromRow row)

/-- The booking of a transaction. -/
def findBookingByTransaction (operator : String) (identity : ReservedIdentity) :
    Act (Option BookingRecord) :=
  bookingFrom (attempt (Prog.perform (Op.bookingByTransaction operator identity)))

/-- A buyer app's booking by order id or reference. -/
def findBooking (operator bapId bapUri idOrReference : String) : Act (Option BookingRecord) :=
  bookingFrom (attempt (Prog.perform (Op.bookingByReference operator bapId bapUri idOrReference)))

/-- Cancel seats and read the booking back. -/
def applyAndRead (params : ApplyCancellation) : Act BookingRecord := do
  transact (.applyCancellation params)
  match ← attempt (Prog.perform (Op.bookingById params.bookingId)) with
  | none => throw (Failure.error "Cannot read properties of undefined (reading 'id')")
  | some row => bookingFromRow row

/-- Drop the manifest of every booking past its retention, at most once an interval. -/
def sweepManifests (nowMs retentionDays : ℤ) : Act ℕ := do
  if !(← perform (.manifestSweepDue nowMs)) then return 0
  let cutoff := nowMs - retentionDays * dayMilliseconds
  let stale ← attempt (Prog.perform (Op.staleManifests cutoff))
  if stale.length = 0 then return 0
  transact (.clearManifests stale)
  return stale.length

/-! ## Refunds and cancelled orders -/

/-- A line of a refund. -/
def refundLine (code title : String) (paise : ℤ) : Except Failure PriceLine := do
  return ⟨code, title, ← signedPrice paise⟩

/-- A refund and its lines: base fare, slab deduction, reservation fee, toll. -/
def refundOf (refundPaise basePaise deductionPaise tollPaise : ℤ) : Except Failure Quote := do
  let total ← signedPrice refundPaise
  let base ← refundLine "BASE_FARE" "Base fare" basePaise
  let deduction ← refundLine "SLAB_DEDUCTION" "Cancellation deduction" (-deductionPaise)
  let fee ← refundLine "RESERVATION_FEE" "Reservation fee" 0
  let toll ← refundLine "TOLL_REFUND" "Toll refund" tollPaise
  return ⟨total, [base, deduction, fee, toll]⟩

/-- The refund of a computation. -/
def refundPayload (refund : RefundComputation) : Except Failure Quote :=
  refundOf refund.refundPaise refund.basePaise refund.slabDeductionPaise refund.tollRefundPaise

/-- The refund a booking's cancelled seats already paid. -/
def storedRefund (booking : BookingRecord) : Except Failure Quote :=
  let cancelled := booking.seats.filter fun seat => seat.status = .cancelled
  let basePaise := (cancelled.map BookingSeatRow.basePaise).sum
  let tollPaise := (cancelled.map BookingSeatRow.tollPaise).sum
  let refundPaise := booking.refundPaise.getD 0
  refundOf refundPaise basePaise (basePaise + tollPaise - refundPaise) tollPaise

/-- A seat as the refund arithmetic reads it. -/
def BookingSeatRow.refundable (seat : BookingSeatRow) : RefundableSeat :=
  ⟨seat.seatId, seat.basePaise, seat.reservationFeePaise, seat.tollPaise⟩

/-- The seat tags after a cancellation, placed where the first one sat. -/
def placeSeatTags (seatTags : List Tag) : List Tag → List Tag
  | [] => []
  | tag :: tags =>
    if tag.code = "SEATS" ∨ tag.code = "CANCELLED_SEATS" then
      seatTags ++ tags.filter fun t => t.code ≠ "SEATS" ∧ t.code ≠ "CANCELLED_SEATS"
    else tag :: placeSeatTags seatTags tags

/-- A seat that is still held, as a manifest record; a swept name goes out empty. -/
def BookingSeatRow.record (seat : BookingSeatRow) : ManifestRecord :=
  ⟨seat.seatId, seat.name.getD "", seat.age, seat.gender⟩

/-- The stored order after a cancellation: the status, the seat tags and the manifest change. -/
def cancelledOrder (booking : BookingRecord) : Order :=
  let remaining := booking.seats.filter fun seat => seat.status = .confirmed
  let released := booking.seats.filter fun seat => seat.status = .cancelled
  let seatTags :=
    (if remaining.length > 0 then [seatsTag (remaining.map BookingSeatRow.seatId)] else []) ++
      if released.length > 0 then [cancelledSeatsTag (released.map BookingSeatRow.seatId)] else []
  { booking.order with
    status := some (if booking.status = .cancelled then .cancelled else .active)
    tags := placeSeatTags seatTags booking.order.tags
    fulfillments := booking.order.fulfillments.map fun f => { f with
      tags := f.tags.flatMap fun tag =>
        if tag.code ≠ "MANIFEST" then [tag]
        else if remaining.length = 0 then []
        else [manifestTagFrom (remaining.map BookingSeatRow.record)] } }

/-! ## Answers -/

/-- The catalogue a search answers. -/
structure Catalog : Type where
  /-- its name -/
  name : String
  /-- the provider's id -/
  providerId : String
  /-- the provider's name -/
  providerName : String
  /-- its items -/
  items : List Item
  /-- their fulfillments -/
  fulfillments : List Fulfillment

/-- What a handler answers. -/
inductive Answer : Type where
  /-- the catalogue of a search -/
  | catalog : Catalog → Answer
  /-- an order, with the refund and the tags that ride beside it -/
  | order : Order → Option Quote → List Tag → Answer

section Handlers

variable (d : Deployment)

/-! ## Shared work -/

/-- Everything one action needs about one dated departure. -/
structure Resolved : Type where
  /-- the service -/
  service : ReservedService
  /-- its seat map -/
  seatMap : SeatMap
  /-- its fares -/
  fareTable : FareTable
  /-- the travel date -/
  travelDate : String
  /-- the departure instant -/
  departureAt : ℤ

/-- The seats of a departure as one viewer sees them. -/
structure Snapshot : Type where
  /-- the simulated sold set -/
  seeded : List (String × SeededGender)
  /-- the live claims -/
  claims : List LiveSeatClaim
  /-- the published states -/
  states : List (String × SeatState)
  /-- how many seats could still be taken -/
  availableCount : ℕ

/-- The transaction a context speaks for. -/
def identityOf (context : ReservedContext) : ReservedIdentity :=
  ⟨context.bapId, context.bapUri, context.transactionId⟩

/-- Refuse a request that names somebody else as the seller. -/
def assertBppAddress (context : ReservedContext) : Except Failure Unit :=
  if context.bppId ≠ some d.subscriberId ∨ context.bppUri ≠ some d.subscriberUri then
    refuse .bppAddressMismatch s!"Request must address {d.subscriberId} at {d.subscriberUri}" []
  else return ()

/-- Refuse payments whose status is not the expected one. -/
def assertPaymentStatus (payments : Option (List JsonObject)) (expected : String) :
    Except Failure Unit :=
  let wrong := match payments with
    | none => true
    | some ps => ps.isEmpty ||
        ps.any fun p => ((Json.obj p).get? "status").bind Json.str? ≠ some expected
  if wrong then refuse .invalidPaymentStatus s!"All payments must have status {expected}" []
  else return ()

/-- The seats a request names. -/
def seatIdsFrom (tags : Option (List BuyerTag)) : List String :=
  match findTag tags "SEATS" with
  | none => []
  | some group =>
    (((group.list.getD []).filter fun item => item.code = some "SEAT_ID").map
      fun item => item.value.getD "undefined").filter fun seatId => seatId ≠ ""

/-- The value of an entry of a request's tags. -/
def tagValue (tags : Option (List BuyerTag)) (groupCode entryCode : String) : Option String :=
  entryValue (((findTag tags groupCode).bind BuyerTag.list).getD []) entryCode

/-- Refuse seats that are not on the map. -/
def assertSeatsOnMap (seatMap : SeatMap) (seatIds : List String) : Except Failure Unit :=
  let unknown := seatIds.filter fun seatId => seatId ∉ seatMap.seats.map Seat.seatId
  if unknown ≠ [] then
    refuse .seatNotOnMap s!"Seat map {seatMap.seatMapId} has no seats {commaList unknown}" []
  else return ()

/-- Whether a departure can be transacted now. -/
def windowStatus (departureAt nowMs : ℤ) : Except Failure BookingWindowVerdict :=
  bookingWindowStatus departureAt nowMs ⟨d.reservation.closeMinutes, d.reservation.horizonDays⟩

/-- The seat map of a service. -/
def seatMapFor (service : ReservedService) : Act SeatMap := do
  match ← attempt (Prog.perform (Op.seatMap service.seatMapId)) with
  | some map => return map
  | none =>
    refuse .serviceNotFound
      s!"Service {service.serviceId} names seat map {service.seatMapId}, which this source does not carry"
      []

/-- The fare table of a service. -/
def fareTableFor (service : ReservedService) : Act FareTable := do
  match ← attempt (Prog.perform (Op.fareTable service.fareTableId)) with
  | some table => return table
  | none =>
    refuse .fareNotPublished
      s!"Service {service.serviceId} names fare table {service.fareTableId}, which this source does not carry"
      []

/-- The service an item names, checked to be sold on its date. -/
def serviceOf (item : ReservedItem) (service : Option ReservedService) :
    Except Failure ReservedService := do
  let missing : Except Failure ReservedService := refuse .serviceNotFound
    s!"No service {item.serviceId} in class {item.serviceClass} runs on {item.travelDate}" []
  match service with
  | none => missing
  | some service =>
    if service.serviceClass.wire ≠ item.serviceClass then missing
    else if ← runsOn service.operatingPattern item.travelDate then return service
    else missing

/-- Refuse a departure outside the booking window, naming the edge crossed. -/
def assertWindowOpen (departureAt nowMs : ℤ) : Except Failure Unit := do
  match ← windowStatus d departureAt nowMs with
  | .isOpen => return ()
  | .tooLate boundaryAt =>
    refuse .outsideBookingWindow s!"Reservations for this departure closed at {boundaryAt}" []
  | .tooFar boundaryAt =>
    refuse .outsideBookingWindow
      s!"This departure is beyond the advance booking horizon, which reaches {boundaryAt}" []

/-- The item an order names, which must be exactly one of this provider's. -/
def selectedItem (input : OrderInput) : Except Failure ReservedItem :=
  if input.providerId ≠ some d.operatorId then
    let named := input.providerId.getD "undefined"
    refuse .serviceNotFound s!"Unknown provider {named}" []
  else
    match input.items.getD [] with
    | [item] =>
      match parseReservedItemId item.id with
      | some parsed => return parsed
      | none => refuse .serviceNotFound s!"{item.id} is not an item this provider published" []
    | _ => refuse .mixedCategoryOrder "A reserved order names exactly one dated departure" []

/-- The departure a request names. -/
def resolveSelection (input : OrderInput) : Act Resolved := do
  let item ← selectedItem d input
  let found ← attempt (Prog.perform (Op.service item.serviceId))
  let service ← serviceOf item found
  let departureAt ← stopInstantMilliseconds item.travelDate service.departureMinute 0
  assertWindowOpen d departureAt (← perform .now)
  let seatMap ← seatMapFor service
  let fareTable ← fareTableFor service
  return ⟨service, seatMap, fareTable, item.travelDate, departureAt⟩

/-- The read-only half of `snapshot`. -/
def snapshotFromClaims (service : ReservedService) (seatMap : SeatMap) (travelDate : String)
    (claims : List LiveSeatClaim) (viewer : Option ReservedIdentity) :
    Except Failure Snapshot := do
  let seeded ← seededOccupancy d.collation service seatMap travelDate d.reservation.occupancySeed
  let neighbourhood : SeatNeighbourhood := ⟨seatMap, seeded, claims, viewer⟩
  return ⟨seeded, claims, neighbourhood.seatStates, neighbourhood.availableSeatCount⟩

/-- Sweep a departure, then read it. -/
def snapshot (service : ReservedService) (seatMap : SeatMap) (travelDate : String)
    (viewer : ReservedIdentity) : Act Snapshot := do
  let nowMs ← perform .now
  let _ ← transact (.sweepExpiredHolds service.serviceId travelDate nowMs)
  let claims ← attempt (Prog.perform (Op.liveClaims service.serviceId travelDate))
  snapshotFromClaims d service seatMap travelDate claims (some viewer)

/-- What an order is built from. -/
structure BuildOrder : Type where
  /-- the departure -/
  resolved : Resolved
  /-- the boarding pair -/
  pair : BoardingPair
  /-- the fare of one seat -/
  farePaise : ℤ
  /-- how the fare is sourced -/
  fareSourcing : SourcingLabel
  /-- how many seats are charged for -/
  seatCount : ℤ
  /-- the buyer's transaction -/
  identity : ReservedIdentity
  /-- the seats named -/
  seatIds : List String
  /-- the hold, before a booking -/
  hold : Option HoldRecord
  /-- the concession claimed -/
  concessionClaim : Option String
  /-- the tags of the fulfillment -/
  fulfillmentTags : List Tag
  /-- the buyer's contact -/
  billing : Option JsonObject
  /-- the buyer's payments -/
  payments : Option (List JsonObject)
  /-- the order id, of a booking -/
  id : Option String
  /-- the status, of a booking -/
  status : Option OrderStatus
  /-- when it was confirmed -/
  createdAt : Option ℤ

namespace BuildOrder

variable (input : BuildOrder)

/-- The base fare of every seat. -/
def basePaise : ℤ := input.farePaise * input.seatCount

/-- The reservation fee of every seat. -/
def feePaise : ℤ := input.resolved.service.reservationFeePaise * input.seatCount

/-- The toll of every seat. -/
def tollPaise : ℤ := input.resolved.service.tollPaise * input.seatCount

/-- The claim, where it is not the empty string. -/
def claim? : Option String := input.concessionClaim.filter fun claim => claim ≠ ""

/-- What the concession takes off the base fare. -/
def discountPaise : Except Failure ℤ :=
  match input.claim? with
  | none => return 0
  | some claim => do
    return concessionDiscountPaise input.basePaise
      (← concessionRatePercent claim input.resolved.service.serviceClass)

/-- The concession's own line, where it takes anything off. -/
def concessionLines (discount : ℤ) : Except Failure (List PriceLine) :=
  if discount > 0 then do
    let claim := input.claim?.getD ""
    return [⟨s!"{claim}_CONCESSION", s!"{concessionLabel claim} concession",
      ← signedPrice (-discount)⟩]
  else return []

/-- The total and the lines that add up to it. -/
def quote : Except Failure Quote := do
  let discount ← input.discountPaise
  let base ← price input.basePaise
  let concession ← input.concessionLines discount
  let fee ← price input.feePaise
  let toll ← price input.tollPaise
  let total ← price (input.basePaise - discount + input.feePaise + input.tollPaise)
  return ⟨total, [⟨"BASE_FARE", "Base fare", base⟩] ++ concession ++
    [⟨"RESERVATION_FEE", "Reservation fee", fee⟩, ⟨"TOLL", "Toll", toll⟩]⟩

end BuildOrder

/-- A payment with an id of its own, numbered where the buyer gave none. -/
def numberPayment (payment : JsonObject) (index : ℕ) : JsonObject :=
  let given := (Json.obj payment).get? "id"
  let id := match given with
    | none => Json.str s!"PAY-{String.ofList (d.operatorKey.toList.map Char.toUpper)}-{index + 1}"
    | some .null => Json.str s!"PAY-{String.ofList (d.operatorKey.toList.map Char.toUpper)}-{index + 1}"
    | some id => id
  Json.set payment "id" id

/-- The order of a snapshot. -/
def renderOrder (input : BuildOrder) (snapshot : Snapshot) : Except Failure Order := do
  let quote ← input.quote
  let service := input.resolved.service
  let item ← reservedItem service input.resolved.travelDate input.farePaise input.pair
    input.fareSourcing (some snapshot.availableCount) (some input.seatCount)
  let fulfillment ←
    orderFulfillment service input.resolved.travelDate input.pair input.fulfillmentTags
  let createdAt ← (input.createdAt.filter fun at_ => at_ ≠ 0).mapM istIsoInstant
  let holdTags ← match input.hold with
    | none => pure []
    | some hold => do
      pure [← holdInfoTag hold.holdId hold.expiresAt d.reservation.holdTtlSeconds]
  return {
    id := input.id
    status := input.status
    providerId := d.operatorId
    providerName := d.operatorName
    items := [item]
    fulfillments := [fulfillment]
    quote
    billing := input.billing
    payments := input.payments.map fun ps => ps.zipIdx.map fun p => numberPayment d p.1 p.2
    termsUrl := s!"{d.publicBaseUrl}/terms"
    createdAt
    tags := [specimenTag specimenNotice,
      seatMapTag input.resolved.seatMap.seatMapId snapshot.states,
      seatMapLayoutTag input.resolved.seatMap] ++
      (if input.seatIds.length > 0 then [seatsTag input.seatIds] else []) ++ holdTags }

/-- Build an order. -/
def buildOrder (input : BuildOrder) : Act Order := do
  let snapshot ← snapshot d input.resolved.service input.resolved.seatMap
    input.resolved.travelDate input.identity
  renderOrder d input snapshot

/-- The stops of a request's first fulfillment. -/
def stopsOf (input : OrderInput) : List BuyerStop :=
  (((input.fulfillments.getD []).head?).bind id).getD []

/-! ## search -/

/-- The towns and the date a search names. -/
def reservedSearchQuery (intent : ReservedSearchIntent) : Except Failure ReservedSearchQuery :=
  let travelDate := String.ofList (trim ((intent.travelDate.getD "").toList))
  if (calendarDate travelDate).isNone then
    refuse .travelDateRequired
      "A reserved search names the calendar date it means, in YYYY-MM-DD, and this one names none"
      []
  else
    let stops := intent.stops.getD []
    let from_ := (stops.find? fun stop => stop.type = some "START").bind BuyerStop.code
    let to_ := (stops.find? fun stop => stop.type = some "END").bind BuyerStop.code
    match from_.filter (· ≠ ""), to_.filter (· ≠ "") with
    | some fromTownCode, some toTownCode =>
      return ⟨fromTownCode, toTownCode, travelDate, intent.itemCode.filter (· ≠ ""),
        intent.cityCode.getD ""⟩
    | _, _ => refuse .serviceNotFound
        "A reserved search names an origin town and a destination town" []

/-- A service a search will publish. -/
structure Eligible : Type where
  /-- the service -/
  service : ReservedService
  /-- its seat map -/
  seatMap : SeatMap
  /-- the whole run -/
  pair : BoardingPair
  /-- the fare of the whole run -/
  cell : FareCell

/-- Whether a search publishes a service, and with what. -/
def eligible (travelDate : String) (nowMs : ℤ) (service : ReservedService) :
    Act (Option Eligible) := do
  let departureAt ← stopInstantMilliseconds travelDate service.departureMinute 0
  if (← windowStatus d departureAt nowMs) ≠ .isOpen then return none
  let seatMap ← seatMapFor service
  let fareTable ← fareTableFor service
  let pair := headlinePair service
  return (findFareCell fareTable pair service.serviceClass).map fun cell =>
    ⟨service, seatMap, pair, cell⟩

/-- The item and the fulfillment of a service a search publishes. -/
def catalogueEntry (travelDate : String) (claims : List (String × List LiveSeatClaim))
    (entry : Eligible) : Except Failure (Item × Fulfillment) := do
  let snapshot ← snapshotFromClaims d entry.service entry.seatMap travelDate
    ((mapGet claims entry.service.serviceId).getD []) none
  let item ← reservedItem entry.service travelDate entry.cell.farePaise entry.pair
    entry.cell.sourcing (some snapshot.availableCount) none
  return (item, ← catalogueFulfillment entry.service travelDate)

/-- The services a search publishes, in turn. -/
def eligibleAll (travelDate : String) (nowMs : ℤ) : List ReservedService → Act (List Eligible)
  | [] => return []
  | service :: services => do
    let entry ← eligible d travelDate nowMs service
    return entry.toList ++ (← eligibleAll travelDate nowMs services)

/-- Search. -/
def search (intent : ReservedSearchIntent) : Act Answer := do
  let query ← reservedSearchQuery intent
  let nowMs ← perform .now
  let _ ← sweepManifests nowMs d.reservation.manifestRetentionDays
  let services ← attempt (Prog.perform (Op.services query))
  let published ← eligibleAll d query.travelDate nowMs services
  let serviceIds := published.map fun entry => entry.service.serviceId
  let _ ← transact (.sweepExpiredHoldsForServices serviceIds query.travelDate nowMs)
  -- an empty list is answered without a query
  let claims ← if serviceIds = [] then pure []
    else attempt (Prog.perform (Op.liveClaimsForServices serviceIds query.travelDate))
  let entries ← (published.mapM (catalogueEntry d query.travelDate claims) :
    Except Failure (List (Item × Fulfillment)))
  return .catalog ⟨s!"{d.operatorName} Specimen Reserved Catalogue", d.operatorId, d.operatorName,
    entries.map Prod.fst, entries.map Prod.snd⟩

/-! ## select -/

/-- The attachment of a seat refusal: the map and its layout. -/
def seatMapAttachment (seatMap : SeatMap) (snapshot : Snapshot) : JsonObject :=
  [("seatMap", (seatMapTag seatMap.seatMapId snapshot.states).toJson),
    ("seatMapLayout", (seatMapLayoutTag seatMap).toJson)]

/-- Refuse seats the simulation sold. -/
def assertNotSimulated (resolved : Resolved) (snapshot : Snapshot) (seatIds : List String) :
    Except Failure Unit :=
  let simulated := seatIds.filter fun seatId => (mapGet snapshot.seeded seatId).isSome
  if simulated ≠ [] then
    refuse .seatUnavailable
      s!"Seats {commaList simulated} on {resolved.service.serviceId} for {resolved.travelDate} are already held or sold"
      (("unavailableSeatIds", jsonStrings simulated) ::
        seatMapAttachment resolved.seatMap snapshot)
  else return ()

/-- Take the hold a select asks for; a refusal goes back with the seat map as it now is. -/
def takeHold (resolved : Resolved) (identity : ReservedIdentity) (seatIds : List String)
    (nowMs : ℤ) : Act HoldRecord :=
  tryCatch
    (transact (.acquireHold {
      operator := d.operatorKey
      identity
      serviceId := resolved.service.serviceId
      travelDate := resolved.travelDate
      seatIds
      nowMs
      ttlSeconds := d.reservation.holdTtlSeconds
      skipAvailabilityCheckForTest := false }))
    fun error => do
      match error with
      | .lifecycle e =>
        if e.code = .seatUnavailable then
          let after ← snapshot d resolved.service resolved.seatMap resolved.travelDate identity
          refuse e.code e.message (e.attachment ++ seatMapAttachment resolved.seatMap after)
        else throw error
      | _ => throw error

/-- Hold the seats a select names. -/
def holdSeats (resolved : Resolved) (identity : ReservedIdentity) (seatIds : List String) :
    Act HoldRecord := do
  assertSeatsOnMap resolved.seatMap seatIds
  let nowMs ← perform .now
  let before ← snapshot d resolved.service resolved.seatMap resolved.travelDate identity
  assertNotSimulated resolved before seatIds
  takeHold d resolved identity seatIds nowMs

/-- How many seats a request asks for. -/
def selectedCount (input : OrderInput) : ℤ :=
  ((input.items.getD []).head?.bind ItemInput.count).getD 1

/-- Refuse a selection whose seats and count disagree. -/
def assertSeatCount (input : OrderInput) : Except Failure Unit :=
  let seatIds := seatIdsFrom input.tags
  let count := selectedCount input
  if seatIds.length > 0 ∧ (seatIds.length : ℤ) ≠ count then
    refuse .seatCountMismatch
      s!"The selection names {seatIds.length} seats and asks for {count}; neither wins over the other"
      []
  else return ()

/-- Select. -/
def select (context : ReservedContext) (input : OrderInput) : Act Answer := do
  assertBppAddress d context
  let resolved ← resolveSelection d input
  let identity := identityOf context
  let seatIds := seatIdsFrom input.tags
  assertSeatCount input
  let pair ← boardingPairFromStops resolved.service (stopsOf input)
  let cell ← fareCell resolved.fareTable pair resolved.service.serviceClass
  let hold ← if seatIds.length > 0 then some <$> holdSeats d resolved identity seatIds
    else pure none
  let order ← buildOrder d {
    resolved, pair
    farePaise := cell.farePaise
    fareSourcing := cell.sourcing
    seatCount := if seatIds.length > 0 then seatIds.length else selectedCount input
    identity, hold, seatIds
    concessionClaim := concessionFromOrderTags input.tags
    fulfillmentTags := [seatMapRefTag resolved.seatMap.seatMapId]
    billing := none
    payments := none
    id := none
    status := none
    createdAt := none }
  return .order order none []

/-! ## init -/

/-- The manifest of a request, checked against a hold. -/
def manifestFor (hold : HoldRecord) (tags : Option (List BuyerTag)) :
    Except Failure (List ManifestRecord) := do
  match manifestTag tags with
  | none =>
    refuse .manifestIncomplete
      s!"Seats {commaList hold.seatIds} are held and the order carries no manifest" []
  | some entries =>
    let records ← parseManifest entries
    assertManifestMatchesHold records hold.seatIds
    return records

/-- The seats of a manifest, as the lock rule reads them. -/
def assignments (records : List ManifestRecord) : List SeatAssignment :=
  records.map fun record => ⟨record.seatId, record.gender⟩

/-- Refuse a hold that is not live, or not on the departure a request names. -/
def assertHoldLive (resolved : Resolved) (hold : Option HoldRecord) (nowMs : ℤ) :
    Except Failure HoldRecord :=
  match hold with
  | none => refuse .holdRequired
      "This transaction holds no seats; select the seats first and this provider will hold them" []
  | some hold =>
    if holdStatus hold nowMs ≠ .live then do
      let expiresAt ← istIsoInstant hold.expiresAt
      refuse .holdExpired
        s!"Hold {hold.holdId} expired at {expiresAt}, which is the instant published on the select that took it"
        [("holdId", .str hold.holdId), ("expiresAt", .str expiresAt)]
    else if hold.serviceId ≠ resolved.service.serviceId ∨
        hold.travelDate ≠ resolved.travelDate then
      refuse .holdSeatMismatch
        s!"This transaction holds seats on {hold.serviceId} for {hold.travelDate}, not on the departure this order names"
        []
    else return hold

/-- The live hold an action must run against, and the manifest it carries. -/
def liveHoldAndManifest (resolved : Resolved) (identity : ReservedIdentity) (input : OrderInput) :
    Act (HoldRecord × List ManifestRecord) := do
  let nowMs ← perform .now
  let _ ← transact (.sweepExpiredHolds resolved.service.serviceId resolved.travelDate nowMs)
  let found ← attempt (Prog.perform (Op.findLatestHold d.operatorKey identity))
  let hold ← assertHoldLive resolved found nowMs
  let records ← manifestFor hold input.tags
  let claims ← attempt (Prog.perform (Op.liveClaims resolved.service.serviceId resolved.travelDate))
  let snapshot ← snapshotFromClaims d resolved.service resolved.seatMap resolved.travelDate claims
    (some identity)
  assertGenderLocks ⟨resolved.seatMap, snapshot.seeded, snapshot.claims, some identity⟩
    (assignments records)
  return (hold, records)

/-- Init. -/
def init (context : ReservedContext) (input : OrderInput) : Act Answer := do
  assertBppAddress d context
  assertPaymentStatus input.payments "NOT_PAID"
  let identity := identityOf context
  let resolved ← resolveSelection d input
  let (hold, records) ← liveHoldAndManifest d resolved identity input
  let pair ← boardingPairFromStops resolved.service (stopsOf input)
  let cell ← fareCell resolved.fareTable pair resolved.service.serviceClass
  let order ← buildOrder d {
    resolved, pair
    farePaise := cell.farePaise
    fareSourcing := cell.sourcing
    seatCount := hold.seatIds.length
    identity
    hold := some hold
    seatIds := hold.seatIds
    concessionClaim := concessionFromOrderTags input.tags
    fulfillmentTags := [seatMapRefTag resolved.seatMap.seatMapId, manifestTagFrom records]
    billing := input.billing
    payments := input.payments
    id := none
    status := none
    createdAt := none }
  return .order order none []

/-! ## confirm -/

/-- The order of a booking about to be made. -/
def bookedOrder (resolved : Resolved) (pair : BoardingPair) (cell : FareCell)
    (identity : ReservedIdentity) (records : List ManifestRecord) (input : OrderInput)
    (nowMs : ℤ) (orderId reference : String) : BuildOrder where
  resolved := resolved
  pair := pair
  farePaise := cell.farePaise
  fareSourcing := cell.sourcing
  seatCount := records.length
  identity := identity
  seatIds := records.map ManifestRecord.seatId
  hold := none
  concessionClaim := concessionFromOrderTags input.tags
  fulfillmentTags := [seatMapRefTag resolved.seatMap.seatMapId, bookingRefTag reference,
    manifestTagFrom records, vehicleLookupTag resolved.service resolved.travelDate,
    specimenTag confirmedSpecimenNotice]
  billing := input.billing
  payments := input.payments
  id := some orderId
  status := some .active
  createdAt := some nowMs

/-- A booking about to be made. -/
def newBooking (resolved : Resolved) (pair : BoardingPair) (cell : FareCell)
    (identity : ReservedIdentity) (hold : HoldRecord) (records : List ManifestRecord)
    (nowMs : ℤ) (orderId reference : String) (order : Order) : ConfirmBooking where
  orderId := orderId
  reference := reference
  holdId := hold.holdId
  operator := d.operatorKey
  identity := identity
  serviceId := resolved.service.serviceId
  travelDate := resolved.travelDate
  serviceClass := resolved.service.serviceClass
  fromBoardingPointId := pair.fromBoardingPointId
  toBoardingPointId := pair.toBoardingPointId
  departureAt := resolved.departureAt
  seats := records.map fun record =>
    { seatId := record.seatId
      name := record.name
      age := record.age
      gender := record.gender
      basePaise := cell.farePaise
      reservationFeePaise := resolved.service.reservationFeePaise
      tollPaise := resolved.service.tollPaise }
  settlementCorporation := if resolved.service.operatingCorporationBasis = .confirmed then
    resolved.service.operatingCorporation else none
  settlementBasis := resolved.service.operatingCorporationBasis
  nowMs := nowMs
  order := order

/-- The transaction that makes a booking, and the booking it leaves: the one made, or, where a
unique index refused it, the one that already exists. -/
def commitBooking (params : ConfirmBooking) : Act BookingRecord := do
  let existing ← tryCatch
    (do transact (.confirmBooking params); return none)
    fun error => do
      match error with
      | .unique =>
        match ← findBookingByTransaction params.operator params.identity with
        | some existing => return some existing
        | none => throw error
      | _ => throw error
  match existing with
  | some existing => return existing
  | none =>
    match ← findBooking params.operator params.identity.bapId params.identity.bapUri
        params.orderId with
    | some booking => return booking
    | none => throw (Failure.error "Cannot read properties of undefined (reading 'order')")

/-- Make a booking. -/
def confirmNew (context : ReservedContext) (input : OrderInput) : Act BookingRecord := do
  let identity := identityOf context
  let resolved ← resolveSelection d input
  let (hold, records) ← liveHoldAndManifest d resolved identity input
  let pair ← boardingPairFromStops resolved.service (stopsOf input)
  let cell ← fareCell resolved.fareTable pair resolved.service.serviceClass
  let nowMs ← perform .now
  let suffix := String.ofList ((usable (← perform .newId)).take 8)
  let operatorTag := String.ofList (d.operatorKey.toList.map Char.toUpper)
  let orderId := s!"SPECIMEN-RSV-{operatorTag}-{suffix}"
  let reference := s!"SPECIMEN-{operatorTag}-{suffix}"
  let order ← buildOrder d (bookedOrder resolved pair cell identity records input nowMs orderId
    reference)
  let booking ← commitBooking
    (newBooking d resolved pair cell identity hold records nowMs orderId reference order)
  perform (.startManifestPush resolved.service.serviceId resolved.travelDate)
  return booking

/-- Confirm: answer the booking that exists, join the confirmation in flight, or make one. -/
def confirm (context : ReservedContext) (input : OrderInput) : Act Answer := do
  assertBppAddress d context
  assertPaymentStatus input.payments "PAID"
  let identity := identityOf context
  match ← findBookingByTransaction d.operatorKey identity with
  | some existing => return .order existing.order none []
  | none =>
    let key : ConfirmationKey := (d.operatorKey, identity)
    match ← perform (.enterConfirmation key) with
    | .joined promise =>
      let booking ← attempt (Prog.perform (Op.awaitConfirmation promise))
      return .order booking.order none []
    | .created promise =>
      let result ← ExceptT.lift (confirmNew d context input).run
      perform (.settleConfirmation promise result)
      perform (.leaveConfirmation key promise)
      let booking ← result
      return .order booking.order none []

/-! ## status -/

/-- A booking of the buyer app that asks, or a refusal. -/
def findBookingOrRefuse (context : ReservedContext) (reference : String) :
    Act BookingRecord := do
  match ← findBooking d.operatorKey context.bapId context.bapUri reference with
  | some booking => return booking
  | none => refuse .bookingNotFound s!"No booking {reference} belongs to this buyer app" []

/-- Status. -/
def status (context : ReservedContext) (orderId refId : Option String) : Act Answer := do
  assertBppAddress d context
  let reference := (orderId.or refId).getD ""
  if reference = "" then
    refuse .bookingNotFound "A status request names an order id or a booking reference" []
  let _ ← findBookingOrRefuse d context reference
  let nowMs ← perform .now
  let _ ← sweepManifests nowMs d.reservation.manifestRetentionDays
  let fresh ← findBookingOrRefuse d context reference
  let refund ← if fresh.refundPaise.isNone then pure none else some <$> storedRefund fresh
  return .order fresh.order refund []

/-! ## cancel -/

/-- The seats of a booking a cancellation means: those named, or all that are confirmed. -/
def targetSeats (booking : BookingRecord) (named : List String) :
    Except Failure (List BookingSeatRow) :=
  let unknown := named.filter fun seatId => seatId ∉ booking.seats.map BookingSeatRow.seatId
  if unknown ≠ [] then
    refuse .cancelSeatNotOnBooking
      s!"Booking {booking.reference} does not hold seats {commaList unknown}" []
  else return if named.length > 0 then booking.seats.filter fun seat => seat.seatId ∈ named
    else booking.seats.filter fun seat => seat.status = .confirmed

/-- The seats of a list that are confirmed. -/
def confirmedOf (seats : List BookingSeatRow) : List BookingSeatRow :=
  seats.filter fun seat => seat.status = .confirmed

/-- The refund of seats of a booking at an instant. -/
def refundFor (booking : BookingRecord) (live : List BookingSeatRow) (nowMs : ℤ) :
    RefundComputation :=
  computeRefund (live.map BookingSeatRow.refundable) booking.departureAt nowMs

/-- A refund quote, good for two minutes. -/
def quoteDraft (booking : BookingRecord) (live : List BookingSeatRow) (nowMs : ℤ) : QuoteDraft :=
  let refund := refundFor booking live nowMs
  { bookingId := booking.id
    seatIds := sort (live.map BookingSeatRow.seatId)
    slabCode := refund.slab.code
    slabPercent := refund.slab.deductionPercent
    refundPaise := refund.refundPaise
    quotedAt := nowMs
    expiresAt := nowMs + 2 * 60 * 1000 }

/-- The first step of a cancellation: a quote, and nothing changes state. -/
def softCancel (booking : BookingRecord) (seats : List BookingSeatRow) : Act Answer := do
  let live := confirmedOf seats
  if live.length = 0 then
    return .order booking.order (some (← storedRefund booking)) []
  let nowMs ← perform .now
  let quote ← transact (.saveRefundQuote (quoteDraft booking live nowMs))
  let refund ← refundPayload (refundFor booking live nowMs)
  let tag ← refundSlabTag quote.slabCode quote.slabPercent quote.id quote.expiresAt
  return .order booking.order (some refund) [tag]

/-- Refuse a cancellation that carries no live quote for exactly these seats. -/
def assertQuoteLive (booking : BookingRecord) (wanted : List String)
    (quote : Option RefundQuoteRecord) (nowMs : ℤ) : Except Failure RefundQuoteRecord :=
  let missing : Except Failure RefundQuoteRecord := refuse .refundQuoteExpired
    "This cancellation carries no live refund quote for these seats; ask for one and commit against it"
    []
  match quote with
  | none => missing
  | some quote =>
    if quote.bookingId ≠ booking.id ∨
        ",".intercalate quote.seatIds ≠ ",".intercalate wanted then missing
    else if quote.expiresAt ≤ nowMs then do
      let lapsedAt ← istIsoInstant quote.expiresAt
      refuse .refundQuoteExpired s!"Refund quote {quote.id} lapsed at {lapsedAt}" []
    else return quote

/-- The refusal of a commitment whose slab moved since the quote, with the new figure. -/
def slabMoved (booking : BookingRecord) (live : List BookingSeatRow)
    (quote : RefundQuoteRecord) (nowMs : ℤ) : Act Answer := do
  let computed := refundFor booking live nowMs
  let replacement ← transact (.saveRefundQuote (quoteDraft booking live nowMs))
  let refund ← refundPayload computed
  let tag ← refundSlabTag replacement.slabCode replacement.slabPercent replacement.id
    replacement.expiresAt
  refuse .refundSlabMoved
    s!"The refund slab moved from {quote.slabCode.wire} to {computed.slab.code.wire} between the quote and this request"
    [("refund", refund.toJson), ("tags", tagsJson [tag])]

/-- What a commitment is applied with. -/
def cancellationOf (booking : BookingRecord) (live : List BookingSeatRow) (nowMs : ℤ) :
    ApplyCancellation :=
  let refund := refundFor booking live nowMs
  { bookingId := booking.id
    seatIds := sort (live.map BookingSeatRow.seatId)
    slabCode := refund.slab.code
    refundBySeat := refund.perSeatPaise
    nowMs }

/-- The quote a request names, read where it names one. -/
def namedQuote (tags : Option (List BuyerTag)) : Act (Option RefundQuoteRecord) :=
  match (tagValue tags "REFUND_SLAB" "REFUND_QUOTE_ID").filter (· ≠ "") with
  | none => return none
  | some quoteId => attempt (Prog.perform (Op.findRefundQuote quoteId))

/-- The second step of a cancellation: apply it, rewrite the stored order, answer the refund. -/
def confirmCancel (booking : BookingRecord) (seats : List BookingSeatRow)
    (tags : Option (List BuyerTag)) : Act Answer := do
  let live := confirmedOf seats
  if live.length = 0 then
    return .order booking.order (some (← storedRefund booking)) []
  let nowMs ← perform .now
  let named ← namedQuote tags
  let quote ← assertQuoteLive booking (sort (live.map BookingSeatRow.seatId)) named nowMs
  let computed := refundFor booking live nowMs
  if computed.slab.code ≠ quote.slabCode then slabMoved booking live quote nowMs
  else
    let updated ← applyAndRead (cancellationOf booking live nowMs)
    let rewritten := cancelledOrder updated
    transact (.updateStoredOrder updated.id rewritten)
    perform (.startManifestPush booking.serviceId booking.travelDate)
    let refund ← refundPayload computed
    let tag ← refundSlabTag computed.slab.code computed.slab.deductionPercent quote.id
      quote.expiresAt
    return .order rewritten (some refund) [tag]

/-- Cancel. -/
def cancel (context : ReservedContext) (orderId : String) (step : CancelStep)
    (tags : Option (List BuyerTag)) : Act Answer := do
  assertBppAddress d context
  let booking ← findBookingOrRefuse d context orderId
  let seats ← targetSeats booking (seatIdsFrom tags)
  match step with
  | .soft => softCancel booking seats
  | .confirm => confirmCancel booking seats tags

/-! ## The system -/

/-- The program that answers a request. -/
def handle (request : Request) : Act Answer :=
  match request.action with
  | .search intent => search d intent
  | .select context input => select d context input
  | .init context input => init d context input
  | .confirm context input => confirm d context input
  | .status context orderId refId => status d context orderId refId
  | .cancel context orderId step tags => cancel d context orderId step tags

/-- The provider: its handlers, its operations and what happens around it. -/
def provider : System Op Resp World Request (Except Failure Answer) Choice Happening where
  handler request := (handle d request).run
  exec _ request o op w := w.exec d request.process o op
  env := World.happen

end Handlers

end TransitBpp
