import TransitBpp.Pricing
import TransitBpp.Seats

/-!
# What crosses the wire

`catalog.ts` and the item ids of `domain.ts`: every tag, item and fulfillment this category
publishes, and the order they make up. An `Order` is the answer's `message.order` and at the same
time the value stored in `order_json`.
-/

namespace TransitBpp

open Js

/-! ## Item ids -/

/-- The identity of an item: the service, the date and the class. -/
def reservedItemId (serviceId travelDate serviceClass : String) : Except Failure String :=
  if (calendarDate travelDate).isSome then return s!"RSV-{serviceId}-{travelDate}-{serviceClass}"
  else throw (.error
    s!"A reserved item id needs a bare travel date in YYYY-MM-DD, not {travelDate}")

/-- A character of `[A-Z0-9_]`. -/
def isClassChar (c : Char) : Bool := c.isUpper || c.isDigit || c == '_'

/-- A character `.` of a regular expression does not match. -/
def isLineTerminator (c : Char) : Bool :=
  c == '\n' || c == '\r' || c.toNat == 0x2028 || c.toNat == 0x2029

/-- The three facts an item id carries. -/
structure ReservedItem : Type where
  /-- which service -/
  serviceId : String
  /-- on which date -/
  travelDate : String
  /-- in which class -/
  serviceClass : String
  deriving DecidableEq, Repr

/-- `/^RSV-(.+)-(\d{4}-\d{2}-\d{2})-([A-Z0-9_]+)$/`, read from the right: the class holds no
hyphen, so it is the maximal run of class characters at the end. -/
def parseReservedItemId (itemId : String) : Option ReservedItem :=
  let back := itemId.toList.reverse
  let serviceClass := (back.takeWhile isClassChar).reverse
  match back.drop serviceClass.length with
  | '-' :: rest =>
    let travelDate := String.ofList (rest.take 10).reverse
    match rest.drop 10 with
    | '-' :: more =>
      match more.reverse with
      | 'R' :: 'S' :: 'V' :: '-' :: serviceId =>
        if !serviceClass.isEmpty && (calendarDate travelDate).isSome && !serviceId.isEmpty &&
            !serviceId.any isLineTerminator then
          some ⟨String.ofList serviceId, travelDate, String.ofList serviceClass⟩
        else none
      | _ => none
    | _ => none
  | _ => none

/-- The id of an item's only fulfillment. -/
def reservedFulfillmentId (itemId : String) : String := s!"F-{itemId}"

/-! ## Notices -/

/-- The mark that rides on every reserved item. -/
def simulatedInventoryMark : String :=
  "Modelled inventory. The seats shown as sold are simulated by this specimen provider, not KSRTC's live availability."

/-- The notice of an unconfirmed order. -/
def specimenNotice : String := "SPECIMEN - NOT VALID FOR TRAVEL"

/-- The notice of a confirmed order. -/
def confirmedSpecimenNotice : String :=
  "SPECIMEN - NOT VALID FOR TRAVEL - not issued by KSRTC, NWKRTC or KKRTC"

/-- `SERVICE_CLASS_NAMES`: what a rider is told they are buying. -/
def serviceClassName : ServiceClass → String
  | .rajahamsaExecutive => "Rajahamsa Executive"
  | .airavat => "Airavat"
  | .airavatClubClass => "Airavat Club Class"
  | .pallakki => "Pallakki non-AC sleeper"
  | .ambaariUtsav => "Ambaari Utsav"
  | .ashwamedha => "Ashwamedha (Point to Point Express)"
  | .nonAcSleeper => "Non-AC Sleeper"
  | .ambaariDreamClass => "Ambaari Dream Class"
  | .airavatClubClass2 => "Airavat Club Class 2.0"
  | .evPowerPlus => "EV Power Plus"
  | .flybus => "Flybus"
  | .kalyanaRatha => "Kalyana Ratha (AC Sleeper)"
  | .amoghavarsha => "Amoghavarsha (Non-AC Sleeper)"
  | .acSeaterExecutiveChair => "AC Seater Executive Chair"
  | .acSleeper => "AC Sleeper"

/-! ## Tags -/

/-- The service a rider is buying a seat on. -/
def serviceInfoTag (service : ReservedService) (travelDate : String) : Tag :=
  ⟨"SERVICE_INFO", true,
    [⟨"SERVICE_ID", service.serviceId⟩, ⟨"SERVICE_NUMBER", service.serviceNumber⟩,
      ⟨"TRAVEL_DATE", travelDate⟩, ⟨"SERVICE_CLASS", service.serviceClass.wire⟩,
      ⟨"RUNNING_MINUTES", toString service.runningMinutes⟩]⟩

/-- The pair the price beside it was computed for. -/
def pricedForTag (pair : BoardingPair) (sourcing : SourcingLabel) : Tag :=
  ⟨"PRICED_FOR", false,
    [⟨"FROM_BOARDING_POINT_ID", pair.fromBoardingPointId⟩,
      ⟨"TO_BOARDING_POINT_ID", pair.toBoardingPointId⟩, ⟨"FARE_SOURCING", sourcing.wire⟩]⟩

/-- How the service is known. -/
def serviceProvenanceTag (service : ReservedService) : Tag :=
  ⟨"SERVICE_PROVENANCE", false,
    [⟨"BASIS", service.provenance.wire⟩, ⟨"SOURCE_COUNT", toString service.provenanceSourceCount⟩]⟩

/-- The brand, and only the brand. -/
def operatorDisclosureTag (service : ReservedService) : Tag :=
  ⟨"OPERATOR_DISCLOSURE", true, [⟨"BRAND", service.brand.wire⟩]⟩

/-- That the sold seats are simulated. -/
def simulatedInventoryTag : Tag := ⟨"SIMULATED_INVENTORY", true, [⟨"NOTICE", simulatedInventoryMark⟩]⟩

/-- That nothing here is valid for travel. -/
def specimenTag (notice : String) : Tag := ⟨"SPECIMEN_INFO", true, [⟨"NOTICE", notice⟩]⟩

/-- Which seat map a service uses. -/
def seatMapRefTag (seatMapId : String) : Tag :=
  ⟨"SEAT_MAP_REF", false, [⟨"SEAT_MAP_ID", seatMapId⟩]⟩

/-- Every seat and its state, both decks in one payload. -/
def seatMapTag (seatMapId : String) (states : List (String × SeatState)) : Tag :=
  ⟨"SEAT_MAP", false, ⟨"SEAT_MAP_ID", seatMapId⟩ :: states.map fun e => ⟨e.1, e.2.wire⟩⟩

/-- The hold, with the absolute instant it expires at. -/
def holdInfoTag (holdId : String) (expiresAt ttlSeconds : ℤ) : Except Failure Tag := do
  return ⟨"HOLD_INFO", true,
    [⟨"HOLD_ID", holdId⟩, ⟨"EXPIRES_AT", ← istIsoInstant expiresAt⟩,
      ⟨"TTL_SECONDS", toString ttlSeconds⟩]⟩

/-- The geometry the states are states of. -/
def seatMapLayoutTag (seatMap : SeatMap) : Tag :=
  ⟨"SEAT_MAP_LAYOUT", false,
    [⟨"SEAT_MAP_ID", seatMap.seatMapId⟩, ⟨"KIND", seatMap.kind.wire⟩,
      ⟨"DECKS", toString seatMap.decks⟩] ++
    (seatMap.documentedCapacity.elim [] fun n => [⟨"DOCUMENTED_CAPACITY", toString n⟩]) ++
    seatMap.seats.flatMap fun seat =>
      [⟨"SEAT_ID", seat.seatId⟩, ⟨"DECK", toString seat.deck⟩, ⟨"ROW", toString seat.row⟩,
        ⟨"COLUMN", toString seat.column⟩, ⟨"WINDOW", if seat.window then "true" else "false"⟩] ++
      ((seat.pairedSeatId.filter fun id => id ≠ "").elim [] fun id => [⟨"PAIRED_SEAT_ID", id⟩]) ++
      (if seat.adjacentSeatIds.isEmpty then []
        else [⟨"ADJACENT_SEAT_IDS", ",".intercalate seat.adjacentSeatIds⟩])⟩

/-- One `SEAT_ID` entry for each seat. -/
def seatEntries (seatIds : List String) : List TagEntry := seatIds.map fun id => ⟨"SEAT_ID", id⟩

/-- The seats an order holds. -/
def seatsTag (seatIds : List String) : Tag := ⟨"SEATS", false, seatEntries seatIds⟩

/-- The seats a cancellation took. -/
def cancelledSeatsTag (seatIds : List String) : Tag :=
  ⟨"CANCELLED_SEATS", true, seatEntries seatIds⟩

/-- The rider-facing reference. -/
def bookingRefTag (reference : String) : Tag := ⟨"BOOKING_REF", true, [⟨"NUMBER", reference⟩]⟩

/-- The two fields a vehicle join needs. -/
def vehicleLookupTag (service : ReservedService) (travelDate : String) : Tag :=
  ⟨"VEHICLE_LOOKUP", false, [⟨"SERVICE_ID", service.serviceId⟩, ⟨"TRAVEL_DATE", travelDate⟩]⟩

/-- A refund quote. -/
def refundSlabTag (slabCode : SlabCode) (slabPercent : ℤ) (quoteId : String)
    (quoteExpiresAt : ℤ) : Except Failure Tag := do
  return ⟨"REFUND_SLAB", true,
    [⟨"SLAB_CODE", slabCode.wire⟩, ⟨"PERCENT", toString slabPercent⟩,
      ⟨"REFUND_QUOTE_ID", quoteId⟩, ⟨"QUOTE_EXPIRES_AT", ← istIsoInstant quoteExpiresAt⟩]⟩

/-- A tag entry as JSON. -/
def TagEntry.toJson (e : TagEntry) : Json :=
  .obj [("descriptor", .obj [("code", .str e.code)]), ("value", .str e.value)]

/-- A tag as JSON. -/
def Tag.toJson (tag : Tag) : Json :=
  .obj [("descriptor", .obj [("code", .str tag.code)]), ("display", .bool tag.display),
    ("list", .arr (tag.list.map TagEntry.toJson))]

/-! ## Items and fulfillments -/

/-- An item of the catalogue or of an order. -/
structure Item : Type where
  /-- the item id -/
  id : String
  /-- the class's display name -/
  name : String
  /-- the headline or quoted price of one seat -/
  price : Price
  /-- seats a buyer could still take -/
  availableCount : Option ℕ
  /-- seats this order asks for -/
  selectedCount : Option ℤ
  /-- its fulfillments -/
  fulfillmentIds : List String
  /-- the departure -/
  departure : String
  /-- its tags -/
  tags : List Tag

/-- An item for a service on a date. -/
def reservedItem (service : ReservedService) (travelDate : String) (pricePaise : ℤ)
    (pair : BoardingPair) (fareSourcing : SourcingLabel) (availableCount : Option ℕ)
    (selectedCount : Option ℤ) : Except Failure Item := do
  let itemId ← reservedItemId service.serviceId travelDate service.serviceClass.wire
  let shown ← price pricePaise
  let departure ← stopInstant travelDate service.departureMinute 0
  return {
    id := itemId
    name := serviceClassName service.serviceClass
    price := shown
    availableCount
    selectedCount
    fulfillmentIds := [reservedFulfillmentId itemId]
    departure
    tags := [serviceInfoTag service travelDate, pricedForTag pair fareSourcing,
      operatorDisclosureTag service, serviceProvenanceTag service, simulatedInventoryTag,
      specimenTag specimenNotice] }

/-- Where a stop is along the run. -/
inductive StopType : Type where
  | start | intermediate | stop
  deriving DecidableEq, Repr

/-- A stop of a fulfillment. -/
structure Stop : Type where
  /-- its position, from 1 -/
  id : String
  /-- the stop before it -/
  parentStopId : Option String
  /-- first, last or between -/
  type : StopType
  /-- the point's name -/
  name : String
  /-- the point's id -/
  code : String
  /-- its coordinate, where there is one -/
  gps : Option String
  /-- the instant it is reached -/
  timestamp : String
  /-- its tags -/
  tags : List Tag

/-- A fulfillment. -/
structure Fulfillment : Type where
  /-- its id -/
  id : String
  /-- its stops -/
  stops : List Stop
  /-- its tags -/
  tags : List Tag

/-- Whether a stop can be boarded at, alighted at, or both. -/
def stopRoleTag (roles : List String) : Tag :=
  ⟨"STOP_ROLE", true, roles.map fun role => ⟨"ROLE", role⟩⟩

/-- A stop at a point of a run. -/
def stopAt (service : ReservedService) (travelDate id : String) (parentStopId : Option String)
    (type : StopType) (point : BoardingPoint) (roles : List String) : Except Failure Stop := do
  let timestamp ← stopInstant travelDate service.departureMinute point.reportingOffsetMinutes
  return {
    id, parentStopId, type
    name := point.name
    code := point.boardingPointId
    gps := point.gps.map fun p => s!"{p.1}, {p.2}"
    timestamp
    tags := [stopRoleTag roles] }

/-- Add a point to a run: a point that appears in both lists carries both roles. -/
def addStop (ordered : List (BoardingPoint × List String)) (role : String)
    (point : BoardingPoint) : List (BoardingPoint × List String) :=
  if ordered.any fun s => s.1.boardingPointId = point.boardingPointId then
    ordered.map fun s =>
      if s.1.boardingPointId = point.boardingPointId && !s.2.contains role then
        (s.1, s.2 ++ [role])
      else s
  else ordered ++ [(point, [role])]

/-- The published run, in travel order, each point once, carrying its roles. -/
def runStops (service : ReservedService) : List (BoardingPoint × List String) :=
  let boarded := service.boardingPoints.foldl (fun run p => addStop run "BOARDING" p) []
  service.droppingPoints.foldl (fun run p => addStop run "DROPPING" p) boarded

/-- The whole run, in travel order, with an absolute instant at every stop. -/
def catalogueFulfillment (service : ReservedService) (travelDate : String) :
    Except Failure Fulfillment := do
  let itemId ← reservedItemId service.serviceId travelDate service.serviceClass.wire
  let run := runStops service
  let stops ← run.zipIdx.mapM fun s =>
    let type := if s.2 = 0 then StopType.start
      else if s.2 + 1 = run.length then .stop else .intermediate
    let parent := if s.2 = 0 then none else some (toString s.2)
    stopAt service travelDate (toString (s.2 + 1)) parent type s.1.1 s.1.2
  return ⟨reservedFulfillmentId itemId, stops, [seatMapRefTag service.seatMapId]⟩

/-- The two stops the rider chose. -/
def orderFulfillment (service : ReservedService) (travelDate : String) (pair : BoardingPair)
    (tags : List Tag) : Except Failure Fulfillment := do
  let itemId ← reservedItemId service.serviceId travelDate service.serviceClass.wire
  let points := service.boardingPoints ++ service.droppingPoints
  let find (id : String) : Except Failure BoardingPoint :=
    match points.find? fun p => p.boardingPointId = id with
    | some point => return point
    | none => refuse .serviceNotFound s!"Service {service.serviceId} does not stop at {id}" []
  let boarding ← find pair.fromBoardingPointId
  let dropping ← find pair.toBoardingPointId
  let start ← stopAt service travelDate "1" none .start boarding ["BOARDING"]
  let stop ← stopAt service travelDate "2" (some "1") .stop dropping ["DROPPING"]
  return ⟨reservedFulfillmentId itemId, [start, stop], tags⟩

/-! ## Orders -/

/-- A line of a quote or of a refund. -/
structure PriceLine : Type where
  /-- what a client keys off -/
  code : String
  /-- what the rider reads -/
  title : String
  /-- the amount -/
  price : Price

/-- A quote or a refund: a price and the lines that explain it. -/
structure Quote : Type where
  /-- the total -/
  price : Price
  /-- the lines -/
  breakup : List PriceLine

/-- The status of a booked order. -/
inductive OrderStatus : Type where
  | active | cancelled
  deriving DecidableEq, Repr

/-- `message.order` of an answer, and the value of `order_json`. -/
structure Order : Type where
  /-- the order id, once booked -/
  id : Option String
  /-- the status, once booked -/
  status : Option OrderStatus
  /-- the provider's id -/
  providerId : String
  /-- the provider's name -/
  providerName : String
  /-- the items -/
  items : List Item
  /-- the fulfillments -/
  fulfillments : List Fulfillment
  /-- what was quoted -/
  quote : Quote
  /-- the buyer's contact, as sent -/
  billing : Option JsonObject
  /-- the buyer's payments, as sent, each with an id -/
  payments : Option (List JsonObject)
  /-- the address of the terms -/
  termsUrl : String
  /-- when the order was confirmed -/
  createdAt : Option String
  /-- its tags -/
  tags : List Tag

/-! ### Orders as JSON -/

/-- `{ ...(value ? { [key]: value } : {}) }`. -/
def optionalField {α : Type} (key : String) (toJson : α → Json) (value : Option α) : JsonObject :=
  value.elim [] fun v => [(key, toJson v)]

/-- A list of tags as JSON. -/
def tagsJson (tags : List Tag) : Json := .arr (tags.map Tag.toJson)

/-- A price as JSON. -/
def Price.toJson (p : Price) : Json := .obj [("currency", .str "INR"), ("value", .str p.value)]

/-- A count as JSON. -/
def countJson (n : ℤ) : Json := .obj [("count", .num n)]

/-- An item as JSON. -/
def Item.toJson (item : Item) : Json :=
  .obj [("id", .str item.id), ("category_ids", .arr [.str "C3"]),
    ("descriptor", .obj [("name", .str item.name), ("code", .str "RESERVED")]),
    ("price", item.price.toJson),
    ("quantity", .obj (optionalField "available" (fun n : ℕ => countJson n) item.availableCount ++
      optionalField "selected" countJson item.selectedCount ++
      [("maximum", countJson 6), ("minimum", countJson 1)])),
    ("fulfillment_ids", jsonStrings item.fulfillmentIds),
    ("time", .obj [("label", .str "Departure"), ("timestamp", .str item.departure)]),
    ("tags", tagsJson item.tags)]

/-- The stop type as the wire spells it. -/
def StopType.wire : StopType → String
  | start => "START"
  | intermediate => "INTERMEDIATE_STOP"
  | stop => "END"

/-- A stop as JSON. -/
def Stop.toJson (stop : Stop) : Json :=
  .obj (("id", .str stop.id) :: optionalField "parent_stop_id" .str stop.parentStopId ++
    [("type", .str stop.type.wire),
      ("location", .obj (("descriptor", .obj [("name", .str stop.name), ("code", .str stop.code)]) ::
        optionalField "gps" .str stop.gps)),
      ("time", .obj [("timestamp", .str stop.timestamp)]), ("tags", tagsJson stop.tags)])

/-- A fulfillment as JSON. -/
def Fulfillment.toJson (f : Fulfillment) : Json :=
  .obj [("id", .str f.id), ("type", .str "RESERVATION"),
    ("vehicle", .obj [("category", .str "COACH")]), ("stops", .arr (f.stops.map Stop.toJson)),
    ("tags", tagsJson f.tags)]

/-- A line of a quote or of a refund as JSON. -/
def PriceLine.toJson (line : PriceLine) : Json :=
  .obj [("code", .str line.code), ("title", .str line.title), ("price", line.price.toJson)]

/-- A quote or a refund as JSON. -/
def Quote.toJson (quote : Quote) : Json :=
  .obj [("price", quote.price.toJson), ("breakup", .arr (quote.breakup.map PriceLine.toJson))]

/-- The order status as the wire spells it. -/
def OrderStatus.wire : OrderStatus → String
  | active => "ACTIVE"
  | cancelled => "CANCELLED"

/-- The fields of an order, in the order the source writes them. -/
def Order.fields (order : Order) : JsonObject :=
  optionalField "id" .str order.id ++
    optionalField "status" (fun s => .str (OrderStatus.wire s)) order.status ++
    [("provider", .obj [("id", .str order.providerId),
        ("descriptor", .obj [("name", .str order.providerName)])]),
      ("items", .arr (order.items.map Item.toJson)),
      ("fulfillments", .arr (order.fulfillments.map Fulfillment.toJson)),
      ("quote", order.quote.toJson)] ++
    optionalField "billing" .obj order.billing ++
    optionalField "payments" (fun payments => .arr (payments.map .obj)) order.payments ++
    [("cancellation_terms", .arr [.obj [("external_ref", .obj [("mimetype", .str "text/html"),
        ("url", .str order.termsUrl)])]])] ++
    optionalField "created_at" .str order.createdAt ++
    optionalField "updated_at" .str order.createdAt ++ [("tags", tagsJson order.tags)]

/-- An order as JSON. -/
def Order.toJson (order : Order) : Json := .obj order.fields

end TransitBpp
