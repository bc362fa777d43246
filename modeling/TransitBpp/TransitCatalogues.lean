import TransitBpp.Journeys
import TransitBpp.Requests
import TransitBpp.TransitSchemas

/-!
# Transit catalogues

`catalog.ts` and the pass search of `pass.ts`, with `http.ts` of the journey sources: a search names
two stops or the category of passes, a source answers with offers, and both become items of a
catalogue. What a server answers for a source is used only if it passes both checks; else the fixtures
answer.
-/

namespace TransitBpp.Trv11

open Js (Json)
open JsonSchema

/-! ## What is asked -/

/-- A stop of a search. -/
structure SearchStop : Type where
  /-- `START` or `END` -/
  type : String
  /-- `location.descriptor.code` -/
  code : Option String
  /-- `location.gps` -/
  gps : Option String

/-- `fulfillment` of a search. -/
structure SearchFulfillment : Type where
  /-- where to start and where to end -/
  stops : List SearchStop
  /-- `vehicle.category` -/
  vehicleCategory : Option String

/-- `SearchRequest`. -/
structure SearchRequest : Type where
  /-- who asks -/
  context : Trv11Context
  /-- the stops that are asked about -/
  fulfillment : Option SearchFulfillment
  /-- the category that is asked about -/
  categoryCode : Option String

/-- The unsigned part of `DECIMAL_COORDINATE`. -/
def isDecimalBody (cs : List Char) : Bool :=
  let whole := cs.takeWhile Char.isDigit
  match cs.drop whole.length with
  | [] => !whole.isEmpty
  | '.' :: fraction => !fraction.isEmpty && fraction.all Char.isDigit
  | _ => false

/-- `DECIMAL_COORDINATE`. -/
def isDecimalCoordinate (cs : List Char) : Bool :=
  match cs with
  | '+' :: body => isDecimalBody body
  | '-' :: body => isDecimalBody body
  | body => isDecimalBody body

/-- `Number(part)` of a decimal coordinate. -/
def coordinateOf (cs : List Char) : ℚ := Js.double ((Js.decimal cs).getD 0)

section Host

variable (numberText : ℚ → String)

def parseGps (value : Option String) : Except Failure (Option Gps) :=
  match given value with
  | none => return none
  | some value =>
    match value.toList.splitOn ',' with
    | [first, second] =>
      let (lat, lon) := (Js.trim first, Js.trim second)
      if !isDecimalCoordinate lat || !isDecimalCoordinate lon then
        throw (.error s!"GPS coordinates must be decimal numbers: {value}")
      else if coordinateOf lat < -90 ∨ 90 < coordinateOf lat ∨ coordinateOf lon < -180 ∨
          180 < coordinateOf lon then
        throw (.error s!"GPS coordinates are outside valid ranges: {value}")
      else return some ⟨numberText (coordinateOf lat), numberText (coordinateOf lon)⟩
    | _ => throw (.error s!"GPS must contain exactly one latitude/longitude pair: {value}")

def searchQueryFromRequest (request : SearchRequest) : Except Failure SearchQuery :=
  match request.fulfillment with
  | none => throw (.error ("Search intent carries no fulfillment; a stop-pair search needs one and a " ++
      "PASS-category search is answered from the pass catalogue instead"))
  | some fulfillment =>
    match fulfillment.stops.filter (·.type = "START"), fulfillment.stops.filter (·.type = "END") with
    | [start], [finish] => do
      let fromCode := given (start.code.map trim)
      let toCode := given (finish.code.map trim)
      let fromGps ← parseGps numberText start.gps
      let toGps ← parseGps numberText finish.gps
      if (fromCode.isNone && fromGps.isNone) || (toCode.isNone && toGps.isNone) then
        throw (.error "Each search endpoint must contain a stop code or valid GPS")
      else return ⟨fromCode, toCode, fromGps, toGps⟩
    | _, _ =>
      throw (.error "Search fulfillment must contain exactly one START and one END stop")

end Host

/-- `isPassSearch`. -/
def isPassSearch (request : SearchRequest) : Bool :=
  request.categoryCode.map (fun code => toUpperCase (trim code)) = some "PASS"

/-! ## What a source answers -/

/-- A tier, as the wire spells it. -/
def serviceTierOf (s : String) : Option ServiceTier :=
  [ServiceTier.ordinaryBus, .acBus, .metro].find? fun tier => tier.wire = s

/-- A number, as it prints. -/
def printedOf (numberText : ℚ → String) : Json → Option String
  | .num q => some (numberText q)
  | _ => none

/-- A boolean. -/
def boolOf : Json → Option Bool
  | .bool b => some b
  | _ => none

/-- A stop of a route. -/
def routeStopOf (numberText : ℚ → String) (value : Json) : Option RouteStop := do
  return {
    code := ← optionally "code" Json.str? value
    name := ← field "name" Json.str? value
    nameLocal := ← optionally "nameLocal" Json.str? value
    lat := ← field "lat" (printedOf numberText) value
    lon := ← field "lon" (printedOf numberText) value
    isInterchange := (← optionally "isInterchange" boolOf value).getD false
    changeHint := ← optionally "changeHint" Json.str? value }

/-- An offer. -/
def transitOfferOf (numberText : ℚ → String) (value : Json) : Option TransitOffer := do
  return {
    offerId := ← field "offerId" Json.str? value
    productName := ← field "productName" Json.str? value
    farePaise := ← field "farePaise" integerOf value
    serviceTier := (← optionally "serviceTier" Json.str? value).bind serviceTierOf
    validity := ← field "validity" Json.str? value
    route := ← field "route" (arrayOf (routeStopOf numberText)) value
    routeId := ← field "routeId" Json.str? value
    routeName := ← field "routeName" Json.str? value
    routeColor := ← optionally "routeColor" Json.str? value }

/-- The offers of a body, if it passes both checks. -/
def acceptedOffers (numberText : ℚ → String) (body : Json) : Option (List TransitOffer) :=
  if Documents.journeySourceResponse body then do
    let offers ← field "offers" (arrayOf (transitOfferOf numberText)) body
    match validateOfferSet offers "HTTP journey source response" with
    | .ok () => some offers
    | .error _ => none
  else none

/-- Where the offers of an operator come from. -/
structure JourneySource : Type where
  /-- the fixtures -/
  offers : List TransitOffer
  /-- whether a server is asked first -/
  http : Bool

/-- `search` of a source. `fetched` is the body a server answered in time with, if it did. -/
def JourneySource.search (numberText : ℚ → String) (upperCase : String → String)
    (nearestStopIndex : List RouteStop → Gps → ℤ) (source : JourneySource) (fetched : Option Json)
    (query : SearchQuery) : List TransitOffer :=
  let fallback := Trv11.search upperCase nearestStopIndex source.offers query
  if source.http then (fetched.bind (acceptedOffers numberText)).getD fallback else fallback

/-! ## What is published -/

/-- A tag group that is not shown. -/
def hiddenTag (code : String) (entries : List Json) : Json :=
  .obj [("descriptor", .obj [("code", .str code)]), ("display", .bool false), ("list", .arr entries)]

def providerPayments (publicBaseUrl : String) : List Json :=
  [.obj [("collected_by", .str "BPP"), ("tags", .arr [
    hiddenTag "BUYER_FINDER_FEES" [entry "BUYER_FINDER_FEES_PERCENTAGE" "1"],
    hiddenTag "SETTLEMENT_TERMS" [entry "SETTLEMENT_WINDOW" "P30D",
      entry "SETTLEMENT_BASIS" "INVOICE_RECEIPT", entry "MANDATORY_ARBITRATION" "TRUE",
      entry "COURT_JURISDICTION" "Bengaluru", entry "STATIC_TERMS" s!"{publicBaseUrl}/terms"]])]]

/-- A category of a provider. -/
def category (id name code : String) : Json :=
  .obj [("id", .str id), ("descriptor", .obj [("name", .str name), ("code", .str code)])]

/-- `category_ids`, `descriptor` and `price` of an item that costs so much. -/
def itemTerms (categoryId name code price : String) : JsonObject :=
  [("category_ids", .arr [.str categoryId]),
    ("descriptor", .obj [("name", .str name), ("code", .str code)]), ("price", inr price)]

/-- `quantity` of an item that is published. -/
def publishedQuantity : Json :=
  .obj [("maximum", .obj [("count", .num 6)]), ("minimum", .obj [("count", .num 1)])]

/-- `time` of an item. -/
def validityTime (duration timestamp : String) : Json :=
  .obj [("label", .str "Validity"), ("duration", .str duration), ("timestamp", .str timestamp)]

/-- An item of a catalogue. -/
def publishedItem (id : String) (terms : JsonObject) (duration timestamp : String)
    (more : JsonObject) : Json :=
  .obj ([("id", .str id)] ++ terms ++ [("quantity", publishedQuantity),
    ("fulfillment_ids", .arr [.str (fulfillmentIdForOffer id)]),
    ("time", validityTime duration timestamp)] ++ more)

/-- An offer as an item, as the clock reads then. -/
def offerItem (offer : TransitOffer) (now : ℤ) : Except Failure Json := do
  let price ← paiseToRupees offer.farePaise
  let timestamp ← isoString now
  return publishedItem offer.offerId (itemTerms "C1" offer.productName "SJT" price) offer.validity
    timestamp []

/-- A pass as an item. -/
def passCatalogueItem (timestamp : String) (item : PassCatalogueItem) : Except Failure Json := do
  let price ← paiseToRupees item.pricePaise
  return publishedItem item.id (itemTerms "C2" item.name "PASS" price) item.duration timestamp
    [("tags", .arr [passInfoTag item, concessionInfoTag item, syntheticPassTag])]

/-- `time` of a provider: when it serves on the date of a request. -/
def providerTime (service : Service) (context : Trv11Context) : Except Failure Json := do
  let start ← serviceInstant context service.profile.startHHMM
  let finish ← serviceInstant context service.profile.endHHMM
  return .obj [("range", .obj [("start", .str start), ("end", .str finish)])]

/-- A provider of a catalogue. -/
def publishedProvider (service : Service) (categories : List Json) (time : Json)
    (items fulfillments : List Json) : Json :=
  .obj [("id", .str service.profile.id),
    ("descriptor", .obj [("name", .str service.profile.name)]), ("categories", .arr categories),
    ("time", time), ("items", .arr items), ("fulfillments", .arr fulfillments),
    ("payments", .arr (providerPayments service.publicBaseUrl))]

/-- `catalog`: there is a provider only where it has something to sell. -/
def catalog (name : String) (provider : Json) (empty : Bool) : Json :=
  .obj [("descriptor", .obj [("name", .str name)]),
    ("providers", .arr (if empty then [] else [provider]))]

/-- What a search reads off the clock. -/
structure SearchDraws : Type where
  /-- at each item of a ride -/
  itemTime : ℕ → ℤ
  /-- at the end, or once for all passes -/
  publishedAt : ℤ

/-- `catalog` of `buildOnSearch`. -/
def buildOnSearch (service : Service) (context : Trv11Context) (offers : List TransitOffer)
    (draws : SearchDraws) : Except Failure Json := do
  let time ← providerTime service context
  let items ← offers.zipIdx.mapM fun offer => offerItem offer.1 (draws.itemTime offer.2)
  let fulfillments := offers.map fun offer =>
    Json.obj (tripFulfillmentForOffer offer service.profile.isMetro (fulfillmentIdForOffer offer.offerId))
  let provider := publishedProvider service [category "C1" "Ticket" "TICKET"] time items fulfillments
  return catalog s!"{service.profile.name} Specimen Catalogue" provider offers.isEmpty

def passCatalogueFor (operator : PassOperatorKey) : List PassCatalogueItem :=
  passCatalogue.filter fun item => item.operator = operator

/-- `catalog` of `buildPassOnSearch`. -/
def buildPassOnSearch (service : Service) (operator : PassOperatorKey) (context : Trv11Context)
    (draws : SearchDraws) : Except Failure Json := do
  let timestamp ← isoString draws.publishedAt
  let time ← providerTime service context
  let items ← (passCatalogueFor operator).mapM (passCatalogueItem timestamp)
  let fulfillments := (passCatalogueFor operator).map fun item => Json.obj (passFulfillment item)
  let categories := [category "C1" "Ticket" "TICKET", category "C2" "Pass" "PASS"]
  let provider := publishedProvider service categories time items fulfillments
  return catalog s!"{service.profile.name} Specimen Pass Catalogue" provider
    (passCatalogueFor operator).isEmpty

end TransitBpp.Trv11
