import TransitBpp.Catalogue
import TransitBpp.Passes

/-!
# Single-journey tickets and passes

`settlement.ts`, `store.ts` and `service.ts` of the single-journey path: a ride or a pass is priced,
a claim that a pass settles a ride is checked, and a confirm issues an order and keeps it in memory.
What one confirm does without waiting is a function here; how confirms interleave is the next module.
-/

namespace TransitBpp.Trv11

open Js (Json)

/-! ## Keys -/

/-- `TransactionIdentity`. -/
structure TransactionIdentity : Type where
  transactionId : String
  bapId : String
  bapUri : String
  deriving DecidableEq

/-- `transactionKey`: the JSON text of an array of strings tells the strings apart. -/
structure TransactionKey : Type where
  operator : PassOperatorKey
  identity : TransactionIdentity
  deriving DecidableEq

/-- `passKey`. -/
structure PassKey : Type where
  operator : PassOperatorKey
  bapId : String
  bapUri : String
  orderId : String
  deriving DecidableEq

def passKey (operator : PassOperatorKey) (identity : TransactionIdentity) (orderId : String) : PassKey :=
  ⟨operator, identity.bapId, identity.bapUri, orderId⟩

/-! ## Offers, requests and orders -/

/-- `RouteStop`; the coordinates are as they print. -/
structure RouteStop : Type where
  code : Option String
  name : String
  nameLocal : Option String
  lat : String
  lon : String
  isInterchange : Bool
  changeHint : Option String

/-- `TransitOffer`. -/
structure TransitOffer : Type where
  offerId : String
  productName : String
  farePaise : ℤ
  serviceTier : Option ServiceTier
  validity : String
  route : List RouteStop
  routeId : String
  routeName : String
  routeColor : Option String

/-- `OperatorProfile`. -/
structure OperatorProfile : Type where
  id : String
  name : String
  /-- `METRO`, or else `BUS` -/
  isMetro : Bool
  startHHMM : String
  endHHMM : String

/-- A service for one operator: its profile and the address it answers at. -/
structure Service : Type where
  profile : OperatorProfile
  subscriberId : String
  subscriberUri : String
  publicBaseUrl : String

/-- What is read of a request's context. -/
structure Trv11Context : Type where
  transactionId : String
  bapId : String
  bapUri : String
  bppId : String
  bppUri : String
  timestamp : String
  /-- `new Date(timestamp).getTime()`, where it is a number -/
  timestampMs : Option ℤ

def Trv11Context.identity (context : Trv11Context) : TransactionIdentity :=
  ⟨context.transactionId, context.bapId, context.bapUri⟩

/-- `SelectedItem`. -/
structure SelectedItem : Type where
  id : String
  count : JsNumber

/-- `quantity.selected.count`, once it is known to be a whole number from 1 to 6. -/
def SelectedItem.units (item : SelectedItem) : ℕ :=
  match item.count with
  | .finite q _ => q.num.toNat
  | _ => 0

/-- `ConfirmRequest`; the schema asks for at least one item. -/
structure ConfirmRequest : Type where
  context : Trv11Context
  items : List SelectedItem
  selected : items ≠ []
  providerId : String
  tags : Option (List Json)
  billing : Json
  payments : List JsonObject

def ConfirmRequest.identity (request : ConfirmRequest) : TransactionIdentity := request.context.identity

/-- `ProtocolOrder`, as `select` answers it. -/
structure ProtocolOrder : Type where
  items : List Json
  provider : Json
  fulfillments : List JsonObject
  quote : Json
  cancellationTerms : List Json
  tags : List Json

/-- A confirmed order. -/
structure ConfirmedOrder extends ProtocolOrder where
  id : String
  status : String
  billing : Json
  payments : List JsonObject
  createdAt : String
  updatedAt : String

/-- `PassCredentialRecord`. -/
structure PassCredentialRecord : Type where
  fulfillmentId : String
  itemId : String
  scope : PassScope
  validFromMs : ℤ
  validToMs : ℤ
  secretBase32 : String
  parameters : TotpParameters

/-! ## The store -/

/-- An entry of `orders`. -/
structure StoredOrder : Type where
  operator : PassOperatorKey
  identity : TransactionIdentity
  order : ConfirmedOrder

/-- `InMemoryOrderStore`. -/
structure Store : Type where
  catalogues : List (TransactionKey × List (String × TransitOffer))
  orders : List (String × StoredOrder)
  ordersByTransaction : List (TransactionKey × String)
  passCredentials : List (PassKey × List PassCredentialRecord)

namespace Store

/-- Nothing was stored yet. -/
def empty : Store := ⟨[], [], [], []⟩

def cacheCatalogue (store : Store) (operator : PassOperatorKey) (identity : TransactionIdentity)
    (offers : List TransitOffer) : Store :=
  { store with
    catalogues := Js.mapSet store.catalogues ⟨operator, identity⟩
      (Js.mapOf (offers.map fun offer => (offer.offerId, offer))) }

def selectedOffers (store : Store) (operator : PassOperatorKey) (identity : TransactionIdentity)
    (itemIds : List String) : Except Failure (List TransitOffer) :=
  match Js.mapGet store.catalogues ⟨operator, identity⟩ with
  | none => throw (.lifecycle "CATALOGUE-NOT-FOUND"
      s!"No search catalogue exists for transaction {identity.transactionId}")
  | some catalogue => itemIds.mapM fun itemId =>
      match Js.mapGet catalogue itemId with
      | none => throw (.lifecycle "ITEM-NOT-FOUND"
          s!"Unknown item.id {itemId} for transaction {identity.transactionId}")
      | some offer => return offer

def save (store : Store) (operator : PassOperatorKey) (identity : TransactionIdentity)
    (order : ConfirmedOrder) : Except Failure Store :=
  if (Js.mapGet store.orders order.id).isSome then
    throw (.lifecycle "ORDER-ID-COLLISION" s!"Generated order.id {order.id} already exists")
  else if (Js.mapGet store.ordersByTransaction ⟨operator, identity⟩).isSome then
    throw (.lifecycle "ORDER-ALREADY-CONFIRMED"
      s!"Transaction {identity.transactionId} already has a confirmed order")
  else return { store with
    orders := Js.mapSet store.orders order.id ⟨operator, identity, order⟩
    ordersByTransaction := Js.mapSet store.ordersByTransaction ⟨operator, identity⟩ order.id }

def savePassCredentials (store : Store) (operator : PassOperatorKey) (identity : TransactionIdentity)
    (orderId : String) (credentials : List PassCredentialRecord) : Store :=
  if credentials.isEmpty then store
  else { store with
    passCredentials := Js.mapSet store.passCredentials (passKey operator identity orderId) credentials }

def findPassCredentials (store : Store) (operator : PassOperatorKey) (identity : TransactionIdentity)
    (orderId : String) : List PassCredentialRecord :=
  (Js.mapGet store.passCredentials (passKey operator identity orderId)).getD []

def findByTransaction (store : Store) (operator : PassOperatorKey) (identity : TransactionIdentity) :
    Option ConfirmedOrder := do
  let orderId ← Js.mapGet store.ordersByTransaction ⟨operator, identity⟩
  let stored ← Js.mapGet store.orders orderId
  return stored.order

def get (store : Store) (operator : PassOperatorKey) (identity : TransactionIdentity)
    (orderId : String) : Except Failure ConfirmedOrder :=
  let unknown : Failure :=
    .lifecycle "ORDER-NOT-FOUND" s!"Unknown order.id {orderId} for operator {operator.wire}"
  match Js.mapGet store.orders orderId with
  | none => throw unknown
  | some stored =>
    if stored.operator ≠ operator ∨ stored.identity ≠ identity then throw unknown
    else return stored.order

end Store

/-! ## Paying for a ride with a pass -/

/-- `PassSettlementClaim`. -/
structure PassSettlementClaim : Type where
  passOrderId : String
  passCode : String

/-- The value of the one entry with a code. -/
def entryValue (list : Option Json) (code : String) : Option String :=
  match ((list.bind array?).getD []).filter fun value => readCode value = some code with
  | [value] => ((value.get? "value").bind Json.str?).map trim |>.filter (· ≠ "")
  | _ => none

/-- The `PASS_SETTLEMENT` tag groups of an order's payments. -/
def settlementGroups (payments : List JsonObject) : List Json :=
  payments.flatMap fun payment =>
    ((((Json.obj payment).get? "tags").bind array?).getD []).filter fun group =>
      readCode group = some "PASS_SETTLEMENT"

/-- Read the settlement claim off the payments; none is the ordinary case. -/
def passSettlementClaim (payments : List JsonObject) : Except Failure (Option PassSettlementClaim) :=
  match settlementGroups payments with
  | [] => return none
  | [group] =>
    match entryValue (group.get? "list") "PASS_ORDER_ID", entryValue (group.get? "list") "PASS_CODE" with
    | some passOrderId, some passCode => return some ⟨passOrderId, passCode⟩
    | _, _ => throw (.lifecycle "PASS-SETTLEMENT-INVALID"
        "PASS_SETTLEMENT needs exactly one PASS_ORDER_ID and one PASS_CODE entry")
  | groups => throw (.lifecycle "PASS-SETTLEMENT-INVALID"
      s!"An order carries at most one PASS_SETTLEMENT tag group; {groups.length} were sent")

def defaultServiceTier (profile : OperatorProfile) : ServiceTier :=
  if profile.isMetro then .metro else .ordinaryBus

def serviceTierForOffer (offer : TransitOffer) (profile : OperatorProfile) : ServiceTier :=
  offer.serviceTier.getD (defaultServiceTier profile)

/-- The first credential whose code matches. -/
def findVerified (hmac : Hmac) (passCode : String) (atMilliseconds : ℤ) :
    List PassCredentialRecord → Except Failure (Option PassCredentialRecord)
  | [] => return none
  | credential :: rest => do
    if ← verifyTotpCode hmac credential.secretBase32 passCode atMilliseconds credential.parameters then
      return some credential
    else findVerified hmac passCode atMilliseconds rest

/-- Check a settlement claim against the credentials this operator minted. -/
def assertPassSettlement (hmac : Hmac) (claim : PassSettlementClaim)
    (credentials : List PassCredentialRecord) (tiers : List ServiceTier) (atMilliseconds : ℤ) :
    Except Failure PassCredentialRecord := do
  let covering := credentials.filter fun credential =>
    tiers.all fun tier => passCovers credential.scope tier
  let inWindow := covering.filter fun credential =>
    credential.validFromMs ≤ atMilliseconds && atMilliseconds < credential.validToMs
  if credentials.isEmpty then throw (.lifecycle "PASS-ORDER-NOT-FOUND"
    (s!"This operator holds no pass under order id {claim.passOrderId} for this buyer app; " ++
      "an operator can only verify a pass it issued itself"))
  else if covering.isEmpty then throw (.lifecycle "PASS-SCOPE-MISMATCH"
    (s!"Pass {claim.passOrderId} is scoped to " ++
      String.intercalate ", " (credentials.map fun credential => credential.scope.wire).dedup ++
      ", which does not cover " ++ String.intercalate ", " (tiers.map ServiceTier.wire).dedup ++
      ". An uncovered service is charged the full fare, with no PASS_SETTLEMENT tag"))
  else if inWindow.isEmpty then throw (.lifecycle "PASS-WINDOW-EXPIRED"
    (s!"Pass {claim.passOrderId} is outside its validity window. " ++
      "A verifier checks the window first and the code second"))
  else
    match ← findVerified hmac claim.passCode atMilliseconds inWindow with
    | some verified => return verified
    | none => throw (.lifecycle "PASS-CODE-INVALID"
        (s!"The code presented for pass {claim.passOrderId} does not match its credential for the " ++
          "current time window"))

/-! ## Rendering -/

/-- `paiseToRupees` of the single-journey path. -/
def paiseToRupees (farePaise : ℤ) : Except Failure String :=
  if !Js.isSafe farePaise || farePaise < 0 then
    throw (.error "farePaise must be a non-negative safe integer")
  else
    let rupees := farePaise / 100
    let paise := farePaise % 100
    return if paise = 0 then toString rupees else s!"{rupees}.{Js.padded 2 paise}"

/-- `toISOString`, which throws on an instant no `Date` can hold. -/
def isoString (atMilliseconds : ℤ) : Except Failure String :=
  match Js.toISOString atMilliseconds with
  | none => throw (.error "Invalid time value")
  | some text => return text

/-- `HHMM.test`. -/
def isHHMM (hhmm : String) : Bool :=
  match hhmm.toList with
  | [a, b, ':', c, d] =>
    ((a == '0' || a == '1') && b.isDigit || a == '2' && '0' ≤ b && b ≤ '3') &&
      '0' ≤ c && c ≤ '5' && d.isDigit
  | _ => false

/-- A time of day on the IST date of a request. -/
def serviceInstant (context : Trv11Context) (hhmm : String) : Except Failure String :=
  match context.timestampMs with
  | none => throw (.error s!"Invalid service timestamp {context.timestamp}")
  | some instant =>
    if ¬ isHHMM hhmm then throw (.error s!"Invalid service time {hhmm}")
    else do
      let localDate := Js.slice (← isoString (instant + indiaOffsetMilliseconds)) 10
      return s!"{localDate}T{hhmm}:00.000+05:30"

/-- Digits and a letter, where the text starts with them. -/
def durationPart (letter : Char) (cs : List Char) : ℕ × List Char :=
  match cs.span Char.isDigit with
  | (d :: ds, c :: rest) =>
    if c = letter then (((d :: ds).foldl (fun n c => n * 10 + (c.toNat - '0'.toNat)) 0), rest) else (0, cs)
  | _ => (0, cs)

/-- `ISO_DURATION`: the days, hours, minutes and seconds of a duration. -/
def isoDuration (duration : String) : Option (ℕ × ℕ × ℕ × ℕ) :=
  match duration.toList with
  | 'P' :: cs =>
    match durationPart 'D' cs with
    | (days, []) => some (days, 0, 0, 0)
    | (days, 'T' :: time) =>
      let (hours, time) := durationPart 'H' time
      let (minutes, time) := durationPart 'M' time
      let (seconds, time) := durationPart 'S' time
      if time = [] then some (days, hours, minutes, seconds) else none
    | _ => none
  | _ => none

def durationMilliseconds (duration : String) : Except Failure ℤ :=
  match isoDuration duration with
  | none => throw (.error s!"Unsupported ticket validity duration {duration}")
  | some (days, hours, minutes, seconds) =>
    let milliseconds : ℤ := (((days * 24 + hours) * 60 + minutes) * 60 + seconds : ℕ) * 1000
    if !Js.isSafe milliseconds || milliseconds ≤ 0 then
      throw (.error s!"Ticket validity must be a positive duration: {duration}")
    else return milliseconds

/-- A string that is there and not empty. -/
def given (text : Option String) : Option String := text.filter (· ≠ "")

def stopType (stop : RouteStop) (index count : ℕ) : String :=
  if index = 0 then "START"
  else if index + 1 = count then "END"
  else if stop.isInterchange then "TRANSIT_STOP" else "INTERMEDIATE_STOP"

def mapStop (count : ℕ) (stop : RouteStop) (index : ℕ) : Json :=
  .obj ([("id", .str (toString (index + 1)))] ++
    (if index = 0 then [] else [("parent_stop_id", .str (toString index))]) ++
    [("type", .str (stopType stop index count))] ++
    (match given stop.changeHint with
      | some hint => [("instructions", .obj [("name", .str stop.name), ("short_desc", .str hint)])]
      | none => []) ++
    [("location", .obj [
      ("descriptor", .obj ([("name", .str stop.name)] ++
        ((given stop.code).map fun code => ("code", Json.str code)).toList)),
      ("gps", .str s!"{stop.lat}, {stop.lon}")])] ++
    (match given stop.nameLocal with
      | some name => [("tags", .arr [.obj [("descriptor", .obj [("code", .str "LOCAL_NAME")]),
          ("list", .arr [entry "NAME" name])]])]
      | none => []))

def tripFulfillmentForOffer (offer : TransitOffer) (isMetro : Bool) (id : String) : JsonObject :=
  [("id", .str id), ("type", .str "TRIP"),
    ("stops", .arr (offer.route.mapIdx fun index stop => mapStop offer.route.length stop index)),
    ("vehicle", .obj [("category", .str (if isMetro then "METRO" else "BUS"))]),
    ("tags", .arr [.obj [("descriptor", .obj [("code", .str "ROUTE_INFO")]),
      ("list", .arr ([entry "ROUTE_ID" offer.routeId, entry "ROUTE_NAME" offer.routeName] ++
        ((given offer.routeColor).map (entry "ROUTE_COLOR")).toList))]])]

/-- A `SPECIMEN_INFO` tag group. -/
def specimenInfo (notice : String) : Json :=
  .obj [("descriptor", .obj [("code", .str "SPECIMEN_INFO")]), ("display", .bool true),
    ("list", .arr [entry "NOTICE" notice])]

def ticketTags (parentId : String) : List Json :=
  [.obj [("descriptor", .obj [("code", .str "INFO")]), ("list", .arr [entry "PARENT_ID" parentId])],
    specimenInfo "SPECIMEN - NOT VALID FOR TRAVEL"]

def specimenOrderTags : List Json :=
  [specimenInfo "SPECIMEN - NOT VALID FOR TRAVEL - not issued by BMTC or BMRCL"]

/-- The `TICKET_INFO` tag group of a ticket number. -/
def ticketInfo (ticketNumber : String) : Json :=
  .obj [("descriptor", .obj [("code", .str "TICKET_INFO")]), ("list", .arr [entry "NUMBER" ticketNumber])]

/-- `{ currency: "INR", value }`. -/
def inr (value : String) : Json := .obj [("currency", .str "INR"), ("value", .str value)]

def paymentWithId (operator : PassOperatorKey) (transactionId : String) (payment : JsonObject)
    (index : ℕ) : JsonObject :=
  let given := (Json.obj payment).get? "id"
  Json.set payment "id" (match given with
    | none => .str s!"PAY-{operator.upper}-{Js.slice transactionId 8}-{index + 1}"
    | some .null => .str s!"PAY-{operator.upper}-{Js.slice transactionId 8}-{index + 1}"
    | some id => id)

/-! ## Pricing a selection -/

/-- One ticket to be issued. -/
structure TicketSpec : Type where
  id : String
  parentId : String
  validity : String
  sequence : ℕ

/-- One unit of a pass, which becomes one rotating credential. -/
structure PassCredentialSpec : Type where
  id : String
  parentId : String
  sequence : ℕ
  item : PassCatalogueItem

/-- `BaseOrder`. -/
structure BaseOrder : Type where
  order : ProtocolOrder
  /-- empty on a pass order -/
  tickets : List TicketSpec
  /-- empty on a single-journey order -/
  passCredentials : List PassCredentialSpec
  /-- the single-journey offers behind the order -/
  offers : List TransitOffer

/-- What one confirm draws from the clock, the id generator and the secret factory. -/
structure Draws : Type where
  /-- the clock, at each item of a ride -/
  itemTime : ℕ → ℤ
  /-- the clock, at a pass selection -/
  passTime : ℤ
  /-- the clock, at the issue -/
  issuedAt : ℤ
  /-- `this.idFactory()` -/
  id : Except Failure String
  /-- the bytes of each credential's secret -/
  secrets : ℕ → Except Failure (List Byte)

/-- What a loop over the selection has collected. -/
structure Lines (Spec : Type) : Type where
  items : List Json
  fulfillments : List JsonObject
  breakup : List Json
  specs : List Spec
  totalPaise : ℤ

/-- Nothing yet. -/
def Lines.none {Spec : Type} : Lines Spec := ⟨[], [], [], [], 0⟩

/-- A `BASE_FARE` line. -/
def baseFare (id : String) (unitPrice : Json) (count : ℕ) (linePrice : Json) : Json :=
  .obj [("title", .str "BASE_FARE"),
    ("item", .obj [("id", .str id), ("price", unitPrice),
      ("quantity", .obj [("selected", .obj [("count", .num count)])])]),
    ("price", linePrice)]

/-- A `TICKET` fulfillment. -/
def ticketFulfillment (parentId id : String) : JsonObject :=
  [("id", .str id), ("type", .str "TICKET"), ("tags", .arr (ticketTags parentId))]

/-- One offer of a ride, `count` times. -/
def ticketLine (profile : OperatorProfile) (itemTime : ℤ) (offer : TransitOffer) (count : ℕ)
    (lines : Lines TicketSpec) : Except Failure (Lines TicketSpec) := do
  let tripId := fulfillmentIdForOffer offer.offerId
  let tickets := (List.range count).map fun ticketIndex =>
    { id := s!"T-{offer.offerId}-{ticketIndex + 1}", parentId := tripId, validity := offer.validity,
      sequence := lines.specs.length + ticketIndex + 1 : TicketSpec }
  let ticketIds := tickets.map TicketSpec.id
  let linePaise := offer.farePaise * count
  if !Js.isSafe (linePaise + lines.totalPaise) then
    throw (.lifecycle "PRICE-OVERFLOW" "Selected fare total exceeds safe integer paise")
  else do
    let unitPrice := inr (← paiseToRupees offer.farePaise)
    let timestamp ← isoString itemTime
    let linePrice := inr (← paiseToRupees linePaise)
    return {
      items := lines.items ++ [.obj [("id", .str offer.offerId), ("category_ids", .arr [.str "C1"]),
        ("descriptor", .obj [("name", .str offer.productName), ("code", .str "SJT")]),
        ("price", unitPrice), ("quantity", .obj [("selected", .obj [("count", .num count)])]),
        ("fulfillment_ids", .arr ((tripId :: ticketIds).map Json.str)),
        ("time", .obj [("label", .str "Validity"), ("duration", .str offer.validity),
          ("timestamp", .str timestamp)])]]
      fulfillments := lines.fulfillments ++
        tripFulfillmentForOffer offer profile.isMetro tripId :: ticketIds.map (ticketFulfillment tripId)
      breakup := lines.breakup ++ [baseFare offer.offerId unitPrice count linePrice]
      specs := lines.specs ++ tickets
      totalPaise := lines.totalPaise + linePaise }

/-- The loop over the offers of a ride. -/
def ticketLines (profile : OperatorProfile) (itemTime : ℕ → ℤ) :
    ℕ → List (TransitOffer × SelectedItem) → Lines TicketSpec → Except Failure (Lines TicketSpec)
  | _, [], lines => return lines
  | index, (offer, selected) :: rest, lines => do
    ticketLines profile itemTime (index + 1) rest
      (← ticketLine profile (itemTime index) offer selected.units lines)

/-- `provider` of an order. -/
def orderProvider (service : Service) (context : Trv11Context) : Except Failure Json := do
  let start ← serviceInstant context service.profile.startHHMM
  let finish ← serviceInstant context service.profile.endHHMM
  return .obj [("id", .str service.profile.id), ("descriptor", .obj [("name", .str service.profile.name)]),
    ("time", .obj [("range", .obj [("start", .str start), ("end", .str finish)])])]

/-- `cancellation_terms` of an order. -/
def cancellationTerms (service : Service) : List Json :=
  [.obj [("external_ref", .obj [("mimetype", .str "text/html"),
    ("url", .str s!"{service.publicBaseUrl}/terms")])]]

/-- `quote` of an order. -/
def quote (totalPaise : ℤ) (breakup : List Json) : Except Failure Json := do
  return .obj [("price", inr (← paiseToRupees totalPaise)), ("breakup", .arr breakup)]

/-- The single-journey path. -/
def ticketBaseOrder (service : Service) (operator : PassOperatorKey) (store : Store)
    (request : ConfirmRequest) (draws : Draws) : Except Failure BaseOrder := do
  assertNoConcessionOnTicketOrder request.tags
  let offers ← store.selectedOffers operator request.identity (request.items.map SelectedItem.id)
  let lines ← ticketLines service.profile draws.itemTime 0 (offers.zip request.items) Lines.none
  let provider ← orderProvider service request.context
  let quote ← quote lines.totalPaise lines.breakup
  return {
    order := {
      items := lines.items
      provider := provider
      fulfillments := lines.fulfillments
      quote := quote
      cancellationTerms := cancellationTerms service
      tags := specimenOrderTags }
    tickets := lines.specs
    passCredentials := []
    offers := offers }

/-- The discount on one line of a pass order. -/
def lineDiscountPaise (concession : Option ConcessionClass) (item : PassCatalogueItem) (count : ℕ) : ℤ :=
  match concession with
  | some concession =>
    concessionDiscountPaise item.pricePaise (concessionRatePercent item concession) * count
  | none => 0

/-- One pass item, `count` times. -/
def passLine (item : PassCatalogueItem) (count : ℕ) (timestamp : String)
    (lines : Lines PassCredentialSpec) : Except Failure (Lines PassCredentialSpec) := do
  let passFulfillmentId := fulfillmentIdForOffer item.id
  let credentials := (List.range count).map fun index =>
    { id := s!"T-{item.id}-{index + 1}", parentId := passFulfillmentId,
      sequence := lines.specs.length + index + 1, item := item : PassCredentialSpec }
  let credentialIds := credentials.map PassCredentialSpec.id
  let linePaise := item.pricePaise * count
  if !Js.isSafe (linePaise + lines.totalPaise) then
    throw (.lifecycle "PRICE-OVERFLOW" "Selected pass total exceeds safe integer paise")
  else do
    let unitPrice := inr (← paiseToRupees item.pricePaise)
    let linePrice := inr (← paiseToRupees linePaise)
    return {
      items := lines.items ++ [.obj [("id", .str item.id), ("category_ids", .arr [.str "C2"]),
        ("descriptor", .obj [("name", .str item.name), ("code", .str "PASS")]),
        ("price", unitPrice), ("quantity", .obj [("selected", .obj [("count", .num count)])]),
        ("fulfillment_ids", .arr ((passFulfillmentId :: credentialIds).map Json.str)),
        ("time", .obj [("label", .str "Validity"), ("duration", .str item.duration),
          ("timestamp", .str timestamp)]),
        ("tags", .arr [passInfoTag item, concessionInfoTag item, syntheticPassTag])]]
      fulfillments := lines.fulfillments ++
        passFulfillment item :: credentialIds.map (ticketFulfillment passFulfillmentId)
      breakup := lines.breakup ++ [baseFare item.id unitPrice count linePrice]
      specs := lines.specs ++ credentials
      totalPaise := lines.totalPaise + linePaise }

/-- The loop over the items of a pass order, with the discount so far. -/
def passLines (service : Service) (operator : PassOperatorKey) (concession : Option ConcessionClass)
    (timestamp : String) : List SelectedItem → Lines PassCredentialSpec → ℤ →
      Except Failure (Lines PassCredentialSpec × ℤ)
  | [], lines, discountPaise => return (lines, discountPaise)
  | selected :: rest, lines, discountPaise =>
    match passItemById operator selected.id with
    | none => throw (.lifecycle "ITEM-NOT-FOUND"
        s!"{service.profile.name} does not sell pass item {selected.id}")
    | some item => do
      passLines service operator concession timestamp rest
        (← passLine item selected.units timestamp lines)
        (discountPaise + lineDiscountPaise concession item selected.units)

/-- The aggregated line of a concession. -/
def concessionLine (concession : Option ConcessionClass) (discountPaise : ℤ) :
    Except Failure (List Json) :=
  match concession with
  | none => return []
  | some concession =>
    if discountPaise ≤ 0 then return []
    else do
      return [.obj [("title", .str s!"{concession.wire}_CONCESSION"),
        ("price", inr ("-" ++ (← paiseToRupees discountPaise)))]]

/-- A pass order, resolved from the published items. -/
def passBaseOrder (service : Service) (operator : PassOperatorKey) (request : ConfirmRequest)
    (draws : Draws) : Except Failure BaseOrder := do
  let concession ← concessionFromOrderTags request.tags
  let timestamp ← isoString draws.passTime
  let (lines, discountPaise) ← passLines service operator concession timestamp request.items Lines.none 0
  let discount ← concessionLine concession discountPaise
  if lines.totalPaise - discountPaise < 0 then
    throw (.lifecycle "PRICE-UNDERFLOW" "A concession cannot discount a pass below zero")
  else do
    let provider ← orderProvider service request.context
    let quote ← quote (lines.totalPaise - discountPaise) (lines.breakup ++ discount)
    return {
      order := {
        items := lines.items
        provider := provider
        fulfillments := lines.fulfillments
        quote := quote
        cancellationTerms := cancellationTerms service
        tags := specimenOrderTags ++ (concession.map concessionTag).toList ++ [syntheticPassTag] }
      tickets := []
      passCredentials := lines.specs
      offers := [] }

def assertBppAddress (service : Service) (context : Trv11Context) : Except Failure Unit :=
  if context.bppId ≠ service.subscriberId ∨ context.bppUri ≠ service.subscriberUri then
    throw (.lifecycle "BPP-ADDRESS-MISMATCH"
      s!"Request must address {service.subscriberId} at {service.subscriberUri}")
  else return ()

def assertPaymentStatus (payments : List JsonObject) (expected : String) : Except Failure Unit :=
  if payments.isEmpty ∨
      payments.any fun payment => ((Json.obj payment).get? "status").bind Json.str? ≠ some expected then
    throw (.lifecycle "INVALID-PAYMENT-STATUS" s!"All payments must have status {expected}")
  else return ()

/-- The quantity of one selected item. -/
def checkQuantity (item : SelectedItem) : Except Failure Unit :=
  if !item.count.isSafeInteger || item.count.below 1 || item.count.above 6 then
    throw (.lifecycle "INVALID-QUANTITY"
      s!"Selected quantity for {item.id} must be an integer from 1 to 6")
  else return ()

/-- A selection is either all pass items or all single-journey items. -/
def baseOrder (service : Service) (operator : PassOperatorKey) (store : Store) (request : ConfirmRequest)
    (draws : Draws) : Except Failure BaseOrder := do
  assertBppAddress service request.context
  if request.providerId ≠ service.profile.id then
    throw (.lifecycle "PROVIDER-NOT-FOUND" s!"Unknown provider.id {request.providerId}")
  else do
    let itemIds := request.items.map SelectedItem.id
    if ¬ itemIds.Nodup then
      throw (.lifecycle "DUPLICATE-ITEM" "Each selected item.id must be unique")
    else do
      request.items.forM checkQuantity
      if ¬ itemIds.any isPassItemId then ticketBaseOrder service operator store request draws
      else if ¬ itemIds.all isPassItemId then
        throw (.lifecycle "MIXED-CATEGORY-ORDER"
          "An order selects pass items or single-journey items, never both")
      else passBaseOrder service operator request draws

/-! ## Confirming -/

/-- A ride settled by a pass is checked against the credentials of that pass. -/
def checkPassSettlement (hmac : Hmac) (service : Service) (operator : PassOperatorKey) (store : Store)
    (request : ConfirmRequest) (base : BaseOrder) (issuedAt : ℤ) : Except Failure Unit := do
  match ← passSettlementClaim request.payments with
  | none => return ()
  | some claim =>
    if ¬ base.passCredentials.isEmpty then
      throw (.lifecycle "PASS-SETTLEMENT-INVALID"
        ("A pass purchase cannot itself be settled by a pass; PASS_SETTLEMENT belongs on a " ++
          "single-journey order"))
    else do
      let _ ← assertPassSettlement hmac claim
        (store.findPassCredentials operator request.identity claim.passOrderId)
        (base.offers.map fun offer => serviceTierForOffer offer service.profile) issuedAt
      return ()

/-- What a confirm has decided before it waits for the encoder. -/
structure Draft : Type where
  base : BaseOrder
  orderId : String

/-- `order.id` of what the generator drew. -/
def orderIdOf (operator : PassOperatorKey) (drawn : String) : Except Failure String :=
  let idComponent := String.ofList (drawn.toList.filter Char.isAlphanum)
  if idComponent = "" then
    throw (.lifecycle "INVALID-ORDER-ID" "Order id generator returned no usable characters")
  else return s!"SPECIMEN-ORD-{operator.upper}-" ++ String.ofList (idComponent.toList.map Char.toUpper)

/-- `confirmNew`, as far as it does not wait. -/
def draft (hmac : Hmac) (service : Service) (operator : PassOperatorKey) (store : Store)
    (request : ConfirmRequest) (draws : Draws) : Except Failure Draft := do
  let base ← baseOrder service operator store request draws
  checkPassSettlement hmac service operator store request base draws.issuedAt
  let orderId ← orderIdOf operator (← draws.id)
  return ⟨base, orderId⟩

/-- `orderId.slice(-8)`. -/
def lastEight (orderId : String) : String :=
  String.ofList (orderId.toList.drop (orderId.toList.length - 8))

def ticketNumberFor (operator : PassOperatorKey) (orderId : String) (sequence : ℕ) : String :=
  s!"SPECIMEN-{operator.upper}-{lastEight orderId}-{Js.padded 2 sequence}"

/-- `ticketAuthorization`, of what the encoder made of the payload. -/
def ticketAuthorization (orderId ticketNumber validity : String) (issuedAt : ℤ)
    (encoder : String → String) : Except Failure Json := do
  let token := encoder s!"SPECIMEN|TRV11|{orderId}|{ticketNumber}|NOT VALID FOR TRAVEL"
  let validTo ← isoString (issuedAt + (← durationMilliseconds validity))
  return .obj [("type", .str "QR"), ("token", .str token), ("valid_to", .str validTo),
    ("status", .str "UNCLAIMED")]

/-- Mint one pass credential. -/
def mintPassCredential (fulfillment : JsonObject) (credential : PassCredentialSpec)
    (ticketNumber : String) (issuedAt : ℤ) (secret : Except Failure (List Byte)) :
    Except Failure (JsonObject × PassCredentialRecord) := do
  let secretBase32 ← mintPassSecret secret
  let window := passValidityWindow issuedAt credential.item.window
  return (Json.set (Json.set fulfillment "stops" (.arr [.obj [("type", .str "START"),
      ("authorization", .obj [("type", .str "TOTP"), ("token", .str secretBase32),
        ("valid_from", .str window.validFrom), ("valid_to", .str window.validTo),
        ("status", .str "ISSUED")])]]))
      "tags" (.arr (ticketTags credential.parentId ++ [totpInfoTag totpParameters,
        ticketInfo ticketNumber])),
    { fulfillmentId := credential.id
      itemId := credential.item.id
      scope := credential.item.scope
      validFromMs := window.validFromMs
      validToMs := window.validToMs
      secretBase32 := secretBase32
      parameters := totpParameters })

/-- One fulfillment of a confirmed order, with the credential that was minted for it. -/
def confirmFulfillment (operator : PassOperatorKey) (issue : Draft) (draws : Draws)
    (encoder : String → String) (fulfillment : JsonObject) :
    Except Failure (JsonObject × List PassCredentialRecord) :=
  let id := (((Json.obj fulfillment).get? "id").bind Json.str?).getD ""
  match issue.base.passCredentials.reverse.find? fun credential => credential.id = id with
  | some credential => do
    let (minted, record) ← mintPassCredential fulfillment credential
      (ticketNumberFor operator issue.orderId credential.sequence) draws.issuedAt
      (draws.secrets credential.sequence)
    return (minted, [record])
  | none =>
    match issue.base.tickets.reverse.find? fun ticket => ticket.id = id with
    | none => return (fulfillment, [])
    | some ticket => do
      let ticketNumber := ticketNumberFor operator issue.orderId ticket.sequence
      let authorization ← ticketAuthorization issue.orderId ticketNumber ticket.validity draws.issuedAt
        encoder
      return (Json.set (Json.set fulfillment "stops" (.arr [.obj [("type", .str "START"),
        ("authorization", authorization)]])) "tags"
        (.arr (ticketTags ticket.parentId ++ [ticketInfo ticketNumber])), [])

/-- An order as it is stored, with the credentials that were minted for it. -/
structure Issued : Type where
  order : ConfirmedOrder
  credentials : List PassCredentialRecord

/-- `confirmNew`, once the encoder has answered. -/
def issued (operator : PassOperatorKey) (request : ConfirmRequest) (draws : Draws) (issue : Draft)
    (encoder : String → String) : Except Failure Issued := do
  let fulfillments ← issue.base.order.fulfillments.mapM
    (confirmFulfillment operator issue draws encoder)
  let createdAt ← isoString draws.issuedAt
  return {
    order := { issue.base.order with
      fulfillments := fulfillments.map Prod.fst
      id := issue.orderId
      status := "ACTIVE"
      billing := request.billing
      payments := request.payments.mapIdx fun index payment =>
        paymentWithId operator request.context.transactionId payment index
      createdAt := createdAt
      updatedAt := createdAt }
    credentials := (fulfillments.map Prod.snd).flatten }

/-- The end of `confirmNew`: the order is saved, and then its credentials. -/
def Store.issue (store : Store) (operator : PassOperatorKey) (identity : TransactionIdentity)
    (issued : Issued) : Except Failure Store := do
  let saved ← store.save operator identity issued.order
  return saved.savePassCredentials operator identity issued.order.id issued.credentials

/-- `confirm`, before it looks for the transaction. -/
def checkConfirm (service : Service) (request : ConfirmRequest) : Except Failure Unit := do
  assertPaymentStatus request.payments "PAID"
  assertBppAddress service request.context

end TransitBpp.Trv11
