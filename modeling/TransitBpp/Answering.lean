import TransitBpp.Desk
import TransitBpp.Requests

/-!
# Answering the six actions

`handler.ts`, with `ack.ts`: how a request becomes work, and how what the work comes to becomes the
payload that is posted back or, where the deployment answers synchronously, returned on the open
connection. Every payload is checked against the schema of its callback before it goes out, and
replaced by an answer of last resort where it does not fit.

The log lines are left out, and so is a clock past the year 275760, whose instants cannot be
written.
-/

namespace TransitBpp

open Interleave Js JsonSchema

/-! ## The deployment -/

/-- What the schema validator and the host bring along. -/
structure Validator : Type where
  /-- the format `date-time` -/
  dateTime : String → Bool
  /-- the errors reported about a document the schema of an action refuses -/
  errors : String → Json → Json
  /-- `String(n)` -/
  numberText : ℚ → String

/-- A callback address, taken apart around its path. -/
structure CallbackUrl : Type where
  /-- up to the path -/
  before : String
  /-- `pathname` -/
  pathname : String
  /-- behind the path -/
  after : String
  deriving DecidableEq, Repr

/-- `ReservedHandlerDependencies`. -/
structure HandlerConfig : Type where
  /-- the deployment the orders are served for -/
  deployment : Deployment
  /-- the `ttl` of every context -/
  contextTtl : String
  /-- where callbacks are posted -/
  callbackUrl : CallbackUrl
  /-- whether answers go out on the open connection -/
  syncResponses : Bool
  /-- how long those may take -/
  syncTimeoutMs : Option ℤ

/-- `RESERVED_SYNC_TIMEOUT_MS`. -/
def reservedSyncTimeoutMs : ℤ := 8000

/-- The deadline of a synchronous answer. -/
def HandlerConfig.deadlineMs (c : HandlerConfig) : ℤ := c.syncTimeoutMs.getD reservedSyncTimeoutMs

/-- What comes in: the process it comes to, the path it was sent to (`none` is `inbound`) and the
body. -/
structure Incoming : Type where
  /-- which process -/
  process : ℕ
  /-- the last part of the path -/
  path : Option ReservedAction
  /-- the body, parsed -/
  body : Json

/-- What goes out on the connection. -/
structure Reply : Type where
  /-- the HTTP status -/
  status : ℕ
  /-- the body -/
  body : Json

/-- What is posted elsewhere. -/
structure Post : Type where
  /-- the address -/
  url : CallbackUrl
  /-- the body -/
  body : Json

/-! ## Acknowledgements -/

/-- `ack`. -/
def ack : Json := .obj [("message", .obj [("ack", .obj [("status", .str "ACK")])])]

/-- `nack`. -/
def nack (message : String) (data : Option Json) : Json :=
  .obj [("message", .obj [("ack", .obj [("status", .str "NACK")])]),
    ("error", .obj ([("code", .str "40000"), ("type", .str "JSON-SCHEMA-ERROR"),
      ("message", .str message)] ++ optionalField "data" id data))]

/-! ## Addresses -/

/-- The last part of a path, behind its last slash. -/
def lastPart (cs : List Char) : List Char := (cs.reverse.takeWhile (· ≠ '/')).reverse

/-- Whether the last part of a path is `on_` and something more, behind a slash. -/
def endsInCallback (cs : List Char) : Bool :=
  "on_".toList.isPrefixOf (lastPart cs) && 3 < (lastPart cs).length &&
    (lastPart cs).length < cs.length

/-- A path without the slash at its end. -/
def withoutSlash (cs : List Char) : List Char := if cs.getLast? = some '/' then cs.dropLast else cs

/-- The path of a callback: in place of another callback's name, or added. -/
def callbackPath (pathname action : String) : String :=
  let cs := pathname.toList
  if endsInCallback cs then String.ofList (cs.take (cs.length - (lastPart cs).length)) ++ action
  else String.ofList (withoutSlash cs) ++ "/" ++ action

/-- `callbackUrlFor`. -/
def callbackUrlFor (base : CallbackUrl) (action : String) : CallbackUrl :=
  { base with pathname := callbackPath base.pathname action }

/-! ## Payloads -/

/-- The codes as the wire spells them. -/
def ReservedErrorCode.wire : ReservedErrorCode → String
  | travelDateRequired => "TRAVEL-DATE-REQUIRED"
  | serviceNotFound => "SERVICE-NOT-FOUND"
  | outsideBookingWindow => "OUTSIDE-BOOKING-WINDOW"
  | fareNotPublished => "FARE-NOT-PUBLISHED"
  | seatNotOnMap => "SEAT-NOT-ON-MAP"
  | seatUnavailable => "SEAT-UNAVAILABLE"
  | seatGenderLocked => "SEAT-GENDER-LOCKED"
  | seatCountMismatch => "SEAT-COUNT-MISMATCH"
  | holdRequired => "HOLD-REQUIRED"
  | holdExpired => "HOLD-EXPIRED"
  | holdSeatMismatch => "HOLD-SEAT-MISMATCH"
  | manifestIncomplete => "MANIFEST-INCOMPLETE"
  | manifestFieldNotAccepted => "MANIFEST-FIELD-NOT-ACCEPTED"
  | concessionRateNotPublished => "CONCESSION-RATE-NOT-PUBLISHED"
  | concessionNotApplicable => "CONCESSION-NOT-APPLICABLE"
  | bookingNotFound => "BOOKING-NOT-FOUND"
  | refundSlabMoved => "REFUND-SLAB-MOVED"
  | refundQuoteExpired => "REFUND-QUOTE-EXPIRED"
  | mixedCategoryOrder => "MIXED-CATEGORY-ORDER"
  | cancelSeatNotOnBooking => "CANCEL-SEAT-NOT-ON-BOOKING"
  | bppAddressMismatch => "BPP-ADDRESS-MISMATCH"
  | invalidPaymentStatus => "INVALID-PAYMENT-STATUS"
  | internalError => "INTERNAL-ERROR"

/-- A catalogue as JSON. -/
def Catalog.toJson (catalog : Catalog) : Json :=
  .obj [("descriptor", .obj [("name", .str catalog.name)]),
    ("providers", .arr [.obj [("id", .str catalog.providerId),
      ("descriptor", .obj [("name", .str catalog.providerName)]),
      ("categories", .arr [.obj [("id", .str "C3"),
        ("descriptor", .obj [("name", .str "Reserved"), ("code", .str "RESERVED")])]]),
      ("items", .arr (catalog.items.map Item.toJson)),
      ("fulfillments", .arr (catalog.fulfillments.map Fulfillment.toJson))]])]

/-- The message of an answer. -/
def Answer.message : Answer → JsonObject
  | .catalog published => [("catalog", published.toJson)]
  | .order booked refund tags => ("order", booked.toJson) ::
      optionalField "refund" Quote.toJson refund ++ if tags = [] then [] else [("tags", tagsJson tags)]

/-- Whether a value counts as true. -/
def truthy : Json → Bool
  | .null => false
  | .bool b => b
  | .num q => q ≠ 0
  | .str s => s ≠ ""
  | .arr _ => true
  | .obj _ => true

/-- The seats a refusal is about. -/
def unavailableSeatsTag (seatIds : List Json) : Json :=
  .obj [("descriptor", .obj [("code", .str "UNAVAILABLE_SEATS")]), ("display", .bool false),
    ("list", .arr (seatIds.map fun id =>
      .obj [("descriptor", .obj [("code", .str "SEAT_ID")]), ("value", id)]))]

/-- What rides beside a refusal, where anything does; never an order. -/
def refusalMessage (error : ReservedLifecycleError) : JsonObject :=
  let attachment (key : String) : Option Json := ((Json.obj error.attachment).get? key).filter truthy
  let tags := (match attachment "unavailableSeatIds" with
    | some (.arr (id :: ids)) => [unavailableSeatsTag (id :: ids)]
    | _ => []) ++ (attachment "seatMap").toList ++ (attachment "seatMapLayout").toList
  let shown := (attachment "tags").or (if tags = [] then none else some (.arr tags))
  optionalField "tags" id shown ++ optionalField "refund" id (attachment "refund")

/-- What this provider writes into a context itself. -/
def ownFields (c : HandlerConfig) (action : String) (now : ℤ) : JsonObject :=
  [("action", .str action), ("domain", .str "TRANSIT.LOCALHOST:INTERCITY"),
    ("version", .str "0.1.0"), ("bpp_id", .str c.deployment.subscriberId),
    ("bpp_uri", .str c.deployment.subscriberUri),
    ("timestamp", .str ((toISOString now).getD "")), ("ttl", .str c.contextTtl)]

/-- `callbackContext`. -/
def callbackContext (c : HandlerConfig) (context : JsonObject) (action : String) (now : ℤ) :
    JsonObject :=
  (ownFields c action now).foldl (fun fields field => Json.set fields field.1 field.2) context

/-- A payload that refuses. -/
def refusalPayload (context message : JsonObject) (code text : String) : Json :=
  .obj [("context", .obj context), ("message", .obj message),
    ("error", .obj [("code", .str code), ("message", .str text)])]

/-- A payload that says only that something went wrong here. -/
def internalError (context : JsonObject) (text : String) : Json :=
  refusalPayload context [] ReservedErrorCode.internalError.wire text

/-- `buildCallback`, from what the action came to. -/
def buildCallback (context : JsonObject) : Except Failure Answer → Json
  | .ok answer => .obj [("context", .obj context), ("message", .obj answer.message)]
  | .error (.lifecycle e) => refusalPayload context (refusalMessage e) e.code.wire e.message
  | .error _ => internalError context "Provider could not process the request"

/-- The sentence of `lastResort`. -/
def lastResortText : String :=
  "This provider could not express an answer to this request within its own published shapes; the outcome is not known from this message and a status read is the way to find it"

section Desk

variable (c : HandlerConfig) (v : Validator)

/-- A request its schema accepted. -/
structure AcceptedRequest : Type where
  /-- the action -/
  action : ReservedAction
  /-- its context -/
  context : JsonObject
  /-- what it asks for -/
  work : Action

/-- `lastResort`. -/
def lastResort (x : AcceptedRequest) (now : ℤ) : Json :=
  internalError (callbackContext c x.context x.action.onAction now) lastResortText

/-- `resolveCallback`: what an action came to, or the answer of last resort; `none` where neither
fits its schema. The context of the one is from when the action began. -/
def resolveCallback (x : AcceptedRequest) (since now : ℤ) (result : Except Failure Answer) :
    Option Json :=
  let callback := buildCallback (callbackContext c x.context x.action.onAction since) result
  let fits := x.action.callbackSchema v.dateTime
  if fits callback then some callback
  else if fits (lastResort c x now) then some (lastResort c x now)
  else none

/-- The answer to a synchronous request that came to nothing that can be said. -/
def answerFailed (x : AcceptedRequest) (now : ℤ) : Reply :=
  ⟨500, internalError (callbackContext c x.context x.action.onAction now)
    "Provider could not process the request"⟩

/-- The answer to a synchronous request that took too long. -/
def answerTimedOut (x : AcceptedRequest) (now : ℤ) : Reply :=
  ⟨504, internalError (callbackContext c x.context x.action.onAction now)
    s!"Provider did not finish this request within {c.deadlineMs}ms and stopped waiting; the request may be retried"⟩

/-- `answerAction` and `answerActionSync`. -/
def answerManner (x : AcceptedRequest) : Manner ℤ (Except Failure Answer) Reply Post :=
  if c.syncResponses then
    .wait (fun since now result =>
      match resolveCallback c v x since now result with
      | some callback => ⟨200, callback⟩
      | none => answerFailed c x now)
      (if 0 < c.deadlineMs then some (answerTimedOut c x) else none)
  else
    .acknowledge ⟨202, ack⟩ fun since now result =>
      (resolveCallback c v x since now result).map fun callback =>
        ⟨callbackUrlFor c.callbackUrl x.action.onAction, callback⟩

/-! ## Requests -/

/-- `String(value)`; `none` is the `TypeError` of an object whose own `toString` hides the one it
inherits. -/
def stringOf (numberText : ℚ → String) : Json → Option String
  | .null => some "null"
  | .bool b => some (if b then "true" else "false")
  | .num q => some (numberText q)
  | .str s => some s
  | .arr values => (joined values).map (",".intercalate ·)
  | .obj fields => if fields.any (·.1 = "toString") then none else some "[object Object]"
where
  /-- The items of an array, as `join` writes them. -/
  joined : List Json → Option (List String)
    | [] => some []
    | .null :: values => ("" :: ·) <$> joined values
    | value :: values => do return (← stringOf numberText value) :: (← joined values)

/-- `body.context?.action`, of a body that is not `null`. -/
def namedAction (body : Json) : Option Json := (body.get? "context").bind (·.get? "action")

/-- The action of a request, where it is one of the six and the one the path names. -/
def actionAt (x : Incoming) : Option ReservedAction :=
  (((namedAction x.body).bind Json.str?).bind ReservedAction.ofWire).filter fun action =>
    x.path = none ∨ x.path = some action

/-- A request, if the schema of its action accepts it. -/
def accept (action : ReservedAction) (body : Json) : Option AcceptedRequest :=
  if action.requestSchema v.dateTime body then do
    return ⟨action, ← field "context" fieldsOf body, ← actionOf action body⟩
  else none

/-- What is accepted of what comes in. -/
def acceptedAt (x : Incoming) : Option AcceptedRequest :=
  (actionAt x).bind fun action => accept v action x.body

/-- `handle`, up to where it answers or starts the work. -/
def arriveAt (x : Incoming) : Arrival Request Reply :=
  if x.body.isNull then .breaks
  else match actionAt x with
  | none =>
    match (namedAction x.body).elim (some "undefined") (stringOf v.numberText) with
    | none => .breaks
    | some named =>
      let path := x.path.elim "inbound" ReservedAction.wire
      .refused ⟨400, nack s!"Request action {named} does not match path {path}" none⟩
  | some action =>
    match accept v action x.body with
    | none => .refused ⟨400, nack s!"{action.wire} payload failed reserved intercity validation"
        (some (v.errors action.wire x.body))⟩
    | some accepted => .taken ⟨x.process, accepted.work⟩

/-- The reserved category's desk: its seven endpoints in front of the order service. -/
def reservedDesk : Desk ℕ ℤ Incoming Request (Except Failure Answer) Reply Post where
  site := Incoming.process
  arrive _ := arriveAt v
  manner x :=
    match acceptedAt v x with
    | some accepted => answerManner c v accepted
    -- nothing that is not accepted is taken in
    | none => .acknowledge ⟨202, ack⟩ fun _ _ _ => none

end Desk

end TransitBpp
