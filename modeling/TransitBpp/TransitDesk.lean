import TransitBpp.Confirmations
import TransitBpp.Exchanges
import TransitBpp.TransitRequests

/-!
# The desk of single journeys and passes

`app.ts` and `passHandler.ts`, over the services of `service.ts`: the two operators that are asked
over the network are answered at once and post what a request comes to; the third sells passes only,
and answers on the open connection. All three share one process and one store.

What a handler does without waiting is one operation of it, so every move of the pool is a move of the
confirms or leaves them alone.
-/

namespace TransitBpp.Trv11

open Interleave Js JsonSchema

/-! ## The orders that are answered -/

/-- An order, as `init` answers it. -/
structure InitOrder extends ProtocolOrder where
  billing : Json
  payments : List JsonObject

def Service.select (service : Service) (operator : PassOperatorKey) (store : Store)
    (request : ConfirmRequest) (draws : Draws) : Except Failure ProtocolOrder := do
  let base ← baseOrder service operator store request draws
  return base.order

def Service.init (service : Service) (operator : PassOperatorKey) (store : Store)
    (request : ConfirmRequest) (draws : Draws) : Except Failure InitOrder := do
  assertPaymentStatus request.payments "NOT_PAID"
  let base ← baseOrder service operator store request draws
  return { base.order with
    billing := request.billing
    payments := request.payments.mapIdx fun index payment =>
      paymentWithId operator request.context.transactionId payment index }

def Service.status (service : Service) (operator : PassOperatorKey) (store : Store)
    (context : Trv11Context) (orderId refId : Option String) : Except Failure ConfirmedOrder := do
  assertBppAddress service context
  match given (orderId.or refId) with
  | none => throw (.lifecycle "ORDER-ID-REQUIRED" "status requires order_id or ref_id")
  | some orderId => store.get operator context.identity orderId

/-- The fields of an order. -/
def ProtocolOrder.fields (order : ProtocolOrder) : JsonObject :=
  [("items", .arr order.items), ("provider", order.provider),
    ("fulfillments", .arr (order.fulfillments.map .obj)), ("quote", order.quote),
    ("cancellation_terms", .arr order.cancellationTerms), ("tags", .arr order.tags)]

/-- The fields of an order that names who pays. -/
def InitOrder.fields (order : InitOrder) : JsonObject :=
  order.toProtocolOrder.fields ++
    [("billing", order.billing), ("payments", .arr (order.payments.map .obj))]

/-- The fields of a confirmed order. -/
def ConfirmedOrder.fields (order : ConfirmedOrder) : JsonObject :=
  order.toProtocolOrder.fields ++
    [("id", .str order.id), ("status", .str order.status), ("billing", order.billing),
      ("payments", .arr (order.payments.map .obj)), ("created_at", .str order.createdAt),
      ("updated_at", .str order.updatedAt)]

/-! ## The deployment -/

/-- A reading of the clock, which shows the years 1970 to 9998. -/
abbrev ClockTime : Type := {ms : ℤ // 0 ≤ ms ∧ ms < dateUTC 9999 0 1}

/-- `OperatorKey`: the operators that run journeys. -/
inductive OperatorKey : Type where
  | bmtc | bmrcl
  deriving DecidableEq, Repr

/-- Every one of them sells passes. -/
def OperatorKey.pass : OperatorKey → PassOperatorKey
  | bmtc => .bmtc
  | bmrcl => .bmrcl

/-- What the host brings along. -/
structure TransitHost extends Validator where
  /-- `new Date(text).getTime()`, where it is a number -/
  time : String → Option ℤ
  /-- `toUpperCase` -/
  upperCase : String → String
  /-- the stop of a route that is nearest to a point -/
  nearestStopIndex : List RouteStop → Gps → ℤ
  /-- HMAC-SHA1 -/
  hmac : Hmac

/-- `AppConfig`, as far as it is read here. -/
structure TransitConfig : Type where
  /-- the services of the operators -/
  services : PassOperatorKey → Service
  /-- where their journeys come from -/
  sources : OperatorKey → JourneySource
  /-- where their callbacks are posted -/
  callbackUrls : OperatorKey → CallbackUrl
  /-- the `ttl` of every context -/
  contextTtl : String

/-! ## What a handler asks for -/

/-- What a request asks for, and of whom. -/
inductive TransitRequest : Type where
  /-- over the network -/
  | network : OperatorKey → Work → TransitRequest
  /-- of the operator that sells passes only -/
  | pass : Work → TransitRequest

/-- What a request comes to. -/
inductive TransitAnswer : Type where
  /-- a catalogue, and when it was published -/
  | catalog : Json → ClockTime → TransitAnswer
  | selected : ProtocolOrder → TransitAnswer
  | initialised : InitOrder → TransitAnswer
  | confirmed : ConfirmedOrder → TransitAnswer

/-- What a handler does between two waits. -/
inductive TransitOp : Type where
  /-- ask the journey source, and cache what it answers -/
  | search : OperatorKey → TransactionIdentity → SearchQuery → TransitOp
  /-- read the clock for a catalogue -/
  | clock : TransitOp
  /-- read the store, the clock and the generators for an order -/
  | read : TransitOp
  /-- `confirm(request)`, up to its first wait -/
  | confirm : PassOperatorKey → PaidRequest → TransitOp
  /-- await what that confirm is answered -/
  | answer : ℕ → TransitOp

/-- What it is answered. -/
def TransitResp : TransitOp → Type
  | .search _ _ _ => List TransitOffer × SearchDraws × ClockTime
  | .clock => SearchDraws × ClockTime
  | .read => Store × Draws
  | .confirm _ _ => ℕ
  | .answer _ => Except Failure ConfirmedOrder

/-- A handler of this desk. -/
abbrev TransitHandler (α : Type) : Type := Handler TransitOp TransitResp Failure α

/-- One operation of it. -/
def perform (op : TransitOp) : TransitHandler (TransitResp op) := liftM (Prog.perform op)

section Handlers

variable (h : TransitHost) (c : TransitConfig)

/-- A search for passes. -/
def passSearch (operator : PassOperatorKey) (request : SearchRequest) : TransitHandler TransitAnswer := do
  let drawn ← perform .clock
  let catalog ← liftM (buildPassOnSearch (c.services operator) operator request.context drawn.1)
  return .catalog catalog drawn.2

/-- A search for journeys. -/
def journeySearch (operator : OperatorKey) (request : SearchRequest) : TransitHandler TransitAnswer := do
  let query ← liftM (searchQueryFromRequest h.numberText request)
  let found ← perform (.search operator request.context.identity query)
  let catalog ← liftM (buildOnSearch (c.services operator.pass) request.context found.1 found.2.1)
  return .catalog catalog found.2.2

/-- `buildCallback`, of the actions that answer an order. -/
def orderWork (operator : PassOperatorKey) : Work → TransitHandler TransitAnswer
  | .search request => passSearch c operator request
  | .select request => do
    let drawn ← perform .read
    return .selected (← liftM ((c.services operator).select operator drawn.1 request drawn.2))
  | .init request => do
    let drawn ← perform .read
    return .initialised
      (← liftM ((c.services operator).init operator drawn.1 request.toConfirmRequest drawn.2))
  | .confirm request => do
    let i ← perform (.confirm operator request)
    return .confirmed (← liftM (← perform (.answer i)))
  | .status context orderId refId => do
    let drawn ← perform .read
    return .confirmed (← liftM ((c.services operator).status operator drawn.1 context orderId refId))

/-- `buildCallback`, up to the payload. -/
def transitHandler : TransitRequest → TransitHandler TransitAnswer
  | .network operator (.search request) =>
    if isPassSearch request then passSearch c operator.pass request
    else journeySearch h c operator request
  | .network operator work => orderWork c operator.pass work
  | .pass work => orderWork c .ksrtc work

end Handlers

/-! ## The world -/

/-- The confirms and the store, and what the clock shows. -/
structure TransitWorld : Type where
  state : State
  clock : ClockTime

/-- Nothing was asked yet. -/
def TransitWorld.initial (clock : ClockTime) : TransitWorld := ⟨State.initial, clock⟩

/-- What the outside gives an operation. -/
structure Outside : Type where
  /-- the clock, at each item of a ride -/
  itemTime : ℕ → ClockTime
  /-- the clock, at a pass selection -/
  passTime : ClockTime
  /-- the clock, at the issue or when a catalogue is published -/
  issuedAt : ClockTime
  /-- `randomUUID()` -/
  id : Except String String
  /-- the bytes of each credential's secret -/
  secrets : ℕ → Except String (List Byte)
  /-- the body a journey server answered in time with, if it did -/
  fetched : Option Json

/-- What an order draws of it. -/
def Outside.draws (o : Outside) : Draws where
  itemTime index := (o.itemTime index).val
  passTime := o.passTime.val
  issuedAt := o.issuedAt.val
  id := o.id.mapError .error
  secrets sequence := (o.secrets sequence).mapError .error

/-- What a catalogue draws of it. -/
def Outside.searchDraws (o : Outside) : SearchDraws :=
  ⟨fun index => (o.itemTime index).val, o.issuedAt.val⟩

/-- A QR encoder. It never answers with nothing. -/
structure QrEncoder : Type where
  /-- the token of a payload -/
  encode : String → String
  /-- it is not empty -/
  some : ∀ payload, encode payload ≠ ""

/-- What happens by itself. -/
inductive TransitEvent : Type where
  /-- the clock shows another time -/
  | tick : ClockTime → TransitEvent
  /-- the encoder has answered a confirm, or failed it -/
  | encoded : ℕ → Except String QrEncoder → TransitEvent
  /-- a promise calls its own confirm back -/
  | conclude : ℕ → TransitEvent
  /-- and one that has joined it -/
  | resume : ℕ → TransitEvent

/-- What a confirm is answered, once it is. -/
def State.answerOf (s : State) (i : ℕ) : Option (Except Failure ConfirmedOrder) :=
  match s.tasks[i]? with
  | some ⟨_, _, _, .answered outcome⟩ => some outcome
  | _ => none

section World

variable (h : TransitHost) (c : TransitConfig)

/-- A move of the confirms. -/
def TransitWorld.advance (w : TransitWorld) (m : Move) : Option TransitWorld :=
  (w.state.step h.hmac c.services m).map fun state => { w with state := state }

/-- One operation of a handler. -/
def TransitWorld.exec (w : TransitWorld) (o : Outside) :
    (op : TransitOp) → Option (TransitWorld × TransitResp op)
  | .search operator identity query =>
    let offers := (c.sources operator).search h.numberText h.upperCase h.nearestStopIndex o.fetched query
    (w.advance h c (.search operator.pass identity offers)).map fun w' =>
      (w', offers, o.searchDraws, o.issuedAt)
  | .clock => some (w, o.searchDraws, o.issuedAt)
  | .read => some (w, w.state.store, o.draws)
  | .confirm operator request =>
    (w.advance h c (.confirm operator request.toConfirmRequest o.draws)).map fun w' =>
      (w', w.state.tasks.length)
  | .answer i => (w.state.answerOf i).map fun outcome => (w, outcome)

/-- One event. -/
def TransitWorld.happen (w : TransitWorld) : TransitEvent → Option TransitWorld
  | .tick clock => some { w with clock := clock }
  | .encoded i outcome => w.advance h c (.encoded i ((outcome.map QrEncoder.encode).mapError .error))
  | .conclude i => w.advance h c (.conclude i)
  | .resume i => w.advance h c (.resume i)

/-- The operators on their store. -/
def transitProvider : System TransitOp TransitResp TransitWorld TransitRequest
    (Except Failure TransitAnswer) Outside TransitEvent where
  handler request := (transitHandler h c request).run
  exec _ _ o op w := w.exec h c o op
  env e w := w.happen h c e

end World

/-! ## Requests -/

/-- The routes of the three operators; `none` is `inbound`. -/
inductive TransitRoute : Type where
  | network : OperatorKey → Option TransitAction → TransitRoute
  | pass : TransitAction → TransitRoute

/-- What comes in: where, and the body, or why it could not be read. -/
structure TransitIncoming : Type where
  route : TransitRoute
  body : Except String Json

/-- A request its schema accepted. -/
structure TransitAccepted : Type where
  /-- the action -/
  action : TransitAction
  /-- its context -/
  context : JsonObject
  /-- what it asks for -/
  work : Work

/-- The message of a failure. -/
def Failure.text : Failure → String
  | lifecycle _ message => message
  | error message => message

/-- The category of vehicle an operator runs. -/
def OperatorProfile.vehicleCategory (profile : OperatorProfile) : String :=
  if profile.isMetro then "METRO" else "BUS"

section Door

variable (h : TransitHost) (c : TransitConfig)

/-- A request, if the schema of its action accepts it. -/
def acceptTransit (action : TransitAction) (body : Json) : Option TransitAccepted :=
  if action.requestSchema h.dateTime body then do
    return ⟨action, ← field "context" fieldsOf body, ← workOf h.numberText h.time action body⟩
  else none

/-- The action of a request, where it is one of the five and the one the path names. -/
def transitActionAt (path : Option TransitAction) (body : Json) : Option TransitAction :=
  (((namedAction body).bind Json.str?).bind TransitAction.ofWire).filter fun action =>
    path = none ∨ path = some action

/-- What the path has to say of a request. -/
def TransitRoute.path : TransitRoute → Option TransitAction
  | network _ path => path
  | pass path => some path

/-- What is accepted of what comes in. -/
def transitAcceptedAt (x : TransitIncoming) : Option TransitAccepted :=
  x.body.toOption.bind fun body =>
    (transitActionAt x.route.path body).bind fun action => acceptTransit h action body

/-- A search for journeys is answered at the door where it names no pair of stops, and where it asks
for vehicles the operator does not run. -/
def searchDoor (operator : OperatorKey) (request : SearchRequest) : Option Reply :=
  if isPassSearch request then none
  else match searchQueryFromRequest h.numberText request with
  | .error failure => some ⟨400, nack failure.text none⟩
  | .ok _ =>
    match given (request.fulfillment.bind SearchFulfillment.vehicleCategory) with
    | none => none
    | some category =>
      if category = (c.services operator.pass).profile.vehicleCategory then none else some ⟨202, ack⟩

/-- What is answered at the door to a request that was accepted. -/
def doorReply : TransitRoute → Work → Option Reply
  | .network operator _, .search request => searchDoor h c operator request
  | .pass _, .search request =>
    if isPassSearch request then none
    else some ⟨400, nack ("This route sells Karnataka Sarige passes only; the search intent named " ++
      "no PASS category") none⟩
  | _, _ => none

/-- What a request is to the operators. -/
def TransitRoute.request : TransitRoute → Work → TransitRequest
  | network operator _, work => .network operator work
  | pass _, work => .pass work

/-- Whether a route reads an action off a body that is `null`. -/
def TransitRoute.toleratesNull : TransitRoute → Bool
  | network _ _ => false
  | pass _ => true

/-- The request listener, and `handle`, up to where they answer or start the work. -/
def arriveTransit (x : TransitIncoming) : Arrival TransitRequest Reply :=
  match x.body with
  | .error message => .refused ⟨400, nack message none⟩
  | .ok body =>
    if body.isNull && !x.route.toleratesNull then .breaks
    else match transitActionAt x.route.path body with
    | none =>
      match (namedAction body).elim (some "undefined") (stringOf h.numberText) with
      | none => .breaks
      | some named =>
        let path := x.route.path.elim "inbound" TransitAction.wire
        .refused ⟨400, nack s!"Request action {named} does not match path {path}" none⟩
    | some action =>
      match acceptTransit h action body with
      | none => .refused ⟨400, nack s!"{action.wire} payload failed TRV11 validation"
          (some (h.errors action.wire body))⟩
      | some accepted =>
        match doorReply h c x.route accepted.work with
        | some reply => .refused reply
        | none => .taken (x.route.request accepted.work)

end Door

/-! ## Answers -/

/-- The message of an answer. -/
def TransitAnswer.message : TransitAnswer → JsonObject
  | catalog published _ => [("catalog", published)]
  | selected order => [("order", .obj order.fields)]
  | initialised order => [("order", .obj order.fields)]
  | confirmed order => [("order", .obj order.fields)]

/-- When the context of an answer is from: a catalogue's is from when it was published, any other's
from when the action began. -/
def TransitAnswer.stamp (since : ClockTime) : TransitAnswer → ClockTime
  | catalog _ publishedAt => publishedAt
  | _ => since

/-- A payload that refuses. -/
def transitRefusal (context : JsonObject) (code message : String) : Json :=
  .obj [("context", .obj context), ("message", .obj []),
    ("error", .obj [("code", .str code), ("message", .str message)])]

/-- The code and the message a failure is answered with. -/
def Failure.shown : Failure → String × String
  | lifecycle code message => (code, message)
  | error _ => ("INTERNAL-ERROR", "Provider could not process the request")

/-- The sentence of `lastResort`. -/
def passLastResortText : String :=
  "This provider could not express an answer to this request within its own published shapes"

section Answers

variable (h : TransitHost) (c : TransitConfig)

/-- The fields an operator writes into a context itself. -/
def operatorFields (operator : PassOperatorKey) (action : String) (now : ClockTime) : JsonObject :=
  [("action", .str action), ("bpp_id", .str (c.services operator).subscriberId),
    ("bpp_uri", .str (c.services operator).subscriberUri),
    ("timestamp", .str ((toISOString now.val).getD "")), ("ttl", .str c.contextTtl)]

/-- `callbackContext`. -/
def transitContext (operator : PassOperatorKey) (context : JsonObject) (action : String)
    (now : ClockTime) : JsonObject :=
  (operatorFields c operator action now).foldl (fun fields field => Json.set fields field.1 field.2)
    context

/-- `buildCallback`: a search that fails is not answered by it. -/
def transitCallback (operator : PassOperatorKey) (x : TransitAccepted) (since : ClockTime) :
    Except Failure TransitAnswer → Option Json
  | .ok answer =>
    let context := transitContext c operator x.context x.action.onAction (answer.stamp since)
    some (.obj [("context", .obj context), ("message", .obj answer.message)])
  | .error failure =>
    if x.action = .search then none
    else
      let context := transitContext c operator x.context x.action.onAction since
      some (transitRefusal context failure.shown.1 failure.shown.2)

/-- `answerAction`: what fits its schema is posted. -/
def transitPost (operator : OperatorKey) (x : TransitAccepted) (since : ClockTime)
    (result : Except Failure TransitAnswer) : Option Post :=
  ((transitCallback c operator.pass x since result).filter (x.action.callbackSchema h.dateTime)).map
    fun callback => ⟨callbackUrlFor (c.callbackUrls operator) x.action.onAction, callback⟩

/-- `lastResort` of the pass route. -/
def passLastResort (x : TransitAccepted) (now : ClockTime) : Json :=
  transitRefusal (transitContext c .ksrtc x.context x.action.onAction now) "INTERNAL-ERROR"
    passLastResortText

/-- The answer of the pass route to a request that came to nothing that can be said. -/
def passFailed (x : TransitAccepted) (now : ClockTime) : Reply :=
  ⟨500, transitRefusal (transitContext c .ksrtc x.context x.action.onAction now) "INTERNAL-ERROR"
    "Provider could not process the request"⟩

/-- `resolveCallback` of the pass route, and what is sent. -/
def passReply (x : TransitAccepted) (since now : ClockTime) (result : Except Failure TransitAnswer) :
    Reply :=
  let fits := x.action.callbackSchema h.dateTime
  match transitCallback c .ksrtc x since result with
  | none => passFailed c x now
  | some callback =>
    if fits callback then ⟨200, callback⟩
    else if fits (passLastResort c x now) then ⟨200, passLastResort c x now⟩
    else passFailed c x now

/-- How a request is answered that was accepted on a route. -/
def transitManner (x : TransitAccepted) :
    TransitRoute → Manner ClockTime (Except Failure TransitAnswer) Reply Post
  | .network operator _ =>
    .acknowledge ⟨202, ack⟩ fun since _ result => transitPost h c operator x since result
  | .pass _ => .wait (passReply h c x) none

/-- The three operators' desk, in its one process. -/
def transitDesk : Desk Unit ClockTime TransitIncoming TransitRequest (Except Failure TransitAnswer)
    Reply Post where
  site _ := ()
  arrive _ := arriveTransit h c
  manner x :=
    match transitAcceptedAt h x with
    | some accepted => transitManner h c accepted x.route
    -- nothing that is not accepted is taken in
    | none => .acknowledge ⟨202, ack⟩ fun _ _ _ => none

end Answers

end TransitBpp.Trv11
