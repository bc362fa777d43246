import TransitBpp.Schemas
import TransitBpp.TransitOrders

/-!
# The published shapes of single journeys and passes

`schemas/ondc_trv11/2.0.1`, the shared shapes and the ten documents, and what a journey source may
answer. A shape that is word for word one of the reserved category's is that one.
-/

namespace TransitBpp.Trv11.Documents

open Js JsonSchema

/-! ## Expressions -/

/-- `^[A-Z2-7]{32,}$`. -/
def isSharedSecret (s : String) : Bool :=
  32 ≤ s.toList.length && s.toList.all fun c => c.isUpper || '2' ≤ c && c ≤ '7'

/-- A character of `[0-9A-Fa-f]`. -/
def isHexDigit (c : Char) : Bool :=
  isAsciiDigit c || 'A' ≤ c && c ≤ 'F' || 'a' ≤ c && c ≤ 'f'

/-- `^#[0-9A-Fa-f]{6}$`. -/
def isColor (s : String) : Bool :=
  match s.toList with
  | '#' :: cs => cs.length = 6 && cs.all isHexDigit
  | _ => false

variable (dateTime : String → Bool)

/-! ## `common.json` -/

/-- The fields a context has, whichever way the message goes. -/
def contextFields (location action : Schema) : List (String × Schema) :=
  [("domain", const "ONDC:TRV11"), ("location", location), ("action", action),
    ("version", const "2.0.1"), ("bap_id", nonEmpty), ("bap_uri", nonEmpty), ("bpp_id", nonEmpty),
    ("bpp_uri", nonEmpty), ("transaction_id", nonEmpty), ("message_id", nonEmpty),
    ("timestamp", Schemas.instant dateTime),
    ("ttl", allOf [type .string, pattern (startsWith "P")])]

/-- The fields every context but a search's has to have. -/
def contextKeys : List String :=
  ["domain", "location", "action", "version", "bap_id", "bap_uri", "bpp_id", "bpp_uri",
    "transaction_id", "message_id", "timestamp", "ttl"]

/-- `context`. -/
def context : Schema := object contextKeys (contextFields dateTime Schemas.location nonEmpty)

/-- `tag`. -/
def tag : Schema :=
  object ["descriptor", "list"]
    [("descriptor", Schemas.coded nonEmpty), ("display", type .boolean),
      ("list", allOf [type .array, minItems 1])]

/-- Tags, at least so many. -/
def tagsOf (n : ℕ) : Schema := allOf [type .array, minItems n, items tag]

/-- `selectionOrder`. -/
def selectionOrder : Schema :=
  object ["items", "provider"]
    [("items", allOf [type .array, minItems 1, items Schemas.selectedItem]),
      ("provider", object ["id"] [("id", nonEmpty)]), ("tags", array tag)]

/-- `stop`. -/
def stop : Schema :=
  object ["id", "type", "location"]
    [("id", nonEmpty), ("parent_stop_id", nonEmpty),
      ("type", enum ["START", "INTERMEDIATE_STOP", "TRANSIT_STOP", "END"]),
      ("instructions", type .object),
      ("location", object ["descriptor", "gps"]
        [("descriptor", Schemas.descriptor), ("gps", allOf [type .string, minLength 3])]),
      ("tags", type .array)]

/-- `{ "category": … }` of a vehicle. -/
def vehicle : Schema := object ["category"] [("category", enum ["BUS", "METRO"])]

/-- `tripFulfillment`. -/
def tripFulfillment : Schema :=
  object ["id", "type", "stops", "vehicle", "tags"]
    [("id", nonEmpty), ("type", const "TRIP"),
      ("stops", allOf [type .array, minItems 2, items stop]), ("vehicle", vehicle),
      ("tags", tagsOf 1)]

/-- A fulfillment of a type, with tags. -/
def taggedFulfillment (expected : String) : Schema :=
  object ["id", "type", "tags"]
    [("id", nonEmpty), ("type", const expected), ("tags", tagsOf 1)]

/-- `passFulfillment`. -/
def passFulfillment : Schema := taggedFulfillment "PASS"

/-- `ticketFulfillment`. -/
def ticketFulfillment : Schema := taggedFulfillment "TICKET"

/-- A `TICKET` that was issued: an authorization at each stop, and a tag group with this code. -/
def issuedFulfillment (authorization : Schema) (code : String) : Schema :=
  object ["id", "type", "stops", "tags"]
    [("id", nonEmpty), ("type", const "TICKET"),
      ("stops", allOf [type .array, minItems 1,
        items (object ["type", "authorization"]
          [("type", const "START"), ("authorization", authorization)])]),
      ("tags", allOf [tagsOf 2, Schemas.hasTag code])]

/-- `confirmedTicketFulfillment`. -/
def confirmedTicketFulfillment : Schema :=
  issuedFulfillment
    (object ["type", "token", "valid_to", "status"]
      [("type", const "QR"), ("token", nonEmpty), ("valid_to", Schemas.instant dateTime),
        ("status", const "UNCLAIMED")])
    "TICKET_INFO"

/-- `passCredentialFulfillment`. -/
def passCredentialFulfillment : Schema :=
  issuedFulfillment
    (object ["type", "token", "valid_from", "valid_to", "status"]
      [("type", const "TOTP"), ("token", allOf [type .string, pattern isSharedSecret]),
        ("valid_from", Schemas.instant dateTime), ("valid_to", Schemas.instant dateTime),
        ("status", const "ISSUED")])
    "TOTP_INFO"

/-- `time` of an item. -/
def itemTime : Schema := object ["label", "duration", "timestamp"] []

/-- `orderItem`. -/
def orderItem : Schema :=
  object ["id", "category_ids", "descriptor", "price", "quantity", "fulfillment_ids", "time"]
    [("id", nonEmpty), ("category_ids", allOf [type .array, minItems 1, items nonEmpty]),
      ("descriptor", Schemas.descriptor), ("price", Schemas.price),
      ("quantity",
        object ["selected"] [("selected", Schemas.count [minimum 1, maximum 6])]),
      ("fulfillment_ids", allOf [type .array, minItems 2, items nonEmpty]), ("time", itemTime)]

/-- `time` of a provider. -/
def serviceTime : Schema :=
  object ["range"]
    [("range", object ["start", "end"] [("start", nonEmpty), ("end", nonEmpty)])]

/-- `provider`. -/
def provider : Schema :=
  object ["id", "descriptor", "time"]
    [("id", nonEmpty), ("descriptor", Schemas.descriptor), ("time", serviceTime)]

/-- `baseFareBreakup`. -/
def baseFareBreakup : Schema :=
  object ["title", "item", "price"]
    [("title", const "BASE_FARE"),
      ("item", object ["id", "price", "quantity"]
        [("id", nonEmpty), ("price", Schemas.price), ("quantity", object ["selected"] [])]),
      ("price", Schemas.price)]

/-- `concessionBreakup`. -/
def concessionBreakup : Schema :=
  object ["title", "price"]
    [("title", enum ["SENIOR_CONCESSION", "STUDENT_CONCESSION"]), ("price", Schemas.signedPrice)]

/-- `quote`. -/
def quote : Schema :=
  object ["price", "breakup"]
    [("price", Schemas.price),
      ("breakup", allOf [type .array, minItems 1,
        items (oneOf [baseFareBreakup, concessionBreakup])])]

/-- Two fulfillments or more, each as one of these. -/
def fulfillments (kinds : List Schema) : Schema :=
  allOf [type .array, minItems 2, items (oneOf kinds)]

/-- `baseOrder`. -/
def baseOrder : Schema :=
  object ["items", "provider", "fulfillments", "quote", "cancellation_terms", "tags"]
    [("items", allOf [type .array, minItems 1, items orderItem]), ("provider", provider),
      ("fulfillments", fulfillments [tripFulfillment, passFulfillment, ticketFulfillment]),
      ("billing", Schemas.billing), ("quote", quote), ("payments", Schemas.payments),
      ("cancellation_terms", allOf [type .array, minItems 1]), ("tags", tagsOf 1)]

/-- The two fulfillments a confirm issues. -/
def issuedFulfillments : List Schema :=
  [confirmedTicketFulfillment dateTime, passCredentialFulfillment dateTime]

/-- `confirmedOrder`. -/
def confirmedOrder : Schema :=
  allOf [baseOrder,
    object ["id", "status", "billing", "payments", "created_at", "updated_at"]
      [("id", nonEmpty), ("status", const "ACTIVE"),
        ("fulfillments", allOf [
          fulfillments ([tripFulfillment, passFulfillment] ++ issuedFulfillments dateTime),
          contains (anyOf (issuedFulfillments dateTime))]),
        ("created_at", Schemas.instant dateTime), ("updated_at", Schemas.instant dateTime)]]

/-- `error`. -/
def error : Schema :=
  allOf [object ["code", "message"]
      [("code", nonEmpty), ("paths", nonEmpty), ("message", nonEmpty)],
    noOther ["code", "paths", "message"]]

/-! ## The requests -/

/-- A context with this action. -/
def contextOf (action : String) : Schema :=
  allOf [context dateTime, allOf [type .object, properties [("action", const action)]]]

/-- `context` of a search, which need not name the seller. -/
def searchContext : Schema :=
  object ["domain", "location", "action", "version", "bap_id", "bap_uri", "transaction_id",
      "message_id", "timestamp", "ttl"]
    (contextFields dateTime Schemas.location (const "search"))

/-- `location` of a stop of a search. -/
def searchLocation : Schema :=
  allOf [type .object, anyOf [required ["gps"], required ["descriptor"]],
    properties [("gps", allOf [type .string, minLength 3]),
      ("descriptor", Schemas.coded nonEmpty)]]

/-- A stop of a search. -/
def searchStop : Schema :=
  object ["type", "location"]
    [("type", enum ["START", "END"]), ("location", searchLocation),
      ("time", object [] [("timestamp", Schemas.instant dateTime)])]

/-- `fulfillment` of a search. -/
def searchFulfillment : Schema :=
  object ["stops"]
    [("stops", allOf [type .array, minItems 2, items (searchStop dateTime)]),
      ("vehicle", vehicle)]

/-- `intent` of a search. -/
def intent : Schema :=
  allOf [type .object, anyOf [required ["fulfillment"], required ["category"]],
    properties [
      ("category", object ["descriptor"] [("descriptor", Schemas.coded nonEmpty)]),
      ("fulfillment", searchFulfillment dateTime)]]

/-- `search.json`. -/
def search : Schema :=
  Schemas.request (searchContext dateTime) (object ["intent"] [("intent", intent dateTime)])

/-- `select.json`. -/
def select : Schema :=
  Schemas.request (contextOf dateTime "select") (object ["order"] [("order", selectionOrder)])

/-- An order that comes with payments of one kind. -/
def paidOrder (payment : Schema) : Schema :=
  allOf [selectionOrder,
    object ["billing", "payments"]
      [("billing", Schemas.billing),
        ("payments", allOf [type .array, minItems 1,
          items (allOf [Schemas.payment, payment])])]]

/-- `init.json`. -/
def init : Schema :=
  Schemas.request (contextOf dateTime "init")
    (object ["order"]
      [("order", paidOrder (object [] [("status", const "NOT_PAID")]))])

/-- `confirm.json`. -/
def confirm : Schema :=
  Schemas.request (contextOf dateTime "confirm")
    (object ["order"]
      [("order", paidOrder (object ["id", "params"]
        [("status", const "PAID"),
          ("params", object ["transaction_id", "currency", "amount"]
            [("transaction_id", nonEmpty), ("currency", const "INR"), ("amount", nonEmpty)])]))])

/-- `status.json`. -/
def status : Schema :=
  Schemas.request (contextOf dateTime "status")
    (allOf [object [] [("order_id", nonEmpty), ("ref_id", nonEmpty)],
      oneOf [required ["order_id"], required ["ref_id"]]])

/-! ## The callbacks -/

/-- A callback: an order like this or an error. -/
def callback (action : String) (order : Schema) : Schema :=
  allOf [type .object, required ["context"],
    anyOf [
      allOf [required ["message"],
        properties [("message", allOf [type .object, required ["order"]])]],
      required ["error"]],
    properties [("context", contextOf dateTime action),
      ("message", allOf [type .object, properties [("order", order)]]), ("error", error)]]

/-- `on_select.json`. -/
def onSelect : Schema := callback dateTime "on_select" baseOrder

/-- `on_init.json`. -/
def onInit : Schema :=
  callback dateTime "on_init" (allOf [baseOrder, object ["billing", "payments"] []])

/-- `on_confirm.json`. -/
def onConfirm : Schema := callback dateTime "on_confirm" (confirmedOrder dateTime)

/-- `on_status.json`. -/
def onStatus : Schema := callback dateTime "on_status" (confirmedOrder dateTime)

/-! ### `on_search.json` -/

/-- `tags` that are not looked into. -/
def someTags : Schema := allOf [type .array, minItems 1]

/-- `stops` of a `tripFulfillment` that is published. -/
def publishedStop : Schema :=
  object ["id", "type", "location"]
    [("id", nonEmpty), ("parent_stop_id", nonEmpty),
      ("type", enum ["START", "INTERMEDIATE_STOP", "TRANSIT_STOP", "END"]),
      ("location", object ["descriptor", "gps"]
        [("descriptor", Schemas.descriptor), ("gps", allOf [type .string, minLength 3])])]

/-- `tripFulfillment` of a catalogue. -/
def publishedTrip : Schema :=
  object ["id", "type", "stops", "vehicle", "tags"]
    [("id", nonEmpty), ("type", const "TRIP"),
      ("stops", allOf [type .array, minItems 2, items publishedStop]), ("vehicle", vehicle),
      ("tags", someTags)]

/-- `passFulfillment` of a catalogue. -/
def publishedPass : Schema :=
  object ["id", "type", "tags"]
    [("id", nonEmpty), ("type", const "PASS"), ("tags", someTags)]

/-- An item of a catalogue. -/
def publishedItem : Schema :=
  object ["id", "category_ids", "descriptor", "price", "quantity", "fulfillment_ids", "time"]
    [("id", nonEmpty),
      ("category_ids", allOf [type .array, minItems 1, items (type .string)]),
      ("descriptor", Schemas.descriptor), ("price", Schemas.price),
      ("quantity", object ["minimum", "maximum"] []),
      ("fulfillment_ids", allOf [type .array, minItems 1, items (type .string)]),
      ("time", itemTime)]

/-- `provider` of a catalogue. -/
def publishedProvider : Schema :=
  object ["id", "descriptor", "categories", "time", "items", "fulfillments", "payments"]
    [("id", nonEmpty), ("descriptor", Schemas.descriptor),
      ("categories", allOf [type .array, minItems 1,
        items (object ["id", "descriptor"]
          [("id", nonEmpty), ("descriptor", Schemas.descriptor)])]),
      ("time", serviceTime), ("items", allOf [type .array, minItems 1, items publishedItem]),
      ("fulfillments",
        allOf [type .array, minItems 1, items (oneOf [publishedTrip, publishedPass])]),
      ("payments", allOf [type .array, minItems 1,
        items (object ["collected_by", "tags"]
          [("collected_by", enum ["BAP", "BPP"]), ("tags", someTags)])])]

/-- `catalog`. -/
def catalog : Schema :=
  object ["descriptor", "providers"]
    [("descriptor", Schemas.descriptor), ("providers", array publishedProvider)]

/-- `on_search.json`. -/
def onSearch : Schema :=
  object ["context", "message"]
    [("context",
        object contextKeys (contextFields dateTime (type .object) (const "on_search"))),
      ("message", object ["catalog"] [("catalog", catalog)])]

/-! ## `journey-source-response.json` -/

/-- A number between two bounds. -/
def between (low high : ℤ) : Schema := allOf [number, minimum low, maximum high]

/-- `routeStop`. -/
def routeStop : Schema :=
  allOf [object ["name", "lat", "lon"]
      [("code", nonEmpty), ("name", nonEmpty), ("nameLocal", nonEmpty),
        ("lat", between (-90) 90), ("lon", between (-180) 180),
        ("isInterchange", type .boolean), ("changeHint", nonEmpty)],
    noOther ["code", "name", "nameLocal", "lat", "lon", "isInterchange", "changeHint"]]

/-- `transitOffer`. -/
def transitOffer : Schema :=
  allOf [object ["offerId", "productCode", "productName", "farePaise", "validity", "route",
        "routeId", "routeName"]
      [("offerId", nonEmpty), ("productCode", const "SJT"), ("productName", nonEmpty),
        ("farePaise", allOf [type .integer, minimum 0, maximum maxSafe]),
        ("validity",
          allOf [type .string, pattern fun duration => (isoDuration duration).isSome]),
        ("route", allOf [type .array, minItems 2, items routeStop]), ("routeId", nonEmpty),
        ("routeName", nonEmpty), ("routeColor", allOf [type .string, pattern isColor]),
        ("serviceTier", enum ["ORDINARY_BUS", "AC_BUS", "METRO"])],
    noOther ["offerId", "productCode", "productName", "farePaise", "validity", "route", "routeId",
      "routeName", "routeColor", "serviceTier"]]

/-- `journey-source-response.json`. -/
def journeySourceResponse : Schema :=
  allOf [object ["offers"] [("offers", array transitOffer)], noOther ["offers"]]

end TransitBpp.Trv11.Documents
