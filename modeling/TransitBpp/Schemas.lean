import TransitBpp.Schema

/-!
# The published shapes of the reserved category

`schemas/transit_local_intercity/0.1.0`: the shared shapes of `common.json` and the twelve
documents, one for each request and one for each callback. `dateTime` is the validator's own test
of the format `date-time`.
-/

namespace TransitBpp

open Js JsonSchema

/-! ## Expressions -/

/-- A character of `[0-9]`. -/
def isAsciiDigit (c : Char) : Bool := '0' ≤ c && c ≤ '9'

/-- `^` and a text. -/
def startsWith (text s : String) : Bool := text.toList.isPrefixOf s.toList

/-- `^[0-9]{4}-(?:0[1-9]|1[0-2])-(?:0[1-9]|[12][0-9]|3[01])$`. -/
def isTravelDate (s : String) : Bool :=
  match s.toList with
  | [y₁, y₂, y₃, y₄, '-', m₁, m₂, '-', d₁, d₂] =>
    [y₁, y₂, y₃, y₄, m₂, d₂].all isAsciiDigit &&
      (m₁ = '0' && m₂ ≠ '0' || m₁ = '1' && m₂ ≤ '2') &&
      (d₁ = '0' && d₂ ≠ '0' || d₁ = '1' || d₁ = '2' || d₁ = '3' && d₂ ≤ '1')
  | _ => false

/-- What may follow the digits of a price: `(?:\.[0-9]{1,2})?$`. -/
def isPriceTail : List Char → Bool
  | [] => true
  | ['.', a] => isAsciiDigit a
  | ['.', a, b] => isAsciiDigit a && isAsciiDigit b
  | _ => false

/-- `[0-9]+(?:\.[0-9]{1,2})?$`. -/
def isPriceText (cs : List Char) : Bool :=
  !(cs.takeWhile isAsciiDigit).isEmpty && isPriceTail (cs.dropWhile isAsciiDigit)

/-- `^[0-9]+(?:\.[0-9]{1,2})?$`. -/
def isPrice (s : String) : Bool := isPriceText s.toList

/-- `^-?[0-9]+(?:\.[0-9]{1,2})?$`. -/
def isSignedPrice (s : String) : Bool :=
  match s.toList with
  | '-' :: cs => isPriceText cs
  | cs => isPriceText cs

/-- `^[A-Z][A-Z0-9_]*$`. -/
def isLineCode (s : String) : Bool :=
  match s.toList with
  | [] => false
  | c :: cs => c.isUpper && cs.all fun c => c.isUpper || isAsciiDigit c || c == '_'

namespace Schemas

variable (dateTime : String → Bool)

/-! ## `common.json` -/

/-- `location`. -/
def location : Schema :=
  object ["country", "city"]
    [("country", object ["code"] [("code", const "IND")]),
      ("city", object ["code"] [("code", nonEmpty)])]

/-- The fields a context has, whichever way the message goes. -/
def contextFields (action : Schema) : List (String × Schema) :=
  [("domain", const "TRANSIT.LOCALHOST:INTERCITY"), ("location", location), ("action", action),
    ("version", const "0.1.0"), ("bap_id", nonEmpty), ("bap_uri", nonEmpty), ("bpp_id", nonEmpty),
    ("bpp_uri", nonEmpty), ("transaction_id", nonEmpty), ("message_id", nonEmpty),
    ("timestamp", allOf [type .string, format dateTime]),
    ("ttl", allOf [type .string, pattern (startsWith "P")])]

/-- `context`. -/
def context : Schema :=
  object ["domain", "location", "action", "version", "bap_id", "bap_uri", "bpp_id", "bpp_uri",
    "transaction_id", "message_id", "timestamp", "ttl"] (contextFields dateTime nonEmpty)

/-- `travelDate`. -/
def travelDate : Schema := allOf [type .string, pattern isTravelDate]

/-- `descriptor`. -/
def descriptor : Schema := object ["name"] [("name", nonEmpty), ("code", nonEmpty)]

/-- `codeDescriptor`. -/
def codeDescriptor : Schema := object ["code"] [("name", nonEmpty), ("code", nonEmpty)]

/-- `price`. -/
def price : Schema :=
  object ["currency", "value"]
    [("currency", const "INR"), ("value", allOf [type .string, pattern isPrice])]

/-- `signedPrice`. -/
def signedPrice : Schema :=
  object ["currency", "value"]
    [("currency", const "INR"), ("value", allOf [type .string, pattern isSignedPrice])]

/-- `{ "code": … }`. -/
def coded (code : Schema) : Schema := object ["code"] [("code", code)]

/-- `tagEntry`. -/
def tagEntry : Schema :=
  object ["descriptor"] [("descriptor", coded nonEmpty), ("value", type .string)]

/-- `tag`. -/
def tag : Schema :=
  object ["descriptor", "list"]
    [("descriptor", coded nonEmpty), ("display", type .boolean),
      ("list", allOf [type .array, minItems 1, items tagEntry])]

/-- An array of tags. -/
def tags : Schema := array tag

/-- `location` of a stop. -/
def stopLocation (entries : List (String × Schema)) : Schema :=
  object ["descriptor"] (("descriptor", codeDescriptor) :: entries)

/-- `{ "timestamp": … }`. -/
def instant : Schema := allOf [type .string, format dateTime]

/-- `stop`. -/
def stop : Schema :=
  object ["id", "type", "location"]
    [("id", nonEmpty), ("parent_stop_id", nonEmpty),
      ("type", enum ["START", "INTERMEDIATE_STOP", "END"]),
      ("location", stopLocation [("gps", allOf [type .string, minLength 3])]),
      ("time", object ["timestamp"] [("timestamp", instant dateTime)]), ("tags", tags)]

/-- `reservationFulfillment`. -/
def reservationFulfillment : Schema :=
  object ["id", "type", "tags"]
    [("id", nonEmpty), ("type", const "RESERVATION"),
      ("vehicle", object ["category"] [("category", const "COACH")]),
      ("stops", allOf [type .array, minItems 2, items (stop dateTime)]),
      ("tags", allOf [type .array, minItems 1, items tag])]

/-- `{ "count": … }`, with bounds. -/
def count (bounds : List Schema) : Schema :=
  object ["count"] [("count", allOf (type .integer :: bounds))]

/-- A group of tags that has one with this code. -/
def hasTag (code : String) : Schema :=
  contains (object ["descriptor"] [("descriptor", coded (const code))])

/-- `catalogueItem`. -/
def catalogueItem : Schema :=
  object ["id", "category_ids", "descriptor", "price", "quantity", "fulfillment_ids", "time",
    "tags"]
    [("id", allOf [type .string, minLength 1, pattern (startsWith "RSV-")]),
      ("category_ids", allOf [type .array, minItems 1, items nonEmpty]),
      ("descriptor", descriptor), ("price", price),
      ("quantity", object ["maximum", "minimum"]
        [("available", count [minimum 0]), ("maximum", count [minimum 1, maximum 6]),
          ("minimum", count [minimum 1])]),
      ("fulfillment_ids", allOf [type .array, minItems 1, items nonEmpty]),
      ("time", object ["label", "timestamp"]
        [("label", const "Departure"), ("timestamp", instant dateTime)]),
      ("tags", allOf [type .array, minItems 1, items tag, hasTag "SIMULATED_INVENTORY"])]

/-- `provider`. -/
def provider : Schema :=
  object ["id", "descriptor", "categories", "items", "fulfillments"]
    [("id", nonEmpty), ("descriptor", descriptor),
      ("categories", allOf [type .array, minItems 1,
        items (object ["id", "descriptor"] [("id", nonEmpty), ("descriptor", descriptor)])]),
      ("items", array (catalogueItem dateTime)),
      ("fulfillments", array (reservationFulfillment dateTime)), ("payments", type .array)]

/-- `selectedItem`. -/
def selectedItem : Schema :=
  object ["id", "quantity"]
    [("id", nonEmpty),
      ("quantity", object ["selected"] [("selected", count [minimum 1, maximum 6])])]

/-- A stop a request names. -/
def namedStop : Schema :=
  object ["type", "location"] [("type", enum ["START", "END"]), ("location", stopLocation [])]

/-- The stops of a fulfillment a request names. -/
def namedStops : Schema := allOf [type .array, minItems 2, items namedStop]

/-- A fulfillment a request names. -/
def namedFulfillment : Schema :=
  object ["id", "stops"] [("id", nonEmpty), ("stops", namedStops)]

/-- `selectionOrder`. -/
def selectionOrder : Schema :=
  object ["items", "provider"]
    [("items", allOf [type .array, minItems 1, items selectedItem]),
      ("provider", object ["id"] [("id", nonEmpty)]),
      ("fulfillments", array namedFulfillment), ("tags", tags)]

/-- `billing`. -/
def billing : Schema :=
  object ["name", "phone"] [("name", nonEmpty), ("email", nonEmpty), ("phone", nonEmpty)]

/-- `payment`. -/
def payment : Schema :=
  object ["collected_by", "status", "type"]
    [("id", nonEmpty), ("collected_by", enum ["BAP", "BPP"]), ("status", enum ["NOT_PAID", "PAID"]),
      ("type", const "PRE_ORDER"), ("params", type .object), ("tags", type .array)]

/-- `payments`. -/
def payments : Schema := allOf [type .array, minItems 1, items payment]

/-- Lines of an amount. -/
def breakup (code : Schema) : Schema :=
  allOf [type .array, minItems 1,
    items (object ["code", "title", "price"]
      [("code", code), ("title", nonEmpty), ("price", signedPrice)])]

/-- `quote`. -/
def quote : Schema :=
  object ["price", "breakup"]
    [("price", price),
      ("breakup", breakup (allOf [type .string, minLength 1, pattern isLineCode]))]

/-- `refund`. -/
def refund : Schema :=
  object ["price", "breakup"]
    [("price", signedPrice),
      ("breakup", breakup (enum ["BASE_FARE", "SLAB_DEDUCTION", "RESERVATION_FEE", "TOLL_REFUND"]))]

/-- `fulfillments` of an order. -/
def orderFulfillments : Schema :=
  allOf [type .array, minItems 1, items (reservationFulfillment dateTime)]

/-- `baseOrder`. -/
def baseOrder : Schema :=
  object ["items", "provider", "fulfillments", "quote", "tags"]
    [("id", nonEmpty), ("status", enum ["ACTIVE", "CANCELLED"]),
      ("items", allOf [type .array, minItems 1, items (catalogueItem dateTime)]),
      ("provider", object ["id", "descriptor"] [("id", nonEmpty), ("descriptor", descriptor)]),
      ("fulfillments", orderFulfillments dateTime), ("billing", billing), ("payments", payments),
      ("quote", quote), ("cancellation_terms", allOf [type .array, minItems 1]),
      ("tags", allOf [type .array, minItems 1, items tag])]

/-- What `confirmedOrder` and `settledOrder` ask beyond `baseOrder`. -/
def bookedOrder (status : Schema) : Schema :=
  allOf [baseOrder dateTime,
    object ["id", "status", "billing", "payments"]
      [("id", allOf [type .string, minLength 1, pattern (startsWith "SPECIMEN-")]),
        ("status", status),
        ("fulfillments", allOf [orderFulfillments dateTime,
          contains (object ["tags"]
            [("tags", allOf [type .array, hasTag "BOOKING_REF"])])])]]

/-- `confirmedOrder`. -/
def confirmedOrder : Schema := bookedOrder dateTime (const "ACTIVE")

/-- `settledOrder`. -/
def settledOrder : Schema := bookedOrder dateTime (enum ["ACTIVE", "CANCELLED"])

/-- `error`. -/
def error : Schema :=
  allOf [object ["code", "message"] [("code", nonEmpty), ("message", nonEmpty)],
    noOther ["code", "message"]]

/-! ## The documents -/

/-- A context with this action. -/
def contextOf (action : String) : Schema :=
  allOf [context dateTime, allOf [type .object, properties [("action", const action)]]]

/-- A request with this context and message. -/
def request (context message : Schema) : Schema :=
  object ["context", "message"] [("context", context), ("message", message)]

/-- `context` of a search, which need not name the seller. -/
def searchContext : Schema :=
  object ["domain", "location", "action", "version", "bap_id", "bap_uri", "transaction_id",
    "message_id", "timestamp", "ttl"] (contextFields dateTime (const "search"))

/-- `fulfillment` of a search. -/
def searchFulfillment : Schema :=
  object ["stops", "travel_date"]
    [("travel_date", travelDate),
      ("stops", allOf [type .array, minItems 2, maxItems 2, items namedStop]),
      ("vehicle", object ["category"] [("category", const "COACH")])]

/-- `item` of a search. -/
def searchItem : Schema := object ["descriptor"] [("descriptor", codeDescriptor)]

/-- `intent` of a search. -/
def intent : Schema :=
  object ["category", "fulfillment"]
    [("category", object ["descriptor"] [("descriptor", coded (const "RESERVED"))]),
      ("fulfillment", searchFulfillment), ("item", searchItem)]

/-- `search.json`. -/
def search : Schema :=
  request (searchContext dateTime) (object ["intent"] [("intent", intent)])

/-- `select.json`. -/
def select : Schema :=
  request (contextOf dateTime "select") (object ["order"] [("order", selectionOrder)])

/-- What `init.json` and `confirm.json` ask of the order. -/
def paidOrder : Schema :=
  allOf [selectionOrder,
    object ["billing", "payments"] [("billing", billing), ("payments", payments)]]

/-- `init.json`. -/
def init : Schema :=
  request (contextOf dateTime "init") (object ["order"] [("order", paidOrder)])

/-- `confirm.json`. -/
def confirm : Schema :=
  request (contextOf dateTime "confirm") (object ["order"] [("order", paidOrder)])

/-- `status.json`. -/
def status : Schema :=
  request (contextOf dateTime "status")
    (allOf [object [] [("order_id", nonEmpty), ("ref_id", nonEmpty)],
      oneOf [required ["order_id"], required ["ref_id"]]])

/-- What `cancel.json` asks of the message. -/
def cancelMessage : Schema :=
  object ["order_id", "descriptor"]
    [("order_id", nonEmpty), ("descriptor", coded (enum ["SOFT_CANCEL", "CONFIRM_CANCEL"])),
      ("tags", tags)]

/-- `cancel.json`. -/
def cancel : Schema := request (contextOf dateTime "cancel") cancelMessage

/-- A callback: a payload under `key` or an error, and these properties of the message. -/
def callback (action key : String) (message : List (String × Schema)) : Schema :=
  allOf [type .object, required ["context"],
    anyOf [
      allOf [required ["message"],
        properties [("message", allOf [type .object, required [key]])]],
      required ["error"]],
    properties [("context", contextOf dateTime action),
      ("message", allOf [type .object, properties message]), ("error", error)]]

/-- `catalog` of a search's callback. -/
def catalog : Schema :=
  object ["descriptor", "providers"]
    [("descriptor", descriptor), ("providers", array (provider dateTime))]

/-- `on_search.json`. -/
def onSearch : Schema :=
  callback dateTime "on_search" "catalog" [("catalog", catalog dateTime)]

/-- `on_select.json`. -/
def onSelect : Schema :=
  callback dateTime "on_select" "order" [("order", baseOrder dateTime), ("tags", tags)]

/-- `on_init.json`. -/
def onInit : Schema := callback dateTime "on_init" "order" [("order", baseOrder dateTime)]

/-- `on_confirm.json`. -/
def onConfirm : Schema :=
  callback dateTime "on_confirm" "order" [("order", confirmedOrder dateTime)]

/-- `on_status.json`. -/
def onStatus : Schema :=
  callback dateTime "on_status" "order"
    [("order", settledOrder dateTime), ("refund", refund)]

/-- `on_cancel.json`. -/
def onCancel : Schema :=
  callback dateTime "on_cancel" "order"
    [("order", settledOrder dateTime), ("refund", refund), ("tags", tags)]

end Schemas

end TransitBpp
