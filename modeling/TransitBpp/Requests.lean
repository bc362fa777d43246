import TransitBpp.Schemas
import TransitBpp.Handlers

/-!
# Reading requests

A request is JSON until its schema accepts it; from then on the handlers take its types for
granted. The readers below fail where a value is not of the type a handler takes it for, and
`accepted_reads` says that they never do on what the schema of the action accepts.
-/

namespace TransitBpp

open Js JsonSchema

/-! ## Actions -/

/-- `RESERVED_ACTIONS`. -/
inductive ReservedAction : Type where
  | search | select | init | confirm | status | cancel
  deriving DecidableEq, Repr

namespace ReservedAction

/-- Every action, in the source's order. -/
def all : List ReservedAction := [search, select, init, confirm, status, cancel]

/-- The action as the wire spells it. -/
def wire : ReservedAction → String
  | search => "search"
  | select => "select"
  | init => "init"
  | confirm => "confirm"
  | status => "status"
  | cancel => "cancel"

/-- `on_<action>`. -/
def onAction (action : ReservedAction) : String := "on_" ++ action.wire

/-- `isReservedAction`. -/
def ofWire (s : String) : Option ReservedAction := all.find? fun action => action.wire = s

theorem wire_of_ofWire {s : String} {action : ReservedAction} (h : ofWire s = some action) :
    action.wire = s := by
  simpa using List.find?_some h

theorem ofWire_wire (action : ReservedAction) : ofWire action.wire = some action := by
  cases action <;> rfl

/-- The schema of the request. -/
def requestSchema (dateTime : String → Bool) : ReservedAction → Schema
  | search => Schemas.search dateTime
  | select => Schemas.select dateTime
  | init => Schemas.init dateTime
  | confirm => Schemas.confirm dateTime
  | status => Schemas.status dateTime
  | cancel => Schemas.cancel dateTime

/-- The schema of the callback. -/
def callbackSchema (dateTime : String → Bool) : ReservedAction → Schema
  | search => Schemas.onSearch dateTime
  | select => Schemas.onSelect dateTime
  | init => Schemas.onInit dateTime
  | confirm => Schemas.onConfirm dateTime
  | status => Schemas.onStatus dateTime
  | cancel => Schemas.onCancel dateTime

/-- What a callback that is no refusal carries its payload under. -/
def payloadKey : ReservedAction → String
  | search => "catalog"
  | _ => "order"

/-- What the schema of the callback says of its message. -/
def messageProperties (dateTime : String → Bool) : ReservedAction → List (String × Schema)
  | search => [("catalog", Schemas.catalog dateTime)]
  | select => [("order", Schemas.baseOrder dateTime), ("tags", Schemas.tags)]
  | init => [("order", Schemas.baseOrder dateTime)]
  | confirm => [("order", Schemas.confirmedOrder dateTime)]
  | status => [("order", Schemas.settledOrder dateTime), ("refund", Schemas.refund)]
  | cancel => [("order", Schemas.settledOrder dateTime), ("refund", Schemas.refund),
      ("tags", Schemas.tags)]

/-- The six documents are one, with the action's own payload. -/
theorem callbackSchema_eq {dateTime : String → Bool} (action : ReservedAction) :
    action.callbackSchema dateTime = Schemas.callback dateTime action.onAction action.payloadKey
      (action.messageProperties dateTime) := by
  cases action <;> rfl

end ReservedAction

/-! ## Readers -/

/-- A field that has to be there. -/
def field {α : Type} (key : String) (read : Json → Option α) (value : Json) : Option α :=
  (value.get? key).bind read

/-- A field that may be missing. -/
def optionally {α : Type} (key : String) (read : Json → Option α) (value : Json) :
    Option (Option α) :=
  match value.get? key with
  | none => some none
  | some v => (read v).map some

/-- An array of what `read` reads. -/
def arrayOf {α : Type} (read : Json → Option α) : Json → Option (List α)
  | .arr values => values.mapM read
  | _ => none

/-- The fields of an object. -/
def fieldsOf : Json → Option JsonObject
  | .obj fields => some fields
  | _ => none

/-- A whole number. -/
def integerOf : Json → Option ℤ
  | .num q => if q.den = 1 then some q.num else none
  | _ => none

/-- An entry of a tag group. -/
def buyerEntryOf (value : Json) : Option BuyerEntry := do
  return ⟨← field "descriptor" (optionally "code" Json.str?) value,
    ← optionally "value" Json.str? value⟩

/-- A tag group. -/
def buyerTagOf (value : Json) : Option BuyerTag := do
  return ⟨← field "descriptor" (optionally "code" Json.str?) value,
    ← optionally "list" (arrayOf buyerEntryOf) value⟩

/-- A stop. -/
def buyerStopOf (value : Json) : Option BuyerStop := do
  return ⟨← optionally "type" Json.str? value,
    ← field "location" (field "descriptor" (optionally "code" Json.str?)) value⟩

/-- An item of an order. -/
def itemInputOf (value : Json) : Option ItemInput := do
  return ⟨← field "id" Json.str? value,
    ← field "quantity" (field "selected" (optionally "count" integerOf)) value⟩

/-- What is read of an order only where it is to be paid. -/
def ifPaid {α : Type} (paid : Bool) (read : Json → Option (Option α)) (value : Json) :
    Option (Option α) := if paid then read value else some none

/-- An order. -/
def orderInputOf (paid : Bool) (value : Json) : Option OrderInput := do
  return {
    items := ← optionally "items" (arrayOf itemInputOf) value
    providerId := ← field "provider" (optionally "id" Json.str?) value
    fulfillments :=
      ← optionally "fulfillments" (arrayOf (optionally "stops" (arrayOf buyerStopOf))) value
    billing := ← ifPaid paid (optionally "billing" fieldsOf) value
    payments := ← ifPaid paid (optionally "payments" (arrayOf fieldsOf)) value
    tags := ← optionally "tags" (arrayOf buyerTagOf) value }

/-- The part of a context the handlers read. -/
def reservedContextOf (value : Json) : Option ReservedContext := do
  return ⟨← field "transaction_id" Json.str? value, ← field "bap_id" Json.str? value,
    ← field "bap_uri" Json.str? value, ← optionally "bpp_id" Json.str? value,
    ← optionally "bpp_uri" Json.str? value⟩

/-- The intent of a search in a city. -/
def intentOf (cityCode : Option String) (intent : Json) : Option ReservedSearchIntent := do
  return {
    travelDate := ← field "fulfillment" (optionally "travel_date" Json.str?) intent
    stops := ← field "fulfillment" (optionally "stops" (arrayOf buyerStopOf)) intent
    itemCode := (← optionally "item" (field "descriptor" (optionally "code" Json.str?)) intent).join
    cityCode }

/-- A search. -/
def searchIntentOf (body : Json) : Option ReservedSearchIntent := do
  let cityCode ← field "context" (field "location" (field "city" (optionally "code" Json.str?))) body
  field "message" (field "intent" (intentOf cityCode)) body

/-- The step a descriptor names. -/
def cancelStepOf (code : String) : CancelStep :=
  if code = "SOFT_CANCEL" then .soft else .confirm

/-- What a request asks for. -/
def actionOf (action : ReservedAction) (body : Json) : Option Action :=
  let context := field "context" reservedContextOf body
  let order (paid : Bool) := field "message" (field "order" (orderInputOf paid)) body
  match action with
  | .search => do return .search (← searchIntentOf body)
  | .select => do return .select (← context) (← order false)
  | .init => do return .init (← context) (← order true)
  | .confirm => do return .confirm (← context) (← order true)
  | .status => do
    let orderId ← field "message" (optionally "order_id" Json.str?) body
    let refId ← field "message" (optionally "ref_id" Json.str?) body
    return .status (← context) orderId refId
  | .cancel => do
    let orderId ← field "message" (field "order_id" Json.str?) body
    let code ← field "message" (field "descriptor" (field "code" Json.str?)) body
    let tags ← field "message" (optionally "tags" (arrayOf buyerTagOf)) body
    return .cancel (← context) orderId (cancelStepOf code) tags

/-! ## What a schema accepts is read -/

/-- A reader reads whatever a schema accepts. -/
structure Guards {α : Type} (schema : Schema) (read : Json → Option α) : Prop where
  /-- it never fails there -/
  reads : ∀ {value : Json}, schema value = true → ∃ a, read value = some a

section Guards

variable {α β : Type} {schema : Schema} {schemas : List Schema} {read : Json → Option α}
variable {keys : List String} {entries : List (String × Schema)} {key : String}

theorem Guards.head (h : Guards schema read) : Guards (allOf (schema :: schemas)) read :=
  ⟨fun hv => h.reads (allOf_cons.mp hv).1⟩

theorem Guards.tail (h : Guards (allOf schemas) read) : Guards (allOf (schema :: schemas)) read :=
  ⟨fun hv => h.reads (allOf_cons.mp hv).2⟩

theorem guards_nonEmpty : Guards nonEmpty Json.str? :=
  ⟨fun hv => by obtain ⟨s, rfl, -⟩ := nonEmpty_iff.mp hv; exact ⟨s, rfl⟩⟩

theorem guards_string : Guards (type .string) Json.str? :=
  ⟨fun hv => by obtain ⟨s, rfl⟩ := type_string_iff.mp hv; exact ⟨s, rfl⟩⟩

theorem guards_enum {expected : List String} : Guards (enum expected) Json.str? :=
  ⟨fun {value} hv => by cases value <;> first | exact ⟨_, rfl⟩ | cases hv⟩

theorem guards_integer : Guards (type .integer) integerOf :=
  ⟨fun {value} hv => by
    cases value with
    | num q => exact ⟨q.num, if_pos (of_decide_eq_true hv)⟩
    | _ => cases hv⟩

theorem guards_fields : Guards (type .object) fieldsOf :=
  ⟨fun hv => by obtain ⟨fields, rfl⟩ := type_object_iff.mp hv; exact ⟨fields, rfl⟩⟩

theorem guards_object : Guards (object keys entries) fieldsOf := guards_fields.head

theorem Guards.field (h : Guards schema read) (hkey : key ∈ keys)
    (hentry : (key, schema) ∈ entries) : Guards (object keys entries) (field key read) := by
  refine ⟨fun hv => ?_⟩
  obtain ⟨v, hget⟩ := get_of_required hv hkey
  obtain ⟨a, ha⟩ := h.reads (accepts_of_get hv hentry hget)
  exact ⟨a, by rw [TransitBpp.field, hget]; exact ha⟩

theorem Guards.optionally (h : Guards schema read) (hentry : (key, schema) ∈ entries) :
    Guards (object keys entries) (optionally key read) := by
  refine ⟨fun {value} hv => ?_⟩
  unfold TransitBpp.optionally
  split
  · exact ⟨none, rfl⟩
  · rename_i v hget
    obtain ⟨a, ha⟩ := h.reads (accepts_of_get hv hentry hget)
    exact ⟨some a, by rw [ha]; rfl⟩

theorem Guards.mapM (h : Guards schema read) : ∀ {values : List Json},
    (∀ v ∈ values, schema v = true) → ∃ as, values.mapM read = some as
  | [], _ => ⟨[], rfl⟩
  | v :: values, hall => by
    obtain ⟨a, ha⟩ := h.reads (hall v List.mem_cons_self)
    obtain ⟨as, has⟩ := h.mapM fun w hw => hall w (List.mem_cons_of_mem v hw)
    exact ⟨a :: as, by simp [List.mapM_cons, ha, has]⟩

theorem Guards.arrayOf (h : Guards schema read) {others : List Schema} (hitems : items schema ∈ others) :
    Guards (allOf (type .array :: others)) (arrayOf read) := by
  refine ⟨fun hv => ?_⟩
  obtain ⟨htype, hothers⟩ := allOf_cons.mp hv
  obtain ⟨values, rfl⟩ := type_array_iff.mp htype
  exact h.mapM (items_arr.mp (List.all_eq_true.mp hothers _ hitems))

end Guards

theorem guards_code {code : Schema} (h : Guards code Json.str?) :
    Guards (Schemas.coded code) (optionally "code" Json.str?) := h.optionally (by simp)

theorem guards_codeDescriptor :
    Guards Schemas.codeDescriptor (optionally "code" Json.str?) :=
  guards_nonEmpty.optionally (by simp)

theorem guards_buyerEntryOf : Guards Schemas.tagEntry buyerEntryOf := by
  refine ⟨fun hv => ?_⟩
  have hdescriptor : Guards Schemas.tagEntry (field "descriptor" (optionally "code" Json.str?)) :=
    (guards_code guards_nonEmpty).field (by simp) (by simp)
  have hvalue : Guards Schemas.tagEntry (optionally "value" Json.str?) :=
    guards_string.optionally (by simp)
  obtain ⟨code, hcode⟩ := hdescriptor.reads hv
  obtain ⟨shown, hshown⟩ := hvalue.reads hv
  exact ⟨⟨code, shown⟩, by rw [buyerEntryOf, hcode, hshown]; rfl⟩

theorem guards_buyerTagOf : Guards Schemas.tag buyerTagOf := by
  refine ⟨fun hv => ?_⟩
  have hdescriptor : Guards Schemas.tag (field "descriptor" (optionally "code" Json.str?)) :=
    (guards_code guards_nonEmpty).field (by simp) (by simp)
  have hentries : Guards (allOf [type .array, minItems 1, items Schemas.tagEntry])
      (arrayOf buyerEntryOf) := guards_buyerEntryOf.arrayOf (by simp)
  have hlist : Guards Schemas.tag (optionally "list" (arrayOf buyerEntryOf)) :=
    hentries.optionally (by simp)
  obtain ⟨code, hcode⟩ := hdescriptor.reads hv
  obtain ⟨entries, hentries⟩ := hlist.reads hv
  exact ⟨⟨code, entries⟩, by rw [buyerTagOf, hcode, hentries]; rfl⟩

theorem guards_tags : Guards Schemas.tags (arrayOf buyerTagOf) :=
  guards_buyerTagOf.arrayOf (by simp)

theorem guards_buyerStopOf : Guards Schemas.namedStop buyerStopOf := by
  refine ⟨fun hv => ?_⟩
  have hone : Guards (enum ["START", "END"]) Json.str? := guards_enum
  have htype : Guards Schemas.namedStop (optionally "type" Json.str?) :=
    hone.optionally (by simp)
  have hat : Guards (Schemas.stopLocation []) (field "descriptor" (optionally "code" Json.str?)) :=
    guards_codeDescriptor.field (by simp) (by simp)
  have hlocation : Guards Schemas.namedStop
      (field "location" (field "descriptor" (optionally "code" Json.str?))) :=
    hat.field (by simp) (by simp)
  obtain ⟨type, htype⟩ := htype.reads hv
  obtain ⟨code, hcode⟩ := hlocation.reads hv
  exact ⟨⟨type, code⟩, by rw [buyerStopOf, htype, hcode]; rfl⟩

theorem guards_itemInputOf : Guards Schemas.selectedItem itemInputOf := by
  refine ⟨fun hv => ?_⟩
  have hid : Guards Schemas.selectedItem (field "id" Json.str?) :=
    guards_nonEmpty.field (by simp) (by simp)
  have hinteger : Guards (allOf [type .integer, minimum 1, maximum 6]) integerOf :=
    guards_integer.head
  have hcount : Guards (Schemas.count [minimum 1, maximum 6]) (optionally "count" integerOf) :=
    hinteger.optionally (by simp)
  have hselected : Guards
      (object ["selected"] [("selected", Schemas.count [minimum 1, maximum 6])])
      (field "selected" (optionally "count" integerOf)) := hcount.field (by simp) (by simp)
  have hquantity : Guards Schemas.selectedItem
      (field "quantity" (field "selected" (optionally "count" integerOf))) :=
    hselected.field (by simp) (by simp)
  obtain ⟨id, hid⟩ := hid.reads hv
  obtain ⟨count, hcount⟩ := hquantity.reads hv
  exact ⟨⟨id, count⟩, by rw [itemInputOf, hid, hcount]; rfl⟩

/-- The part of an order every action reads. -/
theorem exists_orderInputOf {paid : Bool} {value : Json}
    (hv : Schemas.selectionOrder value = true)
    (hbilling : ∃ a, ifPaid paid (optionally "billing" fieldsOf) value = some a)
    (hpayments : ∃ a, ifPaid paid (optionally "payments" (arrayOf fieldsOf)) value = some a) :
    ∃ input, orderInputOf paid value = some input := by
  have hlist : Guards (allOf [type .array, minItems 1, items Schemas.selectedItem])
      (arrayOf itemInputOf) := guards_itemInputOf.arrayOf (by simp)
  have hitems : Guards Schemas.selectionOrder (optionally "items" (arrayOf itemInputOf)) :=
    hlist.optionally (by simp)
  have hid : Guards (object ["id"] [("id", nonEmpty)]) (optionally "id" Json.str?) :=
    guards_nonEmpty.optionally (by simp)
  have hprovider : Guards Schemas.selectionOrder (field "provider" (optionally "id" Json.str?)) :=
    hid.field (by simp) (by simp)
  have hstops : Guards Schemas.namedStops (arrayOf buyerStopOf) :=
    guards_buyerStopOf.arrayOf (by simp)
  have hfulfillment : Guards Schemas.namedFulfillment (optionally "stops" (arrayOf buyerStopOf)) :=
    hstops.optionally (by simp)
  have hlist : Guards (array Schemas.namedFulfillment)
      (arrayOf (optionally "stops" (arrayOf buyerStopOf))) := hfulfillment.arrayOf (by simp)
  have hfulfillments : Guards Schemas.selectionOrder
      (optionally "fulfillments" (arrayOf (optionally "stops" (arrayOf buyerStopOf)))) :=
    hlist.optionally (by simp)
  have htags : Guards Schemas.selectionOrder (optionally "tags" (arrayOf buyerTagOf)) :=
    guards_tags.optionally (by simp)
  obtain ⟨items, hitems⟩ := hitems.reads hv
  obtain ⟨providerId, hprovider⟩ := hprovider.reads hv
  obtain ⟨fulfillments, hfulfillments⟩ := hfulfillments.reads hv
  obtain ⟨tags, htags⟩ := htags.reads hv
  obtain ⟨billing, hbilling⟩ := hbilling
  obtain ⟨payments, hpayments⟩ := hpayments
  exact ⟨⟨items, providerId, fulfillments, billing, payments, tags⟩, by
    rw [orderInputOf, hitems, hprovider, hfulfillments, htags, hbilling, hpayments]; rfl⟩

theorem guards_selectionOrder : Guards Schemas.selectionOrder (orderInputOf false) :=
  ⟨fun hv => exists_orderInputOf hv ⟨none, rfl⟩ ⟨none, rfl⟩⟩

theorem guards_paidOrder : Guards Schemas.paidOrder (orderInputOf true) := by
  refine ⟨fun hv => ?_⟩
  obtain ⟨hselection, hpaid, -⟩ : _ ∧ _ ∧ True := by simpa [Schemas.paidOrder] using hv
  have hcontact : Guards Schemas.billing fieldsOf := guards_object
  have hbilling : Guards (object ["billing", "payments"]
      [("billing", Schemas.billing), ("payments", Schemas.payments)])
      (optionally "billing" fieldsOf) := hcontact.optionally (by simp)
  have hpayment : Guards Schemas.payment fieldsOf := guards_object
  have hlist : Guards Schemas.payments (arrayOf fieldsOf) := hpayment.arrayOf (by simp)
  have hpayments : Guards (object ["billing", "payments"]
      [("billing", Schemas.billing), ("payments", Schemas.payments)])
      (optionally "payments" (arrayOf fieldsOf)) := hlist.optionally (by simp)
  exact exists_orderInputOf hselection (hbilling.reads hpaid) (hpayments.reads hpaid)

theorem guards_reservedContextOf {dateTime : String → Bool} :
    Guards (Schemas.context dateTime) reservedContextOf := by
  refine ⟨fun hv => ?_⟩
  have hfield (key : String) (hkey : (key, nonEmpty) ∈ Schemas.contextFields dateTime nonEmpty)
      (hrequired : key ∈ ["domain", "location", "action", "version", "bap_id", "bap_uri", "bpp_id",
        "bpp_uri", "transaction_id", "message_id", "timestamp", "ttl"]) :
      Guards (Schemas.context dateTime) (field key Json.str?) :=
    guards_nonEmpty.field hrequired hkey
  have hoptional (key : String) (hkey : (key, nonEmpty) ∈ Schemas.contextFields dateTime nonEmpty) :
      Guards (Schemas.context dateTime) (optionally key Json.str?) :=
    guards_nonEmpty.optionally hkey
  obtain ⟨transactionId, htransaction⟩ :=
    (hfield "transaction_id" (by simp [Schemas.contextFields]) (by simp)).reads hv
  obtain ⟨bapId, hbapId⟩ := (hfield "bap_id" (by simp [Schemas.contextFields]) (by simp)).reads hv
  obtain ⟨bapUri, hbapUri⟩ := (hfield "bap_uri" (by simp [Schemas.contextFields]) (by simp)).reads hv
  obtain ⟨bppId, hbppId⟩ := (hoptional "bpp_id" (by simp [Schemas.contextFields])).reads hv
  obtain ⟨bppUri, hbppUri⟩ := (hoptional "bpp_uri" (by simp [Schemas.contextFields])).reads hv
  exact ⟨⟨transactionId, bapId, bapUri, bppId, bppUri⟩, by
    rw [reservedContextOf, htransaction, hbapId, hbapUri, hbppId, hbppUri]; rfl⟩

section Documents

variable {dateTime : String → Bool} {context message : Schema} {α : Type} {read : Json → Option α}

theorem guards_context (h : Guards context read) :
    Guards (Schemas.request context message) (field "context" read) := h.field (by simp) (by simp)

theorem guards_message (h : Guards message read) :
    Guards (Schemas.request context message) (field "message" read) := h.field (by simp) (by simp)

theorem guards_city {action : Schema} {keys : List String} (hkey : "location" ∈ keys) :
    Guards (object keys (Schemas.contextFields dateTime action))
      (field "location" (field "city" (optionally "code" Json.str?))) := by
  have hcity : Guards Schemas.location (field "city" (optionally "code" Json.str?)) :=
    (guards_code guards_nonEmpty).field (by simp) (by simp [Schemas.coded])
  exact hcity.field hkey (by simp [Schemas.contextFields])

theorem guards_intentOf {cityCode : Option String} : Guards Schemas.intent (intentOf cityCode) := by
  refine ⟨fun hv => ?_⟩
  have hday : Guards Schemas.travelDate Json.str? := guards_string.head
  have hdate : Guards Schemas.searchFulfillment (optionally "travel_date" Json.str?) :=
    hday.optionally (by simp)
  have hlist : Guards (allOf [type .array, minItems 2, maxItems 2, items Schemas.namedStop])
      (arrayOf buyerStopOf) := guards_buyerStopOf.arrayOf (by simp)
  have hstops : Guards Schemas.searchFulfillment (optionally "stops" (arrayOf buyerStopOf)) :=
    hlist.optionally (by simp)
  have hitem : Guards Schemas.searchItem (field "descriptor" (optionally "code" Json.str?)) :=
    guards_codeDescriptor.field (by simp) (by simp)
  have hdate' : Guards Schemas.intent
      (field "fulfillment" (optionally "travel_date" Json.str?)) := hdate.field (by simp) (by simp)
  have hstops' : Guards Schemas.intent
      (field "fulfillment" (optionally "stops" (arrayOf buyerStopOf))) :=
    hstops.field (by simp) (by simp)
  have hitem' : Guards Schemas.intent
      (optionally "item" (field "descriptor" (optionally "code" Json.str?))) :=
    hitem.optionally (by simp)
  obtain ⟨travelDate, hdate⟩ := hdate'.reads hv
  obtain ⟨stops, hstops⟩ := hstops'.reads hv
  obtain ⟨itemCode, hitem⟩ := hitem'.reads hv
  exact ⟨⟨travelDate, stops, itemCode.join, cityCode⟩, by
    rw [intentOf, hdate, hstops, hitem]; rfl⟩

/-- **What the schema of an action accepts is read.** -/
theorem accepted_reads {action : ReservedAction} :
    Guards (action.requestSchema dateTime) (actionOf action) := by
  refine ⟨fun {body} hv => ?_⟩
  have hcontext {a : String} : Guards (Schemas.contextOf dateTime a) reservedContextOf :=
    guards_reservedContextOf.head
  cases action with
  | search =>
    have hcity : Guards (Schemas.search dateTime)
        (field "context" (field "location" (field "city" (optionally "code" Json.str?)))) :=
      guards_context (guards_city (by simp))
    obtain ⟨cityCode, hcity⟩ := hcity.reads hv
    have hintent : Guards (object ["intent"] [("intent", Schemas.intent)])
        (field "intent" (intentOf cityCode)) := guards_intentOf.field (by simp) (by simp)
    obtain ⟨intent, hintent⟩ := (guards_message hintent).reads hv
    exact ⟨.search intent, by
      rw [actionOf, searchIntentOf, hcity]
      simp only [Option.bind_eq_bind, Option.bind_some, hintent]
      rfl⟩
  | select =>
    have horder : Guards (object ["order"] [("order", Schemas.selectionOrder)])
        (field "order" (orderInputOf false)) := guards_selectionOrder.field (by simp) (by simp)
    obtain ⟨context, hcontext⟩ := (guards_context hcontext).reads hv
    obtain ⟨order, horder⟩ := (guards_message horder).reads hv
    exact ⟨.select context order, by simp only [actionOf, hcontext, horder]; rfl⟩
  | init =>
    have horder : Guards (object ["order"] [("order", Schemas.paidOrder)])
        (field "order" (orderInputOf true)) := guards_paidOrder.field (by simp) (by simp)
    obtain ⟨context, hcontext⟩ := (guards_context hcontext).reads hv
    obtain ⟨order, horder⟩ := (guards_message horder).reads hv
    exact ⟨.init context order, by simp only [actionOf, hcontext, horder]; rfl⟩
  | confirm =>
    have horder : Guards (object ["order"] [("order", Schemas.paidOrder)])
        (field "order" (orderInputOf true)) := guards_paidOrder.field (by simp) (by simp)
    obtain ⟨context, hcontext⟩ := (guards_context hcontext).reads hv
    obtain ⟨order, horder⟩ := (guards_message horder).reads hv
    exact ⟨.confirm context order, by simp only [actionOf, hcontext, horder]; rfl⟩
  | status =>
    have hname (key : String)
        (hkey : (key, nonEmpty) ∈ [("order_id", nonEmpty), ("ref_id", nonEmpty)]) :
        Guards (allOf [object [] [("order_id", nonEmpty), ("ref_id", nonEmpty)],
          oneOf [required ["order_id"], required ["ref_id"]]]) (optionally key Json.str?) :=
      (guards_nonEmpty.optionally hkey).head
    obtain ⟨context, hcontext⟩ := (guards_context hcontext).reads hv
    obtain ⟨orderId, horderId⟩ := (guards_message (hname "order_id" (by simp))).reads hv
    obtain ⟨refId, hrefId⟩ := (guards_message (hname "ref_id" (by simp))).reads hv
    exact ⟨.status context orderId refId, by simp only [actionOf, hcontext, horderId, hrefId]; rfl⟩
  | cancel =>
    have hid : Guards Schemas.cancelMessage (field "order_id" Json.str?) :=
      guards_nonEmpty.field (by simp) (by simp)
    have hone : Guards (enum ["SOFT_CANCEL", "CONFIRM_CANCEL"]) Json.str? := guards_enum
    have hstep : Guards (Schemas.coded (enum ["SOFT_CANCEL", "CONFIRM_CANCEL"]))
        (field "code" Json.str?) := hone.field (by simp) (by simp)
    have hcode : Guards Schemas.cancelMessage (field "descriptor" (field "code" Json.str?)) :=
      hstep.field (by simp) (by simp)
    have htags : Guards Schemas.cancelMessage (optionally "tags" (arrayOf buyerTagOf)) :=
      guards_tags.optionally (by simp)
    obtain ⟨context, hcontext⟩ := (guards_context hcontext).reads hv
    obtain ⟨orderId, horderId⟩ := (guards_message hid).reads hv
    obtain ⟨code, hcode⟩ := (guards_message hcode).reads hv
    obtain ⟨tags, htags⟩ := (guards_message htags).reads hv
    exact ⟨.cancel context orderId (cancelStepOf code) tags, by
      simp only [actionOf, hcontext, horderId, hcode, htags]; rfl⟩

end Documents

end TransitBpp
