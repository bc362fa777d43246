import TransitBpp.TransitCatalogues

/-!
# Reading transit requests

A request for a single journey or a pass is JSON until its schema accepts it; from then on the service
takes its types for granted. The readers below fail where a value is not of the type it is taken for,
and `accepted_transit_reads` says that they never do on what the schema of the action accepts.
-/

namespace TransitBpp.Trv11

open Js (Json)
open JsonSchema

/-! ## Actions -/

/-- `requestActions`. -/
inductive TransitAction : Type where
  | search | select | init | confirm | status
  deriving DecidableEq, Repr

namespace TransitAction

/-- Every action, in the source's order. -/
def all : List TransitAction := [search, select, init, confirm, status]

/-- The action as the wire spells it. -/
def wire : TransitAction → String
  | search => "search"
  | select => "select"
  | init => "init"
  | confirm => "confirm"
  | status => "status"

/-- `on_<action>`. -/
def onAction (action : TransitAction) : String := "on_" ++ action.wire

/-- `isRequestAction` and `isKsrtcPassAction`. -/
def ofWire (s : String) : Option TransitAction := all.find? fun action => action.wire = s

theorem ofWire_wire (action : TransitAction) : ofWire action.wire = some action := by
  cases action <;> rfl

/-- The schema of the request. -/
def requestSchema (dateTime : String → Bool) : TransitAction → Schema
  | search => Documents.search dateTime
  | select => Documents.select dateTime
  | init => Documents.init dateTime
  | confirm => Documents.confirm dateTime
  | status => Documents.status dateTime

/-- The schema of the callback. -/
def callbackSchema (dateTime : String → Bool) : TransitAction → Schema
  | search => Documents.onSearch dateTime
  | select => Documents.onSelect dateTime
  | init => Documents.onInit dateTime
  | confirm => Documents.onConfirm dateTime
  | status => Documents.onStatus dateTime

/-- What the callback of an action other than `search` says of the order. -/
def orderSchema (dateTime : String → Bool) : TransitAction → Schema
  | init => allOf [Documents.baseOrder, object ["billing", "payments"] []]
  | confirm => Documents.confirmedOrder dateTime
  | status => Documents.confirmedOrder dateTime
  | _ => Documents.baseOrder

/-- Four of the five documents are one, with the action's own order. -/
theorem callbackSchema_eq {dateTime : String → Bool} {action : TransitAction} (h : action ≠ search) :
    action.callbackSchema dateTime =
      Documents.callback dateTime action.onAction (action.orderSchema dateTime) := by
  cases action with
  | search => exact absurd rfl h
  | _ => rfl

end TransitAction

/-- `OrderSelection`; the schema asks for at least one item. -/
structure OrderSelection : Type where
  /-- what is selected -/
  items : List SelectedItem
  /-- something is -/
  selected : items ≠ []
  /-- whom it is bought from -/
  providerId : String
  /-- carries the `CONCESSION` tag group -/
  tags : Option (List Json)

/-- A request that comes with a billing address and payments, which are as they are published. -/
structure PaidRequest extends ConfirmRequest where
  /-- `billing` -/
  billed : Schemas.billing billing = true
  /-- each of `payments` -/
  paid : ∀ payment ∈ payments, Schemas.payment (.obj payment) = true

/-- What a request asks for. An order that is selected has no billing and no payments yet. -/
inductive Work : Type where
  | search : SearchRequest → Work
  | select : ConfirmRequest → Work
  | init : PaidRequest → Work
  | confirm : PaidRequest → Work
  /-- the order by its own id, or by a reference -/
  | status : Trv11Context → Option String → Option String → Work

/-! ## Readers -/

section Readers

variable (numberText : ℚ → String) (time : String → Option ℤ)

/-- A number. -/
def jsNumberOf : Json → Option JsNumber
  | .num q => some (.finite q (numberText q))
  | _ => none

/-- A selected item. -/
def selectedItemOf (value : Json) : Option SelectedItem := do
  return ⟨← field "id" Json.str? value,
    ← field "quantity" (field "selected" (field "count" (jsNumberOf numberText))) value⟩

/-- A selection. -/
def orderSelectionOf (value : Json) : Option OrderSelection := do
  let items ← field "items" (arrayOf (selectedItemOf numberText)) value
  let providerId ← field "provider" (field "id" Json.str?) value
  let tags ← optionally "tags" (arrayOf some) value
  match items with
  | [] => none
  | item :: items => some ⟨item :: items, List.cons_ne_nil _ _, providerId, tags⟩

/-- The part of a context the service reads. A search need not name the seller, and its seller is not
read. -/
def trv11ContextOf (value : Json) : Option Trv11Context := do
  let timestamp ← field "timestamp" Json.str? value
  return {
    transactionId := ← field "transaction_id" Json.str? value
    bapId := ← field "bap_id" Json.str? value
    bapUri := ← field "bap_uri" Json.str? value
    bppId := (← optionally "bpp_id" Json.str? value).getD ""
    bppUri := (← optionally "bpp_uri" Json.str? value).getD ""
    timestamp
    timestampMs := time timestamp }

/-- A stop of a search. -/
def searchStopOf (value : Json) : Option SearchStop := do
  return ⟨← field "type" Json.str? value,
    ← field "location" (optionally "descriptor" (field "code" Json.str?)) value,
    ← field "location" (optionally "gps" Json.str?) value⟩

/-- `fulfillment` of a search. -/
def searchFulfillmentOf (value : Json) : Option SearchFulfillment := do
  return ⟨← field "stops" (arrayOf searchStopOf) value,
    ← optionally "vehicle" (field "category" Json.str?) value⟩

/-- A search. -/
def searchRequestOf (body : Json) : Option SearchRequest := do
  return ⟨← field "context" (trv11ContextOf time) body,
    ← field "message" (field "intent" (optionally "fulfillment" searchFulfillmentOf)) body,
    ← field "message" (field "intent"
      (optionally "category" (field "descriptor" (field "code" Json.str?)))) body⟩

/-- An order that is not paid for. -/
def selectRequestOf (body : Json) : Option ConfirmRequest := do
  let context ← field "context" (trv11ContextOf time) body
  let selection ← field "message" (field "order" (orderSelectionOf numberText)) body
  return ⟨context, selection.items, selection.selected, selection.providerId, selection.tags, .null, []⟩

/-- A value that is as a schema says. -/
def conformingOf (schema : Schema) (value : Json) : Option {value : Json // schema value = true} :=
  if h : schema value = true then some ⟨value, h⟩ else none

/-- An object that is. -/
def conformingFieldsOf (schema : Schema) :
    Json → Option {fields : JsonObject // schema (.obj fields) = true}
  | .obj fields => if h : schema (.obj fields) = true then some ⟨fields, h⟩ else none
  | _ => none

/-- An order that is. -/
def paidRequestOf (body : Json) : Option PaidRequest := do
  let request ← selectRequestOf numberText time body
  let billing ← field "message" (field "order" (field "billing" (conformingOf Schemas.billing))) body
  let payments ← field "message" (field "order"
    (field "payments" (arrayOf (conformingFieldsOf Schemas.payment)))) body
  return {
    toConfirmRequest := { request with
      billing := billing.val
      payments := payments.map Subtype.val }
    billed := billing.property
    paid := by
      intro payment hpayment
      obtain ⟨fields, -, rfl⟩ := List.mem_map.mp hpayment
      exact fields.property }

/-- What a request asks for. -/
def workOf (action : TransitAction) (body : Json) : Option Work :=
  match action with
  | .search => (searchRequestOf time body).map .search
  | .select => (selectRequestOf numberText time body).map .select
  | .init => (paidRequestOf numberText time body).map .init
  | .confirm => (paidRequestOf numberText time body).map .confirm
  | .status => do
    return .status (← field "context" (trv11ContextOf time) body)
      (← field "message" (optionally "order_id" Json.str?) body)
      (← field "message" (optionally "ref_id" Json.str?) body)

end Readers

/-! ## What a schema accepts is read -/

section Guards

variable {numberText : ℚ → String} {time : String → Option ℤ} {dateTime : String → Bool}
variable {α : Type} {schema : Schema} {read : Json → Option α} {key : String} {keys : List String}
variable {entries : List (String × Schema)} {body : Json}

theorem guards_some : Guards schema (some : Json → Option Json) := ⟨fun _ => ⟨_, rfl⟩⟩

theorem guards_conformingOf : Guards schema (conformingOf schema) :=
  ⟨fun hv => ⟨⟨_, hv⟩, dif_pos hv⟩⟩

theorem guards_conformingFieldsOf :
    Guards (object keys entries) (conformingFieldsOf (object keys entries)) := by
  refine ⟨fun {value} hv => ?_⟩
  obtain ⟨fields, rfl⟩ := type_object_iff.mp (allOf_cons.mp hv).1
  exact ⟨⟨fields, hv⟩, dif_pos hv⟩

/-- An object described without `required`. -/
theorem guards_described {schemas : List Schema} (h : Guards (object [] entries) read)
    (hproperties : properties entries ∈ schemas) :
    Guards (allOf (type .object :: schemas)) read := by
  refine ⟨fun {value} hv => h.reads ?_⟩
  obtain ⟨htype, hothers⟩ := allOf_cons.mp hv
  obtain ⟨fields, rfl⟩ := type_object_iff.mp htype
  have hdescribed := List.all_eq_true.mp hothers _ hproperties
  simpa using hdescribed

theorem guards_jsNumberOf : Guards (type .integer) (jsNumberOf numberText) := by
  refine ⟨fun {value} hv => ?_⟩
  cases value with
  | num q => exact ⟨_, rfl⟩
  | _ => cases hv

theorem guards_selectedItemOf : Guards Schemas.selectedItem (selectedItemOf numberText) := by
  refine ⟨fun hv => ?_⟩
  have hid : Guards Schemas.selectedItem (field "id" Json.str?) :=
    guards_nonEmpty.field (by simp) (by simp)
  have hnumber : Guards (allOf [type .integer, minimum 1, maximum 6]) (jsNumberOf numberText) :=
    guards_jsNumberOf.head
  have hcount : Guards (Schemas.count [minimum 1, maximum 6])
      (field "count" (jsNumberOf numberText)) := hnumber.field (by simp) (by simp)
  have hselected : Guards
      (object ["selected"] [("selected", Schemas.count [minimum 1, maximum 6])])
      (field "selected" (field "count" (jsNumberOf numberText))) :=
    hcount.field (by simp) (by simp)
  have hquantity : Guards Schemas.selectedItem
      (field "quantity" (field "selected" (field "count" (jsNumberOf numberText)))) :=
    hselected.field (by simp) (by simp)
  obtain ⟨id, hid⟩ := hid.reads hv
  obtain ⟨count, hcount⟩ := hquantity.reads hv
  exact ⟨⟨id, count⟩, by rw [selectedItemOf, hid, hcount]; rfl⟩

/-- An array that is not empty is read as one. -/
theorem arrayOf_ne_nil {schemas : List Schema} {value : Json} {as : List α}
    (hv : allOf (type .array :: minItems 1 :: schemas) value = true)
    (hread : arrayOf read value = some as) : as ≠ [] := by
  obtain ⟨htype, hmin, -⟩ : _ ∧ _ ∧ _ := by simpa using hv
  obtain ⟨values, rfl⟩ := type_array_iff.mp htype
  rintro rfl
  have hnone : values = [] := by
    cases values with
    | nil => rfl
    | cons v values =>
      simp only [arrayOf, List.mapM_cons] at hread
      obtain ⟨a, -, hread⟩ := Option.bind_eq_some_iff.mp hread
      obtain ⟨as, -, hread⟩ := Option.bind_eq_some_iff.mp hread
      cases hread
  subst hnone
  simp at hmin

theorem guards_orderSelectionOf :
    Guards Documents.selectionOrder (orderSelectionOf numberText) := by
  refine ⟨fun {value} hv => ?_⟩
  have hlist : Guards (allOf [type .array, minItems 1, items Schemas.selectedItem])
      (arrayOf (selectedItemOf numberText)) := guards_selectedItemOf.arrayOf (by simp)
  obtain ⟨listed, hget⟩ := get_of_required hv (show "items" ∈ ["items", "provider"] by simp)
  have haccepted : allOf [type .array, minItems 1, items Schemas.selectedItem] listed = true :=
    accepts_of_get hv (by simp) hget
  obtain ⟨items, hitems⟩ := hlist.reads haccepted
  have hid : Guards (object ["id"] [("id", nonEmpty)]) (field "id" Json.str?) :=
    guards_nonEmpty.field (by simp) (by simp)
  have hprovider : Guards Documents.selectionOrder (field "provider" (field "id" Json.str?)) :=
    hid.field (by simp) (by simp)
  have htag : Guards Documents.tag (some : Json → Option Json) := guards_some
  have htagged : Guards (array Documents.tag) (arrayOf some) := htag.arrayOf (by simp)
  have htags : Guards Documents.selectionOrder (optionally "tags" (arrayOf some)) :=
    htagged.optionally (by simp)
  obtain ⟨providerId, hprovider⟩ := hprovider.reads hv
  obtain ⟨tags, htags⟩ := htags.reads hv
  have hfield : field "items" (arrayOf (selectedItemOf numberText)) value = some items := by
    rw [field, hget]
    exact hitems
  cases items with
  | nil => exact absurd rfl (arrayOf_ne_nil haccepted hitems)
  | cons item items =>
    refine ⟨⟨item :: items, List.cons_ne_nil _ _, providerId, tags⟩, ?_⟩
    rw [orderSelectionOf, hfield, hprovider, htags]
    rfl

/-- What every context of a request has. -/
theorem guards_trv11ContextOf {location action : Schema}
    (hkeys : ∀ key ∈ ["transaction_id", "bap_id", "bap_uri", "timestamp"], key ∈ keys) :
    Guards (object keys (Documents.contextFields dateTime location action))
      (trv11ContextOf time) := by
  refine ⟨fun hv => ?_⟩
  have hnamed (key : String)
      (hkey : (key, nonEmpty) ∈ Documents.contextFields dateTime location action)
      (hrequired : key ∈ ["transaction_id", "bap_id", "bap_uri", "timestamp"]) :
      Guards (object keys (Documents.contextFields dateTime location action))
        (field key Json.str?) := guards_nonEmpty.field (hkeys key hrequired) hkey
  have hoptional (key : String)
      (hkey : (key, nonEmpty) ∈ Documents.contextFields dateTime location action) :
      Guards (object keys (Documents.contextFields dateTime location action))
        (optionally key Json.str?) := guards_nonEmpty.optionally hkey
  have htime : Guards (Schemas.instant dateTime) Json.str? := guards_string.head
  have htimestamp : Guards (object keys (Documents.contextFields dateTime location action))
      (field "timestamp" Json.str?) :=
    htime.field (hkeys "timestamp" (by simp)) (by simp [Documents.contextFields])
  obtain ⟨timestamp, htimestamp⟩ := htimestamp.reads hv
  obtain ⟨transactionId, htransaction⟩ :=
    (hnamed "transaction_id" (by simp [Documents.contextFields]) (by simp)).reads hv
  obtain ⟨bapId, hbapId⟩ := (hnamed "bap_id" (by simp [Documents.contextFields]) (by simp)).reads hv
  obtain ⟨bapUri, hbapUri⟩ :=
    (hnamed "bap_uri" (by simp [Documents.contextFields]) (by simp)).reads hv
  obtain ⟨bppId, hbppId⟩ := (hoptional "bpp_id" (by simp [Documents.contextFields])).reads hv
  obtain ⟨bppUri, hbppUri⟩ := (hoptional "bpp_uri" (by simp [Documents.contextFields])).reads hv
  refine ⟨⟨transactionId, bapId, bapUri, bppId.getD "", bppUri.getD "", timestamp, time timestamp⟩, ?_⟩
  rw [trv11ContextOf, htimestamp, htransaction, hbapId, hbapUri, hbppId, hbppUri]
  rfl

theorem guards_context_of {action : String} :
    Guards (Documents.contextOf dateTime action) (trv11ContextOf time) :=
  (guards_trv11ContextOf (by simp [Documents.contextKeys])).head

theorem guards_searchContext :
    Guards (Documents.searchContext dateTime) (trv11ContextOf time) :=
  guards_trv11ContextOf (by simp)

theorem guards_coded : Guards (Schemas.coded nonEmpty) (field "code" Json.str?) :=
  guards_nonEmpty.field (by simp) (by simp)

theorem guards_searchStopOf : Guards (Documents.searchStop dateTime) searchStopOf := by
  refine ⟨fun hv => ?_⟩
  have hkind : Guards (enum ["START", "END"]) Json.str? := guards_enum
  have htype : Guards (Documents.searchStop dateTime) (field "type" Json.str?) :=
    hkind.field (by simp) (by simp)
  have hpoint : Guards (allOf [type .string, minLength 3]) Json.str? := guards_string.head
  have hdescribed {β : Type} {read : Json → Option β}
      (h : Guards (object [] [("gps", allOf [type .string, minLength 3]),
        ("descriptor", Schemas.coded nonEmpty)]) read) : Guards Documents.searchLocation read :=
    guards_described h (by simp)
  have hcode : Guards Documents.searchLocation
      (optionally "descriptor" (field "code" Json.str?)) :=
    hdescribed (guards_coded.optionally (by simp))
  have hgps : Guards Documents.searchLocation (optionally "gps" Json.str?) :=
    hdescribed (hpoint.optionally (by simp))
  have hcodeAt : Guards (Documents.searchStop dateTime)
      (field "location" (optionally "descriptor" (field "code" Json.str?))) :=
    hcode.field (by simp) (by simp)
  have hgpsAt : Guards (Documents.searchStop dateTime)
      (field "location" (optionally "gps" Json.str?)) := hgps.field (by simp) (by simp)
  obtain ⟨type, htype⟩ := htype.reads hv
  obtain ⟨code, hcode⟩ := hcodeAt.reads hv
  obtain ⟨gps, hgps⟩ := hgpsAt.reads hv
  exact ⟨⟨type, code, gps⟩, by rw [searchStopOf, htype, hcode, hgps]; rfl⟩

theorem guards_searchFulfillmentOf :
    Guards (Documents.searchFulfillment dateTime) searchFulfillmentOf := by
  refine ⟨fun hv => ?_⟩
  have hstop : Guards (Documents.searchStop dateTime) searchStopOf := guards_searchStopOf
  have hlist : Guards (allOf [type .array, minItems 2, items (Documents.searchStop dateTime)])
      (arrayOf searchStopOf) := hstop.arrayOf (by simp)
  have hstops : Guards (Documents.searchFulfillment dateTime)
      (field "stops" (arrayOf searchStopOf)) := hlist.field (by simp) (by simp)
  have hcategory : Guards (enum ["BUS", "METRO"]) Json.str? := guards_enum
  have hfield : Guards Documents.vehicle (field "category" Json.str?) :=
    hcategory.field (by simp) (by simp)
  have hvehicle : Guards (Documents.searchFulfillment dateTime)
      (optionally "vehicle" (field "category" Json.str?)) := hfield.optionally (by simp)
  obtain ⟨stops, hstops⟩ := hstops.reads hv
  obtain ⟨category, hcategory⟩ := hvehicle.reads hv
  exact ⟨⟨stops, category⟩, by rw [searchFulfillmentOf, hstops, hcategory]; rfl⟩

theorem guards_searchRequestOf :
    Guards (Documents.search dateTime) (searchRequestOf time) := by
  refine ⟨fun hv => ?_⟩
  have hintent {β : Type} {read : Json → Option β} (h : Guards (Documents.intent dateTime) read) :
      Guards (Documents.search dateTime) (field "message" (field "intent" read)) :=
    guards_message (h.field (by simp) (by simp))
  have hdescribed {β : Type} {read : Json → Option β}
      (h : Guards (object [] [("category", object ["descriptor"] [("descriptor",
        Schemas.coded nonEmpty)]), ("fulfillment", Documents.searchFulfillment dateTime)]) read) :
      Guards (Documents.intent dateTime) read := guards_described h (by simp)
  have hstops : Guards (Documents.searchFulfillment dateTime) searchFulfillmentOf :=
    guards_searchFulfillmentOf
  have hfulfillment : Guards (Documents.intent dateTime)
      (optionally "fulfillment" searchFulfillmentOf) := hdescribed (hstops.optionally (by simp))
  have hdescriptor : Guards
      (object ["descriptor"] [("descriptor", Schemas.coded nonEmpty)])
      (field "descriptor" (field "code" Json.str?)) := guards_coded.field (by simp) (by simp)
  have hcategory : Guards (Documents.intent dateTime)
      (optionally "category" (field "descriptor" (field "code" Json.str?))) :=
    hdescribed (hdescriptor.optionally (by simp))
  have hsearch : Guards (Documents.searchContext dateTime) (trv11ContextOf time) :=
    guards_searchContext
  obtain ⟨context, hcontext⟩ := (guards_context hsearch).reads hv
  obtain ⟨fulfillment, hfulfillment⟩ := (hintent hfulfillment).reads hv
  obtain ⟨category, hcategory⟩ := (hintent hcategory).reads hv
  exact ⟨⟨context, fulfillment, category⟩, by
    rw [searchRequestOf, hcontext, hfulfillment, hcategory]; rfl⟩

/-- An order whose selection a document describes. -/
theorem exists_selectRequestOf {order : Schema} {action : String}
    (horder : Guards order (orderSelectionOf numberText))
    (hv : Schemas.request (Documents.contextOf dateTime action)
      (object ["order"] [("order", order)]) body = true) :
    ∃ request, selectRequestOf numberText time body = some request := by
  have hselection : Guards (object ["order"] [("order", order)])
      (field "order" (orderSelectionOf numberText)) := horder.field (by simp) (by simp)
  obtain ⟨context, hcontext⟩ := (guards_context guards_context_of).reads hv
  obtain ⟨selection, hselection⟩ := (guards_message hselection).reads hv
  exact ⟨_, by rw [selectRequestOf, hcontext, hselection]; rfl⟩

/-- An order that comes with payments. -/
theorem exists_paidRequestOf {payment : Schema} {action : String}
    (hv : Schemas.request (Documents.contextOf dateTime action)
      (object ["order"] [("order", Documents.paidOrder payment)]) body = true) :
    ∃ request, paidRequestOf numberText time body = some request := by
  have hpaid {β : Type} {read : Json → Option β}
      (h : Guards (object ["billing", "payments"] [("billing", Schemas.billing),
        ("payments", allOf [type .array, minItems 1, items (allOf [Schemas.payment, payment])])])
        read) :
      Guards (object ["order"] [("order", Documents.paidOrder payment)]) (field "order" read) := by
    have horder : Guards (Documents.paidOrder payment) read := h.head.tail
    exact horder.field (by simp) (by simp)
  have hobject : Guards Schemas.payment (conformingFieldsOf Schemas.payment) :=
    guards_conformingFieldsOf
  have hpayment : Guards (allOf [Schemas.payment, payment]) (conformingFieldsOf Schemas.payment) :=
    hobject.head
  have hlist : Guards (allOf [type .array, minItems 1, items (allOf [Schemas.payment, payment])])
      (arrayOf (conformingFieldsOf Schemas.payment)) := hpayment.arrayOf (by simp)
  have hselection : Guards (Documents.paidOrder payment) (orderSelectionOf numberText) :=
    guards_orderSelectionOf.head
  have hbill : Guards Schemas.billing (conformingOf Schemas.billing) := guards_conformingOf
  obtain ⟨request, hrequest⟩ : ∃ request, selectRequestOf numberText time body = some request :=
    exists_selectRequestOf hselection hv
  have hbilled : Guards (object ["order"] [("order", Documents.paidOrder payment)])
      (field "order" (field "billing" (conformingOf Schemas.billing))) :=
    hpaid (hbill.field (by simp) (by simp))
  have hpayments : Guards (object ["order"] [("order", Documents.paidOrder payment)])
      (field "order" (field "payments" (arrayOf (conformingFieldsOf Schemas.payment)))) :=
    hpaid (hlist.field (by simp) (by simp))
  obtain ⟨billing, hbilling⟩ := (guards_message hbilled).reads hv
  obtain ⟨payments, hpayments⟩ := (guards_message hpayments).reads hv
  exact ⟨_, by rw [paidRequestOf, hrequest, hbilling, hpayments]; rfl⟩

/-- **Whatever the schema of an action accepts is read.** -/
theorem accepted_transit_reads (action : TransitAction) :
    Guards (action.requestSchema dateTime) (workOf numberText time action) := by
  refine ⟨fun {body} hv => ?_⟩
  cases action with
  | search =>
    have hsearch : Guards (Documents.search dateTime) (searchRequestOf time) :=
      guards_searchRequestOf
    obtain ⟨request, hrequest⟩ := hsearch.reads hv
    exact ⟨.search request, by rw [workOf, hrequest]; rfl⟩
  | select =>
    obtain ⟨request, hrequest⟩ := exists_selectRequestOf guards_orderSelectionOf hv
    exact ⟨.select request, by rw [workOf, hrequest]; rfl⟩
  | init =>
    obtain ⟨request, hrequest⟩ := exists_paidRequestOf hv
    exact ⟨.init request, by rw [workOf, hrequest]; rfl⟩
  | confirm =>
    obtain ⟨request, hrequest⟩ := exists_paidRequestOf hv
    exact ⟨.confirm request, by rw [workOf, hrequest]; rfl⟩
  | status =>
    have hread (key : String)
        (hkey : (key, nonEmpty) ∈ [("order_id", nonEmpty), ("ref_id", nonEmpty)]) :
        Guards (Documents.status dateTime) (field "message" (optionally key Json.str?)) :=
      guards_message (guards_nonEmpty.optionally hkey).head
    obtain ⟨context, hcontext⟩ := (guards_context guards_context_of).reads hv
    obtain ⟨orderId, horder⟩ := (hread "order_id" (by simp)).reads hv
    obtain ⟨refId, href⟩ := (hread "ref_id" (by simp)).reads hv
    exact ⟨.status context orderId refId, by rw [workOf, hcontext, horder, href]; rfl⟩

end Guards

end TransitBpp.Trv11
