import TransitBpp.TransitPublishing
import TransitBpp.TransitStanding

/-!
# What is called back fits its schema

A context that was accepted is `Returnable`: what an operator writes over it leaves a context its own
callback can have. `Served` says what work may come to, and `transitCallback_fits` that a callback of it
is accepted by the schema of its action. An order that `Outlives` the year 9999 is the one exception.
-/

namespace TransitBpp.Trv11

open Js JsonSchema

/-! ## Contexts -/

/-- The fields of a context that are sent back, and what a request's schema says of them. -/
def keptFields : List (String × Schema) :=
  [("domain", const "ONDC:TRV11"), ("location", Schemas.location), ("version", const "2.0.1"),
    ("bap_id", nonEmpty), ("bap_uri", nonEmpty), ("transaction_id", nonEmpty), ("message_id", nonEmpty)]

/-- A context that can be sent back. -/
def Returnable (fields : JsonObject) : Prop :=
  ∀ entry ∈ keptFields, ∃ value, (Json.obj fields).get? entry.1 = some value ∧ entry.2 value = true

section Contexts

variable {h : TransitHost} {c : TransitConfig} {operator : PassOperatorKey} {fields : JsonObject}
  {action : TransitAction} {body : Json} {x : TransitAccepted} {now since : ClockTime}
  {dateTime : String → Bool} {name : String}

theorem returnable_of_fields {keys : List String} {schema : Schema}
    (h : object keys (Documents.contextFields dateTime Schemas.location schema) (.obj fields) = true)
    (hkeys : ∀ entry ∈ keptFields, entry.1 ∈ keys) : Returnable fields := by
  intro entry hentry
  obtain ⟨value, hget⟩ := get_of_required h (hkeys entry hentry)
  refine ⟨value, hget, accepts_of_get h ?_ hget⟩
  simp only [keptFields, List.mem_cons, List.not_mem_nil, or_false] at hentry
  rcases hentry with rfl | rfl | rfl | rfl | rfl | rfl | rfl <;> simp [Documents.contextFields]

theorem acceptTransit_some (haccept : acceptTransit h action body = some x) :
    action.requestSchema h.dateTime body = true ∧ x.action = action ∧
      field "context" fieldsOf body = some x.context ∧
        workOf h.numberText h.time action body = some x.work := by
  unfold acceptTransit at haccept
  split at haccept
  · rename_i hfits
    obtain ⟨context, hcontext, haccept⟩ := Option.bind_eq_some_iff.mp haccept
    obtain ⟨work, hwork, haccept⟩ := Option.bind_eq_some_iff.mp haccept
    obtain rfl := Option.some.inj haccept
    exact ⟨hfits, rfl, hcontext, hwork⟩
  · cases haccept

/-- **The context of a request that was accepted can be sent back.** -/
theorem returnable_of_accept (haccept : acceptTransit h action body = some x) :
    Returnable x.context := by
  obtain ⟨hfits, -, hfields, -⟩ := acceptTransit_some haccept
  obtain ⟨context, hget, hcontext⟩ := Option.bind_eq_some_iff.mp hfields
  have hobj : context = .obj x.context := by
    cases context with
    | obj fields => rw [Option.some.inj hcontext]
    | _ => cases hcontext
  subst hobj
  have hmost (name : String) (hcontext : Documents.contextOf h.dateTime name (.obj x.context) = true) :
      Returnable x.context :=
    returnable_of_fields (allOf_cons.mp hcontext).1 (by simp [keptFields, Documents.contextKeys])
  cases action with
  | search =>
    have hcontext : Documents.searchContext h.dateTime (.obj x.context) = true :=
      accepts_of_get hfits (by simp) hget
    exact returnable_of_fields hcontext (by simp [keptFields])
  | select => exact hmost "select" (accepts_of_get hfits (by simp) hget)
  | init => exact hmost "init" (accepts_of_get hfits (by simp) hget)
  | confirm => exact hmost "confirm" (accepts_of_get hfits (by simp) hget)
  | status => exact hmost "status" (accepts_of_get hfits (by simp) hget)

/-- A field of a callback's context that the request's context has. -/
theorem get?_transitContext_ne {key : String}
    (hkey : key ∉ ["action", "bpp_id", "bpp_uri", "timestamp", "ttl"]) :
    (Json.obj (transitContext c operator fields name now)).get? key = (Json.obj fields).get? key := by
  simp only [List.mem_cons, List.not_mem_nil, or_false, not_or] at hkey
  obtain ⟨h₁, h₂, h₃, h₄, h₅⟩ := hkey
  simp only [transitContext, operatorFields, List.foldl_cons, List.foldl_nil]
  rw [Json.get?_set_ne h₅, Json.get?_set_ne h₄, Json.get?_set_ne h₃, Json.get?_set_ne h₂,
    Json.get?_set_ne h₁]

/-- A field that an operator writes. -/
theorem get?_transitContext {key : String} {value : Json}
    (hfield : (key, value) ∈ operatorFields c operator name now) :
    (Json.obj (transitContext c operator fields name now)).get? key = some value := by
  simp only [operatorFields, List.mem_cons, List.not_mem_nil, or_false, Prod.mk.injEq] at hfield
  simp only [transitContext, operatorFields, List.foldl_cons, List.foldl_nil]
  rcases hfield with ⟨rfl, rfl⟩ | ⟨rfl, rfl⟩ | ⟨rfl, rfl⟩ | ⟨rfl, rfl⟩ | ⟨rfl, rfl⟩ <;>
    simp [Json.get?_set_self, Json.get?_set_ne]

/-- **The context of a callback fits**, whatever the request's own said of the seller. -/
theorem transitContext_fits {location schema : Schema} (hnamed : (c.services operator).Named)
    (hreads : h.toValidator.ReadsInstants) (httl : startsWith "P" c.contextTtl = true)
    (hreturnable : Returnable fields)
    (hlocation : ∀ value, Schemas.location value = true → location value = true)
    (hschema : schema (.str name) = true) :
    object Documents.contextKeys (Documents.contextFields h.dateTime location schema)
      (.obj (transitContext c operator fields name now)) = true := by
  have hnow := now.utcYear
  obtain ⟨written, hwritten⟩ := hnow.writes
  have hread : h.dateTime ((toISOString now.val).getD "") = true := by
    rw [hwritten]
    exact hreads.utc hnow hwritten
  have hkept {key : String} {schema : Schema} (hentry : (key, schema) ∈ keptFields)
      (hkey : key ∉ ["action", "bpp_id", "bpp_uri", "timestamp", "ttl"]) :
      ∃ w, (Json.obj (transitContext c operator fields name now)).get? key = some w ∧
        schema w = true := by
    rw [get?_transitContext_ne hkey]
    exact hreturnable _ hentry
  have hown {key : String} {schema : Schema} (value : Json)
      (hfield : (key, value) ∈ operatorFields c operator name now) (hfits : schema value = true) :
      ∃ w, (Json.obj (transitContext c operator fields name now)).get? key = some w ∧
        schema w = true := ⟨value, get?_transitContext hfield, hfits⟩
  refine object_of_each (by simp [Documents.contextFields, Documents.contextKeys]) ?_
  intro entry hentry
  simp only [Documents.contextFields, List.mem_cons, List.not_mem_nil, or_false] at hentry
  -- in the order of the schema: seven are the request's own, five the operator's
  rcases hentry with rfl | rfl | rfl | rfl | rfl | rfl | rfl | rfl | rfl | rfl | rfl | rfl
  · exact hkept (by simp [keptFields]) (by decide)
  · obtain ⟨value, hget, hvalue⟩ := hreturnable ("location", Schemas.location) (by simp [keptFields])
    refine ⟨value, ?_, hlocation value hvalue⟩
    rwa [get?_transitContext_ne (show "location" ∉ _ by decide)]
  · exact hown (.str name) (by simp [operatorFields]) hschema
  · exact hkept (by simp [keptFields]) (by decide)
  · exact hkept (by simp [keptFields]) (by decide)
  · exact hkept (by simp [keptFields]) (by decide)
  · exact hown (.str (c.services operator).subscriberId) (by simp [operatorFields])
      (by simpa using hnamed.subscriberId)
  · exact hown (.str (c.services operator).subscriberUri) (by simp [operatorFields])
      (by simpa using hnamed.subscriberUri)
  · exact hkept (by simp [keptFields]) (by decide)
  · exact hkept (by simp [keptFields]) (by decide)
  · exact hown (.str ((toISOString now.val).getD "")) (by simp [operatorFields])
      (by simpa [Schemas.instant] using hread)
  · exact hown (.str c.contextTtl) (by simp [operatorFields]) (by simpa using httl)

end Contexts

/-! ## Payloads -/

section Payloads

variable {h : TransitHost} {c : TransitConfig} {operator : PassOperatorKey} {x : TransitAccepted}
  {now since : ClockTime} {dateTime : String → Bool} {name code text : String}
  {context message : JsonObject} {schema : Schema}

/-- A callback that refuses. -/
theorem transitRefusal_callback
    (hcontext : Documents.contextOf dateTime name (.obj context) = true) (hcode : code ≠ "")
    (htext : text ≠ "") :
    Documents.callback dateTime name schema (transitRefusal context code text) = true := by
  have herror : Documents.error (.obj [("code", .str code), ("message", .str text)]) = true := by
    simp [Documents.error, property, Json.get?, hcode, htext]
  simp [Documents.callback, anyOf, transitRefusal, property, required, Json.get?, hcontext, herror]

/-- A callback that carries an order fits where the order does. -/
theorem transitOrder_callback {order : JsonObject}
    (hcontext : Documents.contextOf dateTime name (.obj context) = true)
    (horder : schema (.obj order) = true) :
    Documents.callback dateTime name schema
      (.obj [("context", .obj context), ("message", .obj [("order", .obj order)])]) = true := by
  simp [Documents.callback, anyOf, property, required, Json.get?, hcontext, horder]

/-- A search for journeys that names no two stops. -/
def Unasked (h : TransitHost) (request : SearchRequest) : Prop :=
  isPassSearch request = false ∧ ∃ failure, searchQueryFromRequest h.numberText request = .error failure

/-- What work comes to, as far as its callback is concerned. -/
def Served (h : TransitHost) : Work → Except Failure TransitAnswer → Prop
  | .search _, .ok answer => ∃ published publishedAt, answer = .catalog published publishedAt ∧
      Documents.catalog published = true
  | .search request, .error _ => ¬ request.context.Instant ∨ Unasked h request
  | .select _, .ok answer => ∃ order, answer = .selected order ∧
      Documents.baseOrder (.obj order.fields) = true
  | .init _, .ok answer => ∃ order, answer = .initialised order ∧
      allOf [Documents.baseOrder, object ["billing", "payments"] []] (.obj order.fields) = true
  | .confirm _, .ok answer => ∃ order, answer = .confirmed order ∧
      Sayable h.toValidator (.ok order)
  | .status _ _ _, .ok answer => ∃ order, answer = .confirmed order ∧
      Sayable h.toValidator (.ok order)
  | _, .error failure => failure.Speaks

/-- An answer that is a confirmed order a ticket of which is good for too long. -/
def OutlivingAnswer (result : Except Failure TransitAnswer) : Prop :=
  ∃ order : ConfirmedOrder, result = .ok (.confirmed order) ∧ order.Outlives

/-- The action of a request and what it asks for are one. -/
def TransitAction.Asks : TransitAction → Work → Prop
  | search, .search _ => True
  | select, .select _ => True
  | init, .init _ => True
  | confirm, .confirm _ => True
  | status, .status _ _ _ => True
  | _, _ => False

theorem asks_of_accept {action : TransitAction} {body : Json}
    (haccept : acceptTransit h action body = some x) : x.action.Asks x.work := by
  obtain ⟨-, rfl, -, hwork⟩ := acceptTransit_some haccept
  cases haction : x.action <;> rw [haction] at hwork
  case search =>
    obtain ⟨request, -, hrequest⟩ := Option.map_eq_some_iff.mp hwork
    rw [← hrequest]
    trivial
  case select =>
    obtain ⟨request, -, hrequest⟩ := Option.map_eq_some_iff.mp hwork
    rw [← hrequest]
    trivial
  case init =>
    obtain ⟨request, -, hrequest⟩ := Option.map_eq_some_iff.mp hwork
    rw [← hrequest]
    trivial
  case confirm =>
    obtain ⟨request, -, hrequest⟩ := Option.map_eq_some_iff.mp hwork
    rw [← hrequest]
    trivial
  case status =>
    obtain ⟨context, -, hwork⟩ := Option.bind_eq_some_iff.mp hwork
    obtain ⟨orderId, -, hwork⟩ := Option.bind_eq_some_iff.mp hwork
    obtain ⟨refId, -, hwork⟩ := Option.bind_eq_some_iff.mp hwork
    rw [← Option.some.inj hwork]
    trivial

/-- What the host's functions answer, as far as it matters here. -/
structure TransitHost.Proper (h : TransitHost) : Prop where
  /-- the validator reads the instants that are written -/
  reads : h.toValidator.ReadsInstants
  /-- a number is printed as something -/
  prints : ∀ q, h.numberText q ≠ ""
  /-- the stop that is nearest is one of the route -/
  nearest : ∀ (route : List RouteStop) (gps : Gps), route ≠ [] →
    h.nearestStopIndex route gps < route.length

/-- What a deployment is to say. -/
structure TransitConfig.Proper (c : TransitConfig) : Prop where
  services : ∀ operator, (c.services operator).Named
  /-- the fixtures can be published -/
  fixtures : ∀ operator, ∀ offer ∈ (c.sources operator).offers, offer.Presentable
  /-- `CONTEXT_TTL` is a duration -/
  ttl : startsWith "P" c.contextTtl = true

/-- An answer to a request for an order is an order of its action. -/
theorem served_order {action : TransitAction} {work : Work} {answer : TransitAnswer}
    (hasks : action.Asks work) (hsearch : action ≠ .search) (hserved : Served h work (.ok answer))
    (hlasts : ¬ OutlivingAnswer (.ok answer)) :
    ∃ order : JsonObject, answer.message = [("order", .obj order)] ∧
      action.orderSchema h.dateTime (.obj order) = true := by
  have hconfirmed (hsaid : ∃ order, answer = .confirmed order ∧ Sayable h.toValidator (.ok order)) :
      ∃ order : JsonObject, answer.message = [("order", .obj order)] ∧
        Documents.confirmedOrder h.dateTime (.obj order) = true := by
    obtain ⟨order, rfl, hsayable⟩ := hsaid
    exact ⟨order.fields, rfl, hsayable.resolve_right fun hlong => hlasts ⟨order, rfl, hlong⟩⟩
  cases work with
  | search request =>
    cases action with
    | search => exact absurd rfl hsearch
    | _ => exact absurd hasks id
  | select request =>
    cases action with
    | select =>
      obtain ⟨order, rfl, horder⟩ := hserved
      exact ⟨order.fields, rfl, horder⟩
    | _ => exact absurd hasks id
  | init request =>
    cases action with
    | init =>
      obtain ⟨order, rfl, horder⟩ := hserved
      exact ⟨order.fields, rfl, horder⟩
    | _ => exact absurd hasks id
  | confirm request =>
    cases action with
    | confirm => exact hconfirmed hserved
    | _ => exact absurd hasks id
  | status context orderId refId =>
    cases action with
    | status => exact hconfirmed hserved
    | _ => exact absurd hasks id

theorem contextOf_fits (hhost : h.Proper) (hconfig : c.Proper) (hreturnable : Returnable x.context)
    (action : TransitAction) : Documents.contextOf h.dateTime action.onAction
      (.obj (transitContext c operator x.context action.onAction now)) = true := by
  have hname : action.onAction ≠ "" := by cases action <;> decide
  refine allOf_cons.mpr ⟨transitContext_fits (hconfig.services operator) hhost.reads hconfig.ttl
    hreturnable (fun _ => id) (by simpa using hname), ?_⟩
  have haction : (Json.obj (transitContext c operator x.context action.onAction now)).get? "action" =
      some (.str action.onAction) := get?_transitContext (by simp [operatorFields])
  simp [property_of_get haction]

/-- **What is answered fits the schema of its callback**, unless it is an order that is good for too
long or no answer at all. -/
theorem transitCallback_fits (hhost : h.Proper) (hconfig : c.Proper)
    (hreturnable : Returnable x.context) (hasks : x.action.Asks x.work)
    {result : Except Failure TransitAnswer} (hserved : Served h x.work result)
    (hlasts : ¬ OutlivingAnswer result) {callback : Json}
    (hcallback : transitCallback c operator x since result = some callback) :
    x.action.callbackSchema h.dateTime callback = true := by
  -- a search is answered with a catalogue or not at all, whatever else with an order or a refusal
  by_cases hsearch : x.action = .search
  · cases result with
    | error failure =>
      rw [transitCallback, if_pos hsearch] at hcallback
      cases hcallback
    | ok answer =>
      obtain rfl := Option.some.inj hcallback
      rcases hwork : x.work with request | request | request | request | ⟨context, orderId, refId⟩ <;>
        rw [hwork, hsearch] at hasks <;> try exact absurd hasks id
      rw [hwork] at hserved
      obtain ⟨published, publishedAt, rfl, hcatalog⟩ := hserved
      have hcontext := @transitContext_fits h c operator x.context publishedAt "on_search"
        (type .object) (const "on_search") (hconfig.services operator) hhost.reads hconfig.ttl
        hreturnable (fun value hvalue => (allOf_cons.mp hvalue).1) (by simp)
      rw [hsearch]
      simp [TransitAction.callbackSchema, Documents.onSearch, property, Json.get?, hcontext, hcatalog,
        TransitAnswer.message, TransitAnswer.stamp, TransitAction.onAction, TransitAction.wire]
  · rw [TransitAction.callbackSchema_eq hsearch]
    cases result with
    | error failure =>
      rw [transitCallback, if_neg hsearch] at hcallback
      obtain rfl := Option.some.inj hcallback
      have hspeaks : failure.Speaks := by
        rcases hwork : x.work with request | request | request | request | ⟨context, orderId, refId⟩ <;>
          rw [hwork] at hserved hasks
        · cases haction : x.action <;> rw [haction] at hasks hsearch
          · exact absurd rfl hsearch
          all_goals exact absurd hasks id
        all_goals exact hserved
      exact transitRefusal_callback (contextOf_fits hhost hconfig hreturnable x.action)
        hspeaks.shown.1 hspeaks.shown.2
    | ok answer =>
      obtain rfl := Option.some.inj hcallback
      obtain ⟨order, hmessage, horder⟩ := served_order hasks hsearch hserved hlasts
      rw [hmessage]
      exact transitOrder_callback (contextOf_fits hhost hconfig hreturnable x.action) horder

end Payloads

end TransitBpp.Trv11
