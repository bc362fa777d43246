import TransitBpp.Answering
import TransitBpp.InFlight
import TransitBpp.Publication

/-!
# No request goes unanswered

What the desk of the reserved category keeps to, in every run of requests, handlers, database
failures, deadlines and processes that break down: `requests_answered` says what is sent, and
`requests_served` that it is sent, in every fair run.
-/

namespace TransitBpp

open Interleave Js JsonSchema

/-! ## Contexts -/

/-- The year an instant falls in is written with four digits. -/
def UtcYear (ms : ℤ) : Prop :=
  0 ≤ (civilFromDays (ms / dayMilliseconds)).1 ∧ (civilFromDays (ms / dayMilliseconds)).1 ≤ 9999

instance (ms : ℤ) : Decidable (UtcYear ms) := inferInstanceAs (Decidable (_ ∧ _))

/-- The validator takes what this provider writes for `date-time`: the instants of four-digit
years, in UTC and at the offset of India. -/
structure Validator.ReadsInstants (v : Validator) : Prop where
  /-- `toISOString` -/
  utc : ∀ {ms : ℤ} {text : String}, UtcYear ms → toISOString ms = some text → v.dateTime text = true
  /-- `istIsoInstant` -/
  ist : ∀ {ms : ℤ} {text : String}, FourDigitYear ms → istIsoInstant ms = .ok text →
    v.dateTime text = true

/-- The parts of every context a deployment is to write itself. -/
structure HandlerConfig.Named (c : HandlerConfig) : Prop where
  /-- `BPP_ID` -/
  subscriberId : c.deployment.subscriberId ≠ ""
  /-- `BPP_URI` -/
  subscriberUri : c.deployment.subscriberUri ≠ ""
  /-- `CONTEXT_TTL` is a duration -/
  contextTtl : startsWith "P" c.contextTtl = true

/-- What a context has of its own that a callback sends back. -/
structure Addressed (fields : JsonObject) : Prop where
  /-- where the request is about -/
  location : ∃ v, (Json.obj fields).get? "location" = some v ∧ Schemas.location v = true
  /-- who asks, and in which transaction and message -/
  named : ∀ key ∈ ["bap_id", "bap_uri", "transaction_id", "message_id"],
    ∃ v, (Json.obj fields).get? key = some v ∧ nonEmpty v = true

variable {c : HandlerConfig} {v : Validator} {x : AcceptedRequest} {action : ReservedAction} {body : Json}
variable {fields : JsonObject} {now since : ℤ} {name : String}

theorem accept_some (h : accept v action body = some x) :
    action.requestSchema v.dateTime body = true ∧ x.action = action ∧
      field "context" fieldsOf body = some x.context ∧ actionOf action body = some x.work := by
  unfold accept at h
  split at h
  · rename_i haccepts
    obtain ⟨context, hcontext, h⟩ := Option.bind_eq_some_iff.mp h
    obtain ⟨work, hwork, h⟩ := Option.bind_eq_some_iff.mp h
    obtain rfl := Option.some.inj h
    exact ⟨haccepts, rfl, hcontext, hwork⟩
  · cases h

/-- Whatever the schema of an action accepts is accepted. -/
theorem accept_isSome (h : action.requestSchema v.dateTime body = true) :
    ∃ x, accept v action body = some x := by
  have hfields : Guards (action.requestSchema v.dateTime) (field "context" fieldsOf) := by
    cases action with
    | search => exact guards_context guards_object
    | select => exact guards_context guards_object.head
    | init => exact guards_context guards_object.head
    | confirm => exact guards_context guards_object.head
    | status => exact guards_context guards_object.head
    | cancel => exact guards_context guards_object.head
  obtain ⟨context, hcontext⟩ := hfields.reads h
  obtain ⟨work, hwork⟩ := accepted_reads.reads h
  exact ⟨⟨action, context, work⟩, by rw [accept, if_pos h, hcontext, hwork]; rfl⟩

/-- What is there in a context of either kind. -/
theorem addressed_of_fields {keys : List String} {action : Schema}
    (h : object keys (Schemas.contextFields v.dateTime action) (.obj fields) = true)
    (hkeys : ∀ key ∈ ["location", "bap_id", "bap_uri", "transaction_id", "message_id"], key ∈ keys) :
    Addressed fields := by
  constructor
  · obtain ⟨location, hget⟩ := get_of_required h (hkeys "location" (by simp))
    exact ⟨location, hget, accepts_of_get h (by simp [Schemas.contextFields]) hget⟩
  · intro key hkey
    obtain ⟨w, hget⟩ := get_of_required h (hkeys key (List.mem_cons_of_mem _ hkey))
    refine ⟨w, hget, accepts_of_get h ?_ hget⟩
    rcases List.mem_cons.mp hkey with rfl | hkey
    · simp [Schemas.contextFields]
    · simp only [List.mem_cons, List.not_mem_nil, or_false] at hkey
      rcases hkey with rfl | rfl | rfl <;> simp [Schemas.contextFields]

theorem addressed_of_accept (h : accept v action body = some x) : Addressed x.context := by
  obtain ⟨haccepts, -, hfields, -⟩ := accept_some h
  obtain ⟨context, hget, hcontext⟩ := Option.bind_eq_some_iff.mp hfields
  have hobj : context = .obj x.context := by
    cases context with
    | obj fields => rw [Option.some.inj hcontext]
    | _ => cases hcontext
  have hmost (a : String) (h : Schemas.contextOf v.dateTime a (.obj x.context) = true) :
      Addressed x.context :=
    addressed_of_fields (allOf_cons.mp h).1 (by simp)
  subst hobj
  cases action with
  | search =>
    have hcontext : Schemas.searchContext v.dateTime (.obj x.context) = true :=
      accepts_of_get haccepts (by simp) hget
    exact addressed_of_fields hcontext (by simp)
  | select => exact hmost "select" (accepts_of_get haccepts (by simp) hget)
  | init => exact hmost "init" (accepts_of_get haccepts (by simp) hget)
  | confirm => exact hmost "confirm" (accepts_of_get haccepts (by simp) hget)
  | status => exact hmost "status" (accepts_of_get haccepts (by simp) hget)
  | cancel => exact hmost "cancel" (accepts_of_get haccepts (by simp) hget)

/-- A field of a callback's context that the request's context has. -/
theorem get?_callbackContext_ne {key : String}
    (h : key ∉ ["action", "domain", "version", "bpp_id", "bpp_uri", "timestamp", "ttl"]) :
    (Json.obj (callbackContext c fields name now)).get? key = (Json.obj fields).get? key := by
  simp only [List.mem_cons, List.not_mem_nil, or_false, not_or] at h
  obtain ⟨h₁, h₂, h₃, h₄, h₅, h₆, h₇⟩ := h
  simp only [callbackContext, ownFields, List.foldl_cons, List.foldl_nil]
  rw [Json.get?_set_ne h₇, Json.get?_set_ne h₆, Json.get?_set_ne h₅, Json.get?_set_ne h₄,
    Json.get?_set_ne h₃, Json.get?_set_ne h₂, Json.get?_set_ne h₁]

/-- A field of a callback's context that this provider writes. -/
theorem get?_callbackContext {key : String} {value : Json}
    (h : (key, value) ∈ ownFields c name now) :
    (Json.obj (callbackContext c fields name now)).get? key = some value := by
  simp only [ownFields, List.mem_cons, List.not_mem_nil, or_false, Prod.mk.injEq] at h
  simp only [callbackContext, ownFields, List.foldl_cons, List.foldl_nil]
  rcases h with ⟨rfl, rfl⟩ | ⟨rfl, rfl⟩ | ⟨rfl, rfl⟩ | ⟨rfl, rfl⟩ | ⟨rfl, rfl⟩ | ⟨rfl, rfl⟩ | ⟨rfl, rfl⟩ <;>
    simp [Json.get?_set_self, Json.get?_set_ne]

theorem UtcYear.writes {ms : ℤ} (h : UtcYear ms) : ∃ text, toISOString ms = some text := by
  have hlow := civilFromDays_le_era (ms / dayMilliseconds)
  have hhigh := era_le_civilFromDays (ms / dayMilliseconds)
  rw [UtcYear] at h
  rw [dayMilliseconds] at h hlow hhigh
  exact ⟨_, if_pos (by omega)⟩

/-- **A callback's context fits**, whatever the request's own said of this provider. -/
theorem callbackContext_fits (hconfig : c.Named) (hreads : v.ReadsInstants)
    (haddressed : Addressed fields) (hnow : UtcYear now) (hname : name ≠ "") :
    Schemas.contextOf v.dateTime name (.obj (callbackContext c fields name now)) = true := by
  obtain ⟨written, hwritten⟩ := hnow.writes
  have hread : v.dateTime ((toISOString now).getD "") = true := by
    rw [hwritten]
    exact hreads.utc hnow hwritten
  have hkept {key : String} (hkey : key ∈ ["bap_id", "bap_uri", "transaction_id", "message_id"]) :
      ∃ w, (Json.obj (callbackContext c fields name now)).get? key = some w ∧ nonEmpty w = true := by
    rw [get?_callbackContext_ne (by
      simp only [List.mem_cons, List.not_mem_nil, or_false] at hkey
      rcases hkey with rfl | rfl | rfl | rfl <;> decide)]
    exact haddressed.named key hkey
  have hown {key : String} {schema : Schema} (value : Json)
      (hfield : (key, value) ∈ ownFields c name now) (hfits : schema value = true) :
      ∃ w, (Json.obj (callbackContext c fields name now)).get? key = some w ∧ schema w = true :=
    ⟨value, get?_callbackContext hfield, hfits⟩
  refine allOf_cons.mpr ⟨object_of_each (by simp [Schemas.contextFields]) ?_, ?_⟩
  · intro entry hentry
    simp only [Schemas.contextFields, List.mem_cons, List.not_mem_nil, or_false] at hentry
    rcases hentry with rfl | rfl | rfl | rfl | rfl | rfl | rfl | rfl | rfl | rfl | rfl | rfl
    · exact hown (.str "TRANSIT.LOCALHOST:INTERCITY") (by simp [ownFields]) (by simp)
    · rw [get?_callbackContext_ne (by decide)]
      exact haddressed.location
    · exact hown (.str name) (by simp [ownFields]) (by simpa using hname)
    · exact hown (.str "0.1.0") (by simp [ownFields]) (by simp)
    · exact hkept (by simp)
    · exact hkept (by simp)
    · exact hown (.str c.deployment.subscriberId) (by simp [ownFields])
        (by simpa using hconfig.subscriberId)
    · exact hown (.str c.deployment.subscriberUri) (by simp [ownFields])
        (by simpa using hconfig.subscriberUri)
    · exact hkept (by simp)
    · exact hkept (by simp)
    · exact hown (.str ((toISOString now).getD "")) (by simp [ownFields]) (by simpa using hread)
    · exact hown (.str c.contextTtl) (by simp [ownFields]) (by simpa using hconfig.contextTtl)
  · have haction : (Json.obj (callbackContext c fields name now)).get? "action" =
        some (.str name) := get?_callbackContext (by simp [ownFields])
    simp [property_of_get haction]

/-! ## Payloads -/

variable {context message : JsonObject} {code text key : String} {entries : List (String × Schema)}

/-- A callback that refuses. -/
theorem refusalPayload_callback
    (hcontext : Schemas.contextOf v.dateTime name (.obj context) = true)
    (hmessage : properties entries (.obj message) = true) (hcode : code ≠ "") (htext : text ≠ "") :
    Schemas.callback v.dateTime name key entries (refusalPayload context message code text) =
      true := by
  have herror : Schemas.error (.obj [("code", .str code), ("message", .str text)]) = true := by
    simp [Schemas.error, property, Json.get?, hcode, htext]
  simp [Schemas.callback, anyOf, refusalPayload, property, required, Json.get?, hcontext, hmessage,
    herror]

/-- A callback that carries its payload fits as its message does. -/
theorem payload_callback (hcontext : Schemas.contextOf v.dateTime name (.obj context) = true)
    (hkey : ∃ payload, (Json.obj message).get? key = some payload) :
    Schemas.callback v.dateTime name key entries
      (.obj [("context", .obj context), ("message", .obj message)]) = true ↔
        properties entries (.obj message) = true := by
  have hrequired : required [key] (.obj message) = true := required_obj.mpr (by simpa using hkey)
  have hmessage : (Json.obj [("context", .obj context), ("message", .obj message)]).get? "message" =
      some (.obj message) := rfl
  have hcontext' : (Json.obj [("context", .obj context), ("message", .obj message)]).get? "context" =
      some (.obj context) := rfl
  have herror : (Json.obj [("context", .obj context), ("message", .obj message)]).get? "error" =
      none := rfl
  simp [Schemas.callback, anyOf, property_of_get hmessage, property_of_get hcontext',
    property_of_none herror, hmessage, hcontext', hcontext, hrequired]

variable {result : Except Failure Answer} {callback : Json}

theorem onAction_ne (action : ReservedAction) : action.onAction ≠ "" := by
  cases action <;> decide

/-- **The last resort fits** the callback of any action. -/
theorem lastResort_fits (hconfig : c.Named) (hreads : v.ReadsInstants)
    (haddressed : Addressed x.context) (hnow : UtcYear now) :
    x.action.callbackSchema v.dateTime (lastResort c x now) = true := by
  rw [ReservedAction.callbackSchema_eq]
  refine refusalPayload_callback
    (callbackContext_fits hconfig hreads haddressed hnow (onAction_ne x.action)) ?_
    (by decide) (by simp [lastResortText])
  exact properties_iff.mpr fun entry _ => property_of_none rfl

/-- What is published fits its schema. -/
theorem resolveCallback_fits (h : resolveCallback c v x since now result = some callback) :
    x.action.callbackSchema v.dateTime callback = true := by
  simp only [resolveCallback] at h
  split at h
  · rename_i hfits
    exact Option.some.inj h ▸ hfits
  · split at h
    · rename_i hfits
      exact Option.some.inj h ▸ hfits
    · cases h

/-- Something can always be published. -/
theorem resolveCallback_isSome (hconfig : c.Named) (hreads : v.ReadsInstants)
    (haddressed : Addressed x.context) (hnow : UtcYear now) :
    ∃ callback, resolveCallback c v x since now result = some callback := by
  simp only [resolveCallback]
  split
  · exact ⟨_, rfl⟩
  · rw [if_pos (lastResort_fits hconfig hreads haddressed hnow)]
    exact ⟨_, rfl⟩

/-! ## Exchanges -/

/-- An exchange of this desk. -/
abbrev ReservedExchange : Type := Exchange ℤ Incoming Reply Post

/-- The desk with its pool. -/
abbrev ReservedOffice : Type :=
  Office Op Resp World Request (Except Failure Answer) ℕ ℤ Incoming Reply Post

/-- The clock stays in years of four digits. -/
def Timely (s : History) : Act? → Prop
  | .env (.tick ms) => UtcYear (s.world.clock + ms)
  | _ => True

/-- Everything that was sent for a request, once nothing more will be. -/
inductive Sent (c : HandlerConfig) (v : Validator) (pool : Pool) : ReservedExchange → Prop where
  /-- a refusal, as its schema does not accept it, or it has none: no handler ran for it -/
  | refused {body : Incoming} {since : ℤ} {message : String} {data : Option Json}
      (hnot : ∀ action, actionAt body = some action →
        action.requestSchema v.dateTime body.body = false) :
      Sent c v pool ⟨body, since, none, .closed, [⟨400, nack message data⟩], []⟩
  /-- what its own handler came to, on the open connection -/
  | answered {body : Incoming} {since now : ℤ} {a : AcceptedRequest} {i : ℕ}
      {result : Except Failure Answer} {callback : Json} (haccepted : acceptedAt v body = some a)
      (hsync : c.syncResponses = true)
      (htask : ∃ t, pool.tasks[i]? = some t ∧ t.req = ⟨body.process, a.work⟩)
      (hanswer : pool.answer i = some result)
      (hcallback : resolveCallback c v a since now result = some callback)
      (hfits : a.action.callbackSchema v.dateTime callback = true) :
      Sent c v pool ⟨body, since, some i, .closed, [⟨200, callback⟩], []⟩
  /-- that its handler took too long, on the open connection -/
  | timedOut {body : Incoming} {since now : ℤ} {a : AcceptedRequest} {i : ℕ}
      (haccepted : acceptedAt v body = some a) (hsync : c.syncResponses = true)
      (hdeadline : 0 < c.deadlineMs)
      (hfits : a.action.callbackSchema v.dateTime (answerTimedOut c a now).body = true) :
      Sent c v pool ⟨body, since, some i, .closed, [answerTimedOut c a now], []⟩
  /-- an acknowledgement, and what its own handler came to as a callback -/
  | posted {body : Incoming} {since now : ℤ} {a : AcceptedRequest} {i : ℕ}
      {result : Except Failure Answer} {callback : Json} (haccepted : acceptedAt v body = some a)
      (hsync : c.syncResponses = false)
      (htask : ∃ t, pool.tasks[i]? = some t ∧ t.req = ⟨body.process, a.work⟩)
      (hanswer : pool.answer i = some result)
      (hcallback : resolveCallback c v a since now result = some callback)
      (hfits : a.action.callbackSchema v.dateTime callback = true) :
      Sent c v pool ⟨body, since, some i, .closed, [⟨202, ack⟩],
        [⟨callbackUrlFor c.callbackUrl a.action.onAction, callback⟩]⟩

variable {pool : Pool} {o : ReservedOffice} {w₀ : World} {y : ReservedExchange} {m : Act?}

theorem accept_of_acceptedAt {body : Incoming} (h : acceptedAt v body = some x) :
    ∃ action, actionAt body = some action ∧ accept v action body.body = some x :=
  Option.bind_eq_some_iff.mp h

/-- What is taken in was accepted, and is worked on as it was read. -/
theorem arriveAt_taken {body : Incoming} {req : Request} (h : arriveAt v body = .taken req) :
    ∃ a, acceptedAt v body = some a ∧ req = ⟨body.process, a.work⟩ := by
  unfold arriveAt at h
  split at h
  · cases h
  · split at h
    · split at h <;> cases h
    · rename_i action haction
      split at h
      · cases h
      · rename_i a haccept
        exact ⟨a, Option.bind_eq_some_iff.mpr ⟨action, haction, haccept⟩,
          (Arrival.taken.inj h).symm⟩

/-- What is refused is nothing its schema accepts, and is told so with a 400. -/
theorem arriveAt_refused {body : Incoming} {reply : Reply} (h : arriveAt v body = .refused reply) :
    (∀ action, actionAt body = some action →
      action.requestSchema v.dateTime body.body = false) ∧
    ∃ message data, reply = ⟨400, nack message data⟩ := by
  unfold arriveAt at h
  split at h
  · cases h
  · split at h
    · rename_i haction
      split at h
      · cases h
      · obtain rfl := Arrival.refused.inj h
        exact ⟨by simp [haction], _, _, rfl⟩
    · rename_i action haction
      split at h
      · rename_i haccept
        obtain rfl := Arrival.refused.inj h
        refine ⟨fun action' haction' => ?_, _, _, rfl⟩
        obtain rfl := Option.some.inj (haction.symm.trans haction')
        refine Bool.eq_false_iff.mpr fun hfits => ?_
        obtain ⟨x, hx⟩ := accept_isSome hfits
        rw [hx] at haccept
        cases haccept
      · cases h

/-- The clock is in a year of four digits at every moment of a run that keeps it there. -/
theorem clock_timely (hclock : UtcYear w₀.clock)
    (h : Reach (provider c.deployment) Timely ⟨⟨w₀, []⟩, []⟩ pool) :
    UtcYear pool.hist.world.clock := by
  induction h with
  | refl => exact hclock
  | step _ hallows hmove ih =>
    cases hmove with
    | start req => exact ih
    | perform _ hdoes =>
      obtain ⟨o, w, hexec, rfl⟩ := hdoes
      rw [(World.exec_clock hexec).1]
      exact ih
    | @env e w henv =>
      cases e with
      | tick ms =>
        obtain rfl := Option.some.inj henv
        exact hallows
      | publish source =>
        obtain rfl := Option.some.inj henv
        exact ih

/-- That a request took too long fits as the last resort does. -/
theorem answerTimedOut_fits (hconfig : c.Named) (hreads : v.ReadsInstants)
    (haddressed : Addressed x.context) (hnow : UtcYear now) :
    x.action.callbackSchema v.dateTime (answerTimedOut c x now).body = true := by
  rw [ReservedAction.callbackSchema_eq]
  refine refusalPayload_callback
    (callbackContext_fits hconfig hreads haddressed hnow (onAction_ne x.action)) ?_
    (by decide) (by simp [ToString.toString])
  exact properties_iff.mpr fun entry _ => property_of_none rfl

theorem reservedDesk_manner {body : Incoming} (h : acceptedAt v body = some x) :
    (reservedDesk c v).manner body = answerManner c v x := by
  simp only [reservedDesk, h]

/-- Whatever task an exchange is in the hands of works on what was accepted. -/
theorem inHand_accepted {V : ℤ → Prop} {body : Incoming} {since : ℤ} {i : ℕ}
    (h : InHand (reservedDesk c v) V pool body since i) :
    ∃ a, acceptedAt v body = some a ∧ Addressed a.context ∧
      ∃ t, pool.tasks[i]? = some t ∧ t.req = ⟨body.process, a.work⟩ := by
  obtain ⟨t, ht, harrive⟩ := h.task
  obtain ⟨a, haccepted, hreq⟩ := arriveAt_taken harrive
  obtain ⟨action, -, haccept⟩ := accept_of_acceptedAt haccepted
  exact ⟨a, haccepted, addressed_of_accept haccept, t, ht, hreq⟩

/-- Nothing else is ever sent. -/
theorem sent_of_closed (hconfig : c.Named) (hreads : v.ReadsInstants)
    (hfits : y.Fits (reservedDesk c v) UtcYear pool) (hclosed : y.phase = .closed) :
    Sent c v pool y := by
  cases hfits with
  | @refused body since reply _ harrive =>
    obtain ⟨hnot, message, data, rfl⟩ := arriveAt_refused harrive
    exact .refused hnot
  | acknowledged _ _ => cases hclosed
  | held _ _ _ _ _ => cases hclosed
  | waiting _ _ => cases hclosed
  | posted hin hmanner hnow hanswer hresolve =>
    obtain ⟨a, haccepted, -, htask⟩ := inHand_accepted hin
    rw [reservedDesk_manner haccepted, answerManner] at hmanner
    split at hmanner
    · cases hmanner
    · rename_i hsync
      obtain ⟨rfl, rfl⟩ := Manner.acknowledge.inj hmanner
      obtain ⟨callback, hcallback, rfl⟩ := Option.map_eq_some_iff.mp hresolve
      exact .posted haccepted (by simpa using hsync) htask hanswer hcallback
        (resolveCallback_fits hcallback)
  | @dropped body since now i ack resolve result hin hmanner hnow hanswer hresolve =>
    obtain ⟨a, haccepted, haddressed, -⟩ := inHand_accepted hin
    rw [reservedDesk_manner haccepted, answerManner] at hmanner
    split at hmanner
    · cases hmanner
    · obtain ⟨rfl, rfl⟩ := Manner.acknowledge.inj hmanner
      obtain ⟨callback, hcallback⟩ : ∃ callback,
          resolveCallback c v a since now result = some callback :=
        resolveCallback_isSome hconfig hreads haddressed hnow
      simp only [hcallback, Option.map_some, reduceCtorEq] at hresolve
  | @answered body since now i answer giveUp result hin hmanner hnow hanswer =>
    obtain ⟨a, haccepted, haddressed, htask⟩ := inHand_accepted hin
    rw [reservedDesk_manner haccepted, answerManner] at hmanner
    split at hmanner
    · rename_i hsync
      obtain ⟨rfl, -⟩ := Manner.wait.inj hmanner
      obtain ⟨callback, hcallback⟩ : ∃ callback,
          resolveCallback c v a since now result = some callback :=
        resolveCallback_isSome hconfig hreads haddressed hnow
      simp only [hcallback]
      exact .answered haccepted hsync htask hanswer hcallback (resolveCallback_fits hcallback)
    · cases hmanner
  | givenUp hin hmanner hnow =>
    obtain ⟨a, haccepted, haddressed, htask⟩ := inHand_accepted hin
    rw [reservedDesk_manner haccepted, answerManner] at hmanner
    split at hmanner
    · rename_i hsync
      obtain ⟨-, hgiveUp⟩ := Manner.wait.inj hmanner
      split at hgiveUp
      · rename_i hdeadline
        obtain rfl := Option.some.inj hgiveUp
        exact .timedOut haccepted hsync hdeadline
          (answerTimedOut_fits hconfig hreads haddressed hnow)
      · cases hgiveUp
    · cases hmanner

/-- The states the exchanges of a run are in. -/
theorem exchange_fits (hclock : UtcYear w₀.clock)
    (h : OfficeReach (provider c.deployment) (reservedDesk c v) World.clock Timely w₀ o)
    (hy : y ∈ o.exchanges) : y.Fits (reservedDesk c v) UtcYear o.pool :=
  h.fits (fun _ hpool => clock_timely hclock hpool) y hy

/-- **Every accepted request is answered, once, with a payload its schema allows.** -/
theorem requests_answered (hconfig : c.Named) (hreads : v.ReadsInstants)
    (hclock : UtcYear w₀.clock)
    (h : OfficeReach (provider c.deployment) (reservedDesk c v) World.clock Timely w₀ o)
    (hy : y ∈ o.exchanges) (hclosed : y.phase = .closed) : Sent c v o.pool y :=
  sent_of_closed hconfig hreads (exchange_fits hclock h hy) hclosed

variable {offices : ℕ → ReservedOffice} {site n j : ℕ}

/-- **Every request is served in the end**: whatever comes to a process that serves its requests
fairly is answered, in every run that never ends. -/
theorem requests_served (hconfig : c.Named) (hreads : v.ReadsInstants) (hfresh : w₀.Fresh)
    (hclock : UtcYear w₀.clock)
    (h : EndlessOffice (provider c.deployment) (reservedDesk c v) World.clock Timely offices)
    (h₀ : OfficeReach (provider c.deployment) (reservedDesk c v) World.clock Timely w₀ (offices 0))
    (hserved : ServedFairly c.deployment (fun n => (offices n).pool) site)
    (hturns : ∀ n j y, (offices n).exchanges[j]? = some y → y.body.process = site →
      FairTurns (reservedDesk c v) World.clock offices j)
    (hy : (offices n).exchanges[j]? = some y) (hsite : y.body.process = site) :
    ∃ m, n ≤ m ∧ ∃ z, (offices m).exchanges[j]? = some z ∧ z.body = y.body ∧
      Sent c v (offices m).pool z := by
  have hfits := exchange_fits hclock (h.reach (n := n) h₀) (List.mem_of_getElem? hy)
  have hanswers : ∀ i, y.task = some i → ∃ m, n ≤ m ∧ ∃ a, (offices m).pool.answer i = some a := by
    intro i htask
    obtain ⟨a, -, -, t, ht, hreq⟩ := inHand_accepted (hfits.inHand htask)
    have hprocess : t.req.process = site := by rw [hreq, ← hsite]
    exact request_returns hfresh h.pools h₀.pool hserved ht hprocess
  obtain ⟨m, hm, z, hz, hbody, hclosed⟩ := h.closes (hturns n j y hy hsite) hy hfits hanswers
  exact ⟨m, hm, z, hz, hbody, sent_of_closed hconfig hreads
    (exchange_fits hclock (h.reach h₀) (List.mem_of_getElem? hz)) hclosed⟩

/-! ## A specimen exchange -/

instance (s : History) : (m : Act?) → Decidable (Timely s m)
  | .env (.tick ms) => inferInstanceAs (Decidable (UtcYear (s.world.clock + ms)))
  | .env (.publish _) => isTrue trivial
  | .start _ => isTrue trivial
  | .perform _ _ _ => isTrue trivial

/-- The two ways this provider writes an instant. -/
def writesInstant (text : String) : Bool :=
  (readInstant text).isSome ||
    decide (text.toList.drop 23 = ['Z']) && (readInstant (slice text 23 ++ "+05:30")).isSome

/-- A validator that knows those two. -/
def specimenValidator : Validator := ⟨writesInstant, fun _ _ => .arr [], fun q => toString q.num⟩

theorem specimenValidator_reads : specimenValidator.ReadsInstants := by
  constructor
  · intro ms text hyear htext
    have hshift : ms - indiaOffsetMilliseconds + indiaOffsetMilliseconds = ms := by omega
    have hist : istIsoInstant (ms - indiaOffsetMilliseconds) = .ok (slice text 23 ++ "+05:30") := by
      rw [istIsoInstant, hshift, isoString, htext]
      rfl
    have hread : readInstant (slice text 23 ++ "+05:30") = some (ms - indiaOffsetMilliseconds) := by
      rw [readInstant_iff hist, FourDigitYear, istYear, hshift]
      exact hyear
    have hday : 0 ≤ ms % dayMilliseconds ∧ ms % dayMilliseconds < dayMilliseconds := by
      rw [dayMilliseconds]
      omega
    obtain ⟨hmonth, hdigits⟩ := civilDay_digits (civilDay_civilFromDays (ms / dayMilliseconds))
    have hdate := length_dateText hyear hmonth hdigits
    obtain ⟨h, h', m, m', s, s', f, f', f'', hclock, -⟩ := timeText_eq hday
    have hrest : text.toList.drop 23 = ['Z'] := by
      rw [toList_of_toISOString htext hyear, ← List.append_assoc, List.drop_left']
      rw [List.length_append, hdate, hclock]
      rfl
    simp [specimenValidator, writesInstant, hrest, hread]
  · intro ms text hyear htext
    have hread := (readInstant_iff htext).mpr hyear
    simp [specimenValidator, writesInstant, hread]

/-- A deployment that acknowledges, and posts its answers. -/
def specimenConfig : HandlerConfig :=
  ⟨specimenDeployment, "PT30S", ⟨"https://bap", "/callback", ""⟩, false, none⟩

theorem specimenConfig_named : specimenConfig.Named := ⟨by decide, by decide, by decide⟩

/-- A status request about an order nobody made. -/
def specimenInquiry : Incoming where
  process := 0
  path := some .status
  body := .obj [
    ("context", .obj [("domain", .str "TRANSIT.LOCALHOST:INTERCITY"),
      ("location", .obj [("country", .obj [("code", .str "IND")]),
        ("city", .obj [("code", .str "std:080")])]),
      ("action", .str "status"), ("version", .str "0.1.0"), ("bap_id", .str "bap"),
      ("bap_uri", .str "https://bap"), ("bpp_id", .str "bpp"), ("bpp_uri", .str "https://bpp"),
      ("transaction_id", .str "T1"), ("message_id", .str "M1"),
      ("timestamp", .str "2026-09-08T10:00:00.000Z"), ("ttl", .str "PT30S")]),
    ("message", .obj [("order_id", .str "SPECIMEN-1")])]

/-- The desk before its first request. -/
def specimenOffice : ReservedOffice := ⟨specimenStart, [], []⟩

/-- It arrives, its handler finds no such order, and that is posted. -/
def specimenErrands : List (Errand Incoming Choice Happening) :=
  [.arrive specimenInquiry, .run 0 ⟨"", none⟩, .turn 0 .resolve, .turn 0 .post]

/-- That day at the desk. -/
def specimenDay : ℕ → ReservedOffice :=
  specimenOffice.course (provider specimenConfig.deployment)
    (reservedDesk specimenConfig specimenValidator) World.clock (fun s m => decide (Timely s m))
    specimenErrands

theorem specimenDay_endless :
    EndlessOffice (provider specimenConfig.deployment)
      (reservedDesk specimenConfig specimenValidator) World.clock Timely specimenDay :=
  Office.course_endless.mono fun _ _ => of_decide_eq_true

theorem specimenDay_starts :
    OfficeReach (provider specimenConfig.deployment)
      (reservedDesk specimenConfig specimenValidator) World.clock Timely
      (World.initial specimenClock specimenSource) (specimenDay 0) := .refl

theorem requests_answered_specimen : ∃ (o : ReservedOffice) (y : ReservedExchange),
    y ∈ o.exchanges ∧ y.phase = .closed ∧ Sent specimenConfig specimenValidator o.pool y := by
  have hrun : ((specimenDay 4).exchanges.head?.map fun y => y.phase.isClosed) = some true := by
    decide +kernel
  obtain ⟨y, hy, hclosed⟩ := Option.map_eq_some_iff.mp hrun
  have hmem : y ∈ (specimenDay 4).exchanges := List.mem_of_mem_head? hy
  exact ⟨specimenDay 4, y, hmem, Phase.isClosed_iff.mp hclosed,
    requests_answered specimenConfig_named specimenValidator_reads (by decide +kernel)
      (specimenDay_endless.reach specimenDay_starts) hmem (Phase.isClosed_iff.mp hclosed)⟩

theorem requests_served_specimen : ∃ m y, 1 ≤ m ∧ (specimenDay m).exchanges[0]? = some y ∧
    Sent specimenConfig specimenValidator (specimenDay m).pool y := by
  have hends : (∀ i ∈ List.range (specimenDay 4).pool.tasks.length,
      ((specimenDay 4).pool.answer i).isSome = true) ∧
      ∀ x ∈ (specimenDay 4).exchanges, x.phase.isClosed = true := by
    decide +kernel
  have harrived : ((specimenDay 1).exchanges[0]?.map fun y => y.body.process) = some 0 := by
    decide +kernel
  obtain ⟨y, hy, hsite⟩ := Option.map_eq_some_iff.mp harrived
  obtain ⟨m, hm, z, hz, -, hsent⟩ := requests_served specimenConfig_named specimenValidator_reads
    ⟨rfl, fun _ => rfl⟩ (by decide +kernel) specimenDay_endless specimenDay_starts
    (fun _ i _ _ _ => Office.course_fair hends.1 i)
    (fun _ j _ _ _ => Office.course_fairTurns hends.2 j) hy hsite
  exact ⟨m, z, hm, hz, hsent⟩

end TransitBpp
