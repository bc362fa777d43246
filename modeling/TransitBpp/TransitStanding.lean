import TransitBpp.TransitTickets

/-!
# What is kept can be published

Offers are checked before they are cached, orders are made of them, and confirms come to orders or say
why not. `Standing` says it of everything the services keep, and every move keeps it so, in whatever
order searches, confirms and the encoder come.
-/

namespace TransitBpp.Trv11

open Js JsonSchema

/-! ## Journey sources -/

section Sources

variable {numberText : ℚ → String} {upperCase : String → String}
  {nearestStopIndex : List RouteStop → Gps → ℤ} {source : JourneySource} {fetched : Option Json}
  {query : SearchQuery}

theorem field_some {α : Type} {key : String} {read : Json → Option α} {value : Json} {a : α}
    (h : field key read value = some a) : ∃ v, value.get? key = some v ∧ read v = some a :=
  Option.bind_eq_some_iff.mp h

theorem forall₂_of_mapM {α β : Type} {read : α → Option β} {as : List α} :
    ∀ {bs : List β}, as.mapM read = some bs → List.Forall₂ (fun a b => read a = some b) as bs := by
  induction as with
  | nil =>
    intro bs h
    obtain rfl := Option.some.inj h
    exact .nil
  | cons a as ih =>
    intro bs h
    rw [List.mapM_cons] at h
    obtain ⟨b, hb, h⟩ := Option.bind_eq_some_iff.mp h
    obtain ⟨rest, hrest, h⟩ := Option.bind_eq_some_iff.mp h
    obtain rfl := Option.some.inj h
    exact .cons hb (ih hrest)

/-- What an array is read as was read of its elements. -/
theorem exists_of_mem_arrayOf {α : Type} {read : Json → Option α} {value : Json} {as : List α} {a : α}
    (h : arrayOf read value = some as) (ha : a ∈ as) :
    ∃ values v, value = .arr values ∧ v ∈ values ∧ read v = some a := by
  cases value with
  | arr values =>
    have hall := forall₂_of_mapM h
    obtain ⟨v, hv, hread⟩ := exists_of_mem_forall₂ hall ha
    exact ⟨values, v, rfl, hv, hread⟩
  | _ => cases h

/-- And there are as many. -/
theorem length_of_arrayOf {α : Type} {read : Json → Option α} {values : List Json} {as : List α}
    (h : arrayOf read (.arr values) = some as) : as.length = values.length :=
  (forall₂_of_mapM h).length_eq.symm

/-- A stop that the schema of a source accepts is named, and has coordinates. -/
theorem routeStopOf_named (hprints : ∀ q, numberText q ≠ "") {value : Json} {stop : RouteStop}
    (hvalue : Documents.routeStop value = true) (h : routeStopOf numberText value = some stop) :
    stop.name ≠ "" ∧ stop.lat ≠ "" := by
  obtain ⟨code, -, h⟩ := Option.bind_eq_some_iff.mp h
  obtain ⟨name, hname, h⟩ := Option.bind_eq_some_iff.mp h
  obtain ⟨nameLocal, -, h⟩ := Option.bind_eq_some_iff.mp h
  obtain ⟨lat, hlat, h⟩ := Option.bind_eq_some_iff.mp h
  obtain ⟨lon, -, h⟩ := Option.bind_eq_some_iff.mp h
  obtain ⟨interchange, -, h⟩ := Option.bind_eq_some_iff.mp h
  obtain ⟨hint, -, h⟩ := Option.bind_eq_some_iff.mp h
  obtain rfl := Option.some.inj h
  obtain ⟨v, hget, hread⟩ := field_some hname
  obtain ⟨w, -, hprinted⟩ := field_some hlat
  have hnonEmpty : nonEmpty v = true := accepts_of_get (allOf_cons.mp hvalue).1 (by simp) hget
  obtain ⟨text, rfl, hne⟩ := nonEmpty_iff.mp hnonEmpty
  obtain rfl := Option.some.inj hread
  refine ⟨hne, ?_⟩
  cases w with
  | num q =>
    obtain rfl := Option.some.inj hprinted
    exact hprints q
  | _ => cases hprinted

/-- A fare that the schema of a source accepts is one that can be counted with. -/
theorem safe_of_integerOf {value : Json} {n : ℤ}
    (hvalue : allOf [type .integer, minimum 0, maximum maxSafe] value = true)
    (h : integerOf value = some n) : isSafe n = true ∧ 0 ≤ n := by
  cases value with
  | num q =>
    simp only [integerOf] at h
    split at h
    · rename_i hden
      obtain rfl := Option.some.inj h
      have hq : q = q.num := ((Rat.den_eq_one_iff q).mp hden).symm
      obtain ⟨-, hlow, hhigh⟩ : _ ∧ _ ∧ _ := by simpa using hvalue
      rw [hq] at hlow hhigh
      have hlow : 0 ≤ q.num := by exact_mod_cast hlow
      have hhigh : q.num ≤ maxSafe := by exact_mod_cast hhigh
      refine ⟨?_, hlow⟩
      rw [isSafe, Bool.and_eq_true, decide_eq_true_eq, decide_eq_true_eq]
      rw [maxSafe] at *
      omega
    · cases h
  | _ => cases h

/-- An offer that the schema of a source accepts can be published. -/
theorem transitOfferOf_presentable (hprints : ∀ q, numberText q ≠ "") {value : Json}
    {offer : TransitOffer} (hvalue : Documents.transitOffer value = true)
    (h : transitOfferOf numberText value = some offer) : offer.Presentable := by
  obtain ⟨offerId, hofferId, h⟩ := Option.bind_eq_some_iff.mp h
  obtain ⟨productName, hproductName, h⟩ := Option.bind_eq_some_iff.mp h
  obtain ⟨farePaise, hfare, h⟩ := Option.bind_eq_some_iff.mp h
  obtain ⟨tier, -, h⟩ := Option.bind_eq_some_iff.mp h
  obtain ⟨validity, -, h⟩ := Option.bind_eq_some_iff.mp h
  obtain ⟨route, hroute, h⟩ := Option.bind_eq_some_iff.mp h
  obtain ⟨routeId, -, h⟩ := Option.bind_eq_some_iff.mp h
  obtain ⟨routeName, -, h⟩ := Option.bind_eq_some_iff.mp h
  obtain ⟨routeColor, -, h⟩ := Option.bind_eq_some_iff.mp h
  obtain rfl := Option.some.inj h
  have haccepted := (allOf_cons.mp hvalue).1
  have hnamed {key text : String} (hread : field key Json.str? value = some text)
      (hentry : ∀ v, value.get? key = some v → nonEmpty v = true) : text ≠ "" := by
    obtain ⟨v, hget, hread⟩ := field_some hread
    obtain ⟨written, rfl, hne⟩ := nonEmpty_iff.mp (hentry v hget)
    obtain rfl := Option.some.inj hread
    exact hne
  obtain ⟨paid, hpaid, hinteger⟩ := field_some hfare
  obtain ⟨way, hway, hstops⟩ := field_some hroute
  have hpaise : allOf [type .integer, minimum 0, maximum maxSafe] paid = true :=
    accepts_of_get haccepted (by simp) hpaid
  have hlist : allOf [type .array, minItems 2, items Documents.routeStop] way = true :=
    accepts_of_get haccepted (by simp) hway
  obtain ⟨harray, hmin, hitems, -⟩ : _ ∧ _ ∧ _ ∧ True := by simpa using hlist
  obtain ⟨values, rfl⟩ := type_array_iff.mp harray
  refine ⟨hnamed hofferId fun v => accepts_of_get haccepted (by simp),
    hnamed hproductName fun v => accepts_of_get haccepted (by simp), ?_, ?_, ?_⟩
  · rw [length_of_arrayOf hstops]
    exact minItems_arr.mp hmin
  · intro stop hstop
    obtain ⟨values', v, hsame, hv, hread⟩ := exists_of_mem_arrayOf hstops hstop
    obtain rfl := Json.arr.inj hsame
    exact routeStopOf_named hprints (items_arr.mp hitems v hv) hread
  · exact safe_of_integerOf hpaise hinteger

/-- What a server answers for a source can be published, if it is used at all. -/
theorem acceptedOffers_presentable (hprints : ∀ q, numberText q ≠ "") {body : Json}
    {offers : List TransitOffer} (h : acceptedOffers numberText body = some offers) :
    ∀ offer ∈ offers, offer.Presentable := by
  rw [acceptedOffers] at h
  split at h
  · rename_i haccepted
    obtain ⟨read, hread, h⟩ := Option.bind_eq_some_iff.mp h
    split at h
    · obtain rfl := Option.some.inj h
      intro offer hoffer
      obtain ⟨list, hget, hlist⟩ := field_some hread
      obtain ⟨values, v, rfl, hv, hmade⟩ := exists_of_mem_arrayOf hlist hoffer
      have harray : array Documents.transitOffer (.arr values) = true :=
        accepts_of_get (allOf_cons.mp haccepted).1 (by simp) hget
      exact transitOfferOf_presentable hprints (array_arr.mp harray v hv) hmade
    · cases h
  · cases h

/-- A part of an offer can be published as it can. -/
theorem sliceOffer_presentable {offer part : TransitOffer} {fromIndex toIndex : ℤ}
    (hoffer : offer.Presentable) (hend : toIndex < offer.route.length)
    (h : sliceOffer offer fromIndex toIndex = some part) : part.Presentable := by
  rw [sliceOffer] at h
  split at h
  · cases h
  · rename_i hbounds
    obtain rfl := Option.some.inj h
    refine ⟨hoffer.offerId, hoffer.productName, ?_, fun stop hstop => ?_, hoffer.priced⟩
    · rw [List.length_drop, List.length_take]
      omega
    · exact hoffer.named stop (List.mem_of_mem_take (List.mem_of_mem_drop hstop))

theorem codeIndex_lt {route : List RouteStop} (hroute : 0 < route.length) (code : String) :
    codeIndex upperCase route code < route.length := by
  rw [codeIndex]
  generalize hfind : route.findIdx? _ = found
  cases found with
  | none => simp only [Option.map_none, Option.getD_none]; omega
  | some index =>
    have hlt := (List.findIdx?_eq_some_iff_findIdx_eq.mp hfind).1
    simpa using hlt

/-- **What a source answers can be published**, where its fixtures can. -/
theorem source_presentable (hprints : ∀ q, numberText q ≠ "")
    (hnearest : ∀ (route : List RouteStop) (gps : Gps), route ≠ [] →
      nearestStopIndex route gps < route.length)
    (hfixtures : ∀ offer ∈ source.offers, offer.Presentable) :
    ∀ offer ∈ source.search numberText upperCase nearestStopIndex fetched query,
      offer.Presentable := by
  have hfallback : ∀ offer ∈ Trv11.search upperCase nearestStopIndex source.offers query,
      offer.Presentable := by
    intro offer hoffer
    rw [Trv11.search] at hoffer
    split at hoffer
    · obtain ⟨whole, hwhole, hslice⟩ := List.mem_filterMap.mp hoffer
      have hpresentable := hfixtures whole hwhole
      have hpos : 0 < whole.route.length := by
        have hstops := hpresentable.stops
        omega
      refine sliceOffer_presentable hpresentable ?_ hslice
      unfold endIndex
      split
      · exact codeIndex_lt hpos _
      · exact hnearest _ _ (List.ne_nil_of_length_pos hpos)
      · omega
    · exact hfixtures offer hoffer
  rw [JourneySource.search]
  split
  · rcases hread : fetched.bind (acceptedOffers numberText) with _ | offers
    · exact hfallback
    · obtain ⟨body, -, hread⟩ := Option.bind_eq_some_iff.mp hread
      exact acceptedOffers_presentable hprints hread
  · exact hfallback

end Sources

/-! ## The invariant -/

/-- What a confirm can be answered: an order that is accepted or has a ticket that is good for too
long, or a refusal that says something. -/
def Sayable (v : Validator) : Except Failure ConfirmedOrder → Prop
  | .ok order => Documents.confirmedOrder v.dateTime (.obj order.fields) = true ∨ order.Outlives
  | .error failure => failure.Speaks

/-- A move that the program makes: offers were checked, a request was accepted by its schema, the
clock shows the years it shows, and the encoder answers with something. -/
inductive Move.Admitted : Move → Prop where
  | search {operator : PassOperatorKey} {identity : TransactionIdentity} {offers : List TransitOffer}
      (h : ∀ offer ∈ offers, offer.Presentable) : Admitted (.search operator identity offers)
  | confirm {operator : PassOperatorKey} {request : PaidRequest} {o : Outside} :
      Admitted (.confirm operator request.toConfirmRequest o.draws)
  | encoded {i : ℕ} {outcome : Except String QrEncoder} :
      Admitted (.encoded i ((outcome.map QrEncoder.encode).mapError .error))
  | conclude {i : ℕ} : Admitted (.conclude i)
  | resume {i : ℕ} : Admitted (.resume i)

/-- What one confirm has come to. -/
structure Task.Stands (v : Validator) (t : Task) : Prop where
  /-- it was asked what its schema accepted -/
  request : ∃ request : PaidRequest, t.request = request.toConfirmRequest
  /-- and drew from outside -/
  draws : ∃ o : Outside, t.draws = o.draws
  /-- what it waits with is to be an order -/
  draft : ∀ issue, t.stage = .encoding issue →
    issue.base.order.Fits Opened ∧ issue.orderId ≠ "" ∧ t.request.payments ≠ []
  /-- what it came to can be said -/
  outcome : ∀ outcome, t.outcome = some outcome → Sayable v outcome

/-- Whatever is kept can be published. -/
structure Standing (v : Validator) (s : State) : Prop where
  catalogues : s.store.Presentable
  orders : ∀ (id : String) (stored : StoredOrder), Js.mapGet s.store.orders id = some stored →
    Sayable v (.ok stored.order)
  tasks : ∀ (i : ℕ) (t : Task), s.tasks[i]? = some t → t.Stands v

section Standing

variable {v : Validator} {hmac : Hmac} {services : PassOperatorKey → Service} {s s' : State} {m : Move}

theorem Store.Presentable.cacheCatalogue {store : Store} (h : store.Presentable)
    {operator : PassOperatorKey} {identity : TransactionIdentity} {offers : List TransitOffer}
    (hoffers : ∀ offer ∈ offers, offer.Presentable) :
    (store.cacheCatalogue operator identity offers).Presentable := by
  intro key catalogue hcatalogue itemId offer hoffer
  by_cases hkey : key = ⟨operator, identity⟩
  · rw [hkey, Store.cacheCatalogue, Js.mapGet_mapSet_self] at hcatalogue
    obtain rfl := Option.some.inj hcatalogue
    obtain ⟨offer', hmem, hsame⟩ := List.mem_map.mp (Js.mem_of_mapGet_mapOf hoffer)
    obtain ⟨-, rfl⟩ := Prod.mk.inj hsame
    exact hoffers offer' hmem
  · rw [Store.cacheCatalogue, Js.mapGet_mapSet_ne _ _ hkey] at hcatalogue
    exact h key catalogue hcatalogue itemId offer hoffer

theorem standing_initial : Standing v State.initial :=
  ⟨fun _ _ h => absurd h nofun, fun _ _ h => absurd h nofun,
    fun _ t h => absurd (show none = some t from h) nofun⟩

/-- One more confirm. -/
theorem Standing.push (h : Standing v s) {t : Task} (ht : t.Stands v) : Standing v (s.push t) := by
  refine ⟨h.catalogues, h.orders, fun i t' ht' => ?_⟩
  rcases getElem?_push ht' with ht' | ⟨-, rfl⟩
  · exact h.tasks i t' ht'
  · exact ht

/-- One confirm, changed. -/
theorem Standing.put (h : Standing v s) {i : ℕ} {t t' : Task} (ht : s.tasks[i]? = some t)
    (ht' : t'.Stands v) : Standing v (s.put i t') := by
  refine ⟨h.catalogues, h.orders, fun j d hd => ?_⟩
  rcases getElem?_put_cases ht hd with hd | ⟨-, rfl⟩
  · exact h.tasks j d hd
  · exact ht'

/-- A confirm that came to something. -/
theorem Task.Stands.settle {t : Task} (h : t.Stands v) {stage : Stage}
    {outcome : Except Failure ConfirmedOrder} (hstage : stage = .settled outcome ∨ stage = .answered outcome)
    (hsayable : Sayable v outcome) : ({ t with stage := stage } : Task).Stands v := by
  refine ⟨h.request, h.draws, fun issue hissue => ?_, fun outcome' houtcome => ?_⟩
  · rcases hstage with rfl | rfl <;> cases hissue
  · rcases hstage with rfl | rfl <;> obtain rfl := Option.some.inj houtcome <;> exact hsayable

/-- A stored order can be said. -/
theorem Standing.found (h : Standing v s) {operator : PassOperatorKey} {identity : TransactionIdentity}
    {order : ConfirmedOrder} (hfound : s.store.findByTransaction operator identity = some order) :
    Sayable v (.ok order) := by
  obtain ⟨id, stored, -, hstored, rfl⟩ := Store.findByTransaction_some hfound
  exact h.orders id stored hstored

/-- **A confirm that is asked stands.** -/
theorem Standing.confirm (h : Standing v s) (hnamed : ∀ operator, (services operator).Named)
    (operator : PassOperatorKey) (request : PaidRequest) (o : Outside) :
    Standing v (s.confirm hmac services operator request.toConfirmRequest o.draws) := by
  have hask (stage : Stage) (hdraft : ∀ issue, stage = .encoding issue →
        issue.base.order.Fits Opened ∧ issue.orderId ≠ "" ∧ request.payments ≠ [])
      (houtcome : ∀ outcome, (Task.mk operator request.toConfirmRequest o.draws stage).outcome =
        some outcome → Sayable v outcome) :
      (Task.mk operator request.toConfirmRequest o.draws stage).Stands v :=
    ⟨⟨request, rfl⟩, ⟨o, rfl⟩, hdraft, houtcome⟩
  rw [State.confirm]
  split
  · -- the request itself is refused
    rename_i failure hfailure
    refine h.push (hask _ (by rintro issue ⟨⟩) fun outcome houtcome => ?_)
    obtain rfl := Option.some.inj houtcome
    exact spoken_checkConfirm failure hfailure
  · rename_i hchecked
    have hpaid : request.payments ≠ [] := by
      obtain ⟨⟨⟩, hstatus, -⟩ := Except.bind_ok.mp hchecked
      exact payments_of_assertPaymentStatus hstatus
    split
    · -- there is an order already
      rename_i order hfound
      refine h.push (hask _ (by rintro issue ⟨⟩) fun outcome houtcome => ?_)
      obtain rfl := Option.some.inj houtcome
      exact h.found hfound
    · split
      · -- a confirm in flight is joined, and has come to nothing yet
        exact h.push (hask _ (by rintro issue ⟨⟩) (by rintro outcome ⟨⟩))
      · -- the draft, or why there is none
        rcases hdraft : draft hmac (services operator) operator s.store request.toConfirmRequest
          o.draws with failure | issue
        · have ht := h.push (hask (.settled (.error failure)) (by rintro issue ⟨⟩)
            fun outcome houtcome => by
              obtain rfl := Option.some.inj houtcome
              exact spoken_draft o.plain failure hdraft)
          exact ⟨ht.catalogues, ht.orders, ht.tasks⟩
        · have hfits := baseOrder_fits (hnamed operator) h.catalogues (draft_ok hdraft).1
          have ht := h.push (hask (.encoding issue)
            (fun issue' hissue => by
              obtain rfl := Stage.encoding.inj hissue
              exact ⟨hfits, draft_orderId hdraft, hpaid⟩)
            (by rintro outcome ⟨⟩))
          exact ⟨ht.catalogues, ht.orders, ht.tasks⟩

/-- An order that is issued can be said. -/
theorem Task.Stands.done {t : Task} (h : t.Stands v) (hreads : v.ReadsInstants)
    {issue : Draft} (hstage : t.stage = .encoding issue) (hlaid : LaidOut t.request issue.base)
    {encoder : QrEncoder} {done : Issued}
    (hissued : issued t.operator t.request t.draws issue encoder.encode = .ok done) :
    Sayable v (.ok done.order) := by
  obtain ⟨request, hrequest⟩ := h.request
  obtain ⟨o, ho⟩ := h.draws
  obtain ⟨hfits, hid, hpaid⟩ := h.draft issue hstage
  rw [hrequest] at hissued hlaid hpaid
  rw [ho] at hissued
  have hissuable : Issuable o.draws.issuedAt := o.issuedAt.issuable
  have hyear : UtcYear o.draws.issuedAt := o.issuedAt.utcYear
  exact issued_document hreads encoder.some hissuable hyear hlaid hfits hpaid hid hissued

/-- An order that is stored. -/
theorem Standing.stored (h : Standing v s) {store : Store} {operator : PassOperatorKey}
    {identity : TransactionIdentity} {done : Issued} (hdone : Sayable v (.ok done.order))
    (hstore : s.store.issue operator identity done = .ok store) :
    store.Presentable ∧ ∀ (id : String) (stored : StoredOrder),
      Js.mapGet store.orders id = some stored → Sayable v (.ok stored.order) := by
  have hissues := Store.issue_ok hstore
  refine ⟨fun key catalogue hcatalogue => ?_, fun id stored hget => ?_⟩
  · rw [issue_catalogues hstore] at hcatalogue
    exact h.catalogues key catalogue hcatalogue
  · rw [hissues.orders] at hget
    by_cases hid : id = done.order.id
    · rw [hid, Js.mapGet_mapSet_self] at hget
      obtain rfl := Option.some.inj hget
      exact hdone
    · rw [Js.mapGet_mapSet_ne _ _ hid] at hget
      exact h.orders id stored hget

/-- **The encoder answers.** -/
theorem Standing.finish (h : Standing v s) (hreads : v.ReadsInstants) (hissuing : Issuing s) {i : ℕ}
    {t : Task} {issue : Draft} (ht : s.tasks[i]? = some t) (hstage : t.stage = .encoding issue)
    (encoder : QrEncoder) : Standing v (s.finish i t issue encoder.encode) := by
  have hstands := h.tasks i t ht
  obtain ⟨o, ho⟩ := hstands.draws
  rw [State.finish]
  split
  · rename_i failure hfailure
    rw [ho] at hfailure
    exact h.put ht (hstands.settle (.inl rfl) (spoken_issued o.plain failure hfailure))
  · rename_i done hdone
    have hsayable := hstands.done hreads hstage (hissuing.drafts i t issue ht hstage) hdone
    split
    · -- another order was stored in the meantime
      rename_i failure hfailure
      exact h.put ht (hstands.settle (.inl rfl) (spoken_issue failure hfailure))
    · rename_i store hstore
      obtain ⟨hcatalogues, horders⟩ := h.stored hsayable hstore
      exact ⟨hcatalogues, horders, (h.put ht (hstands.settle (.inl rfl) hsayable)).tasks⟩

/-- **Every move keeps what can be published publishable.** -/
theorem Standing.step (h : Standing v s) (hreads : v.ReadsInstants)
    (hnamed : ∀ operator, (services operator).Named) (hissuing : Issuing s) (hadmitted : m.Admitted)
    (hstep : s.step hmac services m = some s') : Standing v s' := by
  cases hadmitted with
  | search hoffers =>
    obtain rfl := Option.some.inj hstep
    exact ⟨h.catalogues.cacheCatalogue hoffers, h.orders, h.tasks⟩
  | @confirm operator request o =>
    obtain rfl := Option.some.inj hstep
    exact h.confirm hnamed operator request o
  | @encoded i outcome =>
    obtain ⟨t, ht, hstep⟩ := Option.bind_eq_some_iff.mp hstep
    have hstands := h.tasks i t ht
    split at hstep
    · rename_i failure hstage hfailure
      obtain rfl := Option.some.inj hstep
      refine h.put ht (hstands.settle (.inl rfl) ?_)
      -- the encoder's own failure is shown without its message
      cases outcome with
      | error message => cases hfailure; trivial
      | ok encoder => cases hfailure
    · rename_i issue encoder hstage hencoder
      obtain rfl := Option.some.inj hstep
      cases outcome with
      | error message => cases hencoder
      | ok encoder' =>
        obtain rfl := Except.ok.inj hencoder
        exact h.finish hreads hissuing ht hstage encoder'
    · cases hstep
  | @conclude i =>
    obtain ⟨t, ht, hstep⟩ := Option.bind_eq_some_iff.mp hstep
    have hstands := h.tasks i t ht
    split at hstep
    · rename_i outcome hstage
      obtain rfl := Option.some.inj hstep
      have hsayable : Sayable v outcome :=
        hstands.outcome outcome (by rw [Task.outcome, hstage])
      have hput := h.put ht (hstands.settle (.inr rfl) hsayable)
      exact ⟨hput.catalogues, hput.orders, hput.tasks⟩
    · cases hstep
  | @resume i =>
    obtain ⟨t, ht, hstep⟩ := Option.bind_eq_some_iff.mp hstep
    have hstands := h.tasks i t ht
    split at hstep
    · rename_i pending hstage
      obtain ⟨owner, howner, hstep⟩ := Option.bind_eq_some_iff.mp hstep
      split at hstep
      · rename_i outcome hanswered
        obtain rfl := Option.some.inj hstep
        have hsayable : Sayable v outcome :=
          (h.tasks pending owner howner).outcome outcome (by rw [Task.outcome, hanswered])
        exact h.put ht (hstands.settle (.inr rfl) hsayable)
      · cases hstep
    · cases hstep

end Standing

end TransitBpp.Trv11
