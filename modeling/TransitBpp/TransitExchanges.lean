import TransitBpp.TransitCallbacks

/-!
# Every request that comes in is answered

The handlers run in a pool, over one store, and the desk sends what they come to. `transitHandler_serves`
says what one handler comes to if all its operations are answered soundly, `pool_stands` that they are
in whatever order the handlers, the encoder and the clock take their turns. `transit_requests_answered`
is read off the exchanges of any run: a closed one is refused, or was sent what its own task came to, as
the published schema of its action says.
-/

namespace TransitBpp.Trv11

open Interleave Js JsonSchema

/-! ## What a handler comes to -/

/-- What an operation is answered is as it can be used. -/
def SoundResp (v : Validator) : (op : TransitOp) → TransitResp op → Prop
  | .search _ _ _, r => (∀ offer ∈ r.1, offer.Presentable) ∧ ∃ o : Outside, r.2.1 = o.searchDraws
  | .clock, r => ∃ o : Outside, r.1 = o.searchDraws
  | .read, r => r.1.Presentable ∧ (∀ (id : String) (stored : StoredOrder),
      Js.mapGet r.1.orders id = some stored → Sayable v (.ok stored.order)) ∧
      ∃ o : Outside, r.2 = o.draws
  | .confirm _ _, _ => True
  | .answer _, r => Sayable v r

/-- All that a handler was answered is. -/
def SoundJournal (v : Validator) (jr : List (Line TransitOp TransitResp)) : Prop :=
  ∀ l ∈ jr, SoundResp v l.op l.resp

/-- What a request asks for, of whomever. -/
def TransitRequest.work : TransitRequest → Work
  | network _ work => work
  | pass work => work

/-- A handler serves what is asked, if it is answered soundly. -/
def Serves (h : TransitHost) (work : Work) (x : TransitHandler TransitAnswer)
    (jr : List (Line TransitOp TransitResp)) : Prop :=
  Handler.Journal (fun _ _ => True)
    (fun answer jr => SoundJournal h.toValidator jr → Served h work (.ok answer))
    (fun failure jr => SoundJournal h.toValidator jr → Served h work (.error failure)) x jr

section Handlers

variable {h : TransitHost} {c : TransitConfig} {operator : PassOperatorKey} {work : Work}
  {jr : List (Line TransitOp TransitResp)}

/-- An order that is found by its id is stored. -/
theorem stored_of_get {store : Store} {identity : TransactionIdentity} {orderId : String}
    {order : ConfirmedOrder} (hget : store.get operator identity orderId = .ok order) :
    ∃ id stored, Js.mapGet store.orders id = some stored ∧ stored.order = order := by
  simp only [Store.get] at hget
  split at hget
  · cases hget
  · rename_i stored hstored
    split at hget
    · cases hget
    · exact ⟨orderId, stored, hstored, Except.ok.inj hget⟩

theorem serves_perform {op : TransitOp} {f : TransitResp op → TransitHandler TransitAnswer}
    (hf : ∀ r, Serves h work (f r) (⟨op, r⟩ :: jr)) : Serves h work (perform op >>= f) jr :=
  Handler.journal_bind.mpr ⟨trivial, hf⟩

/-- What is computed of what was read is answered. -/
theorem serves_lift {α : Type} {x : Except Failure α} {answer : α → TransitAnswer}
    (hok : ∀ a, x = .ok a → SoundJournal h.toValidator jr → Served h work (.ok (answer a)))
    (herror : ∀ e, x = .error e → SoundJournal h.toValidator jr → Served h work (.error e)) :
    Serves h work (liftM x >>= fun a => pure (answer a)) jr :=
  Handler.journal_bind.mpr (Handler.journal_lift.mpr ⟨hok, herror⟩)

theorem passSearch_serves (hconfig : c.Proper) (request : SearchRequest) :
    Serves h (.search request) (passSearch c operator request) jr := by
  refine serves_perform fun drawn => serves_lift (fun published hbuilt hsound => ?_)
    fun failure hfailure hsound => ?_
  · exact ⟨published, drawn.2, rfl, buildPassOnSearch_fits (hconfig.services operator) hbuilt⟩
  · obtain ⟨o, ho⟩ := hsound _ (List.mem_cons_self ..)
    rw [ho] at hfailure
    have hclock : UtcYear o.searchDraws.publishedAt := o.issuedAt.utcYear
    exact .inl (buildPassOnSearch_fails (hconfig.services operator) hclock failure hfailure)

theorem journeySearch_serves (hconfig : c.Proper) (key : OperatorKey) (request : SearchRequest)
    (hpass : isPassSearch request = false) :
    Serves h (.search request) (journeySearch h c key request) jr := by
  refine Handler.journal_bind.mpr (Handler.journal_lift.mpr ⟨fun query hquery => ?_,
    fun failure hfailure _ => .inr ⟨hpass, failure, hfailure⟩⟩)
  refine serves_perform fun found => serves_lift (fun published hbuilt hsound => ?_)
    fun failure hfailure hsound => ?_
  · obtain ⟨hoffers, -⟩ := hsound _ (List.mem_cons_self ..)
    exact ⟨published, found.2.2, rfl,
      buildOnSearch_fits (hconfig.services key.pass) hoffers hbuilt⟩
  · obtain ⟨hoffers, o, ho⟩ := hsound _ (List.mem_cons_self ..)
    rw [ho] at hfailure
    have hclock : ∀ index, UtcYear (o.searchDraws.itemTime index) :=
      fun index => (o.itemTime index).utcYear
    exact .inl (buildOnSearch_fails (hconfig.services key.pass) hoffers hclock failure hfailure)

/-- **Work is served**, whichever way it goes. -/
theorem orderWork_serves (hconfig : c.Proper) : Serves h work (orderWork c operator work) jr := by
  cases work with
  | search request => exact passSearch_serves hconfig request
  | select request =>
    refine serves_perform fun drawn => serves_lift (fun order hselect hsound => ?_)
      fun failure hfailure _ => spoken_select failure hfailure
    obtain ⟨hcatalogues, -⟩ := hsound _ (List.mem_cons_self ..)
    obtain ⟨base, hbase, hselect⟩ := Except.bind_ok.mp hselect
    obtain rfl := Except.ok.inj hselect
    exact ⟨base.order, rfl,
      (baseOrder_fits (hconfig.services operator) hcatalogues hbase).document⟩
  | init request =>
    refine serves_perform fun drawn => serves_lift (fun order hinit hsound => ?_)
      fun failure hfailure _ => spoken_init failure hfailure
    obtain ⟨hcatalogues, -⟩ := hsound _ (List.mem_cons_self ..)
    exact ⟨order, rfl, init_document (hconfig.services operator) hcatalogues hinit⟩
  | confirm request =>
    -- what it awaits was answered soundly, order or failure
    refine serves_perform fun i => serves_perform fun outcome =>
      serves_lift (fun order hanswer hsound => ?_) fun failure hfailure hsound => ?_
    · have hsayable := hsound _ (List.mem_cons_self ..)
      exact ⟨order, rfl, hanswer ▸ hsayable⟩
    · have hsayable := hsound _ (List.mem_cons_self ..)
      exact (show Sayable h.toValidator (.error failure) from hfailure ▸ hsayable)
  | status context orderId refId =>
    refine serves_perform fun drawn => serves_lift (fun order hstatus hsound => ?_)
      fun failure hfailure _ => spoken_status failure hfailure
    -- an order that is asked for is one that was kept
    obtain ⟨-, horders, -⟩ := hsound _ (List.mem_cons_self ..)
    obtain ⟨⟨⟩, -, hstatus⟩ := Except.bind_ok.mp hstatus
    split at hstatus
    · cases hstatus
    · obtain ⟨id, stored, hget, rfl⟩ := stored_of_get hstatus
      exact ⟨stored.order, rfl, horders id stored hget⟩

theorem transitHandler_serves (hconfig : c.Proper) (request : TransitRequest) :
    Serves h request.work (transitHandler h c request) jr := by
  cases request with
  | pass work => exact orderWork_serves hconfig
  | network key work =>
    cases work with
    | search request =>
      rw [transitHandler]
      split
      · exact passSearch_serves hconfig request
      · rename_i hpass
        exact journeySearch_serves hconfig key request (by simpa using hpass)
    | _ => exact orderWork_serves hconfig

end Handlers

/-! ## The pool -/

/-- The confirms are where confirms can be, and whatever is kept can be published. -/
structure TransitWorld.Stands (h : TransitHost) (c : TransitConfig) (w : TransitWorld) : Prop where
  reachable : Reachable h.hmac c.services w.state
  standing : Standing h.toValidator w.state

/-- The pool behind the desk. -/
abbrev TransitPool : Type :=
  Config TransitOp TransitResp TransitWorld TransitRequest (Except Failure TransitAnswer)

/-- The desk with its pool. -/
abbrev TransitOffice : Type :=
  Office TransitOp TransitResp TransitWorld TransitRequest (Except Failure TransitAnswer) Unit ClockTime
    TransitIncoming Reply Post

/-- An exchange of this desk. -/
abbrev TransitExchange : Type := Exchange ClockTime TransitIncoming Reply Post

section Pool

variable {h : TransitHost} {c : TransitConfig} {w w' : TransitWorld} {pool : TransitPool}
  {allows : Hist TransitOp TransitResp TransitWorld → Interleave.Move TransitOp TransitRequest
    TransitEvent → Prop} {clock : ClockTime}

theorem stands_initial : (TransitWorld.initial clock).Stands h c := ⟨.refl, standing_initial⟩

theorem TransitWorld.Stands.advance (hw : w.Stands h c) (hhost : h.Proper) (hconfig : c.Proper)
    {m : Move} (hadmitted : m.Admitted) (hadvance : w.advance h c m = some w') : w'.Stands h c := by
  obtain ⟨state, hstep, rfl⟩ := Option.map_eq_some_iff.mp hadvance
  exact ⟨hw.reachable.tail ⟨m, hstep⟩, hw.standing.step hhost.reads hconfig.services
    (Reachable.issuing hw.reachable) hadmitted hstep⟩

/-- What a confirm was answered can be said. -/
theorem TransitWorld.Stands.answerOf (hw : w.Stands h c) {i : ℕ}
    {outcome : Except Failure ConfirmedOrder} (hanswer : w.state.answerOf i = some outcome) :
    Sayable h.toValidator outcome := by
  rw [State.answerOf] at hanswer
  split at hanswer
  · rename_i operator request draws outcome' ht
    obtain rfl := Option.some.inj hanswer
    exact (hw.standing.tasks i _ ht).outcome _ rfl
  · cases hanswer

/-- **An operation keeps the confirms standing, and is answered soundly.** -/
theorem TransitWorld.Stands.exec (hw : w.Stands h c) (hhost : h.Proper) (hconfig : c.Proper)
    {o : Outside} {op : TransitOp} {r : TransitResp op} (hexec : w.exec h c o op = some (w', r)) :
    w'.Stands h c ∧ SoundResp h.toValidator op r := by
  cases op with
  | search operator identity query =>
    unfold TransitWorld.exec at hexec
    obtain ⟨advanced, hadvance, hsame⟩ := Option.map_eq_some_iff.mp hexec
    obtain ⟨rfl, rfl⟩ := Prod.mk.inj hsame
    have hoffers : ∀ offer ∈ (c.sources operator).search h.numberText h.upperCase h.nearestStopIndex
        o.fetched query, offer.Presentable :=
      source_presentable hhost.prints hhost.nearest (hconfig.fixtures operator)
    exact ⟨hw.advance hhost hconfig (.search hoffers) hadvance, hoffers, o, rfl⟩
  | clock =>
    obtain ⟨rfl, rfl⟩ := Prod.mk.inj (Option.some.inj hexec)
    exact ⟨hw, o, rfl⟩
  | read =>
    obtain ⟨rfl, rfl⟩ := Prod.mk.inj (Option.some.inj hexec)
    exact ⟨hw, hw.standing.catalogues, hw.standing.orders, o, rfl⟩
  | confirm operator request =>
    unfold TransitWorld.exec at hexec
    obtain ⟨advanced, hadvance, hsame⟩ := Option.map_eq_some_iff.mp hexec
    obtain ⟨rfl, rfl⟩ := Prod.mk.inj hsame
    exact ⟨hw.advance hhost hconfig .confirm hadvance, trivial⟩
  | answer i =>
    obtain ⟨outcome, houtcome, hsame⟩ := Option.map_eq_some_iff.mp hexec
    obtain ⟨rfl, rfl⟩ := Prod.mk.inj hsame
    exact ⟨hw, hw.answerOf houtcome⟩

theorem TransitWorld.Stands.happen (hw : w.Stands h c) (hhost : h.Proper) (hconfig : c.Proper)
    {e : TransitEvent} (hhappen : w.happen h c e = some w') : w'.Stands h c := by
  cases e with
  | tick clock =>
    obtain rfl := Option.some.inj hhappen
    exact ⟨hw.reachable, hw.standing⟩
  | encoded i outcome => exact hw.advance hhost hconfig .encoded hhappen
  | conclude i => exact hw.advance hhost hconfig .conclude hhappen
  | resume i => exact hw.advance hhost hconfig .resume hhappen

/-- What every handler of the pool comes to. -/
theorem transitProvider_journal (hconfig : c.Proper) (request : TransitRequest) :
    ((transitProvider h c).handler request).Journal (fun _ _ => True)
      (fun result jr => SoundJournal h.toValidator jr → Served h request.work result) [] := by
  refine Prog.Journal.mono (fun _ _ _ _ => trivial) ?_ (transitHandler_serves hconfig request)
  rintro (failure | answer) jr - hserved
  · exact hserved
  · exact hserved

/-- **Whatever handlers do at whatever moments**, the confirms stand, and every operation was answered
soundly. -/
theorem pool_stands (hhost : h.Proper) (hconfig : c.Proper)
    (hreach : Reach (transitProvider h c) allows ⟨⟨TransitWorld.initial clock, []⟩, []⟩ pool) :
    pool.hist.world.Stands h c ∧ ∀ e ∈ pool.hist.trace, SoundResp h.toValidator e.op e.resp := by
  refine Reach.invariant (fun s => s.world.Stands h c ∧
    ∀ e ∈ s.trace, SoundResp h.toValidator e.op e.resp) (transitProvider_journal hconfig)
    ⟨stands_initial, fun e he => absurd he List.not_mem_nil⟩ ?_ ?_ hreach
  · rintro s s' i req op r ⟨hw, htrace⟩ - - ⟨o, w, hexec, rfl⟩
    obtain ⟨hw', hsound⟩ := hw.exec hhost hconfig hexec
    refine ⟨hw', fun e he => ?_⟩
    rcases List.mem_cons.mp he with rfl | he
    · exact hsound
    · exact htrace e he
  · rintro s e w ⟨hw, htrace⟩ - hhappen
    exact ⟨hw.happen hhost hconfig hhappen, htrace⟩

/-- **What any task has answered serves what it was asked.** -/
theorem pool_serves (hhost : h.Proper) (hconfig : c.Proper)
    (hreach : Reach (transitProvider h c) allows ⟨⟨TransitWorld.initial clock, []⟩, []⟩ pool) {i : ℕ}
    {t : Interleave.Task TransitOp TransitResp TransitRequest (Except Failure TransitAnswer)}
    {result : Except Failure TransitAnswer} (ht : pool.tasks[i]? = some t)
    (hanswer : pool.answer i = some result) : Served h t.req.work result := by
  obtain ⟨-, htrace⟩ := pool_stands hhost hconfig hreach
  have hjournal := (hreach.journal (transitProvider_journal hconfig)).journal i t ht
  obtain ⟨req, rest⟩ := t
  rw [Config.answer, ht] at hanswer
  cases rest with
  | call op k => cases hanswer
  | ret answer =>
    obtain rfl := Option.some.inj hanswer
    refine hjournal fun l hl => ?_
    exact htrace _ (mem_own.mp hl)

end Pool

/-! ## Exchanges -/

/-- Everything that was sent for a request, once nothing more will be. -/
inductive Heard (h : TransitHost) (c : TransitConfig) (pool : TransitPool) : TransitExchange → Prop where
  /-- a refusal, as its schema does not accept it, or it has none: no handler ran for it -/
  | refused {x : TransitIncoming} {since : ClockTime} {message : String} {data : Option Json}
      (hnot : transitAcceptedAt h x = none) :
      Heard h c pool ⟨x, since, none, .closed, [⟨400, nack message data⟩], []⟩
  /-- what the door says to a search: no handler ran for it either -/
  | turned {x : TransitIncoming} {since : ClockTime} {a : TransitAccepted} {reply : Reply}
      (haccepted : transitAcceptedAt h x = some a) (hdoor : doorReply h c x.route a.work = some reply) :
      Heard h c pool ⟨x, since, none, .closed, [reply], []⟩
  /-- an acknowledgement, and what its own handler came to as a callback -/
  | posted {x : TransitIncoming} {since : ClockTime} {a : TransitAccepted} {key : OperatorKey}
      {path : Option TransitAction} {i : ℕ} {result : Except Failure TransitAnswer} {callback : Json}
      (haccepted : transitAcceptedAt h x = some a) (hroute : x.route = .network key path)
      (htask : ∃ t, pool.tasks[i]? = some t ∧ t.req = .network key a.work)
      (hanswer : pool.answer i = some result)
      (hcallback : transitCallback c key.pass a since result = some callback)
      (hfits : a.action.callbackSchema h.dateTime callback = true) :
      Heard h c pool ⟨x, since, some i, .closed, [⟨202, ack⟩],
        [⟨callbackUrlFor (c.callbackUrls key) a.action.onAction, callback⟩]⟩
  /-- an acknowledgement alone: a search whose timestamp is no instant, or an order one ticket of which
  is good for too long -/
  | dropped {x : TransitIncoming} {since : ClockTime} {a : TransitAccepted} {key : OperatorKey}
      {path : Option TransitAction} {i : ℕ} {result : Except Failure TransitAnswer}
      (haccepted : transitAcceptedAt h x = some a) (hroute : x.route = .network key path)
      (hanswer : pool.answer i = some result)
      (hwhy : (∃ request, a.work = .search request ∧ ¬ request.context.Instant) ∨
        OutlivingAnswer result) :
      Heard h c pool ⟨x, since, some i, .closed, [⟨202, ack⟩], []⟩
  /-- a callback on the open connection: what its own handler came to, or that this cannot be said -/
  | answered {x : TransitIncoming} {since : ClockTime} {a : TransitAccepted} {action : TransitAction}
      {i : ℕ} {result : Except Failure TransitAnswer} {callback : Json}
      (haccepted : transitAcceptedAt h x = some a) (hroute : x.route = .pass action)
      (htask : ∃ t, pool.tasks[i]? = some t ∧ t.req = .pass a.work)
      (hanswer : pool.answer i = some result)
      (hcallback : transitCallback c .ksrtc a since result = some callback ∨
        OutlivingAnswer result ∧ ∃ now, callback = passLastResort c a now)
      (hfits : a.action.callbackSchema h.dateTime callback = true) :
      Heard h c pool ⟨x, since, some i, .closed, [⟨200, callback⟩], []⟩
  /-- a failure on the open connection, for a search whose timestamp is no instant -/
  | failed {x : TransitIncoming} {since now : ClockTime} {a : TransitAccepted} {action : TransitAction}
      {request : SearchRequest} {i : ℕ} (haccepted : transitAcceptedAt h x = some a)
      (hroute : x.route = .pass action) (hwork : a.work = .search request)
      (hwhy : ¬ request.context.Instant) :
      Heard h c pool ⟨x, since, some i, .closed, [passFailed c a now], []⟩

section Exchanges

variable {h : TransitHost} {c : TransitConfig} {pool : TransitPool} {x : TransitIncoming}
  {a : TransitAccepted} {since now clock : ClockTime} {result : Except Failure TransitAnswer}
  {allows : Hist TransitOp TransitResp TransitWorld → Interleave.Move TransitOp TransitRequest
    TransitEvent → Prop} {V : ClockTime → Prop} {i : ℕ}

theorem accept_of_transitAcceptedAt (haccepted : transitAcceptedAt h x = some a) :
    ∃ action body, acceptTransit h action body = some a := by
  obtain ⟨body, -, haccepted⟩ := Option.bind_eq_some_iff.mp haccepted
  obtain ⟨action, -, haccept⟩ := Option.bind_eq_some_iff.mp haccepted
  exact ⟨action, body, haccept⟩

/-- What is taken in was accepted, and the door let it pass. -/
theorem arriveTransit_taken {req : TransitRequest} (harrive : arriveTransit h c x = .taken req) :
    ∃ a, transitAcceptedAt h x = some a ∧ doorReply h c x.route a.work = none ∧
      req = x.route.request a.work := by
  unfold arriveTransit at harrive
  split at harrive
  · cases harrive
  · rename_i body hbody
    split at harrive
    · cases harrive
    · split at harrive
      · split at harrive <;> cases harrive
      · rename_i action haction
        split at harrive
        · cases harrive
        · rename_i a haccept
          split at harrive
          · cases harrive
          · rename_i hdoor
            refine ⟨a, ?_, hdoor, (Arrival.taken.inj harrive).symm⟩
            rw [transitAcceptedAt, hbody]
            exact Option.bind_eq_some_iff.mpr
              ⟨body, rfl, Option.bind_eq_some_iff.mpr ⟨action, haction, haccept⟩⟩

/-- What is refused was not accepted, or is answered at the door. -/
theorem arriveTransit_refused {reply : Reply} (harrive : arriveTransit h c x = .refused reply) :
    Heard h c pool ⟨x, since, none, .closed, [reply], []⟩ := by
  unfold arriveTransit at harrive
  split at harrive
  · rename_i message hbody
    obtain rfl := Arrival.refused.inj harrive
    exact .refused (by rw [transitAcceptedAt, hbody]; rfl)
  · rename_i body hbody
    split at harrive
    · cases harrive
    · split at harrive
      · rename_i haction
        split at harrive
        · cases harrive
        · obtain rfl := Arrival.refused.inj harrive
          exact .refused (by rw [transitAcceptedAt, hbody]; simp [Except.toOption, haction])
      · rename_i action haction
        split at harrive
        · rename_i haccept
          obtain rfl := Arrival.refused.inj harrive
          exact .refused (by rw [transitAcceptedAt, hbody]; simp [Except.toOption, haction, haccept])
        · rename_i a haccept
          have haccepted : transitAcceptedAt h x = some a := by
            rw [transitAcceptedAt, hbody]
            exact Option.bind_eq_some_iff.mpr
              ⟨body, rfl, Option.bind_eq_some_iff.mpr ⟨action, haction, haccept⟩⟩
          split at harrive
          · rename_i reply hdoor
            obtain rfl := Arrival.refused.inj harrive
            exact .turned haccepted hdoor
          · cases harrive

theorem transitDesk_manner (haccepted : transitAcceptedAt h x = some a) :
    (transitDesk h c).manner x = transitManner h c a x.route := by
  simp only [transitDesk, haccepted]

/-- Whatever task an exchange is in the hands of works on what was accepted. -/
theorem inHand_transit (hin : InHand (transitDesk h c) V pool x since i) :
    ∃ a, transitAcceptedAt h x = some a ∧ doorReply h c x.route a.work = none ∧
      ∃ t, pool.tasks[i]? = some t ∧ t.req = x.route.request a.work := by
  obtain ⟨t, ht, harrive⟩ := hin.task
  obtain ⟨a, haccepted, hdoor, hreq⟩ := arriveTransit_taken harrive
  exact ⟨a, haccepted, hdoor, t, ht, hreq⟩

/-- A search that the door let pass asks for passes or names its stops. -/
theorem asked_of_door {request : SearchRequest} (hdoor : doorReply h c x.route (.search request) = none) :
    ¬ Unasked h request := by
  rintro ⟨hpass, failure, hfailure⟩
  cases hroute : x.route with
  | network key path =>
    rw [hroute, doorReply, searchDoor, hpass, hfailure] at hdoor
    cases hdoor
  | pass action =>
    rw [hroute, doorReply, hpass] at hdoor
    cases hdoor

theorem work_of_request {route : TransitRoute} {work : Work} : (route.request work).work = work := by
  cases route <;> rfl

/-- Where nothing is called back there was a search, and its timestamp is no instant. -/
theorem unanswered_search (hserved : Served h a.work result) (hasks : a.action.Asks a.work)
    (hdoor : doorReply h c x.route a.work = none) {operator : PassOperatorKey}
    (hnone : transitCallback c operator a since result = none) :
    ∃ request, a.work = .search request ∧ ¬ request.context.Instant := by
  cases result with
  | ok answer => cases hnone
  | error failure =>
    rw [transitCallback] at hnone
    split at hnone
    · rename_i hsearch
      rw [hsearch] at hasks
      cases hwork : a.work with
      | search request =>
        rw [hwork] at hserved hdoor
        exact ⟨request, rfl, hserved.resolve_right (asked_of_door hdoor)⟩
      | _ =>
        rw [hwork] at hasks
        exact absurd hasks id
    · cases hnone

/-- The last resort of the pass route fits where an order was asked for. -/
theorem passLastResort_fits (hhost : h.Proper) (hconfig : c.Proper) (hreturnable : Returnable a.context)
    (hsearch : a.action ≠ .search) :
    a.action.callbackSchema h.dateTime (passLastResort c a now) = true := by
  rw [TransitAction.callbackSchema_eq hsearch]
  exact transitRefusal_callback (contextOf_fits hhost hconfig hreturnable a.action) (by decide)
    (by decide)

/-- A search is never answered with an order. -/
theorem search_lasts (hserved : Served h a.work result) (hasks : a.action.Asks a.work)
    (hlong : OutlivingAnswer result) : a.action ≠ .search := by
  intro hsearch
  obtain ⟨order, rfl, -⟩ := hlong
  rw [hsearch] at hasks
  cases hwork : a.work with
  | search request =>
    rw [hwork] at hserved
    obtain ⟨published, publishedAt, hanswer, -⟩ := hserved
    cases hanswer
  | _ =>
    rw [hwork] at hasks
    exact absurd hasks id

/-- Why nothing is posted, where nothing is. -/
theorem transitPost_none (hhost : h.Proper) (hconfig : c.Proper) (hreturnable : Returnable a.context)
    (hasks : a.action.Asks a.work) (hserved : Served h a.work result)
    (hdoor : doorReply h c x.route a.work = none) {key : OperatorKey}
    (hpost : transitPost h c key a since result = none) :
    (∃ request, a.work = .search request ∧ ¬ request.context.Instant) ∨ OutlivingAnswer result := by
  by_cases hlong : OutlivingAnswer result
  · exact .inr hlong
  left
  cases hcallback : transitCallback c key.pass a since result with
  | none => exact unanswered_search hserved hasks hdoor hcallback
  | some callback =>
    have hfits := transitCallback_fits hhost hconfig hreturnable hasks hserved hlong hcallback
    simp [transitPost, hcallback, Option.filter, hfits] at hpost

/-- What is sent on the open connection. -/
theorem passReply_heard (hhost : h.Proper) (hconfig : c.Proper) (hreturnable : Returnable a.context)
    (hasks : a.action.Asks a.work) (hserved : Served h a.work result)
    (haccepted : transitAcceptedAt h x = some a) (hdoor : doorReply h c x.route a.work = none)
    {action : TransitAction} (hroute : x.route = .pass action)
    (htask : ∃ t, pool.tasks[i]? = some t ∧ t.req = .pass a.work)
    (hanswer : pool.answer i = some result) :
    Heard h c pool ⟨x, since, some i, .closed, [passReply h c a since now result], []⟩ := by
  cases hcallback : transitCallback c .ksrtc a since result with
  | none =>
    obtain ⟨request, hwork, hwhy⟩ := unanswered_search hserved hasks hdoor hcallback
    simp only [passReply, hcallback]
    exact .failed haccepted hroute hwork hwhy
  | some callback =>
    by_cases hfits : a.action.callbackSchema h.dateTime callback = true
    · simp only [passReply, hcallback, hfits, if_true]
      exact .answered haccepted hroute htask hanswer (.inl hcallback) hfits
    · -- what does not fit is an order, and its last resort does
      have hlong : OutlivingAnswer result := by
        by_contra hlong
        exact hfits (transitCallback_fits hhost hconfig hreturnable hasks hserved hlong hcallback)
      have hlast : a.action.callbackSchema h.dateTime (passLastResort c a now) = true :=
        passLastResort_fits hhost hconfig hreturnable (search_lasts hserved hasks hlong)
      simp only [passReply, hcallback, hfits, hlast, if_true]
      exact .answered haccepted hroute htask hanswer (.inr ⟨hlong, now, rfl⟩) hlast

/-- What was sent for a request, once its exchange is closed. -/
theorem heard_of_closed (hhost : h.Proper) (hconfig : c.Proper)
    (hpool : Reach (transitProvider h c) allows ⟨⟨TransitWorld.initial clock, []⟩, []⟩ pool)
    {y : TransitExchange} (hfits : y.Fits (transitDesk h c) V pool) (hclosed : y.phase = .closed) :
    Heard h c pool y := by
  cases hfits with
  | refused _ harrive => exact arriveTransit_refused harrive
  | acknowledged _ _ => cases hclosed
  | held _ _ _ _ _ => cases hclosed
  | waiting _ _ => cases hclosed
  | posted hin hmanner _ hanswer hresolve =>
    obtain ⟨a, haccepted, hdoor, htask⟩ := inHand_transit hin
    rw [transitDesk_manner haccepted] at hmanner
    cases hroute : TransitIncoming.route _ with
    | pass action =>
      rw [hroute] at hmanner
      cases hmanner
    | network key path =>
      rw [hroute] at hmanner htask
      obtain ⟨rfl, rfl⟩ := Manner.acknowledge.inj hmanner
      obtain ⟨callback, hcallback, rfl⟩ := Option.map_eq_some_iff.mp hresolve
      obtain ⟨hcallback, hfits⟩ := Option.filter_eq_some_iff.mp hcallback
      exact .posted haccepted hroute htask hanswer hcallback hfits
  | dropped hin hmanner _ hanswer hresolve =>
    obtain ⟨a, haccepted, hdoor, t, ht, hreq⟩ := inHand_transit hin
    obtain ⟨action, body, haccept⟩ := accept_of_transitAcceptedAt haccepted
    have hserved := pool_serves hhost hconfig hpool ht hanswer
    rw [hreq, work_of_request] at hserved
    rw [transitDesk_manner haccepted] at hmanner
    cases hroute : TransitIncoming.route _ with
    | pass action =>
      rw [hroute] at hmanner
      cases hmanner
    | network key path =>
      rw [hroute] at hmanner
      obtain ⟨rfl, rfl⟩ := Manner.acknowledge.inj hmanner
      exact .dropped haccepted hroute hanswer (transitPost_none hhost hconfig
        (returnable_of_accept haccept) (asks_of_accept haccept) hserved hdoor hresolve)
  | answered hin hmanner _ hanswer =>
    obtain ⟨a, haccepted, hdoor, t, ht, hreq⟩ := inHand_transit hin
    obtain ⟨action, body, haccept⟩ := accept_of_transitAcceptedAt haccepted
    have hserved := pool_serves hhost hconfig hpool ht hanswer
    rw [hreq, work_of_request] at hserved
    rw [transitDesk_manner haccepted] at hmanner
    cases hroute : TransitIncoming.route _ with
    | network key path =>
      rw [hroute] at hmanner
      cases hmanner
    | pass action =>
      rw [hroute] at hmanner hreq
      obtain ⟨rfl, rfl⟩ := Manner.wait.inj hmanner
      exact passReply_heard hhost hconfig (returnable_of_accept haccept) (asks_of_accept haccept)
        hserved haccepted hdoor hroute ⟨t, ht, hreq⟩ hanswer
  | givenUp hin hmanner _ =>
    obtain ⟨a, haccepted, -, -⟩ := inHand_transit hin
    rw [transitDesk_manner haccepted] at hmanner
    cases hroute : TransitIncoming.route _ with
    | network key path =>
      rw [hroute] at hmanner
      cases hmanner
    | pass action =>
      rw [hroute] at hmanner
      cases hmanner

/-- The states the exchanges of a run are in. -/
theorem transit_fits {o : TransitOffice}
    (hreach : OfficeReach (transitProvider h c) (transitDesk h c) TransitWorld.clock allows
      (TransitWorld.initial clock) o) {y : TransitExchange} (hy : y ∈ o.exchanges) :
    y.Fits (transitDesk h c) (fun _ => True) o.pool :=
  hreach.fits (fun _ _ => trivial) y hy

/-- **A request whose exchange is over was answered**: it is refused, or answered at the door, or what its
own handler came to is posted or sent, as the published schema of its action says. What is acknowledged
and then dropped is a search without an instant, or an order that is good beyond the year 9999. -/
theorem transit_requests_answered (hhost : h.Proper) (hconfig : c.Proper) {o : TransitOffice}
    (hreach : OfficeReach (transitProvider h c) (transitDesk h c) TransitWorld.clock allows
      (TransitWorld.initial clock) o) {y : TransitExchange} (hy : y ∈ o.exchanges)
    (hclosed : y.phase = .closed) : Heard h c o.pool y :=
  heard_of_closed hhost hconfig hreach.pool (transit_fits hreach hy) hclosed

end Exchanges

namespace Specimen

/-- The instant of a text that this provider could have written. -/
def timeOf (text : String) : Option ℤ :=
  if text.toList.drop 23 = ['Z'] then
    (readInstant (slice text 23 ++ "+05:30")).map fun ms => ms + indiaOffsetMilliseconds
  else readInstant text

/-- A host that knows the instants that are written. -/
def host : TransitHost where
  toValidator := specimenValidator
  time := timeOf
  upperCase text := text
  nearestStopIndex _ _ := -1
  hmac := zeros

theorem host_proper : host.Proper where
  reads := specimenValidator_reads
  prints q := by
    show toString q.num ≠ ""
    cases q.num with
    | ofNat n => exact Nat.repr_ne_empty
    | negSucc n => simp [toString, Int.repr]
  nearest route _ hroute := by
    have hlength : 0 < route.length := List.length_pos_iff.mpr hroute
    show (-1 : ℤ) < route.length
    omega

/-- A deployment without journeys. -/
def config : TransitConfig where
  services := service
  sources _ := ⟨[], false⟩
  callbackUrls _ := ⟨"https://bap", "/callback", ""⟩
  contextTtl := "PT30S"

theorem config_proper : config.Proper where
  services operator := by cases operator <;> exact ⟨by decide, by decide, by decide, by decide, by decide⟩
  fixtures operator := by cases operator <;> simp [config]
  ttl := by decide

/-- A paid confirm of a day pass. -/
def purchase : TransitIncoming where
  route := .network .bmtc (some .confirm)
  body := .ok (.obj [
    ("context", .obj [("domain", .str "ONDC:TRV11"),
      ("location", .obj [("country", .obj [("code", .str "IND")]),
        ("city", .obj [("code", .str "std:080")])]),
      ("action", .str "confirm"), ("version", .str "2.0.1"), ("bap_id", .str "bap"),
      ("bap_uri", .str "https://bap"), ("bpp_id", .str "bpp"), ("bpp_uri", .str "https://bpp"),
      ("transaction_id", .str "T1"), ("message_id", .str "M1"),
      ("timestamp", .str "2026-09-08T10:00:00.000Z"), ("ttl", .str "PT30S")]),
    ("message", .obj [("order", .obj [
      ("items", .arr [.obj [("id", .str "PASS-DAY-AC_BUS"),
        ("quantity", .obj [("selected", .obj [("count", .num 1)])])]]),
      ("provider", .obj [("id", .str "BMTC")]),
      ("billing", .obj [("name", .str "A"), ("phone", .str "1")]),
      ("payments", .arr [.obj [("id", .str "P1"), ("collected_by", .str "BAP"), ("status", .str "PAID"),
        ("type", .str "PRE_ORDER"), ("params", .obj [("transaction_id", .str "T1"),
          ("currency", .str "INR"), ("amount", .str "100")])]])])])])

/-- A reading of the clock. -/
def morning : ClockTime := ⟨1790762400000, by decide⟩

/-- What the outside gives when nothing fails. -/
def outside : Outside :=
  ⟨fun _ => morning, morning, morning, .ok "a1", fun _ => .ok (List.replicate 20 zero), none⟩

/-- An encoder that answers the same token for every ticket. -/
def qrEncoder : QrEncoder := ⟨encoder, by simp [encoder]⟩

/-- It arrives, is confirmed once the encoder has answered, and the order is posted. -/
def errands : List (Errand TransitIncoming Outside TransitEvent) :=
  [.arrive purchase, .run 0 outside, .env (.encoded 0 (.ok qrEncoder)), .env (.conclude 0), .run 0 outside,
    .turn 0 .resolve, .turn 0 .post]

/-- That morning at the desk. -/
def day : ℕ → TransitOffice :=
  (⟨⟨⟨TransitWorld.initial morning, []⟩, []⟩, [], []⟩ : TransitOffice).course (transitProvider host config)
    (transitDesk host config) TransitWorld.clock (fun _ _ => true) errands

end Specimen

theorem transit_requests_answered_specimen : ∃ (o : TransitOffice) (y : TransitExchange),
    y ∈ o.exchanges ∧ y.phase = .closed ∧ Heard Specimen.host Specimen.config o.pool y := by
  have hrun : ((Specimen.day 7).exchanges.head?.map fun y => y.phase.isClosed) = some true := by
    decide +kernel
  obtain ⟨y, hy, hclosed⟩ := Option.map_eq_some_iff.mp hrun
  have hmem : y ∈ (Specimen.day 7).exchanges := List.mem_of_mem_head? hy
  have hendless : EndlessOffice (transitProvider Specimen.host Specimen.config)
      (transitDesk Specimen.host Specimen.config) TransitWorld.clock (fun _ _ => true = true)
      Specimen.day := Office.course_endless
  exact ⟨Specimen.day 7, y, hmem, Phase.isClosed_iff.mp hclosed,
    transit_requests_answered Specimen.host_proper Specimen.config_proper
      (hendless.reach .refl) hmem (Phase.isClosed_iff.mp hclosed)⟩

end TransitBpp.Trv11
