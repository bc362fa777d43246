import TransitBpp.TransitProgress

/-!
# One order for a transaction

A transaction may be confirmed more than once, over connections that are open at the same time, and its
order may be asked for in between. `Learned` is how a handler has come by an order: a confirm of its own
was answered with it, or it read it in the store. `Told` is what a run keeps of what handlers were told,
and `transit_orders_agree` follows: all of them were told of the one order that is stored.
-/

namespace TransitBpp.Trv11

open Interleave Js JsonSchema

/-! ## What a handler learns -/

/-- The transaction of work that ends in a confirmed order. -/
def Work.transaction (operator : PassOperatorKey) : Work → Option TransactionKey
  | .confirm request => some ⟨operator, request.identity⟩
  | .status context _ _ => some ⟨operator, context.identity⟩
  | _ => none

/-- The operator that a request is for. -/
def TransitRequest.operator : TransitRequest → PassOperatorKey
  | network key _ => key.pass
  | pass _ => .ksrtc

/-- How a handler has come by an order. -/
inductive Learned (key : TransactionKey) (order : ConfirmedOrder)
    (jr : List (Line TransitOp TransitResp)) : Prop where
  /-- a confirm of its own was answered with it -/
  | confirmed (request : PaidRequest) (i : ℕ) (hidentity : request.identity = key.identity)
      (hgiven : (⟨.confirm key.operator request, i⟩ : Line TransitOp TransitResp) ∈ jr)
      (hanswer : (⟨.answer i, .ok order⟩ : Line TransitOp TransitResp) ∈ jr) : Learned key order jr
  /-- it read it -/
  | read (store : Store) (draws : Draws) (orderId : String)
      (hread : (⟨.read, (store, draws)⟩ : Line TransitOp TransitResp) ∈ jr)
      (hget : store.get key.operator key.identity orderId = .ok order) : Learned key order jr

/-- What a handler answers, it has learned. -/
def Learns (operator : PassOperatorKey) (work : Work) (answer : TransitAnswer)
    (jr : List (Line TransitOp TransitResp)) : Prop :=
  ∀ key order, work.transaction operator = some key → answer = .confirmed order → Learned key order jr

section Handlers

variable {h : TransitHost} {c : TransitConfig} {operator : PassOperatorKey} {work : Work}
  {jr : List (Line TransitOp TransitResp)}

/-- Where no order is to be confirmed, there is none to learn. -/
theorem learns_none {answer : TransitAnswer} (hnone : work.transaction operator = none) :
    Learns operator work answer jr := by
  intro key order hkey
  rw [hnone] at hkey
  cases hkey

/-- **An order that is answered was learned.** -/
theorem orderWork_learns : Handler.Journal (fun _ _ => True) (Learns operator work) (fun _ _ => True)
    (orderWork c operator work) jr := by
  cases work with
  | confirm request =>
    refine Handler.journal_bind.mpr ⟨trivial, fun i => Handler.journal_bind.mpr ⟨trivial, fun r => ?_⟩⟩
    refine Handler.journal_bind.mpr (Handler.journal_lift.mpr ⟨fun order hanswer => ?_, fun _ _ => trivial⟩)
    intro key order' hkey hsame
    obtain rfl := Option.some.inj hkey
    obtain rfl := TransitAnswer.confirmed.inj hsame
    exact .confirmed request i rfl (List.mem_cons_of_mem _ List.mem_cons_self)
      (by rw [← hanswer]; exact List.mem_cons_self)
  | status context orderId refId =>
    refine Handler.journal_bind.mpr ⟨trivial, fun drawn => ?_⟩
    refine Handler.journal_bind.mpr (Handler.journal_lift.mpr ⟨fun order hstatus => ?_, fun _ _ => trivial⟩)
    intro key order' hkey hsame
    obtain rfl := Option.some.inj hkey
    obtain rfl := TransitAnswer.confirmed.inj hsame
    obtain ⟨⟨⟩, -, hstatus⟩ := Except.bind_ok.mp hstatus
    split at hstatus
    · cases hstatus
    · exact .read drawn.1 drawn.2 _ List.mem_cons_self hstatus
  | search request =>
    exact orderWork_waits.mono (fun _ _ _ _ => trivial) (fun _ _ _ _ => learns_none rfl)
      fun _ _ _ _ => trivial
  | select request =>
    exact orderWork_waits.mono (fun _ _ _ _ => trivial) (fun _ _ _ _ => learns_none rfl)
      fun _ _ _ _ => trivial
  | init request =>
    exact orderWork_waits.mono (fun _ _ _ _ => trivial) (fun _ _ _ _ => learns_none rfl)
      fun _ _ _ _ => trivial

theorem transitHandler_learns (request : TransitRequest) :
    Handler.Journal (fun _ _ => True) (Learns request.operator request.work) (fun _ _ => True)
      (transitHandler h c request) jr := by
  cases request with
  | pass work => exact orderWork_learns
  | network key work =>
    cases work with
    | search request =>
      exact (transitHandler_waits _).mono (fun _ _ _ _ => trivial) (fun _ _ _ _ => learns_none rfl)
        fun _ _ _ _ => trivial
    | select request => exact @orderWork_learns c key.pass (.select request) jr
    | init request => exact @orderWork_learns c key.pass (.init request) jr
    | confirm request => exact @orderWork_learns c key.pass (.confirm request) jr
    | status context orderId refId =>
      exact @orderWork_learns c key.pass (.status context orderId refId) jr

theorem transitProvider_learns (request : TransitRequest) :
    ((transitProvider h c).handler request).Journal (fun _ _ => True)
      (fun result jr => ∀ answer, result = .ok answer →
        Learns request.operator request.work answer jr) [] := by
  refine Prog.Journal.mono (fun _ _ _ _ => trivial) ?_ (transitHandler_learns request)
  rintro (failure | answer) jr - hlearns answer' hsame
  · cases hsame
  · obtain rfl := Except.ok.inj hsame
    exact hlearns

end Handlers

/-! ## What a run keeps of it -/

/-- Everything handlers were told of confirms and of orders is so. -/
structure Told (h : TransitHost) (c : TransitConfig) (s : Hist TransitOp TransitResp TransitWorld) :
    Prop where
  reachable : Reachable h.hmac c.services s.world.state
  /-- a confirm is of the transaction it was asked for -/
  given : ∀ (task : ℕ) (operator : PassOperatorKey) (request : PaidRequest) (i : ℕ),
    (⟨task, .confirm operator request, i⟩ : Entry TransitOp TransitResp) ∈ s.trace →
      ∃ t, s.world.state.tasks[i]? = some t ∧ t.key = ⟨operator, request.identity⟩
  /-- its answer is final -/
  answered : ∀ (task i : ℕ) (outcome : Except Failure ConfirmedOrder),
    (⟨task, .answer i, outcome⟩ : Entry TransitOp TransitResp) ∈ s.trace →
      s.world.state.answerOf i = some outcome
  /-- an order that was stored still is -/
  read : ∀ (task : ℕ) (store : Store) (draws : Draws),
    (⟨task, .read, (store, draws)⟩ : Entry TransitOp TransitResp) ∈ s.trace →
      ∀ (id : String) (stored : StoredOrder), Js.mapGet store.orders id = some stored →
        s.world.state.store.Holds ⟨stored.operator, stored.identity⟩ stored.order

section Runs

variable {h : TransitHost} {c : TransitConfig} {w w' : TransitWorld} {pool : TransitPool} {i j : ℕ}
  {s : Hist TransitOp TransitResp TransitWorld} {clock : ClockTime} {key : TransactionKey}
  {order order' : ConfirmedOrder}
  {t t' : Interleave.Task TransitOp TransitResp TransitRequest (Except Failure TransitAnswer)}
  {allows : Hist TransitOp TransitResp TransitWorld → Interleave.Move TransitOp TransitRequest
    TransitEvent → Prop}

theorem TransitWorld.Moves.reachable (hmoves : w.Moves h c w')
    (hreach : Reachable h.hmac c.services w.state) : Reachable h.hmac c.services w'.state := by
  rcases hmoves with hsame | hstep
  · exact hsame ▸ hreach
  · exact hreach.tail hstep

/-- What handlers were told stays so. -/
theorem Told.moves (htold : Told h c s) (hmoves : s.world.Moves h c w) : Told h c ⟨w, s.trace⟩ := by
  refine ⟨hmoves.reachable htold.reachable, fun task operator request i he => ?_,
    fun task i outcome he => ?_, fun task store draws he id stored hstored => ?_⟩
  · obtain ⟨t, ht, hkey⟩ := htold.given task operator request i he
    rcases hmoves with hsame | ⟨m, hstep⟩
    · exact ⟨t, by rw [hsame]; exact ht, hkey⟩
    · obtain ⟨t', ht', honward⟩ := (step_does hstep).onward ht
      exact ⟨t', ht', honward.key.trans hkey⟩
  · have hanswer := htold.answered task i outcome he
    rcases hmoves with hsame | ⟨m, hstep⟩
    · exact hsame ▸ hanswer
    · exact (step_does hstep).answerOf hanswer
  · have hholds := htold.read task store draws he id stored hstored
    rcases hmoves with hsame | ⟨m, hstep⟩
    · exact hsame ▸ hholds
    · exact (step_does hstep).holds hholds

/-- **What handlers are told is so**, at every moment of every run. -/
theorem pool_told
    (hreach : Reach (transitProvider h c) allows ⟨⟨TransitWorld.initial clock, []⟩, []⟩ pool) :
    Told h c pool.hist := by
  refine Reach.invariant (Told h c) transitProvider_learns ?_ ?_ ?_ hreach
  · exact ⟨.refl, fun _ _ _ _ he => absurd he List.not_mem_nil,
      fun _ _ _ he => absurd he List.not_mem_nil, fun _ _ _ he => absurd he List.not_mem_nil⟩
  · rintro s s' task req op r htold - - ⟨o, w, hexec, rfl⟩
    have hkept := htold.moves (TransitWorld.moves_exec hexec)
    refine ⟨hkept.reachable, fun task' operator request i he => ?_, fun task' i outcome he => ?_,
      fun task' store draws he id stored hstored => ?_⟩
    · rcases List.mem_cons.mp he with heq | he
      · obtain ⟨rfl, rfl, hr⟩ := Entry.mk.inj heq
        obtain rfl := eq_of_heq hr
        exact exec_gives hexec
      · exact hkept.given task' operator request i he
    · rcases List.mem_cons.mp he with heq | he
      · obtain ⟨rfl, rfl, hr⟩ := Entry.mk.inj heq
        obtain rfl := eq_of_heq hr
        obtain ⟨outcome', hanswer, hsame⟩ := Option.map_eq_some_iff.mp hexec
        obtain ⟨rfl, rfl⟩ := Prod.mk.inj hsame
        exact hanswer
      · exact hkept.answered task' i outcome he
    · rcases List.mem_cons.mp he with heq | he
      · obtain ⟨rfl, rfl, hr⟩ := Entry.mk.inj heq
        obtain rfl := eq_of_heq hr
        obtain ⟨rfl, hsame⟩ := Prod.mk.inj (Option.some.inj hexec)
        obtain ⟨rfl, -⟩ := Prod.mk.inj hsame
        exact ((Reachable.kept htold.reachable).filed id stored hstored).1
      · exact hkept.read task' store draws he id stored hstored
  · rintro s e w htold - hhappen
    exact htold.moves (TransitWorld.moves_happen hhappen)

/-- **What was learned is stored.** -/
theorem Learned.holds (hlearned : Learned key order (own i s.trace)) (htold : Told h c s) :
    s.world.state.store.Holds key order := by
  cases hlearned with
  | confirmed request j hidentity hgiven hanswer =>
    obtain ⟨t, ht, hkey⟩ := htold.given i key.operator request j (mem_own.mp hgiven)
    obtain ⟨t', ht', hstage⟩ := answerOf_iff.mp (htold.answered i j _ (mem_own.mp hanswer))
    obtain rfl := Option.some.inj (ht.symm.trans ht')
    have hholds := (Reachable.kept htold.reachable).outcomes j t order ht (by rw [Task.outcome, hstage])
    rw [hkey, hidentity] at hholds
    exact hholds
  | read store draws orderId hread hget =>
    simp only [Store.get] at hget
    split at hget
    · cases hget
    · rename_i stored hstored
      split at hget
      · cases hget
      · rename_i hown
        obtain ⟨hoperator, hidentity⟩ := not_or.mp hown
        obtain rfl := Except.ok.inj hget
        have hholds := htold.read i store draws (mem_own.mp hread) orderId stored hstored
        rw [not_not.mp hoperator, not_not.mp hidentity] at hholds
        exact hholds

/-- What a task has answered is stored. -/
theorem answered_holds
    (hreach : Reach (transitProvider h c) allows ⟨⟨TransitWorld.initial clock, []⟩, []⟩ pool)
    (ht : pool.tasks[i]? = some t) (hkey : t.req.work.transaction t.req.operator = some key)
    (hanswer : pool.answer i = some (.ok (.confirmed order))) :
    pool.hist.world.state.store.Holds key order := by
  have hjournal := (hreach.journal transitProvider_learns).journal i t ht
  obtain ⟨req, rest⟩ := t
  rw [Config.answer, ht] at hanswer
  cases rest with
  | call op k => cases hanswer
  | ret result =>
    obtain rfl := Option.some.inj hanswer
    exact (hjournal _ rfl key order hkey rfl).holds (pool_told hreach)

/-- **One order for a transaction**: all requests of a transaction that are answered with a confirmed
order, at whatever moments and over whatever connections, are answered with the same one, and it is the
one that is stored. -/
theorem transit_orders_agree
    (hreach : Reach (transitProvider h c) allows ⟨⟨TransitWorld.initial clock, []⟩, []⟩ pool)
    (ht : pool.tasks[i]? = some t) (ht' : pool.tasks[j]? = some t')
    (hkey : t.req.work.transaction t.req.operator = some key)
    (hkey' : t'.req.work.transaction t'.req.operator = some key)
    (hanswer : pool.answer i = some (.ok (.confirmed order)))
    (hanswer' : pool.answer j = some (.ok (.confirmed order'))) :
    order = order' ∧ pool.hist.world.state.store.Holds key order := by
  have hholds := answered_holds hreach ht hkey hanswer
  have hholds' := answered_holds hreach ht' hkey' hanswer'
  have hid : order.id = order'.id := Option.some.inj (hholds.1.symm.trans hholds'.1)
  have hstored := hholds.2
  rw [hid, hholds'.2] at hstored
  obtain ⟨-, -, hsame⟩ := StoredOrder.mk.inj (Option.some.inj hstored)
  exact ⟨hsame.symm, hholds⟩

end Runs

namespace Specimen

/-- It is bought twice at once; the second confirm joins the first. -/
def twice : List (Errand TransitIncoming Outside TransitEvent) :=
  [.arrive purchase, .arrive purchase, .run 0 outside, .run 1 outside, .env (.encoded 0 (.ok qrEncoder)),
    .env (.conclude 0), .env (.resume 1), .run 1 outside, .run 0 outside]

/-- A busy morning at the desk. -/
def busyDay : ℕ → TransitOffice :=
  (⟨⟨⟨TransitWorld.initial morning, []⟩, []⟩, [], []⟩ : TransitOffice).course (transitProvider host config)
    (transitDesk host config) TransitWorld.clock (fun _ _ => true) twice

/-- The order that a task has answered, if it has answered one. -/
def answeredOrder (pool : TransitPool) (i : ℕ) : Option ConfirmedOrder :=
  match pool.answer i with
  | some (.ok (.confirmed order)) => some order
  | _ => none

theorem answer_of_answeredOrder {pool : TransitPool} {i : ℕ} {order : ConfirmedOrder}
    (hanswered : answeredOrder pool i = some order) :
    pool.answer i = some (.ok (.confirmed order)) := by
  rw [answeredOrder] at hanswered
  split at hanswered
  · rename_i hanswer
    rw [hanswer, Option.some.inj hanswered]
  · cases hanswered

end Specimen

theorem transit_orders_agree_specimen : ∃ order order',
    (Specimen.busyDay 9).pool.answer 0 = some (.ok (.confirmed order)) ∧
      (Specimen.busyDay 9).pool.answer 1 = some (.ok (.confirmed order')) ∧ order = order' := by
  have hkeys : ((Specimen.busyDay 9).pool.tasks.map fun t => t.req.work.transaction t.req.operator) =
      [some ⟨.bmtc, Specimen.identity "T1"⟩, some ⟨.bmtc, Specimen.identity "T1"⟩] := by
    decide +kernel
  have hanswered : (Specimen.answeredOrder (Specimen.busyDay 9).pool 0).isSome = true ∧
      (Specimen.answeredOrder (Specimen.busyDay 9).pool 1).isSome = true := by
    decide +kernel
  obtain ⟨order, horder⟩ := Option.isSome_iff_exists.mp hanswered.1
  obtain ⟨order', horder'⟩ := Option.isSome_iff_exists.mp hanswered.2
  have hendless : EndlessOffice (transitProvider Specimen.host Specimen.config)
      (transitDesk Specimen.host Specimen.config) TransitWorld.clock (fun _ _ => true = true)
      Specimen.busyDay := Office.course_endless
  have hreach : OfficeReach (transitProvider Specimen.host Specimen.config)
      (transitDesk Specimen.host Specimen.config) TransitWorld.clock (fun _ _ => true = true)
      (TransitWorld.initial Specimen.morning) (Specimen.busyDay 9) := hendless.reach .refl
  have hfirst := congrArg (fun keys => keys[0]?) hkeys
  have hsecond := congrArg (fun keys => keys[1]?) hkeys
  simp only [List.getElem?_map, Option.map_eq_some_iff, List.getElem?_cons_zero,
    List.getElem?_cons_succ] at hfirst hsecond
  obtain ⟨t, ht, hkey⟩ := hfirst
  obtain ⟨t', ht', hkey'⟩ := hsecond
  have hanswer := Specimen.answer_of_answeredOrder horder
  have hanswer' := Specimen.answer_of_answeredOrder horder'
  exact ⟨order, order', hanswer, hanswer',
    (transit_orders_agree hreach.pool ht ht' hkey hkey' hanswer hanswer').1⟩

end TransitBpp.Trv11
