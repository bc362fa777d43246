import TransitBpp.StoredRefunds

/-!
# What a booking charged and what comes back

A confirm writes the full fare, fee and toll of each seat, and the order it answers is quoted less
what a concession takes off the fare. The two agree exactly where the concession takes nothing off,
and then no booking is ever refunded more than its quote without the fees: `Charged` is what stays
true of its row and its seats whatever is done to it, and each seat comes back with at most its fare
and toll.
-/

namespace TransitBpp

open Interleave Js

variable {d : Deployment} {req : Request} {db db' : ReservedDb} {t : Transaction} {raw : String}
variable {bookingId : String} {params : ConfirmBooking}

/-! ## What a concession takes off -/

/-- The concession an order claims takes nothing off a base fare: none is claimed, or the rate
published for it takes less than half a paisa off. -/
def TakesNothingOff (tags : Option (List BuyerTag)) (serviceClass : ServiceClass)
    (basePaise : ℤ) : Prop :=
  ∀ claim percent, concessionFromOrderTags tags = some claim → claim ≠ "" →
    concessionRatePercent claim serviceClass = .ok percent → basePaise * percent < 50

/-- A discount is nothing exactly where the concession takes nothing off. -/
theorem discount_eq_zero {input : BuildOrder} {tags : Option (List BuyerTag)} {discount : ℤ}
    (hclaim : input.concessionClaim = concessionFromOrderTags tags) (hbase : 0 ≤ input.basePaise)
    (h : input.discountPaise = .ok discount) :
    discount = 0 ↔ TakesNothingOff tags input.resolved.service.serviceClass input.basePaise := by
  have hnamed : ∀ claim, input.claim? = some claim ↔
      concessionFromOrderTags tags = some claim ∧ claim ≠ "" := by
    intro claim
    rw [BuildOrder.claim?, hclaim, Option.filter_eq_some_iff, decide_eq_true_eq]
  rw [BuildOrder.discountPaise] at h
  split at h
  · rename_i hnone
    obtain rfl := Except.ok.inj h
    refine ⟨fun _ claim percent hfound hblank => ?_, fun _ => rfl⟩
    rw [(hnamed claim).mpr ⟨hfound, hblank⟩] at hnone
    cases hnone
  · rename_i claim hsome
    obtain ⟨percent, hpercent, h⟩ := Except.bind_ok.mp h
    obtain rfl := Except.ok.inj h
    obtain ⟨hfound, hblank⟩ := (hnamed claim).mp hsome
    rw [concessionDiscountPaise_eq_zero hbase (concessionRatePercent_nonneg hpercent)]
    constructor
    · intro hless claim' percent' hfound' _ hpercent'
      obtain rfl := Option.some.inj (hfound.symm.trans hfound')
      obtain rfl := Except.ok.inj (hpercent.symm.trans hpercent')
      exact hless
    · intro hnothing
      exact hnothing claim percent hfound hblank hpercent

/-! ## What stays true of a booking -/

/-- A booking goes on being charged what it was made with. -/
structure Charged (params : ConfirmBooking) (db : ReservedDb) : Prop where
  /-- its row says so -/
  row : ∃ row ∈ db.bookings.rows, row.id = params.orderId ∧ row.basePaise = params.row.basePaise ∧
    row.reservationFeePaise = params.row.reservationFeePaise ∧ row.tollPaise = params.row.tollPaise
  /-- its tolls are those of its seats -/
  toll : db.total BookingSeatRow.tollPaise params.orderId = params.row.tollPaise
  /-- which have no negative fare or toll -/
  seats : ∀ seat ∈ db.bookingSeats.rows, seat.bookingId = params.orderId →
    0 ≤ seat.basePaise ∧ 0 ≤ seat.tollPaise

/-- The step lemma. -/
theorem Charged.step (h : Charged params db) {a : t.Answer} (hrun : t.run raw db = .ok (a, db')) :
    Charged params db' := by
  obtain ⟨row, hrow, hid, hbase, hfee, htoll⟩ := h.row
  have hnew : ∀ seat ∈ t.newSeats, seat.bookingId ≠ params.orderId := hid ▸ newSeats_fresh hrun hrow
  obtain ⟨k, new, hmoved⟩ := Transaction.bookings_moved hrun
  refine ⟨⟨k row, ?_, ?_⟩, ?_, ?_⟩
  · rw [hmoved.rows]
    exact List.mem_append_left _ (List.mem_map_of_mem hrow)
  · rw [(hmoved.moves row).same.eq]
    exact ⟨hid, hbase, hfee, htoll⟩
  · rw [← h.toll]
    exact total_step hrun (fun seat _ seat' hmove _ => by rw [hmove.same.eq]) hnew
  · intro seat' hseat' hb
    rcases seat_after hrun hseat' with ⟨seat, hseat, hmove⟩ | hfresh
    · rw [hmove.same.eq]
      exact h.seats seat hseat (hmove.bookingId.symm.trans hb)
    · exact absurd hb (hnew seat' hfresh)

/-- **What comes back of a booking** is at most its fares and tolls. -/
theorem Charged.refund_le (h : Charged params db) (hsettled : Settled db) {row : BookingRow}
    (hrow : row ∈ db.bookings.rows) (hid : row.id = params.orderId) :
    row.refundPaise.getD 0 ≤ params.row.basePaise + params.row.tollPaise := by
  obtain ⟨row', hrow', hid', hbase, -⟩ := h.row
  obtain rfl := db.booking_unique hrow hrow' (hid.trans hid'.symm)
  rw [hsettled.refund row hrow, ← hbase, hsettled.base row hrow, ← h.toll, ← hid, ← total_add]
  refine List.sum_le_sum fun seat hseat => ?_
  obtain ⟨hmem, hb⟩ := List.mem_filter.mp hseat
  have hb : seat.bookingId = row.id := of_decide_eq_true hb
  obtain ⟨hfare, htoll⟩ := h.seats seat hmem (hb.trans hid)
  cases hs : seat.status with
  | confirmed =>
    rw [hsettled.nothing seat hmem hs, Option.getD_none]
    exact add_nonneg hfare htoll
  | cancelled =>
    obtain ⟨at_, -, hrefund⟩ := hsettled.bySlab seat hmem hs row hrow hb.symm
    have hkept := keptPaise_bounds (slabFor_percent row.departureAt at_) hfare
    rw [hrefund, Option.getD_some, RefundableSeat.refundPaise]
    exact add_le_add hkept.2 le_rfl

/-! ## What the answers pay -/

/-- What an answer pays. -/
def paidBy : Except Failure Answer → ℤ
  | .ok (.order _ (some refund) _) => refund.price.paise
  | _ => 0

/-- What a commitment adds to the refunds is not negative. -/
theorem amountsOf_refund_nonneg {booking : BookingRecord} {live : List BookingSeatRow} {nowMs : ℤ}
    (hlive : ∀ seat ∈ live, 0 ≤ seat.basePaise ∧ 0 ≤ seat.tollPaise) :
    0 ≤ (amountsOf booking live nowMs).refund := by
  have hrefund : (amountsOf booking live nowMs).refund = (refundFor booking live nowMs).refundPaise :=
    rfl
  rw [hrefund, refundFor, computeRefund_refundPaise]
  refine List.sum_nonneg fun paise hpaise => ?_
  obtain ⟨refundable, hrefundable, rfl⟩ := List.mem_map.mp hpaise
  obtain ⟨seat, hseat, rfl⟩ := List.mem_map.mp hrefundable
  obtain ⟨hfare, htoll⟩ := hlive seat hseat
  have hkept := keptPaise_bounds (slabFor_percent booking.departureAt nowMs) hfare
  exact add_nonneg hkept.1 htoll

/-- What a commitment that went through pays is at most what it adds. -/
theorem paidBy_commitmentAnswer {booking : BookingRecord} {live : List BookingSeatRow} {nowMs : ℤ}
    {quote : RefundQuoteRecord} {order : Order}
    (hnonneg : 0 ≤ (amountsOf booking live nowMs).refund) :
    paidBy (commitmentAnswer booking live nowMs quote order) ≤
      (amountsOf booking live nowMs).refund := by
  cases hanswer : commitmentAnswer booking live nowMs quote order with
  | error e => exact hnonneg
  | ok answer =>
    obtain ⟨refund, tag, rfl, hpayload⟩ := commitmentAnswer_ok hanswer
    exact (paise_of_refundPayload hpayload).le

/-- A booking goes on being charged what it was made with, in every run. -/
theorem Charged.reach {allows : History → Act? → Prop} {c c' : Pool}
    (h : Reach (provider d) allows c c') (hcharged : Charged params c.hist.world.db) :
    Charged params c'.hist.world.db :=
  Reach.db_keeps (fun hrun hkept => hkept.step hrun) h hcharged

/-- **The run lemma**: the answers pay at most what the cancelled seats add up to; the induction is
on the cancellations. -/
theorem Cancellations.paidBy_le {c₀ c : Pool} {results : List (Except Failure Answer)}
    (h : Cancellations d (Uncontested params.orderId) params.orderId c₀ results c)
    (hcharged : Charged params c₀.hist.world.db)
    (hnone : c₀.hist.world.db.cancelledIds params.orderId = []) :
    (results.map paidBy).sum ≤
      c.hist.world.db.total (cancelledOnly refundedPaise) params.orderId := by
  induction h with
  | start => exact (cancelledTotal_of_none hnone refundedPaise).ge
  | @between results c c' hchain hreach ih =>
    have hkept := Reach.db_keeps_of (K := fun db => Charged params db ∧ (results.map paidBy).sum ≤
        db.total (cancelledOnly refundedPaise) params.orderId) (fun hallow hrun hkept => by
      obtain ⟨row, hrow, hid, -⟩ := hkept.1.row
      refine ⟨hkept.1.step hrun, hkept.2.trans_eq (cancelledTotal_other ?_ hrun ⟨row, hrow, hid⟩
        fun _ => rfl).symm⟩
      rintro params rfl
      exact hallow) hreach ⟨hcharged.reach hchain.reach, ih⟩
    exact hkept.2
  | again _ htargets _ hnone hserved ih =>
    rw [(settled_of_served htargets hnone hserved).1]
    exact ih
  | @commit results c req booking target tags result s hchain htargets hid hlive hserved ih =>
    obtain ⟨nowMs, -, -, -, hend⟩ := commitment_of_served htargets hlive hserved
    rw [List.map_append, List.sum_append, List.map_singleton, List.sum_singleton]
    cases hend with
    | refused _ _ hseats _ =>
      have hsame : s.world.db.total (cancelledOnly refundedPaise) params.orderId =
          c.hist.world.db.total (cancelledOnly refundedPaise) params.orderId := by
        rw [ReservedDb.total, ReservedDb.total, hseats]
      rw [hsame]
      exact (add_zero _).le.trans ih
    | @applied quote row db₁ _ _ _ hcancelled _ hstored =>
      have hadds := congrArg RefundAmounts.refund
        (amounts_applied hcancelled htargets.nodup htargets.confirmed)
      simp only [ReservedDb.amounts, RefundAmounts.sum, List.map_cons, List.map_nil, List.sum_cons,
        List.sum_nil, add_zero, hid] at hadds
      have hsame : s.world.db.total (cancelledOnly refundedPaise) params.orderId =
          db₁.total (cancelledOnly refundedPaise) params.orderId := by
        rw [ReservedDb.total, ReservedDb.total, hstored.seats]
      rw [hsame, hadds]
      refine add_le_add ih (paidBy_commitmentAnswer (amountsOf_refund_nonneg fun seat hseat => ?_))
      obtain ⟨hmem, hb, -⟩ := htargets.confirmed seat hseat
      exact (hcharged.reach hchain.reach).seats seat hmem (hb.trans hid)

/-! ## From the confirm on -/

/-- What a quote charges. -/
theorem paise_of_quote {input : BuildOrder} {quote : Quote} (h : input.quote = .ok quote) :
    ∃ discount, input.discountPaise = .ok discount ∧
      quote.price.paise = input.basePaise - discount + input.feePaise + input.tollPaise ∧
        0 ≤ input.basePaise ∧ 0 ≤ input.feePaise ∧ 0 ≤ input.tollPaise := by
  obtain ⟨discount, hdiscount, h⟩ := Except.bind_ok.mp h
  obtain ⟨base, hbase, h⟩ := Except.bind_ok.mp h
  obtain ⟨concession, -, h⟩ := Except.bind_ok.mp h
  obtain ⟨fee, hfee, h⟩ := Except.bind_ok.mp h
  obtain ⟨toll, htoll, h⟩ := Except.bind_ok.mp h
  obtain ⟨total, htotal, h⟩ := Except.bind_ok.mp h
  obtain rfl := Except.ok.inj h
  exact ⟨discount, hdiscount, paise_of_price htotal, (price_isOk.mp ⟨base, hbase⟩).1,
    (price_isOk.mp ⟨fee, hfee⟩).1, (price_isOk.mp ⟨toll, htoll⟩).1⟩

/-- The amounts a confirm writes are those it was quoted from, less no concession. -/
theorem ConfirmRun.amounts {jr : Journal} (run : ConfirmRun d req jr) :
    ∃ discount, run.params.order.quote.price.paise = run.params.row.basePaise - discount +
        run.params.row.reservationFeePaise + run.params.row.tollPaise ∧
      (discount = 0 ↔ TakesNothingOff run.input.tags run.params.serviceClass
        run.params.row.basePaise) ∧
      ∀ seat ∈ run.params.seatRows, 0 ≤ seat.basePaise ∧ 0 ≤ seat.tollPaise := by
  obtain ⟨discount, hdiscount, hprice, hbase, -, htoll⟩ :=
    paise_of_quote (renderOrder_ok run.render).quote
  -- every seat is written the same fare, fee and toll
  have hsum : ∀ (amount : NewSeat → ℤ) (paise : ℤ), (∀ seat ∈ run.params.seats, amount seat = paise) →
      (run.params.seats.map amount).sum = paise * run.records.length := by
    intro amount paise hall
    rw [List.map_congr_left hall, List.map_const', List.sum_replicate, nsmul_eq_mul, mul_comm,
      ConfirmRun.params, newBooking, List.length_map]
  have hrowBase : run.params.row.basePaise = run.cell.farePaise * run.records.length :=
    hsum _ _ fun seat hseat => by obtain ⟨record, -, rfl⟩ := List.mem_map.mp hseat; rfl
  have hrowFee : run.params.row.reservationFeePaise =
      run.resolved.service.reservationFeePaise * run.records.length :=
    hsum _ _ fun seat hseat => by obtain ⟨record, -, rfl⟩ := List.mem_map.mp hseat; rfl
  have hrowToll : run.params.row.tollPaise =
      run.resolved.service.tollPaise * run.records.length :=
    hsum _ _ fun seat hseat => by obtain ⟨record, -, rfl⟩ := List.mem_map.mp hseat; rfl
  refine ⟨discount, ?_, ?_, fun seat hseat => ?_⟩
  · rw [hrowBase, hrowFee, hrowToll]
    exact hprice
  · rw [hrowBase]
    have hiff := @discount_eq_zero _ run.input.tags _ rfl hbase hdiscount
    exact hiff
  · obtain ⟨new, hnew, rfl⟩ := List.mem_map.mp hseat
    obtain ⟨record, hrecord, rfl⟩ := List.mem_map.mp hnew
    have hcount : (0 : ℤ) < run.records.length := by
      exact_mod_cast List.length_pos_of_mem hrecord
    exact ⟨nonneg_of_mul_nonneg_left hbase hcount, nonneg_of_mul_nonneg_left htoll hcount⟩

/-- A booking that has just been made is charged what it was made with. -/
theorem Charged.made (hlinked : Linked db) (hmade : HoldBooked params db db')
    (hseats : ∀ seat ∈ params.seatRows, 0 ≤ seat.basePaise ∧ 0 ≤ seat.tollPaise) :
    Charged params db' := by
  refine ⟨⟨params.row, ?_, rfl, rfl, rfl, rfl⟩, ?_, fun seat hseat hb => ?_⟩
  · rw [hmade.bookings]
    exact List.mem_append_right _ (List.mem_singleton_self _)
  · rw [total_new hlinked hmade, ConfirmBooking.seatRows, List.map_map]
    rfl
  · rw [hmade.seats] at hseat
    rcases List.mem_append.mp hseat with hold | hnew
    · obtain ⟨row, hrow, hid⟩ := hlinked.seated seat hold
      exact absurd (hid.trans hb) (hmade.fresh row hrow)
    · exact hseats seat hnew

/-- A booking is within its quote: the amounts stored on it are the total of the quote, and what was
refunded on it is at most that total without the fees. -/
def WithinQuote (params : ConfirmBooking) (db : ReservedDb) : Prop :=
  ∃ row ∈ db.bookings.rows, row.id = params.orderId ∧
    row.basePaise + row.reservationFeePaise + row.tollPaise = params.order.quote.price.paise ∧
      row.refundPaise.getD 0 ≤ params.order.quote.price.paise - row.reservationFeePaise

/-- **A booking is never refunded more than it was charged, exactly if its concession takes nothing
off.** From the confirm on, whatever else is done: the amounts stored on the booking are the total
of the quote in its order; and what was refunded on it, and what its cancellations one after another
answered, is at most that total without the fees. -/
theorem refunds_within_quote_iff {clock : ℤ} {source : Source} {c₀ : Pool}
    (h : Reach (provider d) (fun _ _ => True) ⟨⟨World.initial clock source, []⟩, []⟩ c₀) {i : ℕ}
    (hbooked : c₀.hist.trace.head? = some ⟨i, .transaction (.confirmBooking params), .ok ()⟩)
    {p : Prog Op Resp (Except Failure Answer)} (htask : c₀.tasks[i]? = some ⟨req, p⟩)
    {context : ReservedContext} {input : OrderInput} (haction : req.action = .confirm context input) :
    ((∀ c, Reach (provider d) (fun _ _ => True) c₀ c → WithinQuote params c.hist.world.db) ∧
      ∀ results c, Cancellations d (Uncontested params.orderId) params.orderId c₀ results c →
        (results.map paidBy).sum ≤
          params.order.quote.price.paise - params.row.reservationFeePaise) ↔
      TakesNothingOff input.tags params.serviceClass params.row.basePaise := by
  obtain ⟨req', p', htask', s, run, rfl, hbase, -, hrun⟩ := committed_of_head h hbooked
  obtain ⟨rfl, -⟩ := Task.mk.inj (Option.some.inj (htask.symm.trans htask'))
  obtain ⟨rfl, rfl⟩ := Action.confirm.inj (haction.symm.trans run.action)
  obtain ⟨discount, hquote, hzero, hseats⟩ := run.amounts
  have hcharged : Charged run.params c₀.hist.world.db :=
    .made hbase.store.linked (confirmBooking_ok hrun) hseats
  obtain ⟨records, passengers, hmade⟩ := booked_of_head h hbooked
  have hnone := hmade.none
  rw [← hzero]
  constructor
  · rintro ⟨hwithin, -⟩
    obtain ⟨row, hrow, hid, hcharge, -⟩ := hwithin c₀ .refl
    obtain ⟨row', hrow', hid', hrowBase, hrowFee, hrowToll⟩ := hcharged.row
    obtain rfl := c₀.hist.world.db.booking_unique hrow hrow' (hid.trans hid'.symm)
    rw [hrowBase, hrowFee, hrowToll, hquote] at hcharge
    omega
  · rintro rfl
    have hrefund : ∀ {c}, Reach (provider d) (fun _ _ => True) c₀ c →
        ∃ row ∈ c.hist.world.db.bookings.rows, row.id = run.params.orderId ∧
          row.basePaise = run.params.row.basePaise ∧
          row.reservationFeePaise = run.params.row.reservationFeePaise ∧
          row.tollPaise = run.params.row.tollPaise ∧
          row.refundPaise.getD 0 =
            c.hist.world.db.total (cancelledOnly refundedPaise) run.params.orderId ∧
          row.refundPaise.getD 0 ≤ run.params.row.basePaise + run.params.row.tollPaise := by
      intro c hc
      have hsettled := (settled_of_reach (h.trans hc)).2
      obtain ⟨row, hrow, hid, hrowBase, hrowFee, hrowToll⟩ := (hcharged.reach hc).row
      refine ⟨row, hrow, hid, hrowBase, hrowFee, hrowToll, ?_,
        (hcharged.reach hc).refund_le hsettled hrow hid⟩
      rw [hsettled.refund row hrow, hid, refundTotal_eq hsettled]
    refine ⟨fun c hc => ?_, fun results c hchain => ?_⟩
    · obtain ⟨row, hrow, hid, hrowBase, hrowFee, hrowToll, -, hle⟩ := hrefund hc
      refine ⟨row, hrow, hid, ?_, ?_⟩ <;> rw [hquote] <;> omega
    · obtain ⟨row, -, -, -, -, -, htotal, hle⟩ := hrefund hchain.reach
      have hpaid := hchain.paidBy_le hcharged hnone
      omega

/-! ### Specimens -/

/-- Buy both seats up to the commit of the confirm, which is task 1. -/
def specimenBooking (tags : List BuyerTag) : List (Event Request Choice Happening) :=
  [.start (specimenSelect "T1" ["1", "2"])] ++ steps 0 12 "a1" ++
    [.start (specimenConfirm 0 "T1" [("1", "A", "female"), ("2", "B", "male")] tags)] ++
      steps 1 16 "b1"

/-- The group of tags that claims free travel. -/
def freeTravel : BuyerTag := ⟨some "CONCESSION", some [⟨some "CLASS", some "SHAKTI"⟩]⟩

/-- The order of a task that confirms. -/
def inputOf (c : Pool) (i : ℕ) : Option OrderInput :=
  c.tasks[i]?.bind fun task => match task.req.action with
    | .confirm _ input => some input
    | _ => none

theorem task_of_inputOf {c : Pool} {i : ℕ} {input : OrderInput} (h : inputOf c i = some input) :
    ∃ req p context, c.tasks[i]? = some ⟨req, p⟩ ∧ req.action = .confirm context input := by
  obtain ⟨task, htask, hinput⟩ := Option.bind_eq_some_iff.mp h
  split at hinput
  · rename_i context input' haction
    obtain rfl := Option.some.inj hinput
    exact ⟨task.req, task.rest, context, htask, haction⟩
  · cases hinput

/-- Two seats sold at their full fare. -/
theorem refunds_within_quote_iff_specimen : ∃ (c₀ : Pool) (params : ConfirmBooking),
    Reach (provider specimenDeployment) (fun _ _ => True) specimenStart c₀ ∧
    params.order.quote.price.paise = 23000 ∧
    ∀ c, Reach (provider specimenDeployment) (fun _ _ => True) c₀ c →
      WithinQuote params c.hist.world.db := by
  have hrun : (specimenStart.follow (provider specimenDeployment) (fun _ _ => true)
      (specimenBooking [])).bind (fun c₀ => (c₀.hist.trace.head?.bind bookingMade).bind fun params =>
        (inputOf c₀ 1).map fun input => (params.order.quote.price.paise,
          c₀.hist.trace.head?.map Entry.task, concessionFromOrderTags input.tags)) =
      some (23000, some 1, none) := by
    decide +kernel
  obtain ⟨c₀, hfollow, hrest⟩ := Option.bind_eq_some_iff.mp hrun
  obtain ⟨params, hmade, hrest⟩ := Option.bind_eq_some_iff.mp hrest
  obtain ⟨input, hinput, hfacts⟩ := Option.map_eq_some_iff.mp hrest
  simp only [Prod.mk.injEq] at hfacts
  obtain ⟨hquote, htaskId, hnone⟩ := hfacts
  have hreach : Reach (provider specimenDeployment) (fun _ _ => True) specimenStart c₀ :=
    (Config.follow_reach .refl hfollow).mono fun _ _ _ => trivial
  obtain ⟨i, hhead⟩ := head_of_bookingMade hmade
  rw [hhead] at htaskId
  obtain rfl := Option.some.inj htaskId
  obtain ⟨req, p, context, htask, haction⟩ := task_of_inputOf hinput
  refine ⟨c₀, params, hreach, hquote, ((refunds_within_quote_iff hreach hhead htask haction).mpr ?_).1⟩
  intro claim percent hclaim
  rw [hnone] at hclaim
  cases hclaim

/-- Travelling free, a buyer pays 30 rupees for two seats, and gets 160 back. -/
theorem free_travel_refunded : ∃ (c₀ c : Pool) (params : ConfirmBooking) (i : ℕ)
    (results : List (Except Failure Answer)),
    Reach (provider specimenDeployment) (fun _ _ => True) specimenStart c₀ ∧
    c₀.hist.trace.head? = some ⟨i, .transaction (.confirmBooking params), .ok ()⟩ ∧
    Cancellations specimenDeployment (Uncontested params.orderId) params.orderId c₀ results c ∧
    params.order.quote.price.paise = 3000 ∧ (results.map paidBy).sum = 16000 ∧
    ¬ WithinQuote params c₀.hist.world.db ∧
    ¬ (results.map paidBy).sum ≤
      params.order.quote.price.paise - params.row.reservationFeePaise := by
  have hrun : (specimenStart.follow (provider specimenDeployment) (fun _ _ => true)
      (specimenBooking [freeTravel])).bind (fun c₀ =>
        (c₀.hist.trace.head?.bind bookingMade).bind fun params =>
          (c₀.follow (provider specimenDeployment) (fun _ m => leavesSeats specimenOrderId m)
            (steps 1 5 "b1" ++ specimenQuote ["1", "2"])).bind fun c₁ =>
              (commitAlone c₁ ["1", "2"] "RFQ-KSRTC-Q1").map fun p =>
                decide ((params.orderId, params.order.quote.price.paise,
                    params.row.reservationFeePaise) = (specimenOrderId, 3000, 2000)) &&
                decide ((c₀.hist.world.db.bookings.rows.map fun row =>
                  row.basePaise + row.reservationFeePaise + row.tollPaise) = [23000]) &&
                decide (refundAnswered p.1 = some 16000) &&
                decide (specimenTarget c₁.hist.world.db ["1", "2"] "RFQ-KSRTC-Q1" =
                  some (specimenOrderId, 2))) = some true := by
    decide +kernel
  obtain ⟨c₀, hfollow, hrest⟩ := Option.bind_eq_some_iff.mp hrun
  obtain ⟨params, hmade, hrest⟩ := Option.bind_eq_some_iff.mp hrest
  obtain ⟨c₁, hbetween, hrest⟩ := Option.bind_eq_some_iff.mp hrest
  obtain ⟨⟨result, s⟩, hcommit, hfacts⟩ := Option.map_eq_some_iff.mp hrest
  simp only [Bool.and_eq_true, decide_eq_true_eq, Prod.mk.injEq] at hfacts
  obtain ⟨⟨⟨⟨hid, hquote, hfee⟩, hcharges⟩, hpaid⟩, htarget⟩ := hfacts
  have hreach : Reach (provider specimenDeployment) (fun _ _ => True) specimenStart c₀ :=
    (Config.follow_reach .refl hfollow).mono fun _ _ _ => trivial
  obtain ⟨i, hhead⟩ := head_of_bookingMade hmade
  obtain ⟨order, refund, tags, rfl, hpaise⟩ := of_refundAnswered hpaid
  obtain ⟨booking, target, htargets, hbooking, hlive⟩ := targets_of_specimen (n := 1) htarget
  have hchain : Cancellations specimenDeployment (Uncontested specimenOrderId) specimenOrderId c₀
      [_] _ := .commit (.between .start ((Config.follow_reach .refl hbetween).mono
        fun _ _ => uncontested_of_leavesSeats)) htargets hbooking hlive (runAlone_alone hcommit)
  have hsum : ([Except.ok (Answer.order order (some refund) tags)].map paidBy).sum = 16000 := by
    rw [List.map_singleton, List.sum_singleton, paidBy, hpaise]
  refine ⟨c₀, _, params, i, _, hreach, hhead, hid ▸ hchain, hquote, hsum, ?_, by omega⟩
  rintro ⟨row, hrow, -, hcharge, -⟩
  have hmem := List.mem_map_of_mem
    (f := fun row : BookingRow => row.basePaise + row.reservationFeePaise + row.tollPaise) hrow
  rw [hcharges, List.mem_singleton] at hmem
  omega

end TransitBpp
