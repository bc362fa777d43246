import TransitBpp.Cancelling
import TransitBpp.Retries

/-!
# The stored refund is what was paid

Commitments are answered with refunds computed forward, each under the slab of its own instant;
a status is answered from what the booking's row and its cancelled seats add up to. Served one
after another the two agree: what the cancelled seats add up to grows, with each commitment, by
what its answer prints.
-/

namespace TransitBpp

open Interleave Js

variable {d : Deployment} {req : Request} {db db' : ReservedDb} {t : Transaction} {raw : String}
variable {bookingId : String}

/-! ## Sums of refunds -/

/-- Three amounts added up. -/
def RefundAmounts.sum (amounts : List RefundAmounts) : RefundAmounts where
  refund := (amounts.map RefundAmounts.refund).sum
  base := (amounts.map RefundAmounts.base).sum
  toll := (amounts.map RefundAmounts.toll).sum

/-- What the lines of a code come to. -/
def Quote.line (quote : Quote) (code : String) : ℤ :=
  ((quote.breakup.filter fun line => line.code = code).map fun line => line.price.paise).sum

/-- The line of each code in a refund that was printed. -/
def RefundAmounts.line (amounts : RefundAmounts) (code : String) : ℤ :=
  (if code = "BASE_FARE" then amounts.base else 0) +
    (if code = "SLAB_DEDUCTION" then -(amounts.base + amounts.toll - amounts.refund) else 0) +
      if code = "TOLL_REFUND" then amounts.toll else 0

theorem code_of_refundLine {code title : String} {paise : ℤ} {line : PriceLine}
    (h : refundLine code title paise = .ok line) : line.code = code := by
  obtain ⟨price, -, hline⟩ := Except.bind_ok.mp h
  obtain rfl := Except.ok.inj hline
  rfl

/-- A refund that was printed, by its codes. -/
theorem RefundAmounts.line_of_print {amounts : RefundAmounts} {refund : Quote}
    (h : amounts.print = .ok refund) (code : String) :
    refund.price.paise = amounts.refund ∧ refund.line code = amounts.line code ∧
      refund.breakup.map PriceLine.code =
        ["BASE_FARE", "SLAB_DEDUCTION", "RESERVATION_FEE", "TOLL_REFUND"] := by
  obtain ⟨total, htotal, h⟩ := Except.bind_ok.mp h
  obtain ⟨base, hbase, h⟩ := Except.bind_ok.mp h
  obtain ⟨deduction, hdeduction, h⟩ := Except.bind_ok.mp h
  obtain ⟨fee, hfee, h⟩ := Except.bind_ok.mp h
  obtain ⟨toll, htoll, h⟩ := Except.bind_ok.mp h
  obtain rfl := Except.ok.inj h
  refine ⟨paise_of_signedPrice htotal, ?_, ?_⟩
  · have hlines : ∀ lines : List PriceLine, ((lines.filter fun line => line.code = code).map
        fun line => line.price.paise).sum =
          (lines.map fun line => if line.code = code then line.price.paise else 0).sum := by
      intro lines
      induction lines with
      | nil => rfl
      | cons line lines ih => by_cases hline : line.code = code <;> simp [hline, ih]
    rw [Quote.line, hlines]
    simp only [List.map_cons, List.map_nil, List.sum_cons, List.sum_nil, code_of_refundLine hbase,
      code_of_refundLine hdeduction, code_of_refundLine hfee, code_of_refundLine htoll,
      paise_of_refundLine hbase, paise_of_refundLine hdeduction, paise_of_refundLine hfee,
      paise_of_refundLine htoll, ite_self, RefundAmounts.line, eq_comm]
    omega
  · simp only [List.map_cons, List.map_nil, code_of_refundLine hbase,
      code_of_refundLine hdeduction, code_of_refundLine hfee, code_of_refundLine htoll]

theorem RefundAmounts.sum_concat (amounts : List RefundAmounts) (a : RefundAmounts) :
    sum (amounts ++ [a]) = sum [sum amounts, a] := by
  simp [sum]

theorem RefundAmounts.line_sum (amounts : List RefundAmounts) (code : String) :
    (sum amounts).line code = (amounts.map fun a => a.line code).sum := by
  induction amounts with
  | nil => simp [sum, line]
  | cons a amounts ih =>
    rw [List.map_cons, List.sum_cons, ← ih]
    simp only [sum, line, List.map_cons, List.sum_cons]
    split_ifs <;> omega

/-! ## What a commitment adds -/

/-- The amounts an answer prints, where it is one. -/
def Prints (result : Except Failure Answer) (amounts : RefundAmounts) : Prop :=
  ∀ order refund tags, result = .ok (.order order (some refund) tags) → amounts.print = .ok refund

/-- A total after a cancellation. -/
theorem SeatsCancelled.total {params : ApplyCancellation} (h : SeatsCancelled params db db')
    (amount : BookingSeatRow → ℤ) (bookingId : String) : db'.total amount bookingId =
      db.total (fun seat => amount (cancelSeats params params.seatIds seat)) bookingId := by
  have hsame : ((fun seat : BookingSeatRow => decide (seat.bookingId = bookingId)) ∘
      cancelSeats params params.seatIds) = fun seat => decide (seat.bookingId = bookingId) := by
    funext seat
    rw [Function.comp_apply, (sameSeat_cancelSeats params params.seatIds seat).bookingId]
  rw [ReservedDb.total, h.seats, List.filter_map, hsame, List.map_map]
  rfl

/-- **What a commitment adds** to its booking's cancelled seats is what its answer prints. -/
theorem amounts_applied {booking : BookingRecord} {live : List BookingSeatRow} {nowMs : ℤ}
    (hcancelled : SeatsCancelled (cancellationOf booking live nowMs) db db')
    (hnodup : (live.map BookingSeatRow.seatId).Nodup)
    (hlive : ∀ seat ∈ live, seat ∈ db.bookingSeats.rows ∧ seat.bookingId = booking.id ∧
      seat.status = .confirmed) :
    db'.amounts booking.id cancelledOnly =
      .sum [db.amounts booking.id cancelledOnly, amountsOf booking live nowMs] := by
  have haccounted := accounted_applied hcancelled hnodup hlive
  have hadds : ∀ amount : BookingSeatRow → ℤ, db'.total (cancelledOnly amount) booking.id =
      db.total (cancelledOnly amount) booking.id +
        db'.total (only (live.map BookingSeatRow.seatId) amount) booking.id := by
    intro amount
    rw [hcancelled.total, hcancelled.total, ← total_add]
    refine total_congr fun seat hseat hb => ?_
    have hsame := sameSeat_cancelSeats (cancellationOf booking live nowMs)
      (cancellationOf booking live nowMs).seatIds seat
    by_cases hid : seat.seatId ∈ live.map BookingSeatRow.seatId
    · -- a seat it means was confirmed, and is cancelled now
      obtain ⟨found, hfound, hfoundId⟩ := List.mem_map.mp hid
      obtain ⟨hstored, hb', hconfirmed⟩ := hlive found hfound
      obtain rfl := seat_unique hstored hseat (hb'.trans hb.symm) hfoundId
      have hgone : (cancelSeats (cancellationOf booking live nowMs)
          (cancellationOf booking live nowMs).seatIds found).status = .cancelled := by
        refine haccounted.cancelled _ ?_ (hsame.bookingId.trans hb) (hsame.seatId ▸ hid)
        rw [hcancelled.seats]
        exact List.mem_map_of_mem hseat
      rw [cancelledOnly, cancelledOnly, only, if_pos hgone, if_neg (by simp [hconfirmed]),
        if_pos (hsame.seatId ▸ hid), zero_add]
    · have hstays : cancelSeats (cancellationOf booking live nowMs)
          (cancellationOf booking live nowMs).seatIds seat = seat := by
        refine if_neg fun hmeant => hid ?_
        simp only [Bool.and_eq_true, decide_eq_true_eq] at hmeant
        exact mem_sort.mp hmeant.1.2
      rw [hstays, only, if_neg hid, add_zero]
  rw [← haccounted.adds]
  simp only [ReservedDb.amounts, RefundAmounts.sum, hadds, List.map_cons, List.map_nil,
    List.sum_cons, List.sum_nil, add_zero]

/-! ## All the way -/

/-- No other request cancels a seat of the booking. -/
def Uncontested (bookingId : String) (_ : History) : Act? → Prop
  | .perform _ _ (.transaction (.applyCancellation params)) => params.bookingId ≠ bookingId
  | _ => True

/-- `Uncontested`, to be evaluated. -/
def leavesSeats (bookingId : String) : Act? → Bool
  | .perform _ _ (.transaction (.applyCancellation params)) => params.bookingId ≠ bookingId
  | _ => true

theorem uncontested_of_leavesSeats {s : History} {m : Act?} (h : leavesSeats bookingId m = true) :
    Uncontested bookingId s m := by
  unfold Uncontested
  split
  · simpa [leavesSeats] using h
  · trivial

/-- What the cancelled seats of a booking add up to is what the answers printed. -/
structure PaidOut (bookingId : String) (results : List (Except Failure Answer)) (db : ReservedDb) :
    Prop where
  /-- the booking exists -/
  booked : ∃ row ∈ db.bookings.rows, row.id = bookingId
  /-- its cancelled seats add up to what was answered -/
  amounts : ∃ amounts, List.Forall₂ Prints results amounts ∧
    db.amounts bookingId cancelledOnly = .sum amounts

/-- What cancels no seat of a booking leaves what its cancelled seats add up to. -/
theorem cancelledTotal_other {a : t.Answer}
    (hother : ∀ params, t = .applyCancellation params → params.bookingId ≠ bookingId)
    (hrun : t.run raw db = .ok (a, db')) (hbooked : ∃ row ∈ db.bookings.rows, row.id = bookingId)
    {amount : BookingSeatRow → ℤ} (hamount : ∀ seat : BookingSeatRow, amount
      { seat with name := none, age := none, gender := none } = amount seat) :
    db'.total (cancelledOnly amount) bookingId = db.total (cancelledOnly amount) bookingId := by
  obtain ⟨row, hrow, rfl⟩ := hbooked
  refine total_step hrun (fun seat _ seat' hmove hb => ?_) (newSeats_fresh hrun hrow)
  cases hmove with
  | stay => rfl
  | cancel params ht hid => exact absurd (hid.symm.trans hb) (hother params ht)
  | clear stale _ _ =>
    simp only [cancelledOnly]
    split
    · exact hamount seat
    · rfl

theorem PaidOut.other {results : List (Except Failure Answer)} (h : PaidOut bookingId results db)
    {a : t.Answer} (hother : ∀ params, t = .applyCancellation params → params.bookingId ≠ bookingId)
    (hrun : t.run raw db = .ok (a, db')) : PaidOut bookingId results db' := by
  obtain ⟨amounts, hprints, hsum⟩ := h.amounts
  refine ⟨booking_id_stays hrun h.booked, amounts, hprints, ?_⟩
  rw [← hsum, ReservedDb.amounts, ReservedDb.amounts, RefundAmounts.mk.injEq]
  exact ⟨cancelledTotal_other hother hrun h.booked fun _ => rfl,
    cancelledTotal_other hother hrun h.booked fun _ => rfl,
    cancelledTotal_other hother hrun h.booked fun _ => rfl⟩

/-- **The run lemma**: what was answered goes on being what the seats add up to; the induction is
on the cancellations. -/
theorem Cancellations.paidOut {c₀ c : Pool} {results : List (Except Failure Answer)}
    (h : Cancellations d (Uncontested bookingId) bookingId c₀ results c)
    (hstart : PaidOut bookingId [] c₀.hist.world.db) :
    PaidOut bookingId results c.hist.world.db := by
  induction h with
  | start => exact hstart
  | between _ hreach ih =>
    refine Reach.db_keeps_of (fun hallow hrun hkept => hkept.other ?_ hrun) hreach ih
    rintro params rfl
    exact hallow
  | again _ htargets _ hnone hserved ih =>
    rw [(settled_of_served htargets hnone hserved).1]
    exact ih
  | @commit results c req booking target tags result s _ htargets hid hlive hserved ih =>
    obtain ⟨nowMs, -, -, -, hend⟩ := commitment_of_served htargets hlive hserved
    obtain ⟨amounts, hprints, hsum⟩ := ih.amounts
    have hbooked : ∃ row ∈ s.world.db.bookings.rows, row.id = bookingId :=
      Reach.db_keeps (K := fun db => ∃ row ∈ db.bookings.rows, row.id = bookingId)
        (fun hrun hkept => booking_id_stays hrun hkept) hserved.reach ih.booked
    subst hid
    cases hend with
    | refused _ _ hseats _ =>
      refine ⟨hbooked, amounts ++ [⟨0, 0, 0⟩], ?_, ?_⟩
      · exact List.rel_append hprints (.cons nofun .nil)
      · rw [RefundAmounts.sum_concat, ← hsum]
        simp [ReservedDb.amounts, ReservedDb.total, hseats, RefundAmounts.sum]
    | @applied quote row db₁ _ _ _ hcancelled _ hstored =>
      have hadds := amounts_applied hcancelled htargets.nodup htargets.confirmed
      refine ⟨hbooked, amounts ++ [amountsOf booking (confirmedOf target) nowMs], ?_, ?_⟩
      · refine List.rel_append hprints (.cons (fun order refund tags hanswer => ?_) .nil)
        obtain ⟨refund', tag, hsame, hpayload⟩ := commitmentAnswer_ok hanswer
        injection hsame with _ hrefund
        rw [print_amountsOf, hpayload, Option.some.inj hrefund]
      · rw [RefundAmounts.sum_concat, ← hsum, ← hadds]
        simp only [ReservedDb.amounts, ReservedDb.total, hstored.seats]

/-! ## What a status reports -/

section Status

variable {i : ℕ} {s s' : History} {K : ReservedDb → Prop}

/-- What a manifest sweep keeps, any operation of one keeps. -/
theorem sweepManifests_wp {nowMs retentionDays : ℤ} {ok : ℕ → History → Prop}
    {err : Failure → History → Prop}
    (hK : ∀ stale raw u db db', (Transaction.clearManifests stale).run raw db = .ok (u, db') →
      K db → K db') (hs : K s.world.db) (hok : ∀ n s₁, K s₁.world.db → ok n s₁)
    (herr : ∀ e s₁, err e s₁) :
    Handler.wp (calm d) i req ok err (sweepManifests nowMs retentionDays) s := by
  rw [sweepManifests, Handler.wp_bind]
  refine wp_perform fun s₁ due s₂ hpasses hdoes => ?_
  obtain ⟨id, w, hexec, hs₂⟩ := hdoes
  have hdb₁ := (Idle.of_passes hpasses).db
  have hdb : w.db = s.world.db := by
    change World.exec d req.process ⟨id, none⟩ s₁.world (.manifestSweepDue nowMs) = _ at hexec
    simp only [World.exec] at hexec
    split at hexec <;> obtain ⟨rfl, -⟩ := Prod.mk.inj (Option.some.inj hexec) <;> exact hdb₁
  subst hs₂
  cases due with
  | false => exact hok 0 _ (hdb ▸ hs)
  | true =>
    rw [ends_ok, if_neg (by decide), Handler.wp_bind]
    refine wp_read (fun w => .ok (w.db.staleManifests (nowMs - retentionDays * dayMilliseconds)))
      (fun _ _ => rfl) fun s₃ hidle => ?_
    have hdb₃ : s₃.world.db = s.world.db := hidle.db.trans hdb
    rw [ends_ok]
    split
    · exact hok 0 _ (hdb₃ ▸ hs)
    · rw [Handler.wp_bind]
      refine wp_transact (fun s₄ raw u db h₄ hrun => ?_) fun s₄ raw e _ _ => herr e _
      refine hok _ _ (hK _ raw u _ db hrun ?_)
      exact hdb₃ ▸ hs

/-- The refund of a booking that was found. -/
theorem storedRefund_of_found {db : ReservedDb} (hsettled : Settled db)
    {operator bapId bapUri reference : String} {booking : BookingRecord} {row : BookingRow}
    (hbooking : db.bookingFound operator bapId bapUri reference = some booking)
    (hrow : db.bookingByReference operator bapId bapUri reference = some row) :
    storedRefund booking = (db.amounts row.id cancelledOnly).print := by
  rw [ReservedDb.bookingFound, hrow] at hbooking
  obtain rfl := Option.some.inj hbooking
  exact storedRefund_eq hsettled (List.mem_of_find?_eq_some hrow) rfl

/-- What a refund that a status answers was read from. -/
def Reports (d : Deployment) (K : ReservedDb → Prop) (context : ReservedContext)
    (reference : String) (result : Except Failure Answer) (s' : History) : Prop :=
  ∀ order refund tags, result = .ok (.order order (some refund) tags) → K s'.world.db ∧
    ∃ booking, s'.world.db.bookingFound d.operatorKey context.bapId context.bapUri reference =
      some booking ∧ storedRefund booking = .ok refund

/-- What a status answers: the stored refund of the booking as it is found after the sweep. -/
theorem status_of_served (hK : ∀ stale raw u db db',
      (Transaction.clearManifests stale).run raw db = .ok (u, db') → K db → K db')
    {context : ReservedContext} {orderId refId : Option String}
    (haction : req.action = .status context orderId refId) {result : Except Failure Answer}
    (h : Served d i req s result s') (hs : K s.world.db) :
    Reports d K context ((orderId.or refId).getD "") result s' := by
  refine Alone.sound (Q := Reports d K context ((orderId.or refId).getD "")) ?_ h ?_
  · intro result s₁ e w henv hreports order refund tags hresult
    rw [((Idle.refl s₁).happen henv).db]
    exact hreports order refund tags hresult
  · have hwp : Handler.wp (calm d) i req
        (fun answer => Reports d K context ((orderId.or refId).getD "") (.ok answer))
        (fun e => Reports d K context ((orderId.or refId).getD "") (.error e)) (handle d req) s := by
      have herr : ∀ e s₁, Reports d K context ((orderId.or refId).getD "") (.error e) s₁ :=
        fun e s₁ => nofun
      rw [handle, haction]
      dsimp only
      rw [status, Handler.wp_bind, Handler.wp_lift]
      cases assertBppAddress d context with
      | error e => exact herr e s
      | ok u =>
        rw [ends_ok]
        dsimp only
        have hgo : Handler.wp (calm d) i req
            (fun answer => Reports d K context ((orderId.or refId).getD "") (.ok answer))
            (fun e => Reports d K context ((orderId.or refId).getD "") (.error e))
            (do
              let _ ← findBookingOrRefuse d context ((orderId.or refId).getD "")
              let nowMs ← perform .now
              let _ ← sweepManifests nowMs d.reservation.manifestRetentionDays
              let fresh ← findBookingOrRefuse d context ((orderId.or refId).getD "")
              let refund ← if fresh.refundPaise.isNone then pure none else some <$> storedRefund fresh
              return .order fresh.order refund []) s := by
          rw [Handler.wp_bind]
          refine findBookingOrRefuse_wp (fun _ s₁ h₁ _ => ?_) herr
          rw [Handler.wp_bind]
          refine wp_now fun s₂ h₂ => ?_
          rw [Handler.wp_bind]
          refine sweepManifests_wp hK ((h₁.trans h₂).db ▸ hs) (fun _ s₃ hs₃ => ?_) herr
          rw [Handler.wp_bind]
          refine findBookingOrRefuse_wp (fun fresh s₄ h₄ hfound => ?_) herr
          dsimp only
          split
          · exact fun _ _ _ hanswer => by cases hanswer
          · cases hstored : storedRefund fresh with
            | error e => exact herr e s₄
            | ok refund =>
              refine fun order refund' tags hanswer => ⟨h₄.db ▸ hs₃, fresh, ?_, ?_⟩
              · rw [h₄.db]
                exact hfound
              · cases hanswer
                exact hstored
        split
        · exact herr _ _
        · exact hgo
    refine wp_mono ?_ hwp
    rintro (e | answer) s₁ hend <;> exact hend

end Status

/-! ## The claim of a status -/

/-- A commitment was answered with a refund. -/
def Answered (result : Except Failure Answer) (refund : Quote) : Prop :=
  ∃ order tags, result = .ok (.order order (some refund) tags)

/-- What was answered is what the amounts print. -/
theorem printed_of_answered {results : List (Except Failure Answer)} {amounts : List RefundAmounts}
    {refunds : List Quote} (hprints : List.Forall₂ Prints results amounts)
    (hanswered : List.Forall₂ Answered results refunds) :
    refunds.map (fun refund => refund.price.paise) = amounts.map RefundAmounts.refund ∧
      ∀ code, refunds.map (fun refund => refund.line code) = amounts.map fun a => a.line code := by
  induction hprints generalizing refunds with
  | nil =>
    cases hanswered
    exact ⟨rfl, fun _ => rfl⟩
  | @cons result a results amounts hprint _ ih =>
    cases hanswered with
    | @cons _ refund _ refunds hanswer hanswered =>
      obtain ⟨order, tags, hresult⟩ := hanswer
      have hline := RefundAmounts.line_of_print (hprint order refund tags hresult)
      obtain ⟨hprices, hlines⟩ := ih hanswered
      simp only [List.map_cons, hprices, hlines, (hline "").1, (hline _).2.1, true_and,
        implies_true]

/-- Where nothing is cancelled, the cancelled seats add up to nothing. -/
theorem cancelledTotal_of_none (hnone : db.cancelledIds bookingId = [])
    (amount : BookingSeatRow → ℤ) : db.total (cancelledOnly amount) bookingId = 0 := by
  rw [← sum_cancelled, show (db.seatsOf bookingId).filter (fun seat => seat.status = .cancelled) =
    [] from List.map_eq_nil_iff.mp hnone]
  rfl

theorem PaidOut.start (hbooked : ∃ row ∈ db.bookings.rows, row.id = bookingId)
    (hnone : db.cancelledIds bookingId = []) : PaidOut bookingId [] db := by
  refine ⟨hbooked, [], .nil, ?_⟩
  simp only [ReservedDb.amounts, cancelledTotal_of_none hnone]
  rfl

/-- What was paid out for the booking a status means. -/
def Refers (d : Deployment) (context : ReservedContext) (reference bookingId : String)
    (results : List (Except Failure Answer)) (db : ReservedDb) : Prop :=
  PaidOut bookingId results db ∧
    ∃ row, db.bookingByReference d.operatorKey context.bapId context.bapUri reference = some row ∧
      row.id = bookingId

theorem Refers.swept {context : ReservedContext} {reference : String}
    {results : List (Except Failure Answer)} (h : Refers d context reference bookingId results db)
    {stale : List (String × Order)} {u : Unit}
    (hrun : (Transaction.clearManifests stale).run raw db = .ok (u, db')) :
    Refers d context reference bookingId results db' := by
  obtain ⟨hpaid, row, hrow, hid⟩ := h
  obtain ⟨row', hrow', hsame⟩ := bookingByReference_step hrun hrow
  exact ⟨hpaid.other (fun params ht => by cases ht) hrun, row', hrow', hsame.trans hid⟩

/-- **The stored refund is the sum of the refunds paid.** However a booking's seats are cancelled,
one commitment after another, at whatever instants: the refund a status then reports comes, line by
line and in its price, to the sum of what the commitments answered, and its lines add up to its
price. -/
theorem stored_refund_is_sum_paid {clock : ℤ} {source : Source} {c₀ c : Pool}
    (h : Reach (provider d) (fun _ _ => True) ⟨⟨World.initial clock source, []⟩, []⟩ c₀)
    (hbooked : ∃ row ∈ c₀.hist.world.db.bookings.rows, row.id = bookingId)
    (hnone : c₀.hist.world.db.cancelledIds bookingId = []) {results : List (Except Failure Answer)}
    (hcancellations : Cancellations d (Uncontested bookingId) bookingId c₀ results c)
    {refunds : List Quote} (hanswered : List.Forall₂ Answered results refunds)
    {context : ReservedContext} {orderId refId : Option String}
    (haction : req.action = .status context orderId refId) {row : BookingRow}
    (hfound : c.hist.world.db.bookingByReference d.operatorKey context.bapId context.bapUri
      ((orderId.or refId).getD "") = some row) (hid : row.id = bookingId) {order : Order}
    {refund : Quote} {tags : List Tag} {s : History}
    (hstatus : Served d c.tasks.length req c.hist (.ok (.order order (some refund) tags)) s) :
    refund.price.paise = (refunds.map fun refund => refund.price.paise).sum ∧
      (∀ code, refund.line code = (refunds.map fun refund => refund.line code).sum) ∧
        refund.breakup.map PriceLine.code =
          ["BASE_FARE", "SLAB_DEDUCTION", "RESERVATION_FEE", "TOLL_REFUND"] ∧
            refund.lines.sum = refund.price.paise := by
  -- a sweep before the answer keeps what was paid out, and which booking is meant
  have hkept := status_of_served (K := Refers d context ((orderId.or refId).getD "") bookingId results)
    (fun stale raw u db db' hrun hkept => hkept.swept hrun) haction hstatus
    ⟨hcancellations.paidOut (.start hbooked hnone), row, hfound, hid⟩
  obtain ⟨⟨hpaid, row', hfound', hid'⟩, booking, hbooking, hstored⟩ := hkept _ _ _ rfl
  have hsettled : Settled s.world.db :=
    (settled_of_reach ((h.trans hcancellations.reach).trans hstatus.reach)).2
  obtain ⟨amounts, hprints, hsum⟩ := hpaid.amounts
  have hprint : (RefundAmounts.sum amounts).print = .ok refund := by
    rw [← hsum, ← hid', ← hstored]
    exact (storedRefund_of_found hsettled hbooking hfound').symm
  obtain ⟨hprices, hlines⟩ := printed_of_answered hprints hanswered
  refine ⟨?_, fun code => ?_, (RefundAmounts.line_of_print hprint "").2.2, ?_⟩
  · rw [(RefundAmounts.line_of_print hprint "").1, hprices]
    rfl
  · rw [(RefundAmounts.line_of_print hprint code).2.1, hlines, RefundAmounts.line_sum]
  · obtain ⟨hprice, hall⟩ := lines_of_refundOf hprint
    rw [hall, hprice]
    simp only [List.sum_cons, List.sum_nil]
    omega

/-! ### A specimen -/

/-- Ask for the status of the specimen's order. -/
def specimenStatus : Request := ⟨0, .status (specimenContext "T1") (some specimenOrderId) none⟩

/-- The specimen's buyer asks alone. -/
def statusAlone (c : Pool) : Option (Except Failure Answer × History) :=
  runAlone (calm specimenDeployment) c.tasks.length specimenStatus
    ((provider specimenDeployment).handler specimenStatus) (List.replicate 9 "") c.hist

/-- Forty hours later seat 2 is quoted for, as task 4. -/
def quoteOther : List (Event Request Choice Happening) :=
  [.env (.tick 144000000), .start (specimenSoftCancel "T1" specimenOrderId ["2"])] ++ steps 4 4 "q2"

/-- The pool after a commitment for seat 2 alone. -/
def committedOther (c : Pool) (p : Except Failure Answer × History) : Pool :=
  ⟨p.2, c.tasks ++ [⟨specimenCancel "T1" specimenOrderId ["2"] "RFQ-KSRTC-Q2", .ret p.1⟩]⟩

/-- What a commitment of the specimen finds: its booking, and how many seats are confirmed. -/
def specimenTarget (db : ReservedDb) (seatIds : List String) (quoteId : String) :
    Option (String × ℕ) :=
  (db.bookingFound "ksrtc" "bap" "https://bap" specimenOrderId).bind fun booking =>
    (targetSeats booking (seatIdsFrom (commitmentTags seatIds quoteId))).toOption.map fun target =>
      (booking.id, (confirmedOf target).length)

theorem targets_of_specimen {seatIds : List String} {quoteId : String} {n : ℕ}
    (h : specimenTarget db seatIds quoteId = some (bookingId, n + 1)) : ∃ booking target,
      Targets specimenDeployment (specimenCancel "T1" specimenOrderId seatIds quoteId) db booking
        target (commitmentTags seatIds quoteId) ∧ booking.id = bookingId ∧
          confirmedOf target ≠ [] := by
  obtain ⟨booking, hfound, htarget⟩ := Option.bind_eq_some_iff.mp h
  obtain ⟨target, hmeans, hfacts⟩ := Option.map_eq_some_iff.mp htarget
  obtain ⟨hid, hlength⟩ := Prod.mk.inj hfacts
  refine ⟨booking, target, ⟨⟨specimenContext "T1", specimenOrderId, rfl, rfl, hfound⟩, ?_⟩, hid,
    fun hnil => ?_⟩
  · cases hseats : targetSeats booking (seatIdsFrom (commitmentTags seatIds quoteId)) with
    | error e =>
      rw [hseats] at hmeans
      cases hmeans
    | ok target' =>
      rw [hseats] at hmeans
      cases Option.some.inj hmeans
      rfl
  · rw [hnil] at hlength
    cases hlength

/-- Two seats are cancelled under two slabs, for 80 rupees and for 5. -/
theorem stored_refund_is_sum_paid_specimen : ∃ (c₀ c : Pool)
    (results : List (Except Failure Answer)) (refunds : List Quote) (order : Order) (refund : Quote)
    (tags : List Tag) (s : History),
    Reach (provider specimenDeployment) (fun _ _ => True) specimenStart c₀ ∧
    Cancellations specimenDeployment (Uncontested specimenOrderId) specimenOrderId c₀ results c ∧
    Served specimenDeployment c.tasks.length specimenStatus c.hist
      (.ok (.order order (some refund) tags)) s ∧
    refunds.map (fun refund => refund.price.paise) = [8000, 500] ∧
    refund.price.paise = (refunds.map fun refund => refund.price.paise).sum := by
  have hrun : (specimenStart.follow (provider specimenDeployment) (fun _ _ => true)
      (specimenSale ++ specimenQuote ["1"])).bind (fun c₀ =>
        (commitAlone c₀ ["1"] "RFQ-KSRTC-Q1").bind fun p =>
          ((committed c₀ p).follow (provider specimenDeployment)
            (fun _ m => leavesSeats specimenOrderId m) quoteOther).bind fun c₁ =>
              (commitAlone c₁ ["2"] "RFQ-KSRTC-Q2").bind fun q =>
                (statusAlone (committedOther c₁ q)).map fun r =>
                  decide ([refundAnswered p.1, refundAnswered q.1, refundAnswered r.1] =
                      [some 8000, some 500, some 8500]) &&
                    decide ([specimenTarget c₀.hist.world.db ["1"] "RFQ-KSRTC-Q1",
                        specimenTarget c₁.hist.world.db ["2"] "RFQ-KSRTC-Q2"] =
                      [some (specimenOrderId, 1), some (specimenOrderId, 1)]) &&
                    decide ([c₀.hist.world.db.cancelledIds specimenOrderId,
                        c₀.hist.world.db.bookings.rows.map BookingRow.id] =
                      [[], [specimenOrderId]]) &&
                    decide ((q.2.world.db.bookingByReference "ksrtc" "bap" "https://bap"
                      specimenOrderId).map BookingRow.id = some specimenOrderId)) = some true := by
    decide +kernel
  obtain ⟨c₀, hfollow, hrest⟩ := Option.bind_eq_some_iff.mp hrun
  obtain ⟨p, hfirst, hrest⟩ := Option.bind_eq_some_iff.mp hrest
  obtain ⟨c₁, hbetween, hrest⟩ := Option.bind_eq_some_iff.mp hrest
  obtain ⟨q, hsecond, hrest⟩ := Option.bind_eq_some_iff.mp hrest
  obtain ⟨r, hstatus, hfacts⟩ := Option.map_eq_some_iff.mp hrest
  simp only [Bool.and_eq_true, decide_eq_true_eq, List.cons.injEq, and_true] at hfacts
  obtain ⟨⟨⟨⟨hpaid₁, hpaid₂, hreported⟩, htarget₁, htarget₂⟩, hnone, hids⟩, hfound⟩ := hfacts
  obtain ⟨order₁, refund₁, tags₁, hresult₁, hpaise₁⟩ := of_refundAnswered hpaid₁
  obtain ⟨order₂, refund₂, tags₂, hresult₂, hpaise₂⟩ := of_refundAnswered hpaid₂
  obtain ⟨order, refund, tags, hresult, -⟩ := of_refundAnswered hreported
  have hreach : Reach (provider specimenDeployment) (fun _ _ => True) specimenStart c₀ :=
    (Config.follow_reach .refl hfollow).mono fun _ _ _ => trivial
  obtain ⟨_, _, htargets₁, hid₁, hlive₁⟩ := targets_of_specimen (n := 0) htarget₁
  obtain ⟨_, _, htargets₂, hid₂, hlive₂⟩ := targets_of_specimen (n := 0) htarget₂
  obtain ⟨row, hrow, hid⟩ := Option.map_eq_some_iff.mp hfound
  have hserved : Served specimenDeployment (committedOther c₁ q).tasks.length specimenStatus
      (committedOther c₁ q).hist (.ok (.order order (some refund) tags)) r.2 :=
    hresult ▸ runAlone_alone hstatus
  have hchain : Cancellations specimenDeployment (Uncontested specimenOrderId) specimenOrderId c₀
      [p.1, q.1] (committedOther c₁ q) :=
    .commit (.between (.commit .start htargets₁ hid₁ hlive₁ (runAlone_alone hfirst))
      ((Config.follow_reach .refl hbetween).mono fun _ _ => uncontested_of_leavesSeats))
        htargets₂ hid₂ hlive₂ (runAlone_alone hsecond)
  have hbooked : ∃ row ∈ c₀.hist.world.db.bookings.rows, row.id = specimenOrderId :=
    List.mem_map.mp (hids ▸ List.mem_singleton_self specimenOrderId)
  have haction : specimenStatus.action =
      .status (specimenContext "T1") (some specimenOrderId) none := rfl
  refine ⟨c₀, _, _, [refund₁, refund₂], order, refund, tags, r.2, hreach, hchain, hserved, ?_, ?_⟩
  · rw [List.map_cons, List.map_cons, List.map_nil, hpaise₁, hpaise₂]
  · exact (stored_refund_is_sum_paid hreach hbooked hnone hchain
      (.cons ⟨_, _, hresult₁⟩ (.cons ⟨_, _, hresult₂⟩ .nil)) haction hrow hid hserved).1

end TransitBpp
