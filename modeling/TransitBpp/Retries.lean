import TransitBpp.Quotes

/-!
# A retried commitment

A commitment that is sent again finds nothing confirmed, and is answered from the booking: what
all its cancelled seats were refunded, and not only those the first answer spoke of. `Accounted` is
what stays true of the seats of the first answer, whatever else is cancelled in between, and
`retry_same_iff` says when the second answer is the first: when the other cancelled seats add
nothing to it.
-/

namespace TransitBpp

open Interleave Js

variable {d : Deployment} {req : Request} {db db' : ReservedDb} {t : Transaction} {raw : String}

/-! ## The seats of an answer and the others -/

/-- An amount, for the seats of a list. -/
def only (seatIds : List String) (amount : BookingSeatRow → ℤ) (seat : BookingSeatRow) : ℤ :=
  if seat.seatId ∈ seatIds then amount seat else 0

/-- An amount, for the cancelled seats that are not on a list. -/
def others (seatIds : List String) (amount : BookingSeatRow → ℤ) (seat : BookingSeatRow) : ℤ :=
  if seat.status = .cancelled ∧ seat.seatId ∉ seatIds then amount seat else 0

/-- What a seat was refunded. -/
def refundedPaise (seat : BookingSeatRow) : ℤ := seat.refundPaise.getD 0

/-- The three amounts an answer prints. -/
structure RefundAmounts : Type where
  /-- what comes back -/
  refund : ℤ
  /-- the base fares -/
  base : ℤ
  /-- the tolls -/
  toll : ℤ
  deriving DecidableEq

/-- The answer that prints them. -/
def RefundAmounts.print (amounts : RefundAmounts) : Except Failure Quote :=
  refundOf amounts.refund amounts.base (amounts.base + amounts.toll - amounts.refund) amounts.toll

/-- What three amounts add up to over the seats of a booking. -/
def ReservedDb.amounts (db : ReservedDb) (bookingId : String)
    (count : (BookingSeatRow → ℤ) → BookingSeatRow → ℤ) : RefundAmounts where
  refund := db.total (count refundedPaise) bookingId
  base := db.total (count BookingSeatRow.basePaise) bookingId
  toll := db.total (count BookingSeatRow.tollPaise) bookingId

/-- Different amounts print differently. -/
theorem RefundAmounts.eq_of_print {amounts amounts' : RefundAmounts} {refund : Quote}
    (h : amounts.print = .ok refund) (h' : amounts'.print = .ok refund) : amounts = amounts' := by
  obtain ⟨hrefund, hbreakup⟩ := lines_of_refundOf h
  obtain ⟨hrefund', hbreakup'⟩ := lines_of_refundOf h'
  have heq := hbreakup.symm.trans hbreakup'
  simp only [List.cons.injEq] at heq
  obtain ⟨refund₁, base₁, toll₁⟩ := amounts
  obtain ⟨refund₂, base₂, toll₂⟩ := amounts'
  obtain rfl : refund₁ = refund₂ := hrefund.symm.trans hrefund'
  obtain rfl : base₁ = base₂ := heq.1
  obtain rfl : toll₁ = toll₂ := heq.2.2.2.1
  rfl

/-! ## What stays true -/

/-- The seats of an answer are cancelled, and add up to what it said. -/
structure Accounted (bookingId : String) (seatIds : List String) (amounts : RefundAmounts)
    (db : ReservedDb) : Prop where
  /-- they are cancelled -/
  cancelled : ∀ seat ∈ db.bookingSeats.rows, seat.bookingId = bookingId →
    seat.seatId ∈ seatIds → seat.status = .cancelled
  /-- they add up to what it said -/
  adds : db.amounts bookingId (only seatIds) = amounts

/-- No transaction changes what the seats of an answer add up to. -/
theorem Accounted.step {bookingId : String} {seatIds : List String} {amounts : RefundAmounts}
    (h : Accounted bookingId seatIds amounts db) {a : t.Answer}
    (hrun : t.run raw db = .ok (a, db')) (hrow : ∃ row ∈ db.bookings.rows, row.id = bookingId) :
    Accounted bookingId seatIds amounts db' := by
  obtain ⟨row, hrow, rfl⟩ := hrow
  have hnew := newSeats_fresh hrun hrow
  have hbefore : ∀ seat' ∈ db'.bookingSeats.rows, seat'.bookingId = row.id →
      ∃ seat ∈ db.bookingSeats.rows, SeatMove t seat seat' := by
    intro seat' hseat' hb
    rcases seat_after hrun hseat' with hmoved | hfresh
    · exact hmoved
    · exact absurd hb (hnew seat' hfresh)
  refine ⟨?_, ?_⟩
  · intro seat' hseat' hb hid
    obtain ⟨seat, hseat, hmove⟩ := hbefore seat' hseat' hb
    exact hmove.same.cancelled (h.cancelled seat hseat (hmove.bookingId.symm.trans hb)
      (hmove.seatId ▸ hid))
  · have hsame : ∀ amount : BookingSeatRow → ℤ, (∀ seat seat', SeatMove t seat seat' →
        seat.status = .cancelled → amount seat' = amount seat) →
          db'.total (only seatIds amount) row.id = db.total (only seatIds amount) row.id := by
      intro amount hamount
      refine total_step hrun (fun seat hseat seat' hmove hb => ?_) hnew
      rw [only, only, hmove.seatId]
      split
      · rename_i hid
        exact hamount seat seat' hmove (h.cancelled seat hseat hb hid)
      · rfl
    rw [← h.adds, ReservedDb.amounts, ReservedDb.amounts, RefundAmounts.mk.injEq]
    refine ⟨hsame _ ?_, hsame _ ?_, hsame _ ?_⟩
    · intro seat seat' hmove hcancelled
      -- a cancelled seat is not cancelled again
      cases hmove with
      | stay => rfl
      | cancel _ _ _ _ hconfirmed =>
        rw [hcancelled] at hconfirmed
        cases hconfirmed
      | clear _ _ _ => rfl
    · intro seat seat' hmove _
      rw [hmove.same.eq]
    · intro seat seat' hmove _
      rw [hmove.same.eq]

/-- A booking goes on being found where it was. -/
theorem bookingByReference_step {a : t.Answer} (hrun : t.run raw db = .ok (a, db'))
    {operator bapId bapUri reference : String} {row : BookingRow}
    (h : db.bookingByReference operator bapId bapUri reference = some row) :
    ∃ row', db'.bookingByReference operator bapId bapUri reference = some row' ∧
      row'.id = row.id := by
  obtain ⟨g, new, hmoved⟩ := Transaction.bookings_moved hrun
  refine ⟨g row, ?_, (hmoved.moves row).same.id⟩
  rw [ReservedDb.bookingByReference] at h
  rw [ReservedDb.bookingByReference, hmoved.rows, List.find?_append, List.find?_map]
  have hsame : ((fun row : BookingRow => row.operator = operator && row.identity.bapId = bapId &&
      row.identity.bapUri = bapUri && (row.id = reference || row.reference = reference)) ∘ g) =
      fun row => row.operator = operator && row.identity.bapId = bapId &&
        row.identity.bapUri = bapUri && (row.id = reference || row.reference = reference) := by
    funext row
    rw [Function.comp_apply, (hmoved.moves row).same.eq]
  rw [hsame, h]
  rfl

/-- What stays true between a commitment that succeeded and its retry. -/
structure Retriable (operator bapId bapUri reference : String) (named : List String)
    (bookingId : String) (seatIds : List String) (amounts : RefundAmounts) (db : ReservedDb) :
    Prop where
  /-- the booking is found -/
  found : ∃ row, db.bookingByReference operator bapId bapUri reference = some row ∧
    row.id = bookingId
  /-- the seats it names are seats of the booking -/
  known : ∀ seatId ∈ named, ∃ seat ∈ db.bookingSeats.rows, seat.bookingId = bookingId ∧
    seat.seatId = seatId
  /-- the seats it means are cancelled -/
  meant : ∀ seat ∈ db.bookingSeats.rows, seat.bookingId = bookingId →
    named = [] ∨ seat.seatId ∈ named → seat.status = .cancelled
  /-- and the seats of its answer are accounted for -/
  accounted : Accounted bookingId seatIds amounts db

section Retry

variable {operator bapId bapUri reference bookingId : String} {named seatIds : List String}
variable {amounts : RefundAmounts}

theorem Retriable.step
    (h : Retriable operator bapId bapUri reference named bookingId seatIds amounts db)
    {a : t.Answer} (hrun : t.run raw db = .ok (a, db')) :
    Retriable operator bapId bapUri reference named bookingId seatIds amounts db' := by
  obtain ⟨row, hfound, rfl⟩ := h.found
  have hrow : row ∈ db.bookings.rows := List.mem_of_find?_eq_some hfound
  refine ⟨bookingByReference_step hrun hfound, ?_, ?_, h.accounted.step hrun ⟨row, hrow, rfl⟩⟩
  · intro seatId hid
    obtain ⟨seat, hseat, hb, rfl⟩ := h.known seatId hid
    obtain ⟨seat', hseat', hsame⟩ := seat_stays hrun ⟨seat, hseat, .refl seat⟩
    exact ⟨seat', hseat', hsame.bookingId.trans hb, hsame.seatId⟩
  · intro seat' hseat' hb hmeant
    rcases seat_after hrun hseat' with ⟨seat, hseat, hmove⟩ | hfresh
    · rw [hmove.seatId] at hmeant
      exact hmove.same.cancelled (h.meant seat hseat (hmove.bookingId.symm.trans hb) hmeant)
    · exact absurd hb (newSeats_fresh hrun hrow seat' hfresh)

/-- A retry reaches its booking, and finds none of its seats confirmed. -/
theorem Retriable.targets {context : ReservedContext} {orderId : String}
    {tags : Option (List BuyerTag)}
    (h : Retriable d.operatorKey context.bapId context.bapUri orderId (seatIdsFrom tags) bookingId
      seatIds amounts db)
    (haction : req.action = .cancel context orderId .confirm tags)
    (haddress : assertBppAddress d context = .ok ()) :
    ∃ booking target, Targets d req db booking target tags ∧ confirmedOf target = [] ∧
      booking.id = bookingId := by
  obtain ⟨row, hfound, rfl⟩ := h.found
  let booking : BookingRecord := { row with seats := db.seatsOf row.id }
  have hbooking : db.bookingFound d.operatorKey context.bapId context.bapUri orderId =
      some booking := by
    rw [ReservedDb.bookingFound, hfound, Option.map_some]
  have hknown : (seatIdsFrom tags).filter (fun seatId =>
      seatId ∉ booking.seats.map BookingSeatRow.seatId) = [] := by
    rw [List.filter_eq_nil_iff]
    intro seatId hid
    obtain ⟨seat, hseat, hb, rfl⟩ := h.known seatId hid
    simpa using ⟨seat, mem_seatsOf.mpr ⟨hseat, hb⟩, rfl⟩
  have hmeans : targetSeats booking (seatIdsFrom tags) = .ok
      (if (seatIdsFrom tags).length > 0 then booking.seats.filter fun seat =>
        seat.seatId ∈ seatIdsFrom tags else booking.seats.filter fun seat =>
          seat.status = .confirmed) := by
    rw [targetSeats, hknown]
    rfl
  refine ⟨booking, _, ⟨⟨context, orderId, haction, haddress, hbooking⟩, hmeans⟩, ?_, rfl⟩
  rw [confirmedOf, List.filter_eq_nil_iff]
  intro seat hseat
  have hall : ∀ seat ∈ booking.seats, (seatIdsFrom tags = [] ∨ seat.seatId ∈ seatIdsFrom tags) →
      seat.status = .cancelled := by
    intro seat hseat hmeant
    obtain ⟨hmem, hb⟩ := mem_seatsOf.mp hseat
    exact h.meant seat hmem hb hmeant
  have hcancelled : seat.status = .cancelled := by
    split at hseat
    · obtain ⟨hmem, hid⟩ := List.mem_filter.mp hseat
      exact hall seat hmem (Or.inr (of_decide_eq_true hid))
    · rename_i hlength
      obtain ⟨hmem, -⟩ := List.mem_filter.mp hseat
      exact hall seat hmem (Or.inl (List.eq_nil_of_length_eq_zero (by omega)))
  rw [hcancelled]
  simp

end Retry

/-! ## What the booking says -/

/-- An amount, for the cancelled seats. -/
def cancelledOnly (amount : BookingSeatRow → ℤ) (seat : BookingSeatRow) : ℤ :=
  if seat.status = .cancelled then amount seat else 0

/-- Amounts that agree on the seats of a booking add up to the same. -/
theorem total_congr {bookingId : String} {amount amount' : BookingSeatRow → ℤ}
    (h : ∀ seat ∈ db.bookingSeats.rows, seat.bookingId = bookingId → amount seat = amount' seat) :
    db.total amount bookingId = db.total amount' bookingId := by
  refine congrArg List.sum (List.map_congr_left fun seat hseat => ?_)
  obtain ⟨hmem, hid⟩ := List.mem_filter.mp hseat
  exact h seat hmem (of_decide_eq_true hid)

theorem total_add (bookingId : String) (amount amount' : BookingSeatRow → ℤ) :
    db.total (fun seat => amount seat + amount' seat) bookingId =
      db.total amount bookingId + db.total amount' bookingId :=
  List.sum_map_add

/-- The cancelled seats of a booking, as they are read, add up to what the rows do. -/
theorem sum_cancelled (bookingId : String) (amount : BookingSeatRow → ℤ) :
    (((db.seatsOf bookingId).filter fun seat => seat.status = .cancelled).map amount).sum =
      db.total (cancelledOnly amount) bookingId := by
  have hfilter : ∀ seats : List BookingSeatRow,
      ((seats.filter fun seat => seat.status = .cancelled).map amount).sum =
        (seats.map (cancelledOnly amount)).sum := by
    intro seats
    induction seats with
    | nil => rfl
    | cons seat seats ih => cases hs : seat.status <;> simp [hs, cancelledOnly, ih]
  rw [hfilter, ReservedDb.total]
  exact ((List.perm_insertionSort _ _).map _).sum_eq

/-- What was refunded was refunded on cancelled seats. -/
theorem refundTotal_eq (hsettled : Settled db) (bookingId : String) :
    db.refundTotal bookingId = db.total (cancelledOnly refundedPaise) bookingId := by
  refine total_congr fun seat hseat _ => ?_
  show refundedPaise seat = cancelledOnly refundedPaise seat
  rw [cancelledOnly]
  cases hs : seat.status with
  | cancelled => rfl
  | confirmed =>
    rw [refundedPaise, hsettled.nothing seat hseat hs, Option.getD_none]
    rfl

/-- A booking is answered with the amounts of its cancelled seats. -/
theorem storedRefund_eq (hsettled : Settled db) {booking : BookingRecord}
    (hrow : booking.toBookingRow ∈ db.bookings.rows) (hseats : booking.seats = db.seatsOf booking.id) :
    storedRefund booking = (db.amounts booking.id cancelledOnly).print := by
  have hrefund : booking.refundPaise.getD 0 =
      db.total (cancelledOnly refundedPaise) booking.id := by
    rw [hsettled.refund _ hrow]
    exact refundTotal_eq hsettled booking.id
  have hbase := @sum_cancelled db booking.id BookingSeatRow.basePaise
  have htoll := @sum_cancelled db booking.id BookingSeatRow.tollPaise
  simp only [storedRefund, RefundAmounts.print, ReservedDb.amounts, hseats, hbase, htoll, hrefund]

/-- The cancelled seats are those of an answer and the others. -/
theorem Accounted.cancelled_eq {bookingId : String} {seatIds : List String}
    {amounts : RefundAmounts} (h : Accounted bookingId seatIds amounts db) :
    db.amounts bookingId cancelledOnly = amounts ↔
      db.amounts bookingId (others seatIds) = ⟨0, 0, 0⟩ := by
  have hsplit : ∀ amount : BookingSeatRow → ℤ, db.total (cancelledOnly amount) bookingId =
      db.total (only seatIds amount) bookingId + db.total (others seatIds amount) bookingId := by
    intro amount
    rw [← total_add]
    refine total_congr fun seat hseat hb => ?_
    rw [cancelledOnly, only, others]
    by_cases hid : seat.seatId ∈ seatIds
    · simp [hid, h.cancelled seat hseat hb hid]
    · simp [hid]
  rw [← h.adds]
  simp only [ReservedDb.amounts, RefundAmounts.mk.injEq, hsplit, add_eq_left]

/-! ## The first answer -/

/-- The seats the answer of a commitment speaks of: those it cancels, or, where it finds nothing
confirmed, every cancelled seat of the booking. -/
def answeredFor (booking : BookingRecord) (target : List BookingSeatRow) : List String :=
  if confirmedOf target = [] then
    (booking.seats.filter fun seat => seat.status = .cancelled).map BookingSeatRow.seatId
  else (confirmedOf target).map BookingSeatRow.seatId

/-- Every seat a commitment means is confirmed among them or cancelled already. -/
theorem Targets.confirmed_or_cancelled {booking : BookingRecord} {target : List BookingSeatRow}
    {tags : Option (List BuyerTag)} (h : Targets d req db booking target tags)
    {seat : BookingSeatRow} (hseat : seat ∈ db.bookingSeats.rows) (hb : seat.bookingId = booking.id)
    (hmeant : seatIdsFrom tags = [] ∨ seat.seatId ∈ seatIdsFrom tags) :
    seat ∈ confirmedOf target ∨ seat.status = .cancelled := by
  have hmem : seat ∈ booking.seats := h.row.2 ▸ mem_seatsOf.mpr ⟨hseat, hb⟩
  have hmeans := h.means
  rw [targetSeats] at hmeans
  split at hmeans
  · cases hmeans
  · obtain rfl := Except.ok.inj hmeans
    cases hstatus : seat.status with
    | cancelled => exact Or.inr rfl
    | confirmed =>
      refine Or.inl (List.mem_filter.mpr ⟨?_, decide_eq_true hstatus⟩)
      split
      · rename_i hlength
        refine List.mem_filter.mpr ⟨hmem, decide_eq_true (hmeant.resolve_left fun hnil => ?_)⟩
        rw [hnil] at hlength
        exact absurd hlength (by simp)
      · exact List.mem_filter.mpr ⟨hmem, decide_eq_true hstatus⟩

/-- The seats a commitment names are seats of the booking. -/
theorem Targets.known {booking : BookingRecord} {target : List BookingSeatRow}
    {tags : Option (List BuyerTag)} (h : Targets d req db booking target tags) :
    ∀ seatId ∈ seatIdsFrom tags, ∃ seat ∈ db.bookingSeats.rows, seat.bookingId = booking.id ∧
      seat.seatId = seatId := by
  intro seatId hid
  have hmeans := h.means
  rw [targetSeats] at hmeans
  split at hmeans
  · cases hmeans
  · rename_i hnone
    rw [not_not, List.filter_eq_nil_iff] at hnone
    have hmem : seatId ∈ booking.seats.map BookingSeatRow.seatId := by
      by_contra hnot
      exact hnone seatId hid (decide_eq_true hnot)
    obtain ⟨seat, hseat, rfl⟩ := List.mem_map.mp hmem
    rw [h.row.2] at hseat
    obtain ⟨hrow, hb⟩ := mem_seatsOf.mp hseat
    exact ⟨seat, hrow, hb, rfl⟩

/-- The answer of a commitment that found nothing confirmed. -/
theorem accounted_settled {booking : BookingRecord} {target : List BookingSeatRow}
    {tags : Option (List BuyerTag)} (h : Targets d req db booking target tags)
    (hnone : confirmedOf target = []) : Accounted booking.id (answeredFor booking target)
      (db.amounts booking.id cancelledOnly) db := by
  have hids : ∀ seat ∈ db.bookingSeats.rows, seat.bookingId = booking.id →
      (seat.seatId ∈ answeredFor booking target ↔ seat.status = .cancelled) := by
    intro seat hseat hb
    rw [answeredFor, if_pos hnone, List.mem_map]
    constructor
    · rintro ⟨other, hother, hid⟩
      obtain ⟨hmem, hstatus⟩ := List.mem_filter.mp hother
      rw [h.row.2] at hmem
      obtain ⟨hrow, hb'⟩ := mem_seatsOf.mp hmem
      obtain rfl := seat_unique hrow hseat (hb'.trans hb.symm) hid
      exact of_decide_eq_true hstatus
    · intro hstatus
      refine ⟨seat, List.mem_filter.mpr ⟨?_, decide_eq_true hstatus⟩, rfl⟩
      rw [h.row.2]
      exact mem_seatsOf.mpr ⟨hseat, hb⟩
  refine ⟨fun seat hseat hb hid => (hids seat hseat hb).mp hid, ?_⟩
  have hsame : ∀ amount : BookingSeatRow → ℤ,
      db.total (only (answeredFor booking target) amount) booking.id =
        db.total (cancelledOnly amount) booking.id := by
    intro amount
    refine total_congr fun seat hseat hb => ?_
    rw [only, cancelledOnly]
    by_cases hstatus : seat.status = .cancelled
    · rw [if_pos ((hids seat hseat hb).mpr hstatus), if_pos hstatus]
    · rw [if_neg fun hid => hstatus ((hids seat hseat hb).mp hid), if_neg hstatus]
  rw [ReservedDb.amounts, ReservedDb.amounts, hsame, hsame, hsame]

/-- The amounts of a commitment that is applied. -/
def amountsOf (booking : BookingRecord) (live : List BookingSeatRow) (nowMs : ℤ) : RefundAmounts :=
  ⟨(refundFor booking live nowMs).refundPaise, (live.map BookingSeatRow.basePaise).sum,
    (live.map BookingSeatRow.tollPaise).sum⟩

theorem print_amountsOf (booking : BookingRecord) (live : List BookingSeatRow) (nowMs : ℤ) :
    (amountsOf booking live nowMs).print = refundPayload (refundFor booking live nowMs) := by
  obtain ⟨hbase, htoll, hsum⟩ := refundFor_lines booking live nowMs
  have hdeduction : (live.map BookingSeatRow.basePaise).sum +
      (live.map BookingSeatRow.tollPaise).sum - (refundFor booking live nowMs).refundPaise =
        (refundFor booking live nowMs).slabDeductionPaise := by
    omega
  rw [RefundAmounts.print, amountsOf, refundPayload, hdeduction, hbase, htoll]

/-- The answer of a commitment that was applied. -/
theorem accounted_applied {booking : BookingRecord} {live : List BookingSeatRow} {nowMs : ℤ}
    (hcancelled : SeatsCancelled (cancellationOf booking live nowMs) db db')
    (hnodup : (live.map BookingSeatRow.seatId).Nodup)
    (hstored : ∀ seat ∈ live, seat ∈ db.bookingSeats.rows ∧ seat.bookingId = booking.id ∧
      seat.status = .confirmed) :
    Accounted booking.id (live.map BookingSeatRow.seatId) (amountsOf booking live nowMs) db' := by
  -- a row of one of these seats was confirmed, and this cancelled it
  have hrow : ∀ seat' ∈ db'.bookingSeats.rows, seat'.bookingId = booking.id →
      seat'.seatId ∈ live.map BookingSeatRow.seatId → seat'.status = .cancelled ∧
        refundedPaise seat' =
          seat'.refundable.refundPaise (slabFor booking.departureAt nowMs) := by
    intro seat' hseat' hb hid
    rw [hcancelled.seats] at hseat'
    obtain ⟨seat, hseat, rfl⟩ := List.mem_map.mp hseat'
    have hsame := sameSeat_cancelSeats (cancellationOf booking live nowMs)
      (cancellationOf booking live nowMs).seatIds seat
    rw [hsame.bookingId] at hb
    rw [hsame.seatId] at hid
    obtain ⟨found, hfound, hfoundId⟩ := List.mem_map.mp hid
    obtain ⟨hmem, hb', hstatus⟩ := hstored found hfound
    obtain rfl := seat_unique hmem hseat (hb'.trans hb.symm) hfoundId
    rw [hsame.refundPaise]
    have hmeant : (found.bookingId = (cancellationOf booking live nowMs).bookingId &&
        found.seatId ∈ (cancellationOf booking live nowMs).seatIds &&
          found.status = .confirmed) = true := by
      simp only [Bool.and_eq_true, decide_eq_true_eq]
      exact ⟨⟨hb, mem_sort.mpr hid⟩, hstatus⟩
    rw [cancelSeats, setIf, if_pos hmeant]
    refine ⟨rfl, ?_⟩
    exact congrArg (fun paid : Option ℤ => paid.getD 0) (mapGet_refundFor hnodup hfound)
  refine ⟨fun seat' hseat' hb hid => (hrow seat' hseat' hb hid).1, ?_⟩
  have hrows : ∀ seat ∈ live, seat.bookingId = booking.id ∧
      ∃ row ∈ db'.bookingSeats.rows, SameSeat seat row := by
    intro seat hseat
    obtain ⟨hmem, hb, -⟩ := hstored seat hseat
    refine ⟨hb, _, ?_, sameSeat_cancelSeats (cancellationOf booking live nowMs)
      (cancellationOf booking live nowMs).seatIds seat⟩
    rw [hcancelled.seats]
    exact List.mem_map_of_mem hmem
  rw [ReservedDb.amounts, amountsOf, RefundAmounts.mk.injEq]
  refine ⟨?_, ?_, ?_⟩
  · have hpaid : db'.total (only (live.map BookingSeatRow.seatId) refundedPaise) booking.id =
        db'.total (refundIn (slabFor booking.departureAt nowMs)
          (live.map BookingSeatRow.seatId)) booking.id := by
      refine total_congr fun seat' hseat' hb => ?_
      rw [only, refundIn]
      split
      · rename_i hid
        exact (hrow seat' hseat' hb hid).2
      · rfl
    rw [hpaid]
    exact (refundFor_eq_total hnodup hrows fun _ => Iff.rfl).symm
  · exact total_of_seats hnodup hrows (fun seat row hsame => by rw [hsame.eq]) fun _ => Iff.rfl
  · exact total_of_seats hnodup hrows (fun seat row hsame => by rw [hsame.eq]) fun _ => Iff.rfl

/-- What stays true from the first answer on. -/
theorem retriable_of_served {clock : ℤ} {source : Source} {c : Pool}
    (h : Reach (provider d) (fun _ _ => True) ⟨⟨World.initial clock source, []⟩, []⟩ c)
    {booking : BookingRecord} {target : List BookingSeatRow} {tags : Option (List BuyerTag)}
    (htargets : Targets d req c.hist.world.db booking target tags) {order : Order} {refund : Quote}
    {tags' : List Tag} {s₁ : History}
    (hserved : Served d c.tasks.length req c.hist (.ok (.order order (some refund) tags')) s₁) :
    ∃ context orderId amounts, req.action = .cancel context orderId .confirm tags ∧
      assertBppAddress d context = .ok () ∧ amounts.print = .ok refund ∧
        Retriable d.operatorKey context.bapId context.bapUri orderId (seatIdsFrom tags) booking.id
          (answeredFor booking target) amounts s₁.world.db := by
  obtain ⟨-, hsettled⟩ := settled_of_reach h
  obtain ⟨hrow, hseats⟩ := htargets.row
  obtain ⟨context, orderId, haction, haddress, hfound⟩ := htargets.reaches
  obtain ⟨row, hreference, hrecord⟩ := Option.map_eq_some_iff.mp hfound
  have hid : row.id = booking.id := by rw [← hrecord]
  -- the booking and its seats are found wherever the run goes
  have hstays := Reach.db_keeps (K := fun db =>
      (∃ row, db.bookingByReference d.operatorKey context.bapId context.bapUri orderId = some row ∧
        row.id = booking.id) ∧
      ∀ seatId ∈ seatIdsFrom tags, ∃ seat ∈ db.bookingSeats.rows, seat.bookingId = booking.id ∧
        seat.seatId = seatId) (fun hrun hkept => by
    obtain ⟨⟨row, hfound, hid⟩, hknown⟩ := hkept
    obtain ⟨row', hfound', hid'⟩ := bookingByReference_step hrun hfound
    refine ⟨⟨row', hfound', hid'.trans hid⟩, fun seatId hseatId => ?_⟩
    obtain ⟨seat, hseat, hb, rfl⟩ := hknown seatId hseatId
    obtain ⟨seat', hseat', hsame⟩ := seat_stays hrun ⟨seat, hseat, .refl seat⟩
    exact ⟨seat', hseat', hsame.bookingId.trans hb, hsame.seatId⟩) hserved.reach
      ⟨⟨row, hreference, hid⟩, htargets.known⟩
  obtain ⟨hfound₁, hknown₁⟩ := hstays
  by_cases hnone : confirmedOf target = []
  · obtain ⟨hdb, hresult⟩ := settled_of_served htargets hnone hserved
    rw [storedRefund_eq hsettled hrow hseats] at hresult
    refine ⟨context, orderId, c.hist.world.db.amounts booking.id cancelledOnly, haction, haddress,
      ?_, hfound₁, hknown₁, ?_, ?_⟩
    · cases hprint : (c.hist.world.db.amounts booking.id cancelledOnly).print with
      | error e =>
        rw [hprint] at hresult
        cases hresult
      | ok refund' =>
        rw [hprint] at hresult
        injection hresult with hanswer
        injection hanswer with _ hrefund
        rw [Option.some.inj hrefund]
    · intro seat hseat hb hmeant
      rw [hdb] at hseat
      rcases htargets.confirmed_or_cancelled hseat hb hmeant with hmem | hcancelled
      · rw [hnone] at hmem
        cases hmem
      · exact hcancelled
    · rw [hdb]
      exact accounted_settled htargets hnone
  · obtain ⟨nowMs, -, -, -, hend⟩ := commitment_of_served htargets hnone hserved
    generalize hresult : (Except.ok (Answer.order order (some refund) tags') :
      Except Failure Answer) = result at hend
    cases hend with
    | refused _ _ _ _ => cases hresult
    | @applied quote row₁ db₁ _ _ _ hcancelled _ hstore =>
      obtain ⟨refund', tag, hanswer, hpayload⟩ := commitmentAnswer_ok hresult.symm
      injection hanswer with _ hrefund
      have haccounted := accounted_applied hcancelled htargets.nodup htargets.confirmed
      refine ⟨context, orderId, amountsOf booking (confirmedOf target) nowMs, haction, haddress, ?_,
        hfound₁, hknown₁, ?_, ?_⟩
      · rw [print_amountsOf, hpayload, Option.some.inj hrefund]
      · intro seat' hseat' hb hmeant
        rw [hstore.seats, hcancelled.seats] at hseat'
        obtain ⟨seat, hseat, rfl⟩ := List.mem_map.mp hseat'
        have hsame := sameSeat_cancelSeats (cancellationOf booking (confirmedOf target) nowMs)
          (cancellationOf booking (confirmedOf target) nowMs).seatIds seat
        rw [hsame.seatId] at hmeant
        rcases htargets.confirmed_or_cancelled hseat (hsame.bookingId.symm.trans hb) hmeant with
          hmem | hcancelled
        · exact (haccounted.cancelled _ (hcancelled.seats ▸ List.mem_map_of_mem hseat) hb
            (hsame.seatId ▸ List.mem_map_of_mem hmem))
        · exact hsame.cancelled hcancelled
      · rw [answeredFor, if_neg hnone]
        refine ⟨?_, ?_⟩
        · rw [hstore.seats]
          exact haccounted.cancelled
        · rw [← haccounted.adds]
          simp only [ReservedDb.amounts, ReservedDb.total, hstore.seats]

/-! ## The retry -/

/-- **A retry answers what the first answer said, exactly if the others add nothing.** Whatever is
done between the two, the same commitment served again goes through and changes nothing, and its
refund is that of the first answer, line by line, if and only if the booking's other cancelled
seats add up to nothing. -/
theorem retry_same_iff {clock : ℤ} {source : Source} {c c₂ : Pool}
    (h : Reach (provider d) (fun _ _ => True) ⟨⟨World.initial clock source, []⟩, []⟩ c)
    {booking : BookingRecord} {target : List BookingSeatRow} {tags : Option (List BuyerTag)}
    (htargets : Targets d req c.hist.world.db booking target tags) {order : Order} {refund : Quote}
    {tags' : List Tag} {s₁ s₂ : History}
    (hfirst : Served d c.tasks.length req c.hist (.ok (.order order (some refund) tags')) s₁)
    (hbetween : Reach (provider d) (fun _ _ => True)
      ⟨s₁, c.tasks ++ [⟨req, .ret (.ok (.order order (some refund) tags'))⟩]⟩ c₂)
    {result : Except Failure Answer} (hretry : Served d c₂.tasks.length req c₂.hist result s₂) :
    ((∃ order' tags'', result = .ok (.order order' (some refund) tags'')) ∧
        s₂.world.db = c₂.hist.world.db) ↔
      c₂.hist.world.db.amounts booking.id (others (answeredFor booking target)) = ⟨0, 0, 0⟩ := by
  obtain ⟨context, orderId, amounts, haction, haddress, hprint, hretriable⟩ :=
    retriable_of_served h htargets hfirst
  obtain ⟨-, hsettled⟩ := settled_of_reach ((h.trans hfirst.reach).trans hbetween)
  have hretriable₂ : Retriable d.operatorKey context.bapId context.bapUri orderId
      (seatIdsFrom tags) booking.id (answeredFor booking target) amounts c₂.hist.world.db :=
    Reach.db_keeps (fun hrun hkept => hkept.step hrun) hbetween hretriable
  obtain ⟨booking₂, target₂, htargets₂, hnone, hid⟩ := hretriable₂.targets haction haddress
  obtain ⟨hdb, hresult⟩ := settled_of_served htargets₂ hnone hretry
  rw [storedRefund_eq hsettled htargets₂.row.1 htargets₂.row.2, hid] at hresult
  rw [← hretriable₂.accounted.cancelled_eq]
  constructor
  · rintro ⟨⟨order', tags'', hok⟩, -⟩
    rw [hok] at hresult
    cases hprint₂ : (c₂.hist.world.db.amounts booking.id cancelledOnly).print with
    | error e =>
      rw [hprint₂] at hresult
      cases hresult
    | ok refund₂ =>
      rw [hprint₂] at hresult
      injection hresult with hanswer
      injection hanswer with _ hrefund
      rw [← Option.some.inj hrefund] at hprint₂
      exact RefundAmounts.eq_of_print hprint₂ hprint
  · intro hsame
    rw [hsame, hprint] at hresult
    exact ⟨⟨booking₂.order, [], hresult⟩, hdb⟩

/-- The pool after the specimen's buyer committed for seat 1 alone. -/
def committed (c : Pool) (p : Except Failure Answer × History) : Pool :=
  ⟨p.2, c.tasks ++ [⟨specimenCancel "T1" specimenOrderId ["1"] "RFQ-KSRTC-Q1", .ret p.1⟩]⟩

/-- A retry right after the first answer. -/
theorem retry_same_iff_specimen : ∃ (c : Pool) (booking : BookingRecord)
    (target : List BookingSeatRow) (order : Order) (refund : Quote) (tags' : List Tag) (s₁ : History)
    (result : Except Failure Answer) (s₂ : History),
    Reach (provider specimenDeployment) (fun _ _ => True) specimenStart c ∧
    Served specimenDeployment c.tasks.length
      (specimenCancel "T1" specimenOrderId ["1"] "RFQ-KSRTC-Q1") c.hist
        (.ok (.order order (some refund) tags')) s₁ ∧
    refundAnswered result = some 8000 ∧
    (((∃ order' tags'', result = .ok (.order order' (some refund) tags'')) ∧
        s₂.world.db = s₁.world.db) ↔
      s₁.world.db.amounts booking.id (others (answeredFor booking target)) = ⟨0, 0, 0⟩) := by
  have hrun : (specimenStart.follow (provider specimenDeployment) (fun _ _ => true)
      (specimenSale ++ specimenQuote ["1"])).bind (fun c =>
        (commitAlone c ["1"] "RFQ-KSRTC-Q1").bind fun p =>
          (commitAlone (committed c p) ["1"] "RFQ-KSRTC-Q1").map fun q =>
            (refundAnswered p.1, refundAnswered q.1,
              (c.hist.world.db.bookingFound "ksrtc" "bap" "https://bap" specimenOrderId).bind
                fun booking => (targetSeats booking (seatIdsFrom
                  (commitmentTags ["1"] "RFQ-KSRTC-Q1"))).toOption.map fun target =>
                    (confirmedOf target).length)) = some (some 8000, some 8000, some 1) := by
    decide +kernel
  obtain ⟨c, hfollow, hrest⟩ := Option.bind_eq_some_iff.mp hrun
  obtain ⟨⟨first, s₁⟩, hfirst, hrest⟩ := Option.bind_eq_some_iff.mp hrest
  obtain ⟨⟨result, s₂⟩, hretry, hfacts⟩ := Option.map_eq_some_iff.mp hrest
  obtain ⟨hpaid, hrest⟩ := Prod.mk.inj hfacts
  obtain ⟨hrepaid, htarget⟩ := Prod.mk.inj hrest
  obtain ⟨order, refund, tags', rfl, -⟩ := of_refundAnswered hpaid
  have hreach : Reach (provider specimenDeployment) (fun _ _ => True) specimenStart c :=
    (Config.follow_reach .refl hfollow).mono fun _ _ _ => trivial
  obtain ⟨booking, target, htargets, -⟩ : ∃ booking target, Targets specimenDeployment
      (specimenCancel "T1" specimenOrderId ["1"] "RFQ-KSRTC-Q1") c.hist.world.db booking target
        (commitmentTags ["1"] "RFQ-KSRTC-Q1") ∧ confirmedOf target ≠ [] :=
    Targets.of_eval (n := 0) rfl rfl htarget
  exact ⟨c, booking, target, order, refund, tags', s₁, result, s₂, hreach, runAlone_alone hfirst,
    hrepaid, retry_same_iff hreach htargets (runAlone_alone hfirst) .refl (runAlone_alone hretry)⟩

/-- Seat 2 is cancelled between the commitment for seat 1 and its retry. -/
def cancelOther : List (Event Request Choice Happening) :=
  [.start (specimenSoftCancel "T1" specimenOrderId ["2"])] ++ steps 4 4 "q2" ++
    [.start (specimenCancel "T1" specimenOrderId ["2"] "RFQ-KSRTC-Q2")] ++ steps 5 9 ""

/-- The first answer was for 80 rupees, and its retry is for 160. -/
theorem retry_other_amount : ∃ (c : Pool) (booking : BookingRecord)
    (target : List BookingSeatRow) (order : Order) (refund : Quote) (tags' : List Tag) (s₁ : History) (c₂ : Pool)
    (result : Except Failure Answer) (s₂ : History),
    Reach (provider specimenDeployment) (fun _ _ => True) specimenStart c ∧
    Targets specimenDeployment (specimenCancel "T1" specimenOrderId ["1"] "RFQ-KSRTC-Q1")
      c.hist.world.db booking target (commitmentTags ["1"] "RFQ-KSRTC-Q1") ∧
    Served specimenDeployment c.tasks.length
      (specimenCancel "T1" specimenOrderId ["1"] "RFQ-KSRTC-Q1") c.hist
        (.ok (.order order (some refund) tags')) s₁ ∧
    Reach (provider specimenDeployment) (fun _ _ => True)
      (committed c (.ok (.order order (some refund) tags'), s₁)) c₂ ∧
    Served specimenDeployment c₂.tasks.length
      (specimenCancel "T1" specimenOrderId ["1"] "RFQ-KSRTC-Q1") c₂.hist result s₂ ∧
    ¬ ((∃ order' tags'', result = .ok (.order order' (some refund) tags'')) ∧
      s₂.world.db = c₂.hist.world.db) := by
  have hrun : (specimenStart.follow (provider specimenDeployment) (fun _ _ => true)
      (specimenSale ++ specimenQuote ["1"])).bind (fun c =>
        (commitAlone c ["1"] "RFQ-KSRTC-Q1").bind fun p =>
          ((committed c p).follow (provider specimenDeployment) (fun _ _ => true)
            cancelOther).bind fun c₂ =>
              (commitAlone c₂ ["1"] "RFQ-KSRTC-Q1").map fun q =>
                (refundAnswered p.1, refundAnswered q.1,
                  (c.hist.world.db.bookingFound "ksrtc" "bap" "https://bap" specimenOrderId).bind
                    fun booking => (targetSeats booking (seatIdsFrom
                      (commitmentTags ["1"] "RFQ-KSRTC-Q1"))).toOption.map fun target =>
                        (confirmedOf target).length)) =
      some (some 8000, some 16000, some 1) := by
    decide +kernel
  obtain ⟨c, hfollow, hrest⟩ := Option.bind_eq_some_iff.mp hrun
  obtain ⟨⟨first, s₁⟩, hfirst, hrest⟩ := Option.bind_eq_some_iff.mp hrest
  obtain ⟨c₂, hbetween, hrest⟩ := Option.bind_eq_some_iff.mp hrest
  obtain ⟨⟨result, s₂⟩, hretry, hfacts⟩ := Option.map_eq_some_iff.mp hrest
  obtain ⟨hpaid, hrest⟩ := Prod.mk.inj hfacts
  obtain ⟨hrepaid, htarget⟩ := Prod.mk.inj hrest
  obtain ⟨order, refund, tags', rfl, hpaise⟩ := of_refundAnswered hpaid
  have hreach : Reach (provider specimenDeployment) (fun _ _ => True) specimenStart c :=
    (Config.follow_reach .refl hfollow).mono fun _ _ _ => trivial
  obtain ⟨booking, target, htargets, -⟩ : ∃ booking target, Targets specimenDeployment
      (specimenCancel "T1" specimenOrderId ["1"] "RFQ-KSRTC-Q1") c.hist.world.db booking target
        (commitmentTags ["1"] "RFQ-KSRTC-Q1") ∧ confirmedOf target ≠ [] :=
    Targets.of_eval (n := 0) rfl rfl htarget
  refine ⟨c, booking, target, order, refund, tags', s₁, c₂, result, s₂, hreach, htargets,
    runAlone_alone hfirst, (Config.follow_reach .refl hbetween).mono fun _ _ _ => trivial,
    runAlone_alone hretry, ?_⟩
  rintro ⟨⟨order', tags'', rfl⟩, -⟩
  have hrefunded : refund.price.paise = 16000 := Option.some.inj hrepaid
  omega

end TransitBpp
