import TransitBpp.Refunds

/-!
# Refunds and owed money

Three totals are kept of one booking's money: the refunds on its seats, the refund on the booking,
and what `unattributedBookings` says is still owed. `Settled` is what every run keeps, with no
condition on it: a booking's columns add up its seats, a cancelled seat was refunded by the slab in
force at the instant it was cancelled, and a confirmed seat was refunded nothing. The rest is the
arithmetic of one seat, `retainedOf_eq`, added up.
-/

namespace TransitBpp

open Interleave Js

variable {db db' : ReservedDb} {t : Transaction} {raw : String} {d : Deployment}

/-! ## Totals over the seats of a booking -/

/-- What the seats of a booking add up to. -/
def ReservedDb.total (db : ReservedDb) (amount : BookingSeatRow → ℤ) (bookingId : String) : ℤ :=
  ((db.bookingSeats.rows.filter fun seat => seat.bookingId = bookingId).map amount).sum

/-- An amount that no seat of the booking changes goes on adding up to the same. -/
theorem total_step {amount : BookingSeatRow → ℤ} {bookingId : String} {a : t.Answer}
    (hrun : t.run raw db = .ok (a, db'))
    (hkeep : ∀ seat ∈ db.bookingSeats.rows, ∀ seat', SeatMove t seat seat' →
      seat.bookingId = bookingId → amount seat' = amount seat)
    (hnew : ∀ seat ∈ t.newSeats, seat.bookingId ≠ bookingId) :
    db'.total amount bookingId = db.total amount bookingId := by
  obtain ⟨g, new, hmoved⟩ := Transaction.seats_moved hrun
  have hnone : new.filter (fun seat => seat.bookingId = bookingId) = [] := by
    rw [hmoved.new, List.filter_eq_nil_iff]
    intro seat hseat
    simpa using hnew seat hseat
  have hsame : ((fun seat : BookingSeatRow => decide (seat.bookingId = bookingId)) ∘ g) =
      fun seat => decide (seat.bookingId = bookingId) := by
    funext seat
    rw [Function.comp_apply, (hmoved.moves seat).bookingId]
  rw [ReservedDb.total, hmoved.rows, List.filter_append, hnone, List.append_nil, List.filter_map,
    hsame, List.map_map, ReservedDb.total]
  refine congrArg List.sum (List.map_congr_left fun seat hseat => ?_)
  obtain ⟨hmem, hid⟩ := List.mem_filter.mp hseat
  exact hkeep seat hmem _ (hmoved.moves seat) (of_decide_eq_true hid)

/-- The seats a transaction appends are not of a booking there was. -/
theorem newSeats_fresh {a : t.Answer} (hrun : t.run raw db = .ok (a, db')) {row : BookingRow}
    (hrow : row ∈ db.bookings.rows) : ∀ seat ∈ t.newSeats, seat.bookingId ≠ row.id := by
  intro seat hseat
  cases t with
  | confirmBooking params =>
    obtain ⟨new, -, rfl⟩ := List.mem_map.mp hseat
    exact Ne.symm ((confirmBooking_ok hrun).fresh row hrow)
  | _ => cases hseat

/-- A booking about to be made adds up its seats. -/
theorem total_new {params : ConfirmBooking} (hlinked : Linked db)
    (hbooked : HoldBooked params db db') {amount : BookingSeatRow → ℤ} :
    db'.total amount params.orderId = (params.seatRows.map amount).sum := by
  have hnone : db.bookingSeats.rows.filter (fun seat => seat.bookingId = params.orderId) = [] := by
    rw [List.filter_eq_nil_iff]
    intro seat hseat hid
    obtain ⟨booking, hbooking, hbid⟩ := hlinked.seated seat hseat
    exact hbooked.fresh booking hbooking (hbid.trans (of_decide_eq_true hid))
  have hall : params.seatRows.filter (fun seat => seat.bookingId = params.orderId) =
      params.seatRows := by
    rw [List.filter_eq_self]
    intro seat hseat
    obtain ⟨new, -, rfl⟩ := List.mem_map.mp hseat
    exact decide_eq_true rfl
  rw [ReservedDb.total, hbooked.seats, List.filter_append, hnone, hall, List.nil_append]

/-! ## What every run keeps -/

/-- What a seat was refunded, if it was cancelled, is what the slab of that instant gives back. -/
def BookingSeatRow.RefundedBySlab (seat : BookingSeatRow) (departureAt : ℤ) : Prop :=
  ∃ at_, seat.cancelledAt = some at_ ∧
    seat.refundPaise = some (seat.refundable.refundPaise (slabFor departureAt at_))

/-- The money of every booking is accounted for. -/
structure Settled (db : ReservedDb) : Prop where
  /-- a booking refunded what its seats did -/
  refund : ∀ row ∈ db.bookings.rows, row.refundPaise.getD 0 = db.refundTotal row.id
  /-- its base fare is that of its seats -/
  base : ∀ row ∈ db.bookings.rows, row.basePaise = db.total BookingSeatRow.basePaise row.id
  /-- and so is its reservation fee -/
  fee : ∀ row ∈ db.bookings.rows, row.reservationFeePaise =
    db.total BookingSeatRow.reservationFeePaise row.id
  /-- nothing is refunded on a confirmed seat -/
  nothing : NothingPaid db
  /-- a cancelled seat is refunded by the slab it was cancelled in -/
  bySlab : ∀ seat ∈ db.bookingSeats.rows, seat.status = .cancelled →
    ∀ row ∈ db.bookings.rows, row.id = seat.bookingId → seat.RefundedBySlab row.departureAt

theorem Settled.empty : Settled .empty :=
  ⟨fun _ h => absurd h List.not_mem_nil, fun _ h => absurd h List.not_mem_nil,
    fun _ h => absurd h List.not_mem_nil, fun _ h => absurd h List.not_mem_nil,
    fun _ h => absurd h List.not_mem_nil⟩

/-- A cancellation refunds each seat it names what the slab in force gives back. -/
def ApplyCancellation.RefundsBySlab (params : ApplyCancellation) (db : ReservedDb) : Prop :=
  ∀ seat ∈ db.bookingSeats.rows, seat.bookingId = params.bookingId →
    seat.seatId ∈ params.seatIds → ∀ row ∈ db.bookings.rows, row.id = params.bookingId →
      mapGet params.refundBySeat seat.seatId =
        some (seat.refundable.refundPaise (slabFor row.departureAt params.nowMs))

/-- A column that never changes, and that a confirm adds up, stays added up. -/
theorem column_step (hlinked : Linked db) {a : t.Answer} (hrun : t.run raw db = .ok (a, db'))
    {column : BookingRow → ℤ} {amount : BookingSeatRow → ℤ}
    (hcolumn : ∀ row row', SameBooking row row' → column row' = column row)
    (hamount : ∀ seat seat', SameSeat seat seat' → amount seat' = amount seat)
    (hnew : ∀ params : ConfirmBooking, column params.row = (params.seatRows.map amount).sum)
    (h : ∀ row ∈ db.bookings.rows, column row = db.total amount row.id) :
    ∀ row ∈ db'.bookings.rows, column row = db'.total amount row.id := by
  intro row' hrow'
  rcases booking_after hrun hrow' with ⟨row, hrow, hsame⟩ | ⟨params, rfl, rfl⟩
  · rw [hcolumn row row' hsame, hsame.id, h row hrow]
    exact (total_step hrun (fun seat _ seat' hmove _ => hamount seat seat' hmove.same)
      (newSeats_fresh hrun hrow)).symm
  · rw [hnew]
    exact (total_new hlinked (confirmBooking_ok hrun)).symm

/-- Every booking goes on having refunded what its seats did. -/
theorem Settled.refund_step (h : Settled db) (hlinked : Linked db) {a : t.Answer}
    (hrun : t.run raw db = .ok (a, db')) :
    ∀ row ∈ db'.bookings.rows, row.refundPaise.getD 0 = db'.refundTotal row.id := by
  by_cases hcancel : ∃ params, t = .applyCancellation params
  · obtain ⟨params, rfl⟩ := hcancel
    have hcancelled := applyCancellation_ok hrun
    intro row' hrow'
    rw [hcancelled.bookings] at hrow'
    obtain ⟨row, hrow, rfl⟩ := List.mem_map.mp hrow'
    by_cases hid : row.id = params.bookingId
    · -- the booking is written the total there is
      rw [settleBooking, setIf, if_pos (decide_eq_true hid)]
      dsimp only
      rw [hid, Option.getD_some]
    · rw [settleBooking, setIf, if_neg (by simpa using hid), h.refund row hrow]
      refine (total_step hrun ?_ (newSeats_fresh hrun hrow)).symm
      intro seat _ seat' hmove hseat
      cases hmove with
      | cancel params' ht hb =>
        obtain rfl := Transaction.applyCancellation.inj ht
        exact absurd (hseat.symm.trans hb) hid
      | _ => rfl
  · exact refund_other hlinked (fun params ht => hcancel ⟨params, ht⟩) hrun h.refund

/-- The step lemma. -/
theorem Settled.step (h : Settled db) (hlinked : Linked db) {a : t.Answer}
    (hrun : t.run raw db = .ok (a, db'))
    (hcancel : ∀ params, t = .applyCancellation params → params.RefundsBySlab db) :
    Settled db' := by
  refine ⟨h.refund_step hlinked hrun, ?_, ?_, ?_, ?_⟩
  · refine column_step hlinked hrun (fun row row' hsame => by rw [hsame.eq])
      (fun seat seat' hsame => by rw [hsame.eq]) (fun params => ?_) h.base
    simp [ConfirmBooking.row, ConfirmBooking.seatRows, Function.comp_def]
  · refine column_step hlinked hrun (fun row row' hsame => by rw [hsame.eq])
      (fun seat seat' hsame => by rw [hsame.eq]) (fun params => ?_) h.fee
    simp [ConfirmBooking.row, ConfirmBooking.seatRows, Function.comp_def]
  · intro seat' hseat' hstatus
    rcases seat_after hrun hseat' with ⟨seat, hseat, hmove⟩ | hnew
    · cases hmove with
      | stay => exact h.nothing _ hseat hstatus
      | cancel _ _ _ _ _ => cases hstatus
      | clear _ _ _ => exact h.nothing seat hseat hstatus
    · exact (newSeats_confirmed hnew).2
  · intro seat' hseat' hstatus row' hrow' hid
    rcases seat_after hrun hseat' with ⟨seat, hseat, hmove⟩ | hnew
    · -- its booking was there before
      obtain ⟨b, hb, hbid⟩ := hlinked.seated seat hseat
      rw [hmove.bookingId] at hid
      rcases booking_after hrun hrow' with ⟨row, hrow, hsame⟩ | ⟨params, rfl, rfl⟩
      · rw [hsame.departureAt]
        have hrid := hsame.id.symm.trans hid
        cases hmove with
        | stay => exact h.bySlab _ hseat hstatus row hrow hrid
        | cancel params ht hsb hsid _ =>
          refine ⟨params.nowMs, rfl, ?_⟩
          dsimp only
          rw [hcancel params ht seat hseat hsb hsid row hrow (hrid.trans hsb)]
          rfl
        | clear _ _ _ => exact h.bySlab seat hseat hstatus row hrow hrid
      · exact absurd (hbid.trans hid.symm) ((confirmBooking_ok hrun).fresh b hb)
    · rw [(newSeats_confirmed hnew).1] at hstatus
      cases hstatus

/-- Whatever was cancelled since it read the booking, a cancellation refunds by the slab. -/
theorem CancelRun.refundsBySlab {s : History} {i : ℕ} {req : Request} (hreads : Reads s)
    (run : CancelRun d req (own i s.trace)) : run.params.RefundsBySlab s.world.db := by
  obtain ⟨hdistinct, hof⟩ := hreads.distinct i _ _ (mem_own.mp run.seats)
  obtain ⟨row₀, hrow₀, hsame₀⟩ := hreads.row _ (mem_own.mp run.row) _ rfl
  intro seat hseat hb hsid row hrow hrid
  -- the seat it read is the seat there is, and so is the booking
  obtain ⟨read, hread, hreadId⟩ := List.mem_map.mp (mem_sort.mp hsid)
  have hfound : read ∈ run.booking.seats :=
    (targetSeats_sublist run.target_eq).subset (List.mem_of_mem_filter hread)
  obtain ⟨seat', hseat', hsame⟩ := hreads.seats i _ _ (mem_own.mp run.seats) read hfound
  obtain rfl : seat' = seat := seat_unique hseat' hseat
    (hsame.bookingId.trans ((hof read hfound).trans hb.symm)) (hsame.seatId.trans hreadId)
  obtain rfl : row₀ = row :=
    (s.world.db.bookings.unique BookingRow.primaryKey (List.mem_cons_self ..)).eq_of_key hrow₀ hrow
      (congrArg (fun id => some [id]) (hsame₀.id.trans hrid.symm)) rfl
  have hpaid : mapGet run.params.refundBySeat read.seatId =
      some (read.refundable.refundPaise (slabFor run.booking.departureAt run.nowMs)) :=
    mapGet_refundFor (nodup_confirmedOf hdistinct run.target_eq) hread
  rw [hsame.seatId, hsame₀.departureAt]
  refine hpaid.trans ?_
  rw [BookingSeatRow.refundable, BookingSeatRow.refundable, hsame.eq]
  rfl

/-- What every run keeps. -/
theorem settled_of_reach {clock : ℤ} {source : Source} {c : Pool}
    (h : Reach (provider d) (fun _ _ => True) ⟨⟨World.initial clock source, []⟩, []⟩ c) :
    Base c.hist ∧ Settled c.hist.world.db := by
  have hkeep := run_keeps (fun s => Settled s.world.db) Settled.empty ?_ ?_ h
  · exact ⟨hkeep.1, hkeep.2.2⟩
  · rintro s s' i req op r hbase hreads hinv - hknows ⟨o, w, hexec, rfl⟩
    rcases World.exec_db hexec with ⟨hdb, -⟩ | ⟨t, a, heq, hrun⟩
    · rwa [hdb]
    · cases heq
      refine hinv.step hbase.store.linked hrun ?_
      rintro params rfl
      obtain ⟨run, rfl⟩ := hknows
      exact run.refundsBySlab hreads
  · intro s w hinv hdb _
    rwa [hdb]

/-! ## What is owed -/

/-- What the corporation keeps of one seat: all of a confirmed one but the toll, and of a cancelled
one what the slab in force when it was cancelled retained. -/
def retainedOf (row : BookingRow) (seat : BookingSeatRow) : ℤ :=
  match seat.status with
  | .confirmed => seat.basePaise + seat.reservationFeePaise
  | .cancelled => retainedPaise [seat.refundable]
      (slabFor row.departureAt (seat.cancelledAt.getD 0)).deductionPercent

/-- The toll of a seat, while it is confirmed. -/
def heldToll (seat : BookingSeatRow) : ℤ := if seat.status = .confirmed then seat.tollPaise else 0

/-- The toll of a seat, once it is cancelled. -/
def cancelledToll (seat : BookingSeatRow) : ℤ :=
  if seat.status = .cancelled then seat.tollPaise else 0

/-- What was paid for a seat. -/
def paidPaise (seat : BookingSeatRow) : ℤ :=
  seat.basePaise + seat.reservationFeePaise + seat.tollPaise

/-- One seat: what is kept of it is its fare and fee less its refund, toll aside. -/
theorem retainedOf_eq (h : Settled db) {seat : BookingSeatRow} (hseat : seat ∈ db.bookingSeats.rows)
    {row : BookingRow} (hrow : row ∈ db.bookings.rows) (hid : row.id = seat.bookingId) :
    retainedOf row seat = seat.basePaise + seat.reservationFeePaise - seat.refundPaise.getD 0 +
      cancelledToll seat := by
  rw [retainedOf, cancelledToll]
  split
  · rename_i hstatus
    rw [h.nothing seat hseat hstatus, hstatus]
    simp
  · rename_i hstatus
    obtain ⟨at_, hat, hrefund⟩ := h.bySlab seat hseat hstatus row hrow hid
    rw [hat, hrefund, hstatus]
    simp only [retainedPaise, List.map_cons, List.map_nil, List.sum_cons, List.sum_nil,
      Option.getD_some, RefundableSeat.refundPaise, BookingSeatRow.refundable, if_true]
    omega

/-- The tolls of the cancelled seats, as the query adds them. -/
theorem cancelledTolls_eq (db : ReservedDb) (bookingId : String) :
    db.cancelledTolls bookingId = db.total cancelledToll bookingId := by
  rw [ReservedDb.cancelledTolls, ReservedDb.total]
  generalize db.bookingSeats.rows = seats
  induction seats with
  | nil => rfl
  | cons seat seats ih =>
    by_cases hb : seat.bookingId = bookingId
    · cases hs : seat.status <;> simp [hb, hs, cancelledToll, ih]
    · simpa [hb] using ih

/-- One booking: what it owes is what is kept of its seats. -/
theorem owedPaise_eq (h : Settled db) {row : BookingRow} (hrow : row ∈ db.bookings.rows) :
    db.owedPaise row = db.total (retainedOf row) row.id := by
  have hseats : db.total (retainedOf row) row.id = db.total (fun seat => seat.basePaise +
      seat.reservationFeePaise - seat.refundPaise.getD 0 + cancelledToll seat) row.id := by
    refine congrArg List.sum (List.map_congr_left fun seat hseat => ?_)
    obtain ⟨hmem, hid⟩ := List.mem_filter.mp hseat
    exact retainedOf_eq h hmem hrow (of_decide_eq_true hid).symm
  rw [ReservedDb.owedPaise, h.base row hrow, h.fee row hrow, h.refund row hrow, cancelledTolls_eq,
    hseats, ReservedDb.refundTotal]
  simp only [ReservedDb.total]
  generalize (db.bookingSeats.rows.filter fun seat => seat.bookingId = row.id) = seats
  induction seats with
  | nil => rfl
  | cons seat seats ih =>
    simp only [List.map_cons, List.sum_cons]
    omega

/-! ## Departures -/

/-- The bookings of a departure whose sale is owed to no corporation yet. -/
def ReservedDb.unattributedOn (db : ReservedDb) (serviceId travelDate : String) :
    List BookingRow :=
  db.unattributed.filter fun row => row.serviceId = serviceId && row.travelDate = travelDate

theorem mem_unattributedBookings {owed : OwedDeparture} (h : owed ∈ db.unattributedBookings) :
    owed.owedPaise =
      ((db.unattributedOn owed.serviceId owed.travelDate).map db.owedPaise).sum := by
  obtain ⟨departure, -, rfl⟩ := List.mem_map.mp h
  rfl

/-- Every booking that is owed to no corporation is on the backlog. -/
theorem exists_unattributedBookings {row : BookingRow} (hrow : row ∈ db.bookings.rows)
    (hnone : row.settlementCorporation = none) : ∃ owed ∈ db.unattributedBookings,
      owed.serviceId = row.serviceId ∧ owed.travelDate = row.travelDate := by
  have hmem : row ∈ db.unattributed := List.mem_filter.mpr ⟨hrow, decide_eq_true hnone⟩
  refine ⟨_, List.mem_map_of_mem (a := (row.serviceId, row.travelDate)) ?_, rfl, rfl⟩
  rw [List.mem_insertionSort, mem_unique]
  exact List.mem_map_of_mem hmem

theorem mem_unattributedOn {serviceId travelDate : String} {row : BookingRow}
    (h : row ∈ db.unattributedOn serviceId travelDate) : row ∈ db.bookings.rows :=
  (List.mem_filter.mp (List.mem_filter.mp h).1).1

/-- One booking: its refund, what it owes and the tolls of its confirmed seats are what was paid. -/
theorem paid_eq (h : Settled db) {row : BookingRow} (hrow : row ∈ db.bookings.rows) :
    row.refundPaise.getD 0 + db.owedPaise row + db.total heldToll row.id =
      db.total paidPaise row.id := by
  rw [ReservedDb.owedPaise, h.refund row hrow, h.base row hrow, h.fee row hrow, cancelledTolls_eq,
    ReservedDb.refundTotal]
  simp only [ReservedDb.total]
  generalize (db.bookingSeats.rows.filter fun seat => seat.bookingId = row.id) = seats
  induction seats with
  | nil => rfl
  | cons seat seats ih =>
    simp only [List.map_cons, List.sum_cons, paidPaise]
    have htoll : heldToll seat + cancelledToll seat = seat.tollPaise := by
      cases hs : seat.status <;> simp [heldToll, cancelledToll, hs]
    omega

/-- **Refunds and owed money are conserved.** In every state of every run: a booking refunded what
its seats did; a cancelled seat carries its instant; every unattributed booking is on the backlog;
and what the backlog says a departure owes is the fare and fee of its confirmed seats and what the
slab of its instant retained of each cancelled one, so that with the refunds and the tolls of the
confirmed seats it makes up all that was paid. -/
theorem refunds_and_owed_conserved {clock : ℤ} {source : Source} {c : Pool}
    (h : Reach (provider d) (fun _ _ => True) ⟨⟨World.initial clock source, []⟩, []⟩ c) :
    (∀ row ∈ c.hist.world.db.bookings.rows,
      row.refundPaise.getD 0 = c.hist.world.db.refundTotal row.id) ∧
    (∀ seat ∈ c.hist.world.db.bookingSeats.rows, seat.status = .cancelled →
      seat.cancelledAt.isSome) ∧
    (∀ row ∈ c.hist.world.db.bookings.rows, row.settlementCorporation = none →
      ∃ owed ∈ c.hist.world.db.unattributedBookings,
        owed.serviceId = row.serviceId ∧ owed.travelDate = row.travelDate) ∧
    ∀ owed ∈ c.hist.world.db.unattributedBookings,
      owed.owedPaise = ((c.hist.world.db.unattributedOn owed.serviceId owed.travelDate).map
        fun row => c.hist.world.db.total (retainedOf row) row.id).sum ∧
      ((c.hist.world.db.unattributedOn owed.serviceId owed.travelDate).map
          fun row => row.refundPaise.getD 0).sum + owed.owedPaise +
        ((c.hist.world.db.unattributedOn owed.serviceId owed.travelDate).map
          fun row => c.hist.world.db.total heldToll row.id).sum =
        ((c.hist.world.db.unattributedOn owed.serviceId owed.travelDate).map
          fun row => c.hist.world.db.total paidPaise row.id).sum := by
  obtain ⟨hbase, hsettled⟩ := settled_of_reach h
  refine ⟨hsettled.refund, ?_, fun row hrow hnone => exists_unattributedBookings hrow hnone, ?_⟩
  · intro seat hseat hstatus
    obtain ⟨row, hrow, hid⟩ := hbase.store.linked.seated seat hseat
    obtain ⟨at_, hat, -⟩ := hsettled.bySlab seat hseat hstatus row hrow hid
    rw [hat, Option.isSome_some]
  · intro owed howed
    have hsum := mem_unattributedBookings howed
    constructor
    · rw [hsum]
      exact congrArg List.sum (List.map_congr_left fun row hrow =>
        owedPaise_eq hsettled (mem_unattributedOn hrow))
    · rw [hsum]
      have hall : ∀ row ∈ c.hist.world.db.unattributedOn owed.serviceId owed.travelDate,
          row ∈ c.hist.world.db.bookings.rows := fun row hrow => mem_unattributedOn hrow
      generalize c.hist.world.db.unattributedOn owed.serviceId owed.travelDate = rows at hall ⊢
      induction rows with
      | nil => rfl
      | cons row rows ih =>
        have hrow := paid_eq hsettled (hall row (List.mem_cons_self ..))
        have hrows := ih fun row' hrow' => hall row' (List.mem_cons_of_mem _ hrow')
        simp only [List.map_cons, List.sum_cons]
        omega

/-- Of two seats sold and one cancelled within three days of departure, a quarter of one fare, the
whole of the other and both fees are owed. -/
theorem refunds_and_owed_conserved_specimen : ∃ c,
    Reach (provider specimenDeployment) (fun _ _ => True) specimenStart c ∧
    c.hist.world.db.unattributedBookings = [⟨"S1", "2026-09-10", 1, 14500⟩] ∧
    ∀ owed ∈ c.hist.world.db.unattributedBookings,
      ((c.hist.world.db.unattributedOn owed.serviceId owed.travelDate).map
          fun row => row.refundPaise.getD 0).sum + owed.owedPaise +
        ((c.hist.world.db.unattributedOn owed.serviceId owed.travelDate).map
          fun row => c.hist.world.db.total heldToll row.id).sum =
        ((c.hist.world.db.unattributedOn owed.serviceId owed.travelDate).map
          fun row => c.hist.world.db.total paidPaise row.id).sum := by
  have hrun : (specimenStart.follow (provider specimenDeployment) (fun _ _ => true)
      (specimenSale ++ specimenQuote ["1"] ++
        [.start (specimenCancel "T1" specimenOrderId ["1"] "RFQ-KSRTC-Q1")] ++ steps 3 9 "")).map
        (fun c => c.hist.world.db.unattributedBookings) =
      some [⟨"S1", "2026-09-10", 1, 14500⟩] := by
    decide +kernel
  obtain ⟨c, hfollow, howed⟩ := Option.map_eq_some_iff.mp hrun
  have hreach : Reach (provider specimenDeployment) (fun _ _ => True) specimenStart c :=
    (Config.follow_reach .refl hfollow).mono fun _ _ _ => trivial
  obtain ⟨-, -, -, hconserved⟩ := refunds_and_owed_conserved hreach
  exact ⟨c, hreach, howed, fun owed h => (hconserved owed h).2⟩

end TransitBpp
