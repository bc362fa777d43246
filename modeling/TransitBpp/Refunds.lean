import Mathlib.Algebra.BigOperators.Group.Finset.Basic
import TransitBpp.Reads
import TransitBpp.Slabs

/-!
# A seat's refund is paid once

A cancellation decides by what it read before its transaction; the transaction itself cancels
whichever of its seats are still confirmed. `Paid` is the invariant behind "each refund is paid
once": the cancellations committed so far name disjoint seats, none of them confirmed any more,
and what they pay is what the store has written down. It survives everything but a cancellation
that commits after somebody else cancelled one of its seats, and `StillConfirmed` is the condition
that none does.
-/

namespace TransitBpp

open Interleave Js

variable {db db' : ReservedDb} {t : Transaction} {raw : String} {d : Deployment}

/-! ## What one cancellation pays -/

/-- What a cancellation pays for its seats. -/
def ApplyCancellation.total (params : ApplyCancellation) : ℤ :=
  (params.seatIds.map fun seatId => (mapGet params.refundBySeat seatId).getD 0).sum

/-- What a cancellation computes for a seat of those it finds. -/
theorem mapGet_refundFor {booking : BookingRecord} {live : List BookingSeatRow} {nowMs : ℤ}
    (hlive : (live.map BookingSeatRow.seatId).Nodup) {seat : BookingSeatRow} (h : seat ∈ live) :
    mapGet (refundFor booking live nowMs).perSeatPaise seat.seatId =
      some (seat.refundable.refundPaise (slabFor booking.departureAt nowMs)) := by
  have hnodup : ((live.map BookingSeatRow.refundable).map RefundableSeat.seatId).Nodup := by
    rwa [List.map_map]
  exact mapGet_perSeatPaise booking.departureAt nowMs hnodup (List.mem_map_of_mem h)

/-- A cancellation pays the refund it computed. -/
theorem total_cancellationOf {booking : BookingRecord} {live : List BookingSeatRow} {nowMs : ℤ}
    (hlive : (live.map BookingSeatRow.seatId).Nodup) :
    (cancellationOf booking live nowMs).total = (refundFor booking live nowMs).refundPaise := by
  have hperm := (sort_perm (live.map BookingSeatRow.seatId)).map fun seatId =>
    (mapGet (refundFor booking live nowMs).perSeatPaise seatId).getD 0
  rw [ApplyCancellation.total, cancellationOf, hperm.sum_eq, List.map_map, refundFor,
    computeRefund_refundPaise, List.map_map]
  refine congrArg List.sum (List.map_congr_left fun seat hseat => ?_)
  exact congrArg (fun paid : Option ℤ => paid.getD 0) (mapGet_refundFor hlive hseat)

/-- The seats of a booking that a cancellation finds confirmed are the seats it names, if it finds
them all. -/
theorem cancelled_perm {params : ApplyCancellation} (hnodup : params.seatIds.Nodup)
    (hconfirmed : ∀ seatId ∈ params.seatIds, db.Confirmed params.bookingId seatId) :
    (((db.bookingSeats.rows.filter fun seat => seat.bookingId = params.bookingId).filter
      fun seat => seat.seatId ∈ params.seatIds && seat.status = .confirmed).map
        BookingSeatRow.seatId).Perm params.seatIds := by
  refine (List.perm_ext_iff_of_nodup ?_ hnodup).mpr fun seatId => ?_
  · have hsub := ((List.filter_sublist (l := db.bookingSeats.rows.filter fun seat =>
      seat.bookingId = params.bookingId) (p := fun seat => seat.seatId ∈ params.seatIds &&
        seat.status = .confirmed)).map BookingSeatRow.seatId)
    refine hsub.nodup ?_
    have hperm := (List.perm_insertionSort (fun a b : BookingSeatRow => a.seatId ≤ b.seatId)
      (db.bookingSeats.rows.filter fun seat => seat.bookingId = params.bookingId)).map
        BookingSeatRow.seatId
    exact hperm.nodup_iff.mp (nodup_seatsOf db params.bookingId)
  · constructor
    · intro h
      obtain ⟨seat, hmem, rfl⟩ := List.mem_map.mp h
      have hseat := (List.mem_filter.mp hmem).2
      rw [Bool.and_eq_true, decide_eq_true_eq] at hseat
      exact hseat.1
    · intro h
      obtain ⟨seat, hmem, hb, rfl, hstatus⟩ := hconfirmed seatId h
      refine List.mem_map_of_mem (List.mem_filter.mpr ⟨List.mem_filter.mpr ⟨hmem, ?_⟩, ?_⟩)
      · exact decide_eq_true hb
      · simp [h, hstatus]

/-- Nothing refunded on a seat that is confirmed. -/
def NothingPaid (db : ReservedDb) : Prop :=
  ∀ seat ∈ db.bookingSeats.rows, seat.status = .confirmed → seat.refundPaise = none

/-- What a booking refunded grows by what the cancellation pays. -/
theorem refundTotal_cancel {params : ApplyCancellation} (hnothing : NothingPaid db)
    (hnodup : params.seatIds.Nodup)
    (hconfirmed : ∀ seatId ∈ params.seatIds, db.Confirmed params.bookingId seatId)
    (hcancelled : SeatsCancelled params db db') (bookingId : String) :
    db'.refundTotal bookingId = db.refundTotal bookingId +
      if params.bookingId = bookingId then params.total else 0 := by
  have hrows : (db'.bookingSeats.rows.filter fun seat => seat.bookingId = bookingId) =
      (db.bookingSeats.rows.filter fun seat => seat.bookingId = bookingId).map
        (cancelSeats params params.seatIds) := by
    rw [hcancelled.seats, List.filter_map]
    refine congrArg _ (List.filter_congr fun seat _ => ?_)
    rw [Function.comp_apply, cancelSeats, setIf]
    split <;> rfl
  rw [ReservedDb.refundTotal, hrows, List.map_map, ReservedDb.refundTotal]
  -- a seat is paid what it was paid before, and its refund if this cancels it
  have hpaid : ∀ seat ∈ db.bookingSeats.rows.filter fun seat => seat.bookingId = bookingId,
      ((fun seat : BookingSeatRow => seat.refundPaise.getD 0) ∘
        cancelSeats params params.seatIds) seat = seat.refundPaise.getD 0 +
          if params.bookingId = bookingId ∧ seat.seatId ∈ params.seatIds ∧
            seat.status = .confirmed then (mapGet params.refundBySeat seat.seatId).getD 0
          else 0 := by
    intro seat hseat
    obtain ⟨hmem, hb⟩ := List.mem_filter.mp hseat
    rw [decide_eq_true_eq] at hb
    by_cases hc : params.bookingId = bookingId ∧ seat.seatId ∈ params.seatIds ∧
        seat.status = .confirmed
    · rw [if_pos hc, Function.comp_apply, cancelSeats, setIf, if_pos (by simp [hb, hc]),
        hnothing seat hmem hc.2.2]
      simp
    · rw [if_neg hc, Function.comp_apply, cancelSeats, setIf, if_neg, add_zero]
      simp only [Bool.and_eq_true, decide_eq_true_eq, hb]
      exact fun h => hc ⟨h.1.1.symm, h.1.2, h.2⟩
  rw [List.map_congr_left hpaid, List.sum_map_add]
  congr 1
  split
  · rename_i hid
    subst hid
    rw [ApplyCancellation.total, ← ((cancelled_perm hnodup hconfirmed).map fun seatId =>
      (mapGet params.refundBySeat seatId).getD 0).sum_eq, List.map_map]
    have hone : ∀ seats : List BookingSeatRow, (seats.map fun seat =>
        if params.bookingId = params.bookingId ∧ seat.seatId ∈ params.seatIds ∧
          seat.status = .confirmed then (mapGet params.refundBySeat seat.seatId).getD 0
        else 0).sum = ((seats.filter fun seat => seat.seatId ∈ params.seatIds &&
          seat.status = .confirmed).map ((fun seatId =>
            (mapGet params.refundBySeat seatId).getD 0) ∘ BookingSeatRow.seatId)).sum := by
      intro seats
      induction seats with
      | nil => rfl
      | cons seat seats ih =>
        rw [List.map_cons, List.sum_cons, ih, List.filter_cons]
        by_cases hc : seat.seatId ∈ params.seatIds ∧ seat.status = .confirmed
        · simp [hc]
        · simp only [hc, and_false, if_false, zero_add]
          rw [if_neg (by simpa using hc)]
    exact hone _
  · rename_i hid
    simp [hid]

/-! ## What the others leave alone -/

/-- Only a cancellation pays or cancels a seat. -/
theorem SeatMove.paid {seat seat' : BookingSeatRow} (h : SeatMove t seat seat')
    (hcancel : ∀ params, t ≠ .applyCancellation params) :
    seat'.refundPaise = seat.refundPaise ∧ seat'.status = seat.status := by
  cases h with
  | stay => exact ⟨rfl, rfl⟩
  | cancel params ht => exact absurd ht (hcancel params)
  | clear _ _ _ => exact ⟨rfl, rfl⟩

/-- Only a cancellation of its own settles a booking. -/
theorem BookingMove.paid {row row' : BookingRow} (h : BookingMove t row row')
    (hcancel : ∀ params, t = .applyCancellation params → params.bookingId ≠ row.id) :
    row'.refundPaise = row.refundPaise ∧ row'.slabCode = row.slabCode ∧
      row'.cancelledAt = row.cancelledAt := by
  cases h with
  | settle params _ _ ht hid => exact absurd hid.symm (hcancel params ht)
  | _ => exact ⟨rfl, rfl, rfl⟩

/-- The seats a transaction appends are confirmed, and nothing was refunded on them. -/
theorem newSeats_confirmed {seat : BookingSeatRow} (h : seat ∈ t.newSeats) :
    seat.status = .confirmed ∧ seat.refundPaise = none := by
  cases t with
  | confirmBooking params =>
    obtain ⟨new, -, rfl⟩ := List.mem_map.mp h
    exact ⟨rfl, rfl⟩
  | _ => cases h

theorem refundTotal_other (hcancel : ∀ params, t ≠ .applyCancellation params) {a : t.Answer}
    (hrun : t.run raw db = .ok (a, db')) (bookingId : String) :
    db'.refundTotal bookingId = db.refundTotal bookingId := by
  obtain ⟨g, new, hmoved⟩ := Transaction.seats_moved hrun
  have hnew : ∀ seats : List BookingSeatRow, (∀ seat ∈ seats, seat ∈ t.newSeats) →
      ((seats.filter fun seat => seat.bookingId = bookingId).map
        fun seat => seat.refundPaise.getD 0).sum = 0 := by
    intro seats hseats
    refine List.sum_eq_zero fun paid hpaid => ?_
    obtain ⟨seat, hseat, rfl⟩ := List.mem_map.mp hpaid
    rw [(newSeats_confirmed (hseats seat (List.mem_of_mem_filter hseat))).2, Option.getD_none]
  rw [ReservedDb.refundTotal, hmoved.rows, List.filter_append, List.map_append, List.sum_append,
    hnew new fun seat hseat => hmoved.new ▸ hseat, add_zero, List.filter_map, List.map_map,
    ReservedDb.refundTotal]
  have hfilter : (db.bookingSeats.rows.filter
      ((fun seat : BookingSeatRow => decide (seat.bookingId = bookingId)) ∘ g)) =
        db.bookingSeats.rows.filter fun seat => seat.bookingId = bookingId := by
    refine List.filter_congr fun seat _ => ?_
    rw [Function.comp_apply, (hmoved.moves seat).bookingId]
  rw [hfilter]
  refine congrArg List.sum (List.map_congr_left fun seat _ => ?_)
  rw [Function.comp_apply, ((hmoved.moves seat).paid hcancel).1]

/-- Where every booking refunded what its seats did, it still does unless one is cancelled. -/
theorem refund_other (hlinked : Linked db) (hcancel : ∀ params, t ≠ .applyCancellation params)
    {a : t.Answer} (hrun : t.run raw db = .ok (a, db'))
    (h : ∀ row ∈ db.bookings.rows, row.refundPaise.getD 0 = db.refundTotal row.id) :
    ∀ row ∈ db'.bookings.rows, row.refundPaise.getD 0 = db'.refundTotal row.id := by
  obtain ⟨g, new, hmoved⟩ := Transaction.bookings_moved hrun
  intro row hmem
  rw [refundTotal_other hcancel hrun]
  rw [hmoved.rows] at hmem
  rcases List.mem_append.mp hmem with hmem | hmem
  · obtain ⟨before, hbefore, rfl⟩ := List.mem_map.mp hmem
    have hmove := hmoved.moves before
    rw [(hmove.paid fun params ht => absurd ht (hcancel params)).1, hmove.same.id]
    exact h before hbefore
  · -- a booking about to be made has no seat that anything was refunded on
    rw [hmoved.new] at hmem
    cases t with
    | confirmBooking params =>
      obtain rfl := List.mem_singleton.mp hmem
      have hfresh := HoldBooked.fresh (confirmBooking_ok hrun)
      refine (List.sum_eq_zero fun paid hpaid => ?_).symm
      obtain ⟨seat, hseat, -⟩ := List.mem_map.mp hpaid
      obtain ⟨hseat, hid⟩ := List.mem_filter.mp hseat
      obtain ⟨booking, hbooking, hbid⟩ := hlinked.seated seat hseat
      exact absurd (hbid.trans (of_decide_eq_true hid)) (hfresh booking hbooking)
    | _ => cases hmem

/-! ## The invariant -/

/-- The cancellation an entry of a trace committed, with the task that did. -/
def appliedBy : Entry Op Resp → Option (ℕ × ApplyCancellation)
  | ⟨i, .transaction (.applyCancellation params), .ok _⟩ => some (i, params)
  | _ => none

/-- Every cancellation a run has committed, newest first. -/
def applications (tr : List (Entry Op Resp)) : List (ℕ × ApplyCancellation) :=
  tr.filterMap appliedBy

theorem mem_applications {tr : List (Entry Op Resp)} {i : ℕ} {params : ApplyCancellation} :
    (i, params) ∈ applications tr ↔
      (⟨.transaction (.applyCancellation params), .ok ()⟩ : Line Op Resp) ∈ own i tr := by
  rw [mem_own, applications, List.mem_filterMap]
  constructor
  · rintro ⟨⟨j, op, r⟩, he, happ⟩
    unfold appliedBy at happ
    split at happ
    · rename_i heq
      obtain ⟨rfl, rfl⟩ := Prod.mk.inj (Option.some.inj happ)
      exact heq ▸ he
    · cases happ
  · exact fun h => ⟨_, h, rfl⟩

/-- The cancellations of one booking. -/
def applicationsOf (tr : List (Entry Op Resp)) (bookingId : String) :
    List (ℕ × ApplyCancellation) :=
  (applications tr).filter fun a => a.2.bookingId = bookingId

/-- What has been paid so far is what the store has written down, and was paid once. -/
structure Paid (s : History) : Prop where
  /-- nothing is refunded on a confirmed seat -/
  nothing : NothingPaid s.world.db
  /-- a committed cancellation is of a booking -/
  owned : ∀ a ∈ applications s.trace, ∃ row ∈ s.world.db.bookings.rows, row.id = a.2.bookingId
  /-- and none of its seats is confirmed -/
  gone : ∀ a ∈ applications s.trace, ∀ seatId ∈ a.2.seatIds,
    ¬ s.world.db.Confirmed a.2.bookingId seatId
  /-- no two cancellations of a booking name one seat -/
  apart : (applications s.trace).Pairwise fun a a' => a.2.bookingId = a'.2.bookingId →
    a.2.seatIds.Disjoint a'.2.seatIds
  /-- no request commits two -/
  once : ((applications s.trace).map Prod.fst).Nodup
  /-- the seats add up to what was paid -/
  total : ∀ bookingId, s.world.db.refundTotal bookingId =
    ((applicationsOf s.trace bookingId).map fun a => a.2.total).sum
  /-- and so does the booking -/
  row : ∀ row ∈ s.world.db.bookings.rows, row.refundPaise.getD 0 =
    s.world.db.refundTotal row.id

theorem Paid.initial (clock : ℤ) (source : Source) : Paid ⟨World.initial clock source, []⟩ :=
  ⟨fun _ h => absurd h List.not_mem_nil, fun _ h => absurd h List.not_mem_nil,
    fun _ h => absurd h List.not_mem_nil, List.Pairwise.nil, List.nodup_nil, fun _ => rfl,
    fun _ h => absurd h List.not_mem_nil⟩

theorem Paid.of_db {s : History} {w : World} (h : Paid s) (hdb : w.db = s.world.db) :
    Paid ⟨w, s.trace⟩ := by
  obtain ⟨hnothing, howned, hgone, hapart, honce, htotal, hrow⟩ := h
  rw [← hdb] at hnothing howned hgone htotal hrow
  exact ⟨hnothing, howned, hgone, hapart, honce, htotal, hrow⟩

/-- A seat that is not confirmed never is again. -/
theorem Confirmed.of_step {a : t.Answer} (hrun : t.run raw db = .ok (a, db'))
    {booking : BookingRow} (hbooking : booking ∈ db.bookings.rows) {seatId : String}
    (h : db'.Confirmed booking.id seatId) : db.Confirmed booking.id seatId := by
  obtain ⟨seat, hmem, hb, hs, hstatus⟩ := h
  obtain ⟨g, new, hmoved⟩ := Transaction.seats_moved hrun
  rw [hmoved.rows] at hmem
  rcases List.mem_append.mp hmem with hmem | hmem
  · obtain ⟨before, hbefore, rfl⟩ := List.mem_map.mp hmem
    have hmove := hmoved.moves before
    exact ⟨before, hbefore, hmove.bookingId.symm.trans hb, hmove.seatId.symm.trans hs,
      hmove.confirmed hstatus⟩
  · -- a new seat is of a new booking
    rw [hmoved.new] at hmem
    cases t with
    | confirmBooking params =>
      obtain ⟨new, -, rfl⟩ := List.mem_map.mp hmem
      have hfresh := HoldBooked.fresh (confirmBooking_ok hrun) booking hbooking
      exact absurd hb.symm hfresh
    | _ => cases hmem

/-- Bookings that exist go on existing. -/
theorem booking_id_stays {a : t.Answer} (hrun : t.run raw db = .ok (a, db')) {bookingId : String}
    (h : ∃ row ∈ db.bookings.rows, row.id = bookingId) :
    ∃ row ∈ db'.bookings.rows, row.id = bookingId := by
  obtain ⟨row, hmem, hid⟩ := h
  obtain ⟨row', hmem', hsame⟩ := booking_stays hrun ⟨row, hmem, .refl row⟩
  exact ⟨row', hmem', hsame.id.trans hid⟩

/-- The step lemma for everything but a cancellation that commits. -/
theorem Paid.other {s : History} {w : World} {e : Entry Op Resp} (h : Paid s)
    (hlinked : Linked s.world.db) (he : appliedBy e = none)
    (hdb : w.db = s.world.db ∨ ∃ (t : Transaction) (raw : String) (a : t.Answer),
      (∀ params, t ≠ .applyCancellation params) ∧ t.run raw s.world.db = .ok (a, w.db)) :
    Paid ⟨w, e :: s.trace⟩ := by
  have happ : applications (e :: s.trace) = applications s.trace :=
    List.filterMap_cons_none he
  rcases hdb with hdb | ⟨t, raw, a, hcancel, hrun⟩
  · obtain ⟨hnothing, howned, hgone, hapart, honce, htotal, hrow⟩ := h.of_db hdb
    rw [← happ] at howned hgone hapart honce
    refine ⟨hnothing, howned, hgone, hapart, honce, fun bookingId => ?_, hrow⟩
    rw [applicationsOf, happ]
    exact htotal bookingId
  · obtain ⟨g, new, hmoved⟩ := Transaction.seats_moved hrun
    obtain ⟨k, newRows, hbookings⟩ := Transaction.bookings_moved hrun
    refine ⟨?_, ?_, ?_, ?_, ?_, ?_, ?_⟩
    · intro seat hmem hstatus
      dsimp only at hmem
      rw [hmoved.rows] at hmem
      rcases List.mem_append.mp hmem with hmem | hmem
      · obtain ⟨before, hbefore, rfl⟩ := List.mem_map.mp hmem
        obtain ⟨hpaid, hsame⟩ := (hmoved.moves before).paid hcancel
        rw [hpaid]
        exact h.nothing before hbefore (hsame.symm.trans hstatus)
      · exact (newSeats_confirmed (hmoved.new ▸ hmem)).2
    · rw [happ]
      exact fun a ha => booking_id_stays hrun (h.owned a ha)
    · rw [happ]
      intro a ha seatId hseat hconfirmed
      obtain ⟨row, hrow, hid⟩ := h.owned a ha
      rw [← hid] at hconfirmed
      exact h.gone a ha seatId hseat (hid ▸ Confirmed.of_step hrun hrow hconfirmed)
    · rw [happ]
      exact h.apart
    · rw [happ]
      exact h.once
    · intro bookingId
      rw [applicationsOf, happ]
      exact (refundTotal_other hcancel hrun bookingId).trans (h.total bookingId)
    · exact refund_other hlinked hcancel hrun h.row

/-- The step lemma for a cancellation that commits. -/
theorem Paid.cancel {s : History} {w : World} {i : ℕ} {params : ApplyCancellation} {u : Unit}
    (h : Paid s) (hnodup : params.seatIds.Nodup)
    (hconfirmed : ∀ seatId ∈ params.seatIds, s.world.db.Confirmed params.bookingId seatId)
    (howned : ∃ row ∈ s.world.db.bookings.rows, row.id = params.bookingId)
    (hfirst : i ∉ (applications s.trace).map Prod.fst)
    (hrun : applyCancellation params s.world.db = .ok (u, w.db)) :
    Paid ⟨w, ⟨i, .transaction (.applyCancellation params), .ok ()⟩ :: s.trace⟩ := by
  have hcancelled := applyCancellation_ok hrun
  have hrun' : (Transaction.applyCancellation params).run "" s.world.db = .ok (u, w.db) := hrun
  have happ : applications (⟨i, .transaction (.applyCancellation params), .ok ()⟩ :: s.trace) =
      (i, params) :: applications s.trace := List.filterMap_cons_some rfl
  obtain ⟨g, new, hmoved⟩ := Transaction.seats_moved hrun'
  refine ⟨?_, ?_, ?_, ?_, ?_, ?_, ?_⟩
  · intro seat hmem hstatus
    dsimp only at hmem
    rw [hcancelled.seats] at hmem
    obtain ⟨before, hbefore, rfl⟩ := List.mem_map.mp hmem
    unfold cancelSeats setIf at hstatus ⊢
    split at hstatus
    · cases hstatus
    · rename_i hnot
      rw [if_neg hnot]
      exact h.nothing before hbefore hstatus
  · rw [happ]
    intro a ha
    rcases List.mem_cons.mp ha with rfl | ha
    · exact booking_id_stays hrun' howned
    · exact booking_id_stays hrun' (h.owned a ha)
  · rw [happ]
    intro a ha seatId hseat hstill
    rcases List.mem_cons.mp ha with rfl | ha
    · -- its own seats have just been cancelled
      obtain ⟨seat, hmem, hb, rfl, hstatus⟩ := hstill
      dsimp only at hmem
      rw [hcancelled.seats] at hmem
      obtain ⟨before, hbefore, rfl⟩ := List.mem_map.mp hmem
      unfold cancelSeats setIf at hb hseat hstatus
      split at hstatus
      · cases hstatus
      · rename_i hnot
        rw [if_neg hnot] at hb hseat
        exact hnot (by simp [hb, hseat, hstatus])
    · obtain ⟨row, hrow, hid⟩ := h.owned a ha
      rw [← hid] at hstill
      exact h.gone a ha seatId hseat (hid ▸ Confirmed.of_step hrun' hrow hstill)
  · rw [happ, List.pairwise_cons]
    refine ⟨fun a ha heq seatId hseat hseat' => ?_, h.apart⟩
    exact h.gone a ha seatId hseat' (heq ▸ hconfirmed seatId hseat)
  · rw [happ, List.map_cons, List.nodup_cons]
    exact ⟨hfirst, h.once⟩
  · intro bookingId
    rw [applicationsOf, happ, List.filter_cons]
    dsimp only
    rw [refundTotal_cancel h.nothing hnodup hconfirmed hcancelled, h.total]
    by_cases hid : params.bookingId = bookingId
    · simp only [hid, if_true, decide_true, List.map_cons, List.sum_cons, applicationsOf]
      omega
    · simp only [hid, if_false, decide_false, add_zero, applicationsOf, Bool.false_eq_true]
  · intro row hmem
    dsimp only at hmem ⊢
    rw [hcancelled.bookings] at hmem
    obtain ⟨before, hbefore, rfl⟩ := List.mem_map.mp hmem
    by_cases hid : before.id = params.bookingId
    · rw [settleBooking, setIf, if_pos (decide_eq_true hid)]
      dsimp only
      rw [hid, Option.getD_some]
    · rw [settleBooking, setIf, if_neg (by simpa using hid), refundTotal_cancel h.nothing hnodup
        hconfirmed hcancelled, if_neg (Ne.symm hid), add_zero]
      exact h.row before hbefore

/-! ## Runs -/

/-- Every cancellation finds each of its seats still confirmed. -/
def StillConfirmed (s : History) : Act? → Prop
  | .perform _ _ (.transaction (.applyCancellation params)) =>
    ∀ seatId ∈ params.seatIds, s.world.db.Confirmed params.bookingId seatId
  | _ => True

instance (s : History) (m : Act?) : Decidable (StillConfirmed s m) := by
  unfold StillConfirmed
  split <;> infer_instance

/-- The seats a request means are seats of the booking. -/
theorem targetSeats_sublist {booking : BookingRecord} {named : List String}
    {target : List BookingSeatRow} (htarget : targetSeats booking named = .ok target) :
    target.Sublist booking.seats := by
  rw [targetSeats] at htarget
  split at htarget
  · cases htarget
  · obtain rfl := Except.ok.inj htarget
    split <;> exact List.filter_sublist

/-- The seats of a booking that a request means, and that are confirmed, are different seats. -/
theorem nodup_confirmedOf {booking : BookingRecord} {named : List String}
    {target : List BookingSeatRow} (hseats : (booking.seats.map BookingSeatRow.seatId).Nodup)
    (htarget : targetSeats booking named = .ok target) :
    ((confirmedOf target).map BookingSeatRow.seatId).Nodup :=
  ((List.filter_sublist.trans (targetSeats_sublist htarget)).map _).nodup hseats

/-- A request that has applied nothing yet has no cancellation among those committed. -/
theorem not_mem_applications {i : ℕ} {tr : List (Entry Op Resp)} (h : Unapplied (own i tr)) :
    i ∉ (applications tr).map Prod.fst := by
  intro hmem
  obtain ⟨⟨j, params⟩, ha, rfl⟩ := List.mem_map.mp hmem
  exact h _ (mem_applications.mp ha) params rfl

/-- An operation keeps the invariant. -/
theorem Paid.perform {req : Request} {s s' : History} {i : ℕ} {op : Op} {r : Resp op}
    (h : Paid s) (hbase : Base s) (hreads : Reads s)
    (hallow : StillConfirmed s (.perform i req op)) (hknows : Knows d req (own i s.trace) op)
    (hdoes : Does (provider d) i req op s r s') : Paid s' := by
  obtain ⟨o, w, hexec, rfl⟩ := hdoes
  rcases World.exec_db hexec with ⟨hdb, hnot⟩ | ⟨t, a, heq, hrun⟩
  · refine h.other hbase.store.linked ?_ (Or.inl hdb)
    unfold appliedBy
    split
    · rename_i heq
      cases heq
      exact absurd rfl (hnot _ _)
    · rfl
  · cases heq
    by_cases hcancel : ∃ params, t = .applyCancellation params
    · obtain ⟨params, rfl⟩ := hcancel
      obtain ⟨run, rfl⟩ := hknows
      obtain ⟨hdistinct, -⟩ := hreads.distinct i _ _ (mem_own.mp run.seats)
      refine h.cancel ?_ hallow ?_ (not_mem_applications run.unapplied) hrun
      · exact nodup_sort.mpr (nodup_confirmedOf hdistinct run.target_eq)
      · obtain ⟨row, hrow, hsame⟩ := hreads.row _ (mem_own.mp run.row) _ rfl
        exact ⟨row, hrow, hsame.id⟩
    · refine h.other hbase.store.linked ?_ (Or.inr ⟨t, o.id, a, ?_, hrun⟩)
      · cases t with
        | applyCancellation params => exact absurd ⟨params, rfl⟩ hcancel
        | _ => rfl
      · rintro params rfl
        exact hcancel ⟨params, rfl⟩

/-- What every run in which cancellations find their seats confirmed keeps. -/
theorem paid_of_reach {clock : ℤ} {source : Source} {c : Pool}
    (h : Reach (provider d) StillConfirmed ⟨⟨World.initial clock source, []⟩, []⟩ c) :
    Base c.hist ∧ Reads c.hist ∧ Paid c.hist := by
  refine run_keeps Paid (Paid.initial clock source) ?_ ?_ h
  · exact fun hbase hreads hpaid hallow hknows hdoes =>
      hpaid.perform hbase hreads hallow hknows hdoes
  · exact fun hpaid hdb _ => hpaid.of_db hdb

/-! ## What is announced -/

/-- The seats a committing cancellation found confirmed: of the booking it read first, those its
request means. -/
def foundSeats (req : Request) (jr : Journal) : Option (String × List BookingSeatRow) :=
  match req.action, jr.reverse with
  | .cancel _ _ .confirm tags, ⟨.bookingByReference _ _ _ _, .ok (some row)⟩ ::
      ⟨.bookingSeats _, .ok seats⟩ :: _ =>
    match targetSeats { row with seats } (seatIdsFrom tags) with
    | .ok target => some (row.id, confirmedOf target)
    | .error _ => none
  | _, _ => none

/-- What a cancellation announces. -/
structure Announcement : Type where
  /-- the booking -/
  bookingId : String
  /-- the seats it newly cancelled -/
  seatIds : List String
  /-- the refund -/
  paise : ℤ
  deriving DecidableEq, Repr

/-- What the answer of a task announces, where it is the successful answer of a cancellation that
found a confirmed seat. -/
def announcement (c : Pool) (i : ℕ) : Option Announcement :=
  match c.tasks[i]? with
  | some ⟨req, .ret (.ok (.order _ (some refund) _))⟩ =>
    match foundSeats req (own i c.hist.trace) with
    | some (bookingId, seat :: seats) =>
      some ⟨bookingId, (seat :: seats).map BookingSeatRow.seatId, refund.price.paise⟩
    | _ => none
  | _ => none

/-- What a task's answer announces for one booking. -/
def announcedPaise (c : Pool) (bookingId : String) (i : ℕ) : ℤ :=
  match announcement c i with
  | some a => if a.bookingId = bookingId then a.paise else 0
  | none => 0

/-- What all answers announce for one booking. -/
def announcedTotal (c : Pool) (bookingId : String) : ℤ :=
  ((List.range c.tasks.length).map (announcedPaise c bookingId)).sum

/-- Each seat's refund is announced once, and the announced refunds are those written down. -/
structure PaidOnce (c : Pool) (bookingId : String) : Prop where
  /-- no two answers newly cancelled one seat -/
  once : ∀ i j a a', announcement c i = some a → announcement c j = some a' →
    a.bookingId = bookingId → a'.bookingId = bookingId →
      ∀ seatId ∈ a.seatIds, seatId ∈ a'.seatIds → i = j
  /-- once every committed cancellation is answered, the answers add up to the seats' refunds and
  to the booking's -/
  total : (∀ a ∈ applicationsOf c.hist.trace bookingId,
      ∃ answer, c.answer a.1 = some (.ok answer)) →
    c.hist.world.db.refundTotal bookingId = announcedTotal c bookingId ∧
      ∀ row ∈ c.hist.world.db.bookings.rows, row.id = bookingId →
        row.refundPaise.getD 0 = announcedTotal c bookingId

/-- Where every seat of a booking is cancelled in the one, the other has the same slab and the
same instant of cancellation. -/
def Frozen (db db' : ReservedDb) (bookingId : String) : Prop :=
  (∀ seat ∈ db.bookingSeats.rows, seat.bookingId = bookingId → seat.status = .cancelled) →
    ∀ row ∈ db.bookings.rows, row.id = bookingId →
      ∀ row' ∈ db'.bookings.rows, row'.id = bookingId →
        row'.slabCode = row.slabCode ∧ row'.cancelledAt = row.cancelledAt

/-- What a request found is what it read first. -/
theorem foundSeats_eq {req : Request} {jr : Journal} {context : ReservedContext}
    {orderId operator : String} {tags : Option (List BuyerTag)} {booking : BookingRecord}
    {target : List BookingSeatRow} (haction : req.action = .cancel context orderId .confirm tags)
    (hread : bookingReads operator context.bapId context.bapUri orderId booking <:+ jr)
    (htarget : targetSeats booking (seatIdsFrom tags) = .ok target) :
    foundSeats req jr = some (booking.id, confirmedOf target) := by
  obtain ⟨later, rfl⟩ := hread
  rw [foundSeats, haction, List.reverse_append]
  simp only [bookingReads, List.reverse_cons, List.reverse_nil, List.nil_append,
    List.cons_append]
  rw [htarget]

theorem action_of_foundSeats {req : Request} {jr : Journal} {found : String × List BookingSeatRow}
    (h : foundSeats req jr = some found) :
    ∃ context orderId tags, req.action = .cancel context orderId .confirm tags := by
  unfold foundSeats at h
  split at h
  · rename_i haction _
    exact ⟨_, _, _, haction⟩
  · cases h

/-- What a cancellation that was applied announces. -/
theorem announcement_of_run {jr earlier : Journal} {req : Request} (run : CancelRun d req earlier)
    (hsuffix : earlier <:+ jr) {seats : List BookingSeatRow} {bookingId : String}
    (hfound : foundSeats req jr = some (bookingId, seats)) :
    bookingId = run.booking.id ∧ seats = confirmedOf run.target := by
  rw [foundSeats_eq run.action (run.read.trans hsuffix) run.target_eq] at hfound
  obtain ⟨rfl, rfl⟩ := Prod.mk.inj (Option.some.inj hfound)
  exact ⟨rfl, rfl⟩

/-- A successful answer of a cancellation that found a confirmed seat announces what was
applied. -/
theorem announcement_applied {c : Pool} (hkept : Kept (Knows d) (Answers d) c)
    (hreads : Reads c.hist) {i : ℕ} {a : Announcement} (h : announcement c i = some a) :
    ∃ params, (i, params) ∈ applications c.hist.trace ∧ a.bookingId = params.bookingId ∧
      (∀ seatId, seatId ∈ a.seatIds ↔ seatId ∈ params.seatIds) ∧ a.paise = params.total := by
  unfold announcement at h
  split at h
  · rename_i req order refund tags htask
    split at h
    · rename_i bookingId seat seats hfound
      obtain rfl := Option.some.inj h
      obtain ⟨context, orderId, named, haction⟩ := action_of_foundSeats hfound
      have hanswer := hkept.answer htask context orderId named haction _ rfl
      generalize hown : own i c.hist.trace = jr at hanswer hfound
      cases hanswer with
      | settled haction' hread htarget hnone _ =>
        -- it found nothing confirmed
        rw [foundSeats_eq haction' hread htarget, hnone] at hfound
        cases hfound
      | @applied earlier run _ tag hlines hrefund =>
        have hlater : earlier <:+ jr := ⟨[_, _], hlines.symm⟩
        have hsuffix := run.suffix.trans hlater
        obtain ⟨rfl, hseats⟩ := announcement_of_run run.cancel hsuffix hfound
        obtain ⟨hdistinct, -⟩ := hreads.distinct i _ _ (mem_own.mp (by
          rw [hown]
          exact hsuffix.subset run.cancel.seats))
        refine ⟨run.cancel.params, mem_applications.mpr (hown ▸ hlater.subset run.applied), rfl,
          fun seatId => ?_, ?_⟩
        · rw [hseats]
          exact mem_sort.symm
        · rw [paise_of_refundPayload hrefund]
          exact (total_cancellationOf (nodup_confirmedOf hdistinct run.cancel.target_eq)).symm
    · cases h
  · cases h

/-- A cancellation that was applied and answered announces something. -/
theorem announcement_isSome {c : Pool} (hkept : Kept (Knows d) (Answers d) c) {i : ℕ}
    {params : ApplyCancellation} (happ : (i, params) ∈ applications c.hist.trace)
    {answer : Answer} (hanswer : c.answer i = some (.ok answer)) :
    ∃ a, announcement c i = some a := by
  have hmem := mem_applications.mp happ
  unfold Config.answer at hanswer
  split at hanswer
  · rename_i req result htask
    obtain rfl := Option.some.inj hanswer
    -- the request that applied it is a cancellation that commits
    obtain ⟨later, earlier, hown⟩ := List.append_of_mem hmem
    obtain ⟨cancelled, -⟩ := hkept.past _ _ htask _ earlier ⟨later, hown.symm⟩
    have hknows := hkept.answer htask _ _ _ cancelled.action _ rfl
    generalize hjr : own i c.hist.trace = jr at hknows hmem
    cases hknows with
    | settled _ _ _ _ hunapplied => exact absurd rfl (hunapplied _ hmem params)
    | @applied earlier run refund tag hlines _ =>
      have hlater : earlier <:+ jr := ⟨[_, _], hlines.symm⟩
      have hfound := foundSeats_eq run.cancel.action
        (run.cancel.read.trans (run.suffix.trans hlater)) run.cancel.target_eq
      obtain ⟨seat, seats, hlive⟩ := List.exists_cons_of_ne_nil run.cancel.live
      rw [hlive] at hfound
      refine ⟨⟨run.cancel.booking.id, (seat :: seats).map BookingSeatRow.seatId,
        refund.price.paise⟩, ?_⟩
      simp only [announcement, htask, hjr, hfound]
  · cases hanswer

/-- What is announced for a booking adds up to what its cancellations pay, once they are all
answered. -/
theorem announcedTotal_eq {c : Pool} (hkept : Kept (Knows d) (Answers d) c)
    (hreads : Reads c.hist) (hpaid : Paid c.hist) {bookingId : String}
    (hanswered : ∀ a ∈ applicationsOf c.hist.trace bookingId,
      ∃ answer, c.answer a.1 = some (.ok answer)) :
    announcedTotal c bookingId =
      ((applicationsOf c.hist.trace bookingId).map fun a => a.2.total).sum := by
  have hnodup : ((applicationsOf c.hist.trace bookingId).map Prod.fst).Nodup :=
    (List.filter_sublist.map _).nodup hpaid.once
  -- each committed cancellation is announced by its own task
  have hown : ∀ a ∈ applicationsOf c.hist.trace bookingId,
      announcedPaise c bookingId a.1 = a.2.total := by
    intro a ha
    obtain ⟨hmem, hid⟩ := List.mem_filter.mp ha
    obtain ⟨answer, hanswer⟩ := hanswered a ha
    obtain ⟨b, hb⟩ := announcement_isSome hkept hmem hanswer
    obtain ⟨params, happ, hbid, -, hpaise⟩ := announcement_applied hkept hreads hb
    have heq : a = (a.1, params) := List.inj_on_of_nodup_map hpaid.once hmem happ rfl
    rw [heq] at hid ⊢
    rw [announcedPaise, hb]
    dsimp only
    rw [if_pos (hbid.trans (of_decide_eq_true hid)), hpaise]
  -- and nothing else is announced for the booking
  have hother : ∀ i, i ∉ (applicationsOf c.hist.trace bookingId).map Prod.fst →
      announcedPaise c bookingId i = 0 := by
    intro i hi
    unfold announcedPaise
    split
    · rename_i a ha
      obtain ⟨params, happ, hbid, -, -⟩ := announcement_applied hkept hreads ha
      split
      · rename_i hid
        refine absurd (List.mem_map_of_mem (f := Prod.fst) (List.mem_filter.mpr ⟨happ, ?_⟩)) hi
        exact decide_eq_true (hbid.symm.trans hid)
      · rfl
    · rfl
  have hsub : ((applicationsOf c.hist.trace bookingId).map Prod.fst).toFinset ⊆
      (List.range c.tasks.length).toFinset := by
    intro i hi
    obtain ⟨a, ha, rfl⟩ := List.mem_map.mp (List.mem_toFinset.mp hi)
    obtain ⟨answer, hanswer⟩ := hanswered a ha
    rw [List.mem_toFinset, List.mem_range]
    by_contra hlen
    rw [Config.answer, List.getElem?_eq_none (not_lt.mp hlen)] at hanswer
    cases hanswer
  rw [announcedTotal, ← List.sum_toFinset _ List.nodup_range,
    ← Finset.sum_subset hsub fun i _ hi => hother i fun h => hi (List.mem_toFinset.mpr h),
    List.sum_toFinset _ hnodup, List.map_map]
  exact congrArg List.sum (List.map_congr_left hown)

theorem paidOnce {c : Pool} (hkept : Kept (Knows d) (Answers d) c) (hreads : Reads c.hist)
    (hpaid : Paid c.hist) (bookingId : String) : PaidOnce c bookingId := by
  refine ⟨?_, fun hanswered => ?_⟩
  · intro i j a a' ha ha' hid hid' seatId hseat hseat'
    obtain ⟨params, happ, hb, hs, -⟩ := announcement_applied hkept hreads ha
    obtain ⟨params', happ', hb', hs', -⟩ := announcement_applied hkept hreads ha'
    by_contra hne
    have : Std.Symm fun a a' : ℕ × ApplyCancellation => a.2.bookingId = a'.2.bookingId →
        a.2.seatIds.Disjoint a'.2.seatIds := ⟨fun _ _ h heq => (h heq.symm).symm⟩
    have hapart := hpaid.apart.forall happ happ' fun heq => hne (Prod.mk.inj heq).1
    exact hapart ((hb.symm.trans hid).trans (hid'.symm.trans hb')) ((hs seatId).mp hseat)
      ((hs' seatId).mp hseat')
  · have htotal := (hpaid.total bookingId).trans
      (announcedTotal_eq hkept hreads hpaid hanswered).symm
    exact ⟨htotal, fun row hrow hid => (hpaid.row row hrow).trans (hid ▸ htotal)⟩

/-! ## Once every seat is cancelled -/

/-- Every seat of a booking is cancelled, and the booking says this slab and this instant. -/
structure Closed (db : ReservedDb) (row : BookingRow) : Prop where
  /-- every seat is cancelled -/
  seats : ∀ seat ∈ db.bookingSeats.rows, seat.bookingId = row.id → seat.status = .cancelled
  /-- the booking is as it was settled -/
  settled : ∃ row' ∈ db.bookings.rows, row'.id = row.id ∧ row'.slabCode = row.slabCode ∧
    row'.cancelledAt = row.cancelledAt

/-- The step lemma: no transaction but a cancellation of the booking itself can open it again. -/
theorem Closed.step {row : BookingRow} (h : Closed db row) {a : t.Answer}
    (hrun : t.run raw db = .ok (a, db'))
    (hother : ∀ params, t = .applyCancellation params → params.bookingId ≠ row.id) :
    Closed db' row := by
  obtain ⟨booking, hbooking, hid, hslab, hat⟩ := h.settled
  obtain ⟨g, new, hmoved⟩ := Transaction.seats_moved hrun
  obtain ⟨k, newRows, hbookings⟩ := Transaction.bookings_moved hrun
  refine ⟨fun seat hmem hseat => ?_, k booking, ?_, ?_⟩
  · rw [hmoved.rows] at hmem
    rcases List.mem_append.mp hmem with hmem | hmem
    · obtain ⟨before, hbefore, rfl⟩ := List.mem_map.mp hmem
      have hmove := hmoved.moves before
      exact hmove.same.cancelled (h.seats before hbefore (hmove.bookingId.symm.trans hseat))
    · -- a new seat is of a new booking
      rw [hmoved.new] at hmem
      cases t with
      | confirmBooking params =>
        obtain ⟨seat', -, rfl⟩ := List.mem_map.mp hmem
        exact absurd (hid.trans hseat.symm)
          (HoldBooked.fresh (confirmBooking_ok hrun) booking hbooking)
      | _ => cases hmem
  · rw [hbookings.rows]
    exact List.mem_append_left _ (List.mem_map_of_mem hbooking)
  · obtain ⟨-, hslab', hat'⟩ := (hbookings.moves booking).paid fun params ht => hid ▸ hother params ht
    exact ⟨(hbookings.moves booking).same.id.trans hid, hslab'.trans hslab, hat'.trans hat⟩

/-- Once every seat of a booking is cancelled, its slab and its instant of cancellation never
change again. -/
theorem frozen_of_reach {clock : ℤ} {source : Source} {c c' : Pool}
    (h : Reach (provider d) StillConfirmed ⟨⟨World.initial clock source, []⟩, []⟩ c)
    (h' : Reach (provider d) StillConfirmed c c') (bookingId : String) :
    Frozen c.hist.world.db c'.hist.world.db bookingId := by
  intro hseats row hrow hid row' hrow' hid'
  have hclosed : Closed c'.hist.world.db row := by
    refine h.stable (fun s => Closed s.world.db row) (fun _ => True) handle_knows
      (fun _ => trivial) ?_ ?_ ⟨fun seat hmem hb => hseats seat hmem (hb.trans hid), row, hrow, rfl,
        rfl, rfl⟩ h'
    · rintro s s' i req op r - hclosed hallow hknows ⟨o, w, hexec, rfl⟩
      rcases World.exec_db hexec with ⟨hdb, -⟩ | ⟨t, a, heq, hrun⟩
      · rw [hdb]
        exact hclosed
      · cases heq
        refine hclosed.step hrun ?_
        rintro params rfl hb
        -- a cancellation names a seat, and finds it confirmed
        obtain ⟨run, rfl⟩ := hknows
        obtain ⟨seat, rest, hlive⟩ := List.exists_cons_of_ne_nil run.live
        have hmem : seat.seatId ∈ run.params.seatIds := mem_sort.mpr (by simp [hlive])
        obtain ⟨seat', hmem', hb', -, hstatus⟩ := hallow seat.seatId hmem
        rw [hclosed.seats seat' hmem' (hb'.trans hb)] at hstatus
        cases hstatus
    · rintro s e w - hclosed - henv
      have hdb : w.db = s.world.db := by
        cases e <;> obtain rfl := Option.some.inj henv <;> rfl
      rw [hdb]
      exact hclosed
  obtain ⟨booking, hbooking, hbid, hslab, hat⟩ := hclosed.settled
  obtain rfl := c'.hist.world.db.booking_unique hrow' hbooking
    (hid'.trans (hid.symm.trans hbid.symm))
  exact ⟨hslab, hat⟩

/-- **A seat's refund is paid once.** In every run of the provider in which every cancellation
finds its seats still confirmed, and in every state it reaches: no two answers newly cancelled one
seat of a booking; once its cancellations are answered, what they announced adds up to the refunds
of its seats and to its own; and once every seat is cancelled, its slab and its instant of
cancellation never change again. -/
theorem refund_paid_once {clock : ℤ} {source : Source} {c : Pool}
    (h : Reach (provider d) StillConfirmed ⟨⟨World.initial clock source, []⟩, []⟩ c)
    (bookingId : String) : PaidOnce c bookingId ∧ ∀ c', Reach (provider d) StillConfirmed c c' →
      Frozen c.hist.world.db c'.hist.world.db bookingId := by
  obtain ⟨-, hreads, hpaid⟩ := paid_of_reach h
  exact ⟨paidOnce (h.journal handle_knows) hreads hpaid bookingId,
    fun c' h' => frozen_of_reach h h' bookingId⟩

/-- A whole booking cancelled by one request: its answer announces the 160 rupees written down. -/
theorem refund_paid_once_specimen : ∃ c, Reach (provider specimenDeployment) StillConfirmed
    specimenStart c ∧ announcedTotal c specimenOrderId = 16000 ∧ PaidOnce c specimenOrderId := by
  have hrun : (specimenStart.follow (provider specimenDeployment)
      (fun s m => decide (StillConfirmed s m))
      (specimenSale ++ specimenQuote ["1", "2"] ++
        [.start (specimenCancel "T1" specimenOrderId ["1", "2"] "RFQ-KSRTC-Q1")] ++
          steps 3 9 "c1")).map (fun c => announcedTotal c specimenOrderId) = some 16000 := by
    decide +kernel
  obtain ⟨c, hfollow, htotal⟩ := Option.map_eq_some_iff.mp hrun
  have hreach : Reach (provider specimenDeployment) StillConfirmed specimenStart c :=
    (Config.follow_reach .refl hfollow).mono fun s m h => of_decide_eq_true h
  exact ⟨c, hreach, htotal, (refund_paid_once hreach specimenOrderId).1⟩

/-- Two commitments against one quote, each past its checks before either applies itself. -/
def overlappingCancellations : List (Event Request Choice Happening) :=
  specimenSale ++ specimenQuote ["1", "2"] ++
    [.start (specimenCancel "T1" specimenOrderId ["1", "2"] "RFQ-KSRTC-Q1")] ++
      steps 3 4 "c1" ++ [.env (.tick 1000)] ++
    [.start (specimenCancel "T1" specimenOrderId ["1", "2"] "RFQ-KSRTC-Q1")] ++
      steps 4 4 "c2" ++ steps 3 5 "c1"

/-- **A refund announced twice.** The first commitment cancels both seats. The second then cancels
nothing, and still announces the refund of both and moves the booking's instant of
cancellation. -/
theorem refund_paid_twice : ∃ c c', Reach (provider specimenDeployment) (fun _ _ => True)
    specimenStart c ∧ Reach (provider specimenDeployment) (fun _ _ => True) c c' ∧
      ¬ Frozen c.hist.world.db c'.hist.world.db specimenOrderId ∧
        ¬ PaidOnce c' specimenOrderId := by
  have hrun : ((specimenStart.follow (provider specimenDeployment) (fun _ _ => true)
      overlappingCancellations).bind fun c => (c.follow (provider specimenDeployment)
        (fun _ _ => true) (steps 4 5 "c2")).map fun c' =>
          ((c.hist.world.db.bookingSeats.rows.all fun seat => seat.status = .cancelled) &&
            (c.hist.world.db.bookings.rows.any fun row => row.id = specimenOrderId &&
              c'.hist.world.db.bookings.rows.any fun row' => row'.id = specimenOrderId &&
                row'.cancelledAt ≠ row.cancelledAt),
          announcement c' 3, announcement c' 4)) =
      some (true, some ⟨specimenOrderId, ["1", "2"], 16000⟩,
        some ⟨specimenOrderId, ["1", "2"], 16000⟩) := by
    decide +kernel
  obtain ⟨c, hfollow, hrest⟩ := Option.bind_eq_some_iff.mp hrun
  obtain ⟨c', hfollow', heq⟩ := Option.map_eq_some_iff.mp hrest
  simp only [Prod.mk.injEq, Bool.and_eq_true, List.all_eq_true, List.any_eq_true,
    decide_eq_true_eq] at heq
  obtain ⟨⟨hseats, row, hrow, hid, row', hrow', hid', hat⟩, hthird, hfourth⟩ := heq
  have hany : ∀ {c₀ c₁ : Pool}, Reach (provider specimenDeployment)
      (fun _ _ => true = true) c₀ c₁ →
        Reach (provider specimenDeployment) (fun _ _ => True) c₀ c₁ :=
    fun h => h.mono fun _ _ _ => trivial
  refine ⟨c, c', hany (Config.follow_reach .refl hfollow),
    hany (Config.follow_reach .refl hfollow'), fun h => ?_, fun h => ?_⟩
  · exact hat (h (fun seat hmem _ => hseats seat hmem) row hrow hid row' hrow' hid').2
  · have heq := h.once 3 4 _ _ hthird hfourth rfl rfl "1" (by simp) (by simp)
    omega

end TransitBpp
