import TransitBpp.Quotes
import TransitBpp.Rewrites

/-!
# One cancellation after another

A booking is made, and then cancelled in parts, each commitment served alone, while anything else
may happen in between that does not meddle with it. `Standing` is what stays true of the booking
and its stored order all the way: the order is the one that was sold without the seats that are
cancelled by now.
-/

namespace TransitBpp

open Interleave Js

variable {d : Deployment} {req : Request} {db db' : ReservedDb} {t : Transaction} {raw : String}
variable {bookingId : String}

/-! ## A booking in a run -/

/-- What moves seat rows moves the seats of a booking, and leaves their order alone. -/
theorem seatsOf_eq_map {g : BookingSeatRow → BookingSeatRow} {new : List BookingSeatRow}
    (hrows : db'.bookingSeats.rows = db.bookingSeats.rows.map g ++ new)
    (hbooking : ∀ seat, (g seat).bookingId = seat.bookingId)
    (hseat : ∀ seat, (g seat).seatId = seat.seatId) (hnew : ∀ seat ∈ new, seat.bookingId ≠ bookingId) :
    db'.seatsOf bookingId = (db.seatsOf bookingId).map g := by
  have hnone : new.filter (fun seat => seat.bookingId = bookingId) = [] :=
    List.filter_eq_nil_iff.mpr fun seat hmem => by simpa using hnew seat hmem
  have hsame : ((fun seat : BookingSeatRow => decide (seat.bookingId = bookingId)) ∘ g) =
      fun seat => decide (seat.bookingId = bookingId) := by
    funext seat
    rw [Function.comp_apply, hbooking]
  rw [ReservedDb.seatsOf, ReservedDb.seatsOf, hrows, List.filter_append, hnone, List.append_nil,
    List.filter_map, hsame]
  exact (List.map_insertionSort _ _ _ _ fun a _ b _ => by rw [hseat, hseat]).symm

/-- What every step that is allowed keeps, every run keeps from there on. -/
theorem Reach.db_keeps_of {allows : History → Act? → Prop} {K : ReservedDb → Prop}
    (hstep : ∀ {s : History} {i : ℕ} {req : Request} {t : Transaction} {raw : String}
      {db db' : ReservedDb} {a : t.Answer}, allows s (.perform i req (.transaction t)) →
        t.run raw db = .ok (a, db') → K db → K db')
    {c c' : Pool} (h : Reach (provider d) allows c c') (hK : K c.hist.world.db) :
    K c'.hist.world.db := by
  induction h with
  | refl => exact hK
  | step _ hallow hmove ih =>
    cases hmove with
    | start req => exact ih
    | perform htask hdoes =>
      obtain ⟨o, w, hexec, rfl⟩ := hdoes
      rcases World.exec_db hexec with ⟨hdb, -⟩ | ⟨t, a, heq, hrun⟩
      · exact hdb ▸ ih
      · cases heq
        exact hstep hallow hrun ih
    | @env e w henv => cases e <;> obtain rfl := Option.some.inj henv <;> exact ih

/-- Cancellations of one booking that start in a pool, one after another, with what they answered.
Each is served alone; between them the rest of the provider takes the steps that are allowed. -/
inductive Cancellations (d : Deployment) (allows : History → Act? → Prop) (bookingId : String)
    (c₀ : Pool) : List (Except Failure Answer) → Pool → Prop where
  /-- none yet -/
  | start : Cancellations d allows bookingId c₀ [] c₀
  /-- other requests -/
  | between {results : List (Except Failure Answer)} {c c' : Pool} :
      Cancellations d allows bookingId c₀ results c → Reach (provider d) allows c c' →
        Cancellations d allows bookingId c₀ results c'
  /-- a commitment that finds seats confirmed -/
  | commit {results : List (Except Failure Answer)} {c : Pool} {req : Request}
      {booking : BookingRecord} {target : List BookingSeatRow} {tags : Option (List BuyerTag)}
      {result : Except Failure Answer} {s : History} :
      Cancellations d allows bookingId c₀ results c →
        Targets d req c.hist.world.db booking target tags → booking.id = bookingId →
          confirmedOf target ≠ [] → Served d c.tasks.length req c.hist result s →
            Cancellations d allows bookingId c₀ (results ++ [result])
              ⟨s, c.tasks ++ [⟨req, .ret result⟩]⟩
  /-- a commitment that finds none -/
  | again {results : List (Except Failure Answer)} {c : Pool} {req : Request}
      {booking : BookingRecord} {target : List BookingSeatRow} {tags : Option (List BuyerTag)}
      {result : Except Failure Answer} {s : History} :
      Cancellations d allows bookingId c₀ results c →
        Targets d req c.hist.world.db booking target tags → booking.id = bookingId →
          confirmedOf target = [] → Served d c.tasks.length req c.hist result s →
            Cancellations d allows bookingId c₀ results ⟨s, c.tasks ++ [⟨req, .ret result⟩]⟩

/-- Cancellations are a run of the provider. -/
theorem Cancellations.reach {allows : History → Act? → Prop} {c₀ c : Pool}
    {results : List (Except Failure Answer)} (h : Cancellations d allows bookingId c₀ results c) :
    Reach (provider d) (fun _ _ => True) c₀ c := by
  induction h with
  | start => exact .refl
  | between _ hreach ih => exact ih.trans (hreach.mono fun _ _ _ => trivial)
  | commit _ _ _ _ hserved ih => exact ih.trans hserved.reach
  | again _ _ _ _ hserved ih => exact ih.trans hserved.reach

/-! ## What a commitment does to the booking -/

theorem cancelSeats_record (params : ApplyCancellation) (seatIds : List String)
    (seat : BookingSeatRow) : (cancelSeats params seatIds seat).record = seat.record := by
  rw [cancelSeats, setIf]
  split <;> rfl

/-- The stored order of a booking: the one that was sold, and once seats are cancelled, that one
without them. -/
def storedOrder (sold : Order) (passengers : List ManifestRecord) (cancelled : List String) : Order :=
  if cancelled = [] then sold else sold.without passengers cancelled

/-- The ids of the cancelled seats of a booking. -/
def ReservedDb.cancelledIds (db : ReservedDb) (bookingId : String) : List String :=
  (cancelledOf (db.seatsOf bookingId)).map BookingSeatRow.seatId

/-- A booking as it stands before any manifest is swept. -/
structure Standing (sold : Order) (passengers : List ManifestRecord) (bookingId : String)
    (db : ReservedDb) : Prop where
  /-- its seats still carry the passengers they were sold to -/
  records : (db.seatsOf bookingId).map BookingSeatRow.record = passengers
  /-- its stored order is the one that was sold, without the cancelled seats -/
  order : ∃ row ∈ db.bookings.rows, row.id = bookingId ∧
    row.order = storedOrder sold passengers (db.cancelledIds bookingId)

variable {sold : Order} {passengers : List ManifestRecord}

theorem Standing.congr (h : Standing sold passengers bookingId db)
    (hbookings : db'.bookings.rows = db.bookings.rows)
    (hseats : db'.bookingSeats.rows = db.bookingSeats.rows) :
    Standing sold passengers bookingId db' := by
  have hsame : db'.seatsOf bookingId = db.seatsOf bookingId := by
    rw [ReservedDb.seatsOf, ReservedDb.seatsOf, hseats]
  refine ⟨hsame ▸ h.records, ?_⟩
  rw [hbookings, ReservedDb.cancelledIds, hsame]
  exact h.order

/-- A booking whose row was settled has the status of its seats. -/
theorem confirmedCount_eq_zero : db.confirmedCount bookingId = 0 ↔
    confirmedOf (db.seatsOf bookingId) = [] := by
  rw [ReservedDb.confirmedCount, List.countP_eq_zero, confirmedOf, List.filter_eq_nil_iff]
  simp only [mem_seatsOf, Bool.and_eq_true, decide_eq_true_eq, not_and]
  exact ⟨fun h seat hseat => h seat hseat.1 hseat.2, fun h seat hseat hb => h seat ⟨hseat, hb⟩⟩

/-- **A commitment that went through** rewrites the order, and leaves the booking standing. -/
theorem Standing.applied {params : ApplyCancellation} {db₁ : ReservedDb} {row : BookingRow}
    (h : Standing sold passengers bookingId db) (hid : params.bookingId = bookingId)
    (hlive : ∃ seatId ∈ params.seatIds, db.Confirmed bookingId seatId)
    (hcancelled : SeatsCancelled params db db₁) (hread : db₁.bookingById bookingId = some row)
    (hstored : BookingsOnly db₁ db'
      (storeOrder row.id (cancelledOrder { row with seats := db₁.seatsOf row.id }))) :
    Standing sold passengers bookingId db' := by
  have hseats : db₁.seatsOf bookingId =
      (db.seatsOf bookingId).map (cancelSeats params params.seatIds) := by
    have hrows : db₁.bookingSeats.rows =
        db.bookingSeats.rows.map (cancelSeats params params.seatIds) ++ [] := by
      rw [hcancelled.seats, List.append_nil]
    refine seatsOf_eq_map hrows (fun seat => ?_) (fun seat => ?_)
      fun seat hseat => absurd hseat List.not_mem_nil
    · exact (sameSeat_cancelSeats params params.seatIds seat).bookingId
    · exact (sameSeat_cancelSeats params params.seatIds seat).seatId
  have hsame : db'.seatsOf bookingId = db₁.seatsOf bookingId := by
    rw [ReservedDb.seatsOf, ReservedDb.seatsOf, hstored.seats]
  have hpassengers : (db₁.seatsOf bookingId).map BookingSeatRow.record = passengers := by
    rw [hseats, List.map_map, ← h.records]
    exact List.map_congr_left fun seat _ => cancelSeats_record params params.seatIds seat
  -- the row that was read back is the settled one
  have hrow : row ∈ db₁.bookings.rows := List.mem_of_find?_eq_some hread
  have hrowId : row.id = bookingId := by simpa using List.find?_some hread
  obtain ⟨before, hbefore, hbeforeId, horder⟩ := h.order
  have hsettled : row = settleBooking params db₁ before := by
    rw [hcancelled.bookings] at hrow
    obtain ⟨other, hother, hrow⟩ := List.mem_map.mp hrow
    have hotherId : other.id = row.id := by
      rw [← hrow, settleBooking, setIf]
      split <;> rfl
    obtain rfl := (db.bookings.unique BookingRow.primaryKey (List.mem_cons_self ..)).eq_of_key
      hother hbefore (congrArg (fun id => some [id]) (hotherId.trans (hrowId.trans hbeforeId.symm))) rfl
    exact hrow.symm
  have hrowOrder : row.order = storedOrder sold passengers (db.cancelledIds bookingId) := by
    rw [← horder, hsettled, settleBooking, setIf]
    split <;> rfl
  have hstatus : row.status = .cancelled ↔ confirmedOf (db₁.seatsOf bookingId) = [] := by
    rw [← confirmedCount_eq_zero, hsettled, settleBooking, setIf,
      if_pos (decide_eq_true (hbeforeId.trans hid.symm)), hid]
    dsimp only
    split <;> simp_all
  -- some seat is cancelled now
  have hsome : db₁.cancelledIds bookingId ≠ [] := by
    obtain ⟨seatId, hseatId, seat, hseat, hb, hs, hconfirmed⟩ := hlive
    have hmem : cancelSeats params params.seatIds seat ∈ db₁.seatsOf bookingId := by
      rw [hseats]
      exact List.mem_map_of_mem (mem_seatsOf.mpr ⟨hseat, hb⟩)
    have hgone : (cancelSeats params params.seatIds seat).status = .cancelled := by
      rw [cancelSeats, setIf, if_pos (by simp [hb, hid, hs, hseatId, hconfirmed])]
    exact List.ne_nil_of_mem (List.mem_map_of_mem (List.mem_filter.mpr ⟨hmem, decide_eq_true hgone⟩))
  have hmore : ∀ seatId ∈ db.cancelledIds bookingId, seatId ∈ db₁.cancelledIds bookingId := by
    intro seatId hseatId
    obtain ⟨seat, hseat, rfl⟩ := List.mem_map.mp hseatId
    obtain ⟨hmem, hcan⟩ := List.mem_filter.mp hseat
    have hsameSeat := sameSeat_cancelSeats params params.seatIds seat
    refine List.mem_map.mpr ⟨_, List.mem_filter.mpr ⟨?_, decide_eq_true
      (hsameSeat.cancelled (of_decide_eq_true hcan))⟩, hsameSeat.seatId⟩
    rw [hseats]
    exact List.mem_map_of_mem hmem
  have hcancelledOrder : cancelledOrder { row with seats := db₁.seatsOf row.id } =
      sold.without passengers (db₁.cancelledIds bookingId) := by
    rw [hrowId, cancelledOrder_eq_without (nodup_seatsOf db₁ bookingId) hstatus]
    dsimp only
    rw [hpassengers, hrowOrder, storedOrder]
    split
    · rfl
    · refine sold.without_without ?_ hmore
      rintro rfl
      rw [List.map_eq_nil_iff] at hpassengers
      exact hsome (by rw [ReservedDb.cancelledIds, hpassengers]; rfl)
  refine ⟨hsame ▸ hpassengers, { row with order := sold.without passengers (db₁.cancelledIds bookingId) },
    ?_, hrowId, ?_⟩
  · rw [hstored.bookings]
    refine List.mem_map.mpr ⟨row, hrow, ?_⟩
    rw [storeOrder, setIf, if_pos (decide_eq_true rfl), hcancelledOrder]
  · have hids : db'.cancelledIds bookingId = db₁.cancelledIds bookingId := by
      rw [ReservedDb.cancelledIds, ReservedDb.cancelledIds, hsame]
    rw [hids, storedOrder, if_neg hsome]

/-! ## All the way -/

/-- Nothing cancels a seat of the booking, writes its order or sweeps its manifest. -/
def Spared (bookingId : String) (_ : History) : Act? → Prop
  | .perform _ _ (.transaction (.applyCancellation params)) => params.bookingId ≠ bookingId
  | .perform _ _ (.transaction (.updateStoredOrder id _)) => id ≠ bookingId
  | .perform _ _ (.transaction (.clearManifests stale)) => bookingId ∉ stale.map Prod.fst
  | _ => True

/-- `Spared`, to be evaluated. -/
def spares (bookingId : String) : Act? → Bool
  | .perform _ _ (.transaction (.applyCancellation params)) => params.bookingId ≠ bookingId
  | .perform _ _ (.transaction (.updateStoredOrder id _)) => id ≠ bookingId
  | .perform _ _ (.transaction (.clearManifests stale)) => bookingId ∉ stale.map Prod.fst
  | _ => true

theorem spared_of_spares {s : History} {m : Act?} (h : spares bookingId m = true) :
    Spared bookingId s m := by
  simp only [Spared]
  split
  · simpa [spares] using h
  · simpa [spares] using h
  · simpa [spares] using h
  · trivial

/-- What is spared keeps standing. -/
theorem Standing.spared {s : History} {i : ℕ} {a : t.Answer}
    (h : Standing sold passengers bookingId db)
    (hspared : Spared bookingId s (.perform i req (.transaction t)))
    (hrun : t.run raw db = .ok (a, db')) : Standing sold passengers bookingId db' := by
  obtain ⟨g, new, hseats⟩ := Transaction.seats_moved hrun
  obtain ⟨k, newRows, hbookings⟩ := Transaction.bookings_moved hrun
  obtain ⟨row, hrow, hid, horder⟩ := h.order
  have hsame : db'.seatsOf bookingId = db.seatsOf bookingId := by
    rw [seatsOf_eq_map hseats.rows (fun seat => (hseats.moves seat).bookingId)
      (fun seat => (hseats.moves seat).seatId)
      fun seat hseat => hid ▸ newSeats_fresh hrun hrow seat (hseats.new ▸ hseat)]
    refine (List.map_congr_left fun seat hseat => ?_).trans (List.map_id _)
    have hb := (mem_seatsOf.mp hseat).2
    have hmove := hseats.moves seat
    generalize g seat = seat' at hmove ⊢
    cases hmove with
    | stay => rfl
    | cancel params ht hparams =>
      subst ht
      exact absurd (hparams.symm.trans hb) hspared
    | clear stale ht hstale =>
      subst ht
      exact absurd (hb ▸ hstale) hspared
  refine ⟨hsame ▸ h.records, k row, ?_, (hbookings.moves row).same.id.trans hid, ?_⟩
  · rw [hbookings.rows]
    exact List.mem_append_left _ (List.mem_map_of_mem hrow)
  · rw [ReservedDb.cancelledIds, hsame, ← ReservedDb.cancelledIds, ← horder]
    have hmove := hbookings.moves row
    generalize k row = row' at hmove ⊢
    cases hmove with
    | stay => rfl
    | settle params _ _ ht hparams =>
      subst ht
      exact absurd (hparams.symm.trans hid) hspared
    | store order ht =>
      subst ht
      exact absurd hid hspared
    | redact stale order _ ht hstale _ =>
      subst ht
      exact absurd (hid ▸ List.mem_map_of_mem hstale) hspared

/-- **The run lemma**: the booking keeps standing; the induction is on the cancellations. -/
theorem Cancellations.standing {c₀ c : Pool} {results : List (Except Failure Answer)}
    (h : Cancellations d (Spared bookingId) bookingId c₀ results c)
    (hstart : Standing sold passengers bookingId c₀.hist.world.db) :
    Standing sold passengers bookingId c.hist.world.db := by
  induction h with
  | start => exact hstart
  | between _ hreach ih =>
    exact Reach.db_keeps_of (fun hspared hrun hkept => hkept.spared hspared hrun) hreach ih
  | again _ htargets _ hnone hserved ih =>
    rw [(settled_of_served htargets hnone hserved).1]
    exact ih
  | commit _ htargets hid hlive hserved ih =>
    obtain ⟨nowMs, -, -, -, hend⟩ := commitment_of_served htargets hlive hserved
    cases hend with
    | refused _ hbookings hseats _ => exact ih.congr (by rw [hbookings]) (by rw [hseats])
    | applied _ _ hcancelled hread hstored =>
      rw [hid] at hread
      refine ih.applied hid ?_ hcancelled hread hstored
      obtain ⟨seat, rest, hcons⟩ := List.exists_cons_of_ne_nil hlive
      have hmem := hcons ▸ List.mem_cons_self (a := seat) (l := rest)
      obtain ⟨hseat, hb, hconfirmed⟩ := htargets.confirmed seat hmem
      exact ⟨seat.seatId, mem_sort.mpr (List.mem_map_of_mem hmem), seat, hseat, hid ▸ hb, rfl,
        hconfirmed⟩

/-! ## From the confirm on -/

/-- What a booking is made with. -/
structure Booked (params : ConfirmBooking) (records passengers : List ManifestRecord)
    (db : ReservedDb) : Prop where
  /-- the order names the seats and the passengers of the booking -/
  sold : params.order.Sold records
  /-- who are those of its seats -/
  same : passengers.Perm records
  /-- nothing is cancelled -/
  none : db.cancelledIds params.orderId = []
  /-- and the order is stored as it was sold -/
  standing : Standing params.order passengers params.orderId db

/-- A booking that has just been made. -/
theorem ConfirmRun.booked {s : History} {i : ℕ} (hlinked : Linked s.world.db) (hreads : Reads s)
    (run : ConfirmRun d req (own i s.trace)) {u : Unit}
    (hrun : confirmBooking run.params s.world.db = .ok (u, db')) :
    ∃ records passengers, Booked run.params records passengers db' := by
  have hmade := confirmBooking_ok hrun
  have hrecords := hreads.records_ne_nil run
  have hold : s.world.db.bookingSeats.rows.filter
      (fun seat => seat.bookingId = run.params.orderId) = [] := by
    refine List.filter_eq_nil_iff.mpr fun seat hseat hb => ?_
    obtain ⟨row, hrow, hid⟩ := hlinked.seated seat hseat
    exact hmade.fresh row hrow (hid.trans (of_decide_eq_true hb))
  have hnew : run.params.seatRows.filter
      (fun seat => seat.bookingId = run.params.orderId) = run.params.seatRows := by
    refine List.filter_eq_self.mpr fun seat hseat => ?_
    obtain ⟨new, -, rfl⟩ := List.mem_map.mp hseat
    exact decide_eq_true rfl
  have hseats : (db'.seatsOf run.params.orderId).Perm run.params.seatRows := by
    rw [ReservedDb.seatsOf, hmade.seats, List.filter_append, hold, hnew, List.nil_append]
    exact List.perm_insertionSort _ _
  have hsame : run.params.seatRows.map BookingSeatRow.record = run.records := by
    rw [ConfirmBooking.seatRows, ConfirmRun.params, newBooking, List.map_map, List.map_map]
    exact List.map_id _
  have hnone : db'.cancelledIds run.params.orderId = [] := by
    rw [ReservedDb.cancelledIds, cancelledOf, List.filter_eq_nil_iff.mpr, List.map_nil]
    intro seat hseat
    obtain ⟨new, -, rfl⟩ := List.mem_map.mp (hseats.mem_iff.mp hseat)
    simp
  refine ⟨run.records, _, sold_of_bookedOrder hrecords run.render, hsame ▸ hseats.map _, hnone, rfl,
    run.params.row, ?_, rfl, ?_⟩
  · rw [hmade.bookings]
    exact List.mem_append_right _ (List.mem_singleton_self _)
  · rw [hnone]
    rfl

/-- The confirm that has just committed: what it knew, and what it did. -/
theorem committed_of_head {clock : ℤ} {source : Source} {c : Pool}
    (h : Reach (provider d) (fun _ _ => True) ⟨⟨World.initial clock source, []⟩, []⟩ c) {i : ℕ}
    {params : ConfirmBooking} (hhead : c.hist.trace.head? =
      some ⟨i, .transaction (.confirmBooking params), .ok ()⟩) :
    ∃ req p, c.tasks[i]? = some ⟨req, p⟩ ∧ ∃ (s : History) (run : ConfirmRun d req (own i s.trace)),
      params = run.params ∧ Base s ∧ Reads s ∧
        confirmBooking params s.world.db = .ok ((), c.hist.world.db) := by
  induction h with
  | refl => cases hhead
  | @step c c' m hreach _ hmove ih =>
    cases hmove with
    | start req =>
      obtain ⟨req', p, htask, hrest⟩ := ih hhead
      have hlength := (List.getElem?_eq_some_iff.mp htask).1
      exact ⟨req', p, (List.getElem?_append_left hlength).trans htask, hrest⟩
    | @perform j req _ _ _ _ htask hdoes =>
      have hknows := ((hreach.journal handle_knows).journal _ _ htask).1
      obtain ⟨hbase, hreads, -⟩ := run_keeps (fun _ => True) trivial (fun _ _ _ _ _ _ => trivial)
        (fun _ _ _ => trivial) hreach
      obtain ⟨o, w, hexec, rfl⟩ := hdoes
      cases Option.some.inj hhead
      have hdid : World.exec d req.process o c.hist.world (.transaction (.confirmBooking params)) =
          some (w, .ok ()) := hexec
      have hlength : i < c.tasks.length := (List.getElem?_eq_some_iff.mp htask).1
      rcases World.exec_db hdid with ⟨-, hnot⟩ | ⟨t, a, heq, hrun⟩
      · exact absurd rfl (hnot _ _)
      · cases heq
        obtain ⟨run, hparams⟩ : ∃ run : ConfirmRun d req (own i c.hist.trace), params = run.params :=
          hknows
        exact ⟨req, _, by rw [List.getElem?_set_self hlength], c.hist, run, hparams, hbase, hreads,
          hrun⟩
    | @env e w henv => cases e <;> obtain rfl := Option.some.inj henv <;> exact ih hhead

/-- Right after a confirm. -/
theorem booked_of_head {clock : ℤ} {source : Source} {c : Pool}
    (h : Reach (provider d) (fun _ _ => True) ⟨⟨World.initial clock source, []⟩, []⟩ c) {i : ℕ}
    {params : ConfirmBooking} (hhead : c.hist.trace.head? =
      some ⟨i, .transaction (.confirmBooking params), .ok ()⟩) :
    ∃ records passengers, Booked params records passengers c.hist.world.db := by
  obtain ⟨req, p, -, s, run, rfl, hbase, hreads, hrun⟩ := committed_of_head h hhead
  exact run.booked hbase.store.linked hreads hrun

/-- **A cancelled order is the order that was sold, without its cancelled seats.** However often
parts of a booking are cancelled, one after another, and before its manifest is swept: the stored
order lists the confirmed seats and the cancelled ones and names who remains, nothing else of it
has changed, and it depends on which seats are cancelled only. -/
theorem cancelled_order_rewritten {clock : ℤ} {source : Source} {c₀ : Pool}
    (h : Reach (provider d) (fun _ _ => True) ⟨⟨World.initial clock source, []⟩, []⟩ c₀) {i : ℕ}
    {params : ConfirmBooking} (hbooked : c₀.hist.trace.head? =
      some ⟨i, .transaction (.confirmBooking params), .ok ()⟩) :
    ∃ records passengers, params.order.Sold records ∧ passengers.Perm records ∧
      ∀ results c, Cancellations d (Spared params.orderId) params.orderId c₀ results c →
        ∃ row ∈ c.hist.world.db.bookings.rows, row.id = params.orderId ∧
          -- who remains and who was released are the confirmed and the cancelled seats
          (remainingOf passengers (c.hist.world.db.cancelledIds params.orderId)).map
              ManifestRecord.seatId =
            (confirmedOf (c.hist.world.db.seatsOf params.orderId)).map BookingSeatRow.seatId ∧
          (releasedOf passengers (c.hist.world.db.cancelledIds params.orderId)).map
              ManifestRecord.seatId = c.hist.world.db.cancelledIds params.orderId ∧
          (if c.hist.world.db.cancelledIds params.orderId = [] then row.order = params.order
            else Rewritten params.order passengers (c.hist.world.db.cancelledIds params.orderId)
              row.order) ∧
          ∀ results' c', Cancellations d (Spared params.orderId) params.orderId c₀ results' c' →
            (∀ seatId, seatId ∈ c'.hist.world.db.cancelledIds params.orderId ↔
              seatId ∈ c.hist.world.db.cancelledIds params.orderId) →
                ∃ row' ∈ c'.hist.world.db.bookings.rows, row'.id = params.orderId ∧
                  row'.order = row.order := by
  obtain ⟨records, passengers, hsold, hperm, -, hstart⟩ := booked_of_head h hbooked
  refine ⟨records, passengers, hsold, hperm, fun results c hc => ?_⟩
  have hstanding := hc.standing hstart
  obtain ⟨row, hrow, hid, horder⟩ := hstanding.order
  have hnodup := nodup_seatsOf c.hist.world.db params.orderId
  refine ⟨row, hrow, hid, ?_, ?_, ?_, fun results' c' hc' hsame => ?_⟩
  · rw [← hstanding.records, ReservedDb.cancelledIds, remainingOf_record hnodup, seatId_record]
  · rw [← hstanding.records, ReservedDb.cancelledIds, releasedOf_record hnodup, seatId_record]
  · rw [storedOrder] at horder
    split
    · rename_i hnone
      rw [horder, if_pos hnone]
    · rename_i hsome
      rw [horder, if_neg hsome]
      exact hsold.rewritten passengers _
  · obtain ⟨row', hrow', hid', horder'⟩ := (hc'.standing hstart).order
    refine ⟨row', hrow', hid', ?_⟩
    have hnil : c'.hist.world.db.cancelledIds params.orderId = [] ↔
        c.hist.world.db.cancelledIds params.orderId = [] := by
      rw [List.eq_nil_iff_forall_not_mem, List.eq_nil_iff_forall_not_mem]
      simp only [hsame]
    rw [horder', horder, storedOrder, storedOrder, params.order.without_congr fun record _ =>
      hsame record.seatId]
    simp only [hnil]

/-- The booking an entry of a trace committed. -/
def bookingMade : Entry Op Resp → Option ConfirmBooking
  | ⟨_, .transaction (.confirmBooking params), .ok ()⟩ => some params
  | _ => none

theorem head_of_bookingMade {c : Pool} {params : ConfirmBooking}
    (h : c.hist.trace.head?.bind bookingMade = some params) : ∃ i, c.hist.trace.head? =
      some ⟨i, .transaction (.confirmBooking params), .ok ()⟩ := by
  obtain ⟨e, hhead, hmade⟩ := Option.bind_eq_some_iff.mp h
  simp only [bookingMade] at hmade
  split at hmade
  · obtain rfl := Option.some.inj hmade
    exact ⟨_, hhead⟩
  · cases hmade

/-- Seat 1 of two is cancelled. -/
theorem cancelled_order_rewritten_specimen : ∃ (c₀ c : Pool) (params : ConfirmBooking)
    (results : List (Except Failure Answer)) (passengers : List ManifestRecord) (row : BookingRow),
    Reach (provider specimenDeployment) (fun _ _ => True) specimenStart c₀ ∧
    Cancellations specimenDeployment (Spared params.orderId) params.orderId c₀ results c ∧
    row ∈ c.hist.world.db.bookings.rows ∧ Rewritten params.order passengers ["1"] row.order := by
  have hrun : (specimenStart.follow (provider specimenDeployment) (fun _ _ => true)
      ([.start (specimenSelect "T1" ["1", "2"])] ++ steps 0 12 "a1" ++
        [.start (specimenConfirm 0 "T1" [("1", "A", "female"), ("2", "B", "male")] [])] ++
          steps 1 16 "b1")).bind (fun c₀ => (c₀.hist.trace.head?.bind bookingMade).bind fun params =>
      (c₀.follow (provider specimenDeployment)
        (fun _ m => spares specimenOrderId m)
          (steps 1 5 "b1" ++ specimenQuote ["1"])).bind fun c₁ =>
        (commitAlone c₁ ["1"] "RFQ-KSRTC-Q1").map fun p =>
          (params.orderId, p.2.world.db.cancelledIds specimenOrderId,
            (c₁.hist.world.db.bookingFound "ksrtc" "bap" "https://bap" specimenOrderId).map
              fun booking => booking.id,
            (c₁.hist.world.db.bookingFound "ksrtc" "bap" "https://bap" specimenOrderId).bind
              fun booking => (targetSeats booking (seatIdsFrom
                (commitmentTags ["1"] "RFQ-KSRTC-Q1"))).toOption.map fun target =>
                  (confirmedOf target).length)) =
      some (specimenOrderId, ["1"], some specimenOrderId, some 1) := by
    decide +kernel
  obtain ⟨c₀, hfollow, hrest⟩ := Option.bind_eq_some_iff.mp hrun
  obtain ⟨params, hmade, hrest⟩ := Option.bind_eq_some_iff.mp hrest
  obtain ⟨c₁, hbetween, hrest⟩ := Option.bind_eq_some_iff.mp hrest
  obtain ⟨⟨result, s⟩, hcommit, hfacts⟩ := Option.map_eq_some_iff.mp hrest
  obtain ⟨hid, hfacts⟩ := Prod.mk.inj hfacts
  obtain ⟨hcancelled, hfacts⟩ := Prod.mk.inj hfacts
  obtain ⟨hfound, htarget⟩ := Prod.mk.inj hfacts
  have hreach : Reach (provider specimenDeployment) (fun _ _ => True) specimenStart c₀ :=
    (Config.follow_reach .refl hfollow).mono fun _ _ _ => trivial
  obtain ⟨i, hhead⟩ := head_of_bookingMade hmade
  obtain ⟨booking, target, htargets, hlive⟩ : ∃ booking target, Targets specimenDeployment
      (specimenCancel "T1" specimenOrderId ["1"] "RFQ-KSRTC-Q1") c₁.hist.world.db booking target
        (commitmentTags ["1"] "RFQ-KSRTC-Q1") ∧ confirmedOf target ≠ [] :=
    Targets.of_eval (n := 0) rfl rfl htarget
  have hbooking : booking.id = params.orderId := by
    obtain ⟨_, _, haction, -, hat⟩ := htargets.reaches
    cases haction
    have hat' : c₁.hist.world.db.bookingFound "ksrtc" "bap" "https://bap" specimenOrderId =
        some booking := hat
    rw [hat'] at hfound
    exact (Option.some.inj hfound).trans hid.symm
  rw [← hid] at hcancelled hbetween
  have hchain : Cancellations specimenDeployment (Spared params.orderId) params.orderId c₀ _ _ :=
    .commit (.between .start ((Config.follow_reach .refl hbetween).mono
      fun _ _ => spared_of_spares)) htargets hbooking hlive (runAlone_alone hcommit)
  obtain ⟨records, passengers, -, -, hall⟩ := cancelled_order_rewritten hreach hhead
  obtain ⟨row, hrow, -, -, -, hrewritten, -⟩ := hall _ _ hchain
  dsimp only at hrow hrewritten
  rw [hcancelled, if_neg (List.cons_ne_nil _ _)] at hrewritten
  exact ⟨c₀, _, params, _, passengers, row, hreach, hchain, hrow, hrewritten⟩

end TransitBpp
