import TransitBpp.Orders
import TransitBpp.Reads

/-!
# Orders and the seats they are made of

A cancellation cancels its seats in one transaction and writes the order back in another, from a
row and seats it read in between; the manifest sweep writes back orders it listed before. `Agrees`
is what an order says of its seats when it is right, which an order built from the seats as they
are is. What a request has read of a row or of seats stays right until a cancellation is applied.
-/

namespace TransitBpp

open Interleave Js

variable {db db' : ReservedDb} {t : Transaction} {raw : String} {d : Deployment}

/-! ## Agreement -/

/-- A seat of a booking has a status. -/
def ReservedDb.SeatIs (db : ReservedDb) (bookingId seatId : String) (status : BookingStatus) :
    Prop :=
  ∃ seat ∈ db.bookingSeats.rows, seat.bookingId = bookingId ∧ seat.seatId = seatId ∧
    seat.status = status

/-- An order says of its seats what the seat rows of the booking say. -/
structure Agrees (db : ReservedDb) (bookingId : String) (view : SeatView) : Prop where
  /-- it is cancelled when no seat is confirmed -/
  status : view.status = some .cancelled ↔ ∀ seatId, ¬ db.SeatIs bookingId seatId .confirmed
  /-- it lists the confirmed seats -/
  seats : ∀ seatId, seatId ∈ view.seats ↔ db.SeatIs bookingId seatId .confirmed
  /-- and the cancelled ones -/
  cancelled : ∀ seatId, seatId ∈ view.cancelled ↔ db.SeatIs bookingId seatId .cancelled
  /-- and its manifests name no cancelled seat -/
  manifest : ∀ seatId ∈ view.manifest, ¬ db.SeatIs bookingId seatId .cancelled

theorem Agrees.congr {bookingId : String} {view : SeatView} (h : Agrees db bookingId view)
    (hseats : ∀ seatId status, db'.SeatIs bookingId seatId status ↔
      db.SeatIs bookingId seatId status) : Agrees db' bookingId view := by
  refine ⟨?_, ?_, ?_, ?_⟩ <;> simp only [hseats]
  · exact h.status
  · exact h.seats
  · exact h.cancelled
  · exact h.manifest

/-- A seat has one status. -/
theorem ReservedDb.SeatIs.unique {bookingId seatId : String} {status status' : BookingStatus}
    (h : db.SeatIs bookingId seatId status) (h' : db.SeatIs bookingId seatId status') :
    status = status' := by
  obtain ⟨seat, hmem, hb, hs, rfl⟩ := h
  obtain ⟨seat', hmem', hb', hs', rfl⟩ := h'
  rw [seat_unique hmem hmem' (hb.trans hb'.symm) (hs.trans hs'.symm)]

/-- The status of a booking is that of its seats. -/
def Settles (db : ReservedDb) (bookingId : String) (status : BookingStatus) : Prop :=
  status = .cancelled ↔ ∀ seatId, ¬ db.SeatIs bookingId seatId .confirmed

/-- No seat is confirmed where none counts as confirmed. -/
theorem confirmedCount_eq_zero_iff {bookingId : String} : db.confirmedCount bookingId = 0 ↔
    ∀ seatId, ¬ db.SeatIs bookingId seatId .confirmed := by
  simp only [ReservedDb.confirmedCount, List.countP_eq_zero, Bool.and_eq_true, decide_eq_true_eq]
  constructor
  · rintro h seatId ⟨seat, hseat, hb, -, hstatus⟩
    exact h seat hseat ⟨hb, hstatus⟩
  · rintro h seat hseat ⟨hb, hstatus⟩
    exact h seat.seatId ⟨seat, hseat, hb, rfl, hstatus⟩

/-- A cancellation gives its booking the status of its seats. -/
theorem SeatsCancelled.settles {params : ApplyCancellation} (h : SeatsCancelled params db db')
    {row : BookingRow} (hrow : row ∈ db'.bookings.rows) (hid : row.id = params.bookingId) :
    Settles db' row.id row.status := by
  rw [h.bookings] at hrow
  obtain ⟨before, -, rfl⟩ := List.mem_map.mp hrow
  rw [settleBooking, setIf] at hid ⊢
  split at hid
  · rename_i hbooking
    rw [if_pos hbooking, Settles, ← confirmedCount_eq_zero_iff, hid]
    dsimp only
    split <;> simp [*]
  · rename_i hother
    exact absurd (decide_eq_true hid) hother

/-- These are the seats of a booking, with their status. -/
def SeatsAre (db : ReservedDb) (bookingId : String) (seats : List BookingSeatRow) : Prop :=
  ∀ seatId status, (∃ seat ∈ seats, seat.seatId = seatId ∧ seat.status = status) ↔
    db.SeatIs bookingId seatId status

theorem seatsAre_seatsOf (db : ReservedDb) (bookingId : String) :
    SeatsAre db bookingId (db.seatsOf bookingId) := by
  intro seatId status
  constructor
  · rintro ⟨seat, hmem, hs, hstatus⟩
    obtain ⟨hmem, hb⟩ := mem_seatsOf.mp hmem
    exact ⟨seat, hmem, hb, hs, hstatus⟩
  · rintro ⟨seat, hmem, hb, hs, hstatus⟩
    exact ⟨seat, mem_seatsOf.mpr ⟨hmem, hb⟩, hs, hstatus⟩

theorem mem_seatIds_filter {seats : List BookingSeatRow} {status : BookingStatus}
    {seatId : String} :
    seatId ∈ (seats.filter (·.status = status)).map BookingSeatRow.seatId ↔
      ∃ seat ∈ seats, seat.seatId = seatId ∧ seat.status = status := by
  simp only [List.mem_map, List.mem_filter, decide_eq_true_eq]
  constructor
  · rintro ⟨seat, ⟨hmem, hstatus⟩, hid⟩
    exact ⟨seat, hmem, hid, hstatus⟩
  · rintro ⟨seat, hmem, hid, hstatus⟩
    exact ⟨seat, ⟨hmem, hstatus⟩, hid⟩

/-- **An order built from the seats as they are agrees with them.** -/
theorem agrees_of_cancelledView {bookingId : String} {booking : BookingRecord} {view : SeatView}
    (h : CancelledView booking view) (hsettles : Settles db bookingId booking.status)
    (hseats : SeatsAre db bookingId booking.seats) : Agrees db bookingId view := by
  have hconfirmed : ∀ seatId, seatId ∈ (confirmedOf booking.seats).map BookingSeatRow.seatId ↔
      db.SeatIs bookingId seatId .confirmed := by
    intro seatId
    rw [← hseats, confirmedOf, mem_seatIds_filter]
  have hcancelled : ∀ seatId, seatId ∈ (cancelledOf booking.seats).map BookingSeatRow.seatId ↔
      db.SeatIs bookingId seatId .cancelled := by
    intro seatId
    rw [← hseats, cancelledOf, mem_seatIds_filter]
  refine ⟨?_, fun seatId => ?_, fun seatId => ?_, fun seatId hseat hcan => ?_⟩
  · refine Iff.trans ?_ hsettles
    rw [h.status]
    cases booking.status <;> simp
  · rw [h.seats, hconfirmed]
  · rw [h.cancelled, hcancelled]
  · have hconf := (hconfirmed seatId).mp (h.manifest seatId hseat)
    cases hconf.unique hcan

/-- Only a cancellation of the booking changes the status of its seats. -/
theorem seatIs_iff {a : t.Answer} (hrun : t.run raw db = .ok (a, db')) {bookingId : String}
    (hexists : ∃ row ∈ db.bookings.rows, row.id = bookingId)
    (hother : ∀ params, t = .applyCancellation params → params.bookingId ≠ bookingId)
    (seatId : String) (status : BookingStatus) :
    db'.SeatIs bookingId seatId status ↔ db.SeatIs bookingId seatId status := by
  obtain ⟨g, new, hmoved⟩ := Transaction.seats_moved hrun
  have hstatus : ∀ seat, seat.bookingId = bookingId → (g seat).status = seat.status := by
    intro seat hb
    have hmove := hmoved.moves seat
    generalize g seat = seat' at hmove
    cases hmove with
    | stay => rfl
    | cancel params ht hid => exact absurd (hid.symm.trans hb) (hother params ht)
    | clear _ _ _ => rfl
  constructor
  · rintro ⟨seat, hmem, hb, hs, rfl⟩
    rw [hmoved.rows] at hmem
    rcases List.mem_append.mp hmem with hmem | hmem
    · obtain ⟨before, hbefore, rfl⟩ := List.mem_map.mp hmem
      have hmove := hmoved.moves before
      have hid := hmove.bookingId.symm.trans hb
      exact ⟨before, hbefore, hid, hmove.seatId.symm.trans hs, (hstatus before hid).symm⟩
    · -- a new seat is of a new booking
      rw [hmoved.new] at hmem
      cases t with
      | confirmBooking params =>
        obtain ⟨seat', -, rfl⟩ := List.mem_map.mp hmem
        obtain ⟨row, hrow, hid⟩ := hexists
        exact absurd (hid.trans hb.symm) (HoldBooked.fresh (confirmBooking_ok hrun) row hrow)
      | _ => cases hmem
  · rintro ⟨seat, hmem, hb, hs, rfl⟩
    have hmove := hmoved.moves seat
    refine ⟨g seat, ?_, hmove.bookingId.trans hb, hmove.seatId.trans hs, hstatus seat hb⟩
    rw [hmoved.rows]
    exact List.mem_append_left _ (List.mem_map_of_mem hmem)

/-! ## Cancellations and write-backs -/

/-- The entry committed a cancellation of the booking. -/
def applies (bookingId : String) : Entry Op Resp → Bool
  | ⟨_, .transaction (.applyCancellation params), .ok _⟩ => params.bookingId = bookingId
  | _ => false

/-- The entry committed a new order of the booking. -/
def stores (bookingId : String) : Entry Op Resp → Bool
  | ⟨_, .transaction (.updateStoredOrder id _), .ok _⟩ => id = bookingId
  | _ => false

theorem applies_iff {bookingId : String} {e : Entry Op Resp} : applies bookingId e = true ↔
    ∃ i params, e = ⟨i, .transaction (.applyCancellation params), .ok ()⟩ ∧
      params.bookingId = bookingId := by
  constructor
  · intro h
    unfold applies at h
    split at h
    · exact ⟨_, _, rfl, of_decide_eq_true h⟩
    · cases h
  · rintro ⟨i, params, rfl, hid⟩
    exact decide_eq_true hid

theorem stores_iff {bookingId : String} {e : Entry Op Resp} : stores bookingId e = true ↔
    ∃ i order, e = ⟨i, .transaction (.updateStoredOrder bookingId order), .ok ()⟩ := by
  constructor
  · intro h
    unfold stores at h
    split at h
    · obtain rfl := of_decide_eq_true h
      exact ⟨_, _, rfl⟩
    · cases h
  · rintro ⟨i, order, rfl⟩
    exact decide_eq_true rfl

/-- A booking has the order that was written last. -/
theorem BookingsOnly.order_eq {bookingId : String} {order : Order}
    (h : BookingsOnly db db' (storeOrder bookingId order)) {row : BookingRow}
    (hrow : row ∈ db'.bookings.rows) (hid : row.id = bookingId) : row.order = order := by
  rw [h.bookings] at hrow
  obtain ⟨before, -, rfl⟩ := List.mem_map.mp hrow
  rw [storeOrder, setIf] at hid ⊢
  split at hid
  · rename_i hbooking
    rw [if_pos hbooking]
  · rename_i hother
    exact absurd (decide_eq_true hid) hother

/-! ## What was read -/

/-- A booking exists. -/
def ReservedDb.Exists (db : ReservedDb) (bookingId : String) : Prop :=
  ∃ row ∈ db.bookings.rows, row.id = bookingId

/-- The entry read a row by the booking's id. -/
def ReadsRow (e : Entry Op Resp) (row : BookingRow) : Prop :=
  ∃ i bookingId, e = ⟨i, .bookingById bookingId, .ok (some row)⟩

/-- The entry read the seats of a booking. -/
def ReadsSeats (e : Entry Op Resp) (x : String × List BookingSeatRow) : Prop :=
  ∃ i, e = ⟨i, .bookingSeats x.1, .ok x.2⟩

/-- The entry listed a booking with its order. -/
def Lists (e : Entry Op Resp) (x : String × Order) : Prop :=
  ∃ i cutoff stale, e = ⟨i, .staleManifests cutoff, .ok stale⟩ ∧ x ∈ stale

/-- The status of a row is right. -/
def RowRight (row : BookingRow) (s : History) : Prop :=
  s.world.db.Exists row.id ∧ Settles s.world.db row.id row.status

/-- The seats of a booking are right. -/
def SeatsRight (x : String × List BookingSeatRow) (s : History) : Prop :=
  s.world.db.Exists x.1 ∧ SeatsAre s.world.db x.1 x.2

/-! ### Operations -/

section

variable {w w' : World} {process i : ℕ} {o : Choice} {op : Op} {r : Resp op} {bookingId : String}

/-- What is listed is what is stored, and listing it changes nothing. -/
theorem Lists.stored (hexec : w.exec d process o op = some (w', r)) {x : String × Order}
    (h : Lists ⟨i, op, r⟩ x) :
    w' = w ∧ ∃ row ∈ w.db.bookings.rows, row.id = x.1 ∧ row.order = x.2 := by
  obtain ⟨j, cutoff, stale, heq, hmem⟩ := h
  cases heq
  obtain ⟨hw, hr⟩ := Prod.mk.inj (Option.some.inj hexec)
  obtain rfl := Choice.read_ok hr
  obtain ⟨row, hrow, -, -, rfl⟩ := mem_staleManifests.mp hmem
  exact ⟨hw.symm, row, hrow, rfl, rfl⟩

/-- A booking stays. -/
theorem exists_kept (hexec : w.exec d process o op = some (w', r)) (h : w.db.Exists bookingId) :
    w'.db.Exists bookingId := by
  rcases World.exec_db hexec with ⟨hdb, -⟩ | ⟨t, a, -, hrun⟩
  · rwa [hdb]
  · obtain ⟨row, hrow, rfl⟩ := h
    obtain ⟨row', hrow', hsame⟩ := booking_stays hrun ⟨row, hrow, .refl row⟩
    exact ⟨row', hrow', hsame.id⟩

/-- Its seats stay as they are where no cancellation of it is applied. -/
theorem seats_kept (hexec : w.exec d process o op = some (w', r))
    (hnot : applies bookingId ⟨i, op, r⟩ = false) (h : w.db.Exists bookingId) (seatId : String)
    (status : BookingStatus) :
    w'.db.SeatIs bookingId seatId status ↔ w.db.SeatIs bookingId seatId status := by
  rcases World.exec_db hexec with ⟨hdb, -⟩ | ⟨t, a, heq, hrun⟩
  · rw [hdb]
  · cases heq
    refine seatIs_iff hrun h ?_ seatId status
    rintro params rfl hid
    exact absurd (hnot.symm.trans (decide_eq_true hid)) Bool.false_ne_true

/-- A row that was read stays right where no cancellation of it is applied. -/
theorem RowRight.step {s : History} {row : BookingRow} (h : RowRight row s)
    (hexec : s.world.exec d process o op = some (w', r))
    (hnot : applies row.id ⟨i, op, r⟩ = false) : RowRight row ⟨w', ⟨i, op, r⟩ :: s.trace⟩ := by
  refine ⟨exists_kept hexec h.1, ?_⟩
  simp only [Settles, seats_kept hexec hnot h.1]
  exact h.2

/-- And so do seats. -/
theorem SeatsRight.step {s : History} {x : String × List BookingSeatRow} (h : SeatsRight x s)
    (hexec : s.world.exec d process o op = some (w', r))
    (hnot : applies x.1 ⟨i, op, r⟩ = false) : SeatsRight x ⟨w', ⟨i, op, r⟩ :: s.trace⟩ := by
  refine ⟨exists_kept hexec h.1, fun seatId status => ?_⟩
  rw [seats_kept hexec hnot h.1]
  exact h.2 seatId status

end

end TransitBpp
