import TransitBpp.Effects

/-!
# The life of a row

What a committed transaction can do to one row of each table. `LockMove`, `BookingMove` and
`SeatMove` are the transition relations of a lock, a booking and a booked seat: each move names
the transaction that makes it and the guard it makes it under. Nothing is ever deleted, and the
columns that say which seat of which departure a row is about never change.

`Transaction.locks_moved`, `Transaction.bookings_moved` and `Transaction.seats_moved` say that a
transaction moves every row this way and appends at most one hold or one booking.
-/

namespace TransitBpp

variable {db db' : ReservedDb} {t : Transaction} {raw : String}

/-! ## Locks -/

/-- The instant a transaction expires holds at, where it expires any. -/
def Transaction.sweepsAt : Transaction → Option ℤ
  | sweepExpiredHolds _ _ nowMs => some nowMs
  | sweepExpiredHoldsForServices _ _ nowMs => some nowMs
  | acquireHold params => some params.nowMs
  | _ => none

/-- What transaction `t` can do to a lock. -/
inductive LockMove (t : Transaction) (row : LockRow) : LockRow → Prop where
  /-- nothing -/
  | stay : LockMove t row row
  /-- a sweep, also the one inside `acquireHold`, expires a lapsed row -/
  | expire (nowMs : ℤ) : t.sweepsAt = some nowMs → row.state = .held →
      row.expiresAt.any (fun at_ => at_ ≤ nowMs) = true →
      LockMove t row { row with state := .expired }
  /-- `acquireHold` releases the hold it replaces -/
  | release (params : AcquireHold) : t = .acquireHold params → row.state = .held →
      LockMove t row { row with state := .released }
  /-- `confirmBooking` books a held row of its hold -/
  | book (params : ConfirmBooking) : t = .confirmBooking params →
      row.holdId = some params.holdId → row.state = .held →
      LockMove t row
        { row with state := .booked, bookingId := some params.orderId, expiresAt := none }
  /-- `applyCancellation` releases a booked row of its booking -/
  | cancel (params : ApplyCancellation) : t = .applyCancellation params →
      row.bookingId = some params.bookingId → row.seatId ∈ params.seatIds →
      row.state = .booked → LockMove t row { row with state := .released }

/-- What never changes about a lock. -/
structure SameLock (row row' : LockRow) : Prop where
  /-- the primary key -/
  id : row'.id = row.id
  /-- the service -/
  serviceId : row'.serviceId = row.serviceId
  /-- the travel date -/
  travelDate : row'.travelDate = row.travelDate
  /-- the seat -/
  seatId : row'.seatId = row.seatId
  /-- the hold -/
  holdId : row'.holdId = row.holdId
  /-- the operator -/
  operator : row'.operator = row.operator
  /-- the transaction of the buyer -/
  identity : row'.identity = row.identity
  /-- the clock reading -/
  createdAt : row'.createdAt = row.createdAt

theorem LockMove.same {row row' : LockRow} (h : LockMove t row row') : SameLock row row' := by
  cases h <;> exact ⟨rfl, rfl, rfl, rfl, rfl, rfl, rfl, rfl⟩

/-- An expired or released lock has no moves left. -/
theorem LockMove.dead {row row' : LockRow} (h : LockMove t row row')
    (hdead : row.state = .expired ∨ row.state = .released) : row' = row := by
  cases h with
  | stay => rfl
  | expire _ _ hs | release _ _ hs | book _ _ _ hs | cancel _ _ _ _ hs =>
    rcases hdead with hd | hd <;> rw [hs] at hd <;> cases hd

/-- A booked lock is released by a cancellation of its own booking and seat, and by nothing else. -/
theorem LockMove.booked {row row' : LockRow} (h : LockMove t row row')
    (hbooked : row.state = .booked) :
    row' = row ∨ row'.state = .released ∧ ∃ params, t = .applyCancellation params ∧
      row.bookingId = some params.bookingId ∧ row.seatId ∈ params.seatIds := by
  cases h with
  | stay => exact Or.inl rfl
  | expire _ _ hs | release _ _ hs | book _ _ _ hs =>
    rw [hs] at hbooked
    cases hbooked
  | cancel params ht hb hseat _ => exact Or.inr ⟨rfl, params, ht, hb, hseat⟩

/-- Only a confirm writes a booking id. -/
theorem LockMove.bookingId {row row' : LockRow} (h : LockMove t row row')
    (hconfirm : ∀ params, t ≠ .confirmBooking params) : row'.bookingId = row.bookingId := by
  cases h with
  | book params ht => exact absurd ht (hconfirm params)
  | _ => rfl

/-- Only a confirm books a lock, and only a cancellation releases a booked one. -/
theorem LockMove.booked_iff {row row' : LockRow} (h : LockMove t row row')
    (hconfirm : ∀ params, t ≠ .confirmBooking params)
    (hcancel : ∀ params, t ≠ .applyCancellation params) :
    row'.state = .booked ↔ row.state = .booked := by
  cases h with
  | stay => exact Iff.rfl
  | book params ht => exact absurd ht (hconfirm params)
  | cancel params ht => exact absurd ht (hcancel params)
  | expire _ _ hs | release _ _ hs => simp [hs]

/-- What a transaction did to the locks: it moved each of them by `f` and appended `new`. -/
structure LocksMoved (t : Transaction) (db db' : ReservedDb) (f : LockRow → LockRow)
    (new : List LockRow) : Prop where
  /-- the rows afterwards -/
  rows : db'.seatLocks.rows = db.seatLocks.rows.map f ++ new
  /-- each row moved -/
  moves : ∀ row, LockMove t row (f row)
  /-- what is appended is a hold under a new id -/
  new : new = [] ∨ ∃ params holdId, t = .acquireHold params ∧ new = params.newRows holdId ∧
    ∀ row ∈ db.seatLocks.rows, row.holdId ≠ some holdId

/-- Two rows of one hold that no statement tells apart. -/
structure LockRow.Twins (row row' : LockRow) : Prop where
  /-- the service -/
  serviceId : row.serviceId = row'.serviceId
  /-- the travel date -/
  travelDate : row.travelDate = row'.travelDate
  /-- the hold -/
  holdId : row.holdId = row'.holdId
  /-- the booking -/
  bookingId : row.bookingId = row'.bookingId
  /-- the state -/
  state : row.state = row'.state
  /-- the expiry -/
  expiresAt : row.expiresAt = row'.expiresAt

/-- Twins that are not booked are moved alike. -/
def KeepsTwins (f : LockRow → LockRow) : Prop :=
  ∀ row row', LockRow.Twins row row' → row.bookingId = none → LockRow.Twins (f row) (f row')

theorem KeepsTwins.id : KeepsTwins id := fun _ _ htwins _ => htwins

/-- An update whose condition reads the columns of twins alone. -/
theorem KeepsTwins.setIf {p : LockRow → Bool} {g : LockRow → LockRow}
    (hp : ∀ row row', LockRow.Twins row row' → row.bookingId = none → p row = p row')
    (hg : ∀ row row', LockRow.Twins row row' → LockRow.Twins (g row) (g row')) :
    KeepsTwins (setIf p g) := by
  intro row row' htwins hnone
  rw [TransitBpp.setIf, TransitBpp.setIf, ← hp row row' htwins hnone]
  split
  · exact hg row row' htwins
  · exact htwins

theorem KeepsTwins.expireIf {p : LockRow → Bool}
    (hp : ∀ row row', LockRow.Twins row row' → p row = p row') : KeepsTwins (expireIf p) :=
  .setIf (fun row row' htwins _ => hp row row' htwins) fun _ _ htwins =>
    ⟨htwins.serviceId, htwins.travelDate, htwins.holdId, htwins.bookingId, rfl, htwins.expiresAt⟩

theorem LockRow.Twins.isLapsed {row row' : LockRow} (h : LockRow.Twins row row')
    {serviceId travelDate : String} {nowMs : ℤ} :
    TransitBpp.isLapsed serviceId travelDate nowMs row =
      TransitBpp.isLapsed serviceId travelDate nowMs row' := by
  simp only [TransitBpp.isLapsed, h.state, h.serviceId, h.travelDate, h.expiresAt]

theorem LockRow.Twins.isLapsedIn {row row' : LockRow} (h : LockRow.Twins row row')
    {serviceIds : List String} {travelDate : String} {nowMs : ℤ} :
    TransitBpp.isLapsedIn serviceIds travelDate nowMs row =
      TransitBpp.isLapsedIn serviceIds travelDate nowMs row' := by
  simp only [TransitBpp.isLapsedIn, h.state, h.serviceId, h.travelDate, h.expiresAt]

theorem KeepsTwins.releaseHoldRow (live : Option HoldRecord) : KeepsTwins (releaseHoldRow live) :=
  .setIf (fun row row' htwins _ => by simp only [htwins.holdId, htwins.state]) fun _ _ htwins =>
    ⟨htwins.serviceId, htwins.travelDate, htwins.holdId, htwins.bookingId, rfl, htwins.expiresAt⟩

theorem KeepsTwins.bookHold (params : ConfirmBooking) : KeepsTwins (bookHold params) :=
  .setIf (fun row row' htwins _ => by simp only [htwins.holdId, htwins.state]) fun _ _ htwins =>
    ⟨htwins.serviceId, htwins.travelDate, htwins.holdId, rfl, rfl, rfl⟩

/-- A cancellation leaves what is not booked alone. -/
theorem KeepsTwins.releaseSeats (params : ApplyCancellation) (seatIds : List String) :
    KeepsTwins (releaseSeats params seatIds) := by
  intro row row' htwins hnone
  have hnone' : row'.bookingId = none := htwins.bookingId.symm.trans hnone
  have hstays : ∀ row : LockRow, row.bookingId = none →
      TransitBpp.releaseSeats params seatIds row = row := by
    intro row hrow
    rw [TransitBpp.releaseSeats, TransitBpp.setIf, if_neg (by simp [hrow])]
  rw [hstays row hnone, hstays row' hnone']
  exact htwins

theorem LocksMoved.of_map {f : LockRow → LockRow}
    (hrows : db'.seatLocks.rows = db.seatLocks.rows.map f) (hmoves : ∀ row, LockMove t row (f row))
    (hstep : KeepsTwins f) : ∃ f new, LocksMoved t db db' f new ∧ KeepsTwins f :=
  ⟨f, [], ⟨by rw [hrows, List.append_nil], hmoves, Or.inl rfl⟩, hstep⟩

theorem LocksMoved.of_eq (h : db'.seatLocks = db.seatLocks) :
    ∃ f new, LocksMoved t db db' f new ∧ KeepsTwins f :=
  ⟨id, [], ⟨by rw [h, List.map_id, List.append_nil], fun _ => .stay, Or.inl rfl⟩, .id⟩

/-- A lock a sweep may expire. -/
theorem LockMove.of_expireIf {p : LockRow → Bool} {nowMs : ℤ} (ht : t.sweepsAt = some nowMs)
    (hp : ∀ row, p row = true → row.state = .held ∧
      row.expiresAt.any (fun at_ => at_ ≤ nowMs) = true) (row : LockRow) :
    LockMove t row (expireIf p row) := by
  by_cases h : p row = true
  · have hrow : expireIf p row = { row with state := .expired } := by
      rw [expireIf, setIf, if_pos h]
    rw [hrow]
    exact .expire nowMs ht (hp row h).1 (hp row h).2
  · have hrow : expireIf p row = row := by rw [expireIf, setIf, if_neg h]
    rw [hrow]
    exact .stay

theorem isLapsed_held {serviceId travelDate : String} {nowMs : ℤ} {row : LockRow}
    (h : isLapsed serviceId travelDate nowMs row = true) :
    row.state = .held ∧ row.expiresAt.any (fun at_ => at_ ≤ nowMs) = true := by
  simp only [isLapsed, Bool.and_eq_true, decide_eq_true_eq] at h
  exact ⟨h.1.1.1, h.2⟩

theorem isLapsedIn_held {serviceIds : List String} {travelDate : String} {nowMs : ℤ}
    {row : LockRow} (h : isLapsedIn serviceIds travelDate nowMs row = true) :
    row.state = .held ∧ row.expiresAt.any (fun at_ => at_ ≤ nowMs) = true := by
  simp only [isLapsedIn, Bool.and_eq_true, decide_eq_true_eq] at h
  exact ⟨h.1.1.1, h.2⟩

theorem findHoldById_eq_none {holdId : String} (h : db.findHoldById holdId = none) :
    ∀ row ∈ db.seatLocks.rows, row.holdId ≠ some holdId := by
  intro row hrow hid
  rw [ReservedDb.findHoldById, Option.map_eq_none_iff, List.head?_eq_none_iff] at h
  have hmem : row ∈ (db.seatLocks.rows.filter fun row => row.holdId = some holdId).insertionSort
      fun a b => a.seatId ≤ b.seatId := by
    rw [List.mem_insertionSort, List.mem_filter]
    exact ⟨hrow, decide_eq_true hid⟩
  rw [h] at hmem
  cases hmem

/-- What taking a hold does to one lock: expire it, or release it. -/
theorem LockMove.of_release (params : AcquireHold) (live : Option HoldRecord) (row : LockRow) :
    LockMove (.acquireHold params) row (releaseHoldRow live
      (expireIf (isLapsed params.serviceId params.travelDate params.nowMs) row)) := by
  have hexpire : LockMove (.acquireHold params) row
      (expireIf (isLapsed params.serviceId params.travelDate params.nowMs) row) :=
    LockMove.of_expireIf rfl (fun _ => isLapsed_held) row
  by_cases h : isLapsed params.serviceId params.travelDate params.nowMs row = true
  · -- an expired row is not held, so the release passes it by
    have hrow : expireIf (isLapsed params.serviceId params.travelDate params.nowMs) row =
        { row with state := .expired } := by rw [expireIf, setIf, if_pos h]
    rw [hrow] at hexpire ⊢
    have hstay : releaseHoldRow live { row with state := .expired } =
        { row with state := .expired } := by cases live <;> simp [releaseHoldRow, setIf]
    rw [hstay]
    exact hexpire
  · have hrow : expireIf (isLapsed params.serviceId params.travelDate params.nowMs) row = row := by
      rw [expireIf, setIf, if_neg h]
    rw [hrow]
    cases live with
    | none => exact .stay
    | some hold =>
      rw [releaseHoldRow, setIf]
      split
      · rename_i hheld
        simp only [Option.any_some, Bool.and_eq_true, decide_eq_true_eq] at hheld
        exact .release params rfl hheld.2
      · exact .stay

/-- **Locks.** A committed transaction moves every lock, and those of an unbooked hold in step, and
appends at most one hold. -/
theorem Transaction.locks_keep_twins : ∀ {t : Transaction} {a : t.Answer},
    t.run raw db = .ok (a, db') → ∃ f new, LocksMoved t db db' f new ∧ KeepsTwins f
  | .sweepExpiredHolds serviceId travelDate nowMs, _, h =>
    LocksMoved.of_map (sweepExpiredHolds_ok h).locks
      (LockMove.of_expireIf rfl fun _ => isLapsed_held) (.expireIf fun _ _ htwins => htwins.isLapsed)
  | .sweepExpiredHoldsForServices serviceIds travelDate nowMs, _, h =>
    LocksMoved.of_map (sweepExpiredHoldsForServices_ok h).locks
      (LockMove.of_expireIf rfl fun _ => isLapsedIn_held)
        (.expireIf fun _ _ htwins => htwins.isLapsedIn)
  | .acquireHold params, _, h => by
    cases acquireHold_ok h with
    | reused hswept _ _ =>
      exact LocksMoved.of_map hswept.locks (LockMove.of_expireIf rfl fun _ => isLapsed_held)
        (.expireIf fun _ _ htwins => htwins.isLapsed)
    | @taken swept released holdId hswept _ hreleased _ hins _ =>
      refine ⟨_, params.newRows holdId, ⟨?_, LockMove.of_release params (params.liveHold swept),
        Or.inr ⟨params, holdId, rfl, rfl, ?_⟩⟩, fun row row' htwins hnone => ?_⟩
      · rw [hins.locks, hreleased.locks, hswept.locks, List.map_map]
        rfl
      · -- neither the sweep nor the release touches a hold id
        intro row hrow hid
        have hfresh := findHoldById_eq_none hins.fresh
        rw [hreleased.locks, hswept.locks, List.map_map] at hfresh
        refine hfresh _ (List.mem_map_of_mem hrow) ?_
        exact (LockMove.of_release params (params.liveHold swept) row).same.holdId.trans hid
      · refine KeepsTwins.releaseHoldRow _ _ _ (KeepsTwins.expireIf (fun _ _ htwins => htwins.isLapsed) _ _
          htwins hnone) ?_
        rw [expireIf, setIf]
        split <;> exact hnone
  | .confirmBooking params, _, h => by
    refine LocksMoved.of_map (confirmBooking_ok h).locks (fun row => ?_) (.bookHold params)
    rw [bookHold, setIf]
    split
    · rename_i hheld
      simp only [Bool.and_eq_true, decide_eq_true_eq] at hheld
      exact .book params rfl hheld.1 hheld.2
    · exact .stay
  | .applyCancellation params, _, h => by
    refine LocksMoved.of_map (applyCancellation_ok h).locks (fun row => ?_)
      (.releaseSeats params params.seatIds)
    rw [releaseSeats, setIf]
    split
    · rename_i hbooked
      simp only [Bool.and_eq_true, decide_eq_true_eq] at hbooked
      exact .cancel params rfl hbooked.1.1 hbooked.1.2 hbooked.2
    · exact .stay
  | .saveRefundQuote _, _, h => LocksMoved.of_eq (saveRefundQuote_ok h).2.1
  | .updateStoredOrder _ _, _, h => LocksMoved.of_eq (updateStoredOrder_ok h).locks
  | .clearManifests _, _, h => by
    obtain ⟨orders, hcleared⟩ := clearManifests_ok h
    exact LocksMoved.of_eq hcleared.locks

theorem Transaction.locks_moved {a : t.Answer} (h : t.run raw db = .ok (a, db')) :
    ∃ f new, LocksMoved t db db' f new := by
  obtain ⟨f, new, hmoved, -⟩ := Transaction.locks_keep_twins h
  exact ⟨f, new, hmoved⟩

/-! ## Bookings -/

/-- What transaction `t` can do to a booking. -/
inductive BookingMove (t : Transaction) (row : BookingRow) : BookingRow → Prop where
  /-- nothing -/
  | stay : BookingMove t row row
  /-- `applyCancellation` adds its booking up -/
  | settle (params : ApplyCancellation) (status : BookingStatus) (refundPaise : ℤ) :
      t = .applyCancellation params → row.id = params.bookingId →
      BookingMove t row { row with
        status, cancelledAt := some params.nowMs, refundPaise := some refundPaise,
        slabCode := some params.slabCode }
  /-- `updateStoredOrder` replaces the order of its booking -/
  | store (order : Order) : t = .updateStoredOrder row.id order →
      BookingMove t row { row with order := order }
  /-- the manifest sweep replaces the order of a listed booking -/
  | redact (stale : List (String × Order)) (order order' : Order) : t = .clearManifests stale →
      (row.id, order) ∈ stale → order.withoutManifestNames = .ok order' →
      BookingMove t row { row with order := order' }

/-- What never changes about a booking: all but its status, its refund and its order. -/
structure SameBooking (row row' : BookingRow) : Prop where
  /-- the rest of the row -/
  eq : row' = { row with
    status := row'.status, cancelledAt := row'.cancelledAt, refundPaise := row'.refundPaise,
    slabCode := row'.slabCode, order := row'.order }

theorem BookingMove.same {row row' : BookingRow} (h : BookingMove t row row') :
    SameBooking row row' := by
  cases h <;> exact ⟨rfl⟩

theorem SameBooking.id {row row' : BookingRow} (h : SameBooking row row') : row'.id = row.id := by
  rw [h.eq]

theorem SameBooking.serviceId {row row' : BookingRow} (h : SameBooking row row') :
    row'.serviceId = row.serviceId := by
  rw [h.eq]

theorem SameBooking.travelDate {row row' : BookingRow} (h : SameBooking row row') :
    row'.travelDate = row.travelDate := by
  rw [h.eq]

theorem SameBooking.departureAt {row row' : BookingRow} (h : SameBooking row row') :
    row'.departureAt = row.departureAt := by
  rw [h.eq]

theorem SameBooking.createdAt {row row' : BookingRow} (h : SameBooking row row') :
    row'.createdAt = row.createdAt := by
  rw [h.eq]

/-- The bookings a transaction appends. -/
def Transaction.newBookings : Transaction → List BookingRow
  | confirmBooking params => [params.row]
  | _ => []

/-- What a transaction did to the bookings: it moved each of them by `g` and appended `new`. -/
structure BookingsMoved (t : Transaction) (db db' : ReservedDb) (g : BookingRow → BookingRow)
    (new : List BookingRow) : Prop where
  /-- the rows afterwards -/
  rows : db'.bookings.rows = db.bookings.rows.map g ++ new
  /-- each row moved -/
  moves : ∀ row, BookingMove t row (g row)
  /-- what is appended is the booking of a confirm -/
  new : new = t.newBookings

/-! ## Booked seats -/

/-- What transaction `t` can do to a booked seat. -/
inductive SeatMove (t : Transaction) (seat : BookingSeatRow) : BookingSeatRow → Prop where
  /-- nothing -/
  | stay : SeatMove t seat seat
  /-- `applyCancellation` cancels a confirmed seat it names -/
  | cancel (params : ApplyCancellation) : t = .applyCancellation params →
      seat.bookingId = params.bookingId → seat.seatId ∈ params.seatIds →
      seat.status = .confirmed → SeatMove t seat { seat with
        status := .cancelled
        cancelledAt := some params.nowMs
        refundPaise := some ((Js.mapGet params.refundBySeat seat.seatId).getD 0)
        slabCode := some params.slabCode }
  /-- the manifest sweep clears the passenger of a listed booking -/
  | clear (stale : List (String × Order)) : t = .clearManifests stale →
      seat.bookingId ∈ stale.map Prod.fst →
      SeatMove t seat { seat with name := none, age := none, gender := none }

theorem SeatMove.bookingId {seat seat' : BookingSeatRow} (h : SeatMove t seat seat') :
    seat'.bookingId = seat.bookingId := by
  cases h <;> rfl

theorem SeatMove.seatId {seat seat' : BookingSeatRow} (h : SeatMove t seat seat') :
    seat'.seatId = seat.seatId := by
  cases h <;> rfl

/-- A seat that is confirmed after a move was confirmed before it. -/
theorem SeatMove.confirmed {seat seat' : BookingSeatRow} (h : SeatMove t seat seat')
    (hs : seat'.status = .confirmed) : seat.status = .confirmed := by
  cases h with
  | stay => exact hs
  | cancel _ _ _ _ hc => exact hc
  | clear _ _ _ => exact hs

/-- Only a cancellation cancels a seat. -/
theorem SeatMove.confirmed_iff {seat seat' : BookingSeatRow} (h : SeatMove t seat seat')
    (hcancel : ∀ params, t ≠ .applyCancellation params) :
    seat'.status = .confirmed ↔ seat.status = .confirmed := by
  cases h with
  | cancel params ht => exact absurd ht (hcancel params)
  | _ => exact Iff.rfl

/-- The booked seats a transaction appends. -/
def Transaction.newSeats : Transaction → List BookingSeatRow
  | confirmBooking params => params.seatRows
  | _ => []

/-- What a transaction did to the booked seats: it moved each of them by `g` and appended `new`. -/
structure SeatsMoved (t : Transaction) (db db' : ReservedDb) (g : BookingSeatRow → BookingSeatRow)
    (new : List BookingSeatRow) : Prop where
  /-- the rows afterwards -/
  rows : db'.bookingSeats.rows = db.bookingSeats.rows.map g ++ new
  /-- each row moved -/
  moves : ∀ seat, SeatMove t seat (g seat)
  /-- what is appended are the seats of a confirm -/
  new : new = t.newSeats

theorem BookingsMoved.of_eq (hnew : t.newBookings = []) (h : db'.bookings = db.bookings) : ∃ g new, BookingsMoved t db db' g new :=
  ⟨id, [], by rw [h, List.map_id, List.append_nil], fun _ => .stay, hnew.symm⟩

theorem SeatsMoved.of_eq (hnew : t.newSeats = []) (h : db'.bookingSeats = db.bookingSeats) :
    ∃ g new, SeatsMoved t db db' g new :=
  ⟨id, [], by rw [h, List.map_id, List.append_nil], fun _ => .stay, hnew.symm⟩

/-- Taking a hold touches no booking. -/
theorem HoldTaken.bookings {params : AcquireHold} {hold : HoldRecord}
    (h : HoldTaken params db db' hold) :
    db'.bookings = db.bookings ∧ db'.bookingSeats = db.bookingSeats ∧
      db'.refundQuotes = db.refundQuotes := by
  cases h with
  | reused hswept _ _ => exact ⟨hswept.bookings, hswept.seats, hswept.quotes⟩
  | taken hswept _ hreleased _ hins _ =>
    exact ⟨(hins.bookings.trans hreleased.bookings).trans hswept.bookings,
      (hins.bookingSeats.trans hreleased.seats).trans hswept.seats,
      (hins.quotes.trans hreleased.quotes).trans hswept.quotes⟩

/-- **Bookings.** A committed transaction moves every booking, and only a confirm appends one. -/
theorem Transaction.bookings_moved : ∀ {t : Transaction} {a : t.Answer},
    t.run raw db = .ok (a, db') → ∃ g new, BookingsMoved t db db' g new
  | .sweepExpiredHolds _ _ _, _, h => BookingsMoved.of_eq rfl (sweepExpiredHolds_ok h).bookings
  | .sweepExpiredHoldsForServices _ _ _, _, h =>
    BookingsMoved.of_eq rfl (sweepExpiredHoldsForServices_ok h).bookings
  | .acquireHold _, _, h => BookingsMoved.of_eq rfl (acquireHold_ok h).bookings.1
  | .confirmBooking params, _, h =>
    ⟨id, [params.row], by rw [(confirmBooking_ok h).bookings, List.map_id], fun _ => .stay, rfl⟩
  | .applyCancellation params, _, h => by
    refine ⟨settleBooking params db', [], ?_, fun row => ?_, rfl⟩
    · rw [(applyCancellation_ok h).bookings, List.append_nil]
    · rw [settleBooking, setIf]
      split
      · rename_i hid
        exact .settle params _ _ rfl (of_decide_eq_true hid)
      · exact .stay
  | .saveRefundQuote _, _, h => BookingsMoved.of_eq rfl (saveRefundQuote_ok h).2.2.1
  | .updateStoredOrder bookingId order, _, h => by
    refine ⟨storeOrder bookingId order, [], ?_, fun row => ?_, rfl⟩
    · rw [(updateStoredOrder_ok h).bookings, List.append_nil]
    · rw [storeOrder, setIf]
      split
      · rename_i hid
        exact .store order (by rw [of_decide_eq_true hid])
      · exact .stay
  | .clearManifests stale, _, h => by
    obtain ⟨orders, hcleared⟩ := clearManifests_ok h
    refine ⟨storeOrders orders, [], ?_, fun row => ?_, rfl⟩
    · rw [hcleared.bookings, List.append_nil]
    · rcases ho : orders row.id with _ | order'
      · have hrow : storeOrders orders row = row := by rw [storeOrders, ho, Option.getD_none]
        rw [hrow]
        exact .stay
      · obtain ⟨order, hmem, hredact⟩ := hcleared.redacted row.id order' ho
        have hrow : storeOrders orders row = { row with order := order' } := by
          rw [storeOrders, ho, Option.getD_some]
        rw [hrow]
        exact .redact stale order order' rfl hmem hredact

/-- **Booked seats.** A committed transaction moves every booked seat, and only a confirm appends
any. -/
theorem Transaction.seats_moved : ∀ {t : Transaction} {a : t.Answer},
    t.run raw db = .ok (a, db') → ∃ g new, SeatsMoved t db db' g new
  | .sweepExpiredHolds _ _ _, _, h => SeatsMoved.of_eq rfl (sweepExpiredHolds_ok h).seats
  | .sweepExpiredHoldsForServices _ _ _, _, h =>
    SeatsMoved.of_eq rfl (sweepExpiredHoldsForServices_ok h).seats
  | .acquireHold _, _, h => SeatsMoved.of_eq rfl (acquireHold_ok h).bookings.2.1
  | .confirmBooking params, _, h =>
    ⟨id, params.seatRows, by rw [(confirmBooking_ok h).seats, List.map_id], fun _ => .stay, rfl⟩
  | .applyCancellation params, _, h => by
    refine ⟨cancelSeats params params.seatIds, [], ?_, fun seat => ?_, rfl⟩
    · rw [(applyCancellation_ok h).seats, List.append_nil]
    · rw [cancelSeats, setIf]
      split
      · rename_i hseat
        simp only [Bool.and_eq_true, decide_eq_true_eq] at hseat
        exact .cancel params rfl hseat.1.1 hseat.1.2 hseat.2
      · exact .stay
  | .saveRefundQuote _, _, h => SeatsMoved.of_eq rfl (saveRefundQuote_ok h).2.2.2.1
  | .updateStoredOrder _ _, _, h => SeatsMoved.of_eq rfl (updateStoredOrder_ok h).seats
  | .clearManifests stale, _, h => by
    obtain ⟨orders, hcleared⟩ := clearManifests_ok h
    refine ⟨clearSeats (stale.map Prod.fst), [], ?_, fun seat => ?_, rfl⟩
    · rw [hcleared.seats, List.append_nil]
    · rw [clearSeats, setIf]
      split
      · rename_i hmem
        exact .clear stale rfl (of_decide_eq_true hmem)
      · exact .stay

/-! ## Before and after -/

/-- The locks after a transaction are the locks before it, moved, and those of a hold it took. -/
theorem lock_after {a : t.Answer} (hrun : t.run raw db = .ok (a, db')) {row' : LockRow}
    (hrow : row' ∈ db'.seatLocks.rows) :
    (∃ row ∈ db.seatLocks.rows, LockMove t row row') ∨
      ∃ params holdId, t = .acquireHold params ∧ row' ∈ params.newRows holdId ∧
        ∀ row ∈ db.seatLocks.rows, row.holdId ≠ some holdId := by
  obtain ⟨f, new, hmoved⟩ := Transaction.locks_moved hrun
  rw [hmoved.rows] at hrow
  rcases List.mem_append.mp hrow with hrow | hrow
  · obtain ⟨row, hmem, rfl⟩ := List.mem_map.mp hrow
    exact Or.inl ⟨row, hmem, hmoved.moves row⟩
  · rcases hmoved.new with rfl | ⟨params, holdId, ht, rfl, hfresh⟩
    · cases hrow
    · exact Or.inr ⟨params, holdId, ht, hrow, hfresh⟩

/-- A lock before a transaction is a lock after it. -/
theorem lock_stays {a : t.Answer} (hrun : t.run raw db = .ok (a, db')) {row : LockRow}
    (hrow : row ∈ db.seatLocks.rows) : ∃ row' ∈ db'.seatLocks.rows, LockMove t row row' := by
  obtain ⟨f, new, hmoved⟩ := Transaction.locks_moved hrun
  refine ⟨f row, ?_, hmoved.moves row⟩
  rw [hmoved.rows]
  exact List.mem_append_left _ (List.mem_map_of_mem hrow)

/-- A booking after a transaction was there before, or was just made. -/
theorem booking_after {a : t.Answer} (hrun : t.run raw db = .ok (a, db')) {row' : BookingRow}
    (hrow : row' ∈ db'.bookings.rows) :
    (∃ row ∈ db.bookings.rows, SameBooking row row') ∨
      ∃ params, t = .confirmBooking params ∧ row' = params.row := by
  obtain ⟨g, new, hmoved⟩ := Transaction.bookings_moved hrun
  rw [hmoved.rows] at hrow
  rcases List.mem_append.mp hrow with hrow | hrow
  · obtain ⟨row, hmem, rfl⟩ := List.mem_map.mp hrow
    exact Or.inl ⟨row, hmem, (hmoved.moves row).same⟩
  · rw [hmoved.new] at hrow
    cases t with
    | confirmBooking params => exact Or.inr ⟨params, rfl, List.mem_singleton.mp hrow⟩
    | _ => cases hrow

/-- A booked seat after a transaction was there before, or was just sold. -/
theorem seat_after {a : t.Answer} (hrun : t.run raw db = .ok (a, db')) {seat' : BookingSeatRow}
    (hseat : seat' ∈ db'.bookingSeats.rows) :
    (∃ seat ∈ db.bookingSeats.rows, SeatMove t seat seat') ∨ seat' ∈ t.newSeats := by
  obtain ⟨g, new, hmoved⟩ := Transaction.seats_moved hrun
  rw [hmoved.rows] at hseat
  rcases List.mem_append.mp hseat with hseat | hseat
  · obtain ⟨seat, hmem, rfl⟩ := List.mem_map.mp hseat
    exact Or.inl ⟨seat, hmem, hmoved.moves seat⟩
  · exact Or.inr (hmoved.new ▸ hseat)

/-- Where the refund quotes come from: they are only ever added to. -/
theorem quotes_after : ∀ {t : Transaction} {a : t.Answer}, t.run raw db = .ok (a, db') →
    ∀ {quote : RefundQuoteRecord}, quote ∈ db'.refundQuotes.rows →
      quote ∈ db.refundQuotes.rows ∨ ∃ draft, t = .saveRefundQuote draft ∧ quote.draft = draft
  | .sweepExpiredHolds _ _ _, _, h, _, hquote => by
    rw [(sweepExpiredHolds_ok h).quotes] at hquote
    exact Or.inl hquote
  | .sweepExpiredHoldsForServices _ _ _, _, h, _, hquote => by
    rw [(sweepExpiredHoldsForServices_ok h).quotes] at hquote
    exact Or.inl hquote
  | .acquireHold _, _, h, _, hquote => by
    cases acquireHold_ok h with
    | reused hswept _ _ =>
      rw [hswept.quotes] at hquote
      exact Or.inl hquote
    | taken hswept _ hreleased _ hins _ =>
      rw [hins.quotes, hreleased.quotes, hswept.quotes] at hquote
      exact Or.inl hquote
  | .confirmBooking _, _, h, _, hquote => by
    rw [(confirmBooking_ok h).quotes] at hquote
    exact Or.inl hquote
  | .applyCancellation _, _, h, _, hquote => by
    rw [(applyCancellation_ok h).quotes] at hquote
    exact Or.inl hquote
  | .saveRefundQuote draft, _, h, quote, hquote => by
    obtain ⟨hdraft, -, -, -, hrows⟩ := saveRefundQuote_ok h
    rw [hrows] at hquote
    rcases List.mem_append.mp hquote with hquote | hquote
    · exact Or.inl hquote
    · obtain rfl := List.mem_singleton.mp hquote
      exact Or.inr ⟨draft, rfl, hdraft⟩
  | .updateStoredOrder _ _, _, h, _, hquote => by
    rw [(updateStoredOrder_ok h).quotes] at hquote
    exact Or.inl hquote
  | .clearManifests _, _, h, _, hquote => by
    obtain ⟨orders, hcleared⟩ := clearManifests_ok h
    rw [hcleared.quotes] at hquote
    exact Or.inl hquote

end TransitBpp
