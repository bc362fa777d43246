import TransitBpp.Moves

/-!
# No double sale

The store under any interleaving of its transactions. A `Ledger` is the database together with
every hold that was ever read from it, and a `Call` is one thing a caller does: read its newest
hold, or run a transaction, which commits whole or is rolled back. The only thing asked of the
callers is `Transaction.Legal`: a booking is confirmed with the departure and the seats its hold
was read with. The hold may have changed since.

`HoldRows` says the rows of one hold agree, `Fits` says a hold read earlier still names the rows
it was read from, and `Linked` ties `booking_seats` to `seat_locks`. Each is kept by every
transaction.
-/

namespace TransitBpp

open Js

variable {db db' : ReservedDb} {t : Transaction} {raw : String}

/-! ## The rows of a hold -/

/-- The seats of a hold, from its rows in whatever state they are. -/
def ReservedDb.seatsOfHold (db : ReservedDb) (holdId : String) : List String :=
  (db.seatLocks.rows.filter fun row => row.holdId = some holdId).map LockRow.seatId

/-- The rows of one hold agree on everything but the seat, and no seat is in it twice. -/
structure HoldRows (db : ReservedDb) : Prop where
  /-- rows of one hold are of one departure and one buyer, taken at one instant -/
  agree : ∀ row ∈ db.seatLocks.rows, ∀ row' ∈ db.seatLocks.rows, row.holdId = row'.holdId →
    row.serviceId = row'.serviceId ∧ row.travelDate = row'.travelDate ∧
      row.operator = row'.operator ∧ row.identity = row'.identity ∧
        row.createdAt = row'.createdAt
  /-- and of different seats -/
  distinct : db.seatLocks.rows.Pairwise fun row row' => row.holdId = row'.holdId →
    row.seatId ≠ row'.seatId
  /-- every row has a hold -/
  named : ∀ row ∈ db.seatLocks.rows, row.holdId.isSome

/-- What the rows of a new hold are. -/
theorem AcquireHold.mem_newRows {params : AcquireHold} {holdId : String} {row : LockRow}
    (h : row ∈ params.newRows holdId) :
    row.seatId ∈ params.seats ∧ row = { row with
      serviceId := params.serviceId
      travelDate := params.travelDate
      state := .held
      holdId := some holdId
      bookingId := none
      operator := params.operator
      identity := params.identity
      expiresAt := some params.expiresAt
      createdAt := params.nowMs } := by
  obtain ⟨s, hs, rfl⟩ := List.mem_map.mp h
  exact ⟨(List.mem_zipIdx' hs).2 ▸ List.getElem_mem _, rfl⟩

theorem AcquireHold.map_seatId_newRows (params : AcquireHold) (holdId : String) :
    (params.newRows holdId).map LockRow.seatId = params.seats := by
  rw [newRows, List.map_map]
  exact List.zipIdx_map_fst 0 params.seats

theorem AcquireHold.nodup_seats (params : AcquireHold) : params.seats.Nodup :=
  nodup_sort.mpr (nodup_unique params.seatIds)

theorem HoldRows.empty : HoldRows .empty := ⟨by simp [ReservedDb.empty, Sql.Table.empty],
  List.Pairwise.nil, by simp [ReservedDb.empty, Sql.Table.empty]⟩

theorem HoldRows.step (h : HoldRows db) {a : t.Answer} (hrun : t.run raw db = .ok (a, db')) :
    HoldRows db' := by
  obtain ⟨f, new, hmoved⟩ := Transaction.locks_moved hrun
  have hsame : ∀ row, SameLock row (f row) := fun row => (hmoved.moves row).same
  -- new rows carry an id that no old row carries, and agree with one another
  have hdiffer : ∀ row ∈ db.seatLocks.rows, ∀ row' ∈ new, row.holdId ≠ row'.holdId := by
    intro row hrow row' hnew
    rcases hmoved.new with rfl | ⟨params, holdId, -, rfl, hfresh⟩
    · cases hnew
    · rw [(AcquireHold.mem_newRows hnew).2]
      exact hfresh row hrow
  refine ⟨?_, ?_, ?_⟩
  · rw [hmoved.rows]
    intro row hrow row' hrow' heq
    rcases List.mem_append.mp hrow with hrow | hrow <;>
      rcases List.mem_append.mp hrow' with hrow' | hrow'
    · obtain ⟨r, hr, rfl⟩ := List.mem_map.mp hrow
      obtain ⟨r', hr', rfl⟩ := List.mem_map.mp hrow'
      rw [(hsame r).holdId, (hsame r').holdId] at heq
      obtain ⟨hs, hd, ho, hi, hc⟩ := h.agree r hr r' hr' heq
      rw [(hsame r).serviceId, (hsame r).travelDate, (hsame r).operator, (hsame r).identity,
        (hsame r).createdAt, (hsame r').serviceId, (hsame r').travelDate, (hsame r').operator,
        (hsame r').identity, (hsame r').createdAt]
      exact ⟨hs, hd, ho, hi, hc⟩
    · obtain ⟨r, hr, rfl⟩ := List.mem_map.mp hrow
      rw [(hsame r).holdId] at heq
      exact absurd heq (hdiffer r hr row' hrow')
    · obtain ⟨r', hr', rfl⟩ := List.mem_map.mp hrow'
      rw [(hsame r').holdId] at heq
      exact absurd heq.symm (hdiffer r' hr' row hrow)
    · rcases hmoved.new with rfl | ⟨params, holdId, -, rfl, -⟩
      · cases hrow
      · rw [(AcquireHold.mem_newRows hrow).2, (AcquireHold.mem_newRows hrow').2]
        exact ⟨rfl, rfl, rfl, rfl, rfl⟩
  · rw [hmoved.rows, List.pairwise_append]
    refine ⟨?_, ?_, ?_⟩
    · rw [List.pairwise_map]
      refine h.distinct.imp fun {r r'} hne heq => ?_
      rw [(hsame r).holdId, (hsame r').holdId] at heq
      rw [(hsame r).seatId, (hsame r').seatId]
      exact hne heq
    · rcases hmoved.new with rfl | ⟨params, holdId, -, rfl, -⟩
      · exact List.Pairwise.nil
      · have hnodup : ((params.newRows holdId).map LockRow.seatId).Nodup := by
          rw [params.map_seatId_newRows]
          exact params.nodup_seats
        refine (List.pairwise_map.mp hnodup).imp ?_
        intro row row' hne _
        exact hne
    · intro row hrow row' hrow' heq
      obtain ⟨r, hr, rfl⟩ := List.mem_map.mp hrow
      rw [(hsame r).holdId] at heq
      exact absurd heq (hdiffer r hr row' hrow')
  · rw [hmoved.rows]
    intro row hrow
    rcases List.mem_append.mp hrow with hrow | hrow
    · obtain ⟨r, hr, rfl⟩ := List.mem_map.mp hrow
      rw [(hsame r).holdId]
      exact h.named r hr
    · rcases hmoved.new with rfl | ⟨params, holdId, -, rfl, -⟩
      · cases hrow
      · rw [(AcquireHold.mem_newRows hrow).2]
        rfl

/-! ## A hold read earlier -/

/-- The rows of a hold are still those it was read from, in whatever state. -/
structure Fits (db : ReservedDb) (hold : HoldRecord) : Prop where
  /-- its rows are of its departure -/
  departure : ∀ row ∈ db.seatLocks.rows, row.holdId = some hold.holdId →
    row.serviceId = hold.serviceId ∧ row.travelDate = hold.travelDate
  /-- its seats are those of its rows -/
  seats : (db.seatsOfHold hold.holdId).Perm hold.seatIds
  /-- it has a row -/
  row : ∃ row ∈ db.seatLocks.rows, row.holdId = some hold.holdId

/-- The rows `findLatestHold` reads a hold from are all the rows of that hold. -/
theorem findLatestHold_eq (h : HoldRows db) {operator : String} {identity : ReservedIdentity}
    {hold : HoldRecord} (hread : db.findLatestHold operator identity = some hold) :
    ∃ newest ∈ db.seatLocks.rows, ∃ rows : List LockRow,
      rows.Perm (db.seatLocks.rows.filter fun row => row.holdId = newest.holdId) ∧
        newest.holdId.isSome ∧ newest.operator = operator ∧ newest.identity = identity ∧
          hold = holdFromRows newest rows := by
  obtain ⟨newest, hhead, rfl⟩ := Option.map_eq_some_iff.mp hread
  have hmem := List.mem_of_mem_head? hhead
  rw [ReservedDb.holdRowsOf, List.mem_insertionSort, List.mem_reverse, List.mem_filter] at hmem
  obtain ⟨hrow, hcols⟩ := hmem
  simp only [Bool.and_eq_true, decide_eq_true_eq] at hcols
  refine ⟨newest, hrow, _, ?_, hcols.2, hcols.1.1, hcols.1.2, rfl⟩
  have hperm : (db.holdRowsOf operator identity).Perm (db.seatLocks.rows.filter fun row =>
      row.operator = operator && row.identity = identity && row.holdId.isSome) :=
    (List.perm_insertionSort _ _).trans (List.reverse_perm _)
  refine (hperm.filter _).trans ?_
  rw [List.filter_filter]
  refine List.Perm.of_eq (List.filter_congr fun row hr => ?_)
  -- a row of the hold is the buyer's, because the newest row is
  by_cases hid : row.holdId = newest.holdId
  · obtain ⟨-, -, ho, hi, -⟩ := h.agree row hr newest hrow hid
    simp [hid, ho, hi, hcols.1.1, hcols.1.2, hcols.2]
  · simp [hid]

theorem Fits.of_read (h : HoldRows db) {operator : String} {identity : ReservedIdentity}
    {hold : HoldRecord} (hread : db.findLatestHold operator identity = some hold) :
    Fits db hold := by
  obtain ⟨newest, hrow, rows, hperm, hsome, -, -, rfl⟩ := findLatestHold_eq h hread
  have hid : some (newest.holdId.getD "") = newest.holdId := by
    obtain ⟨id, hid⟩ := Option.isSome_iff_exists.mp hsome
    rw [hid, Option.getD_some]
  refine ⟨fun row hr hrid => ?_, ?_, newest, hrow, hid.symm⟩
  · obtain ⟨hs, hd, -⟩ := h.agree row hr newest hrow (hrid.trans hid)
    exact ⟨hs, hd⟩
  · change ((db.seatLocks.rows.filter fun row =>
      row.holdId = some (newest.holdId.getD "")).map LockRow.seatId).Perm
        (sort (rows.map LockRow.seatId))
    rw [hid]
    exact (hperm.symm.map _).trans (sort_perm _).symm

/-- No transaction changes which rows a hold has. -/
theorem Fits.step {hold : HoldRecord} (h : Fits db hold) {a : t.Answer}
    (hrun : t.run raw db = .ok (a, db')) : Fits db' hold := by
  obtain ⟨f, new, hmoved⟩ := Transaction.locks_moved hrun
  have hsame : ∀ row, SameLock row (f row) := fun row => (hmoved.moves row).same
  obtain ⟨old, hmem, hid_old⟩ := h.row
  have hnew : ∀ row ∈ new, row.holdId ≠ some hold.holdId := by
    intro row hr hid
    rcases hmoved.new with rfl | ⟨params, holdId, -, rfl, hfresh⟩
    · cases hr
    · rw [(AcquireHold.mem_newRows hr).2] at hid
      exact hfresh old hmem (hid_old.trans hid.symm)
  refine ⟨fun row hr hid => ?_, ?_, f old, ?_, (hsame old).holdId.trans hid_old⟩
  · rw [hmoved.rows] at hr
    rcases List.mem_append.mp hr with hr | hr
    · obtain ⟨r, hr', rfl⟩ := List.mem_map.mp hr
      rw [(hsame r).serviceId, (hsame r).travelDate]
      exact h.departure r hr' ((hsame r).holdId.symm.trans hid)
    · exact absurd hid (hnew row hr)
  · have hseats : db'.seatsOfHold hold.holdId = db.seatsOfHold hold.holdId := by
      have hnil : new.filter (fun row => row.holdId = some hold.holdId) = [] :=
        List.filter_eq_nil_iff.mpr fun row hr => by simpa using hnew row hr
      rw [ReservedDb.seatsOfHold, hmoved.rows, List.filter_append, hnil, List.append_nil,
        List.filter_map, List.map_map, ReservedDb.seatsOfHold]
      have hpred : ((fun row : LockRow => decide (row.holdId = some hold.holdId)) ∘ f) =
          fun row => decide (row.holdId = some hold.holdId) := by
        funext row
        rw [Function.comp_apply, (hsame row).holdId]
      rw [hpred]
      exact List.map_congr_left fun row _ => (hsame row).seatId
    rw [hseats]
    exact h.seats
  · rw [hmoved.rows]
    exact List.mem_append_left _ (List.mem_map_of_mem hmem)

/-! ## Seats and locks -/

/-- A seat of a booking is confirmed. -/
def ReservedDb.Confirmed (db : ReservedDb) (bookingId seatId : String) : Prop :=
  ∃ seat ∈ db.bookingSeats.rows, seat.bookingId = bookingId ∧ seat.seatId = seatId ∧
    seat.status = .confirmed

instance (db : ReservedDb) (bookingId seatId : String) : Decidable (db.Confirmed bookingId seatId) :=
  inferInstanceAs (Decidable (∃ seat ∈ db.bookingSeats.rows, seat.bookingId = bookingId ∧
    seat.seatId = seatId ∧ seat.status = .confirmed))

/-- A booked lock carries a booking and a seat, on the booking's own departure. -/
def ReservedDb.BookedFor (db : ReservedDb) (bookingId seatId : String) : Prop :=
  ∃ row ∈ db.seatLocks.rows, row.state = .booked ∧ row.bookingId = some bookingId ∧
    row.seatId = seatId ∧ ∃ booking ∈ db.bookings.rows, booking.id = bookingId ∧
      row.serviceId = booking.serviceId ∧ row.travelDate = booking.travelDate

/-- Confirmed seats and booked locks are the same seats, and both are of bookings that exist. -/
structure Linked (db : ReservedDb) : Prop where
  /-- a lock's booking exists -/
  owned : ∀ row ∈ db.seatLocks.rows, ∀ id, row.bookingId = some id →
    ∃ booking ∈ db.bookings.rows, booking.id = id
  /-- a seat's booking exists -/
  seated : ∀ seat ∈ db.bookingSeats.rows, ∃ booking ∈ db.bookings.rows,
    booking.id = seat.bookingId
  /-- a booked lock is of its booking's departure, and its seat is confirmed -/
  booked : ∀ row ∈ db.seatLocks.rows, row.state = .booked →
    ∃ booking ∈ db.bookings.rows, row.bookingId = some booking.id ∧
      row.serviceId = booking.serviceId ∧ row.travelDate = booking.travelDate ∧
        db.Confirmed booking.id row.seatId
  /-- a confirmed seat has its booked lock -/
  confirmed : ∀ seat ∈ db.bookingSeats.rows, seat.status = .confirmed →
    db.BookedFor seat.bookingId seat.seatId

theorem Linked.empty : Linked .empty := by
  refine ⟨?_, ?_, ?_, ?_⟩ <;> simp [ReservedDb.empty, Sql.Table.empty]

/-- The step lemma for every transaction but a confirm: rows move in place, and exactly the locks
and seats of `gone` stop being booked and confirmed. -/
theorem Linked.moved (h : Linked db) (gone : String → String → Prop) {f : LockRow → LockRow}
    {new : List LockRow} {g : BookingRow → BookingRow} {k : BookingSeatRow → BookingSeatRow}
    (hlocks : db'.seatLocks.rows = db.seatLocks.rows.map f ++ new)
    (hsame : ∀ row, SameLock row (f row))
    (hbooking : ∀ row ∈ db.seatLocks.rows, (f row).bookingId = row.bookingId)
    (hbooked : ∀ row ∈ db.seatLocks.rows, (f row).state = .booked ↔
      row.state = .booked ∧ ∀ id, row.bookingId = some id → ¬ gone id row.seatId)
    (hnew : ∀ row ∈ new, row.state = .held ∧ row.bookingId = none)
    (hbookings : db'.bookings.rows = db.bookings.rows.map g)
    (hsameBooking : ∀ row, SameBooking row (g row))
    (hseats : db'.bookingSeats.rows = db.bookingSeats.rows.map k)
    (hkeys : ∀ seat, (k seat).bookingId = seat.bookingId ∧ (k seat).seatId = seat.seatId)
    (hstatus : ∀ seat ∈ db.bookingSeats.rows, (k seat).status = .confirmed ↔
      seat.status = .confirmed ∧ ¬ gone seat.bookingId seat.seatId) : Linked db' := by
  have hkept : ∀ {p : BookingRow → Prop}, (∃ booking ∈ db.bookings.rows, p (g booking)) →
      ∃ booking ∈ db'.bookings.rows, p booking := by
    rintro p ⟨booking, hmem, hp⟩
    exact ⟨g booking, hbookings ▸ List.mem_map_of_mem hmem, hp⟩
  refine ⟨?_, ?_, ?_, ?_⟩
  · intro row hrow id hid
    rw [hlocks] at hrow
    rcases List.mem_append.mp hrow with hrow | hrow
    · obtain ⟨r, hr, rfl⟩ := List.mem_map.mp hrow
      rw [hbooking r hr] at hid
      obtain ⟨booking, hmem, hb⟩ := h.owned r hr id hid
      exact hkept ⟨booking, hmem, (hsameBooking booking).id.trans hb⟩
    · rw [(hnew row hrow).2] at hid
      cases hid
  · intro seat hseat
    rw [hseats] at hseat
    obtain ⟨s, hs, rfl⟩ := List.mem_map.mp hseat
    obtain ⟨booking, hmem, hb⟩ := h.seated s hs
    exact hkept ⟨booking, hmem, by rw [(hsameBooking booking).id, hb, (hkeys s).1]⟩
  · intro row hrow hstate
    rw [hlocks] at hrow
    rcases List.mem_append.mp hrow with hrow | hrow
    · obtain ⟨r, hr, rfl⟩ := List.mem_map.mp hrow
      obtain ⟨hwas, hkeep⟩ := (hbooked r hr).mp hstate
      obtain ⟨booking, hmem, hid, hsvc, hdate, seat, hseat, hsb, hss, hconf⟩ := h.booked r hr hwas
      refine hkept ⟨booking, hmem, ?_, ?_, ?_, ?_⟩
      · rw [hbooking r hr, (hsameBooking booking).id, hid]
      · rw [(hsame r).serviceId, (hsameBooking booking).serviceId, hsvc]
      · rw [(hsame r).travelDate, (hsameBooking booking).travelDate, hdate]
      · refine ⟨k seat, hseats ▸ List.mem_map_of_mem hseat, ?_, ?_, (hstatus seat hseat).mpr
          ⟨hconf, ?_⟩⟩
        · rw [(hkeys seat).1, (hsameBooking booking).id, hsb]
        · rw [(hkeys seat).2, (hsame r).seatId, hss]
        · rw [hsb, hss]
          exact hkeep _ hid
    · rw [(hnew row hrow).1] at hstate
      cases hstate
  · intro seat hseat hconf
    rw [hseats] at hseat
    obtain ⟨s, hs, rfl⟩ := List.mem_map.mp hseat
    obtain ⟨hwas, hkeep⟩ := (hstatus s hs).mp hconf
    obtain ⟨row, hrow, hstate, hid, hseat', booking, hmem, hb, hsvc, hdate⟩ :=
      h.confirmed s hs hwas
    refine ⟨f row, ?_, ?_, ?_, ?_, hkept ⟨booking, hmem, ?_, ?_, ?_⟩⟩
    · rw [hlocks]
      exact List.mem_append_left _ (List.mem_map_of_mem hrow)
    · refine (hbooked row hrow).mpr ⟨hstate, fun id hid' => ?_⟩
      obtain rfl := Option.some.inj (hid.symm.trans hid')
      rw [hseat']
      exact hkeep
    · rw [hbooking row hrow, hid, (hkeys s).1]
    · rw [(hsame row).seatId, hseat', (hkeys s).2]
    · rw [(hsameBooking booking).id, hb, (hkeys s).1]
    · rw [(hsame row).serviceId, (hsameBooking booking).serviceId, hsvc]
    · rw [(hsame row).travelDate, (hsameBooking booking).travelDate, hdate]

/-- Cancelling seats releases exactly their locks. -/
theorem Linked.cancel (h : Linked db) {params : ApplyCancellation}
    (hrun : SeatsCancelled params db db') : Linked db' := by
  refine h.moved (fun id seatId => id = params.bookingId ∧ seatId ∈ params.seatIds)
    (by rw [hrun.locks, List.append_nil]) ?_ ?_ ?_ (fun row hr => by cases hr) hrun.bookings ?_
    hrun.seats ?_ ?_
  · intro row
    rw [releaseSeats, setIf]
    split <;> exact ⟨rfl, rfl, rfl, rfl, rfl, rfl, rfl, rfl⟩
  · intro row _
    rw [releaseSeats, setIf]
    split <;> rfl
  · intro row _
    rw [releaseSeats, setIf]
    split
    · rename_i hgone
      simp only [Bool.and_eq_true, decide_eq_true_eq] at hgone
      refine ⟨fun hs => ?_, fun hs => ?_⟩
      · cases hs
      · exact absurd ⟨rfl, hgone.1.2⟩ (hs.2 params.bookingId hgone.1.1)
    · rename_i hkeep
      simp only [Bool.and_eq_true, decide_eq_true_eq] at hkeep
      refine ⟨fun hs => ⟨hs, ?_⟩, fun hs => hs.1⟩
      rintro id hid ⟨rfl, hseat⟩
      exact hkeep ⟨⟨hid, hseat⟩, hs⟩
  · intro row
    rw [settleBooking, setIf]
    split <;> exact ⟨rfl⟩
  · intro seat
    rw [cancelSeats, setIf]
    split <;> exact ⟨rfl, rfl⟩
  · intro seat _
    rw [cancelSeats, setIf]
    split
    · rename_i hgone
      simp only [Bool.and_eq_true, decide_eq_true_eq] at hgone
      exact ⟨fun hs => (by cases hs), fun hs => absurd hgone.1 hs.2⟩
    · rename_i hkeep
      simp only [Bool.and_eq_true, decide_eq_true_eq] at hkeep
      exact ⟨fun hs => ⟨hs, fun hg => hkeep ⟨hg, hs⟩⟩, fun hs => hs.1⟩

/-- A booking is confirmed with the departure of the hold and exactly its distinct seats. -/
structure ConfirmBooking.Names (params : ConfirmBooking) (hold : HoldRecord) : Prop where
  /-- the hold -/
  holdId : params.holdId = hold.holdId
  /-- its service -/
  serviceId : params.serviceId = hold.serviceId
  /-- its travel date -/
  travelDate : params.travelDate = hold.travelDate
  /-- no seat twice -/
  distinct : (params.seats.map NewSeat.seatId).Nodup
  /-- its seats -/
  seats : ∀ seatId, seatId ∈ params.seats.map NewSeat.seatId ↔ seatId ∈ hold.seatIds

/-- The seats of a hold are distinct. -/
theorem HoldRows.nodup_seatsOfHold (h : HoldRows db) (holdId : String) :
    (db.seatsOfHold holdId).Nodup := by
  refine List.pairwise_map.mpr ((h.distinct.filter _).imp_of_mem ?_)
  intro row row' hrow hrow' hne
  have hid := of_decide_eq_true (List.mem_filter.mp hrow).2
  have hid' := of_decide_eq_true (List.mem_filter.mp hrow').2
  exact hne (hid.trans hid'.symm)

/-- A confirm that moved as many rows as it has seats moved every row of the hold. -/
theorem HoldBooked.all_held (hrows : HoldRows db) {params : ConfirmBooking} {hold : HoldRecord}
    (hfits : Fits db hold) (hnames : params.Names hold) (hrun : HoldBooked params db db') :
    ∀ row ∈ db.seatLocks.rows, row.holdId = some params.holdId → row.state = .held := by
  have hperm : (params.seats.map NewSeat.seatId).Perm (db.seatsOfHold params.holdId) := by
    refine (List.perm_ext_iff_of_nodup hnames.distinct (hrows.nodup_seatsOfHold _)).mpr ?_
    intro seatId
    rw [hnames.seats, hnames.holdId, hfits.seats.mem_iff]
  have hlen := hperm.length_eq
  rw [List.length_map, ReservedDb.seatsOfHold, List.length_map, ← hrun.moved] at hlen
  have hcount : (db.seatLocks.rows.countP fun row => row.holdId = some params.holdId &&
      row.state = .held) = (db.seatLocks.rows.filter fun row =>
        row.holdId = some params.holdId).countP fun row => row.state = .held := by
    rw [List.countP_filter]
    exact List.countP_congr fun row _ => by simp [and_comm]
  rw [hcount, List.countP_eq_length] at hlen
  intro row hrow hid
  exact of_decide_eq_true (hlen row (List.mem_filter.mpr ⟨hrow, decide_eq_true hid⟩))

/-- The id of a booking about to be inserted is new. -/
theorem HoldBooked.fresh {params : ConfirmBooking} (hrun : HoldBooked params db db') :
    ∀ booking ∈ db.bookings.rows, booking.id ≠ params.orderId := by
  intro booking hmem hid
  have hunique := db'.bookings.unique BookingRow.primaryKey (List.mem_cons_self ..)
  rw [Sql.UniqueOn, hrun.bookings, List.filterMap_append, List.nodup_append] at hunique
  refine hunique.2.2 [booking.id] (List.mem_filterMap.mpr ⟨booking, hmem, rfl⟩) [params.orderId]
    (List.mem_filterMap.mpr ⟨params.row, List.mem_singleton_self _, rfl⟩) ?_
  rw [hid]

/-- Confirming a hold books exactly its rows and confirms exactly its seats. -/
theorem Linked.confirm (h : Linked db) (hrows : HoldRows db) {params : ConfirmBooking}
    {hold : HoldRecord} (hfits : Fits db hold) (hnames : params.Names hold)
    (hrun : HoldBooked params db db') : Linked db' := by
  have hheld := hrun.all_held hrows hfits hnames
  have hnew : params.row ∈ db'.bookings.rows := by
    rw [hrun.bookings]
    exact List.mem_append_right _ (List.mem_singleton_self _)
  have hearlier : ∀ {p : BookingRow → Prop}, (∃ booking ∈ db.bookings.rows, p booking) →
      ∃ booking ∈ db'.bookings.rows, p booking := by
    rintro p ⟨booking, hmem, hp⟩
    exact ⟨booking, hrun.bookings ▸ List.mem_append_left _ hmem, hp⟩
  have hconfirmed : ∀ {id seatId : String}, db.Confirmed id seatId → db'.Confirmed id seatId := by
    rintro id seatId ⟨seat, hseat, hs⟩
    exact ⟨seat, hrun.seats ▸ List.mem_append_left _ hseat, hs⟩
  refine ⟨?_, ?_, ?_, ?_⟩
  · intro row hrow id hid
    rw [hrun.locks] at hrow
    obtain ⟨r, hr, rfl⟩ := List.mem_map.mp hrow
    rw [bookHold, setIf] at hid
    split at hid
    · obtain rfl := Option.some.inj hid
      exact ⟨params.row, hnew, rfl⟩
    · exact hearlier (h.owned r hr id hid)
  · intro seat hseat
    rw [hrun.seats] at hseat
    rcases List.mem_append.mp hseat with hseat | hseat
    · exact hearlier (h.seated seat hseat)
    · obtain ⟨s, -, rfl⟩ := List.mem_map.mp hseat
      exact ⟨params.row, hnew, rfl⟩
  · intro row hrow hstate
    rw [hrun.locks] at hrow
    obtain ⟨r, hr, rfl⟩ := List.mem_map.mp hrow
    by_cases hmine : r.holdId = some params.holdId ∧ r.state = .held
    · have hbook : bookHold params r = { r with
          state := .booked, bookingId := some params.orderId, expiresAt := none } := by
        simp [bookHold, setIf, hmine.1, hmine.2]
      rw [hbook]
      obtain ⟨hsvc, hdate⟩ := hfits.departure r hr (hmine.1.trans (by rw [hnames.holdId]))
      refine ⟨params.row, hnew, rfl, hsvc.trans hnames.serviceId.symm,
        hdate.trans hnames.travelDate.symm, ?_⟩
      have hseat : r.seatId ∈ params.seats.map NewSeat.seatId := by
        rw [hnames.seats, ← hfits.seats.mem_iff, ← hnames.holdId]
        exact List.mem_map_of_mem (List.mem_filter.mpr ⟨hr, decide_eq_true hmine.1⟩)
      obtain ⟨seat, hseat, hid⟩ := List.mem_map.mp hseat
      exact ⟨_, hrun.seats ▸ List.mem_append_right _ (List.mem_map_of_mem hseat), rfl, hid, rfl⟩
    · have hstay : bookHold params r = r := by
        rw [bookHold, setIf, if_neg (by simpa using hmine)]
      rw [hstay] at hstate ⊢
      obtain ⟨booking, hmem, hid, hsvc, hdate, hconf⟩ := h.booked r hr hstate
      exact hearlier ⟨booking, hmem, hid, hsvc, hdate, hconfirmed hconf⟩
  · intro seat hseat hconf
    rw [hrun.seats] at hseat
    rcases List.mem_append.mp hseat with hseat | hseat
    · obtain ⟨row, hrow, hstate, hid, hs, hbooking⟩ := h.confirmed seat hseat hconf
      have hstay : bookHold params row = row := by simp [bookHold, setIf, hstate]
      refine ⟨row, ?_, hstate, hid, hs, hearlier hbooking⟩
      rw [hrun.locks, ← hstay]
      exact List.mem_map_of_mem hrow
    · obtain ⟨s, hs, rfl⟩ := List.mem_map.mp hseat
      have hseatId : s.seatId ∈ db.seatsOfHold params.holdId := by
        rw [hnames.holdId, hfits.seats.mem_iff, ← hnames.seats]
        exact List.mem_map_of_mem hs
      obtain ⟨r, hr, hrs⟩ := List.mem_map.mp hseatId
      obtain ⟨hr, hrid⟩ := List.mem_filter.mp hr
      have hrid := of_decide_eq_true hrid
      have hbook : bookHold params r = { r with
          state := .booked, bookingId := some params.orderId, expiresAt := none } := by
        simp [bookHold, setIf, hrid, hheld r hr hrid]
      obtain ⟨hsvc, hdate⟩ := hfits.departure r hr (hrid.trans (by rw [hnames.holdId]))
      refine ⟨bookHold params r, hrun.locks ▸ List.mem_map_of_mem hr, ?_⟩
      rw [hbook]
      exact ⟨rfl, rfl, hrs, params.row, hnew, rfl, hsvc.trans hnames.serviceId.symm,
        hdate.trans hnames.travelDate.symm⟩

/-- Every other transaction books nothing and cancels nothing. -/
theorem Linked.other (h : Linked db) (hconfirm : ∀ params, t ≠ .confirmBooking params)
    (hcancel : ∀ params, t ≠ .applyCancellation params) {a : t.Answer}
    (hrun : t.run raw db = .ok (a, db')) : Linked db' := by
  obtain ⟨f, new, hlocks⟩ := Transaction.locks_moved hrun
  obtain ⟨g, newBookings, hbookings⟩ := Transaction.bookings_moved hrun
  obtain ⟨k, newSeats, hseats⟩ := Transaction.seats_moved hrun
  have hnone : newBookings = [] ∧ newSeats = [] := by
    rw [hbookings.new, hseats.new]
    cases t with
    | confirmBooking params => exact absurd rfl (hconfirm params)
    | _ => exact ⟨rfl, rfl⟩
  refine h.moved (fun _ _ => False) hlocks.rows (fun row => (hlocks.moves row).same) ?_ ?_ ?_
    (by rw [hbookings.rows, hnone.1, List.append_nil]) (fun row => (hbookings.moves row).same)
    (by rw [hseats.rows, hnone.2, List.append_nil])
    (fun seat => ⟨(hseats.moves seat).bookingId, (hseats.moves seat).seatId⟩) ?_
  · exact fun row _ => (hlocks.moves row).bookingId hconfirm
  · intro row _
    rw [(hlocks.moves row).booked_iff hconfirm hcancel]
    simp
  · intro row hrow
    rcases hlocks.new with rfl | ⟨params, holdId, -, rfl, -⟩
    · cases hrow
    · rw [(AcquireHold.mem_newRows hrow).2]
      exact ⟨rfl, rfl⟩
  · intro seat _
    rw [(hseats.moves seat).confirmed_iff hcancel]
    simp

/-! ## Calls -/

/-- A booking is confirmed only with the departure and the seats of a hold that was read. -/
def Transaction.Legal (holds : List HoldRecord) : Transaction → Prop
  | confirmBooking params => ∃ hold ∈ holds, params.Names hold
  | _ => True

/-- A legal transaction keeps seats and locks linked. -/
theorem Linked.step (h : Linked db) (hrows : HoldRows db) {holds : List HoldRecord}
    (hfits : ∀ hold ∈ holds, Fits db hold) (hlegal : t.Legal holds) {a : t.Answer}
    (hrun : t.run raw db = .ok (a, db')) : Linked db' := by
  cases t with
  | confirmBooking params =>
    obtain ⟨hold, hmem, hnames⟩ := hlegal
    exact h.confirm hrows (hfits hold hmem) hnames (confirmBooking_ok hrun)
  | applyCancellation params => exact h.cancel (applyCancellation_ok hrun)
  | _ => exact h.other (by intro params ht; cases ht) (by intro params ht; cases ht) hrun

/-- The database, and every hold that was ever read from it. -/
structure Ledger : Type where
  /-- the committed database -/
  db : ReservedDb
  /-- the holds its callers have read -/
  holds : List HoldRecord

/-- One thing a caller does. -/
inductive Ledger.Call : Type where
  /-- read a transaction's newest hold -/
  | findLatestHold : String → ReservedIdentity → Ledger.Call
  /-- run a transaction, with what the id generator would answer -/
  | run : String → Transaction → Ledger.Call

namespace Ledger

/-- What a call leaves: a transaction that fails is rolled back. -/
def perform (s : Ledger) : Call → Ledger
  | .findLatestHold operator identity =>
    { s with holds := (s.db.findLatestHold operator identity).toList ++ s.holds }
  | .run raw t =>
    match t.run raw s.db with
    | .ok (_, db) => { s with db := db }
    | .error _ => s

/-- What a caller may do. -/
def Call.Legal (s : Ledger) : Call → Prop
  | .findLatestHold _ _ => True
  | .run _ t => t.Legal s.holds

/-- The ledgers that legal calls, in any order, reach from `s`. -/
inductive Reach (s : Ledger) : Ledger → Prop where
  /-- no call yet -/
  | refl : Reach s s
  /-- one more call -/
  | step {s' : Ledger} {call : Call} : Reach s s' → call.Legal s' → Reach s (s'.perform call)

/-- A freshly migrated database, nothing read. -/
def initial : Ledger := ⟨.empty, []⟩

/-- What holds of every reachable ledger. -/
structure Inv (s : Ledger) : Prop where
  /-- the rows of a hold agree -/
  rows : HoldRows s.db
  /-- every hold read still names its rows -/
  fits : ∀ hold ∈ s.holds, Fits s.db hold
  /-- seats and locks are linked -/
  linked : Linked s.db

theorem Inv.initial : Inv initial :=
  ⟨HoldRows.empty, fun _ hmem => absurd hmem List.not_mem_nil, Linked.empty⟩

/-- The step lemma. -/
theorem Inv.step {s : Ledger} {call : Call} (h : Inv s) (hlegal : call.Legal s) :
    Inv (s.perform call) := by
  cases call with
  | findLatestHold operator identity =>
    refine ⟨h.rows, fun hold hmem => ?_, h.linked⟩
    rcases List.mem_append.mp hmem with hread | hmem
    · exact Fits.of_read h.rows (Option.mem_toList.mp hread)
    · exact h.fits hold hmem
  | run raw t =>
    rcases hrun : t.run raw s.db with e | ⟨a, db'⟩
    · have hsame : s.perform (.run raw t) = s := by simp only [perform, hrun]
      rw [hsame]
      exact h
    · have hnext : s.perform (.run raw t) = { s with db := db' } := by simp only [perform, hrun]
      rw [hnext]
      exact ⟨h.rows.step hrun, fun hold hmem => (h.fits hold hmem).step hrun,
        h.linked.step h.rows h.fits hlegal hrun⟩

/-- The run lemma. -/
theorem Reach.inv {s s' : Ledger} (h : Reach s s') (hinv : Inv s) : Inv s' := by
  induction h with
  | refl => exact hinv
  | step _ hlegal ih => exact ih.step hlegal

/-- A call moves every lock in place, or leaves them all. -/
theorem perform_lock (s : Ledger) (call : Call) {i : ℕ} {row : LockRow}
    (hrow : s.db.seatLocks.rows[i]? = some row) :
    (s.perform call).db.seatLocks.rows[i]? = some row ∨ ∃ raw t row',
      call = .run raw t ∧ (s.perform call).db.seatLocks.rows[i]? = some row' ∧
        LockMove t row row' := by
  cases call with
  | findLatestHold operator identity => exact Or.inl hrow
  | run raw t =>
    rcases hrun : t.run raw s.db with e | ⟨a, db'⟩
    · have hsame : s.perform (.run raw t) = s := by simp only [perform, hrun]
      rw [hsame]
      exact Or.inl hrow
    · have hnext : s.perform (.run raw t) = { s with db := db' } := by simp only [perform, hrun]
      obtain ⟨f, new, hmoved⟩ := Transaction.locks_moved hrun
      refine Or.inr ⟨raw, t, f row, rfl, ?_, hmoved.moves row⟩
      rw [hnext, hmoved.rows, List.getElem?_append_left, List.getElem?_map, hrow, Option.map_some]
      rw [List.length_map]
      exact (List.getElem?_eq_some_iff.mp hrow).1

/-- An expired or released lock never changes again. -/
theorem Reach.dead {s s' : Ledger} (h : Reach s s') {i : ℕ} {row : LockRow}
    (hrow : s.db.seatLocks.rows[i]? = some row)
    (hdead : row.state = .expired ∨ row.state = .released) :
    s'.db.seatLocks.rows[i]? = some row := by
  induction h with
  | refl => exact hrow
  | step _ _ ih =>
    rcases perform_lock _ _ ih with hsame | ⟨raw, t, row', -, hrow', hmove⟩
    · exact hsame
    · rw [hrow', hmove.dead hdead]

end Ledger

theorem LockRow.liveKey_eq {row : LockRow} {serviceId travelDate seatId : String} :
    row.liveKey = some [serviceId, travelDate, seatId] ↔
      row.isLive = true ∧ row.serviceId = serviceId ∧ row.travelDate = travelDate ∧
        row.seatId = seatId := by
  rw [liveKey]
  split <;> simp_all

/-- A seat of a departure has at most one live lock. -/
theorem ReservedDb.live_unique (db : ReservedDb) {row row' : LockRow}
    (hrow : row ∈ db.seatLocks.rows) (hrow' : row' ∈ db.seatLocks.rows)
    (hlive : row.isLive = true) (hlive' : row'.isLive = true)
    (hservice : row.serviceId = row'.serviceId) (hdate : row.travelDate = row'.travelDate)
    (hseat : row.seatId = row'.seatId) : row = row' := by
  have hunique := db.seatLocks.unique LockRow.liveKey (by simp)
  exact hunique.eq_of_key hrow hrow'
    (LockRow.liveKey_eq.mpr ⟨hlive, hservice, hdate, hseat⟩)
    (LockRow.liveKey_eq.mpr ⟨hlive', rfl, rfl, rfl⟩)

/-- A booking is known by its id. -/
theorem ReservedDb.booking_unique (db : ReservedDb) {booking booking' : BookingRow}
    (hmem : booking ∈ db.bookings.rows) (hmem' : booking' ∈ db.bookings.rows)
    (hid : booking.id = booking'.id) : booking = booking' := by
  have hunique := db.bookings.unique BookingRow.primaryKey (by simp)
  exact hunique.eq_of_key hmem hmem' (congrArg (fun id => some [id]) hid) rfl

theorem Linked.confirmed_iff (h : Linked db) (bookingId seatId : String) :
    db.Confirmed bookingId seatId ↔ db.BookedFor bookingId seatId := by
  constructor
  · rintro ⟨seat, hseat, rfl, rfl, hconf⟩
    exact h.confirmed seat hseat hconf
  · rintro ⟨row, hrow, hstate, hid, rfl, -⟩
    obtain ⟨booking, -, hid', -, -, hconf⟩ := h.booked row hrow hstate
    obtain rfl := Option.some.inj (hid.symm.trans hid')
    exact hconf

/-- **No double sale.** In every ledger that legal calls reach, in any order: a seat of a departure
has at most one live lock; a seat is confirmed exactly when a booked lock carries its booking on
that booking's departure; so no seat is confirmed in two bookings of one departure; an expired or
released lock never changes again; and a booked lock changes only by the cancellation of its own
booking and seat. -/
theorem Ledger.no_double_sale {s : Ledger} (h : Ledger.Reach .initial s) :
    (∀ serviceId travelDate seatId, (s.db.seatLocks.rows.filter fun row => row.isLive &&
      row.serviceId = serviceId && row.travelDate = travelDate && row.seatId = seatId).length ≤ 1) ∧
    (∀ bookingId seatId, s.db.Confirmed bookingId seatId ↔ s.db.BookedFor bookingId seatId) ∧
    (∀ booking ∈ s.db.bookings.rows, ∀ booking' ∈ s.db.bookings.rows,
      booking.serviceId = booking'.serviceId → booking.travelDate = booking'.travelDate →
        ∀ seatId, s.db.Confirmed booking.id seatId → s.db.Confirmed booking'.id seatId →
          booking.id = booking'.id) ∧
    (∀ s', Ledger.Reach s s' → ∀ (i : ℕ) (row : LockRow), s.db.seatLocks.rows[i]? = some row →
      row.state = .expired ∨ row.state = .released → s'.db.seatLocks.rows[i]? = some row) ∧
    (∀ (call : Ledger.Call) (i : ℕ) (row : LockRow), s.db.seatLocks.rows[i]? = some row →
      row.state = .booked → (s.perform call).db.seatLocks.rows[i]? = some row ∨
        ∃ raw params row', call = .run raw (.applyCancellation params) ∧
          row.bookingId = some params.bookingId ∧ row.seatId ∈ params.seatIds ∧
            (s.perform call).db.seatLocks.rows[i]? = some row' ∧ row'.id = row.id ∧
              row'.state = .released) := by
  have hinv := h.inv Ledger.Inv.initial
  refine ⟨fun serviceId travelDate seatId => ?_, hinv.linked.confirmed_iff, ?_,
    fun s' hreach i row hrow hdead => hreach.dead hrow hdead, fun call i row hrow hbooked => ?_⟩
  · have hunique := s.db.seatLocks.unique LockRow.liveKey (by simp)
    have hcount := Sql.UniqueOn.length_le_one hunique [serviceId, travelDate, seatId]
    simpa only [LockRow.liveKey_eq, Bool.decide_and, Bool.decide_eq_true, Bool.and_assoc] using hcount
  · intro booking hmem booking' hmem' hservice hdate seatId hconf hconf'
    obtain ⟨row, hrow, hstate, hid, hseat, b, hb, hbid, hsvc, hdt⟩ :=
      (hinv.linked.confirmed_iff _ _).mp hconf
    obtain ⟨row', hrow', hstate', hid', hseat', b', hb', hbid', hsvc', hdt'⟩ :=
      (hinv.linked.confirmed_iff _ _).mp hconf'
    obtain rfl := s.db.booking_unique hb hmem hbid
    obtain rfl := s.db.booking_unique hb' hmem' hbid'
    -- both seats are carried by the one live lock of the departure's seat
    obtain rfl := s.db.live_unique hrow hrow' (by simp [LockRow.isLive, hstate])
      (by simp [LockRow.isLive, hstate']) ((hsvc.trans hservice).trans hsvc'.symm)
      ((hdt.trans hdate).trans hdt'.symm) (hseat.trans hseat'.symm)
    exact Option.some.inj (hid.symm.trans hid')
  · rcases s.perform_lock call hrow with hsame | ⟨raw, t, row', rfl, hrow', hmove⟩
    · exact Or.inl hsame
    · rcases hmove.booked hbooked with rfl | ⟨hreleased, params, rfl, hid, hseat⟩
      · exact Or.inl hrow'
      · exact Or.inr ⟨raw, params, row', rfl, hid, hseat, hrow', hmove.same.id, hreleased⟩

namespace Ledger

/-- Two seats of one coach, held by one buyer. -/
def specimenHold : AcquireHold where
  operator := "ksrtc"
  identity := ⟨"bap", "https://bap", "T1"⟩
  serviceId := "KA-1"
  travelDate := "2026-09-10"
  seatIds := ["2", "1"]
  nowMs := 1000
  ttlSeconds := 600
  skipAvailabilityCheckForTest := false

/-- The booking of that hold. -/
def specimenBooking : ConfirmBooking where
  orderId := "B1"
  reference := "R1"
  holdId := "HLD-KSRTC-A1"
  operator := "ksrtc"
  identity := ⟨"bap", "https://bap", "T1"⟩
  serviceId := "KA-1"
  travelDate := "2026-09-10"
  serviceClass := .airavat
  fromBoardingPointId := "P1"
  toBoardingPointId := "P2"
  departureAt := 5000
  seats := [⟨"1", "Asha", none, some .female, 0, 0, 0⟩, ⟨"2", "Ravi", none, some .male, 0, 0, 0⟩]
  settlementCorporation := none
  settlementBasis := .inferred
  nowMs := 2000
  order := ⟨some "B1", some .active, "KSRTC", "KSRTC", [], [], ⟨⟨0, "0", rfl⟩, []⟩,
    none, none, "", none, []⟩

/-- The ledger after that hold, its reading and its booking. -/
def specimen : Ledger :=
  ((initial.perform (.run "a1" (.acquireHold specimenHold))).perform
    (.findLatestHold "ksrtc" ⟨"bap", "https://bap", "T1"⟩)).perform
      (.run "" (.confirmBooking specimenBooking))

theorem specimen_reach : Reach initial specimen := by
  refine .step (.step (.step .refl trivial) trivial) ?_
  have hread : ((initial.perform (.run "a1" (.acquireHold specimenHold))).perform
      (.findLatestHold "ksrtc" ⟨"bap", "https://bap", "T1"⟩)).holds =
        [specimenHold.newHold "HLD-KSRTC-A1"] := by decide +kernel
  refine ⟨specimenHold.newHold "HLD-KSRTC-A1", ?_, rfl, rfl, rfl, by decide, ?_⟩
  · rw [hread]
    exact List.mem_singleton_self _
  · intro seatId
    have hseats : specimenHold.seats = ["1", "2"] := by decide +kernel
    change seatId ∈ ["1", "2"] ↔ seatId ∈ specimenHold.seats
    rw [hseats]

/-- A sold seat, and the lock that carries it. -/
theorem no_double_sale_specimen :
    specimen.db.Confirmed "B1" "1" ∧ specimen.db.BookedFor "B1" "1" := by
  have hconf : specimen.db.Confirmed "B1" "1" := by decide +kernel
  exact ⟨hconf, ((no_double_sale specimen_reach).2.1 "B1" "1").mp hconf⟩

end Ledger

end TransitBpp
