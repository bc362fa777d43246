import TransitBpp.Acquiring
import TransitBpp.Redaction

/-!
# The rows of a buyer app

The rows of a buyer app are its bookings with their seats, locks and refund quotes
(`ReservedDb.rowsOf`). What a look-up on behalf of the app finds is told from them, a cancellation
of one of its bookings changes no others, and a retention sweep does to them what they alone say
(`rowsOf_of_sweep`). Only whether a sweep ends is decided by everybody's rows together.
-/

namespace TransitBpp

open Js

/-! ## The rows of a buyer app -/

/-- A buyer app, by its id and its address. -/
structure BuyerApp : Type where
  /-- its id -/
  bapId : String
  /-- its address -/
  bapUri : String
  deriving DecidableEq, Repr

/-- The booking is the buyer app's. -/
def BookingRow.isOf (app : BuyerApp) (row : BookingRow) : Bool :=
  row.identity.bapId = app.bapId && row.identity.bapUri = app.bapUri

/-- The rows of one buyer app. -/
structure AppRows : Type where
  /-- its bookings -/
  bookings : List BookingRow
  /-- the seats of those -/
  seats : List BookingSeatRow
  /-- the locks they were booked under -/
  locks : List LockRow
  /-- the refund quotes given for them -/
  quotes : List RefundQuoteRecord

namespace ReservedDb

variable (db : ReservedDb) (app : BuyerApp)

/-- The booking with this id is the buyer app's. -/
def owns (bookingId : String) : Bool :=
  db.bookings.rows.any fun row => row.isOf app && row.id = bookingId

/-- The rows of a buyer app. -/
def rowsOf : AppRows where
  bookings := db.bookings.rows.filter (BookingRow.isOf app)
  seats := db.bookingSeats.rows.filter fun seat => db.owns app seat.bookingId
  locks := db.seatLocks.rows.filter fun row => row.bookingId.any (db.owns app)
  quotes := db.refundQuotes.rows.filter fun quote => db.owns app quote.bookingId

end ReservedDb

variable {db db' db₁ db₂ : ReservedDb} {app other : BuyerApp} {bookingId : String}

theorem ReservedDb.owns_iff : db.owns app bookingId = true ↔
    ∃ row ∈ db.bookings.rows, row.isOf app = true ∧ row.id = bookingId := by
  simp [ReservedDb.owns]

theorem ReservedDb.owns_of_mem {row : BookingRow} (hrow : row ∈ db.bookings.rows)
    (hof : row.isOf app = true) : db.owns app row.id = true :=
  ReservedDb.owns_iff.mpr ⟨row, hrow, hof, rfl⟩

theorem BookingRow.app_eq_of_isOf {row : BookingRow} (h : row.isOf app = true)
    (h' : row.isOf other = true) : app = other := by
  obtain ⟨bapId, bapUri⟩ := app
  obtain ⟨bapId', bapUri'⟩ := other
  simp only [BookingRow.isOf, Bool.and_eq_true, decide_eq_true_eq] at h h'
  rw [← h.1, ← h.2, ← h'.1, ← h'.2]

/-- No booking is two apps'. -/
theorem ReservedDb.not_owns (h : db.owns app bookingId = true) (hne : other ≠ app) :
    db.owns other bookingId = false := by
  rw [Bool.eq_false_iff]
  intro h'
  obtain ⟨row, hrow, hof, hid⟩ := ReservedDb.owns_iff.mp h
  obtain ⟨row', hrow', hof', hid'⟩ := ReservedDb.owns_iff.mp h'
  obtain rfl := db.booking_unique hrow hrow' (hid.trans hid'.symm)
  exact hne (BookingRow.app_eq_of_isOf hof' hof)

/-! ### Reading them -/

/-- Which bookings an app has is told from its rows. -/
theorem ReservedDb.owns_eq (db : ReservedDb) (app : BuyerApp) :
    db.owns app = fun bookingId => (db.rowsOf app).bookings.any fun row => row.id = bookingId := by
  funext bookingId
  rw [ReservedDb.owns, ReservedDb.rowsOf, List.any_filter]

theorem owns_congr (h : db₁.rowsOf app = db₂.rowsOf app) : db₁.owns app = db₂.owns app := by
  rw [ReservedDb.owns_eq, ReservedDb.owns_eq, h]

/-- An app's booking by a reference is looked up among its own. -/
theorem bookingByReference_eq (db : ReservedDb) (operator reference : String) :
    db.bookingByReference operator app.bapId app.bapUri reference =
      (db.rowsOf app).bookings.find? fun row =>
        row.operator = operator && (row.id = reference || row.reference = reference) := by
  rw [ReservedDb.bookingByReference, ReservedDb.rowsOf, List.find?_filter]
  congr 1
  funext row
  simp only [BookingRow.isOf]
  grind

/-- The seats of an app's booking are looked up among its own. -/
theorem seatsOf_eq (howns : db.owns app bookingId = true) : db.seatsOf bookingId =
    ((db.rowsOf app).seats.filter fun seat => seat.bookingId = bookingId).insertionSort
      fun a b => a.seatId ≤ b.seatId := by
  rw [ReservedDb.seatsOf, ReservedDb.rowsOf, List.filter_filter]
  congr 1
  refine List.filter_congr fun seat _ => ?_
  by_cases hid : seat.bookingId = bookingId
  · simp [hid, howns]
  · simp [hid]

/-- So is the booking itself. -/
theorem bookingById_eq (howns : db.owns app bookingId = true) : db.bookingById bookingId =
    (db.rowsOf app).bookings.find? fun row => row.id = bookingId := by
  rw [ReservedDb.bookingById, ReservedDb.rowsOf, ← List.head?_filter, ← List.head?_filter,
    List.filter_filter]
  obtain ⟨row, hrow, hof, hid⟩ := ReservedDb.owns_iff.mp howns
  refine congrArg _ (List.filter_congr fun row' hrow' => ?_)
  by_cases hid' : row'.id = bookingId
  · obtain rfl := db.booking_unique hrow hrow' (hid.trans hid'.symm)
    simp [hid, hof]
  · simp [hid']

theorem confirmedCount_eq (howns : db.owns app bookingId = true) : db.confirmedCount bookingId =
    (db.rowsOf app).seats.countP fun seat =>
      seat.bookingId = bookingId && seat.status = .confirmed := by
  rw [ReservedDb.confirmedCount, ReservedDb.rowsOf, List.countP_filter]
  refine List.countP_congr fun seat _ => ?_
  by_cases hid : seat.bookingId = bookingId
  · simp [hid, howns]
  · simp [hid]

theorem refundTotal_of_rows (howns : db.owns app bookingId = true) : db.refundTotal bookingId =
    (((db.rowsOf app).seats.filter fun seat => seat.bookingId = bookingId).map
      fun seat => seat.refundPaise.getD 0).sum := by
  rw [ReservedDb.refundTotal, ReservedDb.rowsOf, List.filter_filter]
  congr 2
  refine List.filter_congr fun seat _ => ?_
  by_cases hid : seat.bookingId = bookingId
  · simp [hid, howns]
  · simp [hid]

/-- Where one row at most is looked for, it may be filtered before or after. -/
theorem find?_filter_of_unique {α : Type} {rows : List α} {p q : α → Bool}
    (hunique : ∀ x ∈ rows, ∀ y ∈ rows, p x = true → p y = true → x = y) :
    (rows.find? p).filter q = (rows.filter q).find? p := by
  cases hfound : rows.find? p with
  | none =>
    have hnone := List.find?_eq_none.mp hfound
    rw [List.find?_eq_none.mpr fun x hx => hnone x (List.mem_filter.mp hx).1]
    rfl
  | some x =>
    have hx := List.mem_of_find?_eq_some hfound
    have hpx : p x = true := List.find?_some hfound
    have hothers : ∀ y ∈ rows.filter q, p y = true → y = x := fun y hy hpy =>
      hunique y (List.mem_filter.mp hy).1 x hx hpy hpx
    by_cases hqx : q x = true
    · obtain ⟨y, hy⟩ := Option.isSome_iff_exists.mp
        (List.find?_isSome.mpr ⟨x, List.mem_filter.mpr ⟨hx, hqx⟩, hpx⟩)
      have hpy : p y = true := List.find?_some hy
      rw [hy, hothers y (List.mem_of_find?_eq_some hy) hpy, Option.filter_some_pos hqx]
    · rw [Option.filter_some_neg (by simpa using hqx), List.find?_eq_none.mpr]
      intro y hy hpy
      apply hqx
      rw [← hothers y hy hpy]
      exact (List.mem_filter.mp hy).2

/-- A quote for an app's booking is looked up among its own. -/
theorem findRefundQuote_own (howns : db.owns app bookingId = true) (id : String) :
    (db.findRefundQuote id).filter (fun quote => quote.bookingId = bookingId) =
      ((db.rowsOf app).quotes.find? fun quote => quote.id = id).filter
        fun quote => quote.bookingId = bookingId := by
  have hunique : ∀ quote ∈ db.refundQuotes.rows, ∀ quote' ∈ db.refundQuotes.rows,
      decide (quote.id = id) = true → decide (quote'.id = id) = true → quote = quote' := by
    intro quote hquote quote' hquote' hid hid'
    have hsame : quote.id = quote'.id := (of_decide_eq_true hid).trans (of_decide_eq_true hid').symm
    exact (db.refundQuotes.unique RefundQuoteRecord.primaryKey (by simp)).eq_of_key hquote hquote'
      rfl (by rw [RefundQuoteRecord.primaryKey, hsame])
  rw [ReservedDb.findRefundQuote, ReservedDb.rowsOf, find?_filter_of_unique hunique,
    find?_filter_of_unique fun x hx y hy =>
      hunique x (List.mem_filter.mp hx).1 y (List.mem_filter.mp hy).1, List.filter_filter]
  congr 1
  refine List.filter_congr fun quote _ => ?_
  by_cases hid : quote.bookingId = bookingId
  · simp [hid, howns]
  · simp [hid]

/-! ### The app alone -/

/-- The database with the rows of one app only. -/
def ReservedDb.only (db : ReservedDb) (app : BuyerApp) : ReservedDb where
  seatLocks := db.seatLocks.only fun row => row.bookingId.any (db.owns app)
  bookings := db.bookings.only (BookingRow.isOf app)
  bookingSeats := db.bookingSeats.only fun seat => db.owns app seat.bookingId
  refundQuotes := db.refundQuotes.only fun quote => db.owns app quote.bookingId

theorem rowsOf_only (db : ReservedDb) (app : BuyerApp) :
    (db.only app).rowsOf app = db.rowsOf app := by
  have howns : (db.only app).owns app = db.owns app := by
    funext bookingId
    change (db.bookings.rows.filter (BookingRow.isOf app)).any _ = db.bookings.rows.any _
    rw [List.any_filter]
    congr 1
    funext row
    rw [← Bool.and_assoc, Bool.and_self]
  rw [ReservedDb.rowsOf, howns, ReservedDb.rowsOf]
  simp [ReservedDb.only, Sql.Table.only]

/-! ### Rewriting rows -/

/-- The rows of an app, each rewritten. -/
def AppRows.map (f : BookingRow → BookingRow) (g : BookingSeatRow → BookingSeatRow)
    (k : LockRow → LockRow) (rows : AppRows) : AppRows :=
  ⟨rows.bookings.map f, rows.seats.map g, rows.locks.map k, rows.quotes⟩

theorem AppRows.map_congr {rows : AppRows} {f f' : BookingRow → BookingRow}
    {g g' : BookingSeatRow → BookingSeatRow} {k k' : LockRow → LockRow}
    (hf : ∀ row ∈ rows.bookings, f row = f' row) (hg : ∀ seat ∈ rows.seats, g seat = g' seat)
    (hk : ∀ row ∈ rows.locks, k row = k' row) : rows.map f g k = rows.map f' g' k' := by
  rw [AppRows.map, AppRows.map, List.map_congr_left hf, List.map_congr_left hg,
    List.map_congr_left hk]

theorem AppRows.map_id (rows : AppRows) : rows.map id id id = rows := by
  simp [AppRows.map]

/-- The rows of a database are rewritten in place, and none moves to another booking. -/
structure RowsMapped (f : BookingRow → BookingRow) (g : BookingSeatRow → BookingSeatRow)
    (k : LockRow → LockRow) (db db' : ReservedDb) : Prop where
  bookings : db'.bookings.rows = db.bookings.rows.map f
  seats : db'.bookingSeats.rows = db.bookingSeats.rows.map g
  locks : db'.seatLocks.rows = db.seatLocks.rows.map k
  quotes : db'.refundQuotes = db.refundQuotes
  id_stays : ∀ row, (f row).id = row.id
  app_stays : ∀ row, (f row).identity = row.identity
  seat_stays : ∀ seat, (g seat).bookingId = seat.bookingId
  lock_stays : ∀ row, (k row).bookingId = row.bookingId

variable {f : BookingRow → BookingRow} {g : BookingSeatRow → BookingSeatRow} {k : LockRow → LockRow}

theorem RowsMapped.owns (h : RowsMapped f g k db db') (app : BuyerApp) :
    db'.owns app = db.owns app := by
  funext bookingId
  rw [ReservedDb.owns, ReservedDb.owns, h.bookings, List.any_map]
  congr 1
  funext row
  simp [BookingRow.isOf, h.id_stays, h.app_stays]

/-- Each app's rows are rewritten the same way. -/
theorem RowsMapped.rowsOf (h : RowsMapped f g k db db') (app : BuyerApp) :
    db'.rowsOf app = (db.rowsOf app).map f g k := by
  have happ : BookingRow.isOf app ∘ f = BookingRow.isOf app := by
    funext row
    simp [BookingRow.isOf, h.app_stays]
  have hseat : (fun seat => db.owns app seat.bookingId) ∘ g =
      fun seat => db.owns app seat.bookingId := by
    funext seat
    simp [h.seat_stays]
  have hlock : (fun row => row.bookingId.any (db.owns app)) ∘ k =
      fun row => row.bookingId.any (db.owns app) := by
    funext row
    simp [h.lock_stays]
  rw [ReservedDb.rowsOf, h.owns app, h.bookings, h.seats, h.locks, h.quotes, List.filter_map,
    List.filter_map, List.filter_map, happ, hseat, hlock]
  rfl

/-! ### The transactions of a cancellation -/

theorem ReservedDb.owns_of_booking {row : BookingRow} (h : row ∈ (db.rowsOf app).bookings) :
    db.owns app row.id = true :=
  ReservedDb.owns_of_mem (List.mem_filter.mp h).1 (List.mem_filter.mp h).2

theorem ReservedDb.owns_of_seat {seat : BookingSeatRow} (h : seat ∈ (db.rowsOf app).seats) :
    db.owns app seat.bookingId = true :=
  (List.mem_filter.mp h).2

theorem ReservedDb.owns_of_lock {row : LockRow} (h : row ∈ (db.rowsOf app).locks)
    (hid : row.bookingId = some bookingId) : db.owns app bookingId = true := by
  have hany := (List.mem_filter.mp h).2
  rwa [hid] at hany

theorem SeatsCancelled.mapped {params : ApplyCancellation} (h : SeatsCancelled params db db') :
    RowsMapped (settleBooking params db') (cancelSeats params params.seatIds)
      (releaseSeats params params.seatIds) db db' where
  bookings := h.bookings
  seats := h.seats
  locks := h.locks
  quotes := h.quotes
  id_stays row := by
    rw [settleBooking, setIf]
    split <;> rfl
  app_stays row := by
    rw [settleBooking, setIf]
    split <;> rfl
  seat_stays seat := by
    rw [cancelSeats, setIf]
    split <;> rfl
  lock_stays row := by
    rw [releaseSeats, setIf]
    split <;> rfl

/-- Cancelling seats of a booking of an app does the same to its rows, whatever else there is. -/
theorem SeatsCancelled.agree {params : ApplyCancellation} {db₁' db₂' : ReservedDb}
    (h₁ : SeatsCancelled params db₁ db₁') (h₂ : SeatsCancelled params db₂ db₂')
    (howns : db₁.owns app params.bookingId = true) (hrows : db₁.rowsOf app = db₂.rowsOf app) :
    db₁'.rowsOf app = db₂'.rowsOf app := by
  have hseats : (db₁'.rowsOf app).seats = (db₂'.rowsOf app).seats := by
    rw [h₁.mapped.rowsOf, h₂.mapped.rowsOf, hrows]
    rfl
  have howns₁ : db₁'.owns app params.bookingId = true := by
    rw [h₁.mapped.owns]
    exact howns
  have howns₂ : db₂'.owns app params.bookingId = true := by
    rw [h₂.mapped.owns, ← owns_congr hrows]
    exact howns
  have hsettle : settleBooking params db₁' = settleBooking params db₂' := by
    funext row
    simp only [settleBooking, confirmedCount_eq howns₁, confirmedCount_eq howns₂,
      refundTotal_of_rows howns₁, refundTotal_of_rows howns₂, hseats]
  rw [h₁.mapped.rowsOf, h₂.mapped.rowsOf, hrows, hsettle]

/-- And nothing to the rows of another. -/
theorem SeatsCancelled.others {params : ApplyCancellation} (h : SeatsCancelled params db db')
    (howns : db.owns app params.bookingId = true) (hne : other ≠ app) :
    db'.rowsOf other = db.rowsOf other := by
  have hnot : ∀ {bookingId}, db.owns other bookingId = true → bookingId ≠ params.bookingId := by
    rintro bookingId howns' rfl
    rw [ReservedDb.not_owns howns hne] at howns'
    cases howns'
  rw [h.mapped.rowsOf]
  refine (AppRows.map_congr (fun row hrow => ?_) (fun seat hseat => ?_) fun row hrow => ?_).trans
    (AppRows.map_id _)
  · simp [settleBooking, setIf, hnot (ReservedDb.owns_of_booking hrow)]
  · simp [cancelSeats, setIf, hnot (ReservedDb.owns_of_seat hseat)]
  · have hother : row.bookingId ≠ some params.bookingId := fun hid =>
      hnot (ReservedDb.owns_of_lock hrow hid) rfl
    simp [releaseSeats, setIf, hother]

theorem BookingsOnly.mapped {order : Order}
    (h : BookingsOnly db db' (storeOrder bookingId order)) :
    RowsMapped (storeOrder bookingId order) id id db db' where
  bookings := h.bookings
  seats := by rw [h.seats, List.map_id]
  locks := by rw [h.locks, List.map_id]
  quotes := h.quotes
  id_stays row := by
    rw [storeOrder, setIf]
    split <;> rfl
  app_stays row := by
    rw [storeOrder, setIf]
    split <;> rfl
  seat_stays _ := rfl
  lock_stays _ := rfl

/-- Storing an order of an app's booking leaves the others as they are. -/
theorem BookingsOnly.others {order : Order} (h : BookingsOnly db db' (storeOrder bookingId order))
    (howns : db.owns app bookingId = true) (hne : other ≠ app) :
    db'.rowsOf other = db.rowsOf other := by
  rw [h.mapped.rowsOf]
  refine (AppRows.map_congr (fun row hrow => ?_) (fun _ _ => rfl) fun _ _ => rfl).trans
    (AppRows.map_id _)
  have hid : row.id ≠ bookingId := by
    intro hid
    have howns' := ReservedDb.owns_of_booking hrow
    rw [hid, ReservedDb.not_owns howns hne] at howns'
    cases howns'
  simp [storeOrder, setIf, hid]

/-- A quote goes to the app whose booking it is for. -/
theorem rowsOf_of_quote {quote : RefundQuoteRecord} (hlocks : db'.seatLocks = db.seatLocks)
    (hbookings : db'.bookings = db.bookings) (hseats : db'.bookingSeats = db.bookingSeats)
    (hquotes : db'.refundQuotes.rows = db.refundQuotes.rows ++ [quote]) (app : BuyerApp) :
    db'.rowsOf app = { db.rowsOf app with quotes :=
      (db.rowsOf app).quotes ++ if db.owns app quote.bookingId then [quote] else [] } := by
  have howns : db'.owns app = db.owns app := by
    funext bookingId
    rw [ReservedDb.owns, ReservedDb.owns, hbookings]
  rw [ReservedDb.rowsOf, ReservedDb.rowsOf, howns, hlocks, hbookings, hseats, hquotes,
    List.filter_append, List.filter_singleton, Bool.cond_eq_ite]

/-! ### The retention sweep -/

namespace AppRows

variable (rows : AppRows) (cutoff : ℤ)

/-- The booking departed before the cutoff, and a seat of it still carries a name. -/
def isStale (row : BookingRow) : Bool :=
  row.departureAt < cutoff &&
    rows.seats.any fun seat => seat.bookingId = row.id && seat.name.isSome

/-- The rows as a retention sweep leaves them: no stale booking has a passenger. -/
def swept : AppRows :=
  rows.map
    (fun row => if rows.isStale cutoff row then
      { row with order := row.order.withoutManifestNames.toOption.getD row.order } else row)
    (fun seat => if rows.bookings.any fun row => rows.isStale cutoff row && row.id = seat.bookingId
      then { seat with name := none, age := none, gender := none } else seat)
    id

end AppRows

theorem mem_staleManifests_iff {cutoff : ℤ} {entry : String × Order} :
    entry ∈ db.staleManifests cutoff ↔ ∃ row ∈ db.bookings.rows,
      (row.departureAt < cutoff && db.bookingSeats.rows.any fun seat =>
        seat.bookingId = row.id && seat.name.isSome) = true ∧ (row.id, row.order) = entry := by
  simp only [ReservedDb.staleManifests, List.mem_map, List.mem_filter, and_assoc]

/-- Whether an app's booking is stale is told from the rows of the app. -/
theorem isStale_eq {cutoff : ℤ} {row : BookingRow} (howns : db.owns app row.id = true) :
    (db.rowsOf app).isStale cutoff row = (row.departureAt < cutoff &&
      db.bookingSeats.rows.any fun seat => seat.bookingId = row.id && seat.name.isSome) := by
  rw [AppRows.isStale, ReservedDb.rowsOf, List.any_filter]
  congr 2
  funext seat
  by_cases hid : seat.bookingId = row.id
  · simp [hid, howns]
  · simp [hid]

theorem ManifestsCleared.mapped {stale : List (String × Order)} {orders : String → Option Order}
    (h : ManifestsCleared stale db db' orders) :
    RowsMapped (storeOrders orders) (clearSeats (stale.map Prod.fst)) id db db' where
  bookings := h.bookings
  seats := h.seats
  locks := by rw [h.locks, List.map_id]
  quotes := h.quotes
  id_stays _ := rfl
  app_stays _ := rfl
  seat_stays seat := by
    rw [clearSeats, setIf]
    split <;> rfl
  lock_stays _ := rfl

/-- **What a sweep does to the rows of an app** is told from those rows. -/
theorem rowsOf_of_sweep {cutoff : ℤ} {u : Unit}
    (h : (db.staleManifests cutoff).forM clearManifest db = .ok (u, db')) (app : BuyerApp) :
    db'.rowsOf app = (db.rowsOf app).swept cutoff := by
  obtain ⟨orders, hcleared⟩ := clearManifests_ok h
  -- what is stored for an id is the redaction of the order the one booking with that id had
  have hstored : ∀ row ∈ db.bookings.rows, ∀ order', orders row.id = some order' →
      (row.id, row.order) ∈ db.staleManifests cutoff ∧
        row.order.withoutManifestNames = .ok order' := by
    intro row hrow order' horder
    obtain ⟨order, hmem, hredact⟩ := hcleared.redacted _ _ horder
    obtain ⟨row', hrow', -, heq⟩ := mem_staleManifests_iff.mp hmem
    obtain ⟨hid, rfl⟩ := Prod.mk.inj heq
    obtain rfl := db.booking_unique hrow' hrow hid
    exact ⟨hmem, hredact⟩
  have hstale : ∀ row ∈ (db.rowsOf app).bookings, (db.rowsOf app).isStale cutoff row = true ↔
      (row.id, row.order) ∈ db.staleManifests cutoff := by
    intro row hrow
    have hmem := (List.mem_filter.mp hrow).1
    rw [isStale_eq (ReservedDb.owns_of_booking hrow), mem_staleManifests_iff]
    refine ⟨fun hdue => ⟨row, hmem, hdue, rfl⟩, ?_⟩
    rintro ⟨row', hrow', hdue, heq⟩
    obtain rfl := db.booking_unique hrow' hmem (Prod.mk.inj heq).1
    exact hdue
  rw [hcleared.mapped.rowsOf, AppRows.swept]
  refine AppRows.map_congr (fun row hrow => ?_) (fun seat hseat => ?_) fun _ _ => rfl
  · have hmem := (List.mem_filter.mp hrow).1
    rw [storeOrders]
    split
    · rename_i hdue
      have hlisted := hcleared.listed row.id
        (List.mem_map.mpr ⟨_, (hstale row hrow).mp hdue, rfl⟩)
      obtain ⟨order', horder⟩ := Option.isSome_iff_exists.mp hlisted
      rw [horder, (hstored row hmem order' horder).2]
      rfl
    · rename_i hdue
      cases horder : orders row.id with
      | none => rfl
      | some order' =>
        exact absurd ((hstale row hrow).mpr (hstored row hmem order' horder).1) hdue
  · have hlisted : seat.bookingId ∈ (db.staleManifests cutoff).map Prod.fst ↔
        ((db.rowsOf app).bookings.any fun row =>
          (db.rowsOf app).isStale cutoff row && row.id = seat.bookingId) = true := by
      rw [List.any_eq_true, List.mem_map]
      refine ⟨?_, ?_⟩
      · rintro ⟨entry, hentry, hid⟩
        obtain ⟨row, hrow, hdue, rfl⟩ := mem_staleManifests_iff.mp hentry
        obtain ⟨row', hrow', hof, hid'⟩ := ReservedDb.owns_iff.mp (ReservedDb.owns_of_seat hseat)
        obtain rfl := db.booking_unique hrow' hrow (hid'.trans hid.symm)
        have hown : row' ∈ (db.rowsOf app).bookings := List.mem_filter.mpr ⟨hrow, hof⟩
        refine ⟨row', hown, ?_⟩
        rw [(hstale row' hown).mpr hentry, Bool.true_and]
        exact decide_eq_true hid
      · rintro ⟨row, hrow, hboth⟩
        rw [Bool.and_eq_true] at hboth
        exact ⟨_, (hstale row hrow).mp hboth.1, of_decide_eq_true hboth.2⟩
    rw [clearSeats, setIf]
    by_cases hmem : seat.bookingId ∈ (db.staleManifests cutoff).map Prod.fst
    · rw [if_pos (decide_eq_true hmem), if_pos (hlisted.mp hmem)]
    · rw [if_neg (by simpa using hmem), if_neg fun hany => hmem (hlisted.mpr hany)]

/-! ### Where a sweep stops -/

/-- What reading a field of a `null` entry throws. -/
def nullEntry : Failure := .error "Cannot read properties of null (reading 'descriptor')"

theorem Except.bind_error {ε α β : Type} {x : Except ε α} {f : α → Except ε β} {e : ε} :
    (x >>= f) = .error e ↔ x = .error e ∨ ∃ a, x = .ok a ∧ f a = .error e := by
  cases x <;> simp [bind, Except.bind]

mutual

/-- A `null` entry is all that stops the walk. -/
theorem withoutManifestNames_error : ∀ (value : Json) (e : Failure),
    withoutManifestNames value = .error e → e = nullEntry
  | .null, _, h => by cases h
  | .bool _, _, h => by cases h
  | .num _, _, h => by cases h
  | .str _, _, h => by cases h
  | .arr values, e, h => by
    rw [withoutManifestNames] at h
    rcases Except.bind_error.mp h with h | ⟨values', -, h⟩
    · exact withoutManifestNamesAll_error values e h
    · cases h
  | .obj fields, e, h => by
    rw [withoutManifestNames] at h
    cases hm : manifestList? fields with
    | none =>
      rw [hm] at h
      rcases Except.bind_error.mp h with h | ⟨fields', -, h⟩
      · exact withoutManifestNamesFields_error fields e h
      · cases h
    | some list =>
      rw [hm] at h
      rcases Except.bind_error.mp h with h | ⟨kept, -, h⟩
      · rw [keepSeatEntries] at h
        split at h
        · exact (Except.error.inj h).symm
        · cases h
      · cases h

theorem withoutManifestNamesAll_error : ∀ (values : List Json) (e : Failure),
    withoutManifestNamesAll values = .error e → e = nullEntry
  | [], _, h => by cases h
  | value :: values, e, h => by
    rw [withoutManifestNamesAll] at h
    rcases Except.bind_error.mp h with h | ⟨value', -, h⟩
    · exact withoutManifestNames_error value e h
    · rcases Except.bind_error.mp h with h | ⟨values', -, h⟩
      · exact withoutManifestNamesAll_error values e h
      · cases h

theorem withoutManifestNamesFields_error : ∀ (fields : JsonObject) (e : Failure),
    withoutManifestNamesFields fields = .error e → e = nullEntry
  | [], _, h => by cases h
  | (_, value) :: fields, e, h => by
    rw [withoutManifestNamesFields] at h
    rcases Except.bind_error.mp h with h | ⟨value', -, h⟩
    · exact withoutManifestNames_error value e h
    · rcases Except.bind_error.mp h with h | ⟨fields', -, h⟩
      · exact withoutManifestNamesFields_error fields e h
      · cases h

end

theorem Order.withoutManifestNames_error {order : Order} {e : Failure}
    (h : order.withoutManifestNames = .error e) : e = nullEntry := by
  have hjson := order.toJson_withoutManifestNames
  rw [h] at hjson
  exact TransitBpp.withoutManifestNames_error _ e hjson

/-- Every stale order of the database can be cleared. -/
def ReservedDb.Clears (db : ReservedDb) (cutoff : ℤ) : Prop :=
  ∀ entry ∈ db.staleManifests cutoff, ∃ order', entry.2.withoutManifestNames = .ok order'

/-- A list of manifests that cannot be cleared stops at a `null` entry. -/
theorem clearManifests_stops {stale : List (String × Order)} :
    (¬ ∀ entry ∈ stale, ∃ order', entry.2.withoutManifestNames = .ok order') →
      ∀ db : ReservedDb, stale.forM clearManifest db = .error nullEntry := by
  induction stale with
  | nil => exact fun h => absurd (by simp) h
  | cons first stale ih =>
    intro h db
    cases hfirst : first.2.withoutManifestNames with
    | ok order' =>
      obtain ⟨db₁, h₁⟩ := clearManifest_goes hfirst db
      have hrest : ¬ ∀ entry ∈ stale, ∃ order', entry.2.withoutManifestNames = .ok order' := by
        intro hall
        refine h fun entry hentry => ?_
        rcases List.mem_cons.mp hentry with rfl | hentry
        · exact ⟨order', hfirst⟩
        · exact hall entry hentry
      change (clearManifest first >>= fun _ => stale.forM clearManifest) db = _
      rw [Txn.bind_of_ok h₁, ih hrest db₁]
    | error e =>
      obtain ⟨n, db₁, hseats⟩ := update_goes ReservedDb.bookingSeats
        (fun db t => { db with bookingSeats := t })
        (p := fun seat => seat.bookingId = first.1)
        (f := fun seat => { seat with name := none, age := none, gender := none }) db
        (by simp [BookingSeatRow.primaryKey])
      have hstop : clearManifest first db = .error e := by
        rw [clearManifest, updateSeats, Txn.bind_of_ok hseats, hfirst]
        rfl
      obtain rfl := Order.withoutManifestNames_error hfirst
      change (clearManifest first db >>= fun p => stale.forM clearManifest p.2) = _
      rw [hstop]
      rfl

end TransitBpp
