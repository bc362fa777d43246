import TransitBpp.Store

/-!
# What each transaction does

One inversion lemma for each transaction of the store: what a transaction that committed has done
to the rows of each table. Every invariant of the development is derived from these, and nothing
outside this module unfolds a transaction.

`Txn.bind_ok` and its companions take a transaction apart statement by statement.
-/

namespace TransitBpp

open Js

variable {α β : Type} {db db' : ReservedDb}

/-! ## Taking a transaction apart -/

theorem Txn.bind_ok {x : Txn α} {f : α → Txn β} {b : β} :
    (x >>= f) db = .ok (b, db') ↔ ∃ a db₁, x db = .ok (a, db₁) ∧ f a db₁ = .ok (b, db') := by
  change (x db >>= fun p => f p.1 p.2) = _ ↔ _
  rcases x db with e | ⟨a, db₁⟩
  · constructor
    · intro h
      cases h
    · rintro ⟨a, db₁, h, -⟩
      cases h
  · constructor
    · intro h
      exact ⟨a, db₁, rfl, h⟩
    · rintro ⟨a', db₂, h, hf⟩
      obtain ⟨rfl, rfl⟩ := Prod.mk.inj (Except.ok.inj h)
      exact hf

theorem Txn.pure_ok {a b : α} : (pure a : Txn α) db = .ok (b, db') ↔ b = a ∧ db' = db := by
  constructor
  · intro h
    obtain ⟨rfl, rfl⟩ := Prod.mk.inj (Except.ok.inj h)
    exact ⟨rfl, rfl⟩
  · rintro ⟨rfl, rfl⟩
    rfl

theorem Txn.get_ok {a : ReservedDb} : (get : Txn ReservedDb) db = .ok (a, db') ↔ a = db ∧ db' = db :=
  Txn.pure_ok

theorem Txn.throw_ok {e : Failure} {p : α × ReservedDb} : (throw e : Txn α) db ≠ .ok p := by
  intro h
  cases h

theorem Txn.refuse_ok {code : ReservedErrorCode} {message : String} {attachment : JsonObject}
    {p : α × ReservedDb} : (refuse code message attachment : Txn α) db ≠ .ok p :=
  Txn.throw_ok

theorem Txn.lift_ok {x : Except Failure α} {a : α} :
    (liftM x : Txn α) db = .ok (a, db') ↔ x = .ok a ∧ db' = db := by
  rcases x with e | x
  · constructor
    · intro h
      cases h
    · rintro ⟨h, -⟩
      cases h
  · constructor
    · intro h
      obtain ⟨rfl, rfl⟩ := Prod.mk.inj (Except.ok.inj h)
      exact ⟨rfl, rfl⟩
    · rintro ⟨h, rfl⟩
      obtain rfl := Except.ok.inj h
      rfl

theorem statement_ok {ρ : Type} {indexes : List (ρ → Option (List String))}
    {table : ReservedDb → Sql.Table indexes} {put : ReservedDb → Sql.Table indexes → ReservedDb}
    {run : Sql.Table indexes → Option (Sql.Table indexes × α)} {a : α} :
    statement table put run db = .ok (a, db') ↔
      ∃ t, run (table db) = some (t, a) ∧ db' = put db t := by
  rw [statement]
  rcases hr : run (table db) with _ | ⟨t, a'⟩
  · constructor
    · intro h
      cases h
    · rintro ⟨t, h, -⟩
      cases h
  · constructor
    · intro h
      obtain ⟨rfl, rfl⟩ := Prod.mk.inj (Except.ok.inj h)
      exact ⟨t, rfl, rfl⟩
    · rintro ⟨t', h, rfl⟩
      obtain ⟨rfl, rfl⟩ := Prod.mk.inj (Option.some.inj h)
      rfl

/-- An update that keeps each index key of the rows it changes, or takes them out of the index,
goes through. -/
theorem update_goes {ρ : Type} {indexes : List (ρ → Option (List String))}
    (table : ReservedDb → Sql.Table indexes) (put : ReservedDb → Sql.Table indexes → ReservedDb)
    {p : ρ → Bool} {f : ρ → ρ} (db : ReservedDb)
    (hkey : ∀ key ∈ indexes, ∀ r, p r = true → key (f r) = key r ∨ key (f r) = none) :
    ∃ n db', statement table put (fun t => t.update p f) db = .ok (n, db') := by
  obtain ⟨t, ht⟩ := Sql.Table.update_isSome (t := table db) hkey
  exact ⟨_, _, statement_ok.mpr ⟨t, ht, rfl⟩⟩

/-- Change the rows that satisfy `p`. -/
def setIf {ρ : Type} (p : ρ → Bool) (f : ρ → ρ) (r : ρ) : ρ := if p r then f r else r

/-! ## Single statements -/

/-- Only `seat_locks` changed, row by row. -/
structure LocksOnly (db db' : ReservedDb) (f : LockRow → LockRow) : Prop where
  /-- each lock changed by `f` -/
  locks : db'.seatLocks.rows = db.seatLocks.rows.map f
  /-- bookings are as they were -/
  bookings : db'.bookings = db.bookings
  /-- so are their seats -/
  seats : db'.bookingSeats = db.bookingSeats
  /-- so are the quotes -/
  quotes : db'.refundQuotes = db.refundQuotes

theorem LocksOnly.refl : LocksOnly db db id := ⟨(List.map_id _).symm, rfl, rfl, rfl⟩

theorem updateLocks_ok {p : LockRow → Bool} {f : LockRow → LockRow} {n : ℕ}
    (h : updateLocks p f db = .ok (n, db')) :
    LocksOnly db db' (setIf p f) ∧ n = db.seatLocks.rows.countP p := by
  obtain ⟨t, ht, rfl⟩ := statement_ok.mp h
  obtain ⟨hrows, hn⟩ := Sql.Table.update_eq_some ht
  exact ⟨⟨hrows, rfl, rfl, rfl⟩, hn⟩

/-- Only `bookings` changed, row by row. -/
structure BookingsOnly (db db' : ReservedDb) (f : BookingRow → BookingRow) : Prop where
  /-- locks are as they were -/
  locks : db'.seatLocks = db.seatLocks
  /-- each booking changed by `f` -/
  bookings : db'.bookings.rows = db.bookings.rows.map f
  /-- the seats are as they were -/
  seats : db'.bookingSeats = db.bookingSeats
  /-- so are the quotes -/
  quotes : db'.refundQuotes = db.refundQuotes

theorem updateBookings_ok {p : BookingRow → Bool} {f : BookingRow → BookingRow} {n : ℕ}
    (h : updateBookings p f db = .ok (n, db')) : BookingsOnly db db' (setIf p f) := by
  obtain ⟨t, ht, rfl⟩ := statement_ok.mp h
  exact ⟨rfl, (Sql.Table.update_eq_some ht).1, rfl, rfl⟩

/-- Only `booking_seats` changed, row by row. -/
structure SeatsOnly (db db' : ReservedDb) (f : BookingSeatRow → BookingSeatRow) : Prop where
  /-- locks are as they were -/
  locks : db'.seatLocks = db.seatLocks
  /-- so are bookings -/
  bookings : db'.bookings = db.bookings
  /-- each seat changed by `f` -/
  seats : db'.bookingSeats.rows = db.bookingSeats.rows.map f
  /-- the quotes are as they were -/
  quotes : db'.refundQuotes = db.refundQuotes

theorem updateSeats_ok {p : BookingSeatRow → Bool} {f : BookingSeatRow → BookingSeatRow} {n : ℕ}
    (h : updateSeats p f db = .ok (n, db')) : SeatsOnly db db' (setIf p f) := by
  obtain ⟨t, ht, rfl⟩ := statement_ok.mp h
  exact ⟨rfl, rfl, (Sql.Table.update_eq_some ht).1, rfl⟩

theorem insertLocks_ok {rows : List LockRow} {u : Unit} (h : insertLocks rows db = .ok (u, db')) :
    db'.seatLocks.rows = db.seatLocks.rows ++ rows ∧ db'.bookings = db.bookings ∧
      db'.bookingSeats = db.bookingSeats ∧ db'.refundQuotes = db.refundQuotes := by
  obtain ⟨t, ht, rfl⟩ := statement_ok.mp h
  obtain ⟨t', ht', he⟩ := Option.map_eq_some_iff.mp ht
  obtain ⟨rfl, -⟩ := Prod.mk.inj he
  exact ⟨Sql.Table.rows_of_insert ht', rfl, rfl, rfl⟩

theorem insertBooking_ok {row : BookingRow} {u : Unit} (h : insertBooking row db = .ok (u, db')) :
    db'.seatLocks = db.seatLocks ∧ db'.bookings.rows = db.bookings.rows ++ [row] ∧
      db'.bookingSeats = db.bookingSeats ∧ db'.refundQuotes = db.refundQuotes := by
  obtain ⟨t, ht, rfl⟩ := statement_ok.mp h
  obtain ⟨t', ht', he⟩ := Option.map_eq_some_iff.mp ht
  obtain ⟨rfl, -⟩ := Prod.mk.inj he
  exact ⟨rfl, Sql.Table.rows_of_insert ht', rfl, rfl⟩

theorem insertSeats_ok {rows : List BookingSeatRow} {u : Unit}
    (h : insertSeats rows db = .ok (u, db')) :
    db'.seatLocks = db.seatLocks ∧ db'.bookings = db.bookings ∧
      db'.bookingSeats.rows = db.bookingSeats.rows ++ rows ∧
        db'.refundQuotes = db.refundQuotes := by
  obtain ⟨t, ht, rfl⟩ := statement_ok.mp h
  obtain ⟨t', ht', he⟩ := Option.map_eq_some_iff.mp ht
  obtain ⟨rfl, -⟩ := Prod.mk.inj he
  exact ⟨rfl, rfl, Sql.Table.rows_of_insert ht', rfl⟩

theorem insertQuote_ok {row : RefundQuoteRecord} {u : Unit}
    (h : insertQuote row db = .ok (u, db')) :
    db'.seatLocks = db.seatLocks ∧ db'.bookings = db.bookings ∧
      db'.bookingSeats = db.bookingSeats ∧
        db'.refundQuotes.rows = db.refundQuotes.rows ++ [row] := by
  obtain ⟨t, ht, rfl⟩ := statement_ok.mp h
  obtain ⟨t', ht', he⟩ := Option.map_eq_some_iff.mp ht
  obtain ⟨rfl, -⟩ := Prod.mk.inj he
  exact ⟨rfl, rfl, rfl, Sql.Table.rows_of_insert ht'⟩

/-! ## Sweeps -/

/-- A lock that lapses where `p` says so. -/
def expireIf (p : LockRow → Bool) : LockRow → LockRow :=
  setIf p fun row => { row with state := .expired }

/-- The rows `sweepExpiredHoldsForServices` expires. -/
def isLapsedIn (serviceIds : List String) (travelDate : String) (nowMs : ℤ) (row : LockRow) :
    Bool :=
  row.state = .held && row.serviceId ∈ serviceIds && row.travelDate = travelDate &&
    row.expiresAt.any fun at_ => at_ ≤ nowMs

theorem sweepExpiredHolds_ok {serviceId travelDate : String} {nowMs : ℤ} {n : ℕ}
    (h : sweepExpiredHolds serviceId travelDate nowMs db = .ok (n, db')) :
    LocksOnly db db' (expireIf (isLapsed serviceId travelDate nowMs)) :=
  (updateLocks_ok h).1

theorem sweepExpiredHoldsForServices_ok {serviceIds : List String} {travelDate : String}
    {nowMs : ℤ} {n : ℕ}
    (h : sweepExpiredHoldsForServices serviceIds travelDate nowMs db = .ok (n, db')) :
    LocksOnly db db' (expireIf (isLapsedIn serviceIds travelDate nowMs)) := by
  rw [sweepExpiredHoldsForServices] at h
  split at h
  · rename_i hnil
    obtain ⟨-, rfl⟩ := Txn.pure_ok.mp h
    refine ⟨?_, rfl, rfl, rfl⟩
    have hid : expireIf (isLapsedIn serviceIds travelDate nowMs) = id := by
      funext row
      simp [expireIf, setIf, isLapsedIn, hnil]
    rw [hid, List.map_id]
  · exact (updateLocks_ok h).1

/-! ## Holds -/

/-- The lock changes of releasing a hold. -/
def releaseHoldRow (live : Option HoldRecord) : LockRow → LockRow :=
  setIf (fun row => live.any fun hold => row.holdId = some hold.holdId && row.state = .held)
    fun row => { row with state := .released }

theorem releaseHold_ok {live : Option HoldRecord} {u : Unit}
    (h : AcquireHold.releaseHold live db = .ok (u, db')) :
    LocksOnly db db' (releaseHoldRow live) := by
  cases live with
  | none =>
    obtain ⟨-, rfl⟩ := Txn.pure_ok.mp h
    refine ⟨?_, rfl, rfl, rfl⟩
    have hid : releaseHoldRow none = id := rfl
    rw [hid, List.map_id]
  | some hold =>
    obtain ⟨n, db₁, hu, hp⟩ := Txn.bind_ok.mp h
    obtain ⟨-, rfl⟩ := Txn.pure_ok.mp hp
    exact (updateLocks_ok hu).1

theorem assertAvailable_ok {params : AcquireHold} {u : Unit}
    (h : params.assertAvailable db = .ok (u, db')) :
    db' = db ∧ ∀ claim ∈ db.liveClaims params.serviceId params.travelDate,
      claim.seatId ∉ params.seats := by
  obtain ⟨db₀, db₁, hg, hrest⟩ := Txn.bind_ok.mp h
  obtain ⟨rfl, rfl⟩ := Txn.get_ok.mp hg
  split at hrest
  · exact absurd hrest Txn.refuse_ok
  · rename_i htaken
    obtain ⟨-, rfl⟩ := Txn.pure_ok.mp hrest
    refine ⟨rfl, fun claim hc hs => ?_⟩
    rw [not_not, List.filter_eq_nil_iff] at htaken
    exact htaken _ (List.mem_map_of_mem hc) (by simpa using hs)

/-- What inserting a hold does. -/
structure HoldInserted (params : AcquireHold) (db db' : ReservedDb) (holdId : String) : Prop where
  /-- the hold id is new -/
  fresh : db.findHoldById holdId = none
  /-- there is something to hold -/
  seats : params.seats ≠ []
  /-- its rows come last -/
  locks : db'.seatLocks.rows = db.seatLocks.rows ++ params.newRows holdId
  /-- bookings are as they were -/
  bookings : db'.bookings = db.bookings
  /-- so are their seats -/
  bookingSeats : db'.bookingSeats = db.bookingSeats
  /-- so are the quotes -/
  quotes : db'.refundQuotes = db.refundQuotes

theorem insertHold_ok {params : AcquireHold} {raw : String} {hold : HoldRecord}
    (h : params.insertHold raw db = .ok (hold, db')) :
    ∃ holdId, hold = params.newHold holdId ∧ HoldInserted params db db' holdId := by
  obtain ⟨holdId, db₁, hid, hread⟩ := Txn.bind_ok.mp h
  obtain ⟨-, rfl⟩ := Txn.lift_ok.mp hid
  obtain ⟨db₀, db₂, hg, hrest⟩ := Txn.bind_ok.mp hread
  obtain ⟨rfl, rfl⟩ := Txn.get_ok.mp hg
  split at hrest
  · obtain ⟨_, _, ht, _⟩ := Txn.bind_ok.mp hrest
    exact absurd ht Txn.throw_ok
  · rename_i hfresh
    split at hrest
    · obtain ⟨_, _, ht, _⟩ := Txn.bind_ok.mp hrest
      exact absurd ht Txn.throw_ok
    · rename_i hseats
      obtain ⟨_, db₃, hi, hp⟩ := Txn.bind_ok.mp hrest
      obtain ⟨rfl, rfl⟩ := Txn.pure_ok.mp hp
      obtain ⟨hl, hb, hs, hq⟩ := insertLocks_ok hi
      exact ⟨holdId, rfl, by simpa using hfresh, hseats, hl, hb, hs, hq⟩

/-- What taking a hold does: after the sweep, either the live hold is exactly what is asked for
and nothing else happens, or it is released and a new one inserted. -/
inductive HoldTaken (params : AcquireHold) (db db' : ReservedDb) (hold : HoldRecord) : Prop where
  /-- the live hold is what is asked for -/
  | reused : LocksOnly db db'
        (expireIf (isLapsed params.serviceId params.travelDate params.nowMs)) →
      params.liveHold db' = some hold → params.isSame hold = true → HoldTaken params db db' hold
  /-- a new hold replaces it -/
  | taken {swept released : ReservedDb} {holdId : String} : LocksOnly db swept
        (expireIf (isLapsed params.serviceId params.travelDate params.nowMs)) →
      (∀ live, params.liveHold swept = some live → params.isSame live = false) →
      LocksOnly swept released (releaseHoldRow (params.liveHold swept)) →
      (params.skipAvailabilityCheckForTest = false →
        ∀ claim ∈ released.liveClaims params.serviceId params.travelDate,
          claim.seatId ∉ params.seats) →
      HoldInserted params released db' holdId → hold = params.newHold holdId →
      HoldTaken params db db' hold

theorem acquireHold_ok {params : AcquireHold} {raw : String} {hold : HoldRecord}
    (h : acquireHold params raw db = .ok (hold, db')) : HoldTaken params db db' hold := by
  have hbody : params.body raw db = .ok (hold, db') := by
    rw [acquireHold] at h
    split at h
    · cases h
    · exact h
  obtain ⟨n, swept, hsweep, hread⟩ := Txn.bind_ok.mp hbody
  have hswept := sweepExpiredHolds_ok hsweep
  obtain ⟨db₀, db₁, hg, hrest⟩ := Txn.bind_ok.mp hread
  obtain ⟨rfl, rfl⟩ := Txn.get_ok.mp hg
  dsimp only at hrest
  rcases hsame : Option.filter params.isSame (params.liveHold db₁) with _ | live <;>
    rw [hsame] at hrest
  · have hdiffers : ∀ live, params.liveHold db₁ = some live → params.isSame live = false := by
      intro live hl
      rw [hl] at hsame
      simpa using hsame
    obtain ⟨_, released, hr, hchecked⟩ := Txn.bind_ok.mp hrest
    have hreleased := releaseHold_ok hr
    split at hchecked
    · obtain ⟨_, db₂, ha, hi⟩ := Txn.bind_ok.mp hchecked
      obtain ⟨rfl, hfree⟩ := assertAvailable_ok ha
      obtain ⟨holdId, rfl, hins⟩ := insertHold_ok hi
      exact .taken hswept hdiffers hreleased (fun _ => hfree) hins rfl
    · rename_i hskip
      obtain ⟨holdId, rfl, hins⟩ := insertHold_ok hchecked
      refine .taken hswept hdiffers hreleased (fun hno => ?_) hins rfl
      simp [hno] at hskip
  · obtain ⟨rfl, rfl⟩ := Txn.pure_ok.mp hrest
    obtain ⟨hl, hs⟩ := Option.filter_eq_some_iff.mp hsame
    exact .reused hswept hl hs

/-! ## Bookings -/

/-- The lock changes of a confirm. -/
def bookHold (params : ConfirmBooking) : LockRow → LockRow :=
  setIf (fun row => row.holdId = some params.holdId && row.state = .held)
    fun row => { row with state := .booked, bookingId := some params.orderId, expiresAt := none }

/-- What a confirm does. -/
structure HoldBooked (params : ConfirmBooking) (db db' : ReservedDb) : Prop where
  /-- the hold still had a held row for each seat -/
  moved : (db.seatLocks.rows.countP fun row => row.holdId = some params.holdId &&
    row.state = .held) = params.seats.length
  /-- its held rows are booked -/
  locks : db'.seatLocks.rows = db.seatLocks.rows.map (bookHold params)
  /-- the booking comes last -/
  bookings : db'.bookings.rows = db.bookings.rows ++ [params.row]
  /-- and so do its seats -/
  seats : db'.bookingSeats.rows = db.bookingSeats.rows ++ params.seatRows
  /-- the quotes are as they were -/
  quotes : db'.refundQuotes = db.refundQuotes

theorem confirmBooking_ok {params : ConfirmBooking} {u : Unit}
    (h : confirmBooking params db = .ok (u, db')) : HoldBooked params db db' := by
  obtain ⟨moved, db₁, hu, hrest⟩ := Txn.bind_ok.mp h
  obtain ⟨hlocks, hmoved⟩ := updateLocks_ok hu
  split at hrest
  · obtain ⟨_, _, ht, _⟩ := Txn.bind_ok.mp hrest
    exact absurd ht Txn.refuse_ok
  · rename_i hcount
    rw [not_not] at hcount
    obtain ⟨_, db₂, hi, hseats⟩ := Txn.bind_ok.mp hrest
    obtain ⟨hl, hb, hs, hq⟩ := insertBooking_ok hi
    have hmoved' := hmoved.symm.trans hcount
    split at hseats
    · obtain ⟨hl', hb', hs', hq'⟩ := insertSeats_ok hseats
      refine ⟨hmoved', ?_, ?_, ?_, ?_⟩
      · rw [hl', hl]
        exact hlocks.locks
      · rw [hb', hb, hlocks.bookings]
      · rw [hs', hs, hlocks.seats]
      · rw [hq', hq, hlocks.quotes]
    · rename_i hnone
      obtain ⟨-, rfl⟩ := Txn.pure_ok.mp hseats
      have hnil : params.seatRows = [] := by
        rw [ConfirmBooking.seatRows, List.eq_nil_of_length_eq_zero (by omega : params.seats.length = 0),
          List.map_nil]
      refine ⟨hmoved', ?_, ?_, ?_, ?_⟩
      · rw [hl]
        exact hlocks.locks
      · rw [hb, hlocks.bookings]
      · rw [hs, hlocks.seats, hnil, List.append_nil]
      · rw [hq, hlocks.quotes]

/-! ## Cancellations -/

/-- The seat changes of a cancellation of some of the seats it names. -/
def cancelSeats (params : ApplyCancellation) (seatIds : List String) :
    BookingSeatRow → BookingSeatRow :=
  setIf (fun seat => seat.bookingId = params.bookingId && seat.seatId ∈ seatIds &&
      seat.status = .confirmed)
    fun seat => { seat with
      status := .cancelled
      cancelledAt := some params.nowMs
      refundPaise := some ((mapGet params.refundBySeat seat.seatId).getD 0)
      slabCode := some params.slabCode }

/-- The lock changes of a cancellation of some of the seats it names. -/
def releaseSeats (params : ApplyCancellation) (seatIds : List String) : LockRow → LockRow :=
  setIf (fun row => row.bookingId = some params.bookingId && row.seatId ∈ seatIds &&
      row.state = .booked)
    fun row => { row with state := .released }

/-- The booking change of a cancellation, from the seats as they then are. -/
def settleBooking (params : ApplyCancellation) (db' : ReservedDb) : BookingRow → BookingRow :=
  setIf (fun row => row.id = params.bookingId) fun row => { row with
    status := if db'.confirmedCount params.bookingId = 0 then .cancelled else .confirmed
    cancelledAt := some params.nowMs
    refundPaise := some (db'.refundTotal params.bookingId)
    slabCode := some params.slabCode }

/-- What a cancellation does. -/
structure SeatsCancelled (params : ApplyCancellation) (db db' : ReservedDb) : Prop where
  /-- the locks of its seats are released -/
  locks : db'.seatLocks.rows = db.seatLocks.rows.map (releaseSeats params params.seatIds)
  /-- the confirmed ones of its seats are cancelled -/
  seats : db'.bookingSeats.rows = db.bookingSeats.rows.map (cancelSeats params params.seatIds)
  /-- the booking adds them up -/
  bookings : db'.bookings.rows = db.bookings.rows.map (settleBooking params db')
  /-- the quotes are as they were -/
  quotes : db'.refundQuotes = db.refundQuotes

/-- Cancelling one seat and then others is cancelling them all. -/
theorem cancelSeats_comp (params : ApplyCancellation) (seatId : String) (seatIds : List String) :
    cancelSeats params seatIds ∘ cancelSeats params [seatId] =
      cancelSeats params (seatId :: seatIds) := by
  funext seat
  by_cases hb : seat.bookingId = params.bookingId
  · by_cases hs : seat.status = .confirmed
    · by_cases hid : seat.seatId = seatId <;> by_cases hids : seat.seatId ∈ seatIds <;>
        simp [cancelSeats, setIf, hb, hs, hid, hids]
    · simp [cancelSeats, setIf, hs]
  · simp [cancelSeats, setIf, hb]

theorem releaseSeats_comp (params : ApplyCancellation) (seatId : String)
    (seatIds : List String) :
    releaseSeats params seatIds ∘ releaseSeats params [seatId] =
      releaseSeats params (seatId :: seatIds) := by
  funext row
  by_cases hb : row.bookingId = some params.bookingId
  · by_cases hs : row.state = .booked
    · by_cases hid : row.seatId = seatId <;> by_cases hids : row.seatId ∈ seatIds <;>
        simp [releaseSeats, setIf, hb, hs, hid, hids]
    · simp [releaseSeats, setIf, hs]
  · simp [releaseSeats, setIf, hb]

theorem cancelSeat_ok {params : ApplyCancellation} {seatId : String} {u : Unit}
    (h : params.cancelSeat seatId db = .ok (u, db')) :
    db'.seatLocks.rows = db.seatLocks.rows.map (releaseSeats params [seatId]) ∧
      db'.bookingSeats.rows = db.bookingSeats.rows.map (cancelSeats params [seatId]) ∧
        db'.bookings = db.bookings ∧ db'.refundQuotes = db.refundQuotes := by
  obtain ⟨_, db₁, hs, hrest⟩ := Txn.bind_ok.mp h
  obtain ⟨_, db₂, hl, hp⟩ := Txn.bind_ok.mp hrest
  obtain ⟨-, rfl⟩ := Txn.pure_ok.mp hp
  have hseats := updateSeats_ok hs
  have hlocks := (updateLocks_ok hl).1
  refine ⟨?_, ?_, hlocks.bookings.trans hseats.bookings, hlocks.quotes.trans hseats.quotes⟩
  · rw [hlocks.locks, hseats.locks]
    refine List.map_congr_left fun row _ => ?_
    simp [releaseSeats]
  · rw [hlocks.seats, hseats.seats]
    refine List.map_congr_left fun seat _ => ?_
    -- the statement reads the refund at its own seat id, the row at its own
    by_cases hid : seat.seatId = seatId <;> simp [cancelSeats, setIf, hid]

theorem forM_cancelSeat_ok {params : ApplyCancellation} {seatIds : List String} {u : Unit} :
    ∀ {db : ReservedDb}, seatIds.forM params.cancelSeat db = .ok (u, db') →
      db'.seatLocks.rows = db.seatLocks.rows.map (releaseSeats params seatIds) ∧
        db'.bookingSeats.rows = db.bookingSeats.rows.map (cancelSeats params seatIds) ∧
          db'.bookings = db.bookings ∧ db'.refundQuotes = db.refundQuotes := by
  induction seatIds with
  | nil =>
    intro db h
    obtain ⟨-, rfl⟩ := Txn.pure_ok.mp h
    have hlocks : releaseSeats params [] = id := by
      funext row
      simp [releaseSeats, setIf]
    have hseats : cancelSeats params [] = id := by
      funext seat
      simp [cancelSeats, setIf]
    rw [hlocks, hseats, List.map_id, List.map_id]
    exact ⟨rfl, rfl, rfl, rfl⟩
  | cons seatId seatIds ih =>
    intro db h
    obtain ⟨_, db₁, hfirst, hrest⟩ := Txn.bind_ok.mp h
    obtain ⟨hl, hs, hb, hq⟩ := cancelSeat_ok hfirst
    obtain ⟨hl', hs', hb', hq'⟩ := ih hrest
    refine ⟨?_, ?_, hb'.trans hb, hq'.trans hq⟩
    · rw [hl', hl, List.map_map, releaseSeats_comp]
    · rw [hs', hs, List.map_map, cancelSeats_comp]

theorem applyCancellation_ok {params : ApplyCancellation} {u : Unit}
    (h : applyCancellation params db = .ok (u, db')) : SeatsCancelled params db db' := by
  obtain ⟨_, db₁, hseats, hread⟩ := Txn.bind_ok.mp h
  obtain ⟨db₀, db₂, hg, hread'⟩ := Txn.bind_ok.mp hread
  obtain ⟨rfl, rfl⟩ := Txn.get_ok.mp hg
  obtain ⟨db₀, db₂, hg', hrest⟩ := Txn.bind_ok.mp hread'
  obtain ⟨rfl, rfl⟩ := Txn.get_ok.mp hg'
  obtain ⟨_, db₃, hu, hp⟩ := Txn.bind_ok.mp hrest
  obtain ⟨-, rfl⟩ := Txn.pure_ok.mp hp
  obtain ⟨hl, hs, hb, hq⟩ := forM_cancelSeat_ok hseats
  have hbookings := updateBookings_ok hu
  refine ⟨?_, ?_, ?_, hbookings.quotes.trans hq⟩
  · rw [hbookings.locks, hl]
  · rw [hbookings.seats, hs]
  · rw [hbookings.bookings, hb]
    refine List.map_congr_left fun row _ => ?_
    simp [settleBooking, setIf, ReservedDb.confirmedCount, ReservedDb.refundTotal,
      hbookings.seats]

/-- Nothing stops a cancellation. -/
theorem cancelSeat_goes (params : ApplyCancellation) (seatId : String) (db : ReservedDb) :
    ∃ db', params.cancelSeat seatId db = .ok ((), db') := by
  obtain ⟨n, db₁, hseats⟩ := update_goes ReservedDb.bookingSeats
    (fun db t => { db with bookingSeats := t })
    (p := fun seat => seat.bookingId = params.bookingId && seat.seatId = seatId &&
      seat.status = .confirmed)
    (f := fun seat => { seat with
      status := .cancelled
      cancelledAt := some params.nowMs
      refundPaise := some ((mapGet params.refundBySeat seatId).getD 0)
      slabCode := some params.slabCode }) db (by simp [BookingSeatRow.primaryKey])
  obtain ⟨m, db₂, hlocks⟩ := update_goes ReservedDb.seatLocks
    (fun db t => { db with seatLocks := t })
    (p := fun row => row.bookingId = some params.bookingId && row.seatId = seatId &&
      row.state = .booked)
    (f := fun row => { row with state := .released }) db₁
    (by simp [LockRow.primaryKey, LockRow.liveKey, LockRow.isLive])
  exact ⟨db₂, Txn.bind_ok.mpr ⟨n, db₁, hseats, Txn.bind_ok.mpr ⟨m, db₂, hlocks, rfl⟩⟩⟩

theorem applyCancellation_goes (params : ApplyCancellation) (db : ReservedDb) :
    ∃ db', applyCancellation params db = .ok ((), db') := by
  have hseats : ∀ (seatIds : List String) (db : ReservedDb),
      ∃ db', seatIds.forM params.cancelSeat db = .ok ((), db') := by
    intro seatIds
    induction seatIds with
    | nil => exact fun db => ⟨db, rfl⟩
    | cons seatId seatIds ih =>
      intro db
      obtain ⟨db₁, h₁⟩ := cancelSeat_goes params seatId db
      obtain ⟨db₂, h₂⟩ := ih db₁
      exact ⟨db₂, Txn.bind_ok.mpr ⟨(), db₁, h₁, h₂⟩⟩
  obtain ⟨db₁, h₁⟩ := hseats params.seatIds db
  obtain ⟨n, db₂, h₂⟩ := update_goes ReservedDb.bookings
    (fun db t => { db with bookings := t })
    (p := fun row => row.id = params.bookingId)
    (f := fun row => { row with
      status := if db₁.confirmedCount params.bookingId = 0 then .cancelled else .confirmed
      cancelledAt := some params.nowMs
      refundPaise := some (db₁.refundTotal params.bookingId)
      slabCode := some params.slabCode }) db₁
    (by simp [BookingRow.primaryKey, BookingRow.referenceKey, BookingRow.transactionKey])
  exact ⟨db₂, Txn.bind_ok.mpr ⟨(), db₁, h₁, Txn.bind_ok.mpr ⟨db₁, db₁, rfl,
    Txn.bind_ok.mpr ⟨db₁, db₁, rfl, Txn.bind_ok.mpr ⟨n, db₂, h₂, rfl⟩⟩⟩⟩⟩

/-! ## Quotes and stored orders -/

/-- A quote before it had an id. -/
def RefundQuoteRecord.draft (quote : RefundQuoteRecord) : QuoteDraft :=
  ⟨quote.bookingId, quote.seatIds, quote.slabCode, quote.slabPercent, quote.refundPaise,
    quote.quotedAt, quote.expiresAt⟩

theorem saveRefundQuote_ok {draft : QuoteDraft} {raw : String} {quote : RefundQuoteRecord}
    (h : saveRefundQuote draft raw db = .ok (quote, db')) :
    quote.draft = draft ∧ db'.seatLocks = db.seatLocks ∧ db'.bookings = db.bookings ∧
      db'.bookingSeats = db.bookingSeats ∧
        db'.refundQuotes.rows = db.refundQuotes.rows ++ [quote] := by
  obtain ⟨id, db₁, hid, hrest⟩ := Txn.bind_ok.mp h
  obtain ⟨-, rfl⟩ := Txn.lift_ok.mp hid
  obtain ⟨_, db₂, hi, hp⟩ := Txn.bind_ok.mp hrest
  obtain ⟨rfl, rfl⟩ := Txn.pure_ok.mp hp
  exact ⟨rfl, insertQuote_ok hi⟩

/-- The booking change of replacing one stored order. -/
def storeOrder (bookingId : String) (order : Order) : BookingRow → BookingRow :=
  setIf (fun row => row.id = bookingId) fun row => { row with order := order }

theorem updateStoredOrder_ok {bookingId : String} {order : Order} {u : Unit}
    (h : updateStoredOrder bookingId order db = .ok (u, db')) :
    BookingsOnly db db' (storeOrder bookingId order) := by
  obtain ⟨_, db₁, hu, hp⟩ := Txn.bind_ok.mp h
  obtain ⟨-, rfl⟩ := Txn.pure_ok.mp hp
  exact updateBookings_ok hu

/-- Nothing stops an order from being stored. -/
theorem updateStoredOrder_goes (bookingId : String) (order : Order) (db : ReservedDb) :
    ∃ db', updateStoredOrder bookingId order db = .ok ((), db') := by
  obtain ⟨n, db₁, h₁⟩ := update_goes ReservedDb.bookings
    (fun db t => { db with bookings := t }) (p := fun row => row.id = bookingId)
    (f := fun row => { row with order := order }) db
    (by simp [BookingRow.primaryKey, BookingRow.referenceKey, BookingRow.transactionKey])
  exact ⟨db₁, Txn.bind_ok.mpr ⟨n, db₁, h₁, rfl⟩⟩

/-- The seat change of clearing the manifests of some bookings. -/
def clearSeats (bookingIds : List String) : BookingSeatRow → BookingSeatRow :=
  setIf (fun seat => seat.bookingId ∈ bookingIds)
    fun seat => { seat with name := none, age := none, gender := none }

/-- The booking change of clearing manifests: `orders` says what each booking's order becomes. -/
def storeOrders (orders : String → Option Order) (row : BookingRow) : BookingRow :=
  { row with order := (orders row.id).getD row.order }

/-- What clearing the manifests of bookings read earlier does. -/
structure ManifestsCleared (stale : List (String × Order)) (db db' : ReservedDb)
    (orders : String → Option Order) : Prop where
  /-- a listed booking's order becomes the redaction of the order listed with it -/
  listed : ∀ id ∈ stale.map Prod.fst, (orders id).isSome
  /-- and no other order is written -/
  redacted : ∀ id order', orders id = some order' →
    ∃ order, (id, order) ∈ stale ∧ order.withoutManifestNames = .ok order'
  /-- the passengers of listed bookings are gone -/
  seats : db'.bookingSeats.rows = db.bookingSeats.rows.map (clearSeats (stale.map Prod.fst))
  /-- the orders of listed bookings are replaced -/
  bookings : db'.bookings.rows = db.bookings.rows.map (storeOrders orders)
  /-- locks are as they were -/
  locks : db'.seatLocks = db.seatLocks
  /-- so are the quotes -/
  quotes : db'.refundQuotes = db.refundQuotes

theorem clearManifest_ok {stale : String × Order} {u : Unit}
    (h : clearManifest stale db = .ok (u, db')) :
    ∃ order', stale.2.withoutManifestNames = .ok order' ∧
      db'.bookingSeats.rows = db.bookingSeats.rows.map (clearSeats [stale.1]) ∧
        db'.bookings.rows = db.bookings.rows.map (storeOrder stale.1 order') ∧
          db'.seatLocks = db.seatLocks ∧ db'.refundQuotes = db.refundQuotes := by
  obtain ⟨_, db₁, hs, hrest⟩ := Txn.bind_ok.mp h
  obtain ⟨order', db₂, hlift, ho⟩ := Txn.bind_ok.mp hrest
  obtain ⟨hredact, rfl⟩ := Txn.lift_ok.mp hlift
  have hseats := updateSeats_ok hs
  have horder := updateStoredOrder_ok ho
  refine ⟨order', hredact, ?_, ?_, horder.locks.trans hseats.locks,
    horder.quotes.trans hseats.quotes⟩
  · rw [horder.seats, hseats.seats]
    refine List.map_congr_left fun seat _ => ?_
    simp [clearSeats]
  · rw [horder.bookings, hseats.bookings]

theorem clearManifests_ok {stale : List (String × Order)} {u : Unit} :
    ∀ {db : ReservedDb}, stale.forM clearManifest db = .ok (u, db') →
      ∃ orders, ManifestsCleared stale db db' orders := by
  induction stale with
  | nil =>
    intro db h
    obtain ⟨-, rfl⟩ := Txn.pure_ok.mp h
    have hseats : clearSeats [] = id := by
      funext seat
      simp [clearSeats, setIf]
    refine ⟨fun _ => none, ⟨by simp, by simp, ?_, ?_, rfl, rfl⟩⟩
    · rw [List.map_nil, hseats, List.map_id]
    · exact (List.map_id _).symm
  | cons first stale ih =>
    intro db h
    obtain ⟨_, db₁, hfirst, hrest⟩ := Txn.bind_ok.mp h
    obtain ⟨order', hredact, hs, hb, hl, hq⟩ := clearManifest_ok hfirst
    obtain ⟨orders, hcleared⟩ := ih hrest
    -- a later entry for the same booking overwrites this one
    refine ⟨fun id => (orders id).or (if id = first.1 then some order' else none),
      ⟨?_, ?_, ?_, ?_, hcleared.locks.trans hl, hcleared.quotes.trans hq⟩⟩
    · intro id hid
      rcases List.mem_cons.mp hid with rfl | hid
      · simp
      · rw [Option.isSome_or, hcleared.listed id hid, Bool.true_or]
    · intro id o hid
      rcases ho : orders id with _ | o'
      · rw [ho, Option.none_or] at hid
        split at hid
        · rename_i hfst
          obtain rfl := Option.some.inj hid
          exact ⟨first.2, List.mem_cons.mpr (Or.inl (Prod.ext hfst rfl)), hredact⟩
        · cases hid
      · rw [ho, Option.some_or] at hid
        obtain rfl := Option.some.inj hid
        obtain ⟨order, hmem, hred⟩ := hcleared.redacted id o' ho
        exact ⟨order, List.mem_cons_of_mem _ hmem, hred⟩
    · rw [hcleared.seats, hs, List.map_map]
      refine List.map_congr_left fun seat _ => ?_
      by_cases hf : seat.bookingId = first.1 <;>
        by_cases hr : seat.bookingId ∈ stale.map Prod.fst <;>
          simp only [Function.comp_apply, clearSeats, setIf, hf, List.map_cons, List.mem_cons,
            decide_true, decide_false, true_or, false_or, if_true, hr, if_false,
            Bool.false_eq_true]
      all_goals simp_all
    · rw [hcleared.bookings, hb, List.map_map]
      refine List.map_congr_left fun row _ => ?_
      by_cases hf : row.id = first.1
      · rcases ho : orders first.1 with _ | o' <;>
          simp [storeOrders, storeOrder, setIf, hf, ho]
      · rcases ho : orders row.id with _ | o' <;>
          simp [storeOrders, storeOrder, setIf, hf, ho]

/-- Only an order that cannot be redacted stops a manifest from being cleared. -/
theorem clearManifest_goes {stale : String × Order} {order' : Order}
    (h : stale.2.withoutManifestNames = .ok order') (db : ReservedDb) :
    ∃ db', clearManifest stale db = .ok ((), db') := by
  obtain ⟨n, db₁, hseats⟩ := update_goes ReservedDb.bookingSeats
    (fun db t => { db with bookingSeats := t })
    (p := fun seat => seat.bookingId = stale.1)
    (f := fun seat => { seat with name := none, age := none, gender := none }) db
    (by simp [BookingSeatRow.primaryKey])
  obtain ⟨db₂, horder⟩ := updateStoredOrder_goes stale.1 order' db₁
  exact ⟨db₂, Txn.bind_ok.mpr ⟨n, db₁, hseats,
    Txn.bind_ok.mpr ⟨order', db₁, Txn.lift_ok.mpr ⟨h, rfl⟩, horder⟩⟩⟩

theorem clearManifests_goes {stale : List (String × Order)} :
    (∀ entry ∈ stale, ∃ order', entry.2.withoutManifestNames = .ok order') →
      ∀ db : ReservedDb, ∃ db', stale.forM clearManifest db = .ok ((), db') := by
  induction stale with
  | nil => exact fun _ db => ⟨db, rfl⟩
  | cons first stale ih =>
    intro h db
    obtain ⟨order', hfirst⟩ := h first List.mem_cons_self
    obtain ⟨db₁, h₁⟩ := clearManifest_goes hfirst db
    obtain ⟨db₂, h₂⟩ := ih (fun entry hentry => h entry (List.mem_cons_of_mem _ hentry)) db₁
    exact ⟨db₂, Txn.bind_ok.mpr ⟨(), db₁, h₁, h₂⟩⟩

end TransitBpp
