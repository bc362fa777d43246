import TransitBpp.Handlers

/-!
# What a handler knows

The journal half of every proof about interleavings: what a request has read, and in which order,
by the time it performs an operation. No other request can change a journal, so each fact here is
about one handler alone, whatever the rest of the world does between its operations.

`Knows` states the facts, operation by operation; `ConfirmRun`, `CancelRun` and `RewriteRun` are
what a confirm has read when it commits, a cancellation when it applies, and a cancellation when
it writes the stored order back. `handle_knows` proves them of every handler.
-/

namespace TransitBpp

open Interleave Js

/-- The journal of a request: what it did and what it was answered, newest first. -/
abbrev Journal : Type := List (Line Op Resp)

variable (d : Deployment) (req : Request)

/-! ## Facts -/

/-- The request read this instant from the clock. -/
def ReadClock (jr : Journal) (nowMs : ℤ) : Prop := (⟨.now, nowMs⟩ : Line Op Resp) ∈ jr

/-- No claims of a departure have been read yet. -/
def Unchecked (jr : Journal) : Prop := ∀ l ∈ jr, ∀ serviceId travelDate,
  l.op ≠ .liveClaims serviceId travelDate

/-- No cancellation has been applied yet. -/
def Unapplied (jr : Journal) : Prop := ∀ l ∈ jr, ∀ params,
  l.op ≠ .transaction (.applyCancellation params)

/-- The booking row a line of a journal read, if it read one. -/
def rowRead : Line Op Resp → Option BookingRow
  | ⟨.bookingByTransaction _ _, .ok found⟩ => found
  | ⟨.bookingByReference _ _ _ _, .ok found⟩ => found
  | ⟨.bookingById _, .ok found⟩ => found
  | _ => none

/-- The last thing read was the row of a booking. -/
def JustRead (jr : Journal) (bookingId : String) : Prop :=
  ∃ l earlier row, jr = l :: earlier ∧ rowRead l = some row ∧ row.id = bookingId

/-- What `liveHoldAndManifest` has read and checked when it returns, and nothing was read since. -/
structure HoldChecked (resolved : Resolved) (identity : ReservedIdentity) (input : OrderInput)
    (hold : HoldRecord) (records : List ManifestRecord) (jr : Journal) : Type where
  /-- the clock reading of the check -/
  checkedAt : ℤ
  /-- what the sweep answered -/
  swept : Except Failure ℕ
  /-- the claims of the departure -/
  claims : List LiveSeatClaim
  /-- what was read before -/
  earlier : Journal
  /-- the seats as the claims show them -/
  view : Snapshot
  /-- the claims were read last, after the hold, after the sweep -/
  lines : jr = ⟨.liveClaims resolved.service.serviceId resolved.travelDate, .ok claims⟩ ::
    ⟨.findLatestHold d.operatorKey identity, .ok (some hold)⟩ ::
    ⟨.transaction (.sweepExpiredHolds resolved.service.serviceId resolved.travelDate checkedAt),
      swept⟩ :: ⟨.now, checkedAt⟩ :: earlier
  /-- the hold was live, and of this departure -/
  live : assertHoldLive resolved (some hold) checkedAt = .ok hold
  /-- the manifest names its seats -/
  manifest : manifestFor hold input.tags = .ok records
  /-- the snapshot is that of the claims -/
  view_eq : snapshotFromClaims d resolved.service resolved.seatMap resolved.travelDate claims
    (some identity) = .ok view
  /-- the gender locks were respected -/
  gender : assertGenderLocks ⟨resolved.seatMap, view.seeded, view.claims, some identity⟩
    (assignments records) = .ok ()

/-- What `snapshot` has read when it returns: it swept the departure under a clock reading of its
own, and then read the claims. -/
structure SnapshotRead (resolved : Resolved) (viewer : ReservedIdentity) (view : Snapshot)
    (earlier jr : Journal) : Type where
  /-- the clock reading of the sweep -/
  nowMs : ℤ
  /-- how many holds it expired -/
  swept : ℕ
  /-- the claims of the departure -/
  claims : List LiveSeatClaim
  /-- the claims were read last, after the sweep -/
  lines : jr = ⟨.liveClaims resolved.service.serviceId resolved.travelDate, .ok claims⟩ ::
    ⟨.transaction (.sweepExpiredHolds resolved.service.serviceId resolved.travelDate nowMs),
      .ok swept⟩ :: ⟨.now, nowMs⟩ :: earlier
  /-- the snapshot is that of the claims -/
  view_eq : snapshotFromClaims d resolved.service resolved.seatMap resolved.travelDate claims
    (some viewer) = .ok view

theorem SnapshotRead.suffix {d : Deployment} {resolved : Resolved} {viewer : ReservedIdentity}
    {view : Snapshot} {earlier jr : Journal} (h : SnapshotRead d resolved viewer view earlier jr) :
    earlier <:+ jr :=
  ⟨[_, _, _], h.lines.symm⟩

/-- What a confirm has read and computed when it runs its transaction. -/
structure ConfirmRun (jr : Journal) : Type where
  /-- the buyer -/
  context : ReservedContext
  /-- the order -/
  input : OrderInput
  /-- the request is this confirm -/
  action : req.action = .confirm context input
  /-- the departure -/
  resolved : Resolved
  /-- the hold -/
  hold : HoldRecord
  /-- the passengers -/
  records : List ManifestRecord
  /-- the journal when the hold was checked -/
  checkedJr : Journal
  /-- the check -/
  checked : HoldChecked d resolved (identityOf context) input hold records checkedJr
  /-- its claims were the first read -/
  first : Unchecked checked.earlier
  /-- the boarding pair -/
  pair : BoardingPair
  /-- the fare -/
  cell : FareCell
  /-- the clock reading of the booking -/
  nowMs : ℤ
  /-- what the id generator answered -/
  raw : String
  /-- the order id -/
  orderId : String
  /-- the reference -/
  reference : String
  /-- the seats as the order shows them -/
  snapshot : Snapshot
  /-- they were read last, after the clock, the id and the check -/
  built : SnapshotRead d resolved (identityOf context) snapshot
    (⟨.newId, raw⟩ :: ⟨.now, nowMs⟩ :: checkedJr) jr
  /-- the order -/
  order : Order
  /-- the order renders what is booked -/
  render : renderOrder d (bookedOrder resolved pair cell (identityOf context) records input nowMs
    orderId reference) snapshot = .ok order

/-- The hold was checked before. -/
theorem ConfirmRun.suffix {d : Deployment} {req : Request} {jr : Journal}
    (run : ConfirmRun d req jr) : run.checkedJr <:+ jr :=
  ((List.suffix_cons _ _).trans (List.suffix_cons _ _)).trans run.built.suffix

/-- What the confirm runs its transaction with. -/
def ConfirmRun.params {d : Deployment} {req : Request} {jr : Journal} (run : ConfirmRun d req jr) :
    ConfirmBooking :=
  newBooking d run.resolved run.pair run.cell (identityOf run.context) run.hold run.records
    run.nowMs run.orderId run.reference run.order

/-- The two reads a booking is assembled from: its row, and then its seats. -/
def bookingReads (operator bapId bapUri reference : String) (booking : BookingRecord) : Journal :=
  [⟨.bookingSeats booking.id, .ok booking.seats⟩,
    ⟨.bookingByReference operator bapId bapUri reference, .ok (some booking.toBookingRow)⟩]

/-- What a cancellation has read and computed when it applies itself. -/
structure CancelRun (jr : Journal) : Type where
  /-- the buyer -/
  context : ReservedContext
  /-- the order id -/
  orderId : String
  /-- the request's tags -/
  tags : Option (List BuyerTag)
  /-- the request is this cancellation -/
  action : req.action = .cancel context orderId .confirm tags
  /-- the booking as it was read -/
  booking : BookingRecord
  /-- it was read first -/
  read : bookingReads d.operatorKey context.bapId context.bapUri orderId booking <:+ jr
  /-- the seats meant -/
  target : List BookingSeatRow
  /-- those the request names, or all that are confirmed -/
  target_eq : targetSeats booking (seatIdsFrom tags) = .ok target
  /-- at least one is confirmed -/
  live : confirmedOf target ≠ []
  /-- the clock reading of the refund -/
  nowMs : ℤ
  /-- the clock was read -/
  clock : ReadClock jr nowMs
  /-- nothing was applied before -/
  unapplied : Unapplied jr

theorem CancelRun.row {d : Deployment} {req : Request} {jr : Journal} (run : CancelRun d req jr) :
    (⟨.bookingByReference d.operatorKey run.context.bapId run.context.bapUri run.orderId,
      .ok (some run.booking.toBookingRow)⟩ : Line Op Resp) ∈ jr :=
  run.read.subset (List.mem_cons_of_mem _ (List.mem_cons_self ..))

theorem CancelRun.seats {d : Deployment} {req : Request} {jr : Journal}
    (run : CancelRun d req jr) :
    (⟨.bookingSeats run.booking.id, .ok run.booking.seats⟩ : Line Op Resp) ∈ jr :=
  run.read.subset (List.mem_cons_self ..)

/-- What the cancellation is applied with. -/
def CancelRun.params {d : Deployment} {req : Request} {jr : Journal} (run : CancelRun d req jr) :
    ApplyCancellation :=
  cancellationOf run.booking (confirmedOf run.target) run.nowMs

/-- What a cancellation has read and computed when it saves a refund quote. -/
structure QuoteRun (jr : Journal) : Type where
  /-- the buyer -/
  context : ReservedContext
  /-- the order id -/
  orderId : String
  /-- asking for a quote, or committing after the slab moved -/
  step : CancelStep
  /-- the request's tags -/
  tags : Option (List BuyerTag)
  /-- the request is this cancellation -/
  action : req.action = .cancel context orderId step tags
  /-- the booking as it was read -/
  booking : BookingRecord
  /-- it was read first -/
  read : bookingReads d.operatorKey context.bapId context.bapUri orderId booking <:+ jr
  /-- the seats meant -/
  target : List BookingSeatRow
  /-- those the request names, or all that are confirmed -/
  target_eq : targetSeats booking (seatIdsFrom tags) = .ok target
  /-- the clock reading of the quote -/
  nowMs : ℤ

/-- What it saves. -/
def QuoteRun.draft {d : Deployment} {req : Request} {jr : Journal} (run : QuoteRun d req jr) :
    QuoteDraft :=
  quoteDraft run.booking (confirmedOf run.target) run.nowMs

/-- What a cancellation has read and computed when it writes the stored order back. -/
structure RewriteRun (jr : Journal) : Type where
  /-- what was read before the cancellation was applied -/
  earlier : Journal
  /-- the cancellation -/
  cancel : CancelRun d req earlier
  /-- the row, read after it was applied -/
  row : BookingRow
  /-- the seats, read after the row -/
  seats : List BookingSeatRow
  /-- these are the last three operations -/
  lines : jr = ⟨.bookingSeats row.id, .ok seats⟩ ::
    ⟨.bookingById cancel.params.bookingId, .ok (some row)⟩ ::
    ⟨.transaction (.applyCancellation cancel.params), .ok ()⟩ :: earlier

theorem RewriteRun.suffix {d : Deployment} {req : Request} {jr : Journal}
    (run : RewriteRun d req jr) : run.earlier <:+ jr :=
  ⟨[_, _, _], run.lines.symm⟩

/-- The cancellation was applied. -/
theorem RewriteRun.applied {d : Deployment} {req : Request} {jr : Journal}
    (run : RewriteRun d req jr) :
    (⟨.transaction (.applyCancellation run.cancel.params), .ok ()⟩ : Line Op Resp) ∈ jr := by
  obtain ⟨earlier, cancel, row, seats, rfl⟩ := run
  simp

/-- A cancellation read the row again after it was applied. -/
theorem RewriteRun.reread {d : Deployment} {req : Request} {jr : Journal}
    (run : RewriteRun d req jr) :
    (⟨.bookingById run.cancel.params.bookingId, .ok (some run.row)⟩ : Line Op Resp) ∈ jr := by
  obtain ⟨earlier, cancel, row, seats, rfl⟩ := run
  exact List.mem_cons_of_mem _ (List.mem_cons_self ..)

/-- And then its seats. -/
theorem RewriteRun.seatsRead {d : Deployment} {req : Request} {jr : Journal}
    (run : RewriteRun d req jr) :
    (⟨.bookingSeats run.row.id, .ok run.seats⟩ : Line Op Resp) ∈ jr := by
  obtain ⟨earlier, cancel, row, seats, rfl⟩ := run
  exact List.mem_cons_self ..

/-- What a manifest sweep has read when it clears. -/
structure SweepRun (stale : List (String × Order)) (jr : Journal) : Type where
  /-- the clock reading of the sweep -/
  nowMs : ℤ
  /-- what was read before the list -/
  earlier : Journal
  /-- the list was read last -/
  lines : jr = ⟨.staleManifests (nowMs - d.reservation.manifestRetentionDays * dayMilliseconds),
    .ok stale⟩ :: earlier
  /-- the clock was read -/
  clock : ReadClock jr nowMs

/-- A sweep read the list it clears. -/
theorem SweepRun.listed {d : Deployment} {stale : List (String × Order)} {jr : Journal}
    (run : SweepRun d stale jr) : (⟨.staleManifests (run.nowMs -
      d.reservation.manifestRetentionDays * dayMilliseconds), .ok stale⟩ : Line Op Resp) ∈ jr := by
  obtain ⟨nowMs, earlier, rfl, -⟩ := run
  exact List.mem_cons_self ..

/-- What a request knows when it performs an operation. -/
def Knows (jr : Journal) : Op → Prop
  | .transaction (.sweepExpiredHolds _ _ nowMs) => ReadClock jr nowMs
  | .transaction (.sweepExpiredHoldsForServices _ _ nowMs) => ReadClock jr nowMs
  | .transaction (.acquireHold params) => ReadClock jr params.nowMs ∧
    params.operator = d.operatorKey ∧ params.ttlSeconds = d.reservation.holdTtlSeconds ∧
      params.skipAvailabilityCheckForTest = false ∧ params.seatIds ≠ []
  | .transaction (.confirmBooking params) => ∃ run : ConfirmRun d req jr, params = run.params
  | .transaction (.applyCancellation params) => ∃ run : CancelRun d req jr, params = run.params
  | .transaction (.saveRefundQuote draft) => ∃ run : QuoteRun d req jr, draft = run.draft
  | .transaction (.updateStoredOrder bookingId order) => ∃ run : RewriteRun d req jr,
    bookingId = run.row.id ∧ order = cancelledOrder { run.row with seats := run.seats }
  | .transaction (.clearManifests stale) => Nonempty (SweepRun d stale jr)
  | .bookingSeats bookingId => JustRead jr bookingId
  | .staleManifests cutoff => ∃ nowMs, ReadClock jr nowMs ∧
    cutoff = nowMs - d.reservation.manifestRetentionDays * dayMilliseconds
  | _ => True

/-! ## Rules for one operation -/

section Rules

variable {P : Journal → Op → Prop} {α : Type} {ok : α → Journal → Prop}
variable {err : Failure → Journal → Prop} {jr : Journal}

theorem journal_perform {op : Op} {ok : Resp op → Journal → Prop} :
    Handler.Journal P ok err (perform op) jr ↔ P jr op ∧ ∀ r, ok r (⟨op, r⟩ :: jr) := Iff.rfl

theorem journal_attempt {p : Prog Op Resp (Except Failure α)} :
    Handler.Journal P ok err (attempt p) jr ↔ Prog.Journal P (Ends ok err) p jr := Iff.rfl

theorem journal_op {op : Op} {Q : Resp op → Journal → Prop} :
    Prog.Journal P Q (Prog.perform op) jr ↔ P jr op ∧ ∀ r, Q r (⟨op, r⟩ :: jr) := Iff.rfl

theorem journal_transact {t : Transaction} {ok : t.Answer → Journal → Prop} :
    Handler.Journal P ok err (transact t) jr ↔ P jr (.transaction t) ∧
      (∀ a, ok a (⟨.transaction t, .ok a⟩ :: jr)) ∧
        ∀ e, err e (⟨.transaction t, .error e⟩ :: jr) := by
  refine and_congr_right fun _ => ⟨fun h => ⟨fun a => h (.ok a), fun e => h (.error e)⟩, ?_⟩
  rintro ⟨hok, herr⟩ (e | a)
  · exact herr e
  · exact hok a

theorem journal_refuse {code : ReservedErrorCode} {message : String} {attachment : JsonObject} :
    Handler.Journal P ok err (refuse code message attachment : Act α) jr ↔
      err (.lifecycle ⟨code, message, attachment⟩) jr := Iff.rfl

end Rules

/-! ## Helpers of several handlers -/

variable {d : Deployment} {req : Request} {jr : Journal}

theorem ReadClock.mono {jr' : Journal} {nowMs : ℤ} (hs : jr <:+ jr') (h : ReadClock jr nowMs) :
    ReadClock jr' nowMs :=
  hs.subset h

theorem Unchecked.cons (h : Unchecked jr) {op : Op} {r : Resp op}
    (hop : ∀ serviceId travelDate, op ≠ .liveClaims serviceId travelDate) :
    Unchecked (⟨op, r⟩ :: jr) := by
  intro l hl
  rcases List.mem_cons.mp hl with rfl | hl
  · exact hop
  · exact h l hl

/-- A helper that reads the claims of no departure. -/
def Blind (P : Journal → Op → Prop) {α : Type} (x : Act α) : Prop :=
  ∀ jr, Handler.Journal P (fun _ jr' => Unchecked jr → Unchecked jr') (fun _ _ => True) x jr

theorem seatMapFor_knows (service : ReservedService) :
    Blind (Knows d req) (seatMapFor service) := by
  intro jr
  rw [seatMapFor, Handler.journal_bind, journal_attempt]
  refine journal_op.mpr ⟨trivial, ?_⟩
  rintro (e | _ | map)
  · trivial
  · trivial
  · exact fun h => h.cons (by simp)

theorem fareTableFor_knows (service : ReservedService) :
    Blind (Knows d req) (fareTableFor service) := by
  intro jr
  rw [fareTableFor, Handler.journal_bind, journal_attempt]
  refine journal_op.mpr ⟨trivial, ?_⟩
  rintro (e | _ | table)
  · trivial
  · trivial
  · exact fun h => h.cons (by simp)

theorem resolveSelection_knows (input : OrderInput) :
    Blind (Knows d req) (resolveSelection d input) := by
  intro jr
  rw [resolveSelection, Handler.journal_bind, Handler.journal_lift]
  refine ⟨fun item _ => ?_, fun _ _ => trivial⟩
  rw [Handler.journal_bind, journal_attempt]
  refine journal_op.mpr ⟨trivial, ?_⟩
  rintro (e | found)
  · trivial
  · rw [ends_ok, Handler.journal_bind, Handler.journal_lift]
    refine ⟨fun service _ => ?_, fun _ _ => trivial⟩
    rw [Handler.journal_bind, Handler.journal_lift]
    refine ⟨fun departureAt _ => ?_, fun _ _ => trivial⟩
    rw [Handler.journal_bind, journal_perform]
    refine ⟨trivial, fun nowMs => ?_⟩
    rw [Handler.journal_bind, Handler.journal_lift]
    refine ⟨fun _ _ => ?_, fun _ _ => trivial⟩
    rw [Handler.journal_bind]
    refine (seatMapFor_knows service _).weaken (fun map jr₁ _ hmap => ?_) fun _ _ _ => trivial
    rw [Handler.journal_bind]
    refine (fareTableFor_knows service _).weaken (fun table jr₂ _ htable => ?_)
      fun _ _ _ => trivial
    exact fun h => htable (hmap ((h.cons (by simp)).cons (by simp)))

theorem snapshot_knows (resolved : Resolved) (viewer : ReservedIdentity) :
    Handler.Journal (Knows d req)
      (fun view jr' => Nonempty (SnapshotRead d resolved viewer view jr jr')) (fun _ _ => True)
      (snapshot d resolved.service resolved.seatMap resolved.travelDate viewer) jr := by
  rw [snapshot, Handler.journal_bind, journal_perform]
  refine ⟨trivial, fun nowMs => ?_⟩
  rw [Handler.journal_bind, journal_transact]
  refine ⟨List.mem_cons_self .., fun swept => ?_, fun _ => trivial⟩
  rw [Handler.journal_bind, journal_attempt]
  refine journal_op.mpr ⟨trivial, ?_⟩
  rintro (e | claims)
  · trivial
  · rw [ends_ok, Handler.journal_lift]
    exact ⟨fun view hview => ⟨⟨nowMs, swept, claims, rfl, hview⟩⟩, fun _ _ => trivial⟩

/-- An order is rendered from a snapshot read just before. -/
theorem buildOrder_knows (input : BuildOrder) :
    Handler.Journal (Knows d req) (fun order jr' => ∃ snapshot,
      Nonempty (SnapshotRead d input.resolved input.identity snapshot jr jr') ∧
        renderOrder d input snapshot = .ok order) (fun _ _ => True) (buildOrder d input) jr := by
  rw [buildOrder, Handler.journal_bind]
  refine (snapshot_knows _ _).weaken (fun snapshot jr₁ _ hread => ?_) fun _ _ _ => trivial
  rw [Handler.journal_lift]
  exact ⟨fun order horder => ⟨snapshot, hread, horder⟩, fun _ _ => trivial⟩

theorem sweepManifests_knows {nowMs : ℤ} (hclock : ReadClock jr nowMs) :
    Handler.Journal (Knows d req) (fun _ _ => True) (fun _ _ => True)
      (sweepManifests nowMs d.reservation.manifestRetentionDays) jr := by
  rw [sweepManifests, Handler.journal_bind, journal_perform]
  refine ⟨trivial, ?_⟩
  rintro (_ | _)
  · trivial
  · change Handler.Journal _ _ _ (attempt _ >>= _) _
    rw [Handler.journal_bind, journal_attempt]
    refine journal_op.mpr ⟨⟨nowMs, hclock.mono (List.suffix_cons _ _), rfl⟩, ?_⟩
    rintro (e | stale)
    · trivial
    · rw [ends_ok]
      split
      · trivial
      · rw [Handler.journal_bind]
        refine journal_transact.mpr ⟨⟨⟨nowMs, _, rfl, ?_⟩⟩, fun _ => trivial, fun _ => trivial⟩
        exact (hclock.mono (List.suffix_cons _ _)).mono (List.suffix_cons _ _)

theorem bookingFromRow_knows {row : BookingRow} (hread : JustRead jr row.id) :
    Handler.Journal (Knows d req) (fun booking jr' => booking.toBookingRow = row ∧
      jr' = ⟨.bookingSeats row.id, .ok booking.seats⟩ :: jr) (fun _ _ => True)
      (bookingFromRow row) jr := by
  rw [bookingFromRow, Handler.journal_bind, journal_attempt]
  refine journal_op.mpr ⟨hread, ?_⟩
  rintro (e | seats)
  · trivial
  · exact ⟨rfl, rfl⟩

/-! ## Holds and confirms -/

theorem liveHoldAndManifest_knows (resolved : Resolved) (identity : ReservedIdentity)
    (input : OrderInput) : Handler.Journal (Knows d req)
      (fun held jr' => ∃ checked : HoldChecked d resolved identity input held.1 held.2 jr',
        checked.earlier = jr) (fun _ _ => True) (liveHoldAndManifest d resolved identity input)
      jr := by
  rw [liveHoldAndManifest, Handler.journal_bind, journal_perform]
  refine ⟨trivial, fun checkedAt => ?_⟩
  rw [Handler.journal_bind]
  have hgo : ∀ swept, Handler.Journal (Knows d req)
      (fun held jr' => ∃ checked : HoldChecked d resolved identity input held.1 held.2 jr',
        checked.earlier = jr) (fun _ _ => True) (do
          let found ← attempt (Prog.perform (Op.findLatestHold d.operatorKey identity))
          let hold ← assertHoldLive resolved found checkedAt
          let records ← manifestFor hold input.tags
          let claims ← attempt
            (Prog.perform (Op.liveClaims resolved.service.serviceId resolved.travelDate))
          let snapshot ← snapshotFromClaims d resolved.service resolved.seatMap
            resolved.travelDate claims (some identity)
          assertGenderLocks ⟨resolved.seatMap, snapshot.seeded, snapshot.claims, some identity⟩
            (assignments records)
          return (hold, records))
        (⟨.transaction (.sweepExpiredHolds resolved.service.serviceId resolved.travelDate
          checkedAt), swept⟩ :: ⟨.now, checkedAt⟩ :: jr) := by
    intro swept
    rw [Handler.journal_bind, journal_attempt]
    refine journal_op.mpr ⟨trivial, ?_⟩
    rintro (e | found)
    · trivial
    · rw [ends_ok, Handler.journal_bind, Handler.journal_lift]
      refine ⟨fun hold hlive => ?_, fun _ _ => trivial⟩
      rw [Handler.journal_bind, Handler.journal_lift]
      refine ⟨fun records hmanifest => ?_, fun _ _ => trivial⟩
      rw [Handler.journal_bind, journal_attempt]
      refine journal_op.mpr ⟨trivial, ?_⟩
      rintro (e | claims)
      · trivial
      · rw [ends_ok, Handler.journal_bind, Handler.journal_lift]
        refine ⟨fun view hview => ?_, fun _ _ => trivial⟩
        rw [Handler.journal_bind, Handler.journal_lift]
        refine ⟨fun _ hgender => ?_, fun _ _ => trivial⟩
        -- a hold that passed is the hold that was found
        obtain rfl : found = some hold := by
          cases found with
          | none => cases hlive
          | some found =>
            rw [assertHoldLive] at hlive
            split at hlive
            · cases hi : istIsoInstant found.expiresAt <;> rw [hi] at hlive <;> cases hlive
            · split at hlive
              · cases hlive
              · rw [Except.ok.inj hlive]
        exact ⟨⟨checkedAt, swept, claims, jr, view, rfl, hlive, hmanifest, hview, hgender⟩, rfl⟩
  refine journal_transact.mpr ⟨List.mem_cons_self .., fun swept => hgo (.ok swept), fun _ => trivial⟩

theorem takeHold_knows (resolved : Resolved) (identity : ReservedIdentity)
    {seatIds : List String} (hseats : seatIds ≠ []) {nowMs : ℤ} (hclock : ReadClock jr nowMs) :
    Handler.Journal (Knows d req) (fun _ _ => True) (fun _ _ => True)
      (takeHold d resolved identity seatIds nowMs) jr := by
  rw [takeHold, Handler.journal_tryCatch]
  refine journal_transact.mpr ⟨⟨hclock, rfl, rfl, rfl, hseats⟩, fun _ => trivial, fun e => ?_⟩
  rcases e with e | - | message
  · dsimp only
    split
    · rw [Handler.journal_bind]
      exact (snapshot_knows _ _).weaken (fun _ _ _ _ => trivial) fun _ _ _ => trivial
    · trivial
  · trivial
  · trivial

theorem holdSeats_knows (resolved : Resolved) (identity : ReservedIdentity)
    {seatIds : List String} (hseats : seatIds ≠ []) :
    Handler.Journal (Knows d req) (fun _ _ => True) (fun _ _ => True)
      (holdSeats d resolved identity seatIds) jr := by
  rw [holdSeats, Handler.journal_bind, Handler.journal_lift]
  refine ⟨fun _ _ => ?_, fun _ _ => trivial⟩
  rw [Handler.journal_bind, journal_perform]
  refine ⟨trivial, fun nowMs => ?_⟩
  rw [Handler.journal_bind]
  refine (snapshot_knows _ _).weaken (fun before jr₁ hs _ => ?_) fun _ _ _ => trivial
  rw [Handler.journal_bind, Handler.journal_lift]
  refine ⟨fun _ _ => ?_, fun _ _ => trivial⟩
  exact takeHold_knows resolved identity hseats (ReadClock.mono hs (List.mem_cons_self ..))

theorem findBooking_knows (operator bapId bapUri idOrReference : String) :
    Handler.Journal (Knows d req)
      (fun found jr' => ∀ booking, found = some booking →
        jr' = bookingReads operator bapId bapUri idOrReference booking ++ jr)
      (fun _ _ => True) (findBooking operator bapId bapUri idOrReference) jr := by
  rw [findBooking, bookingFrom, Handler.journal_bind, journal_attempt]
  refine journal_op.mpr ⟨trivial, ?_⟩
  rintro (e | _ | row)
  · trivial
  · exact fun booking h => by cases h
  · rw [ends_ok, Handler.journal_bind]
    refine (bookingFromRow_knows ⟨_, _, row, rfl, rfl, rfl⟩).weaken (fun booking jr₁ _ hrow => ?_) fun _ _ _ => trivial
    rintro booking' h
    obtain rfl := Option.some.inj h
    rw [hrow.2, bookingReads, hrow.1]
    rfl

theorem findBookingByTransaction_knows (operator : String) (identity : ReservedIdentity) :
    Blind (Knows d req) (findBookingByTransaction operator identity) := by
  intro jr
  rw [findBookingByTransaction, bookingFrom, Handler.journal_bind, journal_attempt]
  refine journal_op.mpr ⟨trivial, ?_⟩
  rintro (e | _ | row)
  · trivial
  · exact fun h => h.cons (by simp)
  · rw [ends_ok, Handler.journal_bind]
    refine (bookingFromRow_knows ⟨_, _, row, rfl, rfl, rfl⟩).weaken (fun booking jr₁ _ hrow => ?_) fun _ _ _ => trivial
    rw [Handler.journal_pure, hrow.2]
    exact fun h => (h.cons (by simp)).cons (by simp)

theorem commitBooking_knows {params : ConfirmBooking}
    (hrun : ∃ run : ConfirmRun d req jr, params = run.params) :
    Handler.Journal (Knows d req) (fun _ _ => True) (fun _ _ => True)
      (commitBooking params) jr := by
  rw [commitBooking, Handler.journal_bind, Handler.journal_tryCatch, Handler.journal_bind]
  refine journal_transact.mpr ⟨hrun, fun _ => ?_, fun e => ?_⟩
  · -- the commit went through: the booking is read back
    rw [Handler.journal_pure]
    dsimp only
    rw [Handler.journal_bind]
    refine (findBooking_knows _ _ _ _).weaken (fun found jr₂ _ _ => ?_) fun _ _ _ => trivial
    cases found <;> trivial
  rcases e with e | - | message
  · trivial
  · rw [Handler.journal_bind]
    refine (findBookingByTransaction_knows _ _ _).weaken (fun found jr₂ _ _ => ?_)
      fun _ _ _ => trivial
    cases found <;> trivial
  · trivial

theorem confirmNew_knows (context : ReservedContext) (input : OrderInput)
    (haction : req.action = .confirm context input) (hjr : Unchecked jr) :
    Handler.Journal (Knows d req) (fun _ _ => True) (fun _ _ => True)
      (confirmNew d context input) jr := by
  rw [confirmNew, Handler.journal_bind]
  refine (resolveSelection_knows input _).weaken (fun resolved jr₁ _ hresolved => ?_)
    fun _ _ _ => trivial
  rw [Handler.journal_bind]
  refine (liveHoldAndManifest_knows resolved _ input).weaken ?_ fun _ _ _ => trivial
  rintro ⟨hold, records⟩ jr₂ - ⟨checked, hearlier⟩
  rw [Handler.journal_bind, Handler.journal_lift]
  refine ⟨fun pair _ => ?_, fun _ _ => trivial⟩
  rw [Handler.journal_bind, Handler.journal_lift]
  refine ⟨fun cell _ => ?_, fun _ _ => trivial⟩
  rw [Handler.journal_bind, journal_perform]
  refine ⟨trivial, fun nowMs => ?_⟩
  rw [Handler.journal_bind, journal_perform]
  refine ⟨trivial, fun raw => ?_⟩
  rw [Handler.journal_bind]
  refine (buildOrder_knows _).weaken (fun order jr₃ _ horder => ?_) fun _ _ _ => trivial
  obtain ⟨snapshot, ⟨hbuilt⟩, hrender⟩ := horder
  rw [Handler.journal_bind]
  refine (commitBooking_knows ⟨⟨context, input, haction, resolved, hold, records, jr₂, checked,
    ?_, pair, cell, nowMs, raw, _, _, snapshot, hbuilt, order, hrender⟩, rfl⟩).weaken
      (fun booking jr₄ _ _ => ⟨trivial, fun _ => trivial⟩) fun _ _ _ => trivial
  rw [hearlier]
  exact hresolved hjr

/-! ## Cancellations -/

/-- How a cancellation that commits can be answered. -/
inductive CancelAnswer (d : Deployment) (req : Request) (jr : Journal) : Answer → Prop where
  /-- the seats it names were all cancelled already, so it applied nothing -/
  | settled {context : ReservedContext} {orderId : String} {tags : Option (List BuyerTag)}
      {booking : BookingRecord} {target : List BookingSeatRow} {refund : Quote}
      (action : req.action = .cancel context orderId .confirm tags)
      (read : bookingReads d.operatorKey context.bapId context.bapUri orderId booking <:+ jr)
      (target_eq : targetSeats booking (seatIdsFrom tags) = .ok target)
      (none_live : confirmedOf target = []) (unapplied : Unapplied jr) :
      CancelAnswer d req jr (.order booking.order (some refund) [])
  /-- it applied its cancellation, wrote the order back and answers the refund -/
  | applied {earlier : Journal} (run : RewriteRun d req earlier) {refund : Quote} {tag : Tag}
      (lines : jr = ⟨.startManifestPush run.cancel.booking.serviceId
          run.cancel.booking.travelDate, ()⟩ ::
        ⟨.transaction (.updateStoredOrder run.row.id
          (cancelledOrder { run.row with seats := run.seats })), .ok ()⟩ :: earlier)
      (refund_eq : refundPayload (refundFor run.cancel.booking (confirmedOf run.cancel.target)
        run.cancel.nowMs) = .ok refund) :
      CancelAnswer d req jr
        (.order (cancelledOrder { run.row with seats := run.seats }) (some refund) [tag])

theorem applyAndRead_knows (run : CancelRun d req jr) :
    Handler.Journal (Knows d req) (fun updated jr' =>
      jr' = ⟨.bookingSeats updated.id, .ok updated.seats⟩ ::
        ⟨.bookingById run.params.bookingId, .ok (some updated.toBookingRow)⟩ ::
        ⟨.transaction (.applyCancellation run.params), .ok ()⟩ :: jr)
      (fun _ _ => True) (applyAndRead run.params) jr := by
  rw [applyAndRead, Handler.journal_bind]
  refine journal_transact.mpr ⟨⟨run, rfl⟩, fun _ => ?_, fun _ => trivial⟩
  rw [Handler.journal_bind, journal_attempt]
  refine journal_op.mpr ⟨trivial, ?_⟩
  rintro (e | _ | row)
  · trivial
  · trivial
  · refine (bookingFromRow_knows ⟨_, _, row, rfl, rfl, rfl⟩).weaken (fun updated jr₁ _ hrow => ?_) fun _ _ _ => trivial
    obtain ⟨rfl, rfl⟩ := hrow
    rfl

theorem Unapplied.cons (h : Unapplied jr) {op : Op} {r : Resp op}
    (hop : ∀ params, op ≠ .transaction (.applyCancellation params)) :
    Unapplied (⟨op, r⟩ :: jr) := by
  intro l hl
  rcases List.mem_cons.mp hl with rfl | hl
  · exact hop
  · exact h l hl

theorem slabMoved_knows (booking : BookingRecord) (live : List BookingSeatRow)
    (quote : RefundQuoteRecord) (nowMs : ℤ) (ok : Answer → Journal → Prop)
    (hrun : ∃ run : QuoteRun d req jr, quoteDraft booking live nowMs = run.draft) :
    Handler.Journal (Knows d req) ok (fun _ _ => True) (slabMoved booking live quote nowMs) jr := by
  rw [slabMoved, Handler.journal_bind]
  refine journal_transact.mpr ⟨hrun, fun replacement => ?_, fun _ => trivial⟩
  rw [Handler.journal_bind, Handler.journal_lift]
  refine ⟨fun refund _ => ?_, fun _ _ => trivial⟩
  rw [Handler.journal_bind, Handler.journal_lift]
  exact ⟨fun tag _ => trivial, fun _ _ => trivial⟩

theorem namedQuote_knows (tags : Option (List BuyerTag)) (hjr : Unapplied jr) :
    Handler.Journal (Knows d req) (fun _ jr' => Unapplied jr') (fun _ _ => True)
      (namedQuote tags) jr := by
  rw [namedQuote]
  split
  · exact hjr
  · rw [journal_attempt]
    refine journal_op.mpr ⟨trivial, ?_⟩
    rintro (e | quote)
    · trivial
    · exact hjr.cons (by simp)

theorem confirmCancel_knows {context : ReservedContext} {orderId : String}
    {tags : Option (List BuyerTag)} (haction : req.action = .cancel context orderId .confirm tags)
    {booking : BookingRecord} {target : List BookingSeatRow}
    (hread : bookingReads d.operatorKey context.bapId context.bapUri orderId booking <:+ jr)
    (htarget : targetSeats booking (seatIdsFrom tags) = .ok target) (hjr : Unapplied jr) :
    Handler.Journal (Knows d req) (fun answer jr' => CancelAnswer d req jr' answer)
      (fun _ _ => True) (confirmCancel booking target tags) jr := by
  rw [confirmCancel]
  split
  · rename_i hnone
    rw [Handler.journal_bind, Handler.journal_lift]
    refine ⟨fun refund _ => ?_, fun _ _ => trivial⟩
    exact .settled haction hread htarget (List.eq_nil_of_length_eq_zero hnone) hjr
  · rename_i hlive
    rw [Handler.journal_bind, journal_perform]
    refine ⟨trivial, fun nowMs => ?_⟩
    rw [Handler.journal_bind]
    refine (namedQuote_knows tags (hjr.cons (by simp))).weaken
      (fun named jr₁ hs₁ hjr₁ => ?_) fun _ _ _ => trivial
    rw [Handler.journal_bind, Handler.journal_lift]
    refine ⟨fun quote _ => ?_, fun _ _ => trivial⟩
    have hsub : jr <:+ jr₁ := (List.suffix_cons _ _).trans hs₁
    dsimp only
    split
    · exact slabMoved_knows _ _ _ _ _
        ⟨⟨context, orderId, .confirm, tags, haction, booking, hread.trans hsub, target, htarget,
          nowMs⟩, rfl⟩
    · let run : CancelRun d req jr₁ := ⟨context, orderId, tags, haction, booking,
        hread.trans hsub, target, htarget, fun hnil => hlive (by rw [hnil]; rfl),
        nowMs, ReadClock.mono hs₁ (List.mem_cons_self ..), hjr₁⟩
      rw [Handler.journal_bind]
      refine (applyAndRead_knows run).weaken (fun updated jr₂ _ hlines => ?_) fun _ _ _ => trivial
      let rewrite : RewriteRun d req jr₂ := ⟨jr₁, run, updated.toBookingRow, updated.seats, hlines⟩
      rw [Handler.journal_bind]
      refine journal_transact.mpr ⟨⟨rewrite, rfl, rfl⟩, fun _ => ?_, fun _ => trivial⟩
      rw [Handler.journal_bind]
      refine journal_perform.mpr ⟨trivial, fun _ => ?_⟩
      rw [Handler.journal_bind, Handler.journal_lift]
      refine ⟨fun refund hrefund => ?_, fun _ _ => trivial⟩
      rw [Handler.journal_bind, Handler.journal_lift]
      refine ⟨fun tag _ => ?_, fun _ _ => trivial⟩
      exact .applied rewrite rfl hrefund

/-- What a request knows when it answers. -/
def Answers (d : Deployment) (req : Request) (result : Except Failure Answer) (jr : Journal) :
    Prop :=
  ∀ context orderId tags, req.action = .cancel context orderId .confirm tags →
    ∀ answer, result = .ok answer → CancelAnswer d req jr answer

theorem cancel_knows {context : ReservedContext} {orderId : String} {step : CancelStep}
    {tags : Option (List BuyerTag)} (haction : req.action = .cancel context orderId step tags) :
    Handler.Journal (Knows d req) (fun answer jr' => step = .confirm →
      CancelAnswer d req jr' answer) (fun _ _ => True) (cancel d context orderId step tags) [] := by
  rw [cancel, Handler.journal_bind, Handler.journal_lift]
  refine ⟨fun _ _ => ?_, fun _ _ => trivial⟩
  rw [Handler.journal_bind, findBookingOrRefuse, Handler.journal_bind]
  refine (findBooking_knows _ _ _ _).weaken (fun found jr₁ _ hfound => ?_) fun _ _ _ => trivial
  cases found with
  | none => trivial
  | some booking =>
    obtain rfl := hfound booking rfl
    rw [Handler.journal_pure, Handler.journal_bind, Handler.journal_lift]
    refine ⟨fun target htarget => ?_, fun _ _ => trivial⟩
    cases step with
    | soft =>
      dsimp only
      rw [softCancel]
      split
      · rw [Handler.journal_bind, Handler.journal_lift]
        exact ⟨fun _ _ h => (by cases h), fun _ _ => trivial⟩
      · rw [Handler.journal_bind, journal_perform]
        refine ⟨trivial, fun nowMs => ?_⟩
        rw [Handler.journal_bind]
        refine journal_transact.mpr ⟨⟨⟨context, orderId, .soft, tags, haction, booking,
          List.suffix_cons _ _, target, htarget, nowMs⟩, rfl⟩, fun quote => ?_, fun _ => trivial⟩
        rw [Handler.journal_bind, Handler.journal_lift]
        refine ⟨fun refund _ => ?_, fun _ _ => trivial⟩
        rw [Handler.journal_bind, Handler.journal_lift]
        exact ⟨fun tag _ h => (by cases h), fun _ _ => trivial⟩
    | confirm =>
      refine (confirmCancel_knows haction (by simpa only [List.append_nil] using List.suffix_refl _)
        htarget ?_).weaken (fun answer jr₂ _ h _ => h) fun _ _ _ => trivial
      intro l hl params
      rcases List.mem_cons.mp hl with rfl | hl
      · simp
      · rw [List.mem_singleton.mp hl]
        simp

/-! ## The other handlers -/

theorem eligible_knows (travelDate : String) (nowMs : ℤ) (service : ReservedService) {t : ℤ}
    (hclock : ReadClock jr t) : Handler.Journal (Knows d req) (fun _ jr' => ReadClock jr' t)
      (fun _ _ => True) (eligible d travelDate nowMs service) jr := by
  rw [eligible, Handler.journal_bind, Handler.journal_lift]
  refine ⟨fun departureAt _ => ?_, fun _ _ => trivial⟩
  rw [Handler.journal_bind, Handler.journal_lift]
  refine ⟨fun verdict _ => ?_, fun _ _ => trivial⟩
  split
  · exact hclock
  · rw [Handler.journal_bind]
    refine (seatMapFor_knows service _).weaken (fun map jr₁ hs₁ _ => ?_) fun _ _ _ => trivial
    rw [Handler.journal_bind]
    refine (fareTableFor_knows service _).weaken (fun table jr₂ hs₂ _ => ?_) fun _ _ _ => trivial
    exact hclock.mono (hs₁.trans hs₂)

theorem eligibleAll_knows (travelDate : String) (nowMs : ℤ) {t : ℤ} :
    ∀ (services : List ReservedService) {jr : Journal}, ReadClock jr t →
      Handler.Journal (Knows d req) (fun _ jr' => ReadClock jr' t) (fun _ _ => True)
        (eligibleAll d travelDate nowMs services) jr
  | [], _, hclock => hclock
  | service :: services, _, hclock => by
    rw [eligibleAll, Handler.journal_bind]
    refine (eligible_knows travelDate nowMs service hclock).weaken (fun entry jr₁ _ h₁ => ?_)
      fun _ _ _ => trivial
    rw [Handler.journal_bind]
    exact (eligibleAll_knows travelDate nowMs services h₁).weaken (fun _ jr₂ _ h₂ => h₂)
      fun _ _ _ => trivial

theorem search_knows (intent : ReservedSearchIntent) :
    Handler.Journal (Knows d req) (fun _ _ => True) (fun _ _ => True) (search d intent) jr := by
  rw [search, Handler.journal_bind, Handler.journal_lift]
  refine ⟨fun query _ => ?_, fun _ _ => trivial⟩
  rw [Handler.journal_bind, journal_perform]
  refine ⟨trivial, fun nowMs => ?_⟩
  rw [Handler.journal_bind]
  refine (sweepManifests_knows (List.mem_cons_self ..)).weaken (fun _ jr₁ hs₁ _ => ?_)
    fun _ _ _ => trivial
  rw [Handler.journal_bind, journal_attempt]
  refine journal_op.mpr ⟨trivial, ?_⟩
  rintro (e | services)
  · trivial
  · rw [ends_ok, Handler.journal_bind]
    refine (eligibleAll_knows query.travelDate nowMs services
      ((ReadClock.mono hs₁ (List.mem_cons_self ..)).mono (List.suffix_cons _ _))).weaken
        (fun published jr₂ _ hclock => ?_) fun _ _ _ => trivial
    dsimp only
    rw [Handler.journal_bind]
    refine journal_transact.mpr ⟨hclock, fun _ => ?_, fun _ => trivial⟩
    split
    · rw [Handler.journal_bind, Handler.journal_pure, Handler.journal_bind, Handler.journal_lift]
      exact ⟨fun _ _ => trivial, fun _ _ => trivial⟩
    · rw [Handler.journal_bind, journal_attempt]
      refine journal_op.mpr ⟨trivial, ?_⟩
      rintro (e | claims)
      · trivial
      · rw [ends_ok, Handler.journal_bind, Handler.journal_lift]
        exact ⟨fun _ _ => trivial, fun _ _ => trivial⟩

theorem select_knows (context : ReservedContext) (input : OrderInput) :
    Handler.Journal (Knows d req) (fun _ _ => True) (fun _ _ => True)
      (select d context input) jr := by
  rw [select, Handler.journal_bind, Handler.journal_lift]
  refine ⟨fun _ _ => ?_, fun _ _ => trivial⟩
  rw [Handler.journal_bind]
  refine (resolveSelection_knows input _).weaken (fun resolved jr₁ _ _ => ?_) fun _ _ _ => trivial
  dsimp only
  rw [Handler.journal_bind, Handler.journal_lift]
  refine ⟨fun _ _ => ?_, fun _ _ => trivial⟩
  rw [Handler.journal_bind, Handler.journal_lift]
  refine ⟨fun pair _ => ?_, fun _ _ => trivial⟩
  rw [Handler.journal_bind, Handler.journal_lift]
  refine ⟨fun cell _ => ?_, fun _ _ => trivial⟩
  have hbuild : ∀ (build : BuildOrder) jr₂, Handler.Journal (Knows d req) (fun _ _ => True)
      (fun _ _ => True) (do
        let order ← buildOrder d build
        return Answer.order order none []) jr₂ := by
    intro build jr₂
    rw [Handler.journal_bind]
    exact (buildOrder_knows build).weaken (fun _ _ _ _ => trivial) fun _ _ _ => trivial
  split
  · rename_i hseats
    rw [Handler.journal_bind, map_eq_pure_bind, Handler.journal_bind]
    refine (holdSeats_knows resolved _ (fun hnil => ?_)).weaken (fun hold jr₂ _ _ => hbuild _ _)
      fun _ _ _ => trivial
    rw [hnil] at hseats
    exact absurd hseats (by simp)
  · exact hbuild _ _

theorem init_knows (context : ReservedContext) (input : OrderInput) :
    Handler.Journal (Knows d req) (fun _ _ => True) (fun _ _ => True)
      (init d context input) jr := by
  rw [init, Handler.journal_bind, Handler.journal_lift]
  refine ⟨fun _ _ => ?_, fun _ _ => trivial⟩
  rw [Handler.journal_bind, Handler.journal_lift]
  refine ⟨fun _ _ => ?_, fun _ _ => trivial⟩
  rw [Handler.journal_bind]
  refine (resolveSelection_knows input _).weaken (fun resolved jr₁ _ _ => ?_) fun _ _ _ => trivial
  rw [Handler.journal_bind]
  refine (liveHoldAndManifest_knows resolved _ input).weaken ?_ fun _ _ _ => trivial
  rintro ⟨hold, records⟩ jr₂ - -
  rw [Handler.journal_bind, Handler.journal_lift]
  refine ⟨fun pair _ => ?_, fun _ _ => trivial⟩
  rw [Handler.journal_bind, Handler.journal_lift]
  refine ⟨fun cell _ => ?_, fun _ _ => trivial⟩
  rw [Handler.journal_bind]
  exact (buildOrder_knows _).weaken (fun _ _ _ _ => trivial) fun _ _ _ => trivial

theorem confirm_knows {context : ReservedContext} {input : OrderInput}
    (haction : req.action = .confirm context input) :
    Handler.Journal (Knows d req) (fun _ _ => True) (fun _ _ => True)
      (confirm d context input) [] := by
  rw [confirm, Handler.journal_bind, Handler.journal_lift]
  refine ⟨fun _ _ => ?_, fun _ _ => trivial⟩
  rw [Handler.journal_bind, Handler.journal_lift]
  refine ⟨fun _ _ => ?_, fun _ _ => trivial⟩
  dsimp only
  rw [Handler.journal_bind]
  refine (findBookingByTransaction_knows _ _ _).weaken (fun existing jr₁ _ hblind => ?_)
    fun _ _ _ => trivial
  cases existing with
  | some existing => trivial
  | none =>
    dsimp only
    have hjr₁ : Unchecked jr₁ := hblind fun l hl => absurd hl List.not_mem_nil
    rw [Handler.journal_bind]
    refine journal_perform.mpr ⟨trivial, ?_⟩
    rintro (promise | promise)
    · dsimp only
      rw [Handler.journal_bind, journal_attempt]
      refine journal_op.mpr ⟨trivial, ?_⟩
      rintro (e | booking) <;> trivial
    · dsimp only
      rw [Handler.journal_bind, Handler.journal_run]
      refine (confirmNew_knows context input haction (hjr₁.cons (by simp))).weaken
        (fun booking jr₂ _ _ => ?_) fun e jr₂ _ => ?_
      · exact ⟨trivial, fun _ => ⟨trivial, fun _ => trivial⟩⟩
      · exact ⟨trivial, fun _ => ⟨trivial, fun _ => trivial⟩⟩

theorem status_knows (context : ReservedContext) (orderId refId : Option String) :
    Handler.Journal (Knows d req) (fun _ _ => True) (fun _ _ => True)
      (status d context orderId refId) jr := by
  have hfind : ∀ (reference : String) jr, Handler.Journal (Knows d req) (fun _ _ => True)
      (fun _ _ => True) (findBookingOrRefuse d context reference) jr := by
    intro reference jr
    rw [findBookingOrRefuse, Handler.journal_bind]
    refine (findBooking_knows _ _ _ _).weaken (fun found _ _ _ => ?_) fun _ _ _ => trivial
    cases found <;> trivial
  rw [status, Handler.journal_bind, Handler.journal_lift]
  refine ⟨fun _ _ => ?_, fun _ _ => trivial⟩
  dsimp only
  have hgo : ∀ jr, Handler.Journal (Knows d req) (fun _ _ => True) (fun _ _ => True) (do
      let _ ← findBookingOrRefuse d context ((orderId.or refId).getD "")
      let nowMs ← perform .now
      let _ ← sweepManifests nowMs d.reservation.manifestRetentionDays
      let fresh ← findBookingOrRefuse d context ((orderId.or refId).getD "")
      let refund ← if fresh.refundPaise.isNone then pure none else some <$> storedRefund fresh
      return Answer.order fresh.order refund []) jr := by
    intro jr
    rw [Handler.journal_bind]
    refine (hfind _ _).weaken (fun _ jr₁ _ _ => ?_) fun _ _ _ => trivial
    rw [Handler.journal_bind, journal_perform]
    refine ⟨trivial, fun nowMs => ?_⟩
    rw [Handler.journal_bind]
    refine (sweepManifests_knows (List.mem_cons_self ..)).weaken (fun _ jr₂ _ _ => ?_)
      fun _ _ _ => trivial
    rw [Handler.journal_bind]
    refine (hfind _ _).weaken (fun fresh jr₃ _ _ => ?_) fun _ _ _ => trivial
    dsimp only
    split
    · trivial
    · rw [Handler.journal_bind, map_eq_pure_bind, Handler.journal_bind, Handler.journal_lift]
      exact ⟨fun _ _ => trivial, fun _ _ => trivial⟩
  split
  · rw [Handler.journal_bind]
    trivial
  · exact hgo jr

/-- **Every handler knows what `Knows` says.** -/
theorem handle_knows (req : Request) :
    ((provider d).handler req).Journal (Knows d req) (Answers d req) [] := by
  have hother : (∀ context orderId tags, req.action ≠ .cancel context orderId .confirm tags) →
      Handler.Journal (Knows d req) (fun _ _ => True) (fun _ _ => True) (handle d req) [] →
        ((provider d).handler req).Journal (Knows d req) (Answers d req) [] := by
    intro hne h
    refine Prog.Journal.mono (fun _ _ _ hP => hP) ?_ h
    intro result jr' _ _ context orderId tags haction
    exact absurd haction (hne context orderId tags)
  rcases haction : req.action with
    intent | ⟨context, input⟩ | ⟨context, input⟩ | ⟨context, input⟩ |
    ⟨context, orderId, refId⟩ | ⟨context, orderId, step, tags⟩
  · refine hother (by simp [haction]) ?_
    rw [handle, haction]
    exact search_knows intent
  · refine hother (by simp [haction]) ?_
    rw [handle, haction]
    exact select_knows context input
  · refine hother (by simp [haction]) ?_
    rw [handle, haction]
    exact init_knows context input
  · refine hother (by simp [haction]) ?_
    rw [handle, haction]
    exact confirm_knows haction
  · refine hother (by simp [haction]) ?_
    rw [handle, haction]
    exact status_knows context orderId refId
  · have hcancel := cancel_knows (d := d) haction
    change Prog.Journal _ _ (handle d req).run []
    rw [handle, haction]
    refine Prog.Journal.mono (fun _ _ _ hP => hP) ?_ hcancel
    rintro (e | answer) jr' - h context' orderId' tags' haction' answer' hanswer
    · cases hanswer
    · obtain rfl := Except.ok.inj hanswer
      rw [haction] at haction'
      injection haction' with hc ho hstep ht
      exact h hstep

end TransitBpp
