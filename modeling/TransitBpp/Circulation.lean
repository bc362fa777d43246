import TransitBpp.QuotedHolds

/-!
# Orders in circulation

An order is made once, by a confirm, and from then on is stored, read, rewritten by cancellations and
cleared by sweeps, and what is written back is made of what was read. So what is true of every order
a confirm makes, and is kept by the two ways of rewriting one, is true of every order of every run,
wherever it is met: that is `Circulates`.
-/

namespace TransitBpp

open Interleave Js

variable {P : String → Order → Prop} {d : Deployment} {req : Request} {s s' : History} {w : World}
variable {i : ℕ} {op : Op} {r : Resp op}

/-! ## What an order is built of -/

/-- The hold an order names, if it names one. -/
def holdTagsOf (d : Deployment) : Option HoldRecord → Except Failure (List Tag)
  | none => .ok []
  | some hold => (holdInfoTag hold.holdId hold.expiresAt d.reservation.holdTtlSeconds).map ([·])

/-- The parts of an order. -/
structure Parts (d : Deployment) (input : BuildOrder) (snapshot : Snapshot) (order : Order) : Type
    where
  /-- the quote -/
  quote : Quote
  /-- the item -/
  item : Item
  /-- the fulfillment -/
  fulfillment : Fulfillment
  /-- when it was made -/
  createdAt : Option String
  /-- the hold -/
  holdTags : List Tag
  /-- the quote is that of the input -/
  quote_eq : input.quote = .ok quote
  /-- the item is the service on its date -/
  item_eq : reservedItem input.resolved.service input.resolved.travelDate input.farePaise input.pair
    input.fareSourcing (some snapshot.availableCount) (some input.seatCount) = .ok item
  /-- the fulfillment is the ride between the two stops -/
  fulfillment_eq : orderFulfillment input.resolved.service input.resolved.travelDate input.pair
    input.fulfillmentTags = .ok fulfillment
  /-- the instant is written out -/
  createdAt_eq : (input.createdAt.filter fun at_ => at_ ≠ 0).mapM istIsoInstant = .ok createdAt
  /-- and so is the hold -/
  holdTags_eq : holdTagsOf d input.hold = .ok holdTags
  /-- these are all -/
  eq : order = {
    id := input.id
    status := input.status
    providerId := d.operatorId
    providerName := d.operatorName
    items := [item]
    fulfillments := [fulfillment]
    quote
    billing := input.billing
    payments := input.payments.map fun ps => ps.zipIdx.map fun p => numberPayment d p.1 p.2
    termsUrl := s!"{d.publicBaseUrl}/terms"
    createdAt
    tags := [specimenTag specimenNotice,
      seatMapTag input.resolved.seatMap.seatMapId snapshot.states,
      seatMapLayoutTag input.resolved.seatMap] ++
      (if input.seatIds.length > 0 then [seatsTag input.seatIds] else []) ++ holdTags }

theorem renderOrder_parts {input : BuildOrder} {snapshot : Snapshot} {order : Order}
    (h : renderOrder d input snapshot = .ok order) : Nonempty (Parts d input snapshot order) := by
  obtain ⟨quote, hquote, h⟩ := Except.bind_ok.mp h
  obtain ⟨item, hitem, h⟩ := Except.bind_ok.mp h
  obtain ⟨f, hf, h⟩ := Except.bind_ok.mp h
  obtain ⟨createdAt, hcreated, h⟩ := Except.bind_ok.mp h
  dsimp only at h
  split at h
  · rename_i hnone
    obtain ⟨holdTags, hhold, h⟩ := Except.bind_ok.mp h
    obtain rfl := Except.ok.inj hhold
    refine ⟨⟨quote, item, f, createdAt, [], hquote, hitem, hf, hcreated, ?_, (Except.ok.inj h).symm⟩⟩
    rw [hnone]
    rfl
  · rename_i hold hsome
    obtain ⟨tag, htag, h⟩ := Except.bind_ok.mp h
    obtain ⟨holdTags, hhold, h⟩ := Except.bind_ok.mp h
    obtain rfl := Except.ok.inj hhold
    refine ⟨⟨quote, item, f, createdAt, [tag], hquote, hitem, hf, hcreated, ?_,
      (Except.ok.inj h).symm⟩⟩
    rw [hsome, holdTagsOf, htag]
    rfl

/-! ## What is true of every order -/

/-- A property of orders, under the id of their booking, that no rewriting spoils. -/
structure Lasting (P : String → Order → Prop) : Prop where
  /-- clearing the names -/
  cleared : ∀ {bookingId order order'}, P bookingId order → order.withoutManifestNames = .ok order' →
    P bookingId order'
  /-- cancelling seats -/
  cancelled : ∀ {booking : BookingRecord}, P booking.id booking.order →
    P booking.id (cancelledOrder booking)

/-- Every order that is stored or was read is as `P` says. -/
structure Circulates (P : String → Order → Prop) (s : History) : Prop where
  /-- what is stored -/
  stored : ∀ row ∈ s.world.db.bookings.rows, P row.id row.order
  /-- what was read, of a booking or for a sweep -/
  shown : ∀ e ∈ s.trace, ∀ bookingId order, Shows e bookingId order → P bookingId order

theorem Circulates.initial (clock : ℤ) (source : Source) :
    Circulates P ⟨World.initial clock source, []⟩ :=
  ⟨fun _ h => absurd h List.not_mem_nil, fun _ h => absurd h List.not_mem_nil⟩

/-- What happens on its own keeps it. -/
theorem Circulates.env (h : Circulates P s) (hdb : w.db = s.world.db) :
    Circulates P ⟨w, s.trace⟩ := by
  refine ⟨?_, h.shown⟩
  rw [show ({ world := w, trace := s.trace } : History).world.db = s.world.db from hdb]
  exact h.stored

/-- A row that was read carries such an order. -/
theorem Circulates.read (h : Circulates P s) {l : Line Op Resp} (hl : l ∈ own i s.trace)
    {row : BookingRow} (hread : rowRead l = some row) : P row.id row.order :=
  h.shown _ (mem_own.mp hl) row.id row.order (.inl ⟨row, hread, rfl, rfl⟩)

/-- A transaction leaves such an order in place of such an order. -/
theorem BookingMove.circulates {t : Transaction} {row row' : BookingRow} (h : Circulates P s)
    (hlasting : Lasting P) (hknows : Knows d req (own i s.trace) (.transaction t))
    (hmove : BookingMove t row row') (hrow : P row.id row.order) : P row'.id row'.order := by
  cases hmove with
  | stay => exact hrow
  | settle _ _ _ _ _ => exact hrow
  | store order ht =>
    subst ht
    obtain ⟨run, hid, rfl⟩ := hknows
    have hread : P run.row.id run.row.order := h.read run.reread rfl
    let booking : BookingRecord := { run.row with seats := run.seats }
    have hcancelled : P booking.id (cancelledOrder booking) := hlasting.cancelled hread
    rw [hid]
    exact hcancelled
  | redact stale order order' ht hmem hredact =>
    subst ht
    obtain ⟨run⟩ := hknows
    have hlisted := h.shown _ (mem_own.mp run.listed) row.id order (.inr ⟨i, _, stale, rfl, hmem⟩)
    exact hlasting.cleared hlisted hredact

/-- An operation keeps it, so long as what it makes is such an order. -/
theorem Circulates.perform (h : Circulates P s) (hlasting : Lasting P)
    (hknows : Knows d req (own i s.trace) op)
    (hmade : ∀ params, op = .transaction (.confirmBooking params) → P params.orderId params.order)
    (hdoes : Does (provider d) i req op s r s') : Circulates P s' := by
  obtain ⟨o, w, hexec, rfl⟩ := hdoes
  refine ⟨fun row' hrow' => ?_, fun e he bookingId order hshows => ?_⟩
  · rcases World.exec_db hexec with ⟨hdb, -⟩ | ⟨t, a, heq, hrun⟩
    · change row' ∈ w.db.bookings.rows at hrow'
      rw [hdb] at hrow'
      exact h.stored row' hrow'
    · cases heq
      obtain ⟨g, new, hmoved⟩ := Transaction.bookings_moved hrun
      change row' ∈ w.db.bookings.rows at hrow'
      rw [hmoved.rows] at hrow'
      rcases List.mem_append.mp hrow' with hrow' | hrow'
      · obtain ⟨row, hrow, rfl⟩ := List.mem_map.mp hrow'
        exact (hmoved.moves row).circulates h hlasting hknows (h.stored row hrow)
      · -- the row of a confirm
        rw [hmoved.new] at hrow'
        cases t with
        | confirmBooking params =>
          obtain rfl := List.mem_singleton.mp hrow'
          exact hmade params rfl
        | _ => cases hrow'
  · rcases List.mem_cons.mp he with rfl | he
    · obtain ⟨row, hrow, rfl, rfl⟩ := hshows.stored hexec
      exact h.stored row hrow
    · exact h.shown e he bookingId order hshows

end TransitBpp
