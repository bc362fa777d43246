import TransitBpp.Clearable
import TransitBpp.Commitments
import TransitBpp.Operations

/-!
# Names are gone in time

A sweep finds the bookings past their retention by their departure and by the names on their seats,
and clears the seats and the stored order of each. It is throttled: a call within the interval of
the last sweep does nothing. So a name may outlive its retention by one interval, and no longer:
`InTime` is the invariant, and `names_gone` what follows from it.

What carries it is that the two copies of a name stay in step. A booking that is not yet cleared
has a name on one of its seats, which is how the next sweep finds it, and a stored order that the
sweep can clear; a cancellation rebuilds the order from the seats, and brings no name back.
-/

namespace TransitBpp

open Interleave Js

variable {d : Deployment} {i : ℕ} {req : Request} {s s' s₀ : History} {db db' : ReservedDb}

/-! ## Who is still named -/

/-- A seat that says nothing about who travels on it. -/
def BookingSeatRow.Anonymous (seat : BookingSeatRow) : Prop :=
  seat.name = none ∧ seat.age = none ∧ seat.gender = none

/-- Nobody is named on a booking, neither on its seats nor in its stored order. -/
structure ReservedDb.Cleared (db : ReservedDb) (row : BookingRow) : Prop where
  /-- the seats -/
  seats : ∀ seat ∈ db.bookingSeats.rows, seat.bookingId = row.id → seat.Anonymous
  /-- the order -/
  order : row.order.Anonymous

/-- A sweep past its retention finds the booking, and clears it. -/
structure ReservedDb.Sweepable (db : ReservedDb) (row : BookingRow) : Prop where
  /-- a seat has a name -/
  named : ∃ seat ∈ db.bookingSeats.rows, seat.bookingId = row.id ∧ seat.name.isSome = true
  /-- the order can be cleared -/
  order : row.order.Clearable

/-- Every booking is cleared, or will be by the sweep that finds it. -/
def ReservedDb.InStep (db : ReservedDb) : Prop :=
  ∀ row ∈ db.bookings.rows, db.Sweepable row ∨ db.Cleared row

/-- Every booking that departed before an instant is cleared. -/
def ReservedDb.ClearedBefore (db : ReservedDb) (cutoff : ℤ) : Prop :=
  ∀ row ∈ db.bookings.rows, row.departureAt < cutoff → db.Cleared row

theorem ReservedDb.Sweepable.not_cleared {row : BookingRow} (h : db.Sweepable row) :
    ¬ db.Cleared row := by
  intro hcleared
  obtain ⟨seat, hseat, hid, hname⟩ := h.named
  rw [(hcleared.seats seat hseat hid).1] at hname
  cases hname

/-! ### What a confirm does to it -/

theorem HoldBooked.sweepable {params : ConfirmBooking} (h : HoldBooked params db db')
    {row : BookingRow} (hrow : db.Sweepable row) : db'.Sweepable row := by
  obtain ⟨seat, hseat, hnamed⟩ := hrow.named
  refine ⟨⟨seat, ?_, hnamed⟩, hrow.order⟩
  rw [h.seats]
  exact List.mem_append_left _ hseat

theorem HoldBooked.cleared {params : ConfirmBooking} (h : HoldBooked params db db')
    {row : BookingRow} (hmem : row ∈ db.bookings.rows) (hrow : db.Cleared row) : db'.Cleared row := by
  refine ⟨fun seat hseat hid => ?_, hrow.order⟩
  rw [h.seats] at hseat
  rcases List.mem_append.mp hseat with hseat | hseat
  · exact hrow.seats seat hseat hid
  · -- the seats of the new booking are under an id of their own
    obtain ⟨new, -, rfl⟩ := List.mem_map.mp hseat
    exact absurd hid.symm (h.fresh row hmem)

theorem HoldBooked.inStep {params : ConfirmBooking} (h : HoldBooked params db db')
    (hseats : params.seats ≠ []) (horder : params.order.Clearable) (hdb : db.InStep) :
    db'.InStep := by
  intro row hrow
  rw [h.bookings] at hrow
  rcases List.mem_append.mp hrow with hrow | hrow
  · exact (hdb row hrow).imp h.sweepable (h.cleared hrow)
  · obtain rfl := List.mem_singleton.mp hrow
    obtain ⟨seat, rest, hcons⟩ := List.exists_cons_of_ne_nil hseats
    refine Or.inl ⟨?_, horder⟩
    rw [h.seats, ConfirmBooking.seatRows, hcons]
    exact ⟨_, List.mem_append_right _ List.mem_cons_self, rfl, rfl⟩

theorem HoldBooked.clearedBefore {params : ConfirmBooking} (h : HoldBooked params db db')
    {cutoff : ℤ} (hdeparture : cutoff ≤ params.departureAt) (hdb : db.ClearedBefore cutoff) :
    db'.ClearedBefore cutoff := by
  intro row hrow hlt
  rw [h.bookings] at hrow
  rcases List.mem_append.mp hrow with hrow | hrow
  · exact h.cleared hrow (hdb row hrow hlt)
  · obtain rfl := List.mem_singleton.mp hrow
    exact absurd hlt (not_lt.mpr hdeparture)

/-! ### What a cancellation does to it -/

/-- The seats are the same, and so is what they say about their passengers. -/
structure SeatsAlike (db db' : ReservedDb) (f : BookingSeatRow → BookingSeatRow) : Prop where
  /-- each seat changed by `f` -/
  rows : db'.bookingSeats.rows = db.bookingSeats.rows.map f
  /-- it is of the same booking -/
  bookingId : ∀ seat, (f seat).bookingId = seat.bookingId
  /-- under the same name -/
  name : ∀ seat, (f seat).name = seat.name
  /-- of the same age -/
  age : ∀ seat, (f seat).age = seat.age
  /-- and the same gender -/
  gender : ∀ seat, (f seat).gender = seat.gender

theorem SeatsAlike.named {f : BookingSeatRow → BookingSeatRow} (h : SeatsAlike db db' f)
    {bookingId : String}
    (hnamed : ∃ seat ∈ db.bookingSeats.rows, seat.bookingId = bookingId ∧ seat.name.isSome = true) :
    ∃ seat ∈ db'.bookingSeats.rows, seat.bookingId = bookingId ∧ seat.name.isSome = true := by
  obtain ⟨seat, hseat, hid, hname⟩ := hnamed
  refine ⟨f seat, ?_, (h.bookingId seat).trans hid, ?_⟩
  · rw [h.rows]
    exact List.mem_map_of_mem hseat
  · rw [h.name]
    exact hname

theorem SeatsAlike.anonymous {f : BookingSeatRow → BookingSeatRow} (h : SeatsAlike db db' f)
    {bookingId : String}
    (hseats : ∀ seat ∈ db.bookingSeats.rows, seat.bookingId = bookingId → seat.Anonymous) :
    ∀ seat ∈ db'.bookingSeats.rows, seat.bookingId = bookingId → seat.Anonymous := by
  intro seat' hseat' hid
  rw [h.rows] at hseat'
  obtain ⟨seat, hseat, rfl⟩ := List.mem_map.mp hseat'
  rw [h.bookingId] at hid
  obtain ⟨hname, hage, hgender⟩ := hseats seat hseat hid
  exact ⟨(h.name seat).trans hname, (h.age seat).trans hage, (h.gender seat).trans hgender⟩

theorem SeatsCancelled.alike {params : ApplyCancellation} (h : SeatsCancelled params db db') :
    SeatsAlike db db' (cancelSeats params params.seatIds) := by
  refine ⟨h.seats, fun seat => ?_, fun seat => ?_, fun seat => ?_, fun seat => ?_⟩ <;>
    rw [cancelSeats, setIf] <;> split <;> rfl

/-- Every booking was there before, and what could be swept or was cleared stays so, or is cleared
now. -/
def ReservedDb.Carries (db db' : ReservedDb) : Prop :=
  ∀ row' ∈ db'.bookings.rows, ∃ row ∈ db.bookings.rows, row'.departureAt = row.departureAt ∧
    (db.Sweepable row → db'.Sweepable row' ∨ db'.Cleared row') ∧
      (db.Cleared row → db'.Cleared row')

theorem ReservedDb.Carries.inStep (h : db.Carries db') (hdb : db.InStep) : db'.InStep := by
  intro row' hrow'
  obtain ⟨row, hrow, -, hsweepable, hcleared⟩ := h row' hrow'
  rcases hdb row hrow with hrow | hrow
  · exact hsweepable hrow
  · exact Or.inr (hcleared hrow)

theorem ReservedDb.Carries.clearedBefore (h : db.Carries db') {cutoff : ℤ}
    (hdb : db.ClearedBefore cutoff) : db'.ClearedBefore cutoff := by
  intro row' hrow' hlt
  obtain ⟨row, hrow, hdeparture, -, hcleared⟩ := h row' hrow'
  exact hcleared (hdb row hrow (hdeparture ▸ hlt))

theorem carries_of_eq (hbookings : db'.bookings = db.bookings)
    (hseats : db'.bookingSeats = db.bookingSeats) : db.Carries db' := by
  intro row hrow
  rw [hbookings] at hrow
  refine ⟨row, hrow, rfl, fun h => Or.inl ⟨?_, h.order⟩, fun h => ⟨?_, h.order⟩⟩
  · rw [hseats]
    exact h.named
  · rw [hseats]
    exact h.seats

/-- A commitment changes no seat's passenger, and the order it stores is that of its seats. -/
theorem Commitment.carries {booking : BookingRecord} {live : List BookingSeatRow}
    {tags : Option (List BuyerTag)} {nowMs : ℤ} {result : Except Failure Answer}
    (h : Commitment db booking live tags nowMs result db') : db.Carries db' := by
  cases h with
  | refused _ hbookings hseats _ => exact carries_of_eq hbookings hseats
  | @applied quote stored db₁ _ _ _ hcancelled hread hstored =>
    have halike : SeatsAlike db db' _ :=
      ⟨(congrArg Sql.Table.rows hstored.seats).trans hcancelled.alike.rows,
        hcancelled.alike.bookingId, hcancelled.alike.name, hcancelled.alike.age,
        hcancelled.alike.gender⟩
    intro row' hrow'
    rw [hstored.bookings] at hrow'
    obtain ⟨row₁, hrow₁, rfl⟩ := List.mem_map.mp hrow'
    have hmem₁ := hrow₁
    rw [hcancelled.bookings] at hrow₁
    obtain ⟨row, hrow, rfl⟩ := List.mem_map.mp hrow₁
    have hsame : (settleBooking (cancellationOf booking live nowMs) db₁ row).id = row.id ∧
        (settleBooking (cancellationOf booking live nowMs) db₁ row).departureAt = row.departureAt ∧
          (settleBooking (cancellationOf booking live nowMs) db₁ row).order = row.order := by
      rw [settleBooking, setIf]
      split <;> exact ⟨rfl, rfl, rfl⟩
    generalize settleBooking (cancellationOf booking live nowMs) db₁ row = row₁ at *
    obtain ⟨hid, hdeparture, horder⟩ := hsame
    rw [storeOrder, setIf]
    split
    · -- the booking that is cancelled
      rename_i hstoredId
      obtain rfl := db₁.booking_unique (List.mem_of_find?_eq_some hread) hmem₁
        (of_decide_eq_true hstoredId).symm
      refine ⟨row, hrow, hdeparture, fun hsweepable => Or.inl ⟨?_, ?_⟩, fun hcleared => ⟨?_, ?_⟩⟩
      · have hnamed := halike.named hsweepable.named
        rwa [← hid] at hnamed
      · refine clearable_cancelledOrder.mpr ?_
        rw [horder]
        exact hsweepable.order
      · exact halike.anonymous (hid ▸ hcleared.seats)
      · refine anonymous_cancelledOrder (horder ▸ hcleared.order) fun seat hseat => ?_
        obtain ⟨hmem, hbooking⟩ := mem_seatsOf.mp hseat
        refine hcancelled.alike.anonymous hcleared.seats seat hmem ?_
        exact hbooking.trans hid
    · refine ⟨row, hrow, hdeparture, fun hsweepable => Or.inl ⟨?_, horder ▸ hsweepable.order⟩,
        fun hcleared => ⟨?_, horder ▸ hcleared.order⟩⟩
      · rw [hid]
        exact halike.named hsweepable.named
      · rw [hid]
        exact halike.anonymous hcleared.seats

/-! ### What a sweep does to it -/

/-- What a sweep does not find is cleared already. -/
theorem ReservedDb.InStep.cleared_of_not_stale (hdb : db.InStep) {cutoff : ℤ} {row : BookingRow}
    (hrow : row ∈ db.bookings.rows) (hlt : row.departureAt < cutoff)
    (hnot : row.id ∉ (db.staleManifests cutoff).map Prod.fst) : db.Cleared row := by
  refine (hdb row hrow).resolve_left fun hsweepable => hnot ?_
  exact List.mem_map.mpr
    ⟨_, mem_staleManifests.mpr ⟨row, hrow, hlt, hsweepable.named, rfl⟩, rfl⟩

/-- What it finds it can clear. -/
theorem ReservedDb.InStep.stale_clears (hdb : db.InStep) {cutoff : ℤ} {entry : String × Order}
    (hentry : entry ∈ db.staleManifests cutoff) :
    ∃ order', entry.2.withoutManifestNames = .ok order' ∧ order'.Anonymous := by
  obtain ⟨row, hrow, -, ⟨seat, hseat, hid, hname⟩, rfl⟩ := mem_staleManifests.mp hentry
  refine ((hdb row hrow).resolve_right fun hcleared => ?_).order.clears
  rw [(hcleared.seats seat hseat hid).1] at hname
  cases hname

/-- A booking a sweep found is cleared by it, and any other is as it was. -/
theorem ManifestsCleared.row {cutoff : ℤ} {orders : String → Option Order}
    (h : ManifestsCleared (db.staleManifests cutoff) db db' orders) (hdb : db.InStep)
    (row : BookingRow) :
    (row.id ∈ (db.staleManifests cutoff).map Prod.fst ∧ db'.Cleared (storeOrders orders row)) ∨
      (row.id ∉ (db.staleManifests cutoff).map Prod.fst ∧ storeOrders orders row = row ∧
        (db.Sweepable row → db'.Sweepable row) ∧ (db.Cleared row → db'.Cleared row)) := by
  by_cases hstale : row.id ∈ (db.staleManifests cutoff).map Prod.fst
  · refine Or.inl ⟨hstale, fun seat' hseat' hid => ?_, ?_⟩
    · rw [h.seats] at hseat'
      obtain ⟨seat, -, rfl⟩ := List.mem_map.mp hseat'
      rw [clearSeats, setIf] at hid ⊢
      split at hid
      · rename_i hmem
        rw [if_pos hmem]
        exact ⟨rfl, rfl, rfl⟩
      · rename_i hnot
        exact absurd (decide_eq_true (hid.symm ▸ hstale)) hnot
    · obtain ⟨order', horder'⟩ := Option.isSome_iff_exists.mp (h.listed _ hstale)
      obtain ⟨order, hlisted, hredacted⟩ := h.redacted _ _ horder'
      obtain ⟨order'', hok, hanonymous⟩ := hdb.stale_clears hlisted
      obtain rfl := Except.ok.inj (hredacted.symm.trans hok)
      rw [storeOrders, horder']
      exact hanonymous
  · have hnone : orders row.id = none := by
      cases horder : orders row.id with
      | none => rfl
      | some order' =>
        obtain ⟨order, hlisted, -⟩ := h.redacted _ _ horder
        exact absurd (List.mem_map_of_mem hlisted) hstale
    have hseat : ∀ seat : BookingSeatRow, seat.bookingId = row.id →
        clearSeats ((db.staleManifests cutoff).map Prod.fst) seat = seat := by
      intro seat hid
      rw [clearSeats, setIf, if_neg]
      rw [decide_eq_true_eq, hid]
      exact hstale
    refine Or.inr ⟨hstale, by rw [storeOrders, hnone, Option.getD_none], fun hsweepable => ?_,
      fun hcleared => ⟨fun seat' hseat' hid => ?_, hcleared.order⟩⟩
    · obtain ⟨seat, hmem, hid, hname⟩ := hsweepable.named
      refine ⟨⟨seat, ?_, hid, hname⟩, hsweepable.order⟩
      rw [h.seats]
      exact List.mem_map.mpr ⟨seat, hmem, hseat seat hid⟩
    · rw [h.seats] at hseat'
      obtain ⟨seat, hmem, rfl⟩ := List.mem_map.mp hseat'
      have hbooking : (clearSeats ((db.staleManifests cutoff).map Prod.fst) seat).bookingId =
          seat.bookingId := by
        rw [clearSeats, setIf]
        split <;> rfl
      rw [hbooking] at hid
      rw [hseat seat hid]
      exact hcleared.seats seat hmem hid

theorem ManifestsCleared.carries {cutoff : ℤ} {orders : String → Option Order}
    (h : ManifestsCleared (db.staleManifests cutoff) db db' orders) (hdb : db.InStep) :
    db.Carries db' := by
  intro row' hrow'
  rw [h.bookings] at hrow'
  obtain ⟨row, hrow, rfl⟩ := List.mem_map.mp hrow'
  refine ⟨row, hrow, rfl, ?_⟩
  rcases h.row hdb row with ⟨-, hcleared⟩ | ⟨-, hsame, hsweepable, hcleared⟩
  · exact ⟨fun _ => Or.inr hcleared, fun _ => hcleared⟩
  · rw [hsame]
    exact ⟨fun hrow => Or.inl (hsweepable hrow), hcleared⟩

/-- **A sweep clears all it should.** -/
theorem ManifestsCleared.clearedBefore {cutoff : ℤ} {orders : String → Option Order}
    (h : ManifestsCleared (db.staleManifests cutoff) db db' orders) (hdb : db.InStep) :
    db'.ClearedBefore cutoff := by
  intro row' hrow' hlt
  rw [h.bookings] at hrow'
  obtain ⟨row, hrow, rfl⟩ := List.mem_map.mp hrow'
  rcases h.row hdb row with ⟨-, hcleared⟩ | ⟨hnot, hsame, -, hcleared⟩
  · exact hcleared
  · rw [hsame]
    exact hcleared (hdb.cleared_of_not_stale hrow hlt hnot)

/-! ## One request -/

/-- A manifest sweep was called at an instant. -/
def Called (s : History) (nowMs : ℤ) : Prop := ∃ e ∈ s.trace, e.op = .manifestSweepDue nowMs

/-- No sweep was called, and no time was lost. -/
structure Unswept (s s' : History) : Prop where
  /-- the notes of the last sweeps are as they were -/
  noted : s'.world.lastManifestSweepAt = s.world.lastManifestSweepAt
  /-- the clock has not gone back -/
  clock : s.world.clock ≤ s'.world.clock
  /-- no sweep was called -/
  called : ∀ nowMs, Called s' nowMs → Called s nowMs

/-- Neither the bookings nor their seats have changed, either. -/
structure Unmoved (s s' : History) : Prop extends Unswept s s' where
  /-- the bookings are as they were -/
  bookings : s'.world.db.bookings = s.world.db.bookings
  /-- so are their seats -/
  seats : s'.world.db.bookingSeats = s.world.db.bookingSeats

theorem Unswept.refl (s : History) : Unswept s s := ⟨rfl, le_rfl, fun _ h => h⟩

theorem Unmoved.refl (s : History) : Unmoved s s := ⟨.refl s, rfl, rfl⟩

/-- Time passes, or the source serves a new catalogue. -/
theorem World.happen_eq {e : Happening} {w w' : World} (h : World.happen e w = some w') :
    w'.db = w.db ∧ w'.lastManifestSweepAt = w.lastManifestSweepAt ∧ w.clock ≤ w'.clock := by
  cases e with
  | tick ms =>
    obtain rfl := Option.some.inj h
    refine ⟨rfl, rfl, ?_⟩
    dsimp only
    omega
  | publish source =>
    obtain rfl := Option.some.inj h
    exact ⟨rfl, rfl, le_rfl⟩

theorem Unswept.env (s₀ : History) : EnvStable (calm d) (Unswept s₀) := by
  intro s e w henv h
  obtain ⟨-, hnoted, hclock⟩ := World.happen_eq henv
  exact ⟨hnoted.trans h.noted, h.clock.trans hclock, h.called⟩

theorem Unmoved.env (s₀ : History) : EnvStable (calm d) (Unmoved s₀) := by
  intro s e w henv h
  have hdb := (World.happen_eq henv).1
  refine ⟨Unswept.env (d := d) s₀ s e w henv h.toUnswept, ?_, ?_⟩
  · rw [hdb]
    exact h.bookings
  · rw [hdb]
    exact h.seats

/-- Only a sweep notes itself. -/
theorem World.exec_noted {o : Choice} {process : ℕ} {w w' : World} {op : Op} {r : Resp op}
    (h : w.exec d process o op = some (w', r)) (hop : ∀ nowMs, op ≠ .manifestSweepDue nowMs) :
    w'.lastManifestSweepAt = w.lastManifestSweepAt := by
  cases op with
  | transaction t =>
    simp only [World.exec] at h
    split at h <;> obtain ⟨rfl, -⟩ := Prod.mk.inj (Option.some.inj h) <;> rfl
  | manifestSweepDue nowMs => exact absurd rfl (hop nowMs)
  | enterConfirmation key =>
    simp only [World.exec] at h
    split at h <;> obtain ⟨rfl, -⟩ := Prod.mk.inj (Option.some.inj h) <;> rfl
  | awaitConfirmation promise =>
    simp only [World.exec] at h
    split at h
    · obtain ⟨rfl, -⟩ := Prod.mk.inj (Option.some.inj h)
      rfl
    · cases h
  | _ =>
    obtain ⟨rfl, -⟩ := Prod.mk.inj (Option.some.inj h)
    rfl

/-- An operation that is not the start of a sweep. -/
def NeverSweeps (op : Op) : Prop := ∀ nowMs, op ≠ .manifestSweepDue nowMs

theorem NeverSweeps.of_incidental (op : Op) (h : Incidental op) : NeverSweeps op := by
  rintro nowMs rfl
  exact h

theorem Unswept.perform {op : Op} {r : Resp op} (h : Unswept s₀ s) (hop : NeverSweeps op)
    (hdoes : Does (calm d) i req op s r s') :
    Unswept s₀ s' := by
  obtain ⟨id, w, hexec, rfl⟩ := hdoes
  refine ⟨(World.exec_noted hexec hop).trans h.noted, ?_, ?_⟩
  · rw [(World.exec_clock hexec).1]
    exact h.clock
  · rintro nowMs ⟨e, he, hsame⟩
    rcases List.mem_cons.mp he with rfl | he
    · exact absurd hsame (hop nowMs)
    · exact h.called nowMs ⟨e, he, hsame⟩

/-- An operation that is incidental, or takes a hold. -/
def LeavesBookings (op : Op) : Prop :=
  Incidental op ∨ ∃ params, op = .transaction (.acquireHold params)

/-- It leaves the bookings and their seats alone. -/
theorem Transaction.leavesBookings {t : Transaction} {raw : String} {a : t.Answer}
    (h : t.run raw db = .ok (a, db')) (hop : LeavesBookings (.transaction t)) :
    db'.bookings = db.bookings ∧ db'.bookingSeats = db.bookingSeats := by
  cases t with
  | sweepExpiredHolds serviceId travelDate nowMs =>
    have hswept := sweepExpiredHolds_ok h
    exact ⟨hswept.bookings, hswept.seats⟩
  | sweepExpiredHoldsForServices serviceIds travelDate nowMs =>
    have hswept := sweepExpiredHoldsForServices_ok h
    exact ⟨hswept.bookings, hswept.seats⟩
  | acquireHold params =>
    cases acquireHold_ok h with
    | reused hswept _ _ => exact ⟨hswept.bookings, hswept.seats⟩
    | taken hswept _ hreleased _ hinserted _ =>
      refine ⟨?_, ?_⟩
      · rw [hinserted.bookings, hreleased.bookings, hswept.bookings]
      · rw [hinserted.bookingSeats, hreleased.seats, hswept.seats]
  | saveRefundQuote draft =>
    obtain ⟨-, -, hbookings, hseats, -⟩ := saveRefundQuote_ok h
    exact ⟨hbookings, hseats⟩
  | _ => rcases hop with hop | ⟨params, hop⟩ <;> cases hop

theorem Unmoved.perform {op : Op} {r : Resp op} (h : Unmoved s₀ s) (hop : LeavesBookings op)
    (hdoes : Does (calm d) i req op s r s') : Unmoved s₀ s' := by
  have hnever : ∀ nowMs, op ≠ .manifestSweepDue nowMs := by
    rintro nowMs rfl
    rcases hop with hop | ⟨params, hop⟩ <;> cases hop
  have hunswept := h.toUnswept.perform hnever hdoes
  obtain ⟨id, w, hexec, rfl⟩ := hdoes
  rcases World.exec_db hexec with ⟨hdb, -⟩ | ⟨t, a, heq, hrun⟩
  · exact ⟨hunswept, hdb.symm ▸ h.bookings, hdb.symm ▸ h.seats⟩
  · cases heq
    obtain ⟨hbookings, hseats⟩ := Transaction.leavesBookings hrun hop
    exact ⟨hunswept, hbookings.trans h.bookings, hseats.trans h.seats⟩

/-- A handler that leaves the bookings alone. -/
theorem Unmoved.acts {α : Type} {x : Act α} (h : Unmoved s₀ s)
    (hx : Handler.Acts LeavesBookings x) :
    Handler.wp (calm d) i req (fun _ => Unmoved s₀) (fun _ => Unmoved s₀) x s :=
  hx.alone (Unmoved.env s₀) (fun hs hop hdoes => hs.perform hop hdoes) h

/-- A transaction runs whole, or the bookings are as they were. -/
theorem wp_transact_unswept {t : Transaction} {ok : t.Answer → History → Prop}
    {err : Failure → History → Prop}
    (hok : ∀ raw a s₁, Unswept s s₁ → t.run raw s.world.db = .ok (a, s₁.world.db) → ok a s₁)
    (herr : ∀ raw e s₁, Unmoved s s₁ → t.run raw s.world.db = .error e → err e s₁) :
    Handler.wp (calm d) i req ok err (transact t) s := by
  refine wp_perform fun s₁ r s₂ hpasses hdoes => ?_
  have hunmoved := hpasses.stable (Unmoved.env s) (.refl s)
  have hunswept := hunmoved.toUnswept.perform (fun _ h => by cases h) hdoes
  have hdb : s₁.world.db = s.world.db := (Idle.of_passes hpasses).db
  obtain ⟨raw, w, hexec, rfl⟩ := hdoes
  change World.exec d req.process ⟨raw, none⟩ s₁.world (.transaction t) = some (w, r) at hexec
  simp only [World.exec, hdb] at hexec
  cases hrun : t.run raw s.world.db with
  | error e =>
    rw [hrun] at hexec
    obtain ⟨rfl, rfl⟩ := Prod.mk.inj (Option.some.inj hexec)
    exact herr raw e _ ⟨hunswept, hunmoved.bookings, hunmoved.seats⟩ hrun
  | ok p =>
    rw [hrun] at hexec
    obtain ⟨rfl, rfl⟩ := Prod.mk.inj (Option.some.inj hexec)
    exact hok raw p.1 _ hunswept hrun

/-! ## What holds between two requests -/

/-- The retention, in milliseconds. -/
def Deployment.retentionMs (d : Deployment) : ℤ :=
  d.reservation.manifestRetentionDays * dayMilliseconds

theorem Deployment.retentionMs_nonneg (d : Deployment) : 0 ≤ d.retentionMs := by
  have hrange := d.reservation.retention_range.1
  rw [retentionMs, dayMilliseconds]
  omega

/-- How late a sweep may come: an interval that is negative throttles no more than none. -/
def Deployment.sweepLagMs (d : Deployment) : ℤ := max 0 d.manifestSweepIntervalMs

/-- What holds of a run whose requests are served one after another. -/
structure InTime (d : Deployment) (s : History) : Prop where
  /-- every booking is cleared or can be swept -/
  inStep : s.world.db.InStep
  /-- a process swept in the past -/
  past : ∀ p t, s.world.lastManifestSweepAt p = some t → t ≤ s.world.clock
  /-- and what was past its retention then is cleared -/
  swept : ∀ p t, s.world.lastManifestSweepAt p = some t →
    s.world.db.ClearedBefore (t - d.retentionMs)
  /-- a sweep was called at most one interval after one that was not throttled -/
  called : ∀ nowMs, Called s nowMs →
    ∃ p t, s.world.lastManifestSweepAt p = some t ∧ nowMs - d.sweepLagMs ≤ t

theorem InTime.initial (clock : ℤ) (source : Source) :
    InTime d ⟨World.initial clock source, []⟩ := by
  refine ⟨fun row hrow => absurd hrow List.not_mem_nil, fun p t h => (by cases h),
    fun p t h => (by cases h), ?_⟩
  rintro nowMs ⟨e, he, -⟩
  exact absurd he List.not_mem_nil

/-- What calls no sweep keeps it, where the bookings are kept. -/
theorem InTime.unswept (h : InTime d s) (hunswept : Unswept s s')
    (hinStep : s'.world.db.InStep) (hcleared : ∀ p t, s.world.lastManifestSweepAt p = some t →
      s.world.db.ClearedBefore (t - d.retentionMs) →
        s'.world.db.ClearedBefore (t - d.retentionMs)) : InTime d s' := by
  refine ⟨hinStep, fun p t hnoted => ?_, fun p t hnoted => ?_, fun nowMs hcalled => ?_⟩
  · rw [hunswept.noted] at hnoted
    exact (h.past p t hnoted).trans hunswept.clock
  · rw [hunswept.noted] at hnoted
    exact hcleared p t hnoted (h.swept p t hnoted)
  · rw [hunswept.noted]
    exact h.called nowMs (hunswept.called nowMs hcalled)

theorem InTime.carried (h : InTime d s) (hunswept : Unswept s s')
    (hcarries : s.world.db.Carries s'.world.db) : InTime d s' :=
  h.unswept hunswept (hcarries.inStep h.inStep) fun _ _ _ => hcarries.clearedBefore

theorem InTime.unmoved (h : InTime d s) (hunmoved : Unmoved s s') : InTime d s' :=
  h.carried hunmoved.toUnswept (carries_of_eq hunmoved.bookings hunmoved.seats)

theorem InTime.env : EnvStable (calm d) (InTime d) := by
  intro s e w henv h
  exact h.unmoved (Unmoved.env (d := d) s s e w henv (.refl s))

theorem InTime.perform {op : Op} {r : Resp op} (h : InTime d s) (hop : LeavesBookings op)
    (hdoes : Does (calm d) i req op s r s') : InTime d s' :=
  h.unmoved ((Unmoved.refl s).perform hop hdoes)

/-- A handler that leaves the bookings alone keeps it. -/
theorem InTime.acts {α : Type} {x : Act α} (h : InTime d s)
    (hx : Handler.Acts LeavesBookings x) :
    Handler.wp (calm d) i req (fun _ => InTime d) (fun _ => InTime d) x s :=
  hx.alone InTime.env (fun hs hop hdoes => hs.perform hop hdoes) h

/-- A confirm keeps it, of a departure that is not before the retention of any sweep. -/
theorem InTime.booked {params : ConfirmBooking} (h : InTime d s) (hunswept : Unswept s s')
    (hbooked : HoldBooked params s.world.db s'.world.db) (hseats : params.seats ≠ [])
    (horder : params.order.Clearable) (hdeparture : ∀ p t,
      s.world.lastManifestSweepAt p = some t → t - d.retentionMs ≤ params.departureAt) :
    InTime d s' :=
  h.unswept hunswept (hbooked.inStep hseats horder h.inStep) fun p t hnoted hcleared =>
    hbooked.clearedBefore (hdeparture p t hnoted) hcleared

/-! ### A sweep -/

/-- A process noted that it swept at an instant, and no other sweep was called. -/
structure SweepNoted (process : ℕ) (nowMs : ℤ) (s s' : History) : Prop where
  /-- the note -/
  noted : s'.world.lastManifestSweepAt process = some nowMs
  /-- the notes of the other processes are as they were -/
  others : ∀ p, p ≠ process → s'.world.lastManifestSweepAt p = s.world.lastManifestSweepAt p
  /-- the clock has not gone back -/
  clock : s.world.clock ≤ s'.world.clock
  /-- no other sweep was called -/
  called : ∀ t, Called s' t → t = nowMs ∨ Called s t

theorem SweepNoted.unswept {process : ℕ} {nowMs : ℤ} (h : SweepNoted process nowMs s₀ s)
    (hunswept : Unswept s s') : SweepNoted process nowMs s₀ s' := by
  refine ⟨?_, fun p hp => ?_, h.clock.trans hunswept.clock,
    fun t hcalled => h.called t (hunswept.called t hcalled)⟩
  · rw [hunswept.noted]
    exact h.noted
  · rw [hunswept.noted]
    exact h.others p hp

/-- A note is the new one or an old one. -/
theorem SweepNoted.cases {process p : ℕ} {nowMs t : ℤ} (h : SweepNoted process nowMs s s')
    (hp : s'.world.lastManifestSweepAt p = some t) :
    t = nowMs ∨ s.world.lastManifestSweepAt p = some t := by
  by_cases hsame : p = process
  · subst hsame
    exact Or.inl (Option.some.inj (hp.symm.trans h.noted))
  · exact Or.inr ((h.others p hsame).symm.trans hp)

/-- A sweep that cleared what it should. -/
theorem InTime.sweptAt {process : ℕ} {nowMs : ℤ} (h : InTime d s)
    (hpast : ∀ p t, s.world.lastManifestSweepAt p = some t → t ≤ nowMs)
    (hclock : nowMs ≤ s.world.clock) (hnoted : SweepNoted process nowMs s s')
    (hcarries : s.world.db.Carries s'.world.db)
    (hcleared : s'.world.db.ClearedBefore (nowMs - d.retentionMs)) : InTime d s' := by
  refine ⟨hcarries.inStep h.inStep, fun p t hp => ?_, fun p t hp => ?_, fun t hcalled => ?_⟩
  · rcases hnoted.cases hp with rfl | hp
    · exact hclock.trans hnoted.clock
    · exact (h.past p t hp).trans hnoted.clock
  · rcases hnoted.cases hp with rfl | hp
    · exact hcleared
    · exact hcarries.clearedBefore (h.swept p t hp)
  · have hlag : 0 ≤ d.sweepLagMs := le_max_left ..
    rcases hnoted.called t hcalled with rfl | hcalled
    · exact ⟨process, t, hnoted.noted, by omega⟩
    · obtain ⟨p, t', hp, hle⟩ := h.called t hcalled
      by_cases hsame : p = process
      · -- the note is newer than the one it replaces
        exact ⟨process, nowMs, hnoted.noted, hle.trans (hpast p t' hp)⟩
      · exact ⟨p, t', (hnoted.others p hsame).trans hp, hle⟩

/-- A sweep that is throttled was preceded by another within the interval. -/
theorem isSweepDue_false {last : Option ℤ} {nowMs intervalMs : ℤ}
    (h : isSweepDue last nowMs intervalMs = false) :
    ∃ t, last = some t ∧ nowMs - t < intervalMs := by
  cases last with
  | none => cases h
  | some t =>
    simp only [isSweepDue, Bool.not_eq_false', Bool.and_eq_true, decide_eq_true_eq] at h
    exact ⟨t, rfl, h.2⟩

theorem InTime.throttled {process : ℕ} {nowMs : ℤ} {e : Entry Op Resp} (h : InTime d s)
    (he : e.op = .manifestSweepDue nowMs)
    (hdue : isSweepDue (s.world.lastManifestSweepAt process) nowMs d.manifestSweepIntervalMs =
      false) : InTime d ⟨s.world, e :: s.trace⟩ := by
  refine ⟨h.inStep, h.past, h.swept, ?_⟩
  rintro t ⟨e', he', hsame⟩
  rcases List.mem_cons.mp he' with rfl | he'
  · rw [he] at hsame
    injection hsame with hsame
    subst hsame
    obtain ⟨last, hlast, hlt⟩ := isSweepDue_false hdue
    have hlag : d.manifestSweepIntervalMs ≤ d.sweepLagMs := le_max_right ..
    exact ⟨process, last, hlast, by omega⟩
  · exact h.called t ⟨e', he', hsame⟩

/-- What is done where a sweep is due: nothing stops it from clearing what it finds. -/
theorem clearStale_inTime {nowMs : ℤ} (h : InTime d s₀)
    (hpast : ∀ p t, s₀.world.lastManifestSweepAt p = some t → t ≤ nowMs)
    (hclock : nowMs ≤ s₀.world.clock) (hnoted : SweepNoted req.process nowMs s₀ s)
    (hdb : s.world.db = s₀.world.db) :
    Handler.wp (calm d) i req (fun _ => InTime d) (fun _ => InTime d)
      (do
        let stale ← attempt (Prog.perform (Op.staleManifests (nowMs - d.retentionMs)))
        if stale.length = 0 then return 0
        transact (.clearManifests stale)
        return stale.length) s := by
  rw [Handler.wp_bind]
  refine wp_perform fun s₁ stale s₂ hpasses hdoes => ?_
  have hunswept : Unswept s s₂ :=
    (hpasses.stable (Unswept.env s) (.refl s)).perform (fun _ h => by cases h) hdoes
  have hdb₁ : s₁.world.db = s₀.world.db := (Idle.of_passes hpasses).db.trans hdb
  obtain ⟨id, w, hexec, rfl⟩ := hdoes
  obtain ⟨rfl, rfl⟩ := Prod.mk.inj (Option.some.inj hexec)
  simp only [Choice.read, ends_ok, hdb₁] at hunswept ⊢
  split
  · -- there is nothing to clear
    rename_i hnone
    refine h.sweptAt hpast hclock (hnoted.unswept hunswept) (carries_of_eq ?_ ?_) ?_
    · rw [hdb₁]
    · rw [hdb₁]
    · intro row hrow hlt
      rw [hdb₁] at hrow ⊢
      refine h.inStep.cleared_of_not_stale hrow hlt ?_
      rw [List.eq_nil_of_length_eq_zero hnone]
      exact List.not_mem_nil
  · rw [Handler.wp_bind]
    refine wp_transact_unswept (fun raw u s₃ hunswept₃ hrun => ?_) fun raw e s₃ _ hrun => ?_
    · rw [hdb₁] at hrun
      obtain ⟨orders, hcleared⟩ := clearManifests_ok hrun
      exact h.sweptAt hpast hclock ((hnoted.unswept hunswept).unswept hunswept₃)
        (hcleared.carries h.inStep) (hcleared.clearedBefore h.inStep)
    · obtain ⟨db', hgoes⟩ := clearManifests_goes (fun entry hentry =>
        (h.inStep.stale_clears hentry).imp fun order' hok => hok.1) s₁.world.db
      cases hgoes.symm.trans hrun

/-- **A sweep keeps it**, whether it is throttled or not. -/
theorem sweepManifests_inTime {nowMs : ℤ} (h : InTime d s)
    (hpast : ∀ p t, s.world.lastManifestSweepAt p = some t → t ≤ nowMs)
    (hclock : nowMs ≤ s.world.clock) :
    Handler.wp (calm d) i req (fun _ => InTime d) (fun _ => InTime d)
      (sweepManifests nowMs d.reservation.manifestRetentionDays) s := by
  rw [sweepManifests, Handler.wp_bind]
  refine wp_perform fun s₁ due s₂ hpasses hdoes => ?_
  obtain ⟨id, w, hexec, rfl⟩ := hdoes
  have hunmoved := hpasses.stable (Unmoved.env s) (.refl s)
  have h₁ := h.unmoved hunmoved
  change World.exec d req.process ⟨id, none⟩ s₁.world (.manifestSweepDue nowMs) = _ at hexec
  simp only [World.exec] at hexec
  split at hexec
  · obtain ⟨rfl, rfl⟩ := Prod.mk.inj (Option.some.inj hexec)
    refine clearStale_inTime h₁ (hunmoved.noted ▸ hpast) (hclock.trans hunmoved.clock)
      ⟨if_pos rfl, fun p hp => if_neg hp, le_rfl, ?_⟩ rfl
    rintro t ⟨e, he, hsame⟩
    rcases List.mem_cons.mp he with rfl | he
    · injection hsame with hsame
      exact Or.inl hsame.symm
    · exact Or.inr ⟨e, he, hsame⟩
  · rename_i hdue
    obtain ⟨rfl, rfl⟩ := Prod.mk.inj (Option.some.inj hexec)
    exact h₁.throttled rfl (Bool.eq_false_iff.mpr hdue)

/-! ### The handlers -/

/-- The clock answers what it shows. -/
theorem wp_now_unmoved {ok : ℤ → History → Prop} {err : Failure → History → Prop}
    (h : ∀ nowMs s₁, Unmoved s s₁ → s.world.clock ≤ nowMs → nowMs ≤ s₁.world.clock →
      ok nowMs s₁) :
    Handler.wp (calm d) i req ok err (perform .now) s := by
  refine wp_perform fun s₁ nowMs s₂ hpasses hdoes => ?_
  have hunmoved := hpasses.stable (Unmoved.env s) (.refl s)
  have hnow := hunmoved.perform (Or.inl (show Incidental .now from trivial)) hdoes
  obtain ⟨id, w, hexec, rfl⟩ := hdoes
  obtain ⟨rfl, rfl⟩ := Prod.mk.inj (Option.some.inj hexec)
  exact h _ _ hnow hunmoved.clock le_rfl

/-- A handler that sweeps between two parts that leave the bookings alone. -/
theorem InTime.sweeps {α : Type} {x : Act α} (h : InTime d s)
    (hx : SweepsBetween d LeavesBookings x) :
    Handler.wp (calm d) i req (fun _ => InTime d) (fun _ => InTime d) x s := by
  obtain ⟨β, before, after, hbefore, hafter, rfl⟩ := hx
  rw [Handler.wp_bind]
  refine Handler.wp_mono (fun b s₁ h₁ => ?_) (fun _ _ h₁ => h₁) (h.acts hbefore)
  rw [Handler.wp_bind]
  refine wp_now_unmoved fun nowMs s₂ hunmoved hge hle => ?_
  rw [Handler.wp_bind]
  refine Handler.wp_mono (fun n s₃ h₃ => h₃.acts (hafter b nowMs)) (fun _ _ h₃ => h₃)
    (sweepManifests_inTime (h₁.unmoved hunmoved) (fun p t hp => ?_) hle)
  rw [hunmoved.noted] at hp
  exact (h₁.past p t hp).trans hge

/-- A sweep by the clock. -/
def sweepNow (d : Deployment) : Act Unit := do
  let nowMs ← perform .now
  let _ ← sweepManifests nowMs d.reservation.manifestRetentionDays
  return ()

theorem sweepNow_sweeps : SweepsBetween d LeavesBookings (sweepNow d) :=
  ⟨Unit, pure (), fun _ _ => pure (), Handler.acts_pure _, fun _ _ => Handler.acts_pure _, rfl⟩

theorem Incidental.leavesBookings (op : Op) (h : Incidental op) : LeavesBookings op := Or.inl h

/-- A commitment leaves the bookings alone where it fails, and otherwise carries them over. -/
theorem confirmCancel_inTime {booking : BookingRecord} {target : List BookingSeatRow}
    {tags : Option (List BuyerTag)} (h : InTime d s₀) (hidle : Idle s₀ s)
    (hunswept : Unswept s₀ s) (hlive : confirmedOf target ≠ [])
    (hexists : ∃ row ∈ s₀.world.db.bookings.rows, row.id = booking.id) :
    Handler.wp (calm d) i req (fun _ => InTime d) (fun _ => InTime d)
      (confirmCancel booking target tags) s := by
  have hsweeps : Handler.Acts NeverSweeps (confirmCancel booking target tags) :=
    confirmCancel_acts NeverSweeps.of_incidental (fun _ _ h => by cases h)
      (fun _ _ _ h => by cases h) booking target tags
  have hends := Handler.wp_and
    (hsweeps.alone (Unswept.env s₀) (fun hs hop hdoes => hs.perform hop hdoes) hunswept)
    (@confirmCancel_wp d i req s booking target tags s₀ hidle hlive hexists)
  refine Handler.wp_mono ?_ ?_ hends
  · rintro answer s₁ ⟨hunswept₁, nowMs, -, -, -, hend⟩
    exact h.carried hunswept₁ hend.carries
  · rintro e s₁ ⟨hunswept₁, nowMs, -, -, -, hend⟩
    exact h.carried hunswept₁ hend.carries

theorem cancel_inTime {context : ReservedContext} {orderId : String} {step : CancelStep}
    {tags : Option (List BuyerTag)} (h : InTime d s) :
    Handler.wp (calm d) i req (fun _ => InTime d) (fun _ => InTime d)
      (cancel d context orderId step tags) s := by
  rw [cancel, Handler.wp_bind, Handler.wp_lift]
  cases assertBppAddress d context with
  | error e => exact h
  | ok u =>
    have hfinds : Handler.wp (calm d) i req (fun booking s₁ => Idle s s₁ ∧
        s.world.db.bookingFound d.operatorKey context.bapId context.bapUri orderId = some booking)
          (fun _ _ => True) (findBookingOrRefuse d context orderId) s :=
      findBookingOrRefuse_wp (fun booking s₁ hidle hfound => ⟨hidle, hfound⟩) fun _ _ => trivial
    rw [ends_ok, Handler.wp_bind]
    refine Handler.wp_mono ?_ (fun e s₁ hend => h.unmoved hend.1) (Handler.wp_and
      ((Unmoved.refl s).acts (findBookingOrRefuse_acts Incidental.leavesBookings context orderId))
      hfinds)
    rintro booking s₁ ⟨hunmoved, hidle, hfound⟩
    have h₁ : InTime d s₁ := h.unmoved hunmoved
    rw [Handler.wp_bind, Handler.wp_lift]
    cases targetSeats booking (seatIdsFrom tags) with
    | error e => exact h₁
    | ok target =>
      rw [ends_ok]
      cases step with
      | soft => exact h₁.acts (softCancel_acts Incidental.leavesBookings booking target)
      | confirm =>
        dsimp only
        by_cases hlive : confirmedOf target = []
        · rw [confirmCancel, hlive, if_pos List.length_nil, Handler.wp_bind, Handler.wp_lift]
          cases storedRefund booking <;> exact h₁
        · obtain ⟨row, hrow, rfl⟩ := Option.map_eq_some_iff.mp hfound
          exact confirmCancel_inTime h hidle hunmoved.toUnswept hlive
            ⟨row, List.mem_of_find?_eq_some hrow, rfl⟩

/-! #### Confirms -/

/-- The booking window is closed once a departure is gone. -/
theorem assertWindowOpen_ok {departureAt nowMs : ℤ} {u : Unit}
    (h : assertWindowOpen d departureAt nowMs = .ok u) : nowMs ≤ departureAt := by
  obtain ⟨verdict, hverdict, h⟩ := Except.bind_ok.mp h
  rw [windowStatus, bookingWindowStatus] at hverdict
  dsimp only at hverdict
  have hclose := d.reservation.close_range.1
  split at hverdict
  · obtain ⟨text, -, hverdict⟩ := Except.bind_ok.mp hverdict
    obtain rfl := Except.ok.inj hverdict
    cases h
  · rename_i hopen
    rw [minuteMilliseconds] at hopen
    omega

/-- A departure is resolved before it is gone. -/
theorem resolveSelection_departs {input : OrderInput} : Handler.wp (calm d) i req
    (fun resolved _ => s.world.clock ≤ resolved.departureAt) (fun _ _ => True)
      (resolveSelection d input) s := by
  rw [resolveSelection, Handler.wp_bind, Handler.wp_lift]
  cases selectedItem d input with
  | error e => trivial
  | ok item =>
    rw [ends_ok, Handler.wp_bind]
    refine wp_read (fun w => .ok (w.source.service item.serviceId)) (fun _ _ => rfl)
      fun s₁ hidle₁ => ?_
    rw [ends_ok, Handler.wp_bind, Handler.wp_lift]
    cases serviceOf item (s₁.world.source.service item.serviceId) with
    | error e => trivial
    | ok service =>
      rw [ends_ok, Handler.wp_bind, Handler.wp_lift]
      cases stopInstantMilliseconds item.travelDate service.departureMinute 0 with
      | error e => trivial
      | ok departureAt =>
        rw [ends_ok, Handler.wp_bind]
        refine wp_now fun s₂ hidle₂ => ?_
        rw [Handler.wp_bind, Handler.wp_lift]
        cases hopen : assertWindowOpen d departureAt s₂.world.clock with
        | error e => trivial
        | ok u =>
          have hdeparture := assertWindowOpen_ok hopen
          have hclock₁ : s.world.clock ≤ s₁.world.clock := hidle₁.clock
          have hclock₂ : s₁.world.clock ≤ s₂.world.clock := hidle₂.clock
          rw [ends_ok, Handler.wp_bind]
          refine Handler.wp_mono (fun seatMap s₃ _ => ?_) (fun _ _ h => h) Handler.wp_trivial
          rw [Handler.wp_bind]
          refine Handler.wp_mono (fun fareTable s₄ _ => ?_) (fun _ _ h => h) Handler.wp_trivial
          exact (hclock₁.trans hclock₂).trans hdeparture

/-- A hold has seats, so a manifest that matches one names somebody. -/
theorem liveHoldAndManifest_names {resolved : Resolved} {identity : ReservedIdentity}
    {input : OrderInput} : Handler.wp (calm d) i req (fun held _ => held.2 ≠ []) (fun _ _ => True)
      (liveHoldAndManifest d resolved identity input) s := by
  rw [liveHoldAndManifest, Handler.wp_bind]
  refine Handler.wp_mono (fun nowMs s₁ _ => ?_) (fun _ _ h => h) Handler.wp_trivial
  rw [Handler.wp_bind]
  refine Handler.wp_mono (fun swept s₂ _ => ?_) (fun _ _ h => h) Handler.wp_trivial
  rw [Handler.wp_bind]
  refine wp_read (fun w => .ok (w.db.findLatestHold d.operatorKey identity)) (fun _ _ => rfl)
    fun s₃ _ => ?_
  rw [ends_ok, Handler.wp_bind, Handler.wp_lift]
  cases hlive : assertHoldLive resolved (s₃.world.db.findLatestHold d.operatorKey identity)
      nowMs with
  | error e => trivial
  | ok hold =>
    rw [ends_ok, Handler.wp_bind, Handler.wp_lift]
    cases hmanifest : manifestFor hold input.tags with
    | error e => trivial
    | ok records =>
      have hnamed : records ≠ [] := by
        obtain ⟨seatId, rest, hcons⟩ := List.exists_cons_of_ne_nil
          (findLatestHold_seatIds (assertHoldLive_ok hlive).1)
        have hseat := ((manifestFor_ok hmanifest).2 seatId).mpr (hcons ▸ List.mem_cons_self)
        rintro rfl
        cases hseat
      rw [ends_ok, Handler.wp_bind]
      refine Handler.wp_mono (fun claims s₄ _ => ?_) (fun _ _ h => h) Handler.wp_trivial
      rw [Handler.wp_bind]
      refine Handler.wp_mono (fun view s₅ _ => ?_) (fun _ _ h => h) Handler.wp_trivial
      rw [Handler.wp_bind]
      exact Handler.wp_mono (fun _ s₆ _ => hnamed) (fun _ _ h => h) Handler.wp_trivial

/-- An order that is built is rendered from some snapshot. -/
theorem buildOrder_renders {input : BuildOrder} : Handler.wp (calm d) i req
    (fun order _ => ∃ snapshot, renderOrder d input snapshot = .ok order) (fun _ _ => True)
      (buildOrder d input) s := by
  rw [buildOrder, Handler.wp_bind]
  refine Handler.wp_mono (fun snapshot s₁ _ => ?_) (fun _ _ h => h) Handler.wp_trivial
  rw [Handler.wp_lift]
  cases hrender : renderOrder d input snapshot with
  | error e => trivial
  | ok order => exact ⟨snapshot, hrender⟩

theorem commitBooking_inTime {params : ConfirmBooking} (h : InTime d s)
    (hseats : params.seats ≠ []) (horder : params.order.Clearable) (hdeparture : ∀ p t,
      s.world.lastManifestSweepAt p = some t → t - d.retentionMs ≤ params.departureAt) :
    Handler.wp (calm d) i req (fun _ => InTime d) (fun _ => InTime d) (commitBooking params) s := by
  rw [commitBooking, Handler.wp_bind, Handler.wp_tryCatch, Handler.wp_bind]
  refine wp_transact_unswept (fun raw u s₁ hunswept hrun => ?_) fun raw e s₁ hunmoved hrun => ?_
  · have h₁ : InTime d s₁ := h.booked hunswept (confirmBooking_ok hrun) hseats horder hdeparture
    rw [Handler.wp_pure]
    refine h₁.acts (Handler.acts_bind (findBooking_acts Incidental.leavesBookings _ _ _ _)
      fun found => ?_)
    cases found with
    | none => exact Handler.acts_throw _
    | some booking => exact Handler.acts_pure _
  · have h₁ : InTime d s₁ := h.unmoved hunmoved
    rcases e with e | - | message
    · exact h₁
    · dsimp only
      rw [Handler.wp_bind]
      refine Handler.wp_mono (fun found s₂ h₂ => ?_) (fun _ _ h₂ => h₂)
        (h₁.acts (findBookingByTransaction_acts Incidental.leavesBookings _ _))
      cases found with
      | none => exact h₂
      | some booking => exact h₂
    · exact h₁

/-- **A confirm keeps it**, where what the buyer sends along can be cleared. -/
theorem confirmNew_inTime {context : ReservedContext} {input : OrderInput} (h : InTime d s)
    (hclear : input.Clearable) : Handler.wp (calm d) i req (fun _ => InTime d) (fun _ => InTime d)
      (confirmNew d context input) s := by
  rw [confirmNew, Handler.wp_bind]
  refine Handler.wp_mono ?_ (fun e s₁ hend => h.unmoved hend.1) (Handler.wp_and
    ((Unmoved.refl s).acts (resolveSelection_acts Incidental.leavesBookings input))
    resolveSelection_departs)
  rintro resolved s₁ ⟨h₁, hdeparture⟩
  dsimp only
  rw [Handler.wp_bind]
  refine Handler.wp_mono ?_ (fun e s₂ hend => h.unmoved hend.1) (Handler.wp_and
    (h₁.acts (liveHoldAndManifest_acts Incidental.leavesBookings _ _ _))
    liveHoldAndManifest_names)
  rintro ⟨hold, records⟩ s₂ ⟨h₂, hnamed⟩
  dsimp only at hnamed ⊢
  rw [Handler.wp_bind, Handler.wp_lift]
  cases boardingPairFromStops resolved.service (stopsOf input) with
  | error e => exact h.unmoved h₂
  | ok pair =>
    rw [ends_ok, Handler.wp_bind, Handler.wp_lift]
    cases fareCell resolved.fareTable pair resolved.service.serviceClass with
    | error e => exact h.unmoved h₂
    | ok cell =>
      rw [ends_ok, Handler.wp_bind]
      refine Handler.wp_mono (fun nowMs s₃ h₃ => ?_) (fun e s₃ h₃ => h.unmoved h₃)
        (h₂.acts (acts_perform (Or.inl trivial)))
      rw [Handler.wp_bind]
      refine Handler.wp_mono (fun raw s₄ h₄ => ?_) (fun e s₄ h₄ => h.unmoved h₄)
        (h₃.acts (acts_perform (Or.inl trivial)))
      rw [Handler.wp_bind]
      refine Handler.wp_mono ?_ (fun e s₅ hend => h.unmoved hend.1) (Handler.wp_and
        (h₄.acts (buildOrder_acts Incidental.leavesBookings _)) buildOrder_renders)
      rintro order s₅ ⟨h₅, snapshot, hrender⟩
      rw [Handler.wp_bind]
      refine Handler.wp_mono (fun booking s₆ h₆ => ?_) (fun _ _ h₆ => h₆)
        (commitBooking_inTime (h.unmoved h₅) ?_ (clearable_of_render hrender hclear) ?_)
      · exact h₆.acts (Handler.acts_bind (acts_perform (Or.inl trivial)) fun _ =>
          Handler.acts_pure _)
      · rw [newBooking]
        simpa using hnamed
      · intro p t hp
        rw [h₅.noted] at hp
        have hpast : t ≤ resolved.departureAt := (h.past p t hp).trans hdeparture
        have hretention : 0 ≤ d.retentionMs := d.retentionMs_nonneg
        change t - d.retentionMs ≤ resolved.departureAt
        omega

/-- Every confirm sends along only what can be cleared. -/
def SendsClearable (req : Request) : Prop :=
  ∀ context input, req.action = .confirm context input → input.Clearable

theorem confirm_inTime {context : ReservedContext} {input : OrderInput} (h : InTime d s)
    (hclear : input.Clearable) : Handler.wp (calm d) i req (fun _ => InTime d) (fun _ => InTime d)
      (confirm d context input) s := by
  rw [confirm, Handler.wp_bind, Handler.wp_lift]
  cases assertBppAddress d context with
  | error e => exact h
  | ok u =>
    rw [ends_ok, Handler.wp_bind, Handler.wp_lift]
    cases assertPaymentStatus input.payments "PAID" with
    | error e => exact h
    | ok u =>
      rw [ends_ok, Handler.wp_bind]
      refine Handler.wp_mono (fun existing s₁ h₁ => ?_) (fun _ _ h₁ => h₁)
        (h.acts (findBookingByTransaction_acts Incidental.leavesBookings _ _))
      cases existing with
      | some existing => exact h₁
      | none =>
        dsimp only
        rw [Handler.wp_bind]
        refine Handler.wp_mono (fun entered s₂ h₂ => ?_) (fun _ _ h₂ => h₂)
          (h₁.acts (acts_perform (Or.inl trivial)))
        cases entered with
        | joined promise =>
          exact h₂.acts (Handler.acts_bind (acts_attempt ⟨Or.inl trivial, fun _ => trivial⟩)
            fun _ => Handler.acts_pure _)
        | created promise =>
          have hsettle : ∀ result s₃, InTime d s₃ → Handler.wp (calm d) i req
              (fun _ => InTime d) (fun _ => InTime d) (do
                perform (.settleConfirmation promise result)
                perform (.leaveConfirmation (d.operatorKey, identityOf context) promise)
                let booking ← (result : Except Failure BookingRecord)
                return Answer.order booking.order none []) s₃ := by
            intro result s₃ h₃
            refine h₃.acts (Handler.acts_bind (acts_perform (Or.inl trivial)) fun _ => ?_)
            refine Handler.acts_bind (acts_perform (Or.inl trivial)) fun _ => ?_
            exact Handler.acts_bind Handler.acts_lift fun _ => Handler.acts_pure _
          dsimp only
          rw [Handler.wp_bind, Handler.wp_run]
          exact Handler.wp_mono (fun booking s₃ h₃ => hsettle _ s₃ h₃)
            (fun e s₃ h₃ => hsettle _ s₃ h₃) (confirmNew_inTime h₂ hclear)

/-- **Every request keeps it.** -/
theorem handle_inTime (h : InTime d s) (hclear : SendsClearable req) :
    Handler.wp (calm d) i req (fun _ => InTime d) (fun _ => InTime d) (handle d req) s := by
  rw [handle]
  cases haction : req.action with
  | search intent => exact h.sweeps (search_sweeps Incidental.leavesBookings intent)
  | select context input =>
    exact h.acts (select_acts Incidental.leavesBookings (fun params => Or.inr ⟨params, rfl⟩)
      context input)
  | init context input => exact h.acts (init_acts Incidental.leavesBookings context input)
  | confirm context input => exact confirm_inTime h (hclear context input haction)
  | status context orderId refId =>
    exact h.sweeps (status_sweeps Incidental.leavesBookings context orderId refId)
  | cancel context orderId step tags => exact cancel_inTime h

/-! ## Runs -/

/-- A run of allowed requests and of sweeps, one after another; in between, time passes and the
source serves new catalogues. -/
inductive Serially (d : Deployment) (allowed : Request → Prop) : History → Prop where
  /-- before the first request -/
  | start (clock : ℤ) (source : Source) :
    Serially d allowed ⟨World.initial clock source, []⟩
  /-- something happens on its own -/
  | happen {s : History} {e : Happening} {w : World} : Serially d allowed s →
    World.happen e s.world = some w → Serially d allowed ⟨w, s.trace⟩
  /-- a request is served -/
  | serve {s s' : History} {i : ℕ} {req : Request} {result : Except Failure Answer} :
    Serially d allowed s → allowed req → Served d i req s result s' → Serially d allowed s'
  /-- the manifests are swept -/
  | sweep {s s' : History} {i : ℕ} {req : Request} {result : Except Failure Unit} :
    Serially d allowed s → Alone (calm d) i req (sweepNow d).run s result s' →
      Serially d allowed s'

theorem Serially.inTime (h : Serially d SendsClearable s) : InTime d s := by
  induction h with
  | start clock source => exact .initial clock source
  | happen _ henv ih => exact InTime.env (d := d) _ _ _ henv ih
  | serve _ hclear hserved ih =>
    refine hserved.sound (Q := fun _ => InTime d) (fun _ => InTime.env) ?_
    refine wp_mono ?_ (handle_inTime ih hclear)
    rintro (e | answer) s₁ hend <;> exact hend
  | sweep _ halone ih =>
    refine halone.sound (Q := fun _ => InTime d) (fun _ => InTime.env) ?_
    refine wp_mono ?_ (ih.sweeps sweepNow_sweeps)
    rintro (e | u) s₁ hend <;> exact hend

/-- Whenever a sweep was called, nobody is named by now who departed a retention and an interval
before. -/
def NamesGone (d : Deployment) (s : History) : Prop :=
  ∀ nowMs, Called s nowMs →
    s.world.db.ClearedBefore (nowMs - d.retentionMs - d.sweepLagMs)

/-- **Names are gone within the retention and one interval**, in every run in which confirms send
along only what can be cleared. -/
theorem names_gone (h : Serially d SendsClearable s) : NamesGone d s := by
  intro nowMs hcalled row hrow hlt
  obtain ⟨p, t, hp, hle⟩ := h.inTime.called nowMs hcalled
  refine h.inTime.swept p t hp row hrow ?_
  omega

/-! ## A booking, and a sweep ten days later -/

/-- Serve a request alone, with one answer for every id that is asked for. -/
def serveAlone (req : Request) (id : String) (s : History) : Option History :=
  (runAlone (calm specimenDeployment) 0 req ((provider specimenDeployment).handler req)
    (List.replicate 30 id) s).map Prod.snd

/-- Sweep alone. -/
def sweepAlone (s : History) : Option History :=
  (runAlone (calm specimenDeployment) 0 (specimenSelect "T1" []) (sweepNow specimenDeployment).run
    (List.replicate 30 "") s).map Prod.snd

/-- A confirm of seat 1 whose payment carries these tags. -/
def specimenPaid (tags : List Json) : Request :=
  ⟨0, .confirm (specimenContext "T1")
    { specimenInput 1 [manifestGroup [("1", "A", "female")]] with
      payments := some [[("collected_by", .str "BAP"), ("status", .str "PAID"),
        ("type", .str "PRE_ORDER"), ("tags", .arr tags)]] }⟩

/-- Buy seat 1 with such a payment, wait ten days and sweep. -/
def specimenSwept (tags : List Json) : Option History :=
  (serveAlone (specimenSelect "T1" ["1"]) "a1"
    ⟨World.initial specimenClock specimenSource, []⟩).bind fun s =>
      (serveAlone (specimenPaid tags) "b1" s).bind fun s =>
        sweepAlone ⟨{ s.world with clock := s.world.clock + (10 * 86400000 : ℕ) }, s.trace⟩

theorem specimenSwept_serially {allowed : Request → Prop} {tags : List Json}
    (hselect : allowed (specimenSelect "T1" ["1"])) (hpaid : allowed (specimenPaid tags))
    (h : specimenSwept tags = some s) : Serially specimenDeployment allowed s := by
  obtain ⟨s₁, hs₁, h⟩ := Option.bind_eq_some_iff.mp h
  obtain ⟨s₂, hs₂, h⟩ := Option.bind_eq_some_iff.mp h
  obtain ⟨⟨result₁, _⟩, hserved₁, rfl⟩ := Option.map_eq_some_iff.mp hs₁
  obtain ⟨⟨result₂, _⟩, hserved₂, rfl⟩ := Option.map_eq_some_iff.mp hs₂
  obtain ⟨⟨result₃, _⟩, hswept, rfl⟩ := Option.map_eq_some_iff.mp h
  have hstart : Serially specimenDeployment allowed
      ⟨World.initial specimenClock specimenSource, []⟩ := .start _ _
  have hsold := (hstart.serve hselect (runAlone_alone hserved₁)).serve hpaid
    (runAlone_alone hserved₂)
  exact (hsold.happen (e := .tick (10 * 86400000)) rfl).sweep (runAlone_alone hswept)

/-- When an entry of a trace calls for a sweep. -/
def sweepCalled : Entry Op Resp → Option ℤ
  | ⟨_, .manifestSweepDue nowMs, _⟩ => some nowMs
  | _ => none

theorem called_of_sweepCalled {e : Entry Op Resp} {nowMs : ℤ} (he : e ∈ s.trace)
    (h : sweepCalled e = some nowMs) : Called s nowMs := by
  refine ⟨e, he, ?_⟩
  unfold sweepCalled at h
  split at h
  · rw [Option.some.inj h]
  · cases h

/-- Whether somebody is named on a booking, on a seat or in its order. -/
def ReservedDb.names (db : ReservedDb) (row : BookingRow) : Bool :=
  (db.bookingSeats.rows.any fun seat => seat.bookingId = row.id && seat.name.isSome) ||
    !anonymous row.order.toJson

/-- The bookings a sweep that was called should have cleared by now. -/
def overdue (d : Deployment) (s : History) : List BookingRow :=
  s.trace.flatMap fun e => (sweepCalled e).toList.flatMap fun nowMs =>
    s.world.db.bookings.rows.filter fun row =>
      row.departureAt < nowMs - d.retentionMs - d.sweepLagMs

theorem mem_overdue {row : BookingRow} (h : row ∈ overdue d s) : ∃ nowMs, Called s nowMs ∧
    row ∈ s.world.db.bookings.rows ∧ row.departureAt < nowMs - d.retentionMs - d.sweepLagMs := by
  obtain ⟨e, he, h⟩ := List.mem_flatMap.mp h
  obtain ⟨nowMs, hcalled, h⟩ := List.mem_flatMap.mp h
  obtain ⟨hrow, hlt⟩ := List.mem_filter.mp h
  exact ⟨nowMs, called_of_sweepCalled he (Option.mem_toList.mp hcalled), hrow,
    of_decide_eq_true hlt⟩

theorem ReservedDb.not_cleared_of_names {row : BookingRow} (h : db.names row = true) :
    ¬ db.Cleared row := by
  intro hcleared
  rcases Bool.or_eq_true_iff.mp h with h | h
  · obtain ⟨seat, hseat, h⟩ := List.any_eq_true.mp h
    obtain ⟨hid, hname⟩ := Bool.and_eq_true_iff.mp h
    rw [(hcleared.seats seat hseat (of_decide_eq_true hid)).1] at hname
    cases hname
  · rw [show anonymous row.order.toJson = true from hcleared.order] at h
    cases h

theorem sendsClearable_specimenPaid : SendsClearable (specimenPaid []) := by
  intro context input haction
  obtain ⟨rfl, rfl⟩ := Action.confirm.inj haction
  intro object hobject
  refine List.all_eq_true.mp (?_ : List.all _ fun object => clearable (.obj object)) object hobject
  decide

theorem names_gone_specimen : ∃ s, Serially specimenDeployment SendsClearable s ∧
    overdue specimenDeployment s ≠ [] ∧ NamesGone specimenDeployment s := by
  have hdone : (specimenSwept []).any (fun s => (overdue specimenDeployment s).length = 1) =
      true := by
    decide +kernel
  obtain ⟨s, hs, hlength⟩ := (Option.any_eq_true _ _).mp hdone
  have hserially : Serially specimenDeployment SendsClearable s := by
    refine specimenSwept_serially (fun context input haction => ?_) sendsClearable_specimenPaid hs
    cases haction
  refine ⟨s, hserially, fun hnone => ?_, names_gone hserially⟩
  rw [hnone] at hlength
  cases hlength

/-- A group of tags whose list is the given entries. -/
def manifestOf (entries : List Json) : Json :=
  .obj [("descriptor", .obj [("code", .str "MANIFEST")]), ("list", .arr entries)]

/-- The entry of seat 1, with a manifest of its own inside. -/
def seatWithManifest : Json :=
  .obj [("descriptor", .obj [("code", .str "SEAT_ID")]), ("value", .str "1"), ("tags", .arr
    [manifestOf [.obj [("descriptor", .obj [("code", .str "NAME")]), ("value", .str "A")]]])]

theorem kept_of_eval {tags : List Json} (h : (specimenSwept tags).any (fun s =>
      (overdue specimenDeployment s).any s.world.db.names) = true) :
    ∃ s, specimenSwept tags = some s ∧ Serially specimenDeployment (fun _ => True) s ∧
      ¬ NamesGone specimenDeployment s := by
  obtain ⟨s, hs, hnamed⟩ := (Option.any_eq_true _ _).mp h
  obtain ⟨row, hrow, hnames⟩ := List.any_eq_true.mp hnamed
  refine ⟨s, hs, specimenSwept_serially trivial trivial hs, fun hgone => ?_⟩
  obtain ⟨nowMs, hcalled, hmem, hlt⟩ := mem_overdue hrow
  exact ReservedDb.not_cleared_of_names hnames (hgone nowMs hcalled row hmem hlt)

/-- **Names may stay**: a manifest inside a manifest survives the sweep, and a `null` entry stops
it from clearing at all. -/
theorem names_kept : (∃ s, specimenSwept [manifestOf [seatWithManifest]] = some s ∧
      Serially specimenDeployment (fun _ => True) s ∧ ¬ NamesGone specimenDeployment s) ∧
    ∃ s, specimenSwept [manifestOf [.null]] = some s ∧
      Serially specimenDeployment (fun _ => True) s ∧ ¬ NamesGone specimenDeployment s :=
  ⟨kept_of_eval (by decide +kernel), kept_of_eval (by decide +kernel)⟩

end TransitBpp
