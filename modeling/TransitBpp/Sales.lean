import TransitBpp.Quoting
import TransitBpp.Retention

/-!
# What was sold

A confirm answers the order it reads back after its transaction. In between a sweep may have
cleared its manifests, and a cancellation may have rewritten it. `Sales` is what every run keeps of
the orders it has sold, stored and read: the quote of a booking is the one it was made with for
ever, and its seats are until one of them is cancelled.
-/

namespace TransitBpp

open Interleave Js

variable {d : Deployment} {req : Request} {s s' : History} {w w' : World} {db db' : ReservedDb}
variable {tr tr' : List (Entry Op Resp)} {params : ConfirmBooking} {order : Order}

/-! ## One order -/

/-- An order is still the one a booking was made with, as far as its quote and its seats go. -/
structure StillSold (tr : List (Entry Op Resp)) (params : ConfirmBooking) (order : Order) : Prop
    where
  /-- the quote -/
  quote : order.quote = params.order.quote
  /-- the seats, until one is cancelled -/
  seats : (∀ e ∈ tr, applies params.orderId e = false) →
    namedIn "SEATS" order.tags = namedIn "SEATS" params.order.tags

theorem StillSold.refl (tr : List (Entry Op Resp)) (params : ConfirmBooking) :
    StillSold tr params params.order :=
  ⟨rfl, fun _ => rfl⟩

theorem StillSold.later (h : StillSold tr params order) (hsub : tr ⊆ tr') :
    StillSold tr' params order :=
  ⟨h.quote, fun hnone => h.seats fun e he => hnone e (hsub he)⟩

/-- A redaction changes neither. -/
theorem StillSold.redacted {order' : Order} (h : StillSold tr params order)
    (hredact : order.withoutManifestNames = .ok order') : StillSold tr params order' := by
  refine ⟨?_, fun hnone => ?_⟩
  · rw [Order.withoutManifestNames_ok hredact]
    exact h.quote
  · have hseats := congrArg SeatView.seats (Order.seatView_withoutManifestNames hredact)
    exact hseats.trans (h.seats hnone)

/-- A cancellation changes the seats, and not the quote. -/
theorem StillSold.rewritten {booking : BookingRecord} (h : StillSold tr params booking.order)
    (happlied : ∃ e ∈ tr, applies params.orderId e = true) :
    StillSold tr params (cancelledOrder booking) := by
  refine ⟨h.quote, fun hnone => ?_⟩
  obtain ⟨e, he, happlies⟩ := happlied
  rw [hnone e he] at happlies
  cases happlies

/-! ## What was read of it -/

/-- The entry read an order of a booking. -/
def Shows (e : Entry Op Resp) (bookingId : String) (order : Order) : Prop :=
  (∃ row, rowRead e.line = some row ∧ row.id = bookingId ∧ row.order = order) ∨
    Lists e (bookingId, order)

/-- What is read is what is stored. -/
theorem Shows.stored {process i : ℕ} {o : Choice} {op : Op} {r : Resp op} {bookingId : String}
    (hexec : w.exec d process o op = some (w', r)) (h : Shows ⟨i, op, r⟩ bookingId order) :
    ∃ row ∈ w.db.bookings.rows, row.id = bookingId ∧ row.order = order := by
  rcases h with ⟨row, hread, hid, horder⟩ | hlists
  · exact ⟨row, rowRead_mem hexec hread, hid, horder⟩
  · exact (hlists.stored hexec).2

/-- An entry that commits a transaction reads nothing. -/
theorem not_shows_transaction {i : ℕ} {t : Transaction} {r : Resp (.transaction t)}
    {bookingId : String} : ¬ Shows ⟨i, .transaction t, r⟩ bookingId order := by
  rintro (⟨row, hread, -⟩ | ⟨j, cutoff, stale, heq, -⟩)
  · cases hread
  · cases heq

/-! ## The invariant -/

/-- The entry made a booking. -/
def Commits (e : Entry Op Resp) (params : ConfirmBooking) : Prop :=
  ∃ i, e = ⟨i, .transaction (.confirmBooking params), .ok ()⟩

/-- What a run keeps of the orders it has sold. -/
structure Sales (d : Deployment) (s : History) : Prop where
  /-- every booking has a name -/
  named : ∀ row ∈ s.world.db.bookings.rows, BookingNamed d row.id row.reference
  /-- what was sold is stored -/
  stored : ∀ e ∈ s.trace, ∀ params, Commits e params →
    ∃ row ∈ s.world.db.bookings.rows, row.id = params.orderId ∧
      StillSold s.trace params row.order
  /-- what was read is stored -/
  exists_ : ∀ e ∈ s.trace, ∀ bookingId order, Shows e bookingId order →
    s.world.db.Exists bookingId
  /-- and it was what was sold -/
  shown : ∀ e ∈ s.trace, ∀ params, Commits e params → ∀ e' ∈ s.trace, ∀ order,
    Shows e' params.orderId order → StillSold s.trace params order
  /-- a booking that was asked for by a name has it -/
  byReference : ∀ i operator bapId bapUri name row,
    (⟨i, .bookingByReference operator bapId bapUri name, .ok (some row)⟩ : Entry Op Resp) ∈
      s.trace → (row.id = name ∨ row.reference = name) ∧ BookingNamed d row.id row.reference

theorem Sales.initial (clock : ℤ) (source : Source) : Sales d ⟨World.initial clock source, []⟩ :=
  ⟨fun _ h => absurd h List.not_mem_nil, fun _ h => absurd h List.not_mem_nil,
    fun _ h => absurd h List.not_mem_nil, fun _ h => absurd h List.not_mem_nil,
    fun _ _ _ _ _ _ h => absurd h List.not_mem_nil⟩

/-- What happens on its own keeps it. -/
theorem Sales.env (h : Sales d s) (hdb : w.db = s.world.db) : Sales d ⟨w, s.trace⟩ := by
  obtain ⟨hnamed, hstored, hexists, hshown, hreference⟩ := h
  refine ⟨?_, ?_, ?_, hshown, hreference⟩
  · rwa [← hdb] at hnamed
  · simpa only [hdb] using hstored
  · simpa only [hdb] using hexists

/-! ### Operations that commit nothing -/

/-- A booking that is asked for by a name has it. -/
theorem bookingByReference_name {operator bapId bapUri name : String} {row : BookingRow}
    (h : db.bookingByReference operator bapId bapUri name = some row) :
    row ∈ db.bookings.rows ∧ (row.id = name ∨ row.reference = name) := by
  refine ⟨List.mem_of_find?_eq_some h, ?_⟩
  have hfound := List.find?_some h
  simp only [Bool.and_eq_true, Bool.or_eq_true, decide_eq_true_eq] at hfound
  exact hfound.2

/-- What is read by a name now has that name. -/
theorem Sales.asked (h : Sales d s) {process i : ℕ} {o : Choice} {op : Op} {r : Resp op}
    (hexec : s.world.exec d process o op = some (w, r)) : ∀ j operator bapId bapUri name row,
      (⟨j, .bookingByReference operator bapId bapUri name, .ok (some row)⟩ : Entry Op Resp) ∈
        (⟨i, op, r⟩ :: s.trace) →
          (row.id = name ∨ row.reference = name) ∧ BookingNamed d row.id row.reference := by
  intro j operator bapId bapUri name row hmem
  rcases List.mem_cons.mp hmem with heq | hmem
  · cases heq
    obtain ⟨-, hr⟩ := Prod.mk.inj (Option.some.inj hexec)
    obtain ⟨hrow, hname⟩ := bookingByReference_name (Choice.read_ok hr).symm
    exact ⟨hname, h.named row hrow⟩
  · exact h.byReference j operator bapId bapUri name row hmem

/-- An operation that commits nothing keeps it. -/
theorem Sales.read (h : Sales d s) {process i : ℕ} {o : Choice} {op : Op} {r : Resp op}
    (hexec : s.world.exec d process o op = some (w, r)) (hdb : w.db = s.world.db)
    (hnot : ∀ t a, (⟨op, r⟩ : Line Op Resp) ≠ ⟨.transaction t, .ok a⟩) :
    Sales d ⟨w, ⟨i, op, r⟩ :: s.trace⟩ := by
  have hcommits : ∀ e ∈ (⟨i, op, r⟩ : Entry Op Resp) :: s.trace, ∀ params, Commits e params →
      e ∈ s.trace := by
    rintro e he params ⟨j, rfl⟩
    rcases List.mem_cons.mp he with heq | he
    · exact absurd (congrArg Entry.line heq.symm) (hnot _ _)
    · exact he
  have hsub : s.trace ⊆ (⟨i, op, r⟩ : Entry Op Resp) :: s.trace := List.subset_cons_self _ _
  refine ⟨?_, fun e he params hcommit => ?_, fun e he bookingId order hshows => ?_,
    fun e he params hcommit e' he' order hshows => ?_, h.asked hexec⟩
  · rw [hdb]
    exact h.named
  · obtain ⟨row, hrow, hid, hsold⟩ := h.stored e (hcommits e he params hcommit) params hcommit
    rw [hdb]
    exact ⟨row, hrow, hid, hsold.later hsub⟩
  · rw [hdb]
    rcases List.mem_cons.mp he with rfl | he
    · obtain ⟨row, hrow, hid, -⟩ := hshows.stored hexec
      exact ⟨row, hrow, hid⟩
    · exact h.exists_ e he bookingId order hshows
  · have hcommitted := hcommits e he params hcommit
    rcases List.mem_cons.mp he' with rfl | he'
    · obtain ⟨row, hrow, hid, rfl⟩ := hshows.stored hexec
      obtain ⟨row', hrow', hid', hsold⟩ := h.stored e hcommitted params hcommit
      obtain rfl := s.world.db.booking_unique hrow hrow' (hid.trans hid'.symm)
      exact hsold.later hsub
    · exact (h.shown e hcommitted params hcommit e' he' order hshows).later hsub

/-! ### Transactions -/

/-- A transaction leaves an order what was sold. -/
theorem BookingMove.stillSold {t : Transaction} {i : ℕ} {a : t.Answer} {row row' : BookingRow}
    (h : Sales d s) (hreads : Reads s) (hknows : Knows d req (own i s.trace) (.transaction t))
    (hmove : BookingMove t row row') (hid : row.id = params.orderId)
    (hcommitted : ∃ e ∈ s.trace, Commits e params) (hsold : StillSold s.trace params row.order) :
    StillSold (⟨i, .transaction t, .ok a⟩ :: s.trace) params row'.order := by
  have hsub : s.trace ⊆ (⟨i, .transaction t, .ok a⟩ : Entry Op Resp) :: s.trace :=
    List.subset_cons_self _ _
  obtain ⟨e, he, hcommits⟩ := hcommitted
  cases hmove with
  | stay => exact hsold.later hsub
  | settle _ _ _ _ _ => exact hsold.later hsub
  | store order ht =>
    -- the order was made of one that was read after the cancellation was applied
    subst ht
    obtain ⟨run, hrun, rfl⟩ := hknows
    have hread := mem_own.mp run.reread
    have hshown := h.shown e he params hcommits _ hread run.row.order
      (.inl ⟨run.row, rfl, hrun.symm.trans hid, rfl⟩)
    have hid' : run.cancel.params.bookingId = params.orderId :=
      (hreads.byId i _ _ hread).symm.trans (hrun.symm.trans hid)
    have hrewritten : StillSold s.trace params
        (cancelledOrder { run.row with seats := run.seats }) :=
      StillSold.rewritten hshown ⟨_, mem_own.mp run.applied, decide_eq_true hid'⟩
    exact hrewritten.later hsub
  | redact stale order order' ht hmem hredact =>
    subst ht
    obtain ⟨run⟩ := hknows
    have hshown := h.shown e he params hcommits _ (mem_own.mp run.listed) order
      (.inr ⟨i, _, stale, rfl, hid ▸ hmem⟩)
    exact (hshown.redacted hredact).later hsub

/-- A transaction keeps it. -/
theorem Sales.transaction (h : Sales d s) (hreads : Reads s) {process i : ℕ} {o : Choice}
    {t : Transaction} {a : t.Answer}
    (hexec : s.world.exec d process o (.transaction t) = some (w, .ok a))
    (hrun : t.run o.id s.world.db = .ok (a, w.db))
    (hknows : Knows d req (own i s.trace) (.transaction t))
    (hnames : NamesBooking d (.transaction t)) :
    Sales d ⟨w, ⟨i, .transaction t, .ok a⟩ :: s.trace⟩ := by
  obtain ⟨g, new, hmoved⟩ := Transaction.bookings_moved hrun
  have hsub : s.trace ⊆ (⟨i, .transaction t, .ok a⟩ : Entry Op Resp) :: s.trace :=
    List.subset_cons_self _ _
  -- a booking that is made now is new
  have hnew : ∀ row ∈ new, ∃ params, t = .confirmBooking params ∧ row = params.row := by
    intro row hrow
    rw [hmoved.new] at hrow
    cases t with
    | confirmBooking params => exact ⟨params, rfl, List.mem_singleton.mp hrow⟩
    | _ => cases hrow
  have hcommits : ∀ e ∈ (⟨i, .transaction t, .ok a⟩ : Entry Op Resp) :: s.trace, ∀ params,
      Commits e params → e ∈ s.trace ∨ t = .confirmBooking params := by
    rintro e he params ⟨j, rfl⟩
    rcases List.mem_cons.mp he with heq | he
    · cases heq
      exact .inr rfl
    · exact .inl he
  have hshows : ∀ e ∈ (⟨i, .transaction t, .ok a⟩ : Entry Op Resp) :: s.trace, ∀ bookingId order,
      Shows e bookingId order → e ∈ s.trace := by
    intro e he bookingId order hs
    rcases List.mem_cons.mp he with rfl | he
    · exact absurd hs not_shows_transaction
    · exact he
  refine ⟨fun row' hrow' => ?_, fun e he params hcommit => ?_,
    fun e he bookingId order hs => ?_, fun e he params hcommit e' he' order hs => ?_,
    h.asked hexec⟩
  · rcases booking_after hrun hrow' with ⟨row, hrow, hsame⟩ | ⟨params, rfl, rfl⟩
    · have hnamed := h.named row hrow
      rw [hsame.eq]
      exact hnamed
    · exact hnames
  · rcases hcommits e he params hcommit with he | rfl
    · obtain ⟨row, hrow, hid, hsold⟩ := h.stored e he params hcommit
      have hmove := hmoved.moves row
      refine ⟨g row, ?_, hmove.same.id.trans hid,
        hmove.stillSold h hreads hknows hid ⟨e, he, hcommit⟩ hsold⟩
      rw [hmoved.rows]
      exact List.mem_append_left _ (List.mem_map_of_mem hrow)
    · refine ⟨params.row, ?_, rfl, .refl _ params⟩
      rw [hmoved.rows, hmoved.new]
      exact List.mem_append_right _ (List.mem_singleton_self _)
  · obtain ⟨row, hrow, rfl⟩ := h.exists_ e (hshows e he bookingId order hs) bookingId order hs
    obtain ⟨row', hrow', hsame⟩ := booking_stays hrun ⟨row, hrow, .refl row⟩
    exact ⟨row', hrow', hsame.id⟩
  · have hbefore := hshows e' he' _ order hs
    rcases hcommits e he params hcommit with he | rfl
    · exact (h.shown e he params hcommit e' hbefore order hs).later hsub
    · -- what was read before is of another booking
      obtain ⟨row, hrow, hid⟩ := h.exists_ e' hbefore _ order hs
      exact absurd hid (HoldBooked.fresh (confirmBooking_ok hrun) row hrow)

/-- An operation keeps it. -/
theorem Sales.perform (h : Sales d s) (hreads : Reads s) {i : ℕ} {op : Op} {r : Resp op}
    (hknows : Knows d req (own i s.trace) op) (hnames : NamesBooking d op)
    (hdoes : Does (provider d) i req op s r s') : Sales d s' := by
  obtain ⟨o, w, hexec, rfl⟩ := hdoes
  rcases World.exec_db hexec with ⟨hdb, hnot⟩ | ⟨t, a, heq, hrun⟩
  · exact h.read hexec hdb hnot
  · cases heq
    have hcommits : s.world.exec d req.process o (.transaction t) = some (w, .ok a) := hexec
    exact h.transaction hreads hcommits hrun hknows hnames

/-! ## Names -/

/-- No reference is an order id. -/
theorem BookingNamed.reference_ne {orderId reference orderId' reference' : String}
    (h : BookingNamed d orderId reference) (h' : BookingNamed d orderId' reference') :
    reference ≠ orderId' := by
  obtain ⟨suffix, hdash, -, rfl⟩ := h
  obtain ⟨suffix', hdash', rfl, -⟩ := h'
  intro heq
  -- up to the last dash one of them is longer
  have hlists := congrArg String.toList heq
  simp only [toString, String.toList_append, String.toList_ofList,
    show "-".toList = ['-'] from rfl, List.append_assoc, List.singleton_append] at hlists
  rw [← List.append_assoc, ← List.append_assoc] at hlists
  have hbefore := append_cons_inj hdash hdash' hlists
  have hlengths := congrArg List.length hbefore
  simp at hlengths

end TransitBpp
