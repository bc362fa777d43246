import TransitBpp.Runs

/-!
# What was read of a booking

A request acts on what it read, however long ago. Most of a booking never changes, so most of what
was read still holds: `Reads` says which parts, for every row, seat list and hold that any request
of a run has read. It is one more thing every run keeps.
-/

namespace TransitBpp

open Interleave Js

variable {db db' : ReservedDb} {t : Transaction} {raw : String} {d : Deployment}

/-! ## What never changes about a booked seat -/

/-- All but the passenger, the status and the refund of a seat. -/
structure SameSeat (seat seat' : BookingSeatRow) : Prop where
  /-- the rest of the row -/
  eq : seat' = { seat with
    name := seat'.name, age := seat'.age, gender := seat'.gender, status := seat'.status,
    cancelledAt := seat'.cancelledAt, refundPaise := seat'.refundPaise,
    slabCode := seat'.slabCode }
  /-- and a cancelled seat stays cancelled -/
  cancelled : seat.status = .cancelled → seat'.status = .cancelled

theorem SameSeat.refl (seat : BookingSeatRow) : SameSeat seat seat := ⟨rfl, id⟩

theorem SameSeat.trans {seat seat' seat'' : BookingSeatRow} (h : SameSeat seat seat')
    (h' : SameSeat seat' seat'') : SameSeat seat seat'' := by
  refine ⟨?_, fun hc => h'.cancelled (h.cancelled hc)⟩
  rw [h'.eq, h.eq]

theorem SameSeat.bookingId {seat seat' : BookingSeatRow} (h : SameSeat seat seat') :
    seat'.bookingId = seat.bookingId := by
  rw [h.eq]

theorem SameSeat.seatId {seat seat' : BookingSeatRow} (h : SameSeat seat seat') :
    seat'.seatId = seat.seatId := by
  rw [h.eq]

theorem SeatMove.same {seat seat' : BookingSeatRow} (h : SeatMove t seat seat') :
    SameSeat seat seat' := by
  cases h with
  | stay => exact .refl seat
  | cancel _ _ _ _ _ => exact ⟨rfl, fun _ => rfl⟩
  | clear _ _ _ => exact ⟨rfl, id⟩

theorem SameBooking.refl (row : BookingRow) : SameBooking row row := ⟨rfl⟩

theorem SameBooking.trans {row row' row'' : BookingRow} (h : SameBooking row row')
    (h' : SameBooking row' row'') : SameBooking row row'' := by
  refine ⟨?_⟩
  rw [h'.eq, h.eq]

/-- A seat of a booking is still there after a transaction. -/
theorem seat_stays {a : t.Answer} (hrun : t.run raw db = .ok (a, db')) {seat : BookingSeatRow}
    (h : ∃ seat' ∈ db.bookingSeats.rows, SameSeat seat seat') :
    ∃ seat' ∈ db'.bookingSeats.rows, SameSeat seat seat' := by
  obtain ⟨seat', hmem, hsame⟩ := h
  obtain ⟨g, new, hmoved⟩ := Transaction.seats_moved hrun
  refine ⟨g seat', ?_, hsame.trans (hmoved.moves seat').same⟩
  rw [hmoved.rows]
  exact List.mem_append_left _ (List.mem_map_of_mem hmem)

/-- A booking is still there after a transaction. -/
theorem booking_stays {a : t.Answer} (hrun : t.run raw db = .ok (a, db')) {row : BookingRow}
    (h : ∃ row' ∈ db.bookings.rows, SameBooking row row') :
    ∃ row' ∈ db'.bookings.rows, SameBooking row row' := by
  obtain ⟨row', hmem, hsame⟩ := h
  obtain ⟨g, new, hmoved⟩ := Transaction.bookings_moved hrun
  refine ⟨g row', ?_, hsame.trans (hmoved.moves row').same⟩
  rw [hmoved.rows]
  exact List.mem_append_left _ (List.mem_map_of_mem hmem)

/-! ## The seats of a booking -/

theorem mem_seatsOf {bookingId : String} {seat : BookingSeatRow} :
    seat ∈ db.seatsOf bookingId ↔ seat ∈ db.bookingSeats.rows ∧ seat.bookingId = bookingId := by
  simp [ReservedDb.seatsOf, List.mem_insertionSort]

/-- A booking names no seat twice. -/
theorem nodup_seatsOf (db : ReservedDb) (bookingId : String) :
    ((db.seatsOf bookingId).map BookingSeatRow.seatId).Nodup := by
  have hperm := (List.perm_insertionSort (fun a b : BookingSeatRow => a.seatId ≤ b.seatId)
    (db.bookingSeats.rows.filter fun seat => seat.bookingId = bookingId)).map BookingSeatRow.seatId
  refine hperm.nodup_iff.mpr ?_
  have hkeys := db.bookingSeats.unique BookingSeatRow.primaryKey (List.mem_cons_self ..)
  have hpair := List.pairwise_filterMap.mp hkeys
  rw [List.Nodup, List.pairwise_map, List.pairwise_filter]
  refine hpair.imp fun {seat seat'} h hs hs' heq => ?_
  rw [decide_eq_true_eq] at hs hs'
  refine h _ rfl _ rfl ?_
  rw [hs, hs', heq]

/-- Two rows of one booking and seat are one row. -/
theorem seat_unique {seat seat' : BookingSeatRow} (h : seat ∈ db.bookingSeats.rows)
    (h' : seat' ∈ db.bookingSeats.rows) (hb : seat.bookingId = seat'.bookingId)
    (hs : seat.seatId = seat'.seatId) : seat = seat' := by
  refine (db.bookingSeats.unique BookingSeatRow.primaryKey (List.mem_cons_self ..)).eq_of_key h h'
    (k := [seat'.bookingId, seat'.seatId]) ?_ rfl
  rw [BookingSeatRow.primaryKey, hb, hs]

/-- A sweep finds the bookings that departed before its cutoff and are named on a seat. -/
theorem mem_staleManifests {cutoff : ℤ} {entry : String × Order} :
    entry ∈ db.staleManifests cutoff ↔ ∃ row ∈ db.bookings.rows, row.departureAt < cutoff ∧
      (∃ seat ∈ db.bookingSeats.rows, seat.bookingId = row.id ∧ seat.name.isSome = true) ∧
        (row.id, row.order) = entry := by
  simp only [ReservedDb.staleManifests, List.mem_map, List.mem_filter, Bool.and_eq_true,
    decide_eq_true_eq, List.any_eq_true, and_assoc]

/-! ## What a run has read -/

/-- What still holds of everything a run has read. -/
structure Reads (s : History) : Prop where
  /-- a booking that was read exists -/
  row : ∀ e ∈ s.trace, ∀ row, rowRead e.line = some row →
    ∃ row' ∈ s.world.db.bookings.rows, SameBooking row row'
  /-- a booking that was read by its id has that id -/
  byId : ∀ i bookingId row, (⟨i, .bookingById bookingId, .ok (some row)⟩ : Entry Op Resp) ∈
    s.trace → row.id = bookingId
  /-- the seats that were read of a booking are different seats of it -/
  distinct : ∀ i bookingId seats, (⟨i, .bookingSeats bookingId, .ok seats⟩ : Entry Op Resp) ∈
    s.trace → (seats.map BookingSeatRow.seatId).Nodup ∧ ∀ seat ∈ seats, seat.bookingId = bookingId
  /-- and exist -/
  seats : ∀ i bookingId seats, (⟨i, .bookingSeats bookingId, .ok seats⟩ : Entry Op Resp) ∈
    s.trace → ∀ seat ∈ seats, ∃ seat' ∈ s.world.db.bookingSeats.rows, SameSeat seat seat'
  /-- a hold that was read has seats -/
  holds : ∀ hold ∈ holdsRead s.trace, hold.seatIds ≠ []

theorem Reads.initial (clock : ℤ) (source : Source) : Reads ⟨World.initial clock source, []⟩ :=
  ⟨fun _ h => absurd h List.not_mem_nil, fun _ _ _ h => absurd h List.not_mem_nil,
    fun _ _ _ h => absurd h List.not_mem_nil, fun _ _ _ h => absurd h List.not_mem_nil,
    fun _ h => absurd h List.not_mem_nil⟩

/-- A booking a query answers is a row. -/
theorem rowRead_mem {w w' : World} {o : Choice} {process : ℕ} {op : Op} {r : Resp op}
    (hexec : w.exec d process o op = some (w', r)) {row : BookingRow}
    (hread : rowRead ⟨op, r⟩ = some row) : row ∈ w.db.bookings.rows := by
  unfold rowRead at hread
  split at hread
  · rename_i heq
    cases heq
    obtain ⟨-, hr⟩ := Prod.mk.inj (Option.some.inj hexec)
    exact List.mem_of_find?_eq_some ((Choice.read_ok hr).symm.trans hread)
  · rename_i heq
    cases heq
    obtain ⟨-, hr⟩ := Prod.mk.inj (Option.some.inj hexec)
    exact List.mem_of_find?_eq_some ((Choice.read_ok hr).symm.trans hread)
  · rename_i heq
    cases heq
    obtain ⟨-, hr⟩ := Prod.mk.inj (Option.some.inj hexec)
    exact List.mem_of_find?_eq_some ((Choice.read_ok hr).symm.trans hread)
  · cases hread

theorem findLatestHold_seatIds {operator : String} {identity : ReservedIdentity}
    {hold : HoldRecord} (h : db.findLatestHold operator identity = some hold) :
    hold.seatIds ≠ [] := by
  obtain ⟨newest, hhead, rfl⟩ := Option.map_eq_some_iff.mp h
  have hmem : newest.seatId ∈ (holdFromRows newest ((db.holdRowsOf operator identity).filter
      fun row => row.holdId = newest.holdId)).seatIds := by
    refine mem_sort.mpr (List.mem_map_of_mem (List.mem_filter.mpr ⟨?_, ?_⟩))
    · exact List.mem_of_mem_head? hhead
    · exact decide_eq_true rfl
  exact List.ne_nil_of_mem hmem

/-- An operation keeps it. -/
theorem Reads.perform {req : Request} {s s' : History} {i : ℕ} {op : Op} {r : Resp op}
    (h : Reads s) (hdoes : Does (provider d) i req op s r s') : Reads s' := by
  obtain ⟨o, w, hexec, rfl⟩ := hdoes
  have hrow : ∀ row, (∃ row' ∈ s.world.db.bookings.rows, SameBooking row row') →
      ∃ row' ∈ w.db.bookings.rows, SameBooking row row' := by
    intro row hr
    rcases World.exec_db hexec with ⟨hdb, -⟩ | ⟨t, a, -, hrun⟩
    · rwa [hdb]
    · exact booking_stays hrun hr
  have hseat : ∀ seat, (∃ seat' ∈ s.world.db.bookingSeats.rows, SameSeat seat seat') →
      ∃ seat' ∈ w.db.bookingSeats.rows, SameSeat seat seat' := by
    intro seat hr
    rcases World.exec_db hexec with ⟨hdb, -⟩ | ⟨t, a, -, hrun⟩
    · rwa [hdb]
    · exact seat_stays hrun hr
  have hread : ∀ bookingId seats, (⟨op, r⟩ : Line Op Resp) = ⟨.bookingSeats bookingId, .ok seats⟩ →
      seats = s.world.db.seatsOf bookingId := by
    intro bookingId seats heq
    cases heq
    exact Choice.read_ok (Prod.mk.inj (Option.some.inj hexec)).2
  refine ⟨?_, ?_, ?_, ?_, ?_⟩
  · intro e he row hbooking
    rcases List.mem_cons.mp he with rfl | he
    · exact hrow row ⟨row, rowRead_mem hexec hbooking, .refl row⟩
    · exact hrow row (h.row e he row hbooking)
  · intro j bookingId row hmem
    rcases List.mem_cons.mp hmem with heq | hmem
    · cases heq
      obtain ⟨-, hr⟩ := Prod.mk.inj (Option.some.inj hexec)
      have hfound : s.world.db.bookings.rows.find? (fun row => row.id = bookingId) = some row :=
        (Choice.read_ok hr).symm
      have hid := List.find?_some hfound
      exact of_decide_eq_true hid
    · exact h.byId j bookingId row hmem
  · intro j bookingId seats hmem
    rcases List.mem_cons.mp hmem with heq | hmem
    · obtain rfl := hread bookingId seats (congrArg Entry.line heq.symm)
      exact ⟨nodup_seatsOf _ _, fun seat hs => (mem_seatsOf.mp hs).2⟩
    · exact h.distinct j bookingId seats hmem
  · intro j bookingId seats hmem seat hs
    rcases List.mem_cons.mp hmem with heq | hmem
    · obtain rfl := hread bookingId seats (congrArg Entry.line heq.symm)
      exact hseat seat ⟨seat, (mem_seatsOf.mp hs).1, .refl seat⟩
    · exact hseat seat (h.seats j bookingId seats hmem seat hs)
  · intro hold hmem
    obtain ⟨e, he, hhold⟩ := List.mem_filterMap.mp hmem
    rcases List.mem_cons.mp he with rfl | he
    · unfold holdRead at hhold
      split at hhold
      · rename_i heq
        cases heq
        obtain ⟨-, hr⟩ := Prod.mk.inj (Option.some.inj hexec)
        exact findLatestHold_seatIds ((Choice.read_ok hr).symm.trans hhold)
      · cases hhold
    · exact h.holds hold (List.mem_filterMap.mpr ⟨e, he, hhold⟩)

/-- What happens on its own keeps it. -/
theorem Reads.env {s : History} {e : Happening} {w : World} (h : Reads s)
    (henv : World.happen e s.world = some w) : Reads ⟨w, s.trace⟩ := by
  have hdb : w.db = s.world.db := by
    cases e <;> obtain rfl := Option.some.inj henv <;> rfl
  refine ⟨?_, h.byId, h.distinct, ?_, h.holds⟩
  · rw [hdb]
    exact h.row
  · rw [hdb]
    exact h.seats

/-- The booking whose row was read last exists. -/
theorem Reads.justRead {s : History} (h : Reads s) {i : ℕ} {bookingId : String}
    (hread : JustRead (own i s.trace) bookingId) :
    ∃ row ∈ s.world.db.bookings.rows, row.id = bookingId := by
  obtain ⟨l, earlier, row, hjr, hrow, rfl⟩ := hread
  have hmem : l ∈ own i s.trace := hjr ▸ List.mem_cons_self ..
  obtain ⟨row', hrow', hsame⟩ := h.row _ (mem_own.mp hmem) row hrow
  exact ⟨row', hrow', hsame.id⟩

/-- A confirm books some seats. -/
theorem Reads.records_ne_nil {req : Request} {s : History} {i : ℕ} (h : Reads s)
    (run : ConfirmRun d req (own i s.trace)) : run.records ≠ [] := by
  obtain ⟨seatId, hseatId⟩ := List.exists_mem_of_ne_nil _
    (h.holds run.hold (mem_holdsRead run.read))
  have hmem := ((manifestFor_ok run.checked.manifest).2 seatId).mpr hseatId
  exact fun hnil => by simp [hnil] at hmem

/-- **Induction over runs**: what holds before the first request, and is kept by every operation
that is allowed and by time and the catalogue, holds of every run. -/
theorem run_keeps {allows : History → Act? → Prop} (inv : History → Prop) {clock : ℤ}
    {source : Source} (h₀ : inv ⟨World.initial clock source, []⟩)
    (hperform : ∀ {s s' : History} {i : ℕ} {req : Request} {op : Op} {r : Resp op}, Base s →
      Reads s → inv s → allows s (.perform i req op) → Knows d req (own i s.trace) op →
        Does (provider d) i req op s r s' → inv s')
    (henv : ∀ {s : History} {w : World}, inv s → w.db = s.world.db → s.world.clock ≤ w.clock →
      inv ⟨w, s.trace⟩)
    {c : Pool} (h : Reach (provider d) allows ⟨⟨World.initial clock source, []⟩, []⟩ c) :
    Base c.hist ∧ Reads c.hist ∧ inv c.hist := by
  refine h.invariant (fun s => Base s ∧ Reads s ∧ inv s) handle_knows
    ⟨Base.initial clock source, Reads.initial clock source, h₀⟩ ?_ ?_
  · rintro s s' i req op r ⟨hbase, hreads, hinv⟩ hallow hknows hdoes
    exact ⟨hbase.perform hknows hdoes, hreads.perform hdoes,
      hperform hbase hreads hinv hallow hknows hdoes⟩
  · rintro s e w ⟨hbase, hreads, hinv⟩ - hhappen
    obtain ⟨hbase', hdb, hclock⟩ := hbase.env hhappen
    exact ⟨hbase', hreads.env hhappen, henv hinv hdb hclock⟩

end TransitBpp
