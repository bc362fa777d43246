import TransitBpp.Commitments

/-!
# A refund quote is honoured

A commitment does not read the amount from the quote it names: it computes the refund again, for
the seats it finds confirmed, in the slab then in force. `QuoteRight` is what every run keeps about
a stored quote, and what makes the two agree: a quote's amount is what its slab gives back for its
seats, whose fares and tolls never change.

The seats of the quote and of the commitment are compared as one string each, joined with commas,
and the answer is printed after the refund is committed. `QuoteFits` is the condition under which
neither shows.
-/

namespace TransitBpp

open Interleave Js

variable {d : Deployment} {i : ℕ} {req : Request} {s s' : History} {db db' : ReservedDb}
variable {t : Transaction} {raw : String}

/-! ## Sums by seat -/

/-- Two lists with the same keys add up to the same, where a key decides the amount. -/
theorem sum_eq_of_keys {α β κ : Type} [DecidableEq κ] {xs : List α} {ys : List β}
    (key : α → κ) (key' : β → κ) {f : α → ℤ} {g : β → ℤ}
    (hperm : (xs.map key).Perm (ys.map key'))
    (hsame : ∀ x ∈ xs, ∀ y ∈ ys, key x = key' y → f x = g y) :
    (xs.map f).sum = (ys.map g).sum := by
  -- what the first list says of a key
  let amount (k : κ) : ℤ := ((xs.find? fun x => key x = k).map f).getD 0
  have hfind : ∀ k ∈ xs.map key, ∃ x ∈ xs, key x = k ∧ amount k = f x := by
    intro k hk
    obtain ⟨x, hx, rfl⟩ := List.mem_map.mp hk
    obtain ⟨x', hx'⟩ := Option.isSome_iff_exists.mp
      (List.find?_isSome (p := fun x' => decide (key x' = key x)).mpr ⟨x, hx, decide_eq_true rfl⟩)
    exact ⟨x', List.mem_of_find?_eq_some hx', by simpa using List.find?_some hx',
      by simp only [amount, hx', Option.map_some, Option.getD_some]⟩
  have hys : ∀ y ∈ ys, g y = amount (key' y) := by
    intro y hy
    obtain ⟨x, hx, hkey, hamount⟩ := hfind _ (hperm.mem_iff.mpr (List.mem_map_of_mem hy))
    rw [hamount, hsame x hx y hy hkey]
  have hxs : ∀ x ∈ xs, f x = amount (key x) := by
    intro x hx
    obtain ⟨y, hy, hkey⟩ := List.mem_map.mp (hperm.mem_iff.mp (List.mem_map_of_mem hx))
    rw [hsame x hx y hy hkey.symm, hys y hy, hkey]
  have hsum := (hperm.map amount).sum_eq
  rw [List.map_map, List.map_map] at hsum
  rw [List.map_congr_left hxs, List.map_congr_left hys]
  exact hsum

/-- Seats of a booking add up to what the store's rows for them do. -/
theorem total_of_seats {seats : List BookingSeatRow} {bookingId : String}
    {amount : BookingSeatRow → ℤ}
    (hnodup : (seats.map BookingSeatRow.seatId).Nodup)
    (hrows : ∀ seat ∈ seats, seat.bookingId = bookingId ∧
      ∃ row ∈ db.bookingSeats.rows, SameSeat seat row)
    (hamount : ∀ seat row, SameSeat seat row → amount row = amount seat)
    {seatIds : List String} (hids : ∀ seatId, seatId ∈ seatIds ↔
      seatId ∈ seats.map BookingSeatRow.seatId) :
    db.total (fun seat => if seat.seatId ∈ seatIds then amount seat else 0) bookingId =
      (seats.map amount).sum := by
  have hfilter : ∀ rows : List BookingSeatRow,
      (rows.map fun seat => if seat.seatId ∈ seatIds then amount seat else 0).sum =
        ((rows.filter fun seat => seat.seatId ∈ seatIds).map amount).sum := by
    intro rows
    induction rows with
    | nil => rfl
    | cons seat rows ih => by_cases h : seat.seatId ∈ seatIds <;> simp [h, ih]
  rw [ReservedDb.total, hfilter]
  have hmem : ∀ row, row ∈ (db.bookingSeats.rows.filter fun seat =>
      seat.bookingId = bookingId).filter (fun seat => seat.seatId ∈ seatIds) →
        row ∈ db.bookingSeats.rows ∧ row.bookingId = bookingId ∧ row.seatId ∈ seatIds := by
    intro row hrow
    obtain ⟨hrow, hid⟩ := List.mem_filter.mp hrow
    obtain ⟨hrow, hb⟩ := List.mem_filter.mp hrow
    exact ⟨hrow, of_decide_eq_true hb, of_decide_eq_true hid⟩
  refine sum_eq_of_keys BookingSeatRow.seatId BookingSeatRow.seatId ?_ ?_
  · refine (List.perm_ext_iff_of_nodup ?_ hnodup).mpr fun seatId => ⟨fun h => ?_, fun h => ?_⟩
    · refine (List.filter_sublist.map BookingSeatRow.seatId).nodup ?_
      have hperm := (List.perm_insertionSort (fun a b : BookingSeatRow => a.seatId ≤ b.seatId)
        (db.bookingSeats.rows.filter fun seat => seat.bookingId = bookingId)).map
          BookingSeatRow.seatId
      exact hperm.nodup_iff.mp (nodup_seatsOf db bookingId)
    · obtain ⟨row, hrow, rfl⟩ := List.mem_map.mp h
      exact (hids _).mp (hmem row hrow).2.2
    · obtain ⟨seat, hseat, rfl⟩ := List.mem_map.mp h
      obtain ⟨hb, row, hrow, hsame⟩ := hrows seat hseat
      refine List.mem_map.mpr ⟨row, ?_, hsame.seatId⟩
      refine List.mem_filter.mpr ⟨List.mem_filter.mpr ⟨hrow, ?_⟩, ?_⟩
      · exact decide_eq_true (hsame.bookingId.trans hb)
      · exact decide_eq_true ((hids _).mpr (hsame.seatId ▸ h))
  · intro row hrow seat hseat hid
    obtain ⟨hmemRow, hb, -⟩ := hmem row hrow
    obtain ⟨hb', row', hrow', hsame⟩ := hrows seat hseat
    obtain rfl : row = row' := seat_unique hmemRow hrow'
      (hb.trans (hsame.bookingId.trans hb').symm) (hid.trans hsame.seatId.symm)
    exact hamount seat row hsame

/-! ## What a stored quote promises -/

/-- Two instants in one band are in one slab. -/
theorem slabFor_of_code {departureAt departureAt' nowMs nowMs' : ℤ}
    (h : (slabFor departureAt nowMs).code = (slabFor departureAt' nowMs').code) :
    slabFor departureAt nowMs = slabFor departureAt' nowMs' := by
  simp only [slabFor] at h ⊢
  split_ifs at h ⊢ <;> rfl

/-- What a slab gives back for the seats of a list. -/
def refundIn (slab : Slab) (seatIds : List String) (seat : BookingSeatRow) : ℤ :=
  if seat.seatId ∈ seatIds then seat.refundable.refundPaise slab else 0

/-- A stored quote is right. -/
structure QuoteRight (db : ReservedDb) (quote : RefundQuoteRecord) : Prop where
  /-- its seats are different seats -/
  distinct : quote.seatIds.Nodup
  /-- and sorted -/
  sorted : sort quote.seatIds = quote.seatIds
  /-- it promises what its slab gives back for them -/
  promises : ∃ row ∈ db.bookings.rows, row.id = quote.bookingId ∧
    (slabFor row.departureAt quote.quotedAt).code = quote.slabCode ∧
      quote.refundPaise = db.total
        (refundIn (slabFor row.departureAt quote.quotedAt) quote.seatIds) quote.bookingId

theorem SameSeat.refundPaise {seat seat' : BookingSeatRow} (h : SameSeat seat seat')
    (slab : Slab) : seat'.refundable.refundPaise slab = seat.refundable.refundPaise slab := by
  rw [h.eq]
  rfl

theorem SameSeat.refundIn {seat seat' : BookingSeatRow} (h : SameSeat seat seat') (slab : Slab)
    (seatIds : List String) : refundIn slab seatIds seat' = refundIn slab seatIds seat := by
  rw [TransitBpp.refundIn, TransitBpp.refundIn, h.seatId, h.refundPaise]

/-- No transaction makes a quote wrong. -/
theorem QuoteRight.step {quote : RefundQuoteRecord} (h : QuoteRight db quote) {a : t.Answer}
    (hrun : t.run raw db = .ok (a, db')) : QuoteRight db' quote := by
  obtain ⟨row, hrow, hid, hslab, hpromise⟩ := h.promises
  obtain ⟨row', hrow', hsame⟩ := booking_stays hrun ⟨row, hrow, .refl row⟩
  refine ⟨h.distinct, h.sorted, row', hrow', hsame.id.trans hid, ?_, ?_⟩
  · rw [hsame.departureAt, hslab]
  · rw [hpromise, hsame.departureAt]
    refine (total_step hrun (fun seat _ seat' hmove _ => hmove.same.refundIn _ _) ?_).symm
    rw [← hid]
    exact newSeats_fresh hrun hrow

/-- The refund of seats is what their slab gives back for them. -/
theorem refundFor_eq_total {booking : BookingRecord} {live : List BookingSeatRow} {nowMs : ℤ}
    (hnodup : (live.map BookingSeatRow.seatId).Nodup)
    (hrows : ∀ seat ∈ live, seat.bookingId = booking.id ∧
      ∃ row ∈ db.bookingSeats.rows, SameSeat seat row)
    {seatIds : List String} (hids : ∀ seatId, seatId ∈ seatIds ↔
      seatId ∈ live.map BookingSeatRow.seatId) :
    (refundFor booking live nowMs).refundPaise =
      db.total (refundIn (slabFor booking.departureAt nowMs) seatIds) booking.id := by
  rw [refundFor, computeRefund_refundPaise, List.map_map]
  exact (total_of_seats hnodup hrows (fun seat row h => h.refundPaise _) hids).symm

/-- What a request quotes is right, whatever happened since it read the booking. -/
theorem QuoteRun.right {history : History} {i : ℕ} (hreads : Reads history)
    (run : QuoteRun d req (own i history.trace)) {quote : RefundQuoteRecord}
    (hdraft : quote.draft = run.draft) : QuoteRight history.world.db quote := by
  have hrowRead : (⟨.bookingByReference d.operatorKey run.context.bapId run.context.bapUri
      run.orderId, .ok (some run.booking.toBookingRow)⟩ : Line Op Resp) ∈ own i history.trace :=
    run.read.subset (List.mem_cons_of_mem _ (List.mem_cons_self ..))
  have hseatsRead : (⟨.bookingSeats run.booking.id, .ok run.booking.seats⟩ : Line Op Resp) ∈
      own i history.trace := run.read.subset (List.mem_cons_self ..)
  obtain ⟨hdistinct, hof⟩ := hreads.distinct i _ _ (mem_own.mp hseatsRead)
  obtain ⟨row, hrow, hsame⟩ := hreads.row _ (mem_own.mp hrowRead) _ rfl
  have hnodup := nodup_confirmedOf hdistinct run.target_eq
  have hfields := hdraft
  rw [RefundQuoteRecord.draft, QuoteRun.draft, quoteDraft] at hfields
  simp only [QuoteDraft.mk.injEq] at hfields
  obtain ⟨hbooking, hseats, hcode, -, hpaise, hquoted, -⟩ := hfields
  refine ⟨?_, ?_, row, hrow, ?_, ?_, ?_⟩
  · rw [hseats]
    exact nodup_sort.mpr hnodup
  · rw [hseats]
    exact sort_eq_of_perm (sort_perm _)
  · rw [hbooking]
    exact hsame.id
  · rw [hquoted, hsame.departureAt, hcode]
    rfl
  · rw [hpaise, hquoted, hsame.departureAt, hbooking]
    refine refundFor_eq_total hnodup (fun seat hseat => ?_) fun seatId => ?_
    · have hfound : seat ∈ run.booking.seats :=
        (targetSeats_sublist run.target_eq).subset (List.mem_of_mem_filter hseat)
      exact ⟨hof seat hfound, hreads.seats i _ _ (mem_own.mp hseatsRead) seat hfound⟩
    · rw [hseats]
      exact mem_sort

/-- Every stored quote is right, in every state of every run. -/
theorem quotes_right {clock : ℤ} {source : Source} {c : Pool}
    (h : Reach (provider d) (fun _ _ => True) ⟨⟨World.initial clock source, []⟩, []⟩ c) :
    ∀ quote ∈ c.hist.world.db.refundQuotes.rows, QuoteRight c.hist.world.db quote := by
  refine (run_keeps (fun s => ∀ quote ∈ s.world.db.refundQuotes.rows,
    QuoteRight s.world.db quote) ?_ ?_ ?_ h).2.2
  · exact fun quote hquote => absurd hquote List.not_mem_nil
  · rintro s s' i req op r hbase hreads hinv - hknows ⟨o, w, hexec, rfl⟩
    rcases World.exec_db hexec with ⟨hdb, -⟩ | ⟨t, a, heq, hrun⟩
    · rwa [hdb]
    · cases heq
      intro quote hquote
      rcases quotes_after hrun hquote with hold | ⟨draft, rfl, hdraft⟩
      · exact (hinv quote hold).step hrun
      · obtain ⟨run, hrunDraft⟩ := hknows
        exact (run.right hreads (hdraft.trans hrunDraft)).step hrun
  · intro s w hinv hdb _
    rwa [hdb]

/-! ## Honouring a quote -/

/-- A quote that a commitment ought to go through against. -/
structure Honours (booking : BookingRecord) (live : List BookingSeatRow) (nowMs : ℤ)
    (quote : RefundQuoteRecord) : Prop where
  /-- it is of this booking -/
  same : quote.bookingId = booking.id
  /-- its seats are the confirmed ones meant -/
  seats : ∀ seatId, seatId ∈ quote.seatIds ↔ seatId ∈ live.map BookingSeatRow.seatId
  /-- it has not reached its expiry -/
  inTime : nowMs < quote.expiresAt
  /-- its slab is the one in force -/
  slab : quote.slabCode = (slabFor booking.departureAt nowMs).code

/-- A commitment honoured the quote it named: it went through exactly if it ought to, paid what was
promised for the seats that were promised, and otherwise changed no booking, seat or lock. -/
structure Honoured (db : ReservedDb) (booking : BookingRecord) (live : List BookingSeatRow)
    (tags : Option (List BuyerTag)) (nowMs : ℤ) (result : Except Failure Answer)
    (db' : ReservedDb) : Prop where
  /-- it succeeds against a quote that it ought to go through against, and no other -/
  succeeds : (∃ answer, result = .ok answer) ↔
    ∃ quote, db.quoteNamed tags = some quote ∧ Honours booking live nowMs quote
  /-- it answers and pays the amount of the quote, and cancels its seats -/
  pays : ∀ answer, result = .ok answer → ∃ order refund tags' quote,
    answer = .order order (some refund) tags' ∧ db.quoteNamed tags = some quote ∧
      refund.price.paise = quote.refundPaise ∧
      db'.refundTotal booking.id = db.refundTotal booking.id + quote.refundPaise ∧
      ∀ seatId, seatId ∈ quote.seatIds ↔
        db.Confirmed booking.id seatId ∧ ¬ db'.Confirmed booking.id seatId
  /-- a refusal changes no booking, seat or lock -/
  spares : ∀ e, result = .error e → db'.bookings.rows = db.bookings.rows ∧
    db'.bookingSeats.rows = db.bookingSeats.rows ∧ db'.seatLocks.rows = db.seatLocks.rows

/-- A quote that is accepted is for the seats meant, and its amounts and its expiry print. -/
structure QuoteFits (live : List BookingSeatRow) (quote : RefundQuoteRecord) : Prop where
  /-- its seats are the confirmed ones meant, and do not only read like them -/
  seats : ∀ seatId, seatId ∈ quote.seatIds ↔ seatId ∈ live.map BookingSeatRow.seatId
  /-- the refund, the base fare, the deduction and the toll are safe integers -/
  prints : ∀ paise ∈ [quote.refundPaise, (live.map BookingSeatRow.basePaise).sum,
    (live.map BookingSeatRow.basePaise).sum + (live.map BookingSeatRow.tollPaise).sum -
      quote.refundPaise, (live.map BookingSeatRow.tollPaise).sum],
    -maxSafe ≤ paise ∧ paise ≤ maxSafe
  /-- the expiry is an instant that a date can hold -/
  expires : -8640000000000000 ≤ quote.expiresAt + indiaOffsetMilliseconds ∧
    quote.expiresAt + indiaOffsetMilliseconds ≤ 8640000000000000

section Served

variable {booking : BookingRecord} {live : List BookingSeatRow} {nowMs : ℤ}
variable {quote : RefundQuoteRecord} {tags : Option (List BuyerTag)}

/-- A quote that ought to be honoured is accepted: its seats read like the seats meant. -/
theorem Honours.accepts (h : Honours booking live nowMs quote) (hright : QuoteRight db quote)
    (hnodup : (live.map BookingSeatRow.seatId).Nodup) : Accepts booking live nowMs quote := by
  refine ⟨h.same, ?_, h.inTime, h.slab.symm⟩
  rw [← hright.sorted]
  exact congrArg _ (sort_eq_of_perm
    ((List.perm_ext_iff_of_nodup hright.distinct hnodup).mpr h.seats))

theorem Accepts.honours (h : Accepts booking live nowMs quote) (hfits : QuoteFits live quote) :
    Honours booking live nowMs quote :=
  ⟨h.same, hfits.seats, h.inTime, h.slab.symm⟩

/-- The refund of a commitment is the amount of the quote, where that is of the same seats. -/
theorem Honours.refundPaise (h : Honours booking live nowMs quote) (hright : QuoteRight db quote)
    (hrow : booking.toBookingRow ∈ db.bookings.rows)
    (hnodup : (live.map BookingSeatRow.seatId).Nodup)
    (hlive : ∀ seat ∈ live, seat ∈ db.bookingSeats.rows ∧ seat.bookingId = booking.id) :
    (refundFor booking live nowMs).refundPaise = quote.refundPaise := by
  obtain ⟨row, hmem, hid, hcode, hpromise⟩ := hright.promises
  obtain rfl : row = booking.toBookingRow :=
    (db.bookings.unique BookingRow.primaryKey (List.mem_cons_self ..)).eq_of_key hmem hrow
      (congrArg (fun id => some [id]) (hid.trans h.same)) rfl
  rw [hpromise, slabFor_of_code (hcode.trans h.slab), h.same]
  refine refundFor_eq_total hnodup (fun seat hseat => ?_) h.seats
  exact ⟨(hlive seat hseat).2, seat, (hlive seat hseat).1, .refl seat⟩

/-- When a commitment that went through can be answered. -/
theorem commitmentAnswer_isOk {order : Order} :
    (∃ answer, commitmentAnswer booking live nowMs quote order = .ok answer) ↔
      (∃ refund, refundPayload (refundFor booking live nowMs) = .ok refund) ∧
        ∃ text, istIsoInstant quote.expiresAt = .ok text := by
  simp only [commitmentAnswer, refundSlabTag]
  cases refundPayload (refundFor booking live nowMs) <;>
    cases istIsoInstant quote.expiresAt <;> simp [bind, Except.bind, pure, Except.pure]

/-- The lines of a refund, from its seats. -/
theorem refundFor_lines (booking : BookingRecord) (live : List BookingSeatRow) (nowMs : ℤ) :
    (refundFor booking live nowMs).basePaise = (live.map BookingSeatRow.basePaise).sum ∧
      (refundFor booking live nowMs).tollRefundPaise = (live.map BookingSeatRow.tollPaise).sum ∧
        (refundFor booking live nowMs).refundPaise = (refundFor booking live nowMs).basePaise -
          (refundFor booking live nowMs).slabDeductionPaise +
            (refundFor booking live nowMs).tollRefundPaise := by
  refine ⟨?_, ?_, rfl⟩
  · change ((live.map BookingSeatRow.refundable).map RefundableSeat.basePaise).sum = _
    rw [List.map_map]
    rfl
  · change ((live.map BookingSeatRow.refundable).map RefundableSeat.tollPaise).sum = _
    rw [List.map_map]
    rfl

/-- It can where the quote fits. -/
theorem QuoteFits.isOk_iff (order : Order)
    (hrefund : (refundFor booking live nowMs).refundPaise = quote.refundPaise)
    (hseats : ∀ seatId, seatId ∈ quote.seatIds ↔ seatId ∈ live.map BookingSeatRow.seatId) :
    (∃ answer, commitmentAnswer booking live nowMs quote order = .ok answer) ↔
      QuoteFits live quote := by
  obtain ⟨hbase, htoll, hsum⟩ := refundFor_lines booking live nowMs
  have hdeduction : (refundFor booking live nowMs).slabDeductionPaise =
      (live.map BookingSeatRow.basePaise).sum + (live.map BookingSeatRow.tollPaise).sum -
        quote.refundPaise := by
    omega
  rw [commitmentAnswer_isOk, refundPayload, refundOf_isOk, istIsoInstant_isOk, hrefund, hbase,
    hdeduction, htoll]
  exact ⟨fun h => ⟨hseats, h.1, h.2⟩, fun h => ⟨h.prints, h.expires⟩⟩

/-- The amount a commitment answers is the refund it computed. -/
theorem commitmentAnswer_ok {order : Order} {answer : Answer}
    (h : commitmentAnswer booking live nowMs quote order = .ok answer) :
    ∃ refund tag, answer = .order order (some refund) [tag] ∧
      refundPayload (refundFor booking live nowMs) = .ok refund := by
  simp only [commitmentAnswer, bind, Except.bind] at h
  cases hrefund : refundPayload (refundFor booking live nowMs) with
  | error e =>
    rw [hrefund] at h
    cases h
  | ok refund =>
    rw [hrefund] at h
    dsimp only at h
    split at h
    · cases h
    · obtain rfl := Except.ok.inj h
      exact ⟨refund, _, rfl, rfl⟩

/-- A commitment that is applied cancels exactly the confirmed seats it means. -/
theorem confirmed_after (hcancelled : SeatsCancelled (cancellationOf booking live nowMs) db db')
    (hlive : ∀ seat ∈ live, seat ∈ db.bookingSeats.rows ∧ seat.bookingId = booking.id ∧
      seat.status = .confirmed) (seatId : String) :
    seatId ∈ live.map BookingSeatRow.seatId ↔
      db.Confirmed booking.id seatId ∧ ¬ db'.Confirmed booking.id seatId := by
  constructor
  · intro h
    obtain ⟨seat, hseat, rfl⟩ := List.mem_map.mp h
    obtain ⟨hrow, hb, hstatus⟩ := hlive seat hseat
    refine ⟨⟨seat, hrow, hb, rfl, hstatus⟩, ?_⟩
    rintro ⟨seat', hrow', hb', hid', hstatus'⟩
    rw [hcancelled.seats] at hrow'
    obtain ⟨before, -, rfl⟩ := List.mem_map.mp hrow'
    -- a seat with this id was cancelled, unless it was already
    rw [cancelSeats, setIf] at hb' hid' hstatus'
    split at hstatus'
    · cases hstatus'
    · rename_i hnot
      rw [if_neg hnot] at hb' hid'
      refine hnot ?_
      simp only [Bool.and_eq_true, decide_eq_true_eq]
      exact ⟨⟨hb', mem_sort.mpr (hid' ▸ h)⟩, hstatus'⟩
  · rintro ⟨⟨seat, hrow, hb, rfl, hstatus⟩, hafter⟩
    by_contra hnot
    refine hafter ⟨seat, ?_, hb, rfl, hstatus⟩
    rw [hcancelled.seats]
    refine List.mem_map.mpr ⟨seat, hrow, ?_⟩
    rw [cancelSeats, setIf, if_neg]
    simp only [Bool.and_eq_true, decide_eq_true_eq]
    exact fun hall => hnot (mem_sort.mp hall.1.2)

/-- A commitment honours the quote it names exactly if a quote it is accepted against fits. -/
theorem Commitment.honoured_iff {result : Except Failure Answer}
    (hend : Commitment db booking live tags nowMs result db') (hsettled : Settled db)
    (hnamed : ∀ quote, db.quoteNamed tags = some quote → QuoteRight db quote)
    (hrow : booking.toBookingRow ∈ db.bookings.rows)
    (hnodup : (live.map BookingSeatRow.seatId).Nodup) (hlive : live ≠ [])
    (hstored : ∀ seat ∈ live, seat ∈ db.bookingSeats.rows ∧ seat.bookingId = booking.id ∧
      seat.status = .confirmed) :
    Honoured db booking live tags nowMs result db' ↔
      ∀ quote, db.quoteNamed tags = some quote → Accepts booking live nowMs quote →
        QuoteFits live quote := by
  cases hend with
  | refused hunfit hbookings hseats hlocks =>
    refine ⟨fun _ quote hquote haccepts => absurd haccepts (hunfit quote hquote), fun _ => ?_⟩
    refine ⟨⟨?_, ?_⟩, ?_, ?_⟩
    · rintro ⟨answer, hanswer⟩
      cases hanswer
    · rintro ⟨quote, hquote, hhonours⟩
      exact absurd (hhonours.accepts (hnamed quote hquote) hnodup) (hunfit quote hquote)
    · intro answer hanswer
      cases hanswer
    · intro e _
      rw [hbookings, hseats, hlocks]
      exact ⟨rfl, rfl, rfl⟩
  | @applied quote row db₁ _ hquote haccepts hcancelled hfound hstore =>
    have hafter := confirmed_after hcancelled hstored
    have hconfirmed : ∀ seatId, db'.Confirmed booking.id seatId ↔
        db₁.Confirmed booking.id seatId := by
      intro seatId
      rw [ReservedDb.Confirmed, ReservedDb.Confirmed, hstore.seats]
    constructor
    · intro hhonoured other hother _
      obtain rfl := Option.some.inj (hquote.symm.trans hother)
      rcases hresult : commitmentAnswer booking live nowMs quote
        (cancelledOrder { row with seats := db₁.seatsOf row.id }) with e | answer
      · -- it was applied, so it cannot count as refused
        obtain ⟨-, hsame, -⟩ := hhonoured.spares e hresult
        obtain ⟨seat, hseat⟩ := List.exists_mem_of_ne_nil _ hlive
        obtain ⟨hwas, hnot⟩ := (hafter seat.seatId).mp (List.mem_map_of_mem hseat)
        refine absurd ((hconfirmed _).mp ?_) hnot
        rw [ReservedDb.Confirmed, hsame]
        exact hwas
      · obtain ⟨quote', hquote', hhonours⟩ := hhonoured.succeeds.mp ⟨answer, hresult⟩
        obtain rfl := Option.some.inj (hquote.symm.trans hquote')
        have hrefund := hhonours.refundPaise (hnamed quote hquote) hrow hnodup
          fun seat hseat => ⟨(hstored seat hseat).1, (hstored seat hseat).2.1⟩
        exact (QuoteFits.isOk_iff _ hrefund hhonours.seats).mp ⟨answer, hresult⟩
    · intro hall
      have hfits := hall quote hquote haccepts
      have hhonours := haccepts.honours hfits
      have hrefund := hhonours.refundPaise (hnamed quote hquote) hrow hnodup
        fun seat hseat => ⟨(hstored seat hseat).1, (hstored seat hseat).2.1⟩
      obtain ⟨answer, hanswer⟩ := (QuoteFits.isOk_iff
        (cancelledOrder { row with seats := db₁.seatsOf row.id }) hrefund hfits.seats).mpr hfits
      rw [hanswer]
      refine ⟨⟨fun _ => ⟨quote, hquote, hhonours⟩, fun _ => ⟨answer, rfl⟩⟩, ?_, ?_⟩
      · rintro _ ⟨⟩
        obtain ⟨refund, tag, rfl, hpayload⟩ := commitmentAnswer_ok hanswer
        have hpaise := paise_of_refundPayload hpayload
        refine ⟨_, refund, [tag], quote, rfl, hquote, hpaise.trans hrefund, ?_, fun seatId => ?_⟩
        · have htotal := refundTotal_cancel hsettled.nothing (nodup_sort.mpr hnodup)
            (fun seatId hseatId => ((hafter seatId).mp (mem_sort.mp hseatId)).1) hcancelled
              booking.id
          rw [if_pos (show (cancellationOf booking live nowMs).bookingId = booking.id from rfl),
            total_cancellationOf hnodup, hrefund] at htotal
          rw [← htotal, ReservedDb.refundTotal, ReservedDb.refundTotal, hstore.seats]
        · rw [hfits.seats, hconfirmed]
          exact hafter seatId
      · intro e he
        cases he

end Served

/-- **A refund quote is honoured.** In every state of every run, a commitment served alone that
means at least one confirmed seat honours the quote it names if and only if a quote it would be
accepted against is for the seats it means, and can be printed. -/
theorem refund_quote_honoured {clock : ℤ} {source : Source} {c : Pool}
    (h : Reach (provider d) (fun _ _ => True) ⟨⟨World.initial clock source, []⟩, []⟩ c)
    {booking : BookingRecord} {target : List BookingSeatRow} {tags : Option (List BuyerTag)}
    (htargets : Targets d req c.hist.world.db booking target tags) (hlive : confirmedOf target ≠ [])
    {result : Except Failure Answer} (hserved : Served d c.tasks.length req c.hist result s') :
    ∃ nowMs, c.hist.world.clock ≤ nowMs ∧ nowMs ≤ s'.world.clock ∧
      (⟨c.tasks.length, .now, nowMs⟩ : Entry Op Resp) ∈ s'.trace ∧
        (Honoured c.hist.world.db booking (confirmedOf target) tags nowMs result s'.world.db ↔
          ∀ quote, c.hist.world.db.quoteNamed tags = some quote →
            Accepts booking (confirmedOf target) nowMs quote →
              QuoteFits (confirmedOf target) quote) := by
  obtain ⟨hbase, hsettled⟩ := settled_of_reach h
  have hright := quotes_right h
  have hnamed : ∀ quote, c.hist.world.db.quoteNamed tags = some quote →
      QuoteRight c.hist.world.db quote := by
    intro quote hquote
    obtain ⟨id, -, hfind⟩ := Option.bind_eq_some_iff.mp hquote
    exact hright quote (List.mem_of_find?_eq_some hfind)
  obtain ⟨nowMs, hle, hge, hread, hend⟩ := commitment_of_served htargets hlive hserved
  exact ⟨nowMs, hle, hge, hread, hend.honoured_iff hsettled hnamed
    htargets.row.1 htargets.nodup hlive htargets.confirmed⟩

/-! ### A specimen -/

/-- The tags of a commitment against a quote for some seats. -/
def commitmentTags (seatIds : List String) (quoteId : String) : Option (List BuyerTag) :=
  some [seatsGroup seatIds, ⟨some "REFUND_SLAB", some [⟨some "REFUND_QUOTE_ID", some quoteId⟩]⟩]

/-- The specimen's buyer commits alone, against a quote for some seats. -/
def commitAlone (c : Pool) (seatIds : List String) (quoteId : String) :
    Option (Except Failure Answer × History) :=
  let req := specimenCancel "T1" specimenOrderId seatIds quoteId
  runAlone (calm specimenDeployment) c.tasks.length req
    ((provider specimenDeployment).handler req) (List.replicate 9 "") c.hist

/-- The amount a request answers as a refund. -/
def refundAnswered : Except Failure Answer → Option ℤ
  | .ok (.order _ refund _) => refund.map fun refund => refund.price.paise
  | _ => none

theorem of_refundAnswered {result : Except Failure Answer} {paise : ℤ}
    (h : refundAnswered result = some paise) : ∃ order refund tags,
      result = .ok (.order order (some refund) tags) ∧ refund.price.paise = paise := by
  unfold refundAnswered at h
  split at h
  · rename_i order refund tags
    obtain ⟨refund, rfl, hpaise⟩ := Option.map_eq_some_iff.mp h
    exact ⟨order, refund, tags, rfl, hpaise⟩
  · cases h

/-- Of two seats sold, one is quoted for and then cancelled. -/
theorem refund_quote_honoured_specimen : ∃ c booking target result s' nowMs,
    Reach (provider specimenDeployment) (fun _ _ => True) specimenStart c ∧
    Served specimenDeployment c.tasks.length
      (specimenCancel "T1" specimenOrderId ["1"] "RFQ-KSRTC-Q1") c.hist result s' ∧
    refundAnswered result = some 8000 ∧
    (Honoured c.hist.world.db booking (confirmedOf target)
        (commitmentTags ["1"] "RFQ-KSRTC-Q1") nowMs result s'.world.db ↔
      ∀ quote, c.hist.world.db.quoteNamed (commitmentTags ["1"] "RFQ-KSRTC-Q1") = some quote →
        Accepts booking (confirmedOf target) nowMs quote →
          QuoteFits (confirmedOf target) quote) := by
  have hrun : (specimenStart.follow (provider specimenDeployment) (fun _ _ => true)
      (specimenSale ++ specimenQuote ["1"])).bind (fun c =>
        (commitAlone c ["1"] "RFQ-KSRTC-Q1").map fun p => (refundAnswered p.1,
          (c.hist.world.db.bookingFound "ksrtc" "bap" "https://bap" specimenOrderId).bind
            fun booking => (targetSeats booking (seatIdsFrom
              (commitmentTags ["1"] "RFQ-KSRTC-Q1"))).toOption.map fun target =>
                (confirmedOf target).length)) = some (some 8000, some 1) := by
    decide +kernel
  obtain ⟨c, hfollow, hcommit⟩ := Option.bind_eq_some_iff.mp hrun
  obtain ⟨⟨result, s'⟩, halone, hfacts⟩ := Option.map_eq_some_iff.mp hcommit
  obtain ⟨hrefund, htarget⟩ := Prod.mk.inj hfacts
  have hreach : Reach (provider specimenDeployment) (fun _ _ => True) specimenStart c :=
    (Config.follow_reach .refl hfollow).mono fun _ _ _ => trivial
  obtain ⟨booking, target, htargets, hlive⟩ : ∃ booking target, Targets specimenDeployment
      (specimenCancel "T1" specimenOrderId ["1"] "RFQ-KSRTC-Q1") c.hist.world.db booking target
        (commitmentTags ["1"] "RFQ-KSRTC-Q1") ∧ confirmedOf target ≠ [] :=
    Targets.of_eval (n := 0) rfl rfl htarget
  have hserved := runAlone_alone halone
  obtain ⟨nowMs, -, -, -, hiff⟩ := refund_quote_honoured hreach htargets hlive hserved
  exact ⟨c, booking, target, result, s', nowMs, hreach, hserved, hrefund, hiff⟩

/-- A third seat, whose id reads like those of the other two. -/
def commaSource : Source :=
  { specimenSource with
    seatMap := fun _ => some { specimenSeatMap with
      seats := specimenSeatMap.seats ++ [⟨"1,2", 1, 2, 1, .seat, true, none, []⟩] } }

/-- The provider over that source, before its first request. -/
def commaStart : Pool := ⟨⟨World.initial specimenClock commaSource, []⟩, []⟩

/-- Buy all three seats, and ask for a quote for the third. -/
def commaSale : List (Event Request Choice Happening) :=
  [.start (specimenSelect "T1" ["1", "2", "1,2"])] ++ steps 0 12 "a1" ++
    [.start (specimenConfirm 0 "T1"
      [("1", "A", "female"), ("2", "B", "male"), ("1,2", "C", "male")] [])] ++ steps 1 21 "b1" ++
    specimenQuote ["1,2"]

/-- A quote for seat `1,2` goes through for the seats `1` and `2`: twice its amount is paid. -/
theorem refund_quote_of_other_seats : ∃ c booking target result s',
    Reach (provider specimenDeployment) (fun _ _ => True) commaStart c ∧
    Targets specimenDeployment (specimenCancel "T1" specimenOrderId ["1", "2"] "RFQ-KSRTC-Q1")
      c.hist.world.db booking target (commitmentTags ["1", "2"] "RFQ-KSRTC-Q1") ∧
    confirmedOf target ≠ [] ∧
    Served specimenDeployment c.tasks.length
      (specimenCancel "T1" specimenOrderId ["1", "2"] "RFQ-KSRTC-Q1") c.hist result s' ∧
    ∀ nowMs, ¬ Honoured c.hist.world.db booking (confirmedOf target)
      (commitmentTags ["1", "2"] "RFQ-KSRTC-Q1") nowMs result s'.world.db := by
  have hrun : (commaStart.follow (provider specimenDeployment) (fun _ _ => true) commaSale).bind
      (fun c => (commitAlone c ["1", "2"] "RFQ-KSRTC-Q1").map fun p => (refundAnswered p.1,
        (c.hist.world.db.quoteNamed (commitmentTags ["1", "2"] "RFQ-KSRTC-Q1")).map
          RefundQuoteRecord.refundPaise,
        (c.hist.world.db.bookingFound "ksrtc" "bap" "https://bap" specimenOrderId).bind
          fun booking => (targetSeats booking (seatIdsFrom
            (commitmentTags ["1", "2"] "RFQ-KSRTC-Q1"))).toOption.map fun target =>
              (confirmedOf target).length)) = some (some 16000, some 8000, some 2) := by
    decide +kernel
  obtain ⟨c, hfollow, hcommit⟩ := Option.bind_eq_some_iff.mp hrun
  obtain ⟨⟨result, s'⟩, halone, hfacts⟩ := Option.map_eq_some_iff.mp hcommit
  obtain ⟨hrefund, hrest⟩ := Prod.mk.inj hfacts
  obtain ⟨hquote, htarget⟩ := Prod.mk.inj hrest
  have hreach : Reach (provider specimenDeployment) (fun _ _ => True) commaStart c :=
    (Config.follow_reach .refl hfollow).mono fun _ _ _ => trivial
  obtain ⟨booking, target, htargets, hlive⟩ : ∃ booking target, Targets specimenDeployment
      (specimenCancel "T1" specimenOrderId ["1", "2"] "RFQ-KSRTC-Q1") c.hist.world.db booking target
        (commitmentTags ["1", "2"] "RFQ-KSRTC-Q1") ∧ confirmedOf target ≠ [] :=
    Targets.of_eval (n := 1) rfl rfl htarget
  refine ⟨c, booking, target, result, s', hreach, htargets, hlive, runAlone_alone halone, ?_⟩
  intro nowMs hhonoured
  cases result with
  | error e => cases hrefund
  | ok answer =>
    obtain ⟨order, refund, tags, quote, rfl, hnamed, hpaise, -⟩ := hhonoured.pays answer rfl
    rw [hnamed, Option.map_some] at hquote
    have hanswered : refund.price.paise = 16000 := Option.some.inj hrefund
    have hpromised : quote.refundPaise = 8000 := Option.some.inj hquote
    omega

end TransitBpp
