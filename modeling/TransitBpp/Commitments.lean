import TransitBpp.Serial
import TransitBpp.Settlement

/-!
# Cancellations, one at a time

What a commitment does when it is served alone. It either passes the checks on the quote it names
and cancels exactly the confirmed seats it means, or it changes no booking, seat or lock;
`Commitment` says which, and `commitment_of_served` proves it of the handler. A commitment that
finds nothing confirmed answers what was already refunded and changes nothing.
-/

namespace TransitBpp

open Interleave Js

variable {d : Deployment} {i : ℕ} {req : Request} {s s' : History} {db db' : ReservedDb}

/-! ## The checks on a quote -/

/-- The stored quote a request names. -/
def ReservedDb.quoteNamed (db : ReservedDb) (tags : Option (List BuyerTag)) :
    Option RefundQuoteRecord :=
  ((tagValue tags "REFUND_SLAB" "REFUND_QUOTE_ID").filter (· ≠ "")).bind db.findRefundQuote

/-- A quote that a commitment goes through against. -/
structure Accepts (booking : BookingRecord) (live : List BookingSeatRow) (nowMs : ℤ)
    (quote : RefundQuoteRecord) : Prop where
  /-- it is of this booking -/
  same : quote.bookingId = booking.id
  /-- its seats read like the confirmed ones meant -/
  seats : ",".intercalate quote.seatIds =
    ",".intercalate (sort (live.map BookingSeatRow.seatId))
  /-- it has not lapsed -/
  inTime : nowMs < quote.expiresAt
  /-- its slab is the one in force -/
  slab : (refundFor booking live nowMs).slab.code = quote.slabCode

theorem assertQuoteLive_ok {booking : BookingRecord} {wanted : List String}
    {found : Option RefundQuoteRecord} {nowMs : ℤ} {quote : RefundQuoteRecord} :
    assertQuoteLive booking wanted found nowMs = .ok quote ↔ found = some quote ∧
      quote.bookingId = booking.id ∧ ",".intercalate quote.seatIds = ",".intercalate wanted ∧
        nowMs < quote.expiresAt := by
  simp only [assertQuoteLive]
  cases found with
  | none =>
    constructor
    · intro h
      cases h
    · rintro ⟨h, -⟩
      cases h
  | some found =>
    dsimp only
    split
    · rename_i hother
      constructor
      · intro h
        cases h
      · rintro ⟨h, hb, hs, -⟩
        obtain rfl := Option.some.inj h
        rcases hother with hother | hother
        · exact absurd hb hother
        · exact absurd hs hother
    · rename_i hsame
      rw [not_or, not_not, not_not] at hsame
      split
      · rename_i hlapsed
        constructor
        · intro h
          cases hi : istIsoInstant found.expiresAt <;> rw [hi] at h <;> cases h
        · rintro ⟨h, -, -, hlive⟩
          obtain rfl := Option.some.inj h
          omega
      · rename_i hlive
        constructor
        · intro h
          obtain rfl := Except.ok.inj h
          exact ⟨rfl, hsame.1, hsame.2, by omega⟩
        · rintro ⟨h, -⟩
          obtain rfl := Option.some.inj h
          rfl

/-! ## How a commitment ends -/

/-- What a commitment that went through answers. -/
def commitmentAnswer (booking : BookingRecord) (live : List BookingSeatRow) (nowMs : ℤ)
    (quote : RefundQuoteRecord) (order : Order) : Except Failure Answer := do
  let computed := refundFor booking live nowMs
  let refund ← refundPayload computed
  let tag ← refundSlabTag computed.slab.code computed.slab.deductionPercent quote.id
    quote.expiresAt
  return .order order (some refund) [tag]

/-- How a commitment ends that finds these seats confirmed and is served alone. -/
inductive Commitment (db : ReservedDb) (booking : BookingRecord) (live : List BookingSeatRow)
    (tags : Option (List BuyerTag)) (nowMs : ℤ) : Except Failure Answer → ReservedDb → Prop where
  /-- the quote it names does not do, and nothing but a quote is written -/
  | refused {e : Failure} {db' : ReservedDb}
      (unfit : ∀ quote, db.quoteNamed tags = some quote → ¬ Accepts booking live nowMs quote)
      (bookings : db'.bookings = db.bookings) (seats : db'.bookingSeats = db.bookingSeats)
      (locks : db'.seatLocks = db.seatLocks) :
      Commitment db booking live tags nowMs (.error e) db'
  /-- it cancels the seats and stores the order back -/
  | applied {quote : RefundQuoteRecord} {row : BookingRow} {db₁ db' : ReservedDb}
      (named : db.quoteNamed tags = some quote) (accepts : Accepts booking live nowMs quote)
      (cancelled : SeatsCancelled (cancellationOf booking live nowMs) db db₁)
      (read : db₁.bookingById booking.id = some row)
      (stored : BookingsOnly db₁ db'
        (storeOrder row.id (cancelledOrder { row with seats := db₁.seatsOf row.id }))) :
      Commitment db booking live tags nowMs
        (commitmentAnswer booking live nowMs quote
          (cancelledOrder { row with seats := db₁.seatsOf row.id })) db'

/-- A commitment has ended: it read the clock once, and ended as `Commitment` says. -/
def Ended (i : ℕ) (s : History) (booking : BookingRecord) (live : List BookingSeatRow)
    (tags : Option (List BuyerTag)) (result : Except Failure Answer) (s' : History) : Prop :=
  ∃ nowMs, s.world.clock ≤ nowMs ∧ nowMs ≤ s'.world.clock ∧
    (⟨i, .now, nowMs⟩ : Entry Op Resp) ∈ s'.trace ∧
      Commitment s.world.db booking live tags nowMs result s'.world.db

section Walk

variable {ok : Answer → History → Prop} {err : Failure → History → Prop}

theorem namedQuote_wp {tags : Option (List BuyerTag)}
    {ok : Option RefundQuoteRecord → History → Prop}
    (h : ∀ s₁, Idle s s₁ → ok (s.world.db.quoteNamed tags) s₁) :
    Handler.wp (calm d) i req ok err (namedQuote tags) s := by
  rw [ReservedDb.quoteNamed] at h
  rw [namedQuote]
  split
  · rename_i hnone
    rw [hnone] at h
    exact h s (.refl s)
  · rename_i quoteId hsome
    rw [hsome] at h
    refine wp_read (fun w => .ok (w.db.findRefundQuote quoteId)) (fun _ _ => rfl) fun s₁ hidle => ?_
    rw [ends_ok, hidle.db]
    exact h _ hidle.answered

/-- What changes no booking, seat or lock, and only adds to the trace. -/
structure Spares (s s' : History) : Prop where
  /-- the bookings are as they were -/
  bookings : s'.world.db.bookings = s.world.db.bookings
  /-- so are their seats -/
  seats : s'.world.db.bookingSeats = s.world.db.bookingSeats
  /-- so are the locks -/
  locks : s'.world.db.seatLocks = s.world.db.seatLocks
  /-- the clock has not gone back -/
  clock : s.world.clock ≤ s'.world.clock
  /-- nothing was forgotten -/
  trace : s.trace <:+ s'.trace

theorem Idle.spares (h : Idle s s') : Spares s s' :=
  ⟨by rw [h.db], by rw [h.db], by rw [h.db], h.clock, h.trace⟩

/-- A moved slab is refused, and leaves a new quote behind. -/
theorem slabMoved_wp {booking : BookingRecord} {live : List BookingSeatRow}
    {quote : RefundQuoteRecord} {nowMs : ℤ} (h : ∀ e s', Spares s s' → err e s') :
    Handler.wp (calm d) i req ok err (slabMoved booking live quote nowMs) s := by
  rw [slabMoved, Handler.wp_bind]
  refine wp_transact (fun s₁ raw replacement db hidle hrun => ?_)
    fun s₁ raw e hidle _ => h _ _ hidle.answered.spares
  obtain ⟨-, hlocks, hbookings, hseats, -⟩ := saveRefundQuote_ok hrun
  have hspares : ∀ line, Spares s ⟨{ s₁.world with db := db }, line :: s₁.trace⟩ := fun line =>
    ⟨hbookings, hseats, hlocks, hidle.clock, hidle.trace.trans (List.suffix_cons _ _)⟩
  rw [Handler.wp_bind, Handler.wp_lift]
  cases refundPayload (refundFor booking live nowMs) with
  | error e => exact h _ _ (hspares _)
  | ok refund =>
    rw [ends_ok, Handler.wp_bind, Handler.wp_lift]
    cases refundSlabTag replacement.slabCode replacement.slabPercent replacement.id
        replacement.expiresAt with
    | error e => exact h _ _ (hspares _)
    | ok tag => exact h _ _ (hspares _)

/-- A seat of a cancellation is the same seat afterwards. -/
theorem sameSeat_cancelSeats (params : ApplyCancellation) (seatIds : List String)
    (seat : BookingSeatRow) : SameSeat seat (cancelSeats params seatIds seat) := by
  rw [cancelSeats, setIf]
  split
  · exact ⟨rfl, fun _ => rfl⟩
  · exact .refl seat

/-- The booking a cancellation changed is still there. -/
theorem SeatsCancelled.bookingById {params : ApplyCancellation}
    (h : SeatsCancelled params db db') (hexists : ∃ row ∈ db.bookings.rows, row.id = params.bookingId) :
    ∃ row, db'.bookingById params.bookingId = some row := by
  obtain ⟨row, hrow, hid⟩ := hexists
  refine Option.isSome_iff_exists.mp (List.find?_isSome.mpr ⟨settleBooking params db' row, ?_, ?_⟩)
  · rw [h.bookings]
    exact List.mem_map_of_mem hrow
  · rw [settleBooking, setIf, if_pos (decide_eq_true hid)]
    exact decide_eq_true hid

/-- A commitment that finds confirmed seats. -/
theorem confirmCancel_wp {booking : BookingRecord} {seats : List BookingSeatRow}
    {tags : Option (List BuyerTag)} {s₀ : History} (hs : Idle s₀ s)
    (hlive : confirmedOf seats ≠ [])
    (hexists : ∃ row ∈ s₀.world.db.bookings.rows, row.id = booking.id) :
    Handler.wp (calm d) i req
      (fun answer => Ended i s₀ booking (confirmedOf seats) tags (.ok answer))
      (fun e => Ended i s₀ booking (confirmedOf seats) tags (.error e))
      (confirmCancel booking seats tags) s := by
  rw [confirmCancel, if_neg (fun h => hlive (List.eq_nil_of_length_eq_zero h)), Handler.wp_bind]
  refine wp_now fun s₁ h₁ => ?_
  rw [Handler.wp_bind]
  refine namedQuote_wp fun s₂ h₂ => ?_
  -- all that has been done so far is to read
  have hdb₁ : s₁.world.db = s₀.world.db := (hs.trans h₁).db
  have hclock₁ : s₀.world.clock ≤ s₁.world.clock := (hs.trans h₁).clock
  have hread : (⟨i, .now, s₁.world.clock⟩ : Entry Op Resp) ∈ s₂.trace :=
    h₂.trace.subset (List.mem_cons_self ..)
  have hidle : Idle s₀ s₂ := (hs.trans h₁.answered).trans h₂
  have hrefused : ∀ e s', Spares s₂ s' → (∀ quote, s₀.world.db.quoteNamed tags = some quote →
      ¬ Accepts booking (confirmedOf seats) s₁.world.clock quote) →
        Ended i s₀ booking (confirmedOf seats) tags (.error e) s' := by
    intro e s' hspares hunfit
    refine ⟨s₁.world.clock, hclock₁, h₂.clock.trans hspares.clock, hspares.trace.subset hread, ?_⟩
    refine .refused hunfit ?_ ?_ ?_
    · rw [hspares.bookings, hidle.db]
    · rw [hspares.seats, hidle.db]
    · rw [hspares.locks, hidle.db]
  dsimp only
  rw [hdb₁, Handler.wp_bind, Handler.wp_lift]
  cases hquote : assertQuoteLive booking (sort ((confirmedOf seats).map BookingSeatRow.seatId))
      (s₀.world.db.quoteNamed tags) s₁.world.clock with
  | error e =>
    refine hrefused e s₂ (Idle.refl s₂).spares fun quote hnamed haccepts => ?_
    rw [assertQuoteLive_ok.mpr ⟨hnamed, haccepts.same, haccepts.seats, haccepts.inTime⟩] at hquote
    cases hquote
  | ok quote =>
    obtain ⟨hnamed, hbooking, hseats, hinTime⟩ := assertQuoteLive_ok.mp hquote
    rw [ends_ok]
    split
    · rename_i hmoved
      refine slabMoved_wp fun e s' hspares => hrefused e s' hspares fun other hother haccepts => ?_
      obtain rfl := Option.some.inj (hnamed.symm.trans hother)
      exact hmoved haccepts.slab
    · rename_i hslab
      have haccepts : Accepts booking (confirmedOf seats) s₁.world.clock quote :=
        ⟨hbooking, hseats, hinTime, not_not.mp hslab⟩
      rw [Handler.wp_bind, applyAndRead, Handler.wp_bind]
      refine wp_transact (fun s₃ raw u db₁ h₃ hrun => ?_) fun s₃ raw e h₃ hrun => ?_
      · rw [hidle.db] at hrun
        have hcancelled := applyCancellation_ok hrun
        obtain ⟨row, hrow⟩ := hcancelled.bookingById hexists
        rw [Handler.wp_bind]
        refine wp_read (fun w => .ok (w.db.bookingById booking.id)) (fun _ _ => rfl)
          fun s₄ h₄ => ?_
        have hdb₄ : s₄.world.db = db₁ := h₄.db
        rw [ends_ok, hdb₄, show db₁.bookingById booking.id = some row from hrow]
        refine bookingFromRow_wp fun s₅ h₅ => ?_
        have hdb₅ : s₅.world.db = db₁ := h₅.db.trans hdb₄
        dsimp only
        rw [hdb₄, Handler.wp_bind]
        refine wp_transact (fun s₆ raw u db₂ h₆ hstore => ?_) fun s₆ raw e h₆ hstore => ?_
        · rw [hdb₅] at hstore
          have hstored := updateStoredOrder_ok hstore
          rw [Handler.wp_bind]
          refine wp_push fun s₇ h₇ => ?_
          have hended : ∀ result, result = commitmentAnswer booking (confirmedOf seats)
              s₁.world.clock quote (cancelledOrder { row with seats := db₁.seatsOf row.id }) →
                Ended i s₀ booking (confirmedOf seats) tags result s₇ := by
            rintro _ rfl
            refine ⟨s₁.world.clock, hclock₁, ?_, ?_, ?_⟩
            · exact ((((h₂.clock.trans h₃.clock).trans h₄.clock).trans h₅.clock).trans
                h₆.clock).trans h₇.clock
            · refine h₇.trace.subset (List.mem_cons_of_mem _ (h₆.trace.subset (h₅.trace.subset ?_)))
              refine List.mem_cons_of_mem _ (h₄.trace.subset (List.mem_cons_of_mem _ ?_))
              exact h₃.trace.subset hread
            · rw [h₇.db]
              exact .applied hnamed haccepts hcancelled hrow hstored
          rw [Handler.wp_bind, Handler.wp_lift]
          simp only [commitmentAnswer, bind, Except.bind] at hended
          cases hrefund : refundPayload (refundFor booking (confirmedOf seats) s₁.world.clock) with
          | error e =>
            rw [hrefund] at hended
            exact hended _ rfl
          | ok refund =>
            rw [hrefund] at hended
            rw [ends_ok, Handler.wp_bind, Handler.wp_lift]
            cases htag : refundSlabTag
                (refundFor booking (confirmedOf seats) s₁.world.clock).slab.code
                (refundFor booking (confirmedOf seats) s₁.world.clock).slab.deductionPercent
                quote.id quote.expiresAt with
            | error e =>
              simp only [htag] at hended
              exact hended _ rfl
            | ok tag =>
              simp only [htag] at hended
              exact hended _ rfl
        · rw [hdb₅] at hstore
          obtain ⟨db₂, hgoes⟩ := updateStoredOrder_goes row.id
            (cancelledOrder { row with seats := db₁.seatsOf row.id }) db₁
          cases hgoes.symm.trans hstore
      · obtain ⟨db₁, hgoes⟩ := applyCancellation_goes
          (cancellationOf booking (confirmedOf seats) s₁.world.clock) s₂.world.db
        cases hgoes.symm.trans hrun

end Walk

/-! ## Served -/

/-- A commitment that reaches the seats it means. -/
structure Targets (d : Deployment) (req : Request) (db : ReservedDb) (booking : BookingRecord)
    (target : List BookingSeatRow) (tags : Option (List BuyerTag)) : Prop where
  /-- it addresses this provider, and the booking is the buyer app's -/
  reaches : ∃ context orderId, req.action = .cancel context orderId .confirm tags ∧
    assertBppAddress d context = .ok () ∧
      db.bookingFound d.operatorKey context.bapId context.bapUri orderId = some booking
  /-- the seats it means -/
  means : targetSeats booking (seatIdsFrom tags) = .ok target

/-- The booking it reaches is a row, with the seats there are. -/
theorem Targets.row {booking : BookingRecord} {target : List BookingSeatRow}
    {tags : Option (List BuyerTag)} (h : Targets d req db booking target tags) :
    booking.toBookingRow ∈ db.bookings.rows ∧ booking.seats = db.seatsOf booking.id := by
  obtain ⟨⟨context, orderId, -, -, hfound⟩, -⟩ := h
  obtain ⟨row, hrow, rfl⟩ := Option.map_eq_some_iff.mp hfound
  exact ⟨List.mem_of_find?_eq_some hrow, rfl⟩

/-- The confirmed seats it means are rows. -/
theorem Targets.confirmed {booking : BookingRecord} {target : List BookingSeatRow}
    {tags : Option (List BuyerTag)} (h : Targets d req db booking target tags) :
    ∀ seat ∈ confirmedOf target, seat ∈ db.bookingSeats.rows ∧ seat.bookingId = booking.id ∧
      seat.status = .confirmed := by
  intro seat hseat
  obtain ⟨hmem, hstatus⟩ := List.mem_filter.mp hseat
  have hfound := (targetSeats_sublist h.means).subset hmem
  rw [h.row.2] at hfound
  exact ⟨(mem_seatsOf.mp hfound).1, (mem_seatsOf.mp hfound).2, of_decide_eq_true hstatus⟩

/-- And different seats. -/
theorem Targets.nodup {booking : BookingRecord} {target : List BookingSeatRow}
    {tags : Option (List BuyerTag)} (h : Targets d req db booking target tags) :
    ((confirmedOf target).map BookingSeatRow.seatId).Nodup :=
  nodup_confirmedOf (h.row.2 ▸ nodup_seatsOf _ _) h.means

/-- A commitment that reaches some confirmed seats, by evaluation. -/
theorem Targets.of_eval {context : ReservedContext} {orderId : String}
    {tags : Option (List BuyerTag)} {n : ℕ}
    (haction : req.action = .cancel context orderId .confirm tags)
    (haddress : assertBppAddress d context = .ok ())
    (h : (db.bookingFound d.operatorKey context.bapId context.bapUri orderId).bind (fun booking =>
      (targetSeats booking (seatIdsFrom tags)).toOption.map fun target =>
        (confirmedOf target).length) = some (n + 1)) :
    ∃ booking target, Targets d req db booking target tags ∧ confirmedOf target ≠ [] := by
  obtain ⟨booking, hfound, htarget⟩ := Option.bind_eq_some_iff.mp h
  obtain ⟨target, hmeans, hlength⟩ := Option.map_eq_some_iff.mp htarget
  refine ⟨booking, target, ⟨⟨context, orderId, haction, haddress, hfound⟩, ?_⟩, fun hnil => ?_⟩
  · cases hseats : targetSeats booking (seatIdsFrom tags) with
    | error e =>
      rw [hseats] at hmeans
      cases hmeans
    | ok found =>
      rw [hseats] at hmeans
      rw [Option.some.inj hmeans]
  · rw [hnil] at hlength
    cases hlength

theorem cancel_wp {booking : BookingRecord} {target : List BookingSeatRow}
    {tags : Option (List BuyerTag)} (h : Targets d req s.world.db booking target tags)
    {ok : Answer → History → Prop} {err : Failure → History → Prop}
    (hconfirm : ∀ s₁, Idle s s₁ → Handler.wp (calm d) i req ok err
      (confirmCancel booking target tags) s₁) :
    Handler.wp (calm d) i req ok err (handle d req) s := by
  obtain ⟨⟨context, orderId, haction, haddress, hfound⟩, htarget⟩ := h
  rw [handle, haction]
  dsimp only
  rw [cancel, haddress, Handler.wp_bind, Handler.wp_lift, ends_ok, Handler.wp_bind,
    findBookingOrRefuse, Handler.wp_bind]
  refine findBooking_wp fun s₁ hidle => ?_
  rw [hfound]
  dsimp only
  rw [Handler.wp_pure, Handler.wp_bind, htarget, Handler.wp_lift, ends_ok]
  exact hconfirm s₁ hidle

/-- A commitment that finds confirmed seats, served alone, ends as `Commitment` says. -/
theorem commitment_of_served {booking : BookingRecord} {target : List BookingSeatRow}
    {tags : Option (List BuyerTag)} (htargets : Targets d req s.world.db booking target tags)
    (hlive : confirmedOf target ≠ []) {result : Except Failure Answer}
    (h : Served d i req s result s') : Ended i s booking (confirmedOf target) tags result s' := by
  refine Alone.sound (Q := fun result => Ended i s booking (confirmedOf target) tags result) ?_ h ?_
  · rintro result s₁ e w henv ⟨nowMs, hle, hge, hread, hend⟩
    have hidle := (Idle.refl s₁).happen henv
    refine ⟨nowMs, hle, hge.trans hidle.clock, hread, ?_⟩
    rw [hidle.db]
    exact hend
  · refine wp_mono ?_ (cancel_wp htargets fun s₁ hidle => confirmCancel_wp hidle hlive
      ⟨booking.toBookingRow, htargets.row.1, rfl⟩)
    rintro (e | answer) s₁ hend <;> exact hend

/-- A commitment that finds nothing confirmed answers what was refunded already, and changes
nothing. -/
theorem settled_of_served {booking : BookingRecord} {target : List BookingSeatRow}
    {tags : Option (List BuyerTag)} (htargets : Targets d req s.world.db booking target tags)
    (hnone : confirmedOf target = []) {result : Except Failure Answer}
    (h : Served d i req s result s') : s'.world.db = s.world.db ∧
      result = (storedRefund booking).map fun refund => Answer.order booking.order (some refund) [] := by
  refine Alone.sound (Q := fun result s' => s'.world.db = s.world.db ∧
    result = (storedRefund booking).map fun refund => Answer.order booking.order (some refund) []) ?_ h ?_
  · rintro result s₁ e w henv ⟨hdb, hresult⟩
    exact ⟨((Idle.refl s₁).happen henv).db.trans hdb, hresult⟩
  · have hwp : Handler.wp (calm d) i req
        (fun answer s' => s'.world.db = s.world.db ∧ Except.ok answer =
          (storedRefund booking).map fun refund => Answer.order booking.order (some refund) [])
        (fun e s' => s'.world.db = s.world.db ∧ Except.error e =
          (storedRefund booking).map fun refund => Answer.order booking.order (some refund) [])
        (handle d req) s := by
      refine cancel_wp htargets fun s₁ hidle => ?_
      rw [confirmCancel, hnone, if_pos (List.length_nil), Handler.wp_bind, Handler.wp_lift]
      cases storedRefund booking with
      | error e => exact ⟨hidle.db, rfl⟩
      | ok refund => exact ⟨hidle.db, rfl⟩
    refine wp_mono ?_ hwp
    rintro (e | answer) s₁ hend <;> exact hend

end TransitBpp
