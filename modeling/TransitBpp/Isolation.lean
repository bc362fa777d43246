import TransitBpp.BuyerApps
import TransitBpp.Retention

/-!
# Buyer apps apart

What a `status` or a `cancel` of one buyer app can see and change. Two worlds that agree on the rows
of the app may differ in everything else; the request is served in both, and the two runs are taken
step by step together (`cancel_alike`, `status_alike`). A cancellation cannot tell them apart. A
status can where its retention sweep stops on an order of another app in one of them only, and
nowhere else (`apps_isolated_iff`).
-/

namespace TransitBpp

open Interleave Js

variable {db db' db₁ db₂ : ReservedDb} {app other : BuyerApp} {bookingId : String}

/-! ## Two runs of one request -/

variable {d : Deployment} {process : ℕ} {raw : String} {w w' : World} {s t : World × World}

theorem findBooking_carry (operator bapId bapUri reference : String) :
    (findBooking operator bapId bapUri reference).run.carry (World.still d process raw) w =
      some (.ok (w.db.bookingFound operator bapId bapUri reference), w) := by
  have hread : (attempt (Prog.perform (Op.bookingByReference operator bapId bapUri reference)) :
      Act (Option BookingRow)).run.carry (World.still d process raw) w =
        some (.ok (w.db.bookingByReference operator bapId bapUri reference), w) := rfl
  rw [findBooking, bookingFrom, Handler.carry_bind_ok hread, ReservedDb.bookingFound]
  cases w.db.bookingByReference operator bapId bapUri reference with
  | none => rfl
  | some row => rfl

theorem bookingFound_congr (hrows : db₁.rowsOf app = db₂.rowsOf app) (operator reference : String) :
    db₁.bookingFound operator app.bapId app.bapUri reference =
      db₂.bookingFound operator app.bapId app.bapUri reference := by
  rw [ReservedDb.bookingFound, ReservedDb.bookingFound]
  have hrow : db₁.bookingByReference operator app.bapId app.bapUri reference =
      db₂.bookingByReference operator app.bapId app.bapUri reference := by
    rw [bookingByReference_eq, bookingByReference_eq, hrows]
  rw [hrow]
  cases hfound : db₂.bookingByReference operator app.bapId app.bapUri reference with
  | none => rfl
  | some row =>
    have hmem : row ∈ (db₂.rowsOf app).bookings := by
      rw [bookingByReference_eq] at hfound
      exact List.mem_of_find?_eq_some hfound
    have howns₂ := ReservedDb.owns_of_booking hmem
    have howns₁ : db₁.owns app row.id = true := by
      rw [owns_congr hrows]
      exact howns₂
    rw [Option.map_some, Option.map_some, seatsOf_eq howns₁, seatsOf_eq howns₂, hrows]

/-- A booking found for an app is the app's. -/
theorem owns_of_bookingFound {operator reference : String} {booking : BookingRecord}
    (h : db.bookingFound operator app.bapId app.bapUri reference = some booking) :
    db.owns app booking.id = true := by
  obtain ⟨row, hrow, rfl⟩ := Option.map_eq_some_iff.mp h
  rw [bookingByReference_eq] at hrow
  exact ReservedDb.owns_of_booking (List.mem_of_find?_eq_some hrow)

/-- The buyer app a context speaks for. -/
def ReservedContext.buyerApp (context : ReservedContext) : BuyerApp :=
  ⟨context.bapId, context.bapUri⟩

/-- The refusal of a reference that is no booking of the app. -/
def notFound (reference : String) : Failure :=
  .lifecycle ⟨.bookingNotFound, s!"No booking {reference} belongs to this buyer app", []⟩

/-- The booking a reference of the app names, or the refusal. -/
def ReservedDb.bookingOrRefusal (db : ReservedDb) (operator : String) (context : ReservedContext)
    (reference : String) : Except Failure BookingRecord :=
  (db.bookingFound operator context.bapId context.bapUri reference).elim
    (.error (notFound reference)) .ok

theorem bookingOrRefusal_congr {context : ReservedContext}
    (hrows : db₁.rowsOf context.buyerApp = db₂.rowsOf context.buyerApp)
    (operator reference : String) : db₁.bookingOrRefusal operator context reference =
      db₂.bookingOrRefusal operator context reference := by
  have hsame : db₁.bookingFound operator context.bapId context.bapUri reference =
      db₂.bookingFound operator context.bapId context.bapUri reference :=
    bookingFound_congr hrows _ _
  rw [ReservedDb.bookingOrRefusal, hsame, ReservedDb.bookingOrRefusal]

theorem findBookingOrRefuse_carry (context : ReservedContext) (reference : String) :
    (findBookingOrRefuse d context reference).run.carry (World.still d process raw) w =
      some (w.db.bookingOrRefusal d.operatorKey context reference, w) := by
  rw [findBookingOrRefuse, Handler.carry_bind_ok (findBooking_carry _ _ _ _),
    ReservedDb.bookingOrRefusal]
  cases w.db.bookingFound d.operatorKey context.bapId context.bapUri reference with
  | none => rfl
  | some booking => rfl

/-! ### Side by side -/

/-- Two worlds that a request of one buyer app cannot tell apart, each reached from one in which
every other app had the rows it has. -/
structure Beside (app : BuyerApp) (s t : World × World) : Prop where
  /-- the app's rows are the same in both -/
  rows : t.1.db.rowsOf app = t.2.db.rowsOf app
  /-- the clocks agree -/
  clock : t.1.clock = t.2.clock
  /-- the others have the rows they had -/
  others : ∀ other, other ≠ app → t.1.db.rowsOf other = s.1.db.rowsOf other ∧
    t.2.db.rowsOf other = s.2.db.rowsOf other

variable {α β γ : Type} {ok : β → World × World → Prop} {err : Failure → World × World → Prop}

theorem alike_transact {a : Transaction} {r : a.Answer}
    {ok : a.Answer → World × World → Prop} (h₁ : a.run raw t.1.db = .ok (r, db₁))
    (h₂ : a.run raw t.2.db = .ok (r, db₂))
    (h : ok r ({ t.1 with db := db₁ }, { t.2 with db := db₂ })) :
    Handler.Alike (World.still d process raw) ok err (transact a) t :=
  ⟨.ok r, ({ t.1 with db := db₁ }, { t.2 with db := db₂ }), transact_carry h₁, transact_carry h₂, h⟩

theorem alike_transact_error {a : Transaction} {e : Failure}
    {ok : a.Answer → World × World → Prop} (h₁ : a.run raw t.1.db = .error e)
    (h₂ : a.run raw t.2.db = .error e) (h : err e t) :
    Handler.Alike (World.still d process raw) ok err (transact a) t :=
  Handler.alike_read (transact_carry_error h₁) (transact_carry_error h₂) h

/-- Both worlds find the same booking, or none. -/
theorem alike_findBookingOrRefuse {context : ReservedContext} {reference : String}
    {ok : BookingRecord → World × World → Prop}
    (hrows : t.1.db.rowsOf context.buyerApp = t.2.db.rowsOf context.buyerApp)
    (hok : ∀ booking, t.1.db.bookingFound d.operatorKey context.bapId context.bapUri reference =
      some booking → ok booking t) (herr : ∀ e, err e t) :
    Handler.Alike (World.still d process raw) ok err
      (findBookingOrRefuse d context reference) t := by
  have hsame := bookingOrRefusal_congr hrows d.operatorKey reference
  refine Handler.alike_read (findBookingOrRefuse_carry context reference)
    (hsame ▸ findBookingOrRefuse_carry context reference) ?_
  rw [ReservedDb.bookingOrRefusal]
  cases hfound : t.1.db.bookingFound d.operatorKey context.bapId context.bapUri reference with
  | none => exact herr _
  | some booking => exact hok booking hfound

/-- The clocks answer the same. -/
theorem alike_now {ok : ℤ → World × World → Prop} (h : Beside app s t) (hok : ok t.1.clock t) :
    Handler.Alike (World.still d process raw) ok err (perform .now) t :=
  Handler.alike_read (r := .ok t.1.clock) rfl (h.clock ▸ rfl) hok

/-! ### Cancelling -/

/-- Another app's quote is as good as none. -/
theorem assertQuoteLive_own (booking : BookingRecord) (wanted : List String)
    (quote : Option RefundQuoteRecord) (nowMs : ℤ) : assertQuoteLive booking wanted quote nowMs =
      assertQuoteLive booking wanted (quote.filter fun q => q.bookingId = booking.id) nowMs := by
  cases quote with
  | none => rfl
  | some quote =>
    by_cases hid : quote.bookingId = booking.id
    · simp [Option.filter, hid]
    · simp [Option.filter, hid, assertQuoteLive]

theorem namedQuote_carry (tags : Option (List BuyerTag)) :
    (namedQuote tags).run.carry (World.still d process raw) w =
      some (.ok (w.db.quoteNamed tags), w) := by
  rw [namedQuote, ReservedDb.quoteNamed]
  cases (tagValue tags "REFUND_SLAB" "REFUND_QUOTE_ID").filter (· ≠ "") with
  | none => rfl
  | some quoteId => rfl

theorem assertQuoteLive_congr (hrows : db₁.rowsOf app = db₂.rowsOf app) {booking : BookingRecord}
    (howns : db₁.owns app booking.id = true) (wanted : List String)
    (tags : Option (List BuyerTag)) (nowMs : ℤ) :
    assertQuoteLive booking wanted (db₁.quoteNamed tags) nowMs =
      assertQuoteLive booking wanted (db₂.quoteNamed tags) nowMs := by
  have howns₂ : db₂.owns app booking.id = true := by
    rw [← owns_congr hrows]
    exact howns
  rw [assertQuoteLive_own, assertQuoteLive_own booking wanted (db₂.quoteNamed tags)]
  have hown : (db₁.quoteNamed tags).filter (fun q => q.bookingId = booking.id) =
      (db₂.quoteNamed tags).filter fun q => q.bookingId = booking.id := by
    rw [ReservedDb.quoteNamed, ReservedDb.quoteNamed]
    cases (tagValue tags "REFUND_SLAB" "REFUND_QUOTE_ID").filter (· ≠ "") with
    | none => rfl
    | some id =>
      rw [Option.bind_some, Option.bind_some, findRefundQuote_own howns,
        findRefundQuote_own howns₂, hrows]
  rw [hown]

/-- The ids a request may be given are new. -/
def FreshQuote (raw : String) (db : ReservedDb) : Prop :=
  ∀ id, shortId "RFQ-KSRTC" raw = .ok id → db.findRefundQuote id = none

theorem saveRefundQuote_goes (draft : QuoteDraft) {id : String}
    (hid : shortId "RFQ-KSRTC" raw = .ok id) (hfresh : db.findRefundQuote id = none) :
    ∃ db', saveRefundQuote draft raw db = .ok (⟨id, draft.bookingId, draft.seatIds, draft.slabCode,
      draft.slabPercent, draft.refundPaise, draft.quotedAt, draft.expiresAt⟩, db') := by
  have hnew : ∀ quote ∈ db.refundQuotes.rows, quote.id ≠ id := fun quote hquote hsame =>
    List.find?_eq_none.mp hfresh quote hquote (decide_eq_true hsame)
  have hinsert : ∀ quote : RefundQuoteRecord, quote.id = id →
      ∃ table, db.refundQuotes.insert [quote] = some table := by
    intro quote hquote
    refine Sql.Table.insert_isSome (by simp [Sql.UniqueOn, RefundQuoteRecord.primaryKey]) ?_
    intro key hkey row hrow row' hrow' k hk hk'
    obtain rfl := List.mem_singleton.mp hkey
    obtain rfl := List.mem_singleton.mp hrow'
    have hsame := hk.trans hk'.symm
    simp only [RefundQuoteRecord.primaryKey, Option.some.injEq, List.cons.injEq] at hsame
    exact hnew row hrow (hsame.1.trans hquote)
  obtain ⟨table, htable⟩ := hinsert ⟨id, draft.bookingId, draft.seatIds, draft.slabCode,
    draft.slabPercent, draft.refundPaise, draft.quotedAt, draft.expiresAt⟩ rfl
  refine ⟨{ db with refundQuotes := table }, Txn.bind_ok.mpr ⟨id, db, Txn.lift_ok.mpr ⟨hid, rfl⟩,
    Txn.bind_ok.mpr ⟨(), { db with refundQuotes := table }, ?_, rfl⟩⟩⟩
  refine statement_ok.mpr ⟨table, ?_, rfl⟩
  rw [htable]
  rfl

/-- A quote for an app's booking is saved in both worlds or in neither. -/
theorem alike_saveRefundQuote (h : Beside app s t) (hfresh₁ : FreshQuote raw t.1.db)
    (hfresh₂ : FreshQuote raw t.2.db) {draft : QuoteDraft}
    (howns : t.1.db.owns app draft.bookingId = true)
    {ok : RefundQuoteRecord → World × World → Prop}
    (hok : ∀ quote t', Beside app s t' → ok quote t') (herr : ∀ e, err e t) :
    Handler.Alike (World.still d process raw) ok err (transact (.saveRefundQuote draft)) t := by
  cases hid : shortId "RFQ-KSRTC" raw with
  | error e =>
    have hstop : ∀ db, saveRefundQuote draft raw db = .error e := by
      intro db
      rw [saveRefundQuote, hid]
      rfl
    exact alike_transact_error (a := .saveRefundQuote draft) (hstop _) (hstop _) (herr e)
  | ok id =>
    obtain ⟨db₁, h₁⟩ := saveRefundQuote_goes draft hid (hfresh₁ id hid)
    obtain ⟨db₂, h₂⟩ := saveRefundQuote_goes draft hid (hfresh₂ id hid)
    refine alike_transact (a := .saveRefundQuote draft) h₁ h₂ (hok _ _ ?_)
    obtain ⟨-, hl₁, hb₁, hs₁, hq₁⟩ := saveRefundQuote_ok h₁
    obtain ⟨-, hl₂, hb₂, hs₂, hq₂⟩ := saveRefundQuote_ok h₂
    have howns₂ : t.2.db.owns app draft.bookingId = true := by
      rw [← owns_congr h.rows]
      exact howns
    refine ⟨?_, h.clock, fun other hne => ⟨?_, ?_⟩⟩
    · rw [rowsOf_of_quote hl₁ hb₁ hs₁ hq₁, rowsOf_of_quote hl₂ hb₂ hs₂ hq₂, h.rows, howns, howns₂]
    · rw [rowsOf_of_quote hl₁ hb₁ hs₁ hq₁, ReservedDb.not_owns howns hne]
      simpa using (h.others other hne).1
    · rw [rowsOf_of_quote hl₂ hb₂ hs₂ hq₂, ReservedDb.not_owns howns₂ hne]
      simpa using (h.others other hne).2

theorem softCancel_alike {booking : BookingRecord} {seats : List BookingSeatRow}
    (h : Beside app s t) (hfresh₁ : FreshQuote raw t.1.db) (hfresh₂ : FreshQuote raw t.2.db)
    (howns : t.1.db.owns app booking.id = true) :
    Handler.Alike (World.still d process raw) (fun _ => Beside app s) (fun _ => Beside app s)
      (softCancel booking seats) t := by
  rw [softCancel]
  split
  · exact Handler.alike_lift_bind (fun _ _ => Handler.alike_pure h) fun _ _ => h
  · refine Handler.alike_bind (alike_now h ?_)
    refine Handler.alike_bind (alike_saveRefundQuote h hfresh₁ hfresh₂ howns ?_ fun _ => h)
    intro quote t' h'
    refine Handler.alike_lift_bind (fun _ _ => ?_) fun _ _ => h'
    exact Handler.alike_lift_bind (fun _ _ => Handler.alike_pure h') fun _ _ => h'

theorem slabMoved_alike {booking : BookingRecord} {live : List BookingSeatRow}
    {quote : RefundQuoteRecord} {nowMs : ℤ} (h : Beside app s t)
    (hfresh₁ : FreshQuote raw t.1.db) (hfresh₂ : FreshQuote raw t.2.db)
    (howns : t.1.db.owns app booking.id = true) :
    Handler.Alike (World.still d process raw) (fun _ => Beside app s) (fun _ => Beside app s)
      (slabMoved booking live quote nowMs) t := by
  rw [slabMoved]
  refine Handler.alike_bind (alike_saveRefundQuote h hfresh₁ hfresh₂ howns ?_ fun _ => h)
  intro quote' t' h'
  refine Handler.alike_lift_bind (fun _ _ => ?_) fun _ _ => h'
  exact Handler.alike_lift_bind (fun _ _ => Handler.alike_throw h') fun _ _ => h'

/-- Both worlds cancel the same seats, and read the same booking back. -/
theorem applyAndRead_alike {params : ApplyCancellation} (h : Beside app s t)
    (howns : t.1.db.owns app params.bookingId = true) {ok : BookingRecord → World × World → Prop}
    (hok : ∀ booking t', booking.id = params.bookingId → Beside app s t' →
      t'.1.db.owns app params.bookingId = true → ok booking t')
    (herr : ∀ e t', Beside app s t' → err e t') :
    Handler.Alike (World.still d process raw) ok err (applyAndRead params) t := by
  have howns₂ : t.2.db.owns app params.bookingId = true := by
    rw [← owns_congr h.rows]
    exact howns
  obtain ⟨db₁, h₁⟩ := applyCancellation_goes params t.1.db
  obtain ⟨db₂, h₂⟩ := applyCancellation_goes params t.2.db
  have hcancelled₁ := applyCancellation_ok h₁
  have hcancelled₂ := applyCancellation_ok h₂
  have hrows := hcancelled₁.agree hcancelled₂ howns h.rows
  have hbeside : Beside app s ({ t.1 with db := db₁ }, { t.2 with db := db₂ }) := by
    refine ⟨hrows, h.clock, fun other hne => ⟨?_, ?_⟩⟩
    · exact (hcancelled₁.others howns hne).trans (h.others other hne).1
    · exact (hcancelled₂.others howns₂ hne).trans (h.others other hne).2
  have howns₁' : db₁.owns app params.bookingId = true := by
    rw [hcancelled₁.mapped.owns]
    exact howns
  have howns₂' : db₂.owns app params.bookingId = true := by
    rw [← owns_congr hrows]
    exact howns₁'
  have hsame : db₁.bookingById params.bookingId = db₂.bookingById params.bookingId := by
    rw [bookingById_eq howns₁', bookingById_eq howns₂', hrows]
  rw [applyAndRead]
  refine Handler.alike_bind (alike_transact (a := .applyCancellation params) h₁ h₂ ?_)
  refine Handler.alike_bind (Handler.alike_read (r := .ok (db₁.bookingById params.bookingId)) rfl
    (hsame ▸ rfl) ?_)
  cases hrow : db₁.bookingById params.bookingId with
  | none => exact Handler.alike_throw (herr _ _ hbeside)
  | some row =>
    have hfound := List.find?_some hrow
    have hid : row.id = params.bookingId := by simpa using hfound
    have hseats : db₁.seatsOf row.id = db₂.seatsOf row.id := by
      rw [hid, seatsOf_eq howns₁', seatsOf_eq howns₂', hrows]
    refine Handler.alike_bind (x := attempt (Prog.perform (Op.bookingSeats row.id)))
      (Handler.alike_read (r := .ok (db₁.seatsOf row.id)) rfl
      (hseats ▸ rfl) ?_)
    exact Handler.alike_pure (hok _ _ hid hbeside howns₁')

/-- Both worlds store the same order. -/
theorem updateStoredOrder_alike {order : Order} (h : Beside app s t)
    (howns : t.1.db.owns app bookingId = true) {ok : Unit → World × World → Prop}
    (hok : ∀ t', Beside app s t' → ok () t') :
    Handler.Alike (World.still d process raw) ok err
      (transact (.updateStoredOrder bookingId order)) t := by
  have howns₂ : t.2.db.owns app bookingId = true := by
    rw [← owns_congr h.rows]
    exact howns
  obtain ⟨db₁, h₁⟩ := updateStoredOrder_goes bookingId order t.1.db
  obtain ⟨db₂, h₂⟩ := updateStoredOrder_goes bookingId order t.2.db
  have hstored₁ := updateStoredOrder_ok h₁
  have hstored₂ := updateStoredOrder_ok h₂
  refine alike_transact (a := .updateStoredOrder bookingId order) h₁ h₂ (hok _ ?_)
  refine ⟨?_, h.clock, fun other hne => ⟨?_, ?_⟩⟩
  · rw [hstored₁.mapped.rowsOf, hstored₂.mapped.rowsOf, h.rows]
  · exact (hstored₁.others howns hne).trans (h.others other hne).1
  · exact (hstored₂.others howns₂ hne).trans (h.others other hne).2

/-- Both worlds start the same push. -/
theorem startManifestPush_alike {serviceId travelDate : String} (h : Beside app s t)
    {ok : Unit → World × World → Prop} (hok : ∀ t', Beside app s t' → ok () t') :
    Handler.Alike (World.still d process raw) ok err
      (perform (.startManifestPush serviceId travelDate)) t :=
  ⟨.ok (), ({ t.1 with pushes := ⟨serviceId, travelDate, t.1.clock⟩ :: t.1.pushes },
    { t.2 with pushes := ⟨serviceId, travelDate, t.2.clock⟩ :: t.2.pushes }), rfl, rfl,
      hok _ ⟨h.rows, h.clock, h.others⟩⟩

theorem confirmCancel_alike {booking : BookingRecord} {seats : List BookingSeatRow}
    {tags : Option (List BuyerTag)} (h : Beside app s t) (hfresh₁ : FreshQuote raw t.1.db)
    (hfresh₂ : FreshQuote raw t.2.db) (howns : t.1.db.owns app booking.id = true) :
    Handler.Alike (World.still d process raw) (fun _ => Beside app s) (fun _ => Beside app s)
      (confirmCancel booking seats tags) t := by
  rw [confirmCancel]
  dsimp only
  split
  · exact Handler.alike_lift_bind (fun _ _ => Handler.alike_pure h) fun _ _ => h
  · refine Handler.alike_bind (alike_now h ?_)
    -- the quotes the two worlds have under the id may differ, and then neither will do
    refine Handler.alike_apart (namedQuote_carry tags) (namedQuote_carry tags)
      (congrArg (fun quote => (liftM quote : Act RefundQuoteRecord) >>= _)
        (assertQuoteLive_congr h.rows howns _ _ _)) ?_
    refine Handler.alike_lift_bind (fun quote _ => ?_) fun _ _ => h
    split
    · exact slabMoved_alike h hfresh₁ hfresh₂ howns
    · refine Handler.alike_bind (applyAndRead_alike h howns ?_ fun _ _ h' => h')
      intro updated t' hid h' howns'
      refine Handler.alike_bind (updateStoredOrder_alike h' ?_ ?_)
      · rw [hid]
        exact howns'
      · intro t'' h''
        refine Handler.alike_bind (startManifestPush_alike h'' fun t₃ h₃ => ?_)
        refine Handler.alike_lift_bind (fun _ _ => ?_) fun _ _ => h₃
        exact Handler.alike_lift_bind (fun _ _ => Handler.alike_pure h₃) fun _ _ => h₃

/-- **Cancelling**: both worlds answer the same and do the same to the app's rows, and nothing to
those of the others. -/
theorem cancel_alike {context : ReservedContext} {orderId : String} {step : CancelStep}
    {tags : Option (List BuyerTag)} (h : Beside context.buyerApp s t)
    (hfresh₁ : FreshQuote raw t.1.db) (hfresh₂ : FreshQuote raw t.2.db) :
    Handler.Alike (World.still d process raw) (fun _ => Beside context.buyerApp s)
      (fun _ => Beside context.buyerApp s) (cancel d context orderId step tags) t := by
  rw [cancel]
  refine Handler.alike_lift_bind (fun _ _ => ?_) fun _ _ => h
  refine Handler.alike_bind (alike_findBookingOrRefuse h.rows ?_ fun _ => h)
  intro booking hfound
  have howns : t.1.db.owns context.buyerApp booking.id = true := owns_of_bookingFound hfound
  refine Handler.alike_lift_bind (fun seats _ => ?_) fun _ _ => h
  cases step with
  | soft => exact softCancel_alike h hfresh₁ hfresh₂ howns
  | confirm => exact confirmCancel_alike h hfresh₁ hfresh₂ howns

/-! ### Asking for the status -/

/-- The world once a process has noted a manifest sweep. -/
def World.noteSweep (w : World) (process : ℕ) : World :=
  { w with lastManifestSweepAt := fun p =>
      if p = process then some w.clock else w.lastManifestSweepAt p }

/-- Whether the process owes a manifest sweep now. -/
def World.owesSweep (d : Deployment) (process : ℕ) (w : World) : Bool :=
  isSweepDue (w.lastManifestSweepAt process) w.clock d.manifestSweepIntervalMs

/-- The departures whose manifests a sweep clears now. -/
def World.sweepCutoff (d : Deployment) (w : World) : ℤ :=
  w.clock - d.reservation.manifestRetentionDays * dayMilliseconds

/-- The sweep of a status. -/
def statusSweep (d : Deployment) (w : World) : Act ℕ :=
  sweepManifests w.clock d.reservation.manifestRetentionDays

theorem statusSweep_throttled (h : w.owesSweep d process = false) :
    (statusSweep d w).run.carry (World.still d process raw) w = some (.ok 0, w) := by
  have hdue : (perform (.manifestSweepDue w.clock)).run.carry (World.still d process raw) w =
      some (.ok false, w) := by
    change ((World.exec d process ⟨raw, none⟩ w (.manifestSweepDue w.clock)).bind _) = _
    rw [World.owesSweep] at h
    simp only [World.exec, h]
    rfl
  rw [statusSweep, sweepManifests, Handler.carry_bind_ok hdue]
  rfl

theorem sweepDue_carry (h : w.owesSweep d process = true) :
    (perform (.manifestSweepDue w.clock)).run.carry (World.still d process raw) w =
      some (.ok true, w.noteSweep process) := by
  change ((World.exec d process ⟨raw, none⟩ w (.manifestSweepDue w.clock)).bind _) = _
  rw [World.owesSweep] at h
  simp only [World.exec, h]
  rfl

variable (raw) in
/-- A sweep that is due clears every stale manifest, where that can be done. -/
theorem statusSweep_clears (h : w.owesSweep d process = true)
    (hclears : (w.db.staleManifests (w.sweepCutoff d)).forM clearManifest w.db = .ok ((), db')) :
    ∃ n, (statusSweep d w).run.carry (World.still d process raw) w =
      some (.ok n, { w.noteSweep process with db := db' }) := by
  rw [statusSweep, sweepManifests, Handler.carry_bind_ok (sweepDue_carry h)]
  have hread : (attempt (Prog.perform (Op.staleManifests (w.sweepCutoff d)))).run.carry
      (World.still d process raw) (w.noteSweep process) =
        some (.ok (w.db.staleManifests (w.sweepCutoff d)), w.noteSweep process) := rfl
  change ∃ n, ((attempt (Prog.perform (Op.staleManifests (w.sweepCutoff d))) >>= _ :
    Act ℕ).run.carry _ _) = _
  rw [Handler.carry_bind_ok hread]
  split
  · rename_i hnone
    rw [List.length_eq_zero_iff.mp hnone] at hclears
    obtain ⟨-, rfl⟩ := Txn.pure_ok.mp hclears
    exact ⟨0, rfl⟩
  · have htransact := @transact_carry d process raw (w.noteSweep process) db' (.clearManifests _) _
      hclears
    rw [Handler.carry_bind_ok htransact]
    exact ⟨_, rfl⟩

variable (raw) in
/-- It stops where one cannot, and leaves the database as it was. -/
theorem statusSweep_stops (h : w.owesSweep d process = true)
    (hstops : ¬ w.db.Clears (w.sweepCutoff d)) :
    (statusSweep d w).run.carry (World.still d process raw) w =
      some (.error nullEntry, w.noteSweep process) := by
  rw [statusSweep, sweepManifests, Handler.carry_bind_ok (sweepDue_carry h)]
  have hread : (attempt (Prog.perform (Op.staleManifests (w.sweepCutoff d)))).run.carry
      (World.still d process raw) (w.noteSweep process) =
        some (.ok (w.db.staleManifests (w.sweepCutoff d)), w.noteSweep process) := rfl
  change ((attempt (Prog.perform (Op.staleManifests (w.sweepCutoff d))) >>= _ :
    Act ℕ).run.carry _ _) = _
  rw [Handler.carry_bind_ok hread]
  split
  · rename_i hnone
    refine absurd ?_ hstops
    rw [ReservedDb.Clears, List.length_eq_zero_iff.mp hnone]
    simp
  · have htransact := @transact_carry_error d process raw (w.noteSweep process)
      (.clearManifests _) _ (clearManifests_stops hstops w.db)
    rw [Handler.carry_bind_error htransact]

/-- What a status answers of a booking. -/
def statusOf (fresh : BookingRecord) : Except Failure Answer := do
  let refund ← if fresh.refundPaise.isNone then pure none else some <$> storedRefund fresh
  return .order fresh.order refund []

/-- The rest of a status, once it has swept. -/
def statusAnswer (d : Deployment) (context : ReservedContext) (reference : String) :
    Act Answer := do
  let fresh ← findBookingOrRefuse d context reference
  statusOf fresh

theorem statusAnswer_carry (context : ReservedContext) (reference : String) :
    (statusAnswer d context reference).run.carry (World.still d process raw) w =
      some (w.db.bookingOrRefusal d.operatorKey context reference >>= statusOf, w) := by
  have hfind := @findBookingOrRefuse_carry d process raw w context reference
  rw [statusAnswer]
  cases hfound : w.db.bookingOrRefusal d.operatorKey context reference with
  | error e =>
    rw [hfound] at hfind
    rw [Handler.carry_bind_error hfind]
    rfl
  | ok fresh =>
    rw [hfound] at hfind
    rw [Handler.carry_bind_ok hfind]
    change _ = some (statusOf fresh, w)
    cases statusOf fresh <;> rfl

/-- A status that finds its booking sweeps and answers. -/
theorem status_carry {context : ReservedContext} {orderId refId : Option String}
    {booking : BookingRecord} (haddress : assertBppAddress d context = .ok ())
    (hname : (orderId.or refId).getD "" ≠ "")
    (hfound : w.db.bookingFound d.operatorKey context.bapId context.bapUri
      ((orderId.or refId).getD "") = some booking) :
    (status d context orderId refId).run.carry (World.still d process raw) w =
      (statusSweep d w >>= fun _ => statusAnswer d context ((orderId.or refId).getD "")).run.carry
        (World.still d process raw) w := by
  have hfind := @findBookingOrRefuse_carry d process raw w context ((orderId.or refId).getD "")
  rw [ReservedDb.bookingOrRefusal, hfound, Option.elim_some] at hfind
  have hassert : (liftM (assertBppAddress d context) : Act Unit).run.carry
      (World.still d process raw) w = some (.ok (), w) := by
    rw [haddress]
    rfl
  have hnow : (perform .now).run.carry (World.still d process raw) w = some (.ok w.clock, w) := rfl
  rw [status, Handler.carry_bind_ok hassert]
  dsimp only
  rw [if_neg hname, Handler.carry_bind_ok hfind, Handler.carry_bind_ok hnow]
  refine congrArg (fun p : Act Answer => p.run.carry (World.still d process raw) w) ?_
  refine congrArg (fun k => statusSweep d w >>= k) (funext fun _ => ?_)
  rw [statusAnswer]
  refine congrArg (fun k => findBookingOrRefuse d context _ >>= k) (funext fun fresh => ?_)
  rw [statusOf]
  cases fresh.refundPaise.isNone with
  | true => rfl
  | false => cases storedRefund fresh <;> rfl

/-! ## The isolation of buyer apps -/

/-- A status or a cancel of a buyer app. -/
def BuyerApp.Asks (app : BuyerApp) (req : Request) : Prop :=
  (∃ context orderId refId, req.action = .status context orderId refId ∧
    context.buyerApp = app) ∨
  ∃ context orderId step tags, req.action = .cancel context orderId step tags ∧
    context.buyerApp = app

/-- Nothing changes the rows of an app but the retention sweep. -/
def OnlySwept (d : Deployment) (app : BuyerApp) (w w' : World) : Prop :=
  w'.db.rowsOf app = w.db.rowsOf app ∨
    w'.db.rowsOf app = (w.db.rowsOf app).swept (w.sweepCutoff d)

/-- A request of an app is answered the same in two worlds and leaves the app the same rows in both,
and in neither does anything but the retention sweep change the rows of another app. -/
def Isolated (d : Deployment) (app : BuyerApp) (req : Request) (raw : String) (w₁ w₂ : World) :
    Prop :=
  ∃ result w₁' w₂', w₁.serve d req raw = some (result, w₁') ∧
    w₂.serve d req raw = some (result, w₂') ∧ w₁'.db.rowsOf app = w₂'.db.rowsOf app ∧
      ∀ other, other ≠ app → OnlySwept d other w₁ w₁' ∧ OnlySwept d other w₂ w₂'

/-- The request is a status that gets as far as a retention sweep. -/
def ComesToSweep (d : Deployment) (req : Request) (w : World) : Prop :=
  ∃ context orderId refId booking, req.action = .status context orderId refId ∧
    assertBppAddress d context = .ok () ∧ (orderId.or refId).getD "" ≠ "" ∧
      w.db.bookingFound d.operatorKey context.bapId context.bapUri
        ((orderId.or refId).getD "") = some booking ∧ w.owesSweep d req.process = true

/-- What the two worlds end in. -/
structure Aside (d : Deployment) (app : BuyerApp) (s t : World × World) : Prop where
  /-- the app's rows are the same in both -/
  rows : t.1.db.rowsOf app = t.2.db.rowsOf app
  /-- those of the others are as they were, or swept -/
  others : ∀ other, other ≠ app → OnlySwept d other s.1 t.1 ∧ OnlySwept d other s.2 t.2

theorem Beside.aside (h : Beside app s t) : Aside d app s t :=
  ⟨h.rows, fun other hne => ⟨Or.inl (h.others other hne).1, Or.inl (h.others other hne).2⟩⟩

theorem statusAnswer_alike {context : ReservedContext} {reference : String}
    (h : Aside d context.buyerApp s t) :
    Handler.Alike (World.still d process raw) (fun _ => Aside d context.buyerApp s)
      (fun _ => Aside d context.buyerApp s) (statusAnswer d context reference) t := by
  have hsame := bookingOrRefusal_congr h.rows d.operatorKey reference
  refine Handler.alike_read (statusAnswer_carry context reference)
    (hsame ▸ statusAnswer_carry _ _) ?_
  cases t.1.db.bookingOrRefusal d.operatorKey context reference >>= statusOf <;> exact h

/-- **Asking for the status**: both worlds answer the same where both sweeps end or neither does. -/
theorem status_alike {context : ReservedContext} {orderId refId : Option String}
    (hrows : s.1.db.rowsOf context.buyerApp = s.2.db.rowsOf context.buyerApp)
    (hclock : s.1.clock = s.2.clock)
    (hsweeps : s.1.lastManifestSweepAt process = s.2.lastManifestSweepAt process)
    (hclears : ∀ booking, assertBppAddress d context = .ok () → (orderId.or refId).getD "" ≠ "" →
      s.1.db.bookingFound d.operatorKey context.bapId context.bapUri
        ((orderId.or refId).getD "") = some booking → s.1.owesSweep d process = true →
          (s.1.db.Clears (s.1.sweepCutoff d) ↔ s.2.db.Clears (s.2.sweepCutoff d))) :
    Handler.Alike (World.still d process raw) (fun _ => Aside d context.buyerApp s)
      (fun _ => Aside d context.buyerApp s) (status d context orderId refId) s := by
  have hstill : Aside d context.buyerApp s s :=
    ⟨hrows, fun _ _ => ⟨Or.inl rfl, Or.inl rfl⟩⟩
  have hcutoff : s.1.sweepCutoff d = s.2.sweepCutoff d := by
    rw [World.sweepCutoff, World.sweepCutoff, hclock]
  have howes : s.1.owesSweep d process = s.2.owesSweep d process := by
    rw [World.owesSweep, World.owesSweep, hclock, hsweeps]
  have hsame := bookingFound_congr hrows d.operatorKey ((orderId.or refId).getD "")
  cases haddress : assertBppAddress d context with
  | error e =>
    rw [status, haddress]
    exact Handler.alike_lift_bind (fun _ hok => by cases hok) fun _ _ => hstill
  | ok u =>
    by_cases hname : (orderId.or refId).getD "" = ""
    · rw [status, haddress]
      refine Handler.alike_lift_bind (fun _ _ => ?_) fun _ _ => hstill
      dsimp only
      rw [if_pos hname]
      exact Handler.alike_bind (Handler.alike_throw hstill)
    · cases hfound : s.1.db.bookingFound d.operatorKey context.bapId context.bapUri
        ((orderId.or refId).getD "") with
      | none =>
        rw [status, haddress]
        refine Handler.alike_lift_bind (fun _ _ => ?_) fun _ _ => hstill
        dsimp only
        rw [if_neg hname]
        refine Handler.alike_bind (alike_findBookingOrRefuse hrows ?_ fun _ => hstill)
        intro booking hbooking
        cases hfound.symm.trans hbooking
      | some booking =>
        have hsame₂ := hsame.symm.trans hfound
        have hsweep : statusSweep d s.2 = statusSweep d s.1 := by
          rw [statusSweep, statusSweep, hclock]
        have hrest : Handler.Alike (World.still d process raw)
            (fun _ => Aside d context.buyerApp s) (fun _ => Aside d context.buyerApp s)
            (statusSweep d s.1 >>= fun _ =>
              statusAnswer d context ((orderId.or refId).getD "")) s := by
          cases hdue : s.1.owesSweep d process with
          | false =>
            have hdue₂ := howes.symm.trans hdue
            exact Handler.alike_apart (statusSweep_throttled hdue)
              (hsweep ▸ statusSweep_throttled hdue₂) rfl (statusAnswer_alike hstill)
          | true =>
            have hdue₂ := howes.symm.trans hdue
            have hboth := hclears booking haddress hname hfound hdue
            by_cases hends : s.1.db.Clears (s.1.sweepCutoff d)
            · obtain ⟨db₁, h₁⟩ := clearManifests_goes hends s.1.db
              obtain ⟨db₂, h₂⟩ := clearManifests_goes (hboth.mp hends) s.2.db
              obtain ⟨n₁, hcarry₁⟩ := statusSweep_clears raw hdue h₁
              obtain ⟨n₂, hcarry₂⟩ := statusSweep_clears raw hdue₂ h₂
              rw [hsweep] at hcarry₂
              refine Handler.alike_apart (t := ({ s.1.noteSweep process with db := db₁ },
                { s.2.noteSweep process with db := db₂ })) hcarry₁ hcarry₂ rfl
                  (statusAnswer_alike ⟨?_, fun other _ => ⟨Or.inr ?_, Or.inr ?_⟩⟩)
              · rw [rowsOf_of_sweep h₁, rowsOf_of_sweep h₂, hrows, hcutoff]
              · exact rowsOf_of_sweep h₁ other
              · exact rowsOf_of_sweep h₂ other
            · have hcarry₁ := statusSweep_stops raw hdue hends
              have hcarry₂ := statusSweep_stops raw hdue₂ (mt hboth.mpr hends)
              rw [hsweep] at hcarry₂
              exact ⟨.error nullEntry, (s.1.noteSweep process, s.2.noteSweep process),
                Handler.carry_bind_error hcarry₁, Handler.carry_bind_error hcarry₂,
                ⟨hrows, fun _ _ => ⟨Or.inl rfl, Or.inl rfl⟩⟩⟩
        obtain ⟨result, t, h₁, h₂, hend⟩ := hrest
        rw [← hsweep] at h₂
        exact ⟨result, t, (status_carry haddress hname hfound).trans h₁,
          (status_carry haddress hname hsame₂).trans h₂, hend⟩

/-! ### Where the two worlds part -/

theorem paiseToRupees_error {paise : ℤ} {e : Failure} (h : paiseToRupees paise = .error e) :
    e = .error "paise must be a non-negative safe integer" := by
  rw [paiseToRupees] at h
  split at h
  · exact (Except.error.inj h).symm
  · cases h

theorem signedPrice_error {paise : ℤ} {e : Failure} (h : signedPrice paise = .error e) :
    e = .error "paise must be a non-negative safe integer" := by
  rw [signedPrice] at h
  split at h
  · cases h
  · rename_i e' he
    obtain rfl := Except.error.inj h
    rw [signedPaiseToRupees] at he
    split at he
    · rcases Except.bind_error.mp he with he | ⟨_, -, he⟩
      · exact paiseToRupees_error he
      · cases he
    · exact paiseToRupees_error he

theorem refundLine_error {code title : String} {paise : ℤ} {e : Failure}
    (h : refundLine code title paise = .error e) :
    e = .error "paise must be a non-negative safe integer" := by
  rcases Except.bind_error.mp h with h | ⟨_, -, h⟩
  · exact signedPrice_error h
  · cases h

/-- A status never fails as a sweep does. -/
theorem statusOf_ne (fresh : BookingRecord) : statusOf fresh ≠ .error nullEntry := by
  intro h
  have hrefund : storedRefund fresh = .error nullEntry := by
    rw [statusOf] at h
    split at h
    · cases h
    · cases hr : storedRefund fresh with
      | ok refund =>
        rw [hr] at h
        cases h
      | error e =>
        rw [hr] at h
        exact congrArg _ (Except.error.inj h)
  have hamount : nullEntry = .error "paise must be a non-negative safe integer" := by
    rw [storedRefund] at hrefund
    rcases Except.bind_error.mp hrefund with hrefund | ⟨_, -, hrefund⟩
    · exact signedPrice_error hrefund
    · rcases Except.bind_error.mp hrefund with hrefund | ⟨_, -, hrefund⟩
      · exact refundLine_error hrefund
      · rcases Except.bind_error.mp hrefund with hrefund | ⟨_, -, hrefund⟩
        · exact refundLine_error hrefund
        · rcases Except.bind_error.mp hrefund with hrefund | ⟨_, -, hrefund⟩
          · exact refundLine_error hrefund
          · rcases Except.bind_error.mp hrefund with hrefund | ⟨_, -, hrefund⟩
            · exact refundLine_error hrefund
            · cases hrefund
  simp [nullEntry] at hamount

theorem serve_status {req : Request} {context : ReservedContext} {orderId refId : Option String}
    (haction : req.action = .status context orderId refId) (w : World) :
    w.serve d req raw =
      (status d context orderId refId).run.carry (World.still d req.process raw) w := by
  change (handle d req).run.carry _ _ = _
  rw [handle, haction]

theorem serve_cancel {req : Request} {context : ReservedContext} {orderId : String}
    {step : CancelStep} {tags : Option (List BuyerTag)}
    (haction : req.action = .cancel context orderId step tags) (w : World) :
    w.serve d req raw =
      (cancel d context orderId step tags).run.carry (World.still d req.process raw) w := by
  change (handle d req).run.carry _ _ = _
  rw [handle, haction]

/-- A status whose sweep is due fails as the sweep does, where that stops, and nowhere else. -/
theorem serve_eq_nullEntry_iff {req : Request} (h : ComesToSweep d req w)
    {result : Except Failure Answer} (hserve : w.serve d req raw = some (result, w')) :
    result = .error nullEntry ↔ ¬ w.db.Clears (w.sweepCutoff d) := by
  obtain ⟨context, orderId, refId, booking, haction, haddress, hname, hfound, howes⟩ := h
  rw [serve_status haction, status_carry haddress hname hfound] at hserve
  by_cases hends : w.db.Clears (w.sweepCutoff d)
  · obtain ⟨db', hclears⟩ := clearManifests_goes hends w.db
    obtain ⟨n, hcarry⟩ := statusSweep_clears raw howes hclears
    rw [Handler.carry_bind_ok hcarry, statusAnswer_carry] at hserve
    obtain ⟨hresult, -⟩ := Prod.mk.inj (Option.some.inj hserve)
    refine ⟨fun hnull => ?_, fun hnot => absurd hends hnot⟩
    rw [hnull] at hresult
    rcases Except.bind_error.mp hresult with hresult | ⟨fresh, -, hresult⟩
    · rw [ReservedDb.bookingOrRefusal] at hresult
      cases hfresh : ReservedDb.bookingFound _ d.operatorKey context.bapId context.bapUri _ with
      | none =>
        rw [hfresh] at hresult
        cases Except.error.inj hresult
      | some fresh =>
        rw [hfresh] at hresult
        cases hresult
    · exact absurd hresult (statusOf_ne _)
  · rw [Handler.carry_bind_error (statusSweep_stops raw howes hends)] at hserve
    exact ⟨fun _ => hends, fun _ => (Prod.mk.inj (Option.some.inj hserve)).1.symm⟩

/-- **Buyer apps are isolated** exactly where no status of theirs comes to a sweep that stops, on an
order of another app, in one of the two worlds only. -/
theorem apps_isolated_iff {req : Request} {w₁ w₂ : World} (hasks : app.Asks req)
    (hrows : w₁.db.rowsOf app = w₂.db.rowsOf app) (hclock : w₁.clock = w₂.clock)
    (hsweeps : w₁.lastManifestSweepAt req.process = w₂.lastManifestSweepAt req.process)
    (hfresh₁ : FreshQuote raw w₁.db) (hfresh₂ : FreshQuote raw w₂.db) :
    Isolated d app req raw w₁ w₂ ↔ (ComesToSweep d req w₁ →
      (w₁.db.Clears (w₁.sweepCutoff d) ↔ w₂.db.Clears (w₂.sweepCutoff d))) := by
  refine ⟨?_, fun hclears => ?_⟩
  · rintro ⟨result, w₁', w₂', hserve₁, hserve₂, -, -⟩ hdue
    have hdue₂ : ComesToSweep d req w₂ := by
      obtain ⟨context, orderId, refId, booking, haction, haddress, hname, hfound, howes⟩ := hdue
      have happ : context.buyerApp = app := by
        rcases hasks with ⟨context', orderId', refId', haction', rfl⟩ | ⟨_, _, _, _, haction', -⟩
        · rw [haction] at haction'
          injection haction' with hcontext
          rw [hcontext]
        · rw [haction] at haction'
          cases haction'
      subst happ
      refine ⟨context, orderId, refId, booking, haction, haddress, hname, ?_, ?_⟩
      · exact (bookingFound_congr hrows _ _).symm.trans hfound
      · rw [World.owesSweep, ← hclock, ← hsweeps]
        exact howes
    have h₁ := serve_eq_nullEntry_iff hdue hserve₁
    have h₂ := serve_eq_nullEntry_iff hdue₂ hserve₂
    exact not_iff_not.mp (h₁.symm.trans h₂)
  · rcases hasks with ⟨context, orderId, refId, haction, rfl⟩ |
      ⟨context, orderId, step, tags, haction, rfl⟩
    · have halike : Handler.Alike (World.still d req.process raw) _ _
          (status d context orderId refId) (w₁, w₂) := status_alike hrows hclock hsweeps
        fun booking haddress hname hfound howes =>
          hclears ⟨context, orderId, refId, booking, haction, haddress, hname, hfound, howes⟩
      obtain ⟨result, t, h₁, h₂, hend⟩ := halike
      have haside : Aside d context.buyerApp (w₁, w₂) t := by
        cases result <;> exact hend
      exact ⟨result, t.1, t.2, (serve_status haction w₁).trans h₁,
        (serve_status haction w₂).trans h₂, haside.rows, haside.others⟩
    · have hstill : Beside context.buyerApp (w₁, w₂) (w₁, w₂) :=
        ⟨hrows, hclock, fun _ _ => ⟨rfl, rfl⟩⟩
      have halike : Handler.Alike (World.still d req.process raw) _ _
        (cancel d context orderId step tags) (w₁, w₂) := cancel_alike hstill hfresh₁ hfresh₂
      obtain ⟨result, t, h₁, h₂, hend⟩ := halike
      have hbeside : Beside context.buyerApp (w₁, w₂) t := by
        cases result <;> exact hend
      have haside : Aside d context.buyerApp (w₁, w₂) t := hbeside.aside
      exact ⟨result, t.1, t.2, (serve_cancel haction w₁).trans h₁,
        (serve_cancel haction w₂).trans h₂, haside.rows, haside.others⟩

/-- A cancellation is answered as if no other app had ever booked: another's reference or quote is
answered as one that does not exist. -/
theorem cancel_as_alone {req : Request} {context : ReservedContext} {orderId : String}
    {step : CancelStep} {tags : Option (List BuyerTag)}
    (haction : req.action = .cancel context orderId step tags) (hfresh : FreshQuote raw w.db) :
    ∃ result w₁ w₂, w.serve d req raw = some (result, w₁) ∧
      { w with db := w.db.only context.buyerApp }.serve d req raw = some (result, w₂) := by
  have hstill : Beside context.buyerApp (w, { w with db := w.db.only context.buyerApp })
      (w, { w with db := w.db.only context.buyerApp }) :=
    ⟨(rowsOf_only _ _).symm, rfl, fun _ _ => ⟨rfl, rfl⟩⟩
  have hfresh' : FreshQuote raw (w.db.only context.buyerApp) := by
    intro id hid
    have hnone := List.find?_eq_none.mp (hfresh id hid)
    exact List.find?_eq_none.mpr fun quote hquote => hnone quote (List.mem_filter.mp hquote).1
  have halike : Handler.Alike (World.still d req.process raw) _ _
    (cancel d context orderId step tags) (w, { w with db := w.db.only context.buyerApp }) :=
      cancel_alike hstill hfresh hfresh'
  obtain ⟨result, t, h₁, h₂, -⟩ := halike
  exact ⟨result, t.1, t.2, (serve_cancel haction _).trans h₁, (serve_cancel haction _).trans h₂⟩

/-! ## Two apps on one coach -/

/-- A buyer of another app. -/
def otherContext : ReservedContext :=
  { specimenContext "T2" with bapId := "bap2", bapUri := "https://bap2" }

/-- The status of the other app's booking. -/
def otherStatus : Request := ⟨0, .status otherContext (some "SPECIMEN-RSV-KSRTC-B2") none⟩

/-- Seat 1 is bought with such a payment, seat 2 by the other app, and ten days pass. -/
def bookedByTwo (tags : List Json) : Option World :=
  (serveAlone (specimenSelect "T1" ["1"]) "a1"
    ⟨World.initial specimenClock specimenSource, []⟩).bind fun s =>
      (serveAlone (specimenPaid tags) "b1" s).bind fun s =>
        (serveAlone ⟨0, .select otherContext (specimenInput 1 [seatsGroup ["2"]])⟩ "a2" s).bind
          fun s => (serveAlone ⟨0, .confirm otherContext
            (specimenInput 1 [manifestGroup [("2", "B", "female")]])⟩ "b2" s).map fun s =>
              { s.world with clock := s.world.clock + (10 * 86400000 : ℕ) }

/-- Whether every stale order can be cleared. -/
def clears (db : ReservedDb) (cutoff : ℤ) : Bool :=
  (db.staleManifests cutoff).all fun entry => entry.2.withoutManifestNames.toOption.isSome

theorem clears_iff {cutoff : ℤ} : clears db cutoff = true ↔ db.Clears cutoff := by
  rw [clears, List.all_eq_true, ReservedDb.Clears]
  refine forall₂_congr fun entry _ => ?_
  cases entry.2.withoutManifestNames <;> simp [Except.toOption]

/-- Whether the status of the other app comes to a sweep. -/
def otherSweeps (w : World) : Bool :=
  (w.db.bookingFound "ksrtc" "bap2" "https://bap2" "SPECIMEN-RSV-KSRTC-B2").isSome &&
    w.owesSweep specimenDeployment 0 && w.db.refundQuotes.rows.isEmpty

theorem comesToSweep_of_otherSweeps (h : otherSweeps w = true) :
    ComesToSweep specimenDeployment otherStatus w ∧ ∀ raw, FreshQuote raw w.db := by
  rw [otherSweeps, Bool.and_eq_true, Bool.and_eq_true] at h
  obtain ⟨⟨hfound, howes⟩, hquotes⟩ := h
  obtain ⟨booking, hbooking⟩ := Option.isSome_iff_exists.mp hfound
  refine ⟨⟨otherContext, some "SPECIMEN-RSV-KSRTC-B2", none, booking, rfl, rfl, by decide,
    hbooking, howes⟩, fun raw id _ => ?_⟩
  rw [ReservedDb.findRefundQuote, List.isEmpty_iff.mp hquotes]
  rfl

/-- **Another app can stop a status**: with a `null` in its stored order it does, and without the
other's rows the same status is answered. -/
theorem apps_not_isolated : ∃ w, bookedByTwo [manifestOf [.null]] = some w ∧
    ¬ Isolated specimenDeployment otherContext.buyerApp otherStatus "" w
      { w with db := w.db.only otherContext.buyerApp } := by
  have hdone : (bookedByTwo [manifestOf [.null]]).any (fun w => otherSweeps w &&
      otherSweeps { w with db := w.db.only otherContext.buyerApp } &&
        !clears w.db (w.sweepCutoff specimenDeployment) &&
          clears (w.db.only otherContext.buyerApp) (w.sweepCutoff specimenDeployment)) = true := by
    decide +kernel
  obtain ⟨w, hw, hchecks⟩ := (Option.any_eq_true _ _).mp hdone
  simp only [Bool.and_eq_true, Bool.not_eq_true'] at hchecks
  obtain ⟨⟨⟨hsweeps, hsweepsAlone⟩, hstops⟩, hends⟩ := hchecks
  refine ⟨w, hw, ?_⟩
  rintro ⟨result, w₁, w₂, hserve₁, hserve₂, -, -⟩
  have hstopped : result = .error nullEntry := by
    refine (serve_eq_nullEntry_iff (comesToSweep_of_otherSweeps hsweeps).1 hserve₁).mpr ?_
    rw [← clears_iff, hstops]
    exact Bool.false_ne_true
  exact (serve_eq_nullEntry_iff (comesToSweep_of_otherSweeps hsweepsAlone).1 hserve₂).mp hstopped
    (clears_iff.mp hends)

/-- Without the `null` the two apps are isolated. -/
theorem apps_isolated_iff_specimen : ∃ w, bookedByTwo [] = some w ∧
    Isolated specimenDeployment otherContext.buyerApp otherStatus "" w
      { w with db := w.db.only otherContext.buyerApp } := by
  have hdone : (bookedByTwo []).any (fun w => otherSweeps w &&
      otherSweeps { w with db := w.db.only otherContext.buyerApp } &&
        clears w.db (w.sweepCutoff specimenDeployment) &&
          clears (w.db.only otherContext.buyerApp) (w.sweepCutoff specimenDeployment)) = true := by
    decide +kernel
  obtain ⟨w, hw, hchecks⟩ := (Option.any_eq_true _ _).mp hdone
  simp only [Bool.and_eq_true] at hchecks
  obtain ⟨⟨⟨hsweeps, hsweepsAlone⟩, hends⟩, hendsAlone⟩ := hchecks
  have hasks : otherContext.buyerApp.Asks otherStatus :=
    Or.inl ⟨otherContext, some "SPECIMEN-RSV-KSRTC-B2", none, rfl, rfl⟩
  have hrows : w.db.rowsOf otherContext.buyerApp =
      ({ w with db := w.db.only otherContext.buyerApp } : World).db.rowsOf
        otherContext.buyerApp := (rowsOf_only _ _).symm
  have hfresh := (comesToSweep_of_otherSweeps hsweeps).2 ""
  have hfreshAlone := (comesToSweep_of_otherSweeps hsweepsAlone).2 ""
  refine ⟨w, hw, (apps_isolated_iff hasks hrows rfl rfl hfresh hfreshAlone).mpr fun _ => ?_⟩
  exact ⟨fun _ => clears_iff.mp hendsAlone, fun _ => clears_iff.mp hends⟩

end TransitBpp
