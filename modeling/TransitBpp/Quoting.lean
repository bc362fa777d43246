import TransitBpp.Conservation
import TransitBpp.Selecting
import TransitBpp.StoredOrders

/-!
# What was quoted, held and booked

A select quotes from the list of seats in its request, an init and a confirm from the hold, which
lists each seat once. `SelectRun`, `InitRun` and `BookRun` are what the three have done by the time
they answer.
-/

namespace TransitBpp

open Interleave Js

variable {d : Deployment} {jr jr' : Journal} {context : ReservedContext} {input : OrderInput}

/-! ## What an order is priced with -/

/-- What an order is priced with. -/
structure Terms : Type where
  /-- the departure -/
  resolved : Resolved
  /-- the boarding pair -/
  pair : BoardingPair
  /-- the fare -/
  cell : FareCell

/-- A request read its service and its fares in the catalogue. -/
structure LookedUp (resolved : Resolved) (jr : Journal) : Prop where
  /-- the service, by some id -/
  service : ∃ id, (⟨.service id, .ok (some resolved.service)⟩ : Line Op Resp) ∈ jr
  /-- its fares -/
  fareTable : (⟨.fareTable resolved.service.fareTableId, .ok (some resolved.fareTable)⟩ :
    Line Op Resp) ∈ jr

/-- A request comes to these terms. -/
structure Terms.Of (terms : Terms) (input : OrderInput) (jr : Journal) : Prop where
  /-- it read the catalogue -/
  read : LookedUp terms.resolved jr
  /-- the pair is that of the stops it names -/
  pair : boardingPairFromStops terms.resolved.service (stopsOf input) = .ok terms.pair
  /-- the fare is that of the pair -/
  fare : fareCell terms.resolved.fareTable terms.pair terms.resolved.service.serviceClass =
    .ok terms.cell

theorem LookedUp.later {resolved : Resolved} (h : LookedUp resolved jr) (hs : jr <:+ jr') :
    LookedUp resolved jr' := by
  obtain ⟨⟨id, hservice⟩, hfares⟩ := h
  exact ⟨⟨id, hs.subset hservice⟩, hs.subset hfares⟩

theorem Terms.Of.later {terms : Terms} (h : terms.Of input jr) (hs : jr <:+ jr') :
    terms.Of input jr' :=
  ⟨h.read.later hs, h.pair, h.fare⟩

/-- Resolving a request looks its departure up. -/
theorem resolveSelection_looks {P : Journal → Op → Prop} (hP : ∀ jr op, Incidental op → P jr op)
    (input : OrderInput) : Handler.Journal P (fun resolved jr' => LookedUp resolved jr')
      (fun _ _ => True) (resolveSelection d input) jr := by
  rw [resolveSelection, Handler.journal_bind, Handler.journal_lift]
  refine ⟨fun item _ => ?_, fun _ _ => trivial⟩
  rw [Handler.journal_bind, journal_attempt]
  refine journal_op.mpr ⟨hP _ _ trivial, ?_⟩
  rintro (e | found)
  · trivial
  rw [ends_ok, Handler.journal_bind, Handler.journal_lift]
  refine ⟨fun service hservice => ?_, fun _ _ => trivial⟩
  obtain rfl := serviceOf_ok hservice
  rw [Handler.journal_bind, Handler.journal_lift]
  refine ⟨fun departureAt _ => ?_, fun _ _ => trivial⟩
  rw [Handler.journal_bind, journal_perform]
  refine ⟨hP _ _ trivial, fun nowMs => ?_⟩
  rw [Handler.journal_bind, Handler.journal_lift]
  refine ⟨fun _ _ => ?_, fun _ _ => trivial⟩
  rw [seatMapFor, Handler.journal_bind, Handler.journal_bind, journal_attempt]
  refine journal_op.mpr ⟨hP _ _ trivial, ?_⟩
  rintro (e | _ | seatMap)
  · trivial
  · trivial
  rw [ends_ok, Handler.journal_pure, fareTableFor, Handler.journal_bind, Handler.journal_bind,
    journal_attempt]
  refine journal_op.mpr ⟨hP _ _ trivial, ?_⟩
  rintro (e | _ | fareTable)
  · trivial
  · trivial
  exact ⟨⟨item.serviceId, by simp⟩, by simp⟩

/-! ## What the three requests have done -/

/-- What a select that named seats has done when it answers. -/
structure SelectRun (d : Deployment) (context : ReservedContext) (input : OrderInput) (jr : Journal)
    (order : Order) : Type where
  /-- the terms -/
  terms : Terms
  /-- it came to them -/
  read : terms.Of input jr
  /-- the clock reading of the hold -/
  nowMs : ℤ
  /-- the hold -/
  hold : HoldRecord
  /-- it took the hold, of the seats it names -/
  held : (⟨.transaction (.acquireHold (holdRequest d terms.resolved (identityOf context)
    (seatIdsFrom input.tags) nowMs)), .ok hold⟩ : Line Op Resp) ∈ jr
  /-- the seats as the order shows them -/
  snapshot : Snapshot
  /-- the order renders what was selected -/
  render : renderOrder d (selectedOrder terms.resolved terms.pair terms.cell (identityOf context)
    input (some hold)) snapshot = .ok order

/-- What an init or a confirm has done when it has checked its hold. -/
structure HoldRun (d : Deployment) (context : ReservedContext) (input : OrderInput)
    (jr : Journal) : Type where
  /-- the terms -/
  terms : Terms
  /-- it came to them -/
  read : terms.Of input jr
  /-- the hold -/
  hold : HoldRecord
  /-- the passengers -/
  records : List ManifestRecord
  /-- the journal when the hold was checked -/
  checkedJr : Journal
  /-- the check -/
  checked : HoldChecked d terms.resolved (identityOf context) input hold records checkedJr
  /-- that was before -/
  earlier : checkedJr <:+ jr

/-- What an init builds its order from. -/
def initOrder (terms : Terms) (identity : ReservedIdentity) (input : OrderInput) (hold : HoldRecord)
    (records : List ManifestRecord) : BuildOrder where
  resolved := terms.resolved
  pair := terms.pair
  farePaise := terms.cell.farePaise
  fareSourcing := terms.cell.sourcing
  seatCount := hold.seatIds.length
  identity := identity
  seatIds := hold.seatIds
  hold := some hold
  concessionClaim := concessionFromOrderTags input.tags
  fulfillmentTags := [seatMapRefTag terms.resolved.seatMap.seatMapId, manifestTagFrom records]
  billing := input.billing
  payments := input.payments
  id := none
  status := none
  createdAt := none

theorem init_eq (context : ReservedContext) (input : OrderInput) : init d context input = do
    assertBppAddress d context
    assertPaymentStatus input.payments "NOT_PAID"
    let resolved ← resolveSelection d input
    let held ← liveHoldAndManifest d resolved (identityOf context) input
    let pair ← boardingPairFromStops resolved.service (stopsOf input)
    let cell ← fareCell resolved.fareTable pair resolved.service.serviceClass
    let order ← buildOrder d (initOrder ⟨resolved, pair, cell⟩ (identityOf context) input held.1
      held.2)
    return .order order none [] := rfl

/-- What an init has done when it answers. -/
structure InitRun (d : Deployment) (context : ReservedContext) (input : OrderInput) (jr : Journal)
    (order : Order) : Type extends HoldRun d context input jr where
  /-- the seats as the order shows them -/
  snapshot : Snapshot
  /-- the order renders what is held -/
  render : renderOrder d (initOrder terms (identityOf context) input hold records) snapshot =
    .ok order

/-- The id and the reference of a booking, which end alike. -/
def BookingNamed (d : Deployment) (orderId reference : String) : Prop :=
  ∃ suffix : String, '-' ∉ suffix.toList ∧
    orderId = s!"SPECIMEN-RSV-{String.ofList (d.operatorKey.toList.map Char.toUpper)}-{suffix}" ∧
      reference = s!"SPECIMEN-{String.ofList (d.operatorKey.toList.map Char.toUpper)}-{suffix}"

/-- What a confirm has done when it makes its booking. -/
structure BookRun (d : Deployment) (context : ReservedContext) (input : OrderInput) (jr : Journal)
    (params : ConfirmBooking) : Type extends HoldRun d context input jr where
  /-- the clock reading of the booking -/
  nowMs : ℤ
  /-- the booking has a name -/
  named : BookingNamed d params.orderId params.reference
  /-- the seats as the order shows them -/
  snapshot : Snapshot
  /-- the order renders what is booked -/
  render : renderOrder d (bookedOrder terms.resolved terms.pair terms.cell (identityOf context)
    records input nowMs params.orderId params.reference) snapshot = .ok params.order
  /-- the hold is the one that is booked -/
  holdId : params.holdId = hold.holdId

/-- A booking is made under names of its own. -/
def NamesBooking (d : Deployment) : Op → Prop
  | .transaction (.confirmBooking params) => BookingNamed d params.orderId params.reference
  | _ => True

theorem Incidental.namesBooking (op : Op) (h : Incidental op) : NamesBooking d op := by
  unfold NamesBooking
  split
  · exact h.elim
  · trivial

/-! ### select -/

/-- What a request knows of a booking it makes. -/
abbrev Naming (d : Deployment) (_ : Journal) (op : Op) : Prop := NamesBooking d op

theorem buildOrder_gives (input : BuildOrder) : Handler.Journal (Naming d)
    (fun order jr' => (∃ snapshot, renderOrder d input snapshot = .ok order) ∧
      ∀ l ∈ jr', l ∈ jr ∨ Incidental l.op) (fun _ _ => True) (buildOrder d input) jr := by
  have hknows := @buildOrder_knows d ⟨0, .search ⟨none, none, none, none⟩⟩ jr input
  refine (hknows.acting (buildOrder_acts (fun _ => id) input) fun _ => Incidental.namesBooking).weaken
    (fun order jr' _ h => ?_) fun _ _ _ => trivial
  obtain ⟨⟨snapshot, -, hrender⟩, hadds⟩ := h
  exact ⟨⟨snapshot, hrender⟩, hadds⟩

theorem holdSeats_holds (resolved : Resolved) (identity : ReservedIdentity)
    (seatIds : List String) : Handler.Journal (Naming d)
      (fun hold jr' => ∃ nowMs, (⟨.transaction (.acquireHold (holdRequest d resolved identity seatIds
        nowMs)), .ok hold⟩ : Line Op Resp) ∈ jr') (fun _ _ => True)
      (holdSeats d resolved identity seatIds) jr := by
  rw [holdSeats, Handler.journal_bind, Handler.journal_lift]
  refine ⟨fun _ _ => ?_, fun _ _ => trivial⟩
  rw [Handler.journal_bind, journal_perform]
  refine ⟨trivial, fun nowMs => ?_⟩
  have hsnapshot : ∀ jr₁, Handler.Journal (Naming d) (fun _ _ => True) (fun _ _ => True)
      (snapshot d resolved.service resolved.seatMap resolved.travelDate identity) jr₁ := by
    intro jr₁
    refine (snapshot_acts Incidental.namesBooking _ _ _ _).journal (fun _ _ hop => hop) ?_
    rintro (e | a) jr₂ <;> trivial
  rw [Handler.journal_bind]
  refine (hsnapshot _).weaken (fun before jr₁ _ _ => ?_) fun _ _ _ => trivial
  rw [Handler.journal_bind, Handler.journal_lift]
  refine ⟨fun _ _ => ?_, fun _ _ => trivial⟩
  rw [takeHold, Handler.journal_tryCatch]
  refine journal_transact.mpr ⟨trivial, fun hold => ⟨nowMs, List.mem_cons_self ..⟩, fun e => ?_⟩
  rcases e with e | - | message
  · dsimp only
    split
    · rw [Handler.journal_bind]
      exact (hsnapshot _).weaken (fun _ _ _ _ => trivial) fun _ _ _ => trivial
    · trivial
  · trivial
  · trivial

/-- An order that is answered has come about in one way. -/
def AnswersOrder (run : Order → Journal → Prop) : Answer → Journal → Prop
  | .order order _ _, jr => run order jr
  | .catalog _, _ => False

theorem select_runs (context : ReservedContext) (input : OrderInput) :
    Handler.Journal (Naming d) (AnswersOrder fun order jr' => seatIdsFrom input.tags ≠ [] →
      Nonempty (SelectRun d context input jr' order)) (fun _ _ => True) (select d context input)
      jr := by
  rw [select_eq, Handler.journal_bind, Handler.journal_lift]
  refine ⟨fun _ _ => ?_, fun _ _ => trivial⟩
  rw [Handler.journal_bind]
  refine (resolveSelection_looks (fun _ => Incidental.namesBooking) input).weaken
    (fun resolved jr₁ _ hlooked => ?_) fun _ _ _ => trivial
  rw [Handler.journal_bind, Handler.journal_lift]
  refine ⟨fun _ _ => ?_, fun _ _ => trivial⟩
  rw [Handler.journal_bind, Handler.journal_lift]
  refine ⟨fun pair hpair => ?_, fun _ _ => trivial⟩
  rw [Handler.journal_bind, Handler.journal_lift]
  refine ⟨fun cell hcell => ?_, fun _ _ => trivial⟩
  split
  · rw [Handler.journal_bind, map_eq_pure_bind, Handler.journal_bind]
    refine (holdSeats_holds resolved _ _).weaken (fun hold jr₂ hs₂ hheld => ?_) fun _ _ _ => trivial
    obtain ⟨nowMs, hheld⟩ := hheld
    rw [Handler.journal_pure, Handler.journal_bind]
    refine (buildOrder_gives _).weaken (fun order jr₃ hs₃ hrender _ => ?_) fun _ _ _ => trivial
    obtain ⟨⟨snapshot, hrender⟩, -⟩ := hrender
    exact ⟨⟨⟨resolved, pair, cell⟩, ⟨hlooked.later (hs₂.trans hs₃), hpair, hcell⟩, nowMs, hold,
      hs₃.subset hheld, snapshot, hrender⟩⟩
  · rename_i hnone
    rw [Handler.journal_bind, Handler.journal_pure, Handler.journal_bind]
    refine (buildOrder_gives _).weaken (fun order jr₃ _ _ hnamed => ?_) fun _ _ _ => trivial
    exact absurd (List.length_pos_of_ne_nil hnamed) hnone

/-! ### init -/

theorem liveHoldAndManifest_checks (resolved : Resolved) (identity : ReservedIdentity)
    (input : OrderInput) : Handler.Journal (Naming d)
      (fun held jr' => Nonempty (HoldChecked d resolved identity input held.1 held.2 jr') ∧
        ∀ l ∈ jr', l ∈ jr ∨ Incidental l.op)
      (fun _ _ => True) (liveHoldAndManifest d resolved identity input) jr := by
  have hknows := @liveHoldAndManifest_knows d ⟨0, .search ⟨none, none, none, none⟩⟩ jr resolved
    identity input
  refine (hknows.acting (liveHoldAndManifest_acts (fun _ => id) resolved identity input)
    fun _ => Incidental.namesBooking).weaken (fun held jr' _ h => ?_) fun _ _ _ => trivial
  obtain ⟨⟨checked, -⟩, hadds⟩ := h
  exact ⟨⟨checked⟩, hadds⟩

theorem init_runs (context : ReservedContext) (input : OrderInput) :
    Handler.Journal (Naming d) (AnswersOrder fun order jr' =>
      Nonempty (InitRun d context input jr' order)) (fun _ _ => True) (init d context input)
      jr := by
  rw [init_eq, Handler.journal_bind, Handler.journal_lift]
  refine ⟨fun _ _ => ?_, fun _ _ => trivial⟩
  rw [Handler.journal_bind, Handler.journal_lift]
  refine ⟨fun _ _ => ?_, fun _ _ => trivial⟩
  rw [Handler.journal_bind]
  refine (resolveSelection_looks (fun _ => Incidental.namesBooking) input).weaken
    (fun resolved jr₁ _ hlooked => ?_) fun _ _ _ => trivial
  rw [Handler.journal_bind]
  refine (liveHoldAndManifest_checks resolved _ input).weaken (fun held jr₂ hs₂ hchecked => ?_)
    fun _ _ _ => trivial
  obtain ⟨⟨checked⟩, -⟩ := hchecked
  rw [Handler.journal_bind, Handler.journal_lift]
  refine ⟨fun pair hpair => ?_, fun _ _ => trivial⟩
  rw [Handler.journal_bind, Handler.journal_lift]
  refine ⟨fun cell hcell => ?_, fun _ _ => trivial⟩
  rw [Handler.journal_bind]
  refine (buildOrder_gives _).weaken (fun order jr₃ hs₃ hrender => ?_) fun _ _ _ => trivial
  obtain ⟨⟨snapshot, hrender⟩, -⟩ := hrender
  exact ⟨⟨⟨⟨resolved, pair, cell⟩, ⟨hlooked.later (hs₂.trans hs₃), hpair, hcell⟩, held.1, held.2,
    jr₂, checked, hs₃⟩, snapshot, hrender⟩⟩

/-! ### confirm -/

/-- No booking has been made yet. -/
def Unbooked (jr : Journal) : Prop := ∀ l ∈ jr, ∀ params,
  l ≠ ⟨.transaction (.confirmBooking params), .ok ()⟩

theorem Unbooked.adds (h : Unbooked jr) (hadds : ∀ l ∈ jr', l ∈ jr ∨ Incidental l.op) :
    Unbooked jr' := by
  intro l hl params heq
  rcases hadds l hl with hl | hop
  · exact h l hl params heq
  · rw [heq] at hop
    exact hop

/-- A confirm that made a booking answers the order it read back. -/
def BookedOrder (d : Deployment) (context : ReservedContext) (input : OrderInput) (order : Order)
    (jr : Journal) : Prop :=
  ∀ params, (⟨.transaction (.confirmBooking params), .ok ()⟩ : Line Op Resp) ∈ jr →
    Nonempty (BookRun d context input jr params) ∧ ∃ row : BookingRow, row.order = order ∧
      (⟨.bookingByReference d.operatorKey context.bapId context.bapUri params.orderId,
        .ok (some row)⟩ : Line Op Resp) ∈ jr

theorem Unbooked.booked (h : Unbooked jr) (order : Order) :
    BookedOrder d context input order jr :=
  fun params hmem => absurd rfl (h _ hmem params)

theorem BookRun.later {params : ConfirmBooking} (run : BookRun d context input jr params)
    (hs : jr <:+ jr') : Nonempty (BookRun d context input jr' params) :=
  ⟨⟨⟨run.terms, run.read.later hs, run.hold, run.records, run.checkedJr, run.checked,
    run.earlier.trans hs⟩, run.nowMs, run.named, run.snapshot, run.render, run.holdId⟩⟩

theorem BookedOrder.later {order : Order} (h : BookedOrder d context input order jr)
    (hs : jr <:+ jr') (hadds : ∀ l ∈ jr', l ∈ jr ∨ Incidental l.op) :
    BookedOrder d context input order jr' := by
  intro params hmem
  rcases hadds _ hmem with hmem | hop
  · obtain ⟨⟨run⟩, row, horder, hread⟩ := h params hmem
    exact ⟨run.later hs, row, horder, hs.subset hread⟩
  · exact hop.elim

/-- One more incidental operation. -/
theorem adds_cons (op : Op) {r : Resp op} (hop : Incidental op) :
    ∀ l ∈ (⟨op, r⟩ : Line Op Resp) :: jr, l ∈ jr ∨ Incidental l.op := by
  intro l hl
  rcases List.mem_cons.mp hl with rfl | hl
  · exact .inr hop
  · exact .inl hl

theorem commitBooking_books {params : ConfirmBooking} (hjr : Unbooked jr)
    (run : BookRun d context input jr params) (hoperator : params.operator = d.operatorKey)
    (hidentity : params.identity = identityOf context) :
    Handler.Journal (Naming d)
      (fun booking jr' => BookedOrder d context input booking.order jr') (fun _ _ => True)
      (commitBooking params) jr := by
  rw [commitBooking, Handler.journal_bind, Handler.journal_tryCatch, Handler.journal_bind]
  refine journal_transact.mpr ⟨run.named, fun _ => ?_, fun e => ?_⟩
  · rw [Handler.journal_pure]
    dsimp only
    rw [Handler.journal_bind]
    have hknows := @findBooking_knows d ⟨0, .search ⟨none, none, none, none⟩⟩
      (⟨.transaction (.confirmBooking params), .ok ()⟩ :: jr) params.operator
      params.identity.bapId params.identity.bapUri params.orderId
    refine (hknows.acting (findBooking_acts (fun _ => id) _ _ _ _)
      fun _ => Incidental.namesBooking).weaken (fun found jr₂ hs₂ hfound => ?_) fun _ _ _ => trivial
    obtain ⟨hreads, hadds⟩ := hfound
    cases found with
    | none => trivial
    | some booking =>
      intro params' hmem
      have hread := hreads booking rfl
      rcases hadds _ hmem with hmem | hop
      · rcases List.mem_cons.mp hmem with heq | hmem
        · cases heq
          refine ⟨run.later ((List.suffix_cons _ _).trans hs₂), booking.toBookingRow, rfl, ?_⟩
          rw [hread, ← hoperator]
          have hbap : context.bapId = params.identity.bapId ∧
              context.bapUri = params.identity.bapUri := by
            rw [hidentity]
            exact ⟨rfl, rfl⟩
          rw [hbap.1, hbap.2]
          exact List.mem_append_left _ (List.mem_cons_of_mem _ (List.mem_cons_self ..))
        · exact absurd rfl (hjr _ hmem params')
      · exact hop.elim
  · have hfailed : Unbooked (⟨.transaction (.confirmBooking params), .error e⟩ :: jr) := by
      intro l hl params' heq
      rcases List.mem_cons.mp hl with rfl | hl
      · cases heq
      · exact hjr l hl params' heq
    rcases e with e | - | message
    · trivial
    · have hacts : Handler.Acts Incidental
          (findBookingByTransaction params.operator params.identity) :=
        findBookingByTransaction_acts (fun _ => id) _ _
      have hblind := @findBookingByTransaction_knows d ⟨0, .search ⟨none, none, none, none⟩⟩
        params.operator params.identity (⟨.transaction (.confirmBooking params), .error .unique⟩ :: jr)
      dsimp only
      rw [Handler.journal_bind]
      refine (hblind.acting hacts fun _ => Incidental.namesBooking).weaken
        (fun found jr₂ _ hfound => ?_) fun _ _ _ => trivial
      cases found with
      | none => trivial
      | some booking => exact (hfailed.adds hfound.2).booked booking.order
    · trivial

theorem toUpper_ne {c : Char} (hc : c ≠ '-') : c.toUpper ≠ '-' := by
  intro h
  unfold Char.toUpper at h
  split at h
  · rename_i hlower
    have hval := congrArg (fun c : Char => c.val.toNat) h
    have hlow : 97 ≤ c.val.toNat := UInt32.le_iff_toNat_le.mp hlower.1
    have hhigh : c.val.toNat ≤ 122 := UInt32.le_iff_toNat_le.mp hlower.2
    have hback : ('A'.val - 'a'.val).toNat = 4294967264 := by decide
    have hdash : ('-').val.toNat = 45 := by decide
    dsimp only at hval
    rw [UInt32.toNat_add, hback, hdash] at hval
    omega
  · exact hc h

/-- The end of a name has no dash in it. -/
theorem not_mem_usable (raw : String) : '-' ∉ (usable raw).take 8 := by
  intro hmem
  obtain ⟨c, hc, hdash⟩ := List.mem_map.mp (List.mem_of_mem_take hmem)
  have husable := (List.mem_filter.mp hc).2
  refine toUpper_ne ?_ hdash
  rintro rfl
  exact absurd husable (by decide)

theorem confirmNew_books (context : ReservedContext) (input : OrderInput) (hjr : Unbooked jr) :
    Handler.Journal (Naming d)
      (fun booking jr' => BookedOrder d context input booking.order jr')
      (fun _ _ => True) (confirmNew d context input) jr := by
  rw [confirmNew, Handler.journal_bind]
  have hlooks := @resolveSelection_looks d jr (Naming d) (fun _ => Incidental.namesBooking) input
  refine (hlooks.acting (resolveSelection_acts (fun _ => id) input)
    fun _ => Incidental.namesBooking).weaken (fun resolved jr₁ _ hlooked => ?_) fun _ _ _ => trivial
  obtain ⟨hlooked, hadds₁⟩ := hlooked
  rw [Handler.journal_bind]
  refine (liveHoldAndManifest_checks resolved _ input).weaken ?_ fun _ _ _ => trivial
  rintro ⟨hold, records⟩ jr₂ hs₂ ⟨⟨checked⟩, hadds₂⟩
  rw [Handler.journal_bind, Handler.journal_lift]
  refine ⟨fun pair hpair => ?_, fun _ _ => trivial⟩
  rw [Handler.journal_bind, Handler.journal_lift]
  refine ⟨fun cell hcell => ?_, fun _ _ => trivial⟩
  rw [Handler.journal_bind, journal_perform]
  refine ⟨trivial, fun nowMs => ?_⟩
  rw [Handler.journal_bind, journal_perform]
  refine ⟨trivial, fun raw => ?_⟩
  rw [Handler.journal_bind]
  refine (buildOrder_gives _).weaken (fun order jr₃ hs₃ hbuilt => ?_) fun _ _ _ => trivial
  obtain ⟨⟨snapshot, hrender⟩, hadds₃⟩ := hbuilt
  have hjr₂ : Unbooked jr₂ := (hjr.adds hadds₁).adds hadds₂
  have hjr₃ : Unbooked jr₃ :=
    ((hjr₂.adds (adds_cons .now trivial)).adds (adds_cons .newId trivial)).adds hadds₃
  have hearlier : jr₂ <:+ jr₃ := ((List.suffix_cons _ _).trans (List.suffix_cons _ _)).trans hs₃
  have hname : '-' ∉ (String.ofList ((usable raw).take 8)).toList := by
    rw [String.toList_ofList]
    exact not_mem_usable raw
  let run : BookRun d context input jr₃ (newBooking d resolved pair cell (identityOf context) hold
      records nowMs _ _ order) :=
    ⟨⟨⟨resolved, pair, cell⟩, ⟨hlooked.later (hs₂.trans hearlier), hpair, hcell⟩, hold, records,
      jr₂, checked, hearlier⟩, nowMs, ⟨_, hname, rfl, rfl⟩, snapshot, hrender, rfl⟩
  rw [Handler.journal_bind]
  refine (commitBooking_books hjr₃ run rfl rfl).weaken (fun booking jr₄ _ hbooked => ?_)
    fun _ _ _ => trivial
  rw [Handler.journal_bind]
  refine journal_perform.mpr ⟨trivial, fun _ => ?_⟩
  exact hbooked.later (List.suffix_cons _ _) (adds_cons (.startManifestPush _ _) trivial)

theorem confirm_runs (context : ReservedContext) (input : OrderInput) :
    Handler.Journal (Naming d) (AnswersOrder fun order jr' => BookedOrder d context input order jr')
      (fun _ _ => True) (confirm d context input) [] := by
  rw [confirm, Handler.journal_bind, Handler.journal_lift]
  refine ⟨fun _ _ => ?_, fun _ _ => trivial⟩
  rw [Handler.journal_bind, Handler.journal_lift]
  refine ⟨fun _ _ => ?_, fun _ _ => trivial⟩
  dsimp only
  rw [Handler.journal_bind]
  have hblind := @findBookingByTransaction_knows d ⟨0, .search ⟨none, none, none, none⟩⟩
    d.operatorKey (identityOf context) []
  refine (hblind.acting (findBookingByTransaction_acts (fun _ => id) _ _)
    fun _ => Incidental.namesBooking).weaken (fun existing jr₁ _ hfound => ?_) fun _ _ _ => trivial
  have hjr₁ : Unbooked jr₁ :=
    Unbooked.adds (fun l hl => absurd hl List.not_mem_nil) hfound.2
  cases existing with
  | some existing => exact hjr₁.booked existing.order
  | none =>
    dsimp only
    rw [Handler.journal_bind]
    refine journal_perform.mpr ⟨trivial, ?_⟩
    rintro (promise | promise)
    · dsimp only
      rw [Handler.journal_bind, journal_attempt]
      refine journal_op.mpr ⟨trivial, ?_⟩
      rintro (e | booking)
      · trivial
      · exact ((hjr₁.adds (adds_cons (.enterConfirmation _) trivial)).adds
          (adds_cons (.awaitConfirmation _) trivial)).booked booking.order
    · dsimp only
      rw [Handler.journal_bind, Handler.journal_run]
      have hentered := hjr₁.adds (adds_cons
        (.enterConfirmation (d.operatorKey, identityOf context)) (r := .created promise) trivial)
      refine (confirmNew_books context input hentered).weaken (fun booking jr₂ _ hbooked => ?_)
        fun e jr₂ _ => ?_
      · refine ⟨trivial, fun _ => ⟨trivial, fun _ => ?_⟩⟩
        exact (hbooked.later (List.suffix_cons _ _)
          (adds_cons (.settleConfirmation _ _) trivial)).later (List.suffix_cons _ _)
            (adds_cons (.leaveConfirmation _ _) trivial)
      · exact ⟨trivial, fun _ => ⟨trivial, fun _ => trivial⟩⟩

/-! ### Every handler -/

/-- What a request has done when it answers. -/
def HasRun (d : Deployment) (req : Request) (result : Except Failure Answer) (jr : Journal) :
    Prop :=
  ∀ answer, result = .ok answer →
    (∀ context input, req.action = .select context input → AnswersOrder (fun order jr' =>
      seatIdsFrom input.tags ≠ [] → Nonempty (SelectRun d context input jr' order)) answer jr) ∧
    (∀ context input, req.action = .init context input →
      AnswersOrder (fun order jr' => Nonempty (InitRun d context input jr' order)) answer jr) ∧
    ∀ context input, req.action = .confirm context input →
      AnswersOrder (fun order jr' => BookedOrder d context input order jr') answer jr

/-- A handler that makes no booking names none. -/
theorem acts_naming {α : Type} {x : Act α} (h : Handler.Acts (NamesBooking d) x) :
    Handler.Journal (Naming d) (fun _ _ => True) (fun _ _ => True) x jr := by
  refine h.journal (fun _ _ hop => hop) ?_
  rintro (e | a) jr' <;> trivial

/-- **Every request has done what its answer takes.** -/
theorem handle_runs (req : Request) :
    ((provider d).handler req).Journal (Naming d) (HasRun d req) [] := by
  have hends : ∀ ok : Answer → Journal → Prop, (∀ answer jr', ok answer jr' →
      HasRun d req (.ok answer) jr') → Handler.Journal (Naming d) ok (fun _ _ => True)
        (handle d req) [] → ((provider d).handler req).Journal (Naming d) (HasRun d req) [] := by
    intro ok hok h
    refine Prog.Journal.mono (fun _ _ _ hop => hop) ?_ h
    rintro (e | answer) jr' - hend
    · intro answer hanswer
      cases hanswer
    · exact hok answer jr' hend
  rcases haction : req.action with
    intent | ⟨context, input⟩ | ⟨context, input⟩ | ⟨context, input⟩ |
    ⟨context, orderId, refId⟩ | ⟨context, orderId, step, tags⟩
  · refine hends (fun _ _ => True) (fun answer jr' _ => ?_) ?_
    rotate_left
    · rw [handle, haction]
      exact acts_naming ((search_sweeps Incidental.namesBooking intent).acts Incidental.namesBooking
        (fun _ => trivial) fun _ => trivial)
    · simp [HasRun, haction]
  · refine hends _ (fun answer jr' h => ?_) (by
      rw [handle, haction]
      exact select_runs context input)
    intro answer' hanswer
    obtain rfl := Except.ok.inj hanswer
    refine ⟨fun context' input' heq => ?_, by simp [haction], by simp [haction]⟩
    rw [haction] at heq
    cases heq
    exact h
  · refine hends _ (fun answer jr' h => ?_) (by
      rw [handle, haction]
      exact init_runs context input)
    intro answer' hanswer
    obtain rfl := Except.ok.inj hanswer
    refine ⟨by simp [haction], fun context' input' heq => ?_, by simp [haction]⟩
    rw [haction] at heq
    cases heq
    exact h
  · refine hends _ (fun answer jr' h => ?_) (by
      rw [handle, haction]
      exact confirm_runs context input)
    intro answer' hanswer
    obtain rfl := Except.ok.inj hanswer
    refine ⟨by simp [haction], by simp [haction], fun context' input' heq => ?_⟩
    rw [haction] at heq
    cases heq
    exact h
  · refine hends (fun _ _ => True) (fun answer jr' _ => ?_) ?_
    rotate_left
    · rw [handle, haction]
      exact acts_naming ((status_sweeps Incidental.namesBooking context orderId refId).acts
        Incidental.namesBooking (fun _ => trivial) fun _ => trivial)
    · simp [HasRun, haction]
  · refine hends (fun _ _ => True) (fun answer jr' _ => ?_) ?_
    rotate_left
    · rw [handle, haction]
      exact acts_naming (cancel_acts Incidental.namesBooking (fun _ => trivial) (fun _ _ => trivial)
        context orderId step tags)
    · simp [HasRun, haction]

end TransitBpp
