import TransitBpp.Handlers

/-!
# What each handler does

Which operations each handler may perform. Most of them are incidental: they take no hold, change
no booking and sweep no manifest. A handler stays within any class of operations that has the
incidental ones and the few others its lemma asks for; only a confirm needs those of them that file
confirmations and wait for them.
-/

namespace TransitBpp

open Interleave Js

/-- An operation that takes no hold, changes no booking and sweeps no manifest. -/
def Incidental : Op → Prop
  | .transaction (.acquireHold _) => False
  | .transaction (.confirmBooking _) => False
  | .transaction (.applyCancellation _) => False
  | .transaction (.updateStoredOrder _ _) => False
  | .transaction (.clearManifests _) => False
  | .manifestSweepDue _ => False
  | _ => True

/-- An operation on the confirmations in flight. -/
def Confirming : Op → Prop
  | .enterConfirmation _ => True
  | .awaitConfirmation _ => True
  | .settleConfirmation _ _ => True
  | .leaveConfirmation _ _ => True
  | _ => False

/-- A class of operations that has every incidental one but those on confirmations. -/
class Broad (I : Op → Prop) : Prop where
  /-- it has them -/
  plain : ∀ op, Incidental op → ¬ Confirming op → I op

instance : Broad Incidental := ⟨fun _ h _ => h⟩

instance : Broad fun op => ¬ Confirming op := ⟨fun _ _ h => h⟩

variable {d : Deployment} {O I : Op → Prop} {α : Type}

/-! ## One operation -/

theorem acts_perform {op : Op} (h : O op) : Handler.Acts O (perform op) := ⟨h, fun _ => trivial⟩

theorem acts_attempt {p : Prog Op Resp (Except Failure α)} (h : p.All O fun _ => True) :
    Handler.Acts O (attempt p) := ⟨h⟩

theorem acts_refuse {code : ReservedErrorCode} {message : String} {attachment : JsonObject} :
    Handler.Acts O (refuse code message attachment : Act α) := Handler.acts_throw _

theorem acts_transact {t : Transaction} (h : O (.transaction t)) : Handler.Acts O (transact t) :=
  ⟨h, fun _ => trivial⟩

section

variable [Broad I] (hO : ∀ op, I op → O op)
include hO

/-! ## Shared work -/

theorem seatMapFor_acts (service : ReservedService) : Handler.Acts O (seatMapFor service) := by
  refine Handler.acts_bind (acts_attempt ⟨hO _ (Broad.plain _ trivial id), fun _ => trivial⟩) fun found => ?_
  cases found with
  | none => exact acts_refuse
  | some seatMap => exact Handler.acts_pure _

theorem fareTableFor_acts (service : ReservedService) : Handler.Acts O (fareTableFor service) := by
  refine Handler.acts_bind (acts_attempt ⟨hO _ (Broad.plain _ trivial id), fun _ => trivial⟩) fun found => ?_
  cases found with
  | none => exact acts_refuse
  | some table => exact Handler.acts_pure _

theorem resolveSelection_acts (input : OrderInput) :
    Handler.Acts O (resolveSelection d input) := by
  refine Handler.acts_bind Handler.acts_lift fun item => ?_
  refine Handler.acts_bind (acts_attempt ⟨hO _ (Broad.plain _ trivial id), fun _ => trivial⟩) fun found => ?_
  refine Handler.acts_bind Handler.acts_lift fun service => ?_
  refine Handler.acts_bind Handler.acts_lift fun departureAt => ?_
  refine Handler.acts_bind (acts_perform (hO _ (Broad.plain _ trivial id))) fun nowMs => ?_
  refine Handler.acts_bind Handler.acts_lift fun _ => ?_
  refine Handler.acts_bind (seatMapFor_acts hO service) fun seatMap => ?_
  exact Handler.acts_bind (fareTableFor_acts hO service) fun fareTable => Handler.acts_pure _

theorem snapshot_acts (service : ReservedService) (seatMap : SeatMap) (travelDate : String)
    (viewer : ReservedIdentity) : Handler.Acts O (snapshot d service seatMap travelDate viewer) := by
  refine Handler.acts_bind (acts_perform (hO _ (Broad.plain _ trivial id))) fun nowMs => ?_
  refine Handler.acts_bind (acts_transact (hO _ (Broad.plain _ trivial id))) fun swept => ?_
  exact Handler.acts_bind (acts_attempt ⟨hO _ (Broad.plain _ trivial id), fun _ => trivial⟩) fun claims =>
    Handler.acts_lift

theorem buildOrder_acts (input : BuildOrder) : Handler.Acts O (buildOrder d input) :=
  Handler.acts_bind (snapshot_acts hO _ _ _ _) fun _ => Handler.acts_lift

/-- A handler sweeps the manifests between two parts that stay within `O`. -/
def SweepsBetween (d : Deployment) (O : Op → Prop) (x : Act α) : Prop :=
  ∃ (β : Type) (before : Act β) (after : β → ℤ → Act α), Handler.Acts O before ∧
    (∀ b nowMs, Handler.Acts O (after b nowMs)) ∧ x = (do
      let b ← before
      let nowMs ← perform .now
      let _ ← sweepManifests nowMs d.reservation.manifestRetentionDays
      after b nowMs)

theorem sweepManifests_acts (hdue : ∀ nowMs, O (.manifestSweepDue nowMs))
    (hclear : ∀ stale, O (.transaction (.clearManifests stale))) (nowMs retentionDays : ℤ) :
    Handler.Acts O (sweepManifests nowMs retentionDays) := by
  refine Handler.acts_bind (acts_perform (hdue _)) fun due => ?_
  cases due with
  | false => exact Handler.acts_pure _
  | true =>
    refine Handler.acts_bind (acts_attempt ⟨hO _ (Broad.plain _ trivial id), fun _ => trivial⟩) fun stale => ?_
    split
    · exact Handler.acts_pure _
    · exact Handler.acts_bind (acts_transact (hclear stale)) fun _ => Handler.acts_pure _

theorem SweepsBetween.acts (hdue : ∀ nowMs, O (.manifestSweepDue nowMs))
    (hclear : ∀ stale, O (.transaction (.clearManifests stale))) {x : Act α}
    (h : SweepsBetween d O x) : Handler.Acts O x := by
  obtain ⟨β, before, after, hbefore, hafter, rfl⟩ := h
  refine Handler.acts_bind hbefore fun b => ?_
  refine Handler.acts_bind (acts_perform (hO _ (Broad.plain _ trivial id))) fun nowMs => ?_
  exact Handler.acts_bind (sweepManifests_acts hO hdue hclear _ _) fun _ => hafter b nowMs

theorem bookingFromRow_acts (row : BookingRow) : Handler.Acts O (bookingFromRow row) :=
  Handler.acts_bind (acts_attempt ⟨hO _ (Broad.plain _ trivial id), fun _ => trivial⟩) fun _ => Handler.acts_pure _

theorem bookingFrom_acts {row : Act (Option BookingRow)} (h : Handler.Acts O row) :
    Handler.Acts O (bookingFrom row) := by
  refine Handler.acts_bind h fun found => ?_
  cases found with
  | none => exact Handler.acts_pure _
  | some row => exact Handler.acts_bind (bookingFromRow_acts hO row) fun _ => Handler.acts_pure _

theorem findBooking_acts (operator bapId bapUri reference : String) :
    Handler.Acts O (findBooking operator bapId bapUri reference) :=
  bookingFrom_acts hO (acts_attempt ⟨hO _ (Broad.plain _ trivial id), fun _ => trivial⟩)

theorem findBookingByTransaction_acts (operator : String) (identity : ReservedIdentity) :
    Handler.Acts O (findBookingByTransaction operator identity) :=
  bookingFrom_acts hO (acts_attempt ⟨hO _ (Broad.plain _ trivial id), fun _ => trivial⟩)

theorem findBookingOrRefuse_acts (context : ReservedContext) (reference : String) :
    Handler.Acts O (findBookingOrRefuse d context reference) := by
  refine Handler.acts_bind (findBooking_acts hO _ _ _ _) fun found => ?_
  cases found with
  | none => exact acts_refuse
  | some booking => exact Handler.acts_pure _

theorem liveHoldAndManifest_acts (resolved : Resolved) (identity : ReservedIdentity)
    (input : OrderInput) : Handler.Acts O (liveHoldAndManifest d resolved identity input) := by
  refine Handler.acts_bind (acts_perform (hO _ (Broad.plain _ trivial id))) fun nowMs => ?_
  refine Handler.acts_bind (acts_transact (hO _ (Broad.plain _ trivial id))) fun _ => ?_
  refine Handler.acts_bind (acts_attempt ⟨hO _ (Broad.plain _ trivial id), fun _ => trivial⟩) fun found => ?_
  refine Handler.acts_bind Handler.acts_lift fun hold => ?_
  refine Handler.acts_bind Handler.acts_lift fun records => ?_
  refine Handler.acts_bind (acts_attempt ⟨hO _ (Broad.plain _ trivial id), fun _ => trivial⟩) fun claims => ?_
  refine Handler.acts_bind Handler.acts_lift fun view => ?_
  exact Handler.acts_bind Handler.acts_lift fun _ => Handler.acts_pure _

/-! ## search -/

theorem eligible_acts (travelDate : String) (nowMs : ℤ) (service : ReservedService) :
    Handler.Acts O (eligible d travelDate nowMs service) := by
  refine Handler.acts_bind Handler.acts_lift fun departureAt => ?_
  refine Handler.acts_bind Handler.acts_lift fun verdict => ?_
  dsimp only
  split
  · exact Handler.acts_pure _
  refine Handler.acts_bind (seatMapFor_acts hO service) fun seatMap => ?_
  exact Handler.acts_bind (fareTableFor_acts hO service) fun _ => Handler.acts_pure _

theorem eligibleAll_acts (travelDate : String) (nowMs : ℤ) : ∀ services : List ReservedService,
    Handler.Acts O (eligibleAll d travelDate nowMs services)
  | [] => Handler.acts_pure _
  | service :: services =>
    Handler.acts_bind (eligible_acts hO travelDate nowMs service) fun _ =>
      Handler.acts_bind (eligibleAll_acts travelDate nowMs services) fun _ => Handler.acts_pure _

theorem search_sweeps (intent : ReservedSearchIntent) :
    SweepsBetween d O (search d intent) := by
  refine ⟨_, liftM (reservedSearchQuery intent), _, Handler.acts_lift, fun query nowMs => ?_, rfl⟩
  refine Handler.acts_bind (acts_attempt ⟨hO _ (Broad.plain _ trivial id), fun _ => trivial⟩) fun services => ?_
  refine Handler.acts_bind (eligibleAll_acts hO _ _ services) fun published => ?_
  refine Handler.acts_bind (acts_transact (hO _ (Broad.plain _ trivial id))) fun _ => ?_
  dsimp only
  split
  · exact Handler.acts_bind (Handler.acts_pure _) fun _ =>
      Handler.acts_bind Handler.acts_lift fun _ => Handler.acts_pure _
  · refine Handler.acts_bind (acts_attempt ⟨hO _ (Broad.plain _ trivial id), fun _ => trivial⟩) fun claims => ?_
    exact Handler.acts_bind Handler.acts_lift fun _ => Handler.acts_pure _

/-! ## select -/

theorem takeHold_acts (hacquire : ∀ params, O (.transaction (.acquireHold params)))
    (resolved : Resolved) (identity : ReservedIdentity) (seatIds : List String) (nowMs : ℤ) :
    Handler.Acts O (takeHold d resolved identity seatIds nowMs) := by
  refine Handler.acts_tryCatch (acts_transact (hacquire _)) fun e => ?_
  rcases e with e | - | message
  · dsimp only
    split
    · exact Handler.acts_bind (snapshot_acts hO _ _ _ _) fun _ => acts_refuse
    · exact Handler.acts_throw _
  · exact Handler.acts_throw _
  · exact Handler.acts_throw _

theorem holdSeats_acts (hacquire : ∀ params, O (.transaction (.acquireHold params)))
    (resolved : Resolved) (identity : ReservedIdentity) (seatIds : List String) :
    Handler.Acts O (holdSeats d resolved identity seatIds) := by
  refine Handler.acts_bind Handler.acts_lift fun _ => ?_
  refine Handler.acts_bind (acts_perform (hO _ (Broad.plain _ trivial id))) fun nowMs => ?_
  refine Handler.acts_bind (snapshot_acts hO _ _ _ _) fun before => ?_
  exact Handler.acts_bind Handler.acts_lift fun _ => takeHold_acts hO hacquire _ _ _ _

theorem select_acts (hacquire : ∀ params, O (.transaction (.acquireHold params)))
    (context : ReservedContext) (input : OrderInput) :
    Handler.Acts O (select d context input) := by
  rw [select]
  refine Handler.acts_bind Handler.acts_lift fun _ => ?_
  refine Handler.acts_bind (resolveSelection_acts hO input) fun resolved => ?_
  refine Handler.acts_bind Handler.acts_lift fun _ => ?_
  refine Handler.acts_bind Handler.acts_lift fun pair => ?_
  refine Handler.acts_bind Handler.acts_lift fun cell => ?_
  split
  · rw [map_eq_pure_bind]
    refine Handler.acts_bind (Handler.acts_bind (holdSeats_acts hO hacquire _ _ _) fun _ =>
      Handler.acts_pure _) fun hold => ?_
    exact Handler.acts_bind (buildOrder_acts hO _) fun _ => Handler.acts_pure _
  · exact Handler.acts_bind (Handler.acts_pure _) fun _ =>
      Handler.acts_bind (buildOrder_acts hO _) fun _ => Handler.acts_pure _

/-! ## init and confirm -/

theorem init_acts (context : ReservedContext) (input : OrderInput) :
    Handler.Acts O (init d context input) := by
  refine Handler.acts_bind Handler.acts_lift fun _ => ?_
  refine Handler.acts_bind Handler.acts_lift fun _ => ?_
  refine Handler.acts_bind (resolveSelection_acts hO input) fun resolved => ?_
  refine Handler.acts_bind (liveHoldAndManifest_acts hO _ _ _) fun held => ?_
  refine Handler.acts_bind Handler.acts_lift fun pair => ?_
  refine Handler.acts_bind Handler.acts_lift fun cell => ?_
  exact Handler.acts_bind (buildOrder_acts hO _) fun _ => Handler.acts_pure _

theorem commitBooking_acts (hbook : ∀ params, O (.transaction (.confirmBooking params)))
    (params : ConfirmBooking) : Handler.Acts O (commitBooking params) := by
  refine Handler.acts_bind (Handler.acts_tryCatch ?_ fun e => ?_) fun existing => ?_
  · exact Handler.acts_bind (acts_transact (hbook params)) fun _ => Handler.acts_pure _
  · rcases e with e | - | message
    · exact Handler.acts_throw _
    · refine Handler.acts_bind (findBookingByTransaction_acts hO _ _) fun found => ?_
      cases found with
      | none => exact Handler.acts_throw _
      | some booking => exact Handler.acts_pure _
    · exact Handler.acts_throw _
  · cases existing with
    | some booking => exact Handler.acts_pure _
    | none =>
      refine Handler.acts_bind (findBooking_acts hO _ _ _ _) fun found => ?_
      cases found with
      | none => exact Handler.acts_throw _
      | some booking => exact Handler.acts_pure _

theorem confirmNew_acts (hbook : ∀ params, O (.transaction (.confirmBooking params)))
    (context : ReservedContext) (input : OrderInput) :
    Handler.Acts O (confirmNew d context input) := by
  refine Handler.acts_bind (resolveSelection_acts hO input) fun resolved => ?_
  refine Handler.acts_bind (liveHoldAndManifest_acts hO _ _ _) fun held => ?_
  refine Handler.acts_bind Handler.acts_lift fun pair => ?_
  refine Handler.acts_bind Handler.acts_lift fun cell => ?_
  refine Handler.acts_bind (acts_perform (hO _ (Broad.plain _ trivial id))) fun nowMs => ?_
  refine Handler.acts_bind (acts_perform (hO _ (Broad.plain _ trivial id))) fun raw => ?_
  refine Handler.acts_bind (buildOrder_acts hO _) fun order => ?_
  refine Handler.acts_bind (commitBooking_acts hO hbook _) fun booking => ?_
  exact Handler.acts_bind (acts_perform (hO _ (Broad.plain _ trivial id))) fun _ => Handler.acts_pure _

omit [Broad I] hO in
theorem confirm_acts (hO : ∀ op, Incidental op → O op)
    (hbook : ∀ params, O (.transaction (.confirmBooking params)))
    (context : ReservedContext) (input : OrderInput) :
    Handler.Acts O (confirm d context input) := by
  refine Handler.acts_bind Handler.acts_lift fun _ => ?_
  refine Handler.acts_bind Handler.acts_lift fun _ => ?_
  refine Handler.acts_bind (findBookingByTransaction_acts hO _ _) fun existing => ?_
  cases existing with
  | some booking => exact Handler.acts_pure _
  | none =>
    refine Handler.acts_bind (acts_perform (hO _ trivial)) fun entered => ?_
    cases entered with
    | joined promise =>
      exact Handler.acts_bind (acts_attempt ⟨hO _ trivial, fun _ => trivial⟩) fun _ =>
        Handler.acts_pure _
    | created promise =>
      refine Handler.acts_bind (Handler.acts_run (confirmNew_acts hO hbook context input))
        fun result => ?_
      refine Handler.acts_bind (acts_perform (hO _ trivial)) fun _ => ?_
      refine Handler.acts_bind (acts_perform (hO _ trivial)) fun _ => ?_
      exact Handler.acts_bind Handler.acts_lift fun _ => Handler.acts_pure _

/-! ## status -/

theorem status_sweeps (context : ReservedContext) (orderId refId : Option String) :
    SweepsBetween d O (status d context orderId refId) := by
  let reference := (orderId.or refId).getD ""
  let named : Act Unit := if reference = "" then
    refuse .bookingNotFound "A status request names an order id or a booking reference" []
    else pure ()
  refine ⟨BookingRecord, do
      let _ ← (assertBppAddress d context : Except Failure Unit)
      let _ ← named
      findBookingOrRefuse d context reference, fun _ _ => do
      let fresh ← findBookingOrRefuse d context reference
      let refund ← if fresh.refundPaise.isNone then pure none else some <$> storedRefund fresh
      return Answer.order fresh.order refund [], ?_, fun _ _ => ?_, ?_⟩
  · refine Handler.acts_bind Handler.acts_lift fun _ => Handler.acts_bind ?_ fun _ =>
      findBookingOrRefuse_acts hO context _
    unfold named
    split
    · exact acts_refuse
    · exact Handler.acts_pure _
  · refine Handler.acts_bind (findBookingOrRefuse_acts hO context _) fun fresh => ?_
    split
    · exact Handler.acts_bind (Handler.acts_pure _) fun _ => Handler.acts_pure _
    · rw [map_eq_pure_bind]
      exact Handler.acts_bind (Handler.acts_bind Handler.acts_lift fun _ => Handler.acts_pure _)
        fun _ => Handler.acts_pure _
  · rw [status]
    simp only [bind_assoc]
    refine congrArg _ (funext fun _ => ?_)
    unfold named
    split
    · rfl
    · rw [pure_bind]

/-! ## cancel -/

theorem softCancel_acts (booking : BookingRecord) (target : List BookingSeatRow) :
    Handler.Acts O (softCancel booking target) := by
  rw [softCancel]
  split
  · exact Handler.acts_bind Handler.acts_lift fun _ => Handler.acts_pure _
  refine Handler.acts_bind (acts_perform (hO _ (Broad.plain _ trivial id))) fun nowMs => ?_
  refine Handler.acts_bind (acts_transact (hO _ (Broad.plain _ trivial id))) fun quote => ?_
  refine Handler.acts_bind Handler.acts_lift fun refund => ?_
  exact Handler.acts_bind Handler.acts_lift fun _ => Handler.acts_pure _

theorem applyAndRead_acts (happly : ∀ params, O (.transaction (.applyCancellation params)))
    (params : ApplyCancellation) : Handler.Acts O (applyAndRead params) := by
  refine Handler.acts_bind (acts_transact (happly params)) fun _ => ?_
  refine Handler.acts_bind (acts_attempt ⟨hO _ (Broad.plain _ trivial id), fun _ => trivial⟩) fun found => ?_
  cases found with
  | none => exact Handler.acts_throw _
  | some row => exact bookingFromRow_acts hO row

theorem confirmCancel_acts (happly : ∀ params, O (.transaction (.applyCancellation params)))
    (hstore : ∀ id order, O (.transaction (.updateStoredOrder id order))) (booking : BookingRecord)
    (target : List BookingSeatRow) (tags : Option (List BuyerTag)) :
    Handler.Acts O (confirmCancel booking target tags) := by
  rw [confirmCancel]
  split
  · exact Handler.acts_bind Handler.acts_lift fun _ => Handler.acts_pure _
  refine Handler.acts_bind (acts_perform (hO _ (Broad.plain _ trivial id))) fun nowMs => ?_
  refine Handler.acts_bind ?_ fun named => ?_
  · rw [namedQuote]
    split
    · exact Handler.acts_pure _
    · exact acts_attempt ⟨hO _ (Broad.plain _ trivial id), fun _ => trivial⟩
  refine Handler.acts_bind Handler.acts_lift fun quote => ?_
  dsimp only
  split
  · refine Handler.acts_bind (acts_transact (hO _ (Broad.plain _ trivial id))) fun replacement => ?_
    refine Handler.acts_bind Handler.acts_lift fun refund => ?_
    exact Handler.acts_bind Handler.acts_lift fun _ => Handler.acts_throw _
  · refine Handler.acts_bind (applyAndRead_acts hO happly _) fun updated => ?_
    refine Handler.acts_bind (acts_transact (hstore _ _)) fun _ => ?_
    refine Handler.acts_bind (acts_perform (hO _ (Broad.plain _ trivial id))) fun _ => ?_
    refine Handler.acts_bind Handler.acts_lift fun refund => ?_
    exact Handler.acts_bind Handler.acts_lift fun _ => Handler.acts_pure _

theorem cancel_acts (happly : ∀ params, O (.transaction (.applyCancellation params)))
    (hstore : ∀ id order, O (.transaction (.updateStoredOrder id order)))
    (context : ReservedContext) (orderId : String) (step : CancelStep)
    (tags : Option (List BuyerTag)) : Handler.Acts O (cancel d context orderId step tags) := by
  refine Handler.acts_bind Handler.acts_lift fun _ => ?_
  refine Handler.acts_bind (findBookingOrRefuse_acts hO context orderId) fun booking => ?_
  refine Handler.acts_bind Handler.acts_lift fun target => ?_
  cases step with
  | soft => exact softCancel_acts hO booking target
  | confirm => exact confirmCancel_acts hO happly hstore booking target tags

end

end TransitBpp
