import TransitBpp.TransitDesk

/-!
# What failures say

A request that is refused over the network is told a code and a message, and the schema of the callback
takes neither if it is empty. Every failure of the services has both: one lemma for each function that
can throw, along its calls.
-/

namespace TransitBpp

/-! ## Computations that fail in one way only -/

section

variable {ε α β : Type} {P : ε → Prop} {x : Except ε α} {f : α → Except ε β}

/-- Whatever it fails with is as `P` says. -/
def FailsAs (P : ε → Prop) (x : Except ε α) : Prop := ∀ e, x = .error e → P e

theorem failsAs_pure (a : α) : FailsAs P (pure a : Except ε α) := by
  intro e h
  cases h

theorem failsAs_throw {e : ε} (h : P e) : FailsAs P (throw e : Except ε α) := by
  intro e' he
  cases he
  exact h

theorem failsAs_bind (hx : FailsAs P x) (hf : ∀ a, FailsAs P (f a)) : FailsAs P (x >>= f) := by
  intro e h
  cases x with
  | error e' => exact hx e (by cases h; rfl)
  | ok a => exact hf a e h

/-- A loop fails as one of its steps does. -/
theorem failsAs_mapM {as : List α} (h : ∀ a ∈ as, FailsAs P (f a)) : FailsAs P (as.mapM f) := by
  induction as with
  | nil => exact failsAs_pure _
  | cons a as ih =>
    obtain ⟨hhead, hrest⟩ := List.forall_mem_cons.mp h
    rw [List.mapM_cons]
    exact failsAs_bind hhead fun _ => failsAs_bind (ih hrest) fun _ => failsAs_pure _

theorem failsAs_forM {f : α → Except ε PUnit} (h : ∀ a, FailsAs P (f a)) (as : List α) :
    FailsAs P (as.forM f) := by
  induction as with
  | nil => exact failsAs_pure _
  | cons a as ih => exact failsAs_bind (h a) fun _ => ih

end

namespace Trv11

open Js (Json)

/-! ## Failures that say something -/

/-- A code and a message, where they are what is answered. -/
def Failure.Speaks : Failure → Prop
  | lifecycle code message => code ≠ "" ∧ message ≠ ""
  | error _ => True

@[simp] theorem speaks_lifecycle {code message : String} :
    (Failure.lifecycle code message).Speaks ↔ code ≠ "" ∧ message ≠ "" := Iff.rfl

@[simp] theorem speaks_error {message : String} : (Failure.error message).Speaks := trivial

/-- What is answered is never empty. -/
theorem Failure.Speaks.shown {failure : Failure} (h : failure.Speaks) :
    failure.shown.1 ≠ "" ∧ failure.shown.2 ≠ "" := by
  cases failure with
  | lifecycle code message => exact h
  | error message => simp [Failure.shown]

/-- Every failure of a computation says something. -/
abbrev Spoken {α : Type} (x : Except Failure α) : Prop := FailsAs Failure.Speaks x

variable {hmac : Hmac} {service : Service} {operator : PassOperatorKey} {store : Store}
  {request : ConfirmRequest} {draws : Draws} {context : Trv11Context} {payments : List JsonObject}

/-- What is drawn fails with nothing that would be answered as it is. -/
structure Draws.Plain (draws : Draws) : Prop where
  id : Spoken draws.id
  secrets : ∀ sequence, Spoken (draws.secrets sequence)

theorem Outside.plain (o : Outside) : o.draws.Plain := by
  have hplain {α : Type} {x : Except String α} : Spoken (x.mapError Failure.error) := by
    cases x with
    | error message => exact failsAs_throw trivial
    | ok a => exact failsAs_pure a
  exact ⟨hplain, fun _ => hplain⟩

/-! ### Rendering -/

theorem spoken_paiseToRupees {paise : ℤ} : Spoken (paiseToRupees paise) := by
  rw [paiseToRupees]
  split
  · exact failsAs_throw trivial
  · exact failsAs_pure _

theorem spoken_isoString {ms : ℤ} : Spoken (isoString ms) := by
  rw [isoString]
  split
  · exact failsAs_throw trivial
  · exact failsAs_pure _

theorem spoken_serviceInstant {hhmm : String} : Spoken (serviceInstant context hhmm) := by
  rw [serviceInstant]
  split
  · exact failsAs_throw trivial
  · split
    · exact failsAs_throw trivial
    · exact failsAs_bind spoken_isoString fun _ => failsAs_pure _

theorem spoken_durationMilliseconds {duration : String} : Spoken (durationMilliseconds duration) := by
  rw [durationMilliseconds]
  split
  · exact failsAs_throw trivial
  · dsimp only
    split
    · exact failsAs_throw trivial
    · exact failsAs_pure _

theorem spoken_orderProvider : Spoken (orderProvider service context) :=
  failsAs_bind spoken_serviceInstant fun _ => failsAs_bind spoken_serviceInstant fun _ => failsAs_pure _

theorem spoken_quote {totalPaise : ℤ} {breakup : List Json} : Spoken (quote totalPaise breakup) :=
  failsAs_bind spoken_paiseToRupees fun _ => failsAs_pure _

/-! ### Concessions -/

theorem spoken_invalidConcession {α : Type} {message : String} (h : message ≠ "") :
    Spoken (invalidConcession message : Except Failure α) :=
  failsAs_throw (speaks_lifecycle.mpr ⟨by decide, h⟩)

theorem spoken_assertPublishedClass {value : String} : Spoken (assertPublishedClass value) := by
  rw [assertPublishedClass]
  split
  · exact failsAs_pure _
  · split
    · exact failsAs_pure _
    · apply failsAs_throw
      split <;> simp [toString]

theorem spoken_concessionFromList {list : List Json} : Spoken (concessionFromList list) := by
  rw [concessionFromList]
  split
  · exact spoken_invalidConcession (by simp)
  · split
    · exact spoken_invalidConcession (by simp [toString])
    · split
      · exact spoken_invalidConcession (by decide)
      · split
        · exact spoken_invalidConcession (by decide)
        · exact spoken_assertPublishedClass

theorem spoken_concessionFromOrderTags {tags : Option (List Json)} :
    Spoken (concessionFromOrderTags tags) := by
  rw [concessionFromOrderTags]
  split
  · exact failsAs_pure _
  · split
    · exact spoken_invalidConcession (by decide)
    · exact spoken_invalidConcession (by decide)
    · exact failsAs_bind spoken_concessionFromList fun _ => failsAs_pure _
  · exact spoken_invalidConcession (by simp [toString])

theorem spoken_assertNoConcession {tags : Option (List Json)} :
    Spoken (assertNoConcessionOnTicketOrder tags) := by
  rw [assertNoConcessionOnTicketOrder]
  split
  · exact failsAs_throw (by simp)
  · exact failsAs_pure _

/-! ### Selections -/

theorem spoken_selectedOffers {identity : TransactionIdentity} {itemIds : List String} :
    Spoken (store.selectedOffers operator identity itemIds) := by
  rw [Store.selectedOffers]
  split
  · exact failsAs_throw (by simp [toString])
  · refine failsAs_mapM fun itemId _ => ?_
    split
    · exact failsAs_throw (by simp [toString])
    · exact failsAs_pure _

theorem spoken_ticketLine {profile : OperatorProfile} {itemTime : ℤ} {offer : TransitOffer} {count : ℕ}
    {lines : Lines TicketSpec} : Spoken (ticketLine profile itemTime offer count lines) := by
  rw [ticketLine]
  dsimp only
  split
  · exact failsAs_throw (by simp)
  · exact failsAs_bind spoken_paiseToRupees fun _ => failsAs_bind spoken_isoString fun _ =>
      failsAs_bind spoken_paiseToRupees fun _ => failsAs_pure _

theorem spoken_ticketLines {profile : OperatorProfile} {itemTime : ℕ → ℤ}
    {selection : List (TransitOffer × SelectedItem)} : ∀ {index : ℕ} {lines : Lines TicketSpec},
      Spoken (ticketLines profile itemTime index selection lines) := by
  induction selection with
  | nil => exact failsAs_pure _
  | cons pair selection ih => exact failsAs_bind spoken_ticketLine fun _ => ih

theorem spoken_passLine {item : PassCatalogueItem} {count : ℕ} {timestamp : String}
    {lines : Lines PassCredentialSpec} : Spoken (passLine item count timestamp lines) := by
  rw [passLine]
  dsimp only
  split
  · exact failsAs_throw (by simp)
  · exact failsAs_bind spoken_paiseToRupees fun _ =>
      failsAs_bind spoken_paiseToRupees fun _ => failsAs_pure _

theorem spoken_passLines {concession : Option ConcessionClass} {timestamp : String}
    {items : List SelectedItem} : ∀ {lines : Lines PassCredentialSpec} {discountPaise : ℤ},
      Spoken (passLines service operator concession timestamp items lines discountPaise) := by
  induction items with
  | nil => exact failsAs_pure _
  | cons selected items ih =>
    intro lines discountPaise
    rw [passLines]
    split
    · exact failsAs_throw (by simp [toString])
    · exact failsAs_bind spoken_passLine fun _ => ih

theorem spoken_concessionLine {concession : Option ConcessionClass} {discountPaise : ℤ} :
    Spoken (concessionLine concession discountPaise) := by
  cases concession with
  | none => exact failsAs_pure _
  | some concession =>
    rw [concessionLine]
    split
    · exact failsAs_pure _
    · exact failsAs_bind spoken_paiseToRupees fun _ => failsAs_pure _

theorem spoken_ticketBaseOrder :
    Spoken (ticketBaseOrder service operator store request draws) :=
  failsAs_bind spoken_assertNoConcession fun _ => failsAs_bind spoken_selectedOffers fun _ =>
    failsAs_bind spoken_ticketLines fun _ => failsAs_bind spoken_orderProvider fun _ =>
      failsAs_bind spoken_quote fun _ => failsAs_pure _

theorem spoken_passBaseOrder : Spoken (passBaseOrder service operator request draws) := by
  refine failsAs_bind spoken_concessionFromOrderTags fun concession =>
    failsAs_bind spoken_isoString fun timestamp => failsAs_bind spoken_passLines ?_
  rintro ⟨lines, discountPaise⟩
  refine failsAs_bind spoken_concessionLine fun discount => ?_
  split
  · exact failsAs_throw (by simp)
  · exact failsAs_bind spoken_orderProvider fun _ => failsAs_bind spoken_quote fun _ => failsAs_pure _

theorem spoken_assertBppAddress : Spoken (assertBppAddress service context) := by
  rw [assertBppAddress]
  split
  · exact failsAs_throw (by simp [toString])
  · exact failsAs_pure _

theorem spoken_assertPaymentStatus {expected : String} :
    Spoken (assertPaymentStatus payments expected) := by
  rw [assertPaymentStatus]
  split
  · exact failsAs_throw (by simp [toString])
  · exact failsAs_pure _

theorem spoken_checkQuantity {item : SelectedItem} : Spoken (checkQuantity item) := by
  rw [checkQuantity]
  split
  · exact failsAs_throw (by simp [toString])
  · exact failsAs_pure _

theorem spoken_baseOrder : Spoken (baseOrder service operator store request draws) := by
  refine failsAs_bind spoken_assertBppAddress fun _ => ?_
  split
  · exact failsAs_throw (by simp [toString])
  · dsimp only
    split
    · exact failsAs_throw (by simp)
    · refine failsAs_bind (failsAs_forM (fun _ => spoken_checkQuantity) _) fun _ => ?_
      split
      · exact spoken_ticketBaseOrder
      · split
        · exact failsAs_throw (by simp)
        · exact spoken_passBaseOrder

/-! ### Settling a ride by a pass -/

theorem spoken_passSettlementClaim : Spoken (passSettlementClaim payments) := by
  rw [passSettlementClaim]
  split
  · exact failsAs_pure _
  · split
    · exact failsAs_pure _
    · exact failsAs_throw (by simp)
  · exact failsAs_throw (by simp [toString])

theorem spoken_decodeBase32From {cs : List Char} : ∀ {buffer : BitVec 32} {bits : ℕ},
    Spoken (decodeBase32From buffer bits cs) := by
  induction cs with
  | nil => exact failsAs_pure _
  | cons c cs ih =>
    intro buffer bits
    rw [decodeBase32From]
    split
    · exact failsAs_throw trivial
    · dsimp only
      split
      · exact failsAs_bind ih fun _ => failsAs_pure _
      · exact ih

theorem spoken_totpCode {secretBase32 : String} {atMilliseconds : ℤ} {parameters : TotpParameters} :
    Spoken (totpCode hmac secretBase32 atMilliseconds parameters) := by
  rw [totpCode]
  split
  · exact failsAs_throw trivial
  · split
    · exact failsAs_throw trivial
    · dsimp only
      split
      · exact failsAs_throw trivial
      · exact failsAs_bind spoken_decodeBase32From fun _ => failsAs_pure _

theorem spoken_matchesStep {secretBase32 presented : String} {atMilliseconds : ℤ}
    {parameters : TotpParameters} {steps : List ℤ} :
    Spoken (matchesStep hmac secretBase32 presented atMilliseconds parameters steps) := by
  induction steps with
  | nil => exact failsAs_pure _
  | cons step steps ih =>
    exact failsAs_bind spoken_totpCode fun _ => failsAs_bind ih fun _ => failsAs_pure _

theorem spoken_verifyTotpCode {secretBase32 presented : String} {atMilliseconds : ℤ}
    {parameters : TotpParameters} :
    Spoken (verifyTotpCode hmac secretBase32 presented atMilliseconds parameters) := by
  rw [verifyTotpCode]
  split
  · exact failsAs_pure _
  · exact spoken_matchesStep

theorem spoken_findVerified {passCode : String} {atMilliseconds : ℤ}
    {credentials : List PassCredentialRecord} :
    Spoken (findVerified hmac passCode atMilliseconds credentials) := by
  induction credentials with
  | nil => exact failsAs_pure _
  | cons credential credentials ih =>
    refine failsAs_bind spoken_verifyTotpCode fun matched => ?_
    split
    · exact failsAs_pure _
    · exact ih

theorem spoken_assertPassSettlement {claim : PassSettlementClaim}
    {credentials : List PassCredentialRecord} {tiers : List ServiceTier} {atMilliseconds : ℤ} :
    Spoken (assertPassSettlement hmac claim credentials tiers atMilliseconds) := by
  rw [assertPassSettlement]
  split
  · exact failsAs_throw (by simp [toString])
  · split
    · exact failsAs_throw (by simp [toString])
    · split
      · exact failsAs_throw (by simp [toString])
      · refine failsAs_bind spoken_findVerified fun verified => ?_
        split
        · exact failsAs_pure _
        · exact failsAs_throw (by simp [toString])

theorem spoken_checkPassSettlement {base : BaseOrder} {issuedAt : ℤ} :
    Spoken (checkPassSettlement hmac service operator store request base issuedAt) := by
  refine failsAs_bind spoken_passSettlementClaim fun claim => ?_
  split
  · exact failsAs_pure _
  · split
    · exact failsAs_throw (by simp)
    · exact failsAs_bind spoken_assertPassSettlement fun _ => failsAs_pure _

/-! ### Confirming -/

theorem spoken_orderIdOf {drawn : String} : Spoken (orderIdOf operator drawn) := by
  rw [orderIdOf]
  split
  · exact failsAs_throw (by simp)
  · exact failsAs_pure _

theorem spoken_draft (hplain : draws.Plain) :
    Spoken (draft hmac service operator store request draws) :=
  failsAs_bind spoken_baseOrder fun _ => failsAs_bind spoken_checkPassSettlement fun _ =>
    failsAs_bind hplain.id fun _ => failsAs_bind spoken_orderIdOf fun _ => failsAs_pure _

theorem spoken_mintPassSecret {random : Except Failure (List Byte)} (h : Spoken random) :
    Spoken (mintPassSecret random) := by
  refine failsAs_bind h fun bytes => ?_
  split
  · exact failsAs_throw trivial
  · exact failsAs_pure _

theorem spoken_confirmFulfillment {issue : Draft} {encoder : String → String}
    {fulfillment : JsonObject} (hplain : draws.Plain) :
    Spoken (confirmFulfillment operator issue draws encoder fulfillment) := by
  rw [confirmFulfillment]
  dsimp only
  split
  · exact failsAs_bind (failsAs_bind (spoken_mintPassSecret (hplain.secrets _))
      fun _ => failsAs_pure _) fun _ => failsAs_pure _
  · split
    · exact failsAs_pure _
    · exact failsAs_bind (failsAs_bind spoken_durationMilliseconds fun _ =>
        failsAs_bind spoken_isoString fun _ => failsAs_pure _) fun _ => failsAs_pure _

theorem spoken_issued {issue : Draft} {encoder : String → String} (hplain : draws.Plain) :
    Spoken (issued operator request draws issue encoder) :=
  failsAs_bind (failsAs_mapM fun _ _ => spoken_confirmFulfillment hplain) fun _ =>
    failsAs_bind spoken_isoString fun _ => failsAs_pure _

theorem spoken_issue {identity : TransactionIdentity} {done : Issued} :
    Spoken (store.issue operator identity done) := by
  refine failsAs_bind ?_ fun _ => failsAs_pure _
  rw [Store.save]
  split
  · exact failsAs_throw (by simp [toString])
  · split
    · exact failsAs_throw (by simp [toString])
    · exact failsAs_pure _

theorem spoken_checkConfirm : Spoken (checkConfirm service request) :=
  failsAs_bind spoken_assertPaymentStatus fun _ => spoken_assertBppAddress

/-! ### What is answered -/

theorem spoken_select : Spoken (service.select operator store request draws) :=
  failsAs_bind spoken_baseOrder fun _ => failsAs_pure _

theorem spoken_init : Spoken (service.init operator store request draws) :=
  failsAs_bind spoken_assertPaymentStatus fun _ =>
    failsAs_bind spoken_baseOrder fun _ => failsAs_pure _

theorem spoken_get {identity : TransactionIdentity} {orderId : String} :
    Spoken (store.get operator identity orderId) := by
  have hunknown : (Failure.lifecycle "ORDER-NOT-FOUND"
      s!"Unknown order.id {orderId} for operator {operator.wire}").Speaks := by simp [toString]
  rw [Store.get]
  split
  · exact failsAs_throw hunknown
  · split
    · exact failsAs_throw hunknown
    · exact failsAs_pure _

theorem spoken_status {orderId refId : Option String} :
    Spoken (service.status operator store context orderId refId) := by
  refine failsAs_bind spoken_assertBppAddress fun _ => ?_
  split
  · exact failsAs_throw (by simp)
  · exact spoken_get

end Trv11

end TransitBpp
