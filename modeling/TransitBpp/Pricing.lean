import TransitBpp.Types
import Mathlib.Tactic.Linarith

/-!
# Money: amounts, fares, concessions and refunds

`money.ts`, `fares.ts`, `concession.ts` and `refund.ts`. Everything internal is integer paise; a
rupee value exists only where an amount becomes a string, which is what a `Price` is: an amount
together with the proof that it prints.

The arithmetic is exact on integers. The source computes it in doubles, which agree with the
integers as long as every amount and product stays a safe integer. The one product nothing checks
before it prints, that of a concession, is rounded as doubles round it.
-/

namespace TransitBpp

open Js

/-! ## Amounts on the wire -/

/-- An amount of paise as rupees. -/
def paiseToRupees (paise : ℤ) : Except Failure String :=
  if !isSafe paise || paise < 0 then
    throw (.error "paise must be a non-negative safe integer")
  else
    let rupees := paise / 100
    let remainder := paise % 100
    return if remainder = 0 then toString rupees else s!"{rupees}.{padded 2 remainder}"

/-- An amount of paise as rupees, negative amounts included. -/
def signedPaiseToRupees (paise : ℤ) : Except Failure String :=
  if paise < 0 then do return "-" ++ (← paiseToRupees (-paise)) else paiseToRupees paise

theorem paiseToRupees_isOk {paise : ℤ} :
    (∃ value, paiseToRupees paise = .ok value) ↔ 0 ≤ paise ∧ paise ≤ maxSafe := by
  unfold paiseToRupees isSafe maxSafe
  constructor
  · rintro ⟨value, h⟩
    split at h
    · cases h
    · rename_i hc
      simp only [Bool.or_eq_true, Bool.not_eq_true', Bool.and_eq_false_iff, decide_eq_false_iff_not,
        decide_eq_true_eq, not_or, not_not, not_lt] at hc
      exact ⟨hc.2, hc.1.2⟩
  · rintro ⟨h0, h1⟩
    rw [if_neg (by simp; omega)]
    exact ⟨_, rfl⟩

theorem signedPaiseToRupees_of_nonneg {paise : ℤ} (h : 0 ≤ paise) :
    signedPaiseToRupees paise = paiseToRupees paise := by
  rw [signedPaiseToRupees, if_neg (by omega)]

/-- A price on a payload, in INR. -/
structure Price : Type where
  /-- the amount -/
  paise : ℤ
  /-- the amount as it prints -/
  value : String
  /-- it prints so -/
  prints : signedPaiseToRupees paise = .ok value

/-- `{ currency: "INR", value: signedPaiseToRupees(paise) }`. -/
def signedPrice (paise : ℤ) : Except Failure Price :=
  match h : signedPaiseToRupees paise with
  | .ok value => .ok ⟨paise, value, h⟩
  | .error e => .error e

/-- `{ currency: "INR", value: paiseToRupees(paise) }`. -/
def price (paise : ℤ) : Except Failure Price := do
  let _ ← paiseToRupees paise
  signedPrice paise

theorem paise_of_signedPrice {paise : ℤ} {p : Price} (h : signedPrice paise = .ok p) :
    p.paise = paise := by
  unfold signedPrice at h
  split at h
  · obtain rfl := Except.ok.inj h
    rfl
  · cases h

theorem paise_of_price {paise : ℤ} {p : Price} (h : price paise = .ok p) :
    p.paise = paise := by
  unfold price at h
  rcases hv : paiseToRupees paise with e | v <;> rw [hv] at h
  · cases h
  · exact paise_of_signedPrice h

theorem price_isOk {paise : ℤ} : (∃ p, price paise = .ok p) ↔ 0 ≤ paise ∧ paise ≤ maxSafe := by
  rw [← paiseToRupees_isOk]
  unfold price
  constructor
  · rintro ⟨p, h⟩
    rcases hv : paiseToRupees paise with e | v
    · rw [hv] at h
      cases h
    · exact ⟨v, rfl⟩
  · rintro ⟨v, hv⟩
    have hs : signedPaiseToRupees paise = .ok v := by
      rw [signedPaiseToRupees_of_nonneg (paiseToRupees_isOk.mp ⟨v, hv⟩).1, hv]
    refine ⟨⟨paise, v, hs⟩, ?_⟩
    rw [hv]
    change signedPrice paise = _
    unfold signedPrice
    split
    · rename_i v' hv'
      obtain rfl := Except.ok.inj (hv'.symm.trans hs)
      rfl
    · rename_i e he
      rw [hs] at he
      cases he

theorem signedPaiseToRupees_isOk {paise : ℤ} :
    (∃ value, signedPaiseToRupees paise = .ok value) ↔ -maxSafe ≤ paise ∧ paise ≤ maxSafe := by
  have hsafe : 0 ≤ maxSafe := by decide
  rw [signedPaiseToRupees]
  split
  · rename_i hneg
    have hprints : (∃ value, paiseToRupees (-paise) = .ok value) ↔ -paise ≤ maxSafe := by
      rw [paiseToRupees_isOk]
      omega
    rw [show (-maxSafe ≤ paise ∧ paise ≤ maxSafe) ↔ -paise ≤ maxSafe by omega, ← hprints]
    constructor
    · rintro ⟨value, h⟩
      cases hv : paiseToRupees (-paise) with
      | error e =>
        rw [hv] at h
        cases h
      | ok rupees => exact ⟨rupees, rfl⟩
    · rintro ⟨rupees, h⟩
      exact ⟨"-" ++ rupees, by rw [h]; rfl⟩
  · rw [paiseToRupees_isOk]
    omega

theorem signedPrice_isOk {paise : ℤ} :
    (∃ p, signedPrice paise = .ok p) ↔ -maxSafe ≤ paise ∧ paise ≤ maxSafe := by
  rw [← signedPaiseToRupees_isOk]
  unfold signedPrice
  split
  · rename_i value h
    exact ⟨fun _ => ⟨value, h⟩, fun _ => ⟨_, rfl⟩⟩
  · rename_i e h
    constructor
    · rintro ⟨p, hp⟩
      cases hp
    · rintro ⟨value, hv⟩
      cases h.symm.trans hv

/-! ## Fares -/

/-- A boarding pair: where the rider gets on and off. -/
structure BoardingPair : Type where
  /-- where the rider boards -/
  fromBoardingPointId : String
  /-- where the rider alights -/
  toBoardingPointId : String
  deriving DecidableEq, Repr

/-- The published cell of a pair and class. -/
def findFareCell (table : FareTable) (pair : BoardingPair) (serviceClass : ServiceClass) :
    Option FareCell :=
  table.fares.find? fun cell =>
    cell.fromBoardingPointId = pair.fromBoardingPointId &&
      cell.toBoardingPointId = pair.toBoardingPointId && cell.serviceClass = serviceClass

/-- The published cell of a pair and class, or a refusal. -/
def fareCell (table : FareTable) (pair : BoardingPair) (serviceClass : ServiceClass) :
    Except Failure FareCell :=
  match findFareCell table pair serviceClass with
  | some cell => return cell
  | none => refuse .fareNotPublished
      s!"No fare is published for {pair.fromBoardingPointId} to {pair.toBoardingPointId} in class {serviceClass.wire}; this provider refuses rather than interpolating from a neighbouring pair"
      []

/-- The pair the catalogue's headline price is for: the whole run. -/
def headlinePair (service : ReservedService) : BoardingPair :=
  ⟨(service.boardingPoints.head service.boards).boardingPointId,
    (service.droppingPoints.getLast service.drops).boardingPointId⟩

/-- A stop a buyer named: its type and the code of its location. -/
structure BuyerStop : Type where
  /-- `START` or `END`, among others -/
  type : Option String
  /-- `location?.descriptor?.code` -/
  code : Option String
  deriving DecidableEq, Repr

/-- The chosen pair, checked against the stops the service makes. -/
def boardingPairFromStops (service : ReservedService) (stops : List BuyerStop) :
    Except Failure BoardingPair :=
  let start := stops.find? fun stop => stop.type = some "START"
  let stop := stops.find? fun stop => stop.type = some "END"
  let pair : BoardingPair :=
    ⟨(start.bind BuyerStop.code).getD (headlinePair service).fromBoardingPointId,
      (stop.bind BuyerStop.code).getD (headlinePair service).toBoardingPointId⟩
  let boards := service.boardingPoints.any fun p => p.boardingPointId = pair.fromBoardingPointId
  let alights := service.droppingPoints.any fun p => p.boardingPointId = pair.toBoardingPointId
  if !boards || !alights then
    refuse .fareNotPublished
      s!"Service {service.serviceId} does not run {pair.fromBoardingPointId} to {pair.toBoardingPointId}"
      []
  else return pair

/-! ## Concessions -/

/-- The senior rate, for the two classes one is published for. -/
def seniorPercentByClass : ServiceClass → Option ℤ
  | .rajahamsaExecutive => some 25
  | .ashwamedha => some 25
  | _ => none

/-- What a rider reads on the line a concession puts on a quote. -/
def concessionLabel (claim : String) : String :=
  if claim = "SENIOR" then "Senior citizen"
  else if claim = "CHILD" then "Child"
  else if claim = "STUDENT" then "Student"
  else if claim = "SHAKTI" then "Free-travel scheme"
  else claim

/-- The class of the `CONCESSION` group on an order. -/
def concessionFromOrderTags (tags : Option (List BuyerTag)) : Option String :=
  (findTag tags "CONCESSION").bind fun group => entryValue (group.list.getD []) "CLASS"

/-- The discount percentage, or a refusal naming which kind of gap it is. -/
def concessionRatePercent (claim : String) (serviceClass : ServiceClass) : Except Failure ℤ :=
  if claim = "SENIOR" then
    match seniorPercentByClass serviceClass with
    | some percent => return percent
    | none => refuse .concessionRateNotPublished
        s!"No SENIOR_CONCESSION_PERCENT rate is published for class {serviceClass.wire} on this service; this provider publishes a senior rate for RAJAHAMSA_EXECUTIVE and ASHWAMEDHA only"
        []
  else if claim = "SHAKTI" then
    if serviceClass = .ashwamedha then return 100
    else refuse .concessionNotApplicable
      s!"The free-travel scheme covers ordinary and express services and its published exclusion list names class {serviceClass.wire}; it never applies to a reserved seat"
      []
  else if claim = "CHILD" then
    refuse .concessionRateNotPublished
      s!"The published child concession is a range of 50 to 75 per cent depending on service class rather than a rate, and no per-class breakdown was found for {serviceClass.wire}"
      []
  else if claim = "STUDENT" then
    refuse .concessionRateNotPublished
      s!"No student rate is published for class {serviceClass.wire} on a reserved intercity seat"
      []
  else
    refuse .concessionNotApplicable s!"{claim} is not a concession this provider prices" []

theorem concessionRatePercent_nonneg {claim : String} {serviceClass : ServiceClass} {percent : ℤ}
    (h : concessionRatePercent claim serviceClass = .ok percent) : 0 ≤ percent := by
  unfold concessionRatePercent at h
  split at h
  · split at h
    · rename_i rate hrate
      obtain rfl := Except.ok.inj h
      unfold seniorPercentByClass at hrate
      split at hrate <;> cases hrate <;> decide
    · cases h
  · split at h
    · split at h
      · obtain rfl := Except.ok.inj h
        decide
      · cases h
    · split at h
      · cases h
      · split at h <;> cases h

/-- A percentage of an amount in whole paise, rounded half up: `Math.floor(x * p / 100 + 0.5)`. -/
def percentHalfUp (paise percent : ℤ) : ℤ := (paise * percent + 50) / 100

/-- The discount on a base fare: `Math.floor((basePaise * percent) / 100 + 0.5)`, in doubles. -/
def concessionDiscountPaise (basePaise percent : ℤ) : ℤ :=
  ⌊double (double (double (basePaise * percent) / 100) + 1 / 2)⌋

theorem concessionDiscountPaise_nonneg {basePaise percent : ℤ} (hbase : 0 ≤ basePaise)
    (hpercent : 0 ≤ percent) : 0 ≤ concessionDiscountPaise basePaise percent := by
  have hproduct : (0 : ℚ) ≤ basePaise * percent := by exact_mod_cast mul_nonneg hbase hpercent
  have hquotient : 0 ≤ double (double (basePaise * percent) / 100) :=
    double_nonneg (div_nonneg (double_nonneg hproduct) (by norm_num))
  exact Int.floor_nonneg.mpr (double_nonneg (by linarith))

/-- A concession takes nothing off a fare where it takes less than half a paisa off. -/
theorem concessionDiscountPaise_eq_zero {basePaise percent : ℤ} (hbase : 0 ≤ basePaise)
    (hpercent : 0 ≤ percent) :
    concessionDiscountPaise basePaise percent = 0 ↔ basePaise * percent < 50 := by
  have hnonneg := concessionDiscountPaise_nonneg hbase hpercent
  have hmono : ∀ {p q : ℚ}, 0 < p → p ≤ q →
      double (double (double p / 100) + 1 / 2) ≤ double (double (double q / 100) + 1 / 2) := by
    intro p q hp h
    have hdouble := double_pos hp
    have hquotient : double p / 100 ≤ double q / 100 :=
      div_le_div_of_nonneg_right (double_mono hp h) (by norm_num)
    have hhalf := double_mono (div_pos hdouble (by norm_num)) hquotient
    have hpos := double_pos (div_pos hdouble (by norm_num : (0 : ℚ) < 100))
    exact double_mono (by linarith) (by linarith)
  have hproduct : 0 ≤ basePaise * percent := mul_nonneg hbase hpercent
  rw [concessionDiscountPaise] at hnonneg ⊢
  rw [show (basePaise : ℚ) * percent = ((basePaise * percent : ℤ) : ℚ) by push_cast; rfl] at hnonneg ⊢
  generalize basePaise * percent = n at hproduct hnonneg ⊢
  constructor
  · intro hzero
    by_contra hmore
    have hfifty : ⌊double (double (double 50 / 100) + 1 / 2)⌋ = 1 := by decide +kernel
    have hle := Int.floor_le_floor (@hmono 50 n (by norm_num) (by exact_mod_cast (not_lt.mp hmore)))
    omega
  · intro hless
    have hnone : ⌊double (double (double 0 / 100) + 1 / 2)⌋ = 0 := by decide +kernel
    have hmost : ⌊double (double (double 49 / 100) + 1 / 2)⌋ = 0 := by decide +kernel
    rcases hproduct.eq_or_lt with rfl | hpos
    · exact_mod_cast hnone
    · have hle := Int.floor_le_floor (@hmono n 49 (by exact_mod_cast hpos)
        (by exact_mod_cast (show n ≤ 49 by omega)))
      omega

/-! ## Refunds -/

/-- The bands of the cancellation policy. -/
inductive SlabCode : Type where
  | over72h | from72hTo24h | from24hTo2h | under2h
  deriving DecidableEq, Repr

/-- The band as the wire spells it. -/
def SlabCode.wire : SlabCode → String
  | over72h => "OVER_72H"
  | from72hTo24h => "72H_TO_24H"
  | from24hTo2h => "24H_TO_2H"
  | under2h => "UNDER_2H"

/-- A band and what it deducts from the base fare. -/
structure Slab : Type where
  /-- the band -/
  code : SlabCode
  /-- 100 means the fare is not returned -/
  deductionPercent : ℤ
  deriving DecidableEq, Repr

/-- One hour. -/
def hourMilliseconds : ℤ := 60 * 60 * 1000

/-- Which slab applies at an instant; a boundary belongs to the stricter side. -/
def slabFor (departureAtMs nowMs : ℤ) : Slab :=
  let remaining := departureAtMs - nowMs
  if remaining > 72 * hourMilliseconds then ⟨.over72h, 10⟩
  else if remaining > 24 * hourMilliseconds then ⟨.from72hTo24h, 25⟩
  else if remaining > 2 * hourMilliseconds then ⟨.from24hTo2h, 50⟩
  else ⟨.under2h, 100⟩

/-- A seat a refund is computed for. -/
structure RefundableSeat : Type where
  /-- which seat -/
  seatId : String
  /-- its share of the base fare -/
  basePaise : ℤ
  /-- its reservation fee -/
  reservationFeePaise : ℤ
  /-- its toll -/
  tollPaise : ℤ
  deriving DecidableEq, Repr

/-- What is kept of a seat's base fare for the rider. -/
def keptPaise (deductionPercent basePaise : ℤ) : ℤ :=
  percentHalfUp basePaise (100 - deductionPercent)

/-- What comes back, per seat and in total. -/
structure RefundComputation : Type where
  /-- the slab that applied -/
  slab : Slab
  /-- the base fare of the seats, before the deduction -/
  basePaise : ℤ
  /-- what the slab takes -/
  slabDeductionPaise : ℤ
  /-- always zero -/
  reservationFeeRefundPaise : ℤ
  /-- what the fee was -/
  reservationFeePaise : ℤ
  /-- the tolls, in full -/
  tollRefundPaise : ℤ
  /-- what comes back -/
  refundPaise : ℤ
  /-- what comes back for each seat -/
  perSeatPaise : List (String × ℤ)
  deriving DecidableEq, Repr

/-- What comes back, per seat and in total. Per seat first, so that rounding is decided once. -/
def computeRefund (seats : List RefundableSeat) (departureAtMs nowMs : ℤ) : RefundComputation :=
  let slab := slabFor departureAtMs nowMs
  let kept (seat : RefundableSeat) : ℤ := keptPaise slab.deductionPercent seat.basePaise
  let basePaise := (seats.map RefundableSeat.basePaise).sum
  let slabDeductionPaise := (seats.map fun seat => seat.basePaise - kept seat).sum
  let tollRefundPaise := (seats.map RefundableSeat.tollPaise).sum
  { slab
    basePaise
    slabDeductionPaise
    reservationFeeRefundPaise := 0
    reservationFeePaise := (seats.map RefundableSeat.reservationFeePaise).sum
    tollRefundPaise
    refundPaise := basePaise - slabDeductionPaise + tollRefundPaise
    perSeatPaise := mapOf (seats.map fun seat => (seat.seatId, kept seat + seat.tollPaise)) }

/-- What one seat is refunded in a slab. -/
def RefundableSeat.refundPaise (seat : RefundableSeat) (slab : Slab) : ℤ :=
  keptPaise slab.deductionPercent seat.basePaise + seat.tollPaise

/-- The refund is what its seats are refunded. -/
theorem computeRefund_refundPaise (seats : List RefundableSeat) (departureAtMs nowMs : ℤ) :
    (computeRefund seats departureAtMs nowMs).refundPaise =
      (seats.map fun seat => seat.refundPaise (slabFor departureAtMs nowMs)).sum := by
  simp only [computeRefund, RefundableSeat.refundPaise]
  induction seats with
  | nil => rfl
  | cons seat seats ih =>
    simp only [List.map_cons, List.sum_cons]
    omega

/-- And each of its seats, where none is repeated, is an entry of the map. -/
theorem mapGet_perSeatPaise {seats : List RefundableSeat} (departureAtMs nowMs : ℤ)
    (hseats : (seats.map RefundableSeat.seatId).Nodup) {seat : RefundableSeat} (h : seat ∈ seats) :
    mapGet (computeRefund seats departureAtMs nowMs).perSeatPaise seat.seatId =
      some (seat.refundPaise (slabFor departureAtMs nowMs)) := by
  rw [computeRefund]
  refine mapGet_mapOf (e := (seat.seatId, seat.refundPaise (slabFor departureAtMs nowMs))) ?_ ?_
  · rwa [List.map_map]
  · exact List.mem_map.mpr ⟨seat, h, rfl⟩

/-- What is still owed to the corporation: the complement of the refund. -/
def retainedPaise (seats : List RefundableSeat) (deductionPercent : ℤ) : ℤ :=
  (seats.map fun seat =>
    seat.basePaise - keptPaise deductionPercent seat.basePaise + seat.reservationFeePaise).sum

end TransitBpp
