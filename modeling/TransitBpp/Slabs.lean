import Mathlib.Algebra.Order.BigOperators.Group.List
import TransitBpp.Handlers

/-!
# The arithmetic of a refund

A refund is the sum of what its seats are refunded one by one, and what one seat is refunded
depends on the slab only. So whatever holds of one seat under rounding (it keeps its toll, it is
never paid more than it paid, it is paid less in a stricter slab) holds of a refund by adding up.
-/

namespace TransitBpp

open Js

/-! ## What a refund prints -/

/-- When a refund prints. -/
theorem refundOf_isOk {refundPaise basePaise deductionPaise tollPaise : ℤ} :
    (∃ refund, refundOf refundPaise basePaise deductionPaise tollPaise = .ok refund) ↔
      ∀ paise ∈ [refundPaise, basePaise, deductionPaise, tollPaise],
        -maxSafe ≤ paise ∧ paise ≤ maxSafe := by
  have hline : ∀ code title paise, (∃ line, refundLine code title paise = .ok line) ↔
      -maxSafe ≤ paise ∧ paise ≤ maxSafe := by
    intro code title paise
    rw [← signedPrice_isOk, refundLine]
    cases signedPrice paise <;> simp [bind, Except.bind, pure, Except.pure]
  have hzero := (hline "RESERVATION_FEE" "Reservation fee" 0).mpr (by decide)
  have hsymm : (-maxSafe ≤ deductionPaise ∧ deductionPaise ≤ maxSafe) ↔
      (-maxSafe ≤ -deductionPaise ∧ -deductionPaise ≤ maxSafe) := by omega
  obtain ⟨fee, hfee⟩ := hzero
  simp only [List.forall_mem_cons, List.not_mem_nil, false_implies, implies_true, and_true]
  rw [hsymm, ← signedPrice_isOk, ← hline "BASE_FARE" "Base fare" basePaise,
    ← hline "SLAB_DEDUCTION" "Cancellation deduction" (-deductionPaise),
    ← hline "TOLL_REFUND" "Toll refund" tollPaise, refundOf, hfee]
  cases signedPrice refundPaise <;> cases refundLine "BASE_FARE" "Base fare" basePaise <;>
    cases refundLine "SLAB_DEDUCTION" "Cancellation deduction" (-deductionPaise) <;>
      cases refundLine "TOLL_REFUND" "Toll refund" tollPaise <;>
        simp [bind, Except.bind, pure, Except.pure]

theorem paise_of_refundLine {code title : String} {paise : ℤ} {line : PriceLine}
    (h : refundLine code title paise = .ok line) : line.price.paise = paise := by
  obtain ⟨price, hprice, hline⟩ := Except.bind_ok.mp h
  obtain rfl := Except.ok.inj hline
  exact paise_of_signedPrice hprice

/-- A quote's lines, by their amounts. -/
def Quote.lines (quote : Quote) : List ℤ := quote.breakup.map fun line => line.price.paise

/-- The amounts that a refund prints. -/
theorem lines_of_refundOf {refundPaise basePaise deductionPaise tollPaise : ℤ} {quote : Quote}
    (h : refundOf refundPaise basePaise deductionPaise tollPaise = .ok quote) :
    quote.price.paise = refundPaise ∧
      quote.lines = [basePaise, -deductionPaise, 0, tollPaise] := by
  obtain ⟨total, htotal, h⟩ := Except.bind_ok.mp h
  obtain ⟨base, hbase, h⟩ := Except.bind_ok.mp h
  obtain ⟨deduction, hdeduction, h⟩ := Except.bind_ok.mp h
  obtain ⟨fee, hfee, h⟩ := Except.bind_ok.mp h
  obtain ⟨toll, htoll, h⟩ := Except.bind_ok.mp h
  obtain rfl := Except.ok.inj h
  refine ⟨paise_of_signedPrice htotal, ?_⟩
  simp only [Quote.lines, List.map_cons, List.map_nil, paise_of_refundLine hbase,
    paise_of_refundLine hdeduction, paise_of_refundLine hfee, paise_of_refundLine htoll]

/-- The total of a refund that is announced is the refund. -/
theorem paise_of_refundPayload {refund : RefundComputation} {quote : Quote}
    (h : refundPayload refund = .ok quote) : quote.price.paise = refund.refundPaise :=
  (lines_of_refundOf h).1

/-! ## One seat -/

/-- What a slab deducts, by the time that is left. -/
theorem slabFor_deductionPercent (departureAtMs nowMs : ℤ) :
    (slabFor departureAtMs nowMs).deductionPercent =
      if departureAtMs - nowMs > 259200000 then 10
      else if departureAtMs - nowMs > 86400000 then 25
      else if departureAtMs - nowMs > 7200000 then 50 else 100 := by
  simp only [slabFor, apply_ite Slab.deductionPercent]
  rfl

/-- A slab deducts between nothing and everything. -/
theorem slabFor_percent (departureAtMs nowMs : ℤ) :
    0 ≤ (slabFor departureAtMs nowMs).deductionPercent ∧
      (slabFor departureAtMs nowMs).deductionPercent ≤ 100 := by
  rw [slabFor_deductionPercent]
  split_ifs <;> omega

/-- And deducts no less later on. -/
theorem slabFor_mono {departureAtMs nowMs laterMs : ℤ} (h : nowMs ≤ laterMs) :
    (slabFor departureAtMs nowMs).deductionPercent ≤
      (slabFor departureAtMs laterMs).deductionPercent := by
  rw [slabFor_deductionPercent, slabFor_deductionPercent]
  split_ifs <;> omega

/-- What is kept of a fare is part of it. -/
theorem keptPaise_bounds {percent basePaise : ℤ} (hpercent : 0 ≤ percent ∧ percent ≤ 100)
    (hbase : 0 ≤ basePaise) : 0 ≤ keptPaise percent basePaise ∧
      keptPaise percent basePaise ≤ basePaise := by
  have hlow : 0 ≤ basePaise * (100 - percent) := mul_nonneg hbase (by omega)
  have hhigh : basePaise * (100 - percent) ≤ basePaise * 100 :=
    mul_le_mul_of_nonneg_left (by omega) hbase
  simp only [keptPaise, percentHalfUp]
  omega

/-- A higher deduction keeps no more. -/
theorem keptPaise_anti {percent percent' basePaise : ℤ} (h : percent ≤ percent')
    (hbase : 0 ≤ basePaise) : keptPaise percent' basePaise ≤ keptPaise percent basePaise := by
  have hmul : basePaise * (100 - percent') ≤ basePaise * (100 - percent) :=
    mul_le_mul_of_nonneg_left (by omega) hbase
  simp only [keptPaise, percentHalfUp]
  omega

/-! ## Whole refunds -/

variable {seats : List RefundableSeat}

/-- What a seat was sold for. -/
def RefundableSeat.paidPaise (seat : RefundableSeat) : ℤ :=
  seat.basePaise + seat.reservationFeePaise + seat.tollPaise

/-- Seats that the arithmetic is for. -/
structure Refundable (seats : List RefundableSeat) : Prop where
  /-- no seat is there twice -/
  distinct : (seats.map RefundableSeat.seatId).Nodup
  /-- fares are not negative -/
  base : ∀ seat ∈ seats, 0 ≤ seat.basePaise
  /-- nor are fees -/
  fee : ∀ seat ∈ seats, 0 ≤ seat.reservationFeePaise
  /-- nor tolls -/
  toll : ∀ seat ∈ seats, 0 ≤ seat.tollPaise
  /-- and what was paid for all of them is exact -/
  safe : (seats.map RefundableSeat.paidPaise).sum ≤ maxSafe

/-- The map of a refund adds up to it. -/
theorem sum_perSeatPaise (hseats : (seats.map RefundableSeat.seatId).Nodup)
    (departureAtMs nowMs : ℤ) :
    ((computeRefund seats departureAtMs nowMs).perSeatPaise.map Prod.snd).sum =
      (computeRefund seats departureAtMs nowMs).refundPaise := by
  rw [computeRefund_refundPaise]
  simp only [computeRefund]
  rw [mapOf_eq (by rwa [List.map_map]), List.map_map]
  rfl

/-- A seat is refunded its toll and a part of its fare. -/
theorem Refundable.seat_bounds (h : Refundable seats) {seat : RefundableSeat} (hseat : seat ∈ seats)
    (departureAtMs nowMs : ℤ) : seat.tollPaise ≤ seat.refundPaise (slabFor departureAtMs nowMs) ∧
      seat.refundPaise (slabFor departureAtMs nowMs) ≤ seat.basePaise + seat.tollPaise := by
  have hkept := keptPaise_bounds (slabFor_percent departureAtMs nowMs) (h.base seat hseat)
  simp only [RefundableSeat.refundPaise]
  omega

/-- Later is never more. -/
theorem Refundable.later (h : Refundable seats) {departureAtMs nowMs laterMs : ℤ}
    (hlater : nowMs ≤ laterMs) : (computeRefund seats departureAtMs laterMs).refundPaise ≤
      (computeRefund seats departureAtMs nowMs).refundPaise := by
  rw [computeRefund_refundPaise, computeRefund_refundPaise]
  refine List.sum_le_sum fun seat hseat => ?_
  have hkept := keptPaise_anti (@slabFor_mono departureAtMs _ _ hlater) (h.base seat hseat)
  simp only [RefundableSeat.refundPaise]
  omega

/-- Parts that make up the seats are refunded what the seats are, within one slab. -/
theorem refundPaise_parts {parts : List (List RefundableSeat × ℤ)} {departureAtMs nowMs : ℤ}
    (hparts : (parts.flatMap Prod.fst).Perm seats)
    (hslab : ∀ part ∈ parts, slabFor departureAtMs part.2 = slabFor departureAtMs nowMs) :
    (parts.map fun part => (computeRefund part.1 departureAtMs part.2).refundPaise).sum =
      (computeRefund seats departureAtMs nowMs).refundPaise := by
  rw [computeRefund_refundPaise, ← (hparts.map _).sum_eq]
  clear hparts
  induction parts with
  | nil => rfl
  | cons part parts ih =>
    rw [List.map_cons, List.sum_cons, List.flatMap_cons, List.map_append, List.sum_append,
      ih fun part hpart => hslab part (.tail _ hpart), computeRefund_refundPaise,
      hslab part (.head _)]

/-- What comes back and what is retained is what was paid. -/
theorem refundPaise_add_retainedPaise (seats : List RefundableSeat) (departureAtMs nowMs : ℤ) :
    (computeRefund seats departureAtMs nowMs).refundPaise +
        retainedPaise seats (slabFor departureAtMs nowMs).deductionPercent =
      (seats.map RefundableSeat.paidPaise).sum := by
  rw [computeRefund_refundPaise, retainedPaise, ← List.sum_map_add]
  refine congrArg List.sum (List.map_congr_left fun seat _ => ?_)
  simp only [RefundableSeat.refundPaise, RefundableSeat.paidPaise]
  omega

/-- The four amounts of a refund lie between nothing and what was paid. -/
theorem Refundable.amounts (h : Refundable seats) (departureAtMs nowMs : ℤ) :
    ∀ paise ∈ [(computeRefund seats departureAtMs nowMs).refundPaise,
        (computeRefund seats departureAtMs nowMs).basePaise,
        (computeRefund seats departureAtMs nowMs).slabDeductionPaise,
        (computeRefund seats departureAtMs nowMs).tollRefundPaise],
      -maxSafe ≤ paise ∧ paise ≤ maxSafe := by
  -- each is a sum over the seats of something between 0 and what the seat was sold for
  have hsum : ∀ amount : RefundableSeat → ℤ,
      (∀ seat ∈ seats, 0 ≤ amount seat ∧ amount seat ≤ seat.paidPaise) →
        -maxSafe ≤ (seats.map amount).sum ∧ (seats.map amount).sum ≤ maxSafe := by
    intro amount hamount
    have hlow : 0 ≤ (seats.map amount).sum :=
      List.sum_nonneg (by simpa using fun seat hseat => (hamount seat hseat).1)
    have hhigh : (seats.map amount).sum ≤ (seats.map RefundableSeat.paidPaise).sum :=
      List.sum_le_sum fun seat hseat => (hamount seat hseat).2
    have hsafe : 0 ≤ maxSafe := by decide
    exact ⟨by omega, hhigh.trans h.safe⟩
  have hseat : ∀ seat ∈ seats, 0 ≤ seat.basePaise ∧ 0 ≤ seat.reservationFeePaise ∧
      0 ≤ seat.tollPaise := fun seat hseat =>
    ⟨h.base seat hseat, h.fee seat hseat, h.toll seat hseat⟩
  have hkept : ∀ seat ∈ seats, 0 ≤ keptPaise (slabFor departureAtMs nowMs).deductionPercent
      seat.basePaise ∧ keptPaise (slabFor departureAtMs nowMs).deductionPercent seat.basePaise ≤
        seat.basePaise := fun seat hseat =>
    keptPaise_bounds (slabFor_percent departureAtMs nowMs) (h.base seat hseat)
  simp only [List.forall_mem_cons, List.not_mem_nil, false_implies, implies_true, and_true]
  rw [computeRefund_refundPaise]
  refine ⟨hsum _ ?_, hsum _ ?_, hsum _ ?_, hsum _ ?_⟩ <;> intro seat hmem <;>
    have := hseat seat hmem <;> have := hkept seat hmem <;>
    simp only [RefundableSeat.refundPaise, RefundableSeat.paidPaise] <;> omega

/-- **The refund arithmetic is sound.** A refund is the sum of its seats' refunds, each between the
seat's toll and its fare with the toll; it falls as time goes on, does not depend on how the seats
are divided within a slab, leaves what is retained, and prints in lines that add up to it. -/
theorem refund_arithmetic_sound (h : Refundable seats) (departureAtMs nowMs : ℤ) :
    ((computeRefund seats departureAtMs nowMs).perSeatPaise.map Prod.snd).sum =
        (computeRefund seats departureAtMs nowMs).refundPaise ∧
    (∀ seat ∈ seats, ∃ paise,
      mapGet (computeRefund seats departureAtMs nowMs).perSeatPaise seat.seatId = some paise ∧
        seat.tollPaise ≤ paise ∧ paise ≤ seat.basePaise + seat.tollPaise) ∧
    (∀ laterMs, nowMs ≤ laterMs → (computeRefund seats departureAtMs laterMs).refundPaise ≤
      (computeRefund seats departureAtMs nowMs).refundPaise) ∧
    (∀ parts : List (List RefundableSeat × ℤ), (parts.flatMap Prod.fst).Perm seats →
      (∀ part ∈ parts, slabFor departureAtMs part.2 = slabFor departureAtMs nowMs) →
        (parts.map fun part => (computeRefund part.1 departureAtMs part.2).refundPaise).sum =
          (computeRefund seats departureAtMs nowMs).refundPaise) ∧
    (computeRefund seats departureAtMs nowMs).refundPaise +
        retainedPaise seats (slabFor departureAtMs nowMs).deductionPercent =
      (seats.map fun seat =>
        seat.basePaise + seat.reservationFeePaise + seat.tollPaise).sum ∧
    ∃ quote, refundPayload (computeRefund seats departureAtMs nowMs) = .ok quote ∧
      quote.price.paise = (computeRefund seats departureAtMs nowMs).refundPaise ∧
        quote.lines.length = 4 ∧ quote.lines.sum = quote.price.paise := by
  refine ⟨sum_perSeatPaise h.distinct departureAtMs nowMs, fun seat hseat => ?_,
    fun laterMs hlater => h.later hlater, fun parts => refundPaise_parts,
    refundPaise_add_retainedPaise seats departureAtMs nowMs, ?_⟩
  · exact ⟨_, mapGet_perSeatPaise departureAtMs nowMs h.distinct hseat,
      h.seat_bounds hseat departureAtMs nowMs⟩
  · obtain ⟨quote, hquote⟩ := refundOf_isOk.mpr (h.amounts departureAtMs nowMs)
    obtain ⟨hprice, hlines⟩ := lines_of_refundOf hquote
    have hrefund : (computeRefund seats departureAtMs nowMs).refundPaise =
        (computeRefund seats departureAtMs nowMs).basePaise -
          (computeRefund seats departureAtMs nowMs).slabDeductionPaise +
            (computeRefund seats departureAtMs nowMs).tollRefundPaise := rfl
    refine ⟨quote, hquote, hprice, by rw [hlines]; rfl, ?_⟩
    rw [hlines, hprice]
    simp only [List.sum_cons, List.sum_nil]
    omega

/-- Two seats whose fares round. -/
theorem refund_arithmetic_sound_rounded :
    (computeRefund [⟨"U1A", 12345, 2000, 500⟩, ⟨"U1B", 10001, 2000, 0⟩] 100000000 9000000).refundPaise
      + retainedPaise [⟨"U1A", 12345, 2000, 500⟩, ⟨"U1B", 10001, 2000, 0⟩]
        (slabFor 100000000 9000000).deductionPercent = 26846 :=
  (@refund_arithmetic_sound [⟨"U1A", 12345, 2000, 500⟩, ⟨"U1B", 10001, 2000, 0⟩]
    ⟨by decide, by decide, by decide, by decide, by decide⟩ 100000000 9000000).2.2.2.2.1

end TransitBpp
