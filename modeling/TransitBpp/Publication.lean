import TransitBpp.Dates
import TransitBpp.HttpSource
import TransitBpp.Orders
import TransitBpp.Slabs

/-!
# What an accepted catalogue prints

Amounts and offsets come out of a catalogue unbounded but for the safe integers, and are multiplied
and added before they are written. `rupeesToPaise` and `readInstant` read what is written back;
`AmountsFit` and `FourDigitYear` say which amounts and which instants survive the writing, and
`catalogue_published_iff` that nothing else stands in the way of a search or of a select.
-/

namespace TransitBpp

open Js

/-! ## Reading a rupee value -/

/-- The paise of an unsigned rupee value: digits, and a point with two more. -/
def unsignedPaise (cs : List Char) : Option ℤ :=
  let whole := cs.takeWhile fun c => c ≠ '.'
  match digits 10 whole, cs.drop whole.length with
  | some (rupees, _ + 1), [] => some (rupees * 100)
  | some (rupees, _ + 1), ['.', c, c'] => (digits 10 [c, c']).map fun d => rupees * 100 + d.1
  | _, _ => none

/-- The paise of a rupee value. -/
def rupeesToPaise (value : String) : Option ℤ :=
  match value.toList with
  | '-' :: cs => (unsignedPaise cs).map fun paise => -paise
  | cs => unsignedPaise cs

/-- A numeral has a digit, and no sign and no point. -/
theorem toDigits_numeral (n : ℕ) : (∃ k, digits 10 (Nat.toDigits 10 n) = some (n, k + 1)) ∧
    ∀ c ∈ Nat.toDigits 10 n, c ≠ '.' ∧ c ≠ '-' := by
  obtain ⟨k, hk⟩ := digits_toDigits n
  have hlength := (digits_bound hk).1
  have hpos : 0 < (Nat.toDigits 10 n).length := Nat.length_toDigits_pos
  refine ⟨⟨k - 1, by rw [hk]; congr; omega⟩, fun c hc => ?_⟩
  have hdigit := Nat.isDigit_of_mem_toDigits (by decide) (by decide) hc
  constructor <;> rintro rfl <;> exact absurd hdigit (by decide)

/-- What an amount prints as. -/
theorem toList_of_paiseToRupees {paise : ℤ} {value : String} (h : paiseToRupees paise = .ok value) :
    0 ≤ paise ∧ value.toList = Nat.toDigits 10 (paise / 100).toNat ++
      if paise % 100 = 0 then [] else '.' :: (padded 2 (paise % 100)).toList := by
  have hpos := (paiseToRupees_isOk.mp ⟨value, h⟩).1
  refine ⟨hpos, ?_⟩
  obtain ⟨rupees, hrupees⟩ := Int.eq_ofNat_of_zero_le (show 0 ≤ paise / 100 by omega)
  have hwhole : (toString (paise / 100)).toList = Nat.toDigits 10 (paise / 100).toNat := by
    rw [hrupees, Int.toNat_natCast]
    exact Nat.toList_repr
  rw [paiseToRupees] at h
  split at h
  · cases h
  · obtain rfl := Except.ok.inj h
    split
    · rw [hwhole, List.append_nil]
    · simp only [String.toList_append, hwhole]
      simp [toString]

/-- An unsigned value is read as the amount it was made from. -/
theorem unsignedPaise_of_paiseToRupees {paise : ℤ} {value : String}
    (h : paiseToRupees paise = .ok value) : unsignedPaise value.toList = some paise := by
  obtain ⟨hpos, hlist⟩ := toList_of_paiseToRupees h
  obtain ⟨⟨k, hk⟩, hchars⟩ := toDigits_numeral (paise / 100).toNat
  have hwhole : ∀ rest : List Char, (rest = [] ∨ ∃ cs, rest = '.' :: cs) →
      (Nat.toDigits 10 (paise / 100).toNat ++ rest).takeWhile (fun c => c ≠ '.') =
        Nat.toDigits 10 (paise / 100).toNat := by
    intro rest hrest
    rw [List.takeWhile_append_of_pos fun c hc => decide_eq_true (hchars c hc).1]
    rcases hrest with rfl | ⟨cs, rfl⟩ <;> simp
  simp only [unsignedPaise, hlist]
  by_cases hround : paise % 100 = 0
  · rw [if_pos hround, hwhole _ (.inl rfl), hk, List.append_nil, List.drop_length]
    exact congrArg some (by omega)
  · obtain ⟨r, hr⟩ := Int.eq_ofNat_of_zero_le (show 0 ≤ paise % 100 by omega)
    obtain ⟨hlen, hdigits⟩ := @padded_digits 2 r (by omega) (by omega)
    obtain ⟨c, c', hcs⟩ := List.length_eq_two.mp hlen
    rw [if_neg hround, hr, hwhole _ (.inr ⟨_, rfl⟩), hk, List.drop_left, hcs]
    rw [hcs] at hdigits
    simp only [hdigits, Option.map_some]
    exact congrArg some (by omega)

/-- **A rupee value is read as the amount it was made from.** -/
theorem rupeesToPaise_of_signed {paise : ℤ} {value : String}
    (h : signedPaiseToRupees paise = .ok value) : rupeesToPaise value = some paise := by
  rw [signedPaiseToRupees] at h
  split at h
  · obtain ⟨rupees, hrupees, h⟩ := Except.bind_ok.mp h
    obtain rfl := Except.ok.inj h
    have hlist : ("-" ++ rupees).toList = '-' :: rupees.toList := by
      rw [String.toList_append]
      rfl
    simp only [rupeesToPaise, hlist, unsignedPaise_of_paiseToRupees hrupees, Option.map_some, neg_neg]
  · have hread := unsignedPaise_of_paiseToRupees h
    obtain ⟨-, hlist⟩ := toList_of_paiseToRupees h
    rw [rupeesToPaise]
    split
    · rename_i cs hcs
      -- no numeral starts with a sign
      obtain ⟨c, ds, hds⟩ := List.exists_cons_of_length_pos
        (Nat.length_toDigits_pos (b := 10) (n := (paise / 100).toNat))
      have hc := (toDigits_numeral (paise / 100).toNat).2 c (hds ▸ List.mem_cons_self ..)
      rw [hlist, hds, List.cons_append] at hcs
      exact absurd (List.cons.inj hcs).1 hc.2
    · exact hread

theorem Price.decodes (p : Price) : rupeesToPaise p.value = some p.paise :=
  rupeesToPaise_of_signed p.prints

/-! ## Reading an instant -/

/-- The instant of `YYYY-MM-DDThh:mm:ss.mmm+05:30`. -/
def readInstant (text : String) : Option ℤ :=
  match calendarDate (slice text 10), text.toList.drop 10 with
  | some (year, month, day), ['T', h, h', ':', m, m', ':', s, s', '.', t, t', t'', '+', '0', '5',
      ':', '3', '0'] =>
    match digits 10 [h, h'], digits 10 [m, m'], digits 10 [s, s'], digits 10 [t, t', t''] with
    | some (hour, _), some (minute, _), some (second, _), some (millisecond, _) =>
      some (daysFromCivil year month day * dayMilliseconds + hour * 3600000 + minute * 60000 +
        second * 1000 + millisecond - indiaOffsetMilliseconds)
    | _, _, _, _ => none
  | _, _ => none

/-- The year an instant falls in, in IST. -/
def istYear (ms : ℤ) : ℤ := (civilFromDays ((ms + indiaOffsetMilliseconds) / dayMilliseconds)).1

/-- An instant whose year is written with four digits. -/
def FourDigitYear (ms : ℤ) : Prop := 0 ≤ istYear ms ∧ istYear ms ≤ 9999

instance (ms : ℤ) : Decidable (FourDigitYear ms) := inferInstanceAs (Decidable (_ ∧ _))

/-- What a time of day is written with. -/
theorem timeText_eq {t : ℤ} (ht : 0 ≤ t ∧ t < dayMilliseconds) :
    ∃ h h' m m' s s' f f' f'', timeText t = ['T', h, h', ':', m, m', ':', s, s', '.', f, f', f''] ∧
      digits 10 [h, h'] = some ((t / 3600000).toNat, 2) ∧
      digits 10 [m, m'] = some ((t / 60000 % 60).toNat, 2) ∧
      digits 10 [s, s'] = some ((t / 1000 % 60).toNat, 2) ∧
      digits 10 [f, f', f''] = some ((t % 1000).toNat, 3) := by
  rw [dayMilliseconds] at ht
  have hpart : ∀ {width : ℕ} {n : ℤ}, 0 < width → 0 ≤ n → n < 10 ^ width →
      (padded width n).toList.length = width ∧
        digits 10 (padded width n).toList = some (n.toNat, width) := by
    intro width n hwidth hpos hlt
    obtain ⟨k, rfl⟩ := Int.eq_ofNat_of_zero_le hpos
    rw [Int.toNat_natCast]
    exact padded_digits hwidth (by exact_mod_cast hlt)
  obtain ⟨hhours, hhour⟩ := @hpart 2 (t / 3600000) (by omega) (by omega) (by norm_num; omega)
  obtain ⟨hminutes, hminute⟩ := @hpart 2 (t / 60000 % 60) (by omega) (by omega) (by norm_num; omega)
  obtain ⟨hseconds, hsecond⟩ := @hpart 2 (t / 1000 % 60) (by omega) (by omega) (by norm_num; omega)
  obtain ⟨hmillis, hmilli⟩ := @hpart 3 (t % 1000) (by omega) (by omega) (by norm_num; omega)
  obtain ⟨h, h', heq⟩ := List.length_eq_two.mp hhours
  obtain ⟨m, m', meq⟩ := List.length_eq_two.mp hminutes
  obtain ⟨s, s', seq⟩ := List.length_eq_two.mp hseconds
  obtain ⟨f, f', f'', feq⟩ := List.length_eq_three.mp hmillis
  refine ⟨h, h', m, m', s, s', f, f', f'', ?_, heq ▸ hhour, meq ▸ hminute, seq ▸ hsecond,
    feq ▸ hmilli⟩
  rw [timeText, heq, meq, seq, feq]
  rfl

/-- **An instant is read as itself exactly when its year has four digits.** -/
theorem readInstant_iff {ms : ℤ} {text : String} (h : istIsoInstant ms = .ok text) :
    readInstant text = some ms ↔ FourDigitYear ms := by
  obtain ⟨iso, hiso, h⟩ := Except.bind_ok.mp h
  obtain rfl := Except.ok.inj h
  have hwritten : toISOString (ms + indiaOffsetMilliseconds) = some iso := by
    rw [isoString] at hiso
    split at hiso
    · cases hiso
    · rename_i text htext
      rw [htext, Except.ok.inj hiso]
  by_cases hyear : FourDigitYear ms
  · refine iff_of_true ?_ hyear
    obtain ⟨t, ht⟩ : ∃ t, t = (ms + indiaOffsetMilliseconds) % dayMilliseconds := ⟨_, rfl⟩
    obtain ⟨days, hdays⟩ : ∃ days, days = (ms + indiaOffsetMilliseconds) / dayMilliseconds :=
      ⟨_, rfl⟩
    have htime : 0 ≤ t ∧ t < dayMilliseconds := by
      rw [ht, dayMilliseconds]
      omega
    have hlist := toList_of_toISOString hwritten hyear
    obtain ⟨hmonth, hday⟩ := civilDay_digits (civilDay_civilFromDays days)
    have hyear' : 0 ≤ (civilFromDays days).1 ∧ (civilFromDays days).1 ≤ 9999 := hdays ▸ hyear
    have hdate := length_dateText hyear' hmonth hday
    obtain ⟨h, h', m, m', s, s', f, f', f'', hclock, hhour, hminute, hsecond, hmilli⟩ :=
      timeText_eq htime
    rw [← ht, ← hdays] at hlist
    have htext : (slice iso 23 ++ "+05:30").toList = dateText (civilFromDays days).1
        (civilFromDays days).2.1 (civilFromDays days).2.2 ++
          (timeText t ++ ['+', '0', '5', ':', '3', '0']) := by
      have hoffset : "+05:30".toList = ['+', '0', '5', ':', '3', '0'] := rfl
      rw [String.toList_append, slice, String.toList_ofList, hlist, ← List.append_assoc,
        List.take_left' (by rw [List.length_append, hdate, hclock]; rfl), hoffset,
        List.append_assoc]
    have hread : calendarDate (slice (slice iso 23 ++ "+05:30") 10) = some ((civilFromDays days).1,
        (civilFromDays days).2.1, (civilFromDays days).2.2) := by
      refine calendarDate_iff.mpr ⟨hyear', hmonth, hday, ?_⟩
      rw [slice, String.toList_ofList, htext, List.take_left' hdate]
    have hrest : (slice iso 23 ++ "+05:30").toList.drop 10 =
        timeText t ++ ['+', '0', '5', ':', '3', '0'] := by
      rw [htext, List.drop_left' hdate]
    rw [readInstant, hread, hrest, hclock]
    simp only [List.cons_append, List.nil_append, hhour, hminute, hsecond, hmilli]
    rw [daysFromCivil_civilFromDays]
    refine congrArg some ?_
    rw [dayMilliseconds] at htime ht hdays ⊢
    omega
  · refine iff_of_false (fun hread => ?_) hyear
    obtain ⟨c, rest, hlist, hsign⟩ := sign_of_toISOString hwritten hyear
    have hfirst : (slice (slice iso 23 ++ "+05:30") 10).toList =
        c :: ((rest.take 22 ++ "+05:30".toList).take 9) := by
      simp only [slice, String.toList_append, String.toList_ofList, hlist, List.take_succ_cons,
        List.cons_append]
    rw [readInstant, calendarDate_of_sign hfirst hsign] at hread
    cases hread

/-- Every such instant is written. -/
theorem FourDigitYear.writes {ms : ℤ} (h : FourDigitYear ms) :
    ∃ text, istIsoInstant ms = .ok text ∧ readInstant text = some ms := by
  obtain ⟨text, htext⟩ : ∃ text, istIsoInstant ms = .ok text := by
    rw [istIsoInstant_isOk]
    have hlow := civilFromDays_le_era ((ms + indiaOffsetMilliseconds) / dayMilliseconds)
    have hhigh := era_le_civilFromDays ((ms + indiaOffsetMilliseconds) / dayMilliseconds)
    rw [FourDigitYear, istYear] at h
    rw [dayMilliseconds] at *
    omega
  exact ⟨text, htext, (readInstant_iff htext).mpr h⟩

/-! ## What requests read of a catalogue -/

/-- A number as it was authored is read as a whole number. -/
def JsNumber.Reads (n : JsNumber) (value : ℤ) : Prop := ∃ text, n = .finite value text

/-- A service as requests read it. -/
structure ReadsService (authored : AuthoredService) (service : ReservedService) : Prop where
  /-- the service that was authored -/
  serviceId : service.serviceId = authored.serviceId
  /-- its class is spelled -/
  serviceClass : service.serviceClass.wire = authored.serviceClass
  /-- its stops are those authored -/
  boardingPoints : service.boardingPoints = authored.boardingPoints.map CataloguePoint.toBoardingPoint
  /-- its stops are those authored -/
  droppingPoints : service.droppingPoints = authored.droppingPoints.map CataloguePoint.toBoardingPoint
  /-- it names its fares -/
  fareTableId : service.fareTableId = authored.fareTableId
  /-- and its numbers are whole -/
  departureMinute : authored.departureMinute.Reads service.departureMinute
  /-- and its numbers are whole -/
  reservationFeePaise : authored.reservationFeePaise.Reads service.reservationFeePaise
  /-- and its numbers are whole -/
  tollPaise : authored.tollPaise.Reads service.tollPaise

/-- A fare as requests read it. -/
structure ReadsCell (authored : AuthoredCell) (cell : FareCell) : Prop where
  /-- from where -/
  fromBoardingPointId : cell.fromBoardingPointId = authored.fromBoardingPointId
  /-- to where -/
  toBoardingPointId : cell.toBoardingPointId = authored.toBoardingPointId
  /-- in which class -/
  serviceClass : cell.serviceClass.wire = authored.serviceClass
  /-- at which fare -/
  farePaise : authored.farePaise.Reads cell.farePaise

/-- A catalogue as requests read it. -/
structure ReadsCatalogue (authored : ReservedCatalogue) (dataset : Http.Dataset) : Prop where
  /-- every service was authored -/
  services : ∀ service ∈ dataset.services, ∃ a ∈ authored.services,
    ReadsService a service.toReservedService
  /-- every fare was -/
  fares : ∀ table ∈ dataset.fareTables, ∃ a ∈ authored.fareTables,
    a.fareTableId = table.fareTableId ∧ ∀ cell ∈ table.fares, ∃ b ∈ a.fares, ReadsCell b cell

/-- An amount that the validator lets pass. -/
def Whole (paise : ℤ) : Prop := 0 ≤ paise ∧ paise ≤ maxSafe

instance (paise : ℤ) : Decidable (Whole paise) := inferInstanceAs (Decidable (_ ∧ _))

theorem JsNumber.Reads.whole {n : JsNumber} {paise : ℤ} (h : n.Reads paise)
    (hsafe : (!n.isSafeInteger || n.below 0) = false) : Whole paise := by
  obtain ⟨text, rfl⟩ := h
  simp only [JsNumber.isSafeInteger, JsNumber.below, isSafe, Bool.or_eq_false_iff,
    Bool.not_eq_false', Bool.and_eq_true, decide_eq_false_iff_not, not_lt,
    Rat.num_intCast] at hsafe
  exact ⟨by exact_mod_cast hsafe.2, of_decide_eq_true hsafe.1.2.2⟩

section Accepted

variable {authored : ReservedCatalogue} {dataset : Http.Dataset} {name : String}

theorem ReadsCatalogue.amounts (hreads : ReadsCatalogue authored dataset)
    (haccepted : validateReservedCatalogue authored name = .ok ()) {id : String}
    {service : ReservedService} (h : dataset.service id = some service) :
    Whole service.reservationFeePaise ∧ Whole service.tollPaise := by
  obtain ⟨placed, hfind, rfl⟩ := Option.map_eq_some_iff.mp h
  obtain ⟨a, hmem, hservice⟩ := hreads.services placed (List.mem_of_find?_eq_some hfind)
  simp only [validateReservedCatalogue, check_bind, forM_ok, failIf_ok] at haccepted
  obtain ⟨-, -, hservices, -⟩ := haccepted
  have hchecked := (checkServices_ok hservices).2.2 a hmem
  simp only [checkService, checkPaise, check_bind, failIf_ok] at hchecked
  obtain ⟨-, -, -, -, -, -, -, -, -, -, -, hfee, htoll⟩ := hchecked
  exact ⟨hservice.reservationFeePaise.whole hfee, hservice.tollPaise.whole htoll⟩

theorem ReadsCatalogue.fare (hreads : ReadsCatalogue authored dataset)
    (haccepted : validateReservedCatalogue authored name = .ok ()) {id : String}
    {table : FareTable} (h : dataset.fareTable id = some table) {pair : BoardingPair}
    {serviceClass : ServiceClass} {cell : FareCell}
    (hcell : findFareCell table pair serviceClass = some cell) : Whole cell.farePaise := by
  obtain ⟨a, hmem, -, hcells⟩ := hreads.fares table (List.mem_of_find?_eq_some h)
  obtain ⟨b, hb, hread⟩ := hcells cell (List.mem_of_find?_eq_some hcell)
  simp only [validateReservedCatalogue, check_bind, forM_ok, failIf_ok] at haccepted
  obtain ⟨-, -, -, hfares⟩ := haccepted
  have hchecked := hfares a hmem b hb
  simp only [checkCell, check_bind, failIf_ok] at hchecked
  exact hread.farePaise.whole hchecked.2.1

end Accepted

/-! ## Stops -/

variable {d : Deployment} {service : ReservedService} {travelDate : String}

/-- A text denotes the instant of the departure and this offset. -/
def DenotesStop (service : ReservedService) (travelDate : String) (offset : ℤ) (text : String) :
    Prop :=
  ∃ ms, stopInstantMilliseconds travelDate service.departureMinute offset = .ok ms ∧
    readInstant text = some ms

/-- The instants at these offsets fall in years of four digits. -/
def StopsFit (service : ReservedService) (travelDate : String) (offsets : List ℤ) : Prop :=
  ∀ offset ∈ offsets, ∀ ms,
    stopInstantMilliseconds travelDate service.departureMinute offset = .ok ms → FourDigitYear ms

theorem stopInstantMilliseconds_isOk (hdate : (calendarDate travelDate).isSome)
    (departureMinute offset : ℤ) :
    ∃ ms, stopInstantMilliseconds travelDate departureMinute offset = .ok ms := by
  obtain ⟨⟨year, month, day⟩, hdate⟩ := Option.isSome_iff_exists.mp hdate
  rw [stopInstantMilliseconds, midnightMilliseconds, hdate]
  exact ⟨_, rfl⟩

/-- **One stop.** Its instant is written, and right, exactly when its year has four digits. -/
theorem stopInstant_right_iff (hdate : (calendarDate travelDate).isSome) (offset : ℤ) :
    (∃ text, stopInstant travelDate service.departureMinute offset = .ok text ∧
      DenotesStop service travelDate offset text) ↔ StopsFit service travelDate [offset] := by
  obtain ⟨ms, hms⟩ := stopInstantMilliseconds_isOk hdate service.departureMinute offset
  constructor
  · rintro ⟨text, htext, ms', hms', hread⟩ other hother ms'' hms''
    obtain rfl := List.mem_singleton.mp hother
    obtain ⟨ms₀, hms₀, hwritten⟩ := Except.bind_ok.mp htext
    obtain rfl := Except.ok.inj (hms₀.symm.trans hms')
    obtain rfl := Except.ok.inj (hms₀.symm.trans hms'')
    exact (readInstant_iff hwritten).mp hread
  · intro hfit
    obtain ⟨text, htext, hread⟩ := (hfit offset (List.mem_singleton_self _) ms hms).writes
    exact ⟨text, Except.bind_ok.mpr ⟨ms, hms, htext⟩, ms, hms, hread⟩

theorem stopsFit_cons {offset : ℤ} {offsets : List ℤ} :
    StopsFit service travelDate (offset :: offsets) ↔
      StopsFit service travelDate [offset] ∧ StopsFit service travelDate offsets := by
  simp only [StopsFit, List.forall_mem_cons, List.not_mem_nil, false_implies, implies_true, and_true]

/-- A stop of a fulfillment that is where and when it should be. -/
def StopRight (service : ReservedService) (travelDate : String) (point : BoardingPoint)
    (stop : Stop) : Prop :=
  stop.code = point.boardingPointId ∧
    DenotesStop service travelDate point.reportingOffsetMinutes stop.timestamp

theorem stopAt_right_iff (hdate : (calendarDate travelDate).isSome) {id : String}
    {parent : Option String} {type : StopType} {point : BoardingPoint} {roles : List String} :
    (∃ stop, stopAt service travelDate id parent type point roles = .ok stop ∧
      StopRight service travelDate point stop) ↔
        StopsFit service travelDate [point.reportingOffsetMinutes] := by
  rw [← stopInstant_right_iff hdate]
  constructor
  · rintro ⟨stop, hstop, -, hdenotes⟩
    obtain ⟨text, htext, hstop⟩ := Except.bind_ok.mp hstop
    obtain rfl := Except.ok.inj hstop
    exact ⟨text, htext, hdenotes⟩
  · rintro ⟨text, htext, hdenotes⟩
    exact ⟨_, Except.bind_ok.mpr ⟨text, htext, rfl⟩, rfl, hdenotes⟩

/-! ## A search -/

/-- An item at its price and its departure. -/
structure ItemRight (service : ReservedService) (travelDate : String) (pricePaise : ℤ)
    (item : Item) : Prop where
  /-- its price is the fare -/
  price : item.price.paise = pricePaise
  /-- and reads as it -/
  decodes : rupeesToPaise item.price.value = some pricePaise
  /-- its departure is that of the service -/
  departure : DenotesStop service travelDate 0 item.departure

theorem reservedItem_right_iff (hdate : (calendarDate travelDate).isSome) {pricePaise : ℤ}
    (hprice : Whole pricePaise) {pair : BoardingPair} {sourcing : SourcingLabel}
    {available : Option ℕ} {selected : Option ℤ} :
    (∃ item, reservedItem service travelDate pricePaise pair sourcing available selected = .ok item ∧
      ItemRight service travelDate pricePaise item) ↔ StopsFit service travelDate [0] := by
  rw [← stopInstant_right_iff hdate]
  constructor
  · rintro ⟨item, hitem, hright⟩
    obtain ⟨itemId, -, hitem⟩ := Except.bind_ok.mp hitem
    obtain ⟨shown, -, hitem⟩ := Except.bind_ok.mp hitem
    obtain ⟨departure, hdeparture, hitem⟩ := Except.bind_ok.mp hitem
    obtain rfl := Except.ok.inj hitem
    exact ⟨departure, hdeparture, hright.departure⟩
  · rintro ⟨departure, hdeparture, hdenotes⟩
    obtain ⟨shown, hshown⟩ := price_isOk.mpr hprice
    have hid : ∃ itemId, reservedItemId service.serviceId travelDate service.serviceClass.wire =
        .ok itemId := by
      rw [reservedItemId, if_pos hdate]
      exact ⟨_, rfl⟩
    obtain ⟨itemId, hid⟩ := hid
    refine ⟨_, Except.bind_ok.mpr ⟨itemId, hid, Except.bind_ok.mpr ⟨shown, hshown,
      Except.bind_ok.mpr ⟨departure, hdeparture, rfl⟩⟩⟩, paise_of_price hshown, ?_, hdenotes⟩
    rw [shown.decodes, paise_of_price hshown]

/-- The offsets of a published run. -/
def runOffsets (service : ReservedService) : List ℤ :=
  (runStops service).map fun stop => stop.1.reportingOffsetMinutes

theorem catalogueFulfillment_right_iff (hdate : (calendarDate travelDate).isSome) :
    (∃ f, catalogueFulfillment service travelDate = .ok f ∧
      List.Forall₂ (fun run stop => StopRight service travelDate run.1 stop) (runStops service)
        f.stops) ↔ StopsFit service travelDate (runOffsets service) := by
  have hid : ∃ itemId, reservedItemId service.serviceId travelDate service.serviceClass.wire =
      .ok itemId := by
    rw [reservedItemId, if_pos hdate]
    exact ⟨_, rfl⟩
  obtain ⟨itemId, hid⟩ := hid
  have hindexed : ∀ stops : List Stop,
      List.Forall₂ (fun run stop => StopRight service travelDate run.1 stop) (runStops service) stops ↔
        List.Forall₂ (fun run stop => StopRight service travelDate run.1.1 stop)
          (runStops service).zipIdx stops := by
    intro stops
    conv_lhs => rw [← List.zipIdx_map_fst 0 (runStops service)]
    rw [List.forall₂_map_left_iff]
  have hstops : StopsFit service travelDate (runOffsets service) ↔
      ∀ run ∈ (runStops service).zipIdx,
        StopsFit service travelDate [run.1.1.reportingOffsetMinutes] := by
    simp only [StopsFit, runOffsets, List.forall_mem_map, List.forall_mem_singleton]
    conv_lhs => rw [← List.zipIdx_map_fst 0 (runStops service)]
    simp only [List.forall_mem_map]
  constructor
  · rintro ⟨f, hf, hall⟩
    obtain ⟨_, -, hf⟩ := Except.bind_ok.mp hf
    obtain ⟨stops, hmap, hf⟩ := Except.bind_ok.mp hf
    obtain rfl := Except.ok.inj hf
    rw [hstops]
    intro run hrun
    obtain ⟨stop, hstop, hright⟩ :=
      Except.mapM_right_iff.mp ⟨stops, hmap, (hindexed stops).mp hall⟩ run hrun
    exact (stopAt_right_iff hdate).mp ⟨stop, hstop, hright⟩
  · intro hfit
    obtain ⟨stops, hmap, hright⟩ := Except.mapM_right_iff.mpr fun run hrun =>
      (stopAt_right_iff hdate).mpr (hstops.mp hfit run hrun)
    exact ⟨_, Except.bind_ok.mpr ⟨itemId, hid, Except.bind_ok.mpr ⟨stops, hmap, rfl⟩⟩,
      (hindexed stops).mpr hright⟩

theorem snapshotFromClaims_isOk (d : Deployment) (service : ReservedService)
    (hdate : (calendarDate travelDate).isSome) (seatMap : SeatMap) (claims : List LiveSeatClaim)
    (viewer : Option ReservedIdentity) :
    ∃ snapshot, snapshotFromClaims d service seatMap travelDate claims viewer = .ok snapshot := by
  obtain ⟨⟨year, month, day⟩, hdate⟩ := Option.isSome_iff_exists.mp hdate
  rw [snapshotFromClaims, seededOccupancy, fillFraction, dayOfWeek, hdate]
  exact ⟨_, rfl⟩

/-- What a search publishes of a service, as it should be. -/
structure EntryRight (travelDate : String) (entry : Eligible) (published : Item × Fulfillment) :
    Prop where
  /-- its item -/
  item : ItemRight entry.service travelDate entry.cell.farePaise published.1
  /-- and every stop of its run -/
  stops : List.Forall₂ (fun run stop => StopRight entry.service travelDate run.1 stop)
    (runStops entry.service) published.2.stops

theorem catalogueEntry_right_iff (hdate : (calendarDate travelDate).isSome) {entry : Eligible}
    (hfare : Whole entry.cell.farePaise) {claims : List (String × List LiveSeatClaim)} :
    (∃ published, catalogueEntry d travelDate claims entry = .ok published ∧
      EntryRight travelDate entry published) ↔
        StopsFit entry.service travelDate (0 :: runOffsets entry.service) := by
  rw [stopsFit_cons, ← catalogueFulfillment_right_iff hdate]
  constructor
  · rintro ⟨published, hpublished, hright⟩
    obtain ⟨snapshot, -, hpublished⟩ := Except.bind_ok.mp hpublished
    obtain ⟨item, hitem, hpublished⟩ := Except.bind_ok.mp hpublished
    obtain ⟨f, hf, hpublished⟩ := Except.bind_ok.mp hpublished
    obtain rfl := Except.ok.inj hpublished
    exact ⟨(reservedItem_right_iff hdate hfare).mp ⟨item, hitem, hright.item⟩, f, hf, hright.stops⟩
  · rintro ⟨hfit, f, hf, hstops⟩
    obtain ⟨snapshot, hsnapshot⟩ := snapshotFromClaims_isOk d entry.service hdate entry.seatMap
      ((mapGet claims entry.service.serviceId).getD []) none
    obtain ⟨item, hitem, hright⟩ := (@reservedItem_right_iff entry.service travelDate hdate _ hfare
      entry.pair entry.cell.sourcing (some snapshot.availableCount) none).mpr hfit
    exact ⟨(item, f), Except.bind_ok.mpr ⟨snapshot, hsnapshot, Except.bind_ok.mpr ⟨item, hitem,
      Except.bind_ok.mpr ⟨f, hf, rfl⟩⟩⟩, hright, hstops⟩

/-! ## A quote -/

/-- The amounts of an order survive being multiplied, added and written. -/
structure AmountsFit (input : BuildOrder) (discount : ℤ) : Prop where
  /-- the fares of all seats -/
  base : input.basePaise ≤ maxSafe
  /-- what the concession takes off -/
  concession : discount ≤ maxSafe
  /-- the fees of all seats -/
  fee : input.feePaise ≤ maxSafe
  /-- the tolls of all seats -/
  toll : input.tollPaise ≤ maxSafe
  /-- and what they come to -/
  total : Whole (input.basePaise - discount + input.feePaise + input.tollPaise)

/-- A quote that adds up, and reads as the amounts it was made from. -/
structure QuoteAddsUp (input : BuildOrder) (discount : ℤ) (quote : Quote) : Prop where
  /-- its lines are the amounts -/
  lines : quote.lines = [input.basePaise] ++ (if discount > 0 then [-discount] else []) ++
    [input.feePaise, input.tollPaise]
  /-- its total is a safe integer -/
  total : Whole quote.price.paise
  /-- and the sum of the lines -/
  adds : quote.price.paise = quote.lines.sum
  /-- each amount reads as itself -/
  decodes : ∀ price ∈ quote.price :: quote.breakup.map PriceLine.price,
    rupeesToPaise price.value = some price.paise

theorem concessionLines_isOk {input : BuildOrder} {discount : ℤ} (hpos : 0 ≤ discount) :
    (∃ lines, input.concessionLines discount = .ok lines) ↔ discount ≤ maxSafe := by
  have hsafe : 0 ≤ maxSafe := by decide
  unfold BuildOrder.concessionLines
  split
  · have hprints : (∃ p, signedPrice (-discount) = .ok p) ↔ discount ≤ maxSafe := by
      rw [signedPrice_isOk]
      omega
    rw [← hprints]
    constructor
    · rintro ⟨lines, h⟩
      obtain ⟨p, hp, -⟩ := Except.bind_ok.mp h
      exact ⟨p, hp⟩
    · rintro ⟨p, hp⟩
      exact ⟨_, Except.bind_ok.mpr ⟨p, hp, rfl⟩⟩
  · exact iff_of_true ⟨_, rfl⟩ (by omega)

theorem lines_of_concessionLines {input : BuildOrder} {discount : ℤ} {lines : List PriceLine}
    (h : input.concessionLines discount = .ok lines) :
    lines.map (fun line => line.price.paise) = if discount > 0 then [-discount] else [] := by
  unfold BuildOrder.concessionLines at h
  split at h
  · rename_i hpos
    obtain ⟨p, hp, h⟩ := Except.bind_ok.mp h
    obtain rfl := Except.ok.inj h
    rw [if_pos hpos, List.map_cons, List.map_nil, paise_of_signedPrice hp]
  · rename_i hpos
    obtain rfl := Except.ok.inj h
    rw [if_neg hpos, List.map_nil]

/-- A quote that was made is right. -/
theorem quoteAddsUp_of_ok {input : BuildOrder} {discount : ℤ} (hpos : 0 ≤ discount)
    (hdiscount : input.discountPaise = .ok discount) {quote : Quote} (h : input.quote = .ok quote) :
    QuoteAddsUp input discount quote := by
  obtain ⟨other, hsame, h⟩ := Except.bind_ok.mp h
  obtain rfl := Except.ok.inj (hdiscount.symm.trans hsame)
  obtain ⟨base, hbase, h⟩ := Except.bind_ok.mp h
  obtain ⟨concession, hconcession, h⟩ := Except.bind_ok.mp h
  obtain ⟨fee, hfee, h⟩ := Except.bind_ok.mp h
  obtain ⟨toll, htoll, h⟩ := Except.bind_ok.mp h
  obtain ⟨total, htotal, h⟩ := Except.bind_ok.mp h
  obtain rfl := Except.ok.inj h
  have hlines : Quote.lines ⟨total, [⟨"BASE_FARE", "Base fare", base⟩] ++ concession ++
      [⟨"RESERVATION_FEE", "Reservation fee", fee⟩, ⟨"TOLL", "Toll", toll⟩]⟩ =
        [input.basePaise] ++ (if discount > 0 then [-discount] else []) ++
          [input.feePaise, input.tollPaise] := by
    simp only [Quote.lines, List.map_append, List.map_cons, List.map_nil,
      lines_of_concessionLines hconcession, paise_of_price hbase, paise_of_price hfee,
      paise_of_price htoll]
  refine ⟨hlines, ?_, ?_, fun price _ => price.decodes⟩
  · rw [paise_of_price htotal]
    exact price_isOk.mp ⟨total, htotal⟩
  · rw [hlines, paise_of_price htotal]
    split
    · simp only [List.sum_append, List.sum_cons, List.sum_nil]
      omega
    · simp only [List.sum_append, List.sum_cons, List.sum_nil]
      omega

/-- **A quote is made, and right, exactly when the amounts fit.** -/
theorem quote_right_iff {input : BuildOrder} {discount : ℤ} (hpos : 0 ≤ discount)
    (hbase : 0 ≤ input.basePaise) (hfee : 0 ≤ input.feePaise) (htoll : 0 ≤ input.tollPaise)
    (hdiscount : input.discountPaise = .ok discount) :
    (∃ quote, input.quote = .ok quote ∧ QuoteAddsUp input discount quote) ↔
      AmountsFit input discount := by
  constructor
  · rintro ⟨quote, h, -⟩
    obtain ⟨other, hsame, h⟩ := Except.bind_ok.mp h
    obtain rfl := Except.ok.inj (hsame.symm.trans hdiscount)
    obtain ⟨base, hbase, h⟩ := Except.bind_ok.mp h
    obtain ⟨concession, hconcession, h⟩ := Except.bind_ok.mp h
    obtain ⟨fee, hfee, h⟩ := Except.bind_ok.mp h
    obtain ⟨toll, htoll, h⟩ := Except.bind_ok.mp h
    obtain ⟨total, htotal, -⟩ := Except.bind_ok.mp h
    exact ⟨(price_isOk.mp ⟨base, hbase⟩).2, (concessionLines_isOk hpos).mp ⟨_, hconcession⟩,
      (price_isOk.mp ⟨fee, hfee⟩).2, (price_isOk.mp ⟨toll, htoll⟩).2, price_isOk.mp ⟨total, htotal⟩⟩
  · intro hfit
    obtain ⟨base, hbase'⟩ := price_isOk.mpr ⟨hbase, hfit.base⟩
    obtain ⟨concession, hconcession⟩ := (concessionLines_isOk hpos).mpr hfit.concession
    obtain ⟨fee, hfee'⟩ := price_isOk.mpr ⟨hfee, hfit.fee⟩
    obtain ⟨toll, htoll'⟩ := price_isOk.mpr ⟨htoll, hfit.toll⟩
    obtain ⟨total, htotal⟩ := price_isOk.mpr hfit.total
    have hquote : ∃ quote, input.quote = .ok quote := ⟨_, Except.bind_ok.mpr ⟨discount, hdiscount,
      Except.bind_ok.mpr ⟨base, hbase', Except.bind_ok.mpr ⟨concession, hconcession,
        Except.bind_ok.mpr ⟨fee, hfee', Except.bind_ok.mpr ⟨toll, htoll',
          Except.bind_ok.mpr ⟨total, htotal, rfl⟩⟩⟩⟩⟩⟩⟩
    obtain ⟨quote, hquote⟩ := hquote
    exact ⟨quote, hquote, quoteAddsUp_of_ok hpos hdiscount hquote⟩

/-! ## A select -/

/-- What a select builds its order from. -/
def selectedOrder (resolved : Resolved) (pair : BoardingPair) (cell : FareCell)
    (identity : ReservedIdentity) (input : OrderInput) (hold : Option HoldRecord) : BuildOrder where
  resolved := resolved
  pair := pair
  farePaise := cell.farePaise
  fareSourcing := cell.sourcing
  seatCount := if (seatIdsFrom input.tags).length > 0 then (seatIdsFrom input.tags).length
    else selectedCount input
  identity := identity
  seatIds := seatIdsFrom input.tags
  hold := hold
  concessionClaim := concessionFromOrderTags input.tags
  fulfillmentTags := [seatMapRefTag resolved.seatMap.seatMapId]
  billing := none
  payments := none
  id := none
  status := none
  createdAt := none

theorem select_eq (context : ReservedContext) (input : OrderInput) : select d context input = do
    assertBppAddress d context
    let resolved ← resolveSelection d input
    assertSeatCount input
    let pair ← boardingPairFromStops resolved.service (stopsOf input)
    let cell ← fareCell resolved.fareTable pair resolved.service.serviceClass
    let hold ← if (seatIdsFrom input.tags).length > 0 then
        some <$> holdSeats d resolved (identityOf context) (seatIdsFrom input.tags)
      else pure none
    let order ← buildOrder d (selectedOrder resolved pair cell (identityOf context) input hold)
    return .order order none [] := rfl

/-- The stop of a service that has an id, boarding points first. -/
def stopFor (service : ReservedService) (id : String) : Option BoardingPoint :=
  (service.boardingPoints ++ service.droppingPoints).find? fun p => p.boardingPointId = id

theorem stopFor_of_mem {id : String} (h : ∃ p ∈ service.boardingPoints ++ service.droppingPoints,
    p.boardingPointId = id) : ∃ point, stopFor service id = some point ∧
      point.boardingPointId = id := by
  obtain ⟨p, hp, rfl⟩ := h
  have hsome : (stopFor service p.boardingPointId).isSome := by
    rw [stopFor, List.find?_isSome]
    exact ⟨p, hp, by simp⟩
  obtain ⟨point, hpoint⟩ := Option.isSome_iff_exists.mp hsome
  exact ⟨point, hpoint, by simpa using List.find?_some hpoint⟩

/-- The two stops of a pair that was checked. -/
theorem stops_of_pair {stops : List BuyerStop} {pair : BoardingPair}
    (h : boardingPairFromStops service stops = .ok pair) : ∃ boarding dropping,
      stopFor service pair.fromBoardingPointId = some boarding ∧
        stopFor service pair.toBoardingPointId = some dropping := by
  unfold boardingPairFromStops at h
  dsimp only at h
  split at h
  · cases h
  · rename_i hchecked
    obtain rfl := Except.ok.inj h
    simp only [Bool.or_eq_true, Bool.not_eq_true', not_or, Bool.not_eq_false, List.any_eq_true,
      decide_eq_true_eq] at hchecked
    obtain ⟨⟨p, hp, hfrom⟩, q, hq, hto⟩ := hchecked
    obtain ⟨boarding, hboarding, -⟩ := stopFor_of_mem ⟨p, List.mem_append_left _ hp, hfrom⟩
    obtain ⟨dropping, hdropping, -⟩ := stopFor_of_mem ⟨q, List.mem_append_right _ hq, hto⟩
    exact ⟨boarding, dropping, hboarding, hdropping⟩

theorem orderFulfillment_right_iff (hdate : (calendarDate travelDate).isSome) {pair : BoardingPair}
    {tags : List Tag} {boarding dropping : BoardingPoint}
    (hboarding : stopFor service pair.fromBoardingPointId = some boarding)
    (hdropping : stopFor service pair.toBoardingPointId = some dropping) :
    (∃ f, orderFulfillment service travelDate pair tags = .ok f ∧
      List.Forall₂ (StopRight service travelDate) [boarding, dropping] f.stops) ↔
        StopsFit service travelDate
          [boarding.reportingOffsetMinutes, dropping.reportingOffsetMinutes] := by
  have hid : ∃ itemId, reservedItemId service.serviceId travelDate service.serviceClass.wire =
      .ok itemId := by
    rw [reservedItemId, if_pos hdate]
    exact ⟨_, rfl⟩
  obtain ⟨itemId, hid⟩ := hid
  have hsteps : orderFulfillment service travelDate pair tags = (do
      let start ← stopAt service travelDate "1" none .start boarding ["BOARDING"]
      let stop ← stopAt service travelDate "2" (some "1") .stop dropping ["DROPPING"]
      return ⟨reservedFulfillmentId itemId, [start, stop], tags⟩) := by
    rw [stopFor] at hboarding hdropping
    simp only [orderFulfillment, hid, hboarding, hdropping]
    rfl
  rw [hsteps, stopsFit_cons, ← @stopAt_right_iff _ _ hdate "1" none .start boarding ["BOARDING"],
    ← @stopAt_right_iff _ _ hdate "2" (some "1") .stop dropping ["DROPPING"]]
  constructor
  · rintro ⟨f, hf, hright⟩
    obtain ⟨start, hstart, hf⟩ := Except.bind_ok.mp hf
    obtain ⟨stop, hstop, hf⟩ := Except.bind_ok.mp hf
    obtain rfl := Except.ok.inj hf
    obtain ⟨hfirst, hrest⟩ := List.forall₂_cons.mp hright
    exact ⟨⟨start, hstart, hfirst⟩, stop, hstop, (List.forall₂_cons.mp hrest).1⟩
  · rintro ⟨⟨start, hstart, hfirst⟩, stop, hstop, hlast⟩
    exact ⟨_, Except.bind_ok.mpr ⟨start, hstart, Except.bind_ok.mpr ⟨stop, hstop, rfl⟩⟩,
      .cons hfirst (.cons hlast .nil)⟩

/-- An order of a select, as it should be. -/
structure OrderRight (input : BuildOrder) (discount : ℤ) (points : List BoardingPoint)
    (order : Order) : Prop where
  /-- its quote -/
  quote : QuoteAddsUp input discount order.quote
  /-- its item -/
  item : ∃ item, order.items = [item] ∧
    ItemRight input.resolved.service input.resolved.travelDate input.farePaise item
  /-- and its stops -/
  stops : ∃ f, order.fulfillments = [f] ∧
    List.Forall₂ (StopRight input.resolved.service input.resolved.travelDate) points f.stops

/-- The expiry of a hold is an instant a `Date` can hold. -/
def ExpiryFits (hold : Option HoldRecord) : Prop :=
  ∀ h ∈ hold, -8640000000000000 ≤ h.expiresAt + indiaOffsetMilliseconds ∧
    h.expiresAt + indiaOffsetMilliseconds ≤ 8640000000000000

/-- **An order is made, and right, exactly when its amounts and its instants fit.** -/
theorem renderOrder_right_iff {input : BuildOrder} {snapshot : Snapshot} {discount : ℤ}
    {boarding dropping : BoardingPoint} (hdate : (calendarDate input.resolved.travelDate).isSome)
    (hfare : Whole input.farePaise) (hpos : 0 ≤ discount) (hbase : 0 ≤ input.basePaise)
    (hfee : 0 ≤ input.feePaise) (htoll : 0 ≤ input.tollPaise)
    (hdiscount : input.discountPaise = .ok discount) (hnew : input.createdAt = none)
    (hboarding : stopFor input.resolved.service input.pair.fromBoardingPointId = some boarding)
    (hdropping : stopFor input.resolved.service input.pair.toBoardingPointId = some dropping) :
    (∃ order, renderOrder d input snapshot = .ok order ∧
      OrderRight input discount [boarding, dropping] order) ↔
        AmountsFit input discount ∧ ExpiryFits input.hold ∧
          StopsFit input.resolved.service input.resolved.travelDate
            [0, boarding.reportingOffsetMinutes, dropping.reportingOffsetMinutes] := by
  rw [stopsFit_cons, ← quote_right_iff hpos hbase hfee htoll hdiscount,
    ← @orderFulfillment_right_iff _ _ hdate _ input.fulfillmentTags _ _ hboarding hdropping,
    ← @reservedItem_right_iff _ _ hdate _ hfare input.pair input.fareSourcing
      (some snapshot.availableCount) (some input.seatCount)]
  constructor
  · rintro ⟨order, horder, hright⟩
    obtain ⟨quote, hquote, horder⟩ := Except.bind_ok.mp horder
    obtain ⟨item, hitem, horder⟩ := Except.bind_ok.mp horder
    obtain ⟨f, hf, horder⟩ := Except.bind_ok.mp horder
    obtain ⟨createdAt, -, horder⟩ := Except.bind_ok.mp horder
    have hparts : order.quote = quote ∧ order.items = [item] ∧ order.fulfillments = [f] ∧
        ExpiryFits input.hold := by
      dsimp only at horder
      split at horder
      · rename_i hhold
        obtain ⟨holdTags, -, horder⟩ := Except.bind_ok.mp horder
        obtain rfl := Except.ok.inj horder
        exact ⟨rfl, rfl, rfl, fun h hmem => by rw [hhold] at hmem; cases hmem⟩
      · rename_i hold hhold
        obtain ⟨tag, htag, horder⟩ := Except.bind_ok.mp horder
        obtain ⟨holdTags, -, horder⟩ := Except.bind_ok.mp horder
        obtain ⟨expires, hexpires, -⟩ := Except.bind_ok.mp htag
        obtain rfl := Except.ok.inj horder
        refine ⟨rfl, rfl, rfl, fun h hmem => ?_⟩
        rw [hhold] at hmem
        cases hmem
        exact istIsoInstant_isOk.mp ⟨expires, hexpires⟩
    obtain ⟨hsame, hitems, hstops, hexpiry⟩ := hparts
    obtain ⟨item', hitem', hitemRight⟩ := hright.item
    obtain ⟨f', hf', hstopsRight⟩ := hright.stops
    obtain rfl := List.singleton_injective (hitems.symm.trans hitem')
    obtain rfl := List.singleton_injective (hstops.symm.trans hf')
    exact ⟨⟨quote, hquote, hsame ▸ hright.quote⟩, hexpiry, ⟨item, hitem, hitemRight⟩, f, hf,
      hstopsRight⟩
  · rintro ⟨⟨quote, hquote, hright⟩, hexpiry, ⟨item, hitem, hitemRight⟩, f, hf, hstops⟩
    have hgo : ∃ order, renderOrder d input snapshot = .ok order ∧ order.quote = quote ∧
        order.items = [item] ∧ order.fulfillments = [f] := by
      cases hhold : input.hold with
      | none =>
        simp only [renderOrder, hquote, hitem, hf, hnew, hhold]
        exact ⟨_, rfl, rfl, rfl, rfl⟩
      | some hold =>
        obtain ⟨expires, hexpires⟩ := istIsoInstant_isOk.mpr (hexpiry hold hhold)
        simp only [renderOrder, hquote, hitem, hf, hnew, hhold, holdInfoTag, hexpires]
        exact ⟨_, rfl, rfl, rfl, rfl⟩
    obtain ⟨order, horder, hsame, hitems, hfulfillments⟩ := hgo
    exact ⟨order, horder, hsame ▸ hright, ⟨item, hitems, hitemRight⟩, f, hfulfillments, hstops⟩

/-! ## Every answer from an accepted catalogue -/

theorem discount_nonneg {input : BuildOrder} {discount : ℤ} (hbase : 0 ≤ input.basePaise)
    (h : input.discountPaise = .ok discount) : 0 ≤ discount := by
  unfold BuildOrder.discountPaise at h
  split at h
  · obtain rfl := Except.ok.inj h
    exact le_rfl
  · obtain ⟨percent, hpercent, h⟩ := Except.bind_ok.mp h
    obtain rfl := Except.ok.inj h
    exact concessionDiscountPaise_nonneg hbase (concessionRatePercent_nonneg hpercent)

/-- A service that a search can publish from a catalogue. -/
structure Offered (dataset : Http.Dataset) (entry : Eligible) : Prop where
  /-- the catalogue has it -/
  service : entry.service ∈ dataset.services.map Http.PlacedService.toReservedService
  /-- and its headline fare -/
  cell : ∃ table, dataset.fareTable entry.service.fareTableId = some table ∧
    findFareCell table entry.pair entry.service.serviceClass = some entry.cell

/-- A departure that a select resolves in a catalogue, with the pair and the fare it asks for. -/
structure Selects (dataset : Http.Dataset) (input : OrderInput) (resolved : Resolved)
    (pair : BoardingPair) (cell : FareCell) : Prop where
  /-- the date is one -/
  date : (calendarDate resolved.travelDate).isSome
  /-- the catalogue has the service -/
  service : ∃ id, dataset.service id = some resolved.service
  /-- and its fares -/
  fareTable : dataset.fareTable resolved.service.fareTableId = some resolved.fareTable
  /-- it runs between the stops asked for -/
  between : boardingPairFromStops resolved.service (stopsOf input) = .ok pair
  /-- at this fare -/
  fare : fareCell resolved.fareTable pair resolved.service.serviceClass = .ok cell
  /-- and the seats are not fewer than none -/
  seats : 0 ≤ selectedCount input

theorem fareCell_ok {table : FareTable} {pair : BoardingPair} {serviceClass : ServiceClass}
    {cell : FareCell} (h : fareCell table pair serviceClass = .ok cell) :
    findFareCell table pair serviceClass = some cell := by
  unfold fareCell at h
  split at h
  · rename_i found hfound
    rw [hfound, Except.ok.inj h]
  · cases h

/-- **What an accepted catalogue prints.** From an accepted catalogue, a search publishes its services
with every instant and every amount right exactly when the instants of their runs fall in years of
four digits; and a select is answered with every instant and amount right exactly when those of its
two stops do and the amounts, multiplied by the seats and added up, stay safe integers. -/
theorem catalogue_published_iff {authored : ReservedCatalogue} {dataset : Http.Dataset} {name : String}
    (haccepted : validateReservedCatalogue authored name = .ok ())
    (hreads : ReadsCatalogue authored dataset) :
    (∀ travelDate claims (published : List Eligible), (calendarDate travelDate).isSome →
      (∀ entry ∈ published, Offered dataset entry) →
        ((∃ entries, published.mapM (catalogueEntry d travelDate claims) = .ok entries ∧
            List.Forall₂ (EntryRight travelDate) published entries) ↔
          ∀ entry ∈ published,
            StopsFit entry.service travelDate (0 :: runOffsets entry.service))) ∧
    ∀ input resolved pair cell, Selects dataset input resolved pair cell →
      ∃ boarding dropping, stopFor resolved.service pair.fromBoardingPointId = some boarding ∧
        stopFor resolved.service pair.toBoardingPointId = some dropping ∧
        ∀ identity hold snapshot discount,
          (selectedOrder resolved pair cell identity input hold).discountPaise = .ok discount →
            ((∃ order, renderOrder d (selectedOrder resolved pair cell identity input hold) snapshot =
                .ok order ∧
                OrderRight (selectedOrder resolved pair cell identity input hold) discount
                  [boarding, dropping] order) ↔
              AmountsFit (selectedOrder resolved pair cell identity input hold) discount ∧
                ExpiryFits hold ∧ StopsFit resolved.service resolved.travelDate
                  [0, boarding.reportingOffsetMinutes, dropping.reportingOffsetMinutes]) := by
  constructor
  · intro travelDate claims published hdate hoffered
    rw [Except.mapM_right_iff]
    refine forall₂_congr fun entry hentry => ?_
    obtain ⟨table, htable, hcell⟩ := (hoffered entry hentry).cell
    exact catalogueEntry_right_iff hdate (hreads.fare haccepted htable hcell)
  · intro input resolved pair cell hselects
    obtain ⟨boarding, dropping, hboarding, hdropping⟩ := stops_of_pair hselects.between
    refine ⟨boarding, dropping, hboarding, hdropping, fun identity hold snapshot discount hdiscount =>
      ?_⟩
    obtain ⟨id, hservice⟩ := hselects.service
    obtain ⟨hfee, htoll⟩ := hreads.amounts haccepted hservice
    have hfare := hreads.fare haccepted hselects.fareTable (fareCell_ok hselects.fare)
    have hseats : 0 ≤ (selectedOrder resolved pair cell identity input hold).seatCount := by
      simp only [selectedOrder]
      split
      · exact Int.natCast_nonneg _
      · exact hselects.seats
    have hbase : 0 ≤ (selectedOrder resolved pair cell identity input hold).basePaise :=
      mul_nonneg hfare.1 hseats
    exact renderOrder_right_iff hselects.date hfare (discount_nonneg hbase hdiscount) hbase
      (mul_nonneg hfee.1 hseats) (mul_nonneg htoll.1 hseats) hdiscount rfl hboarding hdropping

/-! ### Two catalogues -/

/-- `oneService`, at a fare, and stopping this many minutes after its departure. -/
def oneServiceAt (farePaise offset : ℤ) : ReservedCatalogue :=
  { oneService [oneBerth none] with
    services := (oneService [oneBerth none]).services.map fun service =>
      { service with droppingPoints := [⟨⟨"KALASIPALYA", "KALASIPALYA", none, offset⟩, "BLR"⟩] }
    fareTables := [⟨"FARES-1", [⟨"MAJESTIC", "KALASIPALYA", "PALLAKKI",
      .finite farePaise (toString farePaise), "I"⟩]⟩] }

/-- Its service, as requests read it. -/
def kalasipalyaAt (offset : ℤ) : Http.PlacedService :=
  { Http.kalasipalya with
    droppingPoints := [⟨"KALASIPALYA", "KALASIPALYA", none, offset⟩]
    drops := by simp }

/-- Its fares. -/
def faresAt (farePaise : ℤ) : FareTable :=
  ⟨"FARES-1", [⟨"MAJESTIC", "KALASIPALYA", .pallakki, farePaise, .i⟩]⟩

/-- It, as requests read it. -/
def datasetAt (farePaise offset : ℤ) : Http.Dataset :=
  ⟨[kalasipalyaAt offset], [oneBerth none], [faresAt farePaise]⟩

theorem reads_datasetAt (farePaise offset : ℤ) :
    ReadsCatalogue (oneServiceAt farePaise offset) (datasetAt farePaise offset) := by
  constructor
  · intro service hservice
    obtain rfl := List.mem_singleton.mp hservice
    exact ⟨_, List.mem_singleton_self _, rfl, rfl, rfl, rfl, rfl, ⟨"600", rfl⟩, ⟨"0", rfl⟩, "0", rfl⟩
  · intro table htable
    obtain rfl := List.mem_singleton.mp htable
    refine ⟨_, List.mem_singleton_self _, rfl, fun cell hcell => ?_⟩
    obtain rfl := List.mem_singleton.mp hcell
    exact ⟨_, List.mem_singleton_self _, rfl, rfl, rfl, _, rfl⟩

/-- Its one run. -/
def runAt : BoardingPair := ⟨"MAJESTIC", "KALASIPALYA"⟩

/-- A departure of it. -/
def resolvedAt (farePaise offset : ℤ) : Resolved :=
  ⟨(kalasipalyaAt offset).toReservedService, oneBerth none, faresAt farePaise, "2026-09-10", 0⟩

/-- The order of a select of so many seats, none of them named. -/
def orderAt (count : ℕ) (farePaise offset : ℤ) : BuildOrder :=
  selectedOrder (resolvedAt farePaise offset) runAt
    ⟨"MAJESTIC", "KALASIPALYA", .pallakki, farePaise, .i⟩ ⟨"bap", "https://bap", "T1"⟩
      (specimenInput count []) none

/-- What a search publishes of it. -/
def entryAt (farePaise offset : ℤ) : Eligible :=
  ⟨(kalasipalyaAt offset).toReservedService, oneBerth none, runAt,
    ⟨"MAJESTIC", "KALASIPALYA", .pallakki, farePaise, .i⟩⟩

theorem selects_datasetAt (count : ℕ) (farePaise offset : ℤ) :
    Selects (datasetAt farePaise offset) (specimenInput count []) (resolvedAt farePaise offset) runAt
      ⟨"MAJESTIC", "KALASIPALYA", .pallakki, farePaise, .i⟩ :=
  ⟨show (calendarDate "2026-09-10").isSome = true by decide, ⟨"KSRTC-1", rfl⟩, rfl, rfl, rfl,
    Int.natCast_nonneg count⟩

theorem offered_datasetAt (farePaise offset : ℤ) :
    Offered (datasetAt farePaise offset) (entryAt farePaise offset) :=
  ⟨List.mem_singleton_self _, _, rfl, rfl⟩

/-- `StopsFit`, evaluated. -/
theorem stopsFit_of_all {offsets : List ℤ} (h : (offsets.all fun offset =>
    (stopInstantMilliseconds travelDate service.departureMinute offset).toOption.all fun ms =>
      decide (FourDigitYear ms)) = true) : StopsFit service travelDate offsets := by
  intro offset hoffset ms hms
  have hfits := List.all_eq_true.mp h offset hoffset
  rw [hms] at hfits
  exact of_decide_eq_true hfits

/-- An ordinary catalogue: the search and the select of two seats come out right. -/
theorem catalogue_published_ordinary :
    (∃ entries, [entryAt 50000 30].mapM (catalogueEntry specimenDeployment "2026-09-10" []) =
        .ok entries ∧ List.Forall₂ (EntryRight "2026-09-10") [entryAt 50000 30] entries) ∧
      ∃ boarding dropping order, renderOrder specimenDeployment (orderAt 2 50000 30) ⟨[], [], [], 1⟩ =
          .ok order ∧ OrderRight (orderAt 2 50000 30) 0 [boarding, dropping] order := by
  have haccepted : validateReservedCatalogue (oneServiceAt 50000 30) "fixture" = .ok () := rfl
  obtain ⟨hsearch, hselect⟩ :=
    @catalogue_published_iff specimenDeployment _ _ _ haccepted (reads_datasetAt 50000 30)
  obtain ⟨boarding, dropping, hboarding, hdropping, hiff⟩ :=
    hselect _ _ _ _ (selects_datasetAt 2 50000 30)
  cases hboarding
  cases hdropping
  refine ⟨(hsearch "2026-09-10" [] [entryAt 50000 30] (by decide) fun entry hentry => ?_).mpr
    fun entry hentry => ?_, _, _, (hiff _ none _ 0 rfl).mpr ⟨?_, nofun, ?_⟩⟩
  · exact List.mem_singleton.mp hentry ▸ offered_datasetAt 50000 30
  · rw [List.mem_singleton.mp hentry]
    exact stopsFit_of_all (by decide +kernel)
  · constructor <;> decide
  · exact stopsFit_of_all (by decide +kernel)

/-- Two extreme ones are accepted too. At a fare of 2^53 - 1 paise, a select of two seats has no
answer; with a stop a million million minutes away, a search has none. -/
theorem extreme_catalogues_break :
    (validateReservedCatalogue (oneServiceAt maxSafe 30) "fixture" = .ok () ∧
      ReadsCatalogue (oneServiceAt maxSafe 30) (datasetAt maxSafe 30) ∧
      Selects (datasetAt maxSafe 30) (specimenInput 2 []) (resolvedAt maxSafe 30) runAt
        ⟨"MAJESTIC", "KALASIPALYA", .pallakki, maxSafe, .i⟩ ∧
      (orderAt 2 maxSafe 30).discountPaise = .ok 0 ∧
      ¬ ∃ order, renderOrder specimenDeployment (orderAt 2 maxSafe 30) ⟨[], [], [], 1⟩ = .ok order) ∧
    validateReservedCatalogue (oneServiceAt 50000 1000000000000) "fixture" = .ok () ∧
      ReadsCatalogue (oneServiceAt 50000 1000000000000) (datasetAt 50000 1000000000000) ∧
      Offered (datasetAt 50000 1000000000000) (entryAt 50000 1000000000000) ∧
      ¬ ∃ entries, [entryAt 50000 1000000000000].mapM
        (catalogueEntry specimenDeployment "2026-09-10" []) = .ok entries := by
  refine ⟨⟨rfl, reads_datasetAt _ _, selects_datasetAt _ _ _, rfl, ?_⟩, rfl, reads_datasetAt _ _,
    offered_datasetAt _ _, ?_⟩
  · rintro ⟨order, horder⟩
    have hfails : (renderOrder specimenDeployment (orderAt 2 maxSafe 30) ⟨[], [], [], 1⟩).isOk =
        false := by
      decide +kernel
    rw [horder] at hfails
    cases hfails
  · rintro ⟨entries, hentries⟩
    have hfails : ([entryAt 50000 1000000000000].mapM
        (catalogueEntry specimenDeployment "2026-09-10" [])).isOk = false := by
      decide +kernel
    rw [hentries] at hfails
    cases hfails

end TransitBpp
