import TransitBpp.Gregorian
import TransitBpp.Runs

/-!
# Travel dates

A travel date is read by a pattern and turned into an instant by `Date.UTC`, which takes the 31st of
September for the first of October. `RealDay` is the date the calendar has, and
`travel_date_names_one_day` says that a date that passed the checks falls on itself exactly then.
The seat key of a lock holds the date as it was sent, so a day of two names is two inventories.
-/

namespace TransitBpp

open Interleave Js

/-! ## Writing and reading a date -/

/-- A date as it is written. -/
def dateText (year month day : ℤ) : List Char :=
  (padded 4 year).toList ++ '-' :: ((padded 2 month).toList ++ '-' :: (padded 2 day).toList)

/-- A written date is read as it was written, and no other text is read as that date. -/
theorem calendarDate_iff {travelDate : String} {year month day : ℤ} :
    calendarDate travelDate = some (year, month, day) ↔
      (0 ≤ year ∧ year ≤ 9999) ∧ (0 ≤ month ∧ month ≤ 99) ∧ (0 ≤ day ∧ day ≤ 99) ∧
        travelDate.toList = dateText year month day := by
  constructor
  · intro h
    rw [calendarDate] at h
    split at h
    · rename_i a b c d e f g i hlist
      split at h
      · rename_i y ky m km dd kd hy hm hd
        obtain ⟨rfl, hrest⟩ := Prod.mk.inj (Option.some.inj h)
        obtain ⟨rfl, rfl⟩ := Prod.mk.inj hrest
        obtain ⟨-, hy'⟩ := digits_bound hy
        obtain ⟨-, hm'⟩ := digits_bound hm
        obtain ⟨-, hd'⟩ := digits_bound hd
        simp only [List.length_cons, List.length_nil] at hy' hm' hd'
        refine ⟨by omega, by omega, by omega, ?_⟩
        rw [hlist, dateText]
        have hyear := padded_of_digits (List.cons_ne_nil _ _) hy
        have hmonth := padded_of_digits (List.cons_ne_nil _ _) hm
        have hday := padded_of_digits (List.cons_ne_nil _ _) hd
        simp only [List.length_cons, List.length_nil] at hyear hmonth hday
        rw [hyear, hmonth, hday]
        rfl
      · cases h
    · cases h
  · rintro ⟨⟨hy, hy'⟩, ⟨hm, hm'⟩, ⟨hd, hd'⟩, htext⟩
    obtain ⟨y, rfl⟩ := Int.eq_ofNat_of_zero_le hy
    obtain ⟨m, rfl⟩ := Int.eq_ofNat_of_zero_le hm
    obtain ⟨dd, rfl⟩ := Int.eq_ofNat_of_zero_le hd
    obtain ⟨hylen, hydigits⟩ := @padded_digits 4 y (by omega) (by omega)
    obtain ⟨hmlen, hmdigits⟩ := @padded_digits 2 m (by omega) (by omega)
    obtain ⟨hdlen, hddigits⟩ := @padded_digits 2 dd (by omega) (by omega)
    obtain ⟨a, rest, hyear⟩ := List.exists_cons_of_length_eq_add_one hylen
    rw [hyear, List.length_cons, Nat.succ_inj] at hylen
    obtain ⟨b, c, d, rfl⟩ := List.length_eq_three.mp hylen
    obtain ⟨e, f, hmonth⟩ := List.length_eq_two.mp hmlen
    obtain ⟨g, i, hday⟩ := List.length_eq_two.mp hdlen
    rw [dateText, hyear, hmonth, hday] at htext
    rw [hyear] at hydigits
    rw [hmonth] at hmdigits
    rw [hday] at hddigits
    rw [calendarDate, htext]
    simp only [List.cons_append, List.nil_append, hydigits, hmdigits, hddigits]

/-- A date is ten characters long. -/
theorem length_dateText {year month day : ℤ} (hyear : 0 ≤ year ∧ year ≤ 9999)
    (hmonth : 0 ≤ month ∧ month ≤ 99) (hday : 0 ≤ day ∧ day ≤ 99) :
    (dateText year month day).length = 10 := by
  obtain ⟨y, rfl⟩ := Int.eq_ofNat_of_zero_le hyear.1
  obtain ⟨m, rfl⟩ := Int.eq_ofNat_of_zero_le hmonth.1
  obtain ⟨d, rfl⟩ := Int.eq_ofNat_of_zero_le hday.1
  have hy := (@padded_digits 4 y (by omega) (by omega)).1
  have hm := (@padded_digits 2 m (by omega) (by omega)).1
  have hd := (@padded_digits 2 d (by omega) (by omega)).1
  simp only [dateText, List.length_append, List.length_cons, hy, hm, hd]

/-- A day of the calendar fits the two digits of its month and the two of its day. -/
theorem civilDay_digits {year month day : ℤ} (h : CivilDay year month day) :
    (0 ≤ month ∧ month ≤ 99) ∧ (0 ≤ day ∧ day ≤ 99) := by
  obtain ⟨⟨hm, hm'⟩, hd, hd'⟩ := h
  rw [daysInMonth] at hd'
  split_ifs at hd' <;> omega

/-- The time of a day as it is written. -/
def timeText (t : ℤ) : List Char :=
  'T' :: (padded 2 (t / 3600000)).toList ++ ':' :: (padded 2 (t / 60000 % 60)).toList ++
    ':' :: (padded 2 (t / 1000 % 60)).toList ++ '.' :: (padded 3 (t % 1000)).toList

/-- An instant of a year of four digits, as it is written. -/
theorem toList_of_toISOString {ms : ℤ} {text : String} (h : toISOString ms = some text)
    (hyear : 0 ≤ (civilFromDays (ms / dayMilliseconds)).1 ∧
      (civilFromDays (ms / dayMilliseconds)).1 ≤ 9999) : text.toList =
    dateText (civilFromDays (ms / dayMilliseconds)).1 (civilFromDays (ms / dayMilliseconds)).2.1
      (civilFromDays (ms / dayMilliseconds)).2.2 ++ (timeText (ms % dayMilliseconds) ++ ['Z']) := by
  rw [toISOString] at h
  split at h
  · simp only [if_pos hyear] at h
    rw [← Option.some.inj h]
    simp [String.toList_append, dateText, timeText]
  · cases h

/-- Other years are written with a sign. -/
theorem sign_of_toISOString {ms : ℤ} {text : String} (h : toISOString ms = some text)
    (hyear : ¬ (0 ≤ (civilFromDays (ms / dayMilliseconds)).1 ∧
      (civilFromDays (ms / dayMilliseconds)).1 ≤ 9999)) :
    ∃ c rest, text.toList = c :: rest ∧ (c = '+' ∨ c = '-') := by
  rw [toISOString] at h
  split at h
  · simp only [if_neg hyear] at h
    rw [← Option.some.inj h]
    split
    · exact ⟨'-', _, by simp [String.toList_append]; rfl, .inr rfl⟩
    · exact ⟨'+', _, by simp [String.toList_append]; rfl, .inl rfl⟩
  · cases h

/-- No date is written with a sign. -/
theorem calendarDate_of_sign {text : String} {c : Char} {rest : List Char}
    (hlist : text.toList = c :: rest) (hsign : c = '+' ∨ c = '-') : calendarDate text = none := by
  rw [calendarDate]
  split
  · rename_i hchars
    rw [hlist] at hchars
    obtain ⟨rfl, -⟩ := List.cons.inj hchars
    rcases hsign with rfl | rfl <;> rfl
  · rfl

/-- The first ten characters of a midnight are its date. -/
theorem slice_toISOString {days : ℤ} {text : String}
    (hyear : 0 ≤ (civilFromDays days).1 ∧ (civilFromDays days).1 ≤ 9999)
    (h : toISOString (days * dayMilliseconds) = some text) :
    (slice text 10).toList = dateText (civilFromDays days).1 (civilFromDays days).2.1
      (civilFromDays days).2.2 := by
  have hdays : days * dayMilliseconds / dayMilliseconds = days := by
    rw [dayMilliseconds]
    omega
  obtain ⟨hmonth, hday⟩ := civilDay_digits (civilDay_civilFromDays days)
  have hlist := toList_of_toISOString h (by rwa [hdays])
  rw [hdays] at hlist
  rw [slice, String.toList_ofList, hlist, List.take_left' (length_dateText hyear hmonth hday)]

/-- A year of more than four digits does not read as a date. -/
theorem calendarDate_slice_of_late {days : ℤ} {text : String}
    (hyear : 9999 < (civilFromDays days).1)
    (h : toISOString (days * dayMilliseconds) = some text) : calendarDate (slice text 10) = none := by
  have hdays : days * dayMilliseconds / dayMilliseconds = days := by
    rw [dayMilliseconds]
    omega
  obtain ⟨c, rest, hlist, hsign⟩ := sign_of_toISOString h (by rw [hdays]; omega)
  have hslice : (slice text 10).toList = c :: rest.take 9 := by
    rw [slice, String.toList_ofList, hlist]
    rfl
  exact calendarDate_of_sign hslice hsign

/-! ## The day of a date -/

/-- A date that the calendar has, from the year 100 on: before that, two digits of a year count
from 1900. -/
def RealDay (travelDate : String) : Prop :=
  ∃ year month day, calendarDate travelDate = some (year, month, day) ∧ 100 ≤ year ∧
    CivilDay year month day

/-- The day that the midnight of a date falls on. -/
def dayOf (travelDate : String) : Except Failure String := do
  istCalendarDate (← stopInstantMilliseconds travelDate 0 0)

theorem dayOf_eq {travelDate : String} {year month day : ℤ}
    (h : calendarDate travelDate = some (year, month, day)) :
    ∃ text, toISOString (dayUTC year (month - 1) day * dayMilliseconds) = some text ∧
      dayOf travelDate = .ok (slice text 10) := by
  obtain ⟨hyear, hmonth, hday, -⟩ := calendarDate_iff.mp h
  obtain ⟨hlow, hhigh, -⟩ := dayUTC_bounds hyear hmonth hday
  have hoffset : dateUTC year (month - 1) day - indiaOffsetMilliseconds +
      (0 + 0) * minuteMilliseconds + indiaOffsetMilliseconds =
        dayUTC year (month - 1) day * dayMilliseconds := by
    rw [dateUTC_eq]
    omega
  have hsome : (toISOString (dayUTC year (month - 1) day * dayMilliseconds)).isSome := by
    rw [toISOString, if_pos]
    · rfl
    · rw [dayMilliseconds]
      omega
  obtain ⟨text, htext⟩ := Option.isSome_iff_exists.mp hsome
  refine ⟨text, htext, ?_⟩
  simp only [dayOf, stopInstantMilliseconds, midnightMilliseconds, h, istCalendarDate]
  show (do
    let iso ← isoString (dateUTC year (month - 1) day - indiaOffsetMilliseconds +
      (0 + 0) * minuteMilliseconds + indiaOffsetMilliseconds)
    return slice iso 10) = _
  rw [hoffset, isoString, htext]
  rfl

/-- A date falls on itself exactly when it is a real one. -/
theorem dayOf_iff {travelDate : String} (h : (calendarDate travelDate).isSome) :
    dayOf travelDate = .ok travelDate ↔ RealDay travelDate := by
  obtain ⟨⟨year, month, day⟩, hdate⟩ := Option.isSome_iff_exists.mp h
  obtain ⟨hyear, hmonth, hday, htext⟩ := calendarDate_iff.mp hdate
  obtain ⟨text, hiso, hdayOf⟩ := dayOf_eq hdate
  rw [hdayOf]
  constructor
  · intro hsame
    obtain rfl := Except.ok.inj hsame
    have hcivil := civilDay_civilFromDays (dayUTC year (month - 1) day)
    have hpos : 0 ≤ (civilFromDays (dayUTC year (month - 1) day)).1 := by
      have hera := era_le_civilFromDays (dayUTC year (month - 1) day)
      have hlow := (dayUTC_bounds hyear hmonth hday).1
      omega
    by_cases hlate : (civilFromDays (dayUTC year (month - 1) day)).1 ≤ 9999
    · obtain ⟨hmonth', hday'⟩ := civilDay_digits hcivil
      have hread := calendarDate_iff.mpr ⟨⟨hpos, hlate⟩, hmonth', hday',
        slice_toISOString ⟨hpos, hlate⟩ hiso⟩
      refine ⟨_, _, _, hread, ?_, hcivil⟩
      by_cases hearly : year ≤ 99
      · exact hundred_le_dayUTC hyear hmonth hday hearly
      · have hsame := (Prod.mk.inj (Option.some.inj (hread.symm.trans hdate))).1
        omega
    · rw [calendarDate_slice_of_late (by omega) hiso] at hdate
      cases hdate
  · rintro ⟨year', month', day', hdate', hfrom, hcivil⟩
    obtain ⟨rfl, hrest⟩ := Prod.mk.inj (Option.some.inj (hdate.symm.trans hdate'))
    obtain ⟨rfl, rfl⟩ := Prod.mk.inj hrest
    have hread := civilFromDays_daysFromCivil hcivil
    rw [dayUTC_of_civilDay hcivil hfrom] at hiso
    have hslice := slice_toISOString (by rw [hread]; exact hyear) hiso
    rw [hread, ← htext] at hslice
    rw [String.toList_injective hslice]

/-! ## The dates of the requests -/

/-- A travel date that a search or an item id can carry past the checks of its form. -/
inductive Carried : String → Prop where
  /-- a search names it -/
  | search {intent : ReservedSearchIntent} {query : ReservedSearchQuery} :
    reservedSearchQuery intent = .ok query → Carried query.travelDate
  /-- an item id holds it -/
  | item {itemId : String} {item : ReservedItem} :
    parseReservedItemId itemId = some item → Carried item.travelDate

theorem Carried.isDate {travelDate : String} (h : Carried travelDate) :
    (calendarDate travelDate).isSome := by
  cases h with
  | @search intent query h =>
    rw [reservedSearchQuery] at h
    split at h
    · cases h
    · rename_i hdate
      dsimp only at h
      split at h
      · obtain rfl := Except.ok.inj h
        exact Option.isSome_iff_ne_none.mpr fun hnone => hdate (by rw [hnone]; rfl)
      · cases h
  | @item itemId item h =>
    simp only [parseReservedItemId] at h
    split at h
    · split at h
      · split at h
        · split at h
          · rename_i hchecks
            obtain rfl := Option.some.inj h
            simp only [Bool.and_eq_true] at hchecks
            exact hchecks.1.1.2
          · cases h
        · cases h
      · cases h
    · cases h

/-- Two real dates of one departure are one. -/
theorem RealDay.unique {travelDate other : String} (h : RealDay travelDate) (h' : RealDay other)
    {departureMinute departureAt : ℤ}
    (hat : stopInstantMilliseconds travelDate departureMinute 0 = .ok departureAt)
    (hat' : stopInstantMilliseconds other departureMinute 0 = .ok departureAt) :
    other = travelDate := by
  obtain ⟨year, month, day, hdate, -⟩ := id h
  obtain ⟨year', month', day', hdate', -⟩ := id h'
  have hself := (dayOf_iff (Option.isSome_of_eq_some hdate)).mpr h
  have hself' := (dayOf_iff (Option.isSome_of_eq_some hdate')).mpr h'
  simp only [stopInstantMilliseconds, midnightMilliseconds, hdate, hdate'] at hat hat'
  have hmidnight : dateUTC year (month - 1) day = dateUTC year' (month' - 1) day' := by
    have hat₁ := Except.ok.inj hat
    have hat₂ := Except.ok.inj hat'
    omega
  have hsame : dayOf travelDate = dayOf other := by
    simp only [dayOf, stopInstantMilliseconds, midnightMilliseconds, hdate, hdate', hmidnight]
  exact Except.ok.inj (hself'.symm.trans (hsame.symm.trans hself))

/-- A travel date names its own day exactly when the calendar has it, and two that the calendar has
are never one departure of a service. -/
theorem travel_date_names_one_day {travelDate : String} (h : Carried travelDate) :
    (dayOf travelDate = .ok travelDate ↔ RealDay travelDate) ∧
      (RealDay travelDate → ∀ other, RealDay other → ∀ departureMinute departureAt,
        stopInstantMilliseconds travelDate departureMinute 0 = .ok departureAt →
          stopInstantMilliseconds other departureMinute 0 = .ok departureAt →
            other = travelDate) :=
  ⟨dayOf_iff h.isDate, fun hreal _ hother _ _ hat hat' => hreal.unique hother hat hat'⟩

/-- A leap day. -/
theorem travel_date_names_one_day_specimen :
    dayOf "2028-02-29" = .ok "2028-02-29" ↔ RealDay "2028-02-29" :=
  (travel_date_names_one_day (@Carried.item "RSV-S1-2028-02-29-ASHWAMEDHA" _ rfl)).1

/-- An order for a dated departure of the specimen. -/
def datedInput (travelDate : String) (tags : List BuyerTag) : OrderInput :=
  { specimenInput 1 tags with
    items := some [⟨s!"RSV-S1-{travelDate}-ASHWAMEDHA", some 1⟩] }

/-- Buy seat 1 of a dated departure: the select and the confirm are the next two tasks. -/
def datedSale (task : ℕ) (transactionId travelDate name holdId bookingId : String) :
    List (Event Request Choice Happening) :=
  [.start ⟨0, .select (specimenContext transactionId)
      (datedInput travelDate [seatsGroup ["1"]])⟩] ++ steps task 12 holdId ++
    [.start ⟨0, .confirm (specimenContext transactionId)
        (datedInput travelDate [manifestGroup [("1", name, "female")]])⟩] ++
      steps (task + 1) 21 bookingId

/-- Seat 1 of one coach is sold twice, once for the day the calendar does not have. -/
theorem one_coach_sold_under_two_dates :
    dayOf "2026-09-31" = .ok "2026-10-01" ∧
    ∃ c : Pool, Reach (provider specimenDeployment) (fun _ _ => True) specimenStart c ∧
      ∃ a ∈ c.hist.world.db.bookings.rows, ∃ b ∈ c.hist.world.db.bookings.rows,
        a.travelDate = "2026-09-31" ∧ b.travelDate = "2026-10-01" ∧ a.serviceId = b.serviceId ∧
          a.departureAt = b.departureAt ∧ c.hist.world.db.Confirmed a.id "1" ∧
            c.hist.world.db.Confirmed b.id "1" := by
  have hrun : (specimenStart.follow (provider specimenDeployment) (fun _ _ => true)
      (datedSale 0 "T1" "2026-09-31" "A" "a1" "b1" ++
        datedSale 2 "T2" "2026-10-01" "B" "a2" "b2")).map (fun c =>
          decide (∃ a ∈ c.hist.world.db.bookings.rows, ∃ b ∈ c.hist.world.db.bookings.rows,
            a.travelDate = "2026-09-31" ∧ b.travelDate = "2026-10-01" ∧
              a.serviceId = b.serviceId ∧ a.departureAt = b.departureAt ∧
                c.hist.world.db.Confirmed a.id "1" ∧ c.hist.world.db.Confirmed b.id "1")) =
      some true := by
    decide +kernel
  obtain ⟨c, hfollow, hsold⟩ := Option.map_eq_some_iff.mp hrun
  exact ⟨rfl, c, (Config.follow_reach .refl hfollow).mono fun _ _ _ => trivial,
    of_decide_eq_true hsold⟩

end TransitBpp
