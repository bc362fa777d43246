import TransitBpp.Passes
import TransitBpp.Publication

/-!
# The window of a pass

A window runs from one IST midnight to another. `Date.UTC` is given month and day numbers out of
range; `dayUTC_eq_monthStart` says what they come to, counted in months, and the rest is that months
follow one another.
-/

namespace TransitBpp.Trv11

open Js (civilFromDays daysFromCivil CivilDay dayMilliseconds dayUTC monthStart monthLength)

variable {issuedAt later ms : ℤ} {window : PassWindow}

/-! ## The calendar -/

/-- The midnight, in IST, that a day of the calendar begins with. -/
def MidnightOf (year month day ms : ℤ) : Prop :=
  CivilDay year month day ∧ ms + indiaOffsetMilliseconds = daysFromCivil year month day * dayMilliseconds

/-- An IST midnight. -/
def IstMidnight (ms : ℤ) : Prop := ∃ year month day, MidnightOf year month day ms

/-- The month that follows. -/
def followingMonth (year month : ℤ) : ℤ × ℤ := if month = 12 then (year + 1, 1) else (year, month + 1)

/-- The end of a monthly window: the same day of the month that follows, if that has it, and else
the first of the month after. -/
def MonthAfter (year month day ms : ℤ) : Prop :=
  if day ≤ Js.daysInMonth (followingMonth year month).1 (followingMonth year month).2 then
    MidnightOf (followingMonth year month).1 (followingMonth year month).2 day ms
  else
    MidnightOf (followingMonth (followingMonth year month).1 (followingMonth year month).2).1
      (followingMonth (followingMonth year month).1 (followingMonth year month).2).2 1 ms

/-- The day an instant falls on, in IST. -/
def istDay (ms : ℤ) : ℤ := (ms + indiaOffsetMilliseconds) / dayMilliseconds

/-- The midnight of a day. -/
def midnight (days : ℤ) : ℤ := days * dayMilliseconds - indiaOffsetMilliseconds

theorem midnightOf_midnight (days : ℤ) : MidnightOf (civilFromDays days).1 (civilFromDays days).2.1
    (civilFromDays days).2.2 (midnight days) := by
  refine ⟨Js.civilDay_civilFromDays days, ?_⟩
  rw [Js.daysFromCivil_civilFromDays, midnight]
  omega

theorem istMidnight_iff : IstMidnight ms ↔ ∃ days, ms = midnight days := by
  constructor
  · rintro ⟨year, month, day, -, h⟩
    exact ⟨daysFromCivil year month day, by rw [midnight]; omega⟩
  · rintro ⟨days, rfl⟩
    exact ⟨_, _, _, midnightOf_midnight days⟩

theorem midnight_le_iff {days : ℤ} : midnight days ≤ ms ↔ days ≤ istDay ms := by
  rw [midnight, istDay, dayMilliseconds]
  omega

theorem midnight_le_midnight {days days' : ℤ} : midnight days ≤ midnight days' ↔ days ≤ days' := by
  rw [midnight, midnight, dayMilliseconds]
  omega

/-- The months from the year 0. -/
theorem followingMonth_index {year month : ℤ} (h : 1 ≤ month ∧ month ≤ 12) :
    12 * (followingMonth year month).1 + ((followingMonth year month).2 - 1) =
      12 * year + (month - 1) + 1 ∧
    1 ≤ (followingMonth year month).2 ∧ (followingMonth year month).2 ≤ 12 := by
  rw [followingMonth]
  split
  · rename_i hdecember
    subst hdecember
    omega
  · dsimp only
    omega

theorem monthLength_index {year month : ℤ} (h : 1 ≤ month ∧ month ≤ 12) :
    monthLength (12 * year + (month - 1)) = Js.daysInMonth year month := by
  have hyear : (12 * year + (month - 1)) / 12 = year := by omega
  have hmonth : (12 * year + (month - 1)) % 12 + 1 = month := by omega
  rw [monthLength, hyear, hmonth]

/-! ## The code's days -/

/-- `daysInMonth`, by the day before the first of the next month. -/
theorem daysInMonth_eq {year month : ℤ} (hyear : 100 ≤ year) (hmonth : 0 ≤ month ∧ month ≤ 11) :
    daysInMonth year month = Js.daysInMonth year (month + 1) := by
  have hinYear : 1 ≤ month + 1 ∧ month + 1 ≤ 12 := by omega
  have hpos := Js.monthLength_pos (12 * year + (month + 1 - 1))
  rw [monthLength_index hinYear] at hpos
  have hlast : CivilDay year (month + 1) (Js.daysInMonth year (month + 1)) :=
    ⟨hinYear, by omega, le_rfl⟩
  have hdays : dayUTC year (month + 1) 0 =
      daysFromCivil year (month + 1) (Js.daysInMonth year (month + 1)) := by
    have hsucc := Js.monthStart_succ (12 * year + (month + 1 - 1))
    rw [monthLength_index hinYear] at hsucc
    rw [Js.dayUTC_eq_monthStart hyear, Js.daysFromCivil_eq_monthStart hinYear,
      show 12 * year + (month + 1) = 12 * year + (month + 1 - 1) + 1 by omega, hsucc]
    omega
  rw [daysInMonth, Js.dateUTC_eq, Int.mul_ediv_cancel _ (by decide), hdays,
    Js.civilFromDays_daysFromCivil hlast]

theorem istMidnightMilliseconds_eq {year : ℤ} (hyear : 100 ≤ year) (monthIndex day : ℤ) :
    istMidnightMilliseconds year monthIndex day =
      midnight (monthStart (12 * year + monthIndex) + (day - 1)) := by
  rw [istMidnightMilliseconds, Js.dateUTC_eq, Js.dayUTC_eq_monthStart hyear, midnight]

/-! ## The window in days -/

/-- The month a day lies in, counted from the year 0. -/
def monthIndex (days : ℤ) : ℤ := 12 * (civilFromDays days).1 + ((civilFromDays days).2.1 - 1)

theorem days_eq_monthStart (days : ℤ) :
    days = monthStart (monthIndex days) + ((civilFromDays days).2.2 - 1) := by
  have hdays := Js.daysFromCivil_civilFromDays days
  rw [Js.daysFromCivil_eq_monthStart (Js.civilDay_civilFromDays days).inYear] at hdays
  exact hdays.symm

theorem day_le_monthLength (days : ℤ) :
    1 ≤ (civilFromDays days).2.2 ∧ (civilFromDays days).2.2 ≤ monthLength (monthIndex days) := by
  have hcivil := Js.civilDay_civilFromDays days
  rw [monthIndex, monthLength_index hcivil.inYear]
  exact hcivil.inMonth

/-- The day a window ends before. Of a month that is too short all days are in it. -/
def windowEnd (days : ℤ) : PassWindow → ℤ
  | .day => days + 1
  | .weekly => days + 7
  | .monthly => monthStart (monthIndex days + 1) +
      min ((civilFromDays days).2.2 - 1) (monthLength (monthIndex days + 1))

theorem lt_windowEnd (days : ℤ) (window : PassWindow) : days < windowEnd days window := by
  cases window with
  | day => simp only [windowEnd]; omega
  | weekly => simp only [windowEnd]; omega
  | monthly =>
    have hday := day_le_monthLength days
    have hstart := days_eq_monthStart days
    have hsucc := Js.monthStart_succ (monthIndex days)
    have hpos := Js.monthLength_pos (monthIndex days + 1)
    rw [windowEnd]
    omega

theorem monthIndex_mono {days days' : ℤ} (h : days ≤ days') : monthIndex days ≤ monthIndex days' := by
  refine (Js.civilDay_civilFromDays days).month_le (Js.civilDay_civilFromDays days') ?_
  rw [Js.daysFromCivil_civilFromDays, Js.daysFromCivil_civilFromDays]
  exact h

/-- A later day's window ends no earlier. -/
theorem windowEnd_mono {days days' : ℤ} (h : days ≤ days') (window : PassWindow) :
    windowEnd days window ≤ windowEnd days' window := by
  cases window with
  | day => simp only [windowEnd]; omega
  | weekly => simp only [windowEnd]; omega
  | monthly =>
    simp only [windowEnd]
    have hday := day_le_monthLength days'
    rcases (monthIndex_mono h).lt_or_eq with hlt | hsame
    · -- it ends in a later month
      have hsucc := Js.monthStart_succ (monthIndex days + 1)
      have hstart : monthStart (monthIndex days + 1 + 1) ≤ monthStart (monthIndex days' + 1) :=
        Js.monthStart_mono (by omega)
      have hpos := Js.monthLength_pos (monthIndex days' + 1)
      omega
    · have hstart := days_eq_monthStart days
      have hstart' := days_eq_monthStart days'
      rw [hsame] at hstart ⊢
      omega

/-- The code's end of a window. -/
theorem validToMs_eq {days : ℤ} (hyear : 100 ≤ (civilFromDays days).1) (window : PassWindow) :
    validToMs (civilFromDays days).1 ((civilFromDays days).2.1 - 1) (civilFromDays days).2.2 window =
      midnight (windowEnd days window) := by
  have hstart := days_eq_monthStart days
  rw [monthIndex] at hstart
  cases window with
  | day =>
    rw [validToMs, istMidnightMilliseconds_eq hyear, windowEnd]
    congr 1
    omega
  | weekly =>
    rw [validToMs, istMidnightMilliseconds_eq hyear, windowEnd]
    congr 1
    omega
  | monthly =>
    obtain ⟨hfirst, hlast⟩ := (Js.civilDay_civilFromDays days).inYear
    have hday := day_le_monthLength days
    generalize hm : (civilFromDays days).2.1 - 1 = month at hstart
    obtain ⟨targetYear, htargetYear, hyear'⟩ : ∃ targetYear,
        targetYear = (if month = 11 then (civilFromDays days).1 + 1 else (civilFromDays days).1) ∧
          100 ≤ targetYear := by
      refine ⟨_, rfl, ?_⟩
      split <;> omega
    obtain ⟨targetMonth, htargetMonth, hfirst', hlast'⟩ : ∃ targetMonth,
        targetMonth = (month + 1) % 12 ∧ 0 ≤ targetMonth ∧ targetMonth ≤ 11 :=
      ⟨_, rfl, by omega, by omega⟩
    have hindex : 12 * targetYear + targetMonth = monthIndex days + 1 := by
      rw [monthIndex, hm, htargetYear]
      split <;> omega
    have hlength : daysInMonth targetYear targetMonth = monthLength (monthIndex days + 1) := by
      rw [daysInMonth_eq hyear' ⟨hfirst', hlast'⟩, ← hindex]
      have hshift := @monthLength_index targetYear (targetMonth + 1) (by omega)
      rw [← hshift]
      congr 1
      omega
    simp only [validToMs, ← htargetYear, ← htargetMonth, hlength, windowEnd]
    have hsucc := Js.monthStart_succ (monthIndex days + 1)
    split
    · rw [istMidnightMilliseconds_eq hyear', hindex]
      congr 1
      omega
    · rw [istMidnightMilliseconds_eq hyear', show 12 * targetYear + (targetMonth + 1) =
        monthIndex days + 1 + 1 by omega, hsucc]
      congr 1
      omega

/-- A monthly window ends as the calendar says. -/
theorem monthAfter_windowEnd (days : ℤ) : MonthAfter (civilFromDays days).1 (civilFromDays days).2.1
    (civilFromDays days).2.2 (midnight (windowEnd days .monthly)) := by
  have hday := day_le_monthLength days
  obtain ⟨hindex, hinYear⟩ := followingMonth_index (Js.civilDay_civilFromDays days).inYear
  rw [← monthIndex] at hindex
  rw [MonthAfter]
  generalize followingMonth (civilFromDays days).1 (civilFromDays days).2.1 = next at hindex hinYear ⊢
  have hlength := @monthLength_index next.1 next.2 hinYear
  rw [hindex] at hlength
  rw [windowEnd]
  split
  · refine ⟨⟨hinYear, by omega, by assumption⟩, ?_⟩
    rw [Js.daysFromCivil_eq_monthStart hinYear, hindex, midnight, min_eq_left (by omega)]
    omega
  · obtain ⟨hindex', hinYear'⟩ := followingMonth_index hinYear
    generalize followingMonth next.1 next.2 = after at hindex' hinYear' ⊢
    have hpos := Js.monthLength_pos (12 * after.1 + (after.2 - 1))
    rw [monthLength_index hinYear'] at hpos
    refine ⟨⟨hinYear', le_rfl, by omega⟩, ?_⟩
    have hsucc := Js.monthStart_succ (monthIndex days + 1)
    rw [Js.daysFromCivil_eq_monthStart hinYear', hindex', hindex, hsucc, midnight,
      min_eq_right (by omega), sub_self, add_zero]
    omega

/-! ## What is written -/

/-- A midnight of a year of four digits is written as the date that begins then. -/
theorem readInstant_istMidnightIso {days : ℤ}
    (hyear : 0 ≤ (civilFromDays days).1 ∧ (civilFromDays days).1 ≤ 9999) :
    readInstant (istMidnightIso (midnight days)) = some (midnight days) := by
  have hdays : (midnight days + indiaOffsetMilliseconds) / dayMilliseconds = days := by
    rw [midnight, dayMilliseconds]
    omega
  obtain ⟨hmonth, hday⟩ := civilDay_digits (Js.civilDay_civilFromDays days)
  have hdate := length_dateText hyear hmonth hday
  have htail : (toString "T00:00:00.000+05:30").toList =
      ['T', '0', '0', ':', '0', '0', ':', '0', '0', '.', '0', '0', '0', '+', '0', '5', ':', '3',
        '0'] := by decide
  have hdash : (toString "-").toList = ['-'] := by decide
  have htext : (istMidnightIso (midnight days)).toList = dateText (civilFromDays days).1
      (civilFromDays days).2.1 (civilFromDays days).2.2 ++ ['T', '0', '0', ':', '0', '0', ':', '0',
        '0', '.', '0', '0', '0', '+', '0', '5', ':', '3', '0'] := by
    simp only [istMidnightIso, istCalendarDay, hdays, String.toList_append, htail, hdash,
      sub_add_cancel, dateText]
    simp [toString]
  have hread : calendarDate (Js.slice (istMidnightIso (midnight days)) 10) =
      some ((civilFromDays days).1, (civilFromDays days).2.1, (civilFromDays days).2.2) := by
    refine calendarDate_iff.mpr ⟨hyear, hmonth, hday, ?_⟩
    rw [Js.slice, String.toList_ofList, htext, List.take_left' hdate]
  have hrest := congrArg (List.drop 10) htext
  rw [List.drop_left' hdate] at hrest
  have hzero : Js.digits 10 ['0', '0'] = some (0, 2) := by decide
  have hzeros : Js.digits 10 ['0', '0', '0'] = some (0, 3) := by decide
  rw [readInstant, hread, hrest]
  simp only [hzero, hzeros, Js.daysFromCivil_civilFromDays]
  rw [midnight]
  exact congrArg some (by omega)

/-! ## The result -/

/-- An instant from 1970, in IST, to the end of 9998, in UTC. -/
structure Issuable (ms : ℤ) : Prop where
  /-- in 1970 or later -/
  fromYear : -indiaOffsetMilliseconds ≤ ms
  /-- before 9999 -/
  toYear : ms < Js.dateUTC 9999 0 1

/-- A day from 1970 to 9999. -/
theorem fourDigits_of_bounds {days : ℤ} (hlow : 0 ≤ days) (hhigh : days < monthStart 120000) :
    100 ≤ (civilFromDays days).1 ∧ (civilFromDays days).1 ≤ 9999 := by
  have hera := Js.era_le_civilFromDays days
  have hcivil := Js.civilDay_civilFromDays days
  have hmonth := hcivil.mem_month.1
  rw [Js.daysFromCivil_civilFromDays] at hmonth
  have hlt := Js.monthStart_lt_iff.mp (lt_of_le_of_lt hmonth hhigh)
  have hinYear := hcivil.inYear
  omega

theorem Issuable.days (h : Issuable issuedAt) :
    0 ≤ istDay issuedAt ∧ istDay issuedAt ≤ monthStart 119988 := by
  have hfrom := h.fromYear
  have hto := h.toYear
  have hlast : Js.dateUTC 9999 0 1 = 2932532 * dayMilliseconds := by decide
  have hstart : monthStart 119988 = 2932532 := by decide
  rw [hlast, dayMilliseconds] at hto
  rw [istDay, hstart, dayMilliseconds]
  rw [indiaOffsetMilliseconds] at *
  omega

/-- The end of a window is a day before 10000. -/
theorem Issuable.windowEnd_lt (h : Issuable issuedAt) (window : PassWindow) :
    windowEnd (istDay issuedAt) window < monthStart 120000 := by
  have hlast : windowEnd (monthStart 119988) window < monthStart 120000 := by
    cases window <;> decide +kernel
  exact lt_of_le_of_lt (windowEnd_mono h.days.2 window) hlast

/-- The window of a pass, in days. -/
theorem passValidityWindow_eq (h : Issuable issuedAt) (window : PassWindow) :
    (passValidityWindow issuedAt window).validFromMs = midnight (istDay issuedAt) ∧
      (passValidityWindow issuedAt window).validToMs = midnight (windowEnd (istDay issuedAt) window) ∧
      (passValidityWindow issuedAt window).validFrom = istMidnightIso (midnight (istDay issuedAt)) ∧
      (passValidityWindow issuedAt window).validTo =
        istMidnightIso (midnight (windowEnd (istDay issuedAt) window)) := by
  have hyear : 100 ≤ (civilFromDays (istDay issuedAt)).1 :=
    (fourDigits_of_bounds h.days.1 (lt_trans (lt_windowEnd _ .day) (h.windowEnd_lt .day))).1
  have hstart := days_eq_monthStart (istDay issuedAt)
  have hfrom : istMidnightMilliseconds (civilFromDays (istDay issuedAt)).1
      ((civilFromDays (istDay issuedAt)).2.1 - 1) (civilFromDays (istDay issuedAt)).2.2 =
        midnight (istDay issuedAt) := by
    rw [istMidnightMilliseconds_eq hyear, ← monthIndex, ← hstart]
  have hto := validToMs_eq hyear window
  refine ⟨hfrom, hto, ?_, ?_⟩
  · rw [← hfrom]
    rfl
  · rw [← hto]
    rfl

/-- A window is the one of the calendar: from the midnight before to the midnight its kind says. -/
theorem pass_window_is_calendar_window (h : Issuable issuedAt) (window : PassWindow) :
    (IstMidnight (passValidityWindow issuedAt window).validFromMs ∧
      (passValidityWindow issuedAt window).validFromMs ≤ issuedAt ∧
      ∀ ms, IstMidnight ms → ms ≤ issuedAt →
        ms ≤ (passValidityWindow issuedAt window).validFromMs) ∧
    issuedAt < (passValidityWindow issuedAt window).validToMs ∧
    IstMidnight (passValidityWindow issuedAt window).validToMs ∧
    (window = .day → (passValidityWindow issuedAt window).validToMs =
      (passValidityWindow issuedAt window).validFromMs + dayMilliseconds) ∧
    (window = .weekly → (passValidityWindow issuedAt window).validToMs =
      (passValidityWindow issuedAt window).validFromMs + 7 * dayMilliseconds) ∧
    (window = .monthly → ∃ year month day,
      MidnightOf year month day (passValidityWindow issuedAt window).validFromMs ∧
        MonthAfter year month day (passValidityWindow issuedAt window).validToMs) ∧
    (∀ later, issuedAt ≤ later → Issuable later →
      (passValidityWindow issuedAt window).validFromMs ≤
          (passValidityWindow later window).validFromMs ∧
        (passValidityWindow issuedAt window).validToMs ≤
          (passValidityWindow later window).validToMs) ∧
    readInstant (passValidityWindow issuedAt window).validFrom =
      some (passValidityWindow issuedAt window).validFromMs ∧
    readInstant (passValidityWindow issuedAt window).validTo =
      some (passValidityWindow issuedAt window).validToMs := by
  obtain ⟨hfrom, hto, hfromText, htoText⟩ := passValidityWindow_eq h window
  have hlt := lt_windowEnd (istDay issuedAt) window
  rw [hfrom, hto, hfromText, htoText]
  refine ⟨⟨istMidnight_iff.mpr ⟨_, rfl⟩, midnight_le_iff.mpr le_rfl, ?_⟩, ?_,
    istMidnight_iff.mpr ⟨_, rfl⟩, ?_, ?_, ?_, ?_, ?_, ?_⟩
  · intro ms hms hle
    obtain ⟨days, rfl⟩ := istMidnight_iff.mp hms
    exact midnight_le_midnight.mpr (midnight_le_iff.mp hle)
  · by_contra hge
    have hday := midnight_le_iff.mp (not_lt.mp hge)
    omega
  · rintro rfl
    rw [windowEnd, midnight, midnight, dayMilliseconds]
    omega
  · rintro rfl
    rw [windowEnd, midnight, midnight, dayMilliseconds]
    omega
  · rintro rfl
    exact ⟨_, _, _, midnightOf_midnight _, monthAfter_windowEnd _⟩
  · intro later hle hlater
    obtain ⟨hfrom', hto', -, -⟩ := passValidityWindow_eq hlater window
    have hday : istDay issuedAt ≤ istDay later :=
      Int.ediv_le_ediv (by decide) (Int.add_le_add_right hle _)
    rw [hfrom', hto']
    exact ⟨midnight_le_midnight.mpr hday, midnight_le_midnight.mpr (windowEnd_mono hday window)⟩
  · obtain ⟨hlow, hhigh⟩ :=
      fourDigits_of_bounds h.days.1 (lt_trans (lt_windowEnd _ .day) (h.windowEnd_lt .day))
    exact readInstant_istMidnightIso ⟨by omega, hhigh⟩
  · obtain ⟨hlow, hhigh⟩ := fourDigits_of_bounds (h.days.1.trans hlt.le) (h.windowEnd_lt window)
    exact readInstant_istMidnightIso ⟨by omega, hhigh⟩

/-- A pass of the 31st of January 2026 covers the whole of February. -/
theorem pass_window_is_calendar_window_january :
    1769841000000 < (passValidityWindow 1769841000000 .monthly).validToMs ∧
      (passValidityWindow 1769841000000 .monthly).validTo = "2026-03-01T00:00:00.000+05:30" :=
  ⟨(pass_window_is_calendar_window ⟨by decide, by decide⟩ .monthly).2.1, by decide +kernel⟩

end TransitBpp.Trv11
