import TransitBpp.Types

/-!
# Dates, instants and the booking window

`calendar.ts`. A date is a calendar day in IST all the way down, and an instant is only ever
derived from one. Instants are whole milliseconds since the epoch, `IST` is a fixed offset.
-/

namespace TransitBpp

open Js

/-- Five and a half hours. -/
def indiaOffsetMilliseconds : ℤ := 19800000

/-- One minute. -/
def minuteMilliseconds : ℤ := 60000

/-- Year, month and day of `/^(\d{4})-(\d{2})-(\d{2})$/`. -/
def calendarDate (travelDate : String) : Option (ℤ × ℤ × ℤ) :=
  match travelDate.toList with
  | [a, b, c, d, '-', e, f, '-', g, h] =>
    match digits 10 [a, b, c, d], digits 10 [e, f], digits 10 [g, h] with
    | some (year, _), some (month, _), some (day, _) => some (year, month, day)
    | _, _, _ => none
  | _ => none

/-- IST midnight on a travel date. -/
def midnightMilliseconds (travelDate : String) : Except Failure ℤ :=
  match calendarDate travelDate with
  | none => throw (.error
      s!"A travel date must be a bare calendar date in YYYY-MM-DD, not {travelDate}")
  | some (year, month, day) => return dateUTC year (month - 1) day - indiaOffsetMilliseconds

/-- `toISOString`, which throws on an instant no `Date` can hold. -/
def isoString (atMilliseconds : ℤ) : Except Failure String :=
  match toISOString atMilliseconds with
  | none => throw (.error "Invalid time value")
  | some text => return text

theorem isoString_isOk {atMilliseconds : ℤ} : (∃ text, isoString atMilliseconds = .ok text) ↔
    -8640000000000000 ≤ atMilliseconds ∧ atMilliseconds ≤ 8640000000000000 := by
  rw [isoString, toISOString]
  by_cases h : -8640000000000000 ≤ atMilliseconds ∧ atMilliseconds ≤ 8640000000000000
  · rw [if_pos h]
    exact ⟨fun _ => h, fun _ => ⟨_, rfl⟩⟩
  · rw [if_neg h]
    constructor
    · rintro ⟨text, ht⟩
      cases ht
    · exact fun h' => absurd h' h

/-- The calendar day an instant falls on, in IST. -/
def istCalendarDate (atMilliseconds : ℤ) : Except Failure String := do
  return slice (← isoString (atMilliseconds + indiaOffsetMilliseconds)) 10

/-- An instant as this category publishes it, with the `+05:30` offset. -/
def istIsoInstant (atMilliseconds : ℤ) : Except Failure String := do
  return slice (← isoString (atMilliseconds + indiaOffsetMilliseconds)) 23 ++ "+05:30"

theorem istIsoInstant_isOk {atMilliseconds : ℤ} :
    (∃ text, istIsoInstant atMilliseconds = .ok text) ↔
      -8640000000000000 ≤ atMilliseconds + indiaOffsetMilliseconds ∧
        atMilliseconds + indiaOffsetMilliseconds ≤ 8640000000000000 := by
  rw [← isoString_isOk, istIsoInstant]
  constructor
  · rintro ⟨text, h⟩
    cases hi : isoString (atMilliseconds + indiaOffsetMilliseconds) with
    | error e =>
      rw [hi] at h
      cases h
    | ok iso => exact ⟨iso, rfl⟩
  · rintro ⟨iso, h⟩
    rw [h]
    exact ⟨_, rfl⟩

/-- The instant a stop is reached: IST midnight, plus the departure minute, plus the offset. -/
def stopInstantMilliseconds (travelDate : String)
    (departureMinute reportingOffsetMinutes : ℤ) : Except Failure ℤ := do
  return (← midnightMilliseconds travelDate) +
    (departureMinute + reportingOffsetMinutes) * minuteMilliseconds

/-- The same instant as it is published. -/
def stopInstant (travelDate : String) (departureMinute reportingOffsetMinutes : ℤ) :
    Except Failure String := do
  istIsoInstant (← stopInstantMilliseconds travelDate departureMinute reportingOffsetMinutes)

/-- Whether a service runs on a date. There is no nearest-date fallback. -/
def runsOn (pattern : OperatingPattern) (travelDate : String) : Except Failure Bool :=
  match pattern with
  | .daily => return true
  | .daysOfWeek days => do
    let midnight ← midnightMilliseconds travelDate
    return decide (utcDay (midnight + indiaOffsetMilliseconds) ∈ days)
  | .dates dates => return decide (travelDate ∈ dates)

/-- When a departure can be transacted. -/
structure BookingWindow : Type where
  /-- minutes before departure at which it closes -/
  closeMinutes : ℤ
  /-- days ahead it reaches -/
  horizonDays : ℤ

/-- Which side of the booking window a departure is on, with the instant of the edge crossed. -/
inductive BookingWindowVerdict : Type where
  /-- it can be transacted now -/
  | isOpen : BookingWindowVerdict
  /-- inside the closing window, or gone -/
  | tooLate : String → BookingWindowVerdict
  /-- beyond the horizon -/
  | tooFar : String → BookingWindowVerdict
  deriving DecidableEq

/-- Whether a departure can be transacted now. -/
def bookingWindowStatus (departureAtMilliseconds nowMilliseconds : ℤ) (window : BookingWindow) :
    Except Failure BookingWindowVerdict :=
  let closesAt := departureAtMilliseconds - window.closeMinutes * minuteMilliseconds
  let horizonAt := nowMilliseconds + window.horizonDays * dayMilliseconds
  if nowMilliseconds > closesAt then do
    return .tooLate (← istIsoInstant closesAt)
  else if departureAtMilliseconds > horizonAt then do
    return .tooFar (← istIsoInstant horizonAt)
  else return .isOpen

end TransitBpp
