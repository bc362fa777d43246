import Mathlib.Tactic.IntervalCases
import Mathlib.Tactic.NormNum
import TransitBpp.Js

/-!
# Numerals and the civil calendar

What the host language's numerals and dates come to: a padded numeral of a given width says one
number and every numeral is one, and the days counted from the epoch are the days of the Gregorian
calendar. `CivilDay` is the calendar as everybody knows it, against which the arithmetic of
`daysFromCivil` and `civilFromDays` is checked.
-/

namespace Js

/-! ## Numerals -/

theorem digit_ten {c : Char} {v : ℕ} : digit 10 c = some v ↔ v < 10 ∧ c.toNat = 48 + v := by
  simp only [digit]
  split_ifs <;> simp <;> omega

theorem digits_nil (radix : ℕ) : digits radix [] = some (0, 0) := rfl

theorem digits_append_singleton (radix : ℕ) (cs : List Char) (c : Char) :
    digits radix (cs ++ [c]) = (digits radix cs).bind fun acc =>
      (digit radix c).map fun d => (acc.1 * radix + d, acc.2 + 1) := by
  rw [digits, List.foldlM_append]
  cases h : cs.foldlM (fun acc c => (digit radix c).map fun d => (acc.1 * radix + d, acc.2 + 1))
    (0, 0) <;> simp [digits, h]

/-- A numeral that ends in a digit. -/
theorem digits_snoc {cs : List Char} {c : Char} {n k : ℕ} :
    digits 10 (cs ++ [c]) = some (n, k) ↔
      ∃ m j v, digits 10 cs = some (m, j) ∧ digit 10 c = some v ∧ n = m * 10 + v ∧ k = j + 1 := by
  rw [digits_append_singleton]
  constructor
  · intro h
    obtain ⟨⟨m, j⟩, hm, hrest⟩ := Option.bind_eq_some_iff.mp h
    obtain ⟨v, hv, heq⟩ := Option.map_eq_some_iff.mp hrest
    obtain ⟨rfl, rfl⟩ := Prod.mk.inj heq
    exact ⟨m, j, v, hm, hv, rfl, rfl⟩
  · rintro ⟨m, j, v, hm, hv, rfl, rfl⟩
    rw [hm, Option.bind_some, hv, Option.map_some]

theorem digits_bound {cs : List Char} : ∀ {n k : ℕ}, digits 10 cs = some (n, k) →
    k = cs.length ∧ n < 10 ^ cs.length := by
  induction cs using List.reverseRecOn with
  | nil =>
    intro n k h
    obtain ⟨rfl, rfl⟩ := Prod.mk.inj (Option.some.inj h)
    exact ⟨rfl, Nat.one_pos⟩
  | append_singleton cs c ih =>
    intro n k h
    obtain ⟨m, j, v, hm, hv, rfl, rfl⟩ := digits_snoc.mp h
    obtain ⟨rfl, hlt⟩ := ih hm
    have hv' := (digit_ten.mp hv).1
    rw [List.length_append, List.length_singleton, pow_succ]
    exact ⟨rfl, by omega⟩

/-- A numeral of a given length says one number. -/
theorem digits_injective {cs : List Char} : ∀ {cs' : List Char} {n k k' : ℕ},
    cs.length = cs'.length → digits 10 cs = some (n, k) → digits 10 cs' = some (n, k') →
      cs = cs' := by
  induction cs using List.reverseRecOn with
  | nil =>
    intro cs' n k k' hlen _ _
    exact (List.eq_nil_of_length_eq_zero hlen.symm).symm
  | append_singleton cs c ih =>
    intro cs' n k k' hlen h h'
    rcases List.eq_nil_or_concat cs' with rfl | ⟨cs', c', rfl⟩
    · simp at hlen
    · rw [List.concat_eq_append] at hlen h' ⊢
      obtain ⟨m, j, v, hm, hv, rfl, -⟩ := digits_snoc.mp h
      obtain ⟨m', j', v', hm', hv', hn, -⟩ := digits_snoc.mp h'
      obtain ⟨hlt, hchar⟩ := digit_ten.mp hv
      obtain ⟨hlt', hchar'⟩ := digit_ten.mp hv'
      obtain rfl : m = m' := by omega
      have hc : c = c' := Char.toNat_inj.mp (by omega)
      have hcs : cs = cs' := ih (by simpa using hlen) hm hm'
      rw [hc, hcs]

theorem digits_replicate_append (k : ℕ) {cs : List Char} : ∀ {n j : ℕ},
    digits 10 cs = some (n, j) →
      digits 10 (List.replicate k '0' ++ cs) = some (n, k + j) := by
  induction cs using List.reverseRecOn with
  | nil =>
    intro n j h
    obtain ⟨rfl, rfl⟩ := Prod.mk.inj (Option.some.inj h)
    induction k with
    | zero => rfl
    | succ k ih =>
      rw [List.append_nil] at ih ⊢
      rw [List.replicate_succ']
      exact digits_snoc.mpr ⟨0, k, 0, ih, rfl, rfl, rfl⟩
  | append_singleton cs c ih =>
    intro n j h
    obtain ⟨m, j, v, hm, hv, rfl, rfl⟩ := digits_snoc.mp h
    rw [← List.append_assoc]
    exact digits_snoc.mpr ⟨m, k + j, v, ih hm, hv, rfl, rfl⟩

theorem mem_digits {cs : List Char} : ∀ {n k : ℕ}, digits 10 cs = some (n, k) →
    ∀ c ∈ cs, ∃ v, digit 10 c = some v := by
  induction cs using List.reverseRecOn with
  | nil =>
    intro n k _ c hc
    cases hc
  | append_singleton cs last ih =>
    intro n k h c hc
    obtain ⟨m, j, v, hm, hv, -, -⟩ := digits_snoc.mp h
    rcases List.mem_append.mp hc with hc | hc
    · exact ih hm c hc
    · rw [List.mem_singleton.mp hc]
      exact ⟨v, hv⟩

/-- A character of a numeral is one of ten. -/
theorem toNat_of_digits {cs : List Char} {n k : ℕ} (h : digits 10 cs = some (n, k)) {c : Char}
    (hc : c ∈ cs) : 48 ≤ c.toNat ∧ c.toNat ≤ 57 := by
  obtain ⟨v, hv⟩ := mem_digits h c hc
  obtain ⟨hlt, heq⟩ := digit_ten.mp hv
  omega

theorem digits_toDigits (n : ℕ) : ∃ k, digits 10 (Nat.toDigits 10 n) = some (n, k) := by
  induction n using Nat.strongRecOn with
  | _ n ih =>
    have hchar : ∀ d, d < 10 → digit 10 d.digitChar = some d := by decide
    by_cases h : n < 10
    · rw [Nat.toDigits_of_lt_base h]
      exact ⟨1, (@digits_snoc [] _ _ _).mpr ⟨0, 0, n, rfl, hchar n h, by omega, rfl⟩⟩
    · obtain ⟨k, hk⟩ := ih (n / 10) (by omega)
      rw [Nat.toDigits_of_base_le (by decide) (by omega)]
      exact ⟨k + 1, digits_snoc.mpr ⟨n / 10, k, n % 10, hk, hchar _ (by omega), by omega, rfl⟩⟩

theorem toList_padded (width n : ℕ) : (padded width n).toList =
    List.replicate (width - (Nat.toDigits 10 n).length) '0' ++ Nat.toDigits 10 n := by
  simp [padded]

/-- The numeral of a number, padded with zeros, says the number. -/
theorem padded_digits {width n : ℕ} (hwidth : 0 < width) (hn : n < 10 ^ width) :
    (padded width n).toList.length = width ∧
      digits 10 (padded width n).toList = some (n, width) := by
  have hlist := toList_padded width n
  obtain ⟨k, hk⟩ := digits_toDigits n
  have hlen : (Nat.toDigits 10 n).length ≤ width :=
    (Nat.length_toDigits_le_iff (by decide) hwidth).mpr hn
  have hfull : (padded width n).toList.length = width := by
    rw [hlist, List.length_append, List.length_replicate]
    omega
  have hdigits := digits_replicate_append (width - (Nat.toDigits 10 n).length) hk
  rw [← hlist] at hdigits
  have hwidth' := (digits_bound hdigits).1
  rw [hfull] at hwidth'
  rw [hwidth'] at hdigits
  exact ⟨hfull, hdigits⟩

/-- Also where the number is wider than that. -/
theorem padded_injective {width m n : ℕ} (h : padded width m = padded width n) : m = n := by
  obtain ⟨j, hj⟩ := digits_toDigits m
  obtain ⟨k, hk⟩ := digits_toDigits n
  have hm := digits_replicate_append (width - (Nat.toDigits 10 m).length) hj
  have hn := digits_replicate_append (width - (Nat.toDigits 10 n).length) hk
  rw [← toList_padded] at hm hn
  rw [h, hn] at hm
  exact (Prod.mk.inj (Option.some.inj hm)).1.symm

/-- And every numeral is that of its number. -/
theorem padded_of_digits {cs : List Char} {n k : ℕ} (hcs : cs ≠ [])
    (h : digits 10 cs = some (n, k)) : (padded cs.length n).toList = cs := by
  obtain ⟨rfl, hn⟩ := digits_bound h
  obtain ⟨hlen, hdigits⟩ := padded_digits (List.length_pos_iff.mpr hcs) hn
  exact digits_injective hlen hdigits h

/-! ## Days -/

/-- How many days a month has. -/
def daysInMonth (year month : ℤ) : ℤ :=
  if month = 2 then if year % 4 = 0 ∧ (year % 100 ≠ 0 ∨ year % 400 = 0) then 29 else 28
  else if month = 4 ∨ month = 6 ∨ month = 9 ∨ month = 11 then 30 else 31

/-- A day of the proleptic Gregorian calendar. -/
structure CivilDay (year month day : ℤ) : Prop where
  /-- the month is one of twelve -/
  inYear : 1 ≤ month ∧ month ≤ 12
  /-- the month has the day -/
  inMonth : 1 ≤ day ∧ day ≤ daysInMonth year month

/-- The year of an era, counted from March, of a day of it. -/
theorem yearOfEra_eq {c q r doy : ℤ} (hc : 0 ≤ c ∧ c ≤ 3) (hq : 0 ≤ q ∧ q ≤ 24)
    (hr : 0 ≤ r ∧ r ≤ 3) (hdoy : 0 ≤ doy)
    (hlast : doy ≤ 364 ∨ doy = 365 ∧ r = 3 ∧ (q = 24 → c = 3)) {doe : ℤ}
    (hdoe : doe = 36524 * c + 1461 * q + 365 * r + doy) :
    (doe - doe / 1460 + doe / 36524 - doe / 146096) / 365 = 100 * c + 4 * q + r := by
  rcases hlast with hlast | ⟨rfl, rfl, hlast⟩
  · -- no leap day: only the shortest of the three corrections is not exact
    have h2 : doe / 36524 = c := by omega
    have h3 : doe / 146096 = 0 := by omega
    have h1 : doe / 1460 = 25 * c + q ∨ doe / 1460 = 25 * c + q + 1 ∧ 1 ≤ doy := by omega
    rw [h2, h3]
    omega
  · have h1 : doe / 1460 = 25 * c + q + 1 := by omega
    by_cases hq' : q = 24
    · obtain rfl := hlast hq'
      subst hq'
      subst hdoe
      decide
    · have h2 : doe / 36524 = c := by omega
      have h3 : doe / 146096 = 0 := by omega
      rw [h1, h2, h3]
      omega

/-- A day of a month is a day of its year, counted from March. -/
theorem dayOfYear_le {year month day yoe : ℤ} (h : CivilDay year month day)
    (hyoe : (if month ≤ 2 then year - 1 else year) =
      yoe + 400 * ((if month ≤ 2 then year - 1 else year) / 400))
    {doy : ℤ} (hdoy : doy = (153 * ((month + 9) % 12) + 2) / 5 + day - 1) :
    0 ≤ doy ∧ (doy ≤ 364 ∨ doy = 365 ∧ yoe % 4 = 3 ∧ (yoe % 100 / 4 = 24 → yoe / 100 = 3)) ∧
      (5 * doy + 2) / 153 = (month + 9) % 12 := by
  obtain ⟨⟨hm, hm'⟩, hd, hd'⟩ := h
  simp only [daysInMonth] at hd'
  interval_cases month <;> norm_num at hd' hyoe hdoy ⊢
  · omega
  · split at hd' <;> omega
  all_goals omega

/-- Counting a day of the calendar and reading it back. -/
theorem civilFromDays_daysFromCivil {year month day : ℤ} (h : CivilDay year month day) :
    civilFromDays (daysFromCivil year month day) = (year, month, day) := by
  obtain ⟨y, hy⟩ : ∃ y, y = if month ≤ 2 then year - 1 else year := ⟨_, rfl⟩
  obtain ⟨yoe, hyoe⟩ : ∃ yoe, yoe = y - y / 400 * 400 := ⟨_, rfl⟩
  obtain ⟨doy, hdoy⟩ : ∃ doy, doy = (153 * ((month + 9) % 12) + 2) / 5 + day - 1 := ⟨_, rfl⟩
  obtain ⟨doe, hdoe⟩ : ∃ doe, doe = yoe * 365 + yoe / 4 - yoe / 100 + doy := ⟨_, rfl⟩
  have hdays : daysFromCivil year month day = y / 400 * 146097 + doe - 719468 := by
    simp only [daysFromCivil, hy, hdoy, hyoe, hdoe]
  obtain ⟨hpos, hlast, hmonth⟩ := @dayOfYear_le _ _ _ yoe h (by rw [← hy]; omega) _ hdoy
  have hquarter : yoe / 4 = 25 * (yoe / 100) + yoe % 100 / 4 := by omega
  have hdoe' : doe = 36524 * (yoe / 100) + 1461 * (yoe % 100 / 4) + 365 * (yoe % 4) + doy := by
    omega
  have hyear := yearOfEra_eq (c := yoe / 100) (q := yoe % 100 / 4) (r := yoe % 4) (by omega)
    (by omega) (by omega) hpos hlast hdoe'
  have hera : (daysFromCivil year month day + 719468) / 146097 = y / 400 := by omega
  have hrest : daysFromCivil year month day + 719468 - y / 400 * 146097 = doe := by omega
  have hyoe' : (doe - doe / 1460 + doe / 36524 - doe / 146096) / 365 = yoe := by omega
  have hdoy' : doe - (365 * yoe + yoe / 4 - yoe / 100) = doy := by omega
  obtain ⟨hm, hm'⟩ := h.inYear
  have hmp : (if (month + 9) % 12 < 10 then (month + 9) % 12 + 3 else (month + 9) % 12 - 9) =
      month := by
    split <;> omega
  simp only [civilFromDays, hera, hrest, hyoe', hdoy', hmonth, hmp]
  refine Prod.ext ?_ (Prod.ext rfl ?_)
  · show yoe + y / 400 * 400 + (if month ≤ 2 then 1 else 0) = year
    split at hy <;> simp only [*, if_true, if_false] <;> omega
  · show doy - (153 * ((month + 9) % 12) + 2) / 5 + 1 = day
    omega

/-- Every day of an era is one of a century, of four years of it, and of a year of these. -/
theorem exists_yearOfEra {doe : ℤ} (h : 0 ≤ doe ∧ doe ≤ 146096) : ∃ c q r doy : ℤ,
    (0 ≤ c ∧ c ≤ 3) ∧ (0 ≤ q ∧ q ≤ 24) ∧ (0 ≤ r ∧ r ≤ 3) ∧ 0 ≤ doy ∧
      (doy ≤ 364 ∨ doy = 365 ∧ r = 3 ∧ (q = 24 → c = 3)) ∧
        doe = 36524 * c + 1461 * q + 365 * r + doy := by
  obtain ⟨c, rest, hc, hrest, hdoe⟩ : ∃ c rest : ℤ, (0 ≤ c ∧ c ≤ 3) ∧
      (0 ≤ rest ∧ (rest ≤ 36523 ∨ rest = 36524 ∧ c = 3)) ∧ doe = 36524 * c + rest := by
    by_cases hlast : doe = 146096
    · exact ⟨3, 36524, by omega, by omega, by omega⟩
    · exact ⟨doe / 36524, doe % 36524, by omega, by omega, by omega⟩
  obtain ⟨q, rest', hq, hrest', hsplit⟩ : ∃ q rest' : ℤ, (0 ≤ q ∧ q ≤ 24) ∧
      (0 ≤ rest' ∧ (rest' ≤ 1459 ∨ rest' = 1460 ∧ (q = 24 → c = 3))) ∧ rest = 1461 * q + rest' :=
    ⟨rest / 1461, rest % 1461, by omega, by omega, by omega⟩
  by_cases hlast : rest' = 1460
  · exact ⟨c, q, 3, 365, hc, hq, by omega, by omega, by omega, by omega⟩
  · exact ⟨c, q, rest' / 365, rest' % 365, hc, hq, by omega, by omega, by omega, by omega⟩


/-- A day of the year, counted from March, is a day of a month. -/
theorem civilDay_of_dayOfYear {year doy : ℤ} (hdoy : 0 ≤ doy ∧ doy ≤ 365)
    (hleap : doy = 365 → year % 4 = 0 ∧ (year % 100 ≠ 0 ∨ year % 400 = 0)) {mp : ℤ}
    (hmp : (5 * doy + 2) / 153 = mp) :
    CivilDay year (if mp < 10 then mp + 3 else mp - 9) (doy - (153 * mp + 2) / 5 + 1) := by
  have hmonths : 0 ≤ mp ∧ mp ≤ 11 := by omega
  obtain ⟨hfirst, hlast⟩ := hmonths
  constructor
  · split <;> omega
  · refine ⟨by omega, ?_⟩
    rw [daysInMonth]
    by_cases hfebruary : mp = 11
    · subst hfebruary
      have hmonth : (if (11 : ℤ) < 10 then (11 : ℤ) + 3 else 11 - 9) = 2 := by decide
      rw [hmonth, if_pos rfl]
      split
      · omega
      · rename_i hnot
        have hshort : doy ≠ 365 := fun h => hnot (hleap h)
        omega
    · interval_cases mp <;> norm_num <;> omega

/-- The day an instant falls on is a day of the calendar. -/
theorem civilDay_civilFromDays (days : ℤ) : CivilDay (civilFromDays days).1
    (civilFromDays days).2.1 (civilFromDays days).2.2 := by
  obtain ⟨era, hera⟩ : ∃ era, era = (days + 719468) / 146097 := ⟨_, rfl⟩
  obtain ⟨doe, hdoe⟩ : ∃ doe, doe = days + 719468 - era * 146097 := ⟨_, rfl⟩
  have hdoe' : 0 ≤ doe ∧ doe ≤ 146096 := by omega
  obtain ⟨c, q, r, doy, hc, hq, hr, hpos, hlast, hsplit⟩ := exists_yearOfEra hdoe'
  have hyoe := yearOfEra_eq hc hq hr hpos hlast hsplit
  have hcentury : (100 * c + 4 * q + r) / 100 = c := by
    clear hdoe' hsplit hlast hyoe
    omega
  have hquarter : (100 * c + 4 * q + r) / 4 = 25 * c + q := by
    clear hdoe' hsplit hlast hyoe hcentury
    omega
  have hdoy : doe - (365 * (100 * c + 4 * q + r) + (25 * c + q) - c) = doy := by
    clear hdoe' hlast hyoe hcentury hquarter
    omega
  simp only [civilFromDays, ← hera, ← hdoe, hyoe, hcentury, hquarter, hdoy]
  refine civilDay_of_dayOfYear (by omega) (fun hlong => ?_) rfl
  obtain ⟨-, hr3, hcycle⟩ := hlast.resolve_left (by omega)
  subst hlong hr3
  norm_num
  clear hyoe hcentury hquarter hdoy hsplit hdoe hdoe' hera hlast
  omega

/-- A day is the one its year, month and day name. -/
theorem daysFromCivil_civilFromDays (days : ℤ) : daysFromCivil (civilFromDays days).1
    (civilFromDays days).2.1 (civilFromDays days).2.2 = days := by
  obtain ⟨era, hera⟩ : ∃ era, era = (days + 719468) / 146097 := ⟨_, rfl⟩
  obtain ⟨doe, hdoe⟩ : ∃ doe, doe = days + 719468 - era * 146097 := ⟨_, rfl⟩
  have hdoe' : 0 ≤ doe ∧ doe ≤ 146096 := by omega
  obtain ⟨c, q, r, doy, hc, hq, hr, hpos, hlast, hsplit⟩ := exists_yearOfEra hdoe'
  have hyoe := yearOfEra_eq hc hq hr hpos hlast hsplit
  obtain ⟨yoe, hyoeEq, hyoePos, hyoeLt⟩ : ∃ yoe, yoe = 100 * c + 4 * q + r ∧ 0 ≤ yoe ∧ yoe ≤ 399 :=
    ⟨_, rfl, by omega, by omega⟩
  have hparts : yoe / 4 = 25 * c + q ∧ yoe / 100 = c := by
    clear hyoe hsplit hlast
    omega
  have hdoyEq : doe - (365 * yoe + yoe / 4 - yoe / 100) = doy := by
    rw [hparts.1, hparts.2]
    omega
  obtain ⟨mp, hmp, hfirst, hlastMonth⟩ : ∃ mp, mp = (5 * doy + 2) / 153 ∧ 0 ≤ mp ∧ mp ≤ 11 :=
    ⟨_, rfl, by omega, by omega⟩
  rw [← hyoeEq] at hyoe
  simp only [civilFromDays, ← hera, ← hdoe, hyoe, hdoyEq, ← hmp]
  -- the year counted from March, and its month
  obtain ⟨month, hmonth, hback, hback'⟩ : ∃ month, month = (if mp < 10 then mp + 3 else mp - 9) ∧
      (month + 9) % 12 = mp ∧ (month ≤ 2 ↔ ¬ mp < 10) := by
    refine ⟨_, rfl, ?_, ?_⟩ <;> split <;> omega
  rw [← hmonth]
  have hyear : (if month ≤ 2 then yoe + era * 400 + (if month ≤ 2 then 1 else 0) - 1
      else yoe + era * 400 + (if month ≤ 2 then 1 else 0)) = yoe + era * 400 := by
    split <;> omega
  have hera' : (yoe + era * 400) / 400 = era := by omega
  have hyoe' : yoe + era * 400 - era * 400 = yoe := by omega
  simp only [daysFromCivil, hyear, hera', hyoe', hback]
  clear hyear hera' hyoe' hback hback' hmonth hyoe
  omega
/-- The first of a month comes after the years before it, and within the era of its year. -/
theorem daysFromCivil_bounds {year month : ℤ} (hyear : 1 ≤ year) :
    365 * (year - 1) - 719468 ≤ daysFromCivil year month 1 ∧
      daysFromCivil year month 1 < 146097 * (year / 400 + 1) - 719468 := by
  obtain ⟨y, hy, hyear', hera⟩ : ∃ y, y = (if month ≤ 2 then year - 1 else year) ∧
      (0 ≤ y ∧ year - 1 ≤ y) ∧ y / 400 ≤ year / 400 := by
    refine ⟨_, rfl, ?_⟩
    split <;> omega
  obtain ⟨mp, hmp, hfirst, hlast⟩ : ∃ mp, mp = (month + 9) % 12 ∧ 0 ≤ mp ∧ mp ≤ 11 :=
    ⟨_, rfl, by omega, by omega⟩
  obtain ⟨yoe, hyoe, hpos, hlt⟩ : ∃ yoe, yoe = y - y / 400 * 400 ∧ 0 ≤ yoe ∧ yoe ≤ 399 :=
    ⟨_, rfl, by omega, by omega⟩
  have hdoe : yoe * 365 ≤ yoe * 365 + yoe / 4 - yoe / 100 + ((153 * mp + 2) / 5 + 1 - 1) ∧
      yoe * 365 + yoe / 4 - yoe / 100 + ((153 * mp + 2) / 5 + 1 - 1) < 146097 := by
    clear hyoe hera hyear' hyear hmp hy
    omega
  simp only [daysFromCivil, ← hy, ← hmp, ← hyoe]
  clear hmp hy
  omega

/-- The year of a day lies in its era, or is the first of the next. -/
theorem era_le_civilFromDays (days : ℤ) :
    400 * ((days + 719468) / 146097) ≤ (civilFromDays days).1 := by
  obtain ⟨era, hera⟩ : ∃ era, era = (days + 719468) / 146097 := ⟨_, rfl⟩
  obtain ⟨doe, hdoe⟩ : ∃ doe, doe = days + 719468 - era * 146097 := ⟨_, rfl⟩
  have hdoe' : 0 ≤ doe ∧ doe ≤ 146096 := by omega
  obtain ⟨c, q, r, doy, hc, hq, hr, hpos, hlast, hsplit⟩ := exists_yearOfEra hdoe'
  simp only [civilFromDays, ← hera, ← hdoe, yearOfEra_eq hc hq hr hpos hlast hsplit]
  clear hsplit hlast hdoe' hdoe hera
  split <;> omega

theorem civilFromDays_le_era (days : ℤ) :
    (civilFromDays days).1 ≤ 400 * ((days + 719468) / 146097) + 400 := by
  obtain ⟨era, hera⟩ : ∃ era, era = (days + 719468) / 146097 := ⟨_, rfl⟩
  obtain ⟨doe, hdoe⟩ : ∃ doe, doe = days + 719468 - era * 146097 := ⟨_, rfl⟩
  have hdoe' : 0 ≤ doe ∧ doe ≤ 146096 := by omega
  obtain ⟨c, q, r, doy, hc, hq, hr, hpos, hlast, hsplit⟩ := exists_yearOfEra hdoe'
  simp only [civilFromDays, ← hera, ← hdoe, yearOfEra_eq hc hq hr hpos hlast hsplit]
  clear hsplit hlast hdoe' hdoe hera
  split <;> omega

/-! ## Months -/

/-- The first day of a month, the months counted from the year 0. -/
def monthStart (index : ℤ) : ℤ := daysFromCivil (index / 12) (index % 12 + 1) 1

/-- How many days it has. -/
def monthLength (index : ℤ) : ℤ := daysInMonth (index / 12) (index % 12 + 1)

/-- The days of the years before, and of the months before. -/
theorem daysFromCivil_eq (year month day : ℤ) : daysFromCivil year month day =
    365 * (if month ≤ 2 then year - 1 else year) + (if month ≤ 2 then year - 1 else year) / 4 -
      (if month ≤ 2 then year - 1 else year) / 100 + (if month ≤ 2 then year - 1 else year) / 400 +
        (153 * ((month + 9) % 12) + 2) / 5 + day - 719469 := by
  obtain ⟨y, hy⟩ : ∃ y, y = if month ≤ 2 then year - 1 else year := ⟨_, rfl⟩
  simp only [daysFromCivil, ← hy]
  omega

/-- A day is counted from the first of its month. -/
theorem daysFromCivil_eq_monthStart {year month : ℤ} (hmonth : 1 ≤ month ∧ month ≤ 12) (day : ℤ) :
    daysFromCivil year month day = monthStart (12 * year + (month - 1)) + (day - 1) := by
  have hyear : (12 * year + (month - 1)) / 12 = year := by omega
  have hindex : (12 * year + (month - 1)) % 12 + 1 = month := by omega
  rw [monthStart, hyear, hindex, daysFromCivil_eq, daysFromCivil_eq year month 1]
  omega

/-- A month begins where the month before it ends. -/
theorem monthStart_succ (index : ℤ) : monthStart (index + 1) = monthStart index + monthLength index := by
  obtain ⟨year, month, hindex, hfirst, hlast⟩ : ∃ year month : ℤ, index = 12 * year + month ∧
      0 ≤ month ∧ month ≤ 11 := ⟨index / 12, index % 12, by omega, by omega, by omega⟩
  subst hindex
  have hyear : (12 * year + month) / 12 = year := by omega
  have hmonth : (12 * year + month) % 12 = month := by omega
  rw [monthStart, monthStart, monthLength, hyear, hmonth, daysFromCivil_eq, daysFromCivil_eq year,
    daysInMonth]
  by_cases hdecember : month = 11
  · subst hdecember
    have hnext : (12 * year + 11 + 1) / 12 = year + 1 := by omega
    have hjanuary : (12 * year + 11 + 1) % 12 = 0 := by omega
    rw [hnext, hjanuary]
    norm_num
    omega
  · have hnext : (12 * year + month + 1) / 12 = year := by omega
    have hmonth' : (12 * year + month + 1) % 12 = month + 1 := by omega
    rw [hnext, hmonth']
    replace hlast : month ≤ 10 := by omega
    clear hdecember hyear hmonth hnext hmonth'
    interval_cases month <;> norm_num
    all_goals omega

theorem monthLength_pos (index : ℤ) : 0 < monthLength index := by
  rw [monthLength, daysInMonth]
  split_ifs <;> omega

theorem monthStart_lt_iff {index index' : ℤ} :
    monthStart index < monthStart index' ↔ index < index' := by
  have hmono : StrictMono monthStart := strictMono_int_of_lt_succ fun index => by
    have hpos := monthLength_pos index
    rw [monthStart_succ]
    omega
  exact hmono.lt_iff_lt

theorem monthStart_mono {index index' : ℤ} (h : index ≤ index') :
    monthStart index ≤ monthStart index' := by
  rcases h.lt_or_eq with hlt | rfl
  · exact (monthStart_lt_iff.mpr hlt).le
  · exact le_refl _

/-- A day lies in its month. -/
theorem CivilDay.mem_month {year month day : ℤ} (h : CivilDay year month day) :
    monthStart (12 * year + (month - 1)) ≤ daysFromCivil year month day ∧
      daysFromCivil year month day < monthStart (12 * year + (month - 1) + 1) := by
  have hyear : (12 * year + (month - 1)) / 12 = year := by
    have := h.inYear
    omega
  have hindex : (12 * year + (month - 1)) % 12 + 1 = month := by
    have := h.inYear
    omega
  rw [daysFromCivil_eq_monthStart h.inYear, monthStart_succ, monthLength, hyear, hindex]
  have hday := h.inMonth
  omega

/-- A later day lies in no earlier month. -/
theorem CivilDay.month_le {year month day year' month' day' : ℤ} (h : CivilDay year month day)
    (h' : CivilDay year' month' day')
    (hle : daysFromCivil year month day ≤ daysFromCivil year' month' day') :
    12 * year + (month - 1) ≤ 12 * year' + (month' - 1) := by
  by_contra hlt
  have hstart : monthStart (12 * year' + (month' - 1) + 1) ≤ monthStart (12 * year + (month - 1)) :=
    monthStart_mono (by omega)
  have hmem := h.mem_month.1
  have hmem' := h'.mem_month.2
  omega

/-! ## `Date.UTC` -/

/-- The day `Date.UTC` comes to. -/
def dayUTC (year monthIndex day : ℤ) : ℤ :=
  let y := if 0 ≤ year ∧ year ≤ 99 then 1900 + year else year
  daysFromCivil (y + monthIndex / 12) (monthIndex % 12 + 1) 1 + (day - 1)

theorem dateUTC_eq (year monthIndex day : ℤ) :
    dateUTC year monthIndex day = dayUTC year monthIndex day * dayMilliseconds := rfl

theorem dayUTC_of_civilDay {year month day : ℤ} (h : CivilDay year month day) (hyear : 100 ≤ year) :
    dayUTC year (month - 1) day = daysFromCivil year month day := by
  obtain ⟨hm, hm'⟩ := h.inYear
  have hmonth : (month - 1) % 12 + 1 = month := by omega
  have hcarry : (month - 1) / 12 = 0 := by omega
  simp only [dayUTC, hmonth, hcarry, daysFromCivil]
  rw [if_neg (by omega : ¬ (0 ≤ year ∧ year ≤ 99))]
  omega

/-- A month and a day out of range roll over. -/
theorem dayUTC_eq_monthStart {year : ℤ} (hyear : 100 ≤ year) (monthIndex day : ℤ) :
    dayUTC year monthIndex day = monthStart (12 * year + monthIndex) + (day - 1) := by
  have hdiv : (12 * year + monthIndex) / 12 = year + monthIndex / 12 := by omega
  have hmod : (12 * year + monthIndex) % 12 = monthIndex % 12 := by omega
  rw [dayUTC, if_neg (by omega : ¬ (0 ≤ year ∧ year ≤ 99)), monthStart, hdiv, hmod]

/-- Where the day of a date of four, two and two digits can lie. -/
theorem dayUTC_bounds {year month day : ℤ} (hyear : 0 ≤ year ∧ year ≤ 9999)
    (hmonth : 0 ≤ month ∧ month ≤ 99) (hday : 0 ≤ day ∧ day ≤ 99) :
    -719468 ≤ dayUTC year (month - 1) day ∧ dayUTC year (month - 1) day ≤ 100000000 ∧
      (year ≤ 99 → -135081 ≤ dayUTC year (month - 1) day) := by
  obtain ⟨y, hy, hfirst, hlast⟩ : ∃ y, y = (if 0 ≤ year ∧ year ≤ 99 then 1900 + year else year) ∧
      100 ≤ y ∧ y ≤ 9999 ∧ (year ≤ 99 → 1900 ≤ y) := by
    refine ⟨_, rfl, ?_⟩
    split <;> omega
  obtain ⟨hlow, hhigh⟩ := @daysFromCivil_bounds (y + (month - 1) / 12)
    ((month - 1) % 12 + 1) (by omega)
  simp only [dayUTC, ← hy]
  omega

/-- No date comes to a day of the first century. -/
theorem hundred_le_dayUTC {year month day : ℤ} (hyear : 0 ≤ year ∧ year ≤ 9999)
    (hmonth : 0 ≤ month ∧ month ≤ 99) (hday : 0 ≤ day ∧ day ≤ 99) (hearly : year ≤ 99) :
    100 ≤ (civilFromDays (dayUTC year (month - 1) day)).1 := by
  obtain ⟨-, -, hlow⟩ := dayUTC_bounds hyear hmonth hday
  have hera := era_le_civilFromDays (dayUTC year (month - 1) day)
  have hday := hlow hearly
  omega

end Js
