import Mathlib.Algebra.Order.Ring.Int
import Mathlib.Order.SuccPred.IntervalSucc
import Mathlib.Tactic.IntervalCases
import Mathlib.Tactic.Linarith
import Unshare.Time.Calendar

namespace Unshare.Time

-- Every fourth year has a leap day, but of the hundreds only every fourth.
def leapDays (year : Nat) : Nat :=
  if year % 4 = 0 ∧ (year % 100 = 0 → year % 400 = 0) then 1 else 0

def daysInMonth (year : Nat) : Nat → Nat
  | 2 => 28 + leapDays year
  | 4 | 6 | 9 | 11 => 30
  | _ => 31

-- The days from the first of January of the year 0 to that of another year.
def daysBeforeYear : Nat → Nat
  | 0 => 0
  | year + 1 => daysBeforeYear year + (365 + leapDays year)

-- The days from the first of January to the first of a month; January is the month 1.
def daysBeforeMonth (year : Nat) : Nat → Nat
  | 0 | 1 => 0
  | month + 2 => daysBeforeMonth year (month + 1) + daysInMonth year (month + 1)

-- The day of a date, counted from the first of January 1970.
def dayNumber (year month day : Nat) : Int :=
  (daysBeforeYear year + daysBeforeMonth year month + day : Nat) - (daysBeforeYear 1970 + 1 : Nat)

def IsDate (year month day : Nat) : Prop :=
  (1 ≤ month ∧ month ≤ 12) ∧ 1 ≤ day ∧ day ≤ daysInMonth year month

theorem leapDays_le_one (year : Nat) : leapDays year ≤ 1 := by
  unfold leapDays
  split <;> decide

theorem daysInMonth_le (year month : Nat) : daysInMonth year month ≤ 31 := by
  have hleap := leapDays_le_one year
  unfold daysInMonth
  split <;> omega

theorem leapDays_add (year : Nat) :
    leapDays year + (year + 3) / 4 + (year + 100) / 100 + (year + 399) / 400 =
      (year + 4) / 4 + (year + 99) / 100 + (year + 400) / 400 := by
  have hfour : (year + 4) / 4 = (year + 3) / 4 + if year % 4 = 0 then 1 else 0 := by
    split <;> omega
  have hhundred : (year + 100) / 100 = (year + 99) / 100 + if year % 100 = 0 then 1 else 0 := by
    split <;> omega
  have hera : (year + 400) / 400 = (year + 399) / 400 + if year % 400 = 0 then 1 else 0 := by
    split <;> omega
  rw [hfour, hhundred, hera, leapDays]
  by_cases h400 : year % 400 = 0
  · have h100 : year % 100 = 0 := by omega
    have h4 : year % 4 = 0 := by omega
    simp only [h4, h100, h400, implies_true, and_self, if_true]
    omega
  · by_cases h100 : year % 100 = 0
    · have h4 : year % 4 = 0 := by omega
      simp only [h4, h100, h400, true_implies, and_false, if_true, if_false]
      omega
    · by_cases h4 : year % 4 = 0
      · simp only [h4, h100, h400, false_implies, and_true, if_true, if_false]
        omega
      · simp only [h4, h100, h400, false_and, if_false]
        omega

theorem daysBeforeYear_add (year : Nat) : daysBeforeYear year + (year + 99) / 100 =
    365 * year + (year + 3) / 4 + (year + 399) / 400 := by
  induction year with
  | zero => rfl
  | succ year ih =>
    have hleap := leapDays_add year
    show daysBeforeYear year + (365 + leapDays year) + (year + 100) / 100 =
      365 * (year + 1) + (year + 4) / 4 + (year + 400) / 400
    linarith

theorem daysBeforeYear_epoch : daysBeforeYear 1970 = 719528 := by
  have h := daysBeforeYear_add 1970
  omega

-- From March on, the months have 31 and 30 days by turns, and July and August are both long.
theorem daysInMonth_add_three (year : Nat) {month : Nat} (h : month < 10) :
    daysInMonth year (month + 3) + (153 * month + 2) / 5 = (153 * month + 155) / 5 := by
  interval_cases month <;> rfl

theorem daysBeforeMonth_add_three (year : Nat) {month : Nat} (h : month < 10) :
    daysBeforeMonth year (month + 3) = 59 + leapDays year + (153 * month + 2) / 5 := by
  induction month with
  | zero =>
    show 0 + 31 + (28 + leapDays year) = 59 + leapDays year + 0
    omega
  | succ month ih =>
    have hlength := daysInMonth_add_three year (Nat.lt_of_succ_lt h)
    show daysBeforeMonth year (month + 3) + daysInMonth year (month + 3) =
      59 + leapDays year + (153 * month + 155) / 5
    rw [ih (Nat.lt_of_succ_lt h), Nat.add_assoc, Nat.add_comm ((153 * month + 2) / 5), hlength]

theorem yearOfEra_le_succ (day : Int) : yearOfEra day ≤ yearOfEra (day + 1) := by
  have hcycle : (day + 1) / 1460 ≤ day / 1460 + 1 := by omega
  have hcentury : day / 36524 ≤ (day + 1) / 36524 ∧ (day + 1) / 36524 ≤ day / 36524 + 1 := by omega
  have hera : ∀ d : Int, d / 146096 = d / 36524 / 4 := fun d => by omega
  unfold yearOfEra
  apply Int.ediv_le_ediv (by decide)
  rw [hera, hera]
  generalize day / 36524 = century, (day + 1) / 36524 = century' at hcentury ⊢
  generalize day / 1460 = cycle, (day + 1) / 1460 = cycle' at hcycle ⊢
  omega

theorem yearOfEra_mono {a b : Int} (h : a ≤ b) : yearOfEra a ≤ yearOfEra b :=
  monotone_int_of_le_succ yearOfEra_le_succ h

-- The year changes exactly where it starts. There are only four hundred places to look at.
theorem yearOfEra_startOfYear : ∀ year < 400, 0 < year →
    yearOfEra (startOfYear (year : Nat)) = year ∧
      yearOfEra (startOfYear (year : Nat) - 1) = year - 1 := by
  decide +kernel

-- The year never falls from one day to the next, so its first day and the one before it tell where
-- it is.
theorem le_yearOfEra_iff (day : Int) {year : Nat} (hpos : 0 < year) (hyear : year < 400) :
    (year : Int) ≤ yearOfEra day ↔ startOfYear year ≤ day := by
  obtain ⟨hfirst, hbefore⟩ := yearOfEra_startOfYear year hyear hpos
  constructor
  · intro hle
    by_contra hlt
    have hmono := yearOfEra_mono (show day ≤ startOfYear year - 1 by omega)
    omega
  · intro hle
    have hmono := yearOfEra_mono hle
    omega

-- The last of the four hundred years has a day more than its rule gives it.
theorem exists_yearOfEra {day : Int} (hday : 0 ≤ day) (hera : day < daysPerEra) :
    ∃ year : Nat, yearOfEra day = year ∧ year < 400 ∧ startOfYear year ≤ day ∧
      day < startOfYear (year + 1) + if year = 399 then 1 else 0 := by
  have hfirst : yearOfEra 0 = 0 := by decide
  have hlast : yearOfEra 146096 = 399 := by decide
  have hlow := yearOfEra_mono hday
  have hend : day ≤ 146096 := Int.le_sub_one_of_lt hera
  have hhigh := yearOfEra_mono hend
  obtain ⟨year, hyear⟩ := Int.eq_ofNat_of_zero_le (hfirst ▸ hlow)
  refine ⟨year, hyear, by omega, ?_, ?_⟩
  · rcases Nat.eq_zero_or_pos year with rfl | hpos
    · exact hday
    · exact (le_yearOfEra_iff day hpos (by omega)).mp hyear.ge
  · split
    · subst year
      exact hera
    · have hnext : ((year + 1 : Nat) : Int) ≤ yearOfEra day ↔ startOfYear (year + 1 : Nat) ≤ day :=
        le_yearOfEra_iff day (by omega) (by omega)
      push_cast at hnext
      omega

section

variable {era : Int} {year place : Nat}

-- The first of January of a year, against the first of March of the year before.
theorem daysBeforeYear_of_place (h : (year : Int) = era * 400 + place + 1) (hplace : place < 400) :
    (daysBeforeYear year : Int) = era * daysPerEra + startOfYear place + 366 := by
  have hbefore := daysBeforeYear_add year
  unfold daysPerEra startOfYear
  omega

-- The first of March of a year, against the first of January of the same year.
theorem march_of_place (h : (year : Int) = era * 400 + place) (hplace : place < 400) :
    era * daysPerEra + startOfYear place + 1 = daysBeforeYear year + leapDays year := by
  have hnext : ((year + 1 : Nat) : Int) = era * 400 + place + 1 := by omega
  have hjanuary := daysBeforeYear_of_place hnext hplace
  rw [daysBeforeYear] at hjanuary
  omega

-- Counted from March on, a year ends with the February of the next.
theorem length_of_place (h : (year : Int) = era * 400 + place + 1) (hplace : place < 400) :
    (startOfYear (place + 1) + if place = 399 then 1 else 0) =
      startOfYear place + 365 + leapDays year := by
  have hjanuary := daysBeforeYear_of_place h hplace
  by_cases hlast : place = 399
  · have hyear : (year : Int) = (era + 1) * 400 + (0 : Nat) := by omega
    have hmarch := march_of_place hyear (by omega)
    subst hlast
    unfold daysPerEra startOfYear at *
    simp only [if_true]
    omega
  · have hyear : (year : Int) = era * 400 + (place + 1 : Nat) := by omega
    have hmarch := march_of_place hyear (by omega)
    push_cast at hmarch
    rw [if_neg hlast]
    omega

end

-- The months of a year that starts with March, each with its days counted from zero.
theorem exists_month (days : Nat) (h : days ≤ 365) :
    ∃ month day : Nat, month < 12 ∧ (5 * days + 2) / 153 = month ∧
      days = (153 * month + 2) / 5 + day ∧ days < (153 * month + 155) / 5 :=
  ⟨(5 * days + 2) / 153, days - (153 * ((5 * days + 2) / 153) + 2) / 5, by omega, rfl, by omega,
    by omega⟩

theorem dateOfDay_eq {count era : Int} {place days month day : Nat}
    (hcount : (count + epochShift) / daysPerEra = era)
    (hrest : (count + epochShift) % daysPerEra = startOfYear place + days)
    (hplace : yearOfEra (startOfYear place + days) = place) (hmonth : (5 * days + 2) / 153 = month)
    (hlast : month < 12) (hday : days = (153 * month + 2) / 5 + day) :
    dateOfDay count =
      if month < 10 then ⟨era * 400 + place, month + 3, day + 1⟩
      else ⟨era * 400 + place + 1, month - 9, day + 1⟩ := by
  have hdays : (startOfYear place + days : Int) - startOfYear place = days := by omega
  have hmonth' : (5 * (days : Int) + 2) / 153 = month := by omega
  have hday' : (days : Int) - (153 * (month : Int) + 2) / 5 + 1 = day + 1 := by omega
  simp only [dateOfDay, hcount, hrest, hplace, hdays, hmonth', hday']
  by_cases hmarch : month < 10
  · have hcivil : ((month : Int) < 10) = True := eq_true (by omega)
    have hlate : ((month : Int) + 3 ≤ 2) = False := eq_false (by omega)
    simp only [hcivil, hlate, hmarch, if_true, if_false, Date.mk.injEq]
    omega
  · have hcivil : ((month : Int) < 10) = False := eq_false (by omega)
    have hearly : ((month : Int) - 9 ≤ 2) = True := eq_true (by omega)
    simp only [hcivil, hearly, hmarch, if_true, if_false, Date.mk.injEq]
    omega

section

variable {era : Int} {year place month day : Nat}

theorem isDate_of_march (hmonth : month < 10)
    (hday : (153 * month + 2) / 5 + day < (153 * month + 155) / 5) :
    IsDate year (month + 3) (day + 1) := by
  have hlength := daysInMonth_add_three year hmonth
  unfold IsDate
  omega

theorem isDate_of_january (hmonth : 10 ≤ month) (hlast : month < 12)
    (hday : (153 * month + 2) / 5 + day < (153 * month + 155) / 5)
    (hyear : (153 * month + 2) / 5 + day < 365 + leapDays year) :
    IsDate year (month - 9) (day + 1) := by
  obtain rfl | rfl : month = 10 ∨ month = 11 := by omega
  · show (1 ≤ 1 ∧ 1 ≤ 12) ∧ 1 ≤ day + 1 ∧ day + 1 ≤ 31
    omega
  · show (1 ≤ 2 ∧ 2 ≤ 12) ∧ 1 ≤ day + 1 ∧ day + 1 ≤ 28 + leapDays year
    omega

variable (day)

theorem dayNumber_of_march (h : (year : Int) = era * 400 + place) (hplace : place < 400)
    (hmonth : month < 10) :
    dayNumber year (month + 3) (day + 1) + epochShift =
      era * daysPerEra + (startOfYear place + ((153 * month + 2) / 5 + day : Nat)) := by
  have hmarch := march_of_place h hplace
  have hbefore := daysBeforeMonth_add_three year hmonth
  rw [dayNumber, hbefore, daysBeforeYear_epoch, epochShift]
  omega

theorem dayNumber_of_january (h : (year : Int) = era * 400 + place + 1) (hplace : place < 400)
    (hmonth : 10 ≤ month) (hlast : month < 12) :
    dayNumber year (month - 9) (day + 1) + epochShift =
      era * daysPerEra + (startOfYear place + ((153 * month + 2) / 5 + day : Nat)) := by
  have hjanuary := daysBeforeYear_of_place h hplace
  have hfirst : daysBeforeMonth year 1 = 0 := rfl
  have hsecond : daysBeforeMonth year 2 = 31 := rfl
  rw [dayNumber, daysBeforeYear_epoch, epochShift]
  obtain rfl | rfl : month = 10 ∨ month = 11 := by omega
  · rw [hfirst]
    omega
  · rw [hsecond]
    omega

end

-- Of the days before the first of March of the year 0, only those from its first of January on have
-- a date that is counted here.
theorem era_of_year_zero {era : Int} {place days : Nat} (hlast : place < 400)
    (hplace : yearOfEra (startOfYear place + days) = place)
    (hhigh : startOfYear place + days < daysPerEra)
    (h : -60 ≤ era * daysPerEra + (startOfYear place + days)) :
    0 ≤ era ∨ era = -1 ∧ place = 399 ∧ 306 ≤ days := by
  unfold daysPerEra at h hhigh
  by_cases hera : 0 ≤ era
  · exact .inl hera
  · obtain rfl : era = -1 := by omega
    have hfinal : ((399 : Nat) : Int) ≤ yearOfEra (startOfYear place + days) ↔ _ :=
      le_yearOfEra_iff _ (by decide) (by decide)
    have hstart : startOfYear (399 : Nat) = 145731 := by decide
    obtain rfl : place = 399 := by omega
    exact .inr ⟨rfl, rfl, by omega⟩

theorem exists_date_of_day {count : Int} (h : dayNumber 0 1 1 ≤ count) :
    ∃ year month day : Nat, dateOfDay count = ⟨year, month, day⟩ ∧ IsDate year month day ∧
      dayNumber year month day = count := by
  obtain ⟨era, hera⟩ : ∃ era, (count + epochShift) / daysPerEra = era := ⟨_, rfl⟩
  obtain ⟨rest, hrest⟩ : ∃ rest, (count + epochShift) % daysPerEra = rest := ⟨_, rfl⟩
  have hsplit : era * daysPerEra + rest = count + epochShift := by
    rw [← hera, ← hrest, mul_comm]
    exact Int.mul_ediv_add_emod _ _
  have hlow : 0 ≤ rest := hrest ▸ Int.emod_nonneg _ (by decide)
  have hhigh : rest < daysPerEra := hrest ▸ Int.emod_lt_of_pos _ (by decide)
  obtain ⟨place, hplace, hlast, hstart, hend⟩ := exists_yearOfEra hlow hhigh
  obtain ⟨days, hdays⟩ := Int.eq_ofNat_of_zero_le (Int.sub_nonneg.mpr hstart)
  obtain rfl : rest = startOfYear place + days := by omega
  have hzero : dayNumber 0 1 1 + epochShift = -60 := by
    rw [dayNumber, daysBeforeYear_epoch]
    decide
  have hfrom : 0 ≤ era ∨ era = -1 ∧ place = 399 ∧ 306 ≤ days :=
    era_of_year_zero hlast hplace hhigh (by omega)
  have hnonneg : 0 ≤ era * 400 + place + 1 := by omega
  obtain ⟨year, hyear⟩ := Int.eq_ofNat_of_zero_le hnonneg
  have hlength := length_of_place hyear.symm hlast
  have hleap := leapDays_le_one year
  obtain ⟨month, day, hmonth, hindex, hday, hin⟩ := exists_month days (by omega)
  have hdate := dateOfDay_eq hera hrest hplace hindex hmonth hday
  by_cases hmarch : month < 10
  · rw [if_pos hmarch] at hdate
    have hcivil : 0 ≤ era * 400 + place := by omega
    obtain ⟨civil, hcivil⟩ := Int.eq_ofNat_of_zero_le hcivil
    refine ⟨civil, month + 3, day + 1, ?_, ?_, ?_⟩
    · rw [hdate, hcivil]
    · exact isDate_of_march hmarch (by omega)
    · have hnumber := dayNumber_of_march day hcivil.symm hlast hmarch
      omega
  · rw [if_neg hmarch] at hdate
    have hwinter : 10 ≤ month := Nat.le_of_not_lt hmarch
    refine ⟨year, month - 9, day + 1, ?_, ?_, ?_⟩
    · rw [hdate, hyear]
    · exact isDate_of_january hwinter hmonth (by omega) (by omega)
    · have hnumber := dayNumber_of_january day hyear.symm hlast hwinter hmonth
      omega

theorem daysBeforeYear_mono {a b : Nat} (h : a ≤ b) : daysBeforeYear a ≤ daysBeforeYear b :=
  monotone_nat_of_le_succ (fun _ => Nat.le_add_right _ _) h

theorem daysBeforeMonth_mono (year : Nat) {a b : Nat} (h : a ≤ b) :
    daysBeforeMonth year a ≤ daysBeforeMonth year b := by
  refine monotone_nat_of_le_succ (fun month => ?_) h
  cases month with
  | zero => exact Nat.le_refl 0
  | succ month => exact Nat.le_add_right _ _

section

variable {year month day year' month' day' : Nat}

theorem daysBeforeMonth_add_le (h : IsDate year month day) (hlt : month < month') :
    daysBeforeMonth year month + day ≤ daysBeforeMonth year month' := by
  obtain ⟨⟨hfirst, -⟩, -, hday⟩ := h
  obtain ⟨before, rfl⟩ := Nat.exists_eq_add_of_le' hfirst
  have hnext : daysBeforeMonth year (before + 2) ≤ daysBeforeMonth year month' :=
    daysBeforeMonth_mono year hlt
  rw [daysBeforeMonth] at hnext
  omega

theorem daysBeforeMonth_add_le_year (h : IsDate year month day) :
    daysBeforeMonth year month + day ≤ 365 + leapDays year := by
  have hdecember : daysBeforeMonth year 12 = 59 + leapDays year + 275 :=
    daysBeforeMonth_add_three year (show 9 < 10 by decide)
  have hend : daysBeforeMonth year 13 = daysBeforeMonth year 12 + 31 := rfl
  have hbefore : daysBeforeMonth year month + day ≤ daysBeforeMonth year 13 :=
    daysBeforeMonth_add_le h (Nat.lt_succ_of_le h.1.2)
  omega

theorem dayNumber_lt_of_year_lt (h : IsDate year month day) (hday : 1 ≤ day') (hlt : year < year') :
    dayNumber year month day < dayNumber year' month' day' := by
  have hyear := daysBeforeMonth_add_le_year h
  have hnext : daysBeforeYear (year + 1) ≤ daysBeforeYear year' := daysBeforeYear_mono hlt
  rw [daysBeforeYear] at hnext
  rw [dayNumber, dayNumber]
  omega

theorem dayNumber_lt_of_month_lt (h : IsDate year month day) (hday : 1 ≤ day')
    (hlt : month < month') : dayNumber year month day < dayNumber year month' day' := by
  have hmonth := daysBeforeMonth_add_le h hlt
  rw [dayNumber, dayNumber]
  omega

theorem dayNumber_lt_of_precedes (h : IsDate year month day) (h' : IsDate year' month' day')
    (hlt : year < year' ∨ year = year' ∧ (month < month' ∨ month = month' ∧ day < day')) :
    dayNumber year month day < dayNumber year' month' day' := by
  rcases hlt with hyear | ⟨rfl, hmonth | ⟨rfl, hday⟩⟩
  · exact dayNumber_lt_of_year_lt h h'.2.1 hyear
  · exact dayNumber_lt_of_month_lt h h'.2.1 hmonth
  · rw [dayNumber, dayNumber]
    omega

-- Dates follow one another as their days do.
theorem dayNumber_lt_iff (h : IsDate year month day) (h' : IsDate year' month' day') :
    dayNumber year month day < dayNumber year' month' day' ↔
      year < year' ∨ year = year' ∧ (month < month' ∨ month = month' ∧ day < day') := by
  refine ⟨fun hlt => ?_, dayNumber_lt_of_precedes h h'⟩
  by_contra hnot
  obtain hafter | ⟨rfl, rfl, rfl⟩ : (year' < year ∨ year' = year ∧ (month' < month ∨
      month' = month ∧ day' < day)) ∨ year = year' ∧ month = month' ∧ day = day' := by omega
  · exact lt_asymm hlt (dayNumber_lt_of_precedes h' h hafter)
  · exact lt_irrefl _ hlt

-- No other date has as many days before it.
theorem dateOfDay_dayNumber (h : IsDate year month day) :
    dateOfDay (dayNumber year month day) = ⟨year, month, day⟩ := by
  have hnewYear : IsDate 0 1 1 := ⟨by decide, by decide, by decide⟩
  have hfirst : dayNumber 0 1 1 ≤ dayNumber year month day := by
    rw [← not_lt, dayNumber_lt_iff h hnewYear]
    obtain ⟨⟨hmonth, -⟩, hday, -⟩ := h
    omega
  obtain ⟨year', month', day', hdate, h', hnumber⟩ := exists_date_of_day hfirst
  have hbefore := (dayNumber_lt_iff h' h).not.mp hnumber.not_lt
  have hafter := (dayNumber_lt_iff h h').not.mp hnumber.symm.not_lt
  obtain ⟨rfl, rfl, rfl⟩ : year' = year ∧ month' = month ∧ day' = day := by omega
  exact hdate

end

end Unshare.Time
