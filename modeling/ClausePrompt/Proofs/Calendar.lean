import ClausePrompt.Calendar
import Mathlib.Algebra.Ring.Nat
import Mathlib.Order.Monotone.Basic

namespace ClausePrompt

namespace Date

-- Every fourth year is a leap year. Of the full centuries only every fourth one is.
def isLeap (year : Nat) : Bool := 4 ∣ year && (!(100 ∣ year : Bool) || 400 ∣ year)

def daysOfYear (year : Nat) : Nat := if isLeap year then 366 else 365

-- The days before the first of January of a year, counted from that of the year 0.
def newYear (year : Nat) : Nat :=
  365 * year + (year + 3) / 4 + (year + 399) / 400 - (year + 99) / 100

theorem daysOfYear_eq (year : Nat) :
    daysOfYear year + (if 100 ∣ year then 1 else 0) =
      365 + (if 4 ∣ year then 1 else 0) + if 400 ∣ year then 1 else 0 := by
  have hcentury : 100 ∣ year → 4 ∣ year := Nat.dvd_trans (by decide)
  have hfourth : 400 ∣ year → 100 ∣ year := Nat.dvd_trans (by decide)
  unfold daysOfYear isLeap
  by_cases hfour : 4 ∣ year <;> by_cases hhundred : 100 ∣ year <;> by_cases hfours : 400 ∣ year <;>
    simp_all

theorem newYear_succ_eq (year : Nat) :
    newYear (year + 1) + year / 100 = 366 + 365 * year + year / 4 + year / 400 := by
  unfold newYear
  omega

theorem newYear_succ (year : Nat) : newYear (year + 1) = newYear year + daysOfYear year := by
  cases year with
  | zero => decide
  | succ year =>
    have hthis := newYear_succ_eq year
    have hnext := newYear_succ_eq (year + 1)
    have hdays := daysOfYear_eq (year + 1)
    rw [Nat.succ_div, Nat.succ_div, Nat.succ_div] at hnext
    omega

theorem newYear_succ_bounds (year : Nat) :
    newYear year + 365 ≤ newYear (year + 1) ∧ newYear (year + 1) ≤ newYear year + 366 := by
  rw [newYear_succ]
  unfold daysOfYear
  split <;> omega

theorem newYear_strictMono : StrictMono newYear := by
  apply strictMono_nat_of_lt_succ
  intro year
  have hlength := newYear_succ_bounds year
  omega

section Era

variable {century fours rest : Nat} (hcentury : century ≤ 3) (hfours : fours ≤ 24)
  (hrest : 1461 * fours + rest < 36524) (hday : rest < 1461)
include hcentury hfours hrest hday

-- A day of an era lies in a century, in four years of it, and on a day of these. Late in the four
-- years one day more is taken off than before, which keeps their last day in the fourth year.
theorem yearOfEra_eq :
    let d := 36524 * century + 1461 * fours + rest
    (d - d / 1460 + d / 36524 - d / 146096) / 365 =
      100 * century + 4 * fours + if rest = 1460 then 3 else rest / 365 := by
  intro d
  have hcenturies : d / 36524 = century := by omega
  have hera : d / 146096 = 0 := by omega
  obtain ⟨late, hlate⟩ : ∃ late, late = (24 * century + fours + rest) / 1460 := ⟨_, rfl⟩
  have hoff : d / 1460 = 25 * century + fours + late := by omega
  have hends : late = 0 ∧ rest < 1460 ∨ late = 1 ∧ 1364 ≤ rest := by omega
  have hyears : d - (25 * century + fours + late) + century - 0 =
      365 * (100 * century + 4 * fours) + (rest - late) := by omega
  have hyear : (rest - late) / 365 = if rest = 1460 then 3 else rest / 365 := by
    split <;> omega
  rw [hcenturies, hera, hoff, hyears, Nat.mul_add_div (by decide), hyear]

theorem era_bounds {last : Nat} (hlast : last ≤ 3) (hlo : 365 * last ≤ rest)
    (hup : rest < 365 * (last + 1) ∨ last = 3) :
    let d := 36524 * century + 1461 * fours + rest
    let year := 100 * century + 4 * fours + last
    year < 400 ∧ 365 * year + year / 4 - year / 100 ≤ d ∧
      d < 365 * (year + 1) + (year + 1) / 4 - (year + 1) / 100 + (year + 1) / 400 := by
  intro d year
  have hfour : year / 4 = 25 * century + fours := by omega
  have hhundred : year / 100 = century := by omega
  refine ⟨by omega, by omega, ?_⟩
  by_cases hleap : last = 3
  · have hnextFour : (year + 1) / 4 = 25 * century + fours + 1 := by omega
    -- the fourth year is a leap year unless it ends a century, and the fourth century ends with one
    by_cases hends : fours = 24
    · have hnextHundred : (year + 1) / 100 = century + 1 := by omega
      omega
    · have hnextHundred : (year + 1) / 100 = century := by omega
      omega
  · have hnextFour : (year + 1) / 4 = 25 * century + fours := by omega
    have hnextHundred : (year + 1) / 100 = century := by omega
    omega

end Era

theorem yearOfEra_bounds {d : Nat} (hd : d < 146097) :
    let year := (d - d / 1460 + d / 36524 - d / 146096) / 365
    year < 400 ∧ 365 * year + year / 4 - year / 100 ≤ d ∧
      d < 365 * (year + 1) + (year + 1) / 4 - (year + 1) / 100 + (year + 1) / 400 := by
  by_cases hlast : d = 146096
  · subst hlast
    decide
  · obtain ⟨century, fours, rest, hcut, hcentury, hfours, hrest, hday⟩ :
        ∃ century fours rest, d = 36524 * century + 1461 * fours + rest ∧ century ≤ 3 ∧
          fours ≤ 24 ∧ 1461 * fours + rest < 36524 ∧ rest < 1461 :=
      ⟨d / 36524, d % 36524 / 1461, d % 36524 % 1461, by omega, by omega, by omega, by omega,
        by omega⟩
    subst hcut
    rw [yearOfEra_eq hcentury hfours hrest hday]
    apply era_bounds hcentury hfours hrest hday
    · split <;> omega
    · split <;> omega
    · split <;> omega

-- The beginning of the year after a year of an era, which is counted from March.
theorem newYear_of_era (era year : Nat) :
    newYear (era * 400 + year + 1) + year / 100 =
      366 + 146097 * era + 365 * year + year / 4 + year / 400 := by
  have hnew := newYear_succ_eq (era * 400 + year)
  have hfour : (era * 400 + year) / 4 = 100 * era + year / 4 := by omega
  have hhundred : (era * 400 + year) / 100 = 4 * era + year / 100 := by omega
  have hfours : (era * 400 + year) / 400 = era + year / 400 := by omega
  omega

-- The year of a day is the one that has begun and not ended. The count of the days begins with
-- March, sixty days after the first of January of the year 0.
theorem year_ofDayCount (n : Nat) :
    newYear (ofDayCount n).year ≤ n + 60 ∧ n + 60 < newYear ((ofDayCount n).year + 1) := by
  obtain ⟨hera, hlo, hup⟩ := yearOfEra_bounds (Nat.mod_lt n (by decide : 0 < 146097))
  unfold ofDayCount
  dsimp only
  generalize (n % 146097 - n % 146097 / 1460 + n % 146097 / 36524 - n % 146097 / 146096) / 365 =
    year at *
  have hcut : 146097 * (n / 146097) + n % 146097 = n := Nat.div_add_mod n 146097
  have hthis := newYear_succ_bounds (n / 146097 * 400 + year)
  have hnext := newYear_of_era (n / 146097) (year + 1)
  rw [← Nat.add_assoc] at hnext
  have hmarch := newYear_of_era (n / 146097) year
  obtain ⟨dayOfYear, hday⟩ :
      ∃ dayOfYear, dayOfYear = n % 146097 - (365 * year + year / 4 - year / 100) := ⟨_, rfl⟩
  rw [← hday]
  have hreached : n + 366 = newYear (n / 146097 * 400 + year + 1) + dayOfYear := by omega
  have hended : n + 366 < newYear (n / 146097 * 400 + year + 1 + 1) := by omega
  -- the last two months are those of the next year
  by_cases hmonth : (5 * dayOfYear + 2) / 153 < 10
  · rw [if_pos hmonth]
    dsimp only
    omega
  · rw [if_neg hmonth]
    dsimp only
    omega

theorem newYear_1970 : newYear 1970 = epoch + 60 := by decide

-- A year has begun on a day if as many days have passed since 1970 as from there to its beginning.
theorem le_year_iff {year n : Nat} :
    year ≤ (ofDaysSince1970 n).year ↔ newYear year ≤ newYear 1970 + n := by
  obtain ⟨hbegun, hended⟩ := year_ofDayCount (epoch + n)
  rw [newYear_1970]
  constructor
  · intro hle
    have hmono := newYear_strictMono.monotone hle
    rw [ofDaysSince1970] at hmono
    omega
  · intro hle
    have hlt : newYear year < newYear ((ofDayCount (epoch + n)).year + 1) := by omega
    exact Nat.lt_succ_iff.mp (newYear_strictMono.lt_iff_lt.mp hlt)

end Date

namespace Instant

-- What is rounded is moved by half a unit at most.
theorem roundDiv_bounds (n : Nat) {d : Nat} (hd : 0 < d) :
    2 * n ≤ 2 * (d * roundDiv n d) + d ∧ 2 * (d * roundDiv n d) ≤ 2 * n + d := by
  have hcut := Nat.div_add_mod n d
  have hmod := Nat.mod_lt n hd
  unfold roundDiv
  dsimp only
  cases hcompare : compare (2 * (n % d)) d with
  | lt =>
    have hlt := Nat.compare_eq_lt.mp hcompare
    dsimp only
    omega
  | gt =>
    have hgt := Nat.compare_eq_gt.mp hcompare
    dsimp only
    rw [Nat.mul_succ]
    omega
  | eq =>
    have heq := Nat.compare_eq_eq.mp hcompare
    dsimp only
    split
    · omega
    · rw [Nat.mul_succ]
      omega

-- The milliseconds of an identifier have at most 48 binary digits.
theorem le_places {millis : Nat} (h : millis < 2 ^ 48) : 14 ≤ places millis := by
  have hsmall : millis / 1000 < 2 ^ 39 := by omega
  have hlog : (millis / 1000).log2 < 39 := by
    by_cases hzero : millis / 1000 = 0
    · rw [hzero]
      decide
    · exact (Nat.log2_lt hzero).mpr hsmall
  unfold places
  omega

-- A rounding that is finer than a millisecond stays within the second, and so does the rounding to
-- microseconds after it.
theorem roundDiv_second (millis : Nat) {unit : Nat} (hunit : 2 ^ 14 ≤ unit) :
    roundDiv (millis * unit) 1000 / unit = millis / 1000 ∧
      roundDiv (roundDiv (millis * unit) 1000 % unit * 1000000) unit < 1000000 := by
  obtain ⟨hlo, hup⟩ := roundDiv_bounds (millis * unit) (by decide : 0 < 1000)
  generalize roundDiv (millis * unit) 1000 = binary at *
  have hcut : millis * unit = 1000 * (millis / 1000 * unit) + millis % 1000 * unit := by
    calc millis * unit = (1000 * (millis / 1000) + millis % 1000) * unit := by
          rw [Nat.div_add_mod]
      _ = 1000 * (millis / 1000 * unit) + millis % 1000 * unit := by
          rw [Nat.add_mul, Nat.mul_assoc]
  have hrest : millis % 1000 * unit ≤ 999 * unit := Nat.mul_le_mul_right unit (by omega)
  have hseconds : binary / unit = millis / 1000 := by
    apply Nat.div_eq_of_lt_le
    · omega
    · rw [Nat.succ_mul]
      omega
  have hpart : millis / 1000 * unit + binary % unit = binary := by
    rw [← hseconds]
    exact Nat.div_add_mod' binary unit
  obtain ⟨-, hfraction⟩ := roundDiv_bounds (binary % unit * 1000000) (by omega : 0 < unit)
  refine ⟨hseconds, ?_⟩
  by_contra hlarge
  have hmul := Nat.mul_le_mul_left unit (Nat.not_lt.mp hlarge)
  omega

theorem ofMillis_bounds {millis : Nat} (h : millis < 2 ^ 48) :
    (ofMillis millis).seconds = millis / 1000 ∧ (ofMillis millis).micros < 1000000 := by
  have hunit : 2 ^ 14 ≤ 2 ^ places millis := Nat.pow_le_pow_right (by decide) (le_places h)
  obtain ⟨hseconds, hmicros⟩ := roundDiv_second millis hunit
  unfold ofMillis
  simp only [Nat.pow_eq]
  rw [if_pos hmicros]
  exact ⟨hseconds, hmicros⟩

-- The seconds from 1970 to the end of the calendar.
def ending : Nat := (Date.newYear (lastYear + 1) - Date.newYear 1970) * 86400

theorem lastYear_lt_iff {instant : Instant} :
    lastYear < instant.date.year ↔ ending ≤ instant.seconds := by
  have hdays : ∀ last first seconds : Nat,
      last ≤ first + seconds / 86400 ↔ (last - first) * 86400 ≤ seconds := by omega
  rw [Nat.lt_iff_add_one_le]
  exact Date.le_year_iff.trans (hdays _ _ instant.seconds)

example : ending = 253402300800 := by decide

end Instant

end ClausePrompt
