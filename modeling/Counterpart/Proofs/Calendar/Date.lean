import Mathlib.Tactic.Common
import Mathlib.Tactic.IntervalCases
import Counterpart.Calendar.Date

/-!
This module contains that a date exists as soon as the calendar has the day, for which the proleptic
Gregorian calendar of the standard library stands.
-/

namespace Counterpart.Calendar

open Std.Time

def HasDay (year : Int) (month day : Nat) : Prop :=
  ∃ date : PlainDate, date.year.toInt = year ∧ date.month.val = month ∧ date.day.val = day

theorem isLeap_toInt (year : Year.Offset) : isLeap year.toInt = year.isLeap := by
  unfold isLeap Year.Offset.isLeap
  rw [Bool.eq_iff_iff]
  simp only [Bool.and_eq_true, Bool.or_eq_true, beq_iff_eq, bne_iff_ne, decide_eq_true_eq, ne_eq,
    ← Int.dvd_iff_emod_eq_zero, ← Int.dvd_iff_tmod_eq_zero]

theorem days_eq_daysIn (year : Year.Offset) (month : Month.Ordinal)
    : (month.days year.isLeap).val = daysIn year.toInt month.val.toNat := by
  rw [← isLeap_toInt]
  rcases month with ⟨month, hfirst, hlast⟩
  unfold daysIn
  cases isLeap year.toInt <;> interval_cases month <;> rfl

theorem month_mem_of_daysIn {year : Int} {month : Nat} (h : 0 < daysIn year month)
    : 1 ≤ month ∧ month ≤ 12 := by
  unfold daysIn at h
  split at h
  . omega
  . split at h
    . omega
    . split at h
      . assumption
      . cases h

theorem daysIn_le (year : Int) (month : Nat) : daysIn year month ≤ 31 := by
  unfold daysIn
  repeat' split
  all_goals decide

theorem hasDay_iff {year : Int} {month day : Nat}
    : HasDay year month day ↔ 1 ≤ day ∧ day ≤ daysIn year month := by
  constructor
  . rintro ⟨date, rfl, hmonth, hday⟩
    have hvalid : date.day.val ≤ (date.month.days date.year.isLeap).val := date.valid
    have hfirst : 1 ≤ date.day.val := date.day.property.1
    rw [days_eq_daysIn, hmonth, hday, Int.toNat_natCast] at hvalid
    omega
  . rintro ⟨hfirst, hlast⟩
    have ⟨hmonth, hmonth'⟩ := month_mem_of_daysIn (Nat.lt_of_lt_of_le hfirst hlast)
    have hday' : day ≤ 31 := Nat.le_trans hlast (daysIn_le year month)
    let m : Month.Ordinal := ⟨month, by omega, by omega⟩
    let d : Day.Ordinal := ⟨day, by omega, by omega⟩
    have hvalid : d.val ≤ (m.days (Year.Offset.isLeap year)).val := by
      rw [days_eq_daysIn]
      exact Int.ofNat_le.2 hlast
    exact ⟨⟨year, m, d, hvalid⟩, rfl, rfl, rfl⟩

end Counterpart.Calendar
