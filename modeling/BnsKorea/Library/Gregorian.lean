import Mathlib.Logic.Function.Iterate

/-!
# Gregorian dates

Dates with the lengths of their months, the next date, and the number of a date:
one more for every next date.
-/

namespace BnsKorea
namespace Library
namespace Gregorian

def IsLeap (y : Nat) : Prop :=
  y % 400 = 0 ∨ y % 100 ≠ 0 ∧ y % 4 = 0

instance (y : Nat) : Decidable (IsLeap y) :=
  inferInstanceAs (Decidable (_ ∨ _))

def commonLength (m : Nat) : Nat :=
  match m with
  | 2 => 28
  | 4 | 6 | 9 | 11 => 30
  | _ => 31

def monthLength (y m : Nat) : Nat :=
  if m = 2 ∧ IsLeap y then 29 else commonLength m

structure Date where
  year : Nat
  month : Nat
  day : Nat
  month_pos : 1 ≤ month := by decide
  month_le : month ≤ 12 := by decide
  day_pos : 1 ≤ day := by decide
  day_le : day ≤ monthLength year month := by decide
deriving DecidableEq

theorem monthLength_pos (y m : Nat) : 1 ≤ monthLength y m := by
  unfold monthLength commonLength
  split
  · decide
  · split <;> decide

namespace Date

/-- The first of January. -/
def newYear (y : Nat) : Date where
  year := y
  month := 1
  day := 1
  day_le := monthLength_pos y 1

def next (d : Date) : Date :=
  if hday : d.day < monthLength d.year d.month then
    { d with day := d.day + 1, day_pos := Nat.le_add_left 1 d.day, day_le := hday }
  else if hmonth : d.month < 12 then
    { d with
      month := d.month + 1
      day := 1
      month_pos := Nat.le_add_left 1 d.month
      month_le := hmonth
      day_pos := Nat.le_refl 1
      day_le := monthLength_pos d.year (d.month + 1) }
  else
    newYear (d.year + 1)

def later (n : Nat) (d : Date) : Date :=
  next^[n] d

end Date

/-!
## The number of a date
-/

def daysBefore (y : Nat) : Nat -> Nat
  | 0 => 0
  | 1 => 0
  | m + 2 => daysBefore y (m + 1) + monthLength y (m + 1)

def leapsBefore (y : Nat) : Nat :=
  (y + 3) / 4 + (y + 399) / 400 - (y + 99) / 100

theorem leapsBefore_succ (y : Nat) :
    leapsBefore (y + 1) = leapsBefore y + if IsLeap y then 1 else 0 := by
  unfold leapsBefore
  by_cases hleap : IsLeap y
  · rw [if_pos hleap]
    unfold IsLeap at hleap
    omega
  · rw [if_neg hleap]
    unfold IsLeap at hleap
    omega

theorem daysBefore_end (y : Nat) :
    daysBefore y 12 + monthLength y 12 = 365 + if IsLeap y then 1 else 0 := by
  by_cases hleap : IsLeap y <;> simp [daysBefore, monthLength, commonLength, hleap]

namespace Date

def number (d : Date) : Nat :=
  365 * d.year + leapsBefore d.year + daysBefore d.year d.month + d.day

theorem number_next (d : Date) : d.next.number = d.number + 1 := by
  have hpos := d.month_pos
  have hle := d.day_le
  unfold next
  split
  · rfl
  · rename_i hday
    split
    · have hbefore : daysBefore d.year (d.month + 1) =
          daysBefore d.year d.month + monthLength d.year d.month := by
        rcases Nat.exists_eq_add_of_le' hpos with ⟨m, hm⟩
        rw [hm, daysBefore]
      show 365 * d.year + leapsBefore d.year + daysBefore d.year (d.month + 1) + 1 = _
      rw [hbefore, number]
      omega
    · rename_i hmonth
      have hlast : d.month = 12 := Nat.le_antisymm d.month_le (Nat.not_lt.mp hmonth)
      have hend := daysBefore_end d.year
      rw [hlast] at hday hle
      show 365 * (d.year + 1) + leapsBefore (d.year + 1) + 0 + 1 = _
      rw [leapsBefore_succ, number, hlast]
      omega

theorem number_later (n : Nat) (d : Date) : (d.later n).number = d.number + n := by
  induction n with
  | zero => rfl
  | succ n ih =>
      rw [later, Function.iterate_succ_apply', number_next, ← later, ih, Nat.add_assoc]

end Date

end Gregorian
end Library
end BnsKorea
