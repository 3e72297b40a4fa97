import Mathlib.Algebra.Group.Nat.Defs
import BnsKorea.Common.ServerCommon
import BnsKorea.Library.Gregorian

/-!
# Adding days to a date

`AddDay` makes a number of the date, adds the days, and takes the number apart again:
first the years, in a loop, then the months, by a table of the days in front of them.
The table is that of a common year, and the number counts the day of a leap year from
its first of January on.
-/

namespace BnsKorea
namespace Game

open Library Gregorian

abbrev WORD := UInt16

/-- `SYSTEMTIME`. -/
structure SystemTime where
  wYear : WORD
  wMonth : WORD
  wDayOfWeek : WORD
  wDay : WORD
  wHour : WORD
  wMinute : WORD
  wSecond : WORD
  wMilliseconds : WORD
deriving DecidableEq

namespace CBnsGameFun

/-- On which day of the year a month begins; month 0 is not used. -/
def daysInEveryMonth (wMonth : Nat) : UINT :=
  [0, 0, 31, 59, 90, 120, 151, 181, 212, 243, 273, 304, 334].getD wMonth 0

def fnGetDay (SysTime : SystemTime) : Option UINT :=
  if SysTime.wMonth.toNat < 13 then
    let wYear := SysTime.wYear.toUInt32
    some (wYear / 100 * 24 + wYear / 400 + wYear % 100 / 4 + wYear * 365 +
      daysInEveryMonth SysTime.wMonth.toNat + SysTime.wDay.toUInt32)
  else none

def isLeapYear (wYear : WORD) : Bool :=
  wYear % 400 = 0 || (wYear % 100 ≠ 0 && wYear % 4 = 0)

/-- The days that are left after a year of the loop. -/
def takeYear (wYear : WORD) (uDay : UINT) : UINT :=
  if isLeapYear wYear then uDay - 365 - 1 else uDay - 365

theorem takeYear_lt {wYear : WORD} {uDay : UINT} (h : uDay > 365) :
    (takeYear wYear uDay).toNat < uDay.toNat := by
  have hlt : 365 < uDay.toNat := UInt32.lt_iff_toNat_lt.mp h
  have hyear : (uDay - 365).toNat = uDay.toNat - 365 :=
    UInt32.toNat_sub_of_le _ _ (UInt32.le_of_lt h)
  unfold takeYear
  split
  · have hone : (1 : UINT) ≤ uDay - 365 := by
      rw [UInt32.le_iff_toNat_le, hyear]
      show 1 ≤ _
      omega
    rw [UInt32.toNat_sub_of_le _ _ hone, hyear]
    show _ - 1 < _
    omega
  · rw [hyear]
    omega

def yearLoop (wYear : WORD) (uDay : UINT) : WORD × UINT :=
  if uDay > 365 then yearLoop (wYear + 1) (takeYear (wYear + 1) uDay)
  else (wYear, uDay)
termination_by uDay.toNat
decreasing_by exact takeYear_lt ‹_›

def monthLoop (uDay : UINT) : Nat -> Nat
  | 0 => 0
  | wMonth + 1 =>
      if uDay < daysInEveryMonth (wMonth + 1) then monthLoop uDay wMonth
      else wMonth + 1

def fnGetTime (SysTime : SystemTime) (uDay : UINT) : SystemTime :=
  let years := yearLoop 0 uDay
  let wMonth := monthLoop years.2 12
  { SysTime with
    wYear := years.1
    wMonth := UInt16.ofNat wMonth
    wDay := (years.2 - daysInEveryMonth wMonth).toUInt16 }

def addDay (SysTime : SystemTime) (nDay : INT) : Option SystemTime :=
  (fnGetDay SysTime).map fun uDay => fnGetTime SysTime (uDay + nDay.toUInt32)

/-!
## The number
-/

def leaps (y : Nat) : Nat :=
  y / 100 * 24 + y / 400 + y % 100 / 4

def dayNumber (y m d : Nat) : Nat :=
  365 * y + leaps y + (daysInEveryMonth m).toNat + d

theorem leaps_succ (y : Nat) : leaps y + 1 = leapsBefore (y + 1) := by
  unfold leaps leapsBefore
  omega

theorem leaps_le (y : Nat) : leaps y ≤ y := by
  unfold leaps
  omega

theorem leaps_step (y : Nat) :
    leaps (y + 1) = leaps y + if IsLeap (y + 1) then 1 else 0 := by
  have hbefore := leapsBefore_succ (y + 1)
  rw [← leaps_succ, ← leaps_succ] at hbefore
  omega

def Early (d : Date) : Prop :=
  IsLeap d.year ∧ d.month ≤ 2

instance (d : Date) : Decidable (Early d) :=
  inferInstanceAs (Decidable (_ ∧ _))

theorem daysInEveryMonth_succ {m : Nat} (hpos : 1 ≤ m) (hlt : m < 12) :
    (daysInEveryMonth (m + 1)).toNat = (daysInEveryMonth m).toNat + commonLength m := by
  have hall : forall m, m < 12 -> 1 ≤ m ->
      (daysInEveryMonth (m + 1)).toNat =
        (daysInEveryMonth m).toNat + commonLength m := by decide
  exact hall m hlt hpos

theorem monthLength_eq (y m : Nat) :
    monthLength y m = commonLength m + if IsLeap y ∧ m = 2 then 1 else 0 := by
  unfold monthLength
  by_cases hfebruary : m = 2 ∧ IsLeap y
  · rw [if_pos hfebruary, if_pos hfebruary.symm, hfebruary.left]
    rfl
  · rw [if_neg hfebruary, if_neg fun h => hfebruary h.symm, Nat.add_zero]

theorem leapDay_step (y m : Nat) :
    ((if IsLeap y ∧ 3 ≤ m + 1 then 1 else 0) +
        if IsLeap y ∧ m + 1 = 2 then 1 else 0) =
      if IsLeap y ∧ 3 ≤ m + 2 then 1 else 0 := by
  by_cases hlate : IsLeap y ∧ 3 ≤ m + 2
  · rw [if_pos hlate]
    by_cases hfebruary : m + 1 = 2
    · rw [if_neg fun h => absurd h.right (by omega), if_pos ⟨hlate.left, hfebruary⟩]
    · rw [if_pos ⟨hlate.left, by omega⟩, if_neg fun h => hfebruary h.right]
  · rw [if_neg hlate, if_neg fun h => hlate ⟨h.left, Nat.le_succ_of_le h.right⟩, if_neg]
    exact fun h => hlate ⟨h.left, by omega⟩

theorem daysBefore_eq {y m : Nat} (hpos : 1 ≤ m) (hle : m ≤ 12) :
    daysBefore y m =
      (daysInEveryMonth m).toNat + if IsLeap y ∧ 3 ≤ m then 1 else 0 := by
  induction m with
  | zero => exact absurd hpos (Nat.not_succ_le_zero 0)
  | succ m ih =>
      cases m with
      | zero =>
          rw [if_neg fun h => absurd h.right (by decide)]
          rfl
      | succ m =>
          have hprevious := ih (Nat.succ_pos m) (Nat.le_of_succ_le hle)
          rw [daysBefore, hprevious, monthLength_eq, ← leapDay_step,
            daysInEveryMonth_succ (m := m + 1) (Nat.succ_pos m) hle]
          omega

theorem dayNumber_succ (d : Date) :
    dayNumber d.year d.month d.day + 1 = d.number + if Early d then 1 else 0 := by
  have hleaps := leaps_succ d.year
  rw [leapsBefore_succ] at hleaps
  rw [dayNumber, Date.number, daysBefore_eq d.month_pos d.month_le]
  by_cases hleap : IsLeap d.year
  · rw [if_pos hleap] at hleaps
    by_cases hmonth : d.month ≤ 2
    · rw [if_neg fun h => Nat.not_le.mpr h.right hmonth, if_pos ⟨hleap, hmonth⟩]
      omega
    · rw [if_pos ⟨hleap, Nat.not_le.mp hmonth⟩, if_neg fun h => hmonth h.right]
      omega
  · rw [if_neg hleap] at hleaps
    rw [if_neg fun h => hleap h.left, if_neg fun h => hleap h.left]
    omega

/-- What `SysTime` says of the date. -/
structure Shows (SysTime : SystemTime) (d : Date) : Prop where
  year : SysTime.wYear.toNat = d.year
  month : SysTime.wMonth.toNat = d.month
  day : SysTime.wDay.toNat = d.day

theorem daysInEveryMonth_le (m : Nat) : (daysInEveryMonth m).toNat ≤ 334 := by
  have hall : forall m, m < 13 -> (daysInEveryMonth m).toNat ≤ 334 := by decide
  by_cases hm : m < 13
  · exact hall m hm
  · rw [daysInEveryMonth, List.getD_eq_getElem?_getD,
      List.getElem?_eq_none (Nat.not_lt.mp hm)]
    decide

theorem fnGetDay_eq {SysTime : SystemTime} {d : Date} (h : Shows SysTime d) :
    exists uDay, fnGetDay SysTime = some uDay ∧
      uDay.toNat = dayNumber d.year d.month d.day := by
  have hyear := SysTime.wYear.toNat_lt
  have hday := SysTime.wDay.toNat_lt
  have hmonth : SysTime.wMonth.toNat < 13 := by
    rw [h.month]
    exact Nat.lt_succ_of_le d.month_le
  have htable := daysInEveryMonth_le SysTime.wMonth.toNat
  refine ⟨_, if_pos hmonth, ?_⟩
  rw [← h.year, ← h.month, ← h.day, dayNumber, leaps]
  simp only [UInt32.toNat_add, UInt32.toNat_mul, UInt32.toNat_div, UInt32.toNat_mod,
    UInt16.toNat_toUInt32, UInt32.toNat_ofNat, Nat.reducePow, Nat.reduceMod]
  omega

/-!
## The years
-/

theorem isLeapYear_iff (wYear : WORD) :
    isLeapYear wYear = true ↔ IsLeap wYear.toNat := by
  have hmod : forall k : WORD, wYear % k = 0 ↔ wYear.toNat % k.toNat = 0 := by
    intro k
    rw [← UInt16.toNat_inj, UInt16.toNat_mod]
    rfl
  rw [isLeapYear, Bool.or_eq_true, Bool.and_eq_true, decide_eq_true_iff,
    decide_eq_true_iff, decide_eq_true_iff, ne_eq, hmod, hmod, hmod]
  rfl

theorem takeYear_eq (wYear : WORD) {uDay : UINT} (h : 365 < uDay.toNat) :
    (takeYear wYear uDay).toNat + 365 + (if IsLeap wYear.toNat then 1 else 0) =
      uDay.toNat := by
  have hle : (365 : UINT) ≤ uDay := UInt32.le_iff_toNat_le.mpr (Nat.le_of_lt h)
  have hyear : (uDay - 365).toNat = uDay.toNat - 365 := UInt32.toNat_sub_of_le _ _ hle
  unfold takeYear
  by_cases hleap : IsLeap wYear.toNat
  · have hone : (1 : UINT) ≤ uDay - 365 := by
      rw [UInt32.le_iff_toNat_le, hyear]
      show 1 ≤ _
      omega
    rw [if_pos ((isLeapYear_iff wYear).mpr hleap), if_pos hleap,
      UInt32.toNat_sub_of_le _ _ hone, hyear]
    show _ - 1 + 365 + 1 = _
    omega
  · rw [if_neg (hleap ∘ (isLeapYear_iff wYear).mp), if_neg hleap, hyear]
    omega

theorem yearLoop_stop {wYear : WORD} {uDay : UINT} (h : uDay.toNat ≤ 365) :
    yearLoop wYear uDay = (wYear, uDay) := by
  rw [yearLoop, if_neg]
  exact fun hgt => Nat.not_lt.mpr h (UInt32.lt_iff_toNat_lt.mp hgt)

theorem yearLoop_turn {wYear : WORD} {uDay : UINT} (h : 365 < uDay.toNat) :
    yearLoop wYear uDay = yearLoop (wYear + 1) (takeYear (wYear + 1) uDay) := by
  rw [yearLoop, if_pos]
  exact UInt32.lt_iff_toNat_lt.mpr h

theorem toNat_nextYear {wYear : WORD} (h : wYear.toNat + 1 < 2 ^ 16) :
    (wYear + 1).toNat = wYear.toNat + 1 := by
  rw [UInt16.toNat_add]
  exact Nat.mod_eq_of_lt h

theorem yearLoop_reaches (k : Nat) {wYear : WORD} {uDay : UINT} {r : Nat}
    (hfits : wYear.toNat + k < 2 ^ 16)
    (hday : uDay.toNat + leaps wYear.toNat = 365 * k + leaps (wYear.toNat + k) + r)
    (hpos : 1 ≤ r) (hle : r ≤ 365) :
    (yearLoop wYear uDay).1.toNat = wYear.toNat + k ∧
      (yearLoop wYear uDay).2.toNat = r := by
  induction k generalizing wYear uDay with
  | zero =>
      have hr : uDay.toNat = r := by
        rw [Nat.add_zero] at hday
        omega
      rw [yearLoop_stop (hr ▸ hle)]
      exact ⟨rfl, hr⟩
  | succ k ih =>
      have hnext : (wYear + 1).toNat = wYear.toNat + 1 := toNat_nextYear (by omega)
      have hstep := leaps_step wYear.toNat
      have hmono : leaps (wYear.toNat + 1) ≤ leaps (wYear.toNat + 1 + k) := by
        unfold leaps
        omega
      have hyears : wYear.toNat + (k + 1) = wYear.toNat + 1 + k := by omega
      rw [hyears] at hday hfits ⊢
      have hgt : 365 < uDay.toNat := by omega
      have htake := takeYear_eq (wYear + 1) hgt
      rw [hnext] at htake
      rw [yearLoop_turn hgt, ← hnext]
      refine ih (by rw [hnext]; exact hfits) ?_
      rw [hnext]
      omega

theorem yearLoop_keeps (wYear : WORD) (uDay : UINT) :
    (yearLoop wYear uDay).2.toNat ≤ 365 ∧
    exists k, (yearLoop wYear uDay).1 = wYear + UInt16.ofNat k ∧
      365 * k ≤ uDay.toNat ∧
      (wYear.toNat + k < 2 ^ 16 ->
        uDay.toNat + leaps wYear.toNat =
          365 * k + leaps (wYear.toNat + k) + (yearLoop wYear uDay).2.toNat) := by
  induction hn : uDay.toNat using Nat.strong_induction_on generalizing wYear uDay with
  | _ n ih =>
      by_cases hgt : 365 < uDay.toNat
      · have htake := takeYear_eq (wYear + 1) hgt
        rcases ih _ (by omega) (wYear + 1) (takeYear (wYear + 1) uDay) rfl with
          ⟨hleft, k, hyear, hle, hexact⟩
        refine ⟨by rw [yearLoop_turn hgt]; exact hleft, k + 1, ?_, by omega, ?_⟩
        · rw [yearLoop_turn hgt, hyear, UInt16.ofNat_add, UInt16.add_assoc,
            UInt16.add_comm 1]
          rfl
        · intro hfits
          have hnext : (wYear + 1).toNat = wYear.toNat + 1 := toNat_nextYear (by omega)
          have hstep := leaps_step wYear.toNat
          have hyears : wYear.toNat + (k + 1) = wYear.toNat + 1 + k := by omega
          rw [hnext] at hexact htake
          have hrest := hexact (by omega)
          rw [yearLoop_turn hgt, hyears]
          omega
      · rw [yearLoop_stop (Nat.not_lt.mp hgt)]
        refine ⟨Nat.not_lt.mp hgt, 0, ?_, by omega, fun _ => ?_⟩
        · simp
        · show n + _ = 365 * 0 + leaps (wYear.toNat + 0) + uDay.toNat
          rw [hn, Nat.add_zero]
          omega

/-!
## The months
-/

theorem monthLoop_spec (uDay : UINT) (m : Nat) :
    monthLoop uDay m ≤ m ∧
      (daysInEveryMonth (monthLoop uDay m)).toNat ≤ uDay.toNat ∧
      forall j, monthLoop uDay m < j -> j ≤ m ->
        uDay.toNat < (daysInEveryMonth j).toNat := by
  induction m with
  | zero =>
      refine ⟨Nat.le_refl 0, Nat.zero_le _, ?_⟩
      intro j hj hle
      exact absurd hj (Nat.not_lt.mpr hle)
  | succ m ih =>
      rcases ih with ⟨hle, htable, hlater⟩
      unfold monthLoop
      split
      · rename_i hlt
        refine ⟨Nat.le_succ_of_le hle, htable, ?_⟩
        intro j hj hjm
        rcases Nat.lt_or_eq_of_le hjm with hjm | hjm
        · exact hlater j hj (Nat.le_of_lt_succ hjm)
        · rw [hjm]
          exact UInt32.lt_iff_toNat_lt.mp hlt
      · rename_i hge
        refine ⟨Nat.le_refl _, UInt32.le_iff_toNat_le.mp (UInt32.not_lt.mp hge), ?_⟩
        intro j hj hjm
        exact absurd hj (Nat.not_lt.mpr hjm)

theorem daysInEveryMonth_mono {i j : Nat} (hij : i ≤ j) (hj : j ≤ 12) :
    (daysInEveryMonth i).toNat ≤ (daysInEveryMonth j).toNat := by
  have hall : forall j, j < 13 -> forall i, i < 13 -> i ≤ j ->
      (daysInEveryMonth i).toNat ≤ (daysInEveryMonth j).toNat := by decide
  exact hall j (Nat.lt_succ_of_le hj) i (Nat.lt_succ_of_le (hij.trans hj)) hij

theorem monthLoop_eq {uDay : UINT} {m : Nat} (hle : m ≤ 12)
    (htable : (daysInEveryMonth m).toNat ≤ uDay.toNat)
    (hnext : m < 12 -> uDay.toNat < (daysInEveryMonth (m + 1)).toNat) :
    monthLoop uDay 12 = m := by
  rcases monthLoop_spec uDay 12 with ⟨hle', htable', hlater⟩
  rcases Nat.lt_trichotomy (monthLoop uDay 12) m with hlt | heq | hgt
  · exact absurd (hlater m hlt hle) (Nat.not_lt.mpr htable)
  · exact heq
  · have hlt := hnext (Nat.lt_of_lt_of_le hgt hle')
    have hmono := daysInEveryMonth_mono (Nat.succ_le_of_lt hgt) hle'
    exact absurd (hmono.trans htable') (Nat.not_le.mpr hlt)

/-!
## Taking the number apart
-/

/-- A date in December, or before the last day that its month has in a common year. -/
def Inner (d : Date) : Prop :=
  d.month = 12 ∨ d.day < commonLength d.month

instance (d : Date) : Decidable (Inner d) :=
  inferInstanceAs (Decidable (_ ∨ _))

theorem Inner.bounds {d : Date} (h : Inner d) :
    (daysInEveryMonth d.month).toNat + d.day ≤ 365 ∧
      (d.month < 12 -> (daysInEveryMonth d.month).toNat + d.day <
        (daysInEveryMonth (d.month + 1)).toNat) := by
  rcases h with hlast | hday
  · have hle := d.day_le
    rw [hlast] at hle ⊢
    refine ⟨Nat.add_le_add_left hle 334, fun hlt => absurd hlt (Nat.lt_irrefl 12)⟩
  · have hle := d.month_le
    rcases Nat.lt_or_eq_of_le hle with hlt | heq
    · have hsucc := daysInEveryMonth_succ d.month_pos hlt
      have htable := daysInEveryMonth_le (d.month + 1)
      exact ⟨by omega, fun _ => by omega⟩
    · rw [heq] at hday ⊢
      refine ⟨Nat.add_le_add_left (Nat.le_of_lt hday) 334, ?_⟩
      exact fun hlt => absurd hlt (Nat.lt_irrefl 12)

section

variable (SysTime : SystemTime) {uDay : UINT} {d : Date}

theorem fnGetTime_shows (hfits : d.year < 2 ^ 16) (hinner : Inner d)
    (hday : uDay.toNat = dayNumber d.year d.month d.day) :
    Shows (fnGetTime SysTime uDay) d := by
  rcases hinner.bounds with ⟨hyear, hmonth⟩
  have hpos := d.day_pos
  have htotal : uDay.toNat + leaps 0 =
      365 * d.year + leaps (0 + d.year) +
        ((daysInEveryMonth d.month).toNat + d.day) := by
    rw [hday, dayNumber, Nat.zero_add]
    show _ + 0 = _
    omega
  have hstart : (0 : WORD).toNat + d.year < 2 ^ 16 := by
    rw [show (0 : WORD).toNat = 0 from rfl, Nat.zero_add]
    exact hfits
  rcases yearLoop_reaches d.year hstart htotal (by omega) hyear with ⟨hyears, hleft⟩
  have hmonths : monthLoop (yearLoop 0 uDay).2 12 = d.month :=
    monthLoop_eq d.month_le (by omega) (by rw [hleft]; exact hmonth)
  have hle := d.month_le
  have hdays : ((yearLoop 0 uDay).2 - daysInEveryMonth d.month).toNat = d.day := by
    rw [UInt32.toNat_sub_of_le _ _ (UInt32.le_iff_toNat_le.mpr (by omega)), hleft]
    omega
  refine ⟨hyears.trans (Nat.zero_add d.year), ?_, ?_⟩
  · show (UInt16.ofNat (monthLoop (yearLoop 0 uDay).2 12)).toNat = _
    rw [hmonths]
    exact UInt16.toNat_ofNat_of_lt' (Nat.lt_of_le_of_lt hle (by decide))
  · show ((yearLoop 0 uDay).2 -
      daysInEveryMonth (monthLoop (yearLoop 0 uDay).2 12)).toUInt16.toNat = _
    rw [hmonths, UInt32.toNat_toUInt16, hdays]
    omega

theorem shows_fnGetTime (hle : uDay.toNat ≤ dayNumber d.year d.month d.day + 1)
    (h : Shows (fnGetTime SysTime uDay) d) :
    uDay.toNat = dayNumber d.year d.month d.day ∧ Inner d := by
  rcases yearLoop_keeps 0 uDay with ⟨hleft, k, hyears, hk, hexact⟩
  rcases monthLoop_spec (yearLoop 0 uDay).2 12 with ⟨hmonth, htable, hlater⟩
  have hm : monthLoop (yearLoop 0 uDay).2 12 = d.month := by
    rw [← h.month]
    exact (UInt16.toNat_ofNat_of_lt' (Nat.lt_of_le_of_lt hmonth (by decide))).symm
  rw [hm] at hmonth htable hlater
  have hd : (yearLoop 0 uDay).2.toNat = (daysInEveryMonth d.month).toNat + d.day := by
    have hday : ((yearLoop 0 uDay).2 -
        daysInEveryMonth (monthLoop (yearLoop 0 uDay).2 12)).toUInt16.toNat = d.day :=
      h.day
    rw [hm, UInt32.toNat_toUInt16,
      UInt32.toNat_sub_of_le _ _ (UInt32.le_iff_toNat_le.mpr htable)] at hday
    omega
  have hyear : k % 2 ^ 16 = d.year := by
    rw [← h.year]
    show _ = (yearLoop 0 uDay).1.toNat
    rw [hyears, UInt16.toNat_add, UInt16.toNat_ofNat']
    show _ = (0 + k % 2 ^ 16) % 2 ^ 16
    omega
  have hsame : k = d.year := by
    have hleaps := leaps_le d.year
    rw [dayNumber] at hle
    omega
  have htotal : uDay.toNat + 0 =
      365 * k + leaps (0 + k) + (yearLoop 0 uDay).2.toNat :=
    hexact (by
      show 0 + k < 2 ^ 16
      omega)
  rw [hsame, Nat.zero_add, hd, ← Nat.add_assoc] at htotal
  refine ⟨htotal, ?_⟩
  rcases Nat.lt_or_eq_of_le hmonth with hlt | hlast
  · have hnext := hlater (d.month + 1) (Nat.lt_succ_self _) hlt
    rw [hd, daysInEveryMonth_succ d.month_pos hlt] at hnext
    exact Or.inr (Nat.lt_of_add_lt_add_left hnext)
  · exact Or.inl hlast

end

/-!
## Adding days
-/

section

variable (d : Date) (n : Nat)

theorem dayNumber_later :
    dayNumber d.year d.month d.day + n + (if Early (d.later n) then 1 else 0) =
      dayNumber (d.later n).year (d.later n).month (d.later n).day +
        if Early d then 1 else 0 := by
  have hnumber := dayNumber_succ d
  have hlater := dayNumber_succ (d.later n)
  rw [Date.number_later] at hlater
  omega

theorem dayNumber_later_le :
    dayNumber d.year d.month d.day + n ≤
      dayNumber (d.later n).year (d.later n).month (d.later n).day + 1 := by
  have hapart := dayNumber_later d n
  split at hapart
  · split at hapart <;> omega
  · split at hapart <;> omega

theorem dayNumber_later_iff :
    dayNumber d.year d.month d.day + n =
        dayNumber (d.later n).year (d.later n).month (d.later n).day ↔
      (Early d ↔ Early (d.later n)) := by
  have hapart := dayNumber_later d n
  by_cases hearly : Early d
  · by_cases hlast : Early (d.later n)
    · rw [if_pos hearly, if_pos hlast] at hapart
      exact iff_of_true (Nat.add_right_cancel hapart) (iff_of_true hearly hlast)
    · rw [if_pos hearly, if_neg hlast] at hapart
      exact iff_of_false (by omega) (fun h => hlast (h.mp hearly))
  · by_cases hlast : Early (d.later n)
    · rw [if_neg hearly, if_pos hlast] at hapart
      exact iff_of_false (by omega) (fun h => hearly (h.mpr hlast))
    · rw [if_neg hearly, if_neg hlast] at hapart
      exact iff_of_true (Nat.add_right_cancel hapart) (iff_of_false hearly hlast)

end

theorem toNat_toUInt32_of_toInt {nDay : INT} {n : Nat} (hn : nDay.toInt = n) :
    nDay.toUInt32.toNat = n := by
  have hint : nDay.toInt = if 2 * nDay.toUInt32.toNat < 2 ^ 32 then
      (nDay.toUInt32.toNat : Int) else nDay.toUInt32.toNat - 2 ^ 32 :=
    BitVec.toInt_eq_toNat_cond nDay.toBitVec
  have hlt := nDay.toUInt32.toNat_lt
  rw [hn] at hint
  split at hint
  · omega
  · omega

theorem toNat_add_days {SysTime : SystemTime} {d : Date} (h : Shows SysTime d)
    {uDay : UINT} (huDay : uDay.toNat = dayNumber d.year d.month d.day)
    {nDay : INT} {n : Nat} (hn : nDay.toInt = n) :
    (uDay + nDay.toUInt32).toNat = dayNumber d.year d.month d.day + n := by
  have hyear := h.year ▸ SysTime.wYear.toNat_lt
  have hday := h.day ▸ SysTime.wDay.toNat_lt
  have hleaps := leaps_le d.year
  have htable := daysInEveryMonth_le d.month
  have hlt := nDay.toInt_lt
  rw [UInt32.toNat_add, toNat_toUInt32_of_toInt hn, huDay, dayNumber]
  omega

/--
`AddDay` ends, and changes no more than the date.  The date is the one so many days
later, exactly if that is an inner date and both or neither of the two dates are in
January or February of a leap year.  Where it is, days may be added one after the other.
-/
theorem addDay_gregorian_iff {SysTime : SystemTime} {d : Date} {nDay : INT} {n : Nat}
    (h : Shows SysTime d) (hn : nDay.toInt = n) (hfits : (d.later n).year < 2 ^ 16) :
    exists result, addDay SysTime nDay = some result ∧
      result = { SysTime with
        wYear := result.wYear, wMonth := result.wMonth, wDay := result.wDay } ∧
      (Shows result (d.later n) ↔
        (Early d ↔ Early (d.later n)) ∧ Inner (d.later n)) ∧
      (Shows result (d.later n) ->
        forall nMore, addDay result nMore = addDay SysTime (nDay + nMore)) := by
  rcases fnGetDay_eq h with ⟨uDay, hget, huDay⟩
  have hsum := toNat_add_days h huDay hn
  have hexact : Shows (fnGetTime SysTime (uDay + nDay.toUInt32)) (d.later n) ->
      (uDay + nDay.toUInt32).toNat =
          dayNumber (d.later n).year (d.later n).month (d.later n).day ∧
        Inner (d.later n) :=
    shows_fnGetTime SysTime (hsum ▸ dayNumber_later_le d n)
  refine ⟨fnGetTime SysTime (uDay + nDay.toUInt32), ?_, rfl, ?_, ?_⟩
  · rw [addDay, hget, Option.map_some]
  · rw [← dayNumber_later_iff, ← hsum]
    constructor
    · exact hexact
    · intro hsame
      exact fnGetTime_shows SysTime hfits hsame.right hsame.left
  · intro hshows nMore
    rcases fnGetDay_eq hshows with ⟨uLater, hgetLater, huLater⟩
    have hsame : uLater = uDay + nDay.toUInt32 := by
      rw [← UInt32.toNat_inj, huLater, (hexact hshows).left]
    rw [addDay, hgetLater, addDay, hget, Option.map_some, Option.map_some, hsame,
      Int32.toUInt32_add, UInt32.add_assoc]
    rfl

def lastOfJanuary : SystemTime where
  wYear := 2017
  wMonth := 1
  wDayOfWeek := 2
  wDay := 31
  wHour := 12
  wMinute := 0
  wSecond := 0
  wMilliseconds := 0

def januaryDate : Date :=
  { Date.newYear 2017 with day := 31, day_pos := by decide, day_le := by decide }

/-- No day later the last of January is the day before the first of February. -/
theorem lastOfJanuary_zeroth :
    Shows lastOfJanuary januaryDate ∧
      addDay lastOfJanuary 0 = some { lastOfJanuary with wMonth := 2, wDay := 0 } ∧
      ¬ Shows { lastOfJanuary with wMonth := 2, wDay := 0 } (januaryDate.later 0) := by
  have hyears : yearLoop 0 736725 = (2017, 31) := by
    rcases yearLoop_reaches 2017 (by decide : (0 : WORD).toNat + 2017 < 2 ^ 16)
      (by decide : (736725 : UINT).toNat + leaps (0 : WORD).toNat =
        365 * 2017 + leaps ((0 : WORD).toNat + 2017) + 31) (by decide) (by decide) with
      ⟨hyear, hleft⟩
    exact Prod.ext (UInt16.toNat_inj.mp hyear) (UInt32.toNat_inj.mp hleft)
  refine ⟨⟨rfl, rfl, rfl⟩, ?_, fun h => absurd h.month (by decide)⟩
  have hget : fnGetDay lastOfJanuary = some 736725 := by decide
  rw [addDay, hget, Option.map_some]
  show some (fnGetTime lastOfJanuary 736725) = _
  rw [fnGetTime, hyears]
  rfl

theorem addDay_gregorian_iff_noDay :
    exists result, addDay lastOfJanuary 0 = some result ∧
      result = { lastOfJanuary with
        wYear := result.wYear, wMonth := result.wMonth, wDay := result.wDay } ∧
      (Shows result (januaryDate.later 0) ↔
        (Early januaryDate ↔ Early (januaryDate.later 0)) ∧
          Inner (januaryDate.later 0)) ∧
      (Shows result (januaryDate.later 0) ->
        forall nMore, addDay result nMore = addDay lastOfJanuary (0 + nMore)) :=
  addDay_gregorian_iff ⟨rfl, rfl, rfl⟩ rfl (by decide)

end CBnsGameFun
end Game
end BnsKorea
