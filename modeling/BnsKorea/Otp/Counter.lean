import BnsKorea.Otp.Totp

/-!
# Counting the steps of the time

A division that truncates has to be told to round down before the start time.
-/

namespace BnsKorea
namespace CTotpCounter

def getValueStartTime (itm : CTotpCounter) (Value_ : LONG) : LONG :=
  itm.startTime + Value_ * itm.timeStep

/-!
## Times in words
-/

def FitsLONG (n : Int) : Prop := -2 ^ 31 ≤ n ∧ n < 2 ^ 31

def FitsLONGLONG (n : Int) : Prop := -2 ^ 63 ≤ n ∧ n < 2 ^ 63

instance (n : Int) : Decidable (FitsLONG n) := inferInstanceAs (Decidable (_ ∧ _))

instance (n : Int) : Decidable (FitsLONGLONG n) :=
  inferInstanceAs (Decidable (_ ∧ _))

theorem bmod_of_fitsLONG {n : Int} (h : FitsLONG n) : n.bmod (2 ^ 32) = n :=
  Int.bmod_eq_of_le (by exact h.1) (by exact h.2)

theorem bmod_of_fitsLONGLONG {n : Int} (h : FitsLONGLONG n) :
    n.bmod (2 ^ 64) = n :=
  Int.bmod_eq_of_le (by exact h.1) (by exact h.2)

theorem toInt_sub_of_fits {a b : Int64} (h : FitsLONGLONG (a.toInt - b.toInt)) :
    (a - b).toInt = a.toInt - b.toInt := by
  rw [Int64.toInt_sub, bmod_of_fitsLONGLONG h]

theorem bmod_of_below {n : Int} (hlow : n < -2 ^ 63) (hhigh : -2 ^ 64 ≤ n) :
    n.bmod (2 ^ 64) = n + 2 ^ 64 := by
  rw [← Int.add_bmod_right]
  apply Int.bmod_eq_of_le
  · show -(2 ^ 63) ≤ n + 2 ^ 64
    omega
  · show n + 2 ^ 64 < 2 ^ 63
    omega

variable (itm : CTotpCounter)

def sinceStart (Time_ : LONGLONG) : Int := Time_.toInt - itm.startTime.toInt

def adjusted (Time_ : LONGLONG) : Int :=
  itm.sinceStart Time_ - itm.timeStep.toInt - 1

/-!
## The value as the code computes it
-/

variable {itm} {Time_ : LONGLONG}

theorem timeStep_ne_zero (hstep : 0 < itm.timeStep.toInt) : itm.timeStep ≠ 0 := by
  intro h
  rw [h] at hstep
  exact absurd hstep (by decide)

theorem toInt_div_timeStep (hstep : 0 < itm.timeStep.toInt) (a : LONGLONG) :
    (a / itm.timeStep.toInt64).toInt = a.toInt.tdiv itm.timeStep.toInt := by
  have hminus : itm.timeStep.toInt64 ≠ -1 := by
    intro h
    have hint := congrArg Int64.toInt h
    rw [Int32.toInt_toInt64] at hint
    rw [hint] at hstep
    exact absurd hstep (by decide)
  rw [Int64.toInt_div_of_ne_right _ _ hminus, Int32.toInt_toInt64]

theorem toInt_timeSinceStartTime (hfits : FitsLONGLONG (itm.sinceStart Time_)) :
    (Time_ - itm.startTime.toInt64).toInt = itm.sinceStart Time_ := by
  have hsub : FitsLONGLONG (Time_.toInt - itm.startTime.toInt64.toInt) := by
    rw [Int32.toInt_toInt64]
    exact hfits
  rw [toInt_sub_of_fits hsub, Int32.toInt_toInt64]
  rfl

theorem toInt_adjusted (hfits : FitsLONGLONG (itm.sinceStart Time_)) :
    (Time_ - itm.startTime.toInt64 - itm.timeStep.toInt64 - 1).toInt =
      (itm.adjusted Time_).bmod (2 ^ 64) := by
  rw [Int64.toInt_sub, Int64.toInt_sub, toInt_timeSinceStartTime hfits,
    Int32.toInt_toInt64, Int.bmod_sub_bmod]
  rfl

theorem getValueAtTime_eq (hstep : 0 < itm.timeStep.toInt)
    (hfits : FitsLONGLONG (itm.sinceStart Time_)) :
    exists v, itm.getValueAtTime Time_ = some v ∧
      v.toInt = if 0 ≤ itm.sinceStart Time_ then
          (itm.sinceStart Time_).tdiv itm.timeStep.toInt
        else ((itm.adjusted Time_).bmod (2 ^ 64)).tdiv itm.timeStep.toInt := by
  have hsince := toInt_timeSinceStartTime hfits
  have hsign : Time_ - itm.startTime.toInt64 ≥ 0 ↔ 0 ≤ itm.sinceStart Time_ := by
    rw [ge_iff_le, Int64.le_iff_toInt_le, hsince]
    exact Iff.rfl
  unfold getValueAtTime
  rw [if_neg (timeStep_ne_zero hstep)]
  dsimp only
  by_cases h : 0 ≤ itm.sinceStart Time_
  · rw [if_pos (hsign.mpr h), if_pos h]
    exact ⟨_, rfl, by rw [toInt_div_timeStep hstep, hsince]⟩
  · rw [if_neg fun hge => h (hsign.mp hge), if_neg h]
    exact ⟨_, rfl, by rw [toInt_div_timeStep hstep, toInt_adjusted hfits]⟩

/-!
## Rounding down
-/

def countedSteps (x k : Int) : Int :=
  if 0 ≤ x then x / k else -((1 - x) / k) - 1

theorem countedSteps_mono {x y k : Int} (hk : 0 < k) (hxy : x ≤ y) :
    countedSteps x k ≤ countedSteps y k := by
  unfold countedSteps
  by_cases hx : 0 ≤ x
  · rw [if_pos hx, if_pos (Int.le_trans hx hxy)]
    exact Int.ediv_le_ediv hk hxy
  · rw [if_neg hx]
    have hback : 0 ≤ (1 - x) / k := Int.ediv_nonneg (by omega) (Int.le_of_lt hk)
    by_cases hy : 0 ≤ y
    · rw [if_pos hy]
      have hforth : 0 ≤ y / k := Int.ediv_nonneg hy (Int.le_of_lt hk)
      omega
    · rw [if_neg hy]
      have hle : (1 - y) / k ≤ (1 - x) / k := Int.ediv_le_ediv hk (by omega)
      omega

theorem countedSteps_eq_ediv_iff {x k : Int} (hk : 0 < k) :
    countedSteps x k = x / k ↔ 0 ≤ x ∨ 2 ≤ x % k := by
  unfold countedSteps
  by_cases hx : 0 ≤ x
  · rw [if_pos hx]
    exact ⟨fun _ => Or.inl hx, fun _ => rfl⟩
  · have hsplit : 1 - x = (1 - x % k) + -(x / k) * k := by
      have hx := Int.emod_add_mul_ediv x k
      rw [Int.neg_mul, Int.mul_comm]
      omega
    have hquotient : (1 - x) / k = (1 - x % k) / k + -(x / k) := by
      rw [hsplit, Int.add_mul_ediv_right _ _ (Int.ne_of_gt hk)]
    have hnonneg := Int.ediv_nonneg_iff_of_pos (a := 1 - x % k) hk
    have hlow : -1 ≤ (1 - x % k) / k := by
      have hlt := Int.emod_lt_of_pos x hk
      rw [Int.le_ediv_iff_mul_le hk]
      omega
    rw [if_neg hx, hquotient]
    constructor
    · intro h
      exact Or.inr (by omega)
    · intro h
      rcases h with hpos | htwo
      · exact absurd hpos hx
      · omega

theorem tdiv_adjusted {x k : Int} (hk : 0 < k) (hx : x < 0) :
    (x - k - 1).tdiv k = countedSteps x k := by
  have hneg : x - k - 1 = -(1 - x + 1 * k) := by omega
  rw [hneg, Int.neg_tdiv, Int.tdiv_eq_ediv_of_nonneg (by omega),
    Int.add_mul_ediv_right _ _ (Int.ne_of_gt hk), countedSteps,
    if_neg (Int.not_le.mpr hx)]
  omega

/-!
## The counter and the floor
-/

/-- The code's subtractions before the start stay in a word. -/
def AdjustsInWord (itm : CTotpCounter) (Time_ : LONGLONG) : Prop :=
  0 ≤ itm.sinceStart Time_ ∨ -2 ^ 63 ≤ itm.adjusted Time_

theorem AdjustsInWord.later {Later : LONGLONG} (h : itm.AdjustsInWord Time_)
    (hlater : Time_ ≤ Later) : itm.AdjustsInWord Later := by
  have hle := Int64.le_iff_toInt_le.mp hlater
  unfold AdjustsInWord adjusted sinceStart at *
  omega

theorem getValueAtTime_counted (hstep : 0 < itm.timeStep.toInt)
    (hfits : FitsLONGLONG (itm.sinceStart Time_)) (hword : itm.AdjustsInWord Time_) :
    exists v, itm.getValueAtTime Time_ = some v ∧
      v.toInt = countedSteps (itm.sinceStart Time_) itm.timeStep.toInt := by
  rcases getValueAtTime_eq hstep hfits with ⟨v, hvalue, hv⟩
  refine ⟨v, hvalue, ?_⟩
  rw [hv]
  by_cases hx : 0 ≤ itm.sinceStart Time_
  · rw [if_pos hx, Int.tdiv_eq_ediv_of_nonneg hx, countedSteps, if_pos hx]
  · have hlow : -2 ^ 63 ≤ itm.adjusted Time_ := hword.resolve_left hx
    have hadjusted : FitsLONGLONG (itm.adjusted Time_) := by
      refine ⟨hlow, ?_⟩
      show itm.sinceStart Time_ - itm.timeStep.toInt - 1 < 2 ^ 63
      omega
    rw [if_neg hx, bmod_of_fitsLONGLONG hadjusted]
    exact tdiv_adjusted hstep (Int.lt_of_not_ge hx)

theorem getValueAtTime_wrapped (hstep : 0 < itm.timeStep.toInt)
    (hfits : FitsLONGLONG (itm.sinceStart Time_)) (hword : ¬ itm.AdjustsInWord Time_) :
    exists v, itm.getValueAtTime Time_ = some v ∧ 0 ≤ v.toInt := by
  rcases getValueAtTime_eq hstep hfits with ⟨v, hvalue, hv⟩
  have hx : ¬ 0 ≤ itm.sinceStart Time_ := fun h => hword (Or.inl h)
  have hlow : itm.adjusted Time_ < -2 ^ 63 :=
    Int.lt_of_not_ge fun h => hword (Or.inr h)
  have hbound : -2 ^ 63 - 2 ^ 31 - 1 ≤ itm.adjusted Time_ := by
    have hstepLt := itm.timeStep.toInt_lt
    have hsince := hfits.1
    show _ ≤ itm.sinceStart Time_ - itm.timeStep.toInt - 1
    omega
  refine ⟨v, hvalue, ?_⟩
  rw [hv, if_neg hx, bmod_of_below hlow (by omega)]
  exact Int.tdiv_nonneg (by omega) (Int.le_of_lt hstep)

/-- The value is the floor, and its start and that of the next enclose the time. -/
def CountsByFloor (itm : CTotpCounter) (Time_ : LONGLONG) : Prop :=
  exists v, itm.getValueAtTime Time_ = some v ∧
    v.toInt = Int.fdiv (itm.sinceStart Time_) itm.timeStep.toInt ∧
    (FitsLONG (itm.startTime.toInt + v.toInt * itm.timeStep.toInt) ->
      FitsLONG (itm.startTime.toInt + (v.toInt + 1) * itm.timeStep.toInt) ->
      (itm.getValueStartTime v.toInt32).toInt ≤ Time_.toInt ∧
        Time_.toInt < (itm.getValueStartTime (v + 1).toInt32).toInt)

theorem toInt_getValueStartTime {n : Int} {Value_ : LONG}
    (hvalue : Value_.toInt = n.bmod (2 ^ 32))
    (hfits : FitsLONG (itm.startTime.toInt + n * itm.timeStep.toInt)) :
    (itm.getValueStartTime Value_).toInt =
      itm.startTime.toInt + n * itm.timeStep.toInt := by
  rw [getValueStartTime, Int32.toInt_add, Int32.toInt_mul, hvalue,
    Int.bmod_mul_bmod, Int.add_bmod_bmod, bmod_of_fitsLONG hfits]

theorem toInt_succ_toInt32 (v : LONGLONG) :
    (v + 1).toInt32.toInt = (v.toInt + 1).bmod (2 ^ 32) := by
  rw [Int64.toInt_toInt32, Int64.toInt_add]
  exact Int.bmod_bmod_of_dvd (by decide)

theorem countsByFloor_of_floor (hstep : 0 < itm.timeStep.toInt) {v : LONGLONG}
    (hvalue : itm.getValueAtTime Time_ = some v)
    (hfloor : v.toInt = itm.sinceStart Time_ / itm.timeStep.toInt) :
    itm.CountsByFloor Time_ := by
  refine ⟨v, hvalue, ?_, ?_⟩
  · rw [hfloor, Int.fdiv_eq_ediv_of_nonneg _ (Int.le_of_lt hstep)]
  · intro hstart hnext
    have hlow : v.toInt * itm.timeStep.toInt ≤ itm.sinceStart Time_ := by
      rw [hfloor]
      exact Int.ediv_mul_le _ (Int.ne_of_gt hstep)
    have hhigh : itm.sinceStart Time_ < (v.toInt + 1) * itm.timeStep.toInt := by
      rw [hfloor]
      exact Int.lt_ediv_add_one_mul_self _ hstep
    rw [toInt_getValueStartTime (Int64.toInt_toInt32 v) hstart,
      toInt_getValueStartTime (toInt_succ_toInt32 v) hnext]
    unfold sinceStart at hlow hhigh
    omega

theorem CountsByFloor.floor (h : itm.CountsByFloor Time_)
    (hstep : 0 < itm.timeStep.toInt) {v : LONGLONG}
    (hvalue : itm.getValueAtTime Time_ = some v) :
    v.toInt = itm.sinceStart Time_ / itm.timeStep.toInt := by
  rcases h with ⟨w, hw, hfloor, _⟩
  rw [hvalue] at hw
  rw [Option.some.inj hw, hfloor, Int.fdiv_eq_ediv_of_nonneg _ (Int.le_of_lt hstep)]

theorem getValueAtTime_mono (hstep : 0 < itm.timeStep.toInt)
    (hfits : FitsLONGLONG (itm.sinceStart Time_)) (hword : itm.AdjustsInWord Time_)
    {Later : LONGLONG} (hlater : Time_ ≤ Later)
    (hlaterFits : FitsLONGLONG (itm.sinceStart Later)) :
    exists v w, itm.getValueAtTime Time_ = some v ∧
      itm.getValueAtTime Later = some w ∧ v ≤ w := by
  rcases getValueAtTime_counted hstep hfits hword with ⟨v, hvalue, hv⟩
  rcases getValueAtTime_counted hstep hlaterFits (hword.later hlater) with
    ⟨w, hwvalue, hw⟩
  refine ⟨v, w, hvalue, hwvalue, ?_⟩
  rw [Int64.le_iff_toInt_le, hv, hw]
  apply countedSteps_mono hstep
  have hle := Int64.le_iff_toInt_le.mp hlater
  unfold sinceStart
  omega

/--
The counter is the floor from the start time on.  Before it, the time must lie two
seconds or more behind a whole step, and the subtractions must stay in a word; where
they do, the counter never goes back.
-/
theorem countsByFloor_iff (itm : CTotpCounter) (Time_ : LONGLONG)
    (hstep : 0 < itm.timeStep.toInt)
    (hfits : FitsLONGLONG (itm.sinceStart Time_)) :
    (itm.CountsByFloor Time_ ↔
      0 ≤ itm.sinceStart Time_ ∨
        2 ≤ itm.sinceStart Time_ % itm.timeStep.toInt ∧
          -2 ^ 63 ≤ itm.adjusted Time_) ∧
    forall Later, Time_ ≤ Later -> FitsLONGLONG (itm.sinceStart Later) ->
      itm.AdjustsInWord Time_ ->
      exists v w, itm.getValueAtTime Time_ = some v ∧
        itm.getValueAtTime Later = some w ∧ v ≤ w := by
  refine ⟨?_, ?_⟩
  · by_cases hword : itm.AdjustsInWord Time_
    · rcases getValueAtTime_counted hstep hfits hword with ⟨v, hvalue, hv⟩
      have hcounted := countedSteps_eq_ediv_iff (x := itm.sinceStart Time_) hstep
      have hmeets : (0 ≤ itm.sinceStart Time_ ∨
          2 ≤ itm.sinceStart Time_ % itm.timeStep.toInt ∧
            -2 ^ 63 ≤ itm.adjusted Time_) ↔
          0 ≤ itm.sinceStart Time_ ∨
            2 ≤ itm.sinceStart Time_ % itm.timeStep.toInt := by
        unfold AdjustsInWord at hword
        tauto
      rw [hmeets, ← hcounted, ← hv]
      constructor
      · intro hfloor
        exact hfloor.floor hstep hvalue
      · exact countsByFloor_of_floor hstep hvalue
    · rcases getValueAtTime_wrapped hstep hfits hword with ⟨v, hvalue, hv⟩
      constructor
      · intro hfloor
        rw [hfloor.floor hstep hvalue] at hv
        exact Or.inl ((Int.ediv_nonneg_iff_of_pos hstep).mp hv)
      · intro h
        exact absurd (h.imp id And.right) hword
  · intro Later hlater hlaterFits hword
    exact getValueAtTime_mono hstep hfits hword hlater hlaterFits

/-- Thirteen seconds before the start, in steps of thirty, and later. -/
theorem countsByFloor_iff_thirty :
    let itm : CTotpCounter := { timeStep := 30, startTime := 0 }
    (itm.CountsByFloor (-13) ↔
      0 ≤ itm.sinceStart (-13) ∨
        2 ≤ itm.sinceStart (-13) % itm.timeStep.toInt ∧
          -2 ^ 63 ≤ itm.adjusted (-13)) ∧
    forall Later, -13 ≤ Later -> FitsLONGLONG (itm.sinceStart Later) ->
      itm.AdjustsInWord (-13) ->
      exists v w, itm.getValueAtTime (-13) = some v ∧
        itm.getValueAtTime Later = some w ∧ v ≤ w :=
  countsByFloor_iff _ (-13) (by decide) (by decide)

/-- A whole step before the start is counted as two. -/
theorem wholeStep_early :
    let itm : CTotpCounter := { timeStep := 30, startTime := 0 }
    0 < itm.timeStep.toInt ∧ FitsLONGLONG (itm.sinceStart (-30)) ∧
      itm.getValueAtTime (-30) = some (-2) ∧
      Int.fdiv (itm.sinceStart (-30)) itm.timeStep.toInt = -1 ∧
      (itm.getValueStartTime (-2 + 1)).toInt = -30 ∧
      ¬ itm.CountsByFloor (-30) := by
  refine ⟨by decide, by decide, by decide, by decide, by decide, ?_⟩
  intro hfloor
  rcases hfloor with ⟨v, hvalue, hv, _⟩
  have htwo : v = -2 := (Option.some.inj (hvalue.symm.trans (by decide)))
  rw [htwo] at hv
  exact absurd hv (by decide)

end CTotpCounter
end BnsKorea
