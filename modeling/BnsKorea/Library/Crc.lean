import Mathlib.Data.Nat.Bitwise
import Mathlib.Logic.Function.Iterate

/-!
# Cyclic redundancy checks

The register of a check is shifted down one bit at a time and takes the polynomial
where a one falls out.  The shift is linear, so what happens to the low bits and
to the high bits adds up, and a table of the low bytes does eight shifts at once.
-/

namespace BnsKorea
namespace Library
namespace Crc

def shift (poly n : Nat) : Nat :=
  if n % 2 = 1 then n / 2 ^^^ poly else n / 2

variable {poly : Nat}

theorem shift_xor (n m : Nat) :
    shift poly (n ^^^ m) = shift poly n ^^^ shift poly m := by
  have hbit := @Nat.xor_mod_two_eq_one n m
  unfold shift
  rw [Nat.xor_div_two]
  by_cases hn : n % 2 = 1
  · by_cases hm : m % 2 = 1
    · have hboth : ¬ (n ^^^ m) % 2 = 1 := by rw [hbit]; simp [hn, hm]
      rw [if_pos hn, if_pos hm, if_neg hboth, Nat.xor_assoc, ← Nat.xor_assoc poly,
        Nat.xor_comm poly, Nat.xor_assoc, Nat.xor_self, Nat.xor_zero]
    · have hone : (n ^^^ m) % 2 = 1 := by rw [hbit]; simp [hn, hm]
      rw [if_pos hn, if_neg hm, if_pos hone, Nat.xor_assoc, Nat.xor_assoc,
        Nat.xor_comm poly]
  · by_cases hm : m % 2 = 1
    · have hone : (n ^^^ m) % 2 = 1 := by rw [hbit]; simp [hn, hm]
      rw [if_neg hn, if_pos hm, if_pos hone, Nat.xor_assoc]
    · have hnone : ¬ (n ^^^ m) % 2 = 1 := by rw [hbit]; simp [hn, hm]
      rw [if_neg hn, if_neg hm, if_neg hnone]

theorem iterate_shift (k n : Nat) :
    (shift poly)^[k] n = n / 2 ^ k ^^^ (shift poly)^[k] (n % 2 ^ k) := by
  induction k generalizing n with
  | zero => simp [Nat.mod_one]
  | succ k ih =>
      have hhigh : n % 2 ^ (k + 1) / 2 ^ k = n / 2 ^ k % 2 := by
        rw [Nat.pow_succ, Nat.mod_mul_right_div_self]
      have hlow : n % 2 ^ (k + 1) % 2 ^ k = n % 2 ^ k :=
        Nat.mod_mod_of_dvd n (Nat.pow_dvd_pow 2 (Nat.le_succ k))
      have hshift : shift poly (n / 2 ^ k) =
          n / 2 ^ (k + 1) ^^^ shift poly (n / 2 ^ k % 2) := by
        have hdiv : n / 2 ^ (k + 1) = n / 2 ^ k / 2 := by
          rw [Nat.pow_succ, Nat.div_div_eq_div_mul]
        unfold shift
        rw [hdiv, Nat.mod_mod, Nat.div_eq_of_lt (Nat.mod_lt _ Nat.zero_lt_two)]
        split
        · rw [Nat.zero_xor]
        · rw [Nat.xor_zero]
      rw [Function.iterate_succ_apply', ih, shift_xor, hshift,
        Function.iterate_succ_apply', ih (n % 2 ^ (k + 1)), hhigh, hlow, shift_xor,
        Nat.xor_assoc]

theorem byte_by_table (crc : Nat) {b : Nat} (hb : b < 256) :
    (shift poly)^[8] (crc ^^^ b) =
      crc / 256 ^^^ (shift poly)^[8] (crc % 256 ^^^ b) := by
  have hsmall : b / 2 ^ 8 = 0 := Nat.div_eq_of_lt hb
  have hmod : b % 2 ^ 8 = b := Nat.mod_eq_of_lt hb
  rw [iterate_shift 8 (crc ^^^ b), Nat.xor_div_two_pow, Nat.xor_mod_two_pow, hsmall,
    hmod, Nat.xor_zero]

end Crc
end Library
end BnsKorea
