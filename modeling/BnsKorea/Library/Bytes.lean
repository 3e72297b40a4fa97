import Mathlib.Data.List.Basic
import Mathlib.Tactic.Ring

/-!
# Bytes and chunks

A number is written as a fixed count of bytes, the most significant first, and
a list is cut into chunks of one length.  Both are taken apart at the places
where lists are appended.  A part of a list can be written over, and a signed
word has its bytes too.
-/

namespace BnsKorea
namespace Library

abbrev Byte := UInt8

/-!
## Chunks
-/

section

variable {α : Type} {as bs : List α} {k : Nat}

/-- The full chunks of length `k`; what is left behind them is dropped. -/
def chunks (k : Nat) (as : List α) : List (List α) :=
  (List.range (as.length / k)).map fun i => (as.drop (k * i)).take k

theorem chunks_nil (k : Nat) : chunks k ([] : List α) = [] := by
  rw [chunks, List.length_nil, Nat.zero_div]
  rfl

theorem chunks_append (hk : 0 < k) (h : as.length = k) :
    chunks k (as ++ bs) = as :: chunks k bs := by
  have hcount : (as ++ bs).length / k = bs.length / k + 1 := by
    rw [List.length_append, h, Nat.add_div_left _ hk]
  rw [chunks, hcount, List.range_succ_eq_map, List.map_cons, List.map_map, chunks]
  congr 1
  · show ((as ++ bs).drop (k * 0)).take k = as
    rw [Nat.mul_zero, List.drop_zero, ← h, List.take_left]
  · apply List.map_congr_left
    intro i _
    show ((as ++ bs).drop (k * (i + 1))).take k = (bs.drop (k * i)).take k
    rw [Nat.mul_add, Nat.mul_one, Nat.add_comm, ← List.drop_drop, ← h,
      List.drop_left]

theorem length_of_mem_chunks {c : List α} (hc : c ∈ chunks k as) :
    c.length = k := by
  rcases List.mem_map.mp hc with ⟨i, hi, hchunk⟩
  have hfull : k * i + k ≤ as.length := by
    have hle := Nat.mul_le_mul_left k (Nat.succ_le_of_lt (List.mem_range.mp hi))
    exact Nat.le_trans hle (Nat.mul_div_le as.length k)
  rw [← hchunk, List.length_take, List.length_drop]
  omega

theorem chunks_induction {motive : List α -> Prop} (hk : 0 < k)
    (short : forall as : List α, as.length < k -> motive as)
    (cut : forall front as : List α, front.length = k -> motive as ->
      motive (front ++ as)) (as : List α) : motive as := by
  induction hn : as.length using Nat.strongRecOn generalizing as with
  | ind n ih =>
      rcases Nat.lt_or_ge as.length k with hlt | hle
      · exact short as hlt
      · have hfront : (as.take k).length = k := List.length_take_of_le hle
        have hrest : (as.drop k).length < n := by
          rw [List.length_drop]
          omega
        rw [← List.take_append_drop k as]
        exact cut _ _ hfront (ih _ hrest _ rfl)

theorem chunks_append_of_dvd (hk : 0 < k) (h : k ∣ as.length) :
    chunks k (as ++ bs) = chunks k as ++ chunks k bs := by
  induction as using chunks_induction hk with
  | short as hlt =>
      have hnil : as = [] :=
        List.eq_nil_of_length_eq_zero (Nat.eq_zero_of_dvd_of_lt h hlt)
      rw [hnil, chunks_nil]
      rfl
  | cut front as hfront ih =>
      have hrest : k ∣ as.length := by
        rw [List.length_append, hfront] at h
        exact (Nat.dvd_add_right (Nat.dvd_refl k)).mp h
      rw [List.append_assoc, chunks_append hk hfront, chunks_append hk hfront,
        ih hrest]
      rfl

end

/-!
## Overwriting
-/

section

variable {α : Type} {as bs : List α} {i n : Nat}

def splice (as : List α) (i : Nat) (bs : List α) : List α :=
  as.take i ++ bs ++ as.drop (i + bs.length)

theorem length_splice (h : i + bs.length ≤ as.length) :
    (splice as i bs).length = as.length := by
  rw [splice, List.length_append, List.length_append, List.length_take,
    List.length_drop]
  omega

theorem take_splice (h : i ≤ as.length) :
    (splice as i bs).take (i + bs.length) = as.take i ++ bs := by
  have hlength : (as.take i ++ bs).length = i + bs.length := by
    rw [List.length_append, List.length_take_of_le h]
  rw [splice, ← hlength, List.take_left]

theorem take_splice_of_le (hn : n ≤ i) (h : i ≤ as.length) :
    (splice as i bs).take n = as.take n := by
  rw [splice, List.append_assoc, List.take_append_of_le_length, List.take_take,
    Nat.min_eq_left hn]
  rwa [List.length_take_of_le h]

theorem drop_splice (h : i ≤ as.length) :
    (splice as i bs).drop (i + bs.length) = as.drop (i + bs.length) := by
  have hlength : (as.take i ++ bs).length = i + bs.length := by
    rw [List.length_append, List.length_take_of_le h]
  rw [splice, ← hlength, List.drop_left, hlength]

end

/-!
## Numbers as bytes
-/

namespace Bytes

/-- The last `k` bytes of a number, the most significant first. -/
def ofNat : Nat -> Nat -> List Byte
  | 0, _ => []
  | k + 1, n => ofNat k (n / 256) ++ [UInt8.ofNat n]

def toNat (bs : List Byte) : Nat :=
  bs.foldl (fun n b => 256 * n + b.toNat) 0

variable {k n : Nat}

theorem length_ofNat (k n : Nat) : (ofNat k n).length = k := by
  induction k generalizing n with
  | zero => rfl
  | succ k ih => rw [ofNat, List.length_append, ih, List.length_singleton]

/-- The bytes in front of the last `k` are those of the quotient. -/
theorem ofNat_add (j k n : Nat) :
    ofNat (j + k) n = ofNat j (n / 256 ^ k) ++ ofNat k n := by
  induction k generalizing n with
  | zero =>
      show ofNat j n = _
      rw [Nat.pow_zero, Nat.div_one, ofNat, List.append_nil]
  | succ k ih =>
      rw [← Nat.add_assoc, ofNat, ih, ofNat, Nat.div_div_eq_div_mul,
        Nat.pow_succ, Nat.mul_comm 256, List.append_assoc]

theorem ofNat_mod (k n : Nat) : ofNat k (n % 256 ^ k) = ofNat k n := by
  induction k generalizing n with
  | zero => rfl
  | succ k ih =>
      have hlast : UInt8.ofNat (n % 256 ^ (k + 1)) = UInt8.ofNat n := by
        apply UInt8.toNat_inj.mp
        rw [UInt8.toNat_ofNat', UInt8.toNat_ofNat', Nat.pow_succ]
        exact Nat.mod_mul_left_mod n (256 ^ k) 256
      have hfront : n % 256 ^ (k + 1) / 256 = n / 256 % 256 ^ k := by
        rw [Nat.pow_succ]
        exact Nat.mod_mul_left_div_self n 256 (256 ^ k)
      rw [ofNat, hlast, hfront, ih, ofNat]

theorem ofNat_snoc (k n : Nat) {b : Nat} (hb : b < 256) :
    ofNat (k + 1) (n * 256 + b) = ofNat k n ++ [UInt8.ofNat b] := by
  have hfront : (n * 256 + b) / 256 = n := by omega
  have hlast : UInt8.ofNat (n * 256 + b) = UInt8.ofNat b := by
    apply UInt8.toNat_inj.mp
    rw [UInt8.toNat_ofNat', UInt8.toNat_ofNat']
    omega
  rw [ofNat, hfront, hlast]

theorem ofNat_eq_map (k n : Nat) :
    ofNat k n =
      ((List.range k).map fun i => UInt8.ofNat (n / 256 ^ i)).reverse := by
  induction k generalizing n with
  | zero => rfl
  | succ k ih =>
      rw [ofNat, ih, List.range_succ_eq_map, List.map_cons, List.reverse_cons,
        List.map_map, Nat.pow_zero, Nat.div_one]
      congr 3
      funext i
      show UInt8.ofNat (n / 256 / 256 ^ i) = UInt8.ofNat (n / 256 ^ (i + 1))
      rw [Nat.div_div_eq_div_mul, Nat.pow_succ, Nat.mul_comm 256]

/-!
## Four bytes
-/

theorem ofNat_four (a : Nat) {b c d : Nat} (hb : b < 256) (hc : c < 256)
    (hd : d < 256) :
    ofNat 4 (((a * 256 + b) * 256 + c) * 256 + d) =
      [UInt8.ofNat a, UInt8.ofNat b, UInt8.ofNat c, UInt8.ofNat d] := by
  have hone : ofNat 1 a = [UInt8.ofNat a] := rfl
  rw [ofNat_snoc 3 _ hd, ofNat_snoc 2 _ hc, ofNat_snoc 1 _ hb, hone]
  rfl

theorem toNat_four (a b c d : Byte) :
    toNat [a, b, c, d] =
      ((a.toNat * 256 + b.toNat) * 256 + c.toNat) * 256 + d.toNat := by
  show 256 * (256 * (256 * (256 * 0 + a.toNat) + b.toNat) + c.toNat) + d.toNat = _
  ring

theorem exists_four {n : Nat} (hn : n < 2 ^ 32) :
    exists a b c d, a < 256 ∧ b < 256 ∧ c < 256 ∧ d < 256 ∧
      n = ((a * 256 + b) * 256 + c) * 256 + d :=
  ⟨n / 2 ^ 24, n / 2 ^ 16 % 256, n / 2 ^ 8 % 256, n % 256, by omega, by omega,
    by omega, by omega, by omega⟩

theorem or_four (a : Nat) {b c d : Nat} (hb : b < 256) (hc : c < 256)
    (hd : d < 256) :
    a * 2 ^ 24 ||| b * 2 ^ 16 ||| c * 2 ^ 8 ||| d =
      ((a * 256 + b) * 256 + c) * 256 + d := by
  have hor : forall i m n, n < 2 ^ i -> m * 2 ^ i ||| n = m * 2 ^ i + n := by
    intro i m n hn
    rw [Nat.mul_comm m, Nat.two_pow_add_eq_or_of_lt hn]
  have htwo : a * 2 ^ 24 ||| b * 2 ^ 16 = (a * 256 + b) * 2 ^ 16 :=
    (hor 24 a _ (by omega)).trans (by omega)
  have hthree : (a * 256 + b) * 2 ^ 16 ||| c * 2 ^ 8 =
      ((a * 256 + b) * 256 + c) * 2 ^ 8 :=
    (hor 16 _ _ (by omega)).trans (by omega)
  rw [htwo, hthree, hor 8 _ _ hd]
  rfl

end Bytes

/-!
## Signed words
-/

namespace SignedWord

theorem toNat_sshiftRight_mod {w j m : Nat} (x : BitVec w) (h : j + m ≤ w) :
    (x.sshiftRight j).toNat % 2 ^ m = x.toNat / 2 ^ j % 2 ^ m := by
  apply Nat.eq_of_testBit_eq
  intro i
  rw [Nat.testBit_mod_two_pow, Nat.testBit_mod_two_pow]
  rcases Nat.lt_or_ge i m with hi | hi
  · have hinside : j + i < w := by omega
    have hwidth : ¬ w ≤ i := by omega
    rw [BitVec.testBit_toNat, BitVec.getLsbD_sshiftRight,
      ← Nat.shiftRight_eq_div_pow, Nat.testBit_shiftRight, BitVec.testBit_toNat]
    simp [hinside, hwidth, hi]
  · have hcut : ¬ i < m := Nat.not_lt.mpr hi
    simp [hcut]

theorem toNat_shiftLeft (x : Int32) {k : Nat} (hk : k < 32) :
    (x <<< Int32.ofNat k).toUInt32.toNat =
      x.toUInt32.toNat * 2 ^ k % 2 ^ 32 := by
  have hcounts : forall k : Fin 32,
      ((Int32.ofNat k).toBitVec.smod 32).toNat = k := by decide
  have hcount : ((Int32.ofNat k).toBitVec.smod 32).toNat = k := hcounts ⟨k, hk⟩
  show (x.toBitVec <<< ((Int32.ofNat k).toBitVec.smod 32)).toNat = _
  rw [BitVec.shiftLeft_eq', BitVec.toNat_shiftLeft, hcount, Nat.shiftLeft_eq]
  rfl

theorem toUInt8_shiftRight (x : Int32) {k : Nat} (hk : k ≤ 24) :
    (x >>> Int32.ofNat k).toUInt32.toUInt8 =
      UInt8.ofNat (x.toUInt32.toNat / 2 ^ k) := by
  have hcounts : forall k : Fin 32,
      ((Int32.ofNat k).toBitVec.smod 32).toNat = k := by decide
  have hcount : ((Int32.ofNat k).toBitVec.smod 32).toNat = k :=
    hcounts ⟨k, by omega⟩
  apply UInt8.toNat_inj.mp
  rw [UInt8.toNat_ofNat', UInt32.toNat_toUInt8]
  show (x.toBitVec.sshiftRight _).toNat % 2 ^ 8 = _
  rw [hcount, toNat_sshiftRight_mod _ (by omega)]
  rfl

theorem toUInt8_shiftRight64 (x : Int64) {k : Nat} (hk : k ≤ 56) :
    (x >>> Int64.ofNat k).toUInt64.toUInt8 =
      UInt8.ofNat (x.toUInt64.toNat / 2 ^ k) := by
  have hcounts : forall k : Fin 64,
      ((Int64.ofNat k).toBitVec.smod 64).toNat = k := by decide
  have hcount : ((Int64.ofNat k).toBitVec.smod 64).toNat = k :=
    hcounts ⟨k, by omega⟩
  apply UInt8.toNat_inj.mp
  rw [UInt8.toNat_ofNat', UInt64.toNat_toUInt8]
  show (x.toBitVec.sshiftRight _).toNat % 2 ^ 8 = _
  rw [hcount, toNat_sshiftRight_mod _ (by omega)]
  rfl

theorem ofNat_mod_div (n : Nat) {k : Nat} (hk : k ≤ 24) :
    UInt8.ofNat (n % 2 ^ 32 / 2 ^ k) = UInt8.ofNat (n / 2 ^ k) := by
  have hword : 2 ^ 32 = 2 ^ k * 2 ^ (32 - k) := by
    rw [← Nat.pow_add]
    congr 1
    omega
  have hbyte : 2 ^ 8 ∣ 2 ^ (32 - k) := Nat.pow_dvd_pow 2 (by omega)
  apply UInt8.toNat_inj.mp
  rw [UInt8.toNat_ofNat', UInt8.toNat_ofNat', hword, Nat.mod_mul_right_div_self]
  exact Nat.mod_mod_of_dvd _ hbyte

theorem toInt_of_toNat_lt {x : Int32} (h : x.toUInt32.toNat < 2 ^ 31) :
    x.toInt = x.toUInt32.toNat := by
  have hhalf : 2 * x.toBitVec.toNat < 2 ^ 32 := by
    show 2 * x.toUInt32.toNat < 2 ^ 32
    omega
  exact BitVec.toInt_eq_toNat_of_lt hhalf

theorem toNat_of_toInt {x : Int32} {n : Nat} (h : x.toInt = n) :
    x.toUInt32.toNat = n := by
  have hle : 0 ≤ x := by
    rw [Int32.le_iff_toInt_le, h]
    exact Int.natCast_nonneg n
  rw [Int32.toNat_toUInt32_of_le hle, ← Int32.toNat_toInt, h, Int.toNat_natCast]

end SignedWord

end Library
end BnsKorea
