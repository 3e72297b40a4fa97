import Mathlib.Data.Nat.Digits.Defs

/-!
# Formatted text

The part of `swprintf` that formats 32-bit arguments with `%X` and `%d`.  A
numeral determines its number and has no punctuation in it, so a text made of
numerals and separators determines its arguments.
-/

namespace BnsKorea
namespace Library
namespace Printf

/-!
## Numerals
-/

/-- The digits of a number, the last one first; there are `fuel` at most. -/
def digitsFrom (base : Nat) : Nat -> Nat -> List Nat
  | 0, _ => []
  | fuel + 1, n =>
      (n % base) :: if n / base = 0 then [] else digitsFrom base fuel (n / base)

theorem ofDigits_digitsFrom {base : Nat} (hbase : 2 ≤ base) {fuel n : Nat}
    (hfuel : n < fuel) : Nat.ofDigits base (digitsFrom base fuel n) = n := by
  induction fuel generalizing n with
  | zero => omega
  | succ fuel ih =>
      rw [digitsFrom, Nat.ofDigits_cons]
      by_cases hlast : n / base = 0
      · have hmod := Nat.mod_add_div n base
        rw [hlast] at hmod
        rw [if_pos hlast, Nat.ofDigits_nil]
        exact hmod
      · have hpos : 0 < n := by
          by_contra hn
          have hzero : n = 0 := by omega
          rw [hzero, Nat.zero_div] at hlast
          exact hlast rfl
        have hless : n / base < n := Nat.div_lt_self hpos hbase
        rw [if_neg hlast, ih (by omega)]
        exact Nat.mod_add_div n base

theorem lt_of_mem_digitsFrom {base : Nat} (hbase : 2 ≤ base) {fuel n d : Nat}
    (hd : d ∈ digitsFrom base fuel n) : d < base := by
  induction fuel generalizing n with
  | zero => cases hd
  | succ fuel ih =>
      rw [digitsFrom] at hd
      rcases List.mem_cons.mp hd with hd | hd
      · rw [hd]
        exact Nat.mod_lt n (by omega)
      · split at hd
        · cases hd
        · exact ih hd

/-- The code unit of a digit, `0` to `9` and then `A` to `F`. -/
def digitUnit (d : Nat) : UInt16 :=
  UInt16.ofNat (if d < 10 then 48 + d else 55 + d)

def unitDigit (c : UInt16) : Nat :=
  if c.toNat < 58 then c.toNat - 48 else c.toNat - 55

theorem unitDigit_digitUnit {d : Nat} (hd : d < 16) :
    unitDigit (digitUnit d) = d := by
  have hall : forall d, d < 16 -> unitDigit (digitUnit d) = d := by decide
  exact hall d hd

def numeral (base n : Nat) : List UInt16 :=
  ((digitsFrom base (n + 1) n).map digitUnit).reverse

def valueOf (base : Nat) (text : List UInt16) : Nat :=
  Nat.ofDigits base (text.reverse.map unitDigit)

theorem valueOf_numeral {base : Nat} (hbase : 2 ≤ base) (hbase' : base ≤ 16)
    (n : Nat) : valueOf base (numeral base n) = n := by
  have hdigits : ((digitsFrom base (n + 1) n).map digitUnit).map unitDigit =
      digitsFrom base (n + 1) n := by
    rw [List.map_map]
    conv => rhs; rw [← List.map_id (digitsFrom base (n + 1) n)]
    apply List.map_congr_left
    intro d hd
    have hlt := lt_of_mem_digitsFrom hbase hd
    exact unitDigit_digitUnit (by omega)
  rw [valueOf, numeral, List.reverse_reverse, hdigits]
  exact ofDigits_digitsFrom hbase (Nat.lt_succ_self n)

theorem numeral_injective {base : Nat} (hbase : 2 ≤ base) (hbase' : base ≤ 16)
    {n m : Nat} (h : numeral base n = numeral base m) : n = m := by
  rw [← valueOf_numeral hbase hbase' n, h, valueOf_numeral hbase hbase' m]

theorem not_mem_numeral {base : Nat} (hbase : 2 ≤ base) (hbase' : base ≤ 16)
    (n : Nat) {c : UInt16} (hc : forall d, d < 16 -> digitUnit d ≠ c) :
    c ∉ numeral base n := by
  intro hmem
  rw [numeral, List.mem_reverse, List.mem_map] at hmem
  rcases hmem with ⟨d, hd, hdc⟩
  have hlt := lt_of_mem_digitsFrom hbase hd
  exact hc d (by omega) hdc

theorem numeral_ne_nil (base n : Nat) : numeral base n ≠ [] := by
  rw [numeral, digitsFrom, List.map_cons, List.reverse_cons]
  exact List.append_ne_nil_of_right_ne_nil _ (List.cons_ne_nil _ _)

theorem mem_decimal {n : Nat} {c : UInt16} (hc : c ∈ numeral 10 n) :
    48 ≤ c ∧ c ≤ 57 := by
  have hall : forall d, d < 10 -> 48 ≤ digitUnit d ∧ digitUnit d ≤ 57 := by decide
  rw [numeral, List.mem_reverse, List.mem_map] at hc
  rcases hc with ⟨d, hd, hdc⟩
  rw [← hdc]
  exact hall d (lt_of_mem_digitsFrom (by decide) hd)

theorem length_digitsFrom_le {base k : Nat} (hbase : 0 < base) {fuel n : Nat}
    (hn : n < base ^ (k + 1)) : (digitsFrom base fuel n).length ≤ k + 1 := by
  induction fuel generalizing n k with
  | zero => exact Nat.zero_le _
  | succ fuel ih =>
      rw [digitsFrom, List.length_cons]
      split
      · exact Nat.succ_le_succ (Nat.zero_le k)
      · rename_i hmore
        cases k with
        | zero =>
            rw [Nat.zero_add, Nat.pow_one] at hn
            exact absurd (Nat.div_eq_of_lt hn) hmore
        | succ k =>
            have hless : n / base < base ^ (k + 1) := by
              rw [Nat.div_lt_iff_lt_mul hbase, ← Nat.pow_succ]
              exact hn
            exact Nat.succ_le_succ (ih hless)

theorem length_numeral_le {base k n : Nat} (hbase : 0 < base)
    (hn : n < base ^ (k + 1)) : (numeral base n).length ≤ k + 1 := by
  rw [numeral, List.length_reverse, List.length_map]
  exact length_digitsFrom_le hbase hn

/-!
## Conversions
-/

/-- `%X`. -/
def hex (v : UInt32) : List UInt16 :=
  numeral 16 v.toNat

/-- `%d` takes the argument for a signed number. -/
def dec (v : UInt32) : List UInt16 :=
  if v.toNat < 2 ^ 31 then numeral 10 v.toNat
  else 45 :: numeral 10 (2 ^ 32 - v.toNat)

theorem hex_injective {v w : UInt32} (h : hex v = hex w) : v = w :=
  UInt32.toNat_inj.mp (numeral_injective (by decide) (by decide) h)

theorem not_mem_hex (v : UInt32) {c : UInt16}
    (hc : forall d, d < 16 -> digitUnit d ≠ c) : c ∉ hex v :=
  not_mem_numeral (by decide) (by decide) v.toNat hc

theorem dec_injective {v w : UInt32} (h : dec v = dec w) : v = w := by
  have hminus : forall n m, numeral 10 n ≠ 45 :: numeral 10 m := by
    intro n m heq
    have hmem : (45 : UInt16) ∈ numeral 10 n := by
      rw [heq]
      exact List.mem_cons_self
    exact not_mem_numeral (by decide) (by decide) n (by decide) hmem
  apply UInt32.toNat_inj.mp
  unfold dec at h
  split at h
  · split at h
    · exact numeral_injective (by decide) (by decide) h
    · exact absurd h (hminus _ _)
  · split at h
    · exact absurd h.symm (hminus _ _)
    · have htail := (List.cons.inj h).right
      have heq := numeral_injective (by decide) (by decide) htail
      have hv := v.toNat_lt
      have hw := w.toNat_lt
      omega

/-- The formats with `%X` and `%d`; other units stand for themselves. -/
def swprintf : List UInt16 -> List UInt32 -> List UInt16
  | [], _ => []
  | [c], _ => [c]
  | c :: k :: format, [] => c :: swprintf (k :: format) []
  | c :: k :: format, v :: args =>
      if c = 37 ∧ k = 88 then hex v ++ swprintf format args
      else if c = 37 ∧ k = 100 then dec v ++ swprintf format args
      else c :: swprintf (k :: format) (v :: args)

/-- The formats with `%s`, whose arguments are texts. -/
def swprintfTexts : List UInt16 -> List (List UInt16) -> List UInt16
  | [], _ => []
  | [c], _ => [c]
  | c :: k :: format, [] => c :: swprintfTexts (k :: format) []
  | c :: k :: format, text :: args =>
      if c = 37 ∧ k = 115 then text ++ swprintfTexts format args
      else c :: swprintfTexts (k :: format) (text :: args)

theorem cut_at_separator {sep : UInt16} {xs xs' ys ys' : List UInt16}
    (hxs : sep ∉ xs) (hxs' : sep ∉ xs')
    (h : xs ++ sep :: ys = xs' ++ sep :: ys') : xs = xs' ∧ ys = ys' := by
  induction xs generalizing xs' with
  | nil =>
      cases xs' with
      | nil => exact ⟨rfl, (List.cons.inj h).right⟩
      | cons x' xs' =>
          have hhead := (List.cons.inj h).left
          rw [hhead] at hxs'
          exact absurd List.mem_cons_self hxs'
  | cons x xs ih =>
      cases xs' with
      | nil =>
          have hhead := (List.cons.inj h).left
          rw [hhead] at hxs
          exact absurd List.mem_cons_self hxs
      | cons x' xs' =>
          rcases List.cons.inj h with ⟨hhead, htail⟩
          rcases ih (fun hmem => hxs (List.mem_cons_of_mem _ hmem))
            (fun hmem => hxs' (List.mem_cons_of_mem _ hmem)) htail with
            ⟨hxs, hys⟩
          exact ⟨by rw [hhead, hxs], hys⟩

end Printf
end Library
end BnsKorea
