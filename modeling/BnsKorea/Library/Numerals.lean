import Mathlib.Data.List.Induction
import Mathlib.Tactic.Ring
import BnsKorea.Library.Printf

/-!
# Numerals of a fixed width

A number is written with zeros in front up to a width, and read back by the number
parsers of the C library: blanks and a sign may stand in front, and what follows
the digits is not looked at.
-/

namespace BnsKorea
namespace Library
namespace Numerals

open Printf

variable {base w n : Nat}

/-!
## Places
-/

def places (base : Nat) : Nat -> Nat -> List Nat
  | 0, _ => []
  | w + 1, n => places base w (n / base) ++ [n % base]

def horner (base : Nat) (digits : List Nat) : Nat :=
  digits.foldl (fun n d => base * n + d) 0

theorem length_places (base w n : Nat) : (places base w n).length = w := by
  induction w generalizing n with
  | zero => rfl
  | succ w ih => rw [places, List.length_append, ih, List.length_singleton]

theorem lt_of_mem_places (hbase : 0 < base) {d : Nat} (hd : d ∈ places base w n) :
    d < base := by
  induction w generalizing n with
  | zero => cases hd
  | succ w ih =>
      rw [places, List.mem_append, List.mem_singleton] at hd
      rcases hd with hd | hd
      · exact ih hd
      · rw [hd]
        exact Nat.mod_lt n hbase

theorem horner_concat (digits : List Nat) (d : Nat) :
    horner base (digits ++ [d]) = base * horner base digits + d := by
  rw [horner, List.foldl_append]
  rfl

theorem horner_places (hn : n < base ^ w) : horner base (places base w n) = n := by
  induction w generalizing n with
  | zero =>
      rw [Nat.pow_zero] at hn
      exact (Nat.lt_one_iff.mp hn).symm
  | succ w ih =>
      have hless : n / base < base ^ w := by
        rw [Nat.pow_succ, Nat.mul_comm] at hn
        exact Nat.div_lt_of_lt_mul hn
      rw [places, horner_concat, ih hless]
      exact Nat.div_add_mod n base

theorem horner_lt {digits : List Nat} (h : forall d, d ∈ digits -> d < base) :
    horner base digits < base ^ digits.length := by
  induction digits using List.reverseRecOn with
  | nil => exact Nat.zero_lt_one
  | append_singleton digits d ih =>
      have hd : d < base := h d (List.mem_append_right _ List.mem_cons_self)
      have hfront := ih fun d' hd' => h d' (List.mem_append_left _ hd')
      rw [horner_concat, List.length_append, List.length_singleton, Nat.pow_succ]
      calc base * horner base digits + d
          < base * horner base digits + base := Nat.add_lt_add_left hd _
        _ = (horner base digits + 1) * base := by ring
        _ ≤ base ^ digits.length * base := Nat.mul_le_mul_right base hfront

/-!
## Writing
-/

def fixed (base w n : Nat) : List UInt16 :=
  (places base w n).map digitUnit

def padded (base w n : Nat) : List UInt16 :=
  (numeral base n).leftpad w 48

theorem length_fixed (base w n : Nat) : (fixed base w n).length = w := by
  rw [fixed, List.length_map, length_places]

theorem fixed_succ (base w n : Nat) :
    fixed base (w + 1) n = fixed base w (n / base) ++ [digitUnit (n % base)] := by
  rw [fixed, places, List.map_append]
  rfl

theorem fixed_zero (base w : Nat) : fixed base w 0 = List.replicate w 48 := by
  induction w with
  | zero => rfl
  | succ w ih =>
      rw [fixed_succ, Nat.zero_div, ih, Nat.zero_mod, List.replicate_succ']
      rfl

theorem fixed_append (hbase : 0 < base) {v m : Nat} (hm : m < base ^ v) :
    fixed base w n ++ fixed base v m = fixed base (w + v) (n * base ^ v + m) := by
  induction v generalizing m with
  | zero =>
      rw [Nat.pow_zero] at hm
      rw [Nat.lt_one_iff.mp hm, Nat.pow_zero, Nat.mul_one]
      exact List.append_nil _
  | succ v ih =>
      have hless : m / base < base ^ v := by
        rw [Nat.pow_succ, Nat.mul_comm] at hm
        exact Nat.div_lt_of_lt_mul hm
      have hdiv : (n * base ^ (v + 1) + m) / base = n * base ^ v + m / base := by
        rw [Nat.pow_succ, ← Nat.mul_assoc, Nat.add_comm,
          Nat.add_mul_div_right _ _ hbase, Nat.add_comm]
      have hmod : (n * base ^ (v + 1) + m) % base = m % base := by
        rw [Nat.pow_succ, ← Nat.mul_assoc, Nat.mul_add_mod_self_right]
      rw [fixed_succ, ← List.append_assoc, ih hless, ← Nat.add_assoc, fixed_succ, hdiv,
        hmod]

theorem digitsFrom_fuel (hbase : 2 ≤ base) {fuel more : Nat} (hfuel : n < fuel)
    (hmore : fuel ≤ more) : digitsFrom base more n = digitsFrom base fuel n := by
  induction fuel generalizing n more with
  | zero => exact absurd hfuel (Nat.not_lt_zero n)
  | succ fuel ih =>
      cases more with
      | zero => exact absurd hmore (Nat.not_succ_le_zero fuel)
      | succ more =>
          rw [digitsFrom, digitsFrom]
          split
          · rfl
          · rename_i hrest
            have hpos : 0 < n := by
              apply Nat.pos_of_ne_zero
              intro hzero
              rw [hzero, Nat.zero_div] at hrest
              exact hrest rfl
            have hless : n / base < n := Nat.div_lt_self hpos hbase
            rw [ih (Nat.lt_of_lt_of_le hless (Nat.le_of_lt_succ hfuel))
              (Nat.le_of_succ_le_succ hmore)]

theorem numeral_last (hn : n < base) :
    numeral base n = [digitUnit n] := by
  rw [numeral, digitsFrom, if_pos (Nat.div_eq_of_lt hn), Nat.mod_eq_of_lt hn]
  rfl

theorem numeral_more (hbase : 2 ≤ base) (hn : base ≤ n) :
    numeral base n = numeral base (n / base) ++ [digitUnit (n % base)] := by
  have hpos : 0 < n := Nat.lt_of_lt_of_le (Nat.lt_of_lt_of_le Nat.zero_lt_two hbase) hn
  have hless : n / base < n := Nat.div_lt_self hpos hbase
  have hrest : n / base ≠ 0 :=
    Nat.ne_of_gt (Nat.div_pos hn (Nat.lt_of_lt_of_le Nat.zero_lt_two hbase))
  rw [numeral, digitsFrom, if_neg hrest,
    digitsFrom_fuel hbase (Nat.lt_succ_self (n / base)) hless, List.map_cons,
    List.reverse_cons, numeral]

theorem leftpad_concat (w : Nat) (a x : UInt16) (text : List UInt16) :
    (text ++ [x]).leftpad (w + 1) a = text.leftpad w a ++ [x] := by
  rw [List.leftpad, List.leftpad, List.length_append, List.length_singleton,
    Nat.add_sub_add_right, List.append_assoc]

theorem padded_eq_fixed (hbase : 2 ≤ base) (hw : w ≠ 0) (hn : n < base ^ w) :
    padded base w n = fixed base w n := by
  induction w generalizing n with
  | zero => exact absurd rfl hw
  | succ w ih =>
      rw [fixed_succ]
      by_cases hlast : n < base
      · rw [padded, numeral_last hlast, Nat.div_eq_of_lt hlast, fixed_zero,
          Nat.mod_eq_of_lt hlast]
        rfl
      · have hge : base ≤ n := Nat.le_of_not_lt hlast
        have hw' : w ≠ 0 := by
          intro hzero
          rw [hzero, Nat.zero_add, Nat.pow_one] at hn
          exact hlast hn
        have hless : n / base < base ^ w := by
          rw [Nat.pow_succ, Nat.mul_comm] at hn
          exact Nat.div_lt_of_lt_mul hn
        rw [padded, numeral_more hbase hge, leftpad_concat, ← ih hw' hless, padded]

theorem le_length_padded (base w n : Nat) : w ≤ (padded base w n).length := by
  rw [padded, List.leftpad, List.length_append, List.length_replicate]
  exact le_tsub_add

theorem mem_padded {c : UInt16} (hc : c ∈ padded 10 w n) : 48 ≤ c ∧ c ≤ 57 := by
  rw [padded, List.leftpad, List.mem_append] at hc
  rcases hc with hc | hc
  · rw [List.eq_of_mem_replicate hc]
    decide
  · exact mem_decimal hc

/-!
## Reading
-/

def isSpace (c : UInt16) : Bool :=
  c = 32 || (9 ≤ c && c ≤ 13)

/-- The digit a unit stands for; letters of both cases are digits from ten on. -/
def digitOf (c : UInt16) : Option Nat :=
  if 48 ≤ c ∧ c ≤ 57 then some (c.toNat - 48)
  else if 65 ≤ c ∧ c ≤ 90 then some (c.toNat - 55)
  else if 97 ≤ c ∧ c ≤ 122 then some (c.toNat - 87)
  else none

def digitsOf (base : Nat) : List UInt16 -> List Nat
  | [] => []
  | c :: text =>
      match digitOf c with
      | none => []
      | some d => if d < base then d :: digitsOf base text else []

/-- Behind `0x`, which may stand in front of a hexadecimal number. -/
def behindPrefix (base : Nat) : List UInt16 -> List UInt16
  | 48 :: x :: text =>
      if base = 16 ∧ (x = 120 ∨ x = 88) then text else 48 :: x :: text
  | text => text

def body (text : List UInt16) : List UInt16 :=
  text.dropWhile isSpace

def Negative (text : List UInt16) : Prop :=
  (body text).head? = some 45

instance (text : List UInt16) : Decidable (Negative text) :=
  inferInstanceAs (Decidable (_ = _))

def unsigned (text : List UInt16) : List UInt16 :=
  if Negative text ∨ (body text).head? = some 43 then (body text).tail else body text

def magnitude (base : Nat) (text : List UInt16) : Nat :=
  horner base (digitsOf base (behindPrefix base (unsigned text)))

/-- `strtol` where a `long` has 32 bits: a number out of range is clamped. -/
def strtol (base : Nat) (text : List UInt16) : Int32 :=
  Int32.ofInt <|
    if Negative text then max (-(magnitude base text : Int)) (-2 ^ 31)
    else min (magnitude base text : Int) (2 ^ 31 - 1)

def atoi (text : List UInt16) : Int32 :=
  strtol 10 text

example : strtol 16 [32, 45, 48, 120, 49, 70, 103] = -31 := by decide

theorem lt_of_mem_digitsOf {text : List UInt16} {d : Nat}
    (hd : d ∈ digitsOf base text) : d < base := by
  induction text with
  | nil => cases hd
  | cons c text ih =>
      rw [digitsOf] at hd
      split at hd
      · cases hd
      · split at hd
        · rename_i hless
          rcases List.mem_cons.mp hd with hd | hd
          · rw [hd]
            exact hless
          · exact ih hd
        · cases hd

theorem length_digitsOf_le (base : Nat) (text : List UInt16) :
    (digitsOf base text).length ≤ text.length := by
  induction text with
  | nil => exact Nat.le_refl 0
  | cons c text ih =>
      rw [digitsOf]
      split
      · exact Nat.zero_le _
      · split
        · exact Nat.succ_le_succ ih
        · exact Nat.zero_le _

theorem length_behindPrefix_le (base : Nat) (text : List UInt16) :
    (behindPrefix base text).length ≤ text.length := by
  unfold behindPrefix
  split
  · split
    · exact Nat.le_add_right _ 2
    · exact Nat.le_refl _
  · exact Nat.le_refl _

theorem magnitude_lt {text : List UInt16} {k : Nat} (hbase : 0 < base)
    (htext : text.length ≤ k + 1) :
    magnitude base text < base ^ (k + 1) ∧
      (Negative text -> magnitude base text < base ^ k) := by
  have hbody : (body text).length ≤ text.length :=
    (List.dropWhile_sublist isSpace).length_le
  have hless : forall {m}, (unsigned text).length ≤ m ->
      magnitude base text < base ^ m := by
    intro m hm
    have hdigits := length_digitsOf_le base (behindPrefix base (unsigned text))
    have hbehind := length_behindPrefix_le base (unsigned text)
    exact Nat.lt_of_lt_of_le (horner_lt fun _ => lt_of_mem_digitsOf)
      (Nat.pow_le_pow_right hbase (hdigits.trans (hbehind.trans hm)))
  have htail : (body text).tail.length ≤ k := by
    rw [List.length_tail]
    exact Nat.sub_le_of_le_add (hbody.trans htext)
  constructor
  · apply hless
    unfold unsigned
    split
    · exact htail.trans (Nat.le_succ k)
    · exact hbody.trans htext
  · intro hnegative
    apply hless
    rw [unsigned, if_pos (Or.inl hnegative)]
    exact htail

theorem toInt_strtol (base : Nat) (text : List UInt16) :
    (strtol base text).toInt =
      if Negative text then max (-(magnitude base text : Int)) (-2 ^ 31)
      else min (magnitude base text : Int) (2 ^ 31 - 1) := by
  apply Int32.toInt_ofInt_of_le
  · split <;> omega
  · split <;> omega

theorem toInt_atoi_range {text : List UInt16} {k : Nat} (htext : text.length ≤ k + 1) :
    -(10 ^ k : Int) < (atoi text).toInt ∧ (atoi text).toInt < (10 ^ (k + 1) : Int) := by
  have hlt := magnitude_lt (by decide : 0 < 10) htext
  have hpow : (0 : Int) < 10 ^ k := by positivity
  have hpow' : (0 : Int) < 10 ^ (k + 1) := by positivity
  have hwhole : (magnitude 10 text : Int) < 10 ^ (k + 1) := by exact_mod_cast hlt.left
  rw [atoi, toInt_strtol]
  split
  · rename_i hnegative
    have hpart : (magnitude 10 text : Int) < 10 ^ k := by
      exact_mod_cast hlt.right hnegative
    omega
  · omega

/-!
## Reading what was written
-/

section

variable {digits : List Nat}

theorem digitsOf_map (hbase : base ≤ 16) (h : forall d, d ∈ digits -> d < base) :
    digitsOf base (digits.map digitUnit) = digits := by
  have hall : forall d, d < 16 -> digitOf (digitUnit d) = some d := by decide
  induction digits with
  | nil => rfl
  | cons d digits ih =>
      have hd := h d List.mem_cons_self
      rw [List.map_cons, digitsOf, hall d (Nat.lt_of_lt_of_le hd hbase)]
      dsimp only
      rw [if_pos hd, ih fun d' hd' => h d' (List.mem_cons_of_mem _ hd')]

theorem behindPrefix_map (h : forall d, d ∈ digits -> d < 16) :
    behindPrefix base (digits.map digitUnit) = digits.map digitUnit := by
  have hall : forall d, d < 16 -> digitUnit d ≠ 120 ∧ digitUnit d ≠ 88 := by decide
  unfold behindPrefix
  split
  · rename_i x text heq
    rw [if_neg, heq]
    intro hprefix
    have hx : x ∈ digits.map digitUnit := by
      rw [heq]
      exact List.mem_cons_of_mem _ List.mem_cons_self
    rcases List.mem_map.mp hx with ⟨d, hd, hdx⟩
    have hno := hall d (h d hd)
    rw [hdx] at hno
    exact hprefix.right.elim hno.left hno.right
  · rfl

theorem body_map (h : forall d, d ∈ digits -> d < 16) :
    body (digits.map digitUnit) = digits.map digitUnit := by
  have hall : forall d, d < 16 -> isSpace (digitUnit d) = false := by decide
  cases digits with
  | nil => rfl
  | cons d digits =>
      rw [body, List.map_cons, List.dropWhile_cons, hall d (h d List.mem_cons_self)]
      rfl

theorem head?_map_digitUnit (h : forall d, d ∈ digits -> d < 16) :
    (digits.map digitUnit).head? ≠ some 45 ∧
      (digits.map digitUnit).head? ≠ some 43 := by
  have hall : forall d, d < 16 -> digitUnit d ≠ 45 ∧ digitUnit d ≠ 43 := by decide
  cases digits with
  | nil => exact ⟨nofun, nofun⟩
  | cons d digits =>
      have hd := hall d (h d List.mem_cons_self)
      exact ⟨fun heq => hd.left (Option.some.inj heq),
        fun heq => hd.right (Option.some.inj heq)⟩

theorem toInt_strtol_map (hbase : base ≤ 16) (h : forall d, d ∈ digits -> d < base) :
    (strtol base (digits.map digitUnit)).toInt =
      min (horner base digits : Int) (2 ^ 31 - 1) := by
  have h' : forall d, d ∈ digits -> d < 16 :=
    fun d hd => Nat.lt_of_lt_of_le (h d hd) hbase
  have hhead := head?_map_digitUnit h'
  have hpositive : ¬ Negative (digits.map digitUnit) := by
    rw [Negative, body_map h']
    exact hhead.left
  have hunsigned : unsigned (digits.map digitUnit) = digits.map digitUnit := by
    rw [unsigned, body_map h', if_neg]
    rintro (hsign | hsign)
    · exact hpositive hsign
    · exact hhead.right hsign
  rw [toInt_strtol, if_neg hpositive, magnitude, hunsigned, behindPrefix_map h',
    digitsOf_map hbase h]

theorem toInt_strtol_minus (hbase : base ≤ 16) (h : forall d, d ∈ digits -> d < base) :
    (strtol base (45 :: digits.map digitUnit)).toInt =
      max (-(horner base digits : Int)) (-2 ^ 31) := by
  have h' : forall d, d ∈ digits -> d < 16 :=
    fun d hd => Nat.lt_of_lt_of_le (h d hd) hbase
  have hnegative : Negative (45 :: digits.map digitUnit) := rfl
  have hunsigned : unsigned (45 :: digits.map digitUnit) = digits.map digitUnit := by
    rw [unsigned, if_pos (Or.inl hnegative)]
    rfl
  rw [toInt_strtol, if_pos hnegative, magnitude, hunsigned, behindPrefix_map h',
    digitsOf_map hbase h]

end

theorem toInt_strtol_fixed (hbase : 0 < base) (hbase' : base ≤ 16)
    (hn : n < base ^ w) (hrange : n < 2 ^ 31) :
    (strtol base (fixed base w n)).toInt = n := by
  rw [fixed, toInt_strtol_map hbase' fun d => lt_of_mem_places hbase, horner_places hn]
  exact min_eq_left (by omega)

theorem toInt_strtol_minus_fixed (hbase : 0 < base) (hbase' : base ≤ 16)
    (hn : n < base ^ w) (hrange : n < 2 ^ 31) :
    (strtol base (45 :: fixed base w n)).toInt = -n := by
  rw [fixed, toInt_strtol_minus hbase' fun d => lt_of_mem_places hbase,
    horner_places hn]
  exact max_eq_left (by omega)

end Numerals
end Library
end BnsKorea
