import BnsKorea.Otp.Sha1
import BnsKorea.Library.Sha1

/-!
# The rounds of the hash

The eighty unrolled rounds, with the variables changing places and the schedule
overwriting itself, are the rounds of the standard.
-/

namespace BnsKorea
namespace CLHmacSha1

open Library

/-!
## Words
-/

theorem and_mask (n : Nat) : n &&& 0xff00 = n / 256 % 256 * 256 := by
  have hshift : n / 256 % 256 * 256 = ((n >>> 8) &&& (2 ^ 8 - 1)) <<< 8 := by
    rw [Nat.and_two_pow_sub_one_eq_mod, Nat.shiftLeft_eq,
      Nat.shiftRight_eq_div_pow]
  have hmask : (0xff00 : Nat) = (2 ^ 8 - 1) <<< 8 := by decide
  rw [hshift, hmask]
  apply Nat.eq_of_testBit_eq
  intro i
  rw [Nat.testBit_and, Nat.testBit_shiftLeft, Nat.testBit_shiftLeft,
    Nat.testBit_and, Nat.testBit_shiftRight]
  by_cases h : 8 ≤ i
  · simp [h]
  · simp [h]

theorem swap_toNat {n : DWORD} {a b c d : Nat} (hb : b < 256) (hc : c < 256)
    (hd : d < 256) (hn : n.toNat = ((a * 256 + b) * 256 + c) * 256 + d) :
    (swap n).toNat = ((d * 256 + c) * 256 + b) * 256 + a := by
  have hlt := n.toNat_lt
  have hleft : (n <<< 24).toNat = d * 2 ^ 24 := by
    rw [UInt32.toNat_shiftLeft]
    show n.toNat <<< 24 % 2 ^ 32 = _
    rw [Nat.shiftLeft_eq]
    omega
  have hinner : ((n &&& (0xff00 : DWORD)) <<< 8).toNat = c * 2 ^ 16 := by
    rw [UInt32.toNat_shiftLeft, UInt32.toNat_and]
    show (n.toNat &&& 0xff00) <<< 8 % 2 ^ 32 = _
    rw [and_mask, Nat.shiftLeft_eq]
    omega
  have hinner' : ((n >>> 8) &&& (0xff00 : DWORD)).toNat = b * 2 ^ 8 := by
    rw [UInt32.toNat_and, UInt32.toNat_shiftRight]
    show n.toNat >>> 8 &&& 0xff00 = _
    rw [and_mask, Nat.shiftRight_eq_div_pow]
    omega
  have hright : (n >>> 24).toNat = a := by
    rw [UInt32.toNat_shiftRight]
    show n.toNat >>> 24 = _
    rw [Nat.shiftRight_eq_div_pow]
    omega
  rw [swap, UInt32.toNat_or, UInt32.toNat_or, UInt32.toNat_or, hleft, hinner,
    hinner', hright]
  exact Bytes.or_four d hc hb (by omega)

theorem swap_readWord {bytes : List BYTE} (h : bytes.length = 4) :
    swap (readWord bytes) = Sha1.word bytes := by
  match bytes, h with
  | [a, b, c, d], _ =>
      have ha := a.toNat_lt
      have hb := b.toNat_lt
      have hc := c.toNat_lt
      have hd := d.toNat_lt
      have hread : (readWord [a, b, c, d]).toNat =
          ((d.toNat * 256 + c.toNat) * 256 + b.toNat) * 256 + a.toNat := by
        rw [readWord, UInt32.toNat_ofNat']
        show Bytes.toNat [d, c, b, a] % 2 ^ 32 = _
        rw [Bytes.toNat_four]
        omega
      apply UInt32.toNat_inj.mp
      rw [swap_toNat hc hb ha hread, Sha1.word, UInt32.toNat_ofNat',
        Bytes.toNat_four]
      omega

theorem setValue_swap (v : DWORD) :
    setValue (swap v) = Bytes.ofNat 4 v.toNat := by
  rcases Bytes.exists_four v.toNat_lt with ⟨a, b, c, d, ha, hb, hc, hd, hv⟩
  rw [setValue, swap_toNat hb hc hd hv, hv, Bytes.ofNat_four d hc hb ha,
    Bytes.ofNat_four a hb hc hd]
  rfl

/-!
## The functions of the rounds
-/

theorem f1_eq : f1 = Sha1.ch := by
  funext B C D
  apply UInt32.eq_of_toBitVec_eq
  ext i hi
  simp only [f1, Sha1.ch, UInt32.toBitVec_xor, UInt32.toBitVec_and,
    UInt32.toBitVec_not, BitVec.getElem_xor, BitVec.getElem_and,
    BitVec.getElem_not]
  cases B.toBitVec[i] <;> cases C.toBitVec[i] <;> cases D.toBitVec[i] <;> rfl

theorem f3_eq : f3 = Sha1.maj := by
  funext B C D
  apply UInt32.eq_of_toBitVec_eq
  ext i hi
  simp only [f3, Sha1.maj, UInt32.toBitVec_xor, UInt32.toBitVec_and,
    UInt32.toBitVec_or, BitVec.getElem_xor, BitVec.getElem_and,
    BitVec.getElem_or]
  cases B.toBitVec[i] <;> cases C.toBitVec[i] <;> cases D.toBitVec[i] <;> rfl

/-!
## The list of the rounds
-/

def place : Nat -> Register
  | 0 => .a
  | 1 => .b
  | 2 => .c
  | 3 => .d
  | _ => .e

/-- The `j`-th variable of round `t`: from round to round each moves on by one. -/
def variableAt (t j : Nat) : Register :=
  place ((4 * t + j) % 5)

def roundAt (t : Nat) : Round where
  A := variableAt t 0
  B := variableAt t 1
  C := variableAt t 2
  D := variableAt t 3
  E := variableAt t 4
  F := if t < 20 then f1 else if t < 40 then f2 else if t < 60 then f3 else f4
  K := if t < 20 then k1 else if t < 40 then k2 else if t < 60 then k3 else k4
  M := if t < 16 then .x t else .M t

theorem rounds_eq : rounds = (List.range 80).map roundAt :=
  rfl

theorem roundAt_F (t : Nat) : (roundAt t).F = Sha1.f t := by
  show (if t < 20 then f1 else _) = _
  rw [f1_eq, f3_eq]
  rfl

theorem roundAt_K (t : Nat) : (roundAt t).K = Sha1.k t :=
  rfl

theorem place_inj {i j : Nat} (hi : i < 5) (hj : j < 5)
    (h : place i = place j) : i = j := by
  have hall : forall i j : Fin 5, place i = place j -> i = j := by decide
  exact congrArg Fin.val (hall ⟨i, hi⟩ ⟨j, hj⟩ h)

theorem variableAt_ne {t i j : Nat} (hi : i < 5) (hj : j < 5) (hij : i ≠ j) :
    variableAt t i ≠ variableAt t j := by
  intro h
  have hplace := place_inj (Nat.mod_lt _ (by decide)) (Nat.mod_lt _ (by decide)) h
  omega

theorem variableAt_succ_zero (t : Nat) : variableAt (t + 1) 0 = variableAt t 4 :=
  rfl

theorem variableAt_succ (t j : Nat) :
    variableAt (t + 1) (j + 1) = variableAt t j := by
  unfold variableAt
  congr 1
  omega

/-!
## The schedule
-/

/-- The words of a schedule, each from four of the sixteen before it. -/
def IsSchedule (W : Nat -> DWORD) : Prop :=
  forall n, n < 64 -> W (n + 16) =
    Sha1.rotl 1 (W (n + 13) ^^^ W (n + 8) ^^^ W (n + 2) ^^^ W n)

/-- Before round `t` the array holds the last sixteen words that are there. -/
structure InWindow (W : Nat -> DWORD) (t : Nat) (x : List DWORD) : Prop where
  length : x.length = 16
  holds : forall i, i < max t 16 -> max t 16 ≤ i + 16 ->
    x.getD (i % 16) 0 = W i

variable {W : Nat -> DWORD} {t : Nat} {x : List DWORD} {r : Registers}

theorem InWindow.succ_of_lt (h : InWindow W t x) (ht : t < 16) :
    InWindow W (t + 1) x where
  length := h.length
  holds := by
    intro i hi hle
    apply h.holds i <;> omega

theorem InWindow.set (h : InWindow W t x) (ht : 16 ≤ t) :
    InWindow W (t + 1) (x.set (t % 16) (W t)) where
  length := by rw [List.length_set, h.length]
  holds := by
    intro i hi hle
    rcases Nat.eq_or_lt_of_le (Nat.le_of_lt_succ (by omega : i < t + 1)) with
      heq | hlt
    · have hplace : t % 16 < x.length := by
        rw [h.length]
        omega
      rw [heq, List.getD_eq_getElem _ _ (by rwa [List.length_set]),
        List.getElem_set_self]
    · have hne : t % 16 ≠ i % 16 := by omega
      rw [List.getD_eq_getElem?_getD, List.getElem?_set_ne hne,
        ← List.getD_eq_getElem?_getD]
      exact h.holds i (by omega) (by omega)

theorem and_fifteen (I : Nat) : I &&& 0x0f = I % 16 :=
  Nat.and_two_pow_sub_one_eq_mod I 4

theorem InWindow.eval (h : InWindow W t x) (hW : IsSchedule W) (ht : t < 80) :
    ((roundAt t).M.eval x).1 = W t ∧
      InWindow W (t + 1) ((roundAt t).M.eval x).2 := by
  rcases Nat.lt_or_ge t 16 with hlt | hge
  · have hM : (roundAt t).M = .x t := if_pos hlt
    rw [hM]
    refine ⟨?_, h.succ_of_lt hlt⟩
    show x.getD t 0 = W t
    rw [← h.holds t (by omega) (by omega), Nat.mod_eq_of_lt hlt]
  · rcases Nat.exists_eq_add_of_le' hge with ⟨n, hn⟩
    have hM : (roundAt t).M = .M t := if_neg (Nat.not_lt.mpr hge)
    have holdest : x.getD (t % 16) 0 = W n := by
      rw [hn, Nat.add_mod_right]
      exact h.holds n (by omega) (by omega)
    have hnext : rol (x.getD (t &&& 0x0f) 0 ^^^ x.getD ((t - 14) &&& 0x0f) 0 ^^^
        x.getD ((t - 8) &&& 0x0f) 0 ^^^ x.getD ((t - 3) &&& 0x0f) 0) 1 = W t := by
      rw [and_fifteen, and_fifteen, and_fifteen, and_fifteen, holdest,
        h.holds (t - 14) (by omega) (by omega),
        h.holds (t - 8) (by omega) (by omega),
        h.holds (t - 3) (by omega) (by omega), hn, hW n (by omega)]
      show rol (W n ^^^ W (n + 2) ^^^ W (n + 8) ^^^ W (n + 13)) 1 =
        rol (W (n + 13) ^^^ W (n + 8) ^^^ W (n + 2) ^^^ W n) 1
      congr 1
      ac_rfl
    rw [hM]
    show rol _ 1 = W t ∧ InWindow W (t + 1) (x.set (t &&& 0x0f) (rol _ 1))
    rw [hnext, and_fifteen]
    exact ⟨rfl, h.set hge⟩

/-!
## One round
-/

theorem Registers.get_set_self (r : Registers) (v : DWORD) (A : Register) :
    (r.set v A).get A = v := by
  cases A <;> rfl

theorem Registers.get_set_of_ne (r : Registers) (v : DWORD) {A B : Register}
    (h : B ≠ A) : (r.set v A).get B = r.get B := by
  cases A <;> cases B <;> first | rfl | exact False.elim (h rfl)

/-- The variables in the order of round `t`. -/
def inOrder (t : Nat) (r : Registers) : Sha1.Hash where
  a := r.get (variableAt t 0)
  b := r.get (variableAt t 1)
  c := r.get (variableAt t 2)
  d := r.get (variableAt t 3)
  e := r.get (variableAt t 4)

theorem inOrder_run (h : InWindow W t x) (hW : IsSchedule W) (ht : t < 80) :
    inOrder (t + 1) (Round.run (r, x) (roundAt t)).1 =
      Sha1.round W (inOrder t r) t := by
  let A := variableAt t 0
  let B := variableAt t 1
  let C := variableAt t 2
  let D := variableAt t 3
  let E := variableAt t 4
  let v := r.get E + (rol (r.get A) 5 +
    Sha1.f t (r.get B) (r.get C) (r.get D) + Sha1.k t + W t)
  have hrun : (Round.run (r, x) (roundAt t)).1 =
      (r.set v E).set (rol ((r.set v E).get B) 30) B := by
    rw [Round.run, roundAt_F, roundAt_K, (h.eval hW ht).left]
    rfl
  have hBE : B ≠ E := variableAt_ne (by decide) (by decide) (by decide)
  have hother : forall {F}, F ≠ B -> F ≠ E ->
      ((r.set v E).set (rol ((r.set v E).get B) 30) B).get F = r.get F := by
    intro F hFB hFE
    rw [Registers.get_set_of_ne _ _ hFB, Registers.get_set_of_ne _ _ hFE]
  have hA := hother (variableAt_ne (by decide) (by decide) (by decide) : A ≠ B)
    (variableAt_ne (by decide) (by decide) (by decide))
  have hC := hother (variableAt_ne (by decide) (by decide) (by decide) : C ≠ B)
    (variableAt_ne (by decide) (by decide) (by decide))
  have hD := hother (variableAt_ne (by decide) (by decide) (by decide) : D ≠ B)
    (variableAt_ne (by decide) (by decide) (by decide))
  rw [hrun, inOrder, variableAt_succ_zero, variableAt_succ t 0,
    variableAt_succ t 1, variableAt_succ t 2, variableAt_succ t 3, hA, hC, hD,
    Registers.get_set_of_ne _ _ hBE.symm, Registers.get_set_self,
    Registers.get_set_self, Registers.get_set_of_ne _ _ hBE, Sha1.round]
  congr 1
  show r.get E + (rol (r.get A) 5 + Sha1.f t (r.get B) (r.get C) (r.get D) +
    Sha1.k t + W t) = rol (r.get A) 5 + Sha1.f t (r.get B) (r.get C) (r.get D) +
      r.get E + Sha1.k t + W t
  ac_rfl

/-!
## All rounds
-/

def Sha1_ctx.hash (Sha1Ctx : Sha1_ctx) : Sha1.Hash where
  a := Sha1Ctx.A
  b := Sha1Ctx.B
  c := Sha1Ctx.C
  d := Sha1Ctx.D
  e := Sha1Ctx.E

/-- After `n` rounds the variables and the array are where the standard is. -/
theorem run_rounds (hx : InWindow W 0 x) (hW : IsSchedule W) {n : Nat}
    (hn : n ≤ 80) :
    let s := ((List.range n).map roundAt).foldl Round.run (r, x)
    inOrder n s.1 = (List.range n).foldl (Sha1.round W) (inOrder 0 r) ∧
      InWindow W n s.2 := by
  induction n with
  | zero => exact ⟨rfl, hx⟩
  | succ n ih =>
      rcases ih (Nat.le_of_succ_le hn) with ⟨horder, hwindow⟩
      have hlt := Nat.lt_of_succ_le hn
      rw [List.range_succ, List.map_append, List.foldl_append, List.foldl_append,
        ← horder]
      exact ⟨inOrder_run hwindow hW hlt, (hwindow.eval hW hlt).right⟩

theorem inOrder_zero (r : Registers) :
    inOrder 0 r = { a := r.a, b := r.b, c := r.c, d := r.d, e := r.e } :=
  rfl

theorem inOrder_eighty (r : Registers) :
    inOrder 80 r = { a := r.a, b := r.b, c := r.c, d := r.d, e := r.e } :=
  rfl

theorem inWindow_block {M : List DWORD} (hM : M.length = 16) :
    InWindow (Sha1.w M) 0 M where
  length := hM
  holds := by
    intro i hi _
    rw [Nat.mod_eq_of_lt (by omega), Sha1.w_of_lt (by omega)]

theorem run_block {M : List DWORD} (hM : M.length = 16) (r : Registers) :
    let s := (rounds.foldl Round.run (r, M)).1
    Sha1.rounds (Sha1.w M) { a := r.a, b := r.b, c := r.c, d := r.d, e := r.e } =
      { a := s.a, b := s.b, c := s.c, d := s.d, e := s.e } := by
  intro s
  have hrun := (run_rounds (r := r) (inWindow_block hM)
    (fun n hn => Sha1.w_add_sixteen hM hn) (Nat.le_refl 80)).left
  rw [← rounds_eq, inOrder_zero, inOrder_eighty] at hrun
  exact hrun.symm

theorem hash_pass {Sha1Ctx : Sha1_ctx} {block : List BYTE}
    (h : block.length = 64) :
    (Sha1Ctx.pass block).hash = Sha1.compress Sha1Ctx.hash block := by
  have hwords : (chunks 4 block).map (fun words => swap (readWord words)) =
      (chunks 4 block).map Sha1.word := by
    apply List.map_congr_left
    intro words hwords
    exact swap_readWord (length_of_mem_chunks hwords)
  have hlength : ((chunks 4 block).map Sha1.word).length = 16 := by
    rw [List.length_map, chunks, List.length_map, List.length_range, h]
  have hrun := run_block hlength
    { a := Sha1Ctx.A
      b := Sha1Ctx.B
      c := Sha1Ctx.C
      d := Sha1Ctx.D
      e := Sha1Ctx.E }
  rw [Sha1.compress, Sha1_ctx.hash, Sha1_ctx.hash, hrun]
  simp only [Sha1_ctx.pass, hwords, UInt32.add_comm]

end CLHmacSha1
end BnsKorea
