import Mathlib.Data.List.GetD
import BnsKorea.Library.Bytes

/-!
# SHA-1

The hash function of FIPS 180-4 on messages of whole bytes, in the words of the
standard, and the law that a message can be hashed block by block.
-/

namespace BnsKorea
namespace Library
namespace Sha1

abbrev Word := UInt32

/-!
## Words
-/

def rotl (n x : Word) : Word :=
  x <<< n ||| x >>> (32 - n)

def ch (x y z : Word) : Word :=
  (x &&& y) ^^^ (~~~x &&& z)

def parity (x y z : Word) : Word :=
  x ^^^ y ^^^ z

def maj (x y z : Word) : Word :=
  (x &&& y) ^^^ (x &&& z) ^^^ (y &&& z)

/-- The logical function of round `t`. -/
def f (t : Nat) : Word -> Word -> Word -> Word :=
  if t < 20 then ch else if t < 40 then parity else if t < 60 then maj else parity

/-- The constant of round `t`. -/
def k (t : Nat) : Word :=
  if t < 20 then 0x5a827999
  else if t < 40 then 0x6ed9eba1
  else if t < 60 then 0x8f1bbcdc
  else 0xca62c1d6

def word (bytes : List Byte) : Word :=
  UInt32.ofNat (Bytes.toNat bytes)

/-!
## The message schedule
-/

/-- The words of the block, and `n` words more. -/
def schedule (M : List Word) : Nat -> List Word
  | 0 => M
  | n + 1 =>
      let ws := schedule M n
      ws ++ [rotl 1 (ws.getD (n + 13) 0 ^^^ ws.getD (n + 8) 0 ^^^
        ws.getD (n + 2) 0 ^^^ ws.getD n 0)]

/-- The word of round `t`. -/
def w (M : List Word) (t : Nat) : Word :=
  (schedule M 64).getD t 0

section

variable {M : List Word}

theorem length_schedule (M : List Word) (n : Nat) :
    (schedule M n).length = M.length + n := by
  induction n with
  | zero => rfl
  | succ n ih =>
      rw [schedule, List.length_append, ih]
      rfl

theorem getD_schedule {m n t : Nat} (ht : t < M.length + m) (hmn : m ≤ n) :
    (schedule M n).getD t 0 = (schedule M m).getD t 0 := by
  induction n with
  | zero => rw [Nat.le_zero.mp hmn]
  | succ n ih =>
      rcases Nat.eq_or_lt_of_le hmn with heq | hlt
      · rw [heq]
      · have hle := Nat.le_of_lt_succ hlt
        rw [schedule, List.getD_append, ih hle]
        rw [length_schedule]
        omega

theorem w_of_lt {t : Nat} (ht : t < M.length) : w M t = M.getD t 0 :=
  getD_schedule ht (Nat.zero_le 64)

theorem w_add_sixteen (hM : M.length = 16) {n : Nat} (hn : n < 64) :
    w M (n + 16) =
      rotl 1 (w M (n + 13) ^^^ w M (n + 8) ^^^ w M (n + 2) ^^^ w M n) := by
  have hearlier : forall t, t < n + 16 -> (schedule M n).getD t 0 = w M t := by
    intro t ht
    rw [w, getD_schedule (m := n) (by omega) (Nat.le_of_lt hn)]
  have hlast : (schedule M n).length = n + 16 := by
    rw [length_schedule, hM, Nat.add_comm]
  rw [w, getD_schedule (m := n + 1) (by omega) hn, schedule,
    List.getD_append_right _ _ _ _ (Nat.le_of_eq hlast), hlast, Nat.sub_self,
    hearlier _ (by omega), hearlier _ (by omega), hearlier _ (by omega),
    hearlier _ (by omega)]
  rfl

end

/-!
## Blocks
-/

/-- The five words of the hash value, or of the working variables. -/
structure Hash where
  a : Word
  b : Word
  c : Word
  d : Word
  e : Word
deriving DecidableEq

def initial : Hash where
  a := 0x67452301
  b := 0xefcdab89
  c := 0x98badcfe
  d := 0x10325476
  e := 0xc3d2e1f0

/-- Round `t` with its word. -/
def round (W : Nat -> Word) (v : Hash) (t : Nat) : Hash where
  a := rotl 5 v.a + f t v.b v.c v.d + v.e + k t + W t
  b := v.a
  c := rotl 30 v.b
  d := v.c
  e := v.d

def rounds (W : Nat -> Word) (v : Hash) : Hash :=
  (List.range 80).foldl (round W) v

def compress (h : Hash) (block : List Byte) : Hash :=
  let v := rounds (w ((chunks 4 block).map word)) h
  { a := v.a + h.a
    b := v.b + h.b
    c := v.c + h.c
    d := v.d + h.d
    e := v.e + h.e }

def compressAll (h : Hash) (m : List Byte) : Hash :=
  (chunks 64 m).foldl compress h

theorem compressAll_append {h : Hash} {m m' : List Byte} (hm : 64 ∣ m.length) :
    compressAll h (m ++ m') = compressAll (compressAll h m) m' := by
  rw [compressAll, chunks_append_of_dvd (by decide) hm, List.foldl_append]
  rfl

/-!
## Messages
-/

def zeros (l : Nat) : Nat :=
  (119 - l % 64) % 64

/-- A one bit, zeros, and the length of the message in bits. -/
def padding (l : Nat) : List Byte :=
  0x80 :: List.replicate (zeros l) 0 ++ Bytes.ofNat 8 (8 * l)

def Hash.digest (h : Hash) : List Byte :=
  Bytes.ofNat 4 h.a.toNat ++ Bytes.ofNat 4 h.b.toNat ++
    Bytes.ofNat 4 h.c.toNat ++ Bytes.ofNat 4 h.d.toNat ++
      Bytes.ofNat 4 h.e.toNat

def sha1 (m : List Byte) : List Byte :=
  (compressAll initial (m ++ padding m.length)).digest

example :
    sha1 [0x61, 0x62, 0x63] =
      [0xa9, 0x99, 0x3e, 0x36, 0x47, 0x06, 0x81, 0x6a, 0xba, 0x3e, 0x25, 0x71,
        0x78, 0x50, 0xc2, 0x6c, 0x9c, 0xd0, 0xd8, 0x9d] := by
  decide +kernel

theorem Hash.length_digest (h : Hash) : h.digest.length = 20 := by
  simp only [digest, List.length_append, Bytes.length_ofNat]

theorem length_sha1 (m : List Byte) : (sha1 m).length = 20 :=
  Hash.length_digest _

end Sha1
end Library
end BnsKorea
