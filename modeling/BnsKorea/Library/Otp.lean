import BnsKorea.Library.Sha1

/-!
# One-time passwords

Keyed hashing, the decoding of base-32 keys, and the passwords that are computed
from a key and a counter or a time.
-/

namespace BnsKorea
namespace Library
namespace Otp

/-!
## Keyed hashing
-/

section

variable (H : List Byte -> List Byte) (B : Nat)

/-- A key longer than a block of `B` bytes is hashed, a shorter one is filled up. -/
def blockKey (K : List Byte) : List Byte :=
  let K := if K.length > B then H K else K
  K ++ List.replicate (B - K.length) 0

def xorAll (b : Byte) (bytes : List Byte) : List Byte :=
  bytes.map (· ^^^ b)

def hmac (K text : List Byte) : List Byte :=
  H (xorAll 0x5c (blockKey H B K) ++ H (xorAll 0x36 (blockKey H B K) ++ text))

end

/-!
## Base 32
-/

namespace Base32

def value (c : Byte) : Option Nat :=
  if 65 ≤ c.toNat ∧ c.toNat ≤ 90 then some (c.toNat - 65)
  else if 50 ≤ c.toNat ∧ c.toNat ≤ 55 then some (c.toNat - 24)
  else none

def number (vs : List Nat) : Nat :=
  vs.foldl (fun n v => 32 * n + v) 0

/-- Five bits a character; what does not fill a byte at the end is dropped. -/
def bytesOf (vs : List Nat) : List Byte :=
  Bytes.ofNat (5 * vs.length / 8) (number vs / 2 ^ (5 * vs.length % 8))

def decode (s : List Byte) : Option (List Byte) :=
  (s.mapM value).map bytesOf

variable {vs : List Nat} {v : Nat}

theorem value_lt {c : Byte} (h : value c = some v) : v < 32 := by
  unfold value at h
  split at h
  · have hv := Option.some.inj h
    omega
  · split at h
    · have hv := Option.some.inj h
      omega
    · cases h

theorem mapM_value_cons {c : Byte} {s : List Byte}
    (h : (c :: s).mapM value = some vs) :
    exists v us, value c = some v ∧ s.mapM value = some us ∧ vs = v :: us := by
  rw [List.mapM_cons] at h
  cases hc : value c with
  | none =>
      rw [hc] at h
      cases h
  | some v =>
      cases hs : s.mapM value with
      | none =>
          rw [hc, hs] at h
          cases h
      | some us =>
          rw [hc, hs] at h
          exact ⟨v, us, rfl, rfl, (Option.some.inj h).symm⟩

theorem length_mapM_value {s : List Byte} (h : s.mapM value = some vs) :
    vs.length = s.length := by
  induction s generalizing vs with
  | nil =>
      have hvs : vs = [] := (Option.some.inj h).symm
      rw [hvs, List.length_nil, List.length_nil]
  | cons c s ih =>
      rcases mapM_value_cons h with ⟨v, us, _, hrest, hvs⟩
      rw [hvs, List.length_cons, List.length_cons, ih hrest]

/-- The digits in front of the first character without a value. -/
def digits : List Byte -> List Nat
  | [] => []
  | c :: s =>
      match value c with
      | none => []
      | some v => v :: digits s

theorem digits_cons_none {c : Byte} (h : value c = none) (s : List Byte) :
    digits (c :: s) = [] := by
  rw [digits, h]

theorem digits_cons_some {c : Byte} (h : value c = some v) (s : List Byte) :
    digits (c :: s) = v :: digits s := by
  rw [digits, h]

theorem length_digits_le (s : List Byte) : (digits s).length ≤ s.length := by
  induction s with
  | nil => exact Nat.le_refl 0
  | cons c s ih =>
      cases hc : value c with
      | none =>
          rw [digits_cons_none hc]
          exact Nat.zero_le _
      | some v =>
          rw [digits_cons_some hc]
          exact Nat.succ_le_succ ih

theorem length_digits_lt {s : List Byte} {c : Byte} (hmem : c ∈ s)
    (hc : value c = none) : (digits s).length < s.length := by
  induction s with
  | nil => cases hmem
  | cons d s ih =>
      cases hd : value d with
      | none =>
          rw [digits_cons_none hd]
          exact Nat.succ_pos _
      | some v =>
          rw [digits_cons_some hd]
          rcases List.mem_cons.mp hmem with hhead | htail
          · rw [hhead, hd] at hc
            cases hc
          · exact Nat.succ_lt_succ (ih htail)

theorem length_digits_of_values {s : List Byte}
    (h : forall c, c ∈ s -> exists v, value c = some v) :
    (digits s).length = s.length := by
  induction s with
  | nil => rfl
  | cons c s ih =>
      rcases h c List.mem_cons_self with ⟨v, hv⟩
      have hrest := ih fun d hd => h d (List.mem_cons_of_mem c hd)
      rw [digits_cons_some hv, List.length_cons, List.length_cons, hrest]

theorem exists_decode {s : List Byte}
    (h : forall c, c ∈ s -> exists v, value c = some v) :
    exists bytes, decode s = some bytes := by
  have hvalues : exists vs, s.mapM value = some vs := by
    induction s with
    | nil => exact ⟨[], rfl⟩
    | cons c s ih =>
        rcases h c List.mem_cons_self with ⟨v, hv⟩
        rcases ih fun d hd => h d (List.mem_cons_of_mem c hd) with ⟨vs, hvs⟩
        exact ⟨v :: vs, by
          rw [List.mapM_cons, hv, hvs]
          rfl⟩
  rcases hvalues with ⟨vs, hvs⟩
  exact ⟨bytesOf vs, by rw [decode, hvs, Option.map_some]⟩

theorem length_bytesOf (vs : List Nat) :
    (bytesOf vs).length = 5 * vs.length / 8 :=
  Bytes.length_ofNat _ _

theorem number_snoc (vs : List Nat) (v : Nat) :
    number (vs ++ [v]) = 32 * number vs + v := by
  rw [number, List.foldl_append]
  rfl

theorem number_snoc_div (hv : v < 32) (r : Nat) :
    number (vs ++ [v]) / 2 ^ (r + 5) = number vs / 2 ^ r := by
  have hdigit : (32 * number vs + v) / 2 ^ 5 = number vs := by omega
  rw [number_snoc, Nat.add_comm r, Nat.pow_add, ← Nat.div_div_eq_div_mul, hdigit]

theorem bytesOf_snoc_of_lt (hv : v < 32) (h : 5 * vs.length % 8 + 5 < 8) :
    bytesOf (vs ++ [v]) = bytesOf vs := by
  have hcount : 5 * (vs.length + 1) / 8 = 5 * vs.length / 8 := by omega
  have hleft : 5 * (vs.length + 1) % 8 = 5 * vs.length % 8 + 5 := by omega
  rw [bytesOf, List.length_append, List.length_singleton, hcount, hleft,
    number_snoc_div hv, bytesOf]

theorem bytesOf_snoc_of_le (hv : v < 32) (h : 8 ≤ 5 * vs.length % 8 + 5) :
    bytesOf (vs ++ [v]) = bytesOf vs ++
      [UInt8.ofNat (number (vs ++ [v]) / 2 ^ (5 * vs.length % 8 + 5 - 8))] := by
  have hcount : 5 * (vs.length + 1) / 8 = 5 * vs.length / 8 + 1 := by omega
  have hleft : 5 * (vs.length + 1) % 8 = 5 * vs.length % 8 + 5 - 8 := by omega
  have hfront : number (vs ++ [v]) / 2 ^ (5 * vs.length % 8 + 5 - 8) / 256 =
      number vs / 2 ^ (5 * vs.length % 8) := by
    have hbits : 5 * vs.length % 8 + 5 - 8 + 8 = 5 * vs.length % 8 + 5 :=
      Nat.sub_add_cancel h
    show _ / 2 ^ 8 = _
    rw [Nat.div_div_eq_div_mul, ← Nat.pow_add, hbits, number_snoc_div hv]
  rw [bytesOf, List.length_append, List.length_singleton, hcount, hleft,
    Bytes.ofNat, hfront, bytesOf]

end Base32

/-!
## Passwords
-/

def truncate (hs : List Byte) : Nat :=
  let offset := (hs.getD 19 0).toNat % 16
  Bytes.toNat ((hs.drop offset).take 4) % 2 ^ 31

def hotp (K : List Byte) (C : Nat) : Nat :=
  truncate (hmac Sha1.sha1 64 K (Bytes.ofNat 8 C)) % 10 ^ 6

def totp (K : List Byte) (t : Nat) : Nat :=
  hotp K (t / 30)

example :
    totp ("12345678901234567890".toList.map fun c => UInt8.ofNat c.toNat) 59 =
      287082 := by
  decide +kernel

end Otp
end Library
end BnsKorea
