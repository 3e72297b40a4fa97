import BnsKorea.Otp.Passwords

/-!
# Keys that are not base 32

A character without a value ends the loop over a key, but not the function: the
array goes on to the hash with the length that was there before, which is zero.
-/

namespace BnsKorea
namespace CLHmacSha1

open Library
open Library.Otp

variable {itm : CLHmacSha1}

/-!
## The loop
-/

section

variable {vs : List Nat} {v : Nat} {s : KeyBits} {strKey : List BYTE}

theorem Packed.push_outside (h : Packed vs s) (hread : ReadsBase32 itm)
    (hnext : 5 * vs.length / 8 ≤ s.result.length)
    (hroom : s.result.length < 5 * (vs.length + 1) / 8) (nValue : INT) :
    s.push itm nValue = none := by
  unfold KeyBits.push
  rw [hread.shift, h.bitsleft]
  dsimp only
  rw [if_pos (by omega), if_neg]
  rw [h.next]
  omega

theorem Packed.loop_some (h : Packed vs s) (hread : ReadsBase32 itm)
    (hroom : 5 * (vs.length + (Base32.digits strKey).length) / 8 ≤
      s.result.length) :
    exists bytes, bytes.length = s.result.length ∧
      encodeLoop itm strKey s = some (bytes,
        decide ((Base32.digits strKey).length = strKey.length)) := by
  induction strKey generalizing vs s with
  | nil => exact ⟨s.result, rfl, rfl⟩
  | cons c strKey ih =>
      rw [encodeLoop, hread.lookup]
      cases hc : Base32.value c with
      | none =>
          rw [Base32.digits_cons_none hc]
          exact ⟨s.result, rfl, rfl⟩
      | some v =>
          rw [Base32.digits_cons_some hc, List.length_cons] at hroom ⊢
          rcases h.push hread (Base32.value_lt hc) (by omega) with
            ⟨next, hpush, hpacked, hkept⟩
          have hcount : (vs ++ [v]).length = vs.length + 1 := by
            rw [List.length_append, List.length_singleton]
          rcases ih hpacked (by
            rw [hcount, hkept]
            omega) with ⟨bytes, hlength, hloop⟩
          refine ⟨bytes, hlength.trans hkept, ?_⟩
          show (s.push itm (Int32.ofNat v) >>= _) = _
          rw [hpush]
          show encodeLoop itm strKey next = _
          rw [hloop, List.length_cons]
          simp only [Nat.add_right_cancel_iff]

theorem Packed.loop_none (h : Packed vs s) (hread : ReadsBase32 itm)
    (hnext : 5 * vs.length / 8 ≤ s.result.length)
    (hroom : s.result.length <
      5 * (vs.length + (Base32.digits strKey).length) / 8) :
    encodeLoop itm strKey s = none := by
  induction strKey generalizing vs s with
  | nil =>
      rw [Base32.digits, List.length_nil] at hroom
      omega
  | cons c strKey ih =>
      rw [encodeLoop, hread.lookup]
      cases hc : Base32.value c with
      | none =>
          rw [Base32.digits_cons_none hc, List.length_nil] at hroom
          omega
      | some v =>
          rw [Base32.digits_cons_some hc, List.length_cons] at hroom
          show (s.push itm (Int32.ofNat v) >>= _) = _
          rcases Nat.lt_or_ge s.result.length (5 * (vs.length + 1) / 8) with
            houtside | hinside
          · rw [h.push_outside hread hnext houtside]
            rfl
          · rcases h.push hread (Base32.value_lt hc) hinside with
              ⟨next, hpush, hpacked, hkept⟩
            have hcount : (vs ++ [v]).length = vs.length + 1 := by
              rw [List.length_append, List.length_singleton]
            rw [hpush]
            show encodeLoop itm strKey next = none
            apply ih hpacked
            · rwa [hcount, hkept]
            · rw [hcount, hkept]
              omega

end

/-!
## The array of a key
-/

/-- The size of the array is counted in 32 bits, and the digits need more. -/
def Overruns (strKey : List BYTE) : Prop :=
  5 * strKey.length % 2 ^ 32 / 8 < 5 * (Base32.digits strKey).length / 8

instance (strKey : List BYTE) : Decidable (Overruns strKey) :=
  inferInstanceAs (Decidable (_ < _))

variable {strKey : List BYTE}

theorem not_overruns (h : 5 * strKey.length < 2 ^ 32) : ¬ Overruns strKey := by
  have hle := Base32.length_digits_le strKey
  unfold Overruns
  omega

theorem outLength_toNat (hread : ReadsBase32 itm) (strKey : List BYTE) :
    (UInt32.ofNat (strKey.length * itm.SHIFT) / 8).toNat =
      5 * strKey.length % 2 ^ 32 / 8 := by
  rw [UInt32.toNat_div, UInt32.toNat_ofNat', hread.shift, Nat.mul_comm]
  rfl

theorem encodeKey_overruns (hread : ReadsBase32 itm)
    (heap : forall n, List.Vector BYTE n) (uBufferLen : UINT)
    (h : Overruns strKey) : encodeKey itm heap strKey uBufferLen = none := by
  let outLength := UInt32.ofNat (strKey.length * itm.SHIFT) / 8
  have hloop := (packed_nil (heap outLength.toNat).val).loop_none hread
    (Nat.zero_le _) (by
      show (heap outLength.toNat).val.length < _
      rw [(heap outLength.toNat).length_val, outLength_toNat hread,
        List.length_nil, Nat.zero_add]
      exact h)
  show (encodeLoop itm strKey _ >>= _) = _
  rw [hloop]
  rfl

theorem encodeKey_badKey (hread : ReadsBase32 itm)
    (heap : forall n, List.Vector BYTE n) (uBufferLen : UINT)
    (h : ¬ Overruns strKey) :
    exists key, key.length = 5 * strKey.length % 2 ^ 32 / 8 ∧
      encodeKey itm heap strKey uBufferLen = some (key,
        if (Base32.digits strKey).length = strKey.length then
          UInt32.ofNat (strKey.length * itm.SHIFT) / 8
        else uBufferLen) := by
  let outLength := UInt32.ofNat (strKey.length * itm.SHIFT) / 8
  have hlen : (heap outLength.toNat).val.length =
      5 * strKey.length % 2 ^ 32 / 8 := by
    rw [(heap outLength.toNat).length_val, outLength_toNat hread]
  rcases (packed_nil (heap outLength.toNat).val).loop_some hread (by
      show _ ≤ (heap outLength.toNat).val.length
      rw [hlen, List.length_nil, Nat.zero_add]
      exact Nat.le_of_not_lt h) with ⟨key, hkey, hloop⟩
  refine ⟨key, hkey.trans hlen, ?_⟩
  show (encodeLoop itm strKey _ >>= _) = _
  rw [hloop]
  show some (key, if decide _ = true then outLength else uBufferLen) = _
  simp only [decide_eq_true_eq]
  rfl

/-!
## The password of such a key
-/

variable (T : AsciiConversion) (heap : forall n, List.Vector BYTE n)
  (address : Addresses) (now : LONGLONG) {wsKey : WString}

theorem calcOTPValue_eq_none_iff :
    calcOTPValue T heap address now wsKey = none ↔
      T.unicodeToASCII wsKey = none ∨
        exists strKey, T.unicodeToASCII wsKey = some strKey ∧
          Overruns strKey := by
  rcases initCharMap_readsBase32 with ⟨itm, hinit, hread⟩
  cases hconversion : T.unicodeToASCII wsKey with
  | none =>
      unfold calcOTPValue
      rw [hinit, hconversion]
      exact ⟨fun _ => Or.inl rfl, fun _ => rfl⟩
  | some strKey =>
      by_cases hover : Overruns strKey
      · have hencode := encodeKey_overruns hread heap 0 hover
        have hnone : calcOTPValue T heap address now wsKey = none := by
          unfold calcOTPValue
          simp only [hinit, hconversion, hencode, Option.bind_eq_bind,
            Option.bind_some, Option.bind_none]
        exact ⟨fun _ => Or.inr ⟨strKey, rfl, hover⟩, fun _ => hnone⟩
      · rcases encodeKey_badKey hread heap 0 hover with ⟨key, hkey, hencode⟩
        rcases getOTPState_some now with ⟨OtpState, hstate⟩
        rcases calcOTPValue_of_key address hinit hconversion hencode (by
          rw [hkey]
          split
          · rw [outLength_toNat hread]
          · exact Nat.zero_le _) hstate with ⟨dwResult, hresult, _⟩
        rw [hresult]
        constructor
        · intro h
          cases h
        · intro h
          rcases h with hnone | ⟨str, hstr, hoverrun⟩
          · cases hnone
          · cases hstr
            exact absurd hoverrun hover

theorem calcOTPValue_badKey (hnow : 0 ≤ now)
    (hconversion : T.unicodeToASCII wsKey = some strKey)
    {c : BYTE} (hmem : c ∈ strKey) (hc : Base32.value c = none)
    (hover : ¬ Overruns strKey) :
    exists dwResult, calcOTPValue T heap address now wsKey = some dwResult ∧
      dwResult.toNat = totp [] now.toInt.toNat := by
  rcases initCharMap_readsBase32 with ⟨itm, hinit, hread⟩
  rcases encodeKey_badKey hread heap 0 hover with ⟨key, _, hencode⟩
  rw [if_neg (Nat.ne_of_lt (Base32.length_digits_lt hmem hc))] at hencode
  rcases getOTPState_eq hnow with ⟨OtpState, hstate, hsteps⟩
  rcases calcOTPValue_of_key address hinit hconversion hencode (Nat.zero_le _)
    hstate with ⟨dwResult, hresult, hvalue⟩
  refine ⟨dwResult, hresult, ?_⟩
  rw [hvalue, counterBuffer_eq, hsteps]
  rfl

end CLHmacSha1
end BnsKorea
