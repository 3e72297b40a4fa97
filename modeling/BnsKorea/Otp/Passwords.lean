import BnsKorea.Otp.Keys
import BnsKorea.Otp.Streaming

/-!
# The passwords of the standard

The keyed hash, the count of the steps and the cut to six digits are those of
the standard, and so is the password of a key at a time.
-/

namespace BnsKorea
namespace CLHmacSha1

open Library
open Library.Otp

/-!
## The keyed hash
-/

section

variable {szEncodeText szEncodeKey K : List BYTE}

theorem zipWith_xor (pad : BYTE) {n : Nat} (h : K.length ≤ n) :
    List.zipWith (· ^^^ ·) (List.replicate n pad) K = xorAll pad K := by
  induction K generalizing n with
  | nil => exact List.zipWith_nil_right
  | cons b K ih =>
      cases n with
      | zero => cases h
      | succ n =>
          rw [List.replicate_succ, List.zipWith_cons_cons, UInt8.xor_comm,
            ih (Nat.le_of_succ_le_succ h)]
          rfl

theorem memXor_eq (pad : BYTE) (h : K.length ≤ 64) :
    memXor (List.replicate 64 pad) K =
      some (xorAll pad (K ++ List.replicate (64 - K.length) 0)) := by
  have hfill : xorAll pad (List.replicate (64 - K.length) 0) =
      List.replicate (64 - K.length) pad := by
    rw [xorAll, List.map_replicate, UInt8.zero_xor]
  have hboth : xorAll pad (K ++ List.replicate (64 - K.length) 0) =
      xorAll pad K ++ List.replicate (64 - K.length) pad := by
    rw [← hfill]
    exact List.map_append
  unfold memXor
  rw [if_pos (by rwa [List.length_replicate]), zipWith_xor pad h,
    List.drop_replicate, hboth]

theorem optKey_eq (address : Nat) (hkey : szEncodeKey.length < 2 ^ 32) :
    optKey address szEncodeKey =
      some (if szEncodeKey.length > 64 then Sha1.sha1 szEncodeKey
        else szEncodeKey) := by
  unfold optKey
  split
  · rcases holds_nil.bytes address hkey with ⟨KeyHash, hstep, hholds⟩
    rw [hstep]
    exact hholds.finish (by
      rw [List.nil_append]
      omega)
  · rfl

theorem hashKeyed_eq (pad : BYTE) (address : Nat) (hK : K.length ≤ 64)
    (htext : szEncodeText.length < 2 ^ 32) :
    hashKeyed pad address szEncodeText K =
      some (Sha1.sha1 (xorAll pad (K ++ List.replicate (64 - K.length) 0) ++
        szEncodeText)) := by
  let szBlock := xorAll pad (K ++ List.replicate (64 - K.length) 0)
  have hblock : szBlock.length = 64 := by
    show (List.map _ _).length = 64
    rw [List.length_map, List.length_append, List.length_replicate]
    omega
  rcases holds_block hblock with ⟨keyed, hkeyed, hholds⟩
  rcases hholds.bytes address htext with ⟨hashed, hhashed, hholds'⟩
  have hfinish := hholds'.finish (by
    rw [List.length_append, hblock]
    omega)
  unfold hashKeyed
  rw [memXor_eq pad hK]
  show (hash1_Block szBlock {} >>= _) = _
  rw [hkeyed]
  show (hash1_Bytes address szEncodeText keyed >>= _) = _
  rw [hhashed]
  exact hfinish

theorem computerHash_eq (address : Addresses)
    (htext : szEncodeText.length < 2 ^ 32)
    (hkey : szEncodeKey.length < 2 ^ 32) :
    computerHash address szEncodeText szEncodeKey =
      some (hmac Sha1.sha1 64 szEncodeKey szEncodeText) := by
  have hshort : (if szEncodeKey.length > 64 then Sha1.sha1 szEncodeKey
      else szEncodeKey).length ≤ 64 := by
    split
    · rw [Sha1.length_sha1]
      decide
    · omega
  have hinner : forall m, (Sha1.sha1 m).length < 2 ^ 32 := by
    intro m
    rw [Sha1.length_sha1]
    decide
  unfold computerHash
  rw [optKey_eq _ hkey]
  show (hashKeyed IPAD _ _ _ >>= _) = _
  rw [hashKeyed_eq IPAD _ hshort htext]
  show hashKeyed OPAD _ _ _ = _
  rw [hashKeyed_eq OPAD _ hshort (hinner _)]
  rfl

theorem length_hmac (K text : List BYTE) :
    (hmac Sha1.sha1 64 K text).length = 20 :=
  Sha1.length_sha1 _

end

/-!
## The count of the steps
-/

theorem getOTPState_eq {now : LONGLONG} (hnow : 0 ≤ now) :
    exists OtpState, getOTPState now = some OtpState ∧
      OtpState.toUInt64.toNat = now.toInt.toNat / 30 := by
  have hstart : now - (0 : LONG).toInt64 = now := Int64.sub_zero now
  have hcount : exists t : Nat, now.toInt = t := by
    rw [Int64.le_iff_toInt_le] at hnow
    exact Int.eq_ofNat_of_zero_le hnow
  rcases hcount with ⟨t, ht⟩
  have hsteps : (now / (30 : LONG).toInt64).toInt = (t / 30 : Nat) := by
    rw [Int64.toInt_div_of_ne_right _ _ (by decide), ht]
    rfl
  have hle : 0 ≤ now / (30 : LONG).toInt64 := by
    rw [Int64.le_iff_toInt_le, hsteps]
    exact Int.natCast_nonneg _
  refine ⟨now / (30 : LONG).toInt64, ?_, ?_⟩
  · unfold getOTPState CTotpCounter.getValueAtTime
    rw [if_neg (by decide)]
    dsimp only
    rw [hstart]
    exact if_pos hnow
  · rw [Int64.toNat_toUInt64_of_le hle, ← Int64.toNat_toInt, hsteps, ht,
      Int.toNat_natCast, Int.toNat_natCast]

theorem counterBuffer_eq (OtpState : LONGLONG) :
    counterBuffer OtpState = Bytes.ofNat 8 OtpState.toUInt64.toNat := by
  rw [counterBuffer, Bytes.ofNat_eq_map]
  congr 1
  apply List.map_congr_left
  intro i hi
  have hlt := List.mem_range.mp hi
  rw [SignedWord.toUInt8_shiftRight64 _ (by omega), Nat.mul_comm i, Nat.pow_mul]

/-!
## The cut to six digits
-/

theorem toNat_byteAt (b : BYTE) : (Int32.ofNat b.toNat).toUInt32.toNat = b.toNat := by
  have hlt := b.toNat_lt
  show b.toNat % 2 ^ 32 = b.toNat
  omega

theorem toNat_shifted_byte (b : BYTE) {k : Nat} (hk : k ≤ 24) :
    (Int32.ofNat b.toNat <<< Int32.ofNat k).toUInt32.toNat =
      b.toNat * 2 ^ k := by
  have hle : b.toNat * 2 ^ k < 2 ^ 32 := by
    have hpow : 2 ^ k ≤ 2 ^ 24 := Nat.pow_le_pow_right (by decide) hk
    have hmul := Nat.mul_le_mul (Nat.le_of_lt_succ b.toNat_lt) hpow
    omega
  rw [SignedWord.toNat_shiftLeft _ (by omega), toNat_byteAt,
    Nat.mod_eq_of_lt hle]

theorem nBinary_eq (b0 b1 b2 b3 : BYTE) :
    (nBinary (Int32.ofNat b0.toNat) (Int32.ofNat b1.toNat)
        (Int32.ofNat b2.toNat) (Int32.ofNat b3.toNat)).toUInt32.toNat =
      Bytes.toNat [b0, b1, b2, b3] % 2 ^ 31 := by
  have hlt0 := b0.toNat_lt
  have hlt1 := b1.toNat_lt
  have hlt2 := b2.toNat_lt
  have hlt3 := b3.toNat_lt
  have hsign : (Int32.ofNat b0.toNat &&& 0x7f).toUInt32.toNat =
      b0.toNat % 128 := by
    rw [Int32.toUInt32_and, UInt32.toNat_and, toNat_byteAt]
    exact Nat.and_two_pow_sub_one_eq_mod b0.toNat 7
  have htop : ((Int32.ofNat b0.toNat &&& 0x7f) <<< 24).toUInt32.toNat =
      b0.toNat % 128 * 2 ^ 24 := by
    have hshift := SignedWord.toNat_shiftLeft (Int32.ofNat b0.toNat &&& 0x7f)
      (k := 24) (by decide)
    rw [hsign] at hshift
    refine hshift.trans ?_
    omega
  have hone : (Int32.ofNat b1.toNat <<< 16).toUInt32.toNat = b1.toNat * 2 ^ 16 :=
    toNat_shifted_byte b1 (by decide)
  have htwo : (Int32.ofNat b2.toNat <<< 8).toUInt32.toNat = b2.toNat * 2 ^ 8 :=
    toNat_shifted_byte b2 (by decide)
  rw [nBinary, Int32.toUInt32_or, Int32.toUInt32_or, Int32.toUInt32_or,
    UInt32.toNat_or, UInt32.toNat_or, UInt32.toNat_or, htop, hone, htwo,
    toNat_byteAt, Bytes.or_four _ hlt1 hlt2 hlt3, Bytes.toNat_four]
  omega

theorem byteAt_eq {ResultBuffer : List BYTE} {i : Nat}
    (h : i < ResultBuffer.length) :
    byteAt ResultBuffer i = some (Int32.ofNat ResultBuffer[i].toNat) := by
  rw [byteAt, List.getElem?_eq_getElem h]
  rfl

theorem take_four {bytes : List BYTE} {i : Nat} (h : i + 3 < bytes.length) :
    (bytes.drop i).take 4 =
      [bytes[i], bytes[i + 1], bytes[i + 2], bytes[i + 3]] := by
  rw [List.drop_eq_getElem_cons (by omega : i < bytes.length),
    List.drop_eq_getElem_cons (by omega : i + 1 < bytes.length),
    List.drop_eq_getElem_cons (by omega : i + 2 < bytes.length),
    List.drop_eq_getElem_cons h]
  rfl

theorem nPass_eq {ResultBuffer : List BYTE} (h : ResultBuffer.length = 20) :
    exists pass, nPass ResultBuffer = some pass ∧
      pass.toUInt32.toNat = truncate ResultBuffer % 10 ^ 6 := by
  have hlast : 19 < ResultBuffer.length := by omega
  let nOffset := ResultBuffer[19].toNat % 16
  have hoffset : (Int32.ofNat ResultBuffer[19].toNat &&& 0xF).toInt.toNat =
      nOffset := by
    have hmask : (Int32.ofNat ResultBuffer[19].toNat &&& 0xF).toUInt32.toNat =
        nOffset := by
      rw [Int32.toUInt32_and, UInt32.toNat_and, toNat_byteAt]
      exact Nat.and_two_pow_sub_one_eq_mod _ 4
    rw [SignedWord.toInt_of_toNat_lt (by omega), hmask, Int.toNat_natCast]
  have hroom : nOffset + 3 < ResultBuffer.length := by omega
  have htruncate : truncate ResultBuffer =
      Bytes.toNat ((ResultBuffer.drop nOffset).take 4) % 2 ^ 31 := by
    unfold truncate
    rw [List.getD_eq_getElem _ _ hlast]
  have hbinary := nBinary_eq ResultBuffer[nOffset] ResultBuffer[nOffset + 1]
    ResultBuffer[nOffset + 2] ResultBuffer[nOffset + 3]
  rw [← take_four hroom, ← htruncate] at hbinary
  have hless : truncate ResultBuffer < 2 ^ 31 := by
    rw [htruncate]
    exact Nat.mod_lt _ (by decide)
  refine ⟨nBinary (Int32.ofNat ResultBuffer[nOffset].toNat)
    (Int32.ofNat ResultBuffer[nOffset + 1].toNat)
    (Int32.ofNat ResultBuffer[nOffset + 2].toNat)
    (Int32.ofNat ResultBuffer[nOffset + 3].toNat) % 1000000, ?_, ?_⟩
  · unfold nPass
    rw [byteAt_eq hlast]
    simp only [Option.bind_eq_bind, Option.bind_some, hoffset]
    rw [byteAt_eq (by omega : nOffset < _), Option.bind_some,
      byteAt_eq (by omega : nOffset + 1 < _), Option.bind_some,
      byteAt_eq (by omega : nOffset + 2 < _), Option.bind_some,
      byteAt_eq hroom, Option.bind_some]
    rfl
  · apply SignedWord.toNat_of_toInt
    rw [Int32.toInt_mod, SignedWord.toInt_of_toNat_lt (by rwa [hbinary]), hbinary]
    rfl

/-!
## Passwords
-/

theorem alphabet_value {c : UInt16}
    (hc : c ∈ L "ABCDEFGHIJKLMNOPQRSTUVWXYZ234567") :
    c < 128 ∧ exists v, Base32.value c.toUInt8 = some v := by
  have hall : (L "ABCDEFGHIJKLMNOPQRSTUVWXYZ234567").all fun c =>
      decide (c < 128 ∧ (Base32.value c.toUInt8).isSome) := by decide
  rcases of_decide_eq_true (List.all_eq_true.mp hall c hc) with ⟨hlt, hsome⟩
  exact ⟨hlt, Option.isSome_iff_exists.mp hsome⟩

theorem getOTPState_some (now : LONGLONG) :
    exists OtpState, getOTPState now = some OtpState := by
  unfold getOTPState CTotpCounter.getValueAtTime
  rw [if_neg (by decide)]
  dsimp only
  split
  · exact ⟨_, rfl⟩
  · exact ⟨_, rfl⟩

theorem calcOTPValue_of_key {T : AsciiConversion}
    {heap : forall n, List.Vector BYTE n} (address : Addresses)
    {wsKey : WString} {itm : CLHmacSha1} {strKey key : List BYTE}
    {uKeyBufferLen : UINT} {now OtpState : LONGLONG}
    (hinit : initCharMap = some itm)
    (hconversion : T.unicodeToASCII wsKey = some strKey)
    (hencode : encodeKey itm heap strKey 0 = some (key, uKeyBufferLen))
    (hroom : uKeyBufferLen.toNat ≤ key.length)
    (hstate : getOTPState now = some OtpState) :
    exists dwResult, calcOTPValue T heap address now wsKey = some dwResult ∧
      dwResult.toNat = truncate (hmac Sha1.sha1 64
        (key.take uKeyBufferLen.toNat) (counterBuffer OtpState)) % 10 ^ 6 := by
  let KeyBuffer := key.take uKeyBufferLen.toNat
  have hcounter : (counterBuffer OtpState).length < 2 ^ 32 := by
    rw [counterBuffer_eq, Bytes.length_ofNat]
    decide
  have hshort : KeyBuffer.length < 2 ^ 32 := by
    have hlen : KeyBuffer.length = uKeyBufferLen.toNat :=
      List.length_take_of_le hroom
    rw [hlen]
    exact uKeyBufferLen.toNat_lt
  have hhash := computerHash_eq address hcounter hshort
  rcases nPass_eq (length_hmac KeyBuffer (counterBuffer OtpState)) with
    ⟨pass, hpass, hvalue⟩
  refine ⟨pass.toUInt32, ?_, hvalue⟩
  unfold calcOTPValue
  simp only [hinit, hconversion, hencode, hstate, Option.bind_eq_bind,
    Option.bind_some, guard, if_pos hroom]
  show (computerHash address (counterBuffer OtpState) KeyBuffer >>= _) = _
  rw [hhash]
  show (nPass _ >>= _) = _
  rw [hpass]
  rfl

theorem calcOTPValue_eq_totp (T : AsciiConversion)
    (heap : forall n, List.Vector BYTE n) (address : Addresses) {wsKey : WString}
    (hkey : wsKey ⊆ L "ABCDEFGHIJKLMNOPQRSTUVWXYZ234567")
    {now : LONGLONG} (hnow : 0 ≤ now) {strKey : List BYTE}
    (hconversion : T.unicodeToASCII wsKey = some strKey) :
    exists key dwResult,
      Base32.decode (wsKey.map UInt16.toUInt8) = some key ∧
      calcOTPValue T heap address now wsKey = some dwResult ∧
      dwResult.toNat = totp key now.toInt.toNat := by
  have hstr : strKey = wsKey.map UInt16.toUInt8 :=
    T.unicodeToASCII_ascii wsKey strKey
      (fun c hc => (alphabet_value (hkey hc)).left) hconversion
  have hfits : 5 * strKey.length < 2 ^ 32 := by
    have hmemory := T.unicodeToASCII_length wsKey strKey hconversion
    have hlength : strKey.length = wsKey.length := by
      rw [hstr, List.length_map]
    omega
  have hdigits : forall b, b ∈ strKey -> exists v, Base32.value b = some v := by
    intro b hb
    rw [hstr] at hb
    rcases List.mem_map.mp hb with ⟨c, hc, hcb⟩
    rw [← hcb]
    exact (alphabet_value (hkey hc)).right
  rcases initCharMap_readsBase32 with ⟨itm, hinit, hread⟩
  rcases Base32.exists_decode hdigits with ⟨key, hdecode⟩
  rcases encodeKey_eq hread heap 0 hfits hdecode with
    ⟨outLength, hencode, hlength⟩
  rcases getOTPState_eq hnow with ⟨OtpState, hstate, hsteps⟩
  rcases calcOTPValue_of_key address hinit hconversion hencode
    (Nat.le_of_eq hlength) hstate with ⟨dwResult, hresult, hvalue⟩
  refine ⟨key, dwResult, by rw [← hstr, hdecode], hresult, ?_⟩
  rw [hvalue, hlength, List.take_length, counterBuffer_eq, hsteps]
  rfl

theorem calcOTPValue_eq_totp_tenBytes :
    exists key dwResult,
      Base32.decode ((L "GEZDGNBVGY3TQOJQ").map UInt16.toUInt8) = some key ∧
      calcOTPValue AsciiConversion.standard
        (fun n => List.Vector.replicate n 0xCD)
        { szEncodeText := 0, szEncodeKey := 4, InnerHash := 9 } 59
        (L "GEZDGNBVGY3TQOJQ") = some dwResult ∧
      dwResult.toNat = totp key 59 :=
  calcOTPValue_eq_totp AsciiConversion.standard _ _ (by decide) (by decide)
    (AsciiConversion.standard_unicodeToASCII (by decide))

end CLHmacSha1
end BnsKorea
