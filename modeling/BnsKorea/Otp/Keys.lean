import BnsKorea.Library.Otp
import BnsKorea.Otp.Totp

/-!
# The bytes of a key

The loop over the characters shifts a signed word to the left and never clears
it; what it writes are the bytes of the key in base 32.
-/

namespace BnsKorea
namespace CLHmacSha1

open Library
open Library.Otp

variable {itm : CLHmacSha1}

/-!
## Characters
-/

/-- The values of the characters are those of base 32. -/
structure ReadsBase32 (itm : CLHmacSha1) : Prop where
  mask : itm.MASK = 31
  shift : itm.SHIFT = 5
  lookup : forall c, itm.CharMap.lookup c = (Base32.value c).map Int32.ofNat

theorem initCharMap_readsBase32 :
    exists itm, initCharMap = some itm ∧ ReadsBase32 itm := by
  let CharMap := wsAlphabet.zipIdx.map fun itm => (itm.1, Int32.ofNat itm.2)
  have hbytes : forall n : Fin 256, CharMap.lookup (UInt8.ofFin n) =
      (Base32.value (UInt8.ofFin n)).map Int32.ofNat := by
    decide +kernel
  refine ⟨_, rfl, rfl, rfl, ?_⟩
  intro c
  exact hbytes c.toFin

/-!
## The word of the loop
-/

theorem toNat_shifted (buffer : INT) {v : Nat} (hv : v < 32) :
    (buffer <<< Int32.ofNat 5 ||| (Int32.ofNat v &&& 31)).toUInt32.toNat =
      (32 * buffer.toUInt32.toNat + v) % 2 ^ 32 := by
  have hdigits : forall v : Fin 32,
      (Int32.ofNat v &&& 31).toUInt32.toNat = v := by decide
  have hdigit : (Int32.ofNat v &&& 31).toUInt32.toNat = v := hdigits ⟨v, hv⟩
  have hshift : (buffer <<< Int32.ofNat 5).toUInt32.toNat =
      2 ^ 5 * (buffer.toUInt32.toNat % 2 ^ 27) := by
    rw [SignedWord.toNat_shiftLeft buffer (by decide)]
    omega
  rw [Int32.toUInt32_or, UInt32.toNat_or, hdigit, hshift,
    ← Nat.two_pow_add_eq_or_of_lt hv]
  omega

/-!
## The loop
-/

variable {vs ws : List Nat} {v : Nat} {s : KeyBits} {strKey : List BYTE}

/-- After the digits: the number in the word, the full bytes in the array. -/
structure Packed (vs : List Nat) (s : KeyBits) : Prop where
  buffer : s.buffer.toUInt32.toNat = Base32.number vs % 2 ^ 32
  next : s.next = 5 * vs.length / 8
  bitsleft : s.bitsleft = 5 * vs.length % 8
  result : s.result.take s.next = Base32.bytesOf vs

theorem packed_nil (result : List BYTE) : Packed [] { result := result } where
  buffer := rfl
  next := rfl
  bitsleft := rfl
  result := rfl

theorem Packed.push (h : Packed vs s) (hread : ReadsBase32 itm) (hv : v < 32)
    (hroom : 5 * (vs.length + 1) / 8 ≤ s.result.length) :
    exists next, s.push itm (Int32.ofNat v) = some next ∧
      Packed (vs ++ [v]) next ∧ next.result.length = s.result.length := by
  have hbuffer : (s.buffer <<< Int32.ofNat 5 |||
      (Int32.ofNat v &&& 31)).toUInt32.toNat =
      Base32.number (vs ++ [v]) % 2 ^ 32 := by
    rw [toNat_shifted s.buffer hv, h.buffer, Base32.number_snoc]
    omega
  have hlength : (vs ++ [v]).length = vs.length + 1 := by
    rw [List.length_append, List.length_singleton]
  unfold KeyBits.push
  rw [hread.shift, hread.mask, h.bitsleft]
  dsimp only
  split
  · rename_i hfull
    have hplace : s.next < s.result.length := by
      rw [h.next]
      omega
    refine ⟨_, if_pos hplace, ⟨hbuffer, ?_, ?_, ?_⟩, List.length_set⟩
    · show s.next + 1 = _
      rw [h.next, hlength]
      omega
    · show 5 * vs.length % 8 + 5 - 8 = _
      rw [hlength]
      omega
    · show (s.result.set s.next _).take (s.next + 1) = _
      rw [List.take_succ_eq_append_getElem (by rwa [List.length_set]),
        List.take_set_of_le (Nat.le_refl _), List.getElem_set_self, h.result,
        Base32.bytesOf_snoc_of_le hv hfull,
        SignedWord.toUInt8_shiftRight _ (by omega), hbuffer,
        SignedWord.ofNat_mod_div _ (by omega)]
  · rename_i hopen
    refine ⟨_, rfl, ⟨hbuffer, ?_, ?_, ?_⟩, rfl⟩
    · show s.next = _
      rw [h.next, hlength]
      omega
    · show 5 * vs.length % 8 + 5 = _
      rw [hlength]
      omega
    · show s.result.take s.next = _
      rw [h.result, Base32.bytesOf_snoc_of_lt hv (by omega)]

/-- The variables behind the loop, for a key whose characters all have values. -/
def loopEnd (itm : CLHmacSha1) : List BYTE -> KeyBits -> Option KeyBits
  | [], s => some s
  | c :: strKey, s => do
      let nValue <- itm.CharMap.lookup c
      let s <- s.push itm nValue
      loopEnd itm strKey s

theorem encodeLoop_of_loopEnd {last : KeyBits}
    (hend : loopEnd itm strKey s = some last) :
    encodeLoop itm strKey s = some (last.result, true) := by
  induction strKey generalizing s with
  | nil =>
      rw [← Option.some.inj hend]
      rfl
  | cons c strKey ih =>
      rcases Option.bind_eq_some_iff.mp hend with ⟨nValue, hvalue, hrest⟩
      rcases Option.bind_eq_some_iff.mp hrest with ⟨next, hpush, hlast⟩
      rw [encodeLoop, hvalue]
      show (s.push itm nValue >>= _) = _
      rw [hpush]
      exact ih hlast

theorem Packed.loopEnd_packed (h : Packed vs s) (hread : ReadsBase32 itm)
    (hvalues : strKey.mapM Base32.value = some ws)
    (hroom : 5 * (vs.length + ws.length) / 8 ≤ s.result.length) :
    exists last, loopEnd itm strKey s = some last ∧ Packed (vs ++ ws) last ∧
      last.result.length = s.result.length := by
  induction strKey generalizing vs ws s with
  | nil =>
      have hws : ws = [] := (Option.some.inj hvalues).symm
      rw [hws, List.append_nil]
      exact ⟨s, rfl, h, rfl⟩
  | cons c strKey ih =>
      rcases Base32.mapM_value_cons hvalues with ⟨v, us, hc, hrest, hws⟩
      rw [hws, List.length_cons] at hroom
      rcases h.push hread (Base32.value_lt hc) (by omega) with
        ⟨next, hpush, hpacked, hkept⟩
      have hcount : (vs ++ [v]).length = vs.length + 1 := by
        rw [List.length_append, List.length_singleton]
      rcases ih hpacked hrest (by
        rw [hcount, hkept]
        omega) with ⟨last, hend, hlast, hlength⟩
      refine ⟨last, ?_, ?_, hlength.trans hkept⟩
      · show (itm.CharMap.lookup c >>= fun nValue =>
          s.push itm nValue >>= loopEnd itm strKey) = some last
        rw [hread.lookup, hc]
        show (s.push itm (Int32.ofNat v) >>= _) = some last
        rw [hpush]
        exact hend
      · rw [hws, List.append_cons]
        exact hlast

theorem Packed.loop (h : Packed vs s) (hread : ReadsBase32 itm)
    (hvalues : strKey.mapM Base32.value = some ws)
    (hroom : 5 * (vs.length + ws.length) / 8 = s.result.length) :
    encodeLoop itm strKey s = some (Base32.bytesOf (vs ++ ws), true) := by
  rcases h.loopEnd_packed hread hvalues (Nat.le_of_eq hroom) with
    ⟨last, hend, hlast, hlength⟩
  have hfull : last.next = last.result.length := by
    rw [hlast.next, List.length_append, hroom, hlength]
  rw [encodeLoop_of_loopEnd hend, ← hlast.result, hfull, List.take_length]

theorem encodeKey_eq (hread : ReadsBase32 itm)
    (heap : forall n, List.Vector BYTE n) (uBufferLen : UINT) {key : List BYTE}
    (hfits : 5 * strKey.length < 2 ^ 32)
    (hdecode : Base32.decode strKey = some key) :
    exists outLength, encodeKey itm heap strKey uBufferLen =
      some (key, outLength) ∧ outLength.toNat = key.length := by
  cases hvalues : strKey.mapM Base32.value with
  | none =>
      rw [Base32.decode, hvalues] at hdecode
      cases hdecode
  | some vs =>
      rw [Base32.decode, hvalues] at hdecode
      have hkey : Base32.bytesOf vs = key := Option.some.inj hdecode
      have hcount := Base32.length_mapM_value hvalues
      let outLength := UInt32.ofNat (strKey.length * itm.SHIFT) / 8
      have hout : outLength.toNat = 5 * vs.length / 8 := by
        show (UInt32.ofNat (strKey.length * itm.SHIFT) / 8).toNat = _
        rw [UInt32.toNat_div, UInt32.toNat_ofNat', hread.shift, hcount]
        show strKey.length * 5 % 2 ^ 32 / 8 = _
        omega
      have hloop := (packed_nil (heap outLength.toNat).val).loop hread hvalues (by
        rw [List.length_nil, Nat.zero_add, (heap outLength.toNat).length_val, hout])
      refine ⟨outLength, ?_, ?_⟩
      · show (encodeLoop itm strKey _ >>= _) = _
        rw [hloop, List.nil_append, hkey]
        rfl
      · rw [hout, ← hkey, Base32.length_bytesOf]

end CLHmacSha1
end BnsKorea
