import BnsKorea.Otp.BadKeys

/-!
# The bytes that a key is decoded to

For every text of the alphabet: which bytes the loop writes, how many, and where.
The size of the array is counted in bits first, and these are counted in 32 bits.
-/

namespace BnsKorea
namespace CLHmacSha1

open Library
open Library.Otp

variable {itm : CLHmacSha1}

/-!
## Texts of the alphabet
-/

theorem value_of_wsAlphabet {c : BYTE} (hc : c ∈ wsAlphabet) :
    exists v, Base32.value c = some v := by
  have hletters : forall c, c ∈ wsAlphabet -> (Base32.value c).isSome := by
    decide +kernel
  exact Option.isSome_iff_exists.mp (hletters c hc)

theorem overruns_of_wsAlphabet {strKey : List BYTE}
    (halphabet : forall c, c ∈ strKey -> c ∈ wsAlphabet)
    (hlong : 2 ^ 32 ≤ 5 * strKey.length) : Overruns strKey := by
  have hdigits := Base32.length_digits_of_values fun c hc =>
    value_of_wsAlphabet (halphabet c hc)
  unfold Overruns
  rw [hdigits]
  omega

/--
The key is decoded in its bounds: the bytes are those of base 32, their number is
the length that comes out and the size of the array, and the loop writes as many.
-/
def DecodesKey (itm : CLHmacSha1) (heap : forall n, List.Vector BYTE n)
    (strKey : List BYTE) (uBufferLen : UINT) : Prop :=
  exists key outLength last,
    Base32.decode strKey = some key ∧
    key.length = 5 * strKey.length / 8 ∧
    encodeKey itm heap strKey uBufferLen = some (key, outLength) ∧
    outLength.toNat = 5 * strKey.length / 8 ∧
    loopEnd itm strKey { result := (heap outLength.toNat).val } = some last ∧
    last.next = 5 * strKey.length / 8

theorem decodesKey_of_fits (hread : ReadsBase32 itm)
    (heap : forall n, List.Vector BYTE n) {strKey : List BYTE} (uBufferLen : UINT)
    (halphabet : forall c, c ∈ strKey -> c ∈ wsAlphabet)
    (hfits : 5 * strKey.length < 2 ^ 32) :
    DecodesKey itm heap strKey uBufferLen := by
  rcases Base32.exists_decode fun c hc => value_of_wsAlphabet (halphabet c hc)
    with ⟨key, hdecode⟩
  rcases encodeKey_eq hread heap uBufferLen hfits hdecode with
    ⟨outLength, hencode, hout⟩
  rcases Option.map_eq_some_iff.mp hdecode with ⟨vs, hvalues, hkey⟩
  have hcount := Base32.length_mapM_value hvalues
  have hlength : key.length = 5 * strKey.length / 8 := by
    rw [← hkey, Base32.length_bytesOf, hcount]
  have harray : (heap outLength.toNat).val.length = 5 * strKey.length / 8 := by
    rw [(heap outLength.toNat).length_val, hout, hlength]
  rcases (packed_nil (heap outLength.toNat).val).loopEnd_packed hread hvalues (by
    show _ ≤ (heap outLength.toNat).val.length
    rw [harray, List.length_nil, Nat.zero_add, hcount]) with
    ⟨last, hend, hpacked, _⟩
  refine ⟨key, outLength, last, hdecode, hlength, hencode, hout.trans hlength,
    hend, ?_⟩
  rw [hpacked.next, List.nil_append, hcount]

end CLHmacSha1
end BnsKorea
