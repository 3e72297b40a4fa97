import BnsKorea.Library.Crc
import BnsKorea.CreateCard.Program
import BnsKorea.Server.Services

/-!
# The check sum of a card

`GetCrc` looks up a table of 64-bit numbers.  Its register is the one of the
standard check sum, which takes the bytes bit by bit.
-/

namespace BnsKorea
namespace CreateCard

open Library
open Server (crc32 crc32Bit crc32Byte)

def polynomial : Nat := 0xEDB88320

/-!
## The standard register
-/

theorem toNat_crc32Bit (crc : DWORD) :
    (crc32Bit crc).toNat = Crc.shift polynomial crc.toNat := by
  have hodd : crc &&& 1 = 1 ↔ crc.toNat % 2 = 1 := by
    rw [← UInt32.toNat_inj, UInt32.toNat_and, UInt32.toNat_one, Nat.and_one_is_mod]
  have hhalf : (crc >>> 1).toNat = crc.toNat / 2 := by
    rw [UInt32.toNat_shiftRight]
    exact Nat.shiftRight_one crc.toNat
  unfold crc32Bit Crc.shift
  simp only [hodd]
  split
  · rw [UInt32.toNat_xor, hhalf]
    rfl
  · exact hhalf

theorem toNat_repeat_crc32Bit (k : Nat) (crc : DWORD) :
    (Nat.repeat crc32Bit k crc).toNat = (Crc.shift polynomial)^[k] crc.toNat := by
  induction k with
  | zero => rfl
  | succ k ih =>
      rw [Function.iterate_succ_apply', ← ih, ← toNat_crc32Bit]
      rfl

theorem toNat_crc32Byte (crc : DWORD) (b : BYTE) :
    (crc32Byte crc b).toNat =
      (Crc.shift polynomial)^[8] (crc.toNat ^^^ b.toNat) := by
  rw [crc32Byte, toNat_repeat_crc32Bit, UInt32.toNat_xor, UInt8.toNat_toUInt32]

/-!
## The table
-/

theorem toNat_tableBit (crc : UInt64) :
    (tableBit crc).toNat = Crc.shift polynomial crc.toNat := by
  have hodd : crc &&& 1 = 1 ↔ crc.toNat % 2 = 1 := by
    rw [← UInt64.toNat_inj, UInt64.toNat_and, UInt64.toNat_one, Nat.and_one_is_mod]
  have hhalf : (crc >>> 1).toNat = crc.toNat / 2 := by
    rw [UInt64.toNat_shiftRight]
    exact Nat.shiftRight_one crc.toNat
  unfold tableBit Crc.shift
  simp only [hodd]
  split
  · rw [UInt64.toNat_xor, hhalf]
    rfl
  · exact hhalf

theorem toNat_repeat_tableBit (k : Nat) (crc : UInt64) :
    (Nat.repeat tableBit k crc).toNat = (Crc.shift polynomial)^[k] crc.toNat := by
  induction k with
  | zero => rfl
  | succ k ih =>
      rw [Function.iterate_succ_apply', ← ih, ← toNat_tableBit]
      rfl

theorem toNat_makeTable {i : Nat} (hi : i < 256) :
    (makeTable.get ⟨i, hi⟩).toNat = (Crc.shift polynomial)^[8] i := by
  have hentry : makeTable.get ⟨i, hi⟩ = Nat.repeat tableBit 8 (UInt64.ofNat i) := by
    show makeTable[i] = _
    rw [makeTable, Vector.getElem_ofFn]
  have hnumber : (UInt64.ofNat i).toNat = i :=
    UInt64.toNat_ofNat_of_lt' (Nat.lt_trans hi (by decide))
  rw [hentry, toNat_repeat_tableBit, hnumber]

theorem toNat_getCrcByte (value : UInt64) (b : BYTE) :
    (getCrcByte makeTable value b).toNat =
      (Crc.shift polynomial)^[8] (value.toNat ^^^ b.toNat) := by
  have hhigh : (value >>> 8).toNat = value.toNat / 256 := by
    rw [UInt64.toNat_shiftRight]
    exact Nat.shiftRight_eq_div_pow value.toNat 8
  have hindex : ((value &&& 0xFF) ^^^ b.toUInt64).toNat =
      value.toNat % 256 ^^^ b.toNat := by
    rw [UInt64.toNat_xor, UInt64.toNat_and, UInt8.toNat_toUInt64]
    exact congrArg (· ^^^ b.toNat) (Nat.and_two_pow_sub_one_eq_mod value.toNat 8)
  rw [getCrcByte, UInt64.toNat_xor, hhigh, toNat_makeTable, hindex,
    Crc.byte_by_table value.toNat b.toNat_lt]

theorem foldl_getCrcByte (bytes : List BYTE) {value : UInt64} {crc : DWORD}
    (h : value.toNat = crc.toNat) :
    (bytes.foldl (getCrcByte makeTable) value).toNat =
      (bytes.foldl crc32Byte crc).toNat := by
  induction bytes generalizing value crc with
  | nil => exact h
  | cons b bytes ih =>
      apply ih
      rw [toNat_getCrcByte, toNat_crc32Byte, h]

theorem getCrc_eq (strMsg : WString) :
    (getCrc makeTable strMsg).toUInt32 = crc32 (asciiBytes strMsg) := by
  have hstart : (0xffffffff : UInt64).toNat = (0xFFFFFFFF : DWORD).toNat := rfl
  have hregister :
      ((asciiBytes strMsg).foldl (getCrcByte makeTable) 0xffffffff).toUInt32 =
        (asciiBytes strMsg).foldl crc32Byte 0xFFFFFFFF := by
    apply UInt32.toNat_inj.mp
    rw [UInt64.toNat_toUInt32, foldl_getCrcByte _ hstart]
    exact Nat.mod_eq_of_lt (UInt32.toNat_lt _)
  rw [getCrc, UInt32.toUInt32_toInt32, UInt64.toUInt32_xor, hregister, crc32]
  exact UInt32.xor_neg_one

end CreateCard
end BnsKorea
