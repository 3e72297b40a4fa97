import BnsKorea.Library.Bytes
import BnsKorea.Common.ServerCommon

/-!
# Buffers and compression

Buffers are lists of bytes of a fixed length.  An operation that would read or
write outside of one has no result.  Texts lie in a buffer as 16-bit units, the
lower byte first.  The compression library is a parameter with what is
documented of it.
-/

namespace BnsKorea

open Library

/-!
## Reading and writing
-/

/-- The first bytes of a buffer. -/
def readBytes (buffer : List BYTE) (size : Nat) : Option (List BYTE) :=
  if size ≤ buffer.length then some (buffer.take size) else none

def memcpy (dest source : List BYTE) (size : Nat) : Option (List BYTE) :=
  if size ≤ dest.length then (readBytes source size).map (splice dest 0)
  else none

/-- What memory holds that was allocated and not written to. -/
structure Memory where
  alloc : Nat -> List BYTE
  length_alloc : forall size, (alloc size).length = size

def Memory.standard : Memory where
  alloc size := List.replicate size 0xCD
  length_alloc _ := List.length_replicate

theorem readBytes_of_length {buffer : List BYTE} {size : Nat}
    (h : buffer.length = size) : readBytes buffer size = some buffer := by
  rw [readBytes, if_pos (Nat.le_of_eq h.symm), ← h, List.take_length]

theorem readBytes_splice {dest bytes : List BYTE} {size : Nat}
    (hsize : bytes.length = size) :
    readBytes (splice dest 0 bytes) size = some bytes := by
  have hsplice : splice dest 0 bytes = bytes ++ dest.drop (0 + bytes.length) := rfl
  rw [hsplice, readBytes, ← hsize, if_pos, List.take_left]
  rw [List.length_append]
  exact Nat.le_add_right _ _

theorem memcpy_eq {dest source : List BYTE} {size : Nat}
    (hdest : size ≤ dest.length) (hsource : size ≤ source.length) :
    memcpy dest source size = some (splice dest 0 (source.take size)) := by
  rw [memcpy, if_pos hdest, readBytes, if_pos hsource]
  rfl

/-!
## Texts
-/

def wideBytes (ws : WString) : List BYTE :=
  ws.flatMap fun (u : UInt16) => [u.toUInt8, (u >>> 8).toUInt8]

def wide (lo hi : BYTE) : UInt16 :=
  UInt16.ofNat (lo.toNat + 256 * hi.toNat)

/-- The text up to its terminator, which has to be in the buffer. -/
def readText : List BYTE -> Option WString
  | lo :: hi :: rest =>
      if wide lo hi = 0 then some [] else (readText rest).map (wide lo hi :: ·)
  | _ => none

theorem wide_bytes (u : UInt16) : wide u.toUInt8 (u >>> 8).toUInt8 = u := by
  have hlt := u.toNat_lt
  have hhi : (u >>> 8).toUInt8.toNat = u.toNat / 256 := by
    rw [UInt16.toNat_toUInt8, UInt16.toNat_shiftRight]
    show u.toNat >>> 8 % 256 = u.toNat / 256
    rw [Nat.shiftRight_eq_div_pow]
    exact Nat.mod_eq_of_lt (Nat.div_lt_of_lt_mul hlt)
  rw [wide, hhi, UInt16.toNat_toUInt8, Nat.mod_add_div, UInt16.ofNat_toNat]

theorem wideBytes_append (ws ws' : WString) :
    wideBytes (ws ++ ws') = wideBytes ws ++ wideBytes ws' :=
  List.flatMap_append

theorem length_wideBytes (ws : WString) :
    (wideBytes ws).length = ws.length * 2 := by
  induction ws with
  | nil => rfl
  | cons u ws ih =>
      have hcons : wideBytes (u :: ws) =
          u.toUInt8 :: (u >>> 8).toUInt8 :: wideBytes ws := rfl
      rw [hcons, List.length_cons, List.length_cons, List.length_cons, ih]
      omega

theorem readText_wideBytes {ws : WString} (hnul : (0 : UInt16) ∉ ws)
    (rest : List BYTE) : readText (wideBytes (ws ++ [0]) ++ rest) = some ws := by
  induction ws with
  | nil =>
      show readText (0 :: 0 :: rest) = some []
      rw [readText, if_pos (by decide)]
  | cons u ws ih =>
      have hu : u ≠ 0 := fun hu => hnul (hu ▸ List.mem_cons_self)
      have hrest := ih fun hmem => hnul (List.mem_cons_of_mem u hmem)
      show readText (u.toUInt8 :: (u >>> 8).toUInt8 ::
        (wideBytes (ws ++ [0]) ++ rest)) = some (u :: ws)
      rw [readText, wide_bytes, if_neg hu, hrest]
      rfl

/-!
## Compression
-/

/--
`compress` and `uncompress` are given the destination, the length it is said to
have, and the source, and return the destination and the length written.
-/
structure Zlib where
  stream : List BYTE -> List BYTE
  boundOf : Nat -> Nat
  compress : List BYTE -> UINT -> List BYTE -> List BYTE × UINT
  uncompress : List BYTE -> UINT -> List BYTE -> List BYTE × UINT
  length_stream : forall source, (stream source).length ≤ boundOf source.length
  /-- With room for the bound a source is compressed. -/
  compress_eq : forall dest destLen source,
    boundOf source.length ≤ destLen.toNat -> destLen.toNat ≤ dest.length ->
    compress dest destLen source =
      (splice dest 0 (stream source), UInt32.ofNat (stream source).length)
  /-- With room for the source a stream is uncompressed. -/
  uncompress_eq : forall dest destLen source,
    source.length ≤ destLen.toNat -> destLen.toNat ≤ dest.length ->
    uncompress dest destLen (stream source) =
      (splice dest 0 source, UInt32.ofNat source.length)

namespace Zlib

variable (Z : Zlib)

/-- The bound is a 32-bit number too. -/
def compressBound (sourceLen : UINT) : UINT :=
  UInt32.ofNat (Z.boundOf sourceLen.toNat)

/-- A call on buffers; the lengths must be lengths the buffers have. -/
def compressTo (dest : List BYTE) (destLen : UINT) (source : List BYTE)
    (sourceLen : UINT) : Option (List BYTE × UINT) :=
  if destLen.toNat ≤ dest.length then
    (readBytes source sourceLen.toNat).map (Z.compress dest destLen)
  else none

def uncompressTo (dest : List BYTE) (destLen : UINT) (source : List BYTE)
    (sourceLen : UINT) : Option (List BYTE × UINT) :=
  if destLen.toNat ≤ dest.length then
    (readBytes source sourceLen.toNat).map (Z.uncompress dest destLen)
  else none

end Zlib
end BnsKorea
