import BnsKorea.Common.ServerCommon
import BnsKorea.Library.Bytes
import BnsKorea.Otp.Sha1

/-!
# The one-time passwords of the accounts

The password of a key at a time: the key is unpacked from its characters, the
time counted in steps, and the hash of both cut down to six digits.  The server
is a 32-bit process.
-/

namespace BnsKorea

open Library

/-!
## The counter of the time
-/

structure CTotpCounter where
  timeStep : LONG := 0
  startTime : LONG := 0

/-- The division truncates; without a step there is nothing to divide by. -/
def CTotpCounter.getValueAtTime (itm : CTotpCounter) (Time_ : LONGLONG) :
    Option LONGLONG :=
  if itm.timeStep = 0 then none
  else
    let timeSinceStartTime := Time_ - itm.startTime.toInt64
    if timeSinceStartTime ≥ 0 then
      some (timeSinceStartTime / itm.timeStep.toInt64)
    else
      some ((timeSinceStartTime - itm.timeStep.toInt64 - 1) /
        itm.timeStep.toInt64)

/-!
## Texts
-/

/-- What the code relies on of the conversion of wide strings. -/
structure AsciiConversion where
  /-- `UnicodeToASCII`; no result where there is no memory for the copy. -/
  unicodeToASCII : WString -> Option (List BYTE)
  /-- A text of seven-bit characters is copied character by character. -/
  unicodeToASCII_ascii : forall ws str, (forall c, c ∈ ws -> c < 128) ->
    unicodeToASCII ws = some str -> str = ws.map UInt16.toUInt8
  /-- The text and its copy lie in the 2 GiB of the process. -/
  unicodeToASCII_length : forall ws str, unicodeToASCII ws = some str ->
    2 * ws.length + str.length < 2 ^ 31

namespace AsciiConversion

def standard : AsciiConversion where
  unicodeToASCII ws :=
    if 3 * ws.length < 2 ^ 31 then some (ws.map UInt16.toUInt8) else none
  unicodeToASCII_ascii := by
    intro ws str _ h
    split at h
    · exact (Option.some.inj h).symm
    · cases h
  unicodeToASCII_length := by
    intro ws str h
    split at h
    · rw [← Option.some.inj h, List.length_map]
      omega
    · cases h

theorem standard_unicodeToASCII {ws : WString} (h : 3 * ws.length < 2 ^ 31) :
    standard.unicodeToASCII ws = some (ws.map UInt16.toUInt8) :=
  if_pos h

end AsciiConversion

/-!
## Keys
-/

/-- The values of the characters, and the bits that one of them has. -/
structure CLHmacSha1 where
  CharMap : List (BYTE × INT)
  MASK : INT
  SHIFT : Nat

namespace CLHmacSha1

def wsAlphabet : List BYTE :=
  (L "ABCDEFGHIJKLMNOPQRSTUVWXYZ234567").map UInt16.toUInt8

def _lookup : List Nat :=
  [32, 0, 1, 26, 2, 23, 27, 0, 3, 16, 24, 30, 28, 11, 0, 13, 4, 7, 17,
    0, 25, 22, 31, 15, 29, 10, 12, 6, 0, 21, 14, 9, 5, 20, 8, 19, 18]

def numberOfTrailingZeros (i : INT) : Option Nat :=
  let index := (i &&& -i) % 37
  if index < 0 then none else _lookup[index.toInt.toNat]?

def initCharMap : Option CLHmacSha1 := do
  let length := wsAlphabet.length
  let SHIFT <- numberOfTrailingZeros (Int32.ofNat length)
  pure
    { CharMap := wsAlphabet.zipIdx.map fun itm => (itm.1, Int32.ofNat itm.2)
      MASK := Int32.ofNat length - 1
      SHIFT := SHIFT }

/-- The local variables of the loop over a key. -/
structure KeyBits where
  buffer : INT := 0
  next : Nat := 0
  bitsleft : Nat := 0
  result : List BYTE

/-- A character's bits come in; a byte that is full goes out to the array. -/
def KeyBits.push (itm : CLHmacSha1) (nValue : INT) (s : KeyBits) :
    Option KeyBits :=
  let buffer := s.buffer <<< Int32.ofNat itm.SHIFT ||| (nValue &&& itm.MASK)
  let bitsleft := s.bitsleft + itm.SHIFT
  if bitsleft ≥ 8 then
    if s.next < s.result.length then
      some
        { buffer := buffer
          next := s.next + 1
          bitsleft := bitsleft - 8
          result := s.result.set s.next
            (buffer >>> Int32.ofNat (bitsleft - 8)).toUInt32.toUInt8 }
    else none
  else some { s with buffer := buffer, bitsleft := bitsleft }

/-- The loop, and if it went through: a character without a value ends it. -/
def encodeLoop (itm : CLHmacSha1) : List BYTE -> KeyBits ->
    Option (List BYTE × Bool)
  | [], s => some (s.result, true)
  | c :: strKey, s =>
      match itm.CharMap.lookup c with
      | none => some (s.result, false)
      | some nValue => do
          let s <- s.push itm nValue
          encodeLoop itm strKey s

/-- `heap` is what lies in a new array; the length is only set at the end. -/
def encodeKey (itm : CLHmacSha1) (heap : forall n, List.Vector BYTE n)
    (strKey : List BYTE) (uBufferLen : UINT) : Option (List BYTE × UINT) := do
  let outLength := UInt32.ofNat (strKey.length * itm.SHIFT) / 8
  let encoded <- encodeLoop itm strKey { result := (heap outLength.toNat).val }
  pure (encoded.1, if encoded.2 then outLength else uBufferLen)

/-!
## Keyed hashing
-/

def IPAD : BYTE := 0x36
def OPAD : BYTE := 0x5C

/-- The source is put over the front of the destination. -/
def memXor (Dest Src : List BYTE) : Option (List BYTE) :=
  if Src.length ≤ Dest.length then
    some (List.zipWith (· ^^^ ·) Dest Src ++ Dest.drop Src.length)
  else none

structure Addresses where
  szEncodeText : Nat
  szEncodeKey : Nat
  InnerHash : Nat

def optKey (address : Nat) (szEncodeKey : List BYTE) : Option (List BYTE) :=
  if szEncodeKey.length > 64 then do
    let KeyHash <- hash1_Bytes address szEncodeKey {}
    hash1_Finish KeyHash
  else pure szEncodeKey

def hashKeyed (pad : BYTE) (address : Nat) (szEncodeText szEncodeKey : List BYTE) :
    Option (List BYTE) := do
  let szBlock <- memXor (List.replicate 64 pad) szEncodeKey
  let Sha1Ctx <- hash1_Block szBlock {}
  let Sha1Ctx <- hash1_Bytes address szEncodeText Sha1Ctx
  hash1_Finish Sha1Ctx

def computerHash (address : Addresses) (szEncodeText szEncodeKey : List BYTE) :
    Option (List BYTE) := do
  let szEncodeKey <- optKey address.szEncodeKey szEncodeKey
  let InnerHash <- hashKeyed IPAD address.szEncodeText szEncodeText szEncodeKey
  hashKeyed OPAD address.InnerHash InnerHash szEncodeKey

/-!
## Passwords
-/

def getOTPState (now : LONGLONG) : Option LONGLONG :=
  CTotpCounter.getValueAtTime { timeStep := 30, startTime := 0 } now

/-- Byte `i` of the state goes to the `i`-th place from the end. -/
def counterBuffer (OtpState : LONGLONG) : List BYTE :=
  ((List.range 8).map fun i =>
    (OtpState >>> Int64.ofNat (i * 8)).toUInt64.toUInt8).reverse

def byteAt (ResultBuffer : List BYTE) (i : Nat) : Option INT :=
  (ResultBuffer[i]?).map fun b => Int32.ofNat b.toNat

def nBinary (b0 b1 b2 b3 : INT) : INT :=
  (b0 &&& 0x7f) <<< 24 ||| b1 <<< 16 ||| b2 <<< 8 ||| b3

def nPass (ResultBuffer : List BYTE) : Option INT := do
  let last <- byteAt ResultBuffer (20 - 1)
  let nOffset := (last &&& 0xF).toInt.toNat
  let b0 <- byteAt ResultBuffer nOffset
  let b1 <- byteAt ResultBuffer (nOffset + 1)
  let b2 <- byteAt ResultBuffer (nOffset + 2)
  let b3 <- byteAt ResultBuffer (nOffset + 3)
  pure (nBinary b0 b1 b2 b3 % 1000000)

/-- The password of the key at the time `now`, in seconds. -/
def calcOTPValue (T : AsciiConversion) (heap : forall n, List.Vector BYTE n)
    (address : Addresses) (now : LONGLONG) (wsKey : WString) : Option DWORD := do
  let itm <- initCharMap
  let strKey <- T.unicodeToASCII wsKey
  let KeyBuffer <- encodeKey itm heap strKey 0
  let OtpState <- getOTPState now
  guard (KeyBuffer.2.toNat ≤ KeyBuffer.1.length)
  let ResultBuffer <- computerHash address (counterBuffer OtpState)
    (KeyBuffer.1.take KeyBuffer.2.toNat)
  let nPass <- nPass ResultBuffer
  pure nPass.toUInt32

end CLHmacSha1
end BnsKorea
