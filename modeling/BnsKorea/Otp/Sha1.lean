import Mathlib.Data.Vector.Basic
import BnsKorea.Common.ServerCommon
import BnsKorea.Library.Bytes

/-!
# The hash of the one-time passwords

The port of SHA-1 with its buffer of two blocks.  Memory is a list of bytes, and
a copy that does not stay inside the arrays has no result.  The host is
little-endian: words are read and written from the least significant byte on.
-/

namespace BnsKorea
namespace CLHmacSha1

open Library

/-!
## Words
-/

def readWord (bytes : List BYTE) : DWORD :=
  UInt32.ofNat (Bytes.toNat bytes.reverse)

/-- `SetValue`: the bytes of the word as they lie in memory. -/
def setValue (Value : DWORD) : List BYTE :=
  (Bytes.ofNat 4 Value.toNat).reverse

def swap (n : DWORD) : DWORD :=
  n <<< 24 ||| (n &&& (0xff00 : DWORD)) <<< 8 |||
    ((n >>> 8) &&& (0xff00 : DWORD)) ||| n >>> 24

def rol (x n : DWORD) : DWORD :=
  x <<< n ||| x >>> (32 - n)

def k1 : DWORD := 0x5a827999
def k2 : DWORD := 0x6ed9eba1
def k3 : DWORD := 0x8f1bbcdc
def k4 : DWORD := 0xca62c1d6

def f1 (B C D : DWORD) : DWORD := D ^^^ (B &&& (C ^^^ D))
def f2 (B C D : DWORD) : DWORD := B ^^^ C ^^^ D
def f3 (B C D : DWORD) : DWORD := (B &&& C) ||| (D &&& (B ||| C))
def f4 (B C D : DWORD) : DWORD := B ^^^ C ^^^ D

/-!
## Rounds
-/

inductive Register where
  | a
  | b
  | c
  | d
  | e
deriving DecidableEq

/-- The local variables `a` to `e`. -/
structure Registers where
  a : DWORD
  b : DWORD
  c : DWORD
  d : DWORD
  e : DWORD

def Registers.get (r : Registers) : Register -> DWORD
  | .a => r.a
  | .b => r.b
  | .c => r.c
  | .d => r.d
  | .e => r.e

def Registers.set (r : Registers) (v : DWORD) : Register -> Registers
  | .a => { r with a := v }
  | .b => { r with b := v }
  | .c => { r with c := v }
  | .d => { r with d := v }
  | .e => { r with e := v }

/-- The last argument of `R`: a word of the array, or the next of the schedule. -/
inductive Operand where
  | x (t : Nat)
  | M (I : Nat)

/-- `M` writes the word it computes over the oldest one. -/
def Operand.eval (x : List DWORD) : Operand -> DWORD × List DWORD
  | .x t => (x.getD t 0, x)
  | .M I =>
      let tm := x.getD (I &&& 0x0f) 0 ^^^ x.getD ((I - 14) &&& 0x0f) 0 ^^^
        x.getD ((I - 8) &&& 0x0f) 0 ^^^ x.getD ((I - 3) &&& 0x0f) 0
      (rol tm 1, x.set (I &&& 0x0f) (rol tm 1))

/-- The macro `R` with its arguments. -/
structure Round where
  A : Register
  B : Register
  C : Register
  D : Register
  E : Register
  F : DWORD -> DWORD -> DWORD -> DWORD
  K : DWORD
  M : Operand

def Round.run (s : Registers × List DWORD) (itm : Round) :
    Registers × List DWORD :=
  let M := itm.M.eval s.2
  let E := s.1.get itm.E + (rol (s.1.get itm.A) 5 +
    itm.F (s.1.get itm.B) (s.1.get itm.C) (s.1.get itm.D) + itm.K + M.1)
  let r := s.1.set E itm.E
  (r.set (rol (r.get itm.B) 30) itm.B, M.2)

section

open Register

def R (A B C D E : Register) (F : DWORD -> DWORD -> DWORD -> DWORD) (K : DWORD)
    (M : Operand) : Round :=
  { A := A, B := B, C := C, D := D, E := E, F := F, K := K, M := M }

def rounds : List Round :=
  [R a b c d e f1 k1 (.x 0),
    R e a b c d f1 k1 (.x 1),
    R d e a b c f1 k1 (.x 2),
    R c d e a b f1 k1 (.x 3),
    R b c d e a f1 k1 (.x 4),
    R a b c d e f1 k1 (.x 5),
    R e a b c d f1 k1 (.x 6),
    R d e a b c f1 k1 (.x 7),
    R c d e a b f1 k1 (.x 8),
    R b c d e a f1 k1 (.x 9),
    R a b c d e f1 k1 (.x 10),
    R e a b c d f1 k1 (.x 11),
    R d e a b c f1 k1 (.x 12),
    R c d e a b f1 k1 (.x 13),
    R b c d e a f1 k1 (.x 14),
    R a b c d e f1 k1 (.x 15),
    R e a b c d f1 k1 (.M 16),
    R d e a b c f1 k1 (.M 17),
    R c d e a b f1 k1 (.M 18),
    R b c d e a f1 k1 (.M 19),
    R a b c d e f2 k2 (.M 20),
    R e a b c d f2 k2 (.M 21),
    R d e a b c f2 k2 (.M 22),
    R c d e a b f2 k2 (.M 23),
    R b c d e a f2 k2 (.M 24),
    R a b c d e f2 k2 (.M 25),
    R e a b c d f2 k2 (.M 26),
    R d e a b c f2 k2 (.M 27),
    R c d e a b f2 k2 (.M 28),
    R b c d e a f2 k2 (.M 29),
    R a b c d e f2 k2 (.M 30),
    R e a b c d f2 k2 (.M 31),
    R d e a b c f2 k2 (.M 32),
    R c d e a b f2 k2 (.M 33),
    R b c d e a f2 k2 (.M 34),
    R a b c d e f2 k2 (.M 35),
    R e a b c d f2 k2 (.M 36),
    R d e a b c f2 k2 (.M 37),
    R c d e a b f2 k2 (.M 38),
    R b c d e a f2 k2 (.M 39),
    R a b c d e f3 k3 (.M 40),
    R e a b c d f3 k3 (.M 41),
    R d e a b c f3 k3 (.M 42),
    R c d e a b f3 k3 (.M 43),
    R b c d e a f3 k3 (.M 44),
    R a b c d e f3 k3 (.M 45),
    R e a b c d f3 k3 (.M 46),
    R d e a b c f3 k3 (.M 47),
    R c d e a b f3 k3 (.M 48),
    R b c d e a f3 k3 (.M 49),
    R a b c d e f3 k3 (.M 50),
    R e a b c d f3 k3 (.M 51),
    R d e a b c f3 k3 (.M 52),
    R c d e a b f3 k3 (.M 53),
    R b c d e a f3 k3 (.M 54),
    R a b c d e f3 k3 (.M 55),
    R e a b c d f3 k3 (.M 56),
    R d e a b c f3 k3 (.M 57),
    R c d e a b f3 k3 (.M 58),
    R b c d e a f3 k3 (.M 59),
    R a b c d e f4 k4 (.M 60),
    R e a b c d f4 k4 (.M 61),
    R d e a b c f4 k4 (.M 62),
    R c d e a b f4 k4 (.M 63),
    R b c d e a f4 k4 (.M 64),
    R a b c d e f4 k4 (.M 65),
    R e a b c d f4 k4 (.M 66),
    R d e a b c f4 k4 (.M 67),
    R c d e a b f4 k4 (.M 68),
    R b c d e a f4 k4 (.M 69),
    R a b c d e f4 k4 (.M 70),
    R e a b c d f4 k4 (.M 71),
    R d e a b c f4 k4 (.M 72),
    R c d e a b f4 k4 (.M 73),
    R b c d e a f4 k4 (.M 74),
    R a b c d e f4 k4 (.M 75),
    R e a b c d f4 k4 (.M 76),
    R d e a b c f4 k4 (.M 77),
    R c d e a b f4 k4 (.M 78),
    R b c d e a f4 k4 (.M 79)]

end

/-!
## The context
-/

structure Sha1_ctx where
  A : DWORD := 0x67452301
  B : DWORD := 0xEFCDAB89
  C : DWORD := 0x98BADCFE
  D : DWORD := 0x10325476
  E : DWORD := 0xC3D2E1F0
  Total0 : DWORD := 0
  Total1 : DWORD := 0
  BufferLen : Nat := 0
  Buffer : List.Vector BYTE 128 := List.Vector.replicate 128 0

namespace Sha1_ctx

/-- `memcpy` to a place in the buffer. -/
def memcpy (left_over : Nat) (Src : List BYTE) (Sha1Ctx : Sha1_ctx) :
    Option Sha1_ctx :=
  if h : left_over + Src.length ≤ 128 then
    some { Sha1Ctx with
      Buffer := ⟨splice Sha1Ctx.Buffer.val left_over Src, by
        rw [length_splice] <;> rw [Sha1Ctx.Buffer.length_val]
        exact h⟩ }
  else none

/-- A part of the buffer. -/
def read (offset uSize : Nat) (Sha1Ctx : Sha1_ctx) : Option (List BYTE) :=
  if offset + uSize ≤ 128 then
    some ((Sha1Ctx.Buffer.val.drop offset).take uSize)
  else none

def addTotal (uSize : Nat) (Sha1Ctx : Sha1_ctx) : Sha1_ctx :=
  let Total0 := Sha1Ctx.Total0 + UInt32.ofNat uSize
  { Sha1Ctx with
    Total0 := Total0
    Total1 :=
      if Total0 < UInt32.ofNat uSize then Sha1Ctx.Total1 + 1
      else Sha1Ctx.Total1 }

/-- One pass of the loop over the blocks. -/
def pass (Sha1Ctx : Sha1_ctx) (block : List BYTE) : Sha1_ctx :=
  let x := (chunks 4 block).map fun words => swap (readWord words)
  let r := (rounds.foldl Round.run
    ({ a := Sha1Ctx.A
       b := Sha1Ctx.B
       c := Sha1Ctx.C
       d := Sha1Ctx.D
       e := Sha1Ctx.E }, x)).1
  { Sha1Ctx with
    A := Sha1Ctx.A + r.a
    B := Sha1Ctx.B + r.b
    C := Sha1Ctx.C + r.c
    D := Sha1Ctx.D + r.d
    E := Sha1Ctx.E + r.e }

end Sha1_ctx

def hash1_Block (szEcodeKey : List BYTE) (Sha1Ctx : Sha1_ctx) :
    Option Sha1_ctx :=
  if szEcodeKey.length / 4 % 16 = 0 then
    some ((chunks 64 szEcodeKey).foldl Sha1_ctx.pass
      (Sha1Ctx.addTotal szEcodeKey.length))
  else none

/-!
## Messages
-/

/-- The front of the buffer is processed, and what is left moved to its place. -/
def processFront (uSize left_over : Nat) (Sha1Ctx : Sha1_ctx) :
    Option Sha1_ctx := do
  let blocks <- Sha1Ctx.read 0 uSize
  let Sha1Ctx <- hash1_Block blocks Sha1Ctx
  let rest <- Sha1Ctx.read uSize left_over
  Sha1_ctx.memcpy 0 rest { Sha1Ctx with BufferLen := left_over }

/-- The blocks of the buffer are processed once there is more than one. -/
def processBuffer (Sha1Ctx : Sha1_ctx) : Option Sha1_ctx :=
  if Sha1Ctx.BufferLen > 64 then
    processFront (Sha1Ctx.BufferLen / 64 * 64) (Sha1Ctx.BufferLen % 64) Sha1Ctx
  else some Sha1Ctx

/-- A buffer with bytes in it is filled; the count of the bytes taken for it. -/
def fillBuffer (szEcodeText : List BYTE) (Sha1Ctx : Sha1_ctx) :
    Option (Nat × Sha1_ctx) :=
  if Sha1Ctx.BufferLen ≠ 0 then do
    let left_over := Sha1Ctx.BufferLen
    let add :=
      if 128 - left_over > szEcodeText.length then szEcodeText.length
      else 128 - left_over
    let Sha1Ctx <- Sha1Ctx.memcpy left_over (szEcodeText.take add)
    let Sha1Ctx <- processBuffer { Sha1Ctx with BufferLen := left_over + add }
    pure (add, Sha1Ctx)
  else pure (0, Sha1Ctx)

def unalignedBlocks (szEcodeText : List BYTE) (Sha1Ctx : Sha1_ctx) :
    Option (List BYTE × Sha1_ctx) :=
  if szEcodeText.length > 64 then do
    let Sha1Ctx <- Sha1Ctx.memcpy 0 (szEcodeText.take 64)
    let block <- Sha1Ctx.read 0 64
    let Sha1Ctx <- hash1_Block block Sha1Ctx
    unalignedBlocks (szEcodeText.drop 64) Sha1Ctx
  else pure (szEcodeText, Sha1Ctx)
termination_by szEcodeText.length
decreasing_by
  rw [List.length_drop]
  omega

def completeBlocks (address : Nat) (szEcodeText : List BYTE)
    (Sha1Ctx : Sha1_ctx) : Option (List BYTE × Sha1_ctx) :=
  if szEcodeText.length ≥ 64 then
    if address % 4 ≠ 0 then unalignedBlocks szEcodeText Sha1Ctx
    else do
      let uSize := szEcodeText.length / 64 * 64
      let Sha1Ctx <- hash1_Block (szEcodeText.take uSize) Sha1Ctx
      pure (szEcodeText.drop uSize, Sha1Ctx)
  else pure (szEcodeText, Sha1Ctx)

/-- The remaining bytes are moved to the buffer. -/
def moveRest (szEcodeText : List BYTE) (Sha1Ctx : Sha1_ctx) : Option Sha1_ctx :=
  if szEcodeText.length > 0 then do
    let left_over := Sha1Ctx.BufferLen + szEcodeText.length
    let Sha1Ctx <- Sha1Ctx.memcpy Sha1Ctx.BufferLen szEcodeText
    if left_over ≥ 64 then processFront 64 (left_over - 64) Sha1Ctx
    else pure { Sha1Ctx with BufferLen := left_over }
  else pure Sha1Ctx

def hash1_Bytes (address : Nat) (szEcodeText : List BYTE) (Sha1Ctx : Sha1_ctx) :
    Option Sha1_ctx := do
  let filled <- fillBuffer szEcodeText Sha1Ctx
  let left <- completeBlocks (address + filled.1) (szEcodeText.drop filled.1)
    filled.2
  moveRest left.1 left.2

def fillBufer : List BYTE :=
  0x80 :: List.replicate 63 0

/-- The length in bits is put behind a fill of at most one block. -/
def hash1_Finish (Sha1Ctx : Sha1_ctx) : Option (List BYTE) := do
  let bytes := Sha1Ctx.BufferLen
  let size := if bytes < 56 then 64 / 4 else 64 * 2 / 4
  let Sha1Ctx := Sha1Ctx.addTotal bytes
  let Sha1Ctx <- Sha1Ctx.memcpy ((size - 2) * 4)
    (setValue (swap (Sha1Ctx.Total1 <<< 3 ||| Sha1Ctx.Total0 >>> 29)))
  let Sha1Ctx <- Sha1Ctx.memcpy ((size - 1) * 4)
    (setValue (swap (Sha1Ctx.Total0 <<< 3)))
  guard ((size - 2) * 4 - bytes ≤ fillBufer.length)
  let Sha1Ctx <- Sha1Ctx.memcpy bytes (fillBufer.take ((size - 2) * 4 - bytes))
  let blocks <- Sha1Ctx.read 0 (size * 4)
  let Sha1Ctx <- hash1_Block blocks Sha1Ctx
  pure (setValue (swap Sha1Ctx.A) ++ setValue (swap Sha1Ctx.B) ++
    setValue (swap Sha1Ctx.C) ++ setValue (swap Sha1Ctx.D) ++
      setValue (swap Sha1Ctx.E))

end CLHmacSha1
end BnsKorea
