import BnsKorea.Common.ServerCommon
import BnsKorea.Library.Relocation

/-!
# The length of an instruction

`SizeOfCode` of the inline hook walks over the bytes of one instruction: what
stands in front of the opcode, the opcode, the mode byte with what it asks for,
and the immediate operands.
-/

namespace BnsKorea
namespace SerialNumber

open Library Library.ByteMemory

/-!
## The tables
-/

def OP_NONE : BYTE := 0x00
def OP_MODRM : BYTE := 0x01
def OP_DATA_I8 : BYTE := 0x02
def OP_DATA_I16 : BYTE := 0x04
def OP_DATA_I32 : BYTE := 0x08
def OP_DATA_PRE66_67 : BYTE := 0x10
def OP_WORD : BYTE := 0x20
def OP_REL32 : BYTE := 0x40

def opcodeFlags : List BYTE :=
  -- 00
  [ OP_MODRM, OP_MODRM, OP_MODRM, OP_MODRM, OP_DATA_I8, OP_DATA_PRE66_67, OP_NONE,
    OP_NONE, OP_MODRM, OP_MODRM, OP_MODRM, OP_MODRM, OP_DATA_I8, OP_DATA_PRE66_67,
    OP_NONE, OP_NONE,
  -- 10
    OP_MODRM, OP_MODRM, OP_MODRM, OP_MODRM, OP_DATA_I8, OP_DATA_PRE66_67, OP_NONE,
    OP_NONE, OP_MODRM, OP_MODRM, OP_MODRM, OP_MODRM, OP_DATA_I8, OP_DATA_PRE66_67,
    OP_NONE, OP_NONE,
  -- 20
    OP_MODRM, OP_MODRM, OP_MODRM, OP_MODRM, OP_DATA_I8, OP_DATA_PRE66_67, OP_NONE,
    OP_NONE, OP_MODRM, OP_MODRM, OP_MODRM, OP_MODRM, OP_DATA_I8, OP_DATA_PRE66_67,
    OP_NONE, OP_NONE,
  -- 30
    OP_MODRM, OP_MODRM, OP_MODRM, OP_MODRM, OP_DATA_I8, OP_DATA_PRE66_67, OP_NONE,
    OP_NONE, OP_MODRM, OP_MODRM, OP_MODRM, OP_MODRM, OP_DATA_I8, OP_DATA_PRE66_67,
    OP_NONE, OP_NONE,
  -- 40
    OP_NONE, OP_NONE, OP_NONE, OP_NONE, OP_NONE, OP_NONE, OP_NONE, OP_NONE, OP_NONE,
    OP_NONE, OP_NONE, OP_NONE, OP_NONE, OP_NONE, OP_NONE, OP_NONE,
  -- 50
    OP_NONE, OP_NONE, OP_NONE, OP_NONE, OP_NONE, OP_NONE, OP_NONE, OP_NONE, OP_NONE,
    OP_NONE, OP_NONE, OP_NONE, OP_NONE, OP_NONE, OP_NONE, OP_NONE,
  -- 60
    OP_NONE, OP_NONE, OP_MODRM, OP_MODRM, OP_NONE, OP_NONE, OP_NONE, OP_NONE,
    OP_DATA_PRE66_67, OP_MODRM ||| OP_DATA_PRE66_67, OP_DATA_I8,
    OP_MODRM ||| OP_DATA_I8, OP_NONE, OP_NONE, OP_NONE, OP_NONE,
  -- 70
    OP_DATA_I8, OP_DATA_I8, OP_DATA_I8, OP_DATA_I8, OP_DATA_I8, OP_DATA_I8,
    OP_DATA_I8, OP_DATA_I8, OP_DATA_I8, OP_DATA_I8, OP_DATA_I8, OP_DATA_I8,
    OP_DATA_I8, OP_DATA_I8, OP_DATA_I8, OP_DATA_I8,
  -- 80
    OP_MODRM ||| OP_DATA_I8, OP_MODRM ||| OP_DATA_PRE66_67, OP_MODRM ||| OP_DATA_I8,
    OP_MODRM ||| OP_DATA_I8, OP_MODRM, OP_MODRM, OP_MODRM, OP_MODRM, OP_MODRM,
    OP_MODRM, OP_MODRM, OP_MODRM, OP_MODRM, OP_MODRM, OP_MODRM, OP_MODRM,
  -- 90
    OP_NONE, OP_NONE, OP_NONE, OP_NONE, OP_NONE, OP_NONE, OP_NONE, OP_NONE, OP_NONE,
    OP_NONE, OP_DATA_I16 ||| OP_DATA_PRE66_67, OP_NONE, OP_NONE, OP_NONE, OP_NONE,
    OP_NONE,
  -- A0
    OP_DATA_PRE66_67, OP_DATA_PRE66_67, OP_DATA_PRE66_67, OP_DATA_PRE66_67, OP_NONE,
    OP_NONE, OP_NONE, OP_NONE, OP_DATA_I8, OP_DATA_PRE66_67, OP_NONE, OP_NONE,
    OP_NONE, OP_NONE, OP_NONE, OP_NONE,
  -- B0
    OP_DATA_I8, OP_DATA_I8, OP_DATA_I8, OP_DATA_I8, OP_DATA_I8, OP_DATA_I8,
    OP_DATA_I8, OP_DATA_I8, OP_DATA_PRE66_67, OP_DATA_PRE66_67, OP_DATA_PRE66_67,
    OP_DATA_PRE66_67, OP_DATA_PRE66_67, OP_DATA_PRE66_67, OP_DATA_PRE66_67,
    OP_DATA_PRE66_67,
  -- C0
    OP_MODRM ||| OP_DATA_I8, OP_MODRM ||| OP_DATA_I8, OP_DATA_I16, OP_NONE, OP_MODRM,
    OP_MODRM, OP_MODRM ||| OP_DATA_I8, OP_MODRM ||| OP_DATA_PRE66_67,
    OP_DATA_I8 ||| OP_DATA_I16, OP_NONE, OP_DATA_I16, OP_NONE, OP_NONE, OP_DATA_I8,
    OP_NONE, OP_NONE,
  -- D0
    OP_MODRM, OP_MODRM, OP_MODRM, OP_MODRM, OP_DATA_I8, OP_DATA_I8, OP_NONE, OP_NONE,
    OP_WORD, OP_WORD, OP_WORD, OP_WORD, OP_WORD, OP_WORD, OP_WORD, OP_WORD,
  -- E0
    OP_DATA_I8, OP_DATA_I8, OP_DATA_I8, OP_DATA_I8, OP_DATA_I8, OP_DATA_I8,
    OP_DATA_I8, OP_DATA_I8, OP_DATA_PRE66_67 ||| OP_REL32,
    OP_DATA_PRE66_67 ||| OP_REL32, OP_DATA_I16 ||| OP_DATA_PRE66_67, OP_DATA_I8,
    OP_NONE, OP_NONE, OP_NONE, OP_NONE,
  -- F0
    OP_NONE, OP_NONE, OP_NONE, OP_NONE, OP_NONE, OP_NONE, OP_MODRM, OP_MODRM,
    OP_NONE, OP_NONE, OP_NONE, OP_NONE, OP_NONE, OP_NONE, OP_MODRM,
    OP_MODRM ||| OP_REL32]

/-- What follows the opcode, by the byte behind `0F`. -/
def opcodeFlagsExt : List BYTE :=
  -- 00
  [ OP_MODRM, OP_MODRM, OP_MODRM, OP_MODRM, OP_NONE, OP_NONE, OP_NONE, OP_NONE,
    OP_NONE, OP_NONE, OP_NONE, OP_NONE, OP_NONE, OP_MODRM, OP_NONE,
    OP_MODRM ||| OP_DATA_I8,
  -- 10
    OP_MODRM, OP_MODRM, OP_MODRM, OP_MODRM, OP_MODRM, OP_MODRM, OP_MODRM, OP_MODRM,
    OP_MODRM, OP_NONE, OP_NONE, OP_NONE, OP_NONE, OP_NONE, OP_NONE, OP_NONE,
  -- 20
    OP_MODRM, OP_MODRM, OP_MODRM, OP_MODRM, OP_MODRM, OP_NONE, OP_MODRM, OP_NONE,
    OP_MODRM, OP_MODRM, OP_MODRM, OP_MODRM, OP_MODRM, OP_MODRM, OP_MODRM, OP_MODRM,
  -- 30
    OP_NONE, OP_NONE, OP_NONE, OP_NONE, OP_NONE, OP_NONE, OP_NONE, OP_NONE, OP_NONE,
    OP_NONE, OP_NONE, OP_NONE, OP_NONE, OP_NONE, OP_NONE, OP_NONE,
  -- 40
    OP_MODRM, OP_MODRM, OP_MODRM, OP_MODRM, OP_MODRM, OP_MODRM, OP_MODRM, OP_MODRM,
    OP_MODRM, OP_MODRM, OP_MODRM, OP_MODRM, OP_MODRM, OP_MODRM, OP_MODRM, OP_MODRM,
  -- 50
    OP_MODRM, OP_MODRM, OP_MODRM, OP_MODRM, OP_MODRM, OP_MODRM, OP_MODRM, OP_MODRM,
    OP_MODRM, OP_MODRM, OP_MODRM, OP_MODRM, OP_MODRM, OP_MODRM, OP_MODRM, OP_MODRM,
  -- 60
    OP_MODRM, OP_MODRM, OP_MODRM, OP_MODRM, OP_MODRM, OP_MODRM, OP_MODRM, OP_MODRM,
    OP_MODRM, OP_MODRM, OP_MODRM, OP_MODRM, OP_MODRM, OP_MODRM, OP_MODRM, OP_MODRM,
  -- 70
    OP_MODRM ||| OP_DATA_I8, OP_MODRM ||| OP_DATA_I8, OP_MODRM ||| OP_DATA_I8,
    OP_MODRM ||| OP_DATA_I8, OP_MODRM, OP_MODRM, OP_MODRM, OP_NONE, OP_NONE, OP_NONE,
    OP_NONE, OP_NONE, OP_MODRM, OP_MODRM, OP_MODRM, OP_MODRM,
  -- 80
    OP_DATA_PRE66_67 ||| OP_REL32, OP_DATA_PRE66_67 ||| OP_REL32,
    OP_DATA_PRE66_67 ||| OP_REL32, OP_DATA_PRE66_67 ||| OP_REL32,
    OP_DATA_PRE66_67 ||| OP_REL32, OP_DATA_PRE66_67 ||| OP_REL32,
    OP_DATA_PRE66_67 ||| OP_REL32, OP_DATA_PRE66_67 ||| OP_REL32,
    OP_DATA_PRE66_67 ||| OP_REL32, OP_DATA_PRE66_67 ||| OP_REL32,
    OP_DATA_PRE66_67 ||| OP_REL32, OP_DATA_PRE66_67 ||| OP_REL32,
    OP_DATA_PRE66_67 ||| OP_REL32, OP_DATA_PRE66_67 ||| OP_REL32,
    OP_DATA_PRE66_67 ||| OP_REL32, OP_DATA_PRE66_67 ||| OP_REL32,
  -- 90
    OP_MODRM, OP_MODRM, OP_MODRM, OP_MODRM, OP_MODRM, OP_MODRM, OP_MODRM, OP_MODRM,
    OP_MODRM, OP_MODRM, OP_MODRM, OP_MODRM, OP_MODRM, OP_MODRM, OP_MODRM, OP_MODRM,
  -- A0
    OP_NONE, OP_NONE, OP_NONE, OP_MODRM, OP_MODRM ||| OP_DATA_I8, OP_MODRM, OP_NONE,
    OP_NONE, OP_NONE, OP_NONE, OP_NONE, OP_MODRM, OP_MODRM ||| OP_DATA_I8, OP_MODRM,
    OP_MODRM, OP_MODRM,
  -- B0
    OP_MODRM, OP_MODRM, OP_MODRM, OP_MODRM, OP_MODRM, OP_MODRM, OP_MODRM, OP_MODRM,
    OP_NONE, OP_NONE, OP_MODRM ||| OP_DATA_I8, OP_MODRM, OP_MODRM, OP_MODRM,
    OP_MODRM, OP_MODRM,
  -- C0
    OP_MODRM, OP_MODRM, OP_MODRM ||| OP_DATA_I8, OP_MODRM, OP_MODRM ||| OP_DATA_I8,
    OP_MODRM ||| OP_DATA_I8, OP_MODRM ||| OP_DATA_I8, OP_MODRM, OP_NONE, OP_NONE,
    OP_NONE, OP_NONE, OP_NONE, OP_NONE, OP_NONE, OP_NONE,
  -- D0
    OP_MODRM, OP_MODRM, OP_MODRM, OP_MODRM, OP_MODRM, OP_MODRM, OP_MODRM, OP_MODRM,
    OP_MODRM, OP_MODRM, OP_MODRM, OP_MODRM, OP_MODRM, OP_MODRM, OP_MODRM, OP_MODRM,
  -- E0
    OP_MODRM, OP_MODRM, OP_MODRM, OP_MODRM, OP_MODRM, OP_MODRM, OP_MODRM, OP_MODRM,
    OP_MODRM, OP_MODRM, OP_MODRM, OP_MODRM, OP_MODRM, OP_MODRM, OP_MODRM, OP_MODRM,
  -- F0
    OP_MODRM, OP_MODRM, OP_MODRM, OP_MODRM, OP_MODRM, OP_MODRM, OP_MODRM, OP_MODRM,
    OP_MODRM, OP_MODRM, OP_MODRM, OP_MODRM, OP_MODRM, OP_MODRM, OP_MODRM, OP_NONE]

/-- `Flags & mask` as a condition. -/
def hasFlag (Flags mask : BYTE) : Bool :=
  Flags &&& mask != 0

/-!
## The parts of an instruction
-/

def isPfx (c : BYTE) : Bool :=
  c == 0x2E || c == 0x3E || c == 0x36 || c == 0x26 || c == 0x64 || c == 0x65 ||
    c == 0xF0 || c == 0xF2 || c == 0xF3 || c == 0x66 || c == 0x67

/--
The `while` loop: where the opcode stands, and whether `66` and `67` stood in
front of it.  `left` is how far `cPtr` may still go before `cPtr > Code + 16`.
-/
def skipPfx (Code : Nat -> BYTE) : Nat -> Nat -> Bool -> Bool ->
    Option (Nat × Bool × Bool)
  | 0, cPtr, PFX66, PFX67 =>
      if isPfx (Code cPtr) then none else some (cPtr, PFX66, PFX67)
  | left + 1, cPtr, PFX66, PFX67 =>
      if isPfx (Code cPtr) then
        skipPfx Code left (cPtr + 1) (PFX66 || Code cPtr == 0x66)
          (PFX67 || Code cPtr == 0x67)
      else some (cPtr, PFX66, PFX67)

def flagsOf (s : Nat -> BYTE) : BYTE :=
  if s 0 = 0x0F then opcodeFlagsExt.getD (s 1).toNat OP_NONE
  else opcodeFlags.getD (s 0).toNat OP_NONE

/-- How far `cPtr` is behind the opcode. -/
def opcodeSize (s : Nat -> BYTE) : Nat :=
  (if s 0 = 0x0F then 2 else 1) + if hasFlag (flagsOf s) OP_WORD then 1 else 0

def iMod (modRM : BYTE) : BYTE := modRM >>> 6
def iReg (modRM : BYTE) : BYTE := (modRM &&& 0x38) >>> 3
def iRM (modRM : BYTE) : BYTE := modRM &&& 7

/-- `SibPresent` behind the `switch`. -/
def sibPresent (PFX67 : Bool) (modRM : BYTE) : Bool :=
  !PFX67 && iRM modRM == 4 && iMod modRM != 3

/-- `OffsetSize` behind the `switch`. -/
def offsetSize (PFX67 : Bool) (modRM : BYTE) : Nat :=
  if iMod modRM = 0 then
    if PFX67 && iRM modRM == 6 then 2
    else if !PFX67 && iRM modRM == 5 then 4 else 0
  else if iMod modRM = 1 then 1
  else if iMod modRM = 2 then if PFX67 then 2 else 4
  else 0

/-- The mode byte, the byte `sib` behind it if it belongs to it, and the offset. -/
def modRMSize (PFX67 : Bool) (modRM sib : BYTE) : Nat :=
  if sibPresent PFX67 modRM then
    1 + 1 + if sib &&& 7 = 5 && (iMod modRM == 0 || iMod modRM == 2) then 4
      else offsetSize PFX67 modRM
  else 1 + offsetSize PFX67 modRM

/-- `Flags` after the mode byte was seen. -/
def modRMFlags (Opcode modRM Flags : BYTE) : BYTE :=
  let Flags := if Opcode == 0xF6 && iReg modRM == 0 then Flags ||| OP_DATA_I8 else Flags
  if Opcode == 0xF7 && iReg modRM == 0 then Flags ||| OP_DATA_PRE66_67 else Flags

def dataSize (PFX66 : Bool) (Flags : BYTE) : Nat :=
  (if hasFlag Flags OP_DATA_I8 then 1 else 0) +
    (if hasFlag Flags OP_DATA_I16 then 2 else 0) +
    (if hasFlag Flags OP_DATA_I32 then 4 else 0) +
    if hasFlag Flags OP_DATA_PRE66_67 then if PFX66 then 2 else 4 else 0

/-- What counts as `PFX66` for the operands: `A0` to `A3` go by `67`. -/
def dataPFX66 (PFX66 PFX67 : Bool) (Opcode : BYTE) : Bool :=
  if 0xA0 ≤ Opcode ∧ Opcode ≤ 0xA3 then PFX67 else PFX66

def opcodeLength (s : Nat -> BYTE) (PFX66 PFX67 : Bool) : Nat :=
  let cPtr := opcodeSize s
  let Add := dataPFX66 PFX66 PFX67 (s 0)
  if hasFlag (flagsOf s) OP_MODRM then
    cPtr + modRMSize PFX67 (s cPtr) (s (cPtr + 1)) +
      dataSize Add (modRMFlags (s 0) (s cPtr) (flagsOf s))
  else cPtr + dataSize Add (flagsOf s)

/-- What `SizeOfCode` returns, and where `*pOpcode` then points if it was set. -/
structure CodeSize where
  Length : Nat
  pOpcode : Option Nat
deriving DecidableEq

/-- `SizeOfCode` -/
def sizeOfCode (Code : Nat -> BYTE) : CodeSize :=
  match skipPfx Code 16 0 false false with
  | none => ⟨0, none⟩
  | some (cPtr, PFX66, PFX67) =>
      ⟨cPtr + opcodeLength (fun i => Code (cPtr + i)) PFX66 PFX67, some cPtr⟩

/-!
## Only the bytes of the instruction count
-/

def Agree (n : Nat) (s t : Nat -> BYTE) : Prop :=
  forall i, i < n -> s i = t i

theorem Agree.mono {m n : Nat} {s t : Nat -> BYTE} (h : Agree n s t) (hmn : m ≤ n) :
    Agree m s t :=
  fun i hi => h i (Nat.lt_of_lt_of_le hi hmn)

theorem Agree.drop {m n : Nat} {s t : Nat -> BYTE} (h : Agree (m + n) s t) :
    Agree n (fun i => s (m + i)) fun i => t (m + i) :=
  fun i hi => h (m + i) (Nat.add_lt_add_left hi m)

theorem skipPfx_spec {Code : Nat -> BYTE} {left cPtr : Nat} {a b : Bool}
    {p : Nat} {a' b' : Bool} (h : skipPfx Code left cPtr a b = some (p, a', b')) :
    cPtr ≤ p ∧ p ≤ cPtr + left ∧ isPfx (Code p) = false ∧
      forall i, cPtr ≤ i -> i < p -> isPfx (Code i) = true := by
  induction left generalizing cPtr a b with
  | zero =>
      by_cases hpfx : isPfx (Code cPtr)
      · simp [skipPfx, hpfx] at h
      · simp only [skipPfx, hpfx] at h
        simp at h
        rcases h with ⟨rfl, -, -⟩
        simp only [Bool.not_eq_true] at hpfx
        exact ⟨Nat.le_refl _, Nat.le_refl _, hpfx, fun i hi hip => by omega⟩
  | succ left ih =>
      by_cases hpfx : isPfx (Code cPtr)
      · simp only [skipPfx, hpfx, if_true] at h
        rcases ih h with ⟨hle, hbound, hstop, hall⟩
        refine ⟨by omega, by omega, hstop, fun i hi hip => ?_⟩
        rcases Nat.eq_or_lt_of_le hi with rfl | hlt
        · exact hpfx
        · exact hall i hlt hip
      · simp only [skipPfx, hpfx] at h
        simp at h
        rcases h with ⟨rfl, -, -⟩
        simp only [Bool.not_eq_true] at hpfx
        exact ⟨Nat.le_refl _, by omega, hpfx, fun i hi hip => by omega⟩

theorem skipPfx_congr {s t : Nat -> BYTE} {left cPtr : Nat} {a b : Bool}
    {r : Nat × Bool × Bool} (h : skipPfx s left cPtr a b = some r)
    (hst : Agree (r.1 + 1) s t) : skipPfx t left cPtr a b = some r := by
  induction left generalizing cPtr a b with
  | zero =>
      have hp := (skipPfx_spec h).1
      rw [skipPfx, ← hst cPtr (by omega)]
      exact h
  | succ left ih =>
      have hp := (skipPfx_spec h).1
      rw [skipPfx, ← hst cPtr (by omega)]
      by_cases hpfx : isPfx (s cPtr)
      · simp only [skipPfx, hpfx, if_true] at h ⊢
        exact ih h
      · simp only [skipPfx, hpfx] at h ⊢
        exact h

theorem modRMSize_congr {PFX67 : Bool} {modRM sib sib' : BYTE}
    (h : 1 < modRMSize PFX67 modRM sib -> sib = sib') :
    modRMSize PFX67 modRM sib = modRMSize PFX67 modRM sib' := by
  by_cases hsib : sibPresent PFX67 modRM
  · have htwo : 1 < modRMSize PFX67 modRM sib := by
      rw [modRMSize, if_pos hsib]
      omega
    rw [h htwo]
  · rw [modRMSize, modRMSize, if_neg hsib, if_neg hsib]

theorem one_le_modRMSize (PFX67 : Bool) (modRM sib : BYTE) :
    1 ≤ modRMSize PFX67 modRM sib := by
  unfold modRMSize
  split <;> omega

theorem offsetSize_le (PFX67 : Bool) (modRM : BYTE) : offsetSize PFX67 modRM ≤ 4 := by
  unfold offsetSize
  split
  · split
    · omega
    · split <;> omega
  · split
    · omega
    · split
      · split <;> omega
      · omega

theorem modRMSize_le (PFX67 : Bool) (modRM sib : BYTE) :
    modRMSize PFX67 modRM sib ≤ 6 := by
  have hoffset := offsetSize_le PFX67 modRM
  unfold modRMSize
  split
  · split <;> omega
  · omega

theorem opcodeSize_le_opcodeLength (s : Nat -> BYTE) (PFX66 PFX67 : Bool) :
    opcodeSize s ≤ opcodeLength s PFX66 PFX67 := by
  simp only [opcodeLength]
  split <;> omega

theorem one_le_opcodeSize (s : Nat -> BYTE) : 1 ≤ opcodeSize s := by
  unfold opcodeSize
  split <;> omega

theorem flagsOf_congr {n : Nat} {s t : Nat -> BYTE} (hst : Agree n s t)
    (hn : opcodeSize s ≤ n) : flagsOf s = flagsOf t := by
  have hone := one_le_opcodeSize s
  have hzero : s 0 = t 0 := hst 0 (by omega)
  by_cases hext : s 0 = 0x0F
  · have htwo : 2 ≤ opcodeSize s := by
      rw [opcodeSize, if_pos hext]
      omega
    rw [flagsOf, flagsOf, ← hzero, if_pos hext, if_pos hext, hst 1 (by omega)]
  · rw [flagsOf, flagsOf, ← hzero, if_neg hext, if_neg hext]

theorem opcodeSize_congr {n : Nat} {s t : Nat -> BYTE} (hst : Agree n s t)
    (hn : opcodeSize s ≤ n) : opcodeSize s = opcodeSize t := by
  have hone := one_le_opcodeSize s
  rw [opcodeSize, opcodeSize, flagsOf_congr hst hn, hst 0 (by omega)]

theorem opcodeLength_congr {s t : Nat -> BYTE} {PFX66 PFX67 : Bool}
    (hst : Agree (opcodeLength s PFX66 PFX67) s t) :
    opcodeLength s PFX66 PFX67 = opcodeLength t PFX66 PFX67 := by
  have hle := opcodeSize_le_opcodeLength s PFX66 PFX67
  have hone := one_le_opcodeSize s
  have hzero : s 0 = t 0 := hst 0 (by omega)
  have hflags : flagsOf t = flagsOf s := (flagsOf_congr hst hle).symm
  have hsize : opcodeSize t = opcodeSize s := (opcodeSize_congr hst hle).symm
  by_cases hmod : hasFlag (flagsOf s) OP_MODRM
  · -- the mode byte belongs to the instruction, and the SIB byte if it is read
    have hlength : opcodeLength s PFX66 PFX67 = opcodeSize s +
        modRMSize PFX67 (s (opcodeSize s)) (s (opcodeSize s + 1)) +
          dataSize (dataPFX66 PFX66 PFX67 (s 0))
            (modRMFlags (s 0) (s (opcodeSize s)) (flagsOf s)) := by
      simp only [opcodeLength, hmod, if_true]
    have hmodRM := one_le_modRMSize PFX67 (s (opcodeSize s)) (s (opcodeSize s + 1))
    have hbyte : s (opcodeSize s) = t (opcodeSize s) := hst _ (by omega)
    have hsib : modRMSize PFX67 (s (opcodeSize s)) (s (opcodeSize s + 1)) =
        modRMSize PFX67 (s (opcodeSize s)) (t (opcodeSize s + 1)) :=
      modRMSize_congr fun htwo => hst _ (by omega)
    rw [hlength, opcodeLength, hflags, hsize, ← hzero, if_pos hmod, ← hbyte, hsib]
  · simp only [opcodeLength, hflags, hsize, ← hzero, hmod, Bool.false_eq_true, if_false]

theorem sizeOfCode_pos {s : Nat -> BYTE} :
    0 < (sizeOfCode s).Length ↔ (skipPfx s 16 0 false false).isSome := by
  unfold sizeOfCode
  cases hskip : skipPfx s 16 0 false false with
  | none => simp
  | some r =>
      rcases r with ⟨p, a, b⟩
      have hone := one_le_opcodeSize fun i => s (p + i)
      have hle := opcodeSize_le_opcodeLength (fun i => s (p + i)) a b
      simp only [Option.isSome_some, iff_true]
      omega

/--
The length of an instruction is read off its own bytes: all bytes that begin
with them measure the same, whatever stands behind.
-/
theorem sizeOfCode_congr {s t : Nat -> BYTE} (hpos : 0 < (sizeOfCode s).Length)
    (hst : Agree (sizeOfCode s).Length s t) : sizeOfCode t = sizeOfCode s := by
  rcases Option.isSome_iff_exists.mp (sizeOfCode_pos.mp hpos) with ⟨r, hskip⟩
  rcases r with ⟨p, a, b⟩
  have hsize : sizeOfCode s = ⟨p + opcodeLength (fun i => s (p + i)) a b, some p⟩ := by
    unfold sizeOfCode
    simp only [hskip]
  rw [hsize] at hst
  have hone := one_le_opcodeSize fun i => s (p + i)
  have hle := opcodeSize_le_opcodeLength (fun i => s (p + i)) a b
  have hopcode : p + 1 ≤ p + opcodeLength (fun i => s (p + i)) a b := by omega
  have hskip' : skipPfx t 16 0 false false = some (p, a, b) :=
    skipPfx_congr hskip (hst.mono hopcode)
  have hlength : opcodeLength (fun i => s (p + i)) a b =
      opcodeLength (fun i => t (p + i)) a b := opcodeLength_congr hst.drop
  rw [hsize, hlength]
  unfold sizeOfCode
  simp only [hskip']

/-!
## How long an instruction can be
-/

def moreFlags (Opcode Flags : BYTE) : BYTE :=
  if Opcode = 0xF6 then Flags ||| OP_DATA_I8
  else if Opcode = 0xF7 then Flags ||| OP_DATA_PRE66_67 else Flags

def flagsBound (Opcode Flags : BYTE) : Nat :=
  (if hasFlag Flags OP_WORD then 1 else 0) +
    (if hasFlag Flags OP_MODRM then 6 else 0) +
    max (dataSize false Flags) (dataSize false (moreFlags Opcode Flags))

theorem flagsBound_opcodeFlags :
    (List.range 256).all (fun n =>
      flagsBound (UInt8.ofNat n) (opcodeFlags.getD n OP_NONE) ≤ 10) = true := by
  decide +kernel

theorem flagsBound_opcodeFlagsExt :
    (List.range 256).all (fun n =>
      flagsBound 0x0F (opcodeFlagsExt.getD n OP_NONE) ≤ 9) = true := by
  decide +kernel

theorem flagsBound_flagsOf (s : Nat -> BYTE) :
    flagsBound (s 0) (flagsOf s) + (if s 0 = 0x0F then 2 else 1) ≤ 11 := by
  by_cases hext : s 0 = 0x0F
  · have hall := List.all_eq_true.mp flagsBound_opcodeFlagsExt (s 1).toNat
      (List.mem_range.mpr (s 1).toNat_lt)
    rw [flagsOf, if_pos hext, if_pos hext, hext]
    exact Nat.add_le_add_right (of_decide_eq_true hall) 2
  · have hall := List.all_eq_true.mp flagsBound_opcodeFlags (s 0).toNat
      (List.mem_range.mpr (s 0).toNat_lt)
    rw [UInt8.ofNat_toNat] at hall
    rw [flagsOf, if_neg hext, if_neg hext]
    exact Nat.add_le_add_right (of_decide_eq_true hall) 1

theorem modRMFlags_cases (Opcode modRM Flags : BYTE) :
    modRMFlags Opcode modRM Flags = Flags ∨
      modRMFlags Opcode modRM Flags = moreFlags Opcode Flags := by
  by_cases hF6 : Opcode = 0xF6
  · by_cases hReg : iReg modRM = 0
    · exact Or.inr (by simp [modRMFlags, moreFlags, hF6, hReg])
    · exact Or.inl (by simp [modRMFlags, hF6, hReg])
  · by_cases hF7 : Opcode = 0xF7
    · by_cases hReg : iReg modRM = 0
      · exact Or.inr (by simp [modRMFlags, moreFlags, hF7, hReg])
      · exact Or.inl (by simp [modRMFlags, hF7, hReg])
    · exact Or.inl (by simp [modRMFlags, hF6, hF7])

theorem dataSize_le (PFX66 : Bool) (Flags : BYTE) :
    dataSize PFX66 Flags ≤ dataSize false Flags := by
  cases PFX66 with
  | false => exact Nat.le_refl _
  | true =>
      apply Nat.add_le_add_left
      by_cases hPre : hasFlag Flags OP_DATA_PRE66_67 <;> simp [hPre]

theorem opcodeLength_le (s : Nat -> BYTE) (PFX66 PFX67 : Bool) :
    opcodeLength s PFX66 PFX67 ≤ 11 := by
  have hbound := flagsBound_flagsOf s
  have hopcode : opcodeSize s = (if s 0 = 0x0F then 2 else 1) +
      if hasFlag (flagsOf s) OP_WORD then 1 else 0 := rfl
  have hdata : forall Flags, Flags = flagsOf s ∨ Flags = moreFlags (s 0) (flagsOf s) ->
      dataSize (dataPFX66 PFX66 PFX67 (s 0)) Flags ≤
        max (dataSize false (flagsOf s))
          (dataSize false (moreFlags (s 0) (flagsOf s))) := by
    intro Flags hFlags
    refine (dataSize_le _ Flags).trans ?_
    rcases hFlags with rfl | rfl
    · exact Nat.le_max_left _ _
    · exact Nat.le_max_right _ _
  unfold flagsBound at hbound
  by_cases hmod : hasFlag (flagsOf s) OP_MODRM
  · have hmodRM := modRMSize_le PFX67 (s (opcodeSize s)) (s (opcodeSize s + 1))
    have hsize := hdata _ (modRMFlags_cases (s 0) (s (opcodeSize s)) (flagsOf s))
    rw [if_pos hmod] at hbound
    simp only [opcodeLength, hmod, if_true]
    omega
  · have hsize := hdata _ (Or.inl rfl)
    rw [if_neg hmod] at hbound
    simp only [opcodeLength, hmod, Bool.false_eq_true, if_false]
    omega

theorem sizeOfCode_le (s : Nat -> BYTE) : (sizeOfCode s).Length ≤ 27 := by
  unfold sizeOfCode
  cases hskip : skipPfx s 16 0 false false with
  | none => exact Nat.zero_le _
  | some r =>
      rcases r with ⟨p, a, b⟩
      have hpfx := (skipPfx_spec hskip).2.1
      have hle := opcodeLength_le (fun i => s (p + i)) a b
      show p + opcodeLength (fun i => s (p + i)) a b ≤ 27
      omega

theorem skipPfx_eq_none {Code : Nat -> BYTE} {left cPtr : Nat} {a b : Bool} :
    skipPfx Code left cPtr a b = none ↔
      forall i, i ≤ left -> isPfx (Code (cPtr + i)) = true := by
  induction left generalizing cPtr a b with
  | zero => simp [skipPfx]
  | succ left ih =>
      by_cases hpfx : isPfx (Code cPtr)
      · simp only [skipPfx, hpfx, if_true, ih]
        constructor
        · intro hall i hi
          cases i with
          | zero => exact hpfx
          | succ i =>
              rw [Nat.add_comm i, ← Nat.add_assoc]
              exact hall i (by omega)
        · intro hall i hi
          rw [Nat.add_assoc, Nat.add_comm 1]
          exact hall (i + 1) (by omega)
      · simp only [skipPfx, hpfx, Bool.false_eq_true, if_false]
        constructor
        · intro hsome
          cases hsome
        · intro hall
          exact absurd (hall 0 (Nat.zero_le _)) hpfx

/--
`SizeOfCode` looks at nothing but the instruction that it measures: whatever
begins with the same bytes measures the same.  It finds at most 27 bytes, and
none exactly where seventeen bytes that belong in front of an opcode follow each
other.
-/
theorem sizeOfCode_spec (s : Nat -> BYTE) :
    (sizeOfCode s).Length ≤ 27 ∧
      ((sizeOfCode s).Length = 0 ↔ forall i, i ≤ 16 -> isPfx (s i) = true) ∧
      (0 < (sizeOfCode s).Length -> forall t,
        (forall i, i < (sizeOfCode s).Length -> s i = t i) ->
          sizeOfCode t = sizeOfCode s) := by
  refine ⟨sizeOfCode_le s, ?_, fun hpos t hst => sizeOfCode_congr hpos hst⟩
  have hnone := @skipPfx_eq_none s 16 0 false false
  simp only [Nat.zero_add] at hnone
  have hpos := sizeOfCode_pos (s := s)
  rw [← hnone, ← Option.not_isSome_iff_eq_none, ← hpos, Nat.not_lt,
    Nat.le_zero]

/-!
## Bytes that measure one instruction
-/

/-- `SizeOfCode` measures exactly these bytes, whatever stands behind them. -/
def Measured (bs : List BYTE) : Prop :=
  0 < bs.length ∧ forall s, first s bs.length = bs -> (sizeOfCode s).Length = bs.length

/-- Wherever `SizeOfCode` does not give up, it has measured one instruction. -/
theorem measured_first {s : Nat -> BYTE} (hpos : 0 < (sizeOfCode s).Length) :
    Measured (first s (sizeOfCode s).Length) := by
  constructor
  · simpa using hpos
  · intro t ht
    rw [length_first] at ht ⊢
    rw [sizeOfCode_congr hpos fun i hi => (first_inj ht hi).symm]

theorem measured_jump (d : DWORD) : Measured (Cpu.jump d) := by
  constructor
  · simp
  · intro s hs
    have hhead : s 0 = 0xE9 := by
      rw [Cpu.length_jump] at hs
      exact Option.some.inj (congrArg List.head? hs)
    have hopcode : forall t : Nat -> BYTE, t 0 = 0xE9 ->
        opcodeLength t false false = 5 := by
      intro t ht
      have hflags : flagsOf t = OP_DATA_PRE66_67 ||| OP_REL32 := by
        rw [flagsOf, ht]
        rfl
      unfold opcodeLength opcodeSize
      rw [hflags, ht]
      rfl
    have hskip : skipPfx s 16 0 false false = some (0, false, false) := by
      rw [skipPfx, hhead]
      rfl
    have hlength := hopcode (fun i => s (0 + i)) hhead
    unfold sizeOfCode
    rw [hskip, Cpu.length_jump, ← hlength]
    exact Nat.zero_add _

end SerialNumber
end BnsKorea
