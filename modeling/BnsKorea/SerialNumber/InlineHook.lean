import BnsKorea.SerialNumber.SizeOfCode

/-!
# The inline hook

`InlineHook` moves the first instructions of a function into a block of its own
and puts a jump in their place.  The block begins with the number of bytes that
were moved; behind it stand a jump to the new function, the bytes themselves and
a jump back behind them.
-/

namespace BnsKorea
namespace SerialNumber

open Library Library.ByteMemory

/-!
## The bytes to be moved
-/

def JMP_SIZE : Nat := 5

/-- The loop stops in front of `ret` and `ret n`. -/
def isReturn (Proc : Nat -> BYTE) : Bool :=
  let code := sizeOfCode Proc
  (code.Length == 1 && code.pOpcode.map Proc == some 0xC3) ||
    (code.Length == 3 && code.pOpcode.map Proc == some 0xC2)

/--
The loop of `GetPatchSize`, with the bytes from `Proc` on.  Every turn but the
last moves on, so that `turns` is no limit: see `patchLoop_stops`.
-/
def patchLoop (dwNeedSize : Nat) : Nat -> (Nat -> BYTE) -> Nat -> Nat
  | 0, _, PatchSize => PatchSize
  | turns + 1, Proc, PatchSize =>
      if isReturn Proc then PatchSize
      else
        let Length := (sizeOfCode Proc).Length
        if dwNeedSize ≤ PatchSize + Length then PatchSize + Length
        else if Length = 0 then PatchSize + Length
        else patchLoop dwNeedSize turns (fun i => Proc (Length + i))
          (PatchSize + Length)

/--
`GetPatchSize`; its sums stay in 32 bits for sizes that are asked for up to
`2 ^ 32 - 27`: see `patchBlock_length_le`.
-/
def getPatchSize (m : ByteMemory) (Proc : DWORD) (dwNeedSize : Nat) : Option Nat :=
  if Proc = 0 then none
  else some (patchLoop dwNeedSize (dwNeedSize + 1) (code m Proc) 0)

/-- The instructions the loop walks over. -/
def patchBlock (dwNeedSize : Nat) : Nat -> (Nat -> BYTE) -> Nat -> List (List BYTE)
  | 0, _, _ => []
  | turns + 1, Proc, PatchSize =>
      if isReturn Proc then []
      else
        let Length := (sizeOfCode Proc).Length
        if Length = 0 then []
        else if dwNeedSize ≤ PatchSize + Length then [first Proc Length]
        else first Proc Length ::
          patchBlock dwNeedSize turns (fun i => Proc (Length + i))
            (PatchSize + Length)

section

variable {dwNeedSize turns PatchSize : Nat} {Proc : Nat -> BYTE}

theorem first_patchBlock : (patchBlock dwNeedSize turns Proc PatchSize).flatten =
    first Proc (patchBlock dwNeedSize turns Proc PatchSize).flatten.length := by
  induction turns generalizing Proc PatchSize with
  | zero => rfl
  | succ turns ih =>
      unfold patchBlock
      by_cases hret : isReturn Proc
      · simp [hret, first]
      · by_cases hzero : (sizeOfCode Proc).Length = 0
        · simp [hret, hzero, first]
        · by_cases hneed : dwNeedSize ≤ PatchSize + (sizeOfCode Proc).Length
          · simp [hret, hzero, hneed]
          · simp only [hret, hzero, hneed, if_false, Bool.false_eq_true,
              List.flatten_cons, List.length_append, length_first, first_add]
            rw [← ih]

/-- Every piece of the block is one instruction as `SizeOfCode` measures it. -/
theorem measured_patchBlock {bs : List BYTE}
    (hbs : bs ∈ patchBlock dwNeedSize turns Proc PatchSize) : Measured bs := by
  induction turns generalizing Proc PatchSize with
  | zero => simp [patchBlock] at hbs
  | succ turns ih =>
      unfold patchBlock at hbs
      by_cases hret : isReturn Proc
      · simp [hret] at hbs
      · by_cases hzero : (sizeOfCode Proc).Length = 0
        · simp [hret, hzero] at hbs
        · have hhead := measured_first (Nat.pos_of_ne_zero hzero)
          by_cases hneed : dwNeedSize ≤ PatchSize + (sizeOfCode Proc).Length
          · simp only [hret, hzero, hneed, if_true, if_false, Bool.false_eq_true,
              List.mem_singleton] at hbs
            rw [hbs]
            exact hhead
          · simp only [hret, hzero, hneed, if_false, Bool.false_eq_true,
              List.mem_cons] at hbs
            rcases hbs with rfl | htail
            · exact hhead
            · exact ih htail

theorem patchLoop_eq : patchLoop dwNeedSize turns Proc PatchSize =
    PatchSize + (patchBlock dwNeedSize turns Proc PatchSize).flatten.length := by
  induction turns generalizing Proc PatchSize with
  | zero => rfl
  | succ turns ih =>
      unfold patchLoop patchBlock
      by_cases hret : isReturn Proc
      · simp [hret]
      · by_cases hzero : (sizeOfCode Proc).Length = 0
        · simp [hret, hzero]
        · by_cases hneed : dwNeedSize ≤ PatchSize + (sizeOfCode Proc).Length
          · simp [hret, hzero, hneed]
          · simp only [hret, hzero, hneed, if_false, Bool.false_eq_true, ih,
              List.flatten_cons, List.length_append, length_first]
            omega

theorem patchBlock_minimal (hless : PatchSize < dwNeedSize) {front : List (List BYTE)}
    {last : List BYTE}
    (h : patchBlock dwNeedSize turns Proc PatchSize = front ++ [last]) :
    PatchSize + front.flatten.length < dwNeedSize := by
  induction turns generalizing Proc PatchSize front with
  | zero => simp [patchBlock] at h
  | succ turns ih =>
      unfold patchBlock at h
      by_cases hret : isReturn Proc
      · simp [hret] at h
      · by_cases hzero : (sizeOfCode Proc).Length = 0
        · simp [hret, hzero] at h
        · by_cases hneed : dwNeedSize ≤ PatchSize + (sizeOfCode Proc).Length
          · have hfront : front = [] := by
              have hlength := congrArg List.length h
              simp [hret, hzero, hneed] at hlength
              exact hlength
            simpa [hfront] using hless
          · simp only [hret, hzero, hneed, if_false, Bool.false_eq_true] at h
            cases front with
            | nil => simpa using hless
            | cons bs front =>
                rw [List.cons_append, List.cons.injEq] at h
                have hrest := ih (by omega) h.2
                rw [List.flatten_cons, List.length_append, ← h.1, length_first]
                omega

theorem patchLoop_stops (hless : PatchSize < dwNeedSize)
    (hturns : dwNeedSize ≤ PatchSize + turns)
    (hshort : patchLoop dwNeedSize turns Proc PatchSize < dwNeedSize) :
    let rest := fun i =>
      Proc ((patchBlock dwNeedSize turns Proc PatchSize).flatten.length + i)
    isReturn rest = true ∨ (sizeOfCode rest).Length = 0 := by
  induction turns generalizing Proc PatchSize with
  | zero => omega
  | succ turns ih =>
      unfold patchLoop at hshort
      unfold patchBlock
      by_cases hret : isReturn Proc
      · exact Or.inl (by simp [hret])
      · by_cases hzero : (sizeOfCode Proc).Length = 0
        · exact Or.inr (by simp [hret, hzero])
        · by_cases hneed : dwNeedSize ≤ PatchSize + (sizeOfCode Proc).Length
          · simp only [hret, hneed, if_true, if_false, Bool.false_eq_true] at hshort
            omega
          · simp only [hret, hzero, hneed, if_false, Bool.false_eq_true] at hshort
            have hrest := ih (by omega) (by omega) hshort
            simpa [hret, hzero, hneed, Nat.add_assoc] using hrest

theorem patchBlock_length_le (hneed : 0 < dwNeedSize) :
    (patchBlock dwNeedSize turns Proc 0).flatten.length ≤ dwNeedSize + 26 := by
  rcases List.eq_nil_or_concat (patchBlock dwNeedSize turns Proc 0) with hnil | hsnoc
  · simp [hnil]
  · rcases hsnoc with ⟨front, last, hblock⟩
    rw [List.concat_eq_append] at hblock
    have hfront := patchBlock_minimal hneed hblock
    have hlast : last.length ≤ 27 := by
      have hmeasured : Measured last :=
        measured_patchBlock (by rw [hblock]; simp)
      have hpadded : first (fun i => last.getD i 0) last.length = last := by
        apply List.ext_getElem
        · simp
        · intro i hi hi'
          simp [first, hi']
      rw [← hmeasured.2 _ hpadded]
      exact sizeOfCode_le _
    rw [Nat.zero_add] at hfront
    rw [hblock, List.flatten_append, List.length_append, List.flatten_singleton]
    omega

end

/--
Asked for some bytes, `GetPatchSize` takes whole instructions from the head of the
function, no more of them than are needed, and takes too few bytes only in front of
a return or of bytes that are no instruction.
-/
theorem getPatchSize_spec (m : ByteMemory) {Proc : DWORD} {dwNeedSize : Nat}
    (hProc : Proc ≠ 0) (hneed : 0 < dwNeedSize) :
    exists block : List (List BYTE),
      getPatchSize m Proc dwNeedSize = some block.flatten.length ∧
        Holds m Proc block.flatten ∧ (forall bs, bs ∈ block -> Measured bs) ∧
        (forall front last, block = front ++ [last] ->
          front.flatten.length < dwNeedSize) ∧
        block.flatten.length ≤ dwNeedSize + 26 ∧
        (block.flatten.length < dwNeedSize ->
          let rest := code m (Proc + UInt32.ofNat block.flatten.length)
          isReturn rest = true ∨ (sizeOfCode rest).Length = 0) := by
  refine ⟨patchBlock dwNeedSize (dwNeedSize + 1) (code m Proc) 0, ?_, ?_, ?_, ?_,
    patchBlock_length_le hneed, ?_⟩
  · rw [getPatchSize, if_neg hProc, patchLoop_eq, Nat.zero_add]
  · exact first_patchBlock.symm
  · exact fun bs hbs => measured_patchBlock hbs
  · intro front last hblock
    simpa using patchBlock_minimal hneed hblock
  · intro hshort
    have hturns : dwNeedSize ≤ 0 + (dwNeedSize + 1) := by omega
    have hcount :
        patchLoop dwNeedSize (dwNeedSize + 1) (code m Proc) 0 < dwNeedSize := by
      rw [patchLoop_eq, Nat.zero_add]
      exact hshort
    have hloop := patchLoop_stops hneed hturns hcount
    have hrest : code m (Proc + UInt32.ofNat
        (patchBlock dwNeedSize (dwNeedSize + 1) (code m Proc) 0).flatten.length) =
        fun i => code m Proc
          ((patchBlock dwNeedSize (dwNeedSize + 1) (code m Proc) 0).flatten.length +
            i) :=
      funext fun i => code_add m Proc _ i
    rw [hrest]
    exact hloop

/-- `mov edi, edi`, `push ebp`, `mov ebp, esp` and `ret 8` at `1000`. -/
def usualMemory : ByteMemory :=
  ByteMemory.write (fun _ => 0x90) 0x1000
    [0x8B, 0xFF, 0x55, 0x8B, 0xEC, 0xC2, 0x08, 0x00]

theorem getPatchSize_usualMemory :
    exists block : List (List BYTE),
      getPatchSize usualMemory 0x1000 JMP_SIZE = some block.flatten.length ∧
        Holds usualMemory 0x1000 block.flatten ∧
        (forall bs, bs ∈ block -> Measured bs) ∧
        (forall front last, block = front ++ [last] ->
          front.flatten.length < JMP_SIZE) ∧
        block.flatten.length ≤ JMP_SIZE + 26 ∧
        (block.flatten.length < JMP_SIZE ->
          let rest := code usualMemory (0x1000 + UInt32.ofNat block.flatten.length)
          isReturn rest = true ∨ (sizeOfCode rest).Length = 0) :=
  getPatchSize_spec usualMemory (by decide) (by decide)

/-!
## Writing the hook
-/

structure Windows where
  /-- the block of the hook, null if there is no memory -/
  lpBlock : DWORD
  /-- the buffer that the patch is put together in -/
  lpPatchBuffer : DWORD
  /-- `VirtualProtect` makes the function writable -/
  canProtect : Bool

/-- `WriteReadOnlyMemory`, without the answer, which nobody asks for. -/
def writeReadOnlyMemory (W : Windows) (m : ByteMemory) (lpDest : DWORD)
    (lpSource : List BYTE) : ByteMemory :=
  if W.canProtect then m.write lpDest lpSource else m

/-- The patch: bytes `90`, a jump over their beginning, cut to the size. -/
def patchBuffer (dwPatchSize : Nat) (distance : DWORD) : List BYTE :=
  (Cpu.jump distance ++
    (List.replicate dwPatchSize 0x90).drop JMP_SIZE).take dwPatchSize

inductive HookResult where
  /-- `FALSE` -/
  | refused
  /-- a write through a null pointer -/
  | fault
  /-- `TRUE`, and the address put into `*RealProc` -/
  | hooked (m : ByteMemory) (RealProc : DWORD)

/-- `InlineHook` -/
def inlineHook (W : Windows) (m : ByteMemory) (OrgProc NewProc RealProc : DWORD) :
    HookResult :=
  if OrgProc = 0 ∨ NewProc = 0 ∨ RealProc = 0 then .refused
  else
    match getPatchSize m OrgProc JMP_SIZE with
    | none => .refused
    | some dwPatchSize =>
        -- `VirtualAlloc` gives no memory of the size null
        if W.lpBlock = 0 ∨ dwPatchSize = 0 ∨ W.lpPatchBuffer = 0 then .fault
        else
          let m := m.write W.lpBlock (dwordBytes (UInt32.ofNat dwPatchSize))
          let lpHookFunc := W.lpBlock + 4
          let m := m.write (lpHookFunc + 5) (m.read OrgProc dwPatchSize)
          let m := m.write lpHookFunc (Cpu.jump (NewProc - lpHookFunc - 5))
          let lpBack := lpHookFunc + 5 + UInt32.ofNat dwPatchSize
          let m := m.write lpBack
            (Cpu.jump (OrgProc + UInt32.ofNat dwPatchSize - lpBack - 5))
          let lpPatchBuffer := patchBuffer dwPatchSize (lpHookFunc - OrgProc - 5)
          .hooked (writeReadOnlyMemory W m OrgProc lpPatchBuffer) (lpHookFunc + 5)

/-!
## The hooked function
-/

/-- The instructions that `InlineHook` moves. -/
def movedBlock (m : ByteMemory) (OrgProc : DWORD) : List (List BYTE) :=
  patchBlock JMP_SIZE (JMP_SIZE + 1) (code m OrgProc) 0

/-- The number of bytes that `InlineHook` moves. -/
def movedSize (m : ByteMemory) (OrgProc : DWORD) : Nat :=
  (movedBlock m OrgProc).flatten.length

theorem getPatchSize_eq (m : ByteMemory) {OrgProc : DWORD} (hOrg : OrgProc ≠ 0) :
    getPatchSize m OrgProc JMP_SIZE = some (movedSize m OrgProc) := by
  rw [getPatchSize, if_neg hOrg, patchLoop_eq, Nat.zero_add]
  rfl

theorem movedSize_le (m : ByteMemory) (OrgProc : DWORD) : movedSize m OrgProc ≤ 31 :=
  patchBlock_length_le (by decide)

theorem holds_movedBlock (m : ByteMemory) (OrgProc : DWORD) :
    Holds m OrgProc (movedBlock m OrgProc).flatten :=
  first_patchBlock.symm

/-- The size of the block that `InlineHook` asks for. -/
def blockSize (dwPatchSize : Nat) : Nat :=
  4 + JMP_SIZE + dwPatchSize + JMP_SIZE

/-- What stands in the block of a hook at `lpBlock`. -/
def hookBlock (lpBlock OrgProc NewProc : DWORD) (bytes : List BYTE) : List BYTE :=
  dwordBytes (UInt32.ofNat bytes.length) ++
    Cpu.jump (NewProc - (lpBlock + 4) - 5) ++ bytes ++
    Cpu.jump (OrgProc + UInt32.ofNat bytes.length -
      (lpBlock + 9 + UInt32.ofNat bytes.length) - 5)

/--
The calls succeed on a function that has room for the jump, and the new block
has no byte in common with what is moved.
-/
structure Hookable (W : Windows) (m : ByteMemory) (OrgProc NewProc RealProc : DWORD) :
    Prop where
  OrgProc_ne : OrgProc ≠ 0
  NewProc_ne : NewProc ≠ 0
  RealProc_ne : RealProc ≠ 0
  room : JMP_SIZE ≤ movedSize m OrgProc
  lpBlock_ne : W.lpBlock ≠ 0
  lpPatchBuffer_ne : W.lpPatchBuffer ≠ 0
  apart :
    Apart W.lpBlock (blockSize (movedSize m OrgProc)) OrgProc (movedSize m OrgProc)

def hookedMemory (W : Windows) (m : ByteMemory) (OrgProc NewProc : DWORD) :
    ByteMemory :=
  writeReadOnlyMemory W
    (m.write W.lpBlock
      (hookBlock W.lpBlock OrgProc NewProc (m.read OrgProc (movedSize m OrgProc))))
    OrgProc (patchBuffer (movedSize m OrgProc) (W.lpBlock + 4 - OrgProc - 5))

section

variable {W : Windows} {m : ByteMemory} {OrgProc NewProc RealProc : DWORD}

theorem length_patchBuffer {dwPatchSize : Nat} (h : JMP_SIZE ≤ dwPatchSize)
    (distance : DWORD) : (patchBuffer dwPatchSize distance).length = dwPatchSize := by
  rw [JMP_SIZE] at h
  simp [patchBuffer, JMP_SIZE]
  omega

theorem patchBuffer_eq {dwPatchSize : Nat} (h : JMP_SIZE ≤ dwPatchSize)
    (distance : DWORD) :
    patchBuffer dwPatchSize distance =
      Cpu.jump distance ++ List.replicate (dwPatchSize - JMP_SIZE) 0x90 := by
  rw [patchBuffer, List.drop_replicate, List.take_of_length_le]
  rw [JMP_SIZE] at h ⊢
  simp
  omega

theorem length_hookBlock (lpBlock OrgProc NewProc : DWORD) (bytes : List BYTE) :
    (hookBlock lpBlock OrgProc NewProc bytes).length = blockSize bytes.length := by
  simp [hookBlock, blockSize, JMP_SIZE]
  omega

theorem write_block (m : ByteMemory) (a size d e : DWORD) {bytes : List BYTE}
    (hbytes : bytes.length ≤ 31) :
    (((m.write a (dwordBytes size)).write (a + 9) bytes).write (a + 4)
      (Cpu.jump d)).write (a + 9 + UInt32.ofNat bytes.length) (Cpu.jump e) =
      m.write a (dwordBytes size ++ Cpu.jump d ++ bytes ++ Cpu.jump e) := by
  have hfour : a + 4 = a + UInt32.ofNat 4 := rfl
  have hnine : a + 9 = a + UInt32.ofNat 9 := rfl
  -- the jump to the new function is written after the bytes but stands before them
  have happart : Apart (a + UInt32.ofNat 9) bytes.length
      (a + UInt32.ofNat 4) (Cpu.jump d).length :=
    (apart_of_le a (by simp) (by omega)).symm
  have hhead : (dwordBytes size ++ Cpu.jump d).length = 9 := by simp
  rw [hfour, hnine, write_comm _ happart, write_append, write_append, write_append]
  · rw [hhead, length_dwordBytes, List.length_append, hhead, add_ofNat_add]
  · simp
  · rw [hhead]
    omega
  · rw [List.length_append, hhead, Cpu.length_jump]
    omega

theorem inlineHook_eq (h : Hookable W m OrgProc NewProc RealProc) :
    inlineHook W m OrgProc NewProc RealProc =
      .hooked (hookedMemory W m OrgProc NewProc) (W.lpBlock + 9) := by
  have hsize := movedSize_le m OrgProc
  have hroom := h.room
  rw [JMP_SIZE] at hroom
  have hargs : ¬ (OrgProc = 0 ∨ NewProc = 0 ∨ RealProc = 0) := by
    simp [h.OrgProc_ne, h.NewProc_ne, h.RealProc_ne]
  have hcalls : ¬ (W.lpBlock = 0 ∨ movedSize m OrgProc = 0 ∨ W.lpPatchBuffer = 0) := by
    simp [h.lpBlock_ne, h.lpPatchBuffer_ne]
    omega
  -- the bytes are read after the size was written, which stands elsewhere
  have hread : (m.write W.lpBlock
      (dwordBytes (UInt32.ofNat (movedSize m OrgProc)))).read OrgProc
        (movedSize m OrgProc) = m.read OrgProc (movedSize m OrgProc) := by
    apply read_write_of_apart _ _ (by omega)
    rw [length_dwordBytes]
    have hzero : W.lpBlock = W.lpBlock + UInt32.ofNat 0 := (UInt32.add_zero _).symm
    rw [hzero]
    exact h.apart.symm.offset_right (by simp [blockSize]; omega)
      (by simp [blockSize, JMP_SIZE]; omega)
  have hbytes : (m.read OrgProc (movedSize m OrgProc)).length ≤ 31 := by
    rw [length_read]
    exact hsize
  have hwrite := fun size d e => write_block m W.lpBlock size d e hbytes
  rw [length_read] at hwrite
  have hreal : W.lpBlock + 4 + 5 = W.lpBlock + 9 := by grind
  rw [inlineHook, if_neg hargs, getPatchSize_eq m h.OrgProc_ne]
  simp only [hcalls, if_false, hread, hreal, hwrite]
  rw [hookedMemory, hookBlock, length_read]

theorem holds_hookBlock (h : Hookable W m OrgProc NewProc RealProc) :
    Holds (hookedMemory W m OrgProc NewProc) W.lpBlock
      (hookBlock W.lpBlock OrgProc NewProc (m.read OrgProc (movedSize m OrgProc))) := by
  have hsize := movedSize_le m OrgProc
  have hlength := length_hookBlock W.lpBlock OrgProc NewProc
    (m.read OrgProc (movedSize m OrgProc))
  rw [length_read, blockSize, JMP_SIZE] at hlength
  have hshort : (hookBlock W.lpBlock OrgProc NewProc
      (m.read OrgProc (movedSize m OrgProc))).length ≤ 2 ^ 32 := by omega
  have hblock := holds_write m W.lpBlock hshort
  rw [hookedMemory, writeReadOnlyMemory]
  split
  · refine hblock.write ?_ (by omega)
    rw [length_patchBuffer h.room, length_hookBlock, length_read]
    exact h.apart
  · exact hblock

/-- With `VirtualProtect` the function begins with the jump into the block. -/
theorem holds_entry (h : Hookable W m OrgProc NewProc RealProc)
    (hprotect : W.canProtect = true) :
    Holds (hookedMemory W m OrgProc NewProc) OrgProc
      (Cpu.jump (W.lpBlock + 4 - OrgProc - 5) ++
        List.replicate (movedSize m OrgProc - JMP_SIZE) 0x90) := by
  have hsize := movedSize_le m OrgProc
  rw [hookedMemory, writeReadOnlyMemory, if_pos hprotect, ← patchBuffer_eq h.room]
  exact holds_write _ _ (by rw [length_patchBuffer h.room]; omega)

theorem hookedMemory_frame (h : Hookable W m OrgProc NewProc RealProc) {x : DWORD}
    (hblock : ¬ Within W.lpBlock (blockSize (movedSize m OrgProc)) x)
    (hpatch : ¬ Within OrgProc (movedSize m OrgProc) x) :
    hookedMemory W m OrgProc NewProc x = m x := by
  have hnot : ¬ Within W.lpBlock (hookBlock W.lpBlock OrgProc NewProc
      (m.read OrgProc (movedSize m OrgProc))).length x := by
    rw [length_hookBlock, length_read]
    exact hblock
  rw [hookedMemory, writeReadOnlyMemory]
  split
  · rw [write_of_not_within _ (by rw [length_patchBuffer h.room]; exact hpatch),
      write_of_not_within _ hnot]
  · exact write_of_not_within _ hnot

/-- Without `VirtualProtect` the function is as it was, though `TRUE` is returned. -/
theorem holds_unhooked (h : Hookable W m OrgProc NewProc RealProc)
    (hprotect : W.canProtect = false) :
    Holds (hookedMemory W m OrgProc NewProc) OrgProc
      (m.read OrgProc (movedSize m OrgProc)) := by
  have hsize := movedSize_le m OrgProc
  have hnot : ¬ W.canProtect = true := by simp [hprotect]
  rw [hookedMemory, writeReadOnlyMemory, if_neg hnot]
  refine (holds_read m OrgProc _).write ?_ (by rw [length_read]; omega)
  rw [length_read, length_hookBlock, length_read]
  exact h.apart.symm

end

end SerialNumber
end BnsKorea
