import BnsKorea.SerialNumber.InlineHook

/-!
# Running a hooked function

Whoever calls the function arrives in the new one, and the new one calls the old
one through the moved instructions.  Both are shown for every processor that
knows the near jump and for which the moved bytes are straight instructions.
-/

namespace BnsKorea
namespace SerialNumber

universe u

open Library Library.ByteMemory

section

variable {W : Windows} {m : ByteMemory} {OrgProc NewProc RealProc : DWORD}

def Changed (W : Windows) (m : ByteMemory) (OrgProc x : DWORD) : Prop :=
  Within W.lpBlock (blockSize (movedSize m OrgProc)) x ∨
    Within OrgProc (movedSize m OrgProc) x

theorem block_parts (h : Hookable W m OrgProc NewProc RealProc) :
    let m' := hookedMemory W m OrgProc NewProc
    let size := UInt32.ofNat (movedSize m OrgProc)
    Holds m' W.lpBlock (dwordBytes size) ∧
      Holds m' (W.lpBlock + 4) (Cpu.jump (NewProc - (W.lpBlock + 4) - 5)) ∧
      Holds m' (W.lpBlock + 9) (m.read OrgProc (movedSize m OrgProc)) ∧
      Holds m' (W.lpBlock + 9 + size)
        (Cpu.jump (OrgProc + size - (W.lpBlock + 9 + size) - 5)) := by
  have hblock := holds_hookBlock h
  simp only [hookBlock, holds_append, length_read, length_dwordBytes,
    List.length_append, Cpu.length_jump] at hblock
  rcases hblock with ⟨⟨⟨hsize, hjump⟩, hbytes⟩, hback⟩
  refine ⟨hsize, hjump, hbytes, ?_⟩
  rw [add_ofNat_add] at hback
  exact hback

theorem read_blockSize (h : Hookable W m OrgProc NewProc RealProc) :
    dwordOf ((hookedMemory W m OrgProc NewProc).read W.lpBlock 4) =
      UInt32.ofNat (movedSize m OrgProc) := by
  have hsize := (block_parts h).1
  rw [Holds, length_dwordBytes] at hsize
  rw [hsize, dwordOf_dwordBytes]

/--
The block alone tells how to take the hook away: the bytes that it keeps, written
back, give every address outside the block its byte again.
-/
theorem restore_hooked (h : Hookable W m OrgProc NewProc RealProc) {x : DWORD}
    (hx : ¬ Within W.lpBlock (blockSize (movedSize m OrgProc)) x) :
    let m' := hookedMemory W m OrgProc NewProc
    let size := (dwordOf (m'.read W.lpBlock 4)).toNat
    m'.write OrgProc (m'.read (W.lpBlock + 9) size) x = m x := by
  have hle := movedSize_le m OrgProc
  have hsize : (dwordOf ((hookedMemory W m OrgProc NewProc).read W.lpBlock 4)).toNat =
      movedSize m OrgProc := by
    rw [read_blockSize h,
      UInt32.toNat_ofNat_of_lt' (Nat.lt_of_le_of_lt hle (by decide))]
  have hbytes := (block_parts h).2.2.1
  rw [Holds, length_read] at hbytes
  simp only [hsize, hbytes]
  by_cases hin : Within OrgProc (movedSize m OrgProc) x
  · have hbs : Within OrgProc (m.read OrgProc (movedSize m OrgProc)).length x := by
      rw [length_read]
      exact hin
    rcases write_of_within hbs with ⟨b, -, hwrite⟩
    have hsame := congrFun (write_read m OrgProc (movedSize m OrgProc)) x
    rw [hwrite] at hsame ⊢
    exact hsame
  · rw [write_of_not_within _ (by rw [length_read]; exact hin)]
    exact hookedMemory_frame h hx hin

/-!
## On a processor
-/

variable {σ : Type u} {C : Cpu σ}

theorem entry_steps (h : Hookable W m OrgProc NewProc RealProc)
    (hprotect : W.canProtect = true) (hjumps : C.Jumps) (s : σ) :
    C.steps (hookedMemory W m OrgProc NewProc) 2 (OrgProc, s) = some (NewProc, s) := by
  have hentry := (holds_append.mp (holds_entry h hprotect)).1
  have hfirst := hjumps.step_to hentry s
  have hsecond := hjumps.step_to (block_parts h).2.1 s
  rw [Cpu.steps, hfirst, Option.bind_some, Cpu.steps, hsecond, Option.bind_some,
    Cpu.steps]

theorem realProc_steps (h : Hookable W m OrgProc NewProc RealProc) (hjumps : C.Jumps)
    (hone : forall bs, bs ∈ movedBlock m OrgProc -> C.IsInstruction bs)
    (hstraight : forall bs, bs ∈ movedBlock m OrgProc -> C.Straight bs) (s : σ) :
    C.steps (hookedMemory W m OrgProc NewProc) ((movedBlock m OrgProc).length + 1)
        (W.lpBlock + 9, s) =
      C.steps m (movedBlock m OrgProc).length (OrgProc, s) := by
  rcases block_parts h with ⟨-, -, hbytes, hback⟩
  have hmoved : Holds (hookedMemory W m OrgProc NewProc) (W.lpBlock + 9)
      (movedBlock m OrgProc).flatten := by
    rw [← holds_movedBlock m OrgProc]
    exact hbytes
  rw [Cpu.steps_add, Cpu.steps_block hone hstraight hmoved,
    Cpu.steps_block hone hstraight (holds_movedBlock m OrgProc)]
  cases C.effects (movedBlock m OrgProc) s with
  | none => rfl
  | some t =>
      rw [Option.map_some, Option.map_some, Option.bind_some, Cpu.steps]
      have hjump := hjumps.step_to hback t
      rw [movedSize] at hjump
      rw [hjump, Option.bind_some, Cpu.steps]

/-!
## A function that begins with a jump
-/

theorem movedBlock_of_jump {d : DWORD} (hjump : Holds m OrgProc (Cpu.jump d)) :
    movedBlock m OrgProc = [Cpu.jump d] := by
  have hfirst : first (code m OrgProc) 5 = Cpu.jump d := by
    rw [Holds, Cpu.length_jump] at hjump
    exact hjump
  have hlength : (sizeOfCode (code m OrgProc)).Length = 5 :=
    (measured_jump d).2 (code m OrgProc) (by rw [Cpu.length_jump]; exact hfirst)
  have hreturn : isReturn (code m OrgProc) = false := by
    simp [isReturn, hlength]
  have hsingle : movedBlock m OrgProc = [first (code m OrgProc) 5] := by
    rw [movedBlock, patchBlock, hreturn, hlength]
    rfl
  rw [hsingle, hfirst]

/--
The jump at the head of a function is moved with its distance as it is, so that
the moved jump misses its target by as much as it was moved.
-/
theorem realProc_of_jump (h : Hookable W m OrgProc NewProc RealProc) (hjumps : C.Jumps)
    {d : DWORD} (hjump : Holds m OrgProc (Cpu.jump d)) (s : σ) :
    C.step (hookedMemory W m OrgProc NewProc) (W.lpBlock + 9, s) =
      some (OrgProc + 5 + d + (W.lpBlock + 9 - OrgProc), s) := by
  have hbytes := (block_parts h).2.2.1
  have hmoved : m.read OrgProc (movedSize m OrgProc) = Cpu.jump d := by
    rw [movedSize, movedBlock_of_jump hjump, List.flatten_singleton]
    exact hjump
  rw [hmoved] at hbytes
  have htarget : W.lpBlock + 9 + 5 + d =
      OrgProc + 5 + d + (W.lpBlock + 9 - OrgProc) := by grind
  rw [hjumps.step hbytes, htarget]

end

/-!
## A function with the usual beginning
-/

def usualWindows : Windows where
  lpBlock := 0x5000
  lpPatchBuffer := 0x6000
  canProtect := true

def countingCpu : Cpu Nat where
  size s := (sizeOfCode s).Length
  exec a bs s :=
    match bs with
    | [] => none
    | b :: bs => if b = 0xE9 then some (a + 5 + dwordOf bs, s)
        else some (a + UInt32.ofNat (bs.length + 1), s + 1)
  size_congr s t hpos hst := by rw [sizeOfCode_congr hpos hst]

theorem countingCpu_jumps : countingCpu.Jumps where
  size_jump d := (measured_jump d).2
  exec_jump a d s := by
    show some (a + 5 + dwordOf (dwordBytes d), s) = _
    rw [dwordOf_dwordBytes]

theorem countingCpu_straight {b : BYTE} (hb : b ≠ 0xE9) (bs : List BYTE) :
    countingCpu.Straight (b :: bs) := by
  intro a s
  simp [Cpu.effect, countingCpu, hb]

theorem usualMemory_moved : movedBlock usualMemory 0x1000 =
    [[0x8B, 0xFF], [0x55], [0x8B, 0xEC]] := by
  decide +kernel

theorem usual_hookable : Hookable usualWindows usualMemory 0x1000 0x9000 0x7000 where
  OrgProc_ne := by decide
  NewProc_ne := by decide
  RealProc_ne := by decide
  room := by rw [movedSize, usualMemory_moved]; decide
  lpBlock_ne := by decide
  lpPatchBuffer_ne := by decide
  apart := by
    rw [movedSize, usualMemory_moved]
    exact (apart_of_toNat_le (by decide) (by decide)).symm

/-!
## Hooked functions
-/

section

variable {W : Windows} {m : ByteMemory} {OrgProc NewProc RealProc : DWORD}
  {σ : Type u} {C : Cpu σ}

/--
After `InlineHook` the block alone tells how to take the hook away: the bytes
that it keeps, written back, give every address outside the block its byte again.
-/
theorem inlineHook_restorable (h : Hookable W m OrgProc NewProc RealProc) :
    exists m' lpRealProc,
      inlineHook W m OrgProc NewProc RealProc = .hooked m' lpRealProc ∧
        forall x, ¬ Within W.lpBlock (blockSize (movedSize m OrgProc)) x ->
          m'.write OrgProc (m'.read lpRealProc (dwordOf (m'.read W.lpBlock 4)).toNat)
            x = m x :=
  ⟨hookedMemory W m OrgProc NewProc, W.lpBlock + 9, inlineHook_eq h,
    fun _ hx => restore_hooked h hx⟩

theorem usual_restorable :
    exists m' lpRealProc,
      inlineHook usualWindows usualMemory 0x1000 0x9000 0x7000 =
          .hooked m' lpRealProc ∧
        forall x, ¬ Within usualWindows.lpBlock
            (blockSize (movedSize usualMemory 0x1000)) x ->
          m'.write 0x1000
            (m'.read lpRealProc (dwordOf (m'.read usualWindows.lpBlock 4)).toNat) x =
            usualMemory x :=
  inlineHook_restorable usual_hookable

/--
A hook that was put in place redirects every call of the function, and calling
what `*RealProc` points to runs as the function ran before, one jump later, for
as long as it keeps away from the changed bytes.
-/
theorem hooked_runs (h : Hookable W m OrgProc NewProc RealProc)
    (hprotect : W.canProtect = true) (hjumps : C.Jumps)
    (hone : forall bs, bs ∈ movedBlock m OrgProc -> C.IsInstruction bs)
    (hstraight : forall bs, bs ∈ movedBlock m OrgProc -> C.Straight bs) :
    exists m' lpRealProc,
      inlineHook W m OrgProc NewProc RealProc = .hooked m' lpRealProc ∧
        (forall s, C.steps m' 2 (OrgProc, s) = some (NewProc, s)) ∧
        forall n s, (forall c, C.steps m (movedBlock m OrgProc).length (OrgProc, s) =
              some c -> C.Avoids m (Changed W m OrgProc) n c) ->
          C.steps m' ((movedBlock m OrgProc).length + 1 + n) (lpRealProc, s) =
            C.steps m ((movedBlock m OrgProc).length + n) (OrgProc, s) := by
  refine ⟨hookedMemory W m OrgProc NewProc, W.lpBlock + 9, inlineHook_eq h,
    entry_steps h hprotect hjumps, ?_⟩
  intro n s havoids
  have hframe : forall x, ¬ Changed W m OrgProc x ->
      hookedMemory W m OrgProc NewProc x = m x := by
    intro x hx
    exact hookedMemory_frame h (fun hblock => hx (Or.inl hblock))
      fun hpatch => hx (Or.inr hpatch)
  rw [Cpu.steps_add, Cpu.steps_add C m, realProc_steps h hjumps hone hstraight]
  cases hrest : C.steps m (movedBlock m OrgProc).length (OrgProc, s) with
  | none => rfl
  | some c => exact Cpu.steps_of_avoids hframe (havoids c hrest)

theorem usual_runs :
    exists m' lpRealProc,
      inlineHook usualWindows usualMemory 0x1000 0x9000 0x7000 =
          .hooked m' lpRealProc ∧
        (forall s, countingCpu.steps m' 2 (0x1000, s) = some (0x9000, s)) ∧
        forall n s, (forall c, countingCpu.steps usualMemory
              (movedBlock usualMemory 0x1000).length (0x1000, s) = some c ->
            countingCpu.Avoids usualMemory
              (Changed usualWindows usualMemory 0x1000) n c) ->
          countingCpu.steps m' ((movedBlock usualMemory 0x1000).length + 1 + n)
              (lpRealProc, s) =
            countingCpu.steps usualMemory
              ((movedBlock usualMemory 0x1000).length + n) (0x1000, s) := by
  refine hooked_runs usual_hookable rfl countingCpu_jumps ?_ ?_
  · exact fun bs hbs => (measured_patchBlock hbs).2
  · rw [usualMemory_moved]
    intro bs hbs
    simp only [List.mem_cons, List.not_mem_nil, or_false] at hbs
    rcases hbs with rfl | rfl | rfl
    · exact countingCpu_straight (by decide) _
    · exact countingCpu_straight (by decide) _
    · exact countingCpu_straight (by decide) _

/--
Hooking a function a second time cuts off the first hook: the function enters
the second new function, and what that one calls as the old function jumps past
the block of the first hook.
-/
theorem hooked_twice {W' : Windows} {NewProc' RealProc' : DWORD}
    (h : Hookable W m OrgProc NewProc RealProc) (hprotect : W.canProtect = true)
    (h' : Hookable W' (hookedMemory W m OrgProc NewProc) OrgProc NewProc' RealProc')
    (hprotect' : W'.canProtect = true) (hjumps : C.Jumps) :
    exists m' lpRealProc target,
      inlineHook W' (hookedMemory W m OrgProc NewProc) OrgProc NewProc' RealProc' =
          .hooked m' lpRealProc ∧
        (forall s, C.steps m' 2 (OrgProc, s) = some (NewProc', s)) ∧
        (forall s, C.step m' (lpRealProc, s) = some (target, s)) ∧
        target = W.lpBlock + 4 + (lpRealProc - OrgProc) ∧ target ≠ W.lpBlock + 4 := by
  have hjump := (holds_append.mp (holds_entry h hprotect)).1
  have htarget : OrgProc + 5 + (W.lpBlock + 4 - OrgProc - 5) +
      (W'.lpBlock + 9 - OrgProc) = W.lpBlock + 4 + (W'.lpBlock + 9 - OrgProc) := by
    grind
  refine ⟨_, _, W.lpBlock + 4 + (W'.lpBlock + 9 - OrgProc), inlineHook_eq h',
    entry_steps h' hprotect' hjumps, ?_, rfl, ?_⟩
  · intro s
    rw [realProc_of_jump h' hjumps hjump, htarget]
  · -- the moved bytes do not stand where they stood before
    have hroom := h'.room
    rw [JMP_SIZE] at hroom
    have hle := movedSize_le (hookedMemory W m OrgProc NewProc) OrgProc
    have hreal : W'.lpBlock + UInt32.ofNat 9 ≠ OrgProc :=
      (h'.apart.offset_left (i := 9) (m := 1) (by simp [blockSize, JMP_SIZE]; omega)
        (by simp [blockSize, JMP_SIZE]; omega)).ne (by omega) (by omega)
    intro hsame
    exact hreal (by grind)

theorem usual_moved_twice :
    movedBlock (hookedMemory usualWindows usualMemory 0x1000 0x9000) 0x1000 =
      [Cpu.jump (0x5000 + 4 - 0x1000 - 5)] :=
  movedBlock_of_jump (holds_append.mp (holds_entry usual_hookable rfl)).1

def otherWindows : Windows :=
  { usualWindows with lpBlock := 0x8000 }

theorem usual_hooked_twice :
    exists m' lpRealProc target,
      inlineHook otherWindows (hookedMemory usualWindows usualMemory 0x1000 0x9000)
          0x1000 0xA000 0x7004 = .hooked m' lpRealProc ∧
        (forall s, countingCpu.steps m' 2 (0x1000, s) = some (0xA000, s)) ∧
        (forall s, countingCpu.step m' (lpRealProc, s) = some (target, s)) ∧
        target = usualWindows.lpBlock + 4 + (lpRealProc - 0x1000) ∧
        target ≠ usualWindows.lpBlock + 4 := by
  refine hooked_twice usual_hookable rfl ?_ rfl countingCpu_jumps
  constructor
  · decide
  · decide
  · decide
  · rw [movedSize, usual_moved_twice]
    decide
  · decide
  · decide
  · rw [movedSize, usual_moved_twice]
    exact (apart_of_toNat_le (by decide) (by decide)).symm

end

end SerialNumber
end BnsKorea
