import BnsKorea.Library.Memories

/-!
# Machine code at two addresses

A processor says how long the instruction at the head of a stream of bytes is
and what executing an instruction does.  An instruction is straight if it does
the same wherever it stands and goes on to the one behind it.  A block of
straight instructions can be moved: executed at any address where its bytes
stand, it changes the state in the same way and ends behind its last byte.
-/

namespace BnsKorea
namespace Library

universe u

open ByteMemory

/--
The length of the instruction at the head of a stream, null where there is none,
and what instructions do: the next address and the state.
-/
structure Cpu (σ : Type u) where
  size : (Nat -> Byte) -> Nat
  exec : UInt32 -> List Byte -> σ -> Option (UInt32 × σ)
  /-- The length is read off the bytes of the instruction. -/
  size_congr : forall s t, 0 < size s -> (forall i, i < size s -> s i = t i) ->
    size t = size s

namespace Cpu

variable {σ : Type u} {C : Cpu σ}

/-!
## Execution
-/

def fetch (C : Cpu σ) (m : ByteMemory) (a : UInt32) : List Byte :=
  read m a (C.size (code m a))

/-- The instruction at the address is executed.  A fault is `none`. -/
def step (C : Cpu σ) (m : ByteMemory) (c : UInt32 × σ) : Option (UInt32 × σ) :=
  C.exec c.1 (C.fetch m c.1) c.2

def steps (C : Cpu σ) (m : ByteMemory) : Nat -> UInt32 × σ -> Option (UInt32 × σ)
  | 0, c => some c
  | n + 1, c => (C.step m c).bind (C.steps m n)

theorem steps_add (C : Cpu σ) (m : ByteMemory) (k n : Nat) (c : UInt32 × σ) :
    C.steps m (k + n) c = (C.steps m k c).bind (C.steps m n) := by
  induction k generalizing c with
  | zero => rw [Nat.zero_add, steps, Option.bind_some]
  | succ k ih =>
      rw [Nat.add_right_comm, steps, steps, Option.bind_assoc]
      exact congrArg _ (funext ih)

/-- The bytes are one instruction, whatever stands behind them. -/
def IsInstruction (C : Cpu σ) (bs : List Byte) : Prop :=
  forall s, first s bs.length = bs -> C.size s = bs.length

theorem fetch_of_holds {m : ByteMemory} {a : UInt32} {bs : List Byte}
    (hone : C.IsInstruction bs) (hbs : Holds m a bs) : C.fetch m a = bs := by
  rw [fetch, hone _ hbs]
  exact hbs

/-!
## Blocks of straight instructions
-/

def effect (C : Cpu σ) (bs : List Byte) (s : σ) : Option σ :=
  (C.exec 0 bs s).map Prod.snd

/-- The instruction does the same everywhere and goes on behind itself. -/
def Straight (C : Cpu σ) (bs : List Byte) : Prop :=
  forall a s, C.exec a bs s =
    (C.effect bs s).map fun t => (a + UInt32.ofNat bs.length, t)

def effects (C : Cpu σ) : List (List Byte) -> σ -> Option σ
  | [], s => some s
  | bs :: block, s => (C.effect bs s).bind (C.effects block)

theorem steps_block {m : ByteMemory} {block : List (List Byte)}
    (hone : forall bs, bs ∈ block -> C.IsInstruction bs)
    (hstraight : forall bs, bs ∈ block -> C.Straight bs) {a : UInt32}
    (hstands : Holds m a block.flatten) (s : σ) :
    C.steps m block.length (a, s) =
      (C.effects block s).map fun t =>
        (a + UInt32.ofNat block.flatten.length, t) := by
  induction block generalizing a s with
  | nil => simp [steps, effects]
  | cons bs block ih =>
      rw [List.forall_mem_cons] at hone hstraight
      rw [List.flatten_cons, holds_append] at hstands
      have hstep : C.step m (a, s) =
          (C.effect bs s).map fun t => (a + UInt32.ofNat bs.length, t) := by
        rw [step, fetch_of_holds hone.1 hstands.1]
        exact hstraight.1 a s
      rw [List.length_cons, steps, hstep, effects]
      cases C.effect bs s with
      | none => rfl
      | some t =>
          rw [Option.map_some, Option.bind_some, Option.bind_some,
            ih hone.2 hstraight.2 hstands.2, List.flatten_cons, List.length_append]
          simp only [add_ofNat_add]

/-!
## Runs that keep away from a place
-/

/-- The next `n` instructions have no byte at an address with `P`. -/
def Avoids (C : Cpu σ) (m : ByteMemory) (P : UInt32 -> Prop) :
    Nat -> UInt32 × σ -> Prop
  | 0, _ => True
  | n + 1, c => 0 < C.size (code m c.1) ∧
      (forall i, i < C.size (code m c.1) -> ¬ P (c.1 + UInt32.ofNat i)) ∧
      forall d, C.step m c = some d -> C.Avoids m P n d

theorem steps_of_avoids {m m' : ByteMemory} {P : UInt32 -> Prop}
    (hframe : forall x, ¬ P x -> m' x = m x) {n : Nat} {c : UInt32 × σ}
    (h : C.Avoids m P n c) : C.steps m' n c = C.steps m n c := by
  induction n generalizing c with
  | zero => rfl
  | succ n ih =>
      rcases h with ⟨hpos, haway, hnext⟩
      have hbytes : forall i, i < C.size (code m c.1) ->
          code m' c.1 i = code m c.1 i :=
        fun i hi => hframe _ (haway i hi)
      have hsize : C.size (code m' c.1) = C.size (code m c.1) :=
        C.size_congr _ _ hpos fun i hi => (hbytes i hi).symm
      have hfetch : C.fetch m' c.1 = C.fetch m c.1 := by
        rw [fetch, fetch, hsize]
        exact first_congr hbytes
      have hstep : C.step m' c = C.step m c := by rw [step, step, hfetch]
      rw [steps, steps, hstep]
      cases hd : C.step m c with
      | none => rfl
      | some d => exact ih (hnext d hd)

/-!
## Relative jumps
-/

def jump (d : UInt32) : List Byte :=
  0xE9 :: dwordBytes d

@[simp] theorem length_jump (d : UInt32) : (jump d).length = 5 := by
  simp [jump]

structure Jumps (C : Cpu σ) : Prop where
  size_jump : forall d, C.IsInstruction (jump d)
  exec_jump : forall a d s, C.exec a (jump d) s = some (a + 5 + d, s)

theorem Jumps.step {m : ByteMemory} {a d : UInt32} (h : C.Jumps)
    (hstands : Holds m a (jump d)) (s : σ) : C.step m (a, s) = some (a + 5 + d, s) := by
  rw [Cpu.step, fetch_of_holds (h.size_jump d) hstands]
  exact h.exec_jump a d s

theorem Jumps.step_to {m : ByteMemory} {a b : UInt32} (h : C.Jumps)
    (hstands : Holds m a (jump (b - a - 5))) (s : σ) :
    C.step m (a, s) = some (b, s) := by
  have htarget : a + 5 + (b - a - 5) = b := by grind
  rw [h.step hstands, htarget]

end Cpu

end Library
end BnsKorea
