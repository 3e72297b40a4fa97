import Mathlib.Algebra.Group.Nat.Defs
import BnsKorea.Library.Bytes

/-!
# Byte memories with 32-bit addresses

A memory gives every address a byte.  Bytes are written from an address on, and
addresses wrap around.  A list of bytes stands at an address when reading as
many bytes from there gives it back; what is written apart from a place leaves
alone what stands there.
-/

namespace BnsKorea
namespace Library

/-- The bytes of a memory, by their addresses. -/
abbrev ByteMemory := UInt32 -> Byte

namespace ByteMemory

/-!
## Places
-/

/-- The address lies in the place of `n` bytes from `a` on. -/
def Within (a : UInt32) (n : Nat) (x : UInt32) : Prop :=
  (x - a).toNat < n

instance Within.decidable (a : UInt32) (n : Nat) (x : UInt32) :
    Decidable (Within a n x) :=
  inferInstanceAs (Decidable ((x - a).toNat < n))

theorem toNat_offset (a : UInt32) {i : Nat} (hi : i < 2 ^ 32) :
    (a + UInt32.ofNat i - a).toNat = i := by
  rw [UInt32.toNat_sub, UInt32.toNat_add, UInt32.toNat_ofNat_of_lt' hi]
  have ha := a.toNat_lt
  omega

theorem ofNat_toNat_sub (a x : UInt32) : a + UInt32.ofNat (x - a).toNat = x := by
  apply UInt32.toNat_inj.mp
  have hsub := (x - a).toNat_lt
  rw [UInt32.toNat_add, UInt32.toNat_ofNat_of_lt' hsub, UInt32.toNat_sub]
  have ha := a.toNat_lt
  have hx := x.toNat_lt
  omega

theorem within_offset (a : UInt32) {i n : Nat} (hi : i < n) (hn : n ≤ 2 ^ 32) :
    Within a n (a + UInt32.ofNat i) := by
  rw [Within, toNat_offset a (by omega)]
  exact hi

theorem Within.exists_offset {a : UInt32} {n : Nat} {x : UInt32}
    (h : Within a n x) : exists i, i < n ∧ x = a + UInt32.ofNat i :=
  ⟨(x - a).toNat, h, (ofNat_toNat_sub a x).symm⟩

theorem add_ofNat_add (a : UInt32) (i j : Nat) :
    a + UInt32.ofNat (i + j) = a + UInt32.ofNat i + UInt32.ofNat j := by
  rw [UInt32.ofNat_add, ← UInt32.add_assoc]

def Apart (a : UInt32) (m : Nat) (b : UInt32) (n : Nat) : Prop :=
  forall x, Within a m x -> ¬ Within b n x

theorem Apart.symm {a b : UInt32} {m n : Nat} (h : Apart a m b n) :
    Apart b n a m :=
  fun x hb ha => h x ha hb

theorem Within.of_offset {a : UInt32} {i m n : Nat} {x : UInt32}
    (hmn : i + m ≤ n) (hn : n ≤ 2 ^ 32) (h : Within (a + UInt32.ofNat i) m x) :
    Within a n x := by
  rcases h.exists_offset with ⟨j, hj, hx⟩
  rw [hx, ← add_ofNat_add]
  exact within_offset a (by omega) hn

theorem Apart.offset_left {a b : UInt32} {i m n k : Nat} (h : Apart a n b k)
    (hmn : i + m ≤ n) (hn : n ≤ 2 ^ 32) : Apart (a + UInt32.ofNat i) m b k :=
  fun x hx => h x (hx.of_offset hmn hn)

theorem Apart.offset_right {a b : UInt32} {i m n k : Nat} (h : Apart b k a n)
    (hmn : i + m ≤ n) (hn : n ≤ 2 ^ 32) : Apart b k (a + UInt32.ofNat i) m :=
  (h.symm.offset_left hmn hn).symm

theorem apart_of_le (a : UInt32) {i m j n : Nat} (hij : i + m ≤ j)
    (hj : j + n ≤ 2 ^ 32) :
    Apart (a + UInt32.ofNat i) m (a + UInt32.ofNat j) n := by
  intro x hx hy
  rcases hx.exists_offset with ⟨k, hk, hxk⟩
  rcases hy.exists_offset with ⟨l, hl, hxl⟩
  rw [← add_ofNat_add] at hxk hxl
  have hoffsets : i + k = j + l := by
    rw [← toNat_offset a (i := i + k) (by omega), ← hxk, hxl,
      toNat_offset a (by omega)]
  omega

theorem apart_of_toNat_le {a b : UInt32} {m n : Nat} (h : a.toNat + m ≤ b.toNat)
    (hb : b.toNat + n ≤ 2 ^ 32) : Apart a m b n := by
  have hpieces := apart_of_le 0 h hb
  rwa [UInt32.zero_add, UInt32.zero_add, UInt32.ofNat_toNat, UInt32.ofNat_toNat]
    at hpieces

theorem Apart.ne {a b : UInt32} {m n : Nat} (h : Apart a m b n) (hm : 0 < m)
    (hn : 0 < n) : a ≠ b := by
  have hwithin : forall (c : UInt32) {k : Nat}, 0 < k -> Within c k c := by
    intro c k hk
    rw [Within, UInt32.sub_self]
    exact hk
  intro hab
  subst hab
  exact h a (hwithin a hm) (hwithin a hn)

/-!
## Writing and reading
-/

def write (m : ByteMemory) (a : UInt32) (bs : List Byte) : ByteMemory :=
  fun x => (bs[(x - a).toNat]?).getD (m x)

def code (m : ByteMemory) (a : UInt32) : Nat -> Byte :=
  fun i => m (a + UInt32.ofNat i)

def first (s : Nat -> Byte) (n : Nat) : List Byte :=
  (List.range n).map s

def read (m : ByteMemory) (a : UInt32) (n : Nat) : List Byte :=
  first (code m a) n

@[simp] theorem length_first (s : Nat -> Byte) (n : Nat) :
    (first s n).length = n := by
  simp [first]

@[simp] theorem length_read (m : ByteMemory) (a : UInt32) (n : Nat) :
    (read m a n).length = n :=
  length_first _ n

theorem first_add (s : Nat -> Byte) (i j : Nat) :
    first s (i + j) = first s i ++ first (fun k => s (i + k)) j := by
  simp [first, List.range_add, Function.comp_def]

theorem first_congr {s t : Nat -> Byte} {n : Nat} (h : forall i, i < n -> s i = t i) :
    first s n = first t n :=
  List.map_congr_left fun i hi => h i (List.mem_range.mp hi)

theorem first_inj {s t : Nat -> Byte} {n : Nat} (h : first s n = first t n) {i : Nat}
    (hi : i < n) : s i = t i :=
  List.map_inj_left.mp h i (List.mem_range.mpr hi)

theorem code_add (m : ByteMemory) (a : UInt32) (i j : Nat) :
    code m (a + UInt32.ofNat i) j = code m a (i + j) := by
  rw [code, code, add_ofNat_add]

theorem read_add (m : ByteMemory) (a : UInt32) (i j : Nat) :
    read m a (i + j) = read m a i ++ read m (a + UInt32.ofNat i) j := by
  rw [read, first_add, read, read]
  congr 1
  exact first_congr fun k _ => (code_add m a i k).symm

theorem write_of_not_within (m : ByteMemory) {a : UInt32} {bs : List Byte} {x : UInt32}
    (h : ¬ Within a bs.length x) : write m a bs x = m x := by
  rw [write, List.getElem?_eq_none (Nat.le_of_not_lt h), Option.getD_none]

theorem code_write (m : ByteMemory) (a : UInt32) {bs : List Byte}
    (hbs : bs.length ≤ 2 ^ 32) {i : Nat} {b : Byte} (hb : bs[i]? = some b) :
    code (write m a bs) a i = b := by
  have hi : i < bs.length := (List.getElem?_eq_some_iff.mp hb).1
  rw [code, write, toNat_offset a (by omega), hb, Option.getD_some]

theorem read_write (m : ByteMemory) (a : UInt32) {bs : List Byte}
    (hbs : bs.length ≤ 2 ^ 32) : read (write m a bs) a bs.length = bs := by
  apply List.ext_getElem?
  intro i
  by_cases hi : i < bs.length
  · have hb : bs[i]? = some bs[i] := List.getElem?_eq_getElem hi
    rw [hb, read, first, List.getElem?_map, List.getElem?_range hi, Option.map_some,
      code_write m a hbs hb]
  · rw [List.getElem?_eq_none (Nat.le_of_not_lt hi),
      List.getElem?_eq_none (by simpa using hi)]

theorem read_write_of_apart (m : ByteMemory) {a b : UInt32} {bs : List Byte} {n : Nat}
    (h : Apart b n a bs.length) (hn : n ≤ 2 ^ 32) :
    read (write m a bs) b n = read m b n :=
  first_congr fun _ hi => write_of_not_within m (h _ (within_offset b hi hn))

theorem write_read (m : ByteMemory) (a : UInt32) (n : Nat) :
    write m a (read m a n) = m := by
  funext x
  rw [write, read, first, List.getElem?_map]
  by_cases hx : (x - a).toNat < n
  · rw [List.getElem?_range hx, Option.map_some, Option.getD_some, code,
      ofNat_toNat_sub]
  · rw [List.getElem?_eq_none (by simpa using hx), Option.map_none, Option.getD_none]

theorem write_of_within {a : UInt32} {bs : List Byte} {x : UInt32}
    (h : Within a bs.length x) : exists b, bs[(x - a).toNat]? = some b ∧
      forall m : ByteMemory, write m a bs x = b := by
  have hlt : (x - a).toNat < bs.length := h
  have hsome : bs[(x - a).toNat]?.isSome := by simpa using hlt
  rcases Option.isSome_iff_exists.mp hsome with ⟨b, hb⟩
  exact ⟨b, hb, fun m => by rw [write, hb, Option.getD_some]⟩

theorem write_comm (m : ByteMemory) {a b : UInt32} {bs cs : List Byte}
    (h : Apart a bs.length b cs.length) :
    write (write m a bs) b cs = write (write m b cs) a bs := by
  funext x
  by_cases hx : Within a bs.length x
  · rcases write_of_within hx with ⟨c, -, hwrite⟩
    rw [write_of_not_within _ (h x hx), hwrite, hwrite]
  · rw [write_of_not_within _ hx]
    by_cases hy : Within b cs.length x
    · rcases write_of_within hy with ⟨c, -, hwrite⟩
      rw [hwrite, hwrite]
    · rw [write_of_not_within _ hy, write_of_not_within _ hy,
        write_of_not_within _ hx]

theorem write_append (m : ByteMemory) (a : UInt32) {bs cs : List Byte}
    (h : bs.length + cs.length ≤ 2 ^ 32) :
    write m a (bs ++ cs) =
      write (write m a bs) (a + UInt32.ofNat bs.length) cs := by
  funext x
  by_cases hx : Within (a + UInt32.ofNat bs.length) cs.length x
  · rcases hx.exists_offset with ⟨i, hi, hxi⟩
    rcases write_of_within hx with ⟨c, hc, hwrite⟩
    have hoffset : (x - a).toNat = bs.length + i := by
      rw [hxi, ← add_ofNat_add, toNat_offset a (by omega)]
    have hsecond : (x - (a + UInt32.ofNat bs.length)).toNat = i := by
      rw [hxi, toNat_offset _ (by omega)]
    rw [hsecond] at hc
    rw [hwrite, write, hoffset, List.getElem?_append_right (Nat.le_add_right _ _),
      Nat.add_sub_cancel_left, hc, Option.getD_some]
  · rw [write_of_not_within _ hx]
    by_cases hy : (x - a).toNat < bs.length
    · rw [write, write, List.getElem?_append_left hy]
    · have hbeyond : (bs ++ cs).length ≤ (x - a).toNat := by
        refine Nat.le_of_not_lt fun hlt => hx ?_
        rw [List.length_append] at hlt
        have hoffset : x = a + UInt32.ofNat bs.length +
            UInt32.ofNat ((x - a).toNat - bs.length) := by
          rw [← add_ofNat_add, Nat.add_sub_cancel' (Nat.le_of_not_lt hy),
            ofNat_toNat_sub]
        rw [hoffset]
        exact within_offset _ (by omega) (by omega)
      rw [write, write, List.getElem?_eq_none hbeyond,
        List.getElem?_eq_none (Nat.le_of_not_lt hy)]

/-!
## Bytes that stand at an address
-/

def Holds (m : ByteMemory) (a : UInt32) (bs : List Byte) : Prop :=
  read m a bs.length = bs

theorem holds_read (m : ByteMemory) (a : UInt32) (n : Nat) :
    Holds m a (read m a n) := by
  rw [Holds, length_read]

theorem holds_append {m : ByteMemory} {a : UInt32} {bs cs : List Byte} :
    Holds m a (bs ++ cs) ↔ Holds m a bs ∧ Holds m (a + UInt32.ofNat bs.length) cs := by
  rw [Holds, List.length_append, read_add]
  constructor
  · exact fun h => List.append_inj h (length_read m a _)
  · exact fun h => congrArg₂ _ h.1 h.2

theorem holds_write (m : ByteMemory) (a : UInt32) {bs : List Byte}
    (hbs : bs.length ≤ 2 ^ 32) : Holds (write m a bs) a bs :=
  read_write m a hbs

theorem Holds.write {m : ByteMemory} {a b : UInt32} {bs cs : List Byte}
    (h : Holds m b cs) (hapart : Apart b cs.length a bs.length)
    (hcs : cs.length ≤ 2 ^ 32) : Holds (m.write a bs) b cs := by
  rw [Holds, read_write_of_apart m hapart hcs]
  exact h

/-!
## Double words
-/

def dwordBytes (d : UInt32) : List Byte :=
  (Bytes.ofNat 4 d.toNat).reverse

def dwordOf (bs : List Byte) : UInt32 :=
  UInt32.ofNat (Bytes.toNat bs.reverse)

@[simp] theorem length_dwordBytes (d : UInt32) : (dwordBytes d).length = 4 := by
  rw [dwordBytes, List.length_reverse, Bytes.length_ofNat]

theorem dwordOf_dwordBytes (d : UInt32) : dwordOf (dwordBytes d) = d := by
  rcases Bytes.exists_four d.toNat_lt with ⟨a, b, c, e, ha, hb, hc, he, hd⟩
  have hvalue : Bytes.toNat (Bytes.ofNat 4 d.toNat) = d.toNat := by
    rw [hd, Bytes.ofNat_four a hb hc he, Bytes.toNat_four]
    simp only [UInt8.toNat_ofNat', Nat.mod_eq_of_lt ha, Nat.mod_eq_of_lt hb,
      Nat.mod_eq_of_lt hc, Nat.mod_eq_of_lt he]
  rw [dwordOf, dwordBytes, List.reverse_reverse, hvalue, UInt32.ofNat_toNat]

end ByteMemory

end Library
end BnsKorea
