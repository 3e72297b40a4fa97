import Mathlib.Data.List.Range
import Mathlib.Data.Nat.Bitwise
import BnsKorea.Common.ServerCommon

/-!
# Containers of items

A container is a row of slots in the memory of the game: how many there are is
one byte of the player's object, and each slot is a pointer that is null or
points to an item.  The slots in use are listed with their index.
-/

namespace BnsKorea
namespace Game

/-- What reading the memory of the game gives, and the name of an item object. -/
structure GameMemory where
  ReadDWORD : DWORD -> DWORD
  /-- `CPerson::GetInstance().GetBase()` -/
  dwRootBase : DWORD
  GetItemName : DWORD -> WString

def GameMemory.ReadBYTE (M : GameMemory) (dwAddr : DWORD) : BYTE :=
  (M.ReadDWORD dwAddr).toUInt8

def GameMemory.ofWords (words : List (DWORD × DWORD)) : GameMemory where
  ReadDWORD dwAddr := (words.lookup dwAddr).getD 0
  dwRootBase := 0x1000
  GetItemName _ := []

/-!
## Items
-/

/-- An item as `GetBagList` finds it. -/
structure CBag where
  m_dwBagBase : DWORD := 0
  m_uIndex : UINT
  /-- `ReadDWORD(GetBase() + 0x2E)` -/
  dwCountWord : DWORD
  Name : WString
  uMailCount : UINT := 0
  deriving DecidableEq

namespace CBag

def getCount (b : CBag) : DWORD :=
  let dwCount := b.dwCountWord &&& 0xFFFF
  if dwCount > 10000 || dwCount = 0 then 1 else dwCount

def setMailCount (uMailCount_ : UINT) (b : CBag) : CBag :=
  if uMailCount_ = 0 then { b with uMailCount := b.getCount }
  else if uMailCount_ < b.getCount then { b with uMailCount := uMailCount_ }
  else { b with uMailCount := b.getCount }

theorem getCount_bounds (b : CBag) :
    0 < b.getCount.toNat ∧ b.getCount.toNat ≤ 10000 := by
  have hone : (1 : DWORD).toNat = 1 := rfl
  have hmax : (10000 : DWORD).toNat = 10000 := rfl
  unfold getCount
  show 0 < (if _ then _ else _ : DWORD).toNat ∧
    (if _ then _ else _ : DWORD).toNat ≤ 10000
  split
  · omega
  · rename_i h
    rw [Bool.or_eq_true, not_or, decide_eq_true_iff, decide_eq_true_iff] at h
    rcases h with ⟨hle, hne⟩
    have hbound := UInt32.le_iff_toNat_le.mp (UInt32.not_lt.mp hle)
    have hpos : (b.dwCountWord &&& 0xFFFF).toNat ≠ 0 :=
      fun hzero => hne (UInt32.toNat_inj.mp hzero)
    omega

theorem getCount_ofNat {n : Nat} {b : CBag} (hpos : 0 < n) (hle : n ≤ 10000) :
    ({ b with dwCountWord := UInt32.ofNat n } : CBag).getCount.toNat = n := by
  have hword : (UInt32.ofNat n &&& 0xFFFF).toNat = n := by
    rw [UInt32.toNat_and, UInt32.toNat_ofNat_of_lt' (by show n < 2 ^ 32; omega)]
    show n &&& (2 ^ 16 - 1) = n
    rw [Nat.and_two_pow_sub_one_eq_mod]
    exact Nat.mod_eq_of_lt (by omega)
  have hin : ¬ ((decide (UInt32.ofNat n &&& 0xFFFF > 10000) ||
      decide (UInt32.ofNat n &&& 0xFFFF = 0)) = true) := by
    rw [Bool.or_eq_true, not_or, decide_eq_true_iff, decide_eq_true_iff]
    constructor
    · refine UInt32.not_lt.mpr (UInt32.le_iff_toNat_le.mpr ?_)
      rw [hword]
      exact hle
    · intro hzero
      rw [hzero] at hword
      exact absurd hword (Nat.ne_of_lt hpos)
  show (if _ then _ else _ : DWORD).toNat = n
  rw [if_neg hin, hword]

theorem setMailCount_count (uMailCount_ : UINT) (b : CBag) :
    (b.setMailCount uMailCount_).uMailCount.toNat =
      if uMailCount_ = 0 then b.getCount.toNat
      else min uMailCount_.toNat b.getCount.toNat := by
  unfold setMailCount
  split
  · rfl
  · split
    · rename_i hlt
      exact (Nat.min_eq_left (Nat.le_of_lt (UInt32.lt_iff_toNat_lt.mp hlt))).symm
    · rename_i hle
      exact (Nat.min_eq_right
        (UInt32.le_iff_toNat_le.mp (UInt32.not_lt.mp hle))).symm

theorem setMailCount_eq (uMailCount_ : UINT) (b : CBag) :
    b.setMailCount uMailCount_ =
      { b with uMailCount := (b.setMailCount uMailCount_).uMailCount } := by
  unfold setMailCount
  split
  · rfl
  · split <;> rfl

@[simp] theorem setMailCount_name (uMailCount_ : UINT) (b : CBag) :
    (b.setMailCount uMailCount_).Name = b.Name := by
  rw [setMailCount_eq]

@[simp] theorem setMailCount_index (uMailCount_ : UINT) (b : CBag) :
    (b.setMailCount uMailCount_).m_uIndex = b.m_uIndex := by
  rw [setMailCount_eq]

end CBag

/-!
## Stacks
-/

def stacksOf (wsItemName : WString) (vlst : List CBag) : List CBag :=
  vlst.filter fun itm => itm.Name = wsItemName

def counts (vlst : List CBag) : List Nat :=
  vlst.map fun itm => itm.getCount.toNat

section

variable {wsItemName : WString} {vlst : List CBag} {itm : CBag}

theorem stacksOf_of_ne (h : itm.Name ≠ wsItemName) :
    stacksOf wsItemName (itm :: vlst) = stacksOf wsItemName vlst :=
  List.filter_cons_of_neg (by simpa using h)

theorem stacksOf_of_eq (h : itm.Name = wsItemName) :
    stacksOf wsItemName (itm :: vlst) = itm :: stacksOf wsItemName vlst :=
  List.filter_cons_of_pos (by simpa using h)

end

/-!
## Slots
-/

inductive em_Bag_Type where
  | em_Bag_Type_Bag
  | em_Bag_Type_Equi
  | em_Bag_Type_Warehouse
  | em_Bag_Type_Wardrobe
  deriving DecidableEq

namespace CObjectTraverse

def bagTraversalOffset : DWORD := 0x8D8

def bagSlotCountOffset : DWORD := 0x188

def getMaxBagCount (M : GameMemory) : em_Bag_Type -> DWORD
  | .em_Bag_Type_Bag =>
      M.ReadDWORD (M.dwRootBase + bagSlotCountOffset + 0x0) &&& 0xFF
  | .em_Bag_Type_Equi => 36
  | .em_Bag_Type_Warehouse =>
      M.ReadDWORD (M.dwRootBase + bagSlotCountOffset + 0x1) &&& 0xFF
  | .em_Bag_Type_Wardrobe =>
      M.ReadDWORD (M.dwRootBase + bagSlotCountOffset + 0x2) &&& 0xFF

def slotsOffset : em_Bag_Type -> DWORD
  | .em_Bag_Type_Bag => 0x2C
  | .em_Bag_Type_Equi => 0x1C
  | .em_Bag_Type_Warehouse => 0x3C
  | .em_Bag_Type_Wardrobe => 0x6C

def slot (M : GameMemory) (emType : em_Bag_Type) (i : Nat) : DWORD :=
  M.ReadDWORD (M.ReadDWORD (M.ReadDWORD (M.dwRootBase + bagTraversalOffset) +
    slotsOffset emType) + UInt32.ofNat i * 4)

def bagAt (M : GameMemory) (dwItemObj : DWORD) (i : Nat) : CBag where
  m_dwBagBase := dwItemObj
  m_uIndex := UInt32.ofNat i
  dwCountWord := M.ReadDWORD (dwItemObj + 0x2E)
  Name := M.GetItemName (M.ReadDWORD (dwItemObj + 0xC))

def getBagList (M : GameMemory) (emType : em_Bag_Type) : List CBag :=
  (List.range (getMaxBagCount M emType).toNat).filterMap fun i =>
    let dwItemObj := slot M emType i
    if dwItemObj = 0 then none else some (bagAt M dwItemObj i)

variable {M : GameMemory} {emType : em_Bag_Type}

theorem getMaxBagCount_lt (M : GameMemory) (emType : em_Bag_Type) :
    (getMaxBagCount M emType).toNat < 256 := by
  have hmask : forall w : DWORD, (w &&& 0xFF).toNat < 256 := by
    intro w
    rw [UInt32.toNat_and]
    exact Nat.and_lt_two_pow w.toNat (by decide : (0xFF : DWORD).toNat < 2 ^ 8)
  cases emType with
  | em_Bag_Type_Equi => exact (by decide : (36 : DWORD).toNat < 256)
  | em_Bag_Type_Bag => exact hmask _
  | em_Bag_Type_Warehouse => exact hmask _
  | em_Bag_Type_Wardrobe => exact hmask _

theorem getBagList_eq (M : GameMemory) (emType : em_Bag_Type) :
    getBagList M emType =
      ((List.range (getMaxBagCount M emType).toNat).filter fun i =>
        slot M emType i != 0).map fun i => bagAt M (slot M emType i) i := by
  unfold getBagList
  induction List.range (getMaxBagCount M emType).toNat with
  | nil => rfl
  | cons i is ih =>
      rw [List.filter_cons]
      by_cases hzero : slot M emType i = 0
      · rw [hzero, if_neg (by decide), ← ih]
        exact List.filterMap_cons_none (if_pos hzero)
      · rw [if_pos (bne_iff_ne.mpr hzero), List.map_cons, ← ih]
        exact List.filterMap_cons_some (if_neg hzero)

theorem mem_getBagList {b : CBag} : b ∈ getBagList M emType ↔
    exists i, i < (getMaxBagCount M emType).toNat ∧ slot M emType i ≠ 0 ∧
      bagAt M (slot M emType i) i = b := by
  simp only [getBagList_eq, List.mem_map, List.mem_filter, List.mem_range, and_assoc,
    bne_iff_ne]

theorem getBagList_length (M : GameMemory) (emType : em_Bag_Type) :
    (getBagList M emType).length ≤ (getMaxBagCount M emType).toNat ∧
      ((getBagList M emType).length = (getMaxBagCount M emType).toNat ↔
        forall i, i < (getMaxBagCount M emType).toNat -> slot M emType i ≠ 0) := by
  rw [getBagList_eq, List.length_map]
  have hrange : (List.range (getMaxBagCount M emType).toNat).length =
      (getMaxBagCount M emType).toNat := List.length_range
  have hle := List.length_filter_le (fun i => slot M emType i != 0)
    (List.range (getMaxBagCount M emType).toNat)
  rw [hrange] at hle
  refine ⟨hle, ?_⟩
  have hiff := List.length_filter_eq_length_iff (p := fun i => slot M emType i != 0)
    (l := List.range (getMaxBagCount M emType).toNat)
  rw [hrange] at hiff
  rw [hiff]
  simp only [List.mem_range, bne_iff_ne]

theorem getBagList_nodup (M : GameMemory) (emType : em_Bag_Type) :
    ((getBagList M emType).map CBag.m_uIndex).Nodup := by
  rw [getBagList_eq, List.map_map]
  refine List.Nodup.map_on ?_ (List.nodup_range.filter _)
  intro i hi j hj heq
  have hmax := getMaxBagCount_lt M emType
  have hindex : forall {k : Nat},
      k ∈ (List.range (getMaxBagCount M emType).toNat).filter (fun i =>
        slot M emType i != 0) -> (UInt32.ofNat k).toNat = k := by
    intro k hk
    have hlt := List.mem_range.mp (List.mem_of_mem_filter hk)
    exact UInt32.toNat_ofNat_of_lt' (by show k < 2 ^ 32; omega)
  have hnat : (UInt32.ofNat i).toNat = (UInt32.ofNat j).toNat :=
    congrArg UInt32.toNat heq
  rwa [hindex hi, hindex hj] at hnat

end CObjectTraverse
end Game
end BnsKorea
