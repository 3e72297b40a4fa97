import BnsKorea.Game.Bags

/-!
# A free slot to put an item in

The object id of a free slot is made of its index, counted from one, and the code
of the container.  The search for it does not look at the last slot.
-/

namespace BnsKorea
namespace Game
namespace CBagFunction

open CObjectTraverse

def fnExistIndex (vlst : List CBag) (dwIndex : DWORD) : Bool :=
  vlst.any fun Bag => Bag.m_uIndex + 1 == dwIndex

def makeItemObj (i dwItemObj : DWORD) : em_Bag_Type -> DWORD
  | .em_Bag_Type_Bag => (i <<< 0x10) + 0x2
  | .em_Bag_Type_Equi => dwItemObj
  | .em_Bag_Type_Warehouse => (i <<< 0x10) + 0x3
  | .em_Bag_Type_Wardrobe => (i <<< 0x10) + 0x6

def getEmptyItemObj (M : GameMemory) (emBagType : em_Bag_Type) (dwItemObj : DWORD) :
    Bool × DWORD :=
  let vlst := getBagList M emBagType
  let dwMaxCount := getMaxBagCount M emBagType
  if vlst.length = dwMaxCount.toNat then (false, dwItemObj)
  else
    match (List.range' 1 (dwMaxCount.toNat - 1)).find? fun i =>
        !fnExistIndex vlst (UInt32.ofNat i) with
    | none => (false, dwItemObj)
    | some i => (true, makeItemObj (UInt32.ofNat i) dwItemObj emBagType)

/-!
## Free slots
-/

def Free (M : GameMemory) (emType : em_Bag_Type) (i : Nat) : Prop :=
  i < (getMaxBagCount M emType).toNat ∧ slot M emType i = 0

def containerCode : em_Bag_Type -> Option DWORD
  | .em_Bag_Type_Bag => some 0x2
  | .em_Bag_Type_Equi => none
  | .em_Bag_Type_Warehouse => some 0x3
  | .em_Bag_Type_Wardrobe => some 0x6

/-- A free slot is found if there is one, and the id is that of a free slot. -/
def FindsFree (M : GameMemory) (emType : em_Bag_Type) (code : DWORD)
    (r : Bool × DWORD) :
    Prop :=
  (r.1 = true ↔ exists i, Free M emType i) ∧
    (r.1 = true -> exists i, Free M emType i ∧
      (r.2 >>> 16).toNat = i + 1 ∧ r.2 &&& 0xFFFF = code)

variable {M : GameMemory} {emType : em_Bag_Type} {code dwItemObj : DWORD}

theorem makeItemObj_of_code (h : containerCode emType = some code) (i : DWORD) :
    makeItemObj i dwItemObj emType = (i <<< 0x10) + code := by
  cases emType with
  | em_Bag_Type_Bag => rw [← Option.some.inj h]; rfl
  | em_Bag_Type_Equi => cases h
  | em_Bag_Type_Warehouse => rw [← Option.some.inj h]; rfl
  | em_Bag_Type_Wardrobe => rw [← Option.some.inj h]; rfl

theorem containerCode_lt (h : containerCode emType = some code) :
    code.toNat < 2 ^ 16 := by
  cases emType with
  | em_Bag_Type_Bag => rw [← Option.some.inj h]; decide
  | em_Bag_Type_Equi => cases h
  | em_Bag_Type_Warehouse => rw [← Option.some.inj h]; decide
  | em_Bag_Type_Wardrobe => rw [← Option.some.inj h]; decide

theorem itemObj_halves {i : Nat} (hi : i < 256) (hcode : code.toNat < 2 ^ 16) :
    (((UInt32.ofNat i <<< 0x10) + code) >>> 16).toNat = i ∧
      ((UInt32.ofNat i <<< 0x10) + code) &&& 0xFFFF = code := by
  have hindex : (UInt32.ofNat i).toNat = i :=
    UInt32.toNat_ofNat_of_lt' (Nat.lt_of_lt_of_le hi (by decide))
  have hsum : ((UInt32.ofNat i <<< 0x10) + code).toNat = i * 2 ^ 16 + code.toNat := by
    rw [UInt32.toNat_add, UInt32.toNat_shiftLeft, hindex]
    show (i <<< 16 % 2 ^ 32 + code.toNat) % 2 ^ 32 = _
    rw [Nat.shiftLeft_eq]
    omega
  constructor
  · rw [UInt32.toNat_shiftRight, hsum]
    show (i * 2 ^ 16 + code.toNat) >>> 16 = i
    rw [Nat.shiftRight_eq_div_pow]
    omega
  · apply UInt32.toNat_inj.mp
    rw [UInt32.toNat_and, hsum]
    show (i * 2 ^ 16 + code.toNat) &&& (2 ^ 16 - 1) = _
    rw [Nat.and_two_pow_sub_one_eq_mod]
    omega

/-!
## The search
-/

theorem fnExistIndex_iff {i : Nat} (hi : i < (getMaxBagCount M emType).toNat) :
    fnExistIndex (getBagList M emType) (UInt32.ofNat (i + 1)) = true ↔
      slot M emType i ≠ 0 := by
  have hmax := getMaxBagCount_lt M emType
  have hindex : forall {j : Nat}, j < 256 ->
      (UInt32.ofNat j + 1 = UInt32.ofNat (i + 1) ↔ j = i) := by
    intro j hj
    have hj' : j < 2 ^ 32 := by omega
    have hi' : i + 1 < 2 ^ 32 := by omega
    rw [← UInt32.toNat_inj, UInt32.toNat_add, UInt32.toNat_ofNat_of_lt' hj',
      UInt32.toNat_ofNat_of_lt' hi']
    show (j + 1) % 2 ^ 32 = i + 1 ↔ j = i
    omega
  rw [fnExistIndex, List.any_eq_true]
  constructor
  · intro h
    rcases h with ⟨b, hb, heq⟩
    rcases mem_getBagList.mp hb with ⟨j, hj, hslot, hat⟩
    rw [← hat] at heq
    have hji := (hindex (Nat.lt_trans hj hmax)).mp (beq_iff_eq.mp heq)
    rwa [hji] at hslot
  · intro hslot
    exact ⟨bagAt M (slot M emType i) i, mem_getBagList.mpr ⟨i, hi, hslot, rfl⟩,
      beq_iff_eq.mpr ((hindex (Nat.lt_trans hi hmax)).mpr rfl)⟩

theorem getEmptyItemObj_cases (M : GameMemory) (emType : em_Bag_Type)
    (dwItemObj : DWORD) :
    (exists i, Free M emType i ∧ i + 1 < (getMaxBagCount M emType).toNat ∧
        getEmptyItemObj M emType dwItemObj =
          (true, makeItemObj (UInt32.ofNat (i + 1)) dwItemObj emType)) ∨
      (forall i, i + 1 < (getMaxBagCount M emType).toNat -> ¬ Free M emType i) ∧
        getEmptyItemObj M emType dwItemObj = (false, dwItemObj) := by
  rcases getBagList_length M emType with ⟨_, hfull⟩
  unfold getEmptyItemObj
  by_cases hlen : (getBagList M emType).length = (getMaxBagCount M emType).toNat
  · refine Or.inr ⟨fun i _ hfree => hfull.mp hlen i hfree.left hfree.right, ?_⟩
    exact if_pos hlen
  · rw [if_neg hlen]
    cases hfind : (List.range' 1 ((getMaxBagCount M emType).toNat - 1)).find? fun i =>
        !fnExistIndex (getBagList M emType) (UInt32.ofNat i) with
    | none =>
        refine Or.inr ⟨?_, rfl⟩
        intro i hi hfree
        have hmem : i + 1 ∈ List.range' 1 ((getMaxBagCount M emType).toNat - 1) := by
          rw [List.mem_range'_1]
          omega
        have hexists := List.find?_eq_none.mp hfind (i + 1) hmem
        rw [Bool.not_eq_true, Bool.not_eq_false_eq_eq_true] at hexists
        exact (fnExistIndex_iff hfree.left).mp hexists hfree.right
    | some j =>
        have hmem := List.mem_range'_1.mp (List.mem_of_find?_eq_some hfind)
        have hnone := List.find?_some hfind
        rcases Nat.exists_eq_add_of_le hmem.left with ⟨i, hj⟩
        rw [hj, Nat.add_comm 1 i] at hmem hnone
        rw [hj, Nat.add_comm 1 i]
        have hi : i < (getMaxBagCount M emType).toNat := by omega
        refine Or.inl ⟨i, ⟨hi, ?_⟩, by omega, rfl⟩
        by_contra hslot
        rw [(fnExistIndex_iff hi).mpr hslot] at hnone
        cases hnone

/-- A free slot is found if there is one, unless the only one is the last. -/
theorem getEmptyItemObj_finds_iff (h : containerCode emType = some code) :
    FindsFree M emType code (getEmptyItemObj M emType dwItemObj) ↔
      ((exists i, Free M emType i) ->
        exists i, Free M emType i ∧ i + 1 < (getMaxBagCount M emType).toNat) := by
  rcases getEmptyItemObj_cases M emType dwItemObj with ⟨i, hfree, hlt, hr⟩ | ⟨hnone, hr⟩
  · have hmax := getMaxBagCount_lt M emType
    rcases itemObj_halves (Nat.lt_trans hlt hmax) (containerCode_lt h) with
      ⟨hhigh, hlow⟩
    rw [hr, makeItemObj_of_code h]
    exact ⟨fun _ _ => ⟨i, hfree, hlt⟩, fun _ =>
      ⟨⟨fun _ => ⟨i, hfree⟩, fun _ => rfl⟩, fun _ => ⟨i, hfree, hhigh, hlow⟩⟩⟩
  · rw [hr]
    constructor
    · intro hfinds hexists
      exact absurd (hfinds.left.mpr hexists) Bool.false_ne_true
    · intro hexists
      refine ⟨⟨fun hfalse => absurd hfalse Bool.false_ne_true, ?_⟩,
        fun hfalse => absurd hfalse Bool.false_ne_true⟩
      intro hfree
      rcases hexists hfree with ⟨i, hi, hlt⟩
      exact absurd hi (hnone i hlt)

/-!
## The last slot
-/

def lastFree : GameMemory :=
  GameMemory.ofWords [(0x1188, 2), (0x18D8, 0x3000), (0x302C, 0x4000), (0x4000, 0x5000)]

theorem lastFree_not_found :
    (getMaxBagCount lastFree .em_Bag_Type_Bag).toNat = 2 ∧
      Free lastFree .em_Bag_Type_Bag 1 ∧
      getEmptyItemObj lastFree .em_Bag_Type_Bag 0 = (false, 0) ∧
      ¬ FindsFree lastFree .em_Bag_Type_Bag 0x2
        (getEmptyItemObj lastFree .em_Bag_Type_Bag 0) := by
  have hfree : Free lastFree .em_Bag_Type_Bag 1 :=
    ⟨by decide +kernel, by decide +kernel⟩
  have hlost : getEmptyItemObj lastFree .em_Bag_Type_Bag 0 = (false, 0) := by
    decide +kernel
  refine ⟨by decide +kernel, hfree, hlost, ?_⟩
  rw [hlost]
  intro hfinds
  exact absurd (hfinds.left.mpr ⟨1, hfree⟩) Bool.false_ne_true

theorem getEmptyItemObj_finds_iff_lastFree :
    FindsFree lastFree .em_Bag_Type_Bag 0x2
        (getEmptyItemObj lastFree .em_Bag_Type_Bag 0) ↔
      ((exists i, Free lastFree .em_Bag_Type_Bag i) ->
        exists i, Free lastFree .em_Bag_Type_Bag i ∧
          i + 1 < (getMaxBagCount lastFree .em_Bag_Type_Bag).toNat) := by
  have hcode : containerCode .em_Bag_Type_Bag = some 0x2 := rfl
  exact getEmptyItemObj_finds_iff hcode

end CBagFunction
end Game
end BnsKorea
