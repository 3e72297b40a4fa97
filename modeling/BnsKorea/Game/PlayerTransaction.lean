import BnsKorea.Game.Bags

/-!
# Items on the trade panel

An amount of an item is put on the panel stack by stack, each stack as far as it
is needed.  What was put on is counted in whole stacks, and the panel is asked
before each push how many places it has taken.
-/

namespace BnsKorea
namespace Game

/-!
## Taking from stacks
-/

def takes : Nat -> List Nat -> List Nat
  | _, [] => []
  | n, c :: cs => if n = 0 then [] else min n c :: takes (n - c) cs

@[simp] theorem takes_zero (cs : List Nat) : takes 0 cs = [] := by
  cases cs with
  | nil => rfl
  | cons c cs => rfl

theorem takes_cons {n : Nat} (hn : n ≠ 0) (c : Nat) (cs : List Nat) :
    takes n (c :: cs) = min n c :: takes (n - c) cs :=
  if_neg hn

theorem takes_sum (n : Nat) (cs : List Nat) : (takes n cs).sum = min n cs.sum := by
  induction cs generalizing n with
  | nil => exact (Nat.min_zero n).symm
  | cons c cs ih =>
      by_cases hn : n = 0
      · rw [hn, takes_zero]
        exact (Nat.zero_min _).symm
      · rw [takes_cons hn, List.sum_cons, ih, List.sum_cons]
        omega

namespace CPlayerTransaction

/-- `PushTransactionItem` sends nothing that is more than the stack. -/
def pushTransactionItem (itm : CBag) (dwCount : DWORD) : List (CBag × DWORD) :=
  if dwCount > itm.getCount then [] else [(itm, dwCount)]

/--
The loop over the items: what is pushed, of which stack.  The panel says how many
places it has taken when so many pushes were made.
-/
def pushItems (GetPushItemCount : Nat -> DWORD) (wsItemName : WString)
    (dwCount : DWORD) : List CBag -> UINT -> Nat -> List (CBag × DWORD)
  | [], _, _ => []
  | itm :: vlst, uTotalCount, k =>
      if itm.Name ≠ wsItemName then
        pushItems GetPushItemCount wsItemName dwCount vlst uTotalCount k
      else if uTotalCount < dwCount then
        let dwTransactionItemCount := dwCount - uTotalCount
        let uTotalCount := uTotalCount + itm.getCount
        if GetPushItemCount k ≥ 8 then []
        else
          let dwPushCount :=
            if itm.getCount ≥ dwTransactionItemCount then dwTransactionItemCount
            else itm.getCount
          let pushed := pushTransactionItem itm dwPushCount
          pushed ++
            if uTotalCount ≥ dwCount then []
            else
              pushItems GetPushItemCount wsItemName dwCount vlst uTotalCount
                (k + pushed.length)
      else []

def pushItemToTradePanel (M : GameMemory) (GetPushItemCount : Nat -> DWORD)
    (wsItemName : WString) (dwCount : DWORD) : List (CBag × DWORD) :=
  pushItems GetPushItemCount wsItemName dwCount
    (CObjectTraverse.getBagList M .em_Bag_Type_Bag) 0 0

section

variable {GetPushItemCount : Nat -> DWORD} {wsItemName : WString} {dwCount : DWORD}
  {vlst : List CBag} {itm : CBag} {uTotalCount : UINT} {k : Nat}

theorem counts_sum_le (vlst : List CBag) : (counts vlst).sum ≤ vlst.length * 10000 := by
  induction vlst with
  | nil => exact Nat.le_refl 0
  | cons itm vlst ih =>
      have hle := itm.getCount_bounds.right
      rw [counts, List.map_cons, ← counts, List.sum_cons, List.length_cons]
      omega

theorem pushItems_enough (h : dwCount ≤ uTotalCount) :
    pushItems GetPushItemCount wsItemName dwCount vlst uTotalCount k = [] := by
  induction vlst with
  | nil => rfl
  | cons itm vlst ih =>
      unfold pushItems
      split
      · exact ih
      · exact if_neg (UInt32.not_lt.mpr h)

variable (vlst) in
theorem pushItems_stack (hname : itm.Name = wsItemName) (hlt : uTotalCount < dwCount)
    (hpanel : GetPushItemCount k < 8) :
    exists dwPushCount : DWORD,
      dwPushCount.toNat = min (dwCount.toNat - uTotalCount.toNat) itm.getCount.toNat ∧
      pushItems GetPushItemCount wsItemName dwCount (itm :: vlst) uTotalCount k =
        (itm, dwPushCount) ::
          pushItems GetPushItemCount wsItemName dwCount vlst
            (uTotalCount + itm.getCount) (k + 1) := by
  have hmissing : (dwCount - uTotalCount).toNat = dwCount.toNat - uTotalCount.toNat :=
    UInt32.toNat_sub_of_le _ _ (UInt32.le_of_lt hlt)
  let dwPushCount : DWORD :=
    if itm.getCount ≥ dwCount - uTotalCount then dwCount - uTotalCount else itm.getCount
  have hpush : dwPushCount.toNat =
      min (dwCount.toNat - uTotalCount.toNat) itm.getCount.toNat := by
    rw [← hmissing]
    show (if itm.getCount ≥ dwCount - uTotalCount then _ else _ : DWORD).toNat = _
    split
    · rename_i hge
      exact (Nat.min_eq_left (UInt32.le_iff_toNat_le.mp hge)).symm
    · rename_i hnot
      exact (Nat.min_eq_right (Nat.le_of_lt
        (UInt32.lt_iff_toNat_lt.mp (UInt32.not_le.mp hnot)))).symm
  have hsent : pushTransactionItem itm dwPushCount = [(itm, dwPushCount)] := by
    refine if_neg (UInt32.not_lt.mpr (UInt32.le_iff_toNat_le.mpr ?_))
    rw [hpush]
    exact Nat.min_le_right _ _
  refine ⟨dwPushCount, hpush, ?_⟩
  rw [pushItems, if_neg (not_not.mpr hname), if_pos hlt]
  show (if GetPushItemCount k ≥ 8 then [] else
    pushTransactionItem itm dwPushCount ++ _) = _
  rw [if_neg (UInt32.not_le.mpr hpanel), hsent]
  show (itm, dwPushCount) :: (if _ then [] else _) = _
  split
  · rename_i henough
    rw [pushItems_enough henough]
  · rfl

/-- The pushes are what is taken of the stacks in a list, and no stack comes twice. -/
structure PushedOf (wsItemName : WString) (missing : Nat) (vlst : List CBag)
    (pushes : List (CBag × DWORD)) : Prop where
  amounts : pushes.map (fun p => p.2.toNat) =
    takes missing (counts (stacksOf wsItemName vlst))
  sublist : (pushes.map Prod.fst).Sublist vlst
  bounds : forall p, p ∈ pushes ->
    p.1.Name = wsItemName ∧ p.2.toNat ≤ p.1.getCount.toNat

variable {missing : Nat} {pushes : List (CBag × DWORD)}

theorem pushedOf_nothing : PushedOf wsItemName 0 vlst [] where
  amounts := (takes_zero _).symm
  sublist := List.nil_sublist _
  bounds := fun _ hp => nomatch hp

theorem PushedOf.skip (h : PushedOf wsItemName missing vlst pushes)
    (hname : itm.Name ≠ wsItemName) :
    PushedOf wsItemName missing (itm :: vlst) pushes where
  amounts := by rw [stacksOf_of_ne hname, h.amounts]
  sublist := h.sublist.cons itm
  bounds := h.bounds

theorem PushedOf.push {dwPushCount : DWORD}
    (h : PushedOf wsItemName (missing - itm.getCount.toNat) vlst pushes)
    (hname : itm.Name = wsItemName) (hmissing : missing ≠ 0)
    (hpush : dwPushCount.toNat = min missing itm.getCount.toNat) :
    PushedOf wsItemName missing (itm :: vlst) ((itm, dwPushCount) :: pushes) where
  amounts := by
    rw [stacksOf_of_eq hname, counts, List.map_cons, List.map_cons, ← counts,
      takes_cons hmissing, h.amounts, hpush]
  sublist := h.sublist.cons_cons itm
  bounds := by
    intro p hp
    rcases List.mem_cons.mp hp with heq | hp
    · rw [heq]
      refine ⟨hname, ?_⟩
      rw [hpush]
      exact Nat.min_le_right _ _
    · exact h.bounds p hp

variable (GetPushItemCount wsItemName dwCount) in
theorem pushItems_takes (vlst : List CBag) (uTotalCount : UINT) (k : Nat)
    (hplaces : forall j,
      j < k + (takes (dwCount.toNat - uTotalCount.toNat)
        (counts (stacksOf wsItemName vlst))).length -> GetPushItemCount j < 8)
    (hsmall : uTotalCount.toNat + (counts (stacksOf wsItemName vlst)).sum < 2 ^ 32) :
    PushedOf wsItemName (dwCount.toNat - uTotalCount.toNat) vlst
      (pushItems GetPushItemCount wsItemName dwCount vlst uTotalCount k) := by
  induction vlst generalizing uTotalCount k with
  | nil => exact ⟨rfl, List.Sublist.slnil, fun p hp => (nomatch hp)⟩
  | cons itm vlst ih =>
      by_cases hname : itm.Name = wsItemName
      · by_cases hlt : uTotalCount < dwCount
        · have hmissing : dwCount.toNat - uTotalCount.toNat ≠ 0 := by
            have hlt' := UInt32.lt_iff_toNat_lt.mp hlt
            omega
          rw [stacksOf_of_eq hname, counts, List.map_cons, ← counts] at hplaces hsmall
          rw [takes_cons hmissing, List.length_cons] at hplaces
          rw [List.sum_cons] at hsmall
          have hcounted : (uTotalCount + itm.getCount).toNat =
              uTotalCount.toNat + itm.getCount.toNat := by
            rw [UInt32.toNat_add]
            exact Nat.mod_eq_of_lt (by omega)
          rcases pushItems_stack vlst hname hlt (hplaces k (by omega)) with
            ⟨dwPushCount, hpush, hpushes⟩
          have hrest := ih (uTotalCount + itm.getCount) (k + 1) (by
              intro j hj
              apply hplaces j
              rw [hcounted, ← Nat.sub_sub] at hj
              omega) (by
              rw [hcounted]
              omega)
          rw [hcounted, ← Nat.sub_sub] at hrest
          rw [hpushes]
          exact hrest.push hname hmissing hpush
        · have hle := UInt32.not_lt.mp hlt
          rw [pushItems_enough hle,
            Nat.sub_eq_zero_of_le (UInt32.le_iff_toNat_le.mp hle)]
          exact pushedOf_nothing
      · rw [stacksOf_of_ne hname] at hplaces hsmall
        rw [pushItems, if_pos hname]
        exact (ih uTotalCount k hplaces hsmall).skip hname

end

/-!
## The whole bag
-/

section

variable {M : GameMemory} {GetPushItemCount : Nat -> DWORD} {wsItemName : WString}
  {dwCount : DWORD}

def bagStacks (M : GameMemory) (wsItemName : WString) : List CBag :=
  stacksOf wsItemName (CObjectTraverse.getBagList M .em_Bag_Type_Bag)

theorem counts_bagStacks_lt (M : GameMemory) (wsItemName : WString) :
    (counts (bagStacks M wsItemName)).sum < 2 ^ 32 := by
  have hsum := counts_sum_le (bagStacks M wsItemName)
  have hfilter := List.length_filter_le
    (fun itm : CBag => decide (itm.Name = wsItemName))
    (CObjectTraverse.getBagList M .em_Bag_Type_Bag)
  have hslots := (CObjectTraverse.getBagList_length M .em_Bag_Type_Bag).left
  have hmax := CObjectTraverse.getMaxBagCount_lt M .em_Bag_Type_Bag
  have hlength : (bagStacks M wsItemName).length =
      ((CObjectTraverse.getBagList M .em_Bag_Type_Bag).filter
        fun itm : CBag => decide (itm.Name = wsItemName)).length := rfl
  omega

/--
A push takes one place at most; with places for the stacks that are needed the
amount asked for is offered, or all there is, no stack twice.
-/
theorem pushItemToTradePanel_amounts
    (hpanel : forall k, (GetPushItemCount k).toNat ≤ (GetPushItemCount 0).toNat + k)
    (hplaces : (GetPushItemCount 0).toNat +
      (takes dwCount.toNat (counts (bagStacks M wsItemName))).length ≤ 8) :
    let pushes := pushItemToTradePanel M GetPushItemCount wsItemName dwCount
    (pushes.map fun p => p.2.toNat).sum =
        min dwCount.toNat (counts (bagStacks M wsItemName)).sum ∧
      (forall p, p ∈ pushes -> p.1 ∈ bagStacks M wsItemName ∧
        p.2.toNat ≤ p.1.getCount.toNat) ∧
      (pushes.map fun p => p.1.m_uIndex).Nodup := by
  have hzero : (0 : UINT).toNat = 0 := rfl
  have hsmall := counts_bagStacks_lt M wsItemName
  have hpushed := pushItems_takes GetPushItemCount wsItemName dwCount
    (CObjectTraverse.getBagList M .em_Bag_Type_Bag) 0 0
    (by
      intro j hj
      have hle := hpanel j
      have height : (8 : DWORD).toNat = 8 := rfl
      rw [hzero, Nat.sub_zero] at hj
      change j < 0 +
        (takes dwCount.toNat (counts (bagStacks M wsItemName))).length at hj
      rw [UInt32.lt_iff_toNat_lt]
      omega)
    (by
      rw [hzero, Nat.zero_add]
      exact hsmall)
  rw [hzero, Nat.sub_zero] at hpushed
  rcases hpushed with ⟨hamounts, hstacks, hbounds⟩
  refine ⟨?_, ?_, ?_⟩
  · show (List.map (fun p => p.2.toNat) (pushItems _ _ _ _ _ _)).sum = _
    rw [hamounts, takes_sum]
    rfl
  · intro p hp
    rcases hbounds p hp with ⟨hname, hle⟩
    refine ⟨List.mem_filter.mpr ⟨?_, by simpa using hname⟩, hle⟩
    exact hstacks.subset (List.mem_map.mpr ⟨p, hp, rfl⟩)
  · have hindices := hstacks.map CBag.m_uIndex
    rw [List.map_map] at hindices
    exact hindices.nodup (CObjectTraverse.getBagList_nodup M .em_Bag_Type_Bag)

end

def twoStacks : GameMemory :=
  GameMemory.ofWords [(0x1188, 4), (0x18D8, 0x3000), (0x302C, 0x4000), (0x4000, 0x5000),
    (0x4008, 0x6000), (0x502E, 3), (0x602E, 5)]

example : (pushItemToTradePanel twoStacks (fun k => UInt32.ofNat k) [] 7).map
    (fun p => (p.1.m_uIndex, p.2)) = [(0, 3), (2, 4)] := by
  decide +kernel

theorem pushItemToTradePanel_amounts_twoStacks :
    let pushes := pushItemToTradePanel twoStacks (fun k => UInt32.ofNat k) [] 7
    (pushes.map fun p => p.2.toNat).sum =
        min (7 : DWORD).toNat (counts (bagStacks twoStacks [])).sum ∧
      (forall p, p ∈ pushes -> p.1 ∈ bagStacks twoStacks [] ∧
        p.2.toNat ≤ p.1.getCount.toNat) ∧
      (pushes.map fun p => p.1.m_uIndex).Nodup := by
  refine pushItemToTradePanel_amounts ?_ (by decide +kernel)
  intro k
  show k % 2 ^ 32 ≤ 0 + k
  rw [Nat.zero_add]
  exact Nat.mod_le k (2 ^ 32)

end CPlayerTransaction
end Game
end BnsKorea
