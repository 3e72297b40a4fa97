import BnsKorea.Game.Bags

/-!
# Mail

Items and money are mailed over a character that takes mail.  What is attached is
put together from a list of names with counts and from the items of the bag; a
mail that was sent takes what was attached out of the bag and the money off.
-/

namespace BnsKorea
namespace Game

structure Bag where
  items : List CBag
  nodup : (items.map CBag.m_uIndex).Nodup

namespace Bag

def ofMemory (M : GameMemory) : Bag where
  items := CObjectTraverse.getBagList M .em_Bag_Type_Bag
  nodup := CObjectTraverse.getBagList_nodup M .em_Bag_Type_Bag

def attachedOf (VecBag : List CBag) (itm : CBag) : Nat :=
  ((VecBag.filter fun Item => Item.m_uIndex = itm.m_uIndex).map fun Item =>
    Item.uMailCount.toNat).sum

def leftOf (VecBag : List CBag) (itm : CBag) : Option CBag :=
  if attachedOf VecBag itm = 0 then some itm
  else if itm.getCount.toNat - attachedOf VecBag itm = 0 then none
  else
    some
      { itm with
        dwCountWord := UInt32.ofNat (itm.getCount.toNat - attachedOf VecBag itm) }

theorem leftOf_index {VecBag : List CBag} {itm left : CBag}
    (h : leftOf VecBag itm = some left) : left.m_uIndex = itm.m_uIndex := by
  unfold leftOf at h
  split at h
  · rw [← Option.some.inj h]
  · split at h
    · cases h
    · rw [← Option.some.inj h]

theorem leftOf_indices (VecBag items : List CBag) :
    ((items.filterMap (leftOf VecBag)).map CBag.m_uIndex).Sublist
      (items.map CBag.m_uIndex) := by
  induction items with
  | nil => exact List.Sublist.slnil
  | cons itm items ih =>
      cases hleft : leftOf VecBag itm with
      | none =>
          rw [List.filterMap_cons_none hleft]
          exact ih.cons _
      | some left =>
          rw [List.filterMap_cons_some hleft, List.map_cons, List.map_cons,
            leftOf_index hleft]
          exact ih.cons_cons _

def without (VecBag : List CBag) (bag : Bag) : Bag where
  items := bag.items.filterMap (leftOf VecBag)
  nodup := (leftOf_indices VecBag bag.items).nodup bag.nodup

section

variable {VecBag VecBag1 VecBag2 : List CBag} {itm Item : CBag} {bag : Bag}

theorem attachedOf_append (VecBag1 VecBag2 : List CBag) (itm : CBag) :
    attachedOf (VecBag1 ++ VecBag2) itm =
      attachedOf VecBag1 itm + attachedOf VecBag2 itm := by
  unfold attachedOf
  rw [List.filter_append, List.map_append, List.sum_append]

theorem attachedOf_none
    (h : forall Item, Item ∈ VecBag -> Item.m_uIndex ≠ itm.m_uIndex) :
    attachedOf VecBag itm = 0 := by
  unfold attachedOf
  rw [List.filter_eq_nil_iff.mpr fun Item hItem => by simpa using h Item hItem]
  rfl

theorem leftOf_append (VecBag1 VecBag2 : List CBag) (itm : CBag) :
    leftOf (VecBag1 ++ VecBag2) itm =
      (leftOf VecBag1 itm).bind (leftOf VecBag2) := by
  have hbounds := itm.getCount_bounds
  unfold leftOf
  rw [attachedOf_append]
  by_cases hfirst : attachedOf VecBag1 itm = 0
  · rw [if_pos hfirst, hfirst, Nat.zero_add]
    rfl
  · rw [if_neg (by omega), if_neg hfirst]
    by_cases hall : itm.getCount.toNat - attachedOf VecBag1 itm = 0
    · rw [if_pos hall, if_pos (by omega)]
      rfl
    · rw [if_neg hall, Option.bind_some]
      let left : CBag :=
        { itm with
          dwCountWord := UInt32.ofNat (itm.getCount.toNat - attachedOf VecBag1 itm) }
      have hleft : left.getCount.toNat =
          itm.getCount.toNat - attachedOf VecBag1 itm :=
        CBag.getCount_ofNat (Nat.pos_of_ne_zero hall) (by omega)
      have hsecond : attachedOf VecBag2 left = attachedOf VecBag2 itm := rfl
      show _ = if attachedOf VecBag2 left = 0 then some left
        else if left.getCount.toNat - attachedOf VecBag2 left = 0 then none else _
      rw [hleft, hsecond, ← Nat.sub_sub]
      by_cases hnone : attachedOf VecBag2 itm = 0
      · rw [if_pos hnone, hnone, Nat.sub_zero, if_neg hall]
      · rw [if_neg hnone]

theorem without_append (VecBag1 VecBag2 : List CBag) (bag : Bag) :
    bag.without (VecBag1 ++ VecBag2) = (bag.without VecBag1).without VecBag2 := by
  have hitems : (bag.without (VecBag1 ++ VecBag2)).items =
      ((bag.without VecBag1).without VecBag2).items := by
    show bag.items.filterMap _ = (bag.items.filterMap _).filterMap _
    rw [List.filterMap_filterMap]
    congr 1
    funext itm
    exact leftOf_append VecBag1 VecBag2 itm
  unfold without at hitems ⊢
  congr 1

@[simp] theorem without_nil (bag : Bag) : bag.without [] = bag := by
  have hitems : (bag.without []).items = bag.items := List.filterMap_some
  cases bag
  unfold without at hitems ⊢
  congr 1

theorem stacksOf_without {wsItemName : WString}
    (h : forall Item, Item ∈ VecBag -> exists itm, itm ∈ bag.items ∧
      Item.m_uIndex = itm.m_uIndex ∧ itm.Name ≠ wsItemName) :
    stacksOf wsItemName (bag.without VecBag).items =
      stacksOf wsItemName bag.items := by
  have hnone : forall itm, itm ∈ bag.items -> itm.Name = wsItemName ->
      leftOf VecBag itm = some itm := by
    intro itm hitm hname
    refine if_pos (attachedOf_none ?_)
    intro Item hItem heq
    rcases h Item hItem with ⟨other, hother, hindex, hne⟩
    have hsame := List.inj_on_of_nodup_map bag.nodup hother hitm
      (hindex.symm.trans heq)
    rw [hsame] at hne
    exact hne hname
  have hnames : forall itm left, leftOf VecBag itm = some left ->
      left.Name = itm.Name := by
    intro itm left hleft
    unfold leftOf at hleft
    split at hleft
    · rw [← Option.some.inj hleft]
    · split at hleft
      · cases hleft
      · rw [← Option.some.inj hleft]
  show stacksOf wsItemName (bag.items.filterMap (leftOf VecBag)) = _
  generalize bag.items = items at hnone
  induction items with
  | nil => rfl
  | cons itm items ih =>
      have hrest := ih fun other hother => hnone other (List.mem_cons_of_mem itm hother)
      by_cases hname : itm.Name = wsItemName
      · rw [List.filterMap_cons_some (hnone itm List.mem_cons_self hname),
          stacksOf_of_eq hname, stacksOf_of_eq hname, hrest]
      · rw [stacksOf_of_ne hname, ← hrest]
        cases hleft : leftOf VecBag itm with
        | none => rw [List.filterMap_cons_none hleft]
        | some left =>
            rw [List.filterMap_cons_some hleft, stacksOf_of_ne]
            rwa [hnames itm left hleft]

end

end Bag

structure Player where
  money : DWORD
  bag : Bag

structure MailParm where
  dwMoney : DWORD
  vlst : List CBag

def Player.mailed (Mail : MailParm) (p : Player) : Player where
  money := p.money - Mail.dwMoney
  bag := p.bag.without Mail.vlst

namespace CMailAction

structure MailItemContent where
  wsItemName : WString
  dwCount : DWORD := 0
  deriving DecidableEq

/-!
## Supplies
-/

/-- The loop over the items for one name. -/
def attachSupport (itm : MailItemContent) : List CBag -> List CBag -> List CBag
  | [], VecBag => VecBag
  | Item :: vBagLst, VecBag =>
      if Item.Name = itm.wsItemName then
        let Item := Item.setMailCount itm.dwCount
        if itm.dwCount ≥ Item.uMailCount then VecBag ++ [Item]
        else attachSupport itm vBagLst (VecBag ++ [Item])
      else attachSupport itm vBagLst VecBag

/-- The loop over the names, which are taken out of the list as they are done. -/
def supportLoop (vBagLst : List CBag) : List MailItemContent -> List CBag ->
    List MailItemContent × List CBag
  | [], VecBag => ([], VecBag)
  | itm :: ItemStrList, VecBag =>
      if VecBag.length = 3 then (itm :: ItemStrList, VecBag)
      else supportLoop vBagLst ItemStrList (attachSupport itm vBagLst VecBag)

def setMailSupportItemToList (bag : Bag) (ItemStrList : List MailItemContent)
    (VecBag : List CBag) : List MailItemContent × List CBag :=
  if bag.items.length = 0 then (ItemStrList, VecBag)
  else supportLoop bag.items ItemStrList VecBag

def supportMail (dwMailMoney_ : DWORD) (VecItem : List MailItemContent) (p : Player) :
    MailParm where
  dwMoney := if p.money > dwMailMoney_ then dwMailMoney_ else 0
  vlst := (setMailSupportItemToList p.bag VecItem []).2

/--
The loop with so many turns at most, every mail sent and the player alive: the
mails, and the player behind them.
-/
def mailItemSupport (dwMailMoney_ : DWORD) : Nat -> List MailItemContent -> Player ->
    Option (List MailParm × Player)
  | 0, _, _ => none
  | fuel + 1, VecItem, p =>
      let Mail := supportMail dwMailMoney_ VecItem p
      let left := (setMailSupportItemToList p.bag VecItem []).1
      if left.length = 0 then some ([Mail], p.mailed Mail)
      else
        (mailItemSupport dwMailMoney_ fuel left (p.mailed Mail)).map fun r =>
          (Mail :: r.1, r.2)

/-!
## Everything that is listed
-/

/-- The loop over the items for one name, until three are attached. -/
def attachItem (itm : MailItemContent) : List CBag -> List CBag -> List CBag
  | [], VecBag => VecBag
  | Item :: vBagLst, VecBag =>
      if VecBag.length = 3 then VecBag
      else if Item.Name = itm.wsItemName then
        attachItem itm vBagLst (VecBag ++ [Item.setMailCount itm.dwCount])
      else attachItem itm vBagLst VecBag

def setMailItemToList (bag : Bag) (ItemStrList : List MailItemContent) : List CBag :=
  if bag.items.length = 0 then []
  else
    ItemStrList.foldl (fun VecBag itm =>
      if VecBag.length = 3 then VecBag else attachItem itm bag.items VecBag) []

/-- The player and the index of the receiver, with how the last mail went. -/
structure Mailing where
  player : Player
  uIndex : UINT
  bRetCode : Bool := false
  /-- The loop was left by `break`. -/
  left : Bool := false

/-- The money that is to be mailed each time; `fee` is the deduction. -/
def mailMoney (money dwSurplusMoney fee : DWORD) : DWORD :=
  money - dwSurplusMoney - fee

/-- `CNpc::Mail` sends nothing, and succeeds, with nothing attached. -/
def npcMail (sent : Bool) (Mail : MailParm) (p : Player) : Bool × Player :=
  if Mail.dwMoney = 0 && Mail.vlst.length = 0 then (true, p)
  else if sent then (true, p.mailed Mail)
  else (false, p)

def mailOf (ItemStrList : List MailItemContent) (dwMailMoney : DWORD) (p : Player) :
    MailParm where
  dwMoney := if p.money > dwMailMoney then dwMailMoney else 0
  vlst := setMailItemToList p.bag ItemStrList

/-- With the mail failed the next receiver's turn comes; else what is left is asked. -/
def turned (ItemStrList : List MailItemContent) (uIndex : UINT) :
    Bool × Player -> Mailing
  | (false, p) => { player := p, uIndex := uIndex + 1 }
  | (true, p) =>
      { player := p
        uIndex := uIndex
        bRetCode := true
        left := (setMailItemToList p.bag ItemStrList).length = 0 }

/-- One iteration of the loop, with what becomes of the mail. -/
def mailTurn (ItemStrList : List MailItemContent) (dwMailMoney : DWORD) (sent : Bool)
    (s : Mailing) : Mailing :=
  turned ItemStrList s.uIndex
    (npcMail sent (mailOf ItemStrList dwMailMoney s.player) s.player)

/--
The states after the iterations.  For each of them it is given whether its mail is
sent and whether the game runs on with the player alive.
-/
def mailLoop (ItemStrList : List MailItemContent) (dwMailMoney : DWORD)
    (uCount : UINT) :
    List (Bool × Bool) -> Mailing -> List Mailing
  | [], _ => []
  | (sent, runs) :: turns, s =>
      let s := mailTurn ItemStrList dwMailMoney sent s
      s :: if !s.left && (runs && s.uIndex < uCount) then
        mailLoop ItemStrList dwMailMoney uCount turns s
      else []

/-- What `Mail` does with the deduction `fee`. -/
def mail (ItemStrList : List MailItemContent) (dwSurplusMoney fee : DWORD)
    (uIndex uCount : UINT) (turns : List (Bool × Bool)) (p : Player) : List Mailing :=
  mailLoop ItemStrList (mailMoney p.money dwSurplusMoney fee) uCount turns
    { player := p, uIndex := uIndex }

end CMailAction
end Game
end BnsKorea
