import BnsKorea.OldServer.BnsDeal
import BnsKorea.Server.EchoPacket

/-!
# Both servers trade alike

The new server compares servers by its areas and fills records in where the old
one writes a buffer.  An entry may keep another tick of the warehouse, which
nobody reads; apart from that the queues stay equal, call by call.  The answers
carry the same news.  Joins are answered in the same words; the answer to a poll
has the kind of the trade in a field of its own, where the old server chooses its
message, and always has a name.
-/

namespace BnsKorea
namespace OldServer

open Library

theorem initBnsServerArray_eq : CBnsArea.initialized.vecArea = initBnsServerArray := rfl

namespace CBnsDeal

section

variable (T : MyTools) (A : CBnsArea) (ulNow : ULONGLONG)

theorem isCompServer_eq (dwServerId1 dwServerId2 : DWORD) :
    isCompServer A.vecArea dwServerId1 dwServerId2 =
      A.isSame_Area T dwServerId1 dwServerId2 := by
  have hlisted : forall itm : List DWORD,
      (itm.any fun dwServerId => dwServerId == dwServerId1) =
        (T.vecFindIfConst itm fun dwServerId => dwServerId == dwServerId1).isSome := by
    intro itm
    rw [Bool.eq_iff_iff, T.vecFindIfConst_eq, List.find?_isSome, List.any_eq_true]
  rw [isCompServer, CBnsArea.isSame_Area, funext hlisted]
  by_cases hsame : dwServerId1 = dwServerId2
  · rw [if_pos hsame, if_pos hsame]
  · rw [if_neg hsame, if_neg hsame]
    cases A.vecArea.find? fun itm =>
        (T.vecFindIfConst itm fun dwServerId => dwServerId == dwServerId1).isSome with
    | none => rfl
    | some itm => exact (T.vecExistIfConst_eq itm _).symm

theorem isTimeOut_eq (itm : ItemSupportInfo) :
    isTimeOut ulNow itm = CBnsTrade.isTimeOut ulNow itm := rfl

theorem existItemSupport_eq (verItemSupport : VerItemSupport)
    (vlst : List ItemSupportInfo) :
    existItemSupport A.vecArea ulNow verItemSupport vlst =
      CBnsTrade.existItemSupport T A ulNow verItemSupport vlst := by
  induction vlst with
  | nil => rfl
  | cons itm vlst ih =>
      rw [existItemSupport, CBnsTrade.existItemSupport, ih, isTimeOut_eq,
        isCompServer_eq T A]
      rfl

theorem existWareHouse_eq (wareHouseInfo : WareHouseInfo) (bUnSameChannel : Bool)
    (fn : ItemSupportInfo -> ItemSupportInfo) (vlst : List ItemSupportInfo) :
    existWareHouse A.vecArea ulNow wareHouseInfo bUnSameChannel fn vlst =
      CBnsTrade.existWareHouse T A ulNow wareHouseInfo bUnSameChannel fn vlst := by
  induction vlst with
  | nil => rfl
  | cons itm vlst ih =>
      have hlisted : (isCompServer A.vecArea itm.verItemSupport.dwServerId
            wareHouseInfo.dwServerId && !itm.bTake &&
          itm.verItemSupport.vWareHouse.any fun wsWareHouseName =>
            wareHouseInfo.wsWareHouseName == wsWareHouseName) =
          (CBnsTrade.isListed T A wareHouseInfo itm && !itm.bTake) := by
        rw [CBnsTrade.isListed, isCompServer_eq T A, T.vecExistIfConst_eq,
          Bool.and_right_comm]
      rw [existWareHouse, CBnsTrade.existWareHouse, ih, isTimeOut_eq, hlisted]

theorem existWareHouse_Const_eq (vlst : List ItemSupportInfo)
    (wareHouseInfo : WareHouseInfo) :
    existWareHouse_Const A.vecArea vlst wareHouseInfo =
      CBnsTrade.existWareHouse_Const T A vlst wareHouseInfo := by
  simp only [existWareHouse_Const, CBnsTrade.existWareHouse_Const,
    CBnsTrade.isListed, isCompServer_eq T A, T.vecExistIfConst_eq]

end

/-!
## What an entry keeps of the warehouse
-/

def untimed (wareHouseInfo : WareHouseInfo) : WareHouseInfo :=
  { wareHouseInfo with ulTick := 0 }

def forget (itm : ItemSupportInfo) : ItemSupportInfo :=
  { itm with wareHouseInfo := untimed itm.wareHouseInfo }

section

variable {T : MyTools} {A : CBnsArea} {ulNow : ULONGLONG}

variable (ulNow) in
theorem forget_joined {p q : Place ItemSupportInfo}
    (hpre : p.pre.map forget = q.pre.map forget) (hhere : forget p.here = forget q.here)
    (hpost : p.post.map forget = q.post.map forget) (verItemSupport : VerItemSupport) :
    (p.put { p.here with
        verItemSupport := verItemSupport, ulKeepALiveTick := ulNow }).map forget =
      (q.put { q.here with
        verItemSupport := verItemSupport, ulKeepALiveTick := ulNow }).map forget := by
  have hnew : forall itm : ItemSupportInfo,
      forget { itm with verItemSupport := verItemSupport, ulKeepALiveTick := ulNow } =
        { forget itm with
          verItemSupport := verItemSupport, ulKeepALiveTick := ulNow } :=
    fun _ => rfl
  rw [Place.map_put, Place.map_put, hpre, hpost, hnew, hnew, hhere]

variable (ulNow) in
theorem existItemSupport_forget (verItemSupport : VerItemSupport)
    {vlst vlst' : List ItemSupportInfo} (h : vlst.map forget = vlst'.map forget) :
    let found := CBnsTrade.existItemSupport T A ulNow verItemSupport vlst
    let found' := CBnsTrade.existItemSupport T A ulNow verItemSupport vlst'
    found.2.map forget = found'.2.map forget ∧
      (found.1 = none ∧ found'.1 = none ∨
        exists p p', found.1 = some p ∧ found'.1 = some p' ∧
          p.pre.map forget = p'.pre.map forget ∧ forget p.here = forget p'.here ∧
          p.post.map forget = p'.post.map forget) := by
  induction vlst generalizing vlst' with
  | nil =>
      cases vlst' with
      | nil => exact ⟨rfl, Or.inl ⟨rfl, rfl⟩⟩
      | cons itm' vlst' => simp at h
  | cons itm vlst ih =>
      cases vlst' with
      | nil => simp at h
      | cons itm' vlst' =>
          rw [List.map_cons, List.map_cons, List.cons.injEq] at h
          have htimeOut : CBnsTrade.isTimeOut ulNow itm' =
              CBnsTrade.isTimeOut ulNow itm := by
            show CBnsTrade.isTimeOut ulNow (forget itm') =
              CBnsTrade.isTimeOut ulNow (forget itm)
            rw [h.1]
          have hself : CBnsTrade.isSelf T A verItemSupport itm' =
              CBnsTrade.isSelf T A verItemSupport itm := by
            show CBnsTrade.isSelf T A verItemSupport (forget itm') =
              CBnsTrade.isSelf T A verItemSupport (forget itm)
            rw [h.1]
          simp only [CBnsTrade.existItemSupport, htimeOut, hself]
          rcases ih h.2 with ⟨hrest, hplace⟩
          by_cases hout : CBnsTrade.isTimeOut ulNow itm
          · simpa only [hout, if_true] using ih h.2
          · by_cases hfound : CBnsTrade.isSelf T A verItemSupport itm
            · simp [hout, hfound, h.1, h.2]
            · simp only [hout, hfound, if_false, Bool.false_eq_true, List.map_cons,
                h.1, hrest, true_and]
              rcases hplace with ⟨hnone, hnone'⟩ | ⟨p, p', hp, hp', hpre, hhere, hpost⟩
              · simp [hnone, hnone']
              · refine Or.inr ⟨{ p with pre := itm :: p.pre },
                  { p' with pre := itm' :: p'.pre }, by rw [hp]; rfl, by rw [hp']; rfl,
                  ?_, hhere, hpost⟩
                simp [h.1, hpre]

variable (ulNow) in
theorem existWareHouse_forget {w w' : WareHouseInfo} (hw : untimed w = untimed w')
    (bUnSameChannel : Bool) {fn fn' : ItemSupportInfo -> ItemSupportInfo}
    (hfn : forall itm itm', forget itm = forget itm' ->
      forget (fn itm) = forget (fn' itm'))
    {vlst vlst' : List ItemSupportInfo} (h : vlst.map forget = vlst'.map forget) :
    let exist := CBnsTrade.existWareHouse T A ulNow w bUnSameChannel fn vlst
    let exist' := CBnsTrade.existWareHouse T A ulNow w' bUnSameChannel fn' vlst'
    exist.1.map forget = exist'.1.map forget ∧
      exist.2.map forget = exist'.2.map forget := by
  induction vlst generalizing vlst' with
  | nil =>
      cases vlst' with
      | nil => exact ⟨rfl, rfl⟩
      | cons itm' vlst' => simp at h
  | cons itm vlst ih =>
      cases vlst' with
      | nil => simp at h
      | cons itm' vlst' =>
          rw [List.map_cons, List.map_cons, List.cons.injEq] at h
          rcases ih h.2 with ⟨hfound, hrest⟩
          have htimeOut : CBnsTrade.isTimeOut ulNow itm' =
              CBnsTrade.isTimeOut ulNow itm := by
            show CBnsTrade.isTimeOut ulNow (forget itm') =
              CBnsTrade.isTimeOut ulNow (forget itm)
            rw [h.1]
          have hlisted : (CBnsTrade.isListed T A w' itm' && !itm'.bTake) =
              (CBnsTrade.isListed T A w itm && !itm.bTake) := by
            show (CBnsTrade.isListed T A (untimed w') (forget itm') &&
                !(forget itm').bTake) =
              (CBnsTrade.isListed T A (untimed w) (forget itm) && !(forget itm).bTake)
            rw [h.1, hw]
          have hchannel : (w'.dwChannel == itm'.verItemSupport.dwChannel) =
              (w.dwChannel == itm.verItemSupport.dwChannel) := by
            show ((untimed w').dwChannel == (forget itm').verItemSupport.dwChannel) =
              ((untimed w).dwChannel == (forget itm).verItemSupport.dwChannel)
            rw [h.1, hw]
          have htold : forall itm : ItemSupportInfo,
              forget { itm with emDealStatus := .channel, wareHouseInfo := w } =
                { forget itm with
                  emDealStatus := .channel
                  wareHouseInfo := untimed w } :=
            fun _ => rfl
          have htold' : forall itm : ItemSupportInfo,
              forget { itm with emDealStatus := .channel, wareHouseInfo := w' } =
                { forget itm with
                  emDealStatus := .channel
                  wareHouseInfo := untimed w' } :=
            fun _ => rfl
          simp only [CBnsTrade.existWareHouse, htimeOut, hlisted, hchannel]
          by_cases hout : CBnsTrade.isTimeOut ulNow itm
          · simpa only [hout, if_true] using ih h.2
          · by_cases hin : (CBnsTrade.isListed T A w itm && !itm.bTake) = true
            · have hsame :
                  forget { itm with emDealStatus := .channel, wareHouseInfo := w } =
                    forget { itm' with
                      emDealStatus := .channel
                      wareHouseInfo := w' } := by
                rw [htold, htold', h.1, hw]
              by_cases htake : (bUnSameChannel ||
                  w.dwChannel == itm.verItemSupport.dwChannel) = true
              · simp only [hout, hin, htake, if_true, if_false, Bool.false_eq_true,
                  Option.map_some, List.map_cons, hfn _ _ hsame, h.2, and_self]
              · simp only [hout, hin, htake, if_true, if_false, Bool.false_eq_true,
                  List.map_cons, hfound, hrest, hsame, and_self]
            · simp only [hout, hin, if_false, Bool.false_eq_true, List.map_cons, hfound,
                hrest, h.1, and_self]

theorem existWareHouse_Const_forget {w w' : WareHouseInfo} (hw : untimed w = untimed w')
    {vlst vlst' : List ItemSupportInfo} (h : vlst.map forget = vlst'.map forget) :
    CBnsTrade.existWareHouse_Const T A vlst w =
      CBnsTrade.existWareHouse_Const T A vlst' w' := by
  have hmap : forall (u : WareHouseInfo) (vlst : List ItemSupportInfo),
      CBnsTrade.existWareHouse_Const T A vlst u =
        (vlst.map forget).any fun itm => CBnsTrade.isListed T A (untimed u) itm := by
    intro u vlst
    rw [List.any_map]
    rfl
  rw [hmap, hmap, h, hw]

/-!
## One call
-/

def joinMsg : Queue -> DWORD
  | .itemSupport => SOCK_MSG_CLIENT_ITEMSUPPORT
  | .pickItem => SOCK_MSG_CLIENT_PICKITEM

def pollMsg : Queue -> DWORD
  | .itemSupport => SOCK_MSG_CLIENT_WAREHOUSE_MAINTASK
  | .pickItem => SOCK_MSG_CLIENT_WAREHOUSE_PICKITEM

open Server in
/--
The words of the old server to a call, and the head and the fields of the new
one's answer.  A poll for players that want goods is answered under another
message by the old server where it sends the warehouse back; the new server keeps
the head, and its `emWarehouseType` is `ItemSupport` there alone.
-/
inductive SameNews : Call -> List Put -> SockMsg × Answer -> Prop
  | waits (q : Queue) (v : VerItemSupport) :
      SameNews (.join q v) [.dword (joinMsg q), .dword 0]
        (joinMsg q, .itemSupport none)
  | meets (q : Queue) (v : VerItemSupport) (wsWareHouseName : WString)
      (dwChannel : DWORD) :
      SameNews (.join q v)
        [.dword (joinMsg q), .dword 1, .text wsWareHouseName, .dword dwChannel]
        (joinMsg q, .itemSupport (some (wsWareHouseName, dwChannel)))
  | nobody (q : Queue) (w : WareHouseInfo) :
      SameNews (.accept q w) [.dword (pollMsg q), .dword 0]
        (pollMsg q, .warehouse 1 0 [])
  | pick (q : Queue) (w : WareHouseInfo) (wsPlayerName : WString) :
      SameNews (.accept q w)
        [.dword (pollMsg q), .dword 1, .text wsPlayerName]
        (pollMsg q, .warehouse 1 1 wsPlayerName)
  | backFromSupport (w : WareHouseInfo) :
      SameNews (.accept .itemSupport w)
        [.dword SOCK_MSG_CLIENT_WAREHOUSE_PICKITEM, .dword 2]
        (SOCK_MSG_CLIENT_WAREHOUSE_MAINTASK, .warehouse 0 2 [])
  | backFromPick (w : WareHouseInfo) :
      SameNews (.accept .pickItem w)
        [.dword SOCK_MSG_CLIENT_WAREHOUSE_PICKITEM, .dword 2]
        (SOCK_MSG_CLIENT_WAREHOUSE_PICKITEM, .warehouse 1 2 [])

structure Alike (s : CBnsDeal) (t : CBnsTrade) : Prop where
  itemSupport : s.vItemSupport_OnLine.map forget = t.vItemSupport_OnLine.map forget
  pickItem : s.vPickItem_OnLine.map forget = t.vPickItem_OnLine.map forget

variable (ulNow) in
theorem joinDeal_alike (q : Queue) (verItemSupport : VerItemSupport)
    {vlst vlst' : List ItemSupportInfo} (h : vlst.map forget = vlst'.map forget) :
    let joined := joinDeal A.vecArea ulNow (joinMsg q) verItemSupport vlst
    let joined' := CBnsTrade.joinDeal T A ulNow verItemSupport {} vlst'
    SameNews (.join q verItemSupport) joined.1
        (joinMsg q, Server.CEchoPacket.itemSupportAnswer joined'.1) ∧
      joined.2.map forget = joined'.2.map forget := by
  rcases existItemSupport_forget (T := T) (A := A) ulNow verItemSupport h with
    ⟨hleft, ⟨hnone, hnone'⟩ | ⟨p, p', hp, hp', hpre, hhere, hpost⟩⟩
  · simp only [joinDeal, CBnsTrade.joinDeal, existItemSupport_eq T A, hnone, hnone',
      List.map_append, hleft]
    exact ⟨SameNews.waits q verItemSupport, trivial⟩
  · have hstatus : p.here.emDealStatus = p'.here.emDealStatus := by
      show (forget p.here).emDealStatus = (forget p'.here).emDealStatus
      rw [hhere]
    have hname : p.here.wareHouseInfo.wsWareHouseName =
        p'.here.wareHouseInfo.wsWareHouseName := by
      show (forget p.here).wareHouseInfo.wsWareHouseName =
        (forget p'.here).wareHouseInfo.wsWareHouseName
      rw [hhere]
    have hchannel : p.here.wareHouseInfo.dwChannel =
        p'.here.wareHouseInfo.dwChannel := by
      show (forget p.here).wareHouseInfo.dwChannel =
        (forget p'.here).wareHouseInfo.dwChannel
      rw [hhere]
    have hput := forget_joined ulNow hpre hhere hpost verItemSupport
    simp only [joinDeal, CBnsTrade.joinDeal, existItemSupport_eq T A, hp, hp', hstatus,
      hname, hchannel]
    cases hstate : p'.here.emDealStatus with
    | none =>
        exact ⟨SameNews.waits q verItemSupport, by simpa [hstate, hstatus] using hput⟩
    | channel =>
        exact ⟨SameNews.meets q verItemSupport _ _,
          by simpa [hstate, hstatus] using hput⟩

variable (ulNow) in
theorem untimed_renewTick (bRenew : Bool) (w : WareHouseInfo) :
    untimed (CBnsTrade.renewTick ulNow bRenew w) = untimed w := by
  cases bRenew with
  | false => rfl
  | true => rfl

variable (ulNow) in
theorem renewTick_ulTick (P : Prop) [Decidable P] (w : WareHouseInfo) :
    (CBnsTrade.renewTick ulNow (decide P) w).ulTick =
      if P then ulNow else w.ulTick := by
  by_cases hP : P
  · simp [CBnsTrade.renewTick, hP]
  · simp [CBnsTrade.renewTick, hP]

variable (ulNow) in
theorem forget_takeItem (w w' : WareHouseInfo) (hw : untimed w = untimed w')
    (itm itm' : ItemSupportInfo) (h : forget itm = forget itm') :
    forget (takeItem ulNow w itm) = forget (CBnsTrade.takeItem ulNow w' itm') := by
  have htaken : forall (u : WareHouseInfo) (itm : ItemSupportInfo),
      forget (CBnsTrade.takeItem ulNow u itm) =
        { forget itm with
          wareHouseInfo := untimed u, bTake := true, ulTakeTick := ulNow } :=
    fun _ _ => rfl
  have hsame : forget (takeItem ulNow w itm) =
      forget (CBnsTrade.takeItem ulNow w itm) := rfl
  rw [hsame, htaken, htaken, h, hw]

theorem name_of_found {found found' : Option ItemSupportInfo}
    (h : found.map forget = found'.map forget) :
    (found = none ∧ found' = none) ∨ exists itm itm', found = some itm ∧
      found' = some itm' ∧
      itm.verItemSupport.wsPlayerName = itm'.verItemSupport.wsPlayerName := by
  cases found with
  | none =>
      cases found' with
      | none => exact Or.inl ⟨rfl, rfl⟩
      | some itm' => simp at h
  | some itm =>
      cases found' with
      | none => simp at h
      | some itm' =>
          refine Or.inr ⟨itm, itm', rfl, rfl, ?_⟩
          show (forget itm).verItemSupport.wsPlayerName =
            (forget itm').verItemSupport.wsPlayerName
          rw [Option.some.inj h]

open Server in
theorem acceptItemSupportDeal_alike (w : WareHouseInfo) {s : CBnsDeal} {t : CBnsTrade}
    (h : Alike s t) :
    let old := acceptItemSupportDeal A.vecArea ulNow w s
    let new := CBnsTrade.acceptItemSupportDeal T A ulNow w CEchoPacket.unsetResult t
    SameNews (.accept .itemSupport w) old.1
        (SOCK_MSG_CLIENT_WAREHOUSE_MAINTASK, CEchoPacket.warehouseAnswer new.1) ∧
      Alike old.2 new.2 := by
  have htick := renewTick_ulTick ulNow
    (10 * 60 * 1000 ≤ ulNow - w.ulTick) w
  have hrenewed := untimed_renewTick ulNow
    (decide (10 * 60 * 1000 ≤ ulNow - w.ulTick)) w
  generalize hW : CBnsTrade.renewTick ulNow
    (decide (10 * 60 * 1000 ≤ ulNow - w.ulTick)) w = W at htick hrenewed
  have hsearch := existWareHouse_forget (T := T) (A := A) ulNow hrenewed.symm
    true (forget_takeItem ulNow w { W with ulTick := ulNow }
      hrenewed.symm)
    h.itemSupport
  have hwaits := existWareHouse_Const_forget (T := T) (A := A) hrenewed.symm h.pickItem
  rcases hsearch with ⟨hfound, hqueue⟩
  simp only [acceptItemSupportDeal, CBnsTrade.acceptItemSupportDeal, hW,
    existWareHouse_eq T A, existWareHouse_Const_eq T A, ← htick,
    CBnsTrade.isSwitchPlayer, hwaits]
  rcases name_of_found hfound with ⟨hnone, hnone'⟩ | ⟨itm, itm', hsome, hsome', hname⟩
  · simp only [hnone, hnone']
    split
    · exact ⟨SameNews.backFromSupport w, hqueue, h.pickItem⟩
    · exact ⟨SameNews.nobody .itemSupport w, hqueue, h.pickItem⟩
  · simp only [hsome, hsome', hname]
    exact ⟨SameNews.pick .itemSupport w _, hqueue, h.pickItem⟩

open Server in
theorem acceptPickItemDeal_alike (w : WareHouseInfo) {s : CBnsDeal} {t : CBnsTrade}
    (h : Alike s t) :
    let old := acceptPickItemDeal A.vecArea ulNow w s
    let new := CBnsTrade.acceptPickItemDeal T A ulNow w CEchoPacket.unsetResult t
    SameNews (.accept .pickItem w) old.1
        (SOCK_MSG_CLIENT_WAREHOUSE_PICKITEM, CEchoPacket.warehouseAnswer new.1) ∧
      Alike old.2 new.2 := by
  have htick := renewTick_ulTick ulNow
    (10 * 60 * 1000 ≤ CBnsTrade.elapsed ulNow w.ulTick) w
  have hrenewed := untimed_renewTick ulNow
    (decide (10 * 60 * 1000 ≤ CBnsTrade.elapsed ulNow w.ulTick)) w
  generalize hW : CBnsTrade.renewTick ulNow
    (decide (10 * 60 * 1000 ≤ CBnsTrade.elapsed ulNow w.ulTick)) w = W at htick hrenewed
  have hsearch := existWareHouse_forget (T := T) (A := A) ulNow hrenewed.symm
    false (forget_takeItem ulNow w W hrenewed.symm) h.pickItem
  rcases hsearch with ⟨hfound, hqueue⟩
  have hwaits := existWareHouse_Const_forget (T := T) (A := A) hrenewed.symm hqueue
  simp only [acceptPickItemDeal, CBnsTrade.acceptPickItemDeal, hW,
    existWareHouse_eq T A, existWareHouse_Const_eq T A, ← htick,
    CBnsTrade.isSwitchPlayer, hwaits]
  rcases name_of_found hfound with ⟨hnone, hnone'⟩ | ⟨itm, itm', hsome, hsome', hname⟩
  · simp only [hnone, hnone']
    split
    · exact ⟨SameNews.backFromPick w, h.itemSupport, hqueue⟩
    · exact ⟨SameNews.nobody .pickItem w, h.itemSupport, hqueue⟩
  · simp only [hsome, hsome', hname]
    exact ⟨SameNews.pick .pickItem w _, h.itemSupport, hqueue⟩

/-!
## Runs
-/

section

open Server

def newApply (T : MyTools) (A : CBnsArea) (ulNow : ULONGLONG) :
    Call -> CBnsTrade -> (SockMsg × Answer) × CBnsTrade
  | .join .itemSupport v, t =>
      let done := CBnsTrade.joinItemSupportDeal T A ulNow v {} t
      ((SockMsg.clientItemSupport, CEchoPacket.itemSupportAnswer done.1), done.2)
  | .join .pickItem v, t =>
      let done := CBnsTrade.joinPickItemtDeal T A ulNow v {} t
      ((SockMsg.clientPickItem, CEchoPacket.itemSupportAnswer done.1), done.2)
  | .accept .itemSupport w, t =>
      let done := CBnsTrade.acceptItemSupportDeal T A ulNow w
        CEchoPacket.unsetResult t
      ((SockMsg.clientWarehouseMainTask, CEchoPacket.warehouseAnswer done.1), done.2)
  | .accept .pickItem w, t =>
      let done := CBnsTrade.acceptPickItemDeal T A ulNow w CEchoPacket.unsetResult t
      ((SockMsg.clientWarehousePickItem, CEchoPacket.warehouseAnswer done.1), done.2)

end

/-- Whether both servers carry the same news in all their answers. -/
def AnswersAgree (vBnsServerArray : List (List DWORD)) (T : MyTools) (A : CBnsArea) :
    List (ULONGLONG × Call) -> CBnsDeal -> CBnsTrade -> Prop
  | [], _, _ => True
  | (ulNow, call) :: calls, s, t =>
      let old := apply vBnsServerArray ulNow call s
      let new := newApply T A ulNow call t
      SameNews call old.1 new.1 ∧
        AnswersAgree vBnsServerArray T A calls old.2 new.2

variable (ulNow) in
theorem apply_alike (call : Call) {s : CBnsDeal} {t : CBnsTrade} (h : Alike s t) :
    let old := apply A.vecArea ulNow call s
    let new := newApply T A ulNow call t
    SameNews call old.1 new.1 ∧ Alike old.2 new.2 := by
  cases call with
  | join q v =>
      cases q with
      | itemSupport =>
          rcases joinDeal_alike (T := T) ulNow .itemSupport v h.itemSupport with
            ⟨hanswer, hqueue⟩
          exact ⟨hanswer, hqueue, h.pickItem⟩
      | pickItem =>
          rcases joinDeal_alike (T := T) ulNow .pickItem v h.pickItem with
            ⟨hanswer, hqueue⟩
          exact ⟨hanswer, h.itemSupport, hqueue⟩
  | accept q w =>
      cases q with
      | itemSupport => exact acceptItemSupportDeal_alike w h
      | pickItem => exact acceptPickItemDeal_alike w h

theorem agree_of_alike (calls : List (ULONGLONG × Call)) {s : CBnsDeal} {t : CBnsTrade}
    (h : Alike s t) : AnswersAgree A.vecArea T A calls s t := by
  induction calls generalizing s t with
  | nil => trivial
  | cons timed calls ih =>
      rcases timed with ⟨ulNow, call⟩
      rcases apply_alike (T := T) ulNow call h with ⟨hanswer, hnext⟩
      exact ⟨hanswer, ih hnext⟩

/--
The rewritten trade answers with the news of the old one: for every sequence of
joins and polls of both queues, at any times, with the areas that both servers
begin with.
-/
theorem answers_agree (calls : List (ULONGLONG × Call)) :
    AnswersAgree initBnsServerArray T CBnsArea.initialized calls {} {} := by
  rw [← initBnsServerArray_eq]
  exact agree_of_alike calls ⟨rfl, rfl⟩

end

end CBnsDeal

end OldServer
end BnsKorea
