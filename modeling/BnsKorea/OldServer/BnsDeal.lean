import BnsKorea.Trade.Queues

/-!
# The trade queues of the old server

`CBnsDeal` keeps the queues that `CBnsTrade` of the new server keeps, compares
servers by a table of its own and writes its answers into a buffer.  Every call
takes the time of the call once.
-/

namespace BnsKorea
namespace OldServer

open Library

/-!
## The servers
-/

/-- The table that `InitBnsServerArray` fills in, by the ids of the servers. -/
def initBnsServerArray : List (List DWORD) :=
  [[0x3], [0x2E], [0x4, 0x17, 0x10], [0x5, 0x1A, 0x19], [0x34, 0x1F, 0x16],
    [0x1, 0x7, 0x14], [0x9, 0x6, 0xF], [0x2, 0xE, 0x15],
    [0x11, 0x12, 0x18, 0x1C], [0x8, 0xA, 0xB, 0xC], [0xD, 0x13, 0x1B, 0x1D]]

/-- `CVerManage::IsCompServer` -/
def isCompServer (vBnsServerArray : List (List DWORD))
    (dwServerId1 dwServerId2 : DWORD) : Bool :=
  if dwServerId1 = dwServerId2 then true
  else
    match vBnsServerArray.find? fun itm => itm.any fun dwServerId =>
        dwServerId == dwServerId1 with
    | some itm => itm.any fun dwServerId => dwServerId2 == dwServerId
    | none => false

/-!
## Answers
-/

def SOCK_MSG_CLIENT_ITEMSUPPORT : DWORD := 0xF
def SOCK_MSG_CLIENT_WAREHOUSE_MAINTASK : DWORD := 0x10
def SOCK_MSG_CLIENT_WAREHOUSE_PICKITEM : DWORD := 0x11
def SOCK_MSG_CLIENT_PICKITEM : DWORD := 0x12

/-- What is written into the buffer; `ansi` is a narrow text by its characters. -/
inductive Put where
  | dword (dw : DWORD)
  | text (ws : WString)
  | ansi (str : WString)
  | bytes (content : List BYTE)
deriving DecidableEq

def dealStatus : DealWarehouseStatus -> DWORD
  | .none => 0
  | .channel => 1

def isPick : DealWarehouseIsPick -> DWORD
  | .none => 0
  | .pick => 1
  | .backToSwitchPlayer => 2

/-!
## The queues
-/

structure CBnsDeal where
  vItemSupport_OnLine : List ItemSupportInfo := []
  vPickItem_OnLine : List ItemSupportInfo := []
  mapWareHouse : Std.TreeMap WString WareHouseInfo := ∅

open CBnsTrade (elapsed)

namespace CBnsDeal

def MAX_DEAL_KEEPALIVE_TIMEOUT : DWORD := 15 * 1000

section

variable (vBnsServerArray : List (List DWORD)) (ulNow : ULONGLONG)

def isTimeOut (itm : ItemSupportInfo) : Bool :=
  decide (MAX_DEAL_KEEPALIVE_TIMEOUT ≤ elapsed ulNow itm.ulKeepALiveTick) ||
    (itm.bTake &&
      decide (MAX_DEAL_KEEPALIVE_TIMEOUT ≤ elapsed ulNow itm.ulTakeTick))

def existItemSupport (verItemSupport : VerItemSupport) :
    List ItemSupportInfo -> Option (Place ItemSupportInfo) × List ItemSupportInfo
  | [] => (none, [])
  | itm :: vlst =>
      if isTimeOut ulNow itm then existItemSupport verItemSupport vlst
      else if itm.verItemSupport.wsPlayerName == verItemSupport.wsPlayerName &&
          isCompServer vBnsServerArray itm.verItemSupport.dwServerId
            verItemSupport.dwServerId then
        (some { pre := [], here := itm, post := vlst }, itm :: vlst)
      else
        let rest := existItemSupport verItemSupport vlst
        (rest.1.map fun p => { p with pre := itm :: p.pre }, itm :: rest.2)

/-- The first entry that the warehouse may take, as `fn` leaves it. -/
def existWareHouse (wareHouseInfo : WareHouseInfo) (bUnSameChannel : Bool)
    (fn : ItemSupportInfo -> ItemSupportInfo) :
    List ItemSupportInfo -> Option ItemSupportInfo × List ItemSupportInfo
  | [] => (none, [])
  | itm :: vlst =>
      if isTimeOut ulNow itm then
        existWareHouse wareHouseInfo bUnSameChannel fn vlst
      else if isCompServer vBnsServerArray itm.verItemSupport.dwServerId
            wareHouseInfo.dwServerId && !itm.bTake &&
          itm.verItemSupport.vWareHouse.any fun wsWareHouseName =>
            wareHouseInfo.wsWareHouseName == wsWareHouseName then
        let itm :=
          { itm with
            emDealStatus := .channel
            wareHouseInfo := wareHouseInfo }
        if bUnSameChannel ||
            wareHouseInfo.dwChannel == itm.verItemSupport.dwChannel then
          (some (fn itm), fn itm :: vlst)
        else
          let rest := existWareHouse wareHouseInfo bUnSameChannel fn vlst
          (rest.1, itm :: rest.2)
      else
        let rest := existWareHouse wareHouseInfo bUnSameChannel fn vlst
        (rest.1, itm :: rest.2)

/-- The overload that only looks. -/
def existWareHouse_Const (vlst : List ItemSupportInfo)
    (wareHouseInfo : WareHouseInfo) : Bool :=
  vlst.any fun itm =>
    isCompServer vBnsServerArray itm.verItemSupport.dwServerId
        wareHouseInfo.dwServerId &&
      itm.verItemSupport.vWareHouse.any fun wsWareHouseName =>
        wareHouseInfo.wsWareHouseName == wsWareHouseName

def joinDeal (dwMsg : DWORD) (verItemSupport : VerItemSupport)
    (vlst : List ItemSupportInfo) : List Put × List ItemSupportInfo :=
  let found := existItemSupport vBnsServerArray ulNow verItemSupport vlst
  match found.1 with
  | some p =>
      let itm := { p.here with verItemSupport := verItemSupport }
      let answer := [.dword dwMsg, .dword (dealStatus itm.emDealStatus)]
      match itm.emDealStatus with
      | .none => (answer, p.put { itm with ulKeepALiveTick := ulNow })
      | .channel =>
          (answer ++
            [.text itm.wareHouseInfo.wsWareHouseName,
              .dword itm.wareHouseInfo.dwChannel],
            p.put { itm with ulKeepALiveTick := ulNow })
  | none =>
      ([.dword dwMsg, .dword (dealStatus .none)],
        found.2 ++
          [{ verItemSupport := verItemSupport
             wareHouseInfo := { wsWareHouseName := [], ulTick := ulNow }
             ulKeepALiveTick := ulNow }])

def joinItemSupportDeal (verItemSupport : VerItemSupport) (s : CBnsDeal) :
    List Put × CBnsDeal :=
  let joined := joinDeal vBnsServerArray ulNow SOCK_MSG_CLIENT_ITEMSUPPORT
    verItemSupport s.vItemSupport_OnLine
  (joined.1, { s with vItemSupport_OnLine := joined.2 })

def joinPickItemtDeal (verItemSupport : VerItemSupport) (s : CBnsDeal) :
    List Put × CBnsDeal :=
  let joined := joinDeal vBnsServerArray ulNow SOCK_MSG_CLIENT_PICKITEM
    verItemSupport s.vPickItem_OnLine
  (joined.1, { s with vPickItem_OnLine := joined.2 })

/--
`FindWarehouse`, with the tick that the caller writes through the pointer: the
record is replaced by the one of the call, or put in where there is none.
-/
def findWarehouse (tmpWareHouseInfo : WareHouseInfo) (ulTick : ULONGLONG)
    (mapWareHouse : Std.TreeMap WString WareHouseInfo) :
    Std.TreeMap WString WareHouseInfo :=
  mapWareHouse.insert tmpWareHouseInfo.wsWareHouseName
    { tmpWareHouseInfo with ulTick := ulTick }

/-- The record of the warehouse in the queue, as `fn` of both polls leaves it. -/
def takeItem (wareHouseInfo : WareHouseInfo) (itm : ItemSupportInfo) :
    ItemSupportInfo :=
  { itm with
    wareHouseInfo := wareHouseInfo
    bTake := true
    ulTakeTick := ulNow }

/-- The ten minutes are compared before the cast, with all 64 bits. -/
def acceptItemSupportDeal (wareHouseInfo : WareHouseInfo) (s : CBnsDeal) :
    List Put × CBnsDeal :=
  let ulTick := if 10 * 60 * 1000 ≤ ulNow - wareHouseInfo.ulTick then ulNow
    else wareHouseInfo.ulTick
  let exist := existWareHouse vBnsServerArray ulNow wareHouseInfo true
    (takeItem ulNow wareHouseInfo) s.vItemSupport_OnLine
  let s' := { s with vItemSupport_OnLine := exist.2 }
  match exist.1 with
  | some itm =>
      ([.dword SOCK_MSG_CLIENT_WAREHOUSE_MAINTASK, .dword (isPick .pick),
        .text itm.verItemSupport.wsPlayerName],
        { s' with
          mapWareHouse := findWarehouse wareHouseInfo ulNow s.mapWareHouse })
  | none =>
      let s' := { s' with
        mapWareHouse := findWarehouse wareHouseInfo ulTick s.mapWareHouse }
      if existWareHouse_Const vBnsServerArray s'.vPickItem_OnLine wareHouseInfo &&
          decide (5 * 60 * 1000 ≤ elapsed ulNow ulTick) then
        ([.dword SOCK_MSG_CLIENT_WAREHOUSE_PICKITEM,
          .dword (isPick .backToSwitchPlayer)], s')
      else
        ([.dword SOCK_MSG_CLIENT_WAREHOUSE_MAINTASK, .dword (isPick .none)], s')

def acceptPickItemDeal (wareHouseInfo : WareHouseInfo) (s : CBnsDeal) :
    List Put × CBnsDeal :=
  let ulTick := if 10 * 60 * 1000 ≤ elapsed ulNow wareHouseInfo.ulTick then ulNow
    else wareHouseInfo.ulTick
  let exist := existWareHouse vBnsServerArray ulNow wareHouseInfo false
    (takeItem ulNow wareHouseInfo) s.vPickItem_OnLine
  let s' := { s with vPickItem_OnLine := exist.2 }
  match exist.1 with
  | some itm =>
      ([.dword SOCK_MSG_CLIENT_WAREHOUSE_PICKITEM, .dword (isPick .pick),
        .text itm.verItemSupport.wsPlayerName],
        { s' with
          mapWareHouse := findWarehouse wareHouseInfo ulNow s.mapWareHouse })
  | none =>
      let s' := { s' with
        mapWareHouse := findWarehouse wareHouseInfo ulTick s.mapWareHouse }
      if existWareHouse_Const vBnsServerArray s'.vPickItem_OnLine wareHouseInfo &&
          decide (5 * 60 * 1000 ≤ elapsed ulNow ulTick) then
        ([.dword SOCK_MSG_CLIENT_WAREHOUSE_PICKITEM,
          .dword (isPick .backToSwitchPlayer)], s')
      else
        ([.dword SOCK_MSG_CLIENT_WAREHOUSE_PICKITEM, .dword (isPick .none)], s')

end

/-!
## Runs
-/

/-- The calls that both servers know. -/
inductive Call where
  | join (q : Queue) (verItemSupport : VerItemSupport)
  | accept (q : Queue) (wareHouseInfo : WareHouseInfo)

def apply (vBnsServerArray : List (List DWORD)) (ulNow : ULONGLONG) :
    Call -> CBnsDeal -> List Put × CBnsDeal
  | .join .itemSupport v => joinItemSupportDeal vBnsServerArray ulNow v
  | .join .pickItem v => joinPickItemtDeal vBnsServerArray ulNow v
  | .accept .itemSupport w => acceptItemSupportDeal vBnsServerArray ulNow w
  | .accept .pickItem w => acceptPickItemDeal vBnsServerArray ulNow w

end CBnsDeal

end OldServer
end BnsKorea
