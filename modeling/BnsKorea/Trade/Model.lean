import BnsKorea.Library.Machines
import BnsKorea.Library.Parts
import BnsKorea.Common.MyTools

/-!
# The trade queues

A player that wants goods, or wants to hand some over, waits in a queue until a
warehouse account of its area takes it.  Entries run out by two timers and are
thrown away by whichever search comes across them.

Every call takes the time of the call once.
-/

namespace BnsKorea

open Library

/-!
## Areas
-/

/-- The server ids by area; every id is listed once. -/
structure CBnsArea where
  vecArea : List (List DWORD) := []
  listedOnce : vecArea.flatten.Nodup := by decide

namespace CBnsArea

/-- The table `Initialize` fills in; the names of the servers are not read. -/
def initialized : CBnsArea where
  vecArea :=
    [[0x3], [0x2E], [0x4, 0x17, 0x10], [0x5, 0x1A, 0x19], [0x34, 0x1F, 0x16],
      [0x1, 0x7, 0x14], [0x9, 0x6, 0xF], [0x2, 0xE, 0x15],
      [0x11, 0x12, 0x18, 0x1C], [0x8, 0xA, 0xB, 0xC], [0xD, 0x13, 0x1B, 0x1D]]

def isSame_Area (T : MyTools) (A : CBnsArea) (dwServerId1 dwServerId2 : DWORD) :
    Bool :=
  if dwServerId1 = dwServerId2 then true
  else
    match A.vecArea.find? fun itm =>
        (T.vecFindIfConst itm fun dwServerId => dwServerId == dwServerId1).isSome
      with
    | some itm => T.vecExistIfConst itm fun dwServerId => dwServerId2 == dwServerId
    | none => false

end CBnsArea

/-!
## Entries and queues
-/

structure ItemSupportInfo where
  ulTakeTick : ULONGLONG := 0
  bTake : Bool := false
  verItemSupport : VerItemSupport
  emDealStatus : DealWarehouseStatus := .none
  /-- Nobody reads it before the status is set with it. -/
  wareHouseInfo : WareHouseInfo
  ulKeepALiveTick : ULONGLONG

/-- Which of the two queues a call is about. -/
inductive Queue where
  | itemSupport
  | pickItem
deriving DecidableEq

structure CBnsTrade where
  vItemSupport_OnLine : List ItemSupportInfo := []
  vPickItem_OnLine : List ItemSupportInfo := []
  mapWareHouse : Std.TreeMap WString WareHouseInfo := ∅

namespace CBnsTrade

def queue (s : CBnsTrade) : Queue -> List ItemSupportInfo
  | .itemSupport => s.vItemSupport_OnLine
  | .pickItem => s.vPickItem_OnLine

def MAX_DEAL_KEEPALIVE_TIMEOUT : DWORD := 15 * 1000

/-- `static_cast<DWORD>(::GetTickCount64() - ulTick)`. -/
def elapsed (ulNow ulTick : ULONGLONG) : DWORD :=
  (ulNow - ulTick).toUInt32

def isTimeOut (ulNow : ULONGLONG) (itm : ItemSupportInfo) : Bool :=
  decide (MAX_DEAL_KEEPALIVE_TIMEOUT ≤ elapsed ulNow itm.ulKeepALiveTick) ||
    (itm.bTake &&
      decide (MAX_DEAL_KEEPALIVE_TIMEOUT ≤ elapsed ulNow itm.ulTakeTick))

section

variable (T : MyTools) (A : CBnsArea) (ulNow : ULONGLONG)

/-!
## Searches
-/

def isSelf (verItemSupport : VerItemSupport) (itm : ItemSupportInfo) : Bool :=
  itm.verItemSupport.wsPlayerName == verItemSupport.wsPlayerName &&
    A.isSame_Area T itm.verItemSupport.dwServerId verItemSupport.dwServerId

def existItemSupport (verItemSupport : VerItemSupport) :
    List ItemSupportInfo ->
    Option (Place ItemSupportInfo) × List ItemSupportInfo
  | [] => (none, [])
  | itm :: vlst =>
      if isTimeOut ulNow itm then existItemSupport verItemSupport vlst
      else if isSelf T A verItemSupport itm then
        (some { pre := [], here := itm, post := vlst }, itm :: vlst)
      else
        let rest := existItemSupport verItemSupport vlst
        (rest.1.map fun p => { p with pre := itm :: p.pre }, itm :: rest.2)

def isListed (wareHouseInfo : WareHouseInfo) (itm : ItemSupportInfo) : Bool :=
  A.isSame_Area T itm.verItemSupport.dwServerId wareHouseInfo.dwServerId &&
    T.vecExistIfConst itm.verItemSupport.vWareHouse fun wsWareHouseName =>
      wareHouseInfo.wsWareHouseName == wsWareHouseName

/--
The first entry nobody took that lists the warehouse, as `fn` leaves it, and the
entries afterwards.  An entry on another channel is told the warehouse and left.
-/
def existWareHouse (wareHouseInfo : WareHouseInfo) (bUnSameChannel : Bool)
    (fn : ItemSupportInfo -> ItemSupportInfo) :
    List ItemSupportInfo -> Option ItemSupportInfo × List ItemSupportInfo
  | [] => (none, [])
  | itm :: vlst =>
      if isTimeOut ulNow itm then
        existWareHouse wareHouseInfo bUnSameChannel fn vlst
      else if isListed T A wareHouseInfo itm && !itm.bTake then
        let itm :=
          { itm with
            emDealStatus := .channel
            wareHouseInfo := wareHouseInfo }
        if bUnSameChannel ||
            wareHouseInfo.dwChannel == itm.verItemSupport.dwChannel then
          (some (fn itm), fn itm :: vlst)
        else
          let rest := existWareHouse wareHouseInfo bUnSameChannel fn vlst
          (rest.1, itm :: rest.2)
      else
        let rest := existWareHouse wareHouseInfo bUnSameChannel fn vlst
        (rest.1, itm :: rest.2)

/-- The overload that only looks. -/
def existWareHouse_Const (vlst : List ItemSupportInfo)
    (wareHouseInfo : WareHouseInfo) : Bool :=
  vlst.any fun itm => isListed T A wareHouseInfo itm

def findWarehouse (tmpWareHouseInfo : WareHouseInfo)
    (ActionPtr : WareHouseInfo -> WareHouseInfo)
    (mapWareHouse : Std.TreeMap WString WareHouseInfo) :
    Std.TreeMap WString WareHouseInfo :=
  match mapWareHouse[tmpWareHouseInfo.wsWareHouseName]? with
  | none =>
      let _Warehouse := ActionPtr tmpWareHouseInfo
      mapWareHouse.insertIfNew _Warehouse.wsWareHouseName _Warehouse
  | some _ =>
      mapWareHouse.insert tmpWareHouseInfo.wsWareHouseName
        (ActionPtr tmpWareHouseInfo)

/-!
## Joining
-/

def joinDeal (verItemSupport : VerItemSupport) (Result : ItemSupportResult)
    (vlst : List ItemSupportInfo) : ItemSupportResult × List ItemSupportInfo :=
  let found := existItemSupport T A ulNow verItemSupport vlst
  match found.1 with
  | some p =>
      let itm := { p.here with verItemSupport := verItemSupport }
      let Result := { Result with emDealStatus := itm.emDealStatus }
      match itm.emDealStatus with
      | .none => (Result, p.put { itm with ulKeepALiveTick := ulNow })
      | .channel =>
          ({ Result with
              wsWareHouseName := itm.wareHouseInfo.wsWareHouseName
              dwChannel := itm.wareHouseInfo.dwChannel },
            p.put { itm with ulKeepALiveTick := ulNow })
  | none =>
      ({ Result with emDealStatus := .none },
        found.2 ++
          [{ verItemSupport := verItemSupport
             wareHouseInfo := { wsWareHouseName := [], ulTick := ulNow }
             ulKeepALiveTick := ulNow }])

def joinItemSupportDeal (verItemSupport : VerItemSupport)
    (Result : ItemSupportResult) (s : CBnsTrade) :
    ItemSupportResult × CBnsTrade :=
  let joined := joinDeal T A ulNow verItemSupport Result s.vItemSupport_OnLine
  (joined.1, { s with vItemSupport_OnLine := joined.2 })

def joinPickItemtDeal (verItemSupport : VerItemSupport)
    (Result : ItemSupportResult) (s : CBnsTrade) :
    ItemSupportResult × CBnsTrade :=
  let joined := joinDeal T A ulNow verItemSupport Result s.vPickItem_OnLine
  (joined.1, { s with vPickItem_OnLine := joined.2 })

/-!
## Taking
-/

def takeItem (wareHouseInfo : WareHouseInfo) (itm : ItemSupportInfo) :
    ItemSupportInfo :=
  { itm with
    wareHouseInfo := wareHouseInfo
    bTake := true
    ulTakeTick := ulNow }

def renewTick (bRenew : Bool) (wareHouseInfo : WareHouseInfo) : WareHouseInfo :=
  if bRenew then { wareHouseInfo with ulTick := ulNow } else wareHouseInfo

def isSwitchPlayer (s : CBnsTrade) (wareHouseInfo : WareHouseInfo) : Bool :=
  existWareHouse_Const T A s.vPickItem_OnLine wareHouseInfo &&
    decide (5 * 60 * 1000 ≤ elapsed ulNow wareHouseInfo.ulTick)

/-- The ten minutes are compared before the cast, with all 64 bits. -/
def acceptItemSupportDeal (wareHouseInfo : WareHouseInfo)
    (Result : WarehouseActionResult) (s : CBnsTrade) :
    WarehouseActionResult × CBnsTrade :=
  let _Warehouse := renewTick ulNow
    (decide (10 * 60 * 1000 ≤ ulNow - wareHouseInfo.ulTick)) wareHouseInfo
  let exist := existWareHouse T A ulNow _Warehouse true
    (takeItem ulNow { _Warehouse with ulTick := ulNow }) s.vItemSupport_OnLine
  let s' := { s with vItemSupport_OnLine := exist.2 }
  match exist.1 with
  | some itm =>
      ({ Result with
          emWarehouseType := .pickItem
          emIsPick := .pick
          wsPlayerName := itm.verItemSupport.wsPlayerName },
        { s' with
          mapWareHouse := findWarehouse wareHouseInfo
            (fun _ => { _Warehouse with ulTick := ulNow }) s.mapWareHouse })
  | none =>
      let s' := { s' with
        mapWareHouse := findWarehouse wareHouseInfo (fun _ => _Warehouse)
          s.mapWareHouse }
      if isSwitchPlayer T A ulNow s' _Warehouse then
        ({ Result with
            emWarehouseType := .itemSupport
            emIsPick := .backToSwitchPlayer }, s')
      else
        ({ Result with
            emWarehouseType := .pickItem
            emIsPick := .none }, s')

def acceptPickItemDeal (wareHouseInfo : WareHouseInfo)
    (Result : WarehouseActionResult) (s : CBnsTrade) :
    WarehouseActionResult × CBnsTrade :=
  let Result := { Result with emWarehouseType := .pickItem }
  let _WareHouse := renewTick ulNow
    (decide (10 * 60 * 1000 ≤ elapsed ulNow wareHouseInfo.ulTick)) wareHouseInfo
  let exist := existWareHouse T A ulNow _WareHouse false
    (takeItem ulNow _WareHouse) s.vPickItem_OnLine
  let s' := { s with vPickItem_OnLine := exist.2 }
  match exist.1 with
  | some itm =>
      ({ Result with
          emIsPick := .pick
          wsPlayerName := itm.verItemSupport.wsPlayerName },
        { s' with
          mapWareHouse := findWarehouse wareHouseInfo
            (fun _ => { _WareHouse with ulTick := ulNow }) s.mapWareHouse })
  | none =>
      let s' := { s' with
        mapWareHouse := findWarehouse wareHouseInfo (fun _ => _WareHouse)
          s.mapWareHouse }
      if isSwitchPlayer T A ulNow s' _WareHouse then
        ({ Result with emIsPick := .backToSwitchPlayer }, s')
      else ({ Result with emIsPick := .none }, s')

/-!
## Removing
-/

def removeAccountInQueue (wsAccountName : WString)
    (vlst : List ItemSupportInfo) : List ItemSupportInfo :=
  T.dqueEraseIf vlst fun info =>
    info.verItemSupport.wsAccountName == wsAccountName

def removeAccountInItemSupport (wsAccountName : WString) (s : CBnsTrade) :
    CBnsTrade :=
  { s with
    vItemSupport_OnLine :=
      removeAccountInQueue T wsAccountName s.vItemSupport_OnLine }

def removeAccountInPickItem (wsAccountName : WString) (s : CBnsTrade) :
    CBnsTrade :=
  { s with
    vPickItem_OnLine := removeAccountInQueue T wsAccountName s.vPickItem_OnLine }

def removeAccountInWarehouse (wsPlayerName : WString) (s : CBnsTrade) :
    CBnsTrade :=
  { s with mapWareHouse := s.mapWareHouse.erase wsPlayerName }

def removeAccount (wsAccountName wsPlayerName : WString) (s : CBnsTrade) :
    CBnsTrade :=
  removeAccountInWarehouse wsPlayerName
    (removeAccountInPickItem T wsAccountName
      (removeAccountInItemSupport T wsAccountName s))

/-!
## Runs
-/

def join : Queue -> VerItemSupport -> ItemSupportResult -> CBnsTrade ->
    ItemSupportResult × CBnsTrade
  | .itemSupport => joinItemSupportDeal T A ulNow
  | .pickItem => joinPickItemtDeal T A ulNow

def accept : Queue -> WareHouseInfo -> WarehouseActionResult -> CBnsTrade ->
    WarehouseActionResult × CBnsTrade
  | .itemSupport => acceptItemSupportDeal T A ulNow
  | .pickItem => acceptPickItemDeal T A ulNow

end

inductive Call where
  | join (q : Queue) (verItemSupport : VerItemSupport)
      (Result : ItemSupportResult)
  | accept (q : Queue) (wareHouseInfo : WareHouseInfo)
      (Result : WarehouseActionResult)
  | removeAccount (wsAccountName wsPlayerName : WString)

def apply (T : MyTools) (A : CBnsArea) (ulNow : ULONGLONG) :
    Call -> CBnsTrade -> CBnsTrade
  | .join q verItemSupport Result, s =>
      (join T A ulNow q verItemSupport Result s).2
  | .accept q wareHouseInfo Result, s =>
      (accept T A ulNow q wareHouseInfo Result s).2
  | .removeAccount wsAccountName wsPlayerName, s =>
      removeAccount T wsAccountName wsPlayerName s

def machine (T : MyTools) (A : CBnsArea) :
    Machine (Clocked CBnsTrade) (ULONGLONG × Call) :=
  Machine.clocked (apply T A)

instance machine_decidable (T : MyTools) (A : CBnsArea) (l : ULONGLONG × Call)
    (s : Clocked CBnsTrade) : Decidable ((machine T A).enabled l s) :=
  inferInstanceAs (Decidable (s.now ≤ l.1))

def Reachable (T : MyTools) (A : CBnsArea) (s : Clocked CBnsTrade) : Prop :=
  (machine T A).Reaches { now := 0, state := {} } s

end CBnsTrade
end BnsKorea
