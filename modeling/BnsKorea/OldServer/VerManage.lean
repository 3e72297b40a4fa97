import BnsKorea.Library.Numerals
import BnsKorea.OldServer.BnsDeal

/-!
# Cards and tokens of the old server

A card has one token.  Who logs in with the card's number draws a new one, and
every later request is let through only if the connection's token is the card's.
A card that was read from the database has the token zero, which the next
request replaces by its own.  The calls into the log are left out.
-/

namespace BnsKorea
namespace OldServer

open Library

/-!
## Data
-/

def SOCKET_MESSAGE_MESSAGEBOX : DWORD := 0x1
def SOCK_MSG_QUERY_CARDINFO : DWORD := 0x2
def SOCK_MSG_KEEPALIVE : DWORD := 0x3
def SOCK_MSG_LOGINGAME : DWORD := 0x9
def SOCK_MSG_CLIENT_BANNED : DWORD := 0x19

structure CardInfo where
  wstrCardNo : WString := []
  dwCardCrc : DWORD := 0
  nMaxHour : INT := 0
  nSurplusHour : INT := 0
  wstrActiveTime : WString := []
  dwToken : DWORD := 0
  wstrIp : WString := []
  dwTick64 : ULONGLONG := 0
  ulKeepALiveTick : ULONGLONG := 0
deriving DecidableEq

structure KeepALiveContent where
  level : BYTE := 0
  gold : DWORD := 0
  wsContent : WString := []
deriving DecidableEq

structure ClientAccountContent where
  wsVersion : WString := []
  wsAccountName : WString := L "Empty"
  wsAccountPass : WString := L "Empty"
  wsPlayerName : WString := L "Empty"
  wsIp : WString := L "Empty"
  wsCardNo : WString := L "Empty"
  dwToken : DWORD := 0
  dwCardCrc : DWORD := 0
  keepALiveContent : KeepALiveContent := {}
deriving DecidableEq

/-- A row of the card table, as it is in the buffers. -/
structure TmpCard where
  wszCardNo : WString
  wszSurplusHour : WString
  wszActiveDate : WString

/-- What the server uses of code that is not part of the repository. -/
structure VerTools where
  tools : MyTools
  getCRC32_DWORD : WString -> DWORD
  /-- `CardInfo::GetSurplusHour` at a time. -/
  getSurplusHour : ULONGLONG -> CardInfo -> INT
  /-- `wstrstr_my`: whether a text contains another. -/
  wstrstrMy : WString -> WString -> Bool
  wstrstrMy_iff : forall ws1 ws2, wstrstrMy ws1 ws2 = true ↔ ws2 <:+: ws1
  /-- `wstrcmp_my`: whether two texts are the same. -/
  wstrcmpMy : WString -> WString -> Bool
  wstrcmpMy_eq : forall ws1 ws2, wstrcmpMy ws1 ws2 = decide (ws1 = ws2)

/-- What the work on one request draws from outside: each statement is numbered. -/
structure Outside where
  ulNow : ULONGLONG
  dwRand : DWORD
  /-- The text that the database answers a statement with, or a failure. -/
  excuteSQL : Nat -> WString -> Option WString
  /-- The row that `Proc_GetCard` fetches. -/
  getCard : Nat -> WString -> Option TmpCard
  /-- The value of the one-time password, empty if it came too late. -/
  calcOPTValue : WString -> WString -> WString

namespace CVerManage

variable (V : VerTools) (E : Outside)

def cardOf (ulNow : ULONGLONG) (tmpCard_ : TmpCard) : CardInfo where
  wstrCardNo := tmpCard_.wszCardNo
  dwCardCrc := V.getCRC32_DWORD tmpCard_.wszCardNo
  nMaxHour := Numerals.atoi (tmpCard_.wszCardNo.take 4)
  nSurplusHour := Numerals.atoi tmpCard_.wszSurplusHour
  wstrActiveTime := tmpCard_.wszActiveDate
  dwToken := 0
  wstrIp := L "0.0.0.0"
  dwTick64 := ulNow
  ulKeepALiveTick := ulNow

/-- `GetCardList`; there are no rows where the database failed. -/
def getCardList (ulNow : ULONGLONG) (rows : List TmpCard) : List CardInfo :=
  (rows.filter fun tmpCard_ => !tmpCard_.wszCardNo.isEmpty).map (cardOf V ulNow)

def refushCard (tmpList vlst : List CardInfo) : List CardInfo :=
  tmpList.map fun itm =>
    match V.tools.dequeFindIf vlst fun Card => Card.wstrCardNo == itm.wstrCardNo with
    | some p => p.here
    | none => itm

def messageBox (wsText : WString) : List Put :=
  [.dword SOCKET_MESSAGE_MESSAGEBOX, .text wsText]

def findCard (dwCardCrc : DWORD) (CardList : List CardInfo) : Option (Place CardInfo) :=
  V.tools.dequeFindIf CardList fun Card => dwCardCrc == Card.dwCardCrc

/-!
## Queries
-/

def isExistCard (dwCardCrc : DWORD) (CardList : List CardInfo) : Option CardInfo :=
  (findCard V dwCardCrc CardList).map Place.here

/-- `%08X`. -/
def cardCrcText (dwCardCrc : DWORD) : WString :=
  Numerals.padded 16 8 dwCardCrc.toNat

def tryActiveCard (n : Nat) (dwCardCrc : DWORD) (wstrIp : WString) :
    Option CardInfo := do
  let wszText <- E.excuteSQL n
    (L "exec Proc_RechargeCard '" ++ cardCrcText dwCardCrc ++ L "','" ++ cStr wstrIp ++
      L "'")
  guard (V.wstrstrMy wszText (L "充值成功"))
  let tmpCard_ <-
    E.getCard n (L "exec Proc_GetCard '" ++ cardCrcText dwCardCrc ++ L "'")
  guard (tmpCard_.wszCardNo ≠ [])
  guard (0 < V.getSurplusHour E.ulNow (cardOf V E.ulNow tmpCard_))
  return cardOf V E.ulNow tmpCard_

def existPuts (Card : CardInfo) : List Put :=
  [.dword Card.dwCardCrc, .dword 1, .dword Card.nMaxHour.toUInt32,
    .dword (V.getSurplusHour E.ulNow Card).toUInt32, .text Card.wstrActiveTime]

/--
One turn of the loop over the cards: what is written and what is put into the
list.  A card that is activated now is still written as one that does not exist.
-/
def queryTurn (wsIp : WString) (n : Nat) (dwCardCrc : DWORD) :
    Option CardInfo -> List Put × List CardInfo
  | some Card => (existPuts V E Card, [])
  | none =>
      match tryActiveCard V E n dwCardCrc wsIp with
      | some Card => ([.dword Card.dwCardCrc, .dword 0], [Card])
      | none => ([.dword dwCardCrc, .dword 0], [])

def queryClientCard (VecCardCrc : List DWORD) (wsIp : WString)
    (CardList : List CardInfo) : List Put × List CardInfo :=
  let turns := VecCardCrc.mapIdx fun n dwCardCrc =>
    queryTurn V E wsIp n dwCardCrc (isExistCard V dwCardCrc CardList)
  (.dword SOCK_MSG_QUERY_CARDINFO :: .dword (UInt32.ofNat VecCardCrc.length) ::
      turns.flatMap Prod.fst,
    CardList ++ turns.flatMap Prod.snd)

/-!
## Logging in
-/

def tokenCard (Card : CardInfo) : CardInfo :=
  { Card with
    dwToken := E.dwRand
    ulKeepALiveTick := E.ulNow }

/-- `IsInvalidAccount` refuses nobody. -/
def setToken (wsBnsVersion : WString) (AccountContent : ClientAccountContent)
    (CardList : List CardInfo) :
    List Put × ClientAccountContent × List CardInfo :=
  if AccountContent.wsCardNo = L "Empty" ∨ AccountContent.wsCardNo = [] then
    ([.dword SOCKET_MESSAGE_MESSAGEBOX, .ansi (L "卡号呢?")], AccountContent, CardList)
  else if AccountContent.wsVersion ≠ wsBnsVersion then
    (messageBox (L "无服务!"), AccountContent, CardList)
  else
    -- the connection keeps the checksum even if the card is refused below
    let AccountContent :=
      { AccountContent with
        dwCardCrc := V.getCRC32_DWORD (cStr AccountContent.wsCardNo) }
    match findCard V AccountContent.dwCardCrc CardList with
    | none => (messageBox (L "找不到这张卡号!"), AccountContent, CardList)
    | some p =>
        if V.getSurplusHour E.ulNow p.here ≤ 0 then
          (messageBox (L "卡号时间不足!"), AccountContent, CardList)
        else
          ([.dword SOCK_MSG_LOGINGAME], { AccountContent with dwToken := E.dwRand },
            p.put (tokenCard E p.here))

/-!
## Being let through
-/

def isALive (ClientAccount : ClientAccountContent) (CardList : List CardInfo) :
    Bool × List Put × List CardInfo :=
  match findCard V ClientAccount.dwCardCrc CardList with
  | none => (false, messageBox (L "找不到这张卡号!"), CardList)
  | some p =>
      if V.getSurplusHour E.ulNow p.here ≤ 0 then
        (false, messageBox (L "卡号时间不足!"), CardList)
      else if p.here.dwToken = 0 then
        (true, [], p.put { p.here with dwToken := ClientAccount.dwToken })
      else if p.here.dwToken ≠ ClientAccount.dwToken then
        (false, messageBox (L "卡号Token不对!"), CardList)
      else (true, [], CardList)

def keepALiveCard (KeepALiveContent_ : KeepALiveContent)
    (ClientAccount : ClientAccountContent) (CardList : List CardInfo) :
    List Put × ClientAccountContent × List CardInfo :=
  let keeps (p : Place CardInfo) (dwToken : DWORD) :
      List Put × ClientAccountContent × List CardInfo :=
    ([], { ClientAccount with keepALiveContent := KeepALiveContent_ },
      p.put { p.here with
        dwToken := dwToken
        ulKeepALiveTick := E.ulNow })
  match findCard V ClientAccount.dwCardCrc CardList with
  | none => (messageBox (L "这张卡号不存在!"), ClientAccount, CardList)
  | some p =>
      -- the hours of a card without a token are not looked at
      if p.here.dwToken = 0 then keeps p ClientAccount.dwToken
      else if p.here.dwToken ≠ ClientAccount.dwToken then
        (messageBox (L "兄台, 你被挤号了! 敌方IP是:" ++ ClientAccount.wsIp),
          ClientAccount, CardList)
      else if V.getSurplusHour E.ulNow p.here ≤ 0 then
        (messageBox (L "卡号时间不足!"), ClientAccount, CardList)
      else keeps p p.here.dwToken

def keepALive (bBanned : Bool) (KeepALiveContent_ : KeepALiveContent)
    (ClientAccount : ClientAccountContent) (CardList : List CardInfo) :
    List Put × ClientAccountContent × List CardInfo :=
  if ClientAccount.dwCardCrc = 0 then
    ([.dword SOCKET_MESSAGE_MESSAGEBOX,
        .ansi (L "你连卡号都不给我? 直接X掉没法解释了!")], ClientAccount, CardList)
  else
    let done := keepALiveCard V E KeepALiveContent_ ClientAccount CardList
    (done.1 ++ [.dword SOCK_MSG_KEEPALIVE,
      .dword (if bBanned then SOCK_MSG_CLIENT_BANNED else 0)], done.2)

end CVerManage

end OldServer
end BnsKorea
