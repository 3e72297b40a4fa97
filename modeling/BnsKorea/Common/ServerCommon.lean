import Mathlib.Data.List.Sort

/-!
# Data shared by the server and its clients

The records of the server's common header that the modelled components read.
Wide strings are lists of 16-bit code units, ordered as the containers of the
server order them, and machine integers keep their width.
-/

namespace BnsKorea

abbrev BYTE := UInt8
abbrev DWORD := UInt32
abbrev UINT := UInt32
abbrev ULONGLONG := UInt64
abbrev INT := Int32
abbrev LONG := Int32
abbrev LONGLONG := Int64
abbrev SOCKET := UInt32

/-- A wide string: 16-bit code units, compared lexicographically. -/
abbrev WString := List UInt16

instance : LawfulBEq WString :=
  inferInstance

/-- A wide literal; characters outside the basic plane are surrogate pairs. -/
def L (s : String) : WString :=
  s.toList.flatMap fun c =>
    if c.toNat < 0x10000 then [UInt16.ofNat c.toNat]
    else
      [UInt16.ofNat (0xD800 + (c.toNat - 0x10000) / 0x400),
        UInt16.ofNat (0xDC00 + (c.toNat - 0x10000) % 0x400)]

/-- What `c_str()` hands on: the text up to the first zero unit. -/
def cStr (ws : WString) : WString :=
  ws.takeWhile (· ≠ 0)

/-!
## Messages
-/

/-- What a message is about; every 32-bit value may come from the wire. -/
abbrev SockMsg := DWORD

namespace SockMsg

def errorText : SockMsg := 0x0
def queryCardInfo : SockMsg := 0x2
def keepALive : SockMsg := 0x3
def queryScriptKey : SockMsg := 0x4
def title : SockMsg := 0x6
def loginGame : SockMsg := 0x9
def joinTeamOrder : SockMsg := 0xB
def leaveTeamOrder : SockMsg := 0xC
def dissolutionTeam : SockMsg := 0xE
def clientItemSupport : SockMsg := 0xF
def clientWarehouseMainTask : SockMsg := 0x10
def clientWarehousePickItem : SockMsg := 0x11
def clientPickItem : SockMsg := 0x12
def clientDealMessage : SockMsg := 0x15
def rechargeCard : SockMsg := 0x17
def clientLoginedLog : SockMsg := 0x18
def clientBanned : SockMsg := 0x19
def joinDungoenTeam : SockMsg := 0x1A
def dissolutionDungoenTeam : SockMsg := 0x1B
def getChannel : SockMsg := 0x1C
def setConfigValue : SockMsg := 0x1D
def getConfigValue : SockMsg := 0x1E
def updateTeamSchedule : SockMsg := 0x1F
def getTeamSchedule : SockMsg := 0x20
def consoleKeepALive : SockMsg := 0x21
def setTeamReadonly : SockMsg := 0x22
def saveLocalAccountLog : SockMsg := 0x23
def otp : SockMsg := 0x24
def queryDailyTaskSchedule : SockMsg := 0x25
def updateDailyTaskSchedule : SockMsg := 0x26
def crossAreaTeam : SockMsg := 0x27
def deleteCrossAreaTeam : SockMsg := 0x28
def setCrossAreaTeamContent : SockMsg := 0x29
def queryAccountVirtualSeriaNumber : SockMsg := 0x2A

end SockMsg

/-!
## Accounts and cards
-/

structure KeepALiveContent where
  level : BYTE := 0
  gold : DWORD := 0
  dwTaskId : DWORD := 0
  dwScheduleId : DWORD := 0
  wsContent : WString := []

structure ClientAccountContent where
  wsVersion : WString := []
  wsAccountName : WString := L "Empty"
  wsAccountPass : WString := L "Empty"
  wsPlayerName : WString := L "Empty"
  wsIp : WString := L "Empty"
  wsCardNo : WString := L "Empty"
  dwToken : DWORD := 0
  dwCardCrc : DWORD := 0
  ulKeepALiveTick : ULONGLONG := 0

structure CardInfo where
  wsCardNo : WString := []
  dwCardCrc : DWORD := 0
  nMaxHour : INT := 0
  nSurplusHour : INT := 0
  wsActiveTime : WString := []
  dwToken : DWORD := 0
  bExit : Bool := false
  wsIp : WString := L "127.0.0.1"
  wsAccountName : WString := []
  wsPlayerName : WString := []
  dwTick64 : ULONGLONG := 0
  ulKeepALiveTick : ULONGLONG := 0
deriving DecidableEq

def CardInfo.getSurplusHour (ulNow : ULONGLONG) (Card : CardInfo) : INT :=
  let nHour := Card.nSurplusHour -
    ((ulNow - Card.dwTick64) / 1000 / 60 / 60).toUInt32.toInt32
  if nHour ≤ 0 then 0 else nHour

/-- The enumeration of log types is filled from the wire by a cast. -/
structure ClientAccountLog where
  wsContentText : WString
  emType : DWORD

structure SocketAccountVirtualSeriaNumber where
  wsAccountName : WString
  wsMacAddr : WString
  wsNetCard : WString
  wsHardDiskSeriaNumber : WString

structure CipherScriptText where
  wsScriptName : WString
  pScriptBuffer : List BYTE
  uExpressSize : UINT := 0
  uCipherTextSize : UINT := 0
  dwExpressTextCrc : DWORD := 0
  dwCipherTextCrc : DWORD := 0

/-!
## Task and dungeon teams
-/

structure ClientTeamMember where
  wsAccountName : WString := []
  wsPlayerName : WString := []
  dwPlayerId : DWORD := 0
deriving DecidableEq

structure ClientTeamInfo where
  selfCti : ClientTeamMember := {}
  dwTaskId : DWORD := 0
  dwScheduleId : DWORD := 0
  dwServerId : DWORD := 0
  dwChannelId : DWORD := 0
  dwMaxMember : DWORD := 0
  wsGroupTitle : WString := []
  vTeamMember : List ClientTeamMember := []

structure TeamChannelMsg where
  dwServerId : DWORD := 0
  dwChannel : DWORD := 0
  dwTaskId : DWORD := 0
  dwScheduleId : DWORD := 0
  dwMaxChannel : DWORD := 0

structure TeamScheduleMsg where
  dwTeamId : DWORD
  wsAccountName : WString
  wsScheduleName : WString
  uScheduleIndex : DWORD

structure BnsDungoenScheduleMember where
  wsAccountName : WString := []
  wsPlayerName : WString := []
  dwPlayerId : DWORD
  wsDungoenSchedule : WString
  uGatherIndex : DWORD
  dwTaskId : DWORD
  dwScheduleId : DWORD

/-!
## Cross-area teams
-/

/--
The player classes.  The enumeration has a byte underneath and is filled from
the wire by a cast, so every byte is a possible value.
-/
abbrev TeamMeberClasses := BYTE

namespace TeamMeberClasses

def any : TeamMeberClasses := 0x0
def bladeMaster : TeamMeberClasses := 0x1
def kongFuMaster : TeamMeberClasses := 0x2
def forceMaster : TeamMeberClasses := 0x3
def gunner : TeamMeberClasses := 0x4
def destroyer : TeamMeberClasses := 0x5
def summoner : TeamMeberClasses := 0x6
def assassin : TeamMeberClasses := 0x7
def danncer : TeamMeberClasses := 0x8
def warlock : TeamMeberClasses := 0x9
def kongFuForceMaster : TeamMeberClasses := 0xA

end TeamMeberClasses

structure CrossAreaTeamMember where
  info : ClientTeamMember := {}
  setDungoenName : Std.TreeSet WString := ∅
  wsGroupTitle : WString := []
  emClasses : TeamMeberClasses
  ulTick : ULONGLONG := 0
  ulStartTick : ULONGLONG := 0
  dwRoomId : DWORD := 0

/-- The account name is what identifies a player in the server's tables. -/
abbrev CrossAreaTeamMember.account (Member : CrossAreaTeamMember) : WString :=
  Member.info.wsAccountName

/-- `operator ==` of members compares account names only. -/
def CrossAreaTeamMember.sameAccount (a b : CrossAreaTeamMember) : Bool :=
  a.account == b.account

/-- `none` in the last two fields: the server never assigns them. -/
structure CrossAreaTeamGroup where
  captain : CrossAreaTeamMember
  vecMember : List CrossAreaTeamMember
  dwTeamId : DWORD
  wsDungeonName : WString
  dwDungeonMapIndex : Option DWORD := none
  emDifficulty : Option DWORD := none

def CrossAreaTeamGroup.players (g : CrossAreaTeamGroup) :
    List CrossAreaTeamMember :=
  g.captain :: g.vecMember

def CrossAreaTeamGroup.accounts (g : CrossAreaTeamGroup) : List WString :=
  g.players.map CrossAreaTeamMember.account

/-!
## Trades
-/

structure WareHouseInfo where
  wsWareHouseName : WString
  dwChannel : DWORD := 0
  dwServerId : DWORD := 0
  ulTick : ULONGLONG

inductive DealWarehouseStatus where
  | none
  | channel
deriving DecidableEq

inductive TradeWarehouseType where
  | itemSupport
  | pickItem
deriving DecidableEq

inductive DealWarehouseIsPick where
  | none
  | pick
  | backToSwitchPlayer
deriving DecidableEq

structure VerItemSupport where
  dwChannel : DWORD := 0
  dwServerId : DWORD := 0
  wsPlayerName : WString
  wsAccountName : WString
  vWareHouse : List WString := []

structure ItemSupportResult where
  wsWareHouseName : WString := []
  dwChannel : DWORD := 0
  emDealStatus : DealWarehouseStatus := .none
deriving DecidableEq

structure TradeItem where
  wsItemName : WString
  dwCount : DWORD

structure TradeContent where
  wsWareHouseName : WString
  dwTradeMoney : DWORD
  vecTradeItem : List TradeItem

/-- The callers leave the two enumerations of a fresh result unset. -/
structure WarehouseActionResult where
  emWarehouseType : TradeWarehouseType
  emIsPick : DealWarehouseIsPick
  wsPlayerName : WString := []
deriving DecidableEq

/-!
## Cloud configuration
-/

structure ConfigContent where
  wsConfigName : WString := []
  wsConfigValue : WString := []
deriving DecidableEq

structure ClientConfigContent where
  wsAccountName : WString := []
  wsPlayerName : WString := []
  configContent : ConfigContent := {}
deriving DecidableEq

end BnsKorea
