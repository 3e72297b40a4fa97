import BnsKorea.Server.Answer
import BnsKorea.Server.Services

/-!
# The handlers of the server's messages

A handler takes the fields of the message out of the buffer, lets the services
work, and leaves its answer in the buffer.  The first part reads a `Content`, the
others turn it into the buffer that is left; a handler that does not clear the
buffer leaves what it did not take.  What is only written to the database is not
modelled.
-/

namespace BnsKorea
namespace Server

open Library SocketValue

namespace CEchoPacket

/-!
## What the handlers take
-/

/-- The fields of a message, by the handler that takes them. -/
inductive Content where
  | queryCard (VecCardCrc : List DWORD)
  | keepALive (Content : Option KeepALiveContent)
  | downloadScript (wsScriptName : WString)
  | gameLogin (fVersion : UInt32) (wsAccountName wsAccountPass wsCardNo : WString)
  | announcement
  | joinTeam_MainLine (CtiTeam : Option ClientTeamInfo)
  | leaveTeam_MainLine
  | joinTeam_Gungoen (CtiTeam : Option ClientTeamInfo)
  | leaveTeam_Gungoen
  | itemSupport_GameAccount (dwServerId dwChannel : DWORD)
      (vWareHouse : List WString)
  | pickItem_GameAccount (dwServerId dwChannel : DWORD)
      (vWareHouse : List WString)
  | itemSupport_Warehouse (wsWareHouseName : WString)
      (dwChannel dwServerId : DWORD)
  | pickItem_Warehouse (wsWareHouseName : WString) (dwChannel dwServerId : DWORD)
  | setGungoenSchedule (dwTeamId : DWORD) (wsScheduleName : WString)
      (uScheduleIndex : DWORD)
  | getGungoenSchedule (dwTeamId : DWORD)
  | setTeamReadonly (dwTeamId : DWORD)
  | saveTradeData (Content : TradeContent)
  | saveLoginData (wsPlayerName : WString)
  | banned
  | getLessPersonChannel (Msg : TeamChannelMsg)
  | getCouldConfigValue (wsPlayerName wsConfigName : WString)
  | setCouldConfigValue (Content : ConfigContent)
  | consoleKeepALive
  | saveAccountLogData (AccountLog : ClientAccountLog)
  | calculateOTP
  | getDailyTaskSchedule
  | setDailyTaskSchedule (wsDailyTaskName : WString)
  | joinCrossAreaTeam (dwTeamId : DWORD)
  | setCrossAreaTeamContent (dwPlayerId dwRoomId : DWORD)
      (wsGroupTitle : WString) (emClasses : TeamMeberClasses)
      (VecDungeonName : List WString)
  | leaveCrossAreaTeam (dwTeamId : DWORD)
  | queryAccountVirtualSeriaNumber (VecAccount : List WString)

/-- `i < dwCount && i <= 100`: a card more than the other lists would take. -/
def extractQueryCard : Read Content :=
  Content.queryCard <$> do
    let dwCount <- getDword
    Reader.many getDword (min dwCount.toNat 101)

def extractKeepALive : Read Content :=
  Content.keepALive <$> do
    let bEmpty <- getDword
    if bEmpty ≠ 0 then
      let Level <- getByte
      let Gold <- getDword
      let dwTaskId <- getDword
      let dwScheduleId <- getDword
      let wsContent <- getText
      pure (some {
        level := Level
        gold := Gold
        dwTaskId := dwTaskId
        dwScheduleId := dwScheduleId
        wsContent := wsContent })
    else pure none

def extractDownloadScript : Read Content :=
  Content.downloadScript <$> getText

def extractGameLogin : Read Content := do
  let fVersion <- getFloat
  let wsAccountName <- getText
  let wsAccountPass <- getText
  let wsCardNo <- getText
  pure (.gameLogin fVersion wsAccountName wsAccountPass wsCardNo)

def extractTeamMember : Read ClientTeamMember := do
  let wsPlayerName <- getText
  let dwPlayerId <- getDword
  pure { wsPlayerName := wsPlayerName, dwPlayerId := dwPlayerId }

/-- What `ExtractTeamPacket` assigns, and the members it appends. -/
def extractTeamPacket : Read ClientTeamInfo := do
  let dwServerId <- getDword
  let dwTaskId <- getDword
  let dwScheduleId <- getDword
  let dwChannelId <- getDword
  let dwMaxMember <- getDword
  let dwPlayerId <- getDword
  let wsGroupTitle <- getText
  let dwCount <- getDword
  let vTeamMember <- Reader.many extractTeamMember (min dwCount.toNat 10)
  pure {
    selfCti := { dwPlayerId := dwPlayerId }
    dwTaskId := dwTaskId
    dwScheduleId := dwScheduleId
    dwServerId := dwServerId
    dwChannelId := dwChannelId
    dwMaxMember := dwMaxMember
    wsGroupTitle := wsGroupTitle
    vTeamMember := vTeamMember }

def extractJoinTeam : Read (Option ClientTeamInfo) := do
  let bExistData <- getBool
  if bExistData then some <$> extractTeamPacket else pure none

def extractJoinTeam_MainLine : Read Content :=
  Content.joinTeam_MainLine <$> extractJoinTeam

def extractJoinTeam_Gungoen : Read Content :=
  Content.joinTeam_Gungoen <$> extractJoinTeam

def extractClientTradePacket
    (content : DWORD -> DWORD -> List WString -> Content) : Read Content := do
  let dwServerId <- getDword
  let dwChannel <- getDword
  let dwCount <- getDword
  let vWareHouse <- Reader.many getText (min dwCount.toNat 20)
  pure (content dwServerId dwChannel vWareHouse)

def extractWarehouse (content : WString -> DWORD -> DWORD -> Content) :
    Read Content := do
  let wsWareHouseName <- getText
  let dwChannel <- getDword
  let dwServerId <- getDword
  pure (content wsWareHouseName dwChannel dwServerId)

def extractGetGungoenSchedule : Read Content :=
  Content.getGungoenSchedule <$> getDword

def extractSetTeamReadonly : Read Content :=
  Content.setTeamReadonly <$> getDword

def extractSaveLoginData : Read Content :=
  Content.saveLoginData <$> getText

def extractSetDailyTaskSchedule : Read Content :=
  Content.setDailyTaskSchedule <$> getText

def extractJoinCrossAreaTeam : Read Content :=
  Content.joinCrossAreaTeam <$> getDword

def extractLeaveCrossAreaTeam : Read Content :=
  Content.leaveCrossAreaTeam <$> getDword

def extractSetGungoenSchedule : Read Content := do
  let dwTeamId <- getDword
  let wsScheduleName <- getText
  let uScheduleIndex <- getDword
  pure (.setGungoenSchedule dwTeamId wsScheduleName uScheduleIndex)

def extractTradeItem : Read TradeItem := do
  let wsItemName <- getText
  let dwCount <- getDword
  pure { wsItemName := wsItemName, dwCount := dwCount }

def extractSaveTradeData : Read Content :=
  Content.saveTradeData <$> do
    let wsWareHouseName <- getText
    let dwTradeMoney <- getDword
    let dwCount <- getDword
    let VecTradeItem <- Reader.many extractTradeItem (min dwCount.toNat 100)
    pure {
      wsWareHouseName := wsWareHouseName
      dwTradeMoney := dwTradeMoney
      vecTradeItem := VecTradeItem }

def extractGetLessPersonChannel : Read Content :=
  Content.getLessPersonChannel <$> do
    let dwServerId <- getDword
    let dwChannel <- getDword
    let dwMaxChannel <- getDword
    let dwTaskId <- getDword
    let dwScheduleId <- getDword
    pure {
      dwServerId := dwServerId
      dwChannel := dwChannel
      dwTaskId := dwTaskId
      dwScheduleId := dwScheduleId
      dwMaxChannel := dwMaxChannel }

def extractGetCouldConfigValue : Read Content := do
  let wsPlayerName <- getText
  let wsConfigName <- getText
  pure (.getCouldConfigValue wsPlayerName wsConfigName)

def extractSetCouldConfigValue : Read Content :=
  Content.setCouldConfigValue <$> do
    let wsConfigName <- getText
    let wsConfigValue <- getText
    pure { wsConfigName := wsConfigName, wsConfigValue := wsConfigValue }

def extractSaveAccountLogData : Read Content :=
  Content.saveAccountLogData <$> do
    let emType <- getDword
    let wsContentText <- getText
    pure { wsContentText := wsContentText, emType := emType }

/-- The only list without a bound of the handler's. -/
def extractSetCrossAreaTeamContent : Read Content := do
  let dwPlayerId <- getDword
  let dwRoomId <- getDword
  let wsGroupTitle <- getText
  let emClasses <- getByte
  let uLength <- getDword
  let VecDungeonName <- Reader.many getText uLength.toNat
  pure (.setCrossAreaTeamContent dwPlayerId dwRoomId wsGroupTitle emClasses
    VecDungeonName)

def extractQueryAccountVirtualSeriaNumber : Read Content :=
  Content.queryAccountVirtualSeriaNumber <$> do
    let uCount <- getDword
    Reader.many getText (min uCount.toNat 100)

/-!
## What the handlers do
-/

section

variable (P : Platform) (O : Outside) (ulNow : ULONGLONG)

/-- What a handler does to the connection and to the services. -/
abbrev Handled := Reply × CGameClient × Services

def answered (head : SockMsg) (fields : Answer) (GameClient : CGameClient)
    (s : Services) : Handled :=
  (.answer (some head) fields, GameClient, s)

/-- The buffer is cleared and nothing is written to it. -/
def cleared (GameClient : CGameClient) (s : Services) : Handled :=
  (.unwritten [], GameClient, s)

def queryCardTurn (Account : ClientAccountContent)
    (r : List (Option CardAnswer) × CCardExtend) (itm : DWORD) :
    List (Option CardAnswer) × CCardExtend :=
  let found :=
    match r.2.findCard_By_CRC itm with
    | some Card => (some Card, r.2)
    | none => r.2.tryActiveCard (O.activeCard Account) itm
  (r.1 ++ [found.1.map fun Card =>
      { nMaxHour := Card.nMaxHour
        nSurplusHour := Card.getSurplusHour ulNow
        wsActiveTime := Card.wsActiveTime }], found.2)

def queryCard (VecCardCrc : List DWORD) (GameClient : CGameClient)
    (s : Services) : Handled :=
  let queried :=
    VecCardCrc.foldl (queryCardTurn O ulNow GameClient.account) ([], s.cards)
  answered SockMsg.queryCardInfo (.cards queried.1) GameClient
    { s with cards := queried.2 }

/-- The content is taken and dropped; `_bBanned` is never set. -/
def keepALive (GameClient : CGameClient) (s : Services) : Handled :=
  answered SockMsg.keepALive (.keepALive 0)
    { GameClient with
      account := { GameClient.account with ulKeepALiveTick := ulNow } }
    { s with
      cards := s.cards.setCardContent GameClient.account.dwCardCrc
        (fun Card => { Card with ulKeepALiveTick := ulNow }) fun _ => rfl }

def downloadScript (wsScriptName : WString) (GameClient : CGameClient)
    (s : Services) : Handled :=
  let wsScriptName :=
    if wsScriptName.tails.any (L ".inf").isPrefixOf then wsScriptName
    else wsScriptName ++ L ".inf"
  match O.findScriptText_By_ScriptName wsScriptName with
  | none =>
      (.error (P.character.makeFormatText (L "脚本:%s 并没有存在服务器上!")
        [cStr wsScriptName]), GameClient, s)
  | some ScriptContent =>
      answered SockMsg.queryScriptKey
        (.script {
          wsScriptName := ScriptContent.wsScriptName
          uExpressSize := ScriptContent.uExpressSize
          uCipherTextSize := ScriptContent.uCipherTextSize
          dwExpressTextCrc := ScriptContent.dwExpressTextCrc
          dwCipherTextCrc := ScriptContent.dwCipherTextCrc
          wsAccountName := GameClient.account.wsAccountName
          content := ScriptContent.pScriptBuffer.take
            ScriptContent.uCipherTextSize.toNat })
        GameClient s

def gameLogin (fVersion : UInt32) (wsAccountName wsAccountPass wsCardNo : WString)
    (GameClient : CGameClient) (s : Services) : Handled :=
  let Account := { GameClient.account with
    wsVersion := P.to_wstring fVersion
    wsAccountName := wsAccountName
    wsAccountPass := wsAccountPass
    wsCardNo := wsCardNo }
  let dwCardCrc := P.getCRC32_DWORD (cStr wsCardNo)
  match s.cards.findCard_By_CRC dwCardCrc with
  | none =>
      (.error (P.character.makeFormatText (L "此卡号:%s 不存在!")
        [cStr wsCardNo]), { GameClient with account := Account }, s)
  | some Card =>
      cleared
        { GameClient with
          account := { Account with
            dwToken := O.getRand_For_DWORD
            dwCardCrc := Card.dwCardCrc } }
        { s with
          cards := s.cards.setCardContent dwCardCrc
            (fun Card =>
              { Card with
                dwToken := O.getRand_For_DWORD
                ulKeepALiveTick := ulNow
                wsAccountName := Account.wsAccountName
                wsIp := Account.wsIp
                bExit := true })
            fun _ => rfl }

def announcement (GameClient : CGameClient) (s : Services) : Handled :=
  answered SockMsg.title (.text (O.getClientTitle GameClient.account.wsIp))
    GameClient s

def updateTeamContent (CtiTeam : Option ClientTeamInfo)
    (GameClient : CGameClient) : CGameClient :=
  match CtiTeam with
  | none => GameClient
  | some Cti =>
      { GameClient with
        teamContent := { Cti with
          selfCti := {
            wsAccountName := GameClient.account.wsAccountName
            wsPlayerName := GameClient.account.wsPlayerName
            dwPlayerId := Cti.selfCti.dwPlayerId }
          vTeamMember := GameClient.teamContent.vTeamMember ++
            Cti.vTeamMember } }

def joinTeam_MainLine (CtiTeam : Option ClientTeamInfo)
    (GameClient : CGameClient) (s : Services) : Handled :=
  let GameClient := updateTeamContent CtiTeam GameClient
  let joined :=
    (CBnsTaskTeam.joinTaskTeam P.tools GameClient.teamContent {} s.taskTeam).2
  answered SockMsg.joinTeamOrder (.team joined.2) GameClient
    { s with taskTeam := joined.1 }

def leaveTeam_MainLine (GameClient : CGameClient) (s : Services) : Handled :=
  cleared GameClient
    { s with
      taskTeam := CBnsTaskTeam.deleteTaskMember P.tools
        GameClient.account.wsAccountName s.taskTeam }

def joinTeam_Gungoen (CtiTeam : Option ClientTeamInfo)
    (GameClient : CGameClient) (s : Services) : Handled :=
  let GameClient := updateTeamContent CtiTeam GameClient
  let joined := (CBnsTaskTeam.joinDungoenTeam P.tools GameClient.teamContent {}
    s.taskTeam).2
  answered SockMsg.joinDungoenTeam (.team joined.2) GameClient
    { s with taskTeam := joined.1 }

def leaveTeam_Gungoen (GameClient : CGameClient) (s : Services) : Handled :=
  cleared GameClient
    { s with
      taskTeam := CBnsTaskTeam.deleteDungoenTeamMember P.tools
        GameClient.account.wsAccountName s.taskTeam }

def verItemSupport (dwServerId dwChannel : DWORD) (vWareHouse : List WString)
    (GameClient : CGameClient) : VerItemSupport where
  dwChannel := dwChannel
  dwServerId := dwServerId
  wsPlayerName := GameClient.account.wsPlayerName
  wsAccountName := GameClient.account.wsAccountName
  vWareHouse := vWareHouse

/-- `emDealStatus == None ? 0 : 1`, and the warehouse with its channel. -/
def itemSupportAnswer (Result : ItemSupportResult) : Answer :=
  match Result.emDealStatus with
  | .none => .itemSupport none
  | .channel => .itemSupport (some (Result.wsWareHouseName, Result.dwChannel))

def itemSupport_GameAccount (dwServerId dwChannel : DWORD)
    (vWareHouse : List WString) (GameClient : CGameClient) (s : Services) :
    Handled :=
  let joined := CBnsTrade.joinItemSupportDeal P.tools P.area ulNow
    (verItemSupport dwServerId dwChannel vWareHouse GameClient) {} s.trade
  answered SockMsg.clientItemSupport (itemSupportAnswer joined.1) GameClient
    { s with trade := joined.2 }

def pickItem_GameAccount (dwServerId dwChannel : DWORD)
    (vWareHouse : List WString) (GameClient : CGameClient) (s : Services) :
    Handled :=
  let joined := CBnsTrade.joinPickItemtDeal P.tools P.area ulNow
    (verItemSupport dwServerId dwChannel vWareHouse GameClient) {} s.trade
  answered SockMsg.clientPickItem (itemSupportAnswer joined.1) GameClient
    { s with trade := joined.2 }

/-- A newly declared result; its enumerations are unset. -/
def unsetResult : WarehouseActionResult where
  emWarehouseType := .itemSupport
  emIsPick := .none

def warehouseAnswer (Result : WarehouseActionResult) : Answer :=
  .warehouse
    (match Result.emWarehouseType with
      | .itemSupport => 0
      | .pickItem => 1)
    (match Result.emIsPick with
      | .none => 0
      | .pick => 1
      | .backToSwitchPlayer => 2)
    Result.wsPlayerName

def itemSupport_Warehouse (wsWareHouseName : WString)
    (dwChannel dwServerId : DWORD) (GameClient : CGameClient) (s : Services) :
    Handled :=
  let polled := CBnsTrade.acceptItemSupportDeal P.tools P.area ulNow
    (WareHouseInfo.extract ulNow wsWareHouseName dwChannel dwServerId)
    unsetResult s.trade
  answered SockMsg.clientWarehouseMainTask (warehouseAnswer polled.1) GameClient
    { s with trade := polled.2 }

def pickItem_Warehouse (wsWareHouseName : WString)
    (dwChannel dwServerId : DWORD) (GameClient : CGameClient) (s : Services) :
    Handled :=
  let polled := CBnsTrade.acceptPickItemDeal P.tools P.area ulNow
    (WareHouseInfo.extract ulNow wsWareHouseName dwChannel dwServerId)
    unsetResult s.trade
  answered SockMsg.clientWarehousePickItem (warehouseAnswer polled.1) GameClient
    { s with trade := polled.2 }

def setGungoenSchedule (dwTeamId : DWORD) (wsScheduleName : WString)
    (uScheduleIndex : DWORD) (GameClient : CGameClient) (s : Services) :
    Handled :=
  cleared GameClient
    { s with
      taskTeam := CBnsTaskTeam.updateDungoenSchedule P.tools
        { dwTeamId := dwTeamId
          wsAccountName := GameClient.account.wsAccountName
          wsScheduleName := wsScheduleName
          uScheduleIndex := uScheduleIndex } s.taskTeam }

def getGungoenSchedule (dwTeamId : DWORD) (GameClient : CGameClient)
    (s : Services) : Handled :=
  answered SockMsg.getTeamSchedule
    (.teamSchedule
      (CBnsTaskTeam.getDungoenSchedule P.tools dwTeamId s.taskTeam))
    GameClient s

def setTeamReadonly (dwTeamId : DWORD) (GameClient : CGameClient)
    (s : Services) : Handled :=
  cleared GameClient
    { s with
      taskTeam := CBnsTaskTeam.setReadOnlyTeam P.tools dwTeamId s.taskTeam }

def saveLoginData (wsPlayerName : WString) (GameClient : CGameClient)
    (s : Services) : Handled :=
  cleared
    { GameClient with
      account := { GameClient.account with wsPlayerName := wsPlayerName } }
    { s with
      cards := s.cards.setCardContent
        (P.getCRC32_DWORD (cStr GameClient.account.wsCardNo))
        (fun Card => { Card with wsPlayerName := wsPlayerName }) fun _ => rfl }

def getLessPersonChannel (Msg : TeamChannelMsg) (GameClient : CGameClient)
    (s : Services) : Handled :=
  answered SockMsg.getChannel
    (.value (CBnsTaskTeam.getLessMemberChannel Msg s.taskTeam)) GameClient s

def getCouldConfigValue (wsPlayerName wsConfigName : WString)
    (GameClient : CGameClient) (s : Services) : Handled :=
  let wsValue := s.config.findConfigValue P.character
    { wsAccountName := GameClient.account.wsAccountName
      wsPlayerName := wsPlayerName
      configContent := { wsConfigName := wsConfigName } }
  answered SockMsg.getConfigValue (.text (wsValue.getD (L "0"))) GameClient s

def setCouldConfigValue (Content : ConfigContent) (GameClient : CGameClient)
    (s : Services) : Handled :=
  cleared GameClient
    { s with
      config := s.config.writeConfigValue P.character
        { wsAccountName := GameClient.account.wsAccountName
          wsPlayerName := GameClient.account.wsPlayerName
          configContent := Content } }

def consoleKeepALive (GameClient : CGameClient) (s : Services) : Handled :=
  cleared
    { GameClient with
      account := { GameClient.account with ulKeepALiveTick := ulNow } } s

def calculateOTP (GameClient : CGameClient) (s : Services) : Handled :=
  match O.findOTPKey_By_AccountName GameClient.account.wsAccountName with
  | none =>
      (.error (P.character.makeFormatText (L "帐号[%s] 不存在OTP的Key!")
        [cStr GameClient.account.wsAccountName]), GameClient, s)
  | some wsKey =>
      answered SockMsg.otp (.value (O.calculateOTP wsKey)) GameClient s

def getDailyTaskSchedule (GameClient : CGameClient) (s : Services) : Handled :=
  answered SockMsg.queryDailyTaskSchedule
    (.texts (O.queryDailyTaskSchedule GameClient.account)) GameClient s

def teamGroupAnswer (junk : DWORD) (wsAccountName : WString)
    (TeamGroup : CrossAreaTeamGroup) : TeamGroupAnswer where
  wsDungeonName := TeamGroup.wsDungeonName
  captain := {
    wsPlayerName := TeamGroup.captain.info.wsPlayerName
    dwPlayerId := TeamGroup.captain.info.dwPlayerId }
  dwRoomId := TeamGroup.captain.dwRoomId
  dwDungeonMapIndex := TeamGroup.dwDungeonMapIndex.getD junk
  emDifficulty := TeamGroup.emDifficulty.getD junk
  vecMember :=
    if wsAccountName ≠ TeamGroup.captain.account then []
    else
      TeamGroup.vecMember.map fun itm =>
        { wsPlayerName := itm.info.wsPlayerName
          dwPlayerId := itm.info.dwPlayerId }

def joinCrossAreaTeam (dwTeamId : DWORD) (GameClient : CGameClient)
    (s : Services) : Handled :=
  if dwTeamId ≠ 0 then
    match CCrossAreaTeam.getTeamMemberContent dwTeamId s.crossAreaTeam with
    | none => answered SockMsg.crossAreaTeam .unknownTeamGroup GameClient s
    | some TeamGroup =>
        (.answer none (.teamGroup (teamGroupAnswer O.junk
          GameClient.account.wsAccountName TeamGroup)), GameClient, s)
  else
    let Member := { GameClient.crossAreaTeamMember with
      ulTick := ulNow
      ulStartTick := ulNow }
    let joined := CCrossAreaTeam.joinTeam P.tools ulNow Member s.crossAreaTeam
    answered SockMsg.crossAreaTeam (.value (joined.1.getD 0))
      { GameClient with crossAreaTeamMember := Member }
      { s with crossAreaTeam := joined.2 }

/-- The member is declared anew, its ticks unset; the answer has no head. -/
def setCrossAreaTeamContent (dwPlayerId dwRoomId : DWORD)
    (wsGroupTitle : WString) (emClasses : TeamMeberClasses)
    (VecDungeonName : List WString) (GameClient : CGameClient) (s : Services) :
    Handled :=
  (.answer none .contentSet,
    { GameClient with
      crossAreaTeamMember := {
        info := {
          wsAccountName := GameClient.account.wsAccountName
          wsPlayerName := GameClient.account.wsPlayerName
          dwPlayerId := dwPlayerId }
        setDungoenName :=
          VecDungeonName.foldl (fun names itm => names.insert itm) ∅
        wsGroupTitle := wsGroupTitle
        emClasses := emClasses
        dwRoomId := dwRoomId } }, s)

/-- The buffer is not cleared. -/
def leaveCrossAreaTeam (rest : List SocketValue) (GameClient : CGameClient)
    (s : Services) : Handled :=
  (.unwritten rest, GameClient,
    { s with
      crossAreaTeam :=
        CCrossAreaTeam.deleteTeamMember GameClient.account.wsAccountName
          (CCrossAreaTeam.deleteTeamGroup GameClient.account.wsAccountName
            s.crossAreaTeam) })

def queryAccountVirtualSeriaNumber (VecAccount : List WString)
    (GameClient : CGameClient) (s : Services) : Handled :=
  answered SockMsg.queryAccountVirtualSeriaNumber
    (.seriaNumbers (VecAccount.filterMap O.queryAccountSeriaNumber)) GameClient s

/-!
## The check of the card
-/

/-- Why the check of the card turns a message down. -/
inductive Refusal where
  | noCrc
  | noToken
  | noCard
  | kicked (Card : CardInfo)

def Refusal.text : Refusal -> WString
  | noCrc => L "该帐号的CRC=0"
  | noToken => L "该帐号的Token=0"
  | noCard => L "该卡号CRC不存在!"
  | kicked Card =>
      P.character.makeFormatText (L "你被挤号了! 敌方帐号是:%s, IP:%s")
        [cStr Card.wsAccountName, cStr Card.wsIp]

def checkCard (GameClient : CGameClient) (cards : CCardExtend) :
    Except Refusal CGameClient :=
  let Account := GameClient.account
  if Account.dwCardCrc = 0 then .error .noCrc
  else if Account.dwToken = 0 then .error .noToken
  else
    match cards.findCard_By_CRC Account.dwCardCrc with
    | none => .error .noCard
    | some Card =>
        if Card.dwCardCrc ≠ Account.dwCardCrc then .error (.kicked Card)
        else
          .ok { GameClient with
            account := { Account with ulKeepALiveTick := ulNow } }

/-!
## All handlers
-/

/-- The handler of the content; `rest` is what it did not take. -/
def handle : Content -> List SocketValue -> CGameClient -> Services -> Handled
  | .queryCard VecCardCrc, _ => queryCard O ulNow VecCardCrc
  | .keepALive _, _ => keepALive ulNow
  | .downloadScript wsScriptName, _ => downloadScript P O wsScriptName
  | .gameLogin fVersion wsAccountName wsAccountPass wsCardNo, _ =>
      gameLogin P O ulNow fVersion wsAccountName wsAccountPass wsCardNo
  | .announcement, _ => announcement O
  | .joinTeam_MainLine CtiTeam, _ => joinTeam_MainLine P CtiTeam
  | .leaveTeam_MainLine, _ => leaveTeam_MainLine P
  | .joinTeam_Gungoen CtiTeam, _ => joinTeam_Gungoen P CtiTeam
  | .leaveTeam_Gungoen, _ => leaveTeam_Gungoen P
  | .itemSupport_GameAccount dwServerId dwChannel vWareHouse, _ =>
      itemSupport_GameAccount P ulNow dwServerId dwChannel vWareHouse
  | .pickItem_GameAccount dwServerId dwChannel vWareHouse, _ =>
      pickItem_GameAccount P ulNow dwServerId dwChannel vWareHouse
  | .itemSupport_Warehouse wsWareHouseName dwChannel dwServerId, _ =>
      itemSupport_Warehouse P ulNow wsWareHouseName dwChannel dwServerId
  | .pickItem_Warehouse wsWareHouseName dwChannel dwServerId, _ =>
      pickItem_Warehouse P ulNow wsWareHouseName dwChannel dwServerId
  | .setGungoenSchedule dwTeamId wsScheduleName uScheduleIndex, _ =>
      setGungoenSchedule P dwTeamId wsScheduleName uScheduleIndex
  | .getGungoenSchedule dwTeamId, _ => getGungoenSchedule P dwTeamId
  | .setTeamReadonly dwTeamId, _ => setTeamReadonly P dwTeamId
  -- these four only write to the database
  | .saveTradeData _, _ => cleared
  | .banned, _ => cleared
  | .saveAccountLogData _, _ => cleared
  | .setDailyTaskSchedule _, _ => cleared
  | .saveLoginData wsPlayerName, _ => saveLoginData P wsPlayerName
  | .getLessPersonChannel Msg, _ => getLessPersonChannel Msg
  | .getCouldConfigValue wsPlayerName wsConfigName, _ =>
      getCouldConfigValue P wsPlayerName wsConfigName
  | .setCouldConfigValue Content, _ => setCouldConfigValue P Content
  | .consoleKeepALive, _ => consoleKeepALive ulNow
  | .calculateOTP, _ => calculateOTP P O
  | .getDailyTaskSchedule, _ => getDailyTaskSchedule O
  | .joinCrossAreaTeam dwTeamId, _ => joinCrossAreaTeam P O ulNow dwTeamId
  | .setCrossAreaTeamContent dwPlayerId dwRoomId wsGroupTitle emClasses
      VecDungeonName, _ =>
      setCrossAreaTeamContent dwPlayerId dwRoomId wsGroupTitle emClasses
        VecDungeonName
  | .leaveCrossAreaTeam _, rest => leaveCrossAreaTeam rest
  | .queryAccountVirtualSeriaNumber VecAccount, _ =>
      queryAccountVirtualSeriaNumber O VecAccount

end

/-!
## Handlers with branches
-/

section

variable {P : Platform} {O : Outside} {ulNow : ULONGLONG}

theorem downloadScript_keeps (wsScriptName : WString) (GameClient : CGameClient)
    (s : Services) :
    (downloadScript P O wsScriptName GameClient s).2 = (GameClient, s) := by
  unfold downloadScript
  dsimp only
  split
  · rfl
  · rfl

theorem calculateOTP_keeps (GameClient : CGameClient) (s : Services) :
    (calculateOTP P O GameClient s).2 = (GameClient, s) := by
  unfold calculateOTP
  split
  · rfl
  · rfl

theorem joinCrossAreaTeam_cases (dwTeamId : DWORD) (GameClient : CGameClient)
    (s : Services) :
    (dwTeamId ≠ 0 ∧
        (joinCrossAreaTeam P O ulNow dwTeamId GameClient s).2 = (GameClient, s)) ∨
      (dwTeamId = 0 ∧
        (joinCrossAreaTeam P O ulNow dwTeamId GameClient s).2 =
          ({ GameClient with
              crossAreaTeamMember := { GameClient.crossAreaTeamMember with
                ulTick := ulNow
                ulStartTick := ulNow } },
            { s with
              crossAreaTeam := (CCrossAreaTeam.joinTeam P.tools ulNow
                { GameClient.crossAreaTeamMember with
                  ulTick := ulNow
                  ulStartTick := ulNow } s.crossAreaTeam).2 })) := by
  unfold joinCrossAreaTeam
  split
  · rename_i hne
    refine Or.inl ⟨hne, ?_⟩
    split
    · rfl
    · rfl
  · rename_i hzero
    exact Or.inr ⟨not_not.mp hzero, rfl⟩

end

end CEchoPacket
end Server
end BnsKorea
