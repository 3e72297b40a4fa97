import BnsKorea.Common.SocketBuffer

/-!
# The requests of the client

What each method of the client puts into the packet it sends.
-/

namespace BnsKorea
namespace Client

open Library SocketValue

inductive JoinTeamType where
  | mainLine
  | gungoen
deriving DecidableEq

namespace CSocketAPI

/-- A call of a request method; a pointer that may be null is an option. -/
inductive Call where
  | consoleKeepALive
  | queryCard (VecCard : List CardInfo)
  | getServerAnnouncement
  | keepALive (pContent : Option KeepALiveContent)
  | downLoadScript (wsScriptName : WString)
  | alreadyLogin (fVersion : UInt32) (wsAccountName wsAccountPass wsCardNo : WString)
  | joinTeam (emType : JoinTeamType) (pClientTeamInfo : Option ClientTeamInfo)
  | leaveTeam (emType : JoinTeamType)
  | clientTrade (emType : TradeWarehouseType) (Content : VerItemSupport)
  | warehouseTrade (emType : TradeWarehouseType) (Content : WareHouseInfo)
  | setGungoenSchedule (dwTeamId : DWORD) (wsScheduleName : WString)
      (uScheduleIndex : DWORD)
  | getGungoenSchedule (dwTeamId : DWORD)
  | setTeamReadonly (dwTeamId : DWORD)
  | addTradeContentLog (Content : TradeContent)
  | addLoginContentLog (wsPlayerName : WString)
  | addBannedContentLog
  | addAccountLog (Content : ClientAccountLog)
  | getLessPlayerChannel (Content : TeamChannelMsg)
  | readCloudConfig (wsPlayerName : WString) (Content : ConfigContent)
  | writeCloudConfig (Content : ConfigContent)
  | calcualteOTP
  | getDailyTaskSchedule
  | setDailyTaskSchedule (wsDailyTaskName : WString)
  | joinCrossAreaTeam
  | setCrossAreaTeamContent (Member : CrossAreaTeamMember)
  | getTeamGroupContent (dwTeamId : DWORD)
  | leaveCrossAreaTeam (dwTeamId : DWORD)
  | queryAccountVirtualSeriaNumber (VecAccount : List WString)

/-- `InitializeHead`. -/
def Call.head : Call -> SockMsg
  | consoleKeepALive => SockMsg.consoleKeepALive
  | queryCard _ => SockMsg.queryCardInfo
  | getServerAnnouncement => SockMsg.title
  | keepALive _ => SockMsg.keepALive
  | downLoadScript _ => SockMsg.queryScriptKey
  | alreadyLogin _ _ _ _ => SockMsg.loginGame
  | joinTeam .mainLine _ => SockMsg.joinTeamOrder
  | joinTeam .gungoen _ => SockMsg.joinDungoenTeam
  | leaveTeam .mainLine => SockMsg.leaveTeamOrder
  | leaveTeam .gungoen => SockMsg.dissolutionDungoenTeam
  | clientTrade .itemSupport _ => SockMsg.clientItemSupport
  | clientTrade .pickItem _ => SockMsg.clientPickItem
  | warehouseTrade .itemSupport _ => SockMsg.clientWarehouseMainTask
  | warehouseTrade .pickItem _ => SockMsg.clientWarehousePickItem
  | setGungoenSchedule _ _ _ => SockMsg.updateTeamSchedule
  | getGungoenSchedule _ => SockMsg.getTeamSchedule
  | setTeamReadonly _ => SockMsg.setTeamReadonly
  | addTradeContentLog _ => SockMsg.clientDealMessage
  | addLoginContentLog _ => SockMsg.clientLoginedLog
  | addBannedContentLog => SockMsg.clientBanned
  | addAccountLog _ => SockMsg.saveLocalAccountLog
  | getLessPlayerChannel _ => SockMsg.getChannel
  | readCloudConfig _ _ => SockMsg.getConfigValue
  | writeCloudConfig _ => SockMsg.setConfigValue
  | calcualteOTP => SockMsg.otp
  | getDailyTaskSchedule => SockMsg.queryDailyTaskSchedule
  | setDailyTaskSchedule _ => SockMsg.updateDailyTaskSchedule
  | joinCrossAreaTeam => SockMsg.crossAreaTeam
  | setCrossAreaTeamContent _ => SockMsg.setCrossAreaTeamContent
  | getTeamGroupContent _ => SockMsg.crossAreaTeam
  | leaveCrossAreaTeam _ => SockMsg.deleteCrossAreaTeam
  | queryAccountVirtualSeriaNumber _ => SockMsg.queryAccountVirtualSeriaNumber

/-!
## The values behind the head
-/

def keepALiveValues : Option KeepALiveContent -> List SocketValue
  | none => [FALSE]
  | some pContent =>
      [TRUE, byte pContent.level, dword pContent.gold, dword pContent.dwTaskId,
        dword pContent.dwScheduleId, text pContent.wsContent]

def memberValues (itm : ClientTeamMember) : List SocketValue :=
  [text itm.wsPlayerName, dword itm.dwPlayerId]

def joinTeamValues : Option ClientTeamInfo -> List SocketValue
  | none => [bool false]
  | some pClientTeamInfo =>
      bool true :: dword pClientTeamInfo.dwServerId ::
        dword pClientTeamInfo.dwTaskId ::
          dword pClientTeamInfo.dwScheduleId ::
            dword pClientTeamInfo.dwChannelId ::
              dword pClientTeamInfo.dwMaxMember ::
                dword pClientTeamInfo.selfCti.dwPlayerId ::
                  text pClientTeamInfo.wsGroupTitle ::
                    size pClientTeamInfo.vTeamMember ::
                      pClientTeamInfo.vTeamMember.flatMap memberValues

def itemValues (itm : TradeItem) : List SocketValue :=
  [text itm.wsItemName, dword itm.dwCount]

/-- What `operator <<` puts into the packet, in order. -/
def Call.values : Call -> List SocketValue
  | consoleKeepALive => []
  | queryCard VecCard =>
      size VecCard :: VecCard.map fun itm => dword itm.dwCardCrc
  | getServerAnnouncement => []
  | keepALive pContent => keepALiveValues pContent
  | downLoadScript wsScriptName => [text wsScriptName]
  | alreadyLogin fVersion wsAccountName wsAccountPass wsCardNo =>
      [float fVersion, text wsAccountName, text wsAccountPass, text wsCardNo]
  | joinTeam _ pClientTeamInfo => joinTeamValues pClientTeamInfo
  | leaveTeam _ => []
  | clientTrade _ Content =>
      dword Content.dwServerId :: dword Content.dwChannel ::
        size Content.vWareHouse :: Content.vWareHouse.map text
  | warehouseTrade _ Content =>
      [text Content.wsWareHouseName, dword Content.dwChannel,
        dword Content.dwServerId]
  | setGungoenSchedule dwTeamId wsScheduleName uScheduleIndex =>
      [dword dwTeamId, text wsScheduleName, dword uScheduleIndex]
  | getGungoenSchedule dwTeamId => [dword dwTeamId]
  | setTeamReadonly dwTeamId => [dword dwTeamId]
  | addTradeContentLog Content =>
      text Content.wsWareHouseName :: dword Content.dwTradeMoney ::
        size Content.vecTradeItem :: Content.vecTradeItem.flatMap itemValues
  | addLoginContentLog wsPlayerName => [text wsPlayerName]
  | addBannedContentLog => []
  | addAccountLog Content => [dword Content.emType, text Content.wsContentText]
  | getLessPlayerChannel Content =>
      [dword Content.dwServerId, dword Content.dwChannel,
        dword Content.dwMaxChannel, dword Content.dwTaskId,
        dword Content.dwScheduleId]
  | readCloudConfig wsPlayerName Content =>
      [text wsPlayerName, text Content.wsConfigName]
  | writeCloudConfig Content =>
      [text Content.wsConfigName, text Content.wsConfigValue]
  | calcualteOTP => []
  | getDailyTaskSchedule => []
  | setDailyTaskSchedule wsDailyTaskName => [text wsDailyTaskName]
  | joinCrossAreaTeam => []
  | setCrossAreaTeamContent Member =>
      dword Member.info.dwPlayerId :: dword Member.dwRoomId ::
        text Member.wsGroupTitle :: byte Member.emClasses ::
          size Member.setDungoenName.toList ::
            Member.setDungoenName.toList.map text
  | getTeamGroupContent dwTeamId => [dword dwTeamId]
  | leaveCrossAreaTeam dwTeamId => [dword dwTeamId]
  | queryAccountVirtualSeriaNumber VecAccount =>
      size VecAccount :: VecAccount.map text

def Call.packet (call : Call) : SocketBuffer where
  head := some call.head
  values := call.values

end CSocketAPI
end Client
end BnsKorea
