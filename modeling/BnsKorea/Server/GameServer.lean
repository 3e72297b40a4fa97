import BnsKorea.Server.EchoPacket

/-!
# The server under its messages

The table that dispatches a message to the handler registered for it, the check
of the card in front of most of them, and the connections, which come, send
messages and are released.  A message whose handler would read past the end of
it is left out: what the buffer does then is not part of the repository.
-/

namespace BnsKorea
namespace Server

open Library SocketValue

namespace CGameServer

open Server.CEchoPacket

/-!
## Dispatch
-/

def vecEchoPacketPtr : List (SockMsg × Read Content) :=
  [(SockMsg.queryCardInfo, extractQueryCard),
    (SockMsg.keepALive, extractKeepALive),
    (SockMsg.queryScriptKey, extractDownloadScript),
    (SockMsg.title, pure .announcement),
    (SockMsg.loginGame, extractGameLogin),
    (SockMsg.joinTeamOrder, extractJoinTeam_MainLine),
    (SockMsg.leaveTeamOrder, pure .leaveTeam_MainLine),
    (SockMsg.dissolutionTeam, pure .leaveTeam_Gungoen),
    (SockMsg.clientItemSupport,
      extractClientTradePacket .itemSupport_GameAccount),
    (SockMsg.clientPickItem, extractClientTradePacket .pickItem_GameAccount),
    (SockMsg.clientWarehouseMainTask, extractWarehouse .itemSupport_Warehouse),
    (SockMsg.clientWarehousePickItem, extractWarehouse .pickItem_Warehouse),
    (SockMsg.updateTeamSchedule, extractSetGungoenSchedule),
    (SockMsg.getTeamSchedule, extractGetGungoenSchedule),
    (SockMsg.setTeamReadonly, extractSetTeamReadonly),
    (SockMsg.clientDealMessage, extractSaveTradeData),
    (SockMsg.clientLoginedLog, extractSaveLoginData),
    (SockMsg.clientBanned, pure .banned),
    (SockMsg.getChannel, extractGetLessPersonChannel),
    (SockMsg.getConfigValue, extractGetCouldConfigValue),
    (SockMsg.setConfigValue, extractSetCouldConfigValue),
    (SockMsg.consoleKeepALive, pure .consoleKeepALive),
    (SockMsg.saveLocalAccountLog, extractSaveAccountLogData),
    (SockMsg.otp, pure .calculateOTP),
    (SockMsg.queryDailyTaskSchedule, pure .getDailyTaskSchedule),
    (SockMsg.updateDailyTaskSchedule, extractSetDailyTaskSchedule),
    (SockMsg.crossAreaTeam, extractJoinCrossAreaTeam),
    (SockMsg.deleteCrossAreaTeam, extractLeaveCrossAreaTeam),
    (SockMsg.setCrossAreaTeamContent, extractSetCrossAreaTeamContent),
    (SockMsg.queryAccountVirtualSeriaNumber,
      extractQueryAccountVirtualSeriaNumber)]

def vecCheckCard : List SockMsg :=
  [SockMsg.rechargeCard, SockMsg.queryCardInfo, SockMsg.title,
    SockMsg.loginGame, SockMsg.consoleKeepALive,
    SockMsg.queryAccountVirtualSeriaNumber]

/-- What the buffer of a handler is sent as: with nothing in it, as a head. -/
def sent (emSockMsg : SockMsg) (pSocketBuffer : SocketBuffer) : SocketBuffer :=
  if pSocketBuffer.head = none ∧ pSocketBuffer.values = [] then
    { head := some emSockMsg }
  else pSocketBuffer

section

variable (P : Platform) (O : Outside) (ulNow : ULONGLONG)

/-- The handler's part; `none` where it would read past the end. -/
def invoke (emSockMsg : SockMsg) (extract : Read Content)
    (pSocketBuffer : List SocketValue) (GameClient : CGameClient)
    (s : Services) : Option (Option SocketBuffer × CGameClient × Services) :=
  (extract.run pSocketBuffer).map fun taken =>
    let handled := handle P O ulNow taken.1 taken.2 GameClient s
    (some (sent emSockMsg handled.1.buffer), handled.2)

def echoRecive (emSockMsg : SockMsg) (pSocketBuffer : List SocketValue)
    (GameClient : CGameClient) (s : Services) :
    Option (Option SocketBuffer × CGameClient × Services) :=
  match vecEchoPacketPtr.lookup emSockMsg with
  | none => some (none, GameClient, s)
  | some extract =>
      if emSockMsg ∈ vecCheckCard then
        invoke P O ulNow emSockMsg extract pSocketBuffer GameClient s
      else
        match checkCard ulNow GameClient s.cards with
        | .error refusal =>
            some (some (Reply.error (refusal.text P)).buffer, GameClient, s)
        | .ok GameClient =>
            invoke P O ulNow emSockMsg extract pSocketBuffer GameClient s

/-!
## Connections
-/

def blankCard (Card : CardInfo) : CardInfo :=
  { Card with
    wsPlayerName := []
    wsAccountName := []
    wsIp := []
    bExit := false
    dwToken := 0 }

theorem blankCard_dwCardCrc (Card : CardInfo) :
    (blankCard Card).dwCardCrc = Card.dwCardCrc :=
  rfl

/-- `CGameClient::Remove`: what a connection that is gone leaves behind. -/
def remove (Account : ClientAccountContent) (s : Services) : Services :=
  if Account.wsAccountName ≠ [] ∧ Account.wsAccountName ≠ L "Empty" then
    { s with
      taskTeam := CBnsTaskTeam.deleteTaskMember P.tools Account.wsAccountName
        s.taskTeam
      crossAreaTeam := CCrossAreaTeam.deleteTeamMember Account.wsAccountName
        s.crossAreaTeam
      trade := CBnsTrade.removeAccount P.tools Account.wsAccountName
        Account.wsPlayerName s.trade
      cards :=
        if Account.dwCardCrc ≠ 0 then
          s.cards.setCardContent Account.dwCardCrc blankCard blankCard_dwCardCrc
        else s.cards }
  else s

end

end CGameServer

structure CGameServer where
  clients : Std.TreeMap SOCKET CGameClient := ∅
  services : Services

namespace CGameServer

/-- What happens to the server. -/
inductive Event where
  /-- A connection comes; the class of a member nobody set is given with it. -/
  | accept (ClientSock : SOCKET) (emClasses : TeamMeberClasses)
  | recive (ClientSock : SOCKET) (emSockMsg : SockMsg)
      (pSocketBuffer : List SocketValue) (O : Outside)
  | release (ClientSock : SOCKET)

section

variable (P : Platform)

def createNewSocketClient (ClientSock : SOCKET) (emClasses : TeamMeberClasses)
    (s : CGameServer) : CGameServer :=
  { s with
    clients := s.clients.insert ClientSock
      { crossAreaTeamMember := { emClasses := emClasses } } }

/-- What `echoRecive` answers to a message of the connection. -/
def reciveOf (ulNow : ULONGLONG) (ClientSock : SOCKET) (emSockMsg : SockMsg)
    (pSocketBuffer : List SocketValue) (O : Outside) (s : CGameServer) :
    Option (Option SocketBuffer × CGameClient × Services) :=
  s.clients[ClientSock]?.bind fun GameClient =>
    echoRecive P O ulNow emSockMsg pSocketBuffer GameClient s.services

def recive (ulNow : ULONGLONG) (ClientSock : SOCKET) (emSockMsg : SockMsg)
    (pSocketBuffer : List SocketValue) (O : Outside) (s : CGameServer) :
    CGameServer :=
  match reciveOf P ulNow ClientSock emSockMsg pSocketBuffer O s with
  | none => s
  | some (_, GameClient, services) =>
      { clients := s.clients.insert ClientSock GameClient
        services := services }

def releaseSocketClient (ClientSock : SOCKET) (s : CGameServer) : CGameServer :=
  match s.clients[ClientSock]? with
  | none => s
  | some GameClient =>
      { clients := s.clients.erase ClientSock
        services := remove P GameClient.account s.services }

/-!
## Runs
-/

def apply (ulNow : ULONGLONG) : Event -> CGameServer -> CGameServer
  | .accept ClientSock emClasses => createNewSocketClient ClientSock emClasses
  | .recive ClientSock emSockMsg pSocketBuffer O =>
      recive P ulNow ClientSock emSockMsg pSocketBuffer O
  | .release ClientSock => releaseSocketClient P ClientSock

/-- Sockets come once, and only connections send messages and are released. -/
def Allowed (ulNow : ULONGLONG) : Event -> CGameServer -> Prop
  | .accept ClientSock _, s => s.clients[ClientSock]?.isNone
  | .recive ClientSock emSockMsg pSocketBuffer O, s =>
      (reciveOf P ulNow ClientSock emSockMsg pSocketBuffer O s).isSome
  | .release ClientSock, s => s.clients[ClientSock]?.isSome

instance Allowed.decidable (ulNow : ULONGLONG) :
    forall e s, Decidable (Allowed P ulNow e s)
  | .accept _ _, _ => inferInstanceAs (Decidable (_ = true))
  | .recive _ _ _ _, _ => inferInstanceAs (Decidable (_ = true))
  | .release _, _ => inferInstanceAs (Decidable (_ = true))

def machine : Machine (Clocked CGameServer) (ULONGLONG × Event) where
  enabled l c := c.now ≤ l.1 ∧ Allowed P l.1 l.2 c.state
  step l c := { now := l.1, state := apply P l.1 l.2 c.state }

/-- The services after `InitializeBnsService`, with what the tables held. -/
def initial (cards : CCardExtend) (config : CCloudConfigExtend)
    (Classes : Std.TreeMap WString VecClasses) : Clocked CGameServer where
  now := 0
  state := {
    services := {
      cards := cards
      crossAreaTeam := { mapDungeonClasses := Classes }
      config := config } }

def Reachable (c : Clocked CGameServer) : Prop :=
  exists cards config Classes,
    (machine P).Reaches (initial cards config Classes) c

instance machine_decidable (l : ULONGLONG × Event) (c : Clocked CGameServer) :
    Decidable ((machine P).enabled l c) :=
  inferInstanceAs (Decidable (c.now ≤ l.1 ∧ Allowed P l.1 l.2 c.state))

end

end CGameServer
end Server
end BnsKorea
