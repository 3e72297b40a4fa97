import BnsKorea.OldServer.BnsTeam
import BnsKorea.OldServer.VerManage

/-!
# The work threads of the old server

`_WorkThread` takes a request, lets its handler write behind the request's id
and sends the answer.  Most handlers run only if `IsALive` lets the connection
through.  Every handler runs under the locks of the tables it uses, and one
request is one step here.
-/

namespace BnsKorea
namespace OldServer

open Library

def SOCK_MSG_CLIENTMSG : DWORD := 0x1
def SOCK_MSG_TITLE : DWORD := 0x6
def SOCK_MSG_GET_TASKSCRIPT : DWORD := 0x7
def SOCK_MSG_GET_NEXT_TASKSCRIPT : DWORD := 0x8
def SOCK_MSG_LEAVE_TEAM_ORDER : DWORD := 0xC
def SOCK_MSG_DISSOLUTION_TEAM : DWORD := 0xE
def SOCK_MSG_CLIENT_DEALMESSAGE : DWORD := 0x15
def SOCK_MSG_CLIENT_LOGINED_LOG : DWORD := 0x18
def SOCK_MSG_DISSOLUTION_DUNGOEN_TEAM : DWORD := 0x1B
def SOCK_MSG_SET_CONFIG_VALUE : DWORD := 0x1D
def SOCK_MSG_GET_CONFIG_VALUE : DWORD := 0x1E
def SOCK_MSG_CONSOLE_KEEPALIVE : DWORD := 0x21
def SOCK_MSG_SAVE_LOCAL_ACCOUNT_LOG : DWORD := 0x23
def SOCK_MSG_OTP : DWORD := 0x24
def SOCK_MSG_QUERY_DAILYTASK_SCHEDULE : DWORD := 0x25
def SOCK_MSG_UPDATE_DAILYTASK_SCHEDULE : DWORD := 0x26

/-!
## The state
-/

structure ExpressScriptInfo where
  wsScriptName : WString
  dwScriptNameHash : DWORD
  dwScriptSize : DWORD
  dwContentLength : DWORD
  dwExpressCRC : DWORD
  dwCiphertextCRC : DWORD
  pScriptContent : List BYTE
deriving DecidableEq

/--
The tables of the server, with the contents of the connections.  The number of a
connection is not used again when it has gone.
-/
structure VerServer where
  wsBnsVersion : WString
  vlst : List CardInfo
  wsClientIp : Nat -> WString := fun _ => []
  account : Nat -> ClientAccountContent := fun _ => {}
  bBanned : Bool := false
  bnsTaskTeam : CBnsTaskTeam := {}
  bnsDeal : CBnsDeal := {}
  clientConfigMap : Std.TreeMap WString WString := ∅
  vScript : List ExpressScriptInfo := []
  /-- The bits of the floating point number. -/
  fVersion : DWORD := 0
  vecDailyTask : List WString := []
  /-- The accounts with their keys. -/
  vecOTPAccount : List (WString × WString) := []

namespace VerServer

def setAccount (s : VerServer) (i : Nat) (ClientAccount : ClientAccountContent) :
    VerServer :=
  { s with account := Function.update s.account i ClientAccount }

@[simp] theorem setAccount_vlst (s : VerServer) (i : Nat) (a : ClientAccountContent) :
    (s.setAccount i a).vlst = s.vlst :=
  rfl

@[simp] theorem account_setAccount_self (s : VerServer) (i : Nat)
    (a : ClientAccountContent) : (s.setAccount i a).account i = a := by
  simp [setAccount]

theorem account_setAccount_of_ne (s : VerServer) {i j : Nat} (a : ClientAccountContent)
    (h : j ≠ i) : (s.setAccount i a).account j = s.account j := by
  simp [setAccount, Function.update_of_ne h]

theorem setAccount_account (s : VerServer) (i : Nat) :
    s.setAccount i (s.account i) = s := by
  simp [setAccount]

end VerServer

/-!
## The cloud configuration
-/

namespace CClientConfig

def createMapText (ClientConfigContent_ : ClientConfigContent) : WString :=
  Printf.swprintfTexts (L "%s-%s-%s")
    [cStr ClientConfigContent_.wsAccountName, cStr ClientConfigContent_.wsPlayerName,
      cStr ClientConfigContent_.configContent.wsConfigName]

def getConfigValueByName (ClientConfigContent_ : ClientConfigContent)
    (ClientConfigMap : Std.TreeMap WString WString) : List Put :=
  [.dword SOCK_MSG_GET_CONFIG_VALUE, .text ClientConfigContent_.wsAccountName,
    .text (ClientConfigMap[createMapText ClientConfigContent_]?.getD [])]

/-- The map afterwards; the statement for the database is left out. -/
def setConfigValueByName (ClientConfigContent_ : ClientConfigContent)
    (ClientConfigMap : Std.TreeMap WString WString) : Std.TreeMap WString WString :=
  ClientConfigMap.insert (createMapText ClientConfigContent_)
    ClientConfigContent_.configContent.wsConfigValue

/-- `Initialize`: a row of the database stays out if its text is in the map. -/
def initializeMap (vlst : List ClientConfigContent)
    (ClientConfigMap : Std.TreeMap WString WString) : Std.TreeMap WString WString :=
  vlst.foldl (fun ClientConfigMap itm =>
    ClientConfigMap.insertIfNew (createMapText itm) itm.configContent.wsConfigValue)
    ClientConfigMap

end CClientConfig

/-!
## Requests
-/

/-- The requests that `IsALive` guards, as `UnPack` leaves their data. -/
inductive Guarded where
  | getTaskScript (wsScriptName : WString)
  | joinTeamOrder (CtiMember : ClientTeamInfo)
  | joinDungoenTeam (CtiMember : ClientTeamInfo)
  | clientItemSupport (dwServerId dwChannel : DWORD) (vWareHouse : List WString)
  | clientPickItem (dwServerId dwChannel : DWORD) (vWareHouse : List WString)
  | clientWarehouseMainTask (wsWareHouseName : WString) (dwChannel dwServerId : DWORD)
  | clientWarehousePickItem (wsWareHouseName : WString) (dwChannel dwServerId : DWORD)
  | updateTeamSchedule (dwTeamId : DWORD) (wsScheduleName : WString)
      (uScheduleIndex : DWORD)
  | getTeamSchedule (dwTeamId : DWORD)
  | setTeamReadonly (dwTeamId : DWORD)
  | getChannel (TeamChannelMsg_ : TeamChannelMsg)
  | getConfigValue (ClientConfigContent_ : ClientConfigContent)
  | setConfigValue (ClientConfigContent_ : ClientConfigContent)
  | saveLocalAccountLog
  | otp (wsAccountName : WString)
  | queryDailyTaskSchedule
  | updateDailyTaskSchedule (wsDailyTaskName : WString)

def Guarded.dwClientCmd : Guarded -> DWORD
  | .getTaskScript _ => SOCK_MSG_GET_TASKSCRIPT
  | .joinTeamOrder _ => SOCK_MSG_JOIN_TEAM_ORDER
  | .joinDungoenTeam _ => SOCK_MSG_JOIN_DUNGOEN_TEAM
  | .clientItemSupport _ _ _ => SOCK_MSG_CLIENT_ITEMSUPPORT
  | .clientPickItem _ _ _ => SOCK_MSG_CLIENT_PICKITEM
  | .clientWarehouseMainTask _ _ _ => SOCK_MSG_CLIENT_WAREHOUSE_MAINTASK
  | .clientWarehousePickItem _ _ _ => SOCK_MSG_CLIENT_WAREHOUSE_PICKITEM
  | .updateTeamSchedule _ _ _ => SOCK_MSG_UPDATE_TEAM_SCHEDULE
  | .getTeamSchedule _ => SOCK_MSG_GET_TEAM_SCHEDULE
  | .setTeamReadonly _ => SOCK_MSG_SET_TEAM_READONLY
  | .getChannel _ => SOCK_MSG_GET_CHANNEL
  | .getConfigValue _ => SOCK_MSG_GET_CONFIG_VALUE
  | .setConfigValue _ => SOCK_MSG_SET_CONFIG_VALUE
  | .saveLocalAccountLog => SOCK_MSG_SAVE_LOCAL_ACCOUNT_LOG
  | .otp _ => SOCK_MSG_OTP
  | .queryDailyTaskSchedule => SOCK_MSG_QUERY_DAILYTASK_SCHEDULE
  | .updateDailyTaskSchedule _ => SOCK_MSG_UPDATE_DAILYTASK_SCHEDULE

def commands : List DWORD :=
  [SOCK_MSG_QUERY_CARDINFO, SOCK_MSG_KEEPALIVE, SOCK_MSG_GET_TASKSCRIPT,
    SOCK_MSG_GET_NEXT_TASKSCRIPT, SOCK_MSG_LOGINGAME, SOCK_MSG_TITLE,
    SOCK_MSG_JOIN_TEAM_ORDER, SOCK_MSG_LEAVE_TEAM_ORDER, SOCK_MSG_DISSOLUTION_TEAM,
    SOCK_MSG_JOIN_DUNGOEN_TEAM, SOCK_MSG_DISSOLUTION_DUNGOEN_TEAM,
    SOCK_MSG_CLIENT_ITEMSUPPORT, SOCK_MSG_CLIENT_PICKITEM,
    SOCK_MSG_CLIENT_WAREHOUSE_MAINTASK, SOCK_MSG_CLIENT_WAREHOUSE_PICKITEM,
    SOCK_MSG_UPDATE_TEAM_SCHEDULE, SOCK_MSG_GET_TEAM_SCHEDULE,
    SOCK_MSG_SET_TEAM_READONLY, SOCK_MSG_CLIENT_DEALMESSAGE,
    SOCK_MSG_CLIENT_LOGINED_LOG, SOCK_MSG_CLIENT_BANNED, SOCK_MSG_GET_CHANNEL,
    SOCK_MSG_GET_CONFIG_VALUE, SOCK_MSG_SET_CONFIG_VALUE, SOCK_MSG_CONSOLE_KEEPALIVE,
    SOCK_MSG_SAVE_LOCAL_ACCOUNT_LOG, SOCK_MSG_OTP, SOCK_MSG_QUERY_DAILYTASK_SCHEDULE,
    SOCK_MSG_UPDATE_DAILYTASK_SCHEDULE]

inductive Request where
  | guarded (g : Guarded)
  | queryCardInfo (VecCardCrc : List DWORD)
  | keepALive (KeepALiveContent_ : KeepALiveContent)
  | getNextTaskScript
  | loginGame (wsVersion wsAccountName wsAccountPass wsCardNo : WString)
  | title
  | leaveTeamOrder (CtiMember : ClientTeamInfo)
  | dissolutionTeam (CtiMember : ClientTeamInfo)
  | dissolutionDungoenTeam (CtiMember : ClientTeamInfo)
  | clientDealMessage
  | clientLoginedLog (wsPlayerName : WString)
  | clientBanned
  | consoleKeepALive
  | invalid (dwCmd : { dwCmd : DWORD // dwCmd ∉ commands })

def Request.dwClientCmd : Request -> DWORD
  | .guarded g => g.dwClientCmd
  | .queryCardInfo _ => SOCK_MSG_QUERY_CARDINFO
  | .keepALive _ => SOCK_MSG_KEEPALIVE
  | .getNextTaskScript => SOCK_MSG_GET_NEXT_TASKSCRIPT
  | .loginGame _ _ _ _ => SOCK_MSG_LOGINGAME
  | .title => SOCK_MSG_TITLE
  | .leaveTeamOrder _ => SOCK_MSG_LEAVE_TEAM_ORDER
  | .dissolutionTeam _ => SOCK_MSG_DISSOLUTION_TEAM
  | .dissolutionDungoenTeam _ => SOCK_MSG_DISSOLUTION_DUNGOEN_TEAM
  | .clientDealMessage => SOCK_MSG_CLIENT_DEALMESSAGE
  | .clientLoginedLog _ => SOCK_MSG_CLIENT_LOGINED_LOG
  | .clientBanned => SOCK_MSG_CLIENT_BANNED
  | .consoleKeepALive => SOCK_MSG_CONSOLE_KEEPALIVE
  | .invalid dwCmd => dwCmd.val

/-!
## Handlers
-/

namespace CVerSocket

open CVerManage (messageBox)

variable (V : VerTools) (E : Outside)

def _getTaskScriptFileList (wsScripttName wsAccountName : WString) (s : VerServer) :
    List Put :=
  match s.vScript.find? fun ExpScriptInfo =>
      ExpScriptInfo.wsScriptName == wsScripttName with
  | none => messageBox (L "脚本:" ++ cStr wsScripttName ++ L " 并没有存在服务器上!")
  | some pExpressScriptInfo =>
      [.dword SOCK_MSG_GET_TASKSCRIPT, .dword s.fVersion,
        .text pExpressScriptInfo.wsScriptName, .dword pExpressScriptInfo.dwScriptSize,
        .dword pExpressScriptInfo.dwContentLength,
        .dword pExpressScriptInfo.dwExpressCRC,
        .dword pExpressScriptInfo.dwCiphertextCRC,
        .bytes (pExpressScriptInfo.pScriptContent.take
          pExpressScriptInfo.dwContentLength.toNat),
        .text wsAccountName]

def getOTPKey (wsAccountName : WString) (s : VerServer) : List Put :=
  let wsKey :=
    (s.vecOTPAccount.find? fun OtpAccount => OtpAccount.1 == wsAccountName).elim []
      fun OtpAccount => E.calcOPTValue wsAccountName OtpAccount.2
  if wsKey = [] then [.dword SOCK_MSG_OTP, .text wsAccountName, .dword 0]
  else [.dword SOCK_MSG_OTP, .text wsAccountName, .dword 1, .text wsKey]

def dailyTaskSQL (ClientAccount : ClientAccountContent) (itm : WString) : WString :=
  Printf.swprintfTexts (L "exec QueryDailyTaskSchedule '%s','%s','%s'")
    [cStr ClientAccount.wsAccountName, cStr ClientAccount.wsPlayerName, cStr itm]

def openDailyTasks (ClientAccount : ClientAccountContent) :
    Nat -> List WString -> Option (List WString)
  | _, [] => some []
  | n, itm :: tmpVecDailyTask => do
      let ResultText <- E.excuteSQL n (dailyTaskSQL ClientAccount itm)
      let VecClientDailyTask <- openDailyTasks ClientAccount (n + 1) tmpVecDailyTask
      return if ResultText.head? = some 48 then itm :: VecClientDailyTask
        else VecClientDailyTask

def queryDailyTaskSchedule (ClientAccount : ClientAccountContent) (s : VerServer) :
    List Put :=
  match openDailyTasks E ClientAccount 0 s.vecDailyTask with
  | none => messageBox (L "数据库操作失败!{exec QueryDailyTaskSchedule}")
  | some VecClientDailyTask =>
      .dword SOCK_MSG_QUERY_DAILYTASK_SCHEDULE ::
        .dword (UInt32.ofNat VecClientDailyTask.length) ::
        VecClientDailyTask.map .text

/-- What a guarded handler does once the connection `i` is let through. -/
def handle (i : Nat) : Guarded -> VerServer -> VerServer × List Put
  | .getTaskScript wsScriptName, s =>
      (s, _getTaskScriptFileList wsScriptName (s.account i).wsAccountName s)
  | .joinTeamOrder CtiMember, s =>
      let done := BnsTeam.joinTaskTeam V.tools CtiMember s.bnsTaskTeam
      ({ s with bnsTaskTeam := done.1 }, done.2)
  | .joinDungoenTeam CtiMember, s =>
      let done := BnsTeam.joinDungoenTeam V.tools CtiMember s.bnsTaskTeam
      ({ s with bnsTaskTeam := done.1 }, done.2)
  | .clientItemSupport dwServerId dwChannel vWareHouse, s =>
      let done := CBnsDeal.joinItemSupportDeal initBnsServerArray E.ulNow
        { wsPlayerName := (s.account i).wsPlayerName
          wsAccountName := (s.account i).wsAccountName
          dwServerId, dwChannel, vWareHouse } s.bnsDeal
      ({ s with bnsDeal := done.2 }, done.1)
  | .clientPickItem dwServerId dwChannel vWareHouse, s =>
      let done := CBnsDeal.joinPickItemtDeal initBnsServerArray E.ulNow
        { wsPlayerName := (s.account i).wsPlayerName
          wsAccountName := (s.account i).wsAccountName
          dwServerId, dwChannel, vWareHouse } s.bnsDeal
      ({ s with bnsDeal := done.2 }, done.1)
  | .clientWarehouseMainTask wsWareHouseName dwChannel dwServerId, s =>
      let done := CBnsDeal.acceptItemSupportDeal initBnsServerArray E.ulNow
        { wsWareHouseName, dwChannel, dwServerId, ulTick := E.ulNow } s.bnsDeal
      ({ s with bnsDeal := done.2 }, done.1)
  | .clientWarehousePickItem wsWareHouseName dwChannel dwServerId, s =>
      let done := CBnsDeal.acceptPickItemDeal initBnsServerArray E.ulNow
        { wsWareHouseName, dwChannel, dwServerId, ulTick := E.ulNow } s.bnsDeal
      ({ s with bnsDeal := done.2 }, done.1)
  | .updateTeamSchedule dwTeamId wsScheduleName uScheduleIndex, s =>
      let done := BnsTeam.updateDungoenSchedule V.tools
        { wsAccountName := (s.account i).wsAccountName
          dwTeamId, wsScheduleName, uScheduleIndex } s.bnsTaskTeam
      ({ s with bnsTaskTeam := done.1 }, done.2)
  | .getTeamSchedule dwTeamId, s =>
      (s, BnsTeam.getDungoenSchedule V.tools dwTeamId s.bnsTaskTeam)
  | .setTeamReadonly dwTeamId, s =>
      let done := BnsTeam.setReadOnlyTeam V.tools dwTeamId s.bnsTaskTeam
      ({ s with bnsTaskTeam := done.1 }, done.2)
  | .getChannel TeamChannelMsg_, s =>
      (s, BnsTeam.getLessMemberChannel TeamChannelMsg_ s.bnsTaskTeam)
  | .getConfigValue ClientConfigContent_, s =>
      (s, CClientConfig.getConfigValueByName ClientConfigContent_ s.clientConfigMap)
  | .setConfigValue ClientConfigContent_, s =>
      ({ s with
        clientConfigMap :=
          CClientConfig.setConfigValueByName ClientConfigContent_ s.clientConfigMap },
        [.dword SOCK_MSG_SET_CONFIG_VALUE])
  | .saveLocalAccountLog, s => (s, [.dword SOCK_MSG_SAVE_LOCAL_ACCOUNT_LOG])
  | .otp wsAccountName, s => (s, getOTPKey E wsAccountName s)
  | .queryDailyTaskSchedule, s => (s, queryDailyTaskSchedule E (s.account i) s)
  | .updateDailyTaskSchedule _, s => (s, [.dword SOCK_MSG_UPDATE_DAILYTASK_SCHEDULE])

/-- A guarded request of the connection `i`. -/
def guard (i : Nat) (g : Guarded) (s : VerServer) : VerServer × List Put :=
  let alive := CVerManage.isALive V E (s.account i) s.vlst
  if alive.1 then handle V E i g { s with vlst := alive.2.2 } else (s, alive.2.1)

def getVerTitle (wstrIp : WString) : List Put :=
  match E.excuteSQL 0 (L "exec Proc_VrTitle '" ++ cStr wstrIp ++ L "'") with
  | none => messageBox (L "获取公告失败!")
  | some wszText => [.dword SOCK_MSG_TITLE, .text wszText]

def isNewBanned (wsAccountName : WString) : Bool :=
  match E.excuteSQL 0
      (L "exec Proc_ExistBanned_By_Account N'" ++ cStr wsAccountName ++ L "'") with
  | none => false
  | some wszMsg => !V.wstrcmpMy wszMsg (L "0")

/-- What the switch does for a request of the connection `i`. -/
def switch (i : Nat) : Request -> VerServer -> VerServer × List Put
  | .guarded g, s => guard V E i g s
  | .queryCardInfo VecCardCrc, s =>
      let done := CVerManage.queryClientCard V E VecCardCrc (s.account i).wsIp s.vlst
      ({ s with vlst := done.2 }.setAccount i
        { s.account i with wsAccountName := L "Console" }, done.1)
  | .keepALive KeepALiveContent_, s =>
      let done :=
        CVerManage.keepALive V E s.bBanned KeepALiveContent_ (s.account i) s.vlst
      ({ s with vlst := done.2.2 }.setAccount i done.2.1, done.1)
  | .getNextTaskScript, s => (s, [])
  | .loginGame wsVersion wsAccountName wsAccountPass wsCardNo, s =>
      let done := CVerManage.setToken V E s.wsBnsVersion
        { s.account i with
          wsIp := s.wsClientIp i
          wsVersion, wsAccountName, wsAccountPass, wsCardNo } s.vlst
      ({ s with vlst := done.2.2 }.setAccount i done.2.1, done.1)
  | .title, s => (s, getVerTitle E (s.wsClientIp i))
  | .leaveTeamOrder CtiMember, s =>
      ({ s with
        bnsTaskTeam := BnsTeam.deleteTaskMember V.tools CtiMember.selfCti.wsAccountName
          s.bnsTaskTeam }, [.dword SOCK_MSG_LEAVE_TEAM_ORDER])
  | .dissolutionTeam CtiMember, s =>
      ({ s with
        bnsTaskTeam := BnsTeam.deleteTaskMember V.tools CtiMember.selfCti.wsAccountName
          s.bnsTaskTeam }, [.dword SOCK_MSG_DISSOLUTION_TEAM])
  | .dissolutionDungoenTeam CtiMember, s =>
      -- the account's name is handed on as the player's
      ({ s with
        bnsTaskTeam := CBnsTaskTeam.deleteDungoenTeamMember V.tools
          CtiMember.selfCti.wsAccountName s.bnsTaskTeam },
        [.dword SOCK_MSG_DISSOLUTION_DUNGOEN_TEAM])
  | .clientDealMessage, s => (s, [.dword SOCK_MSG_CLIENT_DEALMESSAGE])
  | .clientLoginedLog wsPlayerName, s =>
      (s.setAccount i { s.account i with wsPlayerName := wsPlayerName },
        [.dword SOCK_MSG_CLIENT_LOGINED_LOG])
  | .clientBanned, s =>
      ({ s with bBanned := s.bBanned || isNewBanned V E (s.account i).wsAccountName },
        [.dword SOCK_MSG_CLIENT_BANNED])
  | .consoleKeepALive, s => (s, [.dword SOCK_MSG_CONSOLE_KEEPALIVE])
  | .invalid _, s => (s, [.dword SOCK_MSG_CLIENTMSG, .text (L "Invalid cmd")])

def sent (dwClientCmd : DWORD) : List Put -> List Put
  | [] => [.dword dwClientCmd, .dword dwClientCmd]
  | put :: puts => .dword dwClientCmd :: put :: puts

/-- One turn of `_WorkThread`: the server afterwards and the answer. -/
def work (i : Nat) (request : Request) (s : VerServer) : VerServer × List Put :=
  let done := switch V E i request s
  (done.1, sent request.dwClientCmd done.2)

end CVerSocket

/-!
## Steps
-/

/-- What changes the server: requests, lost connections and the console. -/
inductive ServerStep where
  | request (i : Nat) (E : Outside) (request : Request)
  /-- `fnBreakConnect` -/
  | breakConnect (i : Nat)
  /-- `RefushCard`, with the rows of the database at a time. -/
  | refushCard (ulNow : ULONGLONG) (rows : List TmpCard)
  /-- `UpdateScript`, with the scripts, the daily tasks and the next version. -/
  | updateScript (vlst : List ExpressScriptInfo) (VecDailyTask : List WString)
      (fVersion : DWORD)
  /-- `RefreshDBToMemory` of the accounts with a one-time password. -/
  | refreshDBToMemory (VecOTPAccount : List (WString × WString))

namespace VerServer

variable (V : VerTools)

def breakConnect (i : Nat) (s : VerServer) : VerServer :=
  if (s.account i).wsAccountName ≠ L "Empty" then
    { s with
      bnsTaskTeam :=
        BnsTeam.deleteTaskMember V.tools (s.account i).wsAccountName s.bnsTaskTeam }
  else s

/-- The daily tasks are taken even if the scripts are refused. -/
def updateScript (vlst : List ExpressScriptInfo) (VecDailyTask : List WString)
    (fVersion : DWORD) (s : VerServer) : VerServer :=
  if vlst = [] ∨ ¬ (vlst.map ExpressScriptInfo.dwScriptNameHash).Nodup then
    { s with vecDailyTask := VecDailyTask }
  else
    { s with
      vecDailyTask := VecDailyTask
      vScript := vlst
      fVersion := fVersion }

def apply : ServerStep -> VerServer -> VerServer
  | .request i E request, s => (CVerSocket.work V E i request s).1
  | .breakConnect i, s => s.breakConnect V i
  | .refushCard ulNow rows, s =>
      { s with
        vlst := CVerManage.refushCard V (CVerManage.getCardList V ulNow rows) s.vlst }
  | .updateScript vlst VecDailyTask fVersion, s =>
      s.updateScript vlst VecDailyTask fVersion
  | .refreshDBToMemory VecOTPAccount, s => { s with vecOTPAccount := VecOTPAccount }

/-- The server as `main` starts it. -/
def start (wsBnsVersion : WString) (ulNow : ULONGLONG) (rows : List TmpCard)
    (configs : List ClientConfigContent) : VerServer where
  wsBnsVersion := wsBnsVersion
  vlst := CVerManage.getCardList V ulNow rows
  clientConfigMap := CClientConfig.initializeMap configs ∅

def machine : Machine VerServer ServerStep where
  enabled _ _ := True
  step := apply V

end VerServer

end OldServer
end BnsKorea
