import BnsKorea.Common.SocketBuffer
import BnsKorea.TaskTeam.Model

/-!
# The answers of the server

The fields of the answers, and the values they are written as.  A handler leaves
an answer behind a head in the buffer, or an error text, or nothing.
-/

namespace BnsKorea
namespace Server

open Library SocketValue

structure CardAnswer where
  nMaxHour : INT
  nSurplusHour : INT
  wsActiveTime : WString
deriving DecidableEq

structure ScriptAnswer where
  wsScriptName : WString
  uExpressSize : UINT
  uCipherTextSize : UINT
  dwExpressTextCrc : DWORD
  dwCipherTextCrc : DWORD
  wsAccountName : WString
  content : List BYTE
deriving DecidableEq

structure TeamGroupAnswer where
  wsDungeonName : WString
  captain : TeamMemberResult
  dwRoomId : DWORD
  dwDungeonMapIndex : DWORD
  emDifficulty : DWORD
  vecMember : List TeamMemberResult
deriving DecidableEq

/-- The fields of an answer. -/
inductive Answer where
  | cards (VecCard : List (Option CardAnswer))
  | keepALive (bBanned : DWORD)
  | script (ScriptContent : ScriptAnswer)
  | text (ws : WString)
  | team (Result : BnsTeamResult)
  | itemSupport (Deal : Option (WString × DWORD))
  | warehouse (emWarehouseType emIsPick : DWORD) (wsPlayerName : WString)
  | teamSchedule (VecResult : List BnsDungoenScheduleMember)
  | value (dwValue : DWORD)
  | texts (VecResult : List WString)
  | unknownTeamGroup
  | teamGroup (TeamGroup : TeamGroupAnswer)
  | contentSet
  | seriaNumbers (Vec : List SocketAccountVirtualSeriaNumber)

namespace Answer

def int (n : INT) : SocketValue :=
  dword n.toUInt32

def cardValues : Option CardAnswer -> List SocketValue
  | none => [FALSE]
  | some Card =>
      [TRUE, int Card.nMaxHour, int Card.nSurplusHour,
        SocketValue.text Card.wsActiveTime]

def memberValues (itm : TeamMemberResult) : List SocketValue :=
  [SocketValue.text itm.wsPlayerName, dword itm.dwPlayerId]

def scheduleValues (itm : BnsDungoenScheduleMember) : List SocketValue :=
  [SocketValue.text itm.wsAccountName, SocketValue.text itm.wsPlayerName,
    dword itm.dwPlayerId, SocketValue.text itm.wsDungoenSchedule,
    dword itm.uGatherIndex, dword itm.dwTaskId, dword itm.dwScheduleId]

def seriaNumberValues (itm : SocketAccountVirtualSeriaNumber) :
    List SocketValue :=
  [SocketValue.text itm.wsAccountName,
    SocketValue.text itm.wsHardDiskSeriaNumber, SocketValue.text itm.wsMacAddr,
    SocketValue.text itm.wsNetCard]

/-- The values `operator <<` puts into the buffer, in order. -/
def values : Answer -> List SocketValue
  | cards VecCard => VecCard.flatMap cardValues
  | keepALive bBanned => [dword bBanned]
  | script ScriptContent =>
      [SocketValue.text ScriptContent.wsScriptName,
        dword ScriptContent.uExpressSize, dword ScriptContent.uCipherTextSize,
        dword ScriptContent.dwExpressTextCrc,
        dword ScriptContent.dwCipherTextCrc,
        SocketValue.text ScriptContent.wsAccountName,
        data ScriptContent.content]
  | text ws => [SocketValue.text ws]
  | team Result =>
      memberValues Result.captain ++
        dword Result.dwTeamId :: size Result.vecTeamMember ::
          Result.vecTeamMember.flatMap memberValues
  | itemSupport none => [dword 0]
  | itemSupport (some (wsWareHouseName, dwChannel)) =>
      [dword 1, SocketValue.text wsWareHouseName, dword dwChannel]
  | warehouse emWarehouseType emIsPick wsPlayerName =>
      [dword emWarehouseType, dword emIsPick, SocketValue.text wsPlayerName]
  | teamSchedule VecResult =>
      size VecResult :: VecResult.flatMap scheduleValues
  | value dwValue => [dword dwValue]
  | texts VecResult => size VecResult :: VecResult.map SocketValue.text
  | unknownTeamGroup => [FALSE]
  | teamGroup TeamGroup =>
      TRUE :: SocketValue.text TeamGroup.wsDungeonName ::
        memberValues TeamGroup.captain ++
          dword TeamGroup.dwRoomId :: dword TeamGroup.dwDungeonMapIndex ::
            dword TeamGroup.emDifficulty :: size TeamGroup.vecMember ::
              TeamGroup.vecMember.flatMap memberValues
  | contentSet => [bool true]
  | seriaNumbers Vec => size Vec :: Vec.flatMap seriaNumberValues

/-- The sizes of the lists that are counted are 32-bit numbers. -/
def SizesFit : Answer -> Prop
  | team Result => Result.vecTeamMember.length < 2 ^ 32
  | teamSchedule VecResult => VecResult.length < 2 ^ 32
  | texts VecResult => VecResult.length < 2 ^ 32
  | teamGroup TeamGroup => TeamGroup.vecMember.length < 2 ^ 32
  | seriaNumbers Vec => Vec.length < 2 ^ 32
  | _ => True

end Answer

/-- What a handler leaves in the buffer it was given. -/
inductive Reply where
  /-- The buffer was not written to; what the handler did not take is left. -/
  | unwritten (rest : List SocketValue)
  | error (wsText : WString)
  | answer (head : Option SockMsg) (fields : Answer)

def Reply.buffer : Reply -> SocketBuffer
  | unwritten rest => { values := rest }
  | error wsText =>
      { head := some SockMsg.errorText, values := [SocketValue.text wsText] }
  | answer head fields => { head := head, values := fields.values }

end Server
end BnsKorea
