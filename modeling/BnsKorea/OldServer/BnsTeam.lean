import BnsKorea.TaskTeam.Queries
import BnsKorea.OldServer.BnsDeal

/-!
# The teams of the old server

`CBnsTaskTeam` of the old server keeps the tables that the one of the new server
keeps.  Its searches, the seats it gives and the leaving of a dungeon team are
the same, line by line.  It writes its answers into a buffer, and a key whose
last team is dismissed stays in the table.
-/

namespace BnsKorea
namespace OldServer

open Library

def SOCK_MSG_JOIN_TEAM_ORDER : DWORD := 0xB
def SOCK_MSG_JOIN_DUNGOEN_TEAM : DWORD := 0x1A
def SOCK_MSG_GET_CHANNEL : DWORD := 0x1C
def SOCK_MSG_UPDATE_TEAM_SCHEDULE : DWORD := 0x1F
def SOCK_MSG_GET_TEAM_SCHEDULE : DWORD := 0x20
def SOCK_MSG_SET_TEAM_READONLY : DWORD := 0x22

namespace BnsTeam

open CBnsTaskTeam

variable (T : MyTools)

/-!
## Leaving
-/

/-- One turn of the loop over the keys; a deque left empty stays. -/
def deleteTurn (wsAccountName : WString)
    (map_TeamGroup : Std.TreeMap WString TeamGroup) (itm : WString × TeamGroup) :
    Std.TreeMap WString TeamGroup :=
  map_TeamGroup.insert itm.1 (dismissTeamOf T wsAccountName itm.2)

def deleteTeamMember (wsAccountName : WString) (w : TeamMap) (s : CBnsTaskTeam) :
    CBnsTaskTeam :=
  s.setMap w ((s.map w).toList.foldl (deleteTurn T wsAccountName) (s.map w))

def deleteTaskMember (wsAccountName : WString) (s : CBnsTaskTeam) : CBnsTaskTeam :=
  deleteTeamMember T wsAccountName .taskTeamMap s

/-!
## Joining
-/

def putMember (Member : ClientTeamMember) : List Put :=
  [.text Member.wsPlayerName, .dword Member.dwPlayerId]

def foundPuts (dwMsg : DWORD) (TeamMemberGroup_ : TeamMemberGroup)
    (TeamSelf Captain : TeamMemberInfo) : List Put :=
  .dword dwMsg :: putMember Captain.member ++
    if Captain.member.wsAccountName ≠ TeamSelf.member.wsAccountName then
      [.dword 0, .dword TeamMemberGroup_.dwTeamId]
    else
      -- the captain is counted off, whether or not it is in the list once
      .dword (UInt32.ofNat TeamMemberGroup_.memberVec.length - 1) ::
        (TeamMemberGroup_.memberVec.flatMap fun itm =>
          if itm.bCaptain then [] else putMember itm.member) ++
        [.dword TeamMemberGroup_.dwTeamId]

def joinFound (dwMsg : DWORD) (CtiMember : ClientTeamInfo) (w : TeamMap)
    (found : Place TeamMemberGroup × Place TeamMemberInfo) (s : CBnsTaskTeam) :
    CBnsTaskTeam × List Put :=
  let TeamSelf := updateSelf CtiMember found.2.here
  let TeamMemberGroup_ :=
    { found.1.here with memberVec := found.2.put TeamSelf }
  let s := s.setGroup w (createMapText T CtiMember)
    (found.1.put TeamMemberGroup_)
  match findCaptain_By_AccountName_In_TeamMemberGroup T TeamMemberGroup_ with
  | some Captain => (s, foundPuts dwMsg TeamMemberGroup_ TeamSelf Captain)
  | none =>
      (deleteTeamMember T CtiMember.selfCti.wsAccountName .dungoenTeamMap s, [])

def vacantPuts (dwMsg : DWORD) (TeamMemberGroup_ : TeamMemberGroup)
    (Captain : TeamMemberInfo) : List Put :=
  .dword dwMsg :: putMember Captain.member ++
    [.dword 0, .dword TeamMemberGroup_.dwTeamId]

def createTeamMemberGroup (dwMsg : DWORD) (CtiMember : ClientTeamInfo) (w : TeamMap)
    (TeamGroup_ : TeamGroup) (s : CBnsTaskTeam) : Bool × CBnsTaskTeam × List Put :=
  let NewTeamMemberGroup_ :=
    newTeamMemberGroup CtiMember (UInt32.ofNat (s.dwTeamIdCount + 1))
  (true,
    { s.setGroup w (createMapText T CtiMember)
        (TeamGroup_ ++ [NewTeamMemberGroup_]) with
      dwTeamIdCount := s.dwTeamIdCount + 1 },
    vacantPuts dwMsg NewTeamMemberGroup_
      { bCaptain := true, member := CtiMember.selfCti })

def findVacantPosition_In_TeamMemberGroup (dwMsg : DWORD)
    (CtiMember : ClientTeamInfo) (w : TeamMap) (s : CBnsTaskTeam) :
    Bool × CBnsTaskTeam × List Put :=
  let wsMapText := createMapText T CtiMember
  match (s.map w)[wsMapText]? with
  | none => (false, s, [])
  | some TeamGroup_ =>
      match findSeat T CtiMember TeamGroup_ with
      | some (p, wsGroupTitle) =>
          let itm := seatMember CtiMember wsGroupTitle p.here
          let s := s.setGroup w wsMapText (p.put itm)
          match findCaptain_By_AccountName_In_TeamMemberGroup T itm with
          | some Captain => (true, s, vacantPuts dwMsg itm Captain)
          | none => (false, s, [])
      | none => createTeamMemberGroup T dwMsg CtiMember w TeamGroup_ s

def joinTeam (dwMsg : DWORD) (CtiMember : ClientTeamInfo) (w : TeamMap)
    (s : CBnsTaskTeam) : CBnsTaskTeam × List Put :=
  let exist := existTeamMember T CtiMember w s
  match exist.2 with
  | some found => joinFound T dwMsg CtiMember w found exist.1
  | none =>
      let vacant :=
        findVacantPosition_In_TeamMemberGroup T dwMsg CtiMember w exist.1
      if vacant.1 then vacant.2
      else
        let again :=
          findVacantPosition_In_TeamMemberGroup T dwMsg CtiMember w vacant.2.1
        (again.2.1, vacant.2.2 ++ again.2.2)

def join (dwMsg : DWORD) (w : TeamMap) (CtiMember : ClientTeamInfo)
    (s : CBnsTaskTeam) : CBnsTaskTeam × List Put :=
  if !isWork CtiMember then
    (s, [.dword SOCK_MSG_JOIN_TEAM_ORDER, .text [], .dword 0])
  else joinTeam T dwMsg CtiMember w s

def joinTaskTeam : ClientTeamInfo -> CBnsTaskTeam -> CBnsTaskTeam × List Put :=
  join T SOCK_MSG_JOIN_TEAM_ORDER .taskTeamMap

def joinDungoenTeam : ClientTeamInfo -> CBnsTaskTeam -> CBnsTaskTeam × List Put :=
  join T SOCK_MSG_JOIN_DUNGOEN_TEAM .dungoenTeamMap

/-!
## Channels, schedules and read-only teams
-/

def getLessMemberChannel (TeamChannelMsg_ : TeamChannelMsg) (s : CBnsTaskTeam) :
    List Put :=
  [.dword SOCK_MSG_GET_CHANNEL,
    .dword (CBnsTaskTeam.getLessMemberChannel TeamChannelMsg_ s)]

def updateDungoenSchedule (TeamScheduleMsg_ : TeamScheduleMsg) (s : CBnsTaskTeam) :
    CBnsTaskTeam × List Put :=
  (CBnsTaskTeam.updateDungoenSchedule T TeamScheduleMsg_ s,
    [.dword SOCK_MSG_UPDATE_TEAM_SCHEDULE])

def putSchedule (TeamMemberGroup_ : TeamMemberGroup) (itm : TeamMemberInfo) :
    List Put :=
  [.text itm.member.wsAccountName, .text itm.member.wsPlayerName,
    .dword itm.member.dwPlayerId, .text itm.dungoen.wsDungoenSchedule,
    .dword itm.dungoen.uGatherIndex, .dword TeamMemberGroup_.dwTaskId,
    .dword TeamMemberGroup_.dwScheduleId]

def getDungoenSchedule (dwTeamId : DWORD) (s : CBnsTaskTeam) : List Put :=
  match existTeamMember_By_TeamId T dwTeamId s.dungoenTeamMap with
  | some (_, p) =>
      .dword SOCK_MSG_GET_TEAM_SCHEDULE ::
        .dword (UInt32.ofNat p.here.memberVec.length) ::
        p.here.memberVec.flatMap (putSchedule p.here)
  | none => [.dword SOCK_MSG_GET_TEAM_SCHEDULE, .dword 0]

def setReadOnlyTeam (dwTeamId : DWORD) (s : CBnsTaskTeam) :
    CBnsTaskTeam × List Put :=
  let bExist := (existTeamMember_By_TeamId T dwTeamId s.dungoenTeamMap).isSome
  (CBnsTaskTeam.setReadOnlyTeam T dwTeamId s,
    [.dword SOCK_MSG_SET_TEAM_READONLY, .dword (if bExist then 1 else 0)])

/-!
## Runs
-/

inductive Call where
  | joinTaskTeam (CtiMember : ClientTeamInfo)
  | joinDungoenTeam (CtiMember : ClientTeamInfo)
  | deleteTaskMember (wsAccountName : WString)
  | deleteDungoenTeamMember (wsPlayerName : WString)
  | getLessMemberChannel (TeamChannelMsg_ : TeamChannelMsg)
  | updateDungoenSchedule (TeamScheduleMsg_ : TeamScheduleMsg)
  | getDungoenSchedule (dwTeamId : DWORD)
  | setReadOnlyTeam (dwTeamId : DWORD)

def apply : Call -> CBnsTaskTeam -> CBnsTaskTeam × List Put
  | .joinTaskTeam CtiMember, s => joinTaskTeam T CtiMember s
  | .joinDungoenTeam CtiMember, s => joinDungoenTeam T CtiMember s
  | .deleteTaskMember wsAccountName, s => (deleteTaskMember T wsAccountName s, [])
  | .deleteDungoenTeamMember wsPlayerName, s =>
      (deleteDungoenTeamMember T wsPlayerName s, [])
  | .getLessMemberChannel TeamChannelMsg_, s =>
      (s, getLessMemberChannel TeamChannelMsg_ s)
  | .updateDungoenSchedule TeamScheduleMsg_, s =>
      updateDungoenSchedule T TeamScheduleMsg_ s
  | .getDungoenSchedule dwTeamId, s => (s, getDungoenSchedule T dwTeamId s)
  | .setReadOnlyTeam dwTeamId, s => setReadOnlyTeam T dwTeamId s

def answers : List Call -> CBnsTaskTeam -> CBnsTaskTeam × List (List Put)
  | [], s => (s, [])
  | call :: calls, s =>
      let done := apply T call s
      let rest := answers calls done.1
      (rest.1, done.2 :: rest.2)

end BnsTeam

end OldServer
end BnsKorea
