import BnsKorea.TaskTeam.Model

/-!
# Questions about the teams

The channel with the fewest teams of a task, and the schedules of a dungeon
team.  Neither changes the tables.
-/

namespace BnsKorea

open Library

namespace CBnsTaskTeam

/-!
## Channels
-/

def sameTask (TeamChannelMsg_ : TeamChannelMsg)
    (TeamMemberGroup_ : TeamMemberGroup) : Bool :=
  TeamMemberGroup_.dwServerId == TeamChannelMsg_.dwServerId &&
    TeamMemberGroup_.dwTaskId == TeamChannelMsg_.dwTaskId &&
    TeamMemberGroup_.dwScheduleId == TeamChannelMsg_.dwScheduleId

def getSameChannelMap (TeamChannelMsg_ : TeamChannelMsg) (s : CBnsTaskTeam) :
    Std.TreeMap DWORD DWORD :=
  (s.taskTeamMap.toList.flatMap Prod.snd).foldl
    (fun ChannelMap TeamMemberGroup_ =>
      if sameTask TeamChannelMsg_ TeamMemberGroup_ then
        match ChannelMap[TeamMemberGroup_.dwChannelId]? with
        | none => ChannelMap.insertIfNew TeamMemberGroup_.dwChannelId 1
        | some count => ChannelMap.insert TeamMemberGroup_.dwChannelId (count + 1)
      else ChannelMap) ∅

/-- The first channel from `i` on, of `n` channels, that has no team. -/
def findEmptyChannel (ChannelMap : Std.TreeMap DWORD DWORD) :
    Nat -> DWORD -> Option DWORD
  | 0, _ => none
  | n + 1, i =>
      match ChannelMap[i]? with
      | none => some i
      | some _ => findEmptyChannel ChannelMap n (i + 1)

def getLessMemberChannel (TeamChannelMsg_ : TeamChannelMsg)
    (s : CBnsTaskTeam) : DWORD :=
  let ChannelMap := getSameChannelMap TeamChannelMsg_ s
  match findEmptyChannel ChannelMap TeamChannelMsg_.dwMaxChannel.toNat 1 with
  | some i => i
  | none =>
      match ChannelMap.toList.mergeSort fun p1 p2 => decide (p1.2 ≤ p2.2) with
      | [] => 1
      | p :: _ => p.2

/-!
## Schedules
-/

def scheduleMember (TeamMemberGroup_ : TeamMemberGroup) (itm : TeamMemberInfo) :
    BnsDungoenScheduleMember where
  wsPlayerName := itm.member.wsPlayerName
  dwPlayerId := itm.member.dwPlayerId
  wsDungoenSchedule := itm.dungoen.wsDungoenSchedule
  uGatherIndex := itm.dungoen.uGatherIndex
  dwTaskId := TeamMemberGroup_.dwTaskId
  dwScheduleId := TeamMemberGroup_.dwScheduleId

def getDungoenSchedule (T : MyTools) (dwTeamId : DWORD) (s : CBnsTaskTeam) :
    List BnsDungoenScheduleMember :=
  match existTeamMember_By_TeamId T dwTeamId s.dungoenTeamMap with
  | none => []
  | some (_, p) => p.here.memberVec.map (scheduleMember p.here)

end CBnsTaskTeam
end BnsKorea
