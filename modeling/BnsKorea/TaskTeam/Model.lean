import BnsKorea.Library.Machines
import BnsKorea.Common.MyTools

/-!
# The task and dungeon teams

The server keeps teams in two maps from a formatted key to a deque of teams.
A join looks the account up under its key, or takes a free seat of a team
there, or founds a team; the reply names the captain and, to the captain, the
members.

A pointer into a deque is a place of it, and a search that runs a callback on
what it finds is a search for the places the callback is then applied to.
-/

namespace BnsKorea

open Library

structure DungoenTeamMember where
  wsDungoenSchedule : WString := []
  uGatherIndex : UINT := 0

structure TeamMemberInfo where
  bCaptain : Bool
  member : ClientTeamMember
  dungoen : DungoenTeamMember := {}

structure TeamMemberGroup where
  memberVec : List TeamMemberInfo := []
  uMaxMemberCount : UINT := 0
  dwTaskId : DWORD := 0
  dwScheduleId : DWORD := 0
  dwChannelId : DWORD := 0
  dwServerId : DWORD := 0
  dwTeamId : DWORD := 0
  wsDungoenName : WString := L "主线"
  isReadOnly : Bool := false
  wsGroupTitle : WString := []

abbrev TeamGroup := List TeamMemberGroup

structure TeamMemberResult where
  wsPlayerName : WString := []
  dwPlayerId : DWORD := 0
deriving DecidableEq

structure BnsTeamResult where
  vecTeamMember : List TeamMemberResult := []
  dwTeamId : DWORD := 0
  captain : TeamMemberResult := {}
deriving DecidableEq

namespace BnsTeamResult

def addMember (Result : BnsTeamResult) (wsPlayerName : WString)
    (dwPlayerId : DWORD) : BnsTeamResult :=
  { Result with
    vecTeamMember := Result.vecTeamMember ++
      [{ wsPlayerName := wsPlayerName, dwPlayerId := dwPlayerId }] }

def setCaptain (Result : BnsTeamResult) (wsPlayerName : WString)
    (dwPlayerId : DWORD) : BnsTeamResult :=
  { Result with
    captain := { wsPlayerName := wsPlayerName, dwPlayerId := dwPlayerId } }

def setTeamId (Result : BnsTeamResult) (dwTeamId : DWORD) : BnsTeamResult :=
  { Result with dwTeamId := dwTeamId }

end BnsTeamResult

/-- Which of the two maps an operation is given. -/
inductive TeamMap where
  | taskTeamMap
  | dungoenTeamMap
deriving DecidableEq

/-- `dwTeamIdCount` counts the increments of `m_dwTeamId`, which is a `DWORD`. -/
structure CBnsTaskTeam where
  taskTeamMap : Std.TreeMap WString TeamGroup := ∅
  dungoenTeamMap : Std.TreeMap WString TeamGroup := ∅
  dwTeamIdCount : Nat := 0

namespace CBnsTaskTeam

def map (s : CBnsTaskTeam) : TeamMap -> Std.TreeMap WString TeamGroup
  | .taskTeamMap => s.taskTeamMap
  | .dungoenTeamMap => s.dungoenTeamMap

def setMap (s : CBnsTaskTeam) (w : TeamMap)
    (map_TeamGroup : Std.TreeMap WString TeamGroup) : CBnsTaskTeam :=
  match w with
  | .taskTeamMap => { s with taskTeamMap := map_TeamGroup }
  | .dungoenTeamMap => { s with dungoenTeamMap := map_TeamGroup }

def setGroup (s : CBnsTaskTeam) (w : TeamMap) (wsMapText : WString)
    (TeamGroup_ : TeamGroup) : CBnsTaskTeam :=
  s.setMap w ((s.map w).insert wsMapText TeamGroup_)

variable (T : MyTools)

def mapText (dwServerId dwTaskId dwScheduleId dwChannelId : DWORD) : WString :=
  T.makeFormatText (L "%X,[%X,%X],%d")
    [dwServerId, dwTaskId, dwScheduleId, dwChannelId]

def createMapText (CtiMember : ClientTeamInfo) : WString :=
  mapText T CtiMember.dwServerId CtiMember.dwTaskId CtiMember.dwScheduleId
    CtiMember.dwChannelId

def isWork (CtiMember : ClientTeamInfo) : Bool :=
  CtiMember.selfCti.wsPlayerName != [] && CtiMember.selfCti.dwPlayerId != 0

/-!
## Searches
-/

def existMember_By_AccountName_In_TeamMemberGroup (wsAccountName : WString) :
    TeamGroup -> Option (Place TeamMemberGroup × Place TeamMemberInfo)
  | [] => none
  | itm :: TeamGroup_ =>
      match T.dequeFindIf itm.memberVec fun Member =>
          Member.member.wsAccountName == wsAccountName with
      | some p => some ({ pre := [], here := itm, post := TeamGroup_ }, p)
      | none =>
          (existMember_By_AccountName_In_TeamMemberGroup wsAccountName
            TeamGroup_).map fun found =>
              ({ found.1 with pre := itm :: found.1.pre }, found.2)

def existMember_By_TeamId_In_TeamMemberGroup (dwTeamId : DWORD)
    (TeamGroup_ : TeamGroup) : Option (Place TeamMemberGroup) :=
  T.dequeFindIf TeamGroup_ fun itm => itm.dwTeamId == dwTeamId

def existTeamMember_By_TeamId (dwTeamId : DWORD)
    (map_TeamGroup : Std.TreeMap WString TeamGroup) :
    Option (WString × Place TeamMemberGroup) :=
  map_TeamGroup.toList.findSome? fun itm =>
    (existMember_By_TeamId_In_TeamMemberGroup T dwTeamId itm.2).map fun p =>
      (itm.1, p)

def findCaptain_By_AccountName_In_TeamMemberGroup
    (TeamMemberGroup_ : TeamMemberGroup) : Option TeamMemberInfo :=
  (T.dequeFindIf TeamMemberGroup_.memberVec fun TeamMemberInfo_ =>
    TeamMemberInfo_.bCaptain).map Place.here

/-!
## Leaving
-/

def dismissTeamMemberGroup (TeamGroup_ : TeamGroup)
    (TeamMemberGroup_ : TeamMemberGroup) : TeamGroup :=
  T.dqueEraseIf TeamGroup_ fun itm =>
    itm.dwTeamId == TeamMemberGroup_.dwTeamId

def dismissTeamOf (wsAccountName : WString) (TeamGroup_ : TeamGroup) :
    TeamGroup :=
  match existMember_By_AccountName_In_TeamMemberGroup T wsAccountName
      TeamGroup_ with
  | none => TeamGroup_
  | some (p, _) => dismissTeamMemberGroup T TeamGroup_ p.here

/-- One turn of the loop over the keys: a deque left empty is erased. -/
def deleteTurn (wsAccountName : WString)
    (map_TeamGroup : Std.TreeMap WString TeamGroup)
    (itr : WString × TeamGroup) : Std.TreeMap WString TeamGroup :=
  let TeamGroup_ := dismissTeamOf T wsAccountName itr.2
  if TeamGroup_.length = 0 then map_TeamGroup.erase itr.1
  else map_TeamGroup.insert itr.1 TeamGroup_

def deleteTeamMember (wsAccountName : WString) (w : TeamMap)
    (s : CBnsTaskTeam) : CBnsTaskTeam :=
  s.setMap w
    ((s.map w).toList.foldl (deleteTurn T wsAccountName) (s.map w))

def leaveDungoenTeam (wsPlayerName : WString) (TeamGroup_ : TeamGroup) :
    TeamGroup :=
  match existMember_By_AccountName_In_TeamMemberGroup T wsPlayerName
      TeamGroup_ with
  | none => TeamGroup_
  | some (p, _) =>
      if p.here.memberVec.length ≤ 1 then
        dismissTeamMemberGroup T TeamGroup_ p.here
      else TeamGroup_

def leaveTurn (wsPlayerName : WString)
    (DungoenTeamMap : Std.TreeMap WString TeamGroup)
    (itm : WString × TeamGroup) : Std.TreeMap WString TeamGroup :=
  DungoenTeamMap.insert itm.1 (leaveDungoenTeam T wsPlayerName itm.2)

def deleteDungoenTeamMember (wsPlayerName : WString) (s : CBnsTaskTeam) :
    CBnsTaskTeam :=
  s.setMap .dungoenTeamMap
    (s.dungoenTeamMap.toList.foldl (leaveTurn T wsPlayerName) s.dungoenTeamMap)

def deleteTaskMember (wsAccountName : WString) (s : CBnsTaskTeam) :
    CBnsTaskTeam :=
  deleteTeamMember T wsAccountName .taskTeamMap s

/-!
## Joining
-/

/-- A team of the caller alone; its title is not set. -/
def newTeamMemberGroup (CtiMember : ClientTeamInfo) (dwTeamId : DWORD) :
    TeamMemberGroup where
  memberVec := [{ bCaptain := true, member := CtiMember.selfCti }]
  uMaxMemberCount := CtiMember.dwMaxMember
  dwTaskId := CtiMember.dwTaskId
  dwScheduleId := CtiMember.dwScheduleId
  dwChannelId := CtiMember.dwChannelId
  dwServerId := CtiMember.dwServerId
  dwTeamId := dwTeamId

def createTeamGroup (wsMapText : WString) (CtiMember : ClientTeamInfo)
    (w : TeamMap) (s : CBnsTaskTeam) : CBnsTaskTeam :=
  { s.setMap w ((s.map w).insertIfNew wsMapText
      [newTeamMemberGroup CtiMember (UInt32.ofNat (s.dwTeamIdCount + 1))]) with
    dwTeamIdCount := s.dwTeamIdCount + 1 }

def existTeamMember (CtiMember : ClientTeamInfo) (w : TeamMap)
    (s : CBnsTaskTeam) :
    CBnsTaskTeam × Option (Place TeamMemberGroup × Place TeamMemberInfo) :=
  let wsMapText := createMapText T CtiMember
  let s :=
    match (s.map w)[wsMapText]? with
    | none => createTeamGroup wsMapText CtiMember w s
    | some _ => s
  (s, existMember_By_AccountName_In_TeamMemberGroup T
    CtiMember.selfCti.wsAccountName ((s.map w)[wsMapText]?.getD []))

def foundReply (TeamMemberGroup_ : TeamMemberGroup)
    (TeamSelf Captain : TeamMemberInfo) (Result : BnsTeamResult) :
    BnsTeamResult :=
  let Result :=
    Result.setCaptain Captain.member.wsPlayerName Captain.member.dwPlayerId
  if Captain.member.wsAccountName ≠ TeamSelf.member.wsAccountName then
    Result.setTeamId TeamMemberGroup_.dwTeamId
  else
    -- the captain itself is skipped in the list
    (TeamMemberGroup_.memberVec.foldl
      (fun Result itm =>
        if itm.bCaptain then Result
        else Result.addMember itm.member.wsPlayerName itm.member.dwPlayerId)
      Result).setTeamId TeamMemberGroup_.dwTeamId

def updateSelf (CtiMember : ClientTeamInfo) (TeamSelf : TeamMemberInfo) :
    TeamMemberInfo :=
  { TeamSelf with
    member := { TeamSelf.member with
      dwPlayerId := CtiMember.selfCti.dwPlayerId
      wsPlayerName := CtiMember.selfCti.wsPlayerName } }

def joinFound (CtiMember : ClientTeamInfo) (w : TeamMap)
    (found : Place TeamMemberGroup × Place TeamMemberInfo)
    (Result : BnsTeamResult) (s : CBnsTaskTeam) :
    CBnsTaskTeam × BnsTeamResult :=
  let TeamSelf := updateSelf CtiMember found.2.here
  let TeamMemberGroup_ :=
    { found.1.here with memberVec := found.2.put TeamSelf }
  let s := s.setGroup w (createMapText T CtiMember)
    (found.1.put TeamMemberGroup_)
  match findCaptain_By_AccountName_In_TeamMemberGroup T TeamMemberGroup_ with
  | some Captain => (s, foundReply TeamMemberGroup_ TeamSelf Captain Result)
  | none =>
      (deleteTeamMember T CtiMember.selfCti.wsAccountName .dungoenTeamMap s,
        Result)

def vacantReply (TeamMemberGroup_ : TeamMemberGroup) (Captain : TeamMemberInfo)
    (Result : BnsTeamResult) : BnsTeamResult :=
  (Result.setCaptain Captain.member.wsPlayerName
    Captain.member.dwPlayerId).setTeamId TeamMemberGroup_.dwTeamId

def vacantUnderTitle (CtiMember : ClientTeamInfo) (itm : TeamMemberGroup) :
    Bool :=
  if itm.wsGroupTitle ≠ [] ∧ itm.wsGroupTitle ≠ CtiMember.wsGroupTitle then
    false
  else decide (itm.memberVec.length < itm.uMaxMemberCount.toNat)

/-- The test of the second search, which looks at no title. -/
def vacantNotReadOnly (itm : TeamMemberGroup) : Bool :=
  decide (itm.memberVec.length < itm.uMaxMemberCount.toNat) && !itm.isReadOnly

def findSeat (CtiMember : ClientTeamInfo) (TeamGroup_ : TeamGroup) :
    Option (Place TeamMemberGroup × WString) :=
  let second := (firstPlace vacantNotReadOnly TeamGroup_).map fun p =>
    (p, CtiMember.wsGroupTitle)
  match T.dequeFindIf TeamGroup_ (vacantUnderTitle CtiMember) with
  | some p => if p.here.isReadOnly then second else some (p, p.here.wsGroupTitle)
  | none => second

def seatMember (CtiMember : ClientTeamInfo) (wsGroupTitle : WString)
    (TeamMemberGroup_ : TeamMemberGroup) : TeamMemberGroup :=
  { TeamMemberGroup_ with
    wsGroupTitle := wsGroupTitle
    memberVec := TeamMemberGroup_.memberVec ++
      [{ bCaptain := false, member := CtiMember.selfCti }] }

def createTeamMemberGroup (CtiMember : ClientTeamInfo) (w : TeamMap)
    (TeamGroup_ : TeamGroup) (Result : BnsTeamResult) (s : CBnsTaskTeam) :
    Bool × CBnsTaskTeam × BnsTeamResult :=
  let NewTeamMemberGroup_ :=
    newTeamMemberGroup CtiMember (UInt32.ofNat (s.dwTeamIdCount + 1))
  (true,
    { s.setGroup w (createMapText T CtiMember)
        (TeamGroup_ ++ [NewTeamMemberGroup_]) with
      dwTeamIdCount := s.dwTeamIdCount + 1 },
    vacantReply NewTeamMemberGroup_
      { bCaptain := true, member := CtiMember.selfCti } Result)

def findVacantPosition_In_TeamMemberGroup (CtiMember : ClientTeamInfo)
    (w : TeamMap) (Result : BnsTeamResult) (s : CBnsTaskTeam) :
    Bool × CBnsTaskTeam × BnsTeamResult :=
  let wsMapText := createMapText T CtiMember
  match (s.map w)[wsMapText]? with
  | none => (false, s, Result)
  | some TeamGroup_ =>
      match findSeat T CtiMember TeamGroup_ with
      | some (p, wsGroupTitle) =>
          let itm := seatMember CtiMember wsGroupTitle p.here
          let s := s.setGroup w wsMapText (p.put itm)
          match findCaptain_By_AccountName_In_TeamMemberGroup T itm with
          | some Captain => (true, s, vacantReply itm Captain Result)
          | none => (false, s, Result)
      | none => createTeamMemberGroup T CtiMember w TeamGroup_ Result s

def joinTeam (CtiMember : ClientTeamInfo) (w : TeamMap)
    (Result : BnsTeamResult) (s : CBnsTaskTeam) :
    CBnsTaskTeam × BnsTeamResult :=
  let exist := existTeamMember T CtiMember w s
  match exist.2 with
  | some found => joinFound T CtiMember w found Result exist.1
  | none =>
      let vacant :=
        findVacantPosition_In_TeamMemberGroup T CtiMember w Result exist.1
      if vacant.1 then vacant.2
      else
        (findVacantPosition_In_TeamMemberGroup T CtiMember w vacant.2.2
          vacant.2.1).2

def join (w : TeamMap) (CtiMember : ClientTeamInfo) (Result : BnsTeamResult)
    (s : CBnsTaskTeam) : Bool × CBnsTaskTeam × BnsTeamResult :=
  if !isWork CtiMember then (false, s, Result)
  else (true, joinTeam T CtiMember w Result s)

def joinTaskTeam : ClientTeamInfo -> BnsTeamResult -> CBnsTaskTeam ->
    Bool × CBnsTaskTeam × BnsTeamResult :=
  join T .taskTeamMap

def joinDungoenTeam : ClientTeamInfo -> BnsTeamResult -> CBnsTaskTeam ->
    Bool × CBnsTaskTeam × BnsTeamResult :=
  join T .dungoenTeamMap

/-!
## Schedules and read-only teams
-/

/-- The account's entry in a team, rewritten by `Worker`. -/
def actionInTeamGroupMemberByAccountName (wsAccountName : WString)
    (Worker : TeamMemberInfo -> TeamMemberInfo)
    (TeamMemberGroup_ : TeamMemberGroup) : TeamMemberGroup :=
  match T.dequeFindIf TeamMemberGroup_.memberVec fun itm =>
      itm.member.wsAccountName == wsAccountName with
  | none => TeamMemberGroup_
  | some p => { TeamMemberGroup_ with memberVec := p.put (Worker p.here) }

def updateTeam_By_TeamId (dwTeamId : DWORD)
    (Worker : TeamMemberGroup -> TeamMemberGroup) (s : CBnsTaskTeam) :
    CBnsTaskTeam :=
  match existTeamMember_By_TeamId T dwTeamId s.dungoenTeamMap with
  | none => s
  | some (wsMapText, p) =>
      s.setGroup .dungoenTeamMap wsMapText (p.put (Worker p.here))

def updateDungoenSchedule (TeamScheduleMsg_ : TeamScheduleMsg)
    (s : CBnsTaskTeam) : CBnsTaskTeam :=
  updateTeam_By_TeamId T TeamScheduleMsg_.dwTeamId
    (actionInTeamGroupMemberByAccountName T TeamScheduleMsg_.wsAccountName
      fun itm =>
        { itm with
          dungoen := {
            wsDungoenSchedule := TeamScheduleMsg_.wsScheduleName
            uGatherIndex := TeamScheduleMsg_.uScheduleIndex } }) s

def setReadOnlyTeam (dwTeamId : DWORD) (s : CBnsTaskTeam) : CBnsTaskTeam :=
  updateTeam_By_TeamId T dwTeamId
    (fun TeamMemberGroup_ => { TeamMemberGroup_ with isReadOnly := true }) s

/-!
## Runs
-/

inductive Call where
  | joinTaskTeam (CtiMember : ClientTeamInfo)
  | joinDungoenTeam (CtiMember : ClientTeamInfo)
  | deleteTaskMember (wsAccountName : WString)
  | deleteDungoenTeamMember (wsPlayerName : WString)
  | updateDungoenSchedule (TeamScheduleMsg_ : TeamScheduleMsg)
  | setReadOnlyTeam (dwTeamId : DWORD)

def apply : Call -> CBnsTaskTeam -> CBnsTaskTeam
  | .joinTaskTeam CtiMember, s => (joinTaskTeam T CtiMember {} s).2.1
  | .joinDungoenTeam CtiMember, s => (joinDungoenTeam T CtiMember {} s).2.1
  | .deleteTaskMember wsAccountName, s => deleteTaskMember T wsAccountName s
  | .deleteDungoenTeamMember wsPlayerName, s =>
      deleteDungoenTeamMember T wsPlayerName s
  | .updateDungoenSchedule TeamScheduleMsg_, s =>
      updateDungoenSchedule T TeamScheduleMsg_ s
  | .setReadOnlyTeam dwTeamId, s => setReadOnlyTeam T dwTeamId s

def machine : Machine CBnsTaskTeam Call where
  enabled _ _ := True
  step := apply T

def Reachable (s : CBnsTaskTeam) : Prop :=
  (machine T).Reaches {} s

end CBnsTaskTeam
end BnsKorea
