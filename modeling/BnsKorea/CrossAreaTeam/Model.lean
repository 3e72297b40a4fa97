import BnsKorea.Library.FirstFit
import BnsKorea.Library.Machines
import BnsKorea.Common.MyTools

/-!
# The cross-area team queue

Players of different servers queue up for dungeons.  A poll enters or refreshes
the caller's record and then schedules: for every group title and every dungeon
somebody listed, the players that timed out are dropped and a team is formed if
the first-fit search fills every slot of the dungeon.

A pointer to a waiting record is modelled by the record it points to: the nodes
of the map are not written between the search and the team that copies them.
-/

namespace BnsKorea

open Library

/-- A configured class list; it has a slot for the captain. -/
structure VecClasses where
  slots : List TeamMeberClasses
  slots_ne_nil : slots ≠ []

abbrev VecCrossAreaTeamMember := Std.TreeMap WString CrossAreaTeamMember

/--
The state of the queue.  `dwTeamIdCount` is the number of increments of the
static counter of `AddtoCrossAreaTeamGroup`; the counter itself is a `DWORD`.
-/
structure CCrossAreaTeam where
  mapCrossAreaTeamGroup : Std.TreeMap DWORD CrossAreaTeamGroup := ∅
  setTeamMemberName : Std.TreeSet WString := ∅
  setDungeonName : Std.TreeSet WString := ∅
  mapTeamMember : Std.TreeMap WString VecCrossAreaTeamMember := ∅
  mapDungeonClasses : Std.TreeMap WString VecClasses
  dwTeamIdCount : Nat := 0

namespace CCrossAreaTeam

variable (T : MyTools)

/-- `GetTickCount64() - ulTick` wraps like the unsigned subtraction it is. -/
def isKeepALive (ulNow : ULONGLONG) (Member : CrossAreaTeamMember) : Bool :=
  decide (ulNow - Member.ulTick ≤ 30 * 1000)

def existAccountNameInTeamGroup (wsAccountName : WString)
    (Teamgroup : CrossAreaTeamGroup) : Bool :=
  Teamgroup.captain.account == wsAccountName ||
    Teamgroup.vecMember.any fun itm => itm.account == wsAccountName

def existCrossAreaTeamGroup (Member : CrossAreaTeamMember)
    (s : CCrossAreaTeam) : Option CrossAreaTeamGroup :=
  (s.mapCrossAreaTeamGroup.toList.find? fun itm =>
    itm.2.captain.sameAccount Member ||
      (T.vecFindIfConst itm.2.vecMember fun GroupMember =>
        GroupMember.sameAccount Member).isSome).map Prod.snd

def existCrossAreaTeamMember (Member : CrossAreaTeamMember)
    (s : CCrossAreaTeam) : Bool :=
  s.setTeamMemberName.contains Member.account

def addToCrossAreaTeamMember (Member : CrossAreaTeamMember)
    (s : CCrossAreaTeam) : CCrossAreaTeam :=
  { s with
    setTeamMemberName := s.setTeamMemberName.insert Member.account
    setDungeonName :=
      Member.setDungoenName.toList.foldl
        (fun names itm => if names.contains itm then names else names.insert itm)
        s.setDungeonName
    mapTeamMember :=
      match s.mapTeamMember[Member.wsGroupTitle]? with
      | none =>
          s.mapTeamMember.insertIfNew Member.wsGroupTitle
            ((∅ : VecCrossAreaTeamMember).insertIfNew Member.account Member)
      | some MapMember =>
          s.mapTeamMember.insert Member.wsGroupTitle
            (MapMember.insertIfNew Member.account Member) }

def updateTickInTeamMember (Member : CrossAreaTeamMember)
    (s : CCrossAreaTeam) : CCrossAreaTeam :=
  match s.mapTeamMember[Member.wsGroupTitle]? with
  | none => s
  | some MapMember =>
      match MapMember[Member.account]? with
      | none => s
      | some old =>
          { s with
            mapTeamMember :=
              s.mapTeamMember.insert Member.wsGroupTitle
                (MapMember.insert Member.account
                  { old with ulTick := Member.ulTick, info := Member.info }) }

/-!
## Scheduling
-/

/-- What `FindSameDungoen` leaves behind: the name set, the map and `VecItr`. -/
structure SameDungoen where
  setTeamMemberName : Std.TreeSet WString
  mapMember : VecCrossAreaTeamMember
  vecItr : List CrossAreaTeamMember

/-- One turn of the loop: drop a record that timed out or collect its pointer. -/
def findSameDungoenTurn (ulNow : ULONGLONG) (wsDungeonName : WString)
    (r : SameDungoen) (itr : WString × CrossAreaTeamMember) : SameDungoen :=
  if !isKeepALive ulNow itr.2 then
    { r with
      setTeamMemberName := r.setTeamMemberName.erase itr.2.account
      mapMember := r.mapMember.erase itr.1 }
  else if itr.2.setDungoenName.contains wsDungeonName then
    { r with vecItr := r.vecItr ++ [itr.2] }
  else r

def findSameDungoen (ulNow : ULONGLONG) (wsDungeonName : WString)
    (names : Std.TreeSet WString) (MapMember : VecCrossAreaTeamMember) :
    SameDungoen :=
  MapMember.toList.foldl (findSameDungoenTurn ulNow wsDungeonName)
    { setTeamMemberName := names, mapMember := MapMember, vecItr := [] }

def addtoCrossAreaTeamGroup (wsDungeonName : WString)
    (VecMember : List CrossAreaTeamMember) (hVecMember : VecMember ≠ [])
    (s : CCrossAreaTeam) : CCrossAreaTeam :=
  let dwTeamId := UInt32.ofNat (s.dwTeamIdCount + 1)
  { s with
    dwTeamIdCount := s.dwTeamIdCount + 1
    mapCrossAreaTeamGroup :=
      s.mapCrossAreaTeamGroup.insertIfNew dwTeamId
        { captain := VecMember.head hVecMember
          vecMember := VecMember.tail
          dwTeamId := dwTeamId
          wsDungeonName := wsDungeonName } }

def fitsSlot (Classes : TeamMeberClasses) (pMember : CrossAreaTeamMember) :
    Bool :=
  Classes == TeamMeberClasses.any || pMember.emClasses == Classes

def schedulingSameDungeon (wsDungeonName : WString)
    (MapMember : VecCrossAreaTeamMember) (VecMember : List CrossAreaTeamMember)
    (Classes : VecClasses) (s : CCrossAreaTeam) :
    Bool × CCrossAreaTeam × VecCrossAreaTeamMember :=
  match hfill : FirstFit.fill fitsSlot Classes.slots VecMember with
  | none => (false, s, MapMember)
  | some VecMemberClasses =>
      let s := addtoCrossAreaTeamGroup wsDungeonName VecMemberClasses
        (FirstFit.fill_ne_nil Classes.slots_ne_nil hfill) s
      (true,
        { s with
          setTeamMemberName :=
            VecMemberClasses.foldl (fun names itm => names.erase itm.account)
              s.setTeamMemberName },
        VecMemberClasses.foldl (fun map itm => map.erase itm.account) MapMember)

/-- One turn of the inner loop of `Scheduling`: one title and one dungeon. -/
def schedulingTurn (ulNow : ULONGLONG) (wsGroupTitle : WString)
    (s : CCrossAreaTeam) (wsDungeonName : WString) : CCrossAreaTeam :=
  match s.mapTeamMember[wsGroupTitle]? with
  | none => s
  | some VecMember =>
      match s.mapDungeonClasses[wsDungeonName]? with
      -- an unknown dungeon is only logged, before anybody is dropped
      | none => s
      | some Classes =>
          let found :=
            findSameDungoen ulNow wsDungeonName s.setTeamMemberName VecMember
          let s := { s with setTeamMemberName := found.setTeamMemberName }
          let (s, VecMember) :=
            if Classes.slots.length ≤ found.vecItr.length then
              (schedulingSameDungeon wsDungeonName found.mapMember found.vecItr
                Classes s).2
            else (s, found.mapMember)
          { s with mapTeamMember := s.mapTeamMember.insert wsGroupTitle VecMember }

def schedulingTitle (ulNow : ULONGLONG) (s : CCrossAreaTeam)
    (wsGroupTitle : WString) : CCrossAreaTeam :=
  s.setDungeonName.toList.foldl (schedulingTurn ulNow wsGroupTitle) s

def scheduling (ulNow : ULONGLONG) (s : CCrossAreaTeam) : CCrossAreaTeam :=
  s.mapTeamMember.keys.foldl (schedulingTitle ulNow) s

/-!
## The interface
-/

/--
`some id` is `TRUE` with the id of the caller's team, `none` is `FALSE`.  The
caller's own record is stamped with the time of the call first.
-/
def joinTeam (ulNow : ULONGLONG) (Member : CrossAreaTeamMember)
    (s : CCrossAreaTeam) : Option DWORD × CCrossAreaTeam :=
  let Member := { Member with ulTick := ulNow, ulStartTick := ulNow }
  match existCrossAreaTeamGroup T Member s with
  | some Teamgroup => (some Teamgroup.dwTeamId, s)
  | none =>
      let s :=
        if !existCrossAreaTeamMember Member s then
          addToCrossAreaTeamMember Member s
        else updateTickInTeamMember Member s
      (none, scheduling ulNow s)

def getTeamMemberContent (dwTeamId : DWORD) (s : CCrossAreaTeam) :
    Option CrossAreaTeamGroup :=
  s.mapCrossAreaTeamGroup[dwTeamId]?

def deleteTeamGroup (wsAccountName : WString) (s : CCrossAreaTeam) :
    CCrossAreaTeam :=
  match s.mapCrossAreaTeamGroup.toList.find? fun itr =>
      existAccountNameInTeamGroup wsAccountName itr.2 with
  | none => s
  | some itr =>
      { s with mapCrossAreaTeamGroup := s.mapCrossAreaTeamGroup.erase itr.1 }

def removeTeamMemberName (wsAccountName : WString) (s : CCrossAreaTeam) :
    CCrossAreaTeam :=
  { s with setTeamMemberName := s.setTeamMemberName.erase wsAccountName }

def removeTeamMember (wsAccountName : WString) (s : CCrossAreaTeam) :
    CCrossAreaTeam :=
  match s.mapTeamMember.toList.find? fun itm =>
      itm.2.contains wsAccountName with
  | none => s
  | some itm =>
      { s with
        mapTeamMember :=
          s.mapTeamMember.insert itm.1 (itm.2.erase wsAccountName) }

def deleteTeamMember (wsAccountName : WString) (s : CCrossAreaTeam) :
    CCrossAreaTeam :=
  removeTeamMember wsAccountName (removeTeamMemberName wsAccountName s)

/-!
## Runs
-/

/-- The calls other components make on the queue. -/
inductive Call where
  | joinTeam (Member : CrossAreaTeamMember)
  | deleteTeamGroup (wsAccountName : WString)
  | deleteTeamMember (wsAccountName : WString)

def apply (ulNow : ULONGLONG) : Call -> CCrossAreaTeam -> CCrossAreaTeam
  | .joinTeam Member, s => (joinTeam T ulNow Member s).2
  | .deleteTeamGroup wsAccountName, s => deleteTeamGroup wsAccountName s
  | .deleteTeamMember wsAccountName, s => deleteTeamMember wsAccountName s

def machine : Machine (Clocked CCrossAreaTeam) (ULONGLONG × Call) :=
  Machine.clocked (apply T)

/-- The queue after `Initialize`, with any table of class lists. -/
def initial (Classes : Std.TreeMap WString VecClasses) :
    Clocked CCrossAreaTeam :=
  { now := 0, state := { mapDungeonClasses := Classes } }

def Reachable (Classes : Std.TreeMap WString VecClasses)
    (c : Clocked CCrossAreaTeam) : Prop :=
  (machine T).Reaches (initial Classes) c

instance machine_decidable (l : ULONGLONG × Call) (c : Clocked CCrossAreaTeam) :
    Decidable ((machine T).enabled l c) :=
  Machine.clocked_decidable l c

end CCrossAreaTeam
end BnsKorea
