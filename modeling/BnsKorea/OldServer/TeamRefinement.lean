import BnsKorea.TaskTeam.Invariant
import BnsKorea.OldServer.BnsTeam

/-!
# The old and the new teams

The new teams answer as the old ones did.  The two tables differ in keys without
teams alone: no search sees them, and a join under such a key founds a team as a
join under a new key does.
-/

namespace BnsKorea
namespace OldServer

open Library

namespace BnsTeam

open CBnsTaskTeam

variable {T : MyTools}

/-!
## What the new answers say
-/

/-- The buffer of the old server for the result of a join. -/
def joinPuts (dwMsg : DWORD) (Result : BnsTeamResult) : List Put :=
  .dword dwMsg :: .text Result.captain.wsPlayerName ::
    .dword Result.captain.dwPlayerId ::
    .dword (UInt32.ofNat Result.vecTeamMember.length) ::
    (Result.vecTeamMember.flatMap fun itm =>
      [.text itm.wsPlayerName, .dword itm.dwPlayerId]) ++
    [.dword Result.dwTeamId]

theorem flatMap_others {others : List TeamMemberInfo}
    (hothers : forall itm, itm ∈ others -> itm.bCaptain = false) :
    (others.flatMap fun itm => if itm.bCaptain then [] else putMember itm.member) =
      (others.map resultOf).flatMap fun itm =>
        [.text itm.wsPlayerName, .dword itm.dwPlayerId] := by
  rw [List.flatMap_map]
  refine List.flatMap_congr fun itm hitm => ?_
  rw [hothers itm hitm]
  rfl

theorem foundPuts_eq {wsMapText : WString} {team : TeamMemberGroup}
    (h : TeamOk T wsMapText team) {Captain : TeamMemberInfo}
    (hfound : findCaptain_By_AccountName_In_TeamMemberGroup T team = some Captain)
    (dwMsg : DWORD) (TeamSelf : TeamMemberInfo) :
    foundPuts dwMsg team TeamSelf Captain =
      joinPuts dwMsg (foundReply team TeamSelf Captain {}) := by
  rcases h.captainFirst with ⟨first, others, hmembers, hcaptain, hothers⟩
  have hfirst := findCaptain_of_first (T := T) hmembers hcaptain
  rw [hfound] at hfirst
  cases hfirst
  by_cases hself : Captain.member.wsAccountName = TeamSelf.member.wsAccountName
  · simp [foundPuts, foundReply, joinPuts, hself, hmembers, hcaptain,
      foldl_addMember hothers, putMember, BnsTeamResult.setCaptain,
      BnsTeamResult.setTeamId]
    exact flatMap_others hothers
  · simp [foundPuts, foundReply, joinPuts, hself, putMember,
      BnsTeamResult.setCaptain, BnsTeamResult.setTeamId]

/-!
## Joins from one state
-/

/-- Both servers leave the same state, and answer the same. -/
def Same (dwMsg : DWORD) (old : CBnsTaskTeam × List Put)
    (new : CBnsTaskTeam × BnsTeamResult) : Prop :=
  old.1 = new.1 ∧ old.2 = joinPuts dwMsg new.2

section

variable {CtiMember : ClientTeamInfo} {w : TeamMap} {s : CBnsTaskTeam}

theorem joinFound_same (dwMsg : DWORD) {p : Place TeamMemberGroup}
    {self : Place TeamMemberInfo} (hself : self.whole = p.here.memberVec)
    (hok : TeamOk T (createMapText T CtiMember) p.here) :
    Same dwMsg (joinFound T dwMsg CtiMember w (p, self) s)
      (CBnsTaskTeam.joinFound T CtiMember w (p, self) {} s) := by
  have hshape : SameShape p.here (rejoined CtiMember p.here self) :=
    rejoined_shape hself
  have hok' := hshape.teamOk hok
  rcases foundReply_tells hok' (updateSelf CtiMember self.here) with
    ⟨Captain, hcaptain, -⟩
  have hputs := foundPuts_eq hok' hcaptain dwMsg (updateSelf CtiMember self.here)
  unfold rejoined at hcaptain hputs
  simp only [joinFound, CBnsTaskTeam.joinFound, hcaptain]
  exact ⟨rfl, hputs⟩

theorem findVacant_same (dwMsg : DWORD) {TeamGroup_ : TeamGroup}
    (hkey : (s.map w)[createMapText T CtiMember]? = some TeamGroup_)
    (hok : GroupOk T (createMapText T CtiMember) TeamGroup_) :
    let old := findVacantPosition_In_TeamMemberGroup T dwMsg CtiMember w s
    let new := CBnsTaskTeam.findVacantPosition_In_TeamMemberGroup T CtiMember w {} s
    old.1 = true ∧ new.1 = true ∧ Same dwMsg old.2 new.2 := by
  cases hseat : findSeat T CtiMember TeamGroup_ with
  | none =>
      simp only [findVacantPosition_In_TeamMemberGroup,
        CBnsTaskTeam.findVacantPosition_In_TeamMemberGroup, hkey, hseat]
      exact ⟨rfl, rfl, rfl, rfl⟩
  | some found =>
      rcases found with ⟨p, wsGroupTitle⟩
      rcases findSeat_eq_some hseat with ⟨hwhole, hroom, -⟩
      rw [← hwhole] at hok
      have hok' := seatMember_teamOk hok.here hroom CtiMember wsGroupTitle
      rcases hok'.captainFirst with ⟨Captain, others, hmembers, hcaptain, -⟩
      have hfound := findCaptain_of_first (T := T) hmembers hcaptain
      simp only [findVacantPosition_In_TeamMemberGroup,
        CBnsTaskTeam.findVacantPosition_In_TeamMemberGroup, hkey, hseat, hfound]
      exact ⟨trivial, trivial, rfl, rfl⟩

theorem existTeamMember_teams (hs : TablesOk T s) {s' : CBnsTaskTeam}
    {found : Option (Place TeamMemberGroup × Place TeamMemberInfo)}
    (h : existTeamMember T CtiMember w s = (s', found)) :
    exists TeamGroup_,
      (forall team, team ∈ TeamGroup_ -> TeamOk T (createMapText T CtiMember) team) ∧
      existMember_By_AccountName_In_TeamMemberGroup T
        CtiMember.selfCti.wsAccountName TeamGroup_ = found ∧
      (found = none -> s' = s ∧
        (s.map w)[createMapText T CtiMember]? = some TeamGroup_) := by
  unfold existTeamMember at h
  dsimp only at h
  cases hkey : (s.map w)[createMapText T CtiMember]? with
  | some TeamGroup_ =>
      have hok := hs w (createMapText T CtiMember)
      rw [teamsAt_of_some hkey] at hok
      rw [hkey] at h
      rcases Prod.mk.inj h with ⟨hsame, hfound⟩
      rw [hkey, Option.getD_some] at hfound
      exact ⟨TeamGroup_, hok.teams, hfound, fun _ => ⟨hsame.symm, rfl⟩⟩
  | none =>
      rw [hkey] at h
      rcases Prod.mk.inj h with ⟨-, hfound⟩
      rw [map_createTeamGroup hkey, Option.getD_some] at hfound
      refine ⟨_, ?_, hfound, ?_⟩
      · intro team hteam
        rw [List.mem_singleton.mp hteam]
        exact newTeam_teamOk CtiMember _
      · intro hnone
        rw [hnone, existMember_eq_none] at hfound
        exact absurd (mem_accountsOf.mpr ⟨_, List.mem_singleton_self _, by simp⟩) hfound

theorem joinTeam_same (hs : TablesOk T s) (dwMsg : DWORD) :
    Same dwMsg (joinTeam T dwMsg CtiMember w s)
      (CBnsTaskTeam.joinTeam T CtiMember w {} s) := by
  rcases hexist : existTeamMember T CtiMember w s with ⟨s', found⟩
  cases found with
  | some found =>
      rcases found with ⟨p, self⟩
      rcases existTeamMember_teams hs hexist with ⟨TeamGroup_, hteams, hfound, -⟩
      rcases existMember_eq_some hfound with ⟨hwhole, hself, -⟩
      have hok := hteams p.here (by rw [← hwhole]; exact Place.mem_whole)
      simpa only [joinTeam, CBnsTaskTeam.joinTeam, hexist] using
        joinFound_same dwMsg hself hok
  | none =>
      rcases existTeamMember_teams hs hexist with ⟨TeamGroup_, -, -, hnone⟩
      rcases hnone rfl with ⟨rfl, hkey⟩
      have hok := hs w (createMapText T CtiMember)
      rw [teamsAt_of_some hkey] at hok
      rcases findVacant_same dwMsg hkey hok with ⟨hold, hnew, hsame⟩
      simpa only [joinTeam, CBnsTaskTeam.joinTeam, hexist, hold, hnew, if_true] using
        hsame

end

/-!
## Alike states
-/

/-- The same teams under every key; a key without teams does not count. -/
structure Alike (s t : CBnsTaskTeam) : Prop where
  count : s.dwTeamIdCount = t.dwTeamIdCount
  teams : forall w wsMapText, s.teamsAt w wsMapText = t.teamsAt w wsMapText

theorem Alike.tablesOk {s t : CBnsTaskTeam} (h : Alike s t) (ht : TablesOk T t) :
    TablesOk T s := by
  intro w wsMapText
  rw [h.teams]
  exact ht w wsMapText

theorem tells_unique {team : TeamMemberGroup} {wsAccountName : WString}
    {Result Result' : BnsTeamResult} (h : Tells team wsAccountName Result)
    (h' : Tells team wsAccountName Result') : Result = Result' := by
  rcases h.captain with ⟨Captain, others, hmembers, -, hcaptain, hothers⟩
  rcases h'.captain with ⟨Captain', others', hmembers', -, hcaptain', hothers'⟩
  rw [hmembers] at hmembers'
  rcases List.cons.inj hmembers' with ⟨rfl, rfl⟩
  cases Result
  cases Result'
  simp only at hcaptain hcaptain' hothers hothers'
  rw [hcaptain, hcaptain', hothers, hothers']
  have hid := h.teamId
  have hid' := h'.teamId
  simp only at hid hid'
  rw [hid, hid']

theorem found_unique {TeamGroup_ : TeamGroup} (hnodup : (accountsOf TeamGroup_).Nodup)
    {p q : Place TeamMemberGroup} {self self' : Place TeamMemberInfo}
    (hp : p.whole = TeamGroup_) (hq : q.whole = TeamGroup_)
    (hself : self.whole = p.here.memberVec) (hself' : self'.whole = q.here.memberVec)
    (haccount : self.here.account = self'.here.account) : p = q ∧ self = self' := by
  rw [← hp, accountsOf_whole] at hnodup
  have hhere := place_mem_accounts hself
  have hsame : p = q := by
    refine Place.eq_of_only (P := fun team => self.here.account ∈ team.accounts)
      (hp.trans hq.symm) ?_ ?_ ?_
    · rw [haccount]
      exact place_mem_accounts hself'
    · intro team hteam hin
      have hpre := mem_accountsOf.mpr ⟨team, hteam, hin⟩
      exact List.disjoint_of_nodup_append hnodup hpre
        (List.mem_append_left _ hhere)
    · intro team hteam hin
      have hpost := mem_accountsOf.mpr ⟨team, hteam, hin⟩
      exact List.disjoint_of_nodup_append (List.nodup_append.mp hnodup).2.1 hhere hpost
  have hmembers := (List.nodup_append.mp (List.nodup_append.mp hnodup).2.1).1
  rw [TeamMemberGroup.accounts, ← hself, Place.whole, Place.map_put] at hmembers
  refine ⟨hsame, Place.eq_of_only (P := fun itm => itm.account = self.here.account)
    ?_ haccount.symm ?_ ?_⟩
  · rw [hself, hself', hsame]
  · intro itm hitm hin
    exact List.disjoint_of_nodup_append hmembers
      (List.mem_map.mpr ⟨itm, hitm, hin⟩) List.mem_cons_self
  · intro itm hitm hin
    exact (List.nodup_cons.mp (List.nodup_append.mp hmembers).2.1).1
      (List.mem_map.mpr ⟨itm, hitm, hin⟩)

theorem outcome_unique {CtiMember : ClientTeamInfo} {n m m' : Nat}
    {before after after' : TeamGroup} {team team' : TeamMemberGroup}
    (hnodup : (accountsOf before).Nodup)
    (h : CBnsTaskTeam.Outcome T CtiMember n before team after m)
    (h' : CBnsTaskTeam.Outcome T CtiMember n before team' after' m') :
    team = team' ∧ after = after' ∧ m = m' := by
  cases h with
  | found hwhole hself haccount =>
      have hin := place_mem_accountsOf hwhole hself
      rw [haccount] at hin
      cases h' with
      | found hwhole' hself' haccount' =>
          rcases found_unique hnodup hwhole hwhole' hself hself'
            (haccount.trans haccount'.symm) with ⟨rfl, rfl⟩
          exact ⟨rfl, rfl, rfl⟩
      | seated habsent _ => exact absurd hin habsent
      | founded habsent _ => exact absurd hin habsent
  | seated habsent hseat =>
      cases h' with
      | found hwhole hself haccount =>
          have hin := place_mem_accountsOf hwhole hself
          rw [haccount] at hin
          exact absurd hin habsent
      | seated _ hseat' =>
          rw [hseat] at hseat'
          cases hseat'
          exact ⟨rfl, rfl, rfl⟩
      | founded _ hfull =>
          rw [hseat] at hfull
          cases hfull
  | founded habsent hfull =>
      cases h' with
      | found hwhole hself haccount =>
          have hin := place_mem_accountsOf hwhole hself
          rw [haccount] at hin
          exact absurd hin habsent
      | seated _ hseat =>
          rw [hfull] at hseat
          cases hseat
      | founded _ _ => exact ⟨rfl, rfl, rfl⟩

theorem Alike.joinTeam {s t : CBnsTaskTeam} (h : Alike s t) (ht : TablesOk T t)
    (CtiMember : ClientTeamInfo) (w : TeamMap) :
    Alike (CBnsTaskTeam.joinTeam T CtiMember w {} s).1
        (CBnsTaskTeam.joinTeam T CtiMember w {} t).1 ∧
      (CBnsTaskTeam.joinTeam T CtiMember w {} s).2 =
        (CBnsTaskTeam.joinTeam T CtiMember w {} t).2 := by
  rcases joinTeam_outcome (h.tablesOk ht) CtiMember w with ⟨team, hjoin⟩
  rcases joinTeam_outcome ht CtiMember w with ⟨team', hjoin'⟩
  have houtcome := hjoin.outcome
  rw [h.count, h.teams] at houtcome
  rcases outcome_unique (ht w _).accounts houtcome hjoin'.outcome with
    ⟨rfl, hafter, hcount⟩
  refine ⟨⟨hcount, ?_⟩, tells_unique hjoin.tells hjoin'.tells⟩
  intro w' wsMapText
  by_cases hkey : w = w' ∧ createMapText T CtiMember = wsMapText
  · rw [← hkey.left, ← hkey.right]
    exact hafter
  · rw [hjoin.others w' wsMapText hkey, hjoin'.others w' wsMapText hkey, h.teams]

/-!
## The other calls
-/

def occupied (itm : WString × TeamGroup) : Bool :=
  !itm.2.isEmpty

theorem toList_occupied {m m' : Std.TreeMap WString TeamGroup}
    (h : forall wsMapText : WString, m[wsMapText]?.getD [] = m'[wsMapText]?.getD []) :
    m.toList.filter occupied = m'.toList.filter occupied := by
  refine OrderedMaps.toList_filter_eq fun wsMapText TeamGroup_ hoccupied => ?_
  have hne : TeamGroup_ ≠ [] := by simpa [occupied] using hoccupied
  have hiff : forall o : Option TeamGroup,
      o = some TeamGroup_ ↔ o.getD [] = TeamGroup_ := by
    intro o
    cases o with
    | none => simp [hne.symm]
    | some g => simp
  rw [hiff, hiff, h]

theorem flatMap_occupied (entries : List (WString × TeamGroup)) :
    (entries.filter occupied).flatMap Prod.snd = entries.flatMap Prod.snd := by
  induction entries with
  | nil => rfl
  | cons itm entries ih =>
      cases hitm : itm.2 with
      | nil => simp [occupied, hitm, ih]
      | cons team teams => simp [occupied, hitm, ih]

theorem findSome?_occupied {β : Type} {fn : WString × TeamGroup -> Option β}
    (hfn : forall itm, itm.2 = [] -> fn itm = none)
    (entries : List (WString × TeamGroup)) :
    (entries.filter occupied).findSome? fn = entries.findSome? fn := by
  induction entries with
  | nil => rfl
  | cons itm entries ih =>
      cases hitm : itm.2 with
      | nil => simp [occupied, hitm, ih, hfn itm hitm]
      | cons team teams =>
          have hkept : occupied itm = true := by simp [occupied, hitm]
          rw [List.filter_cons_of_pos hkept, List.findSome?_cons, List.findSome?_cons,
            ih]

theorem Alike.existTeamMember_By_TeamId {s t : CBnsTaskTeam} (h : Alike s t)
    (dwTeamId : DWORD) :
    existTeamMember_By_TeamId T dwTeamId s.dungoenTeamMap =
      existTeamMember_By_TeamId T dwTeamId t.dungoenTeamMap := by
  have hnone : forall itm : WString × TeamGroup, itm.2 = [] ->
      ((existMember_By_TeamId_In_TeamMemberGroup T dwTeamId itm.2).map fun p =>
        (itm.1, p)) = none := by
    intro itm hitm
    simp [hitm, existMember_By_TeamId_In_TeamMemberGroup, firstPlace]
  have hentries := toList_occupied (h.teams .dungoenTeamMap)
  rw [CBnsTaskTeam.existTeamMember_By_TeamId, CBnsTaskTeam.existTeamMember_By_TeamId,
    ← findSome?_occupied hnone s.dungoenTeamMap.toList,
    ← findSome?_occupied hnone t.dungoenTeamMap.toList]
  exact congrArg _ hentries

theorem Alike.getLessMemberChannel {s t : CBnsTaskTeam} (h : Alike s t)
    (TeamChannelMsg_ : TeamChannelMsg) :
    CBnsTaskTeam.getLessMemberChannel TeamChannelMsg_ s =
      CBnsTaskTeam.getLessMemberChannel TeamChannelMsg_ t := by
  have hentries := toList_occupied (h.teams .taskTeamMap)
  have hteams := congrArg (List.flatMap Prod.snd) hentries
  rw [flatMap_occupied, flatMap_occupied] at hteams
  have hchannels : getSameChannelMap TeamChannelMsg_ s =
      getSameChannelMap TeamChannelMsg_ t := by
    rw [getSameChannelMap, getSameChannelMap]
    exact congrArg (List.foldl _ ∅) hteams
  rw [CBnsTaskTeam.getLessMemberChannel, CBnsTaskTeam.getLessMemberChannel, hchannels]

theorem Alike.updateTeam_By_TeamId {s t : CBnsTaskTeam} (h : Alike s t)
    (dwTeamId : DWORD) (Worker : TeamMemberGroup -> TeamMemberGroup) :
    Alike (updateTeam_By_TeamId T dwTeamId Worker s)
      (updateTeam_By_TeamId T dwTeamId Worker t) := by
  rw [CBnsTaskTeam.updateTeam_By_TeamId, CBnsTaskTeam.updateTeam_By_TeamId,
    h.existTeamMember_By_TeamId dwTeamId]
  cases CBnsTaskTeam.existTeamMember_By_TeamId T dwTeamId t.dungoenTeamMap with
  | none => exact h
  | some found =>
      rcases found with ⟨wsMapText, p⟩
      refine ⟨by simpa using h.count, ?_⟩
      intro w' wsMapText'
      by_cases hkey : TeamMap.dungoenTeamMap = w' ∧ wsMapText = wsMapText'
      · rw [← hkey.left, ← hkey.right, teamsAt_setGroup_self, teamsAt_setGroup_self]
      · rw [teamsAt_setGroup_of_ne s _ hkey, teamsAt_setGroup_of_ne t _ hkey, h.teams]

theorem teamsAt_deleteTaskMember (wsAccountName : WString) (s : CBnsTaskTeam)
    (w : TeamMap) (wsMapText : WString) :
    (deleteTaskMember T wsAccountName s).teamsAt w wsMapText =
      (CBnsTaskTeam.deleteTaskMember T wsAccountName s).teamsAt w wsMapText := by
  rw [CBnsTaskTeam.deleteTaskMember, teamsAt_deleteTeamMember, deleteTaskMember,
    deleteTeamMember, teamsAt, map_setMap]
  cases w with
  | dungoenTeamMap => rfl
  | taskTeamMap =>
      have hget := OrderedMaps.getElem?_foldl_own (deleteTurn T wsAccountName)
        (fun _ TeamGroup_ => some (dismissTeamOf T wsAccountName TeamGroup_))
        (fun m itm => OrderedMaps.getElem?_insert_self m itm.1 _)
        (fun m itm _ hne => OrderedMaps.getElem?_insert_of_ne m _ hne)
        s.taskTeamMap wsMapText
      rw [if_pos rfl, if_pos rfl]
      show (_ : Option TeamGroup).getD [] =
        dismissTeamOf T wsAccountName (s.taskTeamMap[wsMapText]?.getD [])
      rw [CBnsTaskTeam.map, hget]
      cases s.taskTeamMap[wsMapText]? with
      | none => rfl
      | some TeamGroup_ => rfl

theorem Alike.deleteTaskMember {s t : CBnsTaskTeam} (h : Alike s t)
    (wsAccountName : WString) :
    Alike (deleteTaskMember T wsAccountName s)
      (CBnsTaskTeam.deleteTaskMember T wsAccountName t) where
  count := by
    simpa [BnsTeam.deleteTaskMember, deleteTeamMember, CBnsTaskTeam.deleteTaskMember,
      CBnsTaskTeam.deleteTeamMember] using h.count
  teams w wsMapText := by
    rw [teamsAt_deleteTaskMember, CBnsTaskTeam.deleteTaskMember,
      CBnsTaskTeam.deleteTaskMember, teamsAt_deleteTeamMember,
      teamsAt_deleteTeamMember, h.teams]

theorem Alike.deleteDungoenTeamMember {s t : CBnsTaskTeam} (h : Alike s t)
    (wsPlayerName : WString) :
    Alike (deleteDungoenTeamMember T wsPlayerName s)
      (deleteDungoenTeamMember T wsPlayerName t) where
  count := by
    simpa [CBnsTaskTeam.deleteDungoenTeamMember] using h.count
  teams w wsMapText := by
    rw [teamsAt_deleteDungoenTeamMember, teamsAt_deleteDungoenTeamMember, h.teams]

/-!
## Runs
-/

/-- What the new server returns for a call. -/
inductive Answer where
  | joined (w : TeamMap) (bRetCode : Bool) (Result : BnsTeamResult)
  | nothing
  | channel (dwChannel : DWORD)
  | updated
  | schedules (Result : List BnsDungoenScheduleMember)
  | readOnly (bRetCode : Bool)

def newApply (T : MyTools) : Call -> CBnsTaskTeam -> CBnsTaskTeam × Answer
  | .joinTaskTeam CtiMember, s =>
      let done := CBnsTaskTeam.joinTaskTeam T CtiMember {} s
      (done.2.1, .joined .taskTeamMap done.1 done.2.2)
  | .joinDungoenTeam CtiMember, s =>
      let done := CBnsTaskTeam.joinDungoenTeam T CtiMember {} s
      (done.2.1, .joined .dungoenTeamMap done.1 done.2.2)
  | .deleteTaskMember wsAccountName, s =>
      (CBnsTaskTeam.deleteTaskMember T wsAccountName s, .nothing)
  | .deleteDungoenTeamMember wsPlayerName, s =>
      (deleteDungoenTeamMember T wsPlayerName s, .nothing)
  | .getLessMemberChannel TeamChannelMsg_, s =>
      (s, .channel (CBnsTaskTeam.getLessMemberChannel TeamChannelMsg_ s))
  | .updateDungoenSchedule TeamScheduleMsg_, s =>
      (CBnsTaskTeam.updateDungoenSchedule T TeamScheduleMsg_ s, .updated)
  | .getDungoenSchedule dwTeamId, s =>
      (s, .schedules (CBnsTaskTeam.getDungoenSchedule T dwTeamId s))
  | .setReadOnlyTeam dwTeamId, s =>
      (CBnsTaskTeam.setReadOnlyTeam T dwTeamId s,
        .readOnly (existTeamMember_By_TeamId T dwTeamId s.dungoenTeamMap).isSome)

def newAnswers (T : MyTools) : List Call -> CBnsTaskTeam -> CBnsTaskTeam × List Answer
  | [], s => (s, [])
  | call :: calls, s =>
      let done := newApply T call s
      let rest := newAnswers T calls done.1
      (rest.1, done.2 :: rest.2)

def joinMsg : TeamMap -> DWORD
  | .taskTeamMap => SOCK_MSG_JOIN_TEAM_ORDER
  | .dungoenTeamMap => SOCK_MSG_JOIN_DUNGOEN_TEAM

def putRow (row : BnsDungoenScheduleMember) : List Put :=
  [.text row.wsPlayerName, .dword row.dwPlayerId, .text row.wsDungoenSchedule,
    .dword row.uGatherIndex, .dword row.dwTaskId, .dword row.dwScheduleId]

/--
The buffer of the old server says what the new server returns.  Only the old one
puts the accounts of a team in front of the rows of its schedules; the new one
returns an empty account name in every row.
-/
inductive Says : List Put -> Answer -> Prop where
  | joined (w : TeamMap) (Result : BnsTeamResult) :
      Says (joinPuts (joinMsg w) Result) (.joined w true Result)
  | refused (w : TeamMap) :
      Says [.dword SOCK_MSG_JOIN_TEAM_ORDER, .text [], .dword 0] (.joined w false {})
  | nothing : Says [] .nothing
  | channel (dwChannel : DWORD) :
      Says [.dword SOCK_MSG_GET_CHANNEL, .dword dwChannel] (.channel dwChannel)
  | updated : Says [.dword SOCK_MSG_UPDATE_TEAM_SCHEDULE] .updated
  | noSchedules :
      Says [.dword SOCK_MSG_GET_TEAM_SCHEDULE, .dword 0] (.schedules [])
  | schedules (TeamMemberGroup_ : TeamMemberGroup)
      (row : TeamMemberInfo -> BnsDungoenScheduleMember)
      (hempty : forall itm, (row itm).wsAccountName = []) :
      Says
        (.dword SOCK_MSG_GET_TEAM_SCHEDULE ::
          .dword (UInt32.ofNat TeamMemberGroup_.memberVec.length) ::
          TeamMemberGroup_.memberVec.flatMap fun itm =>
            .text itm.member.wsAccountName :: putRow (row itm))
        (.schedules (TeamMemberGroup_.memberVec.map row))
  | readOnly (bExist : Bool) :
      Says [.dword SOCK_MSG_SET_TEAM_READONLY, .dword (if bExist then 1 else 0)]
        (.readOnly bExist)

section

variable {s t : CBnsTaskTeam}

theorem join_alike (h : Alike s t) (ht : TablesOk T t) (w : TeamMap)
    (CtiMember : ClientTeamInfo) :
    let old := join T (joinMsg w) w CtiMember s
    let new := CBnsTaskTeam.join T w CtiMember {} t
    Alike old.1 new.2.1 ∧ Says old.2 (.joined w new.1 new.2.2) := by
  by_cases hwork : isWork CtiMember = true
  · have hsame : Same (joinMsg w) (joinTeam T (joinMsg w) CtiMember w s)
        (CBnsTaskTeam.joinTeam T CtiMember w {} s) :=
      joinTeam_same (h.tablesOk ht) (joinMsg w)
    rcases hsame with ⟨hstate, hputs⟩
    rcases h.joinTeam ht CtiMember w with ⟨halike, hresult⟩
    simp only [join, CBnsTaskTeam.join, hwork, Bool.not_true, Bool.false_eq_true,
      if_false, hstate, hputs, hresult]
    exact ⟨halike, .joined w _⟩
  · simp only [join, CBnsTaskTeam.join, hwork, Bool.not_false, if_true]
    exact ⟨h, .refused w⟩

theorem getDungoenSchedule_says (h : Alike s t) (dwTeamId : DWORD) :
    Says (getDungoenSchedule T dwTeamId s)
      (.schedules (CBnsTaskTeam.getDungoenSchedule T dwTeamId t)) := by
  rw [getDungoenSchedule, CBnsTaskTeam.getDungoenSchedule,
    h.existTeamMember_By_TeamId dwTeamId]
  cases CBnsTaskTeam.existTeamMember_By_TeamId T dwTeamId t.dungoenTeamMap with
  | none => exact .noSchedules
  | some found =>
      rcases found with ⟨wsMapText, p⟩
      exact .schedules p.here (scheduleMember p.here) fun _ => rfl

theorem apply_alike (h : Alike s t) (ht : TablesOk T t) (call : Call) :
    Alike (apply T call s).1 (newApply T call t).1 ∧
      TablesOk T (newApply T call t).1 ∧
      Says (apply T call s).2 (newApply T call t).2 := by
  cases call with
  | joinTaskTeam CtiMember =>
      rcases join_alike h ht .taskTeamMap CtiMember with ⟨halike, hanswers⟩
      exact ⟨halike, apply_tablesOk ht (.joinTaskTeam CtiMember), hanswers⟩
  | joinDungoenTeam CtiMember =>
      rcases join_alike h ht .dungoenTeamMap CtiMember with ⟨halike, hanswers⟩
      exact ⟨halike, apply_tablesOk ht (.joinDungoenTeam CtiMember), hanswers⟩
  | deleteTaskMember wsAccountName =>
      exact ⟨h.deleteTaskMember wsAccountName,
        apply_tablesOk ht (.deleteTaskMember wsAccountName), .nothing⟩
  | deleteDungoenTeamMember wsPlayerName =>
      exact ⟨h.deleteDungoenTeamMember wsPlayerName,
        apply_tablesOk ht (.deleteDungoenTeamMember wsPlayerName), .nothing⟩
  | getLessMemberChannel TeamChannelMsg_ =>
      refine ⟨h, ht, ?_⟩
      rw [apply, newApply, getLessMemberChannel, h.getLessMemberChannel]
      exact .channel _
  | updateDungoenSchedule TeamScheduleMsg_ =>
      exact ⟨h.updateTeam_By_TeamId _ _,
        apply_tablesOk ht (.updateDungoenSchedule TeamScheduleMsg_), .updated⟩
  | getDungoenSchedule dwTeamId => exact ⟨h, ht, getDungoenSchedule_says h dwTeamId⟩
  | setReadOnlyTeam dwTeamId =>
      have halike := h.updateTeam_By_TeamId (T := T) dwTeamId
        fun TeamMemberGroup_ => { TeamMemberGroup_ with isReadOnly := true }
      refine ⟨halike, apply_tablesOk ht (.setReadOnlyTeam dwTeamId), ?_⟩
      rw [apply, newApply, setReadOnlyTeam, h.existTeamMember_By_TeamId]
      exact .readOnly _

theorem answers_alike (h : Alike s t) (ht : TablesOk T t) (calls : List Call) :
    Alike (answers T calls s).1 (newAnswers T calls t).1 ∧
      TablesOk T (newAnswers T calls t).1 ∧
      List.Forall₂ Says (answers T calls s).2 (newAnswers T calls t).2 := by
  induction calls generalizing s t with
  | nil => exact ⟨h, ht, List.Forall₂.nil⟩
  | cons call calls ih =>
      rcases apply_alike h ht call with ⟨halike, hok, hanswers⟩
      rcases ih halike hok with ⟨hend, hendOk, hrest⟩
      exact ⟨hend, hendOk, List.Forall₂.cons hanswers hrest⟩

end

end BnsTeam

end OldServer
end BnsKorea
