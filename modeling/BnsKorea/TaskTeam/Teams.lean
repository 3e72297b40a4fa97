import BnsKorea.Library.OrderedMaps
import BnsKorea.Library.Parts
import BnsKorea.TaskTeam.Model

/-!
# What a call does to the teams of a key

The two maps are read as a table of teams by map and key, where a missing key
has no teams.  A call changes the table in one of four ways, and each operation
is described by the way it changes it.
-/

namespace BnsKorea

open Library

def TeamMemberInfo.account (itm : TeamMemberInfo) : WString :=
  itm.member.wsAccountName

def TeamMemberGroup.accounts (team : TeamMemberGroup) : List WString :=
  team.memberVec.map TeamMemberInfo.account

def accountsOf (TeamGroup_ : TeamGroup) : List WString :=
  TeamGroup_.flatMap TeamMemberGroup.accounts

def idsOf (TeamGroup_ : TeamGroup) : List DWORD :=
  TeamGroup_.map TeamMemberGroup.dwTeamId

namespace CBnsTaskTeam

def teamsAt (s : CBnsTaskTeam) (w : TeamMap) (wsMapText : WString) :
    TeamGroup :=
  (s.map w)[wsMapText]?.getD []

variable {T : MyTools}

/-!
## The table
-/

theorem map_setMap (s : CBnsTaskTeam) (w w' : TeamMap)
    (m : Std.TreeMap WString TeamGroup) :
    (s.setMap w m).map w' = if w = w' then m else s.map w' := by
  cases w with
  | taskTeamMap =>
      cases w' with
      | taskTeamMap => rfl
      | dungoenTeamMap => rfl
  | dungoenTeamMap =>
      cases w' with
      | taskTeamMap => rfl
      | dungoenTeamMap => rfl

@[simp] theorem setMap_count (s : CBnsTaskTeam) (w : TeamMap)
    (m : Std.TreeMap WString TeamGroup) :
    (s.setMap w m).dwTeamIdCount = s.dwTeamIdCount := by
  cases w with
  | taskTeamMap => rfl
  | dungoenTeamMap => rfl

@[simp] theorem setGroup_count (s : CBnsTaskTeam) (w : TeamMap)
    (wsMapText : WString) (TeamGroup_ : TeamGroup) :
    (s.setGroup w wsMapText TeamGroup_).dwTeamIdCount = s.dwTeamIdCount :=
  setMap_count s w _

@[simp] theorem teamsAt_setGroup_self (s : CBnsTaskTeam) (w : TeamMap)
    (wsMapText : WString) (TeamGroup_ : TeamGroup) :
    (s.setGroup w wsMapText TeamGroup_).teamsAt w wsMapText = TeamGroup_ := by
  rw [teamsAt, setGroup, map_setMap, if_pos rfl,
    OrderedMaps.getElem?_insert_self]
  rfl

theorem teamsAt_of_some {s : CBnsTaskTeam} {w : TeamMap} {wsMapText : WString}
    {TeamGroup_ : TeamGroup} (hkey : (s.map w)[wsMapText]? = some TeamGroup_) :
    s.teamsAt w wsMapText = TeamGroup_ := by
  rw [teamsAt, hkey]
  rfl

theorem teamsAt_of_none {s : CBnsTaskTeam} {w : TeamMap} {wsMapText : WString}
    (hkey : (s.map w)[wsMapText]? = none) : s.teamsAt w wsMapText = [] := by
  rw [teamsAt, hkey]
  rfl

theorem entry_of_mem_teamsAt {s : CBnsTaskTeam} {w : TeamMap} {wsMapText : WString}
    {team : TeamMemberGroup} (hteam : team ∈ s.teamsAt w wsMapText) :
    exists TeamGroup_, (wsMapText, TeamGroup_) ∈ (s.map w).toList ∧
      team ∈ TeamGroup_ := by
  cases hkey : (s.map w)[wsMapText]? with
  | none =>
      rw [teamsAt_of_none hkey] at hteam
      cases hteam
  | some TeamGroup_ =>
      rw [teamsAt_of_some hkey] at hteam
      exact ⟨TeamGroup_, OrderedMaps.mem_toList_iff.mpr hkey, hteam⟩

theorem teamsAt_setGroup_of_ne (s : CBnsTaskTeam) {w w' : TeamMap}
    {wsMapText wsMapText' : WString} (TeamGroup_ : TeamGroup)
    (h : ¬ (w = w' ∧ wsMapText = wsMapText')) :
    (s.setGroup w wsMapText TeamGroup_).teamsAt w' wsMapText' =
      s.teamsAt w' wsMapText' := by
  rw [teamsAt, setGroup, map_setMap]
  by_cases hw : w = w'
  · have hkey : wsMapText ≠ wsMapText' := fun hkey => h ⟨hw, hkey⟩
    rw [if_pos hw, OrderedMaps.getElem?_insert_of_ne _ _ hkey, hw]
    rfl
  · rw [if_neg hw]
    rfl

@[simp] theorem teamsAt_with_count (s : CBnsTaskTeam) (n : Nat) (w : TeamMap)
    (wsMapText : WString) :
    ({ s with dwTeamIdCount := n } : CBnsTaskTeam).teamsAt w wsMapText =
      s.teamsAt w wsMapText := by
  cases w with
  | taskTeamMap => rfl
  | dungoenTeamMap => rfl

theorem map_createTeamGroup {wsMapText : WString} {CtiMember : ClientTeamInfo}
    {w : TeamMap} {s : CBnsTaskTeam} (hfree : (s.map w)[wsMapText]? = none) :
    ((createTeamGroup wsMapText CtiMember w s).map w)[wsMapText]? =
      some [newTeamMemberGroup CtiMember
        (UInt32.ofNat (s.dwTeamIdCount + 1))] := by
  have hget := OrderedMaps.getElem?_insertIfNew_of_none
    [newTeamMemberGroup CtiMember (UInt32.ofNat (s.dwTeamIdCount + 1))] hfree
  cases w with
  | taskTeamMap => exact hget
  | dungoenTeamMap => exact hget

theorem teamsAt_createTeamGroup_of_ne {wsMapText wsMapText' : WString}
    {CtiMember : ClientTeamInfo} {w w' : TeamMap} {s : CBnsTaskTeam}
    (h : ¬ (w = w' ∧ wsMapText = wsMapText')) :
    (createTeamGroup wsMapText CtiMember w s).teamsAt w' wsMapText' =
      s.teamsAt w' wsMapText' := by
  rw [createTeamGroup, teamsAt_with_count, teamsAt, map_setMap]
  by_cases hw : w = w'
  · have hkey : wsMapText ≠ wsMapText' := fun hkey => h ⟨hw, hkey⟩
    rw [if_pos hw, OrderedMaps.getElem?_insertIfNew_of_ne _ _ hkey, hw]
    rfl
  · rw [if_neg hw]
    rfl

theorem accountsOf_whole (p : Place TeamMemberGroup) :
    accountsOf p.whole =
      accountsOf p.pre ++ (p.here.accounts ++ accountsOf p.post) := by
  simp [accountsOf, Place.whole, Place.put]

theorem accountsOf_put (p : Place TeamMemberGroup) (team : TeamMemberGroup) :
    accountsOf (p.put team) =
      accountsOf p.pre ++ (team.accounts ++ accountsOf p.post) := by
  simp [accountsOf, Place.put]

theorem mem_accountsOf {TeamGroup_ : TeamGroup} {wsAccountName : WString} :
    wsAccountName ∈ accountsOf TeamGroup_ ↔
      exists team, team ∈ TeamGroup_ ∧ wsAccountName ∈ team.accounts :=
  List.mem_flatMap

theorem place_mem_accounts {team : TeamMemberGroup} {self : Place TeamMemberInfo}
    (hself : self.whole = team.memberVec) : self.here.account ∈ team.accounts := by
  rw [TeamMemberGroup.accounts, ← hself]
  exact List.mem_map_of_mem Place.mem_whole

theorem place_mem_accountsOf {TeamGroup_ : TeamGroup} {p : Place TeamMemberGroup}
    {self : Place TeamMemberInfo} (hwhole : p.whole = TeamGroup_)
    (hself : self.whole = p.here.memberVec) :
    self.here.account ∈ accountsOf TeamGroup_ := by
  rw [← hwhole]
  exact mem_accountsOf.mpr ⟨p.here, Place.mem_whole, place_mem_accounts hself⟩

theorem team_unique {TeamGroup_ : TeamGroup}
    (hnodup : (accountsOf TeamGroup_).Nodup) {team team' : TeamMemberGroup}
    (hteam : team ∈ TeamGroup_) (hteam' : team' ∈ TeamGroup_)
    {wsAccountName : WString} (hmem : wsAccountName ∈ team.accounts)
    (hmem' : wsAccountName ∈ team'.accounts) : team = team' :=
  Parts.part_unique hnodup hteam hteam' hmem hmem'

/-!
## Searches
-/

theorem existMember_eq_none {wsAccountName : WString} {TeamGroup_ : TeamGroup} :
    existMember_By_AccountName_In_TeamMemberGroup T wsAccountName TeamGroup_ =
        none ↔
      wsAccountName ∉ accountsOf TeamGroup_ := by
  induction TeamGroup_ with
  | nil => simp [existMember_By_AccountName_In_TeamMemberGroup, accountsOf]
  | cons itm TeamGroup_ ih =>
      have hhere : firstPlace
          (fun Member : TeamMemberInfo =>
            Member.member.wsAccountName == wsAccountName) itm.memberVec = none ↔
          wsAccountName ∉ itm.accounts := by
        rw [firstPlace_eq_none, TeamMemberGroup.accounts, List.mem_map]
        simp only [beq_eq_false_iff_ne, not_exists, not_and]
        rfl
      have hcons : accountsOf (itm :: TeamGroup_) =
          itm.accounts ++ accountsOf TeamGroup_ := rfl
      rw [hcons, List.mem_append, not_or, ← hhere, ← ih]
      simp only [existMember_By_AccountName_In_TeamMemberGroup,
        MyTools.dequeFindIf_eq]
      cases hp : firstPlace (fun Member : TeamMemberInfo =>
          Member.member.wsAccountName == wsAccountName) itm.memberVec with
      | none => simp
      | some p => simp

theorem existMember_eq_some {wsAccountName : WString} {TeamGroup_ : TeamGroup}
    {p : Place TeamMemberGroup} {self : Place TeamMemberInfo}
    (h : existMember_By_AccountName_In_TeamMemberGroup T wsAccountName
      TeamGroup_ = some (p, self)) :
    p.whole = TeamGroup_ ∧ self.whole = p.here.memberVec ∧
      self.here.account = wsAccountName := by
  induction TeamGroup_ generalizing p self with
  | nil => cases h
  | cons itm TeamGroup_ ih =>
      simp only [existMember_By_AccountName_In_TeamMemberGroup,
        MyTools.dequeFindIf_eq] at h
      split at h
      · rename_i q hq
        rcases firstPlace_eq_some hq with ⟨hwhole, htest, _⟩
        cases h
        exact ⟨rfl, hwhole, beq_iff_eq.mp htest⟩
      · rcases Option.map_eq_some_iff.mp h with ⟨found, hfound, heq⟩
        rcases found with ⟨q, self'⟩
        rcases ih hfound with ⟨hwhole, hself, haccount⟩
        cases heq
        exact ⟨congrArg (itm :: ·) hwhole, hself, haccount⟩

theorem findCaptain_of_first {team : TeamMemberGroup} {Captain : TeamMemberInfo}
    {others : List TeamMemberInfo} (hmembers : team.memberVec = Captain :: others)
    (hcaptain : Captain.bCaptain = true) :
    findCaptain_By_AccountName_In_TeamMemberGroup T team = some Captain := by
  rw [findCaptain_By_AccountName_In_TeamMemberGroup, MyTools.dequeFindIf_eq,
    hmembers]
  simp [firstPlace, hcaptain]

theorem findSeat_eq_some {CtiMember : ClientTeamInfo} {TeamGroup_ : TeamGroup}
    {p : Place TeamMemberGroup} {wsGroupTitle : WString}
    (h : findSeat T CtiMember TeamGroup_ = some (p, wsGroupTitle)) :
    p.whole = TeamGroup_ ∧
      p.here.memberVec.length < p.here.uMaxMemberCount.toNat ∧
      p.here.isReadOnly = false := by
  have hsecond : (firstPlace vacantNotReadOnly TeamGroup_).map
        (fun p => (p, CtiMember.wsGroupTitle)) = some (p, wsGroupTitle) ->
      p.whole = TeamGroup_ ∧
        p.here.memberVec.length < p.here.uMaxMemberCount.toNat ∧
        p.here.isReadOnly = false := by
    intro hp
    rcases Option.map_eq_some_iff.mp hp with ⟨q, hq, heq⟩
    rcases firstPlace_eq_some hq with ⟨hwhole, htest, _⟩
    cases heq
    rw [vacantNotReadOnly, Bool.and_eq_true, decide_eq_true_eq,
      Bool.not_eq_true'] at htest
    exact ⟨hwhole, htest.left, htest.right⟩
  simp only [findSeat, MyTools.dequeFindIf_eq] at h
  split at h
  · rename_i q hq
    split at h
    · exact hsecond h
    · rename_i hopen
      rcases firstPlace_eq_some hq with ⟨hwhole, htest, _⟩
      cases h
      unfold vacantUnderTitle at htest
      split at htest
      · cases htest
      · exact ⟨hwhole, of_decide_eq_true htest, Bool.eq_false_iff.mpr hopen⟩
  · exact hsecond h

/-!
## Leaving
-/

theorem dismissTeamOf_sublist (wsAccountName : WString) (TeamGroup_ : TeamGroup) :
    (dismissTeamOf T wsAccountName TeamGroup_).Sublist TeamGroup_ := by
  unfold dismissTeamOf
  split
  · exact List.Sublist.refl _
  · exact T.dqueEraseIf_sublist _ _

def otherId (wsAccountName : WString) (TeamGroup_ : TeamGroup)
    (team : TeamMemberGroup) : Bool :=
  TeamGroup_.all fun own =>
    decide (wsAccountName ∈ own.accounts -> team.dwTeamId ≠ own.dwTeamId)

theorem otherId_iff {wsAccountName : WString} {TeamGroup_ : TeamGroup}
    {team : TeamMemberGroup} :
    otherId wsAccountName TeamGroup_ team = true ↔
      forall own, own ∈ TeamGroup_ -> wsAccountName ∈ own.accounts ->
        team.dwTeamId ≠ own.dwTeamId := by
  simp only [otherId, List.all_eq_true, decide_eq_true_eq]

theorem dismissTeamOf_eq (hT : T.ErasesAll) {TeamGroup_ : TeamGroup}
    (hnodup : (accountsOf TeamGroup_).Nodup) (wsAccountName : WString) :
    dismissTeamOf T wsAccountName TeamGroup_ =
      TeamGroup_.filter (otherId wsAccountName TeamGroup_) := by
  unfold dismissTeamOf
  split
  · rename_i hnone
    have habsent := existMember_eq_none.mp hnone
    symm
    apply List.filter_eq_self.mpr
    intro team _
    apply otherId_iff.mpr
    intro own hown haccount
    exact absurd (mem_accountsOf.mpr ⟨own, hown, haccount⟩) habsent
  · rename_i p self hfound
    rcases existMember_eq_some hfound with ⟨hwhole, hself, haccount⟩
    have hhere : p.here ∈ TeamGroup_ := by
      rw [← hwhole]
      exact Place.mem_whole
    have hin : wsAccountName ∈ p.here.accounts :=
      haccount ▸ place_mem_accounts hself
    rw [dismissTeamMemberGroup, hT]
    apply List.filter_congr
    intro team _
    rw [Bool.eq_iff_iff, Bool.not_eq_true', beq_eq_false_iff_ne, otherId_iff]
    constructor
    · intro hne own hown hmem
      rwa [team_unique hnodup hown hhere hmem hin]
    · intro hall
      exact hall p.here hhere hin

theorem leaveDungoenTeam_sublist (wsPlayerName : WString)
    (TeamGroup_ : TeamGroup) :
    (leaveDungoenTeam T wsPlayerName TeamGroup_).Sublist TeamGroup_ := by
  unfold leaveDungoenTeam
  split
  · exact List.Sublist.refl _
  · split
    · exact T.dqueEraseIf_sublist _ _
    · exact List.Sublist.refl _

/-- What the loop leaves under a key that had the deque. -/
def deleted (T : MyTools) (wsAccountName : WString) (TeamGroup_ : TeamGroup) :
    Option TeamGroup :=
  if (dismissTeamOf T wsAccountName TeamGroup_).length = 0 then none
  else some (dismissTeamOf T wsAccountName TeamGroup_)

theorem deleted_getD (wsAccountName : WString) (TeamGroup_ : TeamGroup) :
    (deleted T wsAccountName TeamGroup_).getD [] =
      dismissTeamOf T wsAccountName TeamGroup_ := by
  unfold deleted
  split
  · rename_i hempty
    rw [List.length_eq_zero_iff.mp hempty]
    rfl
  · rfl

theorem deleteTurn_own (wsAccountName : WString)
    (m : Std.TreeMap WString TeamGroup) (itr : WString × TeamGroup) :
    (deleteTurn T wsAccountName m itr)[itr.1]? =
      deleted T wsAccountName itr.2 := by
  unfold deleteTurn deleted
  dsimp only
  split
  · rw [OrderedMaps.getElem?_erase, if_pos rfl]
  · rw [OrderedMaps.getElem?_insert_self]

theorem deleteTurn_others (wsAccountName : WString)
    (m : Std.TreeMap WString TeamGroup) (itr : WString × TeamGroup)
    (wsMapText : WString) (hne : itr.1 ≠ wsMapText) :
    (deleteTurn T wsAccountName m itr)[wsMapText]? = m[wsMapText]? := by
  unfold deleteTurn
  dsimp only
  split
  · rw [OrderedMaps.getElem?_erase, if_neg hne]
  · rw [OrderedMaps.getElem?_insert_of_ne _ _ hne]

theorem teamsAt_deleteTeamMember (wsAccountName : WString) (w : TeamMap)
    (s : CBnsTaskTeam) (w' : TeamMap) (wsMapText : WString) :
    (deleteTeamMember T wsAccountName w s).teamsAt w' wsMapText =
      if w = w' then dismissTeamOf T wsAccountName (s.teamsAt w' wsMapText)
      else s.teamsAt w' wsMapText := by
  rw [deleteTeamMember, teamsAt, map_setMap]
  by_cases hw : w = w'
  · rw [if_pos hw, if_pos hw, hw, teamsAt,
      OrderedMaps.getElem?_foldl_own (deleteTurn T wsAccountName)
        (fun _ => deleted T wsAccountName) (deleteTurn_own wsAccountName)
        (deleteTurn_others wsAccountName)]
    cases (s.map w')[wsMapText]? with
    | none => rfl
    | some TeamGroup_ => exact deleted_getD wsAccountName TeamGroup_
  · rw [if_neg hw, if_neg hw]
    rfl

theorem teamsAt_deleteDungoenTeamMember (wsPlayerName : WString)
    (s : CBnsTaskTeam) (w : TeamMap) (wsMapText : WString) :
    (deleteDungoenTeamMember T wsPlayerName s).teamsAt w wsMapText =
      if w = .dungoenTeamMap then
        leaveDungoenTeam T wsPlayerName (s.teamsAt w wsMapText)
      else s.teamsAt w wsMapText := by
  cases w with
  | taskTeamMap => rfl
  | dungoenTeamMap =>
      have hget := OrderedMaps.getElem?_foldl_own (leaveTurn T wsPlayerName)
        (fun _ TeamGroup_ => some (leaveDungoenTeam T wsPlayerName TeamGroup_))
        (fun m itm => OrderedMaps.getElem?_insert_self m itm.1 _)
        (fun m itm _ hne => OrderedMaps.getElem?_insert_of_ne m _ hne)
        s.dungoenTeamMap wsMapText
      rw [if_pos rfl, deleteDungoenTeamMember, teamsAt, map_setMap, if_pos rfl,
        hget]
      show _ = leaveDungoenTeam T wsPlayerName
        (s.dungoenTeamMap[wsMapText]?.getD [])
      cases s.dungoenTeamMap[wsMapText]? with
      | none => rfl
      | some TeamGroup_ => rfl

/-!
## Rewriting a team
-/

def role (itm : TeamMemberInfo) : Bool × WString :=
  (itm.bCaptain, itm.account)

/-- The team was rewritten without anybody joining, leaving or moving. -/
structure SameShape (team team' : TeamMemberGroup) : Prop where
  roles : team'.memberVec.map role = team.memberVec.map role
  maxMemberCount : team'.uMaxMemberCount = team.uMaxMemberCount
  taskId : team'.dwTaskId = team.dwTaskId
  scheduleId : team'.dwScheduleId = team.dwScheduleId
  channelId : team'.dwChannelId = team.dwChannelId
  serverId : team'.dwServerId = team.dwServerId
  teamId : team'.dwTeamId = team.dwTeamId

theorem accounts_eq_roles (team : TeamMemberGroup) :
    team.accounts = (team.memberVec.map role).map Prod.snd := by
  rw [List.map_map]
  rfl

theorem SameShape.accounts {team team' : TeamMemberGroup}
    (h : SameShape team team') : team'.accounts = team.accounts := by
  rw [accounts_eq_roles, accounts_eq_roles, h.roles]

theorem sameShape_of_put {team : TeamMemberGroup} {self : Place TeamMemberInfo}
    (hself : self.whole = team.memberVec) {itm : TeamMemberInfo}
    (hrole : role itm = role self.here) :
    SameShape team { team with memberVec := self.put itm } where
  roles := by
    rw [← hself]
    exact Place.map_put_of_eq hrole
  maxMemberCount := rfl
  taskId := rfl
  scheduleId := rfl
  channelId := rfl
  serverId := rfl
  teamId := rfl

theorem SameShape.refl (team : TeamMemberGroup) : SameShape team team :=
  ⟨rfl, rfl, rfl, rfl, rfl, rfl, rfl⟩

theorem actionInTeamGroupMember_shape (wsAccountName : WString)
    {Worker : TeamMemberInfo -> TeamMemberInfo}
    (hworker : forall itm, role (Worker itm) = role itm)
    (team : TeamMemberGroup) :
    SameShape team
      (actionInTeamGroupMemberByAccountName T wsAccountName Worker team) := by
  rw [actionInTeamGroupMemberByAccountName, MyTools.dequeFindIf_eq]
  split
  · exact SameShape.refl team
  · rename_i p hp
    exact sameShape_of_put (firstPlace_eq_some hp).left (hworker p.here)

theorem existTeamMember_eq_some {dwTeamId : DWORD} {s : CBnsTaskTeam}
    {wsMapText : WString} {p : Place TeamMemberGroup}
    (h : existTeamMember_By_TeamId T dwTeamId s.dungoenTeamMap =
      some (wsMapText, p)) :
    p.whole = s.teamsAt .dungoenTeamMap wsMapText ∧ p.here.dwTeamId = dwTeamId := by
  rw [existTeamMember_By_TeamId] at h
  rcases List.exists_of_findSome?_eq_some h with ⟨itm, hitm, hp⟩
  rcases itm with ⟨key, TeamGroup_⟩
  rcases Option.map_eq_some_iff.mp hp with ⟨q, hq, heq⟩
  rw [existMember_By_TeamId_In_TeamMemberGroup, MyTools.dequeFindIf_eq] at hq
  cases heq
  have hget : (s.map .dungoenTeamMap)[key]? = some TeamGroup_ :=
    OrderedMaps.mem_toList_iff.mp hitm
  rw [teamsAt_of_some hget]
  rcases firstPlace_eq_some hq with ⟨hwhole, htest, _⟩
  exact ⟨hwhole, beq_iff_eq.mp htest⟩

theorem existTeamMember_eq_none {dwTeamId : DWORD} {s : CBnsTaskTeam}
    (h : existTeamMember_By_TeamId T dwTeamId s.dungoenTeamMap = none)
    {itm : WString × TeamGroup} (hitm : itm ∈ s.dungoenTeamMap.toList)
    {team : TeamMemberGroup} (hteam : team ∈ itm.2) : team.dwTeamId ≠ dwTeamId := by
  rw [existTeamMember_By_TeamId] at h
  have hnone := Option.map_eq_none_iff.mp (List.findSome?_eq_none_iff.mp h itm hitm)
  rw [existMember_By_TeamId_In_TeamMemberGroup, MyTools.dequeFindIf_eq] at hnone
  exact beq_eq_false_iff_ne.mp (firstPlace_eq_none.mp hnone team hteam)

theorem updateTeam_cases (dwTeamId : DWORD)
    (Worker : TeamMemberGroup -> TeamMemberGroup) (s : CBnsTaskTeam) :
    updateTeam_By_TeamId T dwTeamId Worker s = s ∨
      exists (wsMapText : WString) (p : Place TeamMemberGroup),
        p.whole = s.teamsAt .dungoenTeamMap wsMapText ∧
        updateTeam_By_TeamId T dwTeamId Worker s =
          s.setGroup .dungoenTeamMap wsMapText (p.put (Worker p.here)) := by
  unfold updateTeam_By_TeamId
  split
  · exact Or.inl rfl
  · rename_i wsMapText p hfound
    exact Or.inr ⟨wsMapText, p, (existTeamMember_eq_some hfound).left, rfl⟩

end CBnsTaskTeam
end BnsKorea
