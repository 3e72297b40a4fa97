import BnsKorea.TaskTeam.Teams

/-!
# Joining a team

A join finds the account in a team, gives it a seat in one, or founds one.
While the teams are well formed one of these three happens whatever the path
through the callbacks, and the reply speaks of the team the account ends in.
-/

namespace BnsKorea

open Library

namespace CBnsTaskTeam

variable {T : MyTools}

/-!
## Well-formed teams
-/

structure TeamOk (T : MyTools) (wsMapText : WString) (team : TeamMemberGroup) :
    Prop where
  captainFirst : exists Captain others, team.memberVec = Captain :: others ∧
    Captain.bCaptain = true ∧ forall itm, itm ∈ others -> itm.bCaptain = false
  notOverfull : team.memberVec.length ≤ max 1 team.uMaxMemberCount.toNat
  keyed : mapText T team.dwServerId team.dwTaskId team.dwScheduleId
    team.dwChannelId = wsMapText

structure GroupOk (T : MyTools) (wsMapText : WString) (TeamGroup_ : TeamGroup) :
    Prop where
  teams : forall team, team ∈ TeamGroup_ -> TeamOk T wsMapText team
  accounts : (accountsOf TeamGroup_).Nodup

def TablesOk (T : MyTools) (s : CBnsTaskTeam) : Prop :=
  forall w wsMapText, GroupOk T wsMapText (s.teamsAt w wsMapText)

theorem GroupOk.here {wsMapText : WString} {p : Place TeamMemberGroup}
    (h : GroupOk T wsMapText p.whole) : TeamOk T wsMapText p.here :=
  h.teams p.here Place.mem_whole

theorem SameShape.teamOk {wsMapText : WString} {team team' : TeamMemberGroup}
    (hshape : SameShape team team') (h : TeamOk T wsMapText team) :
    TeamOk T wsMapText team' where
  captainFirst := by
    rcases h.captainFirst with ⟨Captain, others, hmembers, hcaptain, hothers⟩
    have hroles := hshape.roles
    rw [hmembers, List.map_cons] at hroles
    rcases List.map_eq_cons_iff.mp hroles with
      ⟨Captain', others', hmembers', hrole, hrest⟩
    refine ⟨Captain', others', hmembers', ?_, ?_⟩
    · exact (congrArg Prod.fst hrole).trans hcaptain
    · intro itm hitm
      have hmem : role itm ∈ others.map role := by
        rw [← hrest]
        exact List.mem_map.mpr ⟨itm, hitm, rfl⟩
      rcases List.mem_map.mp hmem with ⟨old, hold, heq⟩
      exact (congrArg Prod.fst heq).symm.trans (hothers old hold)
  notOverfull := by
    have hlength := congrArg List.length hshape.roles
    rw [List.length_map, List.length_map] at hlength
    rw [hlength, hshape.maxMemberCount]
    exact h.notOverfull
  keyed := by
    rw [hshape.serverId, hshape.taskId, hshape.scheduleId, hshape.channelId]
    exact h.keyed

theorem seatMember_teamOk {wsMapText : WString} {team : TeamMemberGroup}
    (h : TeamOk T wsMapText team)
    (hseat : team.memberVec.length < team.uMaxMemberCount.toNat)
    (CtiMember : ClientTeamInfo) (wsGroupTitle : WString) :
    TeamOk T wsMapText (seatMember CtiMember wsGroupTitle team) where
  captainFirst := by
    rcases h.captainFirst with ⟨Captain, others, hmembers, hcaptain, hothers⟩
    refine ⟨Captain, others ++
      [{ bCaptain := false, member := CtiMember.selfCti }], ?_, hcaptain, ?_⟩
    · rw [seatMember, hmembers]
      rfl
    · intro itm hitm
      rcases List.mem_append.mp hitm with hitm | hitm
      · exact hothers itm hitm
      · rw [List.mem_singleton.mp hitm]
  notOverfull := by
    have hlength : (seatMember CtiMember wsGroupTitle team).memberVec.length =
        team.memberVec.length + 1 := List.length_append
    show _ ≤ max 1 team.uMaxMemberCount.toNat
    rw [hlength]
    omega
  keyed := h.keyed

theorem newTeam_teamOk (CtiMember : ClientTeamInfo) (dwTeamId : DWORD) :
    TeamOk T (createMapText T CtiMember)
      (newTeamMemberGroup CtiMember dwTeamId) where
  captainFirst := by
    refine ⟨{ bCaptain := true, member := CtiMember.selfCti }, [], rfl, rfl, ?_⟩
    intro itm hitm
    cases hitm
  notOverfull := Nat.le_max_left 1 _
  keyed := rfl

@[simp] theorem seatMember_accounts (CtiMember : ClientTeamInfo)
    (wsGroupTitle : WString) (team : TeamMemberGroup) :
    (seatMember CtiMember wsGroupTitle team).accounts =
      team.accounts ++ [CtiMember.selfCti.wsAccountName] :=
  List.map_append

@[simp] theorem newTeam_accounts (CtiMember : ClientTeamInfo)
    (dwTeamId : DWORD) :
    (newTeamMemberGroup CtiMember dwTeamId).accounts =
      [CtiMember.selfCti.wsAccountName] :=
  rfl

/-!
## Replies
-/

def resultOf (itm : TeamMemberInfo) : TeamMemberResult where
  wsPlayerName := itm.member.wsPlayerName
  dwPlayerId := itm.member.dwPlayerId

structure Tells (team : TeamMemberGroup) (wsAccountName : WString)
    (Result : BnsTeamResult) : Prop where
  teamId : Result.dwTeamId = team.dwTeamId
  captain : exists Captain others, team.memberVec = Captain :: others ∧
    Captain.bCaptain = true ∧ Result.captain = resultOf Captain ∧
    Result.vecTeamMember =
      if Captain.account = wsAccountName then others.map resultOf else []

theorem foldl_addMember {others : List TeamMemberInfo}
    (hothers : forall itm, itm ∈ others -> itm.bCaptain = false)
    (Result : BnsTeamResult) :
    others.foldl
        (fun Result itm =>
          if itm.bCaptain then Result
          else Result.addMember itm.member.wsPlayerName itm.member.dwPlayerId)
        Result =
      { Result with
        vecTeamMember := Result.vecTeamMember ++ others.map resultOf } := by
  induction others generalizing Result with
  | nil => simp
  | cons itm others ih =>
      have hitm := hothers itm List.mem_cons_self
      rw [List.foldl_cons, hitm, if_neg Bool.false_ne_true,
        ih fun x hx => hothers x (List.mem_cons_of_mem itm hx)]
      simp [BnsTeamResult.addMember, resultOf]

theorem foundReply_tells {wsMapText : WString} {team : TeamMemberGroup}
    (h : TeamOk T wsMapText team) (TeamSelf : TeamMemberInfo) :
    exists Captain,
      findCaptain_By_AccountName_In_TeamMemberGroup T team = some Captain ∧
      Tells team TeamSelf.account (foundReply team TeamSelf Captain {}) := by
  rcases h.captainFirst with ⟨Captain, others, hmembers, hcaptain, hothers⟩
  refine ⟨Captain, findCaptain_of_first hmembers hcaptain, ?_⟩
  by_cases hself : Captain.account = TeamSelf.account
  · have hreply : foundReply team TeamSelf Captain {} =
        { vecTeamMember := others.map resultOf
          dwTeamId := team.dwTeamId
          captain := resultOf Captain } := by
      have hsame : Captain.member.wsAccountName =
          TeamSelf.member.wsAccountName := hself
      unfold foundReply
      rw [if_neg (not_not.mpr hsame), hmembers, List.foldl_cons, hcaptain,
        if_pos rfl, foldl_addMember hothers]
      rfl
    rw [hreply]
    refine ⟨rfl, Captain, others, hmembers, hcaptain, rfl, ?_⟩
    rw [if_pos hself]
  · have hreply : foundReply team TeamSelf Captain {} =
        { dwTeamId := team.dwTeamId
          captain := resultOf Captain } := by
      have hother : Captain.member.wsAccountName ≠
          TeamSelf.member.wsAccountName := hself
      unfold foundReply
      rw [if_pos hother]
      rfl
    rw [hreply]
    refine ⟨rfl, Captain, others, hmembers, hcaptain, rfl, ?_⟩
    rw [if_neg hself]

theorem vacantReply_tells {wsMapText wsAccountName : WString}
    {team : TeamMemberGroup} (h : TeamOk T wsMapText team)
    (hothers : forall Captain others, team.memberVec = Captain :: others ->
      Captain.account = wsAccountName -> others = []) :
    exists Captain,
      findCaptain_By_AccountName_In_TeamMemberGroup T team = some Captain ∧
      Tells team wsAccountName (vacantReply team Captain {}) := by
  rcases h.captainFirst with ⟨Captain, others, hmembers, hcaptain, _⟩
  refine ⟨Captain, findCaptain_of_first hmembers hcaptain, rfl, Captain, others,
    hmembers, hcaptain, rfl, ?_⟩
  split
  · rename_i hself
    rw [hothers Captain others hmembers hself]
    rfl
  · rfl

/-!
## The outcome of a join
-/

def rejoined (CtiMember : ClientTeamInfo) (team : TeamMemberGroup)
    (self : Place TeamMemberInfo) : TeamMemberGroup :=
  { team with memberVec := self.put (updateSelf CtiMember self.here) }

/--
What a join does to the teams under its key and to the number of teams founded
so far; the team named is the one the account is in afterwards.
-/
inductive Outcome (T : MyTools) (CtiMember : ClientTeamInfo)
    (dwTeamIdCount : Nat) (TeamGroup_ : TeamGroup) :
    TeamMemberGroup -> TeamGroup -> Nat -> Prop where
  | found {p : Place TeamMemberGroup} {self : Place TeamMemberInfo}
      (hwhole : p.whole = TeamGroup_) (hself : self.whole = p.here.memberVec)
      (haccount : self.here.account = CtiMember.selfCti.wsAccountName) :
      Outcome T CtiMember dwTeamIdCount TeamGroup_
        (rejoined CtiMember p.here self)
        (p.put (rejoined CtiMember p.here self)) dwTeamIdCount
  | seated {p : Place TeamMemberGroup} {wsGroupTitle : WString}
      (habsent : CtiMember.selfCti.wsAccountName ∉ accountsOf TeamGroup_)
      (hseat : findSeat T CtiMember TeamGroup_ = some (p, wsGroupTitle)) :
      Outcome T CtiMember dwTeamIdCount TeamGroup_
        (seatMember CtiMember wsGroupTitle p.here)
        (p.put (seatMember CtiMember wsGroupTitle p.here)) dwTeamIdCount
  | founded
      (habsent : CtiMember.selfCti.wsAccountName ∉ accountsOf TeamGroup_)
      (hfull : findSeat T CtiMember TeamGroup_ = none) :
      Outcome T CtiMember dwTeamIdCount TeamGroup_
        (newTeamMemberGroup CtiMember (UInt32.ofNat (dwTeamIdCount + 1)))
        (TeamGroup_ ++
          [newTeamMemberGroup CtiMember (UInt32.ofNat (dwTeamIdCount + 1))])
        (dwTeamIdCount + 1)

theorem rejoined_shape {CtiMember : ClientTeamInfo} {team : TeamMemberGroup}
    {self : Place TeamMemberInfo} (hself : self.whole = team.memberVec) :
    SameShape team (rejoined CtiMember team self) :=
  sameShape_of_put hself rfl

/-- The state and reply of a join whose outcome is `Outcome`. -/
structure JoinsAs (T : MyTools) (CtiMember : ClientTeamInfo) (w : TeamMap)
    (s : CBnsTaskTeam) (team : TeamMemberGroup)
    (after : CBnsTaskTeam × BnsTeamResult) : Prop where
  outcome : Outcome T CtiMember s.dwTeamIdCount
    (s.teamsAt w (createMapText T CtiMember)) team
    (after.1.teamsAt w (createMapText T CtiMember)) after.1.dwTeamIdCount
  others : forall w' wsMapText,
    ¬ (w = w' ∧ createMapText T CtiMember = wsMapText) ->
    after.1.teamsAt w' wsMapText = s.teamsAt w' wsMapText
  tells : Tells team CtiMember.selfCti.wsAccountName after.2

theorem joinFound_eq {CtiMember : ClientTeamInfo} {w : TeamMap}
    {p : Place TeamMemberGroup} {self : Place TeamMemberInfo} {s : CBnsTaskTeam}
    (hself : self.whole = p.here.memberVec)
    (hok : TeamOk T (createMapText T CtiMember) p.here) :
    exists Result,
      joinFound T CtiMember w (p, self) {} s =
        (s.setGroup w (createMapText T CtiMember)
          (p.put (rejoined CtiMember p.here self)), Result) ∧
      Tells (rejoined CtiMember p.here self) self.here.account Result := by
  have hok' : TeamOk T (createMapText T CtiMember)
      (rejoined CtiMember p.here self) := (rejoined_shape hself).teamOk hok
  rcases foundReply_tells hok' (updateSelf CtiMember self.here) with
    ⟨Captain, hcaptain, htells⟩
  refine ⟨_, ?_, htells⟩
  have hcaptain' : findCaptain_By_AccountName_In_TeamMemberGroup T
      { p.here with memberVec := self.put (updateSelf CtiMember self.here) } =
        some Captain := hcaptain
  unfold joinFound
  dsimp only
  rw [hcaptain']
  rfl

theorem joinTeam_found {CtiMember : ClientTeamInfo} {w : TeamMap}
    {s : CBnsTaskTeam} (hs : TablesOk T s) {TeamGroup_ : TeamGroup}
    (hkey : (s.map w)[createMapText T CtiMember]? = some TeamGroup_)
    {found : Place TeamMemberGroup × Place TeamMemberInfo}
    (hfound : existMember_By_AccountName_In_TeamMemberGroup T
      CtiMember.selfCti.wsAccountName TeamGroup_ = some found) :
    exists team, JoinsAs T CtiMember w s team (joinTeam T CtiMember w {} s) := by
  rcases found with ⟨p, self⟩
  rcases existMember_eq_some hfound with ⟨hwhole, hself, haccount⟩
  have hat := teamsAt_of_some hkey
  have hgroup := hs w (createMapText T CtiMember)
  rw [hat, ← hwhole] at hgroup
  rcases joinFound_eq (w := w) (s := s) hself hgroup.here with
    ⟨Result, heq, htells⟩
  have hjoin : joinTeam T CtiMember w {} s =
      (s.setGroup w (createMapText T CtiMember)
        (p.put (rejoined CtiMember p.here self)), Result) := by
    rw [← heq, joinTeam, existTeamMember, hkey]
    dsimp only
    rw [hkey, Option.getD_some, hfound]
  rw [hjoin]
  refine ⟨rejoined CtiMember p.here self, ?_, ?_, ?_⟩
  · rw [hat, teamsAt_setGroup_self, setGroup_count]
    exact Outcome.found hwhole hself haccount
  · intro w' wsMapText hne
    exact teamsAt_setGroup_of_ne s _ hne
  · rw [← haccount]
    exact htells

theorem findVacant_seated {CtiMember : ClientTeamInfo} {w : TeamMap}
    {s : CBnsTaskTeam} {TeamGroup_ : TeamGroup}
    (hkey : (s.map w)[createMapText T CtiMember]? = some TeamGroup_)
    {p : Place TeamMemberGroup} {wsGroupTitle : WString}
    (hseat : findSeat T CtiMember TeamGroup_ = some (p, wsGroupTitle))
    (hok : TeamOk T (createMapText T CtiMember) p.here)
    (habsent : CtiMember.selfCti.wsAccountName ∉ p.here.accounts) :
    exists Result,
      findVacantPosition_In_TeamMemberGroup T CtiMember w {} s =
        (true, s.setGroup w (createMapText T CtiMember)
          (p.put (seatMember CtiMember wsGroupTitle p.here)), Result) ∧
      Tells (seatMember CtiMember wsGroupTitle p.here)
        CtiMember.selfCti.wsAccountName Result := by
  rcases findSeat_eq_some hseat with ⟨_, hroom, _⟩
  have hok' := seatMember_teamOk hok hroom CtiMember wsGroupTitle
  have hothers : forall Captain others,
      (seatMember CtiMember wsGroupTitle p.here).memberVec =
        Captain :: others ->
      Captain.account = CtiMember.selfCti.wsAccountName -> others = [] := by
    intro Captain others hmembers haccount
    rcases hok.captainFirst with ⟨first, rest, hfirst, _⟩
    rw [seatMember, hfirst] at hmembers
    have hsame : first = Captain := (List.cons.inj hmembers).left
    refine absurd ?_ habsent
    rw [TeamMemberGroup.accounts, hfirst, hsame, ← haccount]
    exact List.mem_cons_self
  rcases vacantReply_tells hok' hothers with ⟨Captain, hcaptain, htells⟩
  refine ⟨_, ?_, htells⟩
  simp only [findVacantPosition_In_TeamMemberGroup, hkey, hseat, hcaptain]

theorem joinTeam_of_vacant {CtiMember : ClientTeamInfo} {w : TeamMap}
    {s after : CBnsTaskTeam} {Result : BnsTeamResult} {TeamGroup_ : TeamGroup}
    (hkey : (s.map w)[createMapText T CtiMember]? = some TeamGroup_)
    (hnone : existMember_By_AccountName_In_TeamMemberGroup T
      CtiMember.selfCti.wsAccountName TeamGroup_ = none)
    (hvacant : findVacantPosition_In_TeamMemberGroup T CtiMember w {} s =
      (true, after, Result)) :
    joinTeam T CtiMember w {} s = (after, Result) := by
  rw [joinTeam, existTeamMember, hkey]
  dsimp only
  rw [hkey, Option.getD_some, hnone]
  dsimp only
  rw [hvacant]
  rfl

theorem newTeam_tells (CtiMember : ClientTeamInfo) (dwTeamId : DWORD) :
    Tells (newTeamMemberGroup CtiMember dwTeamId)
      CtiMember.selfCti.wsAccountName
      (vacantReply (newTeamMemberGroup CtiMember dwTeamId)
        { bCaptain := true, member := CtiMember.selfCti } {}) := by
  refine ⟨rfl, { bCaptain := true, member := CtiMember.selfCti }, [], rfl, rfl,
    rfl, ?_⟩
  split
  · rfl
  · rfl

theorem joinTeam_absent {CtiMember : ClientTeamInfo} {w : TeamMap}
    {s : CBnsTaskTeam} (hs : TablesOk T s) {TeamGroup_ : TeamGroup}
    (hkey : (s.map w)[createMapText T CtiMember]? = some TeamGroup_)
    (hnone : existMember_By_AccountName_In_TeamMemberGroup T
      CtiMember.selfCti.wsAccountName TeamGroup_ = none) :
    exists team, JoinsAs T CtiMember w s team (joinTeam T CtiMember w {} s) := by
  have habsent := existMember_eq_none.mp hnone
  have hat := teamsAt_of_some hkey
  have hgroup := hs w (createMapText T CtiMember)
  rw [hat] at hgroup
  cases hseat : findSeat T CtiMember TeamGroup_ with
  | some found =>
      rcases found with ⟨p, wsGroupTitle⟩
      have hwhole := (findSeat_eq_some hseat).left
      have habsent' : CtiMember.selfCti.wsAccountName ∉ p.here.accounts := by
        intro hmem
        apply habsent
        rw [← hwhole]
        exact mem_accountsOf.mpr ⟨p.here, Place.mem_whole, hmem⟩
      rw [← hwhole] at hgroup
      rcases findVacant_seated (w := w) hkey hseat hgroup.here habsent' with
        ⟨Result, heq, htells⟩
      rw [joinTeam_of_vacant hkey hnone heq]
      refine ⟨seatMember CtiMember wsGroupTitle p.here, ?_, ?_, htells⟩
      · rw [hat, teamsAt_setGroup_self, setGroup_count]
        exact Outcome.seated habsent hseat
      · intro w' wsMapText hne
        exact teamsAt_setGroup_of_ne s _ hne
  | none =>
      have heq : findVacantPosition_In_TeamMemberGroup T CtiMember w {} s =
          createTeamMemberGroup T CtiMember w TeamGroup_ {} s := by
        simp only [findVacantPosition_In_TeamMemberGroup, hkey, hseat]
      rw [joinTeam_of_vacant hkey hnone heq]
      refine ⟨newTeamMemberGroup CtiMember
        (UInt32.ofNat (s.dwTeamIdCount + 1)), ?_, ?_, newTeam_tells CtiMember _⟩
      · rw [hat, teamsAt_with_count, teamsAt_setGroup_self]
        exact Outcome.founded habsent hseat
      · intro w' wsMapText hne
        rw [teamsAt_with_count]
        exact teamsAt_setGroup_of_ne s _ hne

theorem joinTeam_newKey {CtiMember : ClientTeamInfo} {w : TeamMap}
    {s : CBnsTaskTeam} (hkey : (s.map w)[createMapText T CtiMember]? = none) :
    exists team, JoinsAs T CtiMember w s team (joinTeam T CtiMember w {} s) := by
  let team := newTeamMemberGroup CtiMember (UInt32.ofNat (s.dwTeamIdCount + 1))
  let Captain : TeamMemberInfo :=
    { bCaptain := true, member := CtiMember.selfCti }
  let created := createTeamGroup (createMapText T CtiMember) CtiMember w s
  let p : Place TeamMemberGroup := { pre := [], here := team, post := [] }
  let self : Place TeamMemberInfo := { pre := [], here := Captain, post := [] }
  have hfound : existMember_By_AccountName_In_TeamMemberGroup T
      CtiMember.selfCti.wsAccountName [team] = some (p, self) := by
    simp [existMember_By_AccountName_In_TeamMemberGroup, team, p, self, Captain,
      newTeamMemberGroup, firstPlace]
  have hcreated : (created.map w)[createMapText T CtiMember]? = some [team] :=
    map_createTeamGroup hkey
  have hself : self.whole = p.here.memberVec := rfl
  rcases joinFound_eq (w := w) (s := created) hself
    (newTeam_teamOk CtiMember _) with ⟨Result, heq, htells⟩
  have hjoin : joinTeam T CtiMember w {} s =
      (created.setGroup w (createMapText T CtiMember) [team], Result) := by
    show _ = (created.setGroup w (createMapText T CtiMember)
      (p.put (rejoined CtiMember p.here self)), Result)
    rw [← heq, joinTeam, existTeamMember, hkey]
    dsimp only
    rw [hcreated, Option.getD_some, hfound]
  have hat := teamsAt_of_none hkey
  rw [hjoin]
  refine ⟨team, ?_, ?_, htells⟩
  · rw [hat, teamsAt_setGroup_self, setGroup_count]
    have hfull : findSeat T CtiMember [] = none := by
      simp [findSeat, firstPlace]
    refine Outcome.founded ?_ hfull
    intro hmem
    cases hmem
  · intro w' wsMapText hne
    rw [teamsAt_setGroup_of_ne _ _ hne, teamsAt_createTeamGroup_of_ne hne]

theorem joinTeam_outcome {s : CBnsTaskTeam} (hs : TablesOk T s)
    (CtiMember : ClientTeamInfo) (w : TeamMap) :
    exists team, JoinsAs T CtiMember w s team (joinTeam T CtiMember w {} s) := by
  cases hkey : (s.map w)[createMapText T CtiMember]? with
  | none => exact joinTeam_newKey hkey
  | some TeamGroup_ =>
      cases hfound : existMember_By_AccountName_In_TeamMemberGroup T
          CtiMember.selfCti.wsAccountName TeamGroup_ with
      | some found => exact joinTeam_found hs hkey hfound
      | none => exact joinTeam_absent hs hkey hfound

theorem join_of_isWork {CtiMember : ClientTeamInfo}
    (hwork : isWork CtiMember = true) (w : TeamMap) (s : CBnsTaskTeam) :
    join T w CtiMember {} s = (true, joinTeam T CtiMember w {} s) := by
  rw [join, hwork]
  rfl

end CBnsTaskTeam
end BnsKorea
