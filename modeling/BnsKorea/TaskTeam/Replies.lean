import BnsKorea.Library.Parts
import BnsKorea.TaskTeam.Invariant

/-!
# Replies to joins

A valid join leaves the account in exactly one team of its key and answers with
that team.  Of two members of one team that join in succession the second is
answered with the captain the first was answered with, or is that captain.
-/

namespace BnsKorea

open Library

namespace CBnsTaskTeam

variable {T : MyTools}

/-!
## One team for an account
-/

theorem accounts_nodup_of_mem {TeamGroup_ : TeamGroup}
    (hnodup : (accountsOf TeamGroup_).Nodup) {team : TeamMemberGroup}
    (hteam : team ∈ TeamGroup_) : team.accounts.Nodup :=
  (List.nodup_flatMap.mp hnodup).left team hteam

theorem filter_put_account {p : Place TeamMemberGroup} {team : TeamMemberGroup}
    (hnodup : (accountsOf (p.put team)).Nodup) {wsAccountName : WString}
    (hmem : wsAccountName ∈ team.accounts) :
    (p.put team).filter (fun team => decide (wsAccountName ∈ team.accounts)) =
      [team] := by
  have hnone : forall teams : TeamGroup, wsAccountName ∉ accountsOf teams ->
      teams.filter (fun team => decide (wsAccountName ∈ team.accounts)) = [] := by
    intro teams hteams
    apply List.filter_eq_nil_iff.mpr
    intro other hother hin
    exact hteams (mem_accountsOf.mpr ⟨other, hother, of_decide_eq_true hin⟩)
  rw [accountsOf_put, List.nodup_append] at hnodup
  rcases hnodup with ⟨_, hrest, hpre⟩
  rw [List.nodup_append] at hrest
  rcases hrest with ⟨_, _, hpost⟩
  have hnotpre : wsAccountName ∉ accountsOf p.pre := by
    intro h
    exact hpre wsAccountName h wsAccountName (List.mem_append_left _ hmem) rfl
  have hnotpost : wsAccountName ∉ accountsOf p.post := by
    intro h
    exact hpost wsAccountName hmem wsAccountName h rfl
  rw [Place.put, List.filter_append, hnone p.pre hnotpre,
    List.filter_cons, hnone p.post hnotpost, decide_eq_true hmem]
  rfl

theorem Outcome.self {CtiMember : ClientTeamInfo} {n n' : Nat}
    {before after : TeamGroup} {team : TeamMemberGroup}
    (h : Outcome T CtiMember n before team after n') :
    (exists p : Place TeamMemberGroup, p.put team = after) ∧
      exists self, self ∈ team.memberVec ∧ self.member = CtiMember.selfCti := by
  cases h with
  | found hwhole hself haccount =>
      rename_i p self
      refine ⟨⟨p, rfl⟩, updateSelf CtiMember self.here,
        Place.mem_put.mpr (Or.inr (Or.inl rfl)), ?_⟩
      have hname : self.here.member.wsAccountName =
          CtiMember.selfCti.wsAccountName := haccount
      unfold updateSelf
      dsimp only
      rw [hname]
  | seated habsent hseat =>
      rename_i p wsGroupTitle
      exact ⟨⟨p, rfl⟩, { bCaptain := false, member := CtiMember.selfCti },
        List.mem_append_right _ List.mem_cons_self, rfl⟩
  | founded habsent hfull =>
      let team := newTeamMemberGroup CtiMember (UInt32.ofNat (n + 1))
      exact ⟨⟨{ pre := before, here := team, post := [] }, rfl⟩,
        { bCaptain := true, member := CtiMember.selfCti }, List.mem_cons_self,
        rfl⟩

/-!
## What the reply says
-/

/-- The reply is about the team and the account's own entry is up to date. -/
structure Answers (team : TeamMemberGroup) (CtiMember : ClientTeamInfo)
    (Result : BnsTeamResult) : Prop where
  teamId : Result.dwTeamId = team.dwTeamId
  self : exists self, self ∈ team.memberVec ∧ self.member = CtiMember.selfCti
  captain : exists Captain, Captain ∈ team.memberVec ∧
    Captain.bCaptain = true ∧
    (forall itm, itm ∈ team.memberVec -> itm.bCaptain = true -> itm = Captain) ∧
    Result.captain = resultOf Captain ∧
    Result.vecTeamMember =
      if Captain.account = CtiMember.selfCti.wsAccountName then
        (team.memberVec.filter fun itm =>
          decide (itm.account ≠ CtiMember.selfCti.wsAccountName)).map resultOf
      else []

theorem captain_unique {team : TeamMemberGroup} {Captain : TeamMemberInfo}
    {others : List TeamMemberInfo}
    (hmembers : team.memberVec = Captain :: others)
    (hothers : forall itm, itm ∈ others -> itm.bCaptain = false) :
    forall itm, itm ∈ team.memberVec -> itm.bCaptain = true ->
      itm = Captain := by
  intro itm hitm hcaptain
  rw [hmembers] at hitm
  rcases List.mem_cons.mp hitm with heq | hitm
  · exact heq
  · rw [hothers itm hitm] at hcaptain
    cases hcaptain

theorem filter_others {team : TeamMemberGroup} {Captain : TeamMemberInfo}
    {others : List TeamMemberInfo}
    (hmembers : team.memberVec = Captain :: others)
    (hnodup : team.accounts.Nodup) :
    (team.memberVec.filter fun itm =>
      decide (itm.account ≠ Captain.account)) = others := by
  rw [TeamMemberGroup.accounts, hmembers, List.map_cons, List.nodup_cons]
    at hnodup
  rw [hmembers, List.filter_cons_of_neg (by simp)]
  apply List.filter_eq_self.mpr
  intro itm hitm
  apply decide_eq_true
  intro heq
  exact hnodup.left (List.mem_map.mpr ⟨itm, hitm, heq⟩)

theorem Tells.answers {wsMapText : WString} {team : TeamMemberGroup}
    {CtiMember : ClientTeamInfo} {Result : BnsTeamResult}
    (htells : Tells team CtiMember.selfCti.wsAccountName Result)
    (hok : TeamOk T wsMapText team) (hnodup : team.accounts.Nodup)
    (hself : exists self,
      self ∈ team.memberVec ∧ self.member = CtiMember.selfCti) :
    Answers team CtiMember Result where
  teamId := htells.teamId
  self := hself
  captain := by
    rcases htells.captain with
      ⟨Captain, others, hmembers, hcaptain, hresult, hlist⟩
    rcases hok.captainFirst with ⟨first, rest, hfirst, _, hrest⟩
    have hsame := hmembers.symm.trans hfirst
    rw [← (List.cons.inj hsame).right] at hrest
    refine ⟨Captain, ?_, hcaptain, captain_unique hmembers hrest, hresult, ?_⟩
    · rw [hmembers]
      exact List.mem_cons_self
    · rw [hlist]
      split
      · rename_i haccount
        rw [← haccount, filter_others hmembers hnodup]
      · rfl

/-!
## Joins in succession
-/

theorem join_tablesOk {s : CBnsTaskTeam} (hs : TablesOk T s) (w : TeamMap)
    (CtiMember : ClientTeamInfo) : TablesOk T (join T w CtiMember {} s).2.1 :=
  (join_changes hs w CtiMember).tablesOk hs

theorem rejoined_captain {CtiMember : ClientTeamInfo} {team : TeamMemberGroup}
    {self : Place TeamMemberInfo} (hself : self.whole = team.memberVec)
    {Captain Captain' : TeamMemberInfo} {others others' : List TeamMemberInfo}
    (hmembers : team.memberVec = Captain :: others)
    (hmembers' : (rejoined CtiMember team self).memberVec =
      Captain' :: others') :
    Captain' = Captain ∨ Captain'.account = self.here.account := by
  rcases self with ⟨pre, here, post⟩
  rw [← hself] at hmembers
  cases pre with
  | nil =>
      have hhere := (List.cons.inj hmembers').left
      rw [← hhere]
      exact Or.inr rfl
  | cons first pre =>
      have hfirst := (List.cons.inj hmembers).left
      have hfirst' := (List.cons.inj hmembers').left
      exact Or.inl (hfirst'.symm.trans hfirst)

theorem Outcome.same_team {CtiMember : ClientTeamInfo} {n n' : Nat}
    {before after : TeamGroup} {first team : TeamMemberGroup}
    (h : Outcome T CtiMember n before team after n')
    (hnodup : (accountsOf before).Nodup) (hfirst : first ∈ before)
    {wsAccountName : WString} (hin : wsAccountName ∈ first.accounts)
    (hin' : wsAccountName ∈ team.accounts)
    {Captain Captain' : TeamMemberInfo} {others others' : List TeamMemberInfo}
    (hmembers : first.memberVec = Captain :: others)
    (hmembers' : team.memberVec = Captain' :: others') :
    team.dwTeamId = first.dwTeamId ∧
      (Captain' = Captain ∨
        Captain'.account = CtiMember.selfCti.wsAccountName) := by
  have hold : wsAccountName ∈ accountsOf before :=
    mem_accountsOf.mpr ⟨first, hfirst, hin⟩
  cases h with
  | found hwhole hself haccount =>
      rename_i p self
      have hhere : p.here ∈ before := hwhole ▸ Place.mem_whole
      rw [(rejoined_shape hself).accounts] at hin'
      have hsame := team_unique hnodup hfirst hhere hin hin'
      rw [hsame] at hmembers ⊢
      refine ⟨rfl, ?_⟩
      rw [← haccount]
      exact rejoined_captain hself hmembers hmembers'
  | seated habsent hseat =>
      rename_i p wsGroupTitle
      have hhere : p.here ∈ before :=
        (findSeat_eq_some hseat).left ▸ Place.mem_whole
      rw [seatMember_accounts] at hin'
      rcases List.mem_append.mp hin' with hin' | hin'
      · have hsame := team_unique hnodup hfirst hhere hin hin'
        rw [hsame] at hmembers ⊢
        refine ⟨rfl, Or.inl ?_⟩
        rw [seatMember, hmembers] at hmembers'
        exact (List.cons.inj hmembers').left.symm
      · rw [List.mem_singleton.mp hin'] at hold
        exact absurd hold habsent
  | founded habsent hfull =>
      rw [newTeam_accounts] at hin'
      rw [List.mem_singleton.mp hin'] at hold
      exact absurd hold habsent

theorem entry_unique {team : TeamMemberGroup} (hnodup : team.accounts.Nodup)
    {itm itm' : TeamMemberInfo} (hitm : itm ∈ team.memberVec)
    (hitm' : itm' ∈ team.memberVec) (haccount : itm.account = itm'.account) :
    itm = itm' :=
  List.inj_on_of_nodup_map hnodup hitm hitm' haccount

theorem join_answers_once {s : CBnsTaskTeam} (hs : TablesOk T s) (w : TeamMap)
    {CtiMember : ClientTeamInfo} (hwork : isWork CtiMember = true) :
    exists team, JoinsAs T CtiMember w s team (join T w CtiMember {} s).2 ∧
      ((join T w CtiMember {} s).2.1.teamsAt w
          (createMapText T CtiMember)).filter
        (fun team => decide (CtiMember.selfCti.wsAccountName ∈ team.accounts)) =
        [team] ∧
      Answers team CtiMember (join T w CtiMember {} s).2.2 := by
  have hafter := join_tablesOk hs w CtiMember w (createMapText T CtiMember)
  rw [join_of_isWork hwork] at hafter ⊢
  rcases joinTeam_outcome hs CtiMember w with ⟨team, hjoin⟩
  rcases hjoin.outcome.self with ⟨⟨p, hp⟩, self, hself, hmember⟩
  refine ⟨team, hjoin, ?_, ?_⟩
  · rw [← hp] at hafter ⊢
    apply filter_put_account hafter.accounts
    rw [← hmember]
    exact List.mem_map.mpr ⟨self, hself, rfl⟩
  · have hteam : team ∈ (joinTeam T CtiMember w {} s).1.teamsAt w
        (createMapText T CtiMember) := by
      rw [← hp]
      exact Place.mem_put.mpr (Or.inr (Or.inl rfl))
    exact hjoin.tells.answers (hafter.teams team hteam)
      (accounts_nodup_of_mem hafter.accounts hteam) ⟨self, hself, hmember⟩

theorem next_answers {s : CBnsTaskTeam} (hs : TablesOk T s) {w : TeamMap}
    {wsMapText wsAccountName : WString} {first team : TeamMemberGroup}
    {Result : BnsTeamResult} (hfirst : first ∈ s.teamsAt w wsMapText)
    (hin : wsAccountName ∈ first.accounts)
    (htells : Tells first wsAccountName Result) {CtiNext : ClientTeamInfo}
    (hkey : createMapText T CtiNext = wsMapText)
    {after : CBnsTaskTeam × BnsTeamResult}
    (hjoin : JoinsAs T CtiNext w s team after)
    (hanswers : Answers team CtiNext after.2) (hnodup : team.accounts.Nodup)
    (hin' : wsAccountName ∈ team.accounts) :
    after.2.dwTeamId = Result.dwTeamId ∧
      forall Captain, Captain ∈ team.memberVec -> Captain.bCaptain = true ->
        after.2.captain =
          if Captain.account = CtiNext.selfCti.wsAccountName then
            { wsPlayerName := CtiNext.selfCti.wsPlayerName
              dwPlayerId := CtiNext.selfCti.dwPlayerId }
          else Result.captain := by
  rcases htells.captain with ⟨old, others, hmembers, _, hold, _⟩
  rcases hjoin.tells.captain with ⟨new, others', hmembers', hcaptain, hnew, _⟩
  have houtcome := hjoin.outcome
  rw [hkey] at houtcome
  rcases houtcome.same_team (hs w wsMapText).accounts hfirst hin hin' hmembers
    hmembers' with ⟨hid, hsame⟩
  refine ⟨hanswers.teamId.trans (hid.trans htells.teamId.symm), ?_⟩
  intro Captain hmem hmark
  have hnewmem : new ∈ team.memberVec := by
    rw [hmembers']
    exact List.mem_cons_self
  have heq : Captain = new := by
    rcases hanswers.captain with ⟨only, _, _, hunique, _⟩
    exact (hunique Captain hmem hmark).trans (hunique new hnewmem hcaptain).symm
  rw [heq, hnew]
  split
  · rename_i haccount
    rcases hanswers.self with ⟨self, hself, hmember⟩
    have hentry : new = self := by
      apply entry_unique hnodup hnewmem hself
      rw [haccount, ← hmember]
      rfl
    rw [hentry, resultOf, hmember]
  · rename_i haccount
    rcases hsame with hsame | hsame
    · rw [hsame, hold]
    · exact absurd hsame haccount

/--
A valid join answers with the one team of its key the account is in.  A member
of the same team that joins next under the same key is answered with the same
id and captain, or, if it is the captain, with the name and id it joins with.
-/
theorem Reachable.join_answers {s : CBnsTaskTeam} (h : Reachable T s)
    (w : TeamMap) {CtiMember : ClientTeamInfo}
    (hwork : isWork CtiMember = true) :
    let answer := join T w CtiMember {} s
    let teams := answer.2.1.teamsAt w (createMapText T CtiMember)
    answer.1 = true ∧
      (exists team,
        teams.filter (fun team =>
          decide (CtiMember.selfCti.wsAccountName ∈ team.accounts)) = [team] ∧
        Answers team CtiMember answer.2.2) ∧
      forall CtiNext : ClientTeamInfo, isWork CtiNext = true ->
        createMapText T CtiNext = createMapText T CtiMember ->
        let next := join T w CtiNext {} answer.2.1
        forall team,
          team ∈ next.2.1.teamsAt w (createMapText T CtiMember) ->
          CtiMember.selfCti.wsAccountName ∈ team.accounts ->
          CtiNext.selfCti.wsAccountName ∈ team.accounts ->
          next.2.2.dwTeamId = answer.2.2.dwTeamId ∧
            forall Captain, Captain ∈ team.memberVec ->
              Captain.bCaptain = true ->
              next.2.2.captain =
                if Captain.account = CtiNext.selfCti.wsAccountName then
                  { wsPlayerName := CtiNext.selfCti.wsPlayerName
                    dwPlayerId := CtiNext.selfCti.dwPlayerId }
                else answer.2.2.captain := by
  intro answer teams
  rcases join_answers_once h.tablesOk w hwork with
    ⟨first, hfirst, hone, hanswers⟩
  refine ⟨congrArg Prod.fst (join_of_isWork hwork w s), ⟨first, hone, hanswers⟩,
    ?_⟩
  intro CtiNext hnext hkey next team hteam hin hin'
  have hmem : first ∈ teams.filter fun team =>
      decide (CtiMember.selfCti.wsAccountName ∈ team.accounts) := by
    rw [hone]
    exact List.mem_cons_self
  rcases List.mem_filter.mp hmem with ⟨hmemfirst, hinfirst⟩
  have hs' : TablesOk T answer.2.1 := join_tablesOk h.tablesOk w CtiMember
  have hafter := join_tablesOk hs' w CtiNext w (createMapText T CtiMember)
  rcases join_answers_once hs' w hnext with ⟨team', hjoin, hone', hanswers'⟩
  have hsame : team = team' := by
    rw [hkey] at hone'
    have hfound : team ∈ [team'] := by
      rw [← hone']
      exact List.mem_filter.mpr ⟨hteam, by simpa using hin'⟩
    exact List.mem_singleton.mp hfound
  rw [← hsame] at hjoin hanswers'
  exact next_answers hs' hmemfirst (of_decide_eq_true hinfirst) hfirst.tells hkey
    hjoin hanswers' (accounts_nodup_of_mem hafter.accounts hteam) hin

theorem pairState_join_answers :
    exists team,
      Answers team (pairPlayer (L "anna") (L "Anna") 8 [])
        (join MyTools.standard .taskTeamMap
          (pairPlayer (L "anna") (L "Anna") 8 []) {} pairState).2.2 := by
  rcases Reachable.join_answers pairState_reachable .taskTeamMap
    (show isWork (pairPlayer (L "anna") (L "Anna") 8 []) = true by decide) with
    ⟨_, ⟨team, _, hanswers⟩, _⟩
  exact ⟨team, hanswers⟩

/-- The captain joins after its member, under a new name. -/
theorem pairState_renamed_captain :
    let answer := join MyTools.standard .taskTeamMap
      (pairPlayer (L "anna") (L "Anna") 8 []) {} pairState
    let next := join MyTools.standard .taskTeamMap
      (pairPlayer (L "boris") (L "Bob") 9 []) {} answer.2.1
    Reachable MyTools.standard pairState ∧ answer.1 = true ∧ next.1 = true ∧
      (exists team,
        team ∈ next.2.1.teamsAt .taskTeamMap (L "2,[1F,0],0") ∧
        L "anna" ∈ team.accounts ∧ L "boris" ∈ team.accounts) ∧
      next.2.2.captain ≠ answer.2.2.captain := by
  exact ⟨pairState_reachable, by decide, by decide, by decide, by decide⟩

end CBnsTaskTeam
end BnsKorea
