import BnsKorea.TaskTeam.Invariant

/-!
# Leaving a team

Who leaves the task teams takes the own team along, which is looked up by its
id: the other teams stay as long as none of them has the same id.  Who leaves
the dungeon teams is only gone if nobody else was in the team.
-/

namespace BnsKorea

open Library

namespace CBnsTaskTeam

variable {T : MyTools}

/-- No team without the account has the id of the account's team. -/
def NoTwin (wsAccountName : WString) (TeamGroup_ : TeamGroup) : Prop :=
  forall own, own ∈ TeamGroup_ -> wsAccountName ∈ own.accounts ->
    forall team, team ∈ TeamGroup_ -> team.dwTeamId = own.dwTeamId ->
      wsAccountName ∈ team.accounts

def withoutAccount (wsAccountName : WString) (TeamGroup_ : TeamGroup) : TeamGroup :=
  TeamGroup_.filter fun team => decide (wsAccountName ∉ team.accounts)

theorem mem_withoutAccount {wsAccountName : WString} {TeamGroup_ : TeamGroup}
    {team : TeamMemberGroup} :
    team ∈ withoutAccount wsAccountName TeamGroup_ ↔
      team ∈ TeamGroup_ ∧ wsAccountName ∉ team.accounts := by
  rw [withoutAccount, List.mem_filter, decide_eq_true_iff]

theorem not_mem_of_otherId {wsAccountName : WString} {TeamGroup_ : TeamGroup}
    {team : TeamMemberGroup} (hteam : team ∈ TeamGroup_)
    (h : otherId wsAccountName TeamGroup_ team = true) :
    wsAccountName ∉ team.accounts := by
  intro hmem
  exact otherId_iff.mp h team hteam hmem rfl

theorem filter_otherId_eq_iff {wsAccountName : WString} {TeamGroup_ : TeamGroup} :
    TeamGroup_.filter (otherId wsAccountName TeamGroup_) =
        withoutAccount wsAccountName TeamGroup_ ↔
      NoTwin wsAccountName TeamGroup_ := by
  constructor
  · intro h own hown haccount team hteam hid
    by_contra habsent
    have hkept : team ∈ withoutAccount wsAccountName TeamGroup_ :=
      mem_withoutAccount.mpr ⟨hteam, habsent⟩
    rw [← h] at hkept
    exact otherId_iff.mp (List.mem_filter.mp hkept).right own hown haccount hid
  · intro h
    apply List.filter_congr
    intro team hteam
    rw [Bool.eq_iff_iff, decide_eq_true_iff]
    constructor
    · exact not_mem_of_otherId hteam
    · intro habsent
      apply otherId_iff.mpr
      intro own hown haccount hid
      exact habsent (h own hown haccount team hteam hid)

/-!
## The task teams
-/

/-- The teams of the account are gone, the others are left, and no key is bare. -/
structure Dismissed (wsAccountName : WString) (s after : CBnsTaskTeam) : Prop where
  gone : forall wsMapText team, team ∈ after.teamsAt .taskTeamMap wsMapText ->
    wsAccountName ∉ team.accounts
  others : forall wsMapText : WString, after.teamsAt .taskTeamMap wsMapText =
    withoutAccount wsAccountName (s.teamsAt .taskTeamMap wsMapText)
  keys : forall wsMapText : WString, (after.map .taskTeamMap)[wsMapText]? ≠ some []

theorem deleteTaskMember_keys (wsAccountName : WString) (s : CBnsTaskTeam)
    (wsMapText : WString) :
    ((deleteTaskMember T wsAccountName s).map .taskTeamMap)[wsMapText]? ≠
      some [] := by
  rw [deleteTaskMember, deleteTeamMember, map_setMap, if_pos rfl,
    OrderedMaps.getElem?_foldl_own (deleteTurn T wsAccountName)
      (fun _ => deleted T wsAccountName) (deleteTurn_own wsAccountName)
      (deleteTurn_others wsAccountName)]
  cases (s.map .taskTeamMap)[wsMapText]? with
  | none =>
      intro h
      cases h
  | some TeamGroup_ =>
      show deleted T wsAccountName TeamGroup_ ≠ some []
      unfold deleted
      split
      · intro h
        cases h
      · rename_i hlength
        intro h
        exact hlength (congrArg List.length (Option.some.inj h))

theorem Reachable.teamsAt_deleteTaskMember {s : CBnsTaskTeam} (h : Reachable T s)
    (hT : T.ErasesAll) (wsAccountName wsMapText : WString) :
    (deleteTaskMember T wsAccountName s).teamsAt .taskTeamMap wsMapText =
      (s.teamsAt .taskTeamMap wsMapText).filter
        (otherId wsAccountName (s.teamsAt .taskTeamMap wsMapText)) := by
  rw [deleteTaskMember, teamsAt_deleteTeamMember, if_pos rfl]
  exact dismissTeamOf_eq hT (h.tablesOk .taskTeamMap wsMapText).accounts _

theorem Dismissed.noTwin {s : CBnsTaskTeam} {wsAccountName : WString}
    (hdismissed : Dismissed wsAccountName s (deleteTaskMember T wsAccountName s))
    (h : Reachable T s) (hT : T.ErasesAll) (wsMapText : WString) :
    NoTwin wsAccountName (s.teamsAt .taskTeamMap wsMapText) := by
  rw [← filter_otherId_eq_iff, ← h.teamsAt_deleteTaskMember hT]
  exact hdismissed.others wsMapText

/--
After a call in any state that is reached, the account's task teams are gone,
and nothing else, exactly if no other team of their keys has one of their ids.
-/
theorem Reachable.dismissed_iff {s : CBnsTaskTeam} (h : Reachable T s)
    (hT : T.ErasesAll) (wsAccountName : WString) :
    Dismissed wsAccountName s (deleteTaskMember T wsAccountName s) ↔
      forall wsMapText, NoTwin wsAccountName (s.teamsAt .taskTeamMap wsMapText) := by
  constructor
  · intro hdismissed
    exact hdismissed.noTwin h hT
  · intro htwin
    have hothers : forall wsMapText,
        (deleteTaskMember T wsAccountName s).teamsAt .taskTeamMap wsMapText =
          withoutAccount wsAccountName (s.teamsAt .taskTeamMap wsMapText) := by
      intro wsMapText
      rw [h.teamsAt_deleteTaskMember hT, filter_otherId_eq_iff]
      exact htwin wsMapText
    refine ⟨?_, hothers, deleteTaskMember_keys wsAccountName s⟩
    intro wsMapText team hteam
    rw [hothers] at hteam
    exact (mem_withoutAccount.mp hteam).right

theorem IdsApart.noTwin {s : CBnsTaskTeam} (h : IdsApart s) (wsAccountName : WString)
    (w : TeamMap) (wsMapText : WString) :
    NoTwin wsAccountName (s.teamsAt w wsMapText) := by
  intro own hown haccount team hteam hid
  have hsame : team = own :=
    List.inj_on_of_nodup_map (h.own w wsMapText) hteam hown hid
  rwa [hsame]

theorem pairState_dismissed :
    Dismissed (L "anna") pairState
      (deleteTaskMember MyTools.standard (L "anna") pairState) := by
  have hids := (pairState_reachable.idsIssued (by decide)).toIdsApart
  exact (Reachable.dismissed_iff pairState_reachable MyTools.standard_erasesAll
    (L "anna")).mpr (hids.noTwin (L "anna") .taskTeamMap)

/-!
## The counter goes round

Founding and leaving a dungeon team over and over brings the counter back to the
id of a task team that is still there.
-/

theorem Outcome.of_full {CtiMember : ClientTeamInfo} {n n' : Nat}
    {before after : TeamGroup} {team : TeamMemberGroup}
    (h : Outcome T CtiMember n before team after n')
    (habsent : CtiMember.selfCti.wsAccountName ∉ accountsOf before)
    (hfull : findSeat T CtiMember before = none) :
    after = before ++ [newTeamMemberGroup CtiMember (UInt32.ofNat (n + 1))] ∧
      n' = n + 1 := by
  cases h with
  | found hwhole hself haccount =>
      rw [← haccount] at habsent
      exact absurd (place_mem_accountsOf hwhole hself) habsent
  | seated _ hseat =>
      rw [hfull] at hseat
      cases hseat
  | founded _ _ => exact ⟨rfl, rfl⟩

/-- The state after a team was founded under the key of a message. -/
structure Founds (T : MyTools) (CtiMember : ClientTeamInfo) (w : TeamMap)
    (s after : CBnsTaskTeam) : Prop where
  own : after.teamsAt w (createMapText T CtiMember) =
    s.teamsAt w (createMapText T CtiMember) ++
      [newTeamMemberGroup CtiMember (UInt32.ofNat (s.dwTeamIdCount + 1))]
  count : after.dwTeamIdCount = s.dwTeamIdCount + 1
  others : forall w' wsMapText,
    ¬ (w = w' ∧ createMapText T CtiMember = wsMapText) ->
    after.teamsAt w' wsMapText = s.teamsAt w' wsMapText

theorem join_founds {s : CBnsTaskTeam} (hs : TablesOk T s) {w : TeamMap}
    {CtiMember : ClientTeamInfo} (hwork : isWork CtiMember = true)
    (habsent : CtiMember.selfCti.wsAccountName ∉
      accountsOf (s.teamsAt w (createMapText T CtiMember)))
    (hfull : findSeat T CtiMember (s.teamsAt w (createMapText T CtiMember)) =
      none) :
    Founds T CtiMember w s (join T w CtiMember {} s).2.1 := by
  rcases joinTeam_outcome hs CtiMember w with ⟨team, hjoin⟩
  rcases hjoin.outcome.of_full habsent hfull with ⟨hown, hcount⟩
  rw [join_of_isWork hwork]
  exact ⟨hown, hcount, hjoin.others⟩

/-- The players of the example; their teams have room for nobody else. -/
def solist (wsAccountName : WString) : ClientTeamInfo :=
  { pairPlayer wsAccountName wsAccountName 7 [] with dwMaxMember := 1 }

def solistKey : WString :=
  createMapText MyTools.standard (solist [])

theorem round {s : CBnsTaskTeam} (hs : Reachable MyTools.standard s)
    (hnone : s.teamsAt .dungoenTeamMap solistKey = []) :
    exists after, Reachable MyTools.standard after ∧
      after.teamsAt .dungoenTeamMap solistKey = [] ∧
      after.dwTeamIdCount = s.dwTeamIdCount + 1 ∧
      forall wsMapText, after.teamsAt .taskTeamMap wsMapText =
        s.teamsAt .taskTeamMap wsMapText := by
  have hnone' : s.teamsAt .dungoenTeamMap
      (createMapText MyTools.standard (solist (L "cleo"))) = [] := hnone
  have hfounds : Founds MyTools.standard (solist (L "cleo")) .dungoenTeamMap s
      (join MyTools.standard .dungoenTeamMap (solist (L "cleo")) {} s).2.1 := by
    apply join_founds hs.tablesOk (by decide)
    · rw [hnone']
      exact List.not_mem_nil
    · rw [hnone']
      rfl
  have hown := hfounds.own
  rw [hnone'] at hown
  refine ⟨deleteDungoenTeamMember MyTools.standard (L "cleo")
    (join MyTools.standard .dungoenTeamMap (solist (L "cleo")) {} s).2.1,
    ?_, ?_, ?_, ?_⟩
  · exact (hs.snoc (l := Call.joinDungoenTeam (solist (L "cleo"))) trivial).snoc
      (l := Call.deleteDungoenTeamMember (L "cleo")) trivial
  · rw [teamsAt_deleteDungoenTeamMember, if_pos rfl]
    show leaveDungoenTeam MyTools.standard (L "cleo")
      ((join MyTools.standard .dungoenTeamMap (solist (L "cleo")) {} s).2.1.teamsAt
        .dungoenTeamMap
        (createMapText MyTools.standard (solist (L "cleo")))) = []
    rw [hown]
    simp [leaveDungoenTeam, existMember_By_AccountName_In_TeamMemberGroup,
      newTeamMemberGroup, solist, pairPlayer, firstPlace, dismissTeamMemberGroup,
      MyTools.standard]
  · exact hfounds.count
  · intro wsMapText
    rw [teamsAt_deleteDungoenTeamMember, if_neg (by decide)]
    exact hfounds.others .taskTeamMap wsMapText (fun h => TeamMap.noConfusion h.left)

theorem rounds {s : CBnsTaskTeam} (hs : Reachable MyTools.standard s)
    (hnone : s.teamsAt .dungoenTeamMap solistKey = []) (n : Nat) :
    exists after, Reachable MyTools.standard after ∧
      after.teamsAt .dungoenTeamMap solistKey = [] ∧
      after.dwTeamIdCount = s.dwTeamIdCount + n ∧
      forall wsMapText, after.teamsAt .taskTeamMap wsMapText =
        s.teamsAt .taskTeamMap wsMapText := by
  induction n with
  | zero => exact ⟨s, hs, hnone, rfl, fun _ => rfl⟩
  | succ n ih =>
      rcases ih with ⟨t, ht, htnone, htcount, htteams⟩
      rcases round ht htnone with ⟨after, hafter, hanone, hacount, hateams⟩
      refine ⟨after, hafter, hanone, ?_, ?_⟩
      · rw [hacount, htcount]
        rfl
      · intro wsMapText
        rw [hateams, htteams]

theorem teams_of_one_id :
    exists s, Reachable MyTools.standard s ∧
      s.teamsAt .taskTeamMap solistKey =
        [newTeamMemberGroup (solist (L "boris")) 1,
          newTeamMemberGroup (solist (L "anna")) 1] := by
  let boris := (join MyTools.standard .taskTeamMap (solist (L "boris")) {} {}).2.1
  have hempty : Reachable MyTools.standard {} := Machine.Run.refl _
  have hboris : Reachable MyTools.standard boris :=
    hempty.snoc (l := Call.joinTaskTeam (solist (L "boris"))) trivial
  have hfirst : Founds MyTools.standard (solist (L "boris")) .taskTeamMap {}
      boris := by
    apply join_founds tablesOk_initial (by decide)
    · rw [teamsAt_initial]
      exact List.not_mem_nil
    · rw [teamsAt_initial]
      rfl
  have hnone : boris.teamsAt .dungoenTeamMap solistKey = [] := by
    rw [hfirst.others .dungoenTeamMap solistKey (fun h => nomatch h.left),
      teamsAt_initial]
  rcases rounds hboris hnone (2 ^ 32 - 1) with ⟨t, ht, _, hcount, hteams⟩
  have hteam : t.teamsAt .taskTeamMap
      (createMapText MyTools.standard (solist (L "anna"))) =
      [newTeamMemberGroup (solist (L "boris")) 1] := by
    rw [hteams]
    have hown := hfirst.own
    rw [teamsAt_initial] at hown
    exact hown
  have hsecond : Founds MyTools.standard (solist (L "anna")) .taskTeamMap t
      (join MyTools.standard .taskTeamMap (solist (L "anna")) {} t).2.1 := by
    apply join_founds ht.tablesOk (by decide)
    · rw [hteam]
      decide
    · rw [hteam]
      rfl
  refine ⟨_, ht.snoc (l := Call.joinTaskTeam (solist (L "anna"))) trivial, ?_⟩
  have hround : UInt32.ofNat (t.dwTeamIdCount + 1) = 1 := by
    rw [hcount, hfirst.count]
    decide
  have hown := hsecond.own
  rw [hteam, hround] at hown
  exact hown

theorem annaLeaves_not_dismissed :
    exists s, Reachable MyTools.standard s ∧
      ¬ Dismissed (L "anna") s
        (deleteTaskMember MyTools.standard (L "anna") s) := by
  rcases teams_of_one_id with ⟨s, hs, hteams⟩
  refine ⟨s, hs, ?_⟩
  intro hdismissed
  have htwin := hdismissed.noTwin hs MyTools.standard_erasesAll solistKey
  rw [hteams] at htwin
  have hin : L "anna" ∈ (newTeamMemberGroup (solist (L "boris")) 1).accounts :=
    htwin (newTeamMemberGroup (solist (L "anna")) 1)
      (List.mem_cons_of_mem _ List.mem_cons_self) (by decide)
      (newTeamMemberGroup (solist (L "boris")) 1) List.mem_cons_self rfl
  revert hin
  decide

/-!
## The dungeon teams
-/

/-- A team after the account left it: the others in order, and a captain. -/
structure LeftBehind (T : MyTools) (wsAccountName : WString)
    (team team' : TeamMemberGroup) : Prop where
  members : team'.memberVec.map (fun itm => (itm.member, itm.dungoen)) =
    (team.memberVec.filter fun itm => !(itm.account == wsAccountName)).map
      fun itm => (itm.member, itm.dungoen)
  captain : (findCaptain_By_AccountName_In_TeamMemberGroup T team').isSome
  team : { team' with memberVec := [] } = { team with memberVec := [] }

/-- What a team becomes that the account was not alone in. -/
def Becomes (T : MyTools) (wsAccountName : WString)
    (team team' : TeamMemberGroup) : Prop :=
  (wsAccountName ∈ team.accounts -> LeftBehind T wsAccountName team team') ∧
    (wsAccountName ∉ team.accounts -> team' = team)

def notAlone (wsAccountName : WString) (TeamGroup_ : TeamGroup) : TeamGroup :=
  TeamGroup_.filter fun team => decide (team.accounts ≠ [wsAccountName])

/-- The account is in no dungeon team, and every team became what it should. -/
structure HasLeft (T : MyTools) (wsAccountName : WString)
    (s after : CBnsTaskTeam) : Prop where
  gone : forall wsMapText team, team ∈ after.teamsAt .dungoenTeamMap wsMapText ->
    wsAccountName ∉ team.accounts
  teams : forall wsMapText, List.Forall₂ (Becomes T wsAccountName)
    (notAlone wsAccountName (s.teamsAt .dungoenTeamMap wsMapText))
    (after.teamsAt .dungoenTeamMap wsMapText)

/-- The account is in no team, or alone in one whose id is its own. -/
def OnlyAlone (wsAccountName : WString) (TeamGroup_ : TeamGroup) : Prop :=
  NoTwin wsAccountName TeamGroup_ ∧
    forall own, own ∈ TeamGroup_ -> wsAccountName ∈ own.accounts ->
      own.accounts = [wsAccountName]

theorem mem_notAlone {wsAccountName : WString} {TeamGroup_ : TeamGroup}
    {team : TeamMemberGroup} :
    team ∈ notAlone wsAccountName TeamGroup_ ↔
      team ∈ TeamGroup_ ∧ team.accounts ≠ [wsAccountName] := by
  rw [notAlone, List.mem_filter, decide_eq_true_iff]

theorem leaveDungoenTeam_cases (hT : T.ErasesAll) {TeamGroup_ : TeamGroup}
    (hnodup : (accountsOf TeamGroup_).Nodup) (wsAccountName : WString) :
    (leaveDungoenTeam T wsAccountName TeamGroup_ = TeamGroup_ ∧
        forall own, own ∈ TeamGroup_ -> wsAccountName ∈ own.accounts ->
          own.accounts ≠ [wsAccountName]) ∨
      (leaveDungoenTeam T wsAccountName TeamGroup_ =
          TeamGroup_.filter (otherId wsAccountName TeamGroup_) ∧
        forall own, own ∈ TeamGroup_ -> wsAccountName ∈ own.accounts ->
          own.accounts = [wsAccountName]) := by
  have hdismiss := dismissTeamOf_eq hT hnodup wsAccountName
  unfold dismissTeamOf at hdismiss
  unfold leaveDungoenTeam
  split
  · rename_i hnone
    have habsent := existMember_eq_none.mp hnone
    refine Or.inl ⟨rfl, ?_⟩
    intro own hown haccount
    exact absurd (mem_accountsOf.mpr ⟨own, hown, haccount⟩) habsent
  · rename_i p self hfound
    rw [hfound] at hdismiss
    rcases existMember_eq_some hfound with ⟨hwhole, hself, haccount⟩
    have hhere : p.here ∈ TeamGroup_ := hwhole ▸ Place.mem_whole
    have hin : wsAccountName ∈ p.here.accounts :=
      haccount ▸ place_mem_accounts hself
    have hlength : p.here.accounts.length = p.here.memberVec.length :=
      List.length_map _
    split
    · rename_i halone
      refine Or.inr ⟨hdismiss, ?_⟩
      intro own hown hmem
      rw [team_unique hnodup hown hhere hmem hin]
      have hone : p.here.accounts.length = 1 :=
        Nat.le_antisymm (hlength ▸ halone) (List.length_pos_of_mem hin)
      rcases List.length_eq_one_iff.mp hone with ⟨wsOnly, honly⟩
      rw [honly] at hin
      rw [honly, List.mem_singleton.mp hin]
    · rename_i hmany
      refine Or.inl ⟨rfl, ?_⟩
      intro own hown hmem hsame
      rw [team_unique hnodup hown hhere hmem hin] at hsame
      rw [← hlength, hsame] at hmany
      exact hmany (Nat.le_refl 1)

theorem HasLeft.mem {wsAccountName : WString} {s after : CBnsTaskTeam}
    (h : HasLeft T wsAccountName s after) {wsMapText : WString}
    {team : TeamMemberGroup} (hteam : team ∈ s.teamsAt .dungoenTeamMap wsMapText)
    (habsent : wsAccountName ∉ team.accounts) :
    team ∈ after.teamsAt .dungoenTeamMap wsMapText := by
  have hmem : team ∈ notAlone wsAccountName
      (s.teamsAt .dungoenTeamMap wsMapText) := by
    refine mem_notAlone.mpr ⟨hteam, ?_⟩
    intro halone
    rw [halone] at habsent
    exact habsent List.mem_cons_self
  rcases List.forall₂_iff_get.mp (h.teams wsMapText) with ⟨hlength, hbecomes⟩
  rcases List.mem_iff_get.mp hmem with ⟨i, hi⟩
  have hbecomes := hbecomes i.val i.isLt (hlength ▸ i.isLt)
  have hsame := hbecomes.right (hi.symm ▸ habsent)
  have hget : team = (after.teamsAt .dungoenTeamMap wsMapText).get
      ⟨i.val, hlength ▸ i.isLt⟩ := by
    rw [hsame]
    exact hi.symm
  rw [hget]
  exact List.get_mem _ _

theorem Reachable.teamsAt_deleteDungoenTeamMember {s : CBnsTaskTeam}
    (h : Reachable T s) (hT : T.ErasesAll) (wsAccountName wsMapText : WString) :
    ((deleteDungoenTeamMember T wsAccountName s).teamsAt .dungoenTeamMap
          wsMapText = s.teamsAt .dungoenTeamMap wsMapText ∧
        forall own, own ∈ s.teamsAt .dungoenTeamMap wsMapText ->
          wsAccountName ∈ own.accounts -> own.accounts ≠ [wsAccountName]) ∨
      ((deleteDungoenTeamMember T wsAccountName s).teamsAt .dungoenTeamMap
          wsMapText = (s.teamsAt .dungoenTeamMap wsMapText).filter
            (otherId wsAccountName (s.teamsAt .dungoenTeamMap wsMapText)) ∧
        forall own, own ∈ s.teamsAt .dungoenTeamMap wsMapText ->
          wsAccountName ∈ own.accounts -> own.accounts = [wsAccountName]) := by
  rw [CBnsTaskTeam.teamsAt_deleteDungoenTeamMember, if_pos rfl]
  exact leaveDungoenTeam_cases hT (h.tablesOk .dungoenTeamMap wsMapText).accounts _

theorem notAlone_eq {wsAccountName : WString} {TeamGroup_ : TeamGroup}
    (halone : forall own, own ∈ TeamGroup_ -> wsAccountName ∈ own.accounts ->
      own.accounts = [wsAccountName]) :
    notAlone wsAccountName TeamGroup_ = withoutAccount wsAccountName TeamGroup_ := by
  apply List.filter_congr
  intro team hteam
  rw [Bool.eq_iff_iff, decide_eq_true_iff, decide_eq_true_iff]
  constructor
  · intro hne hmem
    exact hne (halone team hteam hmem)
  · intro habsent hsame
    rw [hsame] at habsent
    exact habsent List.mem_cons_self

/--
After a call in any state that is reached, the account has left the dungeon teams
as it should exactly if it was in none of them but alone, with an id of its own.
-/
theorem Reachable.hasLeft_iff {s : CBnsTaskTeam} (h : Reachable T s)
    (hT : T.ErasesAll) (wsAccountName : WString) :
    HasLeft T wsAccountName s (deleteDungoenTeamMember T wsAccountName s) ↔
      forall wsMapText,
        OnlyAlone wsAccountName (s.teamsAt .dungoenTeamMap wsMapText) := by
  constructor
  · intro hleft wsMapText
    rcases h.teamsAt_deleteDungoenTeamMember hT wsAccountName wsMapText with
      ⟨hsame, _⟩ | ⟨hfilter, halone⟩
    · have hgone : forall own, own ∈ s.teamsAt .dungoenTeamMap wsMapText ->
          wsAccountName ∉ own.accounts := by
        intro own hown
        exact hleft.gone wsMapText own (hsame.symm ▸ hown)
      constructor
      · intro own hown haccount
        exact absurd haccount (hgone own hown)
      · intro own hown haccount
        exact absurd haccount (hgone own hown)
    · refine ⟨?_, halone⟩
      intro own hown haccount team hteam hid
      by_contra habsent
      have hmem := hleft.mem hteam habsent
      rw [hfilter] at hmem
      exact otherId_iff.mp (List.mem_filter.mp hmem).right own hown haccount hid
  · intro honly
    have hafter : forall wsMapText,
        (deleteDungoenTeamMember T wsAccountName s).teamsAt .dungoenTeamMap
            wsMapText =
          withoutAccount wsAccountName (s.teamsAt .dungoenTeamMap wsMapText) := by
      intro wsMapText
      rcases h.teamsAt_deleteDungoenTeamMember hT wsAccountName wsMapText with
        ⟨hsame, hmany⟩ | ⟨hfilter, _⟩
      · rw [hsame, withoutAccount]
        symm
        apply List.filter_eq_self.mpr
        intro team hteam
        apply decide_eq_true
        intro hmem
        exact hmany team hteam hmem ((honly wsMapText).right team hteam hmem)
      · rw [hfilter, filter_otherId_eq_iff]
        exact (honly wsMapText).left
    constructor
    · intro wsMapText team hteam
      rw [hafter] at hteam
      exact (mem_withoutAccount.mp hteam).right
    · intro wsMapText
      rw [hafter, notAlone_eq (honly wsMapText).right]
      apply List.forall₂_same.mpr
      intro team hteam
      have habsent := (mem_withoutAccount.mp hteam).right
      exact ⟨fun hmem => absurd hmem habsent, fun _ => rfl⟩

theorem forall_teamsAt {s : CBnsTaskTeam} {w : TeamMap} {P : TeamMemberGroup -> Prop}
    (h : forall itr, itr ∈ (s.map w).toList -> forall team, team ∈ itr.2 -> P team)
    {wsMapText : WString} {team : TeamMemberGroup}
    (hteam : team ∈ s.teamsAt w wsMapText) : P team := by
  rcases entry_of_mem_teamsAt hteam with ⟨TeamGroup_, hentry, hmem⟩
  exact h _ hentry team hmem

/-- Boris is alone in his dungeon team. -/
theorem pairState_hasLeft :
    HasLeft MyTools.standard (L "boris") pairState
      (deleteDungoenTeamMember MyTools.standard (L "boris") pairState) := by
  refine (Reachable.hasLeft_iff pairState_reachable MyTools.standard_erasesAll
    (L "boris")).mpr ?_
  intro wsMapText
  have hids := (pairState_reachable.idsIssued (by decide)).toIdsApart
  refine ⟨hids.noTwin (L "boris") .dungoenTeamMap wsMapText, ?_⟩
  have halone : forall itr, itr ∈ (pairState.map .dungoenTeamMap).toList ->
      forall team, team ∈ itr.2 -> L "boris" ∈ team.accounts ->
        team.accounts = [L "boris"] := by
    decide
  intro own hown
  exact forall_teamsAt halone hown

def dungoenCalls : List Call :=
  [Call.joinDungoenTeam (pairPlayer (L "boris") (L "Boris") 7 []),
    Call.joinDungoenTeam (pairPlayer (L "anna") (L "Anna") 8 [])]

def dungoenState : CBnsTaskTeam :=
  (machine MyTools.standard).play dungoenCalls {}

theorem dungoenState_reachable : Reachable MyTools.standard dungoenState :=
  Machine.Admits.reaches ⟨trivial, trivial, trivial⟩

/-- And stays in it. -/
theorem dungoenState_not_hasLeft :
    Reachable MyTools.standard dungoenState ∧
      ¬ HasLeft MyTools.standard (L "anna") dungoenState
        (deleteDungoenTeamMember MyTools.standard (L "anna") dungoenState) := by
  refine ⟨dungoenState_reachable, ?_⟩
  intro h
  have hstays : exists team,
      team ∈ (deleteDungoenTeamMember MyTools.standard (L "anna")
        dungoenState).teamsAt .dungoenTeamMap (L "2,[1F,0],0") ∧
      L "anna" ∈ team.accounts := by
    decide
  rcases hstays with ⟨team, hteam, hin⟩
  exact h.gone (L "2,[1F,0],0") team hteam hin

end CBnsTaskTeam
end BnsKorea
