import Mathlib.Data.List.Flatten
import BnsKorea.TaskTeam.Joins

/-!
# What holds of the teams in every run

A call changes the teams under at most one key, apart from dismissing teams, and
each kind of change keeps the teams well formed.  The ids are distinct as long
as the 32-bit counter they come from has not gone round.
-/

namespace BnsKorea

open Library

namespace CBnsTaskTeam

variable {T : MyTools}

/-!
## Changes
-/

/-- The changes of a deque, and of the number of teams founded so far. -/
inductive Change (T : MyTools) (wsMapText : WString) (dwTeamIdCount : Nat) :
    TeamGroup -> TeamGroup -> Nat -> Prop where
  | dismissed {before after : TeamGroup} (hleft : after.Sublist before) :
      Change T wsMapText dwTeamIdCount before after dwTeamIdCount
  | rewritten {p : Place TeamMemberGroup} {team : TeamMemberGroup}
      (hshape : SameShape p.here team) :
      Change T wsMapText dwTeamIdCount p.whole (p.put team) dwTeamIdCount
  | seated {p : Place TeamMemberGroup} {CtiMember : ClientTeamInfo}
      {wsGroupTitle : WString}
      (habsent : CtiMember.selfCti.wsAccountName ∉ accountsOf p.whole)
      (hroom : p.here.memberVec.length < p.here.uMaxMemberCount.toNat) :
      Change T wsMapText dwTeamIdCount p.whole
        (p.put (seatMember CtiMember wsGroupTitle p.here)) dwTeamIdCount
  | founded {before : TeamGroup} {CtiMember : ClientTeamInfo}
      (hkey : createMapText T CtiMember = wsMapText)
      (habsent : CtiMember.selfCti.wsAccountName ∉ accountsOf before) :
      Change T wsMapText dwTeamIdCount before
        (before ++
          [newTeamMemberGroup CtiMember (UInt32.ofNat (dwTeamIdCount + 1))])
        (dwTeamIdCount + 1)

/-- A call changes the teams under one key; elsewhere it only dismisses. -/
structure Changes (T : MyTools) (w : TeamMap) (wsMapText : WString)
    (s after : CBnsTaskTeam) : Prop where
  own : Change T wsMapText s.dwTeamIdCount (s.teamsAt w wsMapText)
    (after.teamsAt w wsMapText) after.dwTeamIdCount
  others : forall w' wsMapText', ¬ (w = w' ∧ wsMapText = wsMapText') ->
    (after.teamsAt w' wsMapText').Sublist (s.teamsAt w' wsMapText')

theorem Changes.of_sublists {s after : CBnsTaskTeam}
    (hleft : forall w wsMapText,
      (after.teamsAt w wsMapText).Sublist (s.teamsAt w wsMapText))
    (hcount : after.dwTeamIdCount = s.dwTeamIdCount) (w : TeamMap)
    (wsMapText : WString) : Changes T w wsMapText s after where
  own := by
    rw [hcount]
    exact Change.dismissed (hleft w wsMapText)
  others w' wsMapText' _ := hleft w' wsMapText'

theorem Outcome.change {CtiMember : ClientTeamInfo} {n n' : Nat}
    {before after : TeamGroup} {team : TeamMemberGroup}
    (h : Outcome T CtiMember n before team after n') :
    Change T (createMapText T CtiMember) n before after n' := by
  cases h with
  | found hwhole hself _ =>
      rw [← hwhole]
      exact Change.rewritten (rejoined_shape hself)
  | seated habsent hseat =>
      rcases findSeat_eq_some hseat with ⟨hwhole, hroom, _⟩
      rw [← hwhole] at habsent ⊢
      exact Change.seated habsent hroom
  | founded habsent _ => exact Change.founded rfl habsent

theorem JoinsAs.changes {CtiMember : ClientTeamInfo} {w : TeamMap}
    {s : CBnsTaskTeam} {team : TeamMemberGroup}
    {after : CBnsTaskTeam × BnsTeamResult}
    (h : JoinsAs T CtiMember w s team after) :
    Changes T w (createMapText T CtiMember) s after.1 where
  own := h.outcome.change
  others w' wsMapText hne := by
    rw [h.others w' wsMapText hne]

theorem join_changes {s : CBnsTaskTeam} (hs : TablesOk T s) (w : TeamMap)
    (CtiMember : ClientTeamInfo) :
    Changes T w (createMapText T CtiMember) s (join T w CtiMember {} s).2.1 := by
  unfold join
  split
  · exact Changes.of_sublists (fun _ _ => List.Sublist.refl _) rfl w _
  · rcases joinTeam_outcome hs CtiMember w with ⟨team, hjoin⟩
    exact hjoin.changes

theorem deleteTaskMember_sublist (wsAccountName : WString) (s : CBnsTaskTeam)
    (w : TeamMap) (wsMapText : WString) :
    ((deleteTaskMember T wsAccountName s).teamsAt w wsMapText).Sublist
      (s.teamsAt w wsMapText) := by
  rw [deleteTaskMember, teamsAt_deleteTeamMember]
  split
  · exact dismissTeamOf_sublist wsAccountName _
  · exact List.Sublist.refl _

theorem deleteDungoenTeamMember_sublist (wsPlayerName : WString)
    (s : CBnsTaskTeam) (w : TeamMap) (wsMapText : WString) :
    ((deleteDungoenTeamMember T wsPlayerName s).teamsAt w wsMapText).Sublist
      (s.teamsAt w wsMapText) := by
  rw [teamsAt_deleteDungoenTeamMember]
  split
  · exact leaveDungoenTeam_sublist wsPlayerName _
  · exact List.Sublist.refl _

theorem updateDungoenSchedule_shape (TeamScheduleMsg_ : TeamScheduleMsg)
    (team : TeamMemberGroup) :
    SameShape team
      (actionInTeamGroupMemberByAccountName T TeamScheduleMsg_.wsAccountName
        (fun itm =>
          { itm with
            dungoen := {
              wsDungoenSchedule := TeamScheduleMsg_.wsScheduleName
              uGatherIndex := TeamScheduleMsg_.uScheduleIndex } }) team) := by
  apply actionInTeamGroupMember_shape
  intro itm
  rfl

theorem setReadOnlyTeam_shape (team : TeamMemberGroup) :
    SameShape team { team with isReadOnly := true } :=
  ⟨rfl, rfl, rfl, rfl, rfl, rfl, rfl⟩

theorem updateTeam_changes (dwTeamId : DWORD)
    (Worker : TeamMemberGroup -> TeamMemberGroup)
    (hworker : forall team, SameShape team (Worker team)) (s : CBnsTaskTeam) :
    exists w wsMapText,
      Changes T w wsMapText s (updateTeam_By_TeamId T dwTeamId Worker s) := by
  rcases updateTeam_cases (T := T) dwTeamId Worker s with
    hsame | ⟨wsMapText, p, hwhole, hupdated⟩
  · rw [hsame]
    exact ⟨.dungoenTeamMap, [],
      Changes.of_sublists (fun _ _ => List.Sublist.refl _) rfl _ _⟩
  · rw [hupdated]
    refine ⟨.dungoenTeamMap, wsMapText, ?_, ?_⟩
    · rw [teamsAt_setGroup_self, setGroup_count, ← hwhole]
      exact Change.rewritten (hworker p.here)
    · intro w' wsMapText' hne
      rw [teamsAt_setGroup_of_ne s _ hne]

theorem apply_changes {s : CBnsTaskTeam} (hs : TablesOk T s) (call : Call) :
    exists w wsMapText, Changes T w wsMapText s (apply T call s) := by
  cases call with
  | joinTaskTeam CtiMember => exact ⟨_, _, join_changes hs .taskTeamMap CtiMember⟩
  | joinDungoenTeam CtiMember =>
      exact ⟨_, _, join_changes hs .dungoenTeamMap CtiMember⟩
  | deleteTaskMember wsAccountName =>
      exact ⟨.taskTeamMap, [],
        Changes.of_sublists (deleteTaskMember_sublist wsAccountName s)
          (setMap_count s _ _) _ _⟩
  | deleteDungoenTeamMember wsPlayerName =>
      exact ⟨.dungoenTeamMap, [],
        Changes.of_sublists (deleteDungoenTeamMember_sublist wsPlayerName s)
          (setMap_count s _ _) _ _⟩
  | updateDungoenSchedule TeamScheduleMsg_ =>
      exact updateTeam_changes _ _ (updateDungoenSchedule_shape _) s
  | setReadOnlyTeam dwTeamId =>
      exact updateTeam_changes dwTeamId _ setReadOnlyTeam_shape s

/-!
## Well-formed teams in every run
-/

theorem GroupOk.sublist {wsMapText : WString} {before after : TeamGroup}
    (h : GroupOk T wsMapText before) (hleft : after.Sublist before) :
    GroupOk T wsMapText after where
  teams team hteam := h.teams team (hleft.subset hteam)
  accounts := by
    exact h.accounts.sublist (hleft.flatMap TeamMemberGroup.accounts)

/-- A team is replaced by a well-formed one with the accounts of `new` more. -/
theorem GroupOk.put {wsMapText : WString} {p : Place TeamMemberGroup}
    {team : TeamMemberGroup} {new : List WString}
    (h : GroupOk T wsMapText p.whole) (hteam : TeamOk T wsMapText team)
    (haccounts : team.accounts = p.here.accounts ++ new) (hnew : new.Nodup)
    (habsent : forall wsAccountName, wsAccountName ∈ new ->
      wsAccountName ∉ accountsOf p.whole) :
    GroupOk T wsMapText (p.put team) where
  teams other hother := by
    rcases Place.mem_whole_of_mem_put hother with heq | hmem
    · rw [heq]
      exact hteam
    · exact h.teams other hmem
  accounts := by
    have hperm : (accountsOf (p.put team)).Perm (accountsOf p.whole ++ new) := by
      rw [accountsOf_put, accountsOf_whole, haccounts, List.append_assoc,
        List.append_assoc, List.append_assoc]
      exact (List.perm_append_comm.append_left _).append_left _
    rw [hperm.nodup_iff, List.nodup_append]
    refine ⟨h.accounts, hnew, ?_⟩
    intro a ha b hb hab
    exact habsent b hb (hab ▸ ha)

theorem Change.groupOk {wsMapText : WString} {before after : TeamGroup}
    {n n' : Nat} (hchange : Change T wsMapText n before after n')
    (h : GroupOk T wsMapText before) : GroupOk T wsMapText after := by
  cases hchange with
  | dismissed hleft => exact h.sublist hleft
  | rewritten hshape =>
      apply h.put (hshape.teamOk h.here) _ List.nodup_nil
      · intro wsAccountName hmem
        cases hmem
      · rw [hshape.accounts, List.append_nil]
  | seated habsent hroom =>
      refine h.put (seatMember_teamOk h.here hroom _ _) (seatMember_accounts _ _ _)
        (List.nodup_singleton _) ?_
      intro wsAccountName hmem
      rw [List.mem_singleton.mp hmem]
      exact habsent
  | founded hkey habsent =>
      rename_i CtiMember
      constructor
      · intro team hteam
        rcases List.mem_append.mp hteam with hteam | hteam
        · exact h.teams team hteam
        · rw [List.mem_singleton.mp hteam, ← hkey]
          exact newTeam_teamOk CtiMember _
      · have hflat : accountsOf (before ++
            [newTeamMemberGroup CtiMember (UInt32.ofNat (n + 1))]) =
            accountsOf before ++ [CtiMember.selfCti.wsAccountName] := by
          simp [accountsOf]
        rw [hflat, List.nodup_append]
        refine ⟨h.accounts, List.nodup_singleton _, ?_⟩
        intro a ha b hb hab
        rw [hab, List.mem_singleton.mp hb] at ha
        exact habsent ha

theorem Changes.tablesOk {w : TeamMap} {wsMapText : WString}
    {s after : CBnsTaskTeam} (hchanges : Changes T w wsMapText s after)
    (hs : TablesOk T s) : TablesOk T after := by
  intro w' wsMapText'
  by_cases hsame : w = w' ∧ wsMapText = wsMapText'
  · rw [← hsame.left, ← hsame.right]
    exact hchanges.own.groupOk (hs w wsMapText)
  · exact (hs w' wsMapText').sublist (hchanges.others w' wsMapText' hsame)

theorem apply_tablesOk {s : CBnsTaskTeam} (hs : TablesOk T s) (call : Call) :
    TablesOk T (apply T call s) := by
  rcases apply_changes hs call with ⟨w, wsMapText, hchanges⟩
  exact hchanges.tablesOk hs

theorem teamsAt_initial (w : TeamMap) (wsMapText : WString) :
    teamsAt {} w wsMapText = [] := by
  cases w with
  | taskTeamMap => rfl
  | dungoenTeamMap => rfl

theorem tablesOk_initial : TablesOk T {} := by
  intro w wsMapText
  rw [teamsAt_initial]
  refine ⟨?_, List.nodup_nil⟩
  intro team hteam
  cases hteam

theorem Reachable.tablesOk {s : CBnsTaskTeam} (h : Reachable T s) :
    TablesOk T s :=
  Machine.Run.invariant (TablesOk T)
    (fun call _ _ _ hs => apply_tablesOk hs call) h tablesOk_initial

/-!
## A map nobody joins
-/

def Call.joinsDungoen : Call -> Bool
  | .joinDungoenTeam _ => true
  | _ => false

def NoDungoenTeams (s : CBnsTaskTeam) : Prop :=
  forall wsMapText, s.teamsAt .dungoenTeamMap wsMapText = []

theorem NoDungoenTeams.of_sublists {s after : CBnsTaskTeam}
    (h : NoDungoenTeams s)
    (hleft : forall wsMapText, (after.teamsAt .dungoenTeamMap wsMapText).Sublist
      (s.teamsAt .dungoenTeamMap wsMapText)) : NoDungoenTeams after := by
  intro wsMapText
  have hnone := hleft wsMapText
  rwa [h wsMapText, List.sublist_nil] at hnone

theorem NoDungoenTeams.updateTeam {s : CBnsTaskTeam} (h : NoDungoenTeams s)
    (dwTeamId : DWORD) (Worker : TeamMemberGroup -> TeamMemberGroup) :
    NoDungoenTeams (updateTeam_By_TeamId T dwTeamId Worker s) := by
  rcases updateTeam_cases (T := T) dwTeamId Worker s with
    hsame | ⟨wsMapText, p, hwhole, _⟩
  · rwa [hsame]
  · have hhere := Place.mem_whole (p := p)
    rw [hwhole, h wsMapText] at hhere
    cases hhere

theorem apply_noDungoenTeams {s : CBnsTaskTeam} (hs : TablesOk T s)
    (h : NoDungoenTeams s) {call : Call} (hcall : call.joinsDungoen = false) :
    NoDungoenTeams (apply T call s) := by
  cases call with
  | joinTaskTeam CtiMember =>
      apply h.of_sublists
      intro wsMapText
      exact (join_changes hs .taskTeamMap CtiMember).others _ _
        fun hsame => nomatch hsame.left
  | joinDungoenTeam => cases hcall
  | deleteTaskMember wsAccountName =>
      exact h.of_sublists (deleteTaskMember_sublist wsAccountName s _)
  | deleteDungoenTeamMember wsPlayerName =>
      exact h.of_sublists (deleteDungoenTeamMember_sublist wsPlayerName s _)
  | updateDungoenSchedule => exact h.updateTeam _ _
  | setReadOnlyTeam => exact h.updateTeam _ _

theorem noDungoenTeams_initial : NoDungoenTeams {} :=
  teamsAt_initial .dungoenTeamMap

/-!
## Team ids
-/

structure IdsApart (s : CBnsTaskTeam) : Prop where
  own : forall w wsMapText, (idsOf (s.teamsAt w wsMapText)).Nodup
  apart : forall w wsMapText w' wsMapText',
    ¬ (w = w' ∧ wsMapText = wsMapText') ->
    forall dwTeamId, dwTeamId ∈ idsOf (s.teamsAt w wsMapText) ->
      dwTeamId ∉ idsOf (s.teamsAt w' wsMapText')

structure IdsIssued (s : CBnsTaskTeam) : Prop extends IdsApart s where
  issued : forall w wsMapText dwTeamId,
    dwTeamId ∈ idsOf (s.teamsAt w wsMapText) ->
    dwTeamId.toNat ≤ s.dwTeamIdCount

theorem Change.ids {wsMapText : WString} {before after : TeamGroup} {n n' : Nat}
    (hchange : Change T wsMapText n before after n') :
    (n' = n ∧ (idsOf after).Sublist (idsOf before)) ∨
      (n' = n + 1 ∧ idsOf after = idsOf before ++ [UInt32.ofNat (n + 1)]) := by
  cases hchange with
  | dismissed hleft => exact Or.inl ⟨rfl, hleft.map TeamMemberGroup.dwTeamId⟩
  | rewritten hshape =>
      have hsame := Place.map_put_of_eq hshape.teamId
      refine Or.inl ⟨rfl, ?_⟩
      rw [idsOf, idsOf, hsame]
  | seated habsent hroom =>
      rename_i p CtiMember wsGroupTitle
      have hsame : (p.put (seatMember CtiMember wsGroupTitle p.here)).map
          TeamMemberGroup.dwTeamId = p.whole.map TeamMemberGroup.dwTeamId :=
        Place.map_put_of_eq rfl
      refine Or.inl ⟨rfl, ?_⟩
      rw [idsOf, idsOf, hsame]
  | founded hkey habsent =>
      refine Or.inr ⟨rfl, ?_⟩
      rw [idsOf, idsOf, List.map_append]
      rfl

theorem IdsIssued.of_sublists {s after : CBnsTaskTeam} (h : IdsIssued s)
    (hcount : after.dwTeamIdCount = s.dwTeamIdCount)
    (hleft : forall w wsMapText, (idsOf (after.teamsAt w wsMapText)).Sublist
      (idsOf (s.teamsAt w wsMapText))) : IdsIssued after where
  own w wsMapText := (h.own w wsMapText).sublist (hleft w wsMapText)
  apart w wsMapText w' wsMapText' hne dwTeamId hid hid' :=
    h.apart w wsMapText w' wsMapText' hne dwTeamId
      ((hleft w wsMapText).subset hid) ((hleft w' wsMapText').subset hid')
  issued w wsMapText dwTeamId hid := by
    rw [hcount]
    exact h.issued w wsMapText dwTeamId ((hleft w wsMapText).subset hid)

theorem IdsIssued.fresh {s : CBnsTaskTeam} (h : IdsIssued s)
    (hbelow : s.dwTeamIdCount + 1 < 2 ^ 32) (w : TeamMap)
    (wsMapText : WString) :
    UInt32.ofNat (s.dwTeamIdCount + 1) ∉ idsOf (s.teamsAt w wsMapText) := by
  intro hid
  have hle := h.issued w wsMapText _ hid
  rw [UInt32.toNat_ofNat_of_lt' hbelow] at hle
  omega

section

variable {s after : CBnsTaskTeam} {w : TeamMap} {wsMapText : WString}
  (hids : idsOf (after.teamsAt w wsMapText) =
    idsOf (s.teamsAt w wsMapText) ++ [UInt32.ofNat (s.dwTeamIdCount + 1)])
  (hothers : forall w' wsMapText', ¬ (w = w' ∧ wsMapText = wsMapText') ->
    (idsOf (after.teamsAt w' wsMapText')).Sublist
      (idsOf (s.teamsAt w' wsMapText')))

include hids hothers

theorem ids_of_new {w' : TeamMap} {wsMapText' : WString} {dwTeamId : DWORD}
    (hid : dwTeamId ∈ idsOf (after.teamsAt w' wsMapText')) :
    dwTeamId ∈ idsOf (s.teamsAt w' wsMapText') ∨
      (w = w' ∧ wsMapText = wsMapText') ∧
        dwTeamId = UInt32.ofNat (s.dwTeamIdCount + 1) := by
  by_cases hsame : w = w' ∧ wsMapText = wsMapText'
  · rw [← hsame.left, ← hsame.right] at hid ⊢
    rw [hids] at hid
    rcases List.mem_append.mp hid with hid | hid
    · exact Or.inl hid
    · exact Or.inr ⟨⟨rfl, rfl⟩, List.mem_singleton.mp hid⟩
  · exact Or.inl ((hothers w' wsMapText' hsame).subset hid)

theorem IdsIssued.of_new (h : IdsIssued s)
    (hcount : after.dwTeamIdCount = s.dwTeamIdCount + 1)
    (hbelow : s.dwTeamIdCount + 1 < 2 ^ 32) : IdsIssued after := by
  have hfresh := h.fresh hbelow
  constructor
  · constructor
    · intro w' wsMapText'
      by_cases hsame : w = w' ∧ wsMapText = wsMapText'
      · rw [← hsame.left, ← hsame.right, hids, List.nodup_append]
        refine ⟨h.own w wsMapText, List.nodup_singleton _, ?_⟩
        intro a ha b hb hab
        rw [hab, List.mem_singleton.mp hb] at ha
        exact hfresh w wsMapText ha
      · exact (h.own w' wsMapText').sublist (hothers w' wsMapText' hsame)
    · intro v key v' key' hne dwTeamId hid hid'
      rcases ids_of_new hids hothers hid with hid | ⟨hhere, hnew⟩
      · rcases ids_of_new hids hothers hid' with hid' | ⟨_, hnew⟩
        · exact h.apart v key v' key' hne dwTeamId hid hid'
        · rw [hnew] at hid
          exact hfresh v key hid
      · rcases ids_of_new hids hothers hid' with hid' | ⟨hhere', _⟩
        · rw [hnew] at hid'
          exact hfresh v' key' hid'
        · exact hne ⟨hhere.left.symm.trans hhere'.left,
            hhere.right.symm.trans hhere'.right⟩
  · intro w' wsMapText' dwTeamId hid
    rcases ids_of_new hids hothers hid with hid | ⟨_, hnew⟩
    · have hle := h.issued w' wsMapText' dwTeamId hid
      omega
    · rw [hnew, UInt32.toNat_ofNat_of_lt' hbelow, hcount]

end

theorem Changes.idsIssued {w : TeamMap} {wsMapText : WString}
    {s after : CBnsTaskTeam} (hchanges : Changes T w wsMapText s after)
    (hbelow : after.dwTeamIdCount < 2 ^ 32) (h : IdsIssued s) :
    IdsIssued after := by
  have hothers : forall w' wsMapText',
      ¬ (w = w' ∧ wsMapText = wsMapText') ->
      (idsOf (after.teamsAt w' wsMapText')).Sublist
        (idsOf (s.teamsAt w' wsMapText')) := by
    intro w' wsMapText' hne
    exact (hchanges.others w' wsMapText' hne).map TeamMemberGroup.dwTeamId
  rcases hchanges.own.ids with ⟨hcount, hleft⟩ | ⟨hcount, hids⟩
  · apply h.of_sublists hcount
    intro w' wsMapText'
    by_cases hsame : w = w' ∧ wsMapText = wsMapText'
    · rw [← hsame.left, ← hsame.right]
      exact hleft
    · exact hothers w' wsMapText' hsame
  · exact IdsIssued.of_new hids hothers h hcount (hcount ▸ hbelow)

theorem Changes.count_le {w : TeamMap} {wsMapText : WString}
    {s after : CBnsTaskTeam} (hchanges : Changes T w wsMapText s after) :
    s.dwTeamIdCount ≤ after.dwTeamIdCount := by
  rcases hchanges.own.ids with ⟨hcount, _⟩ | ⟨hcount, _⟩
  · exact Nat.le_of_eq hcount.symm
  · omega

theorem idsIssued_initial : IdsIssued {} := by
  have hnone : forall w wsMapText, idsOf (teamsAt {} w wsMapText) = [] := by
    intro w wsMapText
    rw [teamsAt_initial]
    rfl
  constructor
  · constructor
    · intro w wsMapText
      rw [hnone]
      exact List.nodup_nil
    · intro w wsMapText w' wsMapText' _ dwTeamId hid
      rw [hnone] at hid
      cases hid
  · intro w wsMapText dwTeamId hid
    rw [hnone] at hid
    cases hid

theorem Reachable.idsIssued {s : CBnsTaskTeam} (h : Reachable T s)
    (hbelow : s.dwTeamIdCount < 2 ^ 32) : IdsIssued s := by
  have hboth : TablesOk T s ∧ (s.dwTeamIdCount < 2 ^ 32 -> IdsIssued s) := by
    refine Machine.Run.invariant
      (fun s => TablesOk T s ∧ (s.dwTeamIdCount < 2 ^ 32 -> IdsIssued s)) ?_ h
      ⟨tablesOk_initial, fun _ => idsIssued_initial⟩
    intro call s _ _ hs
    rcases apply_changes hs.left call with ⟨w, wsMapText, hchanges⟩
    refine ⟨hchanges.tablesOk hs.left, ?_⟩
    intro hbelow
    have hbefore := Nat.lt_of_le_of_lt hchanges.count_le hbelow
    exact hchanges.idsIssued hbelow (hs.right hbefore)
  exact hboth.right hbelow

/-!
## Keys
-/

theorem mapText_eq (dwServerId dwTaskId dwScheduleId dwChannelId : DWORD) :
    mapText T dwServerId dwTaskId dwScheduleId dwChannelId =
      Printf.hex dwServerId ++ 44 :: 91 ::
        (Printf.hex dwTaskId ++ 44 ::
          (Printf.hex dwScheduleId ++ 93 :: 44 :: Printf.dec dwChannelId)) := by
  have hformat : L "%X,[%X,%X],%d" =
      [37, 88, 44, 91, 37, 88, 44, 37, 88, 93, 44, 37, 100] := by
    decide
  rw [mapText, T.makeFormatText_eq, hformat]
  simp [Printf.swprintf]

theorem mapText_injective {dwServerId dwTaskId dwScheduleId dwChannelId
    dwServerId' dwTaskId' dwScheduleId' dwChannelId' : DWORD}
    (h : mapText T dwServerId dwTaskId dwScheduleId dwChannelId =
      mapText T dwServerId' dwTaskId' dwScheduleId' dwChannelId') :
    dwServerId = dwServerId' ∧ dwTaskId = dwTaskId' ∧
      dwScheduleId = dwScheduleId' ∧ dwChannelId = dwChannelId' := by
  have hcomma : forall v : DWORD, (44 : UInt16) ∉ Printf.hex v :=
    fun v => Printf.not_mem_hex v (by decide)
  have hbracket : forall v : DWORD, (93 : UInt16) ∉ Printf.hex v :=
    fun v => Printf.not_mem_hex v (by decide)
  rw [mapText_eq, mapText_eq] at h
  rcases Printf.cut_at_separator (hcomma _) (hcomma _) h with ⟨hserver, h⟩
  rcases Printf.cut_at_separator (hcomma _) (hcomma _)
    (List.cons.inj h).right with ⟨htask, h⟩
  rcases Printf.cut_at_separator (hbracket _) (hbracket _) h with
    ⟨hschedule, h⟩
  exact ⟨Printf.hex_injective hserver, Printf.hex_injective htask,
    Printf.hex_injective hschedule,
    Printf.dec_injective (List.cons.inj h).right⟩

/--
The teams of both maps in every run: captains, sizes, keys, accounts and ids.
-/
theorem Reachable.tables_represent {s : CBnsTaskTeam} (h : Reachable T s)
    (hbelow : s.dwTeamIdCount < 2 ^ 32) :
    TablesOk T s ∧ IdsApart s ∧
      forall {dwServerId dwTaskId dwScheduleId dwChannelId dwServerId' dwTaskId'
        dwScheduleId' dwChannelId' : DWORD},
        mapText T dwServerId dwTaskId dwScheduleId dwChannelId =
          mapText T dwServerId' dwTaskId' dwScheduleId' dwChannelId' ->
        dwServerId = dwServerId' ∧ dwTaskId = dwTaskId' ∧
          dwScheduleId = dwScheduleId' ∧ dwChannelId = dwChannelId' :=
  ⟨h.tablesOk, (h.idsIssued hbelow).toIdsApart, mapText_injective⟩

def pairPlayer (wsAccountName wsPlayerName : WString) (dwPlayerId : DWORD)
    (wsGroupTitle : WString) : ClientTeamInfo where
  selfCti :=
    { wsAccountName := wsAccountName
      wsPlayerName := wsPlayerName
      dwPlayerId := dwPlayerId }
  dwTaskId := 0x1F
  dwServerId := 2
  dwMaxMember := 2
  wsGroupTitle := wsGroupTitle

def pairCalls : List Call :=
  [Call.joinTaskTeam (pairPlayer (L "boris") (L "Boris") 7 []),
    Call.joinDungoenTeam (pairPlayer (L "boris") (L "Boris") 7 []),
    Call.joinTaskTeam (pairPlayer (L "anna") (L "Anna") 8 [])]

def pairState : CBnsTaskTeam :=
  (machine MyTools.standard).play pairCalls {}

theorem pairState_reachable : Reachable MyTools.standard pairState :=
  Machine.Admits.reaches ⟨trivial, trivial, trivial, trivial⟩

theorem pairState_tables_represent :
    accountsOf (pairState.teamsAt .taskTeamMap (L "2,[1F,0],0")) =
        [L "boris", L "anna"] ∧
      TablesOk MyTools.standard pairState ∧ IdsApart pairState := by
  rcases Reachable.tables_represent pairState_reachable (by decide) with
    ⟨htables, hids, _⟩
  exact ⟨by decide, htables, hids⟩

end CBnsTaskTeam
end BnsKorea
