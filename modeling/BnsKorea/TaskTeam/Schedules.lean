import BnsKorea.TaskTeam.Invariant
import BnsKorea.TaskTeam.Queries

/-!
# The schedules of a dungeon team

Beside the tables it is noted which schedule was last written for an account in
a team: nothing when the account is placed there, and from then on what the
updates for the team and the account bring.  What is read back is what was
noted, with the one exception of the account name.
-/

namespace BnsKorea

open Library

namespace CBnsTaskTeam

variable {T : MyTools}

/-!
## Notes
-/

/-- The tables, and by key and account the schedule written last. -/
structure Noted where
  team : CBnsTaskTeam := {}
  last : WString -> WString -> DungoenTeamMember := fun _ _ => {}

def scheduleOf (TeamScheduleMsg_ : TeamScheduleMsg) : DungoenTeamMember where
  wsDungoenSchedule := TeamScheduleMsg_.wsScheduleName
  uGatherIndex := TeamScheduleMsg_.uScheduleIndex

def note (T : MyTools) (call : Call) (h : Noted)
    (wsMapText wsAccountName : WString) : DungoenTeamMember :=
  match call with
  | .joinDungoenTeam CtiMember =>
      if createMapText T CtiMember = wsMapText ∧
          CtiMember.selfCti.wsAccountName = wsAccountName ∧
          isWork CtiMember = true ∧
          wsAccountName ∉
            accountsOf (h.team.teamsAt .dungoenTeamMap wsMapText) then
        {}
      else h.last wsMapText wsAccountName
  | .updateDungoenSchedule TeamScheduleMsg_ =>
      match existTeamMember_By_TeamId T TeamScheduleMsg_.dwTeamId
          h.team.dungoenTeamMap with
      | none => h.last wsMapText wsAccountName
      | some (key, p) =>
          if key = wsMapText ∧ TeamScheduleMsg_.wsAccountName = wsAccountName ∧
              wsAccountName ∈ p.here.accounts then
            scheduleOf TeamScheduleMsg_
          else h.last wsMapText wsAccountName
  | _ => h.last wsMapText wsAccountName

def noted (T : MyTools) : Machine Noted Call where
  enabled _ _ := True
  step call h := { team := apply T call h.team, last := note T call h }

def entriesOf (TeamGroup_ : TeamGroup) : List TeamMemberInfo :=
  TeamGroup_.flatMap TeamMemberGroup.memberVec

/-- Every entry of the dungeon teams has the schedule that is noted. -/
def AsNoted (h : Noted) : Prop :=
  forall wsMapText itm,
    itm ∈ entriesOf (h.team.teamsAt .dungoenTeamMap wsMapText) ->
      itm.dungoen = h.last wsMapText itm.account

theorem accountsOf_eq (TeamGroup_ : TeamGroup) :
    accountsOf TeamGroup_ = (entriesOf TeamGroup_).map TeamMemberInfo.account :=
  (List.map_flatMap).symm

theorem mem_entriesOf {TeamGroup_ : TeamGroup} {itm : TeamMemberInfo} :
    itm ∈ entriesOf TeamGroup_ ↔
      exists team, team ∈ TeamGroup_ ∧ itm ∈ team.memberVec :=
  List.mem_flatMap

theorem mem_entriesOf_put {p : Place TeamMemberGroup} {team : TeamMemberGroup}
    {itm : TeamMemberInfo} (h : itm ∈ entriesOf (p.put team)) :
    itm ∈ team.memberVec ∨ itm ∈ entriesOf p.whole := by
  rcases mem_entriesOf.mp h with ⟨other, hother, hitm⟩
  rcases Place.mem_whole_of_mem_put hother with heq | hmem
  · exact Or.inl (heq ▸ hitm)
  · exact Or.inr (mem_entriesOf.mpr ⟨other, hmem, hitm⟩)

theorem account_mem {TeamGroup_ : TeamGroup} {itm : TeamMemberInfo}
    (h : itm ∈ entriesOf TeamGroup_) : itm.account ∈ accountsOf TeamGroup_ := by
  rw [accountsOf_eq]
  exact List.mem_map_of_mem h

/-!
## Joins
-/

theorem note_join_of_mem {CtiMember : ClientTeamInfo} {h : Noted}
    {wsMapText wsAccountName : WString}
    (hmem : wsAccountName ∈
      accountsOf (h.team.teamsAt .dungoenTeamMap wsMapText)) :
    note T (.joinDungoenTeam CtiMember) h wsMapText wsAccountName =
      h.last wsMapText wsAccountName :=
  if_neg fun hnew => hnew.right.right.right hmem

theorem note_join_of_placed {CtiMember : ClientTeamInfo} {h : Noted}
    (hwork : isWork CtiMember = true)
    (habsent : CtiMember.selfCti.wsAccountName ∉
      accountsOf (h.team.teamsAt .dungoenTeamMap (createMapText T CtiMember))) :
    note T (.joinDungoenTeam CtiMember) h (createMapText T CtiMember)
      CtiMember.selfCti.wsAccountName = {} :=
  if_pos ⟨rfl, rfl, hwork, habsent⟩

theorem Outcome.entries {CtiMember : ClientTeamInfo} {n n' : Nat}
    {before after : TeamGroup} {team : TeamMemberGroup}
    (h : Outcome T CtiMember n before team after n') {itm : TeamMemberInfo}
    (hitm : itm ∈ entriesOf after) :
    (CtiMember.selfCti.wsAccountName ∉ accountsOf before ∧
        itm.account = CtiMember.selfCti.wsAccountName ∧ itm.dungoen = {}) ∨
      exists old, old ∈ entriesOf before ∧ old.account = itm.account ∧
        old.dungoen = itm.dungoen := by
  cases h with
  | found hwhole hself haccount =>
      rename_i p self
      refine Or.inr ?_
      rw [← hwhole]
      rcases mem_entriesOf_put hitm with hnew | hold
      · rcases Place.mem_whole_of_mem_put hnew with heq | hmem
        · refine ⟨self.here, ?_, ?_, ?_⟩
          · refine mem_entriesOf.mpr ⟨p.here, Place.mem_whole, ?_⟩
            rw [← hself]
            exact Place.mem_whole
          · rw [heq]
            rfl
          · rw [heq]
            rfl
        · rw [hself] at hmem
          exact ⟨itm, mem_entriesOf.mpr ⟨p.here, Place.mem_whole, hmem⟩, rfl, rfl⟩
      · exact ⟨itm, hold, rfl, rfl⟩
  | seated habsent hseat =>
      rename_i p wsGroupTitle
      have hwhole := (findSeat_eq_some hseat).left
      rcases mem_entriesOf_put hitm with hnew | hold
      · rcases List.mem_append.mp hnew with hmem | hself
        · refine Or.inr ⟨itm, ?_, rfl, rfl⟩
          rw [← hwhole]
          exact mem_entriesOf.mpr ⟨p.here, Place.mem_whole, hmem⟩
        · rw [List.mem_singleton.mp hself]
          exact Or.inl ⟨habsent, rfl, rfl⟩
      · exact Or.inr ⟨itm, hwhole ▸ hold, rfl, rfl⟩
  | founded habsent _ =>
      rcases mem_entriesOf.mp hitm with ⟨other, hother, hmem⟩
      rcases List.mem_append.mp hother with hold | hnew
      · exact Or.inr ⟨itm, mem_entriesOf.mpr ⟨other, hold, hmem⟩, rfl, rfl⟩
      · rw [List.mem_singleton.mp hnew] at hmem
        rw [List.mem_singleton.mp hmem]
        exact Or.inl ⟨habsent, rfl, rfl⟩

theorem note_join_of_key {CtiMember : ClientTeamInfo} {h : Noted}
    {wsMapText : WString} (hkey : createMapText T CtiMember ≠ wsMapText)
    (wsAccountName : WString) :
    note T (.joinDungoenTeam CtiMember) h wsMapText wsAccountName =
      h.last wsMapText wsAccountName :=
  if_neg fun hnew => hkey hnew.left

theorem join_asNoted {h : Noted} (hs : TablesOk T h.team) (hnoted : AsNoted h)
    (CtiMember : ClientTeamInfo) :
    AsNoted ((noted T).step (.joinDungoenTeam CtiMember) h) := by
  intro wsMapText itm hitm
  change itm ∈ entriesOf ((join T .dungoenTeamMap CtiMember {} h.team).2.1.teamsAt
    .dungoenTeamMap wsMapText) at hitm
  show itm.dungoen = note T (.joinDungoenTeam CtiMember) h wsMapText itm.account
  cases hwork : isWork CtiMember with
  | false =>
      rw [join, hwork] at hitm
      rw [note_join_of_mem (account_mem hitm)]
      exact hnoted wsMapText itm hitm
  | true =>
      rw [join_of_isWork hwork] at hitm
      rcases joinTeam_outcome hs CtiMember .dungoenTeamMap with ⟨team, hjoin⟩
      cases Decidable.em (createMapText T CtiMember = wsMapText) with
      | inl hkey =>
          rw [← hkey] at hitm ⊢
          rcases hjoin.outcome.entries hitm with
            ⟨habsent, haccount, hnew⟩ | ⟨old, hold, haccount, hsame⟩
          · rw [haccount, note_join_of_placed hwork habsent, hnew]
          · rw [← haccount, note_join_of_mem (account_mem hold), ← hsame]
            exact hnoted _ old hold
      | inr hkey =>
          rw [hjoin.others .dungoenTeamMap wsMapText fun hsame => hkey hsame.right]
            at hitm
          rw [note_join_of_key hkey]
          exact hnoted wsMapText itm hitm

/-!
## Calls that keep the entries
-/

theorem AsNoted.of_subset {h h' : Noted} (hnoted : AsNoted h)
    (hleft : forall wsMapText itm,
      itm ∈ entriesOf (h'.team.teamsAt .dungoenTeamMap wsMapText) ->
      itm ∈ entriesOf (h.team.teamsAt .dungoenTeamMap wsMapText))
    (hlast : h'.last = h.last) : AsNoted h' := by
  intro wsMapText itm hitm
  rw [hlast]
  exact hnoted wsMapText itm (hleft wsMapText itm hitm)

theorem entriesOf_subset {before after : TeamGroup} (hleft : after.Sublist before)
    {itm : TeamMemberInfo} (hitm : itm ∈ entriesOf after) :
    itm ∈ entriesOf before := by
  rcases mem_entriesOf.mp hitm with ⟨team, hteam, hmem⟩
  exact mem_entriesOf.mpr ⟨team, hleft.subset hteam, hmem⟩

theorem setReadOnly_entries (dwTeamId : DWORD) (s : CBnsTaskTeam)
    (wsMapText : WString) :
    entriesOf ((setReadOnlyTeam T dwTeamId s).teamsAt .dungoenTeamMap wsMapText) =
      entriesOf (s.teamsAt .dungoenTeamMap wsMapText) := by
  rcases updateTeam_cases (T := T) dwTeamId
      (fun team => { team with isReadOnly := true }) s with
    hsame | ⟨key, p, hwhole, hupdated⟩
  · exact congrArg (fun t : CBnsTaskTeam =>
      entriesOf (t.teamsAt .dungoenTeamMap wsMapText)) hsame
  · rw [setReadOnlyTeam, hupdated]
    cases Decidable.em (key = wsMapText) with
    | inl hkey =>
        rw [← hkey, teamsAt_setGroup_self, ← hwhole, entriesOf, entriesOf]
        simp [Place.whole, Place.put]
    | inr hkey =>
        rw [teamsAt_setGroup_of_ne s _ fun hsame => hkey hsame.right]

/-!
## Updates
-/

def writeSchedule (T : MyTools) (TeamScheduleMsg_ : TeamScheduleMsg)
    (team : TeamMemberGroup) : TeamMemberGroup :=
  actionInTeamGroupMemberByAccountName T TeamScheduleMsg_.wsAccountName
    (fun itm => { itm with dungoen := scheduleOf TeamScheduleMsg_ }) team

theorem updateDungoenSchedule_of_none {TeamScheduleMsg_ : TeamScheduleMsg}
    {s : CBnsTaskTeam}
    (hfound : existTeamMember_By_TeamId T TeamScheduleMsg_.dwTeamId
      s.dungoenTeamMap = none) :
    updateDungoenSchedule T TeamScheduleMsg_ s = s := by
  rw [updateDungoenSchedule, updateTeam_By_TeamId, hfound]

theorem updateDungoenSchedule_of_some {TeamScheduleMsg_ : TeamScheduleMsg}
    {s : CBnsTaskTeam} {key : WString} {p : Place TeamMemberGroup}
    (hfound : existTeamMember_By_TeamId T TeamScheduleMsg_.dwTeamId
      s.dungoenTeamMap = some (key, p)) :
    updateDungoenSchedule T TeamScheduleMsg_ s =
      s.setGroup .dungoenTeamMap key
        (p.put (writeSchedule T TeamScheduleMsg_ p.here)) := by
  rw [updateDungoenSchedule, updateTeam_By_TeamId, hfound]
  rfl

theorem note_update_of_none {TeamScheduleMsg_ : TeamScheduleMsg} {h : Noted}
    (hfound : existTeamMember_By_TeamId T TeamScheduleMsg_.dwTeamId
      h.team.dungoenTeamMap = none) (wsMapText wsAccountName : WString) :
    note T (.updateDungoenSchedule TeamScheduleMsg_) h wsMapText wsAccountName =
      h.last wsMapText wsAccountName := by
  simp only [note, hfound]

theorem note_update_of_some {TeamScheduleMsg_ : TeamScheduleMsg} {h : Noted}
    {key : WString} {p : Place TeamMemberGroup}
    (hfound : existTeamMember_By_TeamId T TeamScheduleMsg_.dwTeamId
      h.team.dungoenTeamMap = some (key, p)) (wsMapText wsAccountName : WString) :
    note T (.updateDungoenSchedule TeamScheduleMsg_) h wsMapText wsAccountName =
      if key = wsMapText ∧ TeamScheduleMsg_.wsAccountName = wsAccountName ∧
          wsAccountName ∈ p.here.accounts then
        scheduleOf TeamScheduleMsg_
      else h.last wsMapText wsAccountName := by
  simp only [note, hfound]

theorem writeSchedule_cases (TeamScheduleMsg_ : TeamScheduleMsg)
    (team : TeamMemberGroup) :
    (TeamScheduleMsg_.wsAccountName ∉ team.accounts ∧
        writeSchedule T TeamScheduleMsg_ team = team) ∨
      exists self : Place TeamMemberInfo, self.whole = team.memberVec ∧
        self.here.account = TeamScheduleMsg_.wsAccountName ∧
        writeSchedule T TeamScheduleMsg_ team =
          { team with
            memberVec := self.put
              { self.here with dungoen := scheduleOf TeamScheduleMsg_ } } := by
  rw [writeSchedule, actionInTeamGroupMemberByAccountName, MyTools.dequeFindIf_eq]
  split
  · rename_i hnone
    refine Or.inl ⟨?_, rfl⟩
    intro hmem
    rcases List.mem_map.mp hmem with ⟨itm, hitm, haccount⟩
    have htest := firstPlace_eq_none.mp hnone itm hitm
    exact beq_eq_false_iff_ne.mp htest haccount
  · rename_i self hself
    rcases firstPlace_eq_some hself with ⟨hwhole, htest, _⟩
    exact Or.inr ⟨self, hwhole, beq_iff_eq.mp htest, rfl⟩

theorem writeSchedule_shape (TeamScheduleMsg_ : TeamScheduleMsg)
    (team : TeamMemberGroup) :
    SameShape team (writeSchedule T TeamScheduleMsg_ team) :=
  updateDungoenSchedule_shape TeamScheduleMsg_ team

theorem writeSchedule_entries {TeamScheduleMsg_ : TeamScheduleMsg}
    {p : Place TeamMemberGroup} (hnodup : (accountsOf p.whole).Nodup)
    {itm : TeamMemberInfo}
    (hitm : itm ∈ entriesOf (p.put (writeSchedule T TeamScheduleMsg_ p.here))) :
    (TeamScheduleMsg_.wsAccountName ∈ p.here.accounts ∧
        itm.account = TeamScheduleMsg_.wsAccountName ∧
        itm.dungoen = scheduleOf TeamScheduleMsg_) ∨
      (itm ∈ entriesOf p.whole ∧
        (TeamScheduleMsg_.wsAccountName ∈ p.here.accounts ->
          itm.account ≠ TeamScheduleMsg_.wsAccountName)) := by
  rcases writeSchedule_cases (T := T) TeamScheduleMsg_ p.here with
    ⟨habsent, hsame⟩ | ⟨self, hself, haccount, hwritten⟩
  · rw [hsame] at hitm
    exact Or.inr ⟨hitm, fun hmem => absurd hmem habsent⟩
  · have hin : TeamScheduleMsg_.wsAccountName ∈ p.here.accounts :=
      haccount ▸ place_mem_accounts hself
    have hshape := writeSchedule_shape (T := T) TeamScheduleMsg_ p.here
    have haccounts : accountsOf (p.put (writeSchedule T TeamScheduleMsg_ p.here)) =
        accountsOf p.whole := by
      rw [accountsOf_put, hshape.accounts, accountsOf_whole]
    have hnew : { self.here with dungoen := scheduleOf TeamScheduleMsg_ } ∈
        entriesOf (p.put (writeSchedule T TeamScheduleMsg_ p.here)) := by
      refine mem_entriesOf.mpr ⟨writeSchedule T TeamScheduleMsg_ p.here,
        Place.mem_put.mpr (Or.inr (Or.inl rfl)), ?_⟩
      rw [hwritten]
      exact Place.mem_put.mpr (Or.inr (Or.inl rfl))
    cases Decidable.em (itm.account = TeamScheduleMsg_.wsAccountName) with
    | inl hown =>
        -- the accounts of a key tell its entries apart
        rw [← haccounts, accountsOf_eq] at hnodup
        have hitself : itm = { self.here with
            dungoen := scheduleOf TeamScheduleMsg_ } :=
          List.inj_on_of_nodup_map hnodup hitm hnew (hown.trans haccount.symm)
        refine Or.inl ⟨hin, hown, ?_⟩
        rw [hitself]
    | inr hother =>
        refine Or.inr ⟨?_, fun _ => hother⟩
        rcases mem_entriesOf_put hitm with hmem | hold
        · rw [hwritten] at hmem
          rcases Place.mem_whole_of_mem_put hmem with heq | hmem
          · rw [heq] at hother
            exact absurd haccount hother
          · rw [hself] at hmem
            exact mem_entriesOf.mpr ⟨p.here, Place.mem_whole, hmem⟩
        · exact hold

theorem update_asNoted {h : Noted} (hs : TablesOk T h.team) (hnoted : AsNoted h)
    (TeamScheduleMsg_ : TeamScheduleMsg) :
    AsNoted ((noted T).step (.updateDungoenSchedule TeamScheduleMsg_) h) := by
  intro wsMapText itm hitm
  change itm ∈ entriesOf ((updateDungoenSchedule T TeamScheduleMsg_ h.team).teamsAt
    .dungoenTeamMap wsMapText) at hitm
  show itm.dungoen = note T (.updateDungoenSchedule TeamScheduleMsg_) h wsMapText
    itm.account
  cases hfound : existTeamMember_By_TeamId T TeamScheduleMsg_.dwTeamId
      h.team.dungoenTeamMap with
  | none =>
      rw [updateDungoenSchedule_of_none hfound] at hitm
      rw [note_update_of_none hfound]
      exact hnoted wsMapText itm hitm
  | some found =>
      rcases found with ⟨key, p⟩
      have hwhole := (existTeamMember_eq_some hfound).left
      rw [updateDungoenSchedule_of_some hfound] at hitm
      rw [note_update_of_some hfound]
      cases Decidable.em (key = wsMapText) with
      | inl hkey =>
          rw [← hkey, teamsAt_setGroup_self] at hitm
          have hnodup : (accountsOf p.whole).Nodup := by
            rw [hwhole]
            exact (hs .dungoenTeamMap key).accounts
          rcases writeSchedule_entries hnodup hitm with
            ⟨hin, haccount, hnew⟩ | ⟨hold, hother⟩
          · rw [if_pos ⟨hkey, haccount.symm, haccount ▸ hin⟩]
            exact hnew
          · rw [if_neg, ← hkey]
            · exact hnoted key itm (hwhole ▸ hold)
            · intro hnew
              exact hother (hnew.right.left ▸ hnew.right.right) hnew.right.left.symm
      | inr hkey =>
          rw [teamsAt_setGroup_of_ne _ _ fun hsame => hkey hsame.right] at hitm
          rw [if_neg fun hnew => hkey hnew.left]
          exact hnoted wsMapText itm hitm

/-!
## Runs
-/

theorem step_asNoted {h : Noted} (hs : TablesOk T h.team) (hnoted : AsNoted h)
    (call : Call) : AsNoted ((noted T).step call h) := by
  cases call with
  | joinTaskTeam CtiMember =>
      refine hnoted.of_subset ?_ rfl
      intro wsMapText itm hitm
      have hothers := (join_changes hs .taskTeamMap CtiMember).others
        .dungoenTeamMap wsMapText fun hsame => nomatch hsame.left
      exact entriesOf_subset hothers hitm
  | joinDungoenTeam CtiMember => exact join_asNoted hs hnoted CtiMember
  | deleteTaskMember wsAccountName =>
      refine hnoted.of_subset ?_ rfl
      intro wsMapText itm hitm
      exact entriesOf_subset
        (deleteTaskMember_sublist wsAccountName h.team .dungoenTeamMap wsMapText) hitm
  | deleteDungoenTeamMember wsPlayerName =>
      refine hnoted.of_subset ?_ rfl
      intro wsMapText itm hitm
      exact entriesOf_subset (deleteDungoenTeamMember_sublist wsPlayerName h.team
        .dungoenTeamMap wsMapText) hitm
  | updateDungoenSchedule TeamScheduleMsg_ =>
      exact update_asNoted hs hnoted TeamScheduleMsg_
  | setReadOnlyTeam dwTeamId =>
      refine hnoted.of_subset ?_ rfl
      intro wsMapText itm hitm
      exact setReadOnly_entries dwTeamId h.team wsMapText ▸ hitm

theorem asNoted_initial : AsNoted {} := by
  intro wsMapText itm hitm
  rw [teamsAt_initial] at hitm
  cases hitm

theorem reaches_asNoted {h : Noted} (hreach : (noted T).Reaches {} h) :
    TablesOk T h.team ∧ AsNoted h := by
  refine Machine.Run.invariant (fun h => TablesOk T h.team ∧ AsNoted h) ?_ hreach
    ⟨tablesOk_initial, asNoted_initial⟩
  intro call h _ _ hboth
  exact ⟨apply_tablesOk hboth.left call, step_asNoted hboth.left hboth.right call⟩

/-!
## The dungeon teams in one row
-/

def teamRow (s : CBnsTaskTeam) : TeamGroup :=
  s.dungoenTeamMap.toList.flatMap Prod.snd

def hasId (dwTeamId : DWORD) (team : TeamMemberGroup) : Bool :=
  team.dwTeamId == dwTeamId

theorem existTeamMember_split {dwTeamId : DWORD} {s : CBnsTaskTeam}
    {key : WString} {p : Place TeamMemberGroup}
    (hfound : existTeamMember_By_TeamId T dwTeamId s.dungoenTeamMap =
      some (key, p)) :
    exists pre post, s.dungoenTeamMap.toList = pre ++ (key, p.whole) :: post ∧
      hasId dwTeamId p.here = true ∧
      forall team, team ∈ pre.flatMap Prod.snd ++ p.pre ->
        hasId dwTeamId team = false := by
  rw [existTeamMember_By_TeamId] at hfound
  rcases List.findSome?_eq_some_iff.mp hfound with ⟨pre, itm, post, hlist, hp, hpre⟩
  rcases Option.map_eq_some_iff.mp hp with ⟨q, hq, heq⟩
  rw [existMember_By_TeamId_In_TeamMemberGroup, MyTools.dequeFindIf_eq] at hq
  cases heq
  rcases firstPlace_eq_some hq with ⟨hwhole, htest, hfirst⟩
  refine ⟨pre, post, ?_, htest, ?_⟩
  · rw [hlist, hwhole]
  · intro team hteam
    rcases List.mem_append.mp hteam with hteam | hteam
    · rcases List.mem_flatMap.mp hteam with ⟨itm', hitm', hmem⟩
      have hnone := Option.map_eq_none_iff.mp (hpre itm' hitm')
      rw [existMember_By_TeamId_In_TeamMemberGroup, MyTools.dequeFindIf_eq] at hnone
      exact firstPlace_eq_none.mp hnone team hmem
    · exact hfirst team hteam

theorem getDungoenSchedule_eq (dwTeamId : DWORD) (s : CBnsTaskTeam) :
    getDungoenSchedule T dwTeamId s =
      ((teamRow s).find? (hasId dwTeamId)).elim []
        fun team => team.memberVec.map (scheduleMember team) := by
  unfold getDungoenSchedule
  cases hfound : existTeamMember_By_TeamId T dwTeamId s.dungoenTeamMap with
  | none =>
      have hnone : (teamRow s).find? (hasId dwTeamId) = none := by
        rw [List.find?_eq_none]
        intro team hteam
        rcases List.mem_flatMap.mp hteam with ⟨itm, hitm, hmem⟩
        have hid := existTeamMember_eq_none hfound hitm hmem
        exact fun htest => hid (beq_iff_eq.mp htest)
      rw [hnone]
      rfl
  | some found =>
      rcases found with ⟨key, p⟩
      rcases existTeamMember_split hfound with ⟨pre, post, hlist, htest, hpre⟩
      have hrow : (teamRow s).find? (hasId dwTeamId) = some p.here := by
        rw [List.find?_eq_some_iff_append]
        refine ⟨htest, pre.flatMap Prod.snd ++ p.pre,
          p.post ++ post.flatMap Prod.snd, ?_, ?_⟩
        · rw [teamRow, hlist]
          simp [Place.whole, Place.put]
        · intro team hteam
          rw [hpre team hteam]
          rfl
      rw [hrow]
      rfl

theorem teamRow_update {TeamScheduleMsg_ : TeamScheduleMsg} {s : CBnsTaskTeam}
    {key : WString} {p : Place TeamMemberGroup}
    (hfound : existTeamMember_By_TeamId T TeamScheduleMsg_.dwTeamId
      s.dungoenTeamMap = some (key, p)) :
    exists row : Place TeamMemberGroup, row.here = p.here ∧
      teamRow s = row.whole ∧
      teamRow (updateDungoenSchedule T TeamScheduleMsg_ s) =
        row.put (writeSchedule T TeamScheduleMsg_ p.here) := by
  rcases existTeamMember_split hfound with ⟨pre, post, hlist, _, _⟩
  refine ⟨⟨pre.flatMap Prod.snd ++ p.pre, p.here,
    p.post ++ post.flatMap Prod.snd⟩, rfl, ?_, ?_⟩
  · rw [teamRow, hlist]
    simp [Place.whole, Place.put]
  · rw [updateDungoenSchedule_of_some hfound]
    show List.flatMap Prod.snd (s.dungoenTeamMap.insert key _).toList = _
    rw [OrderedMaps.toList_insert_of_split _ hlist]
    simp [Place.put]

theorem getDungoenSchedule_update {TeamScheduleMsg_ : TeamScheduleMsg}
    {dwTeamId : DWORD} {s : CBnsTaskTeam} {key : WString}
    {p : Place TeamMemberGroup}
    (hfound : existTeamMember_By_TeamId T dwTeamId s.dungoenTeamMap = some (key, p))
    (hother : TeamScheduleMsg_.dwTeamId ≠ dwTeamId ∨
      TeamScheduleMsg_.wsAccountName ∉ p.here.accounts) :
    getDungoenSchedule T dwTeamId (updateDungoenSchedule T TeamScheduleMsg_ s) =
      getDungoenSchedule T dwTeamId s := by
  cases hmsg : existTeamMember_By_TeamId T TeamScheduleMsg_.dwTeamId
      s.dungoenTeamMap with
  | none => rw [updateDungoenSchedule_of_none hmsg]
  | some found =>
      rcases found with ⟨key', p'⟩
      rcases teamRow_update hmsg with ⟨row, hhere, hrow, hrow'⟩
      rw [getDungoenSchedule_eq, getDungoenSchedule_eq, hrow, hrow']
      cases Decidable.em (TeamScheduleMsg_.dwTeamId = dwTeamId) with
      | inl hsame =>
          rw [hsame, hfound] at hmsg
          cases hmsg
          have habsent : TeamScheduleMsg_.wsAccountName ∉ p.here.accounts :=
            hother.resolve_left (not_not.mpr hsame)
          rcases writeSchedule_cases (T := T) TeamScheduleMsg_ p.here with
            ⟨_, hkept⟩ | ⟨self, hself, haccount, _⟩
          · rw [hkept, ← hhere]
            rfl
          · rw [← haccount] at habsent
            exact absurd (place_mem_accounts hself) habsent
      | inr hne =>
          have hid := (existTeamMember_eq_some hmsg).right
          have hskip : forall team : TeamMemberGroup,
              team.dwTeamId = TeamScheduleMsg_.dwTeamId ->
              hasId dwTeamId team = false := by
            intro team hteam
            apply beq_eq_false_iff_ne.mpr
            rw [hteam]
            exact hne
          have hold := hskip row.here (hhere ▸ hid)
          have hnew := hskip (writeSchedule T TeamScheduleMsg_ p'.here)
            ((writeSchedule_shape TeamScheduleMsg_ p'.here).teamId.trans hid)
          rw [Place.whole, Place.put, Place.put, List.find?_append,
            List.find?_append, List.find?_cons, List.find?_cons, hold, hnew]

/-!
## Reading back
-/

def recordOf (h : Noted) (wsMapText : WString) (team : TeamMemberGroup)
    (itm : TeamMemberInfo) : BnsDungoenScheduleMember where
  wsAccountName := itm.account
  wsPlayerName := itm.member.wsPlayerName
  dwPlayerId := itm.member.dwPlayerId
  wsDungoenSchedule := (h.last wsMapText itm.account).wsDungoenSchedule
  uGatherIndex := (h.last wsMapText itm.account).uGatherIndex
  dwTaskId := team.dwTaskId
  dwScheduleId := team.dwScheduleId

/-- The records of a team are read back, and other updates leave them alone. -/
structure ReadsBack (T : MyTools) (h : Noted) (wsMapText : WString)
    (team : TeamMemberGroup) : Prop where
  records : getDungoenSchedule T team.dwTeamId h.team =
    team.memberVec.map (recordOf h wsMapText team)
  others : forall TeamScheduleMsg_ : TeamScheduleMsg,
    TeamScheduleMsg_.dwTeamId ≠ team.dwTeamId ∨
      TeamScheduleMsg_.wsAccountName ∉ team.accounts ->
    getDungoenSchedule T team.dwTeamId
        (updateDungoenSchedule T TeamScheduleMsg_ h.team) =
      getDungoenSchedule T team.dwTeamId h.team

theorem scheduleMember_eq_recordOf_iff {h : Noted} {wsMapText : WString}
    {team : TeamMemberGroup} {itm : TeamMemberInfo}
    (hnoted : itm.dungoen = h.last wsMapText itm.account) :
    scheduleMember team itm = recordOf h wsMapText team itm ↔ itm.account = [] := by
  rw [scheduleMember, recordOf, ← hnoted]
  constructor
  · intro heq
    exact (congrArg BnsDungoenScheduleMember.wsAccountName heq).symm
  · intro hempty
    rw [hempty]

theorem reaches_reachable {h : Noted} (hreach : (noted T).Reaches {} h) :
    Reachable T h.team := by
  have hempty : Reachable T {} := Machine.Run.refl _
  refine Machine.Run.invariant (fun g : Noted => Reachable T g.team) ?_ hreach hempty
  intro call g _ _ hs
  exact hs.snoc (l := call) trivial

theorem found_by_id {h : Noted} (hreach : (noted T).Reaches {} h)
    (hbelow : h.team.dwTeamIdCount < 2 ^ 32) {wsMapText : WString}
    {team : TeamMemberGroup}
    (hteam : team ∈ h.team.teamsAt .dungoenTeamMap wsMapText) :
    exists p : Place TeamMemberGroup,
      existTeamMember_By_TeamId T team.dwTeamId h.team.dungoenTeamMap =
        some (wsMapText, p) ∧ p.here = team := by
  have hapart := ((reaches_reachable hreach).idsIssued hbelow).toIdsApart
  have hid : team.dwTeamId ∈ idsOf (h.team.teamsAt .dungoenTeamMap wsMapText) :=
    List.mem_map_of_mem hteam
  cases hfound : existTeamMember_By_TeamId T team.dwTeamId
      h.team.dungoenTeamMap with
  | none =>
      rcases entry_of_mem_teamsAt hteam with ⟨TeamGroup_, hentry, hmem⟩
      exact absurd rfl (existTeamMember_eq_none hfound hentry hmem)
  | some found =>
      rcases found with ⟨key, p⟩
      rcases existTeamMember_eq_some hfound with ⟨hwhole, hsame⟩
      have hhere : p.here ∈ h.team.teamsAt .dungoenTeamMap key :=
        hwhole ▸ Place.mem_whole
      have hid' : team.dwTeamId ∈ idsOf (h.team.teamsAt .dungoenTeamMap key) := by
        rw [← hsame]
        exact List.mem_map_of_mem hhere
      have hkey : key = wsMapText := by
        by_contra hne
        exact hapart.apart .dungoenTeamMap key .dungoenTeamMap wsMapText
          (fun heq => hne heq.right) _ hid' hid
      rw [hkey] at hhere ⊢
      exact ⟨p, rfl, List.inj_on_of_nodup_map
        (hapart.own .dungoenTeamMap wsMapText) hhere hteam hsame⟩

/--
In every run the records of a team found by its id are read back right exactly
if all its members have the empty account name.
-/
theorem readsBack_iff {h : Noted} (hreach : (noted T).Reaches {} h)
    {dwTeamId : DWORD} {wsMapText : WString} {p : Place TeamMemberGroup}
    (hfound : existTeamMember_By_TeamId T dwTeamId h.team.dungoenTeamMap =
      some (wsMapText, p)) :
    ReadsBack T h wsMapText p.here ↔
      forall itm, itm ∈ p.here.memberVec -> itm.account = [] := by
  rcases existTeamMember_eq_some hfound with ⟨hwhole, hid⟩
  have hnoted : forall itm, itm ∈ p.here.memberVec ->
      itm.dungoen = h.last wsMapText itm.account := by
    intro itm hitm
    apply (reaches_asNoted hreach).right wsMapText
    rw [← hwhole]
    exact mem_entriesOf.mpr ⟨p.here, Place.mem_whole, hitm⟩
  have hread : getDungoenSchedule T p.here.dwTeamId h.team =
      p.here.memberVec.map (scheduleMember p.here) := by
    rw [hid, getDungoenSchedule, hfound]
  constructor
  · intro hreads itm hitm
    have hrecords := hreads.records
    rw [hread, List.map_inj_left] at hrecords
    exact (scheduleMember_eq_recordOf_iff (hnoted itm hitm)).mp (hrecords itm hitm)
  · intro hempty
    constructor
    · rw [hread, List.map_inj_left]
      intro itm hitm
      exact (scheduleMember_eq_recordOf_iff (hnoted itm hitm)).mpr (hempty itm hitm)
    · intro TeamScheduleMsg_ hother
      rw [hid] at hother ⊢
      exact getDungoenSchedule_update hfound hother

def scheduleCalls (wsAccountName : WString) : List Call :=
  [Call.joinDungoenTeam (pairPlayer wsAccountName (L "Anna") 8 []),
    Call.updateDungoenSchedule
      { dwTeamId := 1
        wsAccountName := wsAccountName
        wsScheduleName := L "Boss"
        uScheduleIndex := 3 }]

def scheduleState (wsAccountName : WString) : Noted :=
  (noted MyTools.standard).play (scheduleCalls wsAccountName) {}

theorem scheduleState_reaches (wsAccountName : WString) :
    (noted MyTools.standard).Reaches {} (scheduleState wsAccountName) :=
  Machine.Admits.reaches ⟨trivial, trivial, trivial⟩

/-- Without an account name the record is right. -/
theorem nameless_readsBack :
    exists team, team ∈ (scheduleState []).team.teamsAt .dungoenTeamMap
        (L "2,[1F,0],0") ∧
      ReadsBack MyTools.standard (scheduleState []) (L "2,[1F,0],0") team := by
  have hteam : exists team, team ∈ (scheduleState []).team.teamsAt .dungoenTeamMap
      (L "2,[1F,0],0") ∧
      forall itm, itm ∈ team.memberVec -> itm.account = [] := by
    decide
  rcases hteam with ⟨team, hteam, hempty⟩
  rcases found_by_id (scheduleState_reaches []) (by decide) hteam with
    ⟨p, hfound, hhere⟩
  have hreads := (readsBack_iff (scheduleState_reaches []) hfound).mpr
    (hhere.symm ▸ hempty)
  exact ⟨team, hteam, hhere ▸ hreads⟩

theorem anna_not_readsBack :
    exists team, team ∈ (scheduleState (L "anna")).team.teamsAt .dungoenTeamMap
        (L "2,[1F,0],0") ∧
      ¬ ReadsBack MyTools.standard (scheduleState (L "anna")) (L "2,[1F,0],0")
        team := by
  have hteam : exists team,
      team ∈ (scheduleState (L "anna")).team.teamsAt .dungoenTeamMap
        (L "2,[1F,0],0") ∧
      team.dwTeamId = 1 ∧ team.memberVec.map TeamMemberInfo.account = [L "anna"] := by
    decide
  rcases hteam with ⟨team, hteam, hid, haccounts⟩
  refine ⟨team, hteam, ?_⟩
  intro h
  have hnames := congrArg (List.map BnsDungoenScheduleMember.wsAccountName) h.records
  rw [List.map_map] at hnames
  have hright : team.memberVec.map
      (BnsDungoenScheduleMember.wsAccountName ∘
        recordOf (scheduleState (L "anna")) (L "2,[1F,0],0") team) = [L "anna"] :=
    haccounts
  rw [hright, hid] at hnames
  revert hnames
  decide

end CBnsTaskTeam
end BnsKorea
