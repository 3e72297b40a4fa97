import BnsKorea.CrossAreaTeam.Turns

/-!
# What the other operations of the queue do

Entering, refreshing, leaving and deleting a team get one theorem each that says
all they do to the records, the names and the teams; the invariants are derived
from these theorems alone.
-/

namespace BnsKorea

open Library

namespace CCrossAreaTeam

/-!
## Entering and refreshing a record
-/

structure AddEffect (Member : CrossAreaTeamMember) (s s' : CCrossAreaTeam) :
    Prop where
  self : s'.record Member.wsGroupTitle Member.account = some Member
  others : forall title a, title ≠ Member.wsGroupTitle ∨ a ≠ Member.account ->
    s'.record title a = s.record title a
  names : forall a, a ∈ s'.setTeamMemberName ↔
    Member.account = a ∨ a ∈ s.setTeamMemberName
  dungeons : forall D, D ∈ s'.setDungeonName ↔
    D ∈ s.setDungeonName ∨ D ∈ Member.setDungoenName
  titles : forall title, title ∈ s'.mapTeamMember ↔
    title = Member.wsGroupTitle ∨ title ∈ s.mapTeamMember
  groups : s'.mapCrossAreaTeamGroup = s.mapCrossAreaTeamGroup
  count : s'.dwTeamIdCount = s.dwTeamIdCount
  classes : s'.mapDungeonClasses = s.mapDungeonClasses

private theorem addEffect_of_insert {Member : CrossAreaTeamMember}
    {s s' : CCrossAreaTeam}
    (hfree : s.record Member.wsGroupTitle Member.account = none)
    (hself : s'.waitingUnder Member.wsGroupTitle =
      (s.waitingUnder Member.wsGroupTitle).insertIfNew Member.account Member)
    (hothers : forall title, title ≠ Member.wsGroupTitle ->
      s'.waitingUnder title = s.waitingUnder title) :
    s'.record Member.wsGroupTitle Member.account = some Member ∧
      forall title a, title ≠ Member.wsGroupTitle ∨ a ≠ Member.account ->
        s'.record title a = s.record title a := by
  constructor
  · rw [record, hself]
    exact OrderedMaps.getElem?_insertIfNew_of_none Member hfree
  · intro title a hne
    by_cases htitle : title = Member.wsGroupTitle
    · rcases hne with hne | hne
      · exact absurd htitle hne
      · rw [htitle, record, hself,
          OrderedMaps.getElem?_insertIfNew_of_ne _ _ (Ne.symm hne)]
        rfl
    · rw [record, hothers title htitle]
      rfl

theorem addToCrossAreaTeamMember_effect {Member : CrossAreaTeamMember}
    {s : CCrossAreaTeam}
    (hfree : s.record Member.wsGroupTitle Member.account = none) :
    AddEffect Member s (addToCrossAreaTeamMember Member s) := by
  have hmaps :
      (addToCrossAreaTeamMember Member s).waitingUnder Member.wsGroupTitle =
          (s.waitingUnder Member.wsGroupTitle).insertIfNew
            Member.account Member ∧
        (forall title, title ≠ Member.wsGroupTitle ->
          (addToCrossAreaTeamMember Member s).waitingUnder title =
            s.waitingUnder title) ∧
        forall title,
          title ∈ (addToCrossAreaTeamMember Member s).mapTeamMember ↔
            title = Member.wsGroupTitle ∨ title ∈ s.mapTeamMember := by
    cases hmap : s.mapTeamMember[Member.wsGroupTitle]? with
    | none =>
        have heq : (addToCrossAreaTeamMember Member s).mapTeamMember =
            s.mapTeamMember.insertIfNew Member.wsGroupTitle
              ((∅ : VecCrossAreaTeamMember).insertIfNew
                Member.account Member) := by
          simp only [addToCrossAreaTeamMember, hmap]
        refine ⟨?_, ?_, ?_⟩
        · rw [waitingUnder, heq,
            OrderedMaps.getElem?_insertIfNew_of_none _ hmap,
            waitingUnder_of_none hmap]
          rfl
        · intro title htitle
          rw [waitingUnder, heq,
            OrderedMaps.getElem?_insertIfNew_of_ne _ _ htitle.symm]
          rfl
        · intro title
          rw [heq, Std.TreeMap.mem_insertIfNew, Std.compare_eq_iff_eq]
          exact or_congr_left eq_comm
    | some MapMember =>
        have heq : (addToCrossAreaTeamMember Member s).mapTeamMember =
            s.mapTeamMember.insert Member.wsGroupTitle
              (MapMember.insertIfNew Member.account Member) := by
          simp only [addToCrossAreaTeamMember, hmap]
        rcases waitingUnder_of_insert heq with ⟨hself, hothers⟩
        refine ⟨?_, hothers, ?_⟩
        · rw [hself, waitingUnder_of_some hmap]
        · intro title
          rw [heq, Std.TreeMap.mem_insert, Std.compare_eq_iff_eq]
          exact or_congr_left eq_comm
  rcases hmaps with ⟨hself, hothers, htitles⟩
  rcases addEffect_of_insert hfree hself hothers with ⟨hnew, hkept⟩
  refine ⟨hnew, hkept, ?_, ?_, htitles, rfl, rfl, rfl⟩
  · intro a
    exact OrderedMaps.mem_set_insert
  · intro D
    have hinserted :
        D ∈ (addToCrossAreaTeamMember Member s).setDungeonName ↔
          D ∈ s.setDungeonName ∨ D ∈ Member.setDungoenName.toList :=
      OrderedMaps.mem_set_foldl_insert
    rw [Std.TreeSet.mem_toList] at hinserted
    exact hinserted

def refreshed (Member r : CrossAreaTeamMember) : CrossAreaTeamMember :=
  { r with ulTick := Member.ulTick, info := Member.info }

structure UpdateEffect (Member : CrossAreaTeamMember) (s s' : CCrossAreaTeam) :
    Prop where
  self : s'.record Member.wsGroupTitle Member.account =
    (s.record Member.wsGroupTitle Member.account).map (refreshed Member)
  others : forall title a, title ≠ Member.wsGroupTitle ∨ a ≠ Member.account ->
    s'.record title a = s.record title a
  titles : forall title, title ∈ s'.mapTeamMember ↔ title ∈ s.mapTeamMember
  names : s'.setTeamMemberName = s.setTeamMemberName
  dungeons : s'.setDungeonName = s.setDungeonName
  groups : s'.mapCrossAreaTeamGroup = s.mapCrossAreaTeamGroup
  count : s'.dwTeamIdCount = s.dwTeamIdCount
  classes : s'.mapDungeonClasses = s.mapDungeonClasses

theorem updateTickInTeamMember_of_none {Member : CrossAreaTeamMember}
    {s : CCrossAreaTeam}
    (h : s.record Member.wsGroupTitle Member.account = none) :
    updateTickInTeamMember Member s = s := by
  unfold updateTickInTeamMember
  cases hmap : s.mapTeamMember[Member.wsGroupTitle]? with
  | none => rfl
  | some MapMember =>
      rw [record, waitingUnder_of_some hmap] at h
      simp only [h]

theorem updateTickInTeamMember_effect (Member : CrossAreaTeamMember)
    (s : CCrossAreaTeam) :
    UpdateEffect Member s (updateTickInTeamMember Member s) := by
  cases hrecord : s.record Member.wsGroupTitle Member.account with
  | none =>
      rw [updateTickInTeamMember_of_none hrecord]
      refine ⟨?_, fun _ _ _ => rfl, fun _ => Iff.rfl, rfl, rfl, rfl, rfl, rfl⟩
      rw [hrecord]
      rfl
  | some old =>
      cases hmap : s.mapTeamMember[Member.wsGroupTitle]? with
      | none =>
          rw [record_of_none hmap] at hrecord
          cases hrecord
      | some MapMember =>
          have hold : MapMember[Member.account]? = some old := by
            rw [← waitingUnder_of_some hmap]
            exact hrecord
          have heq : updateTickInTeamMember Member s =
              { s with
                mapTeamMember := s.mapTeamMember.insert Member.wsGroupTitle
                  (MapMember.insert Member.account (refreshed Member old)) } := by
            simp only [updateTickInTeamMember, hmap, hold]
            rfl
          have hmap' : (updateTickInTeamMember Member s).mapTeamMember =
              s.mapTeamMember.insert Member.wsGroupTitle
                (MapMember.insert Member.account (refreshed Member old)) := by
            rw [heq]
          have hthere : Member.wsGroupTitle ∈ s.mapTeamMember := by
            rw [Std.TreeMap.mem_iff_isSome_getElem?, hmap]
            rfl
          rcases waitingUnder_of_insert hmap' with ⟨hself, hothers⟩
          refine ⟨?_, ?_, mem_insert_title hthere hmap', ?_, ?_, ?_, ?_, ?_⟩
          · rw [record, hself, OrderedMaps.getElem?_insert_self, hrecord]
            rfl
          · intro title a hne
            by_cases htitle : title = Member.wsGroupTitle
            · rcases hne with hne | hne
              · exact absurd htitle hne
              · rw [htitle, record, hself,
                  OrderedMaps.getElem?_insert_of_ne _ _ (Ne.symm hne), record,
                  waitingUnder_of_some hmap]
            · rw [record, hothers title htitle]
              rfl
          all_goals rw [heq]

/-!
## Leaving
-/

theorem removeTeamMember_record (wsAccountName : WString) (s : CCrossAreaTeam) :
    (forall title a, a ≠ wsAccountName ->
        (removeTeamMember wsAccountName s).record title a = s.record title a) ∧
      ((forall title title', s.WaitsUnder title wsAccountName ->
          s.WaitsUnder title' wsAccountName -> title = title') ->
        forall title,
          (removeTeamMember wsAccountName s).record title wsAccountName =
            none) := by
  unfold removeTeamMember
  cases hfind : s.mapTeamMember.toList.find? fun itm =>
      itm.2.contains wsAccountName with
  | none =>
      refine ⟨fun _ _ _ => rfl, ?_⟩
      intro _ title
      cases hmap : s.mapTeamMember[title]? with
      | none => exact record_of_none hmap _
      | some MapMember =>
          have hnot := List.find?_eq_none.mp hfind (title, MapMember)
            (OrderedMaps.mem_toList_iff.mpr hmap)
          simp only
          rw [record, waitingUnder_of_some hmap]
          exact Std.TreeMap.getElem?_eq_none (by simpa using hnot)
  | some itm =>
      rcases itm with ⟨found, MapMember⟩
      have hmap : s.mapTeamMember[found]? = some MapMember :=
        OrderedMaps.mem_toList_iff.mp (List.mem_of_find?_eq_some hfind)
      have hcontains : MapMember.contains wsAccountName = true := by
        simpa using List.find?_some hfind
      have hwaits : s.WaitsUnder found wsAccountName := by
        rw [Std.TreeMap.contains_eq_isSome_getElem?] at hcontains
        rcases Option.isSome_iff_exists.mp hcontains with ⟨r, hr⟩
        refine ⟨r, ?_⟩
        rw [record, waitingUnder_of_some hmap, hr]
      have hmap' : ({ s with
          mapTeamMember := s.mapTeamMember.insert found
            (MapMember.erase wsAccountName) } : CCrossAreaTeam).mapTeamMember =
          s.mapTeamMember.insert found (MapMember.erase wsAccountName) :=
        rfl
      rcases waitingUnder_of_insert hmap' with ⟨hself, hothers⟩
      constructor
      · intro title a ha
        by_cases htitle : title = found
        · rw [htitle, record, hself, OrderedMaps.getElem?_erase,
            if_neg (Ne.symm ha), record, waitingUnder_of_some hmap]
        · rw [record, hothers title htitle]
          rfl
      · intro honce title
        by_cases htitle : title = found
        · rw [htitle, record, hself, OrderedMaps.getElem?_erase, if_pos rfl]
        · rw [record, hothers title htitle]
          cases hr : s.record title wsAccountName with
          | none => exact hr
          | some r => exact absurd (honce title found ⟨r, hr⟩ hwaits) htitle

theorem removeTeamMember_rest (wsAccountName : WString) (s : CCrossAreaTeam) :
    (removeTeamMember wsAccountName s).setTeamMemberName = s.setTeamMemberName ∧
      (removeTeamMember wsAccountName s).setDungeonName = s.setDungeonName ∧
      (removeTeamMember wsAccountName s).mapCrossAreaTeamGroup =
        s.mapCrossAreaTeamGroup ∧
      (removeTeamMember wsAccountName s).dwTeamIdCount = s.dwTeamIdCount ∧
      (removeTeamMember wsAccountName s).mapDungeonClasses =
        s.mapDungeonClasses := by
  unfold removeTeamMember
  split
  · exact ⟨rfl, rfl, rfl, rfl, rfl⟩
  · exact ⟨rfl, rfl, rfl, rfl, rfl⟩

/-- An account that waits under one title at most is gone afterwards. -/
structure LeaveEffect (wsAccountName : WString) (s s' : CCrossAreaTeam) :
    Prop where
  self : forall title, s'.record title wsAccountName = none
  others : forall title a, a ≠ wsAccountName ->
    s'.record title a = s.record title a
  names : forall a, a ∈ s'.setTeamMemberName ↔
    wsAccountName ≠ a ∧ a ∈ s.setTeamMemberName
  dungeons : s'.setDungeonName = s.setDungeonName
  groups : s'.mapCrossAreaTeamGroup = s.mapCrossAreaTeamGroup
  count : s'.dwTeamIdCount = s.dwTeamIdCount
  classes : s'.mapDungeonClasses = s.mapDungeonClasses

theorem deleteTeamMember_effect {wsAccountName : WString} {s : CCrossAreaTeam}
    (honce : forall title title', s.WaitsUnder title wsAccountName ->
      s.WaitsUnder title' wsAccountName -> title = title') :
    LeaveEffect wsAccountName s (deleteTeamMember wsAccountName s) := by
  rcases removeTeamMember_record wsAccountName
    (removeTeamMemberName wsAccountName s) with ⟨hothers, hgone⟩
  rcases removeTeamMember_rest wsAccountName
    (removeTeamMemberName wsAccountName s) with
    ⟨hnames, hdungeons, hgroups, hcount, hclasses⟩
  refine ⟨hgone honce, hothers, ?_, hdungeons, hgroups, hcount, hclasses⟩
  intro a
  have heq : (deleteTeamMember wsAccountName s).setTeamMemberName =
      s.setTeamMemberName.erase wsAccountName := hnames
  rw [heq]
  exact OrderedMaps.mem_set_erase

/-- Only the group map changes, and it only loses a team. -/
structure GroupDeleted (s s' : CCrossAreaTeam) : Prop where
  groups : forall (dwTeamId : DWORD) (g : CrossAreaTeamGroup),
    s'.mapCrossAreaTeamGroup[dwTeamId]? = some g ->
    s.mapCrossAreaTeamGroup[dwTeamId]? = some g
  records : s'.mapTeamMember = s.mapTeamMember
  names : s'.setTeamMemberName = s.setTeamMemberName
  dungeons : s'.setDungeonName = s.setDungeonName
  count : s'.dwTeamIdCount = s.dwTeamIdCount
  classes : s'.mapDungeonClasses = s.mapDungeonClasses

theorem deleteTeamGroup_effect (wsAccountName : WString) (s : CCrossAreaTeam) :
    GroupDeleted s (deleteTeamGroup wsAccountName s) := by
  unfold deleteTeamGroup
  split
  · exact ⟨fun _ _ hg => hg, rfl, rfl, rfl, rfl, rfl⟩
  · rename_i itr _
    refine ⟨?_, rfl, rfl, rfl, rfl, rfl⟩
    intro dwTeamId g hg
    simp only at hg
    rw [OrderedMaps.getElem?_erase] at hg
    split at hg
    · cases hg
    · exact hg

/-!
## Looking up the caller's team
-/

theorem mem_accounts {g : CrossAreaTeamGroup} {a : WString} :
    a ∈ g.accounts ↔
      g.captain.account = a ∨ exists m, m ∈ g.vecMember ∧ m.account = a := by
  simp [CrossAreaTeamGroup.accounts, CrossAreaTeamGroup.players, eq_comm]

private theorem existTest_iff (T : MyTools) {Member : CrossAreaTeamMember}
    {g : CrossAreaTeamGroup} :
    (g.captain.sameAccount Member ||
      (T.vecFindIfConst g.vecMember fun GroupMember =>
        GroupMember.sameAccount Member).isSome) = true ↔
      Member.account ∈ g.accounts := by
  rw [mem_accounts, T.vecFindIfConst_eq, Bool.or_eq_true, List.find?_isSome]
  simp [CrossAreaTeamMember.sameAccount]

theorem existCrossAreaTeamGroup_of_some {T : MyTools}
    {Member : CrossAreaTeamMember} {s : CCrossAreaTeam} {g : CrossAreaTeamGroup}
    (h : existCrossAreaTeamGroup T Member s = some g) :
    exists dwTeamId : DWORD, s.mapCrossAreaTeamGroup[dwTeamId]? = some g ∧
      Member.account ∈ g.accounts := by
  rcases Option.map_eq_some_iff.mp h with ⟨⟨dwTeamId, g'⟩, hfind, hg⟩
  have htest := List.find?_some hfind
  rw [← hg]
  exact ⟨dwTeamId,
    OrderedMaps.mem_toList_iff.mp (List.mem_of_find?_eq_some hfind),
    (existTest_iff T).mp htest⟩

theorem existCrossAreaTeamGroup_eq_none_iff {T : MyTools}
    {Member : CrossAreaTeamMember} {s : CCrossAreaTeam} :
    existCrossAreaTeamGroup T Member s = none ↔
      forall dwTeamId, ¬ s.InGroup dwTeamId Member.account := by
  rw [existCrossAreaTeamGroup, Option.map_eq_none_iff, List.find?_eq_none]
  constructor
  · intro h dwTeamId hin
    rcases hin with ⟨g, hg, hmem⟩
    exact h (dwTeamId, g) (OrderedMaps.mem_toList_iff.mpr hg)
      ((existTest_iff T).mpr hmem)
  · intro h itm hitm htest
    rcases itm with ⟨dwTeamId, g⟩
    exact h dwTeamId ⟨g, OrderedMaps.mem_toList_iff.mp hitm,
      (existTest_iff T).mp htest⟩

theorem existCrossAreaTeamMember_iff {Member : CrossAreaTeamMember}
    {s : CCrossAreaTeam} :
    existCrossAreaTeamMember Member s = true ↔
      Member.account ∈ s.setTeamMemberName :=
  Std.TreeSet.mem_iff_contains.symm

end CCrossAreaTeam
end BnsKorea
