import BnsKorea.Library.OrderedMaps
import BnsKorea.CrossAreaTeam.Model

/-!
# The turns of the scheduling loop

The queue is observed through the waiting records of each title, the name set
and the group map.  One theorem says all that a turn for a title and a dungeon
does to these, and scheduling is one list of turns.
-/

namespace BnsKorea

open Library

namespace CCrossAreaTeam

/-!
## Observations
-/

/-- The waiting records of a title; none if the title is unknown. -/
def waitingUnder (s : CCrossAreaTeam) (wsGroupTitle : WString) :
    VecCrossAreaTeamMember :=
  s.mapTeamMember[wsGroupTitle]?.getD ∅

def record (s : CCrossAreaTeam) (wsGroupTitle wsAccountName : WString) :
    Option CrossAreaTeamMember :=
  (s.waitingUnder wsGroupTitle)[wsAccountName]?

def WaitsUnder (s : CCrossAreaTeam) (wsGroupTitle wsAccountName : WString) :
    Prop :=
  exists r, s.record wsGroupTitle wsAccountName = some r

def InGroup (s : CCrossAreaTeam) (dwTeamId : DWORD) (wsAccountName : WString) :
    Prop :=
  exists g, s.mapCrossAreaTeamGroup[dwTeamId]? = some g ∧
    wsAccountName ∈ g.accounts

def candidates (ulNow : ULONGLONG) (wsGroupTitle wsDungeonName : WString)
    (s : CCrossAreaTeam) : List CrossAreaTeamMember :=
  ((s.waitingUnder wsGroupTitle).toList.filter fun itr =>
    isKeepALive ulNow itr.2 &&
      itr.2.setDungoenName.contains wsDungeonName).map Prod.snd

theorem waitingUnder_of_insert {s s' : CCrossAreaTeam} {wsGroupTitle : WString}
    {MapMember : VecCrossAreaTeamMember}
    (h : s'.mapTeamMember = s.mapTeamMember.insert wsGroupTitle MapMember) :
    s'.waitingUnder wsGroupTitle = MapMember ∧
      forall title, title ≠ wsGroupTitle ->
        s'.waitingUnder title = s.waitingUnder title := by
  constructor
  · rw [waitingUnder, h, OrderedMaps.getElem?_insert_self]
    rfl
  · intro title htitle
    rw [waitingUnder, h, OrderedMaps.getElem?_insert_of_ne _ _ htitle.symm]
    rfl

theorem waitingUnder_of_some {s : CCrossAreaTeam} {wsGroupTitle : WString}
    {MapMember : VecCrossAreaTeamMember}
    (h : s.mapTeamMember[wsGroupTitle]? = some MapMember) :
    s.waitingUnder wsGroupTitle = MapMember := by
  rw [waitingUnder, h]
  rfl

theorem waitingUnder_of_none {s : CCrossAreaTeam} {wsGroupTitle : WString}
    (h : s.mapTeamMember[wsGroupTitle]? = none) :
    s.waitingUnder wsGroupTitle = ∅ := by
  rw [waitingUnder, h]
  rfl

theorem record_of_none {s : CCrossAreaTeam} {wsGroupTitle : WString}
    (h : s.mapTeamMember[wsGroupTitle]? = none) (wsAccountName : WString) :
    s.record wsGroupTitle wsAccountName = none := by
  rw [record, waitingUnder_of_none h]
  simp

theorem mem_candidates {ulNow : ULONGLONG} {wsGroupTitle wsDungeonName : WString}
    {s : CCrossAreaTeam} {r : CrossAreaTeamMember} :
    r ∈ candidates ulNow wsGroupTitle wsDungeonName s ↔
      exists a, s.record wsGroupTitle a = some r ∧
        isKeepALive ulNow r = true ∧ wsDungeonName ∈ r.setDungoenName := by
  rw [candidates, List.mem_map]
  constructor
  · intro hmapped
    rcases hmapped with ⟨itr, hmem, hr⟩
    rcases List.mem_filter.mp hmem with ⟨hitr, htest⟩
    rw [Bool.and_eq_true, hr] at htest
    refine ⟨itr.1, ?_, htest.left, Std.TreeSet.mem_iff_contains.mpr htest.right⟩
    rw [← hr]
    exact OrderedMaps.mem_toList_iff.mp hitr
  · intro hplayer
    rcases hplayer with ⟨a, hrecord, halive, hdungeon⟩
    refine ⟨(a, r), List.mem_filter.mpr ⟨?_, ?_⟩, rfl⟩
    · exact OrderedMaps.mem_toList_iff.mpr hrecord
    · rw [Bool.and_eq_true]
      exact ⟨halive, Std.TreeSet.mem_iff_contains.mp hdungeon⟩

/-!
## The search for players of one dungeon
-/

private theorem findSameDungoen_loop (ulNow : ULONGLONG)
    (wsDungeonName : WString) (itrs : List (WString × CrossAreaTeamMember))
    (r : SameDungoen) :
    itrs.foldl (findSameDungoenTurn ulNow wsDungeonName) r =
      { setTeamMemberName :=
          (itrs.filter fun itr => !isKeepALive ulNow itr.2).foldl
            (fun names itr => names.erase itr.2.account) r.setTeamMemberName
        mapMember :=
          (itrs.filter fun itr => !isKeepALive ulNow itr.2).foldl
            (fun map itr => map.erase itr.1) r.mapMember
        vecItr :=
          r.vecItr ++ (itrs.filter fun itr => isKeepALive ulNow itr.2 &&
            itr.2.setDungoenName.contains wsDungeonName).map Prod.snd } := by
  induction itrs generalizing r with
  | nil => simp
  | cons itr itrs ih =>
      rw [List.foldl_cons, ih]
      cases halive : isKeepALive ulNow itr.2 with
      | false => simp [findSameDungoenTurn, halive]
      | true =>
          cases hdungeon : itr.2.setDungoenName.contains wsDungeonName with
          | false => simp [findSameDungoenTurn, halive, hdungeon]
          | true => simp [findSameDungoenTurn, halive, hdungeon]

theorem findSameDungoen_vecItr (ulNow : ULONGLONG) (wsDungeonName : WString)
    (names : Std.TreeSet WString) (MapMember : VecCrossAreaTeamMember) :
    (findSameDungoen ulNow wsDungeonName names MapMember).vecItr =
      (MapMember.toList.filter fun itr => isKeepALive ulNow itr.2 &&
        itr.2.setDungoenName.contains wsDungeonName).map Prod.snd := by
  rw [findSameDungoen, findSameDungoen_loop]
  rfl

theorem findSameDungoen_mapMember (ulNow : ULONGLONG) (wsDungeonName : WString)
    (names : Std.TreeSet WString) (MapMember : VecCrossAreaTeamMember)
    (a : WString) :
    (findSameDungoen ulNow wsDungeonName names MapMember).mapMember[a]? =
      MapMember[a]?.filter (isKeepALive ulNow) := by
  rw [findSameDungoen, findSameDungoen_loop]
  by_cases hdead : exists r, MapMember[a]? = some r ∧ isKeepALive ulNow r = false
  · rcases hdead with ⟨r, hr, halive⟩
    have hmem : (a, r) ∈
        MapMember.toList.filter fun itr => !isKeepALive ulNow itr.2 := by
      refine List.mem_filter.mpr ⟨OrderedMaps.mem_toList_iff.mpr hr, ?_⟩
      rw [halive]
      rfl
    have herased := OrderedMaps.getElem?_foldl_erase_of_mem Prod.fst hmem MapMember
    rw [hr, Option.filter_some, halive]
    simpa using herased
  · have hkeeps : forall itr, itr ∈
        (MapMember.toList.filter fun itr => !isKeepALive ulNow itr.2) ->
        itr.1 ≠ a := by
      intro itr hitr hkey
      rcases List.mem_filter.mp hitr with ⟨hmem, halive⟩
      rw [← hkey] at hdead
      exact hdead ⟨itr.2, OrderedMaps.mem_toList_iff.mp hmem,
        by simpa using halive⟩
    have hsame :=
      OrderedMaps.getElem?_foldl_erase_of_forall_ne Prod.fst hkeeps MapMember
    rw [hsame]
    cases hr : MapMember[a]? with
    | none => rfl
    | some r =>
        have halive : isKeepALive ulNow r = true := by
          cases h : isKeepALive ulNow r with
          | true => rfl
          | false => exact absurd ⟨r, hr, h⟩ hdead
        rw [Option.filter_some, halive]
        rfl

theorem mem_findSameDungoen_names (ulNow : ULONGLONG) (wsDungeonName : WString)
    (names : Std.TreeSet WString) (MapMember : VecCrossAreaTeamMember)
    (hkeyed : forall (a : WString) (r : CrossAreaTeamMember),
      MapMember[a]? = some r -> r.account = a)
    (a : WString) :
    a ∈ (findSameDungoen ulNow wsDungeonName names MapMember).setTeamMemberName ↔
      a ∈ names ∧
        forall r, MapMember[a]? = some r -> isKeepALive ulNow r = true := by
  rw [findSameDungoen, findSameDungoen_loop]
  refine (OrderedMaps.mem_set_foldl_erase
    fun itr : WString × CrossAreaTeamMember => itr.2.account).trans ?_
  apply and_congr_right
  intro _
  constructor
  · intro h r hr
    cases halive : isKeepALive ulNow r with
    | true => rfl
    | false =>
        have hmem : (a, r) ∈
            MapMember.toList.filter fun itr => !isKeepALive ulNow itr.2 := by
          refine List.mem_filter.mpr ⟨OrderedMaps.mem_toList_iff.mpr hr, ?_⟩
          rw [halive]
          rfl
        exact absurd (hkeyed a r hr) (h (a, r) hmem)
  · intro h itr hitr hka
    rcases itr with ⟨k, r⟩
    rcases List.mem_filter.mp hitr with ⟨hmem, halive⟩
    have hk := hkeyed k r (OrderedMaps.mem_toList_iff.mp hmem)
    have hka' : k = a := hk.symm.trans hka
    rw [← hka'] at h
    have halive' := h r (OrderedMaps.mem_toList_iff.mp hmem)
    rw [halive'] at halive
    cases halive

/-!
## One turn of the scheduling loop

A turn drops the records of its title that timed out and then moves the chosen
players, if any, into a team of their own.
-/

/-- The group map after a turn for `wsDungeonName` that chose the players. -/
def GroupsAfter (wsDungeonName : WString) (s s' : CCrossAreaTeam) :
    List CrossAreaTeamMember -> Prop
  | [] =>
      s'.mapCrossAreaTeamGroup = s.mapCrossAreaTeamGroup ∧
        s'.dwTeamIdCount = s.dwTeamIdCount
  | captain :: others =>
      s'.mapCrossAreaTeamGroup =
          s.mapCrossAreaTeamGroup.insertIfNew
            (UInt32.ofNat (s.dwTeamIdCount + 1))
            { captain := captain
              vecMember := others
              dwTeamId := UInt32.ofNat (s.dwTeamIdCount + 1)
              wsDungeonName := wsDungeonName } ∧
        s'.dwTeamIdCount = s.dwTeamIdCount + 1

structure TurnEffect (ulNow : ULONGLONG) (wsGroupTitle wsDungeonName : WString)
    (chosen : List CrossAreaTeamMember) (s s' : CCrossAreaTeam) : Prop where
  otherTitles : forall title, title ≠ wsGroupTitle ->
    s'.waitingUnder title = s.waitingUnder title
  records : forall a, s'.record wsGroupTitle a =
    if a ∈ chosen.map CrossAreaTeamMember.account then none
    else (s.record wsGroupTitle a).filter (isKeepALive ulNow)
  names : forall a, a ∈ s'.setTeamMemberName ↔
    (a ∈ s.setTeamMemberName ∧
      forall r, s.record wsGroupTitle a = some r -> isKeepALive ulNow r = true) ∧
      a ∉ chosen.map CrossAreaTeamMember.account
  groups : GroupsAfter wsDungeonName s s' chosen
  titles : forall title, title ∈ s'.mapTeamMember ↔ title ∈ s.mapTeamMember
  dungeons : s'.setDungeonName = s.setDungeonName
  classes : s'.mapDungeonClasses = s.mapDungeonClasses

/-- What the turn decided: nobody was chosen, or the first-fit choice was. -/
inductive TurnOutcome (ulNow : ULONGLONG) (wsGroupTitle wsDungeonName : WString)
    (s s' : CCrossAreaTeam) : Prop where
  | unknown :
      s.mapDungeonClasses[wsDungeonName]? = none -> s' = s ->
      TurnOutcome ulNow wsGroupTitle wsDungeonName s s'
  | nobody (Classes : VecClasses) :
      s.mapDungeonClasses[wsDungeonName]? = some Classes ->
      FirstFit.fill fitsSlot Classes.slots
        (candidates ulNow wsGroupTitle wsDungeonName s) = none ->
      TurnEffect ulNow wsGroupTitle wsDungeonName [] s s' ->
      TurnOutcome ulNow wsGroupTitle wsDungeonName s s'
  | formed (Classes : VecClasses) (chosen : List CrossAreaTeamMember) :
      s.mapDungeonClasses[wsDungeonName]? = some Classes ->
      FirstFit.fill fitsSlot Classes.slots
        (candidates ulNow wsGroupTitle wsDungeonName s) = some chosen ->
      TurnEffect ulNow wsGroupTitle wsDungeonName chosen s s' ->
      TurnOutcome ulNow wsGroupTitle wsDungeonName s s'

/-- A title's records carry the account they are stored under. -/
def Keyed (MapMember : VecCrossAreaTeamMember) : Prop :=
  forall (a : WString) (r : CrossAreaTeamMember),
    MapMember[a]? = some r -> r.account = a

theorem mem_insert_title {s s' : CCrossAreaTeam} {wsGroupTitle : WString}
    {MapMember : VecCrossAreaTeamMember}
    (hthere : wsGroupTitle ∈ s.mapTeamMember)
    (h : s'.mapTeamMember = s.mapTeamMember.insert wsGroupTitle MapMember)
    (title : WString) :
    title ∈ s'.mapTeamMember ↔ title ∈ s.mapTeamMember := by
  rw [h, Std.TreeMap.mem_insert, Std.compare_eq_iff_eq]
  constructor
  · intro hor
    rcases hor with heq | hmem
    · exact heq ▸ hthere
    · exact hmem
  · exact Or.inr

theorem schedulingSameDungeon_of_none {wsDungeonName : WString}
    {MapMember : VecCrossAreaTeamMember} {VecMember : List CrossAreaTeamMember}
    {Classes : VecClasses} {s : CCrossAreaTeam}
    (h : FirstFit.fill fitsSlot Classes.slots VecMember = none) :
    schedulingSameDungeon wsDungeonName MapMember VecMember Classes s =
      (false, s, MapMember) := by
  unfold schedulingSameDungeon
  split
  · rfl
  · rename_i chosen hchosen
    rw [h] at hchosen
    cases hchosen

theorem schedulingSameDungeon_of_some (wsDungeonName : WString)
    (MapMember : VecCrossAreaTeamMember)
    {VecMember chosen : List CrossAreaTeamMember}
    {Classes : VecClasses} (s : CCrossAreaTeam)
    (h : FirstFit.fill fitsSlot Classes.slots VecMember = some chosen) :
    exists hchosen : chosen ≠ [],
      schedulingSameDungeon wsDungeonName MapMember VecMember Classes s =
        (true,
          { addtoCrossAreaTeamGroup wsDungeonName chosen hchosen s with
            setTeamMemberName :=
              chosen.foldl (fun names itm => names.erase itm.account)
                s.setTeamMemberName },
          chosen.foldl (fun map itm => map.erase itm.account) MapMember) := by
  refine ⟨FirstFit.fill_ne_nil Classes.slots_ne_nil h, ?_⟩
  unfold schedulingSameDungeon
  split
  · rename_i hnone
    rw [h] at hnone
    cases hnone
  · rename_i chosen' hchosen'
    rw [h] at hchosen'
    cases hchosen'
    rfl

theorem addtoCrossAreaTeamGroup_groups {wsDungeonName : WString}
    {chosen : List CrossAreaTeamMember} (hchosen : chosen ≠ [])
    (s : CCrossAreaTeam) :
    GroupsAfter wsDungeonName s
      (addtoCrossAreaTeamGroup wsDungeonName chosen hchosen s) chosen := by
  cases chosen with
  | nil => exact absurd rfl hchosen
  | cons captain others => exact ⟨rfl, rfl⟩

private theorem turn_record {ulNow : ULONGLONG} {wsDungeonName : WString}
    (names : Std.TreeSet WString) (MapMember : VecCrossAreaTeamMember)
    (chosen : List CrossAreaTeamMember) (a : WString) :
    (chosen.foldl (fun map itm => map.erase itm.account)
        (findSameDungoen ulNow wsDungeonName names MapMember).mapMember)[a]? =
      if a ∈ chosen.map CrossAreaTeamMember.account then none
      else MapMember[a]?.filter (isKeepALive ulNow) := by
  by_cases ha : a ∈ chosen.map CrossAreaTeamMember.account
  · rcases List.mem_map.mp ha with ⟨itm, hitm, hitmAccount⟩
    rw [if_pos ha, ← hitmAccount]
    exact OrderedMaps.getElem?_foldl_erase_of_mem
      CrossAreaTeamMember.account hitm _
  · have hkeeps : forall itm, itm ∈ chosen ->
        CrossAreaTeamMember.account itm ≠ a := by
      intro itm hitm hitmAccount
      exact ha (List.mem_map.mpr ⟨itm, hitm, hitmAccount⟩)
    rw [if_neg ha, ← findSameDungoen_mapMember ulNow wsDungeonName names]
    exact OrderedMaps.getElem?_foldl_erase_of_forall_ne
      CrossAreaTeamMember.account hkeeps _

private theorem turn_names {ulNow : ULONGLONG} {wsDungeonName : WString}
    (names : Std.TreeSet WString) {MapMember : VecCrossAreaTeamMember}
    (hkeyed : Keyed MapMember) (chosen : List CrossAreaTeamMember)
    (a : WString) :
    a ∈ chosen.foldl (fun names itm => names.erase itm.account)
        (findSameDungoen ulNow wsDungeonName names MapMember).setTeamMemberName ↔
      (a ∈ names ∧
        forall r, MapMember[a]? = some r -> isKeepALive ulNow r = true) ∧
        a ∉ chosen.map CrossAreaTeamMember.account := by
  refine (OrderedMaps.mem_set_foldl_erase CrossAreaTeamMember.account).trans ?_
  rw [mem_findSameDungoen_names _ _ _ _ hkeyed]
  apply and_congr_right
  intro _
  rw [List.mem_map]
  constructor
  · intro h hchosen
    rcases hchosen with ⟨itm, hitm, hitmAccount⟩
    exact h itm hitm hitmAccount
  · intro h itm hitm hitmAccount
    exact h ⟨itm, hitm, hitmAccount⟩

/--
A state that differs from `s` in the ways a turn writes it has the effect of
the turn: the group map, the name set and the title's own map.
-/
private theorem turnEffect_of_writes {ulNow : ULONGLONG}
    {wsGroupTitle wsDungeonName : WString} {s s' : CCrossAreaTeam}
    {MapMember : VecCrossAreaTeamMember} {chosen : List CrossAreaTeamMember}
    (hmap : s.mapTeamMember[wsGroupTitle]? = some MapMember)
    (hkeyed : Keyed MapMember)
    (hmap' : s'.mapTeamMember = s.mapTeamMember.insert wsGroupTitle
      (chosen.foldl (fun map itm => map.erase itm.account)
        (findSameDungoen ulNow wsDungeonName s.setTeamMemberName
          MapMember).mapMember))
    (hnames : s'.setTeamMemberName =
      chosen.foldl (fun names itm => names.erase itm.account)
        (findSameDungoen ulNow wsDungeonName s.setTeamMemberName
          MapMember).setTeamMemberName)
    (hgroups : GroupsAfter wsDungeonName s s' chosen)
    (hdungeons : s'.setDungeonName = s.setDungeonName)
    (hclasses : s'.mapDungeonClasses = s.mapDungeonClasses) :
    TurnEffect ulNow wsGroupTitle wsDungeonName chosen s s' := by
  have hthere : wsGroupTitle ∈ s.mapTeamMember := by
    rw [Std.TreeMap.mem_iff_isSome_getElem?, hmap]
    rfl
  rcases waitingUnder_of_insert hmap' with ⟨hself, hothers⟩
  have hrecord : forall a, s.record wsGroupTitle a = MapMember[a]? := by
    intro a
    rw [record, waitingUnder_of_some hmap]
  refine ⟨hothers, ?_, ?_, hgroups, ?_, hdungeons, hclasses⟩
  · intro a
    rw [record, hself, turn_record, hrecord]
  · intro a
    rw [hnames, turn_names _ hkeyed]
    simp only [hrecord]
  · exact mem_insert_title hthere hmap'

theorem schedulingTurn_outcome (ulNow : ULONGLONG)
    (wsGroupTitle wsDungeonName : WString) (s : CCrossAreaTeam)
    (hkeyed : Keyed (s.waitingUnder wsGroupTitle)) :
    TurnOutcome ulNow wsGroupTitle wsDungeonName s
      (schedulingTurn ulNow wsGroupTitle s wsDungeonName) := by
  cases hmap : s.mapTeamMember[wsGroupTitle]? with
  | none =>
      have hsame : schedulingTurn ulNow wsGroupTitle s wsDungeonName = s := by
        rw [schedulingTurn, hmap]
      rw [hsame]
      cases hclasses : s.mapDungeonClasses[wsDungeonName]? with
      | none => exact TurnOutcome.unknown hclasses rfl
      | some Classes =>
          have hempty := waitingUnder_of_none hmap
          have hrecord := record_of_none hmap
          refine TurnOutcome.nobody Classes hclasses ?_ ?_
          · apply FirstFit.fill_eq_none_of_length_lt
            rw [candidates, hempty]
            exact List.length_pos_of_ne_nil Classes.slots_ne_nil
          · refine ⟨fun _ _ => rfl, ?_, ?_, ⟨rfl, rfl⟩, fun _ => Iff.rfl, rfl, rfl⟩
            · intro a
              simp [hrecord]
            · intro a
              simp [hrecord]
  | some MapMember =>
      have hunder := waitingUnder_of_some hmap
      rw [hunder] at hkeyed
      cases hclasses : s.mapDungeonClasses[wsDungeonName]? with
      | none =>
          refine TurnOutcome.unknown hclasses ?_
          rw [schedulingTurn, hmap, hclasses]
      | some Classes =>
          have hfound : (findSameDungoen ulNow wsDungeonName
              s.setTeamMemberName MapMember).vecItr =
              candidates ulNow wsGroupTitle wsDungeonName s := by
            rw [findSameDungoen_vecItr, candidates, hunder]
          rw [schedulingTurn, hmap, hclasses]
          simp only
          rw [hfound]
          by_cases hlength : Classes.slots.length ≤
              (candidates ulNow wsGroupTitle wsDungeonName s).length
          · rw [if_pos hlength]
            cases hfill : FirstFit.fill fitsSlot Classes.slots
                (candidates ulNow wsGroupTitle wsDungeonName s) with
            | none =>
                rw [schedulingSameDungeon_of_none hfill]
                exact TurnOutcome.nobody Classes hclasses hfill
                  (turnEffect_of_writes hmap hkeyed rfl rfl ⟨rfl, rfl⟩ rfl rfl)
            | some chosen =>
                rcases schedulingSameDungeon_of_some wsDungeonName _ _ hfill
                  with ⟨hchosen, heq⟩
                rw [heq]
                exact TurnOutcome.formed Classes chosen hclasses hfill
                  (turnEffect_of_writes hmap hkeyed rfl rfl
                    (addtoCrossAreaTeamGroup_groups hchosen _) rfl rfl)
          · rw [if_neg hlength]
            have hfill : FirstFit.fill fitsSlot Classes.slots
                (candidates ulNow wsGroupTitle wsDungeonName s) = none :=
              FirstFit.fill_eq_none_of_length_lt (Nat.lt_of_not_le hlength)
            exact TurnOutcome.nobody Classes hclasses hfill
              (turnEffect_of_writes hmap hkeyed rfl rfl ⟨rfl, rfl⟩ rfl rfl)

/-!
## Teams before and after a turn
-/

theorem GroupsAfter.keeps {wsDungeonName : WString} {s s' : CCrossAreaTeam}
    {chosen : List CrossAreaTeamMember} (h : GroupsAfter wsDungeonName s s' chosen)
    {dwTeamId : DWORD} {g : CrossAreaTeamGroup}
    (hg : s.mapCrossAreaTeamGroup[dwTeamId]? = some g) :
    s'.mapCrossAreaTeamGroup[dwTeamId]? = some g := by
  cases chosen with
  | nil => rw [h.left, hg]
  | cons captain others =>
      rw [h.left]
      by_cases hid : UInt32.ofNat (s.dwTeamIdCount + 1) = dwTeamId
      · rw [← hid] at hg ⊢
        rw [OrderedMaps.getElem?_insertIfNew_of_some _ hg, hg]
      · rw [OrderedMaps.getElem?_insertIfNew_of_ne _ _ hid, hg]

theorem GroupsAfter.source {wsDungeonName : WString} {s s' : CCrossAreaTeam}
    {chosen : List CrossAreaTeamMember} (h : GroupsAfter wsDungeonName s s' chosen)
    {dwTeamId : DWORD} {g : CrossAreaTeamGroup}
    (hg : s'.mapCrossAreaTeamGroup[dwTeamId]? = some g) :
    s.mapCrossAreaTeamGroup[dwTeamId]? = some g ∨
      (s.mapCrossAreaTeamGroup[dwTeamId]? = none ∧ g.players = chosen ∧
        g.dwTeamId = dwTeamId ∧ g.wsDungeonName = wsDungeonName ∧
        dwTeamId = UInt32.ofNat (s.dwTeamIdCount + 1)) := by
  cases chosen with
  | nil =>
      rw [h.left] at hg
      exact Or.inl hg
  | cons captain others =>
      rw [h.left] at hg
      by_cases hid : UInt32.ofNat (s.dwTeamIdCount + 1) = dwTeamId
      · rw [← hid] at hg ⊢
        cases hold : s.mapCrossAreaTeamGroup[
            UInt32.ofNat (s.dwTeamIdCount + 1)]? with
        | none =>
            rw [OrderedMaps.getElem?_insertIfNew_of_none _ hold] at hg
            cases hg
            exact Or.inr ⟨rfl, rfl, rfl, rfl, rfl⟩
        | some old =>
            rw [OrderedMaps.getElem?_insertIfNew_of_some _ hold, hold] at hg
            exact Or.inl hg
      · rw [OrderedMaps.getElem?_insertIfNew_of_ne _ _ hid] at hg
        exact Or.inl hg

theorem GroupsAfter.count_le {wsDungeonName : WString} {s s' : CCrossAreaTeam}
    {chosen : List CrossAreaTeamMember}
    (h : GroupsAfter wsDungeonName s s' chosen) :
    s.dwTeamIdCount ≤ s'.dwTeamIdCount := by
  cases chosen with
  | nil => exact Nat.le_of_eq h.right.symm
  | cons captain others =>
      rw [h.right]
      exact Nat.le_succ _

/-!
## Scheduling as one list of turns
-/

theorem schedulingSameDungeon_dungeons (wsDungeonName : WString)
    (MapMember : VecCrossAreaTeamMember) (VecMember : List CrossAreaTeamMember)
    (Classes : VecClasses) (s : CCrossAreaTeam) :
    (schedulingSameDungeon wsDungeonName MapMember VecMember Classes
      s).2.1.setDungeonName = s.setDungeonName := by
  cases hfill : FirstFit.fill fitsSlot Classes.slots VecMember with
  | none => rw [schedulingSameDungeon_of_none hfill]
  | some chosen =>
      rcases schedulingSameDungeon_of_some wsDungeonName MapMember s hfill
        with ⟨_, heq⟩
      rw [heq]
      rfl

theorem schedulingTurn_dungeons (ulNow : ULONGLONG)
    (wsGroupTitle : WString) (s : CCrossAreaTeam) (wsDungeonName : WString) :
    (schedulingTurn ulNow wsGroupTitle s wsDungeonName).setDungeonName =
      s.setDungeonName := by
  unfold schedulingTurn
  split
  · rfl
  · split
    · rfl
    · simp only
      split
      · exact schedulingSameDungeon_dungeons _ _ _ _ _
      · rfl

def turns (s : CCrossAreaTeam) : List (WString × WString) :=
  s.mapTeamMember.keys.flatMap fun wsGroupTitle =>
    s.setDungeonName.toList.map fun wsDungeonName =>
      (wsGroupTitle, wsDungeonName)

def afterTurns (ulNow : ULONGLONG) (s : CCrossAreaTeam)
    (pairs : List (WString × WString)) : CCrossAreaTeam :=
  pairs.foldl (fun s pair => schedulingTurn ulNow pair.1 s pair.2) s

theorem afterTurns_append (ulNow : ULONGLONG) (s : CCrossAreaTeam)
    (pairs pairs' : List (WString × WString)) :
    afterTurns ulNow s (pairs ++ pairs') =
      afterTurns ulNow (afterTurns ulNow s pairs) pairs' :=
  List.foldl_append

theorem mem_turns {s : CCrossAreaTeam} {wsGroupTitle wsDungeonName : WString} :
    (wsGroupTitle, wsDungeonName) ∈ turns s ↔
      wsGroupTitle ∈ s.mapTeamMember ∧ wsDungeonName ∈ s.setDungeonName := by
  simp [turns]

theorem scheduling_eq_turns (ulNow : ULONGLONG) (s : CCrossAreaTeam) :
    scheduling ulNow s = afterTurns ulNow s (turns s) := by
  have hloop : forall (titles : List WString) (t : CCrossAreaTeam),
      t.setDungeonName = s.setDungeonName ->
      titles.foldl (schedulingTitle ulNow) t =
        afterTurns ulNow t (titles.flatMap fun wsGroupTitle =>
          s.setDungeonName.toList.map fun wsDungeonName =>
            (wsGroupTitle, wsDungeonName)) := by
    intro titles
    induction titles with
    | nil => exact fun _ _ => rfl
    | cons title titles ih =>
        intro t ht
        have htitle : schedulingTitle ulNow t title =
            afterTurns ulNow t (s.setDungeonName.toList.map fun D =>
              (title, D)) := by
          rw [schedulingTitle, afterTurns, List.foldl_map, ht]
        have hnext :
            (schedulingTitle ulNow t title).setDungeonName =
              s.setDungeonName := by
          refine foldl_invariant
            (fun t : CCrossAreaTeam => t.setDungeonName = s.setDungeonName)
            (schedulingTurn ulNow title) ?_ _ ht
          intro t D ht
          rw [schedulingTurn_dungeons, ht]
        rw [List.foldl_cons, ih _ hnext, List.flatMap_cons, afterTurns_append,
          htitle]
  exact hloop s.mapTeamMember.keys s rfl

end CCrossAreaTeam
end BnsKorea
