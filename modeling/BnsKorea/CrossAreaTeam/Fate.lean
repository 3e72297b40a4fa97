import Mathlib.Data.List.Induction
import BnsKorea.CrossAreaTeam.Matching

/-!
# What becomes of a waiting player

Through the turns of one scheduling a waiting record stays as it is, or a turn
chooses it for a team, or it timed out and is dropped.  From this follow what a
poll does to the caller and to everybody else, and what steady polling is worth.
-/

namespace BnsKorea

open Library

namespace CCrossAreaTeam

/-!
## One turn
-/

theorem TurnEffect.inGroup_cases {ulNow : ULONGLONG}
    {title wsDungeonName : WString} {chosen : List CrossAreaTeamMember}
    {s s' : CCrossAreaTeam}
    (h : TurnEffect ulNow title wsDungeonName chosen s s')
    {dwTeamId : DWORD} {a : WString} (ha : s'.InGroup dwTeamId a) :
    s.InGroup dwTeamId a ∨ a ∈ chosen.map CrossAreaTeamMember.account := by
  rcases ha with ⟨g, hg, hmem⟩
  rcases h.groups.source hg with hold | ⟨_, hplayers, _⟩
  · exact Or.inl ⟨g, hold, hmem⟩
  · rw [CrossAreaTeamGroup.accounts, hplayers] at hmem
    exact Or.inr hmem

theorem RecordsAgree.chosen_record {ulNow ulTick : ULONGLONG}
    {title title' wsDungeonName a : WString} {s : CCrossAreaTeam}
    (hs : RecordsAgree ulTick s) {chosen : List CrossAreaTeamMember}
    (hchosen : chosen.Subperm (candidates ulNow title wsDungeonName s))
    (ha : a ∈ chosen.map CrossAreaTeamMember.account)
    {r : CrossAreaTeamMember} (hr : s.record title' a = some r) :
    title' = title ∧ r ∈ chosen ∧ isKeepALive ulNow r = true := by
  rcases List.mem_map.mp ha with ⟨m, hm, hma⟩
  rcases hs.of_candidate (hchosen.subset hm) with ⟨hrecord, halive, _⟩
  rw [hma] at hrecord
  have htitle := hs.oneTitle title' title a ⟨r, hr⟩ ⟨m, hrecord⟩
  rw [htitle, hrecord] at hr
  cases hr
  exact ⟨htitle, hm, halive⟩

def Dropped (a : WString) (s : CCrossAreaTeam) : Prop :=
  (forall title, ¬ s.WaitsUnder title a) ∧
    forall dwTeamId, ¬ s.InGroup dwTeamId a

theorem TurnEffect.fate {ulNow ulTick : ULONGLONG}
    {title wsDungeonName : WString} {chosen : List CrossAreaTeamMember}
    {s s' : CCrossAreaTeam}
    (h : TurnEffect ulNow title wsDungeonName chosen s s')
    (hchosen : chosen.Subperm (candidates ulNow title wsDungeonName s))
    (hs : Consistent ulTick s) {title' a : WString} {r : CrossAreaTeamMember}
    (hr : s.record title' a = some r) :
    s'.record title' a = some r ∨ r ∈ chosen ∨
      (isKeepALive ulNow r = false ∧ Dropped a s') := by
  by_cases ha : a ∈ chosen.map CrossAreaTeamMember.account
  · exact Or.inr (Or.inl (hs.records.chosen_record hchosen ha hr).right.left)
  · by_cases hstays : title' = title -> isKeepALive ulNow r = true
    · exact Or.inl (h.record_keeps hr fun htitle => ⟨hstays htitle, ha⟩)
    · rw [Classical.not_imp, Bool.not_eq_true] at hstays
      rcases hstays with ⟨htitle, hdead⟩
      refine Or.inr (Or.inr ⟨hdead, ?_, ?_⟩)
      · intro t hwaits
        rcases hwaits with ⟨x, hx⟩
        rcases h.record_of hx with ⟨hrecord, hself⟩
        have ht := hs.records.oneTitle t title' a ⟨x, hrecord⟩ ⟨r, hr⟩
        rw [ht, hr] at hrecord
        cases hrecord
        rw [(hself (ht.trans htitle)).left] at hdead
        cases hdead
      · intro dwTeamId hin
        rcases h.inGroup_cases hin with hold | hnew
        · exact hs.teams.idle dwTeamId title' a hold ⟨r, hr⟩
        · exact ha hnew

theorem TurnEffect.dropped {ulNow ulTick : ULONGLONG}
    {title wsDungeonName : WString} {chosen : List CrossAreaTeamMember}
    {s s' : CCrossAreaTeam}
    (h : TurnEffect ulNow title wsDungeonName chosen s s')
    (hchosen : chosen.Subperm (candidates ulNow title wsDungeonName s))
    (hs : RecordsAgree ulTick s) {a : WString} (ha : Dropped a s) :
    Dropped a s' := by
  constructor
  · intro t hwaits
    rcases hwaits with ⟨x, hx⟩
    exact ha.left t ⟨x, (h.record_of hx).left⟩
  · intro dwTeamId hin
    rcases h.inGroup_cases hin with hold | hnew
    · exact ha.right dwTeamId hold
    · rcases List.mem_map.mp hnew with ⟨m, hm, hma⟩
      have hrecord := (hs.of_candidate (hchosen.subset hm)).left
      rw [hma] at hrecord
      exact ha.left title ⟨m, hrecord⟩

/-!
## All turns of a call
-/

/-- The first-fit choice of some turn of the list contains the record. -/
def ChosenIn (ulNow : ULONGLONG) (s : CCrossAreaTeam)
    (pairs : List (WString × WString)) (m : CrossAreaTeamMember) : Prop :=
  exists pre title wsDungeonName post Classes chosen,
    pairs = pre ++ (title, wsDungeonName) :: post ∧
      (afterTurns ulNow s pre).mapDungeonClasses[wsDungeonName]? =
        some Classes ∧
      FirstFit.fill fitsSlot Classes.slots
        (candidates ulNow title wsDungeonName (afterTurns ulNow s pre)) =
          some chosen ∧
      m ∈ chosen

theorem ChosenIn.append {ulNow : ULONGLONG} {s : CCrossAreaTeam}
    {pairs : List (WString × WString)} {m : CrossAreaTeamMember}
    (h : ChosenIn ulNow s pairs m) (pairs' : List (WString × WString)) :
    ChosenIn ulNow s (pairs ++ pairs') m := by
  rcases h with ⟨pre, title, D, post, Classes, chosen, hpairs, hrest⟩
  refine ⟨pre, title, D, post ++ pairs', Classes, chosen, ?_, hrest⟩
  rw [hpairs, List.append_assoc, List.cons_append]

/-- A waiting record's fate through a list of turns. -/
inductive Fate (ulNow : ULONGLONG) (title a : WString) (r : CrossAreaTeamMember)
    (s : CCrossAreaTeam) (pairs : List (WString × WString)) : Prop where
  | waits :
      (afterTurns ulNow s pairs).record title a = some r ->
      Fate ulNow title a r s pairs
  | chosen :
      ChosenIn ulNow s pairs r ->
      Fate ulNow title a r s pairs
  | timedOut :
      isKeepALive ulNow r = false -> Dropped a (afterTurns ulNow s pairs) ->
      Fate ulNow title a r s pairs

theorem afterTurns_fate {ulNow : ULONGLONG} {s : CCrossAreaTeam}
    (hc : Consistent ulNow s) {title a : WString} {r : CrossAreaTeamMember}
    (hr : s.record title a = some r) (pairs : List (WString × WString)) :
    Fate ulNow title a r s pairs := by
  induction pairs using List.reverseRecOn with
  | nil => exact Fate.waits hr
  | append_singleton pairs pair ih =>
      rcases pair with ⟨title', D⟩
      have ht := afterTurns_consistent hc pairs
      have hout := schedulingTurn_outcome ulNow title' D _
        (ht.records.keyedMap title')
      have hlast : afterTurns ulNow s (pairs ++ [(title', D)]) =
          schedulingTurn ulNow title' (afterTurns ulNow s pairs) D :=
        afterTurns_append ulNow s pairs [(title', D)]
      rw [← hlast] at hout
      cases ih with
      | chosen h => exact Fate.chosen (h.append _)
      | timedOut hdead hdropped =>
          refine Fate.timedOut hdead ?_
          rcases hout.choice with hsame | ⟨chosen, hchosen, heffect⟩
          · rw [hsame]
            exact hdropped
          · exact heffect.dropped hchosen ht.records hdropped
      | waits hwaits =>
          cases hout with
          | unknown _ hsame =>
              apply Fate.waits
              rw [hsame]
              exact hwaits
          | nobody _ _ _ heffect =>
              rcases heffect.fate List.nil_subperm ht hwaits with
                hstays | hnobody | ⟨hdead, hdropped⟩
              · exact Fate.waits hstays
              · cases hnobody
              · exact Fate.timedOut hdead hdropped
          | formed Classes chosen hclasses hfill heffect =>
              rcases heffect.fate (FirstFit.fill_subperm hfill) ht hwaits with
                hstays | hmem | ⟨hdead, hdropped⟩
              · exact Fate.waits hstays
              · exact Fate.chosen ⟨pairs, title', D, [], Classes, chosen, rfl,
                  hclasses, hfill, hmem⟩
              · exact Fate.timedOut hdead hdropped

/-!
## Chosen players get a team

A new team takes a free id as long as the counter has not run through all of
them.
-/

def IdsIssued (s : CCrossAreaTeam) : Prop :=
  forall (dwTeamId : DWORD) (g : CrossAreaTeamGroup),
    s.mapCrossAreaTeamGroup[dwTeamId]? = some g ->
      dwTeamId.toNat ≤ s.dwTeamIdCount

theorem TurnOutcome.groups {ulNow : ULONGLONG} {title wsDungeonName : WString}
    {s s' : CCrossAreaTeam} (h : TurnOutcome ulNow title wsDungeonName s s') :
    exists chosen, GroupsAfter wsDungeonName s s' chosen := by
  rcases h.choice with hsame | ⟨chosen, _, heffect⟩
  · rw [hsame]
    exact ⟨[], rfl, rfl⟩
  · exact ⟨chosen, heffect.groups⟩

theorem GroupsAfter.idsIssued {wsDungeonName : WString} {s s' : CCrossAreaTeam}
    {chosen : List CrossAreaTeamMember}
    (h : GroupsAfter wsDungeonName s s' chosen) (hs : IdsIssued s) :
    IdsIssued s' := by
  intro dwTeamId g hg
  rcases h.source hg with hold | ⟨_, hplayers, _, _, hid⟩
  · exact Nat.le_trans (hs dwTeamId g hold) h.count_le
  · cases chosen with
    | nil => cases hplayers
    | cons captain others =>
        rw [hid, h.right, UInt32.toNat_ofNat']
        exact Nat.mod_le _ _

theorem GroupsAfter.added {wsDungeonName : WString} {s s' : CCrossAreaTeam}
    {chosen : List CrossAreaTeamMember}
    (h : GroupsAfter wsDungeonName s s' chosen) (hs : IdsIssued s)
    (hcount : s'.dwTeamIdCount < 2 ^ 32) {m : CrossAreaTeamMember}
    (hm : m ∈ chosen) :
    exists (dwTeamId : DWORD) (g : CrossAreaTeamGroup),
      s'.mapCrossAreaTeamGroup[dwTeamId]? = some g ∧ m ∈ g.players := by
  cases chosen with
  | nil => cases hm
  | cons captain others =>
      rw [h.right] at hcount
      have hfree : s.mapCrossAreaTeamGroup[
          UInt32.ofNat (s.dwTeamIdCount + 1)]? = none := by
        cases hold : s.mapCrossAreaTeamGroup[
            UInt32.ofNat (s.dwTeamIdCount + 1)]? with
        | none => rfl
        | some g =>
            have hle := hs _ g hold
            rw [UInt32.toNat_ofNat', Nat.mod_eq_of_lt hcount] at hle
            omega
      have hadded := OrderedMaps.getElem?_insertIfNew_of_none
        { captain := captain
          vecMember := others
          dwTeamId := UInt32.ofNat (s.dwTeamIdCount + 1)
          wsDungeonName := wsDungeonName } hfree
      rw [← h.left] at hadded
      exact ⟨_, _, hadded, hm⟩

theorem afterTurns_groups {ulNow : ULONGLONG} {s : CCrossAreaTeam}
    (hc : Consistent ulNow s) (hids : IdsIssued s)
    (pairs : List (WString × WString)) :
    IdsIssued (afterTurns ulNow s pairs) ∧
      s.dwTeamIdCount ≤ (afterTurns ulNow s pairs).dwTeamIdCount ∧
      forall (dwTeamId : DWORD) (g : CrossAreaTeamGroup),
        s.mapCrossAreaTeamGroup[dwTeamId]? = some g ->
          (afterTurns ulNow s pairs).mapCrossAreaTeamGroup[dwTeamId]? =
            some g := by
  have hkept := afterTurns_keeps ulNow
    (fun t => IdsIssued t ∧ s.dwTeamIdCount ≤ t.dwTeamIdCount ∧
      forall (dwTeamId : DWORD) (g : CrossAreaTeamGroup),
        s.mapCrossAreaTeamGroup[dwTeamId]? = some g ->
          t.mapCrossAreaTeamGroup[dwTeamId]? = some g)
    ?_ hc ⟨hids, Nat.le_refl _, fun _ _ hg => hg⟩ pairs
  · exact hkept.right
  · intro title D t t' _ hboth hout
    rcases hboth with ⟨hids, hcount, hkept⟩
    rcases hout.groups with ⟨chosen, hgroups⟩
    exact ⟨hgroups.idsIssued hids, Nat.le_trans hcount hgroups.count_le,
      fun id g hg => hgroups.keeps (hkept id g hg)⟩

theorem ChosenIn.inGroup {ulNow : ULONGLONG} {s : CCrossAreaTeam}
    {pairs : List (WString × WString)} {m : CrossAreaTeamMember}
    (h : ChosenIn ulNow s pairs m) (hc : Consistent ulNow s)
    (hids : IdsIssued s)
    (hcount : (afterTurns ulNow s pairs).dwTeamIdCount < 2 ^ 32) :
    exists dwTeamId,
      (afterTurns ulNow s pairs).InGroup dwTeamId m.account := by
  rcases h with ⟨pre, title, D, post, Classes, chosen, hpairs, hclasses, hfill,
    hm⟩
  let t := afterTurns ulNow s pre
  let t' := schedulingTurn ulNow title t D
  have ht : Consistent ulNow t := afterTurns_consistent hc pre
  have ht' : Consistent ulNow t' := schedulingTurn_consistent title D ht
  have hend : afterTurns ulNow s pairs = afterTurns ulNow t' post := by
    rw [hpairs, afterTurns_append]
    rfl
  have hidsT : IdsIssued t := (afterTurns_groups hc hids pre).left
  have hout : TurnOutcome ulNow title D t t' :=
    schedulingTurn_outcome ulNow title D t (ht.records.keyedMap title)
  have hidsT' : IdsIssued t' := by
    rcases hout.groups with ⟨_, hgroups⟩
    exact hgroups.idsIssued hidsT
  rcases afterTurns_groups ht' hidsT' post with ⟨_, hmono, hkept⟩
  rw [hend] at hcount ⊢
  cases hout with
  | unknown hnone _ =>
      rw [hclasses] at hnone
      cases hnone
  | nobody Classes' hclasses' hnone _ =>
      rw [hclasses] at hclasses'
      cases hclasses'
      rw [hfill] at hnone
      cases hnone
  | formed Classes' chosen' hclasses' hfill' heffect =>
      rw [hclasses] at hclasses'
      cases hclasses'
      rw [hfill] at hfill'
      cases hfill'
      rcases heffect.groups.added hidsT (Nat.lt_of_le_of_lt hmono hcount) hm
        with ⟨dwTeamId, g, hg, hmem⟩
      exact ⟨dwTeamId, g, hkept dwTeamId g hg,
        List.mem_map.mpr ⟨m, hmem, rfl⟩⟩

theorem entered_count (Member : CrossAreaTeamMember) {ulTick : ULONGLONG}
    {s : CCrossAreaTeam} (hs : RecordsAgree ulTick s) :
    (entered Member s).dwTeamIdCount = s.dwTeamIdCount := by
  rcases entered_cases Member hs with ⟨_, heffect⟩ | ⟨_, heffect⟩
  · exact heffect.count
  · exact heffect.count

theorem entered_idsIssued (Member : CrossAreaTeamMember) {ulTick : ULONGLONG}
    {s : CCrossAreaTeam} (hs : RecordsAgree ulTick s) (hids : IdsIssued s) :
    IdsIssued (entered Member s) := by
  intro dwTeamId g hg
  rw [entered_groups _ hs] at hg
  rw [entered_count _ hs]
  exact hids dwTeamId g hg

theorem apply_idsIssued (T : MyTools) {ulNow : ULONGLONG} (call : Call)
    {s : CCrossAreaTeam} (hs : Consistent ulNow s) (h : IdsIssued s) :
    IdsIssued (apply T ulNow call s) := by
  cases call with
  | joinTeam Member =>
      cases hgroup : existCrossAreaTeamGroup T (stamped ulNow Member) s with
      | some g =>
          rw [apply, joinTeam_of_some hgroup]
          exact h
      | none =>
          rw [apply, joinTeam_of_none hgroup]
          have hentered := entered_idsIssued (stamped ulNow Member) hs.records h
          have hkept := afterTurns_groups (polled_consistent hgroup hs) hentered
            (turns (entered (stamped ulNow Member) s))
          rw [← scheduling_eq_turns] at hkept
          exact hkept.left
  | deleteTeamGroup a =>
      intro dwTeamId g hg
      have heffect := deleteTeamGroup_effect a s
      rw [apply, heffect.count]
      exact h dwTeamId g (heffect.groups dwTeamId g hg)
  | deleteTeamMember a =>
      intro dwTeamId g hg
      have heffect := deleteTeamMember_effect fun t t' =>
        hs.records.oneTitle t t' a
      rw [apply, heffect.groups] at hg
      rw [apply, heffect.count]
      exact h dwTeamId g hg

theorem Reachable.idsIssued {T : MyTools}
    {Classes : Std.TreeMap WString VecClasses} {c : Clocked CCrossAreaTeam}
    (h : Reachable T Classes c) : IdsIssued c.state := by
  apply Reachable.keeps (fun _ s => IdsIssued s) _ _ h
  · intro dwTeamId g hg
    simp at hg
  · intro ulNow ulLater call s hs hlater hids
    exact apply_idsIssued T call (hs.later hlater) hids

end CCrossAreaTeam
end BnsKorea
