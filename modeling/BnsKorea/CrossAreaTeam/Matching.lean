import Mathlib.Data.List.FinRange
import BnsKorea.CrossAreaTeam.Invariant

/-!
# The teams that are formed

Every team is well formed for its dungeon at the time of the call that formed
it, and no call leaves a team behind that could have been formed: the players
of a state without a match only admit one together with the caller, who leaves
the queue with the first team that needs it.
-/

namespace BnsKorea

open Library

namespace CCrossAreaTeam

/-!
## The class lists never change
-/

theorem TurnOutcome.classes {ulNow : ULONGLONG} {title wsDungeonName : WString}
    {s s' : CCrossAreaTeam} (h : TurnOutcome ulNow title wsDungeonName s s') :
    s'.mapDungeonClasses = s.mapDungeonClasses := by
  rcases h.choice with hsame | ⟨_, _, heffect⟩
  · rw [hsame]
  · exact heffect.classes

theorem scheduling_classes {ulNow : ULONGLONG} {s : CCrossAreaTeam}
    (hc : Consistent ulNow s) :
    (scheduling ulNow s).mapDungeonClasses = s.mapDungeonClasses := by
  apply scheduling_keeps ulNow
    (fun t => t.mapDungeonClasses = s.mapDungeonClasses) _ hc rfl
  intro _ _ t t' _ ht hout
  rw [hout.classes, ht]

theorem apply_classes (T : MyTools) {ulNow : ULONGLONG} (call : Call)
    {s : CCrossAreaTeam} (hs : Consistent ulNow s) :
    (apply T ulNow call s).mapDungeonClasses = s.mapDungeonClasses := by
  cases call with
  | joinTeam Member =>
      cases hgroup : existCrossAreaTeamGroup T (stamped ulNow Member) s with
      | some g => rw [apply, joinTeam_of_some hgroup]
      | none =>
          rw [apply, joinTeam_of_none hgroup]
          have hpolled := scheduling_classes (polled_consistent hgroup hs)
          exact hpolled.trans (entered_classes _ hs.records)
  | deleteTeamGroup a => exact (deleteTeamGroup_effect a s).classes
  | deleteTeamMember a =>
      exact (deleteTeamMember_effect
        fun t t' => hs.records.oneTitle t t' a).classes

theorem Reachable.classes {T : MyTools}
    {Classes : Std.TreeMap WString VecClasses} {c : Clocked CCrossAreaTeam}
    (h : Reachable T Classes c) : c.state.mapDungeonClasses = Classes := by
  apply Reachable.keeps (fun _ s => s.mapDungeonClasses = Classes) rfl _ h
  intro ulNow ulLater call s hs hlater hclasses
  exact (apply_classes T call (hs.later hlater)).trans hclasses

/-!
## Being alive
-/

theorem isKeepALive_iff {ulNow : ULONGLONG} {r : CrossAreaTeamMember}
    (htick : r.ulTick ≤ ulNow) :
    isKeepALive ulNow r = true ↔
      ulNow.toNat ≤ r.ulTick.toNat + 30 * 1000 := by
  have hle := UInt64.le_iff_toNat_le.mp htick
  rw [isKeepALive, decide_eq_true_iff, UInt64.le_iff_toNat_le,
    UInt64.toNat_sub_of_le _ _ htick]
  have hlimit : (30 * 1000 : UInt64).toNat = 30 * 1000 := by decide
  rw [hlimit]
  omega

theorem isKeepALive_earlier {ulNow ulLater : ULONGLONG}
    {r : CrossAreaTeamMember} (htick : r.ulTick ≤ ulNow) (hlater : ulNow ≤ ulLater)
    (h : isKeepALive ulLater r = true) : isKeepALive ulNow r = true := by
  rw [isKeepALive_iff (UInt64.le_trans htick hlater)] at h
  rw [isKeepALive_iff htick]
  have hle := UInt64.le_iff_toNat_le.mp hlater
  omega

/-!
## Well-formed teams
-/

/-- A team as the class list of its dungeon wants it, at the time `ulNow`. -/
structure WellFormed (ulNow : ULONGLONG) (Classes : VecClasses)
    (g : CrossAreaTeamGroup) : Prop where
  size : g.players.length = Classes.slots.length
  slots : List.Forall₂
    (fun k (m : CrossAreaTeamMember) =>
      k = TeamMeberClasses.any ∨ m.emClasses = k) Classes.slots g.players
  titled : exists title, forall m, m ∈ g.players -> m.wsGroupTitle = title
  listed : forall m, m ∈ g.players -> g.wsDungeonName ∈ m.setDungoenName
  alive : forall m, m ∈ g.players -> m.ulTick ≤ ulNow ∧
    ulNow.toNat ≤ m.ulTick.toNat + 30 * 1000

theorem fitsSlot_iff {k : TeamMeberClasses} {m : CrossAreaTeamMember} :
    fitsSlot k m = true ↔ k = TeamMeberClasses.any ∨ m.emClasses = k := by
  simp [fitsSlot]

theorem wellFormed_of_fill {ulNow : ULONGLONG} {title : WString}
    {s : CCrossAreaTeam} (hs : RecordsAgree ulNow s) {Classes : VecClasses}
    {g : CrossAreaTeamGroup}
    (hfill : FirstFit.fill fitsSlot Classes.slots
      (candidates ulNow title g.wsDungeonName s) = some g.players) :
    WellFormed ulNow Classes g := by
  have hmember : forall m, m ∈ g.players ->
      s.record title m.account = some m ∧ isKeepALive ulNow m = true ∧
        g.wsDungeonName ∈ m.setDungoenName :=
    fun m hm => hs.of_candidate (FirstFit.fill_subset hfill hm)
  constructor
  case size => exact FirstFit.fill_length hfill
  case slots =>
    exact List.Forall₂.imp (fun _ _ h => fitsSlot_iff.mp h)
      (FirstFit.fill_forall₂ hfill)
  case titled =>
    exact ⟨title, fun m hm => hs.titled title _ m (hmember m hm).left⟩
  case listed => exact fun m hm => (hmember m hm).right.right
  case alive =>
    intro m hm
    have htick := hs.ticks title _ m (hmember m hm).left
    exact ⟨htick, (isKeepALive_iff htick).mp (hmember m hm).right.left⟩

theorem TurnOutcome.newTeam {ulNow : ULONGLONG} {title wsDungeonName : WString}
    {s s' : CCrossAreaTeam} (h : TurnOutcome ulNow title wsDungeonName s s')
    (hs : RecordsAgree ulNow s) {dwTeamId : DWORD} {g : CrossAreaTeamGroup}
    (hg : s'.mapCrossAreaTeamGroup[dwTeamId]? = some g) :
    s.mapCrossAreaTeamGroup[dwTeamId]? = some g ∨
      (s.mapCrossAreaTeamGroup[dwTeamId]? = none ∧
        exists Classes, s.mapDungeonClasses[g.wsDungeonName]? = some Classes ∧
          WellFormed ulNow Classes g) := by
  cases h with
  | unknown _ hsame =>
      rw [hsame] at hg
      exact Or.inl hg
  | nobody _ _ _ heffect =>
      rw [heffect.groups.left] at hg
      exact Or.inl hg
  | formed Classes chosen hclasses hfill heffect =>
      rcases heffect.groups.source hg with hold | ⟨hnone, hplayers, _, hname, _⟩
      · exact Or.inl hold
      · rw [← hplayers, ← hname] at hfill
        rw [← hname] at hclasses
        exact Or.inr ⟨hnone, Classes, hclasses, wellFormed_of_fill hs hfill⟩

theorem scheduling_newTeam {ulNow : ULONGLONG} {s : CCrossAreaTeam}
    (hc : Consistent ulNow s) {dwTeamId : DWORD} {g : CrossAreaTeamGroup}
    (hg : (scheduling ulNow s).mapCrossAreaTeamGroup[dwTeamId]? = some g) :
    s.mapCrossAreaTeamGroup[dwTeamId]? = some g ∨
      (s.mapCrossAreaTeamGroup[dwTeamId]? = none ∧
        exists Classes, s.mapDungeonClasses[g.wsDungeonName]? = some Classes ∧
          WellFormed ulNow Classes g) := by
  -- teams are only added, so a key free before a turn was free at the start
  let I : CCrossAreaTeam -> Prop := fun t =>
    t.mapDungeonClasses = s.mapDungeonClasses ∧
      (forall (id : DWORD) (g : CrossAreaTeamGroup),
        s.mapCrossAreaTeamGroup[id]? = some g ->
          t.mapCrossAreaTeamGroup[id]? = some g) ∧
      forall (id : DWORD) (g : CrossAreaTeamGroup),
        t.mapCrossAreaTeamGroup[id]? = some g ->
          s.mapCrossAreaTeamGroup[id]? = some g ∨
            (s.mapCrossAreaTeamGroup[id]? = none ∧
              exists Classes,
                s.mapDungeonClasses[g.wsDungeonName]? = some Classes ∧
                  WellFormed ulNow Classes g)
  have hI : I (scheduling ulNow s) := by
    refine scheduling_keeps ulNow I ?_ hc
      ⟨rfl, fun _ _ h => h, fun _ _ h => Or.inl h⟩
    intro title D t t' ht hboth hout
    rcases hboth with ⟨hclasses, hkept, hsource⟩
    refine ⟨hout.classes.trans hclasses, ?_, ?_⟩
    · intro id g hg
      rcases hout.choice with hsame | ⟨_, _, heffect⟩
      · rw [hsame]
        exact hkept id g hg
      · exact heffect.groups.keeps (hkept id g hg)
    · intro id g hg
      rcases hout.newTeam ht.records hg with hold | ⟨hfree, hformed⟩
      · exact hsource id g hold
      · rw [hclasses] at hformed
        refine Or.inr ⟨?_, hformed⟩
        cases hs : s.mapCrossAreaTeamGroup[id]? with
        | none => rfl
        | some old =>
            rw [hkept id old hs] at hfree
            cases hfree
  exact hI.right.right dwTeamId g hg

/--
Every team found after a call was there before, or the call formed it under a
free id and it is well formed for its dungeon at the time of the call.
-/
theorem Reachable.team_wellFormed {T : MyTools}
    {Classes : Std.TreeMap WString VecClasses} {c : Clocked CCrossAreaTeam}
    (h : Reachable T Classes c) {ulNow : ULONGLONG} (hlater : c.now ≤ ulNow)
    (call : Call) {dwTeamId : DWORD} {g : CrossAreaTeamGroup}
    (hg : (apply T ulNow call c.state).mapCrossAreaTeamGroup[dwTeamId]? =
      some g) :
    c.state.mapCrossAreaTeamGroup[dwTeamId]? = some g ∨
      (c.state.mapCrossAreaTeamGroup[dwTeamId]? = none ∧
        exists VecClasses, Classes[g.wsDungeonName]? = some VecClasses ∧
          WellFormed ulNow VecClasses g) := by
  have hc := h.consistent.later hlater
  cases call with
  | joinTeam Member =>
      cases hgroup :
          existCrossAreaTeamGroup T (stamped ulNow Member) c.state with
      | some g =>
          rw [apply, joinTeam_of_some hgroup] at hg
          exact Or.inl hg
      | none =>
          rw [apply, joinTeam_of_none hgroup] at hg
          have hnew := scheduling_newTeam (polled_consistent hgroup hc) hg
          rw [entered_classes _ hc.records, entered_groups _ hc.records,
            h.classes] at hnew
          exact hnew
  | deleteTeamGroup a =>
      exact Or.inl ((deleteTeamGroup_effect a c.state).groups dwTeamId g hg)
  | deleteTeamMember a =>
      have heffect := deleteTeamMember_effect fun t t' =>
        hc.records.oneTitle t t' a
      rw [apply, heffect.groups] at hg
      exact Or.inl hg

/-- In the small run the second poll forms the team with the id 1. -/
theorem duoState_team_wellFormed :
    exists (g : CrossAreaTeamGroup) (VecClasses : VecClasses),
      duoTable[g.wsDungeonName]? = some VecClasses ∧
        WellFormed 20 VecClasses g := by
  let c := (machine MyTools.standard).play (duoCalls.take 1) (initial duoTable)
  have hc : Reachable MyTools.standard duoTable c :=
    Machine.Admits.reaches (by decide)
  let poll := Call.joinTeam
    (duoPlayer (L "boris") (L "red") TeamMeberClasses.assassin)
  have hsome : ((apply MyTools.standard 20 poll
      c.state).mapCrossAreaTeamGroup[(1 : DWORD)]?).isSome := by
    decide
  rcases Option.isSome_iff_exists.mp hsome with ⟨g, hg⟩
  have hnone : (c.state.mapCrossAreaTeamGroup[(1 : DWORD)]?).isNone := by
    decide
  rcases Reachable.team_wellFormed hc (by decide) poll hg with
    hold | ⟨_, VecClasses, hclasses, hwell⟩
  · rw [hold] at hnone
    cases hnone
  · exact ⟨g, VecClasses, hclasses, hwell⟩

/-!
## No match is missed

`q` singles out the players under consideration: all of them, or all but the
caller.
-/

/-- The first-fit search finds no team for any title and dungeon inside `q`. -/
def NoMatchAmong (q : CrossAreaTeamMember -> Bool) (ulNow : ULONGLONG)
    (s : CCrossAreaTeam) : Prop :=
  forall title wsDungeonName Classes,
    s.mapDungeonClasses[wsDungeonName]? = some Classes ->
      FirstFit.fill fitsSlot Classes.slots
        ((candidates ulNow title wsDungeonName s).filter q) = none

def everybody : CrossAreaTeamMember -> Bool := fun _ => true

@[simp] theorem filter_everybody (xs : List CrossAreaTeamMember) :
    xs.filter everybody = xs :=
  List.filter_eq_self.mpr fun _ _ => rfl

def others (a : WString) : CrossAreaTeamMember -> Bool :=
  fun m => !(m.account == a)

@[simp] theorem others_iff {a : WString} {m : CrossAreaTeamMember} :
    others a m = true ↔ m.account ≠ a := by
  simp [others]

theorem candidates_filter_sublist {ulNow ulLater : ULONGLONG}
    {title wsDungeonName : WString} {q q' : CrossAreaTeamMember -> Bool}
    {s s' : CCrossAreaTeam}
    (h : forall a r, s'.record title a = some r ->
      isKeepALive ulLater r = true -> q' r = true ->
        s.record title a = some r ∧ isKeepALive ulNow r = true ∧ q r = true) :
    ((candidates ulLater title wsDungeonName s').filter q').Sublist
      ((candidates ulNow title wsDungeonName s).filter q) := by
  rw [candidates, candidates, List.filter_map, List.filter_map,
    List.filter_filter, List.filter_filter]
  apply List.Sublist.map
  apply OrderedMaps.toList_filter_sublist
  intro a r hr htest
  simp only [Function.comp_apply, Bool.and_eq_true] at htest ⊢
  rcases htest with ⟨hq, halive, hdungeon⟩
  rcases h a r hr halive hq with ⟨hrecord, halive', hq'⟩
  exact ⟨hrecord, hq', halive', hdungeon⟩

theorem NoMatchAmong.of_records {ulNow ulLater : ULONGLONG}
    {q q' : CrossAreaTeamMember -> Bool} {s s' : CCrossAreaTeam}
    (hclasses : s'.mapDungeonClasses = s.mapDungeonClasses)
    (hrecords : forall title a r, s'.record title a = some r ->
      isKeepALive ulLater r = true -> q' r = true ->
        s.record title a = some r ∧ isKeepALive ulNow r = true ∧ q r = true)
    (h : NoMatchAmong q ulNow s) : NoMatchAmong q' ulLater s' := by
  intro title D Classes hD
  rw [hclasses] at hD
  exact FirstFit.fill_eq_none_of_sublist
    (candidates_filter_sublist (hrecords title)) (h title D Classes hD)

theorem NoMatchAmong.later {ulNow ulLater : ULONGLONG}
    {q : CrossAreaTeamMember -> Bool} {s : CCrossAreaTeam}
    (hs : RecordsAgree ulNow s) (hlater : ulNow ≤ ulLater)
    (h : NoMatchAmong q ulNow s) : NoMatchAmong q ulLater s := by
  apply h.of_records rfl
  intro title a r hr halive hq
  exact ⟨hr, isKeepALive_earlier (hs.ticks title a r hr) hlater halive, hq⟩

theorem NoMatchAmong.entered {ulNow ulTick : ULONGLONG}
    (Member : CrossAreaTeamMember) {s : CCrossAreaTeam}
    (hs : Consistent ulTick s) (hs' : Consistent ulTick (entered Member s))
    (h : NoMatchAmong everybody ulNow s) :
    NoMatchAmong (others Member.account) ulNow (entered Member s) := by
  apply h.of_records (entered_classes Member hs.records)
  intro title a r hr halive hother
  have ha : a ≠ Member.account := by
    rw [← hs'.records.keyed title a r hr]
    exact others_iff.mp hother
  rcases entered_cases Member hs.records with ⟨_, heffect⟩ | ⟨_, heffect⟩
  · rw [heffect.others title a (Or.inr ha)] at hr
    exact ⟨hr, halive, rfl⟩
  · rw [heffect.others title a (Or.inr ha)] at hr
    exact ⟨hr, halive, rfl⟩

theorem NoMatchAmong.mem_chosen {ulNow : ULONGLONG}
    {title wsDungeonName a : WString} {s : CCrossAreaTeam}
    {Classes : VecClasses} {chosen : List CrossAreaTeamMember}
    (h : NoMatchAmong (others a) ulNow s)
    (hclasses : s.mapDungeonClasses[wsDungeonName]? = some Classes)
    (hfill : FirstFit.fill fitsSlot Classes.slots
      (candidates ulNow title wsDungeonName s) = some chosen) :
    a ∈ chosen.map CrossAreaTeamMember.account := by
  by_contra ha
  have hothers : forall m, m ∈ chosen -> others a m = true := by
    intro m hm
    rw [others_iff]
    intro hma
    exact ha (List.mem_map.mpr ⟨m, hm, hma⟩)
  have hnone := h title wsDungeonName Classes hclasses
  rw [FirstFit.fill_filter hfill hothers] at hnone
  cases hnone

theorem NoMatchAmong.formed {ulNow ulTick : ULONGLONG}
    {title wsDungeonName a : WString} {s s' : CCrossAreaTeam}
    {chosen : List CrossAreaTeamMember}
    (hs : RecordsAgree ulTick s)
    (hchosen : forall m, m ∈ chosen ->
      m ∈ candidates ulNow title wsDungeonName s)
    (heffect : TurnEffect ulNow title wsDungeonName chosen s s')
    (ha : a ∈ chosen.map CrossAreaTeamMember.account)
    (h : NoMatchAmong (others a) ulNow s) :
    NoMatchAmong everybody ulNow s' := by
  apply h.of_records heffect.classes
  intro title' b r hr halive _
  rcases heffect.record_of hr with ⟨hrecord, hleft⟩
  refine ⟨hrecord, halive, others_iff.mpr ?_⟩
  rw [hs.keyed title' b r hrecord]
  intro hb
  rw [hb] at hrecord hleft
  -- the caller waited under this title only
  rcases List.mem_map.mp ha with ⟨m, hm, hma⟩
  have hm' := (hs.of_candidate (hchosen m hm)).left
  rw [hma] at hm'
  have htitle := hs.oneTitle title' title a ⟨r, hrecord⟩ ⟨m, hm'⟩
  exact (hleft htitle).right ha

theorem TurnOutcome.candidates_sublist {ulNow : ULONGLONG}
    {title wsDungeonName : WString} {s s' : CCrossAreaTeam}
    (h : TurnOutcome ulNow title wsDungeonName s s') (title' D : WString)
    (q : CrossAreaTeamMember -> Bool) :
    ((candidates ulNow title' D s').filter q).Sublist
      ((candidates ulNow title' D s).filter q) := by
  apply candidates_filter_sublist
  intro a r hr halive hq
  rcases h.choice with hsame | ⟨_, _, heffect⟩
  · rw [hsame] at hr
    exact ⟨hr, halive, hq⟩
  · exact ⟨(heffect.record_of hr).left, halive, hq⟩

theorem NoMatchAmong.turn {ulNow : ULONGLONG} {q : CrossAreaTeamMember -> Bool}
    {title wsDungeonName : WString} {s s' : CCrossAreaTeam}
    (hout : TurnOutcome ulNow title wsDungeonName s s')
    (h : NoMatchAmong q ulNow s) : NoMatchAmong q ulNow s' := by
  intro title' D Classes hD
  rw [hout.classes] at hD
  exact FirstFit.fill_eq_none_of_sublist
    (hout.candidates_sublist title' D q) (h title' D Classes hD)

theorem TurnOutcome.noMatch {ulNow : ULONGLONG} {title wsDungeonName a : WString}
    {s s' : CCrossAreaTeam} (hout : TurnOutcome ulNow title wsDungeonName s s')
    (hs : RecordsAgree ulNow s) (h : NoMatchAmong (others a) ulNow s)
    {Classes : VecClasses}
    (hclasses : s.mapDungeonClasses[wsDungeonName]? = some Classes) :
    FirstFit.fill fitsSlot Classes.slots
      ((candidates ulNow title wsDungeonName s').filter everybody) = none := by
  cases hout with
  | unknown hnone _ =>
      rw [hnone] at hclasses
      cases hclasses
  | nobody Classes' hclasses' hfill heffect =>
      rw [hclasses'] at hclasses
      cases hclasses
      have hsub := (TurnOutcome.nobody Classes hclasses' hfill
        heffect).candidates_sublist title wsDungeonName everybody
      refine FirstFit.fill_eq_none_of_sublist
        (hsub.trans List.filter_sublist) hfill
  | formed Classes' chosen hclasses' hfill heffect =>
      have ha := h.mem_chosen hclasses' hfill
      have hformed := h.formed hs
        (fun m hm => FirstFit.fill_subset hfill hm) heffect ha
      rw [← heffect.classes] at hclasses
      exact hformed title wsDungeonName Classes hclasses

theorem scheduling_noMatch {ulNow : ULONGLONG} {a : WString}
    {s : CCrossAreaTeam} (hc : Consistent ulNow s)
    (h : NoMatchAmong (others a) ulNow s) :
    NoMatchAmong everybody ulNow (scheduling ulNow s) := by
  intro title D Classes hD
  rw [scheduling_classes hc] at hD
  cases hcandidates : candidates ulNow title D (scheduling ulNow s) with
  | nil =>
      rw [List.filter_nil]
      exact FirstFit.fill_eq_none_of_length_lt
        (List.length_pos_of_ne_nil Classes.slots_ne_nil)
  | cons r rs =>
      -- a candidate's title and dungeon are among those the loop goes over
      have hr : r ∈ candidates ulNow title D (scheduling ulNow s) := by
        rw [hcandidates]
        exact List.mem_cons_self
      rcases mem_candidates.mp hr with ⟨b, hrecord, _, hlists⟩
      have hbefore := scheduling_record hc hrecord
      have htitle : title ∈ s.mapTeamMember := by
        rcases waitsUnder_iff.mp ⟨r, hbefore⟩ with ⟨MapMember, hmap, _⟩
        rw [Std.TreeMap.mem_iff_isSome_getElem?, hmap]
        rfl
      have hdungeon := hc.records.listed title b r hbefore D hlists
      rw [← hcandidates]
      refine scheduling_done ulNow
        (fun t => NoMatchAmong (others a) ulNow t ∧
          t.mapDungeonClasses = s.mapDungeonClasses)
        (fun title D t => forall Classes,
          s.mapDungeonClasses[D]? = some Classes ->
            FirstFit.fill fitsSlot Classes.slots
              ((candidates ulNow title D t).filter everybody) = none)
        ?_ ?_ ?_ hc ⟨h, rfl⟩ htitle hdungeon Classes hD
      · intro title D t t' _ hboth hout
        rcases hboth with ⟨ht, hclasses⟩
        exact ⟨ht.turn hout, hout.classes.trans hclasses⟩
      · intro title D t t' ht hboth hout Classes hC
        rcases hboth with ⟨hnone, hclasses⟩
        rw [← hclasses] at hC
        exact hout.noMatch ht.records hnone hC
      · intro title D title' D' t t' _ _ hout hdone Classes hC
        exact FirstFit.fill_eq_none_of_sublist
          (hout.candidates_sublist title D everybody) (hdone Classes hC)

theorem apply_noMatch (T : MyTools) {ulNow : ULONGLONG} (call : Call)
    {s : CCrossAreaTeam} (hs : Consistent ulNow s)
    (h : NoMatchAmong everybody ulNow s) :
    NoMatchAmong everybody ulNow (apply T ulNow call s) := by
  cases call with
  | joinTeam Member =>
      cases hgroup : existCrossAreaTeamGroup T (stamped ulNow Member) s with
      | some g =>
          rw [apply, joinTeam_of_some hgroup]
          exact h
      | none =>
          rw [apply, joinTeam_of_none hgroup]
          have hpolled := polled_consistent hgroup hs
          exact scheduling_noMatch hpolled
            (h.entered (stamped ulNow Member) hs hpolled)
  | deleteTeamGroup a =>
      have heffect := deleteTeamGroup_effect a s
      apply h.of_records heffect.classes
      intro title b r hr halive hq
      rw [record, waitingUnder, heffect.records] at hr
      exact ⟨hr, halive, hq⟩
  | deleteTeamMember a =>
      have heffect := deleteTeamMember_effect fun t t' =>
        hs.records.oneTitle t t' a
      apply h.of_records heffect.classes
      intro title b r hr halive hq
      have hb : b ≠ a := by
        intro hb
        rw [hb, heffect.self] at hr
        cases hr
      rw [heffect.others title b hb] at hr
      exact ⟨hr, halive, hq⟩

theorem noMatch_initial (ulNow : ULONGLONG)
    (Classes : Std.TreeMap WString VecClasses) :
    NoMatchAmong everybody ulNow { mapDungeonClasses := Classes } := by
  intro title D C _
  have hempty :
      candidates ulNow title D { mapDungeonClasses := Classes } = [] := by
    simp [candidates, waitingUnder]
  rw [hempty]
  exact FirstFit.fill_eq_none_of_length_lt
    (List.length_pos_of_ne_nil C.slots_ne_nil)

theorem Reachable.noMatch {T : MyTools}
    {Classes : Std.TreeMap WString VecClasses} {c : Clocked CCrossAreaTeam}
    (h : Reachable T Classes c) : NoMatchAmong everybody c.now c.state := by
  apply Reachable.keeps (NoMatchAmong everybody) (noMatch_initial 0 Classes) _ h
  intro ulNow ulLater call s hs hlater hnone
  exact apply_noMatch T call (hs.later hlater) (hnone.later hs.records hlater)

/-!
## No assignment is missed
-/

theorem fitsSlot_eq : fitsSlot =
    FirstFit.fitsClass TeamMeberClasses.any CrossAreaTeamMember.emClasses :=
  rfl

/-- A seating: each slot gets a player of its own, alive, listed and fitting. -/
structure Seating (ulNow : ULONGLONG) (title wsDungeonName : WString)
    (Classes : VecClasses) (s : CCrossAreaTeam)
    (seat : Fin Classes.slots.length -> CrossAreaTeamMember) : Prop where
  waits : forall i, s.record title (seat i).account = some (seat i)
  alive : forall i, isKeepALive ulNow (seat i) = true
  listed : forall i, wsDungeonName ∈ (seat i).setDungoenName
  fits : forall i, Classes.slots.get i = TeamMeberClasses.any ∨
    (seat i).emClasses = Classes.slots.get i
  injective : forall i j, (seat i).account = (seat j).account -> i = j

theorem Seating.assignable {ulNow : ULONGLONG} {title wsDungeonName : WString}
    {Classes : VecClasses} {s : CCrossAreaTeam}
    {seat : Fin Classes.slots.length -> CrossAreaTeamMember}
    (h : Seating ulNow title wsDungeonName Classes s seat) :
    FirstFit.Assignable TeamMeberClasses.any CrossAreaTeamMember.emClasses
      Classes.slots (candidates ulNow title wsDungeonName s) := by
  refine ⟨List.ofFn seat, List.subperm_of_subset ?_ ?_, ?_⟩
  · rw [List.nodup_ofFn]
    intro i j hij
    exact h.injective i j (by rw [hij])
  · intro m hm
    rcases List.mem_ofFn.mp hm with ⟨i, hi⟩
    rw [← hi]
    exact mem_candidates.mpr ⟨_, h.waits i, h.alive i, h.listed i⟩
  · rw [List.forall₂_iff_get]
    refine ⟨List.length_ofFn.symm, ?_⟩
    intro i hi hi'
    rw [List.get_ofFn]
    exact fitsSlot_iff.mpr (h.fits ⟨i, hi⟩)

/--
If every class list puts its specific classes before the free slots, the alive
waiting players of a title that list a dungeon never admit a seating, neither
right after a call nor at any later time before the next one.
-/
theorem Reachable.no_missed_match {T : MyTools}
    {Classes : Std.TreeMap WString VecClasses} {c : Clocked CCrossAreaTeam}
    (h : Reachable T Classes c)
    (hfirst : forall (wsDungeonName : WString) (VecClasses : VecClasses),
      Classes[wsDungeonName]? = some VecClasses ->
        FirstFit.SpecificFirst TeamMeberClasses.any VecClasses.slots)
    {ulNow : ULONGLONG} (hlater : c.now ≤ ulNow)
    (title : WString) {wsDungeonName : WString} {VecClasses : VecClasses}
    (hclasses : Classes[wsDungeonName]? = some VecClasses) :
    ¬ exists seat, Seating ulNow title wsDungeonName VecClasses c.state seat := by
  intro hseats
  rcases hseats with ⟨seat, hseat⟩
  have hsome := (FirstFit.fill_isSome_iff_assignable
    (hfirst wsDungeonName VecClasses hclasses)).mpr hseat.assignable
  have hnone := (h.noMatch.later h.consistent.records hlater) title
    wsDungeonName VecClasses (by rw [h.classes, hclasses])
  rw [filter_everybody, fitsSlot_eq] at hnone
  rw [hnone] at hsome
  cases hsome

/-- In the small run the player left alone cannot fill the dungeon for two. -/
theorem duoState_no_missed_match :
    ¬ exists seat, Seating 60 (L "blue") (L "简单的雪人洞")
      ⟨[TeamMeberClasses.assassin, TeamMeberClasses.any], by decide⟩
      duoState.state seat := by
  refine Reachable.no_missed_match duoState_reachable ?_ (by decide) (L "blue") ?_
  · intro D C hC
    rw [duoTable, OrderedMaps.getElem?_insert] at hC
    split at hC
    · cases hC
      simp [FirstFit.SpecificFirst, TeamMeberClasses.assassin,
        TeamMeberClasses.any]
    · simp at hC
  · exact OrderedMaps.getElem?_insert_self _ _ _

end CCrossAreaTeam
end BnsKorea
