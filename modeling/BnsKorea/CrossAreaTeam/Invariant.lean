import BnsKorea.CrossAreaTeam.Effects

/-!
# The containers of the queue stay in step

The name set, the records under each title and the group map are written at
different places.  One invariant ties the names to the records, a second one
keeps the teams apart from each other and from the waiting players; every call
preserves both.
-/

namespace BnsKorea

open Library

namespace CCrossAreaTeam

/-- Names and records agree, and a record is where its content says. -/
structure RecordsAgree (ulNow : ULONGLONG) (s : CCrossAreaTeam) : Prop where
  keyed : forall title a r, s.record title a = some r -> r.account = a
  titled : forall title a r, s.record title a = some r -> r.wsGroupTitle = title
  ticks : forall title a r, s.record title a = some r -> r.ulTick ≤ ulNow
  listed : forall title a r, s.record title a = some r ->
    forall D, D ∈ r.setDungoenName -> D ∈ s.setDungeonName
  names : forall a, a ∈ s.setTeamMemberName ↔ exists title, s.WaitsUnder title a
  oneTitle : forall title title' a, s.WaitsUnder title a ->
    s.WaitsUnder title' a -> title = title'

/-- Teams are made of different players, none of whom waits. -/
structure TeamsApart (s : CCrossAreaTeam) : Prop where
  ids : forall (dwTeamId : DWORD) (g : CrossAreaTeamGroup),
    s.mapCrossAreaTeamGroup[dwTeamId]? = some g -> g.dwTeamId = dwTeamId
  nodup : forall (dwTeamId : DWORD) (g : CrossAreaTeamGroup),
    s.mapCrossAreaTeamGroup[dwTeamId]? = some g -> g.accounts.Nodup
  apart : forall dwTeamId dwTeamId' a, s.InGroup dwTeamId a ->
    s.InGroup dwTeamId' a -> dwTeamId = dwTeamId'
  idle : forall dwTeamId title a, s.InGroup dwTeamId a -> ¬ s.WaitsUnder title a

structure Consistent (ulNow : ULONGLONG) (s : CCrossAreaTeam) : Prop where
  records : RecordsAgree ulNow s
  teams : TeamsApart s

theorem RecordsAgree.keyedMap {ulNow : ULONGLONG} {s : CCrossAreaTeam}
    (h : RecordsAgree ulNow s) (title : WString) :
    Keyed (s.waitingUnder title) :=
  fun a r hr => h.keyed title a r hr

theorem RecordsAgree.later {ulNow ulLater : ULONGLONG} {s : CCrossAreaTeam}
    (h : RecordsAgree ulNow s) (hlater : ulNow ≤ ulLater) :
    RecordsAgree ulLater s :=
  { h with
    ticks := fun title a r hr =>
      UInt64.le_trans (h.ticks title a r hr) hlater }

theorem Consistent.later {ulNow ulLater : ULONGLONG} {s : CCrossAreaTeam}
    (h : Consistent ulNow s) (hlater : ulNow ≤ ulLater) :
    Consistent ulLater s :=
  { h with records := h.records.later hlater }

theorem consistent_initial (ulNow : ULONGLONG)
    (Classes : Std.TreeMap WString VecClasses) :
    Consistent ulNow { mapDungeonClasses := Classes } := by
  have hrecord : forall title a,
      ({ mapDungeonClasses := Classes } : CCrossAreaTeam).record title a =
        none := by
    intro title a
    apply record_of_none
    simp
  constructor
  · constructor
    all_goals simp [WaitsUnder, hrecord]
  · constructor
    all_goals simp [InGroup]

/-!
## Chosen players
-/

theorem RecordsAgree.of_candidate {ulNow ulTick : ULONGLONG}
    {title wsDungeonName : WString} {s : CCrossAreaTeam}
    (h : RecordsAgree ulTick s) {m : CrossAreaTeamMember}
    (hm : m ∈ candidates ulNow title wsDungeonName s) :
    s.record title m.account = some m ∧ isKeepALive ulNow m = true ∧
      wsDungeonName ∈ m.setDungoenName := by
  rcases mem_candidates.mp hm with ⟨a, hrecord, halive, hdungeon⟩
  have ha := h.keyed title a m hrecord
  rw [← ha] at hrecord
  exact ⟨hrecord, halive, hdungeon⟩

theorem RecordsAgree.chosen_waits {ulNow ulTick : ULONGLONG}
    {title wsDungeonName : WString} {s : CCrossAreaTeam}
    (h : RecordsAgree ulTick s) {chosen : List CrossAreaTeamMember}
    (hchosen : forall m, m ∈ chosen ->
      m ∈ candidates ulNow title wsDungeonName s) {a : WString}
    (ha : a ∈ chosen.map CrossAreaTeamMember.account) :
    s.WaitsUnder title a := by
  rcases List.mem_map.mp ha with ⟨m, hm, hma⟩
  rw [← hma]
  exact ⟨m, (h.of_candidate (hchosen m hm)).left⟩

theorem candidates_accounts_nodup (ulNow : ULONGLONG)
    {title : WString} (wsDungeonName : WString) {s : CCrossAreaTeam}
    (hkeyed : Keyed (s.waitingUnder title)) :
    ((candidates ulNow title wsDungeonName s).map
      CrossAreaTeamMember.account).Nodup := by
  have hkeys : (candidates ulNow title wsDungeonName s).map
        CrossAreaTeamMember.account =
      ((s.waitingUnder title).toList.filter fun itr =>
        isKeepALive ulNow itr.2 &&
          itr.2.setDungoenName.contains wsDungeonName).map Prod.fst := by
    rw [candidates, List.map_map]
    apply List.map_congr_left
    intro itr hitr
    rcases itr with ⟨a, r⟩
    have hmem := (List.mem_filter.mp hitr).left
    exact hkeyed a r (OrderedMaps.mem_toList_iff.mp hmem)
  rw [hkeys]
  exact (OrderedMaps.toList_keys_nodup _).sublist
    (List.Sublist.map Prod.fst List.filter_sublist)

theorem TurnOutcome.choice {ulNow : ULONGLONG} {title wsDungeonName : WString}
    {s s' : CCrossAreaTeam} (h : TurnOutcome ulNow title wsDungeonName s s') :
    s' = s ∨ exists chosen,
      chosen.Subperm (candidates ulNow title wsDungeonName s) ∧
        TurnEffect ulNow title wsDungeonName chosen s s' := by
  cases h with
  | unknown _ heq => exact Or.inl heq
  | nobody _ _ _ heffect => exact Or.inr ⟨[], List.nil_subperm, heffect⟩
  | formed _ chosen _ hfill heffect =>
      exact Or.inr ⟨chosen, FirstFit.fill_subperm hfill, heffect⟩

/-!
## A turn
-/

theorem TurnEffect.record_of {ulNow : ULONGLONG} {title wsDungeonName : WString}
    {chosen : List CrossAreaTeamMember} {s s' : CCrossAreaTeam}
    (h : TurnEffect ulNow title wsDungeonName chosen s s')
    {title' a : WString} {r : CrossAreaTeamMember}
    (hr : s'.record title' a = some r) :
    s.record title' a = some r ∧
      (title' = title -> isKeepALive ulNow r = true ∧
        a ∉ chosen.map CrossAreaTeamMember.account) := by
  by_cases htitle : title' = title
  · rw [htitle] at hr ⊢
    rw [h.records] at hr
    split at hr
    · cases hr
    · rename_i ha
      rcases Option.filter_eq_some_iff.mp hr with ⟨hrecord, halive⟩
      exact ⟨hrecord, fun _ => ⟨halive, ha⟩⟩
  · rw [record, h.otherTitles title' htitle] at hr
    exact ⟨hr, fun heq => absurd heq htitle⟩

theorem TurnEffect.waits_of {ulNow : ULONGLONG} {title wsDungeonName : WString}
    {chosen : List CrossAreaTeamMember} {s s' : CCrossAreaTeam}
    (h : TurnEffect ulNow title wsDungeonName chosen s s')
    {title' a : WString} (hwaits : s'.WaitsUnder title' a) :
    s.WaitsUnder title' a := by
  rcases hwaits with ⟨r, hr⟩
  exact ⟨r, (h.record_of hr).left⟩

theorem TurnEffect.record_keeps {ulNow : ULONGLONG}
    {title wsDungeonName : WString} {chosen : List CrossAreaTeamMember}
    {s s' : CCrossAreaTeam}
    (h : TurnEffect ulNow title wsDungeonName chosen s s')
    {title' a : WString} {r : CrossAreaTeamMember}
    (hr : s.record title' a = some r)
    (hstays : title' = title -> isKeepALive ulNow r = true ∧
      a ∉ chosen.map CrossAreaTeamMember.account) :
    s'.record title' a = some r := by
  by_cases htitle : title' = title
  · rcases hstays htitle with ⟨halive, ha⟩
    rw [htitle] at hr ⊢
    rw [h.records, if_neg ha, hr, Option.filter_some, halive]
    rfl
  · rw [record, h.otherTitles title' htitle]
    exact hr

theorem TurnEffect.recordsAgree {ulNow ulTick : ULONGLONG}
    {title wsDungeonName : WString} {chosen : List CrossAreaTeamMember}
    {s s' : CCrossAreaTeam}
    (h : TurnEffect ulNow title wsDungeonName chosen s s')
    (hchosen : forall m, m ∈ chosen ->
      m ∈ candidates ulNow title wsDungeonName s)
    (hs : RecordsAgree ulTick s) : RecordsAgree ulTick s' := by
  constructor
  case keyed => exact fun t a r hr => hs.keyed t a r (h.record_of hr).left
  case titled => exact fun t a r hr => hs.titled t a r (h.record_of hr).left
  case ticks => exact fun t a r hr => hs.ticks t a r (h.record_of hr).left
  case listed =>
    intro t a r hr D hD
    rw [h.dungeons]
    exact hs.listed t a r (h.record_of hr).left D hD
  case names =>
    intro a
    rw [h.names]
    constructor
    · intro hboth
      rcases hboth with ⟨⟨hname, halive⟩, ha⟩
      rcases (hs.names a).mp hname with ⟨t, r, hr⟩
      refine ⟨t, r, h.record_keeps hr ?_⟩
      intro ht
      rw [ht] at hr
      exact ⟨halive r hr, ha⟩
    · intro hwaits
      rcases hwaits with ⟨t, r, hr⟩
      have hwait : s.WaitsUnder t a := h.waits_of ⟨r, hr⟩
      refine ⟨⟨(hs.names a).mpr ⟨t, hwait⟩, ?_⟩, ?_⟩
      · intro x hx
        have ht := hs.oneTitle t title a hwait ⟨x, hx⟩
        rcases h.record_of hr with ⟨hrecord, hself⟩
        rw [ht, hx] at hrecord
        cases hrecord
        exact (hself ht).left
      · intro ha
        have ht := hs.oneTitle t title a hwait (hs.chosen_waits hchosen ha)
        exact ((h.record_of hr).right ht).right ha
  case oneTitle =>
    intro t t' a ht ht'
    exact hs.oneTitle t t' a (h.waits_of ht) (h.waits_of ht')

theorem TurnEffect.teamsApart {ulNow ulTick : ULONGLONG}
    {title wsDungeonName : WString} {chosen : List CrossAreaTeamMember}
    {s s' : CCrossAreaTeam}
    (h : TurnEffect ulNow title wsDungeonName chosen s s')
    (hchosen : chosen.Subperm (candidates ulNow title wsDungeonName s))
    (hs : Consistent ulTick s) : TeamsApart s' := by
  -- a member of a team is a member of an old team, or chosen in this turn
  have hmember : forall dwTeamId a, s'.InGroup dwTeamId a ->
      s.InGroup dwTeamId a ∨
        (a ∈ chosen.map CrossAreaTeamMember.account ∧
          dwTeamId = UInt32.ofNat (s.dwTeamIdCount + 1)) := by
    intro dwTeamId a hin
    rcases hin with ⟨g, hg, ha⟩
    rcases h.groups.source hg with hold | ⟨_, hplayers, _, _, hid⟩
    · exact Or.inl ⟨g, hold, ha⟩
    · rw [CrossAreaTeamGroup.accounts, hplayers] at ha
      exact Or.inr ⟨ha, hid⟩
  have hchosenWaits : forall a, a ∈ chosen.map CrossAreaTeamMember.account ->
      s.WaitsUnder title a :=
    fun a ha => hs.records.chosen_waits (fun m hm => hchosen.subset hm) ha
  constructor
  case ids =>
    intro dwTeamId g hg
    rcases h.groups.source hg with hold | ⟨_, _, hid, _, _⟩
    · exact hs.teams.ids dwTeamId g hold
    · exact hid
  case nodup =>
    intro dwTeamId g hg
    rcases h.groups.source hg with hold | ⟨_, hplayers, _, _, _⟩
    · exact hs.teams.nodup dwTeamId g hold
    · rw [CrossAreaTeamGroup.accounts, hplayers]
      have hnodup := candidates_accounts_nodup ulNow wsDungeonName
        (hs.records.keyedMap title)
      rcases hchosen with ⟨l, hperm, hsub⟩
      have hl : (l.map CrossAreaTeamMember.account).Nodup :=
        hnodup.sublist (hsub.map _)
      exact (hperm.map _).nodup_iff.mp hl
  case apart =>
    intro dwTeamId dwTeamId' a ha ha'
    rcases hmember dwTeamId a ha with hold | ⟨hnew, hid⟩
    · rcases hmember dwTeamId' a ha' with hold' | ⟨hnew', _⟩
      · exact hs.teams.apart dwTeamId dwTeamId' a hold hold'
      · exact absurd (hchosenWaits a hnew') (hs.teams.idle dwTeamId title a hold)
    · rcases hmember dwTeamId' a ha' with hold' | ⟨_, hid'⟩
      · exact absurd (hchosenWaits a hnew)
          (hs.teams.idle dwTeamId' title a hold')
      · rw [hid, hid']
  case idle =>
    intro dwTeamId t a ha hwait
    rcases hmember dwTeamId a ha with hold | ⟨hnew, _⟩
    · exact hs.teams.idle dwTeamId t a hold (h.waits_of hwait)
    · have ht := hs.records.oneTitle t title a (h.waits_of hwait)
        (hchosenWaits a hnew)
      rcases hwait with ⟨r, hr⟩
      exact ((h.record_of hr).right ht).right hnew

theorem schedulingTurn_consistent {ulNow : ULONGLONG}
    (title wsDungeonName : WString) {s : CCrossAreaTeam}
    (hs : Consistent ulNow s) :
    Consistent ulNow (schedulingTurn ulNow title s wsDungeonName) := by
  have houtcome := schedulingTurn_outcome ulNow title wsDungeonName s
    (hs.records.keyedMap title)
  rcases houtcome.choice with hsame | ⟨chosen, hchosen, heffect⟩
  · rw [hsame]
    exact hs
  · exact ⟨heffect.recordsAgree (fun m hm => hchosen.subset hm) hs.records,
      heffect.teamsApart hchosen hs⟩

/-!
## Rules for the scheduling loop
-/

theorem afterTurns_keeps (ulNow : ULONGLONG) (I : CCrossAreaTeam -> Prop)
    (hturn : forall title wsDungeonName s s', Consistent ulNow s -> I s ->
      TurnOutcome ulNow title wsDungeonName s s' -> I s')
    {s : CCrossAreaTeam} (hc : Consistent ulNow s) (hs : I s)
    (pairs : List (WString × WString)) :
    Consistent ulNow (afterTurns ulNow s pairs) ∧
      I (afterTurns ulNow s pairs) := by
  apply foldl_invariant (fun t => Consistent ulNow t ∧ I t) _ _ _
    (And.intro hc hs)
  intro t pair hboth
  rcases pair with ⟨title, wsDungeonName⟩
  rcases hboth with ⟨hc, ht⟩
  refine ⟨schedulingTurn_consistent title wsDungeonName hc, ?_⟩
  exact hturn title wsDungeonName t _ hc ht
    (schedulingTurn_outcome ulNow title wsDungeonName t
      (hc.records.keyedMap title))

theorem afterTurns_consistent {ulNow : ULONGLONG} {s : CCrossAreaTeam}
    (hc : Consistent ulNow s) (pairs : List (WString × WString)) :
    Consistent ulNow (afterTurns ulNow s pairs) :=
  (afterTurns_keeps ulNow (fun _ => True) (fun _ _ _ _ _ _ _ => trivial) hc
    trivial pairs).left

theorem scheduling_consistent {ulNow : ULONGLONG} {s : CCrossAreaTeam}
    (hc : Consistent ulNow s) : Consistent ulNow (scheduling ulNow s) := by
  rw [scheduling_eq_turns]
  exact afterTurns_consistent hc (turns s)

theorem scheduling_keeps (ulNow : ULONGLONG) (I : CCrossAreaTeam -> Prop)
    (hturn : forall title wsDungeonName s s', Consistent ulNow s -> I s ->
      TurnOutcome ulNow title wsDungeonName s s' -> I s')
    {s : CCrossAreaTeam} (hc : Consistent ulNow s) (hs : I s) :
    I (scheduling ulNow s) := by
  rw [scheduling_eq_turns]
  exact (afterTurns_keeps ulNow I hturn hc hs (turns s)).right

/--
What the turn for a title and a dungeon establishes and later turns keep holds
after scheduling, for every title and dungeon the loop goes over.
-/
theorem scheduling_done (ulNow : ULONGLONG) (I : CCrossAreaTeam -> Prop)
    (done : WString -> WString -> CCrossAreaTeam -> Prop)
    (hturn : forall title wsDungeonName s s', Consistent ulNow s -> I s ->
      TurnOutcome ulNow title wsDungeonName s s' -> I s')
    (hdone : forall title wsDungeonName s s', Consistent ulNow s -> I s ->
      TurnOutcome ulNow title wsDungeonName s s' ->
        done title wsDungeonName s')
    (hkeeps : forall title wsDungeonName title' wsDungeonName' s s',
      Consistent ulNow s -> I s ->
      TurnOutcome ulNow title' wsDungeonName' s s' ->
        done title wsDungeonName s -> done title wsDungeonName s')
    {s : CCrossAreaTeam} (hc : Consistent ulNow s) (hs : I s)
    {title wsDungeonName : WString} (htitle : title ∈ s.mapTeamMember)
    (hdungeon : wsDungeonName ∈ s.setDungeonName) :
    done title wsDungeonName (scheduling ulNow s) := by
  have houtcome : forall t (pair : WString × WString), Consistent ulNow t ->
      TurnOutcome ulNow pair.1 pair.2 t
        (schedulingTurn ulNow pair.1 t pair.2) := by
    intro t pair ht
    exact schedulingTurn_outcome ulNow pair.1 pair.2 t
      (ht.records.keyedMap pair.1)
  rw [scheduling_eq_turns]
  refine foldl_done (fun t => Consistent ulNow t ∧ I t)
    (fun pair t => done pair.1 pair.2 t) _ ?_ ?_ ?_ ⟨hc, hs⟩
    (mem_turns.mpr ⟨htitle, hdungeon⟩)
  · intro t pair hboth
    rcases hboth with ⟨hc, ht⟩
    exact ⟨schedulingTurn_consistent pair.1 pair.2 hc,
      hturn pair.1 pair.2 t _ hc ht (houtcome t pair hc)⟩
  · intro t pair hboth
    rcases hboth with ⟨hc, ht⟩
    exact hdone pair.1 pair.2 t _ hc ht (houtcome t pair hc)
  · intro t pair pair' hboth
    rcases hboth with ⟨hc, ht⟩
    exact hkeeps pair.1 pair.2 pair'.1 pair'.2 t _ hc ht (houtcome t pair' hc)

theorem scheduling_record {ulNow : ULONGLONG} {s : CCrossAreaTeam}
    (hc : Consistent ulNow s) {title a : WString} {r : CrossAreaTeamMember}
    (hr : (scheduling ulNow s).record title a = some r) :
    s.record title a = some r := by
  have hall := scheduling_keeps ulNow
    (fun t => forall title a r, t.record title a = some r ->
      s.record title a = some r) ?_ hc fun _ _ _ hr => hr
  · exact hall title a r hr
  · intro title D t t' _ ht hout title' a r hr
    rcases hout.choice with hsame | ⟨_, _, heffect⟩
    · rw [hsame] at hr
      exact ht title' a r hr
    · exact ht title' a r (heffect.record_of hr).left

/-!
## The calls
-/

theorem AddEffect.cases {Member : CrossAreaTeamMember} {s s' : CCrossAreaTeam}
    (h : AddEffect Member s s')
    (hfree : forall title, ¬ s.WaitsUnder title Member.account) (title a : WString)
    (r : CrossAreaTeamMember) (hr : s'.record title a = some r) :
    (title = Member.wsGroupTitle ∧ a = Member.account ∧ r = Member) ∨
      (a ≠ Member.account ∧ s.record title a = some r) := by
  by_cases ha : a = Member.account
  · by_cases htitle : title = Member.wsGroupTitle
    · rw [htitle, ha, h.self] at hr
      cases hr
      exact Or.inl ⟨htitle, ha, rfl⟩
    · rw [h.others title a (Or.inl htitle), ha] at hr
      exact absurd ⟨r, hr⟩ (hfree title)
  · rw [h.others title a (Or.inr ha)] at hr
    exact Or.inr ⟨ha, hr⟩

theorem AddEffect.recordsAgree {ulNow : ULONGLONG} {Member : CrossAreaTeamMember}
    {s s' : CCrossAreaTeam} (h : AddEffect Member s s')
    (htick : Member.ulTick = ulNow)
    (hfree : forall title, ¬ s.WaitsUnder title Member.account)
    (hs : RecordsAgree ulNow s) : RecordsAgree ulNow s' := by
  have hcases := h.cases hfree
  constructor
  case keyed =>
    intro title a r hr
    rcases hcases title a r hr with ⟨_, ha, hrm⟩ | ⟨_, hold⟩
    · rw [ha, hrm]
    · exact hs.keyed title a r hold
  case titled =>
    intro title a r hr
    rcases hcases title a r hr with ⟨ht, _, hrm⟩ | ⟨_, hold⟩
    · rw [ht, hrm]
    · exact hs.titled title a r hold
  case ticks =>
    intro title a r hr
    rcases hcases title a r hr with ⟨_, _, hrm⟩ | ⟨_, hold⟩
    · rw [hrm, htick]
      exact UInt64.le_refl ulNow
    · exact hs.ticks title a r hold
  case listed =>
    intro title a r hr D hD
    rw [h.dungeons]
    rcases hcases title a r hr with ⟨_, _, hrm⟩ | ⟨_, hold⟩
    · rw [hrm] at hD
      exact Or.inr hD
    · exact Or.inl (hs.listed title a r hold D hD)
  case names =>
    intro a
    rw [h.names, hs.names]
    constructor
    · intro hor
      rcases hor with ha | ⟨title, r, hr⟩
      · exact ⟨Member.wsGroupTitle, Member, by rw [← ha, h.self]⟩
      · have ha : a ≠ Member.account := by
          intro ha
          rw [ha] at hr
          exact hfree title ⟨r, hr⟩
        exact ⟨title, r, by rw [h.others title a (Or.inr ha), hr]⟩
    · intro hwaits
      rcases hwaits with ⟨title, r, hr⟩
      rcases hcases title a r hr with ⟨_, ha, _⟩ | ⟨_, hold⟩
      · exact Or.inl ha.symm
      · exact Or.inr ⟨title, r, hold⟩
  case oneTitle =>
    intro title title' a hwaits hwaits'
    rcases hwaits with ⟨r, hr⟩
    rcases hwaits' with ⟨r', hr'⟩
    rcases hcases title a r hr with ⟨ht, ha, _⟩ | ⟨ha, hold⟩
    · rcases hcases title' a r' hr' with ⟨ht', _, _⟩ | ⟨ha', _⟩
      · rw [ht, ht']
      · exact absurd ha ha'
    · rcases hcases title' a r' hr' with ⟨_, ha', _⟩ | ⟨_, hold'⟩
      · exact absurd ha' ha
      · exact hs.oneTitle title title' a ⟨r, hold⟩ ⟨r', hold'⟩

theorem UpdateEffect.cases {Member : CrossAreaTeamMember} {s s' : CCrossAreaTeam}
    (h : UpdateEffect Member s s') (title a : WString) (r : CrossAreaTeamMember)
    (hr : s'.record title a = some r) :
    exists old, s.record title a = some old ∧
      (r = old ∨ (r = refreshed Member old ∧ a = Member.account)) := by
  by_cases hself : title = Member.wsGroupTitle ∧ a = Member.account
  · rcases hself with ⟨htitle, ha⟩
    rw [htitle, ha, h.self] at hr
    rcases Option.map_eq_some_iff.mp hr with ⟨old, hold, hrold⟩
    rw [htitle, ha]
    exact ⟨old, hold, Or.inr ⟨hrold.symm, rfl⟩⟩
  · rw [h.others title a (by tauto)] at hr
    exact ⟨r, hr, Or.inl rfl⟩

theorem UpdateEffect.waitsUnder_iff {Member : CrossAreaTeamMember}
    {s s' : CCrossAreaTeam} (h : UpdateEffect Member s s') (title a : WString) :
    s'.WaitsUnder title a ↔ s.WaitsUnder title a := by
  constructor
  · intro hwaits
    rcases hwaits with ⟨r, hr⟩
    rcases h.cases title a r hr with ⟨old, hold, _⟩
    exact ⟨old, hold⟩
  · intro hwaits
    rcases hwaits with ⟨r, hr⟩
    by_cases hself : title = Member.wsGroupTitle ∧ a = Member.account
    · rcases hself with ⟨htitle, ha⟩
      rw [htitle, ha] at hr ⊢
      refine ⟨refreshed Member r, ?_⟩
      rw [h.self, hr]
      rfl
    · exact ⟨r, by rw [h.others title a (by tauto), hr]⟩

theorem UpdateEffect.recordsAgree {ulNow : ULONGLONG}
    {Member : CrossAreaTeamMember} {s s' : CCrossAreaTeam}
    (h : UpdateEffect Member s s') (htick : Member.ulTick = ulNow)
    (hs : RecordsAgree ulNow s) : RecordsAgree ulNow s' := by
  have hcases := h.cases
  have hwaits := h.waitsUnder_iff
  constructor
  case keyed =>
    intro title a r hr
    rcases hcases title a r hr with ⟨old, hold, heq | ⟨heq, ha⟩⟩
    · rw [heq]
      exact hs.keyed title a old hold
    · rw [heq, ha]
      rfl
  case titled =>
    intro title a r hr
    rcases hcases title a r hr with ⟨old, hold, heq | ⟨heq, _⟩⟩
    · rw [heq]
      exact hs.titled title a old hold
    · rw [heq]
      exact hs.titled title a old hold
  case ticks =>
    intro title a r hr
    rcases hcases title a r hr with ⟨old, hold, heq | ⟨heq, _⟩⟩
    · rw [heq]
      exact hs.ticks title a old hold
    · rw [heq]
      exact htick ▸ UInt64.le_refl ulNow
  case listed =>
    intro title a r hr D hD
    rw [h.dungeons]
    rcases hcases title a r hr with ⟨old, hold, heq | ⟨heq, _⟩⟩
    · rw [heq] at hD
      exact hs.listed title a old hold D hD
    · rw [heq] at hD
      exact hs.listed title a old hold D hD
  case names =>
    intro a
    rw [h.names, hs.names]
    simp only [hwaits]
  case oneTitle =>
    intro title title' a ht ht'
    exact hs.oneTitle title title' a ((hwaits title a).mp ht)
      ((hwaits title' a).mp ht')

theorem TeamsApart.of_waits {s s' : CCrossAreaTeam}
    (hgroups : forall (dwTeamId : DWORD) (g : CrossAreaTeamGroup),
      s'.mapCrossAreaTeamGroup[dwTeamId]? = some g ->
        s.mapCrossAreaTeamGroup[dwTeamId]? = some g)
    (hwaits : forall title a, s'.WaitsUnder title a ->
      s.WaitsUnder title a ∨ forall dwTeamId, ¬ s.InGroup dwTeamId a)
    (hs : TeamsApart s) : TeamsApart s' := by
  have hmember : forall dwTeamId a, s'.InGroup dwTeamId a ->
      s.InGroup dwTeamId a := by
    intro dwTeamId a hin
    rcases hin with ⟨g, hg, ha⟩
    exact ⟨g, hgroups dwTeamId g hg, ha⟩
  constructor
  case ids => exact fun id g hg => hs.ids id g (hgroups id g hg)
  case nodup => exact fun id g hg => hs.nodup id g (hgroups id g hg)
  case apart =>
    intro id id' a ha ha'
    exact hs.apart id id' a (hmember id a ha) (hmember id' a ha')
  case idle =>
    intro id title a ha hwait
    rcases hwaits title a hwait with hold | hout
    · exact hs.idle id title a (hmember id a ha) hold
    · exact hout id (hmember id a ha)

/-- Before scheduling, `JoinTeam` has entered or refreshed the caller. -/
def entered (Member : CrossAreaTeamMember) (s : CCrossAreaTeam) :
    CCrossAreaTeam :=
  if !existCrossAreaTeamMember Member s then addToCrossAreaTeamMember Member s
  else updateTickInTeamMember Member s

def stamped (ulNow : ULONGLONG) (Member : CrossAreaTeamMember) :
    CrossAreaTeamMember :=
  { Member with ulTick := ulNow, ulStartTick := ulNow }

theorem joinTeam_of_some {T : MyTools} {ulNow : ULONGLONG}
    {Member : CrossAreaTeamMember} {s : CCrossAreaTeam} {g : CrossAreaTeamGroup}
    (h : existCrossAreaTeamGroup T (stamped ulNow Member) s = some g) :
    joinTeam T ulNow Member s = (some g.dwTeamId, s) := by
  unfold stamped at h
  simp only [joinTeam, h]

theorem joinTeam_of_none {T : MyTools} {ulNow : ULONGLONG}
    {Member : CrossAreaTeamMember} {s : CCrossAreaTeam}
    (h : existCrossAreaTeamGroup T (stamped ulNow Member) s = none) :
    joinTeam T ulNow Member s =
      (none, scheduling ulNow (entered (stamped ulNow Member) s)) := by
  unfold stamped at h
  simp only [joinTeam, h]
  rfl

theorem entered_cases {ulTick : ULONGLONG} (Member : CrossAreaTeamMember)
    {s : CCrossAreaTeam} (hs : RecordsAgree ulTick s) :
    ((forall title, ¬ s.WaitsUnder title Member.account) ∧
        AddEffect Member s (entered Member s)) ∨
      ((exists title, s.WaitsUnder title Member.account) ∧
        UpdateEffect Member s (entered Member s)) := by
  unfold entered
  by_cases hname : existCrossAreaTeamMember Member s = true
  · rw [hname]
    have hwaits := (hs.names _).mp (existCrossAreaTeamMember_iff.mp hname)
    exact Or.inr ⟨hwaits, updateTickInTeamMember_effect Member s⟩
  · have hfree : forall title, ¬ s.WaitsUnder title Member.account := by
      intro title hwait
      exact hname (existCrossAreaTeamMember_iff.mpr
        ((hs.names _).mpr ⟨title, hwait⟩))
    have hnone : s.record Member.wsGroupTitle Member.account = none := by
      cases hr : s.record Member.wsGroupTitle Member.account with
      | none => rfl
      | some r => exact absurd ⟨r, hr⟩ (hfree Member.wsGroupTitle)
    rw [Bool.not_eq_true] at hname
    rw [hname]
    exact Or.inl ⟨hfree, addToCrossAreaTeamMember_effect hnone⟩

theorem entered_groups (Member : CrossAreaTeamMember) {ulTick : ULONGLONG}
    {s : CCrossAreaTeam} (hs : RecordsAgree ulTick s) :
    (entered Member s).mapCrossAreaTeamGroup = s.mapCrossAreaTeamGroup := by
  rcases entered_cases Member hs with ⟨_, heffect⟩ | ⟨_, heffect⟩
  · exact heffect.groups
  · exact heffect.groups

theorem entered_classes (Member : CrossAreaTeamMember) {ulTick : ULONGLONG}
    {s : CCrossAreaTeam} (hs : RecordsAgree ulTick s) :
    (entered Member s).mapDungeonClasses = s.mapDungeonClasses := by
  rcases entered_cases Member hs with ⟨_, heffect⟩ | ⟨_, heffect⟩
  · exact heffect.classes
  · exact heffect.classes

theorem entered_waits {ulTick : ULONGLONG} {Member : CrossAreaTeamMember}
    {s : CCrossAreaTeam} (hs : RecordsAgree ulTick s) {title a : WString}
    (ha : a ≠ Member.account)
    (hwaits : (entered Member s).WaitsUnder title a) : s.WaitsUnder title a := by
  rcases hwaits with ⟨r, hr⟩
  rcases entered_cases Member hs with ⟨_, heffect⟩ | ⟨_, heffect⟩
  · rw [heffect.others title a (Or.inr ha)] at hr
    exact ⟨r, hr⟩
  · rw [heffect.others title a (Or.inr ha)] at hr
    exact ⟨r, hr⟩

theorem entered_consistent {ulNow : ULONGLONG} {Member : CrossAreaTeamMember}
    {s : CCrossAreaTeam} (htick : Member.ulTick = ulNow)
    (hout : forall dwTeamId, ¬ s.InGroup dwTeamId Member.account)
    (hs : Consistent ulNow s) : Consistent ulNow (entered Member s) := by
  have hrecords : RecordsAgree ulNow (entered Member s) := by
    rcases entered_cases Member hs.records with ⟨hfree, heffect⟩ | ⟨_, heffect⟩
    · exact heffect.recordsAgree htick hfree hs.records
    · exact heffect.recordsAgree htick hs.records
  refine ⟨hrecords, ?_⟩
  apply TeamsApart.of_waits _ _ hs.teams
  · intro dwTeamId g hg
    rwa [entered_groups Member hs.records] at hg
  · intro title a hwaits
    by_cases ha : a = Member.account
    · exact Or.inr (ha ▸ hout)
    · exact Or.inl (entered_waits hs.records ha hwaits)

theorem polled_consistent {T : MyTools} {ulNow : ULONGLONG}
    {Member : CrossAreaTeamMember} {s : CCrossAreaTeam}
    (hgroup : existCrossAreaTeamGroup T (stamped ulNow Member) s = none)
    (hs : Consistent ulNow s) :
    Consistent ulNow (entered (stamped ulNow Member) s) :=
  entered_consistent rfl (existCrossAreaTeamGroup_eq_none_iff.mp hgroup) hs

theorem joinTeam_consistent (T : MyTools) {ulNow : ULONGLONG}
    (Member : CrossAreaTeamMember) {s : CCrossAreaTeam}
    (hs : Consistent ulNow s) :
    Consistent ulNow (joinTeam T ulNow Member s).2 := by
  cases hgroup : existCrossAreaTeamGroup T (stamped ulNow Member) s with
  | some g =>
      rw [joinTeam_of_some hgroup]
      exact hs
  | none =>
      rw [joinTeam_of_none hgroup]
      exact scheduling_consistent (polled_consistent hgroup hs)

theorem deleteTeamGroup_consistent {ulNow : ULONGLONG} (a : WString)
    {s : CCrossAreaTeam} (hs : Consistent ulNow s) :
    Consistent ulNow (deleteTeamGroup a s) := by
  have heffect := deleteTeamGroup_effect a s
  have hrecord : forall title b,
      (deleteTeamGroup a s).record title b = s.record title b := by
    intro title b
    rw [record, waitingUnder, heffect.records]
    rfl
  constructor
  · constructor
    case keyed => simpa only [hrecord] using hs.records.keyed
    case titled => simpa only [hrecord] using hs.records.titled
    case ticks => simpa only [hrecord] using hs.records.ticks
    case listed =>
      simpa only [hrecord, heffect.dungeons] using hs.records.listed
    case names =>
      simpa only [WaitsUnder, hrecord, heffect.names] using hs.records.names
    case oneTitle =>
      simpa only [WaitsUnder, hrecord] using hs.records.oneTitle
  · apply TeamsApart.of_waits heffect.groups _ hs.teams
    intro title b hwaits
    simp only [WaitsUnder, hrecord] at hwaits
    exact Or.inl hwaits

theorem deleteTeamMember_consistent {ulNow : ULONGLONG} (a : WString)
    {s : CCrossAreaTeam} (hs : Consistent ulNow s) :
    Consistent ulNow (deleteTeamMember a s) := by
  have heffect : LeaveEffect a s (deleteTeamMember a s) :=
    deleteTeamMember_effect fun t t' => hs.records.oneTitle t t' a
  have hold : forall title b r, (deleteTeamMember a s).record title b = some r ->
      b ≠ a ∧ s.record title b = some r := by
    intro title b r hr
    by_cases hb : b = a
    · rw [hb, heffect.self] at hr
      cases hr
    · rw [heffect.others title b hb] at hr
      exact ⟨hb, hr⟩
  constructor
  · constructor
    case keyed =>
      exact fun t b r hr => hs.records.keyed t b r (hold t b r hr).right
    case titled =>
      exact fun t b r hr => hs.records.titled t b r (hold t b r hr).right
    case ticks =>
      exact fun t b r hr => hs.records.ticks t b r (hold t b r hr).right
    case listed =>
      intro t b r hr D hD
      rw [heffect.dungeons]
      exact hs.records.listed t b r (hold t b r hr).right D hD
    case names =>
      intro b
      rw [heffect.names, hs.records.names]
      constructor
      · intro hwaits
        rcases hwaits with ⟨hb, title, r, hr⟩
        exact ⟨title, r, by rw [heffect.others title b hb.symm, hr]⟩
      · intro hwaits
        rcases hwaits with ⟨title, r, hr⟩
        rcases hold title b r hr with ⟨hb, hrecord⟩
        exact ⟨hb.symm, title, r, hrecord⟩
    case oneTitle =>
      intro t t' b hwaits hwaits'
      rcases hwaits with ⟨r, hr⟩
      rcases hwaits' with ⟨r', hr'⟩
      exact hs.records.oneTitle t t' b ⟨r, (hold t b r hr).right⟩
        ⟨r', (hold t' b r' hr').right⟩
  · apply TeamsApart.of_waits _ _ hs.teams
    · intro dwTeamId g hg
      rwa [heffect.groups] at hg
    · intro title b hwaits
      rcases hwaits with ⟨r, hr⟩
      exact Or.inl ⟨r, (hold title b r hr).right⟩

theorem apply_consistent (T : MyTools) {ulNow : ULONGLONG} (call : Call)
    {s : CCrossAreaTeam} (hs : Consistent ulNow s) :
    Consistent ulNow (apply T ulNow call s) := by
  cases call with
  | joinTeam Member => exact joinTeam_consistent T Member hs
  | deleteTeamGroup a => exact deleteTeamGroup_consistent a hs
  | deleteTeamMember a => exact deleteTeamMember_consistent a hs

theorem Reachable.consistent {T : MyTools}
    {Classes : Std.TreeMap WString VecClasses} {c : Clocked CCrossAreaTeam}
    (h : Reachable T Classes c) : Consistent c.now c.state := by
  refine Machine.Run.invariant (fun c => Consistent c.now c.state) ?_ h
    (consistent_initial 0 Classes)
  intro call c hlater _ hc
  exact apply_consistent T call.2 (hc.later hlater)

theorem Reachable.keeps (I : ULONGLONG -> CCrossAreaTeam -> Prop) {T : MyTools}
    {Classes : Std.TreeMap WString VecClasses}
    (hstart : I 0 { mapDungeonClasses := Classes })
    (hcall : forall ulNow ulLater call s, Consistent ulNow s ->
      ulNow ≤ ulLater -> I ulNow s -> I ulLater (apply T ulLater call s))
    {c : Clocked CCrossAreaTeam} (h : Reachable T Classes c) :
    I c.now c.state := by
  let J : Clocked CCrossAreaTeam -> Prop := fun c =>
    Consistent c.now c.state ∧ I c.now c.state
  have hfirst : J (initial Classes) := ⟨consistent_initial 0 Classes, hstart⟩
  have hstep : forall l c, (machine T).enabled l c -> True -> J c ->
      J ((machine T).step l c) := by
    intro l c hlater _ hboth
    rcases l with ⟨ulLater, call⟩
    rcases hboth with ⟨hc, hI⟩
    exact ⟨apply_consistent T call (hc.later hlater),
      hcall c.now ulLater call c.state hc hlater hI⟩
  have hJ := Machine.Run.invariant J hstep h hfirst
  exact hJ.right

/-!
## What the containers say about each other
-/

theorem waitsUnder_iff {s : CCrossAreaTeam} {title a : WString} :
    s.WaitsUnder title a ↔ exists MapMember : VecCrossAreaTeamMember,
      s.mapTeamMember[title]? = some MapMember ∧ a ∈ MapMember := by
  cases hmap : s.mapTeamMember[title]? with
  | none => simp [WaitsUnder, record_of_none hmap]
  | some MapMember =>
      have hwaits : s.WaitsUnder title a ↔ a ∈ MapMember := by
        rw [Std.TreeMap.mem_iff_isSome_getElem?, Option.isSome_iff_exists]
        simp only [WaitsUnder, record, waitingUnder_of_some hmap]
      simp [hwaits]

/-- A name is in the name set iff it is a key under exactly one title, nobody
both waits and is in a team, and no two places in the teams are one player's. -/
theorem Reachable.containers_agree {T : MyTools}
    {Classes : Std.TreeMap WString VecClasses} {c : Clocked CCrossAreaTeam}
    (h : Reachable T Classes c) :
    (forall a, a ∈ c.state.setTeamMemberName ↔
        ∃! title : WString, exists MapMember : VecCrossAreaTeamMember,
          c.state.mapTeamMember[title]? = some MapMember ∧ a ∈ MapMember) ∧
      (forall (dwTeamId : DWORD) (g : CrossAreaTeamGroup) (title a : WString)
          (MapMember : VecCrossAreaTeamMember),
        c.state.mapCrossAreaTeamGroup[dwTeamId]? = some g -> a ∈ g.accounts ->
          c.state.mapTeamMember[title]? = some MapMember -> a ∉ MapMember) ∧
      (forall (dwTeamId dwTeamId' : DWORD) (g g' : CrossAreaTeamGroup)
          (a : WString),
        c.state.mapCrossAreaTeamGroup[dwTeamId]? = some g -> a ∈ g.accounts ->
          c.state.mapCrossAreaTeamGroup[dwTeamId']? = some g' ->
            a ∈ g'.accounts -> dwTeamId = dwTeamId') ∧
      forall (dwTeamId : DWORD) (g : CrossAreaTeamGroup),
        c.state.mapCrossAreaTeamGroup[dwTeamId]? = some g ->
          g.accounts.Nodup := by
  have hc := h.consistent
  refine ⟨?_, ?_, ?_, hc.teams.nodup⟩
  · intro a
    rw [hc.records.names]
    constructor
    · intro hwaits
      rcases hwaits with ⟨title, ha⟩
      refine ⟨title, waitsUnder_iff.mp ha, ?_⟩
      intro title' ha'
      exact hc.records.oneTitle title' title a (waitsUnder_iff.mpr ha') ha
    · intro hwaits
      rcases hwaits with ⟨title, ha, _⟩
      exact ⟨title, waitsUnder_iff.mpr ha⟩
  · intro dwTeamId g title a MapMember hg ha hmap hmem
    exact hc.teams.idle dwTeamId title a ⟨g, hg, ha⟩
      (waitsUnder_iff.mpr ⟨MapMember, hmap, hmem⟩)
  · intro dwTeamId dwTeamId' g g' a hg ha hg' ha'
    exact hc.teams.apart dwTeamId dwTeamId' a ⟨g, hg, ha⟩ ⟨g', hg', ha'⟩

/-!
### A small run

Three players of two titles queue for a dungeon for two; the second poll forms
a team, the third player waits alone.
-/

def duoTable : Std.TreeMap WString VecClasses :=
  (∅ : Std.TreeMap WString VecClasses).insert (L "简单的雪人洞")
    ⟨[TeamMeberClasses.assassin, TeamMeberClasses.any], by decide⟩

def duoPlayer (wsAccountName wsGroupTitle : WString)
    (emClasses : TeamMeberClasses) : CrossAreaTeamMember :=
  { info := { wsAccountName := wsAccountName }
    setDungoenName := (∅ : Std.TreeSet WString).insert (L "简单的雪人洞")
    wsGroupTitle := wsGroupTitle
    emClasses := emClasses }

def duoCalls : List (ULONGLONG × Call) :=
  [(10, Call.joinTeam (duoPlayer (L "anna") (L "red") TeamMeberClasses.gunner)),
    (20, Call.joinTeam
      (duoPlayer (L "boris") (L "red") TeamMeberClasses.assassin)),
    (30, Call.joinTeam
      (duoPlayer (L "clara") (L "blue") TeamMeberClasses.gunner))]

def duoState : Clocked CCrossAreaTeam :=
  (machine MyTools.standard).play duoCalls (initial duoTable)

theorem duoState_reachable : Reachable MyTools.standard duoTable duoState :=
  Machine.Admits.reaches (by decide)

theorem duoState_containers_agree :
    (∃! title : WString, exists MapMember : VecCrossAreaTeamMember,
        duoState.state.mapTeamMember[title]? = some MapMember ∧
          L "clara" ∈ MapMember) ∧
      forall (dwTeamId : DWORD) (g : CrossAreaTeamGroup),
        duoState.state.mapCrossAreaTeamGroup[dwTeamId]? = some g ->
          g.accounts.Nodup := by
  rcases Reachable.containers_agree duoState_reachable with
    ⟨hnames, _, _, hnodup⟩
  exact ⟨(hnames (L "clara")).mp (by decide), hnodup⟩

end CCrossAreaTeam
end BnsKorea
