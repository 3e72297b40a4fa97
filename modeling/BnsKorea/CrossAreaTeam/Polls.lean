import BnsKorea.CrossAreaTeam.Fate

/-!
# What a poll is worth

A poll finds the caller's team, or enters or refreshes the caller's record and
schedules.  Who polls under another title than it waits under is lost: the
record is not refreshed, and it times out although the account is heard of.
-/

namespace BnsKorea

open Library

namespace CCrossAreaTeam

def Call.polledBy (a : WString) : Call -> Bool
  | joinTeam Member => Member.account == a
  | _ => false

/-- The time of the account's last poll, `ulTick` before the calls. -/
def lastPoll (a : WString) : ULONGLONG -> List (ULONGLONG × Call) -> ULONGLONG
  | ulTick, [] => ulTick
  | ulTick, (ulNow, call) :: calls =>
      lastPoll a (if call.polledBy a then ulNow else ulTick) calls

theorem lastPoll_append (a : WString) (ulTick : ULONGLONG)
    (calls : List (ULONGLONG × Call)) (ulNow : ULONGLONG) (call : Call) :
    lastPoll a ulTick (calls ++ [(ulNow, call)]) =
      if call.polledBy a then ulNow else lastPoll a ulTick calls := by
  induction calls generalizing ulTick with
  | nil => rfl
  | cons l calls ih => exact ih _

/-!
## After a poll
-/

def InOneGroup (a : WString) (s : CCrossAreaTeam) : Prop :=
  ∃! dwTeamId, s.InGroup dwTeamId a

/--
Exactly one of three: the account waits as `waits` says, it is in exactly one
team, or it was dropped and the heartbeat at `ulTick` is more than 30 s old.
-/
def Placed (ulNow ulTick : ULONGLONG) (a : WString) (waits : Prop)
    (s : CCrossAreaTeam) : Prop :=
  (waits ∧ ¬ InOneGroup a s ∧ ¬ Dropped a s) ∨
    (¬ waits ∧ InOneGroup a s ∧ ¬ Dropped a s) ∨
    (¬ waits ∧ ¬ InOneGroup a s ∧ Dropped a s ∧
      ulTick.toNat + 30 * 1000 < ulNow.toNat)

theorem placed_of_consistent {ulNow ulTick : ULONGLONG} {a : WString}
    {waits : Prop} {s : CCrossAreaTeam} (hs : Consistent ulNow s)
    (hwaits : waits -> exists title, s.WaitsUnder title a)
    (h : waits ∨ (exists dwTeamId, s.InGroup dwTeamId a) ∨
      (Dropped a s ∧ ulTick.toNat + 30 * 1000 < ulNow.toNat)) :
    Placed ulNow ulTick a waits s := by
  rcases h with hw | ⟨dwTeamId, hin⟩ | ⟨hdropped, hold⟩
  · rcases hwaits hw with ⟨title, htitle⟩
    refine Or.inl ⟨hw, ?_, fun hdropped => hdropped.left title htitle⟩
    intro hjoined
    rcases hjoined with ⟨dwTeamId, hin, _⟩
    exact hs.teams.idle dwTeamId title a hin htitle
  · refine Or.inr (Or.inl ⟨?_, ?_, fun hdropped => hdropped.right _ hin⟩)
    · intro hw
      rcases hwaits hw with ⟨title, htitle⟩
      exact hs.teams.idle dwTeamId title a hin htitle
    · exact ⟨dwTeamId, hin, fun id hid => hs.teams.apart id dwTeamId a hid hin⟩
  · refine Or.inr (Or.inr ⟨?_, ?_, hdropped, hold⟩)
    · intro hw
      rcases hwaits hw with ⟨title, htitle⟩
      exact hdropped.left title htitle
    · intro hjoined
      rcases hjoined with ⟨dwTeamId, hin, _⟩
      exact hdropped.right dwTeamId hin

def CallerWaits (ulNow : ULONGLONG) (Member : CrossAreaTeamMember)
    (s s' : CCrossAreaTeam) : Prop :=
  (exists title old, s.record title Member.account = some old ∧
      s'.record title Member.account =
        some { old with ulTick := ulNow, info := Member.info }) ∨
    ((forall title, ¬ s.WaitsUnder title Member.account) ∧
      s'.record Member.wsGroupTitle Member.account =
        some { Member with ulTick := ulNow, ulStartTick := ulNow })

/--
Every waiting player and the caller are accounted for after a poll; `ulHeard`
is when each account was last heard of before it.
-/
structure NobodyLost (T : MyTools) (ulHeard : WString -> ULONGLONG)
    (ulNow : ULONGLONG) (Member : CrossAreaTeamMember) (s : CCrossAreaTeam) :
    Prop where
  waiting : forall title a r, s.record title a = some r -> a ≠ Member.account ->
    Placed ulNow (ulHeard a) a
      ((joinTeam T ulNow Member s).2.record title a = some r)
      (joinTeam T ulNow Member s).2
  caller : Placed ulNow ulNow Member.account
    (CallerWaits ulNow Member s (joinTeam T ulNow Member s).2)
    (joinTeam T ulNow Member s).2
  groups : forall (dwTeamId : DWORD) (g : CrossAreaTeamGroup),
    s.mapCrossAreaTeamGroup[dwTeamId]? = some g ->
      (joinTeam T ulNow Member s).2.mapCrossAreaTeamGroup[dwTeamId]? = some g
  found : forall dwTeamId, (joinTeam T ulNow Member s).1 = some dwTeamId ->
    (joinTeam T ulNow Member s).2 = s ∧
      exists g, getTeamMemberContent dwTeamId s = some g ∧
        Member.account ∈ g.accounts

theorem CallerWaits.waitsUnder {ulNow : ULONGLONG} {Member : CrossAreaTeamMember}
    {s s' : CCrossAreaTeam} (h : CallerWaits ulNow Member s s') :
    exists title, s'.WaitsUnder title Member.account := by
  rcases h with ⟨title, _, _, hr⟩ | ⟨_, hr⟩
  · exact ⟨title, _, hr⟩
  · exact ⟨Member.wsGroupTitle, _, hr⟩

theorem isKeepALive_now {ulNow : ULONGLONG} {r : CrossAreaTeamMember}
    (h : r.ulTick = ulNow) : isKeepALive ulNow r = true := by
  rw [isKeepALive_iff (h ▸ UInt64.le_refl _), h]
  omega

theorem isKeepALive_eq_false {ulNow : ULONGLONG} {r : CrossAreaTeamMember}
    (htick : r.ulTick ≤ ulNow) (h : isKeepALive ulNow r = false) :
    r.ulTick.toNat + 30 * 1000 < ulNow.toNat := by
  by_contra hle
  rw [(isKeepALive_iff htick).mpr (Nat.le_of_not_lt hle)] at h
  cases h

/-!
## A caller with a team
-/

theorem nobodyLost_of_group {T : MyTools} {ulHeard : WString -> ULONGLONG}
    {ulNow : ULONGLONG} {Member : CrossAreaTeamMember} {s : CCrossAreaTeam}
    (hs : Consistent ulNow s) {g : CrossAreaTeamGroup}
    (hgroup : existCrossAreaTeamGroup T (stamped ulNow Member) s = some g) :
    NobodyLost T ulHeard ulNow Member s := by
  rcases existCrossAreaTeamGroup_of_some hgroup with ⟨dwTeamId, hg, hmem⟩
  have hin : s.InGroup dwTeamId Member.account := ⟨g, hg, hmem⟩
  constructor
  all_goals rw [joinTeam_of_some hgroup]
  case waiting =>
    intro title a r hr _
    exact placed_of_consistent hs (fun hr => ⟨title, r, hr⟩) (Or.inl hr)
  case caller =>
    exact placed_of_consistent hs CallerWaits.waitsUnder
      (Or.inr (Or.inl ⟨dwTeamId, hin⟩))
  case groups => exact fun _ _ hg => hg
  case found =>
    intro id hid
    cases hid
    refine ⟨rfl, g, ?_, hmem⟩
    rw [getTeamMemberContent, hs.teams.ids dwTeamId g hg]
    exact hg

/-!
## A caller without a team
-/

theorem scheduling_placed {ulNow : ULONGLONG} {s : CCrossAreaTeam}
    (hs : Consistent ulNow s) (hids : IdsIssued s)
    (hcount : (scheduling ulNow s).dwTeamIdCount < 2 ^ 32)
    {title a : WString} {r : CrossAreaTeamMember}
    (hr : s.record title a = some r) :
    (scheduling ulNow s).record title a = some r ∨
      (exists dwTeamId, (scheduling ulNow s).InGroup dwTeamId a) ∨
      (Dropped a (scheduling ulNow s) ∧
        r.ulTick.toNat + 30 * 1000 < ulNow.toNat) := by
  rw [scheduling_eq_turns] at hcount ⊢
  cases afterTurns_fate hs hr (turns s) with
  | waits hwaits => exact Or.inl hwaits
  | chosen hchosen =>
      have hin := hchosen.inGroup hs hids hcount
      rw [hs.records.keyed title a r hr] at hin
      exact Or.inr (Or.inl hin)
  | timedOut hdead hdropped =>
      have hold := isKeepALive_eq_false (hs.records.ticks title a r hr) hdead
      exact Or.inr (Or.inr ⟨hdropped, hold⟩)

/-- Every record carries the time when its account was last heard of. -/
def Heard (ulHeard : WString -> ULONGLONG) (s : CCrossAreaTeam) : Prop :=
  forall title a r, s.record title a = some r -> r.ulTick = ulHeard a

/-- The title the caller waits under is the polled one, or nothing is new. -/
def PollsUnderTitle (ulNow : ULONGLONG) (Member : CrossAreaTeamMember)
    (s : CCrossAreaTeam) : Prop :=
  forall title r, s.record title Member.account = some r ->
    title = Member.wsGroupTitle ∨ (r.ulTick = ulNow ∧ r.info = Member.info)

theorem entered_caller {ulNow : ULONGLONG} {Member : CrossAreaTeamMember}
    {s : CCrossAreaTeam} (hs : Consistent ulNow s)
    (hpolls : PollsUnderTitle ulNow Member s) :
    exists title r,
      (entered (stamped ulNow Member) s).record title Member.account = some r ∧
        r.ulTick = ulNow ∧
        forall s' : CCrossAreaTeam, s'.record title Member.account = some r ->
          CallerWaits ulNow Member s s' := by
  rcases entered_cases (stamped ulNow Member) hs.records with
    ⟨hfree, heffect⟩ | ⟨⟨title, old, hold⟩, heffect⟩
  · exact ⟨Member.wsGroupTitle, stamped ulNow Member, heffect.self, rfl,
      fun s' hr => Or.inr ⟨hfree, hr⟩⟩
  · have hold' : s.record title Member.account = some old := hold
    by_cases htitle : title = Member.wsGroupTitle
    · have hself := heffect.self
      have hrecord : s.record (stamped ulNow Member).wsGroupTitle
          (stamped ulNow Member).account = some old := htitle ▸ hold
      rw [hrecord] at hself
      exact ⟨Member.wsGroupTitle, _, hself, rfl,
        fun s' hr => Or.inl ⟨Member.wsGroupTitle, old, hrecord, hr⟩⟩
    · rcases (hpolls title old hold').resolve_left htitle with ⟨htick, hinfo⟩
      refine ⟨title, old, ?_, htick, ?_⟩
      · rw [heffect.others title Member.account (Or.inl htitle)]
        exact hold'
      · intro s' hr
        refine Or.inl ⟨title, old, hold', ?_⟩
        rw [hr, ← htick, ← hinfo]

theorem entered_other {ulNow : ULONGLONG} (Member : CrossAreaTeamMember)
    {s : CCrossAreaTeam} (hs : Consistent ulNow s) {a : WString}
    (ha : a ≠ Member.account) (title : WString) :
    (entered (stamped ulNow Member) s).record title a = s.record title a := by
  rcases entered_cases (stamped ulNow Member) hs.records with
    ⟨_, heffect⟩ | ⟨_, heffect⟩
  · exact heffect.others title a (Or.inr ha)
  · exact heffect.others title a (Or.inr ha)

theorem nobodyLost_of_none {T : MyTools} {ulHeard : WString -> ULONGLONG}
    {ulNow : ULONGLONG} {Member : CrossAreaTeamMember} {s : CCrossAreaTeam}
    (hs : Consistent ulNow s) (hids : IdsIssued s) (hheard : Heard ulHeard s)
    (hcount : (joinTeam T ulNow Member s).2.dwTeamIdCount < 2 ^ 32)
    (hpolls : PollsUnderTitle ulNow Member s)
    (hgroup : existCrossAreaTeamGroup T (stamped ulNow Member) s = none) :
    NobodyLost T ulHeard ulNow Member s := by
  have hpolled := polled_consistent hgroup hs
  have hids' := entered_idsIssued (stamped ulNow Member) hs.records hids
  have hafter := scheduling_consistent hpolled
  rw [joinTeam_of_none hgroup] at hcount
  constructor
  all_goals rw [joinTeam_of_none hgroup]
  case waiting =>
    intro title a r hr ha
    rw [← hheard title a r hr]
    rw [← entered_other Member hs ha title] at hr
    exact placed_of_consistent hafter (fun hr => ⟨title, r, hr⟩)
      (scheduling_placed hpolled hids' hcount hr)
  case caller =>
    rcases entered_caller hs hpolls with ⟨title, r, hr, htick, hwaits⟩
    apply placed_of_consistent hafter CallerWaits.waitsUnder
    rcases scheduling_placed hpolled hids' hcount hr with
      hstays | hin | ⟨_, hold⟩
    · exact Or.inl (hwaits _ hstays)
    · exact Or.inr (Or.inl hin)
    · rw [htick] at hold
      omega
  case groups =>
    intro dwTeamId g hg
    rw [← entered_groups (stamped ulNow Member) hs.records] at hg
    rw [scheduling_eq_turns]
    exact (afterTurns_groups hpolled hids' _).right.right dwTeamId g hg
  case found =>
    intro dwTeamId hid
    cases hid

theorem NoMatchAmong.not_chosenIn {ulNow : ULONGLONG} {s : CCrossAreaTeam}
    (h : NoMatchAmong everybody ulNow s) (hc : Consistent ulNow s)
    (pairs : List (WString × WString)) (m : CrossAreaTeamMember) :
    ¬ ChosenIn ulNow s pairs m := by
  intro hchosen
  rcases hchosen with ⟨pre, title, D, _, Classes, chosen, _, hclasses, hfill, _⟩
  have hpre := afterTurns_keeps ulNow (NoMatchAmong everybody ulNow)
    (fun _ _ _ _ _ hnone hout => hnone.turn hout) hc h pre
  have hnone := hpre.right title D Classes hclasses
  rw [filter_everybody, hfill] at hnone
  cases hnone

theorem not_nobodyLost {T : MyTools} {ulHeard : WString -> ULONGLONG}
    {ulNow : ULONGLONG} {Member : CrossAreaTeamMember} {s : CCrossAreaTeam}
    (hs : Consistent ulNow s) (hnone : NoMatchAmong everybody ulNow s)
    {title : WString} {r : CrossAreaTeamMember}
    (hr : s.record title Member.account = some r)
    (htitle : title ≠ Member.wsGroupTitle)
    (hnew : ¬ (r.ulTick = ulNow ∧ r.info = Member.info)) :
    ¬ NobodyLost T ulHeard ulNow Member s := by
  intro h
  have hout : existCrossAreaTeamGroup T (stamped ulNow Member) s = none := by
    rw [existCrossAreaTeamGroup_eq_none_iff]
    intro dwTeamId hin
    exact hs.teams.idle dwTeamId title _ hin ⟨r, hr⟩
  -- nothing is written under the polled title, and nobody can be matched
  have hsame : entered (stamped ulNow Member) s = s := by
    have hname : existCrossAreaTeamMember (stamped ulNow Member) s = true :=
      existCrossAreaTeamMember_iff.mpr ((hs.records.names _).mpr
        ⟨title, r, hr⟩)
    have hother :
        s.record (stamped ulNow Member).wsGroupTitle
          (stamped ulNow Member).account = none := by
      cases hx : s.record (stamped ulNow Member).wsGroupTitle
          (stamped ulNow Member).account with
      | none => rfl
      | some x =>
          exact absurd (hs.records.oneTitle _ _ _ ⟨r, hr⟩ ⟨x, hx⟩) htitle
    rw [entered, hname]
    exact updateTickInTeamMember_of_none hother
  have hcaller := h.caller
  rw [joinTeam_of_none hout, hsame] at hcaller
  have hafter : Consistent ulNow (scheduling ulNow s) := scheduling_consistent hs
  have hnotWaits : forall s', s'.record title Member.account = some r ->
      Consistent ulNow s' -> ¬ CallerWaits ulNow Member s s' := by
    intro s' hr' hs' hor
    rcases hor with ⟨t, old, hold, hwrote⟩ | ⟨hfree, _⟩
    · have ht := hs.records.oneTitle t title _ ⟨old, hold⟩ ⟨r, hr⟩
      rw [ht] at hold hwrote
      rw [hr'] at hwrote
      rw [Option.some.injEq] at hwrote
      exact hnew ⟨by rw [hwrote], by rw [hwrote]⟩
    · exact hfree title ⟨r, hr⟩
  rw [scheduling_eq_turns] at hcaller hafter
  cases afterTurns_fate hs hr (turns s) with
  | waits hwaits =>
      rcases hcaller with ⟨hw, _⟩ | ⟨_, ⟨dwTeamId, hin, _⟩, _⟩ | ⟨_, _, _, hold⟩
      · exact hnotWaits _ hwaits hafter hw
      · exact hafter.teams.idle dwTeamId title _ hin ⟨r, hwaits⟩
      · omega
  | chosen hchosen => exact hnone.not_chosenIn hs _ _ hchosen
  | timedOut _ hdropped =>
      rcases hcaller with ⟨hw, _⟩ | ⟨_, ⟨dwTeamId, hin, _⟩, _⟩ | ⟨_, _, _, hold⟩
      · rcases hw.waitsUnder with ⟨t, ht⟩
        exact hdropped.left t ht
      · exact hdropped.right dwTeamId hin
      · omega

/-!
## Whole histories
-/

theorem joinTeam_heard {T : MyTools} {ulHeard : WString -> ULONGLONG}
    {ulNow : ULONGLONG} {Member : CrossAreaTeamMember} {s : CCrossAreaTeam}
    (hs : Consistent ulNow s) (hheard : Heard ulHeard s)
    (hpolls : PollsUnderTitle ulNow Member s) :
    Heard (fun a => if Member.account == a then ulNow else ulHeard a)
      (joinTeam T ulNow Member s).2 := by
  intro title a r hr
  cases hgroup : existCrossAreaTeamGroup T (stamped ulNow Member) s with
  | some g =>
      rw [joinTeam_of_some hgroup] at hr
      have hother : ¬ Member.account = a := by
        intro ha
        rcases existCrossAreaTeamGroup_of_some hgroup with ⟨dwTeamId, hg, hmem⟩
        have hin : s.InGroup dwTeamId a := ⟨g, hg, ha ▸ hmem⟩
        exact hs.teams.idle dwTeamId title a hin ⟨r, hr⟩
      simpa [hother] using hheard title a r hr
  | none =>
      rw [joinTeam_of_none hgroup] at hr
      have hpolled := polled_consistent hgroup hs
      have hentered := scheduling_record hpolled hr
      by_cases ha : Member.account = a
      · rcases entered_caller hs hpolls with ⟨title', r', hr', htick, _⟩
        rw [← ha] at hentered
        have htitle := hpolled.records.oneTitle _ _ _ ⟨r, hentered⟩ ⟨r', hr'⟩
        rw [htitle, hr'] at hentered
        cases hentered
        simpa [ha] using htick
      · rw [entered_other Member hs (Ne.symm ha)] at hentered
        simpa [ha] using hheard title a r hentered

theorem apply_heard (T : MyTools) {ulHeard : WString -> ULONGLONG}
    {ulNow : ULONGLONG} {s : CCrossAreaTeam} (hs : Consistent ulNow s)
    (hheard : Heard ulHeard s) (call : Call)
    (hpolls : forall Member, call = .joinTeam Member ->
      PollsUnderTitle ulNow Member s) :
    Heard (fun a => if call.polledBy a then ulNow else ulHeard a)
      (apply T ulNow call s) := by
  cases call with
  | joinTeam Member => exact joinTeam_heard hs hheard (hpolls Member rfl)
  | deleteTeamGroup b =>
      intro title a r hr
      rw [apply, record, waitingUnder, (deleteTeamGroup_effect b s).records] at hr
      exact hheard title a r hr
  | deleteTeamMember b =>
      have heffect := deleteTeamMember_effect fun t t' =>
        hs.records.oneTitle t t' b
      intro title a r hr
      by_cases ha : a = b
      · rw [apply, ha, heffect.self] at hr
        cases hr
      · rw [apply, heffect.others title a ha] at hr
        exact hheard title a r hr

theorem apply_count_le (T : MyTools) {ulNow : ULONGLONG} (call : Call)
    {s : CCrossAreaTeam} (hs : Consistent ulNow s) (hids : IdsIssued s) :
    s.dwTeamIdCount ≤ (apply T ulNow call s).dwTeamIdCount := by
  cases call with
  | joinTeam Member =>
      cases hgroup : existCrossAreaTeamGroup T (stamped ulNow Member) s with
      | some g =>
          rw [apply, joinTeam_of_some hgroup]
      | none =>
          have hentered := entered_idsIssued (stamped ulNow Member) hs.records hids
          have hkept := afterTurns_groups (polled_consistent hgroup hs) hentered
            (turns (entered (stamped ulNow Member) s))
          rw [← scheduling_eq_turns, entered_count _ hs.records] at hkept
          rw [apply, joinTeam_of_none hgroup]
          exact hkept.right.left
  | deleteTeamGroup b =>
      rw [apply, (deleteTeamGroup_effect b s).count]
  | deleteTeamMember b =>
      have heffect := deleteTeamMember_effect fun t t' =>
        hs.records.oneTitle t t' b
      rw [apply, heffect.count]

theorem play_count_le (T : MyTools) {calls : List (ULONGLONG × Call)}
    {c : Clocked CCrossAreaTeam} (hc : Consistent c.now c.state)
    (hids : IdsIssued c.state) (hcalls : (machine T).Admits calls c) :
    c.state.dwTeamIdCount ≤ ((machine T).play calls c).state.dwTeamIdCount := by
  induction calls generalizing c with
  | nil => exact Nat.le_refl _
  | cons l calls ih =>
      rcases l with ⟨ulNow, call⟩
      have hs : Consistent ulNow c.state := hc.later hcalls.left
      exact Nat.le_trans (apply_count_le T call hs hids)
        (ih (apply_consistent T call hs) (apply_idsIssued T call hs hids)
          hcalls.right)

section

variable {T : MyTools} {Classes : Std.TreeMap WString VecClasses}

theorem play_heard {calls : List (ULONGLONG × Call)}
    (hcalls : (machine T).Admits calls (initial Classes))
    (hpolls : forall earlier ulNow Member later,
      calls = earlier ++ (ulNow, .joinTeam Member) :: later ->
      PollsUnderTitle ulNow Member
        ((machine T).play earlier (initial Classes)).state) :
    Heard (fun a => lastPoll a 0 calls)
      ((machine T).play calls (initial Classes)).state := by
  induction calls using List.reverseRecOn with
  | nil =>
      intro title a r hr
      have hnone : (initial Classes).state.record title a = none :=
        record_of_none rfl _
      rw [show ((machine T).play [] (initial Classes)) = initial Classes from rfl,
        hnone] at hr
      cases hr
  | append_singleton calls l ih =>
      rcases l with ⟨ulNow, call⟩
      rcases Machine.admits_append.mp hcalls with ⟨hbefore, hlast⟩
      have hheard := ih hbefore (by
        intro earlier ulNow' Member later hcut
        refine hpolls earlier ulNow' Member (later ++ [(ulNow, call)]) ?_
        rw [hcut, List.append_assoc, List.cons_append])
      have hreachable : Reachable T Classes
          ((machine T).play calls (initial Classes)) := hbefore.reaches
      have hs := hreachable.consistent.later hlast.left
      have hafter := apply_heard T hs hheard call (by
        intro Member hcall
        refine hpolls calls ulNow Member [] ?_
        rw [hcall])
      rw [Machine.play_append]
      intro title a r hr
      show r.ulTick = lastPoll a 0 (calls ++ [(ulNow, call)])
      rw [lastPoll_append]
      exact hafter title a r hr

/--
Along a history in which ids are left, no poll loses anybody exactly if no
caller waits under a title that differs from the polled one, or its record
there carries that very poll already.
-/
theorem nobodyLost_iff {calls : List (ULONGLONG × Call)}
    (hcalls : (machine T).Admits calls (initial Classes))
    (hcount : ((machine T).play calls (initial Classes)).state.dwTeamIdCount <
      2 ^ 32 - 1) :
    (forall earlier ulNow Member later,
      calls = earlier ++ (ulNow, .joinTeam Member) :: later ->
      NobodyLost T (fun a => lastPoll a 0 earlier) ulNow Member
        ((machine T).play earlier (initial Classes)).state) ↔
    forall earlier ulNow Member later,
      calls = earlier ++ (ulNow, .joinTeam Member) :: later ->
      forall title r,
        ((machine T).play earlier (initial Classes)).state.record title
            Member.account = some r ->
        title = Member.wsGroupTitle ∨
          (r.ulTick = ulNow ∧ r.info = Member.info) := by
  constructor
  · intro hlost earlier ulNow Member later hcut title r hr
    by_contra hbad
    rw [not_or] at hbad
    rw [hcut] at hcalls
    rcases Machine.admits_append.mp hcalls with ⟨hbefore, hlast⟩
    have h : Reachable T Classes ((machine T).play earlier (initial Classes)) :=
      hbefore.reaches
    have hnone := h.noMatch.later h.consistent.records hlast.left
    exact not_nobodyLost (h.consistent.later hlast.left) hnone hr hbad.left
      hbad.right (hlost earlier ulNow Member later hcut)
  · intro hpolls earlier ulNow Member later hcut
    have hpoll := hpolls earlier ulNow Member later hcut
    rw [hcut] at hcalls hcount
    rcases Machine.admits_append.mp hcalls with ⟨hbefore, hlast⟩
    have h : Reachable T Classes ((machine T).play earlier (initial Classes)) :=
      hbefore.reaches
    have hs := h.consistent.later hlast.left
    cases hgroup : existCrossAreaTeamGroup T (stamped ulNow Member)
        ((machine T).play earlier (initial Classes)).state with
    | some g => exact nobodyLost_of_group hs hgroup
    | none =>
        have hheard := play_heard hbefore (by
          intro earlier' ulNow' Member' later' hcut'
          refine hpolls earlier' ulNow' Member'
            (later' ++ (ulNow, .joinTeam Member) :: later) ?_
          rw [hcut, hcut', List.append_assoc, List.cons_append])
        have hmono := play_count_le T
          (apply_consistent T (.joinTeam Member) hs)
          (apply_idsIssued T (.joinTeam Member) hs h.idsIssued) hlast.right
        rw [Machine.play_append] at hcount
        exact nobodyLost_of_none hs h.idsIssued hheard
          (Nat.lt_of_le_of_lt hmono (Nat.lt_of_lt_of_le hcount (Nat.sub_le _ _)))
          hpoll hgroup

end

theorem Reachable.no_record {T : MyTools} {Classes : Std.TreeMap WString VecClasses}
    {c : Clocked CCrossAreaTeam} (h : Reachable T Classes c) {title a : WString}
    {r : CrossAreaTeamMember} (hr : c.state.record title a = some r) :
    a ∈ c.state.setTeamMemberName :=
  (h.consistent.records.names a).mpr ⟨title, r, hr⟩

def bluePolls : List (ULONGLONG × Call) :=
  duoCalls ++ [(40, .joinTeam (duoPlayer (L "clara") (L "blue") .gunner))]

theorem bluePolls_lose_nobody :
    NobodyLost MyTools.standard (fun a => lastPoll a 0 duoCalls) 40
      (duoPlayer (L "clara") (L "blue") .gunner) duoState.state := by
  have hadmits : (machine MyTools.standard).Admits bluePolls (initial duoTable) := by
    decide
  apply (nobodyLost_iff hadmits (by decide)).mpr _ duoCalls 40 _ [] rfl
  intro earlier ulNow Member later hcut title r hr
  rw [hcut] at hadmits
  have h : Reachable MyTools.standard duoTable
      ((machine MyTools.standard).play earlier (initial duoTable)) :=
    (Machine.admits_append.mp hadmits).left.reaches
  have hname := h.no_record hr
  rcases earlier with _ | ⟨first, _ | ⟨second, _ | ⟨third, _ | ⟨fourth, rest⟩⟩⟩⟩
  · cases hcut
    exact absurd hname (by decide)
  · cases hcut
    exact absurd hname (by decide)
  · cases hcut
    exact absurd hname (by decide)
  · -- she waits under the one title
    cases hcut
    have hblue : (duoState.state.record (L "blue") (L "clara")).isSome := by decide
    rcases Option.isSome_iff_exists.mp hblue with ⟨x, hx⟩
    exact Or.inl (h.consistent.records.oneTitle title (L "blue") (L "clara")
      ⟨r, hr⟩ ⟨x, hx⟩)
  · have hlength := congrArg List.length hcut
    simp [bluePolls, duoCalls] at hlength

/-- She polls under a new title instead, and her own poll drops her. -/
theorem greenPoll_loses :
    (machine MyTools.standard).Admits
        (duoCalls ++
          [(30031, .joinTeam (duoPlayer (L "clara") (L "green") .gunner))])
        (initial duoTable) ∧
      L "clara" ∈ duoState.state.setTeamMemberName ∧
      L "clara" ∉ (joinTeam MyTools.standard 30031
        (duoPlayer (L "clara") (L "green") TeamMeberClasses.gunner)
        duoState.state).2.setTeamMemberName ∧
      ¬ NobodyLost MyTools.standard (fun a => lastPoll a 0 duoCalls) 30031
        (duoPlayer (L "clara") (L "green") TeamMeberClasses.gunner)
        duoState.state := by
  refine ⟨by decide, by decide, by decide, ?_⟩
  have hs := duoState_reachable.consistent
  have hlater : duoState.now ≤ 30031 := by decide
  have hblue : (duoState.state.record (L "blue") (L "clara")).map
      CrossAreaTeamMember.ulTick = some 30 := by
    decide
  rcases Option.map_eq_some_iff.mp hblue with ⟨r, hr, htick⟩
  refine not_nobodyLost (hs.later hlater)
    (duoState_reachable.noMatch.later hs.records hlater) hr (by decide) ?_
  rw [htick]
  intro hboth
  rcases hboth with ⟨hnow, _⟩
  exact absurd hnow (by decide)

/-!
## Steady polling
-/

/-- The fields a poll never writes into a record that is there. -/
structure SameContent (r r' : CrossAreaTeamMember) : Prop where
  wsGroupTitle : r.wsGroupTitle = r'.wsGroupTitle
  emClasses : r.emClasses = r'.emClasses
  setDungoenName : r.setDungoenName = r'.setDungoenName
  dwRoomId : r.dwRoomId = r'.dwRoomId
  ulStartTick : r.ulStartTick = r'.ulStartTick

theorem SameContent.refl (r : CrossAreaTeamMember) : SameContent r r :=
  ⟨rfl, rfl, rfl, rfl, rfl⟩

theorem SameContent.trans {r r' r'' : CrossAreaTeamMember}
    (h : SameContent r r') (h' : SameContent r' r'') : SameContent r r'' :=
  ⟨h.wsGroupTitle.trans h'.wsGroupTitle, h.emClasses.trans h'.emClasses,
    h.setDungoenName.trans h'.setDungoenName, h.dwRoomId.trans h'.dwRoomId,
    h.ulStartTick.trans h'.ulStartTick⟩

namespace Call

/-- The account does not leave, and polls under the title only. -/
def StaysUnder (title a : WString) : Call -> Prop
  | joinTeam Member => Member.account = a -> Member.wsGroupTitle = title
  | deleteTeamGroup _ => True
  | deleteTeamMember wsAccountName => wsAccountName ≠ a

/-- The scheduling of the call chooses the record for a team. -/
def Chooses (T : MyTools) (ulNow : ULONGLONG) (s : CCrossAreaTeam)
    (r : CrossAreaTeamMember) : Call -> Prop
  | joinTeam Member =>
      existCrossAreaTeamGroup T (stamped ulNow Member) s = none ∧
        ChosenIn ulNow (entered (stamped ulNow Member) s)
          (turns (entered (stamped ulNow Member) s)) r
  | _ => False

end Call

/-- Every call comes at most 30 s after the account's last poll. -/
def PollsSteadily (title a : WString) :
    ULONGLONG -> List (ULONGLONG × Call) -> Prop
  | _, [] => True
  | ulTick, (ulNow, call) :: calls =>
      ulNow.toNat ≤ ulTick.toNat + 30 * 1000 ∧ call.StaysUnder title a ∧
        PollsSteadily title a (if call.polledBy a then ulNow else ulTick) calls

theorem scheduling_alive {ulNow : ULONGLONG} {s : CCrossAreaTeam}
    (hs : Consistent ulNow s) {title a : WString} {r : CrossAreaTeamMember}
    (hr : s.record title a = some r) (halive : isKeepALive ulNow r = true) :
    (scheduling ulNow s).record title a = some r ∨
      ChosenIn ulNow s (turns s) r := by
  rw [scheduling_eq_turns]
  cases afterTurns_fate hs hr (turns s) with
  | waits hwaits => exact Or.inl hwaits
  | chosen hchosen => exact Or.inr hchosen
  | timedOut hdead _ =>
      rw [halive] at hdead
      cases hdead

theorem joinTeam_steady (T : MyTools) {ulNow : ULONGLONG}
    {Member : CrossAreaTeamMember} {s : CCrossAreaTeam}
    (hs : Consistent ulNow s) {title a : WString} {r : CrossAreaTeamMember}
    (hr : s.record title a = some r)
    (hsteady : ulNow.toNat ≤ r.ulTick.toNat + 30 * 1000)
    (hstays : Member.account = a -> Member.wsGroupTitle = title) :
    (exists r', (joinTeam T ulNow Member s).2.record title a = some r' ∧
        SameContent r' r ∧
        r'.ulTick = if Member.account == a then ulNow else r.ulTick) ∨
      exists r', SameContent r' r ∧
        (Call.joinTeam Member).Chooses T ulNow s r' := by
  cases hgroup : existCrossAreaTeamGroup T (stamped ulNow Member) s with
  | some g =>
      -- a waiting player is in no team, so this is somebody else's poll
      rw [joinTeam_of_some hgroup]
      have hother : ¬ Member.account = a := by
        intro ha
        rcases existCrossAreaTeamGroup_of_some hgroup with ⟨dwTeamId, g, hmem⟩
        have hin : s.InGroup dwTeamId a := ⟨_, g, ha ▸ hmem⟩
        exact hs.teams.idle dwTeamId title a hin ⟨r, hr⟩
      exact Or.inl ⟨r, hr, SameContent.refl r, by simp [hother]⟩
  | none =>
      rw [joinTeam_of_none hgroup]
      have hpolled := polled_consistent hgroup hs
      by_cases ha : Member.account = a
      · have hrecord : (entered (stamped ulNow Member) s).record title a =
            some (refreshed (stamped ulNow Member) r) := by
          rcases entered_cases (stamped ulNow Member) hs.records with
            ⟨hfree, _⟩ | ⟨_, heffect⟩
          · rw [← ha] at hr
            exact absurd ⟨r, hr⟩ (hfree title)
          · have hself := heffect.self
            have htitle : (stamped ulNow Member).wsGroupTitle = title := hstays ha
            have haccount : (stamped ulNow Member).account = a := ha
            rw [htitle, haccount, hr] at hself
            exact hself
        have hsame : SameContent (refreshed (stamped ulNow Member) r) r :=
          ⟨rfl, rfl, rfl, rfl, rfl⟩
        rcases scheduling_alive hpolled hrecord (isKeepALive_now rfl) with
          hkept | hchosen
        · refine Or.inl ⟨_, hkept, hsame, ?_⟩
          rw [if_pos (by simpa using ha)]
          rfl
        · exact Or.inr ⟨_, hsame, hgroup, hchosen⟩
      · rw [← entered_other Member hs (Ne.symm ha) title] at hr
        have halive : isKeepALive ulNow r = true :=
          (isKeepALive_iff (hpolled.records.ticks title a r hr)).mpr hsteady
        rcases scheduling_alive hpolled hr halive with hkept | hchosen
        · exact Or.inl ⟨r, hkept, SameContent.refl r, by simp [ha]⟩
        · exact Or.inr ⟨r, SameContent.refl r, hgroup, hchosen⟩

theorem apply_steady (T : MyTools) {ulNow : ULONGLONG} (call : Call)
    {s : CCrossAreaTeam} (hs : Consistent ulNow s) {title a : WString}
    {r : CrossAreaTeamMember} (hr : s.record title a = some r)
    (hsteady : ulNow.toNat ≤ r.ulTick.toNat + 30 * 1000)
    (hstays : call.StaysUnder title a) :
    (exists r', (apply T ulNow call s).record title a = some r' ∧
        SameContent r' r ∧
        r'.ulTick = if call.polledBy a then ulNow else r.ulTick) ∨
      exists r', SameContent r' r ∧ call.Chooses T ulNow s r' := by
  cases call with
  | joinTeam Member => exact joinTeam_steady T hs hr hsteady hstays
  | deleteTeamGroup b =>
      refine Or.inl ⟨r, ?_, SameContent.refl r, rfl⟩
      rw [apply, record, waitingUnder, (deleteTeamGroup_effect b s).records]
      exact hr
  | deleteTeamMember b =>
      have heffect := deleteTeamMember_effect fun t t' =>
        hs.records.oneTitle t t' b
      refine Or.inl ⟨r, ?_, SameContent.refl r, rfl⟩
      rw [apply, heffect.others title a (Ne.symm hstays)]
      exact hr

theorem play_steady (T : MyTools) {calls : List (ULONGLONG × Call)}
    {c : Clocked CCrossAreaTeam} (hc : Consistent c.now c.state)
    (hcalls : (machine T).Admits calls c) {title a : WString}
    {r : CrossAreaTeamMember} (hr : c.state.record title a = some r)
    (hsteady : PollsSteadily title a r.ulTick calls) :
    (exists r', ((machine T).play calls c).state.record title a = some r' ∧
        SameContent r' r ∧ r'.ulTick = lastPoll a r.ulTick calls) ∨
      exists pre ulNow call post r', calls = pre ++ (ulNow, call) :: post ∧
        SameContent r' r ∧
        call.Chooses T ulNow ((machine T).play pre c).state r' := by
  induction calls generalizing c r with
  | nil => exact Or.inl ⟨r, hr, SameContent.refl r, rfl⟩
  | cons l calls ih =>
      rcases l with ⟨ulNow, call⟩
      rcases hcalls with ⟨hlater, hcalls⟩
      rcases hsteady with ⟨htime, hstays, hsteady⟩
      have hs : Consistent ulNow c.state := hc.later hlater
      rcases apply_steady T call hs hr htime hstays with
        ⟨r', hr', hsame, htick⟩ | ⟨r', hsame, hchosen⟩
      · rw [← htick] at hsteady
        rcases ih (apply_consistent T call hs) hcalls hr' hsteady with
          ⟨r'', hr'', hsame', htick'⟩ |
            ⟨pre, ulNow', call', post, r'', hcut, hsame', hchosen⟩
        · rw [htick] at htick'
          exact Or.inl ⟨r'', hr'', hsame'.trans hsame, htick'⟩
        · refine Or.inr ⟨(ulNow, call) :: pre, ulNow', call', post, r'', ?_,
            hsame'.trans hsame, hchosen⟩
          rw [hcut, List.cons_append]
      · exact Or.inr ⟨[], ulNow, call, calls, r', rfl, hsame, hchosen⟩

theorem joinTeam_record {T : MyTools} {ulNow : ULONGLONG}
    {Member : CrossAreaTeamMember} {s : CCrossAreaTeam}
    (hs : Consistent ulNow s) (hfalse : (joinTeam T ulNow Member s).1 = none)
    {title : WString} {r : CrossAreaTeamMember}
    (hr : (joinTeam T ulNow Member s).2.record title Member.account = some r) :
    ((forall title', ¬ s.WaitsUnder title' Member.account) ->
        title = Member.wsGroupTitle ∧
          r = { Member with ulTick := ulNow, ulStartTick := ulNow }) ∧
      forall old, s.record Member.wsGroupTitle Member.account = some old ->
        title = Member.wsGroupTitle ∧
          r = { old with ulTick := ulNow, info := Member.info } := by
  cases hgroup : existCrossAreaTeamGroup T (stamped ulNow Member) s with
  | some g =>
      rw [joinTeam_of_some hgroup] at hfalse
      cases hfalse
  | none =>
      rw [joinTeam_of_none hgroup] at hr
      have hpolled := polled_consistent hgroup hs
      have hentered := scheduling_record hpolled hr
      -- the entered record is the only one the account has
      have hunique : forall x,
          (entered (stamped ulNow Member) s).record Member.wsGroupTitle
            Member.account = some x -> title = Member.wsGroupTitle ∧ r = x := by
        intro x hx
        have htitle := hpolled.records.oneTitle _ _ _ ⟨r, hentered⟩ ⟨x, hx⟩
        rw [htitle, hx] at hentered
        cases hentered
        exact ⟨htitle, rfl⟩
      rcases entered_cases (stamped ulNow Member) hs.records with
        ⟨hfree, heffect⟩ | ⟨⟨t, x, hx⟩, heffect⟩
      · refine ⟨fun _ => hunique _ heffect.self, ?_⟩
        intro old hold
        exact absurd ⟨old, hold⟩ (hfree Member.wsGroupTitle)
      · refine ⟨fun hfree => absurd ⟨x, hx⟩ (hfree t), ?_⟩
        intro old hold
        have hself := heffect.self
        have hrecord : s.record (stamped ulNow Member).wsGroupTitle
            (stamped ulNow Member).account = some old := hold
        rw [hrecord] at hself
        exact hunique _ hself

/--
A poll that leaves the caller waiting entered the caller's own record, or wrote
its tick and info into the record under the polled title and nothing else.  An
account that polls steadily under its title is never purged: it keeps its
record, with the tick of its last poll, until a call's scheduling chooses it,
with the content it began to wait with.
-/
theorem Reachable.poll_record {T : MyTools}
    {Classes : Std.TreeMap WString VecClasses} {c : Clocked CCrossAreaTeam}
    (h : Reachable T Classes c) :
    (forall ulNow Member title r, c.now ≤ ulNow ->
        (joinTeam T ulNow Member c.state).1 = none ->
        (joinTeam T ulNow Member c.state).2.record title Member.account =
          some r ->
        ((forall title', ¬ c.state.WaitsUnder title' Member.account) ->
            title = Member.wsGroupTitle ∧
              r = { Member with ulTick := ulNow, ulStartTick := ulNow }) ∧
          forall old,
            c.state.record Member.wsGroupTitle Member.account = some old ->
              title = Member.wsGroupTitle ∧
                r = { old with ulTick := ulNow, info := Member.info }) ∧
      forall title a r calls, c.state.record title a = some r ->
        (machine T).Admits calls c -> PollsSteadily title a r.ulTick calls ->
        (exists r', ((machine T).play calls c).state.record title a = some r' ∧
            SameContent r' r ∧ r'.ulTick = lastPoll a r.ulTick calls) ∨
          exists pre ulNow call post r', calls = pre ++ (ulNow, call) :: post ∧
            SameContent r' r ∧
            call.Chooses T ulNow ((machine T).play pre c).state r' := by
  constructor
  · intro ulNow Member title r hlater hfalse hr
    exact joinTeam_record (h.consistent.later hlater) hfalse hr
  · intro title a r calls hr hcalls hsteady
    exact play_steady T h.consistent hcalls hr hsteady

def duoPoll : Option DWORD × CCrossAreaTeam :=
  joinTeam MyTools.standard 40
    (duoPlayer (L "clara") (L "blue") TeamMeberClasses.assassin) duoState.state

/-- It moves the tick, and the player stays while others come and go. -/
theorem duoState_poll_record :
    (exists old, duoState.state.record (L "blue") (L "clara") = some old ∧
        duoPoll.2.record (L "blue") (L "clara") =
          some { old with ulTick := 40, info := { wsAccountName := L "clara" } }) ∧
      exists r,
        ((machine MyTools.standard).play
          [(30030, Call.deleteTeamGroup (L "anna"))] duoState).state.record
            (L "blue") (L "clara") = some r ∧ r.ulTick = 30 := by
  have hpolls := Reachable.poll_record duoState_reachable
  have hbefore : (duoState.state.record (L "blue") (L "clara")).map
      CrossAreaTeamMember.ulTick = some 30 := by
    decide
  rcases Option.map_eq_some_iff.mp hbefore with ⟨old, hold, htick⟩
  have hafter : (duoPoll.2.record (L "blue") (L "clara")).isSome := by decide
  rcases Option.isSome_iff_exists.mp hafter with ⟨r, hr⟩
  constructor
  · refine ⟨old, hold, ?_⟩
    have hwrote := hpolls.left 40
      (duoPlayer (L "clara") (L "blue") TeamMeberClasses.assassin) (L "blue") r
      (by decide) (by decide) hr
    rw [hr, (hwrote.right old hold).right]
    rfl
  · have hsteady : PollsSteadily (L "blue") (L "clara") old.ulTick
        [(30030, Call.deleteTeamGroup (L "anna"))] := by
      rw [htick]
      exact ⟨by decide, trivial, trivial⟩
    rcases hpolls.right (L "blue") (L "clara") old _ hold (by decide) hsteady with
      ⟨r', hr', _, htick'⟩ | ⟨pre, ulNow, call, post, r', hcut, _, hchosen⟩
    · exact ⟨r', hr', htick'.trans htick⟩
    · have hmem : (ulNow, call) ∈ [((30030 : ULONGLONG),
          Call.deleteTeamGroup (L "anna"))] := by
        rw [hcut]
        simp
      rw [List.mem_singleton, Prod.mk.injEq] at hmem
      rw [hmem.right] at hchosen
      exact hchosen.elim

/-- The new class of the second poll is not in the record. -/
theorem duoPoll_keeps_class :
    Reachable MyTools.standard duoTable duoState ∧ duoState.now ≤ 40 ∧
      duoPoll.1 = none ∧
      exists r, duoPoll.2.record (L "blue") (L "clara") = some r ∧
        r.ulTick = 40 ∧ r.emClasses ≠ TeamMeberClasses.assassin := by
  have hclass : (duoPoll.2.record (L "blue") (L "clara")).map
      (fun r => (r.ulTick, r.emClasses)) =
        some (40, TeamMeberClasses.gunner) := by
    decide
  rcases Option.map_eq_some_iff.mp hclass with ⟨r, hr, hfields⟩
  rw [Prod.mk.injEq] at hfields
  refine ⟨duoState_reachable, by decide, by decide, r, hr, hfields.left, ?_⟩
  rw [hfields.right]
  decide

end CCrossAreaTeam
end BnsKorea
