import BnsKorea.TaskTeam.Invariant

/-!
# Group titles

The titles accounts were placed in their teams with are recorded beside the
tables.  A team keeps the members of one title apart from others only as long
as every join that takes a seat carries the title its captain was placed with:
creating a team does not store the title, and the second search looks at none.
-/

namespace BnsKorea

open Library

namespace CBnsTaskTeam

variable {T : MyTools}

/-!
## The record of titles
-/

/-- The tables, and by map, key and account the title of the placing join. -/
structure Titled where
  team : CBnsTaskTeam := {}
  placed : TeamMap -> WString -> WString -> WString := fun _ _ _ => []

def joinOf : Call -> Option (TeamMap × ClientTeamInfo)
  | .joinTaskTeam CtiMember => some (.taskTeamMap, CtiMember)
  | .joinDungoenTeam CtiMember => some (.dungoenTeamMap, CtiMember)
  | _ => none

/-- The call is a valid join of an account that is in no team of the key. -/
def Places (T : MyTools) (call : Call) (s : CBnsTaskTeam) (w : TeamMap)
    (CtiMember : ClientTeamInfo) : Prop :=
  joinOf call = some (w, CtiMember) ∧ isWork CtiMember = true ∧
    CtiMember.selfCti.wsAccountName ∉
      accountsOf (s.teamsAt w (createMapText T CtiMember))

def record (T : MyTools) (call : Call) (h : Titled) (w : TeamMap)
    (wsMapText wsAccountName : WString) : WString :=
  match joinOf call with
  | none => h.placed w wsMapText wsAccountName
  | some (w', CtiMember) =>
      if w' = w ∧ createMapText T CtiMember = wsMapText ∧
          CtiMember.selfCti.wsAccountName = wsAccountName ∧
          isWork CtiMember = true ∧
          wsAccountName ∉ accountsOf (h.team.teamsAt w wsMapText) then
        CtiMember.wsGroupTitle
      else h.placed w wsMapText wsAccountName

def titled (T : MyTools) : Machine Titled Call where
  enabled _ _ := True
  step call h := { team := apply T call h.team, placed := record T call h }

def TitlesAgree (h : Titled) : Prop :=
  forall w wsMapText team, team ∈ h.team.teamsAt w wsMapText ->
    forall a b, a ∈ team.accounts -> b ∈ team.accounts ->
      h.placed w wsMapText a ≠ [] ∨ h.placed w wsMapText b ≠ [] ->
      h.placed w wsMapText a = h.placed w wsMapText b

theorem TitlesAgree.eq {h : Titled} (hagree : TitlesAgree h) {w : TeamMap}
    {wsMapText : WString} {team : TeamMemberGroup}
    (hteam : team ∈ h.team.teamsAt w wsMapText) {a b : WString}
    (ha : a ∈ team.accounts) (hb : b ∈ team.accounts) :
    h.placed w wsMapText a = h.placed w wsMapText b := by
  by_cases hempty : h.placed w wsMapText a ≠ [] ∨ h.placed w wsMapText b ≠ []
  · exact hagree w wsMapText team hteam a b ha hb hempty
  · rw [not_or, not_not, not_not] at hempty
    rw [hempty.left, hempty.right]

theorem record_of_places {call : Call} {h : Titled} {w : TeamMap}
    {CtiMember : ClientTeamInfo} (hplaces : Places T call h.team w CtiMember) :
    record T call h w (createMapText T CtiMember)
      CtiMember.selfCti.wsAccountName = CtiMember.wsGroupTitle := by
  unfold record
  rw [hplaces.left]
  exact if_pos ⟨rfl, rfl, rfl, hplaces.right.left, hplaces.right.right⟩

theorem record_of_mem {call : Call} {h : Titled} {w : TeamMap}
    {wsMapText wsAccountName : WString}
    (hmem : wsAccountName ∈ accountsOf (h.team.teamsAt w wsMapText)) :
    record T call h w wsMapText wsAccountName =
      h.placed w wsMapText wsAccountName := by
  unfold record
  split
  · rfl
  · apply if_neg
    intro hnew
    exact hnew.right.right.right.right hmem

/-!
## Seats
-/

def FirstUnderTitle (CtiMember : ClientTeamInfo) (p : Place TeamMemberGroup) :
    Prop :=
  vacantUnderTitle CtiMember p.here = true ∧
    forall team, team ∈ p.pre -> vacantUnderTitle CtiMember team = false

/--
The team that takes the caller in: the first that has room and no other title,
if it is not read-only, or else the first that has room and is not read-only.
-/
def OffersSeat (CtiMember : ClientTeamInfo) (p : Place TeamMemberGroup) : Prop :=
  (FirstUnderTitle CtiMember p ∧ p.here.isReadOnly = false) ∨
    ((forall q : Place TeamMemberGroup, q.whole = p.whole ->
        FirstUnderTitle CtiMember q -> q.here.isReadOnly = true) ∧
      vacantNotReadOnly p.here = true ∧
      forall team, team ∈ p.pre -> vacantNotReadOnly team = false)

theorem findSeat_of_offers {CtiMember : ClientTeamInfo}
    {p : Place TeamMemberGroup} (h : OffersSeat CtiMember p) :
    exists wsGroupTitle,
      findSeat T CtiMember p.whole = some (p, wsGroupTitle) := by
  simp only [findSeat, MyTools.dequeFindIf_eq]
  rcases h with ⟨⟨htest, hpre⟩, hopen⟩ | ⟨hclosed, htest, hpre⟩
  · rw [firstPlace_of_first htest hpre]
    simp [hopen]
  · rw [firstPlace_of_first htest hpre]
    cases hfirst : firstPlace (vacantUnderTitle CtiMember) p.whole with
    | none => exact ⟨_, rfl⟩
    | some q =>
        rcases firstPlace_eq_some hfirst with ⟨hwhole, hq, hqpre⟩
        simp [hclosed q hwhole ⟨hq, hqpre⟩]

theorem offers_of_findSeat {CtiMember : ClientTeamInfo} {TeamGroup_ : TeamGroup}
    {p : Place TeamMemberGroup} {wsGroupTitle : WString}
    (h : findSeat T CtiMember TeamGroup_ = some (p, wsGroupTitle)) :
    OffersSeat CtiMember p := by
  have hwhole := (findSeat_eq_some h).left
  have hsecond : (firstPlace vacantNotReadOnly TeamGroup_).map
        (fun p => (p, CtiMember.wsGroupTitle)) = some (p, wsGroupTitle) ->
      vacantNotReadOnly p.here = true ∧
        forall team, team ∈ p.pre -> vacantNotReadOnly team = false := by
    intro hp
    rcases Option.map_eq_some_iff.mp hp with ⟨q, hq, heq⟩
    cases heq
    exact (firstPlace_eq_some hq).right
  -- the first place that passes the first search is the one it finds
  have hfirst : forall q : Place TeamMemberGroup, q.whole = p.whole ->
      FirstUnderTitle CtiMember q ->
      firstPlace (vacantUnderTitle CtiMember) TeamGroup_ = some q := by
    intro q hq hunder
    rw [← hwhole, ← hq]
    exact firstPlace_of_first hunder.left hunder.right
  simp only [findSeat, MyTools.dequeFindIf_eq] at h
  split at h
  · rename_i q hq
    split at h
    · rename_i hclosed
      refine Or.inr ⟨?_, hsecond h⟩
      intro q' hwhole' hunder
      have hsame := (hfirst q' hwhole' hunder).symm.trans hq
      rw [Option.some.inj hsame]
      exact hclosed
    · rename_i hopen
      cases h
      exact Or.inl ⟨(firstPlace_eq_some hq).right, Bool.eq_false_iff.mpr hopen⟩
  · rename_i hnone
    refine Or.inr ⟨?_, hsecond h⟩
    intro q hwhole' hunder
    rw [hfirst q hwhole' hunder] at hnone
    cases hnone

/-- A join that takes a seat carries the title of the team's captain. -/
def SeatTitleAgrees (T : MyTools) (call : Call) (h : Titled) : Prop :=
  forall w CtiMember, Places T call h.team w CtiMember ->
    forall p : Place TeamMemberGroup,
      p.whole = h.team.teamsAt w (createMapText T CtiMember) ->
      OffersSeat CtiMember p ->
      forall Captain others, p.here.memberVec = Captain :: others ->
        h.placed w (createMapText T CtiMember) Captain.account =
          CtiMember.wsGroupTitle

/-!
## Calls that place nobody
-/

def KeepsTeams (s after : CBnsTaskTeam) : Prop :=
  forall w wsMapText team, team ∈ after.teamsAt w wsMapText ->
    exists old, old ∈ s.teamsAt w wsMapText ∧ old.accounts = team.accounts

theorem KeepsTeams.of_sublists {s after : CBnsTaskTeam}
    (hleft : forall w wsMapText,
      (after.teamsAt w wsMapText).Sublist (s.teamsAt w wsMapText)) :
    KeepsTeams s after :=
  fun w wsMapText team hteam => ⟨team, (hleft w wsMapText).subset hteam, rfl⟩

theorem updateTeam_keepsTeams (dwTeamId : DWORD)
    (Worker : TeamMemberGroup -> TeamMemberGroup)
    (hworker : forall team, SameShape team (Worker team)) (s : CBnsTaskTeam) :
    KeepsTeams s (updateTeam_By_TeamId T dwTeamId Worker s) := by
  rcases updateTeam_cases (T := T) dwTeamId Worker s with
    hsame | ⟨key, p, hwhole, hupdated⟩
  · rw [hsame]
    exact KeepsTeams.of_sublists fun _ _ => List.Sublist.refl _
  · rw [hupdated]
    intro w wsMapText team hteam
    by_cases hslot : TeamMap.dungoenTeamMap = w ∧ key = wsMapText
    · rw [← hslot.left, ← hslot.right] at hteam ⊢
      rw [teamsAt_setGroup_self] at hteam
      rw [← hwhole]
      rcases Place.mem_whole_of_mem_put hteam with heq | hmem
      · rw [heq]
        exact ⟨p.here, Place.mem_whole, (hworker p.here).accounts.symm⟩
      · exact ⟨team, hmem, rfl⟩
    · rw [teamsAt_setGroup_of_ne s _ hslot] at hteam
      exact ⟨team, hteam, rfl⟩

theorem Outcome.keeps {CtiMember : ClientTeamInfo} {n n' : Nat}
    {before after : TeamGroup} {team : TeamMemberGroup}
    (h : Outcome T CtiMember n before team after n')
    (hin : CtiMember.selfCti.wsAccountName ∈ accountsOf before)
    {other : TeamMemberGroup} (hother : other ∈ after) :
    exists old, old ∈ before ∧ old.accounts = other.accounts := by
  cases h with
  | found hwhole hself haccount =>
      rename_i p self
      rw [← hwhole]
      rcases Place.mem_whole_of_mem_put hother with heq | hmem
      · rw [heq]
        exact ⟨p.here, Place.mem_whole, (rejoined_shape hself).accounts.symm⟩
      · exact ⟨other, hmem, rfl⟩
  | seated habsent _ => exact absurd hin habsent
  | founded habsent _ => exact absurd hin habsent

theorem join_keepsTeams {s : CBnsTaskTeam} (hs : TablesOk T s) (w : TeamMap)
    {CtiMember : ClientTeamInfo}
    (hin : isWork CtiMember = true -> CtiMember.selfCti.wsAccountName ∈
      accountsOf (s.teamsAt w (createMapText T CtiMember))) :
    KeepsTeams s (join T w CtiMember {} s).2.1 := by
  cases hwork : isWork CtiMember with
  | false =>
      rw [join, hwork]
      exact KeepsTeams.of_sublists fun _ _ => List.Sublist.refl _
  | true =>
      rw [join_of_isWork hwork]
      rcases joinTeam_outcome hs CtiMember w with ⟨team, hjoin⟩
      intro w' wsMapText other hother
      by_cases hslot : w = w' ∧ createMapText T CtiMember = wsMapText
      · rw [← hslot.left, ← hslot.right] at hother ⊢
        exact hjoin.outcome.keeps (hin hwork) hother
      · rw [hjoin.others w' wsMapText hslot] at hother
        exact ⟨other, hother, rfl⟩

theorem apply_keepsTeams {s : CBnsTaskTeam} (hs : TablesOk T s) {call : Call}
    (hplaces : forall w CtiMember, ¬ Places T call s w CtiMember) :
    KeepsTeams s (apply T call s) := by
  cases call with
  | joinTaskTeam CtiMember =>
      apply join_keepsTeams hs .taskTeamMap
      intro hwork
      by_contra habsent
      exact hplaces .taskTeamMap CtiMember ⟨rfl, hwork, habsent⟩
  | joinDungoenTeam CtiMember =>
      apply join_keepsTeams hs .dungoenTeamMap
      intro hwork
      by_contra habsent
      exact hplaces .dungoenTeamMap CtiMember ⟨rfl, hwork, habsent⟩
  | deleteTaskMember wsAccountName =>
      exact KeepsTeams.of_sublists (deleteTaskMember_sublist wsAccountName s)
  | deleteDungoenTeamMember wsPlayerName =>
      exact KeepsTeams.of_sublists
        (deleteDungoenTeamMember_sublist wsPlayerName s)
  | updateDungoenSchedule TeamScheduleMsg_ =>
      exact updateTeam_keepsTeams _ _ (updateDungoenSchedule_shape _) s
  | setReadOnlyTeam dwTeamId =>
      exact updateTeam_keepsTeams dwTeamId _ setReadOnlyTeam_shape s

theorem titlesAgree_of_keeps {call : Call} {h : Titled}
    (hkeeps : KeepsTeams h.team (apply T call h.team))
    (hagree : TitlesAgree h) : TitlesAgree ((titled T).step call h) := by
  intro w wsMapText team hteam a b ha hb _
  rcases hkeeps w wsMapText team hteam with ⟨old, hold, haccounts⟩
  rw [← haccounts] at ha hb
  have hstays : forall {wsAccountName}, wsAccountName ∈ old.accounts ->
      ((titled T).step call h).placed w wsMapText wsAccountName =
        h.placed w wsMapText wsAccountName := by
    intro wsAccountName hmem
    exact record_of_mem (mem_accountsOf.mpr ⟨old, hold, hmem⟩)
  rw [hstays ha, hstays hb]
  exact hagree.eq hold ha hb

/-!
## Calls that place an account
-/

theorem apply_of_places {call : Call} {s : CBnsTaskTeam} {w : TeamMap}
    {CtiMember : ClientTeamInfo} (hplaces : Places T call s w CtiMember) :
    apply T call s = (joinTeam T CtiMember w {} s).1 := by
  rcases hplaces with ⟨hjoin, hwork, _⟩
  cases call with
  | joinTaskTeam =>
      cases hjoin
      exact congrArg (fun answer => answer.2.1)
        (join_of_isWork hwork .taskTeamMap s)
  | joinDungoenTeam =>
      cases hjoin
      exact congrArg (fun answer => answer.2.1)
        (join_of_isWork hwork .dungoenTeamMap s)
  | deleteTaskMember => cases hjoin
  | deleteDungoenTeamMember => cases hjoin
  | updateDungoenSchedule => cases hjoin
  | setReadOnlyTeam => cases hjoin

theorem Outcome.of_absent {CtiMember : ClientTeamInfo} {n n' : Nat}
    {before after : TeamGroup} {team : TeamMemberGroup}
    (h : Outcome T CtiMember n before team after n')
    (habsent : CtiMember.selfCti.wsAccountName ∉ accountsOf before) :
    (exists (p : Place TeamMemberGroup) (wsGroupTitle : WString),
      findSeat T CtiMember before = some (p, wsGroupTitle) ∧
        after = p.put (seatMember CtiMember wsGroupTitle p.here)) ∨
      (findSeat T CtiMember before = none ∧ exists dwTeamId,
        after = before ++ [newTeamMemberGroup CtiMember dwTeamId]) := by
  cases h with
  | found hwhole hself haccount =>
      rw [← haccount] at habsent
      exact absurd (place_mem_accountsOf hwhole hself) habsent
  | seated _ hseat => exact Or.inl ⟨_, _, hseat, rfl⟩
  | founded _ hfull => exact Or.inr ⟨hfull, _, rfl⟩

section

variable {call : Call} {h : Titled} {w : TeamMap} {CtiMember : ClientTeamInfo}

theorem captain_title_of_agree (hs : TablesOk T h.team)
    (hplaces : Places T call h.team w CtiMember)
    (hafter : TitlesAgree ((titled T).step call h)) {p : Place TeamMemberGroup}
    (hwhole : p.whole = h.team.teamsAt w (createMapText T CtiMember))
    (hoffers : OffersSeat CtiMember p) {Captain : TeamMemberInfo}
    {others : List TeamMemberInfo}
    (hmembers : p.here.memberVec = Captain :: others) :
    h.placed w (createMapText T CtiMember) Captain.account =
      CtiMember.wsGroupTitle := by
  rcases joinTeam_outcome hs CtiMember w with ⟨team, hjoin⟩
  rcases findSeat_of_offers (T := T) hoffers with ⟨wsGroupTitle, hseat⟩
  rw [hwhole] at hseat
  have hcaptain : Captain.account ∈ p.here.accounts := by
    rw [TeamMemberGroup.accounts, hmembers]
    exact List.mem_cons_self
  have hold : Captain.account ∈
      accountsOf (h.team.teamsAt w (createMapText T CtiMember)) := by
    rw [← hwhole]
    exact mem_accountsOf.mpr ⟨p.here, Place.mem_whole, hcaptain⟩
  rcases hjoin.outcome.of_absent hplaces.right.right with
    ⟨p', title', hseat', hput⟩ | ⟨hfull, _⟩
  · rw [hseat] at hseat'
    cases hseat'
    have hteam : seatMember CtiMember wsGroupTitle p.here ∈
        ((titled T).step call h).team.teamsAt w (createMapText T CtiMember) := by
      show _ ∈ (apply T call h.team).teamsAt w (createMapText T CtiMember)
      rw [apply_of_places hplaces, hput]
      exact Place.mem_put.mpr (Or.inr (Or.inl rfl))
    have hsame := hafter.eq hteam
      (a := Captain.account) (b := CtiMember.selfCti.wsAccountName)
      (by simp [hcaptain]) (by simp)
    change record T call h w _ _ = record T call h w _ _ at hsame
    rw [record_of_places hplaces, record_of_mem hold] at hsame
    exact hsame
  · rw [hseat] at hfull
    cases hfull

theorem record_eq_of_titlesAgree (hagree : TitlesAgree h) {w' : TeamMap}
    {wsMapText : WString} {team : TeamMemberGroup}
    (hteam : team ∈ h.team.teamsAt w' wsMapText) {a b : WString}
    (ha : a ∈ team.accounts) (hb : b ∈ team.accounts) :
    record T call h w' wsMapText a = record T call h w' wsMapText b := by
  rw [record_of_mem (mem_accountsOf.mpr ⟨team, hteam, ha⟩),
    record_of_mem (mem_accountsOf.mpr ⟨team, hteam, hb⟩)]
  exact hagree.eq hteam ha hb

theorem record_of_seat (hplaces : Places T call h.team w CtiMember)
    (hagree : TitlesAgree h) {team : TeamMemberGroup} {wsGroupTitle : WString}
    (hteam : team ∈ h.team.teamsAt w (createMapText T CtiMember))
    {Captain : TeamMemberInfo} {others : List TeamMemberInfo}
    (hmembers : team.memberVec = Captain :: others)
    (htitle : h.placed w (createMapText T CtiMember) Captain.account =
      CtiMember.wsGroupTitle) {a : WString}
    (ha : a ∈ (seatMember CtiMember wsGroupTitle team).accounts) :
    record T call h w (createMapText T CtiMember) a =
      CtiMember.wsGroupTitle := by
  have hcaptain : Captain.account ∈ team.accounts := by
    rw [TeamMemberGroup.accounts, hmembers]
    exact List.mem_cons_self
  rw [seatMember_accounts] at ha
  rcases List.mem_append.mp ha with hold | hnew
  · rw [record_of_mem (mem_accountsOf.mpr ⟨team, hteam, hold⟩), ← htitle]
    exact hagree.eq hteam hold hcaptain
  · rw [List.mem_singleton.mp hnew]
    exact record_of_places hplaces

theorem titlesAgree_of_captain_title (hs : TablesOk T h.team)
    (hplaces : Places T call h.team w CtiMember) (hagree : TitlesAgree h)
    (hseats : forall p : Place TeamMemberGroup,
      p.whole = h.team.teamsAt w (createMapText T CtiMember) ->
      OffersSeat CtiMember p ->
      forall Captain others, p.here.memberVec = Captain :: others ->
        h.placed w (createMapText T CtiMember) Captain.account =
          CtiMember.wsGroupTitle) :
    TitlesAgree ((titled T).step call h) := by
  rcases joinTeam_outcome hs CtiMember w with ⟨team, hjoin⟩
  intro w' wsMapText other hother a b ha hb _
  change other ∈ (apply T call h.team).teamsAt w' wsMapText at hother
  rw [apply_of_places hplaces] at hother
  by_cases hslot : w = w' ∧ createMapText T CtiMember = wsMapText
  · rw [← hslot.left, ← hslot.right] at hother ⊢
    rcases hjoin.outcome.of_absent hplaces.right.right with
      ⟨p, wsGroupTitle, hseat, hput⟩ | ⟨_, dwTeamId, hnew⟩
    · have hwhole := (findSeat_eq_some hseat).left
      rw [hput] at hother
      rcases Place.mem_whole_of_mem_put hother with heq | hmem
      · have hhere : p.here ∈ h.team.teamsAt w (createMapText T CtiMember) :=
          hwhole ▸ Place.mem_whole
        rcases ((hs w (createMapText T CtiMember)).teams p.here
          hhere).captainFirst with ⟨Captain, others, hmembers, _⟩
        have htitle := hseats p hwhole (offers_of_findSeat hseat) Captain others
          hmembers
        rw [heq] at ha hb
        exact (record_of_seat hplaces hagree hhere hmembers htitle ha).trans
          (record_of_seat hplaces hagree hhere hmembers htitle hb).symm
      · rw [hwhole] at hmem
        exact record_eq_of_titlesAgree hagree hmem ha hb
    · rw [hnew] at hother
      rcases List.mem_append.mp hother with hmem | hmem
      · exact record_eq_of_titlesAgree hagree hmem ha hb
      · rw [List.mem_singleton.mp hmem, newTeam_accounts] at ha hb
        rw [List.mem_singleton.mp ha, List.mem_singleton.mp hb]
  · rw [hjoin.others w' wsMapText hslot] at hother
    exact record_eq_of_titlesAgree hagree hother ha hb

end

theorem titlesAgree_step_iff {call : Call} {h : Titled}
    (hs : TablesOk T h.team) (hagree : TitlesAgree h) :
    TitlesAgree ((titled T).step call h) ↔ SeatTitleAgrees T call h := by
  constructor
  · intro hafter w CtiMember hplaces p hwhole hoffers Captain others hmembers
    exact captain_title_of_agree hs hplaces hafter hwhole hoffers hmembers
  · intro hseats
    by_cases hplaces : exists w CtiMember, Places T call h.team w CtiMember
    · rcases hplaces with ⟨w, CtiMember, hplaces⟩
      exact titlesAgree_of_captain_title hs hplaces hagree
        (hseats w CtiMember hplaces)
    · apply titlesAgree_of_keeps _ hagree
      apply apply_keepsTeams hs
      intro w CtiMember h'
      exact hplaces ⟨w, CtiMember, h'⟩

theorem titlesAgree_initial : TitlesAgree {} := by
  intro w wsMapText team hteam
  rw [teamsAt_initial] at hteam
  cases hteam

/--
The members of every team were placed with one title all along a sequence of
calls exactly if each join that took a seat carried the title of the captain.
-/
theorem titles_agree_iff (T : MyTools) (calls : List Call) :
    (forall n, TitlesAgree ((titled T).play (calls.take n) {})) ↔
      forall n call, calls[n]? = some call ->
        SeatTitleAgrees T call ((titled T).play (calls.take n) {}) :=
  Machine.play_always_iff (fun h => TablesOk T h.team) TitlesAgree
    (SeatTitleAgrees T) (fun call _ hs => apply_tablesOk hs call)
    (fun _ _ hs hagree => titlesAgree_step_iff hs hagree) calls tablesOk_initial
    titlesAgree_initial

def mixedCalls : List Call :=
  [Call.joinTaskTeam (pairPlayer (L "boris") (L "Boris") 7 (L "red")),
    Call.joinTaskTeam (pairPlayer (L "anna") (L "Anna") 8 (L "blue"))]

def mixedState : Titled :=
  (titled MyTools.standard).play mixedCalls {}

theorem mixedState_titles_differ : ¬ TitlesAgree mixedState := by
  intro hagree
  have hteam : exists team,
      team ∈ mixedState.team.teamsAt .taskTeamMap (L "2,[1F,0],0") ∧
        L "boris" ∈ team.accounts ∧ L "anna" ∈ team.accounts := by
    decide
  rcases hteam with ⟨team, hmem, hboris, hanna⟩
  have hsame := hagree.eq hmem hboris hanna
  have hdiffer : mixedState.placed .taskTeamMap (L "2,[1F,0],0") (L "boris") ≠
      mixedState.placed .taskTeamMap (L "2,[1F,0],0") (L "anna") := by
    decide
  exact hdiffer hsame

end CBnsTaskTeam
end BnsKorea
