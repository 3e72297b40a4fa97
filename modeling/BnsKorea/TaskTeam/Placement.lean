import BnsKorea.TaskTeam.Titles

/-!
# The team a joiner is put into

A joiner belongs into the first team under its key that is not read-only, has
room and does not have another title, and founds one if there is none.  The
second search looks at no title: it goes wrong exactly when it comes to a team
with another title that the first search would have passed over.
-/

namespace BnsKorea

open Library

namespace CBnsTaskTeam

variable {T : MyTools}

def AdmitsTitle (CtiMember : ClientTeamInfo) (team : TeamMemberGroup) : Prop :=
  team.wsGroupTitle = [] ∨ team.wsGroupTitle = CtiMember.wsGroupTitle

def Suits (CtiMember : ClientTeamInfo) (team : TeamMemberGroup) : Prop :=
  team.isReadOnly = false ∧
    team.memberVec.length < team.uMaxMemberCount.toNat ∧
    AdmitsTitle CtiMember team

instance suits_decidable (CtiMember : ClientTeamInfo) (team : TeamMemberGroup) :
    Decidable (Suits CtiMember team) :=
  inferInstanceAs (Decidable (_ ∧ _ ∧ (_ ∨ _)))

/-- The teams after the joiner was put into the first team that suits. -/
def PutIntoFirst (CtiMember : ClientTeamInfo) (before after : TeamGroup) : Prop :=
  exists (p : Place TeamMemberGroup) (wsGroupTitle : WString),
    p.whole = before ∧ Suits CtiMember p.here ∧
      (forall team, team ∈ p.pre -> ¬ Suits CtiMember team) ∧
      after = p.put (seatMember CtiMember wsGroupTitle p.here)

/-- The teams after the joiner founded one because none suits. -/
def FoundedForWant (CtiMember : ClientTeamInfo) (before after : TeamGroup) :
    Prop :=
  (forall team, team ∈ before -> ¬ Suits CtiMember team) ∧
    exists dwTeamId, after = before ++ [newTeamMemberGroup CtiMember dwTeamId]

structure RightlyPlaced (T : MyTools) (CtiMember : ClientTeamInfo) (w : TeamMap)
    (s after : CBnsTaskTeam) : Prop where
  own :
    PutIntoFirst CtiMember (s.teamsAt w (createMapText T CtiMember))
        (after.teamsAt w (createMapText T CtiMember)) ∨
      FoundedForWant CtiMember (s.teamsAt w (createMapText T CtiMember))
        (after.teamsAt w (createMapText T CtiMember))
  others : forall w' wsMapText,
    ¬ (w = w' ∧ createMapText T CtiMember = wsMapText) ->
    after.teamsAt w' wsMapText = s.teamsAt w' wsMapText

/--
The first team with room whose title admits the joiner is not read-only, or the
title of the first team with room that is not read-only admits it too.
-/
def FallbackAdmits (CtiMember : ClientTeamInfo) (TeamGroup_ : TeamGroup) : Prop :=
  (exists p : Place TeamMemberGroup, p.whole = TeamGroup_ ∧
    FirstUnderTitle CtiMember p ∧ p.here.isReadOnly = false) ∨
  forall q : Place TeamMemberGroup, q.whole = TeamGroup_ ->
    vacantNotReadOnly q.here = true ->
    (forall team, team ∈ q.pre -> vacantNotReadOnly team = false) ->
    AdmitsTitle CtiMember q.here

/-!
## The tests of the searches
-/

theorem vacantUnderTitle_iff {CtiMember : ClientTeamInfo} {team : TeamMemberGroup} :
    vacantUnderTitle CtiMember team = true ↔
      AdmitsTitle CtiMember team ∧
        team.memberVec.length < team.uMaxMemberCount.toNat := by
  unfold vacantUnderTitle
  split
  · rename_i htitle
    refine iff_of_false Bool.false_ne_true ?_
    intro h
    rcases h.left with hempty | hsame
    · exact htitle.left hempty
    · exact htitle.right hsame
  · rename_i htitle
    rw [not_and_or, not_not, not_not] at htitle
    rw [decide_eq_true_iff]
    exact ⟨fun hroom => ⟨htitle, hroom⟩, And.right⟩

theorem vacantNotReadOnly_iff {team : TeamMemberGroup} :
    vacantNotReadOnly team = true ↔
      team.isReadOnly = false ∧
        team.memberVec.length < team.uMaxMemberCount.toNat := by
  rw [vacantNotReadOnly, Bool.and_eq_true, decide_eq_true_iff,
    Bool.not_eq_true', and_comm]

theorem Suits.underTitle {CtiMember : ClientTeamInfo} {team : TeamMemberGroup}
    (h : Suits CtiMember team) : vacantUnderTitle CtiMember team = true :=
  vacantUnderTitle_iff.mpr ⟨h.right.right, h.right.left⟩

theorem Suits.notReadOnly {CtiMember : ClientTeamInfo} {team : TeamMemberGroup}
    (h : Suits CtiMember team) : vacantNotReadOnly team = true :=
  vacantNotReadOnly_iff.mpr ⟨h.left, h.right.left⟩

theorem not_suits_of_underTitle {CtiMember : ClientTeamInfo}
    {team : TeamMemberGroup} (h : vacantUnderTitle CtiMember team = false) :
    ¬ Suits CtiMember team := by
  intro hsuits
  rw [hsuits.underTitle] at h
  cases h

theorem not_suits_of_notReadOnly {CtiMember : ClientTeamInfo}
    {team : TeamMemberGroup} (h : vacantNotReadOnly team = false) :
    ¬ Suits CtiMember team := by
  intro hsuits
  rw [hsuits.notReadOnly] at h
  cases h

theorem findSeat_eq_none {CtiMember : ClientTeamInfo} {TeamGroup_ : TeamGroup}
    (h : findSeat T CtiMember TeamGroup_ = none) {team : TeamMemberGroup}
    (hteam : team ∈ TeamGroup_) : vacantNotReadOnly team = false := by
  have hsecond : (firstPlace vacantNotReadOnly TeamGroup_).map
        (fun p => (p, CtiMember.wsGroupTitle)) = none ->
      vacantNotReadOnly team = false := by
    intro hnone
    exact firstPlace_eq_none.mp (Option.map_eq_none_iff.mp hnone) team hteam
  simp only [findSeat, MyTools.dequeFindIf_eq] at h
  split at h
  · split at h
    · exact hsecond h
    · cases h
  · exact hsecond h

/-!
## What the call leaves under its key
-/

section

variable {CtiMember : ClientTeamInfo} {before : TeamGroup}

theorem putIntoFirst_seat_iff {p : Place TeamMemberGroup} (hwhole : p.whole = before)
    (habsent : CtiMember.selfCti.wsAccountName ∉ accountsOf before)
    (wsGroupTitle : WString) :
    PutIntoFirst CtiMember before
        (p.put (seatMember CtiMember wsGroupTitle p.here)) ↔
      Suits CtiMember p.here ∧
        forall team, team ∈ p.pre -> ¬ Suits CtiMember team := by
  constructor
  · intro h
    rcases h with ⟨q, title, hq, hsuits, hpre, hput⟩
    -- the team that has the account now tells the two places to be one
    let test : TeamMemberGroup -> Bool := fun team =>
      decide (CtiMember.selfCti.wsAccountName ∈ team.accounts)
    have hseated : forall (team : TeamMemberGroup) (title : WString),
        test (seatMember CtiMember title team) = true := by
      intro team title
      simp [test]
    have hold : forall team, team ∈ p.whole -> test team = false := by
      intro team hteam
      rw [hwhole] at hteam
      apply decide_eq_false
      intro hmem
      exact habsent (mem_accountsOf.mpr ⟨team, hteam, hmem⟩)
    have hsame : p = q := Place.eq_of_put_eq (hwhole.trans hq.symm) hold
      (hseated p.here wsGroupTitle) (hseated q.here title) hput
    rw [hsame]
    exact ⟨hsuits, hpre⟩
  · intro h
    exact ⟨p, wsGroupTitle, hwhole, h.left, h.right, rfl⟩

theorem length_put {p : Place TeamMemberGroup} (hwhole : p.whole = before)
    (team : TeamMemberGroup) : (p.put team).length = before.length := by
  rw [← hwhole, Place.whole, Place.put, Place.put, List.length_append,
    List.length_append, List.length_cons, List.length_cons]

theorem not_founded_of_seat {p : Place TeamMemberGroup} (hwhole : p.whole = before)
    (team : TeamMemberGroup) :
    ¬ FoundedForWant CtiMember before (p.put team) := by
  intro h
  rcases h with ⟨_, dwTeamId, hafter⟩
  have hlength := congrArg List.length hafter
  rw [length_put hwhole, List.length_append, List.length_singleton] at hlength
  omega

end

theorem findVacant_of_seat {CtiMember : ClientTeamInfo} {w : TeamMap}
    {s : CBnsTaskTeam} {TeamGroup_ : TeamGroup}
    (hkey : (s.map w)[createMapText T CtiMember]? = some TeamGroup_)
    {p : Place TeamMemberGroup} {wsGroupTitle : WString}
    (hseat : findSeat T CtiMember TeamGroup_ = some (p, wsGroupTitle))
    (Result : BnsTeamResult) :
    (findVacantPosition_In_TeamMemberGroup T CtiMember w Result s).2.1 =
      s.setGroup w (createMapText T CtiMember)
        (p.put (seatMember CtiMember wsGroupTitle p.here)) := by
  simp only [findVacantPosition_In_TeamMemberGroup, hkey, hseat]
  split
  · rfl
  · rfl

theorem findVacant_of_none {CtiMember : ClientTeamInfo} {w : TeamMap}
    {s : CBnsTaskTeam} {TeamGroup_ : TeamGroup}
    (hkey : (s.map w)[createMapText T CtiMember]? = some TeamGroup_)
    (hseat : findSeat T CtiMember TeamGroup_ = none) (Result : BnsTeamResult) :
    (findVacantPosition_In_TeamMemberGroup T CtiMember w Result s).2.1 =
      { s.setGroup w (createMapText T CtiMember)
          (TeamGroup_ ++
            [newTeamMemberGroup CtiMember (UInt32.ofNat (s.dwTeamIdCount + 1))]) with
        dwTeamIdCount := s.dwTeamIdCount + 1 } := by
  simp only [findVacantPosition_In_TeamMemberGroup, hkey, hseat]
  rfl

/-!
## When the joiner is put into the right team
-/

theorem suits_seat_iff {CtiMember : ClientTeamInfo} {p : Place TeamMemberGroup}
    (hoffers : OffersSeat CtiMember p) :
    (Suits CtiMember p.here ∧
        forall team, team ∈ p.pre -> ¬ Suits CtiMember team) ↔
      FallbackAdmits CtiMember p.whole := by
  rcases hoffers with ⟨⟨htest, hpre⟩, hopen⟩ | ⟨hclosed, hvacant, hpre⟩
  · have hunder := vacantUnderTitle_iff.mp htest
    refine iff_of_true ⟨⟨hopen, hunder.right, hunder.left⟩, ?_⟩ ?_
    · intro team hteam
      exact not_suits_of_underTitle (hpre team hteam)
    · exact Or.inl ⟨p, rfl, ⟨htest, hpre⟩, hopen⟩
  · have hroom := vacantNotReadOnly_iff.mp hvacant
    constructor
    · intro h
      refine Or.inr ?_
      intro q hwhole hq hqpre
      have hsame := firstPlace_of_first hq hqpre
      rw [hwhole, firstPlace_of_first hvacant hpre] at hsame
      rw [← Option.some.inj hsame]
      exact h.left.right.right
    · intro h
      rcases h with ⟨q, hwhole, hfirst, hopen⟩ | hadmits
      · rw [hclosed q hwhole hfirst] at hopen
        cases hopen
      · refine ⟨⟨hroom.left, hroom.right, hadmits p rfl hvacant hpre⟩, ?_⟩
        intro team hteam
        exact not_suits_of_notReadOnly (hpre team hteam)

section

variable {CtiMember : ClientTeamInfo} {w : TeamMap} {s : CBnsTaskTeam}

theorem not_rightlyPlaced_of_none
    (hkey : (s.map w)[createMapText T CtiMember]? = none) (Result : BnsTeamResult) :
    ¬ RightlyPlaced T CtiMember w s
      (findVacantPosition_In_TeamMemberGroup T CtiMember w Result s).2.1 := by
  have hafter : (findVacantPosition_In_TeamMemberGroup T CtiMember w Result
      s).2.1 = s := by
    simp only [findVacantPosition_In_TeamMemberGroup, hkey]
  have hat := teamsAt_of_none hkey
  intro h
  have hown := h.own
  rw [hafter, hat] at hown
  rcases hown with ⟨p, title, hwhole, _⟩ | ⟨_, dwTeamId, hnew⟩
  · have hmem := Place.mem_whole (p := p)
    rw [hwhole] at hmem
    cases hmem
  · cases hnew

theorem rightlyPlaced_of_seat_iff {TeamGroup_ : TeamGroup}
    (hkey : (s.map w)[createMapText T CtiMember]? = some TeamGroup_)
    (habsent : CtiMember.selfCti.wsAccountName ∉ accountsOf TeamGroup_)
    {p : Place TeamMemberGroup} {wsGroupTitle : WString}
    (hseat : findSeat T CtiMember TeamGroup_ = some (p, wsGroupTitle))
    (Result : BnsTeamResult) :
    RightlyPlaced T CtiMember w s
        (findVacantPosition_In_TeamMemberGroup T CtiMember w Result s).2.1 ↔
      FallbackAdmits CtiMember TeamGroup_ := by
  have hat := teamsAt_of_some hkey
  have hwhole := (findSeat_eq_some hseat).left
  rw [findVacant_of_seat hkey hseat, ← hwhole,
    ← suits_seat_iff (offers_of_findSeat hseat),
    ← putIntoFirst_seat_iff rfl (hwhole ▸ habsent) wsGroupTitle, hwhole]
  constructor
  · intro h
    have hown := h.own
    rw [hat, teamsAt_setGroup_self] at hown
    rcases hown with hfirst | hfounded
    · exact hfirst
    · exact absurd hfounded (not_founded_of_seat hwhole _)
  · intro h
    constructor
    · rw [hat, teamsAt_setGroup_self]
      exact Or.inl h
    · intro w' wsMapText hne
      exact teamsAt_setGroup_of_ne s _ hne

theorem rightlyPlaced_of_no_seat {TeamGroup_ : TeamGroup}
    (hkey : (s.map w)[createMapText T CtiMember]? = some TeamGroup_)
    (hseat : findSeat T CtiMember TeamGroup_ = none) (Result : BnsTeamResult) :
    RightlyPlaced T CtiMember w s
      (findVacantPosition_In_TeamMemberGroup T CtiMember w Result s).2.1 := by
  rw [findVacant_of_none hkey hseat]
  constructor
  · rw [teamsAt_of_some hkey, teamsAt_with_count, teamsAt_setGroup_self]
    refine Or.inr ⟨?_, _, rfl⟩
    intro team hteam
    exact not_suits_of_notReadOnly (findSeat_eq_none hseat hteam)
  · intro w' wsMapText hne
    rw [teamsAt_with_count]
    exact teamsAt_setGroup_of_ne s _ hne

theorem fallbackAdmits_of_no_seat {TeamGroup_ : TeamGroup}
    (hseat : findSeat T CtiMember TeamGroup_ = none) :
    FallbackAdmits CtiMember TeamGroup_ := by
  refine Or.inr ?_
  intro q hwhole hq _
  have hmem : q.here ∈ TeamGroup_ := hwhole ▸ Place.mem_whole
  rw [findSeat_eq_none hseat hmem] at hq
  cases hq

end

/--
An account that is in no team of its key is put where it belongs exactly if the
key is there and the second search is not led to a team with another title.
-/
theorem rightlyPlaced_iff {CtiMember : ClientTeamInfo} {w : TeamMap}
    {s : CBnsTaskTeam}
    (habsent : CtiMember.selfCti.wsAccountName ∉
      accountsOf (s.teamsAt w (createMapText T CtiMember)))
    (Result : BnsTeamResult) :
    RightlyPlaced T CtiMember w s
        (findVacantPosition_In_TeamMemberGroup T CtiMember w Result s).2.1 ↔
      ((s.map w)[createMapText T CtiMember]?).isSome ∧
        FallbackAdmits CtiMember (s.teamsAt w (createMapText T CtiMember)) := by
  cases hkey : (s.map w)[createMapText T CtiMember]? with
  | none =>
      exact iff_of_false (not_rightlyPlaced_of_none hkey Result)
        fun h => by cases h.left
  | some TeamGroup_ =>
      rw [teamsAt_of_some hkey] at habsent ⊢
      rw [Option.isSome_some, eq_self_iff_true, true_and]
      cases hseat : findSeat T CtiMember TeamGroup_ with
      | some found => exact rightlyPlaced_of_seat_iff hkey habsent hseat Result
      | none =>
          exact iff_of_true (rightlyPlaced_of_no_seat hkey hseat Result)
            (fallbackAdmits_of_no_seat hseat)

def soloState : CBnsTaskTeam :=
  (machine MyTools.standard).play (pairCalls.take 1) {}

/-- The second player is put into the team of the first. -/
theorem soloState_rightlyPlaced :
    RightlyPlaced MyTools.standard (pairPlayer (L "anna") (L "Anna") 8 [])
      .taskTeamMap soloState
      (findVacantPosition_In_TeamMemberGroup MyTools.standard
        (pairPlayer (L "anna") (L "Anna") 8 []) .taskTeamMap {} soloState).2.1 := by
  refine (rightlyPlaced_iff (by decide) {}).mpr ⟨by decide, Or.inr ?_⟩
  intro q hwhole _ _
  have hempty : forall team,
      team ∈ soloState.teamsAt .taskTeamMap
        (createMapText MyTools.standard (pairPlayer (L "anna") (L "Anna") 8 [])) ->
      team.wsGroupTitle = [] := by
    decide
  exact Or.inl (hempty q.here (hwhole ▸ Place.mem_whole))

/-!
## A team with another title
-/

def trioPlayer (wsAccountName wsGroupTitle : WString) : ClientTeamInfo :=
  { pairPlayer wsAccountName wsAccountName 7 wsGroupTitle with dwMaxMember := 3 }

def trioCalls : List Call :=
  [Call.joinDungoenTeam (trioPlayer (L "boris") []),
    Call.setReadOnlyTeam 1,
    Call.joinDungoenTeam (trioPlayer (L "anna") (L "red")),
    Call.joinDungoenTeam (trioPlayer (L "cleo") (L "red"))]

def trioState : CBnsTaskTeam :=
  (machine MyTools.standard).play trioCalls {}

theorem trioState_dora_misplaced :
    Reachable MyTools.standard trioState ∧
      (trioPlayer (L "dora") (L "blue")).selfCti.wsAccountName ∉
        accountsOf (trioState.teamsAt .dungoenTeamMap
          (createMapText MyTools.standard (trioPlayer (L "dora") (L "blue")))) ∧
      ((trioState.map .dungoenTeamMap)[createMapText MyTools.standard
        (trioPlayer (L "dora") (L "blue"))]?).isSome ∧
      ¬ RightlyPlaced MyTools.standard (trioPlayer (L "dora") (L "blue"))
        .dungoenTeamMap trioState
        (findVacantPosition_In_TeamMemberGroup MyTools.standard
          (trioPlayer (L "dora") (L "blue")) .dungoenTeamMap {} trioState).2.1 := by
  refine ⟨Machine.Admits.reaches ⟨trivial, trivial, trivial, trivial, trivial⟩,
    by decide, by decide, ?_⟩
  intro h
  rcases h.own with ⟨p, title, hwhole, hsuits, _⟩ | ⟨_, dwTeamId, hnew⟩
  · have hnone : forall team,
        team ∈ trioState.teamsAt .dungoenTeamMap
          (createMapText MyTools.standard (trioPlayer (L "dora") (L "blue"))) ->
        ¬ Suits (trioPlayer (L "dora") (L "blue")) team := by
      decide
    exact hnone p.here (hwhole ▸ Place.mem_whole) hsuits
  · have hlength := congrArg List.length hnew
    rw [List.length_append, List.length_singleton] at hlength
    revert hlength
    decide

end CBnsTaskTeam
end BnsKorea
