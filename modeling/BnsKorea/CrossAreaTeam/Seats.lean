import BnsKorea.CrossAreaTeam.Matching

/-!
# Seats for the classes of a dungeon

The table of the dungeons says which classes the slots of a team ask for, the
specific classes in front of the free slots.  With a class list of this kind the
search forms a team exactly when the candidates can be seated at all.
-/

namespace BnsKorea

open Library

/-!
## The table of the dungeons
-/

namespace CGamePlayerExtend

def mapClassesText : List (WString × TeamMeberClasses) :=
  [(L "?", TeamMeberClasses.any),
    (L "枪手", TeamMeberClasses.gunner),
    (L "气宗", TeamMeberClasses.kongFuForceMaster),
    (L "咒术师", TeamMeberClasses.warlock),
    (L "灵剑士", TeamMeberClasses.danncer),
    (L "拳师", TeamMeberClasses.kongFuMaster),
    (L "气功", TeamMeberClasses.forceMaster),
    (L "召唤师", TeamMeberClasses.summoner),
    (L "剑士", TeamMeberClasses.bladeMaster),
    (L "刺客", TeamMeberClasses.assassin),
    (L "力士", TeamMeberClasses.destroyer)]

/-- For an unknown text the call sleeps for ever. -/
def findPlayerClasses (wsClassesText : WString) : Option TeamMeberClasses :=
  mapClassesText.lookup wsClassesText

end CGamePlayerExtend

namespace CCrossAreaTeam

structure DungeonClassesText where
  wsDungeonName : WString
  dwMapIndex : DWORD
  uMaxTeamMember : UINT
  vecClasses : List WString

def vecText : List DungeonClassesText :=
  [⟨L "简单的黑龙教地下监狱", 0, 6, [L "刺客", L "刺客", L "?", L "?", L "?", L "?"]⟩,
    ⟨L "困难的黑龙教地下监狱", 0, 6, [L "刺客", L "刺客", L "?", L "?", L "?", L "?"]⟩,
    ⟨L "简单的冰库", 0, 6, [L "?", L "?", L "?", L "?", L "?", L "?"]⟩,
    ⟨L "简单的沉默的海盗船", 0, 6, [L "?", L "?", L "?", L "?", L "?", L "?"]⟩,
    ⟨L "简单的鬼门关", 0, 6, [L "?", L "?", L "?", L "?", L "?", L "?"]⟩,
    ⟨L "简单的黑森林", 0, 6, [L "?", L "?", L "?", L "?", L "?", L "?"]⟩,
    ⟨L "简单的雪人洞", 0, 6, [L "?", L "?", L "?", L "?", L "?", L "?"]⟩,
    ⟨L "简单的雪玉宫", 0, 6, [L "?", L "?", L "?", L "?", L "?", L "?"]⟩]

/-- A turn of the loop of `Initialize`; too many classes make it sleep for ever. -/
def initializeTurn (mapDungeonClasses : Std.TreeMap WString (List TeamMeberClasses))
    (itm : DungeonClassesText) :
    Option (Std.TreeMap WString (List TeamMeberClasses)) :=
  if itm.uMaxTeamMember.toNat < itm.vecClasses.length then none
  else (itm.vecClasses.mapM CGamePlayerExtend.findPlayerClasses).map
    (mapDungeonClasses.insertIfNew itm.wsDungeonName)

def initializeClasses (VecText : List DungeonClassesText) :
    Option (Std.TreeMap WString (List TeamMeberClasses)) :=
  VecText.foldlM initializeTurn ∅

/-- A class list that has slots and the specific ones in front. -/
def Configured (slots : List TeamMeberClasses) : Prop :=
  slots ≠ [] ∧ FirstFit.SpecificFirst TeamMeberClasses.any slots

/-- A line of the table that `Initialize` takes without waiting. -/
def WellChosen (itm : DungeonClassesText) : Prop :=
  itm.vecClasses.length ≤ itm.uMaxTeamMember.toNat ∧
    exists slots,
      itm.vecClasses.mapM CGamePlayerExtend.findPlayerClasses = some slots ∧
        Configured slots

theorem initializeTurn_of_wellChosen {itm : DungeonClassesText}
    (hitm : WellChosen itm)
    {mapDungeonClasses : Std.TreeMap WString (List TeamMeberClasses)}
    (h : forall (wsDungeonName : WString) (slots : List TeamMeberClasses),
      mapDungeonClasses[wsDungeonName]? = some slots -> Configured slots) :
    exists mapDungeonClasses' : Std.TreeMap WString (List TeamMeberClasses),
      initializeTurn mapDungeonClasses itm = some mapDungeonClasses' ∧
        forall (wsDungeonName : WString) (slots : List TeamMeberClasses),
          mapDungeonClasses'[wsDungeonName]? = some slots -> Configured slots := by
  rcases hitm with ⟨hlength, slots, hslots, hconfigured⟩
  refine ⟨mapDungeonClasses.insertIfNew itm.wsDungeonName slots, ?_, ?_⟩
  · rw [initializeTurn, if_neg (Nat.not_lt_of_le hlength), hslots]
    rfl
  · intro wsDungeonName slots' hslots'
    rw [Std.TreeMap.getElem?_insertIfNew] at hslots'
    split at hslots'
    · cases hslots'
      exact hconfigured
    · exact h wsDungeonName slots' hslots'

theorem foldlM_initializeTurn {VecText : List DungeonClassesText}
    (hVecText : forall itm, itm ∈ VecText -> WellChosen itm)
    {mapDungeonClasses : Std.TreeMap WString (List TeamMeberClasses)}
    (h : forall (wsDungeonName : WString) (slots : List TeamMeberClasses),
      mapDungeonClasses[wsDungeonName]? = some slots -> Configured slots) :
    exists mapDungeonClasses' : Std.TreeMap WString (List TeamMeberClasses),
      VecText.foldlM initializeTurn mapDungeonClasses = some mapDungeonClasses' ∧
        forall (wsDungeonName : WString) (slots : List TeamMeberClasses),
          mapDungeonClasses'[wsDungeonName]? = some slots -> Configured slots := by
  induction VecText generalizing mapDungeonClasses with
  | nil => exact ⟨mapDungeonClasses, rfl, h⟩
  | cons itm VecText ih =>
      rcases initializeTurn_of_wellChosen (hVecText itm List.mem_cons_self) h with
        ⟨mapTurn, hturn, hmapTurn⟩
      rcases ih (fun itm' hitm' => hVecText itm' (List.mem_cons_of_mem _ hitm'))
        hmapTurn with ⟨mapRest, hrest, hmapRest⟩
      refine ⟨mapRest, ?_, hmapRest⟩
      rw [List.foldlM_cons, hturn]
      exact hrest

theorem mapM_free :
    [L "?", L "?", L "?", L "?", L "?", L "?"].mapM
        CGamePlayerExtend.findPlayerClasses =
      some (List.replicate 6 TeamMeberClasses.any) := by
  decide +kernel

theorem mapM_assassins :
    [L "刺客", L "刺客", L "?", L "?", L "?", L "?"].mapM
        CGamePlayerExtend.findPlayerClasses =
      some (List.replicate 2 TeamMeberClasses.assassin ++
        List.replicate 4 TeamMeberClasses.any) := by
  decide +kernel

theorem wellChosen_free (wsDungeonName : WString) :
    WellChosen ⟨wsDungeonName, 0, 6, [L "?", L "?", L "?", L "?", L "?", L "?"]⟩ := by
  refine ⟨Nat.le_refl 6, _, mapM_free, by decide, ?_⟩
  simp [FirstFit.SpecificFirst, List.replicate]

theorem wellChosen_assassins (wsDungeonName : WString) :
    WellChosen ⟨wsDungeonName, 0, 6,
      [L "刺客", L "刺客", L "?", L "?", L "?", L "?"]⟩ := by
  refine ⟨Nat.le_refl 6, _, mapM_assassins, by decide, ?_⟩
  simp [FirstFit.SpecificFirst, List.replicate, TeamMeberClasses.assassin,
    TeamMeberClasses.any]

theorem initializeClasses_configured :
    exists mapDungeonClasses : Std.TreeMap WString (List TeamMeberClasses),
      initializeClasses vecText = some mapDungeonClasses ∧
        forall (wsDungeonName : WString) (slots : List TeamMeberClasses),
          mapDungeonClasses[wsDungeonName]? = some slots ->
            exists Classes : VecClasses, Classes.slots = slots ∧
              FirstFit.SpecificFirst TeamMeberClasses.any Classes.slots := by
  have hvecText : forall itm, itm ∈ vecText -> WellChosen itm := by
    intro itm hitm
    simp only [vecText, List.mem_cons, List.not_mem_nil, or_false] at hitm
    rcases hitm with h | h | h | h | h | h | h | h
    · exact h ▸ wellChosen_assassins _
    · exact h ▸ wellChosen_assassins _
    · exact h ▸ wellChosen_free _
    · exact h ▸ wellChosen_free _
    · exact h ▸ wellChosen_free _
    · exact h ▸ wellChosen_free _
    · exact h ▸ wellChosen_free _
    · exact h ▸ wellChosen_free _
  have hempty : forall (wsDungeonName : WString) (slots : List TeamMeberClasses),
      (∅ : Std.TreeMap WString (List TeamMeberClasses))[wsDungeonName]? =
        some slots -> Configured slots := by
    intro wsDungeonName slots h
    simp at h
  rcases foldlM_initializeTurn hvecText hempty with
    ⟨mapDungeonClasses, hinitialize, hmap⟩
  refine ⟨mapDungeonClasses, hinitialize, ?_⟩
  intro wsDungeonName slots hslots
  rcases hmap wsDungeonName slots hslots with ⟨hne, hfirst⟩
  exact ⟨⟨slots, hne⟩, rfl, hfirst⟩

/-!
## The search is complete
-/

/--
With the specific classes in front a team is formed exactly when every slot can
get a candidate of its own, of the class it asks for.  The players of the team
are such candidates; without a team nothing changes.  A class list has a slot here:
the lists that `Initialize` makes have, and their specific classes are in front.
-/
theorem schedulingSameDungeon_complete :
    (forall (wsDungeonName : WString) (MapMember : VecCrossAreaTeamMember)
      (VecMember : List CrossAreaTeamMember) (Classes : VecClasses)
      (_ : FirstFit.SpecificFirst TeamMeberClasses.any Classes.slots)
      (s : CCrossAreaTeam),
      ((schedulingSameDungeon wsDungeonName MapMember VecMember Classes s).1 = true ↔
        exists seat : Fin Classes.slots.length -> Fin VecMember.length,
          Function.Injective seat ∧
            forall i, Classes.slots.get i ≠ TeamMeberClasses.any ->
              (VecMember.get (seat i)).emClasses = Classes.slots.get i) ∧
        ((schedulingSameDungeon wsDungeonName MapMember VecMember Classes s).1 = true ->
          exists g : CrossAreaTeamGroup,
            (schedulingSameDungeon wsDungeonName MapMember VecMember Classes
              s).2.1.mapCrossAreaTeamGroup =
                s.mapCrossAreaTeamGroup.insertIfNew g.dwTeamId g ∧
              g.dwTeamId = UInt32.ofNat (s.dwTeamIdCount + 1) ∧
              g.wsDungeonName = wsDungeonName ∧ g.players.Subperm VecMember ∧
              List.Forall₂ (fun k (m : CrossAreaTeamMember) =>
                k = TeamMeberClasses.any ∨ m.emClasses = k) Classes.slots g.players) ∧
        ((schedulingSameDungeon wsDungeonName MapMember VecMember Classes s).1 = false ->
          (schedulingSameDungeon wsDungeonName MapMember VecMember Classes s).2 =
            (s, MapMember))) ∧
    exists mapDungeonClasses : Std.TreeMap WString (List TeamMeberClasses),
      initializeClasses vecText = some mapDungeonClasses ∧
        forall (wsDungeonName : WString) (slots : List TeamMeberClasses),
          mapDungeonClasses[wsDungeonName]? = some slots ->
            exists Classes : VecClasses, Classes.slots = slots ∧
              FirstFit.SpecificFirst TeamMeberClasses.any Classes.slots := by
  refine ⟨?_, initializeClasses_configured⟩
  intro wsDungeonName MapMember VecMember Classes hfirst s
  have hseats : (FirstFit.fill fitsSlot Classes.slots VecMember).isSome ↔
      exists seat : Fin Classes.slots.length -> Fin VecMember.length,
        Function.Injective seat ∧
          forall i, Classes.slots.get i ≠ TeamMeberClasses.any ->
            (VecMember.get (seat i)).emClasses = Classes.slots.get i :=
    FirstFit.fill_isSome_iff_seats hfirst
  cases hfill : FirstFit.fill fitsSlot Classes.slots VecMember with
  | none =>
      rw [hfill] at hseats
      rw [schedulingSameDungeon_of_none hfill]
      refine ⟨hseats, ?_, fun _ => rfl⟩
      intro h
      cases h
  | some chosen =>
      rw [hfill] at hseats
      rcases schedulingSameDungeon_of_some wsDungeonName MapMember s hfill with
        ⟨hchosen, heq⟩
      rw [heq]
      refine ⟨iff_of_true rfl (hseats.mp rfl), ?_, ?_⟩
      · intro _
        cases chosen with
        | nil => exact absurd rfl hchosen
        | cons captain vecMember =>
            have hsub : (captain :: vecMember).Subperm VecMember :=
              FirstFit.fill_subperm hfill
            let g : CrossAreaTeamGroup :=
              { captain := captain
                vecMember := vecMember
                dwTeamId := UInt32.ofNat (s.dwTeamIdCount + 1)
                wsDungeonName := wsDungeonName }
            refine ⟨g, rfl, rfl, rfl, hsub, ?_⟩
            exact List.Forall₂.imp (fun _ _ h => fitsSlot_iff.mp h)
              (FirstFit.fill_forall₂ hfill)
      · intro h
        cases h

/-- A gunner and an assassin can be seated for an assassin and anybody. -/
theorem duoSeats :
    exists seat : Fin 2 -> Fin 2, Function.Injective seat ∧
      forall i, [TeamMeberClasses.assassin, TeamMeberClasses.any].get i ≠
          TeamMeberClasses.any ->
        ([duoPlayer (L "anna") (L "red") TeamMeberClasses.gunner,
          duoPlayer (L "boris") (L "red") TeamMeberClasses.assassin].get
            (seat i)).emClasses =
          [TeamMeberClasses.assassin, TeamMeberClasses.any].get i := by
  have hfirst : FirstFit.SpecificFirst TeamMeberClasses.any
      [TeamMeberClasses.assassin, TeamMeberClasses.any] := by
    simp [FirstFit.SpecificFirst, TeamMeberClasses.assassin, TeamMeberClasses.any]
  have hcomplete := schedulingSameDungeon_complete.left (L "简单的雪人洞") ∅
    [duoPlayer (L "anna") (L "red") TeamMeberClasses.gunner,
      duoPlayer (L "boris") (L "red") TeamMeberClasses.assassin]
    ⟨[TeamMeberClasses.assassin, TeamMeberClasses.any], by decide⟩ hfirst
    { mapDungeonClasses := duoTable }
  exact hcomplete.left.mp (by decide)

end CCrossAreaTeam
end BnsKorea
