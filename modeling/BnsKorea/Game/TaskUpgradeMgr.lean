import BnsKorea.Library.Selections
import BnsKorea.Common.ServerCommon

/-!
# Summoners of level 50

Turn after turn a character of the account is picked, started and played.  A turn
looks for summoners of level 50 that are not finished with their main tasks: it asks
the server for every one of them whether it is, and creates one where none is left.
-/

namespace BnsKorea
namespace Game

open Library

inductive PlayerClasses where
  | bladeMaster
  | kongFuMaster
  | forceMaster
  | gunner
  | destroyer
  | summoner
  | assassin
  | danncer
  | warlock
  | kongFuForceMaster
deriving DecidableEq

structure CLoginPlayer where
  name : WString
  level : DWORD
  bDeleteStatus : Bool
  serverId : DWORD
  classes : PlayerClasses
  uIndex : UINT
  bFinishMainTask : Bool := false
deriving DecidableEq

namespace CTaskUpgradeMgr

/-- What a turn meets in the game and at the server. -/
structure Surroundings where
  /-- What `GetLoginPlayerList` puts into a vector. -/
  players : List CLoginPlayer
  distinct : (players.map CLoginPlayer.uIndex).Nodup
  /-- The value the server returns when it is asked about the character. -/
  getSingleConfigValueByServer : CLoginPlayer -> WString
  summonerLevel50Mode : DWORD
  existLevelTick : Bool
  maxLoginPlayerCount : Nat
  /-- The characters there are when the turn looks again for room. -/
  later : List (List CLoginPlayer)
  /-- The character that `CreatePlayer` puts behind the others, if it succeeds. -/
  created : Option CLoginPlayer
  dwAreaId : DWORD

/-- Why `SetLoginFaild` is called. -/
inductive LoginFaild where
  | finishedOne
  | noTickTaken
  | finishedAll
  | otherServer
deriving DecidableEq

inductive Ending where
  /-- `SetLoginFaild` does not return. -/
  | loginFaild (reason : LoginFaild)
  /-- There is no room for another character. -/
  | full
  /-- `continue`. -/
  | again
  /-- `StartGame_By_Index` of the character. -/
  | started (LoginPlayer_ : CLoginPlayer)

/-- How a turn goes on, and whether it called `CreatePlayer`. -/
structure Turn where
  bCreate : Bool := false
  ending : Ending

/-!
## A turn
-/

def isOther (LoginPlayer_ : CLoginPlayer) : Bool :=
  LoginPlayer_.bDeleteStatus || LoginPlayer_.level < 50 ||
    LoginPlayer_.classes != .summoner

/-- `ExistMoreThanLevel45_In_Account`: the first character with the condition. -/
def existMoreThanLevel45_In_Account (players : List CLoginPlayer)
    (fnOtherCondition : CLoginPlayer -> Bool) : Option CLoginPlayer :=
  players.find? fnOtherCondition

def actionForUnExistLevelTick (VecLoginPlayer : List CLoginPlayer) : LoginFaild :=
  if VecLoginPlayer.length = 0 then .noTickTaken else .finishedAll

def waitForRoom (maxLoginPlayerCount : Nat) :
    List (List CLoginPlayer) -> List CLoginPlayer -> Option (List CLoginPlayer)
  | [], players => if players.length = maxLoginPlayerCount then none else some players
  | next :: later, players =>
      if players.length = maxLoginPlayerCount then
        waitForRoom maxLoginPlayerCount later next
      else some players

variable (w : Surroundings)

def isFinished (itm : CLoginPlayer) : Bool :=
  w.getSingleConfigValueByServer itm == L "1"

def start (LoginPlayer_ : CLoginPlayer) : Ending :=
  if LoginPlayer_.serverId ≠ w.dwAreaId then .loginFaild .otherServer
  else .started LoginPlayer_

/-- The list that is read behind the creation comes behind the one that is there. -/
def takeCreated (VecLoginPlayer players : List CLoginPlayer)
    (created : Option CLoginPlayer) : Ending :=
  let uCount := players.length
  let players := players ++ created.toList
  if players.length = uCount then .again
  else
    let VecLoginPlayer := VecLoginPlayer ++ players
    if h : VecLoginPlayer.length = uCount + 1 then
      start w (VecLoginPlayer.get ⟨uCount, by omega⟩)
    else .again

def create (VecLoginPlayer : List CLoginPlayer) : Turn :=
  match waitForRoom w.maxLoginPlayerCount w.later w.players with
  | none => { ending := .full }
  | some players =>
      { bCreate := true, ending := takeCreated w VecLoginPlayer players w.created }

/-- The list keeps the finished ones, and the first of them is not taken again. -/
def level50Turn : Turn :=
  let VecLoginPlayer := w.players.filter fun LoginPlayer_ => !isOther LoginPlayer_
  let VecLoginPlayer := VecLoginPlayer.map fun itm =>
    { itm with bFinishMainTask := isFinished w itm }
  if w.summonerLevel50Mode = 1 ∧ VecLoginPlayer.any (·.bFinishMainTask) then
    { ending := .loginFaild .finishedOne }
  else if (VecLoginPlayer.find? fun LoginPlayer_ =>
      !LoginPlayer_.bFinishMainTask) = none ∧ w.existLevelTick = false then
    { ending := .loginFaild (actionForUnExistLevelTick VecLoginPlayer) }
  else
    let VecLoginPlayer := VecLoginPlayer.filter (·.bFinishMainTask)
    match existMoreThanLevel45_In_Account w.players fun LoginPlayer_ =>
        if isOther LoginPlayer_ then false
        else
          match VecLoginPlayer with
          | [] => true
          | first :: _ => LoginPlayer_.uIndex != first.uIndex with
    | some LoginPlayer_ => { ending := start w LoginPlayer_ }
    | none => create w VecLoginPlayer

def run_By_SummonerAccount_Level50 : Turn :=
  level50Turn w

def run_By_SummonerAccount_Speed_Level50 : Turn :=
  level50Turn w

/-!
## The summoners of a turn
-/

def summoners : List CLoginPlayer :=
  w.players.filter fun LoginPlayer_ => !isOther LoginPlayer_

/-- The flag as the turn keeps it. -/
def flagged (itm : CLoginPlayer) : CLoginPlayer :=
  { itm with bFinishMainTask := isFinished w itm }

structure Unfinished (LoginPlayer_ : CLoginPlayer) : Prop where
  alive : LoginPlayer_.bDeleteStatus = false
  classes : LoginPlayer_.classes = .summoner
  level : 50 ≤ LoginPlayer_.level
  unfinished : w.getSingleConfigValueByServer LoginPlayer_ ≠ L "1"

variable {w} {LoginPlayer_ : CLoginPlayer}

theorem isFinished_iff :
    isFinished w LoginPlayer_ = true ↔
      w.getSingleConfigValueByServer LoginPlayer_ = L "1" := by
  rw [isFinished, beq_iff_eq]

theorem isOther_eq_false_iff :
    isOther LoginPlayer_ = false ↔
      LoginPlayer_.bDeleteStatus = false ∧ 50 ≤ LoginPlayer_.level ∧
        LoginPlayer_.classes = .summoner := by
  rw [isOther, Bool.or_eq_false_iff, Bool.or_eq_false_iff, decide_eq_false_iff_not,
    UInt32.not_lt, bne_eq_false_iff_eq, and_assoc]

theorem mem_summoners :
    LoginPlayer_ ∈ summoners w ↔
      LoginPlayer_ ∈ w.players ∧ isOther LoginPlayer_ = false := by
  rw [summoners, List.mem_filter, Bool.not_eq_true']

theorem unfinished_iff (hmem : LoginPlayer_ ∈ w.players) :
    Unfinished w LoginPlayer_ ↔
      LoginPlayer_ ∈ summoners w ∧ isFinished w LoginPlayer_ = false := by
  rw [mem_summoners, isOther_eq_false_iff, ← Bool.not_eq_true (isFinished _ _),
    isFinished_iff]
  constructor
  · intro h
    exact ⟨⟨hmem, h.alive, h.level, h.classes⟩, h.unfinished⟩
  · intro h
    rcases h with ⟨⟨_, halive, hlevel, hclasses⟩, hunfinished⟩
    exact ⟨halive, hclasses, hlevel, hunfinished⟩

theorem summoners_distinct : ((summoners w).map CLoginPlayer.uIndex).Nodup :=
  w.distinct.sublist (List.filter_sublist.map _)

theorem eq_of_uIndex {p q : CLoginPlayer} (hp : p ∈ w.players) (hq : q ∈ w.players)
    (hindex : p.uIndex = q.uIndex) : p = q :=
  List.inj_on_of_nodup_map w.distinct hp hq hindex

/-!
## What a turn does
-/

theorem filter_flagged (players : List CLoginPlayer) :
    (players.map (flagged w)).filter (·.bFinishMainTask) =
      (players.filter (isFinished w)).map (flagged w) := by
  rw [List.filter_map]
  rfl

theorem existMoreThanLevel45_eq :
    (existMoreThanLevel45_In_Account w.players fun LoginPlayer_ =>
        if isOther LoginPlayer_ then false
        else
          match ((summoners w).map (flagged w)).filter (·.bFinishMainTask) with
          | [] => true
          | first :: _ => LoginPlayer_.uIndex != first.uIndex) =
      Selections.firstBeside (isFinished w) (summoners w) := by
  rw [← Selections.find?_beside summoners_distinct, filter_flagged]
  show w.players.find? _ = (w.players.filter _).find? _
  rw [List.find?_filter]
  congr 1
  funext p
  cases hother : isOther p with
  | true => rfl
  | false =>
      rw [if_neg Bool.false_ne_true, Bool.not_false]
      show _ = decide (true = true ∧
        ((summoners w).filter (isFinished w)).head?.all _ = true)
      simp only [true_and, Bool.decide_eq_true]
      cases (summoners w).filter (isFinished w) with
      | nil => rfl
      | cons first rest => rfl

theorem find?_unfinished_eq_none_iff :
    ((summoners w).map (flagged w)).find? (fun p => !p.bFinishMainTask) = none ↔
      forall p, p ∈ summoners w -> isFinished w p = true := by
  rw [List.find?_eq_none, List.forall_mem_map]
  constructor
  · intro h p hp
    have hfinished := h p hp
    rwa [Bool.not_eq_true, Bool.not_eq_false'] at hfinished
  · intro h p hp
    rw [Bool.not_eq_true, Bool.not_eq_false']
    exact h p hp

theorem level50Turn_eq :
    level50Turn w =
      if w.summonerLevel50Mode = 1 ∧ (summoners w).any (isFinished w) then
        { ending := .loginFaild .finishedOne }
      else if (forall p, p ∈ summoners w -> isFinished w p = true) ∧
          w.existLevelTick = false then
        { ending := .loginFaild
            (actionForUnExistLevelTick ((summoners w).map (flagged w))) }
      else
        match Selections.firstBeside (isFinished w) (summoners w) with
        | some LoginPlayer_ => { ending := start w LoginPlayer_ }
        | none => create w (((summoners w).filter (isFinished w)).map (flagged w)) := by
  have hany : ((summoners w).map (flagged w)).any (·.bFinishMainTask) =
      (summoners w).any (isFinished w) := List.any_map
  rw [← hany, ← existMoreThanLevel45_eq, ← filter_flagged]
  simp only [← find?_unfinished_eq_none_iff]
  rfl

theorem start_eq_started_iff {p : CLoginPlayer} :
    start w LoginPlayer_ = .started p ↔
      LoginPlayer_ = p ∧ LoginPlayer_.serverId = w.dwAreaId := by
  unfold start
  split
  · rename_i hother
    exact iff_of_false (fun h => nomatch h) fun h => hother h.right
  · rename_i hsame
    rw [not_not] at hsame
    exact ⟨fun h => ⟨Ending.started.inj h, hsame⟩, fun h => congrArg _ h.left⟩

theorem takeCreated_eq_started_iff {VecLoginPlayer players : List CLoginPlayer}
    {created : Option CLoginPlayer} :
    takeCreated w VecLoginPlayer players created = .started LoginPlayer_ ↔
      VecLoginPlayer = [] ∧ created = some LoginPlayer_ ∧
        LoginPlayer_.serverId = w.dwAreaId := by
  unfold takeCreated
  cases created with
  | none =>
      dsimp only [Option.toList_none]
      rw [if_pos (by rw [List.append_nil])]
      exact iff_of_false (fun h => nomatch h) fun h => nomatch h.right.left
  | some c =>
      dsimp only [Option.toList_some]
      have hcount : (players ++ [c]).length = players.length + 1 := by
        rw [List.length_append, List.length_singleton]
      rw [if_neg (by omega)]
      cases VecLoginPlayer with
      | nil =>
          have hpicked : ([] ++ (players ++ [c])).get ⟨players.length, by
              rw [List.nil_append, hcount]
              exact Nat.lt_succ_self _⟩ = c := List.getElem_concat_length rfl _
          rw [dif_pos (by exact hcount), hpicked, start_eq_started_iff]
          constructor
          · intro h
            exact ⟨rfl, congrArg some h.left, h.left ▸ h.right⟩
          · intro h
            have hsame := Option.some.inj h.right.left
            exact ⟨hsame, hsame ▸ h.right.right⟩
      | cons first rest =>
          rw [dif_neg]
          · exact iff_of_false (fun h => nomatch h) fun h => nomatch h.left
          · rw [List.length_append, List.length_cons]
            omega

theorem create_started {VecLoginPlayer : List CLoginPlayer}
    (h : (create w VecLoginPlayer).ending = .started LoginPlayer_) :
    (create w VecLoginPlayer).bCreate = true ∧ w.created = some LoginPlayer_ := by
  unfold create at h ⊢
  cases hroom : waitForRoom w.maxLoginPlayerCount w.later w.players with
  | none =>
      rw [hroom] at h
      cases h
  | some players =>
      rw [hroom] at h
      exact ⟨rfl, (takeCreated_eq_started_iff.mp h).right.left⟩

/-!
## Not again
-/

/--
The character with the index that is started is an unfinished summoner of level 50,
or the one just created; and one is created only if there is no such summoner.
-/
structure NotAgain (w : Surroundings) (t : Turn) : Prop where
  found : forall LoginPlayer_, t.ending = .started LoginPlayer_ -> t.bCreate = false ->
    LoginPlayer_ ∈ w.players ∧
      forall p, p ∈ w.players -> p.uIndex = LoginPlayer_.uIndex -> Unfinished w p
  created : forall LoginPlayer_, t.ending = .started LoginPlayer_ ->
    t.bCreate = true -> w.created = some LoginPlayer_
  needed : t.bCreate = true -> forall p, p ∈ w.players -> ¬ Unfinished w p

/--
The first two summoners are finished; no mode ends the turn for that, and a third one
that is not or a ticket keeps it from ending; and the second is on the right server.
-/
def FinishedTwice (w : Surroundings) : Prop :=
  exists first second rest, summoners w = first :: second :: rest ∧
    isFinished w first = true ∧ isFinished w second = true ∧
    w.summonerLevel50Mode ≠ 1 ∧
    (w.existLevelTick = true ∨ exists p, p ∈ rest ∧ isFinished w p = false) ∧
    second.serverId = w.dwAreaId

theorem notAgain_of_loginFaild (reason : LoginFaild) :
    NotAgain w { ending := .loginFaild reason } where
  found _ h := nomatch h
  created _ h := nomatch h
  needed h := nomatch h

theorem notAgain_start (hmem : LoginPlayer_ ∈ summoners w)
    (h : isFinished w LoginPlayer_ = false ∨ LoginPlayer_.serverId ≠ w.dwAreaId) :
    NotAgain w { ending := start w LoginPlayer_ } where
  found p hstarted _ := by
    rcases start_eq_started_iff.mp hstarted with ⟨hsame, hserver⟩
    have hunfinished := h.resolve_right (not_not.mpr hserver)
    have hplayer := (mem_summoners.mp hmem).left
    rw [← hsame]
    refine ⟨hplayer, ?_⟩
    intro q hq hindex
    rw [eq_of_uIndex hq hplayer hindex]
    exact (unfinished_iff hplayer).mpr ⟨hmem, hunfinished⟩
  created _ _ h := nomatch h
  needed h := nomatch h

theorem notAgain_create {VecLoginPlayer : List CLoginPlayer}
    (hfinished : forall p, p ∈ summoners w -> isFinished w p = true) :
    NotAgain w (create w VecLoginPlayer) where
  found p hstarted hcreate := by
    rw [(create_started hstarted).left] at hcreate
    cases hcreate
  created p hstarted _ := (create_started hstarted).right
  needed _ p hp hunfinished := by
    rcases (unfinished_iff hp).mp hunfinished with ⟨hmem, hfalse⟩
    rw [hfinished p hmem] at hfalse
    cases hfalse

theorem finishedTwice_of_found
    (hmode : ¬ (w.summonerLevel50Mode = 1 ∧ (summoners w).any (isFinished w)))
    (hgoes : ¬ ((forall p, p ∈ summoners w -> isFinished w p = true) ∧
      w.existLevelTick = false))
    (hfound : Selections.firstBeside (isFinished w) (summoners w) = some LoginPlayer_)
    (hfinished : isFinished w LoginPlayer_ = true)
    (hserver : LoginPlayer_.serverId = w.dwAreaId) : FinishedTwice w := by
  rcases Selections.firstBeside_marked_iff.mp ⟨LoginPlayer_, hfound, hfinished⟩ with
    ⟨first, second, rest, hsummoners, hfirst, hsecond⟩
  have hsame : second = LoginPlayer_ := by
    rw [hsummoners, Selections.firstBeside, if_pos hfirst, List.head?_cons] at hfound
    exact Option.some.inj hfound
  refine ⟨first, second, rest, hsummoners, hfirst, hsecond, ?_, ?_, ?_⟩
  · intro hone
    apply hmode
    rw [hsummoners, List.any_cons, hfirst]
    exact ⟨hone, rfl⟩
  · cases htick : w.existLevelTick with
    | true => exact Or.inl rfl
    | false =>
        right
        by_contra hnone
        apply hgoes
        refine ⟨?_, htick⟩
        intro p hp
        rw [hsummoners, List.mem_cons, List.mem_cons] at hp
        rcases hp with hp | hp | hp
        · rw [hp, hfirst]
        · rw [hp, hsecond]
        · cases hunfinished : isFinished w p with
          | true => rfl
          | false => exact absurd ⟨p, hp, hunfinished⟩ hnone
  · rw [hsame, hserver]

theorem level50Turn_of_finishedTwice (htwice : FinishedTwice w) :
    exists second, second ∈ w.players ∧ isFinished w second = true ∧
      level50Turn w = { ending := .started second } := by
  rcases htwice with
    ⟨first, second, rest, hsummoners, hfirst, hsecond, hmode, hgoes, hserver⟩
  have hmem : second ∈ summoners w := by
    rw [hsummoners]
    exact List.mem_cons_of_mem _ List.mem_cons_self
  have hfound : Selections.firstBeside (isFinished w) (summoners w) = some second := by
    rw [hsummoners, Selections.firstBeside, if_pos hfirst, List.head?_cons]
  refine ⟨second, (mem_summoners.mp hmem).left, hsecond, ?_⟩
  rw [level50Turn_eq, if_neg fun h => hmode h.left, if_neg, hfound]
  · dsimp only
    rw [start_eq_started_iff.mpr ⟨rfl, hserver⟩]
  · intro hends
    rcases hgoes with htick | hthird
    · rw [hends.right] at htick
      cases htick
    · rcases hthird with ⟨p, hp, hunfinished⟩
      have hfinished := hends.left p (by
        rw [hsummoners]
        exact List.mem_cons_of_mem _ (List.mem_cons_of_mem _ hp))
      rw [hunfinished] at hfinished
      cases hfinished

theorem level50Turn_notAgain_iff (w : Surroundings) :
    NotAgain w (level50Turn w) ↔ ¬ FinishedTwice w := by
  constructor
  · intro hnot htwice
    rcases level50Turn_of_finishedTwice htwice with ⟨second, hmem, hsecond, hstarted⟩
    rw [hstarted] at hnot
    rcases hnot.found second rfl rfl with ⟨_, hfit⟩
    exact (hfit second hmem rfl).unfinished (isFinished_iff.mp hsecond)
  · intro hnot
    rw [level50Turn_eq]
    split
    · exact notAgain_of_loginFaild _
    · rename_i hmode
      split
      · exact notAgain_of_loginFaild _
      · rename_i hgoes
        cases hfound : Selections.firstBeside (isFinished w) (summoners w) with
        | none =>
            exact notAgain_create (Selections.marked_of_firstBeside_eq_none hfound)
        | some LoginPlayer_ =>
            apply notAgain_start (Selections.mem_of_firstBeside hfound)
            cases hfinished : isFinished w LoginPlayer_ with
            | false => exact Or.inl rfl
            | true =>
                right
                intro hserver
                exact hnot
                  (finishedTwice_of_found hmode hgoes hfound hfinished hserver)

/-- A finished character is run again exactly if it is the second of two in front. -/
theorem run_By_SummonerAccount_notAgain_iff (w : Surroundings) :
    (NotAgain w (run_By_SummonerAccount_Level50 w) ↔ ¬ FinishedTwice w) ∧
      (NotAgain w (run_By_SummonerAccount_Speed_Level50 w) ↔ ¬ FinishedTwice w) :=
  ⟨level50Turn_notAgain_iff w, level50Turn_notAgain_iff w⟩

def twoFinished : Surroundings where
  players := [
    { name := L "a", level := 50, bDeleteStatus := false, serverId := 1
      classes := .summoner, uIndex := 0 },
    { name := L "b", level := 50, bDeleteStatus := false, serverId := 1
      classes := .summoner, uIndex := 1 }]
  distinct := by decide
  getSingleConfigValueByServer _ := L "1"
  summonerLevel50Mode := 0
  existLevelTick := true
  maxLoginPlayerCount := 9
  later := []
  created := none
  dwAreaId := 1

/-- The second of them is started again. -/
theorem twoFinished_started :
    exists LoginPlayer_, LoginPlayer_ ∈ twoFinished.players ∧
      twoFinished.getSingleConfigValueByServer LoginPlayer_ = L "1" ∧
      run_By_SummonerAccount_Level50 twoFinished =
        { ending := .started LoginPlayer_ } ∧
      run_By_SummonerAccount_Speed_Level50 twoFinished =
        { ending := .started LoginPlayer_ } ∧
      ¬ NotAgain twoFinished (run_By_SummonerAccount_Level50 twoFinished) ∧
      ¬ NotAgain twoFinished (run_By_SummonerAccount_Speed_Level50 twoFinished) := by
  have hstarted : level50Turn twoFinished =
      { ending := .started (twoFinished.players.get ⟨1, by decide⟩) } := rfl
  have hnot : ¬ NotAgain twoFinished (level50Turn twoFinished) := by
    intro hnot
    rw [hstarted] at hnot
    rcases hnot.found _ rfl rfl with ⟨hmem, hfit⟩
    exact (hfit _ hmem rfl).unfinished rfl
  exact ⟨_, List.get_mem _ _, rfl, hstarted, hstarted, hnot, hnot⟩

end CTaskUpgradeMgr
end Game
end BnsKorea
