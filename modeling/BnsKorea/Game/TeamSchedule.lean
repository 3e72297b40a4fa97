import BnsKorea.Client.Responses
import BnsKorea.Library.Sorting
import BnsKorea.TaskTeam.Schedules

/-!
# The schedules of the team at the client

The client asks for the schedules of its team again and again, and keeps them in
one list.  The callback puts the records of an answer behind those of the last
one, and the list is only cleared when the client leaves the team.
-/

namespace BnsKorea
namespace Game

open Library Server

structure TeamMemberSchedule where
  wsAccountName : WString := []
  wsPlayerName : WString := []
  dwPlayerId : DWORD := 0
  wsScheduleName : WString := []
  uScheduleIndex : UINT := 0
  dwTaskId : DWORD := 0
  dwScheduleId : DWORD := 0
deriving DecidableEq

structure TeamDungeonSchedule where
  vecMember : List TeamMemberSchedule := []
  dwTeamId : DWORD := 0

namespace TeamMemberSchedule

def taken (itm : BnsDungoenScheduleMember) : TeamMemberSchedule where
  wsAccountName := itm.wsAccountName
  wsPlayerName := itm.wsPlayerName
  dwPlayerId := itm.dwPlayerId
  wsScheduleName := itm.wsDungoenSchedule
  uScheduleIndex := itm.uGatherIndex
  dwTaskId := itm.dwTaskId
  dwScheduleId := itm.dwScheduleId

/-- `operator <` puts the greater index first. -/
def less (a b : TeamMemberSchedule) : Bool :=
  decide (b.uScheduleIndex < a.uScheduleIndex)

end TeamMemberSchedule

namespace TeamDungeonSchedule

/-- The records are sorted in place. -/
def findByMaxScheduleIndex (s : TeamDungeonSchedule) :
    Option TeamMemberSchedule × TeamDungeonSchedule :=
  match s.vecMember.mergeSort fun a b => !TeamMemberSchedule.less b a with
  | [] => (none, s)
  | itm :: rest => (some itm, { s with vecMember := itm :: rest })

def clear (_ : TeamDungeonSchedule) : TeamDungeonSchedule :=
  {}

end TeamDungeonSchedule

def CSocketAPI.getGungoenSchedule (fields : Answer)
    (VecResult : List TeamMemberSchedule) : List TeamMemberSchedule :=
  match (Client.CSocketAPI.extractList Client.CSocketAPI.extractSchedule).run
      fields.values with
  | none => VecResult
  | some (Vec, _) => VecResult ++ Vec.map TeamMemberSchedule.taken

structure CClientTeam where
  dwTeamId : DWORD := 0
  teamDungeonSchedule : TeamDungeonSchedule := {}

namespace CClientTeam

variable (T : MyTools)

def scheduleAnswer (dwTeamId : DWORD) (team : CBnsTaskTeam) : Answer :=
  .teamSchedule (CBnsTaskTeam.getDungoenSchedule T dwTeamId team)

def refreshGunoneTeamSchedule (team : CBnsTaskTeam) (s : CClientTeam) :
    CClientTeam :=
  { s with
    teamDungeonSchedule :=
      { s.teamDungeonSchedule with
        vecMember := CSocketAPI.getGungoenSchedule
          (scheduleAnswer T s.dwTeamId team) s.teamDungeonSchedule.vecMember } }

structure Session where
  team : CBnsTaskTeam := {}
  client : CClientTeam := {}

/-- What happens at the server, and what the client does with its list. -/
inductive Event where
  | serverCall (call : CBnsTaskTeam.Call)
  | joinTeam (dwTeamId : DWORD)
  | joinedGungoenTeam
  | leaveGungoenTeam
  | refreshGunoneTeamSchedule
  | findByMaxScheduleIndex

def step : Event -> Session -> Session
  | .serverCall call, s => { s with team := CBnsTaskTeam.apply T call s.team }
  | .joinTeam dwTeamId, s =>
      { s with client := { s.client with dwTeamId := dwTeamId } }
  | .joinedGungoenTeam, s =>
      { s with
        client :=
          { s.client with
            teamDungeonSchedule :=
              { s.client.teamDungeonSchedule with
                dwTeamId := s.client.dwTeamId } } }
  | .leaveGungoenTeam, s =>
      { s with
        client :=
          { dwTeamId := 0
            teamDungeonSchedule := s.client.teamDungeonSchedule.clear } }
  | .refreshGunoneTeamSchedule, s =>
      { s with client := refreshGunoneTeamSchedule T s.team s.client }
  | .findByMaxScheduleIndex, s =>
      { s with
        client :=
          { s.client with
            teamDungeonSchedule :=
              s.client.teamDungeonSchedule.findByMaxScheduleIndex.2 } }

def machine : Machine Session Event where
  enabled _ _ := True
  step := step T

/-!
## The mirror
-/

def memberSchedule (team : TeamMemberGroup) (itm : TeamMemberInfo) :
    TeamMemberSchedule where
  wsPlayerName := itm.member.wsPlayerName
  dwPlayerId := itm.member.dwPlayerId
  wsScheduleName := itm.dungoen.wsDungoenSchedule
  uScheduleIndex := itm.dungoen.uGatherIndex
  dwTaskId := team.dwTaskId
  dwScheduleId := team.dwScheduleId

def withoutAccount (itm : TeamMemberSchedule) : TeamMemberSchedule :=
  { itm with wsAccountName := [] }

def schedulesOf (dwTeamId : DWORD) (team : CBnsTaskTeam) :
    List TeamMemberSchedule :=
  match CBnsTaskTeam.existTeamMember_By_TeamId T dwTeamId team.dungoenTeamMap with
  | none => []
  | some (_, p) => p.here.memberVec.map (memberSchedule p.here)

/-- A record of a member that no member is ahead of, unless there is none. -/
def IsMaximum (found : Option TeamMemberSchedule)
    (schedules : List TeamMemberSchedule) : Prop :=
  match found with
  | none => schedules = []
  | some itm =>
      withoutAccount itm ∈ schedules ∧
        forall other, other ∈ schedules ->
          other.uScheduleIndex ≤ itm.uScheduleIndex

/-- One record for each member, and the greatest index is found. -/
structure Mirrors (s : Session) : Prop where
  records : (s.client.teamDungeonSchedule.vecMember.map withoutAccount).Perm
    (schedulesOf T s.client.dwTeamId s.team)
  maximum : IsMaximum s.client.teamDungeonSchedule.findByMaxScheduleIndex.1
    (schedulesOf T s.client.dwTeamId s.team)

section

variable {T : MyTools}

theorem getGungoenSchedule_answer {P : Platform} (dwTeamId : DWORD)
    (GameClient : Server.CGameClient) (s : Services) :
    (Server.CEchoPacket.getGungoenSchedule P dwTeamId GameClient s).1 =
      .answer (some SockMsg.getTeamSchedule)
        (scheduleAnswer P.tools dwTeamId s.taskTeam) :=
  rfl

/-!
## The greatest index
-/

theorem notLess_trans (a b c : TeamMemberSchedule) :
    (!TeamMemberSchedule.less b a) = true -> (!TeamMemberSchedule.less c b) = true ->
      (!TeamMemberSchedule.less c a) = true := by
  simp only [TeamMemberSchedule.less, Bool.not_eq_true', decide_eq_false_iff_not,
    UInt32.not_lt]
  exact fun hab hbc => UInt32.le_trans hbc hab

theorem notLess_total (a b : TeamMemberSchedule) :
    (!TeamMemberSchedule.less b a || !TeamMemberSchedule.less a b) = true := by
  simp only [TeamMemberSchedule.less, Bool.or_eq_true, Bool.not_eq_true',
    decide_eq_false_iff_not, UInt32.not_lt]
  exact UInt32.le_total b.uScheduleIndex a.uScheduleIndex

theorem findByMaxScheduleIndex_eq_some {s : TeamDungeonSchedule}
    {itm : TeamMemberSchedule} (h : s.findByMaxScheduleIndex.1 = some itm) :
    itm ∈ s.vecMember ∧ forall other, other ∈ s.vecMember ->
      other.uScheduleIndex ≤ itm.uScheduleIndex := by
  unfold TeamDungeonSchedule.findByMaxScheduleIndex at h
  split at h
  · cases h
  · rename_i hsort
    cases h
    rcases mergeSort_head notLess_trans notLess_total hsort with ⟨hmem, hfirst⟩
    refine ⟨hmem, ?_⟩
    intro other hother
    have hle := hfirst other hother
    rw [TeamMemberSchedule.less, Bool.not_eq_true', decide_eq_false_iff_not,
      UInt32.not_lt] at hle
    exact hle

theorem findByMaxScheduleIndex_eq_none {s : TeamDungeonSchedule}
    (h : s.findByMaxScheduleIndex.1 = none) : s.vecMember = [] := by
  unfold TeamDungeonSchedule.findByMaxScheduleIndex at h
  split at h
  · rename_i hsort
    exact mergeSort_eq_nil.mp hsort
  · cases h

theorem isMaximum_of_perm {s : TeamDungeonSchedule}
    {schedules : List TeamMemberSchedule}
    (hperm : (s.vecMember.map withoutAccount).Perm schedules) :
    IsMaximum s.findByMaxScheduleIndex.1 schedules := by
  cases hfound : s.findByMaxScheduleIndex.1 with
  | none =>
      rw [findByMaxScheduleIndex_eq_none hfound] at hperm
      exact List.nil_perm.mp hperm
  | some itm =>
      rcases findByMaxScheduleIndex_eq_some hfound with ⟨hmem, hmax⟩
      constructor
      · exact hperm.mem_iff.mp (List.mem_map_of_mem hmem)
      · intro other hother
        rcases List.mem_map.mp (hperm.mem_iff.mpr hother) with ⟨r, hr, heq⟩
        rw [← heq]
        exact hmax r hr

/-!
## A refresh
-/

theorem schedulesOf_eq (dwTeamId : DWORD) (team : CBnsTaskTeam) :
    ((CBnsTaskTeam.getDungoenSchedule T dwTeamId team).map
        TeamMemberSchedule.taken).map withoutAccount =
      schedulesOf T dwTeamId team := by
  rw [CBnsTaskTeam.getDungoenSchedule, schedulesOf]
  cases CBnsTaskTeam.existTeamMember_By_TeamId T dwTeamId team.dungoenTeamMap with
  | none => rfl
  | some found =>
      show ((found.2.here.memberVec.map _).map _).map _ = _
      rw [List.map_map, List.map_map]
      rfl

theorem getDungoenSchedule_length {team : CBnsTaskTeam}
    (hs : CBnsTaskTeam.TablesOk T team) (dwTeamId : DWORD) :
    (CBnsTaskTeam.getDungoenSchedule T dwTeamId team).length < 2 ^ 32 := by
  unfold CBnsTaskTeam.getDungoenSchedule
  split
  · exact Nat.two_pow_pos 32
  · rename_i wsMapText p hfound
    have hwhole := (CBnsTaskTeam.existTeamMember_eq_some hfound).left
    have hgroup := hs .dungoenTeamMap wsMapText
    rw [← hwhole] at hgroup
    have hle := hgroup.here.notOverfull
    have hlt := p.here.uMaxMemberCount.toNat_lt
    rw [List.length_map]
    omega

theorem refresh_vecMember {s : Session} (hs : CBnsTaskTeam.TablesOk T s.team) :
    (step T .refreshGunoneTeamSchedule s).client.teamDungeonSchedule.vecMember =
      s.client.teamDungeonSchedule.vecMember ++
        (CBnsTaskTeam.getDungoenSchedule T s.client.dwTeamId s.team).map
          TeamMemberSchedule.taken := by
  have hsize := getDungoenSchedule_length hs s.client.dwTeamId
  have hreads := Client.CSocketAPI.reads_extractList hsize
    Client.CSocketAPI.reads_extractSchedule
  have hrun : (Client.CSocketAPI.extractList Client.CSocketAPI.extractSchedule).run
      (scheduleAnswer T s.client.dwTeamId s.team).values =
      some (CBnsTaskTeam.getDungoenSchedule T s.client.dwTeamId s.team, []) :=
    hreads.run
  show CSocketAPI.getGungoenSchedule (scheduleAnswer T s.client.dwTeamId s.team)
    s.client.teamDungeonSchedule.vecMember = _
  rw [CSocketAPI.getGungoenSchedule, hrun]

theorem refresh_mirrors_iff {s : Session} (hs : CBnsTaskTeam.TablesOk T s.team) :
    Mirrors T (step T .refreshGunoneTeamSchedule s) ↔
      s.client.teamDungeonSchedule.vecMember = [] := by
  have hrecords :
      (step T .refreshGunoneTeamSchedule s).client.teamDungeonSchedule.vecMember.map
          withoutAccount =
        s.client.teamDungeonSchedule.vecMember.map withoutAccount ++
          schedulesOf T s.client.dwTeamId s.team := by
    rw [refresh_vecMember hs, List.map_append, schedulesOf_eq]
  constructor
  · intro h
    have hlength := h.records.length_eq
    rw [hrecords, List.length_append, List.length_map] at hlength
    exact List.eq_nil_of_length_eq_zero (Nat.add_eq_right.mp hlength)
  · intro hempty
    rw [hempty] at hrecords
    have hperm : ((step T .refreshGunoneTeamSchedule
        s).client.teamDungeonSchedule.vecMember.map withoutAccount).Perm
        (schedulesOf T s.client.dwTeamId s.team) := by
      rw [hrecords]
      exact List.Perm.refl _
    exact ⟨hperm, isMaximum_of_perm hperm⟩

theorem step_tablesOk (l : Event) (s : Session)
    (hs : CBnsTaskTeam.TablesOk T s.team) :
    CBnsTaskTeam.TablesOk T (step T l s).team := by
  cases l with
  | serverCall call => exact CBnsTaskTeam.apply_tablesOk hs call
  | _ => exact hs

theorem play_tablesOk (events : List Event) :
    CBnsTaskTeam.TablesOk T ((machine T).play events {}).team := by
  have hinitial : CBnsTaskTeam.TablesOk T ({} : Session).team :=
    CBnsTaskTeam.tablesOk_initial
  exact Machine.play_invariant (M := machine T)
    (fun s => CBnsTaskTeam.TablesOk T s.team) step_tablesOk events hinitial

/--
In every run each refresh leaves a mirror of the server's team exactly if at
each refresh the list is empty.
-/
theorem mirrors_iff (events : List Event) :
    (forall n, events[n]? = some .refreshGunoneTeamSchedule ->
      Mirrors T ((machine T).play (events.take (n + 1)) {})) ↔
    forall n, events[n]? = some .refreshGunoneTeamSchedule ->
      ((machine T).play (events.take n) {}).client.teamDungeonSchedule.vecMember =
        [] := by
  have hexact : forall n, events[n]? = some .refreshGunoneTeamSchedule ->
      (Mirrors T ((machine T).play (events.take (n + 1)) {}) ↔
        ((machine T).play (events.take n)
          {}).client.teamDungeonSchedule.vecMember = []) := by
    intro n hn
    rw [Machine.play_take_succ hn]
    exact refresh_mirrors_iff (play_tablesOk (events.take n))
  exact forall_congr' fun n => imp_congr_right (hexact n)

def progress (uScheduleIndex : UINT) : Event :=
  .serverCall (.updateDungoenSchedule
    { dwTeamId := 1
      wsAccountName := L "anna"
      wsScheduleName := L "Boss"
      uScheduleIndex := uScheduleIndex })

def progressEvents : List Event :=
  [.serverCall (.joinDungoenTeam
      (CBnsTaskTeam.pairPlayer (L "anna") (L "Anna") 8 [])),
    .joinTeam 1,
    progress 3,
    .refreshGunoneTeamSchedule,
    progress 1,
    .refreshGunoneTeamSchedule]

def progressState (n : Nat) : Session :=
  (machine MyTools.standard).play (progressEvents.take n) {}

theorem progressState_not_maximum :
    ¬ IsMaximum
      (progressState 6).client.teamDungeonSchedule.findByMaxScheduleIndex.1
      (schedulesOf MyTools.standard (progressState 6).client.dwTeamId
        (progressState 6).team) := by
  have hstale : exists itm,
      itm ∈ (progressState 6).client.teamDungeonSchedule.vecMember ∧
        itm.uScheduleIndex = 3 := by
    decide +kernel
  have hcurrent : forall itm,
      itm ∈ schedulesOf MyTools.standard (progressState 6).client.dwTeamId
        (progressState 6).team -> itm.uScheduleIndex = 1 := by
    decide +kernel
  rcases hstale with ⟨stale, hstale, hindex⟩
  intro h
  cases hfound :
      (progressState 6).client.teamDungeonSchedule.findByMaxScheduleIndex.1 with
  | none =>
      rw [findByMaxScheduleIndex_eq_none hfound] at hstale
      cases hstale
  | some itm =>
      rw [hfound] at h
      have hle := (findByMaxScheduleIndex_eq_some hfound).right stale hstale
      have hone : itm.uScheduleIndex = 1 := hcurrent (withoutAccount itm) h.left
      rw [hindex, hone] at hle
      exact absurd hle (by decide)

/-- With two refreshes the index that is found is nobody's any more. -/
theorem progressEvents_not_mirrored :
    ¬ forall n, progressEvents[n]? = some .refreshGunoneTeamSchedule ->
      Mirrors MyTools.standard
        ((machine MyTools.standard).play (progressEvents.take (n + 1)) {}) :=
  fun h => progressState_not_maximum (h 5 rfl).maximum

end
end CClientTeam
end Game
end BnsKorea
