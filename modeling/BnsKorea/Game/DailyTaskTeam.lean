import Mathlib.Algebra.GroupWithZero.Nat
import Mathlib.Logic.Function.Basic
import BnsKorea.Common.ServerCommon
import BnsKorea.Library.Machines

/-!
# How the members of a daily team wait for each other

The clients of a team share an array with the schedule index of every member.
`ClumpTeamMember` writes the member's own index and then looks through the array
until nobody that is connected is behind.  Members run in different processes,
and every comparison and every write is a step of its own here.  The moves, the
fights and the texts are left out.
-/

namespace BnsKorea
namespace Game

open Library

namespace DailyTask_Team

/-!
## The state
-/

/-- Where the loop over the array is. -/
inductive Look (uCount : Nat) where
  /-- Between two turns of the loop. -/
  | asleep
  /-- In `FindMaxScheduleMember`. -/
  | finding (i : Nat) (pMaxMemberClumpContent : Fin uCount)
  /-- In the loop behind it, with the members that are not connected. -/
  | checking (i : Nat) (pMaxMemberClumpContent : Fin uCount) (lost : List (Fin uCount))
  /-- Behind the loop. -/
  | done (bSame : Bool) (lost : List (Fin uCount))
  deriving DecidableEq

/-- What a member does. -/
inductive Phase (uCount : Nat) where
  /-- Outside of `ClumpTeamMember`. -/
  | going
  /-- In the first `FindMaxScheduleMember`. -/
  | arriving (uScheduleIndex : UINT) (i : Nat) (pMaxMemberClumpContent : Fin uCount)
  /-- Nobody was found ahead, the own index is not written. -/
  | arrived (uScheduleIndex : UINT)
  | waiting (uScheduleIndex : UINT) (bTimeOut : Bool) (look : Look uCount)
  deriving DecidableEq

namespace Phase

variable {uCount : Nat}

def counting : Phase uCount -> Bool
  | .waiting _ bTimeOut _ => !bTimeOut
  | _ => false

/-- The condition of the outer loop is looked at. -/
def between : Phase uCount -> Bool
  | .waiting _ _ .asleep => true
  | _ => false

theorem of_counting {phase : Phase uCount} (h : phase.counting = true) :
    exists u look, phase = .waiting u false look := by
  cases phase with
  | waiting u bTimeOut look =>
      cases bTimeOut with
      | false => exact ⟨u, look, rfl⟩
      | true => cases h
  | going => cases h
  | arriving u i p => cases h
  | arrived u => cases h

end Phase

structure State (uCount : Nat) where
  uScheduleIndex : Fin uCount -> UINT
  phase : Fin uCount -> Phase uCount

namespace State

variable {uCount : Nat}

def setPhase (s : State uCount) (m : Fin uCount) (phase : Phase uCount) :
    State uCount :=
  { s with phase := Function.update s.phase m phase }

def setIndex (s : State uCount) (m : Fin uCount) (uScheduleIndex : UINT) :
    State uCount :=
  { s with uScheduleIndex := Function.update s.uScheduleIndex m uScheduleIndex }

@[simp] theorem setPhase_uScheduleIndex (s : State uCount) (m : Fin uCount)
    (phase : Phase uCount) : (s.setPhase m phase).uScheduleIndex = s.uScheduleIndex :=
  rfl

@[simp] theorem setPhase_self (s : State uCount) (m : Fin uCount)
    (phase : Phase uCount) : (s.setPhase m phase).phase m = phase := by
  simp [setPhase]

theorem setPhase_of_ne (s : State uCount) {m x : Fin uCount} (phase : Phase uCount)
    (h : x ≠ m) : (s.setPhase m phase).phase x = s.phase x := by
  simp [setPhase, Function.update_of_ne h]

@[simp] theorem setIndex_phase (s : State uCount) (m : Fin uCount) (u : UINT) :
    (s.setIndex m u).phase = s.phase :=
  rfl

@[simp] theorem setIndex_self (s : State uCount) (m : Fin uCount) (u : UINT) :
    (s.setIndex m u).uScheduleIndex m = u := by
  simp [setIndex]

theorem setIndex_of_ne (s : State uCount) {m x : Fin uCount} (u : UINT) (h : x ≠ m) :
    (s.setIndex m u).uScheduleIndex x = s.uScheduleIndex x := by
  simp [setIndex, Function.update_of_ne h]

end State

/-!
## Steps
-/

/-- One turn of the loop of `FindMaxScheduleMember`. -/
def findTurn {uCount : Nat} (ArrMember : Fin uCount -> UINT) (i : Fin uCount)
    (pMemberClumpContent : Fin uCount) : Fin uCount :=
  if ArrMember i > ArrMember pMemberClumpContent then i else pMemberClumpContent

theorem findTurn_left {uCount : Nat} (ArrMember : Fin uCount -> UINT)
    (i p : Fin uCount) :
    ArrMember i ≤ ArrMember (findTurn ArrMember i p) := by
  unfold findTurn
  split
  · exact UInt32.le_refl _
  · rename_i h
    exact UInt32.not_lt.mp h

theorem findTurn_right {uCount : Nat} (ArrMember : Fin uCount -> UINT)
    (i p : Fin uCount) :
    ArrMember p ≤ ArrMember (findTurn ArrMember i p) := by
  unfold findTurn
  split
  · rename_i h
    exact UInt32.le_of_lt h
  · exact UInt32.le_refl _

/-- What happens to a member, with what it reads outside of the array. -/
inductive Action where
  /-- The member enters `ClumpTeamMember`. -/
  | arrive (uScheduleIndex : UINT)
  /-- The next comparison, or write, of the member. -/
  | next (bLose : Bool) (dwTeamMemberCount : DWORD)
  /-- Five minutes have gone by since the index was written. -/
  | timeOut
  /-- The game is left, or the member is dead. -/
  | quit
  /-- A script sets its own index outside of `ClumpTeamMember`. -/
  | setSchedule (uScheduleIndex : UINT)
  /-- `CreateTeam` zeroes an entry of the array at its end. -/
  | zero (i : Nat)

section

variable {uCount : Nat} [NeZero uCount]

/-- The state of the loop after its next comparison. -/
def lookNext (ArrMember : Fin uCount -> UINT) (bTimeOut bLose : Bool) :
    Look uCount -> Look uCount
  | .asleep => if bTimeOut then .asleep else .finding 1 0
  | .finding i p =>
      if h : i < uCount then .finding (i + 1) (findTurn ArrMember ⟨i, h⟩ p)
      else .checking 0 p []
  | .checking i p lost =>
      if h : i < uCount then
        if bLose then .checking (i + 1) p (⟨i, h⟩ :: lost)
        else if ArrMember ⟨i, h⟩ = 0 ∨ ArrMember ⟨i, h⟩ < ArrMember p then
          .done false lost
        else .checking (i + 1) p lost
      else .done true lost
  | .done bSame lost => .done bSame lost

def next (m : Fin uCount) (bLose : Bool) (dwTeamMemberCount : DWORD)
    (s : State uCount) : State uCount :=
  match s.phase m with
  | .going => s
  | .arriving u i p =>
      if h : i < uCount then
        s.setPhase m (.arriving u (i + 1) (findTurn s.uScheduleIndex ⟨i, h⟩ p))
      else if s.uScheduleIndex p > u then s.setPhase m .going
      else s.setPhase m (.arrived u)
  | .arrived u => (s.setIndex m u).setPhase m (.waiting u false .asleep)
  | .waiting u bTimeOut (.done bSame lost) =>
      if dwTeamMemberCount - UInt32.ofNat lost.length < 6 then s.setPhase m .going
      else if bSame then s.setPhase m .going
      else s.setPhase m (.waiting u bTimeOut .asleep)
  | .waiting u bTimeOut look =>
      s.setPhase m (.waiting u bTimeOut (lookNext s.uScheduleIndex bTimeOut bLose look))

def enabled (m : Fin uCount) : Action -> State uCount -> Prop
  | .arrive _, s => s.phase m = .going
  | .next _ _, s => s.phase m ≠ .going
  | .timeOut, s => (s.phase m).counting = true
  | .quit, s => (s.phase m).between = true
  | .setSchedule _, s => s.phase m = .going
  | .zero i, s => s.phase m = .going ∧ i < uCount

instance enabled.decidable (m : Fin uCount) :
    forall a s, Decidable (enabled m a s)
  | .arrive _, s => inferInstanceAs (Decidable (s.phase m = .going))
  | .next _ _, s => inferInstanceAs (Decidable (s.phase m ≠ .going))
  | .timeOut, s => inferInstanceAs (Decidable ((s.phase m).counting = true))
  | .quit, s => inferInstanceAs (Decidable ((s.phase m).between = true))
  | .setSchedule _, s => inferInstanceAs (Decidable (s.phase m = .going))
  | .zero i, s => inferInstanceAs (Decidable (s.phase m = .going ∧ i < uCount))

def apply (m : Fin uCount) : Action -> State uCount -> State uCount
  | .arrive u, s => s.setPhase m (.arriving u 1 0)
  | .next bLose dwTeamMemberCount, s => next m bLose dwTeamMemberCount s
  | .timeOut, s =>
      match s.phase m with
      | .waiting u _ look => s.setPhase m (.waiting u true look)
      | _ => s
  | .quit, s => s.setPhase m .going
  | .setSchedule u, s => s.setIndex m u
  | .zero i, s => if h : i < uCount then s.setIndex ⟨i, h⟩ 0 else s

def machine (uCount : Nat) [NeZero uCount] :
    Machine (State uCount) (Fin uCount × Action) where
  enabled l := enabled l.1 l.2
  step l := apply l.1 l.2

instance machine.decidable (l : Fin uCount × Action) (s : State uCount) :
    Decidable ((machine uCount).enabled l s) :=
  enabled.decidable l.1 l.2 s

def State.initial : State uCount where
  uScheduleIndex _ := 0
  phase _ := .going

/-!
## What one step changes

Only `CreateTeam` writes the entries of others.
-/

def NoReset (l : Fin uCount × Action) (s : State uCount) : Prop :=
  match l.2 with
  | .setSchedule u => s.uScheduleIndex l.1 ≤ u
  | .zero _ => False
  | _ => True

instance NoReset.decidable : forall (l : Fin uCount × Action) s,
    Decidable (NoReset l s)
  | (_, .arrive _), _ => isTrue trivial
  | (_, .next _ _), _ => isTrue trivial
  | (_, .timeOut), _ => isTrue trivial
  | (_, .quit), _ => isTrue trivial
  | (m, .setSchedule u), s => inferInstanceAs (Decidable (s.uScheduleIndex m ≤ u))
  | (_, .zero _), _ => isFalse fun h => h

theorem next_phase_of_ne {m x : Fin uCount} (bLose : Bool) (dwTeamMemberCount : DWORD)
    (s : State uCount) (h : x ≠ m) :
    (next m bLose dwTeamMemberCount s).phase x = s.phase x := by
  unfold next
  repeat' split
  all_goals simp [State.setPhase_of_ne, h]

theorem next_index_of_ne {m x : Fin uCount} (bLose : Bool) (dwTeamMemberCount : DWORD)
    (s : State uCount) (h : x ≠ m) :
    (next m bLose dwTeamMemberCount s).uScheduleIndex x = s.uScheduleIndex x := by
  unfold next
  repeat' split
  all_goals simp [State.setIndex_of_ne, h]

theorem apply_phase_of_ne {m x : Fin uCount} (a : Action) (s : State uCount)
    (h : x ≠ m) : (apply m a s).phase x = s.phase x := by
  cases a with
  | arrive u => simp [apply, State.setPhase_of_ne, h]
  | next bLose count => exact next_phase_of_ne bLose count s h
  | timeOut =>
      simp only [apply]
      split
      · simp [State.setPhase_of_ne, h]
      · rfl
  | quit => simp [apply, State.setPhase_of_ne, h]
  | setSchedule u => simp [apply]
  | zero i =>
      simp only [apply]
      split
      · simp
      · rfl

theorem apply_index_of_ne {m x : Fin uCount} {a : Action} {s : State uCount}
    (ha : NoReset (m, a) s) (h : x ≠ m) :
    (apply m a s).uScheduleIndex x = s.uScheduleIndex x := by
  cases a with
  | arrive u => simp [apply]
  | next bLose count => exact next_index_of_ne bLose count s h
  | timeOut =>
      simp only [apply]
      split
      · simp
      · rfl
  | quit => simp [apply]
  | setSchedule u => simp [apply, State.setIndex_of_ne, h]
  | zero i => exact ha.elim

/-!
## No index goes back
-/

/-- What an arriving member knows about its own old index. -/
def ArriveInv (ArrMember : Fin uCount -> UINT) (m : Fin uCount) : Phase uCount -> Prop
  | .going => True
  | .arriving _ i p => m < i -> ArrMember m ≤ ArrMember p
  | .arrived u => ArrMember m ≤ u
  | .waiting _ _ _ => True

def Arrivals (s : State uCount) : Prop :=
  forall m, ArriveInv s.uScheduleIndex m (s.phase m)

omit [NeZero uCount] in
theorem arriveInv_mono {ArrMember ArrMember' : Fin uCount -> UINT} {m : Fin uCount}
    {phase : Phase uCount} (hle : forall j, ArrMember j ≤ ArrMember' j)
    (hm : ArrMember' m = ArrMember m) (h : ArriveInv ArrMember m phase) :
    ArriveInv ArrMember' m phase := by
  cases phase with
  | going => trivial
  | arriving u i p =>
      intro hi
      rw [hm]
      exact UInt32.le_trans (h hi) (hle p)
  | arrived u =>
      simp only [ArriveInv] at h ⊢
      rw [hm]
      exact h
  | waiting u bTimeOut look => trivial

theorem next_raises {m : Fin uCount} {s : State uCount}
    (h : ArriveInv s.uScheduleIndex m (s.phase m)) (bLose : Bool)
    (dwTeamMemberCount : DWORD) :
    s.uScheduleIndex m ≤ (next m bLose dwTeamMemberCount s).uScheduleIndex m := by
  unfold next
  split
  · exact UInt32.le_refl _
  · split
    · exact UInt32.le_refl _
    · split <;> exact UInt32.le_refl _
  · rename_i u hphase
    rw [hphase] at h
    rw [State.setPhase_uScheduleIndex, State.setIndex_self]
    exact h
  · repeat' split
    all_goals exact UInt32.le_refl _
  · exact UInt32.le_refl _

theorem arriveInv_next {m : Fin uCount} {s : State uCount}
    (h : ArriveInv s.uScheduleIndex m (s.phase m)) (bLose : Bool)
    (dwTeamMemberCount : DWORD) :
    ArriveInv (next m bLose dwTeamMemberCount s).uScheduleIndex m
      ((next m bLose dwTeamMemberCount s).phase m) := by
  unfold next
  split
  · exact h
  · rename_i u i p hphase
    rw [hphase] at h
    split
    · rename_i hi
      simp only [State.setPhase_self, State.setPhase_uScheduleIndex]
      intro hm
      rcases Nat.lt_succ_iff_lt_or_eq.mp hm with hlt | heq
      · exact UInt32.le_trans (h hlt) (findTurn_right s.uScheduleIndex ⟨i, hi⟩ p)
      · have hmi : m = ⟨i, hi⟩ := Fin.ext heq
        rw [hmi]
        exact findTurn_left s.uScheduleIndex ⟨i, hi⟩ p
    · rename_i hi
      split
      · simp [ArriveInv]
      · rename_i hahead
        simp only [State.setPhase_self, State.setPhase_uScheduleIndex]
        have hseen : s.uScheduleIndex m ≤ s.uScheduleIndex p :=
          h (Nat.lt_of_lt_of_le m.isLt (Nat.le_of_not_lt hi))
        exact UInt32.le_trans hseen (UInt32.not_lt.mp hahead)
  · simp [ArriveInv]
  · repeat' split
    all_goals simp [ArriveInv]
  · simp [ArriveInv]

theorem apply_raises {m : Fin uCount} {a : Action} {s : State uCount}
    (ha : NoReset (m, a) s) (hs : Arrivals s) (j : Fin uCount) :
    s.uScheduleIndex j ≤ (apply m a s).uScheduleIndex j := by
  by_cases hj : j = m
  · rw [hj]
    cases a with
    | arrive u => exact UInt32.le_refl _
    | next bLose count => exact next_raises (hs m) bLose count
    | timeOut =>
        simp only [apply]
        split <;> exact UInt32.le_refl _
    | quit => exact UInt32.le_refl _
    | setSchedule u =>
        simp only [apply, State.setIndex_self]
        exact ha
    | zero i => exact ha.elim
  · rw [apply_index_of_ne ha hj]
    exact UInt32.le_refl _

theorem arriveInv_apply {m : Fin uCount} {a : Action} {s : State uCount}
    (henabled : enabled m a s) (ha : NoReset (m, a) s) (hs : Arrivals s) :
    ArriveInv (apply m a s).uScheduleIndex m ((apply m a s).phase m) := by
  cases a with
  | arrive u =>
      simp only [apply, State.setPhase_self, State.setPhase_uScheduleIndex]
      intro hlt
      have hzero : m = 0 := Fin.ext (by simpa using Nat.lt_one_iff.mp hlt)
      rw [hzero]
      exact UInt32.le_refl _
  | next bLose count => exact arriveInv_next (hs m) bLose count
  | timeOut =>
      rcases Phase.of_counting henabled with ⟨u, look, hphase⟩
      simp [apply, hphase, ArriveInv]
  | quit => simp [apply, ArriveInv]
  | setSchedule u =>
      have hgoing : s.phase m = .going := henabled
      simp [apply, hgoing, ArriveInv]
  | zero i => exact ha.elim

theorem arrivals_apply {m : Fin uCount} {a : Action} {s : State uCount}
    (henabled : enabled m a s) (ha : NoReset (m, a) s) (hs : Arrivals s) :
    Arrivals (apply m a s) := by
  intro x
  by_cases hx : x = m
  · rw [hx]
    exact arriveInv_apply henabled ha hs
  · rw [apply_phase_of_ne a s hx]
    exact arriveInv_mono (apply_raises ha hs) (apply_index_of_ne ha hx) (hs x)

/-!
## Nobody leaves before the others
-/

/-- What a look has found about the members before its place. -/
def LookInv (ArrMember : Fin uCount -> UINT) (m : Fin uCount) (u : UINT) :
    Look uCount -> Prop
  | .asleep => True
  | .finding i p => m < i -> u ≤ ArrMember p
  | .checking i p lost =>
      u ≤ ArrMember p ∧ forall j : Fin uCount, j < i -> j ∉ lost -> u ≤ ArrMember j
  | .done bSame lost => bSame = true -> forall j, j ∉ lost -> u ≤ ArrMember j

def WaitInv (s : State uCount) (m : Fin uCount) : Prop :=
  forall u bTimeOut look, s.phase m = .waiting u bTimeOut look ->
    s.uScheduleIndex m = u ∧ LookInv s.uScheduleIndex m u look

omit [NeZero uCount] in
theorem lookInv_mono {ArrMember ArrMember' : Fin uCount -> UINT} {m : Fin uCount}
    {u : UINT} {look : Look uCount} (hle : forall j, ArrMember j ≤ ArrMember' j)
    (h : LookInv ArrMember m u look) : LookInv ArrMember' m u look := by
  cases look with
  | asleep => trivial
  | finding i p => exact fun hi => UInt32.le_trans (h hi) (hle p)
  | checking i p lost =>
      rcases h with ⟨hp, hlooked⟩
      constructor
      · exact UInt32.le_trans hp (hle p)
      · intro j hj hlost
        exact UInt32.le_trans (hlooked j hj hlost) (hle j)
  | done bSame lost =>
      intro hsame j hlost
      exact UInt32.le_trans (h hsame j hlost) (hle j)

theorem lookInv_lookNext {ArrMember : Fin uCount -> UINT} {m : Fin uCount} {u : UINT}
    (hu : ArrMember m = u) (bTimeOut bLose : Bool) {look : Look uCount}
    (h : LookInv ArrMember m u look) :
    LookInv ArrMember m u (lookNext ArrMember bTimeOut bLose look) := by
  cases look with
  | asleep =>
      cases bTimeOut with
      | true => trivial
      | false =>
          intro hm
          have hzero : m = 0 := Fin.ext (by simpa using Nat.lt_one_iff.mp hm)
          rw [← hu, hzero]
          exact UInt32.le_refl _
  | finding i p =>
      simp only [lookNext]
      split
      · rename_i hi
        intro hm
        rcases Nat.lt_succ_iff_lt_or_eq.mp hm with hlt | heq
        · exact UInt32.le_trans (h hlt) (findTurn_right ArrMember ⟨i, hi⟩ p)
        · have hmi : m = ⟨i, hi⟩ := Fin.ext heq
          rw [← hu, hmi]
          exact findTurn_left ArrMember ⟨i, hi⟩ p
      · rename_i hi
        constructor
        · exact h (Nat.lt_of_lt_of_le m.isLt (Nat.le_of_not_lt hi))
        · intro j hj
          exact absurd hj (Nat.not_lt_zero j)
  | checking i p lost =>
      rcases h with ⟨hp, hlooked⟩
      simp only [lookNext]
      split
      · rename_i hi
        split
        · refine ⟨hp, fun j hj hlost => ?_⟩
          rcases Nat.lt_succ_iff_lt_or_eq.mp hj with hlt | heq
          · exact hlooked j hlt fun hmem => hlost (List.mem_cons_of_mem _ hmem)
          · have hji : j = ⟨i, hi⟩ := Fin.ext heq
            exact absurd (hji ▸ List.mem_cons_self) hlost
        · split
          · simp [LookInv]
          · rename_i hahead
            refine ⟨hp, fun j hj hlost => ?_⟩
            rcases Nat.lt_succ_iff_lt_or_eq.mp hj with hlt | heq
            · exact hlooked j hlt hlost
            · have hji : j = ⟨i, hi⟩ := Fin.ext heq
              rw [hji]
              have hnot : ¬ ArrMember ⟨i, hi⟩ < ArrMember p := fun hlt =>
                hahead (Or.inr hlt)
              exact UInt32.le_trans hp (UInt32.not_lt.mp hnot)
      · rename_i hi
        intro _ j hlost
        exact hlooked j (Nat.lt_of_lt_of_le j.isLt (Nat.le_of_not_lt hi)) hlost
  | done bSame lost => exact h

theorem waitInv_next {m : Fin uCount} {s : State uCount} (h : WaitInv s m)
    (bLose : Bool) (dwTeamMemberCount : DWORD) :
    WaitInv (next m bLose dwTeamMemberCount s) m := by
  unfold next
  split
  · exact h
  · repeat' split
    all_goals
      intro u bTimeOut look hphase
      simp at hphase
  · intro u bTimeOut look hphase
    simp only [State.setPhase_self, Phase.waiting.injEq] at hphase
    rcases hphase with ⟨hu, _, hlook⟩
    rw [← hlook]
    exact ⟨by simpa using hu, trivial⟩
  · rename_i u bTimeOut bSame lost hbefore
    split
    · intro u bTimeOut look hphase
      simp at hphase
    · split
      · intro u bTimeOut look hphase
        simp at hphase
      · intro u bTimeOut look hphase
        simp only [State.setPhase_self, Phase.waiting.injEq] at hphase
        rcases hphase with ⟨hu, _, hlook⟩
        rw [← hlook, ← hu]
        exact ⟨(h _ _ _ hbefore).left, trivial⟩
  · rename_i u bTimeOut look _ hbefore
    have hlookBefore := h _ _ _ hbefore
    intro u bTimeOut look hphase
    simp only [State.setPhase_self, Phase.waiting.injEq] at hphase
    rcases hphase with ⟨hu, _, hlook⟩
    rw [← hlook, ← hu]
    exact ⟨hlookBefore.left,
      lookInv_lookNext hlookBefore.left _ bLose hlookBefore.right⟩

theorem waitInv_apply {m : Fin uCount} {a : Action} {s : State uCount}
    (henabled : enabled m a s) (ha : NoReset (m, a) s) (hs : Arrivals s)
    (x : Fin uCount) (h : WaitInv s x) : WaitInv (apply m a s) x := by
  by_cases hx : x = m
  · rw [hx] at h ⊢
    cases a with
    | next bLose count => exact waitInv_next h bLose count
    | timeOut =>
        rcases Phase.of_counting henabled with ⟨u, look, hbefore⟩
        intro u bTimeOut look hphase
        simp only [apply, hbefore, State.setPhase_self, Phase.waiting.injEq] at hphase
        rcases hphase with ⟨hu, _, hlook⟩
        rw [← hlook, ← hu]
        simpa [apply, hbefore] using h _ _ _ hbefore
    | setSchedule u =>
        intro u bTimeOut look hphase
        have hgoing : s.phase m = .going := henabled
        simp [apply, hgoing] at hphase
    | zero i => exact ha.elim
    | arrive u =>
        intro u bTimeOut look hphase
        simp [apply] at hphase
    | quit =>
        intro u bTimeOut look hphase
        simp [apply] at hphase
  · intro u bTimeOut look hphase
    rw [apply_phase_of_ne a s hx] at hphase
    rcases h u bTimeOut look hphase with ⟨hu, hlook⟩
    exact ⟨(apply_index_of_ne ha hx).trans hu, lookInv_mono (apply_raises ha hs) hlook⟩

def Inv (s : State uCount) : Prop :=
  Arrivals s ∧ forall m, WaitInv s m

theorem run_inv {s t : State uCount} (hrun : (machine uCount).Run NoReset s t)
    (hs : Inv s) : Inv t :=
  hrun.invariant Inv (fun _ _ henabled ha hinv =>
    ⟨arrivals_apply henabled ha hinv.left,
      fun m => waitInv_apply henabled ha hinv.left m (hinv.right m)⟩) hs

omit [NeZero uCount] in
theorem inv_going {s : State uCount} (hs : forall m, s.phase m = .going) : Inv s := by
  constructor
  · intro m
    rw [hs m]
    trivial
  · intro m u bTimeOut look hphase
    rw [hs m] at hphase
    cases hphase

/-- A member that leaves its point because all are there has met, at this point or
further on, every member that it did not take for disconnected. -/
theorem nobody_left_behind {s t : State uCount} (hs : forall m, s.phase m = .going)
    (hrun : (machine uCount).Run NoReset s t) {m : Fin uCount} {u : UINT}
    {bTimeOut : Bool} {lost : List (Fin uCount)}
    (hleaves : t.phase m = .waiting u bTimeOut (.done true lost)) {j : Fin uCount}
    (hj : j ∉ lost) : u ≤ t.uScheduleIndex j :=
  ((run_inv hrun (inv_going hs)).right m u bTimeOut _ hleaves).right rfl j hj

def comes (uCount : Nat) (m : Fin uCount) (u : UINT) : List (Fin uCount × Action) :=
  (m, .arrive u) :: List.replicate (uCount + 1) (m, .next false 6)

def looks (uCount : Nat) (m : Fin uCount) : List (Fin uCount × Action) :=
  List.replicate (2 * uCount + 2) (m, .next false 6)

def bothCome : List (Fin 2 × Action) :=
  comes 2 0 5 ++ comes 2 1 5 ++ looks 2 0

theorem bothCome_nobody_left_behind :
    (State.initial : State 2).uScheduleIndex 1 = 0 ∧
      5 ≤ ((machine 2).play bothCome State.initial).uScheduleIndex 1 := by
  have hrun : (machine 2).Run NoReset State.initial
      ((machine 2).play bothCome State.initial) :=
    Machine.Admits.run (by decide) (by decide)
  have hleaves : ((machine 2).play bothCome State.initial).phase 0 =
      .waiting 5 false (.done true []) := by
    decide
  exact ⟨rfl, nobody_left_behind (fun _ => rfl) hrun hleaves List.not_mem_nil⟩

/-!
## A member that is behind

A member that leaves a point may write its next index before the others have
looked again.
-/

/-- The member's index is erased, or the member `ahead` is further on. -/
def Behind (ArrMember : Fin uCount -> UINT) (m ahead : Fin uCount) : Prop :=
  ArrMember m = 0 ∨ ArrMember m < ArrMember ahead

/-- The look has not passed the member that is behind, and will see it. -/
def LookBlocked (ArrMember : Fin uCount -> UINT) (m ahead : Fin uCount) :
    Look uCount -> Prop
  | .asleep => True
  | .finding i p => ahead < i -> Behind ArrMember m p
  | .checking i p _ => i ≤ m ∧ Behind ArrMember m p
  | .done bSame _ => bSame = false

/-- The member waits at its point, and no look will end with everybody there. -/
def Blocked (m ahead : Fin uCount) (u : UINT) (s : State uCount) : Prop :=
  (exists bTimeOut look, s.phase m = .waiting u bTimeOut look) ∧
    Behind s.uScheduleIndex m ahead ∧
    forall x v bTimeOut look, s.phase x = .waiting v bTimeOut look ->
      LookBlocked s.uScheduleIndex m ahead look

/-- The member stays in the team: it is not taken for disconnected, does not leave
the game and finds five others. -/
def Stays (m : Fin uCount) (l : Fin uCount × Action) (s : State uCount) : Prop :=
  NoReset l s ∧ l ≠ (m, .quit) ∧
    forall bLose dwTeamMemberCount, l.2 = .next bLose dwTeamMemberCount ->
      (forall u bTimeOut p lost,
        s.phase l.1 = .waiting u bTimeOut (.checking m p lost) -> bLose = false) ∧
      (forall u bTimeOut bSame lost,
        s.phase l.1 = .waiting u bTimeOut (.done bSame lost) -> l.1 = m ->
          6 ≤ dwTeamMemberCount - UInt32.ofNat lost.length)

omit [NeZero uCount] in
theorem behind_mono {ArrMember ArrMember' : Fin uCount -> UINT} {m p : Fin uCount}
    (hle : ArrMember p ≤ ArrMember' p) (hm : ArrMember' m = ArrMember m)
    (h : Behind ArrMember m p) : Behind ArrMember' m p := by
  rcases h with hzero | hlt
  · exact Or.inl (hm.trans hzero)
  · right
    rw [hm]
    exact UInt32.lt_of_lt_of_le hlt hle

omit [NeZero uCount] in
theorem lookBlocked_mono {ArrMember ArrMember' : Fin uCount -> UINT}
    {m ahead : Fin uCount} {look : Look uCount}
    (hle : forall j, ArrMember j ≤ ArrMember' j) (hm : ArrMember' m = ArrMember m)
    (h : LookBlocked ArrMember m ahead look) : LookBlocked ArrMember' m ahead look := by
  cases look with
  | asleep => trivial
  | finding i p => exact fun hi => behind_mono (hle p) hm (h hi)
  | checking i p lost => exact ⟨h.left, behind_mono (hle p) hm h.right⟩
  | done bSame lost => exact h

omit [NeZero uCount] in
theorem behind_findTurn {ArrMember : Fin uCount -> UINT} {m i p : Fin uCount}
    (h : Behind ArrMember m p) : Behind ArrMember m (findTurn ArrMember i p) := by
  rcases h with hzero | hlt
  · exact Or.inl hzero
  · exact Or.inr (UInt32.lt_of_lt_of_le hlt (findTurn_right ArrMember i p))

theorem lookBlocked_lookNext {ArrMember : Fin uCount -> UINT} {m ahead : Fin uCount}
    (hbehind : Behind ArrMember m ahead) (bTimeOut bLose : Bool) {look : Look uCount}
    (hlose : forall p lost, look = .checking m p lost -> bLose = false)
    (h : LookBlocked ArrMember m ahead look) :
    LookBlocked ArrMember m ahead (lookNext ArrMember bTimeOut bLose look) := by
  cases look with
  | asleep =>
      cases bTimeOut with
      | true => trivial
      | false =>
          intro hlt
          have hzero : ahead = 0 := Fin.ext (by simpa using Nat.lt_one_iff.mp hlt)
          rw [← hzero]
          exact hbehind
  | finding i p =>
      simp only [lookNext]
      split
      · rename_i hi
        intro hlt
        rcases Nat.lt_succ_iff_lt_or_eq.mp hlt with hseen | heq
        · exact behind_findTurn (h hseen)
        · have hai : ahead = ⟨i, hi⟩ := Fin.ext heq
          rcases hbehind with hzero | hahead
          · exact Or.inl hzero
          · rw [hai] at hahead
            exact Or.inr (UInt32.lt_of_lt_of_le hahead
              (findTurn_left ArrMember ⟨i, hi⟩ p))
      · rename_i hi
        exact ⟨Nat.zero_le _, h (Nat.lt_of_lt_of_le ahead.isLt (Nat.le_of_not_lt hi))⟩
  | checking i p lost =>
      rcases h with ⟨him, hp⟩
      simp only [lookNext]
      split
      · rename_i hi
        -- the turn for the member itself cannot go on
        rcases Nat.eq_or_lt_of_le him with heq | hlt
        · have hmi : (⟨i, hi⟩ : Fin uCount) = m := Fin.ext heq
          have hconnected : bLose = false := hlose p lost (by rw [heq])
          have hends : ArrMember m = 0 ∨ ArrMember m < ArrMember p := hp
          simp [hconnected, hmi, hends, LookBlocked]
        · repeat' split
          · exact ⟨hlt, hp⟩
          · rfl
          · exact ⟨hlt, hp⟩
      · rename_i hi
        exact absurd (Nat.lt_of_le_of_lt him m.isLt) hi
  | done bSame lost => exact h

theorem lookBlocked_next {m ahead x : Fin uCount} {u : UINT} {s : State uCount}
    (h : Blocked m ahead u s) {bLose : Bool} (dwTeamMemberCount : DWORD)
    (hlose : forall v bTimeOut p lost,
      s.phase x = .waiting v bTimeOut (.checking m p lost) -> bLose = false)
    {v : UINT} {bTimeOut : Bool} {look : Look uCount}
    (hphase : (next x bLose dwTeamMemberCount s).phase x = .waiting v bTimeOut look) :
    LookBlocked s.uScheduleIndex m ahead look := by
  unfold next at hphase
  split at hphase
  · exact h.right.right x v bTimeOut look hphase
  · repeat' split at hphase
    all_goals simp at hphase
  · simp only [State.setPhase_self, Phase.waiting.injEq] at hphase
    rw [← hphase.right.right]
    trivial
  · repeat' split at hphase
    · simp at hphase
    · simp at hphase
    · simp only [State.setPhase_self, Phase.waiting.injEq] at hphase
      rw [← hphase.right.right]
      trivial
  · rename_i w bSpent look' _ hbefore
    simp only [State.setPhase_self, Phase.waiting.injEq] at hphase
    rw [← hphase.right.right]
    refine lookBlocked_lookNext h.right.left bSpent bLose ?_
      (h.right.right x w bSpent look' hbefore)
    intro p lost hlook
    rw [hlook] at hbefore
    exact hlose w bSpent p lost hbefore

theorem waits_next {m ahead : Fin uCount} {u : UINT} {s : State uCount}
    (h : Blocked m ahead u s) (bLose : Bool) {dwTeamMemberCount : DWORD}
    (hcount : forall v bTimeOut bSame lost,
      s.phase m = .waiting v bTimeOut (.done bSame lost) ->
        6 ≤ dwTeamMemberCount - UInt32.ofNat lost.length) :
    (exists bTimeOut look,
        (next m bLose dwTeamMemberCount s).phase m = .waiting u bTimeOut look) ∧
      (next m bLose dwTeamMemberCount s).uScheduleIndex m = s.uScheduleIndex m := by
  rcases h with ⟨⟨bTimeOut, look, hphase⟩, _, hlooks⟩
  have hlook := hlooks m u bTimeOut look hphase
  cases look with
  | done bSame lost =>
      have hsame : bSame = false := hlook
      have henough := UInt32.not_lt.mpr (hcount u bTimeOut bSame lost hphase)
      simp [next, hphase, hsame, henough]
  | asleep => simp [next, hphase]
  | finding i p => simp [next, hphase]
  | checking i p lost => simp [next, hphase]

theorem waits_apply {m ahead : Fin uCount} {u : UINT} {x : Fin uCount} {a : Action}
    {s : State uCount} (henabled : enabled x a s) (ha : Stays m (x, a) s)
    (h : Blocked m ahead u s) :
    (exists bTimeOut look, (apply x a s).phase m = .waiting u bTimeOut look) ∧
      (apply x a s).uScheduleIndex m = s.uScheduleIndex m := by
  rcases ha with ⟨hreset, hquit, hstays⟩
  rcases h.left with ⟨bTimeOut, look, hphase⟩
  by_cases hx : m = x
  · rw [← hx] at henabled hreset hquit hstays ⊢
    cases a with
    | arrive v =>
        have hgoing : s.phase m = .going := henabled
        simp [hphase] at hgoing
    | next bLose count =>
        exact waits_next h bLose fun v bSpent bSame lost hdone =>
          (hstays bLose count rfl).right v bSpent bSame lost hdone rfl
    | timeOut => simp [apply, hphase]
    | quit => exact absurd rfl hquit
    | setSchedule v =>
        have hgoing : s.phase m = .going := henabled
        simp [hphase] at hgoing
    | zero i => exact hreset.elim
  · rw [apply_phase_of_ne a s hx, apply_index_of_ne hreset hx]
    exact ⟨⟨bTimeOut, look, hphase⟩, rfl⟩

theorem lookBlocked_apply {m ahead : Fin uCount} {u : UINT} {x : Fin uCount}
    {a : Action} {s : State uCount} (henabled : enabled x a s) (ha : Stays m (x, a) s)
    (h : Blocked m ahead u s) {y : Fin uCount} {v : UINT} {bTimeOut : Bool}
    {look : Look uCount} (hphase : (apply x a s).phase y = .waiting v bTimeOut look) :
    LookBlocked s.uScheduleIndex m ahead look := by
  by_cases hy : y = x
  · rw [hy] at hphase
    cases a with
    | arrive w => simp [apply] at hphase
    | next bLose count =>
        exact lookBlocked_next h count (fun w bSpent p lost hlook =>
          (ha.right.right bLose count rfl).left w bSpent p lost hlook) hphase
    | timeOut =>
        rcases Phase.of_counting henabled with ⟨w, look', hbefore⟩
        simp only [apply, hbefore, State.setPhase_self, Phase.waiting.injEq] at hphase
        rw [← hphase.right.right]
        exact h.right.right x w false look' hbefore
    | quit => simp [apply] at hphase
    | setSchedule w => exact h.right.right x v bTimeOut look hphase
    | zero i => exact ha.left.elim
  · rw [apply_phase_of_ne a s hy] at hphase
    exact h.right.right y v bTimeOut look hphase

theorem blocked_apply {m ahead : Fin uCount} {u : UINT} {x : Fin uCount} {a : Action}
    {s : State uCount} (henabled : enabled x a s) (ha : Stays m (x, a) s)
    (hs : Arrivals s) (h : Blocked m ahead u s) : Blocked m ahead u (apply x a s) := by
  rcases waits_apply henabled ha h with ⟨hwaits, hm⟩
  have hle := apply_raises ha.left hs
  refine ⟨hwaits, behind_mono (hle ahead) hm h.right.left, ?_⟩
  intro y v bTimeOut look hphase
  exact lookBlocked_mono hle hm (lookBlocked_apply henabled ha h hphase)

/-- Nobody is inside of one of the loops. -/
def Quiet (s : State uCount) : Prop :=
  forall x, s.phase x = .going ∨
    exists u bTimeOut, s.phase x = .waiting u bTimeOut .asleep

omit [NeZero uCount] in
theorem Quiet.arrivals {s : State uCount} (hs : Quiet s) : Arrivals s := by
  intro x
  rcases hs x with hgoing | ⟨u, bTimeOut, hwaits⟩
  · rw [hgoing]
    trivial
  · rw [hwaits]
    trivial

omit [NeZero uCount] in
theorem Quiet.blocked {s : State uCount} (hs : Quiet s) {m ahead : Fin uCount}
    {u : UINT} {bTimeOut : Bool} (hwaits : s.phase m = .waiting u bTimeOut .asleep)
    (hbehind : Behind s.uScheduleIndex m ahead) : Blocked m ahead u s := by
  refine ⟨⟨bTimeOut, .asleep, hwaits⟩, hbehind, ?_⟩
  intro x v bSpent look hphase
  rcases hs x with hgoing | ⟨w, bTimeOut', hasleep⟩
  · rw [hgoing] at hphase
    cases hphase
  · rw [hasleep] at hphase
    cases hphase
    trivial

def leavesEarly : List (Fin 2 × Action) :=
  comes 2 0 1 ++ comes 2 1 1 ++ looks 2 1 ++ [(1, .next false 6)] ++ comes 2 1 2

end

end DailyTask_Team

end Game
end BnsKorea
