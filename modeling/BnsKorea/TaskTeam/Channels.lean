import BnsKorea.Library.OrderedMaps
import BnsKorea.Library.Sorting
import BnsKorea.TaskTeam.Queries

/-!
# The channel with the fewest teams

A channel without a team is found and returned.  If every channel has one, the
answer is a number of teams instead of a channel, and right where the channel
of that number happens to be among those with the fewest teams.
-/

namespace BnsKorea

open Library

namespace CBnsTaskTeam

variable {TeamChannelMsg_ : TeamChannelMsg} {s : CBnsTaskTeam}

def channelsOf (TeamChannelMsg_ : TeamChannelMsg) (s : CBnsTaskTeam) :
    List DWORD :=
  ((s.taskTeamMap.toList.flatMap Prod.snd).filter
    (sameTask TeamChannelMsg_)).map TeamMemberGroup.dwChannelId

def teamCount (TeamChannelMsg_ : TeamChannelMsg) (s : CBnsTaskTeam)
    (dwChannel : DWORD) : Nat :=
  (channelsOf TeamChannelMsg_ s).count dwChannel

def InRange (TeamChannelMsg_ : TeamChannelMsg) (dwChannel : DWORD) : Prop :=
  1 ≤ dwChannel.toNat ∧ dwChannel.toNat ≤ TeamChannelMsg_.dwMaxChannel.toNat

/-- A channel of the range that has as few teams as any. -/
structure LeastLoaded (TeamChannelMsg_ : TeamChannelMsg) (s : CBnsTaskTeam)
    (dwChannel : DWORD) : Prop where
  inRange : InRange TeamChannelMsg_ dwChannel
  least : forall other, InRange TeamChannelMsg_ other ->
    teamCount TeamChannelMsg_ s dwChannel ≤ teamCount TeamChannelMsg_ s other

/-- A least-loaded channel has the least number of teams for its own number. -/
def CountNamesChannel (TeamChannelMsg_ : TeamChannelMsg) (s : CBnsTaskTeam) :
    Prop :=
  exists dwChannel, LeastLoaded TeamChannelMsg_ s dwChannel ∧
    (exists used, teamCount TeamChannelMsg_ s used = dwChannel.toNat) ∧
    forall used, 0 < teamCount TeamChannelMsg_ s used ->
      dwChannel.toNat ≤ teamCount TeamChannelMsg_ s used

/-!
## Counting
-/

def countOn : Option DWORD -> Option DWORD
  | none => some 1
  | some count => some (count + 1)

def countChannel (ChannelMap : Std.TreeMap DWORD DWORD) (dwChannelId : DWORD) :
    Std.TreeMap DWORD DWORD :=
  match ChannelMap[dwChannelId]? with
  | none => ChannelMap.insertIfNew dwChannelId 1
  | some count => ChannelMap.insert dwChannelId (count + 1)

theorem getSameChannelMap_eq :
    getSameChannelMap TeamChannelMsg_ s =
      (channelsOf TeamChannelMsg_ s).foldl countChannel ∅ := by
  rw [channelsOf, List.foldl_map, List.foldl_filter]
  rfl

theorem countChannel_own (ChannelMap : Std.TreeMap DWORD DWORD)
    (dwChannelId : DWORD) :
    (countChannel ChannelMap dwChannelId)[dwChannelId]? =
      countOn ChannelMap[dwChannelId]? := by
  unfold countChannel
  cases hcount : ChannelMap[dwChannelId]? with
  | none => exact OrderedMaps.getElem?_insertIfNew_of_none 1 hcount
  | some count => exact OrderedMaps.getElem?_insert_self _ _ _

theorem countChannel_others (ChannelMap : Std.TreeMap DWORD DWORD)
    (dwChannelId other : DWORD) (hne : dwChannelId ≠ other) :
    (countChannel ChannelMap dwChannelId)[other]? = ChannelMap[other]? := by
  unfold countChannel
  split
  · exact OrderedMaps.getElem?_insertIfNew_of_ne _ 1 hne
  · exact OrderedMaps.getElem?_insert_of_ne _ _ hne

theorem countOn_iterate (n : Nat) :
    countOn^[n + 1] none = some (UInt32.ofNat (n + 1)) := by
  induction n with
  | zero => rfl
  | succ n ih =>
      rw [Function.iterate_succ_apply', ih]
      show some (UInt32.ofNat (n + 1) + 1) = some (UInt32.ofNat (n + 1 + 1))
      rw [UInt32.ofNat_add (n + 1) 1]
      rfl

theorem getElem?_getSameChannelMap (dwChannel : DWORD) :
    (getSameChannelMap TeamChannelMsg_ s)[dwChannel]? =
      if teamCount TeamChannelMsg_ s dwChannel = 0 then none
      else some (UInt32.ofNat (teamCount TeamChannelMsg_ s dwChannel)) := by
  have hcount := OrderedMaps.getElem?_foldl_count countChannel countOn
    countChannel_own countChannel_others (channelsOf TeamChannelMsg_ s) ∅ dwChannel
  rw [getSameChannelMap_eq, hcount]
  show countOn^[teamCount TeamChannelMsg_ s dwChannel] _ = _
  cases teamCount TeamChannelMsg_ s dwChannel with
  | zero => simp
  | succ n =>
      rw [if_neg (Nat.succ_ne_zero n), ← countOn_iterate]
      simp

theorem getSameChannelMap_eq_none {dwChannel : DWORD} :
    (getSameChannelMap TeamChannelMsg_ s)[dwChannel]? = none ↔
      teamCount TeamChannelMsg_ s dwChannel = 0 := by
  rw [getElem?_getSameChannelMap]
  split
  · rename_i hzero
    exact iff_of_true rfl hzero
  · rename_i hne
    exact iff_of_false (fun h => by cases h) hne

theorem mem_getSameChannelMap {p : DWORD × DWORD} :
    p ∈ (getSameChannelMap TeamChannelMsg_ s).toList ↔
      0 < teamCount TeamChannelMsg_ s p.1 ∧
        p.2 = UInt32.ofNat (teamCount TeamChannelMsg_ s p.1) := by
  rcases p with ⟨dwChannel, count⟩
  rw [OrderedMaps.mem_toList_iff, getElem?_getSameChannelMap, Nat.pos_iff_ne_zero]
  split
  · rename_i hzero
    exact iff_of_false (fun h => by cases h) fun h => h.left hzero
  · rename_i hne
    rw [Option.some_inj, eq_comm]
    exact (and_iff_right hne).symm

/-!
## Looking for an empty channel
-/

theorem toNat_succ {i : DWORD} (h : i.toNat + 1 < 2 ^ 32) :
    (i + 1).toNat = i.toNat + 1 := by
  rw [UInt32.toNat_add]
  exact Nat.mod_eq_of_lt h

theorem findEmptyChannel_eq_some {ChannelMap : Std.TreeMap DWORD DWORD} {n : Nat}
    {i dwChannel : DWORD} (hbound : i.toNat + n ≤ 2 ^ 32)
    (h : findEmptyChannel ChannelMap n i = some dwChannel) :
    i.toNat ≤ dwChannel.toNat ∧ dwChannel.toNat < i.toNat + n ∧
      ChannelMap[dwChannel]? = none := by
  induction n generalizing i with
  | zero => cases h
  | succ n ih =>
      unfold findEmptyChannel at h
      split at h
      · rename_i hnone
        cases h
        exact ⟨Nat.le_refl _, Nat.lt_add_of_pos_right (Nat.succ_pos n), hnone⟩
      · cases n with
        | zero => cases h
        | succ n =>
            have hnext : (i + 1).toNat = i.toNat + 1 := toNat_succ (by omega)
            rcases ih (by omega) h with ⟨hlow, hhigh, hnone⟩
            exact ⟨by omega, by omega, hnone⟩

theorem findEmptyChannel_eq_none {ChannelMap : Std.TreeMap DWORD DWORD} {n : Nat}
    {i : DWORD} (hbound : i.toNat + n ≤ 2 ^ 32)
    (h : findEmptyChannel ChannelMap n i = none) {dwChannel : DWORD}
    (hlow : i.toNat ≤ dwChannel.toNat) (hhigh : dwChannel.toNat < i.toNat + n) :
    (ChannelMap[dwChannel]?).isSome := by
  induction n generalizing i with
  | zero => omega
  | succ n ih =>
      unfold findEmptyChannel at h
      split at h
      · cases h
      · rename_i count hcount
        cases decEq i dwChannel with
        | isTrue hsame =>
            rw [← hsame, hcount]
            rfl
        | isFalse hne =>
            have hlater : i.toNat < dwChannel.toNat :=
              Nat.lt_of_le_of_ne hlow fun heq => hne (UInt32.toNat_inj.mp heq)
            have hnext : (i + 1).toNat = i.toNat + 1 := by
              have hlt := dwChannel.toNat_lt
              exact toNat_succ (by omega)
            exact ih (by omega) h (by omega) (by omega)

/-!
## The answer
-/

theorem lessCount_trans (p1 p2 p3 : DWORD × DWORD) :
    decide (p1.2 ≤ p2.2) = true -> decide (p2.2 ≤ p3.2) = true ->
      decide (p1.2 ≤ p3.2) = true := by
  intro h12 h23
  exact decide_eq_true
    (UInt32.le_trans (of_decide_eq_true h12) (of_decide_eq_true h23))

theorem lessCount_total (p1 p2 : DWORD × DWORD) :
    (decide (p1.2 ≤ p2.2) || decide (p2.2 ≤ p1.2)) = true := by
  rw [Bool.or_eq_true, decide_eq_true_iff, decide_eq_true_iff]
  exact UInt32.le_total p1.2 p2.2

theorem getLessMemberChannel_cases (TeamChannelMsg_ : TeamChannelMsg)
    (s : CBnsTaskTeam) (hmax : 1 ≤ TeamChannelMsg_.dwMaxChannel.toNat) :
    (InRange TeamChannelMsg_ (getLessMemberChannel TeamChannelMsg_ s) ∧
        teamCount TeamChannelMsg_ s
          (getLessMemberChannel TeamChannelMsg_ s) = 0) ∨
      ((forall dwChannel, InRange TeamChannelMsg_ dwChannel ->
          0 < teamCount TeamChannelMsg_ s dwChannel) ∧
        exists used, 0 < teamCount TeamChannelMsg_ s used ∧
          getLessMemberChannel TeamChannelMsg_ s =
            UInt32.ofNat (teamCount TeamChannelMsg_ s used) ∧
          forall other, 0 < teamCount TeamChannelMsg_ s other ->
            UInt32.ofNat (teamCount TeamChannelMsg_ s used) ≤
              UInt32.ofNat (teamCount TeamChannelMsg_ s other)) := by
  have hone : (1 : DWORD).toNat = 1 := rfl
  have hbound : (1 : DWORD).toNat + TeamChannelMsg_.dwMaxChannel.toNat ≤ 2 ^ 32 := by
    have hlt := TeamChannelMsg_.dwMaxChannel.toNat_lt
    omega
  cases hfind : findEmptyChannel (getSameChannelMap TeamChannelMsg_ s)
      TeamChannelMsg_.dwMaxChannel.toNat 1 with
  | some i =>
      have hanswer : getLessMemberChannel TeamChannelMsg_ s = i := by
        simp only [getLessMemberChannel, hfind]
      rcases findEmptyChannel_eq_some hbound hfind with ⟨hlow, hhigh, hnone⟩
      rw [hanswer]
      exact Or.inl ⟨⟨hlow, by omega⟩, getSameChannelMap_eq_none.mp hnone⟩
  | none =>
      have hused : forall dwChannel, InRange TeamChannelMsg_ dwChannel ->
          0 < teamCount TeamChannelMsg_ s dwChannel := by
        intro dwChannel hrange
        have hsome := findEmptyChannel_eq_none hbound hfind hrange.left
          (by have := hrange.right; omega)
        apply Nat.pos_of_ne_zero
        intro hzero
        rw [getSameChannelMap_eq_none.mpr hzero] at hsome
        cases hsome
      refine Or.inr ⟨hused, ?_⟩
      cases hsort : (getSameChannelMap TeamChannelMsg_ s).toList.mergeSort
          fun p1 p2 => decide (p1.2 ≤ p2.2) with
      | nil =>
          have hfirst := hused 1 ⟨Nat.le_refl 1, hmax⟩
          have hin : (1, UInt32.ofNat (teamCount TeamChannelMsg_ s 1)) ∈
              (getSameChannelMap TeamChannelMsg_ s).toList :=
            mem_getSameChannelMap.mpr ⟨hfirst, rfl⟩
          rw [mergeSort_eq_nil.mp hsort] at hin
          cases hin
      | cons p rest =>
          have hanswer : getLessMemberChannel TeamChannelMsg_ s = p.2 := by
            simp only [getLessMemberChannel, hfind, hsort]
          rcases mergeSort_head lessCount_trans lessCount_total hsort with
            ⟨hp, hleast⟩
          rcases mem_getSameChannelMap.mp hp with ⟨hpos, hcount⟩
          refine ⟨p.1, hpos, hanswer.trans hcount, ?_⟩
          intro other hother
          have hin : (other, UInt32.ofNat (teamCount TeamChannelMsg_ s other)) ∈
              (getSameChannelMap TeamChannelMsg_ s).toList :=
            mem_getSameChannelMap.mpr ⟨hother, rfl⟩
          have hle := of_decide_eq_true (hleast _ hin)
          rwa [hcount] at hle

/--
The channel returned is in the range and least loaded exactly if a channel of
the range has no team, or the least number of teams that a channel has names
such a channel.  An address space of 32 bits does not hold more teams.
-/
theorem leastLoaded_iff (hmax : 1 ≤ TeamChannelMsg_.dwMaxChannel.toNat)
    (hmemory : (channelsOf TeamChannelMsg_ s).length < 2 ^ 32 - 1) :
    LeastLoaded TeamChannelMsg_ s (getLessMemberChannel TeamChannelMsg_ s) ↔
      (exists dwChannel, InRange TeamChannelMsg_ dwChannel ∧
        teamCount TeamChannelMsg_ s dwChannel = 0) ∨
      CountNamesChannel TeamChannelMsg_ s := by
  have hcount : forall dwChannel,
      (UInt32.ofNat (teamCount TeamChannelMsg_ s dwChannel)).toNat =
        teamCount TeamChannelMsg_ s dwChannel := by
    intro dwChannel
    have hle : teamCount TeamChannelMsg_ s dwChannel ≤
        (channelsOf TeamChannelMsg_ s).length := List.count_le_length
    have hlt : teamCount TeamChannelMsg_ s dwChannel < 2 ^ 32 := by omega
    exact UInt32.toNat_ofNat_of_lt' hlt
  rcases getLessMemberChannel_cases TeamChannelMsg_ s hmax with
    ⟨hrange, hzero⟩ | ⟨hused, used, hpos, hanswer, hleast⟩
  · refine iff_of_true ⟨hrange, ?_⟩ (Or.inl ⟨_, hrange, hzero⟩)
    intro other _
    rw [hzero]
    exact Nat.zero_le _
  · have hleast' : forall other, 0 < teamCount TeamChannelMsg_ s other ->
        teamCount TeamChannelMsg_ s used ≤ teamCount TeamChannelMsg_ s other := by
      intro other hother
      have hle := UInt32.le_iff_toNat_le.mp (hleast other hother)
      rwa [hcount, hcount] at hle
    rw [hanswer]
    constructor
    · intro h
      refine Or.inr ⟨_, h, ⟨used, (hcount used).symm⟩, ?_⟩
      intro other hother
      rw [hcount]
      exact hleast' other hother
    · intro h
      rcases h with ⟨dwChannel, hrange, hzero⟩ |
        ⟨dwChannel, hload, ⟨used', hnamed⟩, hmin⟩
      · exact absurd hzero (Nat.pos_iff_ne_zero.mp (hused dwChannel hrange))
      · have hpos' : 0 < teamCount TeamChannelMsg_ s used' := by
          rw [hnamed]
          exact hload.inRange.left
        have hsame : teamCount TeamChannelMsg_ s used = dwChannel.toNat := by
          apply Nat.le_antisymm
          · rw [← hnamed]
            exact hleast' used' hpos'
          · exact hmin used hpos
        rw [hsame, UInt32.ofNat_toNat]
        exact hload

def channelPlayer (wsAccountName : WString) (dwChannelId : DWORD) :
    ClientTeamInfo where
  selfCti :=
    { wsAccountName := wsAccountName
      wsPlayerName := wsAccountName
      dwPlayerId := 7 }
  dwTaskId := 0x1F
  dwServerId := 2
  dwMaxMember := 1
  dwChannelId := dwChannelId

def channelCalls : List Call :=
  [Call.joinTaskTeam (channelPlayer (L "boris") 1),
    Call.joinTaskTeam (channelPlayer (L "anna") 1),
    Call.joinTaskTeam (channelPlayer (L "cleo") 2)]

def channelState : CBnsTaskTeam :=
  (machine MyTools.standard).play channelCalls {}

def channelMsg (dwMaxChannel : DWORD) : TeamChannelMsg :=
  { dwServerId := 2, dwTaskId := 0x1F, dwMaxChannel := dwMaxChannel }

/-- With a third channel in the range, that one is returned. -/
theorem channelState_leastLoaded :
    LeastLoaded (channelMsg 3) channelState
      (getLessMemberChannel (channelMsg 3) channelState) :=
  (leastLoaded_iff (by decide) (by decide)).mpr
    (Or.inl ⟨3, ⟨by decide, by decide⟩, by decide⟩)

/-- With two channels, the first is returned, where there is a team more. -/
theorem channelState_not_leastLoaded :
    Reachable MyTools.standard channelState ∧
      ¬ LeastLoaded (channelMsg 2) channelState
        (getLessMemberChannel (channelMsg 2) channelState) := by
  refine ⟨Machine.Admits.reaches ⟨trivial, trivial, trivial, trivial⟩, ?_⟩
  intro h
  have hone : teamCount (channelMsg 2) channelState 1 = 2 := by decide
  have htwo : teamCount (channelMsg 2) channelState 2 = 1 := by decide
  have hle := h.least 2 ⟨by decide, by decide⟩
  rw [htwo] at hle
  rcases getLessMemberChannel_cases (channelMsg 2) channelState (by decide) with
    ⟨hrange, hzero⟩ | ⟨_, used, _, hanswer, hleast⟩
  · have hchannel : getLessMemberChannel (channelMsg 2) channelState = 1 ∨
        getLessMemberChannel (channelMsg 2) channelState = 2 := by
      rcases hrange with ⟨hlow, hhigh⟩
      have hmax : (channelMsg 2).dwMaxChannel.toNat = 2 := rfl
      rw [hmax] at hhigh
      rcases Nat.lt_or_eq_of_le hhigh with hlt | heq
      · have hfirst : (getLessMemberChannel (channelMsg 2) channelState).toNat = 1 :=
          Nat.le_antisymm (Nat.le_of_lt_succ hlt) hlow
        exact Or.inl (UInt32.toNat_inj.mp hfirst)
      · exact Or.inr (UInt32.toNat_inj.mp heq)
    rcases hchannel with hfirst | hsecond
    · rw [hfirst, hone] at hzero
      cases hzero
    · rw [hsecond, htwo] at hzero
      cases hzero
  · have hmin := hleast 2 (by rw [htwo]; exact Nat.one_pos)
    rw [htwo, ← hanswer] at hmin
    have hsame : getLessMemberChannel (channelMsg 2) channelState = 1 := by
      apply UInt32.toNat_inj.mp
      exact Nat.le_antisymm (UInt32.le_iff_toNat_le.mp hmin) h.inRange.left
    rw [hsame, hone] at hle
    exact absurd hle (by decide)

end CBnsTaskTeam
end BnsKorea
