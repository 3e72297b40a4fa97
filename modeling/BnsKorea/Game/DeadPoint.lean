import BnsKorea.Game.PathRuns

/-!
# Back to where one died

The object keeps the place it is to go to and the points of the way.  A call
looks for a way from where it is, and a search that succeeds puts its points
behind those the list has; the list is walked from its end.
-/

namespace BnsKorea
namespace Game
namespace CFindPathScript

open Library.EdgeWalks

variable {Point Dis : Type} {n m : Nat}

structure Script (Point : Type) where
  _TarPoint : Point
  bExistDeadPoint : Bool := false
  vPoint : List Point := []

def setDeadPoint (DeadPoint : Point) (o : Script Point) : Script Point :=
  { o with _TarPoint := DeadPoint, bExistDeadPoint := true }

/-- What a call returns, what `PrintLine` emits in it, what `fnMove` is called on. -/
structure Walked (Point : Type) where
  bRetCode : Bool
  emitted : List Point := []
  moves : List Point := []
  script : Script Point

section

variable [LinearOrder Dis] (G : Distances Point Dis) (S : StdSort Dis)
  (LineVec : Vector (Line Point) n)

/-- How many edges `VertexToEdge` makes. -/
def edgeCount : Nat :=
  (vertexToEdge (m := 0) G LineVec).length

theorem vertexToEdge_length :
    (vertexToEdge (m := m) G LineVec).length = edgeCount G LineVec := by
  unfold edgeCount vertexToEdge
  rw [List.length_flatMap, List.length_flatMap]
  congr 1
  refine List.map_congr_left ?_
  intro i _
  induction (List.finRange n).filter fun j => i < j with
  | nil => rfl
  | cons j js ih =>
      rw [List.filterMap_cons, List.filterMap_cons]
      cases coincide_In_Line G LineVec[i] LineVec[j] with
      | none => exact ih
      | some link => exact congrArg Nat.succ ih

def edgeVec : Vector (Edge Point Dis n (edgeCount G LineVec)) (edgeCount G LineVec) :=
  ⟨(vertexToEdge G LineVec).toArray, vertexToEdge_length G LineVec⟩

/-- The first of the points that are nearest, with its line; nearer than `fMinDis`. -/
def findVertex_By_Point (fMinDis : Dis) (CurPoint : Point) :
    Option (Fin n × Point) :=
  ((List.finRange n).foldl (fun r i =>
    LineVec[i].vList.foldl (fun r itm =>
      let fDis := G.get3DDis CurPoint itm
      if fDis < r.1 then (fDis, some (i, itm)) else r) r) (fMinDis, none)).2

variable (fMinDis : Dis)

def moveToDeadPoint (fuel : Nat) (CurPoint : Point) (o : Script Point) :
    Option (Walked Point) :=
  match findVertex_By_Point G LineVec fMinDis CurPoint with
  | none => some { bRetCode := false, script := o }
  | some NearStart =>
      match findVertex_By_Point G LineVec fMinDis o._TarPoint with
      | none => some { bRetCode := false, script := o }
      | some NearEnd => do
          let found <- findPath G S LineVec fuel (edgeVec G LineVec) NearStart.1
            NearEnd.1 NearStart.2 NearEnd.2
          let vPoint := o.vPoint ++ found.vPoint
          pure
            { bRetCode := found.bFind
              emitted := found.vPoint
              moves := if found.bFind then vPoint.reverse else []
              script := { o with vPoint := vPoint } }

/-!
## Histories
-/

inductive Call (Point : Type) where
  | setDeadPoint (DeadPoint : Point)
  | moveToDeadPoint (CurPoint : Point)

def Call.run (fuel : Nat) (o : Script Point) : Call Point -> Option (Script Point)
  | .setDeadPoint DeadPoint => some (CFindPathScript.setDeadPoint DeadPoint o)
  | .moveToDeadPoint CurPoint =>
      (CFindPathScript.moveToDeadPoint G S LineVec fMinDis fuel CurPoint o).map
        Walked.script

def history (fuel : Nat) (calls : List (Call Point)) (o : Script Point) :
    Option (Script Point) :=
  calls.foldlM (Call.run G S LineVec fMinDis fuel) o

/-- The call walks its own way, or stays and leaves the points as they are. -/
structure Walked.Replays (w : Walked Point) (o : Script Point) : Prop where
  found : w.bRetCode = true -> w.moves = w.emitted.reverse
  lost : w.bRetCode = false -> w.moves = [] ∧ w.script.vPoint = o.vPoint

/-- From a line with a point near the one place the edges lead to one like the other. -/
def Leads (CurPoint TarPoint : Point) : Prop :=
  exists NearStart NearEnd,
    findVertex_By_Point G LineVec fMinDis CurPoint = some NearStart ∧
    findVertex_By_Point G LineVec fMinDis TarPoint = some NearEnd ∧
    exists e, AtEnd LineVec NearEnd.1 (ends (edgeVec G LineVec)) e ∧
      exists p, Touches (ends (edgeVec G LineVec)) e p ∧
        Reach (ends (edgeVec G LineVec)) NearStart.1 p

/-!
## One call
-/

variable {G S LineVec fMinDis} {fuel : Nat} {CurPoint : Point} {o : Script Point}

theorem edgeVec_fresh (i : Fin (edgeCount G LineVec)) : (edgeVec G LineVec)[i].Fresh :=
  fresh_of_vertexToEdge (Vector.toList_mk.trans (List.toList_toArray)).symm i

theorem Ran.edge_iff {EndLine StartLine : Fin n} {EndPoint : Point}
    {lines : Fin m -> Fin n × Fin n} {r : Bool × Search Point Dis n m}
    (h : Ran G S LineVec EndLine EndPoint lines StartLine
      (Passed LineVec EndLine lines StartLine) r) :
    r.1 = true ↔ exists e, AtEnd LineVec EndLine lines e ∧
      exists p, Touches lines e p ∧ Reach lines StartLine p := by
  cases h with
  | nowhere hpassed hnone =>
      refine ⟨fun hfalse => absurd hfalse Bool.false_ne_true, ?_⟩
      intro hleads
      rcases hleads with ⟨e, hend, p, htouches, hreach⟩
      rename_i done
      have hnew : e ∉ done := fun he => hpassed.right e he hend
      rcases reach_of_exhausted hnone hreach with hstart | ⟨d, hd, hdp⟩
      · rw [hstart] at htouches
        exact absurd ⟨hnew, Or.inl htouches⟩ (hnone e)
      · exact absurd ⟨hnew, Or.inr ⟨d, hd, p, hdp, htouches⟩⟩ (hnone e)
  | there htaken hpassed hpick hend _ _ =>
      refine ⟨fun _ => ⟨_, hend, _, Or.inl rfl, ?_⟩, fun _ => rfl⟩
      exact (hpick.nearest htaken).listed.reach hpassed.left (Or.inl rfl)

theorem findPath_lost {vEdge : Vector (Edge Point Dis n m) m}
    {StartLine EndLine : Fin n} {StartPoint EndPoint : Point} {r : Found Point Dis n m}
    (h : findPath G S LineVec fuel vEdge StartLine EndLine StartPoint EndPoint = some r)
    (hlost : r.bFind = false) : r.vPoint = [] := by
  rcases Option.bind_eq_some_iff.mp h with ⟨searched, _, hrest⟩
  cases hfind : searched.1 with
  | false =>
      rw [hfind] at hrest
      rw [← Option.some.inj hrest]
  | true =>
      rw [hfind, if_pos rfl] at hrest
      rcases Option.bind_eq_some_iff.mp hrest with ⟨printed, _, hr⟩
      rw [← Option.some.inj hr] at hlost
      exact absurd hlost.symm Bool.false_ne_true

structure Walked.Of (w : Walked Point) (o : Script Point) (leads : Prop) : Prop where
  ret : w.bRetCode = true ↔ leads
  vPoint : w.script.vPoint = o.vPoint ++ w.emitted
  moves : w.moves = if w.bRetCode then (o.vPoint ++ w.emitted).reverse else []
  emitted : w.bRetCode = false -> w.emitted = []

theorem walked_nowhere {leads : Prop} (h : ¬ leads) :
    Walked.Of { bRetCode := false, script := o } o leads where
  ret := ⟨fun hfalse => absurd hfalse Bool.false_ne_true, fun hleads => absurd hleads h⟩
  vPoint := (List.append_nil o.vPoint).symm
  moves := rfl
  emitted _ := rfl

variable (CurPoint o) in
theorem moveToDeadPoint_walked (hfuel : edgeCount G LineVec < fuel) :
    exists w, moveToDeadPoint G S LineVec fMinDis fuel CurPoint o = some w ∧
      w.Of o (Leads G LineVec fMinDis CurPoint o._TarPoint) := by
  unfold moveToDeadPoint
  cases hstart : findVertex_By_Point G LineVec fMinDis CurPoint with
  | none =>
      refine ⟨_, rfl, walked_nowhere ?_⟩
      intro hleads
      rcases hleads with ⟨NearStart, _, hsome, _⟩
      rw [hstart] at hsome
      cases hsome
  | some NearStart =>
      cases hend : findVertex_By_Point G LineVec fMinDis o._TarPoint with
      | none =>
          refine ⟨_, rfl, walked_nowhere ?_⟩
          intro hleads
          rcases hleads with ⟨_, NearEnd, _, hsome, _⟩
          rw [hend] at hsome
          cases hsome
      | some NearEnd =>
          have hnil : Passed LineVec NearEnd.1 (ends (edgeVec G LineVec)) NearStart.1
              [] := ⟨fun _ hd => (nomatch hd), fun _ hd => (nomatch hd)⟩
          rcases findPath_ran G S NearStart.2 NearEnd.2 edgeVec_fresh
            (passed_kept (ends (edgeVec G LineVec))) hnil with ⟨r, hran, _, hresult⟩
          have hfound := hresult fuel hfuel
          show exists w, (findPath G S LineVec fuel (edgeVec G LineVec) NearStart.1
            NearEnd.1 NearStart.2 NearEnd.2).bind _ = some w ∧ _
          rw [hfound]
          refine ⟨_, rfl, ?_, rfl, rfl, findPath_lost hfound⟩
          refine hran.edge_iff.trans ⟨fun hedge => ⟨_, _, hstart, hend, hedge⟩, ?_⟩
          intro hleads
          rcases hleads with ⟨NearStart', NearEnd', hstart', hend', hedge⟩
          rw [hstart] at hstart'
          rw [hend] at hend'
          rwa [Option.some.inj hstart', Option.some.inj hend']

theorem Walked.Of.replays_iff {w : Walked Point} {leads : Prop} (h : w.Of o leads) :
    w.Replays o ↔ (leads -> o.vPoint = []) := by
  cases hret : w.bRetCode with
  | false =>
      have hnot : ¬ leads := by
        intro hleads
        rw [h.ret.mpr hleads] at hret
        cases hret
      refine ⟨fun _ hleads => absurd hleads hnot, fun _ => ⟨?_, fun _ => ⟨?_, ?_⟩⟩⟩
      · intro htrue
        exact absurd (h.ret.mp htrue) hnot
      · rw [h.moves, hret]
        rfl
      · rw [h.vPoint, h.emitted hret, List.append_nil]
  | true =>
      have hmoves : w.moves = (o.vPoint ++ w.emitted).reverse := by
        rw [h.moves, hret]
        rfl
      constructor
      · intro hreplays _
        have hsame := hreplays.found hret
        rw [hmoves] at hsame
        exact List.append_left_eq_self.mp (List.reverse_injective hsame)
      · intro hempty
        refine ⟨fun _ => ?_, fun hfalse => ?_⟩
        · rw [hmoves, hempty (h.ret.mp hret), List.nil_append]
        · rw [hret] at hfalse
          cases hfalse

theorem history_ends (hfuel : edgeCount G LineVec < fuel) (calls : List (Call Point))
    (o : Script Point) :
    exists o1, history G S LineVec fMinDis fuel calls o = some o1 := by
  induction calls generalizing o with
  | nil => exact ⟨o, rfl⟩
  | cons call calls ih =>
      cases call with
      | setDeadPoint DeadPoint => exact ih (setDeadPoint DeadPoint o)
      | moveToDeadPoint CurPoint =>
          rcases moveToDeadPoint_walked CurPoint o hfuel with ⟨w, hw, _⟩
          rcases ih w.script with ⟨o1, ho1⟩
          refine ⟨o1, ?_⟩
          rw [← ho1]
          show ((moveToDeadPoint G S LineVec fMinDis fuel CurPoint o).map
            Walked.script).bind _ = _
          rw [hw]
          rfl

theorem history_cons {call : Call Point} {calls : List (Call Point)} {o2 : Script Point}
    (h : history G S LineVec fMinDis fuel (call :: calls) o = some o2) :
    exists o1, call.run G S LineVec fMinDis fuel o = some o1 ∧
      history G S LineVec fMinDis fuel calls o1 = some o2 :=
  Option.bind_eq_some_iff.mp h

theorem history_prefix (hfuel : edgeCount G LineVec < fuel) {calls : List (Call Point)}
    {o1 : Script Point} (h : history G S LineVec fMinDis fuel calls o = some o1) :
    o.vPoint <+: o1.vPoint := by
  induction calls generalizing o with
  | nil =>
      rw [← Option.some.inj h]
  | cons call calls ih =>
      rcases history_cons h with ⟨o', hcall, hrest⟩
      refine List.IsPrefix.trans ?_ (ih hrest)
      cases call with
      | setDeadPoint DeadPoint =>
          rw [← Option.some.inj hcall]
          exact List.prefix_rfl
      | moveToDeadPoint CurPoint =>
          rcases moveToDeadPoint_walked CurPoint o hfuel with ⟨w, hw, hof⟩
          rcases Option.map_eq_some_iff.mp hcall with ⟨w', hw', ho'⟩
          rw [hw] at hw'
          rw [← ho', ← Option.some.inj hw', hof.vPoint]
          exact List.prefix_append o.vPoint w.emitted

theorem not_replays_after (hfuel : edgeCount G LineVec < fuel)
    {calls : List (Call Point)} {o1 : Script Point}
    (hne : o.vPoint ≠ []) (h : history G S LineVec fMinDis fuel calls o = some o1)
    (hleads : Leads G LineVec fMinDis CurPoint o1._TarPoint) {w : Walked Point}
    (hw : moveToDeadPoint G S LineVec fMinDis fuel CurPoint o1 = some w) :
    ¬ w.Replays o1 := by
  rcases moveToDeadPoint_walked CurPoint o1 hfuel with ⟨w', hw', hof⟩
  rw [hw'] at hw
  rw [← Option.some.inj hw, hof.replays_iff]
  intro hempty
  have hprefix := history_prefix hfuel h
  rw [hempty hleads] at hprefix
  exact hne (List.prefix_nil.mp hprefix)

variable (S fMinDis) in
/-- Every call ends, and walks what it emits if it finds no points of an earlier one. -/
theorem history_replays_iff (hfuel : edgeCount G LineVec < fuel)
    (calls : List (Call Point)) (o : Script Point) :
    (exists o1, history G S LineVec fMinDis fuel calls o = some o1) ∧
      ((forall before CurPoint after,
          calls = before ++ Call.moveToDeadPoint CurPoint :: after ->
          exists o1 w, history G S LineVec fMinDis fuel before o = some o1 ∧
            moveToDeadPoint G S LineVec fMinDis fuel CurPoint o1 = some w ∧
            w.Replays o1) ↔
        forall before CurPoint after,
          calls = before ++ Call.moveToDeadPoint CurPoint :: after ->
          forall o1, history G S LineVec fMinDis fuel before o = some o1 ->
            Leads G LineVec fMinDis CurPoint o1._TarPoint -> o1.vPoint = []) := by
  refine ⟨history_ends hfuel calls o, ?_, ?_⟩
  · intro hall before CurPoint after hcalls o1 ho1 hleads
    rcases hall before CurPoint after hcalls with ⟨o1', w, ho1', hw, hreplays⟩
    rw [ho1] at ho1'
    rw [← Option.some.inj ho1'] at hw hreplays
    rcases moveToDeadPoint_walked CurPoint o1 hfuel with ⟨w', hw', hof⟩
    rw [hw] at hw'
    rw [← Option.some.inj hw'] at hof
    exact hof.replays_iff.mp hreplays hleads
  · intro hall before CurPoint after hcalls
    rcases history_ends hfuel before o with ⟨o1, ho1⟩
    rcases moveToDeadPoint_walked CurPoint o1 hfuel with ⟨w, hw, hof⟩
    exact ⟨o1, w, ho1, hw,
      hof.replays_iff.mpr (hall before CurPoint after hcalls o1 ho1)⟩

end

/-!
## Dying twice
-/

def diedTwice : List (Call Int) :=
  [.setDeadPoint 20, .moveToDeadPoint 0, .moveToDeadPoint 0]

theorem edgeCount_twins : edgeCount straight twinLines = 1 := rfl

theorem diedTwice_walks :
    exists o1 w, history straight (StdSort.byOrder []) twinLines 9999999 2
        [.setDeadPoint 20, .moveToDeadPoint 0] { _TarPoint := 0 } = some o1 ∧
      moveToDeadPoint straight (StdSort.byOrder []) twinLines 9999999 2 0 o1 = some w ∧
      w.bRetCode = true ∧ w.emitted = [20, 10, 0] ∧
      w.moves = [0, 10, 20, 0, 10, 20] ∧ ¬ w.Replays o1 := by
  have hruns : ((history straight (StdSort.byOrder []) twinLines 9999999 2
      [.setDeadPoint 20, .moveToDeadPoint 0] { _TarPoint := 0 }).bind fun o1 =>
        (moveToDeadPoint straight (StdSort.byOrder []) twinLines 9999999 2 0 o1).map
          fun w => (w.bRetCode, w.emitted, w.moves)) =
      some (true, [20, 10, 0], [0, 10, 20, 0, 10, 20]) := by decide +kernel
  rcases Option.bind_eq_some_iff.mp hruns with ⟨o1, ho1, hwalk⟩
  rcases Option.map_eq_some_iff.mp hwalk with ⟨w, hw, hsame⟩
  rcases Prod.mk.inj hsame with ⟨hret, hpair⟩
  rcases Prod.mk.inj hpair with ⟨hemitted, hmoves⟩
  refine ⟨o1, w, ho1, hw, hret, hemitted, hmoves, ?_⟩
  intro hreplays
  have hown := hreplays.found hret
  rw [hemitted, hmoves] at hown
  exact absurd hown (by decide)

theorem history_replays_iff_twins :
    (exists o1, history straight (StdSort.byOrder []) twinLines 9999999 2 diedTwice
        { _TarPoint := 0 } = some o1) ∧
      ((forall before CurPoint after,
          diedTwice = before ++ Call.moveToDeadPoint CurPoint :: after ->
          exists o1 w, history straight (StdSort.byOrder []) twinLines 9999999 2 before
              { _TarPoint := 0 } = some o1 ∧
            moveToDeadPoint straight (StdSort.byOrder []) twinLines 9999999 2 CurPoint
              o1 = some w ∧ w.Replays o1) ↔
        forall before CurPoint after,
          diedTwice = before ++ Call.moveToDeadPoint CurPoint :: after ->
          forall o1, history straight (StdSort.byOrder []) twinLines 9999999 2 before
              { _TarPoint := 0 } = some o1 ->
            Leads straight twinLines 9999999 CurPoint o1._TarPoint -> o1.vPoint = []) :=
  history_replays_iff (StdSort.byOrder []) 9999999
    (Nat.lt_of_le_of_lt (Nat.le_of_eq edgeCount_twins) (Nat.lt_succ_self 1)) diedTwice
    { _TarPoint := 0 }

end CFindPathScript
end Game
end BnsKorea
