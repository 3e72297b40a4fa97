import BnsKorea.Game.PathSearch

/-!
# The runs of the search for a path

A turn takes an edge out of the list or ends the search.  Whatever each edge that
is taken preserves holds when the search ends, and so many turns as there are
edges, and one more, are enough.
-/

namespace BnsKorea
namespace Game
namespace CFindPathScript

open Library.EdgeWalks

variable {Point Dis : Type} {n m : Nat}

section

variable [LinearOrder Dis] (G : Distances Point Dis) (S : StdSort Dis)
  (LineVec : Vector (Line Point) n) (EndLine : Fin n) (EndPoint : Point)

/-!
## Turns
-/

/-- The edge that comes first when the list is sorted by the weights. -/
def Picks (w : Fin m -> Dis) (l : List (Fin m)) (i : Fin m) : Prop :=
  exists key : Fin m -> Dis, (forall j, j ∈ l -> key j = w j) ∧
    (S.sort key l).head? = some i

variable {G S LineVec EndLine EndPoint}
variable {s : Search Point Dis n m} {lines : Fin m -> Fin n × Fin n}
  {StartLine : Fin n} {done : List (Fin m)} {i : Fin m}

theorem heuristic_keeps {α : Type} (f : Edge Point Dis n m -> α)
    (hf : forall e, f (e.setWeight G LineVec EndPoint) = f e)
    (s : Search Point Dis n m) (j : Fin m) :
    f (getIndex_By_Heuristic_In_SearchList G S LineVec EndPoint s).vEdge[j] =
      f s.vEdge[j] := by
  have hedge := heuristic_edge G LineVec EndPoint s.SearchList s.vEdge j
  show f (s.SearchList.foldl _ s.vEdge)[j] = _
  rw [hedge]
  split
  · exact hf _
  · rfl

theorem Taken.heuristic (h : Taken lines StartLine s done) :
    Taken lines StartLine
      (getIndex_By_Heuristic_In_SearchList G S LineVec EndPoint s) done := by
  let sorted := getIndex_By_Heuristic_In_SearchList G S LineVec EndPoint s
  have hperm : sorted.SearchList.Perm s.SearchList := S.perm _ s.SearchList
  refine ⟨?_, ?_, ?_, hperm.nodup_iff.mpr h.nodupList, h.nodupDone, ?_⟩
  · rw [← h.ends_eq]
    funext j
    exact heuristic_keeps (fun e => (e.pLine1, e.pLine2)) (fun _ => rfl) s j
  · intro j
    rw [← h.listed]
    exact hperm.mem_iff
  · intro j
    show sorted.vEdge[j].bVisited = true ↔ j ∈ sorted.SearchList ∨ j ∈ done
    rw [heuristic_keeps Edge.bVisited (fun _ => rfl), hperm.mem_iff, h.visited]
  · apply h.linked.congr
    intro e _
    exact heuristic_keeps Edge.Root (fun _ => rfl) s e

theorem Picks.nearest (h : Taken lines StartLine s done)
    (hpick : Picks S (weight G LineVec EndPoint lines) s.SearchList i) :
    Nearest lines (weight G LineVec EndPoint lines) StartLine done i := by
  rcases hpick with ⟨key, hkey, hhead⟩
  have hperm := S.perm key s.SearchList
  have hsorted := S.sorted key s.SearchList
  rcases List.head?_eq_some_iff.mp hhead with ⟨rest, hlist⟩
  rw [hlist] at hperm hsorted
  have hin : i ∈ s.SearchList := hperm.mem_iff.mp List.mem_cons_self
  refine ⟨(h.listed i).mp hin, ?_⟩
  intro j hj
  have hjin := (h.listed j).mpr hj
  rw [← hkey i hin, ← hkey j hjin]
  rcases List.mem_cons.mp (hperm.mem_iff.mpr hjin) with heq | hrest
  · rw [heq]
  · exact (List.pairwise_cons.mp hsorted).left j hrest

theorem turn_nil (hlist : s.SearchList = []) :
    turn G S LineVec EndLine EndPoint s = .stopped false s := by
  have hlen : ¬ s.SearchList.length > 0 := by
    rw [hlist]
    exact Nat.lt_irrefl 0
  exact if_neg hlen

variable (EndLine) in
theorem turn_cons {rest : List (Fin m)} (hne : s.SearchList ≠ [])
    (hlist : (getIndex_By_Heuristic_In_SearchList G S LineVec EndPoint s).SearchList =
      i :: rest) :
    let sorted := getIndex_By_Heuristic_In_SearchList G S LineVec EndPoint s
    turn G S LineVec EndLine EndPoint s =
      if atLine LineVec EndLine sorted.vEdge[i] then
        .stopped true (linkRoot i sorted)
      else
        .goesOn (takeEdge i rest sorted) := by
  intro sorted
  have hlen : s.SearchList.length > 0 := List.length_pos_iff.mpr hne
  unfold turn
  rw [if_pos hlen]
  dsimp only
  rw [hlist]
  rfl

theorem Taken.picks (h : Taken lines StartLine s done) {rest : List (Fin m)}
    (hlist : (getIndex_By_Heuristic_In_SearchList G S LineVec EndPoint s).SearchList =
      i :: rest) :
    Picks S (weight G LineVec EndPoint lines) s.SearchList i := by
  refine ⟨_, ?_, congrArg List.head? hlist⟩
  intro j hj
  show (s.SearchList.foldl _ s.vEdge)[j].nWeight = _
  rw [heuristic_edge G LineVec EndPoint s.SearchList s.vEdge j, if_pos hj,
    ← h.ends_eq]
  rfl

variable (G S LineVec EndLine EndPoint) in
theorem Taken.turn_cases (h : Taken lines StartLine s done) :
    (turn G S LineVec EndLine EndPoint s = .stopped false s ∧
        forall i, ¬ Listed lines StartLine done i) ∨
      exists i, Picks S (weight G LineVec EndPoint lines) s.SearchList i ∧
        (AtEnd LineVec EndLine lines i ∧
            (exists s', turn G S LineVec EndLine EndPoint s = .stopped true s' ∧
              Linked s'.vEdge s'.pEdgeRoot (i :: done) ∧
              ends s'.vEdge = lines) ∨
          ¬ AtEnd LineVec EndLine lines i ∧
            (exists s', turn G S LineVec EndLine EndPoint s = .goesOn s' ∧
              Taken lines StartLine s' (i :: done))) := by
  by_cases hnil : s.SearchList = []
  · refine Or.inl ⟨turn_nil hnil, ?_⟩
    intro i hi
    have hin := (h.listed i).mpr hi
    rw [hnil] at hin
    cases hin
  · let sorted := getIndex_By_Heuristic_In_SearchList G S LineVec EndPoint s
    have hsorted : Taken lines StartLine sorted done := h.heuristic
    have hperm : sorted.SearchList.Perm s.SearchList := S.perm _ s.SearchList
    cases hlist : sorted.SearchList with
    | nil =>
        rw [hlist] at hperm
        exact absurd hperm.symm.eq_nil hnil
    | cons i rest =>
        have hin : i ∈ sorted.SearchList := by
          rw [hlist]
          exact List.mem_cons_self
        have hturn := turn_cons EndLine hnil hlist
        have hat : atLine LineVec EndLine sorted.vEdge[i] = true ↔
            AtEnd LineVec EndLine lines i := atLine_iff hsorted.ends_eq
        refine Or.inr ⟨i, h.picks hlist, ?_⟩
        by_cases hend : AtEnd LineVec EndLine lines i
        · refine Or.inl ⟨hend, linkRoot i sorted, ?_, hsorted.linked_end hin, ?_⟩
          · rw [hturn]
            exact if_pos (hat.mpr hend)
          · rw [linkRoot_ends]
            exact hsorted.ends_eq
        · refine Or.inr ⟨hend, _, ?_, hsorted.take hlist⟩
          rw [hturn]
          exact if_neg fun h => hend (hat.mp h)

/-!
## Runs
-/

/-- How a search ends in which every edge that is taken preserves `P`. -/
inductive Ran (G : Distances Point Dis) (S : StdSort Dis)
    (LineVec : Vector (Line Point) n) (EndLine : Fin n) (EndPoint : Point)
    (lines : Fin m -> Fin n × Fin n) (StartLine : Fin n)
    (P : List (Fin m) -> Prop) : Bool × Search Point Dis n m -> Prop where
  | nowhere {s : Search Point Dis n m} {all : List (Fin m)} :
      P all -> (forall i, ¬ Listed lines StartLine all i) ->
        Ran G S LineVec EndLine EndPoint lines StartLine P (false, s)
  | there {s s' : Search Point Dis n m} {all : List (Fin m)} {i : Fin m} :
      Taken lines StartLine s all -> P all ->
        Picks S (weight G LineVec EndPoint lines) s.SearchList i ->
          AtEnd LineVec EndLine lines i ->
            Linked s'.vEdge s'.pEdgeRoot (i :: all) -> ends s'.vEdge = lines ->
              Ran G S LineVec EndLine EndPoint lines StartLine P (true, s')

def Kept (G : Distances Point Dis) (S : StdSort Dis)
    (LineVec : Vector (Line Point) n) (EndLine : Fin n) (EndPoint : Point)
    (lines : Fin m -> Fin n × Fin n) (StartLine : Fin n)
    (P : List (Fin m) -> Prop) : Prop :=
  forall (s : Search Point Dis n m) (done : List (Fin m)) (i : Fin m),
    Taken lines StartLine s done -> P done ->
      Picks S (weight G LineVec EndPoint lines) s.SearchList i ->
        ¬ AtEnd LineVec EndLine lines i -> P (i :: done)

variable {P : List (Fin m) -> Prop}

theorem searchLoop_stopped {bFind : Bool} {s' : Search Point Dis n m}
    (hturn : turn G S LineVec EndLine EndPoint s = .stopped bFind s') {fuel : Nat}
    (hfuel : 0 < fuel) :
    searchLoop G S LineVec EndLine EndPoint fuel s = some (bFind, s') := by
  cases fuel with
  | zero => exact absurd hfuel (Nat.lt_irrefl 0)
  | succ fuel => rw [searchLoop, hturn]

theorem searchLoop_goesOn {s' : Search Point Dis n m}
    (hturn : turn G S LineVec EndLine EndPoint s = .goesOn s') (fuel : Nat) :
    searchLoop G S LineVec EndLine EndPoint (fuel + 1) s =
      searchLoop G S LineVec EndLine EndPoint fuel s' := by
  rw [searchLoop, hturn]

theorem Taken.run (hkept : Kept G S LineVec EndLine EndPoint lines StartLine P)
    (h : Taken lines StartLine s done) (hP : P done) {turns : Nat}
    (hturns : m < turns + done.length) :
    exists r, Ran G S LineVec EndLine EndPoint lines StartLine P r ∧
      forall fuel, turns ≤ fuel ->
        searchLoop G S LineVec EndLine EndPoint fuel s = some r := by
  induction turns generalizing s done with
  | zero =>
      have hlength := h.length_le
      omega
  | succ turns ih =>
      have hpos : forall fuel, turns + 1 ≤ fuel -> 0 < fuel :=
        fun fuel hfuel => Nat.lt_of_lt_of_le (Nat.succ_pos turns) hfuel
      rcases h.turn_cases G S LineVec EndLine EndPoint with
        ⟨hturn, hnone⟩ | ⟨i, hpick, hcases⟩
      · exact ⟨_, Ran.nowhere hP hnone,
          fun fuel hfuel => searchLoop_stopped hturn (hpos fuel hfuel)⟩
      · rcases hcases with ⟨hend, s', hturn, hlinked, hends⟩ |
          ⟨hend, s', hturn, hnext⟩
        · exact ⟨_, Ran.there h hP hpick hend hlinked hends,
            fun fuel hfuel => searchLoop_stopped hturn (hpos fuel hfuel)⟩
        · have hleft : m < turns + (i :: done).length := by
            rw [List.length_cons]
            omega
          rcases ih hnext (hkept s done i h hP hpick hend) hleft with ⟨r, hran, hloop⟩
          refine ⟨r, hran, ?_⟩
          intro fuel hfuel
          cases fuel with
          | zero => exact absurd hfuel (Nat.not_succ_le_zero turns)
          | succ fuel =>
              rw [searchLoop_goesOn hturn]
              exact hloop fuel (Nat.le_of_succ_le_succ hfuel)

end

/-!
## Reading back
-/

section

variable {LineVec : Vector (Line Point) n}
  {vEdge : Vector (Edge Point Dis n m) m} {StartPoint : Point}

variable (LineVec) in
def side (e : Edge Point Dis n m) (pLastLine : Fin n) : Fin n × Point × Fin n :=
  if LineVec[e.pLine1].nLineId = LineVec[pLastLine].nLineId then
    (e.pLine1, e.Line1Link, e.pLine2)
  else (e.pLine2, e.Line2Link, e.pLine1)

theorem printLines_some {e : Fin m} {root : Fin n × Point × Fin n}
    {pLastLine : Fin n} (hside : side LineVec vEdge[e] pLastLine = root)
    (fuel : Nat) (TarPoint : Point) (pLink : Option Point) :
    printLines LineVec vEdge StartPoint (fuel + 1) (some e) pLastLine TarPoint pLink =
      (printLines LineVec vEdge StartPoint fuel vEdge[e].Root root.2.2 root.2.1
        (some root.2.1)).map fun rest =>
          { pNowLine := root.1, StartVertex := TarPoint, EndVertex := root.2.1 } ::
            rest := by
  rw [printLines, ← hside, side]
  by_cases hid : LineVec[vEdge[e].pLine1].nLineId = LineVec[pLastLine].nLineId
  · simp only [if_pos hid]
    exact Option.map_eq_bind.symm
  · simp only [if_neg hid]
    exact Option.map_eq_bind.symm

variable (LineVec StartPoint) in
theorem Linked.printLines {pEdgeRoot : Option (Fin m)} {es : List (Fin m)}
    (h : Linked vEdge pEdgeRoot es) (pLastLine : Fin n) (TarPoint : Point)
    (pLink : Option Point) (hlink : es ≠ [] ∨ pLink.isSome = true) :
    exists printed, forall fuel, es.length < fuel ->
      printLines LineVec vEdge StartPoint fuel pEdgeRoot pLastLine TarPoint pLink =
        some printed := by
  induction es generalizing pEdgeRoot pLastLine TarPoint pLink with
  | nil =>
      rcases Option.isSome_iff_exists.mp
        (hlink.resolve_left fun hne => hne rfl) with ⟨link, hsome⟩
      refine ⟨[{ pNowLine := pLastLine, StartVertex := link, EndVertex := StartPoint }],
        ?_⟩
      intro fuel hfuel
      cases fuel with
      | zero => exact absurd hfuel (Nat.not_lt_zero _)
      | succ fuel =>
          rw [show pEdgeRoot = none from h, hsome]
          rfl
  | cons e es ih =>
      let root := side LineVec vEdge[e] pLastLine
      rcases ih h.right root.2.2 root.2.1 (some root.2.1) (Or.inr rfl) with
        ⟨rest, hrest⟩
      refine ⟨{ pNowLine := root.1, StartVertex := TarPoint, EndVertex := root.2.1 } ::
        rest, ?_⟩
      intro fuel hfuel
      cases fuel with
      | zero => exact absurd hfuel (Nat.not_lt_zero _)
      | succ fuel =>
          rw [h.left, printLines_some rfl, hrest fuel (Nat.lt_of_succ_lt_succ hfuel)]
          rfl

end

/-!
## The whole search
-/

section

variable [LinearOrder Dis] {G : Distances Point Dis} {S : StdSort Dis}
  {LineVec : Vector (Line Point) n} {vEdge : Vector (Edge Point Dis n m) m}
  {StartLine EndLine : Fin n} {StartPoint EndPoint : Point}
  {P : List (Fin m) -> Prop}

theorem findPath_of_false {fuel : Nat} {s : Search Point Dis n m}
    (hloop : searchLoop G S LineVec EndLine EndPoint fuel
      (findLine StartLine { vEdge := vEdge }) = some (false, s)) :
    findPath G S LineVec fuel vEdge StartLine EndLine StartPoint EndPoint =
      some { bFind := false, search := s } := by
  rw [findPath, hloop]
  rfl

theorem findPath_of_true {fuel : Nat} {s : Search Point Dis n m}
    {printed : List (PrintedLine Point n)}
    (hloop : searchLoop G S LineVec EndLine EndPoint fuel
      (findLine StartLine { vEdge := vEdge }) = some (true, s))
    (hprint : printLines LineVec s.vEdge StartPoint fuel s.pEdgeRoot EndLine
      EndPoint none = some printed) :
    findPath G S LineVec fuel vEdge StartLine EndLine StartPoint EndPoint =
      some
        { bFind := true
          search := s
          printed := printed
          vPoint := printed.flatMap (printLine G LineVec) } := by
  rw [findPath, hloop]
  show (printLines LineVec s.vEdge StartPoint fuel s.pEdgeRoot EndLine EndPoint
    none).bind _ = _
  rw [hprint]
  rfl

variable (G S StartPoint EndPoint) in
theorem findPath_ran (hfresh : forall i : Fin m, vEdge[i].Fresh)
    (hkept : Kept G S LineVec EndLine EndPoint (ends vEdge) StartLine P)
    (hP : P []) :
    exists r, Ran G S LineVec EndLine EndPoint (ends vEdge) StartLine P
        (r.bFind, r.search) ∧
      (r.bFind = true -> forall fuel, m < fuel ->
        printLines LineVec r.search.vEdge StartPoint fuel r.search.pEdgeRoot EndLine
          EndPoint none = some r.printed) ∧
      forall fuel, m < fuel ->
        findPath G S LineVec fuel vEdge StartLine EndLine StartPoint EndPoint =
          some r := by
  have hstart := taken_start hfresh StartLine
  rcases hstart.run hkept hP (Nat.lt_succ_self m) with ⟨⟨bFind, s⟩, hran, hloop⟩
  cases hran with
  | nowhere hall hnone =>
      exact ⟨{ bFind := false, search := s }, Ran.nowhere hall hnone,
        fun hfalse => absurd hfalse Bool.false_ne_true,
        fun fuel hfuel => findPath_of_false (hloop fuel hfuel)⟩
  | there htaken hall hpick hend hlinked hends =>
      rename_i last all i
      have hnodup : (i :: all).Nodup := by
        rw [List.nodup_cons]
        exact ⟨(hpick.nearest htaken).listed.left, htaken.nodupDone⟩
      have hlength : (i :: all).length ≤ m := by
        have hle := hnodup.length_le_card
        rwa [Fintype.card_fin] at hle
      rcases hlinked.printLines LineVec StartPoint EndLine EndPoint none
        (Or.inl (List.cons_ne_nil i all)) with ⟨printed, hprint⟩
      have hback : forall fuel, m < fuel ->
          printLines LineVec s.vEdge StartPoint fuel s.pEdgeRoot EndLine EndPoint
            none = some printed :=
        fun fuel hfuel => hprint fuel (Nat.lt_of_le_of_lt hlength hfuel)
      exact ⟨_, Ran.there htaken hall hpick hend hlinked hends, fun _ => hback,
        fun fuel hfuel => findPath_of_true (hloop fuel hfuel) (hback fuel hfuel)⟩

/-!
## Where the search comes to
-/

variable (LineVec EndLine) in
/-- The edges that were taken are at places there is a way to, none at the end. -/
def Passed (lines : Fin m -> Fin n × Fin n) (StartLine : Fin n)
    (done : List (Fin m)) : Prop :=
  Library.EdgeWalks.Found lines StartLine done ∧
    forall d, d ∈ done -> ¬ AtEnd LineVec EndLine lines d

theorem passed_kept (lines : Fin m -> Fin n × Fin n) :
    Kept G S LineVec EndLine EndPoint lines StartLine
      (Passed LineVec EndLine lines StartLine) := by
  intro s done i htaken hpassed hpick hend
  refine ⟨hpassed.left.cons (hpick.nearest htaken).listed, ?_⟩
  intro d hd
  rcases List.mem_cons.mp hd with heq | hd
  · rwa [heq]
  · exact hpassed.right d hd

theorem Ran.reach_iff {lines : Fin m -> Fin n × Fin n}
    {r : Bool × Search Point Dis n m}
    (hne : LineVec[StartLine].nLineId ≠ LineVec[EndLine].nLineId)
    (h : Ran G S LineVec EndLine EndPoint lines StartLine
      (Passed LineVec EndLine lines StartLine) r) :
    r.1 = true ↔
      exists p, LineVec[p].nLineId = LineVec[EndLine].nLineId ∧
        Reach lines StartLine p := by
  cases h with
  | nowhere hpassed hnone =>
      refine ⟨fun hfalse => absurd hfalse Bool.false_ne_true, ?_⟩
      intro hreach
      rcases hreach with ⟨p, hid, hp⟩
      rcases reach_of_exhausted hnone hp with hstart | ⟨e, he, htouches⟩
      · rw [hstart] at hid
        exact absurd hid hne
      · exact absurd ⟨p, htouches, hid⟩ (hpassed.right e he)
  | there htaken hpassed hpick hend _ _ =>
      refine ⟨fun _ => ?_, fun _ => rfl⟩
      rcases hend with ⟨p, htouches, hid⟩
      exact ⟨p, hid, (hpick.nearest htaken).listed.reach hpassed.left htouches⟩

variable (G S StartPoint EndPoint) in
/-- It ends on every graph, and finds what it looks for by the number of the line. -/
theorem findPath_bFind_iff (hfresh : forall i : Fin m, vEdge[i].Fresh)
    (hne : LineVec[StartLine].nLineId ≠ LineVec[EndLine].nLineId) :
    exists r, (forall fuel, m < fuel ->
        findPath G S LineVec fuel vEdge StartLine EndLine StartPoint EndPoint =
          some r) ∧
      (r.bFind = true ↔
        exists p, LineVec[p].nLineId = LineVec[EndLine].nLineId ∧
          Reach (ends vEdge) StartLine p) ∧
      ((forall p, LineVec[p].nLineId = LineVec[EndLine].nLineId -> p = EndLine) ->
        (r.bFind = true ↔ Reach (ends vEdge) StartLine EndLine)) := by
  have hnil : Passed LineVec EndLine (ends vEdge) StartLine [] :=
    ⟨fun _ hd => (nomatch hd), fun _ hd => (nomatch hd)⟩
  rcases findPath_ran G S StartPoint EndPoint hfresh (passed_kept (ends vEdge)) hnil
    with ⟨r, hran, _, hresult⟩
  have hiff := hran.reach_iff hne
  refine ⟨r, hresult, hiff, ?_⟩
  intro hid
  refine ⟨fun hfound => ?_, fun hreach => hiff.mpr ⟨EndLine, rfl, hreach⟩⟩
  rcases hiff.mp hfound with ⟨p, hp, hreach⟩
  rwa [hid p hp] at hreach

end

/-!
## Lines with one number
-/

def straight : Distances Int Nat where
  get3DDis a b := (a - b).natAbs
  zero := 0
  nWeight := 100000
  maxFindPathDis := 35

def twinLines : Vector (Line Int) 3 :=
  #v[{ vList := [0, 10], nLineId := 1 }, { vList := [20], nLineId := 2 },
    { vList := [1000], nLineId := 2 }]

def twinEdges : Vector (Edge Int Nat 3 1) 1 :=
  #v[Edge.init straight 0 1 (10, 20)]

theorem vertexToEdge_twins :
    vertexToEdge straight twinLines = twinEdges.toList := rfl

theorem twinLines_found :
    vertexToEdge straight twinLines = twinEdges.toList ∧
      (forall i : Fin 1, twinEdges[i].Fresh) ∧
      twinLines[(0 : Fin 3)].nLineId ≠ twinLines[(2 : Fin 3)].nLineId ∧
      (exists r, findPath straight (StdSort.byOrder []) twinLines 2 twinEdges
        0 2 0 1000 = some r ∧ r.bFind = true) ∧
      ¬ Reach (ends twinEdges) 0 2 := by
  refine ⟨rfl, fresh_of_vertexToEdge vertexToEdge_twins, by decide, ?_, ?_⟩
  · have hfound : (findPath straight (StdSort.byOrder []) twinLines 2 twinEdges
        0 2 0 1000).map Found.bFind = some true := by decide +kernel
    rcases Option.map_eq_some_iff.mp hfound with ⟨r, hr, htrue⟩
    exact ⟨r, hr, htrue⟩
  · intro hreach
    have hnone : forall e, ¬ Listed (ends twinEdges) 0 [0] e := by
      intro e he
      exact he.left (List.mem_singleton.mpr (Subsingleton.elim e 0))
    rcases reach_of_exhausted hnone hreach with heq | ⟨e, _, htouches⟩
    · exact absurd heq (by decide)
    · rw [Subsingleton.elim e 0] at htouches
      rcases htouches with h1 | h2
      · exact absurd h1 (by decide)
      · exact absurd h2 (by decide)

theorem findPath_bFind_iff_twins :
    exists r, (forall fuel, 1 < fuel ->
        findPath straight (StdSort.byOrder []) twinLines fuel twinEdges 0 1 0 20 =
          some r) ∧
      (r.bFind = true ↔
        exists p : Fin 3, twinLines[p].nLineId = twinLines[(1 : Fin 3)].nLineId ∧
          Reach (ends twinEdges) 0 p) := by
  have hne : twinLines[(0 : Fin 3)].nLineId ≠ twinLines[(1 : Fin 3)].nLineId := by
    decide
  rcases findPath_bFind_iff straight (StdSort.byOrder []) 0 20
    (fresh_of_vertexToEdge vertexToEdge_twins) hne with ⟨r, hresult, hiff, _⟩
  exact ⟨r, hresult, hiff⟩

end CFindPathScript
end Game
end BnsKorea
