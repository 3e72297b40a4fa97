import Mathlib.Data.List.Sort
import Mathlib.Data.Prod.Lex

/-!
# The search for a path

Lines of points are the places of an undirected graph, and an edge joins two
lines that come near each other.  The search takes the edge nearest to the end
point out of a list, puts the edges at both of its lines in, and links each edge
it takes to the one it took before; the way is read back along these links.

Lines and edges are pointed to by their index.  Distances are compared only.
-/

namespace BnsKorea
namespace Game
namespace CFindPathScript

/-- A line or an edge is pointed to within its vector. -/
scoped instance getElemPointed {α : Type} {k : Nat} :
    GetElem (Vector α k) (Fin k) α fun _ _ => True where
  getElem v i _ := v.get i

/-- Points with their distances, and the constants of the code among these. -/
structure Distances (Point Dis : Type) where
  get3DDis : Point -> Point -> Dis
  zero : Dis
  /-- `100000.0f` -/
  nWeight : Dis
  /-- `MAX_FINDPATH_DIS` -/
  maxFindPathDis : Dis

/-- `std::sort` of a list of pointers by a key; equal keys in any order. -/
structure StdSort (Dis : Type) [LinearOrder Dis] where
  sort : forall {m : Nat}, (Fin m -> Dis) -> List (Fin m) -> List (Fin m)
  perm : forall {m : Nat} (key : Fin m -> Dis) (l : List (Fin m)),
    (sort key l).Perm l
  sorted : forall {m : Nat} (key : Fin m -> Dis) (l : List (Fin m)),
    (sort key l).Pairwise fun i j => key i ≤ key j

theorem pairwise_byOrder {Dis : Type} [LinearOrder Dis] {m : Nat} (order : List Nat)
    (key : Fin m -> Dis) (l : List (Fin m)) :
    (l.insertionSort fun i j =>
      toLex (key i, order.idxOf i.val) ≤ toLex (key j, order.idxOf j.val)).Pairwise
        fun i j => key i < key j ∨
          key i = key j ∧ order.idxOf i.val ≤ order.idxOf j.val := by
  have htotal : Std.Total fun i j =>
      toLex (key i, order.idxOf i.val) ≤ toLex (key j, order.idxOf j.val) :=
    ⟨fun _ _ => le_total _ _⟩
  have htrans : IsTrans _ fun i j =>
      toLex (key i, order.idxOf i.val) ≤ toLex (key j, order.idxOf j.val) :=
    ⟨fun _ _ _ => le_trans⟩
  refine (List.pairwise_insertionSort (fun i j =>
    toLex (key i, order.idxOf i.val) ≤ toLex (key j, order.idxOf j.val)) l).imp ?_
  intro i j hle
  exact Prod.Lex.toLex_le_toLex.mp hle

def StdSort.byOrder {Dis : Type} [LinearOrder Dis] (order : List Nat) :
    StdSort Dis where
  sort key l := l.insertionSort fun i j =>
    toLex (key i, order.idxOf i.val) ≤ toLex (key j, order.idxOf j.val)
  perm _ l := List.perm_insertionSort _ l
  sorted key l := by
    refine (pairwise_byOrder order key l).imp ?_
    intro i j hle
    rcases hle with hlt | heq
    · exact le_of_lt hlt
    · exact le_of_eq heq.left

/-!
## Lines and edges
-/

structure Line (Point : Type) where
  vList : List Point := []
  nLineId : Int := 0

/-- An edge between two of `n` lines; it may point to one of `m` edges. -/
structure Edge (Point Dis : Type) (n m : Nat) where
  pLine1 : Fin n
  pLine2 : Fin n
  Line1Link : Point
  Line2Link : Point
  nWeight : Dis
  Root : Option (Fin m) := none
  bVisited : Bool := false

structure Search (Point Dis : Type) (n m : Nat) where
  vEdge : Vector (Edge Point Dis n m) m
  SearchList : List (Fin m) := []
  pEdgeRoot : Option (Fin m) := none

variable {Point Dis : Type} {n m : Nat}

/-- `Init` on an edge as it is constructed or released. -/
def Edge.init (G : Distances Point Dis) (pLine1 pLine2 : Fin n)
    (link : Point × Point) : Edge Point Dis n m where
  pLine1 := pLine1
  pLine2 := pLine2
  Line1Link := link.1
  Line2Link := link.2
  nWeight := G.zero

def Edge.touches (e : Edge Point Dis n m) (pLine : Fin n) : Bool :=
  e.pLine1 = pLine || e.pLine2 = pLine

def atLine (LineVec : Vector (Line Point) n) (EndLine : Fin n)
    (e : Edge Point Dis n m) : Bool :=
  LineVec[e.pLine1].nLineId = LineVec[EndLine].nLineId ||
    LineVec[e.pLine2].nLineId = LineVec[EndLine].nLineId

/-!
## The list and the links
-/

def findLine (pCurLine : Fin n) (s : Search Point Dis n m) :
    Search Point Dis n m :=
  { s with
    vEdge := s.vEdge.map fun e =>
      if e.touches pCurLine && !e.bVisited then { e with bVisited := true }
      else e
    SearchList := s.SearchList ++ (List.finRange m).filter fun i =>
      s.vEdge[i].touches pCurLine && !s.vEdge[i].bVisited }

def linkRoot (pEdge : Fin m) (s : Search Point Dis n m) :
    Search Point Dis n m :=
  { s with
    vEdge := s.vEdge.set pEdge { s.vEdge[pEdge] with Root := s.pEdgeRoot }
    pEdgeRoot := some pEdge }

/-!
## Reading back
-/

/-- A call of `PrintLine`. -/
structure PrintedLine (Point : Type) (n : Nat) where
  pNowLine : Fin n
  StartVertex : Point
  EndVertex : Point

/-- The loop back along the links, and the call behind it. -/
def printLines (LineVec : Vector (Line Point) n)
    (vEdge : Vector (Edge Point Dis n m) m) (StartPoint : Point) :
    Nat -> Option (Fin m) -> Fin n -> Point -> Option Point ->
      Option (List (PrintedLine Point n))
  | 0, _, _, _, _ => none
  | _ + 1, none, pLastLine, _, pLink => do
      let link <- pLink
      pure [{ pNowLine := pLastLine, StartVertex := link, EndVertex := StartPoint }]
  | fuel + 1, some pEdgeRoot, pLastLine, TarPoint, _ => do
      let e := vEdge[pEdgeRoot]
      if LineVec[e.pLine1].nLineId = LineVec[pLastLine].nLineId then
        let rest <- printLines LineVec vEdge StartPoint fuel e.Root e.pLine2
          e.Line1Link (some e.Line1Link)
        pure ({ pNowLine := e.pLine1
                StartVertex := TarPoint
                EndVertex := e.Line1Link } :: rest)
      else
        let rest <- printLines LineVec vEdge StartPoint fuel e.Root e.pLine1
          e.Line2Link (some e.Line2Link)
        pure ({ pNowLine := e.pLine2
                StartVertex := TarPoint
                EndVertex := e.Line2Link } :: rest)

section

variable [LinearOrder Dis] (G : Distances Point Dis) (S : StdSort Dis)
  (LineVec : Vector (Line Point) n)

/-- The nearest of the points, but no farther than `nWeight`. -/
def nearest (TarPoint : Point) (vList : List Point) (nWeight : Dis) : Dis :=
  vList.foldl (fun nWeight itm =>
    let fDis := G.get3DDis itm TarPoint
    if fDis < nWeight then fDis else nWeight) nWeight

def Edge.setWeight (TarPoint : Point) (e : Edge Point Dis n m) :
    Edge Point Dis n m :=
  { e with
    nWeight := nearest G TarPoint LineVec[e.pLine2].vList
      (nearest G TarPoint LineVec[e.pLine1].vList G.nWeight) }

/-!
## The edges of the lines
-/

def coincide_In_Line (Line1 Line2 : Line Point) : Option (Point × Point) :=
  (Line1.vList.foldl (fun r v1 =>
    Line2.vList.foldl (fun r v2 =>
      let fDis := G.get3DDis v1 v2
      if fDis ≤ r.1 then (fDis, some (v1, v2)) else r) r)
    (G.maxFindPathDis, none)).2

def vertexToEdge : List (Edge Point Dis n m) :=
  (List.finRange n).flatMap fun i =>
    ((List.finRange n).filter fun j => i < j).filterMap fun j =>
      (coincide_In_Line G LineVec[i] LineVec[j]).map (Edge.init G i j)

/-!
## Searching
-/

/-- The list is sorted; the index that is returned is always zero. -/
def getIndex_By_Heuristic_In_SearchList (EndPoint : Point)
    (s : Search Point Dis n m) : Search Point Dis n m :=
  let vEdge := s.SearchList.foldl
    (fun vEdge i => vEdge.set i (vEdge[i].setWeight G LineVec EndPoint)) s.vEdge
  { s with
    vEdge := vEdge
    SearchList := S.sort (fun i => vEdge[i].nWeight) s.SearchList }

inductive Turned (Point Dis : Type) (n m : Nat) where
  | stopped (bFind : Bool) (s : Search Point Dis n m)
  | goesOn (s : Search Point Dis n m)

/-- One turn of the loop. -/
def turn (EndLine : Fin n) (EndPoint : Point) (s : Search Point Dis n m) :
    Turned Point Dis n m :=
  if s.SearchList.length > 0 then
    let s := getIndex_By_Heuristic_In_SearchList G S LineVec EndPoint s
    match s.SearchList with
    | [] => .stopped false s
    | pEdge :: rest =>
        let e := s.vEdge[pEdge]
        if atLine LineVec EndLine e then .stopped true (linkRoot pEdge s)
        else
          .goesOn (findLine e.pLine2 (findLine e.pLine1
            (linkRoot pEdge { s with SearchList := rest })))
  else .stopped false s

/-- So many turns at most; no result if these do not do. -/
def searchLoop (EndLine : Fin n) (EndPoint : Point) :
    Nat -> Search Point Dis n m -> Option (Bool × Search Point Dis n m)
  | 0, _ => none
  | fuel + 1, s =>
      match turn G S LineVec EndLine EndPoint s with
      | .stopped bFind s => some (bFind, s)
      | .goesOn s => searchLoop EndLine EndPoint fuel s

def getIndex_By_Line (pLine : Fin n) (Vertex_ : Point) : Option Nat :=
  (LineVec[pLine].vList.zipIdx.foldl (fun r itm =>
    let fDis := G.get3DDis Vertex_ itm.1
    if fDis < r.1 then (fDis, some itm.2) else r) (G.maxFindPathDis, none)).2

def printLine (call : PrintedLine Point n) : List Point :=
  match getIndex_By_Line G LineVec call.pNowLine call.StartVertex,
    getIndex_By_Line G LineVec call.pNowLine call.EndVertex with
  | some nNow, some nTar =>
      let vList := LineVec[call.pNowLine].vList
      if nNow < nTar then (vList.drop nNow).take (nTar + 1 - nNow)
      else ((vList.drop nTar).take (nNow + 1 - nTar)).reverse
  | _, _ => []

/-- What is returned, the search as it ends, the lines and their points. -/
structure Found (Point Dis : Type) (n m : Nat) where
  bFind : Bool
  search : Search Point Dis n m
  printed : List (PrintedLine Point n) := []
  vPoint : List Point := []

def findPath (fuel : Nat) (vEdge : Vector (Edge Point Dis n m) m)
    (StartLine EndLine : Fin n) (StartPoint EndPoint : Point) :
    Option (Found Point Dis n m) := do
  let searched <- searchLoop G S LineVec EndLine EndPoint fuel
    (findLine StartLine { vEdge := vEdge })
  if searched.1 then
    let printed <- printLines LineVec searched.2.vEdge StartPoint fuel
      searched.2.pEdgeRoot EndLine EndPoint none
    pure
      { bFind := true
        search := searched.2
        printed := printed
        vPoint := printed.flatMap (printLine G LineVec) }
  else pure { bFind := false, search := searched.2 }

end

/-- As edges come from `VertexToEdge`. -/
structure Edge.Fresh (e : Edge Point Dis n m) : Prop where
  Root : e.Root = none
  bVisited : e.bVisited = false

theorem vertexToEdge_fresh [LinearOrder Dis] {G : Distances Point Dis}
    {LineVec : Vector (Line Point) n} {e : Edge Point Dis n m}
    (h : e ∈ vertexToEdge G LineVec) : e.Fresh := by
  rcases List.mem_flatMap.mp h with ⟨i, _, hi⟩
  rcases List.mem_filterMap.mp hi with ⟨j, _, hj⟩
  rcases Option.map_eq_some_iff.mp hj with ⟨link, _, he⟩
  rw [← he]
  exact ⟨rfl, rfl⟩

theorem fresh_of_vertexToEdge [LinearOrder Dis] {G : Distances Point Dis}
    {LineVec : Vector (Line Point) n} {vEdge : Vector (Edge Point Dis n m) m}
    (h : vertexToEdge G LineVec = vEdge.toList) (i : Fin m) : vEdge[i].Fresh := by
  have hmem : vEdge[i] ∈ vEdge.toList :=
    Vector.mem_toList_iff.mpr (Vector.getElem_mem i.isLt)
  rw [← h] at hmem
  exact vertexToEdge_fresh hmem

end CFindPathScript
end Game
end BnsKorea
