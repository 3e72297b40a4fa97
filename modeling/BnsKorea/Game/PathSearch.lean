import Mathlib.Data.Fintype.Card
import Mathlib.Data.List.FinRange
import BnsKorea.Game.FindPath
import BnsKorea.Library.EdgeWalks

/-!
# What the search for a path comes to

The list holds the edges at the start and at the edges that were taken, without
these, and the links lead back over all of them.  An edge is put in once, so the
search ends; with the list empty it has been everywhere.
-/

namespace BnsKorea
namespace Game
namespace CFindPathScript

open Library.EdgeWalks

variable {Point Dis : Type} {n m : Nat}

def ends (vEdge : Vector (Edge Point Dis n m) m) (i : Fin m) : Fin n × Fin n :=
  (vEdge[i].pLine1, vEdge[i].pLine2)

def weight [LinearOrder Dis] (G : Distances Point Dis) (LineVec : Vector (Line Point) n)
    (TarPoint : Point) (lines : Fin m -> Fin n × Fin n) (i : Fin m) : Dis :=
  nearest G TarPoint LineVec[(lines i).2].vList
    (nearest G TarPoint LineVec[(lines i).1].vList G.nWeight)

/-!
## The parts of a turn
-/

section

variable {s : Search Point Dis n m} {p : Fin n} {i j : Fin m}

theorem touches_iff (e : Edge Point Dis n m) (p : Fin n) :
    e.touches p = true ↔ e.pLine1 = p ∨ e.pLine2 = p := by
  rw [Edge.touches, Bool.or_eq_true, decide_eq_true_iff, decide_eq_true_iff]

theorem findLine_edge (p : Fin n) (s : Search Point Dis n m) (i : Fin m) :
    (findLine p s).vEdge[i] =
      { s.vEdge[i] with
        bVisited := s.vEdge[i].bVisited || s.vEdge[i].touches p } := by
  have hget : (findLine p s).vEdge[i] =
      if s.vEdge[i].touches p && !s.vEdge[i].bVisited then
        { s.vEdge[i] with bVisited := true }
      else s.vEdge[i] := Vector.getElem_map _ _
  rw [hget]
  cases htouches : s.vEdge[i].touches p with
  | false => rw [Bool.or_false]; rfl
  | true =>
      cases hvisited : s.vEdge[i].bVisited with
      | false => rfl
      | true =>
          have hsame : s.vEdge[i] =
              { s.vEdge[i] with bVisited := s.vEdge[i].bVisited } := rfl
          rw [hvisited] at hsame
          exact hsame

theorem findLine_ends (p : Fin n) (s : Search Point Dis n m) :
    ends (findLine p s).vEdge = ends s.vEdge := by
  funext i
  rw [ends, findLine_edge]
  rfl

theorem findLine_root (p : Fin n) (s : Search Point Dis n m) (i : Fin m) :
    (findLine p s).vEdge[i].Root = s.vEdge[i].Root := by
  rw [findLine_edge]

theorem findLine_visited :
    (findLine p s).vEdge[i].bVisited = true ↔
      s.vEdge[i].bVisited = true ∨ Touches (ends s.vEdge) i p := by
  rw [findLine_edge]
  show (s.vEdge[i].bVisited || s.vEdge[i].touches p) = true ↔ _
  rw [Bool.or_eq_true, touches_iff]
  rfl

theorem mem_findLine :
    j ∈ (findLine p s).SearchList ↔
      j ∈ s.SearchList ∨
        Touches (ends s.vEdge) j p ∧ ¬ s.vEdge[j].bVisited = true := by
  show j ∈ s.SearchList ++ _ ↔ _
  rw [List.mem_append, List.mem_filter, Bool.and_eq_true, touches_iff,
    Bool.not_eq_true', ← Bool.not_eq_true]
  simp only [List.mem_finRange, true_and]
  rfl

theorem findLine_both_visited {q : Fin n} :
    (findLine q (findLine p s)).vEdge[i].bVisited = true ↔
      s.vEdge[i].bVisited = true ∨
        (Touches (ends s.vEdge) i p ∨ Touches (ends s.vEdge) i q) := by
  rw [findLine_visited, findLine_visited, findLine_ends, or_assoc]

theorem mem_findLine_both {q : Fin n} :
    j ∈ (findLine q (findLine p s)).SearchList ↔
      j ∈ s.SearchList ∨ ¬ s.vEdge[j].bVisited = true ∧
        (Touches (ends s.vEdge) j p ∨ Touches (ends s.vEdge) j q) := by
  rw [mem_findLine, mem_findLine, findLine_visited, findLine_ends]
  constructor
  · intro h
    rcases h with (hold | ⟨hp, hopen⟩) | ⟨hq, hopen⟩
    · exact Or.inl hold
    · exact Or.inr ⟨hopen, Or.inl hp⟩
    · exact Or.inr ⟨fun hvisited => hopen (Or.inl hvisited), Or.inr hq⟩
  · intro h
    rcases h with hold | ⟨hopen, hat⟩
    · exact Or.inl (Or.inl hold)
    · by_cases hp : Touches (ends s.vEdge) j p
      · exact Or.inl (Or.inr ⟨hp, hopen⟩)
      · exact Or.inr ⟨hat.resolve_left hp, fun h => h.elim hopen hp⟩

theorem findLine_nodup (hnodup : s.SearchList.Nodup)
    (hvisited : forall j, j ∈ s.SearchList -> s.vEdge[j].bVisited = true) :
    (findLine p s).SearchList.Nodup := by
  apply List.nodup_append.mpr
  refine ⟨hnodup, (List.nodup_finRange m).filter _, ?_⟩
  intro j hj k hk heq
  have hopen := (List.mem_filter.mp hk).right
  rw [← heq, Bool.and_eq_true, hvisited j hj] at hopen
  cases hopen.right

variable [LinearOrder Dis] (G : Distances Point Dis) (S : StdSort Dis)
  (LineVec : Vector (Line Point) n) (EndPoint : Point)

theorem heuristic_edge (l : List (Fin m))
    (vEdge : Vector (Edge Point Dis n m) m) (i : Fin m) :
    (l.foldl (fun vEdge i =>
        vEdge.set i (vEdge[i].setWeight G LineVec EndPoint) i.isLt) vEdge)[i] =
      if i ∈ l then vEdge[i].setWeight G LineVec EndPoint else vEdge[i] := by
  induction l generalizing vEdge with
  | nil => rfl
  | cons k l ih =>
      rw [List.foldl_cons, ih]
      by_cases hik : i = k
      · have hset : (vEdge.set k (vEdge[k].setWeight G LineVec EndPoint))[k] =
            vEdge[k].setWeight G LineVec EndPoint := Vector.getElem_set_self _
        rw [hik, hset]
        simp only [List.mem_cons, true_or, if_true]
        split
        · rfl
        · rfl
      · have hval : (k : Nat) ≠ (i : Nat) :=
          fun h => hik (Fin.ext h.symm)
        have hset : (vEdge.set k (vEdge[k].setWeight G LineVec EndPoint))[i] =
            vEdge[i] := Vector.getElem_set_ne _ _ hval
        rw [hset]
        simp only [List.mem_cons, hik, false_or]

end

section

variable {s : Search Point Dis n m} {i j : Fin m}

theorem linkRoot_edge (i : Fin m) (s : Search Point Dis n m) (j : Fin m) :
    (linkRoot i s).vEdge[j] =
      { s.vEdge[j] with
        Root := if j = i then s.pEdgeRoot else s.vEdge[j].Root } := by
  by_cases hji : j = i
  · rw [hji, if_pos rfl]
    exact Vector.getElem_set_self _
  · have hval : (i : Nat) ≠ (j : Nat) := fun h => hji (Fin.ext h.symm)
    rw [if_neg hji]
    exact Vector.getElem_set_ne i.isLt j.isLt hval

theorem linkRoot_ends (i : Fin m) (s : Search Point Dis n m) :
    ends (linkRoot i s).vEdge = ends s.vEdge := by
  funext j
  rw [ends, linkRoot_edge]
  rfl

/-!
## Taking an edge
-/

/-- What a turn does that does not stop. -/
def takeEdge (i : Fin m) (rest : List (Fin m)) (s : Search Point Dis n m) :
    Search Point Dis n m :=
  findLine s.vEdge[i].pLine2 (findLine s.vEdge[i].pLine1
    (linkRoot i { s with SearchList := rest }))

variable {rest : List (Fin m)}

theorem takeEdge_ends : ends (takeEdge i rest s).vEdge = ends s.vEdge := by
  rw [takeEdge, findLine_ends, findLine_ends]
  exact linkRoot_ends i { s with SearchList := rest }

theorem takeEdge_root :
    (takeEdge i rest s).vEdge[j].Root =
      if j = i then s.pEdgeRoot else s.vEdge[j].Root := by
  rw [takeEdge, findLine_root, findLine_root, linkRoot_edge]

theorem linkRoot_visited (i : Fin m) (s : Search Point Dis n m) (j : Fin m) :
    (linkRoot i s).vEdge[j].bVisited = s.vEdge[j].bVisited := by
  rw [linkRoot_edge]

theorem takeEdge_visited :
    (takeEdge i rest s).vEdge[j].bVisited = true ↔
      s.vEdge[j].bVisited = true ∨
        exists p, Touches (ends s.vEdge) i p ∧ Touches (ends s.vEdge) j p := by
  rw [takeEdge, findLine_both_visited, linkRoot_visited, linkRoot_ends,
    exists_touches]
  rfl

theorem mem_takeEdge :
    j ∈ (takeEdge i rest s).SearchList ↔
      j ∈ rest ∨ ¬ s.vEdge[j].bVisited = true ∧
        exists p, Touches (ends s.vEdge) i p ∧ Touches (ends s.vEdge) j p := by
  rw [takeEdge, mem_findLine_both, linkRoot_visited, linkRoot_ends, exists_touches]
  rfl

theorem takeEdge_nodup (hnodup : rest.Nodup)
    (hvisited : forall j, j ∈ rest -> s.vEdge[j].bVisited = true) :
    (takeEdge i rest s).SearchList.Nodup := by
  let linked := linkRoot i { s with SearchList := rest }
  have hlinked : forall j, j ∈ linked.SearchList ->
      linked.vEdge[j].bVisited = true := by
    intro j hj
    rw [linkRoot_visited]
    exact hvisited j hj
  apply findLine_nodup (findLine_nodup hnodup hlinked)
  intro j hj
  rw [findLine_visited]
  rcases mem_findLine.mp hj with hj | hj
  · exact Or.inl (hlinked j hj)
  · exact Or.inr hj.left

/-!
## The state between two turns
-/

def Linked (vEdge : Vector (Edge Point Dis n m) m) :
    Option (Fin m) -> List (Fin m) -> Prop
  | pEdgeRoot, [] => pEdgeRoot = none
  | pEdgeRoot, e :: es => pEdgeRoot = some e ∧ Linked vEdge vEdge[e].Root es

theorem Linked.congr {vEdge vEdge' : Vector (Edge Point Dis n m) m}
    {pEdgeRoot : Option (Fin m)} {es : List (Fin m)}
    (h : Linked vEdge pEdgeRoot es)
    (hroot : forall e, e ∈ es -> vEdge'[e].Root = vEdge[e].Root) :
    Linked vEdge' pEdgeRoot es := by
  induction es generalizing pEdgeRoot with
  | nil => exact h
  | cons e es ih =>
      refine ⟨h.left, ?_⟩
      rw [hroot e List.mem_cons_self]
      exact ih h.right fun d hd => hroot d (List.mem_cons_of_mem e hd)

/-- The edges that were taken, the last one first, and what is in the list. -/
structure Taken (lines : Fin m -> Fin n × Fin n) (StartLine : Fin n)
    (s : Search Point Dis n m) (done : List (Fin m)) : Prop where
  ends_eq : ends s.vEdge = lines
  listed : forall i, i ∈ s.SearchList ↔ Listed lines StartLine done i
  visited : forall i, s.vEdge[i].bVisited = true ↔ i ∈ s.SearchList ∨ i ∈ done
  nodupList : s.SearchList.Nodup
  nodupDone : done.Nodup
  linked : Linked s.vEdge s.pEdgeRoot done

variable {lines : Fin m -> Fin n × Fin n} {StartLine : Fin n} {done : List (Fin m)}

theorem Taken.length_le (h : Taken lines StartLine s done) : done.length ≤ m := by
  have hle := List.Nodup.length_le_card h.nodupDone
  rwa [Fintype.card_fin] at hle

theorem taken_start {vEdge : Vector (Edge Point Dis n m) m}
    (hfresh : forall i : Fin m, vEdge[i].Fresh) (StartLine : Fin n) :
    Taken (ends vEdge) StartLine (findLine StartLine { vEdge := vEdge }) [] := by
  have hopen : forall i : Fin m, ¬ vEdge[i].bVisited = true := by
    intro i
    rw [(hfresh i).bVisited]
    exact Bool.false_ne_true
  have hmem : forall i, i ∈ (findLine StartLine { vEdge := vEdge }).SearchList ↔
      Touches (ends vEdge) i StartLine := by
    intro i
    rw [mem_findLine]
    constructor
    · intro h
      rcases h with hnil | h
      · cases hnil
      · exact h.left
    · intro h
      exact Or.inr ⟨h, hopen i⟩
  refine ⟨findLine_ends StartLine _, ?_, ?_, ?_, List.nodup_nil, rfl⟩
  · intro i
    rw [hmem]
    constructor
    · intro h
      exact ⟨List.not_mem_nil, Or.inl h⟩
    · intro h
      rcases h.right with hstart | ⟨d, hd, _⟩
      · exact hstart
      · cases hd
  · intro i
    rw [findLine_visited, hmem]
    constructor
    · intro h
      exact Or.inl (h.resolve_left (hopen i))
    · intro h
      rcases h with h | hnil
      · exact Or.inr h
      · cases hnil
  · exact findLine_nodup List.nodup_nil fun _ hnil => nomatch hnil

theorem Taken.mem_iff (h : Taken lines StartLine s done)
    (hlist : s.SearchList = i :: rest) :
    j ∈ rest ↔ j ≠ i ∧ Listed lines StartLine done j := by
  have hnodup := h.nodupList
  rw [hlist] at hnodup
  have hnot : i ∉ rest := (List.nodup_cons.mp hnodup).left
  rw [← h.listed, hlist, List.mem_cons]
  constructor
  · intro hj
    refine ⟨?_, Or.inr hj⟩
    intro heq
    rw [heq] at hj
    exact hnot hj
  · intro hj
    exact hj.right.resolve_left hj.left

theorem Taken.listed_take (h : Taken lines StartLine s done)
    (hlist : s.SearchList = i :: rest) (j : Fin m) :
    j ∈ (takeEdge i rest s).SearchList ↔ Listed lines StartLine (i :: done) j := by
  have hinList : i ∈ s.SearchList := by
    rw [hlist]
    exact List.mem_cons_self
  have hin := (h.listed i).mp hinList
  rw [mem_takeEdge, listed_cons, h.mem_iff hlist, h.visited, h.listed, h.ends_eq]
  constructor
  · intro hj
    rcases hj with hold | ⟨hopen, hat⟩
    · exact ⟨hold.left, Or.inl hold.right⟩
    · refine ⟨?_, Or.inr ⟨fun hd => hopen (Or.inr hd), hat⟩⟩
      intro heq
      rw [heq] at hopen
      exact hopen (Or.inl hin)
  · intro hj
    rcases hj with ⟨hne, hold | ⟨hnew, hat⟩⟩
    · exact Or.inl ⟨hne, hold⟩
    · by_cases hold : Listed lines StartLine done j
      · exact Or.inl ⟨hne, hold⟩
      · exact Or.inr ⟨fun h => h.elim hold hnew, hat⟩

theorem Taken.visited_take (h : Taken lines StartLine s done)
    (hlist : s.SearchList = i :: rest) (j : Fin m) :
    (takeEdge i rest s).vEdge[j].bVisited = true ↔
      j ∈ (takeEdge i rest s).SearchList ∨ j ∈ i :: done := by
  have hsplit : s.vEdge[j].bVisited = true ↔ j ∈ rest ∨ j ∈ i :: done := by
    rw [h.visited, hlist, List.mem_cons, List.mem_cons, or_assoc, or_left_comm]
  rw [takeEdge_visited, mem_takeEdge, hsplit]
  constructor
  · intro hj
    by_cases hold : j ∈ rest ∨ j ∈ i :: done
    · exact hold.imp_left Or.inl
    · exact Or.inl (Or.inr ⟨hold, hj.resolve_left hold⟩)
  · intro hj
    rcases hj with (hr | hnew) | hd
    · exact Or.inl (Or.inl hr)
    · exact Or.inr hnew.right
    · exact Or.inl (Or.inr hd)

theorem Taken.take (h : Taken lines StartLine s done)
    (hlist : s.SearchList = i :: rest) :
    Taken lines StartLine (takeEdge i rest s) (i :: done) := by
  have hinList : i ∈ s.SearchList := by
    rw [hlist]
    exact List.mem_cons_self
  have hout : i ∉ done := ((h.listed i).mp hinList).left
  have hrest : forall j, j ∈ rest -> s.vEdge[j].bVisited = true := by
    intro j hj
    exact (h.visited j).mpr (Or.inl ((h.listed j).mpr ((h.mem_iff hlist).mp hj).right))
  have hnodup := h.nodupList
  rw [hlist] at hnodup
  refine ⟨takeEdge_ends.trans h.ends_eq, h.listed_take hlist, h.visited_take hlist,
    takeEdge_nodup (List.nodup_cons.mp hnodup).right hrest,
    List.nodup_cons.mpr ⟨hout, h.nodupDone⟩, rfl, ?_⟩
  rw [takeEdge_root, if_pos rfl]
  apply h.linked.congr
  intro e he
  have hne : e ≠ i := by
    intro heq
    rw [heq] at he
    exact hout he
  rw [takeEdge_root, if_neg hne]

/-!
## The end
-/

variable (LineVec : Vector (Line Point) n) (EndLine : Fin n)

/-- One of the lines of the edge has the number of the end line. -/
def AtEnd (lines : Fin m -> Fin n × Fin n) (i : Fin m) : Prop :=
  exists p, Touches lines i p ∧ LineVec[p].nLineId = LineVec[EndLine].nLineId

variable {LineVec EndLine}

theorem atLine_iff (h : ends s.vEdge = lines) :
    atLine LineVec EndLine s.vEdge[i] = true ↔ AtEnd LineVec EndLine lines i := by
  rw [atLine, Bool.or_eq_true, decide_eq_true_iff, decide_eq_true_iff, ← h]
  constructor
  · intro hid
    rcases hid with h1 | h2
    · exact ⟨_, Or.inl rfl, h1⟩
    · exact ⟨_, Or.inr rfl, h2⟩
  · intro hat
    rcases hat with ⟨p, htouches, hid⟩
    rcases htouches with h1 | h2
    · rw [← h1] at hid
      exact Or.inl hid
    · rw [← h2] at hid
      exact Or.inr hid

theorem Taken.linked_end (h : Taken lines StartLine s done)
    (hin : i ∈ s.SearchList) :
    Linked (linkRoot i s).vEdge (linkRoot i s).pEdgeRoot (i :: done) := by
  refine ⟨rfl, ?_⟩
  rw [linkRoot_edge]
  show Linked _ (if i = i then s.pEdgeRoot else s.vEdge[i].Root) done
  rw [if_pos rfl]
  apply h.linked.congr
  intro e he
  have hne : e ≠ i := by
    intro heq
    rw [heq] at he
    exact ((h.listed i).mp hin).left he
  rw [linkRoot_edge]
  exact if_neg hne

end

end CFindPathScript
end Game
end BnsKorea
