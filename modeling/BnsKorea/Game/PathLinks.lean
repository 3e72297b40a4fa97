import BnsKorea.Game.PathRuns

/-!
# The way that is read back

The links lead from each edge to the one that was taken before it, wherever that
one lies.  So the way that is read back is a walk only where the search walks: the
edge it takes must be at the line it came to last, among all it could take.
-/

namespace BnsKorea
namespace Game
namespace CFindPathScript

open Library.EdgeWalks

variable {Point Dis : Type} {n m : Nat}

/-- The chain of the links is a walk of the graph, and so are the lines printed. -/
structure LeadsBack (vEdge : Vector (Edge Point Dis n m) m)
    (StartLine EndLine : Fin n) (r : Found Point Dis n m) : Prop where
  walk : exists chain, Linked r.search.vEdge r.search.pEdgeRoot chain ∧
    IsWalk (ends vEdge) StartLine EndLine chain
  joined : (r.printed.map PrintedLine.pNowLine).IsChain (Joined (ends vEdge))
  fromEnd : (r.printed.map PrintedLine.pNowLine).head? = some EndLine
  toStart : (r.printed.map PrintedLine.pNowLine).getLast? = some StartLine

def DistinctIds (LineVec : Vector (Line Point) n) : Prop :=
  forall p q : Fin n, LineVec[p].nLineId = LineVec[q].nLineId -> p = q

/-- Wherever a walk by nearest edges has come, all nearest edges are at hand. -/
def AtHand [LinearOrder Dis] (G : Distances Point Dis)
    (LineVec : Vector (Line Point) n) (EndPoint : Point)
    (lines : Fin m -> Fin n × Fin n) (StartLine EndLine : Fin n) : Prop :=
  forall es p, Ahead lines (weight G LineVec EndPoint lines) StartLine EndLine es p ->
    forall i, Nearest lines (weight G LineVec EndPoint lines) StartLine es i ->
      Touches lines i p

/-!
## The lines that are printed
-/

section

variable {LineVec : Vector (Line Point) n}
  {vEdge : Vector (Edge Point Dis n m) m} {StartPoint : Point}

theorem side_of_touches (hids : DistinctIds LineVec) {e : Fin m} {p : Fin n}
    (h : Touches (ends vEdge) e p) :
    (side LineVec vEdge[e] p).1 = p ∧
      (side LineVec vEdge[e] p).2.2 = across (ends vEdge) e p := by
  by_cases hid : LineVec[vEdge[e].pLine1].nLineId = LineVec[p].nLineId
  · have hline : vEdge[e].pLine1 = p := hids _ _ hid
    rw [side, if_pos hid]
    exact ⟨hline, (if_pos hline).symm⟩
  · have hline : ¬ vEdge[e].pLine1 = p := fun heq =>
      hid (congrArg (fun q : Fin n => LineVec[q].nLineId) heq)
    rw [side, if_neg hid]
    exact ⟨h.resolve_left hline, (if_neg hline).symm⟩

theorem Linked.printed_stops (hids : DistinctIds LineVec)
    {pEdgeRoot : Option (Fin m)} {es : List (Fin m)} {t p : Fin n}
    (h : Linked vEdge pEdgeRoot es) (hwalk : IsWalk (ends vEdge) t p es)
    {fuel : Nat} {TarPoint : Point} {pLink : Option Point}
    {printed : List (PrintedLine Point n)}
    (hprint : CFindPathScript.printLines LineVec vEdge StartPoint fuel pEdgeRoot p
      TarPoint pLink = some printed) :
    printed.map PrintedLine.pNowLine = stops (ends vEdge) p es := by
  induction es generalizing pEdgeRoot p fuel TarPoint pLink printed with
  | nil =>
      cases fuel with
      | zero => cases hprint
      | succ fuel =>
          rw [show pEdgeRoot = none from h] at hprint
          rcases Option.bind_eq_some_iff.mp hprint with ⟨link, _, hlink⟩
          rw [← Option.some.inj hlink]
          rfl
  | cons e es ih =>
      cases fuel with
      | zero => cases hprint
      | succ fuel =>
          rw [h.left, printLines_some rfl] at hprint
          rcases Option.map_eq_some_iff.mp hprint with ⟨rest, hrest, heq⟩
          rcases side_of_touches hids hwalk.left with ⟨hline, hacross⟩
          rw [hacross] at hrest
          rw [← heq, List.map_cons, ih h.right hwalk.right hrest, hline]
          rfl

theorem leadsBack_of_walk (hids : DistinctIds LineVec) {StartLine EndLine : Fin n}
    {EndPoint : Point} {r : Found Point Dis n m} {chain : List (Fin m)} {fuel : Nat}
    (hends : ends r.search.vEdge = ends vEdge)
    (hlinked : Linked r.search.vEdge r.search.pEdgeRoot chain)
    (hwalk : IsWalk (ends vEdge) StartLine EndLine chain)
    (hprint : printLines LineVec r.search.vEdge StartPoint fuel r.search.pEdgeRoot
      EndLine EndPoint none = some r.printed) :
    LeadsBack vEdge StartLine EndLine r := by
  have hstops : r.printed.map PrintedLine.pNowLine =
      stops (ends vEdge) EndLine chain := by
    rw [← hends]
    rw [← hends] at hwalk
    exact hlinked.printed_stops hids hwalk hprint
  refine ⟨⟨chain, hlinked, hwalk⟩, ?_, ?_, ?_⟩
  · rw [hstops]
    exact hwalk.isChain_stops
  · rw [hstops]
    exact head?_stops EndLine chain
  · rw [hstops]
    exact hwalk.getLast?_stops

theorem Linked.unique {pEdgeRoot : Option (Fin m)} {es es' : List (Fin m)}
    (h : Linked vEdge pEdgeRoot es) (h' : Linked vEdge pEdgeRoot es') :
    es = es' := by
  induction es generalizing pEdgeRoot es' with
  | nil =>
      cases es' with
      | nil => rfl
      | cons e' es' => cases h'.left.symm.trans h
  | cons e es ih =>
      cases es' with
      | nil => cases h.left.symm.trans h'
      | cons e' es' =>
          have heq : e = e' := Option.some.inj (h.left.symm.trans h'.left)
          have hrest := h'.right
          rw [← heq] at hrest
          rw [ih h.right hrest, heq]

end

/-!
## Walking searches
-/

section

variable [LinearOrder Dis] {G : Distances Point Dis} {S : StdSort Dis}
  {LineVec : Vector (Line Point) n} {vEdge : Vector (Edge Point Dis n m) m}
  {StartLine EndLine : Fin n} {StartPoint EndPoint : Point}
  {lines : Fin m -> Fin n × Fin n} {i : Fin m}

theorem atEnd_iff (hids : DistinctIds LineVec) :
    AtEnd LineVec EndLine lines i ↔ Touches lines i EndLine := by
  constructor
  · intro hat
    rcases hat with ⟨p, htouches, hid⟩
    rwa [hids p EndLine hid] at htouches
  · intro htouches
    exact ⟨EndLine, htouches, rfl⟩

theorem bFind_iff (hids : DistinctIds LineVec) (hne : StartLine ≠ EndLine)
    {r : Bool × Search Point Dis n m}
    (h : Ran G S LineVec EndLine EndPoint (ends vEdge) StartLine
      (Passed LineVec EndLine (ends vEdge) StartLine) r) :
    r.1 = true ↔ Reach (ends vEdge) StartLine EndLine := by
  have hid : LineVec[StartLine].nLineId ≠ LineVec[EndLine].nLineId :=
    fun heq => hne (hids StartLine EndLine heq)
  rw [h.reach_iff hid]
  constructor
  · intro hreach
    rcases hreach with ⟨p, hp, hreach⟩
    rwa [hids p EndLine hp] at hreach
  · intro hreach
    exact ⟨EndLine, rfl, hreach⟩

theorem ahead_kept (hids : DistinctIds LineVec)
    (hhand : AtHand G LineVec EndPoint lines StartLine EndLine) :
    Kept G S LineVec EndLine EndPoint lines StartLine fun done =>
      exists p, Ahead lines (weight G LineVec EndPoint lines) StartLine EndLine
        done p := by
  intro s done i htaken hahead hpick hend
  rcases hahead with ⟨p, hahead⟩
  have hnearest := hpick.nearest htaken
  rw [atEnd_iff hids] at hend
  exact ⟨_, hahead.step hnearest (hhand done p hahead i hnearest) hend⟩

theorem Ran.isWalk (hids : DistinctIds LineVec) (hne : StartLine ≠ EndLine)
    (hhand : AtHand G LineVec EndPoint lines StartLine EndLine)
    {s : Search Point Dis n m}
    (h : Ran G S LineVec EndLine EndPoint lines StartLine
      (fun done => exists p,
        Ahead lines (weight G LineVec EndPoint lines) StartLine EndLine done p)
      (true, s)) :
    ends s.vEdge = lines ∧
      exists chain, Linked s.vEdge s.pEdgeRoot chain ∧
        IsWalk lines StartLine EndLine chain := by
  cases h with
  | there htaken hahead hpick hend hlinked hends =>
      rcases hahead with ⟨p, hahead⟩
      have htouches := hhand _ p hahead _ (hpick.nearest htaken)
      rw [atEnd_iff hids] at hend
      refine ⟨hends, _, hlinked, hend, ?_⟩
      rw [across_of_ne hend htouches (hahead.ne_target hne).symm]
      exact hahead.isWalk

/-!
## Sorts that follow a list
-/

theorem idxOf_of_not_mem {before front : List (Fin m)} {e i : Fin m}
    (hnew : i ∉ before) :
    ((before ++ e :: front).map Fin.val).idxOf i.val =
      before.length + ((e :: front).map Fin.val).idxOf i.val := by
  have hval : i.val ∉ before.map Fin.val := by
    intro hmem
    rcases List.mem_map.mp hmem with ⟨j, hj, heq⟩
    rw [Fin.ext heq] at hj
    exact hnew hj
  rw [List.map_append, List.idxOf_append_of_notMem hval, List.length_map]

theorem Picks.follows {l : List (Fin m)} {w : Fin m -> Dis} {i e : Fin m}
    {before front : List (Fin m)}
    (hpick : Picks (StdSort.byOrder ((before ++ e :: front).map Fin.val)) w l i)
    (he : e ∈ l) (hle : w e ≤ w i) (hnew : i ∉ before) (henew : e ∉ before) :
    i = e := by
  rcases hpick with ⟨key, hkey, hhead⟩
  have hperm := (StdSort.byOrder ((before ++ e :: front).map Fin.val)).perm key l
  have hsorted := pairwise_byOrder ((before ++ e :: front).map Fin.val) key l
  rcases List.head?_eq_some_iff.mp hhead with ⟨rest, hlist⟩
  rw [hlist] at hperm
  rw [show l.insertionSort _ = i :: rest from hlist] at hsorted
  have hin : i ∈ l := hperm.mem_iff.mp List.mem_cons_self
  rcases List.mem_cons.mp (hperm.mem_iff.mpr he) with heq | hrest
  · exact heq.symm
  · by_contra hne
    have hval : e.val ≠ i.val := fun heq => hne (Fin.ext heq.symm)
    rcases (List.pairwise_cons.mp hsorted).left e hrest with hlt | ⟨_, hidx⟩
    · rw [hkey i hin, hkey e he] at hlt
      exact absurd hlt (not_lt_of_ge hle)
    · rw [idxOf_of_not_mem hnew, idxOf_of_not_mem henew, List.map_cons,
        List.idxOf_cons_self, List.idxOf_cons_ne _ hval] at hidx
      omega

/-- The edges that are taken run along the list, or past it. -/
def Along (whole done : List (Fin m)) : Prop :=
  done <:+ whole ∨ whole <:+ done

theorem Picks.along {s : Search Point Dis n m} {whole done : List (Fin m)}
    (hwhole : forall e es, e :: es <:+ whole ->
      Nearest lines (weight G LineVec EndPoint lines) StartLine es e)
    (htaken : Taken lines StartLine s done) (halong : Along whole done)
    (hpick : Picks (StdSort.byOrder (whole.reverse.map Fin.val))
      (weight G LineVec EndPoint lines) s.SearchList i) :
    Along whole (i :: done) := by
  rcases halong with hbefore | hpast
  · rcases hbefore with ⟨front, hfront⟩
    rcases List.eq_nil_or_concat front with hnil | ⟨front, e, hlast⟩
    · rw [hnil] at hfront
      rw [← show done = whole from hfront]
      exact Or.inr (List.suffix_cons i done)
    · have hsplit : whole = front ++ e :: done := by
        rw [← hfront, hlast, List.concat_eq_append, List.append_assoc]
        rfl
      have hsuffix : e :: done <:+ whole := ⟨front, hsplit.symm⟩
      have hnext := hwhole e done hsuffix
      have hnearest := hpick.nearest htaken
      have horder : whole.reverse = done.reverse ++ e :: front.reverse := by
        rw [hsplit, List.reverse_append, List.reverse_cons, List.append_assoc]
        rfl
      rw [horder] at hpick
      have hsame : i = e := by
        apply hpick.follows ((htaken.listed e).mpr hnext.listed)
          (hnext.least i hnearest.listed)
        · rw [List.mem_reverse]
          exact hnearest.listed.left
        · rw [List.mem_reverse]
          exact hnext.listed.left
      rw [hsame]
      exact Or.inl hsuffix
  · exact Or.inr (hpast.trans (List.suffix_cons i done))

theorem Ran.whole_suffix (hids : DistinctIds LineVec) {es : List (Fin m)} {p : Fin n}
    (hahead : Ahead lines (weight G LineVec EndPoint lines) StartLine EndLine es p)
    (hi : Nearest lines (weight G LineVec EndPoint lines) StartLine es i)
    {s : Search Point Dis n m}
    (h : Ran G (StdSort.byOrder ((i :: es).reverse.map Fin.val)) LineVec EndLine
      EndPoint lines StartLine (Along (i :: es)) (true, s)) :
    exists chain, Linked s.vEdge s.pEdgeRoot chain ∧ i :: es <:+ chain := by
  cases h with
  | there htaken halong hpick hend hlinked hends =>
      rename_i _ all last
      refine ⟨last :: all, hlinked, ?_⟩
      rcases hpick.along (hahead.nearest_cons hi) htaken halong with hbefore | hpast
      · rcases List.suffix_cons_iff.mp hbefore with heq | hinner
        · rw [heq]
        · -- the way stops short of the end line, and the last edge is at it
          rw [atEnd_iff hids] at hend
          have hmem : last ∈ es := hinner.subset List.mem_cons_self
          exact absurd hend (hahead.not_target hmem)
      · exact hpast

theorem touches_of_isWalk {w : Fin m -> Dis} {es chain : List (Fin m)} {p : Fin n}
    (hahead : Ahead lines w StartLine EndLine es p)
    (hwalk : IsWalk lines StartLine EndLine chain) (hsuffix : i :: es <:+ chain) :
    Touches lines i p := by
  rcases hsuffix with ⟨front, hfront⟩
  rw [← hfront] at hwalk
  rcases hwalk.suffix with ⟨q, htouches, hrest⟩
  have hplace : across lines i q = p := hrest.unique hahead.isWalk
  rw [← hplace]
  exact touches_across i q

/-!
## When the way is a walk
-/

theorem findPath_result_ran {P : List (Fin m) -> Prop}
    (hfresh : forall i : Fin m, vEdge[i].Fresh)
    (hkept : Kept G S LineVec EndLine EndPoint (ends vEdge) StartLine P)
    (hP : P []) {fuel : Nat} {r : Found Point Dis n m} (hfuel : m < fuel)
    (hr : findPath G S LineVec fuel vEdge StartLine EndLine StartPoint EndPoint =
      some r) :
    Ran G S LineVec EndLine EndPoint (ends vEdge) StartLine P
        (r.bFind, r.search) ∧
      (r.bFind = true ->
        printLines LineVec r.search.vEdge StartPoint fuel r.search.pEdgeRoot EndLine
          EndPoint none = some r.printed) := by
  rcases findPath_ran G S StartPoint EndPoint hfresh hkept hP with
    ⟨r', hran, hprint, hresult⟩
  have hsame : r' = r := Option.some.inj ((hresult fuel hfuel).symm.trans hr)
  rw [hsame] at hran hprint
  exact ⟨hran, fun hfound => hprint hfound fuel hfuel⟩

theorem findPath_result_bFind (hfresh : forall i : Fin m, vEdge[i].Fresh)
    (hids : DistinctIds LineVec) (hne : StartLine ≠ EndLine)
    {fuel : Nat} {r : Found Point Dis n m} (hfuel : m < fuel)
    (hr : findPath G S LineVec fuel vEdge StartLine EndLine StartPoint EndPoint =
      some r) :
    r.bFind = true ↔ Reach (ends vEdge) StartLine EndLine := by
  have hnil : Passed LineVec EndLine (ends vEdge) StartLine [] :=
    ⟨fun _ hd => (nomatch hd), fun _ hd => (nomatch hd)⟩
  have hran := findPath_result_ran hfresh (passed_kept (ends vEdge)) hnil hfuel hr
  exact bFind_iff hids hne hran.left

theorem leadsBack_of_atHand (hfresh : forall i : Fin m, vEdge[i].Fresh)
    (hids : DistinctIds LineVec) (hne : StartLine ≠ EndLine)
    (hhand : AtHand G LineVec EndPoint (ends vEdge) StartLine EndLine)
    {fuel : Nat} {r : Found Point Dis n m} (hfuel : m < fuel)
    (hr : findPath G S LineVec fuel vEdge StartLine EndLine StartPoint EndPoint =
      some r)
    (hfound : r.bFind = true) : LeadsBack vEdge StartLine EndLine r := by
  rcases findPath_result_ran hfresh (ahead_kept hids hhand) ⟨_, Ahead.start⟩ hfuel hr
    with ⟨hran, hprint⟩
  rw [hfound] at hran
  rcases hran.isWalk hids hne hhand with ⟨hends, chain, hlinked, hwalk⟩
  exact leadsBack_of_walk hids hends hlinked hwalk (hprint hfound)

theorem atHand_of_leadsBack (hfresh : forall i : Fin m, vEdge[i].Fresh)
    (hids : DistinctIds LineVec) (hne : StartLine ≠ EndLine)
    (hreach : Reach (ends vEdge) StartLine EndLine)
    (hback : forall (S : StdSort Dis) fuel r, m < fuel ->
      findPath G S LineVec fuel vEdge StartLine EndLine StartPoint EndPoint = some r ->
        r.bFind = true -> LeadsBack vEdge StartLine EndLine r) :
    AtHand G LineVec EndPoint (ends vEdge) StartLine EndLine := by
  intro es p hahead i hi
  let S : StdSort Dis := StdSort.byOrder ((i :: es).reverse.map Fin.val)
  have hwhole : forall e done, e :: done <:+ i :: es ->
      Nearest (ends vEdge) (weight G LineVec EndPoint (ends vEdge)) StartLine done e :=
    hahead.nearest_cons hi
  have hkept : Kept G S LineVec EndLine EndPoint (ends vEdge) StartLine
      (Along (i :: es)) := by
    intro s done j htaken halong hpick _
    exact hpick.along hwhole htaken halong
  rcases findPath_ran G S StartPoint EndPoint hfresh hkept
    (Or.inl (List.nil_suffix)) with ⟨r, hran, _, hresult⟩
  have hr := hresult (m + 1) (Nat.lt_succ_self m)
  have hfound : r.bFind = true :=
    (findPath_result_bFind hfresh hids hne (Nat.lt_succ_self m) hr).mpr hreach
  rw [hfound] at hran
  rcases hran.whole_suffix hids hahead hi with ⟨chain, hlinked, hsuffix⟩
  rcases (hback S (m + 1) r (Nat.lt_succ_self m) hr hfound).walk with
    ⟨chain', hlinked', hwalk⟩
  rw [hlinked'.unique hlinked] at hwalk
  exact touches_of_isWalk hahead hwalk hsuffix

/-- The way is a walk, however equal weights are sorted, if the search only walks. -/
theorem findPath_leadsBack_iff (hfresh : forall i : Fin m, vEdge[i].Fresh)
    (hids : DistinctIds LineVec)
    (hne : LineVec[StartLine].nLineId ≠ LineVec[EndLine].nLineId) :
    (forall (S : StdSort Dis) fuel r, m < fuel ->
        findPath G S LineVec fuel vEdge StartLine EndLine StartPoint EndPoint =
          some r ->
        r.bFind = true -> LeadsBack vEdge StartLine EndLine r) ↔
      (Reach (ends vEdge) StartLine EndLine ->
        AtHand G LineVec EndPoint (ends vEdge) StartLine EndLine) := by
  have hlines : StartLine ≠ EndLine := fun heq =>
    hne (congrArg (fun q : Fin n => LineVec[q].nLineId) heq)
  constructor
  · intro hback hreach
    exact atHand_of_leadsBack hfresh hids hlines hreach hback
  · intro hhand S fuel r hfuel hr hfound
    have hreach := (findPath_result_bFind hfresh hids hlines hfuel hr).mp hfound
    exact leadsBack_of_atHand hfresh hids hlines (hhand hreach) hfuel hr hfound

end

/-!
## A fork

The branch over the lines 1 and 4 comes nearer to the end point and ends there; the
way to the end line 3 is over the line 2.
-/

def forkLines : Vector (Line Int) 5 :=
  #v[{ vList := [0], nLineId := 0 }, { vList := [20, 160], nLineId := 1 },
    { vList := [-20, 210], nLineId := 2 }, { vList := [100, 200], nLineId := 3 },
    { vList := [140], nLineId := 4 }]

def forkEdges : Vector (Edge Int Nat 5 4) 4 :=
  #v[Edge.init straight 0 1 (0, 20), Edge.init straight 0 2 (0, -20),
    Edge.init straight 1 4 (160, 140), Edge.init straight 2 3 (210, 200)]

theorem vertexToEdge_fork :
    vertexToEdge straight forkLines = forkEdges.toList := rfl

theorem forkLines_distinct : DistinctIds forkLines := by
  show forall p q : Fin 5, forkLines[p].nLineId = forkLines[q].nLineId -> p = q
  decide

theorem forkEdges_not_back :
    vertexToEdge straight forkLines = forkEdges.toList ∧
      (forall i : Fin 4, forkEdges[i].Fresh) ∧ DistinctIds forkLines ∧
      exists r, findPath straight (StdSort.byOrder []) forkLines 5 forkEdges
          0 3 0 100 = some r ∧
        r.bFind = true ∧ r.search.pEdgeRoot = some 3 ∧
        r.search.vEdge.toList.map Edge.Root = [none, some 2, some 0, some 1] ∧
        r.printed.map PrintedLine.pNowLine = [3, 2, 4, 1, 0] ∧
        ¬ LeadsBack forkEdges 0 3 r := by
  refine ⟨rfl, fresh_of_vertexToEdge vertexToEdge_fork, forkLines_distinct, ?_⟩
  have hrun : (findPath straight (StdSort.byOrder []) forkLines 5 forkEdges
      0 3 0 100).map (fun r => (r.bFind, r.search.pEdgeRoot,
        r.search.vEdge.toList.map Edge.Root, r.printed.map PrintedLine.pNowLine)) =
      some (true, some 3, [none, some 2, some 0, some 1], [3, 2, 4, 1, 0]) := by
    decide +kernel
  rcases Option.map_eq_some_iff.mp hrun with ⟨r, hr, heq⟩
  simp only [Prod.mk.injEq] at heq
  rcases heq with ⟨hfound, hroot, hroots, hprinted⟩
  refine ⟨r, hr, hfound, hroot, hroots, hprinted, ?_⟩
  intro hback
  have hjoined := hback.joined
  rw [hprinted] at hjoined
  -- no edge joins the lines 2 and 4
  have hfork : Joined (ends forkEdges) 2 4 :=
    (List.isChain_cons_cons.mp (List.isChain_cons_cons.mp hjoined).right).left
  have hnone : ¬ exists e : Fin 4,
      ends forkEdges e = (2, 4) ∨ ends forkEdges e = (4, 2) := by decide
  exact hnone hfork

theorem findPath_leadsBack_iff_fork :
    (forall (S : StdSort Nat) fuel r, 4 < fuel ->
        findPath straight S forkLines fuel forkEdges 0 3 0 100 = some r ->
        r.bFind = true -> LeadsBack forkEdges 0 3 r) ↔
      (Reach (ends forkEdges) 0 3 ->
        AtHand straight forkLines 100 (ends forkEdges) 0 3) := by
  have hne : forkLines[(0 : Fin 5)].nLineId ≠ forkLines[(3 : Fin 5)].nLineId := by
    decide
  exact findPath_leadsBack_iff (fresh_of_vertexToEdge vertexToEdge_fork)
    forkLines_distinct hne

end CFindPathScript
end Game
end BnsKorea
