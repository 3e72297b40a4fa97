import BnsKorea.Trade.Queues

/-!
# Handing entries out once

A poll only takes an entry that nobody took, and what it took stays with the
warehouse until the entry is gone and the player joins again.
-/

namespace BnsKorea

open Library

namespace CBnsTrade

variable {T : MyTools} {A : CBnsArea} {ulNow : ULONGLONG}

/-!
## Entries that were handed out
-/

/-- The warehouse has taken the entry, and the entry says so. -/
structure HandedTo (wareHouseInfo : WareHouseInfo) (itm : ItemSupportInfo) :
    Prop where
  taken : itm.bTake = true
  status : itm.emDealStatus = .channel
  name : itm.wareHouseInfo.wsWareHouseName = wareHouseInfo.wsWareHouseName
  channel : itm.wareHouseInfo.dwChannel = wareHouseInfo.dwChannel

/-- What the queue still has of the player is handed to the warehouse. -/
def Handed (A : CBnsArea) (who : WString × List DWORD)
    (wareHouseInfo : WareHouseInfo) (vlst : List ItemSupportInfo) : Prop :=
  forall itm, itm ∈ vlst -> player A itm = who -> HandedTo wareHouseInfo itm

/-- The call is a join of the player that finds no entry of it. -/
def Rejoins (T : MyTools) (A : CBnsArea) (q : Queue)
    (who : WString × List DWORD) (ulNow : ULONGLONG) (call : Call)
    (s : CBnsTrade) : Prop :=
  exists verItemSupport Result, call = .join q verItemSupport Result ∧
    playerOf A verItemSupport = who ∧
    (existItemSupport T A ulNow verItemSupport (s.queue q)).1 = none

section

variable {who : WString × List DWORD} {wareHouseInfo : WareHouseInfo}

theorem Handed.sublist {before after : List ItemSupportInfo}
    (h : Handed A who wareHouseInfo before) (hleft : after.Sublist before) :
    Handed A who wareHouseInfo after :=
  fun itm hitm hplayer => h itm (hleft.subset hitm) hplayer

theorem joinDeal_handed {verItemSupport : VerItemSupport}
    {Result : ItemSupportResult} {vlst : List ItemSupportInfo}
    (h : Handed A who wareHouseInfo vlst)
    (hfinds : playerOf A verItemSupport = who ->
      (existItemSupport T A ulNow verItemSupport vlst).1 ≠ none) :
    Handed A who wareHouseInfo
      (joinDeal T A ulNow verItemSupport Result vlst).2 := by
  have hleft := h.sublist (existItemSupport_sublist (T := T) (A := A) ulNow
    verItemSupport vlst)
  intro itm hitm hplayer
  cases hfound : (existItemSupport T A ulNow verItemSupport vlst).1 with
  | some p =>
      rcases existItemSupport_found hfound with ⟨hwhole, hself⟩
      rw [(joinDeal_found hfound).left] at hitm
      rcases Place.mem_whole_of_mem_put hitm with heq | hmem
      · rw [heq] at hplayer ⊢
        have hhere : p.here ∈
            (existItemSupport T A ulNow verItemSupport vlst).2 :=
          hwhole ▸ Place.mem_whole
        have hold := hleft p.here hhere (hself.trans hplayer)
        exact ⟨hold.taken, hold.status, hold.name, hold.channel⟩
      · rw [hwhole] at hmem
        exact hleft itm hmem hplayer
  | none =>
      rw [joinDeal_missed hfound] at hitm
      rcases List.mem_append.mp hitm with hmem | hnew
      · exact hleft itm hmem hplayer
      · rw [List.mem_singleton.mp hnew] at hplayer
        exact absurd hfound (hfinds hplayer)

theorem Searches.handed {q : Queue} {house searched taking : WareHouseInfo}
    {s : CBnsTrade} {after : WarehouseActionResult × CBnsTrade}
    {bUnSameChannel : Bool}
    (hsearches : Searches T A ulNow q house s after searched taking
      bUnSameChannel) (h : Handed A who wareHouseInfo (s.queue q)) :
    Handed A who wareHouseInfo (after.2.queue q) := by
  rcases hsearches.met with ⟨kept, hkept, hmet⟩
  intro itm' hitm' hplayer
  rcases exists_met hmet hitm' with ⟨itm, hitm, hmeets⟩
  rw [met_player hmeets] at hplayer
  have hold := h itm (hkept.subset hitm) hplayer
  rw [met_of_taken hmeets hold.taken]
  exact hold

theorem apply_handed {s : CBnsTrade} {q : Queue} {call : Call}
    (h : Handed A who wareHouseInfo (s.queue q))
    (hstays : ¬ Rejoins T A q who ulNow call s) :
    Handed A who wareHouseInfo ((apply T A ulNow call s).queue q) := by
  cases call with
  | join q' verItemSupport Result =>
      rcases join_queue (T := T) (A := A) ulNow q' verItemSupport
        Result s with ⟨_, hown, hothers⟩
      by_cases hq : q = q'
      · rw [apply, hq, hown]
        rw [hq] at h hstays
        apply joinDeal_handed h
        intro hplayer hnone
        exact hstays ⟨verItemSupport, Result, rfl, hplayer, hnone⟩
      · rw [apply, hothers q hq]
        exact h
  | accept q' house Result =>
      rcases accept_searches (T := T) (A := A) ulNow q' house Result s
        with ⟨searched, taking, hsearches⟩
      by_cases hq : q = q'
      · rw [hq] at h ⊢
        exact hsearches.handed h
      · rw [apply, hsearches.others q hq]
        exact h
  | removeAccount wsAccountName wsPlayerName =>
      exact h.sublist (removeAccount_queue wsAccountName wsPlayerName s q)

theorem Searches.picked {q : Queue} {house searched taking : WareHouseInfo}
    {s : CBnsTrade} {after : WarehouseActionResult × CBnsTrade}
    {bUnSameChannel : Bool}
    (hsearches : Searches T A ulNow q house s after searched taking
      bUnSameChannel) (hpick : after.1.emIsPick = .pick) :
    exists itm e, itm ∈ s.queue q ∧ itm.bTake = false ∧
      e ∈ after.2.queue q ∧ HandedTo house e ∧
      player A itm = (after.1.wsPlayerName, A.areaOf house.dwServerId) ∧
      player A e = (after.1.wsPlayerName, A.areaOf house.dwServerId) := by
  rcases hsearches.pick hpick with ⟨e, he, hname⟩
  rcases existWareHouse_pick he with ⟨hmem, itm, hitm, hfree, hlisted, htaken⟩
  rw [isListed, Bool.and_eq_true, CBnsArea.isSame_Area_iff,
    hsearches.searched_same.server] at hlisted
  have hplayer : player A itm =
      (after.1.wsPlayerName, A.areaOf house.dwServerId) := by
    rw [hname, htaken]
    exact Prod.ext rfl hlisted.left
  rw [← hsearches.queue] at hmem
  refine ⟨itm, e, hitm, hfree, hmem, ?_, hplayer, ?_⟩
  · rw [htaken]
    exact ⟨rfl, rfl, hsearches.taking_same.name, hsearches.taking_same.channel⟩
  · rw [← hplayer, htaken]
    rfl

end

theorem handed_of_pick {s : CBnsTrade} (hs : Unique A s) {q : Queue}
    {wareHouseInfo : WareHouseInfo} {Result : WarehouseActionResult}
    (hpick : (accept T A ulNow q wareHouseInfo Result s).1.emIsPick = .pick) :
    Handed A ((accept T A ulNow q wareHouseInfo Result s).1.wsPlayerName,
        A.areaOf wareHouseInfo.dwServerId) wareHouseInfo
      ((accept T A ulNow q wareHouseInfo Result s).2.queue q) := by
  rcases accept_searches (T := T) (A := A) ulNow q wareHouseInfo
    Result s with ⟨searched, taking, hsearches⟩
  rcases hsearches.picked hpick with ⟨_, e, _, _, he, hhanded, _, hplayer⟩
  have hafter : Unique A (accept T A ulNow q wareHouseInfo Result s).2 :=
    apply_unique hs ulNow (.accept q wareHouseInfo Result)
  intro itm hitm hwho
  have hsame : itm = e :=
    List.inj_on_of_nodup_map (hafter q) hitm he (hwho.trans hplayer.symm)
  rw [hsame]
  exact hhanded

theorem join_of_handed {s : CBnsTrade} {q : Queue} {who : WString × List DWORD}
    {wareHouseInfo : WareHouseInfo} (h : Handed A who wareHouseInfo (s.queue q))
    {verItemSupport : VerItemSupport} (hwho : playerOf A verItemSupport = who)
    (Result : ItemSupportResult) :
    (join T A ulNow q verItemSupport Result s).1 =
        { wsWareHouseName := wareHouseInfo.wsWareHouseName
          dwChannel := wareHouseInfo.dwChannel
          emDealStatus := .channel } ∨
      ((forall itm, itm ∈ s.queue q -> player A itm = who ->
          isTimeOut ulNow itm = true) ∧
        forall itm,
          itm ∈ (join T A ulNow q verItemSupport Result s).2.queue q ->
          player A itm = who -> itm.bTake = false) := by
  rcases join_queue (T := T) (A := A) ulNow q verItemSupport Result s
    with ⟨hanswer, hown, _⟩
  cases hfound : (existItemSupport T A ulNow verItemSupport (s.queue q)).1 with
  | some p =>
      rcases existItemSupport_found hfound with ⟨hwhole, hself⟩
      have hhere : p.here ∈ s.queue q := by
        apply (existItemSupport_sublist ulNow verItemSupport (s.queue q)).subset
        rw [← hwhole]
        exact Place.mem_whole
      have hhanded := h p.here hhere (hself.trans hwho)
      rw [hanswer, (joinDeal_found hfound).right hhanded.status, hhanded.name,
        hhanded.channel]
      exact Or.inl rfl
  | none =>
      rcases existItemSupport_missed hfound with ⟨htimeOut, hleft⟩
      rw [hown, joinDeal_missed hfound]
      rw [hwho] at htimeOut hleft
      refine Or.inr ⟨htimeOut, ?_⟩
      intro itm hitm hplayer
      rcases List.mem_append.mp hitm with hmem | hnew
      · exact absurd hplayer (hleft itm hmem)
      · rw [List.mem_singleton.mp hnew]
        rfl

/--
After a poll took an entry of a player, and until the player joins without an
entry, what the queue has of the player is taken, no poll picks the player, and
a join of the player is answered with the warehouse that took it and with its
channel, or comes when the timers ran out and leaves the taken entry out.
-/
theorem Reachable.handed_out_once {s : Clocked CBnsTrade}
    (h : Reachable T A s) {ulNow : ULONGLONG} {q : Queue}
    {wareHouseInfo : WareHouseInfo} {Result : WarehouseActionResult}
    (hpick : (accept T A ulNow q wareHouseInfo Result s.state).1.emIsPick =
      .pick) :
    let taken := accept T A ulNow q wareHouseInfo Result s.state
    let who := (taken.1.wsPlayerName, A.areaOf wareHouseInfo.dwServerId)
    forall t : Clocked CBnsTrade,
      (machine T A).Run (fun l s => ¬ Rejoins T A q who l.1 l.2 s.state)
        { now := ulNow, state := taken.2 } t ->
      (forall itm, itm ∈ t.state.queue q -> player A itm = who ->
        itm.bTake = true) ∧
      (forall ulLater house Result,
        let polled := accept T A ulLater q house Result t.state
        polled.1.emIsPick = .pick ->
        A.isSame_Area T house.dwServerId wareHouseInfo.dwServerId = true ->
        polled.1.wsPlayerName ≠ taken.1.wsPlayerName) ∧
      forall ulLater verItemSupport Result,
        verItemSupport.wsPlayerName = taken.1.wsPlayerName ->
        A.isSame_Area T verItemSupport.dwServerId wareHouseInfo.dwServerId =
          true ->
        let joined := join T A ulLater q verItemSupport Result t.state
        joined.1 =
            { wsWareHouseName := wareHouseInfo.wsWareHouseName
              dwChannel := wareHouseInfo.dwChannel
              emDealStatus := .channel } ∨
          ((forall itm, itm ∈ t.state.queue q -> player A itm = who ->
              isTimeOut ulLater itm = true) ∧
            forall itm, itm ∈ joined.2.queue q -> player A itm = who ->
              itm.bTake = false) := by
  intro taken who t hrun
  have hhanded : Handed A who wareHouseInfo (t.state.queue q) := by
    refine Machine.Run.invariant
      (fun t => Handed A who wareHouseInfo (t.state.queue q)) ?_ hrun
      (handed_of_pick h.unique hpick)
    intro l t _ hstays hhanded
    exact apply_handed hhanded hstays
  refine ⟨fun itm hitm hplayer => (hhanded itm hitm hplayer).taken, ?_, ?_⟩
  · intro ulLater house Result polled hpolled harea hname
    rcases accept_searches (T := T) (A := A) ulLater q house Result
      t.state with ⟨searched, taking, hsearches⟩
    rcases hsearches.picked hpolled with ⟨itm, _, hitm, hfree, _, _, hplayer, _⟩
    rw [(CBnsArea.isSame_Area_iff T A).mp harea] at hplayer
    have hwho : player A itm = who := hplayer.trans (congrArg (·, _) hname)
    rw [(hhanded itm hitm hwho).taken] at hfree
    cases hfree
  · intro ulLater verItemSupport Result hname harea
    have hwho : playerOf A verItemSupport = who :=
      Prod.ext hname ((CBnsArea.isSame_Area_iff T A).mp harea)
    exact join_of_handed hhanded hwho Result

def depot : WareHouseInfo where
  wsWareHouseName := L "Depot"
  dwChannel := 3
  dwServerId := 0x17
  ulTick := 20

def depotCalls : List (ULONGLONG × Call) :=
  [(10, Call.join .itemSupport
    { dwServerId := 0x4
      wsPlayerName := L "Anna"
      wsAccountName := L "anna"
      vWareHouse := [L "Depot"] } {})]

def depotState : Clocked CBnsTrade :=
  (machine MyTools.standard CBnsArea.initialized).play depotCalls
    { now := 0, state := {} }

theorem depotState_reachable :
    Reachable MyTools.standard CBnsArea.initialized depotState :=
  Machine.Admits.reaches (by decide)

def depotTaken : WarehouseActionResult × CBnsTrade :=
  accept MyTools.standard CBnsArea.initialized 20 .itemSupport depot
    { emWarehouseType := .itemSupport, emIsPick := .none } depotState.state

/-- Whoever polls for the area afterwards is not given Anna. -/
theorem depotState_handed_out_once :
    depotTaken.1.wsPlayerName = L "Anna" ∧
      forall ulLater house Result,
        let polled := accept MyTools.standard CBnsArea.initialized ulLater
          .itemSupport house Result depotTaken.2
        polled.1.emIsPick = .pick ->
        CBnsArea.initialized.isSame_Area MyTools.standard house.dwServerId
          depot.dwServerId = true ->
        polled.1.wsPlayerName ≠ depotTaken.1.wsPlayerName := by
  have hpick : depotTaken.1.emIsPick = .pick := by decide
  have honce := Reachable.handed_out_once depotState_reachable hpick
    { now := 20, state := depotTaken.2 } (Machine.Run.refl _)
  exact ⟨by decide, honce.right.left⟩

def annaJoin : VerItemSupport where
  dwServerId := 0x4
  wsPlayerName := L "Anna"
  wsAccountName := L "anna"
  vWareHouse := [L "Depot"]

def depotAsked : CBnsTrade :=
  (join MyTools.standard CBnsArea.initialized 10020 .itemSupport annaJoin {}
    depotTaken.2).2

/--
Fifteen seconds after the hand-out her taken entry is still in the queue, and
her join is answered that no warehouse took it.
-/
theorem depotAsked_join_after_timeout :
    Reachable MyTools.standard CBnsArea.initialized
        { now := 10020, state := depotAsked } ∧
      depotTaken.1.emIsPick = .pick ∧
      (exists itm, itm ∈ depotAsked.queue .itemSupport ∧ itm.bTake = true ∧
        itm.verItemSupport.wsPlayerName = depotTaken.1.wsPlayerName) ∧
      (join MyTools.standard CBnsArea.initialized 15020 .itemSupport annaJoin {}
        depotAsked).1.emDealStatus = .none := by
  have hcalls : Reachable MyTools.standard CBnsArea.initialized
      ((machine MyTools.standard CBnsArea.initialized).play
        (depotCalls ++
          [(20, .accept .itemSupport depot
            { emWarehouseType := .itemSupport, emIsPick := .none }),
            (10020, .join .itemSupport annaJoin {})])
        { now := 0, state := {} }) :=
    Machine.Admits.reaches (by decide)
  refine ⟨hcalls, by decide, ?_, by decide⟩
  have hany : (depotAsked.queue .itemSupport).any (fun itm =>
      itm.bTake && itm.verItemSupport.wsPlayerName == depotTaken.1.wsPlayerName) =
        true := by
    decide
  rcases List.any_eq_true.mp hany with ⟨itm, hitm, hboth⟩
  rw [Bool.and_eq_true, beq_iff_eq] at hboth
  exact ⟨itm, hitm, hboth⟩

end CBnsTrade
end BnsKorea
