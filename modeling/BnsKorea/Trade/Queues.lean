import BnsKorea.Trade.Model

/-!
# What the calls do to a queue

Players are told apart by name and area.  A join finds the player's entry or
appends one, a poll meets the entries in turn and takes one at most, and either
throws entries away that ran out.  So a player has one entry in a queue at most.
-/

namespace BnsKorea

open Library

/-!
## Players
-/

namespace CBnsArea

/-- The ids of the server's area; a server outside the table is alone. -/
def areaOf (A : CBnsArea) (dwServerId : DWORD) : List DWORD :=
  Parts.partOf A.vecArea dwServerId

theorem isSame_Area_iff (T : MyTools) (A : CBnsArea)
    {dwServerId1 dwServerId2 : DWORD} :
    A.isSame_Area T dwServerId1 dwServerId2 = true ↔
      A.areaOf dwServerId1 = A.areaOf dwServerId2 := by
  rw [areaOf, areaOf, Parts.partOf_eq_iff A.listedOnce, isSame_Area]
  by_cases hsame : dwServerId1 = dwServerId2
  · simp [hsame]
  · rw [if_neg hsame, or_iff_right hsame]
    have hlisted : forall itm : List DWORD,
        (T.vecFindIfConst itm fun dwServerId =>
          dwServerId == dwServerId1).isSome = true ↔ dwServerId1 ∈ itm := by
      intro itm
      simp [List.find?_isSome]
    split
    · rename_i itm hfind
      have hmem := List.mem_of_find?_eq_some hfind
      have hin := List.find?_some hfind
      have hfirst := (hlisted itm).mp hin
      rw [T.vecExistIfConst_eq, List.any_beq, List.contains_iff_mem]
      constructor
      · intro hsecond
        exact ⟨itm, hmem, hfirst, hsecond⟩
      · intro hpart
        rcases hpart with ⟨part, hpart, hfirst', hsecond⟩
        rw [← Parts.partOf_of_mem A.listedOnce hmem hfirst,
          Parts.partOf_of_mem A.listedOnce hpart hfirst']
        exact hsecond
    · rename_i hfind
      constructor
      · intro h
        cases h
      · intro hpart
        rcases hpart with ⟨part, hpart, hfirst, _⟩
        exact absurd ((hlisted part).mpr hfirst)
          (List.find?_eq_none.mp hfind part hpart)

end CBnsArea

namespace CBnsTrade

variable {T : MyTools} {A : CBnsArea} {ulNow : ULONGLONG}

def playerOf (A : CBnsArea) (verItemSupport : VerItemSupport) :
    WString × List DWORD :=
  (verItemSupport.wsPlayerName, A.areaOf verItemSupport.dwServerId)

def player (A : CBnsArea) (itm : ItemSupportInfo) : WString × List DWORD :=
  playerOf A itm.verItemSupport

theorem isSelf_iff {verItemSupport : VerItemSupport} {itm : ItemSupportInfo} :
    isSelf T A verItemSupport itm = true ↔
      player A itm = playerOf A verItemSupport := by
  rw [isSelf, Bool.and_eq_true, beq_iff_eq, CBnsArea.isSame_Area_iff, player,
    playerOf, playerOf, Prod.mk.injEq]

/-!
## What a join does to its queue
-/

variable (ulNow) in
theorem existItemSupport_sublist (verItemSupport : VerItemSupport)
    (vlst : List ItemSupportInfo) :
    (existItemSupport T A ulNow verItemSupport vlst).2.Sublist vlst := by
  induction vlst with
  | nil => exact List.Sublist.refl []
  | cons itm vlst ih =>
      rw [existItemSupport]
      split
      · exact ih.cons itm
      · split
        · exact List.Sublist.refl _
        · exact ih.cons_cons itm

theorem existItemSupport_found {verItemSupport : VerItemSupport}
    {vlst : List ItemSupportInfo} {p : Place ItemSupportInfo}
    (h : (existItemSupport T A ulNow verItemSupport vlst).1 = some p) :
    p.whole = (existItemSupport T A ulNow verItemSupport vlst).2 ∧
      player A p.here = playerOf A verItemSupport := by
  induction vlst generalizing p with
  | nil => cases h
  | cons itm vlst ih =>
      rw [existItemSupport] at h ⊢
      split at h
      · rename_i hout
        rw [if_pos hout]
        exact ih h
      · rename_i hlive
        rw [if_neg hlive]
        split at h
        · rename_i hself
          cases h
          rw [if_pos hself]
          exact ⟨rfl, isSelf_iff.mp hself⟩
        · rename_i hother
          rw [if_neg hother]
          rcases Option.map_eq_some_iff.mp h with ⟨q, hq, heq⟩
          rcases ih hq with ⟨hwhole, hplayer⟩
          cases heq
          exact ⟨congrArg (itm :: ·) hwhole, hplayer⟩

theorem existItemSupport_missed {verItemSupport : VerItemSupport}
    {vlst : List ItemSupportInfo}
    (h : (existItemSupport T A ulNow verItemSupport vlst).1 = none) :
    (forall itm, itm ∈ vlst -> player A itm = playerOf A verItemSupport ->
        isTimeOut ulNow itm = true) ∧
      forall itm, itm ∈ (existItemSupport T A ulNow verItemSupport vlst).2 ->
        player A itm ≠ playerOf A verItemSupport := by
  induction vlst with
  | nil =>
      constructor
      · intro itm hitm
        cases hitm
      · intro itm hitm
        cases hitm
  | cons first vlst ih =>
      rw [existItemSupport] at h ⊢
      split at h
      · rename_i hout
        rcases ih h with ⟨htimeOut, hleft⟩
        rw [if_pos hout]
        refine ⟨?_, hleft⟩
        intro itm hitm hplayer
        rcases List.mem_cons.mp hitm with heq | hitm
        · rw [heq]
          exact hout
        · exact htimeOut itm hitm hplayer
      · rename_i hlive
        rw [if_neg hlive]
        split at h
        · cases h
        · rename_i hother
          rcases ih (Option.map_eq_none_iff.mp h) with ⟨htimeOut, hleft⟩
          rw [if_neg hother]
          have hfirst : player A first ≠ playerOf A verItemSupport :=
            fun hplayer => hother (isSelf_iff.mpr hplayer)
          constructor
          · intro itm hitm hplayer
            rcases List.mem_cons.mp hitm with heq | hitm
            · rw [heq] at hplayer
              exact absurd hplayer hfirst
            · exact htimeOut itm hitm hplayer
          · intro itm hitm
            rcases List.mem_cons.mp hitm with heq | hitm
            · rw [heq]
              exact hfirst
            · exact hleft itm hitm

def rejoined (ulNow : ULONGLONG) (verItemSupport : VerItemSupport)
    (itm : ItemSupportInfo) : ItemSupportInfo :=
  { itm with
    verItemSupport := verItemSupport
    ulKeepALiveTick := ulNow }

def newEntry (ulNow : ULONGLONG) (verItemSupport : VerItemSupport) :
    ItemSupportInfo where
  verItemSupport := verItemSupport
  wareHouseInfo := { wsWareHouseName := [], ulTick := ulNow }
  ulKeepALiveTick := ulNow

theorem joinDeal_found {verItemSupport : VerItemSupport}
    {Result : ItemSupportResult} {vlst : List ItemSupportInfo}
    {p : Place ItemSupportInfo}
    (h : (existItemSupport T A ulNow verItemSupport vlst).1 = some p) :
    (joinDeal T A ulNow verItemSupport Result vlst).2 =
        p.put (rejoined ulNow verItemSupport p.here) ∧
      (p.here.emDealStatus = .channel ->
        (joinDeal T A ulNow verItemSupport Result vlst).1 =
          { wsWareHouseName := p.here.wareHouseInfo.wsWareHouseName
            dwChannel := p.here.wareHouseInfo.dwChannel
            emDealStatus := .channel }) := by
  rcases p with ⟨pre, itm, post⟩
  rcases itm with ⟨ulTakeTick, bTake, old, emDealStatus, wareHouse, ulTick⟩
  rw [joinDeal, h]
  cases emDealStatus with
  | none =>
      refine ⟨rfl, ?_⟩
      intro hchannel
      cases hchannel
  | channel => exact ⟨rfl, fun _ => rfl⟩

theorem joinDeal_missed {verItemSupport : VerItemSupport}
    {Result : ItemSupportResult} {vlst : List ItemSupportInfo}
    (h : (existItemSupport T A ulNow verItemSupport vlst).1 = none) :
    (joinDeal T A ulNow verItemSupport Result vlst).2 =
      (existItemSupport T A ulNow verItemSupport vlst).2 ++
        [newEntry ulNow verItemSupport] := by
  rw [joinDeal, h]
  rfl

/-!
## What a poll does to its queue
-/

section

variable {wareHouseInfo : WareHouseInfo} {bUnSameChannel : Bool}
  {fn : ItemSupportInfo -> ItemSupportInfo}

def told (wareHouseInfo : WareHouseInfo) (itm : ItemSupportInfo) :
    ItemSupportInfo :=
  { itm with
    emDealStatus := .channel
    wareHouseInfo := wareHouseInfo }

/-- One entry of the queue, as the search meets it. -/
inductive Met (T : MyTools) (A : CBnsArea) (wareHouseInfo : WareHouseInfo)
    (fn : ItemSupportInfo -> ItemSupportInfo) (itm : ItemSupportInfo) :
    ItemSupportInfo -> Prop where
  | passed : Met T A wareHouseInfo fn itm itm
  | told (hfree : itm.bTake = false) :
      Met T A wareHouseInfo fn itm (told wareHouseInfo itm)
  | taken (hfree : itm.bTake = false)
      (hlisted : isListed T A wareHouseInfo itm = true) :
      Met T A wareHouseInfo fn itm (fn (told wareHouseInfo itm))

theorem existWareHouse_met (vlst : List ItemSupportInfo) :
    exists kept : List ItemSupportInfo, kept.Sublist vlst ∧
      List.Forall₂ (Met T A wareHouseInfo fn) kept
        (existWareHouse T A ulNow wareHouseInfo bUnSameChannel fn vlst).2 := by
  induction vlst with
  | nil => exact ⟨[], List.Sublist.refl [], List.Forall₂.nil⟩
  | cons itm vlst ih =>
      rcases ih with ⟨kept, hkept, hmet⟩
      rw [existWareHouse]
      split
      · exact ⟨kept, hkept.cons itm, hmet⟩
      · split
        · rename_i hpick
          rw [Bool.and_eq_true, Bool.not_eq_true'] at hpick
          dsimp only
          split
          · refine ⟨itm :: vlst, List.Sublist.refl _, List.Forall₂.cons
              (Met.taken hpick.right hpick.left) ?_⟩
            exact List.forall₂_same.mpr fun _ _ => Met.passed
          · exact ⟨itm :: kept, hkept.cons_cons itm,
              List.Forall₂.cons (Met.told hpick.right) hmet⟩
        · exact ⟨itm :: kept, hkept.cons_cons itm,
            List.Forall₂.cons Met.passed hmet⟩

theorem existWareHouse_pick {vlst : List ItemSupportInfo} {e : ItemSupportInfo}
    (h : (existWareHouse T A ulNow wareHouseInfo bUnSameChannel fn vlst).1 =
      some e) :
    e ∈ (existWareHouse T A ulNow wareHouseInfo bUnSameChannel fn vlst).2 ∧
      exists itm, itm ∈ vlst ∧ itm.bTake = false ∧
        isListed T A wareHouseInfo itm = true ∧
        e = fn (told wareHouseInfo itm) := by
  induction vlst with
  | nil => cases h
  | cons itm vlst ih =>
      have hlater : (existWareHouse T A ulNow wareHouseInfo bUnSameChannel fn
          vlst).1 = some e ->
          exists itm', itm' ∈ itm :: vlst ∧ itm'.bTake = false ∧
            isListed T A wareHouseInfo itm' = true ∧
            e = fn (told wareHouseInfo itm') := by
        intro h
        rcases (ih h).right with ⟨itm', hmem, hpick⟩
        exact ⟨itm', List.mem_cons_of_mem itm hmem, hpick⟩
      rw [existWareHouse] at h ⊢
      split at h
      · rename_i hout
        rw [if_pos hout]
        exact ⟨(ih h).left, hlater h⟩
      · rename_i hlive
        rw [if_neg hlive]
        split at h
        · rename_i hpick
          rw [if_pos hpick]
          dsimp only at h ⊢
          split at h
          · rename_i hchannel
            rw [if_pos hchannel]
            rw [Bool.and_eq_true, Bool.not_eq_true'] at hpick
            refine ⟨?_, itm, List.mem_cons_self, hpick.right, hpick.left,
              (Option.some.inj h).symm⟩
            rw [← Option.some.inj h]
            exact List.mem_cons_self
          · rename_i hchannel
            rw [if_neg hchannel]
            exact ⟨List.mem_cons_of_mem _ (ih h).left, hlater h⟩
        · rename_i hother
          rw [if_neg hother]
          exact ⟨List.mem_cons_of_mem _ (ih h).left, hlater h⟩

end

/-!
## One call
-/

/-- The fields of a warehouse that a poll does not change. -/
structure SameHouse (wareHouseInfo wareHouseInfo' : WareHouseInfo) : Prop where
  name : wareHouseInfo'.wsWareHouseName = wareHouseInfo.wsWareHouseName
  channel : wareHouseInfo'.dwChannel = wareHouseInfo.dwChannel
  server : wareHouseInfo'.dwServerId = wareHouseInfo.dwServerId

variable (ulNow) in
theorem renewTick_same (bRenew : Bool) (wareHouseInfo : WareHouseInfo) :
    SameHouse wareHouseInfo (renewTick ulNow bRenew wareHouseInfo) := by
  cases bRenew with
  | false => exact ⟨rfl, rfl, rfl⟩
  | true => exact ⟨rfl, rfl, rfl⟩

/-- A poll searches its own queue with the caller's warehouse. -/
structure Searches (T : MyTools) (A : CBnsArea) (ulNow : ULONGLONG) (q : Queue)
    (wareHouseInfo : WareHouseInfo) (s : CBnsTrade)
    (after : WarehouseActionResult × CBnsTrade)
    (searched taking : WareHouseInfo) (bUnSameChannel : Bool) : Prop where
  searched_same : SameHouse wareHouseInfo searched
  taking_same : SameHouse wareHouseInfo taking
  queue : after.2.queue q = (existWareHouse T A ulNow searched bUnSameChannel
    (takeItem ulNow taking) (s.queue q)).2
  others : forall q', q' ≠ q -> after.2.queue q' = s.queue q'
  pick : after.1.emIsPick = .pick ->
    exists e, (existWareHouse T A ulNow searched bUnSameChannel
        (takeItem ulNow taking) (s.queue q)).1 = some e ∧
      after.1.wsPlayerName = e.verItemSupport.wsPlayerName

theorem Searches.met {q : Queue} {house searched taking : WareHouseInfo}
    {s : CBnsTrade} {after : WarehouseActionResult × CBnsTrade}
    {bUnSameChannel : Bool}
    (h : Searches T A ulNow q house s after searched taking bUnSameChannel) :
    exists kept : List ItemSupportInfo, kept.Sublist (s.queue q) ∧
      List.Forall₂ (Met T A searched (takeItem ulNow taking)) kept
        (after.2.queue q) := by
  rw [h.queue]
  exact existWareHouse_met (s.queue q)

theorem queue_of_ne_itemSupport {s s' : CBnsTrade}
    (h : s'.vPickItem_OnLine = s.vPickItem_OnLine) (q : Queue)
    (hq : q ≠ .itemSupport) : s'.queue q = s.queue q := by
  cases q with
  | itemSupport => exact absurd rfl hq
  | pickItem => exact h

theorem queue_of_ne_pickItem {s s' : CBnsTrade}
    (h : s'.vItemSupport_OnLine = s.vItemSupport_OnLine) (q : Queue)
    (hq : q ≠ .pickItem) : s'.queue q = s.queue q := by
  cases q with
  | itemSupport => exact h
  | pickItem => exact absurd rfl hq

theorem acceptItemSupportDeal_searches (wareHouseInfo : WareHouseInfo)
    (Result : WarehouseActionResult) (s : CBnsTrade) :
    let _Warehouse := renewTick ulNow
      (decide (10 * 60 * 1000 ≤ ulNow - wareHouseInfo.ulTick)) wareHouseInfo
    Searches T A ulNow .itemSupport wareHouseInfo s
      (acceptItemSupportDeal T A ulNow wareHouseInfo Result s) _Warehouse
      { _Warehouse with ulTick := ulNow } true := by
  intro _Warehouse
  have hsame : SameHouse wareHouseInfo _Warehouse := renewTick_same _ _ _
  have htaking : SameHouse wareHouseInfo { _Warehouse with ulTick := ulNow } :=
    ⟨hsame.name, hsame.channel, hsame.server⟩
  unfold acceptItemSupportDeal
  dsimp only
  split
  · rename_i itm hitm
    exact ⟨hsame, htaking, rfl, queue_of_ne_itemSupport rfl,
      fun _ => ⟨itm, hitm, rfl⟩⟩
  · split
    · exact ⟨hsame, htaking, rfl, queue_of_ne_itemSupport rfl, nofun⟩
    · exact ⟨hsame, htaking, rfl, queue_of_ne_itemSupport rfl, nofun⟩

theorem acceptPickItemDeal_searches (wareHouseInfo : WareHouseInfo)
    (Result : WarehouseActionResult) (s : CBnsTrade) :
    let _WareHouse := renewTick ulNow
      (decide (10 * 60 * 1000 ≤ elapsed ulNow wareHouseInfo.ulTick))
      wareHouseInfo
    Searches T A ulNow .pickItem wareHouseInfo s
      (acceptPickItemDeal T A ulNow wareHouseInfo Result s) _WareHouse
      _WareHouse false := by
  intro _WareHouse
  have hsame : SameHouse wareHouseInfo _WareHouse := renewTick_same _ _ _
  unfold acceptPickItemDeal
  dsimp only
  split
  · rename_i itm hitm
    exact ⟨hsame, hsame, rfl, queue_of_ne_pickItem rfl,
      fun _ => ⟨itm, hitm, rfl⟩⟩
  · split
    · exact ⟨hsame, hsame, rfl, queue_of_ne_pickItem rfl, nofun⟩
    · exact ⟨hsame, hsame, rfl, queue_of_ne_pickItem rfl, nofun⟩

def unSameChannel : Queue -> Bool
  | .itemSupport => true
  | .pickItem => false

variable (ulNow) in
theorem accept_searches (q : Queue) (wareHouseInfo : WareHouseInfo)
    (Result : WarehouseActionResult) (s : CBnsTrade) :
    exists searched taking,
      Searches T A ulNow q wareHouseInfo s
        (accept T A ulNow q wareHouseInfo Result s) searched taking
        (unSameChannel q) := by
  cases q with
  | itemSupport =>
      exact ⟨_, _, acceptItemSupportDeal_searches wareHouseInfo Result s⟩
  | pickItem =>
      exact ⟨_, _, acceptPickItemDeal_searches wareHouseInfo Result s⟩

variable (ulNow) in
theorem join_queue (q : Queue) (verItemSupport : VerItemSupport)
    (Result : ItemSupportResult) (s : CBnsTrade) :
    (join T A ulNow q verItemSupport Result s).1 =
        (joinDeal T A ulNow verItemSupport Result (s.queue q)).1 ∧
      (join T A ulNow q verItemSupport Result s).2.queue q =
        (joinDeal T A ulNow verItemSupport Result (s.queue q)).2 ∧
      forall q', q' ≠ q ->
        (join T A ulNow q verItemSupport Result s).2.queue q' = s.queue q' := by
  cases q with
  | itemSupport => exact ⟨rfl, rfl, queue_of_ne_itemSupport rfl⟩
  | pickItem => exact ⟨rfl, rfl, queue_of_ne_pickItem rfl⟩

theorem removeAccount_queue (wsAccountName wsPlayerName : WString)
    (s : CBnsTrade) (q : Queue) :
    ((removeAccount T wsAccountName wsPlayerName s).queue q).Sublist
      (s.queue q) := by
  cases q with
  | itemSupport => exact T.dqueEraseIf_sublist _ _
  | pickItem => exact T.dqueEraseIf_sublist _ _

theorem removeAccount_queue_eq (hT : T.ErasesAll)
    (wsAccountName wsPlayerName : WString) (s : CBnsTrade) (q : Queue) :
    (removeAccount T wsAccountName wsPlayerName s).queue q =
      (s.queue q).filter fun itm =>
        !(itm.verItemSupport.wsAccountName == wsAccountName) := by
  cases q with
  | itemSupport => exact hT _ _
  | pickItem => exact hT _ _

/-!
## One entry a player
-/

theorem met_player {wareHouseInfo taking : WareHouseInfo}
    {itm itm' : ItemSupportInfo}
    (h : Met T A wareHouseInfo (takeItem ulNow taking) itm itm') :
    player A itm' = player A itm := by
  cases h with
  | passed => rfl
  | told => rfl
  | taken => rfl

theorem met_of_taken {wareHouseInfo taking : WareHouseInfo}
    {itm itm' : ItemSupportInfo}
    (h : Met T A wareHouseInfo (takeItem ulNow taking) itm itm')
    (htaken : itm.bTake = true) : itm' = itm := by
  cases h with
  | passed => rfl
  | told hfree =>
      rw [htaken] at hfree
      cases hfree
  | taken hfree =>
      rw [htaken] at hfree
      cases hfree

theorem met_players {wareHouseInfo taking : WareHouseInfo}
    {kept after : List ItemSupportInfo}
    (h : List.Forall₂ (Met T A wareHouseInfo (takeItem ulNow taking)) kept
      after) : after.map (player A) = kept.map (player A) := by
  induction h with
  | nil => rfl
  | cons hmet _ ih => rw [List.map_cons, List.map_cons, met_player hmet, ih]

theorem exists_met {wareHouseInfo taking : WareHouseInfo}
    {kept after : List ItemSupportInfo}
    (h : List.Forall₂ (Met T A wareHouseInfo (takeItem ulNow taking)) kept after)
    {itm' : ItemSupportInfo} (hitm' : itm' ∈ after) :
    exists itm, itm ∈ kept ∧
      Met T A wareHouseInfo (takeItem ulNow taking) itm itm' := by
  induction h with
  | nil => cases hitm'
  | cons hmet _ ih =>
      rcases List.mem_cons.mp hitm' with heq | hitm'
      · rw [heq]
        exact ⟨_, List.mem_cons_self, hmet⟩
      · rcases ih hitm' with ⟨itm, hitm, hmet'⟩
        exact ⟨itm, List.mem_cons_of_mem _ hitm, hmet'⟩

def Unique (A : CBnsArea) (s : CBnsTrade) : Prop :=
  forall q, ((s.queue q).map (player A)).Nodup

theorem joinDeal_nodup {verItemSupport : VerItemSupport}
    {Result : ItemSupportResult} {vlst : List ItemSupportInfo}
    (h : (vlst.map (player A)).Nodup) :
    ((joinDeal T A ulNow verItemSupport Result vlst).2.map (player A)).Nodup := by
  have hleft := (existItemSupport_sublist (T := T) (A := A) ulNow verItemSupport
    vlst).map (player A)
  cases hfound : (existItemSupport T A ulNow verItemSupport vlst).1 with
  | some p =>
      rcases existItemSupport_found hfound with ⟨hwhole, hplayer⟩
      rw [(joinDeal_found hfound).left, Place.map_put_of_eq, hwhole]
      · exact h.sublist hleft
      · exact hplayer.symm
  | none =>
      rw [joinDeal_missed hfound, List.map_append, List.nodup_append]
      refine ⟨h.sublist hleft, List.nodup_singleton _, ?_⟩
      intro a ha b hb hab
      rcases List.mem_map.mp ha with ⟨itm, hitm, hplayer⟩
      apply (existItemSupport_missed hfound).right itm hitm
      rw [hplayer, hab, List.mem_singleton.mp hb]
      rfl

theorem apply_unique {s : CBnsTrade} (h : Unique A s) (ulNow : ULONGLONG)
    (call : Call) : Unique A (apply T A ulNow call s) := by
  intro q
  cases call with
  | join q' verItemSupport Result =>
      rcases join_queue (T := T) (A := A) ulNow q' verItemSupport Result s with
        ⟨_, hown, hothers⟩
      by_cases hq : q = q'
      · rw [apply, hq, hown]
        exact joinDeal_nodup (h q')
      · rw [apply, hothers q hq]
        exact h q
  | accept q' wareHouseInfo Result =>
      rcases accept_searches (T := T) (A := A) ulNow q' wareHouseInfo Result s
        with ⟨searched, taking, hsearches⟩
      by_cases hq : q = q'
      · rcases hsearches.met with ⟨kept, hkept, hmet⟩
        rw [apply, hq, met_players hmet]
        exact (h q').sublist (hkept.map (player A))
      · rw [apply, hsearches.others q hq]
        exact h q
  | removeAccount wsAccountName wsPlayerName =>
      exact (h q).sublist
        ((removeAccount_queue wsAccountName wsPlayerName s q).map (player A))

theorem Reachable.unique {s : Clocked CBnsTrade} (h : Reachable T A s) :
    Unique A s.state := by
  refine Machine.Run.invariant (fun s => Unique A s.state) ?_ h ?_
  · intro l s _ _ hs
    exact apply_unique hs l.1 l.2
  · intro q
    cases q with
    | itemSupport => exact List.nodup_nil
    | pickItem => exact List.nodup_nil

end CBnsTrade
end BnsKorea
