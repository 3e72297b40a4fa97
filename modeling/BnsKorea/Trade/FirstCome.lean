import BnsKorea.Trade.Presence

/-!
# Players are served in turn

A poll serves the player that waits longest: of the entries that are alive, not
taken and listed for the warehouse it takes the first of the queue.  The entries
before it that are alive stay in their order with their flags and ticks, those
behind it are not looked at.
-/

namespace BnsKorea

open Library

namespace CBnsTrade

variable {T : MyTools} {A : CBnsArea} {ulNow : ULONGLONG}

/-!
## Entries that wait
-/

/-- Neither of the two timers has run for fifteen seconds. -/
structure IsAlive (ulNow : ULONGLONG) (itm : ItemSupportInfo) : Prop where
  keepALive : (ulNow - itm.ulKeepALiveTick).toNat < 15000
  take : itm.bTake = true -> (ulNow - itm.ulTakeTick).toNat < 15000

instance isAlive_decidable (ulNow : ULONGLONG) (itm : ItemSupportInfo) :
    Decidable (IsAlive ulNow itm) :=
  decidable_of_iff ((ulNow - itm.ulKeepALiveTick).toNat < 15000 ∧
      (itm.bTake = true -> (ulNow - itm.ulTakeTick).toNat < 15000))
    ⟨fun h => ⟨h.left, h.right⟩, fun h => ⟨h.keepALive, h.take⟩⟩

/-- The player waits for a warehouse such as the one that polls. -/
structure WaitsFor (A : CBnsArea) (ulNow : ULONGLONG) (q : Queue)
    (wareHouseInfo : WareHouseInfo) (itm : ItemSupportInfo) : Prop where
  alive : IsAlive ulNow itm
  untaken : itm.bTake = false
  area : A.areaOf itm.verItemSupport.dwServerId =
    A.areaOf wareHouseInfo.dwServerId
  listed : wareHouseInfo.wsWareHouseName ∈ itm.verItemSupport.vWareHouse
  channel : q = .pickItem ->
    wareHouseInfo.dwChannel = itm.verItemSupport.dwChannel

/-- The timers of the entries have run for less than a turn of the clock. -/
def WithinTurn (ulNow : ULONGLONG) (vlst : List ItemSupportInfo) : Prop :=
  forall itm, itm ∈ vlst ->
    (ulNow - itm.ulKeepALiveTick).toNat < 2 ^ 32 ∧
      (itm.bTake = true -> (ulNow - itm.ulTakeTick).toNat < 2 ^ 32)

theorem timeOut_le_elapsed_iff {ulTick : ULONGLONG}
    (hturn : (ulNow - ulTick).toNat < 2 ^ 32) :
    MAX_DEAL_KEEPALIVE_TIMEOUT ≤ elapsed ulNow ulTick ↔
      ¬ (ulNow - ulTick).toNat < 15000 := by
  have hmax : MAX_DEAL_KEEPALIVE_TIMEOUT.toNat = 15000 := rfl
  rw [UInt32.le_iff_toNat_le, elapsed, UInt64.toNat_toUInt32,
    Nat.mod_eq_of_lt hturn, hmax, Nat.not_lt]

theorem isTimeOut_eq_false_iff {vlst : List ItemSupportInfo}
    (hturn : WithinTurn ulNow vlst) {itm : ItemSupportInfo}
    (hitm : itm ∈ vlst) : isTimeOut ulNow itm = false ↔ IsAlive ulNow itm := by
  rcases hturn itm hitm with ⟨hkeep, htake⟩
  rw [isTimeOut, Bool.or_eq_false_iff, decide_eq_false_iff_not,
    timeOut_le_elapsed_iff hkeep, Decidable.not_not]
  cases hflag : itm.bTake with
  | false =>
      constructor
      · intro h
        exact ⟨h.left, fun htaken =>
          Bool.noConfusion (hflag.symm.trans htaken)⟩
      · intro h
        exact ⟨h.keepALive, rfl⟩
  | true =>
      rw [Bool.true_and, decide_eq_false_iff_not,
        timeOut_le_elapsed_iff (htake hflag), Decidable.not_not]
      constructor
      · intro h
        exact ⟨h.left, fun _ => h.right⟩
      · intro h
        exact ⟨h.keepALive, h.take hflag⟩

theorem isListed_iff {wareHouseInfo : WareHouseInfo} {itm : ItemSupportInfo} :
    isListed T A wareHouseInfo itm = true ↔
      A.areaOf itm.verItemSupport.dwServerId =
          A.areaOf wareHouseInfo.dwServerId ∧
        wareHouseInfo.wsWareHouseName ∈ itm.verItemSupport.vWareHouse := by
  rw [isListed, Bool.and_eq_true, CBnsArea.isSame_Area_iff, T.vecExistIfConst_eq,
    List.any_beq, List.contains_iff_mem]

theorem isEligible_iff {vlst : List ItemSupportInfo}
    (hturn : WithinTurn ulNow vlst) {q : Queue} {wareHouseInfo : WareHouseInfo}
    {itm : ItemSupportInfo} (hitm : itm ∈ vlst) :
    isEligible T A ulNow wareHouseInfo (unSameChannel q) itm = true ↔
      WaitsFor A ulNow q wareHouseInfo itm := by
  have hchannel : (unSameChannel q ||
        wareHouseInfo.dwChannel == itm.verItemSupport.dwChannel) = true ↔
      (q = .pickItem ->
        wareHouseInfo.dwChannel = itm.verItemSupport.dwChannel) := by
    cases q with
    | itemSupport => simp [unSameChannel]
    | pickItem => simp [unSameChannel]
  rw [isEligible, Bool.and_eq_true, hchannel, Bool.and_eq_true,
    Bool.and_eq_true, Bool.not_eq_true', Bool.not_eq_true',
    isTimeOut_eq_false_iff hturn hitm, isListed_iff]
  constructor
  · intro h
    rcases h with ⟨⟨halive, ⟨harea, hlisted⟩, hfree⟩, hchannel⟩
    exact ⟨halive, hfree, harea, hlisted, hchannel⟩
  · intro h
    exact ⟨⟨h.alive, ⟨h.area, h.listed⟩, h.untaken⟩, h.channel⟩

/-!
## What the search leaves
-/

section

variable {wareHouseInfo : WareHouseInfo} {bUnSameChannel : Bool}
  {fn : ItemSupportInfo -> ItemSupportInfo}

def passedBy (T : MyTools) (A : CBnsArea) (wareHouseInfo : WareHouseInfo)
    (itm : ItemSupportInfo) : ItemSupportInfo :=
  if isListed T A wareHouseInfo itm && !itm.bTake then told wareHouseInfo itm
  else itm

variable (fn) in
theorem existWareHouse_append {pre : List ItemSupportInfo}
    (hpre : forall itm, itm ∈ pre ->
      isEligible T A ulNow wareHouseInfo bUnSameChannel itm = false)
    (vlst : List ItemSupportInfo) :
    (existWareHouse T A ulNow wareHouseInfo bUnSameChannel fn (pre ++ vlst)).2 =
      (pre.filter fun itm => !isTimeOut ulNow itm).map
          (passedBy T A wareHouseInfo) ++
        (existWareHouse T A ulNow wareHouseInfo bUnSameChannel fn vlst).2 := by
  induction pre with
  | nil => rfl
  | cons itm pre ih =>
      have htail := ih fun itm hitm => hpre itm (List.mem_cons_of_mem _ hitm)
      have hitm := hpre itm List.mem_cons_self
      rw [List.cons_append, existWareHouse, List.filter_cons]
      cases hout : isTimeOut ulNow itm with
      | true => exact htail
      | false =>
          rw [isEligible, hout, Bool.not_false, Bool.true_and] at hitm
          simp only [Bool.false_eq_true, if_false, Bool.not_false, if_true,
            List.map_cons, List.cons_append]
          rw [← htail]
          cases hpick : isListed T A wareHouseInfo itm && !itm.bTake with
          | true =>
              rw [hpick, Bool.true_and] at hitm
              rw [if_pos rfl, hitm, passedBy, hpick]
              rfl
          | false =>
              rw [passedBy, hpick]
              rfl

theorem existWareHouse_takes {itm : ItemSupportInfo}
    (hitm : isEligible T A ulNow wareHouseInfo bUnSameChannel itm = true)
    (vlst : List ItemSupportInfo) :
    (existWareHouse T A ulNow wareHouseInfo bUnSameChannel fn (itm :: vlst)).2 =
      fn (told wareHouseInfo itm) :: vlst := by
  rw [isEligible, Bool.and_eq_true, Bool.and_eq_true, Bool.not_eq_true'] at hitm
  rcases hitm with ⟨⟨hlive, hpick⟩, hchannel⟩
  rw [existWareHouse, hlive, if_neg Bool.false_ne_true, hpick, if_pos rfl]
  dsimp only
  rw [if_pos hchannel]
  rfl

end

/-- The fields of an entry that a poll leaves as they are. -/
structure StandsAs (itm itm' : ItemSupportInfo) : Prop where
  flag : itm'.bTake = itm.bTake
  takeTick : itm'.ulTakeTick = itm.ulTakeTick
  keepALive : itm'.ulKeepALiveTick = itm.ulKeepALiveTick
  player : itm'.verItemSupport = itm.verItemSupport

theorem passedBy_stands (wareHouseInfo : WareHouseInfo)
    (itm : ItemSupportInfo) :
    StandsAs itm (passedBy T A wareHouseInfo itm) := by
  rw [passedBy]
  split
  · exact ⟨rfl, rfl, rfl, rfl⟩
  · exact ⟨rfl, rfl, rfl, rfl⟩

/-- The entries that are left, each in its place and standing as before. -/
def StillWait (ulNow : ULONGLONG) (before after : List ItemSupportInfo) : Prop :=
  List.Forall₂ StandsAs (before.filter fun itm => decide (IsAlive ulNow itm))
    after

theorem passedBy_stillWait {before vlst : List ItemSupportInfo}
    (hturn : WithinTurn ulNow vlst) (hbefore : forall itm, itm ∈ before ->
      itm ∈ vlst) (wareHouseInfo : WareHouseInfo) :
    StillWait ulNow before
      ((before.filter fun itm => !isTimeOut ulNow itm).map
        (passedBy T A wareHouseInfo)) := by
  have halive : before.filter (fun itm => !isTimeOut ulNow itm) =
      before.filter fun itm => decide (IsAlive ulNow itm) := by
    apply List.filter_congr
    intro itm hitm
    rw [Bool.eq_iff_iff, Bool.not_eq_true', decide_eq_true_eq]
    exact isTimeOut_eq_false_iff hturn (hbefore itm hitm)
  rw [halive, StillWait, List.forall₂_map_right_iff]
  exact List.forall₂_same.mpr fun itm _ => passedBy_stands wareHouseInfo itm

/-!
## What a poll leaves
-/

variable {q : Queue} {wareHouseInfo : WareHouseInfo} {s : CBnsTrade}

/-- Where the entry stands that waits longest for the warehouse. -/
structure LongestWait (A : CBnsArea) (ulNow : ULONGLONG) (q : Queue)
    (wareHouseInfo : WareHouseInfo) (vlst : List ItemSupportInfo)
    (p : Place ItemSupportInfo) : Prop where
  whole : p.whole = vlst
  waits : WaitsFor A ulNow q wareHouseInfo p.here
  first : forall itm, itm ∈ p.pre -> ¬ WaitsFor A ulNow q wareHouseInfo itm

theorem firstEligible_eq_some_iff (hturn : WithinTurn ulNow (s.queue q))
    {p : Place ItemSupportInfo} :
    firstEligible T A ulNow q wareHouseInfo s = some p ↔
      LongestWait A ulNow q wareHouseInfo (s.queue q) p := by
  have hmem : forall {p : Place ItemSupportInfo}, p.whole = s.queue q ->
      forall itm, itm ∈ p.pre -> itm ∈ s.queue q := by
    intro p hwhole itm hitm
    rw [← hwhole]
    exact Place.mem_put.mpr (Or.inl hitm)
  constructor
  · intro hfirst
    rcases firstPlace_eq_some hfirst with ⟨hwhole, hhere, hpre⟩
    refine ⟨hwhole, (isEligible_iff hturn (hwhole ▸ Place.mem_whole)).mp hhere,
      ?_⟩
    intro itm hitm hwaits
    rw [← isEligible_iff (T := T) hturn (hmem hwhole itm hitm), hpre itm hitm]
      at hwaits
    cases hwaits
  · intro hlongest
    have hwhole := hlongest.whole
    rw [firstEligible, ← hwhole]
    apply firstPlace_of_first
    · exact (isEligible_iff hturn (hwhole ▸ Place.mem_whole)).mpr hlongest.waits
    · intro itm hitm
      rw [← Bool.not_eq_true,
        isEligible_iff hturn (hmem hwhole itm hitm)]
      exact hlongest.first itm hitm

theorem firstEligible_eq_none_iff (hturn : WithinTurn ulNow (s.queue q)) :
    firstEligible T A ulNow q wareHouseInfo s = none ↔
      ¬ exists itm, itm ∈ s.queue q ∧ WaitsFor A ulNow q wareHouseInfo itm := by
  rw [firstEligible, firstPlace_eq_none]
  constructor
  · intro hnone hwaiting
    rcases hwaiting with ⟨itm, hitm, hwaits⟩
    rw [← isEligible_iff (T := T) hturn hitm, hnone itm hitm] at hwaits
    cases hwaits
  · intro hnobody itm hitm
    rw [← Bool.not_eq_true, isEligible_iff hturn hitm]
    exact fun hwaits => hnobody ⟨itm, hitm, hwaits⟩

/-- The entry as a poll of the warehouse leaves it when it takes it. -/
structure TakenBy (ulNow : ULONGLONG) (wareHouseInfo : WareHouseInfo)
    (itm itm' : ItemSupportInfo) : Prop where
  handed : HandedTo wareHouseInfo itm'
  takeTick : itm'.ulTakeTick = ulNow
  keepALive : itm'.ulKeepALiveTick = itm.ulKeepALiveTick
  player : itm'.verItemSupport = itm.verItemSupport

theorem accept_takes_longest (hturn : WithinTurn ulNow (s.queue q))
    {p : Place ItemSupportInfo}
    (hlongest : LongestWait A ulNow q wareHouseInfo (s.queue q) p)
    (Result : WarehouseActionResult) :
    exists before taken,
      (accept T A ulNow q wareHouseInfo Result s).2.queue q =
        before ++ taken :: p.post ∧
      StillWait ulNow p.pre before ∧
      TakenBy ulNow wareHouseInfo p.here taken := by
  have hfirst := (firstEligible_eq_some_iff (T := T) hturn).mpr hlongest
  rcases firstPlace_eq_some hfirst with ⟨hwhole, hhere, hpre⟩
  rcases accept_searches (T := T) (A := A) ulNow q wareHouseInfo
    Result s with ⟨searched, taking, hsearches⟩
  rw [← isEligible_of_same hsearches.searched_same] at hhere hpre
  rw [hsearches.queue, ← hwhole, Place.whole, Place.put,
    existWareHouse_append _ hpre, existWareHouse_takes hhere]
  refine ⟨_, _, rfl, ?_, ⟨rfl, rfl, hsearches.taking_same.name,
    hsearches.taking_same.channel⟩, rfl, rfl, rfl⟩
  apply passedBy_stillWait hturn
  intro itm hitm
  rw [← hwhole]
  exact Place.mem_put.mpr (Or.inl hitm)

theorem accept_leaves_alive (hturn : WithinTurn ulNow (s.queue q))
    (hnobody : ¬ exists itm, itm ∈ s.queue q ∧
      WaitsFor A ulNow q wareHouseInfo itm) (Result : WarehouseActionResult) :
    StillWait ulNow (s.queue q)
      ((accept T A ulNow q wareHouseInfo Result s).2.queue q) := by
  have hnone := (firstEligible_eq_none_iff (T := T) hturn).mpr hnobody
  rw [firstEligible, firstPlace_eq_none] at hnone
  rcases accept_searches (T := T) (A := A) ulNow q wareHouseInfo
    Result s with ⟨searched, taking, hsearches⟩
  rw [← isEligible_of_same hsearches.searched_same] at hnone
  have hleft := existWareHouse_append (takeItem ulNow taking) hnone []
  rw [List.append_nil, existWareHouse, List.append_nil] at hleft
  rw [hsearches.queue, hleft]
  exact passedBy_stillWait hturn (fun _ hitm => hitm) searched

/--
A poll answers that it picks a player exactly if one waits for the warehouse.
Then it takes the entry that waits longest; the entries before it that are alive
keep their order, flags and ticks, those behind it stay as they are.  Else all
that are alive stay.
-/
theorem accept_serves_longest (hturn : WithinTurn ulNow (s.queue q))
    (Result : WarehouseActionResult) :
    let polled := accept T A ulNow q wareHouseInfo Result s
    (polled.1.emIsPick = .pick ↔
      exists itm, itm ∈ s.queue q ∧ WaitsFor A ulNow q wareHouseInfo itm) ∧
    (polled.1.emIsPick = .pick ->
      exists p before taken,
        LongestWait A ulNow q wareHouseInfo (s.queue q) p ∧
        polled.1.wsPlayerName = p.here.verItemSupport.wsPlayerName ∧
        polled.2.queue q = before ++ taken :: p.post ∧
        StillWait ulNow p.pre before ∧
        TakenBy ulNow wareHouseInfo p.here taken) ∧
    (polled.1.emIsPick ≠ .pick ->
      StillWait ulNow (s.queue q) (polled.2.queue q)) ∧
    forall q', q' ≠ q -> polled.2.queue q' = s.queue q' := by
  intro polled
  have hothers : forall q', q' ≠ q -> polled.2.queue q' = s.queue q' := by
    rcases accept_searches (T := T) (A := A) ulNow q
      wareHouseInfo Result s with ⟨_, _, hsearches⟩
    exact hsearches.others
  cases hfirst : firstEligible T A ulNow q wareHouseInfo s with
  | some p =>
      have hlongest := (firstEligible_eq_some_iff hturn).mp hfirst
      rcases accept_of_first hfirst Result with ⟨hpick, hname⟩
      rcases accept_takes_longest (T := T) hturn hlongest Result with
        ⟨before, taken, hqueue, hbefore, htaken⟩
      have hhere : p.here ∈ s.queue q := hlongest.whole ▸ Place.mem_whole
      refine ⟨⟨fun _ => ⟨p.here, hhere, hlongest.waits⟩, fun _ => hpick⟩, ?_, ?_,
        hothers⟩
      · intro _
        exact ⟨p, before, taken, hlongest, hname, hqueue, hbefore, htaken⟩
      · exact fun hmissed => absurd hpick hmissed
  | none =>
      have hnobody := (firstEligible_eq_none_iff hturn).mp hfirst
      have hmissed := accept_of_none hfirst Result
      refine ⟨⟨fun hpick => absurd hpick hmissed,
        fun hwaiting => absurd hwaiting hnobody⟩, ?_, ?_, hothers⟩
      · exact fun hpick => absurd hpick hmissed
      · exact fun _ => accept_leaves_alive hturn hnobody Result

/-- Anna waits for the depot, and the poll takes her. -/
theorem depotState_serves_longest :
    WithinTurn 20 (depotState.state.queue .itemSupport) ∧
      exists itm, itm ∈ depotState.state.queue .itemSupport ∧
        WaitsFor CBnsArea.initialized 20 .itemSupport depot itm := by
  have hturn : WithinTurn 20 (depotState.state.queue .itemSupport) := by
    intro itm hitm
    have hmem : itm.ulKeepALiveTick = 10 ∧ itm.bTake = false := by
      have hall : forall itm, itm ∈ depotState.state.queue .itemSupport ->
          itm.ulKeepALiveTick = 10 ∧ itm.bTake = false := by decide
      exact hall itm hitm
    rw [hmem.left, hmem.right]
    exact ⟨by decide, nofun⟩
  have hpick : depotTaken.1.emIsPick = .pick := by decide
  exact ⟨hturn, (accept_serves_longest hturn _).left.mp hpick⟩

end CBnsTrade
end BnsKorea
