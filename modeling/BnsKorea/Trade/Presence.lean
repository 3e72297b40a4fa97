import Mathlib.Data.UInt
import BnsKorea.Trade.Expiry

/-!
# Players that are gone

The time of every join is recorded beside the queues.  A poll takes the first
entry that its test finds eligible, and the keep-alive tick of that entry is the
player's last join.  The test compares the low 32 bits of the time since then,
so a poll that comes whole 32-bit turns of the clock later takes the entry of a
player that has long been gone.
-/

namespace BnsKorea

open Library

namespace CBnsTrade

variable {T : MyTools} {A : CBnsArea} {ulNow : ULONGLONG}

/-!
## The entry a poll takes
-/

def isEligible (T : MyTools) (A : CBnsArea) (ulNow : ULONGLONG)
    (wareHouseInfo : WareHouseInfo) (bUnSameChannel : Bool)
    (itm : ItemSupportInfo) : Bool :=
  !isTimeOut ulNow itm && (isListed T A wareHouseInfo itm && !itm.bTake) &&
    (bUnSameChannel || wareHouseInfo.dwChannel == itm.verItemSupport.dwChannel)

def firstEligible (T : MyTools) (A : CBnsArea) (ulNow : ULONGLONG) (q : Queue)
    (wareHouseInfo : WareHouseInfo) (s : CBnsTrade) :
    Option (Place ItemSupportInfo) :=
  firstPlace (isEligible T A ulNow wareHouseInfo (unSameChannel q)) (s.queue q)

theorem isEligible_of_same {house searched : WareHouseInfo}
    (hsame : SameHouse house searched) :
    isEligible T A ulNow searched = isEligible T A ulNow house := by
  funext bUnSameChannel itm
  rw [isEligible, isEligible, isListed, isListed, hsame.name, hsame.channel,
    hsame.server]

theorem existWareHouse_first (wareHouseInfo : WareHouseInfo)
    (bUnSameChannel : Bool) (fn : ItemSupportInfo -> ItemSupportInfo)
    (vlst : List ItemSupportInfo) :
    (existWareHouse T A ulNow wareHouseInfo bUnSameChannel fn vlst).1 =
      (firstPlace (isEligible T A ulNow wareHouseInfo bUnSameChannel) vlst).map
        fun p => fn (told wareHouseInfo p.here) := by
  induction vlst with
  | nil => rfl
  | cons itm vlst ih =>
      have hlater : isEligible T A ulNow wareHouseInfo bUnSameChannel itm =
            false ->
          (firstPlace (isEligible T A ulNow wareHouseInfo bUnSameChannel)
              (itm :: vlst)).map (fun p => fn (told wareHouseInfo p.here)) =
            (existWareHouse T A ulNow wareHouseInfo bUnSameChannel fn vlst).1 := by
        intro hno
        rw [firstPlace, hno, ih]
        simp only [Bool.false_eq_true, if_false, Option.map_map]
        rfl
      rw [existWareHouse]
      split
      · rename_i hout
        exact (hlater (by simp [isEligible, hout])).symm
      · rename_i hlive
        rw [Bool.not_eq_true] at hlive
        split
        · rename_i hpick
          dsimp only
          split
          · rename_i hchannel
            have hyes : isEligible T A ulNow wareHouseInfo bUnSameChannel itm =
                true := by
              rw [isEligible, hlive, hpick, hchannel]
              rfl
            rw [firstPlace, if_pos hyes]
            rfl
          · rename_i hchannel
            rw [Bool.not_eq_true] at hchannel
            exact (hlater (by simp only [isEligible, hchannel,
              Bool.and_false])).symm
        · rename_i hother
          rw [Bool.not_eq_true] at hother
          exact (hlater (by simp only [isEligible, hother, Bool.and_false,
            Bool.false_and])).symm

section

variable {q : Queue} {house searched : WareHouseInfo} {s : CBnsTrade}
  {fn : ItemSupportInfo -> ItemSupportInfo} {found : Option ItemSupportInfo}

theorem found_of_first {p : Place ItemSupportInfo}
    (hfirst : firstEligible T A ulNow q house s = some p)
    (hfound : (existWareHouse T A ulNow searched (unSameChannel q) fn
      (s.queue q)).1 = found) (hsame : SameHouse house searched) :
    found = some (fn (told searched p.here)) := by
  rw [← hfound, existWareHouse_first, isEligible_of_same hsame, ← firstEligible,
    hfirst]
  rfl

theorem found_of_none (hnone : firstEligible T A ulNow q house s = none)
    (hfound : (existWareHouse T A ulNow searched (unSameChannel q) fn
      (s.queue q)).1 = found) (hsame : SameHouse house searched) :
    found = none := by
  rw [← hfound, existWareHouse_first, isEligible_of_same hsame, ← firstEligible,
    hnone]
  rfl

end

variable {q : Queue} {wareHouseInfo : WareHouseInfo} {s : CBnsTrade}

theorem accept_of_first {p : Place ItemSupportInfo}
    (hfirst : firstEligible T A ulNow q wareHouseInfo s = some p)
    (Result : WarehouseActionResult) :
    (accept T A ulNow q wareHouseInfo Result s).1.emIsPick = .pick ∧
      (accept T A ulNow q wareHouseInfo Result s).1.wsPlayerName =
        p.here.verItemSupport.wsPlayerName := by
  cases q with
  | itemSupport =>
      rw [accept, acceptItemSupportDeal]
      dsimp only
      split
      · rename_i itm hitm
        cases found_of_first hfirst hitm (renewTick_same ulNow _ _)
        exact ⟨rfl, rfl⟩
      · rename_i hmissed
        cases found_of_first hfirst hmissed (renewTick_same ulNow _ _)
  | pickItem =>
      rw [accept, acceptPickItemDeal]
      dsimp only
      split
      · rename_i itm hitm
        cases found_of_first hfirst hitm (renewTick_same ulNow _ _)
        exact ⟨rfl, rfl⟩
      · rename_i hmissed
        cases found_of_first hfirst hmissed (renewTick_same ulNow _ _)

theorem accept_of_none (hnone : firstEligible T A ulNow q wareHouseInfo s = none)
    (Result : WarehouseActionResult) :
    (accept T A ulNow q wareHouseInfo Result s).1.emIsPick ≠ .pick := by
  cases q with
  | itemSupport =>
      rw [accept, acceptItemSupportDeal]
      dsimp only
      split
      · rename_i itm hitm
        cases found_of_none hnone hitm (renewTick_same ulNow _ _)
      · split
        · nofun
        · nofun
  | pickItem =>
      rw [accept, acceptPickItemDeal]
      dsimp only
      split
      · rename_i itm hitm
        cases found_of_none hnone hitm (renewTick_same ulNow _ _)
      · split
        · nofun
        · nofun

theorem firstEligible_some {p : Place ItemSupportInfo}
    (h : firstEligible T A ulNow q wareHouseInfo s = some p) :
    p.here ∈ s.queue q ∧ isTimeOut ulNow p.here = false ∧
      player A p.here = (p.here.verItemSupport.wsPlayerName,
        A.areaOf wareHouseInfo.dwServerId) := by
  rcases firstPlace_eq_some h with ⟨hwhole, htest, _⟩
  simp only [isEligible, isListed, Bool.and_eq_true, Bool.not_eq_true',
    CBnsArea.isSame_Area_iff] at htest
  refine ⟨hwhole ▸ Place.mem_whole, htest.left.left, ?_⟩
  exact Prod.ext rfl htest.left.right.left.left

/-!
## The record of joins
-/

/-- The queues, and when each player last joined each of them. -/
structure Attended where
  trade : CBnsTrade := {}
  joined : Queue -> WString × List DWORD -> Option ULONGLONG :=
    fun _ _ => none

def recordJoin (A : CBnsArea) (ulNow : ULONGLONG) (call : Call) (h : Attended)
    (q : Queue) (who : WString × List DWORD) : Option ULONGLONG :=
  match call with
  | .join q' verItemSupport _ =>
      if q' = q ∧ playerOf A verItemSupport = who then some ulNow
      else h.joined q who
  | _ => h.joined q who

def attended (T : MyTools) (A : CBnsArea) :
    Machine (Clocked Attended) (ULONGLONG × Call) :=
  Machine.clocked fun ulNow call h =>
    { trade := apply T A ulNow call h.trade
      joined := recordJoin A ulNow call h }

/-- An entry's keep-alive tick is the last join of its player. -/
def RecordKept (A : CBnsArea) (h : Attended) : Prop :=
  forall q itm, itm ∈ h.trade.queue q ->
    h.joined q (player A itm) = some itm.ulKeepALiveTick

/-- What holds of the queues and the record between two calls. -/
structure Attends (A : CBnsArea) (h : Clocked Attended) : Prop where
  unique : Unique A h.state.trade
  ticks : forall q itm, itm ∈ h.state.trade.queue q -> TicksPast h.now itm
  kept : RecordKept A h.state

variable (ulNow) in
theorem joinDeal_own (verItemSupport : VerItemSupport)
    (Result : ItemSupportResult) (vlst : List ItemSupportInfo) :
    exists itm, itm ∈ (joinDeal T A ulNow verItemSupport Result vlst).2 ∧
      player A itm = playerOf A verItemSupport ∧ itm.ulKeepALiveTick = ulNow := by
  cases hfound : (existItemSupport T A ulNow verItemSupport vlst).1 with
  | some p =>
      rw [(joinDeal_found hfound).left]
      exact ⟨_, Place.mem_put.mpr (Or.inr (Or.inl rfl)), rfl, rfl⟩
  | none =>
      rw [joinDeal_missed hfound]
      exact ⟨_, List.mem_append_right _ (List.mem_singleton.mpr rfl), rfl, rfl⟩

theorem joinDeal_others {verItemSupport : VerItemSupport}
    {Result : ItemSupportResult} {vlst : List ItemSupportInfo}
    {itm : ItemSupportInfo}
    (hitm : itm ∈ (joinDeal T A ulNow verItemSupport Result vlst).2)
    (hother : player A itm ≠ playerOf A verItemSupport) : itm ∈ vlst := by
  have hleft := (existItemSupport_sublist (T := T) (A := A) ulNow verItemSupport
    vlst).subset
  cases hfound : (existItemSupport T A ulNow verItemSupport vlst).1 with
  | some p =>
      rw [(joinDeal_found hfound).left] at hitm
      rw [← (existItemSupport_found hfound).left] at hleft
      rcases Place.mem_whole_of_mem_put hitm with heq | hmem
      · rw [heq] at hother
        exact absurd rfl hother
      · exact hleft hmem
  | none =>
      rw [joinDeal_missed hfound] at hitm
      rcases List.mem_append.mp hitm with hmem | hnew
      · exact hleft hmem
      · rw [List.mem_singleton.mp hnew] at hother
        exact absurd rfl hother

theorem apply_kept {ulNow : ULONGLONG} {call : Call} {h : Attended}
    (hunique : Unique A h.trade) (hkept : RecordKept A h) :
    RecordKept A
      { trade := apply T A ulNow call h.trade
        joined := recordJoin A ulNow call h } := by
  have hafter : Unique A (apply T A ulNow call h.trade) :=
    apply_unique hunique ulNow call
  intro q itm hitm
  dsimp only at hitm ⊢
  cases call with
  | join q' verItemSupport Result =>
      rcases join_queue (T := T) (A := A) ulNow q' verItemSupport Result h.trade
        with ⟨_, hown, hothers⟩
      rw [recordJoin]
      by_cases hq : q = q'
      · cases hq
        rcases joinDeal_own (T := T) (A := A) ulNow verItemSupport Result
          (h.trade.queue q) with ⟨new, hnew, hplayer, htick⟩
        rw [← hown] at hnew
        by_cases hwho : playerOf A verItemSupport = player A itm
        · have hsame : itm = new := List.inj_on_of_nodup_map (hafter q) hitm hnew
            (hwho.symm.trans hplayer.symm)
          rw [if_pos ⟨rfl, hwho⟩, hsame, htick]
        · rw [if_neg fun hboth => hwho hboth.right]
          rw [apply, hown] at hitm
          exact hkept q itm (joinDeal_others hitm fun heq => hwho heq.symm)
      · rw [if_neg fun hboth => hq hboth.left.symm]
        rw [apply, hothers q hq] at hitm
        exact hkept q itm hitm
  | accept q' wareHouseInfo Result =>
      rcases accept_searches (T := T) (A := A) ulNow q' wareHouseInfo Result
        h.trade with ⟨searched, taking, hsearches⟩
      by_cases hq : q = q'
      · cases hq
        rcases hsearches.met with ⟨kept, hsub, hmet⟩
        rcases exists_met hmet hitm with ⟨old, hold, hmeets⟩
        have hrecord := hkept q old (hsub.subset hold)
        cases hmeets with
        | passed => exact hrecord
        | told => exact hrecord
        | taken => exact hrecord
      · rw [apply, hsearches.others q hq] at hitm
        exact hkept q itm hitm
  | removeAccount wsAccountName wsPlayerName =>
      exact hkept q itm
        ((removeAccount_queue wsAccountName wsPlayerName h.trade q).subset hitm)

theorem attends_step (l : ULONGLONG × Call) (h : Clocked Attended)
    (hnow : (attended T A).enabled l h) (hs : Attends A h) :
    Attends A ((attended T A).step l h) := by
  refine ⟨apply_unique hs.unique l.1 l.2, ?_, apply_kept hs.unique hs.kept⟩
  exact apply_ticks (fun q itm hitm => (hs.ticks q itm hitm).later hnow) l.2

theorem attends_start : Attends A { now := 0, state := {} } := by
  constructor
  · intro q
    cases q with
    | itemSupport => exact List.nodup_nil
    | pickItem => exact List.nodup_nil
  · intro q itm hitm
    cases q with
    | itemSupport => cases hitm
    | pickItem => cases hitm
  · intro q itm hitm
    cases q with
    | itemSupport => cases hitm
    | pickItem => cases hitm

/-!
## Whom a poll picks
-/

/-- If the call is a poll that picks a player, the player joined just before. -/
def PicksPresent (T : MyTools) (A : CBnsArea) (l : ULONGLONG × Call)
    (h : Clocked Attended) : Prop :=
  forall q wareHouseInfo Result, l.2 = .accept q wareHouseInfo Result ->
    let polled := accept T A l.1 q wareHouseInfo Result h.state.trade
    polled.1.emIsPick = .pick ->
      exists ulTick, h.state.joined q
          (polled.1.wsPlayerName, A.areaOf wareHouseInfo.dwServerId) =
            some ulTick ∧
        ulTick ≤ l.1 ∧ l.1.toNat - ulTick.toNat < 15000

/-- If the call is a poll, what it comes to first was heard of in this turn. -/
def HeardThisTurn (T : MyTools) (A : CBnsArea) (l : ULONGLONG × Call)
    (h : Clocked Attended) : Prop :=
  forall q wareHouseInfo Result, l.2 = .accept q wareHouseInfo Result ->
    forall p, firstEligible T A l.1 q wareHouseInfo h.state.trade = some p ->
      l.1.toNat - p.here.ulKeepALiveTick.toNat < 2 ^ 32

theorem recent_of_not_timeOut {itm : ItemSupportInfo} (h : TicksPast ulNow itm)
    (hlive : isTimeOut ulNow itm = false)
    (hturn : ulNow.toNat - itm.ulKeepALiveTick.toNat < 2 ^ 32) :
    ulNow.toNat - itm.ulKeepALiveTick.toNat < 15000 := by
  rw [isTimeOut, Bool.or_eq_false_iff, decide_eq_false_iff_not, UInt32.not_le,
    UInt32.lt_iff_toNat_lt, toNat_elapsed h.keepALive, Nat.mod_eq_of_lt hturn]
    at hlive
  exact hlive.left

theorem picksPresent_iff (l : ULONGLONG × Call) (h : Clocked Attended)
    (hnow : (attended T A).enabled l h) (hs : Attends A h) :
    PicksPresent T A l h ↔ HeardThisTurn T A l h := by
  have hjoined : forall q wareHouseInfo p,
      firstEligible T A l.1 q wareHouseInfo h.state.trade = some p ->
      TicksPast l.1 p.here ∧
        h.state.joined q (p.here.verItemSupport.wsPlayerName,
          A.areaOf wareHouseInfo.dwServerId) = some p.here.ulKeepALiveTick := by
    intro q wareHouseInfo p hfirst
    rcases firstEligible_some hfirst with ⟨hmem, _, hplayer⟩
    rw [← hplayer]
    exact ⟨(hs.ticks q p.here hmem).later hnow, hs.kept q p.here hmem⟩
  constructor
  · intro hpresent q wareHouseInfo Result hcall p hfirst
    rcases accept_of_first hfirst Result with ⟨hpick, hname⟩
    rcases hpresent q wareHouseInfo Result hcall hpick with
      ⟨ulTick, hrecord, _, hrecent⟩
    rw [hname, (hjoined q wareHouseInfo p hfirst).right] at hrecord
    cases hrecord
    omega
  · intro hturn q wareHouseInfo Result hcall polled hpick
    cases hfirst : firstEligible T A l.1 q wareHouseInfo h.state.trade with
    | none => exact absurd hpick (accept_of_none hfirst Result)
    | some p =>
        rcases hjoined q wareHouseInfo p hfirst with ⟨hpast, hrecord⟩
        rw [← (accept_of_first hfirst Result).right] at hrecord
        exact ⟨_, hrecord, hpast.keepALive, recent_of_not_timeOut hpast
          (firstEligible_some hfirst).right.left
          (hturn q wareHouseInfo Result hcall p hfirst)⟩

/--
In a run, every player a poll picks joined within the last fifteen seconds
exactly if every poll comes first to an entry that was heard of less than `2^32`
milliseconds before.
-/
theorem attended_picks_present_iff {labels : List (ULONGLONG × Call)}
    (h : (attended T A).Admits labels { now := 0, state := {} }) :
    (forall n l, labels[n]? = some l -> PicksPresent T A l
        ((attended T A).play (labels.take n) { now := 0, state := {} })) ↔
      forall n l, labels[n]? = some l -> HeardThisTurn T A l
        ((attended T A).play (labels.take n) { now := 0, state := {} }) :=
  h.each_iff (Attends A) (PicksPresent T A) (HeardThisTurn T A) attends_step
    picksPresent_iff attends_start

/-- Anna joins, and the depot polls one turn of the clock later. -/
def lateCalls (ulLater : ULONGLONG) : List (ULONGLONG × Call) :=
  depotCalls ++ [(ulLater, Call.accept .itemSupport depot
    { emWarehouseType := .itemSupport, emIsPick := .none })]

instance attended_decidable (l : ULONGLONG × Call) (h : Clocked Attended) :
    Decidable ((attended T A).enabled l h) :=
  inferInstanceAs (Decidable (h.now ≤ l.1))

theorem lateCalls_picks_absent :
    let M := attended MyTools.standard CBnsArea.initialized
    M.Admits (lateCalls (2 ^ 32 + 20)) { now := 0, state := {} } ∧
      ¬ forall n l, (lateCalls (2 ^ 32 + 20))[n]? = some l ->
        PicksPresent MyTools.standard CBnsArea.initialized l
          (M.play ((lateCalls (2 ^ 32 + 20)).take n)
            { now := 0, state := {} }) := by
  refine ⟨by decide, ?_⟩
  intro hall
  have hpick := hall 1 _ rfl _ _ _ rfl (by decide)
  rcases hpick with ⟨ulTick, hjoined, _, hrecent⟩
  have htick : ulTick = 10 := Option.some.inj (hjoined.symm.trans (by decide))
  rw [htick] at hrecent
  exact absurd hrecent (by decide)

theorem lateCalls_in_time :
    let M := attended MyTools.standard CBnsArea.initialized
    M.Admits (lateCalls 20) { now := 0, state := {} } ∧
      forall n l, (lateCalls 20)[n]? = some l ->
        PicksPresent MyTools.standard CBnsArea.initialized l
          (M.play ((lateCalls 20).take n) { now := 0, state := {} }) := by
  refine ⟨by decide, (attended_picks_present_iff (by decide)).mpr ?_⟩
  intro n l hl q wareHouseInfo Result hcall p hfirst
  have hnow : l.1.toNat < 2 ^ 32 := by
    have hmem := List.mem_of_getElem? hl
    simp only [lateCalls, depotCalls, List.cons_append, List.nil_append,
      List.mem_cons, List.not_mem_nil, or_false] at hmem
    rcases hmem with heq | heq
    · rw [heq]
      decide
    · rw [heq]
      decide
  omega

end CBnsTrade
end BnsKorea
