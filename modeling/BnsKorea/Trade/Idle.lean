import BnsKorea.Trade.Presence

/-!
# Warehouses that are idle

A warehouse that has not traded for five minutes is to be sent back, and its
timer starts again every ten minutes.  The handlers of the polls read a message
into a fresh record, whose constructor takes the time, and the search for the
warehouse's record replaces the stored one by it.  So the tick a poll compares
is the time of the poll.
-/

namespace BnsKorea

open Library

def WareHouseInfo.extract (ulNow : ULONGLONG) (wsWareHouseName : WString)
    (dwChannel dwServerId : DWORD) : WareHouseInfo where
  wsWareHouseName := wsWareHouseName
  dwChannel := dwChannel
  dwServerId := dwServerId
  ulTick := ulNow

namespace CBnsTrade

variable {T : MyTools} {A : CBnsArea}

/-!
## The record of timers
-/

/-- A message of a client about trades. -/
inductive Message where
  | join (q : Queue) (verItemSupport : VerItemSupport)
      (Result : ItemSupportResult)
  | poll (q : Queue) (wsWareHouseName : WString) (dwChannel dwServerId : DWORD)
      (Result : WarehouseActionResult)
  | remove (wsAccountName wsPlayerName : WString)

def Message.call (ulNow : ULONGLONG) : Message -> Call
  | .join q verItemSupport Result => .join q verItemSupport Result
  | .poll q wsWareHouseName dwChannel dwServerId Result =>
      .accept q (WareHouseInfo.extract ulNow wsWareHouseName dwChannel dwServerId)
        Result
  | .remove wsAccountName wsPlayerName =>
      .removeAccount wsAccountName wsPlayerName

/-- The queues, and by name when the timer of a warehouse was last started. -/
structure Timed where
  trade : CBnsTrade := {}
  since : WString -> Option ULONGLONG := fun _ => none

/--
When the timer of a polling warehouse was started: by its first poll, or anew
when ten minutes are over.
-/
def Timed.timer (h : Timed) (ulNow : ULONGLONG) (wsWareHouseName : WString) :
    ULONGLONG :=
  match h.since wsWareHouseName with
  | none => ulNow
  | some ulTick =>
      if 10 * 60 * 1000 ≤ ulNow.toNat - ulTick.toNat then ulNow else ulTick

def Timed.record (T : MyTools) (A : CBnsArea) (ulNow : ULONGLONG) (h : Timed)
    (wsWareHouseName : WString) : Message -> Option ULONGLONG
  | .join _ _ _ => h.since wsWareHouseName
  | .poll q wsName dwChannel dwServerId Result =>
      let polled := accept T A ulNow q
        (WareHouseInfo.extract ulNow wsName dwChannel dwServerId) Result h.trade
      if wsName = wsWareHouseName then
        if polled.1.emIsPick = .pick then some ulNow
        else some (h.timer ulNow wsWareHouseName)
      else h.since wsWareHouseName
  | .remove _ wsPlayerName =>
      if wsPlayerName = wsWareHouseName then none else h.since wsWareHouseName

def timed (T : MyTools) (A : CBnsArea) :
    Machine (Clocked Timed) (ULONGLONG × Message) :=
  Machine.clocked fun ulNow msg h =>
    { trade := apply T A ulNow (msg.call ulNow) h.trade
      since := fun wsWareHouseName =>
        Timed.record T A ulNow h wsWareHouseName msg }

instance timed_decidable (T : MyTools) (A : CBnsArea) (l : ULONGLONG × Message)
    (h : Clocked Timed) : Decidable ((timed T A).enabled l h) :=
  inferInstanceAs (Decidable (h.now ≤ l.1))

/-!
## When a warehouse is sent back
-/

/-- Somebody in the queue waits for the warehouse, and its timer has run out. -/
def IsIdle (T : MyTools) (A : CBnsArea) (ulNow : ULONGLONG)
    (wareHouseInfo : WareHouseInfo) (h : Timed) : Prop :=
  (exists itm, itm ∈ h.trade.vPickItem_OnLine ∧ isTimeOut ulNow itm = false ∧
      isListed T A wareHouseInfo itm = true) ∧
    5 * 60 * 1000 ≤
      ulNow.toNat - (h.timer ulNow wareHouseInfo.wsWareHouseName).toNat

/-- The message is a poll of the pick-item queue that finds nobody to pick. -/
def Misses (T : MyTools) (A : CBnsArea) (l : ULONGLONG × Message)
    (h : Clocked Timed) (wareHouseInfo : WareHouseInfo)
    (Result : WarehouseActionResult) : Prop :=
  (exists wsWareHouseName dwChannel dwServerId,
    l.2 = .poll .pickItem wsWareHouseName dwChannel dwServerId Result ∧
      wareHouseInfo =
        WareHouseInfo.extract l.1 wsWareHouseName dwChannel dwServerId) ∧
    firstEligible T A l.1 .pickItem wareHouseInfo h.state.trade = none

/-- Such a poll sends the warehouse back if it is idle, and has no answer else. -/
def ReleasesIdle (T : MyTools) (A : CBnsArea) (l : ULONGLONG × Message)
    (h : Clocked Timed) : Prop :=
  forall wareHouseInfo Result, Misses T A l h wareHouseInfo Result ->
    let polled :=
      acceptPickItemDeal T A l.1 wareHouseInfo Result h.state.trade
    (polled.1.emIsPick = .backToSwitchPlayer ↔
        IsIdle T A l.1 wareHouseInfo h.state) ∧
      (polled.1.emIsPick ≠ .backToSwitchPlayer -> polled.1.emIsPick = .none)

def NoneIdle (T : MyTools) (A : CBnsArea) (l : ULONGLONG × Message)
    (h : Clocked Timed) : Prop :=
  forall wareHouseInfo Result, Misses T A l h wareHouseInfo Result ->
    ¬ IsIdle T A l.1 wareHouseInfo h.state

theorem elapsed_self (ulNow : ULONGLONG) : elapsed ulNow ulNow = 0 := by
  rw [elapsed, UInt64.sub_self]
  rfl

theorem acceptPickItemDeal_missed {ulNow : ULONGLONG}
    {wareHouseInfo : WareHouseInfo} {s : CBnsTrade}
    (hfresh : wareHouseInfo.ulTick = ulNow)
    (hnone : firstEligible T A ulNow .pickItem wareHouseInfo s = none)
    (Result : WarehouseActionResult) :
    (acceptPickItemDeal T A ulNow wareHouseInfo Result s).1.emIsPick = .none := by
  have hrenew : decide (10 * 60 * 1000 ≤ elapsed ulNow wareHouseInfo.ulTick) =
      false := by
    rw [hfresh, elapsed_self]
    rfl
  have hstays : decide (5 * 60 * 1000 ≤ elapsed ulNow wareHouseInfo.ulTick) =
      false := by
    rw [hfresh, elapsed_self]
    rfl
  rw [acceptPickItemDeal, hrenew]
  dsimp only
  split
  · rename_i itm hitm
    cases found_of_none hnone hitm (renewTick_same ulNow _ _)
  · rw [if_neg]
    rw [isSwitchPlayer, renewTick, if_neg Bool.false_ne_true, hstays,
      Bool.and_false]
    exact Bool.false_ne_true

theorem releasesIdle_iff (l : ULONGLONG × Message) (h : Clocked Timed) :
    ReleasesIdle T A l h ↔ NoneIdle T A l h := by
  have hanswer : forall wareHouseInfo Result,
      Misses T A l h wareHouseInfo Result ->
      (acceptPickItemDeal T A l.1 wareHouseInfo Result h.state.trade).1.emIsPick =
        .none := by
    intro wareHouseInfo Result hmisses
    rcases hmisses with ⟨⟨wsWareHouseName, dwChannel, dwServerId, _, heq⟩, hnone⟩
    refine acceptPickItemDeal_missed ?_ hnone Result
    rw [heq]
    rfl
  constructor
  · intro hreleases wareHouseInfo Result hmisses hidle
    have hback := (hreleases wareHouseInfo Result hmisses).left.mpr hidle
    rw [hanswer wareHouseInfo Result hmisses] at hback
    cases hback
  · intro hnone wareHouseInfo Result hmisses
    have hnot := hnone wareHouseInfo Result hmisses
    dsimp only
    rw [hanswer wareHouseInfo Result hmisses]
    refine ⟨⟨nofun, fun hidle => absurd hidle hnot⟩, fun _ => rfl⟩

/--
In a run, every poll that finds nobody to pick sends the warehouse back just when
it is idle exactly if no such poll comes from an idle warehouse.
-/
theorem timed_releases_idle_iff (labels : List (ULONGLONG × Message)) :
    (forall n l, labels[n]? = some l -> ReleasesIdle T A l
        ((timed T A).play (labels.take n) { now := 0, state := {} })) ↔
      forall n l, labels[n]? = some l -> NoneIdle T A l
        ((timed T A).play (labels.take n) { now := 0, state := {} }) := by
  constructor
  · intro hall n l hl
    exact (releasesIdle_iff l _).mp (hall n l hl)
  · intro hall n l hl
    exact (releasesIdle_iff l _).mpr (hall n l hl)

def idleMessages : List (ULONGLONG × Message) :=
  let poll : Message := .poll .pickItem (L "Depot") 3 0x17
    { emWarehouseType := .pickItem, emIsPick := .none }
  [(20, poll),
    (300010, .join .pickItem
      { dwServerId := 0x4
        wsPlayerName := L "Anna"
        wsAccountName := L "anna"
        vWareHouse := [L "Depot"] } {}),
    (300030, poll)]

theorem idleMessages_not_released :
    (timed MyTools.standard CBnsArea.initialized).Admits idleMessages
        { now := 0, state := {} } ∧
      ¬ forall n l, idleMessages[n]? = some l ->
        ReleasesIdle MyTools.standard CBnsArea.initialized l
          ((timed MyTools.standard CBnsArea.initialized).play
            (idleMessages.take n) { now := 0, state := {} }) := by
  refine ⟨by decide, ?_⟩
  intro hall
  have hidle := (hall 2 _ rfl _ _ ⟨⟨_, _, _, rfl, rfl⟩, by decide⟩).left.mpr
    ⟨⟨_, List.mem_singleton.mpr rfl, by decide, by decide⟩, by decide⟩
  exact absurd hidle (by decide)

end CBnsTrade
end BnsKorea
