import BnsKorea.Server.Takeover

/-!
# Refreshing the card table

The table is read from the database by the same function at the start and when
an operator asks for it.  It is emptied first and filled from the rows, and the
reading ends at the first row it cannot take.
-/

namespace BnsKorea
namespace Server

open Library
open Server.CEchoPacket (checkCard)
open Server.CGameServer (occupant)

/-!
## Reading numbers
-/

/-- What `std::stoi` skips in front. -/
def isSpace (c : UInt16) : Bool :=
  c = 32 || (9 ≤ c && c ≤ 13)

def isDigit (c : UInt16) : Bool :=
  48 ≤ c && c ≤ 57

def decimalValue (digits : WString) : Nat :=
  digits.foldl (fun n c => 10 * n + (c.toNat - 48)) 0

/-- `std::stoi` to the base ten; it throws where the result is `none`. -/
def stoi (ws : WString) : Option INT :=
  let body := ws.dropWhile isSpace
  let digits :=
    (if body.head? = some 45 || body.head? = some 43 then body.tail else body)
      |>.takeWhile isDigit
  if digits = [] then none
  else
    let n : Int :=
      if body.head? = some 45 then -decimalValue digits else decimalValue digits
    if -2 ^ 31 ≤ n ∧ n < 2 ^ 31 then some (Int32.ofInt n) else none

example : stoi (L " 0720x") = some 720 := by decide

/-!
## The table
-/

/-- One row of a result set. -/
abbrev Table := List WString

variable (P : Platform) (ulNow : ULONGLONG)

def rowCard (itm : Table) : Option CardInfo :=
  match itm with
  | [wsCardNo, wsSurplusHour, wsActiveTime] =>
      match stoi wsSurplusHour, stoi (wsCardNo.take 4) with
      | some nSurplusHour, some nMaxHour =>
          some
            { wsCardNo := wsCardNo
              nSurplusHour := nSurplusHour
              wsActiveTime := wsActiveTime
              nMaxHour := nMaxHour
              dwTick64 := ulNow
              ulKeepALiveTick := ulNow
              dwCardCrc := P.getCRC32_DWORD (cStr wsCardNo) }
      | _, _ => none
  | _ => none

namespace CCardExtend

/-- `MapCard.insert`: a card whose CRC is taken is not inserted. -/
def insertCard (CardInfo_ : CardInfo) (s : CCardExtend) : CCardExtend where
  mapCard := s.mapCard.insertIfNew CardInfo_.dwCardCrc CardInfo_
  keyed := by
    intro k Card hk
    rw [Std.TreeMap.getElem?_insertIfNew] at hk
    split at hk
    · rename_i hnew
      rw [← Option.some.inj hk]
      exact Std.compare_eq_iff_eq.mp hnew.left
    · exact s.keyed k Card hk

/-- The loop over the rows; what was read before a bad row stays. -/
def readRows : List Table -> CCardExtend -> Bool × CCardExtend
  | [], s => (!s.mapCard.isEmpty, s)
  | itm :: rows, s =>
      match rowCard P ulNow itm with
      | none => (false, s)
      | some CardInfo_ => readRows rows (insertCard CardInfo_ s)

/--
`GetEffectiveCardList` on the table; `VecResult` is what the database answers,
if the statement could be executed.
-/
def getEffectiveCardList (VecResult : Option (List Table)) (s : CCardExtend) :
    Bool × CCardExtend :=
  match VecResult with
  | none => (false, s)
  | some rows => if rows.length = 0 then (false, s) else readRows P ulNow rows {}

/-- `CCardExtend::Initialize`. -/
def initializeMap (VecResult : Option (List Table)) (s : CCardExtend) :
    Bool × CCardExtend :=
  getEffectiveCardList P ulNow VecResult s

end CCardExtend

/-- `CServerCommand::Refresh` on the card table; other tables are not modelled. -/
def refresh (VecParam : List WString) (VecResult : Option (List Table))
    (s : CCardExtend) : CCardExtend :=
  match VecParam with
  | [] => s
  | TypText :: _ =>
      if TypText = L "Card" then (s.initializeMap P ulNow VecResult).2 else s

/-!
## What is read
-/

def cardsRead : List Table -> List CardInfo
  | [] => []
  | itm :: rows =>
      match rowCard P ulNow itm with
      | none => []
      | some CardInfo_ => CardInfo_ :: cardsRead rows

section

variable {P ulNow}

theorem rowCard_occupant {itm : Table} {Card : CardInfo}
    (h : rowCard P ulNow itm = some Card) : occupant Card = occupant {} := by
  unfold rowCard at h
  split at h
  · split at h
    · rw [← Option.some.inj h]
      rfl
    · cases h
  · cases h

theorem cardsRead_occupant {rows : List Table} {Card : CardInfo}
    (h : Card ∈ cardsRead P ulNow rows) : occupant Card = occupant {} := by
  induction rows with
  | nil => cases h
  | cons itm rows ih =>
      cases hitm : rowCard P ulNow itm with
      | none => simp [cardsRead, hitm] at h
      | some Card' =>
          rw [cardsRead, hitm] at h
          rcases List.mem_cons.mp h with hhere | hrest
          · rw [hhere]
            exact rowCard_occupant hitm
          · exact ih hrest

theorem findCard_insertCard (CardInfo_ : CardInfo) (s : CCardExtend)
    (dwCardCrc : DWORD) :
    (s.insertCard CardInfo_).findCard_By_CRC dwCardCrc =
      (s.findCard_By_CRC dwCardCrc).or
        (if CardInfo_.dwCardCrc = dwCardCrc then some CardInfo_ else none) := by
  show (s.mapCard.insertIfNew CardInfo_.dwCardCrc CardInfo_)[dwCardCrc]? =
    s.mapCard[dwCardCrc]?.or _
  by_cases hcrc : CardInfo_.dwCardCrc = dwCardCrc
  · rw [if_pos hcrc, ← hcrc]
    cases hold : s.mapCard[CardInfo_.dwCardCrc]? with
    | none => exact OrderedMaps.getElem?_insertIfNew_of_none CardInfo_ hold
    | some old =>
        rw [OrderedMaps.getElem?_insertIfNew_of_some CardInfo_ hold, hold]
        rfl
  · rw [OrderedMaps.getElem?_insertIfNew_of_ne _ _ hcrc, if_neg hcrc, Option.or_none]

theorem findCard_readRows (rows : List Table) (s : CCardExtend)
    (dwCardCrc : DWORD) :
    (s.readRows P ulNow rows).2.findCard_By_CRC dwCardCrc =
      (s.findCard_By_CRC dwCardCrc).or
        ((cardsRead P ulNow rows).find? fun Card =>
          decide (Card.dwCardCrc = dwCardCrc)) := by
  induction rows generalizing s with
  | nil => simp [CCardExtend.readRows, cardsRead]
  | cons itm rows ih =>
      cases hitm : rowCard P ulNow itm with
      | none => simp [CCardExtend.readRows, cardsRead, hitm]
      | some Card =>
          simp only [CCardExtend.readRows, cardsRead, hitm]
          rw [ih, findCard_insertCard, Option.or_assoc, List.find?_cons]
          by_cases hcrc : Card.dwCardCrc = dwCardCrc
          · simp [hcrc]
          · simp [hcrc]

end

/-!
## What a refresh keeps
-/

variable (P : Platform) (ulNow : ULONGLONG)

/-- A card that is there before and after has the same account and token. -/
def KeepsCards (before after : CCardExtend) : Prop :=
  forall dwCardCrc old new, before.findCard_By_CRC dwCardCrc = some old ->
    after.findCard_By_CRC dwCardCrc = some new -> occupant new = occupant old

/-- The database lists the card of the CRC with hours left. -/
def Listed (rows : List Table) (dwCardCrc : DWORD) : Prop :=
  exists itm Card, itm ∈ rows ∧ rowCard P ulNow itm = some Card ∧
    Card.dwCardCrc = dwCardCrc ∧ 0 < Card.nSurplusHour

/-- Who was let through before is let through after, if the card is listed. -/
def KeepsConnections (VecResult : Option (List Table))
    (before after : CCardExtend) : Prop :=
  forall ulBefore ulAfter GameClient Checked,
    checkCard ulBefore GameClient before = .ok Checked ->
      (exists rows, VecResult = some rows ∧
        Listed P ulNow rows GameClient.account.dwCardCrc) ->
      exists Again, checkCard ulAfter Checked after = .ok Again

/--
The condition on a refresh: the database has nothing to say, or the cards of the
table that are read belong to nobody, and those that are listed with hours left
are read.
-/
def Harmless (VecResult : Option (List Table)) (s : CCardExtend) : Prop :=
  forall rows, VecResult = some rows -> rows ≠ [] ->
    forall dwCardCrc old, s.findCard_By_CRC dwCardCrc = some old ->
      ((exists Card, Card ∈ cardsRead P ulNow rows ∧ Card.dwCardCrc = dwCardCrc) ->
          occupant old = occupant {}) ∧
        (dwCardCrc ≠ 0 -> Listed P ulNow rows dwCardCrc ->
          exists Card, Card ∈ cardsRead P ulNow rows ∧ Card.dwCardCrc = dwCardCrc)

section

variable {P ulNow}

theorem checkCard_passes_iff {ulAt : ULONGLONG} {GameClient : CGameClient}
    {s : CCardExtend} :
    (exists Checked, checkCard ulAt GameClient s = .ok Checked) ↔
      GameClient.account.dwCardCrc ≠ 0 ∧ GameClient.account.dwToken ≠ 0 ∧
        (s.findCard_By_CRC GameClient.account.dwCardCrc).isSome := by
  unfold checkCard
  dsimp only
  by_cases hcrc : GameClient.account.dwCardCrc = 0
  · simp [hcrc]
  · by_cases htoken : GameClient.account.dwToken = 0
    · simp [hcrc, htoken]
    · cases hCard : s.findCard_By_CRC GameClient.account.dwCardCrc with
      | none => simp [hcrc, htoken]
      | some Card => simp [hcrc, htoken, s.keyed _ _ hCard]

theorem checkCard_same {ulAt : ULONGLONG} {GameClient Checked : CGameClient}
    {s : CCardExtend} (h : checkCard ulAt GameClient s = .ok Checked) :
    Checked.account.dwCardCrc = GameClient.account.dwCardCrc ∧
      Checked.account.dwToken = GameClient.account.dwToken := by
  unfold checkCard at h
  dsimp only at h
  split at h
  · cases h
  · split at h
    · cases h
    · split at h
      · cases h
      · split at h
        · cases h
        · cases h
          exact ⟨rfl, rfl⟩

theorem keepsConnections_iff {VecResult : Option (List Table)}
    {before after : CCardExtend} :
    KeepsConnections P ulNow VecResult before after ↔
      forall dwCardCrc, dwCardCrc ≠ 0 ->
        (before.findCard_By_CRC dwCardCrc).isSome ->
        (exists rows, VecResult = some rows ∧ Listed P ulNow rows dwCardCrc) ->
        (after.findCard_By_CRC dwCardCrc).isSome := by
  constructor
  · intro h dwCardCrc hcrc hbefore hlisted
    let GameClient : CGameClient :=
      { account := { dwCardCrc := dwCardCrc, dwToken := 1 }
        crossAreaTeamMember := { emClasses := 0 } }
    have hpasses : exists Checked, checkCard 0 GameClient before = .ok Checked :=
      checkCard_passes_iff.mpr ⟨hcrc, (by decide : (1 : DWORD) ≠ 0), hbefore⟩
    rcases hpasses with ⟨Checked, hChecked⟩
    have hagain := checkCard_passes_iff.mp (h 0 0 GameClient Checked hChecked hlisted)
    rw [(checkCard_same hChecked).left] at hagain
    exact hagain.right.right
  · intro h ulBefore ulAfter GameClient Checked hChecked hlisted
    rcases checkCard_passes_iff.mp ⟨Checked, hChecked⟩ with ⟨hcrc, htoken, hbefore⟩
    rcases checkCard_same hChecked with ⟨hsameCrc, hsameToken⟩
    apply checkCard_passes_iff.mpr
    rw [hsameCrc, hsameToken]
    exact ⟨hcrc, htoken, h _ hcrc hbefore hlisted⟩

theorem findCard_read {rows : List Table} (dwCardCrc : DWORD) :
    (CCardExtend.readRows P ulNow rows {}).2.findCard_By_CRC dwCardCrc =
      (cardsRead P ulNow rows).find? fun Card =>
        decide (Card.dwCardCrc = dwCardCrc) := by
  rw [findCard_readRows]
  simp [CCardExtend.findCard_By_CRC]

theorem findCard_read_isSome {rows : List Table} {dwCardCrc : DWORD} :
    ((CCardExtend.readRows P ulNow rows {}).2.findCard_By_CRC dwCardCrc).isSome ↔
      exists Card, Card ∈ cardsRead P ulNow rows ∧ Card.dwCardCrc = dwCardCrc := by
  rw [findCard_read]
  simp

theorem read_keepsCards_iff {rows : List Table} {s : CCardExtend} :
    KeepsCards s (CCardExtend.readRows P ulNow rows {}).2 ↔
      forall dwCardCrc old, s.findCard_By_CRC dwCardCrc = some old ->
        (exists Card, Card ∈ cardsRead P ulNow rows ∧ Card.dwCardCrc = dwCardCrc) ->
        occupant old = occupant {} := by
  have hfresh : forall {dwCardCrc Card},
      (CCardExtend.readRows P ulNow rows {}).2.findCard_By_CRC dwCardCrc =
        some Card -> occupant Card = occupant {} := by
    intro dwCardCrc Card h
    rw [findCard_read] at h
    exact cardsRead_occupant (List.mem_of_find?_eq_some h)
  constructor
  · intro h dwCardCrc old hold hread
    rcases Option.isSome_iff_exists.mp (findCard_read_isSome.mpr hread) with
      ⟨new, hnew⟩
    rw [← h dwCardCrc old new hold hnew]
    exact hfresh hnew
  · intro h dwCardCrc old new hold hnew
    have hread := findCard_read_isSome.mp (Option.isSome_iff_exists.mpr ⟨new, hnew⟩)
    rw [hfresh hnew, h dwCardCrc old hold hread]

theorem read_keepsConnections_iff {rows : List Table} {s : CCardExtend} :
    KeepsConnections P ulNow (some rows) s
        (CCardExtend.readRows P ulNow rows {}).2 ↔
      forall dwCardCrc old, s.findCard_By_CRC dwCardCrc = some old ->
        dwCardCrc ≠ 0 -> Listed P ulNow rows dwCardCrc ->
        exists Card, Card ∈ cardsRead P ulNow rows ∧ Card.dwCardCrc = dwCardCrc := by
  rw [keepsConnections_iff]
  constructor
  · intro h dwCardCrc old hold hcrc hlisted
    have hbefore := Option.isSome_iff_exists.mpr ⟨old, hold⟩
    exact findCard_read_isSome.mp (h dwCardCrc hcrc hbefore ⟨rows, rfl, hlisted⟩)
  · intro h dwCardCrc hcrc hbefore hlisted
    rcases Option.isSome_iff_exists.mp hbefore with ⟨old, hold⟩
    rcases hlisted with ⟨rows', hrows, hlisted⟩
    rw [← Option.some.inj hrows] at hlisted
    exact findCard_read_isSome.mpr (h dwCardCrc old hold hcrc hlisted)

theorem refresh_unchanged {VecResult : Option (List Table)}
    (h : forall rows, VecResult = some rows -> rows = []) (s : CCardExtend) :
    refresh P ulNow [L "Card"] VecResult s = s := by
  cases VecResult with
  | none => rfl
  | some rows =>
      rw [h rows rfl]
      rfl

theorem refresh_rows {rows : List Table} (h : rows ≠ []) (s : CCardExtend) :
    refresh P ulNow [L "Card"] (some rows) s =
      (CCardExtend.readRows P ulNow rows {}).2 := by
  show (if rows.length = 0 then (false, s)
    else CCardExtend.readRows P ulNow rows {}).2 = _
  rw [if_neg (by simpa using h)]

end

/--
A refresh keeps the sessions of the cards and the connections that were let
through exactly if it is harmless.
-/
theorem refresh_keeps_sessions_iff (VecResult : Option (List Table))
    (s : CCardExtend) :
    KeepsCards s (refresh P ulNow [L "Card"] VecResult s) ∧
        KeepsConnections P ulNow VecResult s
          (refresh P ulNow [L "Card"] VecResult s) ↔
      Harmless P ulNow VecResult s := by
  by_cases htold : exists rows, VecResult = some rows ∧ rows ≠ []
  · rcases htold with ⟨rows, hresult, hrows⟩
    rw [hresult, refresh_rows hrows, read_keepsCards_iff, read_keepsConnections_iff]
    constructor
    · intro h rows' hrows' _ dwCardCrc old hold
      rw [← Option.some.inj hrows']
      exact ⟨h.left dwCardCrc old hold, h.right dwCardCrc old hold⟩
    · intro h
      have hrest := h rows rfl hrows
      exact ⟨fun dwCardCrc old hold => (hrest dwCardCrc old hold).left,
        fun dwCardCrc old hold => (hrest dwCardCrc old hold).right⟩
  · have hnothing : forall rows, VecResult = some rows -> rows = [] := by
      intro rows hresult
      by_cases hrows : rows = []
      · exact hrows
      · exact absurd ⟨rows, hresult, hrows⟩ htold
    have hharmless : Harmless P ulNow VecResult s := by
      intro rows hresult hrows
      exact absurd (hnothing rows hresult) hrows
    rw [refresh_unchanged hnothing, iff_true_right hharmless, keepsConnections_iff]
    constructor
    · intro dwCardCrc old new hold hnew
      rw [hold, Option.some.injEq] at hnew
      rw [hnew]
    · exact fun dwCardCrc _ hbefore _ => hbefore

def cardInUse : CardInfo where
  wsCardNo := L "0720A"
  dwCardCrc := Platform.standard.getCRC32_DWORD (L "0720A")
  nMaxHour := 720
  nSurplusHour := 5
  dwToken := 77
  bExit := true
  wsIp := L "1.2.3.4"
  wsAccountName := L "anna"

def tableInUse : CCardExtend :=
  CCardExtend.insertCard cardInUse {}

/-- The card in use, listed with hours left, has no session after the refresh. -/
theorem refresh_forgets_session :
    ¬ (KeepsCards tableInUse (refresh Platform.standard 0 [L "Card"]
          (some [[L "0720A", L "5", L "2016"]]) tableInUse) ∧
        KeepsConnections Platform.standard 0 (some [[L "0720A", L "5", L "2016"]])
          tableInUse (refresh Platform.standard 0 [L "Card"]
            (some [[L "0720A", L "5", L "2016"]]) tableInUse)) := by
  intro h
  have hold : tableInUse.findCard_By_CRC cardInUse.dwCardCrc = some cardInUse := by
    decide +kernel
  have hnew : (refresh Platform.standard 0 [L "Card"]
      (some [[L "0720A", L "5", L "2016"]]) tableInUse).findCard_By_CRC
        cardInUse.dwCardCrc =
      rowCard Platform.standard 0 [L "0720A", L "5", L "2016"] := by
    decide +kernel
  have hsession := h.left cardInUse.dwCardCrc cardInUse _ hold hnew
  revert hsession
  decide +kernel

end Server
end BnsKorea
