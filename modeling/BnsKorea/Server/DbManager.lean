import BnsKorea.Library.Refills
import BnsKorea.Server.Refresh

/-!
# Tables out of the database

Three tables are read from the database in one way: the map that is in use is
cleared when the statement has returned rows, and filled row by row.  A row with
another number of columns, or with a number that cannot be read, ends it.
-/

namespace BnsKorea
namespace Server

open Library Library.Refills

namespace CBnsDbManager

/-!
## The three tables
-/

section

variable (P : Platform) (ulNow : ULONGLONG)

def cardEntry (itm : Table) : Option (DWORD × CardInfo) :=
  (rowCard P ulNow itm).map fun CardInfo_ => (CardInfo_.dwCardCrc, CardInfo_)

def configEntry (itm : Table) : Option (WString × WString) :=
  match itm with
  | [wsAccountName, wsPlayerName, wsConfigName, wsConfigValue] =>
      let ClientConfigContent_ : ClientConfigContent := {
        wsAccountName := wsAccountName
        wsPlayerName := wsPlayerName
        configContent := { wsConfigName := wsConfigName } }
      some (ClientConfigContent_.to_wstring P.character, wsConfigValue)
  | _ => none

def otpEntry (itm : Table) : Option (WString × WString) :=
  match itm with
  | [wsAccountName, wsAccountKey] => some (wsAccountName, wsAccountKey)
  | _ => none

/-!
What a number that cannot be read throws is caught around the whole function,
which then is `FALSE`.
-/

def getEffectiveCardList (VecResult : Option (List Table))
    (MapCard : Std.TreeMap DWORD CardInfo) : Bool × Std.TreeMap DWORD CardInfo :=
  refill (cardEntry P ulNow) VecResult MapCard

def getCloudConfigList (VecResult : Option (List Table))
    (MapConfig : Std.TreeMap WString WString) :
    Bool × Std.TreeMap WString WString :=
  refill (configEntry P) VecResult MapConfig

def getOTPContent (VecResult : Option (List Table))
    (MapOTP : Std.TreeMap WString WString) :
    Bool × Std.TreeMap WString WString :=
  refill otpEntry VecResult MapOTP

end

variable {P : Platform} {ulNow : ULONGLONG}

theorem readRows_eq_fill (rows : List Table) (s : CCardExtend) :
    ((s.readRows P ulNow rows).1, (s.readRows P ulNow rows).2.mapCard) =
      fill (cardEntry P ulNow) rows s.mapCard := by
  induction rows generalizing s with
  | nil => rfl
  | cons itm rows ih =>
      rw [CCardExtend.readRows, fill, cardEntry]
      cases rowCard P ulNow itm with
      | none => rfl
      | some CardInfo_ => exact ih (s.insertCard CardInfo_)

theorem initializeMap_eq (VecResult : Option (List Table)) (s : CCardExtend) :
    ((s.initializeMap P ulNow VecResult).1,
        (s.initializeMap P ulNow VecResult).2.mapCard) =
      getEffectiveCardList P ulNow VecResult s.mapCard := by
  cases VecResult with
  | none => rfl
  | some rows =>
      unfold CCardExtend.initializeMap CCardExtend.getEffectiveCardList
        getEffectiveCardList refill
      dsimp only
      split
      · rfl
      · exact readRows_eq_fill rows {}

/-!
## Activating a card
-/

/-- What the database answers to the statements about one card. -/
structure Database where
  proc_RechargeCard : DWORD -> WString -> Option WString := fun _ _ => none
  proc_GetCard : DWORD -> Option (List Table) := fun _ => none

section

variable (P : Platform) (ulNow : ULONGLONG) (DB : Database)

/-- The card of the first row; it is given the CRC that was asked for. -/
def findCard_By_CRC (dwCardCrc : DWORD) : Option CardInfo :=
  match DB.proc_GetCard dwCardCrc with
  | some (itm :: _) =>
      (rowCard P ulNow itm).map fun Card => { Card with dwCardCrc := dwCardCrc }
  | _ => none

def activeCard (ClientAccountContent_ : ClientAccountContent)
    (dwCardCrc : DWORD) : Option CardInfo :=
  match DB.proc_RechargeCard dwCardCrc ClientAccountContent_.wsIp with
  | none => none
  | some wsResult =>
      if wsResult.tails.any (L "充值成功").isPrefixOf then
        findCard_By_CRC P ulNow DB dwCardCrc
      else none

end

theorem activeCard_dwCardCrc {DB : Database} {Account : ClientAccountContent}
    {dwCardCrc : DWORD} {Card : CardInfo}
    (h : activeCard P ulNow DB Account dwCardCrc = some Card) :
    Card.dwCardCrc = dwCardCrc := by
  unfold activeCard at h
  split at h
  · cases h
  · split at h
    · unfold findCard_By_CRC at h
      split at h
      · rcases Option.map_eq_some_iff.mp h with ⟨row, _, hCard⟩
        rw [← hCard]
      · cases h
    · cases h

/-!
## All or nothing
-/

/--
Each of the three refreshes keeps the old table if it fails, and else has one
entry for each key of the rows, exactly if the old table is what an answer with
an unreadable row leaves.
-/
theorem refreshes_allOrNothing_iff (P : Platform) (ulNow : ULONGLONG)
    (VecResult : Option (List Table)) :
    (forall MapCard : Std.TreeMap DWORD CardInfo,
      AllOrNothing (cardEntry P ulNow) VecResult MapCard
          (getEffectiveCardList P ulNow VecResult MapCard) ↔
        Coincides (cardEntry P ulNow) VecResult MapCard) ∧
    (forall MapConfig : Std.TreeMap WString WString,
      AllOrNothing (configEntry P) VecResult MapConfig
          (getCloudConfigList P VecResult MapConfig) ↔
        Coincides (configEntry P) VecResult MapConfig) ∧
    forall MapOTP : Std.TreeMap WString WString,
      AllOrNothing otpEntry VecResult MapOTP
          (getOTPContent VecResult MapOTP) ↔
        Coincides otpEntry VecResult MapOTP :=
  ⟨refill_allOrNothing_iff VecResult, refill_allOrNothing_iff VecResult,
    refill_allOrNothing_iff VecResult⟩

/-- The hours of the only row are no number, and the card in use is gone. -/
theorem initialize_forgets_table :
    (tableInUse.initializeMap Platform.standard 0
        (some [[L "0720A", L "many", L "2016"]])).1 = false ∧
      ¬ AllOrNothing (cardEntry Platform.standard 0)
        (some [[L "0720A", L "many", L "2016"]]) tableInUse.mapCard
        (getEffectiveCardList Platform.standard 0
          (some [[L "0720A", L "many", L "2016"]]) tableInUse.mapCard) := by
  refine ⟨by decide +kernel, ?_⟩
  intro h
  have hsame := h.failed (by decide +kernel) cardInUse.dwCardCrc
  revert hsame
  decide +kernel

end CBnsDbManager
end Server
end BnsKorea
