import BnsKorea.Common.SocketBuffer
import BnsKorea.Config.CloudConfig
import BnsKorea.CrossAreaTeam.Model
import BnsKorea.TaskTeam.Queries
import BnsKorea.Trade.Idle

/-!
# What the handlers of the server work on

The services of the server and the record of a connection.  Cards are kept under
their own CRC, and nothing the server does to a card changes its CRC.  What a
handler asks the database, the script files or the one-time passwords for is
given with the call.
-/

namespace BnsKorea
namespace Server

open Library

/-!
## Cards
-/

theorem keyed_empty (dwCardCrc : DWORD) (Card : CardInfo)
    (h : (∅ : Std.TreeMap DWORD CardInfo)[dwCardCrc]? = some Card) :
    Card.dwCardCrc = dwCardCrc := by
  simp at h

/-- The card table; every card is under its CRC. -/
structure CCardExtend where
  mapCard : Std.TreeMap DWORD CardInfo := ∅
  keyed : forall (dwCardCrc : DWORD) (Card : CardInfo),
    mapCard[dwCardCrc]? = some Card -> Card.dwCardCrc = dwCardCrc := by
      exact BnsKorea.Server.keyed_empty

namespace CCardExtend

def findCard_By_CRC (dwCardCrc : DWORD) (s : CCardExtend) : Option CardInfo :=
  s.mapCard[dwCardCrc]?

def setCardContent (dwCardCrc : DWORD) (ActionPtr : CardInfo -> CardInfo)
    (hcrc : forall Card, (ActionPtr Card).dwCardCrc = Card.dwCardCrc)
    (s : CCardExtend) : CCardExtend where
  mapCard :=
    match s.mapCard[dwCardCrc]? with
    | none => s.mapCard
    | some Card => s.mapCard.insert dwCardCrc (ActionPtr Card)
  keyed := by
    intro k Card hk
    split at hk
    · exact s.keyed k Card hk
    · rename_i old hold
      rw [OrderedMaps.getElem?_insert] at hk
      split at hk
      · rename_i hsame
        rw [← Option.some.inj hk, hcrc, s.keyed dwCardCrc old hold, hsame]
      · exact s.keyed k Card hk

/-- `ActiveCard` is what the database answers. -/
def tryActiveCard (ActiveCard : DWORD -> Option CardInfo) (dwCrc : DWORD)
    (s : CCardExtend) : Option CardInfo × CCardExtend :=
  match ActiveCard dwCrc with
  | none => (none, s)
  | some Card =>
      (some Card,
        { mapCard := s.mapCard.insertIfNew Card.dwCardCrc Card
          keyed := by
            intro k Card' hk
            rw [Std.TreeMap.getElem?_insertIfNew] at hk
            split at hk
            · rename_i hnew
              rw [← Option.some.inj hk]
              exact Std.compare_eq_iff_eq.mp hnew.left
            · exact s.keyed k Card' hk })

end CCardExtend

/-!
## Connections
-/

structure CGameClient where
  account : ClientAccountContent := {}
  /-- Constructed by the first `GetClientTeamInfo`. -/
  teamContent : ClientTeamInfo := {}
  /-- Constructed by the first `GetCrossAreaTeamMember`, its class unset. -/
  crossAreaTeamMember : CrossAreaTeamMember

structure Services where
  cards : CCardExtend
  taskTeam : CBnsTaskTeam := {}
  crossAreaTeam : CCrossAreaTeam
  trade : CBnsTrade := {}
  config : CCloudConfigExtend := {}

/-!
## Outside
-/

/-- What the server computes with functions that are not modelled. -/
structure Platform where
  tools : MyTools
  character : CCharacter
  area : CBnsArea
  /-- `GetCRC32_DWORD` of a text. -/
  getCRC32_DWORD : WString -> DWORD
  /-- `std::to_wstring` of a `float`. -/
  to_wstring : UInt32 -> WString

/-- A bit of a CRC-32, lowest bit first. -/
def crc32Bit (crc : DWORD) : DWORD :=
  if crc &&& 1 = 1 then (crc >>> 1) ^^^ 0xEDB88320 else crc >>> 1

def crc32Byte (crc : DWORD) (b : BYTE) : DWORD :=
  Nat.repeat crc32Bit 8 (crc ^^^ b.toUInt32)

def crc32 (bytes : List BYTE) : DWORD :=
  ~~~ bytes.foldl crc32Byte 0xFFFFFFFF

def Platform.standard : Platform where
  tools := MyTools.standard
  character := CCharacter.standard
  area := CBnsArea.initialized
  getCRC32_DWORD ws :=
    crc32 (ws.flatMap fun (u : UInt16) => [u.toUInt8, (u >>> 8).toUInt8])
  to_wstring _ := L "1.000000"

/-- The answers a handler gets from outside during one call. -/
structure Outside where
  getRand_For_DWORD : DWORD := 0
  activeCard : ClientAccountContent -> DWORD -> Option CardInfo :=
    fun _ _ => none
  getClientTitle : WString -> WString := fun _ => []
  findScriptText_By_ScriptName : WString -> Option CipherScriptText :=
    fun _ => none
  findOTPKey_By_AccountName : WString -> Option WString := fun _ => none
  calculateOTP : WString -> DWORD := fun _ => 0
  queryDailyTaskSchedule : ClientAccountContent -> List WString := fun _ => []
  queryAccountSeriaNumber : WString -> Option SocketAccountVirtualSeriaNumber :=
    fun _ => none
  /-- What the fields hold that nobody assigns. -/
  junk : DWORD := 0

end Server
end BnsKorea
