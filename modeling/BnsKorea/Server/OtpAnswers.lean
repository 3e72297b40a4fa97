import BnsKorea.Otp.BadKeys
import BnsKorea.Server.EchoPacket

/-!
# Answers to the question for a password

The handler takes the key of the account and asks for its password.  It does not
look at what the call returned: the variable goes out in any case.
-/

namespace BnsKorea
namespace Server

open Library.Otp
open CLHmacSha1 (Addresses Overruns)

namespace CBnsOTP

variable (T : AsciiConversion) (heap : forall n, List.Vector BYTE n)
  (address : Addresses) (now : LONGLONG)

def calculateOTP (wsAccountKey : WString) (dwKey : DWORD) : Bool × DWORD :=
  match CLHmacSha1.calcOTPValue T heap address now wsAccountKey with
  | some dwResult => (true, dwResult)
  | none => (false, dwKey)

/-- The keys are those of the map; the variable of the handler starts at zero. -/
def outside (MapOTP : Std.TreeMap WString WString) (O : Outside) : Outside :=
  { O with
    findOTPKey_By_AccountName := fun wsAccountName => MapOTP[wsAccountName]?
    calculateOTP := fun wsKey => (calculateOTP T heap address now wsKey 0).2 }

/-- The call fails, and the client is not sent a password. -/
structure IsError (P : Platform) (O : Outside)
    (MapOTP : Std.TreeMap WString WString) (GameClient : CGameClient)
    (s : Services) (wsKey : WString) : Prop where
  call : (calculateOTP T heap address now wsKey 0).1 = false
  message : (CEchoPacket.calculateOTP P (outside T heap address now MapOTP O)
    GameClient s).1.buffer.head ≠ some SockMsg.otp

theorem calculateOTP_false_iff (wsKey : WString) (dwKey : DWORD) :
    (calculateOTP T heap address now wsKey dwKey).1 = false ↔
      CLHmacSha1.calcOTPValue T heap address now wsKey = none := by
  unfold calculateOTP
  split
  · rename_i dwResult hresult
    rw [hresult]
    constructor
    · intro h
      cases h
    · intro h
      cases h
  · rename_i hresult
    exact ⟨fun _ => hresult, fun _ => rfl⟩

theorem reply_of_key (P : Platform) (O : Outside)
    {MapOTP : Std.TreeMap WString WString} {GameClient : CGameClient}
    (s : Services) {wsKey : WString}
    (h : MapOTP[GameClient.account.wsAccountName]? = some wsKey) :
    (CEchoPacket.calculateOTP P (outside T heap address now MapOTP O)
        GameClient s).1 =
      .answer (some SockMsg.otp)
        (.value (calculateOTP T heap address now wsKey 0).2) := by
  have hfind : (outside T heap address now MapOTP O).findOTPKey_By_AccountName
      GameClient.account.wsAccountName = some wsKey := h
  unfold CEchoPacket.calculateOTP
  rw [hfind]
  rfl

theorem not_isError (P : Platform) (O : Outside)
    {MapOTP : Std.TreeMap WString WString} {GameClient : CGameClient}
    (s : Services) {wsKey : WString}
    (h : MapOTP[GameClient.account.wsAccountName]? = some wsKey) :
    ¬ IsError T heap address now P O MapOTP GameClient s wsKey := by
  intro herror
  apply herror.message
  rw [reply_of_key T heap address now P O s h]
  rfl

theorem value_eq_none {c : UInt16} (hascii : c < 128)
    (hc : c ∉ L "ABCDEFGHIJKLMNOPQRSTUVWXYZ234567") :
    Base32.value c.toUInt8 = none := by
  have hall : forall n : Fin 128,
      UInt16.ofNat n ∈ L "ABCDEFGHIJKLMNOPQRSTUVWXYZ234567" ∨
        Base32.value (UInt16.ofNat n).toUInt8 = none := by
    decide +kernel
  rcases hall ⟨c.toNat, hascii⟩ with hmem | hnone
  · rw [UInt16.ofNat_toNat] at hmem
    exact absurd hmem hc
  · rwa [UInt16.ofNat_toNat] at hnone

theorem calculateOTP_badKey {wsKey : WString}
    (hkey : ¬ wsKey ⊆ L "ABCDEFGHIJKLMNOPQRSTUVWXYZ234567")
    (hascii : forall c, c ∈ wsKey -> c < 128) {strKey : List BYTE}
    (hconversion : T.unicodeToASCII wsKey = some strKey) (hnow : 0 ≤ now) :
    exists dwResult,
      calculateOTP T heap address now wsKey 0 = (true, dwResult) ∧
      dwResult.toNat = totp [] now.toInt.toNat := by
  have hbad : exists c, c ∈ wsKey ∧
      c ∉ L "ABCDEFGHIJKLMNOPQRSTUVWXYZ234567" := by
    rw [List.subset_def] at hkey
    simpa using hkey
  rcases hbad with ⟨c, hmem, hc⟩
  have hstr : strKey = wsKey.map UInt16.toUInt8 :=
    T.unicodeToASCII_ascii wsKey strKey hascii hconversion
  have hmemory := T.unicodeToASCII_length wsKey strKey hconversion
  have hlength : strKey.length = wsKey.length := by
    rw [hstr, List.length_map]
  have hbyte : c.toUInt8 ∈ strKey := by
    rw [hstr]
    exact List.mem_map_of_mem hmem
  have hfits : ¬ Overruns strKey := CLHmacSha1.not_overruns (by omega)
  rcases CLHmacSha1.calcOTPValue_badKey T heap address now hnow hconversion hbyte
    (value_eq_none (hascii c hmem) hc) hfits with ⟨dwResult, hresult, hvalue⟩
  refine ⟨dwResult, ?_, hvalue⟩
  rw [calculateOTP, hresult]

/-- No bad key is an error: the call fails only where there is no copy of the
key, or its array too short, and the message never. -/
theorem badKey_answers {wsKey : WString}
    (hkey : ¬ wsKey ⊆ L "ABCDEFGHIJKLMNOPQRSTUVWXYZ234567")
    (P : Platform) (O : Outside) {MapOTP : Std.TreeMap WString WString}
    {GameClient : CGameClient} (s : Services)
    (hfind : MapOTP[GameClient.account.wsAccountName]? = some wsKey) :
    ¬ IsError T heap address now P O MapOTP GameClient s wsKey ∧
      (CEchoPacket.calculateOTP P (outside T heap address now MapOTP O)
          GameClient s).1 =
        .answer (some SockMsg.otp)
          (.value (calculateOTP T heap address now wsKey 0).2) ∧
      ((calculateOTP T heap address now wsKey 0).1 = false ↔
        T.unicodeToASCII wsKey = none ∨
          exists strKey, T.unicodeToASCII wsKey = some strKey ∧
            Overruns strKey) ∧
      ((forall c, c ∈ wsKey -> c < 128) -> T.unicodeToASCII wsKey ≠ none ->
        0 ≤ now ->
          exists dwResult,
            calculateOTP T heap address now wsKey 0 = (true, dwResult) ∧
            dwResult.toNat = totp [] now.toInt.toNat) := by
  refine ⟨not_isError T heap address now P O s hfind,
    reply_of_key T heap address now P O s hfind, ?_, ?_⟩
  · rw [calculateOTP_false_iff]
    exact CLHmacSha1.calcOTPValue_eq_none_iff T heap address now
  · intro hascii hsome hnow
    cases hconversion : T.unicodeToASCII wsKey with
    | none => exact absurd hconversion hsome
    | some strKey =>
        exact calculateOTP_badKey T heap address now hkey hascii hconversion hnow

section

def anna : CGameClient where
  account := { wsAccountName := L "anna" }
  crossAreaTeamMember := { emClasses := 0 }

def annaServices : Services where
  cards := {}
  crossAreaTeam := { mapDungeonClasses := ∅ }

def annaKeys : Std.TreeMap WString WString :=
  (∅ : Std.TreeMap WString WString).insert (L "anna") (L "G0ZDGNBV")

def annaHeap (n : Nat) : List.Vector BYTE n :=
  List.Vector.replicate n 0xCD

def annaAddresses : Addresses where
  szEncodeText := 0
  szEncodeKey := 4
  InnerHash := 9

theorem annaKeys_anna :
    annaKeys[anna.account.wsAccountName]? = some (L "G0ZDGNBV") := by
  decide +kernel

theorem annaKey_ascii {c : UInt16} (hc : c ∈ L "G0ZDGNBV") : c < 128 := by
  have hall : (L "G0ZDGNBV").all (fun c => decide (c < 128)) = true := by decide
  exact of_decide_eq_true (List.all_eq_true.mp hall c hc)

theorem anna_badKey_answers :
    ¬ IsError AsciiConversion.standard annaHeap annaAddresses 59
        Platform.standard {} annaKeys anna annaServices (L "G0ZDGNBV") :=
  (badKey_answers AsciiConversion.standard annaHeap annaAddresses 59
    (by decide) Platform.standard {} annaServices annaKeys_anna).left

/-- The password of the empty key is sent to her. -/
theorem anna_sent_emptyKey :
    ¬ IsError AsciiConversion.standard annaHeap annaAddresses 59
        Platform.standard {} annaKeys anna annaServices (L "G0ZDGNBV") ∧
      exists dwResult,
        calculateOTP AsciiConversion.standard annaHeap annaAddresses 59
            (L "G0ZDGNBV") 0 = (true, dwResult) ∧
          dwResult.toNat = totp [] 59 ∧
          (CEchoPacket.calculateOTP Platform.standard
              (outside AsciiConversion.standard annaHeap annaAddresses 59
                annaKeys {}) anna annaServices).1 =
            .answer (some SockMsg.otp) (.value dwResult) := by
  refine ⟨not_isError _ _ _ _ _ _ _ annaKeys_anna, ?_⟩
  have hnow : (0 : LONGLONG) ≤ 59 := by decide
  rcases calculateOTP_badKey AsciiConversion.standard annaHeap annaAddresses 59
    (by decide : ¬ L "G0ZDGNBV" ⊆ L "ABCDEFGHIJKLMNOPQRSTUVWXYZ234567")
    (fun _ => annaKey_ascii)
    (AsciiConversion.standard_unicodeToASCII (by decide)) hnow with
    ⟨dwResult, hresult, hvalue⟩
  refine ⟨dwResult, hresult, hvalue, ?_⟩
  rw [reply_of_key AsciiConversion.standard annaHeap annaAddresses 59 _ _ _
    annaKeys_anna, hresult]

end

end CBnsOTP
end Server
end BnsKorea
