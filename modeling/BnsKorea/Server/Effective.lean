import BnsKorea.Server.Refresh

/-!
# Effective sessions

Two checks of a session stand side by side.  The one of the card table compares
the hours, the token and the address of the card; nobody calls it.  The one in
front of the handlers only looks for the card.
-/

namespace BnsKorea
namespace Server

open Library
open Server.CEchoPacket (checkCard)

namespace CCardExtend

/-- The text of an error is what `wsErrText` is set to. -/
def isCardEffective (P : Platform) (ulNow : ULONGLONG)
    (AccountContent : ClientAccountContent) (s : CCardExtend) :
    Except WString Unit :=
  if AccountContent.dwCardCrc = 0 then .error (L "Card=0")
  else
    match s.findCard_By_CRC AccountContent.dwCardCrc with
    | none =>
        .error (P.tools.makeFormatText (L "不存在该卡号:%08X")
          [AccountContent.dwCardCrc])
    | some CardInfo_ =>
        if CardInfo_.getSurplusHour ulNow ≤ 0 then
          .error (P.character.makeFormatText (L "卡号时间不足") [])
        else if CardInfo_.dwToken ≠ AccountContent.dwToken then
          .error (P.character.makeFormatText
            (L "令牌不对! 如果有疑问,联系老夫!") [])
        else if CardInfo_.wsIp ≠ AccountContent.wsIp then
          .error (P.character.makeFormatText
            (L "IP不对! 如果有疑问,联系老夫!") [])
        else .ok ()

end CCardExtend

/-!
## What the checks accept
-/

/-- The card has hours left, and the token and the address are the account's. -/
structure Answers (ulNow : ULONGLONG) (Account : ClientAccountContent)
    (Card : CardInfo) : Prop where
  hours : 0 < Card.getSurplusHour ulNow
  token : Card.dwToken = Account.dwToken
  ip : Card.wsIp = Account.wsIp

/-- The account has a card and a token, and the card answers to it. -/
structure Effective (ulNow : ULONGLONG) (Account : ClientAccountContent)
    (cards : CCardExtend) : Prop where
  crc : Account.dwCardCrc ≠ 0
  token : Account.dwToken ≠ 0
  card : exists Card, cards.findCard_By_CRC Account.dwCardCrc = some Card ∧
    Answers ulNow Account Card

section

variable {P : Platform} {ulNow : ULONGLONG} {cards : CCardExtend}

theorem isCardEffective_accepts_iff {Account : ClientAccountContent} :
    (cards.isCardEffective P ulNow Account).isOk = true ↔
      Account.dwCardCrc ≠ 0 ∧
        exists Card, cards.findCard_By_CRC Account.dwCardCrc = some Card ∧
          Answers ulNow Account Card := by
  unfold CCardExtend.isCardEffective
  by_cases hcrc : Account.dwCardCrc = 0
  · rw [if_pos hcrc]
    exact iff_of_false nofun fun h => h.left hcrc
  · rw [if_neg hcrc, and_iff_right hcrc]
    cases hCard : cards.findCard_By_CRC Account.dwCardCrc with
    | none =>
        refine iff_of_false nofun ?_
        intro h
        rcases h with ⟨Card, hsome, _⟩
        cases hsome
    | some Card =>
        have hanswers : (exists Card', some Card = some Card' ∧
            Answers ulNow Account Card') ↔ Answers ulNow Account Card := by
          simp
        rw [hanswers]
        dsimp only
        split
        · rename_i hhours
          exact iff_of_false nofun fun h => absurd h.hours
            (Int32.not_lt.mpr hhours)
        · rename_i hhours
          split
          · rename_i htoken
            exact iff_of_false nofun fun h => htoken h.token
          · rename_i htoken
            split
            · rename_i hip
              exact iff_of_false nofun fun h => hip h.ip
            · rename_i hip
              exact iff_of_true rfl
                ⟨Int32.not_le.mp hhours, not_not.mp htoken, not_not.mp hip⟩

theorem checkCard_accepts_iff {GameClient : CGameClient} :
    (checkCard ulNow GameClient cards).isOk = true ↔
      GameClient.account.dwCardCrc ≠ 0 ∧ GameClient.account.dwToken ≠ 0 ∧
        (cards.findCard_By_CRC GameClient.account.dwCardCrc).isSome := by
  have hok : (checkCard ulNow GameClient cards).isOk = true ↔
      exists Checked, checkCard ulNow GameClient cards = .ok Checked := by
    cases checkCard ulNow GameClient cards with
    | error refusal => exact iff_of_false nofun fun h => nomatch h
    | ok Checked => exact iff_of_true rfl ⟨Checked, rfl⟩
  rw [hok, checkCard_passes_iff]

end

/-!
## Where they agree
-/

/-- The check of the handlers lets through exactly the effective sessions. -/
structure ChecksAgree (P : Platform) (ulNow : ULONGLONG)
    (GameClient : CGameClient) (cards : CCardExtend) : Prop where
  accepts : (checkCard ulNow GameClient cards).isOk = true ↔
    (cards.isCardEffective P ulNow GameClient.account).isOk = true
  effective : (cards.isCardEffective P ulNow GameClient.account).isOk = true ↔
    Effective ulNow GameClient.account cards

/--
The condition: if the connection's card is in the table, the connection has a
token exactly if the hours, the token and the address of the card are in order.
-/
def TokenTells (ulNow : ULONGLONG) (Account : ClientAccountContent)
    (cards : CCardExtend) : Prop :=
  Account.dwCardCrc ≠ 0 ->
    forall Card, cards.findCard_By_CRC Account.dwCardCrc = some Card ->
      (Account.dwToken ≠ 0 ↔ Answers ulNow Account Card)

theorem checksAgree_iff (P : Platform) (ulNow : ULONGLONG)
    (GameClient : CGameClient) (cards : CCardExtend) :
    ChecksAgree P ulNow GameClient cards ↔
      TokenTells ulNow GameClient.account cards := by
  constructor
  · intro h hcrc Card hCard
    have haccepts := h.accepts
    rw [checkCard_accepts_iff, isCardEffective_accepts_iff] at haccepts
    constructor
    · intro htoken
      have hsome : (cards.findCard_By_CRC GameClient.account.dwCardCrc).isSome := by
        rw [hCard]
        rfl
      rcases (haccepts.mp ⟨hcrc, htoken, hsome⟩).right with
        ⟨Card', hCard', hanswers⟩
      rw [hCard, Option.some.injEq] at hCard'
      rw [hCard']
      exact hanswers
    · intro hanswers
      exact (haccepts.mpr ⟨hcrc, Card, hCard, hanswers⟩).right.left
  · intro htells
    constructor
    · rw [checkCard_accepts_iff, isCardEffective_accepts_iff]
      constructor
      · intro h
        rcases h with ⟨hcrc, htoken, hsome⟩
        rcases Option.isSome_iff_exists.mp hsome with ⟨Card, hCard⟩
        exact ⟨hcrc, Card, hCard, (htells hcrc Card hCard).mp htoken⟩
      · intro h
        rcases h with ⟨hcrc, Card, hCard, hanswers⟩
        refine ⟨hcrc, (htells hcrc Card hCard).mpr hanswers, ?_⟩
        rw [hCard]
        rfl
    · rw [isCardEffective_accepts_iff]
      constructor
      · intro h
        rcases h with ⟨hcrc, Card, hCard, hanswers⟩
        exact ⟨hcrc, (htells hcrc Card hCard).mpr hanswers, Card, hCard, hanswers⟩
      · exact fun h => ⟨h.crc, h.card⟩

open CGameServer in
/-- Anna was overtaken by Boris, and her token is not the card's any more. -/
theorem borisIn_checks_differ :
    exists GameClient, borisIn.state.clients[(1 : SOCKET)]? = some GameClient ∧
      ¬ ChecksAgree Platform.standard 50 GameClient
        borisIn.state.services.cards := by
  have hclient : (borisIn.state.clients[(1 : SOCKET)]?).isSome := by
    decide +kernel
  rcases Option.isSome_iff_exists.mp hclient with ⟨GameClient, hGameClient⟩
  refine ⟨GameClient, hGameClient, ?_⟩
  intro h
  have hall : (borisIn.state.clients[(1 : SOCKET)]?).all (fun GameClient =>
      (checkCard 50 GameClient borisIn.state.services.cards).isOk &&
        !(borisIn.state.services.cards.isCardEffective Platform.standard 50
          GameClient.account).isOk) = true := by
    decide +kernel
  rw [hGameClient, Option.all_some, Bool.and_eq_true, Bool.not_eq_true'] at hall
  rw [h.accepts.mp hall.left] at hall
  cases hall.right

end Server
end BnsKorea
