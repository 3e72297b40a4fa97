import BnsKorea.Server.Dispatch

/-!
# Sessions

A login puts the connection's account into the card and the card's CRC and a
fresh token into the connection.  The check of the card compares the CRC under
which the card was found with the CRC it was looked for under, and a released
connection blanks the card of its CRC; neither looks at the token.
-/

namespace BnsKorea
namespace Server

open Library SocketValue

/-!
## Cards stay in the table
-/

namespace CCardExtend

def Grows (cards cards' : CCardExtend) : Prop :=
  forall dwCardCrc, (cards.findCard_By_CRC dwCardCrc).isSome ->
    (cards'.findCard_By_CRC dwCardCrc).isSome

theorem Grows.refl (cards : CCardExtend) : cards.Grows cards :=
  fun _ h => h

theorem Grows.trans {cards cards' cards'' : CCardExtend}
    (h : cards.Grows cards') (h' : cards'.Grows cards'') :
    cards.Grows cards'' :=
  fun dwCardCrc hsome => h' dwCardCrc (h dwCardCrc hsome)

theorem findCard_setCardContent (dwCardCrc : DWORD)
    (ActionPtr : CardInfo -> CardInfo)
    {hcrc : forall Card, (ActionPtr Card).dwCardCrc = Card.dwCardCrc}
    (cards : CCardExtend) (k : DWORD) :
    (cards.setCardContent dwCardCrc ActionPtr hcrc).findCard_By_CRC k =
      if dwCardCrc = k then (cards.findCard_By_CRC k).map ActionPtr
      else cards.findCard_By_CRC k := by
  unfold setCardContent findCard_By_CRC
  dsimp only
  split
  · rename_i hmissing
    split
    · rename_i hsame
      rw [← hsame, hmissing]
      rfl
    · rfl
  · rename_i Card hfound
    rw [OrderedMaps.getElem?_insert]
    split
    · rename_i hsame
      rw [← hsame, hfound]
      rfl
    · rfl

theorem grows_setCardContent (dwCardCrc : DWORD)
    (ActionPtr : CardInfo -> CardInfo)
    (hcrc : forall Card, (ActionPtr Card).dwCardCrc = Card.dwCardCrc)
    (cards : CCardExtend) :
    cards.Grows (cards.setCardContent dwCardCrc ActionPtr hcrc) := by
  intro k hsome
  rw [findCard_setCardContent]
  split
  · rw [Option.isSome_map]
    exact hsome
  · exact hsome

theorem grows_tryActiveCard (ActiveCard : DWORD -> Option CardInfo)
    (dwCrc : DWORD) (cards : CCardExtend) :
    cards.Grows (cards.tryActiveCard ActiveCard dwCrc).2 := by
  unfold tryActiveCard
  split
  · exact Grows.refl cards
  · intro k hsome
    show (Std.TreeMap.insertIfNew _ _ _)[k]?.isSome
    rw [Std.TreeMap.getElem?_insertIfNew]
    split
    · rfl
    · exact hsome

end CCardExtend

namespace CEchoPacket

open CCardExtend

variable {P : Platform} {O : Outside} {ulNow : ULONGLONG}

theorem grows_queryCard (VecCardCrc : List DWORD) (Account : ClientAccountContent)
    (cards : CCardExtend) :
    cards.Grows
      (VecCardCrc.foldl (queryCardTurn O ulNow Account) ([], cards)).2 := by
  have hstart : cards.Grows (([], cards) :
      List (Option CardAnswer) × CCardExtend).2 := Grows.refl cards
  refine foldl_invariant (fun r => cards.Grows r.2)
    (queryCardTurn O ulNow Account) ?_ VecCardCrc hstart
  intro r itm h
  unfold queryCardTurn
  dsimp only
  cases r.2.findCard_By_CRC itm with
  | some Card => exact h
  | none => exact h.trans (grows_tryActiveCard _ _ _)

theorem handle_grows (content : Content) (rest : List SocketValue)
    (GameClient : CGameClient) (s : Services) :
    s.cards.Grows (handle P O ulNow content rest GameClient s).2.2.cards := by
  cases content with
  | queryCard VecCardCrc => exact grows_queryCard _ _ _
  | keepALive => exact grows_setCardContent _ _ (by intro; rfl) _
  | saveLoginData => exact grows_setCardContent _ _ (by intro; rfl) _
  | gameLogin =>
      simp only [handle, gameLogin]
      split
      · exact Grows.refl _
      · exact grows_setCardContent _ _ (by intro; rfl) _
  | downloadScript wsScriptName =>
      show s.cards.Grows (downloadScript P O wsScriptName GameClient s).2.2.cards
      rw [downloadScript_keeps]
      exact Grows.refl _
  | calculateOTP =>
      show s.cards.Grows (calculateOTP P O GameClient s).2.2.cards
      rw [calculateOTP_keeps]
      exact Grows.refl _
  | joinCrossAreaTeam dwTeamId =>
      show s.cards.Grows
        (joinCrossAreaTeam P O ulNow dwTeamId GameClient s).2.2.cards
      rcases joinCrossAreaTeam_cases (P := P) (O := O) dwTeamId GameClient s with
        ⟨_, hkeeps⟩ | ⟨_, hjoined⟩
      · rw [hkeeps]
        exact Grows.refl _
      · rw [hjoined]
        exact Grows.refl _
  | _ => exact Grows.refl _

end CEchoPacket

/-!
## What a login gives the connection
-/

/-- The card a connection is logged in with, and its token. -/
structure Session where
  dwCardCrc : DWORD
  dwToken : DWORD
deriving DecidableEq

def CGameClient.session (GameClient : CGameClient) : Session where
  dwCardCrc := GameClient.account.dwCardCrc
  dwToken := GameClient.account.dwToken

namespace CEchoPacket

variable {P : Platform} {O : Outside} {ulNow : ULONGLONG}

theorem session_updateTeamContent (CtiTeam : Option ClientTeamInfo)
    (GameClient : CGameClient) :
    (updateTeamContent CtiTeam GameClient).session = GameClient.session := by
  cases CtiTeam <;> rfl

theorem handle_session {content : Content}
    (h : content.emSockMsg ≠ SockMsg.loginGame) (rest : List SocketValue)
    (GameClient : CGameClient) (s : Services) :
    (handle P O ulNow content rest GameClient s).2.1.session =
      GameClient.session := by
  cases content with
  | gameLogin => exact absurd rfl h
  | joinTeam_MainLine CtiTeam => exact session_updateTeamContent CtiTeam GameClient
  | joinTeam_Gungoen CtiTeam => exact session_updateTeamContent CtiTeam GameClient
  | downloadScript wsScriptName =>
      show (downloadScript P O wsScriptName GameClient s).2.1.session = _
      rw [downloadScript_keeps]
  | calculateOTP =>
      show (calculateOTP P O GameClient s).2.1.session = _
      rw [calculateOTP_keeps]
  | joinCrossAreaTeam dwTeamId =>
      show (joinCrossAreaTeam P O ulNow dwTeamId GameClient s).2.1.session = _
      rcases joinCrossAreaTeam_cases (P := P) (O := O) dwTeamId GameClient s with
        ⟨_, hkeeps⟩ | ⟨_, hjoined⟩
      · rw [hkeeps]
      · rw [hjoined]
        rfl
  | _ => rfl

section

variable {fVersion : UInt32} {wsAccountName wsAccountPass wsCardNo : WString}
  {GameClient : CGameClient} {s : Services}

theorem gameLogin_found
    (h : (s.cards.findCard_By_CRC (P.getCRC32_DWORD (cStr wsCardNo))).isSome) :
    (gameLogin P O ulNow fVersion wsAccountName wsAccountPass wsCardNo GameClient
        s).2.1.session =
      { dwCardCrc := P.getCRC32_DWORD (cStr wsCardNo)
        dwToken := O.getRand_For_DWORD } := by
  rcases Option.isSome_iff_exists.mp h with ⟨Card, hCard⟩
  rw [gameLogin, hCard, ← s.cards.keyed _ _ hCard]
  rfl

theorem gameLogin_missing
    (h : s.cards.findCard_By_CRC (P.getCRC32_DWORD (cStr wsCardNo)) = none) :
    (gameLogin P O ulNow fVersion wsAccountName wsAccountPass wsCardNo GameClient
        s).2.1.session = GameClient.session := by
  rw [gameLogin, h]
  rfl

end

end CEchoPacket

namespace CGameServer

open Server.CEchoPacket CCardExtend

variable {P : Platform} {O : Outside} {ulNow : ULONGLONG} {emSockMsg : SockMsg}
  {pSocketBuffer : List SocketValue}

/-- The message is a login with a card of the table, and gives the session. -/
inductive Login (P : Platform) (O : Outside) (emSockMsg : SockMsg)
    (pSocketBuffer : List SocketValue) (cards : CCardExtend)
    (Session_ : Session) : Prop where
  | intro (fVersion : UInt32) (wsAccountName wsAccountPass wsCardNo : WString)
      (rest : List SocketValue)
      (hmsg : emSockMsg = SockMsg.loginGame)
      (htaken : extractGameLogin.run pSocketBuffer =
        some (.gameLogin fVersion wsAccountName wsAccountPass wsCardNo, rest))
      (hcard : (cards.findCard_By_CRC
        (P.getCRC32_DWORD (cStr wsCardNo))).isSome)
      (hsession : Session_ = {
        dwCardCrc := P.getCRC32_DWORD (cStr wsCardNo)
        dwToken := O.getRand_For_DWORD })

theorem Login.card {cards : CCardExtend} {Session_ : Session}
    (h : Login P O emSockMsg pSocketBuffer cards Session_) :
    (cards.findCard_By_CRC Session_.dwCardCrc).isSome := by
  cases h with
  | intro fVersion wsAccountName wsAccountPass wsCardNo rest _ _ hcard hsession =>
      rw [hsession]
      exact hcard

theorem echoRecive_login {GameClient : CGameClient} {s : Services}
    {Session_ : Session} (h : Login P O emSockMsg pSocketBuffer s.cards Session_)
    {r : Option SocketBuffer × CGameClient × Services}
    (hecho : echoRecive P O ulNow emSockMsg pSocketBuffer GameClient s =
      some r) :
    r.2.1.session = Session_ := by
  cases h with
  | intro fVersion wsAccountName wsAccountPass wsCardNo rest hmsg htaken hcard
      hsession =>
      rw [hmsg] at hecho
      have hinvoke : invoke P O ulNow SockMsg.loginGame extractGameLogin
          pSocketBuffer GameClient s = some r := hecho
      rw [invoke, htaken] at hinvoke
      cases hinvoke
      rw [hsession]
      exact gameLogin_found hcard

/-!
## Steps
-/

theorem session_keptALive (GameClient : CGameClient) :
    (GameClient.keptALive ulNow).session = GameClient.session :=
  rfl

theorem heard_session {GameClient Heard : CGameClient}
    (h : Heard = GameClient ∨ Heard = GameClient.keptALive ulNow) :
    Heard.session = GameClient.session := by
  rcases h with h | h
  · rw [h]
  · rw [h, session_keptALive]

section

variable {GameClient : CGameClient} {s : Services}
  {r : Option SocketBuffer × CGameClient × Services}

theorem Outcome.grows
    (h : Outcome P O ulNow emSockMsg pSocketBuffer GameClient s r) :
    s.cards.Grows r.2.2.cards := by
  cases h with
  | unregistered => exact Grows.refl _
  | refused => exact Grows.refl _
  | handled _ content rest Heard => exact handle_grows content rest Heard s

theorem Outcome.session_cases
    (h : Outcome P O ulNow emSockMsg pSocketBuffer GameClient s r) :
    r.2.1.session = GameClient.session ∨
      Login P O emSockMsg pSocketBuffer s.cards r.2.1.session := by
  cases h with
  | unregistered => exact Or.inl rfl
  | refused => exact Or.inl rfl
  | handled extract content rest Heard hlookup htaken hheard =>
      have hmsg := emSockMsg_of_taken hlookup htaken
      rw [← heard_session hheard]
      by_cases hlogin : content.emSockMsg = SockMsg.loginGame
      · cases content with
        | gameLogin fVersion wsAccountName wsAccountPass wsCardNo =>
            have hextract : some extract = some extractGameLogin := by
              rw [← hlookup, ← hmsg]
              rfl
            rw [Option.some.inj hextract] at htaken
            cases hcard : s.cards.findCard_By_CRC
                (P.getCRC32_DWORD (cStr wsCardNo)) with
            | none => exact Or.inl (gameLogin_missing hcard)
            | some Card =>
                have hfound : (s.cards.findCard_By_CRC
                    (P.getCRC32_DWORD (cStr wsCardNo))).isSome := by
                  rw [hcard]
                  rfl
                exact Or.inr (.intro _ _ _ _ rest hmsg.symm htaken hfound
                  (gameLogin_found hfound))
        | _ => cases hlogin
      · exact Or.inl (handle_session hlogin rest Heard s)

end

theorem remove_grows (Account : ClientAccountContent) (s : Services) :
    s.cards.Grows (remove P Account s).cards := by
  unfold remove
  split
  · dsimp only
    split
    · exact grows_setCardContent _ _ (by intro; rfl) _
    · exact Grows.refl _
  · exact Grows.refl _

/-!
## The card of a connection
-/

def CardsKnown (s : CGameServer) : Prop :=
  forall (ClientSock : SOCKET) (GameClient : CGameClient),
    s.clients[ClientSock]? = some GameClient ->
      GameClient.session.dwCardCrc ≠ 0 ->
        (s.services.cards.findCard_By_CRC GameClient.session.dwCardCrc).isSome

theorem apply_cardsKnown {e : Event} {s : CGameServer}
    (hallowed : Allowed P ulNow e s) (h : CardsKnown s) :
    CardsKnown (apply P ulNow e s) := by
  intro ClientSock' GameClient' hclient' hcrc
  cases e with
  | accept ClientSock emClasses =>
      rw [apply, createNewSocketClient, OrderedMaps.getElem?_insert] at hclient'
      split at hclient'
      · cases hclient'
        exact absurd rfl hcrc
      · exact h ClientSock' GameClient' hclient' hcrc
  | recive ClientSock emSockMsg pSocketBuffer O =>
      rcases recive_cases hallowed with ⟨GameClient, r, hclient, hecho, hstep⟩
      have houtcome := echoRecive_outcome hecho
      rw [apply, hstep] at hclient' ⊢
      rw [OrderedMaps.getElem?_insert] at hclient'
      split at hclient'
      · cases hclient'
        rcases houtcome.session_cases with hold | hlogin
        · rw [hold] at hcrc ⊢
          exact houtcome.grows _ (h ClientSock GameClient hclient hcrc)
        · exact houtcome.grows _ hlogin.card
      · exact houtcome.grows _ (h ClientSock' GameClient' hclient' hcrc)
  | release ClientSock =>
      rcases release_cases hallowed with ⟨GameClient, hclient, hstep⟩
      rw [apply, hstep] at hclient' ⊢
      rw [OrderedMaps.getElem?_erase] at hclient'
      split at hclient'
      · cases hclient'
      · exact remove_grows _ _ _ (h ClientSock' GameClient' hclient' hcrc)

theorem Reachable.cardsKnown {c : Clocked CGameServer} (h : Reachable P c) :
    CardsKnown c.state := by
  rcases h with ⟨cards, config, Classes, hrun⟩
  refine hrun.invariant (fun c => CardsKnown c.state) ?_ ?_
  · intro l c henabled _ hknown
    exact apply_cardsKnown henabled.right hknown
  · intro ClientSock GameClient hclient
    cases hclient

variable (ulNow) in
theorem checkCard_of_known {s : CGameServer} (h : CardsKnown s)
    {ClientSock : SOCKET} {GameClient : CGameClient}
    (hclient : s.clients[ClientSock]? = some GameClient) :
    checkCard ulNow GameClient s.services.cards =
      if GameClient.session.dwCardCrc = 0 then .error .noCrc
      else if GameClient.session.dwToken = 0 then .error .noToken
      else .ok (GameClient.keptALive ulNow) := by
  show checkCard ulNow GameClient s.services.cards =
    if GameClient.account.dwCardCrc = 0 then .error .noCrc
    else if GameClient.account.dwToken = 0 then .error .noToken
    else .ok (GameClient.keptALive ulNow)
  unfold checkCard
  dsimp only
  split
  · rfl
  · rename_i hcrc
    split
    · rfl
    · rcases Option.isSome_iff_exists.mp (h ClientSock GameClient hclient hcrc)
        with ⟨Card, hCard⟩
      have hkey : Card.dwCardCrc = GameClient.account.dwCardCrc :=
        s.services.cards.keyed _ _ hCard
      have hfound : s.services.cards.findCard_By_CRC GameClient.account.dwCardCrc =
        some Card := hCard
      rw [hfound]
      dsimp only
      rw [if_neg (not_not.mpr hkey)]
      rfl

end CGameServer
end Server
end BnsKorea
