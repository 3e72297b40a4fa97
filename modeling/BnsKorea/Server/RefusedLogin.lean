import BnsKorea.Server.Takeover

/-!
# Logins that are refused

A login with a card that is not in the table is answered with an error, but the
names and the version of the packet stay in the connection beside the card and
the token of the login before.
-/

namespace BnsKorea
namespace Server

open Library SocketValue

/-!
## Who a connection acts as
-/

structure Identity where
  wsVersion : WString
  wsAccountName : WString
  wsAccountPass : WString
  wsCardNo : WString
  dwCardCrc : DWORD
  dwToken : DWORD
deriving DecidableEq

def CGameClient.identity (GameClient : CGameClient) : Identity where
  wsVersion := GameClient.account.wsVersion
  wsAccountName := GameClient.account.wsAccountName
  wsAccountPass := GameClient.account.wsAccountPass
  wsCardNo := GameClient.account.wsCardNo
  dwCardCrc := GameClient.account.dwCardCrc
  dwToken := GameClient.account.dwToken

/-- The texts of a login, as the connection keeps them. -/
structure LoginTexts where
  wsVersion : WString
  wsAccountName : WString
  wsAccountPass : WString
  wsCardNo : WString
deriving DecidableEq

def Identity.texts (i : Identity) : LoginTexts where
  wsVersion := i.wsVersion
  wsAccountName := i.wsAccountName
  wsAccountPass := i.wsAccountPass
  wsCardNo := i.wsCardNo

def Identity.withTexts (i : Identity) (texts : LoginTexts) : Identity where
  wsVersion := texts.wsVersion
  wsAccountName := texts.wsAccountName
  wsAccountPass := texts.wsAccountPass
  wsCardNo := texts.wsCardNo
  dwCardCrc := i.dwCardCrc
  dwToken := i.dwToken

def CGameClient.withTexts (texts : LoginTexts) (GameClient : CGameClient) :
    CGameClient :=
  { GameClient with
    account := { GameClient.account with
      wsVersion := texts.wsVersion
      wsAccountName := texts.wsAccountName
      wsAccountPass := texts.wsAccountPass
      wsCardNo := texts.wsCardNo } }

theorem Identity.withTexts_eq_iff (i : Identity) (texts : LoginTexts) :
    i.withTexts texts = i ↔ texts = i.texts := by
  constructor
  · intro h
    rw [← h]
    rfl
  · intro h
    rw [h]
    rfl

namespace CEchoPacket

variable {P : Platform} {O : Outside} {ulNow : ULONGLONG}

theorem identity_updateTeamContent (CtiTeam : Option ClientTeamInfo)
    (GameClient : CGameClient) :
    (updateTeamContent CtiTeam GameClient).identity = GameClient.identity := by
  cases CtiTeam with
  | none => rfl
  | some Cti => rfl

theorem handle_identity {content : Content}
    (h : content.emSockMsg ≠ SockMsg.loginGame) (rest : List SocketValue)
    (GameClient : CGameClient) (s : Services) :
    (handle P O ulNow content rest GameClient s).2.1.identity =
      GameClient.identity := by
  cases content with
  | gameLogin => exact absurd rfl h
  | joinTeam_MainLine CtiTeam =>
      exact identity_updateTeamContent CtiTeam GameClient
  | joinTeam_Gungoen CtiTeam =>
      exact identity_updateTeamContent CtiTeam GameClient
  | downloadScript wsScriptName =>
      show (downloadScript P O wsScriptName GameClient s).2.1.identity = _
      rw [downloadScript_keeps]
  | calculateOTP =>
      show (calculateOTP P O GameClient s).2.1.identity = _
      rw [calculateOTP_keeps]
  | joinCrossAreaTeam dwTeamId =>
      show (joinCrossAreaTeam P O ulNow dwTeamId GameClient s).2.1.identity = _
      rcases joinCrossAreaTeam_cases (P := P) (O := O) dwTeamId GameClient s with
        ⟨_, hkeeps⟩ | ⟨_, hjoined⟩
      · rw [hkeeps]
      · rw [hjoined]
        rfl
  | _ => rfl

end CEchoPacket

namespace CGameServer

open Server.CEchoPacket CCardExtend

variable {P : Platform} {O : Outside} {ulNow : ULONGLONG} {emSockMsg : SockMsg}
  {pSocketBuffer : List SocketValue}

/-!
## One message
-/

/-- The message is a login with a card that is not in the table. -/
inductive RefusedLogin (P : Platform) (emSockMsg : SockMsg)
    (pSocketBuffer : List SocketValue) (cards : CCardExtend)
    (texts : LoginTexts) : Prop where
  | intro (fVersion : UInt32) (rest : List SocketValue)
      (hmsg : emSockMsg = SockMsg.loginGame)
      (htaken : extractGameLogin.run pSocketBuffer =
        some (.gameLogin fVersion texts.wsAccountName texts.wsAccountPass
          texts.wsCardNo, rest))
      (hversion : texts.wsVersion = P.to_wstring fVersion)
      (hunknown : cards.findCard_By_CRC
        (P.getCRC32_DWORD (cStr texts.wsCardNo)) = none)

def unknownCard (P : Platform) (wsCardNo : WString) : SocketBuffer :=
  (Reply.error (P.character.makeFormatText (L "此卡号:%s 不存在!")
    [cStr wsCardNo])).buffer

theorem echoRecive_refused {cards : CCardExtend} {texts : LoginTexts}
    (h : RefusedLogin P emSockMsg pSocketBuffer cards texts)
    (GameClient : CGameClient) {s : Services} (hcards : s.cards = cards) :
    echoRecive P O ulNow emSockMsg pSocketBuffer GameClient s =
      some (some (unknownCard P texts.wsCardNo),
        GameClient.withTexts texts, s) := by
  cases h with
  | intro fVersion rest hmsg htaken hversion hunknown =>
      rw [hmsg]
      show invoke P O ulNow SockMsg.loginGame extractGameLogin pSocketBuffer
        GameClient s = _
      rw [invoke, htaken, Option.map_some]
      dsimp only [handle]
      rw [gameLogin, hcards, hunknown, ← hversion]
      rfl

theorem Outcome.identity_cases {GameClient : CGameClient} {s : Services}
    {r : Option SocketBuffer × CGameClient × Services}
    (h : Outcome P O ulNow emSockMsg pSocketBuffer GameClient s r) :
    r.2.1.identity = GameClient.identity ∨
      (exists Session_,
        Login P O emSockMsg pSocketBuffer s.cards Session_) ∨
      exists texts, RefusedLogin P emSockMsg pSocketBuffer s.cards texts ∧
        r.2.1.identity = GameClient.identity.withTexts texts := by
  cases h with
  | unregistered => exact Or.inl rfl
  | refused => exact Or.inl rfl
  | handled extract content rest Heard hlookup htaken hheard =>
      have hmsg := emSockMsg_of_taken hlookup htaken
      have hsame : Heard.identity = GameClient.identity := by
        rcases hheard with hheard | hheard
        · rw [hheard]
        · rw [hheard]
          rfl
      by_cases hlogin : content.emSockMsg = SockMsg.loginGame
      · cases content with
        | gameLogin fVersion wsAccountName wsAccountPass wsCardNo =>
            have hextract : some extract = some extractGameLogin := by
              rw [← hlookup, ← hmsg]
              rfl
            rw [Option.some.inj hextract] at htaken
            refine Or.inr ?_
            cases hcard : s.cards.findCard_By_CRC
                (P.getCRC32_DWORD (cStr wsCardNo)) with
            | some Card =>
                have hfound : (s.cards.findCard_By_CRC
                    (P.getCRC32_DWORD (cStr wsCardNo))).isSome := by
                  rw [hcard]
                  rfl
                exact Or.inl ⟨_, .intro _ _ _ _ rest hmsg.symm htaken hfound rfl⟩
            | none =>
                let texts : LoginTexts := {
                  wsVersion := P.to_wstring fVersion
                  wsAccountName := wsAccountName
                  wsAccountPass := wsAccountPass
                  wsCardNo := wsCardNo }
                refine Or.inr ⟨texts,
                  .intro fVersion rest hmsg.symm htaken rfl hcard, ?_⟩
                rw [← hsame]
                show (gameLogin P O ulNow fVersion wsAccountName wsAccountPass
                  wsCardNo Heard s).2.1.identity = _
                rw [gameLogin, hcard]
                rfl
        | _ => cases hlogin
      · refine Or.inl ?_
        rw [← hsame]
        exact handle_identity hlogin rest Heard s

/-!
## Runs
-/

/-- A refused login of the connection repeats the texts that it has. -/
def Repeats (P : Platform) (ClientSock : SOCKET) (s : CGameServer) :
    Event -> Prop
  | .recive ClientSock' emSockMsg pSocketBuffer _ =>
      ClientSock' = ClientSock -> forall texts GameClient,
        RefusedLogin P emSockMsg pSocketBuffer s.services.cards texts ->
        s.clients[ClientSock]? = some GameClient ->
        texts = GameClient.identity.texts
  | _ => True

/-- The event spares the connection, and what is refused are repetitions. -/
structure Steady (P : Platform) (ClientSock : SOCKET)
    (l : ULONGLONG × Event) (c : Clocked CGameServer) : Prop where
  spares : Spares P ClientSock c.state l.2
  repeats : Repeats P ClientSock c.state l.2

def ActsAs (ClientSock : SOCKET) (i : Identity) (s : CGameServer) : Prop :=
  exists GameClient, s.clients[ClientSock]? = some GameClient ∧
    GameClient.identity = i

theorem step_actsAs {ClientSock : SOCKET} {i : Identity} {l : ULONGLONG × Event}
    {c : Clocked CGameServer} (henabled : (machine P).enabled l c)
    (hsteady : Steady P ClientSock l c) (h : ActsAs ClientSock i c.state) :
    ActsAs ClientSock i ((machine P).step l c).state := by
  rcases h with ⟨GameClient, hclient, hidentity⟩
  rcases apply_client henabled.right hsteady.spares.stays hclient with
    hsame | ⟨emSockMsg, pSocketBuffer, O, r, he, hecho, hafter⟩
  · exact ⟨GameClient, hsame, hidentity⟩
  · refine ⟨r.2.1, hafter, ?_⟩
    rcases (echoRecive_outcome hecho).identity_cases with
      hold | ⟨Session_, hlogin⟩ | ⟨texts, hrefused, hnew⟩
    · rw [hold, hidentity]
    · have hspares := hsteady.spares
      rw [he] at hspares
      exact absurd ⟨rfl, hlogin⟩ (hspares.keeps Session_)
    · have hrepeats := hsteady.repeats
      rw [he] at hrepeats
      have htexts := hrepeats rfl texts GameClient hrefused hclient
      rw [hnew, (GameClient.identity.withTexts_eq_iff texts).mpr htexts,
        hidentity]

theorem run_actsAs {ClientSock : SOCKET} {i : Identity}
    {c c' : Clocked CGameServer}
    (hrun : (machine P).Run (Steady P ClientSock) c c')
    (h : ActsAs ClientSock i c.state) : ActsAs ClientSock i c'.state := by
  refine hrun.invariant (fun c => ActsAs ClientSock i c.state) ?_ h
  intro l c henabled hsteady hacts
  exact step_actsAs henabled hsteady hacts

/-!
## What a refused login changes
-/

/-- The connection is as before, and so is the card table. -/
structure Untouched (GameClient GameClient' : CGameClient)
    (s s' : Services) : Prop where
  identity : GameClient'.identity = GameClient.identity
  cards : s'.cards = s.cards

/--
A refused login is answered with the error, and leaves the connection and the
card table as they were exactly if it repeats the texts the connection has.  In
a run in which all of them do, the connection acts as whom it logged in as.
-/
theorem refusedLogin_untouched_iff {texts : LoginTexts} {s : Services}
    (h : RefusedLogin P emSockMsg pSocketBuffer s.cards texts) (O : Outside)
    (ulNow : ULONGLONG) (GameClient : CGameClient) :
    (exists GameClient' s',
      echoRecive P O ulNow emSockMsg pSocketBuffer GameClient s =
        some (some (unknownCard P texts.wsCardNo), GameClient', s') ∧
      (Untouched GameClient GameClient' s s' ↔
        texts = GameClient.identity.texts)) ∧
    forall ClientSock i c c', ActsAs ClientSock i c.state ->
      (machine P).Run (Steady P ClientSock) c c' ->
      ActsAs ClientSock i c'.state := by
  constructor
  · refine ⟨_, _, echoRecive_refused h GameClient rfl, ?_⟩
    constructor
    · intro huntouched
      exact (GameClient.identity.withTexts_eq_iff texts).mp huntouched.identity
    · intro htexts
      exact ⟨(GameClient.identity.withTexts_eq_iff texts).mpr htexts, rfl⟩
  · intro ClientSock i c c' hacts hrun
    exact run_actsAs hrun hacts

/-!
## Anna's card with another name
-/

def carlaTexts : LoginTexts where
  wsVersion := L "1.000000"
  wsAccountName := L "carla"
  wsAccountPass := L "word"
  wsCardNo := L "K9"

def carlaPacket : List SocketValue :=
  [float 0x3F800000, text (L "carla"), text (L "word"), text (L "K9")]

theorem carlaPacket_refused :
    RefusedLogin Platform.standard SockMsg.loginGame carlaPacket
      annaIn.state.services.cards carlaTexts :=
  .intro 0x3F800000 [] rfl rfl rfl (by decide +kernel)

theorem annaIn_client :
    exists GameClient, annaIn.state.clients[(1 : SOCKET)]? = some GameClient ∧
      GameClient.identity = {
        wsVersion := L "1.000000"
        wsAccountName := L "anna"
        wsAccountPass := L "pass"
        wsCardNo := cardNo
        dwCardCrc := cardCrc
        dwToken := 101 } := by
  have hidentity : (annaIn.state.clients[(1 : SOCKET)]?).map
      CGameClient.identity = some {
        wsVersion := L "1.000000"
        wsAccountName := L "anna"
        wsAccountPass := L "pass"
        wsCardNo := cardNo
        dwCardCrc := cardCrc
        dwToken := 101 } := by
    decide +kernel
  exact Option.map_eq_some_iff.mp hidentity

theorem annaIn_untouched_iff :
    exists GameClient GameClient' s',
      annaIn.state.clients[(1 : SOCKET)]? = some GameClient ∧
      echoRecive Platform.standard {} 50 SockMsg.loginGame carlaPacket GameClient
          annaIn.state.services =
        some (some (unknownCard Platform.standard carlaTexts.wsCardNo),
          GameClient', s') ∧
      (Untouched GameClient GameClient' annaIn.state.services s' ↔
        carlaTexts = GameClient.identity.texts) := by
  rcases annaIn_client with ⟨GameClient, hclient, _⟩
  rcases (refusedLogin_untouched_iff carlaPacket_refused {} 50 GameClient).left
    with ⟨GameClient', s', hecho, hiff⟩
  exact ⟨GameClient, GameClient', s', hclient, hecho, hiff⟩

/-- The connection is called Carla afterwards, with the token Anna was given. -/
theorem annaIn_touched :
    RefusedLogin Platform.standard SockMsg.loginGame carlaPacket
        annaIn.state.services.cards carlaTexts ∧
      exists GameClient r,
        annaIn.state.clients[(1 : SOCKET)]? = some GameClient ∧
        echoRecive Platform.standard {} 50 SockMsg.loginGame carlaPacket
          GameClient annaIn.state.services = some r ∧
        r.2.1.identity.wsAccountName = L "carla" ∧
        r.2.1.identity.dwToken = 101 ∧
        ¬ Untouched GameClient r.2.1 annaIn.state.services r.2.2 := by
  rcases annaIn_client with ⟨GameClient, hclient, hidentity⟩
  refine ⟨carlaPacket_refused, GameClient, _, hclient,
    echoRecive_refused carlaPacket_refused GameClient rfl, rfl, ?_, ?_⟩
  · show GameClient.identity.dwToken = 101
    rw [hidentity]
  · intro huntouched
    have hname : L "carla" = GameClient.identity.wsAccountName :=
      congrArg Identity.wsAccountName huntouched.identity
    rw [hidentity] at hname
    revert hname
    decide

end CGameServer
end Server
end BnsKorea
