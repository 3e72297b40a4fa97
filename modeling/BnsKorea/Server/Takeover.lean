import BnsKorea.Server.Sessions

/-!
# One card, two connections

A second connection logs in with the card of a first one.  The first one's
messages pass the check of the card as before, and when it is released the card
is blanked although the second one holds it.
-/

namespace BnsKorea
namespace Server

open Library SocketValue

namespace CGameServer

open Server.CEchoPacket CCardExtend

variable {P : Platform}

/-!
## Logins
-/

/-- The event logs the connection in with a card of the table. -/
def LogsIn (P : Platform) (ClientSock : SOCKET) (Session_ : Session)
    (s : CGameServer) : Event -> Prop
  | .recive ClientSock' emSockMsg pSocketBuffer O =>
      ClientSock' = ClientSock ∧
        Login P O emSockMsg pSocketBuffer s.services.cards Session_
  | _ => False

/-- The event neither logs the connection in nor releases it. -/
structure Spares (P : Platform) (ClientSock : SOCKET) (s : CGameServer)
    (e : Event) : Prop where
  stays : e ≠ .release ClientSock
  keeps : forall Session_, ¬ LogsIn P ClientSock Session_ s e

def HasSession (ClientSock : SOCKET) (Session_ : Session) (s : CGameServer) :
    Prop :=
  exists GameClient, s.clients[ClientSock]? = some GameClient ∧
    GameClient.session = Session_

variable {ClientSock : SOCKET} {Session_ : Session} {e : Event}
  {ulNow : ULONGLONG} {s : CGameServer}

theorem LogsIn.hasSession (hallowed : Allowed P ulNow e s)
    (h : LogsIn P ClientSock Session_ s e) :
    HasSession ClientSock Session_ (apply P ulNow e s) := by
  cases e with
  | accept => cases h
  | release => cases h
  | recive ClientSock' emSockMsg pSocketBuffer O =>
      rcases h with ⟨hsame, hlogin⟩
      rcases recive_cases hallowed with ⟨GameClient, r, _, hecho, hstep⟩
      refine ⟨r.2.1, ?_, echoRecive_login hlogin hecho⟩
      rw [apply, hstep, hsame, OrderedMaps.getElem?_insert_self]

theorem apply_hasSession (hallowed : Allowed P ulNow e s)
    (hspares : Spares P ClientSock s e) (h : HasSession ClientSock Session_ s) :
    HasSession ClientSock Session_ (apply P ulNow e s) := by
  rcases h with ⟨GameClient, hclient, hsession⟩
  rcases apply_client hallowed hspares.stays hclient with
    hsame | ⟨emSockMsg, pSocketBuffer, O, r, he, hecho, hafter⟩
  · exact ⟨GameClient, hsame, hsession⟩
  · refine ⟨r.2.1, hafter, ?_⟩
    rcases (echoRecive_outcome hecho).session_cases with hold | hlogin
    · rw [hold, hsession]
    · rw [he] at hspares
      exact absurd ⟨rfl, hlogin⟩ (hspares.keeps r.2.1.session)

/-!
## Being overtaken
-/

/-- The events of a run spare the connection. -/
abbrev Sparing (P : Platform) (ClientSock : SOCKET) :
    ULONGLONG × Event -> Clocked CGameServer -> Prop :=
  fun l c => Spares P ClientSock c.state l.2

/--
The connection logged in with a card; then another one logged in with the card;
the first is still there and did not log in again.
-/
inductive Overtaken (P : Platform) (ClientSock : SOCKET) (own newer : Session)
    (c : Clocked CGameServer) : Prop where
  | intro (c₀ c₁ : Clocked CGameServer) (first second : ULONGLONG × Event)
      (ClientSock' : SOCKET)
      (hreachable : Reachable P c₀)
      (hfirst : (machine P).enabled first c₀)
      (hlogin : LogsIn P ClientSock own c₀.state first.2)
      (hbetween : (machine P).Run (Sparing P ClientSock)
        ((machine P).step first c₀) c₁)
      (hsecond : (machine P).enabled second c₁)
      (hother : ClientSock' ≠ ClientSock)
      (hovertakes : LogsIn P ClientSock' newer c₁.state second.2)
      (hcard : newer.dwCardCrc = own.dwCardCrc)
      (hlater : (machine P).Run (Sparing P ClientSock)
        ((machine P).step second c₁) c)

theorem run_hasSession {c c' : Clocked CGameServer}
    (hrun : (machine P).Run (Sparing P ClientSock) c c')
    (h : HasSession ClientSock Session_ c.state) :
    HasSession ClientSock Session_ c'.state := by
  refine hrun.invariant (fun c => HasSession ClientSock Session_ c.state) ?_ h
  intro l c henabled hspares h
  exact apply_hasSession henabled.right hspares h

theorem LogsIn.spares {ClientSock' : SOCKET}
    (h : LogsIn P ClientSock' Session_ s e) (hne : ClientSock' ≠ ClientSock) :
    Spares P ClientSock s e := by
  cases e with
  | accept => cases h
  | release => cases h
  | recive ClientSock'' emSockMsg pSocketBuffer O =>
      refine ⟨nofun, ?_⟩
      intro _ hlogin
      exact hne (h.left.symm.trans hlogin.left)

section

variable {own newer : Session} {c : Clocked CGameServer}

theorem Overtaken.hasSession (h : Overtaken P ClientSock own newer c) :
    HasSession ClientSock own c.state := by
  cases h with
  | intro c₀ c₁ first second ClientSock' _ hfirst hlogin hbetween hsecond hother
      hovertakes _ hlater =>
      have hbefore : HasSession ClientSock own c₁.state :=
        run_hasSession hbetween (hlogin.hasSession hfirst.right)
      have hafter := apply_hasSession hsecond.right (hovertakes.spares hother)
        hbefore
      exact run_hasSession hlater hafter

theorem Overtaken.reachable (h : Overtaken P ClientSock own newer c) :
    Reachable P c := by
  cases h with
  | intro c₀ c₁ first second ClientSock' hreachable hfirst _ hbetween hsecond _ _
      _ hlater =>
      rcases hreachable with ⟨cards, config, Classes, hrun⟩
      have hlogged := (hrun.snoc hfirst).trans hbetween.reaches
      exact ⟨cards, config, Classes,
        (hlogged.snoc hsecond trivial).trans hlater.reaches⟩

/--
No message of a connection that was overtaken is refused as one of a connection
that was kicked out; with a card and a token it passes the check of the card.
-/
theorem Overtaken.never_kicked (h : Overtaken P ClientSock own newer c)
    (ulNow : ULONGLONG) :
    exists GameClient, c.state.clients[ClientSock]? = some GameClient ∧
      (forall Card, checkCard ulNow GameClient c.state.services.cards ≠
        .error (.kicked Card)) ∧
      (own.dwCardCrc ≠ 0 -> own.dwToken ≠ 0 ->
        checkCard ulNow GameClient c.state.services.cards =
          .ok (GameClient.keptALive ulNow)) := by
  rcases h.hasSession with ⟨GameClient, hclient, hsession⟩
  have hcheck := checkCard_of_known ulNow h.reachable.cardsKnown hclient
  rw [hsession] at hcheck
  refine ⟨GameClient, hclient, ?_, ?_⟩
  · intro Card
    rw [hcheck]
    split
    · nofun
    · split <;> nofun
  · intro hcrc htoken
    rw [hcheck, if_neg hcrc, if_neg htoken]

end

/-!
## Releasing
-/

structure Occupant where
  wsAccountName : WString
  wsPlayerName : WString
  wsIp : WString
  dwToken : DWORD
  bExit : Bool
deriving DecidableEq

def occupant (Card : CardInfo) : Occupant where
  wsAccountName := Card.wsAccountName
  wsPlayerName := Card.wsPlayerName
  wsIp := Card.wsIp
  dwToken := Card.dwToken
  bExit := Card.bExit

def vacant : Occupant where
  wsAccountName := []
  wsPlayerName := []
  wsIp := []
  dwToken := 0
  bExit := false

def occupantOf (dwCardCrc : DWORD) (s : CGameServer) : Option Occupant :=
  (s.services.cards.findCard_By_CRC dwCardCrc).map occupant

theorem findCard_remove (Account : ClientAccountContent) (s : Services) :
    (remove P Account s).cards.findCard_By_CRC Account.dwCardCrc =
      if Account.wsAccountName ≠ [] ∧ Account.wsAccountName ≠ L "Empty" ∧
          Account.dwCardCrc ≠ 0 then
        (s.cards.findCard_By_CRC Account.dwCardCrc).map blankCard
      else s.cards.findCard_By_CRC Account.dwCardCrc := by
  unfold remove
  by_cases hname : Account.wsAccountName ≠ [] ∧ Account.wsAccountName ≠ L "Empty"
  · rw [if_pos hname]
    dsimp only
    by_cases hcrc : Account.dwCardCrc ≠ 0
    · rw [if_pos hcrc, findCard_setCardContent, if_pos rfl,
        if_pos ⟨hname.left, hname.right, hcrc⟩]
    · rw [if_neg hcrc, if_neg fun h => hcrc h.right.right]
  · rw [if_neg hname, if_neg fun h => hname ⟨h.left, h.right.left⟩]

theorem occupantOf_release {GameClient : CGameClient}
    (hclient : s.clients[ClientSock]? = some GameClient) :
    occupantOf GameClient.session.dwCardCrc
        (releaseSocketClient P ClientSock s) =
      if GameClient.account.wsAccountName ≠ [] ∧
          GameClient.account.wsAccountName ≠ L "Empty" ∧
          GameClient.session.dwCardCrc ≠ 0 then
        (occupantOf GameClient.session.dwCardCrc s).map fun _ => vacant
      else occupantOf GameClient.session.dwCardCrc s := by
  have hremove := findCard_remove (P := P) GameClient.account s.services
  rw [releaseSocketClient, hclient]
  show ((remove P GameClient.account s.services).cards.findCard_By_CRC
    GameClient.account.dwCardCrc).map occupant = _
  rw [hremove]
  show Option.map occupant (if GameClient.account.wsAccountName ≠ [] ∧
    GameClient.account.wsAccountName ≠ L "Empty" ∧
    GameClient.session.dwCardCrc ≠ 0 then _ else _) = _
  split
  · rw [occupantOf, Option.map_map, Option.map_map]
    rfl
  · rfl

/-- The release of the connection leaves it as it is who has the card. -/
abbrev KeepsOccupant (P : Platform) (ClientSock : SOCKET) (dwCardCrc : DWORD)
    (s : CGameServer) : Prop :=
  occupantOf dwCardCrc (releaseSocketClient P ClientSock s) =
    occupantOf dwCardCrc s

/--
When a connection that was overtaken is released, the card is left to who has it
exactly if the connection's account has no name, or the card has the CRC 0, or
nobody has the card any more.
-/
theorem Overtaken.keepsOccupant_iff {own newer : Session}
    {c : Clocked CGameServer} (h : Overtaken P ClientSock own newer c) :
    exists GameClient, c.state.clients[ClientSock]? = some GameClient ∧
      (KeepsOccupant P ClientSock own.dwCardCrc c.state ↔
        GameClient.account.wsAccountName = [] ∨
          GameClient.account.wsAccountName = L "Empty" ∨ own.dwCardCrc = 0 ∨
            occupantOf own.dwCardCrc c.state = some vacant) := by
  rcases h.hasSession with ⟨GameClient, hclient, hsession⟩
  refine ⟨GameClient, hclient, ?_⟩
  rw [← hsession, KeepsOccupant, occupantOf_release hclient]
  split
  · rename_i hblanks
    rcases hblanks with ⟨hname, hempty, hcrc⟩
    have hknown := h.reachable.cardsKnown ClientSock GameClient hclient hcrc
    rcases Option.isSome_iff_exists.mp hknown with ⟨Card, hCard⟩
    rw [or_iff_right hname, or_iff_right hempty, or_iff_right hcrc, occupantOf,
      hCard, Option.map_some, Option.map_some]
    exact eq_comm
  · rename_i hkeeps
    refine iff_of_true rfl ?_
    by_contra hnone
    exact hkeeps ⟨fun h => hnone (Or.inl h), fun h => hnone (Or.inr (Or.inl h)),
      fun h => hnone (Or.inr (Or.inr (Or.inl h)))⟩

/-!
## Two logins

Anna logs in, and Boris with her card after her.
-/

def cardNo : WString :=
  L "K1"

def cardCrc : DWORD :=
  Platform.standard.getCRC32_DWORD cardNo

def oneCard : CCardExtend :=
  (CCardExtend.tryActiveCard
    (fun dwCrc => some {
      wsCardNo := cardNo
      dwCardCrc := dwCrc
      nMaxHour := 10
      nSurplusHour := 10 })
    cardCrc {}).2

def loginOf (ClientSock : SOCKET) (wsAccountName : WString) (dwToken : DWORD) :
    Event :=
  .recive ClientSock SockMsg.loginGame
    [float 0x3F800000, text wsAccountName, text (L "pass"), text cardNo]
    { getRand_For_DWORD := dwToken }

def anna : Session where
  dwCardCrc := cardCrc
  dwToken := 101

def boris : Session where
  dwCardCrc := cardCrc
  dwToken := 202

def twoSockets : Clocked CGameServer :=
  (machine Platform.standard).play [(10, .accept 1 0), (20, .accept 2 0)]
    (initial oneCard {} ∅)

def annaIn : Clocked CGameServer :=
  (machine Platform.standard).step (30, loginOf 1 (L "anna") 101) twoSockets

def borisIn : Clocked CGameServer :=
  (machine Platform.standard).step (40, loginOf 2 (L "boris") 202) annaIn

theorem borisIn_overtaken : Overtaken Platform.standard 1 anna boris borisIn :=
  .intro twoSockets annaIn (30, loginOf 1 (L "anna") 101)
    (40, loginOf 2 (L "boris") 202) 2
    ⟨oneCard, {}, ∅, Machine.Admits.reaches (by decide +kernel)⟩
    (by decide +kernel)
    ⟨rfl, .intro _ _ _ _ _ rfl rfl (by decide +kernel) rfl⟩
    (Machine.Run.refl _) (by decide +kernel) (by decide)
    ⟨rfl, .intro _ _ _ _ _ rfl rfl (by decide +kernel) rfl⟩ rfl
    (Machine.Run.refl _)

/-- Boris has another token, and Anna is still answered. -/
theorem borisIn_anna_answered :
    Overtaken Platform.standard 1 anna boris borisIn ∧
      anna.dwToken ≠ boris.dwToken ∧ SockMsg.keepALive ∉ vecCheckCard ∧
      (reciveOf Platform.standard 50 1 SockMsg.keepALive [FALSE] {}
          borisIn.state).map Prod.fst =
        some (some { head := some SockMsg.keepALive, values := [dword 0] }) :=
  ⟨borisIn_overtaken, by decide +kernel⟩

theorem borisIn_never_kicked :
    exists GameClient, borisIn.state.clients[(1 : SOCKET)]? = some GameClient ∧
      (forall Card, checkCard 50 GameClient borisIn.state.services.cards ≠
        .error (.kicked Card)) ∧
      (anna.dwCardCrc ≠ 0 -> anna.dwToken ≠ 0 ->
        checkCard 50 GameClient borisIn.state.services.cards =
          .ok (GameClient.keptALive 50)) :=
  borisIn_overtaken.never_kicked 50

/-- Anna's release blanks the card that Boris has. -/
theorem borisIn_card_blanked :
    Overtaken Platform.standard 1 anna boris borisIn ∧
      ¬ KeepsOccupant Platform.standard 1 cardCrc borisIn.state :=
  ⟨borisIn_overtaken, by decide +kernel⟩

theorem borisIn_keepsOccupant_iff :
    exists GameClient, borisIn.state.clients[(1 : SOCKET)]? = some GameClient ∧
      (KeepsOccupant Platform.standard 1 cardCrc borisIn.state ↔
        GameClient.account.wsAccountName = [] ∨
          GameClient.account.wsAccountName = L "Empty" ∨ cardCrc = 0 ∨
            occupantOf cardCrc borisIn.state = some vacant) :=
  borisIn_overtaken.keepsOccupant_iff

end CGameServer
end Server
end BnsKorea
