import BnsKorea.Server.GameServer

/-!
# What dispatch does

Every message of the table is taken as a content of its own kind.  So what
becomes of a message is one of three things: nobody is registered for it, the
check of the card turns it down, or the handler of its content gets it.
-/

namespace BnsKorea
namespace Server

open Library SocketValue

namespace CEchoPacket

def Content.emSockMsg : Content -> SockMsg
  | .queryCard _ => SockMsg.queryCardInfo
  | .keepALive _ => SockMsg.keepALive
  | .downloadScript _ => SockMsg.queryScriptKey
  | .gameLogin _ _ _ _ => SockMsg.loginGame
  | .announcement => SockMsg.title
  | .joinTeam_MainLine _ => SockMsg.joinTeamOrder
  | .leaveTeam_MainLine => SockMsg.leaveTeamOrder
  | .joinTeam_Gungoen _ => SockMsg.joinDungoenTeam
  | .leaveTeam_Gungoen => SockMsg.dissolutionTeam
  | .itemSupport_GameAccount _ _ _ => SockMsg.clientItemSupport
  | .pickItem_GameAccount _ _ _ => SockMsg.clientPickItem
  | .itemSupport_Warehouse _ _ _ => SockMsg.clientWarehouseMainTask
  | .pickItem_Warehouse _ _ _ => SockMsg.clientWarehousePickItem
  | .setGungoenSchedule _ _ _ => SockMsg.updateTeamSchedule
  | .getGungoenSchedule _ => SockMsg.getTeamSchedule
  | .setTeamReadonly _ => SockMsg.setTeamReadonly
  | .saveTradeData _ => SockMsg.clientDealMessage
  | .saveLoginData _ => SockMsg.clientLoginedLog
  | .banned => SockMsg.clientBanned
  | .getLessPersonChannel _ => SockMsg.getChannel
  | .getCouldConfigValue _ _ => SockMsg.getConfigValue
  | .setCouldConfigValue _ => SockMsg.setConfigValue
  | .consoleKeepALive => SockMsg.consoleKeepALive
  | .saveAccountLogData _ => SockMsg.saveLocalAccountLog
  | .calculateOTP => SockMsg.otp
  | .getDailyTaskSchedule => SockMsg.queryDailyTaskSchedule
  | .setDailyTaskSchedule _ => SockMsg.updateDailyTaskSchedule
  | .joinCrossAreaTeam _ => SockMsg.crossAreaTeam
  | .setCrossAreaTeamContent _ _ _ _ _ => SockMsg.setCrossAreaTeamContent
  | .leaveCrossAreaTeam _ => SockMsg.deleteCrossAreaTeam
  | .queryAccountVirtualSeriaNumber _ => SockMsg.queryAccountVirtualSeriaNumber

end CEchoPacket

def CGameClient.keptALive (ulNow : ULONGLONG) (GameClient : CGameClient) :
    CGameClient :=
  { GameClient with
    account := { GameClient.account with ulKeepALiveTick := ulNow } }

namespace CGameServer

open Server.CEchoPacket

/-- The entry of the table takes contents of its own message only. -/
def TakesOwn (entry : SockMsg × Read Content) : Prop :=
  Reader.Yields entry.2 fun content => content.emSockMsg = entry.1

theorem takesOwn_map {α : Type} {id : SockMsg} {r : Read α} {f : α -> Content}
    (h : forall a, (f a).emSockMsg = id) : TakesOwn (id, f <$> r) :=
  Reader.yields_map h

theorem takesOwn_pure (content : Content) :
    TakesOwn (content.emSockMsg, pure content) :=
  Reader.yields_pure rfl

theorem extractGameLogin_takesOwn :
    TakesOwn (SockMsg.loginGame, extractGameLogin) :=
  Reader.yields_bind fun _ => Reader.yields_bind fun _ =>
    Reader.yields_bind fun _ => Reader.yields_bind fun _ =>
      Reader.yields_pure rfl

theorem extractClientTradePacket_takesOwn {id : SockMsg}
    {content : DWORD -> DWORD -> List WString -> Content}
    (h : forall a b c, (content a b c).emSockMsg = id) :
    TakesOwn (id, extractClientTradePacket content) :=
  Reader.yields_bind fun _ => Reader.yields_bind fun _ =>
    Reader.yields_bind fun _ => Reader.yields_bind fun _ =>
      Reader.yields_pure (h _ _ _)

theorem extractWarehouse_takesOwn {id : SockMsg}
    {content : WString -> DWORD -> DWORD -> Content}
    (h : forall a b c, (content a b c).emSockMsg = id) :
    TakesOwn (id, extractWarehouse content) :=
  Reader.yields_bind fun _ => Reader.yields_bind fun _ =>
    Reader.yields_bind fun _ => Reader.yields_pure (h _ _ _)

theorem extractSetGungoenSchedule_takesOwn :
    TakesOwn (SockMsg.updateTeamSchedule, extractSetGungoenSchedule) :=
  Reader.yields_bind fun _ => Reader.yields_bind fun _ =>
    Reader.yields_bind fun _ => Reader.yields_pure rfl

theorem extractGetCouldConfigValue_takesOwn :
    TakesOwn (SockMsg.getConfigValue, extractGetCouldConfigValue) :=
  Reader.yields_bind fun _ => Reader.yields_bind fun _ =>
    Reader.yields_pure rfl

theorem extractSetCrossAreaTeamContent_takesOwn :
    TakesOwn (SockMsg.setCrossAreaTeamContent,
      extractSetCrossAreaTeamContent) :=
  Reader.yields_bind fun _ => Reader.yields_bind fun _ =>
    Reader.yields_bind fun _ => Reader.yields_bind fun _ =>
      Reader.yields_bind fun _ => Reader.yields_bind fun _ =>
        Reader.yields_pure rfl

theorem vecEchoPacketPtr_takesOwn :
    forall entry, entry ∈ vecEchoPacketPtr -> TakesOwn entry := by
  unfold vecEchoPacketPtr
  simp only [List.forall_mem_cons]
  exact ⟨takesOwn_map fun _ => rfl, takesOwn_map fun _ => rfl,
    takesOwn_map fun _ => rfl, takesOwn_pure .announcement,
    extractGameLogin_takesOwn, takesOwn_map fun _ => rfl,
    takesOwn_pure .leaveTeam_MainLine, takesOwn_pure .leaveTeam_Gungoen,
    extractClientTradePacket_takesOwn fun _ _ _ => rfl,
    extractClientTradePacket_takesOwn fun _ _ _ => rfl,
    extractWarehouse_takesOwn fun _ _ _ => rfl,
    extractWarehouse_takesOwn fun _ _ _ => rfl,
    extractSetGungoenSchedule_takesOwn, takesOwn_map fun _ => rfl,
    takesOwn_map fun _ => rfl, takesOwn_map fun _ => rfl,
    takesOwn_map fun _ => rfl, takesOwn_pure .banned, takesOwn_map fun _ => rfl,
    extractGetCouldConfigValue_takesOwn, takesOwn_map fun _ => rfl,
    takesOwn_pure .consoleKeepALive, takesOwn_map fun _ => rfl,
    takesOwn_pure .calculateOTP, takesOwn_pure .getDailyTaskSchedule,
    takesOwn_map fun _ => rfl, takesOwn_map fun _ => rfl,
    takesOwn_map fun _ => rfl, extractSetCrossAreaTeamContent_takesOwn,
    takesOwn_map fun _ => rfl, fun _ h => nomatch h⟩

theorem emSockMsg_of_taken {emSockMsg : SockMsg} {extract : Read Content}
    {content : Content} {pSocketBuffer rest : List SocketValue}
    (hlookup : vecEchoPacketPtr.lookup emSockMsg = some extract)
    (htaken : extract.run pSocketBuffer = some (content, rest)) :
    content.emSockMsg = emSockMsg := by
  rcases List.lookup_eq_some_iff.mp hlookup with ⟨before, after, hsplit, _⟩
  have hmem : (emSockMsg, extract) ∈ vecEchoPacketPtr := by
    rw [hsplit]
    exact List.mem_append_right _ List.mem_cons_self
  exact vecEchoPacketPtr_takesOwn _ hmem _ _ _ htaken

/-!
## Outcomes
-/

variable {P : Platform} {O : Outside} {ulNow : ULONGLONG} {emSockMsg : SockMsg}
  {GameClient : CGameClient} {s : Services}

theorem checkCard_ok {Checked : CGameClient}
    (h : checkCard ulNow GameClient s.cards = .ok Checked) :
    Checked = GameClient.keptALive ulNow := by
  unfold checkCard at h
  dsimp only at h
  split at h
  · cases h
  · split at h
    · cases h
    · split at h
      · cases h
      · split at h
        · cases h
        · exact (Except.ok.inj h).symm

/-- What becomes of a message. -/
inductive Outcome (P : Platform) (O : Outside) (ulNow : ULONGLONG)
    (emSockMsg : SockMsg) (pSocketBuffer : List SocketValue)
    (GameClient : CGameClient) (s : Services) :
    Option SocketBuffer × CGameClient × Services -> Prop where
  | unregistered :
      Outcome P O ulNow emSockMsg pSocketBuffer GameClient s
        (none, GameClient, s)
  | refused (refusal : Refusal)
      (hrefused : checkCard ulNow GameClient s.cards = .error refusal) :
      Outcome P O ulNow emSockMsg pSocketBuffer GameClient s
        (some (Reply.error (refusal.text P)).buffer, GameClient, s)
  | handled (extract : Read Content) (content : Content)
      (rest : List SocketValue) (Heard : CGameClient)
      (hlookup : vecEchoPacketPtr.lookup emSockMsg = some extract)
      (htaken : extract.run pSocketBuffer = some (content, rest))
      (hheard : Heard = GameClient ∨ Heard = GameClient.keptALive ulNow) :
      Outcome P O ulNow emSockMsg pSocketBuffer GameClient s
        (some (sent emSockMsg (handle P O ulNow content rest Heard s).1.buffer),
          (handle P O ulNow content rest Heard s).2)

variable {pSocketBuffer : List SocketValue}
  {r : Option SocketBuffer × CGameClient × Services}

theorem invoke_outcome {extract : Read Content} {Heard : CGameClient}
    (hlookup : vecEchoPacketPtr.lookup emSockMsg = some extract)
    (hheard : Heard = GameClient ∨ Heard = GameClient.keptALive ulNow)
    (h : invoke P O ulNow emSockMsg extract pSocketBuffer Heard s = some r) :
    Outcome P O ulNow emSockMsg pSocketBuffer GameClient s r := by
  rcases Option.map_eq_some_iff.mp h with ⟨⟨content, rest⟩, htaken, hr⟩
  rw [← hr]
  exact .handled extract content rest Heard hlookup htaken hheard

theorem echoRecive_outcome
    (h : echoRecive P O ulNow emSockMsg pSocketBuffer GameClient s = some r) :
    Outcome P O ulNow emSockMsg pSocketBuffer GameClient s r := by
  unfold echoRecive at h
  split at h
  · rw [← Option.some.inj h]
    exact .unregistered
  · rename_i extract hlookup
    split at h
    · exact invoke_outcome hlookup (Or.inl rfl) h
    · split at h
      · rename_i refusal hrefused
        rw [← Option.some.inj h]
        exact .refused refusal hrefused
      · rename_i Checked hchecked
        exact invoke_outcome hlookup (Or.inr (checkCard_ok hchecked)) h

/-!
## Steps
-/

theorem recive_cases {ClientSock : SOCKET} {s : CGameServer}
    (h : Allowed P ulNow (.recive ClientSock emSockMsg pSocketBuffer O) s) :
    exists GameClient r, s.clients[ClientSock]? = some GameClient ∧
      echoRecive P O ulNow emSockMsg pSocketBuffer GameClient s.services =
        some r ∧
      recive P ulNow ClientSock emSockMsg pSocketBuffer O s =
        { clients := s.clients.insert ClientSock r.2.1, services := r.2.2 } := by
  rcases Option.isSome_iff_exists.mp h with ⟨r, hr⟩
  rcases Option.bind_eq_some_iff.mp hr with ⟨GameClient, hclient, hecho⟩
  refine ⟨GameClient, r, hclient, hecho, ?_⟩
  rw [recive, hr]

theorem release_cases {ClientSock : SOCKET} {s : CGameServer}
    (h : Allowed P ulNow (.release ClientSock) s) :
    exists GameClient, s.clients[ClientSock]? = some GameClient ∧
      releaseSocketClient P ClientSock s =
        { clients := s.clients.erase ClientSock
          services := remove P GameClient.account s.services } := by
  rcases Option.isSome_iff_exists.mp h with ⟨GameClient, hclient⟩
  refine ⟨GameClient, hclient, ?_⟩
  rw [releaseSocketClient, hclient]

theorem apply_client {e : Event} {ClientSock : SOCKET} {GameClient : CGameClient}
    {s : CGameServer} (hallowed : Allowed P ulNow e s)
    (hstays : e ≠ .release ClientSock)
    (hclient : s.clients[ClientSock]? = some GameClient) :
    (apply P ulNow e s).clients[ClientSock]? = some GameClient ∨
      exists emSockMsg pSocketBuffer O r,
        e = .recive ClientSock emSockMsg pSocketBuffer O ∧
        echoRecive P O ulNow emSockMsg pSocketBuffer GameClient s.services =
          some r ∧
        (apply P ulNow e s).clients[ClientSock]? = some r.2.1 := by
  cases e with
  | accept ClientSock' emClasses =>
      have hnew : s.clients[ClientSock']?.isNone := hallowed
      refine Or.inl ?_
      rw [apply, createNewSocketClient, OrderedMaps.getElem?_insert_of_ne]
      · exact hclient
      · intro heq
        rw [heq, hclient] at hnew
        cases hnew
  | recive ClientSock' emSockMsg pSocketBuffer O =>
      rcases recive_cases hallowed with ⟨GameClient', r, hclient', hecho, hstep⟩
      rw [apply, hstep]
      by_cases hsame : ClientSock' = ClientSock
      · rw [hsame, hclient, Option.some.injEq] at hclient'
        rw [← hclient'] at hecho
        refine Or.inr ⟨emSockMsg, pSocketBuffer, O, r, by rw [hsame], hecho, ?_⟩
        rw [hsame, OrderedMaps.getElem?_insert_self]
      · refine Or.inl ?_
        rw [OrderedMaps.getElem?_insert_of_ne _ _ hsame]
        exact hclient
  | release ClientSock' =>
      rcases release_cases hallowed with ⟨GameClient', _, hstep⟩
      have hother : ClientSock' ≠ ClientSock := by
        intro hsame
        exact hstays (congrArg Event.release hsame)
      refine Or.inl ?_
      rw [apply, hstep, OrderedMaps.getElem?_erase, if_neg hother]
      exact hclient

end CGameServer
end Server
end BnsKorea
