import BnsKorea.Server.Dispatch
import BnsKorea.TaskTeam.Invariant
import BnsKorea.CrossAreaTeam.Invariant

/-!
# The services on their own

What a handler does to a service it does by calls of the service.  So whatever
holds of a service after any calls holds of it in every state of the server.
-/

namespace BnsKorea
namespace Server

open Library SocketValue

namespace CEchoPacket

/-!
## The calls of a handler
-/

section

variable (GameClient : CGameClient) (ulNow : ULONGLONG)

def taskTeamCalls : Content -> List CBnsTaskTeam.Call
  | .joinTeam_MainLine CtiTeam =>
      [.joinTaskTeam (updateTeamContent CtiTeam GameClient).teamContent]
  | .leaveTeam_MainLine => [.deleteTaskMember GameClient.account.wsAccountName]
  | .joinTeam_Gungoen CtiTeam =>
      [.joinDungoenTeam (updateTeamContent CtiTeam GameClient).teamContent]
  | .leaveTeam_Gungoen =>
      [.deleteDungoenTeamMember GameClient.account.wsAccountName]
  | .setGungoenSchedule dwTeamId wsScheduleName uScheduleIndex =>
      [.updateDungoenSchedule {
        dwTeamId := dwTeamId
        wsAccountName := GameClient.account.wsAccountName
        wsScheduleName := wsScheduleName
        uScheduleIndex := uScheduleIndex }]
  | .setTeamReadonly dwTeamId => [.setReadOnlyTeam dwTeamId]
  | _ => []

def crossAreaTeamCalls : Content -> List CCrossAreaTeam.Call
  | .joinCrossAreaTeam dwTeamId =>
      if dwTeamId ≠ 0 then []
      else
        [.joinTeam { GameClient.crossAreaTeamMember with
          ulTick := ulNow
          ulStartTick := ulNow }]
  | .leaveCrossAreaTeam _ =>
      [.deleteTeamGroup GameClient.account.wsAccountName,
        .deleteTeamMember GameClient.account.wsAccountName]
  | _ => []

def tradeCalls : Content -> List CBnsTrade.Call
  | .itemSupport_GameAccount dwServerId dwChannel vWareHouse =>
      [.join .itemSupport
        (verItemSupport dwServerId dwChannel vWareHouse GameClient) {}]
  | .pickItem_GameAccount dwServerId dwChannel vWareHouse =>
      [.join .pickItem
        (verItemSupport dwServerId dwChannel vWareHouse GameClient) {}]
  | .itemSupport_Warehouse wsWareHouseName dwChannel dwServerId =>
      [.accept .itemSupport
        (WareHouseInfo.extract ulNow wsWareHouseName dwChannel dwServerId)
        unsetResult]
  | .pickItem_Warehouse wsWareHouseName dwChannel dwServerId =>
      [.accept .pickItem
        (WareHouseInfo.extract ulNow wsWareHouseName dwChannel dwServerId)
        unsetResult]
  | _ => []

end

section

variable {P : Platform} {O : Outside} {ulNow : ULONGLONG}

theorem handle_calls (content : Content) (rest : List SocketValue)
    (GameClient : CGameClient) (s : Services) :
    let services := (handle P O ulNow content rest GameClient s).2.2
    services.taskTeam = (taskTeamCalls GameClient content).foldl
        (fun s call => CBnsTaskTeam.apply P.tools call s) s.taskTeam ∧
      services.crossAreaTeam =
        (crossAreaTeamCalls GameClient ulNow content).foldl
          (fun s call => CCrossAreaTeam.apply P.tools ulNow call s)
          s.crossAreaTeam ∧
      services.trade = (tradeCalls GameClient ulNow content).foldl
        (fun s call => CBnsTrade.apply P.tools P.area ulNow call s) s.trade := by
  cases content with
  | downloadScript wsScriptName =>
      dsimp only [handle]
      rw [downloadScript_keeps]
      exact ⟨rfl, rfl, rfl⟩
  | gameLogin =>
      simp only [handle, gameLogin]
      split <;> exact ⟨rfl, rfl, rfl⟩
  | calculateOTP =>
      dsimp only [handle]
      rw [calculateOTP_keeps]
      exact ⟨rfl, rfl, rfl⟩
  | joinCrossAreaTeam dwTeamId =>
      dsimp only [handle, crossAreaTeamCalls]
      rcases joinCrossAreaTeam_cases (P := P) (O := O) dwTeamId GameClient s with
        ⟨hne, hkeeps⟩ | ⟨hzero, hjoined⟩
      · rw [hkeeps, if_pos hne]
        exact ⟨rfl, rfl, rfl⟩
      · rw [hjoined, if_neg (not_not.mpr hzero)]
        exact ⟨rfl, rfl, rfl⟩
  | _ => exact ⟨rfl, rfl, rfl⟩

end

theorem taskTeamCalls_joinsDungoen {content : Content}
    (h : content.emSockMsg ≠ SockMsg.joinDungoenTeam) (GameClient : CGameClient)
    {call : CBnsTaskTeam.Call} (hcall : call ∈ taskTeamCalls GameClient content) :
    call.joinsDungoen = false := by
  cases content with
  | joinTeam_Gungoen => exact absurd rfl h
  | joinTeam_MainLine =>
      rw [List.mem_singleton.mp hcall]
      rfl
  | leaveTeam_MainLine =>
      rw [List.mem_singleton.mp hcall]
      rfl
  | leaveTeam_Gungoen =>
      rw [List.mem_singleton.mp hcall]
      rfl
  | setGungoenSchedule =>
      rw [List.mem_singleton.mp hcall]
      rfl
  | setTeamReadonly =>
      rw [List.mem_singleton.mp hcall]
      rfl
  | _ => cases hcall

end CEchoPacket

namespace CGameServer

open Server.CEchoPacket

variable {P : Platform} {ulNow : ULONGLONG}

/-- What an event does to the services of the calls; nobody joins a dungeon team. -/
structure Calls (P : Platform) (ulNow : ULONGLONG) (s s' : Services) :
    Prop where
  taskTeam : exists calls : List CBnsTaskTeam.Call,
    (forall call, call ∈ calls -> call.joinsDungoen = false) ∧
      s'.taskTeam =
        calls.foldl (fun s call => CBnsTaskTeam.apply P.tools call s) s.taskTeam
  crossAreaTeam : exists calls : List CCrossAreaTeam.Call,
    s'.crossAreaTeam =
      calls.foldl (fun s call => CCrossAreaTeam.apply P.tools ulNow call s)
        s.crossAreaTeam
  trade : exists calls : List CBnsTrade.Call,
    s'.trade =
      calls.foldl (fun s call => CBnsTrade.apply P.tools P.area ulNow call s)
        s.trade

theorem Calls.none (s : Services) : Calls P ulNow s s where
  taskTeam := ⟨[], nofun, rfl⟩
  crossAreaTeam := ⟨[], rfl⟩
  trade := ⟨[], rfl⟩

theorem Outcome.calls {O : Outside} {emSockMsg : SockMsg}
    {pSocketBuffer : List SocketValue} {GameClient : CGameClient} {s : Services}
    {r : Option SocketBuffer × CGameClient × Services}
    (h : Outcome P O ulNow emSockMsg pSocketBuffer GameClient s r) :
    Calls P ulNow s r.2.2 := by
  cases h with
  | unregistered => exact Calls.none s
  | refused => exact Calls.none s
  | handled extract content rest Heard hlookup htaken =>
      have hdungoen : content.emSockMsg ≠ SockMsg.joinDungoenTeam := by
        intro hmsg
        rw [emSockMsg_of_taken hlookup htaken] at hmsg
        rw [hmsg] at hlookup
        cases hlookup
      rcases @handle_calls P O ulNow content rest Heard s with
        ⟨htask, hcross, htrade⟩
      exact ⟨⟨_, fun call => taskTeamCalls_joinsDungoen hdungoen Heard, htask⟩,
        ⟨_, hcross⟩, ⟨_, htrade⟩⟩

theorem remove_calls (Account : ClientAccountContent) (s : Services) :
    Calls P ulNow s (remove P Account s) := by
  unfold remove
  split
  · refine ⟨⟨[.deleteTaskMember Account.wsAccountName], ?_, rfl⟩,
      ⟨[.deleteTeamMember Account.wsAccountName], rfl⟩,
      ⟨[.removeAccount Account.wsAccountName Account.wsPlayerName], rfl⟩⟩
    intro call hcall
    rw [List.mem_singleton.mp hcall]
    rfl
  · exact Calls.none s

theorem apply_calls {e : Event} {s : CGameServer}
    (hallowed : Allowed P ulNow e s) :
    Calls P ulNow s.services (apply P ulNow e s).services := by
  cases e with
  | accept => exact Calls.none s.services
  | recive ClientSock emSockMsg pSocketBuffer O =>
      rcases recive_cases hallowed with ⟨GameClient, r, _, hecho, hstep⟩
      rw [apply, hstep]
      exact (echoRecive_outcome hecho).calls
  | release ClientSock =>
      rcases release_cases hallowed with ⟨GameClient, _, hstep⟩
      rw [apply, hstep]
      exact remove_calls GameClient.account s.services

/-!
## The services of every run
-/

/-- Each service is as some calls of its own at such times leave it. -/
structure ServicesReachable (P : Platform)
    (Classes : Std.TreeMap WString VecClasses) (c : Clocked CGameServer) :
    Prop where
  taskTeam : CBnsTaskTeam.Reachable P.tools c.state.services.taskTeam
  noDungoenTeams : CBnsTaskTeam.NoDungoenTeams c.state.services.taskTeam
  crossAreaTeam : exists ulTick, ulTick ≤ c.now ∧
    CCrossAreaTeam.Reachable P.tools Classes
      { now := ulTick, state := c.state.services.crossAreaTeam }
  trade : exists ulTick, ulTick ≤ c.now ∧
    CBnsTrade.Reachable P.tools P.area
      { now := ulTick, state := c.state.services.trade }

theorem Calls.taskTeam_reachable {s s' : Services} (h : Calls P ulNow s s')
    (hs : CBnsTaskTeam.Reachable P.tools s.taskTeam)
    (hnone : CBnsTaskTeam.NoDungoenTeams s.taskTeam) :
    CBnsTaskTeam.Reachable P.tools s'.taskTeam ∧
      CBnsTaskTeam.NoDungoenTeams s'.taskTeam := by
  rcases h.taskTeam with ⟨calls, hcalls, hs'⟩
  let Both : CBnsTaskTeam -> Prop := fun s =>
    CBnsTaskTeam.Reachable P.tools s ∧ CBnsTaskTeam.NoDungoenTeams s
  have hboth : Both s.taskTeam := ⟨hs, hnone⟩
  rw [hs']
  refine List.foldlRecOn (motive := Both) calls _ hboth ?_
  intro s hboth call hcall
  rcases hboth with ⟨hs, hnone⟩
  exact ⟨hs.snoc trivial,
    CBnsTaskTeam.apply_noDungoenTeams hs.tablesOk hnone (hcalls call hcall)⟩

theorem apply_servicesReachable {Classes : Std.TreeMap WString VecClasses}
    {l : ULONGLONG × Event} {c : Clocked CGameServer}
    (henabled : (machine P).enabled l c) (h : ServicesReachable P Classes c) :
    ServicesReachable P Classes ((machine P).step l c) := by
  have hcalls := apply_calls henabled.right
  rcases hcalls.taskTeam_reachable h.taskTeam h.noDungoenTeams with
    ⟨htask, hnone⟩
  refine ⟨htask, hnone, ?_, ?_⟩
  · rcases h.crossAreaTeam with ⟨ulTick, hearlier, hreach⟩
    rcases hcalls.crossAreaTeam with ⟨calls, hafter⟩
    have hlater := UInt64.le_trans hearlier henabled.left
    rcases Machine.clocked_calls hreach hlater calls with ⟨ulTick', hle, hreach'⟩
    rw [← hafter] at hreach'
    exact ⟨ulTick', hle, hreach'⟩
  · rcases h.trade with ⟨ulTick, hearlier, hreach⟩
    rcases hcalls.trade with ⟨calls, hafter⟩
    have hlater := UInt64.le_trans hearlier henabled.left
    rcases Machine.clocked_calls hreach hlater calls with ⟨ulTick', hle, hreach'⟩
    rw [← hafter] at hreach'
    exact ⟨ulTick', hle, hreach'⟩

theorem Reachable.services {c : Clocked CGameServer} (h : Reachable P c) :
    exists Classes, ServicesReachable P Classes c := by
  rcases h with ⟨cards, config, Classes, hrun⟩
  refine ⟨Classes, hrun.invariant (ServicesReachable P Classes) ?_ ?_⟩
  · intro l c henabled _ h
    exact apply_servicesReachable henabled h
  · exact ⟨Machine.Run.refl _, CBnsTaskTeam.noDungoenTeams_initial,
      ⟨0, UInt64.le_refl 0, Machine.Run.refl _⟩,
      ⟨0, UInt64.le_refl 0, Machine.Run.refl _⟩⟩

end CGameServer
end Server
end BnsKorea
