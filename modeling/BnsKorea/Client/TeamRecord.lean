import BnsKorea.Client.Responses

/-!
# The team record of a connection

A connection has one record for both kinds of teams.  A message with data is
written into it field by field, and the first ten of its members are put behind
those of the messages before.
-/

namespace BnsKorea
namespace Client

open Library SocketValue Server
open Server.CEchoPacket

namespace CSocketAPI

/-!
## Messages
-/

def takenMembers (Cti : ClientTeamInfo) : List ClientTeamMember :=
  (Cti.vTeamMember.map sentMember).take 10

def takenTeam (Cti : ClientTeamInfo) : ClientTeamInfo :=
  { sentTeam Cti with vTeamMember := takenMembers Cti }

def joins : Content -> Bool
  | .joinTeam_MainLine _ => true
  | .joinTeam_Gungoen _ => true
  | _ => false

/-- A message on the connection, or what others do to the services. -/
inductive Message where
  | joinTeam (emType : JoinTeamType) (pClientTeamInfo : Option ClientTeamInfo)
      (hfits : (Call.joinTeam emType pClientTeamInfo).SizesFit)
  | other (content : Content) (rest : List SocketValue) (O : Outside)
      (ulNow : ULONGLONG) (hother : joins content = false)
  | elsewhere (s : Services)

def Message.members : Message -> List ClientTeamMember
  | joinTeam _ (some Cti) _ => takenMembers Cti
  | _ => []

def extractJoinTeamOf : JoinTeamType -> Read Content
  | .mainLine => extractJoinTeam_MainLine
  | .gungoen => extractJoinTeam_Gungoen

def joinTeamContent : JoinTeamType -> Option ClientTeamInfo -> Content
  | .mainLine => Content.joinTeam_MainLine
  | .gungoen => Content.joinTeam_Gungoen

structure Connection where
  gameClient : Server.CGameClient
  services : Services
  last : ClientTeamInfo := {}

def packet (Account : ClientAccountContent) (Cti : ClientTeamInfo) :
    ClientTeamInfo :=
  { sentTeam Cti with
    selfCti :=
      { wsAccountName := Account.wsAccountName
        wsPlayerName := Account.wsPlayerName
        dwPlayerId := Cti.selfCti.dwPlayerId } }

section

variable (P : Platform)

def handled (O : Outside) (ulNow : ULONGLONG) (content : Content)
    (rest : List SocketValue) (c : Connection) : Connection :=
  { c with
    gameClient := (handle P O ulNow content rest c.gameClient c.services).2.1
    services := (handle P O ulNow content rest c.gameClient c.services).2.2 }

def recive (emType : JoinTeamType) (values : List SocketValue) (c : Connection) :
    Connection :=
  match (extractJoinTeamOf emType).run values with
  | none => c
  -- the two handlers ask nobody outside, and not for the time
  | some (content, rest) => handled P {} 0 content rest c

def step : Message -> Connection -> Connection
  | .joinTeam emType none _, c => recive P emType (joinTeamValues none) c
  | .joinTeam emType (some Cti) _, c =>
      { recive P emType (joinTeamValues (some Cti)) c with
        last := packet c.gameClient.account Cti }
  | .other content rest O ulNow _, c => handled P O ulNow content rest c
  | .elsewhere s, c => { c with services := s }

def connection : Machine Connection Message where
  enabled _ _ := True
  step := step P

def accepted (Account : ClientAccountContent) (Member : CrossAreaTeamMember)
    (s : Services) : Connection where
  gameClient := { account := Account, crossAreaTeamMember := Member }
  services := s

end

/-!
## What the handlers do to the record
-/

section

variable {P : Platform}

theorem handle_teamContent {O : Outside} {ulNow : ULONGLONG} {content : Content}
    (hother : joins content = false) (rest : List SocketValue)
    (GameClient : Server.CGameClient) (s : Services) :
    (handle P O ulNow content rest GameClient s).2.1.teamContent =
      GameClient.teamContent := by
  cases content with
  | joinTeam_MainLine CtiTeam => cases hother
  | joinTeam_Gungoen CtiTeam => cases hother
  | gameLogin =>
      simp only [handle, gameLogin]
      split <;> rfl
  | downloadScript wsScriptName =>
      show (downloadScript P O wsScriptName GameClient s).2.1.teamContent = _
      rw [downloadScript_keeps]
  | calculateOTP =>
      show (calculateOTP P O GameClient s).2.1.teamContent = _
      rw [calculateOTP_keeps]
  | joinCrossAreaTeam dwTeamId =>
      show (joinCrossAreaTeam P O ulNow dwTeamId GameClient s).2.1.teamContent = _
      rcases joinCrossAreaTeam_cases (P := P) (O := O) dwTeamId GameClient s with
        ⟨_, hkeeps⟩ | ⟨_, hjoined⟩
      · rw [hkeeps]
      · rw [hjoined]
  | _ => rfl

theorem handle_joinTeam {O : Outside} {ulNow : ULONGLONG} (emType : JoinTeamType)
    (CtiTeam : Option ClientTeamInfo) (rest : List SocketValue)
    (GameClient : Server.CGameClient) (s : Services) :
    (handle P O ulNow (joinTeamContent emType CtiTeam) rest GameClient s).2.1 =
      updateTeamContent CtiTeam GameClient := by
  cases emType with
  | mainLine => rfl
  | gungoen => rfl

theorem extractJoinTeam_run {emType : JoinTeamType}
    {pClientTeamInfo : Option ClientTeamInfo}
    (hfits : (Call.joinTeam emType pClientTeamInfo).SizesFit) :
    exists rest, extractJoinTeam.run (joinTeamValues pClientTeamInfo) =
      some (pClientTeamInfo.map takenTeam, rest) := by
  have hmainLine : (Call.joinTeam .mainLine pClientTeamInfo).SizesFit := by
    cases pClientTeamInfo with
    | none => exact hfits
    | some Cti => exact hfits
  rcases joinTeam_takes hmainLine with ⟨taken, hvalues, hreads, _⟩
  have hcontent : capped (Call.joinTeam .mainLine pClientTeamInfo).content =
      Content.joinTeam_MainLine (pClientTeamInfo.map takenTeam) := by
    cases pClientTeamInfo with
    | none => rfl
    | some Cti => rfl
  rw [hcontent] at hreads
  have hreads := Reader.Reads.of_map
    (fun _ _ h => Content.joinTeam_MainLine.inj h) hreads
  refine ⟨(Call.joinTeam .mainLine pClientTeamInfo).behind, ?_⟩
  show extractJoinTeam.run (Call.joinTeam .mainLine pClientTeamInfo).values = _
  rw [hvalues]
  exact hreads _

theorem recive_joinTeam {emType : JoinTeamType}
    {pClientTeamInfo : Option ClientTeamInfo}
    (hfits : (Call.joinTeam emType pClientTeamInfo).SizesFit) (c : Connection) :
    (recive P emType (joinTeamValues pClientTeamInfo) c).gameClient =
        updateTeamContent (pClientTeamInfo.map takenTeam) c.gameClient ∧
      (recive P emType (joinTeamValues pClientTeamInfo) c).last = c.last := by
  rcases extractJoinTeam_run hfits with ⟨rest, hrun⟩
  have hcontent : (extractJoinTeamOf emType).run (joinTeamValues pClientTeamInfo) =
      some (joinTeamContent emType (pClientTeamInfo.map takenTeam), rest) := by
    cases emType with
    | mainLine =>
        show (Content.joinTeam_MainLine <$> extractJoinTeam).run _ = _
        rw [StateT.run_map, hrun]
        rfl
    | gungoen =>
        show (Content.joinTeam_Gungoen <$> extractJoinTeam).run _ = _
        rw [StateT.run_map, hrun]
        rfl
  rw [recive, hcontent]
  exact ⟨handle_joinTeam emType _ rest c.gameClient c.services, rfl⟩

/-!
## Runs
-/

def IsLastPacket (c : Connection) : Prop :=
  c.gameClient.teamContent = c.last

theorem step_members (l : Message) (c : Connection) :
    (step P l c).gameClient.teamContent.vTeamMember =
      c.gameClient.teamContent.vTeamMember ++ l.members := by
  cases l with
  | joinTeam emType pClientTeamInfo hfits =>
      cases pClientTeamInfo with
      | none =>
          show (recive P emType _ c).gameClient.teamContent.vTeamMember = _ ++ []
          rw [(recive_joinTeam hfits c).left, List.append_nil]
          rfl
      | some Cti =>
          show (recive P emType _ c).gameClient.teamContent.vTeamMember = _
          rw [(recive_joinTeam hfits c).left]
          rfl
  | other content rest O ulNow hother =>
      show (handle P O ulNow content rest c.gameClient
        c.services).2.1.teamContent.vTeamMember = _ ++ []
      rw [handle_teamContent hother, List.append_nil]
  | elsewhere s => exact (List.append_nil _).symm

theorem play_members (messages : List Message) (c : Connection) :
    ((connection P).play messages c).gameClient.teamContent.vTeamMember =
      c.gameClient.teamContent.vTeamMember ++ messages.flatMap Message.members := by
  induction messages generalizing c with
  | nil => exact (List.append_nil _).symm
  | cons l messages ih =>
      show ((connection P).play messages
        (step P l c)).gameClient.teamContent.vTeamMember = _
      rw [ih, step_members, List.append_assoc, List.flatMap_cons]

/--
The members are all taken, and there are no others before them; or they begin
with those and go on with their own first ten again.
-/
def Fits (before members : List ClientTeamMember) : Prop :=
  (before = [] ∧ members.length ≤ 10) ∨
    (before ≠ [] ∧ before <+: members ∧ members.drop before.length = members.take 10)

theorem append_take_eq_iff {before members : List ClientTeamMember} :
    before ++ members.take 10 = members ↔ Fits before members := by
  constructor
  · intro h
    by_cases hbefore : before = []
    · rw [hbefore, List.nil_append] at h
      exact Or.inl ⟨hbefore, List.take_eq_self_iff members |>.mp h⟩
    · refine Or.inr ⟨hbefore, ⟨members.take 10, h⟩, ?_⟩
      have hdrop := congrArg (List.drop before.length) h
      rw [List.drop_left] at hdrop
      exact hdrop.symm
  · intro h
    rcases h with ⟨hbefore, hlength⟩ | ⟨_, ⟨rest, hrest⟩, hdrop⟩
    · rw [hbefore, List.nil_append, List.take_of_length_le hlength]
    · rw [← hdrop, ← hrest, List.drop_left]

/-- A message with data has members that fit behind those of the record. -/
def FitsRecord : Message -> Connection -> Prop
  | .joinTeam _ (some Cti) _, c =>
      Fits c.gameClient.teamContent.vTeamMember (Cti.vTeamMember.map sentMember)
  | _, _ => True

theorem step_isLastPacket_iff (l : Message) (c : Connection)
    (h : IsLastPacket c) : IsLastPacket (step P l c) ↔ FitsRecord l c := by
  cases l with
  | joinTeam emType pClientTeamInfo hfits =>
      cases pClientTeamInfo with
      | none =>
          apply iff_of_true _ trivial
          show (recive P emType _ c).gameClient.teamContent =
            (recive P emType _ c).last
          rw [(recive_joinTeam hfits c).left, (recive_joinTeam hfits c).right]
          exact h
      | some Cti =>
          show (recive P emType _ c).gameClient.teamContent =
              packet c.gameClient.account Cti ↔
            Fits c.gameClient.teamContent.vTeamMember
              (Cti.vTeamMember.map sentMember)
          rw [(recive_joinTeam hfits c).left, ← append_take_eq_iff]
          constructor
          · intro hsame
            exact congrArg ClientTeamInfo.vTeamMember hsame
          · intro hmembers
            show { packet c.gameClient.account Cti with
              vTeamMember := c.gameClient.teamContent.vTeamMember ++
                (Cti.vTeamMember.map sentMember).take 10 } = _
            rw [hmembers]
            rfl
  | other content rest O ulNow hother =>
      apply iff_of_true _ trivial
      show (handle P O ulNow content rest c.gameClient c.services).2.1.teamContent =
        c.last
      rw [handle_teamContent hother]
      exact h
  | elsewhere s => exact iff_of_true h trivial

/--
In every run the record is the last packet all along exactly if the members of
each message with data fit behind those that were taken of the messages before.
-/
theorem isLastPacket_iff (P : Platform) (Account : ClientAccountContent)
    (Member : CrossAreaTeamMember) (s : Services) (messages : List Message) :
    (forall n, IsLastPacket
      ((connection P).play (messages.take n) (accepted Account Member s))) ↔
    forall n emType Cti hfits,
      messages[n]? = some (.joinTeam emType (some Cti) hfits) ->
      Fits ((messages.take n).flatMap Message.members)
        (Cti.vTeamMember.map sentMember) := by
  have halways := Machine.play_always_iff (M := connection P) (fun _ => True)
    IsLastPacket FitsRecord (fun _ _ _ => trivial)
    (fun l c _ h => step_isLastPacket_iff l c h) messages
    (s := accepted Account Member s) trivial rfl
  rw [halways]
  have hmembers : forall n, ((connection P).play (messages.take n)
      (accepted Account Member s)).gameClient.teamContent.vTeamMember =
      (messages.take n).flatMap Message.members := by
    intro n
    rw [play_members]
    rfl
  constructor
  · intro hall n emType Cti hfits hn
    rw [← hmembers]
    exact hall n _ hn
  · intro hall n l hn
    cases l with
    | joinTeam emType pClientTeamInfo hfits =>
        cases pClientTeamInfo with
        | none => trivial
        | some Cti =>
            have hfit := hall n emType Cti hfits hn
            rw [← hmembers] at hfit
            exact hfit
    | _ => trivial

def teamWith (wsPlayerName : WString) : ClientTeamInfo where
  dwTaskId := 0x1F
  dwServerId := 2
  dwMaxMember := 2
  vTeamMember := [{ wsPlayerName := wsPlayerName, dwPlayerId := 7 }]

def twoTeams : List Message :=
  [.joinTeam .mainLine (some (teamWith (L "Boris"))) (by decide : 1 < 2 ^ 32),
    .joinTeam .mainLine (some (teamWith (L "Cleo"))) (by decide : 1 < 2 ^ 32)]

/-- Both of them are in her record. -/
theorem twoTeams_not_lastPacket :
    ¬ forall n, IsLastPacket
      ((connection Platform.standard).play (twoTeams.take n)
        (accepted { wsAccountName := L "anna", wsPlayerName := L "Anna" }
          annaMember noTeams)) := by
  intro h
  have hmembers := congrArg ClientTeamInfo.vTeamMember (h 2)
  rw [play_members] at hmembers
  have hlength := congrArg List.length hmembers
  exact absurd hlength (by decide : ¬ (2 = 1))

end

end CSocketAPI
end Client
end BnsKorea
