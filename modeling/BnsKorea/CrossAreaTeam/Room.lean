import BnsKorea.CrossAreaTeam.Matching

/-!
# What a team's clients know of it

A client asks the server for its team and fills the content of its dungeon room
from the reply.  The captain is sent the other players, the others are sent
nobody, and every client takes the length of what it was sent for the number of
players to wait for.
-/

namespace BnsKorea

open Library

/-!
## The server's reply
-/

structure CGameClient where
  wsAccountName : WString
  crossAreaTeamMember : CrossAreaTeamMember

namespace CEchoPacket

variable (T : MyTools) (S : CLSocketBuffer)

/-- `TRUE` as `operator <<` writes it. -/
def TRUE : DWORD := 1

def FALSE : DWORD := 0

/-- The reply about a team.  `junk` is what the unassigned fields hold. -/
def teamGroupReply (junk : DWORD) (wsAccountName : WString)
    (TeamGroup : CrossAreaTeamGroup) (b : S.Buffer) : S.Buffer :=
  let b := S.putDword b TRUE
  let b := S.putText b TeamGroup.wsDungeonName
  let b := S.putText b TeamGroup.captain.info.wsPlayerName
  let b := S.putDword b TeamGroup.captain.info.dwPlayerId
  let b := S.putDword b TeamGroup.captain.dwRoomId
  let b := S.putDword b (TeamGroup.dwDungeonMapIndex.getD junk)
  let b := S.putDword b (TeamGroup.emDifficulty.getD junk)
  -- a plain member only needs the captain's id
  if wsAccountName ≠ TeamGroup.captain.account then S.putDword b 0
  else
    TeamGroup.vecMember.foldl
      (fun b itm => S.putDword (S.putText b itm.info.wsPlayerName)
        itm.info.dwPlayerId)
      (S.putDword b (UInt32.ofNat TeamGroup.vecMember.length))

def joinCrossAreaTeam (junk : DWORD) (ulNow : ULONGLONG)
    (GameClient : CGameClient) (b : S.Buffer) (s : CCrossAreaTeam) :
    S.Buffer × CCrossAreaTeam :=
  let dwTeamId := (S.getDword b).1
  let b := (S.getDword b).2
  if dwTeamId ≠ 0 then
    match CCrossAreaTeam.getTeamMemberContent dwTeamId s with
    | none => (S.putDword (S.initializeHead (S.clear b)) FALSE, s)
    | some TeamGroup =>
        (teamGroupReply S junk GameClient.wsAccountName TeamGroup (S.clear b), s)
  else
    match CCrossAreaTeam.joinTeam T ulNow GameClient.crossAreaTeamMember s with
    | (some dwTeamId, s) => (S.putDword (S.initializeHead b) dwTeamId, s)
    | (none, s) => (S.putDword (S.initializeHead b) 0, s)

end CEchoPacket

/-!
## The client
-/

namespace CSocketAPI

variable (S : CLSocketBuffer)

inductive CrossAreaTeamResultType where
  | timeout
  | undefine
  | succ
deriving DecidableEq

def requestTeamGroup (dwTeamId : DWORD) : S.Buffer :=
  S.putDword (S.initializeHead S.empty) dwTeamId

/-- One entry of the member list; `fresh` is a newly constructed member. -/
def readMember (fresh : CrossAreaTeamMember)
    (r : S.Buffer × List CrossAreaTeamMember) :
    S.Buffer × List CrossAreaTeamMember :=
  let (wsPlayerName, b) := S.getText r.1
  let (dwPlayerId, b) := S.getDword b
  (b, r.2 ++ [{ fresh with
    info := { fresh.info with
      wsPlayerName := wsPlayerName
      dwPlayerId := dwPlayerId } }])

/-- What the callback of `GetTeamGroupContent` does with the reply. -/
def getTeamGroupContent (fresh : CrossAreaTeamMember) (b : S.Buffer)
    (Teamgroup : CrossAreaTeamGroup) :
    CrossAreaTeamResultType × CrossAreaTeamGroup :=
  let (bFind, b) := S.getDword b
  if bFind = 0 then (CrossAreaTeamResultType.undefine, Teamgroup)
  else
    let (wsDungeonName, b) := S.getText b
    let (wsPlayerName, b) := S.getText b
    let (dwPlayerId, b) := S.getDword b
    let (dwRoomId, b) := S.getDword b
    let (dwDungeonMapIndex, b) := S.getDword b
    let (emDifficulty, b) := S.getDword b
    let (uCount, b) := S.getDword b
    let vecMember :=
      ((readMember S fresh)^[uCount.toNat] (b, Teamgroup.vecMember)).2
    (CrossAreaTeamResultType.succ,
      { Teamgroup with
        wsDungeonName := wsDungeonName
        captain := { Teamgroup.captain with
          info := { Teamgroup.captain.info with
            wsPlayerName := wsPlayerName
            dwPlayerId := dwPlayerId }
          dwRoomId := dwRoomId }
        dwDungeonMapIndex := some dwDungeonMapIndex
        emDifficulty := some emDifficulty
        vecMember := vecMember })

end CSocketAPI

namespace CCrossAreaTeamRoom

structure CrossAreaTeamContent where
  bCaptain : Bool
  captain : ClientTeamMember
  vecMember : List ClientTeamMember
  wsCurrentDungeonName : WString

def vecCrossAreaTeamToClientTeamMember (Vec : List CrossAreaTeamMember) :
    List ClientTeamMember :=
  Vec.map CrossAreaTeamMember.info

/-- A newly declared `CrossAreaTeamGroup`. -/
def newGroup (fresh : CrossAreaTeamMember) : CrossAreaTeamGroup where
  captain := fresh
  vecMember := []
  dwTeamId := 0
  wsDungeonName := []

/-- `_TeamContent` after `CreateTeam_In_Server`; `dwId` is the player's own. -/
def createTeam_In_Server (dwId : DWORD) (Result : CrossAreaTeamGroup) :
    CrossAreaTeamContent where
  bCaptain := Result.captain.info.dwPlayerId == dwId
  captain := Result.captain.info
  vecMember := vecCrossAreaTeamToClientTeamMember Result.vecMember
  wsCurrentDungeonName := Result.wsDungeonName

/-- The loop of `MainFormReadyStep` ends with this head count of the room. -/
def roomComplete (dwRoomMemberCount : Nat) (content : CrossAreaTeamContent) :
    Bool :=
  dwRoomMemberCount == content.vecMember.length

end CCrossAreaTeamRoom

/-!
## What arrives
-/

namespace CEchoPacket

variable (S : CLSocketBuffer)

def listedFor (wsAccountName : WString) (TeamGroup : CrossAreaTeamGroup) :
    List CrossAreaTeamMember :=
  if wsAccountName ≠ TeamGroup.captain.account then [] else TeamGroup.vecMember

def memberItems (itm : CrossAreaTeamMember) : List SocketItem :=
  [SocketItem.text itm.info.wsPlayerName, SocketItem.dword itm.info.dwPlayerId]

private theorem pending_members (members : List CrossAreaTeamMember)
    (b : S.Buffer) :
    S.pending (members.foldl
      (fun b itm => S.putDword (S.putText b itm.info.wsPlayerName)
        itm.info.dwPlayerId) b) =
      S.pending b ++ members.flatMap memberItems := by
  induction members generalizing b with
  | nil => simp
  | cons itm members ih =>
      rw [List.foldl_cons, ih]
      simp [memberItems]

theorem pending_teamGroupReply (junk : DWORD) (wsAccountName : WString)
    (TeamGroup : CrossAreaTeamGroup) (b : S.Buffer) :
    S.pending (teamGroupReply S junk wsAccountName TeamGroup b) =
      S.pending b ++
        [SocketItem.dword TRUE, SocketItem.text TeamGroup.wsDungeonName,
          SocketItem.text TeamGroup.captain.info.wsPlayerName,
          SocketItem.dword TeamGroup.captain.info.dwPlayerId,
          SocketItem.dword TeamGroup.captain.dwRoomId,
          SocketItem.dword (TeamGroup.dwDungeonMapIndex.getD junk),
          SocketItem.dword (TeamGroup.emDifficulty.getD junk),
          SocketItem.dword
            (UInt32.ofNat (listedFor wsAccountName TeamGroup).length)] ++
        (listedFor wsAccountName TeamGroup).flatMap memberItems := by
  by_cases hcaptain : wsAccountName ≠ TeamGroup.captain.account
  · simp [teamGroupReply, listedFor, hcaptain]
  · simp only [teamGroupReply, listedFor, if_neg hcaptain, pending_members]
    simp

end CEchoPacket

namespace CSocketAPI

variable (S : CLSocketBuffer)

theorem readMember_length (fresh : CrossAreaTeamMember) (n : Nat)
    (r : S.Buffer × List CrossAreaTeamMember) :
    ((readMember S fresh)^[n] r).2.length = r.2.length + n := by
  induction n generalizing r with
  | zero => rfl
  | succ n ih =>
      rw [Function.iterate_succ_apply, ih]
      simp only [readMember, List.length_append, List.length_singleton]
      omega

theorem getTeamGroupContent_of_pending (fresh : CrossAreaTeamMember)
    {b : S.Buffer} {bFind dwPlayerId dwRoomId dwDungeonMapIndex emDifficulty
      uCount : DWORD} {wsDungeonName wsPlayerName : WString}
    {rest : List SocketItem}
    (hb : S.pending b =
      [SocketItem.dword bFind, SocketItem.text wsDungeonName,
        SocketItem.text wsPlayerName, SocketItem.dword dwPlayerId,
        SocketItem.dword dwRoomId, SocketItem.dword dwDungeonMapIndex,
        SocketItem.dword emDifficulty, SocketItem.dword uCount] ++ rest)
    (hfind : bFind ≠ 0) (Teamgroup : CrossAreaTeamGroup) :
    (getTeamGroupContent S fresh b Teamgroup).1 =
        CrossAreaTeamResultType.succ ∧
      (getTeamGroupContent S fresh b Teamgroup).2.vecMember.length =
        Teamgroup.vecMember.length + uCount.toNat := by
  rcases S.getDword_of b _ _ hb with ⟨h1, hb1⟩
  rcases S.getText_of _ _ _ hb1 with ⟨_, hb2⟩
  rcases S.getText_of _ _ _ hb2 with ⟨_, hb3⟩
  rcases S.getDword_of _ _ _ hb3 with ⟨_, hb4⟩
  rcases S.getDword_of _ _ _ hb4 with ⟨_, hb5⟩
  rcases S.getDword_of _ _ _ hb5 with ⟨_, hb6⟩
  rcases S.getDword_of _ _ _ hb6 with ⟨_, hb7⟩
  rcases S.getDword_of _ _ _ hb7 with ⟨hcount, _⟩
  unfold getTeamGroupContent
  simp only [h1, if_neg hfind, hcount, readMember_length, and_self]

end CSocketAPI

namespace CCrossAreaTeamRoom

variable (T : MyTools) (S : CLSocketBuffer)

def teamReply (junk : DWORD) (ulNow : ULONGLONG) (GameClient : CGameClient)
    (dwTeamId : DWORD) (s : CCrossAreaTeam) : S.Buffer :=
  (CEchoPacket.joinCrossAreaTeam T S junk ulNow GameClient
    (CSocketAPI.requestTeamGroup S dwTeamId) s).1

def roomContent (junk dwId : DWORD) (fresh : CrossAreaTeamMember)
    (ulNow : ULONGLONG) (GameClient : CGameClient) (dwTeamId : DWORD)
    (s : CCrossAreaTeam) : CrossAreaTeamContent :=
  createTeam_In_Server dwId (CSocketAPI.getTeamGroupContent S fresh
    (teamReply T S junk ulNow GameClient dwTeamId s) (newGroup fresh)).2

theorem roomContent_length {junk dwId : DWORD} (fresh : CrossAreaTeamMember)
    {ulNow : ULONGLONG} {GameClient : CGameClient} {dwTeamId : DWORD}
    {s : CCrossAreaTeam} {g : CrossAreaTeamGroup}
    (hg : s.mapCrossAreaTeamGroup[dwTeamId]? = some g) (hid : dwTeamId ≠ 0) :
    (roomContent T S junk dwId fresh ulNow GameClient dwTeamId
        s).vecMember.length =
      (CEchoPacket.listedFor GameClient.wsAccountName g).length % 2 ^ 32 := by
  have hrequest : S.pending (CSocketAPI.requestTeamGroup S dwTeamId) =
      [SocketItem.dword dwTeamId] := by
    simp [CSocketAPI.requestTeamGroup]
  have hreply : teamReply T S junk ulNow GameClient dwTeamId s =
      CEchoPacket.teamGroupReply S junk GameClient.wsAccountName g
        (S.clear (S.getDword (CSocketAPI.requestTeamGroup S dwTeamId)).2) := by
    have hread := (S.getDword_of _ dwTeamId [] hrequest).left
    have hfound : CCrossAreaTeam.getTeamMemberContent dwTeamId s = some g := hg
    rw [teamReply, CEchoPacket.joinCrossAreaTeam]
    simp only [hread, if_pos hid, hfound]
  have hpending := CEchoPacket.pending_teamGroupReply S junk
    GameClient.wsAccountName g
    (S.clear (S.getDword (CSocketAPI.requestTeamGroup S dwTeamId)).2)
  rw [S.pending_clear, List.nil_append, ← hreply] at hpending
  have hfetched := CSocketAPI.getTeamGroupContent_of_pending S fresh hpending
    (by decide) (newGroup fresh)
  rw [roomContent, createTeam_In_Server, vecCrossAreaTeamToClientTeamMember]
  simp only [List.length_map]
  rw [hfetched.right, UInt32.toNat_ofNat']
  simp [newGroup]

/--
Whoever asks for its team gets a list shorter than the team, so the room is not
complete when all players are in it.
-/
theorem roomContent_length_ne (T : MyTools) (S : CLSocketBuffer)
    {dwTeamId : DWORD} {s : CCrossAreaTeam} {g : CrossAreaTeamGroup}
    (hg : s.mapCrossAreaTeamGroup[dwTeamId]? = some g) (hid : dwTeamId ≠ 0)
    (GameClient : CGameClient) (junk dwId : DWORD)
    (fresh : CrossAreaTeamMember) (ulNow : ULONGLONG) :
    (roomContent T S junk dwId fresh ulNow GameClient dwTeamId
        s).vecMember.length ≠ g.players.length ∧
      roomComplete g.players.length
        (roomContent T S junk dwId fresh ulNow GameClient dwTeamId s) =
          false := by
  have hlisted : (CEchoPacket.listedFor GameClient.wsAccountName g).length ≤
      g.vecMember.length := by
    unfold CEchoPacket.listedFor
    split
    · exact Nat.zero_le _
    · exact Nat.le_refl _
  have hplayers : g.players.length = g.vecMember.length + 1 := rfl
  have hmod := Nat.mod_le
    (CEchoPacket.listedFor GameClient.wsAccountName g).length (2 ^ 32)
  have hne : (roomContent T S junk dwId fresh ulNow GameClient dwTeamId
      s).vecMember.length ≠ g.players.length := by
    rw [roomContent_length T S fresh hg hid]
    omega
  exact ⟨hne, by simpa [roomComplete] using hne.symm⟩

def duoRoom (wsAccountName : WString) : CrossAreaTeamContent :=
  let fresh : CrossAreaTeamMember := { emClasses := 0 }
  roomContent MyTools.standard CLSocketBuffer.standard 0 0 fresh 40
    { wsAccountName := wsAccountName, crossAreaTeamMember := fresh } 1
    CCrossAreaTeam.duoState.state

/-- The second player of the team of two never sees its room complete. -/
theorem duoRoom_length_ne :
    exists g : CrossAreaTeamGroup,
      CCrossAreaTeam.duoState.state.mapCrossAreaTeamGroup[(1 : DWORD)]? =
          some g ∧
        (duoRoom (L "anna")).vecMember.length ≠ g.players.length := by
  have hsome : (CCrossAreaTeam.duoState.state.mapCrossAreaTeamGroup[
      (1 : DWORD)]?).isSome := by
    decide
  rcases Option.isSome_iff_exists.mp hsome with ⟨g, hg⟩
  exact ⟨g, hg, (roomContent_length_ne MyTools.standard CLSocketBuffer.standard
    hg (by decide) _ 0 0 _ 40).left⟩

/-- Two players are in the team; its captain waits for one, the other for none. -/
theorem duoRoom_sizes :
    CCrossAreaTeam.Reachable MyTools.standard CCrossAreaTeam.duoTable
        CCrossAreaTeam.duoState ∧
      (CCrossAreaTeam.duoState.state.mapCrossAreaTeamGroup[(1 : DWORD)]?).map
          CrossAreaTeamGroup.accounts = some [L "boris", L "anna"] ∧
      (duoRoom (L "boris")).vecMember.length = 1 ∧
      (duoRoom (L "anna")).vecMember.length = 0 ∧
      (duoRoom (L "boris")).vecMember.length ≠ 2 ∧
      (duoRoom (L "anna")).vecMember.length ≠ 2 :=
  ⟨CCrossAreaTeam.duoState_reachable, by decide, by decide, by decide, by decide,
    by decide⟩

end CCrossAreaTeamRoom
end BnsKorea
