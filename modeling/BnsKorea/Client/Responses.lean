import BnsKorea.Client.Requests

/-!
# Responses at the client

What the callback of a request takes out of the answer, and whether that is what
the handler put into it.  Five requests can be answered by something that their
callback does not take: an answer without a head is not recognised, the answer
to a sign of life is not looked at, of more cards than the handler takes the last
are not answered, and a team with number zero is not asked for but joined.
-/

namespace BnsKorea
namespace Client

open Library SocketValue Server
open Server.CEchoPacket Server.CGameServer

namespace CSocketAPI

/-!
## The callbacks
-/

/-- The flag is taken first; a card that is not there has nothing behind it. -/
def extractCard : Read (Option CardAnswer) := do
  let bExit <- getDword
  if bExit ≠ 0 then
    let nMaxHour <- getDword
    let nSurplusHour <- getDword
    let wsActiveTime <- getText
    pure (some {
      nMaxHour := nMaxHour.toInt32
      nSurplusHour := nSurplusHour.toInt32
      wsActiveTime := wsActiveTime })
  else pure none

def extractScript : Read ScriptAnswer := do
  let wsScriptName <- getText
  let uExpressSize <- getDword
  let uCipherTextSize <- getDword
  let dwExpressCRC <- getDword
  let dwCiphertextCRC <- getDword
  let wsAccountName <- getText
  let pScriptContent <- getData
  pure {
    wsScriptName := wsScriptName
    uExpressSize := uExpressSize
    uCipherTextSize := uCipherTextSize
    dwExpressTextCrc := dwExpressCRC
    dwCipherTextCrc := dwCiphertextCRC
    wsAccountName := wsAccountName
    content := pScriptContent }

def extractMember : Read TeamMemberResult := do
  let wsPlayerName <- getText
  let dwPlayerId <- getDword
  pure { wsPlayerName := wsPlayerName, dwPlayerId := dwPlayerId }

def extractTeam : Read BnsTeamResult := do
  let wsPlayerName <- getText
  let dwPlayerId <- getDword
  let dwTeamId <- getDword
  let dwCount <- getDword
  let VecMember <- Reader.many extractMember dwCount.toNat
  pure {
    captain := { wsPlayerName := wsPlayerName, dwPlayerId := dwPlayerId }
    dwTeamId := dwTeamId
    vecTeamMember := VecMember }

def extractDeal : Read (Option (WString × DWORD)) := do
  let dwStatus <- getDword
  if dwStatus = 0 then pure none
  else
    let wsWareHouseName <- getText
    let dwChannel <- getDword
    pure (some (wsWareHouseName, dwChannel))

def extractWarehouseAction : Read Answer := do
  let emWarehouseType <- getDword
  let emIsPick <- getDword
  let wsPlayerName <- getText
  pure (.warehouse emWarehouseType emIsPick wsPlayerName)

def extractSchedule : Read BnsDungoenScheduleMember := do
  let wsAccountName <- getText
  let wsPlayerName <- getText
  let dwPlayerId <- getDword
  let wsScheduleName <- getText
  let uScheduleIndex <- getDword
  let dwTaskId <- getDword
  let dwScheduleId <- getDword
  pure {
    wsAccountName := wsAccountName
    wsPlayerName := wsPlayerName
    dwPlayerId := dwPlayerId
    wsDungoenSchedule := wsScheduleName
    uGatherIndex := uScheduleIndex
    dwTaskId := dwTaskId
    dwScheduleId := dwScheduleId }

def extractTeamGroup : Read Answer := do
  let bFind <- getDword
  if bFind = 0 then pure .unknownTeamGroup
  else
    let wsDungeonName <- getText
    let wsPlayerName <- getText
    let dwPlayerId <- getDword
    let dwRoomId <- getDword
    let dwDungeonMapIndex <- getDword
    let emDifficulty <- getDword
    let uCount <- getDword
    let VecMember <- Reader.many extractMember uCount.toNat
    pure (.teamGroup {
      wsDungeonName := wsDungeonName
      captain := { wsPlayerName := wsPlayerName, dwPlayerId := dwPlayerId }
      dwRoomId := dwRoomId
      dwDungeonMapIndex := dwDungeonMapIndex
      emDifficulty := emDifficulty
      vecMember := VecMember })

def extractSeriaNumber : Read SocketAccountVirtualSeriaNumber := do
  let wsAccountName <- getText
  let wsHardDiskSeriaNumber <- getText
  let wsMacAddr <- getText
  let wsNetCard <- getText
  pure {
    wsAccountName := wsAccountName
    wsHardDiskSeriaNumber := wsHardDiskSeriaNumber
    wsMacAddr := wsMacAddr
    wsNetCard := wsNetCard }

def extractList {α : Type} (extract : Read α) : Read (List α) := do
  let dwCount <- getDword
  Reader.many extract dwCount.toNat

/-- What is extracted from the answer; of most nothing is. -/
def Call.extract : Call -> Read (Option Answer)
  | queryCard VecCard =>
      (fun Vec => some (.cards Vec)) <$> Reader.many extractCard VecCard.length
  | getServerAnnouncement => (fun ws => some (.text ws)) <$> getText
  | downLoadScript _ => (fun Content => some (.script Content)) <$> extractScript
  | joinTeam _ _ => (fun Result => some (.team Result)) <$> extractTeam
  | clientTrade _ _ => (fun Deal => some (.itemSupport Deal)) <$> extractDeal
  | warehouseTrade _ _ => some <$> extractWarehouseAction
  | getGungoenSchedule _ =>
      (fun Vec => some (.teamSchedule Vec)) <$> extractList extractSchedule
  | getLessPlayerChannel _ => (fun v => some (.value v)) <$> getDword
  | readCloudConfig _ _ => (fun ws => some (.text ws)) <$> getText
  | calcualteOTP => (fun v => some (.value v)) <$> getDword
  | getDailyTaskSchedule =>
      (fun Vec => some (.texts Vec)) <$> extractList getText
  | joinCrossAreaTeam => (fun v => some (.value v)) <$> getDword
  | setCrossAreaTeamContent _ =>
      (fun bSetSucc => if bSetSucc then some .contentSet else none) <$> getBool
  | getTeamGroupContent _ => some <$> extractTeamGroup
  | queryAccountVirtualSeriaNumber _ =>
      (fun Vec => some (.seriaNumbers Vec)) <$> extractList extractSeriaNumber
  | _ => pure none

/-!
## What the callbacks take
-/

theorem reads_extractCard (itm : Option CardAnswer) :
    Reader.Reads extractCard (Answer.cardValues itm) itm := by
  cases itm with
  | none => exact getDword_bind (Reader.reads_pure none)
  | some Card =>
      apply getDword_bind
      apply getDword_bind
      apply getDword_bind
      apply getText_bind
      exact Reader.reads_pure (some Card)

theorem reads_extractScript (Content : ScriptAnswer) :
    Reader.Reads extractScript (Answer.script Content).values Content := by
  apply getText_bind
  apply getDword_bind
  apply getDword_bind
  apply getDword_bind
  apply getDword_bind
  apply getText_bind
  apply getData_bind
  exact Reader.reads_pure Content

theorem reads_extractMember (itm : TeamMemberResult) :
    Reader.Reads extractMember (Answer.memberValues itm) itm :=
  getText_bind (getDword_bind (Reader.reads_pure itm))

theorem reads_extractTeam {Result : BnsTeamResult}
    (hsize : (Answer.team Result).SizesFit) :
    Reader.Reads extractTeam (Answer.team Result).values Result := by
  have hmembers := reads_counted_all hsize fun itm _ => reads_extractMember itm
  apply getText_bind
  apply getDword_bind
  apply getDword_bind
  apply getDword_bind
  exact hmembers.bind_pure _

theorem reads_extractDeal (Deal : Option (WString × DWORD)) :
    Reader.Reads extractDeal (Answer.itemSupport Deal).values Deal := by
  cases Deal with
  | none => exact getDword_bind (Reader.reads_pure none)
  | some Deal =>
      apply getDword_bind
      apply getText_bind
      apply getDword_bind
      exact Reader.reads_pure (some Deal)

theorem reads_extractWarehouseAction (emWarehouseType emIsPick : DWORD)
    (wsPlayerName : WString) :
    Reader.Reads extractWarehouseAction
      (Answer.warehouse emWarehouseType emIsPick wsPlayerName).values
      (.warehouse emWarehouseType emIsPick wsPlayerName) :=
  getDword_bind (getDword_bind (getText_bind (Reader.reads_pure _)))

theorem reads_extractSchedule (itm : BnsDungoenScheduleMember) :
    Reader.Reads extractSchedule (Answer.scheduleValues itm) itm := by
  apply getText_bind
  apply getText_bind
  apply getDword_bind
  apply getText_bind
  apply getDword_bind
  apply getDword_bind
  apply getDword_bind
  exact Reader.reads_pure itm

theorem reads_extractSeriaNumber (itm : SocketAccountVirtualSeriaNumber) :
    Reader.Reads extractSeriaNumber (Answer.seriaNumberValues itm) itm := by
  apply getText_bind
  apply getText_bind
  apply getText_bind
  apply getText_bind
  exact Reader.reads_pure itm

theorem reads_extractList {α : Type} {extract : Read α}
    {write : α -> List SocketValue} {as : List α} (hsize : as.length < 2 ^ 32)
    (h : forall a, Reader.Reads extract (write a) a) :
    Reader.Reads (extractList extract) (size as :: as.flatMap write) as :=
  getDword_bind (reads_counted_all hsize fun a _ => h a)

theorem reads_unknownTeamGroup :
    Reader.Reads extractTeamGroup Answer.unknownTeamGroup.values
      .unknownTeamGroup :=
  getDword_bind (Reader.reads_pure _)

theorem extractTeamGroup_yields :
    Reader.Yields extractTeamGroup fun fields =>
      forall dwValue, fields ≠ .value dwValue := by
  apply Reader.yields_bind
  intro bFind
  split
  · exact Reader.yields_pure fun _ h => nomatch h
  · exact Reader.yields_bind fun _ => Reader.yields_bind fun _ =>
      Reader.yields_bind fun _ => Reader.yields_bind fun _ =>
        Reader.yields_bind fun _ => Reader.yields_bind fun _ =>
          Reader.yields_bind fun _ => Reader.yields_bind fun _ =>
            Reader.yields_pure fun _ h => nomatch h

/-!
## Whether an answer is understood
-/

/--
An answer that is not an error has the head of the request, and its fields are
extracted with nothing left.
-/
def Call.Understands (call : Call) : Reply -> Prop
  | .unwritten rest => rest = [] ∧ call.extract.run [] = some (none, [])
  | .error _ => True
  | .answer head fields =>
      head = some call.head ∧
        call.extract.run fields.values = some (some fields, [])

/--
The handler takes the content out of the request.  The poll for a team of
several areas has no number in it, and the handler's number stays zero.
-/
def Call.TakenAs (call : Call) (content : Content) (rest : List SocketValue) :
    Prop :=
  exists read, vecEchoPacketPtr.lookup call.head = some read ∧
    (read.run call.values = some (content, rest) ∨
      call = .joinCrossAreaTeam ∧ content = .joinCrossAreaTeam 0 ∧ rest = [])

def Call.IsUnderstood (s : Services) : Call -> Prop
  | queryCard VecCard => VecCard.length ≤ 101
  | keepALive _ => False
  | setCrossAreaTeamContent _ => False
  | getTeamGroupContent dwTeamId =>
      dwTeamId ≠ 0 ∧
        CCrossAreaTeam.getTeamMemberContent dwTeamId s.crossAreaTeam = none
  | _ => True

theorem understands_of_reads {call : Call} {fields : Answer}
    (h : Reader.Reads call.extract fields.values (some fields)) :
    call.Understands (.answer (some call.head) fields) :=
  ⟨rfl, h.run⟩

theorem understands_of_map {α : Type} {call : Call} {extract : Read α}
    (fields : α -> Answer) {a : α}
    (hextract : call.extract = (fun a => some (fields a)) <$> extract)
    (h : Reader.Reads extract (fields a).values a) :
    call.Understands (.answer (some call.head) (fields a)) := by
  apply understands_of_reads
  rw [hextract]
  exact h.map fun a => some (fields a)

theorem Call.takenAs {call : Call} (hserved : call.IsServed)
    (hfits : call.SizesFit) (hshort : call.IsShort) :
    call.TakenAs call.content [] := by
  rcases Call.taken hserved hfits with ⟨read, hlookup, values, hvalues, hreads,
    hwhole⟩
  rcases hwhole hshort with ⟨hcapped, hrest⟩
  refine ⟨read, hlookup, Or.inl ?_⟩
  rw [hcapped] at hreads
  rw [hvalues, hrest, List.append_nil]
  exact hreads.run

theorem Call.TakenAs.content {call : Call} {content : Content}
    {rest : List SocketValue} (h : call.TakenAs content rest)
    (hfits : call.SizesFit) :
    content = capped call.content ∧ (call.IsShort -> rest = []) := by
  rcases h with ⟨read, hlookup, hrun | ⟨hcall, hcontent, hrest⟩⟩
  · have hserved : call.IsServed := by
      cases call with
      | joinTeam emType pClientTeamInfo =>
          cases emType with
          | mainLine => trivial
          | gungoen => cases hlookup
      | leaveTeam emType =>
          cases emType with
          | mainLine => trivial
          | gungoen => cases hlookup
      | joinCrossAreaTeam =>
          have hread : extractJoinCrossAreaTeam = read := Option.some.inj hlookup
          rw [← hread] at hrun
          cases hrun
      | _ => trivial
    rcases Call.taken hserved hfits with ⟨taker, htaker, values, hvalues, hreads,
      hshort⟩
    have hsame : taker = read := Option.some.inj (htaker.symm.trans hlookup)
    rw [hvalues, ← hsame, hreads] at hrun
    cases hrun
    exact ⟨rfl, fun h => (hshort h).right⟩
  · rw [hcall, hcontent]
    exact ⟨rfl, fun _ => hrest⟩

section

variable {P : Platform} {O : Outside} {ulNow : ULONGLONG}
  {GameClient : Server.CGameClient} {s : Services}

theorem queryCard_fold_length (Account : ClientAccountContent)
    (VecCardCrc : List DWORD) (r : List (Option CardAnswer) × CCardExtend) :
    (VecCardCrc.foldl (queryCardTurn O ulNow Account) r).1.length =
      r.1.length + VecCardCrc.length := by
  induction VecCardCrc generalizing r with
  | nil => rfl
  | cons itm VecCardCrc ih =>
      rw [List.foldl_cons, ih, queryCardTurn, List.length_append,
        List.length_singleton, List.length_cons]
      omega

theorem queryCard_understands_iff {VecCard : List CardInfo} :
    (Call.queryCard VecCard).Understands
        (Server.CEchoPacket.queryCard O ulNow
          ((VecCard.map CardInfo.dwCardCrc).take 101) GameClient s).1 ↔
      VecCard.length ≤ 101 := by
  let queried := ((VecCard.map CardInfo.dwCardCrc).take 101).foldl
    (queryCardTurn O ulNow GameClient.account) ([], s.cards)
  have hlength : queried.1.length = min 101 VecCard.length := by
    rw [queryCard_fold_length, List.length_take, List.length_map]
    exact Nat.zero_add _
  have hreads : forall itm, itm ∈ queried.1 ->
      Reader.Reads extractCard (Answer.cardValues itm) itm :=
    fun itm _ => reads_extractCard itm
  show (Call.queryCard VecCard).Understands
    (.answer (some SockMsg.queryCardInfo) (.cards queried.1)) ↔ _
  constructor
  · intro h
    apply Nat.le_of_not_lt
    intro hmany
    have hend : extractCard.run [] = none := rfl
    have hless : queried.1.length < VecCard.length := by
      rw [hlength]
      omega
    have hrun := h.right
    rw [Call.extract, StateT.run_map, Answer.values,
      Reader.many_past_end hreads hend hless] at hrun
    cases hrun
  · intro h
    have hcards := Reader.Reads.many hreads
    rw [hlength, Nat.min_eq_right h] at hcards
    exact understands_of_map Answer.cards rfl hcards

theorem keepALive_not_understands {pContent : Option KeepALiveContent} :
    ¬ (Call.keepALive pContent).Understands
        (Server.CEchoPacket.keepALive ulNow GameClient s).1 := by
  intro h
  cases h.right

theorem setCrossAreaTeamContent_not_understands {Member : CrossAreaTeamMember}
    {rest : List SocketValue} :
    ¬ (Call.setCrossAreaTeamContent Member).Understands
        (handle P O ulNow (Call.setCrossAreaTeamContent Member).content rest
          GameClient s).1 := by
  intro h
  cases h.left

theorem getTeamGroupContent_understands_iff {dwTeamId : DWORD} :
    (Call.getTeamGroupContent dwTeamId).Understands
        (Server.CEchoPacket.joinCrossAreaTeam P O ulNow dwTeamId GameClient s).1 ↔
      dwTeamId ≠ 0 ∧
        CCrossAreaTeam.getTeamMemberContent dwTeamId s.crossAreaTeam = none := by
  unfold joinCrossAreaTeam
  split
  · rename_i hid
    split
    · rename_i hfind
      constructor
      · exact fun _ => ⟨hid, hfind⟩
      · exact fun _ => understands_of_reads (reads_unknownTeamGroup.map some)
    · rename_i TeamGroup hfind
      constructor
      · intro h
        cases h.left
      · intro h
        rw [hfind] at h
        cases h.right
  · rename_i hid
    constructor
    · intro h
      have hextract := h.right
      rw [Call.extract, StateT.run_map] at hextract
      rcases Option.map_eq_some_iff.mp hextract with ⟨taken, hrun, htaken⟩
      exact False.elim (extractTeamGroup_yields _ taken.1 taken.2 hrun _
        (Option.some.inj (congrArg Prod.fst htaken)))
    · exact fun h => False.elim (hid h.left)

theorem downLoadScript_understands {wsScriptName : WString} :
    (Call.downLoadScript wsScriptName).Understands
      (Server.CEchoPacket.downloadScript P O wsScriptName GameClient s).1 := by
  unfold downloadScript
  dsimp only
  split
  · trivial
  · exact understands_of_map Answer.script rfl (reads_extractScript _)

theorem alreadyLogin_understands {fVersion : UInt32}
    {wsAccountName wsAccountPass wsCardNo : WString} :
    (Call.alreadyLogin fVersion wsAccountName wsAccountPass wsCardNo).Understands
      (Server.CEchoPacket.gameLogin P O ulNow fVersion wsAccountName wsAccountPass
        wsCardNo GameClient s).1 := by
  unfold gameLogin
  dsimp only
  split
  · trivial
  · exact ⟨rfl, rfl⟩

theorem calcualteOTP_understands :
    Call.calcualteOTP.Understands
      (Server.CEchoPacket.calculateOTP P O GameClient s).1 := by
  unfold calculateOTP
  split
  · trivial
  · exact understands_of_map Answer.value rfl (reads_getDword _)

theorem itemSupportAnswer_understands {emType : TradeWarehouseType}
    {Content : VerItemSupport} {head : SockMsg} {Result : ItemSupportResult}
    {reply : Reply} (hhead : (Call.clientTrade emType Content).head = head)
    (hreply : reply = .answer (some head) (itemSupportAnswer Result)) :
    (Call.clientTrade emType Content).Understands reply := by
  rw [hreply, ← hhead, itemSupportAnswer]
  split
  · exact understands_of_map Answer.itemSupport rfl (reads_extractDeal none)
  · exact understands_of_map Answer.itemSupport rfl (reads_extractDeal (some _))

/--
The answer is understood exactly if the request is none of those whose answer is
not looked at or has no head, and asks for cards or teams the handler answers.
-/
theorem Call.understands_iff {call : Call} {content : Content}
    {rest : List SocketValue} (htaken : call.TakenAs content rest)
    (hfits : call.SizesFit)
    (hsizes : forall head fields,
      (handle P O ulNow content rest GameClient s).1 = .answer head fields ->
        fields.SizesFit) :
    call.Understands (handle P O ulNow content rest GameClient s).1 ↔
      call.IsUnderstood s := by
  have hlookup : (vecEchoPacketPtr.lookup call.head).isSome := by
    rcases htaken with ⟨read, hlookup, _⟩
    rw [hlookup]
    rfl
  rcases htaken.content hfits with ⟨hcontent, hrest⟩
  rw [hcontent] at hsizes ⊢
  cases call with
  | queryCard VecCard => exact queryCard_understands_iff
  | keepALive pContent =>
      exact iff_false_intro keepALive_not_understands
  | setCrossAreaTeamContent Member =>
      exact iff_false_intro setCrossAreaTeamContent_not_understands
  | getTeamGroupContent dwTeamId => exact getTeamGroupContent_understands_iff
  | downLoadScript wsScriptName =>
      apply iff_true_intro
      exact downLoadScript_understands
  | alreadyLogin fVersion wsAccountName wsAccountPass wsCardNo =>
      apply iff_true_intro
      exact alreadyLogin_understands
  | joinTeam emType pClientTeamInfo =>
      apply iff_true_intro
      cases emType with
      | mainLine =>
          cases pClientTeamInfo with
          | none =>
              exact understands_of_map Answer.team rfl
                (reads_extractTeam (hsizes _ _ rfl))
          | some Cti =>
              exact understands_of_map Answer.team rfl
                (reads_extractTeam (hsizes _ _ rfl))
      | gungoen => cases hlookup
  | leaveTeam emType =>
      apply iff_true_intro
      cases emType with
      | mainLine => exact ⟨rfl, rfl⟩
      | gungoen => cases hlookup
  | clientTrade emType Content =>
      apply iff_true_intro
      cases emType with
      | itemSupport => exact itemSupportAnswer_understands rfl rfl
      | pickItem => exact itemSupportAnswer_understands rfl rfl
  | warehouseTrade emType Content =>
      apply iff_true_intro
      cases emType with
      | itemSupport =>
          exact understands_of_reads
            ((reads_extractWarehouseAction _ _ _).map some)
      | pickItem =>
          exact understands_of_reads
            ((reads_extractWarehouseAction _ _ _).map some)
  | getGungoenSchedule dwTeamId =>
      apply iff_true_intro
      exact understands_of_map Answer.teamSchedule rfl
        (reads_extractList (hsizes _ _ rfl) reads_extractSchedule)
  | getDailyTaskSchedule =>
      apply iff_true_intro
      have hsize : (Answer.texts (O.queryDailyTaskSchedule
          GameClient.account)).SizesFit := hsizes _ _ rfl
      have htexts := reads_extractList hsize reads_getText
      rw [← text_flatMap] at htexts
      exact understands_of_map Answer.texts rfl htexts
  | queryAccountVirtualSeriaNumber VecAccount =>
      apply iff_true_intro
      exact understands_of_map Answer.seriaNumbers rfl
        (reads_extractList (hsizes _ _ rfl) reads_extractSeriaNumber)
  | getServerAnnouncement =>
      apply iff_true_intro
      exact understands_of_map Answer.text rfl (reads_getText _)
  | getLessPlayerChannel Content =>
      apply iff_true_intro
      exact understands_of_map Answer.value rfl (reads_getDword _)
  | readCloudConfig wsPlayerName Content =>
      apply iff_true_intro
      exact understands_of_map Answer.text rfl (reads_getText _)
  | calcualteOTP =>
      apply iff_true_intro
      exact calcualteOTP_understands
  | joinCrossAreaTeam =>
      apply iff_true_intro
      exact understands_of_map Answer.value rfl (reads_getDword _)
  | leaveCrossAreaTeam dwTeamId =>
      apply iff_true_intro
      exact ⟨hrest trivial, rfl⟩
  | _ =>
      exact iff_true_intro ⟨rfl, rfl⟩

end

/-!
## A member enters

Anna sets her content, and then asks for a team that is not there.
-/

def annaMember : CrossAreaTeamMember where
  info := { wsPlayerName := L "Anna", dwPlayerId := 1 }
  emClasses := TeamMeberClasses.gunner

def annaClient : Server.CGameClient where
  account := { wsAccountName := L "anna" }
  crossAreaTeamMember := annaMember

def noTeams : Services where
  cards := {}
  crossAreaTeam := { mapDungeonClasses := ∅ }

/-- What the server leaves to her first request has no head. -/
theorem annaMember_not_understood :
    (Call.setCrossAreaTeamContent annaMember).TakenAs
        (Call.setCrossAreaTeamContent annaMember).content [] ∧
      (handle Platform.standard {} 10
          (Call.setCrossAreaTeamContent annaMember).content [] annaClient
          noTeams).1.buffer = { values := [bool true] } ∧
      ¬ (Call.setCrossAreaTeamContent annaMember).Understands
          (handle Platform.standard {} 10
            (Call.setCrossAreaTeamContent annaMember).content [] annaClient
            noTeams).1 := by
  have hfits : (Call.setCrossAreaTeamContent annaMember).SizesFit := by
    show (∅ : Std.TreeSet WString).toList.length < 2 ^ 32
    rw [Std.TreeSet.length_toList, Std.TreeSet.size_emptyc]
    decide
  exact ⟨Call.takenAs trivial hfits trivial, rfl,
    setCrossAreaTeamContent_not_understands⟩

theorem annaAsks_understands_iff :
    (Call.getTeamGroupContent 7).Understands
        (handle Platform.standard {} 20 (.joinCrossAreaTeam 7) [] annaClient
          noTeams).1 ↔
      (Call.getTeamGroupContent 7).IsUnderstood noTeams :=
  Call.understands_iff ⟨_, rfl, Or.inl rfl⟩ (by decide : 0 < 2 ^ 32) (by
    intro head fields h
    have hreply : (handle Platform.standard {} 20 (.joinCrossAreaTeam 7) []
        annaClient noTeams).1 =
          .answer (some SockMsg.crossAreaTeam) .unknownTeamGroup := rfl
    rw [hreply] at h
    cases h
    trivial)

end CSocketAPI
end Client
end BnsKorea
