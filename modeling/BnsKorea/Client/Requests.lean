import BnsKorea.Client.SocketAPI
import BnsKorea.Server.GameServer

/-!
# Requests at the server

The server's table has a handler for the head of a request, and the handler
takes the fields in the order the client puts them in.  Of a counted list it
takes a fixed number at most.  Three requests are left out: the two about
dungeon teams have heads that nobody is registered for, and the poll for a team
of several areas does not put in the number that its handler takes.
-/

namespace BnsKorea
namespace Client

open Library SocketValue Server
open Server.CEchoPacket Server.CGameServer

namespace CSocketAPI

/-!
## What is asked for
-/

def sentMember (itm : ClientTeamMember) : ClientTeamMember where
  wsPlayerName := itm.wsPlayerName
  dwPlayerId := itm.dwPlayerId

def sentTeam (pClientTeamInfo : ClientTeamInfo) : ClientTeamInfo :=
  { pClientTeamInfo with
    selfCti := { dwPlayerId := pClientTeamInfo.selfCti.dwPlayerId }
    vTeamMember := pClientTeamInfo.vTeamMember.map sentMember }

def Call.content : Call -> Content
  | consoleKeepALive => .consoleKeepALive
  | queryCard VecCard => .queryCard (VecCard.map CardInfo.dwCardCrc)
  | getServerAnnouncement => .announcement
  | keepALive pContent => .keepALive pContent
  | downLoadScript wsScriptName => .downloadScript wsScriptName
  | alreadyLogin fVersion wsAccountName wsAccountPass wsCardNo =>
      .gameLogin fVersion wsAccountName wsAccountPass wsCardNo
  | joinTeam .mainLine pClientTeamInfo =>
      .joinTeam_MainLine (pClientTeamInfo.map sentTeam)
  | joinTeam .gungoen pClientTeamInfo =>
      .joinTeam_Gungoen (pClientTeamInfo.map sentTeam)
  | leaveTeam .mainLine => .leaveTeam_MainLine
  | leaveTeam .gungoen => .leaveTeam_Gungoen
  | clientTrade .itemSupport Content =>
      .itemSupport_GameAccount Content.dwServerId Content.dwChannel
        Content.vWareHouse
  | clientTrade .pickItem Content =>
      .pickItem_GameAccount Content.dwServerId Content.dwChannel
        Content.vWareHouse
  | warehouseTrade .itemSupport Content =>
      .itemSupport_Warehouse Content.wsWareHouseName Content.dwChannel
        Content.dwServerId
  | warehouseTrade .pickItem Content =>
      .pickItem_Warehouse Content.wsWareHouseName Content.dwChannel
        Content.dwServerId
  | setGungoenSchedule dwTeamId wsScheduleName uScheduleIndex =>
      .setGungoenSchedule dwTeamId wsScheduleName uScheduleIndex
  | getGungoenSchedule dwTeamId => .getGungoenSchedule dwTeamId
  | setTeamReadonly dwTeamId => .setTeamReadonly dwTeamId
  | addTradeContentLog Content => .saveTradeData Content
  | addLoginContentLog wsPlayerName => .saveLoginData wsPlayerName
  | addBannedContentLog => .banned
  | addAccountLog Content => .saveAccountLogData Content
  | getLessPlayerChannel Content => .getLessPersonChannel Content
  | readCloudConfig wsPlayerName Content =>
      .getCouldConfigValue wsPlayerName Content.wsConfigName
  | writeCloudConfig Content => .setCouldConfigValue Content
  | calcualteOTP => .calculateOTP
  | getDailyTaskSchedule => .getDailyTaskSchedule
  | setDailyTaskSchedule wsDailyTaskName => .setDailyTaskSchedule wsDailyTaskName
  | joinCrossAreaTeam => .joinCrossAreaTeam 0
  | setCrossAreaTeamContent Member =>
      .setCrossAreaTeamContent Member.info.dwPlayerId Member.dwRoomId
        Member.wsGroupTitle Member.emClasses Member.setDungoenName.toList
  | getTeamGroupContent dwTeamId => .joinCrossAreaTeam dwTeamId
  | leaveCrossAreaTeam dwTeamId => .leaveCrossAreaTeam dwTeamId
  | queryAccountVirtualSeriaNumber VecAccount =>
      .queryAccountVirtualSeriaNumber VecAccount

def Call.count : Call -> Nat
  | queryCard VecCard => VecCard.length
  | joinTeam _ (some pClientTeamInfo) => pClientTeamInfo.vTeamMember.length
  | clientTrade _ Content => Content.vWareHouse.length
  | addTradeContentLog Content => Content.vecTradeItem.length
  | setCrossAreaTeamContent Member => Member.setDungoenName.toList.length
  | queryAccountVirtualSeriaNumber VecAccount => VecAccount.length
  | _ => 0

/-- Vectors are counted with 32 bits. -/
def Call.SizesFit (call : Call) : Prop :=
  call.count < 2 ^ 32

/-- The handler takes the fields of the call, and nothing is left. -/
def Decodes (call : Call) : Prop :=
  exists read, vecEchoPacketPtr.lookup call.head = some read ∧
    read.run call.values = some (call.content, [])

/-!
## What is taken
-/

def capped : Content -> Content
  | .queryCard VecCardCrc => .queryCard (VecCardCrc.take 101)
  | .joinTeam_MainLine (some Cti) =>
      .joinTeam_MainLine
        (some { Cti with vTeamMember := Cti.vTeamMember.take 10 })
  | .itemSupport_GameAccount dwServerId dwChannel vWareHouse =>
      .itemSupport_GameAccount dwServerId dwChannel (vWareHouse.take 20)
  | .pickItem_GameAccount dwServerId dwChannel vWareHouse =>
      .pickItem_GameAccount dwServerId dwChannel (vWareHouse.take 20)
  | .saveTradeData Content =>
      .saveTradeData
        { Content with vecTradeItem := Content.vecTradeItem.take 100 }
  | .queryAccountVirtualSeriaNumber VecAccount =>
      .queryAccountVirtualSeriaNumber (VecAccount.take 100)
  | content => content

/-- The list of the call is not longer than the handler takes it. -/
def Call.IsShort : Call -> Prop
  | queryCard VecCard => VecCard.length ≤ 101
  | joinTeam _ (some pClientTeamInfo) => pClientTeamInfo.vTeamMember.length ≤ 10
  | clientTrade _ Content => Content.vWareHouse.length ≤ 20
  | addTradeContentLog Content => Content.vecTradeItem.length ≤ 100
  | queryAccountVirtualSeriaNumber VecAccount => VecAccount.length ≤ 100
  | _ => True

def Call.behind : Call -> List SocketValue
  | queryCard VecCard =>
      (VecCard.drop 101).map fun itm => dword itm.dwCardCrc
  | joinTeam _ (some pClientTeamInfo) =>
      (pClientTeamInfo.vTeamMember.drop 10).flatMap memberValues
  | clientTrade _ Content => (Content.vWareHouse.drop 20).map text
  | addTradeContentLog Content =>
      (Content.vecTradeItem.drop 100).flatMap itemValues
  | queryAccountVirtualSeriaNumber VecAccount => (VecAccount.drop 100).map text
  | _ => []

/-- The requests that have a handler which takes what they put in. -/
def Call.IsServed : Call -> Prop
  | joinTeam .gungoen _ => False
  | leaveTeam .gungoen => False
  | joinCrossAreaTeam => False
  | _ => True

/--
The reader takes the capped content from the front of the values and leaves what
is behind the bound; of a short list it takes all.
-/
def Takes (read : Read Content) (call : Call) : Prop :=
  exists taken, call.values = taken ++ call.behind ∧
    Reader.Reads read taken (capped call.content) ∧
    (call.IsShort -> capped call.content = call.content ∧ call.behind = [])

theorem takes_of_reads {read : Read Content} {call : Call}
    (h : Reader.Reads read call.values call.content)
    (hcapped : capped call.content = call.content) (hbehind : call.behind = []) :
    Takes read call := by
  refine ⟨call.values, ?_, ?_, fun _ => ⟨hcapped, hbehind⟩⟩
  · rw [hbehind, List.append_nil]
  · rwa [hcapped]

theorem takes_of_list {α : Type} {read : Read Content} {call : Call}
    (front : List SocketValue) (as : List α) (write : α -> List SocketValue)
    (n : Nat) (hvalues : call.values = front ++ as.flatMap write)
    (hbehind : call.behind = (as.drop n).flatMap write)
    (hreads : Reader.Reads read (front ++ (as.take n).flatMap write)
      (capped call.content))
    (hshort : call.IsShort -> as.length ≤ n)
    (hcapped : as.take n = as -> capped call.content = call.content) :
    Takes read call := by
  refine ⟨_, ?_, hreads, ?_⟩
  · rw [hvalues, hbehind, List.append_assoc, ← List.flatMap_append,
      List.take_append_drop]
  · intro h
    refine ⟨hcapped (List.take_of_length_le (hshort h)), ?_⟩
    rw [hbehind, List.drop_of_length_le (hshort h), List.flatMap_nil]

/-!
### Requests with a list
-/

theorem queryCard_takes {VecCard : List CardInfo}
    (hfits : VecCard.length < 2 ^ 32) :
    Takes extractQueryCard (.queryCard VecCard) := by
  let VecCardCrc := VecCard.map CardInfo.dwCardCrc
  have hlength : VecCardCrc.length = VecCard.length := List.length_map _
  apply takes_of_list [size VecCardCrc] VecCardCrc (fun itm => [dword itm]) 101
  · show size VecCard :: VecCard.map (fun itm => dword itm.dwCardCrc) = _
    rw [List.map_eq_flatMap, List.flatMap_map, size, size, hlength]
    rfl
  · show (VecCard.drop 101).map _ = _
    rw [List.map_eq_flatMap, ← List.map_drop, List.flatMap_map]
  · have hsize : VecCardCrc.length < 2 ^ 32 := hlength ▸ hfits
    have hcards := reads_counted hsize (fun itm _ => reads_getDword itm) 101
    exact (getDword_bind hcards).map Content.queryCard
  · intro h
    rwa [hlength]
  · intro h
    exact congrArg Content.queryCard h

theorem reads_extractTeamMember (itm : ClientTeamMember) :
    Reader.Reads extractTeamMember (memberValues (sentMember itm))
      (sentMember itm) :=
  getText_bind (getDword_bind (Reader.reads_pure (sentMember itm)))

theorem joinTeam_takes {pClientTeamInfo : Option ClientTeamInfo}
    (hfits : (Call.joinTeam .mainLine pClientTeamInfo).SizesFit) :
    Takes extractJoinTeam_MainLine (.joinTeam .mainLine pClientTeamInfo) := by
  cases pClientTeamInfo with
  | none =>
      apply takes_of_reads _ rfl rfl
      exact (getBool_bind (Reader.reads_pure none)).map Content.joinTeam_MainLine
  | some Cti =>
      let vTeamMember := Cti.vTeamMember.map sentMember
      have hlength : vTeamMember.length = Cti.vTeamMember.length :=
        List.length_map _
      have hsize : vTeamMember.length < 2 ^ 32 := hlength ▸ hfits
      apply takes_of_list
        [bool true, dword Cti.dwServerId, dword Cti.dwTaskId,
          dword Cti.dwScheduleId, dword Cti.dwChannelId, dword Cti.dwMaxMember,
          dword Cti.selfCti.dwPlayerId, text Cti.wsGroupTitle, size vTeamMember]
        vTeamMember memberValues 10
      · have hmembers : Cti.vTeamMember.flatMap memberValues =
            vTeamMember.flatMap memberValues := by
          rw [List.flatMap_map]
          rfl
        show joinTeamValues (some Cti) = _
        rw [joinTeamValues, hmembers, size, size, hlength]
        rfl
      · show (Cti.vTeamMember.drop 10).flatMap memberValues = _
        rw [← List.map_drop, List.flatMap_map]
        rfl
      · have hmember : forall itm, itm ∈ vTeamMember ->
            Reader.Reads extractTeamMember (memberValues itm) itm := by
          intro itm hitm
          rcases List.mem_map.mp hitm with ⟨sent, _, hsent⟩
          rw [← hsent]
          exact reads_extractTeamMember sent
        have hmembers := reads_counted hsize hmember 10
        apply Reader.Reads.map
        apply getBool_bind
        apply Reader.Reads.map
        apply getDword_bind
        apply getDword_bind
        apply getDword_bind
        apply getDword_bind
        apply getDword_bind
        apply getDword_bind
        apply getText_bind
        apply getDword_bind
        exact hmembers.bind_pure _
      · intro h
        rwa [hlength]
      · intro h
        show Content.joinTeam_MainLine
          (some { sentTeam Cti with vTeamMember := vTeamMember.take 10 }) = _
        rw [h]
        rfl

theorem text_flatMap (Vec : List WString) :
    Vec.map text = Vec.flatMap fun itm => [text itm] :=
  List.map_eq_flatMap

theorem clientTrade_takes {emType : TradeWarehouseType} {Content : VerItemSupport}
    {content : DWORD -> DWORD -> List WString -> Server.CEchoPacket.Content}
    (hfits : Content.vWareHouse.length < 2 ^ 32)
    (hcontent : (Call.clientTrade emType Content).content =
      content Content.dwServerId Content.dwChannel Content.vWareHouse)
    (hcapped : forall a b c, capped (content a b c) = content a b (c.take 20)) :
    Takes (extractClientTradePacket content) (.clientTrade emType Content) := by
  apply takes_of_list
    [dword Content.dwServerId, dword Content.dwChannel, size Content.vWareHouse]
    Content.vWareHouse (fun itm => [text itm]) 20
  · show dword Content.dwServerId :: dword Content.dwChannel ::
      size Content.vWareHouse :: Content.vWareHouse.map text = _
    rw [text_flatMap]
    rfl
  · exact text_flatMap (Content.vWareHouse.drop 20)
  · rw [hcontent, hcapped]
    have htexts := reads_counted hfits (fun itm _ => reads_getText itm) 20
    apply getDword_bind
    apply getDword_bind
    apply getDword_bind
    exact htexts.bind_pure _
  · exact fun h => h
  · intro h
    rw [hcontent, hcapped, h]

theorem reads_extractTradeItem (itm : TradeItem) :
    Reader.Reads extractTradeItem (itemValues itm) itm :=
  getText_bind (getDword_bind (Reader.reads_pure itm))

theorem addTradeContentLog_takes {Content : TradeContent}
    (hfits : Content.vecTradeItem.length < 2 ^ 32) :
    Takes extractSaveTradeData (.addTradeContentLog Content) := by
  apply takes_of_list
    [text Content.wsWareHouseName, dword Content.dwTradeMoney,
      size Content.vecTradeItem]
    Content.vecTradeItem itemValues 100
  · rfl
  · rfl
  · have hitems :=
      reads_counted hfits (fun itm _ => reads_extractTradeItem itm) 100
    apply Reader.Reads.map
    apply getText_bind
    apply getDword_bind
    apply getDword_bind
    exact hitems.bind_pure _
  · exact fun h => h
  · intro h
    show Server.CEchoPacket.Content.saveTradeData
      { Content with vecTradeItem := Content.vecTradeItem.take 100 } = _
    rw [h]
    rfl

theorem queryAccountVirtualSeriaNumber_takes {VecAccount : List WString}
    (hfits : VecAccount.length < 2 ^ 32) :
    Takes extractQueryAccountVirtualSeriaNumber
      (.queryAccountVirtualSeriaNumber VecAccount) := by
  apply takes_of_list [size VecAccount] VecAccount (fun itm => [text itm]) 100
  · show size VecAccount :: VecAccount.map text = _
    rw [text_flatMap]
    rfl
  · exact text_flatMap (VecAccount.drop 100)
  · have haccounts := reads_counted hfits (fun itm _ => reads_getText itm) 100
    exact (getDword_bind haccounts).map Content.queryAccountVirtualSeriaNumber
  · exact fun h => h
  · intro h
    exact congrArg Content.queryAccountVirtualSeriaNumber h

theorem setCrossAreaTeamContent_takes {Member : CrossAreaTeamMember}
    (hfits : Member.setDungoenName.toList.length < 2 ^ 32) :
    Takes extractSetCrossAreaTeamContent (.setCrossAreaTeamContent Member) := by
  apply takes_of_reads _ rfl rfl
  rw [Call.values, text_flatMap]
  have hnames := reads_counted_all hfits fun itm _ => reads_getText itm
  apply getDword_bind
  apply getDword_bind
  apply getText_bind
  apply getByte_bind
  apply getDword_bind
  exact hnames.bind_pure _

/-!
### Requests without one
-/

theorem keepALive_takes (pContent : Option KeepALiveContent) :
    Takes extractKeepALive (.keepALive pContent) := by
  apply takes_of_reads _ rfl rfl
  apply Reader.Reads.map
  cases pContent with
  | none => exact getDword_bind (Reader.reads_pure none)
  | some pContent =>
      apply getDword_bind
      apply getByte_bind
      apply getDword_bind
      apply getDword_bind
      apply getDword_bind
      apply getText_bind
      exact Reader.reads_pure (some pContent)

theorem alreadyLogin_takes (fVersion : UInt32)
    (wsAccountName wsAccountPass wsCardNo : WString) :
    Takes extractGameLogin
      (.alreadyLogin fVersion wsAccountName wsAccountPass wsCardNo) := by
  apply takes_of_reads _ rfl rfl
  apply getFloat_bind
  apply getText_bind
  apply getText_bind
  apply getText_bind
  exact Reader.reads_pure _

theorem getLessPlayerChannel_takes (Content : TeamChannelMsg) :
    Takes extractGetLessPersonChannel (.getLessPlayerChannel Content) := by
  apply takes_of_reads _ rfl rfl
  apply Reader.Reads.map
  apply getDword_bind
  apply getDword_bind
  apply getDword_bind
  apply getDword_bind
  apply getDword_bind
  exact Reader.reads_pure Content

theorem setGungoenSchedule_takes (dwTeamId : DWORD) (wsScheduleName : WString)
    (uScheduleIndex : DWORD) :
    Takes extractSetGungoenSchedule
      (.setGungoenSchedule dwTeamId wsScheduleName uScheduleIndex) :=
  takes_of_reads
    (getDword_bind (getText_bind (getDword_bind (Reader.reads_pure _)))) rfl rfl

theorem warehouseTrade_takes {emType : TradeWarehouseType}
    {Content : WareHouseInfo}
    {content : WString -> DWORD -> DWORD -> Server.CEchoPacket.Content}
    (hcontent : (Call.warehouseTrade emType Content).content =
      content Content.wsWareHouseName Content.dwChannel Content.dwServerId)
    (hcapped : capped (Call.warehouseTrade emType Content).content =
      (Call.warehouseTrade emType Content).content) :
    Takes (extractWarehouse content) (.warehouseTrade emType Content) := by
  apply takes_of_reads _ hcapped rfl
  rw [hcontent]
  apply getText_bind
  apply getDword_bind
  apply getDword_bind
  exact Reader.reads_pure _

theorem addAccountLog_takes (Content : ClientAccountLog) :
    Takes extractSaveAccountLogData (.addAccountLog Content) := by
  apply takes_of_reads _ rfl rfl
  apply Reader.Reads.map
  apply getDword_bind
  apply getText_bind
  exact Reader.reads_pure Content

theorem readCloudConfig_takes (wsPlayerName : WString) (Content : ConfigContent) :
    Takes extractGetCouldConfigValue (.readCloudConfig wsPlayerName Content) := by
  apply takes_of_reads _ rfl rfl
  apply getText_bind
  apply getText_bind
  exact Reader.reads_pure _

theorem writeCloudConfig_takes (Content : ConfigContent) :
    Takes extractSetCouldConfigValue (.writeCloudConfig Content) := by
  apply takes_of_reads _ rfl rfl
  apply Reader.Reads.map
  apply getText_bind
  apply getText_bind
  exact Reader.reads_pure Content

/-!
## Requests are taken by their handlers
-/

theorem Call.taken {call : Call} (hserved : call.IsServed)
    (hfits : call.SizesFit) :
    exists read, vecEchoPacketPtr.lookup call.head = some read ∧
      Takes read call := by
  cases call with
  | consoleKeepALive =>
      exact ⟨_, rfl, takes_of_reads (Reader.reads_pure _) rfl rfl⟩
  | queryCard VecCard => exact ⟨_, rfl, queryCard_takes hfits⟩
  | getServerAnnouncement =>
      exact ⟨_, rfl, takes_of_reads (Reader.reads_pure _) rfl rfl⟩
  | keepALive pContent => exact ⟨_, rfl, keepALive_takes pContent⟩
  | downLoadScript wsScriptName =>
      exact ⟨_, rfl, takes_of_reads ((reads_getText wsScriptName).map _) rfl rfl⟩
  | alreadyLogin fVersion wsAccountName wsAccountPass wsCardNo =>
      exact ⟨_, rfl,
        alreadyLogin_takes fVersion wsAccountName wsAccountPass wsCardNo⟩
  | joinTeam emType pClientTeamInfo =>
      cases emType with
      | mainLine => exact ⟨_, rfl, joinTeam_takes hfits⟩
      | gungoen => exact False.elim hserved
  | leaveTeam emType =>
      cases emType with
      | mainLine => exact ⟨_, rfl, takes_of_reads (Reader.reads_pure _) rfl rfl⟩
      | gungoen => exact False.elim hserved
  | clientTrade emType Content =>
      cases emType with
      | itemSupport =>
          exact ⟨_, rfl, clientTrade_takes hfits rfl fun _ _ _ => rfl⟩
      | pickItem =>
          exact ⟨_, rfl, clientTrade_takes hfits rfl fun _ _ _ => rfl⟩
  | warehouseTrade emType Content =>
      cases emType with
      | itemSupport => exact ⟨_, rfl, warehouseTrade_takes rfl rfl⟩
      | pickItem => exact ⟨_, rfl, warehouseTrade_takes rfl rfl⟩
  | setGungoenSchedule dwTeamId wsScheduleName uScheduleIndex =>
      exact ⟨_, rfl,
        setGungoenSchedule_takes dwTeamId wsScheduleName uScheduleIndex⟩
  | getGungoenSchedule dwTeamId =>
      exact ⟨_, rfl, takes_of_reads ((reads_getDword dwTeamId).map _) rfl rfl⟩
  | setTeamReadonly dwTeamId =>
      exact ⟨_, rfl, takes_of_reads ((reads_getDword dwTeamId).map _) rfl rfl⟩
  | addTradeContentLog Content => exact ⟨_, rfl, addTradeContentLog_takes hfits⟩
  | addLoginContentLog wsPlayerName =>
      exact ⟨_, rfl, takes_of_reads ((reads_getText wsPlayerName).map _) rfl rfl⟩
  | addBannedContentLog =>
      exact ⟨_, rfl, takes_of_reads (Reader.reads_pure _) rfl rfl⟩
  | addAccountLog Content => exact ⟨_, rfl, addAccountLog_takes Content⟩
  | getLessPlayerChannel Content =>
      exact ⟨_, rfl, getLessPlayerChannel_takes Content⟩
  | readCloudConfig wsPlayerName Content =>
      exact ⟨_, rfl, readCloudConfig_takes wsPlayerName Content⟩
  | writeCloudConfig Content => exact ⟨_, rfl, writeCloudConfig_takes Content⟩
  | calcualteOTP => exact ⟨_, rfl, takes_of_reads (Reader.reads_pure _) rfl rfl⟩
  | getDailyTaskSchedule =>
      exact ⟨_, rfl, takes_of_reads (Reader.reads_pure _) rfl rfl⟩
  | setDailyTaskSchedule wsDailyTaskName =>
      exact ⟨_, rfl, takes_of_reads ((reads_getText wsDailyTaskName).map _) rfl rfl⟩
  | joinCrossAreaTeam => exact False.elim hserved
  | setCrossAreaTeamContent Member =>
      exact ⟨_, rfl, setCrossAreaTeamContent_takes hfits⟩
  | getTeamGroupContent dwTeamId =>
      exact ⟨_, rfl, takes_of_reads ((reads_getDword dwTeamId).map _) rfl rfl⟩
  | leaveCrossAreaTeam dwTeamId =>
      exact ⟨_, rfl, takes_of_reads ((reads_getDword dwTeamId).map _) rfl rfl⟩
  | queryAccountVirtualSeriaNumber VecAccount =>
      exact ⟨_, rfl, queryAccountVirtualSeriaNumber_takes hfits⟩

/--
A request is decoded as it was encoded, but for what its list has behind the
handler's bound, which is left in the buffer; a short list is decoded whole and
nothing is left.
-/
theorem Call.decodes_capped {call : Call} (hserved : call.IsServed)
    (hfits : call.SizesFit) :
    exists id read, call.packet.head = some id ∧
      vecEchoPacketPtr.lookup id = some read ∧
      read.run call.packet.values = some (capped call.content, call.behind) ∧
      (call.IsShort -> capped call.content = call.content ∧ call.behind = []) := by
  rcases taken hserved hfits with ⟨read, hlookup, values, hvalues, hreads, hshort⟩
  refine ⟨call.head, read, rfl, hlookup, ?_, hshort⟩
  show read.run call.values = _
  rw [hvalues]
  exact hreads call.behind

theorem Decodes.capped_content {call : Call} (h : Decodes call)
    (hserved : call.IsServed) (hfits : call.SizesFit) :
    capped call.content = call.content := by
  rcases h with ⟨read, hlookup, hrun⟩
  rcases Call.taken hserved hfits with ⟨taker, htaker, values, hvalues, hreads, _⟩
  have hsame : taker = read := Option.some.inj (htaker.symm.trans hlookup)
  rw [hvalues, ← hsame, hreads] at hrun
  exact congrArg Prod.fst (Option.some.inj hrun)

def crowdedTeam : ClientTeamInfo where
  vTeamMember := List.replicate 11 { wsPlayerName := L "Anna" }

theorem crowdedTeam_sizesFit :
    (Call.joinTeam .mainLine (some crowdedTeam)).SizesFit := by
  show (List.replicate 11 _).length < 2 ^ 32
  rw [List.length_replicate]
  decide

theorem crowdedTeam_decodes_capped :
    exists id read,
      (Call.joinTeam .mainLine (some crowdedTeam)).packet.head = some id ∧
      vecEchoPacketPtr.lookup id = some read ∧
      read.run (Call.joinTeam .mainLine (some crowdedTeam)).packet.values =
        some (capped (Call.joinTeam .mainLine (some crowdedTeam)).content,
          [text (L "Anna"), dword 0]) ∧
      ((Call.joinTeam .mainLine (some crowdedTeam)).IsShort ->
        capped (Call.joinTeam .mainLine (some crowdedTeam)).content =
            (Call.joinTeam .mainLine (some crowdedTeam)).content ∧
          (Call.joinTeam .mainLine (some crowdedTeam)).behind = []) :=
  Call.decodes_capped trivial crowdedTeam_sizesFit

/-- The eleventh member is not taken. -/
theorem crowdedTeam_not_decodes :
    ¬ Decodes (.joinTeam .mainLine (some crowdedTeam)) := by
  intro h
  have hcapped := h.capped_content trivial crowdedTeam_sizesFit
  injection hcapped with hteam
  injection hteam with hteam
  have hmembers := congrArg ClientTeamInfo.vTeamMember hteam
  have hlength := congrArg List.length hmembers
  revert hlength
  decide

end CSocketAPI
end Client
end BnsKorea
