import BnsKorea.Client.Responses
import BnsKorea.Server.DbManager

/-!
# Queries for cards

The answer to a query has a record for every card the server takes from it, one
field for an unknown card and four for one it knows or can activate.  The client
reads it along its own list.  As far as the server takes the list, the record at
a position is that of the card at the position.
-/

namespace BnsKorea

open Library SocketValue Server

namespace Server

namespace CEchoPacket

/-!
## What the server answers
-/

section

variable {O : Outside} {ulNow : ULONGLONG} {Account : ClientAccountContent}

def cardAnswer (ulNow : ULONGLONG) (Card : CardInfo) : CardAnswer where
  nMaxHour := Card.nMaxHour
  nSurplusHour := Card.getSurplusHour ulNow
  wsActiveTime := Card.wsActiveTime

def serverCard (O : Outside) (Account : ClientAccountContent)
    (cards : CCardExtend) (dwCardCrc : DWORD) : Option CardInfo :=
  (cards.findCard_By_CRC dwCardCrc).or (O.activeCard Account dwCardCrc)

def ActivatesOwn (O : Outside) (Account : ClientAccountContent) : Prop :=
  forall dwCardCrc Card, O.activeCard Account dwCardCrc = some Card ->
    Card.dwCardCrc = dwCardCrc

/-- The table during a query: cards of before, and activated ones beside them. -/
def During (O : Outside) (Account : ClientAccountContent)
    (cards cards' : CCardExtend) : Prop :=
  forall dwCardCrc,
    cards'.findCard_By_CRC dwCardCrc = cards.findCard_By_CRC dwCardCrc ∨
      cards'.findCard_By_CRC dwCardCrc = serverCard O Account cards dwCardCrc

theorem During.serverCard {cards cards' : CCardExtend}
    (h : During O Account cards cards') (dwCardCrc : DWORD) :
    serverCard O Account cards' dwCardCrc =
      serverCard O Account cards dwCardCrc := by
  rcases h dwCardCrc with hold | hnew
  · rw [CEchoPacket.serverCard, hold, CEchoPacket.serverCard]
  · rw [CEchoPacket.serverCard, hnew, CEchoPacket.serverCard, Option.or_assoc,
      Option.or_self]

theorem findCard_activated {cards : CCardExtend} {dwCrc : DWORD}
    (hown : ActivatesOwn O Account)
    (hunknown : cards.findCard_By_CRC dwCrc = none) (dwCardCrc : DWORD) :
    (cards.tryActiveCard (O.activeCard Account) dwCrc).1 =
        serverCard O Account cards dwCrc ∧
      (cards.tryActiveCard (O.activeCard Account) dwCrc).2.findCard_By_CRC
          dwCardCrc =
        if dwCrc = dwCardCrc then serverCard O Account cards dwCardCrc
        else cards.findCard_By_CRC dwCardCrc := by
  have hcard : serverCard O Account cards dwCrc = O.activeCard Account dwCrc := by
    rw [serverCard, hunknown]
    rfl
  unfold CCardExtend.tryActiveCard
  split
  · rename_i hactive
    refine ⟨hcard.symm ▸ hactive.symm, ?_⟩
    split
    · rename_i hsame
      rw [← hsame, hcard, hactive]
      exact hunknown
    · rfl
  · rename_i Card hactive
    refine ⟨hcard.symm ▸ hactive.symm, ?_⟩
    show (cards.mapCard.insertIfNew Card.dwCardCrc Card)[dwCardCrc]? = _
    rw [hown dwCrc Card hactive]
    split
    · rename_i hsame
      rw [← hsame, hcard, hactive]
      exact OrderedMaps.getElem?_insertIfNew_of_none Card hunknown
    · rename_i hother
      exact OrderedMaps.getElem?_insertIfNew_of_ne _ _ hother

variable (ulNow) in
theorem queryCardTurn_spec (hown : ActivatesOwn O Account) (itm : DWORD)
    (r : List (Option CardAnswer) × CCardExtend) :
    (queryCardTurn O ulNow Account r itm).1 =
        r.1 ++ [(serverCard O Account r.2 itm).map (cardAnswer ulNow)] ∧
      forall dwCardCrc,
        (queryCardTurn O ulNow Account r itm).2.findCard_By_CRC dwCardCrc =
          if itm = dwCardCrc then serverCard O Account r.2 dwCardCrc
          else r.2.findCard_By_CRC dwCardCrc := by
  unfold queryCardTurn
  cases hfind : r.2.findCard_By_CRC itm with
  | some Card =>
      refine ⟨?_, ?_⟩
      · rw [serverCard, hfind]
        rfl
      · intro dwCardCrc
        dsimp only
        split
        · rename_i hsame
          rw [← hsame, serverCard, hfind]
          rfl
        · rfl
  | none =>
      dsimp only
      refine ⟨?_, fun dwCardCrc => (findCard_activated hown hfind _).right⟩
      rw [(findCard_activated hown hfind itm).left]
      rfl

variable (ulNow) in
theorem queryCardTurn_during {cards : CCardExtend}
    (hown : ActivatesOwn O Account) (itm : DWORD)
    {r : List (Option CardAnswer) × CCardExtend}
    (h : During O Account cards r.2) :
    During O Account cards (queryCardTurn O ulNow Account r itm).2 := by
  intro dwCardCrc
  rw [(queryCardTurn_spec ulNow hown itm r).right]
  split
  · rw [h.serverCard]
    exact Or.inr rfl
  · exact h dwCardCrc

variable (ulNow) in
theorem queryCard_fold_spec {cards : CCardExtend}
    (hown : ActivatesOwn O Account) (VecCardCrc : List DWORD)
    {r : List (Option CardAnswer) × CCardExtend}
    (h : During O Account cards r.2) :
    let queried := VecCardCrc.foldl (queryCardTurn O ulNow Account) r
    queried.1 = r.1 ++ VecCardCrc.map (fun itm =>
        (serverCard O Account cards itm).map (cardAnswer ulNow)) ∧
      forall dwCardCrc, (dwCardCrc ∈ VecCardCrc ∨
          r.2.findCard_By_CRC dwCardCrc = serverCard O Account cards dwCardCrc) ->
        queried.2.findCard_By_CRC dwCardCrc =
          serverCard O Account cards dwCardCrc := by
  induction VecCardCrc generalizing r with
  | nil =>
      refine ⟨(List.append_nil _).symm, ?_⟩
      intro dwCardCrc hdone
      rcases hdone with hmem | hdone
      · cases hmem
      · exact hdone
  | cons itm VecCardCrc ih =>
      rcases queryCardTurn_spec ulNow hown itm r with
        ⟨hrecord, htable⟩
      rcases ih (queryCardTurn_during ulNow hown itm h) with
        ⟨hrecords, hcards⟩
      rw [List.foldl_cons]
      constructor
      · rw [hrecords, hrecord, h.serverCard, List.map_cons, List.append_assoc]
        rfl
      · intro dwCardCrc hdone
        apply hcards
        rw [htable, h.serverCard]
        by_cases hsame : itm = dwCardCrc
        · rw [if_pos hsame]
          exact Or.inr rfl
        · rw [if_neg hsame]
          rcases hdone with hmem | hdone
          · rcases List.mem_cons.mp hmem with heq | hmem
            · exact absurd heq.symm hsame
            · exact Or.inl hmem
          · exact Or.inr hdone

end

end CEchoPacket
end Server

namespace Client

open Server.CEchoPacket

namespace CSocketAPI

/-!
## What the client reads
-/

/-- The card after its record was read; an unknown one keeps its other fields. -/
def answeredCard (itm : CardInfo) : Option CardAnswer -> CardInfo
  | none => { itm with bExit := false }
  | some Card =>
      { itm with
        bExit := true
        nMaxHour := Card.nMaxHour
        nSurplusHour := Card.nSurplusHour
        wsActiveTime := Card.wsActiveTime }

/-- The callback of `QueryCard`: its loop is over the client's own list. -/
def readCards : List CardInfo -> Read (List CardInfo)
  | [] => pure []
  | itm :: VecCard => do
      let Card <- extractCard
      let VecRest <- readCards VecCard
      pure (answeredCard itm Card :: VecRest)

theorem reads_readCards (VecCard : List CardInfo)
    (answer : CardInfo -> Option CardAnswer) :
    Reader.Reads (readCards VecCard)
      ((VecCard.map answer).flatMap Answer.cardValues)
      (VecCard.map fun itm => answeredCard itm (answer itm)) := by
  induction VecCard with
  | nil => exact Reader.reads_pure []
  | cons itm VecCard ih =>
      exact (reads_extractCard (answer itm)).bind
        (ih.bind_pure (answeredCard itm (answer itm) :: ·))

/-- The element of the client's list is about the server's card. -/
structure AnswersFor (ulNow : ULONGLONG) (known : Option CardInfo)
    (asked answered : CardInfo) : Prop where
  asked : answered.dwCardCrc = asked.dwCardCrc
  missing : answered.bExit = false ↔ known = none
  fields : forall Card, known = some Card ->
    answered.nMaxHour = Card.nMaxHour ∧
      answered.nSurplusHour = Card.getSurplusHour ulNow ∧
      answered.wsActiveTime = Card.wsActiveTime

theorem answeredCard_answersFor (ulNow : ULONGLONG) (known : Option CardInfo)
    (itm : CardInfo) :
    AnswersFor ulNow known itm
      (answeredCard itm (known.map (cardAnswer ulNow))) := by
  cases known with
  | none => exact ⟨rfl, iff_of_true rfl rfl, nofun⟩
  | some Card =>
      refine ⟨rfl, iff_of_false nofun nofun, ?_⟩
      intro Card' heq
      rw [← Option.some.inj heq]
      exact ⟨rfl, rfl, rfl⟩

/-!
## Position by position
-/

/--
The answer has a record for each of the first 101 cards, and the server has the
cards it answered for in its table afterwards.
-/
theorem queryCard_reply (P : Platform) (O : Outside) (ulNow : ULONGLONG)
    (GameClient : Server.CGameClient) (s : Services) {VecCard : List CardInfo}
    (hown : ActivatesOwn O GameClient.account) (hfits : VecCard.length < 2 ^ 32) :
    exists (content : Content) (rest : List SocketValue),
      extractQueryCard.run (Call.queryCard VecCard).values =
        some (content, rest) ∧
      let handled := handle P O ulNow content rest GameClient s
      handled.1 = .answer (some SockMsg.queryCardInfo)
        (.cards ((VecCard.take 101).map fun itm =>
          (serverCard O GameClient.account s.cards itm.dwCardCrc).map
            (cardAnswer ulNow))) ∧
      forall asked, asked ∈ VecCard.take 101 ->
        handled.2.2.cards.findCard_By_CRC asked.dwCardCrc =
          serverCard O GameClient.account s.cards asked.dwCardCrc := by
  rcases queryCard_takes hfits with ⟨taken, hvalues, hreads, _⟩
  have hduring : During O GameClient.account s.cards s.cards :=
    fun _ => Or.inl rfl
  rcases queryCard_fold_spec ulNow hown
    ((VecCard.map CardInfo.dwCardCrc).take 101)
    (r := (([], s.cards) : List (Option CardAnswer) × CCardExtend)) hduring with
    ⟨hrecords, hcards⟩
  have hcrcs : (VecCard.map CardInfo.dwCardCrc).take 101 =
      (VecCard.take 101).map CardInfo.dwCardCrc := List.map_take.symm
  rw [List.nil_append, hcrcs, List.map_map] at hrecords
  refine ⟨.queryCard ((VecCard.map CardInfo.dwCardCrc).take 101),
    (Call.queryCard VecCard).behind, ?_, ?_, ?_⟩
  · rw [hvalues]
    exact hreads _
  · show Reply.answer (some SockMsg.queryCardInfo) (.cards _) = _
    rw [hcrcs]
    exact congrArg (fun Vec => Reply.answer _ (.cards Vec)) hrecords
  · intro asked hasked
    apply hcards
    refine Or.inl ?_
    rw [hcrcs]
    exact List.mem_map_of_mem hasked

/--
The server takes the first 101 cards of the list at most and answers for these,
position by position: the flag is false exactly if it neither knows nor can
activate the card, and else the fields are those of its card of the CRC.
-/
theorem queryCard_answers_positions (P : Platform) (O : Outside)
    (DB : CBnsDbManager.Database) (ulNow : ULONGLONG)
    (GameClient : Server.CGameClient) (s : Services) {VecCard : List CardInfo}
    (hfits : VecCard.length < 2 ^ 32) :
    let O := { O with activeCard := CBnsDbManager.activeCard P ulNow DB }
    exists (content : Content) (rest : List SocketValue) (fields : Answer)
      (VecAfter : List CardInfo),
      extractQueryCard.run (Call.queryCard VecCard).values =
        some (content, rest) ∧
      let handled := handle P O ulNow content rest GameClient s
      handled.1 = .answer (some SockMsg.queryCardInfo) fields ∧
      (readCards (VecCard.take 101)).run fields.values = some (VecAfter, []) ∧
      VecAfter.length = min 101 VecCard.length ∧
      forall (i : Nat) (asked answered : CardInfo),
        (VecCard.take 101)[i]? = some asked -> VecAfter[i]? = some answered ->
        AnswersFor ulNow (serverCard O GameClient.account s.cards
            asked.dwCardCrc) asked answered ∧
          handled.2.2.cards.findCard_By_CRC asked.dwCardCrc =
            serverCard O GameClient.account s.cards asked.dwCardCrc := by
  intro O
  have hown : ActivatesOwn O GameClient.account :=
    fun dwCardCrc Card h => CBnsDbManager.activeCard_dwCardCrc h
  let known := fun itm : CardInfo =>
    serverCard O GameClient.account s.cards itm.dwCardCrc
  let answer := fun itm : CardInfo => (known itm).map (cardAnswer ulNow)
  rcases queryCard_reply P O ulNow GameClient s hown hfits with
    ⟨content, rest, hextract, hreply, hcards⟩
  refine ⟨content, rest, .cards ((VecCard.take 101).map answer),
    (VecCard.take 101).map fun itm => answeredCard itm (answer itm), hextract, hreply,
    (reads_readCards _ answer).run, ?_, ?_⟩
  · rw [List.length_map, List.length_take]
  · intro i asked answered hasked hanswered
    rw [List.getElem?_map, hasked, Option.map_some, Option.some.injEq]
      at hanswered
    rw [← hanswered]
    exact ⟨answeredCard_answersFor ulNow (known asked) asked,
      hcards asked (List.mem_of_getElem? hasked)⟩

def smallTable : CCardExtend :=
  CCardExtend.insertCard
    { dwCardCrc := 7
      nMaxHour := 720
      nSurplusHour := 5
      wsActiveTime := L "2016" } {}

def twoCards : List CardInfo :=
  [{ dwCardCrc := 7 }, { dwCardCrc := 8 }]

theorem twoCards_answers_positions :
    exists (content : Content) (rest : List SocketValue) (fields : Answer)
      (VecAfter : List CardInfo),
      extractQueryCard.run (Call.queryCard twoCards).values =
        some (content, rest) ∧
      (handle Platform.standard
          { activeCard := CBnsDbManager.activeCard Platform.standard 10 {} } 10
          content rest annaClient { noTeams with cards := smallTable }).1 =
        .answer (some SockMsg.queryCardInfo) fields ∧
      (readCards twoCards).run fields.values = some (VecAfter, []) ∧
      VecAfter.length = 2 := by
  rcases queryCard_answers_positions Platform.standard {} {} 10 annaClient
    { noTeams with cards := smallTable } (by decide : twoCards.length < 2 ^ 32)
    with ⟨content, rest, fields, VecAfter, hrun, hreply, hread, hlength, _⟩
  exact ⟨content, rest, fields, VecAfter, hrun, hreply, hread, hlength⟩

def crowdedQuery : List CardInfo :=
  List.replicate 102 { dwCardCrc := 7 }

/-- The server knows the card, but has no record for the last of the list. -/
theorem crowdedQuery_not_answered :
    exists (content : Content) (rest : List SocketValue),
      extractQueryCard.run (Call.queryCard crowdedQuery).values =
        some (content, rest) ∧
      (smallTable.findCard_By_CRC 7).isSome ∧
      (readCards crowdedQuery).run
          (handle Platform.standard {} 10 content rest annaClient
            { noTeams with cards := smallTable }).1.buffer.values = none := by
  rcases queryCard_takes (by decide +kernel : crowdedQuery.length < 2 ^ 32) with
    ⟨taken, hvalues, hreads, _⟩
  refine ⟨.queryCard ((crowdedQuery.map CardInfo.dwCardCrc).take 101),
    (Call.queryCard crowdedQuery).behind, ?_, by decide +kernel, ?_⟩
  · rw [hvalues]
    exact hreads _
  · show (readCards crowdedQuery).run (Server.CEchoPacket.queryCard {} 10
      ((crowdedQuery.map CardInfo.dwCardCrc).take 101) annaClient
      { noTeams with cards := smallTable }).1.buffer.values = none
    decide +kernel

end CSocketAPI
end Client
end BnsKorea
