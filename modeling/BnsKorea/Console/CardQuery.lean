import BnsKorea.Client.CardQueries
import BnsKorea.Console.AccountMgr

/-!
# The card table behind the console

The console clears the card table of the DLL, adds its cards one by one and has
them asked for.  The answer is read into the table itself, and what is not there
or has no time left is taken out of it.
-/

namespace BnsKorea
namespace Console

open Library
open Server (CCardExtend Services)
open Server.CEchoPacket (serverCard cardAnswer ActivatesOwn extractQueryCard handle)
open Client Client.CSocketAPI

/-- The tools of the console with the one that removes cards. -/
structure CardTableTools extends ConsoleTools where
  /-- `Vec_erase_if`: the elements that pass the test are taken out. -/
  vecEraseIf : {α : Type} -> List α -> (α -> Bool) -> List α
  vecEraseIf_eq : forall {α : Type} (Vec : List α) (fn : α -> Bool),
    vecEraseIf Vec fn = Vec.filter fun x => !fn x

def CardTableTools.standard : CardTableTools where
  toConsoleTools := ConsoleTools.standard
  vecEraseIf Vec fn := Vec.filter fun x => !fn x
  vecEraseIf_eq _ _ := rfl

structure Backend where
  P : Server.Platform := Server.Platform.standard
  O : Server.Outside := {}
  DB : Server.CBnsDbManager.Database := {}
  ulNow : ULONGLONG
  GameClient : Server.CGameClient
  s : Services

namespace Backend

variable (B : Backend)

def outside : Server.Outside :=
  { B.O with activeCard := Server.CBnsDbManager.activeCard B.P B.ulNow B.DB }

def reply (VecCard : List CardInfo) : List SocketValue :=
  match extractQueryCard.run (Call.queryCard VecCard).values with
  | none => []
  | some (content, rest) =>
      (handle B.P B.outside B.ulNow content rest B.GameClient B.s).1.buffer.values

def known (wsCardNo : WString) : Option CardInfo :=
  serverCard B.outside B.GameClient.account B.s.cards
    (B.P.getCRC32_DWORD (cStr wsCardNo))

def valid (wsCardNo : WString) : Option CardInfo :=
  (B.known wsCardNo).filter fun Card => decide (0 < Card.getSurplusHour B.ulNow)

end Backend

/-!
## The calls
-/

/--
The callback of `QueryCard` on the table.  Where there is no record to be read, the
cards behind stay as they are.
-/
def readInto : List CardInfo -> List SocketValue -> List CardInfo
  | [], _ => []
  | itm :: VecCard, values =>
      match extractCard.run values with
      | none => itm :: VecCard
      | some (Card, rest) => answeredCard itm Card :: readInto VecCard rest

section

variable (T : CardTableTools) (B : Backend)

def newCardInfo (pwszCardNo : WString) : CardInfo :=
  { wsCardNo := cStr pwszCardNo
    dwCardCrc := B.P.getCRC32_DWORD (cStr pwszCardNo) }

def queryCardInfo (pwszCardNo : WString) (nIsStart : INT) (VecCard : List CardInfo) :
    INT × List CardInfo :=
  if nIsStart = 0 then
    match existCard T.toConsoleTools (cStr pwszCardNo) id VecCard with
    | some VecCard => (1, VecCard)
    | none => (1, VecCard ++ [newCardInfo B pwszCardNo])
  else if nIsStart = 1 then
    let VecCard := readInto VecCard (B.reply VecCard)
    let VecCard := T.vecEraseIf VecCard fun itm => itm.nSurplusHour ≤ 0 || !itm.bExit
    (1, VecCard.map releaseCard)
  else if nIsStart = 2 then (0, T.vecEraseIf VecCard fun _ => true)
  else (0, VecCard)

/-- The card of the number, which `GetCardInfo` looks for. -/
def findCard (pwszCardNo : WString) (VecCard : List CardInfo) : Option CardInfo :=
  (T.vecFindIf VecCard fun CardInfo_ => CardInfo_.wsCardNo = cStr pwszCardNo).map
    Place.here

def queriedCards (nos : List WString) (VecCard : List CardInfo) :
    INT × List CardInfo :=
  let VecCard := (queryCardInfo T B [] 2 VecCard).2
  let VecCard :=
    nos.foldl (fun VecCard no => (queryCardInfo T B no 0 VecCard).2) VecCard
  queryCardInfo T B [] 1 VecCard

end

/-!
## What the calls do
-/

section

variable {B : Backend}

theorem readInto_answers (answer : CardInfo -> Option Server.CardAnswer) (k : Nat)
    (VecCard : List CardInfo) :
    readInto VecCard (((VecCard.take k).map answer).flatMap Server.Answer.cardValues) =
      (VecCard.take k).map (fun itm => answeredCard itm (answer itm)) ++
        VecCard.drop k := by
  induction VecCard generalizing k with
  | nil => simp [readInto]
  | cons itm VecCard ih =>
      cases k with
      | zero => rfl
      | succ k =>
          have hread : extractCard.run (Server.Answer.cardValues (answer itm) ++
              ((VecCard.take k).map answer).flatMap Server.Answer.cardValues) =
                some (answer itm, _) := reads_extractCard (answer itm) _
          rw [List.take_succ_cons, List.map_cons, List.flatMap_cons, readInto, hread]
          dsimp only
          rw [ih k]
          rfl

theorem reply_eq {VecCard : List CardInfo} (hfits : VecCard.length < 2 ^ 32) :
    B.reply VecCard =
      ((VecCard.take 101).map fun itm =>
        (serverCard B.outside B.GameClient.account B.s.cards itm.dwCardCrc).map
          (cardAnswer B.ulNow)).flatMap Server.Answer.cardValues := by
  have hown : ActivatesOwn B.outside B.GameClient.account :=
    fun dwCardCrc Card h => Server.CBnsDbManager.activeCard_dwCardCrc h
  rcases queryCard_reply B.P B.outside B.ulNow B.GameClient B.s hown hfits with
    ⟨content, rest, hextract, hreply, _⟩
  rw [Backend.reply, hextract]
  dsimp only
  rw [hreply]
  rfl

variable {T : CardTableTools}

theorem findCard_eq (pwszCardNo : WString) (VecCard : List CardInfo) :
    findCard T pwszCardNo VecCard =
      VecCard.find? fun CardInfo_ => CardInfo_.wsCardNo = cStr pwszCardNo := by
  rw [findCard, T.vecFindIf_eq, map_here_firstPlace]

theorem cStr_of_not_mem {text : WString} (h : 0 ∉ text) : cStr text = text := by
  apply List.takeWhile_eq_self_iff.mpr
  intro c hc
  exact decide_eq_true fun hzero => h (hzero ▸ hc)

theorem zero_not_mem_cStr (text : WString) : 0 ∉ cStr text := by
  intro h
  have hne := List.mem_takeWhile_imp (p := fun c : UInt16 => decide (c ≠ 0)) h
  exact absurd hne (by decide)

theorem add_cards (nos : List WString) {VecCard : List CardInfo}
    (hzero : forall no, no ∈ nos -> 0 ∉ no) (hnodup : nos.Nodup)
    (hnew : forall no, no ∈ nos -> no ∉ VecCard.map CardInfo.wsCardNo) :
    nos.foldl (fun VecCard no => (queryCardInfo T B no 0 VecCard).2) VecCard =
      VecCard ++ nos.map (newCardInfo B) := by
  induction nos generalizing VecCard with
  | nil => exact (List.append_nil VecCard).symm
  | cons no nos ih =>
      have hno : cStr no = no := cStr_of_not_mem (hzero no List.mem_cons_self)
      have hnone : existCard T.toConsoleTools (cStr no) id VecCard = none := by
        rw [existCard, T.vecFindIf_eq, firstPlace_eq_none.mpr, Option.map_none]
        intro Card hCard
        apply decide_eq_false
        rw [hno]
        exact fun heq => hnew no List.mem_cons_self
          (heq ▸ List.mem_map_of_mem hCard)
      have hadd : (queryCardInfo T B no 0 VecCard).2 =
          VecCard ++ [newCardInfo B no] := by
        rw [queryCardInfo, if_pos rfl, hnone]
      rcases List.nodup_cons.mp hnodup with ⟨hfirst, hnodup⟩
      rw [List.foldl_cons, hadd, ih (fun no' h => hzero no' (List.mem_cons_of_mem no h))
        hnodup, List.map_cons, List.append_assoc, List.singleton_append]
      intro no' hno' hmem
      rw [List.map_append, List.mem_append, List.map_singleton, List.mem_singleton]
        at hmem
      rcases hmem with hmem | hmem
      · exact hnew no' (List.mem_cons_of_mem no hno') hmem
      · rw [hmem, newCardInfo, hno] at hno'
        exact hfirst hno'

/-!
## The table after the query
-/

def Backend.listed (B : Backend) (no : WString) (Card : CardInfo) : CardInfo :=
  { newCardInfo B no with
    nMaxHour := Card.nMaxHour
    nSurplusHour := Card.getSurplusHour B.ulNow
    wsActiveTime := Card.wsActiveTime }

theorem Backend.valid_eq {no : WString} {Card : CardInfo}
    (h : B.known no = some Card) :
    B.valid no = if 0 < Card.getSurplusHour B.ulNow then some Card else none := by
  simp only [Backend.valid, h, Option.filter_some, decide_eq_true_eq]

def answeredTable (B : Backend) (nos : List WString) : List CardInfo :=
  (nos.take 101).map (fun no =>
      answeredCard (newCardInfo B no) ((B.known no).map (cardAnswer B.ulNow))) ++
    (nos.drop 101).map (newCardInfo B)

theorem queriedCards_eq {nos : List WString} (hfits : nos.length < 2 ^ 32)
    (hzero : forall no, no ∈ nos -> 0 ∉ no) (hnodup : nos.Nodup)
    (VecCard : List CardInfo) :
    queriedCards T B nos VecCard =
      (1, ((answeredTable B nos).filter fun itm =>
        decide (0 < itm.nSurplusHour) && itm.bExit).map releaseCard) := by
  have hclear : (queryCardInfo T B [] 2 VecCard).2 = [] := by
    show T.vecEraseIf VecCard (fun _ => true) = []
    rw [T.vecEraseIf_eq, List.filter_eq_nil_iff]
    exact fun _ _ => Bool.false_ne_true
  have hadded : nos.foldl (fun VecCard no => (queryCardInfo T B no 0 VecCard).2) [] =
      [] ++ nos.map (newCardInfo B) :=
    add_cards nos hzero hnodup fun _ _ => List.not_mem_nil
  have hlength : (nos.map (newCardInfo B)).length < 2 ^ 32 := by
    rw [List.length_map]
    exact hfits
  have hread : readInto (nos.map (newCardInfo B)) (B.reply (nos.map (newCardInfo B))) =
      answeredTable B nos := by
    rw [reply_eq hlength, readInto_answers, answeredTable, List.map_take, List.map_map,
      List.map_drop, List.map_take]
    rfl
  have hkept : forall itm : CardInfo,
      (!(decide (itm.nSurplusHour ≤ 0) || !itm.bExit)) =
        (decide (0 < itm.nSurplusHour) && itm.bExit) := by
    intro itm
    simp only [Bool.not_or, Bool.not_not, ← decide_not, Int32.not_le]
  rw [queriedCards, hclear, hadded, List.nil_append]
  show (1, (T.vecEraseIf (readInto _ _) _).map releaseCard) = _
  rw [hread, T.vecEraseIf_eq]
  simp only [hkept]

theorem find?_of_nodup {α κ : Type} [DecidableEq κ] {key : α -> κ} (test : α -> Bool)
    {xs : List α} {x : α} (hnodup : (xs.map key).Nodup) (hx : x ∈ xs) :
    (xs.filter test).find? (fun y => key y = key x) =
      if test x then some x else none := by
  induction xs with
  | nil => cases hx
  | cons y xs ih =>
      rw [List.map_cons, List.nodup_cons] at hnodup
      rcases List.mem_cons.mp hx with hxy | hx
      · have hothers : (xs.filter test).find? (fun z => key z = key x) = none := by
          rw [List.find?_eq_none]
          intro z hz heq
          rw [← hxy, ← of_decide_eq_true heq] at hnodup
          exact hnodup.left (List.mem_map_of_mem (List.mem_of_mem_filter hz))
        rw [← hxy, List.filter_cons]
        split
        · rw [List.find?_cons]
          simp only [decide_true]
        · exact hothers
      · have hne : key y ≠ key x :=
          fun heq => hnodup.left (heq ▸ List.mem_map_of_mem hx)
        rw [List.filter_cons]
        split
        · rw [List.find?_cons_of_neg (by simpa using hne)]
          exact ih hnodup.right hx
        · exact ih hnodup.right hx

theorem wsCardNo_answeredTable {nos : List WString}
    (hzero : forall no, no ∈ nos -> 0 ∉ no) :
    (answeredTable B nos).map CardInfo.wsCardNo = nos := by
  have hanswered : forall itm answer,
      (answeredCard itm answer).wsCardNo = itm.wsCardNo := by
    intro itm answer
    cases answer with
    | none => rfl
    | some Card => rfl
  have hall : forall no, no ∈ nos -> cStr no = no :=
    fun no hno => cStr_of_not_mem (hzero no hno)
  rw [answeredTable, List.map_append, List.map_map, List.map_map]
  conv => rhs; rw [← List.take_append_drop 101 nos, ← List.map_id (nos.take 101),
    ← List.map_id (nos.drop 101)]
  congr 1
  · apply List.map_congr_left
    intro no hno
    rw [Function.comp_apply, hanswered]
    exact hall no (List.mem_of_mem_take hno)
  · apply List.map_congr_left
    intro no hno
    exact hall no (List.mem_of_mem_drop hno)

variable (B) in
theorem getElem?_answeredTable {nos : List WString} {i : Nat} {no : WString}
    (hno : nos[i]? = some no) :
    (answeredTable B nos)[i]? =
      some (if i < 101 then
        answeredCard (newCardInfo B no) ((B.known no).map (cardAnswer B.ulNow))
      else newCardInfo B no) := by
  have hi : i < nos.length := (List.getElem?_eq_some_iff.mp hno).1
  rw [answeredTable]
  split
  · rename_i htaken
    have hfront : i < (nos.take 101).length := by
      rw [List.length_take]
      exact Nat.lt_min.mpr ⟨htaken, hi⟩
    rw [List.getElem?_append_left (by rwa [List.length_map]), List.getElem?_map,
      List.getElem?_take_of_lt htaken, hno, Option.map_some]
  · rename_i hleft
    have hge : 101 ≤ i := Nat.le_of_not_lt hleft
    have hlength : (nos.take 101).length = 101 :=
      List.length_take_of_le (hge.trans (Nat.le_of_lt hi))
    rw [List.getElem?_append_right (by rwa [List.length_map, hlength]), List.length_map,
      hlength, List.getElem?_map, List.getElem?_drop, Nat.add_sub_cancel' hge, hno,
      Option.map_some]

theorem findCard_queried {nos : List WString} (hfits : nos.length < 2 ^ 32)
    (hzero : forall no, no ∈ nos -> 0 ∉ no) (hnodup : nos.Nodup)
    (VecCard : List CardInfo) {i : Nat} {no : WString} (hno : nos[i]? = some no) :
    findCard T no (queriedCards T B nos VecCard).2 =
      if i < 101 then (B.valid no).map (B.listed no) else none := by
  have helement := getElem?_answeredTable B hno
  have hkey : cStr no = no := cStr_of_not_mem (hzero no (List.mem_of_getElem? hno))
  have hnodup' : ((answeredTable B nos).map CardInfo.wsCardNo).Nodup := by
    rw [wsCardNo_answeredTable hzero]
    exact hnodup
  have hfound := find?_of_nodup
    (fun itm : CardInfo => decide (0 < itm.nSurplusHour) && itm.bExit) hnodup'
    (List.mem_of_getElem? helement)
  rw [queriedCards_eq hfits hzero hnodup, findCard_eq, List.find?_map, hkey]
  show Option.map releaseCard (((answeredTable B nos).filter _).find?
    (fun itm => itm.wsCardNo = no)) = _
  by_cases htaken : i < 101
  · rw [if_pos htaken] at hfound ⊢
    cases hknown : B.known no with
    | none =>
        have hsame : (answeredCard (newCardInfo B no) none).wsCardNo = no := hkey
        rw [hknown, Option.map_none, hsame] at hfound
        rw [hfound, Backend.valid, hknown]
        rfl
    | some Card =>
        have hsame : (answeredCard (newCardInfo B no)
            (some (cardAnswer B.ulNow Card))).wsCardNo = no := hkey
        rw [hknown, Option.map_some, hsame] at hfound
        have htest : (decide (0 < Card.getSurplusHour B.ulNow) && true) =
            decide (0 < Card.getSurplusHour B.ulNow) := Bool.and_true _
        rw [hfound, Backend.valid_eq hknown]
        show Option.map releaseCard (if (decide (0 < Card.getSurplusHour B.ulNow) &&
          true) = true then _ else none) = _
        rw [htest]
        by_cases hleft : 0 < Card.getSurplusHour B.ulNow
        · rw [if_pos (decide_eq_true hleft), if_pos hleft]
          rfl
        · rw [if_neg (by simpa using hleft), if_neg hleft]
          rfl
  · rw [if_neg htaken] at hfound ⊢
    have hsame : (newCardInfo B no).wsCardNo = no := hkey
    rw [hsame] at hfound
    rw [hfound]
    rfl

end

end Console
end BnsKorea
