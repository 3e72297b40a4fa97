import BnsKorea.Library.Texts
import BnsKorea.Updater.Model
import BnsKorea.Console.CardQuery

/-!
# Card records as text

`GetCardInfo` prints what the table has of a card between double dashes.  The
console cuts the text there and drops empty pieces; a record that it cannot read
ends the loop over all of its cards.
-/

namespace BnsKorea
namespace Console

open Library
open Updater (intParse intParse_dec)

structure CCard where
  strCard : WString := []
  nCardAllHour : Int := 0
  nCardSurplusHour : Int := 0
  strActiveDate : WString := []
deriving DecidableEq

/-!
## The two programs
-/

/-- The text of the format `%s--%d--%d--%s`. -/
def recordText (wsCardNo : WString) (nMaxHour nSurplusHour : INT)
    (wsActiveTime : WString) : WString :=
  cStr wsCardNo ++ (L "--" ++ (Printf.dec nMaxHour.toUInt32 ++ (L "--" ++
    (Printf.dec nSurplusHour.toUInt32 ++ (L "--" ++ cStr wsActiveTime)))))

/-- A text that does not fit the buffer ends the process. -/
def getCardInfo (T : CardTableTools) (pwszCardNo : WString) (VecCard : List CardInfo) :
    Option WString :=
  let wszRetMsg :=
    match findCard T pwszCardNo VecCard with
    | some CardInfo_ =>
        recordText CardInfo_.wsCardNo CardInfo_.nMaxHour CardInfo_.nSurplusHour
          CardInfo_.wsActiveTime
    | none => recordText pwszCardNo 0 0 (L "此卡不存在")
  if wszRetMsg.length < 1024 then some wszRetMsg else none

/-- `Split` with `RemoveEmptyEntries`. -/
def splitRecord (str : WString) : List WString :=
  (Texts.pieces (L "--") str).filter fun p => p ≠ []

/-- There is no value where it throws. -/
def getCard_By_Text (str : WString) : Option CCard :=
  match splitRecord str with
  | strCard :: strAllHour :: strSurplusHour :: strRest => do
      let nCardAllHour <- intParse strAllHour
      let nCardSurplusHour <- intParse strSurplusHour
      let Card : CCard := {
        strCard := strCard
        nCardAllHour := nCardAllHour
        nCardSurplusHour := nCardSurplusHour }
      if nCardSurplusHour ≠ 0 then
        strRest.head?.map fun strDate => { Card with strActiveDate := strDate }
      else some { Card with strActiveDate := L "此卡无效!" }
  | _ => none

section

variable (T : CardTableTools) (B : Backend)

/-- The loop over the cards; what was added before an exception is returned. -/
def readRecords (VecCard : List CardInfo) :
    List CCard -> List CCard -> Option (List CCard)
  | [], g_WorkCardList => some g_WorkCardList
  | itm :: lst, g_WorkCardList =>
      match getCardInfo T itm.strCard VecCard with
      | none => none
      | some sbRetMsg =>
          match getCard_By_Text sbRetMsg with
          | none => some g_WorkCardList
          | some Card => readRecords VecCard lst (g_WorkCardList ++ [Card])

def getCardInfo_By_Server (lst g_WorkCardList : List CCard) (VecCard : List CardInfo) :
    Option (List CCard) :=
  let queried := queriedCards T B (lst.map CCard.strCard) VecCard
  if queried.1 = 0 then some g_WorkCardList else readRecords T queried.2 lst []

end

/-!
## Cutting a record
-/

section

variable {no p rest : WString} {nMaxHour nSurplusHour : INT} {wsActiveTime : WString}

theorem dashes : L "--" = [45, 45] := rfl

theorem numeral_head (n : Nat) :
    exists c digits, Printf.numeral 10 n = c :: digits ∧ c ≠ 45 := by
  cases hnumeral : Printf.numeral 10 n with
  | nil => exact absurd hnumeral (Printf.numeral_ne_nil 10 n)
  | cons c digits =>
      refine ⟨c, digits, rfl, ?_⟩
      rintro rfl
      have hmem : (45 : UInt16) ∈ Printf.numeral 10 n := by
        rw [hnumeral]
        exact List.mem_cons_self
      exact Printf.not_mem_numeral (by decide) (by decide) n (by decide) hmem

theorem dec_no_dashes (v : UInt32) :
    ¬ L "--" <:+: Printf.dec v ++ (L "--").dropLast := by
  have hnumeral : forall n, ¬ L "--" <:+: Printf.numeral 10 n ++ [45] := by
    intro n h
    have hcount := h.count_le 45
    have hnone : (Printf.numeral 10 n).count 45 = 0 := by
      rw [List.count_eq_zero]
      exact Printf.not_mem_numeral (by decide) (by decide) n (by decide)
    rw [List.count_append, hnone] at hcount
    exact absurd hcount (by decide)
  show ¬ L "--" <:+: Printf.dec v ++ [45]
  unfold Printf.dec
  split
  · exact hnumeral _
  · rw [List.cons_append, List.infix_cons_iff, dashes, List.cons_prefix_cons]
    rintro (⟨_, hbegins⟩ | hwithin)
    · rcases numeral_head (2 ^ 32 - v.toNat) with ⟨c, digits, hdigits, hc⟩
      rw [hdigits, List.cons_append, List.cons_prefix_cons] at hbegins
      exact hc hbegins.left.symm
    · exact hnumeral _ hwithin

theorem no_dashes (hwithin : ¬ L "--" <:+: no) (hlast : no.getLast? ≠ some 45) :
    ¬ L "--" <:+: no ++ (L "--").dropLast := by
  show ¬ L "--" <:+: no ++ [45]
  rw [List.infix_concat_iff]
  rintro (hsuffix | h)
  · rcases List.suffix_concat_iff.mp hsuffix with hnil | ⟨t, ht, hno⟩
    · exact absurd hnil (by decide)
    · have hdash : t = [45] := (List.append_inj_left' ht rfl).symm
      rcases hno with ⟨front, hfront⟩
      rw [hdash] at hfront
      exact hlast (List.getLast?_eq_some_iff.mpr ⟨front, hfront.symm⟩)
  · exact hwithin h

theorem pieces_record (hzero : 0 ∉ no) (hwithin : ¬ L "--" <:+: no)
    (hlast : no.getLast? ≠ some 45) :
    Texts.pieces (L "--") (recordText no nMaxHour nSurplusHour wsActiveTime) =
      no :: Printf.dec nMaxHour.toUInt32 :: Printf.dec nSurplusHour.toUInt32 ::
        Texts.pieces (L "--") (cStr wsActiveTime) := by
  have hsep : L "--" ≠ [] := by decide
  rw [recordText, cStr_of_not_mem hzero,
    Texts.pieces_first hsep (no_dashes hwithin hlast),
    Texts.pieces_first hsep (dec_no_dashes _),
    Texts.pieces_first hsep (dec_no_dashes _)]

theorem dec_ne_nil (v : UInt32) : Printf.dec v ≠ [] := by
  unfold Printf.dec
  split
  · exact Printf.numeral_ne_nil 10 _
  · exact List.cons_ne_nil _ _

theorem filter_nonempty (hp : p ≠ []) (ps : List WString) :
    (p :: ps).filter (fun p => p ≠ []) = p :: ps.filter fun p => p ≠ [] := by
  rw [List.filter_cons, if_pos (decide_eq_true hp)]

variable (nMaxHour nSurplusHour wsActiveTime) in
theorem getCard_By_Text_record (hne : no ≠ []) (hzero : 0 ∉ no)
    (hwithin : ¬ L "--" <:+: no) (hlast : no.getLast? ≠ some 45) :
    getCard_By_Text (recordText no nMaxHour nSurplusHour wsActiveTime) =
      let Card : CCard := {
        strCard := no
        nCardAllHour := nMaxHour.toInt
        nCardSurplusHour := nSurplusHour.toInt }
      if nSurplusHour.toInt ≠ 0 then
        (splitRecord (cStr wsActiveTime)).head?.map fun strDate =>
          { Card with strActiveDate := strDate }
      else some { Card with strActiveDate := L "此卡无效!" } := by
  have hsplit : splitRecord (recordText no nMaxHour nSurplusHour wsActiveTime) =
      no :: Printf.dec nMaxHour.toUInt32 :: Printf.dec nSurplusHour.toUInt32 ::
        splitRecord (cStr wsActiveTime) := by
    rw [splitRecord, pieces_record hzero hwithin hlast, filter_nonempty hne,
      filter_nonempty (dec_ne_nil _), filter_nonempty (dec_ne_nil _), splitRecord]
  rw [getCard_By_Text, hsplit]
  dsimp only
  rw [intParse_dec, intParse_dec]
  rfl

theorem strCard_of_read {str : WString} {Card : CCard}
    (h : getCard_By_Text str = some Card) :
    exists strRest, splitRecord str = Card.strCard :: strRest := by
  unfold getCard_By_Text at h
  split at h
  · rename_i strCard strAllHour strSurplusHour strRest hsplit
    rcases Option.bind_eq_some_iff.mp h with ⟨nCardAllHour, _, h⟩
    rcases Option.bind_eq_some_iff.mp h with ⟨nCardSurplusHour, _, h⟩
    dsimp only at h
    split at h
    · rcases Option.map_eq_some_iff.mp h with ⟨strDate, _, hCard⟩
      rw [← hCard]
      exact ⟨_, hsplit⟩
    · rw [← Option.some.inj h]
      exact ⟨_, hsplit⟩
  · cases h

theorem pieces_other {c : UInt16} (hc : c ≠ 45) (text : WString) :
    exists q qs, Texts.pieces (L "--") (c :: text) = (c :: q) :: qs := by
  apply Texts.pieces_head
  rw [dashes, List.cons_prefix_cons]
  exact fun h => hc h.left.symm

theorem splitRecord_dash (v : UInt32) (rest : WString) :
    (splitRecord (45 :: (Printf.dec v ++ rest))).head? ≠ some [45] := by
  have hdigit : forall {c : UInt16} (text : WString), c ≠ 45 ->
      (splitRecord (45 :: c :: text)).head? ≠ some [45] := by
    intro c text hc
    have hlater : ¬ L "--" <+: 45 :: c :: text := by
      rw [dashes, List.cons_prefix_cons, List.cons_prefix_cons]
      exact fun h => hc h.right.left.symm
    rcases pieces_other hc text with ⟨q, qs, hpieces⟩
    rw [splitRecord, Texts.pieces_cons hlater, hpieces, List.modifyHead_cons,
      filter_nonempty (List.cons_ne_nil _ _), List.head?_cons]
    exact fun h => List.cons_ne_nil _ _ (List.cons.inj (Option.some.inj h)).right
  unfold Printf.dec
  split
  · rcases numeral_head v.toNat with ⟨c, digits, hdigits, hc⟩
    rw [hdigits]
    exact hdigit _ hc
  · rcases numeral_head (2 ^ 32 - v.toNat) with ⟨c, digits, hdigits, hc⟩
    rcases pieces_other hc (digits ++ rest) with ⟨q, qs, hpieces⟩
    have hcut := Texts.pieces_sep (by decide : L "--" ≠ []) (c :: (digits ++ rest))
    rw [hdigits]
    show (splitRecord (L "--" ++ (c :: (digits ++ rest)))).head? ≠ _
    rw [splitRecord, hcut, hpieces]
    show ((c :: q) :: _ : List WString).head? ≠ _
    rw [List.head?_cons]
    exact fun h => hc (List.cons.inj (Option.some.inj h)).left

theorem strCard_ne (hzero : 0 ∉ no) (hwithin : ¬ L "--" <:+: no)
    (hbad : no = [] ∨ no.getLast? = some 45) {Card : CCard}
    (h : getCard_By_Text (recordText no nMaxHour nSurplusHour wsActiveTime) =
      some Card) : Card.strCard ≠ no := by
  rcases strCard_of_read h with ⟨strRest, hsplit⟩
  have hne : Card.strCard ≠ [] := by
    have hmem : Card.strCard ∈
        splitRecord (recordText no nMaxHour nSurplusHour wsActiveTime) := by
      rw [hsplit]
      exact List.mem_cons_self
    exact of_decide_eq_true (List.mem_filter.mp hmem).right
  rcases hbad with hempty | hlast
  · rw [hempty]
    exact hne
  · rcases List.getLast?_eq_some_iff.mp hlast with ⟨front, hfront⟩
    rw [hfront] at hwithin
    rw [recordText, cStr_of_not_mem hzero, hfront] at hsplit
    have hmoved : forall rest : WString,
        front ++ [45] ++ (L "--" ++ rest) = front ++ (L "--" ++ 45 :: rest) := by
      intro rest
      rw [List.append_assoc]
      rfl
    rw [hmoved, splitRecord, Texts.pieces_first (by decide) hwithin] at hsplit
    rw [hfront]
    cases front with
    | nil =>
        intro hdash
        have hrest : splitRecord (45 :: (Printf.dec nMaxHour.toUInt32 ++ _)) =
            Card.strCard :: strRest := hsplit
        apply splitRecord_dash nMaxHour.toUInt32 _
        rw [hrest, hdash]
        rfl
    | cons c front =>
        rw [filter_nonempty (List.cons_ne_nil c front)] at hsplit
        rw [← (List.cons.inj hsplit).left]
        exact fun h => absurd (congrArg List.length h) (by simp)

theorem zero_not_mem_record :
    0 ∉ recordText no nMaxHour nSurplusHour wsActiveTime := by
  have hdec : forall v, 0 ∉ Printf.dec v := by
    intro v
    have hnumeral : forall n, 0 ∉ Printf.numeral 10 n :=
      fun n => Printf.not_mem_numeral (by decide) (by decide) n (by decide)
    unfold Printf.dec
    split
    · exact hnumeral _
    · exact List.not_mem_cons_of_ne_of_not_mem (by decide) (hnumeral _)
  have hdashes : (0 : UInt16) ∉ L "--" := by decide
  simp only [recordText, List.mem_append, zero_not_mem_cStr, hdec, hdashes, or_self,
    not_false_eq_true]

theorem zero_not_mem_strCard {str : WString} (hstr : 0 ∉ str) {Card : CCard}
    (h : getCard_By_Text str = some Card) : 0 ∉ Card.strCard := by
  intro hzero
  rcases strCard_of_read h with ⟨strRest, hsplit⟩
  have hmem : Card.strCard ∈ splitRecord str := by
    rw [hsplit]
    exact List.mem_cons_self
  exact hstr (Texts.mem_of_mem_pieces (List.mem_filter.mp hmem).left hzero)

end

/-!
## What the console is told
-/

/-- The record of the number; with time left it has what the server has. -/
structure Told (B : Backend) (no : WString) (Card : CCard) : Prop where
  strCard : Card.strCard = no
  valid : forall Card', B.valid no = some Card' ->
    Card.nCardAllHour = Card'.nMaxHour.toInt ∧
      Card.nCardSurplusHour = (Card'.getSurplusHour B.ulNow).toInt ∧
      Card.strActiveDate = Card'.wsActiveTime
  other : B.valid no = none -> Card.nCardSurplusHour = 0

def recordAt (B : Backend) (i : Nat) (no : WString) : WString :=
  match if i < 101 then B.valid no else none with
  | some Card =>
      recordText no Card.nMaxHour (Card.getSurplusHour B.ulNow) Card.wsActiveTime
  | none => recordText no 0 0 (L "此卡不存在")

/-- What the number, its position and the server's card must be like. -/
structure Fits (B : Backend) (i : Nat) (no : WString) : Prop where
  notEmpty : no ≠ []
  noZero : 0 ∉ no
  noDash : no.getLast? ≠ some 45
  valid : forall Card, B.valid no = some Card ->
    i < 101 ∧ Card.wsActiveTime ≠ [] ∧ 0 ∉ Card.wsActiveTime ∧
      ¬ L "--" <:+: Card.wsActiveTime
  fitsBuffer : (recordAt B i no).length < 1024

section

variable {B : Backend} {i : Nat} {no : WString}

theorem surplus_of_valid {Card : CardInfo} (h : B.valid no = some Card) :
    0 < (Card.getSurplusHour B.ulNow).toInt := by
  have hleft := of_decide_eq_true (Option.filter_eq_some_iff.mp h).right
  exact Int32.lt_iff_toInt_lt.mp hleft

theorem fits_of_told (hzero : 0 ∉ no) (hwithin : ¬ L "--" <:+: no) {Card : CCard}
    (hlength : (recordAt B i no).length < 1024)
    (hread : getCard_By_Text (recordAt B i no) = some Card) (h : Told B no Card) :
    Fits B i no := by
  have hrecord : exists nMaxHour nSurplusHour wsActiveTime,
      recordAt B i no = recordText no nMaxHour nSurplusHour wsActiveTime := by
    unfold recordAt
    split
    · exact ⟨_, _, _, rfl⟩
    · exact ⟨_, _, _, rfl⟩
  have hgood : ¬ (no = [] ∨ no.getLast? = some 45) := by
    intro hbad
    rcases hrecord with ⟨nMaxHour, nSurplusHour, wsActiveTime, hrecord⟩
    rw [hrecord] at hread
    exact strCard_ne hzero hwithin hbad hread h.strCard
  rcases not_or.mp hgood with ⟨hne, hlast⟩
  refine ⟨hne, hzero, hlast, ?_, hlength⟩
  intro Known hvalid
  have hleft := surplus_of_valid hvalid
  rcases h.valid Known hvalid with ⟨_, hsurplus, hdate⟩
  by_cases htaken : i < 101
  · rw [recordAt, if_pos htaken, hvalid] at hread
    dsimp only at hread
    rw [getCard_By_Text_record _ _ _ hne hzero hwithin hlast] at hread
    dsimp only at hread
    rw [if_pos (ne_of_gt hleft)] at hread
    rcases Option.map_eq_some_iff.mp hread with ⟨strDate, hfirst, hCard⟩
    rw [← hCard] at hdate
    have hsame : strDate = Known.wsActiveTime := hdate
    rw [hsame] at hfirst
    have hmem : Known.wsActiveTime ∈ splitRecord (cStr Known.wsActiveTime) :=
      List.mem_of_head? hfirst
    rcases List.mem_filter.mp hmem with ⟨hpiece, hnonempty⟩
    exact ⟨htaken, of_decide_eq_true hnonempty,
      fun hmem => zero_not_mem_cStr _ (Texts.mem_of_mem_pieces hpiece hmem),
      Texts.not_infix_piecesFrom (by decide) hpiece⟩
  · rw [recordAt, if_neg htaken] at hread
    dsimp only at hread
    rw [getCard_By_Text_record _ _ _ hne hzero hwithin hlast] at hread
    dsimp only at hread
    rw [if_neg (by decide)] at hread
    rw [← Option.some.inj hread] at hsurplus
    rw [← hsurplus] at hleft
    exact absurd (show (0 : Int) < (0 : INT).toInt from hleft) (by decide)

theorem told_of_fits (hwithin : ¬ L "--" <:+: no) (h : Fits B i no) :
    exists Card, getCard_By_Text (recordAt B i no) = some Card ∧ Told B no Card := by
  cases hvalid : B.valid no with
  | none =>
      have hrecord : recordAt B i no = recordText no 0 0 (L "此卡不存在") := by
        rw [recordAt, hvalid, ite_self]
      rw [hrecord, getCard_By_Text_record _ _ _ h.notEmpty h.noZero hwithin h.noDash]
      dsimp only
      rw [if_neg (by decide)]
      exact ⟨_, rfl, rfl, fun _ hnone => (by rw [hvalid] at hnone; cases hnone),
        fun _ => rfl⟩
  | some Known =>
      rcases h.valid Known hvalid with ⟨htaken, hne, hzero, hpiece⟩
      have hrecord : recordAt B i no = recordText no Known.nMaxHour
          (Known.getSurplusHour B.ulNow) Known.wsActiveTime := by
        rw [recordAt, if_pos htaken, hvalid]
      have hdate : splitRecord (cStr Known.wsActiveTime) = [Known.wsActiveTime] := by
        rw [cStr_of_not_mem hzero, splitRecord, Texts.pieces_only hpiece,
          filter_nonempty hne, List.filter_nil]
      rw [hrecord, getCard_By_Text_record _ _ _ h.notEmpty h.noZero hwithin h.noDash]
      dsimp only
      rw [if_pos (ne_of_gt (surplus_of_valid hvalid)), hdate]
      refine ⟨_, rfl, rfl, ?_, ?_⟩
      · intro Card' hCard'
        rw [hvalid] at hCard'
        rw [← Option.some.inj hCard']
        exact ⟨rfl, rfl, rfl⟩
      · intro hnone
        rw [hvalid] at hnone
        cases hnone

end

/-!
## The loop over the cards
-/

section

variable {T : CardTableTools} {B : Backend} {VecCard : List CardInfo}

theorem readRecords_prefix {lst added records : List CCard}
    (h : readRecords T VecCard lst added = some records) : added <+: records := by
  induction lst generalizing added with
  | nil =>
      rw [← Option.some.inj h]
  | cons itm lst ih =>
      rw [readRecords] at h
      split at h
      · cases h
      · split at h
        · rw [← Option.some.inj h]
        · exact (List.prefix_append added _).trans (ih h)

variable (T VecCard) in
theorem readRecords_all_iff (told : CCard -> CCard -> Prop) (lst added : List CCard) :
    (exists records, readRecords T VecCard lst added = some (added ++ records) ∧
      List.Forall₂ told lst records) ↔
      forall itm, itm ∈ lst ->
        exists Card, (getCardInfo T itm.strCard VecCard).bind getCard_By_Text =
          some Card ∧ told itm Card := by
  induction lst generalizing added with
  | nil =>
      refine iff_of_true ⟨[], ?_, .nil⟩ nofun
      rw [readRecords, List.append_nil]
  | cons itm lst ih =>
      rw [readRecords, List.forall_mem_cons]
      cases hinfo : getCardInfo T itm.strCard VecCard with
      | none =>
          apply iff_of_false
          · rintro ⟨records, hrecords, _⟩
            cases hrecords
          · rintro ⟨⟨Card, hread, _⟩, _⟩
            cases hread
      | some sbRetMsg =>
          dsimp only
          rw [Option.bind_some]
          cases hread : getCard_By_Text sbRetMsg with
          | none =>
              apply iff_of_false
              · rintro ⟨records, hrecords, htold⟩
                have hnone : records = [] :=
                  List.append_right_eq_self.mp (Option.some.inj hrecords).symm
                rw [hnone] at htold
                cases htold
              · rintro ⟨⟨Card, hread, _⟩, _⟩
                cases hread
          | some Card =>
              dsimp only
              rw [← ih (added ++ [Card])]
              constructor
              · rintro ⟨records, hrecords, htold⟩
                have hbegins := readRecords_prefix hrecords
                rw [List.prefix_append_right_inj] at hbegins
                rcases hbegins with ⟨later, hlater⟩
                rw [← hlater] at hrecords htold
                rw [← List.append_assoc] at hrecords
                rcases List.forall₂_cons.mp htold with ⟨hfirst, hrest⟩
                exact ⟨⟨Card, rfl, hfirst⟩, later, hrecords, hrest⟩
              · rintro ⟨⟨Card', hsame, hfirst⟩, later, hrecords, hrest⟩
                rw [← Option.some.inj hsame] at hfirst
                rw [List.append_assoc] at hrecords
                exact ⟨[Card] ++ later, hrecords, .cons hfirst hrest⟩

end

/-!
## From the server to the console
-/

theorem getCardInfo_queried (T : CardTableTools) (B : Backend) {nos : List WString}
    (hfits : nos.length < 2 ^ 32) (hzero : forall no, no ∈ nos -> 0 ∉ no)
    (hnodup : nos.Nodup) (VecCard : List CardInfo) {i : Nat} {no : WString}
    (hno : nos[i]? = some no) :
    getCardInfo T no (queriedCards T B nos VecCard).2 =
      if (recordAt B i no).length < 1024 then some (recordAt B i no) else none := by
  have hcard : cStr (cStr no) = cStr no := cStr_of_not_mem (zero_not_mem_cStr no)
  have hsame : forall nMaxHour nSurplusHour wsActiveTime,
      recordText (cStr no) nMaxHour nSurplusHour wsActiveTime =
        recordText no nMaxHour nSurplusHour wsActiveTime := by
    intro nMaxHour nSurplusHour wsActiveTime
    rw [recordText, hcard, recordText]
  rw [getCardInfo, findCard_queried hfits hzero hnodup VecCard hno, recordAt]
  by_cases htaken : i < 101
  · rw [if_pos htaken, if_pos htaken]
    cases B.valid no with
    | none => rfl
    | some Card =>
        show (if (recordText (cStr no) _ _ _).length < 1024 then
          some (recordText (cStr no) _ _ _) else none) = _
        rw [hsame]
        rfl
  · rw [if_neg htaken, if_neg htaken]

theorem zero_not_mem_getCardInfo {T : CardTableTools} {no str : WString}
    {VecCard : List CardInfo} (h : getCardInfo T no VecCard = some str) : 0 ∉ str := by
  unfold getCardInfo at h
  dsimp only at h
  split at h
  · split at h
    · rw [← Option.some.inj h]
      exact zero_not_mem_record
    · cases h
  · split at h
    · rw [← Option.some.inj h]
      exact zero_not_mem_record
    · cases h

/--
The console has a right record of every card, exactly if all numbers can stand in
front of a dash, every card with time left is among the first 101 and has a date
that is one piece, and every record fits the buffer.
-/
theorem getCardInfo_By_Server_iff (T : CardTableTools) (B : Backend)
    (lst g_WorkCardList : List CCard) (VecCard : List CardInfo)
    (hcount : lst.length < 2 ^ 31) (hnodup : (lst.map CCard.strCard).Nodup)
    (hwithin : forall itm, itm ∈ lst -> ¬ L "--" <:+: itm.strCard) :
    (exists records,
      getCardInfo_By_Server T B lst g_WorkCardList VecCard = some records ∧
        List.Forall₂ (fun itm Card => Told B itm.strCard Card) lst records) ↔
      forall (i : Nat) (itm : CCard), lst[i]? = some itm -> Fits B i itm.strCard := by
  have hanswered : (queriedCards T B (lst.map CCard.strCard) VecCard).1 ≠ 0 := by
    show (1 : INT) ≠ 0
    decide
  have hnos : (lst.map CCard.strCard).length < 2 ^ 32 := by
    rw [List.length_map]
    exact Nat.lt_trans hcount (by decide)
  have hall := readRecords_all_iff T
    (queriedCards T B (lst.map CCard.strCard) VecCard).2
    (fun itm Card => Told B itm.strCard Card) lst []
  simp only [List.nil_append] at hall
  rw [getCardInfo_By_Server, if_neg hanswered, hall]
  constructor
  · intro h i itm hitm
    have hzero : forall no, no ∈ lst.map CCard.strCard -> 0 ∉ no := by
      intro no hno
      rcases List.mem_map.mp hno with ⟨itm, hitm, hsame⟩
      rcases h itm hitm with ⟨Card, hread, htold⟩
      rcases Option.bind_eq_some_iff.mp hread with ⟨str, hstr, hCard⟩
      rw [← hsame, ← htold.strCard]
      exact zero_not_mem_strCard (zero_not_mem_getCardInfo hstr) hCard
    have hmem := List.mem_of_getElem? hitm
    have hno : (lst.map CCard.strCard)[i]? = some itm.strCard := by
      rw [List.getElem?_map, hitm, Option.map_some]
    rcases h itm hmem with ⟨Card, hread, htold⟩
    rw [getCardInfo_queried T B hnos hzero hnodup VecCard hno] at hread
    split at hread
    · rename_i hlength
      exact fits_of_told (hzero _ (List.mem_of_getElem? hno)) (hwithin itm hmem) hlength
        hread htold
    · cases hread
  · intro h itm hmem
    have hzero : forall no, no ∈ lst.map CCard.strCard -> 0 ∉ no := by
      intro no hno
      rcases List.mem_map.mp hno with ⟨itm, hitm, hsame⟩
      rcases List.mem_iff_getElem?.mp hitm with ⟨i, hi⟩
      rw [← hsame]
      exact (h i itm hi).noZero
    rcases List.mem_iff_getElem?.mp hmem with ⟨i, hi⟩
    have hno : (lst.map CCard.strCard)[i]? = some itm.strCard := by
      rw [List.getElem?_map, hi, Option.map_some]
    rcases told_of_fits (hwithin itm hmem) (h i itm hi) with ⟨Card, hread, htold⟩
    refine ⟨Card, ?_, htold⟩
    rw [getCardInfo_queried T B hnos hzero hnodup VecCard hno,
      if_pos (h i itm hi).fitsBuffer, Option.bind_some, hread]

/-- A server with the card `A`, which was activated at the time. -/
def soldCard (wsActiveTime : WString) : Backend where
  ulNow := 0
  GameClient := Client.CSocketAPI.annaClient
  s :=
    { Client.CSocketAPI.noTeams with
      cards :=
        Server.CCardExtend.insertCard
          { wsCardNo := L "A"
            dwCardCrc := Server.Platform.standard.getCRC32_DWORD (L "A")
            nMaxHour := 720
            nSurplusHour := 5
            wsActiveTime := wsActiveTime } {} }

def twoNumbers : List CCard :=
  [{ strCard := L "A" }, { strCard := L "B" }]

theorem twoNumbers_told_iff :
    (exists records,
      getCardInfo_By_Server CardTableTools.standard (soldCard (L "2015:1:1"))
          twoNumbers [] [] = some records ∧
        List.Forall₂ (fun itm Card => Told (soldCard (L "2015:1:1")) itm.strCard Card)
          twoNumbers records) ↔
      forall (i : Nat) (itm : CCard), twoNumbers[i]? = some itm ->
        Fits (soldCard (L "2015:1:1")) i itm.strCard :=
  getCardInfo_By_Server_iff CardTableTools.standard (soldCard (L "2015:1:1"))
    twoNumbers [] [] (by decide) (by decide) (by decide)

/-- Without a time of activation neither of the cards is shown. -/
theorem noDate_loses_both :
    getCardInfo_By_Server CardTableTools.standard (soldCard []) twoNumbers [] [] =
        some [] ∧
      ¬ exists records,
        getCardInfo_By_Server CardTableTools.standard (soldCard []) twoNumbers [] [] =
            some records ∧
          List.Forall₂ (fun itm Card => Told (soldCard []) itm.strCard Card) twoNumbers
            records := by
  have hlost : getCardInfo_By_Server CardTableTools.standard (soldCard []) twoNumbers []
      [] = some [] := by
    decide +kernel
  refine ⟨hlost, ?_⟩
  rintro ⟨records, hrecords, htold⟩
  rw [hlost] at hrecords
  rw [← Option.some.inj hrecords] at htold
  cases htold

end Console
end BnsKorea
