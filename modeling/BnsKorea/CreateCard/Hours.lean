import BnsKorea.CreateCard.Program
import BnsKorea.Server.DbManager

/-!
# The hours on a card

The first four characters of a card are its hours, and the server reads them back
from there.  The program writes the hours with at least four digits and a sign in
front of them, so that other hours do not fit.
-/

namespace BnsKorea
namespace CreateCard

open Library Library.Numerals
open Server (stoi decimalValue isDigit rowCard Platform)
open Server.CBnsDbManager (cardEntry getEffectiveCardList findCard_By_CRC Database)

/-!
## Reading digits
-/

theorem decimalValue_eq (digits : WString) :
    decimalValue digits = horner 10 (digits.map fun c => c.toNat - 48) := by
  rw [decimalValue, horner, List.foldl_map]

theorem decimalValue_lt {digits : WString} (h : forall c, c ∈ digits -> isDigit c) :
    decimalValue digits < 10 ^ digits.length := by
  have hall : forall d, d ∈ digits.map (fun c => c.toNat - 48) -> d < 10 := by
    intro d hd
    rcases List.mem_map.mp hd with ⟨c, hc, hdc⟩
    have hdigit := h c hc
    rw [isDigit, Bool.and_eq_true, decide_eq_true_iff, decide_eq_true_iff] at hdigit
    have hle : c.toNat ≤ 57 := hdigit.right
    omega
  have hless := horner_lt hall
  rw [List.length_map] at hless
  rw [decimalValue_eq]
  exact hless

theorem decimalValue_fixed {w n : Nat} (hn : n < 10 ^ w) :
    decimalValue (fixed 10 w n) = n := by
  have hall : forall d, d < 10 -> (Printf.digitUnit d).toNat - 48 = d := by decide
  have hplaces : (fixed 10 w n).map (fun c => c.toNat - 48) = places 10 w n := by
    rw [fixed, List.map_map]
    conv => rhs; rw [← List.map_id (places 10 w n)]
    apply List.map_congr_left
    intro d hd
    exact hall d (lt_of_mem_places (by decide) hd)
  rw [decimalValue_eq, hplaces, horner_places hn]

theorem isDigit_of_mem_padded {w n : Nat} {c : UInt16} (hc : c ∈ padded 10 w n) :
    isDigit c := by
  have hrange := mem_padded hc
  rw [isDigit, decide_eq_true hrange.left, decide_eq_true hrange.right]
  rfl

section

variable {c : UInt16} {digits : WString}

theorem isDigit_plain (h : isDigit c) :
    Server.isSpace c = false ∧ c ≠ 45 ∧ c ≠ 43 := by
  have hge : 48 ≤ c := by
    rw [isDigit, Bool.and_eq_true] at h
    exact of_decide_eq_true h.left
  refine ⟨?_, ?_, ?_⟩
  · have hne : c ≠ 32 := by
      rintro rfl
      exact absurd hge (by decide)
    have hgt : ¬ c ≤ 13 := fun hle => absurd (UInt16.le_trans hge hle) (by decide)
    simp [Server.isSpace, hne, hgt]
  · rintro rfl
    exact absurd hge (by decide)
  · rintro rfl
    exact absurd hge (by decide)

theorem takeWhile_isDigit (h : forall c, c ∈ digits -> isDigit c) :
    digits.takeWhile isDigit = digits :=
  List.takeWhile_eq_self_iff.mpr h

theorem stoi_digits (hne : digits ≠ []) (h : forall c, c ∈ digits -> isDigit c)
    (hrange : decimalValue digits < 2 ^ 31) :
    stoi digits = some (Int32.ofInt (decimalValue digits)) := by
  have hbody : digits.dropWhile Server.isSpace = digits ∧
      digits.head? ≠ some 45 ∧ digits.head? ≠ some 43 := by
    cases digits with
    | nil => exact absurd rfl hne
    | cons c digits =>
        rcases isDigit_plain (h c List.mem_cons_self) with ⟨hspace, hminus, hplus⟩
        rw [List.dropWhile_cons, hspace]
        exact ⟨rfl, fun heq => hminus (Option.some.inj heq),
          fun heq => hplus (Option.some.inj heq)⟩
  rcases hbody with ⟨hbody, hminus, hplus⟩
  have hsign : (digits.head? = some 45 || digits.head? = some 43) = false := by
    rw [decide_eq_false hminus, decide_eq_false hplus]
    rfl
  unfold stoi
  rw [hbody]
  dsimp only
  rw [hsign, if_neg Bool.false_ne_true, takeWhile_isDigit h, if_neg hne, if_neg hminus,
    if_pos]
  omega

theorem stoi_minus (hne : digits ≠ []) (h : forall c, c ∈ digits -> isDigit c)
    (hrange : decimalValue digits < 2 ^ 31) :
    stoi (45 :: digits) = some (Int32.ofInt (-decimalValue digits)) := by
  have hbody : (45 :: digits).dropWhile Server.isSpace = 45 :: digits := rfl
  unfold stoi
  rw [hbody]
  dsimp only
  rw [List.head?_cons, decide_eq_true rfl, Bool.true_or, if_pos rfl, List.tail_cons,
    takeWhile_isDigit h, if_neg hne, if_pos rfl, if_pos]
  omega

end

/-!
## The first four characters
-/

theorem take_toStringD (nHour : Int) (rest : WString) :
    (toStringD 4 nHour ++ rest).take 4 = (toStringD 4 nHour).take 4 := by
  apply List.take_append_of_le_length
  have hpadded := le_length_padded 10 4 nHour.natAbs
  unfold toStringD
  split
  · exact Nat.le_succ_of_le hpadded
  · exact hpadded

theorem take_padded (m k : Nat) {w : Nat} (hk : k ≤ w) :
    ((padded 10 w m).take k).length = k ∧
      forall c, c ∈ (padded 10 w m).take k -> isDigit c :=
  ⟨List.length_take_of_le (hk.trans (le_length_padded 10 w m)),
    fun _ hc => isDigit_of_mem_padded (List.mem_of_mem_take hc)⟩

theorem take_negative {m : Nat} (hm : m ≠ 0) :
    decimalValue ((padded 10 4 m).take 3) ≠ m := by
  rcases take_padded m 3 (by decide : 3 ≤ 4) with ⟨hlength, hdigits⟩
  by_cases hsmall : m < 10 ^ 4
  · have hfront : m / 10 < 10 ^ 3 := Nat.div_lt_of_lt_mul hsmall
    rw [padded_eq_fixed (by decide) (by decide) hsmall, fixed_succ,
      List.take_left' (length_fixed 10 3 (m / 10)), decimalValue_fixed hfront]
    exact Nat.ne_of_lt (Nat.div_lt_self (Nat.pos_of_ne_zero hm) (by decide))
  · have hless := decimalValue_lt hdigits
    rw [hlength] at hless
    omega

theorem stoi_toStringD (nHour : Int) :
    exists nMaxHour, stoi ((toStringD 4 nHour).take 4) = some nMaxHour ∧
      (nMaxHour.toInt = nHour ↔ 0 ≤ nHour ∧ nHour ≤ 9999) := by
  have hne : forall {digits : WString} {k : Nat},
      digits.length = k + 1 -> digits ≠ [] :=
    fun hlength => List.ne_nil_of_length_eq_add_one hlength
  unfold toStringD
  split
  · rename_i hnegative
    rcases take_padded nHour.natAbs 3 (by decide : 3 ≤ 4) with ⟨hlength, hdigits⟩
    have hless := decimalValue_lt hdigits
    rw [hlength] at hless
    have hother := take_negative (by omega : nHour.natAbs ≠ 0)
    rw [List.take_succ_cons]
    refine ⟨_, stoi_minus (hne hlength) hdigits (by omega), ?_⟩
    rw [Int32.toInt_ofInt_of_le (by omega) (by omega)]
    omega
  · rename_i hnonnegative
    rcases take_padded nHour.natAbs 4 (Nat.le_refl 4) with ⟨hlength, hdigits⟩
    have hless := decimalValue_lt hdigits
    rw [hlength] at hless
    refine ⟨_, stoi_digits (hne hlength) hdigits (by omega), ?_⟩
    rw [Int32.toInt_ofInt_of_le (by omega) (by omega)]
    constructor
    · omega
    · intro hfits
      have hsmall : nHour.natAbs < 10 ^ 4 := by omega
      rw [padded_eq_fixed (by decide) (by decide) hsmall,
        List.take_of_length_le (Nat.le_of_eq (length_fixed 10 4 nHour.natAbs)),
        decimalValue_fixed hsmall]
      omega

/-!
## What the server reads
-/

section

variable (P : Platform) (ulNow : ULONGLONG)

/-- A card in the database comes into the card table with so many hours. -/
structure HoursRead (nHour : Int) (wsCardNo : WString) : Prop where
  /-- As a row of all cards, behind readable rows of other cards. -/
  listed : forall wsSurplusHour wsActiveTime, (stoi wsSurplusHour).isSome ->
    forall before after MapCard,
      (forall row, row ∈ before -> exists entry, cardEntry P ulNow row = some entry ∧
        entry.1 ≠ P.getCRC32_DWORD (cStr wsCardNo)) ->
      exists Card,
        (getEffectiveCardList P ulNow
          (some (before ++ [wsCardNo, wsSurplusHour, wsActiveTime] :: after))
          MapCard).2[P.getCRC32_DWORD (cStr wsCardNo)]? = some Card ∧
        Card.wsCardNo = wsCardNo ∧ Card.nMaxHour.toInt = nHour
  /-- As the row of the card that is asked for. -/
  found : forall wsSurplusHour wsActiveTime, (stoi wsSurplusHour).isSome ->
    forall (DB : Database) dwCardCrc rows,
      DB.proc_GetCard dwCardCrc =
        some ([wsCardNo, wsSurplusHour, wsActiveTime] :: rows) ->
      exists Card, findCard_By_CRC P ulNow DB dwCardCrc = some Card ∧
        Card.wsCardNo = wsCardNo ∧ Card.nMaxHour.toInt = nHour

variable {P ulNow} {wsCardNo : WString} {nMaxHour : INT}

variable (P ulNow) in
theorem rowCard_hours (h : stoi (wsCardNo.take 4) = some nMaxHour)
    {wsSurplusHour : WString} (hsurplus : (stoi wsSurplusHour).isSome)
    (wsActiveTime : WString) :
    exists Card, rowCard P ulNow [wsCardNo, wsSurplusHour, wsActiveTime] = some Card ∧
      Card.dwCardCrc = P.getCRC32_DWORD (cStr wsCardNo) ∧
      Card.wsCardNo = wsCardNo ∧ Card.nMaxHour = nMaxHour := by
  rcases Option.isSome_iff_exists.mp hsurplus with ⟨nSurplusHour, hsurplus⟩
  unfold rowCard
  dsimp only
  rw [h, hsurplus]
  exact ⟨_, rfl, rfl, rfl, rfl⟩

theorem hoursRead_iff (h : stoi (wsCardNo.take 4) = some nMaxHour) (nHour : Int) :
    HoursRead P ulNow nHour wsCardNo ↔ nMaxHour.toInt = nHour := by
  constructor
  · intro hread
    let DB : Database := { proc_GetCard := fun _ => some [[wsCardNo, L "0", []]] }
    rcases rowCard_hours P ulNow h
      (by decide : (stoi (L "0")).isSome) [] with ⟨Row, hrow, _, _, hhours⟩
    rcases hread.found (L "0") [] (by decide) DB 0 [] rfl with ⟨Card, hfound, _, hCard⟩
    rw [findCard_By_CRC] at hfound
    dsimp only [DB] at hfound
    rw [hrow, Option.map_some] at hfound
    rw [← hhours, ← hCard, ← Option.some.inj hfound]
  · intro hhours
    constructor
    · intro wsSurplusHour wsActiveTime hsurplus before after MapCard hbefore
      rcases rowCard_hours P ulNow h hsurplus wsActiveTime with
        ⟨Card, hrow, hcrc, hno, hCard⟩
      have hentry : cardEntry P ulNow [wsCardNo, wsSurplusHour, wsActiveTime] =
          some (P.getCRC32_DWORD (cStr wsCardNo), Card) := by
        rw [cardEntry, hrow, Option.map_some, hcrc]
      have hsome : (before ++ [wsCardNo, wsSurplusHour, wsActiveTime] :: after).length ≠
          0 := by
        rw [List.length_append, List.length_cons]
        exact Nat.succ_ne_zero _
      refine ⟨Card, ?_, hno, by rw [hCard, hhours]⟩
      rw [getEffectiveCardList, Refills.refill, if_neg hsome, Refills.getElem?_fill,
        Refills.lookup_entriesRead_skip hbefore, Refills.entriesRead, hentry]
      simp
    · intro wsSurplusHour wsActiveTime hsurplus DB dwCardCrc rows hrows
      rcases rowCard_hours P ulNow h hsurplus wsActiveTime with
        ⟨Card, hrow, _, hno, hCard⟩
      rw [findCard_By_CRC, hrows]
      dsimp only
      rw [hrow]
      exact ⟨_, rfl, hno, by rw [← hhours, ← hCard]⟩

end

/--
The server reads the hours that were asked for from every new card, exactly if
they are numbers of up to four digits or no card is made.
-/
theorem newCards_hours_iff (P : Platform) (ulNow : ULONGLONG) (draws : Nat -> Draw)
    (args : List WString) :
    (forall order, accepts args = some order ->
      forall card, card ∈ newCards makeTable order draws ->
        HoursRead P ulNow order.nHour card) ↔
      forall order, accepts args = some order ->
        order.nCount ≤ 0 ∨ 0 ≤ order.nHour ∧ order.nHour ≤ 9999 := by
  have hcard : forall (nHour : Int) (draw : Draw),
      HoursRead P ulNow nHour (newCard makeTable nHour draw) ↔
        0 ≤ nHour ∧ nHour ≤ 9999 := by
    intro nHour draw
    rcases stoi_toStringD nHour with ⟨nMaxHour, hstoi, hhours⟩
    have hfront : (newCard makeTable nHour draw).take 4 =
        (toStringD 4 nHour).take 4 := by
      simp only [newCard, cardText, List.append_assoc, take_toStringD]
    rw [← hfront] at hstoi
    rw [hoursRead_iff hstoi, hhours]
  constructor
  · intro h order horder
    by_cases hnone : order.nCount ≤ 0
    · exact Or.inl hnone
    · have hfirst : newCard makeTable order.nHour (draws 0) ∈
          newCards makeTable order draws :=
        List.mem_map.mpr ⟨0, List.mem_range.mpr (by omega), rfl⟩
      exact Or.inr ((hcard _ _).mp (h order horder _ hfirst))
  · intro h order horder card hmem
    rcases List.mem_map.mp hmem with ⟨i, hi, hnew⟩
    rw [List.mem_range] at hi
    rw [← hnew, hcard]
    exact (h order horder).resolve_left (by omega)

def longHours : List WString :=
  [L "CreateNewCard", L "-Count", L "1", L "-Hour", L "10000", L "-Format", L "File"]

/-- Of ten thousand hours the server reads one thousand. -/
theorem longHours_cut :
    accepts longHours = some { nCount := 1, nHour := 10000, strFormat := L "File" } ∧
      (forall P ulNow, ¬ HoursRead P ulNow 10000 (newCard makeTable 10000 firstDraw)) ∧
      stoi ((newCard makeTable 10000 firstDraw).take 4) = some 1000 := by
  have hread : stoi ((newCard makeTable 10000 firstDraw).take 4) = some 1000 := by
    decide +kernel
  refine ⟨by decide, ?_, hread⟩
  intro P ulNow h
  exact absurd ((hoursRead_iff hread 10000).mp h) (by decide)

end CreateCard
end BnsKorea
