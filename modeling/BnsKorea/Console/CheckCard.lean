import Mathlib.Tactic.Tauto
import BnsKorea.Library.Bytes
import BnsKorea.CreateCard.CheckSum

/-!
# Checking a card number

`CheckCard` reads the three fields of a card as numbers, writes them again with
their check sum, and compares.  What the C library reads back is not only what the
program that creates cards writes: a field may have a minus sign.
-/

namespace BnsKorea
namespace Console

open Library Library.Numerals
open CreateCard
  (makeTable getCrc toStringD toStringX8 asciiBytes getCrc_eq newCard Draw)
open Server (crc32)

/-!
## Texts of single bytes
-/

abbrev AString := List BYTE

def narrow (text : WString) : AString :=
  text.map UInt16.toUInt8

def widen (text : AString) : WString :=
  text.map UInt8.toUInt16

/-- A text of characters of seven bits; a zero is no character. -/
def Ascii (text : WString) : Prop :=
  forall c, c ∈ text -> 0 < c ∧ c < 128

theorem widen_narrow {text : WString} (h : Ascii text) :
    widen (narrow text) = text := by
  rw [widen, narrow, List.map_map]
  conv => rhs; rw [← List.map_id text]
  apply List.map_congr_left
  intro c hc
  have hless : c.toNat < 128 := (h c hc).right
  apply UInt16.toNat_inj.mp
  rw [Function.comp_apply, UInt8.toNat_toUInt16, UInt16.toNat_toUInt8]
  exact Nat.mod_eq_of_lt (Nat.lt_trans hless (by decide))

theorem narrow_injective {text text' : WString} (h : Ascii text) (h' : Ascii text')
    (heq : narrow text = narrow text') : text = text' := by
  rw [← widen_narrow h, heq, widen_narrow h']

theorem narrow_append (text text' : WString) :
    narrow (text ++ text') = narrow text ++ narrow text' :=
  List.map_append

theorem Ascii.append {text text' : WString} (h : Ascii text) (h' : Ascii text') :
    Ascii (text ++ text') := by
  intro c hc
  exact (List.mem_append.mp hc).elim (h c) (h' c)

theorem ascii_fixed {base : Nat} (hbase : 0 < base) (hbase' : base ≤ 16) (w n : Nat) :
    Ascii (fixed base w n) := by
  have hall : forall d, d < 16 ->
      0 < Printf.digitUnit d ∧ Printf.digitUnit d < 128 := by decide
  intro c hc
  rcases List.mem_map.mp hc with ⟨d, hd, hdc⟩
  rw [← hdc]
  exact hall d (Nat.lt_of_lt_of_le (lt_of_mem_places hbase hd) hbase')

theorem asciiBytes_eq {text : WString} (h : Ascii text) :
    asciiBytes text = narrow text := by
  apply List.map_congr_left
  intro c hc
  rw [if_pos (h c hc).right]

/-!
## The function
-/

/-- What `CheckCard` uses of the tool library. -/
structure CardTools where
  /-- `UnicodeToASCII(pwszText, szText)`: the text that is left in the buffer. -/
  unicodeToASCII : WString -> AString
  /-- `strcpy_my`: so many characters of the text, or the whole. -/
  strcpyMy : AString -> Nat -> AString
  strcmpMy : AString -> AString -> Bool
  getCRC32_DWORD : AString -> DWORD
  unicodeToASCII_ascii : forall text, Ascii text -> unicodeToASCII text = narrow text
  strcpyMy_eq : forall text n, strcpyMy text n = text.take n
  strcmpMy_eq : forall text text', strcmpMy text text' = decide (text = text')
  getCRC32_DWORD_eq : forall bytes, getCRC32_DWORD bytes = crc32 bytes

namespace CardTools

attribute [simp] strcpyMy_eq strcmpMy_eq getCRC32_DWORD_eq

def standard : CardTools where
  unicodeToASCII := asciiBytes
  strcpyMy text n := text.take n
  strcmpMy text text' := decide (text = text')
  getCRC32_DWORD := crc32
  unicodeToASCII_ascii _ := asciiBytes_eq
  strcpyMy_eq _ _ := rfl
  strcmpMy_eq _ _ := rfl
  getCRC32_DWORD_eq _ := rfl

end CardTools

/-- `wsprintf` with `%04d` and its like; a minus sign is counted in the width. -/
def formatD (width : Nat) (n : DWORD) : AString :=
  narrow <|
    if n.toInt32.toInt < 0 then 45 :: padded 10 (width - 1) n.toInt32.toInt.natAbs
    else padded 10 width n.toInt32.toInt.natAbs

/-- `%08X`. -/
def formatX (width : Nat) (n : DWORD) : AString :=
  narrow (padded 16 width n.toNat)

section

variable (T : CardTools)

def fnGetHour (pwszCard : AString) : DWORD :=
  (atoi (widen (T.strcpyMy pwszCard 4))).toUInt32

def fnGetDate (pwszCard : AString) : DWORD :=
  (atoi (widen (T.strcpyMy (pwszCard.drop 4) 8))).toUInt32

def fnGetRand (pwszCard : AString) : DWORD :=
  (strtol 16 (widen (T.strcpyMy (pwszCard.drop (4 + 8)) 8))).toUInt32

def rebuilt (szCard : AString) : AString :=
  let wszText :=
    formatD 4 (fnGetHour T szCard) ++ formatD 8 (fnGetDate T szCard) ++
      formatX 8 (fnGetRand T szCard)
  wszText ++ formatX 8 (T.getCRC32_DWORD wszText)

def checkCard (pwszCardNo : WString) : INT :=
  if (cStr pwszCardNo).length ≠ 0x1C then 0
  else
    let szCard := T.unicodeToASCII (cStr pwszCardNo)
    if T.strcmpMy (rebuilt T szCard) szCard then 1 else 0

end

/-!
## Fields
-/

def Digits (w : Nat) (text : WString) : Prop :=
  exists n, n < 10 ^ w ∧ text = fixed 10 w n

/-- A field with a minus sign and a number other than zero. -/
def Minus (w : Nat) (text : WString) : Prop :=
  exists n, 0 < n ∧ n < 10 ^ (w - 1) ∧ text = 45 :: fixed 10 (w - 1) n

def Field (w : Nat) (text : WString) : Prop :=
  Digits w text ∨ Minus w text

section

variable {w k : Nat} {text : WString}

theorem Field.ascii (h : Field w text) : Ascii text := by
  rcases h with ⟨n, _, htext⟩ | ⟨n, _, _, htext⟩
  · rw [htext]
    exact ascii_fixed (by decide) (by decide) w n
  · rw [htext]
    intro c hc
    rcases List.mem_cons.mp hc with hc | hc
    · rw [hc]
      decide
    · exact ascii_fixed (by decide) (by decide) (w - 1) n c hc

theorem Field.length (h : Field (k + 1) text) : text.length = k + 1 := by
  rcases h with ⟨n, _, htext⟩ | ⟨n, _, _, htext⟩
  · rw [htext, length_fixed]
  · rw [htext, List.length_cons, length_fixed, Nat.add_sub_cancel]

theorem Digits.not_minus (h : Digits (k + 1) text) : ¬ Minus (k + 1) text := by
  rintro ⟨m, _, _, hminus⟩
  rcases h with ⟨n, _, htext⟩
  have hmem : (45 : UInt16) ∈ fixed 10 (k + 1) n := by
    rw [← htext, hminus]
    exact List.mem_cons_self
  have hall : forall d, d < 10 -> Printf.digitUnit d ≠ 45 := by decide
  rcases List.mem_map.mp hmem with ⟨d, hd, hunit⟩
  exact hall d (lt_of_mem_places (by decide) hd) hunit

theorem formatD_field (hk : k < 9) (h : Field (k + 1) text) :
    formatD (k + 1) (atoi (widen (narrow text))).toUInt32 = narrow text := by
  have hpow : forall {m n}, m ≤ k + 1 -> n < 10 ^ m -> n < 2 ^ 31 := by
    intro m n hm hn
    calc n < 10 ^ m := hn
      _ ≤ 10 ^ 9 := Nat.pow_le_pow_right (by decide) (by omega)
      _ < 2 ^ 31 := by decide
  rw [widen_narrow h.ascii, formatD, Int32.toInt32_toUInt32, atoi]
  rcases h with ⟨n, hn, htext⟩ | ⟨n, hpos, hn, htext⟩
  · rw [htext, toInt_strtol_fixed (by decide) (by decide) hn (hpow (Nat.le_refl _) hn),
      if_neg (by omega), Int.natAbs_natCast,
      padded_eq_fixed (by decide) (Nat.succ_ne_zero k) hn]
  · rw [Nat.add_sub_cancel] at hn htext
    have hne : k ≠ 0 := by
      intro hzero
      rw [hzero, Nat.pow_zero] at hn
      omega
    rw [htext, toInt_strtol_minus_fixed (by decide) (by decide) hn
      (hpow (Nat.le_succ k) hn), if_pos (by omega), Int.natAbs_neg, Int.natAbs_natCast,
      Nat.add_sub_cancel, padded_eq_fixed (by decide) hne hn]

theorem formatD_isField (hk : k ≠ 0) {szField : AString}
    (h : szField.length ≤ k + 1) :
    exists text, Field (k + 1) text ∧
      formatD (k + 1) (atoi (widen szField)).toUInt32 = narrow text := by
  have hlength : (widen szField).length ≤ k + 1 := by
    rw [widen, List.length_map]
    exact h
  have hrange := toInt_atoi_range hlength
  have hpow : ((10 ^ k : Nat) : Int) = 10 ^ k := by norm_cast
  have hpow' : ((10 ^ (k + 1) : Nat) : Int) = 10 ^ (k + 1) := by norm_cast
  rw [formatD, Int32.toInt32_toUInt32]
  split
  · have hless : (atoi (widen szField)).toInt.natAbs < 10 ^ k := by omega
    have hpos : 0 < (atoi (widen szField)).toInt.natAbs := by omega
    rw [Nat.add_sub_cancel, padded_eq_fixed (by decide) hk hless]
    exact ⟨_, Or.inr ⟨_, hpos, hless, rfl⟩, rfl⟩
  · have hless : (atoi (widen szField)).toInt.natAbs < 10 ^ (k + 1) := by omega
    rw [padded_eq_fixed (by decide) (Nat.succ_ne_zero k) hless]
    exact ⟨_, Or.inl ⟨_, hless, rfl⟩, rfl⟩

theorem ascii_hex (n : Nat) : Ascii (fixed 16 8 n) :=
  ascii_fixed (by decide) (by decide) 8 n

theorem formatX_iff {szField : AString} :
    formatX 8 (strtol 16 (widen szField)).toUInt32 = szField ↔
      exists n, n < 2 ^ 31 ∧ szField = narrow (fixed 16 8 n) := by
  have hword : (2 : Nat) ^ 31 ≤ 16 ^ 8 := by decide
  constructor
  · intro h
    have hN : (strtol 16 (widen szField)).toUInt32.toNat < 16 ^ 8 :=
      (strtol 16 (widen szField)).toUInt32.toNat_lt
    rw [formatX, padded_eq_fixed (by decide) (by decide) hN] at h
    refine ⟨_, ?_, h.symm⟩
    have hread : (strtol 16 (widen szField)).toInt =
        min ((strtol 16 (widen szField)).toUInt32.toNat : Int) (2 ^ 31 - 1) := by
      conv => lhs; rw [← h]
      rw [widen_narrow (ascii_hex _), fixed,
        toInt_strtol_map (by decide) fun d => lt_of_mem_places (by decide),
        horner_places hN]
    have hnonnegative : (strtol 16 (widen szField)).toInt =
        ((strtol 16 (widen szField)).toInt.toNat : Int) := by omega
    have hnat := SignedWord.toNat_of_toInt hnonnegative
    omega
  · rintro ⟨n, hn, hfield⟩
    have hread := toInt_strtol_fixed (by decide) (by decide)
      (Nat.lt_of_lt_of_le hn hword) hn
    rw [hfield, widen_narrow (ascii_hex n), formatX, SignedWord.toNat_of_toInt hread,
      padded_eq_fixed (by decide) (by decide) (Nat.lt_of_lt_of_le hn hword)]

end

/-!
## Cards
-/

def cardOf (hour date : WString) (rand : Nat) : WString :=
  let text := hour ++ date ++ fixed 16 8 rand
  text ++ toStringX8 (getCrc makeTable text)

def WellFormed (card : WString) : Prop :=
  exists hour date rand, Digits 4 hour ∧ Digits 8 date ∧ rand < 2 ^ 31 ∧
    card = cardOf hour date rand

/-- A card whose hours or date have a minus sign, with a right check sum. -/
def Signed (card : WString) : Prop :=
  exists hour date rand, Field 4 hour ∧ Field 8 date ∧
    (Minus 4 hour ∨ Minus 8 date) ∧ rand < 2 ^ 31 ∧ card = cardOf hour date rand

def Shaped (card : WString) : Prop :=
  exists hour date rand, Field 4 hour ∧ Field 8 date ∧ rand < 2 ^ 31 ∧
    card = cardOf hour date rand

theorem toStringX8_eq (n : Int32) : toStringX8 n = fixed 16 8 n.toUInt32.toNat :=
  padded_eq_fixed (by decide) (by decide) n.toUInt32.toNat_lt

section

variable {hour date card : WString} {rand : Nat}

theorem ascii_text (hhour : Field 4 hour) (hdate : Field 8 date) :
    Ascii (hour ++ date ++ fixed 16 8 rand) :=
  (hhour.ascii.append hdate.ascii).append (ascii_hex rand)

theorem Shaped.ascii (h : Shaped card) : Ascii card := by
  rcases h with ⟨hour, date, rand, hhour, hdate, _, hcard⟩
  rw [hcard, cardOf, toStringX8_eq]
  exact (ascii_text hhour hdate).append (ascii_hex _)

theorem Shaped.length (h : Shaped card) : card.length = 28 := by
  rcases h with ⟨hour, date, rand, hhour, hdate, _, hcard⟩
  rw [hcard, cardOf, toStringX8_eq]
  simp only [List.length_append, length_fixed, hhour.length, hdate.length]

theorem shaped_iff : Shaped card ↔ WellFormed card ∨ Signed card := by
  constructor
  · rintro ⟨hour, date, rand, hhour, hdate, hrand, hcard⟩
    by_cases hsign : Minus 4 hour ∨ Minus 8 date
    · exact Or.inr ⟨hour, date, rand, hhour, hdate, hsign, hrand, hcard⟩
    · exact Or.inl ⟨hour, date, rand,
        hhour.resolve_right fun h => hsign (Or.inl h),
        hdate.resolve_right fun h => hsign (Or.inr h), hrand, hcard⟩
  · rintro (⟨hour, date, rand, hhour, hdate, hrand, hcard⟩ |
      ⟨hour, date, rand, hhour, hdate, _, hrand, hcard⟩)
    · exact ⟨hour, date, rand, Or.inl hhour, Or.inl hdate, hrand, hcard⟩
    · exact ⟨hour, date, rand, hhour, hdate, hrand, hcard⟩

theorem cardOf_fields {hour' date' : WString} {rand' : Nat} (hhour : Field 4 hour)
    (hdate : Field 8 date) (hhour' : Field 4 hour') (hdate' : Field 8 date')
    (h : cardOf hour date rand = cardOf hour' date' rand') :
    hour = hour' ∧ date = date' := by
  simp only [cardOf, List.append_assoc] at h
  rcases List.append_inj h (hhour.length.trans hhour'.length.symm) with ⟨heq, hrest⟩
  exact ⟨heq, (List.append_inj hrest (hdate.length.trans hdate'.length.symm)).left⟩

theorem WellFormed.not_signed (h : WellFormed card) : ¬ Signed card := by
  rintro ⟨hour', date', rand', hhour', hdate', hsign, _, hcard'⟩
  rcases h with ⟨hour, date, rand, hhour, hdate, _, hcard⟩
  rw [hcard] at hcard'
  rcases cardOf_fields (Or.inl hhour) (Or.inl hdate) hhour' hdate' hcard' with
    ⟨heq, heq'⟩
  rw [heq] at hhour
  rw [heq'] at hdate
  exact hsign.elim hhour.not_minus hdate.not_minus

end

/-!
## Which texts are accepted
-/

section

variable (T : CardTools)

theorem length_narrow (text : WString) : (narrow text).length = text.length :=
  List.length_map _

theorem length_formatX (n : DWORD) : (formatX 8 n).length = 8 := by
  have hn : n.toNat < 16 ^ 8 := n.toNat_lt
  rw [formatX, padded_eq_fixed (by decide) (by decide) hn, length_narrow, length_fixed]

theorem fields_of_append {a b c d szCard : AString} (h : a ++ b ++ c ++ d = szCard)
    (ha : a.length = 4) (hb : b.length = 8) (hc : c.length = 8) :
    szCard.take 4 = a ∧ (szCard.drop 4).take 8 = b ∧
      (szCard.drop (4 + 8)).take 8 = c := by
  have hab : (a ++ b).length = 4 + 8 := by rw [List.length_append, ha, hb]
  rw [← h]
  refine ⟨?_, ?_, ?_⟩
  · rw [List.append_assoc, List.append_assoc]
    exact List.take_left' ha
  · rw [List.append_assoc, List.append_assoc, List.drop_left' ha]
    exact List.take_left' hb
  · rw [List.append_assoc (a ++ b), List.drop_left' hab]
    exact List.take_left' hc

theorem formatX_getCRC32 {text : WString} (h : Ascii text) :
    formatX 8 (T.getCRC32_DWORD (narrow text)) =
      narrow (toStringX8 (getCrc makeTable text)) := by
  rw [T.getCRC32_DWORD_eq, ← asciiBytes_eq h, ← getCrc_eq]
  rfl

theorem rebuilt_eq {szCard : AString} {hour date : WString} {rand : Nat}
    (hhour : Field 4 hour) (hdate : Field 8 date)
    (hfirst : formatD 4 (fnGetHour T szCard) = narrow hour)
    (hsecond : formatD 8 (fnGetDate T szCard) = narrow date)
    (hthird : formatX 8 (fnGetRand T szCard) = narrow (fixed 16 8 rand)) :
    rebuilt T szCard = narrow (cardOf hour date rand) := by
  rw [rebuilt, hfirst, hsecond, hthird, ← narrow_append, ← narrow_append,
    formatX_getCRC32 T (ascii_text hhour hdate), ← narrow_append]
  rfl

theorem rebuilt_eq_iff (szCard : AString) :
    rebuilt T szCard = szCard ↔
      exists card, Shaped card ∧ szCard = narrow card := by
  constructor
  · intro h
    rcases formatD_isField (by decide : 3 ≠ 0) (List.length_take_le 4 szCard) with
      ⟨hour, hhour, hfirst⟩
    rcases formatD_isField (by decide : 7 ≠ 0) (List.length_take_le 8 (szCard.drop 4))
      with ⟨date, hdate, hsecond⟩
    rw [← T.strcpyMy_eq] at hfirst hsecond
    have hparts := h
    rw [rebuilt, fnGetHour, hfirst, fnGetDate, hsecond] at hparts
    have hfields := fields_of_append hparts ((length_narrow hour).trans hhour.length)
      ((length_narrow date).trans hdate.length) (length_formatX _)
    have hread : formatX 8 (fnGetRand T szCard) = (szCard.drop (4 + 8)).take 8 :=
      hfields.right.right.symm
    have hrand := hread
    rw [fnGetRand, T.strcpyMy_eq, formatX_iff] at hrand
    rcases hrand with ⟨rand, hrand, hthird⟩
    refine ⟨cardOf hour date rand, ⟨hour, date, rand, hhour, hdate, hrand, rfl⟩, ?_⟩
    rw [← rebuilt_eq T hhour hdate hfirst hsecond (hread.trans hthird), h]
  · rintro ⟨card, ⟨hour, date, rand, hhour, hdate, hrand, hcard⟩, hnarrow⟩
    have hparts : narrow hour ++ narrow date ++ narrow (fixed 16 8 rand) ++
        narrow (toStringX8 (getCrc makeTable (hour ++ date ++ fixed 16 8 rand))) =
          szCard := by
      rw [hnarrow, hcard, cardOf, narrow_append, narrow_append, narrow_append]
    rcases fields_of_append hparts ((length_narrow hour).trans hhour.length)
      ((length_narrow date).trans hdate.length)
      ((length_narrow _).trans (length_fixed 16 8 rand)) with ⟨hfirst, hsecond, hthird⟩
    apply Eq.trans _ (hnarrow.trans (congrArg narrow hcard)).symm
    apply rebuilt_eq T hhour hdate
    · rw [fnGetHour, T.strcpyMy_eq, hfirst]
      exact formatD_field (by decide) hhour
    · rw [fnGetDate, T.strcpyMy_eq, hsecond]
      exact formatD_field (by decide) hdate
    · rw [fnGetRand, T.strcpyMy_eq, hthird]
      exact formatX_iff.mpr ⟨rand, hrand, rfl⟩

/-- A text of 28 characters that is taken for another card. -/
def Mistaken (text : WString) : Prop :=
  text.length = 0x1C ∧
    exists card, Shaped card ∧ card ≠ text ∧
      T.unicodeToASCII text = T.unicodeToASCII card

theorem checkCard_accepts_iff (pwszCardNo : WString) :
    checkCard T pwszCardNo = 1 ↔
      Shaped (cStr pwszCardNo) ∨ Mistaken T (cStr pwszCardNo) := by
  have hconverted : forall {card}, Shaped card -> T.unicodeToASCII card = narrow card :=
    fun h => T.unicodeToASCII_ascii _ h.ascii
  unfold checkCard
  by_cases hlength : (cStr pwszCardNo).length = 0x1C
  · have hflag : forall b : Bool, (if b then (1 : INT) else 0) = 1 ↔ b = true := by
      decide
    rw [if_neg (not_not_intro hlength), hflag, T.strcmpMy_eq, decide_eq_true_iff,
      rebuilt_eq_iff]
    constructor
    · rintro ⟨card, hcard, hbytes⟩
      by_cases hsame : card = cStr pwszCardNo
      · rw [hsame] at hcard
        exact Or.inl hcard
      · exact Or.inr ⟨hlength, card, hcard, hsame,
          hbytes.trans (hconverted hcard).symm⟩
    · rintro (hshaped | ⟨_, card, hcard, _, hbytes⟩)
      · exact ⟨_, hshaped, hconverted hshaped⟩
      · exact ⟨card, hcard, hbytes.trans (hconverted hcard)⟩
  · rw [if_pos hlength]
    apply iff_of_false (by decide)
    rintro (hshaped | hmistaken)
    · exact hlength hshaped.length
    · exact hlength hmistaken.left

/--
`CheckCard` accepts just what the program makes, except for cards with a minus sign
and for texts that are no ASCII and are converted to the bytes of a card.
-/
theorem checkCard_wellFormed_iff (pwszCardNo : WString) :
    (checkCard T pwszCardNo = 1 ↔ WellFormed (cStr pwszCardNo)) ↔
      ¬ Signed (cStr pwszCardNo) ∧ ¬ Mistaken T (cStr pwszCardNo) := by
  have hmistaken : Mistaken T (cStr pwszCardNo) -> ¬ Shaped (cStr pwszCardNo) := by
    rintro ⟨_, card, hcard, hne, hbytes⟩ hshaped
    rw [T.unicodeToASCII_ascii _ hshaped.ascii, T.unicodeToASCII_ascii _ hcard.ascii]
      at hbytes
    exact hne (narrow_injective hcard.ascii hshaped.ascii hbytes.symm)
  rw [checkCard_accepts_iff, shaped_iff]
  rw [shaped_iff] at hmistaken
  have hsigned : WellFormed (cStr pwszCardNo) -> ¬ Signed (cStr pwszCardNo) :=
    WellFormed.not_signed
  tauto

end

/-!
## What the program makes
-/

theorem toStringD_eq {w n : Nat} (hw : w ≠ 0) (hn : n < 10 ^ w) :
    toStringD w n = fixed 10 w n := by
  rw [toStringD, if_neg (Int.not_lt.mpr (Int.natCast_nonneg n)), Int.natAbs_natCast,
    padded_eq_fixed (by decide) hw hn]

theorem date_digits (draw : Draw) :
    Digits 8 (toStringD 4 draw.year ++ toStringD 2 draw.month ++
      toStringD 2 draw.day) := by
  have hyear := draw.year_lt
  have hmonth := draw.month_lt
  have hday := draw.day_lt
  rw [toStringD_eq (by decide) hyear, toStringD_eq (by decide) hmonth,
    toStringD_eq (by decide) hday, fixed_append (by decide) hmonth,
    fixed_append (by decide) hday]
  exact ⟨_, by omega, rfl⟩

theorem newCard_wellFormed {nHour : Nat} (h : nHour < 10 ^ 4) (draw : Draw) :
    WellFormed (newCard makeTable nHour draw) := by
  have hnext := draw.next_lt
  have hint : (Int32.ofNat draw.next).toUInt32.toNat = draw.next :=
    UInt32.toNat_ofNat_of_lt' (Nat.lt_trans hnext (by decide))
  refine ⟨fixed 10 4 nHour, _, draw.next, ⟨nHour, h, rfl⟩, date_digits draw,
    by omega, ?_⟩
  simp only [newCard, CreateCard.cardText, cardOf, toStringX8_eq, hint,
    toStringD_eq (by decide) h, List.append_assoc]

theorem checkCard_newCard (T : CardTools) {nHour : Nat} (h : nHour < 10 ^ 4)
    (draw : Draw) : checkCard T (newCard makeTable nHour draw) = 1 := by
  have hshaped : Shaped (newCard makeTable nHour draw) :=
    shaped_iff.mpr (Or.inl (newCard_wellFormed h draw))
  have hwhole : cStr (newCard makeTable nHour draw) = newCard makeTable nHour draw := by
    apply List.takeWhile_eq_self_iff.mpr
    intro c hc
    exact decide_eq_true (UInt16.ne_of_lt (hshaped.ascii c hc).left).symm
  rw [checkCard_accepts_iff, hwhole]
  exact Or.inl hshaped

def minusCard : WString :=
  L "-0012017050901234ABC0DD78211"

theorem minusCard_accepted :
    checkCard CardTools.standard minusCard = 1 ∧ ¬ WellFormed minusCard := by
  have hsigned : Signed minusCard :=
    ⟨L "-001", L "20170509", 0x1234ABC, Or.inr ⟨1, by decide, by decide, by decide⟩,
      Or.inl ⟨20170509, by decide, by decide⟩,
      Or.inl ⟨1, by decide, by decide, by decide⟩, by decide, by decide +kernel⟩
  exact ⟨by decide +kernel, fun h => h.not_signed hsigned⟩

end Console
end BnsKorea
