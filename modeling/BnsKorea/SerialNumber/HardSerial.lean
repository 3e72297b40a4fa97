import Mathlib.Data.List.TakeWhile
import BnsKorea.Common.ServerCommon
import BnsKorea.Library.Bytes

/-!
# The serial number of the disk

The hooked `DeviceIoControl` lets the real one answer and writes another serial
number into the sector of 256 words that identifies the disk.  A text stands in
such a sector with the first of two characters in the high byte of a word.
-/

namespace BnsKorea
namespace SerialNumber

open Library

abbrev USHORT := UInt16

/-- The identification sector behind the head of `SENDCMDOUTPARAMS`. -/
structure IdSector where
  words : List USHORT
  length_words : words.length = 256

/-- `isspace` for a character of the text. -/
def isSpace (c : BYTE) : Bool :=
  c == 0x20 || (0x09 ≤ c && c ≤ 0x0D)

def wordChars (w : USHORT) : List BYTE :=
  [(w / 256).toUInt8, (w % 256).toUInt8]

/-- The characters of the words from `first_index` to `last_index`. -/
def sectorChars (words : List USHORT) (first_index last_index : Nat) : List BYTE :=
  ((words.drop first_index).take (last_index + 1 - first_index)).flatMap wordChars

/-- The loop that overwrites blanks from the end on; the first character stays. -/
def trimBlanks : List BYTE -> List BYTE
  | [] => []
  | c :: cs => c :: (cs.reverse.dropWhile isSpace).reverse

/-- `fn_ConvertToString`, and what a `std::string` takes of the buffer. -/
def convertToString (words : List USHORT) (first_index last_index : Nat) : List BYTE :=
  (trimBlanks (sectorChars words first_index last_index)).takeWhile fun c => c != 0

structure IdeInfo where
  serial_num : List BYTE
  model_num : List BYTE
  revision_num : List BYTE
deriving DecidableEq

/-- `fn_retrieve_ide_info` -/
def retrieveIdeInfo (sector : IdSector) : IdeInfo where
  serial_num := convertToString sector.words 10 19
  model_num := convertToString sector.words 27 46
  revision_num := convertToString sector.words 23 26

/-- `RetrieveIdeInfoByIoControlData`: `FALSE` for a buffer of another size. -/
def retrieveIdeInfoByIoControlData (sector : IdSector) (dwSize : DWORD) :
    Option IdeInfo :=
  if dwSize ≠ 0x210 then none else some (retrieveIdeInfo sector)

def putChars (w : USHORT) : List BYTE -> USHORT
  | [] => w
  | [c] => c.toUInt16 * 256 + w % 256
  | c :: d :: _ => c.toUInt16 * 256 + d.toUInt16

/--
The loop of `ChangeHeadInfoDataToNewString` over words, with the characters that
are left.  For an empty text the test of the source never stops the loop.
-/
def changeWords : List USHORT -> List BYTE -> List USHORT
  | w :: words, c :: d :: cs => putChars w [c, d] :: changeWords words cs
  | w :: words, cs => putChars w cs :: words
  | [], _ => []

/-- `ChangeHeadInfoDataToNewString` -/
def changeHeadInfoDataToNewString (words : List USHORT) (first_index last_index : Nat)
    (new_str : List BYTE) : List USHORT :=
  words.take first_index ++
    changeWords ((words.drop first_index).take (last_index + 1 - first_index))
      new_str ++
    words.drop (last_index + 1)

theorem length_changeWords (words : List USHORT) (cs : List BYTE) :
    (changeWords words cs).length = words.length := by
  induction words, cs using changeWords.induct with
  | case1 w words c d cs ih => simp [changeWords, ih]
  | case2 w words cs hshort =>
      cases cs with
      | nil => simp [changeWords]
      | cons c cs =>
          cases cs with
          | nil => simp [changeWords]
          | cons d cs => exact absurd rfl (hshort c d cs)
  | case3 cs => simp [changeWords]

theorem length_changedSerial (sector : IdSector) (new_str : List BYTE) :
    (changeHeadInfoDataToNewString sector.words 10 19 new_str).length = 256 := by
  simp [changeHeadInfoDataToNewString, length_changeWords, sector.length_words]

/-- `ReplaceHdSerialInfo`; an empty text is read behind its end. -/
def replaceHdSerialInfo (sector : IdSector) (my_hd_serial : List BYTE) :
    Option IdSector :=
  if my_hd_serial = [] then none
  else some ⟨changeHeadInfoDataToNewString sector.words 10 19 my_hd_serial,
    length_changedSerial sector my_hd_serial⟩

def SMART_RCV_DRIVE_DATA : DWORD := 0x0007C088

/-- What the real `DeviceIoControl` answers. -/
structure IoAnswer where
  api_ret : Bool
  lpOutBuffer : IdSector
  bytesReturned : DWORD

/-- `My_DeviceIoControl`, behind the call of the real one. -/
def myDeviceIoControl (dwIoControlCode : DWORD) (my_hd_serial : List BYTE)
    (real : IoAnswer) : Option IoAnswer :=
  if real.api_ret = false then some real
  else if dwIoControlCode = SMART_RCV_DRIVE_DATA then
    match retrieveIdeInfoByIoControlData real.lpOutBuffer real.bytesReturned with
    | none => some real
    | some _ => (replaceHdSerialInfo real.lpOutBuffer my_hd_serial).map fun sector =>
        { real with lpOutBuffer := sector }
  else some real

/-!
## What the words hold after the change
-/

def overwrite (old new : List BYTE) : List BYTE :=
  new.take old.length ++ old.drop new.length

theorem wordChars_putChars_two (w : USHORT) (c d : BYTE) (cs : List BYTE) :
    wordChars (putChars w (c :: d :: cs)) = [c, d] := by
  have hc := c.toNat_lt
  have hd := d.toNat_lt
  simp only [putChars, wordChars, List.cons.injEq, and_true]
  constructor
  · apply UInt8.toNat_inj.mp
    simp
    omega
  · apply UInt8.toNat_inj.mp
    simp

theorem wordChars_putChars_one (w : USHORT) (c : BYTE) :
    wordChars (putChars w [c]) = [c, (w % 256).toUInt8] := by
  have hc := c.toNat_lt
  simp only [putChars, wordChars, List.cons.injEq, and_true]
  constructor
  · apply UInt8.toNat_inj.mp
    simp
    omega
  · apply UInt8.toNat_inj.mp
    simp

@[simp] theorem overwrite_nil (old : List BYTE) : overwrite old [] = old := by
  simp [overwrite]

@[simp] theorem nil_overwrite (new : List BYTE) : overwrite [] new = [] := by
  simp [overwrite]

@[simp] theorem cons_overwrite_cons (a b : BYTE) (old new : List BYTE) :
    overwrite (a :: old) (b :: new) = b :: overwrite old new := by
  simp [overwrite]

theorem flatMap_changeWords (words : List USHORT) (cs : List BYTE) :
    (changeWords words cs).flatMap wordChars =
      overwrite (words.flatMap wordChars) cs := by
  induction words, cs using changeWords.induct with
  | case1 w words c d cs ih =>
      rw [changeWords, List.flatMap_cons, wordChars_putChars_two, ih]
      simp [wordChars]
  | case2 w words cs hshort =>
      cases cs with
      | nil => simp [changeWords, putChars]
      | cons c cs =>
          cases cs with
          | nil =>
              rw [changeWords, List.flatMap_cons, wordChars_putChars_one]
              · simp [wordChars]
              · exact hshort
          | cons d cs => exact absurd rfl (hshort c d cs)
  | case3 cs => simp [changeWords]

theorem length_flatMap_wordChars (words : List USHORT) :
    (words.flatMap wordChars).length = 2 * words.length := by
  induction words with
  | nil => rfl
  | cons w words ih =>
      rw [List.flatMap_cons, List.length_append, ih]
      simp [wordChars]
      omega

theorem overwrite_overwrite (old new : List BYTE) :
    overwrite (overwrite old new) new = overwrite old new := by
  induction old generalizing new with
  | nil => simp
  | cons a old ih =>
      cases new with
      | nil => simp
      | cons b new => simp [ih]

theorem wordChars_inj {w v : USHORT} (h : wordChars w = wordChars v) : w = v := by
  have hw := w.toNat_lt
  have hv := v.toNat_lt
  simp only [wordChars, List.cons.injEq, and_true] at h
  have hhigh := congrArg UInt8.toNat h.1
  have hlow := congrArg UInt8.toNat h.2
  simp at hhigh hlow
  apply UInt16.toNat_inj.mp
  omega

theorem flatMap_wordChars_inj {ws vs : List USHORT}
    (h : ws.flatMap wordChars = vs.flatMap wordChars) : ws = vs := by
  induction ws generalizing vs with
  | nil =>
      cases vs with
      | nil => rfl
      | cons v vs => simp [wordChars] at h
  | cons w ws ih =>
      cases vs with
      | nil => simp [wordChars] at h
      | cons v vs =>
          rw [List.flatMap_cons, List.flatMap_cons] at h
          rcases List.append_inj h (by simp [wordChars]) with ⟨hhead, htail⟩
          rw [wordChars_inj hhead, ih htail]

theorem changeWords_changeWords (words : List USHORT) (cs : List BYTE) :
    changeWords (changeWords words cs) cs = changeWords words cs := by
  apply flatMap_wordChars_inj
  rw [flatMap_changeWords, flatMap_changeWords, overwrite_overwrite]

section

variable (sector : IdSector) (serial : List BYTE)

def serialWords (sector : IdSector) : List USHORT :=
  (sector.words.drop 10).take 10

def withSerial (sector : IdSector) (serial : List BYTE) : IdSector where
  words := changeHeadInfoDataToNewString sector.words 10 19 serial
  length_words := length_changedSerial sector serial

theorem withSerial_words : (withSerial sector serial).words =
    sector.words.take 10 ++ (changeWords (serialWords sector) serial ++
      sector.words.drop 20) :=
  List.append_assoc _ _ _

theorem length_serialWords : (serialWords sector).length = 10 := by
  simp [serialWords, sector.length_words]

theorem take_withSerial : (withSerial sector serial).words.take 10 =
    sector.words.take 10 := by
  rw [withSerial_words, List.take_left' (by simp [sector.length_words])]

theorem drop_withSerial {n : Nat} (hn : 20 ≤ n) :
    (withSerial sector serial).words.drop n = sector.words.drop n := by
  have hlength : (sector.words.take 10 ++
      changeWords (serialWords sector) serial).length = 20 := by
    simp [length_changeWords, length_serialWords, sector.length_words]
  rw [withSerial_words, ← List.append_assoc, List.drop_append, hlength,
    List.drop_eq_nil_of_le (by omega), List.nil_append, List.drop_drop,
    Nat.add_sub_cancel' hn]

theorem serialWords_withSerial : serialWords (withSerial sector serial) =
    changeWords (serialWords sector) serial := by
  rw [serialWords, withSerial_words, List.drop_left' (by simp [sector.length_words]),
    List.take_left' (by rw [length_changeWords, length_serialWords])]

def textOf (chars : List BYTE) : List BYTE :=
  (trimBlanks chars).takeWhile fun c => c != 0

theorem retrieveIdeInfo_withSerial : retrieveIdeInfo (withSerial sector serial) =
    { retrieveIdeInfo sector with
      serial_num :=
        textOf (overwrite ((serialWords sector).flatMap wordChars) serial) } := by
  have hserial : sectorChars (withSerial sector serial).words 10 19 =
      overwrite ((serialWords sector).flatMap wordChars) serial := by
    rw [← flatMap_changeWords, ← serialWords_withSerial]
    rfl
  have hmodel : sectorChars (withSerial sector serial).words 27 46 =
      sectorChars sector.words 27 46 := by
    rw [sectorChars, drop_withSerial _ _ (by omega)]
    rfl
  have hrevision : sectorChars (withSerial sector serial).words 23 26 =
      sectorChars sector.words 23 26 := by
    rw [sectorChars, drop_withSerial _ _ (by omega)]
    rfl
  simp only [retrieveIdeInfo, convertToString, hserial, hmodel, hrevision, textOf]

theorem withSerial_withSerial :
    withSerial (withSerial sector serial) serial = withSerial sector serial := by
  have hwords : (withSerial (withSerial sector serial) serial).words =
      (withSerial sector serial).words := by
    rw [withSerial_words, serialWords_withSerial, changeWords_changeWords,
      take_withSerial, drop_withSerial _ _ (Nat.le_refl 20), ← withSerial_words]
  cases hone : withSerial (withSerial sector serial) serial
  cases htwo : withSerial sector serial
  rw [hone, htwo] at hwords
  simpa using hwords

end

/-!
## When the game reads the new number
-/

theorem dropWhile_eq_self {cs : List BYTE} (h : forall c, cs.head? = some c ->
    isSpace c = false) : cs.dropWhile isSpace = cs := by
  cases cs with
  | nil => rfl
  | cons c cs => rw [List.dropWhile_cons_of_neg (by simp [h c rfl])]

/--
With only blanks behind it a text stays as it is, unless more than its first
character is there and the last one is a blank.
-/
theorem trimBlanks_append_blanks_iff {serial tail : List BYTE} (hne : serial ≠ [])
    (htail : forall c, c ∈ tail -> isSpace c = true) :
    trimBlanks (serial ++ tail) = serial ↔
      forall c, serial.tail.getLast? = some c -> isSpace c = false := by
  cases serial with
  | nil => exact absurd rfl hne
  | cons c cs =>
      have hblanks : (tail.reverse ++ cs.reverse).dropWhile isSpace =
          cs.reverse.dropWhile isSpace :=
        List.dropWhile_append_of_pos (by simpa using htail)
      rw [List.cons_append, trimBlanks, List.reverse_append, hblanks, List.tail_cons,
        List.cons.injEq, and_iff_right rfl, ← List.head?_reverse, List.reverse_eq_iff]
      constructor
      · intro hself d hd
        cases hcs : cs.reverse with
        | nil =>
            rw [hcs] at hd
            cases hd
        | cons e es =>
            rw [hcs] at hd hself
            have hlast : ¬ isSpace e = true := by
              intro hspace
              rw [List.dropWhile_cons_of_pos hspace] at hself
              have hlength := (List.dropWhile_suffix isSpace (l := es)).length_le
              rw [hself, List.length_cons] at hlength
              omega
            rw [List.head?_cons, Option.some.injEq] at hd
            rw [← hd]
            simpa using hlast
      · exact dropWhile_eq_self

theorem trimBlanks_append {serial tail : List BYTE} (hne : serial ≠ []) {d : BYTE}
    (hd : d ∈ tail) (hspace : isSpace d = false) :
    exists rest, rest ≠ [] ∧ rest <+: tail ∧
      trimBlanks (serial ++ tail) = serial ++ rest := by
  cases serial with
  | nil => exact absurd rfl hne
  | cons c cs =>
      refine ⟨(tail.reverse.dropWhile isSpace).reverse, ?_, ?_, ?_⟩
      · intro hnil
        rw [List.reverse_eq_nil_iff, List.dropWhile_eq_nil_iff] at hnil
        have hall := hnil d (List.mem_reverse.mpr hd)
        rw [hspace] at hall
        cases hall
      · rw [← List.reverse_suffix, List.reverse_reverse]
        exact List.dropWhile_suffix _
      · have hsome : (tail.reverse.dropWhile isSpace).isEmpty = false := by
          rw [List.isEmpty_eq_false_iff]
          intro hnil
          have hall := List.dropWhile_eq_nil_iff.mp hnil d (List.mem_reverse.mpr hd)
          rw [hspace] at hall
          cases hall
        rw [List.cons_append, trimBlanks, List.reverse_append, List.dropWhile_append,
          hsome]
        simp

theorem ne_zero_of_mem_textOf {chars : List BYTE} {c : BYTE} (h : c ∈ textOf chars) :
    c ≠ 0 := by
  simpa using List.mem_takeWhile_imp h

theorem trimBlanks_sublist (chars : List BYTE) :
    List.Sublist (trimBlanks chars) chars := by
  cases chars with
  | nil => exact List.Sublist.refl []
  | cons c cs =>
      have hsub := (List.dropWhile_sublist isSpace (l := cs.reverse)).reverse
      rw [List.reverse_reverse] at hsub
      exact hsub.cons_cons c

theorem length_textOf_le (chars : List BYTE) : (textOf chars).length ≤ chars.length :=
  Nat.le_trans (List.takeWhile_sublist _).length_le (trimBlanks_sublist chars).length_le

/--
What stands behind a text is cut off where a null begins it, and where it is blank
and the text, but for its first character, does not end in a blank itself.
-/
def EndsTheText (serial tail : List BYTE) : Prop :=
  tail.head? = some 0 ∨
    (forall c, c ∈ tail -> isSpace c = true) ∧
      forall c, serial.tail.getLast? = some c -> isSpace c = false

theorem textOf_append_eq_iff {serial tail : List BYTE} (hne : serial ≠ [])
    (hnull : forall c, c ∈ serial -> c ≠ 0) :
    textOf (serial ++ tail) = serial ↔ EndsTheText serial tail := by
  have hserial : forall rest : List BYTE,
      (serial ++ rest).takeWhile (fun c => c != 0) =
        serial ++ rest.takeWhile fun c => c != 0 := by
    intro rest
    exact List.takeWhile_append_of_pos (by simpa using hnull)
  by_cases hblank : forall c, c ∈ tail -> isSpace c = true
  · have hzero : ¬ tail.head? = some 0 := by
      intro hhead
      have hspace := hblank 0 (List.mem_of_head? hhead)
      cases hspace
    have hchars : forall c, c ∈ trimBlanks (serial ++ tail) -> c ≠ 0 := by
      intro c hc
      have hmem := List.mem_append.mp ((trimBlanks_sublist _).subset hc)
      rcases hmem with hin | hin
      · exact hnull c hin
      · intro hc0
        rw [hc0] at hin
        cases hblank 0 hin
    have hall : textOf (serial ++ tail) = trimBlanks (serial ++ tail) :=
      List.takeWhile_eq_self_iff.mpr (by simpa using hchars)
    rw [hall, trimBlanks_append_blanks_iff hne hblank]
    simp only [EndsTheText, hzero, false_or]
    exact ⟨fun hlast => ⟨hblank, hlast⟩, And.right⟩
  · have hsome : exists d, d ∈ tail ∧ isSpace d = false := by
      simpa using hblank
    rcases hsome with ⟨d, hd, hspace⟩
    rcases trimBlanks_append hne hd hspace with ⟨rest, hrest, hbeginning, htrim⟩
    have hhead : tail.head? = rest.head? := by
      rcases hbeginning with ⟨more, rfl⟩
      cases rest with
      | nil => exact absurd rfl hrest
      | cons c cs => rfl
    have htext : textOf (serial ++ tail) =
        serial ++ rest.takeWhile fun c => c != 0 := by
      rw [textOf, htrim, hserial]
    rw [htext]
    cases rest with
    | nil => exact absurd rfl hrest
    | cons c cs =>
        by_cases hc : c = 0
        · simp [EndsTheText, hhead, hc]
        · simp [EndsTheText, hhead, hc, hblank]

theorem textOf_overwrite_eq_iff {old serial : List BYTE} (hne : serial ≠ []) :
    textOf (overwrite old serial) = serial ↔
      serial.length ≤ old.length ∧ (forall c, c ∈ serial -> c ≠ 0) ∧
        EndsTheText serial (old.drop serial.length) := by
  constructor
  · intro hread
    have hnull : forall c, c ∈ serial -> c ≠ 0 := by
      intro c hc
      rw [← hread] at hc
      exact ne_zero_of_mem_textOf hc
    have hfits : serial.length ≤ old.length := by
      have hle := length_textOf_le (overwrite old serial)
      rw [hread, overwrite, List.length_append, List.length_take,
        List.length_drop] at hle
      omega
    rw [overwrite, List.take_of_length_le hfits, textOf_append_eq_iff hne hnull] at hread
    exact ⟨hfits, hnull, hread⟩
  · rintro ⟨hfits, hnull, hrest⟩
    rw [overwrite, List.take_of_length_le hfits, textOf_append_eq_iff hne hnull]
    exact hrest

/-!
## The hooked call
-/

/--
Where the real `DeviceIoControl` hands out the sector, the hooked one hands out
the sector with other words 10 to 19 alone.  The game reads the same model and
revision, and as serial number the new text with the rest of the old one behind
it.  It reads exactly the new text where that has no null, fits into the ten words
and is followed by a null, or by blanks alone behind a text that ends in no blank.
-/
theorem myDeviceIoControl_serial {real : IoAnswer} {serial : List BYTE}
    (hret : real.api_ret = true) (hsize : real.bytesReturned = 0x210)
    (hserial : serial ≠ []) :
    exists sector,
      myDeviceIoControl SMART_RCV_DRIVE_DATA serial real =
          some { real with lpOutBuffer := sector } ∧
        retrieveIdeInfo sector =
          { retrieveIdeInfo real.lpOutBuffer with
            serial_num := textOf
              (overwrite (sectorChars real.lpOutBuffer.words 10 19) serial) } ∧
        (forall i, i < 10 ∨ 20 ≤ i ->
          sector.words[i]? = real.lpOutBuffer.words[i]?) ∧
        ((retrieveIdeInfo sector).serial_num = serial ↔
          serial.length ≤ 20 ∧ (forall c, c ∈ serial -> c ≠ 0) ∧
            EndsTheText serial
              ((sectorChars real.lpOutBuffer.words 10 19).drop serial.length)) ∧
        myDeviceIoControl SMART_RCV_DRIVE_DATA serial
            { real with lpOutBuffer := sector } =
          some { real with lpOutBuffer := sector } := by
  have hcall : forall sector, myDeviceIoControl SMART_RCV_DRIVE_DATA serial
      { real with lpOutBuffer := sector } =
        some { real with lpOutBuffer := withSerial sector serial } := by
    intro sector
    have hnot : ¬ real.api_ret = false := by simp [hret]
    simp [myDeviceIoControl, hnot, retrieveIdeInfoByIoControlData, hsize,
      replaceHdSerialInfo, hserial, withSerial]
  have hlength : (sectorChars real.lpOutBuffer.words 10 19).length = 20 := by
    show ((serialWords real.lpOutBuffer).flatMap wordChars).length = 20
    rw [length_flatMap_wordChars, length_serialWords]
  refine ⟨withSerial real.lpOutBuffer serial, hcall real.lpOutBuffer,
    retrieveIdeInfo_withSerial _ _, ?_, ?_, ?_⟩
  · intro i hi
    rcases hi with hlow | hhigh
    · rw [← List.getElem?_take_of_lt hlow, take_withSerial,
        List.getElem?_take_of_lt hlow]
    · have hdrop := congrArg (fun ws => ws[i - 20]?)
        (drop_withSerial real.lpOutBuffer serial (Nat.le_refl 20))
      simpa [Nat.add_sub_cancel' hhigh] using hdrop
  · rw [retrieveIdeInfo_withSerial, ← hlength]
    exact textOf_overwrite_eq_iff hserial
  · rw [hcall, withSerial_withSerial]

def blankSector : IdSector where
  words := List.replicate 256 0x2020
  length_words := List.length_replicate

theorem blankSector_serial :
    exists sector,
      myDeviceIoControl SMART_RCV_DRIVE_DATA [0x41, 0x42] ⟨true, blankSector, 0x210⟩ =
          some ⟨true, sector, 0x210⟩ ∧
        retrieveIdeInfo sector =
          { retrieveIdeInfo blankSector with
            serial_num := textOf
              (overwrite (sectorChars blankSector.words 10 19) [0x41, 0x42]) } ∧
        (forall i, i < 10 ∨ 20 ≤ i -> sector.words[i]? = blankSector.words[i]?) ∧
        ((retrieveIdeInfo sector).serial_num = [0x41, 0x42] ↔
          [0x41, 0x42].length ≤ 20 ∧ (forall c : BYTE, c ∈ [0x41, 0x42] -> c ≠ 0) ∧
            EndsTheText [0x41, 0x42] ((sectorChars blankSector.words 10 19).drop 2)) ∧
        myDeviceIoControl SMART_RCV_DRIVE_DATA [0x41, 0x42] ⟨true, sector, 0x210⟩ =
          some ⟨true, sector, 0x210⟩ :=
  @myDeviceIoControl_serial ⟨true, blankSector, 0x210⟩ _ rfl rfl
    (List.cons_ne_nil _ _)

end SerialNumber
end BnsKorea
