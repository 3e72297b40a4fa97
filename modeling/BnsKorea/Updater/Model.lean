import Mathlib.Data.List.Infix
import BnsKorea.Library.Bytes
import BnsKorea.Library.Printf
import BnsKorea.Common.ServerCommon

/-!
# The update programs

`ConsoleFileServer` lists the compressed files of a directory in the profile
`UpdateList.inf`.  `ConsoleFileClient` fetches that list, compares it with the
one that its last update left in `tmpDownload`, and gets what is listed with
another sum.

File names are taken as they are written.
-/

namespace BnsKorea
namespace Updater

open Library

abbrev Content := List UInt8

/-- `IndexOf(part) != -1`. -/
def Contains (name part : WString) : Prop :=
  part <:+: name

instance (name part : WString) : Decidable (Contains name part) :=
  inferInstanceAs (Decidable (part <:+: name))

/-- The name ends in `.gz`. -/
def Compressed (name : WString) : Prop :=
  L ".gz" <:+ name

instance (name : WString) : Decidable (Compressed name) :=
  inferInstanceAs (Decidable (L ".gz" <:+ name))

theorem Compressed.contains {name : WString} (h : Compressed name) :
    Contains name (L ".gz") :=
  h.isInfix

/-- `FullName.Remove(FullName.Length - Extension.Length)`. -/
def removeExtension (name : WString) : WString :=
  if 46 ∈ name then ((name.reverse.dropWhile (· ≠ 46)).drop 1).reverse else name

def clientVersion : WString := L "1.01"

structure FileInfo where
  Name : WString
  content : Content
  /-- The attribute. -/
  Hidden : Bool := false
deriving DecidableEq

/-!
## Profiles
-/

/-- The keys of the section `Config`. -/
inductive Key where
  | lock
  | fileVersion
  | leastFileVersion
  | consoleFileClientVersion
  | fileCount
  | file (n : Nat)
  | fileMd5 (n : Nat)
deriving DecidableEq

/-- The values of a profile; a profile that is not there has none. -/
abbrev Profile := Key -> Option WString

/-- `WritePrivateProfileString`. -/
def Profile.write (profile : Profile) (key : Key) (val : WString) : Profile :=
  Function.update profile key (some val)

theorem Profile.write_same (profile : Profile) (key : Key) (val : WString) :
    profile.write key val key = some val := by
  rw [Profile.write, Function.update_self]

/--
What the programs use of their platform.  The fields that are equations state
what they rely on.
-/
structure Platform where
  /-- What comes back of a value in a buffer of 64 characters. -/
  profileString : WString -> WString
  /-- `GetMD5HashFromFile`: 32 hexadecimal digits. -/
  md5 : Content -> WString
  gzip : Content -> Content
  /-- Without a value where `CopyTo` throws. -/
  gunzip : Content -> Option Content
  profileString_number : forall n, n < 2 ^ 31 ->
    profileString (Printf.numeral 10 n) = Printf.numeral 10 n
  profileString_md5 : forall content, profileString (md5 content) = md5 content
  gunzip_gzip : forall content, gunzip (gzip content) = some content

namespace Platform

/-- The one compressed file that `standard` knows as it is. -/
def gzipOfA : Content :=
  [0x1f, 0x8b, 0x08, 0x00, 0x00, 0x00, 0x00, 0x00, 0x04, 0x00, 0x4b, 0x04, 0x00,
    0x43, 0xbe, 0xb7, 0xe8, 0x01, 0x00, 0x00, 0x00]

/--
A platform that is right about values without blanks and quotation marks, and
about the file whose only byte is `a`, compressed and not.
-/
def standard : Platform where
  profileString value := value.take 63
  md5 content :=
    if content = [97] then L "0cc175b9c0f1b6a831c399e269772661"
    else if content = gzipOfA then L "1d92e2485ac1e211413230d0de3d4ed1"
    else L "d41d8cd98f00b204e9800998ecf8427e"
  gzip content := if content = [97] then gzipOfA else 0 :: content
  gunzip content :=
    if content = gzipOfA then some [97]
    else if content.head? = some 0 then some content.tail
    else none
  profileString_number n hn := by
    apply List.take_of_length_le
    have hlength : (Printf.numeral 10 n).length ≤ 9 + 1 :=
      Printf.length_numeral_le (by decide) (Nat.lt_trans hn (by decide))
    exact Nat.le_trans hlength (by decide)
  profileString_md5 content := by
    split
    · decide
    · split
      · decide
      · decide
  gunzip_gzip content := by
    by_cases hcontent : content = [97]
    · rw [if_pos hcontent, if_pos rfl, hcontent]
    · have hne : (0 :: content : Content) ≠ gzipOfA := by
        intro h
        exact absurd (List.cons.inj h).left (by decide)
      rw [if_neg hcontent, if_neg hne]
      rfl

end Platform

section

variable (P : Platform)

/-- `GetPrivateProfileString` with the default `0`. -/
def getValue (profile : Profile) (strKey : Key) : WString :=
  P.profileString ((profile strKey).getD (L "0"))

/-- White space as `int.Parse` skips it. -/
def Blank (c : UInt16) : Prop :=
  c = 32 ∨ (9 ≤ c ∧ c ≤ 13)

instance (c : UInt16) : Decidable (Blank c) :=
  inferInstanceAs (Decidable (_ ∨ _))

def trim (text : WString) : WString :=
  ((text.dropWhile fun c => Blank c).reverse.dropWhile fun c => Blank c).reverse

def IsDecimal (digits : WString) : Prop :=
  digits ≠ [] ∧ forall c, c ∈ digits -> 48 ≤ c ∧ c ≤ 57

instance (digits : WString) : Decidable (IsDecimal digits) :=
  @instDecidableAnd _ _ (inferInstanceAs (Decidable (digits ≠ [])))
    (List.decidableBAll (fun c => 48 ≤ c ∧ c ≤ 57) digits)

/-- `int.Parse`, without a value where it throws. -/
def intParse (text : WString) : Option Int :=
  match trim text with
  | 45 :: digits =>
      if IsDecimal digits ∧ Printf.valueOf 10 digits ≤ 2 ^ 31 then
        some (-Printf.valueOf 10 digits)
      else none
  | 43 :: digits =>
      if IsDecimal digits ∧ Printf.valueOf 10 digits < 2 ^ 31 then
        some (Printf.valueOf 10 digits)
      else none
  | digits =>
      if IsDecimal digits ∧ Printf.valueOf 10 digits < 2 ^ 31 then
        some (Printf.valueOf 10 digits)
      else none

/-!
## The lists of the client
-/

structure ConsoleFileSrc where
  strFileName : WString
  strFileMd5 : WString
deriving DecidableEq

/-- The pairs with the numbers up to `FileCount`. -/
def getFileMd5 (profile : Profile) : Option (List ConsoleFileSrc) :=
  (intParse (getValue P profile .fileCount)).map fun nFileCount =>
    (List.range nFileCount.toNat).map fun i =>
      { strFileName := getValue P profile (.file (i + 1))
        strFileMd5 := getValue P profile (.fileMd5 (i + 1)) }

def getServerFileMd5 (updateList : Profile) : Option (List ConsoleFileSrc) :=
  getFileMd5 P updateList

/-- Of the profile in `tmpDownload`. -/
def getTmpDownloadFileMd5 (tmpUpdateList : Profile) : Option (List ConsoleFileSrc) :=
  getFileMd5 P tmpUpdateList

def Matched (tmpDownloadFileList : List ConsoleFileSrc)
    (ServerItem : ConsoleFileSrc) : Prop :=
  (tmpDownloadFileList.find? fun itm =>
    itm.strFileName = ServerItem.strFileName).map ConsoleFileSrc.strFileMd5 =
      some ServerItem.strFileMd5

instance (tmpDownloadFileList : List ConsoleFileSrc) (ServerItem : ConsoleFileSrc) :
    Decidable (Matched tmpDownloadFileList ServerItem) :=
  inferInstanceAs (Decidable (_ = _))

/-- Whether an update is needed, without a value where `int.Parse` throws. -/
def checkUpdateFile (updateList tmpUpdateList : Profile) : Option Bool :=
  if getValue P updateList .fileVersion ≠ getValue P tmpUpdateList .fileVersion then
    some true
  else do
    let tmpDownLoadFileList <- getTmpDownloadFileMd5 P tmpUpdateList
    let ServerDownLoadFileList <- getServerFileMd5 P updateList
    if tmpDownLoadFileList.length ≠ ServerDownLoadFileList.length then
      pure true
    else
      pure (ServerDownLoadFileList.any fun ServerItem =>
        !decide (Matched tmpDownLoadFileList ServerItem))

def getDownloadFile (tmpDownloadFileList ServerFileList : List ConsoleFileSrc) :
    List WString :=
  (ServerFileList.filter fun ServerItm =>
    !decide (Matched tmpDownloadFileList ServerItm)).map ConsoleFileSrc.strFileName

end

/-!
## Numbers in a profile
-/

section

variable {P : Platform}

theorem trim_of_forall_not {text : WString} (h : forall c, c ∈ text -> ¬ Blank c) :
    trim text = text := by
  have hdrop : forall text : WString, (forall c, c ∈ text -> ¬ Blank c) ->
      (text.dropWhile fun c => Blank c) = text := by
    intro text h
    cases text with
    | nil => rfl
    | cons c text =>
        rw [List.dropWhile_cons_of_neg]
        simpa using h c List.mem_cons_self
  rw [trim, hdrop text h, hdrop text.reverse, List.reverse_reverse]
  intro c hc
  exact h c (List.mem_reverse.mp hc)

theorem isDecimal_numeral (n : Nat) : IsDecimal (Printf.numeral 10 n) :=
  ⟨Printf.numeral_ne_nil 10 n, fun _ hc => Printf.mem_decimal hc⟩

theorem not_blank_of_digit {c : UInt16} (hc : 48 ≤ c) : ¬ Blank c := by
  rintro (hspace | hcontrol)
  · rw [hspace] at hc
    exact absurd hc (by decide)
  · exact absurd (UInt16.le_trans hc hcontrol.right) (by decide)

theorem intParse_numeral {n : Nat} (hn : n < 2 ^ 31) :
    intParse (Printf.numeral 10 n) = some (n : Int) := by
  have hvalue : Printf.valueOf 10 (Printf.numeral 10 n) = n :=
    Printf.valueOf_numeral (by decide) (by decide) n
  have hdecimal := isDecimal_numeral n
  have hblank : forall c, c ∈ Printf.numeral 10 n -> ¬ Blank c :=
    fun c hc => not_blank_of_digit (hdecimal.right c hc).left
  have hhead : forall c digits, Printf.numeral 10 n = c :: digits ->
      c ≠ 45 ∧ c ≠ 43 := by
    intro c digits heq
    have hc : c ∈ Printf.numeral 10 n := by
      rw [heq]
      exact List.mem_cons_self
    have hle := (hdecimal.right c hc).left
    constructor
    · intro hminus
      rw [hminus] at hle
      exact absurd hle (by decide)
    · intro hplus
      rw [hplus] at hle
      exact absurd hle (by decide)
  unfold intParse
  rw [trim_of_forall_not hblank]
  split
  · rename_i digits heq
    exact absurd rfl (hhead 45 digits heq).left
  · rename_i digits heq
    exact absurd rfl (hhead 43 digits heq).right
  · rw [hvalue, if_pos ⟨hdecimal, hn⟩]

theorem intParse_minus {n : Nat} (hn : n ≤ 2 ^ 31) :
    intParse (45 :: Printf.numeral 10 n) = some (-n : Int) := by
  have hvalue : Printf.valueOf 10 (Printf.numeral 10 n) = n :=
    Printf.valueOf_numeral (by decide) (by decide) n
  have hdecimal := isDecimal_numeral n
  have hblank : forall c, c ∈ 45 :: Printf.numeral 10 n -> ¬ Blank c := by
    intro c hc
    rcases List.mem_cons.mp hc with hc | hc
    · rw [hc]
      decide
    · exact not_blank_of_digit (hdecimal.right c hc).left
  unfold intParse
  rw [trim_of_forall_not hblank]
  show (if IsDecimal (Printf.numeral 10 n) ∧
      Printf.valueOf 10 (Printf.numeral 10 n) ≤ 2 ^ 31 then
    some (-(Printf.valueOf 10 (Printf.numeral 10 n) : Int)) else none) = _
  rw [hvalue, if_pos ⟨hdecimal, hn⟩]

theorem intParse_dec (n : Int32) : intParse (Printf.dec n.toUInt32) = some n.toInt := by
  have hword : n.toUInt32.toNat < 2 ^ 32 := n.toUInt32.toNat_lt
  unfold Printf.dec
  split
  · rename_i hsmall
    rw [SignedWord.toInt_of_toNat_lt hsmall, intParse_numeral hsmall]
  · rename_i hlarge
    have hvalue : n.toInt = -((2 ^ 32 - n.toUInt32.toNat : Nat) : Int) := by
      have hnegative : ¬ 2 * n.toBitVec.toNat < 2 ^ 32 := by
        show ¬ 2 * n.toUInt32.toNat < 2 ^ 32
        omega
      show n.toBitVec.toInt = _
      rw [BitVec.toInt_eq_toNat_cond, if_neg hnegative]
      show ((n.toUInt32.toNat : Nat) : Int) - _ = _
      omega
    rw [hvalue, intParse_minus (by omega)]

end

end Updater
end BnsKorea
