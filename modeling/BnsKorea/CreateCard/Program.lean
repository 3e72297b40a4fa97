import BnsKorea.Library.Numerals
import BnsKorea.Library.Texts
import BnsKorea.Updater.Model

/-!
# The program that creates cards

`CreateNewCard` makes up card numbers, inserts them into the database one by one
and reports them on the console or in `NewCard.txt`.  What the clock, the random
numbers and the database answer is given with the run.
-/

namespace BnsKorea
namespace CreateCard

open Library Library.Numerals
open Updater (intParse)

/-!
## The check sum
-/

def tableBit (Crc : UInt64) : UInt64 :=
  if Crc &&& 1 = 1 then (Crc >>> 1) ^^^ 0xEDB88320 else Crc >>> 1

abbrev Table := Vector UInt64 256

def makeTable : Table :=
  Vector.ofFn fun i => Nat.repeat tableBit 8 (UInt64.ofNat i)

theorem index_lt (value : UInt64) (b : BYTE) :
    ((value &&& 0xFF) ^^^ b.toUInt64).toNat < 256 := by
  have hlow : (value &&& 0xFF).toNat < 2 ^ 8 := by
    rw [UInt64.toNat_and]
    exact Nat.and_lt_two_pow value.toNat (by decide)
  rw [UInt64.toNat_xor, UInt8.toNat_toUInt64]
  exact Nat.xor_lt_two_pow hlow b.toNat_lt

def getCrcByte (Crc32Table : Table) (value : UInt64) (b : BYTE) : UInt64 :=
  (value >>> 8) ^^^ Crc32Table.get ⟨_, index_lt value b⟩

/-- `ASCII.GetBytes`; what is not ASCII becomes a question mark. -/
def asciiBytes (strMsg : WString) : List BYTE :=
  strMsg.map fun c => if c < 128 then c.toUInt8 else 63

def getCrc (Crc32Table : Table) (strMsg : WString) : Int32 :=
  (((asciiBytes strMsg).foldl (getCrcByte Crc32Table) 0xffffffff) ^^^
    0xffffffff).toUInt32.toInt32

/-!
## Numbers as text
-/

/-- `ToString("D4")` and its like; the sign is not counted in the width. -/
def toStringD (width : Nat) (n : Int) : WString :=
  if n < 0 then 45 :: padded 10 width n.natAbs else padded 10 width n.natAbs

/-- `ToString("X8")` writes the bits. -/
def toStringX8 (n : Int32) : WString :=
  padded 16 8 n.toUInt32.toNat

/-!
## Arguments
-/

/-- Without a value where it is `-1`. -/
def findArgs (args : List WString) (str : WString) : Option Nat :=
  args.findIdx? fun arg => arg = str

/-- The exception of a name without a value is caught. -/
def getNumber (args : List WString) (str : WString) : Int :=
  match findArgs args str with
  | none => -1
  | some nIndex =>
      match args[nIndex + 1]? with
      | none => -1
      | some strCount => (intParse strCount).getD (-1)

def getText (args : List WString) (str : WString) : WString :=
  match findArgs args str with
  | none => []
  | some nIndex => args.getD (nIndex + 1) []

structure Order where
  nCount : Int
  nHour : Int
  strFormat : WString
deriving DecidableEq

/-- The arguments with which `Main` goes on to create cards. -/
def accepts (args : List WString) : Option Order :=
  if args.head? = some (L "CreateNewCard") then
    let nCount := getNumber args (L "-Count")
    let nHour := getNumber args (L "-Hour")
    let strFormat := getText args (L "-Format")
    if nCount = -1 then none
    else if nHour = -1 then none
    else if strFormat = [] then none
    else some { nCount := nCount, nHour := nHour, strFormat := strFormat }
  else none

/-!
## Card numbers
-/

/-- What the clock and the random numbers give in one turn of the loop. -/
structure Draw where
  year : Nat
  month : Nat
  day : Nat
  next : Nat
  year_lt : year < 10000 := by decide
  month_lt : month < 100 := by decide
  day_lt : day < 100 := by decide
  /-- `rd.Next(Int32.MaxValue)` is below its argument. -/
  next_lt : next < 2 ^ 31 - 1 := by decide

def firstDraw : Draw where
  year := 2017
  month := 5
  day := 9
  next := 0x1234ABC

def cardText (nHour : Int) (draw : Draw) : WString :=
  toStringD 4 nHour ++ toStringD 4 draw.year ++ toStringD 2 draw.month ++
    toStringD 2 draw.day ++ toStringX8 (Int32.ofNat draw.next)

def newCard (Crc32Table : Table) (nHour : Int) (draw : Draw) : WString :=
  cardText nHour draw ++ toStringX8 (getCrc Crc32Table (cardText nHour draw))

/-- The list that the loop of `Main` builds. -/
def newCards (Crc32Table : Table) (order : Order) (draws : Nat -> Draw) :
    List WString :=
  (List.range order.nCount.toNat).map fun i =>
    newCard Crc32Table order.nHour (draws i)

/-!
## The database
-/

inductive QueryResult where
  /-- `Query` throws. -/
  | exception
  /-- There is no table, or it has no row. -/
  | empty
  /-- The first value of the first row, if it is a text. -/
  | row (value : Option WString)
deriving DecidableEq

/-- `Char.IsWhiteSpace`. -/
def isWhiteSpace (c : UInt16) : Bool :=
  (9 ≤ c && c ≤ 13) || c = 0x20 || c = 0x85 || c = 0xA0 || c = 0x1680 ||
    (0x2000 ≤ c && c ≤ 0x200A) || c = 0x2028 || c = 0x2029 || c = 0x202F ||
    c = 0x205F || c = 0x3000

def insertSQL (Crc32Table : Table) (card : WString) : WString :=
  L "exec Proc_InsertCard '" ++ card ++ L "','" ++
    toStringX8 (getCrc Crc32Table card) ++ L "'"

/-- A card with what the database answered to its insertion. -/
structure Insertion where
  card : WString
  result : QueryResult
deriving DecidableEq

/-- What `WriteDB` returns, the list it leaves, and what it executed. -/
structure WriteRun where
  bRetCode : Bool
  lst : List WString
  log : List Insertion
deriving DecidableEq

def WriteRun.after (insertion : Insertion) (run : WriteRun) : WriteRun :=
  { run with log := insertion :: run.log }

section

variable (Crc32Table : Table) (answer : Nat -> WString -> QueryResult)

/--
The loop of `WriteDB` at the index `i`, after `q` statements.  A card that is
refused is taken out of the list, and the index stays; an exception ends it.
-/
def writeLoop : Nat -> Nat -> Nat -> List WString -> WriteRun
  | 0, _, _, lst => { bRetCode := true, lst := lst, log := [] }
  | fuel + 1, q, i, lst =>
      match lst[i]? with
      | none => { bRetCode := true, lst := lst, log := [] }
      | some card =>
          let result := answer q (insertSQL Crc32Table card)
          match result with
          | .exception =>
              { bRetCode := false, lst := lst, log := [⟨card, result⟩] }
          | .empty =>
              (writeLoop fuel (q + 1) i (lst.eraseIdx i)).after ⟨card, result⟩
          | .row none =>
              -- `Trim` of a value that is no text
              { bRetCode := false, lst := lst, log := [⟨card, result⟩] }
          | .row (some strRetValue) =>
              if Texts.trim isWhiteSpace strRetValue = L "NO" then
                (writeLoop fuel (q + 1) i (lst.eraseIdx i)).after ⟨card, result⟩
              else (writeLoop fuel (q + 1) (i + 1) lst).after ⟨card, result⟩

def writeDB (lst : List WString) : WriteRun :=
  writeLoop Crc32Table answer lst.length 0 0 lst

end

/-!
## Main
-/

structure Outcome where
  /-- The cards on the console. -/
  printed : List WString := []
  /-- The lines of `NewCard.txt`, if it was written. -/
  newCardTxt : Option (List WString) := none
  /-- The insertions that were executed. -/
  log : List Insertion := []
deriving DecidableEq

def main (draws : Nat -> Draw) (answer : Nat -> WString -> QueryResult)
    (args : List WString) : Outcome :=
  match accepts args with
  | none => {}
  | some order =>
      let lst := newCards makeTable order draws
      if order.strFormat = L "Output" then
        let run := writeDB makeTable answer lst
        { printed := if run.bRetCode then run.lst else [], log := run.log }
      else if order.strFormat = L "File" then
        let run := writeDB makeTable answer lst
        { newCardTxt := if run.bRetCode then some run.lst else none, log := run.log }
      else {}

end CreateCard
end BnsKorea
