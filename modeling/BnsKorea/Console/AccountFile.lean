import BnsKorea.Library.Texts
import BnsKorea.Updater.Model

/-!
# The account file of the console

The console reads `Account.txt` line by line up to a line with `--` in it, passes
over blank lines and those with `//` in them, and takes what is left apart at the
commas.
-/

namespace BnsKorea
namespace Console

open Library.Texts
open Updater (Contains)

def CR : UInt16 := 13
def LF : UInt16 := 10

def comma : UInt16 := 44

/-- `Char.IsWhiteSpace`. -/
def isWhiteSpace (c : UInt16) : Bool :=
  (9 ≤ c && c ≤ 13) || c = 32 || c = 0x85 || c = 0xA0 || c = 0x1680 ||
    (0x2000 ≤ c && c ≤ 0x200A) || c = 0x2028 || c = 0x2029 || c = 0x202F ||
    c = 0x205F || c = 0x3000

structure CAccount where
  strUserName : WString
  strPassWord : WString
deriving DecidableEq

namespace ConsoleFile

/-- The loop ends at this line. -/
def IsTerminator (str : WString) : Prop :=
  Contains (trim isWhiteSpace str) (L "--")

instance (str : WString) : Decidable (IsTerminator str) :=
  inferInstanceAs (Decidable (Contains _ _))

/-- The loop over the lines of a file. -/
def readLines : List WString -> List WString
  | [] => []
  | str :: rest =>
      if IsTerminator str then []
      else if trim isWhiteSpace str ≠ [] ∧ ¬ Contains str (L "//") then
        str :: readLines rest
      else readLines rest

def readFile_By_Path (text : WString) : List WString :=
  readLines (lines CR LF text)

def account (itm : WString) : Option CAccount :=
  if Contains itm (L ",") then
    match pieces [comma] itm with
    | [strUserName, strPassWord] =>
        if Contains strPassWord (L "'") ∨ Contains strPassWord (L "\"") then none
        else some { strUserName := strUserName, strPassWord := strPassWord }
    | _ => none
  else none

def getAccount_By_File (text : WString) : Bool × List CAccount :=
  let RetLst := (readFile_By_Path text).filterMap account
  (RetLst.length > 0, RetLst)

end ConsoleFile
end Console
end BnsKorea
