import BnsKorea.Common.ServerCommon
import BnsKorea.Library.Texts

/-!
# The account file of the game clients

`CBnsConfig` takes `Account.txt` apart at the line breaks and at the commas,
empty pieces dropped, and writes it anew from the accounts it found.
-/

namespace BnsKorea
namespace CBnsConfig

open Library.Texts

structure AccountConfig where
  wsAccountName : WString := []
  wsAccountPass : WString := []
deriving DecidableEq

/-- `CCharacter::Split`, the empty entries removed. -/
def split (wsText wsSep : WString) : List WString :=
  (pieces wsSep wsText).filter fun ws => ws ≠ []

def divisionConfig (wsContent : WString) : List WString :=
  split wsContent (L "\r\n")

def getAccountConfig (ws : WString) : Option AccountConfig :=
  match split ws (L ",") with
  | [wsAccountName, wsAccountPass] =>
      some { wsAccountName := wsAccountName, wsAccountPass := wsAccountPass }
  | _ => none

def getAccountConfigList (wsContent : WString) : List AccountConfig :=
  (divisionConfig wsContent).filterMap getAccountConfig

def AccountConfig.line (AccountConfig_ : AccountConfig) : WString :=
  AccountConfig_.wsAccountName ++ L "," ++ AccountConfig_.wsAccountPass

def saveAccountConfigList (vlst : List AccountConfig) : WString :=
  vlst.flatMap fun AccountConfig_ => AccountConfig_.line ++ L "\r\n"

/-- The file afterwards; without accounts it is left alone. -/
def clearAccountConfig (wsAccountName : WString) (wsContent : WString) :
    WString :=
  let vlst := getAccountConfigList wsContent
  if vlst.length = 0 then wsContent
  else
    saveAccountConfigList
      (vlst.filter fun itm => itm.wsAccountName ≠ wsAccountName)

end CBnsConfig
end BnsKorea
