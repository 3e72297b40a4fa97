import BnsKorea.Common.Buffers
import BnsKorea.Common.MyTools

/-!
# Reading a script file

A script is kept compressed, with the sizes and checksums of both its forms.
The text gets a terminator, and its size counts the terminator that `c_str()`
adds behind that one.
-/

namespace BnsKorea
namespace Server

open Library

/-- The scripts by name, and whether a name came twice. -/
structure CScriptFile where
  mapScript : Std.TreeMap WString CipherScriptText := ∅
  bRepeat : Bool := false

namespace CScriptFile

variable (Z : Zlib) (M : Memory) (GetCRC32_DWORD : List BYTE -> DWORD)

/-- `pExpressScript` and the record; the name is in the record before. -/
def readScript (wsScriptName wsText : WString) :
    Option (List BYTE × CipherScriptText) :=
  let wsContent := wsText ++ [0]
  let ExpressBuffer := wideBytes (wsContent ++ [0])
  let uExpressSize := UInt32.ofNat (wsContent.length * 2 + 2)
  let uBound := Z.compressBound uExpressSize
  (memcpy (M.alloc (wsContent.length * 2)) ExpressBuffer
    (wsContent.length * 2)).bind fun pExpressScript =>
  (readBytes ExpressBuffer uExpressSize.toNat).bind fun Express =>
  (Z.compressTo (M.alloc uBound.toNat) uBound ExpressBuffer uExpressSize).bind
    fun compressed =>
  (readBytes compressed.1 compressed.2.toNat).map fun Cipher =>
    (pExpressScript,
      { wsScriptName := wsScriptName
        pScriptBuffer := compressed.1
        uExpressSize := uExpressSize
        uCipherTextSize := compressed.2
        dwExpressTextCrc := GetCRC32_DWORD Express
        dwCipherTextCrc := GetCRC32_DWORD Cipher })

/-- `ReadUnicodeFile` gives the text of the file, if it has one. -/
def readScriptFileContent (ReadUnicodeFile : WString -> Option WString)
    (wsPath wsScriptName : WString) (s : CScriptFile) :
    Option (Bool × CScriptFile) :=
  match ReadUnicodeFile wsPath with
  | none => some (false, s)
  | some wsText =>
      (readScript Z M GetCRC32_DWORD wsScriptName wsText).map fun script =>
        match s.mapScript[wsScriptName]? with
        | some _ => (false, { s with bRepeat := true })
        | none =>
            (true,
              { s with
                mapScript := s.mapScript.insertIfNew wsScriptName script.2 })

def findScriptText_By_ScriptName (wsScriptName : WString) (s : CScriptFile) :
    Option CipherScriptText :=
  s.mapScript[wsScriptName]?

end CScriptFile
end Server
end BnsKorea
