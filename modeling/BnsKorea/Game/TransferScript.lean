import BnsKorea.Client.Responses
import BnsKorea.Server.ScriptFile

/-!
# The way of a script to the game

The server sends a script as it keeps it.  The client compares the size and the
checksum of what it received, uncompresses it, compares the checksum of the text
and takes the text up to its terminator.  Server and client count the size in
different programs, and agree.
-/

namespace BnsKorea
namespace Game

open Library SocketValue Server
open Server.CEchoPacket

namespace CSocketAPI

variable (T : MyTools) (GetCRC32_DWORD : List BYTE -> DWORD)

/-- The checks of `DownLoadScript`, which fail with a text. -/
def checkScript (Content : ScriptAnswer) : Option (Except WString Unit) :=
  let uSize := UInt32.ofNat Content.content.length
  if uSize ≠ Content.uCipherTextSize then
    some (.error (T.makeFormatText (L "下载的脚本长度[%d]不正确,正确的长度=[%d]")
      [uSize, Content.uCipherTextSize]))
  else
    (readBytes Content.content Content.uCipherTextSize.toNat).map fun bytes =>
      if GetCRC32_DWORD bytes ≠ Content.dwCipherTextCrc then
        .error (T.makeFormatText (L "下载的脚本长度CRC校验失败,正确的CRC=[%08X]")
          [Content.dwCipherTextCrc])
      else .ok ()

end CSocketAPI

namespace CTransferScript

variable (Z : Zlib) (M : Memory) (GetCRC32_DWORD : List BYTE -> DWORD)

/-- The size in the record is written over; without a text it is `FALSE`. -/
def decodeScript (CiphertextContent : ScriptAnswer) :
    Option (ScriptAnswer × Option WString) :=
  -- as many 16-bit units are allocated as there are bytes
  (Z.uncompressTo (M.alloc (CiphertextContent.uExpressSize.toNat * 2))
    CiphertextContent.uExpressSize CiphertextContent.content
    CiphertextContent.uCipherTextSize).bind fun ExpressBuffer =>
  (readBytes ExpressBuffer.1 ExpressBuffer.2.toNat).bind fun Express =>
    let Content := { CiphertextContent with uExpressSize := ExpressBuffer.2 }
    if GetCRC32_DWORD Express ≠ Content.dwExpressTextCrc then
      some (Content, none)
    else (readText ExpressBuffer.1).map fun wsScriptContent =>
      (Content, some wsScriptContent)

end CTransferScript

/-!
## Sizes
-/

section

variable {Z : Zlib} {M : Memory} {GetCRC32_DWORD : List BYTE -> DWORD}

def expressBytes (wsText : WString) : List BYTE :=
  wideBytes (wsText ++ [0] ++ [0])

theorem length_expressBytes (wsText : WString) :
    (expressBytes wsText).length = wsText.length * 2 + 4 := by
  rw [expressBytes, length_wideBytes]
  simp only [List.length_append, List.length_singleton]
  omega

/-- The sizes of a script and of the room for its compressed form fit. -/
structure SizesFit (Z : Zlib) (wsText : WString) : Prop where
  express : wsText.length * 2 + 4 < 2 ^ 32
  bound : Z.boundOf (wsText.length * 2 + 4) < 2 ^ 32

def scriptRecord (Z : Zlib) (M : Memory) (GetCRC32_DWORD : List BYTE -> DWORD)
    (wsScriptName wsText : WString) : CipherScriptText where
  wsScriptName := wsScriptName
  pScriptBuffer :=
    splice (M.alloc (Z.boundOf (wsText.length * 2 + 4))) 0
      (Z.stream (expressBytes wsText))
  uExpressSize := UInt32.ofNat (wsText.length * 2 + 4)
  uCipherTextSize := UInt32.ofNat (Z.stream (expressBytes wsText)).length
  dwExpressTextCrc := GetCRC32_DWORD (expressBytes wsText)
  dwCipherTextCrc := GetCRC32_DWORD (Z.stream (expressBytes wsText))

theorem length_stream_le (wsText : WString) :
    (Z.stream (expressBytes wsText)).length ≤
      Z.boundOf (wsText.length * 2 + 4) := by
  rw [← length_expressBytes]
  exact Z.length_stream _

theorem toNat_uCipherTextSize {wsText : WString} (hsizes : SizesFit Z wsText) :
    (UInt32.ofNat (Z.stream (expressBytes wsText)).length).toNat =
      (Z.stream (expressBytes wsText)).length :=
  UInt32.toNat_ofNat_of_lt'
    (Nat.lt_of_le_of_lt (length_stream_le wsText) hsizes.bound)

theorem toNat_uExpressSize {wsText : WString} (hsizes : SizesFit Z wsText) :
    (UInt32.ofNat (wsText.length * 2 + 4)).toNat = wsText.length * 2 + 4 :=
  UInt32.toNat_ofNat_of_lt' hsizes.express

theorem readBytes_stream {wsText : WString} (hsizes : SizesFit Z wsText) :
    readBytes (Z.stream (expressBytes wsText))
        (UInt32.ofNat (Z.stream (expressBytes wsText)).length).toNat =
      some (Z.stream (expressBytes wsText)) := by
  rw [toNat_uCipherTextSize hsizes]
  exact readBytes_of_length rfl

theorem readBytes_splice_stream {wsText : WString} (hsizes : SizesFit Z wsText)
    (dest : List BYTE) :
    readBytes (splice dest 0 (Z.stream (expressBytes wsText)))
        (UInt32.ofNat (Z.stream (expressBytes wsText)).length).toNat =
      some (Z.stream (expressBytes wsText)) := by
  rw [toNat_uCipherTextSize hsizes]
  exact readBytes_splice rfl

theorem readScript_eq {wsText : WString} (hsizes : SizesFit Z wsText)
    (wsScriptName : WString) :
    exists pExpressScript,
      CScriptFile.readScript Z M GetCRC32_DWORD wsScriptName wsText =
        some (pExpressScript,
          scriptRecord Z M GetCRC32_DWORD wsScriptName wsText) := by
  have hcount : (wsText ++ [0]).length * 2 + 2 = wsText.length * 2 + 4 := by
    rw [List.length_append, List.length_singleton]
    omega
  have hsize := toNat_uExpressSize hsizes
  have hbound : (Z.compressBound (UInt32.ofNat (wsText.length * 2 + 4))).toNat =
      Z.boundOf (wsText.length * 2 + 4) := by
    rw [Zlib.compressBound, hsize]
    exact UInt32.toNat_ofNat_of_lt' hsizes.bound
  have hcopy : (wsText ++ [0]).length * 2 ≤ (expressBytes wsText).length := by
    rw [length_expressBytes]
    omega
  have hread : readBytes (expressBytes wsText) (wsText.length * 2 + 4) =
      some (expressBytes wsText) := readBytes_of_length (length_expressBytes wsText)
  have hcompress : Z.compressTo (M.alloc (Z.boundOf (wsText.length * 2 + 4)))
      (Z.compressBound (UInt32.ofNat (wsText.length * 2 + 4)))
      (expressBytes wsText) (UInt32.ofNat (wsText.length * 2 + 4)) =
      some (splice (M.alloc (Z.boundOf (wsText.length * 2 + 4))) 0
        (Z.stream (expressBytes wsText)),
        UInt32.ofNat (Z.stream (expressBytes wsText)).length) := by
    rw [Zlib.compressTo, hbound, M.length_alloc, if_pos (Nat.le_refl _), hsize,
      hread, Option.map_some, Z.compress_eq]
    · rw [hbound, length_expressBytes]
    · rw [hbound, M.length_alloc]
  refine ⟨splice (M.alloc ((wsText ++ [0]).length * 2)) 0
    ((expressBytes wsText).take ((wsText ++ [0]).length * 2)), ?_⟩
  have hexpress : wideBytes (wsText ++ [0] ++ [0]) = expressBytes wsText := rfl
  unfold CScriptFile.readScript
  dsimp only
  rw [hexpress, hcount, hbound, hsize,
    memcpy_eq (Nat.le_of_eq (M.length_alloc _).symm) hcopy, Option.bind_some,
    hread, Option.bind_some, hcompress, Option.bind_some,
    readBytes_splice_stream hsizes]
  rfl

/-!
## The packet
-/

def scriptAnswer (Z : Zlib) (GetCRC32_DWORD : List BYTE -> DWORD)
    (wsScriptName wsText wsAccountName : WString) : ScriptAnswer where
  wsScriptName := wsScriptName
  uExpressSize := UInt32.ofNat (wsText.length * 2 + 4)
  uCipherTextSize := UInt32.ofNat (Z.stream (expressBytes wsText)).length
  dwExpressTextCrc := GetCRC32_DWORD (expressBytes wsText)
  dwCipherTextCrc := GetCRC32_DWORD (Z.stream (expressBytes wsText))
  wsAccountName := wsAccountName
  content := Z.stream (expressBytes wsText)

theorem readBytes_scriptRecord {wsText : WString} (hsizes : SizesFit Z wsText)
    (wsScriptName : WString) :
    readBytes (scriptRecord Z M GetCRC32_DWORD wsScriptName wsText).pScriptBuffer
        (scriptRecord Z M GetCRC32_DWORD wsScriptName wsText).uCipherTextSize.toNat =
      some (Z.stream (expressBytes wsText)) :=
  readBytes_splice_stream hsizes _

theorem take_scriptRecord {wsText : WString} (hsizes : SizesFit Z wsText)
    (wsScriptName : WString) :
    (scriptRecord Z M GetCRC32_DWORD wsScriptName wsText).pScriptBuffer.take
        (scriptRecord Z M GetCRC32_DWORD wsScriptName wsText).uCipherTextSize.toNat =
      Z.stream (expressBytes wsText) := by
  have hread : readBytes
      (scriptRecord Z M GetCRC32_DWORD wsScriptName wsText).pScriptBuffer
      (scriptRecord Z M GetCRC32_DWORD wsScriptName wsText).uCipherTextSize.toNat =
      some (Z.stream (expressBytes wsText)) :=
    readBytes_scriptRecord hsizes wsScriptName
  unfold readBytes at hread
  split at hread
  · exact Option.some.inj hread
  · cases hread

theorem checkScript_scriptAnswer (T : MyTools) {wsText : WString}
    (hsizes : SizesFit Z wsText) (wsScriptName wsAccountName : WString) :
    CSocketAPI.checkScript T GetCRC32_DWORD
        (scriptAnswer Z GetCRC32_DWORD wsScriptName wsText wsAccountName) =
      some (.ok ()) := by
  unfold CSocketAPI.checkScript scriptAnswer
  dsimp only
  rw [if_neg (not_not.mpr rfl), readBytes_stream hsizes, Option.map_some,
    if_neg (not_not.mpr rfl)]

theorem readText_express {wsText : WString} (hnul : (0 : UInt16) ∉ wsText)
    (dest : List BYTE) :
    readText (splice dest 0 (expressBytes wsText)) = some wsText := by
  have hsplice : splice dest 0 (expressBytes wsText) =
      expressBytes wsText ++ dest.drop (0 + (expressBytes wsText).length) := rfl
  have hexpress : expressBytes wsText =
      wideBytes (wsText ++ [0]) ++ wideBytes [0] :=
    wideBytes_append (wsText ++ [0]) [0]
  rw [hsplice, hexpress, List.append_assoc]
  exact readText_wideBytes hnul _

theorem decodeScript_scriptAnswer {wsText : WString}
    (hnul : (0 : UInt16) ∉ wsText) (hsizes : SizesFit Z wsText)
    (wsScriptName wsAccountName : WString) :
    CTransferScript.decodeScript Z M GetCRC32_DWORD
        (scriptAnswer Z GetCRC32_DWORD wsScriptName wsText wsAccountName) =
      some (scriptAnswer Z GetCRC32_DWORD wsScriptName wsText wsAccountName,
        some wsText) := by
  have hsize := toNat_uExpressSize hsizes
  -- the room is twice the size, which is counted in bytes already
  have hroom : wsText.length * 2 + 4 ≤
      (M.alloc ((wsText.length * 2 + 4) * 2)).length := by
    rw [M.length_alloc]
    omega
  have huncompress : Z.uncompressTo (M.alloc ((wsText.length * 2 + 4) * 2))
      (UInt32.ofNat (wsText.length * 2 + 4)) (Z.stream (expressBytes wsText))
      (UInt32.ofNat (Z.stream (expressBytes wsText)).length) =
      some (splice (M.alloc ((wsText.length * 2 + 4) * 2)) 0 (expressBytes wsText),
        UInt32.ofNat (wsText.length * 2 + 4)) := by
    rw [Zlib.uncompressTo, hsize, if_pos hroom, readBytes_stream hsizes,
      Option.map_some, Z.uncompress_eq, length_expressBytes]
    · rw [hsize, length_expressBytes]
    · rw [hsize]
      exact hroom
  unfold CTransferScript.decodeScript
  dsimp only [scriptAnswer]
  rw [hsize, huncompress, Option.bind_some, hsize,
    readBytes_splice (length_expressBytes wsText), Option.bind_some,
    if_neg (not_not.mpr rfl), readText_express hnul]
  rfl

theorem downloadScript_buffer (P : Platform) (O : Outside) {wsText : WString}
    (hsizes : SizesFit Z wsText) {wsScriptName wsFound : WString}
    (hfound : O.findScriptText_By_ScriptName
      (if wsScriptName.tails.any (L ".inf").isPrefixOf then wsScriptName
        else wsScriptName ++ L ".inf") =
      some (scriptRecord Z M GetCRC32_DWORD wsFound wsText))
    (GameClient : Server.CGameClient) (s : Services) :
    (downloadScript P O wsScriptName GameClient s).1.buffer =
      { head := some SockMsg.queryScriptKey
        values := (Answer.script (scriptAnswer Z GetCRC32_DWORD wsFound wsText
          GameClient.account.wsAccountName)).values } := by
  unfold downloadScript
  dsimp only
  rw [hfound]
  show ({ head := _, values := (Answer.script _).values } : SocketBuffer) = _
  rw [take_scriptRecord hsizes]
  rfl

theorem readScriptFileContent_eq (Z : Zlib) (M : Memory)
    (GetCRC32_DWORD : List BYTE -> DWORD) {ReadUnicodeFile : WString -> Option WString}
    {wsPath wsText : WString} (hfile : ReadUnicodeFile wsPath = some wsText)
    (hsizes : SizesFit Z wsText) (wsScriptName : WString) (s : CScriptFile) :
    exists bRead s',
      CScriptFile.readScriptFileContent Z M GetCRC32_DWORD ReadUnicodeFile wsPath
        wsScriptName s = some (bRead, s') ∧
      (bRead = true ↔ s.mapScript[wsScriptName]? = none) ∧
      (bRead = true -> s'.findScriptText_By_ScriptName wsScriptName =
        some (scriptRecord Z M GetCRC32_DWORD wsScriptName wsText)) := by
  rcases readScript_eq hsizes wsScriptName with ⟨pExpressScript, hread⟩
  unfold CScriptFile.readScriptFileContent
  rw [hfile]
  dsimp only
  rw [hread, Option.map_some]
  cases hscript : s.mapScript[wsScriptName]? with
  | some Script =>
      refine ⟨false, _, rfl, ?_, fun h => by cases h⟩
      constructor
      · intro h
        cases h
      · intro h
        cases h
  | none =>
      refine ⟨true, _, rfl, iff_of_true rfl rfl, ?_⟩
      intro _
      exact OrderedMaps.getElem?_insertIfNew_of_none _ hscript

/--
A script file whose text has no zero unit and fits is read without leaving a
buffer, under a name that is not taken yet.  Its packet is sent from inside of
the buffer and passes the checks of the client, which decodes the very text.
-/
theorem script_arrives (Z : Zlib) (M N : Memory)
    (GetCRC32_DWORD : List BYTE -> DWORD) {ReadUnicodeFile : WString -> Option WString}
    {wsPath wsText : WString} (hfile : ReadUnicodeFile wsPath = some wsText)
    (hnul : (0 : UInt16) ∉ wsText) (hsizes : SizesFit Z wsText)
    (wsName : WString) (Scripts : CScriptFile) :
    exists bRead Scripts',
      CScriptFile.readScriptFileContent Z M GetCRC32_DWORD ReadUnicodeFile wsPath
        wsName Scripts = some (bRead, Scripts') ∧
      (bRead = true ↔ Scripts.mapScript[wsName]? = none) ∧
      (bRead = true -> exists Content,
        Scripts'.findScriptText_By_ScriptName wsName = some Content ∧
        (readBytes Content.pScriptBuffer Content.uCipherTextSize.toNat).isSome ∧
        forall (P : Platform) (O : Outside) (wsScriptName : WString)
          (GameClient : Server.CGameClient) (s : Services),
          (if wsScriptName.tails.any (L ".inf").isPrefixOf then wsScriptName
            else wsScriptName ++ L ".inf") = wsName ->
          O.findScriptText_By_ScriptName wsName =
            Scripts'.findScriptText_By_ScriptName wsName ->
          exists Received,
            Client.CSocketAPI.extractScript.run
                (downloadScript P O wsScriptName GameClient s).1.buffer.values =
              some (Received, []) ∧
            CSocketAPI.checkScript P.tools GetCRC32_DWORD Received =
              some (.ok ()) ∧
            (CTransferScript.decodeScript Z N GetCRC32_DWORD Received).map Prod.snd =
              some (some wsText)) := by
  rcases readScriptFileContent_eq Z M GetCRC32_DWORD hfile hsizes wsName Scripts with
    ⟨bRead, Scripts', hread, hname, hfind⟩
  refine ⟨bRead, Scripts', hread, hname, ?_⟩
  intro hbRead
  refine ⟨_, hfind hbRead, ?_, ?_⟩
  · rw [readBytes_scriptRecord hsizes]
    rfl
  · intro P O wsScriptName GameClient s hsame hserved
    have hfound : O.findScriptText_By_ScriptName
        (if wsScriptName.tails.any (L ".inf").isPrefixOf then wsScriptName
          else wsScriptName ++ L ".inf") =
        some (scriptRecord Z M GetCRC32_DWORD wsName wsText) := by
      rw [hsame, hserved, hfind hbRead]
    refine ⟨scriptAnswer Z GetCRC32_DWORD wsName wsText
      GameClient.account.wsAccountName, ?_,
      checkScript_scriptAnswer P.tools hsizes wsName _, ?_⟩
    · rw [downloadScript_buffer P O hsizes hfound]
      exact (Client.CSocketAPI.reads_extractScript _).run
    · rw [decodeScript_scriptAnswer hnul hsizes]
      rfl

end

/-!
## A short script
-/

/-- The bytes of the text `a` with two terminators, and what zlib makes of them. -/
def shortBytes : List BYTE := [0x61, 0, 0, 0, 0, 0]

def shortStream : List BYTE :=
  [0x78, 0x9C, 0x4B, 0x64, 0x00, 0x01, 0x00, 0x02, 0x4C, 0x00, 0x62]

/-- Like zlib on the short script; other sources are stored behind a zero. -/
def storing : Zlib where
  stream source := if source = shortBytes then shortStream else 0 :: source
  boundOf n := n + n / 2 ^ 12 + n / 2 ^ 14 + n / 2 ^ 25 + 13
  compress dest _ source :=
    if source = shortBytes then
      (splice dest 0 shortStream, UInt32.ofNat shortStream.length)
    else (splice dest 0 (0 :: source), UInt32.ofNat (0 :: source).length)
  uncompress dest _ bytes :=
    if bytes = shortStream then
      (splice dest 0 shortBytes, UInt32.ofNat shortBytes.length)
    else (splice dest 0 bytes.tail, UInt32.ofNat bytes.tail.length)
  length_stream source := by
    split
    · rename_i hsource
      rw [hsource]
      decide
    · rw [List.length_cons]
      omega
  compress_eq dest destLen source _ _ := by
    split
    · rfl
    · rfl
  uncompress_eq dest destLen source _ _ := by
    cases Decidable.em (source = shortBytes) with
    | inl hsource =>
        rw [if_pos hsource, if_pos rfl, hsource]
    | inr hsource =>
        have hstored : (0 :: source) ≠ shortStream := by
          intro h
          cases h
        rw [if_neg hsource, if_neg hstored]
        rfl

theorem shortScript_arrives :
    exists bRead Scripts',
      CScriptFile.readScriptFileContent storing Memory.standard Server.crc32
        (fun _ => some (L "a")) (L "a.inf") (L "a.inf") {} =
        some (bRead, Scripts') ∧
      (bRead = true ↔ (({} : CScriptFile).mapScript)[L "a.inf"]? = none) ∧
      (bRead = true -> exists Content,
        Scripts'.findScriptText_By_ScriptName (L "a.inf") = some Content ∧
        (readBytes Content.pScriptBuffer Content.uCipherTextSize.toNat).isSome ∧
        forall (P : Platform) (O : Outside) (wsScriptName : WString)
          (GameClient : Server.CGameClient) (s : Services),
          (if wsScriptName.tails.any (L ".inf").isPrefixOf then wsScriptName
            else wsScriptName ++ L ".inf") = L "a.inf" ->
          O.findScriptText_By_ScriptName (L "a.inf") =
            Scripts'.findScriptText_By_ScriptName (L "a.inf") ->
          exists Received,
            Client.CSocketAPI.extractScript.run
                (downloadScript P O wsScriptName GameClient s).1.buffer.values =
              some (Received, []) ∧
            CSocketAPI.checkScript P.tools Server.crc32 Received = some (.ok ()) ∧
            (CTransferScript.decodeScript storing Memory.standard Server.crc32
              Received).map Prod.snd = some (some (L "a"))) :=
  script_arrives storing Memory.standard Memory.standard Server.crc32 rfl
    (by decide) ⟨by decide, by decide⟩ (L "a.inf") {}

end Game
end BnsKorea
