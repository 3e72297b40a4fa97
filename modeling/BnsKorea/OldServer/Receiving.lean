import BnsKorea.Library.Bytes
import BnsKorea.Common.ServerCommon

/-!
# Receiving a packet in the old server

A receiving thread reads sixteen bytes of header and then as many bytes as the
header announces, less four, behind the message id.  The socket answers one call
of `recv` after the other; what it answers is the input of a turn.  The server
is not being stopped.
-/

namespace BnsKorea
namespace OldServer

open Library

/-!
## The code
-/

/-- What one turn of the loop around `recv` meets. -/
inductive RecvTurn where
  /-- `recv` delivers bytes. -/
  | data (bs : List BYTE)
  /-- `recv` would block. -/
  | again
  /-- `recv` fails in another way, or the client has hung up. -/
  | failed
  /-- The time for one call is over. -/
  | timeout
  /-- The thread that breaks connections has set `bClose`. -/
  | closed
deriving DecidableEq

/-- What a call of `CustomeRecv` leaves; `SOCKET_ERROR` is `none`. -/
structure Received where
  nRetCode : Option Nat
  /-- The bytes that were written to the buffer. -/
  buf : List BYTE
  bClose : Bool
  rest : List RecvTurn

/-- `CustomeRecv`; when nothing comes any more the time runs out. -/
def customeRecv (uLen : Nat) (turns : List RecvTurn) (bClose : Bool)
    (buf : List BYTE) : Received :=
  if uLen ≤ buf.length ∨ bClose = true then
    { nRetCode := some buf.length, buf := buf, bClose := bClose, rest := turns }
  else
    match turns with
    | [] => { nRetCode := none, buf := buf, bClose := bClose, rest := [] }
    | .data bs :: turns =>
        customeRecv uLen turns bClose (buf ++ bs.take (uLen - buf.length))
    | .again :: turns => customeRecv uLen turns bClose buf
    | .failed :: turns =>
        { nRetCode := none, buf := buf, bClose := bClose, rest := turns }
    | .timeout :: turns =>
        { nRetCode := none, buf := buf, bClose := bClose, rest := turns }
    | .closed :: turns =>
        { nRetCode := some buf.length, buf := buf, bClose := true, rest := turns }

def wordBytes (dw : DWORD) : List BYTE :=
  [dw.toUInt8, (dw >>> 8).toUInt8, (dw >>> 16).toUInt8, (dw >>> 24).toUInt8]

def word (bs : List BYTE) : DWORD :=
  bs.foldr (fun b dw => dw <<< 8 ||| b.toUInt32) 0

/-- `dwArray[i]` after some bytes were written to the zeroed array. -/
def dwArray (buf : List BYTE) (i : Nat) : DWORD :=
  word (((splice (List.replicate 16 0) 0 buf).drop (4 * i)).take 4)

/-- The answers to the calls for the header and to those for the body. -/
structure Answers where
  header : List RecvTurn
  body : List RecvTurn

/-- `GetClientSendSize`: size and message id, unless the client is broken off. -/
def getClientSendSize (header : List RecvTurn) (bClose : Bool) :
    Option (UINT × DWORD) × Bool :=
  let r := customeRecv 16 header bClose []
  match r.nRetCode with
  | none => (none, r.bClose)
  | some nRetLen =>
      if nRetLen = 0 then (none, r.bClose)
      else if dwArray r.buf 0 ≠ 0x434C436C ∨ dwArray r.buf 1 ≠ 0x69656E74 ∨
          dwArray r.buf 2 = 0 then (none, r.bClose)
      else (some (dwArray r.buf 2, dwArray r.buf 3), r.bClose)

/-- Writing into an allocated buffer; outside of it there is no result. -/
def store (buff : List BYTE) (i : Nat) (bs : List BYTE) : Option (List BYTE) :=
  if i + bs.length ≤ buff.length then some (splice buff i bs) else none

/-- The loop for the body: the last `dwIndex`, the buffer and `bClose`. -/
def recvBody (uSize dwIndex : Nat) (body : List RecvTurn) (bClose : Bool)
    (buff : List BYTE) : Option (Nat × List BYTE × Bool) :=
  if dwIndex < uSize then
    let r := customeRecv (uSize - 4) body bClose []
    match store buff dwIndex r.buf with
    | none => none
    | some buff =>
        match r.nRetCode with
        | none => some (dwIndex, buff, r.bClose)
        | some nRetCode =>
            if nRetCode = 0 then some (dwIndex, buff, r.bClose)
            else recvBody uSize (dwIndex + nRetCode) r.rest r.bClose buff
  else some (dwIndex, buff, bClose)
termination_by uSize - dwIndex

/-- How a turn of `_RecvThread` ends. -/
inductive Outcome where
  /-- The client was added to the break queue. -/
  | broken
  /-- A write went past the end of the buffer. -/
  | outside
  /-- The client was told to send again. -/
  | reSend
  | accepted (packet : List BYTE)
deriving DecidableEq

/--
A turn of `_RecvThread` and the client's `bClose` after it.  The buffer is not
initialised; the zeros stand for what `new` leaves in it.
-/
def recvTurn (dwMaxAllocMemorySize : ULONGLONG) (A : Answers) (bClose : Bool) :
    Outcome × Bool :=
  match getClientSendSize A.header bClose with
  | (none, bClose) => (.broken, bClose)
  | (some (uSize, dwMsg), bClose) =>
      if dwMaxAllocMemorySize ≤ uSize.toUInt64 then (.broken, bClose)
      else
        match store (List.replicate uSize.toNat 0) 0 (wordBytes dwMsg) with
        | none => (.outside, bClose)
        | some buff =>
            match recvBody uSize.toNat 4 A.body bClose buff with
            | none => (.outside, bClose)
            | some (dwIndex, buff, bClose) =>
                if dwIndex ≠ uSize.toNat then (.reSend, bClose)
                else (.accepted buff, bClose)

/-- The client's `bRecving` after the turn; it was set before. -/
def Outcome.bRecving : Outcome -> Bool
  | .accepted _ => false
  | _ => true

/-!
## One call of `recv` after the other
-/

def arrived : List RecvTurn -> List BYTE
  | .data bs :: turns => bs ++ arrived turns
  | .again :: turns => arrived turns
  | _ => []

def closes : List RecvTurn -> Bool
  | .data _ :: turns => closes turns
  | .again :: turns => closes turns
  | .closed :: _ => true
  | _ => false

theorem customeRecv_closed (uLen : Nat) (turns : List RecvTurn) (buf : List BYTE) :
    customeRecv uLen turns true buf =
      { nRetCode := some buf.length, buf := buf, bClose := true, rest := turns } := by
  rw [customeRecv.eq_def, if_pos (Or.inr rfl)]

theorem customeRecv_full {uLen : Nat} {buf : List BYTE} (h : uLen ≤ buf.length)
    (turns : List RecvTurn) (bClose : Bool) :
    customeRecv uLen turns bClose buf =
      { nRetCode := some buf.length, buf := buf, bClose := bClose
        rest := turns } := by
  rw [customeRecv.eq_def, if_pos (Or.inl h)]

private theorem take_read (uLen : Nat) (buf bs later : List BYTE) :
    (buf ++ bs.take (uLen - buf.length) ++ later).take uLen =
      (buf ++ (bs ++ later)).take uLen := by
  rcases Nat.lt_or_ge (uLen - buf.length) bs.length with hlong | hshort
  · rw [List.append_assoc, List.take_append, List.take_append, List.take_append,
      List.take_append_of_le_length (Nat.le_of_lt hlong), List.take_take,
      List.length_take_of_le (Nat.le_of_lt hlong), Nat.min_self, Nat.sub_self,
      List.take_zero, List.append_nil]
  · rw [List.take_of_length_le hshort, List.append_assoc]

/--
A call on an open connection reads all that comes up to its length.  With less
it ends with an error, unless the connection is being broken.
-/
theorem customeRecv_open (uLen : Nat) (turns : List RecvTurn) (buf : List BYTE)
    (hbuf : buf.length < uLen) :
    let r := customeRecv uLen turns false buf
    let all := buf ++ arrived turns
    r.buf = all.take uLen ∧
      (uLen ≤ all.length -> r.nRetCode = some uLen ∧ r.bClose = false) ∧
      (all.length < uLen -> r.bClose = closes turns ∧
        r.nRetCode = if closes turns then some all.length else none) := by
  have hloop : ¬ (uLen ≤ buf.length ∨ false = true) := by
    simp [hbuf]
  have hall : buf.take uLen = buf := List.take_of_length_le (Nat.le_of_lt hbuf)
  induction turns generalizing buf with
  | nil =>
      rw [customeRecv.eq_def, if_neg hloop]
      simp [arrived, closes, hall, hbuf]
  | cons turn turns ih =>
      rw [customeRecv.eq_def, if_neg hloop]
      cases turn with
      | data bs =>
          have htake := take_read uLen buf bs (arrived turns)
          rcases Nat.lt_or_ge (buf.length + bs.length) uLen with hshort | hlong
          · have hbs : bs.take (uLen - buf.length) = bs :=
              List.take_of_length_le (by omega)
            have hbuf' : (buf ++ bs).length < uLen := by simpa using hshort
            have hrest := ih (buf ++ bs) hbuf' (by simpa using hshort)
              (List.take_of_length_le (Nat.le_of_lt hbuf'))
            rw [List.append_assoc] at hrest
            simp only [hbs]
            exact hrest
          · have hlength : (buf ++ bs.take (uLen - buf.length)).length = uLen := by
              rw [List.length_append, List.length_take]
              omega
            have hread : buf ++ bs.take (uLen - buf.length) =
                (buf ++ (bs ++ arrived turns)).take uLen := by
              rw [← htake, List.take_append_of_le_length (Nat.le_of_eq hlength.symm),
                List.take_of_length_le (Nat.le_of_eq hlength)]
            simp only [customeRecv_full (Nat.le_of_eq hlength.symm), arrived]
            refine ⟨hread, ?_, ?_⟩
            · exact fun _ => ⟨congrArg some hlength, trivial⟩
            · intro hless
              simp only [List.length_append] at hless
              omega
      | again => exact ih buf hbuf hloop hall
      | failed => simp [arrived, closes, hall, hbuf]
      | timeout => simp [arrived, closes, hall, hbuf]
      | closed => simp [arrived, closes, hall, hbuf]

/-!
## The header
-/

/-- The header bytes of a turn. -/
def headerBytes (A : Answers) (bClose : Bool) : List BYTE :=
  if bClose then [] else (arrived A.header).take 16

def closedEarly (A : Answers) (bClose : Bool) : Bool :=
  bClose || (decide ((arrived A.header).length < 16) && closes A.header)

def announcedSize (A : Answers) (bClose : Bool) : UINT :=
  dwArray (headerBytes A bClose) 2

/--
No header comes, or it does not come whole though nobody breaks the connection,
or its flags or its size are wrong.
-/
def Refused (dwMaxAllocMemorySize : ULONGLONG) (A : Answers) (bClose : Bool) :
    Prop :=
  headerBytes A bClose = [] ∨
    ((headerBytes A bClose).length < 16 ∧ closedEarly A bClose = false) ∨
    dwArray (headerBytes A bClose) 0 ≠ 0x434C436C ∨
    dwArray (headerBytes A bClose) 1 ≠ 0x69656E74 ∨
    announcedSize A bClose = 0 ∨
    dwMaxAllocMemorySize ≤ (announcedSize A bClose).toUInt64

theorem customeRecv_header (A : Answers) (bClose : Bool) :
    let r := customeRecv 16 A.header bClose []
    r.buf = headerBytes A bClose ∧ r.bClose = closedEarly A bClose ∧
      r.nRetCode =
        if (headerBytes A bClose).length < 16 ∧ closedEarly A bClose = false then none
        else some (headerBytes A bClose).length := by
  cases bClose with
  | true => simp [customeRecv_closed, headerBytes, closedEarly]
  | false =>
      rcases customeRecv_open 16 A.header [] (by decide) with ⟨hbuf, hfull, hshort⟩
      rw [List.nil_append] at hbuf hfull hshort
      rcases Nat.lt_or_ge (arrived A.header).length 16 with hless | hle
      · rcases hshort hless with ⟨hclose, hret⟩
        have hall : (arrived A.header).take 16 = arrived A.header :=
          List.take_of_length_le (Nat.le_of_lt hless)
        cases hcloses : closes A.header with
        | true =>
            simp [hbuf, hclose, hret, headerBytes, closedEarly, hall, hless, hcloses]
        | false =>
            simp [hbuf, hclose, hret, headerBytes, closedEarly, hall, hless, hcloses]
      · rcases hfull hle with ⟨hret, hclose⟩
        simp [hbuf, hclose, hret, headerBytes, closedEarly, hle]

theorem getClientSendSize_eq (A : Answers) (bClose : Bool) :
    getClientSendSize A.header bClose =
      (if headerBytes A bClose = [] ∨
          ((headerBytes A bClose).length < 16 ∧ closedEarly A bClose = false) ∨
          dwArray (headerBytes A bClose) 0 ≠ 0x434C436C ∨
          dwArray (headerBytes A bClose) 1 ≠ 0x69656E74 ∨
          announcedSize A bClose = 0 then none
        else some (announcedSize A bClose, dwArray (headerBytes A bClose) 3),
      closedEarly A bClose) := by
  rcases customeRecv_header A bClose with ⟨hbuf, hclose, hret⟩
  unfold getClientSendSize
  simp only [hbuf, hclose, hret]
  by_cases hshort : (headerBytes A bClose).length < 16 ∧ closedEarly A bClose = false
  · rw [if_pos hshort, if_pos (Or.inr (Or.inl hshort))]
  · rw [if_neg hshort]
    by_cases hnone : headerBytes A bClose = []
    · rw [if_pos (Or.inl hnone)]
      show (if (headerBytes A bClose).length = 0 then _ else _) = _
      rw [if_pos (List.length_eq_zero_iff.mpr hnone)]
    · show (if (headerBytes A bClose).length = 0 then _ else _) = _
      rw [if_neg (mt List.length_eq_zero_iff.mp hnone)]
      by_cases hwrong : dwArray (headerBytes A bClose) 0 ≠ 0x434C436C ∨
          dwArray (headerBytes A bClose) 1 ≠ 0x69656E74 ∨
          announcedSize A bClose = 0
      · rw [if_pos (Or.inr (Or.inr hwrong))]
        exact if_pos hwrong
      · rw [if_neg (not_or.mpr ⟨hnone, not_or.mpr ⟨hshort, hwrong⟩⟩)]
        exact if_neg hwrong

/-!
## The body
-/

theorem store_inside {buff bs : List BYTE} {i : Nat}
    (h : i + bs.length ≤ buff.length) : store buff i bs = some (splice buff i bs) :=
  if_pos h

theorem recvBody_arrives {uSize : Nat} {body : List RecvTurn} {buff : List BYTE}
    (hbuff : buff.length = uSize) (hsize : 4 ≤ uSize)
    (harrives : uSize - 4 ≤ (arrived body).length) :
    recvBody uSize 4 body false buff =
      some (uSize, splice buff 4 ((arrived body).take (uSize - 4)), false) := by
  rcases Nat.eq_or_lt_of_le hsize with heq | hlt
  · rw [recvBody, if_neg (by omega), ← heq]
    simp [splice]
  · rcases customeRecv_open (uSize - 4) body [] (by simpa using hlt) with
      ⟨hbuf, hfull, _⟩
    rw [List.nil_append] at hbuf hfull
    rcases hfull harrives with ⟨hret, hclose⟩
    have hlength : ((arrived body).take (uSize - 4)).length = uSize - 4 :=
      List.length_take_of_le harrives
    have hstore : store buff 4 ((arrived body).take (uSize - 4)) = some _ :=
      store_inside (by omega)
    rw [recvBody, if_pos hlt]
    simp only [hbuf, hret, hclose, hstore]
    rw [if_neg (by omega), recvBody, if_neg (by omega)]
    congr 2
    omega

theorem recvBody_closed {uSize dwIndex : Nat} {body : List RecvTurn}
    {buff : List BYTE} (hbuff : buff.length = uSize) (h : dwIndex ≤ uSize) :
    recvBody uSize dwIndex body true buff = some (dwIndex, buff, true) := by
  rw [recvBody]
  by_cases hlt : dwIndex < uSize
  · rw [if_pos hlt, customeRecv_closed]
    have hstore : store buff dwIndex [] = some buff := by
      rw [store_inside (by simpa [hbuff] using h)]
      simp [splice]
    simp [hstore]
  · rw [if_neg hlt]

theorem recvBody_cut {uSize : Nat} {body : List RecvTurn} {buff : List BYTE}
    (hbuff : buff.length = uSize) (hcut : (arrived body).length < uSize - 4) :
    exists dwIndex buff', recvBody uSize 4 body false buff =
      some (dwIndex, buff', closes body) ∧ dwIndex < uSize := by
  rcases customeRecv_open (uSize - 4) body [] (Nat.zero_lt_of_lt hcut) with
    ⟨hbuf, _, hshort⟩
  rw [List.nil_append] at hbuf hshort
  rw [List.take_of_length_le (Nat.le_of_lt hcut)] at hbuf
  rcases hshort hcut with ⟨hclose, hret⟩
  have hinside : 4 + (arrived body).length ≤ buff.length := by omega
  have hstore := store_inside hinside
  rw [recvBody, if_pos (by omega)]
  simp only [hbuf, hret, hclose, hstore]
  cases hcloses : closes body with
  | false => exact ⟨4, _, rfl, by omega⟩
  | true =>
      by_cases hnothing : (arrived body).length = 0
      · exact ⟨4, splice buff 4 (arrived body), by simp [hnothing], by omega⟩
      · refine ⟨4 + (arrived body).length, splice buff 4 (arrived body), ?_, by omega⟩
        have hlength := length_splice hinside
        simp only [if_true, hnothing, if_false]
        exact recvBody_closed (hlength.trans hbuff) (by omega)

/-!
## The turn
-/

section

variable {dwMaxAllocMemorySize : ULONGLONG} {A : Answers} {bClose : Bool}

theorem recvTurn_refused (h : Refused dwMaxAllocMemorySize A bClose) :
    recvTurn dwMaxAllocMemorySize A bClose = (.broken, closedEarly A bClose) := by
  unfold recvTurn
  rw [getClientSendSize_eq]
  by_cases hheader : headerBytes A bClose = [] ∨
      ((headerBytes A bClose).length < 16 ∧ closedEarly A bClose = false) ∨
      dwArray (headerBytes A bClose) 0 ≠ 0x434C436C ∨
      dwArray (headerBytes A bClose) 1 ≠ 0x69656E74 ∨
      announcedSize A bClose = 0
  · rw [if_pos hheader]
  · have hlarge : dwMaxAllocMemorySize ≤ (announcedSize A bClose).toUInt64 := by
      unfold Refused at h
      tauto
    rw [if_neg hheader]
    exact if_pos hlarge

theorem recvTurn_taken (h : ¬ Refused dwMaxAllocMemorySize A bClose) :
    recvTurn dwMaxAllocMemorySize A bClose =
      match store (List.replicate (announcedSize A bClose).toNat 0) 0
          (wordBytes (dwArray (headerBytes A bClose) 3)) with
      | none => (.outside, closedEarly A bClose)
      | some buff =>
          match recvBody (announcedSize A bClose).toNat 4 A.body
              (closedEarly A bClose) buff with
          | none => (.outside, closedEarly A bClose)
          | some (dwIndex, buff, bClose') =>
              if dwIndex ≠ (announcedSize A bClose).toNat then (.reSend, bClose')
              else (.accepted buff, bClose') := by
  unfold recvTurn
  rw [getClientSendSize_eq, if_neg (by unfold Refused at h; tauto)]
  exact if_neg (by unfold Refused at h; tauto)

theorem recvTurn_small (h : ¬ Refused dwMaxAllocMemorySize A bClose)
    (hsize : announcedSize A bClose < 4) :
    recvTurn dwMaxAllocMemorySize A bClose = (.outside, closedEarly A bClose) := by
  have hnat : (announcedSize A bClose).toNat < 4 := UInt32.lt_iff_toNat_lt.mp hsize
  have hstore : store (List.replicate (announcedSize A bClose).toNat 0) 0
      (wordBytes (dwArray (headerBytes A bClose) 3)) = none :=
    if_neg (by rw [List.length_replicate]; simp [wordBytes]; omega)
  rw [recvTurn_taken h, hstore]

theorem recvTurn_body (h : ¬ Refused dwMaxAllocMemorySize A bClose)
    (hsize : 4 ≤ announcedSize A bClose) :
    exists buff : List BYTE, buff.length = (announcedSize A bClose).toNat ∧
      buff.take 4 = wordBytes (dwArray (headerBytes A bClose) 3) ∧
      recvTurn dwMaxAllocMemorySize A bClose =
        match recvBody (announcedSize A bClose).toNat 4 A.body
            (closedEarly A bClose) buff with
        | none => (.outside, closedEarly A bClose)
        | some (dwIndex, buff, bClose') =>
            if dwIndex ≠ (announcedSize A bClose).toNat then (.reSend, bClose')
            else (.accepted buff, bClose') := by
  have hnat : 4 ≤ (announcedSize A bClose).toNat := UInt32.le_iff_toNat_le.mp hsize
  have hroom : 0 + (wordBytes (dwArray (headerBytes A bClose) 3)).length ≤
      (List.replicate (announcedSize A bClose).toNat (0 : BYTE)).length := by
    rw [List.length_replicate]
    exact hnat
  refine ⟨_, (length_splice hroom).trans List.length_replicate, ?_, ?_⟩
  · have hid : (splice (List.replicate (announcedSize A bClose).toNat 0) 0
        (wordBytes (dwArray (headerBytes A bClose) 3))).take
          (0 + (wordBytes (dwArray (headerBytes A bClose) 3)).length) = _ :=
      take_splice (Nat.zero_le _)
    exact hid
  · rw [recvTurn_taken h, store_inside hroom]

theorem recvTurn_accepted (h : ¬ Refused dwMaxAllocMemorySize A bClose)
    (hsize : 4 ≤ announcedSize A bClose) (hopen : closedEarly A bClose = false)
    (harrives : (announcedSize A bClose).toNat - 4 ≤ (arrived A.body).length) :
    recvTurn dwMaxAllocMemorySize A bClose =
      (.accepted (wordBytes (dwArray (headerBytes A bClose) 3) ++
        (arrived A.body).take ((announcedSize A bClose).toNat - 4)), false) := by
  have hnat : 4 ≤ (announcedSize A bClose).toNat := UInt32.le_iff_toNat_le.mp hsize
  rcases recvTurn_body h hsize with ⟨buff, hbuff, hid, hturn⟩
  have hlength := List.length_take_of_le harrives
  have hpacket : splice buff 4
      ((arrived A.body).take ((announcedSize A bClose).toNat - 4)) =
      wordBytes (dwArray (headerBytes A bClose) 3) ++
        (arrived A.body).take ((announcedSize A bClose).toNat - 4) := by
    rw [splice, hid, List.drop_of_length_le (by omega), List.append_nil]
  rw [hturn, hopen, recvBody_arrives hbuff hnat harrives]
  simp [hpacket]

theorem recvTurn_closed (h : ¬ Refused dwMaxAllocMemorySize A bClose)
    (hsize : 4 ≤ announcedSize A bClose) (hclosed : closedEarly A bClose = true) :
    (recvTurn dwMaxAllocMemorySize A bClose).1 ≠ .outside ∧
      (recvTurn dwMaxAllocMemorySize A bClose).2 = true := by
  have hnat : 4 ≤ (announcedSize A bClose).toNat := UInt32.le_iff_toNat_le.mp hsize
  rcases recvTurn_body h hsize with ⟨buff, hbuff, _, hturn⟩
  rw [hturn, hclosed, recvBody_closed hbuff hnat]
  by_cases hfour : 4 ≠ (announcedSize A bClose).toNat
  · simp [hfour]
  · simp [hfour]

theorem recvTurn_cut (h : ¬ Refused dwMaxAllocMemorySize A bClose)
    (hsize : 4 ≤ announcedSize A bClose) (hopen : closedEarly A bClose = false)
    (hcut : (arrived A.body).length < (announcedSize A bClose).toNat - 4) :
    recvTurn dwMaxAllocMemorySize A bClose = (.reSend, closes A.body) := by
  rcases recvTurn_body h hsize with ⟨buff, hbuff, _, hturn⟩
  rcases recvBody_cut hbuff hcut with ⟨dwIndex, buff', hbody, hlt⟩
  rw [hturn, hopen, hbody]
  exact if_pos (Nat.ne_of_lt hlt)

end

/--
A turn writes inside the buffer, and the client is broken off or `bRecving` is
cleared.
-/
def Framed (r : Outcome × Bool) : Prop :=
  r.1 ≠ .outside ∧ (r.1 = .broken ∨ r.2 = true ∨ r.1.bRecving = false)

/-- A packet whose size has room for the message id and whose body comes whole. -/
def Complete (A : Answers) (bClose : Bool) : Prop :=
  4 ≤ announcedSize A bClose ∧
    (closedEarly A bClose = true ∨
      (announcedSize A bClose).toNat - 4 ≤ (arrived A.body).length ∨
      closes A.body = true)

/--
Whatever the socket answers, a turn writes inside the buffer and either breaks
the client off or lets its next packet be received, exactly if the header is
refused or the packet is complete.
-/
theorem recvTurn_framing_iff (dwMaxAllocMemorySize : ULONGLONG) (A : Answers)
    (bClose : Bool) :
    Framed (recvTurn dwMaxAllocMemorySize A bClose) ↔
      Refused dwMaxAllocMemorySize A bClose ∨ Complete A bClose := by
  unfold Framed
  by_cases hrefused : Refused dwMaxAllocMemorySize A bClose
  · simp [recvTurn_refused hrefused, hrefused]
  · by_cases hsize : 4 ≤ announcedSize A bClose
    · cases hclosed : closedEarly A bClose with
      | true =>
          rcases recvTurn_closed hrefused hsize hclosed with ⟨hinside, hbroken⟩
          simp [hinside, hbroken, Complete, hsize, hclosed]
      | false =>
          rcases Nat.lt_or_ge (arrived A.body).length
            ((announcedSize A bClose).toNat - 4) with hcut | harrives
          · have hless : ¬ (announcedSize A bClose).toNat - 4 ≤
                (arrived A.body).length := Nat.not_le_of_lt hcut
            rw [recvTurn_cut hrefused hsize hclosed hcut]
            simp only [Complete, hrefused, hsize, hclosed, hless, Outcome.bRecving]
            simp
          · rw [recvTurn_accepted hrefused hsize hclosed harrives]
            simp only [Complete, hrefused, hsize, hclosed, harrives, Outcome.bRecving]
            simp
    · have hsmall : announcedSize A bClose < 4 := UInt32.not_le.mp hsize
      simp [recvTurn_small hrefused hsmall, hrefused, Complete, hsize]

def twoBytes : Answers where
  header := [.data (wordBytes 0x434C436C ++ wordBytes 0x69656E74 ++ wordBytes 2 ++
    wordBytes 3)]
  body := []

def cutShort : Answers where
  header := [.data (wordBytes 0x434C436C ++ wordBytes 0x69656E74 ++ wordBytes 8 ++
    wordBytes 3)]
  body := [.timeout]

/--
The message id is written past two allocated bytes, and after a body that does
not come in time the client is never received from again.
-/
theorem small_and_cut_packets_not_framed :
    ¬ Framed (recvTurn 2048 twoBytes false) ∧
      ¬ Framed (recvTurn 2048 cutShort false) := by
  have hsmall : recvTurn 2048 twoBytes false = (.outside, false) :=
    recvTurn_small (by unfold Refused; decide) (by decide)
  have hcut : recvTurn 2048 cutShort false = (.reSend, false) :=
    recvTurn_cut (by unfold Refused; decide) (by decide) (by decide) (by decide)
  constructor
  · rw [hsmall]
    exact fun h => h.left rfl
  · rw [hcut]
    simp [Framed, Outcome.bRecving]

end OldServer
end BnsKorea
