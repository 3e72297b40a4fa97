import Mathlib.Logic.Function.Basic
import BnsKorea.Library.Machines
import BnsKorea.Common.MyTools
import BnsKorea.OldServer.Receiving

/-!
# The connections of the old server

The threads of the old server hand connections to each other through queues.  A
connection is an object that the list of connections and the queues point to.
It has a hash that is drawn when it is accepted, and the thread that breaks
connections off finds them in the list by their hash.  The server is not being
stopped.
-/

namespace BnsKorea
namespace OldServer

open Library

def INVALID_SOCKET : SOCKET := 0xFFFFFFFF

/-- `SocketClientInfo` with the socket of its session. -/
structure SocketClientInfo where
  sClient : SOCKET := 0
  ulKeepALiveTick : ULONGLONG := 0
  bRecving : Bool := false
  ulRecvTick : ULONGLONG := 0
  ulHash : ULONGLONG := 0
  bClose : Bool := false
deriving DecidableEq

/-- The objects by their pointers, and what points to them. -/
structure CSocketServer where
  infos : Nat -> SocketClientInfo := fun _ => {}
  /-- The pointer of the next object. -/
  next : Nat := 0
  socketClientBufferDeque : List Nat := []
  tryRecvQueue : List Nat := []
  sendQueue : List Nat := []
  waitToProcessQueue : List (Nat × List BYTE) := []
  breakConnectQueue : List Nat := []

/-- The limits that `SetSocketVariable` sets. -/
structure SocketVariable where
  dwMaxAllocMemorySize : ULONGLONG := 2 * 1024
  dwMaxKeepAliveTimeOut : DWORD := 1 * 60 * 1000

namespace CSocketServer

variable (T : MyTools) (V : SocketVariable)

def setInfo (Ptr : Nat) (fn : SocketClientInfo -> SocketClientInfo)
    (s : CSocketServer) : CSocketServer :=
  { s with infos := Function.update s.infos Ptr (fn (s.infos Ptr)) }

def addToBreakQueue (Ptr : Nat) (s : CSocketServer) : CSocketServer :=
  { s with breakConnectQueue := s.breakConnectQueue ++ [Ptr] }

/-- A turn of `_AcceptThread` that has got a socket. -/
def accept (sClient : SOCKET) (ulNow : ULONGLONG) (dwRand : DWORD)
    (s : CSocketServer) : CSocketServer :=
  { s with
    infos := Function.update s.infos s.next
      { sClient := sClient
        ulKeepALiveTick := ulNow
        bRecving := false
        ulRecvTick := ulNow
        ulHash := ulNow &&& dwRand.toUInt64
        bClose := false }
    next := s.next + 1
    socketClientBufferDeque := s.socketClientBufferDeque ++ [s.next] }

/-- What `_TryRecvThread` does with one connection; `select` is what it asks. -/
def tryRecv (ulNow : ULONGLONG) (select : Nat -> Int) (Ptr : Nat)
    (s : CSocketServer) : CSocketServer :=
  let itm := s.infos Ptr
  if itm.ulKeepALiveTick ≠ 0 ∧
      V.dwMaxKeepAliveTimeOut ≤ (ulNow - itm.ulKeepALiveTick).toUInt32 then
    (s.setInfo Ptr fun itm => { itm with ulKeepALiveTick := 0 }).addToBreakQueue Ptr
  else if itm.bRecving then s
  else if select Ptr ≠ 0 then
    let s := s.setInfo Ptr fun itm =>
      { itm with ulKeepALiveTick := ulNow, ulRecvTick := ulNow, bRecving := true }
    { s with tryRecvQueue := s.tryRecvQueue ++ [Ptr] }
  else s

/-- One pass of `_TryRecvThread` over the connections. -/
def tryRecvPass (ulNow : ULONGLONG) (select : Nat -> Int) (s : CSocketServer) :
    CSocketServer :=
  s.socketClientBufferDeque.foldl (fun s Ptr => tryRecv V ulNow select Ptr s) s

/--
A turn of a `_RecvThread`.  What a write past the end of the buffer destroys is
not modelled; the turn goes on as the code does.
-/
def recv (A : Answers) (s : CSocketServer) : CSocketServer :=
  match s.tryRecvQueue with
  | [] => s
  | Ptr :: rest =>
      let s := { s with tryRecvQueue := rest }
      match (recvTurn V.dwMaxAllocMemorySize A (s.infos Ptr).bClose).1 with
      | .broken => s.addToBreakQueue Ptr
      | .outside => { s with sendQueue := s.sendQueue ++ [Ptr] }
      | .reSend => { s with sendQueue := s.sendQueue ++ [Ptr] }
      | .accepted packet =>
          let s := s.setInfo Ptr fun itm => { itm with bRecving := false }
          { s with waitToProcessQueue := s.waitToProcessQueue ++ [(Ptr, packet)] }

def process (bSend : Bool) (s : CSocketServer) : CSocketServer :=
  match s.waitToProcessQueue with
  | [] => s
  | (Ptr, _) :: rest =>
      { s with
        waitToProcessQueue := rest
        sendQueue := if bSend then s.sendQueue ++ [Ptr] else s.sendQueue }

/-- A turn of a `_SendThread`; `bSent` is false if `send` fails. -/
def send (bSent : Bool) (s : CSocketServer) : CSocketServer :=
  match s.sendQueue with
  | [] => s
  | Ptr :: rest =>
      let s := { s with sendQueue := rest }
      if bSent then s else s.addToBreakQueue Ptr

/-- The socket is closed, unless it is zero. -/
def closeClient (Ptr : Nat) (s : CSocketServer) : CSocketServer :=
  if (s.infos Ptr).sClient = 0 then s
  else
    s.setInfo Ptr fun itm => { itm with bClose := true, sClient := INVALID_SOCKET }

/-- A turn of `_BreakConnectThread`. -/
def breakConnect (s : CSocketServer) : CSocketServer :=
  match s.breakConnectQueue with
  | [] => s
  | Ptr :: rest =>
      let s := closeClient Ptr { s with breakConnectQueue := rest }
      { s with
        socketClientBufferDeque := T.dqueEraseIf s.socketClientBufferDeque
          fun Ptr' => (s.infos Ptr).ulHash = (s.infos Ptr').ulHash }

/-!
## The machine
-/

inductive Turn where
  | accept (sClient : SOCKET) (ulNow : ULONGLONG) (dwRand : DWORD)
  | tryRecvPass (ulNow : ULONGLONG) (select : Nat -> Int)
  | recv (A : Answers)
  | process (bSend : Bool)
  | send (bSent : Bool)
  | breakConnect

def apply : Turn -> CSocketServer -> CSocketServer
  | .accept sClient ulNow dwRand, s => accept sClient ulNow dwRand s
  | .tryRecvPass ulNow select, s => tryRecvPass V ulNow select s
  | .recv A, s => recv V A s
  | .process bSend, s => process bSend s
  | .send bSent, s => send bSent s
  | .breakConnect, s => breakConnect T s

/-- The threads of the server, one turn after the other in any order. -/
def machine : Machine CSocketServer Turn where
  enabled _ _ := True
  step := apply T V

end CSocketServer
end OldServer
end BnsKorea
