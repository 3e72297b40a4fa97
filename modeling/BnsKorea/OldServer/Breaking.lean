import BnsKorea.OldServer.SocketServer

/-!
# Breaking one connection off

The list loses every connection whose hash is that of the one that is broken
off, and a hash is a clock and a random number, so it need not be the only one.
-/

namespace BnsKorea
namespace OldServer
namespace CSocketServer

open Library

/-- The connection leaves the list and is closed, and nothing else changes. -/
structure BreaksOnly (Ptr : Nat) (s t : CSocketServer) : Prop where
  removed : t.socketClientBufferDeque =
    s.socketClientBufferDeque.filter fun Ptr' => decide (Ptr' ≠ Ptr)
  closed : (t.infos Ptr).bClose = true ∧ (t.infos Ptr).sClient = INVALID_SOCKET
  others : forall Ptr', Ptr' ≠ Ptr -> t.infos Ptr' = s.infos Ptr'

/-- The connection has a socket, and no other one in the list has its hash. -/
structure Apart (Ptr : Nat) (s : CSocketServer) : Prop where
  socket : (s.infos Ptr).sClient ≠ 0
  hash : forall Ptr', Ptr' ∈ s.socketClientBufferDeque ->
    (s.infos Ptr').ulHash = (s.infos Ptr).ulHash -> Ptr' = Ptr

/-!
## One turn of the breaking thread
-/

section

variable {T : MyTools} {s : CSocketServer} {Ptr : Nat} {rest : List Nat}

theorem closeClient_ulHash (Ptr Ptr' : Nat) (s : CSocketServer) :
    ((closeClient Ptr s).infos Ptr').ulHash = (s.infos Ptr').ulHash := by
  unfold closeClient
  split
  · rfl
  · by_cases h : Ptr' = Ptr
    · rw [h]
      simp [setInfo]
    · simp [setInfo, Function.update_of_ne h]

theorem closeClient_others {Ptr' : Nat} (h : Ptr' ≠ Ptr) (s : CSocketServer) :
    (closeClient Ptr s).infos Ptr' = s.infos Ptr' := by
  unfold closeClient
  split
  · rfl
  · simp [setInfo, Function.update_of_ne h]

theorem closeClient_closed_iff (Ptr : Nat) (s : CSocketServer) :
    (((closeClient Ptr s).infos Ptr).bClose = true ∧
        ((closeClient Ptr s).infos Ptr).sClient = INVALID_SOCKET) ↔
      (s.infos Ptr).sClient ≠ 0 := by
  unfold closeClient
  by_cases hzero : (s.infos Ptr).sClient = 0
  · rw [if_pos hzero, hzero]
    simp [INVALID_SOCKET]
  · rw [if_neg hzero]
    simp [setInfo, hzero]

theorem closeClient_deque (Ptr : Nat) (s : CSocketServer) :
    (closeClient Ptr s).socketClientBufferDeque = s.socketClientBufferDeque := by
  unfold closeClient
  split
  · rfl
  · rfl

theorem breakConnect_deque (hT : T.ErasesAll)
    (h : s.breakConnectQueue = Ptr :: rest) :
    (breakConnect T s).socketClientBufferDeque =
      s.socketClientBufferDeque.filter fun Ptr' =>
        decide ((s.infos Ptr').ulHash ≠ (s.infos Ptr).ulHash) := by
  rw [breakConnect, h]
  show T.dqueEraseIf _ _ = _
  rw [hT, closeClient_deque]
  apply List.filter_congr
  intro Ptr' _
  rw [closeClient_ulHash, closeClient_ulHash]
  simp [eq_comm]

theorem breakConnect_infos (h : s.breakConnectQueue = Ptr :: rest) :
    (breakConnect T s).infos =
      (closeClient Ptr { s with breakConnectQueue := rest }).infos := by
  rw [breakConnect, h]

theorem filter_hash_iff :
    (s.socketClientBufferDeque.filter fun Ptr' =>
        decide ((s.infos Ptr').ulHash ≠ (s.infos Ptr).ulHash)) =
      (s.socketClientBufferDeque.filter fun Ptr' => decide (Ptr' ≠ Ptr)) ↔
      forall Ptr', Ptr' ∈ s.socketClientBufferDeque ->
        (s.infos Ptr').ulHash = (s.infos Ptr).ulHash -> Ptr' = Ptr := by
  constructor
  · intro hsame Ptr' hmem hhash
    by_cases heq : Ptr' = Ptr
    · exact heq
    · have hkept : Ptr' ∈ s.socketClientBufferDeque.filter
          fun Ptr' => decide (Ptr' ≠ Ptr) :=
        List.mem_filter.mpr ⟨hmem, decide_eq_true heq⟩
      rw [← hsame] at hkept
      exact absurd hhash (of_decide_eq_true (List.mem_filter.mp hkept).right)
  · intro hapart
    apply List.filter_congr
    intro Ptr' hmem
    have hiff : (s.infos Ptr').ulHash = (s.infos Ptr).ulHash ↔ Ptr' = Ptr := by
      constructor
      · exact hapart Ptr' hmem
      · intro heq
        rw [heq]
    rw [decide_eq_decide, Ne, Ne, hiff]

theorem breakConnect_only_iff (hT : T.ErasesAll)
    (h : s.breakConnectQueue = Ptr :: rest) :
    BreaksOnly Ptr s (breakConnect T s) ↔ Apart Ptr s := by
  have hclosed := closeClient_closed_iff Ptr { s with breakConnectQueue := rest }
  have hothers : forall Ptr', Ptr' ≠ Ptr ->
      (breakConnect T s).infos Ptr' = s.infos Ptr' := by
    intro Ptr' hne
    rw [breakConnect_infos h]
    exact closeClient_others hne _
  rw [← breakConnect_infos (T := T) h] at hclosed
  constructor
  · intro hbreaks
    have hremoved := hbreaks.removed
    rw [breakConnect_deque hT h] at hremoved
    exact ⟨hclosed.mp hbreaks.closed, filter_hash_iff.mp hremoved⟩
  · intro hapart
    refine ⟨?_, hclosed.mpr hapart.socket, hothers⟩
    rw [breakConnect_deque hT h]
    exact filter_hash_iff.mpr hapart.hash

end

/-!
## Whole runs
-/

/-- What is asked of a turn: the breaking thread breaks off only what it handles. -/
def BreaksRight (T : MyTools) : Turn -> CSocketServer -> Prop
  | .breakConnect, s => forall Ptr rest, s.breakConnectQueue = Ptr :: rest ->
      BreaksOnly Ptr s (breakConnect T s)
  | _, _ => True

/-- The condition on a turn of the breaking thread. -/
def HandlesApart : Turn -> CSocketServer -> Prop
  | .breakConnect, s => forall Ptr rest, s.breakConnectQueue = Ptr :: rest ->
      Apart Ptr s
  | _, _ => True

theorem breaksRight_iff {T : MyTools} (hT : T.ErasesAll) (turn : Turn)
    (s : CSocketServer) : BreaksRight T turn s ↔ HandlesApart turn s := by
  cases turn with
  | breakConnect =>
      constructor
      · exact fun h Ptr rest hqueue =>
          (breakConnect_only_iff hT hqueue).mp (h Ptr rest hqueue)
      · exact fun h Ptr rest hqueue =>
          (breakConnect_only_iff hT hqueue).mpr (h Ptr rest hqueue)
  | accept sClient ulNow dwRand => exact Iff.rfl
  | tryRecvPass ulNow select => exact Iff.rfl
  | recv A => exact Iff.rfl
  | process bSend => exact Iff.rfl
  | send bSent => exact Iff.rfl

/--
In every run of a new server, breaking a connection off removes and closes only
that one, exactly if whenever one is handled it has a socket and no other
connection in the list has its hash.
-/
theorem breaks_only_handled_iff {T : MyTools} (hT : T.ErasesAll)
    (V : SocketVariable) (turns : List Turn) :
    (forall n turn, turns[n]? = some turn ->
        BreaksRight T turn ((machine T V).play (turns.take n) {})) ↔
      forall n turn, turns[n]? = some turn ->
        HandlesApart turn ((machine T V).play (turns.take n) {}) :=
  Machine.play_each_iff (fun _ => True) (BreaksRight T) HandlesApart
    (fun _ _ _ _ => trivial) (fun turn s _ => breaksRight_iff hT turn s) turns trivial

/-- Two clients whose random number is zero; the first one hangs up. -/
def sameHash : List Turn :=
  [.accept 4 1000 0, .accept 8 1001 0,
    .tryRecvPass 1010 fun Ptr => if Ptr = 0 then 1 else 0,
    .recv { header := [.failed], body := [] }, .breakConnect]

theorem breaks_only_handled_iff_sameHash :
    (forall n turn, sameHash[n]? = some turn ->
        BreaksRight MyTools.standard turn
          ((machine MyTools.standard {}).play (sameHash.take n) {})) ↔
      forall n turn, sameHash[n]? = some turn ->
        HandlesApart turn
          ((machine MyTools.standard {}).play (sameHash.take n) {}) :=
  breaks_only_handled_iff MyTools.standard_erasesAll {} sameHash

/-- The second client leaves the list with the first. -/
theorem sameHash_removes_both :
    ¬ forall n turn, sameHash[n]? = some turn ->
      BreaksRight MyTools.standard turn
        ((machine MyTools.standard {}).play (sameHash.take n) {}) := by
  intro h
  have hremoved := (h 4 .breakConnect rfl 0 [] (by decide +kernel)).removed
  revert hremoved
  decide +kernel

end CSocketServer
end OldServer
end BnsKorea
