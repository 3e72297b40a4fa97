import Mathlib.Data.Fintype.Sum
import BnsKorea.Library.EventQueues

/-!
# The threads of the old server and their queues

Every queue of `CSocketServer` has a lock and an event that resets itself.
`AddTo...` appends under the lock and sets the event afterwards; `Get...` waits
for the event only if the queue was empty the last time, then takes the first
element under the lock.  A wait that runs out changes nothing and is left out.
The server is not being stopped.
-/

namespace BnsKorea
namespace OldServer

open Library Library.EventQueues

/-- The four queues. -/
inductive QueueName where
  | tryRecv
  | waitToProcess
  | send
  | breakConnect
deriving DecidableEq

namespace QueueName

def all : Finset QueueName :=
  {.tryRecv, .waitToProcess, .send, .breakConnect}

theorem mem_all (i : QueueName) : i ∈ all := by
  cases i <;> decide

instance fintype : Fintype QueueName :=
  ⟨all, mem_all⟩

theorem sum_eq (f : QueueName -> Nat) :
    (∑ i, f i) = f .tryRecv + f .waitToProcess + f .send + f .breakConnect := by
  have hsum : (∑ i, f i) = ∑ i ∈ all, f i := rfl
  rw [hsum, all, Finset.sum_insert (by decide), Finset.sum_insert (by decide),
    Finset.sum_insert (by decide), Finset.sum_singleton, Nat.add_assoc, Nat.add_assoc]

end QueueName

/-- The threads that take from the queues, by the numbers they are started in. -/
inductive ServerThread (uThreadCount uWorkCount : Nat) where
  | recv (i : Fin uThreadCount)
  | work (i : Fin uWorkCount)
  | send (i : Fin uThreadCount)
  | breakConnect
deriving DecidableEq

namespace ServerThread

variable {uThreadCount uWorkCount : Nat}

def toSum : ServerThread uThreadCount uWorkCount ->
    (Fin uThreadCount ⊕ Fin uWorkCount) ⊕ (Fin uThreadCount ⊕ Unit)
  | .recv i => .inl (.inl i)
  | .work i => .inl (.inr i)
  | .send i => .inr (.inl i)
  | .breakConnect => .inr (.inr ())

def ofSum : (Fin uThreadCount ⊕ Fin uWorkCount) ⊕ (Fin uThreadCount ⊕ Unit) ->
    ServerThread uThreadCount uWorkCount
  | .inl (.inl i) => .recv i
  | .inl (.inr i) => .work i
  | .inr (.inl i) => .send i
  | .inr (.inr ()) => .breakConnect

theorem ofSum_surjective :
    Function.Surjective (ofSum : _ -> ServerThread uThreadCount uWorkCount) := by
  intro t
  refine ⟨toSum t, ?_⟩
  cases t <;> rfl

instance fintype : Fintype (ServerThread uThreadCount uWorkCount) :=
  Fintype.ofSurjective ofSum ofSum_surjective

end ServerThread

/--
What the threads do with a request.  `_RecvThread` breaks its connection off,
sends it back or hands it to `_WorkThread`, which always answers it.
`_SendThread` may break the connection off, `_BreakConnectThread` ends there.
-/
inductive HandsOver : QueueName -> QueueName -> Prop where
  | recvBreaks : HandsOver .tryRecv .breakConnect
  | recvSendsBack : HandsOver .tryRecv .send
  | recvReceived : HandsOver .tryRecv .waitToProcess
  | workAnswers : HandsOver .waitToProcess .send
  | sendBreaks : HandsOver .send .breakConnect

/-- How many queues a request can still come through. -/
def queueRank : QueueName -> Nat
  | .tryRecv => 3
  | .waitToProcess => 2
  | .send => 1
  | .breakConnect => 0

theorem queueRank_lt (i j : QueueName) (h : HandsOver i j) :
    queueRank j < queueRank i := by
  cases h <;> decide

/-- The queues whose threads may be done with a request. -/
def Ends (i : QueueName) : Prop :=
  i = .send ∨ i = .breakConnect

theorem ends_or_handsOver (i : QueueName) : Ends i ∨ exists j, HandsOver i j := by
  cases i with
  | tryRecv => exact Or.inr ⟨_, .recvBreaks⟩
  | waitToProcess => exact Or.inr ⟨_, .workAnswers⟩
  | send => exact Or.inl (Or.inl rfl)
  | breakConnect => exact Or.inl (Or.inr rfl)

def serves {uThreadCount uWorkCount : Nat} :
    ServerThread uThreadCount uWorkCount -> QueueName
  | .recv _ => .tryRecv
  | .work _ => .waitToProcess
  | .send _ => .send
  | .breakConnect => .breakConnect

def serverNetwork (uThreadCount uWorkCount : Nat) :
    Network QueueName (ServerThread uThreadCount uWorkCount) where
  serves := serves
  ends := Ends
  hands := HandsOver
  rank := queueRank
  rank_lt := queueRank_lt
  ends_or_hands := ends_or_handsOver

section

universe u

variable {request : Type u} {uThreadCount uWorkCount : Nat}

/-- From outside, `_TryRecvThread` alone appends, and only to two of the queues. -/
def ByTryRecvThread :
    Label QueueName (ServerThread uThreadCount uWorkCount) request -> Prop
  | .offer i _ => i = .tryRecv ∨ i = .breakConnect
  | _ => True

/-- The states of the queues and the threads in any interleaving. -/
def ServerRuns
    (s : State QueueName (ServerThread uThreadCount uWorkCount) request) : Prop :=
  (serverNetwork uThreadCount uWorkCount).machine.Run
    (fun l _ => ByTryRecvThread l) {} s

theorem ServerRuns.offered
    {s : State QueueName (ServerThread uThreadCount uWorkCount) request}
    (h : ServerRuns s) : s.offered .waitToProcess = [] ∧ s.offered .send = [] := by
  refine Machine.Run.invariant
    (fun s => s.offered .waitToProcess = [] ∧ s.offered .send = []) ?_ h ⟨rfl, rfl⟩
  intro l s henabled hby hs
  cases l with
  | offer i a =>
      rcases hby with rfl | rfl
      · exact hs
      · exact hs
  | notify i => exact hs
  | wake t => exact hs
  | take t =>
      have hoffered :
          ((serverNetwork uThreadCount uWorkCount).step (.take t) s).offered =
            s.offered := by
        cases hqueue : s.queue (serves t) with
        | nil => simp [Network.step, serverNetwork, hqueue]
        | cons a as => simp [Network.step, serverNetwork, hqueue]
      show ((serverNetwork uThreadCount uWorkCount).step (.take t) s).offered _ = [] ∧
        ((serverNetwork uThreadCount uWorkCount).step (.take t) s).offered _ = []
      rw [hoffered]
      exact hs
  | finish t =>
      rcases henabled with ⟨⟨a, ha⟩, -⟩
      simpa [serverNetwork, Network.machine, Network.step, ha] using hs
  | hand t j =>
      rcases henabled with ⟨⟨a, ha⟩, -⟩
      simpa [serverNetwork, Network.machine, Network.step, ha] using hs
  | signal t =>
      rcases henabled with ⟨i, hi⟩
      simpa [serverNetwork, Network.machine, Network.step, hi] using hs

theorem ServerRuns.of_admits
    {labels : List (Label QueueName (ServerThread uThreadCount uWorkCount) request)}
    (hby : (serverNetwork uThreadCount uWorkCount).machine.Each
      (fun l _ => ByTryRecvThread l) labels {})
    (h : (serverNetwork uThreadCount uWorkCount).machine.Admits labels {}) :
    ServerRuns ((serverNetwork uThreadCount uWorkCount).machine.play labels {}) :=
  h.invariant hby ServerRuns
    (fun _ _ henabled hP hs => Machine.Run.snoc hs henabled hP) (Machine.Run.refl _)

theorem exists_serves (hthreads : 0 < uThreadCount) (hwork : 0 < uWorkCount)
    (i : QueueName) :
    exists t, (serverNetwork uThreadCount uWorkCount).serves t = i := by
  cases i with
  | tryRecv => exact ⟨.recv ⟨0, hthreads⟩, rfl⟩
  | waitToProcess => exact ⟨.work ⟨0, hwork⟩, rfl⟩
  | send => exact ⟨.send ⟨0, hthreads⟩, rfl⟩
  | breakConnect => exact ⟨.breakConnect, rfl⟩

theorem ServerRuns.reachable
    {s : State QueueName (ServerThread uThreadCount uWorkCount) request}
    (h : ServerRuns s) : (serverNetwork uThreadCount uWorkCount).Reachable s :=
  Machine.Run.reaches h

section

variable [DecidableEq request]
  {s : State QueueName (ServerThread uThreadCount uWorkCount) request}

theorem ServerRuns.count_handed (h : ServerRuns s) (a : request) {i j : QueueName}
    (hij : ¬ HandsOver i j) : (s.handed i j).count a = 0 := by
  rw [(Network.Reachable.routed _ h.reachable).2 i j hij, List.count_nil]

theorem ServerRuns.handed_to (h : ServerRuns s) (a : request) :
    (∑ i, (s.handed i .tryRecv).count a) = 0 ∧
    (∑ i, (s.handed i .waitToProcess).count a) =
      (s.handed .tryRecv .waitToProcess).count a ∧
    (∑ i, (s.handed i .send).count a) =
      (s.handed .tryRecv .send).count a + (s.handed .waitToProcess .send).count a := by
  refine ⟨?_, ?_, ?_⟩
  · refine Finset.sum_eq_zero fun i _ => h.count_handed a ?_
    rintro ⟨⟩
  · rw [QueueName.sum_eq, h.count_handed a (i := .waitToProcess) (by rintro ⟨⟩),
      h.count_handed a (i := .send) (by rintro ⟨⟩),
      h.count_handed a (i := .breakConnect) (by rintro ⟨⟩)]
    simp
  · rw [QueueName.sum_eq, h.count_handed a (i := .send) (by rintro ⟨⟩),
      h.count_handed a (i := .breakConnect) (by rintro ⟨⟩)]
    simp

theorem ServerRuns.handed_from (h : ServerRuns s) (a : request) :
    (∑ j, (s.handed .tryRecv j).count a) =
      (s.handed .tryRecv .breakConnect).count a + (s.handed .tryRecv .send).count a +
        (s.handed .tryRecv .waitToProcess).count a ∧
    (∑ j, (s.handed .waitToProcess j).count a) =
      (s.handed .waitToProcess .send).count a := by
  refine ⟨?_, ?_⟩
  · rw [QueueName.sum_eq, h.count_handed a (j := .tryRecv) (by rintro ⟨⟩)]
    omega
  · rw [QueueName.sum_eq, h.count_handed a (j := .tryRecv) (by rintro ⟨⟩),
      h.count_handed a (j := .waitToProcess) (by rintro ⟨⟩),
      h.count_handed a (j := .breakConnect) (by rintro ⟨⟩)]
    simp

omit [DecidableEq request] in
theorem ServerRuns.finished_eq_nil (h : ServerRuns s) :
    s.finished .tryRecv = [] ∧ s.finished .waitToProcess = [] := by
  have hkept := (Network.Reachable.routed _ h.reachable).1
  exact ⟨hkept _ (by simp [serverNetwork, Ends]),
    hkept _ (by simp [serverNetwork, Ends])⟩

/--
Requests are named by their connections.  They are taken from every queue in the
order they were put there.  Unless new ones come in, the threads stop after so
many steps; then the queues are empty, and of every connection as many requests
were received as were broken off by the receiver or taken to be answered.
-/
theorem server_settles (hthreads : 0 < uThreadCount) (hwork : 0 < uWorkCount)
    (h : ServerRuns s) :
    (forall i, s.taken i ++ s.queue i = s.pushed i) ∧
    (forall labels, (forall l, l ∈ labels -> l.IsInner) ->
      (serverNetwork uThreadCount uWorkCount).machine.Admits labels s ->
      labels.length ≤ (serverNetwork uThreadCount uWorkCount).workLeft s) ∧
    ((serverNetwork uThreadCount uWorkCount).AtRest s ->
      (forall i, s.queue i = []) ∧
      forall a, (s.offered .tryRecv).count a =
        (s.handed .tryRecv .breakConnect).count a + (s.taken .send).count a) := by
  have hrun := h.reachable
  refine ⟨Network.Reachable.ordered _ hrun, ?_, ?_⟩
  · intro labels hinner hadmits
    exact Network.length_le_workLeft _ hinner hadmits
  · intro hrest
    have hempty : forall i, s.queue i = [] := by
      intro i
      rcases exists_serves hthreads hwork i with ⟨t, rfl⟩
      exact Network.queue_eq_nil_of_atRest _ (Network.Reachable.awake _ hrun) hrest t
    refine ⟨hempty, fun a => ?_⟩
    have hreceived := (Network.Reachable.settled _ hrun hrest (.recv ⟨0, hthreads⟩)).2 a
    have hprocessed := (Network.Reachable.settled _ hrun hrest (.work ⟨0, hwork⟩)).2 a
    have hsent := Network.Reachable.supplied _ hrun .send a
    have htaken : s.taken .send = s.pushed .send := by
      simpa [hempty .send] using Network.Reachable.ordered _ hrun .send
    rcases h.handed_to a with ⟨htoRecv, htoWork, htoSend⟩
    rcases h.handed_from a with ⟨hfromRecv, hfromWork⟩
    simp only [serverNetwork, serves, h.finished_eq_nil.1, htoRecv, hfromRecv,
      List.count_nil] at hreceived
    simp only [serverNetwork, serves, h.finished_eq_nil.2, htoWork, hfromWork,
      h.offered.1, List.count_nil] at hprocessed
    rw [h.offered.2, htoSend, List.count_nil] at hsent
    rw [htaken]
    omega

end

end

/-- One thread of each kind, and one request that is received and answered. -/
def oneRequest : List (Label QueueName (ServerThread 1 1) Nat) :=
  [.offer .tryRecv 7, .notify .tryRecv,
    .wake (.recv 0), .take (.recv 0), .hand (.recv 0) .waitToProcess, .signal (.recv 0),
    .wake (.work 0), .take (.work 0), .hand (.work 0) .send, .signal (.work 0),
    .wake (.send 0), .take (.send 0), .finish (.send 0),
    .take (.recv 0), .take (.work 0), .take (.send 0)]

theorem oneRequest_admits : (serverNetwork 1 1).machine.Admits oneRequest {} :=
  ⟨trivial, Nat.zero_lt_one,
    ⟨rfl, rfl⟩, rfl, ⟨⟨7, rfl⟩, .recvReceived⟩, ⟨.waitToProcess, rfl⟩,
    ⟨rfl, rfl⟩, rfl, ⟨⟨7, rfl⟩, .workAnswers⟩, ⟨.send, rfl⟩,
    ⟨rfl, rfl⟩, rfl, ⟨⟨7, rfl⟩, Or.inl rfl⟩,
    rfl, rfl, rfl, trivial⟩

theorem oneRequest_runs :
    ServerRuns ((serverNetwork 1 1).machine.play oneRequest {}) := by
  refine ServerRuns.of_admits ?_ oneRequest_admits
  simp [oneRequest, Machine.Each, ByTryRecvThread]

theorem oneRequest_atRest :
    (serverNetwork 1 1).AtRest ((serverNetwork 1 1).machine.play oneRequest {}) := by
  have hphase : forall t,
      ((serverNetwork 1 1).machine.play oneRequest {}).phase t = .waiting := by
    intro t
    cases t with
    | recv i => rw [Subsingleton.elim i 0]; rfl
    | work i => rw [Subsingleton.elim i 0]; rfl
    | send i => rw [Subsingleton.elim i 0]; rfl
    | breakConnect => rfl
  have hevent : forall i,
      ((serverNetwork 1 1).machine.play oneRequest {}).event i = false := by
    intro i
    cases i <;> rfl
  have hpending : forall i,
      ((serverNetwork 1 1).machine.play oneRequest {}).pending i = 0 := by
    intro i
    cases i <;> rfl
  intro l hinner henabled
  cases l with
  | offer i a => exact hinner
  | notify i => exact absurd (hpending i) (Nat.pos_iff_ne_zero.mp henabled)
  | wake t => exact absurd (henabled.2.symm.trans (hevent _)) (by simp)
  | take t => exact absurd (henabled.symm.trans (hphase t)) (by simp)
  | finish t =>
      rcases henabled.1 with ⟨a, ha⟩
      exact absurd (ha.symm.trans (hphase t)) (by simp)
  | hand t j =>
      rcases henabled.1 with ⟨a, ha⟩
      exact absurd (ha.symm.trans (hphase t)) (by simp)
  | signal t =>
      rcases henabled with ⟨i, hi⟩
      exact absurd (hi.symm.trans (hphase t)) (by simp)

/-- The one request is answered. -/
theorem oneRequest_settles :
    (((serverNetwork 1 1).machine.play oneRequest {}).taken .send).count 7 = 1 := by
  have hsettles := (server_settles Nat.zero_lt_one Nat.zero_lt_one oneRequest_runs).2.2
    oneRequest_atRest
  exact (hsettles.2 7).symm

end OldServer
end BnsKorea
