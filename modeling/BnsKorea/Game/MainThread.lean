import Mathlib.Data.List.Nodup
import Mathlib.Data.List.Sublists
import Mathlib.Logic.Function.Basic
import BnsKorea.Library.Machines
import BnsKorea.Common.ServerCommon

/-!
# The functions that wait for the main thread

The bot's threads hand functions to the main thread of the game through a queue
and wait for an event each.  The timer of the main thread runs the function at
the head of the queue under the lock of the queue.  The lock is recursive and a
function may run a message loop, so the timer can be entered once more while a
function runs; and the queue can be emptied.
-/

namespace BnsKorea
namespace Game

open Library

variable {Fun Thread : Type}

/-- The event of a request is the number of the call that created it. -/
structure MainThreadFunPtrInfo (Fun : Type) where
  mainThreadFunPtr : Fun
  hEvent : Nat
deriving DecidableEq

/-- How far the turn of the timer for a request is. -/
inductive Phase where
  | running
  | returned
  | signaled
deriving DecidableEq

/-- What the main thread is in the middle of. -/
inductive Frame (Fun : Type) where
  /-- A function it did not have to queue. -/
  | direct
  /-- `TimerProc` under the lock, with its reference to the head of the queue. -/
  | queued (FunPtr : MainThreadFunPtrInfo Fun) (phase : Phase)
deriving DecidableEq

/-- The last four fields are the history of the calls. -/
structure CGameVariable (Fun Thread : Type) where
  vQueue : List (MainThreadFunPtrInfo Fun) := []
  /-- The innermost call comes first. -/
  stack : List (Frame Fun) := []
  /-- The request whose event a thread waits for. -/
  waiting : Thread -> Option (MainThreadFunPtrInfo Fun) := fun _ => none
  /-- The events that are set. -/
  events : List Nat := []
  eventCount : Nat := 0
  /-- A reference to a popped request was used. -/
  undefined : Bool := false
  pushed : List (MainThreadFunPtrInfo Fun) := []
  started : List (MainThreadFunPtrInfo Fun) := []
  completed : List (MainThreadFunPtrInfo Fun) := []
  returned : List (MainThreadFunPtrInfo Fun) := []

def turns (stack : List (Frame Fun)) :
    List (MainThreadFunPtrInfo Fun × Phase) :=
  stack.filterMap fun
    | .direct => none
    | .queued FunPtr phase => some (FunPtr, phase)

@[simp] theorem turns_direct (stack : List (Frame Fun)) :
    turns (.direct :: stack) = turns stack :=
  rfl

@[simp] theorem turns_queued (FunPtr : MainThreadFunPtrInfo Fun) (phase : Phase)
    (stack : List (Frame Fun)) :
    turns (.queued FunPtr phase :: stack) = (FunPtr, phase) :: turns stack :=
  rfl

theorem mem_turns_of_tail {stack : List (Frame Fun)}
    {turn : MainThreadFunPtrInfo Fun × Phase} (h : turn ∈ turns stack.tail) :
    turn ∈ turns stack := by
  cases stack with
  | nil => exact h
  | cons frame stack =>
      cases frame with
      | direct => exact h
      | queued FunPtr phase => exact List.mem_cons_of_mem _ h

namespace CGameVariable

/-!
## The operations
-/

/-- The main thread holds the lock in every turn of the timer. -/
def Unlocked (s : CGameVariable Fun Thread) : Prop :=
  turns s.stack = []

/-- The main thread can be in its message loop, or in a function that is. -/
def InFunction (s : CGameVariable Fun Thread) : Prop :=
  match s.stack with
  | .queued _ .returned :: _ => False
  | .queued _ .signaled :: _ => False
  | _ => True

/-- The part of a thread that is not the main thread, up to the wait. -/
def pushMainThreadFunPtr_synch [DecidableEq Thread] (t : Thread)
    (MainThreadFunPtr_ : Fun) (s : CGameVariable Fun Thread) :
    CGameVariable Fun Thread :=
  let Info : MainThreadFunPtrInfo Fun :=
    { mainThreadFunPtr := MainThreadFunPtr_, hEvent := s.eventCount }
  { s with
    vQueue := s.vQueue ++ [Info]
    waiting := Function.update s.waiting t (some Info)
    eventCount := s.eventCount + 1
    pushed := s.pushed ++ [Info] }

def wake [DecidableEq Thread] (t : Thread) (s : CGameVariable Fun Thread) :
    CGameVariable Fun Thread :=
  match s.waiting t with
  | none => s
  | some Info =>
      { s with
        waiting := Function.update s.waiting t none
        events := s.events.filter fun hEvent => hEvent ≠ Info.hEvent
        returned := s.returned ++ [Info] }

def clearMainThreadFunPtr (s : CGameVariable Fun Thread) :
    CGameVariable Fun Thread :=
  { s with vQueue := [] }

/-- On the main thread a push calls the function itself. -/
def pushOnMainThread (s : CGameVariable Fun Thread) :
    CGameVariable Fun Thread :=
  { s with stack := .direct :: s.stack }

/-- The beginning of `TimerProc`, which tunes the speed of the game besides. -/
def timerProc (nTimerid : UINT) (isGameLoad : Bool)
    (s : CGameVariable Fun Thread) : CGameVariable Fun Thread :=
  if nTimerid ≠ 0x1000 ∧ nTimerid ≠ 0x1001 then s
  else if isGameLoad then s
  else
    match s.vQueue with
    | [] => s
    | FunPtr :: _ =>
        { s with
          stack := .queued FunPtr .running :: s.stack
          started := s.started ++ [FunPtr] }

def finish (s : CGameVariable Fun Thread) : CGameVariable Fun Thread :=
  match s.stack with
  | .direct :: stack => { s with stack := stack }
  | .queued FunPtr .running :: stack =>
      { s with
        stack := .queued FunPtr .returned :: stack
        completed := s.completed ++ [FunPtr] }
  | _ => s

/-- `SetEvent(FunPtr.hEvent)`; the reference is to an element of the queue. -/
def setEvent (s : CGameVariable Fun Thread) : CGameVariable Fun Thread :=
  match s.stack with
  | .queued FunPtr .returned :: stack =>
      if s.vQueue.any fun itm => itm.hEvent == FunPtr.hEvent then
        { s with
          stack := .queued FunPtr .signaled :: stack
          events := FunPtr.hEvent :: s.events }
      else { s with undefined := true }
  | _ => s

/-- The end of `TimerProc`. -/
def pop (s : CGameVariable Fun Thread) : CGameVariable Fun Thread :=
  match s.stack with
  | .queued _ .signaled :: stack =>
      match s.vQueue with
      | [] => { s with undefined := true }
      | _ :: vQueue => { s with stack := stack, vQueue := vQueue }
  | _ => s

/-!
## Interleavings
-/

inductive Event (Fun Thread : Type) where
  | push (t : Thread) (MainThreadFunPtr_ : Fun)
  | wake (t : Thread)
  /-- `ClearMainThreadFunPtr` by another thread. -/
  | clear
  /-- `ClearMainThreadFunPtr` by the main thread. -/
  | clearOnMainThread
  | pushOnMainThread
  | timerProc (nTimerid : UINT) (isGameLoad : Bool)
  | finish
  | setEvent
  | pop

/-- Other threads wait for the lock, the main thread does one thing at a time. -/
def Allowed : Event Fun Thread -> CGameVariable Fun Thread -> Prop
  | .push t _, s => s.waiting t = none ∧ s.Unlocked
  | .wake t, s =>
      exists Info, s.waiting t = some Info ∧ Info.hEvent ∈ s.events
  | .clear, s => s.Unlocked
  | .clearOnMainThread, s => s.InFunction
  | .pushOnMainThread, s => s.InFunction
  | .timerProc _ _, s => s.InFunction
  | .finish, s => s.InFunction ∧ s.stack ≠ []
  | .setEvent, s => exists FunPtr stack, s.stack = .queued FunPtr .returned :: stack
  | .pop, s => exists FunPtr stack, s.stack = .queued FunPtr .signaled :: stack

def apply [DecidableEq Thread] : Event Fun Thread ->
    CGameVariable Fun Thread -> CGameVariable Fun Thread
  | .push t MainThreadFunPtr_ => pushMainThreadFunPtr_synch t MainThreadFunPtr_
  | .wake t => CGameVariable.wake t
  | .clear => clearMainThreadFunPtr
  | .clearOnMainThread => clearMainThreadFunPtr
  | .pushOnMainThread => CGameVariable.pushOnMainThread
  | .timerProc nTimerid isGameLoad => CGameVariable.timerProc nTimerid isGameLoad
  | .finish => CGameVariable.finish
  | .setEvent => CGameVariable.setEvent
  | .pop => CGameVariable.pop

def machine [DecidableEq Thread] :
    Machine (CGameVariable Fun Thread) (Event Fun Thread) where
  enabled e s := s.undefined = false ∧ Allowed e s
  step := apply

/-!
## What is wanted of an interleaving
-/

/-- The function of the request is being run by the timer. -/
def Running (s : CGameVariable Fun Thread) (Info : MainThreadFunPtrInfo Fun) :
    Prop :=
  (Info, Phase.running) ∈ turns s.stack

structure Served (s : CGameVariable Fun Thread) : Prop where
  defined : s.undefined = false
  /-- Every push has an event of its own. -/
  apart : (s.pushed.map MainThreadFunPtrInfo.hEvent).Nodup
  /-- In push order, and each at most once. -/
  inOrder : s.started.Sublist s.pushed
  returns : forall Info, Info ∈ s.returned -> Info ∈ s.completed
  /-- Who waits and was not signaled is queued or being run. -/
  nobodyLeft : forall t Info, s.waiting t = some Info ->
    Info.hEvent ∈ s.events ∨ Info ∈ s.vQueue ∨ s.Running Info

/--
The timer finds no request while a queued function runs, requests are cleared
only while they are being run, and a queued function that returns was not
cleared.
-/
def Undisturbed : Event Fun Thread -> CGameVariable Fun Thread -> Prop
  | .timerProc nTimerid isGameLoad, s =>
      nTimerid = 0x1000 ∨ nTimerid = 0x1001 -> isGameLoad = false ->
        s.vQueue = [] ∨ s.Unlocked
  | .clear, s => forall Info, Info ∈ s.vQueue -> s.Running Info
  | .clearOnMainThread, s => forall Info, Info ∈ s.vQueue -> s.Running Info
  | .finish, s => forall FunPtr stack,
      s.stack = .queued FunPtr .running :: stack -> FunPtr ∈ s.vQueue
  | _, _ => True

end CGameVariable
end Game
end BnsKorea
