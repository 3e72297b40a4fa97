import Mathlib.Logic.Function.Basic
import BnsKorea.Library.Machines
import BnsKorea.Common.ServerCommon

/-!
# Synchronous requests

`SyncSend` keeps the head of its packet, its callback and an event in fields of
the client, posts the packet up to three times and waits for the event after
each post.  `EchoPacket` runs on another thread: it compares the head of a reply
with the field, runs the callback that is there and sets the event.

The calls are numbered from one in the order in which they get the lock.  A
reply answers a packet that was posted and has its head.  A call gives up when
there is no event, when its packet cannot be posted, or after the third wait.
-/

namespace BnsKorea
namespace Client
namespace CConsoleClient

open Library

/-- The head of the packet, and whether a callback is passed with it. -/
structure Request where
  dwMsgHead : DWORD := 0
  ExtractPtr : Bool := false
deriving DecidableEq

inductive Handle where
  | invalid
  | null
  | event (signaled : Bool)
deriving DecidableEq

def Handle.setEvent : Handle -> Handle
  | event _ => event true
  | hEvent => hEvent

/-- How far the call that has the lock has come. -/
inductive Phase where
  /-- No call has the lock. -/
  | returned
  | msgHeadSet
  | extractSet
  | posting (i : Nat)
  | waiting (i : Nat)
  | echoed
  | eventReset
  | extractReset
deriving DecidableEq

structure State where
  dwMsgHead : DWORD := 0
  extractActionPtr : Option Nat := none
  hEvent : Handle := .invalid
  phase : Phase := .returned
  /-- The call that got the lock last. -/
  call : Nat := 0
  requests : Nat -> Request := fun _ => {}
  /-- The calls whose packets were posted. -/
  posted : List Nat := []
  /-- The calls to which a reply has come. -/
  answered : List Nat := []
  /-- The calls whose callbacks were run. -/
  ran : List Nat := []
  /-- Whether the call that returned last gave up. -/
  gaveUp : Bool := false

/-- The statements of `SyncSend` one by one, and the other thread. -/
inductive Label where
  | lock (request : Request)
  | setExtract
  | createEvent (succeeds : Bool)
  | postSend (succeeds : Bool)
  | timeout
  | wake
  /-- `CloseHandle` and the assignment after it. -/
  | resetEvent
  | resetExtract
  /-- The last assignment, after which the call returns `TRUE`. -/
  | resetMsgHead
  | echoPacket (packet : Nat)
deriving DecidableEq

namespace State

variable (s : State)

def request : Request := s.requests s.call

def callbackOf (call : Nat) : Option Nat :=
  if (s.requests call).ExtractPtr then some call else none

def callback : Option Nat := s.callbackOf s.call

/-- The reply is not one that `EchoPacket` only writes to the log. -/
def Processed (packet : Nat) : Prop :=
  s.hEvent ≠ .invalid ∧ (s.requests packet).dwMsgHead = s.dwMsgHead

instance (packet : Nat) : Decidable (s.Processed packet) :=
  inferInstanceAs (Decidable (_ ∧ _))

def echoPacket (packet : Nat) : State :=
  let s := { s with answered := packet :: s.answered }
  if s.Processed packet then
    { s with
      ran := s.extractActionPtr.toList ++ s.ran
      hEvent := s.hEvent.setEvent }
  else s

end State

def enabled : Label -> State -> Prop
  | .lock _, s => s.phase = .returned
  | .setExtract, s => s.phase = .msgHeadSet
  | .createEvent _, s => s.phase = .extractSet
  | .postSend _, s => exists i, s.phase = .posting i
  | .timeout, s => (exists i, s.phase = .waiting i) ∧ s.hEvent = .event false
  | .wake, s => (exists i, s.phase = .waiting i) ∧ s.hEvent = .event true
  | .resetEvent, s => s.phase = .echoed
  | .resetExtract, s => s.phase = .eventReset
  | .resetMsgHead, s => s.phase = .extractReset
  | .echoPacket packet, s => packet ∈ s.posted

def apply : Label -> State -> State
  | .lock request, s =>
      { s with
        dwMsgHead := request.dwMsgHead
        call := s.call + 1
        requests := Function.update s.requests (s.call + 1) request
        phase := .msgHeadSet }
  | .setExtract, s =>
      { s with extractActionPtr := s.callback, phase := .extractSet }
  | .createEvent true, s => { s with hEvent := .event false, phase := .posting 0 }
  | .createEvent false, s =>
      { s with hEvent := .null, phase := .returned, gaveUp := true }
  | .postSend true, s =>
      match s.phase with
      | .posting i => { s with posted := s.call :: s.posted, phase := .waiting i }
      | _ => s
  | .postSend false, s => { s with phase := .returned, gaveUp := true }
  | .timeout, s =>
      match s.phase with
      | .waiting i =>
          if i + 1 < 3 then { s with phase := .posting (i + 1) }
          else { s with phase := .returned, gaveUp := true }
      | _ => s
  | .wake, s => { s with hEvent := .event false, phase := .echoed }
  | .resetEvent, s => { s with hEvent := .invalid, phase := .eventReset }
  | .resetExtract, s => { s with extractActionPtr := none, phase := .extractReset }
  | .resetMsgHead, s =>
      { s with dwMsgHead := 0, phase := .returned, gaveUp := false }
  | .echoPacket packet, s => s.echoPacket packet

def machine : Machine State Label where
  enabled := enabled
  step := apply

/-!
## What is asked of a step
-/

/--
A callback runs on a reply to a packet of its own call, which has not returned,
and for the first time; a call that returns `TRUE` ran its callback once.
-/
def Right : Label -> State -> Prop
  | .echoPacket packet, s => s.Processed packet ->
      forall call, s.extractActionPtr = some call ->
        call = packet ∧ call = s.call ∧ s.phase ≠ .returned ∧ call ∉ s.ran
  | .resetMsgHead, s => s.request.ExtractPtr = true -> s.ran.count s.call = 1
  | _, _ => True

/--
Whose callback a reply with the head of the last call is for, as the calls went:
that of the last call from its first post until it is done, and if it gave up
after that too.  While a call gets ready it is still the one of the call before
if that gave up, or its own once it is set.
-/
def State.expecting (s : State) : Option Nat :=
  match s.phase with
  | .returned => if s.gaveUp then s.callback else none
  | .msgHeadSet => if s.gaveUp then s.callbackOf (s.call - 1) else none
  | .extractSet => if s.gaveUp then s.callback else none
  | .posting _ => s.callback
  | .waiting _ => s.callback
  | .echoed => s.callback
  | .eventReset => none
  | .extractReset => none

/--
A reply with the head of the call that got the lock last comes when no callback
is expecting one, or it is the first one to that call, which has not returned.
-/
def InTime : Label -> State -> Prop
  | .echoPacket packet, s => s.expecting ≠ none ->
      (s.requests packet).dwMsgHead = s.request.dwMsgHead ->
        packet = s.call ∧ s.phase ≠ .returned ∧ packet ∉ s.answered
  | _, _ => True

/-!
## What the fields say about the call
-/

variable {s : State}

/-- The head is the one of the call, and the callback is. -/
structure Own (s : State) : Prop where
  head : s.dwMsgHead = s.request.dwMsgHead
  extract : s.extractActionPtr = s.callback

def Done (s : State) : Prop :=
  s.request.ExtractPtr = true -> s.call ∈ s.ran

/-- The event is set, and a reply has come, only if the callback was run. -/
structure Awaits (s : State) : Prop where
  own : Own s
  event : exists signaled, s.hEvent = .event signaled ∧ (signaled = true -> Done s)
  answered : s.call ∈ s.answered -> Done s

/-- A call that gave up leaves its callback and the event, another one nothing. -/
def Left (callback : Option Nat) (s : State) : Prop :=
  if s.gaveUp then s.hEvent ≠ .invalid ∧ s.extractActionPtr = callback
  else s.hEvent = .invalid

def At : Phase -> State -> Prop
  | .returned, s =>
      Left s.callback s ∧ (s.gaveUp = true -> s.dwMsgHead = s.request.dwMsgHead)
  | .msgHeadSet, s =>
      s.dwMsgHead = s.request.dwMsgHead ∧ s.call ∉ s.posted ∧
        s.extractActionPtr ≠ some s.call ∧ Left (s.callbackOf (s.call - 1)) s
  | .extractSet, s => Own s ∧ s.call ∉ s.posted ∧ Left s.callback s
  | .posting _, s => Awaits s
  | .waiting _, s => Awaits s
  | .echoed, s => Own s ∧ Done s ∧ s.hEvent ≠ .invalid
  | .eventReset, s => s.hEvent = .invalid ∧ Done s
  | .extractReset, s => s.hEvent = .invalid ∧ Done s

structure Kept (s : State) : Prop where
  posted : forall packet, packet ∈ s.posted -> packet ≤ s.call
  answered : forall packet, packet ∈ s.answered -> packet ∈ s.posted
  ran : forall call, call ∈ s.ran -> call ∈ s.answered
  nodup : s.ran.Nodup
  extract : forall call, s.extractActionPtr = some call -> call ≤ s.call
  phased : At s.phase s

theorem kept_start : Kept {} where
  posted _ h := by cases h
  answered _ h := by cases h
  ran _ h := by cases h
  nodup := List.nodup_nil
  extract _ h := by cases h
  phased := ⟨rfl, fun h => by cases h⟩

theorem callback_some {call : Nat} (h : s.callback = some call) :
    call = s.call ∧ s.request.ExtractPtr = true := by
  by_cases hptr : s.request.ExtractPtr = true
  · have hcallback : s.callback = some s.call := if_pos hptr
    rw [hcallback] at h
    cases h
    exact ⟨rfl, hptr⟩
  · have hcallback : s.callback = none := if_neg hptr
    rw [hcallback] at h
    cases h

theorem Left.expecting {callback : Option Nat} (h : Left callback s) (call : Nat) :
    (if s.gaveUp then callback else none) = some call ↔
      s.hEvent ≠ .invalid ∧ s.extractActionPtr = some call := by
  unfold Left at h
  cases hgave : s.gaveUp with
  | true =>
      rw [hgave, if_pos rfl] at h
      rw [if_pos rfl, ← h.right]
      exact (and_iff_right h.left).symm
  | false =>
      rw [hgave, if_neg Bool.false_ne_true] at h
      rw [if_neg Bool.false_ne_true]
      exact iff_of_false (Option.some_ne_none call).symm fun hboth => hboth.left h

theorem Left.gaveUp {callback : Option Nat} (h : Left callback s)
    (hevent : s.hEvent ≠ .invalid) : s.gaveUp = true := by
  unfold Left at h
  cases hgave : s.gaveUp with
  | true => rfl
  | false =>
      rw [hgave, if_neg Bool.false_ne_true] at h
      exact absurd h hevent

theorem Own.expecting (h : Own s) (hevent : s.hEvent ≠ .invalid) (call : Nat) :
    s.callback = some call ↔ s.hEvent ≠ .invalid ∧ s.extractActionPtr = some call := by
  rw [h.extract]
  exact (and_iff_right hevent).symm

theorem Awaits.hEvent (h : Awaits s) : s.hEvent ≠ .invalid := by
  rcases h.event with ⟨signaled, hevent, _⟩
  rw [hevent]
  exact Handle.noConfusion

theorem Kept.expecting (hs : Kept s) (call : Nat) :
    s.expecting = some call ↔
      s.hEvent ≠ .invalid ∧ s.extractActionPtr = some call := by
  have hphased := hs.phased
  unfold State.expecting
  cases hphase : s.phase with
  | returned =>
      rw [hphase] at hphased
      exact hphased.left.expecting call
  | msgHeadSet =>
      rw [hphase] at hphased
      exact hphased.right.right.right.expecting call
  | extractSet =>
      rw [hphase] at hphased
      exact hphased.right.right.expecting call
  | posting i =>
      rw [hphase] at hphased
      exact hphased.own.expecting hphased.hEvent call
  | waiting i =>
      rw [hphase] at hphased
      exact hphased.own.expecting hphased.hEvent call
  | echoed =>
      rw [hphase] at hphased
      exact hphased.left.expecting hphased.right.right call
  | eventReset =>
      rw [hphase] at hphased
      exact iff_of_false (Option.some_ne_none call).symm fun h => h.left hphased.left
  | extractReset =>
      rw [hphase] at hphased
      exact iff_of_false (Option.some_ne_none call).symm fun h => h.left hphased.left

theorem Kept.head (hs : Kept s) (h : s.hEvent ≠ .invalid) :
    s.dwMsgHead = s.request.dwMsgHead := by
  have hphased := hs.phased
  cases hphase : s.phase with
  | returned =>
      rw [hphase] at hphased
      exact hphased.right (hphased.left.gaveUp h)
  | msgHeadSet =>
      rw [hphase] at hphased
      exact hphased.left
  | extractSet =>
      rw [hphase] at hphased
      exact hphased.left.head
  | posting i =>
      rw [hphase] at hphased
      exact hphased.own.head
  | waiting i =>
      rw [hphase] at hphased
      exact hphased.own.head
  | echoed =>
      rw [hphase] at hphased
      exact hphased.left.head
  | eventReset =>
      rw [hphase] at hphased
      exact absurd hphased.left h
  | extractReset =>
      rw [hphase] at hphased
      exact absurd hphased.left h

theorem Kept.own (hs : Kept s) (h : s.hEvent ≠ .invalid)
    (hphase : s.phase ≠ .returned) (hposted : s.call ∈ s.posted) :
    Own s ∧ (s.call ∈ s.answered -> Done s) := by
  have hphased := hs.phased
  cases hcase : s.phase with
  | returned => exact absurd hcase hphase
  | msgHeadSet =>
      rw [hcase] at hphased
      exact absurd hposted hphased.right.left
  | extractSet =>
      rw [hcase] at hphased
      exact absurd hposted hphased.right.left
  | posting i =>
      rw [hcase] at hphased
      exact ⟨hphased.own, hphased.answered⟩
  | waiting i =>
      rw [hcase] at hphased
      exact ⟨hphased.own, hphased.answered⟩
  | echoed =>
      rw [hcase] at hphased
      exact ⟨hphased.left, fun _ => hphased.right.left⟩
  | eventReset =>
      rw [hcase] at hphased
      exact absurd hphased.left h
  | extractReset =>
      rw [hcase] at hphased
      exact absurd hphased.left h

theorem echo_right_iff {packet : Nat} (hs : Kept s) (hposted : packet ∈ s.posted) :
    InTime (.echoPacket packet) s ↔ Right (.echoPacket packet) s := by
  constructor
  · intro hintime hprocessed call hcall
    have hhead : (s.requests packet).dwMsgHead = s.request.dwMsgHead :=
      hprocessed.right.trans (hs.head hprocessed.left)
    have hsome : s.expecting ≠ none := by
      rw [(hs.expecting call).mpr ⟨hprocessed.left, hcall⟩]
      exact Option.some_ne_none call
    rcases hintime hsome hhead with ⟨heq, hphase, hfirst⟩
    rw [heq] at hposted hfirst
    rcases hs.own hprocessed.left hphase hposted with ⟨hown, _⟩
    rw [hown.extract] at hcall
    rcases callback_some hcall with ⟨hself, _⟩
    rw [hself, heq]
    exact ⟨rfl, rfl, hphase, fun hran => hfirst (hs.ran s.call hran)⟩
  · intro hright hsome hhead
    rcases Option.ne_none_iff_exists'.mp hsome with ⟨call, hexpecting⟩
    rcases (hs.expecting call).mp hexpecting with ⟨hevent, hcall⟩
    have hprocessed : s.Processed packet :=
      ⟨hevent, hhead.trans (hs.head hevent).symm⟩
    rcases hright hprocessed call hcall with ⟨hpacket, hself, hphase, hran⟩
    rw [← hpacket, hself] at hposted ⊢
    rcases hs.own hevent hphase hposted with ⟨hown, hdone⟩
    refine ⟨rfl, hphase, ?_⟩
    intro hanswered
    rw [hown.extract] at hcall
    rcases callback_some hcall with ⟨_, hptr⟩
    rw [hself] at hran
    exact hran (hdone hanswered hptr)

theorem return_right (hs : Kept s) (hphase : s.phase = .extractReset) :
    Right .resetMsgHead s := by
  intro hptr
  have hphased := hs.phased
  rw [hphase] at hphased
  exact List.count_eq_one_of_mem hs.nodup (hphased.right hptr)

theorem right_iff {l : Label} (henabled : enabled l s) (hs : Kept s) :
    InTime l s ↔ Right l s := by
  cases l with
  | echoPacket packet => exact echo_right_iff hs henabled
  | resetMsgHead => exact iff_of_true trivial (return_right hs henabled)
  | lock request => exact Iff.rfl
  | setExtract => exact Iff.rfl
  | createEvent succeeds => exact Iff.rfl
  | postSend succeeds => exact Iff.rfl
  | timeout => exact Iff.rfl
  | wake => exact Iff.rfl
  | resetEvent => exact Iff.rfl
  | resetExtract => exact Iff.rfl

/-!
## A reply
-/

theorem echoPacket_processed {packet : Nat} (h : s.Processed packet) :
    s.echoPacket packet =
      { s with
        answered := packet :: s.answered
        ran := s.extractActionPtr.toList ++ s.ran
        hEvent := s.hEvent.setEvent } :=
  if_pos h

theorem echoPacket_logged {packet : Nat} (h : ¬ s.Processed packet) :
    s.echoPacket packet = { s with answered := packet :: s.answered } :=
  if_neg h

theorem Awaits.processed (h : Awaits s) : s.Processed s.call :=
  ⟨h.hEvent, h.own.head.symm⟩

theorem Handle.setEvent_ne {hEvent : Handle} (h : hEvent ≠ .invalid) :
    hEvent.setEvent ≠ .invalid := by
  cases hEvent with
  | invalid => exact absurd rfl h
  | null => exact h
  | event signaled => exact Handle.noConfusion

theorem Awaits.logged (h : Awaits s) {packet : Nat} (hlogged : ¬ s.Processed packet) :
    Awaits { s with answered := packet :: s.answered } where
  own := ⟨h.own.head, h.own.extract⟩
  event := h.event
  answered hanswered := by
    rcases List.mem_cons.mp hanswered with heq | hold
    · rw [← heq] at hlogged
      exact absurd h.processed hlogged
    · exact h.answered hold

theorem Own.done (h : Own s) (packet : Nat) :
    Done
      { s with
        answered := packet :: s.answered
        ran := s.extractActionPtr.toList ++ s.ran
        hEvent := s.hEvent.setEvent } := by
  intro hptr
  have hcallback : s.callback = some s.call := if_pos hptr
  rw [h.extract, hcallback]
  exact List.mem_cons_self

theorem Awaits.echoed (h : Awaits s) (packet : Nat) :
    Awaits
      { s with
        answered := packet :: s.answered
        ran := s.extractActionPtr.toList ++ s.ran
        hEvent := s.hEvent.setEvent } where
  own := ⟨h.own.head, h.own.extract⟩
  event := by
    rcases h.event with ⟨signaled, hevent, _⟩
    refine ⟨true, ?_, fun _ => h.own.done packet⟩
    rw [hevent]
    rfl
  answered _ := h.own.done packet

theorem At.logged {phase : Phase} {packet : Nat} (h : At phase s)
    (hlogged : ¬ s.Processed packet) :
    At phase { s with answered := packet :: s.answered } := by
  cases phase with
  | returned => exact h
  | msgHeadSet => exact h
  | extractSet => exact ⟨⟨h.left.head, h.left.extract⟩, h.right⟩
  | posting i => exact Awaits.logged h hlogged
  | waiting i => exact Awaits.logged h hlogged
  | echoed => exact ⟨⟨h.left.head, h.left.extract⟩, h.right⟩
  | eventReset => exact h
  | extractReset => exact h

theorem Left.processed {callback : Option Nat} {packet : Nat} (h : Left callback s)
    (hevent : s.hEvent ≠ .invalid) :
    Left callback
      { s with
        answered := packet :: s.answered
        ran := s.extractActionPtr.toList ++ s.ran
        hEvent := s.hEvent.setEvent } := by
  have hgave := h.gaveUp hevent
  unfold Left at h ⊢
  rw [hgave, if_pos rfl] at h ⊢
  exact ⟨Handle.setEvent_ne hevent, h.right⟩

theorem At.processed {phase : Phase} {packet : Nat} (h : At phase s)
    (hprocessed : s.Processed packet) :
    At phase
      { s with
        answered := packet :: s.answered
        ran := s.extractActionPtr.toList ++ s.ran
        hEvent := s.hEvent.setEvent } := by
  cases phase with
  | returned => exact ⟨h.left.processed hprocessed.left, h.right⟩
  | msgHeadSet =>
      exact ⟨h.left, h.right.left, h.right.right.left,
        h.right.right.right.processed hprocessed.left⟩
  | extractSet =>
      exact ⟨⟨h.left.head, h.left.extract⟩, h.right.left,
        h.right.right.processed hprocessed.left⟩
  | posting i => exact Awaits.echoed h packet
  | waiting i => exact Awaits.echoed h packet
  | echoed =>
      exact ⟨⟨h.left.head, h.left.extract⟩, h.left.done packet,
        Handle.setEvent_ne h.right.right⟩
  | eventReset => exact absurd h.left hprocessed.left
  | extractReset => exact absurd h.left hprocessed.left

theorem kept_logged {packet : Nat} (hs : Kept s) (hposted : packet ∈ s.posted)
    (hlogged : ¬ s.Processed packet) :
    Kept { s with answered := packet :: s.answered } where
  posted := hs.posted
  answered call hcall := by
    rcases List.mem_cons.mp hcall with heq | hold
    · rw [heq]
      exact hposted
    · exact hs.answered call hold
  ran call hcall := List.mem_cons_of_mem packet (hs.ran call hcall)
  nodup := hs.nodup
  extract := hs.extract
  phased := hs.phased.logged hlogged

theorem kept_processed {packet : Nat} (hs : Kept s) (hposted : packet ∈ s.posted)
    (hprocessed : s.Processed packet)
    (hright : Right (.echoPacket packet) s) :
    Kept
      { s with
        answered := packet :: s.answered
        ran := s.extractActionPtr.toList ++ s.ran
        hEvent := s.hEvent.setEvent } where
  posted := hs.posted
  answered call hcall := by
    rcases List.mem_cons.mp hcall with heq | hold
    · rw [heq]
      exact hposted
    · exact hs.answered call hold
  ran call hcall := by
    rcases List.mem_append.mp hcall with hnow | hold
    · rcases hright hprocessed call (Option.mem_toList.mp hnow) with ⟨heq, _⟩
      rw [heq]
      exact List.mem_cons_self
    · exact List.mem_cons_of_mem packet (hs.ran call hold)
  nodup := by
    cases hextract : s.extractActionPtr with
    | none => exact hs.nodup
    | some call =>
        rcases hright hprocessed call hextract with ⟨_, _, _, hran⟩
        exact List.nodup_cons.mpr ⟨hran, hs.nodup⟩
  extract := hs.extract
  phased := hs.phased.processed hprocessed

theorem kept_echoPacket {packet : Nat} (hs : Kept s) (hposted : packet ∈ s.posted)
    (hright : Right (.echoPacket packet) s) : Kept (s.echoPacket packet) := by
  by_cases hprocessed : s.Processed packet
  · rw [echoPacket_processed hprocessed]
    exact kept_processed hs hposted hprocessed hright
  · rw [echoPacket_logged hprocessed]
    exact kept_logged hs hposted hprocessed

/-!
## The statements of the call
-/

theorem kept_lock (hs : Kept s) (hphase : s.phase = .returned) (request : Request) :
    Kept (apply (.lock request) s) where
  posted packet hpacket := Nat.le_succ_of_le (hs.posted packet hpacket)
  answered := hs.answered
  ran := hs.ran
  nodup := hs.nodup
  extract call hcall := Nat.le_succ_of_le (hs.extract call hcall)
  phased := by
    have hphased := hs.phased
    rw [hphase] at hphased
    refine ⟨?_, ?_, ?_, ?_⟩
    · simp [apply, State.request]
    · intro hposted
      exact absurd (hs.posted _ hposted) (Nat.not_succ_le_self s.call)
    · intro hcall
      exact absurd (hs.extract _ hcall) (Nat.not_succ_le_self s.call)
    · have hsame : (apply (.lock request) s).callbackOf (s.call + 1 - 1) =
          s.callback := by
        simp [apply, State.callback, State.callbackOf]
      show Left ((apply (.lock request) s).callbackOf (s.call + 1 - 1)) _
      rw [hsame]
      exact hphased.left

theorem kept_setExtract (hs : Kept s) (hphase : s.phase = .msgHeadSet) :
    Kept (apply .setExtract s) := by
  have hphased := hs.phased
  rw [hphase] at hphased
  rcases hphased with ⟨hhead, hposted, _, hleft⟩
  refine ⟨hs.posted, hs.answered, hs.ran, hs.nodup, ?_, ⟨hhead, rfl⟩, hposted, ?_⟩
  · intro call hcall
    exact Nat.le_of_eq (callback_some hcall).left
  · show if s.gaveUp then s.hEvent ≠ .invalid ∧ s.callback = s.callback
      else s.hEvent = .invalid
    unfold Left at hleft
    split at hleft
    · rename_i hgave
      rw [if_pos hgave]
      exact ⟨hleft.left, rfl⟩
    · rename_i hgave
      rw [if_neg hgave]
      exact hleft

theorem kept_createEvent (hs : Kept s) (hphase : s.phase = .extractSet)
    (succeeds : Bool) : Kept (apply (.createEvent succeeds) s) := by
  have hphased := hs.phased
  rw [hphase] at hphased
  rcases hphased with ⟨hown, hposted, _⟩
  cases succeeds with
  | true =>
      refine ⟨hs.posted, hs.answered, hs.ran, hs.nodup, hs.extract, ?_, ?_, ?_⟩
      · exact ⟨hown.head, hown.extract⟩
      · exact ⟨false, rfl, fun h => by cases h⟩
      · exact fun hanswered => absurd (hs.answered s.call hanswered) hposted
  | false =>
      exact ⟨hs.posted, hs.answered, hs.ran, hs.nodup, hs.extract,
        ⟨Handle.noConfusion, hown.extract⟩, fun _ => hown.head⟩

theorem kept_giveUp (hs : Kept s) (h : Awaits s) :
    Kept { s with phase := .returned, gaveUp := true } :=
  ⟨hs.posted, hs.answered, hs.ran, hs.nodup, hs.extract,
    ⟨h.hEvent, h.own.extract⟩, fun _ => h.own.head⟩

theorem kept_postSend (hs : Kept s) (hphase : exists i, s.phase = .posting i)
    (succeeds : Bool) : Kept (apply (.postSend succeeds) s) := by
  rcases hphase with ⟨i, hphase⟩
  have hphased := hs.phased
  rw [hphase] at hphased
  cases succeeds with
  | true =>
      have hpost : apply (.postSend true) s =
          { s with posted := s.call :: s.posted, phase := .waiting i } := by
        simp [apply, hphase]
      rw [hpost]
      refine ⟨?_, ?_, hs.ran, hs.nodup, hs.extract, ?_⟩
      · intro packet hpacket
        rcases List.mem_cons.mp hpacket with heq | hold
        · exact Nat.le_of_eq heq
        · exact hs.posted packet hold
      · exact fun packet h => List.mem_cons_of_mem s.call (hs.answered packet h)
      · exact ⟨⟨hphased.own.head, hphased.own.extract⟩, hphased.event,
          hphased.answered⟩
  | false => exact kept_giveUp hs hphased

theorem kept_timeout (hs : Kept s) (hphase : exists i, s.phase = .waiting i) :
    Kept (apply .timeout s) := by
  rcases hphase with ⟨i, hphase⟩
  have hphased := hs.phased
  rw [hphase] at hphased
  have htimeout : apply .timeout s =
      if i + 1 < 3 then { s with phase := .posting (i + 1) }
      else { s with phase := .returned, gaveUp := true } := by
    simp only [apply, hphase]
  rw [htimeout]
  split
  · exact ⟨hs.posted, hs.answered, hs.ran, hs.nodup, hs.extract,
      ⟨hphased.own.head, hphased.own.extract⟩, hphased.event, hphased.answered⟩
  · exact kept_giveUp hs hphased

theorem kept_wake (hs : Kept s) (hphase : exists i, s.phase = .waiting i)
    (hevent : s.hEvent = .event true) : Kept (apply .wake s) := by
  rcases hphase with ⟨i, hphase⟩
  have hphased := hs.phased
  rw [hphase] at hphased
  refine ⟨hs.posted, hs.answered, hs.ran, hs.nodup, hs.extract, ?_, ?_, ?_⟩
  · exact ⟨hphased.own.head, hphased.own.extract⟩
  · rcases hphased.event with ⟨signaled, hsignaled, hdone⟩
    rw [hevent] at hsignaled
    cases hsignaled
    exact hdone rfl
  · exact Handle.noConfusion

theorem kept_step {l : Label} (henabled : enabled l s) (hright : Right l s)
    (hs : Kept s) : Kept (apply l s) := by
  have hphased := hs.phased
  cases l with
  | lock request => exact kept_lock hs henabled request
  | setExtract => exact kept_setExtract hs henabled
  | createEvent succeeds => exact kept_createEvent hs henabled succeeds
  | postSend succeeds => exact kept_postSend hs henabled succeeds
  | timeout => exact kept_timeout hs henabled.left
  | wake => exact kept_wake hs henabled.left henabled.right
  | resetEvent =>
      have hphase : s.phase = .echoed := henabled
      rw [hphase] at hphased
      exact ⟨hs.posted, hs.answered, hs.ran, hs.nodup, hs.extract, rfl,
        hphased.right.left⟩
  | resetExtract =>
      have hphase : s.phase = .eventReset := henabled
      rw [hphase] at hphased
      exact ⟨hs.posted, hs.answered, hs.ran, hs.nodup, fun _ h => (by cases h),
        hphased.left, hphased.right⟩
  | resetMsgHead =>
      have hphase : s.phase = .extractReset := henabled
      rw [hphase] at hphased
      exact ⟨hs.posted, hs.answered, hs.ran, hs.nodup, hs.extract, hphased.left,
        fun h => by cases h⟩
  | echoPacket packet => exact kept_echoPacket hs henabled hright

/-!
## Whole runs
-/

/--
In every run of a new client each callback is run as it has to be, exactly if
whenever a reply comes that has the head of the call that got the lock last,
while a callback is expecting one, it is the first reply to that call and the
call has not returned.
-/
theorem callbacks_right_iff {labels : List Label} (h : machine.Admits labels {}) :
    machine.Each InTime labels {} ↔ machine.Each Right labels {} :=
  h.each_iff_each Kept
    (fun _ _ henabled hintime hs =>
      kept_step henabled ((right_iff henabled hs).mp hintime) hs)
    (fun _ _ henabled hs => right_iff henabled hs) kept_start

def oneReply : List Label :=
  [.lock { dwMsgHead := 7, ExtractPtr := true }, .setExtract, .createEvent true,
    .postSend true, .echoPacket 1, .wake, .resetEvent, .resetExtract, .resetMsgHead]

theorem callbacks_right_iff_oneReply :
    machine.Each InTime oneReply {} ↔ machine.Each Right oneReply {} :=
  callbacks_right_iff
    ⟨rfl, rfl, rfl, ⟨0, rfl⟩, List.mem_cons_self, ⟨⟨0, rfl⟩, rfl⟩, rfl, rfl, rfl,
      trivial⟩

/-- The packet cannot be posted again after the first wait, and then it is answered. -/
def lateReply : List Label :=
  [.lock { dwMsgHead := 7, ExtractPtr := true }, .setExtract, .createEvent true,
    .postSend true, .timeout, .postSend false, .echoPacket 1]

/-- The callback is run after its call has returned. -/
theorem late_reply_runs_callback :
    machine.Admits lateReply {} ∧ ¬ machine.Each Right lateReply {} := by
  constructor
  · exact ⟨rfl, rfl, rfl, ⟨0, rfl⟩, ⟨⟨0, rfl⟩, rfl⟩, ⟨1, rfl⟩, List.mem_cons_self,
      trivial⟩
  · intro h
    rcases h with ⟨_, _, _, _, _, _, hecho, _⟩
    have hprocessed : (machine.play (lateReply.take 6) {}).Processed 1 := by
      decide
    exact (hecho hprocessed 1 rfl).right.right.left rfl

end CConsoleClient
end Client
end BnsKorea
