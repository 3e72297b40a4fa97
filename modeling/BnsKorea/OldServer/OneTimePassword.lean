import Mathlib.Logic.Function.Basic
import BnsKorea.Library.Machines
import BnsKorea.Common.ServerCommon

/-!
# The password worker of the old server

A caller that wants a one-time password makes a request on its own stack, puts a
pointer to it into a queue and waits ten seconds for its event.  One worker
thread takes the requests out of the queue one after the other.  When a caller
returns its request is gone, whoever still points to it.

Times are in milliseconds.  What the passwords are is a parameter.
-/

namespace BnsKorea
namespace OldServer
namespace COneTimePassword

open Library

/-- What has become of the call that owns a request. -/
inductive Caller where
  | waiting
  | returned (wsValue : WString)
  /-- The ten seconds were over, and the call returned the empty text. -/
  | gaveUp
deriving DecidableEq

/-- A request; its event is set or not. -/
structure ThreadFunPtrInfo where
  hEvent : Bool := false
  wsKey : WString := []
  wsValue : WString := []
  /-- When the caller began to wait. -/
  ulStart : Nat := 0
  caller : Caller := .waiting
deriving DecidableEq

inductive Worker where
  | sleeping (since : Nat)
  | taken (Ptr : Nat)
  | calculated (Ptr : Nat)
deriving DecidableEq

/-- The requests by their pointers, the queue and the worker. -/
structure State where
  now : Nat := 0
  infos : Nat -> ThreadFunPtrInfo := fun _ => {}
  next : Nat := 0
  queueOTP : List Nat := []
  worker : Worker := .sleeping 0

inductive Label where
  | tick (ms : Nat)
  /-- `CalcOPTValue` up to its wait. -/
  | call (wsKey : WString)
  /-- The worker wakes up and looks into the queue. -/
  | pop
  /-- `GetOTPValue_In_Java`, which never fails. -/
  | calculate
  | setEvent
  /-- The wait of a caller is over because its event is set. -/
  | wake (Ptr : Nat)
  /-- The wait of a caller is over because the time is. -/
  | giveUp (Ptr : Nat)
deriving DecidableEq

variable (calcOTPValue : WString -> Nat -> WString)

def State.setInfo (Ptr : Nat) (fn : ThreadFunPtrInfo -> ThreadFunPtrInfo)
    (s : State) : State :=
  { s with infos := Function.update s.infos Ptr (fn (s.infos Ptr)) }

def enabled : Label -> State -> Prop
  | .tick _, _ => True
  | .call _, _ => True
  | .pop, s => exists since, s.worker = .sleeping since ∧ since + 50 ≤ s.now
  | .calculate, s => exists Ptr, s.worker = .taken Ptr
  | .setEvent, s => exists Ptr, s.worker = .calculated Ptr
  | .wake Ptr, s =>
      Ptr < s.next ∧ (s.infos Ptr).caller = .waiting ∧
        (s.infos Ptr).hEvent = true
  | .giveUp Ptr, s =>
      Ptr < s.next ∧ (s.infos Ptr).caller = .waiting ∧
        (s.infos Ptr).hEvent = false ∧ (s.infos Ptr).ulStart + 10 * 1000 ≤ s.now

def apply : Label -> State -> State
  | .tick ms, s => { s with now := s.now + ms }
  | .call wsKey, s =>
      { s with
        infos := Function.update s.infos s.next { wsKey := wsKey, ulStart := s.now }
        next := s.next + 1
        queueOTP := s.queueOTP ++ [s.next] }
  | .pop, s =>
      match s.queueOTP with
      | [] => { s with worker := .sleeping s.now }
      | Ptr :: rest => { s with queueOTP := rest, worker := .taken Ptr }
  | .calculate, s =>
      match s.worker with
      | .taken Ptr =>
          { s.setInfo Ptr fun Info =>
              { Info with wsValue := calcOTPValue Info.wsKey s.now } with
            worker := .calculated Ptr }
      | _ => s
  | .setEvent, s =>
      match s.worker with
      | .calculated Ptr =>
          { s.setInfo Ptr fun Info => { Info with hEvent := true } with
            worker := .sleeping s.now }
      | _ => s
  | .wake Ptr, s =>
      s.setInfo Ptr fun Info =>
        { Info with hEvent := false, caller := .returned Info.wsValue }
  | .giveUp Ptr, s => s.setInfo Ptr fun Info => { Info with caller := .gaveUp }

def machine : Machine State Label where
  enabled := enabled
  step := apply calcOTPValue

/-!
## What is asked of a step
-/

/--
The worker works on requests whose callers still wait, and a caller that returns
a value returns the password of its own key at some time of its wait.
-/
def Right : Label -> State -> Prop
  | .calculate, s => forall Ptr, s.worker = .taken Ptr ->
      (s.infos Ptr).caller = .waiting
  | .setEvent, s => forall Ptr, s.worker = .calculated Ptr ->
      (s.infos Ptr).caller = .waiting
  | .wake Ptr, s => forall wsValue,
      ((apply calcOTPValue (.wake Ptr) s).infos Ptr).caller = .returned wsValue ->
      exists t, (s.infos Ptr).ulStart ≤ t ∧ t ≤ s.now ∧
        wsValue = calcOTPValue (s.infos Ptr).wsKey t
  | _, _ => True

def Patient (l : Label) (_ : State) : Prop :=
  forall Ptr, l ≠ .giveUp Ptr

/-!
## Runs in which nobody gives up
-/

section

variable {calcOTPValue} {s : State} {Ptr : Nat}

/-- The request has its password, of some time of the wait. -/
def Served (calcOTPValue : WString -> Nat -> WString) (s : State) (Ptr : Nat) :
    Prop :=
  exists t, (s.infos Ptr).ulStart ≤ t ∧ t ≤ s.now ∧
    (s.infos Ptr).wsValue = calcOTPValue (s.infos Ptr).wsKey t

def Open (s : State) (Ptr : Nat) : Prop :=
  Ptr < s.next ∧ (s.infos Ptr).caller = .waiting ∧ (s.infos Ptr).hEvent = false

/-- Who is in the queue or with the worker is open, and is there once. -/
structure Owned (calcOTPValue : WString -> Nat -> WString) (s : State) : Prop where
  started : forall Ptr, (s.infos Ptr).ulStart ≤ s.now
  nodup : s.queueOTP.Nodup
  queued : forall Ptr, Ptr ∈ s.queueOTP -> Open s Ptr
  taken : forall Ptr, s.worker = .taken Ptr -> Ptr ∉ s.queueOTP ∧ Open s Ptr
  calculated : forall Ptr, s.worker = .calculated Ptr ->
    Ptr ∉ s.queueOTP ∧ Open s Ptr ∧ Served calcOTPValue s Ptr
  served : forall Ptr, (s.infos Ptr).hEvent = true -> Served calcOTPValue s Ptr

theorem owned_start : Owned calcOTPValue {} where
  started _ := Nat.le_refl 0
  nodup := List.nodup_nil
  queued _ h := by cases h
  taken _ h := by cases h
  calculated _ h := by cases h
  served _ h := by cases h

theorem Served.later (h : Served calcOTPValue s Ptr) {s' : State}
    (hinfo : s'.infos Ptr = s.infos Ptr) (hnow : s.now ≤ s'.now) :
    Served calcOTPValue s' Ptr := by
  rcases h with ⟨t, hstart, hlate, hvalue⟩
  refine ⟨t, ?_, Nat.le_trans hlate hnow, ?_⟩
  · rw [hinfo]
    exact hstart
  · rw [hinfo]
    exact hvalue

theorem Open.same (h : Open s Ptr) {s' : State}
    (hinfo : s'.infos Ptr = s.infos Ptr) (hnext : s.next ≤ s'.next) :
    Open s' Ptr := by
  rcases h with ⟨hptr, hcaller, hevent⟩
  rw [Open, hinfo]
  exact ⟨Nat.lt_of_lt_of_le hptr hnext, hcaller, hevent⟩

theorem Open.ne (h : Open s Ptr) {Ptr' : Nat}
    (hevent : (s.infos Ptr').hEvent = true) : Ptr ≠ Ptr' := by
  intro heq
  rw [← heq, h.right.right] at hevent
  cases hevent

theorem owned_tick (hs : Owned calcOTPValue s) (ms : Nat) :
    Owned calcOTPValue { s with now := s.now + ms } where
  started Ptr := Nat.le_trans (hs.started Ptr) (Nat.le_add_right _ _)
  nodup := hs.nodup
  queued := hs.queued
  taken := hs.taken
  calculated Ptr h := by
    rcases hs.calculated Ptr h with ⟨hout, hopen, hserved⟩
    exact ⟨hout, hopen, hserved.later rfl (Nat.le_add_right _ _)⟩
  served Ptr h := (hs.served Ptr h).later rfl (Nat.le_add_right _ _)

theorem owned_call (hs : Owned calcOTPValue s) (wsKey : WString) :
    Owned calcOTPValue (apply calcOTPValue (.call wsKey) s) := by
  have hold : forall Ptr, Ptr ≠ s.next ->
      (apply calcOTPValue (.call wsKey) s).infos Ptr = s.infos Ptr := by
    intro Ptr hne
    simp [apply, hne]
  have hstill : forall Ptr, Open s Ptr ->
      Open (apply calcOTPValue (.call wsKey) s) Ptr := by
    intro Ptr hopen
    exact hopen.same (hold Ptr (Nat.ne_of_lt hopen.left)) (Nat.le_succ _)
  have hnew : forall Ptr, Open s Ptr -> Ptr ∉ s.queueOTP ->
      Ptr ∉ s.queueOTP ++ [s.next] := by
    intro Ptr hopen hout
    simp [hout, Nat.ne_of_lt hopen.left]
  constructor
  · intro Ptr
    by_cases hnext : Ptr = s.next
    · simp [apply, hnext]
    · rw [hold Ptr hnext]
      exact hs.started Ptr
  · show (s.queueOTP ++ [s.next]).Nodup
    rw [List.nodup_append]
    refine ⟨hs.nodup, List.nodup_singleton _, ?_⟩
    intro Ptr hPtr Ptr' hPtr'
    rw [List.mem_singleton.mp hPtr']
    exact Nat.ne_of_lt (hs.queued Ptr hPtr).left
  · intro Ptr hPtr
    rcases List.mem_append.mp hPtr with hold | hnew
    · exact hstill Ptr (hs.queued Ptr hold)
    · rw [List.mem_singleton.mp hnew]
      simp [Open, apply]
  · intro Ptr h
    rcases hs.taken Ptr h with ⟨hout, hopen⟩
    exact ⟨hnew Ptr hopen hout, hstill Ptr hopen⟩
  · intro Ptr h
    rcases hs.calculated Ptr h with ⟨hout, hopen, hserved⟩
    exact ⟨hnew Ptr hopen hout, hstill Ptr hopen,
      hserved.later (hold Ptr (Nat.ne_of_lt hopen.left)) (Nat.le_refl _)⟩
  · intro Ptr h
    by_cases hnext : Ptr = s.next
    · simp [apply, hnext] at h
    · rw [hold Ptr hnext] at h
      exact (hs.served Ptr h).later (hold Ptr hnext) (Nat.le_refl _)

theorem owned_pop (hs : Owned calcOTPValue s) :
    Owned calcOTPValue (apply calcOTPValue .pop s) := by
  cases hqueue : s.queueOTP with
  | nil =>
      have hpop : apply calcOTPValue .pop s = { s with worker := .sleeping s.now } := by
        simp [apply, hqueue]
      rw [hpop]
      refine ⟨hs.started, hs.nodup, hs.queued, ?_, ?_, hs.served⟩
      · intro Ptr h
        cases h
      · intro Ptr h
        cases h
  | cons Ptr rest =>
      have hpop : apply calcOTPValue .pop s =
          { s with queueOTP := rest, worker := .taken Ptr } := by
        simp [apply, hqueue]
      have hnodup := hs.nodup
      rw [hqueue, List.nodup_cons] at hnodup
      rw [hpop]
      refine ⟨hs.started, hnodup.right, ?_, ?_, ?_, hs.served⟩
      · intro Ptr' h
        exact hs.queued Ptr' (by rw [hqueue]; exact List.mem_cons_of_mem Ptr h)
      · intro Ptr' h
        cases h
        exact ⟨hnodup.left, hs.queued Ptr (by rw [hqueue]; exact List.mem_cons_self)⟩
      · intro Ptr' h
        cases h

/-- All requests but one are as they were, and so is the queue. -/
structure SameBut (Ptr : Nat) (s t : State) : Prop where
  other : forall Ptr', Ptr' ≠ Ptr -> t.infos Ptr' = s.infos Ptr'
  start : (t.infos Ptr).ulStart = (s.infos Ptr).ulStart
  now : t.now = s.now
  next : t.next = s.next
  queue : t.queueOTP = s.queueOTP

theorem SameBut.started {t : State} (h : SameBut Ptr s t)
    (hs : Owned calcOTPValue s) (Ptr' : Nat) :
    (t.infos Ptr').ulStart ≤ t.now := by
  rw [h.now]
  by_cases hne : Ptr' = Ptr
  · rw [hne, h.start]
    exact hs.started Ptr
  · rw [h.other Ptr' hne]
    exact hs.started Ptr'

theorem SameBut.stillOpen {t : State} (h : SameBut Ptr s t) {Ptr' : Nat}
    (hopen : Open s Ptr') (hne : Ptr' ≠ Ptr) : Open t Ptr' :=
  hopen.same (h.other Ptr' hne) (Nat.le_of_eq h.next.symm)

theorem SameBut.queued {t : State} (h : SameBut Ptr s t)
    (hs : Owned calcOTPValue s) (hout : Ptr ∉ s.queueOTP) (Ptr' : Nat)
    (hPtr' : Ptr' ∈ t.queueOTP) : Open t Ptr' := by
  rw [h.queue] at hPtr'
  have hne : Ptr' ≠ Ptr := fun heq => hout (heq ▸ hPtr')
  exact h.stillOpen (hs.queued Ptr' hPtr') hne

theorem SameBut.served {t : State} (h : SameBut Ptr s t)
    (hs : Owned calcOTPValue s)
    (hPtr : (t.infos Ptr).hEvent = true -> Served calcOTPValue t Ptr) (Ptr' : Nat)
    (hevent : (t.infos Ptr').hEvent = true) : Served calcOTPValue t Ptr' := by
  by_cases hne : Ptr' = Ptr
  · rw [hne] at hevent ⊢
    exact hPtr hevent
  · rw [h.other Ptr' hne] at hevent
    exact (hs.served Ptr' hevent).later (h.other Ptr' hne) (Nat.le_of_eq h.now.symm)

theorem calculate_sameBut (calcOTPValue : WString -> Nat -> WString)
    (h : s.worker = .taken Ptr) :
    SameBut Ptr s (apply calcOTPValue .calculate s) where
  other Ptr' hne := by simp [apply, h, State.setInfo, hne]
  start := by simp [apply, h, State.setInfo]
  now := by simp [apply, h, State.setInfo]
  next := by simp [apply, h, State.setInfo]
  queue := by simp [apply, h, State.setInfo]

theorem setEvent_sameBut (calcOTPValue : WString -> Nat -> WString)
    (h : s.worker = .calculated Ptr) :
    SameBut Ptr s (apply calcOTPValue .setEvent s) where
  other Ptr' hne := by simp [apply, h, State.setInfo, hne]
  start := by simp [apply, h, State.setInfo]
  now := by simp [apply, h, State.setInfo]
  next := by simp [apply, h, State.setInfo]
  queue := by simp [apply, h, State.setInfo]

theorem wake_sameBut (calcOTPValue : WString -> Nat -> WString) (Ptr : Nat)
    (s : State) : SameBut Ptr s (apply calcOTPValue (.wake Ptr) s) where
  other Ptr' hne := by simp [apply, State.setInfo, hne]
  start := by simp [apply, State.setInfo]
  now := rfl
  next := rfl
  queue := rfl

theorem owned_calculate (hs : Owned calcOTPValue s) (h : s.worker = .taken Ptr) :
    Owned calcOTPValue (apply calcOTPValue .calculate s) := by
  rcases hs.taken Ptr h with ⟨hout, hopen⟩
  have hsame := calculate_sameBut calcOTPValue h
  have hworker : (apply calcOTPValue .calculate s).worker = .calculated Ptr := by
    simp [apply, h]
  have hstill : Open (apply calcOTPValue .calculate s) Ptr := by
    simpa [Open, apply, h, State.setInfo] using hopen
  constructor
  · exact hsame.started hs
  · rw [hsame.queue]
    exact hs.nodup
  · exact hsame.queued hs hout
  · intro Ptr' h'
    rw [hworker] at h'
    cases h'
  · intro Ptr' h'
    rw [hworker] at h'
    cases h'
    rw [hsame.queue]
    refine ⟨hout, hstill, s.now, ?_, Nat.le_of_eq hsame.now.symm, ?_⟩
    · rw [hsame.start]
      exact hs.started Ptr
    · simp [apply, h, State.setInfo]
  · apply hsame.served hs
    intro hevent
    rw [hstill.right.right] at hevent
    cases hevent

theorem owned_setEvent (hs : Owned calcOTPValue s)
    (h : s.worker = .calculated Ptr) :
    Owned calcOTPValue (apply calcOTPValue .setEvent s) := by
  rcases hs.calculated Ptr h with ⟨hout, hopen, hserved⟩
  have hsame := setEvent_sameBut calcOTPValue h
  have hworker : (apply calcOTPValue .setEvent s).worker = .sleeping s.now := by
    simp [apply, h]
  constructor
  · exact hsame.started hs
  · rw [hsame.queue]
    exact hs.nodup
  · exact hsame.queued hs hout
  · intro Ptr' h'
    rw [hworker] at h'
    cases h'
  · intro Ptr' h'
    rw [hworker] at h'
    cases h'
  · apply hsame.served hs
    intro _
    simpa [Served, apply, h, State.setInfo] using hserved

theorem owned_wake (hs : Owned calcOTPValue s)
    (hevent : (s.infos Ptr).hEvent = true) :
    Owned calcOTPValue (apply calcOTPValue (.wake Ptr) s) := by
  have hsame := wake_sameBut calcOTPValue Ptr s
  have hout : Ptr ∉ s.queueOTP := by
    intro hqueued
    exact (hs.queued Ptr hqueued).ne hevent rfl
  constructor
  · exact hsame.started hs
  · exact hs.nodup
  · exact hsame.queued hs hout
  · intro Ptr' h
    rcases hs.taken Ptr' h with ⟨hout', hopen⟩
    exact ⟨hout', hsame.stillOpen hopen (hopen.ne hevent)⟩
  · intro Ptr' h
    rcases hs.calculated Ptr' h with ⟨hout', hopen, hserved⟩
    have hne := hopen.ne hevent
    exact ⟨hout', hsame.stillOpen hopen hne,
      hserved.later (hsame.other Ptr' hne) (Nat.le_refl _)⟩
  · apply hsame.served hs
    intro hnever
    simp [apply, State.setInfo] at hnever

theorem owned_step {l : Label} (henabled : enabled l s) (hpatient : Patient l s)
    (hs : Owned calcOTPValue s) : Owned calcOTPValue (apply calcOTPValue l s) := by
  cases l with
  | tick ms => exact owned_tick hs ms
  | call wsKey => exact owned_call hs wsKey
  | pop => exact owned_pop hs
  | calculate =>
      rcases henabled with ⟨Ptr, h⟩
      exact owned_calculate hs h
  | setEvent =>
      rcases henabled with ⟨Ptr, h⟩
      exact owned_setEvent hs h
  | wake Ptr => exact owned_wake hs henabled.right.right
  | giveUp Ptr => exact absurd rfl (hpatient Ptr)

theorem owned_right {l : Label} (henabled : enabled l s)
    (hs : Owned calcOTPValue s) : Right calcOTPValue l s := by
  cases l with
  | calculate => exact fun Ptr h => (hs.taken Ptr h).right.right.left
  | setEvent => exact fun Ptr h => (hs.calculated Ptr h).right.left.right.left
  | wake Ptr =>
      intro wsValue h
      rcases hs.served Ptr henabled.right.right with ⟨t, hstart, hlate, hvalue⟩
      refine ⟨t, hstart, hlate, ?_⟩
      rw [← hvalue]
      simpa [apply, State.setInfo, eq_comm] using h
  | tick ms => exact trivial
  | call wsKey => exact trivial
  | pop => exact trivial
  | giveUp Ptr => exact trivial

/-!
## After somebody gave up
-/

def Awaited (s : State) (Ptr : Nat) : Prop :=
  s.worker = .taken Ptr ∨ s.worker = .calculated Ptr ∨ Ptr ∈ s.queueOTP

/-- The request is still to be worked on, and its caller has returned. -/
def Dangling (s : State) (Ptr : Nat) : Prop :=
  Ptr < s.next ∧ (s.infos Ptr).caller ≠ .waiting ∧ Awaited s Ptr

/-- Whoever waits without its event being set is waited for by the worker. -/
def Tracked (s : State) : Prop :=
  forall Ptr, Open s Ptr -> Awaited s Ptr

theorem pop_awaited (h : exists since, s.worker = .sleeping since)
    (hawaited : Awaited s Ptr) : Awaited (apply calcOTPValue .pop s) Ptr := by
  rcases h with ⟨since, hworker⟩
  have hqueued : Ptr ∈ s.queueOTP := by
    rcases hawaited with htaken | hcalculated | hqueued
    · rw [hworker] at htaken
      cases htaken
    · rw [hworker] at hcalculated
      cases hcalculated
    · exact hqueued
  cases hqueue : s.queueOTP with
  | nil =>
      rw [hqueue] at hqueued
      cases hqueued
  | cons first rest =>
      rw [hqueue] at hqueued
      rcases List.mem_cons.mp hqueued with heq | hrest
      · rw [heq]
        exact Or.inl (by simp [apply, hqueue])
      · exact Or.inr (Or.inr (by simpa [apply, hqueue] using hrest))

theorem calculate_awaited {first : Nat} (h : s.worker = .taken first)
    (hawaited : Awaited s Ptr) : Awaited (apply calcOTPValue .calculate s) Ptr := by
  rcases hawaited with htaken | hcalculated | hqueued
  · rw [h] at htaken
    cases htaken
    exact Or.inr (Or.inl (by simp [apply, h]))
  · rw [h] at hcalculated
    cases hcalculated
  · exact Or.inr (Or.inr (by simpa [apply, h, State.setInfo] using hqueued))

theorem setEvent_awaited {first : Nat} (h : s.worker = .calculated first)
    (hawaited : Awaited s Ptr) (hne : Ptr ≠ first) :
    Awaited (apply calcOTPValue .setEvent s) Ptr := by
  rcases hawaited with htaken | hcalculated | hqueued
  · rw [h] at htaken
    cases htaken
  · rw [h] at hcalculated
    cases hcalculated
    exact absurd rfl hne
  · exact Or.inr (Or.inr (by simpa [apply, h, State.setInfo] using hqueued))

theorem call_awaited (wsKey : WString) (hawaited : Awaited s Ptr) :
    Awaited (apply calcOTPValue (.call wsKey) s) Ptr := by
  rcases hawaited with htaken | hcalculated | hqueued
  · exact Or.inl htaken
  · exact Or.inr (Or.inl hcalculated)
  · exact Or.inr (Or.inr (List.mem_append_left _ hqueued))

theorem tracked_step {l : Label} (henabled : enabled l s) (hs : Tracked s) :
    Tracked (apply calcOTPValue l s) := by
  intro Ptr hopen
  cases l with
  | tick ms => exact hs Ptr hopen
  | call wsKey =>
      by_cases hnext : Ptr = s.next
      · rw [hnext]
        exact Or.inr (Or.inr (List.mem_append_right _ List.mem_cons_self))
      · rcases hopen with ⟨hlt, hcaller, hevent⟩
        simp only [apply, Function.update_of_ne hnext] at hlt hcaller hevent
        have hold : Ptr < s.next := by omega
        exact call_awaited wsKey (hs Ptr ⟨hold, hcaller, hevent⟩)
  | pop =>
      rcases henabled with ⟨since, hworker, _⟩
      have hold : Open s Ptr := by
        cases hqueue : s.queueOTP with
        | nil => simpa [Open, apply, hqueue] using hopen
        | cons first rest => simpa [Open, apply, hqueue] using hopen
      exact pop_awaited ⟨since, hworker⟩ (hs Ptr hold)
  | calculate =>
      rcases henabled with ⟨first, hworker⟩
      have hold : Open s Ptr := by
        by_cases hne : Ptr = first
        · simpa [Open, apply, hworker, State.setInfo, hne] using hopen
        · simpa [Open, apply, hworker, State.setInfo, hne] using hopen
      exact calculate_awaited hworker (hs Ptr hold)
  | setEvent =>
      rcases henabled with ⟨first, hworker⟩
      by_cases hne : Ptr = first
      · simp [Open, apply, hworker, State.setInfo, hne] at hopen
      · have hold : Open s Ptr := by
          simpa [Open, apply, hworker, State.setInfo, hne] using hopen
        exact setEvent_awaited hworker (hs Ptr hold) hne
  | wake Ptr' =>
      by_cases hne : Ptr = Ptr'
      · simp [Open, apply, State.setInfo, hne] at hopen
      · exact hs Ptr (by simpa [Open, apply, State.setInfo, hne] using hopen)
  | giveUp Ptr' =>
      by_cases hne : Ptr = Ptr'
      · simp [Open, apply, State.setInfo, hne] at hopen
      · exact hs Ptr (by simpa [Open, apply, State.setInfo, hne] using hopen)

theorem dangling_step {l : Label} (henabled : enabled l s)
    (hright : Right calcOTPValue l s) (hs : Dangling s Ptr) :
    Dangling (apply calcOTPValue l s) Ptr := by
  rcases hs with ⟨hlt, hcaller, hawaited⟩
  cases l with
  | tick ms => exact ⟨hlt, hcaller, hawaited⟩
  | call wsKey =>
      refine ⟨Nat.lt_succ_of_lt hlt, ?_, call_awaited wsKey hawaited⟩
      simpa [apply, Nat.ne_of_lt hlt] using hcaller
  | pop =>
      rcases henabled with ⟨since, hworker, _⟩
      have hnext := @pop_awaited calcOTPValue s Ptr ⟨since, hworker⟩ hawaited
      cases hqueue : s.queueOTP with
      | nil => exact ⟨by simpa [apply, hqueue] using hlt,
          by simpa [apply, hqueue] using hcaller, hnext⟩
      | cons first rest => exact ⟨by simpa [apply, hqueue] using hlt,
          by simpa [apply, hqueue] using hcaller, hnext⟩
  | calculate =>
      rcases henabled with ⟨first, hworker⟩
      have hne : Ptr ≠ first := by
        intro heq
        rw [heq] at hcaller
        exact hcaller (hright first hworker)
      refine ⟨?_, ?_, calculate_awaited hworker hawaited⟩
      · simpa [apply, hworker, State.setInfo] using hlt
      · simpa [apply, hworker, State.setInfo, hne] using hcaller
  | setEvent =>
      rcases henabled with ⟨first, hworker⟩
      have hne : Ptr ≠ first := by
        intro heq
        rw [heq] at hcaller
        exact hcaller (hright first hworker)
      refine ⟨?_, ?_, setEvent_awaited hworker hawaited hne⟩
      · simpa [apply, hworker, State.setInfo] using hlt
      · simpa [apply, hworker, State.setInfo, hne] using hcaller
  | wake Ptr' =>
      have hne : Ptr ≠ Ptr' := by
        intro heq
        rw [heq] at hcaller
        exact hcaller henabled.right.left
      refine ⟨hlt, ?_, hawaited⟩
      simpa [apply, State.setInfo, hne] using hcaller
  | giveUp Ptr' =>
      have hne : Ptr ≠ Ptr' := by
        intro heq
        rw [heq] at hcaller
        exact hcaller henabled.right.left
      refine ⟨hlt, ?_, hawaited⟩
      simpa [apply, State.setInfo, hne] using hcaller

theorem giveUp_dangling (henabled : enabled (.giveUp Ptr) s) (hs : Tracked s) :
    Dangling (apply calcOTPValue (.giveUp Ptr) s) Ptr := by
  rcases henabled with ⟨hlt, hcaller, hevent, _⟩
  refine ⟨hlt, ?_, hs Ptr ⟨hlt, hcaller, hevent⟩⟩
  simp [apply, State.setInfo]

/-!
## What the worker does by itself
-/

structure SameCallers (s t : State) : Prop where
  next : t.next = s.next
  caller : forall Ptr, (t.infos Ptr).caller = (s.infos Ptr).caller

theorem SameCallers.trans {t u : State} (hst : SameCallers s t)
    (htu : SameCallers t u) : SameCallers s u where
  next := htu.next.trans hst.next
  caller Ptr := (htu.caller Ptr).trans (hst.caller Ptr)

theorem calculate_sameCallers (calcOTPValue : WString -> Nat -> WString)
    (h : s.worker = .taken Ptr) :
    SameCallers s (apply calcOTPValue .calculate s) where
  next := by simp [apply, h, State.setInfo]
  caller Ptr' := by
    by_cases hne : Ptr' = Ptr
    · simp [apply, h, State.setInfo, hne]
    · simp [apply, h, State.setInfo, hne]

theorem setEvent_sameCallers (calcOTPValue : WString -> Nat -> WString)
    (h : s.worker = .calculated Ptr) :
    SameCallers s (apply calcOTPValue .setEvent s) where
  next := by simp [apply, h, State.setInfo]
  caller Ptr' := by
    by_cases hne : Ptr' = Ptr
    · simp [apply, h, State.setInfo, hne]
    · simp [apply, h, State.setInfo, hne]

/-- Worker steps that lead from one state to another, nobody giving up. -/
def WorkerReaches (calcOTPValue : WString -> Nat -> WString) (s t : State) : Prop :=
  exists labels, (machine calcOTPValue).Admits labels s ∧
    (machine calcOTPValue).Each Patient labels s ∧
    (machine calcOTPValue).play labels s = t

theorem WorkerReaches.trans {t u : State} (hst : WorkerReaches calcOTPValue s t)
    (htu : WorkerReaches calcOTPValue t u) : WorkerReaches calcOTPValue s u := by
  rcases hst with ⟨xs, hadmits, hpatient, hplay⟩
  rcases htu with ⟨ys, hadmits', hpatient', hplay'⟩
  rw [← hplay] at hadmits' hpatient' hplay'
  refine ⟨xs ++ ys, ?_, ?_, ?_⟩
  · exact Machine.admits_append.mpr ⟨hadmits, hadmits'⟩
  · exact Machine.each_append.mpr ⟨hpatient, hpatient'⟩
  · rw [Machine.play_append]
    exact hplay'

theorem workerReaches_step {l : Label} (henabled : enabled l s)
    (hpatient : Patient l s) :
    WorkerReaches calcOTPValue s (apply calcOTPValue l s) :=
  ⟨[l], ⟨henabled, trivial⟩, ⟨hpatient, trivial⟩, rfl⟩

theorem worker_sleeps (calcOTPValue : WString -> Nat -> WString) (s : State) :
    exists t since, WorkerReaches calcOTPValue s t ∧ t.worker = .sleeping since ∧
      t.queueOTP = s.queueOTP ∧ SameCallers s t := by
  have hset : forall (s : State) (Ptr : Nat), s.worker = .calculated Ptr ->
      exists t since, WorkerReaches calcOTPValue s t ∧ t.worker = .sleeping since ∧
        t.queueOTP = s.queueOTP ∧ SameCallers s t := by
    intro s Ptr hworker
    refine ⟨apply calcOTPValue .setEvent s, s.now,
      workerReaches_step ⟨Ptr, hworker⟩ (fun _ h => by cases h), ?_, ?_,
      setEvent_sameCallers calcOTPValue hworker⟩
    · simp [apply, hworker]
    · simp [apply, hworker, State.setInfo]
  cases hworker : s.worker with
  | sleeping since =>
      exact ⟨s, since, ⟨[], trivial, trivial, rfl⟩, hworker, rfl, rfl, fun _ => rfl⟩
  | calculated Ptr => exact hset s Ptr hworker
  | taken Ptr =>
      have hcalculated :
          (apply calcOTPValue .calculate s).worker = .calculated Ptr := by
        simp [apply, hworker]
      have hsame := calculate_sameCallers calcOTPValue hworker
      have hqueue : (apply calcOTPValue .calculate s).queueOTP = s.queueOTP := by
        simp [apply, hworker, State.setInfo]
      have hfirst : WorkerReaches calcOTPValue s (apply calcOTPValue .calculate s) :=
        workerReaches_step ⟨Ptr, hworker⟩ (fun _ h => by cases h)
      rcases hset _ Ptr hcalculated with ⟨t, since, hreaches, hsleeps, htqueue, htsame⟩
      exact ⟨t, since, hfirst.trans hreaches, hsleeps, htqueue.trans hqueue,
        hsame.trans htsame⟩

theorem worker_takes (calcOTPValue : WString -> Nat -> WString) {first : Nat}
    {rest : List Nat} (hqueue : s.queueOTP = first :: rest) :
    exists t, WorkerReaches calcOTPValue s t ∧ t.worker = .taken first ∧
      t.queueOTP = rest ∧ SameCallers s t := by
  rcases worker_sleeps calcOTPValue s with
    ⟨t, since, hreaches, hsleeps, htqueue, hsame⟩
  rw [hqueue] at htqueue
  have htick : WorkerReaches calcOTPValue t
      (apply calcOTPValue (.tick (since + 50)) t) :=
    workerReaches_step trivial (fun _ h => by cases h)
  have hpop : WorkerReaches calcOTPValue (apply calcOTPValue (.tick (since + 50)) t)
      (apply calcOTPValue .pop (apply calcOTPValue (.tick (since + 50)) t)) :=
    workerReaches_step ⟨since, hsleeps, Nat.le_add_left _ _⟩ (fun _ h => by cases h)
  refine ⟨_, hreaches.trans (htick.trans hpop), ?_, ?_, ?_⟩
  · simp [apply, htqueue]
  · simp [apply, htqueue]
  · have hlast : SameCallers t
        (apply calcOTPValue .pop (apply calcOTPValue (.tick (since + 50)) t)) := by
      simp only [apply, htqueue]
      exact ⟨rfl, fun _ => rfl⟩
    exact hsame.trans hlast

theorem worker_takes_queued (calcOTPValue : WString -> Nat -> WString)
    {earlier later : List Nat} (hqueue : s.queueOTP = earlier ++ Ptr :: later) :
    exists t, WorkerReaches calcOTPValue s t ∧ t.worker = .taken Ptr ∧
      SameCallers s t := by
  induction earlier generalizing s with
  | nil =>
      rcases worker_takes calcOTPValue hqueue with ⟨t, hreaches, htaken, _, hsame⟩
      exact ⟨t, hreaches, htaken, hsame⟩
  | cons first earlier ih =>
      rcases worker_takes calcOTPValue hqueue with ⟨t, hreaches, _, htqueue, hsame⟩
      rcases ih htqueue with ⟨u, hreaches', htaken, hsame'⟩
      exact ⟨u, hreaches.trans hreaches', htaken, hsame.trans hsame'⟩

private theorem worker_goes_wrong {t : State} {l : Label}
    (hreaches : WorkerReaches calcOTPValue s t) (henabled : enabled l t)
    (hpatient : Patient l t) (hwrong : ¬ Right calcOTPValue l t) :
    exists more, (machine calcOTPValue).Admits more s ∧
      (machine calcOTPValue).Each Patient more s ∧
      ¬ (machine calcOTPValue).Each (Right calcOTPValue) more s := by
  rcases hreaches with ⟨labels, hadmits, hall, hplay⟩
  refine ⟨labels ++ [l], ?_, ?_, ?_⟩
  · rw [Machine.admits_append, hplay]
    exact ⟨hadmits, henabled, trivial⟩
  · rw [Machine.each_append, hplay]
    exact ⟨hall, hpatient, trivial⟩
  · rw [Machine.each_append, hplay]
    exact fun h => hwrong h.right.left

theorem Dangling.goes_wrong (calcOTPValue : WString -> Nat -> WString)
    (h : Dangling s Ptr) :
    exists more, (machine calcOTPValue).Admits more s ∧
      (machine calcOTPValue).Each Patient more s ∧
      ¬ (machine calcOTPValue).Each (Right calcOTPValue) more s := by
  rcases h with ⟨_, hcaller, htaken | hcalculated | hqueued⟩
  · exact worker_goes_wrong (l := .calculate) ⟨[], trivial, trivial, rfl⟩
      ⟨Ptr, htaken⟩ (fun _ h => by cases h) (fun h => hcaller (h Ptr htaken))
  · exact worker_goes_wrong (l := .setEvent) ⟨[], trivial, trivial, rfl⟩
      ⟨Ptr, hcalculated⟩ (fun _ h => by cases h) (fun h => hcaller (h Ptr hcalculated))
  · rcases List.append_of_mem hqueued with ⟨earlier, later, hqueue⟩
    rcases worker_takes_queued calcOTPValue hqueue with ⟨t, hreaches, htaken, hsame⟩
    refine worker_goes_wrong (l := .calculate) hreaches ⟨Ptr, htaken⟩
      (fun _ h => by cases h) ?_
    intro h
    have hwaiting := h Ptr htaken
    rw [hsame.caller] at hwaiting
    exact hcaller hwaiting

end

/-!
## Whole runs
-/

theorem tracked_start : Tracked {} := by
  intro Ptr hopen
  exact absurd hopen.left (Nat.not_lt_zero Ptr)

/--
A run goes right, however it goes on without anybody giving up, exactly if
nobody has given up in it.
-/
theorem requests_owned_iff {labels : List Label}
    (h : (machine calcOTPValue).Admits labels {}) :
    (machine calcOTPValue).Each Patient labels {} ↔
      forall more,
        (machine calcOTPValue).Admits more ((machine calcOTPValue).play labels {}) ->
        (machine calcOTPValue).Each Patient more
          ((machine calcOTPValue).play labels {}) ->
        (machine calcOTPValue).Each (Right calcOTPValue) (labels ++ more) {} := by
  constructor
  · intro hpatient more hmore hmorePatient
    have hadmits := Machine.admits_append.mpr ⟨h, hmore⟩
    have hall := Machine.each_append.mpr ⟨hpatient, hmorePatient⟩
    exact hadmits.each hall (Owned calcOTPValue)
      (fun _ _ henabled hpatient hs => owned_step henabled hpatient hs)
      (fun _ _ henabled _ hs => owned_right henabled hs) owned_start
  · intro hright
    by_contra hnot
    rcases Machine.exists_of_not_each hnot with ⟨earlier, l, later, hlabels, hl⟩
    have hgiveUp : exists Ptr, l = .giveUp Ptr := by
      by_contra hnone
      exact hl fun Ptr hPtr => hnone ⟨Ptr, hPtr⟩
    rcases hgiveUp with ⟨Ptr, hPtr⟩
    have hsofar := hright [] trivial trivial
    rw [List.append_nil] at hsofar
    rw [hlabels, hPtr] at h hsofar hright
    rcases Machine.admits_append.mp h with ⟨hearlier, henabled, hlater⟩
    have htracked : Tracked ((machine calcOTPValue).play earlier {}) :=
      hearlier.invariant (Machine.admits_iff_each.mp hearlier) Tracked
        (fun _ _ henabled _ hs => tracked_step henabled hs) tracked_start
    have hdangling := hlater.invariant (Machine.each_append.mp hsofar).right.right
      (fun s => Dangling s Ptr)
      (fun _ _ henabled hright hs => dangling_step henabled hright hs)
      (@giveUp_dangling calcOTPValue _ Ptr henabled htracked)
    rcases hdangling.goes_wrong calcOTPValue with ⟨more, hmore, hpatient, hwrong⟩
    have hend : (machine calcOTPValue).play later ((machine calcOTPValue).step
        (.giveUp Ptr) ((machine calcOTPValue).play earlier {})) =
        (machine calcOTPValue).play (earlier ++ .giveUp Ptr :: later) {} := by
      rw [Machine.play_append]
      rfl
    rw [hend] at hmore hpatient hwrong
    exact hwrong (Machine.each_append.mp (hright more hmore hpatient)).right

theorem requests_owned_iff_one_request :
    (machine fun wsKey _ => wsKey).Each Patient
        [.call [75], .tick 50, .pop, .calculate, .setEvent, .wake 0] {} ↔
      forall more,
        (machine fun wsKey _ => wsKey).Admits more
          ((machine fun wsKey _ => wsKey).play
            [.call [75], .tick 50, .pop, .calculate, .setEvent, .wake 0] {}) ->
        (machine fun wsKey _ => wsKey).Each Patient more
          ((machine fun wsKey _ => wsKey).play
            [.call [75], .tick 50, .pop, .calculate, .setEvent, .wake 0] {}) ->
        (machine fun wsKey _ => wsKey).Each (Right fun wsKey _ => wsKey)
          ([.call [75], .tick 50, .pop, .calculate, .setEvent, .wake 0] ++ more)
          {} :=
  requests_owned_iff (fun wsKey _ => wsKey)
    ⟨trivial, trivial, ⟨0, rfl, by decide⟩, ⟨0, rfl⟩, ⟨0, rfl⟩,
      ⟨by decide, rfl, rfl⟩, trivial⟩

/--
The worker is late by ten seconds: it works on the request of a caller that is
gone.
-/
theorem late_worker_meets_dead_request :
    (machine fun wsKey _ => wsKey).Admits
        [.call [75], .tick 10000, .giveUp 0, .pop, .calculate] {} ∧
      ¬ (machine fun wsKey _ => wsKey).Each (Right fun wsKey _ => wsKey)
        [.call [75], .tick 10000, .giveUp 0, .pop, .calculate] {} := by
  constructor
  · exact ⟨trivial, trivial, ⟨by decide, rfl, rfl, by decide⟩,
      ⟨0, rfl, by decide⟩, ⟨0, rfl⟩, trivial⟩
  · intro h
    have hcalculate := h.right.right.right.right.left 0 rfl
    exact absurd hcalculate (by decide)

end COneTimePassword
end OldServer
end BnsKorea
