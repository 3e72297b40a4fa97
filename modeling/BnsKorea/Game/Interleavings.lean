import BnsKorea.Game.MainThread

/-!
# Interleavings with the main thread

One turn of the timer after the other serves the callers in order.  What a step
keeps is an invariant of the queue, of the turn the main thread is in and of
the threads that wait; it is kept, and nobody left behind, exactly by the steps
that do not disturb the turn.
-/

namespace BnsKorea
namespace Game

open Library

variable {Fun Thread : Type}

namespace CGameVariable

/-!
## The invariant
-/

/-- How the turn of the timer, if there is one, stands to the queue. -/
inductive Serving (gone vQueue started : List (MainThreadFunPtrInfo Fun)) :
    List (MainThreadFunPtrInfo Fun × Phase) -> Prop where
  | idle (hstarted : started.Sublist gone) : Serving gone vQueue started []
  | head {FunPtr : MainThreadFunPtrInfo Fun} {phase : Phase}
      {rest : List (MainThreadFunPtrInfo Fun)} (hqueue : vQueue = FunPtr :: rest)
      (hstarted : started.Sublist (gone ++ [FunPtr]))
      (hmem : FunPtr ∈ started) :
      Serving gone vQueue started [(FunPtr, phase)]
  | cleared {FunPtr : MainThreadFunPtrInfo Fun} (hqueue : vQueue = [])
      (hstarted : started.Sublist gone) :
      Serving gone vQueue started [(FunPtr, .running)]

structure Orderly (s : CGameVariable Fun Thread) : Prop where
  served : s.Served
  serving : exists gone, s.pushed = gone ++ s.vQueue ∧
    Serving gone s.vQueue s.started (turns s.stack)
  /-- Only the innermost turn can be past its function. -/
  inner : forall turn, turn ∈ turns s.stack.tail -> turn.2 = .running
  issued : forall Info, Info ∈ s.pushed -> Info.hEvent < s.eventCount
  waits : forall t Info, s.waiting t = some Info -> Info ∈ s.pushed
  alone : forall t t' Info, s.waiting t = some Info -> s.waiting t' = some Info ->
    t = t'
  /-- A request that is queued or run has its caller waiting. -/
  caller : forall Info, Info ∈ s.vQueue ∨ s.Running Info ->
    (Info, Phase.signaled) ∈ turns s.stack ∨
      (exists t, s.waiting t = some Info) ∧ Info.hEvent ∉ s.events
  signals : forall hEvent, hEvent ∈ s.events ->
    exists Info, Info ∈ s.pushed ∧ Info ∈ s.completed ∧ Info.hEvent = hEvent
  done : forall Info phase, (Info, phase) ∈ turns s.stack ->
    phase = .running ∨ Info ∈ s.completed
  told : forall Info, (Info, Phase.signaled) ∈ turns s.stack ->
    forall t, s.waiting t = some Info -> Info.hEvent ∈ s.events

namespace Orderly

variable {s : CGameVariable Fun Thread} (h : s.Orderly)

include h

theorem eq_of_event {Info Info' : MainThreadFunPtrInfo Fun}
    (hmem : Info ∈ s.pushed) (hmem' : Info' ∈ s.pushed)
    (hEvent : Info.hEvent = Info'.hEvent) : Info = Info' :=
  List.inj_on_of_nodup_map h.served.apart hmem hmem' hEvent

theorem pushed_of_queued {Info : MainThreadFunPtrInfo Fun}
    (hmem : Info ∈ s.vQueue) : Info ∈ s.pushed := by
  rcases h.serving with ⟨gone, hpushed, _⟩
  rw [hpushed]
  exact List.mem_append_right _ hmem

theorem event_fresh {Info : MainThreadFunPtrInfo Fun} (hmem : Info ∈ s.pushed) :
    Info.hEvent ≠ s.eventCount :=
  Nat.ne_of_lt (h.issued Info hmem)

theorem event_unset : s.eventCount ∉ s.events := by
  intro hset
  rcases h.signals _ hset with ⟨Info, hpushed, _, hEvent⟩
  exact h.event_fresh hpushed hEvent

end Orderly

theorem Orderly.turns_running {s : CGameVariable Fun Thread} (h : s.Orderly)
    (hmain : s.InFunction) :
    forall turn, turn ∈ turns s.stack -> turn.2 = .running := by
  intro turn hturn
  have hinner := h.inner turn
  unfold InFunction at hmain
  cases hstack : s.stack with
  | nil =>
      rw [hstack] at hturn
      cases hturn
  | cons frame stack =>
      rw [hstack] at hturn hinner hmain
      cases frame with
      | direct => exact hinner hturn
      | queued FunPtr phase =>
          rcases List.mem_cons.mp hturn with heq | hturn
          · rw [heq]
            cases phase with
            | running => rfl
            | returned => cases hmain
            | signaled => cases hmain
          · exact hinner hturn

theorem waiting_push [DecidableEq Thread] {s : CGameVariable Fun Thread}
    {t : Thread} {MainThreadFunPtr_ : Fun} {t' : Thread}
    {Info : MainThreadFunPtrInfo Fun}
    (hwait : (pushMainThreadFunPtr_synch t MainThreadFunPtr_ s).waiting t' =
      some Info) :
    t' = t ∧ Info = ⟨MainThreadFunPtr_, s.eventCount⟩ ∨
      t' ≠ t ∧ s.waiting t' = some Info := by
  change Function.update s.waiting t _ t' = some Info at hwait
  by_cases ht : t' = t
  · rw [ht, Function.update_self] at hwait
    exact Or.inl ⟨ht, (Option.some.inj hwait).symm⟩
  · rw [Function.update_of_ne ht] at hwait
    exact Or.inr ⟨ht, hwait⟩

theorem Orderly.push_served [DecidableEq Thread] {s : CGameVariable Fun Thread}
    (h : s.Orderly) (t : Thread) (MainThreadFunPtr_ : Fun) :
    (pushMainThreadFunPtr_synch t MainThreadFunPtr_ s).Served := by
  constructor
  · exact h.served.defined
  · show ((s.pushed ++ [_]).map _).Nodup
    rw [List.map_append, List.nodup_append]
    refine ⟨h.served.apart, List.nodup_singleton _, ?_⟩
    intro a ha b hb hab
    rcases List.mem_map.mp ha with ⟨Info, hmem, hEvent⟩
    rw [List.mem_singleton.mp hb] at hab
    exact h.event_fresh hmem (hEvent.trans hab)
  · exact h.served.inOrder.trans (List.sublist_append_left _ _)
  · exact h.served.returns
  · intro t' Info hwait
    rcases waiting_push hwait with ⟨_, hInfo⟩ | ⟨_, hwait⟩
    · rw [hInfo]
      exact Or.inr (Or.inl (List.mem_append_right _ List.mem_cons_self))
    · rcases h.served.nobodyLeft t' Info hwait with hset | hqueued | hruns
      · exact Or.inl hset
      · exact Or.inr (Or.inl (List.mem_append_left _ hqueued))
      · exact Or.inr (Or.inr hruns)

theorem Orderly.push_alone [DecidableEq Thread] {s : CGameVariable Fun Thread}
    (h : s.Orderly) {t t1 t2 : Thread} {MainThreadFunPtr_ : Fun}
    {Info : MainThreadFunPtrInfo Fun}
    (hwait1 : (pushMainThreadFunPtr_synch t MainThreadFunPtr_ s).waiting t1 =
      some Info)
    (hwait2 : (pushMainThreadFunPtr_synch t MainThreadFunPtr_ s).waiting t2 =
      some Info) : t1 = t2 := by
  rcases waiting_push hwait1 with ⟨ht1, hInfo⟩ | ⟨_, hwait1⟩
  · rcases waiting_push hwait2 with ⟨ht2, _⟩ | ⟨_, hwait2⟩
    · rw [ht1, ht2]
    · have hmem := h.waits t2 Info hwait2
      rw [hInfo] at hmem
      exact absurd rfl (h.event_fresh hmem)
  · rcases waiting_push hwait2 with ⟨_, hInfo⟩ | ⟨_, hwait2⟩
    · have hmem := h.waits t1 Info hwait1
      rw [hInfo] at hmem
      exact absurd rfl (h.event_fresh hmem)
    · exact h.alone t1 t2 Info hwait1 hwait2

theorem Orderly.push_caller [DecidableEq Thread] {s : CGameVariable Fun Thread}
    (h : s.Orderly) {t : Thread} {MainThreadFunPtr_ : Fun}
    (hfree : s.waiting t = none) (hlock : s.Unlocked)
    {Info : MainThreadFunPtrInfo Fun}
    (hqueued : Info ∈ (pushMainThreadFunPtr_synch t MainThreadFunPtr_ s).vQueue) :
    (exists t', (pushMainThreadFunPtr_synch t MainThreadFunPtr_ s).waiting t' =
      some Info) ∧ Info.hEvent ∉ s.events := by
  rcases List.mem_append.mp hqueued with hold | hnew
  · rcases h.caller Info (Or.inl hold) with hturn | ⟨⟨t', hwait⟩, hset⟩
    · rw [hlock] at hturn
      cases hturn
    · refine ⟨⟨t', ?_⟩, hset⟩
      have ht : t' ≠ t := by
        intro ht
        rw [ht, hfree] at hwait
        cases hwait
      show Function.update s.waiting t _ t' = some Info
      rw [Function.update_of_ne ht, hwait]
  · rw [List.mem_singleton.mp hnew]
    exact ⟨⟨t, Function.update_self _ _ _⟩, h.event_unset⟩

theorem Orderly.push [DecidableEq Thread] {s : CGameVariable Fun Thread}
    (h : s.Orderly) {t : Thread} {MainThreadFunPtr_ : Fun}
    (hfree : s.waiting t = none) (hlock : s.Unlocked) :
    (pushMainThreadFunPtr_synch t MainThreadFunPtr_ s).Orderly := by
  have hnone : forall turn, turn ∉ turns s.stack := by
    intro turn hturn
    rw [hlock] at hturn
    cases hturn
  rcases h.serving with ⟨gone, hpushed, hserving⟩
  constructor
  · exact h.push_served t MainThreadFunPtr_
  · refine ⟨gone, ?_, ?_⟩
    · show s.pushed ++ [_] = gone ++ (s.vQueue ++ [_])
      rw [hpushed, List.append_assoc]
    · show Serving gone _ s.started (turns s.stack)
      rw [hlock] at hserving ⊢
      cases hserving with
      | idle hstarted => exact Serving.idle hstarted
  · exact h.inner
  · intro Info hmem
    show Info.hEvent < s.eventCount + 1
    rcases List.mem_append.mp hmem with hmem | hmem
    · exact Nat.lt_succ_of_lt (h.issued Info hmem)
    · rw [List.mem_singleton.mp hmem]
      exact Nat.lt_succ_self _
  · intro t' Info hwait
    show Info ∈ s.pushed ++ [_]
    rcases waiting_push hwait with ⟨_, hInfo⟩ | ⟨_, hwait⟩
    · rw [hInfo]
      exact List.mem_append_right _ List.mem_cons_self
    · exact List.mem_append_left _ (h.waits t' Info hwait)
  · intro t1 t2 Info hwait1 hwait2
    exact h.push_alone hwait1 hwait2
  · intro Info hwhere
    rcases hwhere with hqueued | hruns
    · exact Or.inr (h.push_caller hfree hlock hqueued)
    · exact absurd hruns (hnone _)
  · intro hEvent hset
    rcases h.signals hEvent hset with ⟨Info, hmem, hdone, heq⟩
    exact ⟨Info, List.mem_append_left _ hmem, hdone, heq⟩
  · exact h.done
  · intro Info hturn
    exact absurd hturn (hnone _)

theorem wake_eq [DecidableEq Thread] {s : CGameVariable Fun Thread} {t : Thread}
    {Info : MainThreadFunPtrInfo Fun} (hwait : s.waiting t = some Info) :
    CGameVariable.wake t s =
      { s with
        waiting := Function.update s.waiting t none
        events := s.events.filter fun hEvent => hEvent ≠ Info.hEvent
        returned := s.returned ++ [Info] } := by
  unfold CGameVariable.wake
  rw [hwait]

theorem Orderly.waiting_wake [DecidableEq Thread] {s : CGameVariable Fun Thread}
    (h : s.Orderly) {t t' : Thread} {Info Info' : MainThreadFunPtrInfo Fun}
    (hwait : s.waiting t = some Info)
    (hwait' : Function.update s.waiting t none t' = some Info') :
    s.waiting t' = some Info' ∧ Info' ≠ Info := by
  by_cases ht : t' = t
  · rw [ht, Function.update_self] at hwait'
    cases hwait'
  · rw [Function.update_of_ne ht] at hwait'
    refine ⟨hwait', ?_⟩
    intro heq
    rw [heq] at hwait'
    exact ht (h.alone t' t Info hwait' hwait)

theorem Orderly.events_wake [DecidableEq Thread] {s : CGameVariable Fun Thread}
    (h : s.Orderly) {t t' : Thread} {Info Info' : MainThreadFunPtrInfo Fun}
    (hwait : s.waiting t = some Info)
    (hwait' : Function.update s.waiting t none t' = some Info')
    (hset' : Info'.hEvent ∈ s.events) :
    Info'.hEvent ∈ s.events.filter fun hEvent => hEvent ≠ Info.hEvent := by
  rcases h.waiting_wake hwait hwait' with ⟨hold, hne⟩
  refine List.mem_filter.mpr ⟨hset', ?_⟩
  apply decide_eq_true
  intro heq
  exact hne (h.eq_of_event (h.waits t' Info' hold) (h.waits t Info hwait) heq)

theorem Orderly.wake_served [DecidableEq Thread] {s : CGameVariable Fun Thread}
    (h : s.Orderly) {t : Thread} {Info : MainThreadFunPtrInfo Fun}
    (hwait : s.waiting t = some Info) (hset : Info.hEvent ∈ s.events) :
    (CGameVariable.wake t s).Served := by
  have hcompleted : Info ∈ s.completed := by
    rcases h.signals _ hset with ⟨Info', hpushed, hdone, heq⟩
    rw [← h.eq_of_event hpushed (h.waits t Info hwait) heq]
    exact hdone
  rw [wake_eq hwait]
  refine ⟨h.served.defined, h.served.apart, h.served.inOrder, ?_, ?_⟩
  · intro Info' hreturned
    rcases List.mem_append.mp hreturned with hreturned | hnew
    · exact h.served.returns Info' hreturned
    · rw [List.mem_singleton.mp hnew]
      exact hcompleted
  · intro t' Info' hwait'
    rcases h.served.nobodyLeft t' Info' (h.waiting_wake hwait hwait').left with
      hset' | hwhere
    · exact Or.inl (h.events_wake hwait hwait' hset')
    · exact Or.inr hwhere

theorem Orderly.wake [DecidableEq Thread] {s : CGameVariable Fun Thread}
    (h : s.Orderly) {t : Thread} {Info : MainThreadFunPtrInfo Fun}
    (hwait : s.waiting t = some Info)
    (hset : Info.hEvent ∈ s.events) : (CGameVariable.wake t s).Orderly := by
  have hserved := h.wake_served hwait hset
  rw [wake_eq hwait] at hserved ⊢
  constructor
  · exact hserved
  · exact h.serving
  · exact h.inner
  · exact h.issued
  · intro t' Info' hwait'
    exact h.waits t' Info' (h.waiting_wake hwait hwait').left
  · intro t1 t2 Info' hwait1 hwait2
    exact h.alone t1 t2 Info' (h.waiting_wake hwait hwait1).left
      (h.waiting_wake hwait hwait2).left
  · intro Info' hwhere
    rcases h.caller Info' hwhere with hturn | ⟨⟨t', hwait'⟩, hunset⟩
    · exact Or.inl hturn
    · refine Or.inr ⟨⟨t', ?_⟩, ?_⟩
      · have ht : t' ≠ t := by
          intro ht
          rw [ht, hwait] at hwait'
          cases hwait'
          exact hunset hset
        show Function.update s.waiting t none t' = some Info'
        rw [Function.update_of_ne ht, hwait']
      · intro hset'
        exact hunset (List.mem_filter.mp hset').left
  · intro hEvent hset'
    exact h.signals hEvent (List.mem_filter.mp hset').left
  · exact h.done
  · intro Info' hturn t' hwait'
    exact h.events_wake hwait hwait'
      (h.told Info' hturn t' (h.waiting_wake hwait hwait').left)

theorem Orderly.clear {s : CGameVariable Fun Thread} (h : s.Orderly)
    (hrun : forall Info, Info ∈ s.vQueue -> s.Running Info) :
    (clearMainThreadFunPtr s).Orderly := by
  constructor
  · refine ⟨h.served.defined, h.served.apart, h.served.inOrder, h.served.returns,
      ?_⟩
    intro t Info hwait
    rcases h.served.nobodyLeft t Info hwait with hset | hqueued | hruns
    · exact Or.inl hset
    · exact Or.inr (Or.inr (hrun Info hqueued))
    · exact Or.inr (Or.inr hruns)
  · rcases h.serving with ⟨gone, hpushed, hserving⟩
    refine ⟨gone ++ s.vQueue, ?_, ?_⟩
    · show s.pushed = gone ++ s.vQueue ++ []
      rw [hpushed, List.append_nil]
    · show Serving (gone ++ s.vQueue) [] s.started (turns s.stack)
      unfold Running at hrun
      revert hserving hrun
      generalize turns s.stack = ts
      intro hrun hserving
      cases hserving with
      | idle hstarted =>
          exact Serving.idle (hstarted.trans (List.sublist_append_left _ _))
      | head hqueue hstarted hmem =>
          rename_i FunPtr phase rest
          -- the only turn runs the function of the head
          have hphase := hrun FunPtr (hqueue ▸ List.mem_cons_self)
          cases List.mem_singleton.mp hphase
          refine Serving.cleared rfl (hstarted.trans ?_)
          rw [hqueue]
          exact (List.singleton_sublist.mpr List.mem_cons_self).append_left gone
      | cleared _ hstarted =>
          exact Serving.cleared rfl (hstarted.trans (List.sublist_append_left _ _))
  · exact h.inner
  · exact h.issued
  · exact h.waits
  · exact h.alone
  · intro Info hwhere
    rcases hwhere with hqueued | hruns
    · cases hqueued
    · exact h.caller Info (Or.inr hruns)
  · exact h.signals
  · exact h.done
  · exact h.told

theorem Orderly.pushOnMainThread {s : CGameVariable Fun Thread} (h : s.Orderly)
    (hmain : s.InFunction) : (CGameVariable.pushOnMainThread s).Orderly := by
  refine ⟨?_, h.serving, h.turns_running hmain, h.issued, h.waits, h.alone,
    h.caller, h.signals, h.done, h.told⟩
  exact ⟨h.served.defined, h.served.apart, h.served.inOrder, h.served.returns,
    h.served.nobodyLeft⟩

theorem Orderly.start {s : CGameVariable Fun Thread} (h : s.Orderly)
    (hlock : s.Unlocked) {FunPtr : MainThreadFunPtrInfo Fun}
    {rest : List (MainThreadFunPtrInfo Fun)} (hqueue : s.vQueue = FunPtr :: rest) :
    Orderly { s with
      stack := .queued FunPtr .running :: s.stack
      started := s.started ++ [FunPtr] } := by
  rcases h.serving with ⟨gone, hpushed, hserving⟩
  have hstarted : s.started.Sublist gone := by
    rw [hlock] at hserving
    cases hserving with
    | idle hstarted => exact hstarted
  have hnow : (s.started ++ [FunPtr]).Sublist (gone ++ [FunPtr]) :=
    hstarted.append_right [FunPtr]
  constructor
  · refine ⟨h.served.defined, h.served.apart, ?_, h.served.returns, ?_⟩
    · show (s.started ++ [FunPtr]).Sublist s.pushed
      rw [hpushed, hqueue]
      exact hstarted.append (List.singleton_sublist.mpr List.mem_cons_self)
    · intro t Info hwait
      rcases h.served.nobodyLeft t Info hwait with hset | hqueued | hruns
      · exact Or.inl hset
      · exact Or.inr (Or.inl hqueued)
      · exact Or.inr (Or.inr (List.mem_cons_of_mem _ hruns))
  · refine ⟨gone, hpushed, ?_⟩
    show Serving gone s.vQueue _ ((FunPtr, .running) :: turns s.stack)
    rw [hlock]
    exact Serving.head hqueue hnow (List.mem_append_right _ List.mem_cons_self)
  · intro turn hturn
    change turn ∈ turns s.stack at hturn
    rw [hlock] at hturn
    cases hturn
  · exact h.issued
  · exact h.waits
  · exact h.alone
  · intro Info hwhere
    have hold : Info ∈ s.vQueue := by
      rcases hwhere with hqueued | hruns
      · exact hqueued
      · have hturn : (Info, Phase.running) ∈
            (FunPtr, Phase.running) :: turns s.stack := hruns
        rw [hlock] at hturn
        cases List.mem_singleton.mp hturn
        rw [hqueue]
        exact List.mem_cons_self
    rcases h.caller Info (Or.inl hold) with hturn | hcaller
    · exact Or.inl (List.mem_cons_of_mem _ hturn)
    · exact Or.inr hcaller
  · exact h.signals
  · intro Info phase hturn
    rcases List.mem_cons.mp hturn with heq | hturn
    · cases heq
      exact Or.inl rfl
    · exact h.done Info phase hturn
  · intro Info hturn
    rcases List.mem_cons.mp hturn with heq | hturn
    · cases heq
    · exact h.told Info hturn

theorem Orderly.turns_below {s : CGameVariable Fun Thread} (h : s.Orderly)
    {FunPtr : MainThreadFunPtrInfo Fun} {phase : Phase} {stack : List (Frame Fun)}
    (hstack : s.stack = .queued FunPtr phase :: stack) : turns stack = [] := by
  rcases h.serving with ⟨gone, _, hserving⟩
  rw [hstack, turns_queued] at hserving
  generalize turns stack = ts at hserving
  cases hserving with
  | head => rfl
  | cleared => rfl

theorem Orderly.turns_eq {s : CGameVariable Fun Thread} (h : s.Orderly)
    {FunPtr : MainThreadFunPtrInfo Fun} {phase : Phase} {stack : List (Frame Fun)}
    (hstack : s.stack = .queued FunPtr phase :: stack) (phase' : Phase) :
    turns (.queued FunPtr phase' :: stack) = [(FunPtr, phase')] := by
  rw [turns_queued, h.turns_below hstack]

theorem Orderly.turn_eq {s : CGameVariable Fun Thread} (h : s.Orderly)
    {FunPtr : MainThreadFunPtrInfo Fun} {phase phase' : Phase}
    {stack : List (Frame Fun)} (hstack : s.stack = .queued FunPtr phase :: stack)
    {turn : MainThreadFunPtrInfo Fun × Phase}
    (hturn : turn ∈ turns (.queued FunPtr phase' :: stack)) :
    turn = (FunPtr, phase') := by
  rw [h.turns_eq hstack] at hturn
  exact List.mem_singleton.mp hturn

theorem Orderly.no_inner {s : CGameVariable Fun Thread} (h : s.Orderly)
    {FunPtr : MainThreadFunPtrInfo Fun} {phase : Phase} {stack : List (Frame Fun)}
    (hstack : s.stack = .queued FunPtr phase :: stack)
    {turn : MainThreadFunPtrInfo Fun × Phase} (hturn : turn ∈ turns stack) :
    False := by
  rw [h.turns_below hstack] at hturn
  cases hturn

theorem Orderly.running_iff {s : CGameVariable Fun Thread} (h : s.Orderly)
    {FunPtr : MainThreadFunPtrInfo Fun} {phase : Phase} {stack : List (Frame Fun)}
    (hstack : s.stack = .queued FunPtr phase :: stack)
    {Info : MainThreadFunPtrInfo Fun} :
    s.Running Info ↔ Info = FunPtr ∧ phase = .running := by
  rw [Running, hstack, h.turns_eq hstack, List.mem_singleton, Prod.mk.injEq]
  exact and_congr_right fun _ => eq_comm

theorem Orderly.head_of_turn {s : CGameVariable Fun Thread} (h : s.Orderly)
    {FunPtr : MainThreadFunPtrInfo Fun} {phase : Phase} {stack : List (Frame Fun)}
    (hstack : s.stack = .queued FunPtr phase :: stack)
    (hqueued : phase = .running -> FunPtr ∈ s.vQueue) :
    exists gone rest, s.pushed = gone ++ s.vQueue ∧ s.vQueue = FunPtr :: rest ∧
      s.started.Sublist (gone ++ [FunPtr]) ∧ FunPtr ∈ s.started := by
  rcases h.serving with ⟨gone, hpushed, hserving⟩
  rw [hstack, turns_queued, h.turns_below hstack] at hserving
  cases hserving with
  | head hqueue hstarted hmem => exact ⟨gone, _, hpushed, hqueue, hstarted, hmem⟩
  | cleared hqueue _ =>
      have hmem := hqueued rfl
      rw [hqueue] at hmem
      cases hmem

theorem Orderly.caller_of_queued {s : CGameVariable Fun Thread} (h : s.Orderly)
    {FunPtr : MainThreadFunPtrInfo Fun} {phase : Phase} {stack : List (Frame Fun)}
    (hstack : s.stack = .queued FunPtr phase :: stack)
    {Info : MainThreadFunPtrInfo Fun} (hqueued : Info ∈ s.vQueue)
    (hphase : Info = FunPtr -> phase ≠ .signaled) :
    (exists t, s.waiting t = some Info) ∧ Info.hEvent ∉ s.events := by
  rcases h.caller Info (Or.inl hqueued) with hturn | hcaller
  · rw [hstack] at hturn
    cases h.turn_eq hstack hturn
    exact absurd rfl (hphase rfl)
  · exact hcaller

theorem Orderly.finish_queued {s : CGameVariable Fun Thread} (h : s.Orderly)
    {FunPtr : MainThreadFunPtrInfo Fun} {stack : List (Frame Fun)}
    (hstack : s.stack = .queued FunPtr .running :: stack)
    (hqueued : FunPtr ∈ s.vQueue) :
    Orderly { s with
      stack := .queued FunPtr .returned :: stack
      completed := s.completed ++ [FunPtr] } := by
  rcases h.head_of_turn hstack fun _ => hqueued with
    ⟨gone, rest, hpushed, hqueue, hstarted, hmem⟩
  constructor
  · refine ⟨h.served.defined, h.served.apart, h.served.inOrder, ?_, ?_⟩
    · intro Info hreturned
      exact List.mem_append_left _ (h.served.returns Info hreturned)
    · intro t Info hwait
      rcases h.served.nobodyLeft t Info hwait with hset | hqueued' | hruns
      · exact Or.inl hset
      · exact Or.inr (Or.inl hqueued')
      · rw [((h.running_iff hstack).mp hruns).left]
        exact Or.inr (Or.inl hqueued)
  · refine ⟨gone, hpushed, ?_⟩
    show Serving gone s.vQueue s.started (turns (.queued FunPtr .returned :: stack))
    rw [h.turns_eq hstack]
    exact Serving.head hqueue hstarted hmem
  · intro turn hturn
    exact (h.no_inner hstack hturn).elim
  · exact h.issued
  · exact h.waits
  · exact h.alone
  · intro Info hwhere
    have hold : Info ∈ s.vQueue := by
      rcases hwhere with hqueued' | hruns
      · exact hqueued'
      · cases h.turn_eq hstack hruns
    exact Or.inr (h.caller_of_queued hstack hold fun _ => Phase.noConfusion)
  · intro hEvent hset
    rcases h.signals hEvent hset with ⟨Info, hpushed', hdone, heq⟩
    exact ⟨Info, hpushed', List.mem_append_left _ hdone, heq⟩
  · intro Info phase hturn
    cases h.turn_eq hstack hturn
    exact Or.inr (List.mem_append_right _ List.mem_cons_self)
  · intro Info hturn
    cases h.turn_eq hstack hturn

theorem Orderly.finish_direct {s : CGameVariable Fun Thread} (h : s.Orderly)
    {stack : List (Frame Fun)} (hstack : s.stack = .direct :: stack) :
    Orderly { s with stack := stack } := by
  have hsame : turns stack = turns s.stack := by rw [hstack, turns_direct]
  have hinner := h.inner
  rw [hstack] at hinner
  have hserving := h.serving
  have hcaller := h.caller
  have hdone := h.done
  have htold := h.told
  have hleft := h.served.nobodyLeft
  unfold Running at hcaller hleft
  rw [← hsame] at hserving hcaller hdone htold hleft
  refine ⟨⟨h.served.defined, h.served.apart, h.served.inOrder, h.served.returns,
    hleft⟩, hserving, ?_, h.issued, h.waits, h.alone, hcaller, h.signals, hdone,
    htold⟩
  exact fun turn hturn => hinner turn (mem_turns_of_tail hturn)

theorem setEvent_eq {s : CGameVariable Fun Thread}
    {FunPtr : MainThreadFunPtrInfo Fun} {stack : List (Frame Fun)}
    {rest : List (MainThreadFunPtrInfo Fun)}
    (hstack : s.stack = .queued FunPtr .returned :: stack)
    (hqueue : s.vQueue = FunPtr :: rest) :
    CGameVariable.setEvent s =
      { s with
        stack := .queued FunPtr .signaled :: stack
        events := FunPtr.hEvent :: s.events } := by
  unfold CGameVariable.setEvent
  rw [hstack, hqueue]
  simp

theorem Orderly.setEvent_served {s : CGameVariable Fun Thread} (h : s.Orderly)
    {FunPtr : MainThreadFunPtrInfo Fun} {stack : List (Frame Fun)}
    (hstack : s.stack = .queued FunPtr .returned :: stack)
    {rest : List (MainThreadFunPtrInfo Fun)} (hqueue : s.vQueue = FunPtr :: rest) :
    (CGameVariable.setEvent s).Served := by
  rw [setEvent_eq hstack hqueue]
  refine ⟨h.served.defined, h.served.apart, h.served.inOrder, h.served.returns, ?_⟩
  intro t Info hwait
  rcases h.served.nobodyLeft t Info hwait with hset | hqueued | hruns
  · exact Or.inl (List.mem_cons_of_mem _ hset)
  · exact Or.inr (Or.inl hqueued)
  · cases ((h.running_iff hstack).mp hruns).right

theorem Orderly.event_other {s : CGameVariable Fun Thread} (h : s.Orderly)
    {FunPtr Info : MainThreadFunPtrInfo Fun} (hqueued : FunPtr ∈ s.vQueue)
    (hmem : Info ∈ s.vQueue) (hne : Info ≠ FunPtr) (hunset : Info.hEvent ∉ s.events) :
    Info.hEvent ∉ FunPtr.hEvent :: s.events := by
  intro hset
  rcases List.mem_cons.mp hset with heq | hset
  · exact hne (h.eq_of_event (h.pushed_of_queued hmem)
      (h.pushed_of_queued hqueued) heq)
  · exact hunset hset

theorem Orderly.setEvent {s : CGameVariable Fun Thread} (h : s.Orderly)
    {FunPtr : MainThreadFunPtrInfo Fun} {stack : List (Frame Fun)}
    (hstack : s.stack = .queued FunPtr .returned :: stack) :
    (CGameVariable.setEvent s).Orderly := by
  rcases h.head_of_turn hstack fun hphase => nomatch hphase with
    ⟨gone, rest, hpushed, hqueue, hstarted, hmem⟩
  have hserved := h.setEvent_served hstack hqueue
  have hqueued : FunPtr ∈ s.vQueue := by
    rw [hqueue]
    exact List.mem_cons_self
  have hdone : FunPtr ∈ s.completed := by
    rcases h.done FunPtr .returned (hstack ▸ List.mem_cons_self) with hphase | hdone
    · cases hphase
    · exact hdone
  rw [setEvent_eq hstack hqueue] at hserved ⊢
  constructor
  · exact hserved
  · refine ⟨gone, hpushed, ?_⟩
    show Serving gone s.vQueue s.started (turns (.queued FunPtr .signaled :: stack))
    rw [h.turns_eq hstack]
    exact Serving.head hqueue hstarted hmem
  · intro turn hturn
    exact (h.no_inner hstack hturn).elim
  · exact h.issued
  · exact h.waits
  · exact h.alone
  · intro Info hwhere
    have hold : Info ∈ s.vQueue := by
      rcases hwhere with hqueued' | hruns
      · exact hqueued'
      · cases h.turn_eq hstack hruns
    by_cases hsame : Info = FunPtr
    · rw [hsame]
      exact Or.inl List.mem_cons_self
    · rcases h.caller_of_queued hstack hold fun _ => Phase.noConfusion with
        ⟨hcaller, hunset⟩
      exact Or.inr ⟨hcaller, h.event_other hqueued hold hsame hunset⟩
  · intro hEvent hset
    rcases List.mem_cons.mp hset with heq | hset
    · exact ⟨FunPtr, h.pushed_of_queued hqueued, hdone, heq.symm⟩
    · exact h.signals hEvent hset
  · intro Info phase hturn
    cases h.turn_eq hstack hturn
    exact Or.inr hdone
  · intro Info hturn t _
    cases h.turn_eq hstack hturn
    exact List.mem_cons_self

theorem pop_eq {s : CGameVariable Fun Thread}
    {FunPtr : MainThreadFunPtrInfo Fun} {stack : List (Frame Fun)}
    {rest : List (MainThreadFunPtrInfo Fun)}
    (hstack : s.stack = .queued FunPtr .signaled :: stack)
    (hqueue : s.vQueue = FunPtr :: rest) :
    CGameVariable.pop s = { s with stack := stack, vQueue := rest } := by
  unfold CGameVariable.pop
  rw [hstack, hqueue]

theorem Orderly.ne_head {s : CGameVariable Fun Thread} (h : s.Orderly)
    {FunPtr Info : MainThreadFunPtrInfo Fun}
    {rest : List (MainThreadFunPtrInfo Fun)} (hqueue : s.vQueue = FunPtr :: rest)
    (hrest : Info ∈ rest) : Info ≠ FunPtr := by
  rcases h.serving with ⟨gone, hpushed, _⟩
  have hnodup := List.Nodup.of_map _ h.served.apart
  rw [hpushed, hqueue, List.nodup_append] at hnodup
  intro heq
  rw [heq] at hrest
  exact (List.nodup_cons.mp hnodup.right.left).left hrest

theorem Orderly.pop_served {s : CGameVariable Fun Thread} (h : s.Orderly)
    {FunPtr : MainThreadFunPtrInfo Fun} {stack : List (Frame Fun)}
    (hstack : s.stack = .queued FunPtr .signaled :: stack)
    {rest : List (MainThreadFunPtrInfo Fun)} (hqueue : s.vQueue = FunPtr :: rest) :
    (CGameVariable.pop s).Served := by
  rw [pop_eq hstack hqueue]
  refine ⟨h.served.defined, h.served.apart, h.served.inOrder, h.served.returns, ?_⟩
  intro t Info hwait
  rcases h.served.nobodyLeft t Info hwait with hset | hqueued | hruns
  · exact Or.inl hset
  · rw [hqueue] at hqueued
    rcases List.mem_cons.mp hqueued with heq | hqueued
    · rw [heq] at hwait ⊢
      exact Or.inl (h.told FunPtr (hstack ▸ List.mem_cons_self) t hwait)
    · exact Or.inr (Or.inl hqueued)
  · cases ((h.running_iff hstack).mp hruns).right

theorem Orderly.pop {s : CGameVariable Fun Thread} (h : s.Orderly)
    {FunPtr : MainThreadFunPtrInfo Fun} {stack : List (Frame Fun)}
    (hstack : s.stack = .queued FunPtr .signaled :: stack) :
    (CGameVariable.pop s).Orderly := by
  rcases h.head_of_turn hstack fun hphase => nomatch hphase with
    ⟨gone, rest, hpushed, hqueue, hstarted, hmem⟩
  have hserved := h.pop_served hstack hqueue
  rw [pop_eq hstack hqueue] at hserved ⊢
  constructor
  · exact hserved
  · refine ⟨gone ++ [FunPtr], ?_, ?_⟩
    · show s.pushed = gone ++ [FunPtr] ++ rest
      rw [hpushed, hqueue, List.append_assoc]
      rfl
    · show Serving (gone ++ [FunPtr]) rest s.started (turns stack)
      rw [h.turns_below hstack]
      exact Serving.idle hstarted
  · intro turn hturn
    exact (h.no_inner hstack (mem_turns_of_tail hturn)).elim
  · exact h.issued
  · exact h.waits
  · exact h.alone
  · intro Info hwhere
    have hold : Info ∈ rest := by
      rcases hwhere with hqueued | hruns
      · exact hqueued
      · exact (h.no_inner hstack hruns).elim
    have hqueued : Info ∈ s.vQueue := hqueue ▸ List.mem_cons_of_mem _ hold
    exact Or.inr (h.caller_of_queued hstack hqueued fun heq =>
      absurd heq (h.ne_head hqueue hold))
  · exact h.signals
  · intro Info phase hturn
    exact (h.no_inner hstack hturn).elim
  · intro Info hturn
    exact (h.no_inner hstack hturn).elim

/-!
## Every interleaving
-/

theorem Orderly.timerProc {s : CGameVariable Fun Thread} (h : s.Orderly)
    {nTimerid : UINT} {isGameLoad : Bool}
    (hquiet : Undisturbed (.timerProc nTimerid isGameLoad) s) :
    (CGameVariable.timerProc nTimerid isGameLoad s).Orderly := by
  unfold CGameVariable.timerProc
  split
  · exact h
  · rename_i hid
    split
    · exact h
    · rename_i hload
      split
      · exact h
      · rename_i FunPtr rest hqueue
        have hknown : nTimerid = 0x1000 ∨ nTimerid = 0x1001 := by
          by_contra hnone
          exact hid (not_or.mp hnone)
        rcases hquiet hknown (Bool.eq_false_iff.mpr hload) with hempty | hlock
        · rw [hqueue] at hempty
          cases hempty
        · exact h.start hlock hqueue

theorem Orderly.finish {s : CGameVariable Fun Thread} (h : s.Orderly)
    (hquiet : Undisturbed .finish s) : (CGameVariable.finish s).Orderly := by
  unfold CGameVariable.finish
  split
  · rename_i stack hstack
    exact h.finish_direct hstack
  · rename_i FunPtr stack hstack
    exact h.finish_queued hstack (hquiet FunPtr stack hstack)
  · exact h

theorem Orderly.step [DecidableEq Thread] {e : Event Fun Thread}
    {s : CGameVariable Fun Thread} (h : s.Orderly) (hallowed : Allowed e s)
    (hquiet : Undisturbed e s) :
    (apply e s).Orderly := by
  cases e with
  | push t MainThreadFunPtr_ => exact h.push hallowed.left hallowed.right
  | wake t =>
      rcases hallowed with ⟨Info, hwait, hset⟩
      exact h.wake hwait hset
  | clear => exact h.clear hquiet
  | clearOnMainThread => exact h.clear hquiet
  | pushOnMainThread => exact h.pushOnMainThread hallowed
  | timerProc nTimerid isGameLoad => exact h.timerProc hquiet
  | finish => exact h.finish hquiet
  | setEvent =>
      rcases hallowed with ⟨FunPtr, stack, hstack⟩
      exact h.setEvent hstack
  | pop =>
      rcases hallowed with ⟨FunPtr, stack, hstack⟩
      exact h.pop hstack

theorem Orderly.running_of_cleared {s : CGameVariable Fun Thread} (h : s.Orderly)
    (hturns : forall turn, turn ∈ turns s.stack -> turn.2 = .running)
    (hafter : (clearMainThreadFunPtr s).Served) :
    forall Info, Info ∈ s.vQueue -> s.Running Info := by
  intro Info hqueued
  rcases h.caller Info (Or.inl hqueued) with hturn | ⟨⟨t, hwait⟩, hunset⟩
  · cases hturns _ hturn
  · rcases hafter.nobodyLeft t Info hwait with hset | hqueued' | hruns
    · exact absurd hset hunset
    · cases hqueued'
    · exact hruns

theorem Orderly.unlocked_of_started {s : CGameVariable Fun Thread} (h : s.Orderly)
    {nTimerid : UINT} {isGameLoad : Bool}
    (hknown : nTimerid = 0x1000 ∨ nTimerid = 0x1001) (hload : isGameLoad = false)
    (hafter : (CGameVariable.timerProc nTimerid isGameLoad s).Served) :
    s.vQueue = [] ∨ s.Unlocked := by
  cases hqueue : s.vQueue with
  | nil => exact Or.inl rfl
  | cons FunPtr rest =>
      right
      have hid : ¬ (nTimerid ≠ 0x1000 ∧ nTimerid ≠ 0x1001) := by
        intro hne
        rcases hknown with heq | heq
        · exact hne.left heq
        · exact hne.right heq
      have hstep : CGameVariable.timerProc nTimerid isGameLoad s =
          { s with
            stack := .queued FunPtr .running :: s.stack
            started := s.started ++ [FunPtr] } := by
        unfold CGameVariable.timerProc
        rw [if_neg hid, hload, if_neg Bool.false_ne_true, hqueue]
      rw [hstep] at hafter
      rcases h.serving with ⟨gone, _, hserving⟩
      show turns s.stack = []
      generalize turns s.stack = ts at hserving
      cases hserving with
      | idle => rfl
      | head hqueue' _ hmem =>
          rw [hqueue] at hqueue'
          rw [← (List.cons.inj hqueue').left] at hmem
          -- the head was started when its turn began
          have hnodup := (List.Nodup.of_map _ hafter.apart).sublist hafter.inOrder
          exact absurd rfl
            ((List.nodup_append.mp hnodup).right.right FunPtr hmem FunPtr
              List.mem_cons_self)
      | cleared hempty _ =>
          rw [hqueue] at hempty
          cases hempty

theorem Orderly.queued_of_finished {s : CGameVariable Fun Thread} (h : s.Orderly)
    (hafter : (CGameVariable.finish s).Served) : Undisturbed .finish s := by
  intro FunPtr stack hstack
  have hstep : CGameVariable.finish s =
      { s with
        stack := .queued FunPtr .returned :: stack
        completed := s.completed ++ [FunPtr] } := by
    unfold CGameVariable.finish
    rw [hstack]
  rw [hstep] at hafter
  have hruns : s.Running FunPtr := (h.running_iff hstack).mpr ⟨rfl, rfl⟩
  rcases h.caller FunPtr (Or.inr hruns) with hturn | ⟨⟨t, hwait⟩, hunset⟩
  · rw [hstack] at hturn
    cases h.turn_eq hstack hturn
  · rcases hafter.nobodyLeft t FunPtr hwait with hset | hqueued | hruns'
    · exact absurd hset hunset
    · exact hqueued
    · cases h.turn_eq hstack hruns'

theorem Orderly.undisturbed [DecidableEq Thread] {e : Event Fun Thread}
    {s : CGameVariable Fun Thread} (h : s.Orderly) (hallowed : Allowed e s)
    (hafter : (apply e s).Served) : Undisturbed e s := by
  cases e with
  | push => exact trivial
  | wake => exact trivial
  | clear =>
      apply h.running_of_cleared _ hafter
      intro turn hturn
      have hlock : turns s.stack = [] := hallowed
      rw [hlock] at hturn
      cases hturn
  | clearOnMainThread =>
      exact h.running_of_cleared (h.turns_running hallowed) hafter
  | pushOnMainThread => exact trivial
  | timerProc nTimerid isGameLoad =>
      exact fun hknown hload => h.unlocked_of_started hknown hload hafter
  | finish => exact h.queued_of_finished hafter
  | setEvent => exact trivial
  | pop => exact trivial

theorem orderly_initial : Orderly ({} : CGameVariable Fun Thread) where
  served := {
    defined := rfl
    apart := List.nodup_nil
    inOrder := List.Sublist.refl _
    returns := fun _ hmem => nomatch hmem
    nobodyLeft := fun _ _ hwait => nomatch hwait }
  serving := ⟨[], rfl, Serving.idle (List.Sublist.refl _)⟩
  inner _ hturn := nomatch hturn
  issued _ hmem := nomatch hmem
  waits _ _ hwait := nomatch hwait
  alone _ _ _ hwait := nomatch hwait
  caller _ hwhere := by
    rcases hwhere with hqueued | hruns
    · cases hqueued
    · cases hruns
  signals _ hset := nomatch hset
  done _ _ hturn := nomatch hturn
  told _ hturn := nomatch hturn

/--
Along an interleaving every caller is served, in order and once, exactly if no
step of it disturbs the turn of a request.
-/
theorem served_iff_undisturbed [DecidableEq Thread]
    {events : List (Event Fun Thread)} (h : machine.Admits events {}) :
    machine.Each (fun e s => (machine.step e s).Served) events {} ↔
      machine.Each Undisturbed events {} :=
  (h.each_iff_each Orderly
    (fun _ _ henabled hquiet hs => hs.step henabled.right hquiet)
    (fun _ _ henabled hs =>
      ⟨fun hquiet => (hs.step henabled.right hquiet).served,
        hs.undisturbed henabled.right⟩)
    orderly_initial).symm

/-- The function runs a message loop, and the timer comes again. -/
def reentered : List (Event Nat Nat) :=
  [.push 1 5, .timerProc 0x1000 false, .timerProc 0x1000 false]

theorem reentered_not_served :
    machine.Admits reentered {} ∧
      ¬ machine.Each (fun e s => (machine.step e s).Served) reentered {} := by
  constructor
  · exact ⟨⟨rfl, rfl, rfl⟩, ⟨rfl, trivial⟩, ⟨rfl, trivial⟩, trivial⟩
  · intro heach
    have hinOrder := heach.right.right.left.inOrder
    revert hinOrder
    decide

def oneTurn : List (Event Nat Nat) :=
  [.push 1 5, .timerProc 0x1000 false, .finish, .setEvent, .pop, .wake 1]

theorem oneTurn_served :
    machine.Each (fun e s => (machine.step e s).Served) oneTurn {} := by
  refine (served_iff_undisturbed ?_).mpr ?_
  · exact ⟨⟨rfl, rfl, rfl⟩, ⟨rfl, trivial⟩, ⟨rfl, trivial, by decide⟩,
      ⟨rfl, _, _, rfl⟩, ⟨rfl, _, _, rfl⟩,
      ⟨rfl, _, rfl, List.mem_cons_self⟩, trivial⟩
  · refine ⟨trivial, fun _ _ => Or.inr rfl, ?_, trivial, trivial, trivial,
      trivial⟩
    intro FunPtr stack hstack
    cases hstack
    exact List.mem_cons_self

end CGameVariable
end Game
end BnsKorea
