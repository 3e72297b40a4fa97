import Mathlib.Algebra.BigOperators.Group.Finset.Piecewise
import BnsKorea.Library.Machines

/-!
# Threads that hand work to each other through queues

Every queue has an event that resets itself.  Who has appended to a queue sets
its event afterwards; a thread waits for the event of its queue only if it found
the queue empty when it last looked.  Appending and setting are two steps, as
waking up and looking are, and other threads may act in between.
-/

namespace BnsKorea
namespace Library
namespace EventQueues

universe u v w

/-- Who serves which queue, and what becomes of the work taken from a queue. -/
structure Network (ι : Type u) (θ : Type v) where
  serves : θ -> ι
  /-- Work from the queue may be finished there. -/
  ends : ι -> Prop
  /-- Work from the one queue may be handed to the other. -/
  hands : ι -> ι -> Prop
  /-- How far work from a queue can still go. -/
  rank : ι -> Nat
  rank_lt : forall i j, hands i j -> rank j < rank i
  ends_or_hands : forall i, ends i ∨ exists j, hands i j

/-- Where a thread stands. -/
inductive Phase (ι : Type u) (α : Type w) where
  /-- It found its queue empty and waits for the event. -/
  | waiting
  /-- It is about to look into its queue. -/
  | looking
  | working (a : α)
  /-- It has appended to a queue and is about to set the event. -/
  | notifying (i : ι)

structure State (ι : Type u) (θ : Type v) (α : Type w) where
  queue : ι -> List α := fun _ => []
  event : ι -> Bool := fun _ => false
  /-- How many outside have appended and not set the event yet. -/
  pending : ι -> Nat := fun _ => 0
  phase : θ -> Phase ι α := fun _ => .waiting
  /-- What was ever put into a queue, by anybody. -/
  pushed : ι -> List α := fun _ => []
  /-- What was put into a queue from outside. -/
  offered : ι -> List α := fun _ => []
  /-- What was taken from a queue. -/
  taken : ι -> List α := fun _ => []
  finished : ι -> List α := fun _ => []
  handed : ι -> ι -> List α := fun _ _ => []

inductive Label (ι : Type u) (θ : Type v) (α : Type w) where
  /-- Somebody outside appends. -/
  | offer (i : ι) (a : α)
  /-- Somebody outside sets the event. -/
  | notify (i : ι)
  /-- The wait for the event succeeds. -/
  | wake (t : θ)
  /-- The thread takes the first of its queue, if there is one. -/
  | take (t : θ)
  | finish (t : θ)
  | hand (t : θ) (j : ι)
  /-- The thread sets the event of the queue that it appended to. -/
  | signal (t : θ)

namespace Label

/-- The steps that need nobody outside to bring new work. -/
def IsInner {ι : Type u} {θ : Type v} {α : Type w} : Label ι θ α -> Prop
  | offer _ _ => False
  | _ => True

end Label

section

variable {ι : Type u} {θ : Type v} {α : Type w} [DecidableEq ι] [DecidableEq θ]

def addAt (lists : ι -> List α) (i : ι) (a : α) : ι -> List α :=
  Function.update lists i (lists i ++ [a])

namespace Network

variable (N : Network ι θ)

def enabled : Label ι θ α -> State ι θ α -> Prop
  | .offer _ _, _ => True
  | .notify i, s => 0 < s.pending i
  | .wake t, s => s.phase t = .waiting ∧ s.event (N.serves t) = true
  | .take t, s => s.phase t = .looking
  | .finish t, s => (exists a, s.phase t = .working a) ∧ N.ends (N.serves t)
  | .hand t j, s => (exists a, s.phase t = .working a) ∧ N.hands (N.serves t) j
  | .signal t, s => exists i, s.phase t = .notifying i

def step : Label ι θ α -> State ι θ α -> State ι θ α
  | .offer i a, s =>
      { s with
        queue := addAt s.queue i a
        pushed := addAt s.pushed i a
        offered := addAt s.offered i a
        pending := Function.update s.pending i (s.pending i + 1) }
  | .notify i, s =>
      { s with
        event := Function.update s.event i true
        pending := Function.update s.pending i (s.pending i - 1) }
  | .wake t, s =>
      { s with
        event := Function.update s.event (N.serves t) false
        phase := Function.update s.phase t .looking }
  | .take t, s =>
      match s.queue (N.serves t) with
      | [] => { s with phase := Function.update s.phase t .waiting }
      | a :: as =>
          { s with
            queue := Function.update s.queue (N.serves t) as
            taken := addAt s.taken (N.serves t) a
            phase := Function.update s.phase t (.working a) }
  | .finish t, s =>
      match s.phase t with
      | .working a =>
          { s with
            finished := addAt s.finished (N.serves t) a
            phase := Function.update s.phase t .looking }
      | _ => s
  | .hand t j, s =>
      match s.phase t with
      | .working a =>
          { s with
            queue := addAt s.queue j a
            pushed := addAt s.pushed j a
            handed := Function.update s.handed (N.serves t)
              (addAt (s.handed (N.serves t)) j a)
            phase := Function.update s.phase t (.notifying j) }
      | _ => s
  | .signal t, s =>
      match s.phase t with
      | .notifying i =>
          { s with
            event := Function.update s.event i true
            phase := Function.update s.phase t .looking }
      | _ => s

def machine : Machine (State ι θ α) (Label ι θ α) where
  enabled := N.enabled
  step := N.step

/-- The states that runs from idle threads and empty queues lead to. -/
def Reachable (s : State ι θ α) : Prop :=
  N.machine.Reaches {} s

/-!
## Nothing is taken twice or out of turn
-/

/-- What was taken and what is left is what was put in, in order. -/
def Ordered (s : State ι θ α) : Prop :=
  forall i, s.taken i ++ s.queue i = s.pushed i

theorem step_ordered (l : Label ι θ α) {s : State ι θ α} (h : Ordered s) :
    Ordered (N.step l s) := by
  have hadd : forall (i : ι) (a : α) (j : ι),
      s.taken j ++ addAt s.queue i a j = addAt s.pushed i a j := by
    intro i a j
    by_cases hij : j = i
    · rw [hij, addAt, addAt, Function.update_self, Function.update_self, ← h i,
        List.append_assoc]
    · rw [addAt, addAt, Function.update_of_ne hij, Function.update_of_ne hij, h j]
  intro j
  cases l with
  | offer i a => exact hadd i a j
  | notify i => exact h j
  | wake t => exact h j
  | take t =>
      cases hqueue : s.queue (N.serves t) with
      | nil =>
          simp only [step, hqueue]
          exact h j
      | cons a as =>
          simp only [step, hqueue]
          by_cases hj : j = N.serves t
          · have hold := h j
            rw [hj, hqueue] at hold
            rw [hj, addAt, Function.update_self, Function.update_self,
              List.append_assoc]
            exact hold
          · rw [addAt, Function.update_of_ne hj, Function.update_of_ne hj]
            exact h j
  | finish t =>
      cases hphase : s.phase t with
      | working a => simpa only [step, hphase] using h j
      | _ => simpa only [step, hphase] using h j
  | hand t i =>
      cases hphase : s.phase t with
      | working a => simpa only [step, hphase] using hadd i a j
      | _ => simpa only [step, hphase] using h j
  | signal t =>
      cases hphase : s.phase t with
      | notifying i => simpa only [step, hphase] using h j
      | _ => simpa only [step, hphase] using h j

/-!
## No wakeup is lost
-/

/-- Somebody will look into the queue without being told again. -/
def Attended (s : State ι θ α) (i : ι) : Prop :=
  s.event i = true ∨ 0 < s.pending i ∨ (exists t, s.phase t = .notifying i) ∨
    exists t, N.serves t = i ∧ s.phase t ≠ .waiting

def Awake (s : State ι θ α) : Prop :=
  forall i, s.queue i ≠ [] -> N.Attended s i

omit [DecidableEq ι] [DecidableEq θ] in
theorem Attended.others {N : Network ι θ} {s s' : State ι θ α} {t : θ} {j : ι}
    (h : N.Attended s j) (hevent : s.event j = true -> s'.event j = true)
    (hpending : s'.pending j = s.pending j)
    (hphase : forall u, u ≠ t -> s'.phase u = s.phase u)
    (hnotifying : s.phase t ≠ .notifying j)
    (hserves : N.serves t = j -> s.phase t = .waiting) : N.Attended s' j := by
  rcases h with hset | hpend | ⟨u, hu⟩ | ⟨u, hu, hactive⟩
  · exact Or.inl (hevent hset)
  · exact Or.inr (Or.inl (by rw [hpending]; exact hpend))
  · have hut : u ≠ t := by
      intro hut
      rw [hut] at hu
      exact hnotifying hu
    exact Or.inr (Or.inr (Or.inl ⟨u, by rw [hphase u hut]; exact hu⟩))
  · have hut : u ≠ t := by
      intro hut
      rw [hut] at hu hactive
      exact hactive (hserves hu)
    exact Or.inr (Or.inr (Or.inr ⟨u, hu, by rw [hphase u hut]; exact hactive⟩))

omit [DecidableEq ι] [DecidableEq θ] in
theorem attended_of_active {s : State ι θ α} {t : θ} {j : ι} (hserves : N.serves t = j)
    (hactive : s.phase t ≠ .waiting) : N.Attended s j :=
  Or.inr (Or.inr (Or.inr ⟨t, hserves, hactive⟩))

theorem addAt_ne_nil {lists : ι -> List α} {i j : ι} {a : α} (hij : j ≠ i)
    (h : addAt lists i a j ≠ []) : lists j ≠ [] := by
  rwa [addAt, Function.update_of_ne hij] at h

theorem step_awake {l : Label ι θ α} {s : State ι θ α} (henabled : N.enabled l s)
    (h : N.Awake s) : N.Awake (N.step l s) := by
  intro j hj
  cases l with
  | offer i a =>
      by_cases hji : j = i
      · refine Or.inr (Or.inl ?_)
        simp [step, hji]
      · rcases h j (addAt_ne_nil hji hj) with hset | hpend | hthreads
        · exact Or.inl hset
        · refine Or.inr (Or.inl ?_)
          simpa [step, Function.update_of_ne hji] using hpend
        · exact Or.inr (Or.inr hthreads)
  | notify i =>
      by_cases hji : j = i
      · exact Or.inl (by simp [step, hji])
      · rcases h j hj with hset | hpend | hthreads
        · exact Or.inl (by simpa [step, Function.update_of_ne hji] using hset)
        · refine Or.inr (Or.inl ?_)
          simpa [step, Function.update_of_ne hji] using hpend
        · exact Or.inr (Or.inr hthreads)
  | wake t =>
      by_cases hserves : N.serves t = j
      · exact N.attended_of_active hserves (by simp [step])
      · refine (h j hj).others (t := t) ?_ rfl ?_ ?_ fun hsame => absurd hsame hserves
        · intro hset
          simpa [step, Function.update_of_ne (Ne.symm hserves)] using hset
        · intro u hut
          simp [step, Function.update_of_ne hut]
        · simp [henabled.1]
  | take t =>
      have hlooking : s.phase t = .looking := henabled
      cases hqueue : s.queue (N.serves t) with
      | nil =>
          have hstep : N.step (.take t) s =
              { s with phase := Function.update s.phase t .waiting } := by
            simp only [step, hqueue]
          rw [hstep] at hj ⊢
          have hserves : N.serves t ≠ j := by
            intro hsame
            rw [hsame] at hqueue
            exact hj hqueue
          refine (h j hj).others (t := t) id rfl ?_ (by simp [hlooking])
            fun hsame => absurd hsame hserves
          intro u hut
          simp [Function.update_of_ne hut]
      | cons a as =>
          have hphase : (N.step (.take t) s).phase =
              Function.update s.phase t (.working a) := by
            simp only [step, hqueue]
          by_cases hserves : N.serves t = j
          · exact N.attended_of_active hserves (by simp [hphase])
          · have hold : s.queue j ≠ [] := by
              simpa [step, hqueue, Function.update_of_ne (Ne.symm hserves)] using hj
            refine (h j hold).others (t := t) ?_ ?_ ?_ (by simp [hlooking])
              fun hsame => absurd hsame hserves
            · simp [step, hqueue]
            · simp [step, hqueue]
            · intro u hut
              rw [hphase, Function.update_of_ne hut]
  | finish t =>
      rcases henabled with ⟨⟨a, ha⟩, -⟩
      have hphase : (N.step (.finish t) s).phase =
          Function.update s.phase t .looking := by
        simp only [step, ha]
      by_cases hserves : N.serves t = j
      · exact N.attended_of_active hserves (by simp [hphase])
      · have hold : s.queue j ≠ [] := by simpa [step, ha] using hj
        refine (h j hold).others (t := t) ?_ ?_ ?_ (by simp [ha])
          fun hsame => absurd hsame hserves
        · simp [step, ha]
        · simp [step, ha]
        · intro u hut
          rw [hphase, Function.update_of_ne hut]
  | hand t i =>
      rcases henabled with ⟨⟨a, ha⟩, -⟩
      have hphase : (N.step (.hand t i) s).phase =
          Function.update s.phase t (.notifying i) := by
        simp only [step, ha]
      by_cases hserves : N.serves t = j
      · exact N.attended_of_active hserves (by simp [hphase])
      · by_cases hji : j = i
        · exact Or.inr (Or.inr (Or.inl ⟨t, by simp [hphase, hji]⟩))
        · have hold : s.queue j ≠ [] := by
            apply addAt_ne_nil (a := a) hji
            simpa [step, ha] using hj
          refine (h j hold).others (t := t) ?_ ?_ ?_ (by simp [ha])
            fun hsame => absurd hsame hserves
          · simp [step, ha]
          · simp [step, ha]
          · intro u hut
            rw [hphase, Function.update_of_ne hut]
  | signal t =>
      rcases henabled with ⟨i, hi⟩
      have hphase : (N.step (.signal t) s).phase =
          Function.update s.phase t .looking := by
        simp only [step, hi]
      by_cases hserves : N.serves t = j
      · exact N.attended_of_active hserves (by simp [hphase])
      · by_cases hji : j = i
        · exact Or.inl (by simp [step, hi, hji])
        · have hold : s.queue j ≠ [] := by simpa [step, hi] using hj
          refine (h j hold).others (t := t) ?_ ?_ ?_ ?_
            fun hsame => absurd hsame hserves
          · simp [step, hi, Function.update_of_ne hji]
          · simp [step, hi]
          · intro u hut
            rw [hphase, Function.update_of_ne hut]
          · rw [hi]
            intro hsame
            exact hji (Phase.notifying.inj hsame).symm

def AtRest (s : State ι θ α) : Prop :=
  forall l, l.IsInner -> ¬ N.enabled l s

omit [DecidableEq ι] [DecidableEq θ] in
theorem waiting_of_atRest {s : State ι θ α} (hrest : N.AtRest s) (u : θ) :
    s.phase u = .waiting := by
  cases hphase : s.phase u with
  | waiting => rfl
  | looking => exact absurd hphase (hrest (.take u) trivial)
  | working a =>
      rcases N.ends_or_hands (N.serves u) with hends | ⟨j, hhands⟩
      · exact absurd ⟨⟨a, hphase⟩, hends⟩ (hrest (.finish u) trivial)
      · exact absurd ⟨⟨a, hphase⟩, hhands⟩ (hrest (.hand u j) trivial)
  | notifying i => exact absurd ⟨i, hphase⟩ (hrest (.signal u) trivial)

omit [DecidableEq ι] [DecidableEq θ] in
theorem queue_eq_nil_of_atRest {s : State ι θ α} (h : N.Awake s) (hrest : N.AtRest s)
    (t : θ) : s.queue (N.serves t) = [] := by
  by_contra hqueue
  have hwaiting := N.waiting_of_atRest hrest
  rcases h _ hqueue with hset | hpend | ⟨u, hu⟩ | ⟨u, -, hactive⟩
  · exact hrest (.wake t) trivial ⟨hwaiting t, hset⟩
  · exact hrest (.notify (N.serves t)) trivial hpend
  · rw [hwaiting u] at hu
    cases hu
  · exact hactive (hwaiting u)

/-!
## Where every piece of work went
-/

variable [Fintype θ] [DecidableEq α]

/-- One if the thread works on the piece, and got it from the queue. -/
def holding (i : ι) (a : α) (t : θ) (p : Phase ι α) : Nat :=
  match p with
  | .working b => if N.serves t = i ∧ b = a then 1 else 0
  | _ => 0

section

omit [DecidableEq θ] [Fintype θ]

@[simp] theorem holding_waiting (i : ι) (a : α) (t : θ) :
    N.holding i a t .waiting = 0 := rfl

@[simp] theorem holding_looking (i : ι) (a : α) (t : θ) :
    N.holding i a t .looking = 0 := rfl

@[simp] theorem holding_notifying (i : ι) (a : α) (t : θ) (j : ι) :
    N.holding i a t (.notifying j) = 0 := rfl

@[simp] theorem holding_working (i : ι) (a : α) (t : θ) (b : α) :
    N.holding i a t (.working b) = if i = N.serves t ∧ b = a then 1 else 0 := by
  simp only [holding, eq_comm]

end

/-- How many threads work on the piece, having taken it from the queue. -/
def holders (s : State ι θ α) (i : ι) (a : α) : Nat :=
  ∑ t, N.holding i a t (s.phase t)

omit [DecidableEq ι] [DecidableEq θ] [Fintype θ] [DecidableEq α] in
theorem sum_change {κ : Type _} [Fintype κ] [DecidableEq κ] {f g : κ -> Nat} {k : κ}
    (h : forall l, l ≠ k -> g l = f l) : (∑ l, g l) + f k = (∑ l, f l) + g k := by
  have hrest : (∑ l ∈ Finset.univ.erase k, g l) = ∑ l ∈ Finset.univ.erase k, f l :=
    Finset.sum_congr rfl fun l hl => h l (Finset.ne_of_mem_erase hl)
  rw [← Finset.add_sum_erase Finset.univ g (Finset.mem_univ k),
    ← Finset.add_sum_erase Finset.univ f (Finset.mem_univ k), hrest]
  omega

omit [DecidableEq ι] [DecidableEq α] in
theorem sum_update (f : θ -> Phase ι α -> Nat) (phase : θ -> Phase ι α) (t : θ)
    (p : Phase ι α) :
    (∑ u, f u (Function.update phase t p u)) + f t (phase t) =
      (∑ u, f u (phase u)) + f t p := by
  have hchange := sum_change (f := fun u => f u (phase u))
    (g := fun u => f u (Function.update phase t p u)) (k := t) fun u hut => by
      rw [Function.update_of_ne hut]
  simpa only [Function.update_self] using hchange

omit [DecidableEq ι] [DecidableEq θ] [Fintype θ] in
theorem count_addAt [DecidableEq ι] (lists : ι -> List α) (i : ι) (b : α) (j : ι)
    (a : α) : (addAt lists i b j).count a =
      (lists j).count a + if j = i ∧ b = a then 1 else 0 := by
  by_cases hji : j = i
  · by_cases hba : b = a
    · simp [addAt, hji, hba]
    · simp [addAt, hji, hba]
  · simp [addAt, hji]

omit [DecidableEq θ] [Fintype θ] in
theorem count_handed (handed : ι -> ι -> List α) (i j : ι) (b : α) (k l : ι) (a : α) :
    (Function.update handed i (addAt (handed i) j b) k l).count a =
      (handed k l).count a + if k = i ∧ l = j ∧ b = a then 1 else 0 := by
  by_cases hki : k = i
  · simp only [hki, Function.update_self, count_addAt, true_and]
  · simp [hki]

variable [Fintype ι]

/-- Every piece put into a queue came from outside or from another queue. -/
def Supplied (s : State ι θ α) : Prop :=
  forall j a, (s.pushed j).count a =
    (s.offered j).count a + ∑ i, (s.handed i j).count a

/-- Every piece taken is being worked on, was finished or was handed on. -/
def Accounted (s : State ι θ α) : Prop :=
  forall i a, (s.taken i).count a =
    N.holders s i a + (s.finished i).count a + ∑ j, (s.handed i j).count a

omit [Fintype θ] in
theorem step_supplied (l : Label ι θ α) {s : State ι θ α} (h : Supplied s) :
    Supplied (N.step l s) := by
  intro j a
  cases l with
  | offer i b =>
      simp only [step, count_addAt, h j a]
      omega
  | notify i => exact h j a
  | wake t => exact h j a
  | take t =>
      cases hqueue : s.queue (N.serves t) with
      | nil => simpa only [step, hqueue] using h j a
      | cons b bs => simpa only [step, hqueue] using h j a
  | finish t =>
      cases hphase : s.phase t with
      | working b => simpa only [step, hphase] using h j a
      | _ => simpa only [step, hphase] using h j a
  | hand t i =>
      cases hphase : s.phase t with
      | working b =>
          simp only [step, hphase, count_addAt, count_handed,
            Finset.sum_add_distrib, h j a]
          have hone : (∑ k, if k = N.serves t ∧ j = i ∧ b = a then 1 else 0) =
              if j = i ∧ b = a then 1 else 0 := by
            by_cases hji : j = i ∧ b = a
            · simp [hji]
            · simp [hji]
          omega
      | _ => simpa only [step, hphase] using h j a
  | signal t =>
      cases hphase : s.phase t with
      | notifying i => simpa only [step, hphase] using h j a
      | _ => simpa only [step, hphase] using h j a

theorem step_accounted {l : Label ι θ α} {s : State ι θ α} (henabled : N.enabled l s)
    (h : N.Accounted s) : N.Accounted (N.step l s) := by
  intro i a
  have hold := h i a
  have hsum := fun (t : θ) p => sum_update (N.holding i a) s.phase t p
  simp only [holders] at hold ⊢
  cases l with
  | offer j b => exact hold
  | notify j => exact hold
  | wake t =>
      have hchange := hsum t .looking
      rw [henabled.1, holding_waiting, holding_looking] at hchange
      simp only [step]
      omega
  | take t =>
      have hlooking : s.phase t = .looking := henabled
      cases hqueue : s.queue (N.serves t) with
      | nil =>
          have hchange := hsum t .waiting
          rw [hlooking, holding_waiting, holding_looking] at hchange
          simp only [step, hqueue]
          omega
      | cons b bs =>
          have hchange := hsum t (.working b)
          rw [hlooking, holding_working, holding_looking] at hchange
          simp only [step, hqueue, count_addAt]
          omega
  | finish t =>
      rcases henabled with ⟨⟨b, hb⟩, -⟩
      have hchange := hsum t .looking
      rw [hb, holding_working, holding_looking] at hchange
      simp only [step, hb, count_addAt]
      omega
  | hand t j =>
      rcases henabled with ⟨⟨b, hb⟩, -⟩
      have hchange := hsum t (.notifying j)
      rw [hb, holding_working, holding_notifying] at hchange
      have hone : (∑ l, if i = N.serves t ∧ l = j ∧ b = a then 1 else 0) =
          if i = N.serves t ∧ b = a then 1 else 0 := by
        by_cases hserves : i = N.serves t
        · by_cases hba : b = a
          · simp [hserves, hba]
          · simp [hba]
        · simp [hserves]
      simp only [step, hb, count_handed, Finset.sum_add_distrib]
      omega
  | signal t =>
      rcases henabled with ⟨j, hj⟩
      have hchange := hsum t .looking
      rw [hj, holding_notifying, holding_looking] at hchange
      simp only [step, hj]
      omega

/-!
## The work that is left
-/

/-- The steps that a piece of work in the queue can still cause. -/
def weight (i : ι) : Nat :=
  5 * (N.rank i + 1)

/-- The steps that a thread can still make before it waits. -/
def cost (t : θ) (p : Phase ι α) : Nat :=
  match p with
  | .waiting => 0
  | .looking => 1
  | .working _ => N.weight (N.serves t)
  | .notifying _ => 4

def queueCost (s : State ι θ α) (i : ι) : Nat :=
  N.weight i * (s.queue i).length + 2 * (s.event i).toNat + 3 * s.pending i

def workLeft (s : State ι θ α) : Nat :=
  (∑ i, N.queueCost s i) + ∑ t, N.cost t (s.phase t)

omit [DecidableEq ι] [DecidableEq θ] [Fintype θ] [DecidableEq α] [Fintype ι] in
theorem weight_lt {i j : ι} (h : N.hands i j) : N.weight j + 4 < N.weight i := by
  have hrank := N.rank_lt i j h
  simp only [weight]
  omega

omit [DecidableEq α] in
theorem step_workLeft {l : Label ι θ α} (hinner : l.IsInner) {s : State ι θ α}
    (henabled : N.enabled l s) : N.workLeft (N.step l s) < N.workLeft s := by
  have hthreads := fun (t : θ) p => sum_update N.cost s.phase t p
  have hqueues : forall {i : ι} {w : State ι θ α},
      (forall j, j ≠ i -> N.queueCost w j = N.queueCost s j) ->
      (∑ j, N.queueCost w j) + N.queueCost s i =
        (∑ j, N.queueCost s j) + N.queueCost w i :=
    fun h => sum_change h
  simp only [workLeft]
  cases l with
  | offer i a => exact absurd hinner id
  | notify i =>
      have hpend : 0 < s.pending i := henabled
      have hchange := hqueues (i := i) (w := N.step (.notify i) s) fun j hji => by
        simp [queueCost, step, Function.update_of_ne hji]
      have hcost : N.queueCost (N.step (.notify i) s) i < N.queueCost s i := by
        cases hset : s.event i <;>
          simp only [queueCost, step, Function.update_self, hset, Bool.toNat_true,
            Bool.toNat_false] <;> omega
      have hphase : (N.step (.notify i) s).phase = s.phase := rfl
      rw [hphase]
      omega
  | wake t =>
      have hchange := hqueues (i := N.serves t) (w := N.step (.wake t) s)
        fun j hji => by simp [queueCost, step, Function.update_of_ne hji]
      have hcost : N.queueCost (N.step (.wake t) s) (N.serves t) + 2 =
          N.queueCost s (N.serves t) := by
        simp only [queueCost, step, Function.update_self, henabled.2, Bool.toNat_true,
          Bool.toNat_false]
        omega
      have hthread := hthreads t .looking
      rw [henabled.1] at hthread
      have hphase : (N.step (.wake t) s).phase =
          Function.update s.phase t .looking := rfl
      simp only [hphase, cost] at hthread ⊢
      omega
  | take t =>
      have hlooking : s.phase t = .looking := henabled
      cases hqueue : s.queue (N.serves t) with
      | nil =>
          have hstep : N.step (.take t) s =
              { s with phase := Function.update s.phase t .waiting } := by
            simp only [step, hqueue]
          have hthread := hthreads t .waiting
          rw [hlooking] at hthread
          simp only [hstep, cost, queueCost] at hthread ⊢
          omega
      | cons a as =>
          have hchange := hqueues (i := N.serves t) (w := N.step (.take t) s)
            fun j hji => by simp [queueCost, step, hqueue, Function.update_of_ne hji]
          have hcost : N.queueCost (N.step (.take t) s) (N.serves t) +
              N.weight (N.serves t) = N.queueCost s (N.serves t) := by
            simp only [queueCost, step, hqueue, Function.update_self, List.length_cons,
              Nat.mul_succ]
            omega
          have hthread := hthreads t (.working a)
          rw [hlooking] at hthread
          have hphase : (N.step (.take t) s).phase =
              Function.update s.phase t (.working a) := by
            simp only [step, hqueue]
          simp only [hphase, cost] at hthread ⊢
          omega
  | finish t =>
      rcases henabled with ⟨⟨a, ha⟩, -⟩
      have hthread := hthreads t .looking
      rw [ha] at hthread
      have hweight : 5 ≤ N.weight (N.serves t) := by
        simp only [weight]
        omega
      simp only [step, ha, cost, queueCost] at hthread ⊢
      omega
  | hand t i =>
      rcases henabled with ⟨⟨a, ha⟩, hhands⟩
      have hchange := hqueues (i := i) (w := N.step (.hand t i) s) fun j hji => by
        simp [queueCost, step, ha, addAt, Function.update_of_ne hji]
      have hcost : N.queueCost (N.step (.hand t i) s) i =
          N.queueCost s i + N.weight i := by
        simp only [queueCost, step, ha, addAt, Function.update_self, List.length_append,
          List.length_singleton, Nat.mul_succ]
        omega
      have hthread := hthreads t (.notifying i)
      rw [ha] at hthread
      have hphase : (N.step (.hand t i) s).phase =
          Function.update s.phase t (.notifying i) := by
        simp only [step, ha]
      have hweight := N.weight_lt hhands
      simp only [hphase, cost] at hthread ⊢
      omega
  | signal t =>
      rcases henabled with ⟨i, hi⟩
      have hchange := hqueues (i := i) (w := N.step (.signal t) s) fun j hji => by
        simp [queueCost, step, hi, Function.update_of_ne hji]
      have hcost : N.queueCost (N.step (.signal t) s) i ≤ N.queueCost s i + 2 := by
        cases hset : s.event i <;>
          simp only [queueCost, step, hi, Function.update_self, hset, Bool.toNat_true,
            Bool.toNat_false] <;> omega
      have hthread := hthreads t .looking
      rw [hi] at hthread
      have hphase : (N.step (.signal t) s).phase =
          Function.update s.phase t .looking := by
        simp only [step, hi]
      simp only [hphase, cost] at hthread ⊢
      omega

/-!
## Runs
-/

omit [DecidableEq α] in
theorem length_le_workLeft {labels : List (Label ι θ α)} {s : State ι θ α}
    (hinner : forall l, l ∈ labels -> l.IsInner) (hadmits : N.machine.Admits labels s) :
    labels.length ≤ N.workLeft s := by
  induction labels generalizing s with
  | nil => exact Nat.zero_le _
  | cons l labels ih =>
      rw [List.forall_mem_cons] at hinner
      have hrest := ih hinner.2 hadmits.2
      have hless := N.step_workLeft hinner.1 hadmits.1
      have hsame : N.workLeft (N.machine.step l s) = N.workLeft (N.step l s) := rfl
      rw [List.length_cons]
      omega

omit [Fintype θ] [DecidableEq α] [Fintype ι] in
theorem Reachable.ordered {s : State ι θ α} (h : N.Reachable s) : Ordered s :=
  Machine.Run.invariant Ordered (fun l _ _ _ hs => N.step_ordered l hs) h
    fun _ => rfl

omit [Fintype θ] [DecidableEq α] [Fintype ι] in
theorem Reachable.awake {s : State ι θ α} (h : N.Reachable s) : N.Awake s :=
  Machine.Run.invariant N.Awake (fun _ _ henabled _ hs => N.step_awake henabled hs) h
    fun _ hne => absurd rfl hne

/-- Work is finished, and handed on, only where the network says so. -/
def Routed (s : State ι θ α) : Prop :=
  (forall i, ¬ N.ends i -> s.finished i = []) ∧
    forall i j, ¬ N.hands i j -> s.handed i j = []

omit [Fintype θ] [DecidableEq α] [Fintype ι] in
theorem step_routed {l : Label ι θ α} {s : State ι θ α} (henabled : N.enabled l s)
    (h : N.Routed s) : N.Routed (N.step l s) := by
  cases l with
  | offer i a => exact h
  | notify i => exact h
  | wake t => exact h
  | take t =>
      cases hqueue : s.queue (N.serves t) with
      | nil =>
          simp only [step, hqueue]
          exact h
      | cons a as =>
          simp only [step, hqueue]
          exact h
  | finish t =>
      rcases henabled with ⟨⟨a, ha⟩, hends⟩
      have hfinished : forall i,
          ¬ N.ends i -> addAt s.finished (N.serves t) a i = [] := by
        intro i hi
        have hne : i ≠ N.serves t := by
          intro hsame
          rw [hsame] at hi
          exact hi hends
        rw [addAt, Function.update_of_ne hne]
        exact h.1 i hi
      simp only [step, ha]
      exact ⟨hfinished, h.2⟩
  | hand t k =>
      rcases henabled with ⟨⟨a, ha⟩, hhands⟩
      have hhanded : forall i j, ¬ N.hands i j ->
          Function.update s.handed (N.serves t)
            (addAt (s.handed (N.serves t)) k a) i j = [] := by
        intro i j hij
        by_cases hi : i = N.serves t
        · have hj : j ≠ k := by
            intro hsame
            rw [hi, hsame] at hij
            exact hij hhands
          rw [hi, Function.update_self, addAt, Function.update_of_ne hj, ← hi]
          exact h.2 i j hij
        · rw [Function.update_of_ne hi]
          exact h.2 i j hij
      simp only [step, ha]
      exact ⟨h.1, hhanded⟩
  | signal t =>
      rcases henabled with ⟨i, hi⟩
      simp only [step, hi]
      exact h

omit [Fintype θ] [DecidableEq α] [Fintype ι] in
theorem Reachable.routed {s : State ι θ α} (h : N.Reachable s) : N.Routed s :=
  Machine.Run.invariant N.Routed (fun _ _ henabled _ hs => N.step_routed henabled hs) h
    ⟨fun _ _ => rfl, fun _ _ _ => rfl⟩

omit [Fintype θ] in
theorem Reachable.supplied {s : State ι θ α} (h : N.Reachable s) : Supplied s :=
  Machine.Run.invariant Supplied (fun l _ _ _ hs => N.step_supplied l hs) h
    fun j a => by simp

theorem Reachable.accounted {s : State ι θ α} (h : N.Reachable s) : N.Accounted s :=
  Machine.Run.invariant N.Accounted
    (fun _ _ henabled _ hs => N.step_accounted henabled hs) h
    fun i a => by simp [holders]

/--
At rest every piece of work that was put into a served queue was taken from it
in order, and was finished or handed on as often as it was put in.
-/
theorem Reachable.settled {s : State ι θ α} (h : N.Reachable s) (hrest : N.AtRest s)
    (t : θ) :
    s.taken (N.serves t) = s.pushed (N.serves t) ∧ forall a,
      (s.offered (N.serves t)).count a + (∑ i, (s.handed i (N.serves t)).count a) =
        (s.finished (N.serves t)).count a + ∑ j, (s.handed (N.serves t) j).count a := by
  have hempty := N.queue_eq_nil_of_atRest (Reachable.awake N h) hrest t
  have horder := Reachable.ordered N h (N.serves t)
  rw [hempty, List.append_nil] at horder
  refine ⟨horder, fun a => ?_⟩
  have hidle : N.holders s (N.serves t) a = 0 := by
    rw [holders, Finset.sum_eq_zero_iff]
    intro u _
    rw [N.waiting_of_atRest hrest u, holding_waiting]
  have hin := Reachable.supplied N h (N.serves t) a
  have hout := Reachable.accounted N h (N.serves t) a
  rw [horder, hidle] at hout
  omega

end Network

end

end EventQueues
end Library
end BnsKorea
