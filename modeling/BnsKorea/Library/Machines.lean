import Mathlib.Logic.Relation

/-!
# Loops, machines and their runs

A machine is a step function on states whose labels may be guarded.  A run is
the reflexive transitive closure of the guarded steps, restricted to the steps
that meet a side condition in the state before them.  The rules below turn a
fact about one step into a fact about every run, and a fact about one turn of a
loop into a fact about the loop.
-/

namespace BnsKorea
namespace Library

universe u v

/-!
## Loops over a list
-/

theorem foldl_invariant {α : Type u} {β : Type v} (I : β -> Prop)
    (f : β -> α -> β) (hstep : forall b a, I b -> I (f b a)) (xs : List α) {b : β}
    (hb : I b) : I (xs.foldl f b) := by
  induction xs generalizing b with
  | nil => exact hb
  | cons x xs ih => exact ih (hstep b x hb)

theorem foldl_done {α : Type u} {β : Type v} (I : β -> Prop)
    (done : α -> β -> Prop) (f : β -> α -> β)
    (hstep : forall b a, I b -> I (f b a))
    (hdone : forall b a, I b -> done a (f b a))
    (hkeeps : forall b a a', I b -> done a b -> done a (f b a'))
    {xs : List α} {b : β} (hb : I b) {a : α} (ha : a ∈ xs) :
    done a (xs.foldl f b) := by
  have hstays : forall (ys : List α) (b : β), I b -> done a b ->
      done a (ys.foldl f b) := by
    intro ys
    induction ys with
    | nil => exact fun _ _ hdone => hdone
    | cons y ys ih =>
        exact fun b hb hdone => ih (f b y) (hstep b y hb) (hkeeps b a y hb hdone)
  induction xs generalizing b with
  | nil => cases ha
  | cons x xs ih =>
      rcases List.mem_cons.mp ha with hax | ha
      · rw [hax] at hstays ⊢
        exact hstays xs (f b x) (hstep b x hb) (hdone b x hb)
      · exact ih (hstep b x hb) ha

/-!
## Machines
-/

/-- A deterministic machine: which labels a state allows and what they do. -/
structure Machine (state : Type u) (label : Type v) where
  enabled : label -> state -> Prop
  step : label -> state -> state

namespace Machine

variable {state : Type u} {label : Type v} {M : Machine state label}
  {P Q : label -> state -> Prop}

/-- One enabled step whose label meets `P` in the state before it. -/
def Next (M : Machine state label) (P : label -> state -> Prop)
    (s t : state) : Prop :=
  exists l, M.enabled l s ∧ P l s ∧ t = M.step l s

/-- A run all of whose steps meet `P`. -/
def Run (M : Machine state label) (P : label -> state -> Prop) :
    state -> state -> Prop :=
  Relation.ReflTransGen (M.Next P)

def Reaches (M : Machine state label) : state -> state -> Prop :=
  M.Run fun _ _ => True

theorem Run.refl (s : state) : M.Run P s s :=
  Relation.ReflTransGen.refl

theorem Run.snoc {s t : state} {l : label} (hrun : M.Run P s t)
    (henabled : M.enabled l t) (hP : P l t) :
    M.Run P s (M.step l t) :=
  Relation.ReflTransGen.tail hrun ⟨l, henabled, hP, rfl⟩

theorem Reaches.snoc {s t : state} {l : label} (hrun : M.Reaches s t)
    (henabled : M.enabled l t) : M.Reaches s (M.step l t) :=
  Run.snoc hrun henabled trivial

theorem Run.trans {s t w : state} (hst : M.Run P s t) (htw : M.Run P t w) :
    M.Run P s w :=
  Relation.ReflTransGen.trans hst htw

theorem Run.mono {s t : state} (hPQ : forall l s, P l s -> Q l s)
    (hrun : M.Run P s t) : M.Run Q s t := by
  induction hrun with
  | refl => exact Run.refl s
  | tail _ hnext ih =>
      rcases hnext with ⟨l, henabled, hP, ht⟩
      rw [ht]
      exact ih.snoc henabled (hPQ l _ hP)

theorem Run.reaches {s t : state} (hrun : M.Run P s t) : M.Reaches s t :=
  hrun.mono fun _ _ _ => trivial

theorem Run.invariant (I : state -> Prop)
    (hstep : forall l s, M.enabled l s -> P l s -> I s -> I (M.step l s))
    {s t : state} (hrun : M.Run P s t) (hs : I s) : I t := by
  induction hrun with
  | refl => exact hs
  | tail _ hnext ih =>
      rcases hnext with ⟨l, henabled, hP, ht⟩
      rw [ht]
      exact hstep l _ henabled hP ih

/-!
## Playing a list of labels
-/

def play (M : Machine state label) (labels : List label) (s : state) : state :=
  labels.foldl (fun s l => M.step l s) s

/-- Every label of the list is allowed when its turn comes. -/
def Admits (M : Machine state label) : List label -> state -> Prop
  | [], _ => True
  | l :: labels, s => M.enabled l s ∧ M.Admits labels (M.step l s)

instance Admits.decidable [forall l s, Decidable (M.enabled l s)] :
    forall labels s, Decidable (M.Admits labels s)
  | [], _ => isTrue trivial
  | l :: labels, s =>
      have := Admits.decidable labels (M.step l s)
      inferInstanceAs (Decidable (M.enabled l s ∧ M.Admits labels (M.step l s)))

theorem Admits.reaches {labels : List label} {s : state}
    (h : M.Admits labels s) : M.Reaches s (M.play labels s) := by
  induction labels generalizing s with
  | nil => exact Run.refl s
  | cons l labels ih =>
      have hfirst : M.Reaches s (M.step l s) := (Run.refl s).snoc h.left trivial
      exact hfirst.trans (ih h.right)

/-!
## What holds all along
-/

theorem play_take_succ {labels : List label} {n : Nat} {l : label}
    (h : labels[n]? = some l) (s : state) :
    M.play (labels.take (n + 1)) s = M.step l (M.play (labels.take n) s) := by
  rw [play, List.take_add_one, h, List.foldl_append]
  rfl

theorem play_invariant (I : state -> Prop)
    (hstep : forall l s, I s -> I (M.step l s)) (labels : List label) {s : state}
    (hs : I s) : I (M.play labels s) :=
  foldl_invariant I (fun s l => M.step l s) (fun s l hs => hstep l s hs) labels hs

/--
Where a step keeps `G` exactly if its label meets `P`, `G` holds after every
beginning of a list of labels exactly if all the labels meet `P` in turn.
-/
theorem play_always_iff (I G : state -> Prop) (P : label -> state -> Prop)
    (hstep : forall l s, I s -> I (M.step l s))
    (hexact : forall l s, I s -> G s -> (G (M.step l s) ↔ P l s))
    (labels : List label) {s : state} (hs : I s) (hG : G s) :
    (forall n, G (M.play (labels.take n) s)) ↔
      forall n l, labels[n]? = some l -> P l (M.play (labels.take n) s) := by
  constructor
  · intro hall n l hl
    have hnext := hall (n + 1)
    rw [play_take_succ hl] at hnext
    exact (hexact l _ (play_invariant I hstep _ hs) (hall n)).mp hnext
  · intro hall n
    induction n with
    | zero => exact hG
    | succ n ih =>
        cases hl : labels[n]? with
        | none =>
            rw [List.take_add_one, hl, Option.toList_none, List.append_nil]
            exact ih
        | some l =>
            rw [play_take_succ hl]
            exact (hexact l _ (play_invariant I hstep _ hs) ih).mpr (hall n l hl)

/--
Where a step is good exactly if its label meets `P`, and good steps keep what
that needs, every step of a list of labels is good exactly if every label meets
`P` in its turn.
-/
theorem play_each_iff (I : state -> Prop) (G P : label -> state -> Prop)
    (hkeeps : forall l s, I s -> G l s -> I (M.step l s))
    (hexact : forall l s, I s -> (G l s ↔ P l s))
    (labels : List label) {s : state} (hs : I s) :
    (forall n l, labels[n]? = some l -> G l (M.play (labels.take n) s)) ↔
      forall n l, labels[n]? = some l -> P l (M.play (labels.take n) s) := by
  have hreached : forall Q : label -> state -> Prop,
      (forall l s, I s -> Q l s -> I (M.step l s)) ->
      (forall n l, labels[n]? = some l -> Q l (M.play (labels.take n) s)) ->
      forall n, I (M.play (labels.take n) s) := by
    intro Q hQ hall n
    induction n with
    | zero => exact hs
    | succ n ih =>
        cases hl : labels[n]? with
        | none =>
            rw [List.take_add_one, hl, Option.toList_none, List.append_nil]
            exact ih
        | some l =>
            rw [play_take_succ hl]
            exact hQ l _ ih (hall n l hl)
  constructor
  · intro hall n l hl
    have hI := hreached G hkeeps hall n
    exact (hexact l _ hI).mp (hall n l hl)
  · intro hall n l hl
    have hP : forall l s, I s -> P l s -> I (M.step l s) :=
      fun l s hI hl => hkeeps l s hI ((hexact l s hI).mpr hl)
    have hI := hreached P hP hall n
    exact (hexact l _ hI).mpr (hall n l hl)

theorem Admits.at {labels : List label} {s : state} (h : M.Admits labels s)
    (I : state -> Prop)
    (hstep : forall l s, M.enabled l s -> I s -> I (M.step l s)) (hs : I s)
    {n : Nat} {l : label} (hl : labels[n]? = some l) :
    M.enabled l (M.play (labels.take n) s) ∧ I (M.play (labels.take n) s) := by
  induction labels generalizing s n with
  | nil => cases hl
  | cons first labels ih =>
      cases n with
      | zero =>
          cases hl
          exact ⟨h.left, hs⟩
      | succ n => exact ih h.right (hstep first s h.left hs) hl

/--
What two conditions on a step agree on wherever the invariant holds, they agree
on along every admitted list of labels.
-/
theorem Admits.each_iff {labels : List label} {s : state}
    (h : M.Admits labels s) (I : state -> Prop) (G P : label -> state -> Prop)
    (hstep : forall l s, M.enabled l s -> I s -> I (M.step l s))
    (hexact : forall l s, M.enabled l s -> I s -> (G l s ↔ P l s)) (hs : I s) :
    (forall n l, labels[n]? = some l -> G l (M.play (labels.take n) s)) ↔
      forall n l, labels[n]? = some l -> P l (M.play (labels.take n) s) := by
  constructor
  · intro hall n l hl
    rcases h.at I hstep hs hl with ⟨henabled, hI⟩
    exact (hexact l _ henabled hI).mp (hall n l hl)
  · intro hall n l hl
    rcases h.at I hstep hs hl with ⟨henabled, hI⟩
    exact (hexact l _ henabled hI).mpr (hall n l hl)

/-!
## What holds at every step
-/

theorem play_append (xs ys : List label) (s : state) :
    M.play (xs ++ ys) s = M.play ys (M.play xs s) :=
  List.foldl_append

/-- Every label of the list meets `P` when its turn comes. -/
def Each (M : Machine state label) (P : label -> state -> Prop) :
    List label -> state -> Prop
  | [], _ => True
  | l :: labels, s => P l s ∧ M.Each P labels (M.step l s)

instance Each.decidable [forall l s, Decidable (P l s)] :
    forall labels s, Decidable (M.Each P labels s)
  | [], _ => isTrue trivial
  | l :: labels, s =>
      have := Each.decidable labels (M.step l s)
      inferInstanceAs (Decidable (P l s ∧ M.Each P labels (M.step l s)))

theorem Admits.run {labels : List label} {s : state} (h : M.Admits labels s)
    (hP : M.Each P labels s) : M.Run P s (M.play labels s) := by
  induction labels generalizing s with
  | nil => exact Run.refl s
  | cons l labels ih =>
      have hfirst : M.Run P s (M.step l s) := (Run.refl s).snoc h.left hP.left
      exact hfirst.trans (ih h.right hP.right)

theorem admits_iff_each {labels : List label} {s : state} :
    M.Admits labels s ↔ M.Each M.enabled labels s := by
  induction labels generalizing s with
  | nil => exact Iff.rfl
  | cons l labels ih => exact and_congr_right fun _ => ih

theorem each_append {xs ys : List label} {s : state} :
    M.Each P (xs ++ ys) s ↔ M.Each P xs s ∧ M.Each P ys (M.play xs s) := by
  induction xs generalizing s with
  | nil =>
      show M.Each P ys s ↔ True ∧ M.Each P ys s
      rw [true_and]
  | cons x xs ih =>
      show P x s ∧ M.Each P (xs ++ ys) (M.step x s) ↔
        (P x s ∧ M.Each P xs (M.step x s)) ∧ M.Each P ys (M.play xs (M.step x s))
      rw [ih, and_assoc]

theorem admits_append {xs ys : List label} {s : state} :
    M.Admits (xs ++ ys) s ↔ M.Admits xs s ∧ M.Admits ys (M.play xs s) := by
  rw [admits_iff_each, admits_iff_each, admits_iff_each, each_append]

/-- Where not every label meets `P`, one does not when its turn comes. -/
theorem exists_of_not_each {labels : List label} {s : state}
    (h : ¬ M.Each P labels s) :
    exists earlier l later, labels = earlier ++ l :: later ∧
      ¬ P l (M.play earlier s) := by
  induction labels generalizing s with
  | nil => exact absurd trivial h
  | cons l labels ih =>
      by_cases hl : P l s
      · rcases ih fun hrest => h ⟨hl, hrest⟩ with
          ⟨earlier, l', later, hlabels, hnot⟩
        exact ⟨l :: earlier, l', later, by rw [hlabels]; rfl, hnot⟩
      · exact ⟨[], l, labels, rfl, hl⟩

/--
Where the labels of an admitted list meet `P`, and such steps keep an invariant
that gives `Q`, every label of the list meets `Q`.
-/
theorem Admits.each {labels : List label} {s : state} (h : M.Admits labels s)
    (hP : M.Each P labels s) (I : state -> Prop)
    (hstep : forall l s, M.enabled l s -> P l s -> I s -> I (M.step l s))
    (hQ : forall l s, M.enabled l s -> P l s -> I s -> Q l s) (hs : I s) :
    M.Each Q labels s := by
  induction labels generalizing s with
  | nil => exact trivial
  | cons l labels ih =>
      constructor
      · exact hQ l s h.left hP.left hs
      · exact ih h.right hP.right (hstep l s h.left hP.left hs)

/--
Where two conditions agree on every step that the invariant allows, and steps
that meet them keep the invariant, they agree on an admitted list of labels.
-/
theorem Admits.each_iff_each {labels : List label} {s : state}
    (h : M.Admits labels s) (I : state -> Prop)
    (hstep : forall l s, M.enabled l s -> P l s -> I s -> I (M.step l s))
    (hexact : forall l s, M.enabled l s -> I s -> (P l s ↔ Q l s)) (hs : I s) :
    M.Each P labels s ↔ M.Each Q labels s := by
  induction labels generalizing s with
  | nil => exact Iff.rfl
  | cons l labels ih =>
      have hl := hexact l s h.left hs
      constructor
      · intro hP
        have hnext := hstep l s h.left hP.left hs
        exact ⟨hl.mp hP.left, (ih h.right hnext).mp hP.right⟩
      · intro hQ
        have hPl := hl.mpr hQ.left
        have hnext := hstep l s h.left hPl hs
        exact ⟨hPl, (ih h.right hnext).mpr hQ.right⟩

/-- What admitted steps that meet `P` keep is there at the end of the list. -/
theorem Admits.invariant {labels : List label} {s : state}
    (h : M.Admits labels s) (hP : M.Each P labels s) (I : state -> Prop)
    (hstep : forall l s, M.enabled l s -> P l s -> I s -> I (M.step l s))
    (hs : I s) : I (M.play labels s) := by
  induction labels generalizing s with
  | nil => exact hs
  | cons l labels ih =>
      exact ih h.right hP.right (hstep l s h.left hP.left hs)

end Machine

/-!
## Clocked machines

The calls of a component are stamped by one clock that never runs backwards.
-/

/-- A state together with the stamp of the last call. -/
structure Clocked (state : Type u) where
  now : UInt64
  state : state

def Machine.clocked {state : Type u} {call : Type v}
    (apply : UInt64 -> call -> state -> state) :
    Machine (Clocked state) (UInt64 × call) where
  enabled l s := s.now ≤ l.1
  step l s := { now := l.1, state := apply l.1 l.2 s.state }

section

variable {state : Type u} {call : Type v}
  {apply : UInt64 -> call -> state -> state}

instance Machine.clocked_decidable (l : UInt64 × call) (s : Clocked state) :
    Decidable ((Machine.clocked apply).enabled l s) :=
  inferInstanceAs (Decidable (s.now ≤ l.1))

@[simp] theorem Machine.clocked_enabled (l : UInt64 × call) (s : Clocked state) :
    (Machine.clocked apply).enabled l s ↔ s.now ≤ l.1 :=
  Iff.rfl

theorem Machine.clocked_calls {c : Clocked state} {n ulNow : UInt64} {s : state}
    (h : (Machine.clocked apply).Reaches c { now := n, state := s })
    (hlater : n ≤ ulNow) (calls : List call) :
    exists n', n' ≤ ulNow ∧ (Machine.clocked apply).Reaches c
      { now := n'
        state := calls.foldl (fun s call => apply ulNow call s) s } := by
  induction calls generalizing n s with
  | nil => exact ⟨n, hlater, h⟩
  | cons call calls ih =>
      have hfirst := h.snoc (l := (ulNow, call)) hlater
      exact ih hfirst (UInt64.le_refl ulNow)

end

end Library
end BnsKorea
