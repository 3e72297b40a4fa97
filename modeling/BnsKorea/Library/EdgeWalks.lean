import Mathlib.Data.List.Chain
import Mathlib.Logic.Relation
import Mathlib.Order.Lattice

/-!
# Walks over edges

A graph as a collection of edges with two ends each, parallel edges and loops
among them.  A walk is a list of edges; a search goes through the edges at the
places it has come to, and a search that always goes on from the last of them
walks.
-/

namespace BnsKorea
namespace Library
namespace EdgeWalks

universe u v w

variable {V : Type u} {E : Type v} {ends : E -> V × V}

section

variable (ends)

def Touches (e : E) (p : V) : Prop :=
  (ends e).1 = p ∨ (ends e).2 = p

def Joined (p q : V) : Prop :=
  exists e, ends e = (p, q) ∨ ends e = (q, p)

def Reach (s p : V) : Prop :=
  Relation.ReflTransGen (Joined ends) s p

def across [DecidableEq V] (e : E) (p : V) : V :=
  if (ends e).1 = p then (ends e).2 else (ends e).1

/-- From the place to the target, each edge entered where the last was left. -/
def IsWalk [DecidableEq V] (t : V) : V -> List E -> Prop
  | p, [] => p = t
  | p, e :: es => Touches ends e p ∧ IsWalk t (across ends e p) es

def stops [DecidableEq V] : V -> List E -> List V
  | p, [] => [p]
  | p, e :: es => p :: stops (across ends e p) es

/-- An edge that is not done yet, at the start or at an end of one that is. -/
def Listed (s : V) (done : List E) (e : E) : Prop :=
  e ∉ done ∧ (Touches ends e s ∨
    exists d, d ∈ done ∧ exists p, Touches ends d p ∧ Touches ends e p)

end

variable {s t p q : V} {e : E} {es done : List E}

/-!
## Ways
-/

theorem Reach.touches (h : Reach ends s p) (hp : Touches ends e p)
    (hq : Touches ends e q) : Reach ends s q := by
  rcases hp with hp | hp
  · rcases hq with hq | hq
    · rwa [← hq, hp]
    · exact h.tail ⟨e, Or.inl (Prod.ext hp hq)⟩
  · rcases hq with hq | hq
    · exact h.tail ⟨e, Or.inr (Prod.ext hq hp)⟩
    · rwa [← hq, hp]

theorem Joined.touches (h : Joined ends p q) :
    exists e, Touches ends e p ∧ Touches ends e q := by
  rcases h with ⟨e, hends | hends⟩
  · exact ⟨e, Or.inl (congrArg Prod.fst hends), Or.inr (congrArg Prod.snd hends)⟩
  · exact ⟨e, Or.inr (congrArg Prod.snd hends), Or.inl (congrArg Prod.fst hends)⟩

theorem exists_touches {d : E} : (exists p, Touches ends e p ∧ Touches ends d p) ↔
    Touches ends d (ends e).1 ∨ Touches ends d (ends e).2 := by
  constructor
  · intro h
    rcases h with ⟨p, hep, hdp⟩
    rcases hep with hp | hp
    · rw [← hp] at hdp
      exact Or.inl hdp
    · rw [← hp] at hdp
      exact Or.inr hdp
  · intro h
    rcases h with h1 | h2
    · exact ⟨_, Or.inl rfl, h1⟩
    · exact ⟨_, Or.inr rfl, h2⟩

theorem listed_cons {d : E} : Listed ends s (d :: done) e ↔
    e ≠ d ∧ (Listed ends s done e ∨
      e ∉ done ∧ exists p, Touches ends d p ∧ Touches ends e p) := by
  constructor
  · intro h
    have hnew : e ∉ done := List.not_mem_of_not_mem_cons h.left
    refine ⟨List.ne_of_not_mem_cons h.left, ?_⟩
    rcases h.right with hs | ⟨c, hc, hat⟩
    · exact Or.inl ⟨hnew, Or.inl hs⟩
    · rcases List.mem_cons.mp hc with heq | hc
      · rw [heq] at hat
        exact Or.inr ⟨hnew, hat⟩
      · exact Or.inl ⟨hnew, Or.inr ⟨c, hc, hat⟩⟩
  · intro h
    rcases h with ⟨hne, hold | ⟨hnew, hat⟩⟩
    · refine ⟨List.not_mem_cons_of_ne_of_not_mem hne hold.left, ?_⟩
      rcases hold.right with hs | ⟨c, hc, hat⟩
      · exact Or.inl hs
      · exact Or.inr ⟨c, List.mem_cons_of_mem d hc, hat⟩
    · exact ⟨List.not_mem_cons_of_ne_of_not_mem hne hnew,
        Or.inr ⟨d, List.mem_cons_self, hat⟩⟩

/-- Every edge that was done is at a place there is a way to. -/
def Found (ends : E -> V × V) (s : V) (done : List E) : Prop :=
  forall e, e ∈ done -> forall p, Touches ends e p -> Reach ends s p

theorem Listed.reach (hfound : Found ends s done) (h : Listed ends s done e)
    (hp : Touches ends e p) : Reach ends s p := by
  rcases h.right with hs | ⟨d, hd, q, hdq, heq⟩
  · exact Reach.touches Relation.ReflTransGen.refl hs hp
  · exact (hfound d hd q hdq).touches heq hp

theorem Found.cons (hfound : Found ends s done) (h : Listed ends s done e) :
    Found ends s (e :: done) := by
  intro d hd p hp
  rcases List.mem_cons.mp hd with hde | hd
  · rw [hde] at hp
    exact h.reach hfound hp
  · exact hfound d hd p hp

theorem reach_of_exhausted (hnone : forall e, ¬ Listed ends s done e)
    (h : Reach ends s p) : p = s ∨ exists e, e ∈ done ∧ Touches ends e p := by
  induction h with
  | refl => exact Or.inl rfl
  | tail _ hjoined ih =>
      rename_i q r _
      rcases hjoined.touches with ⟨e, hq, hr⟩
      have hat : Touches ends e s ∨
          exists d, d ∈ done ∧ exists p, Touches ends d p ∧ Touches ends e p := by
        rcases ih with hs | ⟨d, hd, hdq⟩
        · exact Or.inl (hs ▸ hq)
        · exact Or.inr ⟨d, hd, q, hdq, hq⟩
      by_cases hdone : e ∈ done
      · exact Or.inr ⟨e, hdone, hr⟩
      · exact absurd ⟨hdone, hat⟩ (hnone e)

/-!
## Walks
-/

section

variable [DecidableEq V]

theorem touches_across (e : E) (p : V) : Touches ends e (across ends e p) := by
  unfold across
  split
  · exact Or.inr rfl
  · exact Or.inl rfl

theorem across_of_touches (h : Touches ends e p) :
    ends e = (p, across ends e p) ∨ ends e = (across ends e p, p) := by
  unfold across
  split
  · rename_i hfst
    exact Or.inl (Prod.ext hfst rfl)
  · rename_i hfst
    exact Or.inr (Prod.ext rfl (h.resolve_left hfst))

theorem across_across (h : Touches ends e p) :
    across ends e (across ends e p) = p := by
  by_cases hfst : (ends e).1 = p
  · have hacross : across ends e p = (ends e).2 := if_pos hfst
    rw [hacross]
    unfold across
    split
    · rename_i hloop
      rw [← hloop, hfst]
    · exact hfst
  · have hacross : across ends e p = (ends e).1 := if_neg hfst
    rw [hacross]
    exact (if_pos rfl).trans (h.resolve_left hfst)

theorem across_of_ne (hp : Touches ends e p) (hq : Touches ends e q)
    (hne : p ≠ q) : across ends e p = q := by
  rcases hp with hp | hp
  · have hacross : across ends e p = (ends e).2 := if_pos hp
    rcases hq with hq | hq
    · exact absurd (hp.symm.trans hq) hne
    · exact hacross.trans hq
  · rcases hq with hq | hq
    · have hfst : ¬ (ends e).1 = p := fun h => hne (h.symm.trans hq)
      exact (if_neg hfst).trans hq
    · exact absurd (hp.symm.trans hq) hne

theorem joined_across (h : Touches ends e p) : Joined ends p (across ends e p) :=
  ⟨e, across_of_touches h⟩

theorem IsWalk.suffix {front : List E} (h : IsWalk ends t p (front ++ es)) :
    exists q, IsWalk ends t q es := by
  induction front generalizing p with
  | nil => exact ⟨p, h⟩
  | cons e front ih => exact ih h.right

theorem IsWalk.unique (hp : IsWalk ends t p es) (hq : IsWalk ends t q es) :
    p = q := by
  induction es generalizing p q with
  | nil => exact hp.trans hq.symm
  | cons e es ih =>
      have hsame := ih hp.right hq.right
      rw [← across_across hp.left, hsame, across_across hq.left]

theorem head?_stops (p : V) (es : List E) :
    (stops ends p es).head? = some p := by
  cases es with
  | nil => rfl
  | cons e es => rfl

theorem IsWalk.getLast?_stops (h : IsWalk ends t p es) :
    (stops ends p es).getLast? = some t := by
  induction es generalizing p with
  | nil => rw [stops, List.getLast?_singleton, show p = t from h]
  | cons e es ih =>
      have hne : stops ends (across ends e p) es ≠ [] := by
        intro hnil
        have hhead : (stops ends (across ends e p) es).head? =
            some (across ends e p) := head?_stops _ es
        rw [hnil] at hhead
        cases hhead
      rw [stops, List.getLast?_cons_of_ne_nil hne]
      exact ih h.right

theorem IsWalk.isChain_stops (h : IsWalk ends t p es) :
    (stops ends p es).IsChain (Joined ends) := by
  induction es generalizing p with
  | nil => exact List.isChain_singleton p
  | cons e es ih =>
      rw [stops, List.isChain_cons]
      refine ⟨?_, ih h.right⟩
      intro q hq
      rw [head?_stops] at hq
      rw [← Option.mem_some_iff.mp hq]
      exact joined_across h.left

/-!
## Going ahead
-/

section

variable {W : Type w} [LinearOrder W] (ends) (weight : E -> W)

structure Nearest (s : V) (done : List E) (e : E) : Prop where
  listed : Listed ends s done e
  least : forall d, Listed ends s done d -> weight e ≤ weight d

/-- The edges that were gone through, the last one first, and the place. -/
inductive Ahead (s t : V) : List E -> V -> Prop where
  | start : Ahead s t [] s
  | step {done : List E} {p : V} {e : E} :
      Ahead s t done p -> Nearest ends weight s done e -> Touches ends e p ->
        ¬ Touches ends e t -> Ahead s t (e :: done) (across ends e p)

variable {ends weight}

theorem Ahead.isWalk (h : Ahead ends weight s t done p) :
    IsWalk ends s p done := by
  induction h with
  | start => rfl
  | step _ _ htouches _ ih =>
      refine ⟨touches_across _ _, ?_⟩
      rwa [across_across htouches]

theorem Ahead.nearest (h : Ahead ends weight s t done p)
    (hsuffix : e :: es <:+ done) : Nearest ends weight s es e := by
  induction h with
  | start => cases List.suffix_nil.mp hsuffix
  | step _ hnearest _ _ ih =>
      rcases List.suffix_cons_iff.mp hsuffix with heq | hsuffix
      · cases heq
        exact hnearest
      · exact ih hsuffix

theorem Ahead.nearest_cons {i : E} (h : Ahead ends weight s t done p)
    (hi : Nearest ends weight s done i) (e : E) (es : List E)
    (hsuffix : e :: es <:+ i :: done) : Nearest ends weight s es e := by
  rcases List.suffix_cons_iff.mp hsuffix with heq | hsuffix
  · cases heq
    exact hi
  · exact h.nearest hsuffix

theorem Ahead.ne_target (h : Ahead ends weight s t done p) (hne : s ≠ t) :
    p ≠ t := by
  cases h with
  | start => exact hne
  | step _ _ _ hnot =>
      intro heq
      exact hnot (heq ▸ touches_across _ _)

theorem Ahead.not_target (h : Ahead ends weight s t done p) {d : E}
    (hd : d ∈ done) : ¬ Touches ends d t := by
  induction h with
  | start => cases hd
  | step _ _ _ hnot ih =>
      rcases List.mem_cons.mp hd with heq | hd
      · rwa [heq]
      · exact ih hd

end

end

end EdgeWalks
end Library
end BnsKorea
