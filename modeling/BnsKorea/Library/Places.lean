/-!
# Places in a list

A pointer to an element of a sequence is the element together with what stands
before and after it.  Searching gives the first place whose element passes a
test, and writing through the pointer puts another element in the same place.
-/

namespace BnsKorea
namespace Library

universe u v

structure Place (α : Type u) where
  pre : List α
  here : α
  post : List α

namespace Place

variable {α : Type u} {β : Type v}

/-- The list after `x` was written to the place. -/
def put (p : Place α) (x : α) : List α :=
  p.pre ++ x :: p.post

def whole (p : Place α) : List α :=
  p.put p.here

theorem mem_whole {p : Place α} : p.here ∈ p.whole := by
  simp [whole, put]

theorem mem_put {p : Place α} {x y : α} :
    y ∈ p.put x ↔ y ∈ p.pre ∨ y = x ∨ y ∈ p.post := by
  simp [put]

theorem map_put (f : α -> β) (p : Place α) (x : α) :
    (p.put x).map f = p.pre.map f ++ f x :: p.post.map f := by
  simp [put]

theorem map_put_of_eq {f : α -> β} {p : Place α} {x : α} (h : f x = f p.here) :
    (p.put x).map f = p.whole.map f := by
  rw [whole, map_put, map_put, h]

theorem eq_of_put_eq {test : α -> Bool} {p q : Place α} {x y : α}
    (hwhole : p.whole = q.whole)
    (hold : forall z, z ∈ p.whole -> test z = false) (hx : test x = true)
    (hy : test y = true) (hput : p.put x = q.put y) : p = q := by
  have htake : forall (r : Place α) (z : α), r.whole = p.whole -> test z = true ->
      (r.put z).takeWhile (fun z => !test z) = r.pre := by
    intro r z hr hz
    rw [put, List.takeWhile_append_of_pos]
    · simp [hz]
    · intro u hu
      have hmem : u ∈ r.whole := mem_put.mpr (Or.inl hu)
      rw [hold u (hr ▸ hmem)]
      rfl
  have hpre : p.pre = q.pre := by
    rw [← htake p x rfl hx, ← htake q y hwhole.symm hy, hput]
  rw [whole, whole, put, put, hpre] at hwhole
  rcases List.cons.inj (List.append_cancel_left hwhole) with ⟨hhere, hpost⟩
  cases p
  cases q
  cases hpre
  cases hhere
  cases hpost
  rfl

theorem eq_of_only {P : α -> Prop} {p q : Place α} (hwhole : p.whole = q.whole)
    (hq : P q.here) (hpre : forall x, x ∈ p.pre -> ¬ P x)
    (hpost : forall x, x ∈ p.post -> ¬ P x) : p = q := by
  rcases p with ⟨pre, here, post⟩
  rcases q with ⟨pre', here', post'⟩
  have hlists : pre ++ here :: post = pre' ++ here' :: post' := hwhole
  rcases List.append_eq_append_iff.mp hlists with
    ⟨as, hfront, hrest⟩ | ⟨as, hfront, hrest⟩
  · cases as with
    | nil =>
        rcases List.cons.inj hrest with ⟨rfl, rfl⟩
        rw [hfront, List.append_nil]
    | cons a as =>
        rcases List.cons.inj hrest with ⟨-, rfl⟩
        exact absurd hq (hpost here' (by simp))
  · cases as with
    | nil =>
        rcases List.cons.inj hrest with ⟨rfl, rfl⟩
        rw [hfront, List.append_nil]
    | cons a as =>
        rcases List.cons.inj hrest with ⟨rfl, -⟩
        exact absurd hq (hpre here' (by simp [hfront]))

theorem mem_whole_of_mem_put {p : Place α} {x y : α} (h : y ∈ p.put x) :
    y = x ∨ y ∈ p.whole := by
  rw [mem_put] at h
  rw [whole, mem_put]
  rcases h with hpre | hx | hpost
  · exact Or.inr (Or.inl hpre)
  · exact Or.inl hx
  · exact Or.inr (Or.inr (Or.inr hpost))

end Place

section

variable {α : Type u}

def firstPlace (test : α -> Bool) : List α -> Option (Place α)
  | [] => none
  | x :: xs =>
      if test x then some { pre := [], here := x, post := xs }
      else (firstPlace test xs).map fun p => { p with pre := x :: p.pre }

theorem firstPlace_eq_none {test : α -> Bool} {xs : List α} :
    firstPlace test xs = none ↔ forall x, x ∈ xs -> test x = false := by
  induction xs with
  | nil => simp [firstPlace]
  | cons x xs ih =>
      cases hx : test x with
      | true => simp [firstPlace, hx]
      | false => simp [firstPlace, hx, ih]

theorem firstPlace_eq_some {test : α -> Bool} {xs : List α} {p : Place α}
    (h : firstPlace test xs = some p) :
    p.whole = xs ∧ test p.here = true ∧
      forall y, y ∈ p.pre -> test y = false := by
  induction xs generalizing p with
  | nil => cases h
  | cons x xs ih =>
      cases hx : test x with
      | true =>
          simp only [firstPlace, hx, if_true, Option.some.injEq] at h
          rw [← h]
          exact ⟨rfl, hx, by simp⟩
      | false =>
          simp only [firstPlace, hx, Bool.false_eq_true, if_false] at h
          rcases Option.map_eq_some_iff.mp h with ⟨q, hq, hqp⟩
          rcases ih hq with ⟨hwhole, htest, hpre⟩
          rw [← hqp]
          refine ⟨?_, htest, ?_⟩
          · rw [← hwhole]
            rfl
          · intro y hy
            rcases List.mem_cons.mp hy with hyx | hy
            · rw [hyx]
              exact hx
            · exact hpre y hy

theorem map_here_firstPlace (test : α -> Bool) (xs : List α) :
    (firstPlace test xs).map Place.here = xs.find? test := by
  induction xs with
  | nil => rfl
  | cons x xs ih =>
      rw [firstPlace, List.find?_cons]
      cases test x with
      | true => rfl
      | false =>
          rw [← ih, if_neg Bool.false_ne_true, Option.map_map]
          rfl

theorem find?_of_weaker {test test' : α -> Bool} {xs : List α} {x : α}
    (h : xs.find? test = some x) (hx : test' x = true)
    (hweaker : forall y, y ∈ xs -> test' y = true -> test y = true) :
    xs.find? test' = some x := by
  induction xs with
  | nil => cases h
  | cons y xs ih =>
      rw [List.find?_cons] at h
      rw [List.find?_cons]
      cases hy : test y with
      | true =>
          rw [hy] at h
          cases h
          rw [hx]
      | false =>
          rw [hy] at h
          cases hy' : test' y with
          | true =>
              have htrue := hweaker y List.mem_cons_self hy'
              rw [hy] at htrue
              cases htrue
          | false => exact ih h fun z hz => hweaker z (List.mem_cons_of_mem y hz)

theorem find?_put_first {test : α -> Bool} {p : Place α} {x : α}
    (hpre : forall y, y ∈ p.pre -> test y = false) (hx : test x = true) :
    (p.put x).find? test = some x := by
  have hnone : p.pre.find? test = none := by
    rw [List.find?_eq_none]
    intro y hy
    simp [hpre y hy]
  rw [Place.put, List.find?_append, hnone, List.find?_cons_of_pos hx]
  rfl

theorem find?_put_other {test : α -> Bool} {p : Place α} {x : α}
    (hhere : test p.here = false) (hx : test x = false) :
    (p.put x).find? test = p.whole.find? test := by
  simp [Place.whole, Place.put, List.find?_append, hhere, hx]

theorem firstPlace_of_first {test : α -> Bool} {p : Place α}
    (htest : test p.here = true)
    (hpre : forall y, y ∈ p.pre -> test y = false) :
    firstPlace test p.whole = some p := by
  rcases p with ⟨pre, here, post⟩
  induction pre with
  | nil => simp [Place.whole, Place.put, firstPlace, htest]
  | cons y pre ih =>
      have hy := hpre y List.mem_cons_self
      have htail := ih htest fun z hz => hpre z (List.mem_cons_of_mem y hz)
      simp only [Place.whole, Place.put, List.cons_append, firstPlace, hy]
        at htail ⊢
      rw [htail]
      rfl

end

end Library
end BnsKorea
