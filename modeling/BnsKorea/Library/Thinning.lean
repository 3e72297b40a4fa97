import Mathlib.Data.List.Basic

/-!
# Thinning a list

A pass over a sequence that throws some elements away and rewrites others in
place.  The elements that stay keep their order.
-/

namespace BnsKorea
namespace Library

universe u v w

/-- Elements that may be dropped are; the others are rewritten one by one. -/
inductive Thinned {α : Type u} {β : Type v} (drop : α -> Prop)
    (same : α -> β -> Prop) : List α -> List β -> Prop where
  | nil : Thinned drop same [] []
  | dropped {x : α} {xs : List α} {ys : List β} (hx : drop x)
      (h : Thinned drop same xs ys) : Thinned drop same (x :: xs) ys
  | kept {x : α} {y : β} {xs : List α} {ys : List β} (hxy : same x y)
      (h : Thinned drop same xs ys) : Thinned drop same (x :: xs) (y :: ys)

namespace Thinned

variable {α : Type u} {β : Type v} {γ : Type w} {drop drop' : α -> Prop}
  {same same' : α -> β -> Prop} {xs : List α} {ys : List β}

theorem refl {same : α -> α -> Prop} (hsame : forall x, same x x)
    (xs : List α) : Thinned drop same xs xs := by
  induction xs with
  | nil => exact nil
  | cons x xs ih => exact kept (hsame x) ih

theorem filter (keep : α -> Bool) (xs : List α) :
    Thinned (fun x => keep x = false) (fun x y => y = x) xs (xs.filter keep) := by
  induction xs with
  | nil => exact nil
  | cons x xs ih =>
      cases hx : keep x with
      | false =>
          rw [List.filter_cons_of_neg (by simp [hx])]
          exact dropped hx ih
      | true =>
          rw [List.filter_cons_of_pos hx]
          exact kept rfl ih

theorem mono (h : Thinned drop same xs ys)
    (hdrop : forall x, x ∈ xs -> drop x -> drop' x)
    (hsame : forall x y, x ∈ xs -> same x y -> same' x y) :
    Thinned drop' same' xs ys := by
  induction h with
  | nil => exact nil
  | dropped hx _ ih =>
      refine dropped (hdrop _ List.mem_cons_self hx) (ih ?_ ?_)
      · exact fun x hx => hdrop x (List.mem_cons_of_mem _ hx)
      · exact fun x y hx => hsame x y (List.mem_cons_of_mem _ hx)
  | kept hxy _ ih =>
      refine kept (hsame _ _ List.mem_cons_self hxy) (ih ?_ ?_)
      · exact fun x hx => hdrop x (List.mem_cons_of_mem _ hx)
      · exact fun x y hx => hsame x y (List.mem_cons_of_mem _ hx)

theorem rewrite {same : α -> β -> Prop} {then_ : β -> γ -> Prop}
    {both : α -> γ -> Prop} {zs : List γ} (h : Thinned drop same xs ys)
    (hzs : List.Forall₂ then_ ys zs)
    (hboth : forall x y z, same x y -> then_ y z -> both x z) :
    Thinned drop both xs zs := by
  induction h generalizing zs with
  | nil =>
      cases hzs
      exact nil
  | dropped hx _ ih => exact dropped hx (ih hzs)
  | kept hxy _ ih =>
      cases hzs with
      | cons hyz hzs => exact kept (hboth _ _ _ hxy hyz) (ih hzs)

end Thinned

end Library
end BnsKorea
