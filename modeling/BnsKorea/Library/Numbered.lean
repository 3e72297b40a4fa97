import Mathlib.Data.List.Basic
import Mathlib.Data.List.Range

/-!
# Numbered lists

A list whose elements are numbered by their places, and what a reader sees who
goes through the numbers up to a bound.
-/

namespace BnsKorea
namespace Library
namespace Numbered

universe u v

variable {α : Type u} {β : Type v}

theorem filterMap_upTo (f : Nat -> β) (xs : List α) {k bound : Nat}
    (hbound : bound ≤ k + xs.length) :
    (xs.zipIdx (k + 1)).filterMap
        (fun x => if x.2 ≤ bound then some (f x.2) else none) =
      (List.range' (k + 1) (bound - k)).map f := by
  induction xs generalizing k with
  | nil =>
      have hzero : bound - k = 0 := Nat.sub_eq_zero_of_le hbound
      rw [hzero]
      rfl
  | cons x xs ih =>
      rw [List.length_cons] at hbound
      rw [List.zipIdx_cons, List.filterMap_cons]
      by_cases hfirst : k + 1 ≤ bound
      · have hcount : bound - k = bound - (k + 1) + 1 := by omega
        rw [if_pos hfirst, ih (by omega), hcount, List.range'_succ, List.map_cons]
      · have hzero : bound - k = 0 := by omega
        have hzero' : bound - (k + 1) = 0 := by omega
        rw [if_neg hfirst, ih (by omega), hzero, hzero']
        rfl

theorem filterMap_split_perm {f g h : α -> Option β} {xs : List α}
    (hsplit : forall x, x ∈ xs ->
      f x = g x ∧ h x = none ∨ f x = h x ∧ g x = none) :
    (xs.filterMap f).Perm (xs.filterMap g ++ xs.filterMap h) := by
  induction xs with
  | nil => exact List.Perm.nil
  | cons x xs ih =>
      have hrest := ih fun y hy => hsplit y (List.mem_cons_of_mem x hy)
      rcases hsplit x List.mem_cons_self with ⟨hfg, hh⟩ | ⟨hfh, hg⟩
      · cases hx : g x with
        | none =>
            rw [hx] at hfg
            rw [List.filterMap_cons_none hfg, List.filterMap_cons_none hx,
              List.filterMap_cons_none hh]
            exact hrest
        | some y =>
            rw [hx] at hfg
            rw [List.filterMap_cons_some hfg, List.filterMap_cons_some hx,
              List.filterMap_cons_none hh]
            exact hrest.cons y
      · cases hx : h x with
        | none =>
            rw [hx] at hfh
            rw [List.filterMap_cons_none hfh, List.filterMap_cons_none hx,
              List.filterMap_cons_none hg]
            exact hrest
        | some y =>
            rw [hx] at hfh
            rw [List.filterMap_cons_some hfh, List.filterMap_cons_some hx,
              List.filterMap_cons_none hg]
            exact (hrest.cons y).trans List.perm_middle.symm

end Numbered
end Library
end BnsKorea
