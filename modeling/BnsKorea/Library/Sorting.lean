import Mathlib.Data.List.Sort

/-!
# The first of a sorted list

Sorting with a transitive and total comparison puts an element in front that
comes before all others.  Which one of several such elements it is depends on
the sorting algorithm, and nothing here says.
-/

namespace BnsKorea
namespace Library

universe u

variable {α : Type u} {le : α -> α -> Bool}

theorem mergeSort_eq_nil {xs : List α} : xs.mergeSort le = [] ↔ xs = [] := by
  rw [← List.length_eq_zero_iff, List.length_mergeSort, List.length_eq_zero_iff]

theorem mergeSort_head
    (htrans : forall a b c, le a b = true -> le b c = true -> le a c = true)
    (htotal : forall a b, (le a b || le b a) = true) {xs rest : List α} {x : α}
    (h : xs.mergeSort le = x :: rest) :
    x ∈ xs ∧ forall y, y ∈ xs -> le x y = true := by
  have hsorted := List.pairwise_mergeSort htrans htotal xs
  have hperm := List.mergeSort_perm xs le
  rw [h, List.pairwise_cons] at hsorted
  rw [h] at hperm
  constructor
  · exact hperm.mem_iff.mp List.mem_cons_self
  · intro y hy
    have hy := hperm.mem_iff.mpr hy
    rcases List.mem_cons.mp hy with hxy | hrest
    · have hself := htotal x x
      rw [Bool.or_self] at hself
      rw [hxy]
      exact hself
    · exact hsorted.left y hrest

end Library
end BnsKorea
