import Mathlib.Data.List.Flatten
import Mathlib.Data.List.Nodup
import Mathlib.Data.List.Pairwise

/-!
# Parts that share nothing

Parts whose elements, all listed together, are distinct: an element is in one
part at most, so the parts divide the elements they list, and an element nobody
lists is a part of its own.
-/

namespace BnsKorea
namespace Library
namespace Parts

universe u v

variable {α : Type u} {β : Type v}

theorem part_unique {elements : β -> List α} {parts : List β}
    (hnodup : (parts.flatMap elements).Nodup) {x y : β} (hx : x ∈ parts)
    (hy : y ∈ parts) {a : α} (hax : a ∈ elements x) (hay : a ∈ elements y) :
    x = y := by
  by_contra hne
  have hsymm : Std.Symm (Function.onFun List.Disjoint elements) :=
    ⟨fun _ _ h _ hb ha => h ha hb⟩
  have hdisjoint := (List.nodup_flatMap.mp hnodup).right.forall hx hy hne
  exact hdisjoint hax hay

section

variable [DecidableEq α]

def partOf (parts : List (List α)) (a : α) : List α :=
  (parts.find? fun part => decide (a ∈ part)).getD [a]

theorem partOf_of_mem {parts : List (List α)} (hnodup : parts.flatten.Nodup)
    {part : List α} (hpart : part ∈ parts) {a : α} (ha : a ∈ part) :
    partOf parts a = part := by
  have hflat : (parts.flatMap id).Nodup := by
    rwa [List.flatMap_id]
  cases hfind : parts.find? fun part => decide (a ∈ part) with
  | none =>
      have hnone := List.find?_eq_none.mp hfind part hpart
      exact absurd (decide_eq_true ha) hnone
  | some found =>
      have hfound := List.mem_of_find?_eq_some hfind
      have hin := List.find?_some hfind
      rw [partOf, hfind]
      exact part_unique hflat hfound hpart (of_decide_eq_true hin) ha

theorem partOf_of_forall_not_mem {parts : List (List α)} {a : α}
    (ha : forall part, part ∈ parts -> a ∉ part) : partOf parts a = [a] := by
  have hnone : (parts.find? fun part => decide (a ∈ part)) = none := by
    apply List.find?_eq_none.mpr
    intro part hpart hin
    exact ha part hpart (of_decide_eq_true hin)
  rw [partOf, hnone]
  rfl

theorem mem_partOf (parts : List (List α)) (a : α) : a ∈ partOf parts a := by
  cases hfind : parts.find? fun part => decide (a ∈ part) with
  | none =>
      rw [partOf, hfind]
      exact List.mem_cons_self
  | some found =>
      have hin := List.find?_some hfind
      rw [partOf, hfind]
      exact of_decide_eq_true hin

theorem partOf_eq_iff {parts : List (List α)} (hnodup : parts.flatten.Nodup)
    {a b : α} :
    partOf parts a = partOf parts b ↔
      a = b ∨ exists part, part ∈ parts ∧ a ∈ part ∧ b ∈ part := by
  constructor
  · intro hsame
    by_cases hlisted : exists part, part ∈ parts ∧ a ∈ part
    · rcases hlisted with ⟨part, hpart, ha⟩
      have hb := mem_partOf parts b
      rw [← hsame, partOf_of_mem hnodup hpart ha] at hb
      exact Or.inr ⟨part, hpart, ha, hb⟩
    · have halone : partOf parts a = [a] := by
        apply partOf_of_forall_not_mem
        intro part hpart ha
        exact hlisted ⟨part, hpart, ha⟩
      have hb := mem_partOf parts b
      rw [← hsame, halone] at hb
      exact Or.inl (List.mem_singleton.mp hb).symm
  · intro h
    rcases h with hab | ⟨part, hpart, ha, hb⟩
    · rw [hab]
    · rw [partOf_of_mem hnodup hpart ha, partOf_of_mem hnodup hpart hb]

end

end Parts
end Library
end BnsKorea
