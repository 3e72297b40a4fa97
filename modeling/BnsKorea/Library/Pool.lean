import Mathlib.Data.Set.Insert
import Mathlib.Logic.Function.Basic

/-!
# A pool of marked resources

Every holder holds at most one resource, and the pool marks the resources that
are taken.  The pool is exclusive when no two holders hold the same resource and
the marks are exactly what is held.
-/

namespace BnsKorea
namespace Library

universe u v

structure Pool (ι : Type u) (κ : Type v) where
  marked : Set κ
  holds : ι -> Option κ

namespace Pool

variable {ι : Type u} {κ : Type v}

structure Exclusive (p : Pool ι κ) : Prop where
  differ : forall m n k, p.holds m = some k -> p.holds n = some k -> m = n
  marked_iff : forall k, k ∈ p.marked ↔ exists n, p.holds n = some k

theorem exclusive_empty {p : Pool ι κ} (hmarked : forall k, k ∉ p.marked)
    (hholds : forall n, p.holds n = none) : p.Exclusive where
  differ m n k hm _ := by
    rw [hholds m] at hm
    cases hm
  marked_iff k := by
    constructor
    · intro hk
      exact absurd hk (hmarked k)
    · intro hk
      rcases hk with ⟨n, hn⟩
      rw [hholds n] at hn
      cases hn

section

variable [DecidableEq ι]

def take (p : Pool ι κ) (n : ι) (k : κ) : Pool ι κ where
  marked := insert k p.marked
  holds := Function.update p.holds n (some k)

def drop (p : Pool ι κ) (n : ι) (k : κ) : Pool ι κ where
  marked := p.marked \ {k}
  holds := Function.update p.holds n none

theorem holds_drop_iff {p : Pool ι κ} {m n : ι} {k k' : κ} :
    (p.drop n k).holds m = some k' ↔ m ≠ n ∧ p.holds m = some k' := by
  by_cases hmn : m = n
  · simp [drop, hmn]
  · simp [drop, hmn]

theorem Exclusive.take {p : Pool ι κ} (hp : p.Exclusive) {n : ι} {k : κ}
    (hn : p.holds n = none) (hk : k ∉ p.marked) : (p.take n k).Exclusive := by
  have hnobody : forall m, p.holds m ≠ some k := by
    intro m hm
    exact hk ((hp.marked_iff k).mpr ⟨m, hm⟩)
  have hholds : forall m k', (p.take n k).holds m = some k' ↔
      (m = n ∧ k = k') ∨ p.holds m = some k' := by
    intro m k'
    by_cases hmn : m = n
    · simp [Pool.take, hmn, hn]
    · simp [Pool.take, hmn]
  constructor
  · intro m m' k' hm hm'
    rcases (hholds m k').mp hm with ⟨hmn, hkk⟩ | hm
    · rcases (hholds m' k').mp hm' with ⟨hmn', _⟩ | hm'
      · rw [hmn, hmn']
      · rw [← hkk] at hm'
        exact absurd hm' (hnobody m')
    · rcases (hholds m' k').mp hm' with ⟨_, hkk⟩ | hm'
      · rw [← hkk] at hm
        exact absurd hm (hnobody m)
      · exact hp.differ m m' k' hm hm'
  · intro k'
    have hmarked : k' ∈ (p.take n k).marked ↔ k' = k ∨ k' ∈ p.marked :=
      Set.mem_insert_iff
    rw [hmarked, hp.marked_iff k']
    constructor
    · intro h
      rcases h with hkk | ⟨m, hm⟩
      · exact ⟨n, (hholds n k').mpr (Or.inl ⟨rfl, hkk.symm⟩)⟩
      · exact ⟨m, (hholds m k').mpr (Or.inr hm)⟩
    · intro h
      rcases h with ⟨m, hm⟩
      rcases (hholds m k').mp hm with ⟨_, hkk⟩ | hm
      · exact Or.inl hkk.symm
      · exact Or.inr ⟨m, hm⟩

/--
A resource may be dropped exactly by its holder: its mark, if it has one, is for
the one who drops it, who holds nothing else.
-/
theorem Exclusive.drop_iff {p : Pool ι κ} (hp : p.Exclusive) {n : ι} {k : κ} :
    (p.drop n k).Exclusive ↔
      (k ∈ p.marked -> p.holds n = some k) ∧
        forall k', p.holds n = some k' -> k' = k := by
  constructor
  · intro hdrop
    constructor
    · intro hk
      rcases (hp.marked_iff k).mp hk with ⟨m, hm⟩
      by_cases hmn : m = n
      · rw [← hmn]
        exact hm
      · have hstill := (hdrop.marked_iff k).mpr
          ⟨m, holds_drop_iff.mpr ⟨hmn, hm⟩⟩
        exact absurd rfl hstill.right
    · intro k' hn
      by_cases hkk : k' = k
      · exact hkk
      · have hmarked := (hp.marked_iff k').mpr ⟨n, hn⟩
        rcases (hdrop.marked_iff k').mp ⟨hmarked, hkk⟩ with ⟨m, hm⟩
        rcases holds_drop_iff.mp hm with ⟨hmn, hm⟩
        exact absurd (hp.differ m n k' hm hn) hmn
  · intro h
    rcases h with ⟨hown, honly⟩
    constructor
    · intro m m' k' hm hm'
      exact hp.differ m m' k' (holds_drop_iff.mp hm).right
        (holds_drop_iff.mp hm').right
    · intro k'
      constructor
      · intro hk'
        rcases (hp.marked_iff k').mp hk'.left with ⟨m, hm⟩
        refine ⟨m, holds_drop_iff.mpr ⟨?_, hm⟩⟩
        intro hmn
        rw [hmn] at hm
        exact hk'.right (honly k' hm)
      · intro hk'
        rcases hk' with ⟨m, hm⟩
        rcases holds_drop_iff.mp hm with ⟨hmn, hm⟩
        have hmarked := (hp.marked_iff k').mpr ⟨m, hm⟩
        refine ⟨hmarked, ?_⟩
        intro hkk
        have hkk : k' = k := hkk
        rw [hkk] at hm hmarked
        exact hmn (hp.differ m n k hm (hown hmarked))

end

end Pool

end Library
end BnsKorea
