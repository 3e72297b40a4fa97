import Mathlib.Data.List.Basic
import Mathlib.Data.List.TakeWhile

/-!
# Two selections from one list

What one partial function selects of a list against what another selects, where
the second agrees with the first on every result of a certain kind, and the
first has results of that kind only.
-/

namespace BnsKorea
namespace Library
namespace Selections

universe u v w

variable {α : Type u} {β : Type v} {γ : Type w}

/-!
## Selections
-/

section

variable {f g : α -> Option β} {xs ys : List α}

theorem filterMap_cons_some {x : α} {e : β} (h : f x = some e) (xs : List α) :
    (x :: xs).filterMap f = e :: xs.filterMap f := by
  rw [List.filterMap_cons, h]

theorem filterMap_cons_none {x : α} (h : f x = none) (xs : List α) :
    (x :: xs).filterMap f = xs.filterMap f := by
  rw [List.filterMap_cons, h]

theorem filterMap_sublist
    (h : forall x, x ∈ xs -> forall e, f x = some e -> g x = some e) :
    (xs.filterMap f).Sublist (xs.filterMap g) := by
  induction xs with
  | nil => exact List.Sublist.slnil
  | cons x xs ih =>
      have hrest := ih fun y hy => h y (List.mem_cons_of_mem x hy)
      cases hf : f x with
      | none =>
          rw [filterMap_cons_none hf]
          cases hg : g x with
          | none => rwa [filterMap_cons_none hg]
          | some e =>
              rw [filterMap_cons_some hg]
              exact hrest.cons e
      | some e =>
          rw [filterMap_cons_some hf,
            filterMap_cons_some (h x List.mem_cons_self e hf)]
          exact hrest.cons_cons e

theorem agree_of_filterMap_eq
    (h : forall x, x ∈ xs -> forall e, f x = some e -> g x = some e)
    (heq : xs.filterMap g = xs.filterMap f) :
    forall x, x ∈ xs -> g x = f x := by
  induction xs with
  | nil => exact fun _ hx => nomatch hx
  | cons x xs ih =>
      have hrest : forall y, y ∈ xs -> forall e, f y = some e -> g y = some e :=
        fun y hy => h y (List.mem_cons_of_mem x hy)
      have hhead : g x = f x ∧ xs.filterMap g = xs.filterMap f := by
        cases hf : f x with
        | some e =>
            have hg := h x List.mem_cons_self e hf
            rw [filterMap_cons_some hf, filterMap_cons_some hg] at heq
            exact ⟨hg, (List.cons.inj heq).right⟩
        | none =>
            cases hg : g x with
            | none =>
                rw [filterMap_cons_none hf, filterMap_cons_none hg] at heq
                exact ⟨rfl, heq⟩
            | some e =>
                have hle := (filterMap_sublist hrest).length_le
                rw [filterMap_cons_none hf, filterMap_cons_some hg] at heq
                rw [← heq, List.length_cons] at hle
                exact absurd hle (Nat.not_succ_le_self _)
      intro y hy
      rcases List.mem_cons.mp hy with hy | hy
      · rw [hy]
        exact hhead.left
      · exact ih hrest hhead.right y hy

/-- More is selected, and of more elements; nothing is gained only if both
selections agree on the front and the rest gives nothing. -/
theorem filterMap_append_eq_iff {kind : β -> Prop}
    (hfg : forall x, x ∈ xs -> forall e, f x = some e -> kind e -> g x = some e)
    (hkind : forall x e, g x = some e -> kind e) :
    xs.filterMap g ++ ys.filterMap g = xs.filterMap f ↔
      (forall x, x ∈ xs -> g x = f x) ∧ forall y, y ∈ ys -> g y = none := by
  constructor
  · intro heq
    have hmore : forall x, x ∈ xs -> forall e, f x = some e -> g x = some e := by
      intro x hx e hfx
      apply hfg x hx e hfx
      have hmem : e ∈ xs.filterMap f := List.mem_filterMap.mpr ⟨x, hx, hfx⟩
      rw [← heq, ← List.filterMap_append] at hmem
      rcases List.mem_filterMap.mp hmem with ⟨y, _, hgy⟩
      exact hkind y e hgy
    have hle := (filterMap_sublist hmore).length_le
    have hrest : ys.filterMap g = [] := by
      apply List.eq_nil_of_length_eq_zero
      rw [← heq, List.length_append] at hle
      omega
    rw [hrest, List.append_nil] at heq
    exact ⟨agree_of_filterMap_eq hmore heq, List.filterMap_eq_nil_iff.mp hrest⟩
  · intro hagree
    rw [List.filterMap_eq_nil_iff.mpr hagree.right, List.append_nil]
    exact List.filterMap_congr hagree.left

end

/-!
## Beginnings
-/

section

variable {p q : α -> Bool}

theorem takeWhile_split (h : forall x, p x = true -> q x = true) (xs : List α) :
    xs.takeWhile q = xs.takeWhile p ++ (xs.dropWhile p).takeWhile q := by
  induction xs with
  | nil => rfl
  | cons x xs ih =>
      cases hp : p x with
      | false =>
          rw [List.takeWhile_cons_of_neg (Bool.eq_false_iff.mp hp),
            List.dropWhile_cons_of_neg (Bool.eq_false_iff.mp hp)]
          rfl
      | true =>
          rw [List.takeWhile_cons_of_pos (h x hp), List.takeWhile_cons_of_pos hp,
            List.dropWhile_cons_of_pos hp, ih]
          rfl

theorem takeWhile_filterMap {f : α -> Option γ} {r : γ -> Bool}
    (hq : forall x, q x = (f x).all r) (xs : List α) :
    (xs.filterMap f).takeWhile r = (xs.takeWhile q).filterMap f := by
  induction xs with
  | nil => rfl
  | cons x xs ih =>
      have hx := hq x
      cases hf : f x with
      | none =>
          rw [hf] at hx
          rw [filterMap_cons_none hf, ih, List.takeWhile_cons_of_pos hx,
            filterMap_cons_none hf]
      | some e =>
          rw [hf, Option.all_some] at hx
          rw [filterMap_cons_some hf]
          cases hr : r e with
          | true =>
              rw [List.takeWhile_cons_of_pos hr, ih,
                List.takeWhile_cons_of_pos (hx.trans hr), filterMap_cons_some hf]
          | false =>
              rw [List.takeWhile_cons_of_neg (Bool.eq_false_iff.mp hr),
                List.takeWhile_cons_of_neg (Bool.eq_false_iff.mp (hx.trans hr))]
              rfl

end

/-!
## Beside the first marked one
-/

section

variable {κ : Type v} [DecidableEq κ] {key : α -> κ} {marked : α -> Bool}

def firstBeside (marked : α -> Bool) : List α -> Option α
  | [] => none
  | x :: xs => if marked x then xs.head? else some x

theorem mem_of_firstBeside {xs : List α} {x : α}
    (h : firstBeside marked xs = some x) : x ∈ xs := by
  cases xs with
  | nil => cases h
  | cons y xs =>
      rw [firstBeside] at h
      split at h
      · exact List.mem_cons_of_mem _ (List.mem_of_head? h)
      · cases h
        exact List.mem_cons_self

theorem marked_of_firstBeside_eq_none {xs : List α}
    (h : firstBeside marked xs = none) : forall x, x ∈ xs -> marked x = true := by
  cases xs with
  | nil => exact fun _ hx => nomatch hx
  | cons y xs =>
      rw [firstBeside] at h
      split at h
      · rename_i hy
        rw [List.head?_eq_none_iff.mp h]
        intro x hx
        rw [List.mem_singleton.mp hx]
        exact hy
      · cases h

theorem firstBeside_marked_iff {xs : List α} :
    (exists x, firstBeside marked xs = some x ∧ marked x = true) ↔
      exists first second rest, xs = first :: second :: rest ∧
        marked first = true ∧ marked second = true := by
  constructor
  · intro h
    rcases h with ⟨x, hbeside, hx⟩
    cases xs with
    | nil => cases hbeside
    | cons first xs =>
        rw [firstBeside] at hbeside
        split at hbeside
        · rename_i hfirst
          rcases List.head?_eq_some_iff.mp hbeside with ⟨rest, hxs⟩
          exact ⟨first, x, rest, by rw [hxs], hfirst, hx⟩
        · rename_i hfirst
          cases hbeside
          exact absurd hx hfirst
  · intro h
    rcases h with ⟨first, second, rest, hxs, hfirst, hsecond⟩
    refine ⟨second, ?_, hsecond⟩
    rw [hxs, firstBeside, if_pos hfirst, List.head?_cons]

theorem find?_beside {xs : List α} (hdistinct : (xs.map key).Nodup) :
    xs.find? (fun x => (xs.filter marked).head?.all fun m => key x != key m) =
      firstBeside marked xs := by
  cases xs with
  | nil => rfl
  | cons x xs =>
      rw [List.map_cons, List.nodup_cons] at hdistinct
      have hother : forall y, y ∈ xs -> key y ≠ key x := by
        intro y hy hsame
        exact hdistinct.left (hsame ▸ List.mem_map_of_mem hy)
      cases hx : marked x with
      | true =>
          rw [List.filter_cons_of_pos hx, List.head?_cons, firstBeside, if_pos hx,
            List.find?_cons_of_neg]
          · cases xs with
            | nil => rfl
            | cons y ys =>
                rw [List.find?_cons_of_pos, List.head?_cons]
                exact bne_iff_ne.mpr (hother y List.mem_cons_self)
          · rw [Option.all_some, bne_self_eq_false]
            exact Bool.false_ne_true
      | false =>
          rw [List.filter_cons_of_neg (Bool.eq_false_iff.mp hx), firstBeside,
            if_neg (Bool.eq_false_iff.mp hx), List.find?_cons_of_pos]
          cases hfirst : (xs.filter marked).head? with
          | none => rfl
          | some m =>
              have hm : m ∈ xs := List.mem_of_mem_filter (List.mem_of_head? hfirst)
              rw [Option.all_some]
              exact bne_iff_ne.mpr (Ne.symm (hother m hm))

end

end Selections
end Library
end BnsKorea
