import Mathlib.Data.List.Perm.Basic
import Mathlib.Data.List.Nodup

/-!
# Rows of slots

A row of slots of which some are in use, each under a key.  What writing one
slot does to the keys in use is said up to their order: the key of the slot goes
or comes, the others stay.
-/

namespace BnsKorea
namespace Library

universe u v

variable {α : Type u} {κ : Type v}

def usedKeys (used : α -> Bool) (key : α -> κ) (xs : List α) : List κ :=
  (xs.filter used).map key

def usedKey (used : α -> Bool) (key : α -> κ) (x : α) : List κ :=
  if used x then [key x] else []

section

variable {used : α -> Bool} {key : α -> κ}

theorem usedKeys_append (xs ys : List α) :
    usedKeys used key (xs ++ ys) = usedKeys used key xs ++ usedKeys used key ys := by
  simp [usedKeys]

theorem usedKeys_cons (x : α) (xs : List α) :
    usedKeys used key (x :: xs) = usedKey used key x ++ usedKeys used key xs := by
  cases hx : used x with
  | false => simp [usedKeys, usedKey, hx]
  | true => simp [usedKeys, usedKey, hx]

theorem mem_usedKeys {k : κ} {xs : List α} :
    k ∈ usedKeys used key xs ↔ exists x, x ∈ xs ∧ used x = true ∧ key x = k := by
  simp [usedKeys, and_assoc]

theorem usedKeys_eq_nil {xs : List α} (h : forall x, x ∈ xs -> used x = false) :
    usedKeys used key xs = [] := by
  simp [usedKeys, List.filter_eq_nil_iff.mpr (by simpa using h)]

theorem usedKeys_set {xs : List α} {i : Nat} (x : α) (hi : i < xs.length) :
    (usedKeys used key (xs.set i x)).Perm
      (usedKey used key x ++ usedKeys used key (xs.eraseIdx i)) := by
  rw [List.set_eq_take_append_cons_drop, if_pos hi, List.eraseIdx_eq_take_drop_succ,
    usedKeys_append, usedKeys_append, usedKeys_cons]
  exact List.perm_append_comm_assoc _ _ _

theorem usedKeys_get {xs : List α} {i : Nat} {x : α} (h : xs[i]? = some x) :
    (usedKeys used key xs).Perm
      (usedKey used key x ++ usedKeys used key (xs.eraseIdx i)) := by
  rcases List.getElem?_eq_some_iff.mp h with ⟨hi, hx⟩
  have hset : xs.set i x = xs := by
    rw [← hx]
    exact List.set_getElem_self hi
  have hperm : (usedKeys used key (xs.set i x)).Perm _ := usedKeys_set x hi
  rw [hset] at hperm
  exact hperm

end

end Library
end BnsKorea
