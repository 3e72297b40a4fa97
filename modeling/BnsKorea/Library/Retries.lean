import Mathlib.Data.List.Basic

/-!
# Trying again

A program that tries until an attempt has a result, or until nobody lets it try
any more.  The attempts are given by what they meet from outside, and share a
state: what one of them leaves behind, the next one finds.
-/

namespace BnsKorea
namespace Library
namespace Retries

universe u v w

variable {α : Type u} {σ : Type v} {β : Type w} {attempt : α -> σ -> σ × Option β}

/-- Attempt after attempt; the result is that of the first that has one. -/
def retry (attempt : α -> σ -> σ × Option β) : List α -> σ -> σ × Option β
  | [], s => (s, none)
  | a :: as, s =>
      match attempt a s with
      | (t, some b) => (t, some b)
      | (t, none) => retry attempt as t

theorem retry_cons_of_some {a : α} {s t : σ} {b : β}
    (h : attempt a s = (t, some b)) (as : List α) :
    retry attempt (a :: as) s = (t, some b) := by
  rw [retry, h]

theorem retry_cons_of_none {a : α} {s t : σ} (h : attempt a s = (t, none))
    (as : List α) : retry attempt (a :: as) s = retry attempt as t := by
  rw [retry, h]

theorem retry_cons_eq_none {a : α} {as : List α} {s t : σ}
    (h : retry attempt (a :: as) s = (t, none)) :
    exists next, attempt a s = (next, none) ∧
      retry attempt as next = (t, none) := by
  cases hattempt : attempt a s with
  | mk next result =>
      cases result with
      | none => exact ⟨next, rfl, by rwa [retry_cons_of_none hattempt] at h⟩
      | some b =>
          rw [retry_cons_of_some hattempt] at h
          cases h

theorem retry_append {pre : List α} {s t : σ}
    (h : retry attempt pre s = (t, none)) (as : List α) :
    retry attempt (pre ++ as) s = retry attempt as t := by
  induction pre generalizing s with
  | nil =>
      cases h
      rfl
  | cons a pre ih =>
      rcases retry_cons_eq_none h with ⟨next, hattempt, hpre⟩
      rw [List.cons_append, retry_cons_of_none hattempt]
      exact ih hpre

theorem exists_of_retry {as : List α} {s t : σ} {b : β}
    (h : retry attempt as s = (t, some b)) :
    exists pre a post next, as = pre ++ a :: post ∧
      retry attempt pre s = (next, none) ∧ attempt a next = (t, some b) := by
  induction as generalizing s with
  | nil => cases h
  | cons a as ih =>
      cases hattempt : attempt a s with
      | mk next result =>
          cases result with
          | none =>
              rw [retry_cons_of_none hattempt] at h
              rcases ih h with ⟨pre, c, post, last, has, hpre, hc⟩
              refine ⟨a :: pre, c, post, last, ?_, ?_, hc⟩
              · rw [has, List.cons_append]
              · rw [retry_cons_of_none hattempt, hpre]
          | some b =>
              rw [retry_cons_of_some hattempt] at h
              exact ⟨[], a, as, s, rfl, rfl, hattempt.trans h⟩

theorem retry_keeps (Inv : σ -> Prop) {as : List α} {s t : σ}
    (hkeeps : forall a s t, a ∈ as -> Inv s -> attempt a s = (t, none) -> Inv t)
    (hs : Inv s) (h : retry attempt as s = (t, none)) : Inv t := by
  induction as generalizing s with
  | nil =>
      cases h
      exact hs
  | cons a as ih =>
      rcases retry_cons_eq_none h with ⟨next, hattempt, hrest⟩
      have hnext := hkeeps a s next List.mem_cons_self hs hattempt
      exact ih (fun c s t hc => hkeeps c s t (List.mem_cons_of_mem a hc)) hnext hrest

theorem exists_none_of_retry {as : List α} {s t : σ}
    (h : retry attempt as s = (t, none)) {a : α} (ha : a ∈ as) :
    exists u, (attempt a u).2 = none := by
  induction as generalizing s with
  | nil => cases ha
  | cons c as ih =>
      rcases retry_cons_eq_none h with ⟨next, hattempt, hrest⟩
      rcases List.mem_cons.mp ha with hhead | htail
      · exact ⟨s, by rw [hhead, hattempt]⟩
      · exact ih hrest htail

theorem retry_of_forall_none {as : List α}
    (hnone : forall a s, a ∈ as -> (attempt a s).2 = none) (s : σ) :
    exists t, retry attempt as s = (t, none) := by
  induction as generalizing s with
  | nil => exact ⟨s, rfl⟩
  | cons a as ih =>
      have hattempt : attempt a s = ((attempt a s).1, none) :=
        Prod.ext rfl (hnone a s List.mem_cons_self)
      rw [retry_cons_of_none hattempt]
      exact ih (fun c s hc => hnone c s (List.mem_cons_of_mem a hc)) _

end Retries
end Library
end BnsKorea
