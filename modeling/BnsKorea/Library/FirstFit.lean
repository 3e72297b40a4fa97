import Mathlib.Data.List.Perm.Subperm
import Mathlib.Data.List.Count
import Mathlib.Data.List.FinRange

/-!
# First-fit filling of slots

A row of slots is filled from a row of candidates: each slot in turn takes the
first candidate left that fits it, and the filling fails at the first slot
nobody left fits.  The module says what a filling is made of, how it depends on
the candidates, and when the greedy choice finds a filling whenever there is
one.
-/

namespace BnsKorea
namespace Library
namespace FirstFit

universe u v w

variable {slot : Type u} {α : Type v} {fits : slot -> α -> Bool}

def fill (fits : slot -> α -> Bool) : List slot -> List α -> Option (List α)
  | [], _ => some []
  | k :: slots, xs =>
      match xs.find? (fits k) with
      | none => none
      | some x => (fill fits slots (xs.eraseP (fits k))).map (x :: ·)

@[simp] theorem fill_nil (xs : List α) : fill fits [] xs = some [] :=
  rfl

/-!
## What a filling is made of
-/

private theorem eraseP_append_cons {p : α -> Bool} {pre post : List α} {x : α}
    (hpre : forall y, y ∈ pre -> p y = false) (hx : p x = true) :
    (pre ++ x :: post).eraseP p = pre ++ post := by
  rw [List.eraseP_append_right _ (by simpa using hpre)]
  simp [hx]

private theorem find?_append_cons {p : α -> Bool} {pre post : List α} {x : α}
    (hpre : forall y, y ∈ pre -> p y = false) (hx : p x = true) :
    (pre ++ x :: post).find? p = some x := by
  rw [List.find?_append, List.find?_eq_none.mpr (by simpa using hpre)]
  simp [hx]

theorem fill_cons_of_split {k : slot} {slots : List slot}
    {pre post : List α} {x : α}
    (hpre : forall y, y ∈ pre -> fits k y = false) (hx : fits k x = true) :
    fill fits (k :: slots) (pre ++ x :: post) =
      (fill fits slots (pre ++ post)).map (x :: ·) := by
  rw [fill, find?_append_cons hpre hx, eraseP_append_cons hpre hx]

theorem fill_cons_eq_some {k : slot} {slots : List slot} {xs vs : List α}
    (h : fill fits (k :: slots) xs = some vs) :
    exists pre x post ws, xs = pre ++ x :: post ∧
      (forall y, y ∈ pre -> fits k y = false) ∧ fits k x = true ∧
      fill fits slots (pre ++ post) = some ws ∧ vs = x :: ws := by
  cases hfind : xs.find? (fits k) with
  | none =>
      rw [fill, hfind] at h
      cases h
  | some x =>
      rcases List.find?_eq_some_iff_append.mp hfind with
        ⟨hx, pre, post, hxs, hpre⟩
      have hpre' : forall y, y ∈ pre -> fits k y = false := by
        simpa using hpre
      rw [hxs, fill_cons_of_split hpre' hx] at h
      rcases Option.map_eq_some_iff.mp h with ⟨ws, hws, hvs⟩
      exact ⟨pre, x, post, ws, hxs, hpre', hx, hws, hvs.symm⟩

theorem fill_forall₂ {slots : List slot} {xs vs : List α}
    (h : fill fits slots xs = some vs) :
    List.Forall₂ (fun k x => fits k x = true) slots vs := by
  induction slots generalizing xs vs with
  | nil =>
      cases h
      exact List.Forall₂.nil
  | cons k slots ih =>
      rcases fill_cons_eq_some h with
        ⟨pre, x, post, ws, _, _, hx, hws, hvs⟩
      rw [hvs]
      exact List.Forall₂.cons hx (ih hws)

theorem fill_length {slots : List slot} {xs vs : List α}
    (h : fill fits slots xs = some vs) : vs.length = slots.length :=
  (fill_forall₂ h).length_eq.symm

theorem fill_ne_nil {slots : List slot} {xs vs : List α}
    (hslots : slots ≠ []) (h : fill fits slots xs = some vs) : vs ≠ [] := by
  intro hvs
  have hlength := fill_length h
  rw [hvs, List.length_nil] at hlength
  exact hslots (List.length_eq_zero_iff.mp hlength.symm)

theorem fill_subperm {slots : List slot} {xs vs : List α}
    (h : fill fits slots xs = some vs) : vs.Subperm xs := by
  induction slots generalizing xs vs with
  | nil =>
      cases h
      exact List.nil_subperm
  | cons k slots ih =>
      rcases fill_cons_eq_some h with
        ⟨pre, x, post, ws, hxs, _, _, hws, hvs⟩
      rw [hvs, hxs]
      have hmiddle : (x :: (pre ++ post)).Perm (pre ++ x :: post) :=
        List.perm_middle.symm
      exact ((List.subperm_cons x).mpr (ih hws)).trans hmiddle.subperm

theorem fill_subset {slots : List slot} {xs vs : List α}
    (h : fill fits slots xs = some vs) {x : α} (hx : x ∈ vs) : x ∈ xs :=
  (fill_subperm h).subset hx

/-!
## Fewer candidates

Candidates the filling does not use may be taken away, and candidates may be
added, without losing a filling.
-/

/-- A filling inside `q` is also the filling of the candidates inside `q`. -/
theorem fill_filter {slots : List slot} {xs vs : List α} {q : α -> Bool}
    (h : fill fits slots xs = some vs)
    (hq : forall x, x ∈ vs -> q x = true) :
    fill fits slots (xs.filter q) = some vs := by
  induction slots generalizing xs vs with
  | nil => simpa using h
  | cons k slots ih =>
      rcases fill_cons_eq_some h with
        ⟨pre, x, post, ws, hxs, hpre, hx, hws, hvs⟩
      rw [hvs] at hq
      have hqx : q x = true := hq x (by simp)
      have hrest := ih hws (fun y hy => hq y (by simp [hy]))
      have hpre' : forall y, y ∈ pre.filter q -> fits k y = false := by
        intro y hy
        exact hpre y (List.mem_filter.mp hy).left
      rw [hxs, List.filter_append, List.filter_cons_of_pos hqx,
        fill_cons_of_split hpre' hx, ← List.filter_append, hrest, hvs]
      rfl

theorem fill_isSome_of_sublist {slots : List slot} {xs ys : List α}
    (hsub : ys.Sublist xs) (h : (fill fits slots ys).isSome) :
    (fill fits slots xs).isSome := by
  induction slots generalizing xs ys with
  | nil => rfl
  | cons k slots ih =>
      rcases Option.isSome_iff_exists.mp h with ⟨vs, hvs⟩
      rcases fill_cons_eq_some hvs with
        ⟨pre, y, post, ws, hys, hpre, hy, hws, _⟩
      have hyxs : y ∈ xs := hsub.subset (by simp [hys])
      have herased : ys.eraseP (fits k) = pre ++ post := by
        rw [hys, eraseP_append_cons hpre hy]
      have hrest : (fill fits slots (xs.eraseP (fits k))).isSome := by
        apply ih hsub.eraseP
        rw [herased, hws]
        rfl
      cases hfind : xs.find? (fits k) with
      | none =>
          have hnone := List.find?_eq_none.mp hfind y hyxs
          exact absurd hy hnone
      | some x => simpa [fill, hfind] using hrest

theorem fill_eq_none_of_sublist {slots : List slot} {xs ys : List α}
    (hsub : ys.Sublist xs) (h : fill fits slots xs = none) :
    fill fits slots ys = none := by
  cases hys : fill fits slots ys with
  | none => rfl
  | some vs =>
      have hsome := fill_isSome_of_sublist hsub (by rw [hys]; rfl)
      rw [h] at hsome
      cases hsome

theorem fill_eq_none_of_length_lt {slots : List slot} {xs : List α}
    (h : xs.length < slots.length) : fill fits slots xs = none := by
  cases hxs : fill fits slots xs with
  | none => rfl
  | some vs =>
      have hle := (fill_subperm hxs).length_le
      rw [fill_length hxs] at hle
      omega

/-!
## When the greedy choice is complete

Slots ask for a class, or are wild and take anybody.  If every slot that asks
for a class comes before the wild ones, a candidate taken by a slot of its own
class is never missed later, and the greedy filling fails only when no
assignment exists.
-/

section Classes

variable {κ : Type u} [DecidableEq κ] (wild : κ) (classOf : α -> κ)

def fitsClass (k : κ) (x : α) : Bool :=
  k == wild || classOf x == k

/-- No slot that asks for a class stands behind a wild one. -/
def SpecificFirst : List κ -> Prop
  | [] => True
  | k :: slots => (k = wild -> forall j, j ∈ slots -> j = wild) ∧
      SpecificFirst slots

/-- An assignment: pairwise different candidates, one fitting each slot. -/
def Assignable (slots : List κ) (xs : List α) : Prop :=
  exists vs : List α, vs.Subperm xs ∧
    List.Forall₂ (fun k x => fitsClass wild classOf k x = true) slots vs

/-- Enough candidates, and enough of each class that is asked for. -/
def Enough (slots : List κ) (xs : List α) : Prop :=
  slots.length ≤ xs.length ∧
    forall k, k ≠ wild ->
      slots.count k ≤ xs.countP (fun x => decide (classOf x = k))

variable {wild classOf}

@[simp] theorem fitsClass_wild (x : α) :
    fitsClass wild classOf wild x = true := by
  simp [fitsClass]

theorem fitsClass_of_ne {k : κ} (hk : k ≠ wild) (x : α) :
    fitsClass wild classOf k x = true ↔ classOf x = k := by
  simp [fitsClass, hk]

private theorem count_le_countP_of_forall₂ {slots : List κ} {vs : List α}
    (h : List.Forall₂ (fun k x => fitsClass wild classOf k x = true) slots vs)
    {k : κ} (hk : k ≠ wild) :
    slots.count k ≤ vs.countP (fun x => decide (classOf x = k)) := by
  induction h with
  | nil => simp
  | @cons j x slots vs hjx _ ih =>
      by_cases hj : j = k
      · have hx : classOf x = k := by
          rw [hj] at hjx
          exact (fitsClass_of_ne hk x).mp hjx
        simp [hj, hx, ih]
      · rw [List.count_cons_of_ne hj]
        refine Nat.le_trans ih ?_
        rw [List.countP_cons]
        exact Nat.le_add_right _ _

theorem Assignable.enough {slots : List κ} {xs : List α}
    (h : Assignable wild classOf slots xs) : Enough wild classOf slots xs := by
  rcases h with ⟨vs, hsub, hfits⟩
  constructor
  · rw [hfits.length_eq]
    exact hsub.length_le
  · intro k hk
    exact Nat.le_trans (count_le_countP_of_forall₂ hfits hk)
      (hsub.countP_le _)

private theorem enough_tail_of_specific {k : κ} {slots : List κ}
    {pre post : List α} {x : α} (hx : classOf x = k)
    (h : Enough wild classOf (k :: slots) (pre ++ x :: post)) :
    Enough wild classOf slots (pre ++ post) := by
  rcases h with ⟨hlength, hcount⟩
  constructor
  · simp only [List.length_cons, List.length_append] at hlength ⊢
    omega
  · intro j hj
    have hj' := hcount j hj
    rw [List.countP_append, List.countP_cons] at hj'
    rw [List.countP_append]
    by_cases hkj : k = j
    · simp only [hkj, List.count_cons_self, hx] at hj'
      simp at hj'
      omega
    · rw [List.count_cons_of_ne hkj] at hj'
      simp only [hx, hkj] at hj'
      simpa using hj'

theorem fill_isSome_of_enough {slots : List κ} {xs : List α}
    (hfirst : SpecificFirst wild slots)
    (h : Enough wild classOf slots xs) :
    (fill (fitsClass wild classOf) slots xs).isSome := by
  induction slots generalizing xs with
  | nil => rfl
  | cons k slots ih =>
      have hexists : exists x, x ∈ xs ∧ fitsClass wild classOf k x = true := by
        by_cases hk : k = wild
        · have hpos : 0 < xs.length := by
            have hlength := h.left
            simp only [List.length_cons] at hlength
            omega
          rcases List.exists_mem_of_length_pos hpos with ⟨x, hx⟩
          exact ⟨x, hx, by simp [hk]⟩
        · have hcount := h.right k hk
          rw [List.count_cons_self] at hcount
          rcases List.countP_pos_iff.mp
            (Nat.lt_of_lt_of_le (Nat.succ_pos _) hcount) with ⟨x, hx, hclass⟩
          exact ⟨x, hx, (fitsClass_of_ne hk x).mpr (by simpa using hclass)⟩
      rcases hexists with ⟨y, hy, hyfits⟩
      cases hfind : xs.find? (fitsClass wild classOf k) with
      | none => exact absurd hyfits (List.find?_eq_none.mp hfind y hy)
      | some x =>
          rcases List.find?_eq_some_iff_append.mp hfind with
            ⟨hx, pre, post, hxs, hpre⟩
          have hpre' : forall y, y ∈ pre ->
              fitsClass wild classOf k y = false := by
            simpa using hpre
          have htail : Enough wild classOf slots (pre ++ post) := by
            rw [hxs] at h
            by_cases hk : k = wild
            · -- the slots behind a wild slot ask for no class
              have hwild := hfirst.left hk
              constructor
              · have hlength := h.left
                simp only [List.length_cons, List.length_append] at hlength ⊢
                omega
              · intro j hj
                have hzero : slots.count j = 0 := by
                  rw [List.count_eq_zero]
                  intro hmem
                  exact hj (hwild j hmem)
                omega
            · exact enough_tail_of_specific
                ((fitsClass_of_ne hk x).mp hx) h
          rw [hxs, fill_cons_of_split hpre' hx, Option.isSome_map]
          exact ih hfirst.right htail

theorem fill_map {β : Type w} (f : β -> α) (slots : List slot) (ys : List β) :
    fill fits slots (ys.map f) =
      (fill (fun k y => fits k (f y)) slots ys).map (List.map f) := by
  induction slots generalizing ys with
  | nil => rfl
  | cons k slots ih =>
      rw [fill, fill, List.find?_map, List.eraseP_map]
      show (match Option.map f (ys.find? fun y => fits k (f y)) with
        | none => none
        | some x => (fill fits slots
            ((ys.eraseP fun y => fits k (f y)).map f)).map (x :: ·)) = _
      cases ys.find? fun y => fits k (f y) with
      | none => rfl
      | some y =>
          show ((fill fits slots _).map (f y :: ·)) = _
          rw [ih, Option.map_map]
          show _ = Option.map (List.map f) (Option.map (y :: ·) _)
          rw [Option.map_map]
          rfl

theorem fill_isSome_iff_assignable {slots : List κ} {xs : List α}
    (hfirst : SpecificFirst wild slots) :
    (fill (fitsClass wild classOf) slots xs).isSome ↔
      Assignable wild classOf slots xs := by
  constructor
  · intro h
    rcases Option.isSome_iff_exists.mp h with ⟨vs, hvs⟩
    exact ⟨vs, fill_subperm hvs, fill_forall₂ hvs⟩
  · intro h
    exact fill_isSome_of_enough hfirst h.enough

theorem fill_isSome_iff_seats {slots : List κ} {xs : List α}
    (hfirst : SpecificFirst wild slots) :
    (fill (fitsClass wild classOf) slots xs).isSome ↔
      exists seat : Fin slots.length -> Fin xs.length, Function.Injective seat ∧
        forall i, slots.get i ≠ wild ->
          classOf (xs.get (seat i)) = slots.get i := by
  have hxs : (List.finRange xs.length).map xs.get = xs := List.map_get_finRange xs
  have hplaces : (fill (fitsClass wild classOf) slots xs).isSome =
      (fill (fitsClass wild fun i => classOf (xs.get i)) slots
        (List.finRange xs.length)).isSome := by
    have hmap : fill (fitsClass wild classOf) slots
        ((List.finRange xs.length).map xs.get) =
        (fill (fun k i => fitsClass wild classOf k (xs.get i)) slots
          (List.finRange xs.length)).map (List.map xs.get) :=
      fill_map xs.get slots _
    rw [hxs] at hmap
    rw [hmap, Option.isSome_map]
    rfl
  rw [hplaces, fill_isSome_iff_assignable hfirst]
  constructor
  · intro h
    rcases h with ⟨places, hsub, hfits⟩
    rcases List.forall₂_iff_get.mp hfits with ⟨hlength, hget⟩
    have hnodup : places.Nodup := by
      rcases hsub with ⟨places', hperm, hsublist⟩
      exact hperm.nodup ((List.nodup_finRange xs.length).sublist hsublist)
    refine ⟨fun i => places.get (Fin.cast hlength i), ?_, ?_⟩
    · intro i j hij
      exact Fin.cast_injective hlength
        (List.nodup_iff_injective_get.mp hnodup hij)
    · intro i hi
      exact (fitsClass_of_ne hi _).mp (hget i.val i.isLt (hlength ▸ i.isLt))
  · intro h
    rcases h with ⟨seat, hseat, hclass⟩
    refine ⟨List.ofFn seat, List.subperm_of_subset ?_ ?_, ?_⟩
    · exact List.nodup_ofFn.mpr hseat
    · intro i _
      exact List.mem_finRange i
    · rw [List.forall₂_iff_get]
      refine ⟨List.length_ofFn.symm, ?_⟩
      intro i hi hi'
      rw [List.get_ofFn]
      cases Decidable.em (slots.get ⟨i, hi⟩ = wild) with
      | inl hwild =>
          rw [hwild]
          exact fitsClass_wild _
      | inr hne => exact (fitsClass_of_ne hne _).mpr (hclass ⟨i, hi⟩ hne)

end Classes

end FirstFit
end Library
end BnsKorea
