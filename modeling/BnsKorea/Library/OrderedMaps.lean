import Mathlib.Data.List.Sort
import Mathlib.Logic.Function.Iterate

/-!
# Ordered maps and sets by their contents

The ordered maps of the standard library, read through lookups.  The lemmas
restate the library's facts for a comparison that decides equality, and add what
a loop over the entries of a map needs: entries come in key order, so a smaller
map has a sublist of the entries.
-/

namespace BnsKorea
namespace Library
namespace OrderedMaps

universe u v w

variable {κ : Type u} {ν : Type v} {α : Type w} [Ord κ] [Std.TransOrd κ]
  [Std.LawfulEqOrd κ]

/-!
## Single operations
-/

theorem getElem?_insert (m : Std.TreeMap κ ν) (k a : κ) (v : ν)
    [Decidable (k = a)] :
    (m.insert k v)[a]? = if k = a then some v else m[a]? := by
  rw [Std.TreeMap.getElem?_insert]
  simp only [Std.compare_eq_iff_eq]

@[simp] theorem getElem?_insert_self (m : Std.TreeMap κ ν) (k : κ) (v : ν) :
    (m.insert k v)[k]? = some v := by
  simp

theorem getElem?_insert_of_ne (m : Std.TreeMap κ ν) {k a : κ} (v : ν)
    (h : k ≠ a) : (m.insert k v)[a]? = m[a]? := by
  rw [Std.TreeMap.getElem?_insert, if_neg]
  rwa [Std.compare_eq_iff_eq]

theorem getElem?_insertIfNew_of_ne (m : Std.TreeMap κ ν) {k a : κ} (v : ν)
    (h : k ≠ a) : (m.insertIfNew k v)[a]? = m[a]? := by
  rw [Std.TreeMap.getElem?_insertIfNew, if_neg]
  intro hk
  exact h (Std.compare_eq_iff_eq.mp hk.left)

theorem getElem?_insertIfNew_of_none {m : Std.TreeMap κ ν} {k : κ} (v : ν)
    (h : m[k]? = none) : (m.insertIfNew k v)[k]? = some v := by
  rw [Std.TreeMap.getElem?_insertIfNew, if_pos]
  refine ⟨Std.compare_eq_iff_eq.mpr rfl, ?_⟩
  intro hk
  rw [Std.TreeMap.mem_iff_isSome_getElem?, h] at hk
  cases hk

omit [Std.LawfulEqOrd κ] in
theorem getElem?_insertIfNew_of_some {m : Std.TreeMap κ ν} {k : κ} {old : ν}
    (v : ν) (h : m[k]? = some old) (a : κ) :
    (m.insertIfNew k v)[a]? = m[a]? := by
  rw [Std.TreeMap.getElem?_insertIfNew, if_neg]
  intro hk
  exact hk.right (Std.TreeMap.mem_iff_isSome_getElem?.mpr (by rw [h]; rfl))

theorem getElem?_erase (m : Std.TreeMap κ ν) (k a : κ) [Decidable (k = a)] :
    (m.erase k)[a]? = if k = a then none else m[a]? := by
  rw [Std.TreeMap.getElem?_erase]
  simp only [Std.compare_eq_iff_eq]

theorem mem_set_insert {t : Std.TreeSet κ} {k a : κ} :
    a ∈ t.insert k ↔ k = a ∨ a ∈ t := by
  rw [Std.TreeSet.mem_insert, Std.compare_eq_iff_eq]

theorem mem_set_erase {t : Std.TreeSet κ} {k a : κ} :
    a ∈ t.erase k ↔ k ≠ a ∧ a ∈ t := by
  rw [Std.TreeSet.mem_erase, ne_eq, Std.compare_eq_iff_eq]

/-!
## Loops of operations
-/

theorem getElem?_foldl_erase_of_mem (key : α -> κ) {xs : List α} {x : α}
    (hx : x ∈ xs) (m : Std.TreeMap κ ν) :
    (xs.foldl (fun m x => m.erase (key x)) m)[key x]? = none := by
  classical
  have hstays : forall (ys : List α) (m : Std.TreeMap κ ν),
      m[key x]? = none ->
      (ys.foldl (fun m x => m.erase (key x)) m)[key x]? = none := by
    intro ys
    induction ys with
    | nil => exact fun m hm => hm
    | cons y ys ih =>
        intro m hm
        apply ih
        rw [getElem?_erase, hm]
        exact ite_self none
  induction xs generalizing m with
  | nil => cases hx
  | cons y ys ih =>
      rcases List.mem_cons.mp hx with hxy | hx
      · refine hstays ys (m.erase (key y)) ?_
        rw [hxy, getElem?_erase, if_pos rfl]
      · exact ih hx (m.erase (key y))

theorem getElem?_foldl_erase_of_forall_ne (key : α -> κ) {xs : List α} {a : κ}
    (ha : forall x, x ∈ xs -> key x ≠ a) (m : Std.TreeMap κ ν) :
    (xs.foldl (fun m x => m.erase (key x)) m)[a]? = m[a]? := by
  classical
  induction xs generalizing m with
  | nil => rfl
  | cons y ys ih =>
      rw [List.foldl_cons, ih (fun x hx => ha x (by simp [hx])),
        getElem?_erase, if_neg (ha y (by simp))]

theorem mem_set_foldl_erase (key : α -> κ) {xs : List α} {a : κ}
    {t : Std.TreeSet κ} :
    a ∈ xs.foldl (fun t x => t.erase (key x)) t ↔
      a ∈ t ∧ forall x, x ∈ xs -> key x ≠ a := by
  induction xs generalizing t with
  | nil => simp
  | cons y ys ih =>
      rw [List.foldl_cons, ih, mem_set_erase]
      simp only [List.mem_cons, forall_eq_or_imp]
      tauto

theorem mem_set_foldl_insert {xs : List κ} {a : κ} {t : Std.TreeSet κ} :
    a ∈ xs.foldl (fun t x => if t.contains x then t else t.insert x) t ↔
      a ∈ t ∨ a ∈ xs := by
  induction xs generalizing t with
  | nil => simp
  | cons y ys ih =>
      rw [List.foldl_cons, ih, List.mem_cons]
      by_cases hy : t.contains y = true
      · have hmem : y ∈ t := Std.TreeSet.mem_iff_contains.mpr hy
        rw [if_pos hy]
        constructor
        · intro hor
          rcases hor with h | h
          · exact Or.inl h
          · exact Or.inr (Or.inr h)
        · intro hor
          rcases hor with h | h | h
          · exact Or.inl h
          · exact Or.inl (h ▸ hmem)
          · exact Or.inr h
      · rw [if_neg hy, mem_set_insert, eq_comm]
        tauto

/-!
## Entries in key order
-/

theorem mem_toList_iff {m : Std.TreeMap κ ν} {k : κ} {v : ν} :
    (k, v) ∈ m.toList ↔ m[k]? = some v :=
  Std.TreeMap.mem_toList_iff_getElem?_eq_some

theorem toList_keys_nodup (m : Std.TreeMap κ ν) :
    (m.toList.map Prod.fst).Nodup := by
  rw [List.Nodup, List.pairwise_map]
  refine List.Pairwise.imp ?_ (Std.TreeMap.distinct_keys_toList (t := m))
  intro a b hab heq
  exact hab (Std.compare_eq_iff_eq.mpr heq)

private theorem sublist_of_subset_of_pairwise_lt {xs ys : List (κ × ν)}
    (hxs : xs.Pairwise fun a b => compare a.1 b.1 = Ordering.lt)
    (hys : ys.Pairwise fun a b => compare a.1 b.1 = Ordering.lt)
    (hsub : xs ⊆ ys) : xs.Sublist ys := by
  have hirrefl : forall a : κ × ν, ¬ compare a.1 a.1 = Ordering.lt := by
    intro a h
    rw [Std.compare_eq_iff_eq.mpr rfl] at h
    cases h
  have hantisymm : Std.Antisymm
      (fun a b : κ × ν => compare a.1 b.1 = Ordering.lt) := by
    constructor
    intro a b hab hba
    exact absurd (Std.TransCmp.lt_trans hab hba) (hirrefl a)
  have hnodup : xs.Nodup := by
    refine List.Pairwise.imp ?_ hxs
    intro a b hab heq
    rw [heq] at hab
    exact hirrefl b hab
  exact List.sublist_of_subperm_of_pairwise
    (List.subperm_of_subset hnodup hsub) hxs hys

/--
If every entry of `m'` inside `p'` is an entry of `m` inside `p`, the entries
come in the same order.
-/
theorem toList_filter_sublist {m m' : Std.TreeMap κ ν} {p p' : κ × ν -> Bool}
    (h : forall k v, m'[k]? = some v -> p' (k, v) = true ->
      m[k]? = some v ∧ p (k, v) = true) :
    (m'.toList.filter p').Sublist (m.toList.filter p) := by
  have hsorted : forall (m : Std.TreeMap κ ν) (p : κ × ν -> Bool),
      (m.toList.filter p).Pairwise
        fun a b => compare a.1 b.1 = Ordering.lt := by
    intro m p
    exact Std.TreeMap.ordered_keys_toList.sublist List.filter_sublist
  apply sublist_of_subset_of_pairwise_lt (hsorted m' p') (hsorted m p)
  intro entry hentry
  rcases entry with ⟨k, v⟩
  rcases List.mem_filter.mp hentry with ⟨hmem, hp'⟩
  rcases h k v (mem_toList_iff.mp hmem) hp' with ⟨hget, hp⟩
  exact List.mem_filter.mpr ⟨mem_toList_iff.mpr hget, hp⟩

/-- Maps that agree inside `p` have the same entries there, in the same order. -/
theorem toList_filter_eq {m m' : Std.TreeMap κ ν} {p : κ × ν -> Bool}
    (h : forall k v, p (k, v) = true -> (m[k]? = some v ↔ m'[k]? = some v)) :
    m.toList.filter p = m'.toList.filter p := by
  apply List.Sublist.antisymm
  · exact toList_filter_sublist fun k v hget hp => ⟨(h k v hp).mp hget, hp⟩
  · exact toList_filter_sublist fun k v hget hp => ⟨(h k v hp).mpr hget, hp⟩

theorem toList_insert_of_split {m : Std.TreeMap κ ν} {k : κ} {old : ν} (v : ν)
    {pre post : List (κ × ν)}
    (hlist : m.toList = pre ++ (k, old) :: post) :
    (m.insert k v).toList = pre ++ (k, v) :: post := by
  classical
  have hsorted : (pre ++ (k, old) :: post).Pairwise
      fun a b => compare a.1 b.1 = Ordering.lt :=
    hlist ▸ Std.TreeMap.ordered_keys_toList
  have hsorted' : (pre ++ (k, v) :: post).Pairwise
      fun a b => compare a.1 b.1 = Ordering.lt := by
    rw [List.pairwise_append, List.pairwise_cons] at hsorted ⊢
    rcases hsorted with ⟨hpre, ⟨hk, hpost⟩, hcross⟩
    refine ⟨hpre, ⟨hk, hpost⟩, ?_⟩
    intro a ha b hb
    rcases List.mem_cons.mp hb with hb | hb
    · rw [hb]
      exact hcross a ha (k, old) List.mem_cons_self
    · exact hcross a ha b (List.mem_cons_of_mem _ hb)
  have hkeys : forall entry : κ × ν, entry ∈ pre ∨ entry ∈ post ->
      entry.1 ≠ k := by
    rw [List.pairwise_append, List.pairwise_cons] at hsorted
    rcases hsorted with ⟨_, ⟨hk, _⟩, hcross⟩
    intro entry hentry heq
    rcases hentry with hpre | hpost
    · have hlt := hcross entry hpre (k, old) List.mem_cons_self
      rw [heq, Std.compare_eq_iff_eq.mpr rfl] at hlt
      cases hlt
    · have hlt := hk entry hpost
      rw [heq, Std.compare_eq_iff_eq.mpr rfl] at hlt
      cases hlt
  have hmem : forall entry : κ × ν, entry ∈ (m.insert k v).toList ↔
      entry ∈ pre ++ (k, v) :: post := by
    intro entry
    rcases entry with ⟨a, w⟩
    rw [mem_toList_iff, getElem?_insert, List.mem_append, List.mem_cons]
    cases Decidable.em (k = a) with
    | inl hk =>
        rw [if_pos hk, ← hk]
        have hpre : (k, w) ∉ pre := fun hin => hkeys (k, w) (Or.inl hin) rfl
        have hpost : (k, w) ∉ post := fun hin => hkeys (k, w) (Or.inr hin) rfl
        simp [hpre, hpost, eq_comm]
    | inr hk =>
        rw [if_neg hk, ← mem_toList_iff, hlist, List.mem_append, List.mem_cons]
        have hold : (a, w) ≠ (k, old) := fun heq => hk (congrArg Prod.fst heq).symm
        have hnew : (a, w) ≠ (k, v) := fun heq => hk (congrArg Prod.fst heq).symm
        simp [hold, hnew]
  exact List.Sublist.antisymm
    (sublist_of_subset_of_pairwise_lt Std.TreeMap.ordered_keys_toList hsorted'
      fun entry hentry => (hmem entry).mp hentry)
    (sublist_of_subset_of_pairwise_lt hsorted' Std.TreeMap.ordered_keys_toList
      fun entry hentry => (hmem entry).mpr hentry)

/-!
## Loops over the entries
-/

section

variable (turn : Std.TreeMap κ ν -> κ × ν -> Std.TreeMap κ ν)
  (f : κ -> ν -> Option ν)

omit [Std.TransOrd κ] [Std.LawfulEqOrd κ] in
private theorem getElem?_foldl_others
    (hothers : forall m entry a, entry.1 ≠ a -> (turn m entry)[a]? = m[a]?)
    {entries : List (κ × ν)} {a : κ}
    (ha : forall entry, entry ∈ entries -> entry.1 ≠ a)
    (m : Std.TreeMap κ ν) : (entries.foldl turn m)[a]? = m[a]? := by
  induction entries generalizing m with
  | nil => rfl
  | cons entry entries ih =>
      rw [List.foldl_cons, ih (fun e he => ha e (List.mem_cons_of_mem entry he)),
        hothers m entry a (ha entry List.mem_cons_self)]

omit [Std.TransOrd κ] [Std.LawfulEqOrd κ] in
private theorem getElem?_foldl_own_of_mem
    (hown : forall m entry, (turn m entry)[entry.1]? = f entry.1 entry.2)
    (hothers : forall m entry a, entry.1 ≠ a -> (turn m entry)[a]? = m[a]?)
    {entries : List (κ × ν)} (hnodup : (entries.map Prod.fst).Nodup) {a : κ}
    {v : ν} (hmem : (a, v) ∈ entries) (m : Std.TreeMap κ ν) :
    (entries.foldl turn m)[a]? = f a v := by
  induction entries generalizing m with
  | nil => cases hmem
  | cons entry entries ih =>
      rw [List.map_cons, List.nodup_cons] at hnodup
      rw [List.foldl_cons]
      rcases List.mem_cons.mp hmem with hentry | hmem
      · rw [← hentry] at hnodup ⊢
        have hlater : forall later, later ∈ entries -> later.1 ≠ a := by
          intro later hlater heq
          exact hnodup.left (List.mem_map.mpr ⟨later, hlater, heq⟩)
        rw [getElem?_foldl_others turn hothers hlater]
        exact hown m (a, v)
      · exact ih hnodup.right hmem _

theorem getElem?_foldl_own
    (hown : forall m entry, (turn m entry)[entry.1]? = f entry.1 entry.2)
    (hothers : forall m entry a, entry.1 ≠ a -> (turn m entry)[a]? = m[a]?)
    (m : Std.TreeMap κ ν) (a : κ) :
    (m.toList.foldl turn m)[a]? = m[a]?.bind (f a) := by
  cases hv : m[a]? with
  | some v =>
      exact getElem?_foldl_own_of_mem turn f hown hothers
        (toList_keys_nodup m) (mem_toList_iff.mpr hv) m
  | none =>
      have hkey : forall entry, entry ∈ m.toList -> entry.1 ≠ a := by
        intro entry hentry heq
        have hget := mem_toList_iff.mp hentry
        rw [heq, hv] at hget
        cases hget
      rw [getElem?_foldl_others turn hothers hkey m, hv]
      rfl

omit [Std.TransOrd κ] [Std.LawfulEqOrd κ] in
theorem getElem?_foldl_count [DecidableEq κ] (count : Std.TreeMap κ ν -> κ ->
      Std.TreeMap κ ν) (next : Option ν -> Option ν)
    (hown : forall m k, (count m k)[k]? = next m[k]?)
    (hothers : forall m k a, k ≠ a -> (count m k)[a]? = m[a]?) (keys : List κ)
    (m : Std.TreeMap κ ν) (a : κ) :
    (keys.foldl count m)[a]? = next^[keys.count a] m[a]? := by
  induction keys generalizing m with
  | nil => rfl
  | cons k keys ih =>
      rw [List.foldl_cons, ih]
      cases decEq k a with
      | isTrue hk =>
          rw [← hk, hown, List.count_cons_self, Function.iterate_succ_apply]
      | isFalse hk => rw [hothers m k a hk, List.count_cons_of_ne hk]

end

end OrderedMaps
end Library
end BnsKorea
