import BnsKorea.Library.OrderedMaps

/-!
# Refilling a map

A map that is filled from the rows of a table until a row cannot be read.  What
was put in before such a row stays in, and of the rows with one key the first
counts.
-/

namespace BnsKorea
namespace Library
namespace Refills

universe u v w

variable {ρ : Type u} {κ : Type v} {ν : Type w} [Ord κ]

def entriesRead (readRow : ρ -> Option (κ × ν)) : List ρ -> List (κ × ν)
  | [] => []
  | row :: rows =>
      match readRow row with
      | none => []
      | some entry => entry :: entriesRead readRow rows

def fill (readRow : ρ -> Option (κ × ν)) :
    List ρ -> Std.TreeMap κ ν -> Bool × Std.TreeMap κ ν
  | [], m => (!m.isEmpty, m)
  | row :: rows, m =>
      match readRow row with
      | none => (false, m)
      | some entry => fill readRow rows (m.insertIfNew entry.1 entry.2)

def refill (readRow : ρ -> Option (κ × ν)) (answer : Option (List ρ))
    (m : Std.TreeMap κ ν) : Bool × Std.TreeMap κ ν :=
  match answer with
  | none => (false, m)
  | some rows => if rows.length = 0 then (false, m) else fill readRow rows ∅

def Broken (readRow : ρ -> Option (κ × ν)) (rows : List ρ) : Prop :=
  exists row, row ∈ rows ∧ readRow row = none

variable {readRow : ρ -> Option (κ × ν)}

omit [Ord κ] in
theorem map_entriesRead {rows : List ρ} (h : ¬ Broken readRow rows) :
    rows.map readRow = (entriesRead readRow rows).map some := by
  induction rows with
  | nil => rfl
  | cons row rows ih =>
      have htail : ¬ Broken readRow rows := by
        intro hbroken
        rcases hbroken with ⟨bad, hbad, hnone⟩
        exact h ⟨bad, List.mem_cons_of_mem _ hbad, hnone⟩
      rw [List.map_cons, entriesRead]
      cases hrow : readRow row with
      | none => exact absurd ⟨row, List.mem_cons_self, hrow⟩ h
      | some entry => rw [ih htail, List.map_cons]

/-- All or nothing: a failure changes nothing, and a success puts all rows in. -/
structure AllOrNothing [DecidableEq κ] (readRow : ρ -> Option (κ × ν))
    (answer : Option (List ρ)) (before : Std.TreeMap κ ν)
    (after : Bool × Std.TreeMap κ ν) : Prop where
  failed : after.1 = false -> forall k : κ, after.2[k]? = before[k]?
  succeeded : after.1 = true -> exists (rows : List ρ) (entries : List (κ × ν)),
    answer = some rows ∧ rows.map readRow = entries.map some ∧
      forall k : κ, after.2[k]? = entries.lookup k

omit [Ord κ] in
theorem lookup_entriesRead_skip [DecidableEq κ] {before : List ρ} {k : κ}
    (h : forall row, row ∈ before ->
      exists entry, readRow row = some entry ∧ entry.1 ≠ k) (rows : List ρ) :
    (entriesRead readRow (before ++ rows)).lookup k =
      (entriesRead readRow rows).lookup k := by
  induction before with
  | nil => rfl
  | cons row before ih =>
      rcases h row List.mem_cons_self with ⟨entry, hentry, hother⟩
      rw [List.cons_append, entriesRead, hentry]
      dsimp only
      rw [List.lookup_cons, beq_eq_false_iff_ne.mpr hother.symm]
      exact ih fun row' hrow' => h row' (List.mem_cons_of_mem _ hrow')

variable [Std.TransOrd κ] [Std.LawfulEqOrd κ]

theorem getElem?_fill [DecidableEq κ] (rows : List ρ) (m : Std.TreeMap κ ν)
    (k : κ) :
    (fill readRow rows m).2[k]? =
      m[k]?.or ((entriesRead readRow rows).lookup k) := by
  induction rows generalizing m with
  | nil => simp [fill, entriesRead]
  | cons row rows ih =>
      rw [fill, entriesRead]
      cases readRow row with
      | none => simp
      | some entry =>
          dsimp only
          rw [ih]
          by_cases hkey : entry.1 = k
          · rw [← hkey, List.lookup_cons, beq_self_eq_true]
            cases hold : m[entry.1]? with
            | none =>
                rw [OrderedMaps.getElem?_insertIfNew_of_none entry.2 hold]
                rfl
            | some old =>
                rw [OrderedMaps.getElem?_insertIfNew_of_some entry.2 hold, hold]
                rfl
          · have hother : (k == entry.1) = false :=
              beq_eq_false_iff_ne.mpr fun h => hkey h.symm
            rw [OrderedMaps.getElem?_insertIfNew_of_ne m entry.2 hkey,
              List.lookup_cons, hother]

omit [Std.TransOrd κ] [Std.LawfulEqOrd κ] in
theorem fill_of_broken {rows : List ρ} (h : Broken readRow rows)
    (m : Std.TreeMap κ ν) : (fill readRow rows m).1 = false := by
  induction rows generalizing m with
  | nil =>
      rcases h with ⟨row, hrow, _⟩
      cases hrow
  | cons row rows ih =>
      rw [fill]
      cases hrow : readRow row with
      | none => rfl
      | some entry =>
          apply ih
          rcases h with ⟨bad, hbad, hnone⟩
          rcases List.mem_cons.mp hbad with heq | hbad
          · rw [heq, hrow] at hnone
            cases hnone
          · exact ⟨bad, hbad, hnone⟩

omit [Std.LawfulEqOrd κ] in
theorem fill_of_whole {rows : List ρ} (h : ¬ Broken readRow rows)
    {m : Std.TreeMap κ ν} (hsome : m.isEmpty = false ∨ rows ≠ []) :
    (fill readRow rows m).1 = true := by
  induction rows generalizing m with
  | nil =>
      rcases hsome with hsome | hsome
      · rw [fill, hsome]
        rfl
      · exact absurd rfl hsome
  | cons row rows ih =>
      rw [fill]
      cases hrow : readRow row with
      | none => exact absurd ⟨row, List.mem_cons_self, hrow⟩ h
      | some entry =>
          refine ih ?_ (Or.inl Std.TreeMap.isEmpty_insertIfNew)
          intro hbroken
          rcases hbroken with ⟨bad, hbad, hnone⟩
          exact h ⟨bad, List.mem_cons_of_mem _ hbad, hnone⟩

/--
The condition: the map was what a broken answer fills it with before the row
that cannot be read.
-/
def Coincides [DecidableEq κ] (readRow : ρ -> Option (κ × ν))
    (answer : Option (List ρ)) (before : Std.TreeMap κ ν) : Prop :=
  forall rows, answer = some rows -> Broken readRow rows ->
    forall k : κ, before[k]? = (entriesRead readRow rows).lookup k

theorem refill_allOrNothing_iff [DecidableEq κ] (answer : Option (List ρ))
    (before : Std.TreeMap κ ν) :
    AllOrNothing readRow answer before (refill readRow answer before) ↔
      Coincides readRow answer before := by
  have hunchanged : refill readRow answer before = (false, before) ->
      AllOrNothing readRow answer before (refill readRow answer before) := by
    intro h
    rw [h]
    exact ⟨fun _ _ => rfl, nofun⟩
  cases answer with
  | none => exact iff_of_true (hunchanged rfl) nofun
  | some rows =>
      by_cases hrows : rows = []
      · rw [hrows] at hunchanged ⊢
        refine iff_of_true (hunchanged rfl) ?_
        intro rows' heq hbroken
        rw [← Option.some.inj heq] at hbroken
        rcases hbroken with ⟨row, hrow, _⟩
        cases hrow
      · have hfill : refill readRow (some rows) before = fill readRow rows ∅ :=
          if_neg (by simpa using hrows)
        have hget : forall k : κ, (fill readRow rows ∅).2[k]? =
            (entriesRead readRow rows).lookup k := by
          intro k
          rw [getElem?_fill]
          simp
        rw [hfill]
        by_cases hbroken : Broken readRow rows
        · have hfalse := fill_of_broken hbroken (∅ : Std.TreeMap κ ν)
          constructor
          · intro h rows' heq _ k
            rw [← Option.some.inj heq, ← hget, h.failed hfalse]
          · intro h
            constructor
            · intro _ k
              rw [hget, h rows rfl hbroken]
            · intro htrue
              rw [hfalse] at htrue
              cases htrue
        · have htrue : (fill readRow rows (∅ : Std.TreeMap κ ν)).1 = true :=
            fill_of_whole hbroken (Or.inr hrows)
          refine iff_of_true ⟨?_, ?_⟩ ?_
          · intro hfalse
            rw [htrue] at hfalse
            cases hfalse
          · intro _
            exact ⟨rows, _, rfl, map_entriesRead hbroken, hget⟩
          · intro rows' heq hbroken'
            rw [← Option.some.inj heq] at hbroken'
            exact absurd hbroken' hbroken

end Refills
end Library
end BnsKorea
