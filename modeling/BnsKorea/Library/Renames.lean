import Mathlib.Logic.Function.Basic
import Mathlib.Logic.Basic

/-!
# Renaming files there and back

Some files have two names each.  A move gives a file its other name and does
nothing where the source is missing or the target is there.  Whatever moves fail
or are left out, a file is under one of its names, and showing all of them brings
the old names back.
-/

namespace BnsKorea
namespace Library

universe u v w

structure Twins (item : Type u) (path : Type v) where
  shown : item -> path
  hidden : item -> path
  shown_injective : Function.Injective shown
  hidden_injective : Function.Injective hidden
  shown_ne_hidden : forall i j, shown i ≠ hidden j

def move {path : Type v} [DecidableEq path] {content : Type w} (fails : Bool)
    (old new : path) (files : path -> Option content) : path -> Option content :=
  if fails = false ∧ (files old).isSome = true ∧ files new = none then
    Function.update (Function.update files old none) new (files old)
  else files

section

variable {path : Type v} [DecidableEq path] {content : Type w}

theorem move_of_ne {old new p : path} (fails : Bool) (files : path -> Option content)
    (hold : p ≠ old) (hnew : p ≠ new) : move fails old new files p = files p := by
  unfold move
  split
  · rw [Function.update_of_ne hnew, Function.update_of_ne hold]
  · rfl

theorem move_cases {old new : path} (hne : old ≠ new) (fails : Bool)
    (files : path -> Option content) :
    (fails = false ∧ files new = none ∧ move fails old new files old = none ∧
        move fails old new files new = files old) ∨
      ((fails = true ∨ files old = none ∨ files new ≠ none) ∧
        move fails old new files = files) := by
  unfold move
  split
  · rename_i hmoves
    rcases hmoves with ⟨hworks, _, hnew⟩
    left
    rw [Function.update_of_ne hne, Function.update_self, Function.update_self]
    exact ⟨hworks, hnew, rfl, rfl⟩
  · rename_i hnot
    right
    constructor
    · cases fails with
      | true => exact Or.inl rfl
      | false =>
          cases hold : files old with
          | none => exact Or.inr (Or.inl rfl)
          | some c =>
              refine Or.inr (Or.inr fun hnew => hnot ⟨rfl, ?_, hnew⟩)
              rw [hold]
              rfl
    · rfl

end

namespace Twins

variable {item : Type u} {path : Type v} [DecidableEq path] {content : Type w}
  (T : Twins item path)

def turn (hide fails : Bool) (i : item) (files : path -> Option content) :
    path -> Option content :=
  if hide then move fails (T.shown i) (T.hidden i) files
  else move fails (T.hidden i) (T.shown i) files

/-- Every item is under one of its names, and nothing else was touched. -/
structure Kept (items : List item) (before files : path -> Option content) : Prop where
  place : forall i, i ∈ items ->
    (files (T.shown i) = before (T.shown i) ∧ files (T.hidden i) = none) ∨
      (files (T.shown i) = none ∧ files (T.hidden i) = before (T.shown i))
  other : forall p, (forall i, i ∈ items -> p ≠ T.shown i ∧ p ≠ T.hidden i) ->
    files p = before p

variable {T} {items : List item} {before files : path -> Option content}

omit [DecidableEq path] in
theorem kept_self (h : forall i, i ∈ items -> before (T.hidden i) = none) :
    T.Kept items before before where
  place i hi := Or.inl ⟨rfl, h i hi⟩
  other _ _ := rfl

theorem turn_of_ne {hide fails : Bool} {i : item} {p : path} (hshown : p ≠ T.shown i)
    (hhidden : p ≠ T.hidden i) : T.turn hide fails i files p = files p := by
  unfold turn
  split
  · exact move_of_ne fails files hshown hhidden
  · exact move_of_ne fails files hhidden hshown

theorem turn_other {hide fails : Bool} {i j : item} (h : i ≠ j) :
    T.turn hide fails i files (T.shown j) = files (T.shown j) ∧
      T.turn hide fails i files (T.hidden j) = files (T.hidden j) := by
  constructor
  · exact turn_of_ne (fun heq => h (T.shown_injective heq).symm) (T.shown_ne_hidden j i)
  · exact turn_of_ne (T.shown_ne_hidden i j).symm
      (fun heq => h (T.hidden_injective heq).symm)

theorem turn_place {hide : Bool} (fails : Bool) {i : item} {c : Option content}
    (h : (files (T.shown i) = c ∧ files (T.hidden i) = none) ∨
      (files (T.shown i) = none ∧ files (T.hidden i) = c)) :
    (T.turn hide fails i files (T.shown i) = c ∧
        T.turn hide fails i files (T.hidden i) = none) ∨
      (T.turn hide fails i files (T.shown i) = none ∧
        T.turn hide fails i files (T.hidden i) = c) := by
  cases hide with
  | true =>
      simp only [turn, if_true]
      rcases move_cases (T.shown_ne_hidden i i) fails files with
        ⟨_, hnew, hold, hmoved⟩ | ⟨_, hstays⟩
      · rw [hold, hmoved]
        rcases h with ⟨hshown, _⟩ | ⟨hshown, hhidden⟩
        · exact Or.inr ⟨rfl, hshown⟩
        · rw [← hhidden, hnew]
          exact Or.inl ⟨rfl, hshown⟩
      · rw [hstays]
        exact h
  | false =>
      simp only [turn, Bool.false_eq_true, if_false]
      rcases move_cases (T.shown_ne_hidden i i).symm fails files with
        ⟨_, hnew, hold, hmoved⟩ | ⟨_, hstays⟩
      · rw [hold, hmoved]
        rcases h with ⟨hshown, hhidden⟩ | ⟨_, hhidden⟩
        · rw [← hshown, hnew]
          exact Or.inr ⟨hhidden, rfl⟩
        · exact Or.inl ⟨hhidden, rfl⟩
      · rw [hstays]
        exact h

theorem Kept.turn (h : T.Kept items before files) (hide fails : Bool) {i : item}
    (hi : i ∈ items) : T.Kept items before (T.turn hide fails i files) where
  place j hj := by
    by_cases hij : i = j
    · rw [← hij]
      exact turn_place fails (h.place i hi)
    · rw [(turn_other hij).left, (turn_other hij).right]
      exact h.place j hj
  other p hp := by
    rw [turn_of_ne (hp i hi).left (hp i hi).right]
    exact h.other p hp

theorem Kept.turns (h : T.Kept items before files) (hide : Bool)
    (moves : List (item × Bool)) (hmoves : forall m, m ∈ moves -> m.1 ∈ items) :
    T.Kept items before
      (moves.foldl (fun files m => T.turn hide m.2 m.1 files) files) := by
  induction moves generalizing files with
  | nil => exact h
  | cons m moves ih =>
      have hm : m.1 ∈ items := hmoves m List.mem_cons_self
      exact ih (h.turn hide m.2 hm) fun m hm => hmoves m (List.mem_cons_of_mem _ hm)

theorem turn_shows {i j : item} (h : files (T.hidden j) = none) :
    T.turn false false i files (T.hidden j) = none := by
  by_cases hij : i = j
  · rw [← hij] at h ⊢
    simp only [turn, Bool.false_eq_true, if_false]
    rcases move_cases (T.shown_ne_hidden i i).symm false files with
      ⟨_, _, hold, _⟩ | ⟨_, hstays⟩
    · exact hold
    · rw [hstays]
      exact h
  · rw [(turn_other hij).right]
    exact h

theorem turn_show_self {i : item}
    (h : files (T.shown i) = none ∨ files (T.hidden i) = none) :
    T.turn false false i files (T.hidden i) = none := by
  simp only [turn, Bool.false_eq_true, if_false]
  rcases move_cases (T.shown_ne_hidden i i).symm false files with
    ⟨_, _, hold, _⟩ | ⟨hwhy, hstays⟩
  · exact hold
  · rw [hstays]
    rcases hwhy with hfails | hmissing | hthere
    · cases hfails
    · exact hmissing
    · exact h.resolve_left hthere

theorem turns_show {moves : List item} {j : item} (h : files (T.hidden j) = none) :
    moves.foldl (fun files i => T.turn false false i files) files (T.hidden j) =
      none := by
  induction moves generalizing files with
  | nil => exact h
  | cons i moves ih => exact ih (turn_shows h)

theorem Kept.shown (h : T.Kept items before files) {moves : List item}
    (hmoves : forall i, i ∈ moves -> i ∈ items) {j : item} (hj : j ∈ moves) :
    moves.foldl (fun files i => T.turn false false i files) files (T.hidden j) =
      none := by
  induction moves generalizing files with
  | nil => cases hj
  | cons i moves ih =>
      have hi : i ∈ items := hmoves i List.mem_cons_self
      rcases List.mem_cons.mp hj with hji | hj
      · rw [hji]
        have hunder : files (T.shown i) = none ∨ files (T.hidden i) = none := by
          rcases h.place i hi with ⟨_, hhidden⟩ | ⟨hshown, _⟩
          · exact Or.inr hhidden
          · exact Or.inl hshown
        exact @turns_show _ _ _ _ T (T.turn false false i files) moves i
          (turn_show_self hunder)
      · exact ih (h.turn false false hi)
          (fun i hi => hmoves i (List.mem_cons_of_mem _ hi)) hj

theorem Kept.eq_before (h : T.Kept items before files)
    (hclean : forall i, i ∈ items -> before (T.hidden i) = none)
    (hshown : forall i, i ∈ items -> files (T.hidden i) = none) : files = before := by
  have hname : forall i, i ∈ items -> files (T.shown i) = before (T.shown i) := by
    intro i hi
    rcases h.place i hi with ⟨hsame, _⟩ | ⟨hmissing, hhidden⟩
    · exact hsame
    · rw [hmissing, ← hhidden, hshown i hi]
  funext p
  by_cases hp : forall i, i ∈ items -> p ≠ T.shown i ∧ p ≠ T.hidden i
  · exact h.other p hp
  · rcases not_forall.mp hp with ⟨i, hi⟩
    rcases Classical.not_imp.mp hi with ⟨hmem, hname'⟩
    by_cases hps : p = T.shown i
    · rw [hps]
      exact hname i hmem
    · have hph : p = T.hidden i :=
        Classical.not_not.mp fun hne => hname' ⟨hps, hne⟩
      rw [hph, hshown i hmem, hclean i hmem]

theorem Kept.restored (h : T.Kept items before files)
    (hclean : forall i, i ∈ items -> before (T.hidden i) = none) :
    items.foldl (fun files i => T.turn false false i files) files = before := by
  have hkept : T.Kept items before
      (items.foldl (fun files i => T.turn false false i files) files) := by
    have hmoves := h.turns false (items.map fun i => (i, false)) (by
      intro m hm
      rcases List.mem_map.mp hm with ⟨i, hi, him⟩
      rw [← him]
      exact hi)
    rw [List.foldl_map] at hmoves
    exact hmoves
  exact hkept.eq_before hclean fun i hi => h.shown (fun _ hi => hi) hi

end Twins

end Library
end BnsKorea
