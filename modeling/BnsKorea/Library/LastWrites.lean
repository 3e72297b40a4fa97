import Mathlib.Data.List.Induction

/-!
# The last write to a key

Of a list of writes a store keeps the last one under every key.  A store that
keeps them under an image of the key gives the right answer for a key exactly if
no other key of the same image got in between.
-/

namespace BnsKorea
namespace Library

universe u v w

section

variable {κ : Type u} {ν : Type v} [DecidableEq κ]

def lastWrite (key : κ) (writes : List (κ × ν)) : Option ν :=
  (writes.reverse.find? fun w => w.1 = key).map Prod.snd

theorem lastWrite_snoc (key : κ) (writes : List (κ × ν)) (w : κ × ν) :
    lastWrite key (writes ++ [w]) =
      if w.1 = key then some w.2 else lastWrite key writes := by
  rw [lastWrite, List.reverse_append, List.reverse_singleton,
    List.singleton_append, List.find?_cons]
  by_cases hw : w.1 = key
  · simp [hw]
  · simp [hw, lastWrite]

end

section

variable {κ : Type u} {κ' : Type v} {ν : Type w} [DecidableEq κ] [DecidableEq κ']

def writesUnder (image : κ -> κ') (writes : List (κ × ν)) : List (κ' × ν) :=
  writes.map fun w => (image w.1, w.2)

/--
The last write under the image of the key, if another key has made it, wrote
what the key had.
-/
def Undisturbed (image : κ -> κ') (key : κ) (writes : List (κ × ν)) : Prop :=
  forall earlier w later, writes = earlier ++ w :: later ->
    image w.1 = image key -> w.1 ≠ key ->
    (forall w', w' ∈ later -> image w'.1 ≠ image key) ->
    lastWrite key earlier = some w.2

theorem snoc_eq_split {α : Type u} {xs earlier later : List α} {x y : α}
    (h : xs ++ [x] = earlier ++ y :: later) :
    (xs = earlier ∧ x = y ∧ later = []) ∨
      exists rest, xs = earlier ++ y :: rest ∧ later = rest ++ [x] := by
  induction later using List.reverseRecOn with
  | nil =>
      rcases List.append_inj' h rfl with ⟨hxs, hx⟩
      exact Or.inl ⟨hxs, (List.cons.inj hx).left, rfl⟩
  | append_singleton rest z _ =>
      rw [← List.cons_append, ← List.append_assoc] at h
      rcases List.append_inj' h rfl with ⟨hxs, hx⟩
      exact Or.inr ⟨rest, hxs, by rw [(List.cons.inj hx).left]⟩

theorem undisturbed_snoc (image : κ -> κ') (key : κ) (writes : List (κ × ν))
    (w : κ × ν) :
    Undisturbed image key (writes ++ [w]) ↔
      if image w.1 = image key then
        w.1 ≠ key -> lastWrite key writes = some w.2
      else Undisturbed image key writes := by
  split
  · rename_i himage
    constructor
    · intro h hne
      exact h writes w [] rfl himage hne nofun
    · intro hlast earlier w' later hsplit _ hne hlater
      rcases snoc_eq_split hsplit with ⟨hwrites, hw, _⟩ | ⟨rest, _, hrest⟩
      · rw [hwrites, hw] at hlast
        exact hlast hne
      · have hmem : w ∈ later := by simp [hrest]
        exact absurd himage (hlater w hmem)
  · rename_i himage
    constructor
    · intro h earlier w' later hsplit himage' hne hlater
      refine h earlier w' (later ++ [w]) (by simp [hsplit]) himage' hne ?_
      intro x hx
      rcases List.mem_append.mp hx with hx | hx
      · exact hlater x hx
      · rw [List.mem_singleton.mp hx]
        exact himage
    · intro h earlier w' later hsplit himage' hne hlater
      rcases snoc_eq_split hsplit with ⟨_, hw, _⟩ | ⟨rest, hwrites, hrest⟩
      · rw [hw] at himage
        exact absurd himage' himage
      · refine h earlier w' rest hwrites himage' hne fun x hx => hlater x ?_
        rw [hrest]
        exact List.mem_append_left _ hx

theorem lastWrite_image_iff (image : κ -> κ') (key : κ) (writes : List (κ × ν)) :
    lastWrite (image key) (writesUnder image writes) = lastWrite key writes ↔
      Undisturbed image key writes := by
  induction writes using List.reverseRecOn with
  | nil =>
      refine ⟨?_, fun _ => rfl⟩
      intro _ earlier w later hsplit
      cases earlier with
      | nil => cases hsplit
      | cons _ _ => cases hsplit
  | append_singleton writes w ih =>
      rw [undisturbed_snoc, lastWrite_snoc, writesUnder, List.map_append,
        List.map_singleton, lastWrite_snoc, ← writesUnder]
      by_cases himage : image w.1 = image key
      · rw [if_pos himage, if_pos himage]
        by_cases hkey : w.1 = key
        · simp [hkey]
        · rw [if_neg hkey]
          exact ⟨fun h _ => h.symm, fun h => (h hkey).symm⟩
      · have hkey : w.1 ≠ key := fun heq => himage (congrArg image heq)
        rw [if_neg himage, if_neg himage, if_neg hkey]
        exact ih

end

end Library
end BnsKorea
