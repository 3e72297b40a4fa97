import Mathlib.Data.List.Basic

/-!
# Reading a queue of items

A reader takes items from the front of a queue, and fails if the queue is empty
or the next item is of another kind.  It reads a list of items if it takes
exactly these, whatever comes behind them.  What was written part by part is
read part by part.
-/

namespace BnsKorea
namespace Library

universe u v

/-- A program that takes items from the front of a queue. -/
abbrev Reader (ι : Type u) := StateT (List ι) Option

namespace Reader

variable {ι : Type u} {α β : Type u}

def next (get : ι -> Option α) : Reader ι α := fun items =>
  match items with
  | [] => none
  | i :: rest => (get i).map fun a => (a, rest)

def many (r : Reader ι α) : Nat -> Reader ι (List α)
  | 0 => pure []
  | n + 1 => do
      let a <- r
      let as <- many r n
      pure (a :: as)

/-- The reader takes exactly the items and returns the value. -/
def Reads (r : Reader ι α) (items : List ι) (a : α) : Prop :=
  forall rest, r.run (items ++ rest) = some (a, rest)

theorem Reads.run {r : Reader ι α} {items : List ι} {a : α}
    (h : Reads r items a) : r.run items = some (a, []) := by
  have hrun := h []
  rwa [List.append_nil] at hrun

theorem reads_pure (a : α) : Reads (pure a : Reader ι α) [] a :=
  fun _ => rfl

theorem Reads.bind {r : Reader ι α} {k : α -> Reader ι β} {items items' : List ι}
    {a : α} {b : β} (hr : Reads r items a) (hk : Reads (k a) items' b) :
    Reads (r >>= k) (items ++ items') b := by
  intro rest
  rw [StateT.run_bind, List.append_assoc, hr]
  exact hk rest

theorem Reads.map {r : Reader ι α} {items : List ι} {a : α} (f : α -> β)
    (h : Reads r items a) : Reads (f <$> r) items (f a) := by
  intro rest
  rw [StateT.run_map, h]
  rfl

theorem Reads.of_map {r : Reader ι α} {items : List ι} {a : α} {f : α -> β}
    (hf : Function.Injective f) (h : Reads (f <$> r) items (f a)) :
    Reads r items a := by
  intro rest
  have hrun := h rest
  rw [StateT.run_map] at hrun
  rcases Option.map_eq_some_iff.mp hrun with ⟨taken, htaken, hsame⟩
  rcases taken with ⟨b, left⟩
  have hvalue : b = a := hf (Prod.mk.inj hsame).left
  have hrest : left = rest := (Prod.mk.inj hsame).right
  rw [htaken, hvalue, hrest]

theorem Reads.bind_pure {r : Reader ι α} {items : List ι} {a : α} (f : α -> β)
    (h : Reads r items a) : Reads (r >>= fun a => pure (f a)) items (f a) := by
  rw [← List.append_nil items]
  exact h.bind (reads_pure (f a))

theorem reads_next {get : ι -> Option α} {i : ι} {a : α} (hi : get i = some a) :
    Reads (next get) [i] a := by
  intro rest
  show (get i).map (fun a => (a, rest)) = some (a, rest)
  rw [hi]
  rfl

theorem Reads.next_bind {get : ι -> Option α} {k : α -> Reader ι β} {i : ι}
    {items : List ι} {a : α} {b : β} (hk : Reads (k a) items b)
    (hi : get i = some a) : Reads (next get >>= k) (i :: items) b :=
  (reads_next hi).bind hk

theorem Reads.many {r : Reader ι α} {write : α -> List ι} {as : List α}
    (h : forall a, a ∈ as -> Reads r (write a) a) :
    Reads (many r as.length) (as.flatMap write) as := by
  induction as with
  | nil => exact reads_pure []
  | cons a as ih =>
      have hrest := ih fun b hb => h b (List.mem_cons_of_mem a hb)
      exact (h a List.mem_cons_self).bind (hrest.bind_pure (a :: ·))

theorem many_past_end {r : Reader ι α} {write : α -> List ι} {as : List α}
    {n : Nat} (h : forall a, a ∈ as -> Reads r (write a) a)
    (hend : r.run [] = none) (hn : as.length < n) :
    (Reader.many r n).run (as.flatMap write) = none := by
  induction as generalizing n with
  | nil =>
      cases n with
      | zero => exact False.elim (Nat.lt_irrefl 0 hn)
      | succ n =>
          show (r >>= _).run [] = none
          rw [StateT.run_bind, hend]
          rfl
  | cons a as ih =>
      cases n with
      | zero => exact False.elim (Nat.not_lt_zero _ hn)
      | succ n =>
          have hrest := ih (fun b hb => h b (List.mem_cons_of_mem a hb))
            (Nat.lt_of_succ_lt_succ hn)
          show (r >>= _).run (write a ++ as.flatMap write) = none
          rw [StateT.run_bind, h a List.mem_cons_self, Option.bind_eq_bind,
            Option.bind_some, StateT.run_bind, hrest]
          rfl

/-!
## What a reader can return
-/

/-- Whatever the items are, what the reader returns satisfies `p`. -/
def Yields (r : Reader ι α) (p : α -> Prop) : Prop :=
  forall items a rest, r.run items = some (a, rest) -> p a

theorem yields_pure {p : α -> Prop} {a : α} (ha : p a) :
    Yields (pure a : Reader ι α) p := by
  intro items b rest hrun
  cases hrun
  exact ha

theorem yields_bind {r : Reader ι α} {k : α -> Reader ι β} {p : β -> Prop}
    (h : forall a, Yields (k a) p) : Yields (r >>= k) p := by
  intro items b rest hrun
  rw [StateT.run_bind] at hrun
  rcases Option.bind_eq_some_iff.mp hrun with ⟨taken, _, hk⟩
  exact h taken.1 taken.2 b rest hk

theorem yields_map {r : Reader ι α} {f : α -> β} {p : β -> Prop}
    (h : forall a, p (f a)) : Yields (f <$> r) p := by
  intro items b rest hrun
  rw [StateT.run_map] at hrun
  rcases Option.map_eq_some_iff.mp hrun with ⟨taken, _, htaken⟩
  cases htaken
  exact h taken.1

end Reader

end Library
end BnsKorea
