import Mathlib.Data.Tree.Basic
import Mathlib.Data.List.Nodup

/-!
# Walking a linked tree

A binary tree whose nodes are places with links to their children and to their
parent, as a map keeps it: what is not a node is nil, and so is the place above
the root.  The walk from node to node needs no stack.  It goes down to the
leftmost node on the right, or else up until it comes from the left.
-/

namespace BnsKorea
namespace Library
namespace LinkedTrees

universe u

/-- The links between places, and which places are nil. -/
structure Links (α : Type u) where
  left : α -> α
  parent : α -> α
  right : α -> α
  isNil : α -> Bool

variable {α : Type u}

/-!
## The walk
-/

section

variable [DecidableEq α] (K : Links α)

/-- Up from a node, at `i`, while it is on the right; so many times at most. -/
def up : Nat -> α -> α -> α
  | 0, _, i => i
  | fuel + 1, node, i =>
      if K.isNil i then i
      else if node ≠ K.right i then i
      else up fuel i (K.parent i)

/-- Down to the left from a node, at `j`, so many times at most. -/
def down : Nat -> α -> α -> α
  | 0, node, _ => node
  | fuel + 1, node, j => if K.isNil j then node else down fuel j (K.left j)

def next (fuel : Nat) (a : α) : α :=
  if K.isNil (K.right a) then up K fuel a (K.parent a)
  else down K fuel (K.right a) (K.left (K.right a))

def walk (fuel : Nat) (head : α) : Nat -> α -> List α
  | 0, _ => []
  | n + 1, a =>
      if a = head then []
      else a :: walk fuel head n (if K.isNil a then a else next K fuel a)

theorem walk_length (fuel : Nat) (head : α) (n : Nat) (a : α) :
    (walk K fuel head n a).length ≤ n := by
  induction n generalizing a with
  | zero => exact Nat.le_refl 0
  | succ n ih =>
      unfold walk
      split
      · exact Nat.zero_le (n + 1)
      · exact Nat.succ_le_succ (ih _)

end

/-!
## Trees in memory
-/

def inorder : BinaryTree α -> List α
  | .nil => []
  | .node a l r => inorder l ++ a :: inorder r

def leftmost : BinaryTree α -> α -> α
  | .nil, a => a
  | .node v l _, _ => leftmost l v

/-- The place holds the tree, and the links up from it lead to the parent. -/
def Holds (K : Links α) : α -> BinaryTree α -> α -> Prop
  | _, .nil, a => K.isNil a = true
  | p, .node v l r, a =>
      a = v ∧ K.isNil v = false ∧ K.parent v = p ∧ Holds K v l (K.left v) ∧
        Holds K v r (K.right v)

instance Holds.decidable [DecidableEq α] (K : Links α) :
    forall (p : α) (t : BinaryTree α) (a : α), Decidable (Holds K p t a)
  | _, .nil, a => inferInstanceAs (Decidable (K.isNil a = true))
  | p, .node v l r, a =>
      have := Holds.decidable K v l (K.left v)
      have := Holds.decidable K v r (K.right v)
      inferInstanceAs (Decidable (a = v ∧ K.isNil v = false ∧ K.parent v = p ∧
        Holds K v l (K.left v) ∧ Holds K v r (K.right v)))

/-- From a node, at the place above it, the way up is to `b` in `d` steps. -/
def Climbs [DecidableEq α] (K : Links α) (node i b : α) (d : Nat) : Prop :=
  forall fuel, d ≤ fuel -> up K fuel node i = b

section

variable {K : Links α} {p a v b head : α} {l r t : BinaryTree α} {d fuel n : Nat}

theorem Holds.not_nil (h : Holds K p t a) (hne : t ≠ .nil) : K.isNil a = false := by
  cases t with
  | nil => exact absurd rfl hne
  | node v l r =>
      rw [h.left]
      exact h.right.left

theorem Holds.mem (h : Holds K p t a) (hne : t ≠ .nil) : a ∈ inorder t := by
  cases t with
  | nil => exact absurd rfl hne
  | node v l r =>
      rw [h.left]
      exact List.mem_append_right _ List.mem_cons_self

theorem Holds.mem_not_nil (h : Holds K p t a) (hmem : v ∈ inorder t) :
    K.isNil v = false := by
  induction t generalizing p a with
  | nil => cases hmem
  | node w l r ihl ihr =>
      rcases h with ⟨_, hnil, _, hl, hr⟩
      rcases List.mem_append.mp hmem with hmem | hmem
      · exact ihl hl hmem
      · rcases List.mem_cons.mp hmem with heq | hmem
        · rwa [heq]
        · exact ihr hr hmem

theorem leftmost_of_ne (hne : t ≠ .nil) (a b : α) : leftmost t a = leftmost t b := by
  cases t with
  | nil => exact absurd rfl hne
  | node v l r => rfl

theorem one_le_numNodes (hne : t ≠ .nil) : 1 ≤ t.numNodes := by
  cases t with
  | nil => exact absurd rfl hne
  | node v l r => exact Nat.le_add_left 1 _

variable [DecidableEq α]

theorem climbs_left (h : Holds K p (.node v l r) a)
    (hnodup : (inorder (.node v l r)).Nodup) (hne : l ≠ .nil) :
    Climbs K (K.left v) v v 0 := by
  rcases h with ⟨_, hnil, _, hl, hr⟩
  have hdiff : K.left v ≠ K.right v := by
    intro heq
    have hleft := hl.mem hne
    rw [heq] at hleft hl
    cases r with
    | nil =>
        have hfalse := hl.not_nil hne
        rw [show K.isNil (K.right v) = true from hr] at hfalse
        cases hfalse
    | node w rl rr =>
        have hright := hr.mem (fun h => nomatch h)
        exact List.disjoint_of_nodup_append hnodup hleft (List.mem_cons_of_mem v hright)
  intro fuel _
  cases fuel with
  | zero => rfl
  | succ fuel =>
      unfold up
      rw [hnil, if_neg Bool.false_ne_true, if_pos hdiff]

theorem climbs_right (h : Holds K p (.node v l r) a) (hclimbs : Climbs K v p b d) :
    Climbs K (K.right v) v b (d + 1) := by
  rcases h with ⟨_, hnil, hparent, _, _⟩
  intro fuel hfuel
  cases fuel with
  | zero => exact absurd hfuel (Nat.not_succ_le_zero d)
  | succ fuel =>
      unfold up
      rw [hnil, if_neg Bool.false_ne_true, if_neg (not_not.mpr rfl), hparent]
      exact hclimbs fuel (Nat.le_of_succ_le_succ hfuel)

theorem down_leftmost (h : Holds K p t a) (hne : t ≠ .nil)
    (hfuel : t.numNodes ≤ fuel + 1) :
    down K fuel a (K.left a) = leftmost t a := by
  induction t generalizing p a fuel with
  | nil => exact absurd rfl hne
  | node v l r ihl _ =>
      rcases h with ⟨ha, _, _, hl, _⟩
      rw [ha]
      show down K fuel v (K.left v) = leftmost l v
      rw [BinaryTree.numNodes] at hfuel
      by_cases hleft : l = .nil
      · rw [hleft] at hl ⊢
        cases fuel with
        | zero => rfl
        | succ fuel => exact if_pos hl
      · have hone := one_le_numNodes hleft
        cases fuel with
        | zero => omega
        | succ fuel =>
            rw [down, hl.not_nil hleft, if_neg Bool.false_ne_true,
              ihl hl hleft (by omega)]
            exact leftmost_of_ne hleft _ _

/-!
## The nodes in order
-/

theorem walk_root (h : Holds K p (.node v l r) a) (hhead : v ≠ head)
    (hclimbs : Climbs K v p b d) (hfuel : d + r.numNodes + 1 ≤ fuel)
    (hright : r ≠ .nil -> Climbs K (K.right v) v b (d + 1) ->
      walk K fuel head (r.numNodes + n) (leftmost r (K.right v)) =
        inorder r ++ walk K fuel head n b) :
    walk K fuel head (r.numNodes + 1 + n) v =
      v :: inorder r ++ walk K fuel head n b := by
  have hchild := climbs_right h hclimbs
  rcases h with ⟨_, hnil, hparent, _, hr⟩
  rw [Nat.add_right_comm, walk, if_neg hhead, hnil, if_neg Bool.false_ne_true,
    List.cons_append]
  congr 1
  by_cases hnone : r = .nil
  · rw [hnone] at hr ⊢
    have hright : K.isNil (K.right v) = true := hr
    rw [next, if_pos hright, hparent, hclimbs fuel (by omega)]
    exact congrArg (walk K fuel head · b) (Nat.zero_add n)
  · rw [next, hr.not_nil hnone, if_neg Bool.false_ne_true,
      down_leftmost hr hnone (by omega)]
    exact hright hnone hchild

theorem walk_tree (h : Holds K p t a) (hne : t ≠ .nil) (hnodup : (inorder t).Nodup)
    (hhead : head ∉ inorder t) (hclimbs : Climbs K a p b d)
    (hfuel : d + t.numNodes ≤ fuel) :
    walk K fuel head (t.numNodes + n) (leftmost t a) =
      inorder t ++ walk K fuel head n b := by
  induction t generalizing p a b d n with
  | nil => exact absurd rfl hne
  | node v l r ihl ihr =>
      have hparts := h
      rcases hparts with ⟨ha, _, _, hl, hr⟩
      rw [BinaryTree.numNodes] at hfuel
      rw [inorder, List.mem_append, List.mem_cons, not_or, not_or] at hhead
      rcases hhead with ⟨hheadl, hheadv, hheadr⟩
      have hnodups := List.nodup_append.mp hnodup
      rw [ha] at hclimbs
      have hroot : forall m, walk K fuel head (r.numNodes + 1 + m) v =
          v :: inorder r ++ walk K fuel head m b := by
        intro m
        refine walk_root h (Ne.symm hheadv) hclimbs (by omega) ?_
        intro hnone hchild
        exact ihr hr hnone (List.nodup_cons.mp hnodups.right.left).right hheadr hchild
          (by omega)
      show walk K fuel head (l.numNodes + r.numNodes + 1 + n) (leftmost l v) =
        (inorder l ++ v :: inorder r) ++ _
      by_cases hleft : l = .nil
      · rw [hleft]
        show walk K fuel head (0 + r.numNodes + 1 + n) v = _
        rw [Nat.zero_add, hroot n]
        rfl
      · rw [leftmost_of_ne hleft v (K.left v), Nat.add_assoc, Nat.add_assoc,
          ihl hl hleft hnodups.left hheadl (climbs_left h hnodup hleft) (by omega),
          ← Nat.add_assoc, hroot n, List.append_assoc]

theorem walk_inorder (h : Holds K head t a) (hnil : K.isNil head = true)
    (hne : t ≠ .nil) (hnodup : (inorder t).Nodup) (hhead : head ∉ inorder t)
    (hfuel : t.numNodes ≤ fuel) (hn : t.numNodes ≤ n) :
    walk K fuel head n (leftmost t a) = inorder t := by
  have hclimbs : Climbs K a head head 0 := by
    intro fuel _
    cases fuel with
    | zero => rfl
    | succ fuel => exact if_pos hnil
  rcases Nat.exists_eq_add_of_le hn with ⟨m, hm⟩
  rw [hm, walk_tree h hne hnodup hhead hclimbs (by omega)]
  have hend : walk K fuel head m head = [] := by
    cases m with
    | zero => rfl
    | succ m => exact if_pos rfl
  rw [hend, List.append_nil]

end

end LinkedTrees
end Library
end BnsKorea
