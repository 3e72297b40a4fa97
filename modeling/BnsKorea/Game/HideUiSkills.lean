import BnsKorea.Game.Bags
import BnsKorea.Library.LinkedTrees

/-!
# The skills that are not shown

The skills are in seven maps of the game, one behind the other.  Each is walked
from its leftmost node with counters that end every loop, whatever the memory
holds.
-/

namespace BnsKorea
namespace Game
namespace CObjectTraverse

open Library.LinkedTrees

def skillCoolDownOffset : DWORD := 0x844

def hideUiSkillOffset : DWORD := 0x64

def nMaxLoopCount : Nat := 100

/-- The loop up along the parents, with the turns that are left. -/
def loop2Up (M : GameMemory) : Nat -> DWORD -> DWORD -> DWORD
  | 0, _, i => i
  | n + 1, dwNode, i =>
      if M.ReadBYTE (i + 0x39) = 0 then
        if dwNode ≠ M.ReadDWORD (i + 0x8) then i
        else loop2Up M n i (M.ReadDWORD (i + 0x4))
      else i

/-- The loop down to the left. -/
def loop2Down (M : GameMemory) : Nat -> DWORD -> DWORD -> DWORD
  | 0, dwNode, _ => dwNode
  | n + 1, dwNode, j =>
      if M.ReadBYTE (j + 0x39) = 0 then loop2Down M n j (M.ReadDWORD j) else dwNode

/-- The node of the next turn; a nil node stays. -/
def nextNode (M : GameMemory) (dwNode : DWORD) : DWORD :=
  if M.ReadBYTE (dwNode + 0x39) = 0 then
    let dwLeapNode := M.ReadDWORD (dwNode + 0x8)
    if M.ReadBYTE (dwLeapNode + 0x39) ≠ 0 then
      loop2Up M nMaxLoopCount dwNode (M.ReadDWORD (dwNode + 0x4))
    else
      loop2Down M nMaxLoopCount (M.ReadDWORD (dwNode + 0x8)) (M.ReadDWORD dwLeapNode)
  else dwNode

def loop1 (M : GameMemory) (dwHead : DWORD) : Nat -> DWORD -> List DWORD
  | 0, _ => []
  | n + 1, dwNode =>
      if dwNode ≠ M.ReadDWORD dwHead then
        M.ReadDWORD (dwNode + 0x18) :: loop1 M dwHead n (nextNode M dwNode)
      else []

def mapsAddr (M : GameMemory) : DWORD :=
  M.ReadDWORD (M.ReadDWORD (M.dwRootBase + skillCoolDownOffset) + hideUiSkillOffset)

/-- The `k`-th map is four bytes before its count. -/
def mapHead (M : GameMemory) (k : Nat) : DWORD :=
  mapsAddr M + UInt32.ofNat k * 3 * 4 - 0x4

def mapSkills (M : GameMemory) (k : Nat) : List DWORD :=
  let dwCount := M.ReadDWORD (mapsAddr M + UInt32.ofNat k * 3 * 4)
  if dwCount = 0 then []
  else loop1 M (mapHead M k) nMaxLoopCount (M.ReadDWORD (M.ReadDWORD (mapHead M k)))

/-- The list as it is left; its size is returned. -/
def getHideUiSkillList (M : GameMemory) (vlst : List DWORD) : List DWORD :=
  vlst ++ (List.range 7).flatMap (mapSkills M)

/-!
## Maps in memory
-/

def mapLinks (M : GameMemory) : Links DWORD where
  left dwNode := M.ReadDWORD dwNode
  parent dwNode := M.ReadDWORD (dwNode + 0x4)
  right dwNode := M.ReadDWORD (dwNode + 0x8)
  isNil dwNode := M.ReadBYTE (dwNode + 0x39) != 0

def skillWord (M : GameMemory) (dwNode : DWORD) : DWORD :=
  M.ReadDWORD (dwNode + 0x18)

/-- A map with the nodes of the tree: its head node, and its count behind that. -/
structure MapAt (M : GameMemory) (dwHead : DWORD) (t : BinaryTree DWORD) : Prop where
  count : M.ReadDWORD (dwHead + 0x4) = UInt32.ofNat t.numNodes
  isNil : (mapLinks M).isNil (M.ReadDWORD dwHead) = true
  root : Holds (mapLinks M) (M.ReadDWORD dwHead) t
    ((mapLinks M).parent (M.ReadDWORD dwHead))
  first : (mapLinks M).left (M.ReadDWORD dwHead) = leftmost t (M.ReadDWORD dwHead)
  nodup : (inorder t).Nodup

instance (M : GameMemory) (dwHead : DWORD) (t : BinaryTree DWORD) :
    Decidable (MapAt M dwHead t) :=
  decidable_of_iff
    (M.ReadDWORD (dwHead + 0x4) = UInt32.ofNat t.numNodes ∧
      (mapLinks M).isNil (M.ReadDWORD dwHead) = true ∧
      Holds (mapLinks M) (M.ReadDWORD dwHead) t
        ((mapLinks M).parent (M.ReadDWORD dwHead)) ∧
      (mapLinks M).left (M.ReadDWORD dwHead) = leftmost t (M.ReadDWORD dwHead) ∧
      (inorder t).Nodup)
    ⟨fun h => ⟨h.1, h.2.1, h.2.2.1, h.2.2.2.1, h.2.2.2.2⟩,
      fun h => ⟨h.count, h.isNil, h.root, h.first, h.nodup⟩⟩

variable {M : GameMemory} {t : BinaryTree DWORD} {dwHead : DWORD}

/-!
## The loops are the walk
-/

theorem isNil_iff (dwNode : DWORD) :
    (mapLinks M).isNil dwNode = true ↔ M.ReadBYTE (dwNode + 0x39) ≠ 0 :=
  bne_iff_ne

theorem loop2Up_eq (n : Nat) (dwNode i : DWORD) :
    loop2Up M n dwNode i = up (mapLinks M) n dwNode i := by
  induction n generalizing dwNode i with
  | zero => rfl
  | succ n ih =>
      unfold loop2Up up
      by_cases hnil : (mapLinks M).isNil i = true
      · rw [if_pos hnil, if_neg ((isNil_iff i).mp hnil)]
      · rw [if_neg hnil, if_pos (not_not.mp fun h => hnil ((isNil_iff i).mpr h)), ih]
        rfl

theorem loop2Down_eq (n : Nat) (dwNode j : DWORD) :
    loop2Down M n dwNode j = down (mapLinks M) n dwNode j := by
  induction n generalizing dwNode j with
  | zero => rfl
  | succ n ih =>
      unfold loop2Down down
      by_cases hnil : (mapLinks M).isNil j = true
      · rw [if_pos hnil, if_neg ((isNil_iff j).mp hnil)]
      · rw [if_neg hnil, if_pos (not_not.mp fun h => hnil ((isNil_iff j).mpr h)), ih]
        rfl

theorem nextNode_eq (dwNode : DWORD) :
    nextNode M dwNode =
      if (mapLinks M).isNil dwNode then dwNode
      else next (mapLinks M) nMaxLoopCount dwNode := by
  unfold nextNode next
  by_cases hnil : (mapLinks M).isNil dwNode = true
  · rw [if_pos hnil, if_neg ((isNil_iff dwNode).mp hnil)]
  · rw [if_neg hnil, if_pos (not_not.mp fun h => hnil ((isNil_iff dwNode).mpr h)),
      loop2Up_eq]
    show (if M.ReadBYTE ((mapLinks M).right dwNode + 0x39) ≠ 0 then _
      else loop2Down M nMaxLoopCount _ _) = _
    rw [loop2Down_eq]
    by_cases hright : (mapLinks M).isNil ((mapLinks M).right dwNode) = true
    · rw [if_pos hright, if_pos ((isNil_iff _).mp hright)]
      rfl
    · rw [if_neg hright, if_neg (fun h => hright ((isNil_iff _).mpr h))]
      rfl

theorem loop1_eq (n : Nat) (dwNode : DWORD) :
    loop1 M dwHead n dwNode =
      (walk (mapLinks M) nMaxLoopCount (M.ReadDWORD dwHead) n dwNode).map
        (skillWord M) := by
  induction n generalizing dwNode with
  | zero => rfl
  | succ n ih =>
      unfold loop1 walk
      by_cases hhead : dwNode = M.ReadDWORD dwHead
      · rw [if_neg (not_not.mpr hhead), if_pos hhead]
        rfl
      · rw [if_pos hhead, if_neg hhead, List.map_cons, ih, nextNode_eq]
        rfl

theorem MapAt.loop1 (h : MapAt M dwHead t) (hne : t ≠ .nil) (hsize : t.numNodes ≤ 100) :
    loop1 M dwHead nMaxLoopCount (M.ReadDWORD (M.ReadDWORD dwHead)) =
      (inorder t).map (skillWord M) := by
  have hhead : M.ReadDWORD dwHead ∉ inorder t := by
    intro hmem
    have hfalse := h.root.mem_not_nil hmem
    rw [h.isNil] at hfalse
    cases hfalse
  have hfirst : M.ReadDWORD (M.ReadDWORD dwHead) =
      leftmost t ((mapLinks M).parent (M.ReadDWORD dwHead)) :=
    h.first.trans (leftmost_of_ne hne _ _)
  rw [loop1_eq, hfirst]
  exact congrArg (List.map (skillWord M))
    (walk_inorder h.root h.isNil hne h.nodup hhead hsize hsize)

theorem MapAt.mapSkills {k : Nat} (h : MapAt M (mapHead M k) t)
    (hsize : t.numNodes ≤ 100) : mapSkills M k = (inorder t).map (skillWord M) := by
  have hcount : M.ReadDWORD (mapsAddr M + UInt32.ofNat k * 3 * 4) =
      UInt32.ofNat t.numNodes := by
    have hcount := h.count
    rwa [mapHead, UInt32.sub_add_cancel] at hcount
  unfold CObjectTraverse.mapSkills
  show (if M.ReadDWORD (mapsAddr M + UInt32.ofNat k * 3 * 4) = 0 then [] else _) = _
  rw [hcount]
  by_cases hnone : t = .nil
  · rw [hnone]
    rfl
  · have hpos := one_le_numNodes hnone
    have hne : UInt32.ofNat t.numNodes ≠ 0 := by
      intro hzero
      have hnat := congrArg UInt32.toNat hzero
      rw [UInt32.toNat_ofNat_of_lt' (by show _ < 2 ^ 32; omega)] at hnat
      exact absurd hnat (Nat.ne_of_gt hpos)
    rw [if_neg hne]
    exact h.loop1 hnone hsize

theorem mapSkills_length (M : GameMemory) (k : Nat) : (mapSkills M k).length ≤ 100 := by
  unfold mapSkills
  show (if _ then [] else _ : List DWORD).length ≤ 100
  split
  · exact Nat.zero_le 100
  · rw [loop1_eq, List.length_map]
    exact walk_length _ _ _ _ _

/--
Over maps of at most a hundred nodes the word of every node is appended, map by
map and in order; whatever the memory holds, at most seven hundred words are.
-/
theorem getHideUiSkillList_inorder :
    (forall (M : GameMemory) (vlst : List DWORD) (trees : Nat -> BinaryTree DWORD),
      (forall k, k < 7 -> MapAt M (mapHead M k) (trees k) ∧
        (trees k).numNodes ≤ 100) ->
      getHideUiSkillList M vlst =
        vlst ++ (List.range 7).flatMap fun k =>
          (inorder (trees k)).map (skillWord M)) ∧
      forall (M : GameMemory) (vlst : List DWORD),
        vlst <+: getHideUiSkillList M vlst ∧
          (getHideUiSkillList M vlst).length ≤ vlst.length + 700 := by
  constructor
  · intro M vlst trees hmaps
    unfold getHideUiSkillList
    congr 1
    refine List.flatMap_congr ?_
    intro k hk
    rcases hmaps k (List.mem_range.mp hk) with ⟨hmap, hsize⟩
    exact hmap.mapSkills hsize
  · intro M vlst
    refine ⟨List.prefix_append _ _, ?_⟩
    unfold getHideUiSkillList
    rw [List.length_append, List.length_flatMap]
    have hsum : forall ks : List Nat,
        (ks.map fun k => (mapSkills M k).length).sum ≤ ks.length * 100 := by
      intro ks
      induction ks with
      | nil => exact Nat.le_refl 0
      | cons k ks ih =>
          have hle := mapSkills_length M k
          rw [List.map_cons, List.sum_cons, List.length_cons]
          omega
    exact Nat.add_le_add_left (hsum (List.range 7)) vlst.length

/-!
## Three skills
-/

def threeSkills : GameMemory :=
  GameMemory.ofWords ([(0x1844, 0x2000), (0x2064, 0x3004), (0x3000, 0x4000), (0x3004, 3),
    (0x4000, 0x5000), (0x4004, 0x5100), (0x4008, 0x5200), (0x4039, 1),
    (0x5000, 0x4000), (0x5004, 0x5100), (0x5008, 0x4000), (0x5018, 10),
    (0x5100, 0x5000), (0x5104, 0x4000), (0x5108, 0x5200), (0x5118, 20),
    (0x5200, 0x4000), (0x5204, 0x5100), (0x5208, 0x4000), (0x5218, 30)] ++
    (List.range' 1 6).flatMap fun k =>
      let dwHeadNode := 0x6000 + UInt32.ofNat k * 0x100
      [(0x3000 + UInt32.ofNat k * 12, dwHeadNode), (dwHeadNode, dwHeadNode),
        (dwHeadNode + 0x4, dwHeadNode), (dwHeadNode + 0x39, 1)])

def threeNodes (k : Nat) : BinaryTree DWORD :=
  if k = 0 then .node 0x5100 (.node 0x5000 .nil .nil) (.node 0x5200 .nil .nil)
  else .nil

theorem getHideUiSkillList_inorder_three :
    (forall k, k < 7 -> MapAt threeSkills (mapHead threeSkills k) (threeNodes k) ∧
        (threeNodes k).numNodes ≤ 100) ∧
      getHideUiSkillList threeSkills [7] = [7] ++ (List.range 7).flatMap fun k =>
        (inorder (threeNodes k)).map (skillWord threeSkills) := by
  have hmaps : forall k, k < 7 ->
      MapAt threeSkills (mapHead threeSkills k) (threeNodes k) ∧
        (threeNodes k).numNodes ≤ 100 := by decide +kernel
  exact ⟨hmaps, getHideUiSkillList_inorder.left threeSkills [7] threeNodes hmaps⟩

end CObjectTraverse
end Game
end BnsKorea
