import SelectorRouter.Proofs.Dispatch.Depth
import SelectorRouter.Proofs.Dispatch.Nodes

/-!
# The balance of built trees

A binary tree of some depth has room for twice as many selectors as one that is a level lower.
Splitting in the middle uses this room: no binary tree with leaves of the allowed size holds
the list at a smaller depth, all leaves lie on the last two levels, and none is less than half
full once there are two of them. `build_balanced` puts these together.
-/

namespace SelectorRouter.Dispatch.Tree

/-- A tree without a node of three children or more, that holds `count` selectors in leaves of
a size up to `limit`. -/
structure Packs (limit count : Nat) (t : Tree) : Prop where
  binary : t.Everywhere fun _ children => children.length ≤ 2
  small : ∀ leaf ∈ t.leaves, leaf.length ≤ limit
  holds : t.leaves.flatten.length = count

variable {limit : Nat} {positive : 0 < limit} {t : Tree} {found : List Selector}

/-! ## Room at a depth -/

theorem depth_inner (ss : List Selector) (left right : Tree) :
    depth (node ss [left, right]) = 1 + max left.depth right.depth := by
  simp [depth, depthOfAll]

/-- A binary tree has room for two small leaves where a tree of one level less has room for
one. -/
theorem length_flatten_leaves_le : ∀ {t : Tree},
    (t.Everywhere fun _ children => children.length ≤ 2) →
    (∀ leaf ∈ t.leaves, leaf.length ≤ limit) → t.leaves.flatten.length ≤ limit * 2 ^ t.depth
  | node ss [], _, small => by
      have here := small ss (by simp [leaves])
      simpa [leaves, depth] using here
  | node ss [child], binary, small => by
      have only : (node ss [child]).leaves = child.leaves := by simp [leaves, leavesOfAll]
      have deeper : (node ss [child]).depth = child.depth + 1 := by
        simp [depth, depthOfAll, Nat.add_comm]
      rw [only] at small ⊢
      calc child.leaves.flatten.length ≤ limit * 2 ^ child.depth :=
            length_flatten_leaves_le ((everywhere_node.mp binary).2 child (by simp)) small
        _ ≤ limit * 2 ^ (node ss [child]).depth := by
            rw [deeper]
            exact Nat.mul_le_mul_left limit (Nat.pow_le_pow_right (by decide) (Nat.le_succ _))
  | node ss [left, right], binary, small => by
      obtain ⟨-, below⟩ := everywhere_node.mp binary
      rw [leaves_inner] at small ⊢
      obtain ⟨smallLeft, smallRight⟩ := List.forall_mem_append.mp small
      have ihl := length_flatten_leaves_le (below left (by simp)) smallLeft
      have ihr := length_flatten_leaves_le (below right (by simp)) smallRight
      -- both halves have room at the depth of the deeper one
      have roomLeft : limit * 2 ^ left.depth ≤ limit * 2 ^ max left.depth right.depth :=
        Nat.mul_le_mul_left limit (Nat.pow_le_pow_right (by decide) (Nat.le_max_left _ _))
      have roomRight : limit * 2 ^ right.depth ≤ limit * 2 ^ max left.depth right.depth :=
        Nat.mul_le_mul_left limit (Nat.pow_le_pow_right (by decide) (Nat.le_max_right _ _))
      rw [depth_inner, Nat.add_comm, Nat.pow_succ, ← Nat.mul_assoc, List.flatten_append,
        List.length_append]
      omega
  | node ss (_ :: _ :: _ :: _), binary, _ => by
      have two := (everywhere_node.mp binary).1
      simp at two

theorem Packs.fits {count : Nat} (h : Packs limit count t) : count ≤ limit * 2 ^ t.depth :=
  h.holds ▸ length_flatten_leaves_le h.binary h.small

/-! ## Leaves of shaped trees -/

/-- A shaped tree has a leaf at its depth. -/
theorem Shaped.exists_deepest {limit : Int} (h : Shaped limit t) :
    ∃ turns leaf, t.leafAt? turns = some leaf ∧ turns.length = t.depth := by
  induction h with
  | @leaf ss _ _ => exact ⟨[], ss, leafAt?_leaf.mpr ⟨rfl, rfl⟩, by simp [depth]⟩
  | @inner left right _ _ ihl ihr =>
      obtain ⟨turnsLeft, leafLeft, endLeft, depthLeft⟩ := ihl
      obtain ⟨turnsRight, leafRight, endRight, depthRight⟩ := ihr
      by_cases deeper : right.depth ≤ left.depth
      · refine ⟨true :: turnsLeft, leafLeft, leafAt?_inner.mpr (.inl ⟨_, rfl, endLeft⟩), ?_⟩
        rw [depth_inner, List.length_cons, depthLeft]
        omega
      · refine ⟨false :: turnsRight, leafRight, leafAt?_inner.mpr (.inr ⟨_, rfl, endRight⟩), ?_⟩
        rw [depth_inner, List.length_cons, depthRight]
        omega

/-- In a shaped tree a path is a sequence of turns to the left and to the right. -/
theorem Shaped.exists_turns {limit : Int} (h : Shaped limit t) : ∀ path,
    t.nodeAt? path = some (node found []) →
      ∃ turns, t.leafAt? turns = some found ∧ turns.length = path.length := by
  induction h with
  | leaf _ _ =>
      intro path at_end
      obtain ⟨rfl, same⟩ := nodeAt?_leaf.mp at_end
      cases same
      exact ⟨[], leafAt?_leaf.mpr ⟨rfl, rfl⟩, rfl⟩
  | inner _ _ ihl ihr =>
      intro path at_end
      rcases nodeAt?_inner.mp at_end with ⟨-, same⟩ | ⟨rest, rfl, left⟩ | ⟨rest, rfl, right⟩
      · cases same
      · obtain ⟨turns, leaf, length⟩ := ihl rest left
        exact ⟨true :: turns, leafAt?_inner.mpr (.inl ⟨turns, rfl, leaf⟩), by simp [length]⟩
      · obtain ⟨turns, leaf, length⟩ := ihr rest right
        exact ⟨false :: turns, leafAt?_inner.mpr (.inr ⟨turns, rfl, leaf⟩), by simp [length]⟩

theorem Shaped.leaf_length_le (h : Shaped limit t) : ∀ leaf ∈ t.leaves, leaf.length ≤ limit := by
  induction h with
  | leaf _ small => simpa [leaves] using small
  | inner _ _ ihl ihr =>
      rw [leaves_inner, List.forall_mem_append]
      exact ⟨ihl, ihr⟩

theorem Shaped.packs (h : Shaped limit t) : Packs limit t.inOrder.length t := by
  refine ⟨?_, h.leaf_length_le, rfl⟩
  intro path ss children at_end
  have proper := h.everywhere path ss children at_end
  cases children with
  | nil => simp
  | cons child rest => exact Nat.le_of_eq proper.2

/-! ## Built trees -/

/-- The depth of a tree that is built is the least one at which leaves of the allowed size can
hold the list. -/
theorem leastDepth_split {ss : List Selector} (nonempty : ss ≠ []) :
    LeastDepth limit ss.length (split limit positive ss).depth := by
  have shaped := shaped_split limit positive nonempty
  have packs := shaped.packs
  rw [inOrder_split] at packs
  refine ⟨packs.fits, ?_⟩
  intro other fits
  obtain ⟨turns, leaf, at_end, deepest⟩ := shaped.exists_deepest
  rw [← deepest]
  exact length_path_le ss turns other at_end fits

/-- Halving keeps leaves half full. -/
theorem half_le_length_leaf (ss : List Selector) : (limit + 1) / 2 ≤ ss.length →
    ∀ leaf ∈ (split limit positive ss).leaves, (limit + 1) / 2 ≤ leaf.length := by
  fun_induction split limit positive ss with
  | case1 ss small =>
      intro enough leaf hleaf
      rw [Tree.leaf, leaves, List.mem_singleton] at hleaf
      rw [hleaf]
      exact enough
  | case2 ss large middle ihl ihr =>
      intro _ leaf hleaf
      rw [leaves_inner, List.mem_append] at hleaf
      -- a list that is split has more than `limit` selectors, so both halves have enough
      rcases hleaf with left | right
      · refine ihl ?_ leaf left
        rw [List.length_take]
        omega
      · refine ihr ?_ leaf right
        rw [List.length_drop]
        omega

/-- **Built trees are balanced, and none is shallower.** The depth is the least one at which
leaves of the allowed size can hold the selectors, so no binary tree with such leaves holds as
many at a smaller one. Every leaf lies at this depth or one above it, and when the selectors do
not fit into a single leaf, every leaf is at least half full. -/
theorem build_balanced (limit : Nat) (positive : 0 < limit) (ss : List Selector)
    (nonempty : ss ≠ []) :
    ∃ tree, build limit ss = .ok tree ∧ Packs limit ss.length tree ∧
      LeastDepth limit ss.length tree.depth ∧
      (∀ other, Packs limit ss.length other → tree.depth ≤ other.depth) ∧
      (∀ path leaf, tree.nodeAt? path = some (node leaf []) →
        path.length = tree.depth ∨ path.length + 1 = tree.depth) ∧
      (limit < ss.length → ∀ leaf ∈ tree.leaves, (limit + 1) / 2 ≤ leaf.length) := by
  have built : build limit ss = .ok (split limit positive ss) := by
    rw [build, dif_pos (Int.natCast_pos.mpr positive)]
    simp only [Int.toNat_natCast]
  have shaped := shaped_split limit positive nonempty
  have packs := shaped.packs
  rw [inOrder_split] at packs
  have leastDepth : LeastDepth limit ss.length (split limit positive ss).depth :=
    leastDepth_split nonempty
  refine ⟨_, built, packs, leastDepth, ?_, ?_, ?_⟩
  · intro other holds
    exact leastDepth.least _ holds.fits
  · intro path leaf at_end
    obtain ⟨turns, found, length⟩ := shaped.exists_turns path at_end
    rw [← length]
    exact length_path_split found leastDepth
  · intro large
    exact half_le_length_leaf ss (by omega)

/-- Three functions do not fit on two levels when each has a leaf of its own. -/
theorem build_balanced_tokenAndVault : ∃ tree, build 1 tokenAndVault = .ok tree ∧
    tree.depth = 2 ∧ ∀ leaf ∈ tree.leaves, 1 ≤ leaf.length := by
  obtain ⟨tree, built, -, ⟨fits, least⟩, -, -, full⟩ :=
    build_balanced 1 (by decide) tokenAndVault (by decide)
  refine ⟨tree, built, ?_, full (by decide)⟩
  have upper : tree.depth ≤ 2 := least 2 (by decide)
  have lower : ¬ tree.depth ≤ 1 := by
    intro shallow
    have powers : 2 ^ tree.depth ≤ 2 ^ 1 := Nat.pow_le_pow_right (by decide) shallow
    have three : 3 ≤ 1 * 2 ^ tree.depth := fits
    omega
  omega

end SelectorRouter.Dispatch.Tree
