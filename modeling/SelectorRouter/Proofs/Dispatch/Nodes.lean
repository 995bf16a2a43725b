import SelectorRouter.Proofs.Dispatch.Shape

/-!
# The nodes of a dispatch tree

A node is named by its path: which child to take at the root, which one below it, and so on.
Paths reach every node of a tree of any shape, so a condition on all nodes can be said without
following the walk of the check. `check_eq_ok_iff_nodes` says in these words which trees the
check accepts, and `check_build_iff` which lists are built into such a tree.
-/

namespace SelectorRouter.Dispatch.Tree

/-- The node at a path of child positions from the root. -/
def nodeAt? : List Nat → Tree → Option Tree
  | [], t => some t
  | i :: path, node _ children => children[i]?.bind (nodeAt? path)

/-- A condition on the selectors and the children of every node of a tree. -/
def Everywhere (p : List Selector → List Tree → Prop) (t : Tree) : Prop :=
  ∀ path ss children, t.nodeAt? path = some (node ss children) → p ss children

/-- What a sound tree asks of one node. A node without children is a leaf. -/
def Proper (limit : Int) (ss : List Selector) : List Tree → Prop
  | [] => 1 ≤ ss.length ∧ (ss.length : Int) ≤ limit
  | child :: rest => ss = [] ∧ (child :: rest).length = 2

variable {limit : Int} {p : List Selector → List Tree → Prop} {ss : List Selector}
  {children : List Tree} {t : Tree}

/-! ## Paths -/

@[simp]
theorem nodeAt?_nil : t.nodeAt? [] = some t := by rw [nodeAt?]

theorem nodeAt?_cons {i : Nat} {path : List Nat} :
    (node ss children).nodeAt? (i :: path) = some t ↔
      ∃ child, children[i]? = some child ∧ child.nodeAt? path = some t := by
  rw [nodeAt?, Option.bind_eq_some_iff]

theorem nodeAt?_append (path rest : List Nat) : ∀ t : Tree,
    t.nodeAt? (path ++ rest) = (t.nodeAt? path).bind (nodeAt? rest) := by
  induction path with
  | nil =>
      intro t
      rw [List.nil_append, nodeAt?_nil, Option.bind_some]
  | cons i path ih =>
      rintro ⟨ss, children⟩
      rw [List.cons_append, nodeAt?, nodeAt?, Option.bind_assoc]
      exact congrArg _ (funext ih)

theorem nodeAt?_leaf {path : List Nat} :
    (node ss []).nodeAt? path = some t ↔ path = [] ∧ node ss [] = t := by
  cases path with
  | nil => simp
  | cons i path => simp [nodeAt?]

theorem nodeAt?_inner {left right : Tree} {path : List Nat} :
    (node ss [left, right]).nodeAt? path = some t ↔
      path = [] ∧ node ss [left, right] = t ∨
      (∃ rest, path = 0 :: rest ∧ left.nodeAt? rest = some t) ∨
      ∃ rest, path = 1 :: rest ∧ right.nodeAt? rest = some t := by
  match path with
  | [] => simp
  | 0 :: path => simp [nodeAt?]
  | 1 :: path => simp [nodeAt?]
  | (i + 2) :: path => simp [nodeAt?]

/-- A condition holds everywhere when it holds at the root and everywhere in each child. -/
theorem everywhere_node :
    Everywhere p (node ss children) ↔ p ss children ∧ ∀ child ∈ children, Everywhere p child := by
  constructor
  · intro h
    refine ⟨h [] ss children nodeAt?_nil, ?_⟩
    intro child hchild path rs grandchildren at_end
    obtain ⟨i, hi⟩ := List.mem_iff_getElem?.mp hchild
    exact h (i :: path) rs grandchildren (nodeAt?_cons.mpr ⟨child, hi, at_end⟩)
  · rintro ⟨here, below⟩ path rs grandchildren at_end
    cases path with
    | nil =>
        rw [nodeAt?_nil] at at_end
        cases at_end
        exact here
    | cons i path =>
        obtain ⟨child, hi, rest⟩ := nodeAt?_cons.mp at_end
        exact below child (List.mem_of_getElem? hi) path rs grandchildren rest

/-- A condition that holds everywhere holds everywhere below a node. -/
theorem Everywhere.of_nodeAt? (h : Everywhere p t) {path : List Nat} {sub : Tree}
    (at_end : t.nodeAt? path = some sub) : Everywhere p sub := by
  intro rest ss children found
  refine h (path ++ rest) ss children ?_
  rw [nodeAt?_append, at_end, Option.bind_some]
  exact found

/-! ## Sound trees, node by node -/

theorem Shaped.everywhere (h : Shaped limit t) : Everywhere (Proper limit) t := by
  induction h with
  | leaf nonempty small =>
      rw [everywhere_node]
      exact ⟨⟨List.length_pos_iff.mpr nonempty, small⟩, List.forall_mem_nil _⟩
  | inner _ _ ihl ihr =>
      rw [everywhere_node]
      refine ⟨⟨rfl, rfl⟩, ?_⟩
      intro child hchild
      simp only [List.mem_cons, List.not_mem_nil, or_false] at hchild
      rcases hchild with rfl | rfl
      · exact ihl
      · exact ihr

theorem shaped_of_everywhere : ∀ {t : Tree}, Everywhere (Proper limit) t → Shaped limit t
  | node ss [], h => by
      obtain ⟨⟨nonempty, small⟩, -⟩ := everywhere_node.mp h
      exact .leaf (List.length_pos_iff.mp nonempty) small
  | node ss [child], h => by
      obtain ⟨⟨-, two⟩, -⟩ := everywhere_node.mp h
      cases two
  | node ss [left, right], h => by
      obtain ⟨⟨rfl, -⟩, below⟩ := everywhere_node.mp h
      exact .inner (shaped_of_everywhere (below left (by simp)))
        (shaped_of_everywhere (below right (by simp)))
  | node ss (first :: second :: third :: rest), h => by
      obtain ⟨⟨-, two⟩, -⟩ := everywhere_node.mp h
      simp at two

theorem Shaped.of_nodeAt? (h : Shaped limit t) {path : List Nat} {sub : Tree}
    (at_end : t.nodeAt? path = some sub) : Shaped limit sub :=
  shaped_of_everywhere (h.everywhere.of_nodeAt? at_end)

theorem everywhere_proper_iff : Everywhere (Proper limit) t ↔
    (∀ path ss, t.nodeAt? path = some (node ss []) → 1 ≤ ss.length ∧ (ss.length : Int) ≤ limit) ∧
      ∀ path ss child rest, t.nodeAt? path = some (node ss (child :: rest)) →
        ss = [] ∧ (child :: rest).length = 2 := by
  constructor
  · intro h
    exact ⟨fun path ss => h path ss [], fun path ss child rest => h path ss (child :: rest)⟩
  · rintro ⟨leaves, inner⟩ path ss children at_end
    cases children with
    | nil => exact leaves path ss at_end
    | cons child rest => exact inner path ss child rest at_end

/-- **What the check accepts, node by node.** A tree of any shape passes exactly when each node
without children holds between one selector and the allowed number, each node with children
holds none and has two children, and the method ids of the leaves grow from left to right. -/
theorem check_eq_ok_iff_nodes (limit : Int) (t : Tree) :
    t.check limit = .ok () ↔
      (∀ path ss, t.nodeAt? path = some (node ss []) →
        1 ≤ ss.length ∧ (ss.length : Int) ≤ limit) ∧
      (∀ path ss child rest, t.nodeAt? path = some (node ss (child :: rest)) →
        ss = [] ∧ (child :: rest).length = 2) ∧
      (t.leaves.flatten.map Selector.methodId).Pairwise (· < ·) := by
  rw [check_eq_ok_iff, List.pairwise_map, ← and_assoc, ← everywhere_proper_iff]
  exact and_congr ⟨Shaped.everywhere, shaped_of_everywhere⟩ Iff.rfl

/-! ## Trees that are built -/

/-- **The check of a built tree is a check of the list.** Whatever the order of the selectors,
their tree holds them from left to right as they were given, and it passes the check exactly
when their method ids grow. -/
theorem check_build_iff (limit : Int) (positive : 1 ≤ limit) (ss : List Selector)
    (nonempty : ss ≠ []) :
    ∃ tree, build limit ss = .ok tree ∧ tree.leaves.flatten = ss ∧
      (tree.check limit = .ok () ↔ ss.Pairwise fun a b => a.methodId < b.methodId) := by
  obtain ⟨tree, built, shaped, order⟩ := exists_build (show 0 < limit from positive) nonempty
  refine ⟨tree, built, order, ?_⟩
  rw [check_eq_ok_iff, order]
  exact and_iff_right shaped

/-- Three functions; the last two change places between the halves of the tree. -/
def swapped : List Selector :=
  [⟨.str "Token", "name", "name()", 0x06fdde03⟩, ⟨.str "Token", "symbol", "symbol()", 0x95d89b41⟩,
    ⟨.str "Vault", "owner", "owner()", 0x8da5cb5b⟩]

/-- A descent between two leaves of different halves is noticed. -/
theorem check_build_swapped : ∃ tree, build 1 swapped = .ok tree ∧
    tree.leaves.flatten = swapped ∧ tree.check 1 ≠ .ok () := by
  obtain ⟨tree, built, order, sound⟩ := check_build_iff 1 (by decide) swapped (by decide)
  refine ⟨tree, built, order, ?_⟩
  rw [Ne, sound]
  decide

end SelectorRouter.Dispatch.Tree
