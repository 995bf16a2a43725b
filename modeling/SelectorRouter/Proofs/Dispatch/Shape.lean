import SelectorRouter.Dispatch.Tree
import SelectorRouter.Proofs.Fallible

/-!
# The shape of dispatch trees

A sound tree is binary: its leaves are small and not empty, its inner nodes hold no
selectors, and the method ids of its leaves grow from left to right. `check_eq_ok_iff`
says that these are the trees that the check accepts. A tree that is built by splitting
has the shape, and its leaves from left to right are the list that was split.
-/

namespace SelectorRouter.Dispatch.Tree

open Fallible (bind_eq_ok)

/-- The selectors of the leaves, from left to right. -/
def inOrder (t : Tree) : List Selector :=
  t.leaves.flatten

inductive Shaped (limit : Int) : Tree → Prop
  | leaf {ss : List Selector} : ss ≠ [] → (ss.length : Int) ≤ limit → Shaped limit (node ss [])
  | inner {left right : Tree} :
      Shaped limit left → Shaped limit right → Shaped limit (node [] [left, right])

def Ascending (ss : List Selector) : Prop :=
  ss.Pairwise fun a b => a.methodId < b.methodId

theorem inOrder_leaf (ss : List Selector) : inOrder (node ss []) = ss := by
  rw [inOrder, leaves, List.flatten_singleton]

theorem leaves_inner (ss : List Selector) (left right : Tree) :
    leaves (node ss [left, right]) = left.leaves ++ right.leaves := by
  simp [leaves, leavesOfAll]

theorem inOrder_inner (ss : List Selector) (left right : Tree) :
    inOrder (node ss [left, right]) = left.inOrder ++ right.inOrder := by
  rw [inOrder, leaves_inner, List.flatten_append, ← inOrder, ← inOrder]

theorem forall_inOrder_inner {p : Selector → Prop} {ss : List Selector} {left right : Tree} :
    (∀ s ∈ inOrder (node ss [left, right]), p s) ↔
      (∀ s ∈ left.inOrder, p s) ∧ (∀ s ∈ right.inOrder, p s) := by
  rw [inOrder_inner, List.forall_mem_append]

variable {limit : Int} {t : Tree}

/-- The least selector of a tree is the first one in order. -/
theorem Shaped.least_eq_head (h : Shaped limit t) :
    ∃ s rest, t.inOrder = s :: rest ∧ t.least = .ok s := by
  induction h with
  | @leaf ss nonempty _ =>
      obtain ⟨s, rest, rfl⟩ := List.exists_cons_of_ne_nil nonempty
      exact ⟨s, rest, inOrder_leaf _, by rw [least]⟩
  | @inner left right _ _ ihl _ =>
      obtain ⟨s, rest, order, least⟩ := ihl
      exact ⟨s, rest ++ right.inOrder, by rw [inOrder_inner, order, List.cons_append],
        by rw [Tree.least, least]⟩

/-! ## Leaves by their paths -/

/-- The leaf at the end of a path from the root: `true` goes to the left, `false` to the
right. -/
def leafAt? : List Bool → Tree → Option (List Selector)
  | [], node ss [] => some ss
  | true :: path, node _ (left :: _) => leafAt? path left
  | false :: path, node _ (_ :: right :: _) => leafAt? path right
  | _, _ => none

theorem leafAt?_leaf {ss found : List Selector} {path : List Bool} :
    leafAt? path (node ss []) = some found ↔ path = [] ∧ ss = found := by
  cases path with
  | nil => simp [leafAt?]
  | cons left path => cases left <;> simp [leafAt?]

theorem leafAt?_inner {ss found : List Selector} {left right : Tree} {path : List Bool} :
    leafAt? path (node ss [left, right]) = some found ↔
      (∃ rest, path = true :: rest ∧ left.leafAt? rest = some found) ∨
        ∃ rest, path = false :: rest ∧ right.leafAt? rest = some found := by
  cases path with
  | nil => simp [leafAt?]
  | cons goesLeft path => cases goesLeft <;> simp [leafAt?]

/-- Every leaf of a tree of the right shape is small and not empty. -/
theorem Shaped.leafAt? (h : Shaped limit t) {path : List Bool} {found : List Selector}
    (at_end : t.leafAt? path = some found) : found ≠ [] ∧ (found.length : Int) ≤ limit := by
  induction h generalizing path with
  | leaf nonempty small =>
      obtain ⟨-, rfl⟩ := leafAt?_leaf.mp at_end
      exact ⟨nonempty, small⟩
  | inner _ _ ihl ihr =>
      rcases leafAt?_inner.mp at_end with ⟨rest, -, found_left⟩ | ⟨rest, -, found_right⟩
      · exact ihl found_left
      · exact ihr found_right

/-! ## What the check accepts -/

theorem checkOrder_append (ss ts : List Selector) : ∀ previous,
    checkOrder previous (ss ++ ts) = checkOrder previous ss >>= fun last => checkOrder last ts := by
  induction ss with
  | nil =>
      intro previous
      rw [List.nil_append, checkOrder]
      rfl
  | cons s ss ih =>
      intro previous
      cases previous with
      | none => rw [List.cons_append, checkOrder, checkOrder, ih]
      | some p =>
          rw [List.cons_append, checkOrder, checkOrder, ih]
          split
          · rfl
          · split <;> rfl

/-- The order of a list is accepted when the list ascends, and from where it was left. -/
theorem checkOrder_eq_ok : ∀ {ss : List Selector} {previous last : Option Selector},
    checkOrder previous ss = .ok last ↔
      Ascending (previous.toList ++ ss) ∧ last = (previous.toList ++ ss).getLast?
  | [], none, last => by simp [checkOrder, Ascending, eq_comm]
  | [], some p, last => by simp [checkOrder, Ascending, eq_comm]
  | s :: ss, none, last => by
      rw [checkOrder, checkOrder_eq_ok]
      rfl
  | s :: ss, some p, last => by
      have split : Ascending ([p] ++ s :: ss) ↔ p.methodId < s.methodId ∧ Ascending (s :: ss) := by
        constructor
        · intro h
          obtain ⟨first, rest⟩ := List.pairwise_cons.mp h
          exact ⟨first s List.mem_cons_self, rest⟩
        · rintro ⟨first, rest⟩
          refine List.pairwise_cons.mpr ⟨fun b hb => ?_, rest⟩
          rcases List.mem_cons.mp hb with rfl | hb
          · exact first
          · exact Int.lt_trans first ((List.pairwise_cons.mp rest).1 b hb)
      rw [checkOrder]
      by_cases h : p.methodId < s.methodId
      · rw [if_pos h, checkOrder_eq_ok, Option.toList_some, Option.toList_some, split]
        simp [h]
      · rw [if_neg h, Option.toList_some, split]
        simp only [h, false_and, iff_false]
        split <;> simp

theorem checkAllAfter_singleton (previous : Option Selector) :
    checkAllAfter limit previous [t] = checkAfter limit previous t := by
  rw [checkAllAfter]
  cases checkAfter limit previous t <;> rfl

theorem checkAfter_inner (left right : Tree) (previous : Option Selector) :
    checkAfter limit previous (node [] [left, right]) =
      checkAfter limit previous left >>= fun last => checkAfter limit last right := by
  rw [checkAfter, if_neg fun h => h rfl, if_neg fun h => h rfl]
  simp only [checkAllAfter_singleton]

theorem checkAfter_eq_checkOrder (h : Shaped limit t) : ∀ previous,
    checkAfter limit previous t = checkOrder previous t.inOrder := by
  induction h with
  | leaf nonempty small =>
      intro previous
      rw [checkAfter, if_pos ⟨List.length_pos_iff.mpr nonempty, small⟩, inOrder_leaf]
  | inner _ _ ihl ihr =>
      intro previous
      rw [checkAfter_inner, ihl, inOrder_inner, checkOrder_append]
      simp only [ihr]

theorem shaped_of_checkAfter : ∀ {t : Tree} {previous last : Option Selector},
    checkAfter limit previous t = .ok last → Shaped limit t
  | node ss [], previous, last, h => by
      rw [checkAfter] at h
      split at h
      case isTrue bounds => exact .leaf (List.length_pos_iff.mp bounds.1) bounds.2
      case isFalse => cases h
  | node ss [child], previous, last, h => by
      rw [checkAfter] at h
      split at h
      · cases h
      · cases h
  | node ss [left, right], previous, last, h => by
      cases ss with
      | nil =>
          rw [checkAfter_inner, bind_eq_ok] at h
          obtain ⟨middle, hl, hr⟩ := h
          exact .inner (shaped_of_checkAfter hl) (shaped_of_checkAfter hr)
      | cons s ss =>
          rw [checkAfter, if_pos (List.cons_ne_nil s ss)] at h
          cases h
  | node ss (first :: second :: third :: rest), previous, last, h => by
      -- no node with three children is accepted, whatever it holds
      rw [checkAfter] at h
      split at h
      · cases h
      · cases h

/-- **The check accepts exactly the sound trees.** -/
theorem check_eq_ok_iff : t.check limit = .ok () ↔ Shaped limit t ∧ Ascending t.inOrder := by
  constructor
  · intro h
    cases result : checkAfter limit none t with
    | error fault =>
        rw [check, result] at h
        cases h
    | ok last =>
        have shaped := shaped_of_checkAfter result
        rw [checkAfter_eq_checkOrder shaped, checkOrder_eq_ok] at result
        exact ⟨shaped, result.1⟩
  · rintro ⟨shaped, ascending⟩
    have order : checkOrder none t.inOrder = .ok t.inOrder.getLast? :=
      checkOrder_eq_ok.mpr ⟨ascending, rfl⟩
    rw [check, checkAfter_eq_checkOrder shaped, order]
    rfl

/-! ## Trees built by splitting -/

theorem inOrder_split (limit : Nat) (positive : 0 < limit) (ss : List Selector) :
    (split limit positive ss).inOrder = ss := by
  fun_induction split limit positive ss with
  | case1 ss small => exact inOrder_leaf ss
  | case2 ss large middle ihl ihr => rw [inOrder_inner, ihl, ihr, List.take_append_drop]

/-- Splitting a list that is not empty gives a tree of the right shape. -/
theorem shaped_split (limit : Nat) (positive : 0 < limit) {ss : List Selector} (h : ss ≠ []) :
    Shaped limit (split limit positive ss) := by
  fun_induction split limit positive ss with
  | case1 ss small => exact .leaf h (Int.ofNat_le.mpr small)
  | case2 ss large middle ihl ihr =>
      refine .inner (ihl ?_) (ihr ?_)
      · rw [← List.length_pos_iff, List.length_take]
        omega
      · rw [← List.length_pos_iff, List.length_drop]
        omega

/-- A short list is built into a leaf. -/
theorem build_of_short {limit : Int} {ss : List Selector} (nonempty : ss ≠ [])
    (h : (ss.length : Int) ≤ limit) : build limit ss = .ok (leaf ss) := by
  have length := List.length_pos_iff.mpr nonempty
  rw [build, dif_pos (by omega), split, dif_pos (by omega)]

/-- A list that is too long for one leaf, but not for two, is built into a guard of two. -/
theorem build_of_two {limit : Int} {ss : List Selector} (positive : 0 < limit)
    (long : limit < ss.length) (h : (ss.length : Int) ≤ 2 * limit) :
    build limit ss = .ok (node []
      [leaf (ss.take ((ss.length + 1) / 2)), leaf (ss.drop ((ss.length + 1) / 2))]) := by
  have left : (ss.take ((ss.length + 1) / 2)).length ≤ limit.toNat := by
    rw [List.length_take]
    omega
  have right : (ss.drop ((ss.length + 1) / 2)).length ≤ limit.toNat := by
    rw [List.length_drop]
    omega
  rw [build, dif_pos positive, split, dif_neg (by omega)]
  show Except.ok (node [] [split _ _ (ss.take _), split _ _ (ss.drop _)]) = _
  rw [split, dif_pos left, split, dif_pos right]

/-- The tree that is built of selectors has the right shape and holds them in order. -/
theorem exists_build {limit : Int} (positive : 0 < limit) {ss : List Selector} (h : ss ≠ []) :
    ∃ tree, build limit ss = .ok tree ∧ Shaped limit tree ∧ tree.inOrder = ss := by
  have shaped := shaped_split limit.toNat (by omega) h
  rw [Int.toNat_of_nonneg (by omega)] at shaped
  exact ⟨_, dif_pos positive, shaped, inOrder_split _ _ _⟩

end SelectorRouter.Dispatch.Tree
