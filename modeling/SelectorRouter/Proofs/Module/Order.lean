import Mathlib.Data.List.Forall2
import Mathlib.Data.List.Sort
import SelectorRouter.Proofs.Module.Check
import SelectorRouter.Proofs.Module.Collect

/-!
# Acceptance does not depend on order

A list that ascends strictly is the only one of its permutations that does. So modules are
accepted with a list of selectors as soon as the list ascends and holds what they route, in
whatever order. A shuffle permutes the modules, and the fragments inside the ABI of each:
it changes neither the check nor the selectors that are collected.
-/

namespace SelectorRouter

open Fallible (valueOr mapM_eq_ok_iff mapM_eq_ok_map)
open Dispatch.Tree (Ascending)

/-- A list whose keys ascend strictly is determined by its members. -/
theorem eq_of_perm_of_increasing {α : Type} (key : α → Int) {l k : List α}
    (hl : l.Pairwise fun a b => key a < key b) (hk : k.Pairwise fun a b => key a < key b)
    (perm : l.Perm k) : l = k := by
  refine perm.eq_of_pairwise (fun a b _ _ lt gt => ?_) hl hk
  exact absurd gt (Int.lt_asymm lt)

/-- A sorted list of different method ids ascends. -/
theorem Selector.ascending_of_sorted {ss : List Selector}
    (sorted : ss.Pairwise fun a b => a.methodId ≤ b.methodId)
    (distinct : (ss.map (·.methodId)).Nodup) : Ascending ss :=
  (sorted.and (List.pairwise_map.mp distinct)).imp fun h => Int.lt_iff_le_and_ne.mpr h

theorem Dispatch.Tree.Ascending.nodup {ss : List Selector} (h : Ascending ss) :
    (ss.map (·.methodId)).Nodup :=
  List.pairwise_map.mpr (h.imp Int.ne_of_lt)

namespace Module

variable {router : String} {filter : FunctionFilter} {modules others : List Module} {m n : Module}
  {ss : List Selector}

/-- **Modules are accepted with the ascending list of what they route.** -/
theorem accepted_of_perm (checked : check router modules = .ok ())
    (selectors : ∀ m ∈ modules, m.selectors filter = .ok (m.routed filter))
    (perm : (modules.flatMap (routed filter)).Perm ss) (ascending : Ascending ss) :
    Accepted router filter modules ss := by
  have nonempty : ¬ modules.isEmpty = true := by
    intro empty
    rw [check, if_pos empty] at checked
    cases checked
  let sorted := (modules.flatMap (routed filter)).mergeSort fun a b => a.methodId ≤ b.methodId
  have same : sorted.Perm ss := (List.mergeSort_perm _ _).trans perm
  have eq : sorted = ss := by
    refine eq_of_perm_of_increasing Selector.methodId
      (Selector.ascending_of_sorted ?_ ?_) ascending same
    · exact Selector.sorted_mergeSort _
    · exact (same.map _).nodup_iff.mpr ascending.nodup
  refine ⟨checked, ?_, ?_⟩
  · rw [collect, if_neg nonempty, mapM_eq_ok_map selectors, ← eq]
    show Except.ok ((modules.map (routed filter)).flatten.mergeSort _) = _
    rw [← List.flatMap_def]
  · rw [Selector.validate, Selector.collisions_eq_nil_iff.mpr ascending.nodup]
    rfl

/-! ## Shuffled modules -/

/-- The same module with the fragments of its ABI in another order. -/
structure Reordered (m n : Module) : Prop where
  name : m.name = n.name
  address : m.address = n.address
  abi : m.abi.Perm n.abi

/-- The same modules in another order, each with its ABI in another order. -/
def Shuffled (modules others : List Module) : Prop :=
  ∃ middle, modules.Perm middle ∧ List.Forall₂ Reordered middle others

theorem Reordered.checksumAddress_eq (h : Reordered m n) :
    m.checksumAddress = n.checksumAddress := by
  rw [checksumAddress, checksumAddress, h.address, h.name]

/-- A reordered ABI has the same selectors in another order. -/
theorem Reordered.selectors (h : Reordered m n) (ok : m.selectors filter = .ok (m.routed filter)) :
    n.selectors filter = .ok (n.routed filter) ∧ (m.routed filter).Perm (n.routed filter) := by
  have functions : (Function.ofAbi m.abi filter).Perm (Function.ofAbi n.abi filter) :=
    (h.abi.filterMap _).filter _
  have step : m.selectorOf = n.selectorOf := by
    funext f
    rw [selectorOf, selectorOf, h.name]
  obtain ⟨each, eq⟩ := (mapM_eq_ok_iff default).mp ok
  rw [step] at each eq
  have later : n.selectors filter =
      .ok ((Function.ofAbi n.abi filter).map fun f => valueOr default (n.selectorOf f)) :=
    mapM_eq_ok_map fun f hf => each f (functions.mem_iff.mpr hf)
  have routed_eq : n.routed filter =
      (Function.ofAbi n.abi filter).map fun f => valueOr default (n.selectorOf f) := by
    rw [routed, later, Fallible.valueOr_ok]
  rw [routed_eq, eq]
  exact ⟨later, functions.map _⟩

theorem flatMap_routed_perm (h : List.Forall₂ Reordered modules others)
    (ok : ∀ m ∈ modules, m.selectors filter = .ok (m.routed filter)) :
    (modules.flatMap (routed filter)).Perm (others.flatMap (routed filter)) := by
  induction h with
  | nil => exact .refl _
  | cons same _ ih =>
      obtain ⟨first, rest⟩ := List.forall_mem_cons.mp ok
      rw [List.flatMap_cons, List.flatMap_cons]
      exact (same.selectors first).2.append (ih rest)

/-- What holds of all modules, and does not depend on the order of an ABI, holds of all
shuffled modules. -/
theorem Shuffled.forall {p : Module → Prop} (h : Shuffled modules others)
    (transfer : ∀ m n, Reordered m n → p m → p n) (all : ∀ m ∈ modules, p m) :
    ∀ n ∈ others, p n := by
  obtain ⟨middle, perm, each⟩ := h
  have all : ∀ m ∈ middle, p m := fun m hm => all m (perm.mem_iff.mpr hm)
  clear perm
  induction each with
  | nil => exact List.forall_mem_nil _
  | @cons m n _ _ same _ ih =>
      obtain ⟨first, rest⟩ := List.forall_mem_cons.mp all
      exact List.forall_mem_cons.mpr ⟨transfer m n same first, ih rest⟩

/-- What does not depend on the order of an ABI is permuted with the modules. -/
theorem Shuffled.map_perm {α : Type} {f : Module → α} (h : Shuffled modules others)
    (transfer : ∀ m n, Reordered m n → f m = f n) : (modules.map f).Perm (others.map f) := by
  obtain ⟨middle, perm, each⟩ := h
  have same : middle.map f = others.map f := by
    rw [← List.forall₂_eq_eq_eq, List.forall₂_map_left_iff, List.forall₂_map_right_iff]
    exact each.imp transfer
  rw [← same]
  exact perm.map f

theorem Shuffled.stringNames (h : Shuffled modules others) (names : StringNames modules) :
    StringNames others :=
  h.forall (fun _ _ same named => same.name ▸ named) names

theorem Shuffled.check_eq_ok (h : Shuffled modules others) (names : StringNames modules)
    (checked : check router modules = .ok ()) : check router others = .ok () := by
  obtain ⟨nonempty, sound⟩ := (check_eq_ok_iff names).mp checked
  have perm := h.map_perm fun _ _ same => same.name
  refine (check_eq_ok_iff (h.stringNames names)).mpr ⟨?_, ?_, ?_⟩
  · rintro rfl
    exact nonempty (List.map_eq_nil_iff.mp perm.eq_nil)
  · exact perm.nodup_iff.mp sound.distinct
  · exact h.forall (fun _ _ same hex => same.address ▸ hex) sound.addressed

/-- **Shuffled modules are accepted with the same selectors.** -/
theorem Accepted.shuffled (accepted : Accepted router filter modules ss)
    (names : StringNames modules) (h : Shuffled modules others) :
    Accepted router filter others ss := by
  have selectors := h.forall (fun _ _ same ok => (same.selectors ok).1) accepted.selectors
  refine accepted_of_perm (h.check_eq_ok names accepted.checked) selectors ?_ accepted.ascending
  obtain ⟨middle, perm, each⟩ := h
  have inside := flatMap_routed_perm each fun m hm => accepted.selectors m (perm.mem_iff.mpr hm)
  exact inside.symm.trans ((perm.flatMap_right _).symm.trans accepted.perm.symm)

end Module

end SelectorRouter
