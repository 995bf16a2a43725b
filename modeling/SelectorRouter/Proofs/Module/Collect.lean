import SelectorRouter.Proofs.Abi.Function
import SelectorRouter.Proofs.Module

/-!
# Collected selectors

Selectors can be collected when every function that passes the filter has a signature;
otherwise the first function without one is at fault, in the order of the modules and of
their ABIs. The method ids that are collected are those of the functions, so they collide
exactly when two functions have the same one.
-/

namespace SelectorRouter

open Fallible (FirstFault mapM_eq_error_iff mapM_flatMap_eq_error firstFault_congr bind_eq_error)

variable {router : String} {filter : FunctionFilter} {modules : List Module} {m : Module}
  {ss : List Selector} {fault : Fault}

/-- The method id of a function that has a signature. -/
def Function.methodId? (f : Function) : Option Int :=
  match f.signature with
  | .ok signature => some (methodId signature)
  | .error _ => none

namespace Module

/-- The functions that pass the filter, in the order of the modules and of their ABIs. -/
def functions (filter : FunctionFilter) (modules : List Module) : List Function :=
  modules.flatMap fun m => Function.ofAbi m.abi filter

/-! ## The first function without a signature -/

theorem selectorOf_eq_error_iff {f : Function} :
    m.selectorOf f = .error fault ↔ f.signature = .error fault := by
  rw [selectorOf, bind_eq_error]
  constructor
  · rintro (refused | ⟨signature, -, ⟨⟩⟩)
    exact refused
  · exact Or.inl

theorem selectors_eq_error_iff : m.selectors filter = .error fault ↔
    (Function.ofAbi m.abi filter).mapM Function.signature = .error fault := by
  rw [selectors, mapM_eq_error_iff, mapM_eq_error_iff]
  exact firstFault_congr fun _ _ => selectorOf_eq_error_iff

/-- **Collecting stops at the first function without a signature.** -/
theorem collect_eq_error_iff (nonempty : modules ≠ []) :
    collect router filter modules = .error fault ↔
      FirstFault Function.signature (functions filter modules) fault := by
  rw [collect, if_neg (by rwa [List.isEmpty_iff]), bind_eq_error, ← mapM_eq_error_iff, functions,
    ← mapM_flatMap_eq_error fun m _ fault => @selectors_eq_error_iff filter m fault]
  constructor
  · rintro (refused | ⟨all, -, ⟨⟩⟩)
    exact refused
  · exact Or.inl

theorem exists_collect (nonempty : modules ≠ [])
    (readable : ∀ f ∈ functions filter modules, f.Readable) :
    ∃ ss, collect router filter modules = .ok ss := by
  rw [Fallible.exists_eq_ok_iff]
  intro fault refused
  obtain ⟨before, f, after, eq, -, unsigned⟩ := (collect_eq_error_iff nonempty).mp refused
  have member : f ∈ functions filter modules := by
    rw [eq]
    exact List.mem_append_right _ List.mem_cons_self
  obtain ⟨signature, signed⟩ := Function.exists_signature_iff.mpr (readable f member)
  rw [signed] at unsigned
  cases unsigned

theorem readable_of_collect (h : collect router filter modules = .ok ss) :
    ∀ f ∈ functions filter modules, f.Readable := by
  intro f hf
  obtain ⟨m, hm, member⟩ := List.mem_flatMap.mp hf
  obtain ⟨s, selected⟩ := Fallible.exists_ok_of_mapM ((collect_eq_ok h).1 m hm) f member
  obtain ⟨signature, signed, -⟩ := selectorOf_eq_ok.mp selected
  exact Function.exists_signature_iff.mp ⟨signature, signed⟩

/-! ## Method ids -/

theorem methodIds_routed (h : m.selectors filter = .ok (m.routed filter)) :
    (m.routed filter).map (fun s => some s.methodId) =
      (Function.ofAbi m.abi filter).map Function.methodId? := by
  obtain ⟨each, eq⟩ := (Fallible.mapM_eq_ok_iff default).mp h
  rw [eq, List.map_map]
  apply List.map_congr_left
  intro f hf
  obtain ⟨signature, signed, value⟩ := selectorOf_eq_ok.mp (each f hf)
  simp only [Function.comp_apply, value, Function.methodId?, signed]

/-- The collected method ids are those of the functions, sorted. -/
theorem methodIds_perm (h : collect router filter modules = .ok ss) :
    (ss.map fun s => some s.methodId).Perm ((functions filter modules).map Function.methodId?) := by
  obtain ⟨selectors, rfl⟩ := collect_eq_ok h
  refine ((List.mergeSort_perm _ _).map _).trans (List.Perm.of_eq ?_)
  -- the sort is a permutation, and module by module the ids are the same
  rw [functions, List.map_flatMap, List.map_flatMap]
  exact List.flatMap_congr fun m hm => methodIds_routed (selectors m hm)

theorem eq_nil_iff_of_collect (h : collect router filter modules = .ok ss) :
    ss = [] ↔ functions filter modules = [] := by
  have length := (methodIds_perm h).length_eq
  rw [List.length_map, List.length_map] at length
  rw [← List.length_eq_zero_iff, length, List.length_eq_zero_iff]

theorem inRange_of_collect (h : collect router filter modules = .ok ss) :
    ss.all Selector.inRange = true := by
  obtain ⟨selectors, rfl⟩ := collect_eq_ok h
  rw [List.all_eq_true]
  intro s hs
  rw [List.mem_mergeSort, List.mem_flatMap] at hs
  obtain ⟨m, hm, routed⟩ := hs
  obtain ⟨low, high⟩ := inRange_of_mem_routed (selectors m hm) routed
  rw [Selector.inRange, FourBytes.ofInt?, if_pos ⟨low, high⟩]
  rfl

end Module

/-! ## Collisions -/

namespace Selector

def renameHint : String :=
  "rename one of the functions in each group so the selectors differ"

theorem collisions_eq_nil_iff : collisions ss = [] ↔ (ss.map (·.methodId)).Nodup := by
  rw [collisions, List.filter_eq_nil_iff, List.nodup_iff_count_le_one]
  have counted : ∀ s, (ss.map (·.methodId)).count s = ss.countP fun t => t.methodId == s := by
    intro s
    rw [List.count, List.countP_map]
    rfl
  simp only [shared, decide_eq_true_eq, Nat.not_lt, counted]
  constructor
  · intro once id
    -- an id that no selector has is counted zero times
    by_cases used : ∃ s ∈ ss, s.methodId = id
    · obtain ⟨s, hs, rfl⟩ := used
      exact once s hs
    · rw [List.countP_eq_zero.mpr fun t ht same => used ⟨t, ht, beq_iff_eq.mp same⟩]
      exact Nat.zero_le 1
  · intro once s _
    exact once s.methodId

/-- Colliding selectors are refused together, when all method ids are in range. -/
theorem validate_eq (h : ss.all inRange = true) :
    validate ss = if (ss.map (·.methodId)).Nodup then .ok ()
      else .error (.selectorCollision (collisions ss) (some renameHint)) := by
  have colliding : (collisions ss).all inRange = true := by
    rw [List.all_eq_true] at h ⊢
    intro s hs
    exact h s (List.mem_of_mem_filter hs)
  rw [validate, collisionReport, colliding, if_pos rfl]
  simp only [List.isEmpty_iff, collisions_eq_nil_iff]
  rfl

end Selector

/-- Collected selectors collide when two functions have the same method id. -/
theorem Module.validate_eq_of_collect (h : collect router filter modules = .ok ss) :
    Selector.validate ss =
      if ((functions filter modules).map Function.methodId?).Nodup then .ok ()
      else .error (.selectorCollision (Selector.collisions ss) (some Selector.renameHint)) := by
  have same : (ss.map (·.methodId)).Nodup ↔
      ((functions filter modules).map Function.methodId?).Nodup := by
    have labelled : ss.map (fun s => some s.methodId) = (ss.map (·.methodId)).map some := by
      rw [List.map_map]
      rfl
    rw [← (methodIds_perm h).nodup_iff, labelled, List.nodup_map_iff fun _ _ => Option.some.inj]
  rw [Selector.validate_eq (inRange_of_collect h)]
  simp only [same]

end SelectorRouter
