import SelectorRouter.Proofs.Module.Order
import SelectorRouter.Proofs.Router.Routing
import SelectorRouter.Proofs.Router.Texts

/-!
# Stricter filters

A filter that lets fewer functions pass only removes selectors: those that are left are
still in order and still differ, so no check that passed can fail. The tree that is built of
them has other leaves and other guards, but its switch is a search too. It finds what the
first switch finds, as long as the function passes the stricter filter.
-/

namespace SelectorRouter

open Fallible (valueOr mapM_eq_ok_map mapM_eq_ok_iff)
open SelectorRouter.Module (Accepted Emittable routed)

/-- Every name that passes the strict filter passes the other one. -/
def FunctionFilter.Stricter (strict filter : FunctionFilter) : Prop :=
  ∀ name, strict name = true → filter name = true

/-! ## Selectors that are kept -/

namespace Module

variable {router : String} {filter strict : FunctionFilter} {modules : List Module} {m : Module}
  {ss : List Selector}

theorem ofAbi_stricter (stricter : strict.Stricter filter) (abi : List Json) :
    Function.ofAbi abi strict = (Function.ofAbi abi filter).filter fun f => strict f.name := by
  rw [Function.ofAbi, Function.ofAbi, List.filter_filter]
  refine List.filter_congr fun f _ => ?_
  rw [Bool.eq_iff_iff, Bool.and_eq_true]
  exact ⟨fun passed => ⟨passed, stricter f.name passed⟩, And.left⟩

/-- The selectors of the functions that pass the strict filter are kept, in their order. -/
theorem selectors_stricter (stricter : strict.Stricter filter)
    (ok : m.selectors filter = .ok (m.routed filter)) :
    m.selectors strict = .ok ((m.routed filter).filter fun s => strict s.name) := by
  obtain ⟨each, eq⟩ := (mapM_eq_ok_iff default).mp ok
  have same : (Function.ofAbi m.abi filter).filter (fun f => strict f.name) =
      (Function.ofAbi m.abi filter).filter
        ((fun s => strict s.name) ∘ fun f => valueOr default (m.selectorOf f)) := by
    refine List.filter_congr fun f hf => ?_
    obtain ⟨signature, -, selector⟩ := selectorOf_eq_ok.mp (each f hf)
    rw [Function.comp_apply, selector]
  rw [selectors, ofAbi_stricter stricter, eq, List.filter_map, ← same]
  exact mapM_eq_ok_map fun f hf => each f (List.mem_of_mem_filter hf)

theorem routed_stricter (stricter : strict.Stricter filter)
    (ok : m.selectors filter = .ok (m.routed filter)) :
    m.routed strict = (m.routed filter).filter fun s => strict s.name := by
  rw [routed, selectors_stricter stricter ok, Fallible.valueOr_ok]

/-- **Accepted modules stay accepted under a stricter filter.** -/
theorem Accepted.stricter (h : Accepted router filter modules ss)
    (stricter : strict.Stricter filter) :
    Accepted router strict modules (ss.filter fun s => strict s.name) := by
  have kept : modules.flatMap (routed strict) =
      (modules.flatMap (routed filter)).filter fun s => strict s.name := by
    rw [List.filter_flatMap]
    exact List.flatMap_congr fun m hm => routed_stricter stricter (h.selectors m hm)
  refine accepted_of_perm h.checked (fun m hm => ?_) ?_ (h.ascending.filter _)
  · rw [routed_stricter stricter (h.selectors m hm)]
    exact selectors_stricter stricter (h.selectors m hm)
  · rw [kept]
    exact h.perm.symm.filter _

theorem Emittable.stricter (h : Emittable router filter modules ss)
    (stricter : strict.Stricter filter) (nonempty : (ss.filter fun s => strict s.name) ≠ []) :
    Emittable router strict modules (ss.filter fun s => strict s.name) where
  accepted := h.accepted.stricter stricter
  nonempty := nonempty
  names := h.names
  functions := fun m hm f hf => by
    rw [ofAbi_stricter stricter] at hf
    exact h.functions m hm f (List.mem_of_mem_filter hf)

end Module

namespace Router

/-- **A stricter filter only takes functions away.** Take emittable modules, and a filter
that lets fewer names pass. The modules are accepted under it too. Either nothing is left to
route, and every run says so, or both requests have texts, in which every run ends unless it
raises a warning, with the same declarations. Both switches leave the function for every
method id. The id of a function is given the same identifier by both, if the function passes
the stricter filter, and is else left to the literal 0 by the second one. An id without a
function is left to the literal 0 by both. -/
theorem execute_stricter (r : Request) (strict : FunctionFilter) (ss : List Selector)
    (h : Emittable r.shownName r.filter r.modules ss) (stricter : strict.Stricter r.filter) :
    ∃ kept, Accepted r.shownName strict r.modules kept ∧
      ((kept = [] ∧ ∀ session, (generate { r with filter := strict } session).1 =
          .error (.noRoutableFunctions r.shownName)) ∨
        ∃ t t', Renders r t ∧ Renders { r with filter := strict } t' ∧ t'.modules = t.modules ∧
          ∀ sig : Nat, ∃ run run', Yul.execute t.selectors sig = some run ∧
            Yul.execute t'.selectors sig = some run' ∧ run.left = true ∧ run'.left = true ∧
            (∀ m ∈ r.modules, ∀ f ∈ Function.ofAbi m.abi r.filter, ∀ signature,
              f.signature = .ok signature → methodId signature = sig →
                run.result.isSome = true ∧
                  run'.result = if strict f.name then run.result else none) ∧
            ((∀ m ∈ r.modules, ¬ m.Routes r.filter sig) →
              run.result = none ∧ run'.result = none)) := by
  have accepted := h.accepted.stricter stricter
  refine ⟨_, accepted, ?_⟩
  by_cases nonempty : (ss.filter fun s => strict s.name) = []
  · refine Or.inl ⟨nonempty, generate_of_refused (selection_eq_error_iff_stages.mpr (Or.inr ?_))⟩
    rw [nonempty] at accepted
    have routed : routedSelectors { r with filter := strict } = .ok [] :=
      routedSelectors_eq_ok_iff.mpr ⟨accepted.collected, accepted.valid⟩
    exact ⟨accepted.checked, Or.inr ⟨routed, rfl⟩⟩
  · have h' := h.stricter stricter nonempty
    obtain ⟨ids, tree, t, draft⟩ := exists_drafted h.accepted h.nonempty h.stringNames
    obtain ⟨ids', tree', t', draft'⟩ :=
      exists_drafted (r := { r with filter := strict }) accepted nonempty h.stringNames
    -- identifiers are given to the names of all modules, whatever is routed
    obtain rfl := Except.ok.inj (draft'.identifiers.symm.trans draft.identifiers)
    have declarations := Except.ok.inj (draft'.declared.symm.trans draft.declared)
    refine Or.inr ⟨t, t', draft.renders, draft'.renders, declarations, fun sig => ?_⟩
    obtain ⟨run, execute, left, result⟩ := draft.execute h sig
    obtain ⟨run', execute', left', result'⟩ := draft'.execute h' sig
    rw [Dispatch.find?_filter h.accepted.ascending] at result'
    refine ⟨run, run', execute, execute', left, left', ?_, ?_⟩
    · rintro m hm f hf signature signed rfl
      rw [find?_of_function h hm hf signed] at result result'
      refine ⟨by rw [result]; rfl, ?_⟩
      rw [result, result', Option.filter_some]
      split <;> rfl
    · intro none_routes
      have absent := find?_of_not_routes h none_routes
      rw [absent] at result result'
      exact ⟨result, result'⟩

/-- Only the functions of the token pass. -/
def tokenOnly : FunctionFilter :=
  Module.tokenFunctions.contains

/-- Of two functions that have an address, the one of the token keeps it, and the one of the
pool is given up. -/
theorem execute_stricter_exchange : ∃ t t' kept kept' dropped dropped',
    Renders exchangeRequest t ∧ Renders { exchangeRequest with filter := tokenOnly } t' ∧
      Yul.execute t.selectors 0x06fdde03 = some kept ∧
      Yul.execute t'.selectors 0x06fdde03 = some kept' ∧
      kept.result.isSome = true ∧ kept'.result = kept.result ∧
      Yul.execute t.selectors 0xddca3f43 = some dropped ∧
      Yul.execute t'.selectors 0xddca3f43 = some dropped' ∧
      dropped.result.isSome = true ∧ dropped'.result = none := by
  have token : Module.plain "Token" Module.sampleAddress Module.tokenFunctions ∈
      exchangeRequest.modules := List.mem_cons_of_mem _ List.mem_cons_self
  have stricter : tokenOnly.Stricter .all := fun _ _ => rfl
  have pool : Module.pool ∈ exchangeRequest.modules :=
    List.mem_cons_of_mem _ (List.mem_cons_of_mem _ List.mem_cons_self)
  obtain ⟨kept, accepted, ⟨rfl, -⟩ | ⟨t, t', renders, renders', -, runs⟩⟩ :=
    execute_stricter exchangeRequest tokenOnly Module.exchangeSelectors Emittable.exchange stricter
  · -- a function passes, so the second request is not refused
    have passes : (⟨"name", .null⟩ : Function) ∈ Function.ofAbi
        (Module.plain "Token" Module.sampleAddress Module.tokenFunctions).abi tokenOnly := by
      rw [Module.ofAbi_stricter stricter]
      exact List.mem_filter.mpr ⟨Module.mem_ofAbi_plain (by decide), by decide⟩
    obtain ⟨s, hs, -⟩ := (Module.routes_iff (accepted.selectors _ token)).mp
      ⟨_, passes, _, Module.signature_plain "name", rfl⟩
    exact absurd (accepted.mem_iff.mpr ⟨_, token, hs⟩) List.not_mem_nil
  · obtain ⟨kept, kept', executeKept, executeKept', -, -, found, -⟩ := runs 0x06fdde03
    obtain ⟨some, same⟩ := found _ token ⟨"name", .null⟩ (Module.mem_ofAbi_plain (by decide)) _
      (Module.signature_plain "name") Module.methodId_name
    obtain ⟨dropped, dropped', executeDropped, executeDropped', -, -, found, -⟩ := runs 0xddca3f43
    obtain ⟨some', none⟩ := found _ pool ⟨"fee", .null⟩ (Module.mem_ofAbi_plain (by decide)) _
      (Module.signature_plain "fee") Module.methodId_fee
    exact ⟨t, t', kept, kept', dropped, dropped', renders, renders', executeKept, executeKept',
      some, same, executeDropped, executeDropped', some', none⟩

end Router

end SelectorRouter
