import Mathlib.Data.List.Find
import SelectorRouter.Diamond.Facet
import SelectorRouter.Proofs.Address
import SelectorRouter.Proofs.Code.Literal
import SelectorRouter.Proofs.Module

/-!
# The look-ups of facets

Both look-ups take the first facet that answers, one by the address and one by the
method id. A method id has one owner among accepted modules, so the second look-up finds
the owner's address. An address may be given to several modules, though, and then the
first look-up sees only the first of them: `lookups_agree_iff` says that the two agree
exactly when no module with functions comes after another one at the same address.
-/

namespace SelectorRouter.Diamond

open SelectorRouter.Module (Accepted routed shownAddress Routes)
open Fallible (mapM_eq_ok_map)

namespace FacetTable

/-- The facet of an accepted module. -/
def facet (filter : FunctionFilter) (m : Module) : Facet :=
  ⟨m.name, m.shownAddress, m.routed filter⟩

variable {router : String} {filter : FunctionFilter} {modules : List Module} {ss : List Selector}

/-- The table of checked modules has one facet for each, in their order. -/
theorem ofModules_eq_ok_of_check (checked : Module.check router modules = .ok ())
    (selectors : ∀ m ∈ modules, m.selectors filter = .ok (m.routed filter)) :
    ofModules filter modules = .ok (modules.map (facet filter)) := by
  obtain ⟨-, addresses⟩ := Module.check_eq_ok checked
  refine mapM_eq_ok_map fun m hm => ?_
  rw [facetOf, addresses m hm, selectors m hm]
  rfl

theorem ofModules_eq_ok (h : Accepted router filter modules ss) :
    ofModules filter modules = .ok (modules.map (facet filter)) :=
  ofModules_eq_ok_of_check h.checked h.selectors

/-- The method ids of a module are in range, so each of them has a text. -/
theorem emitted_routed {m : Module} (selectors : m.selectors filter = .ok (m.routed filter)) :
    (m.routed filter).mapM Selector.emitted = .ok ((m.routed filter).map Selector.literal) :=
  mapM_eq_ok_map fun _ hs =>
    Code.emitted_eq_ok (Code.inRange_iff.mpr (Module.inRange_of_mem_routed selectors hs))

/-! ## The owner of a method id -/

theorem any_methodId_iff (h : Accepted router filter modules ss) {m : Module} (hm : m ∈ modules)
    {id : Int} :
    ((facet filter m).selectors.any fun s => s.methodId == id) = true ↔ m.Routes filter id := by
  rw [Module.routes_iff (h.selectors m hm), List.any_eq_true]
  simp only [beq_iff_eq]
  exact Iff.rfl

/-- The address found for a method id is that of the module that routes it. -/
theorem addressOf?_eq_some_iff (h : Accepted router filter modules ss) {id : Int}
    {address : String} : addressOf? (modules.map (facet filter)) id = some address ↔
      ∃ m ∈ modules, m.Routes filter id ∧ m.shownAddress = address := by
  rw [addressOf?, List.find?_map, Option.map_map, Option.map_eq_some_iff]
  constructor
  · rintro ⟨m, found, rfl⟩
    have hm := List.mem_of_find?_eq_some found
    have holds := List.find?_some found
    exact ⟨m, hm, (any_methodId_iff h hm).mp holds, rfl⟩
  · rintro ⟨m, hm, routes, rfl⟩
    cases found : modules.find? ((fun f : Facet => f.selectors.any fun s => s.methodId == id)
        ∘ facet filter) with
    | none => exact absurd ((any_methodId_iff h hm).mpr routes) (List.find?_eq_none.mp found m hm)
    | some k =>
        have hk := List.mem_of_find?_eq_some found
        have holds := List.find?_some found
        have owner : k = m := h.owner_unique hk hm ((any_methodId_iff h hk).mp holds) routes
        exact ⟨k, rfl, by rw [owner]; rfl⟩

theorem addressOf?_eq_none_iff (h : Accepted router filter modules ss) {id : Int} :
    addressOf? (modules.map (facet filter)) id = none ↔ ∀ m ∈ modules, ¬ m.Routes filter id := by
  rw [Option.eq_none_iff_forall_ne_some]
  constructor
  · intro none_found m hm routes
    exact none_found _ ((addressOf?_eq_some_iff h).mpr ⟨m, hm, routes, rfl⟩)
  · intro none_routes address found
    obtain ⟨m, hm, routes, -⟩ := (addressOf?_eq_some_iff h).mp found
    exact none_routes m hm routes

/-! ## The first module at an address -/

theorem selectorsAt_eq (h : Accepted router filter modules ss) {m : Module} (hm : m ∈ modules) :
    selectorsAt (modules.map (facet filter)) m.shownAddress =
      .ok ((modules.find? fun k => k.shownAddress == m.shownAddress).map fun k =>
        (k.routed filter).map Selector.literal) := by
  have same : modules.find? ((fun f : Facet =>
      Text.lower f.address == Text.lower m.shownAddress) ∘ facet filter) =
        modules.find? fun k => k.shownAddress == m.shownAddress := by
    refine List.find?_congr fun k hk => ?_
    rw [Bool.eq_iff_iff, beq_iff_eq]
    constructor
    · intro same
      exact Module.checksumAddress_inj (h.address k hk) (h.address m hm) (beq_iff_eq.mp same)
    · intro same
      exact beq_iff_eq.mpr (congrArg Text.lower same)
  rw [selectorsAt, List.find?_map, same]
  cases found : modules.find? fun k => k.shownAddress == m.shownAddress with
  | none => rfl
  | some k =>
      have selectors := h.selectors k (List.mem_of_find?_eq_some found)
      show ((k.routed filter).mapM Selector.emitted).map some = _
      rw [emitted_routed selectors]
      rfl

theorem mem_literals_iff {k : Module} (hk : k.selectors filter = .ok (k.routed filter)) {n : Nat}
    (small : n < methodIdLimit) :
    methodIdLiteral n ∈ (k.routed filter).map Selector.literal ↔ k.Routes filter n := by
  rw [Module.routes_iff hk, List.mem_map]
  constructor
  · rintro ⟨s, hs, same⟩
    have range := Module.inRange_of_mem_routed hk hs
    have id := Code.methodIdLiteral_injective (by omega) small same
    exact ⟨s, hs, by omega⟩
  · rintro ⟨s, hs, id⟩
    exact ⟨s, hs, by rw [Selector.literal, id, Int.toNat_natCast]⟩

/-- A method id is listed at an address when the first module there routes it. -/
theorem listed_iff (h : Accepted router filter modules ss) {m : Module} (hm : m ∈ modules)
    {n : Nat} (small : n < methodIdLimit) :
    (∃ listed, selectorsAt (modules.map (facet filter)) m.shownAddress = .ok (some listed) ∧
      methodIdLiteral n ∈ listed) ↔
    ∃ k, (modules.find? fun k => k.shownAddress == m.shownAddress) = some k ∧
      k.Routes filter n := by
  rw [selectorsAt_eq h hm]
  constructor
  · rintro ⟨listed, found, hn⟩
    obtain ⟨k, first, rfl⟩ := Option.map_eq_some_iff.mp (Except.ok.inj found)
    have hk := List.mem_of_find?_eq_some first
    exact ⟨k, first, (mem_literals_iff (h.selectors k hk) small).mp hn⟩
  · rintro ⟨k, first, routes⟩
    have hk := List.mem_of_find?_eq_some first
    exact ⟨_, congrArg Except.ok (Option.map_eq_some_iff.mpr ⟨k, first, rfl⟩),
      (mem_literals_iff (h.selectors k hk) small).mpr routes⟩

/-- A method id that is listed at an address has that address. -/
theorem addressOf?_of_listed (h : Accepted router filter modules ss) {m : Module}
    (hm : m ∈ modules) {n : Nat} (small : n < methodIdLimit)
    (listed : ∃ listed,
      selectorsAt (modules.map (facet filter)) m.shownAddress = .ok (some listed) ∧
        methodIdLiteral n ∈ listed) :
    addressOf? (modules.map (facet filter)) n = some m.shownAddress := by
  obtain ⟨k, first, routes⟩ := (listed_iff h hm small).mp listed
  have same := List.find?_some first
  exact (addressOf?_eq_some_iff h).mpr
    ⟨k, List.mem_of_find?_eq_some first, routes, beq_iff_eq.mp same⟩

/-! ## When the look-ups agree -/

/-- Does every module with functions come first among the modules at its address? -/
def FirstAtAddress (filter : FunctionFilter) (modules : List Module) : Prop :=
  modules.Pairwise fun earlier later =>
    (∃ id, later.Routes filter id) → earlier.checksumAddress ≠ later.checksumAddress

theorem shownAddress_ne (h : Accepted router filter modules ss) {k m : Module}
    (hk : k ∈ modules) (hm : m ∈ modules) :
    k.checksumAddress ≠ m.checksumAddress ↔ k.shownAddress ≠ m.shownAddress := by
  rw [h.address k hk, h.address m hm, Ne, Ne, Except.ok.injEq]

theorem nodup (h : Accepted router filter modules ss) : modules.Nodup :=
  List.Nodup.of_map _ (Module.check_eq_ok h.checked).1

/-- A module is the first at its address when those before it are elsewhere. -/
theorem find?_eq_some_self_iff (h : Accepted router filter modules ss) {i : Nat}
    (hi : i < modules.length) :
    (modules.find? fun k => k.shownAddress == modules[i].shownAddress) = some modules[i] ↔
      ∀ j, (hj : j < i) → modules[j].shownAddress ≠ modules[i].shownAddress := by
  rw [List.find?_eq_some_iff_getElem]
  constructor
  · rintro ⟨-, l, hl, same, before⟩ j hj
    have eq : l = i := (List.Nodup.getElem_inj_iff (nodup h)).mp same
    have := before j (by omega)
    simpa using this
  · intro before
    refine ⟨beq_iff_eq.mpr rfl, i, hi, rfl, fun j hj => ?_⟩
    simpa using before j hj

/-- **The look-ups agree** for every method id and address exactly when every module with
functions comes first among the modules at its address. -/
theorem lookups_agree_iff (h : Accepted router filter modules ss) :
    ∃ table, ofModules filter modules = .ok table ∧
      ((∀ n : Nat, n < methodIdLimit → ∀ a ∈ table.addresses,
          ((∃ listed, table.selectorsAt a = .ok (some listed) ∧ methodIdLiteral n ∈ listed) ↔
            table.addressOf? n = some a)) ↔
        FirstAtAddress filter modules) := by
  refine ⟨_, ofModules_eq_ok h, ?_⟩
  rw [FirstAtAddress, List.pairwise_iff_getElem]
  constructor
  · rintro agree j i hj hi lt ⟨id, routes⟩
    have hm : modules[i] ∈ modules := List.getElem_mem hi
    rw [shownAddress_ne h (List.getElem_mem hj) hm]
    have hn := routes
    obtain ⟨f, -, signature, -, rfl⟩ := hn
    have small := methodId_lt signature
    have mem : modules[i].shownAddress ∈ addresses (modules.map (facet filter)) := by
      rw [addresses, List.map_map]
      exact List.mem_map.mpr ⟨_, hm, rfl⟩
    have found := (addressOf?_eq_some_iff h).mpr ⟨_, hm, routes, rfl⟩
    obtain ⟨k, first, routesK⟩ := (listed_iff h hm small).mp ((agree _ small _ mem).mpr found)
    -- the first module at the address lists the id, so it is the owner
    have owner : k = modules[i] :=
      h.owner_unique (List.mem_of_find?_eq_some first) hm routesK routes
    rw [owner] at first
    exact (find?_eq_some_self_iff h hi).mp first j lt
  · intro apart n small a ha
    rw [addresses, List.map_map] at ha
    obtain ⟨m, hm, rfl⟩ := List.mem_map.mp ha
    refine ⟨addressOf?_of_listed h hm small, fun found => ?_⟩
    obtain ⟨k, hk, routes, same⟩ := (addressOf?_eq_some_iff h).mp found
    obtain ⟨i, hi, rfl⟩ := List.getElem_of_mem hk
    have first := (find?_eq_some_self_iff h hi).mpr fun j lt =>
      (shownAddress_ne h (List.getElem_mem _) hk).mp (apart j i (by omega) hi lt ⟨_, routes⟩)
    rw [same] at first
    exact (listed_iff h hm small).mpr ⟨_, first, routes⟩

/-- A module without functions may follow at an address that is taken. -/
theorem lookups_agree_token_proxy : ∃ table,
    ofModules .all [Module.tokenAt Module.sampleAddress, Module.proxyAt Module.sampleAddress] =
        .ok table ∧
      ∀ n : Nat, n < methodIdLimit → ∀ a ∈ table.addresses,
        ((∃ listed, table.selectorsAt a = .ok (some listed) ∧ methodIdLiteral n ∈ listed) ↔
          table.addressOf? n = some a) := by
  have selectors :
      [Module.tokenAt Module.sampleAddress, Module.proxyAt Module.sampleAddress].mapM
        (·.selectors .all) = .ok [[Module.nameSelector], []] := by
    rw [List.mapM_cons, List.mapM_cons, Module.selectors_tokenAt, Module.selectors_proxyAt]
    rfl
  have accepted : Accepted "Router" .all
      [Module.tokenAt Module.sampleAddress, Module.proxyAt Module.sampleAddress]
      [Module.nameSelector] :=
    Module.accepted_of_single rfl selectors rfl
  obtain ⟨table, made, agree⟩ := lookups_agree_iff accepted
  refine ⟨table, made, agree.mpr (List.pairwise_pair.mpr ?_)⟩
  rintro ⟨id, f, hf, -⟩
  exact absurd hf List.not_mem_nil

/-- A module with functions may not: its method ids are found, but not listed. -/
theorem lookups_disagree_proxy_token :
    let modules := [Module.proxyAt Module.sampleAddress, Module.tokenAt Module.sampleAddress]
    Accepted "Router" .all modules [Module.nameSelector] ∧
      ∃ table, ofModules .all modules = .ok table ∧ ∃ a ∈ table.addresses,
        table.addressOf? (methodId "name()") = some a ∧
          ∃ listed, table.selectorsAt a = .ok (some listed) ∧
            methodIdLiteral (methodId "name()") ∉ listed := by
  intro modules
  have accepted : Accepted "Router" .all modules [Module.nameSelector] :=
    Module.accepted_proxy_token
  have hm : Module.proxyAt Module.sampleAddress ∈ modules := List.mem_cons_self
  refine ⟨accepted, _, ofModules_eq_ok accepted, shownAddress (Module.proxyAt Module.sampleAddress),
    List.mem_cons_self, ?_, [], ?_, List.not_mem_nil⟩
  · refine (addressOf?_eq_some_iff accepted).mpr ⟨Module.tokenAt Module.sampleAddress,
      List.mem_cons_of_mem _ List.mem_cons_self, ?_, rfl⟩
    exact Module.routes_tokenAt _
  · have first : (modules.find? fun k =>
        k.shownAddress == (Module.proxyAt Module.sampleAddress).shownAddress) =
          some (Module.proxyAt Module.sampleAddress) := List.find?_cons_of_pos (beq_iff_eq.mpr rfl)
    rw [selectorsAt_eq accepted hm, first]
    rfl

end FacetTable

end SelectorRouter.Diamond
