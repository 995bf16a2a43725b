import SelectorRouter.Proofs.Router.Generation

/-!
# Routing

A router for emittable modules is generated from texts that route as the modules do. The
switch turns a method id into an identifier, the declarations turn the identifier into an
address, and the address is that of the one module with a function of this id, which is
also what the look-up of facets finds. A method id without a function is left to the
literal 0.
-/

namespace SelectorRouter.Router

open Constant (Named identifierOf)
open SelectorRouter.Module (Emittable routed shownAddress Routes)
open Diamond (FacetTable)

variable {r : Request} {ss : List Selector} {ids : Constant.Identifiers}

/-! ## Emittable modules -/

/-- The texts of a router for emittable modules exist, with or without the diamond. -/
theorem sections_eq_ok {tree : Dispatch.Tree} {declarations switch : String}
    (h : Emittable r.shownName r.filter r.modules ss)
    (identifiers : Constant.identifiers (r.modules.map (·.name)) = .ok ids)
    (named : Named ids r.modules)
    (declared : Constant.declarations ids r.modules = .ok declarations)
    (switched : Dispatch.switchText ids tree = .ok switch) :
    ∃ texts, sections r tree = .ok texts ∧ texts.modules = declarations ∧
      texts.selectors = switch :=
  exists_sections h.accepted identifiers named declared switched

/-- Generation ends in the rendered texts, in any session, unless warnings are raised and
there is one. -/
theorem generate_eq {tree : Dispatch.Tree} {texts : Template.Sections}
    (h : Emittable r.shownName r.filter r.modules ss)
    (built : Dispatch.Tree.build Dispatch.defaultLeafSize ss = .ok tree)
    (sound : tree.check Dispatch.defaultLeafSize = .ok ())
    (written : sections r tree = .ok texts) (session : Session) :
    (generate r session).1 = Template.render (templateOf r.template) texts.slots ∨
      session.policy = .raise ∧ ∃ report, (generate r session).1 = .error (.warning report) := by
  rcases generate_of_accepted h.accepted h.nonempty built sound written session with
    rendered | ⟨raising, m, -, warned⟩
  · exact Or.inl rendered
  · exact Or.inr ⟨raising, unreachable m, warned⟩

/-! ## Routing -/

/-- The selector of a function is found by its method id. -/
theorem find?_of_function (h : Emittable r.shownName r.filter r.modules ss) {m : Module}
    (hm : m ∈ r.modules) {f : Function} (hf : f ∈ Function.ofAbi m.abi r.filter)
    {signature : String} (signed : f.signature = .ok signature) :
    (ss.find? fun s => s.methodId == (methodId signature : Int)) =
      some ⟨m.name, f.name, signature, methodId signature⟩ := by
  refine Dispatch.find?_of_mem h.accepted.ascending (h.accepted.mem_iff.mpr ⟨m, hm, ?_⟩) rfl
  exact (Module.mem_routed (h.accepted.selectors m hm)).mpr ⟨f, hf, signature, signed, rfl⟩

/-- The selector found for a method id is one of the module that routes it. -/
theorem find?_of_routes (h : Emittable r.shownName r.filter r.modules ss) {m : Module}
    (hm : m ∈ r.modules) {sig : Nat} (routes : m.Routes r.filter sig) :
    ∃ s, (ss.find? fun s => s.methodId == (sig : Int)) = some s ∧ s.module = m.name := by
  obtain ⟨f, hf, signature, signed, id⟩ := routes
  exact ⟨_, id ▸ find?_of_function h hm hf signed, rfl⟩

theorem find?_of_not_routes (h : Emittable r.shownName r.filter r.modules ss) {sig : Nat}
    (none_routes : ∀ m ∈ r.modules, ¬ m.Routes r.filter sig) :
    (ss.find? fun s => s.methodId == (sig : Int)) = none := by
  refine Dispatch.find?_eq_none_of_ne fun s hs id => ?_
  obtain ⟨m, hm, routed⟩ := h.accepted.mem_iff.mp hs
  exact none_routes m hm ((Module.routes_iff (h.accepted.selectors m hm)).mpr ⟨s, routed, id⟩)

/-- **A generated router routes as its modules do.** The texts of the contract exist, and in
every session generation ends in these texts, rendered, unless a warning is raised. For
every method id the switch leaves the function. If a module has a function with this id,
the result is an identifier that is declared once, with the checksum address of the
module, and the look-up of facets finds the same address. If no module has one, no case is
taken, the result stays the literal 0, and the look-up finds nothing. -/
theorem generate_routes (r : Request) (ss : List Selector)
    (h : Emittable r.shownName r.filter r.modules ss) :
    ∃ tree texts declared table,
      Dispatch.Tree.build Dispatch.defaultLeafSize ss = .ok tree ∧
      sections r tree = .ok texts ∧
      (∀ session,
        (generate r session).1 = Template.render (templateOf r.template) texts.slots ∨
          session.policy = .raise ∧
            ∃ report, (generate r session).1 = .error (.warning report)) ∧
      Solidity.constants texts.modules = some declared ∧
      FacetTable.ofModules r.filter r.modules = .ok table ∧
      ∀ sig : Nat, ∃ run, Yul.execute texts.selectors sig = some run ∧ run.left = true ∧
        (∀ m ∈ r.modules, m.Routes r.filter sig → ∃ id address,
          run.result = some id ∧ m.checksumAddress = .ok address ∧
            Solidity.addressesOf declared id = [address] ∧
            table.addressOf? sig = some address) ∧
        ((∀ m ∈ r.modules, ¬ m.Routes r.filter sig) →
          run.result = none ∧ (∀ n, .switch n true ∉ run.events) ∧
            table.addressOf? sig = none) := by
  obtain ⟨ids, identifiers, named⟩ := h.named
  obtain ⟨tree, built, shaped, inOrder⟩ := h.tree
  obtain ⟨declarations, declared, constants⟩ :=
    Constant.constants_declarations h.modules_ne_nil named.declarable
  have ascending : Dispatch.Tree.Ascending tree.inOrder := inOrder.symm ▸ h.accepted.ascending
  have writable : ∀ s ∈ tree.inOrder, Dispatch.Writable ids s :=
    inOrder.symm ▸ h.writable named
  have switched := Dispatch.switchText_eq shaped writable
  obtain ⟨texts, written, modulesText, selectorsText⟩ :=
    sections_eq_ok h identifiers named declared switched
  have sound := Dispatch.Tree.check_eq_ok_iff.mpr ⟨shaped, ascending⟩
  refine ⟨tree, texts, _, _, built, written, generate_eq h built sound written,
    modulesText ▸ constants, FacetTable.ofModules_eq_ok h.accepted, fun sig => ?_⟩
  obtain ⟨text, events, same, -, descends, run⟩ :=
    Dispatch.execute_of_writable shaped ascending writable sig
  obtain rfl : text = texts.selectors := by
    rw [selectorsText]
    exact Except.ok.inj (same.symm.trans switched)
  have find : tree.find? sig = ss.find? fun s => s.methodId == (sig : Int) := by
    rw [Dispatch.Tree.find?, inOrder]
  rw [find] at descends run
  refine ⟨_, run, rfl, ?_, ?_⟩
  · intro m hm routes
    obtain ⟨s, found, owner⟩ := find?_of_routes h hm routes
    refine ⟨identifierOf ids m.name, m.shownAddress, ?_, h.accepted.address m hm, ?_, ?_⟩
    · rw [found, Option.map_some, owner]
    · exact Constant.addressesOf_identifierOf (FacetTable.nodup h.accepted) named.apart hm
    · exact (FacetTable.addressOf?_eq_some_iff h.accepted).mpr ⟨m, hm, routes, rfl⟩
  · intro none_routes
    have absent := find?_of_not_routes h none_routes
    rw [absent] at descends
    refine ⟨?_, descends.switch_not_mem, ?_⟩
    · rw [absent, Option.map_none]
    · exact (FacetTable.addressOf?_eq_none_iff h.accepted).mpr none_routes

/-- A router of a proxy, a token and a pool, whose switch has a guard and two leaves. -/
def exchangeRequest : Request :=
  ⟨Module.exchange, .str "Router", none, false, true, .all⟩

/-- A function on the right of the guard is routed to the address of the pool, and a method id
that no module has is not routed at all. -/
theorem generate_routes_exchange : ∃ texts declared run id address other,
    sections exchangeRequest (.node [] [.leaf (Module.exchangeSelectors.take 5),
      .leaf (Module.exchangeSelectors.drop 5)]) = .ok texts ∧
      Solidity.constants texts.modules = some declared ∧
      Yul.execute texts.selectors 0xddca3f43 = some run ∧ run.result = some id ∧
      Solidity.addressesOf declared id = [address] ∧
      Module.pool.checksumAddress = .ok address ∧
      Yul.execute texts.selectors 0xffffffff = some other ∧ other.result = none := by
  obtain ⟨tree, texts, declared, table, built, written, -, constants, -, routing⟩ :=
    generate_routes exchangeRequest Module.exchangeSelectors Emittable.exchange
  obtain rfl := Except.ok.inj (Module.build_exchange.symm.trans built)
  obtain ⟨run, execute, -, routed, -⟩ := routing 0xddca3f43
  have routes : Module.pool.Routes FunctionFilter.all ((0xddca3f43 : Nat) : Int) := by
    rw [← Module.methodId_fee]
    exact Module.routes_plain (by decide)
  obtain ⟨id, address, result, checksum, once, -⟩ := routed Module.pool
    (List.mem_cons_of_mem _ (List.mem_cons_of_mem _ List.mem_cons_self)) routes
  obtain ⟨other, executeOther, -, -, unrouted⟩ := routing 0xffffffff
  obtain ⟨none, -, -⟩ := unrouted fun m hm routes => by
    have accepted := Module.accepted_exchange
    obtain ⟨s, hs, id⟩ := (Module.routes_iff (accepted.selectors m hm)).mp routes
    have listed := List.mem_map_of_mem (f := (·.methodId)) (accepted.mem_iff.mpr ⟨m, hm, hs⟩)
    rw [Module.methodIds_exchange, id] at listed
    exact absurd listed (by decide)
  exact ⟨texts, declared, run, id, address, other, written, constants, execute, result, once,
    checksum, executeOther, none⟩

end SelectorRouter.Router
