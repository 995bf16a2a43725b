import SelectorRouter.Proofs.Constant.Declaration
import SelectorRouter.Proofs.Dispatch.Search
import SelectorRouter.Proofs.Keccak
import SelectorRouter.Proofs.Module.Order

/-!
# Modules that code can be emitted for

The string names of accepted modules have identifiers that tell them apart, and every
selector has a case of the switch. When there is a function to route and the names stay on
one line, the modules are emittable: every case can be read back too.
-/

namespace SelectorRouter

open Code (Plain)
open Constant (Declarable identifierOf)
open Dispatch (Writable Resolved)

/-- Identifiers that give every module a constant of its own. -/
structure Constant.Named (ids : Identifiers) (modules : List Module) : Prop where
  declarable : ∀ m ∈ modules, Declarable ids m
  apart : ∀ k ∈ modules, ∀ m ∈ modules, identifierOf ids k.name = identifierOf ids m.name → k = m

variable {router : String} {filter : FunctionFilter} {modules : List Module} {ss : List Selector}
  {ids : Constant.Identifiers}

/-! ## Accepted modules -/

theorem Module.StringNames.exists_strings : ∀ {modules : List Module}, StringNames modules →
    ∃ strings : List String, modules.map (·.name) = strings.map Json.str
  | [], _ => ⟨[], rfl⟩
  | m :: modules, h => by
      obtain ⟨name, eq⟩ := h m List.mem_cons_self
      have later : StringNames modules := fun n hn => h n (List.mem_cons_of_mem m hn)
      obtain ⟨strings, rest⟩ := exists_strings later
      exact ⟨name :: strings, by rw [List.map_cons, List.map_cons, eq, rest]⟩

/-- The names of checked modules have identifiers, when they are strings. -/
theorem Module.exists_named_of_check (checked : check router modules = .ok ())
    (names : StringNames modules) :
    ∃ ids, Constant.identifiers (modules.map (·.name)) = .ok ids ∧ Constant.Named ids modules := by
  obtain ⟨keys, addresses⟩ := check_eq_ok checked
  obtain ⟨strings, eq⟩ := names.exists_strings
  have listed : ∀ m ∈ modules, ∃ name, m.name = .str name ∧ name ∈ strings := by
    intro m hm
    obtain ⟨name, eq_name⟩ := names m hm
    have mem : m.name ∈ modules.map (·.name) := List.mem_map.mpr ⟨m, hm, rfl⟩
    rw [eq, eq_name, List.mem_map] at mem
    obtain ⟨other, hother, same⟩ := mem
    exact ⟨name, eq_name, Json.str.inj same ▸ hother⟩
  refine ⟨Constant.identifiersOf strings, Constant.identifiers_eq_ok eq, ?_, ?_⟩
  · intro m hm
    obtain ⟨name, eq_name, hname⟩ := listed m hm
    refine ⟨?_, ?_, addresses m hm⟩
    · rw [eq_name]
      exact Constant.lookup_identifiersOf hname
    · rw [eq_name]
      exact (Constant.isIdentifier_identifierOf hname).1
  · intro k hk m hm same
    obtain ⟨first, eq_first, hfirst⟩ := listed k hk
    obtain ⟨second, eq_second, hsecond⟩ := listed m hm
    rw [eq_first, eq_second] at same
    refine List.inj_on_of_nodup_map keys hk hm ?_
    rw [eq_first, eq_second, Constant.identifierOf_inj hfirst hsecond same]

namespace Module.Accepted

variable (h : Accepted router filter modules ss)

include h

theorem modules_ne_nil : modules ≠ [] := by
  rintro rfl
  cases h.checked

theorem exists_named (names : StringNames modules) :
    ∃ ids, Constant.identifiers (modules.map (·.name)) = .ok ids ∧ Constant.Named ids modules :=
  exists_named_of_check h.checked names

/-- Every selector has the identifier of its module. -/
theorem resolved (named : Constant.Named ids modules) : ∀ s ∈ ss, Resolved ids s := by
  intro s hs
  obtain ⟨m, hm, routed⟩ := h.mem_iff.mp hs
  have owner : s.module = m.name := module_of_mem_routed (h.selectors m hm) routed
  exact ⟨Code.inRange_iff.mpr (h.inRange s hs), owner ▸ (named.declarable m hm).named⟩

end Module.Accepted

/-! ## Emittable modules -/

/-- Accepted modules with a routed function, and names without line breaks. -/
structure Module.Emittable (router : String) (filter : FunctionFilter) (modules : List Module)
    (ss : List Selector) : Prop where
  accepted : Accepted router filter modules ss
  nonempty : ss ≠ []
  names : ∀ m ∈ modules, ∃ name, m.name = .str name ∧ Plain name
  functions : ∀ m ∈ modules, ∀ f ∈ Function.ofAbi m.abi filter, Plain f.name

namespace Module.Emittable

theorem modules_ne_nil (h : Emittable router filter modules ss) : modules ≠ [] :=
  h.accepted.modules_ne_nil

theorem stringNames (h : Emittable router filter modules ss) : StringNames modules := by
  intro m hm
  obtain ⟨name, eq, -⟩ := h.names m hm
  exact ⟨name, eq⟩

/-- The names of emittable modules have identifiers. -/
theorem named (h : Emittable router filter modules ss) :
    ∃ ids, Constant.identifiers (modules.map (·.name)) = .ok ids ∧ Constant.Named ids modules :=
  h.accepted.exists_named h.stringNames

/-- Every selector of emittable modules can be written as a case. -/
theorem writable (h : Emittable router filter modules ss) (named : Constant.Named ids modules) :
    ∀ s ∈ ss, Writable ids s := by
  intro s hs
  obtain ⟨inRange, found⟩ := h.accepted.resolved named s hs
  obtain ⟨m, hm, routed⟩ := h.accepted.mem_iff.mp hs
  have selectors := h.accepted.selectors m hm
  have owner : s.module = m.name := module_of_mem_routed selectors routed
  obtain ⟨f, hf, signature, -, eq⟩ := (mem_routed selectors).mp routed
  obtain ⟨name, eq_name, plain⟩ := h.names m hm
  refine ⟨inRange, found, owner ▸ (named.declarable m hm).word, Dispatch.plain_label ?_ ?_⟩
  · rw [owner, eq_name]
    exact plain
  · rw [eq]
    exact h.functions m hm f hf

/-- The tree of emittable modules is sound, and holds their selectors in order. -/
theorem tree (h : Emittable router filter modules ss) : ∃ tree,
    Dispatch.Tree.build Dispatch.defaultLeafSize ss = .ok tree ∧
      Dispatch.Tree.Shaped Dispatch.defaultLeafSize tree ∧ tree.inOrder = ss :=
  Dispatch.Tree.exists_build (by decide) h.nonempty

end Module.Emittable

/-! ## A proxy, a token and a pool -/

namespace Module

def tokenFunctions : List String :=
  ["name", "symbol", "decimals", "totalSupply", "owner"]

def poolFunctions : List String :=
  ["factory", "token0", "token1", "fee", "liquidity"]

def pool : Module :=
  plain "Pool" "0x3C44CdDdB6a900fa2b585dd299e03d12FA4293BC" poolFunctions

/-- A proxy without functions, and two modules with more functions than one leaf holds. -/
def exchange : List Module :=
  [proxyAt sampleAddress, plain "Token" sampleAddress tokenFunctions, pool]

/-- Modules and functions in the order of the method ids. -/
def exchangeOrder : List (String × String) :=
  [("Token", "name"), ("Pool", "token0"), ("Token", "totalSupply"), ("Pool", "liquidity"),
    ("Token", "decimals"), ("Token", "owner"), ("Token", "symbol"), ("Pool", "factory"),
    ("Pool", "token1"), ("Pool", "fee")]

def exchangeSelectors : List Selector :=
  exchangeOrder.map fun (name, function) => plainSelector name function

theorem methodIds_exchange : exchangeSelectors.map (·.methodId) =
    [0x06fdde03, 0x0dfe1681, 0x18160ddd, 0x1a686502, 0x313ce567, 0x8da5cb5b, 0x95d89b41,
      0xc45a0155, 0xd21220a7, 0xddca3f43] := by
  have short : ∀ p ∈ exchangeOrder, (Text.utf8 (p.2 ++ "()")).length < Keccak.rate := by
    decide
  have packed : ∀ p ∈ exchangeOrder, (plainSelector p.1 p.2).methodId =
      Keccak.packedMethodId (p.2 ++ "()") :=
    fun p hp => congrArg Int.ofNat (methodId_eq (short p hp))
  rw [exchangeSelectors, List.map_map]
  exact (List.map_congr_left packed).trans (by decide +kernel)

theorem methodId_name : methodId ("name" ++ "()") = 0x06fdde03 :=
  Int.ofNat_inj.mp (Option.some.inj (congrArg (·[0]?) methodIds_exchange))

theorem methodId_fee : methodId ("fee" ++ "()") = 0xddca3f43 :=
  Int.ofNat_inj.mp (Option.some.inj (congrArg (·[9]?) methodIds_exchange))

theorem ascending_exchange : Dispatch.Tree.Ascending exchangeSelectors := by
  have sorted : (exchangeSelectors.map (·.methodId)).Pairwise (· < ·) := by
    rw [methodIds_exchange]
    decide
  exact List.pairwise_map.mp sorted

/-- Each module of the exchange is one of functions without inputs. -/
theorem forall_exchange {p : Module → Prop} : (∀ m ∈ exchange, p m) ↔
    p (proxyAt sampleAddress) ∧ p (plain "Token" sampleAddress tokenFunctions) ∧ p pool := by
  rw [exchange, List.forall_mem_cons, List.forall_mem_cons, List.forall_mem_singleton]

/-- The exchange is accepted with its selectors in the order of their method ids. -/
theorem accepted_exchange : Accepted "Router" FunctionFilter.all exchange exchangeSelectors := by
  have selectors (name address : String) (functions : List String) :
      (plain name address functions).selectors FunctionFilter.all =
        .ok ((plain name address functions).routed FunctionFilter.all) :=
    Fallible.eq_ok_valueOr [] (selectors_plain name address functions)
  have routed : exchange.flatMap (routed FunctionFilter.all) =
      (tokenFunctions.map ("Token", ·) ++ poolFunctions.map ("Pool", ·)).map
        fun (name, function) => plainSelector name function := by
    rw [exchange, proxyAt, pool, List.flatMap_cons, List.flatMap_cons, List.flatMap_singleton,
      routed_plain, routed_plain, routed_plain]
    rfl
  have order : (tokenFunctions.map ("Token", ·) ++ poolFunctions.map ("Pool", ·)).Perm
      exchangeOrder := by
    decide
  refine accepted_of_perm rfl (forall_exchange.mpr ⟨selectors _ _ _, selectors _ _ _,
    selectors _ _ _⟩) ?_ ascending_exchange
  rw [routed]
  exact order.map _

/-- One guard tells the two leaves of the exchange apart. -/
theorem build_exchange : Dispatch.Tree.build Dispatch.defaultLeafSize exchangeSelectors =
    .ok (.node [] [.leaf (exchangeSelectors.take 5), .leaf (exchangeSelectors.drop 5)]) :=
  Dispatch.Tree.build_of_two (by decide) (by decide) (by decide)

theorem Emittable.exchange : Emittable "Router" FunctionFilter.all Module.exchange
    exchangeSelectors where
  accepted := accepted_exchange
  nonempty := List.cons_ne_nil _ _
  names := forall_exchange.mpr
    ⟨⟨"Proxy", rfl, by decide⟩, ⟨"Token", rfl, by decide⟩, ⟨"Pool", rfl, by decide⟩⟩
  functions := by
    have plainNames {name address : String} {functions : List String}
        (h : ∀ f ∈ functions, Plain f) : ∀ f ∈ Function.ofAbi
          (plain name address functions).abi FunctionFilter.all, Plain f.name := by
      rw [ofAbi_plain]
      exact List.forall_mem_map.mpr h
    exact forall_exchange.mpr ⟨plainNames (by decide), plainNames (by decide),
      plainNames (by decide)⟩

end Module

end SelectorRouter
