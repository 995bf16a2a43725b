import SelectorRouter.Proofs.Module.Order
import SelectorRouter.Proofs.Router.Routing
import SelectorRouter.Proofs.Router.Texts

/-!
# The order of the input

The selectors of accepted modules are sorted, and no two of them are equal, so the tree does
not know in which order the modules and their functions came. The identifiers do not know
it either when the words of the names differ, because then none of them gets a number. What
is left of the order is the order of the declarations.
-/

namespace SelectorRouter

open Fallible (mapM_eq_ok_map)
open SelectorRouter.Module (Accepted StringNames Shuffled Reordered shownAddress)

namespace Module

variable {modules others : List Module} {ids : Constant.Identifiers}

/-- The words of the name of a module, which are its identifier when no other name has them. -/
def baseIdentifier (m : Module) : String :=
  Constant.baseIdentifier m.name.display

/-- The constant of a module with words of its own. -/
def constant (m : Module) : String × String :=
  (m.baseIdentifier, m.shownAddress)

structure DistinctBases (modules : List Module) : Prop where
  names : StringNames modules
  bases : (modules.map baseIdentifier).Nodup

theorem DistinctBases.shuffled (h : DistinctBases modules) (shuffled : Shuffled modules others) :
    DistinctBases others where
  names := shuffled.stringNames h.names
  bases := (shuffled.map_perm fun m n same => by
    rw [baseIdentifier, baseIdentifier, same.name]).nodup_iff.mp h.bases

/-- Modules with words of their own have these as identifiers. -/
theorem DistinctBases.identifierOf_eq (h : DistinctBases modules)
    (identifiers : Constant.identifiers (modules.map (·.name)) = .ok ids) :
    ∀ m ∈ modules, Constant.identifierOf ids m.name = m.baseIdentifier := by
  obtain ⟨strings, eq⟩ := h.names.exists_strings
  obtain rfl := Except.ok.inj (identifiers.symm.trans (Constant.identifiers_eq_ok eq))
  have bases : modules.map baseIdentifier = strings.map Constant.baseIdentifier := by
    have shown := congrArg (List.map fun name => Constant.baseIdentifier name.display) eq
    rw [List.map_map, List.map_map] at shown
    exact shown
  have nodup : (strings.map Constant.baseIdentifier).Nodup := bases ▸ h.bases
  intro m hm
  have known : m.name ∈ strings.map Json.str := eq ▸ List.mem_map_of_mem hm
  obtain ⟨name, hname, named⟩ := List.mem_map.mp known
  rw [baseIdentifier, ← named]
  exact Constant.identifierOf_of_nodup nodup hname

theorem Reordered.constant_eq {m n : Module} (h : Reordered m n) : m.constant = n.constant := by
  rw [constant, constant, baseIdentifier, baseIdentifier, shownAddress, shownAddress,
    h.checksumAddress_eq, h.name]

end Module

/-- The declarations of constants, one a line. -/
def Constant.declarationsText (constants : List (String × String)) : String :=
  Text.strip (Text.joinLines (constants.map fun c => declaration c.1 c.2))

/-- A text that consists of the declarations of constants, and reads back as them. -/
structure Constant.Declares (text : String) (constants : List (String × String)) : Prop where
  text_eq : text = declarationsText constants
  read_eq : Solidity.constants text = some constants

namespace Router

variable {r : Request} {ss : List Selector} {ids : Constant.Identifiers} {tree : Dispatch.Tree}
  {t : Template.Sections}

/-- A selector has the words of its module as identifier, wherever the module stands. -/
theorem Drafted.identifierOf_module (h : Drafted r ss ids tree t)
    (accepted : Accepted r.shownName r.filter r.modules ss)
    (distinct : Module.DistinctBases r.modules) : ∀ s ∈ ss,
      Constant.identifierOf ids s.module = Constant.baseIdentifier s.module.display := by
  intro s hs
  obtain ⟨m, hm, routed⟩ := accepted.mem_iff.mp hs
  rw [Module.module_of_mem_routed (accepted.selectors m hm) routed]
  exact distinct.identifierOf_eq h.identifiers m hm

theorem Drafted.declares (h : Drafted r ss ids tree t)
    (accepted : Accepted r.shownName r.filter r.modules ss)
    (distinct : Module.DistinctBases r.modules) :
    Constant.Declares t.modules (r.modules.map Module.constant) := by
  have constants : (r.modules.map fun m => (Constant.identifierOf ids m.name, m.shownAddress)) =
      r.modules.map Module.constant :=
    List.map_congr_left fun m hm => by
      rw [Module.constant, distinct.identifierOf_eq h.identifiers m hm]
  refine ⟨?_, constants ▸ h.constants accepted⟩
  have declared := h.declared
  rw [Constant.declarations,
    mapM_eq_ok_map fun m hm => Constant.declare_eq_ok (h.named.declarable m hm)] at declared
  rw [Constant.declarationsText, ← constants, List.map_map]
  exact (Except.ok.inj declared).symm

/-- **Dispatch does not depend on the order of the input.** Take accepted modules with a
function to route, whose names have words of their own, and shuffle them and their ABIs. The
shuffled modules are accepted too, with the same selectors. Both requests have texts, in
which every run ends unless it raises a warning. The text of the switch is the same, and the
declarations are those of the same constants, in the order of the modules. -/
theorem texts_shuffled (r : Request) (others : List Module) (ss : List Selector)
    (accepted : Accepted r.shownName r.filter r.modules ss) (nonempty : ss ≠ [])
    (distinct : Module.DistinctBases r.modules) (shuffled : Shuffled r.modules others) :
    Accepted r.shownName r.filter others ss ∧ ∃ t t',
      Renders r t ∧ Renders { r with modules := others } t' ∧
        t'.selectors = t.selectors ∧
        Constant.Declares t.modules (r.modules.map Module.constant) ∧
        Constant.Declares t'.modules (others.map Module.constant) ∧
        (others.map Module.constant).Perm (r.modules.map Module.constant) := by
  have accepted' : Accepted r.shownName r.filter others ss :=
    accepted.shuffled distinct.names shuffled
  have distinct' := distinct.shuffled shuffled
  have constants := shuffled.map_perm fun _ _ same => same.constant_eq
  obtain ⟨ids, tree, t, draft⟩ := exists_drafted accepted nonempty distinct.names
  obtain ⟨ids', tree', t', draft'⟩ :=
    exists_drafted (r := { r with modules := others }) accepted' nonempty distinct'.names
  -- the same selectors are built into the same tree
  obtain rfl : tree' = tree := Except.ok.inj (draft'.built.symm.trans draft.built)
  have identifiers : ∀ s ∈ tree'.inOrder,
      Constant.identifierOf ids' s.module = Constant.identifierOf ids s.module := by
    intro s hs
    rw [draft.inOrder] at hs
    rw [draft'.identifierOf_module accepted' distinct' s hs,
      draft.identifierOf_module accepted distinct s hs]
  refine ⟨accepted', t, t', draft.renders, draft'.renders, ?_, draft.declares accepted distinct,
    draft'.declares accepted' distinct', constants.symm⟩
  rw [draft'.switched, draft.switched, Dispatch.layout_congr draft.shaped identifiers]

/-- The exchange with its modules and the functions of each the other way round. -/
def reversedExchange : List Module :=
  (Module.exchange.map fun m => { m with abi := m.abi.reverse }).reverse

/-- The exchange the other way round has the same switch of two leaves, and its constants are
declared the other way round. -/
theorem texts_shuffled_exchange : ∃ t t',
    Renders exchangeRequest t ∧ Renders { exchangeRequest with modules := reversedExchange } t' ∧
      t'.selectors = t.selectors ∧
      Constant.Declares t.modules (Module.exchange.map Module.constant) ∧
      Constant.Declares t'.modules (Module.exchange.map Module.constant).reverse := by
  have accepted := Module.accepted_exchange
  have distinct : Module.DistinctBases Module.exchange :=
    ⟨Module.Emittable.exchange.stringNames, by decide⟩
  have turned : List.Forall₂ Reordered Module.exchange.reverse reversedExchange := by
    rw [reversedExchange, ← List.map_reverse, List.forall₂_map_right_iff, List.forall₂_same]
    exact fun m _ => ⟨rfl, rfl, (List.reverse_perm _).symm⟩
  have shuffled : Shuffled Module.exchange reversedExchange :=
    ⟨_, (List.reverse_perm _).symm, turned⟩
  obtain ⟨-, t, t', renders, renders', same, declares, declares', -⟩ :=
    texts_shuffled exchangeRequest _ _ accepted (List.cons_ne_nil _ _) distinct shuffled
  have constants : reversedExchange.map Module.constant =
      (Module.exchange.map Module.constant).reverse := by
    rfl
  exact ⟨t, t', renders, renders', same, declares, constants ▸ declares'⟩

end Router

end SelectorRouter
