import Mathlib.Data.List.Forall2
import SelectorRouter.Proofs.Abi.Signature
import SelectorRouter.Proofs.Router.Generation

/-!
# What a run depends on

Of a module a run looks at the name, the checksum of the address and the selectors, and at
nothing else: modules that agree in these are interchangeable, one by one, in every stage of
the generator. The checksum does not depend on the letter case of the address. The selectors
come from the functions that pass the filter, and of these from their names and the normal
forms of their parameters. So the other fragments of an ABI, and whatever else a parameter
holds, make no difference to the text, to the faults or to the warnings of a run.
-/

namespace SelectorRouter

/-! ## Steps that agree item by item -/

theorem Fallible.mapM_congr {ε α β γ : Type} {f : α → Except ε γ} {g : β → Except ε γ}
    {l : List α} {k : List β} (h : List.Forall₂ (fun a b => f a = g b) l k) :
    l.mapM f = k.mapM g := by
  induction h with
  | nil => rfl
  | cons same _ ih => rw [List.mapM_cons, List.mapM_cons, same, ih]

theorem Action.forM_congr {α : Type} {f : α → Action Unit} {l k : List α}
    (h : List.Forall₂ (fun a b => f a = f b) l k) : l.forM f = k.forM f := by
  induction h with
  | nil => rfl
  | @cons a b l k same _ ih =>
      show (f a >>= fun _ => l.forM f) = f b >>= fun _ => k.forM f
      rw [same, ih]

/-! ## Functions and addresses -/

/-- The same function, apart from how its parameters are written. -/
structure Function.Alike (f g : Function) : Prop where
  name : f.name = g.name
  left : f.Readable
  right : g.Readable
  norms : (Function.parameters f.inputs).map Parameter.norm =
    (Function.parameters g.inputs).map Parameter.norm

theorem Function.Alike.signature_eq {f g : Function} (h : f.Alike g) :
    f.signature = g.signature := by
  obtain ⟨a, signedF⟩ := Function.exists_signature_iff.mpr h.left
  obtain ⟨b, signedG⟩ := Function.exists_signature_iff.mpr h.right
  have same : a = b := by
    rw [← String.toList_inj, (Function.toList_signature signedF).2,
      (Function.toList_signature signedG).2, h.name, h.norms]
  rw [signedF, signedG, same]

/-- The same digits in any letter case. -/
structure Address.Alike (a b : String) : Prop where
  left : isHex a = true
  right : isHex b = true
  digits : a.toList.map Char.toLower = b.toList.map Char.toLower

theorem Address.Alike.lower_eq {a b : String} (h : Address.Alike a b) :
    Text.lower a = Text.lower b := by
  rw [Text.lower_of_isIdentifierChar (Address.isIdentifierChar_of_isHex h.left),
    Text.lower_of_isIdentifierChar (Address.isIdentifierChar_of_isHex h.right), h.digits]

/-! ## Modules -/

namespace Module

open Fallible (mapM_congr)

variable {filter : FunctionFilter} {m n : Module}

/-- The same module, apart from the letter case of its address, from what does not pass the
filter and from how parameters are written. -/
structure Alike (filter : FunctionFilter) (m n : Module) : Prop where
  name : ∃ name, m.name = .str name ∧ n.name = .str name
  address : ∃ a b, m.address = .str a ∧ n.address = .str b ∧ Address.Alike a b
  functions : List.Forall₂ Function.Alike (Function.ofAbi m.abi filter)
    (Function.ofAbi n.abi filter)

/-- Modules that no stage of the generator tells apart. -/
structure Interchangeable (filter : FunctionFilter) (m n : Module) : Prop where
  name : m.name = n.name
  checksum : m.checksumAddress = n.checksumAddress
  selectors : m.selectors filter = n.selectors filter

theorem Alike.checksumAddress_eq (h : Alike filter m n) :
    m.checksumAddress = n.checksumAddress := by
  obtain ⟨name, nameM, nameN⟩ := h.name
  obtain ⟨a, b, addressM, addressN, same⟩ := h.address
  -- a report would show the address as it is written, but a valid one is not reported
  simp only [checksumAddress, addressM, addressN, same.left, same.right, if_true, same.lower_eq]

theorem Alike.selectors_eq (h : Alike filter m n) : m.selectors filter = n.selectors filter := by
  obtain ⟨name, nameM, nameN⟩ := h.name
  refine mapM_congr (h.functions.imp fun f g alike => ?_)
  rw [selectorOf, selectorOf, alike.signature_eq, alike.name, nameM, nameN]

theorem Alike.interchangeable (h : Alike filter m n) : Interchangeable filter m n := by
  obtain ⟨name, nameM, nameN⟩ := h.name
  exact ⟨nameM.trans nameN.symm, h.checksumAddress_eq, h.selectors_eq⟩

/-! ## Lists of modules -/

variable {modules others : List Module} {router : String}

theorem checkFrom_congr (h : List.Forall₂ (Interchangeable filter) modules others) :
    ∀ seen, checkFrom router seen modules = checkFrom router seen others := by
  induction h with
  | nil => exact fun _ => rfl
  | cons same _ ih =>
      intro seen
      rw [checkFrom, checkFrom, same.name, same.checksum]
      simp only [ih]

theorem isEmpty_congr {α β : Type} {R : α → β → Prop} {l : List α} {k : List β}
    (h : List.Forall₂ R l k) : l.isEmpty = k.isEmpty := by
  cases h <;> rfl

theorem check_congr (h : List.Forall₂ (Interchangeable filter) modules others) :
    check router modules = check router others := by
  rw [check, check, isEmpty_congr h, checkFrom_congr h]

theorem collect_congr (h : List.Forall₂ (Interchangeable filter) modules others) :
    collect router filter modules = collect router filter others := by
  rw [collect, collect, isEmpty_congr h, mapM_congr (h.imp fun _ _ same => same.selectors)]

end Module

/-! ## The generator -/

namespace Router

open Fallible (mapM_congr)
open SelectorRouter.Module (Interchangeable)

variable {r : Request} {others : List Module}

theorem logAddress_congr {filter : FunctionFilter} {m n : Module}
    (h : Interchangeable filter m n) : logAddress m = logAddress n := by
  have line : addressLine m = addressLine n := by
    funext address
    rw [addressLine, addressLine, h.name]
  rw [logAddress, logAddress, h.checksum, line]

theorem warnIfUnreachable_congr {filter : FunctionFilter} {m n : Module}
    (h : Interchangeable filter m n) :
    warnIfUnreachable filter m = warnIfUnreachable filter n := by
  rw [warnIfUnreachable, warnIfUnreachable, h.selectors, unreachable, unreachable, h.name]

theorem facetOf_congr {filter : FunctionFilter} {m n : Module} (h : Interchangeable filter m n) :
    Diamond.FacetTable.facetOf filter m = Diamond.FacetTable.facetOf filter n := by
  rw [Diamond.FacetTable.facetOf, Diamond.FacetTable.facetOf, h.checksum, h.selectors, h.name]

theorem declarations_congr {filter : FunctionFilter} {modules : List Module}
    (h : List.Forall₂ (Interchangeable filter) modules others) (ids : Constant.Identifiers) :
    Constant.declarations ids modules = Constant.declarations ids others := by
  have each : modules.mapM (Constant.declare ids) = others.mapM (Constant.declare ids) := by
    refine mapM_congr (h.imp fun m n same => ?_)
    rw [Constant.declare, Constant.declare, same.name, same.checksum]
  rw [Constant.declarations, Constant.declarations, each]

theorem sections_congr (h : List.Forall₂ (Interchangeable r.filter) r.modules others)
    (tree : Dispatch.Tree) : sections r tree = sections { r with modules := others } tree := by
  have names : r.modules.map (·.name) = others.map (·.name) := by
    rw [← List.forall₂_eq_eq_eq, List.forall₂_map_left_iff, List.forall₂_map_right_iff]
    exact h.imp fun _ _ same => same.name
  have table : Diamond.FacetTable.ofModules r.filter r.modules =
      Diamond.FacetTable.ofModules r.filter others :=
    mapM_congr (h.imp fun _ _ same => facetOf_congr same)
  simp only [sections, names, declarations_congr h, table]
  rfl

/-- Interchangeable modules are generated alike, in every session. -/
theorem generate_congr (h : List.Forall₂ (Interchangeable r.filter) r.modules others) :
    generate r = generate { r with modules := others } := by
  have routed : routedSelectors r = routedSelectors { r with modules := others } := by
    rw [routedSelectors, routedSelectors, Module.collect_congr h]
    rfl
  have logs : r.modules.forM logAddress = others.forM logAddress :=
    Action.forM_congr (h.imp fun _ _ same => logAddress_congr same)
  have warnings : r.modules.forM (warnIfUnreachable r.filter) =
      others.forM (warnIfUnreachable r.filter) :=
    Action.forM_congr (h.imp fun _ _ same => warnIfUnreachable_congr same)
  rw [generate, Module.check_congr h, logs, routed, warnings]
  simp only [sections_congr h]
  rfl

/-- **Irrelevant input never influences the router.** Take modules that agree one by one in
their names, in their addresses up to the letter case of the digits, and in the functions
that pass the filter: in the names of these and in the normal forms of their parameters,
which can all be read. Then every run ends in the same text or in the same fault, with the
same warnings shown, whatever else the two ABIs hold. -/
theorem generate_eq_of_alike (r : Request) (others : List Module)
    (alike : List.Forall₂ (Module.Alike r.filter) r.modules others) (session : Session) :
    generate r session = generate { r with modules := others } session := by
  rw [generate_congr (alike.imp fun _ _ same => same.interchangeable)]

/-- A router of one pool, at an address and with an ABI. -/
def poolRequest (address : String) (abi : List Json) : Request :=
  ⟨[⟨.str "Pool", .str address, abi⟩], .str "Router", none, false, true, .withoutCoverage⟩

def plainAbi : List Json :=
  [Function.swapFragment "tuple[2]" "uint256" []]

/-- The same function behind an event, a constructor and a function of the coverage tool,
two of them with malformed inputs. -/
def dressedAbi : List Json :=
  [.obj [("type", .str "event"), ("name", .str "Swap")],
    .obj [("type", .str "constructor"), ("inputs", .int 1)],
    .obj [("type", .str "function"), ("name", .str "c_0x00"), ("inputs", .arr [.null])],
    Function.swapFragment "tuple [2]" " uint"
      [("name", .str "pairs"), ("internalType", .str "struct Pair[2]")]]

/-- Only the swap of the pool is seen. -/
theorem generate_eq_pool :
    List.Forall₂ (Module.Alike .withoutCoverage)
      (poolRequest "0x70997970C51812dc3A010C7d01b50e0d17dc79C8" plainAbi).modules
      (poolRequest "0x70997970c51812dc3a010c7d01b50e0d17dc79c8" dressedAbi).modules ∧
    ∀ session,
      generate (poolRequest "0x70997970C51812dc3A010C7d01b50e0d17dc79C8" plainAbi) session =
        generate (poolRequest "0x70997970c51812dc3a010c7d01b50e0d17dc79c8" dressedAbi) session := by
  have swap : List.Forall₂ Function.Alike (Function.ofAbi plainAbi .withoutCoverage)
      (Function.ofAbi dressedAbi .withoutCoverage) :=
    .cons ⟨rfl, Function.exists_signature_iff.mp
        ⟨"swap((uint256,address)[2])", Fallible.eq_ok_of_toOption (by decide +kernel)⟩,
      Function.exists_signature_iff.mp
        ⟨"swap((uint256,address)[2])", Fallible.eq_ok_of_toOption (by decide +kernel)⟩,
      by with_unfolding_all rfl⟩ .nil
  have alike : List.Forall₂ (Module.Alike .withoutCoverage)
      (poolRequest "0x70997970C51812dc3A010C7d01b50e0d17dc79C8" plainAbi).modules
      (poolRequest "0x70997970c51812dc3a010c7d01b50e0d17dc79c8" dressedAbi).modules :=
    .cons ⟨⟨"Pool", rfl, rfl⟩, ⟨_, _, rfl, rfl, rfl, rfl, by decide⟩, swap⟩ .nil
  exact ⟨alike, generate_eq_of_alike _ _ alike⟩

end Router

end SelectorRouter
