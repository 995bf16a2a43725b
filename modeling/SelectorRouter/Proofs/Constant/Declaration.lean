import SelectorRouter.Proofs.Address
import SelectorRouter.Proofs.Constant.Identifier
import SelectorRouter.Proofs.Module
import SelectorRouter.Proofs.Solidity.Program

/-!
# Declarations of constants

The declarations of a list of modules read back as one constant for each module, in their
order, with the checksum address of the module. Identifiers tell names apart, so the
identifier of a module is declared once.
-/

namespace SelectorRouter.Constant

open Fallible (mapM_eq_ok_map)
open Code (IsWord Token tokens)
open SelectorRouter.Module (shownAddress)

/-- A module whose constant can be declared. -/
structure Declarable (ids : Identifiers) (m : Module) : Prop where
  named : lookup ids m.name = .ok (some (identifierOf ids m.name))
  word : IsWord (identifierOf ids m.name)
  address : m.checksumAddress = .ok m.shownAddress

variable {ids : Identifiers}

theorem require_eq_ok {name : Json} {id : String} (h : lookup ids name = .ok (some id)) :
    require ids name = .ok id := by
  rw [require, h]
  rfl

theorem declare_eq_ok {m : Module} (h : Declarable ids m) :
    declare ids m = .ok (declaration (identifierOf ids m.name) m.shownAddress) := by
  rw [declare, require_eq_ok h.named, h.address]
  rfl

/-! ## Reading declarations -/

/-- A declaration without its indentation. -/
def declarationCode (id address : String) : String :=
  "address private constant " ++ id ++ " = " ++ address ++ ";"

theorem declaration_eq (id address : String) :
    declaration id address = Text.indent 1 ++ declarationCode id address := by
  have tab : Text.tab = Text.indent 1 := by decide
  unfold declaration declarationCode
  simp only [tab, String.append_assoc]

theorem tokens_declarationCode {id address : String} (hi : IsWord id) (ha : IsWord address) :
    tokens (declarationCode id address) =
      [.word "address", .word "private", .word "constant", .word id, .symbol '=', .word address,
        .symbol ';'] := by
  have keywords : tokens "address private constant " =
      [.word "address", .word "private", .word "constant"] := by decide
  unfold declarationCode
  simp only [String.append_assoc]
  rw [Code.tokens_append_word (by decide) rfl hi (Code.stops_append rfl _),
    Code.tokens_append_word (by decide) rfl ha rfl, keywords]
  rfl

theorem head_declarationCode (id address : String) :
    (declarationCode id address).toList.head? = some 'a' := by
  unfold declarationCode
  simp only [String.toList_append, List.append_assoc]
  rfl

theorem getLast?_declarationCode (id address : String) :
    (declarationCode id address).toList.getLast? = some ';' := by
  unfold declarationCode
  rw [String.toList_append, List.getLast?_append]
  rfl

theorem readConstants_declarations : ∀ {modules : List Module},
    (∀ m ∈ modules, Declarable ids m) →
    Solidity.readConstants (modules.flatMap fun m =>
        tokens (declarationCode (identifierOf ids m.name) m.shownAddress)) =
      some (modules.map fun m => (identifierOf ids m.name, m.shownAddress))
  | [], _ => rfl
  | m :: modules, h => by
      have hm := h m List.mem_cons_self
      have ih := readConstants_declarations fun n hn => h n (List.mem_cons_of_mem m hn)
      rw [List.flatMap_cons,
        tokens_declarationCode hm.word (Module.checksumAddress_spec hm.address).1, List.map_cons]
      simp only [List.cons_append, List.nil_append, Solidity.readConstants, ih,
        Option.bind_eq_bind, Option.bind_some, Option.pure_def]

/-- **The declarations read back** as the constants of the modules. -/
theorem constants_declarations {modules : List Module} (nonempty : modules ≠ [])
    (h : ∀ m ∈ modules, Declarable ids m) :
    ∃ text, declarations ids modules = .ok text ∧ Solidity.constants text =
      some (modules.map fun m => (identifierOf ids m.name, m.shownAddress)) := by
  have lines : modules.mapM (declare ids) = .ok (modules.map fun m =>
      declaration (identifierOf ids m.name) m.shownAddress) :=
    mapM_eq_ok_map fun m hm => declare_eq_ok (h m hm)
  obtain ⟨first, others, rfl⟩ := List.exists_cons_of_ne_nil nonempty
  obtain ⟨last, ends⟩ : ∃ last, (first :: others).getLast? = some last :=
    ⟨_, List.getLast?_eq_some_getLast nonempty⟩
  have text : tokens (Text.strip (Text.joinLines ((first :: others).map fun m =>
      declaration (identifierOf ids m.name) m.shownAddress))) = (first :: others).flatMap fun m =>
        tokens (declarationCode (identifierOf ids m.name) m.shownAddress) := by
    simp only [declaration_eq]
    exact Code.tokens_strip_joinLines (head_declarationCode _ _) rfl ends
      (getLast?_declarationCode _ _) rfl
  refine ⟨_, by rw [declarations, lines]; rfl, ?_⟩
  rw [Solidity.constants, text, readConstants_declarations h]

/-! ## One declaration for each module -/

theorem filter_eq_singleton {α : Type} {p : α → Bool} {a : α} : ∀ {l : List α}, l.Nodup → a ∈ l →
    p a = true → (∀ b ∈ l, p b = true → b = a) → l.filter p = [a]
  | [], _, ha, _, _ => absurd ha List.not_mem_nil
  | b :: l, nodup, ha, pa, unique => by
      obtain ⟨fresh, nodup⟩ := List.nodup_cons.mp nodup
      have others : ∀ c ∈ l, p c = true → c = a := fun c hc => unique c (List.mem_cons_of_mem b hc)
      by_cases hb : p b = true
      · obtain rfl : b = a := unique b List.mem_cons_self hb
        have none_after : ∀ c ∈ l, ¬ p c = true := fun c hc pc => fresh (others c hc pc ▸ hc)
        rw [List.filter_cons_of_pos hb, List.filter_eq_nil_iff.mpr none_after]
      · have ha : a ∈ l := by
          rcases List.mem_cons.mp ha with rfl | ha
          · exact absurd pa hb
          · exact ha
        rw [List.filter_cons_of_neg hb, filter_eq_singleton nodup ha pa others]

/-- **The identifier of a module is declared once**, with the address of the module. -/
theorem addressesOf_identifierOf {modules : List Module} (nodup : modules.Nodup)
    (apart : ∀ k ∈ modules, ∀ m ∈ modules,
      identifierOf ids k.name = identifierOf ids m.name → k = m)
    {m : Module} (hm : m ∈ modules) :
    Solidity.addressesOf (modules.map fun k => (identifierOf ids k.name, k.shownAddress))
      (identifierOf ids m.name) = [m.shownAddress] := by
  have only : (modules.filter fun k => identifierOf ids k.name == identifierOf ids m.name) = [m] :=
    filter_eq_singleton nodup hm (beq_iff_eq.mpr rfl)
      fun k hk same => apart k hk m hm (beq_iff_eq.mp same)
  rw [Solidity.addressesOf, List.filter_map]
  exact congrArg (List.map _) (congrArg (List.map _) only)

end SelectorRouter.Constant
