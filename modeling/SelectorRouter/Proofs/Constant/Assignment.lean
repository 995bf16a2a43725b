import Mathlib.Data.List.Induction
import SelectorRouter.Diamond.Loupe
import SelectorRouter.Template.Router
import SelectorRouter.Proofs.Code.Literal
import SelectorRouter.Proofs.Constant.Spelling

/-!
# Assignment of constants

The names of a list get their constants one by one, each where it first occurs. What a longer
list adds stands behind what was assigned before, so the constant of a name is settled there:
it is where the search among its candidates ends.

The contract has words of its own, whatever its modules are. None of them is spelled like a
constant, so no constant can be mistaken for a function or a variable.
-/

namespace SelectorRouter.Constant

open Code (IsWord Plain Token tokens runs withoutComments)

/-- The lines of the template and of the diamond layer that are there for any modules. -/
def ownLines (router : String) : List String :=
  Template.routerLines ++ Diamond.compatLines router []

/-- A text that uses no constant. -/
def Constantless (s : String) : Prop :=
  ∀ id, IsConstant id → Token.word id ∉ tokens s

/-- A run of characters that is not in the spelling of constants. -/
def isUnlike (run : List Char) : Bool :=
  run.head? != some '_' || run.any fun c => !isConstantChar c

variable {ids : Identifiers} {names before after : List String} {name id : String}

/-! ## One name more -/

theorem identifiersOf_append_singleton (names : List String) (name : String) :
    identifiersOf (names ++ [name]) = addIdentifier (identifiersOf names) name := by
  rw [identifiersOf, List.foldl_append]
  rfl

theorem addIdentifier_of_known (known : name ∈ ids.map (·.1)) : addIdentifier ids name = ids := by
  rw [addIdentifier, if_pos]
  simpa using known

theorem addIdentifier_of_new (new : name ∉ ids.map (·.1)) : addIdentifier ids name =
    ids ++ [(name, firstFree (ids.map (·.2)) (baseIdentifier name))] := by
  rw [addIdentifier, if_neg]
  simpa using new

theorem eraseDups_append_of_mem {α : Type} [DecidableEq α] {as : List α} {a : α} (h : a ∈ as) :
    (as ++ [a]).eraseDups = as.eraseDups := by
  rw [List.eraseDups_append]
  simp [List.removeAll, h]

theorem eraseDups_append_of_not_mem {α : Type} [DecidableEq α] {as : List α} {a : α} (h : a ∉ as) :
    (as ++ [a]).eraseDups = as.eraseDups ++ [a] := by
  rw [List.eraseDups_append]
  simp [List.removeAll, h, List.eraseDups_cons]

/-- The names with constants are the names of the list, in the order in which they first
occur. -/
theorem map_fst_identifiersOf (names : List String) :
    (identifiersOf names).map (·.1) = names.eraseDups := by
  induction names using List.reverseRecOn with
  | nil => rfl
  | append_singleton names name ih =>
      rw [identifiersOf_append_singleton]
      by_cases known : name ∈ names
      · rw [addIdentifier_of_known (mem_keys_identifiersOf.mpr known), ih,
          eraseDups_append_of_mem known]
      · rw [addIdentifier_of_new fun h => known (mem_keys_identifiersOf.mp h), List.map_append,
          ih, eraseDups_append_of_not_mem known]
        rfl

theorem prefix_addIdentifier (ids : Identifiers) (name : String) :
    ids <+: addIdentifier ids name := by
  by_cases known : name ∈ ids.map (·.1)
  · simp [addIdentifier_of_known known]
  · rw [addIdentifier_of_new known]
    exact List.prefix_append ids _

/-- More names add constants behind those that are assigned. -/
theorem prefix_identifiersOf (before after : List String) :
    identifiersOf before <+: identifiersOf (before ++ after) := by
  induction after using List.reverseRecOn with
  | nil => simp
  | append_singleton after name ih =>
      rw [← List.append_assoc, identifiersOf_append_singleton]
      exact ih.trans (prefix_addIdentifier _ name)

/-- The constant of a name is the one found at its first occurrence. -/
theorem lookup_at_first (new : name ∉ before) :
    (identifiersOf (before ++ name :: after)).lookup name =
      some (firstFree ((identifiersOf before).map (·.2)) (baseIdentifier name)) := by
  have unknown : name ∉ (identifiersOf before).map (·.1) :=
    fun h => new (mem_keys_identifiersOf.mp h)
  have none : (identifiersOf before).lookup name = none := by
    rw [List.lookup_eq_none_iff]
    intro p hp
    simp only [bne_iff_ne, ne_eq]
    rintro rfl
    exact unknown (List.mem_map_of_mem hp)
  -- what comes after the name is behind it in the list and cannot change what is found
  obtain ⟨rest, whole⟩ := prefix_identifiersOf (before ++ [name]) after
  rw [List.append_assoc, List.singleton_append] at whole
  rw [← whole, identifiersOf_append_singleton, addIdentifier_of_new unknown, List.append_assoc,
    List.lookup_append, none]
  simp

theorem isConstant_of_mem_identifiersOf :
    ∀ id ∈ (identifiersOf names).map (·.2), IsConstant id := by
  induction names using List.reverseRecOn with
  | nil => exact fun id h => absurd h List.not_mem_nil
  | append_singleton names name ih =>
      rw [identifiersOf_append_singleton]
      by_cases known : name ∈ (identifiersOf names).map (·.1)
      · rwa [addIdentifier_of_known known]
      · rw [addIdentifier_of_new known, List.map_append]
        intro id h
        rcases List.mem_append.mp h with h | h
        · exact ih id h
        · obtain ⟨⟨k, candidate⟩, -⟩ :=
            firstFree_spec ((identifiersOf names).map (·.2)) (baseIdentifier name)
          rw [List.map_singleton, List.mem_singleton, candidate] at h
          rw [h]
          exact isConstant_numbered (isConstant_baseIdentifier name) k

/-- Whatever the names are, the constants found for them are spelled as constants. -/
theorem isConstant_of_lookup {names : List Json} {name : Json}
    (assigned : identifiers names = .ok ids) (found : lookup ids name = .ok (some id)) :
    IsConstant id := by
  obtain ⟨strings, -, rfl⟩ := Fallible.map_eq_ok.mp assigned
  unfold lookup at found
  split at found
  case h_1 s =>
      have mem := mem_of_lookup (Except.ok.inj found)
      exact isConstant_of_mem_identifiersOf id (List.mem_map.mpr ⟨_, mem, rfl⟩)
  all_goals cases found

/-! ## The words of the contract -/

theorem not_isConstant_of_isUnlike (h : isUnlike id.toList = true) : ¬ IsConstant id := by
  intro constant
  rw [isUnlike, constant.head, Bool.or_eq_true, List.any_eq_true] at h
  rcases h with h | ⟨c, hc, h⟩
  · exact absurd h (by decide)
  · rw [constant.chars c hc] at h
    exact absurd h (by decide)

theorem constantless_ofList {cs : List Char}
    (h : (runs (withoutComments false cs)).all isUnlike = true) :
    Constantless (String.ofList cs) := by
  intro id constant used
  have run := Code.toList_mem_runs used
  rw [String.toList_ofList] at run
  exact not_isConstant_of_isUnlike (List.all_eq_true.mp h _ run) constant

theorem constantless_fixedLines : ∀ line ∈ Template.routerLines ++ Diamond.typeLines ++
    Diamond.facetSelectorLines ++ Diamond.facetAddressesLines "0" "" ++ Diamond.facetAddressLines ++
    Diamond.eventLines "0" "", Constantless line := by
  simp only [Template.routerLines, Diamond.typeLines, Diamond.facetSelectorLines,
    Diamond.facetAddressesLines, Diamond.facetAddressLines, Diamond.eventLines,
    String.reduceAppend, List.cons_append, List.nil_append, List.forall_mem_cons]
  and_intros
  all_goals first
    | exact constantless_ofList (by decide +kernel)
    | exact fun _ h => absurd h List.not_mem_nil

/-- The slot of the registry is a number, and the router's name stands in a comment. -/
theorem tokens_slotLine {router : String} (plain : Plain router) (slot : List UInt8) :
    tokens ("    bytes32 s = " ++ ("0x" ++ Text.hex slot) ++ "; // keccak256(\""
        ++ Diamond.storageNamespace router ++ "\")") =
      [.word "bytes32", .word "s", .symbol '=', .word ("0x" ++ Text.hex slot), .symbol ';'] := by
  have comment : Plain (" keccak256(\"" ++ (Diamond.storageNamespace router ++ "\")")) := by
    have head : Plain " keccak256(\"" := by decide
    have path : Plain "Router." := by decide
    exact head.append ((path.append plain).append (by decide))
  have close : "; // keccak256(\"" ++ (Diamond.storageNamespace router ++ "\")") =
      "; " ++ "//" ++ (" keccak256(\"" ++ (Diamond.storageNamespace router ++ "\")")) := by
    rw [← String.toList_inj]
    simp [String.toList_append]
  rw [String.append_assoc, String.append_assoc, String.append_assoc,
    Code.tokens_append_word (by decide) rfl (Code.isWord_hex slot) (Code.stops_append rfl _), close,
    Code.tokens_commented (by decide) comment]
  rfl

theorem constantless_slotLine {router : String} (plain : Plain router) (slot : List UInt8) :
    Constantless ("    bytes32 s = " ++ ("0x" ++ Text.hex slot) ++ "; // keccak256(\""
        ++ Diamond.storageNamespace router ++ "\")") := by
  intro id constant used
  have number : ¬ IsConstant ("0x" ++ Text.hex slot) := by
    intro constant
    have head := constant.head
    rw [String.toList_append] at head
    have zero : some '0' = some '_' := head
    exact absurd zero (by decide)
  rw [tokens_slotLine plain] at used
  simp only [List.mem_cons, Token.word.injEq, reduceCtorEq, List.not_mem_nil, or_false,
    false_or] at used
  rcases used with rfl | rfl | rfl
  · exact absurd constant (by decide)
  · exact absurd constant (by decide)
  · exact number constant

theorem constantless_registryLines {router : String} (plain : Plain router) :
    ∀ line ∈ Diamond.registryLines router, Constantless line := by
  have slot := constantless_slotLine plain (Diamond.storageSlot router)
  simp only [Diamond.registryLines, List.forall_mem_cons]
  refine ⟨?_, ?_, ?_, slot, ?_, ?_, ?_, ?_, ?_, ?_⟩
  all_goals first
    | exact constantless_ofList (by decide +kernel)
    | exact fun _ h => absurd h List.not_mem_nil

theorem constantless_ownLines {router : String} (plain : Plain router) :
    ∀ line ∈ ownLines router, Constantless line := by
  have fixed := constantless_fixedLines
  simp only [List.forall_mem_append] at fixed
  obtain ⟨⟨⟨⟨⟨template, types⟩, selectors⟩, addresses⟩, address⟩, event⟩ := fixed
  have registry := constantless_registryLines plain
  rw [ownLines, Diamond.compatLines]
  simp only [List.forall_mem_append]
  exact ⟨template, ⟨⟨⟨⟨types, registry⟩, selectors⟩, addresses⟩, address⟩, event⟩

/-! ## Constants of a list -/

/-- **Constants tell names apart and are legal.** Any list of names gets its constants: one
for each name, in the order in which the names first occur, and no two the same. All are in
the spelling of constants, which no word of the contract's own code is. The search for each
passes only candidates that earlier names have, and stops at the first that is free. -/
theorem identifiers_distinct (names : List String) :
    ∃ ids, identifiers (names.map Json.str) = .ok ids ∧
      ids.map (·.1) = names.eraseDups ∧
      (ids.map (·.2)).Nodup ∧
      (∀ id ∈ ids.map (·.2), IsConstant id ∧
        ∀ router, Plain router → ∀ line ∈ ownLines router, Token.word id ∉ tokens line) ∧
      ∀ before name after, names = before ++ name :: after → name ∉ before →
        ∃ earlier k, identifiers (before.map Json.str) = .ok earlier ∧ k ≤ earlier.length ∧
          EndsAt (earlier.map (·.2)) (baseIdentifier name) k ∧
          ids.lookup name = some (numbered (baseIdentifier name) k) := by
  refine ⟨identifiersOf names, identifiers_eq_ok rfl, map_fst_identifiersOf names,
    (apart_identifiersOf names).nodup, ?_, ?_⟩
  · intro id mem
    have constant := isConstant_of_mem_identifiersOf id mem
    exact ⟨constant, fun router plain line own => constantless_ownLines plain line own id constant⟩
  · rintro before name after rfl new
    obtain ⟨k, ends⟩ := exists_endsAt ((identifiersOf before).map (·.2)) (baseIdentifier name)
    have length := ends.le_length
    rw [List.length_map] at length
    refine ⟨identifiersOf before, k, identifiers_eq_ok rfl, length, ends, ?_⟩
    rw [lookup_at_first new, ends.firstFree_eq]

example : identifiersOf ["OwnerModule", "ownerModule", "Owner_Module", "OwnerModule"] =
    [("OwnerModule", "_OWNER_MODULE"), ("ownerModule", "_OWNER_MODULE_2"),
      ("Owner_Module", "_OWNER__MODULE")] := by
  decide

end SelectorRouter.Constant
