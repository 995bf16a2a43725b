import SelectorRouter.Diamond.Loupe
import SelectorRouter.Proofs.Code.Indentation
import SelectorRouter.Proofs.Constant.Assignment
import SelectorRouter.Proofs.Diamond.Registry
import SelectorRouter.Proofs.Solidity.Arrays

/-!
# The arrays of the diamond layer

Two functions of the diamond layer fill an array with one entry for each facet. The layer reads
as five functions, whatever the modules are: no constant is spelled like the keyword, and the
name of the router stands in a comment. The bodies of the two functions read back as an
allocation and a write for each constant by rising index, so a run of either one leaves the
constants of the modules in their order, each cell written once.
-/

namespace SelectorRouter.Diamond

open Code (Token IsWord Plain tokens)
open Constant (Identifiers Named identifierOf)
open SelectorRouter.Module (StringNames)
open Solidity (Filling Item Memory Spells functionTokens IsSingle block)

/-! ## Sections -/

/-- A line in which no function begins. -/
def Continues (l : String) : Prop :=
  .word "function" ∉ tokens l

/-- A line in which a function begins. -/
def Begins (name l : String) : Prop :=
  ∃ rest, tokens l = functionTokens (name, rest) ∧ IsSingle (name, rest)

/-- Lines that are one function. -/
def Opens (name : String) (ls : List String) : Prop :=
  ∃ rest, ls.flatMap tokens = functionTokens (name, rest) ∧ IsSingle (name, rest)

theorem continues_literal {cs : List Char}
    (h : .word "function" ∉ Code.scan [] (Code.withoutComments false cs)) :
    Continues (String.ofList cs) := by
  rwa [Continues, Code.tokens_ofList]

theorem tokens_comment {cs : List Char} (h : Code.withoutComments false cs = []) :
    tokens (String.ofList cs) = [] := by
  rw [Code.tokens_ofList, h]
  rfl

theorem continues_flatMap {ls : List String} (h : ∀ l ∈ ls, Continues l) :
    .word "function" ∉ ls.flatMap tokens := by
  rw [List.mem_flatMap]
  rintro ⟨l, hl, used⟩
  exact h l hl used

theorem opens_comment {name l : String} {ls : List String} (comment : tokens l = [])
    (opens : Opens name ls) : Opens name (l :: ls) := by
  rwa [Opens, List.flatMap_cons, comment, List.nil_append]

theorem begins_literal {name : String} {cs : List Char}
    (head : (Code.scan [] (Code.withoutComments false cs)).take 2 =
      [.word "function", .word name])
    (only : .word "function" ∉ (Code.scan [] (Code.withoutComments false cs)).tail) :
    Begins name (String.ofList cs) := by
  rw [Begins, Code.tokens_ofList]
  generalize Code.scan [] (Code.withoutComments false cs) = ts at head only
  match ts, head with
  | first :: second :: rest, head =>
      obtain ⟨rfl, tail⟩ := List.cons.inj head
      obtain ⟨rfl, -⟩ := List.cons.inj tail
      exact ⟨rest, rfl, only⟩

theorem opens_cons {name l : String} {ls : List String} (begins : Begins name l)
    (h : ∀ l ∈ ls, Continues l) : Opens name (l :: ls) := by
  obtain ⟨rest, eq, single⟩ := begins
  refine ⟨rest ++ ls.flatMap tokens, ?_, single.append (continues_flatMap h)⟩
  rw [List.flatMap_cons, eq, Solidity.functionTokens_append]

theorem continues_typeLines : ∀ l ∈ typeLines, Continues l := by
  simp only [typeLines, List.forall_mem_cons]
  and_intros
  all_goals first
    | exact continues_literal (by decide +kernel)
    | exact fun _ h => absurd h List.not_mem_nil

theorem continues_slotLine {router : String} (plain : Plain router) (slot : List UInt8) :
    Continues ("    bytes32 s = " ++ ("0x" ++ Text.hex slot) ++ "; // keccak256(\""
        ++ storageNamespace router ++ "\")") := by
  have number : "0x" ++ Text.hex slot ≠ "function" := by
    intro same
    have head : ("0x" ++ Text.hex slot).toList.head? = "function".toList.head? :=
      congrArg (·.toList.head?) same
    rw [String.toList_append] at head
    have zero : some '0' = some 'f' := head
    exact absurd zero (by decide)
  rw [Continues, Constant.tokens_slotLine plain]
  simpa using number.symm

theorem opens_registryLines {router : String} (plain : Plain router) :
    Opens "_facets" (registryLines router) := by
  have slot := continues_slotLine plain (storageSlot router)
  rw [registryLines]
  refine opens_comment (tokens_comment (by decide +kernel)) ?_
  refine opens_comment (tokens_comment (by decide +kernel)) ?_
  refine opens_cons (begins_literal (by decide +kernel) (by decide +kernel)) ?_
  simp only [List.forall_mem_cons]
  refine ⟨slot, ?_⟩
  and_intros
  all_goals first
    | exact continues_literal (by decide +kernel)
    | exact fun _ h => absurd h List.not_mem_nil

theorem opens_facetSelectorLines : Opens "_facetFunctionSelectors" facetSelectorLines := by
  simp only [facetSelectorLines, String.reduceAppend]
  refine opens_comment (tokens_comment (by decide +kernel)) ?_
  refine opens_comment (tokens_comment (by decide +kernel)) ?_
  refine opens_comment (tokens_comment (by decide +kernel)) ?_
  refine opens_cons (begins_literal (by decide +kernel) (by decide +kernel)) ?_
  simp only [List.forall_mem_cons]
  and_intros
  all_goals first
    | exact continues_literal (by decide +kernel)
    | exact fun _ h => absurd h List.not_mem_nil

theorem opens_facetAddressLines : Opens "_facetAddress" facetAddressLines := by
  simp only [facetAddressLines, String.reduceAppend]
  refine opens_comment (tokens_comment (by decide +kernel)) ?_
  refine opens_comment (tokens_comment (by decide +kernel)) ?_
  refine opens_comment (tokens_comment (by decide +kernel)) ?_
  refine opens_comment (tokens_comment (by decide +kernel)) ?_
  refine opens_cons (begins_literal (by decide +kernel) (by decide +kernel)) ?_
  simp only [List.forall_mem_cons]
  and_intros
  all_goals first
    | exact continues_literal (by decide +kernel)
    | exact fun _ h => absurd h List.not_mem_nil

/-! ## Statements -/

/-- The lines that fill the array of addresses, each with what it does. -/
def addressProgram (constants : List String) : List (String × Filling) :=
  ("    facetAddresses_ = new address[](" ++ toString constants.length ++ ");",
      .allocate "address" "facetAddresses_" constants.length)
    :: constants.zipIdx.map fun (id, i) =>
      (addressAssignment i id, .put "facetAddresses_" i (.constant id))

/-- The lines that fill and announce the array of cuts. -/
def cutProgram (constants : List String) : List (String × Filling) :=
  ("    FacetCut[] memory cuts = new FacetCut[](" ++ toString constants.length ++ ");",
      .allocate "FacetCut" "cuts" constants.length)
    :: (constants.zipIdx.map fun (id, i) =>
      (cutAssignment i id, .put "cuts" i (.cut id "Add" id)))
    ++ [("    emit DiamondCut(cuts, address(0), new bytes(0));", .emit "cuts"),
      ("    return true;", .succeed)]

/-- A word that can name a constant. -/
def IsName (s : String) : Prop :=
  IsWord s ∧ s ≠ "function"

theorem function_ne_repr (n : Nat) : "function" ≠ n.repr := by
  intro same
  have letter : 'f' ∈ (toString n).toList := by
    rw [Nat.toString_eq_repr, ← same]
    decide
  exact absurd (Code.isDigit_of_mem_toString letter) (by decide)

theorem spells_addressAllocation (n : Nat) :
    Spells (tokens ("    facetAddresses_ = new address[](" ++ toString n ++ ");"))
      (.allocate "address" "facetAddresses_" n) := by
  have word := Code.isWord_toString n
  have read := Solidity.read?_allocate (Code.read?_toString n) "address" "facetAddresses_"
  refine ⟨_, ?_, read, ?_⟩
  · rw [String.append_assoc, Code.tokens_append_word (by decide) rfl word rfl]
    rfl
  · simp [function_ne_repr]

theorem spells_cutAllocation (n : Nat) :
    Spells (tokens ("    FacetCut[] memory cuts = new FacetCut[](" ++ toString n ++ ");"))
      (.allocate "FacetCut" "cuts" n) := by
  have word := Code.isWord_toString n
  have read := Solidity.read?_declare (Code.read?_toString n) "FacetCut" "cuts"
  refine ⟨_, ?_, read, ?_⟩
  · rw [String.append_assoc, Code.tokens_append_word (by decide) rfl word rfl]
    rfl
  · simp [function_ne_repr]

theorem spells_addressAssignment {id : String} (name : IsName id) (i : Nat) :
    Spells (tokens (addressAssignment i id)) (.put "facetAddresses_" i (.constant id)) := by
  obtain ⟨word, keyword⟩ := name
  have item : Item.read? [.word id] = some (.constant id) := rfl
  have read := Solidity.read?_put (Code.read?_toString i) item "facetAddresses_"
  refine ⟨_, ?_, read, ?_⟩
  · rw [addressAssignment]
    simp only [String.append_assoc]
    rw [Code.tokens_tab,
      Code.tokens_append_word (by decide) rfl (Code.isWord_toString i) (Code.stops_append rfl _),
      Code.tokens_append_word (by decide) rfl word rfl]
    rfl
  · simp [function_ne_repr, keyword.symm]

theorem spells_cutAssignment {id : String} (name : IsName id) (i : Nat) :
    Spells (tokens (cutAssignment i id)) (.put "cuts" i (.cut id "Add" id)) := by
  obtain ⟨word, keyword⟩ := name
  have item : Item.read? [.word "FacetCut", .symbol '(', .word id, .symbol ',',
      .word "FacetCutAction", .symbol '.', .word "Add", .symbol ',',
      .word "_facetFunctionSelectors", .symbol '(', .word id, .symbol ')', .symbol ')'] =
        some (.cut id "Add" id) := rfl
  have read := Solidity.read?_put (Code.read?_toString i) item "cuts"
  refine ⟨_, ?_, read, ?_⟩
  · rw [cutAssignment]
    simp only [String.append_assoc]
    rw [Code.tokens_tab,
      Code.tokens_append_word (by decide) rfl (Code.isWord_toString i) (Code.stops_append rfl _),
      Code.tokens_append_word (by decide) rfl word (Code.stops_append rfl _),
      Code.tokens_append_word (by decide) rfl word rfl]
    rfl
  · simp [function_ne_repr, keyword.symm]

theorem spells_emission :
    Spells (tokens "    emit DiamondCut(cuts, address(0), new bytes(0));") (.emit "cuts") := by
  refine ⟨[.word "emit", .word "DiamondCut", .symbol '(', .word "cuts", .symbol ',',
    .word "address", .symbol '(', .word "0", .symbol ')', .symbol ',', .word "new",
    .word "bytes", .symbol '(', .word "0", .symbol ')', .symbol ')'], ?_, rfl, by simp⟩
  exact (Code.tokens_ofList _).trans (by decide +kernel)

theorem spells_return : Spells (tokens "    return true;") .succeed :=
  ⟨[.word "return", .word "true"], by decide, rfl, by simp⟩

theorem spells_addressProgram {constants : List String} (names : ∀ id ∈ constants, IsName id) :
    ∀ p ∈ addressProgram constants, Spells (tokens p.1) p.2 := by
  intro p hp
  rcases List.mem_cons.mp hp with rfl | hp
  · exact spells_addressAllocation _
  · obtain ⟨⟨id, i⟩, mem, rfl⟩ := List.mem_map.mp hp
    exact spells_addressAssignment (names id (List.fst_mem_of_mem_zipIdx mem)) i

theorem spells_cutProgram {constants : List String} (names : ∀ id ∈ constants, IsName id) :
    ∀ p ∈ cutProgram constants, Spells (tokens p.1) p.2 := by
  intro p hp
  simp only [cutProgram, List.mem_append, List.mem_cons, List.not_mem_nil, or_false] at hp
  rcases hp with (rfl | hp) | rfl | rfl
  · exact spells_cutAllocation _
  · obtain ⟨⟨id, i⟩, mem, rfl⟩ := List.mem_map.mp hp
    exact spells_cutAssignment (names id (List.fst_mem_of_mem_zipIdx mem)) i
  · exact spells_emission
  · exact spells_return

/-! ## The text of the layer -/

/-- The head of the function that lists the addresses, behind its name. -/
def addressHead : List Token :=
  [.symbol '(', .symbol ')', .word "internal", .word "pure", .word "returns", .symbol '(',
    .word "address", .symbol '[', .symbol ']', .word "memory", .word "facetAddresses_",
    .symbol ')']

/-- The head of the function that announces the cuts, behind its name. -/
def cutHead : List Token :=
  [.symbol '(', .symbol ')', .word "internal", .word "returns", .symbol '(', .word "bool",
    .symbol ')']

theorem tokens_facetAddressesLines (constants : List String) :
    (facetAddressesLines (toString constants.length) (Text.joinLines
        (constants.zipIdx.map fun (id, i) => addressAssignment i id))).flatMap tokens =
      functionTokens ("_facetAddresses", addressHead ++ block (addressProgram constants)) := by
  have head : tokens
      "function _facetAddresses() internal pure returns (address[] memory facetAddresses_) \x7b" =
        .word "function" :: .word "_facetAddresses" :: (addressHead ++ [.symbol '{']) :=
    (Code.tokens_ofList _).trans (by decide +kernel)
  have first : tokens "/// @notice Get all the facet addresses used by a diamond." = [] :=
    tokens_comment (by decide +kernel)
  have second : tokens "/// @return facetAddresses_" = [] := tokens_comment (by decide +kernel)
  have close : tokens "\x7d" = [.symbol '}'] := by decide
  have blank : tokens "" = [] := rfl
  simp only [facetAddressesLines, List.flatMap_cons, List.flatMap_nil, first, second, head, close,
    blank, Code.tokens_joinLines, addressProgram, block, functionTokens, List.flatMap_map,
    List.append_assoc, List.cons_append, List.nil_append, List.append_nil]

/-- The declaration of the event stands before the function that announces the cuts. -/
def eventLine : String :=
  "event DiamondCut(FacetCut[] _diamondCut, address _init, bytes _calldata);"

theorem continues_eventLine : Continues eventLine := by
  rw [eventLine]
  exact continues_literal (by decide +kernel)

theorem tokens_eventLines (constants : List String) :
    (eventLines (toString constants.length) (Text.joinLines
        (constants.zipIdx.map fun (id, i) => cutAssignment i id))).flatMap tokens =
      tokens eventLine
        ++ functionTokens ("_emitDiamondCutEvent", cutHead ++ block (cutProgram constants)) := by
  have head : tokens "function _emitDiamondCutEvent() internal returns (bool) \x7b" =
      .word "function" :: .word "_emitDiamondCutEvent" :: (cutHead ++ [.symbol '{']) :=
    (Code.tokens_ofList _).trans (by decide +kernel)
  have comment : tokens
      "/// @notice Emits the cut events that would be emitted if this was actually a diamond" =
        [] := tokens_comment (by decide +kernel)
  have close : tokens "\x7d" = [.symbol '}'] := by decide
  have blank : tokens "" = [] := rfl
  simp only [eventLines, eventLine, List.flatMap_cons, List.flatMap_nil, comment, head, close,
    blank, Code.tokens_joinLines, cutProgram, block, functionTokens, List.flatMap_map,
    List.flatMap_append, List.append_assoc, List.cons_append, List.nil_append, List.append_nil]

/-- The layer is its types and five functions, whatever the modules are. -/
theorem exists_functions {router : String} (plain : Plain router) {constants : List String}
    (names : ∀ id ∈ constants, IsName id) : ∃ registry selectors address,
      let fs := [("_facets", registry), ("_facetFunctionSelectors", selectors),
        ("_facetAddresses", addressHead ++ block (addressProgram constants)),
        ("_facetAddress", address),
        ("_emitDiamondCutEvent", cutHead ++ block (cutProgram constants))]
      (compatLines router constants).flatMap tokens =
          typeLines.flatMap tokens ++ fs.flatMap functionTokens ∧ ∀ f ∈ fs, IsSingle f := by
  obtain ⟨registry, registryTokens, registrySingle⟩ := opens_registryLines plain
  obtain ⟨selectors, selectorTokens, selectorSingle⟩ := opens_facetSelectorLines
  obtain ⟨address, addressTokens, addressSingle⟩ := opens_facetAddressLines
  have addresses : IsSingle ("_facetAddresses", addressHead) := by simp [IsSingle, addressHead]
  have cuts : IsSingle ("_emitDiamondCutEvent", cutHead) := by simp [IsSingle, cutHead]
  refine ⟨registry, selectors, address ++ tokens eventLine, ?_, ?_⟩
  · rw [compatLines]
    simp only [List.flatMap_append, registryTokens, selectorTokens, addressTokens,
      tokens_facetAddressesLines, tokens_eventLines, List.flatMap_cons, List.flatMap_nil,
      Solidity.functionTokens_append, List.append_assoc, List.append_nil]
  · simp only [List.forall_mem_cons]
    exact ⟨registrySingle, selectorSingle,
      addresses.append (Solidity.function_not_mem_block (spells_addressProgram names)),
      addressSingle.append continues_eventLine,
      cuts.append (Solidity.function_not_mem_block (spells_cutProgram names)),
      fun _ h => absurd h List.not_mem_nil⟩

/-- Lines that end with a closing brace are read line by line, although they are indented and
trimmed. -/
theorem tokens_trimmed {front : List String} (h : front ≠ []) :
    tokens (String.ofList (Text.trimRight
        (Text.indentLines (Text.joinLines (front ++ ["\x7d", ""]))).toList)) =
      (front ++ ["\x7d", ""]).flatMap tokens := by
  have close : Text.joinLines ["\x7d", ""] = "\x7d\n" := by decide
  have indented : Text.indentLines "\x7d\n" = "    \x7d" ++ "\n" := by decide
  have feed : "\n".toList = ['\n'] := rfl
  have text := Text.indentLines_append_feed (Text.joinLines front) "\x7d\n"
  rw [indented, ← String.append_assoc] at text
  have last : ∀ s : String, (s ++ "    \x7d").toList.getLast? = some '\x7d' := by
    intro s
    rw [String.toList_append, List.getLast?_append]
    rfl
  have trimmed : ∀ s : String, String.ofList (Text.trimRight (s ++ "    \x7d" ++ "\n").toList) =
      s ++ "    \x7d" := by
    intro s
    rw [String.toList_append, feed, Text.trimRight_append_blank rfl, Text.trimRight_of_last,
      String.ofList_toList]
    rw [last]
    rintro _ ⟨⟩
    rfl
  rw [← Code.tokens_joinLines, Text.joinLines_append (List.cons_ne_nil _ _) h, close]
  rw [← Code.tokens_indentLines (Text.joinLines front ++ "\n" ++ "\x7d\n"), text, trimmed,
    Code.tokens_append_feed]

theorem exists_front (router : String) (constants : List String) :
    ∃ front, front ≠ [] ∧ compatLines router constants = front ++ ["\x7d", ""] := by
  refine ⟨typeLines ++ (registryLines router ++ (facetSelectorLines
    ++ (facetAddressesLines (toString constants.length) (Text.joinLines
        (constants.zipIdx.map fun (id, i) => addressAssignment i id)) ++ (facetAddressLines
    ++ (eventLines (toString constants.length) (Text.joinLines
        (constants.zipIdx.map fun (id, i) => cutAssignment i id))).take 8)))), ?_, ?_⟩
  · exact List.cons_ne_nil _ _
  · simp only [compatLines, List.append_assoc]
    rfl

variable {router : String} {filter : FunctionFilter} {modules : List Module} {ids : Identifiers}

/-- The layer of named modules, and how it is read. -/
theorem exists_compatText (router : String) (filter : FunctionFilter) (named : Named ids modules) :
    ∃ text, compatText router ids (modules.map (FacetTable.facet filter)) = .ok text ∧
      tokens text =
        (compatLines router (modules.map fun m => identifierOf ids m.name)).flatMap tokens := by
  obtain ⟨front, nonempty, lines⟩ :=
    exists_front router (modules.map fun m => identifierOf ids m.name)
  refine ⟨_, by rw [compatText, mapM_require_facets named]; rfl, ?_⟩
  rw [lines]
  exact tokens_trimmed nonempty

/-! ## Runs -/

theorem run_addressProgram (constants : List String) :
    Memory.empty.run ((addressProgram constants).map (·.2)) =
      some ⟨[⟨"address", "facetAddresses_", constants.map fun id => [.constant id]⟩], []⟩ := by
  have fill := Memory.run_fill "address" "facetAddresses_" (constants.map Item.constant)
  rw [List.length_map, List.zipIdx_map, List.map_map, List.map_map] at fill
  rw [addressProgram, List.map_cons, List.map_map]
  exact fill

theorem run_cutProgram (constants : List String) :
    let cuts : Solidity.Buffer := ⟨"FacetCut", "cuts", constants.map fun id => [.cut id "Add" id]⟩
    Memory.empty.run ((cutProgram constants).map (·.2)) = some ⟨[cuts], [cuts]⟩ := by
  have fill := Memory.run_fill "FacetCut" "cuts" (constants.map fun id => Item.cut id "Add" id)
  rw [List.length_map, List.zipIdx_map, List.map_map, List.map_map] at fill
  rw [cutProgram, List.map_append, Memory.run_append, List.map_cons, List.map_map]
  refine (congrArg (Option.bind · _) fill).trans ?_
  rfl

/-- **Each of the two functions fills one array**, and writes each of its cells once. -/
theorem runFunction_compatText (plain : Plain router) {constants : List String}
    (names : ∀ id ∈ constants, IsName id) {text : String}
    (read : tokens text = (compatLines router constants).flatMap tokens) :
    let cuts : Solidity.Buffer := ⟨"FacetCut", "cuts", constants.map fun id => [.cut id "Add" id]⟩
    Solidity.runFunction "_facetAddresses" text =
        some ⟨[⟨"address", "facetAddresses_", constants.map fun id => [.constant id]⟩], []⟩ ∧
      Solidity.runFunction "_emitDiamondCutEvent" text = some ⟨[cuts], [cuts]⟩ := by
  obtain ⟨registry, selectors, address, layer, single⟩ := exists_functions plain names
  have start := continues_flatMap continues_typeLines
  have head : .symbol '{' ∉ addressHead ∧ .symbol '{' ∉ cutHead := by decide
  constructor
  · rw [Solidity.runFunction_eq (spells_addressProgram names) (read.trans layer) start single rfl
      head.1, run_addressProgram]
  · rw [Solidity.runFunction_eq (spells_cutProgram names) (read.trans layer) start single rfl
      head.2, run_cutProgram]

/-! ## Complete arrays -/

/-- The constants of modules can be named in a statement. -/
theorem isName_identifierOf (assigned : Constant.identifiers (modules.map (·.name)) = .ok ids)
    (named : Named ids modules) :
    ∀ id ∈ modules.map fun m => identifierOf ids m.name, IsName id := by
  intro id mem
  obtain ⟨m, hm, rfl⟩ := List.mem_map.mp mem
  have declarable := named.declarable m hm
  refine ⟨declarable.word, fun keyword => ?_⟩
  have constant := Constant.isConstant_of_lookup assigned declarable.named
  rw [keyword] at constant
  exact absurd constant (by decide)

/-- **The arrays are complete.** For any router whose name stays on its line, the two functions
of the layer run to their ends. Each allocates one array with a cell for each module and writes
every cell once. The constants in the array of addresses are declared with the addresses of the
facets, in their order, and a cut adds the facet of its module with the selectors of the same
facet. -/
theorem arrays_complete {label : String} (checked : Module.check label modules = .ok ())
    (strings : StringNames modules)
    (selectors : ∀ m ∈ modules, ∃ ss, m.selectors filter = .ok ss) (plain : Plain router) :
    ∃ ids table text declarations declared addresses cuts,
      Constant.identifiers (modules.map (·.name)) = .ok ids ∧
      FacetTable.ofModules filter modules = .ok table ∧
      compatText router ids table = .ok text ∧
      Constant.declarations ids modules = .ok declarations ∧
      Solidity.constants declarations = some declared ∧
      Solidity.runFunction "_facetAddresses" text =
        some ⟨[⟨"address", "facetAddresses_", addresses⟩], []⟩ ∧
      Solidity.runFunction "_emitDiamondCutEvent" text =
        some ⟨[⟨"FacetCut", "cuts", cuts⟩], [⟨"FacetCut", "cuts", cuts⟩]⟩ ∧
      addresses.length = modules.length ∧ cuts.length = modules.length ∧
      (addresses.map fun cell => cell.flatMap (Item.addresses declared)) =
        table.addresses.map (fun address => [address]) ∧
      ∀ (i : Nat) (m : Module), modules[i]? = some m → ∃ id,
        Constant.lookup ids m.name = .ok (some id) ∧ addresses[i]? = some [.constant id] ∧
          cuts[i]? = some [.cut id "Add" id] := by
  have routed : ∀ m ∈ modules, m.selectors filter = .ok (m.routed filter) := by
    intro m hm
    obtain ⟨ss, selected⟩ := selectors m hm
    exact Fallible.eq_ok_valueOr _ selected
  have nonempty : modules ≠ [] := by
    rintro rfl
    cases checked
  have nodup : modules.Nodup := List.Nodup.of_map _ (Module.check_eq_ok checked).1
  obtain ⟨ids, assigned, named⟩ := Module.exists_named_of_check checked strings
  obtain ⟨text, compat, read⟩ := exists_compatText router filter named
  obtain ⟨declarations, declared, constants⟩ :=
    Constant.constants_declarations nonempty named.declarable
  obtain ⟨runAddresses, runCuts⟩ :=
    runFunction_compatText plain (isName_identifierOf assigned named) read
  refine ⟨ids, _, text, declarations, _, _, _, assigned,
    FacetTable.ofModules_eq_ok_of_check checked routed, compat, declared, constants, runAddresses,
    runCuts, ?_, ?_, ?_, ?_⟩
  · rw [List.length_map, List.length_map]
  · rw [List.length_map, List.length_map]
  · rw [FacetTable.addresses, List.map_map, List.map_map, List.map_map, List.map_map]
    refine List.map_congr_left fun m hm => ?_
    have address := Constant.addressesOf_identifierOf nodup named.apart hm
    show [Item.constant (identifierOf ids m.name)].flatMap _ = _
    rw [List.flatMap_singleton]
    exact address
  · intro i m hi
    have hm : m ∈ modules := List.mem_of_getElem? hi
    refine ⟨_, (named.declarable m hm).named, ?_, ?_⟩
    · rw [List.getElem?_map, List.getElem?_map, hi]
      rfl
    · rw [List.getElem?_map, List.getElem?_map, hi]
      rfl

/-- The last of three modules has the last cell of both arrays. -/
theorem arrays_complete_exchange : ∃ ids table text addresses cuts,
    FacetTable.ofModules .all Module.exchange = .ok table ∧
    compatText "Router" ids table = .ok text ∧
    Solidity.runFunction "_facetAddresses" text =
      some ⟨[⟨"address", "facetAddresses_", addresses⟩], []⟩ ∧
    Solidity.runFunction "_emitDiamondCutEvent" text =
      some ⟨[⟨"FacetCut", "cuts", cuts⟩], [⟨"FacetCut", "cuts", cuts⟩]⟩ ∧
    addresses.length = 3 ∧ cuts.length = 3 ∧ addresses[2]? = some [.constant "_POOL"] ∧
    cuts[2]? = some [.cut "_POOL" "Add" "_POOL"] := by
  have accepted := Module.accepted_exchange
  have constants : Constant.identifiersOf ["Proxy", "Token", "Pool"] =
      [("Proxy", "_PROXY"), ("Token", "_TOKEN"), ("Pool", "_POOL")] := by decide
  have assignment : Constant.identifiers (Module.exchange.map (·.name)) =
      .ok (Constant.identifiersOf ["Proxy", "Token", "Pool"]) := Constant.identifiers_eq_ok rfl
  rw [constants] at assignment
  have plain : Plain "Router" := by decide
  obtain ⟨ids, table, text, _, _, addresses, cuts, assigned, made, compat, -, -, runAddresses,
    runCuts, three, threeCuts, -, entries⟩ := arrays_complete accepted.checked
      Module.Emittable.exchange.stringNames (fun m hm => ⟨_, accepted.selectors m hm⟩) plain
  obtain ⟨id, found, address, cut⟩ := entries 2 _ rfl
  obtain rfl := Except.ok.inj (assigned.symm.trans assignment)
  obtain rfl : "_POOL" = id := Option.some.inj (Except.ok.inj found)
  exact ⟨_, table, text, addresses, cuts, made, compat, runAddresses, runCuts, three, threeCuts,
    address, cut⟩

end SelectorRouter.Diamond
