import SelectorRouter.Diamond.Registration
import SelectorRouter.Proofs.Diamond.Loupe
import SelectorRouter.Proofs.Router.Emission

/-!
# The registry that the constructor fills

The constructor reads back as a program: for each facet an allocation, an assignment for
each selector by rising index, and a push. Its run writes every cell of an array once
before the array is pushed, so the registry holds the facets of the modules in their
order. The switch has the same pairs of method id and constant, in another order, because
sorting and splitting the selectors keep all of them.
-/

namespace SelectorRouter.Diamond

open Code (Token Literal IsWord)
open Constant (Identifiers Named identifierOf)
open Fallible (mapM_eq_ok_map)
open SelectorRouter.Module (Emittable routed)
open Solidity (Store)

namespace Registration

/-! ## Tokens of a line -/

/-- A line of the constructor without its indentation. -/
def code : Registration → String
  | declareArray => "bytes4[] memory selectors;"
  | blank => ""
  | allocate size => "selectors = new bytes4[](" ++ toString size ++ ");"
  | assign index literal => "selectors[" ++ toString index ++ "] = " ++ literal ++ ";"
  | push identifier => "_facets().push(Facet(" ++ identifier ++ ", selectors));"
  | announce => "_emitDiamondCutEvent();"

def level : Registration → Nat
  | blank => 0
  | _ => 2

theorem text_eq (r : Registration) : r.text = Text.indent r.level ++ r.code := by
  rw [← String.toList_inj]
  unfold text code
  cases r with
  | declareArray => rfl
  | blank => rfl
  | allocate size =>
      simp only [String.toList_append, List.append_assoc]
      rfl
  | assign index literal =>
      simp only [String.toList_append, List.append_assoc]
      rfl
  | push identifier =>
      simp only [String.toList_append, List.append_assoc]
      rfl
  | announce => rfl

/-- A line whose words are words, and whose method id is one. -/
def Fits : Registration → Prop
  | assign _ literal => IsWord literal ∧ ∃ value, Literal.read? literal = some value
  | push identifier => IsWord identifier
  | _ => True

/-- The tokens that a line is read as. -/
def tokens : Registration → List Token
  | declareArray => [.word "bytes4", .symbol '[', .symbol ']', .word "memory", .word "selectors",
      .symbol ';']
  | blank => []
  | allocate size => [.word "selectors", .symbol '=', .word "new", .word "bytes4", .symbol '[',
      .symbol ']', .symbol '(', .word (toString size), .symbol ')', .symbol ';']
  | assign index literal => [.word "selectors", .symbol '[', .word (toString index), .symbol ']',
      .symbol '=', .word literal, .symbol ';']
  | push identifier => [.word "_facets", .symbol '(', .symbol ')', .symbol '.', .word "push",
      .symbol '(', .word "Facet", .symbol '(', .word identifier, .symbol ',', .word "selectors",
      .symbol ')', .symbol ')', .symbol ';']
  | announce => [.word "_emitDiamondCutEvent", .symbol '(', .symbol ')', .symbol ';']

theorem tokens_allocate (size : Nat) :
    Code.tokens (allocate size).code = (allocate size).tokens := by
  have word := Code.isWord_toString size
  unfold code
  simp only [String.append_assoc]
  rw [Code.tokens_append_word (by decide) rfl word rfl]
  rfl

theorem tokens_assign (index : Nat) {literal : String} (h : IsWord literal) :
    Code.tokens (assign index literal).code = (assign index literal).tokens := by
  have word := Code.isWord_toString index
  unfold code
  simp only [String.append_assoc]
  rw [Code.tokens_append_word (by decide) rfl word (Code.stops_append rfl _),
    Code.tokens_append_word (by decide) rfl h rfl]
  rfl

theorem tokens_push {identifier : String} (h : IsWord identifier) :
    Code.tokens (push identifier).code = (push identifier).tokens := by
  unfold code
  simp only [String.append_assoc]
  rw [Code.tokens_append_word (by decide) rfl h rfl]
  rfl

theorem tokens_code : ∀ {r : Registration}, r.Fits → Code.tokens r.code = r.tokens
  | declareArray, _ => by decide
  | blank, _ => rfl
  | allocate size, _ => tokens_allocate size
  | assign index _, h => tokens_assign index h.1
  | push _, h => tokens_push h
  | announce, _ => by decide

/-! ## Reading lines -/

/-- The statements that a line stands for. -/
def statements : Registration → List Solidity.Statement
  | declareArray => [.declare]
  | blank => []
  | allocate size => [.allocate size]
  | assign index literal => ((Literal.read? literal).map (.assign index)).toList
  | push identifier => [.push identifier]
  | announce => [.announce]

theorem readStatements_tokens {r : Registration} (h : r.Fits) (rest : List Token) :
    Solidity.readStatements (r.tokens ++ rest) =
      (Solidity.readStatements rest).map (r.statements ++ ·) := by
  cases r with
  | declareArray => exact Solidity.readStatements_declare rest
  | blank => exact Option.map_id'.symm
  | allocate size => exact Solidity.readStatements_allocate (Code.read?_toString size) rest
  | assign index literal =>
      obtain ⟨-, value, read⟩ := h
      rw [statements, read]
      exact Solidity.readStatements_assign (Code.read?_toString index) read rest
  | push identifier => exact Solidity.readStatements_push identifier rest
  | announce => exact Solidity.readStatements_announce rest

theorem readStatements_lines : ∀ {rs : List Registration}, (∀ r ∈ rs, r.Fits) →
    Solidity.readStatements (rs.flatMap tokens) = some (rs.flatMap statements)
  | [], _ => rfl
  | r :: rs, h => by
      rw [List.flatMap_cons, readStatements_tokens (h r List.mem_cons_self),
        readStatements_lines fun q hq => h q (List.mem_cons_of_mem r hq), List.flatMap_cons]
      rfl

end Registration

/-! ## The lines of a table -/

variable {router : String} {filter : FunctionFilter} {modules : List Module} {ss : List Selector}
  {ids : Identifiers}

/-- The lines that register a module. -/
def facetLines (ids : Identifiers) (filter : FunctionFilter) (m : Module) : List Registration :=
  [.blank, .allocate (m.routed filter).length]
    ++ (m.routed filter).zipIdx.map (fun (s, i) => .assign i s.literal)
    ++ [.push (identifierOf ids m.name)]

def constructorLines (ids : Identifiers) (filter : FunctionFilter) (modules : List Module) :
    List Registration :=
  .declareArray :: (modules.flatMap (facetLines ids filter) ++ [.blank, .announce])

/-- The facets of a table have the constants of their modules. -/
theorem mapM_require_facets (named : Named ids modules) :
    (modules.map (FacetTable.facet filter)).mapM (fun facet => Constant.require ids facet.module) =
      .ok (modules.map fun m => identifierOf ids m.name) := by
  rw [List.mapM_map]
  exact mapM_eq_ok_map fun m hm => Constant.require_eq_ok (named.declarable m hm).named

theorem assignments_eq (ss : List Selector) :
    ((ss.map Selector.literal).zipIdx.map fun (literal, i) => Registration.assign i literal) =
      ss.zipIdx.map fun (s, i) => .assign i s.literal := by
  rw [List.zipIdx_map, List.map_map]
  rfl

theorem ofTable_eq_ok (named : Named ids modules)
    (selectors : ∀ m ∈ modules, m.selectors filter = .ok (m.routed filter)) :
    Registration.ofTable ids (modules.map (FacetTable.facet filter)) =
      .ok (constructorLines ids filter modules) := by
  have each : (modules.map (FacetTable.facet filter)).mapM (Registration.ofFacet ids) =
      .ok (modules.map (facetLines ids filter)) := by
    rw [List.mapM_map]
    refine mapM_eq_ok_map fun m hm => ?_
    have required := Constant.require_eq_ok (named.declarable m hm).named
    show Registration.ofFacet ids (FacetTable.facet filter m) = _
    rw [Registration.ofFacet, FacetTable.facet, FacetTable.emitted_routed (selectors m hm),
      required]
    show Except.ok (_ ++ ((m.routed filter).map Selector.literal).zipIdx.map _ ++ _) = _
    rw [assignments_eq]
    rfl
  rw [Registration.ofTable, each]
  rfl

theorem fits_facetLines (h : Emittable router filter modules ss) (named : Named ids modules)
    {m : Module} (hm : m ∈ modules) : ∀ r ∈ facetLines ids filter m, r.Fits := by
  intro r hr
  simp only [facetLines, List.mem_append, List.mem_cons, List.not_mem_nil, or_false] at hr
  rcases hr with ((rfl | rfl) | hr) | rfl
  · exact trivial
  · exact trivial
  · obtain ⟨⟨s, i⟩, hs, rfl⟩ := List.mem_map.mp hr
    have routed : s ∈ m.routed filter := List.fst_mem_of_mem_zipIdx hs
    have range := (h.writable named s (h.accepted.mem_iff.mpr ⟨m, hm, routed⟩)).inRange
    exact ⟨Code.isWord_methodIdLiteral _, _, Code.read?_literal range⟩
  · exact (named.declarable m hm).word

theorem fits_constructorLines (h : Emittable router filter modules ss)
    (named : Named ids modules) : ∀ r ∈ constructorLines ids filter modules, r.Fits := by
  intro r hr
  simp only [constructorLines, List.mem_append, List.mem_cons, List.mem_flatMap,
    List.not_mem_nil, or_false] at hr
  rcases hr with rfl | ⟨m, hm, hr⟩ | rfl | rfl
  · exact trivial
  · exact fits_facetLines h named hm r hr
  · exact trivial
  · exact trivial

/-- The constructor reads line by line. -/
theorem tokens_constructorLines (fits : ∀ r ∈ constructorLines ids filter modules, r.Fits) :
    Code.tokens (Text.strip (Text.joinLines
        ((constructorLines ids filter modules).map Registration.text))) =
      (constructorLines ids filter modules).flatMap Registration.tokens := by
  have ends : (constructorLines ids filter modules).getLast? = some .announce := by
    rw [constructorLines, List.getLast?_cons, List.getLast?_append]
    rfl
  have texts : Registration.text = fun r => Text.indent r.level ++ r.code :=
    funext Registration.text_eq
  have head : Registration.declareArray.code.toList.head? = some 'b' := by decide
  have tail : Registration.announce.code.toList.getLast? = some ';' := by decide
  have read : Code.tokens (Text.strip (Text.joinLines ((constructorLines ids filter modules).map
      fun r => Text.indent r.level ++ r.code))) =
        (constructorLines ids filter modules).flatMap fun r => Code.tokens r.code :=
    Code.tokens_strip_joinLines head rfl ends tail rfl
  rw [texts, read]
  exact List.flatMap_congr fun r hr => Registration.tokens_code (fits r hr)

/-! ## The run of the constructor -/

/-- The statements that register a module. -/
def facetProgram (ids : Identifiers) (filter : FunctionFilter) (m : Module) :
    List Solidity.Statement :=
  .allocate (m.routed filter).length
    :: ((m.routed filter).zipIdx.map fun (s, i) => .assign i (Literal.ofSelector s))
    ++ [.push (identifierOf ids m.name)]

/-- The cells of a module's array, each written once. -/
def cells (filter : FunctionFilter) (m : Module) : List (List Literal) :=
  (m.routed filter).map fun s => [Literal.ofSelector s]

theorem statements_facetLines (h : Emittable router filter modules ss) (named : Named ids modules)
    {m : Module} (hm : m ∈ modules) :
    (facetLines ids filter m).flatMap Registration.statements = facetProgram ids filter m := by
  have assignments : ((m.routed filter).zipIdx.map fun (s, i) =>
      Registration.assign i s.literal).flatMap Registration.statements =
        (m.routed filter).zipIdx.map fun (s, i) => .assign i (Literal.ofSelector s) := by
    rw [List.flatMap_map, List.map_eq_flatMap]
    refine List.flatMap_congr fun (s, i) hs => ?_
    have routed : s ∈ m.routed filter := List.fst_mem_of_mem_zipIdx hs
    have range := (h.writable named s (h.accepted.mem_iff.mpr ⟨m, hm, routed⟩)).inRange
    show ((Literal.read? s.literal).map _).toList = _
    rw [Code.read?_literal range]
    rfl
  rw [facetLines, facetProgram, List.flatMap_append, List.flatMap_append, assignments]
  rfl

theorem run_facetProgram (m : Module) (array : List (List Literal))
    (facets : List (String × List (List Literal))) (announced : Nat) :
    Store.run ⟨some array, facets, announced⟩ (facetProgram ids filter m) =
      some ⟨some (cells filter m), facets ++ [(identifierOf ids m.name, cells filter m)],
        announced⟩ := by
  -- a new array has no written cell before the first assignment
  have filled := Store.run_assignments facets announced
    ((m.routed filter).map Literal.ofSelector) []
  rw [List.length_map, List.nil_append, List.nil_append, List.length_nil, List.zipIdx_map,
    List.map_map, List.map_map] at filled
  have assigned : Store.run ⟨some array, facets, announced⟩
      (.allocate (m.routed filter).length :: (m.routed filter).zipIdx.map fun (s, i) =>
        .assign i (Literal.ofSelector s)) = some ⟨some (cells filter m), facets, announced⟩ :=
    filled
  rw [facetProgram, Store.run_append, assigned]
  rfl

/-- Each module adds its facet to the registry. -/
theorem run_facetPrograms (ids : Identifiers) (filter : FunctionFilter) (announced : Nat) :
    ∀ (modules : List Module) (array : List (List Literal))
      (facets : List (String × List (List Literal))),
    ∃ last, Store.run ⟨some array, facets, announced⟩
        (modules.flatMap (facetProgram ids filter)) =
      some ⟨some last, facets ++ modules.map fun m => (identifierOf ids m.name, cells filter m),
        announced⟩
  | [], array, facets => ⟨array, by rw [List.map_nil, List.append_nil]; rfl⟩
  | m :: modules, array, facets => by
      obtain ⟨last, rest⟩ := run_facetPrograms ids filter announced modules (cells filter m)
        (facets ++ [(identifierOf ids m.name, cells filter m)])
      refine ⟨last, ?_⟩
      rw [List.flatMap_cons, Store.run_append, run_facetProgram, Option.bind_some, rest,
        List.append_assoc]
      rfl

/-- **The run of the constructor** registers one facet for each module, in their order. -/
theorem execute_constructorText (h : Emittable router filter modules ss)
    (named : Named ids modules) : ∃ text store,
      constructorText ids (modules.map (FacetTable.facet filter)) = .ok text ∧
        Solidity.execute text = some store ∧ store.announced = 1 ∧
        store.facets = modules.map fun m => (identifierOf ids m.name, cells filter m) := by
  have fits := fits_constructorLines h named
  have statements : (constructorLines ids filter modules).flatMap Registration.statements =
      .declare :: (modules.flatMap (facetProgram ids filter) ++ [.announce]) := by
    rw [constructorLines, List.flatMap_cons, List.flatMap_append, List.flatMap_assoc,
      List.flatMap_congr fun m hm => statements_facetLines h named hm]
    rfl
  -- the array that is declared first is never pushed
  obtain ⟨last, run⟩ := run_facetPrograms ids filter 0 modules [] []
  have text : constructorText ids (modules.map (FacetTable.facet filter)) =
      .ok (Text.strip (Text.joinLines
        ((constructorLines ids filter modules).map Registration.text))) := by
    rw [constructorText, ofTable_eq_ok named h.accepted.selectors]
    rfl
  refine ⟨_, ⟨some last, _, 1⟩, text, ?_, rfl, rfl⟩
  rw [Solidity.execute, tokens_constructorLines fits, Registration.readStatements_lines fits,
    statements]
  show Store.run ⟨some [], [], 0⟩ _ = _
  rw [Store.run_append, run]
  rfl

/-! ## The registry and the switch -/

/-- The pairs of the registry are the cases of the selectors of all modules. -/
theorem pairs_eq (h : Emittable router filter modules ss) {store : Store}
    (facets : store.facets = modules.map fun m => (identifierOf ids m.name, cells filter m)) :
    store.pairs = (modules.flatMap (routed filter)).map (Dispatch.caseOf ids) := by
  rw [Store.pairs, facets, List.flatMap_map, List.map_flatMap]
  refine List.flatMap_congr fun m hm => ?_
  have selectors := h.accepted.selectors m hm
  have once : ∀ ss : List Selector, (ss.map fun s => [Literal.ofSelector s]).flatten =
      ss.map Literal.ofSelector := by
    intro ss
    rw [← List.flatMap_def, List.map_eq_flatMap]
  show ((cells filter m).flatten.map _) = _
  rw [cells, once, List.map_map]
  refine List.map_congr_left fun s hs => ?_
  rw [Dispatch.caseOf, Module.module_of_mem_routed selectors hs]
  rfl

/-- The cases of a program are those of the tree, from left to right. -/
theorem casesOf_program {limit : Int} {t : Dispatch.Tree} (shaped : t.Shaped limit) :
    Yul.casesOf (Dispatch.program ids t) = t.inOrder.map (Dispatch.caseOf ids) := by
  induction shaped with
  | leaf _ _ =>
      rw [Dispatch.Tree.inOrder_leaf, Dispatch.program]
      simp only [Yul.casesOf, Yul.Statement.cases, List.append_nil]
  | inner _ _ ihl ihr =>
      rw [Dispatch.Tree.inOrder_inner, List.map_append, ← ihl, ← ihr, Dispatch.program,
        Yul.casesOf, Yul.Statement.cases]

theorem nodup_cases (h : Emittable router filter modules ss) :
    (ss.map (Dispatch.caseOf ids)).Nodup := by
  refine List.pairwise_map.mpr (h.accepted.ascending.imp_of_mem fun {s t} hs ht lt same => ?_)
  have rangeS := h.accepted.inRange s hs
  have rangeT := h.accepted.inRange t ht
  have value : s.methodId.toNat = t.methodId.toNat := congrArg (fun c => c.1.value) same
  omega

/-- **The registry agrees with the switch.** The constructor's run is defined, so it never
writes out of bounds. It pushes one facet for each module, in their order, with the
identifier of the module and an array whose cells were each written once, with the
selectors of the module in the order of its ABI. The pairs it pushes are the cases of the
switch, each exactly once. -/
theorem registry_agrees (h : Emittable router filter modules ss) :
    ∃ ids table constructor store tree switch cases,
      Constant.identifiers (modules.map (·.name)) = .ok ids ∧
      FacetTable.ofModules filter modules = .ok table ∧
      constructorText ids table = .ok constructor ∧
      Solidity.execute constructor = some store ∧
      store.facets.length = modules.length ∧
      (∀ (i : Nat) (m : Module), modules[i]? = some m → ∃ id selectors,
        Constant.lookup ids m.name = .ok (some id) ∧ m.selectors filter = .ok selectors ∧
          store.facets[i]? = some (id, selectors.map fun s => [Literal.ofSelector s])) ∧
      Dispatch.Tree.build Dispatch.defaultLeafSize ss = .ok tree ∧
      Dispatch.switchText ids tree = .ok switch ∧
      (Yul.read switch).map Yul.casesOf = some cases ∧
      (∀ pair ∈ store.pairs, cases.count pair = 1) ∧ ∀ pair ∈ cases, pair ∈ store.pairs := by
  obtain ⟨ids, identifiers, named⟩ := h.named
  obtain ⟨constructor, store, text, execute, -, facets⟩ := execute_constructorText h named
  obtain ⟨tree, built, shaped, inOrder⟩ := h.tree
  have writable : ∀ s ∈ tree.inOrder, Dispatch.Writable ids s := inOrder ▸ h.writable named
  have read := Dispatch.read_render shaped writable Dispatch.Switch.baseLevel
  have cases : Yul.casesOf (Dispatch.program ids tree) = ss.map (Dispatch.caseOf ids) := by
    rw [casesOf_program shaped, inOrder]
  have pairs := pairs_eq h facets
  have same : store.pairs.Perm (ss.map (Dispatch.caseOf ids)) := by
    rw [pairs]
    exact (h.accepted.perm.map _).symm
  refine ⟨ids, _, constructor, store, tree, _, ss.map (Dispatch.caseOf ids), identifiers,
    FacetTable.ofModules_eq_ok h.accepted, text, execute, ?_, ?_, built,
    Dispatch.switchText_eq shaped writable, ?_, ?_, ?_⟩
  · rw [facets, List.length_map]
  · intro i m hi
    have hm : m ∈ modules := List.mem_of_getElem? hi
    refine ⟨_, _, (named.declarable m hm).named, h.accepted.selectors m hm, ?_⟩
    rw [facets, List.getElem?_map, hi]
    rfl
  · rw [read, Option.map_some, cases]
  · intro pair hpair
    exact List.count_eq_one_of_mem (nodup_cases h) (same.mem_iff.mp hpair)
  · intro pair hpair
    exact same.mem_iff.mpr hpair

/-- The exchange registers three facets, the first with an empty array and the last with the
functions of the pool in their own order. Each pair of the registry is one of the cases behind
the guard of its switch. -/
theorem registry_exchange : ∃ ids table constructor store switch cases,
    FacetTable.ofModules .all Module.exchange = .ok table ∧
    constructorText ids table = .ok constructor ∧ Solidity.execute constructor = some store ∧
    store.facets.length = 3 ∧ (∃ id, store.facets[0]? = some (id, [])) ∧
    (∃ id, store.facets[2]? = some (id, Module.poolFunctions.map fun f =>
      [Literal.ofSelector (Module.plainSelector "Pool" f)])) ∧
    Dispatch.switchText ids (.node [] [.leaf (Module.exchangeSelectors.take 5),
      .leaf (Module.exchangeSelectors.drop 5)]) = .ok switch ∧
    (Yul.read switch).map Yul.casesOf = some cases ∧
    ∀ pair ∈ store.pairs, cases.count pair = 1 := by
  obtain ⟨ids, table, constructor, store, tree, switch, cases, -, made, text, execute, length,
    facets, built, switched, read, once, -⟩ := registry_agrees Emittable.exchange
  obtain rfl := Except.ok.inj (Module.build_exchange.symm.trans built)
  obtain ⟨proxy, none_selected, -, selected, first⟩ := facets 0 _ rfl
  obtain rfl := Except.ok.inj ((Module.selectors_plain _ _ _).symm.trans selected)
  obtain ⟨pool, five, -, selected, last⟩ := facets 2 _ rfl
  obtain rfl := Except.ok.inj ((Module.selectors_plain _ _ _).symm.trans selected)
  rw [List.map_map] at last
  exact ⟨ids, table, constructor, store, switch, cases, made, text, execute, length,
    ⟨proxy, first⟩, ⟨pool, last⟩, switched, read, once⟩

end SelectorRouter.Diamond
