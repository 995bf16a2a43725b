import Mathlib.Data.List.Basic
import SelectorRouter.Template.Router

/-!
# The built-in contract

What the built-in template reads as, and the text it renders to: its fixed parts with the
slots between them. The constructor and the diamond layer stand there when their slots
are not empty. Whatever the slots hold, rendering ends in this text.
-/

namespace SelectorRouter

theorem Text.joinLines_eq_ofList (ls : List String) :
    joinLines ls = String.ofList (List.intercalate ['\n'] (ls.map String.toList)) := by
  have newline : "\n".toList = ['\n'] := by decide
  rw [← String.toList_inj, joinLines, String.toList_intercalate, newline]
  exact String.toList_ofList.symm

namespace Template

/-! ## The fixed parts -/

def headPart : List String :=
  ["//SPDX-License-Identifier: MIT",
    "pragma solidity ^0.8.0;",
    "",
    "// GENERATED CODE - do not edit manually!!",
    "// --------------------------------------------------------------------------------",
    "// --------------------------------------------------------------------------------",
    "",
    "contract "]

def errorPart : List String :=
  [" \x7b",
    "    error UnknownSelector(bytes4 sel);",
    "",
    "    "]

def constructorHead : List String :=
  ["",
    "    constructor() \x7b",
    "        "]

def constructorTail : List String :=
  ["",
    "    \x7d",
    ""]

def fallbackPart : List String :=
  ["",
    "    fallback() external payable \x7b",
    "        _forward();",
    "    \x7d",
    ""]

def forwardPart : List String :=
  ["",
    "    function _forward() internal \x7b",
    "        // Lookup table: Function selector => implementation contract",
    "        bytes4 sig4 = msg.sig;",
    "        address implementation;",
    "",
    "        assembly \x7b",
    "            let sig32 := shr(224, sig4)",
    "",
    "            function findImplementation(sig) -> result \x7b",
    "                "]

def deliveryPart : List String :=
  ["",
    "            \x7d",
    "",
    "            implementation := findImplementation(sig32)",
    "        \x7d",
    "",
    "        if (implementation == address(0)) \x7b",
    "            revert UnknownSelector(sig4);",
    "        \x7d",
    "",
    "        // Delegatecall to the implementation contract",
    "        assembly \x7b",
    "            calldatacopy(0, 0, calldatasize())",
    "",
    "            let result := delegatecall(gas(), implementation, 0, calldatasize(), 0, 0)",
    "            returndatacopy(0, 0, returndatasize())",
    "",
    "            switch result",
    "            case 0 \x7b",
    "                revert(0, returndatasize())",
    "            \x7d",
    "            default \x7b",
    "                return(0, returndatasize())",
    "            \x7d",
    "        \x7d",
    "    \x7d",
    ""]

def lineEnd : List String := ["", ""]

def contractTail : List String := ["\x7d", ""]

/-! ## Reading the template -/

/-- The tokens of the template; a fixed part is the text of its lines. -/
def routerTokens : List Token :=
  let part (ls : List String) : Token :=
    .text (String.ofList (List.intercalate ['\n'] (ls.map String.toList)))
  let slot (name : String) : Token := .output [.name name]
  [part headPart, slot "moduleName", part errorPart, slot "modules", part lineEnd,
    .block [.name "if", .name "diamondConstructor"],
    part constructorHead, slot "diamondConstructor", part constructorTail,
    .block [.name "endif"],
    part fallbackPart, slot "receive", part forwardPart, slot "selectors", part deliveryPart,
    .block [.name "if", .name "diamondCompat"], slot "diamondCompat", part lineEnd,
    .block [.name "endif"], part contractTail]

set_option maxRecDepth 20000 in
theorem tokens?_router : tokens? router = some routerTokens := by
  rw [tokens?, router, Text.joinLines_eq_ofList, String.toList_ofList]
  simp only [routerTokens, routerLines, headPart, errorPart, constructorHead, constructorTail,
    fallbackPart, forwardPart, deliveryPart, lineEnd, contractTail, List.map_cons, List.map_nil]
  -- literals become lists of characters before anything is computed
  repeat rw [String.toList_ofList]
  rfl

/-- The nodes of the template. -/
def routerNodes : List Node :=
  let part (ls : List String) : Node :=
    .text (String.ofList (List.intercalate ['\n'] (ls.map String.toList)))
  let slot (name : String) : Node := .output (.name name)
  [part headPart, slot "moduleName", part errorPart, slot "modules", part lineEnd,
    .branch (.name "diamondConstructor")
      [part constructorHead, slot "diamondConstructor", part constructorTail] [],
    part fallbackPart, slot "receive", part forwardPart, slot "selectors", part deliveryPart,
    .branch (.name "diamondCompat") [slot "diamondCompat", part lineEnd] [],
    part contractTail]

theorem nodes?_routerTokens : nodes? routerTokens = some routerNodes := by
  rfl

theorem parse_router : parse router = .ok routerNodes := by
  rw [parse, tokens?_router]
  simp only [nodes?_routerTokens]
  rfl

/-! ## Rendering the template -/

theorem firstUses_routerNodes : firstUses routerNodes =
    ["moduleName", "modules", "diamondConstructor", "receive", "selectors", "diamondCompat"] := by
  rfl

/-- No two slots of the template are the same identifier. -/
theorem representative_routerNodes : ∀ name ∈ firstUses routerNodes,
    representative (firstUses routerNodes) name = name := by
  rw [firstUses_routerNodes]
  decide

/-- The values of the template's names, in the order of their first use. -/
theorem bindings_routerNodes (s : Sections) : bindings s.slots routerNodes =
    [("moduleName", s.moduleName), ("modules", .str s.modules),
      ("diamondConstructor", .str s.diamondConstructor), ("receive", .str s.receive),
      ("selectors", .str s.selectors), ("diamondCompat", .str s.diamondCompat)] := by
  have named : bindings s.slots routerNodes = (firstUses routerNodes).filterMap fun name =>
      (value? s.slots name).map fun value => (name, value) := by
    refine List.filterMap_congr fun name hname => ?_
    rw [representative_routerNodes name hname]
  rw [named, firstUses_routerNodes]
  rfl

/-- A part that stands in the contract when its slot is not empty. -/
def optionalPart (slot text : String) : String :=
  if slot.isEmpty then "" else text

/-- The contract that the built-in template makes of its slots. -/
def Sections.contract (s : Sections) : String :=
  Text.joinLines headPart ++ s.moduleName.display ++ Text.joinLines errorPart ++ s.modules
    ++ Text.joinLines lineEnd
    ++ optionalPart s.diamondConstructor
      (Text.joinLines constructorHead ++ s.diamondConstructor ++ Text.joinLines constructorTail)
    ++ Text.joinLines fallbackPart ++ s.receive ++ Text.joinLines forwardPart ++ s.selectors
    ++ Text.joinLines deliveryPart
    ++ optionalPart s.diamondCompat (s.diamondCompat ++ Text.joinLines lineEnd)
    ++ Text.joinLines contractTail

variable {slots : Slots} {rest : List Node} {others : String}

theorem renderNodes_text (t : String) (h : renderNodes slots rest = .ok others) :
    renderNodes slots (.text t :: rest) = .ok (t ++ others) := by
  rw [renderNodes, Node.render, h]
  rfl

theorem renderNodes_last (t : String) : renderNodes slots [.text t] = .ok t := by
  have nothing : renderNodes slots [] = .ok "" := by rw [renderNodes]
  rw [renderNodes_text t nothing, String.append_empty]

theorem renderNodes_value {name : String} {v : Json} (found : slots.lookup name = some v)
    (h : renderNodes slots rest = .ok others) :
    renderNodes slots (.output (.name name) :: rest) = .ok (v.display ++ others) := by
  rw [renderNodes, Node.render, Expr.eval, found, h]
  rfl

theorem renderNodes_slot {name slot : String} (found : slots.lookup name = some (.str slot))
    (h : renderNodes slots rest = .ok others) :
    renderNodes slots (.output (.name name) :: rest) = .ok (slot ++ others) :=
  renderNodes_value found h

theorem renderNodes_optional {name slot text : String} {yes : List Node}
    (found : slots.lookup name = some (.str slot)) (inner : renderNodes slots yes = .ok text)
    (h : renderNodes slots rest = .ok others) :
    renderNodes slots (.branch (.name name) yes [] :: rest) =
      .ok (optionalPart slot text ++ others) := by
  rw [renderNodes, Node.render, Expr.eval, found, optionalPart]
  cases empty : slot.isEmpty with
  | true =>
      simp only [bind, Except.bind, Json.truthy, empty, h, renderNodes]
      rfl
  | false =>
      simp only [bind, Except.bind, Json.truthy, empty, h, inner]
      rfl

theorem renderNodes_routerNodes (s : Sections) :
    renderNodes (bindings s.slots routerNodes) routerNodes = .ok s.contract := by
  rw [bindings_routerNodes, routerNodes]
  simp only [← Text.joinLines_eq_ofList, Sections.contract, String.append_assoc]
  apply renderNodes_text
  apply renderNodes_value rfl
  apply renderNodes_text
  apply renderNodes_slot rfl
  apply renderNodes_text
  apply renderNodes_optional rfl
  · apply renderNodes_text
    apply renderNodes_slot rfl
    exact renderNodes_last _
  apply renderNodes_text
  apply renderNodes_slot rfl
  apply renderNodes_text
  apply renderNodes_slot rfl
  apply renderNodes_text
  apply renderNodes_optional rfl
  · apply renderNodes_slot rfl
    exact renderNodes_last _
  exact renderNodes_last _

/-- **The built-in template always renders**, to the contract of its slots. -/
theorem render_router (s : Sections) : render router s.slots = .ok s.contract := by
  have unreserved : holdsSlot s.slots "template" = false ∧ holdsSlot s.slots selfName = false :=
    ⟨rfl, rfl⟩
  rw [render, unreserved.1, parse_router]
  simp only [bind, Except.bind, unreserved.2, renderNodes_routerNodes]
  rfl

end Template

end SelectorRouter
