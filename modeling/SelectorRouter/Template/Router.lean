import SelectorRouter.Template.Node

/-!
# The router contract

The template of the generated contract. It has six slots; the constructor and the
diamond layer are left out when their slots are empty.
-/

namespace SelectorRouter.Template

def routerLines : List String :=
  ["//SPDX-License-Identifier: MIT",
    "pragma solidity ^0.8.0;",
    "",
    "// GENERATED CODE - do not edit manually!!",
    "// --------------------------------------------------------------------------------",
    "// --------------------------------------------------------------------------------",
    "",
    "contract \x7b\x7b moduleName \x7d\x7d \x7b",
    "    error UnknownSelector(bytes4 sel);",
    "",
    "    \x7b\x7b modules \x7d\x7d",
    "\x7b% if diamondConstructor %\x7d",
    "",
    "    constructor() \x7b",
    "        \x7b\x7b diamondConstructor \x7d\x7d",
    "    \x7d",
    "\x7b% endif %\x7d",
    "",
    "    fallback() external payable \x7b",
    "        _forward();",
    "    \x7d",
    "\x7b\x7b receive \x7d\x7d",
    "    function _forward() internal \x7b",
    "        // Lookup table: Function selector => implementation contract",
    "        bytes4 sig4 = msg.sig;",
    "        address implementation;",
    "",
    "        assembly \x7b",
    "            let sig32 := shr(224, sig4)",
    "",
    "            function findImplementation(sig) -> result \x7b",
    "                \x7b\x7b selectors \x7d\x7d",
    "            \x7d",
    "",
    "            implementation := findImplementation(sig32)",
    "        \x7d",
    "",
    "        if (implementation == address(0)) \x7b",
    "            revert UnknownSelector(sig4);",
    "        \x7d",
    "",
    "        // Delegatecall to the implementation contract",
    "        assembly \x7b",
    "            calldatacopy(0, 0, calldatasize())",
    "",
    "            let result := delegatecall(gas(), implementation, 0, calldatasize(), 0, 0)",
    "            returndatacopy(0, 0, returndatasize())",
    "",
    "            switch result",
    "            case 0 \x7b",
    "                revert(0, returndatasize())",
    "            \x7d",
    "            default \x7b",
    "                return(0, returndatasize())",
    "            \x7d",
    "        \x7d",
    "    \x7d",
    "\x7b% if diamondCompat %\x7d",
    "\x7b\x7b diamondCompat \x7d\x7d",
    "\x7b% endif %\x7d",
    "\x7d",
    ""]

/-- The template that is used when none is given. -/
def router : String :=
  Text.joinLines routerLines

/-- The texts that a router template puts together. -/
structure Sections where
  moduleName : Json
  modules : String
  selectors : String
  receive : String
  diamondConstructor : String
  diamondCompat : String
  deriving Repr

def Sections.slots (s : Sections) : Slots :=
  [("moduleName", s.moduleName), ("modules", .str s.modules),
    ("selectors", .str s.selectors), ("receive", .str s.receive),
    ("diamondConstructor", .str s.diamondConstructor),
    ("diamondCompat", .str s.diamondCompat)]

end SelectorRouter.Template
